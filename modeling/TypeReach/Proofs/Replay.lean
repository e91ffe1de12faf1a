import TypeReach.Proofs.Stretch

/-!
# Replays

A survey that runs again, from the marks that an earlier one left and along courses that have grown
since, comes to the same as one that runs along the grown courses from where the earlier one
started: it passes over what was completed, opens the failing path again and goes on from there.
-/

namespace TypeReach

variable {δ : Type}

namespace Course

/-- One course is another one, or stops and begins it. -/
def Grows (a b : Course δ) : Prop :=
  a = b ∨ (a.stop ≠ none ∧ a.visits <+: b.visits)

variable {β : Type} {a a' b b' : Course δ}

theorem Grows.refl (a : Course δ) : Grows a a := .inl rfl

theorem Grows.eq (h : Grows a b) (hs : a.stop = none) : a = b := by
  rcases h with rfl | ⟨hn, -⟩
  · rfl
  · exact absurd hs hn

theorem Grows.visits (h : Grows a b) : a.visits <+: b.visits := by
  rcases h with rfl | ⟨-, hp⟩
  · exact List.prefix_refl _
  · exact hp

theorem grows_fail (fault : Fault) (b : Course δ) : Grows (fail fault) b :=
  .inr ⟨by simp [fail], List.nil_prefix⟩

theorem Grows.andThen (h : Grows a a') (h' : Grows b b') :
    Grows (a.andThen b) (a'.andThen b') := by
  cases hs : a.stop with
  | none =>
    cases h.eq hs
    rw [andThen_of_stop_eq_none hs, andThen_of_stop_eq_none hs]
    rcases h' with rfl | ⟨hn, hp⟩
    · exact .refl _
    · exact .inr ⟨hn, (List.prefix_append_right_inj _).2 hp⟩
  | some fault =>
    rw [andThen_of_stop_ne_none (by simp [hs])]
    rcases h with rfl | ⟨hn, hp⟩
    · rw [andThen_of_stop_ne_none (by simp [hs])]
      exact .refl _
    · refine .inr ⟨hn, ?_⟩
      cases hs' : a'.stop with
      | none =>
        rw [andThen_of_stop_eq_none hs']
        exact hp.trans (List.prefix_append _ _)
      | some fault =>
        rw [andThen_of_stop_ne_none (by simp [hs'])]
        exact hp

theorem Grows.all {f g : β → Course δ} (h : ∀ x, Grows (f x) (g x)) (xs : List β) :
    Grows (Course.all f xs) (Course.all g xs) := by
  induction xs with
  | nil => exact .refl _
  | cons x xs ih => exact (h x).andThen ih

/-- A course grows if an answer that was a fault becomes any other. -/
theorem Grows.after {x y : Except Fault β} {f g : β → Course δ}
    (hxy : ∀ v, x = .ok v → y = .ok v) (h : ∀ v, Grows (f v) (g v)) :
    Grows (Course.after x f) (Course.after y g) := by
  cases x with
  | ok v =>
    rw [hxy v rfl]
    exact h v
  | error fault => exact grows_fail fault _

end Course

/-- The same types are marked. -/
def SameMarks (s t : Track δ) : Prop := ∀ d, d ∈ s.marked ↔ d ∈ t.marked

theorem SameMarks.refl (t : Track δ) : SameMarks t t := fun _ => Iff.rfl

theorem SameMarks.enter {s t : Track δ} (h : SameMarks s t) (d : δ) :
    SameMarks (s.enter d) (t.enter d) := by
  intro x
  simp [h x]

/-- Two tours ended in the same way and with the same types marked. -/
inductive Alike : EStateM.Result Fault (Track δ) Unit → EStateM.Result Fault (Track δ) Unit → Prop
  | ok {s t} : SameMarks s t → Alike (.ok () s) (.ok () t)
  | error {fault s t} : SameMarks s t → Alike (.error fault s) (.error fault t)

/-- Where a tour ended. -/
def final : EStateM.Result Fault (Track δ) Unit → Track δ
  | .ok _ t => t
  | .error _ t => t

theorem Alike.final {r r' : EStateM.Result Fault (Track δ) Unit} (h : Alike r r') :
    SameMarks (final r) (final r') := by
  cases h with
  | ok h => exact h
  | error h => exact h

theorem Alike.onward {r r' : EStateM.Result Fault (Track δ) Unit} {next next' : Tour δ}
    (h : Alike r r') (hn : ∀ s t, SameMarks s t → Alike (next s) (next' t)) :
    Alike (TypeReach.onward r next) (TypeReach.onward r' next') := by
  cases h with
  | ok h => exact hn _ _ h
  | error h => exact .error h

theorem alike_stop (stop : Option Fault) {s t : Track δ} (h : SameMarks s t) :
    Alike (match stop with | none => .ok () s | some fault => .error fault s)
      (match stop with | none => .ok () t | some fault => .error fault t) := by
  cases stop with
  | none => exact .ok h
  | some fault => exact .error h

section

variable {visit visit' : δ → Tour δ}

/-- A visit depends on which types are marked only. -/
def Respects (visit : δ → Tour δ) : Prop :=
  ∀ d s t, SameMarks s t → Alike (visit d s) (visit d t)

theorem alike_visitAll (h : Respects visit) (ds : List δ) {s t : Track δ} (hst : SameMarks s t) :
    Alike (visitAll visit ds s) (visitAll visit ds t) := by
  induction ds generalizing s t with
  | nil => exact .ok hst
  | cons d ds ih => exact (h d s t hst).onward fun _ _ => ih

theorem alike_run (h : Respects visit) (c : Course δ) {s t : Track δ} (hst : SameMarks s t) :
    Alike (c.run visit s) (c.run visit t) :=
  (alike_visitAll h c.visits hst).onward fun _ _ => alike_stop c.stop

theorem final_run (visit : δ → Tour δ) (c : Course δ) (s : Track δ) :
    final (c.run visit s) = final (visitAll visit c.visits s) := by
  rw [Course.run]
  cases visitAll visit c.visits s with
  | error fault t => rfl
  | ok _ t =>
    rw [onward_ok]
    cases c.stop <;> rfl

/-- Where one visit succeeds, the other one does the same. -/
def Extends (visit visit' : δ → Tour δ) : Prop :=
  ∀ d s t, visit d s = .ok () t → visit' d s = .ok () t

theorem visitAll_eq_ok_of_extends (h : Extends visit visit') {ds : List δ} {s t : Track δ}
    (hs : visitAll visit ds s = .ok () t) : visitAll visit' ds s = .ok () t := by
  induction ds generalizing s with
  | nil => exact hs
  | cons d ds ih =>
    rw [visitAll] at hs ⊢
    cases hd : visit d s with
    | error fault u => simp [hd] at hs
    | ok _ u =>
      rw [hd, onward_ok] at hs
      rw [h d s u hd, onward_ok]
      exact ih hs

/-- A course that succeeds has not grown. -/
theorem run_eq_ok_of_extends (h : Extends visit visit') {c c' : Course δ} (grows : c.Grows c')
    {s t : Track δ} (hs : c.run visit s = .ok () t) : c'.run visit' s = .ok () t := by
  rw [Course.run] at hs
  cases hv : visitAll visit c.visits s with
  | error fault u => simp [hv] at hs
  | ok _ u =>
    cases hstop : c.stop with
    | some fault => simp [hv, hstop] at hs
    | none =>
      rw [hv, onward_ok, hstop] at hs
      rw [← grows.eq hstop, Course.run, visitAll_eq_ok_of_extends h hv, onward_ok, hstop]
      exact hs

end

section

variable [DecidableEq δ] {course course' : δ → Course δ} {leaving leaving' : δ → Fault → Fault}
  {n : Nat} {d : δ} {s t : Track δ}

/-- Rolling back an open type takes away its mark and no other. -/
theorem mem_marked_rollBack (hd : d ∉ s.marked) {fault : Fault}
    (h : (course d).run (survey course leaving n) (s.enter d) = .error fault t) (x : δ) :
    x ∈ (t.rollBack d).marked ↔ x ∈ t.marked ∧ x ≠ d := by
  obtain ⟨kept, path, hk⟩ := stretch_of_run_eq_error (ends_survey course leaving n) h
  have hkept : d ∉ kept := fun hm => hk.unmarked d hm (by simp)
  rw [hk.marked_rollBack, hk.mem_marked_iff, List.mem_append, Track.marked_enter, List.mem_cons]
  by_cases hx : x = d
  · simp [hx, hd, hkept]
  · simp [hx]

/-- Courses with like ends close alike. -/
theorem alike_survey_succ (hs : d ∉ s.marked) (ht : d ∉ t.marked)
    (h : Alike ((course d).run (survey course leaving n) (s.enter d))
      ((course d).run (survey course leaving n) (t.enter d))) :
    Alike (survey course leaving (n + 1) d s) (survey course leaving (n + 1) d t) := by
  rw [survey_succ_of_notMem hs, survey_succ_of_notMem ht]
  generalize hr : (course d).run (survey course leaving n) (s.enter d) = r at h
  generalize hr' : (course d).run (survey course leaving n) (t.enter d) = r' at h
  cases h with
  | ok h => exact .ok h
  | error h =>
    refine .error fun x => ?_
    rw [mem_marked_rollBack hs hr, mem_marked_rollBack ht hr', h x]

/-- A survey depends on which types are marked only. -/
theorem respects_survey (n : Nat) : Respects (survey course leaving n) := by
  intro d s t hst
  induction n generalizing d s t with
  | zero =>
    by_cases hd : d ∈ s.marked
    · rw [survey_of_mem hd, survey_of_mem ((hst d).1 hd)]
      exact .ok hst
    · rw [survey_zero_of_notMem hd, survey_zero_of_notMem (mt (hst d).2 hd)]
      exact .error hst
  | succ n ih =>
    by_cases hd : d ∈ s.marked
    · rw [survey_of_mem hd, survey_of_mem ((hst d).1 hd)]
      exact .ok hst
    · exact alike_survey_succ hd (mt (hst d).2 hd) (alike_run ih (course d) (hst.enter d))

/-- Along grown courses a survey that succeeded does the same. -/
theorem extends_survey (grows : ∀ d, (course d).Grows (course' d)) (n : Nat) :
    Extends (survey course leaving n) (survey course' leaving' n) := by
  intro d s t h
  induction n generalizing d s t with
  | zero =>
    by_cases hd : d ∈ s.marked
    · rw [survey_of_mem hd] at h ⊢
      exact h
    · simp [survey_zero_of_notMem hd] at h
  | succ n ih =>
    by_cases hd : d ∈ s.marked
    · rw [survey_of_mem hd] at h ⊢
      exact h
    · rw [survey_succ_of_notMem hd] at h ⊢
      cases hr : (course d).run (survey course leaving n) (s.enter d) with
      | error fault u => simp [hr, closing] at h
      | ok _ u =>
        rw [hr] at h
        rw [run_eq_ok_of_extends ih (grows d) hr]
        exact h

/-- Along grown courses, and from the marks that the first survey left, a survey ends as from where
the first one started. -/
def Repeats (visit visit' : δ → Tour δ) : Prop :=
  ∀ d s t, SameMarks (final (visit d s)) t → Alike (visit' d s) (visit' d t)

theorem mem_final_visitAll (course : δ → Course δ) (leaving : δ → Fault → Fault) (n : Nat)
    (ds : List δ) {x : δ} (h : x ∈ s.marked) :
    x ∈ (final (visitAll (survey course leaving n) ds s)).marked := by
  have hends := ends_visitAll (ends_survey course leaving n) ds s
  cases hr : visitAll (survey course leaving n) ds s with
  | ok _ u =>
    rw [hr] at hends
    obtain ⟨⟨kept, hk⟩, -⟩ := hends
    exact hk.mem_of_mem h
  | error fault u =>
    rw [hr] at hends
    obtain ⟨kept, path, hk, -⟩ := hends
    exact hk.mem_of_mem h

theorem mem_marked_of_survey_eq_ok (h : survey course leaving n d s = .ok () t) :
    d ∈ t.marked := by
  have hends := ends_survey course leaving n d s
  rw [h] at hends
  exact hends.2 d (by simp)

theorem alike_visitAll_of_repeats
    (ext : Extends (survey course leaving n) (survey course' leaving' n))
    (rep : Repeats (survey course leaving n) (survey course' leaving' n)) (ds : List δ)
    (h : SameMarks (final (visitAll (survey course leaving n) ds s)) t) :
    Alike (visitAll (survey course' leaving' n) ds s)
      (visitAll (survey course' leaving' n) ds t) := by
  induction ds generalizing s with
  | nil => exact .ok h
  | cons d ds ih =>
    rw [visitAll] at h
    cases hd : survey course leaving n d s with
    | error fault u =>
      rw [hd, onward_error] at h
      refine (rep d s t ?_).onward fun _ _ => alike_visitAll (respects_survey n) ds
      rw [hd]
      exact h
    | ok _ u =>
      -- What the first survey completed before it failed is passed over now.
      rw [hd, onward_ok] at h
      have hu : d ∈ u.marked := mem_marked_of_survey_eq_ok hd
      have ht : d ∈ t.marked := (h d).1 (mem_final_visitAll course leaving n ds hu)
      rw [visitAll, visitAll, ext d s u hd, survey_of_mem ht, onward_ok, onward_ok]
      exact ih h

theorem alike_run_of_repeats (ext : Extends (survey course leaving n) (survey course' leaving' n))
    (rep : Repeats (survey course leaving n) (survey course' leaving' n)) {c c' : Course δ}
    (grows : c.Grows c') (h : SameMarks (final (c.run (survey course leaving n) s)) t) :
    Alike (c'.run (survey course' leaving' n) s) (c'.run (survey course' leaving' n) t) := by
  obtain ⟨rest, hrest⟩ := grows.visits
  rw [final_run] at h
  simp only [Course.run, ← hrest, visitAll_append]
  -- Both are alike where the old course ended, and go on along the rest of the grown one.
  refine Alike.onward ?_ fun _ _ => alike_stop c'.stop
  exact (alike_visitAll_of_repeats ext rep c.visits h).onward fun _ _ =>
    alike_visitAll (respects_survey n) rest

/-- A survey from the marks that an earlier one left repeats it. -/
theorem repeats_survey (grows : ∀ d, (course d).Grows (course' d)) (n : Nat) :
    Repeats (survey course leaving n) (survey course' leaving' n) := by
  intro d s t h
  induction n generalizing d s t with
  | zero =>
    refine respects_survey 0 d s t ?_
    by_cases hd : d ∈ s.marked
    · rw [survey_of_mem hd] at h
      exact h
    · rw [survey_zero_of_notMem hd] at h
      exact h
  | succ n ih =>
    by_cases hd : d ∈ s.marked
    · rw [survey_of_mem hd] at h
      exact respects_survey (n + 1) d s t h
    · cases hr : (course d).run (survey course leaving n) (s.enter d) with
      | ok _ u =>
        have hs : survey course leaving (n + 1) d s = .ok () (u.leave d) := by
          rw [survey_succ_of_notMem hd, hr]
          rfl
        rw [hs] at h
        rw [extends_survey grows (n + 1) d s _ hs,
          survey_of_mem ((h d).1 (mem_marked_of_survey_eq_ok hs))]
        exact .ok h
      | error fault u =>
        -- `d` has lost its mark, so it is opened again, in a state like that of the fault.
        rw [survey_succ_of_notMem hd, hr] at h
        have rolledBack (x : δ) : x ∈ t.marked ↔ x ∈ u.marked ∧ x ≠ d := by
          rw [← mem_marked_rollBack hd hr x]
          exact (h x).symm
        have hu : d ∈ u.marked := by
          have hf := mem_final_visitAll course leaving n (s := s.enter d) (course d).visits
            (x := d) (by simp)
          rw [← final_run, hr] at hf
          exact hf
        refine alike_survey_succ hd (fun ht => ((rolledBack d).1 ht).2 rfl) ?_
        refine alike_run_of_repeats (extends_survey grows n) ih (grows d) fun x => ?_
        rw [hr, Track.marked_enter, List.mem_cons, rolledBack]
        simp only [final]
        by_cases hx : x = d
        · simp [hx, hu]
        · simp [hx]

end

end TypeReach
