import Mathlib.Data.Finset.Card
import Mathlib.Logic.Relation
import TypeReach.Proofs.Survey

/-!
# Stretches of a survey

What a survey does from one state to a later one, whether it succeeds or fails: which types it
completes, which types the fault finds open, and along which routes it gets there. A survey that
fails for want of depth does all this as well; only what the fault comes from is not said of it.
-/

namespace TypeReach

variable {δ : Type}

section

variable [DecidableEq δ]

/-- The open types, innermost first, after one more move. -/
def Move.step (opened : List δ) : Move δ → List δ
  | entered d => d :: opened
  | returned d => opened.erase d

/-- The types that moves leave open, innermost first. -/
def openAfter (moves : List (Move δ)) : List δ :=
  moves.foldl Move.step []

end

namespace Track

@[simp] theorem marked_enter (d : δ) (t : Track δ) : (t.enter d).marked = d :: t.marked := rfl

@[simp] theorem marked_leave (d : δ) (t : Track δ) : (t.leave d).marked = t.marked := rfl

@[simp] theorem entered_mem_enter {d x : δ} {t : Track δ} :
    .entered x ∈ (t.enter d).moves ↔ x = d ∨ .entered x ∈ t.moves := by
  simp [enter]

@[simp] theorem entered_mem_leave {d x : δ} {t : Track δ} :
    .entered x ∈ (t.leave d).moves ↔ .entered x ∈ t.moves := by
  simp [leave]

@[simp] theorem returned_mem_enter {d x : δ} {t : Track δ} :
    .returned x ∈ (t.enter d).moves ↔ .returned x ∈ t.moves := by
  simp [enter]

@[simp] theorem returned_mem_leave {d x : δ} {t : Track δ} :
    .returned x ∈ (t.leave d).moves ↔ x = d ∨ .returned x ∈ t.moves := by
  simp [leave]

variable [DecidableEq δ]

/-- The types that are open, innermost first. -/
def opened (t : Track δ) : List δ :=
  openAfter t.moves.reverse

@[simp] theorem marked_rollBack (d : δ) (t : Track δ) :
    (t.rollBack d).marked = t.marked.erase d := rfl

@[simp] theorem moves_rollBack (d : δ) (t : Track δ) : (t.rollBack d).moves = t.moves := rfl

@[simp] theorem opened_enter (d : δ) (t : Track δ) : (t.enter d).opened = d :: t.opened := by
  simp [opened, openAfter, enter, Move.step]

@[simp] theorem opened_leave (d : δ) (t : Track δ) : (t.leave d).opened = t.opened.erase d := by
  simp [opened, openAfter, leave, Move.step]

@[simp] theorem opened_rollBack (d : δ) (t : Track δ) : (t.rollBack d).opened = t.opened := rfl

end Track

/-- A visit leads from `x` to `y`, which is not marked. -/
def Leads (course : δ → Course δ) (marked : List δ) (x y : δ) : Prop :=
  y ∈ (course x).visits ∧ y ∉ marked

/-- Visits lead from `x` to `y` through types that are not marked. -/
def Route (course : δ → Course δ) (marked : List δ) (x y : δ) : Prop :=
  x ∉ marked ∧ Relation.ReflTransGen (Leads course marked) x y

namespace Route

variable {course : δ → Course δ} {marked marked' : List δ} {x y z : δ}

theorem refl (h : x ∉ marked) : Route course marked x x := ⟨h, .refl⟩

theorem mono (h : Route course marked x y) (hm : ∀ z ∈ marked', z ∈ marked) :
    Route course marked' x y :=
  ⟨fun hx => h.1 (hm x hx),
    Relation.ReflTransGen.mono (fun _ _ hl => ⟨hl.1, fun hz => hl.2 (hm _ hz)⟩) _ _ h.2⟩

theorem head (hx : x ∉ marked) (hy : y ∈ (course x).visits) (h : Route course marked y z) :
    Route course marked x z :=
  ⟨hx, .head ⟨hy, h.1⟩ h.2⟩

theorem trans (h : Route course marked x y) (h' : Route course marked y z) :
    Route course marked x z :=
  ⟨h.1, h.2.trans h'.2⟩

end Route

section

variable [DecidableEq δ]

/-- From `s` to `t` a survey was at the types `starts`: it completed the types in `kept`, the latest
first, and the types in `path` are those that it had opened when a fault came, the innermost
first. -/
structure Stretch (course : δ → Course δ) (starts : List δ) (s t : Track δ) (kept path : List δ) :
    Prop where
  marked : t.marked = kept ++ s.marked
  entered : ∀ x, .entered x ∈ t.moves ↔ x ∈ kept ∨ x ∈ path ∨ .entered x ∈ s.moves
  returned : ∀ x, .returned x ∈ t.moves ↔ x ∈ kept ∨ .returned x ∈ s.moves
  opened : t.opened = path ++ s.opened
  unmarked : ∀ x ∈ kept, x ∉ s.marked
  rolledBack : ∀ x ∈ path, x ∉ t.marked
  settled : ∀ x ∈ kept,
    (course x).stop = none ∧ ∀ y ∈ (course x).visits, y ∈ t.marked ∨ y ∈ path
  reached : ∀ x, x ∈ kept ∨ x ∈ path → ∃ d ∈ starts, Route course s.marked d x

end

namespace Stretch

variable [DecidableEq δ] {course : δ → Course δ} {starts starts' kept kept' path : List δ} {d : δ}
  {s t u : Track δ}

theorem mem_marked_iff (h : Stretch course starts s t kept path) {x : δ} :
    x ∈ t.marked ↔ x ∈ kept ∨ x ∈ s.marked := by
  rw [h.marked, List.mem_append]

theorem mem_of_mem (h : Stretch course starts s t kept path) {x : δ} (hx : x ∈ s.marked) :
    x ∈ t.marked :=
  h.mem_marked_iff.2 (.inr hx)

theorem refl (course : δ → Course δ) (starts : List δ) (s : Track δ) :
    Stretch course starts s s [] [] where
  marked := rfl
  entered := by simp
  returned := by simp
  opened := rfl
  unmarked := by simp
  rolledBack := by simp
  settled := by simp
  reached := by simp

theorem mono (h : Stretch course starts s t kept path) (hs : ∀ d ∈ starts, d ∈ starts') :
    Stretch course starts' s t kept path where
  __ := h
  reached x hx := by
    obtain ⟨d, hd, hr⟩ := h.reached x hx
    exact ⟨d, hs d hd, hr⟩

theorem trans (h : Stretch course starts s t kept []) (h' : Stretch course starts t u kept' path) :
    Stretch course starts s u (kept' ++ kept) path where
  marked := by rw [h'.marked, h.marked, List.append_assoc]
  entered x := by
    rw [h'.entered, h.entered, List.mem_append]
    simp only [List.not_mem_nil, false_or]
    tauto
  returned x := by rw [h'.returned, h.returned, List.mem_append, or_assoc]
  opened := by rw [h'.opened, h.opened, List.nil_append]
  unmarked x hx hs := by
    rcases List.mem_append.1 hx with hx | hx
    · exact h'.unmarked x hx (h.mem_of_mem hs)
    · exact h.unmarked x hx hs
  rolledBack := h'.rolledBack
  settled x hx := by
    rcases List.mem_append.1 hx with hx | hx
    · exact h'.settled x hx
    · obtain ⟨hstop, hv⟩ := h.settled x hx
      refine ⟨hstop, fun y hy => .inl ?_⟩
      rcases hv y hy with hy | hy
      · exact h'.mem_of_mem hy
      · simp at hy
  reached x hx := by
    have later (hx : x ∈ kept' ∨ x ∈ path) : ∃ d ∈ starts, Route course s.marked d x := by
      obtain ⟨d, hd, hr⟩ := h'.reached x hx
      exact ⟨d, hd, hr.mono fun _ => h.mem_of_mem⟩
    rcases hx with hx | hx
    · rcases List.mem_append.1 hx with hx | hx
      · exact later (.inl hx)
      · exact h.reached x (.inl hx)
    · exact later (.inr hx)

/-- What is met while `d` is open is reached from `d`. -/
private theorem reached_of_enter (hd : d ∉ s.marked)
    (h : Stretch course (course d).visits (s.enter d) t kept path) {x : δ}
    (hx : x ∈ kept ∨ x ∈ path) : Route course s.marked d x := by
  obtain ⟨y, hy, hr⟩ := h.reached x hx
  exact .head hd hy (hr.mono fun _ => List.mem_cons_of_mem d)

/-- A type is completed if its course is. -/
theorem leave (hd : d ∉ s.marked) (h : Stretch course (course d).visits (s.enter d) t kept [])
    (hstop : (course d).stop = none) (hv : ∀ y ∈ (course d).visits, y ∈ t.marked) :
    Stretch course [d] s (t.leave d) (kept ++ [d]) [] where
  marked := by simp [h.marked]
  entered x := by simp [h.entered, or_assoc]
  returned x := by simp [h.returned, or_left_comm, or_assoc]
  opened := by simp [h.opened]
  unmarked x hx hs := by
    rcases List.mem_append.1 hx with hx | hx
    · exact h.unmarked x hx (List.mem_cons_of_mem d hs)
    · cases List.mem_singleton.1 hx
      exact hd hs
  rolledBack := by simp
  settled x hx := by
    rcases List.mem_append.1 hx with hx | hx
    · exact h.settled x hx
    · cases List.mem_singleton.1 hx
      exact ⟨hstop, fun y hy => .inl (hv y hy)⟩
  reached x hx := by
    refine ⟨d, by simp, ?_⟩
    rcases hx with hx | hx
    · rcases List.mem_append.1 hx with hx | hx
      · exact reached_of_enter hd h (.inl hx)
      · cases List.mem_singleton.1 hx
        exact .refl hd
    · simp at hx

theorem marked_rollBack (h : Stretch course (course d).visits (s.enter d) t kept path) :
    (t.rollBack d).marked = kept ++ s.marked := by
  have hk : d ∉ kept := fun hk => h.unmarked d hk (by simp)
  simp [h.marked, List.erase_append_right _ hk]

/-- A type joins the path if its course fails. -/
theorem rollBack (hd : d ∉ s.marked)
    (h : Stretch course (course d).visits (s.enter d) t kept path) :
    Stretch course [d] s (t.rollBack d) kept (path ++ [d]) where
  marked := h.marked_rollBack
  entered x := by simp [h.entered, or_assoc]
  returned x := by simp [h.returned]
  opened := by simp [h.opened]
  unmarked x hx hs := h.unmarked x hx (List.mem_cons_of_mem d hs)
  rolledBack x hx := by
    rcases List.mem_append.1 hx with hx | hx
    · exact fun ht => h.rolledBack x hx (List.mem_of_mem_erase ht)
    · cases List.mem_singleton.1 hx
      rw [h.marked_rollBack, List.mem_append]
      rintro (hk | hs)
      · exact h.unmarked d hk (by simp)
      · exact hd hs
  settled x hx := by
    obtain ⟨hstop, hv⟩ := h.settled x hx
    refine ⟨hstop, fun y hy => ?_⟩
    rw [h.marked_rollBack, List.mem_append]
    -- `d` itself moves from the marks to the path.
    rcases hv y hy with hy | hy
    · rcases h.mem_marked_iff.1 hy with hy | hy
      · exact .inl (.inl hy)
      · rcases List.mem_cons.1 hy with rfl | hy
        · exact .inr (by simp)
        · exact .inl (.inr hy)
    · exact .inr (List.mem_append_left _ hy)
  reached x hx := by
    refine ⟨d, by simp, ?_⟩
    rcases hx with hx | hx
    · exact reached_of_enter hd h (.inl hx)
    · rcases List.mem_append.1 hx with hx | hx
      · exact reached_of_enter hd h (.inr hx)
      · cases List.mem_singleton.1 hx
        exact .refl hd

end Stretch

section

variable [DecidableEq δ]

/-- Depth `n` lets a survey finish at `d`: below `d` fewer than `n` unmarked types have visits. -/
def Deep (course : δ → Course δ) (n : Nat) (marked : List δ) (d : δ) : Prop :=
  ∃ inner : Finset δ, (∀ x, Route course marked d x → (course x).visits ≠ [] → x ∈ inner) ∧
    (inner.filter (· ∉ marked)).card < n

namespace Deep

variable {course : δ → Course δ} {n : Nat} {marked marked' : List δ} {d y : δ}

theorem mono (h : Deep course n marked d) (hm : ∀ x ∈ marked, x ∈ marked') :
    Deep course n marked' d := by
  obtain ⟨inner, hi, hc⟩ := h
  refine ⟨inner, fun x hr => hi x (hr.mono hm), lt_of_le_of_lt (Finset.card_le_card ?_) hc⟩
  exact Finset.monotone_filter_right _ fun x _ hx hm' => hx (hm x hm')

theorem of_le {n' : Nat} (h : Deep course n marked d) (hn : n ≤ n') : Deep course n' marked d := by
  obtain ⟨inner, hi, hc⟩ := h
  exact ⟨inner, hi, lt_of_lt_of_le hc hn⟩

theorem pos (h : Deep course n marked d) : 0 < n := by
  obtain ⟨inner, -, hc⟩ := h
  exact Nat.zero_lt_of_lt hc

/-- Opening a type that has visits uses up one level. -/
theorem enter (h : Deep course (n + 1) marked d) (hd : d ∉ marked) (hy : y ∈ (course d).visits) :
    Deep course n (d :: marked) y := by
  obtain ⟨inner, hi, hc⟩ := h
  refine ⟨inner, fun x hr => hi x (.head hd hy (hr.mono fun _ => List.mem_cons_of_mem d)), ?_⟩
  -- A type with visits is inner, and marking it takes it out of those that count.
  have hmem : d ∈ inner.filter (· ∉ marked) :=
    Finset.mem_filter.2 ⟨hi d (.refl hd) (List.ne_nil_of_mem hy), hd⟩
  have hsub : inner.filter (· ∉ d :: marked) ⊆ (inner.filter (· ∉ marked)).erase d := by
    intro x hx
    simp only [Finset.mem_filter, List.mem_cons, not_or, Finset.mem_erase] at hx ⊢
    exact ⟨hx.2.1, hx.1, hx.2.2⟩
  have hle := Finset.card_le_card hsub
  have hlt := Finset.card_erase_lt_of_mem hmem
  omega

end Deep

end

/-- Some type whose course stops is reached from `starts`, and from every type of the path. -/
def Culprit (course : δ → Course δ) (starts marked path : List δ) : Prop :=
  ∃ x, (course x).stop ≠ none ∧ (∃ d ∈ starts, Route course marked d x) ∧
    ∀ y ∈ path, Route course [] y x

section

variable [DecidableEq δ] {course : δ → Course δ} {n : Nat} {starts ds : List δ} {d : δ}
  {s t u : Track δ}

/-- A survey that succeeds leaves nothing open and marks where it was sent. -/
def Succeeds (course : δ → Course δ) (starts : List δ) (s t : Track δ) : Prop :=
  (∃ kept, Stretch course starts s t kept []) ∧ ∀ d ∈ starts, d ∈ t.marked

/-- A survey that fails has a culprit, unless it was not deep enough. -/
def Fails (course : δ → Course δ) (n : Nat) (starts : List δ) (s t : Track δ) : Prop :=
  ∃ kept path, Stretch course starts s t kept path ∧
    ((∀ d ∈ starts, Deep course n s.marked d) → Culprit course starts s.marked path)

/-- A survey succeeds or fails as it should. -/
def Ends (course : δ → Course δ) (n : Nat) (starts : List δ) (s : Track δ) :
    EStateM.Result Fault (Track δ) Unit → Prop
  | .ok _ t => Succeeds course starts s t
  | .error _ t => Fails course n starts s t

theorem Succeeds.cons (h : Succeeds course [d] s t) (h' : Succeeds course ds t u) :
    Succeeds course (d :: ds) s u := by
  obtain ⟨⟨kept, hk⟩, hd⟩ := h
  obtain ⟨⟨kept', hk'⟩, hds⟩ := h'
  refine ⟨⟨kept' ++ kept, (hk.mono ?_).trans (hk'.mono ?_)⟩, ?_⟩
  · simp
  · exact fun x hx => List.mem_cons_of_mem d hx
  · intro x hx
    rcases List.mem_cons.1 hx with rfl | hx
    · exact hk'.mem_of_mem (hd x (by simp))
    · exact hds x hx

theorem Fails.mono (h : Fails course n [d] s t) : Fails course n (d :: ds) s t := by
  obtain ⟨kept, path, hk, hc⟩ := h
  refine ⟨kept, path, hk.mono (by simp), fun hdeep => ?_⟩
  obtain ⟨x, hx, ⟨y, hy, hr⟩, hp⟩ := hc fun y hy => hdeep y (by simp_all)
  exact ⟨x, hx, ⟨y, by simp_all, hr⟩, hp⟩

theorem Succeeds.cons_fails (h : Succeeds course [d] s t) (h' : Fails course n ds t u) :
    Fails course n (d :: ds) s u := by
  obtain ⟨⟨kept, hk⟩, -⟩ := h
  obtain ⟨kept', path, hk', hc⟩ := h'
  refine ⟨kept' ++ kept, path, (hk.mono (by simp)).trans (hk'.mono ?_), fun hdeep => ?_⟩
  · exact fun x hx => List.mem_cons_of_mem d hx
  · obtain ⟨x, hx, ⟨y, hy, hr⟩, hp⟩ := hc fun y hy =>
      (hdeep y (List.mem_cons_of_mem d hy)).mono fun _ => hk.mem_of_mem
    exact ⟨x, hx, ⟨y, List.mem_cons_of_mem d hy, hr.mono fun _ => hk.mem_of_mem⟩, hp⟩

theorem ends_visitAll {visit : δ → Tour δ} (hv : ∀ d s, Ends course n [d] s (visit d s))
    (ds : List δ) (s : Track δ) : Ends course n ds s (visitAll visit ds s) := by
  induction ds generalizing s with
  | nil => exact ⟨⟨[], .refl course [] s⟩, by simp⟩
  | cons d ds ih =>
    have hd := hv d s
    rw [visitAll]
    cases h : visit d s with
    | error fault t =>
      rw [h] at hd
      exact Fails.mono hd
    | ok _ t =>
      rw [h] at hd
      have hds := ih t
      rw [onward_ok]
      cases h' : visitAll visit ds t with
      | ok _ u => rw [h'] at hds; exact Succeeds.cons hd hds
      | error fault u => rw [h'] at hds; exact Succeeds.cons_fails hd hds

/-- A course that fails is one stretch. -/
theorem stretch_of_run_eq_error {visit : δ → Tour δ}
    (hv : ∀ d s, Ends course n [d] s (visit d s)) {c : Course δ} {fault : Fault}
    (h : c.run visit s = .error fault t) :
    ∃ kept path, Stretch course c.visits s t kept path := by
  have hends := ends_visitAll hv c.visits s
  rw [Course.run] at h
  cases hr : visitAll visit c.visits s with
  | error fault u =>
    rw [hr] at hends h
    cases h
    obtain ⟨kept, path, hk, -⟩ := hends
    exact ⟨kept, path, hk⟩
  | ok _ u =>
    rw [hr] at hends h
    obtain ⟨⟨kept, hk⟩, -⟩ := hends
    cases hstop : c.stop with
    | none => simp [hstop] at h
    | some fault =>
      simp only [hstop] at h
      cases h
      exact ⟨kept, [], hk⟩

/-- A type that has been opened fails if one of its visits does. -/
theorem Fails.rollBack (hd : d ∉ s.marked) (h : Fails course n (course d).visits (s.enter d) t) :
    Fails course (n + 1) [d] s (t.rollBack d) := by
  obtain ⟨kept, path, hk, hc⟩ := h
  refine ⟨kept, path ++ [d], hk.rollBack hd, fun hdeep => ?_⟩
  obtain ⟨x, hx, ⟨y, hy, hr⟩, hp⟩ := hc fun y hy => (hdeep d (by simp)).enter hd hy
  have hdx : Route course s.marked d x :=
    .head hd hy (hr.mono fun _ => List.mem_cons_of_mem d)
  refine ⟨x, hx, ⟨d, by simp, hdx⟩, fun z hz => ?_⟩
  rcases List.mem_append.1 hz with hz | hz
  · exact hp z hz
  · cases List.mem_singleton.1 hz
    exact hdx.mono (by simp)

/-- A type that has been opened is its own culprit if its course stops. -/
theorem Succeeds.rollBack (hd : d ∉ s.marked)
    (h : Succeeds course (course d).visits (s.enter d) t) (hstop : (course d).stop ≠ none) :
    Fails course n [d] s (t.rollBack d) := by
  obtain ⟨⟨kept, hk⟩, -⟩ := h
  refine ⟨kept, [d], hk.rollBack hd, fun _ => ⟨d, hstop, ⟨d, by simp, .refl hd⟩, ?_⟩⟩
  intro z hz
  cases List.mem_singleton.1 hz
  exact .refl (by simp)

theorem Succeeds.leave (hd : d ∉ s.marked)
    (h : Succeeds course (course d).visits (s.enter d) t) (hstop : (course d).stop = none) :
    Succeeds course [d] s (t.leave d) := by
  obtain ⟨⟨kept, hk⟩, hv⟩ := h
  refine ⟨⟨kept ++ [d], hk.leave hd hstop hv⟩, fun x hx => ?_⟩
  cases List.mem_singleton.1 hx
  exact hk.mem_of_mem (by simp)

theorem succeeds_of_mem (h : d ∈ s.marked) : Succeeds course [d] s s :=
  ⟨⟨[], .refl course [d] s⟩, by simpa using h⟩

/-- A survey ends as it should. -/
theorem ends_survey (course : δ → Course δ) (leaving : δ → Fault → Fault) (n : Nat) (d : δ)
    (s : Track δ) :
    Ends course n [d] s (survey course leaving n d s) := by
  induction n generalizing d s with
  | zero =>
    by_cases hd : d ∈ s.marked
    · rw [survey_of_mem hd]
      exact succeeds_of_mem hd
    · rw [survey_zero_of_notMem hd]
      exact ⟨[], [], .refl course [d] s, fun h => absurd (h d (by simp)).pos (by simp)⟩
  | succ n ih =>
    by_cases hd : d ∈ s.marked
    · rw [survey_of_mem hd]
      exact succeeds_of_mem hd
    · have hv := ends_visitAll ih (course d).visits (s.enter d)
      rw [survey_succ_of_notMem hd, Course.run]
      cases h : visitAll (survey course leaving n) (course d).visits (s.enter d) with
      | error fault t => rw [h] at hv; exact Fails.rollBack hd hv
      | ok _ t =>
        rw [h] at hv
        rw [onward_ok]
        cases hstop : (course d).stop with
        | none => exact Succeeds.leave hd hv hstop
        | some fault => exact Succeeds.rollBack hd hv (by simp [hstop])

end

namespace Walker

variable {σ α ν : Type} [DecidableEq δ] {p : Provider σ δ α ν} {inOrder : σ → Prop} {m : σ}

@[simp] theorem opened_start (w : Walker δ) : w.start.opened = [] := rfl

/-- The path of a whole walk is what its moves leave open. -/
theorem openAfter_eq_of_stretch {course : δ → Course δ} {starts kept path marked : List δ}
    {moves : List (Move δ)} {w : Walker δ}
    (h : Stretch course starts w.start { marked, moves := moves.reverse } kept path) :
    openAfter moves = path := by
  have hopened := h.opened
  rw [opened_start, List.append_nil, Track.opened, List.reverse_reverse] at hopened
  exact hopened

/-- Loading a type succeeds or fails as the survey of the type should. -/
theorem load_ends (steady : p.Steady inOrder) (hm : inOrder m) (w : Walker δ) (depth : Nat)
    (root : δ) :
    let r := w.load p depth m (.concrete root)
    let t : Track δ := { marked := r.marked, moves := r.moves.reverse }
    (r.outcome = .ok () ∧ Succeeds ((p.answers m).course w.options) [root] w.start t) ∨
      ∃ fault, r.outcome = .error fault ∧
        Fails ((p.answers m).course w.options) depth [root] w.start t := by
  intro r t
  have hends := ends_survey ((p.answers m).course w.options) (p.answers m).leaving depth root
    w.start
  have hsurvey : w.survey (p.answers m) depth (.concrete root) =
      TypeReach.survey ((p.answers m).course w.options) (p.answers m).leaving depth root
        w.start := by
    simp only [survey, TypeRef.course, Course.run_visit]
  rw [← hsurvey] at hends
  rcases (load_cases steady hm w depth (.concrete root)).1 with ⟨ho, hs⟩ | ⟨fault, ho, hs⟩
  · rw [hs] at hends
    exact .inl ⟨ho, hends⟩
  · rw [hs] at hends
    exact .inr ⟨fault, ho, hends⟩

/-- Loading along a reference is one stretch also if it fails, and however deep it may go. -/
theorem load_stretch (steady : p.Steady inOrder) (hm : inOrder m) (w : Walker δ) (depth : Nat)
    (root : TypeRef δ) {fault : Fault} (h : (w.load p depth m root).outcome = .error fault) :
    let r := w.load p depth m root
    ∃ kept path, Stretch ((p.answers m).course w.options) root.course.visits w.start
      { marked := r.marked, moves := r.moves.reverse } kept path := by
  intro r
  rcases (load_cases steady hm w depth root).1 with ⟨ho, -⟩ | ⟨fault', -, hs⟩
  · cases ho.symm.trans h
  · exact stretch_of_run_eq_error (ends_survey _ _ depth) hs

end Walker

end TypeReach
