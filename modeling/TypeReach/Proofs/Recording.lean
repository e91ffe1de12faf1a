import TypeReach.Proofs.Related
import TypeReach.Walk.Walker

/-!
# Records of a walk

What a walk has recorded before does not show in what it does next, so a step behind another one
does what it does when it is run alone, from the marks and the memory that are there. And a walk
marks just the types that it completes, whether it succeeds or fails. Both hold of every provider,
also of one that answers the same question differently from time to time.
-/

namespace TypeReach

namespace Walk

variable {σ δ α ν β γ : Type}

/-- A state behind what another one has recorded. -/
def behind (earlier s : WalkState σ δ) : WalkState σ δ :=
  { s with
    moves := s.moves ++ earlier.moves
    notes := s.notes ++ earlier.notes
    calls := s.calls ++ earlier.calls }

/-- A result behind what a state has recorded. -/
def resultBehind (earlier : WalkState σ δ) :
    EStateM.Result Fault (WalkState σ δ) β → EStateM.Result Fault (WalkState σ δ) β
  | .ok b s => .ok b (behind earlier s)
  | .error fault s => .error fault (behind earlier s)

/-- A step does not look at what was recorded before it. -/
def Forgets (a : Walk σ δ β) : Prop :=
  ∀ earlier s, a (behind earlier s) = resultBehind earlier (a s)

section

variable {p : Provider σ δ α ν} {a : Walk σ δ β} {f : β → Walk σ δ γ}

theorem Forgets.bind (ha : Forgets a) (hf : ∀ b, Forgets (f b)) : Forgets (a >>= f) := by
  intro earlier s
  simp only [Bind.bind, EStateM.bind, ha earlier s]
  cases a s with
  | ok b t => exact hf b earlier t
  | error fault t => rfl

theorem forgets_consult (look : Lookup σ β) : Forgets (consult look : Walk σ δ β) := by
  intro earlier s
  have hm : (behind earlier s).memory = s.memory := rfl
  simp only [consult, hm]
  cases look s.memory <;> rfl

theorem pervasive_forgets : Pervasive (Forgets (σ := σ) (δ := δ)) where
  pure _ _ _ := rfl
  throw _ _ _ := rfl
  bind := Forgets.bind
  handle {β a f} ha hf earlier s := by
    simp only [ha earlier s]
    cases a s with
    | ok b t => rfl
    | error fault t => exact hf fault earlier t
  note _ _ _ := rfl
  consult := forgets_consult
  ask call look earlier s := forgets_consult look earlier { s with calls := call :: s.calls }

variable [DecidableEq δ]

theorem Forgets.opened {body : Walk σ δ Unit} (h : Forgets body) (d : δ) :
    Forgets (opened p d body) := by
  intro earlier s
  have hbody := h earlier (enter d s)
  have henter : enter d (behind earlier s) = behind earlier (enter d s) := rfl
  simp only [Walk.opened, henter, hbody]
  cases body (enter d s) with
  | ok _ t => rfl
  | error fault t =>
    have hclassify := pervasive_forgets.classify p d fault earlier t
    simp only [resultBehind, hclassify]
    cases classify p d fault t <;> rfl

theorem forgets_type (options : WalkOptions) (depth : Nat) (d : δ) :
    Forgets (type p options depth d) := by
  induction depth generalizing d with
  | zero =>
    intro earlier s
    have hmarked : (behind earlier s).marked = s.marked := rfl
    simp only [type, hmarked]
    split <;> rfl
  | succ depth ih =>
    intro earlier s
    have hmarked : (behind earlier s).marked = s.marked := rfl
    have hmembers : Forgets (members p options (type p options depth) d) :=
      pervasive_forgets.members p ih options d
    simp only [type, hmarked]
    split
    · rfl
    · exact hmembers.opened d earlier s

end

/-- The state at a result. -/
def reached : EStateM.Result Fault (WalkState σ δ) β → WalkState σ δ
  | .ok _ s => s
  | .error _ s => s

/-- From `s` to `t` the types in `kept` were completed and marked, and no other marks changed. -/
structure Gains (s t : Track δ) (kept : List δ) : Prop where
  marked : t.marked = kept ++ s.marked
  unmarked : ∀ x ∈ kept, x ∉ s.marked
  returned : ∀ x, .returned x ∈ t.moves ↔ x ∈ kept ∨ .returned x ∈ s.moves

/-- Whether it succeeds or fails, a step marks the types that it completes and no others. -/
def Settles (a : Walk σ δ β) : Prop :=
  ∀ s, ∃ kept, Gains s.toTrack (reached (a s)).toTrack kept

theorem Gains.refl (t : Track δ) : Gains t t [] where
  marked := rfl
  unmarked := by simp
  returned := by simp

theorem Gains.trans {s t u : Track δ} {kept kept' : List δ} (h : Gains s t kept)
    (h' : Gains t u kept') : Gains s u (kept' ++ kept) where
  marked := by rw [h'.marked, h.marked, List.append_assoc]
  unmarked x hx hs := by
    rcases List.mem_append.1 hx with hx | hx
    · exact h'.unmarked x hx (h.marked ▸ List.mem_append_right kept hs)
    · exact h.unmarked x hx hs
  returned x := by rw [h'.returned, h.returned, List.mem_append, or_assoc]

theorem Gains.mem_of_mem {s t : Track δ} {kept : List δ} (h : Gains s t kept) {x : δ}
    (hx : x ∈ s.marked) : x ∈ t.marked := by
  rw [h.marked]
  exact List.mem_append_right kept hx

section

variable {p : Provider σ δ α ν} {a : Walk σ δ β} {f : β → Walk σ δ γ}

theorem settles_of_toTrack_eq (h : ∀ s, (reached (a s)).toTrack = s.toTrack) : Settles a := by
  intro s
  rw [h s]
  exact ⟨[], .refl s.toTrack⟩

theorem Settles.bind (ha : Settles a) (hf : ∀ b, Settles (f b)) : Settles (a >>= f) := by
  intro s
  obtain ⟨kept, hk⟩ := ha s
  simp only [Bind.bind, EStateM.bind]
  cases hr : a s with
  | error fault t =>
    rw [hr] at hk
    exact ⟨kept, hk⟩
  | ok b t =>
    rw [hr] at hk
    obtain ⟨kept', hk'⟩ := hf b t
    exact ⟨kept' ++ kept, hk.trans hk'⟩

theorem settles_consult (look : Lookup σ β) : Settles (consult look : Walk σ δ β) := by
  refine settles_of_toTrack_eq fun s => ?_
  simp only [consult]
  cases look s.memory <;> rfl

theorem pervasive_settles : Pervasive (Settles (σ := σ) (δ := δ)) where
  pure _ := settles_of_toTrack_eq fun _ => rfl
  throw _ := settles_of_toTrack_eq fun _ => rfl
  bind := Settles.bind
  handle {β a f} ha hf s := by
    obtain ⟨kept, hk⟩ := ha s
    cases hr : a s with
    | ok b t =>
      rw [hr] at hk
      simpa only [hr] using ⟨kept, hk⟩
    | error fault t =>
      rw [hr] at hk
      obtain ⟨kept', hk'⟩ := hf fault t
      simpa only [hr] using ⟨kept' ++ kept, hk.trans hk'⟩
  note _ := settles_of_toTrack_eq fun _ => rfl
  consult := settles_consult
  ask call look s := settles_consult look { s with calls := call :: s.calls }

variable [DecidableEq δ] {d : δ} {kept : List δ} {s t : WalkState σ δ}

omit [DecidableEq δ] in
theorem Gains.leave (hd : d ∉ s.marked) (h : Gains (enter d s).toTrack t.toTrack kept) :
    Gains s.toTrack (leave d t).toTrack (kept ++ [d]) where
  marked := by simp [Walk.leave, h.marked, enter]
  unmarked x hx hs := by
    rcases List.mem_append.1 hx with hx | hx
    · exact h.unmarked x hx (List.mem_cons_of_mem d hs)
    · cases List.mem_singleton.1 hx
      exact hd hs
  returned x := by simp [Walk.leave, h.returned, enter, or_left_comm, or_assoc]

theorem Gains.rollBack (h : Gains (enter d s).toTrack t.toTrack kept) :
    Gains s.toTrack (rollBack p d t).toTrack kept where
  marked := by
    have hkept : d ∉ kept := fun hk => h.unmarked d hk (by simp [enter])
    have ht : t.marked = kept ++ d :: s.marked := h.marked
    simp [Walk.rollBack, ht, List.erase_append_right _ hkept]
  unmarked x hx hs := h.unmarked x hx (List.mem_cons_of_mem d hs)
  returned x := by simp [Walk.rollBack, h.returned, enter]

theorem Settles.opened {body : Walk σ δ Unit} (h : Settles body) (hd : d ∉ s.marked) :
    ∃ kept, Gains s.toTrack (reached (opened p d body s)).toTrack kept := by
  obtain ⟨kept, hk⟩ := h (enter d s)
  simp only [Walk.opened]
  cases hr : body (enter d s) with
  | ok _ t =>
    rw [hr] at hk
    exact ⟨kept ++ [d], hk.leave hd⟩
  | error fault t =>
    rw [hr] at hk
    obtain ⟨kept', hk'⟩ := pervasive_settles.classify p d fault t
    have hboth := hk.trans hk'
    refine ⟨kept' ++ kept, ?_⟩
    simp only
    cases hc : classify p d fault t with
    | ok left u =>
      rw [hc] at hboth
      exact hboth.rollBack
    | error left u =>
      rw [hc] at hboth
      exact hboth.rollBack

theorem settles_type (options : WalkOptions) (depth : Nat) (d : δ) :
    Settles (type p options depth d) := by
  induction depth generalizing d with
  | zero =>
    intro s
    refine ⟨[], ?_⟩
    simp only [type]
    split
    · exact .refl s.toTrack
    · exact .refl s.toTrack
  | succ depth ih =>
    intro s
    have hmembers : Settles (members p options (type p options depth) d) :=
      pervasive_settles.members p ih options d
    simp only [type]
    split
    · exact ⟨[], .refl s.toTrack⟩
    · next hd => exact hmembers.opened hd

/-- A walk of a type that succeeds leaves it marked. -/
theorem mem_marked_of_type_eq_ok {options : WalkOptions} {depth : Nat}
    (h : type p options depth d s = .ok () t) : d ∈ t.marked := by
  by_cases hd : d ∈ s.marked
  · have hs : type p options depth d s = .ok () s := by cases depth <;> simp [type, hd]
    rw [hs] at h
    cases h
    exact hd
  · cases depth with
    | zero => simp [type, hd] at h
    | succ depth =>
      simp only [type, hd, if_false, Walk.opened] at h
      obtain ⟨kept, hk⟩ := pervasive_settles.members p (settles_type options depth) options d
        (enter d s)
      cases hr : members p options (type p options depth) d (enter d s) with
      | ok _ u =>
        rw [hr] at h hk
        cases h
        exact hk.mem_of_mem (by simp [enter])
      | error fault u =>
        simp only [hr] at h
        cases hc : classify p d fault u <;> simp [hc] at h

end

end Walk

/-- The state that a walk starts in. -/
def WalkState.initial {σ δ : Type} (marked : List δ) (memory : σ) : WalkState σ δ :=
  { marked, moves := [], notes := [], calls := [], memory }

/-- The report of a step and of the next one behind it, which starts from the marks and the memory
that the first one left, unless that failed. -/
def WalkReport.andThen {σ δ : Type} (r : WalkReport σ δ Unit)
    (next : List δ → σ → WalkReport σ δ Unit) : WalkReport σ δ Unit :=
  match r.outcome with
  | .ok _ =>
    let r' := next r.marked r.memory
    { r' with
      moves := r.moves ++ r'.moves
      notes := r.notes ++ r'.notes
      calls := r.calls ++ r'.calls }
  | .error _ => r

namespace WalkReport

variable {σ δ : Type} {r : WalkReport σ δ Unit} {next : List δ → σ → WalkReport σ δ Unit}

theorem outcome_andThen_eq_ok_iff : (r.andThen next).outcome = .ok () ↔
    r.outcome = .ok () ∧ (next r.marked r.memory).outcome = .ok () := by
  cases h : r.outcome <;> simp [andThen, h]

theorem marked_andThen_of_ok (h : r.outcome = .ok ()) :
    (r.andThen next).marked = (next r.marked r.memory).marked := by
  simp [andThen, h]

end WalkReport

namespace Walker

open Walk

variable {σ δ α ν β : Type} {w : Walker δ} {m : σ} {d : δ}

theorem run_eq (w : Walker δ) (a : Walk σ δ β) (m : σ) :
    w.run a m = match a (.initial w.marked m) with
      | .ok b s => .ofState (.ok b) s
      | .error fault s => .ofState (.error fault) s := rfl

theorem run_throw (w : Walker δ) (fault : Fault) (m : σ) :
    w.run (throw fault : Walk σ δ Unit) m = ⟨.error fault, w.marked, [], [], [], m⟩ := rfl

/-- Behind another step a step does what it does alone, if it does not look at what was recorded. -/
theorem run_bind (w : Walker δ) (a : Walk σ δ Unit) {b : Walk σ δ Unit} (hb : Forgets b) (m : σ) :
    w.run (a >>= fun _ => b) m =
      (w.run a m).andThen fun marked m => ({ w with marked } : Walker δ).run b m := by
  simp only [run_eq, Bind.bind, EStateM.bind]
  cases a (.initial w.marked m) with
  | error fault s => rfl
  | ok _ s =>
    -- The state that `a` left is a new one behind what `a` recorded.
    have hs : b s = resultBehind s (b (.initial s.marked s.memory)) :=
      hb s (.initial s.marked s.memory)
    simp only [WalkReport.andThen, WalkReport.ofState, hs]
    cases b (.initial s.marked s.memory) with
    | ok _ t => simp [resultBehind, behind]
    | error fault t => simp [resultBehind, behind]

theorem marked_run (w : Walker δ) (a : Walk σ δ β) (m : σ) :
    (w.run a m).marked = (reached (a (.initial w.marked m))).marked := by
  rw [run_eq]
  cases a (.initial w.marked m) <;> rfl

theorem moves_run (w : Walker δ) (a : Walk σ δ β) (m : σ) :
    (w.run a m).moves = (reached (a (.initial w.marked m))).moves.reverse := by
  rw [run_eq]
  cases a (.initial w.marked m) <;> rfl

/-- What is marked at the end was marked before or has been completed. -/
theorem marked_run_iff {a : Walk σ δ β} (h : Settles a) (w : Walker δ) (m : σ) :
    d ∈ (w.run a m).marked ↔ d ∈ w.marked ∨ .returned d ∈ (w.run a m).moves := by
  obtain ⟨kept, hk⟩ := h (.initial w.marked m)
  rw [marked_run, moves_run, List.mem_reverse, hk.returned, hk.marked, List.mem_append]
  simp [WalkState.initial, or_comm]

/-- A walk of a type that succeeds leaves it marked. -/
theorem mem_marked_run_type [DecidableEq δ] {p : Provider σ δ α ν} {options : WalkOptions}
    {depth : Nat} (h : (w.run (Walk.type p options depth d) m).outcome = .ok ()) :
    d ∈ (w.run (Walk.type p options depth d) m).marked := by
  rw [run_eq] at h ⊢
  cases hr : Walk.type p options depth d (.initial w.marked m) with
  | ok _ s => exact mem_marked_of_type_eq_ok hr
  | error fault s => simp [hr, WalkReport.ofState] at h

end Walker

end TypeReach
