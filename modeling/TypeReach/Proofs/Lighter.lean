import TypeReach.Proofs.ExactClosure

/-!
# Lighter walks

A course is lighter than another one if it does not stop unless the other one does, and visits
nothing else. Walks along lighter courses may go another way and to other depths, but they reach
less: where a walk from scratch succeeds, one along lighter courses does, and marks nothing else.
Walks that only look up supertypes are lighter than those that walk them.
-/

namespace TypeReach

namespace Course

variable {δ β : Type}

/-- If the heavier course does not stop, the lighter one does not and visits nothing else. -/
def Lighter (light heavy : Course δ) : Prop :=
  heavy.stop = none → light.stop = none ∧ ∀ d ∈ light.visits, d ∈ heavy.visits

variable {a a' b b' : Course δ}

theorem Lighter.refl (c : Course δ) : c.Lighter c := fun h => ⟨h, fun _ hd => hd⟩

theorem done_lighter (c : Course δ) : done.Lighter c := fun _ => ⟨rfl, by simp [done]⟩

theorem Lighter.andThen (h : a'.Lighter a) (h' : b'.Lighter b) :
    (a'.andThen b').Lighter (a.andThen b) := by
  intro hstop
  cases ha : a.stop with
  | some fault =>
    rw [andThen_of_stop_ne_none (by simp [ha]), ha] at hstop
    cases hstop
  | none =>
    rw [andThen_of_stop_eq_none ha] at hstop ⊢
    obtain ⟨hs, hv⟩ := h ha
    obtain ⟨hs', hv'⟩ := h' hstop
    rw [andThen_of_stop_eq_none hs]
    refine ⟨hs', fun d hd => ?_⟩
    rcases List.mem_append.1 hd with hd | hd
    · exact List.mem_append_left _ (hv d hd)
    · exact List.mem_append_right _ (hv' d hd)

theorem Lighter.after {answer : Except Fault β} {f g : β → Course δ}
    (h : ∀ x, (f x).Lighter (g x)) : (after answer f).Lighter (after answer g) := by
  cases answer with
  | ok x => exact h x
  | error fault => exact .refl _

end Course

section

variable {δ : Type} [DecidableEq δ] {course course' : δ → Course δ} {root d : δ} {n : Nat}
  {s t u : Track δ}

/-- From scratch, what a survey that succeeds marks are types whose courses do not stop and visit
marked types only. -/
theorem Succeeds.settled (h : Succeeds course [root] s t) (hs : s.marked = []) (hd : d ∈ t.marked) :
    (course d).stop = none ∧ ∀ e ∈ (course d).visits, e ∈ t.marked := by
  obtain ⟨⟨kept, hk⟩, -⟩ := h
  rcases hk.mem_marked_iff.1 hd with hd | hd
  · simpa using hk.settled d hd
  · simp [hs] at hd

variable (lighter : ∀ d, (course' d).Lighter (course d))

include lighter

/-- What is reached along lighter courses is marked by a survey that succeeds. -/
theorem Succeeds.mem_marked_of_route (h : Succeeds course [root] s t) (hs : s.marked = [])
    (hr : Route course' [] root d) : d ∈ t.marked := by
  induction hr.2 with
  | refl => exact h.2 root (by simp)
  | @tail x y hx hstep ih =>
    have hmem := ih ⟨hr.1, hx⟩
    obtain ⟨hstop, hv⟩ := h.settled hs hmem
    exact hv y ((lighter x hstop).2 y hstep.1)

theorem Succeeds.subset (h : Succeeds course [root] s t) (hs : s.marked = [])
    (h' : Succeeds course' [root] s u) (hd : d ∈ u.marked) : d ∈ t.marked := by
  obtain ⟨⟨kept, hk⟩, -⟩ := h'
  have hkept : d ∈ kept := by
    rcases hk.mem_marked_iff.1 hd with hd | hd
    · exact hd
    · simp [hs] at hd
  obtain ⟨x, hx, hr⟩ := hk.reached d (.inl hkept)
  cases List.mem_singleton.1 hx
  rw [hs] at hr
  exact h.mem_marked_of_route lighter hs hr

/-- A survey along lighter courses that is deep enough does not fail. -/
theorem Succeeds.not_fails (h : Succeeds course [root] s t) (hs : s.marked = [])
    (deep : Deep course' n [] root) : ¬Fails course' n [root] s u := by
  rintro ⟨kept, path, -, hc⟩
  obtain ⟨x, hstop, ⟨y, hy, hr⟩, -⟩ := hc (by simpa [hs] using deep)
  cases List.mem_singleton.1 hy
  rw [hs] at hr
  have hx := h.mem_marked_of_route lighter hs hr
  exact hstop (lighter x (h.settled hs hx).1).1

end

namespace Walker

variable {σ σ' δ α α' ν ν' : Type} [DecidableEq δ]

/-- Where loading a type from scratch succeeds, loading it along lighter courses does, if that may
go deep enough, and marks nothing else. -/
theorem load_ok_of_lighter {p : Provider σ δ α ν} {inOrder : σ → Prop} {m : σ}
    (steady : p.Steady inOrder) (hm : inOrder m) {q : Provider σ' δ α' ν'} {inOrder' : σ' → Prop}
    {m' : σ'} (steady' : q.Steady inOrder') (hm' : inOrder' m') {options options' : WalkOptions}
    (lighter : ∀ d, ((q.answers m').course options' d).Lighter ((p.answers m).course options d))
    {root : δ} (depth : Nat) {depth' : Nat}
    (deep : Deep ((q.answers m').course options') depth' [] root)
    (h : (({ options } : Walker δ).load p depth m (.concrete root)).outcome = .ok ()) :
    let r := ({ options } : Walker δ).load p depth m (.concrete root)
    let r' := ({ options := options' } : Walker δ).load q depth' m' (.concrete root)
    r'.outcome = .ok () ∧ ∀ d ∈ r'.marked, d ∈ r.marked := by
  intro r r'
  rcases load_ends steady hm { options } depth root with ⟨-, hs⟩ | ⟨fault, ho, -⟩
  · rcases load_ends steady' hm' { options := options' } depth' root with
      ⟨ho', hs'⟩ | ⟨fault, -, hf⟩
    · exact ⟨ho', fun d hd => hs.subset lighter rfl hs' hd⟩
    · exact absurd hf (hs.not_fails lighter rfl deep)
  · cases ho.symm.trans h

end Walker

namespace Answers

variable {δ α ν : Type} (answers : Answers δ α ν)

/-- A supertype that is only looked up is not visited; all else is the same. -/
theorem course_lighter (d : δ) :
    (answers.course { traverseSupertype := false } d).Lighter
      (answers.course { traverseSupertype := true } d) := by
  have supertype (r : TypeRef δ) : (supertypeCourse { traverseSupertype := false } r).Lighter
      (supertypeCourse { traverseSupertype := true } r) := Course.done_lighter r.course
  refine .andThen (.refl _) <| .andThen (.refl _) <| .andThen (.refl _) ?_
  exact .andThen (.after supertype) (.refl _)

end Answers

namespace Walker

variable {σ δ α ν : Type} [DecidableEq δ]

/-- Where loading a type from scratch succeeds, loading it without walking supertypes does and marks
nothing else; so where the latter fails, the former does. -/
theorem load_without_supertypes {p : Provider σ δ α ν} {inOrder : σ → Prop} {m m' : σ}
    (steady : p.Steady inOrder) (hm : inOrder m) (hm' : inOrder m') (root : δ)
    (finite : {d | (p.answers m).Reaches { traverseSupertype := false } root d}.Finite)
    (depth depth' : Nat)
    (deep : {d | (p.answers m).Reaches { traverseSupertype := false } root d}.ncard < depth') :
    let r := ({ options := { traverseSupertype := true } } : Walker δ).load p depth m
      (.concrete root)
    let r' := ({ options := { traverseSupertype := false } } : Walker δ).load p depth' m'
      (.concrete root)
    (r.outcome = .ok () → r'.outcome = .ok () ∧ ∀ d ∈ r'.marked, d ∈ r.marked) ∧
      ((∃ fault, r'.outcome = .error fault) → ∃ fault, r.outcome = .error fault) := by
  intro r r'
  have ha : p.answers m' = p.answers m := steady.answers_eq hm' hm
  have success (h : r.outcome = .ok ()) : r'.outcome = .ok () ∧ ∀ d ∈ r'.marked, d ∈ r.marked :=
    load_ok_of_lighter steady hm steady hm' (ha ▸ (p.answers m).course_lighter) depth
      (ha ▸ Answers.deep_of_ncard_lt finite deep) h
  refine ⟨success, fun ⟨fault, hf⟩ => ?_⟩
  cases ho : r.outcome with
  | error fault' => exact ⟨fault', rfl⟩
  | ok _ => cases (success ho).1.symm.trans hf

section

open TypeReach.Graph TypeReach.Graph.Environment

/-- A type `A` below `B`, which has a field of type `A`. -/
def derived : Environment :=
  ofDefinitions [
    { name := "A", supertype := some "B" },
    { name := "B", fields := [{ name := "a", type := some "A" }] }] []

/-- Loading `A` marks `B` if supertypes are walked, and only `A` if they are not. -/
theorem load_without_supertypes_derived :
    let p := derived.provider
    let root : Descriptor := .named "A"
    let r := ({ options := { traverseSupertype := true } } : Walker Descriptor).load p 3 .empty
      (.concrete root)
    let r' := ({ options := { traverseSupertype := false } } : Walker Descriptor).load p 2 .empty
      (.concrete root)
    {d | (p.answers .empty).Reaches { traverseSupertype := false } root d}.ncard < 2 ∧
      r.outcome = .ok () ∧ r'.outcome = .ok () ∧ (∀ d ∈ r'.marked, d ∈ r.marked) ∧
      r.marked = [.named "B", .named "A"] ∧ r'.marked = [.named "A"] := by
  intro p root r r'
  have ha : p.answers .empty = derived.answers := derived.gives_provider.answers_eq faithful_empty
  have closed : (p.answers .empty).Closed { traverseSupertype := false } [.named "A"] := by
    rw [ha]
    exact Answers.closed_of_course (by decide +kernel)
  have sub : {d | (p.answers .empty).Reaches { traverseSupertype := false } root d} ⊆ {root} :=
    fun d hd => by simpa using closed.mem_of_reaches (by simp [root]) hd
  have finite := (Set.finite_singleton root).subset sub
  have deep : {d | (p.answers .empty).Reaches { traverseSupertype := false } root d}.ncard < 2 := by
    have h := Set.ncard_le_ncard sub (Set.finite_singleton root)
    rw [Set.ncard_singleton] at h
    omega
  have succeeds : r.outcome = .ok () := by decide +kernel
  have h := (load_without_supertypes derived.gives_provider.steady faithful_empty faithful_empty
    root finite 3 2 deep).1 succeeds
  exact ⟨deep, succeeds, h.1, h.2, by decide +kernel, by decide +kernel⟩

end

end Walker

end TypeReach
