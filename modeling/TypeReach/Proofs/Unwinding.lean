import TypeReach.Proofs.Related
import TypeReach.Proofs.Stretch

/-!
# Unwinding

An unguarded walk lets the first fault out as it is, at the point where it comes up. A guarded one
does the same up to that point and then leaves the open types one after the other, the innermost
first. The innermost one classifies the fault, the others have nothing left to classify, and each
takes its mark back.
-/

namespace TypeReach

/-- Whether a fault is one that an open type turns into a failed resolution. -/
def Fault.isUnclassified : Fault → Bool
  | linkage .. | notPresent .. => true
  | _ => false

namespace Walk

variable {σ δ α ν β γ : Type}

/-- A question that is put while `d` is the innermost open type fails and leaves a memory. That an
attribute must not be read does not count. -/
inductive Refuses (p : Provider σ δ α ν) (d : δ) (fault : Fault) (memory : σ) : Prop
  | methods {m} : p.methods d m = .error fault memory → Refuses p d fault memory
  | constructors {m} : p.constructors d m = .error fault memory → Refuses p d fault memory
  | fields {m} : p.fields d m = .error fault memory → Refuses p d fault memory
  | supertype {m} : p.supertype d m = .error fault memory → Refuses p d fault memory
  | interfaces {m} : p.interfaces d m = .error fault memory → Refuses p d fault memory
  | annotations {m} : p.annotations d m = .error fault memory → Refuses p d fault memory
  | package {m} : p.packageAnnotations d m = .error fault memory → Refuses p d fault memory
  | accessors {a m} : p.accessors a m = .error fault memory → Refuses p d fault memory
  | invoke {a accessor m} : p.invoke a accessor m = .error fault memory →
      (∀ message, fault ≠ .restricted message) → Refuses p d fault memory

section

variable [DecidableEq δ] {p : Provider σ δ α ν}

/-- Walks a type, but lets every fault out as it is: nothing is classified, and what was open stays
open and marked. -/
def unguarded (p : Provider σ δ α ν) (options : WalkOptions) : Nat → δ → Walk σ δ Unit
  | 0, d => fun s => if d ∈ s.marked then .ok () s else .error .nestedTooDeep s
  | depth + 1, d => fun s =>
    if d ∈ s.marked then .ok () s
    else
      match members p options (unguarded p options depth) d (enter d s) with
      | .ok _ s => .ok () (leave d s)
      | .error fault s => .error fault s

/-- Leaves an open type for a fault: the fault is classified, and the mark is taken back. -/
def shut (p : Provider σ δ α ν) (r : Fault × WalkState σ δ) (d : δ) : Fault × WalkState σ δ :=
  match classify p d r.1 r.2 with
  | .ok fault s => (fault, rollBack p d s)
  | .error fault s => (fault, rollBack p d s)

/-- Leaves open types for a fault, one after the other. -/
def unwind (p : Provider σ δ α ν) (path : List δ) (fault : Fault) (s : WalkState σ δ) :
    Fault × WalkState σ δ :=
  path.foldl (shut p) (fault, s)

/-- The fault that a state was reached with comes from the walk itself or from a question about the
innermost open type. -/
def Raised (p : Provider σ δ α ν) (fault : Fault) (s : WalkState σ δ) : Prop :=
  (∃ why, fault = .unwalkable why) ∨ fault = .nestedTooDeep ∨
    ∃ d outer, s.opened = d :: outer ∧ Refuses p d fault s.memory

/-- What a step from `s` comes to, given what the unguarded one comes to: the same success, or what
is left of the same fault when the types opened since have been left for it. -/
inductive Unwinds (p : Provider σ δ α ν) (s : WalkState σ δ) :
    EStateM.Result Fault (WalkState σ δ) β → EStateM.Result Fault (WalkState σ δ) β → Prop
  | ok {b t} : t.opened = s.opened → Unwinds p s (.ok b t) (.ok b t)
  | error {fault t path} : t.opened = path ++ s.opened → Raised p fault t →
      Unwinds p s (.error (unwind p path fault t).1 (unwind p path fault t).2) (.error fault t)

/-- While `d` is the innermost open type, a step is what an unguarded one unwinds to. -/
def Guards (p : Provider σ δ α ν) (d : δ) (guarded bare : Walk σ δ β) : Prop :=
  ∀ s, s.opened.head? = some d → Unwinds p s (guarded s) (bare s)

theorem Unwinds.of_opened_eq {s t : WalkState σ δ}
    {r r' : EStateM.Result Fault (WalkState σ δ) β} (h : Unwinds p t r r')
    (ht : t.opened = s.opened) : Unwinds p s r r' := by
  cases h with
  | ok h => exact .ok (h.trans ht)
  | error h hr => exact .error (h.trans (by rw [ht])) hr

theorem Unwinds.of_raised {s t : WalkState σ δ} {fault : Fault} (ht : t.opened = s.opened)
    (hr : Raised p fault t) :
    Unwinds p s (.error fault t : EStateM.Result Fault (WalkState σ δ) β) (.error fault t) := by
  have hpath : t.opened = [] ++ s.opened := ht
  exact .error hpath hr

theorem raised_of_refuses {d : δ} {fault : Fault} {s : WalkState σ δ}
    (hs : s.opened.head? = some d) (h : Refuses p d fault s.memory) : Raised p fault s :=
  .inr (.inr ⟨d, s.opened.tail, (List.cons_head?_tail hs).symm, h⟩)

section

variable {d : δ} {a b : Walk σ δ β} {f g : β → Walk σ δ γ}

theorem guards_pure (x : β) : Guards p d (pure x) (pure x) :=
  fun _ _ => .ok rfl

theorem Guards.bind (ha : Guards p d a b) (hf : ∀ x, Guards p d (f x) (g x)) :
    Guards p d (a >>= f) (b >>= g) := by
  intro s hs
  have h := ha s hs
  simp only [Bind.bind, EStateM.bind]
  generalize a s = r at h ⊢
  generalize b s = r' at h ⊢
  cases h with
  | ok ht => exact (hf _ _ (by rw [ht]; exact hs)).of_opened_eq ht
  | error ht hr => exact .error ht hr

theorem guards_stop (why : Unwalkable) :
    Guards p d (throw (.unwalkable why) : Walk σ δ Unit) (throw (.unwalkable why)) :=
  fun _ _ => .of_raised rfl (.inl ⟨why, rfl⟩)

theorem guards_ask (call : Call) {look : Lookup σ β}
    (h : ∀ fault m m', look m = .error fault m' → Refuses p d fault m') :
    Guards p d (ask call look) (ask call look) := by
  intro s hs
  simp only [ask, consult]
  cases hl : look s.memory with
  | ok x m => exact .ok rfl
  | error fault m =>
    exact .of_raised rfl (raised_of_refuses hs (h fault s.memory m hl))

variable (named : ∀ d m, ∃ name m', p.naming d m = .ok name m')

include named

/-- A type can always be named, so an attribute that must not be read is passed over. -/
theorem guards_readAttribute (use : AnnotationUse δ α) (accessor : String) :
    Guards p d (readAttribute p use accessor) (readAttribute p use accessor) := by
  intro s hs
  simp only [readAttribute, ask, consult]
  cases hi : p.invoke use accessor s.memory with
  | ok v m => exact .ok rfl
  | error fault m =>
    cases fault with
    | restricted message =>
      obtain ⟨name, m', hn⟩ := named use.descriptor m
      simp only [skip, Bind.bind, EStateM.bind, consult, hn]
      exact .ok rfl
    | _ => exact .of_raised rfl (raised_of_refuses hs (.invoke hi (by simp)))

theorem relating_guards : Relating p p d (Guards p d) where
  pure := guards_pure
  bind := Guards.bind
  stop := guards_stop
  methods := guards_ask _ fun _ _ _ h => .methods h
  constructors := guards_ask _ fun _ _ _ h => .constructors h
  fields := guards_ask _ fun _ _ _ h => .fields h
  supertype := guards_ask _ fun _ _ _ h => .supertype h
  interfaces := guards_ask _ fun _ _ _ h => .interfaces h
  annotations := guards_ask _ fun _ _ _ h => .annotations h
  package := guards_ask _ fun _ _ _ h => .package h
  accessors _ := guards_ask _ fun _ _ _ h => .accessors h
  reads := guards_readAttribute named

/-- A walk of a type is what the unguarded one unwinds to. -/
theorem unwinds_type (options : WalkOptions) (depth : Nat) (d : δ) (s : WalkState σ δ) :
    Unwinds p s (type p options depth d s) (unguarded p options depth d s) := by
  induction depth generalizing d s with
  | zero =>
    simp only [type, unguarded]
    split
    · exact .ok rfl
    · exact .of_raised rfl (.inr (.inl rfl))
  | succ depth ih =>
    simp only [type, unguarded]
    split
    · exact .ok rfl
    · have enters : (enter d s).opened = d :: s.opened := Track.opened_enter d s.toTrack
      have h := (relating_guards named).members (fun x t _ => ih x t) options (enter d s)
        (by rw [enters]; rfl)
      simp only [opened]
      generalize members p options (type p options depth) d (enter d s) = r at h ⊢
      generalize members p options (unguarded p options depth) d (enter d s) = r' at h ⊢
      cases h with
      | ok ht =>
        refine .ok ((Track.opened_leave d _).trans ?_)
        rw [ht, enters, List.erase_cons_head]
      | @error fault t path ht hr =>
        -- `d` is left last, behind all that was opened inside of it.
        have hshut : unwind p (path ++ [d]) fault t = shut p (unwind p path fault t) d := by
          simp [unwind]
        have hd : Unwinds p s (.error (unwind p (path ++ [d]) fault t).1
            (unwind p (path ++ [d]) fault t).2)
            (.error fault t : EStateM.Result Fault (WalkState σ δ) Unit) :=
          .error (by rw [ht, enters, List.append_assoc]; rfl) hr
        rw [hshut, shut] at hd
        cases hc : classify p d (unwind p path fault t).1 (unwind p path fault t).2 with
        | ok fault' t' => simpa only [hc] using hd
        | error fault' t' => simpa only [hc] using hd

end

section

variable {d : δ} {fault : Fault} {s : WalkState σ δ}

omit [DecidableEq δ] in
theorem classify_of_classified (h : fault.isUnclassified = false) :
    classify p d fault s = .ok fault s := by
  cases fault <;> first | rfl | cases h

/-- Types left for a fault that is classified already do no more than take their marks back. -/
theorem unwind_of_classified (h : fault.isUnclassified = false) (path : List δ) :
    unwind p path fault s = (fault, { s with
      marked := path.foldl List.erase s.marked
      notes := (path.map fun d => .rolledBack (p.shown d)).reverse ++ s.notes }) := by
  induction path generalizing s with
  | nil => rfl
  | cons d path ih =>
    have hshut : shut p (fault, s) d = (fault, rollBack p d s) := by
      simp only [shut, classify_of_classified h]
    rw [unwind, List.foldl_cons, hshut]
    exact ih.trans (by simp [rollBack])

theorem unwind_cons (path : List δ) :
    unwind p (d :: path) fault s = unwind p path (shut p (fault, s) d).1 (shut p (fault, s) d).2 :=
  rfl

/-- Leaving types changes neither moves nor calls. -/
theorem moves_calls_unwind (path : List δ) :
    (unwind p path fault s).2.moves = s.moves ∧ (unwind p path fault s).2.calls = s.calls := by
  induction path generalizing fault s with
  | nil => exact ⟨rfl, rfl⟩
  | cons d path ih =>
    have hshut : (shut p (fault, s) d).2.moves = s.moves ∧
        (shut p (fault, s) d).2.calls = s.calls := by
      simp only [shut]
      cases fault with
      | linkage message typeName =>
        simp only [classify, Bind.bind, EStateM.bind, consult]
        cases blame p d typeName s.memory <;> exact ⟨rfl, rfl⟩
      | _ => exact ⟨rfl, rfl⟩
    rw [unwind_cons]
    exact ⟨ih.1.trans hshut.1, ih.2.trans hshut.2⟩

end

end

end Walk

end TypeReach
