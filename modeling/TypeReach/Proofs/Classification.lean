import TypeReach.Proofs.GraphAnswers
import TypeReach.Proofs.Unwinding

/-!
# Classification of faults

A walk fails with the first fault that comes up, whatever is open then. A failure to load or to find
a type becomes a failed resolution once, at the innermost open type; every other fault arrives as it
came up. Attributes that must not be read are passed over, and the walk goes on behind them as if
they had been read.
-/

namespace TypeReach

/-- Whether a note is about an attribute that was passed over. -/
def Note.isSkip : Note → Bool
  | skipped .. => true
  | _ => false

/-- The provider for which attributes that must not be read are read, too, and have no value. -/
def Provider.lenient {σ δ α ν : Type} (p : Provider σ δ α ν) : Provider σ δ α (Option ν) :=
  { p with
    invoke := fun a accessor m =>
      match p.invoke a accessor m with
      | .ok v m => .ok (some v) m
      | .error (.restricted _) m => (p.naming a.descriptor >>= fun _ => pure none) m
      | .error fault m => .error fault m }

/-- Type `A` has a field of type `B`, which has an annotation. One attribute of that must not be
read, and the next one names a type `Y` that is not defined. -/
def Graph.Environment.annotated : Graph.Environment :=
  ofDefinitions [
    { name := "A", fields := [{ name := "b", type := some "B" }] },
    { name := "B"
      annotations := [{
        type := "Mark"
        attributes := .ofEntries [("secret", .restricted "reserved"), ("kind", .typeName "Y")] }] },
    { name := "Mark" }] []

namespace Walk

variable {σ δ α ν β γ : Type} {p : Provider σ δ α ν}

/-- Two states differ in notes on attributes passed over only, and the second one has none. -/
structure Lacks (s t : WalkState σ δ) : Prop where
  track : t.toTrack = s.toTrack
  calls : t.calls = s.calls
  memory : t.memory = s.memory
  notes : t.notes = s.notes.filter fun n => !n.isSkip

/-- Two steps that end alike differ in notes on attributes passed over only. -/
inductive EndsLike : EStateM.Result Fault (WalkState σ δ) β →
    EStateM.Result Fault (WalkState σ δ) β → Prop
  | ok {b s t} : Lacks s t → EndsLike (.ok b s) (.ok b t)
  | error {fault s t} : Lacks s t → EndsLike (.error fault s) (.error fault t)

/-- A step and a lenient one end alike, from states that differ in such notes only. -/
def Passes (strict lenient : Walk σ δ β) : Prop :=
  ∀ s t, Lacks s t → EndsLike (strict s) (lenient t)

theorem passes_pure (b : β) : Passes (pure b : Walk σ δ β) (pure b) :=
  fun _ _ h => .ok h

theorem Passes.bind {a b : Walk σ δ β} {f g : β → Walk σ δ γ} (ha : Passes a b)
    (hf : ∀ x, Passes (f x) (g x)) : Passes (a >>= f) (b >>= g) := by
  intro s t hst
  have h := ha s t hst
  simp only [Bind.bind, EStateM.bind]
  generalize a s = r at h ⊢
  generalize b t = r' at h ⊢
  cases h with
  | ok h => exact hf _ _ _ h
  | error h => exact .error h

theorem passes_stop (why : Unwalkable) :
    Passes (throw (.unwalkable why) : Walk σ δ Unit) (throw (.unwalkable why)) :=
  fun _ _ h => .error h

theorem passes_note {n : Note} (hn : n.isSkip = false) : Passes (note n : Walk σ δ Unit) (note n) :=
  fun _ _ h => .ok ⟨h.track, h.calls, h.memory, by simp [h.notes, hn]⟩

theorem passes_consult (look : Lookup σ β) :
    Passes (consult look : Walk σ δ β) (consult look) := by
  intro s t h
  simp only [consult, h.memory]
  cases look s.memory with
  | ok b m => exact .ok ⟨h.track, h.calls, rfl, h.notes⟩
  | error fault m => exact .error ⟨h.track, h.calls, rfl, h.notes⟩

theorem passes_ask (call : Call) (look : Lookup σ β) :
    Passes (ask call look : Walk σ δ β) (ask call look) :=
  fun _ _ h => passes_consult look _ _
    ⟨h.track, congrArg (call :: ·) h.calls, h.memory, h.notes⟩

/-- A lenient provider never says that an attribute must not be read, and then nothing is noted. -/
theorem passes_readAttribute (named : ∀ d m, ∃ name m', p.naming d m = .ok name m')
    (a : AnnotationUse δ α) (accessor : String) :
    Passes (readAttribute p a accessor) (readAttribute p.lenient a accessor) := by
  intro s t h
  simp only [readAttribute, ask, consult, Provider.lenient, h.memory]
  cases hi : p.invoke a accessor s.memory with
  | ok w m => exact .ok ⟨h.track, by simp [h.calls], rfl, h.notes⟩
  | error fault m =>
    cases fault with
    | restricted message =>
      obtain ⟨name, m', hn⟩ := named a.descriptor m
      simp only [skip, Bind.bind, EStateM.bind, consult, hn]
      exact .ok ⟨h.track, by simp [h.calls], rfl, by simp [h.notes, Note.isSkip]⟩
    | _ => exact .error ⟨h.track, by simp [h.calls], rfl, h.notes⟩

theorem relating_passes (named : ∀ d m, ∃ name m', p.naming d m = .ok name m') (d : δ) :
    Relating p p.lenient d Passes where
  pure := passes_pure
  bind := Passes.bind
  stop := passes_stop
  methods := passes_ask _ _
  constructors := passes_ask _ _
  fields := passes_ask _ _
  supertype := passes_ask _ _
  interfaces := passes_ask _ _
  annotations := passes_ask _ _
  package := passes_ask _ _
  accessors _ := passes_ask _ _
  reads := passes_readAttribute named

/-- Faults are classified by names only, and a lenient provider has the same. -/
theorem passes_classify (d : δ) (fault : Fault) :
    Passes (classify p d fault) (classify p.lenient d fault) := by
  cases fault with
  | linkage message typeName =>
    exact (passes_consult (blame p d typeName)).bind fun _ =>
      (passes_note rfl).bind fun _ => passes_pure _
  | notPresent typeName cause => exact (passes_note rfl).bind fun _ => passes_pure _
  | _ => exact passes_pure _

variable [DecidableEq δ]

theorem Passes.opened {a b : Walk σ δ Unit} (d : δ) (h : Passes a b) :
    Passes (opened p d a) (opened p.lenient d b) := by
  intro s t hst
  have entered : Lacks (enter d s) (enter d t) :=
    ⟨congrArg (Track.enter d) hst.track, hst.calls, hst.memory, hst.notes⟩
  have rolledBack {s t : WalkState σ δ} (h : Lacks s t) :
      Lacks (rollBack p d s) (rollBack p.lenient d t) :=
    ⟨congrArg (Track.rollBack d) h.track, h.calls, h.memory,
      by simp [rollBack, h.notes, Note.isSkip, Provider.lenient]⟩
  have hab := h _ _ entered
  simp only [Walk.opened]
  generalize a (enter d s) = r at hab ⊢
  generalize b (enter d t) = r' at hab ⊢
  cases hab with
  | ok h => exact .ok ⟨congrArg (Track.leave d) h.track, h.calls, h.memory, h.notes⟩
  | @error fault s' t' h =>
    have hc := passes_classify (p := p) d fault s' t' h
    simp only
    generalize classify p d fault s' = c at hc ⊢
    generalize classify p.lenient d fault t' = c' at hc ⊢
    cases hc with
    | ok h => exact .error (rolledBack h)
    | error h => exact .error (rolledBack h)

/-- A lenient walk of a type ends like a strict one. -/
theorem passes_type (named : ∀ d m, ∃ name m', p.naming d m = .ok name m') (options : WalkOptions)
    (depth : Nat) (d : δ) :
    Passes (type p options depth d) (type p.lenient options depth d) := by
  induction depth generalizing d with
  | zero =>
    intro s t h
    have marked : t.marked = s.marked := congrArg Track.marked h.track
    simp only [type, marked]
    split
    · exact .ok h
    · exact .error h
  | succ depth ih =>
    intro s t h
    have marked : t.marked = s.marked := congrArg Track.marked h.track
    have walked : Passes (members p options (type p options depth) d)
        (members p.lenient options (type p.lenient options depth) d) :=
      (relating_passes named d).members ih options
    simp only [type, marked]
    split
    · exact .ok h
    · exact walked.opened d s t h

/-- The name under which a failure to load is reported while `d` is the innermost open type: that of
the fault if it has one that is not empty, and else that of `d`. -/
def Blames (p : Provider σ δ α ν) (d : δ) (memory : σ) (typeName : Option String)
    (name : String) : Prop :=
  (typeName = some name ∧ name ≠ "") ∨
    ((typeName = none ∨ typeName = some "") ∧ ∃ memory', p.naming d memory = .ok name memory')

omit [DecidableEq δ] in
theorem exists_blames (named : ∀ d m, ∃ name m', p.naming d m = .ok name m') (d : δ) (memory : σ)
    (typeName : Option String) :
    ∃ name memory', blame p d typeName memory = .ok name memory' ∧
      Blames p d memory typeName name := by
  obtain ⟨own, m', hn⟩ := named d memory
  cases typeName with
  | none => exact ⟨own, m', hn, .inr ⟨.inl rfl, m', hn⟩⟩
  | some name =>
    by_cases h : name = ""
    · exact ⟨own, m', by simp [blame, h, hn], .inr ⟨.inr (by rw [h]), m', hn⟩⟩
    · exact ⟨name, memory, by simp [blame, h]; rfl, .inl ⟨rfl, h⟩⟩

/-- The notes of types that lose their marks, in order. -/
def rollBackNotes (p : Provider σ δ α ν) (path : List δ) : List Note :=
  path.map fun d => .rolledBack (p.shown d)

variable {d : δ} {path : List δ} {fault : Fault} {s : WalkState σ δ}

theorem unwind_linkage (named : ∀ d m, ∃ name m', p.naming d m = .ok name m') (d : δ)
    (path : List δ) (message : String) (typeName : Option String) (s : WalkState σ δ) :
    ∃ name, Blames p d s.memory typeName name ∧
      let r := unwind p (d :: path) (.linkage message typeName) s
      r.1 = .unresolved (some name) (some (.linkage message typeName)) ∧
      r.2.notes.reverse = s.notes.reverse ++
        .linkage name (.linkage message typeName) :: rollBackNotes p (d :: path) := by
  obtain ⟨name, m', hb, hname⟩ := exists_blames named d s.memory typeName
  refine ⟨name, hname, ?_⟩
  have hshut : shut p (.linkage message typeName, s) d =
      (.unresolved (some name) (some (.linkage message typeName)), rollBack p d { s with
        memory := m', notes := .linkage name (.linkage message typeName) :: s.notes }) := by
    simp only [shut, classify, Bind.bind, EStateM.bind, consult, hb, note]
    rfl
  rw [unwind_cons, hshut, unwind_of_classified rfl]
  exact ⟨rfl, by simp [rollBack, rollBackNotes]⟩

theorem unwind_notPresent (d : δ) (path : List δ) (typeName : Option String)
    (cause : Option Fault) (s : WalkState σ δ) :
    let r := unwind p (d :: path) (.notPresent typeName cause) s
    r.1 = .unresolved typeName (some (.notPresent typeName cause)) ∧
      r.2.notes.reverse = s.notes.reverse ++ .lazy typeName :: rollBackNotes p (d :: path) := by
  have hshut : shut p (.notPresent typeName cause, s) d =
      (.unresolved typeName (some (.notPresent typeName cause)), rollBack p d { s with
        notes := .lazy typeName :: s.notes }) := rfl
  rw [unwind_cons, hshut, unwind_of_classified rfl]
  exact ⟨rfl, by simp [rollBack, rollBackNotes]⟩

theorem unwind_other (h : fault.isUnclassified = false) (path : List δ) (s : WalkState σ δ) :
    let r := unwind p path fault s
    r.1 = fault ∧ r.2.notes.reverse = s.notes.reverse ++ rollBackNotes p path := by
  rw [unwind_of_classified h]
  exact ⟨rfl, by simp [rollBackNotes]⟩

/-- What a fault becomes on its way out, and what is noted of it: it came up while the given types
were open, innermost first, and left a memory. -/
inductive Classifies (p : Provider σ δ α ν) (memory : σ) : List δ → Fault → Fault → List Note → Prop
  | linkage {d : δ} {outer : List δ} {message : String} {typeName : Option String}
      {name : String} : Blames p d memory typeName name →
      Classifies p memory (d :: outer) (.linkage message typeName)
        (.unresolved (some name) (some (.linkage message typeName)))
        (.linkage name (.linkage message typeName) :: rollBackNotes p (d :: outer))
  | notPresent {d : δ} {outer : List δ} {typeName : Option String} {cause : Option Fault} :
      Classifies p memory (d :: outer) (.notPresent typeName cause)
        (.unresolved typeName (some (.notPresent typeName cause)))
        (.lazy typeName :: rollBackNotes p (d :: outer))
  | other {path : List δ} {fault : Fault} : fault.isUnclassified = false →
      Classifies p memory path fault fault (rollBackNotes p path)

theorem classifies_unwind (named : ∀ d m, ∃ name m', p.naming d m = .ok name m')
    (h : Raised p fault s) :
    ∃ notes, Classifies p s.memory s.opened fault (unwind p s.opened fault s).1 notes ∧
      (unwind p s.opened fault s).2.notes.reverse = s.notes.reverse ++ notes := by
  have other (h : fault.isUnclassified = false) :
      ∃ notes, Classifies p s.memory s.opened fault (unwind p s.opened fault s).1 notes ∧
        (unwind p s.opened fault s).2.notes.reverse = s.notes.reverse ++ notes := by
    obtain ⟨hleft, hnotes⟩ := unwind_other (p := p) h s.opened s
    exact ⟨_, by rw [hleft]; exact .other h, hnotes⟩
  obtain ⟨why, rfl⟩ | rfl | ⟨d, outer, hopen, -⟩ := h
  · exact other rfl
  · exact other rfl
  · cases fault with
    | linkage message typeName =>
      obtain ⟨name, hname, hleft, hnotes⟩ := unwind_linkage named d outer message typeName s
      rw [hopen]
      exact ⟨_, by rw [hleft]; exact .linkage hname, hnotes⟩
    | notPresent typeName cause =>
      obtain ⟨hleft, hnotes⟩ := unwind_notPresent (p := p) d outer typeName cause s
      rw [hopen]
      exact ⟨_, by rw [hleft]; exact .notPresent, hnotes⟩
    | _ => exact other rfl

omit [DecidableEq δ] in
/-- What a fault becomes, if it does not stay as it is, is caused by it, and it is no failed
resolution. -/
theorem Classifies.caused {memory : σ} {left : Fault} {notes : List Note}
    (h : Classifies p memory path fault left notes) (hne : left ≠ fault) :
    ∃ name, left = .unresolved name (some fault) ∧ ∀ n cause, fault ≠ .unresolved n cause := by
  cases h with
  | linkage => exact ⟨_, rfl, by simp⟩
  | notPresent => exact ⟨_, rfl, by simp⟩
  | other => exact absurd rfl hne

end Walk

namespace Walker

open Walk

variable {σ δ α ν : Type} [DecidableEq δ] {p : Provider σ δ α ν}

/-- What comes of an unguarded walk of a root. -/
def loadUnguarded (p : Provider σ δ α ν) (depth : Nat) (w : Walker δ) (memory : σ) (root : δ) :
    WalkReport σ δ Unit :=
  w.run (unguarded p w.options depth root) memory

theorem load_eq_run (w : Walker δ) (depth : Nat) (memory : σ) (root : δ) :
    w.load p depth memory (.concrete root) = w.run (type p w.options depth root) memory := by
  simp only [load, Walk.reference]

/-- A walk does what the unguarded one does, and unwinds the types that are open at a fault. -/
theorem load_unwinds (named : ∀ d m, ∃ name m', p.naming d m = .ok name m') (w : Walker δ)
    (depth : Nat) (m : σ) (root : δ) :
    let r := w.load p depth m (.concrete root)
    let u := w.loadUnguarded p depth m root
    (u.outcome = .ok () ∧ r = u) ∨
      ∃ fault s, u = .ofState (.error fault) s ∧ s.opened = openAfter u.moves ∧
        Raised p fault s ∧ r = .ofState (.error (unwind p (openAfter u.moves) fault s).1)
          (unwind p (openAfter u.moves) fault s).2 := by
  have h := unwinds_type named w.options depth root
    { marked := w.marked, moves := [], notes := [], calls := [], memory := m }
  simp only [load_eq_run, loadUnguarded, run]
  generalize type p w.options depth root _ = r at h ⊢
  generalize unguarded p w.options depth root _ = r' at h ⊢
  cases h with
  | ok h => exact .inl ⟨rfl, rfl⟩
  | @error fault t path ht hr =>
    have hopen : t.opened = path := ht.trans (List.append_nil path)
    refine .inr ⟨fault, t, rfl, rfl, hr, ?_⟩
    rw [← hopen]
    rfl

/-- A lenient walk comes to the same as a strict one, except that it passes over nothing. -/
theorem load_lenient (named : ∀ d m, ∃ name m', p.naming d m = .ok name m') (w : Walker δ)
    (depth : Nat) (m : σ) (root : δ) :
    let r := w.load p depth m (.concrete root)
    w.load p.lenient depth m (.concrete root) =
      { r with notes := r.notes.filter fun n => !n.isSkip } := by
  have h := passes_type named w.options depth root
    { marked := w.marked, moves := [], notes := [], calls := [], memory := m } _
    ⟨rfl, rfl, rfl, rfl⟩
  simp only [load_eq_run, run]
  generalize type p w.options depth root _ = r at h ⊢
  generalize type p.lenient w.options depth root _ = r' at h ⊢
  cases h with
  | ok h => simp [WalkReport.ofState, h.track, h.calls, h.memory, h.notes]
  | error h => simp [WalkReport.ofState, h.track, h.calls, h.memory, h.notes]

section

variable {left fault : Fault} {outcome : Except Fault Unit}

theorem failure_eq_ok_some : failure outcome = .ok (some left) ↔
    outcome = .error left ∧ ∃ name cause, left = .unresolved name cause := by
  cases outcome with
  | ok => simp [failure]
  | error fault => cases fault <;> simp [failure] <;> grind

theorem failure_eq_error : failure outcome = .error fault ↔
    outcome = .error fault ∧ ∀ name cause, fault ≠ .unresolved name cause := by
  cases outcome with
  | ok => simp [failure]
  | error fault => cases fault <;> simp [failure] <;> grind

end

/-- A walk of any provider, to any depth, goes as the unguarded one up to the first fault. That one
comes from the walk itself or from a question put while a type was open, and the innermost open type
classifies it: a failure to load or to find a type becomes a failed resolution caused by it, and any
other fault stays as it is. A check tells failed resolutions from other faults. Attributes that must
not be read change no more than the notes. -/
theorem load_classifies (named : ∀ d m, ∃ name m', p.naming d m = .ok name m') (w : Walker δ)
    (depth : Nat) (m : σ) (root : δ) :
    let r := w.load p depth m (.concrete root)
    let u := w.loadUnguarded p depth m root
    let c := w.check p depth m (.concrete root)
    (u.outcome = .ok () → r = u) ∧
    (∀ fault, u.outcome = .error fault →
      ((∃ why, fault = .unwalkable why) ∨ fault = .nestedTooDeep ∨
        ∃ d outer, openAfter u.moves = d :: outer ∧ Refuses p d fault u.memory) ∧
      ∃ left notes, Classifies p u.memory (openAfter u.moves) fault left notes ∧
        r.outcome = .error left ∧ r.notes = u.notes ++ notes ∧
        r.moves = u.moves ∧ r.calls = u.calls ∧
        (left ≠ fault → (∃ name, left = .unresolved name (some fault)) ∧
          ∀ name cause, fault ≠ .unresolved name cause)) ∧
    (c.outcome = .ok none ↔ r.outcome = .ok ()) ∧
    (∀ left, c.outcome = .ok (some left) ↔
      r.outcome = .error left ∧ ∃ name cause, left = .unresolved name cause) ∧
    (∀ fault, c.outcome = .error fault ↔
      r.outcome = .error fault ∧ ∀ name cause, fault ≠ .unresolved name cause) ∧
    c.marked = r.marked ∧
    w.load p.lenient depth m (.concrete root) =
      { r with notes := r.notes.filter fun n => !n.isSkip } := by
  intro r u c
  refine ⟨fun hu => ?_, fun fault hu => ?_, failure_eq_ok_none, fun _ => failure_eq_ok_some,
    fun _ => failure_eq_error, rfl, load_lenient named w depth m root⟩
  · obtain ⟨-, h⟩ | ⟨_, s, hr, -⟩ := load_unwinds named w depth m root
    · exact h
    · exact absurd (hu.symm.trans (congrArg WalkReport.outcome hr)) (by simp [WalkReport.ofState])
  · obtain ⟨h, -⟩ | ⟨fault', s, hr, hopen, hraised, hl⟩ := load_unwinds named w depth m root
    · exact absurd (hu.symm.trans h) (by simp)
    · have hfault : fault' = fault :=
        Except.error.inj ((congrArg WalkReport.outcome hr).symm.trans hu)
      subst hfault
      have hmemory : u.memory = s.memory := congrArg WalkReport.memory hr
      have hunwound : (unwind p s.opened fault' s).2.moves = s.moves ∧
          (unwind p s.opened fault' s).2.calls = s.calls := moves_calls_unwind s.opened
      obtain ⟨notes, hc, hnotes⟩ := classifies_unwind named hraised
      rw [← hopen] at hl
      refine ⟨?_, _, notes, ?_, congrArg WalkReport.outcome hl, ?_, ?_, ?_, fun hne => ?_⟩
      · rw [← hopen, hmemory]
        exact hraised
      · rw [← hopen, hmemory]
        exact hc
      · exact (congrArg WalkReport.notes hl).trans
          (hnotes.trans (by rw [show u.notes = s.notes.reverse from congrArg WalkReport.notes hr]))
      · exact (congrArg WalkReport.moves hl).trans
          ((congrArg List.reverse hunwound.1).trans (congrArg WalkReport.moves hr).symm)
      · exact (congrArg WalkReport.calls hl).trans
          ((congrArg List.reverse hunwound.2).trans (congrArg WalkReport.calls hr).symm)
      · obtain ⟨name, hleft, hfault⟩ := hc.caused hne
        exact ⟨⟨name, hleft⟩, hfault⟩

section

open TypeReach.Graph TypeReach.Graph.Environment

/-- `Y` is missed while `B` is the innermost open type; its annotation type `Mark` is closed. -/
theorem load_classifies_annotated :
    let p := annotated.provider
    let root : Descriptor := .named "A"
    let r := ({} : Walker Descriptor).load p annotated.depth .empty (.concrete root)
    let u := ({} : Walker Descriptor).loadUnguarded p annotated.depth .empty root
    (∀ d m, ∃ name m', p.naming d m = .ok name m') ∧
    u.outcome = .error (.notPresent (some "Y") none) ∧
    openAfter u.moves = [.named "B", .named "A"] ∧
    ∃ left notes, Classifies p u.memory (openAfter u.moves) (.notPresent (some "Y") none) left notes ∧
      r.outcome = .error left ∧ r.notes = u.notes ++ notes ∧
      left = .unresolved (some "Y") (some (.notPresent (some "Y") none)) := by
  intro p root r u
  have named : ∀ d m, ∃ name m', p.naming d m = .ok name m' := fun d m => ⟨d.typeName, m, rfl⟩
  have hu : u.outcome = .error (.notPresent (some "Y") none) := by decide +kernel
  obtain ⟨-, hfault, -⟩ := load_classifies named {} annotated.depth .empty root
  obtain ⟨-, left, notes, hc, hr, hnotes, -⟩ := hfault _ hu
  have hleft : r.outcome = .error (.unresolved (some "Y") (some (.notPresent (some "Y") none))) := by
    decide +kernel
  exact ⟨named, hu, by decide +kernel, left, notes, hc, hr, hnotes,
    Except.error.inj (hr.symm.trans hleft)⟩

end

end Walker

end TypeReach
