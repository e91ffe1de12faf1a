import TypeReach.Proofs.GraphAnswers
import TypeReach.Proofs.Replay

/-!
# Growing environments

An environment grows when names that were not defined are defined. Answers that were given stay the
same, and faults may turn into answers. So the course of a type either stays the same, or stopped
before and goes on now.
-/

namespace TypeReach

namespace Answers

variable {δ α ν : Type}

/-- What was answered stays answered, and what must not be read stays so. -/
structure Grows (a b : Answers δ α ν) : Prop where
  methods : ∀ d v, a.methods d = .ok v → b.methods d = .ok v
  constructors : ∀ d v, a.constructors d = .ok v → b.constructors d = .ok v
  fields : ∀ d v, a.fields d = .ok v → b.fields d = .ok v
  supertype : ∀ d v, a.supertype d = .ok v → b.supertype d = .ok v
  interfaces : ∀ d v, a.interfaces d = .ok v → b.interfaces d = .ok v
  annotations : ∀ d v, a.annotations d = .ok v → b.annotations d = .ok v
  packageAnnotations : ∀ d v, a.packageAnnotations d = .ok v → b.packageAnnotations d = .ok v
  accessors : ∀ use v, a.accessors use = .ok v → b.accessors use = .ok v
  invoke : ∀ use name v, a.invoke use name = .ok v → b.invoke use name = .ok v
  restricted : ∀ use name message, a.invoke use name = .error (.restricted message) →
    b.invoke use name = .error (.restricted message)
  naming : ∀ d v, a.naming d = .ok v → b.naming d = .ok v

namespace Grows

variable {a b : Answers δ α ν} (h : a.Grows b)

include h

theorem attributeCourse (use : AnnotationUse δ α) (name : String) :
    (a.attributeCourse use name).Grows (b.attributeCourse use name) := by
  unfold Answers.attributeCourse
  split
  · next v hv =>
    rw [h.invoke use name v hv]
    exact .refl _
  · next message hr =>
    rw [h.restricted use name message hr]
    exact .after (h.naming use.descriptor) fun _ => .refl _
  · exact Course.grows_fail _ _

theorem useCourse (use : AnnotationUse δ α) : (a.useCourse use).Grows (b.useCourse use) :=
  (Course.Grows.refl _).andThen (.after (h.accessors use) (.all (h.attributeCourse use)))

theorem annotationsCourse (uses : List (AnnotationUse δ α)) :
    (a.annotationsCourse uses).Grows (b.annotationsCourse uses) :=
  .all h.useCourse uses

theorem methodCourse (m : Method δ α) : (a.methodCourse m).Grows (b.methodCourse m) :=
  (Course.Grows.refl _).andThen <| (Course.Grows.refl _).andThen <|
    (Course.Grows.refl _).andThen (.all h.annotationsCourse m.parameterAnnotations)

theorem constructorCourse (c : Constructor δ α) :
    (a.constructorCourse c).Grows (b.constructorCourse c) :=
  (Course.Grows.refl _).andThen <| (Course.Grows.refl _).andThen
    (.all h.annotationsCourse c.parameterAnnotations)

theorem fieldCourse (f : Field δ α) : (a.fieldCourse f).Grows (b.fieldCourse f) :=
  (Course.Grows.refl _).andThen (h.annotationsCourse f.annotations)

theorem packageCourse (own : Option (List (AnnotationUse δ α))) :
    (a.packageCourse own).Grows (b.packageCourse own) := by
  cases own with
  | none => exact .refl _
  | some uses => exact h.annotationsCourse uses

/-- The course of a type grows with the answers. -/
theorem course (options : WalkOptions) (d : δ) : (a.course options d).Grows (b.course options d) :=
  (Course.Grows.after (h.methods d) (.all h.methodCourse)).andThen <|
  (Course.Grows.after (h.constructors d) (.all h.constructorCourse)).andThen <|
  (Course.Grows.after (h.fields d) (.all h.fieldCourse)).andThen <|
  (Course.Grows.after (h.supertype d) fun _ => .refl _).andThen <|
  (Course.Grows.after (h.interfaces d) fun _ => .refl _).andThen <|
  (Course.Grows.after (h.annotations d) h.annotationsCourse).andThen <|
  Course.Grows.after (h.packageAnnotations d) h.packageCourse

end Grows

end Answers

namespace Graph.Environment

variable {e e' : Environment}

/-- What is defined stays defined in the same way, and packages are the same. -/
structure Grows (e e' : Environment) : Prop where
  types : ∀ name definition, e.lookup name = some definition → e'.lookup name = some definition
  packages : ∀ name, e'.package name = e.package name

/-- Definitions of names that are not defined when their turn comes. -/
def AllNew (e : Environment) : List TypeDefinition → Prop
  | [] => True
  | d :: ds => e.lookup d.name = none ∧ (e.define d).AllNew ds

theorem Grows.refl (e : Environment) : e.Grows e := ⟨fun _ _ h => h, fun _ => rfl⟩

theorem Grows.trans {e'' : Environment} (h : e.Grows e') (h' : e'.Grows e'') : e.Grows e'' :=
  ⟨fun name definition hd => h'.types name definition (h.types name definition hd),
    fun name => (h'.packages name).trans (h.packages name)⟩

theorem grows_define {d : TypeDefinition} (h : e.lookup d.name = none) : e.Grows (e.define d) where
  types name definition hd := by
    simp only [lookup, define, Table.get?_put] at h hd ⊢
    split
    · next hn =>
      rw [hn, h] at hd
      cases hd
    · exact hd
  packages _ := rfl

theorem AllNew.grows {ds : List TypeDefinition} (h : e.AllNew ds) :
    e.Grows (ds.foldl define e) := by
  induction ds generalizing e with
  | nil => exact .refl e
  | cons d ds ih => exact (grows_define h.1).trans (ih h.2)

theorem allNew_append {ds ds' : List TypeDefinition} :
    e.AllNew (ds ++ ds') ↔ e.AllNew ds ∧ (ds.foldl define e).AllNew ds' := by
  induction ds generalizing e with
  | nil => simp [AllNew]
  | cons d ds ih => simp [AllNew, ih, and_assoc]

theorem Grows.defines (h : e.Grows e') {name : String} (hd : e.defines name = true) :
    e'.defines name = true := by
  obtain ⟨definition, hd⟩ := Option.isSome_iff_exists.1 hd
  exact Option.isSome_iff_exists.2 ⟨definition, h.types name definition hd⟩

theorem Grows.force (h : e.Grows e') {v v' : Value} (hv : e.force v = .ok v') :
    e'.force v = .ok v' := by
  cases v with
  | typeName name =>
    simp only [Environment.force] at hv ⊢
    split at hv
    · next hd =>
      rw [if_pos (h.defines hd)]
      exact hv
    · cases hv
  | _ => exact hv

theorem force_ne_restricted {v : Value} {message : String} :
    e.force v ≠ .error (.restricted message) := by
  intro h
  cases v with
  | typeName name =>
    simp only [Environment.force] at h
    split at h <;> cases h
  | _ => cases h

theorem Grows.forceAll (h : e.Grows e') {items : List Value} {v : Value}
    (hv : (do return Value.tuple (← items.mapM e.force)) = Except.ok v) :
    (do return Value.tuple (← items.mapM e'.force)) = Except.ok v := by
  obtain ⟨forced, hf, hv⟩ := exists_of_bind_eq_ok hv
  rw [mapM_eq_ok_of_forall (fun _ _ => h.force) hf]
  exact hv

theorem forceAll_ne_restricted {items : List Value} {message : String} :
    (do return Value.tuple (← items.mapM e.force)) ≠ Except.error (Fault.restricted message) := by
  intro h
  cases hf : items.mapM e.force with
  | ok forced =>
    rw [hf] at h
    cases h
  | error fault =>
    rw [hf] at h
    cases h
    obtain ⟨v, -, hv⟩ := exists_of_mapM_eq_error hf
    exact force_ne_restricted hv

/-- An attribute that could be read reads the same. -/
theorem Grows.read (h : e.Grows e') {a : AnnotationDefinition} {accessor : String} {v : Value}
    (hv : e.read a accessor = .ok v) : e'.read a accessor = .ok v := by
  unfold Environment.read at hv ⊢
  split at hv
  · cases hv
  · cases hv
  · exact h.forceAll hv
  · exact h.forceAll hv
  · exact h.force hv

/-- Whether an attribute must not be read does not depend on what is defined. -/
theorem read_eq_restricted {a : AnnotationDefinition} {accessor message : String}
    (hr : e.read a accessor = .error (.restricted message)) :
    e'.read a accessor = .error (.restricted message) := by
  unfold Environment.read at hr ⊢
  split at hr
  · cases hr
  · exact hr
  · exact absurd hr forceAll_ne_restricted
  · exact absurd hr forceAll_ne_restricted
  · exact absurd hr force_ne_restricted

theorem Grows.found (h : e.Grows e') {d : Descriptor} {definition : TypeDefinition}
    (hd : e.found d = .ok definition) : e'.found d = .ok definition :=
  found_eq_ok.2 (h.types _ _ (found_eq_ok.1 hd))

theorem Grows.packageSet (h : e.Grows e') (definition : TypeDefinition) :
    e'.packageSet definition = e.packageSet definition := by
  simp only [Environment.packageSet, h.packages]
  rfl

/-- What is asked about a definition is answered as before if the definition was there. -/
theorem Grows.bind_found {β : Type} (h : e.Grows e') {d : Descriptor} {v : β}
    {next : TypeDefinition → Except Fault β} (hv : e.found d >>= next = .ok v) :
    e'.found d >>= next = .ok v := by
  obtain ⟨definition, hd, hv⟩ := exists_of_bind_eq_ok hv
  rw [h.found hd]
  exact hv

/-- The answers of an environment grow with it. -/
theorem Grows.answers (h : e.Grows e') : e.answers.Grows e'.answers where
  methods _ _ hv := h.bind_found hv
  constructors _ _ hv := h.bind_found hv
  fields _ _ hv := h.bind_found hv
  supertype _ _ hv := h.bind_found hv
  interfaces _ _ hv := h.bind_found hv
  annotations _ _ hv := h.bind_found hv
  packageAnnotations d v hv := by
    simp only [Environment.answers, h.packageSet]
    exact h.bind_found hv
  accessors _ _ hv := hv
  invoke _ _ _ hv := h.read hv
  restricted _ _ _ hr := read_eq_restricted hr
  naming _ _ hv := hv

end Graph.Environment

end TypeReach
