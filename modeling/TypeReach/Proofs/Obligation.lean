import TypeReach.Proofs.Forcing
import TypeReach.Proofs.Grammar

/-!
# Obligations

What the walk of a defined type has to do, as a list read off the definition: types to walk, in the
order in which they are written, and attributes whose types have to be defined. If all expressions
of a definition parse, the course of the type consists of these obligations, one behind the other.
-/

namespace TypeReach

namespace Expression

theorem known_arrays {r : TypeRef String} (h : r.Known) (n : Nat) :
    (TypeRef.array^[n] r).Known := by
  induction n generalizing r with
  | zero => exact h
  | succ n ih => exact ih (r := .array r) h

mutual

/-- Derivations make references of known nodes only. -/
theorem IsType.known {stands : TypeRef String → Prop} : ∀ {tokens : List Token}
    {r : TypeRef String}, IsType stands tokens r → r.Known
  | _, _, .unbounded => ⟨trivial, trivial⟩
  | _, _, .upper hrow => ⟨trivial, hrow.known⟩
  | _, _, .lower hrow => ⟨hrow.known, trivial⟩
  | _, _, .named n hnamed => known_arrays hnamed.known n

theorem IsNamed.known {stands : TypeRef String → Prop} : ∀ {tokens : List Token}
    {r : TypeRef String}, IsNamed stands tokens r → r.Known
  | _, _, .plain _ => trivial
  | _, _, .applied _ hrow => ⟨trivial, hrow.known⟩

theorem IsRow.known {stands : TypeRef String → Prop} : ∀ {separator : Token}
    {tokens : List Token} {rs : List (TypeRef String)}, IsRow stands separator tokens rs →
      TypeRef.KnownList rs
  | _, _, _, .last htype => ⟨htype.known, trivial⟩
  | _, _, _, .more htype _ hrow => ⟨htype.known, hrow.known⟩

end

theorem known_of_parse {source : String} {r : TypeRef String} (h : parse source = .ok r) :
    r.Known := by
  obtain ⟨tokens, -, hderives⟩ := parse_eq_ok_iff.1 h
  exact IsType.known hderives

end Expression

namespace TypeRef

variable {δ : Type}

open Course

mutual

/-- The course along a reference of known nodes is to visit its descriptors from left to right. -/
theorem course_eq_all : ∀ r : TypeRef δ, r.Known → r.course = all visit r.targets
  | .absent, _ => rfl
  | .concrete _, _ => rfl
  | .parameterized owner args, h => by
    rw [course, targets, all_append, course_eq_all owner h.1, courseList_eq_all_targets args h.2]
  | .wildcard lower upper, h => by
    rw [course, targets, all_append, courseList_eq_all_targets lower h.1,
      courseList_eq_all_targets upper h.2]
  | .array component, h => course_eq_all component h
  | .unknown _, h => h.elim

theorem courseList_eq_all_targets : ∀ rs : List (TypeRef δ), KnownList rs →
    courseList rs = all visit (targetsList rs)
  | [], _ => rfl
  | r :: rs, h => by
    rw [courseList, targetsList, all_append, course_eq_all r h.1, courseList_eq_all_targets rs h.2]

end

mutual

theorem known_map {ε : Type} (f : δ → ε) : ∀ r : TypeRef δ, r.Known → (r.map f).Known
  | .absent, _ => trivial
  | .concrete _, _ => trivial
  | .parameterized owner args, h => ⟨known_map f owner h.1, knownList_mapList f args h.2⟩
  | .wildcard lower upper, h => ⟨knownList_mapList f lower h.1, knownList_mapList f upper h.2⟩
  | .array component, h => known_map f component h
  | .unknown _, h => h.elim

theorem knownList_mapList {ε : Type} (f : δ → ε) : ∀ rs : List (TypeRef δ), KnownList rs →
    KnownList (mapList f rs)
  | [], _ => trivial
  | r :: rs, h => ⟨known_map f r h.1, knownList_mapList f rs h.2⟩

end

end TypeRef

theorem Table.get?_of_mem {β : Type} {t : Table β} {name : String} {v : β}
    (h : (name, v) ∈ t.entries) : t.get? name = some v := by
  obtain ⟨es, distinct⟩ := t
  simp only [Table.get?]
  induction es with
  | nil => simp at h
  | cons e es ih =>
    obtain ⟨n, w⟩ := e
    have hd := List.nodup_cons.1 distinct
    rcases List.mem_cons.1 h with heq | h
    · cases heq
      simp [Table.getIn?]
    · have hne : n ≠ name := by
        rintro rfl
        exact hd.1 (List.mem_map.2 ⟨_, h, rfl⟩)
      simpa [Table.getIn?, hne] using ih hd.2 h

theorem Table.mem_of_get? {β : Type} {t : Table β} {name : String} {v : β}
    (h : t.get? name = some v) : (name, v) ∈ t.entries := by
  obtain ⟨es, distinct⟩ := t
  simp only [Table.get?] at h
  induction es with
  | nil => cases h
  | cons e es ih =>
    obtain ⟨n, w⟩ := e
    by_cases hn : n = name
    · simp only [Table.getIn?, hn, if_true, Option.some.injEq] at h
      simp [hn, h]
    · simp only [Table.getIn?, hn, if_false] at h
      exact List.mem_cons_of_mem _ (ih (List.nodup_cons.1 distinct).2 h)

theorem Table.mem_entries_iff {β : Type} {t : Table β} {name : String} {v : β} :
    (name, v) ∈ t.entries ↔ t.get? name = some v :=
  ⟨get?_of_mem, mem_of_get?⟩

namespace Graph

/-- What a walk has to do: to walk a type, or to resolve the types that an attribute names. -/
inductive Obligation where
  | walk (d : Descriptor)
  | force (v : Value)

namespace Obligation

/-- The types in an expression, from left to right. -/
def ofExpression (expression : String) : List Obligation :=
  match Expression.parse expression with
  | .ok r => r.targets.map fun name => walk (.named name)
  | .error _ => []

/-- The types in the expression in a slot. -/
def ofSlot (slot : Option String) : List Obligation :=
  slot.toList.flatMap ofExpression

/-- The type of an annotation, and its attributes one by one. -/
def ofUse (a : AnnotationDefinition) : List Obligation :=
  walk (.named a.type) :: a.attributes.entries.map fun entry => force entry.2

/-- The types of all parameters, and then the annotations of each. -/
def ofParameters (ps : List ParameterDefinition) : List Obligation :=
  (ps.flatMap fun p => ofSlot p.type) ++ ps.flatMap fun p => p.annotations.flatMap ofUse

/-- What a method returns, raises and takes. -/
def ofMethod (m : MethodDefinition) : List Obligation :=
  ofSlot m.returns ++ m.raises.flatMap ofExpression ++ ofParameters m.parameters

/-- What a constructor raises and takes. -/
def ofConstructor (c : ConstructorDefinition) : List Obligation :=
  c.raises.flatMap ofExpression ++ ofParameters c.parameters

/-- The type of a field and its annotations. -/
def ofField (f : FieldDefinition) : List Obligation :=
  ofSlot f.type ++ f.annotations.flatMap ofUse

end Obligation

namespace Environment

variable (e : Environment)

open Obligation

/-- The annotations of the package that a definition names, if that is defined. -/
def packageAnnotations (d : TypeDefinition) : List AnnotationDefinition :=
  ((d.package.bind e.package).map PackageDefinition.annotations).getD []

/-- All that the walk of a type with a definition has to do, in order. -/
def obligations (options : WalkOptions) (d : TypeDefinition) : List Obligation :=
  d.methods.flatMap ofMethod ++ d.constructors.flatMap ofConstructor ++
    d.fields.flatMap ofField ++ (if options.traverseSupertype then ofSlot d.supertype else []) ++
    d.interfaces.flatMap ofExpression ++ d.annotations.flatMap ofUse ++
    (e.packageAnnotations d).flatMap ofUse

/-- The type that a value names, if it is not defined. -/
def missing? : Value → Option String
  | .typeName name => if e.defines name then none else some name
  | _ => none

/-- The first type that is named by an attribute, itself or as an item, and is not defined. -/
def absent? : Value → Option String
  | .list items => items.findSome? e.missing?
  | .tuple items => items.findSome? e.missing?
  | v => e.missing? v

end Environment

/-- The course of an obligation. -/
def Obligation.course (e : Environment) : Obligation → Course Descriptor
  | walk d => .visit d
  | force v =>
    match e.absent? v with
    | none => .done
    | some name => .fail (.notPresent (some name) none)

/-- An expression that can be read. -/
def Legible (expression : String) : Prop :=
  ∃ r, Expression.parse expression = .ok r

/-- The expressions of parameters. -/
def parameterExpressions (ps : List ParameterDefinition) : List String :=
  ps.flatMap fun p => p.type.toList

/-- The expressions of a method. -/
def MethodDefinition.expressions (m : MethodDefinition) : List String :=
  m.returns.toList ++ m.raises ++ parameterExpressions m.parameters

/-- The expressions of a constructor. -/
def ConstructorDefinition.expressions (c : ConstructorDefinition) : List String :=
  c.raises ++ parameterExpressions c.parameters

/-- The expressions of a definition that are walked. -/
def TypeDefinition.expressions (options : WalkOptions) (d : TypeDefinition) : List String :=
  d.methods.flatMap MethodDefinition.expressions ++
    d.constructors.flatMap ConstructorDefinition.expressions ++
    (d.fields.flatMap fun f => f.type.toList) ++
    (if options.traverseSupertype then d.supertype.toList else []) ++ d.interfaces

/-- All expressions of an environment can be read. -/
def Environment.AllLegible (e : Environment) : Prop :=
  ∀ name d, e.lookup name = some d → ∀ x ∈ d.expressions {}, Legible x

namespace Environment

section

variable (e : Environment)

open Course Obligation

theorem reading_of_legible {x : String} (h : Legible x) :
    ∃ r, reading x = .ok r ∧ r.course = all (Obligation.course e) (ofExpression x) := by
  obtain ⟨r, hr⟩ := h
  refine ⟨r.map .named, by simp only [reading, hr], ?_⟩
  have hk : (r.map Descriptor.named).Known := TypeRef.known_map _ r (Expression.known_of_parse hr)
  rw [TypeRef.course_eq_all _ hk, TypeRef.targets_map]
  simp only [ofExpression, hr, all_map]
  rfl

theorem slotReading_of_legible {slot : Option String} (h : ∀ x ∈ slot.toList, Legible x) :
    ∃ r, slotReading slot = .ok r ∧ r.course = all (Obligation.course e) (ofSlot slot) := by
  cases slot with
  | none => exact ⟨.absent, rfl, rfl⟩
  | some x =>
    obtain ⟨r, hr, hc⟩ := reading_of_legible e (h x (by simp))
    exact ⟨r, hr, by simpa [ofSlot] using hc⟩

/-- If each of several steps gives the course of its obligations, so do all of them. -/
theorem exists_mapM_course {β γ : Type} {f : β → Except Fault γ} {g : γ → Course Descriptor}
    {owed : β → List Obligation} {bs : List β}
    (h : ∀ b ∈ bs, ∃ c, f b = .ok c ∧ g c = all (Obligation.course e) (owed b)) :
    ∃ cs, bs.mapM f = .ok cs ∧ all g cs = all (Obligation.course e) (bs.flatMap owed) := by
  induction bs with
  | nil => exact ⟨[], rfl, rfl⟩
  | cons b bs ih =>
    obtain ⟨c, hc, hg⟩ := h b (by simp)
    obtain ⟨cs, hcs, hgs⟩ := ih fun x hx => h x (List.mem_cons_of_mem b hx)
    refine ⟨c :: cs, ?_, ?_⟩
    · rw [List.mapM_cons, hc, hcs]
      rfl
    · rw [List.flatMap_cons, all_append, all_cons, hg, hgs]

theorem mapM_reading_of_legible {xs : List String} (h : ∀ x ∈ xs, Legible x) :
    ∃ rs, xs.mapM reading = .ok rs ∧
      all TypeRef.course rs = all (Obligation.course e) (xs.flatMap ofExpression) :=
  exists_mapM_course e fun x hx => reading_of_legible e (h x hx)

theorem absent?_eq (v : Value) : e.absent? v = e.firstMissing v.outerTypeNames := by
  have single (v : Value) : e.missing? v = e.firstMissing v.typeName?.toList := by
    cases v with
    | typeName name =>
      cases h : e.defines name <;> simp [missing?, firstMissing, Value.typeName?, h]
    | _ => rfl
  have row (items : List Value) :
      items.findSome? e.missing? = e.firstMissing (items.filterMap Value.typeName?) := by
    induction items with
    | nil => rfl
    | cons v items ih =>
      rw [List.findSome?_cons, ih, single]
      cases v with
      | typeName name =>
        cases h : e.defines name <;> simp [firstMissing, Value.typeName?, h]
      | _ => rfl
  cases v with
  | list items => exact row items
  | tuple items => exact row items
  | typeName name => exact single (.typeName name)
  | _ => rfl

/-- What reading an attribute with a value comes to: the types that it names are resolved, or one of
them is missing. A value that must not be read names none. -/
inductive Resolves (v : Value) : Except Fault Value → Prop
  | resolved {w} : e.absent? v = none → Resolves v (.ok w)
  | restricted {message} : e.absent? v = none → Resolves v (.error (.restricted message))
  | missing {name} : e.absent? v = some name → Resolves v (.error (.notPresent (some name) none))

theorem resolves_read {a : AnnotationDefinition} {accessor : String} {v : Value}
    (h : a.attributes.get? accessor = some v) : e.Resolves v (e.read a accessor) := by
  by_cases hv : ∃ reason, v = .restricted reason
  · obtain ⟨reason, rfl⟩ := hv
    simp only [read, h]
    exact .restricted rfl
  · rw [e.read_eq h fun reason heq => hv ⟨reason, heq⟩, ifDefined]
    have habsent : e.absent? v = e.firstMissing v.outerTypeNames := e.absent?_eq v
    cases hfirst : e.firstMissing v.outerTypeNames with
    | none => exact .resolved (habsent.trans hfirst)
    | some name => exact .missing (habsent.trans hfirst)

/-- To read an attribute is to resolve the types that it names; one that must not be read names
none. -/
theorem attributeCourse_eq (a : GraphAnnotationUse) {accessor : String} {v : Value}
    (h : a.value.attributes.get? accessor = some v) :
    e.answers.attributeCourse a accessor = (Obligation.force v).course e := by
  have hread : e.Resolves v (e.answers.invoke a accessor) := e.resolves_read h
  simp only [Answers.attributeCourse, Obligation.course]
  generalize e.answers.invoke a accessor = r at hread ⊢
  cases hread with
  | resolved hnone =>
    rw [hnone]
  | restricted hnone =>
    rw [hnone]
    rfl
  | missing hsome =>
    rw [hsome]

theorem useCourse_eq (a : AnnotationDefinition) :
    e.answers.useCourse { descriptor := e.handle a.type, value := a } =
      all (Obligation.course e) (ofUse a) := by
  have hattributes : all (e.answers.attributeCourse { descriptor := e.handle a.type, value := a })
      a.attributes.names = all (Obligation.course e) (a.attributes.entries.map fun entry =>
        .force entry.2) := by
    rw [Table.names, all_map, all_map]
    exact all_congr fun entry hentry =>
      e.attributeCourse_eq { descriptor := e.handle a.type, value := a } (Table.get?_of_mem hentry)
  rw [ofUse, all_cons, ← hattributes]
  rfl

theorem annotationsCourse_eq (as : List AnnotationDefinition) :
    e.answers.annotationsCourse (e.annotationSet as) =
      all (Obligation.course e) (as.flatMap ofUse) := by
  rw [Answers.annotationsCourse, Environment.annotationSet, all_map]
  exact all_flatMap fun a _ => e.useCourse_eq a

theorem parameters_of_legible {ps : List ParameterDefinition}
    (h : ∀ x ∈ parameterExpressions ps, Legible x) :
    ∃ rs, (ps.mapM fun p => slotReading p.type) = .ok rs ∧
      (all TypeRef.course rs).andThen (all e.answers.annotationsCourse
        (ps.map fun p => e.annotationSet p.annotations)) =
      all (Obligation.course e) (ofParameters ps) := by
  obtain ⟨rs, hrs, hc⟩ := exists_mapM_course e (f := fun p => slotReading p.type)
    fun p hp => slotReading_of_legible e fun x hx => h x (List.mem_flatMap.2 ⟨p, hp, hx⟩)
  refine ⟨rs, hrs, ?_⟩
  rw [hc, ofParameters, all_append, all_map]
  congr 1
  exact all_flatMap fun p _ => e.annotationsCourse_eq p.annotations

theorem readMethod_of_legible {m : MethodDefinition} (h : ∀ x ∈ m.expressions, Legible x) :
    ∃ m', e.readMethod m = .ok m' ∧
      e.answers.methodCourse m' = all (Obligation.course e) (ofMethod m) := by
  simp only [MethodDefinition.expressions, List.mem_append] at h
  obtain ⟨returns, hreturns, hreturnsCourse⟩ :=
    slotReading_of_legible e fun x hx => h x (.inl (.inl hx))
  obtain ⟨raises, hraises, hraisesCourse⟩ :=
    mapM_reading_of_legible e fun x hx => h x (.inl (.inr hx))
  obtain ⟨parameters, hparameters, hparametersCourse⟩ :=
    e.parameters_of_legible fun x hx => h x (.inr hx)
  refine ⟨{ name := m.name, returns, raises, parameters
            parameterAnnotations := m.parameters.map fun p => e.annotationSet p.annotations },
    ?_, ?_⟩
  · simp only [readMethod, hreturns, hraises, hparameters]
    rfl
  · rw [Answers.methodCourse, ofMethod, all_append, all_append, ← hreturnsCourse, ← hraisesCourse,
      ← hparametersCourse, andThen_assoc]

theorem readConstructor_of_legible (owner : String) {c : ConstructorDefinition}
    (h : ∀ x ∈ c.expressions, Legible x) :
    ∃ c', e.readConstructor owner c = .ok c' ∧
      e.answers.constructorCourse c' = all (Obligation.course e) (ofConstructor c) := by
  simp only [ConstructorDefinition.expressions, List.mem_append] at h
  obtain ⟨raises, hraises, hraisesCourse⟩ :=
    mapM_reading_of_legible e fun x hx => h x (.inl hx)
  obtain ⟨parameters, hparameters, hparametersCourse⟩ :=
    e.parameters_of_legible fun x hx => h x (.inr hx)
  refine ⟨{ name := owner, raises, parameters
            parameterAnnotations := c.parameters.map fun p => e.annotationSet p.annotations },
    ?_, ?_⟩
  · simp only [readConstructor, hraises, hparameters]
    rfl
  · rw [Answers.constructorCourse, ofConstructor, all_append, ← hraisesCourse, ← hparametersCourse]

theorem readField_of_legible {f : FieldDefinition} (h : ∀ x ∈ f.type.toList, Legible x) :
    ∃ f', e.readField f = .ok f' ∧
      e.answers.fieldCourse f' = all (Obligation.course e) (ofField f) := by
  obtain ⟨type, htype, hcourse⟩ := slotReading_of_legible e h
  refine ⟨{ name := f.name, type, annotations := e.annotationSet f.annotations }, ?_, ?_⟩
  · simp only [readField, htype]
    rfl
  · rw [Answers.fieldCourse, ofField, all_append, ← hcourse, e.annotationsCourse_eq]

theorem packageCourse_eq (d : TypeDefinition) :
    e.answers.packageCourse (e.packageSet d) =
      all (Obligation.course e) ((e.packageAnnotations d).flatMap ofUse) := by
  simp only [Environment.packageSet, Environment.packageAnnotations]
  cases d.package with
  | none => rfl
  | some name =>
    simp only [Option.map_some, Option.bind_some, Answers.packageCourse]
    cases e.package name with
    | none => rfl
    | some p => exact e.annotationsCourse_eq p.annotations

/-- The course of a defined type consists of its obligations, one behind the other. -/
theorem course_of_defined {d : Descriptor} {definition : TypeDefinition} (options : WalkOptions)
    (hd : e.lookup d.typeName = some definition) (h : ∀ x ∈ definition.expressions {}, Legible x) :
    e.answers.course options d = all (Obligation.course e) (e.obligations options definition) := by
  simp only [TypeDefinition.expressions, List.mem_append] at h
  have hfound : e.found d = .ok definition := found_eq_ok.2 hd
  obtain ⟨methods, hmethods, hmethodsCourse⟩ := exists_mapM_course e (f := e.readMethod)
    fun m hm => e.readMethod_of_legible fun x hx =>
      h x (.inl (.inl (.inl (.inl (List.mem_flatMap.2 ⟨m, hm, hx⟩)))))
  obtain ⟨constructors, hconstructors, hconstructorsCourse⟩ :=
    exists_mapM_course e (f := e.readConstructor definition.name)
    fun c hc => e.readConstructor_of_legible definition.name fun x hx =>
      h x (.inl (.inl (.inl (.inr (List.mem_flatMap.2 ⟨c, hc, hx⟩)))))
  obtain ⟨fields, hfields, hfieldsCourse⟩ := exists_mapM_course e (f := e.readField)
    fun f hf => e.readField_of_legible fun x hx =>
      h x (.inl (.inl (.inr (List.mem_flatMap.2 ⟨f, hf, hx⟩))))
  obtain ⟨supertype, hsupertype, hsupertypeCourse⟩ :=
    slotReading_of_legible e fun x hx => h x (.inl (.inr (by simpa using hx)))
  obtain ⟨interfaces, hinterfaces, hinterfacesCourse⟩ :=
    mapM_reading_of_legible e fun x hx => h x (.inr hx)
  have supertypeCourse : Answers.supertypeCourse options supertype =
      all (Obligation.course e)
        (if options.traverseSupertype then ofSlot definition.supertype else []) := by
    rw [Answers.supertypeCourse]
    split
    · exact hsupertypeCourse
    · rfl
  have answers : e.answers.methods d = .ok methods ∧ e.answers.constructors d = .ok constructors ∧
      e.answers.fields d = .ok fields ∧ e.answers.supertype d = .ok supertype ∧
      e.answers.interfaces d = .ok interfaces ∧
      e.answers.annotations d = .ok (e.annotationSet definition.annotations) ∧
      e.answers.packageAnnotations d = .ok (e.packageSet definition) := by
    simp only [Environment.answers, hfound]
    exact ⟨hmethods, hconstructors, hfields, hsupertype, hinterfaces, rfl, rfl⟩
  obtain ⟨h₁, h₂, h₃, h₄, h₅, h₆, h₇⟩ := answers
  simp only [Answers.course, h₁, h₂, h₃, h₄, h₅, h₆, h₇, after]
  rw [hmethodsCourse, hconstructorsCourse, hfieldsCourse, supertypeCourse, hinterfacesCourse,
    e.annotationsCourse_eq, e.packageCourse_eq]
  simp only [Environment.obligations, all_append, andThen_assoc]

/-- The course of a type that is not defined fails at once. -/
theorem course_of_undefined {d : Descriptor} (options : WalkOptions)
    (hd : e.lookup d.typeName = none) : e.answers.course options d = .fail
      (.linkage ("No definition found for type " ++ d.typeName) (some d.typeName)) := by
  have hmethods : e.answers.methods d = .error
      (.linkage ("No definition found for type " ++ d.typeName) (some d.typeName)) := by
    simp only [Environment.answers, found, hd]
    rfl
  rw [Answers.course, hmethods]
  rfl

end

end Environment

end Graph

end TypeReach
