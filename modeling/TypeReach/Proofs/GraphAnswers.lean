import TypeReach.Graph.Lookup
import TypeReach.Proofs.Dependency
import TypeReach.Proofs.Resolving
import TypeReach.Proofs.Stretch

/-!
# Answers of an environment

What an environment says about types does not depend on what the provider has parsed before. An
expression is read each time as if for the first time, a type that is not defined fails every
look-up, and each type that a defined one depends on is known by its name alone.
-/

namespace TypeReach

namespace TypeRef

variable {δ ε : Type}

mutual

theorem targets_map (f : δ → ε) : ∀ r : TypeRef δ, (r.map f).targets = r.targets.map f
  | absent => rfl
  | concrete _ => rfl
  | parameterized owner args => by
    simp only [map, targets, targets_map f owner, targetsList_mapList f args, List.map_append]
  | wildcard lower upper => by
    simp only [map, targets, targetsList_mapList f lower, targetsList_mapList f upper,
      List.map_append]
  | array component => targets_map f component
  | unknown _ => rfl

theorem targetsList_mapList (f : δ → ε) :
    ∀ rs : List (TypeRef δ), targetsList (mapList f rs) = (targetsList rs).map f
  | [] => rfl
  | r :: rs => by
    simp only [mapList, targetsList, targets_map f r, targetsList_mapList f rs, List.map_append]

end

end TypeRef

namespace Graph

/-- The reference that an expression is read as. -/
def reading (expression : String) : Except Fault (TypeRef Descriptor) :=
  match Expression.parse expression with
  | .ok r => .ok (r.map .named)
  | .error why => .error (.unusable (why.message expression))

/-- The reference in a slot. -/
def slotReading : Option String → Except Fault (TypeRef Descriptor)
  | none => .ok .absent
  | some expression => reading expression

/-- What is remembered of an expression is what it is read as. -/
def Faithful (parses : Parses) : Prop :=
  ∀ expression r, parses.get? expression = some r → reading expression = .ok r

theorem faithful_empty : Faithful .empty := by
  intro expression r h
  simp at h

namespace Environment

variable (e : Environment)

/-- The definition behind a descriptor. -/
def found (d : Descriptor) : Except Fault TypeDefinition :=
  match e.lookup d.typeName with
  | some definition => .ok definition
  | none => .error (.linkage ("No definition found for type " ++ d.typeName) (some d.typeName))

/-- A method with its references read. -/
def readMethod (m : MethodDefinition) : Except Fault (Method Descriptor AnnotationDefinition) := do
  let returns ← slotReading m.returns
  let raises ← m.raises.mapM reading
  let parameters ← m.parameters.mapM fun p => slotReading p.type
  return {
    name := m.name, returns, raises, parameters
    parameterAnnotations := m.parameters.map fun p => e.annotationSet p.annotations }

/-- A constructor of the type `owner` with its references read. -/
def readConstructor (owner : String) (c : ConstructorDefinition) :
    Except Fault (Constructor Descriptor AnnotationDefinition) := do
  let raises ← c.raises.mapM reading
  let parameters ← c.parameters.mapM fun p => slotReading p.type
  return {
    name := owner, raises, parameters
    parameterAnnotations := c.parameters.map fun p => e.annotationSet p.annotations }

/-- A field with its reference read. -/
def readField (f : FieldDefinition) : Except Fault (Field Descriptor AnnotationDefinition) := do
  let type ← slotReading f.type
  return { name := f.name, type, annotations := e.annotationSet f.annotations }

/-- The answers of an environment. -/
def answers : Answers Descriptor AnnotationDefinition Value where
  methods d := do (← e.found d).methods.mapM e.readMethod
  constructors d := do
    let definition ← e.found d
    definition.constructors.mapM (e.readConstructor definition.name)
  fields d := do (← e.found d).fields.mapM e.readField
  supertype d := do slotReading (← e.found d).supertype
  interfaces d := do (← e.found d).interfaces.mapM reading
  annotations d := return e.annotationSet (← e.found d).annotations
  packageAnnotations d := return e.packageSet (← e.found d)
  accessors a := .ok a.value.attributes.names
  invoke a accessor := e.read a.value accessor
  naming d := .ok d.typeName

open Lookup

/-- An environment reads an expression with each name known by its handle. -/
theorem read_handle (expression : String) :
    Expression.read e.handle expression = reading expression := by
  simp only [Expression.read, Expression.parseWith_eq_map, reading]
  cases Expression.parse expression <;> rfl

theorem gives_parsed (expression : String) :
    Gives Faithful (e.parsed expression) (reading expression) where
  answer_eq {m} hm := by
    simp only [answer, parsed]
    cases h : m.get? expression with
    | some r => exact (hm expression r h).symm
    | none =>
      simp only [read_handle]
      cases reading expression <;> rfl
  after {m} hm := by
    simp only [after, parsed]
    cases h : m.get? expression with
    | some r => exact hm
    | none =>
      simp only [read_handle]
      cases hr : reading expression with
      | error fault => exact hm
      | ok r =>
        intro other r' h'
        rw [Table.get?_put] at h'
        split at h'
        · next heq =>
          cases h'
          rw [heq, hr]
        · exact hm other r' h'

theorem gives_slot (slot : Option String) : Gives Faithful (e.slot slot) (slotReading slot) := by
  cases slot with
  | none => exact .pure _
  | some expression => exact e.gives_parsed expression

theorem gives_definition (d : Descriptor) : Gives Faithful (e.definition d) (e.found d) := by
  simp only [definition, found]
  cases e.lookup d.typeName with
  | none => exact .throw _
  | some definition => exact .pure definition

theorem gives_method (m : MethodDefinition) :
    Gives Faithful (e.resolveMethod m) (e.readMethod m) :=
  (e.gives_slot m.returns).bind fun _ => (Gives.mapM e.gives_parsed m.raises).bind fun _ =>
    (Gives.mapM (fun p => e.gives_slot p.type) m.parameters).bind fun _ => .pure _

theorem gives_constructor (owner : String) (c : ConstructorDefinition) :
    Gives Faithful (e.resolveConstructor owner c) (e.readConstructor owner c) :=
  (Gives.mapM e.gives_parsed c.raises).bind fun _ =>
    (Gives.mapM (fun p => e.gives_slot p.type) c.parameters).bind fun _ => .pure _

theorem gives_field (f : FieldDefinition) : Gives Faithful (e.resolveField f) (e.readField f) :=
  (e.gives_slot f.type).bind fun _ => .pure _

/-- While the parses remembered are faithful, the provider gives the answers of the environment. -/
theorem gives_provider : e.provider.Gives Faithful e.answers where
  methods d := (e.gives_definition d).bind fun _ => .mapM e.gives_method _
  constructors d := (e.gives_definition d).bind fun _ => .mapM (e.gives_constructor _) _
  fields d := (e.gives_definition d).bind fun _ => .mapM e.gives_field _
  supertype d := (e.gives_definition d).bind fun _ => e.gives_slot _
  interfaces d := (e.gives_definition d).bind fun _ => .mapM e.gives_parsed _
  annotations d := (e.gives_definition d).bind fun _ => .pure _
  packageAnnotations d := (e.gives_definition d).bind fun _ => .pure _
  accessors a := .pure _
  invoke a accessor := by
    constructor
    · intro m _
      simp only [answer, provider, answers]
      cases e.read a.value accessor <;> rfl
    · intro m hm
      simp only [after, provider]
      cases e.read a.value accessor <;> exact hm
  naming d := .pure _

theorem named_answers : e.answers.Named :=
  fun d => ⟨d.typeName, rfl⟩

variable {e}

theorem found_eq_ok {d : Descriptor} {definition : TypeDefinition} :
    e.found d = .ok definition ↔ e.lookup d.typeName = some definition := by
  unfold found
  cases e.lookup d.typeName <;> simp

theorem named_of_mem_reading {expression : String} {r : TypeRef Descriptor}
    (h : reading expression = .ok r) {x : Descriptor} (hx : x ∈ r.targets) :
    ∃ name, x = .named name := by
  unfold reading at h
  split at h
  · cases h
    rw [TypeRef.targets_map] at hx
    obtain ⟨name, -, rfl⟩ := List.mem_map.1 hx
    exact ⟨name, rfl⟩
  · cases h

theorem named_of_mem_slotReading {slot : Option String} {r : TypeRef Descriptor}
    (h : slotReading slot = .ok r) {x : Descriptor} (hx : x ∈ r.targets) :
    ∃ name, x = .named name := by
  cases slot with
  | none => cases h; simp [TypeRef.targets] at hx
  | some expression => exact named_of_mem_reading h hx

/-- A reference read from a slot. -/
def IsRead (r : TypeRef Descriptor) : Prop := ∃ slot, slotReading slot = .ok r

theorem isRead_of_mem_mapM {expressions : List String} {rs : List (TypeRef Descriptor)}
    (h : expressions.mapM reading = .ok rs) {r : TypeRef Descriptor} (hr : r ∈ rs) : IsRead r := by
  obtain ⟨expression, -, hx⟩ := exists_of_mem_mapM h hr
  exact ⟨some expression, hx⟩

theorem isRead_of_mem_parameters {parameters : List ParameterDefinition}
    {rs : List (TypeRef Descriptor)} (h : parameters.mapM (fun p => slotReading p.type) = .ok rs)
    {r : TypeRef Descriptor} (hr : r ∈ rs) : IsRead r := by
  obtain ⟨p, -, hp⟩ := exists_of_mem_mapM h hr
  exact ⟨p.type, hp⟩

/-- An annotation written in a definition. -/
def IsWritten (a : GraphAnnotationUse) : Prop := ∃ as, a ∈ e.annotationSet as

theorem isWritten_of_mem_parameters {parameters : List ParameterDefinition}
    {a : GraphAnnotationUse}
    (h : a ∈ (parameters.map fun p => e.annotationSet p.annotations).flatten) : e.IsWritten a := by
  simp only [List.mem_flatten, List.mem_map] at h
  obtain ⟨_, ⟨p, _, rfl⟩, h⟩ := h
  exact ⟨p.annotations, h⟩

theorem isRead_of_readMethod {m : MethodDefinition} {m' : Method Descriptor AnnotationDefinition}
    (h : e.readMethod m = .ok m') :
    (∀ r ∈ m'.references, IsRead r) ∧ ∀ a ∈ m'.uses, e.IsWritten a := by
  obtain ⟨returns, hreturns, h⟩ := exists_of_bind_eq_ok h
  obtain ⟨raises, hraises, h⟩ := exists_of_bind_eq_ok h
  obtain ⟨parameters, hparameters, h⟩ := exists_of_bind_eq_ok h
  cases h
  refine ⟨fun r hr => ?_, fun a ha => isWritten_of_mem_parameters ha⟩
  simp only [Method.references, List.mem_cons, List.mem_append] at hr
  rcases hr with rfl | hr | hr
  · exact ⟨_, hreturns⟩
  · exact isRead_of_mem_mapM hraises hr
  · exact isRead_of_mem_parameters hparameters hr

theorem isRead_of_readConstructor {owner : String} {c : ConstructorDefinition}
    {c' : Constructor Descriptor AnnotationDefinition} (h : e.readConstructor owner c = .ok c') :
    (∀ r ∈ c'.references, IsRead r) ∧ ∀ a ∈ c'.uses, e.IsWritten a := by
  obtain ⟨raises, hraises, h⟩ := exists_of_bind_eq_ok h
  obtain ⟨parameters, hparameters, h⟩ := exists_of_bind_eq_ok h
  cases h
  refine ⟨fun r hr => ?_, fun a ha => isWritten_of_mem_parameters ha⟩
  simp only [Constructor.references, List.mem_append] at hr
  rcases hr with hr | hr
  · exact isRead_of_mem_mapM hraises hr
  · exact isRead_of_mem_parameters hparameters hr

theorem isRead_of_readField {f : FieldDefinition} {f' : Field Descriptor AnnotationDefinition}
    (h : e.readField f = .ok f') : IsRead f'.type ∧ ∀ a ∈ f'.annotations, e.IsWritten a := by
  obtain ⟨type, htype, h⟩ := exists_of_bind_eq_ok h
  cases h
  exact ⟨⟨_, htype⟩, fun a ha => ⟨_, ha⟩⟩

/-- What is asked about a type that is not defined has no answer. -/
theorem exists_of_bind_found {β : Type} {d : Descriptor} {next : TypeDefinition → Except Fault β}
    {v : β} (h : e.found d >>= next = .ok v) :
    e.lookup d.typeName ≠ none ∧ ∃ definition, next definition = .ok v := by
  obtain ⟨definition, hd, h⟩ := exists_of_bind_eq_ok h
  exact ⟨by simp [found_eq_ok.1 hd], definition, h⟩

/-- A reference is walked for defined types only, and was read from an expression. -/
theorem isRead_of_walks {options : WalkOptions} {d : Descriptor} {r : TypeRef Descriptor}
    (h : e.answers.Walks options d r) : e.lookup d.typeName ≠ none ∧ IsRead r := by
  cases h with
  | method h hm hr =>
    obtain ⟨hd, definition, h⟩ := exists_of_bind_found h
    obtain ⟨m, -, hm⟩ := exists_of_mem_mapM h hm
    exact ⟨hd, (isRead_of_readMethod hm).1 r hr⟩
  | constructor h hc hr =>
    obtain ⟨hd, definition, h⟩ := exists_of_bind_found h
    obtain ⟨c, -, hc⟩ := exists_of_mem_mapM h hc
    exact ⟨hd, (isRead_of_readConstructor hc).1 r hr⟩
  | field h hf =>
    obtain ⟨hd, definition, h⟩ := exists_of_bind_found h
    obtain ⟨f, -, hf⟩ := exists_of_mem_mapM h hf
    exact ⟨hd, (isRead_of_readField hf).1⟩
  | supertype _ h =>
    obtain ⟨hd, definition, h⟩ := exists_of_bind_found h
    exact ⟨hd, ⟨_, h⟩⟩
  | interface h hr =>
    obtain ⟨hd, definition, h⟩ := exists_of_bind_found h
    exact ⟨hd, isRead_of_mem_mapM h hr⟩

/-- An annotation is met at defined types only, and was written in a definition. -/
theorem isWritten_of_meets {d : Descriptor} {a : GraphAnnotationUse} (h : e.answers.Meets d a) :
    e.lookup d.typeName ≠ none ∧ e.IsWritten a := by
  cases h with
  | method h hm ha =>
    obtain ⟨hd, definition, h⟩ := exists_of_bind_found h
    obtain ⟨m, -, hm⟩ := exists_of_mem_mapM h hm
    exact ⟨hd, (isRead_of_readMethod hm).2 a ha⟩
  | constructor h hc ha =>
    obtain ⟨hd, definition, h⟩ := exists_of_bind_found h
    obtain ⟨c, -, hc⟩ := exists_of_mem_mapM h hc
    exact ⟨hd, (isRead_of_readConstructor hc).2 a ha⟩
  | field h hf ha =>
    obtain ⟨hd, definition, h⟩ := exists_of_bind_found h
    obtain ⟨f, -, hf⟩ := exists_of_mem_mapM h hf
    exact ⟨hd, (isRead_of_readField hf).2 a ha⟩
  | own h ha =>
    obtain ⟨hd, definition, h⟩ := exists_of_bind_found h
    cases h
    exact ⟨hd, ⟨_, ha⟩⟩
  | package h ha =>
    obtain ⟨hd, definition, h⟩ := exists_of_bind_found h
    have hp : e.packageSet definition = some _ := Except.ok.inj h
    obtain ⟨name, -, rfl⟩ := Option.map_eq_some_iff.1 hp
    refine ⟨hd, ?_⟩
    split at ha
    · exact ⟨_, ha⟩
    · simp at ha

/-- Only defined types depend on others, and what they depend on is known by its name. -/
theorem named_of_depends {options : WalkOptions} {d x : Descriptor}
    (h : e.answers.Depends options d x) :
    e.lookup d.typeName ≠ none ∧ ∃ name, x = .named name := by
  cases h with
  | reference hw hx =>
    obtain ⟨hd, slot, hs⟩ := isRead_of_walks hw
    exact ⟨hd, named_of_mem_slotReading hs hx⟩
  | attached ha =>
    obtain ⟨hd, as, ha⟩ := isWritten_of_meets ha
    obtain ⟨b, -, rfl⟩ := List.mem_map.1 ha
    exact ⟨hd, b.type, rfl⟩

variable (e)

/-- The types with dependencies that can be met below `root`. -/
def inner (root : Descriptor) : Finset Descriptor :=
  insert root (e.types.names.map Descriptor.named).toFinset

theorem card_inner_le (root : Descriptor) : (e.inner root).card ≤ e.size + 1 := by
  refine (Finset.card_insert_le _ _).trans ?_
  have h := List.toFinset_card_le (e.types.names.map Descriptor.named)
  simp only [List.length_map, Table.names] at h
  simp only [size, Table.size]
  exact Nat.succ_le_succ h

/-- The depth of an environment is deep enough for every type. -/
theorem deep (options : WalkOptions) (marked : List Descriptor) (root : Descriptor) :
    Deep (e.answers.course options) e.depth marked root := by
  refine ⟨e.inner root, fun x hr hv => ?_, ?_⟩
  · rcases hr.2.cases_tail with rfl | ⟨y, -, hy⟩
    · exact Finset.mem_insert_self _ _
    · obtain ⟨-, name, rfl⟩ := named_of_depends (Answers.depends_of_mem_visits hy.1)
      obtain ⟨z, hz⟩ := List.exists_mem_of_ne_nil _ hv
      have hd := (named_of_depends (Answers.depends_of_mem_visits hz)).1
      have hn : name ∈ e.types.names :=
        Classical.not_not.1 fun h => hd ((e.types.get?_eq_none_iff name).2 h)
      exact Finset.mem_insert_of_mem (List.mem_toFinset.2 (List.mem_map_of_mem hn))
  · have h := Finset.card_filter_le (e.inner root) (· ∉ marked)
    have h' := e.card_inner_le root
    simp only [depth]
    omega

/-- Types `A` and `B` with fields of each other's type. `A` has one of type `X`, too, which is not
defined. -/
def unfinished : Environment :=
  ofDefinitions [
    { name := "A"
      fields := [{ name := "b", type := some "B" }, { name := "x", type := some "X" }] },
    { name := "B", fields := [{ name := "a", type := some "A" }] }] []

/-- The same with `X` defined. -/
def finished : Environment := unfinished.define { name := "X" }

end Environment

end Graph

end TypeReach
