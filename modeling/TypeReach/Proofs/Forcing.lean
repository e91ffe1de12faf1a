import TypeReach.Graph.Load
import TypeReach.Proofs.ExactClosure

/-!
# Types that attributes name

Loading an attribute turns what names a type into a type value, at any depth of lists. Reading it
resolves the value itself and the items of a list, but not the items of a list in a list: a type
that is named there may be missing, and its value is given as it is. So reading comes to what
resolving at every depth would come to if and only if the first missing type is named outermost, or
all types are defined and none is named further inside.
-/

namespace TypeReach

namespace Value

/-- A value that is no collection and stands for nothing else. -/
def IsScalar : Value → Prop
  | null | bool _ | int _ | double _ | str _ | bytes _ | day _ | moment _ => True
  | _ => False

mutual

/-- The types that a value names at any depth of lists, from left to right. -/
def typeNames : Value → List String
  | typeName name => [name]
  | list items => allTypeNames items
  | tuple items => allTypeNames items
  | _ => []

def allTypeNames : List Value → List String
  | [] => []
  | v :: vs => v.typeNames ++ allTypeNames vs

end

/-- The type that a value names by itself. -/
def typeName? : Value → Option String
  | typeName name => some name
  | _ => none

/-- The types that a value names by itself or by an item, from left to right. -/
def outerTypeNames : Value → List String
  | list items => items.filterMap typeName?
  | tuple items => items.filterMap typeName?
  | v => v.typeName?.toList

/-- The types that a value names, but not by itself. -/
def typeNamesWithin : Value → List String
  | typeName _ => []
  | v => v.typeNames

/-- The types that a value names neither by itself nor by an item. -/
def innerTypeNames : Value → List String
  | list items => items.flatMap typeNamesWithin
  | tuple items => items.flatMap typeNamesWithin
  | _ => []

mutual

/-- A value with a handle in place of each type that it names at any depth of lists. -/
def withHandles : Value → Value
  | typeName name => handle name
  | list items => list (allWithHandles items)
  | tuple items => tuple (allWithHandles items)
  | v => v

def allWithHandles : List Value → List Value
  | [] => []
  | v :: vs => v.withHandles :: allWithHandles vs

end

/-- A value with a handle in place of the type that it names by itself. -/
def asHandle : Value → Value
  | typeName name => handle name
  | v => v

/-- A value with a handle in place of each type that it names by itself or by an item. -/
def outerWithHandles : Value → Value
  | list items => list (items.map asHandle)
  | tuple items => tuple (items.map asHandle)
  | v => v.asHandle

/-- A value as an accessor gives it: a list is given as a tuple. -/
def given : Value → Value
  | list items => tuple items
  | v => v

theorem allTypeNames_eq (vs : List Value) : allTypeNames vs = vs.flatMap typeNames := by
  induction vs with
  | nil => rfl
  | cons v vs ih => rw [allTypeNames, ih, List.flatMap_cons]

theorem allWithHandles_eq (vs : List Value) : allWithHandles vs = vs.map withHandles := by
  induction vs with
  | nil => rfl
  | cons v vs ih => rw [allWithHandles, ih, List.map_cons]

theorem mem_typeNames_iff_self (v : Value) (name : String) :
    name ∈ v.typeNames ↔ v.typeName? = some name ∨ name ∈ v.typeNamesWithin := by
  cases v with
  | typeName n => simp [typeNames, typeName?, typeNamesWithin, eq_comm]
  | _ => simp [typeName?, typeNamesWithin]

/-- A type is named outermost or further inside. -/
theorem mem_typeNames_iff (v : Value) (name : String) :
    name ∈ v.typeNames ↔ name ∈ v.outerTypeNames ∨ name ∈ v.innerTypeNames := by
  have items (vs : List Value) : name ∈ allTypeNames vs ↔
      name ∈ vs.filterMap typeName? ∨ name ∈ vs.flatMap typeNamesWithin := by
    rw [allTypeNames_eq]
    simp only [List.mem_flatMap, List.mem_filterMap, mem_typeNames_iff_self, and_or_left, exists_or]
  cases v with
  | list vs => exact items vs
  | tuple vs => exact items vs
  | typeName n => simp [outerTypeNames, typeName?, typeNames, innerTypeNames]
  | _ => simp [outerTypeNames, typeName?, typeNames, innerTypeNames]

theorem outerTypeNames_subset (v : Value) : v.outerTypeNames ⊆ v.typeNames :=
  fun name h => (v.mem_typeNames_iff name).2 (.inl h)

mutual

/-- Only what names no type stays as it is. -/
theorem withHandles_eq_self_iff : ∀ v : Value, v.withHandles = v ↔ v.typeNames = []
  | typeName _ => by simp [withHandles, typeNames]
  | list items => by
    rw [withHandles, list.injEq]
    exact allWithHandles_eq_self_iff items
  | tuple items => by
    rw [withHandles, tuple.injEq]
    exact allWithHandles_eq_self_iff items
  | null | bool _ | int _ | double _ | str _ | bytes _ | day _ | moment _ | map _ | set _
  | restricted _ | handle _ | loop _ _ | again _ => by simp [withHandles, typeNames]

theorem allWithHandles_eq_self_iff : ∀ vs : List Value,
    allWithHandles vs = vs ↔ allTypeNames vs = []
  | [] => by simp [allWithHandles, allTypeNames]
  | v :: vs => by
    rw [allWithHandles, allTypeNames, List.cons.injEq, List.append_eq_nil_iff,
      withHandles_eq_self_iff v, allWithHandles_eq_self_iff vs]

end

theorem asHandle_eq_withHandles_iff (v : Value) :
    v.asHandle = v.withHandles ↔ v.typeNamesWithin = [] := by
  cases v with
  | typeName name => simp [asHandle, withHandles, typeNamesWithin]
  | _ => exact eq_comm.trans (withHandles_eq_self_iff _)

/-- Handles for the outermost types are all handles if no types are named further inside. -/
theorem outerWithHandles_eq_withHandles_iff (v : Value) :
    v.outerWithHandles = v.withHandles ↔ v.innerTypeNames = [] := by
  have items (vs : List Value) :
      vs.map asHandle = allWithHandles vs ↔ vs.flatMap typeNamesWithin = [] := by
    rw [allWithHandles_eq, List.map_inj_left, List.flatMap_eq_nil_iff]
    exact forall₂_congr fun v _ => asHandle_eq_withHandles_iff v
  cases v with
  | list vs =>
    rw [outerWithHandles, withHandles, list.injEq]
    exact items vs
  | tuple vs =>
    rw [outerWithHandles, withHandles, tuple.injEq]
    exact items vs
  | _ => simp [outerWithHandles, asHandle, withHandles, innerTypeNames]

theorem given_outer_eq_given_iff (v : Value) :
    v.outerWithHandles.given = v.withHandles.given ↔ v.outerWithHandles = v.withHandles := by
  cases v with
  | list vs => simp [outerWithHandles, withHandles, given]
  | tuple vs => simp [outerWithHandles, withHandles, given]
  | _ => simp [outerWithHandles, asHandle, withHandles, given]

end Value

namespace Graph

mutual

/-- A value of a graph file made of scalars, mappings that name a type and lists of these, and what
an attribute with it is loaded as. -/
inductive Loads : Value → Value → Prop
  | scalar {v} : v.IsScalar → Loads v v
  | typeValue {entries n name} : Value.fieldOf? entries "type_value" = some n →
      n.text? = some name → Loads (.map entries) (.typeName name)
  | list {items vs} : LoadsAll items vs → Loads (.list items) (.list vs)

inductive LoadsAll : List Value → List Value → Prop
  | nil : LoadsAll [] []
  | cons {item items v vs} : Loads item v → LoadsAll items vs → LoadsAll (item :: items) (v :: vs)

end

mutual

theorem Loads.attributeValue_eq : ∀ {raw v : Value}, Loads raw v → attributeValue raw = .ok v
  | raw, _, .scalar h => by
    cases raw <;> first | exact h.elim | rfl
  | _, _, .typeValue hn hname => by
    simp [attributeValue, attributeWithin, attributeMapping, hn, textOf, hname]
  | _, _, .list hall => by
    rw [attributeValue, attributeWithin, hall.attributesWithin_eq]
    rfl

theorem LoadsAll.attributesWithin_eq : ∀ {items vs : List Value}, LoadsAll items vs →
    attributesWithin id items = .ok vs
  | _, _, .nil => by rw [attributesWithin]
  | _, _, .cons h hall => by
    have hv := h.attributeValue_eq
    rw [attributeValue] at hv
    rw [attributesWithin, hv, hall.attributesWithin_eq]
    rfl

end

theorem Loads.ne_restricted {raw v : Value} (h : Loads raw v) (reason : String) :
    v ≠ .restricted reason := by
  rintro rfl
  cases h with
  | scalar h => exact h

namespace Environment

variable (e : Environment)

/-- The first of some types that is not defined. -/
def firstMissing (names : List String) : Option String :=
  names.find? fun name => !e.defines name

/-- A result, if all of some types are defined; otherwise the first one is not present. -/
def ifDefined {β : Type} (names : List String) (result : β) : Except Fault β :=
  match e.firstMissing names with
  | some name => .error (.notPresent (some name) none)
  | none => .ok result

theorem ifDefined_append {β γ : Type} (names names' : List String) (b : β) (f : β → γ) :
    (e.ifDefined names b >>= fun b => e.ifDefined names' (f b)) =
      e.ifDefined (names ++ names') (f b) := by
  simp only [ifDefined, firstMissing, List.find?_append]
  cases names.find? fun name => !e.defines name <;> rfl

theorem ifDefined_map {β γ : Type} (names : List String) (b : β) (f : β → γ) :
    (do return f (← e.ifDefined names b)) = e.ifDefined names (f b) := by
  simp only [ifDefined]
  cases e.firstMissing names <;> rfl

theorem force_eq (v : Value) : e.force v = e.ifDefined v.typeName?.toList v.asHandle := by
  cases v with
  | typeName name =>
    cases h : e.defines name <;>
      simp [force, ifDefined, firstMissing, Value.typeName?, Value.asHandle, h]
  | _ => rfl

/-- The items of a list are resolved in order, up to the first that is missing. -/
theorem mapM_force_eq (items : List Value) :
    items.mapM e.force =
      e.ifDefined (items.filterMap Value.typeName?) (items.map Value.asHandle) := by
  induction items with
  | nil => rfl
  | cons v items ih =>
    have happend : (v :: items).filterMap Value.typeName? =
        v.typeName?.toList ++ items.filterMap Value.typeName? := by
      cases h : v.typeName? <;> simp [h]
    simp only [List.mapM_cons, force_eq, ih, ifDefined_map]
    rw [ifDefined_append, happend]
    rfl

/-- Reading an attribute resolves the types that it names outermost. -/
theorem read_eq {a : AnnotationDefinition} {accessor : String} {v : Value}
    (ha : a.attributes.get? accessor = some v) (hv : ∀ reason, v ≠ .restricted reason) :
    e.read a accessor = e.ifDefined v.outerTypeNames v.outerWithHandles.given := by
  cases v with
  | restricted reason => exact absurd rfl (hv reason)
  | list items =>
    simp only [read, ha, mapM_force_eq, ifDefined_map]
    rfl
  | tuple items =>
    simp only [read, ha, mapM_force_eq, ifDefined_map]
    rfl
  | _ =>
    simp only [read, ha]
    exact e.force_eq _

theorem ifDefined_eq_iff {β : Type} {names names' : List String} {b b' : β}
    (h : names ⊆ names') :
    e.ifDefined names b = e.ifDefined names' b' ↔
      e.firstMissing names = e.firstMissing names' ∧ (e.firstMissing names' = none → b = b') := by
  have hnone : e.firstMissing names' = none → e.firstMissing names = none := by
    simp only [firstMissing, List.find?_eq_none]
    exact fun hall name hname => hall name (h hname)
  simp only [ifDefined]
  cases hn' : e.firstMissing names' with
  | none => simp [hnone hn']
  | some name' => cases hn : e.firstMissing names <;> simp

/-- If all attributes of an annotation pass, the types that they name outermost are defined. -/
theorem defines_of_readable {a : GraphAnnotationUse} (h : e.answers.Readable a) {accessor : String}
    {v : Value} (ha : a.value.attributes.get? accessor = some v) {name : String}
    (hname : name ∈ v.outerTypeNames) : e.defines name = true := by
  obtain ⟨names, hnames, hpasses⟩ := h
  cases hnames
  have hmem : accessor ∈ a.value.attributes.names := by
    by_contra hnone
    cases ha.symm.trans ((Table.get?_eq_none_iff _ _).2 hnone)
  have hread : e.read a.value accessor = e.ifDefined v.outerTypeNames v.outerWithHandles.given := by
    refine e.read_eq ha ?_
    rintro reason rfl
    cases hname
  -- A missing type would be a fault other than a restriction, and such a fault does not pass.
  have hnone : e.firstMissing v.outerTypeNames = none := by
    cases hfirst : e.firstMissing v.outerTypeNames with
    | none => rfl
    | some missing =>
      rw [ifDefined, hfirst] at hread
      rcases hpasses accessor hmem with ⟨w, hw⟩ | ⟨message, hm⟩
      · cases hread.symm.trans hw
      · cases hread.symm.trans hm
  simpa using List.find?_eq_none.1 hnone name hname

/-- After a load that succeeds, the types that are named outermost by attributes that it met are
defined. -/
theorem defines_of_load_ok {memory : Parses} (hm : Faithful memory) (w : Walker Descriptor)
    {depth : Nat} {root : Descriptor}
    (hok : (w.load e.provider depth memory (.concrete root)).outcome = .ok ()) {d : Descriptor}
    (hd : d ∈ (w.load e.provider depth memory (.concrete root)).marked) (hnew : d ∉ w.marked)
    {a : GraphAnnotationUse} (hmeets : e.answers.Meets d a) {accessor : String} {v : Value}
    (ha : a.value.attributes.get? accessor = some v) {name : String}
    (hname : name ∈ v.outerTypeNames) : e.defines name = true := by
  rcases Walker.load_ends e.gives_provider.steady hm w depth root with
    ⟨-, ⟨kept, hkept⟩, -⟩ | ⟨fault, hfault, -⟩
  · rw [e.gives_provider.answers_eq hm] at hkept
    have hmem : d ∈ kept := (hkept.mem_marked_iff.1 hd).resolve_right hnew
    have hsound := (Answers.sound_of_stretch hkept hmem).1
    exact e.defines_of_readable (hsound.attributes a hmeets) ha hname
  · cases hfault.symm.trans hok

/-- An attribute of a graph file is read with the types resolved that it names by itself or by an
item. That is what resolving all types that it names would give if and only if the first missing one
is named so and, if none is missing, none is named further inside. After a load that succeeds, types
of an attribute that it met are defined, unless they are named further inside. -/
theorem read_forces_outermost {raw v : Value} (hv : Loads raw v) {a : AnnotationDefinition}
    {accessor : String} (ha : a.attributes.get? accessor = some v) :
    attributeValue raw = .ok v ∧
    e.read a accessor = e.ifDefined v.outerTypeNames v.outerWithHandles.given ∧
    (e.read a accessor = e.ifDefined v.typeNames v.withHandles.given ↔
      e.firstMissing v.outerTypeNames = e.firstMissing v.typeNames ∧
        (e.firstMissing v.typeNames = none → v.innerTypeNames = [])) ∧
    ∀ (memory : Parses) (w : Walker Descriptor) (depth : Nat) (root d use : Descriptor),
      Faithful memory → (w.load e.provider depth memory (.concrete root)).outcome = .ok () →
      d ∈ (w.load e.provider depth memory (.concrete root)).marked → d ∉ w.marked →
      e.answers.Meets d { descriptor := use, value := a } →
      ∀ name ∈ v.typeNames, e.defines name = true ∨ name ∈ v.innerTypeNames := by
  have hread : e.read a accessor = e.ifDefined v.outerTypeNames v.outerWithHandles.given :=
    e.read_eq ha hv.ne_restricted
  refine ⟨hv.attributeValue_eq, hread, ?agrees, ?met⟩
  case agrees =>
    rw [hread, e.ifDefined_eq_iff v.outerTypeNames_subset, Value.given_outer_eq_given_iff,
      Value.outerWithHandles_eq_withHandles_iff]
  case met =>
    intro memory w depth root d use hm hok hd hnew hmeets name hname
    rcases (v.mem_typeNames_iff name).1 hname with houter | hinner
    · exact .inl (e.defines_of_load_ok hm w hok hd hnew hmeets ha houter)
    · exact .inr hinner

/-- A list that names `Mark` by an item and `Missing` by an item of a list in it. -/
def nestedKinds : Value :=
  .list [.map [(.str "type_value", .str "Mark")], .list [.map [(.str "type_value", .str "Missing")]]]

def nestedValue : Value := .list [.typeName "Mark", .list [.typeName "Missing"]]

def nestedMark : AnnotationDefinition where
  type := "Mark"
  attributes := .ofEntries [("kinds", nestedValue)]

/-- A type with that annotation, and the annotation's type. -/
def nested : Environment :=
  .ofDefinitions [{ name := "A", annotations := [nestedMark] }, { name := "Mark" }] []

theorem loads_nested : Loads nestedKinds nestedValue :=
  .list (.cons (.typeValue rfl rfl) (.cons (.list (.cons (.typeValue rfl rfl) .nil)) .nil))

/-- `Missing` is not looked for: its value is given as it is, and the load that met it succeeds. -/
theorem read_leaves_nested :
    Loads nestedKinds nestedValue ∧
    nestedMark.attributes.get? "kinds" = some nestedValue ∧
    nested.firstMissing nestedValue.typeNames = some "Missing" ∧
    nested.read nestedMark "kinds" = .ok (.tuple [.handle "Mark", .list [.typeName "Missing"]]) ∧
    nested.answers.Meets (.named "A") { descriptor := .named "Mark", value := nestedMark } ∧
    (({} : Walker Descriptor).load nested.provider nested.depth .empty
      (.concrete (.named "A"))).outcome = .ok () := by
  have hmeets : nested.answers.Meets (.named "A")
      { descriptor := .named "Mark", value := nestedMark } := .own rfl List.mem_cons_self
  exact ⟨loads_nested, rfl, by decide +kernel, rfl, hmeets, by decide +kernel⟩

theorem read_forces_outermost_nested :
    Loads nestedKinds nestedValue ∧ nestedMark.attributes.get? "kinds" = some nestedValue ∧
    nested.read nestedMark "kinds" ≠ nested.ifDefined nestedValue.typeNames
      (.tuple [.handle "Mark", .list [.handle "Missing"]]) ∧
    nested.defines "Mark" = true := by
  obtain ⟨-, -, hagrees, hmet⟩ :=
    @read_forces_outermost nested _ _ loads_nested nestedMark "kinds" rfl
  have hdiffer : nested.firstMissing nestedValue.outerTypeNames ≠
      nested.firstMissing nestedValue.typeNames := by decide +kernel
  have hmark : nested.defines "Mark" = true ∨ "Mark" ∈ nestedValue.innerTypeNames :=
    hmet .empty {} nested.depth (.named "A") (.named "A") (.named "Mark") faithful_empty
      (by decide +kernel) (by decide +kernel) (by simp) (.own rfl List.mem_cons_self) "Mark"
      (by decide +kernel)
  exact ⟨loads_nested, rfl, fun heq => hdiffer (hagrees.1 heq).1,
    hmark.resolve_right (by decide +kernel)⟩

end Environment

end Graph

end TypeReach
