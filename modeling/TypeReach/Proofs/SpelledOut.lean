import TypeReach.Proofs.LongForm

/-!
# Short forms spelled out

Graph data can be rewritten so that nothing in it is short: fields, parameters and annotations
become mappings, whatever may be a list becomes one, and what is null becomes empty. Loading gives
the same environment from it, or fails first for the same reason. Only the data as a whole has no
short form: null is no graph data, though the empty mapping is.
-/

namespace TypeReach

namespace Value

/-- Entries with the value under a text key rewritten, if the key is there. -/
def rewriteAt (key : String) (f : Value → Value) (es : List (Value × Value)) :
    List (Value × Value) :=
  es.map fun e => (e.1, if e.1.sameKey (str key) then f e.2 else e.2)

/-- Entries with the value under a text key rewritten; a key that is missing has the value null. -/
def completeAt (key : String) (f : Value → Value) (es : List (Value × Value)) :
    List (Value × Value) :=
  if (fieldOf? es key).isSome then rewriteAt key f es else es ++ [(str key, f null)]

/-- What stands where a mapping is expected, with its entries rewritten. -/
def spelledMapping (f : List (Value × Value) → List (Value × Value)) (v : Value) : Value :=
  match v.opened with
  | null => map (f [])
  | map es => map (f es)
  | _ => v

/-- What stands where a list is expected, with its items rewritten. -/
def spelledList (f : List Value → List Value) (v : Value) : Value :=
  match v.opened with
  | null => list (f [])
  | list items => list (f items)
  | _ => list (f [v])

/-- Whether a value is null. -/
def isNull : Value → Bool
  | null => true
  | _ => false

theorem sameKey_str_iff {k : Value} {key : String} : k.sameKey (str key) = true ↔ k = str key := by
  cases k <;> simp [sameKey]

theorem fieldOf?_cons_eq (k v : Value) (es : List (Value × Value)) (key : String) :
    fieldOf? ((k, v) :: es) key = if k.sameKey (str key) then some v else fieldOf? es key := by
  cases h : k.sameKey (str key) <;> simp [fieldOf?, h]

theorem fieldOf?_rewriteAt (k key : String) (f : Value → Value) (es : List (Value × Value)) :
    fieldOf? (rewriteAt k f es) key =
      if k = key then (fieldOf? es key).map f else fieldOf? es key := by
  induction es with
  | nil => simp [fieldOf?, rewriteAt]
  | cons e es ih =>
    obtain ⟨k', v⟩ := e
    have hcons : rewriteAt k f ((k', v) :: es) =
        (k', if k'.sameKey (str k) then f v else v) :: rewriteAt k f es := rfl
    rw [hcons, fieldOf?_cons_eq, fieldOf?_cons_eq, ih]
    by_cases hk : k'.sameKey (str key) = true
    · have hiff : k'.sameKey (str k) = true ↔ k = key := by
        rw [sameKey_str_iff, sameKey_str_iff.1 hk, str.injEq, eq_comm]
      by_cases h : k = key <;> simp [hk, hiff, h]
    · simp [hk]

@[simp] theorem fieldOf_completeAt (k key : String) (f : Value → Value)
    (es : List (Value × Value)) :
    fieldOf (completeAt k f es) key = if k = key then f (fieldOf es key) else fieldOf es key := by
  by_cases hk : (fieldOf? es k).isSome
  · obtain ⟨v, hv⟩ := Option.isSome_iff_exists.1 hk
    rw [completeAt, if_pos hk, fieldOf, fieldOf?_rewriteAt, fieldOf]
    by_cases h : k = key
    · subst h
      simp [hv]
    · simp [h]
  · have hnone : fieldOf? es k = none := by simpa using hk
    have happend : fieldOf? (es ++ [(str k, f null)]) key =
        (fieldOf? es key).or (if k = key then some (f null) else none) := by
      simp only [fieldOf?, List.find?_append, Option.map_or]
      by_cases h : k = key <;> simp [sameKey, h]
    rw [completeAt, if_neg hk, fieldOf, happend, fieldOf]
    by_cases h : k = key
    · subst h
      simp [hnone]
    · simp [h]

theorem fieldOf_rewriteAt_of_ne {k key : String} (h : k ≠ key) (f : Value → Value)
    (es : List (Value × Value)) : fieldOf (rewriteAt k f es) key = fieldOf es key := by
  rw [fieldOf, fieldOf?_rewriteAt, if_neg h, fieldOf]

end Value

namespace Graph

open Value (completeAt rewriteAt spelledList spelledMapping)

/-- Expressions as a list without null. -/
def spelledExpressions : Value → Value :=
  spelledList (List.filter fun v => !v.isNull)

/-- An annotation as a mapping. -/
def annotationSpelled : Value → Value
  | .str type => .map [(.str "type", .str type)]
  | v => spelledMapping (rewriteAt "attributes" (spelledMapping id)) v

/-- Annotations as a list of mappings. -/
def spelledAnnotations : Value → Value :=
  spelledList (List.map annotationSpelled)

/-- A field or parameter as a mapping. -/
def spelledSlot (v : Value) : Value :=
  match v.opened with
  | .map es => .map (completeAt "annotations" spelledAnnotations es)
  | _ => .map [(.str "type", v), (.str "annotations", .list [])]

/-- Parameters as a list of mappings. -/
def spelledParameters : Value → Value :=
  spelledList (List.map spelledSlot)

/-- What a method or constructor declares, with its lists in full. -/
def spelledSignature : Value → Value :=
  spelledMapping fun es =>
    completeAt "parameters" spelledParameters (completeAt "raises" spelledExpressions es)

/-- Entries with their values rewritten. -/
def onValues (f : Value → Value) : List (Value × Value) → List (Value × Value) :=
  List.map fun e => (e.1, f e.2)

/-- What a type declares, with everything in full. -/
def spelledType : Value → Value :=
  spelledMapping fun es =>
    rewriteAt "methods" (spelledMapping (onValues spelledSignature)) <|
    completeAt "constructors" (spelledList (List.map spelledSignature)) <|
    rewriteAt "fields" (spelledMapping (onValues spelledSlot)) <|
    completeAt "interfaces" spelledExpressions <|
    completeAt "annotations" spelledAnnotations es

/-- What a package declares, with its annotations in full. -/
def spelledPackage : Value → Value :=
  spelledMapping (completeAt "annotations" spelledAnnotations)

/-- Graph data with everything in full. -/
def spelledOut : Value → Value :=
  spelledMapping fun es =>
    rewriteAt "packages" (spelledMapping (onValues spelledPackage)) <|
    rewriteAt "types" (spelledMapping (onValues spelledType)) es

theorem asMapping_spelledMapping (f : List (Value × Value) → List (Value × Value)) (v : Value)
    (context : String) :
    asMapping (spelledMapping f v) context = f <$> asMapping v context := by
  cases h : v.opened with
  | null =>
    have hs : spelledMapping f v = .map (f []) := by simp only [spelledMapping, h]
    simp only [hs, asMapping, h]
    rfl
  | map es =>
    have hs : spelledMapping f v = .map (f es) := by simp only [spelledMapping, h]
    simp only [hs, asMapping, h]
    rfl
  | _ =>
    have hs : spelledMapping f v = v := by simp only [spelledMapping, h]
    simp only [hs, asMapping, h]
    rfl

/-- A missing part counts as null, so that nothing is lost where only a key that is there is
rewritten. -/
theorem asMapping_rewriteAt {f : List (Value × Value) → List (Value × Value)} (hf : f [] = [])
    (key : String) (es : List (Value × Value)) (context : String) :
    asMapping (Value.fieldOf (rewriteAt key (spelledMapping f) es) key) context =
      f <$> asMapping (Value.fieldOf es key) context := by
  rw [Value.fieldOf, Value.fieldOf?_rewriteAt, if_pos rfl, Value.fieldOf]
  cases Value.fieldOf? es key with
  | none => simp [asMapping, Value.opened, hf]
  | some v => exact asMapping_spelledMapping f v context

theorem asList_spelledList (f : List Value → List Value) (v : Value) :
    asList (spelledList f v) = f (asList v) := by
  cases h : v.opened <;>
    · simp only [spelledList, h, asList]
      rfl

theorem spelledMapping_ne_str (f : List (Value × Value) → List (Value × Value)) {v : Value}
    (h : ∀ s, v ≠ .str s) (s : String) : spelledMapping f v ≠ .str s := by
  unfold spelledMapping
  split
  · simp
  · simp
  · exact h s

theorem annotationEntry_spelled (v : Value) :
    annotationEntry (annotationSpelled v) = annotationEntry v := by
  by_cases hstr : ∃ s, v = .str s
  · obtain ⟨s, rfl⟩ := hstr
    rfl
  have hne : ∀ s, v ≠ .str s := fun s h => hstr ⟨s, h⟩
  rw [annotationSpelled.eq_2 v hne, annotationEntry.eq_2 v hne,
    annotationEntry.eq_2 _ (spelledMapping_ne_str _ hne), asMapping_spelledMapping, bind_map_left]
  have hattributes (es : List (Value × Value)) := asMapping_rewriteAt (f := id) rfl "attributes" es
    "annotation attributes"
  simp only [Value.fieldOf?_rewriteAt, String.reduceEq, if_false, hattributes, id_map]

theorem annotations_spelled (v : Value) : annotations (spelledAnnotations v) = annotations v := by
  have hentry : annotationEntry ∘ annotationSpelled = annotationEntry :=
    funext annotationEntry_spelled
  rw [annotations, spelledAnnotations, asList_spelledList, List.mapM_map, hentry, annotations]

theorem expression?_of_isNull {v : Value} (h : v.isNull = true) : expression? v = .ok none := by
  cases v with
  | null => rfl
  | _ => cases h

/-- Null gives no expression, so that it may be left out of a list. -/
theorem mapM_expression?_filter (vs : List Value) :
    List.filterMap id <$> (vs.filter fun v => !v.isNull).mapM expression? =
      List.filterMap id <$> vs.mapM expression? := by
  induction vs with
  | nil => rfl
  | cons v vs ih =>
    cases hnull : v.isNull with
    | true =>
      rw [List.filter_cons_of_neg (by simp [hnull]), ih, List.mapM_cons,
        expression?_of_isNull hnull, ok_bind, map_bind]
      cases vs.mapM expression? <;> rfl
    | false =>
      rw [List.filter_cons_of_pos (by simp [hnull]), List.mapM_cons, List.mapM_cons]
      cases hv : expression? v with
      | error why => rfl
      | ok slot =>
        -- The rest is the same in both, whatever this item gives.
        have hrest := congrArg (fun r => (fun xs => slot.toList ++ xs) <$> r) ih
        cases slot <;> simpa [ok_bind, List.filterMap_cons] using hrest

theorem expressions_spelled (v : Value) : expressions (spelledExpressions v) = expressions v := by
  have hfilter := mapM_expression?_filter (asList v)
  rw [expressions, spelledExpressions, asList_spelledList, expressions]
  exact hfilter

/-- The type and the annotations of a field or parameter. -/
def slot (v : Value) : Except LoadError (Option String × List AnnotationDefinition) :=
  match v.opened with
  | .map es => do
    return (← expression? (Value.fieldOf es "type"), ← annotations (Value.fieldOf es "annotations"))
  | _ => do return (← expression? v, [])

theorem parameter_eq_slot (v : Value) :
    parameter v = do let s ← slot v; return { type := s.1, annotations := s.2 } := by
  unfold parameter slot
  cases v.opened <;> simp

theorem field_eq_slot (e : Value × Value) :
    field e = do
      let name ← textOf e.1
      let s ← slot e.2
      return { name, type := s.1, annotations := s.2 } := by
  unfold field slot
  cases e.2.opened <;> simp

theorem slot_spelled (v : Value) : slot (spelledSlot v) = slot v := by
  have hopened (es : List (Value × Value)) : (Value.map es).opened = .map es := rfl
  cases h : v.opened with
  | map es =>
    have hs : spelledSlot v = .map (completeAt "annotations" spelledAnnotations es) := by
      simp only [spelledSlot, h]
    simp only [hs, slot, h, hopened, Value.fieldOf_completeAt, String.reduceEq, if_true, if_false,
      annotations_spelled]
  | _ =>
    have hs : spelledSlot v = .map [(.str "type", v), (.str "annotations", .list [])] := by
      simp only [spelledSlot, h]
    simp only [hs, slot, h, hopened, Value.fieldOf_cons, String.reduceEq, if_true, if_false]
    rfl

theorem parameters_spelled (v : Value) : parameters (spelledParameters v) = parameters v := by
  have hitem : parameter ∘ spelledSlot = parameter := by
    funext v
    rw [Function.comp_apply, parameter_eq_slot, slot_spelled, parameter_eq_slot]
  rw [parameters, spelledParameters, asList_spelledList, List.mapM_map, hitem, parameters]

theorem method_spelled (owner : String) (e : Value × Value) :
    method owner (e.1, spelledSignature e.2) = method owner e := by
  simp only [method, spelledSignature, asMapping_spelledMapping, bind_map_left,
    Value.fieldOf_completeAt, String.reduceEq, if_true, if_false, expressions_spelled,
    parameters_spelled]

theorem constructor_spelled (owner : String) (v : Value) :
    constructor owner (spelledSignature v) = constructor owner v := by
  simp only [constructor, spelledSignature, asMapping_spelledMapping, bind_map_left,
    Value.fieldOf_completeAt, String.reduceEq, if_true, if_false, expressions_spelled,
    parameters_spelled]

theorem field_spelled (e : Value × Value) : field (e.1, spelledSlot e.2) = field e := by
  simp only [field_eq_slot, slot_spelled]

/-- Entries whose values may be rewritten one by one may be rewritten all. -/
theorem mapM_onValues {β : Type} {f : Value → Value} {load : Value × Value → Except LoadError β}
    (h : ∀ e, load (e.1, f e.2) = load e) (es : List (Value × Value)) :
    (onValues f es).mapM load = es.mapM load := by
  rw [onValues, List.mapM_map]
  exact congrArg (fun g => es.mapM g) (funext h)

theorem asMapping_rewriteAt_onValues (f : Value → Value) (key : String)
    (es : List (Value × Value)) (context : String) :
    asMapping (Value.fieldOf (rewriteAt key (spelledMapping (onValues f)) es) key) context =
      onValues f <$> asMapping (Value.fieldOf es key) context :=
  asMapping_rewriteAt rfl key es context

theorem typeDefinition_spelled (e : Value × Value) :
    typeDefinition (e.1, spelledType e.2) = typeDefinition e := by
  have hconstructor (owner : String) : constructor owner ∘ spelledSignature = constructor owner :=
    funext (constructor_spelled owner)
  simp only [typeDefinition, spelledType, asMapping_spelledMapping, bind_map_left,
    Value.fieldOf_completeAt, Value.fieldOf_rewriteAt_of_ne, asMapping_rewriteAt_onValues,
    String.reduceEq, ne_eq, not_false_eq_true, if_true, if_false, expressions_spelled,
    annotations_spelled, asList_spelledList, List.mapM_map, hconstructor,
    mapM_onValues (method_spelled _), mapM_onValues field_spelled]

theorem packageDefinition_spelled (e : Value × Value) :
    packageDefinition (e.1, spelledPackage e.2) = packageDefinition e := by
  simp only [packageDefinition, spelledPackage, asMapping_spelledMapping, bind_map_left,
    Value.fieldOf_completeAt, if_true, annotations_spelled]

namespace Environment

/-- Data spelled out is loaded like the data as it is, with the same definitions or the same error,
unless the data as a whole is null. -/
theorem ofValue_spelledOut_iff (data : Value) :
    ofValue (spelledOut data) = ofValue data ↔ data.opened ≠ .null := by
  have hopened (es : List (Value × Value)) : (Value.map es).opened = .map es := rfl
  cases h : data.opened with
  | null =>
    have hs : spelledOut data = .map [] := by
      simp only [spelledOut, spelledMapping, h]
      rfl
    have hnull : ofValue data = .error .notMapping := by simp only [ofValue, h]
    have hempty : ofValue (.map []) = .ok {} := rfl
    rw [hs, hempty, hnull]
    simp
  | map es =>
    refine iff_of_true ?_ (by simp)
    simp only [spelledOut, spelledMapping, h, ofValue, hopened, asMapping_rewriteAt_onValues,
      Value.fieldOf_rewriteAt_of_ne, String.reduceEq, ne_eq, not_false_eq_true, bind_map_left,
      mapM_onValues packageDefinition_spelled, mapM_onValues typeDefinition_spelled]
  | _ =>
    refine iff_of_true ?_ (by simp)
    simp only [spelledOut, spelledMapping, h]

/-- A type with a field and an annotation by their names alone and a null package. -/
example : spelledOut (.map [(.str "types", .map [(.str "A",
      .map [(.str "fields", .map [(.str "f", .str "B")]), (.str "annotations", .str "Mark")])]),
    (.str "packages", .map [(.str "p", .null)])]) =
    .map [(.str "types", .map [(.str "A",
      .map [(.str "fields", .map [(.str "f",
          .map [(.str "type", .str "B"), (.str "annotations", .list [])])]),
        (.str "annotations", .list [.map [(.str "type", .str "Mark")]]),
        (.str "interfaces", .list []), (.str "constructors", .list [])])]),
    (.str "packages", .map [(.str "p", .map [(.str "annotations", .list [])])])] := rfl

theorem ofValue_eq_error_of_type {key body : Value} {why : LoadError}
    (h : typeDefinition (key, body) = .error why) :
    ofValue (.map [(.str "types", .map [(key, body)])]) = .error why := by
  have hopened (es : List (Value × Value)) : (Value.map es).opened = .map es := rfl
  have hpackages : Value.fieldOf [(.str "types", .map [(key, body)])] "packages" = .null := rfl
  have hnull : asMapping .null "packages" = .ok [] := rfl
  simp only [ofValue, hopened, hpackages, hnull, Value.fieldOf_cons, if_true, asMapping_map,
    ok_bind, List.mapM_nil, List.mapM_cons, h]
  rfl

/-- The least integer that is too long to be written out. -/
def tooLong : Value := .int (Int.ofNat (Nat.pow 10 Decimal.maxDigits))

theorem textOf_tooLong : textOf tooLong = .error .unwritable := by
  have h : tooLong.isWritable = false := by decide +kernel
  simp only [textOf, Value.text?, h]
  rfl

/-- Null is refused as graph data, though spelled out it would be the empty mapping. And what cannot
be loaded need not be unusable: an integer may be too long for the name of a type. -/
theorem ofValue_spelledOut_null :
    ofValue .null = .error .notMapping ∧ ofValue (spelledOut .null) = .ok {} ∧
      ofValue (.map [(.str "types", .map [(tooLong, .null)])]) = .error .unwritable ∧
      ∀ message, LoadError.unwritable.toFault ≠ .unusable message := by
  refine ⟨rfl, rfl, ofValue_eq_error_of_type ?_, fun message => by simp [LoadError.toFault]⟩
  rw [typeDefinition, textOf_tooLong]
  rfl

end Environment

end Graph

end TypeReach
