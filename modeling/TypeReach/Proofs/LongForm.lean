import TypeReach.Proofs.Forcing
import TypeReach.Proofs.Loading

/-!
# The long form of graph data

Definitions written as graph data in which nothing is shortened: fields, parameters, constructors
and annotations are mappings, and every part has its key. Loading gives the same definitions back,
in the same order, and no others.
-/

namespace TypeReach

section

variable {ε β γ : Type}

theorem ok_bind (b : β) (f : β → Except ε γ) : (Except.ok b >>= f) = f b := rfl

theorem mapM_map_eq_ok {f : β → Except ε γ} {g : γ → β} {cs : List γ}
    (h : ∀ c ∈ cs, f (g c) = .ok c) : (cs.map g).mapM f = .ok cs := by
  induction cs with
  | nil => rfl
  | cons c cs ih =>
    rw [List.map_cons, List.mapM_cons, h c List.mem_cons_self,
      ih fun x hx => h x (List.mem_cons_of_mem c hx)]
    rfl

end

namespace Table

variable {β : Type}

theorem putIn_of_notMem {name : String} (value : β) {es : List (String × β)}
    (h : name ∉ es.map Prod.fst) : putIn name value es = es ++ [(name, value)] := by
  induction es with
  | nil => rfl
  | cons e es ih =>
    have hne : name ≠ e.1 := fun heq => h (by simp [heq])
    have hes : name ∉ es.map Prod.fst := fun hmem => h (List.mem_cons_of_mem _ hmem)
    rw [putIn, if_neg (Ne.symm hne), ih hes]
    rfl

/-- Values put in under new names stand in the order in which they were put in. -/
theorem entries_foldl_put {γ : Type} (key : γ → String) (value : γ → β) {cs : List γ} {t : Table β}
    (h : (t.names ++ cs.map key).Nodup) :
    (cs.foldl (fun t c => t.put (key c) (value c)) t).entries =
      t.entries ++ cs.map fun c => (key c, value c) := by
  induction cs generalizing t with
  | nil => simp
  | cons c cs ih =>
    have hnew : key c ∉ t.names := by
      intro hc
      exact (List.nodup_append.1 h).2.2 _ hc (key c) (by simp) rfl
    have hput : (t.put (key c) (value c)).entries = t.entries ++ [(key c, value c)] :=
      putIn_of_notMem (value c) hnew
    have hnames : (t.put (key c) (value c)).names = t.names ++ [key c] := by
      simp [names, hput]
    rw [List.foldl_cons, ih (by simpa [hnames] using h), hput]
    simp

theorem ofEntries_entries (t : Table β) : ofEntries t.entries = t := by
  apply Table.ext
  have hnew : ((empty : Table β).names ++ t.entries.map Prod.fst).Nodup := by
    simpa [names, empty] using t.distinct
  rw [ofEntries, entries_foldl_put Prod.fst Prod.snd hnew]
  simp [empty]

end Table

namespace Value

/-- The mapping with a value under each of some names. -/
def keyed (es : List (String × Value)) : Value :=
  ofEntries (es.map fun e => (str e.1, e.2))

theorem foldl_putEntry_of_nodup {es : List (String × Value)} {before : List (Value × Value)}
    (h : (before.map Prod.fst ++ es.map fun e => str e.1).Pairwise fun k l => k.sameKey l = false) :
    (es.map fun e => (str e.1, e.2)).foldl
        (fun es e => if e.1.key?.isNone then es ++ [e] else putEntry es e.1 e.2) before =
      before ++ es.map fun e => (str e.1, e.2) := by
  induction es generalizing before with
  | nil => simp
  | cons e es ih =>
    have hnew : before.any (fun b => b.1.sameKey (str e.1)) = false := by
      simp only [List.any_eq_false, Bool.not_eq_true]
      intro b hb
      exact (List.pairwise_append.1 h).2.2 b.1 (List.mem_map_of_mem hb) (str e.1) (by simp)
    have hput : putEntry before (str e.1) e.2 = before ++ [(str e.1, e.2)] := by
      simp [putEntry, hnew]
    rw [List.map_cons, List.foldl_cons]
    simp only [key?, Option.isNone_some, Bool.false_eq_true, if_false, hput]
    rw [ih (by simpa using h)]
    simp

/-- Under names that are all different nothing is replaced. -/
theorem keyed_of_nodup {es : List (String × Value)} (h : (es.map Prod.fst).Nodup) :
    keyed es = map (es.map fun e => (str e.1, e.2)) := by
  have hkeys : (es.map fun e => str e.1).Pairwise fun k l => k.sameKey l = false := by
    rw [List.pairwise_map]
    rw [List.Nodup, List.pairwise_map] at h
    exact h.imp fun hne => by simpa [sameKey] using hne
  rw [keyed, ofEntries, foldl_putEntry_of_nodup (by simpa using hkeys), List.nil_append]

@[simp] theorem fieldOf?_cons (k key : String) (v : Value) (es : List (Value × Value)) :
    fieldOf? ((str k, v) :: es) key = if k = key then some v else fieldOf? es key := by
  by_cases h : k = key <;> simp [fieldOf?, sameKey, h]

@[simp] theorem fieldOf_cons (k key : String) (v : Value) (es : List (Value × Value)) :
    fieldOf ((str k, v) :: es) key = if k = key then v else fieldOf es key := by
  by_cases h : k = key <;> simp [fieldOf, h]

/-- A text as it is written, or null. -/
def ofSlot : Option String → Value
  | none => null
  | some s => str s

/-- Texts as a list. -/
def ofTexts (texts : List String) : Value :=
  list (texts.map str)

mutual

/-- What an attribute is written as: a mapping if it names a type or must not be read. -/
def longForm : Value → Value
  | typeName name => map [(str "type_value", str name)]
  | restricted reason => map [(str "restricted", bool true), (str "reason", str reason)]
  | list items => list (allLongForms items)
  | v => v

def allLongForms : List Value → List Value
  | [] => []
  | v :: vs => v.longForm :: allLongForms vs

end

mutual

/-- A value that an attribute can have: a scalar, the name of a type, a value that must not be read,
plain data that is not taken for one of these, or a list of such values. -/
def IsAttribute : Value → Prop
  | typeName _ | restricted _ => True
  | map es => fieldOf? es "type_value" = none ∧ (fieldOf es "restricted").isTruthy = false
  | list items => AreAttributes items
  | v => v.IsScalar

def AreAttributes : List Value → Prop
  | [] => True
  | v :: vs => v.IsAttribute ∧ AreAttributes vs

end

end Value

namespace Graph

/-- An annotation as a mapping. -/
def AnnotationDefinition.longForm (a : AnnotationDefinition) : Value :=
  .map [(.str "type", .str a.type),
    (.str "attributes", .keyed (a.attributes.entries.map fun e => (e.1, e.2.longForm)))]

/-- Annotations as a list. -/
def annotationsForm (as : List AnnotationDefinition) : Value :=
  .list (as.map AnnotationDefinition.longForm)

/-- A parameter as a mapping. -/
def ParameterDefinition.longForm (p : ParameterDefinition) : Value :=
  .map [(.str "type", .ofSlot p.type), (.str "annotations", annotationsForm p.annotations)]

/-- Parameters as a list. -/
def parametersForm (ps : List ParameterDefinition) : Value :=
  .list (ps.map ParameterDefinition.longForm)

/-- A method as a mapping, which stands under its name. -/
def MethodDefinition.longForm (m : MethodDefinition) : Value :=
  .map [(.str "returns", .ofSlot m.returns), (.str "raises", .ofTexts m.raises),
    (.str "parameters", parametersForm m.parameters)]

/-- A constructor as a mapping. -/
def ConstructorDefinition.longForm (c : ConstructorDefinition) : Value :=
  .map [(.str "raises", .ofTexts c.raises), (.str "parameters", parametersForm c.parameters)]

/-- A field as a mapping, which stands under its name. -/
def FieldDefinition.longForm (f : FieldDefinition) : Value :=
  .map [(.str "type", .ofSlot f.type), (.str "annotations", annotationsForm f.annotations)]

/-- A type as a mapping, which stands under its name. -/
def TypeDefinition.longForm (d : TypeDefinition) : Value :=
  .map [(.str "methods", .keyed (d.methods.map fun m => (m.name, m.longForm))),
    (.str "constructors", .list (d.constructors.map ConstructorDefinition.longForm)),
    (.str "fields", .keyed (d.fields.map fun f => (f.name, f.longForm))),
    (.str "supertype", .ofSlot d.supertype), (.str "interfaces", .ofTexts d.interfaces),
    (.str "annotations", annotationsForm d.annotations), (.str "package", .ofSlot d.package)]

/-- A package as a mapping, which stands under its name. -/
def PackageDefinition.longForm (p : PackageDefinition) : Value :=
  .map [(.str "annotations", annotationsForm p.annotations)]

/-- Graph data with the given types and packages. -/
def longForm (types : List TypeDefinition) (packages : List PackageDefinition) : Value :=
  .map [(.str "packages", .keyed (packages.map fun p => (p.name, p.longForm))),
    (.str "types", .keyed (types.map fun d => (d.name, d.longForm)))]

/-- All attributes of an annotation have values that can be written. -/
def AnnotationDefinition.Writable (a : AnnotationDefinition) : Prop :=
  ∀ e ∈ a.attributes.entries, e.2.IsAttribute

/-- A definition that graph data can describe. -/
structure TypeDefinition.Writable (d : TypeDefinition) : Prop where
  methods : (d.methods.map MethodDefinition.name).Nodup
  fields : (d.fields.map FieldDefinition.name).Nodup
  expressions : ∀ x ∈ d.expressions {}, Legible x
  annotations : ∀ a ∈ d.ownAnnotations, a.Writable

/-- A package that graph data can describe. -/
def PackageDefinition.Writable (p : PackageDefinition) : Prop :=
  ∀ a ∈ p.annotations, a.Writable

mutual

theorem attributeWithin_longForm : ∀ {v : Value}, v.IsAttribute →
    attributeWithin id v.longForm = .ok v
  | .typeName _, _ => rfl
  | .restricted _, _ => rfl
  | .map es, h => by
    obtain ⟨htype, hrestricted⟩ := h
    have hid : (es.map fun e => (id e.1, id e.2)) = es := List.map_id es
    have hwithin :
        attributeWithin id (.map es) = attributeMapping (es.map fun e => (id e.1, id e.2)) :=
      rfl
    simp only [Value.longForm, hwithin, hid, attributeMapping, htype, hrestricted,
      Bool.false_eq_true, if_false]
  | .list items, h => by
    rw [Value.longForm, attributeWithin, attributesWithin_longForm h]
    rfl
  | .null, _ | .bool _, _ | .int _, _ | .double _, _ | .str _, _ | .bytes _, _ | .day _, _
  | .moment _, _ => rfl
  | .tuple _, h | .set _, h | .handle _, h | .loop _ _, h | .again _, h => h.elim

theorem attributesWithin_longForm : ∀ {vs : List Value}, Value.AreAttributes vs →
    attributesWithin id (Value.allLongForms vs) = .ok vs
  | [], _ => rfl
  | v :: vs, ⟨hv, hvs⟩ => by
    rw [Value.allLongForms, attributesWithin, attributeWithin_longForm hv,
      attributesWithin_longForm hvs]
    rfl

end

theorem asMapping_keyed {β : Type} {name : β → String} (form : β → Value) {bs : List β}
    (h : (bs.map name).Nodup) (context : String) :
    asMapping (.keyed (bs.map fun b => (name b, form b))) context =
      .ok (bs.map fun b => (.str (name b), form b)) := by
  have hnames : ((bs.map fun b => (name b, form b)).map Prod.fst).Nodup := by
    simpa [Function.comp_def] using h
  rw [Value.keyed_of_nodup hnames, List.map_map]
  rfl

theorem textOf_str (s : String) : textOf (.str s) = .ok s := rfl

theorem asMapping_map (es : List (Value × Value)) (context : String) :
    asMapping (.map es) context = .ok es := rfl

theorem expression?_ofSlot {slot : Option String} (h : ∀ x ∈ slot.toList, Legible x) :
    expression? (.ofSlot slot) = .ok slot := by
  cases slot with
  | none => rfl
  | some s =>
    obtain ⟨r, hr⟩ := h s (by simp)
    simp [Value.ofSlot, expression?, hr]

theorem expressions_ofTexts {texts : List String} (h : ∀ x ∈ texts, Legible x) :
    expressions (.ofTexts texts) = .ok texts := by
  have hslots : (texts.map Value.str).mapM expression? = .ok (texts.map some) := by
    have hall : ((texts.map some).map Value.ofSlot).mapM expression? = .ok (texts.map some) := by
      refine mapM_map_eq_ok fun slot hslot => ?_
      obtain ⟨x, hx, rfl⟩ := List.mem_map.1 hslot
      exact expression?_ofSlot (by simpa using h x hx)
    rwa [List.map_map] at hall
  have hlist : asList (.ofTexts texts) = texts.map Value.str := rfl
  rw [expressions, hlist, hslots]
  simp [bind, Except.bind, pure, Except.pure]

theorem attributeEntry_longForm {e : String × Value} (h : e.2.IsAttribute) :
    attributeEntry (.str e.1, e.2.longForm) = .ok e := by
  have hvalue : attributeValue e.2.longForm = .ok e.2 := attributeWithin_longForm h
  simp only [attributeEntry, hvalue]
  rfl

theorem annotationEntry_longForm {a : AnnotationDefinition} (h : a.Writable) :
    annotationEntry a.longForm = .ok a := by
  have hattributes := asMapping_keyed (fun e : String × Value => e.2.longForm)
    a.attributes.distinct "annotation attributes"
  have hentries : (a.attributes.entries.map fun e => (Value.str e.1, e.2.longForm)).mapM
      attributeEntry = .ok a.attributes.entries :=
    mapM_map_eq_ok fun e he => attributeEntry_longForm (h e he)
  simp only [annotationEntry, AnnotationDefinition.longForm, asMapping_map, ok_bind,
    Value.fieldOf?_cons, Value.fieldOf_cons, String.reduceEq, if_true, if_false, hattributes,
    hentries, textOf_str, Table.ofEntries_entries]
  rfl

theorem annotations_longForm {as : List AnnotationDefinition} (h : ∀ a ∈ as, a.Writable) :
    annotations (annotationsForm as) = .ok as :=
  mapM_map_eq_ok fun a ha => annotationEntry_longForm (h a ha)

theorem parameter_longForm {p : ParameterDefinition} (ht : ∀ x ∈ p.type.toList, Legible x)
    (ha : ∀ a ∈ p.annotations, a.Writable) : parameter p.longForm = .ok p := by
  simp only [parameter, ParameterDefinition.longForm, Value.opened, Value.fieldOf_cons,
    String.reduceEq, if_true, if_false, expression?_ofSlot ht, annotations_longForm ha, ok_bind]
  rfl

theorem parameters_longForm {ps : List ParameterDefinition}
    (ht : ∀ x ∈ parameterExpressions ps, Legible x)
    (ha : ∀ a ∈ ps.flatMap ParameterDefinition.annotations, a.Writable) :
    parameters (parametersForm ps) = .ok ps := by
  refine mapM_map_eq_ok fun p hp => parameter_longForm (fun x hx => ht x ?_) fun a h => ha a ?_
  · exact List.mem_flatMap.2 ⟨p, hp, hx⟩
  · exact List.mem_flatMap.2 ⟨p, hp, h⟩

theorem method_longForm (owner : String) {m : MethodDefinition}
    (hx : ∀ x ∈ m.expressions, Legible x)
    (ha : ∀ a ∈ m.parameters.flatMap ParameterDefinition.annotations, a.Writable) :
    method owner (.str m.name, m.longForm) = .ok m := by
  simp only [MethodDefinition.expressions, List.mem_append, or_imp, forall_and] at hx
  obtain ⟨⟨hreturns, hraises⟩, hparameters⟩ := hx
  simp only [method, MethodDefinition.longForm, textOf_str, asMapping_map, ok_bind,
    Value.fieldOf_cons, String.reduceEq, if_true, if_false, expression?_ofSlot hreturns,
    expressions_ofTexts hraises, parameters_longForm hparameters ha]
  rfl

theorem constructor_longForm (owner : String) {c : ConstructorDefinition}
    (hx : ∀ x ∈ c.expressions, Legible x)
    (ha : ∀ a ∈ c.parameters.flatMap ParameterDefinition.annotations, a.Writable) :
    constructor owner c.longForm = .ok c := by
  simp only [ConstructorDefinition.expressions, List.mem_append, or_imp, forall_and] at hx
  simp only [constructor, ConstructorDefinition.longForm, asMapping_map, ok_bind,
    Value.fieldOf_cons, String.reduceEq, if_true, if_false, expressions_ofTexts hx.1,
    parameters_longForm hx.2 ha]
  rfl

theorem field_longForm {f : FieldDefinition} (hx : ∀ x ∈ f.type.toList, Legible x)
    (ha : ∀ a ∈ f.annotations, a.Writable) : field (.str f.name, f.longForm) = .ok f := by
  simp only [field, FieldDefinition.longForm, textOf_str, ok_bind, Value.opened,
    Value.fieldOf_cons, String.reduceEq, if_true, if_false, expression?_ofSlot hx,
    annotations_longForm ha]
  rfl

theorem packageName?_ofSlot (package : Option String) :
    packageName? (.ofSlot package) = .ok package := by
  cases package <;> rfl

theorem typeDefinition_longForm {d : TypeDefinition} (h : d.Writable) :
    typeDefinition (.str d.name, d.longForm) = .ok d := by
  obtain ⟨hmethodNames, hfieldNames, hx, ha⟩ := h
  simp only [TypeDefinition.expressions, if_true, List.mem_append, List.mem_flatMap, or_imp,
    forall_and] at hx
  obtain ⟨⟨⟨⟨hmethods, hconstructors⟩, hfields⟩, hsupertype⟩, hinterfaces⟩ := hx
  simp only [TypeDefinition.ownAnnotations, List.mem_append, or_imp, forall_and] at ha
  obtain ⟨⟨⟨ha₁, ha₂⟩, ha₃⟩, ha₄⟩ := ha
  have methods : (d.methods.map fun m => (Value.str m.name, m.longForm)).mapM (method d.name) =
      .ok d.methods := by
    refine mapM_map_eq_ok fun m hm => method_longForm d.name (fun x hx => ?_) fun a h => ?_
    · exact hmethods x ⟨m, hm, hx⟩
    · exact ha₁ a (List.mem_flatMap.2 ⟨m, hm, h⟩)
  have constructors : (d.constructors.map ConstructorDefinition.longForm).mapM
      (constructor d.name) = .ok d.constructors :=
    mapM_map_eq_ok fun c hc => constructor_longForm d.name
      (fun x hx => hconstructors x ⟨c, hc, hx⟩) fun a h => ha₂ a (List.mem_flatMap.2 ⟨c, hc, h⟩)
  have fields : (d.fields.map fun f => (Value.str f.name, f.longForm)).mapM field = .ok d.fields :=
    mapM_map_eq_ok fun f hf => field_longForm (fun x hx => hfields x ⟨f, hf, hx⟩)
      fun a h => ha₃ a (List.mem_flatMap.2 ⟨f, hf, h⟩)
  have methodEntries :=
    asMapping_keyed MethodDefinition.longForm hmethodNames (d.name ++ ".methods")
  have fieldEntries := asMapping_keyed FieldDefinition.longForm hfieldNames (d.name ++ ".fields")
  simp only [typeDefinition, TypeDefinition.longForm, textOf_str, asMapping_map, ok_bind,
    Value.fieldOf_cons, String.reduceEq, if_true, if_false, methodEntries, methods, asList,
    Value.opened, constructors, fieldEntries, fields, expression?_ofSlot hsupertype,
    expressions_ofTexts hinterfaces, annotations_longForm ha₄, packageName?_ofSlot]
  rfl

theorem packageDefinition_longForm {p : PackageDefinition} (h : p.Writable) :
    packageDefinition (.str p.name, p.longForm) = .ok p := by
  simp only [packageDefinition, PackageDefinition.longForm, textOf_str, asMapping_map, ok_bind,
    Value.fieldOf_cons, if_true, annotations_longForm h]
  rfl

namespace Environment

variable {types : List TypeDefinition} {packages : List PackageDefinition}

theorem entries_types_ofDefinitions (h : (types.map TypeDefinition.name).Nodup) :
    (ofDefinitions types packages).types.entries = types.map fun d => (d.name, d) := by
  have hnew :
      ((Table.empty : Table TypeDefinition).names ++ types.map TypeDefinition.name).Nodup := by
    simpa [Table.names, Table.empty] using h
  rw [ofDefinitions, types_foldl_definePackage, types_foldl_define]
  exact Table.entries_foldl_put TypeDefinition.name id hnew

theorem entries_packages_ofDefinitions (h : (packages.map PackageDefinition.name).Nodup) :
    (ofDefinitions types packages).packages.entries = packages.map fun p => (p.name, p) := by
  have hnew : ((Table.empty : Table PackageDefinition).names ++
      packages.map PackageDefinition.name).Nodup := by
    simpa [Table.names, Table.empty] using h
  rw [ofDefinitions, packages_foldl_definePackage, packages_foldl_define]
  exact Table.entries_foldl_put PackageDefinition.name id hnew

theorem lookup_ofDefinitions_iff (h : (types.map TypeDefinition.name).Nodup) (name : String)
    (d : TypeDefinition) :
    (ofDefinitions types packages).lookup name = some d ↔ d ∈ types ∧ d.name = name := by
  rw [lookup, ← Table.mem_entries_iff, entries_types_ofDefinitions h]
  simp only [List.mem_map, Prod.mk.injEq]
  constructor
  · rintro ⟨d', hd', rfl, rfl⟩
    exact ⟨hd', rfl⟩
  · rintro ⟨hd, rfl⟩
    exact ⟨d, hd, rfl, rfl⟩

theorem package_ofDefinitions_iff (h : (packages.map PackageDefinition.name).Nodup) (name : String)
    (p : PackageDefinition) :
    (ofDefinitions types packages).package name = some p ↔ p ∈ packages ∧ p.name = name := by
  rw [package, ← Table.mem_entries_iff, entries_packages_ofDefinitions h]
  simp only [List.mem_map, Prod.mk.injEq]
  constructor
  · rintro ⟨p', hp', rfl, rfl⟩
    exact ⟨hp', rfl⟩
  · rintro ⟨hp, rfl⟩
    exact ⟨p, hp, rfl, rfl⟩

theorem ofValue_longForm_eq (hnames : (types.map TypeDefinition.name).Nodup)
    (hpackages : (packages.map PackageDefinition.name).Nodup) (ht : ∀ d ∈ types, d.Writable)
    (hp : ∀ p ∈ packages, p.Writable) :
    ofValue (longForm types packages) = .ok (ofDefinitions types packages) := by
  have typeEntries := asMapping_keyed TypeDefinition.longForm hnames "types"
  have packageEntries := asMapping_keyed PackageDefinition.longForm hpackages "packages"
  have loadTypes : (types.map fun d => (Value.str d.name, d.longForm)).mapM typeDefinition =
      .ok types :=
    mapM_map_eq_ok fun d hd => typeDefinition_longForm (ht d hd)
  have loadPackages : (packages.map fun p => (Value.str p.name, p.longForm)).mapM
      packageDefinition = .ok packages :=
    mapM_map_eq_ok fun p h => packageDefinition_longForm (hp p h)
  simp only [ofValue, longForm, Value.opened, Value.fieldOf_cons, String.reduceEq, if_true,
    if_false, packageEntries, loadPackages, typeEntries, loadTypes, ok_bind]
  rfl

/-- Definitions with distinct names, written in the long form, are loaded as they were: those and no
others, in their order. -/
theorem ofValue_longForm (hnames : (types.map TypeDefinition.name).Nodup)
    (hpackages : (packages.map PackageDefinition.name).Nodup) (ht : ∀ d ∈ types, d.Writable)
    (hp : ∀ p ∈ packages, p.Writable) :
    ∃ e, ofValue (longForm types packages) = .ok e ∧
      (∀ name d, e.lookup name = some d ↔ d ∈ types ∧ d.name = name) ∧
      (∀ name p, e.package name = some p ↔ p ∈ packages ∧ p.name = name) ∧
      e.types.names = types.map TypeDefinition.name ∧
      e.packages.names = packages.map PackageDefinition.name := by
  refine ⟨_, ofValue_longForm_eq hnames hpackages ht hp, lookup_ofDefinitions_iff hnames,
    package_ofDefinitions_iff hpackages, ?_, ?_⟩
  · rw [Table.names, entries_types_ofDefinitions hnames, List.map_map]
    rfl
  · rw [Table.names, entries_packages_ofDefinitions hpackages, List.map_map]
    rfl

/-- An annotation with an attribute of every kind. -/
def manifoldMark : AnnotationDefinition where
  type := "Mark"
  attributes := .ofEntries [
    ("kinds", .list [.typeName "B", .list [.int 1, .restricted "reserved"]]),
    ("plain", .map [(.str "restricted", .bool false), (.int 0, .null)])]

/-- A type with members of every kind. -/
def manifold : TypeDefinition where
  name := "A"
  methods := [{ name := "m", returns := some "List<? extends A>", raises := ["E"] }]
  constructors := [{ parameters := [{ type := some "B[]", annotations := [manifoldMark] }, {}] }]
  fields := [{ name := "f", annotations := [manifoldMark] }, { name := "g", type := some "B" }]
  interfaces := ["I", "J"]
  package := some "p"

theorem writable_manifoldMark : manifoldMark.Writable := by
  have hentries : manifoldMark.attributes.entries = [
      ("kinds", .list [.typeName "B", .list [.int 1, .restricted "reserved"]]),
      ("plain", .map [(.str "restricted", .bool false), (.int 0, .null)])] := rfl
  intro e he
  rw [hentries] at he
  rcases List.mem_pair.1 he with rfl | rfl
  · exact ⟨trivial, ⟨trivial, trivial, trivial⟩, trivial⟩
  · exact ⟨rfl, rfl⟩

theorem writable_manifold : manifold.Writable where
  methods := by decide
  fields := by decide
  expressions := by
    have hall : manifold.expressions {} = ["List<? extends A>", "E", "B[]", "B", "I", "J"] := rfl
    have hparse : ∀ x ∈ manifold.expressions {}, (Expression.parse x).isOk = true := by
      rw [hall]
      decide +kernel
    intro x hx
    cases hr : Expression.parse x with
    | ok r => exact ⟨r, hr⟩
    | error why =>
      have hok := hparse x hx
      rw [hr] at hok
      cases hok
  annotations := by
    have hall : manifold.ownAnnotations = [manifoldMark, manifoldMark] := rfl
    intro a ha
    simp only [hall, List.mem_cons, List.not_mem_nil, or_false, or_self] at ha
    exact ha ▸ writable_manifoldMark

theorem ofValue_longForm_manifold :
    manifold.Writable ∧ manifoldMark.Writable ∧
    ∃ e, ofValue (longForm [manifold, { name := "B" }]
        [{ name := "p", annotations := [manifoldMark] }]) = .ok e ∧
      e.lookup "A" = some manifold ∧ e.lookup "Mark" = none ∧
      e.package "p" = some { name := "p", annotations := [manifoldMark] } := by
  have hB : TypeDefinition.Writable { name := "B" } := ⟨by decide, by decide, by simp
    [TypeDefinition.expressions], by simp [TypeDefinition.ownAnnotations]⟩
  obtain ⟨e, he, htypes, hpackages, -, -⟩ := @ofValue_longForm [manifold, { name := "B" }]
    [{ name := "p", annotations := [manifoldMark] }] (by decide) (by decide)
    (by simpa using ⟨writable_manifold, hB⟩)
    (by simpa [PackageDefinition.Writable] using writable_manifoldMark)
  refine ⟨writable_manifold, writable_manifoldMark, e, he, ?_, ?_, ?_⟩
  · exact (htypes "A" manifold).2 ⟨by simp, rfl⟩
  · by_contra hne
    obtain ⟨d, hd⟩ := Option.ne_none_iff_exists'.1 hne
    obtain ⟨hmem, hname⟩ := (htypes "Mark" d).1 hd
    rcases List.mem_pair.1 hmem with rfl | rfl
    · exact absurd hname (by decide)
    · exact absurd hname (by decide)
  · exact (hpackages "p" _).2 ⟨by simp, rfl⟩

end Environment

end Graph

end TypeReach
