import TypeReach.Graph.Load
import TypeReach.Proofs.Obligation

/-!
# What is written in graph data

Where graph data has expressions and annotations, and what becomes of them when an environment is
loaded: each definition has the expressions and annotations of the body under its name, in order. Of
several keys with the same text, the last one counts.
-/

namespace TypeReach

section

variable {ε β γ : Type}

theorem exists_mem_of_mapM {f : β → Except ε γ} {bs : List β} {cs : List γ}
    (h : bs.mapM f = .ok cs) {b : β} (hb : b ∈ bs) : ∃ c ∈ cs, f b = .ok c := by
  induction bs generalizing cs with
  | nil => simp at hb
  | cons x xs ih =>
    rw [List.mapM_cons] at h
    obtain ⟨y, hy, h⟩ := exists_of_bind_eq_ok h
    obtain ⟨ys, hys, h⟩ := exists_of_bind_eq_ok h
    cases h
    rcases List.mem_cons.1 hb with rfl | hb
    · exact ⟨y, by simp, hy⟩
    · obtain ⟨c, hc, hf⟩ := ih hys hb
      exact ⟨c, List.mem_cons_of_mem y hc, hf⟩

theorem mapM_append_eq_ok {f : β → Except ε γ} {as bs : List β} {cs ds : List γ}
    (ha : as.mapM f = .ok cs) (hb : bs.mapM f = .ok ds) : (as ++ bs).mapM f = .ok (cs ++ ds) := by
  rw [List.mapM_append, ha, hb]
  rfl

/-- A relation of parts that is kept when parts are put together holds of the parts of all items if
it holds of the parts of each. -/
theorem flatMap_of_mapM {ι κ : Type} {P : List ι → List κ → Prop} {f : β → Except ε γ}
    {g : β → List ι} {k : γ → List κ} (nil : P [] [])
    (append : ∀ {as bs xs ys}, P as xs → P bs ys → P (as ++ bs) (xs ++ ys))
    {bs : List β} {cs : List γ} (h : bs.mapM f = .ok cs)
    (hf : ∀ b c, f b = .ok c → P (g b) (k c)) : P (bs.flatMap g) (cs.flatMap k) := by
  induction bs generalizing cs with
  | nil =>
    cases h
    exact nil
  | cons b bs ih =>
    rw [List.mapM_cons] at h
    obtain ⟨c, hc, h⟩ := exists_of_bind_eq_ok h
    obtain ⟨cs', hcs, h⟩ := exists_of_bind_eq_ok h
    cases h
    exact append (hf b c hc) (ih hcs)

/-- The last item that a condition picks goes with the last result that a matching one picks. -/
theorem findLast_of_mapM {f : β → Except ε γ} {p : β → Bool} {q : γ → Bool} {bs : List β}
    {cs : List γ} (h : bs.mapM f = .ok cs) (hpq : ∀ b c, f b = .ok c → p b = q c) :
    (bs.reverse.find? p = none ∧ cs.reverse.find? q = none) ∨
      ∃ b c, bs.reverse.find? p = some b ∧ cs.reverse.find? q = some c ∧ f b = .ok c := by
  induction bs generalizing cs with
  | nil =>
    cases h
    exact .inl ⟨rfl, rfl⟩
  | cons b bs ih =>
    rw [List.mapM_cons] at h
    obtain ⟨c, hc, h⟩ := exists_of_bind_eq_ok h
    obtain ⟨cs', hcs, h⟩ := exists_of_bind_eq_ok h
    cases h
    simp only [List.reverse_cons, List.find?_append]
    obtain ⟨hb, hc'⟩ | ⟨b', c', hb, hc', hf⟩ := ih hcs
    · rw [hb, hc']
      cases hp : p b with
      | true => exact .inr ⟨b, c, by simp [hp], by simp [← hpq b c hc, hp], hc⟩
      | false => exact .inl ⟨by simp [hp], by simp [← hpq b c hc, hp]⟩
    · exact .inr ⟨b', c', by rw [hb]; rfl, by rw [hc']; rfl, hf⟩

end

/-- Of the values put under a name, the last one counts. -/
theorem Table.get?_foldl_put {β γ : Type} (key : γ → String) (value : γ → β) (cs : List γ)
    (t : Table β) (name : String) :
    (cs.foldl (fun t c => t.put (key c) (value c)) t).get? name =
      ((cs.reverse.find? fun c => key c == name).map value).or (t.get? name) := by
  induction cs generalizing t with
  | nil => rfl
  | cons c cs ih =>
    rw [List.foldl_cons, ih, List.reverse_cons, List.find?_append, Option.map_or, Option.or_assoc]
    congr 1
    rw [Table.get?_put, List.find?_cons, List.find?_nil]
    by_cases h : key c = name
    · simp [h]
    · have hb : (key c == name) = false := beq_eq_false_iff_ne.2 h
      simp [hb, Ne.symm h]

namespace Graph

/-- The entries of a mapping. Other values have none. -/
def entries (v : Value) : List (Value × Value) :=
  match v.opened with
  | .map es => es
  | _ => []

/-- The value under a text key, or null. -/
def part (v : Value) (key : String) : Value :=
  Value.fieldOf (entries v) key

/-- The value under the last key that is written like a name. -/
def valueAt? (v : Value) (name : String) : Option Value :=
  ((entries v).reverse.find? fun e => e.1.text? == some name).map Prod.snd

/-- The string that a value is. -/
def str? : Value → Option String
  | .str s => some s
  | _ => none

/-- Where the type of a field or parameter is written, which has a short form. -/
def typeOf (v : Value) : Value :=
  match v.opened with
  | .map es => Value.fieldOf es "type"
  | _ => v

/-- The annotations of a field or parameter. -/
def annotationsOf (v : Value) : List Value :=
  match v.opened with
  | .map es => asList (Value.fieldOf es "annotations")
  | _ => []

/-- Where the walk of a type finds expressions in its body. -/
def expressionPlaces (options : WalkOptions) (body : Value) : List Value :=
  (entries (part body "methods")).flatMap (fun m =>
    [part m.2 "returns"] ++ asList (part m.2 "raises") ++
      (asList (part m.2 "parameters")).flatMap fun p => [typeOf p]) ++
  (asList (part body "constructors")).flatMap (fun c =>
    asList (part c "raises") ++ (asList (part c "parameters")).flatMap fun p => [typeOf p]) ++
  (entries (part body "fields")).flatMap (fun f => [typeOf f.2]) ++
  (if options.traverseSupertype then [part body "supertype"] else []) ++
  asList (part body "interfaces")

/-- The body of the package that the body of a type names. -/
def packageBody? (data body : Value) : Option Value :=
  match part body "package" with
  | .null => none
  | name => name.text?.bind (valueAt? (part data "packages"))

/-- The annotations that the walk of a type finds in its body. -/
def ownAnnotations (body : Value) : List Value :=
  (entries (part body "methods")).flatMap (fun m =>
    (asList (part m.2 "parameters")).flatMap annotationsOf) ++
  (asList (part body "constructors")).flatMap (fun c =>
    (asList (part c "parameters")).flatMap annotationsOf) ++
  (entries (part body "fields")).flatMap (fun f => annotationsOf f.2) ++
  asList (part body "annotations")

/-- The annotations that the walk of a type finds in its body and in that of its package. -/
def annotationPlaces (data body : Value) : List Value :=
  ownAnnotations body ++
    ((packageBody? data body).map fun p => asList (part p "annotations")).getD []

/-- The type of an annotation, which may be written by its name alone. -/
def annotationType? : Value → Option String
  | .str name => some name
  | a => (Value.fieldOf? (entries a) "type").bind Value.text?

/-- An attribute names a type, itself or as an item of a list. -/
inductive Names : Value → String → Prop
  | itself {name} : Names (.typeName name) name
  | item {items name} : .typeName name ∈ items → Names (.list items) name
  | tupleItem {items name} : .typeName name ∈ items → Names (.tuple items) name

/-- An annotation has an attribute that names a type. -/
def Forces (a : Value) (name : String) : Prop :=
  ∃ key v w, valueAt? (part a "attributes") key = some v ∧ attributeValue v = .ok w ∧
    Names w name

/-- The annotations in the signatures and members of a definition, and its own. -/
def TypeDefinition.ownAnnotations (d : TypeDefinition) : List AnnotationDefinition :=
  d.methods.flatMap (fun m => m.parameters.flatMap ParameterDefinition.annotations) ++
    d.constructors.flatMap (fun c => c.parameters.flatMap ParameterDefinition.annotations) ++
    d.fields.flatMap FieldDefinition.annotations ++ d.annotations

/-- Values are read as these expressions, which can all be read. -/
structure Reads (vs : List Value) (xs : List String) : Prop where
  eq : vs.filterMap str? = xs
  legible : ∀ x ∈ xs, Legible x

/-- Values are read as these annotations. -/
def Annotates (vs : List Value) (as : List AnnotationDefinition) : Prop :=
  vs.mapM annotationEntry = .ok as

namespace Reads

theorem nil : Reads [] [] :=
  ⟨rfl, by simp⟩

theorem append {vs ws : List Value} {xs ys : List String} (h : Reads vs xs) (h' : Reads ws ys) :
    Reads (vs ++ ws) (xs ++ ys) where
  eq := by rw [List.filterMap_append, h.eq, h'.eq]
  legible x hx := (List.mem_append.1 hx).elim (h.legible x) (h'.legible x)

theorem flatMap {β γ : Type} {f : β → Except LoadError γ} {g : β → List Value}
    {k : γ → List String} {bs : List β} {cs : List γ} (h : bs.mapM f = .ok cs)
    (hf : ∀ b c, f b = .ok c → Reads (g b) (k c)) : Reads (bs.flatMap g) (cs.flatMap k) :=
  flatMap_of_mapM nil append h hf

end Reads

namespace Annotates

theorem nil : Annotates [] [] := rfl

theorem append {vs ws : List Value} {as bs : List AnnotationDefinition} (h : Annotates vs as)
    (h' : Annotates ws bs) : Annotates (vs ++ ws) (as ++ bs) :=
  mapM_append_eq_ok h h'

theorem flatMap {β γ : Type} {f : β → Except LoadError γ} {g : β → List Value}
    {k : γ → List AnnotationDefinition} {bs : List β} {cs : List γ} (h : bs.mapM f = .ok cs)
    (hf : ∀ b c, f b = .ok c → Annotates (g b) (k c)) : Annotates (bs.flatMap g) (cs.flatMap k) :=
  flatMap_of_mapM nil append h hf

end Annotates

theorem entries_of_asMapping {v : Value} {context : String} {es : List (Value × Value)}
    (h : asMapping v context = .ok es) : entries v = es := by
  unfold asMapping at h
  unfold entries
  split at h <;> simp_all

theorem reads_expression {v : Value} {slot : Option String} (h : expression? v = .ok slot) :
    Reads [v] slot.toList := by
  unfold expression? at h
  split at h
  · cases h
    exact ⟨rfl, by simp⟩
  · next s =>
    cases hp : Expression.parse s with
    | error why => simp [hp] at h
    | ok r =>
      simp only [hp] at h
      cases h
      refine ⟨rfl, fun x hx => ?_⟩
      cases List.mem_singleton.1 hx
      exact ⟨r, hp⟩
  · split at h <;> cases h

theorem reads_expressions {v : Value} {xs : List String} (h : expressions v = .ok xs) :
    Reads (asList v) xs := by
  obtain ⟨slots, hslots, h⟩ := exists_of_bind_eq_ok h
  cases h
  have hall := Reads.flatMap hslots fun _ _ => reads_expression
  rw [List.filterMap_eq_flatMap_toList]
  simpa using hall

theorem long_form {v : Value} {es : List (Value × Value)} (h : v.opened = .map es) :
    typeOf v = Value.fieldOf es "type" ∧
      annotationsOf v = asList (Value.fieldOf es "annotations") := by
  simp only [typeOf, annotationsOf, h, and_self]

theorem short_form {v : Value} (h : ∀ es, v.opened ≠ .map es) :
    typeOf v = v ∧ annotationsOf v = [] := by
  unfold typeOf annotationsOf
  cases hv : v.opened with
  | map es => exact absurd hv (h es)
  | _ => exact ⟨rfl, rfl⟩

theorem parameter_spec {v : Value} {p : ParameterDefinition} (h : parameter v = .ok p) :
    Reads [typeOf v] p.type.toList ∧ Annotates (annotationsOf v) p.annotations := by
  unfold parameter at h
  split at h
  · next es hes =>
    obtain ⟨type, htype, h⟩ := exists_of_bind_eq_ok h
    obtain ⟨as, has, h⟩ := exists_of_bind_eq_ok h
    cases h
    rw [(long_form hes).1, (long_form hes).2]
    exact ⟨reads_expression htype, has⟩
  · next hshort =>
    obtain ⟨type, htype, h⟩ := exists_of_bind_eq_ok h
    cases h
    rw [(short_form hshort).1, (short_form hshort).2]
    exact ⟨reads_expression htype, .nil⟩

theorem parameters_spec {v : Value} {ps : List ParameterDefinition} (h : parameters v = .ok ps) :
    Reads ((asList v).flatMap fun p => [typeOf p]) (parameterExpressions ps) ∧
      Annotates ((asList v).flatMap annotationsOf)
        (ps.flatMap ParameterDefinition.annotations) :=
  ⟨.flatMap h fun _ _ hp => (parameter_spec hp).1, .flatMap h fun _ _ hp => (parameter_spec hp).2⟩

theorem method_spec {owner : String} {entry : Value × Value} {m : MethodDefinition}
    (h : method owner entry = .ok m) :
    Reads ([part entry.2 "returns"] ++ asList (part entry.2 "raises") ++
        (asList (part entry.2 "parameters")).flatMap fun p => [typeOf p]) m.expressions ∧
      Annotates ((asList (part entry.2 "parameters")).flatMap annotationsOf)
        (m.parameters.flatMap ParameterDefinition.annotations) := by
  obtain ⟨name, -, h⟩ := exists_of_bind_eq_ok h
  obtain ⟨body, hbody, h⟩ := exists_of_bind_eq_ok h
  obtain ⟨returns, hreturns, h⟩ := exists_of_bind_eq_ok h
  obtain ⟨raises, hraises, h⟩ := exists_of_bind_eq_ok h
  obtain ⟨ps, hps, h⟩ := exists_of_bind_eq_ok h
  cases h
  simp only [part, entries_of_asMapping hbody]
  obtain ⟨hreads, hannotates⟩ := parameters_spec hps
  exact ⟨((reads_expression hreturns).append (reads_expressions hraises)).append hreads, hannotates⟩

theorem constructor_spec {owner : String} {v : Value} {c : ConstructorDefinition}
    (h : constructor owner v = .ok c) :
    Reads (asList (part v "raises") ++
        (asList (part v "parameters")).flatMap fun p => [typeOf p]) c.expressions ∧
      Annotates ((asList (part v "parameters")).flatMap annotationsOf)
        (c.parameters.flatMap ParameterDefinition.annotations) := by
  obtain ⟨body, hbody, h⟩ := exists_of_bind_eq_ok h
  obtain ⟨raises, hraises, h⟩ := exists_of_bind_eq_ok h
  obtain ⟨ps, hps, h⟩ := exists_of_bind_eq_ok h
  cases h
  simp only [part, entries_of_asMapping hbody]
  obtain ⟨hreads, hannotates⟩ := parameters_spec hps
  exact ⟨(reads_expressions hraises).append hreads, hannotates⟩

theorem field_spec {entry : Value × Value} {f : FieldDefinition} (h : field entry = .ok f) :
    Reads [typeOf entry.2] f.type.toList ∧ Annotates (annotationsOf entry.2) f.annotations := by
  obtain ⟨name, -, h⟩ := exists_of_bind_eq_ok h
  split at h
  · next es hes =>
    obtain ⟨type, htype, h⟩ := exists_of_bind_eq_ok h
    obtain ⟨as, has, h⟩ := exists_of_bind_eq_ok h
    cases h
    rw [(long_form hes).1, (long_form hes).2]
    exact ⟨reads_expression htype, has⟩
  · next hshort =>
    obtain ⟨type, htype, h⟩ := exists_of_bind_eq_ok h
    cases h
    rw [(short_form hshort).1, (short_form hshort).2]
    exact ⟨reads_expression htype, .nil⟩

theorem text?_of_textOf {v : Value} {text : String} (h : textOf v = .ok text) :
    v.text? = some text := by
  unfold textOf at h
  split at h
  · next hv => rw [hv, Except.ok.inj h]
  · cases h

/-- What a definition takes over from the body that it is loaded from. -/
structure Describes (body : Value) (d : TypeDefinition) : Prop where
  reads : ∀ options, Reads (expressionPlaces options body) (d.expressions options)
  annotates : Annotates (ownAnnotations body) d.ownAnnotations
  package : packageName? (part body "package") = .ok d.package

theorem typeDefinition_spec {entry : Value × Value} {d : TypeDefinition}
    (h : typeDefinition entry = .ok d) :
    entry.1.text? = some d.name ∧ Describes entry.2 d := by
  obtain ⟨name, hname, h⟩ := exists_of_bind_eq_ok h
  obtain ⟨body, hbody, h⟩ := exists_of_bind_eq_ok h
  obtain ⟨methodEntries, hmethodEntries, h⟩ := exists_of_bind_eq_ok h
  obtain ⟨methods, hmethods, h⟩ := exists_of_bind_eq_ok h
  obtain ⟨constructors, hconstructors, h⟩ := exists_of_bind_eq_ok h
  obtain ⟨fieldEntries, hfieldEntries, h⟩ := exists_of_bind_eq_ok h
  obtain ⟨fields, hfields, h⟩ := exists_of_bind_eq_ok h
  obtain ⟨supertype, hsupertype, h⟩ := exists_of_bind_eq_ok h
  obtain ⟨interfaces, hinterfaces, h⟩ := exists_of_bind_eq_ok h
  obtain ⟨as, has, h⟩ := exists_of_bind_eq_ok h
  obtain ⟨package, hpackage, h⟩ := exists_of_bind_eq_ok h
  cases h
  have methodPlaces := entries_of_asMapping hmethodEntries
  have fieldPlaces := entries_of_asMapping hfieldEntries
  refine ⟨text?_of_textOf hname, fun options => ?_, ?_, ?_⟩
  · have own : Reads (if options.traverseSupertype then [Value.fieldOf body "supertype"] else [])
        (if options.traverseSupertype then supertype.toList else []) := by
      split
      · exact reads_expression hsupertype
      · exact .nil
    simp only [expressionPlaces, part, entries_of_asMapping hbody, methodPlaces, fieldPlaces]
    exact ((((Reads.flatMap hmethods fun _ _ hm => (method_spec hm).1).append
      (.flatMap hconstructors fun _ _ hc => (constructor_spec hc).1)).append
      (.flatMap hfields fun _ _ hf => (field_spec hf).1)).append own).append
      (reads_expressions hinterfaces)
  · simp only [ownAnnotations, part, entries_of_asMapping hbody, methodPlaces, fieldPlaces]
    exact (((Annotates.flatMap hmethods fun _ _ hm => (method_spec hm).2).append
      (.flatMap hconstructors fun _ _ hc => (constructor_spec hc).2)).append
      (.flatMap hfields fun _ _ hf => (field_spec hf).2)).append has
  · simp only [part, entries_of_asMapping hbody]
    exact hpackage

theorem packageDefinition_spec {entry : Value × Value} {p : PackageDefinition}
    (h : packageDefinition entry = .ok p) :
    entry.1.text? = some p.name ∧ Annotates (asList (part entry.2 "annotations")) p.annotations := by
  obtain ⟨name, hname, h⟩ := exists_of_bind_eq_ok h
  obtain ⟨body, hbody, h⟩ := exists_of_bind_eq_ok h
  obtain ⟨as, has, h⟩ := exists_of_bind_eq_ok h
  cases h
  simp only [part, entries_of_asMapping hbody]
  exact ⟨text?_of_textOf hname, has⟩

namespace Environment

theorem types_foldl_define (ds : List TypeDefinition) (e : Environment) :
    (ds.foldl define e).types = ds.foldl (fun t d => t.put d.name d) e.types := by
  induction ds generalizing e with
  | nil => rfl
  | cons d ds ih => exact ih (e.define d)

theorem packages_foldl_define (ds : List TypeDefinition) (e : Environment) :
    (ds.foldl define e).packages = e.packages := by
  induction ds generalizing e with
  | nil => rfl
  | cons d ds ih => exact ih (e.define d)

theorem types_foldl_definePackage (ps : List PackageDefinition) (e : Environment) :
    (ps.foldl definePackage e).types = e.types := by
  induction ps generalizing e with
  | nil => rfl
  | cons p ps ih => exact ih (e.definePackage p)

theorem packages_foldl_definePackage (ps : List PackageDefinition) (e : Environment) :
    (ps.foldl definePackage e).packages = ps.foldl (fun t p => t.put p.name p) e.packages := by
  induction ps generalizing e with
  | nil => rfl
  | cons p ps ih => exact ih (e.definePackage p)

/-- Of several definitions with one name, the last one counts. -/
theorem lookup_ofDefinitions (ds : List TypeDefinition) (ps : List PackageDefinition)
    (name : String) :
    (ofDefinitions ds ps).lookup name = ds.reverse.find? fun d => d.name == name := by
  have hfold := Table.get?_foldl_put TypeDefinition.name id ds .empty name
  rw [Table.get?_empty, Option.or_none, Option.map_id] at hfold
  rw [lookup, ofDefinitions, types_foldl_definePackage, types_foldl_define]
  exact hfold

theorem package_ofDefinitions (ds : List TypeDefinition) (ps : List PackageDefinition)
    (name : String) :
    (ofDefinitions ds ps).package name = ps.reverse.find? fun p => p.name == name := by
  have hfold := Table.get?_foldl_put PackageDefinition.name id ps .empty name
  rw [Table.get?_empty, Option.or_none, Option.map_id] at hfold
  rw [package, ofDefinitions, packages_foldl_definePackage, packages_foldl_define]
  exact hfold

variable {data : Value} {e : Environment}

/-- A name is defined if it is a key of the section `types`, and its definition takes over the body
under the last such key. -/
theorem lookup_of_ofValue (h : ofValue data = .ok e) (name : String) :
    (valueAt? (part data "types") name = none ∧ e.lookup name = none) ∨
      ∃ body d, valueAt? (part data "types") name = some body ∧ e.lookup name = some d ∧
        Describes body d := by
  unfold ofValue at h
  split at h
  · next es hes =>
    obtain ⟨packageEntries, -, h⟩ := exists_of_bind_eq_ok h
    obtain ⟨packages, -, h⟩ := exists_of_bind_eq_ok h
    obtain ⟨typeEntries, htypeEntries, h⟩ := exists_of_bind_eq_ok h
    obtain ⟨types, htypes, h⟩ := exists_of_bind_eq_ok h
    cases h
    have places : entries (part data "types") = typeEntries := by
      simp only [part, entries, hes]
      exact entries_of_asMapping htypeEntries
    have same : ∀ b d, typeDefinition b = .ok d →
        (b.1.text? == some name) = (d.name == name) := by
      intro b d hd
      rw [(typeDefinition_spec hd).1]
      simp
    rw [valueAt?, places, lookup_ofDefinitions]
    obtain ⟨hnone, hnone'⟩ | ⟨b, d, hb, hd, hf⟩ := findLast_of_mapM htypes same
    · exact .inl ⟨by rw [hnone]; rfl, hnone'⟩
    · exact .inr ⟨b.2, d, by rw [hb]; rfl, hd, (typeDefinition_spec hf).2⟩
  · cases h

/-- A package has the annotations of the body under the last key with its name. -/
theorem package_of_ofValue (h : ofValue data = .ok e) (name : String) :
    (valueAt? (part data "packages") name = none ∧ e.package name = none) ∨
      ∃ body p, valueAt? (part data "packages") name = some body ∧ e.package name = some p ∧
        Annotates (asList (part body "annotations")) p.annotations := by
  unfold ofValue at h
  split at h
  · next es hes =>
    obtain ⟨packageEntries, hpackageEntries, h⟩ := exists_of_bind_eq_ok h
    obtain ⟨packages, hpackages, h⟩ := exists_of_bind_eq_ok h
    obtain ⟨typeEntries, -, h⟩ := exists_of_bind_eq_ok h
    obtain ⟨types, -, h⟩ := exists_of_bind_eq_ok h
    cases h
    have places : entries (part data "packages") = packageEntries := by
      simp only [part, entries, hes]
      exact entries_of_asMapping hpackageEntries
    have same : ∀ b p, packageDefinition b = .ok p →
        (b.1.text? == some name) = (p.name == name) := by
      intro b p hp
      rw [(packageDefinition_spec hp).1]
      simp
    rw [valueAt?, places, package_ofDefinitions]
    obtain ⟨hnone, hnone'⟩ | ⟨b, p, hb, hp, hf⟩ := findLast_of_mapM hpackages same
    · exact .inl ⟨by rw [hnone]; rfl, hnone'⟩
    · exact .inr ⟨b.2, p, by rw [hb]; rfl, hp, (packageDefinition_spec hf).2⟩
  · cases h

/-- All expressions of a loaded environment can be read. -/
theorem allLegible_of_ofValue (h : ofValue data = .ok e) : e.AllLegible := by
  intro name d hd
  obtain ⟨-, hnone⟩ | ⟨body, d', -, hd', hdescribes⟩ := lookup_of_ofValue h name
  · rw [hnone] at hd
    cases hd
  · rw [hd'] at hd
    cases hd
    exact (hdescribes.reads {}).legible

/-- A definition and its package have the annotations that are written in their bodies. -/
theorem annotates_of_ofValue (h : ofValue data = .ok e) {body : Value} {d : TypeDefinition}
    (hd : Describes body d) :
    Annotates (annotationPlaces data body) (d.ownAnnotations ++ e.packageAnnotations d) := by
  refine hd.annotates.append ?_
  have hpackage := hd.package
  unfold packageName? at hpackage
  split at hpackage
  · next hnull =>
    rw [packageBody?, packageAnnotations, hnull, ← Except.ok.inj hpackage]
    exact .nil
  · next hnull =>
    obtain ⟨name, hname, hsome⟩ := exists_of_bind_eq_ok hpackage
    rw [packageBody?, packageAnnotations, ← Except.ok.inj hsome]
    have htext : (part body "package").text? = some name := text?_of_textOf hname
    obtain ⟨hnone, hnone'⟩ | ⟨body', p, hbody, hp, hannotates⟩ := package_of_ofValue h name
    · cases hv : part body "package" with
      | null => exact absurd hv hnull
      | _ => simpa [← hv, htext, hnone, hnone'] using Annotates.nil
    · cases hv : part body "package" with
      | null => exact absurd hv hnull
      | _ => simpa [← hv, htext, hbody, hp] using hannotates

end Environment

theorem attributeEntry_spec {entry : Value × Value} {x : String × Value}
    (h : attributeEntry entry = .ok x) :
    entry.1.text? = some x.1 ∧ attributeValue entry.2 = .ok x.2 := by
  obtain ⟨name, hname, h⟩ := exists_of_bind_eq_ok h
  obtain ⟨v, hv, h⟩ := exists_of_bind_eq_ok h
  cases h
  exact ⟨text?_of_textOf hname, hv⟩

/-- Attributes are those under the last key with each name. -/
theorem get?_attributes {v : Value} {context : String} {es : List (Value × Value)}
    (hes : asMapping v context = .ok es) {xs : List (String × Value)}
    (hxs : es.mapM attributeEntry = .ok xs) (key : String) :
    (valueAt? v key = none ∧ (Table.ofEntries xs).get? key = none) ∨
      ∃ w x, valueAt? v key = some w ∧ (Table.ofEntries xs).get? key = some x ∧
        attributeValue w = .ok x := by
  have hget := Table.get?_foldl_put Prod.fst Prod.snd xs .empty key
  rw [Table.get?_empty, Option.or_none] at hget
  have same : ∀ b (c : String × Value), attributeEntry b = .ok c →
      (b.1.text? == some key) = (c.1 == key) := by
    intro b c hc
    rw [(attributeEntry_spec hc).1]
    simp
  rw [valueAt?, entries_of_asMapping hes, Table.ofEntries, hget]
  obtain ⟨hnone, hnone'⟩ | ⟨b, c, hb, hc, hf⟩ := findLast_of_mapM hxs same
  · exact .inl ⟨by rw [hnone]; rfl, by rw [hnone']; rfl⟩
  · exact .inr ⟨b.2, c.2, by rw [hb]; rfl, by rw [hc]; rfl, (attributeEntry_spec hf).2⟩

/-- An annotation has the type and the attributes that are written in it. -/
theorem annotationEntry_spec {a : Value} {ad : AnnotationDefinition}
    (h : annotationEntry a = .ok ad) :
    annotationType? a = some ad.type ∧
      ∀ name, Forces a name ↔ ∃ key w, ad.attributes.get? key = some w ∧ Names w name := by
  unfold annotationEntry at h
  split at h
  · next type =>
    cases h
    refine ⟨rfl, fun name => ⟨?_, ?_⟩⟩
    · rintro ⟨key, v, w, hv, -⟩
      cases hv
    · rintro ⟨key, w, hw, -⟩
      simp at hw
  · next hstr =>
    obtain ⟨es, hes, h⟩ := exists_of_bind_eq_ok h
    split at h
    · cases h
    · next type htype =>
      obtain ⟨attributes, hattributes, h⟩ := exists_of_bind_eq_ok h
      obtain ⟨xs, hxs, h⟩ := exists_of_bind_eq_ok h
      obtain ⟨text, htext, h⟩ := exists_of_bind_eq_ok h
      cases h
      have places := entries_of_asMapping hes
      constructor
      · have hread : (Value.fieldOf? (entries a) "type").bind Value.text? = some text := by
          rw [places, htype]
          exact text?_of_textOf htext
        cases a with
        | str s => exact absurd rfl (hstr s)
        | _ => exact hread
      · intro name
        have hkey := get?_attributes hattributes hxs
        simp only [Forces, part, places]
        constructor
        · rintro ⟨key, v, w, hv, hw, hn⟩
          obtain ⟨hnone, -⟩ | ⟨v', x, hv', hx, hvalue⟩ := hkey key
          · cases hnone.symm.trans hv
          · cases hv'.symm.trans hv
            cases hvalue.symm.trans hw
            exact ⟨key, _, hx, hn⟩
        · rintro ⟨key, w, hw, hn⟩
          obtain ⟨-, hnone⟩ | ⟨v', x, hv', hx, hvalue⟩ := hkey key
          · cases hnone.symm.trans hw
          · cases hx.symm.trans hw
            exact ⟨key, v', _, hv', hvalue, hn⟩

end Graph

end TypeReach
