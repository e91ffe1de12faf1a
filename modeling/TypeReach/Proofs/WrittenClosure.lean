import Mathlib.Data.Set.Card
import TypeReach.Proofs.Machine
import TypeReach.Proofs.Nesting

/-!
# The closure that graph data describes

Which names a root reaches through what is written in graph data, and which names are resolved on
the way. The machine that walks the loaded environment is done if and only if all of these are keys
of the section `types`; then it has marked the names that are reached, each once. Otherwise it halts
at one that is no key.
-/

namespace TypeReach.Graph

/-- The body of a type mentions a name: in an expression, or as the type of an annotation. -/
def Mentions (data : Value) (options : WalkOptions) (body : Value) (name : String) : Prop :=
  (∃ x r, .str x ∈ expressionPlaces options body ∧ Expression.parse x = .ok r ∧
    name ∈ r.targets) ∨
  ∃ a ∈ annotationPlaces data body, annotationType? a = some name

/-- The body under a key of the section `types`. -/
def typeBody? (data : Value) (name : String) : Option Value :=
  valueAt? (part data "types") name

/-- A name is reached from a root through bodies that mention the next one. -/
def Reached (data : Value) (options : WalkOptions) (root name : String) : Prop :=
  Relation.ReflTransGen (fun n m => ∃ body, typeBody? data n = some body ∧
    Mentions data options body m) root name

/-- A name is resolved when an attribute of an annotation that is met is read. -/
def Forced (data : Value) (options : WalkOptions) (root name : String) : Prop :=
  ∃ n body a, Reached data options root n ∧ typeBody? data n = some body ∧
    a ∈ annotationPlaces data body ∧ Forces a name

/-- All names that are reached or resolved are keys of the section `types`. -/
def Complete (data : Value) (options : WalkOptions) (root : String) : Prop :=
  ∀ name, Reached data options root name ∨ Forced data options root name →
    typeBody? data name ≠ none

namespace Obligation

theorem mem_ofExpression {o : Obligation} {x : String} : o ∈ ofExpression x ↔
    ∃ r, Expression.parse x = .ok r ∧ ∃ name ∈ r.targets, o = walk (.named name) := by
  unfold ofExpression
  cases Expression.parse x with
  | error why => simp
  | ok r => simp [eq_comm]

/-- An obligation comes from one of several expressions. -/
def InExpressions (o : Obligation) (xs : List String) : Prop :=
  ∃ x ∈ xs, o ∈ ofExpression x

/-- An obligation comes from one of several annotations. -/
def InAnnotations (o : Obligation) (as : List AnnotationDefinition) : Prop :=
  ∃ a ∈ as, o ∈ ofUse a

section

variable {β : Type} {o : Obligation} {xs ys : List String} {as bs : List AnnotationDefinition}
  {cs : List β}

@[simp] theorem not_inExpressions_nil : ¬InExpressions o [] := by
  simp [InExpressions]

@[simp] theorem inExpressions_append :
    InExpressions o (xs ++ ys) ↔ InExpressions o xs ∨ InExpressions o ys := by
  simp [InExpressions, or_and_right, exists_or]

@[simp] theorem inExpressions_flatMap {f : β → List String} :
    InExpressions o (cs.flatMap f) ↔ ∃ c ∈ cs, InExpressions o (f c) := by
  simp only [InExpressions, List.mem_flatMap]
  grind

@[simp] theorem inAnnotations_append :
    InAnnotations o (as ++ bs) ↔ InAnnotations o as ∨ InAnnotations o bs := by
  simp [InAnnotations, or_and_right, exists_or]

@[simp] theorem inAnnotations_flatMap {f : β → List AnnotationDefinition} :
    InAnnotations o (cs.flatMap f) ↔ ∃ c ∈ cs, InAnnotations o (f c) := by
  simp only [InAnnotations, List.mem_flatMap]
  grind

theorem mem_flatMap_ofExpression : o ∈ xs.flatMap ofExpression ↔ InExpressions o xs :=
  List.mem_flatMap

theorem mem_flatMap_ofUse : o ∈ as.flatMap ofUse ↔ InAnnotations o as :=
  List.mem_flatMap

theorem mem_ofSlot {slot : Option String} : o ∈ ofSlot slot ↔ InExpressions o slot.toList :=
  List.mem_flatMap

theorem mem_ofParameters {ps : List ParameterDefinition} : o ∈ ofParameters ps ↔
    InExpressions o (parameterExpressions ps) ∨
      InAnnotations o (ps.flatMap ParameterDefinition.annotations) := by
  rw [ofParameters, parameterExpressions, List.mem_append, List.mem_flatMap, List.mem_flatMap]
  simp only [mem_ofSlot, mem_flatMap_ofUse, inExpressions_flatMap, inAnnotations_flatMap]

theorem mem_ofMethod {m : MethodDefinition} : o ∈ ofMethod m ↔ InExpressions o m.expressions ∨
    InAnnotations o (m.parameters.flatMap ParameterDefinition.annotations) := by
  rw [ofMethod, MethodDefinition.expressions, List.mem_append, List.mem_append, mem_ofParameters]
  simp only [mem_ofSlot, mem_flatMap_ofExpression, inExpressions_append, or_assoc]

theorem mem_ofConstructor {c : ConstructorDefinition} : o ∈ ofConstructor c ↔
    InExpressions o c.expressions ∨
      InAnnotations o (c.parameters.flatMap ParameterDefinition.annotations) := by
  rw [ofConstructor, ConstructorDefinition.expressions, List.mem_append, mem_ofParameters]
  simp only [mem_flatMap_ofExpression, inExpressions_append, or_assoc]

theorem mem_ofField {f : FieldDefinition} : o ∈ ofField f ↔
    InExpressions o f.type.toList ∨ InAnnotations o f.annotations := by
  rw [ofField, List.mem_append, mem_ofSlot, mem_flatMap_ofUse]

end

end Obligation

namespace Environment

open Obligation

variable {e : Environment} {options : WalkOptions} {d : TypeDefinition}

/-- The obligations of a definition come from its expressions, its annotations and those of its
package. -/
theorem mem_obligations {o : Obligation} : o ∈ e.obligations options d ↔
    InExpressions o (d.expressions options) ∨
      InAnnotations o (d.ownAnnotations ++ e.packageAnnotations d) := by
  have supertype : o ∈ (if options.traverseSupertype then ofSlot d.supertype else []) ↔
      InExpressions o (if options.traverseSupertype then d.supertype.toList else []) := by
    split
    · exact mem_ofSlot
    · simp
  have methods : o ∈ d.methods.flatMap ofMethod ↔
      InExpressions o (d.methods.flatMap MethodDefinition.expressions) ∨ InAnnotations o
        (d.methods.flatMap fun m => m.parameters.flatMap ParameterDefinition.annotations) := by
    simp only [List.mem_flatMap, mem_ofMethod, and_or_left, exists_or, inExpressions_flatMap,
      inAnnotations_flatMap]
  have constructors : o ∈ d.constructors.flatMap ofConstructor ↔
      InExpressions o (d.constructors.flatMap ConstructorDefinition.expressions) ∨ InAnnotations o
        (d.constructors.flatMap fun c => c.parameters.flatMap ParameterDefinition.annotations) := by
    simp only [List.mem_flatMap, mem_ofConstructor, and_or_left, exists_or, inExpressions_flatMap,
      inAnnotations_flatMap]
  have fields : o ∈ d.fields.flatMap ofField ↔
      InExpressions o (d.fields.flatMap fun f => f.type.toList) ∨
        InAnnotations o (d.fields.flatMap FieldDefinition.annotations) := by
    simp only [List.mem_flatMap, mem_ofField, and_or_left, exists_or, inExpressions_flatMap,
      inAnnotations_flatMap]
  simp only [obligations, TypeDefinition.expressions, TypeDefinition.ownAnnotations,
    List.mem_append, methods, constructors, fields, supertype, mem_flatMap_ofExpression,
    mem_flatMap_ofUse, inExpressions_append, inAnnotations_append]
  exact Iff.of_eq (by ac_rfl)

end Environment

theorem walk_mem_ofExpression {d : Descriptor} {x : String} :
    .walk d ∈ Obligation.ofExpression x ↔
      ∃ r, Expression.parse x = .ok r ∧ ∃ name ∈ r.targets, d = .named name := by
  simp [Obligation.mem_ofExpression]

theorem walk_mem_ofUse {d : Descriptor} {a : AnnotationDefinition} :
    .walk d ∈ Obligation.ofUse a ↔ d = .named a.type := by
  simp [Obligation.ofUse]

theorem force_notMem_ofExpression {v : Value} {x : String} :
    .force v ∉ Obligation.ofExpression x := by
  simp [Obligation.mem_ofExpression]

theorem force_mem_ofUse {v : Value} {a : AnnotationDefinition} :
    .force v ∈ Obligation.ofUse a ↔ ∃ key, a.attributes.get? key = some v := by
  simp only [Obligation.ofUse, List.mem_cons, reduceCtorEq, false_or, List.mem_map,
    Obligation.force.injEq, Prod.exists, exists_eq_right]
  exact exists_congr fun key => Table.mem_entries_iff

theorem str?_eq_some {v : Value} {x : String} : str? v = some x ↔ v = .str x := by
  cases v <;> simp [str?]

theorem mem_filterMap_str? {vs : List Value} {x : String} :
    x ∈ vs.filterMap str? ↔ .str x ∈ vs := by
  simp [str?_eq_some]

theorem Reads.mem_iff {vs : List Value} {xs : List String} (h : Reads vs xs) {x : String} :
    x ∈ xs ↔ .str x ∈ vs := by
  rw [← h.eq, mem_filterMap_str?]

section

variable {data : Value} {e : Environment} {options : WalkOptions} {body : Value}
  {d : TypeDefinition}

/-- A body mentions the names of the types that the walk of its definition has to walk. -/
theorem mentions_iff (he : Environment.ofValue data = .ok e) (hd : Describes body d)
    (name : String) : Mentions data options body name ↔
      .walk (.named name) ∈ e.obligations options d := by
  have hreads := hd.reads options
  have hannotates := Environment.annotates_of_ofValue he hd
  simp only [Environment.mem_obligations, Obligation.InExpressions, Obligation.InAnnotations,
    walk_mem_ofExpression, walk_mem_ofUse, Mentions, hreads.mem_iff]
  refine or_congr ?_ ?_
  · simp only [Descriptor.named.injEq, exists_eq_right']
    grind
  · constructor
    · rintro ⟨a, ha, htype⟩
      obtain ⟨ad, had, hentry⟩ := exists_mem_of_mapM hannotates ha
      have hspec := (annotationEntry_spec hentry).1
      exact ⟨ad, had, by rw [Option.some.inj (htype.symm.trans hspec)]⟩
    · rintro ⟨ad, had, hname⟩
      obtain ⟨a, ha, hentry⟩ := exists_of_mem_mapM hannotates had
      exact ⟨a, ha, by rw [(annotationEntry_spec hentry).1, Descriptor.named.inj hname]⟩

theorem exists_named_of_walk_mem {x : Descriptor} (h : .walk x ∈ e.obligations options d) :
    ∃ name, x = .named name := by
  rcases Environment.mem_obligations.1 h with ⟨y, -, hy⟩ | ⟨a, -, ha⟩
  · obtain ⟨r, -, name, -, hx⟩ := walk_mem_ofExpression.1 hy
    exact ⟨name, hx⟩
  · exact ⟨a.type, walk_mem_ofUse.1 ha⟩

/-- The annotations in a body name the types that the walk of its definition has to resolve. -/
theorem forces_iff (he : Environment.ofValue data = .ok e) (hd : Describes body d)
    (name : String) : (∃ a ∈ annotationPlaces data body, Forces a name) ↔
      ∃ v, .force v ∈ e.obligations options d ∧ Names v name := by
  have hannotates := Environment.annotates_of_ofValue he hd
  simp only [Environment.mem_obligations, Obligation.InExpressions, Obligation.InAnnotations,
    force_notMem_ofExpression, force_mem_ofUse, and_false, exists_false, false_or]
  constructor
  · rintro ⟨a, ha, hforces⟩
    obtain ⟨ad, had, hentry⟩ := exists_mem_of_mapM hannotates ha
    obtain ⟨key, v, hv, hn⟩ := ((annotationEntry_spec hentry).2 name).1 hforces
    exact ⟨v, ⟨ad, had, key, hv⟩, hn⟩
  · rintro ⟨v, ⟨ad, had, key, hv⟩, hn⟩
    obtain ⟨a, ha, hentry⟩ := exists_of_mem_mapM hannotates had
    exact ⟨a, ha, ((annotationEntry_spec hentry).2 name).2 ⟨key, v, hv, hn⟩⟩

end

theorem names_iff {v : Value} {name : String} : Names v name ↔ name ∈ v.outerTypeNames := by
  have item (items : List Value) :
      .typeName name ∈ items ↔ name ∈ items.filterMap Value.typeName? := by
    rw [List.mem_filterMap]
    constructor
    · exact fun hmem => ⟨_, hmem, rfl⟩
    · rintro ⟨v, hmem, hname⟩
      cases v with
      | typeName n =>
        cases hname
        exact hmem
      | _ => cases hname
  constructor
  · intro h
    cases h with
    | itself => exact List.mem_singleton_self name
    | item hmem => exact (item _).1 hmem
    | tupleItem hmem => exact (item _).1 hmem
  · intro h
    cases v with
    | typeName n =>
      cases List.mem_singleton.1 h
      exact .itself
    | list items => exact .item ((item items).2 h)
    | tuple items => exact .tupleItem ((item items).2 h)
    | _ => cases h

namespace Environment

variable {e : Environment}

/-- An attribute that is not resolved names a type that is not defined. -/
theorem absent?_eq_some {v : Value} {name : String} (h : e.absent? v = some name) :
    Names v name ∧ e.defines name = false := by
  rw [absent?_eq, firstMissing] at h
  refine ⟨names_iff.2 (List.mem_of_find?_eq_some h), ?_⟩
  simpa using List.find?_some h

/-- An attribute is resolved if all types that it names are defined. -/
theorem defines_of_absent?_eq_none {v : Value} (h : e.absent? v = none) {name : String}
    (hn : Names v name) : e.defines name = true := by
  rw [absent?_eq, firstMissing, List.find?_eq_none] at h
  simpa using h name (names_iff.1 hn)

end Environment

section

variable {data : Value} {e : Environment} {options : WalkOptions} {root : String}

theorem body_of_lookup (he : Environment.ofValue data = .ok e) {name : String}
    {d : TypeDefinition} (hd : e.lookup name = some d) :
    ∃ body, typeBody? data name = some body ∧ Describes body d := by
  obtain ⟨-, hnone⟩ | ⟨body, d', hbody, hd', hdescribes⟩ := Environment.lookup_of_ofValue he name
  · cases hnone.symm.trans hd
  · cases hd'.symm.trans hd
    exact ⟨body, hbody, hdescribes⟩

theorem lookup_of_body (he : Environment.ofValue data = .ok e) {name : String} {body : Value}
    (hbody : typeBody? data name = some body) : ∃ d, e.lookup name = some d ∧ Describes body d := by
  obtain ⟨hnone, -⟩ | ⟨body', d, hbody', hd, hdescribes⟩ := Environment.lookup_of_ofValue he name
  · cases hnone.symm.trans hbody
  · cases hbody'.symm.trans hbody
    exact ⟨d, hd, hdescribes⟩

/-- The types that are defined are the keys of the section `types`. -/
theorem typeBody?_eq_none_iff (he : Environment.ofValue data = .ok e) (name : String) :
    typeBody? data name = none ↔ e.lookup name = none := by
  obtain ⟨hbody, hd⟩ | ⟨body, d, hbody, hd, -⟩ := Environment.lookup_of_ofValue he name
  · exact ⟨fun _ => hd, fun _ => hbody⟩
  · simp [typeBody?, hbody, hd]

theorem defines_iff_typeBody? (he : Environment.ofValue data = .ok e) (name : String) :
    e.defines name = true ↔ typeBody? data name ≠ none := by
  rw [Environment.defines_iff, Ne, Ne, typeBody?_eq_none_iff he]

/-- An obligation that a walk from a root comes to: it walks a name that is reached, or resolves
names that are forced. -/
def Due (data : Value) (options : WalkOptions) (root : String) : Obligation → Prop
  | .walk d => ∃ name, d = .named name ∧ Reached data options root name
  | .force v => ∀ name, Names v name → Forced data options root name

/-- An obligation is met: its type is marked, or the types that it names are defined. -/
def Met (data : Value) (marked : List Descriptor) : Obligation → Prop
  | .walk d => d ∈ marked
  | .force v => ∀ name, Names v name → typeBody? data name ≠ none

theorem Met.mono {marked marked' : List Descriptor} {o : Obligation} (h : Met data marked o)
    (hsub : marked ⊆ marked') : Met data marked' o := by
  cases o with
  | walk d => exact hsub h
  | force v => exact h

/-- The obligations of a name that is reached are due. -/
theorem due_of_reached (he : Environment.ofValue data = .ok e) {name : String}
    (hr : Reached data options root name) {d : TypeDefinition} (hd : e.lookup name = some d)
    {o : Obligation} (ho : o ∈ e.obligations options d) : Due data options root o := by
  obtain ⟨body, hbody, hdescribes⟩ := body_of_lookup he hd
  cases o with
  | walk x =>
    obtain ⟨n, rfl⟩ := exists_named_of_walk_mem ho
    have hmentions := (mentions_iff he hdescribes n).2 ho
    exact ⟨n, rfl, hr.tail ⟨body, hbody, hmentions⟩⟩
  | force v =>
    intro n hn
    obtain ⟨a, ha, hforces⟩ := (forces_iff he hdescribes n).2 ⟨v, ho, hn⟩
    exact ⟨name, body, a, hr, hbody, ha, hforces⟩

/-- What holds of a machine that walks from a root. -/
structure Explores (data : Value) (e : Environment) (options : WalkOptions) (root : String)
    (m : Machine) : Prop where
  distinct : m.marked.Nodup
  reached : ∀ d ∈ m.marked, ∃ name, d = .named name ∧ Reached data options root name ∧
    typeBody? data name ≠ none
  due : ∀ o ∈ m.pending, Due data options root o
  started : .walk (.named root) ∈ m.pending ∨ .named root ∈ m.marked
  unfolded : ∀ d ∈ m.marked, ∀ definition, e.lookup d.typeName = some definition →
    ∀ o ∈ e.obligations options definition, o ∈ m.pending ∨ Met data m.marked o

namespace Explores

variable {m m' : Machine}

theorem start : Explores data e options root ⟨[.walk (.named root)], []⟩ where
  distinct := .nil
  reached _ h := nomatch h
  due o h := by
    rw [List.mem_singleton.1 h]
    exact ⟨root, rfl, .refl⟩
  started := .inl (by simp)
  unfolded _ h := nomatch h

/-- If what was on top is met and all else is where it was, nothing gets lost. -/
theorem owed_of_top {top : Obligation} {rest pending : List Obligation} {marked : List Descriptor}
    (hp : m.pending = top :: rest) (htop : Met data marked top) (hrest : rest ⊆ pending)
    (hmarked : m.marked ⊆ marked) {o : Obligation} (ho : o ∈ m.pending ∨ Met data m.marked o) :
    o ∈ pending ∨ Met data marked o := by
  rw [hp] at ho
  rcases ho with ho | ho
  · rcases List.mem_cons.1 ho with rfl | ho
    · exact .inr htop
    · exact .inl (hrest ho)
  · exact .inr (ho.mono hmarked)

/-- An obligation that was pending or met is so after a step. -/
theorem owed_next (he : Environment.ofValue data = .ok e)
    (h : m.next e options = .ok m') {o : Obligation}
    (ho : o ∈ m.pending ∨ Met data m.marked o) : o ∈ m'.pending ∨ Met data m'.marked o := by
  rcases Machine.next_eq_ok h with ⟨v, rest, hp, hv, rfl⟩ | ⟨d, rest, hp, hd, rfl⟩ |
    ⟨d, rest, definition, hp, hd, hl, rfl⟩
  · have htop : Met data m.marked (.force v) := fun name hn =>
      (defines_iff_typeBody? he name).1 (Environment.defines_of_absent?_eq_none hv hn)
    exact owed_of_top hp htop (List.Subset.refl rest) (List.Subset.refl m.marked) ho
  · exact owed_of_top hp hd (List.Subset.refl rest) (List.Subset.refl m.marked) ho
  · exact owed_of_top hp List.mem_cons_self (List.subset_append_right _ rest)
      (List.subset_cons_self d m.marked) ho

/-- One step keeps to the walk from the root. -/
theorem next (he : Environment.ofValue data = .ok e) (hm : Explores data e options root m)
    (h : m.next e options = .ok m') : Explores data e options root m' := by
  have started : .walk (.named root) ∈ m'.pending ∨ .named root ∈ m'.marked :=
    owed_next he h (o := .walk (.named root)) hm.started
  have kept : ∀ d ∈ m.marked, ∀ definition, e.lookup d.typeName = some definition →
      ∀ o ∈ e.obligations options definition, o ∈ m'.pending ∨ Met data m'.marked o :=
    fun d hd definition hl o ho => owed_next he h (hm.unfolded d hd definition hl o ho)
  have hdue := hm.due
  rcases Machine.next_eq_ok h with ⟨v, rest, hp, -, rfl⟩ | ⟨d, rest, hp, -, rfl⟩ |
    ⟨d, rest, definition, hp, hd, hl, rfl⟩
  · rw [hp] at hdue
    exact ⟨hm.distinct, hm.reached, fun o ho => hdue o (List.mem_cons_of_mem _ ho), started, kept⟩
  · rw [hp] at hdue
    exact ⟨hm.distinct, hm.reached, fun o ho => hdue o (List.mem_cons_of_mem _ ho), started, kept⟩
  · rw [hp] at hdue
    -- A type that is marked anew was due, so it is reached, and its obligations are due with it.
    obtain ⟨name, rfl, hr⟩ := hdue (.walk d) (List.mem_cons_self)
    have hdefined : typeBody? data name ≠ none := by
      rw [Ne, typeBody?_eq_none_iff he]
      exact fun hnone => nomatch hnone.symm.trans hl
    refine ⟨List.nodup_cons.2 ⟨hd, hm.distinct⟩, ?_, ?_, started, ?_⟩
    · exact List.forall_mem_cons.2 ⟨⟨name, rfl, hr, hdefined⟩, hm.reached⟩
    · intro o ho
      rcases List.mem_append.1 ho with ho | ho
      · exact due_of_reached he hr hl ho
      · exact hdue o (List.mem_cons_of_mem _ ho)
    · refine List.forall_mem_cons.2 ⟨fun definition' hl' o ho => ?_, kept⟩
      cases hl'.symm.trans hl
      exact .inl (List.mem_append_left _ ho)

theorem steps (he : Environment.ofValue data = .ok e) (hm : Explores data e options root m)
    (h : Machine.Steps e options m m') : Explores data e options root m' := by
  induction h with
  | refl => exact hm
  | tail _ hnext ih => exact ih.next he hnext

/-- When nothing is pending, all names that are reached are marked. -/
theorem marked_of_reached (he : Environment.ofValue data = .ok e)
    (hm : Explores data e options root m) (hp : m.pending = []) {name : String}
    (hr : Reached data options root name) : .named name ∈ m.marked := by
  induction hr with
  | refl => simpa [hp] using hm.started
  | tail _ hstep ih =>
    obtain ⟨body, hbody, hmentions⟩ := hstep
    obtain ⟨d, hl, hdescribes⟩ := lookup_of_body he hbody
    have howed := hm.unfolded _ ih d hl _ ((mentions_iff he hdescribes _).1 hmentions)
    simpa [hp, Met] using howed

/-- When nothing is pending, all names that are forced are keys. -/
theorem typeBody?_of_forced (he : Environment.ofValue data = .ok e)
    (hm : Explores data e options root m) (hp : m.pending = []) {name : String}
    (hf : Forced data options root name) : typeBody? data name ≠ none := by
  obtain ⟨n, body, a, hr, hbody, ha, hforces⟩ := hf
  obtain ⟨d, hl, hdescribes⟩ := lookup_of_body he hbody
  obtain ⟨v, hv, hn⟩ := (forces_iff he hdescribes name).1 ⟨a, ha, hforces⟩
  have howed := hm.unfolded _ (hm.marked_of_reached he hp hr) d hl _ hv
  rw [hp] at howed
  exact howed.resolve_left (by simp) name hn

end Explores

section

variable {marked : List Descriptor} {name : String}

/-- If the names that are reached are marked, each once, there are as many as marks. -/
theorem ncard_reached (distinct : marked.Nodup)
    (h : ∀ d, d ∈ marked ↔ ∃ name, d = .named name ∧ Reached data options root name) :
    {name | Reached data options root name}.Finite ∧
      {name | Reached data options root name}.ncard = marked.length := by
  have injective : Function.Injective Descriptor.named := fun _ _ => Descriptor.named.inj
  have image : Descriptor.named '' {name | Reached data options root name} = marked.toFinset := by
    ext d
    rw [List.coe_toFinset, Set.mem_ofPred, h]
    exact exists_congr fun name => by rw [and_comm, eq_comm]; rfl
  constructor
  · refine Set.Finite.of_finite_image ?_ injective.injOn
    rw [image]
    exact marked.toFinset.finite_toSet
  · rw [← Set.ncard_image_of_injective _ injective, image, Set.ncard_coe_finset,
      List.toFinset_card_of_nodup distinct]

/-- A machine that comes to the end has marked what is reached, which is all there. -/
theorem complete_of_halts (he : Environment.ofValue data = .ok e)
    (h : Machine.Halts e options ⟨[.walk (.named root)], []⟩ (.resolved, marked)) :
    Complete data options root ∧ {name | Reached data options root name}.Finite ∧
      {name | Reached data options root name}.ncard = marked.length := by
  obtain ⟨m, hsteps, hhalt⟩ := h
  have hm : Explores data e options root m := Explores.start.steps he hsteps
  obtain ⟨hp, rfl⟩ := Machine.next_eq_resolved hhalt
  refine ⟨fun name => ?_, ncard_reached hm.distinct fun d => ⟨fun hd => ?_, ?_⟩⟩
  · rintro (hr | hf)
    · obtain ⟨n, hn, -, hkey⟩ := hm.reached _ (hm.marked_of_reached he hp hr)
      cases hn
      exact hkey
    · exact hm.typeBody?_of_forced he hp hf
  · obtain ⟨n, hn, hr, -⟩ := hm.reached d hd
    exact ⟨n, hn, hr⟩
  · rintro ⟨n, rfl, hr⟩
    exact hm.marked_of_reached he hp hr

/-- A machine that misses a type has reached one that is no key. -/
theorem reached_of_halts (he : Environment.ofValue data = .ok e)
    (h : Machine.Halts e options ⟨[.walk (.named root)], []⟩ (.missing name, marked)) :
    Reached data options root name ∧ typeBody? data name = none := by
  obtain ⟨m, hsteps, hhalt⟩ := h
  have hm : Explores data e options root m := Explores.start.steps he hsteps
  obtain ⟨d, rest, hp, hl, rfl⟩ := Machine.next_eq_missing hhalt
  obtain ⟨n, rfl, hr⟩ := hm.due (.walk d) (by rw [hp]; exact List.mem_cons_self)
  exact ⟨hr, (typeBody?_eq_none_iff he n).2 hl⟩

/-- A machine that cannot resolve an attribute has met a name in one that is no key. -/
theorem forced_of_halts (he : Environment.ofValue data = .ok e)
    (h : Machine.Halts e options ⟨[.walk (.named root)], []⟩ (.unforced name, marked)) :
    Forced data options root name ∧ typeBody? data name = none := by
  obtain ⟨m, hsteps, hhalt⟩ := h
  have hm : Explores data e options root m := Explores.start.steps he hsteps
  obtain ⟨v, rest, hp, hv⟩ := Machine.next_eq_unforced hhalt
  obtain ⟨hn, hd⟩ := Environment.absent?_eq_some hv
  refine ⟨hm.due (.force v) (by rw [hp]; exact List.mem_cons_self) name hn, ?_⟩
  by_contra hkey
  rw [(defines_iff_typeBody? he name).2 hkey] at hd
  cases hd

end

end

end TypeReach.Graph
