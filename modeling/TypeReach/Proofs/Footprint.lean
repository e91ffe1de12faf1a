import TypeReach.Proofs.Depth
import TypeReach.Proofs.LongForm

/-!
# Footprints

A walk asks its environment for definitions of types, for whether types are defined that attributes
name, and for packages. What it has asked when it ends, well or not, is its footprint. A walk comes
to the same in every environment that agrees on the footprint, whatever else is defined there.
-/

namespace TypeReach

section

variable {ε β γ : Type}

/-- Steps for items in another order give the results in another order. -/
theorem exists_perm_of_mapM {f : β → Except ε γ} {bs bs' : List β} (h : bs.Perm bs') {cs : List γ}
    (hf : bs.mapM f = .ok cs) : ∃ cs', bs'.mapM f = .ok cs' ∧ cs.Perm cs' := by
  induction h generalizing cs with
  | nil => exact ⟨cs, hf, .refl cs⟩
  | cons b _ ih =>
    rw [List.mapM_cons] at hf
    obtain ⟨c, hc, hf⟩ := exists_of_bind_eq_ok hf
    obtain ⟨ds, hds, hf⟩ := exists_of_bind_eq_ok hf
    cases hf
    obtain ⟨ds', hds', hperm⟩ := ih hds
    refine ⟨c :: ds', ?_, hperm.cons c⟩
    rw [List.mapM_cons, hc, hds']
    rfl
  | swap b b' bs =>
    rw [List.mapM_cons] at hf
    obtain ⟨c, hc, hf⟩ := exists_of_bind_eq_ok hf
    obtain ⟨ds, hds, hf⟩ := exists_of_bind_eq_ok hf
    cases hf
    rw [List.mapM_cons] at hds
    obtain ⟨c', hc', hds⟩ := exists_of_bind_eq_ok hds
    obtain ⟨ds', hds', hds⟩ := exists_of_bind_eq_ok hds
    cases hds
    refine ⟨c' :: c :: ds', ?_, .swap c' c ds'⟩
    rw [List.mapM_cons, List.mapM_cons, hc', hc, hds']
    rfl
  | trans _ _ ih ih' =>
    obtain ⟨ds, hds, hperm⟩ := ih hf
    obtain ⟨es, hes, hperm'⟩ := ih' hds
    exact ⟨es, hes, hperm.trans hperm'⟩

/-- What is read off items and off the results for them is the same, if it is for each item. -/
theorem map_eq_map_of_mapM {κ : Type} {f : β → Except ε γ} {g : β → κ} {k : γ → κ} {bs : List β}
    {cs : List γ} (h : bs.mapM f = .ok cs) (hf : ∀ b c, f b = .ok c → g b = k c) :
    bs.map g = cs.map k := by
  induction bs generalizing cs with
  | nil =>
    cases h
    rfl
  | cons b bs ih =>
    rw [List.mapM_cons] at h
    obtain ⟨c, hc, h⟩ := exists_of_bind_eq_ok h
    obtain ⟨ds, hds, h⟩ := exists_of_bind_eq_ok h
    cases h
    rw [List.map_cons, List.map_cons, hf b c hc, ih hds]

end

namespace Walker

variable {σ σ' δ α ν : Type} [DecidableEq δ]

theorem load_congr {p : Provider σ δ α ν} {q : Provider σ' δ α ν} {inOrder : σ → Prop}
    {inOrder' : σ' → Prop} {a : Answers δ α ν} (hp : p.Gives inOrder a) (hq : q.Gives inOrder' a)
    {m : σ} {m' : σ'} (hm : inOrder m) (hm' : inOrder' m') (w : Walker δ) (depth : Nat)
    (root : TypeRef δ) :
    (w.load p depth m root).outcome = (w.load q depth m' root).outcome ∧
    (w.load p depth m root).marked = (w.load q depth m' root).marked ∧
    (w.load p depth m root).moves = (w.load q depth m' root).moves :=
  load_of_course hp hq hm hm' (fun _ => rfl) rfl depth root

end Walker

namespace Graph

/-- A question of a walk to its environment. -/
inductive Query where
  | definition (type : String)
  /-- Whether a type is defined. -/
  | presence (type : String)
  | package (name : String)
  deriving DecidableEq, Repr

/-- What a provider remembers of parses and of its queries, the latest first. -/
structure Watch where
  parses : Parses
  asked : List Query := []

/-- A look-up that makes some queries. -/
def noting {β : Type} (queries : List Query) (look : GraphLookup β) : Lookup Watch β := fun m =>
  match look m.parses with
  | .ok b parses => .ok b { parses, asked := queries ++ m.asked }
  | .error fault parses => .error fault { parses, asked := queries ++ m.asked }

namespace Environment

variable (e e' : Environment)

/-- Two environments give the same answer to a query. -/
def AgreesAt : Query → Prop
  | .definition type => e'.lookup type = e.lookup type
  | .presence type => e'.defines type = e.defines type
  | .package name => e'.package name = e.package name

/-- Two environments give the same answers to some queries. -/
def AgreesOn (queries : List Query) : Prop :=
  ∀ query ∈ queries, e.AgreesAt e' query

/-- The types that are looked for when all of some must be defined: up to the first missing one. -/
def tested : List String → List String
  | [] => []
  | name :: names => name :: if e.defines name then tested names else []

/-- The queries behind the annotations of a type's package. -/
def packageQueries (d : Descriptor) : List Query :=
  .definition d.typeName :: (((e.lookup d.typeName).bind (·.package)).toList.map .package)

/-- The queries behind the reading of an attribute. -/
def readQueries (a : AnnotationDefinition) (accessor : String) : List Query :=
  ((a.attributes.get? accessor).toList.flatMap fun v => e.tested v.outerTypeNames).map .presence

/-- The environment as a provider that notes its queries. -/
def watched : Provider Watch Descriptor AnnotationDefinition Value where
  typeName := Descriptor.typeName
  shown := Descriptor.shown
  methods d := noting [.definition d.typeName] (e.provider.methods d)
  constructors d := noting [.definition d.typeName] (e.provider.constructors d)
  fields d := noting [.definition d.typeName] (e.provider.fields d)
  supertype d := noting [.definition d.typeName] (e.provider.supertype d)
  interfaces d := noting [.definition d.typeName] (e.provider.interfaces d)
  annotations d := noting [.definition d.typeName] (e.provider.annotations d)
  packageAnnotations d := noting (e.packageQueries d) (e.provider.packageAnnotations d)
  accessors a := noting [] (e.provider.accessors a)
  invoke a accessor := noting (e.readQueries a.value accessor) (e.provider.invoke a accessor)

/-- The queries of the load of a root. -/
def footprint (w : Walker Descriptor) (root : Descriptor) : List Query :=
  (w.load e.watched e.depth { parses := .empty } (.concrete root)).memory.asked

section

variable {e e'}

theorem AgreesOn.append_iff {queries queries' : List Query} :
    e.AgreesOn e' (queries ++ queries') ↔ e.AgreesOn e' queries ∧ e.AgreesOn e' queries' := by
  simp only [AgreesOn, List.mem_append, or_imp, forall_and]

theorem definition_eq_of_agreesAt {d : Descriptor} (h : e.AgreesAt e' (.definition d.typeName)) :
    e'.definition d = e.definition d := by
  have hlookup : e'.lookup d.typeName = e.lookup d.typeName := h
  rw [definition, definition, hlookup]

theorem packageQueries_eq {d : Descriptor} (h : e.AgreesOn e' (e.packageQueries d)) :
    e'.packageQueries d = e.packageQueries d := by
  have hlookup : e'.lookup d.typeName = e.lookup d.typeName := h _ List.mem_cons_self
  rw [packageQueries, packageQueries, hlookup]

theorem packageAnnotations_eq {d : Descriptor} (h : e.AgreesOn e' (e.packageQueries d)) :
    e'.provider.packageAnnotations d = e.provider.packageAnnotations d := by
  have hd : e'.definition d = e.definition d := definition_eq_of_agreesAt (h _ List.mem_cons_self)
  simp only [provider, hd]
  cases hlookup : e.lookup d.typeName with
  | none => simp only [definition, hlookup]; rfl
  | some definition =>
    have hpackage : e'.packageSet definition = e.packageSet definition := by
      unfold packageSet
      cases hname : definition.package with
      | none => rfl
      | some name =>
        have hp : e'.package name = e.package name :=
          h (.package name) (by simp [packageQueries, hlookup, hname])
        simp only [Option.map_some, hp]
        rfl
    simp only [Environment.definition, hlookup]
    show (pure (e'.packageSet definition) : GraphLookup _) = pure (e.packageSet definition)
    rw [hpackage]

/-- Environments that agree on the types that are tested test the same ones and miss the same
one. -/
theorem tested_eq (names : List String)
    (h : ∀ name ∈ e.tested names, e'.defines name = e.defines name) :
    e'.tested names = e.tested names ∧ e'.firstMissing names = e.firstMissing names := by
  induction names with
  | nil => exact ⟨rfl, rfl⟩
  | cons name names ih =>
    have hname : e'.defines name = e.defines name := h name List.mem_cons_self
    simp only [tested, firstMissing, List.find?_cons, hname]
    cases hdefines : e.defines name with
    | false => simp
    | true =>
      obtain ⟨htested, hfirst⟩ := ih fun x hx => h x (by simp [tested, hdefines, hx])
      simpa using ⟨htested, hfirst⟩

theorem read_eq_of_agreesOn {a : AnnotationDefinition} {accessor : String}
    (h : e.AgreesOn e' (e.readQueries a accessor)) :
    e'.readQueries a accessor = e.readQueries a accessor ∧
      e'.read a accessor = e.read a accessor := by
  cases ha : a.attributes.get? accessor with
  | none => simp [readQueries, read, ha]
  | some v =>
    have hpresence : ∀ name ∈ e.tested v.outerTypeNames, e'.defines name = e.defines name :=
      fun name hname => h (.presence name) (by simpa [readQueries, ha] using hname)
    obtain ⟨htested, hfirst⟩ := tested_eq v.outerTypeNames hpresence
    refine ⟨by simp [readQueries, ha, htested], ?_⟩
    by_cases hv : ∃ reason, v = .restricted reason
    · obtain ⟨reason, rfl⟩ := hv
      simp [read, ha]
    · have hne : ∀ reason, v ≠ .restricted reason := fun reason heq => hv ⟨reason, heq⟩
      rw [read_eq e' ha hne, read_eq e ha hne, ifDefined, ifDefined, hfirst]

theorem invoke_eq {a : GraphAnnotationUse} {accessor : String}
    (h : e.AgreesOn e' (e.readQueries a.value accessor)) :
    e'.provider.invoke a accessor = e.provider.invoke a accessor := by
  funext parses
  simp only [provider, (read_eq_of_agreesOn h).2]

end

/-- A step keeps what was asked before; and in another environment that agrees on all that is asked
then, another step does the same. -/
def Determines {β : Type} (a b : Walk Watch Descriptor β) : Prop :=
  ∀ s, s.memory.asked ⊆ (Walk.memory (a s)).asked ∧
    (e.AgreesOn e' (Walk.memory (a s)).asked → b s = a s)

namespace Determines

variable {e e'} {β γ : Type} {a b : Walk Watch Descriptor β} {f g : β → Walk Watch Descriptor γ}

theorem refl (h : ∀ s, (Walk.memory (a s)).asked = s.memory.asked) : Determines e e' a a :=
  fun s => ⟨by simp [h], fun _ => rfl⟩

theorem bind (h : Determines e e' a b) (hf : ∀ x, Determines e e' (f x) (g x)) :
    Determines e e' (a >>= f) (b >>= g) := by
  intro s
  obtain ⟨hkeeps, hsame⟩ := h s
  simp only [Bind.bind, EStateM.bind]
  cases hr : a s with
  | error fault t =>
    rw [hr] at hkeeps hsame
    exact ⟨hkeeps, fun hagrees => by rw [hsame hagrees]⟩
  | ok x t =>
    rw [hr] at hkeeps hsame
    obtain ⟨hkeeps', hsame'⟩ := hf x t
    refine ⟨List.Subset.trans hkeeps hkeeps', fun hagrees => ?_⟩
    -- What the first step asked is among what has been asked behind the second.
    rw [hsame fun query hquery => hagrees query (hkeeps' hquery)]
    exact hsame' hagrees

theorem ask {queries queries' : List Query} {look look' : GraphLookup β} (call : Call)
    (h : e.AgreesOn e' queries → queries' = queries ∧ look' = look) :
    Determines e e' (Walk.ask call (noting queries look))
      (Walk.ask call (noting queries' look')) := by
  intro s
  have hasked : (Walk.memory (Walk.ask call (noting queries look) s)).asked =
      queries ++ s.memory.asked := by
    simp only [Walk.ask, Walk.consult, noting]
    cases look s.memory.parses <;> rfl
  rw [hasked]
  refine ⟨List.subset_append_right _ _, fun hagrees => ?_⟩
  obtain ⟨rfl, rfl⟩ := h (AgreesOn.append_iff.1 hagrees).1
  rfl

theorem askDefinition (call : Call) (d : Descriptor) (next : TypeDefinition → GraphLookup β) :
    Determines e e' (Walk.ask call (noting [.definition d.typeName] (e.definition d >>= next)))
      (Walk.ask call (noting [.definition d.typeName] (e'.definition d >>= next))) :=
  ask call fun h => ⟨rfl, by rw [definition_eq_of_agreesAt (h _ List.mem_cons_self)]⟩

theorem accessors (call : Call) (a : GraphAnnotationUse) :
    Determines e e' (Walk.ask call (e.watched.accessors a))
      (Walk.ask call (e'.watched.accessors a)) :=
  refl fun _ => rfl

theorem reads (a : GraphAnnotationUse) (accessor : String) :
    Determines e e' (Walk.readAttribute e.watched a accessor)
      (Walk.readAttribute e'.watched a accessor) := by
  intro s
  have hask : Determines e e' (Walk.ask (.invoke a.descriptor.typeName accessor)
        (noting (e.readQueries a.value accessor) (e.provider.invoke a accessor)))
      (Walk.ask (.invoke a.descriptor.typeName accessor)
        (noting (e'.readQueries a.value accessor) (e'.provider.invoke a accessor))) :=
    ask _ fun h => ⟨(read_eq_of_agreesOn h).1, invoke_eq h⟩
  obtain ⟨hkeeps, hsame⟩ := hask s
  have hmemory : Walk.memory (Walk.readAttribute e.watched a accessor s) =
      Walk.memory (Walk.ask (.invoke a.descriptor.typeName accessor)
        (noting (e.readQueries a.value accessor) (e.provider.invoke a accessor)) s) := by
    simp only [Walk.readAttribute, watched]
    split
    · next hr => rw [hr]; rfl
    · next hr => rw [hr]; rfl
    · next hr => rw [hr]; rfl
  rw [hmemory]
  refine ⟨hkeeps, fun hagrees => ?_⟩
  simp only [Walk.readAttribute, watched]
  rw [hsame hagrees]
  rfl

/-- The name that a fault is reported under is no query. -/
theorem memory_classify (d : Descriptor) (fault : Fault) (s : WalkState Watch Descriptor) :
    Walk.memory (Walk.classify e.watched d fault s) = s.memory := by
  cases fault with
  | linkage message typeName =>
    cases typeName with
    | none => rfl
    | some name => by_cases h : name = "" <;> simp [Walk.classify, Walk.blame, h] <;> rfl
  | _ => rfl

theorem opened {a b : Walk Watch Descriptor Unit} (h : Determines e e' a b) (d : Descriptor) :
    Determines e e' (Walk.opened e.watched d a) (Walk.opened e'.watched d b) := by
  intro s
  obtain ⟨hkeeps, hsame⟩ := h (Walk.enter d s)
  have hmemory : (Walk.memory (Walk.opened e.watched d a s)).asked =
      (Walk.memory (a (Walk.enter d s))).asked := by
    simp only [Walk.opened]
    cases a (Walk.enter d s) with
    | ok _ t => rfl
    | error fault t =>
      have hclassified := memory_classify (e := e) d fault t
      cases hc : Walk.classify e.watched d fault t <;> rw [hc] at hclassified <;> simp only [hc] <;>
        exact congrArg Watch.asked hclassified
  rw [hmemory]
  refine ⟨hkeeps, fun hagrees => ?_⟩
  simp only [Walk.opened, hsame hagrees]
  rfl

end Determines

theorem relating_determines (d : Descriptor) :
    Walk.Relating e.watched e'.watched d (Determines e e') where
  pure _ := .refl fun _ => rfl
  bind := .bind
  stop _ := .refl fun _ => rfl
  methods := .askDefinition _ d _
  constructors := .askDefinition _ d _
  fields := .askDefinition _ d _
  supertype := .askDefinition _ d _
  interfaces := .askDefinition _ d _
  annotations := .askDefinition _ d _
  package := .ask _ fun h => ⟨packageQueries_eq h, packageAnnotations_eq h⟩
  accessors a := .accessors _ a
  reads := .reads

theorem determines_type (options : WalkOptions) (depth : Nat) (d : Descriptor) :
    Determines e e' (Walk.type e.watched options depth d)
      (Walk.type e'.watched options depth d) := by
  induction depth generalizing d with
  | zero =>
    refine Determines.refl fun s => ?_
    simp only [Walk.type]
    split <;> rfl
  | succ depth ih =>
    intro s
    simp only [Walk.type]
    split
    · exact ⟨List.Subset.refl _, fun _ => rfl⟩
    · exact ((relating_determines e e' d).members ih options).opened d s

/-- Environments that agree on what the load of a root asks for in one do the same. -/
theorem load_watched_eq (w : Walker Descriptor) {depth : Nat} {m : Watch} {root : Descriptor}
    (h : e.AgreesOn e' (w.load e.watched depth m (.concrete root)).memory.asked) :
    w.load e'.watched depth m (.concrete root) = w.load e.watched depth m (.concrete root) := by
  obtain ⟨-, hsame⟩ := determines_type e e' w.options depth root
    { marked := w.marked, moves := [], notes := [], calls := [], memory := m }
  simp only [Walker.load, Walker.run, Walk.reference] at h ⊢
  rw [hsame]
  cases hr : Walk.type e.watched w.options depth root
    { marked := w.marked, moves := [], notes := [], calls := [], memory := m } <;>
    rw [hr] at h <;> exact h

theorem gives_noting {β : Type} {look : GraphLookup β} {answer : Except Fault β}
    (h : look.Gives Faithful answer) (queries : List Query) :
    (noting queries look).Gives (fun m => Faithful m.parses) answer where
  answer_eq {m} hm := by
    rw [← h.answer_eq hm]
    simp only [Lookup.answer, noting]
    cases look m.parses <;> rfl
  after {m} hm := by
    have ha := h.after hm
    simp only [Lookup.after, noting] at ha ⊢
    cases hr : look m.parses <;> rw [hr] at ha <;> exact ha

theorem gives_watched : e.watched.Gives (fun m => Faithful m.parses) e.answers where
  methods d := gives_noting (e.gives_provider.methods d) _
  constructors d := gives_noting (e.gives_provider.constructors d) _
  fields d := gives_noting (e.gives_provider.fields d) _
  supertype d := gives_noting (e.gives_provider.supertype d) _
  interfaces d := gives_noting (e.gives_provider.interfaces d) _
  annotations d := gives_noting (e.gives_provider.annotations d) _
  packageAnnotations d := gives_noting (e.gives_provider.packageAnnotations d) _
  accessors a := gives_noting (e.gives_provider.accessors a) _
  invoke a accessor := gives_noting (e.gives_provider.invoke a accessor) _
  naming _ := .pure _

/-- Loads of a root come to the same in two environments, each with depth enough for its types: the
same outcome, marks and moves. -/
def LoadsLike (w : Walker Descriptor) (root : Descriptor) : Prop :=
  ∀ (memory memory' : Parses) (depth depth' : Nat), Faithful memory → Faithful memory' →
    e.depth ≤ depth → e'.depth ≤ depth' →
    let r := w.load e.provider depth memory (.concrete root)
    let r' := w.load e'.provider depth' memory' (.concrete root)
    r'.outcome = r.outcome ∧ r'.marked = r.marked ∧ r'.moves = r.moves

variable {e e'}

/-- The load of a root comes to the same in every environment that agrees on its footprint. -/
theorem loadsLike_of_agreesOn {w : Walker Descriptor} {root : Descriptor}
    (h : e.AgreesOn e' (e.footprint w root)) : e.LoadsLike e' w root := by
  intro memory memory' depth depth' hm hm' hd hd'
  have hwatched := load_watched_eq e e' w h
  -- At the depth of the first environment, both loads come to what the noted one does.
  have hown := Walker.load_congr e.gives_watched e.gives_provider (m := { parses := .empty })
    faithful_empty hm w e.depth (.concrete root)
  have hother := Walker.load_congr e'.gives_watched e'.gives_provider (m := { parses := .empty })
    faithful_empty hm' w e.depth (.concrete root)
  rw [hwatched] at hother
  have hfound : (w.load e'.provider e.depth memory' (.concrete root)).outcome ≠
      .error .nestedTooDeep := by
    rw [← hother.1, hown.1]
    exact Walker.load_ne_nestedTooDeep hm (e.deep w.options w.marked root)
  have hfound' : (w.load e'.provider depth' memory' (.concrete root)).outcome ≠
      .error .nestedTooDeep :=
    Walker.load_ne_nestedTooDeep hm' ((e'.deep w.options w.marked root).of_le hd')
  have hdepth : w.load e'.provider depth' memory' (.concrete root) =
      w.load e'.provider e.depth memory' (.concrete root) := by
    rcases Nat.le_total e.depth depth' with hle | hle
    · exact Walker.load_eq_of_le hle hfound
    · exact (Walker.load_eq_of_le hle hfound').symm
  have hdepth' : w.load e.provider depth memory (.concrete root) =
      w.load e.provider e.depth memory (.concrete root) :=
    Walker.load_eq_of_le hd (Walker.load_ne_nestedTooDeep hm (e.deep w.options w.marked root))
  simp only [hdepth, hdepth']
  exact ⟨hother.1.symm.trans hown.1, hother.2.1.symm.trans hown.2.1,
    hother.2.2.symm.trans hown.2.2⟩

end Environment

/-- A change of an environment. -/
inductive Edit where
  | define (d : TypeDefinition)
  | undefine (name : String)
  | definePackage (p : PackageDefinition)
  | removePackage (name : String)

namespace Edit

/-- The environment after a change. -/
def apply (e : Environment) : Edit → Environment
  | define d => e.define d
  | undefine name => e.undefine name
  | definePackage p => e.definePackage p
  | removePackage name => { e with packages := e.packages.erase name }

/-- The queries that a change may give another answer. -/
def touches : Edit → List Query
  | define d => [.definition d.name, .presence d.name]
  | undefine name => [.definition name, .presence name]
  | definePackage p => [.package p.name]
  | removePackage name => [.package name]

theorem agreesAt_apply (e : Environment) {edit : Edit} {query : Query} (h : query ∉ edit.touches) :
    e.AgreesAt (apply e edit) query := by
  cases edit <;> cases query <;>
    simp_all [touches, Environment.AgreesAt, apply, Environment.define, Environment.undefine,
      Environment.definePackage, Environment.lookup, Environment.defines, Environment.package,
      Table.contains]

/-- Changes that touch none of some queries leave their answers as they are. -/
theorem agreesOn_foldl (e : Environment) {edits : List Edit} {queries : List Query}
    (h : ∀ edit ∈ edits, ∀ query ∈ edit.touches, query ∉ queries) :
    e.AgreesOn (edits.foldl apply e) queries := by
  intro query hquery
  induction edits generalizing e with
  | nil => cases query <;> rfl
  | cons edit edits ih =>
    have hfirst : e.AgreesAt (apply e edit) query :=
      agreesAt_apply e fun htouched => h edit List.mem_cons_self query htouched hquery
    have hrest := ih (apply e edit) fun x hx => h x (List.mem_cons_of_mem edit hx)
    rw [List.foldl_cons]
    cases query <;> exact Eq.trans hrest hfirst

end Edit

/-- Two pieces of graph data have the same entries in a section, in any order and under distinct
names. -/
def Shuffled (key : String) (data data' : Value) : Prop :=
  ∃ es es', asMapping (part data key) key = .ok es ∧
    asMapping (part data' key) key = .ok es' ∧ es.Perm es' ∧
    (es.map fun e => e.1.text?).Nodup

namespace Environment

/-- To define a type again changes nothing but its definition. -/
theorem agreesAt_define {e : Environment} {d : TypeDefinition} (hd : e.defines d.name = true)
    {query : Query} (h : query ≠ .definition d.name) : e.AgreesAt (e.define d) query := by
  cases query with
  | definition type =>
    have hne : type ≠ d.name := fun heq => h (heq ▸ rfl)
    simp [AgreesAt, define, lookup, hne]
  | presence type =>
    simp only [AgreesAt, define, defines, Table.contains, Table.get?_put] at hd ⊢
    by_cases heq : type = d.name
    · simp [heq, hd]
    · simp [heq]
  | package name => rfl

theorem exists_ofValue_of_shuffled {e : Environment} {data data' : Value}
    (he : ofValue data = .ok e)
    (hmap : ∃ sections, data'.opened = .map sections) (htypes : Shuffled "types" data data')
    (hpackages : Shuffled "packages" data data') :
    ∃ e', ofValue data' = .ok e' ∧ ∀ query, e.AgreesAt e' query := by
  obtain ⟨es, es', hes, hes', hperm, hnames⟩ := htypes
  obtain ⟨fs, fs', hfs, hfs', hperm', hnames'⟩ := hpackages
  obtain ⟨sections', hsections'⟩ := hmap
  simp only [part, entries, hsections'] at hes' hfs'
  unfold ofValue at he
  split at he
  · next sections hsections =>
    simp only [part, entries, hsections] at hes hfs
    simp only [hfs, hes, ok_bind] at he
    obtain ⟨packages, hps, he⟩ := exists_of_bind_eq_ok he
    obtain ⟨types, hds, he⟩ := exists_of_bind_eq_ok he
    cases he
    obtain ⟨types', hds', htypes⟩ := exists_perm_of_mapM hperm hds
    obtain ⟨packages', hps', hpackages⟩ := exists_perm_of_mapM hperm' hps
    have hdistinct : (types.map TypeDefinition.name).Nodup := by
      have hall := map_eq_map_of_mapM hds fun _ _ h => (typeDefinition_spec h).1
      rw [hall] at hnames
      exact .of_map some (by rwa [List.map_map])
    have hdistinct' : (packages.map PackageDefinition.name).Nodup := by
      have hall := map_eq_map_of_mapM hps fun _ _ h => (packageDefinition_spec h).1
      rw [hall] at hnames'
      exact .of_map some (by rwa [List.map_map])
    have hlookup (name : String) : (ofDefinitions types' packages').lookup name =
        (ofDefinitions types packages).lookup name := by
      ext d
      rw [lookup_ofDefinitions_iff hdistinct,
        lookup_ofDefinitions_iff ((htypes.map _).nodup_iff.1 hdistinct), htypes.mem_iff]
    have hpackage (name : String) : (ofDefinitions types' packages').package name =
        (ofDefinitions types packages).package name := by
      ext p
      rw [package_ofDefinitions_iff hdistinct',
        package_ofDefinitions_iff ((hpackages.map _).nodup_iff.1 hdistinct'), hpackages.mem_iff]
    refine ⟨ofDefinitions types' packages', ?_, fun query => ?_⟩
    · simp only [ofValue, hsections', hfs', hes', ok_bind, hps', hds']
      rfl
    · cases query with
      | definition type => exact hlookup type
      | presence type => exact congrArg Option.isSome (hlookup type)
      | package name => exact hpackage name
  · cases he

variable (e : Environment) (w : Walker Descriptor) (root : Descriptor)

/-- A load comes to the same, with the same types marked, in every environment that agrees on what
was asked for in one: the definitions that were looked up, the types that attributes name, and the
packages. So changes outside of that change nothing, and neither does the order of entries. -/
theorem load_depends_on_footprint :
    (∀ depth memory, e.depth ≤ depth → Faithful memory →
      let r := w.load e.provider depth memory (.concrete root)
      let r' := w.load e.watched e.depth { parses := .empty } (.concrete root)
      r'.outcome = r.outcome ∧ r'.marked = r.marked ∧ r'.moves = r.moves) ∧
    (∀ e', e.AgreesOn e' (e.footprint w root) → e.LoadsLike e' w root) ∧
    (∀ edits : List Edit,
      (∀ edit ∈ edits, ∀ query ∈ edit.touches, query ∉ e.footprint w root) →
      e.LoadsLike (edits.foldl Edit.apply e) w root) ∧
    ∀ data data', ofValue data = .ok e → (∃ sections, data'.opened = .map sections) →
      Shuffled "types" data data' → Shuffled "packages" data data' →
      ∃ e', ofValue data' = .ok e' ∧ e.LoadsLike e' w root := by
  refine ⟨fun depth memory hd hm => ?_, fun e' h => loadsLike_of_agreesOn h, fun edits h => ?_,
    fun data data' he hmap htypes hpackages => ?_⟩
  · have hdepth : w.load e.provider depth memory (.concrete root) =
        w.load e.provider e.depth memory (.concrete root) :=
      Walker.load_eq_of_le hd (Walker.load_ne_nestedTooDeep hm (e.deep w.options w.marked root))
    simp only [hdepth]
    exact Walker.load_congr e.gives_watched e.gives_provider faithful_empty hm w e.depth _
  · exact loadsLike_of_agreesOn (Edit.agreesOn_foldl e h)
  · obtain ⟨e', he', hagrees⟩ := exists_ofValue_of_shuffled he hmap htypes hpackages
    exact ⟨e', he', loadsLike_of_agreesOn fun query _ => hagrees query⟩

/-- An annotation that names the type `Kind`. -/
def kindMark : AnnotationDefinition where
  type := "Mark"
  attributes := .ofEntries [("kind", .typeName "Kind")]

def outlyingTypes : List TypeDefinition :=
  [{ name := "A", annotations := [kindMark], package := some "p" }, { name := "Mark" },
    { name := "Kind" }, { name := "Other" }]

def outlyingPackages : List PackageDefinition :=
  [{ name := "p" }, { name := "q" }]

/-- Types of which the load of `A` meets `A` and `Mark` only, and looks for `Kind`. -/
def outlying : Environment :=
  ofDefinitions outlyingTypes outlyingPackages

theorem footprint_outlying : outlying.footprint {} (.named "A") =
    [.definition "A", .package "p", .presence "Kind", .definition "Mark", .definition "Mark",
      .definition "Mark", .definition "Mark", .definition "Mark", .definition "Mark",
      .definition "Mark", .definition "A", .definition "A", .definition "A", .definition "A",
      .definition "A", .definition "A"] := by
  decide +kernel

theorem writable_outlying {d : TypeDefinition} (hd : d ∈ outlyingTypes) : d.Writable := by
  have hmark : kindMark.Writable := by
    have hentries : kindMark.attributes.entries = [("kind", .typeName "Kind")] := rfl
    simp [AnnotationDefinition.Writable, hentries, Value.IsAttribute]
  simp only [outlyingTypes, List.mem_cons, List.not_mem_nil, or_false] at hd
  rcases hd with rfl | rfl | rfl | rfl
  all_goals exact ⟨by decide, by decide, by simp [TypeDefinition.expressions],
    by simp [TypeDefinition.ownAnnotations, hmark]⟩

/-- `Kind` may change as long as it is defined, `Other` and `q` may go, and the order of entries
does not matter. -/
theorem load_depends_on_footprint_outlying :
    (({} : Walker Descriptor).load outlying.watched outlying.depth { parses := .empty }
      (.concrete (.named "A"))).outcome = .ok () ∧
    outlying.LoadsLike (outlying.define { name := "Kind", supertype := some "Missing" }) {}
      (.named "A") ∧
    outlying.LoadsLike ([Edit.undefine "Other", .removePackage "q"].foldl Edit.apply outlying) {}
      (.named "A") ∧
    ∃ e', ofValue (longForm outlyingTypes.reverse outlyingPackages.reverse) = .ok e' ∧
      outlying.LoadsLike e' {} (.named "A") := by
  have types : (outlyingTypes.map TypeDefinition.name).Nodup := by decide
  have packages : (outlyingPackages.map PackageDefinition.name).Nodup := by decide
  obtain ⟨hwatched, hagree, hedits, hshuffled⟩ := load_depends_on_footprint outlying {} (.named "A")
  rw [footprint_outlying] at hagree hedits
  refine ⟨?_, hagree _ ?_, hedits _ ?_, hshuffled (longForm outlyingTypes outlyingPackages) _ ?_
    ⟨_, rfl⟩ ?_ ?_⟩
  · have hok : (({} : Walker Descriptor).load outlying.provider outlying.depth .empty
        (.concrete (.named "A"))).outcome = .ok () := by decide +kernel
    exact (hwatched outlying.depth .empty (Nat.le_refl _) faithful_empty).1.trans hok
  · refine fun query hquery => agreesAt_define rfl ?_
    rintro rfl
    exact absurd hquery (by decide)
  · decide
  · exact ofValue_longForm_eq types packages (fun _ => writable_outlying)
      (by simp [outlyingPackages, PackageDefinition.Writable])
  · have hreverse := (List.reverse_perm outlyingTypes).symm
    refine ⟨_, _, asMapping_keyed TypeDefinition.longForm types "types",
      asMapping_keyed TypeDefinition.longForm ((hreverse.map _).nodup_iff.1 types) "types",
      hreverse.map _, ?_⟩
    decide +kernel
  · have hreverse := (List.reverse_perm outlyingPackages).symm
    refine ⟨_, _, asMapping_keyed PackageDefinition.longForm packages "packages",
      asMapping_keyed PackageDefinition.longForm ((hreverse.map _).nodup_iff.1 packages) "packages",
      hreverse.map _, ?_⟩
    decide +kernel

end Environment

end Graph

end TypeReach
