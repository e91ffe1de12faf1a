import TypeReach.Proofs.Obligation

/-!
# Idle attributes

An attribute is idle if reading it resolves no type: its value must not be read, or names no type by
itself or by an item. A restricted value makes the provider fail and the walk note it and go on;
another idle value is given and dropped. Neither shows in the course of a type, so environments that
differ in idle attributes only, in any number and at any place, have the same loads.
-/

namespace TypeReach

namespace Course

variable {δ β γ κ : Type}

theorem after_bind (answer : Except Fault β) (onward : β → Except Fault γ) (next : γ → Course δ) :
    after (answer >>= onward) next = after answer fun b => after (onward b) next := by
  cases answer <;> rfl

theorem after_map (answer : Except Fault β) (f : β → γ) (next : γ → Course δ) :
    after (f <$> answer) next = after answer fun b => next (f b) := by
  cases answer <;> rfl

/-- Of the results of several steps, the courses are all that counts. -/
theorem after_mapM (f : β → Except Fault γ) (course : γ → Course δ) (bs : List β) :
    after (bs.mapM f) (all course) = after (bs.mapM fun b => course <$> f b) (all id) := by
  have results : (bs.mapM fun b => course <$> f b) = List.map course <$> bs.mapM f := by
    induction bs with
    | nil => rfl
    | cons b bs ih =>
      simp only [List.mapM_cons, ih]
      cases f b with
      | error fault => rfl
      | ok c => cases bs.mapM f <;> rfl
  rw [results, after_map]
  exact congrArg (after _) (funext fun cs => by rw [all_map]; rfl)

/-- Steps for items, and steps for what becomes of the items, have one course if they have for each
item. -/
theorem after_mapM_map {f : β → Except Fault γ} {course : γ → Course δ} {ε : Type}
    {g : κ → Except Fault ε} {course' : ε → Course δ} {change : β → κ}
    (h : ∀ b, course' <$> g (change b) = course <$> f b) (bs : List β) :
    after ((bs.map change).mapM g) (all course') = after (bs.mapM f) (all course) := by
  rw [after_mapM, after_mapM f, List.mapM_map]
  exact congrArg (fun step => after (bs.mapM step) (all id)) (funext h)

/-- Items without a course may be left out. -/
theorem all_filter {f : β → Course δ} {p : β → Bool} {bs : List β}
    (h : ∀ b ∈ bs, p b = false → f b = done) : all f (bs.filter p) = all f bs := by
  induction bs with
  | nil => rfl
  | cons b bs ih =>
    have hrest := ih fun x hx => h x (List.mem_cons_of_mem b hx)
    cases hp : p b with
    | true => rw [List.filter_cons_of_pos hp, all_cons, all_cons, hrest]
    | false =>
      rw [List.filter_cons_of_neg (by simp [hp]), all_cons, h b (by simp) hp, done_andThen, hrest]

end Course

namespace Table

variable {β γ : Type}

/-- The entries whose values pass a test. -/
def keep (p : β → Bool) (t : Table β) : Table β where
  entries := t.entries.filter fun entry => p entry.2
  distinct := t.distinct.sublist (List.filter_sublist.map _)

/-- The table with every value replaced. -/
def mapValues (f : β → γ) (t : Table β) : Table γ where
  entries := t.entries.map fun entry => (entry.1, f entry.2)
  distinct := by
    rw [List.map_map]
    exact t.distinct

theorem get?_mapValues (f : β → γ) (t : Table β) (name : String) :
    (t.mapValues f).get? name = (t.get? name).map f := by
  obtain ⟨es, distinct⟩ := t
  simp only [get?, mapValues]
  clear distinct
  induction es with
  | nil => rfl
  | cons entry es ih =>
    simp only [List.map_cons, getIn?]
    split
    · rfl
    · exact ih

theorem size_mapValues (f : β → γ) (t : Table β) : (t.mapValues f).size = t.size := by
  simp [size, mapValues]

end Table

namespace Value

/-- Whether reading an attribute with a value looks for a type. -/
def forces (v : Value) : Bool := !v.outerTypeNames.isEmpty

/-- Types are looked for by what names a type, and by a list or tuple with such an item. -/
theorem forces_iff (v : Value) : v.forces = true ↔ (∃ name, v = typeName name) ∨
    ∃ items name, (v = list items ∨ v = tuple items) ∧ typeName name ∈ items := by
  have row (items : List Value) :
      (items.filterMap typeName?).isEmpty = false ↔ ∃ name, typeName name ∈ items := by
    rw [List.isEmpty_eq_false_iff_exists_mem]
    refine exists_congr fun name => List.mem_filterMap.trans ⟨?_, fun h => ⟨_, h, rfl⟩⟩
    rintro ⟨v, hv, hname⟩
    cases v with
    | typeName n => cases hname; exact hv
    | _ => cases hname
  cases v with
  | list items => simpa [forces, outerTypeNames] using row items
  | tuple items => simpa [forces, outerTypeNames] using row items
  | typeName name => simp [forces, outerTypeNames, typeName?]
  | _ => simp [forces, outerTypeNames, typeName?]

end Value

namespace Graph

/-- An annotation without its idle attributes. -/
def AnnotationDefinition.bare (a : AnnotationDefinition) : AnnotationDefinition :=
  { a with attributes := a.attributes.keep Value.forces }

/-- A parameter without idle attributes. -/
def ParameterDefinition.bare (p : ParameterDefinition) : ParameterDefinition :=
  { p with annotations := p.annotations.map AnnotationDefinition.bare }

/-- A method without idle attributes. -/
def MethodDefinition.bare (m : MethodDefinition) : MethodDefinition :=
  { m with parameters := m.parameters.map ParameterDefinition.bare }

/-- A constructor without idle attributes. -/
def ConstructorDefinition.bare (c : ConstructorDefinition) : ConstructorDefinition :=
  { c with parameters := c.parameters.map ParameterDefinition.bare }

/-- A field without idle attributes. -/
def FieldDefinition.bare (f : FieldDefinition) : FieldDefinition :=
  { f with annotations := f.annotations.map AnnotationDefinition.bare }

/-- A package without idle attributes. -/
def PackageDefinition.bare (p : PackageDefinition) : PackageDefinition :=
  { p with annotations := p.annotations.map AnnotationDefinition.bare }

/-- A type without idle attributes. -/
def TypeDefinition.bare (d : TypeDefinition) : TypeDefinition :=
  { d with
    methods := d.methods.map MethodDefinition.bare
    constructors := d.constructors.map ConstructorDefinition.bare
    fields := d.fields.map FieldDefinition.bare
    annotations := d.annotations.map AnnotationDefinition.bare }

namespace Environment

/-- An environment without idle attributes. -/
def bare (e : Environment) : Environment where
  types := e.types.mapValues TypeDefinition.bare
  packages := e.packages.mapValues PackageDefinition.bare

variable (e : Environment)

open Course Obligation

theorem lookup_bare (name : String) : e.bare.lookup name = (e.lookup name).map .bare :=
  Table.get?_mapValues _ _ _

theorem package_bare (name : String) : e.bare.package name = (e.package name).map .bare :=
  Table.get?_mapValues _ _ _

theorem defines_bare (name : String) : e.bare.defines name = e.defines name := by
  have hlookup := e.lookup_bare name
  simp only [lookup] at hlookup
  simp only [defines, Table.contains, hlookup, Option.isSome_map]

theorem depth_bare : e.bare.depth = e.depth := by
  rw [depth, depth, size, size, bare, Table.size_mapValues]

theorem found_bare (d : Descriptor) : e.bare.found d = TypeDefinition.bare <$> e.found d := by
  simp only [found, lookup_bare]
  cases e.lookup d.typeName <;> rfl

/-- Which types are missing is the same without idle attributes. -/
theorem course_bare (o : Obligation) : o.course e.bare = o.course e := by
  have hmissing : e.bare.absent? = e.absent? := by
    funext v
    rw [absent?_eq, absent?_eq, firstMissing, firstMissing]
    simp only [defines_bare]
  cases o with
  | walk d => rfl
  | force v => simp only [Obligation.course, hmissing]

/-- Nothing comes of reading an idle attribute. -/
theorem course_force_of_idle {v : Value} (h : v.forces = false) :
    (Obligation.force v).course e = .done := by
  have hnames : v.outerTypeNames = [] := by simpa [Value.forces] using h
  rw [Obligation.course, absent?_eq, hnames]
  rfl

theorem ofUse_bare (a : AnnotationDefinition) :
    all (Obligation.course e.bare) (ofUse a.bare) = all (Obligation.course e) (ofUse a) := by
  have hkept : all (fun entry : String × Value => (Obligation.force entry.2).course e)
      (a.attributes.entries.filter fun entry => entry.2.forces) =
      all (fun entry => (Obligation.force entry.2).course e) a.attributes.entries :=
    all_filter fun entry _ hidle => e.course_force_of_idle hidle
  rw [all_congr fun o _ => e.course_bare o]
  simp only [ofUse, all_cons, all_map]
  exact congrArg (Course.andThen _) hkept

/-- Idle attributes do not show in the course of annotations. -/
theorem annotationsCourse_bare (as : List AnnotationDefinition) :
    e.bare.answers.annotationsCourse (e.bare.annotationSet (as.map .bare)) =
      e.answers.annotationsCourse (e.annotationSet as) := by
  rw [annotationsCourse_eq, annotationsCourse_eq, ← all_flatMap fun _ _ => rfl,
    ← all_flatMap fun _ _ => rfl, all_map]
  exact all_congr fun a _ => e.ofUse_bare a

theorem slotReadings_bare (ps : List ParameterDefinition) :
    ((ps.map ParameterDefinition.bare).mapM fun p => slotReading p.type) =
      ps.mapM fun p => slotReading p.type :=
  List.mapM_map

/-- The annotations of parameters have the course that they have without idle attributes. -/
theorem parameterAnnotations_bare (ps : List ParameterDefinition) :
    all e.bare.answers.annotationsCourse
      ((ps.map ParameterDefinition.bare).map fun p => e.bare.annotationSet p.annotations) =
    all e.answers.annotationsCourse (ps.map fun p => e.annotationSet p.annotations) := by
  rw [List.map_map, all_map, all_map]
  exact all_congr fun p _ => e.annotationsCourse_bare p.annotations

theorem methodCourse_bare (m : MethodDefinition) :
    e.bare.answers.methodCourse <$> e.bare.readMethod m.bare =
      e.answers.methodCourse <$> e.readMethod m := by
  simp only [readMethod, MethodDefinition.bare, slotReadings_bare, map_bind, map_pure,
    Answers.methodCourse, parameterAnnotations_bare]

theorem constructorCourse_bare (owner : String) (c : ConstructorDefinition) :
    e.bare.answers.constructorCourse <$> e.bare.readConstructor owner c.bare =
      e.answers.constructorCourse <$> e.readConstructor owner c := by
  simp only [readConstructor, ConstructorDefinition.bare, slotReadings_bare, map_bind, map_pure,
    Answers.constructorCourse, parameterAnnotations_bare]

theorem fieldCourse_bare (f : FieldDefinition) :
    e.bare.answers.fieldCourse <$> e.bare.readField f.bare =
      e.answers.fieldCourse <$> e.readField f := by
  simp only [readField, FieldDefinition.bare, map_bind, map_pure, Answers.fieldCourse,
    annotationsCourse_bare]

theorem packageCourse_bare (d : TypeDefinition) :
    e.bare.answers.packageCourse (e.bare.packageSet d.bare) =
      e.answers.packageCourse (e.packageSet d) := by
  simp only [packageSet, TypeDefinition.bare, package_bare]
  cases d.package with
  | none => rfl
  | some name =>
    simp only [Option.map_some]
    cases e.package name with
    | none => rfl
    | some p => exact e.annotationsCourse_bare p.annotations

/-- Idle attributes do not show in the course of a type. -/
theorem answers_course_bare (options : WalkOptions) (d : Descriptor) :
    e.bare.answers.course options d = e.answers.course options d := by
  have methods : after (e.bare.answers.methods d) (all e.bare.answers.methodCourse) =
      after (e.answers.methods d) (all e.answers.methodCourse) := by
    simp only [answers, found_bare, after_bind, after_map]
    exact congrArg (after _) (funext fun definition =>
      after_mapM_map e.methodCourse_bare definition.methods)
  have constructors : after (e.bare.answers.constructors d) (all e.bare.answers.constructorCourse) =
      after (e.answers.constructors d) (all e.answers.constructorCourse) := by
    simp only [answers, found_bare, after_bind, after_map]
    exact congrArg (after _) (funext fun definition =>
      after_mapM_map (e.constructorCourse_bare definition.name) definition.constructors)
  have fields : after (e.bare.answers.fields d) (all e.bare.answers.fieldCourse) =
      after (e.answers.fields d) (all e.answers.fieldCourse) := by
    simp only [answers, found_bare, after_bind, after_map]
    exact congrArg (after _) (funext fun definition =>
      after_mapM_map e.fieldCourse_bare definition.fields)
  have supertype : e.bare.answers.supertype d = e.answers.supertype d := by
    simp only [answers, found_bare, bind_map_left]
    rfl
  have interfaces : e.bare.answers.interfaces d = e.answers.interfaces d := by
    simp only [answers, found_bare, bind_map_left]
    rfl
  have annotations : after (e.bare.answers.annotations d) e.bare.answers.annotationsCourse =
      after (e.answers.annotations d) e.answers.annotationsCourse := by
    simp only [answers, found_bare, after_bind, after_map]
    exact congrArg (after _) (funext fun definition =>
      e.annotationsCourse_bare definition.annotations)
  have package : after (e.bare.answers.packageAnnotations d) e.bare.answers.packageCourse =
      after (e.answers.packageAnnotations d) e.answers.packageCourse := by
    simp only [answers, found_bare, after_bind, after_map]
    exact congrArg (after _) (funext e.packageCourse_bare)
  rw [Answers.course, Answers.course, methods, constructors, fields, supertype, interfaces,
    annotations, package]

variable {e} {e' : Environment}

/-- Attributes that force nothing do not matter for a load: environments that differ in such
attributes only, added, removed or altered, come to the same outcome for each root, and the same
types are marked, in the same order. -/
theorem load_eq_of_bare_eq (h : e.bare = e'.bare) (w : Walker Descriptor)
    (root : TypeRef Descriptor) :
    e'.depth = e.depth ∧ ∀ (depth : Nat) (memory memory' : Parses),
      Faithful memory → Faithful memory' →
      let r := w.load e.provider depth memory root
      let r' := w.load e'.provider depth memory' root
      r'.outcome = r.outcome ∧ r'.marked = r.marked ∧ r'.moves = r.moves := by
  refine ⟨by rw [← depth_bare, ← h, depth_bare], fun depth memory memory' hm hm' => ?_⟩
  -- Both environments have the courses of the one environment that is left of them.
  have hcourse (d : Descriptor) :
      e'.answers.course w.options d = e.answers.course w.options d := by
    rw [← answers_course_bare e', ← h, answers_course_bare]
  exact Walker.load_of_course e'.gives_provider e.gives_provider hm' hm hcourse rfl depth root

/-- A type with annotations of type `Mark`: its own names `Kind`, which is not defined; those of a
field, of a parameter and of its package have the given attributes. -/
def marked (own field parameter package : List (String × Value)) : Environment :=
  let mark (attributes : List (String × Value)) : AnnotationDefinition :=
    { type := "Mark", attributes := .ofEntries attributes }
  ofDefinitions [
    { name := "A"
      methods := [{ name := "run", parameters := [{ annotations := [mark parameter] }] }]
      fields := [{ name := "x", annotations := [mark field] }]
      annotations := [mark (own ++ [("kind", .typeName "Kind")])]
      package := some "p" }, { name := "Mark" }] [{ name := "p", annotations := [mark package] }]

/-- Restricted attributes come and go, others change their values or name types further inside:
`Kind` is still what the load fails for, with `Mark` marked. -/
theorem load_eq_of_bare_eq_marked :
    let e := marked [("limit", .int 1)] [] [("secret", .restricted "private")] []
    let e' := marked [("secret", .restricted "private"), ("limit", .str "one")]
      [("hidden", .restricted "gone")] [] [("kinds", .list [.list [.typeName "Missing"]])]
    e.bare = e'.bare ∧
    let r := ({} : Walker Descriptor).load e.provider e.depth .empty (.concrete (.named "A"))
    let r' := ({} : Walker Descriptor).load e'.provider e.depth .empty (.concrete (.named "A"))
    r.outcome = .error (.unresolved (some "Kind") (some (.notPresent (some "Kind") none))) ∧
      r'.outcome = r.outcome ∧ r'.marked = r.marked ∧ r.marked = [.named "Mark"] := by
  intro e e'
  have hbare : e.bare = e'.bare := rfl
  obtain ⟨houtcome, hmarked, -⟩ := (load_eq_of_bare_eq hbare {} (.concrete (.named "A"))).2 e.depth
    .empty .empty faithful_empty faithful_empty
  exact ⟨hbare, by decide +kernel, houtcome, hmarked, by decide +kernel⟩

end Environment

end Graph

end TypeReach
