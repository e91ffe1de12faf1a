import TypeReach.Proofs.Depth
import TypeReach.Proofs.Handles
import TypeReach.Proofs.Unwinding

/-!
# Registries

A registry is an environment in use: with the handles made so far, and with the references that its
provider remembers. What is remembered never shows: whatever has been done before, a question or a
walk comes to what it would come to if nothing were remembered, down to the handles.
-/

namespace TypeReach

variable {δ ε α : Type}

/-- An annotation with the descriptor of its type replaced. -/
def AnnotationUse.map (f : δ → ε) (a : AnnotationUse δ α) : AnnotationUse ε α :=
  { descriptor := f a.descriptor, value := a.value }

/-- A method with every descriptor replaced. -/
def Method.map (f : δ → ε) (m : Method δ α) : Method ε α where
  name := m.name
  returns := m.returns.map f
  raises := m.raises.map (TypeRef.map f)
  parameters := m.parameters.map (TypeRef.map f)
  parameterAnnotations := m.parameterAnnotations.map (List.map (AnnotationUse.map f))

/-- A constructor with every descriptor replaced. -/
def Constructor.map (f : δ → ε) (c : Constructor δ α) : Constructor ε α where
  name := c.name
  raises := c.raises.map (TypeRef.map f)
  parameters := c.parameters.map (TypeRef.map f)
  parameterAnnotations := c.parameterAnnotations.map (List.map (AnnotationUse.map f))

/-- A field with every descriptor replaced. -/
def Field.map (f : δ → ε) (x : Field δ α) : Field ε α where
  name := x.name
  type := x.type.map f
  annotations := x.annotations.map (AnnotationUse.map f)

namespace Graph

/-- The references remembered, by expression. -/
abbrev References := Table (TypeRef Entity)

/-- What is remembered of an expression is what it is read as now, and reading it makes no
handle. -/
def References.Faithful (references : References) (t : Handles) : Prop :=
  ∀ expression x, references.get? expression = some x →
    Expression.resolveWith entityOf expression t = .ok x t

theorem References.Faithful.kept {references : References} {t t' : Handles}
    (h : references.Faithful t) (wf : t.WellFormed) (hkept : t.KeptIn t') :
    references.Faithful t' := by
  intro expression x hx
  obtain ⟨r, t₁, hr, -, -, hagain, -⟩ := resolves_with expression t wf
  have hread := h expression x hx
  rw [hr] at hread
  cases r with
  | error why => cases hread
  | ok y =>
    cases hread
    exact hagain t' hkept

/-- An environment in use: its definitions, the handles that were made, and the references that its
provider remembers. -/
structure Registry where
  environment : Environment := {}
  handles : Handles := .empty
  references : References := .empty

/-- An item that is read from an attribute. -/
inductive ReadItem where
  | given (v : Value)
  | handle (h : Handle)

/-- A value that is read from an attribute. -/
inductive ReadValue where
  | item (i : ReadItem)
  | tuple (items : List ReadItem)

/-- An item with its handle known by its name alone. -/
def ReadItem.value : ReadItem → Value
  | given v => v
  | handle h => .handle h.name

/-- A value with its handles known by their names alone. -/
def ReadValue.value : ReadValue → Value
  | item i => i.value
  | tuple items => .tuple (items.map ReadItem.value)

namespace Registry

variable {β γ κ ι : Type}

/-- A registry whose provider is new. -/
def fresh (s : Registry) : Registry :=
  { s with references := .empty }

/-- A step on the handles. -/
def onHandles (m : EStateM Fault Handles β) : Lookup Registry β := fun s =>
  match m s.handles with
  | .ok b handles => .ok b { s with handles }
  | .error fault handles => .error fault { s with handles }

/-- The handle of a name. -/
def handle (name : String) : Lookup Registry Handle :=
  onHandles (Handles.handle name)

/-- What the definitions say. -/
def inspect (f : Environment → Except Fault β) : Lookup Registry β := fun s =>
  resultAt (f s.environment) s

/-- The reference of an expression, remembered or read now. -/
def parsed (expression : String) : Lookup Registry (TypeRef Entity) := fun s =>
  match s.references.get? expression with
  | some x => .ok x s
  | none =>
    match Expression.resolveWith entityOf expression s.handles with
    | .ok x handles => .ok x { s with handles, references := s.references.put expression x }
    | .error why handles => .error (.unusable (why.message expression)) { s with handles }

/-- The reference in a slot, which is empty if nothing is written there. -/
def slot : Option String → Lookup Registry (TypeRef Entity)
  | none => pure .absent
  | some expression => parsed expression

/-- The annotations that are written in a place. -/
def annotationSet (as : List AnnotationDefinition) :
    Lookup Registry (List (AnnotationUse Entity AnnotationDefinition)) :=
  as.mapM fun a => do return { descriptor := .made (← handle a.type), value := a }

/-- The definition behind an entity. -/
def definition (x : Entity) : Lookup Registry TypeDefinition :=
  inspect fun e =>
    match e.lookup x.descriptor.typeName with
    | some d => .ok d
    | none =>
      .error (.linkage ("No definition found for type " ++ x.descriptor.typeName)
        (some x.descriptor.typeName))

/-- A method with its references parsed. -/
def resolveMethod (m : MethodDefinition) :
    Lookup Registry (Method Entity AnnotationDefinition) := do
  let returns ← slot m.returns
  let raises ← m.raises.mapM parsed
  let parameters ← m.parameters.mapM fun p => slot p.type
  let parameterAnnotations ← m.parameters.mapM fun p => annotationSet p.annotations
  return { name := m.name, returns, raises, parameters, parameterAnnotations }

/-- A constructor of the type `owner` with its references parsed. -/
def resolveConstructor (owner : String) (c : ConstructorDefinition) :
    Lookup Registry (Constructor Entity AnnotationDefinition) := do
  let raises ← c.raises.mapM parsed
  let parameters ← c.parameters.mapM fun p => slot p.type
  let parameterAnnotations ← c.parameters.mapM fun p => annotationSet p.annotations
  return { name := owner, raises, parameters, parameterAnnotations }

/-- A field with its reference parsed. -/
def resolveField (f : FieldDefinition) : Lookup Registry (Field Entity AnnotationDefinition) := do
  let type ← slot f.type
  let annotations ← annotationSet f.annotations
  return { name := f.name, type, annotations }

/-- The annotations of the package that a definition names; a package that is not defined has
none. -/
def packageSet (d : TypeDefinition) :
    Lookup Registry (Option (List (AnnotationUse Entity AnnotationDefinition))) :=
  match d.package with
  | none => return none
  | some name => do
    match ← inspect fun e => .ok (e.package name) with
    | none => return some []
    | some p => return some (← annotationSet p.annotations)

/-- A value with the type that it names resolved. -/
def force : Value → Lookup Registry ReadItem
  | .typeName name => do
    if ← inspect fun e => .ok (e.defines name) then return .handle (← handle name)
    else throw (.notPresent name none)
  | v => return .given v

/-- The value of an attribute as it is read. -/
def read (a : AnnotationDefinition) (accessor : String) : Lookup Registry ReadValue :=
  match a.attributes.get? accessor with
  | none => throw (.other .key accessor)
  | some (.restricted reason) => throw (.restricted (a.type ++ "." ++ accessor ++ ": " ++ reason))
  | some (.list items) => do return .tuple (← items.mapM force)
  | some (.tuple items) => do return .tuple (← items.mapM force)
  | some v => do return .item (← force v)

/-- A registry as a provider. -/
def provider : Provider Registry Entity AnnotationDefinition ReadValue where
  typeName x := x.descriptor.typeName
  shown x := x.descriptor.shown
  methods x := do (← definition x).methods.mapM resolveMethod
  constructors x := do
    let d ← definition x
    d.constructors.mapM (resolveConstructor d.name)
  fields x := do (← definition x).fields.mapM resolveField
  supertype x := do slot (← definition x).supertype
  interfaces x := do (← definition x).interfaces.mapM parsed
  annotations x := do annotationSet (← definition x).annotations
  packageAnnotations x := do packageSet (← definition x)
  accessors a := return a.value.attributes.names
  invoke a accessor := read a.value accessor

/-- A look-up comes to the same whatever is remembered, as long as that is faithful. It keeps the
definitions and the handles, and with handles known by their names its answer is a known one. -/
def Transparent (φ : β → γ) (look : Lookup Registry β) (answer : Environment → Except Fault γ) :
    Prop :=
  ∀ s : Registry, s.handles.WellFormed → ∃ r, ∃ t : Handles, t.WellFormed ∧ s.handles.KeptIn t ∧
    r.map φ = answer s.environment ∧
    ∀ references : References, references.Faithful s.handles → ∃ references' : References,
      references'.Faithful t ∧
      look { s with references } = resultAt r { s with handles := t, references := references' }

namespace Transparent

variable {φ : β → γ} {ψ : κ → ι} {look : Lookup Registry β} {next : β → Lookup Registry κ}

theorem pure (b : β) : Transparent φ (Pure.pure b : Lookup Registry β) fun _ => .ok (φ b) :=
  fun s wf => ⟨.ok b, s.handles, wf, .refl _, rfl, fun references hf => ⟨references, hf, rfl⟩⟩

theorem pureOf {b : β} {c : Environment → γ} (h : ∀ e, φ b = c e) :
    Transparent φ (Pure.pure b : Lookup Registry β) fun e => .ok (c e) := by
  have hc : (fun e => Except.ok (c e) : Environment → Except Fault γ) = fun _ => .ok (φ b) :=
    funext fun e => congrArg Except.ok (h e).symm
  exact hc ▸ pure b

theorem throw (fault : Fault) :
    Transparent φ (MonadExcept.throw fault : Lookup Registry β) fun _ => .error fault :=
  fun s wf =>
    ⟨.error fault, s.handles, wf, .refl _, rfl, fun references hf => ⟨references, hf, rfl⟩⟩

theorem bindOf {answer : Environment → Except Fault γ} {onward : γ → Environment → Except Fault ι}
    (h : Transparent φ look answer)
    (hn : ∀ b e, answer e = .ok (φ b) → Transparent ψ (next b) (onward (φ b))) :
    Transparent ψ (look >>= next) fun e => answer e >>= fun c => onward c e := by
  intro s wf
  obtain ⟨r, t, wf', hkept, hr, hlook⟩ := h s wf
  cases r with
  | error fault =>
    refine ⟨.error fault, t, wf', hkept, ?_, fun references hf => ?_⟩
    · simp only [← hr]
      rfl
    · obtain ⟨references', hf', hlook⟩ := hlook references hf
      refine ⟨references', hf', ?_⟩
      simp [Bind.bind, EStateM.bind, hlook]
  | ok b =>
    obtain ⟨r', t', wf'', hkept', hr', hnext⟩ :=
      hn b s.environment hr.symm { s with handles := t } wf'
    refine ⟨r', t', wf'', hkept.trans hkept', ?_, fun references hf => ?_⟩
    · simp only [← hr]
      exact hr'
    · obtain ⟨references', hf', hlook⟩ := hlook references hf
      obtain ⟨references'', hf'', hnext⟩ := hnext references' hf'
      refine ⟨references'', hf'', ?_⟩
      simp [Bind.bind, EStateM.bind, hlook, hnext]

theorem bind {answer : Environment → Except Fault γ} {onward : γ → Environment → Except Fault ι}
    (h : Transparent φ look answer) (hn : ∀ b, Transparent ψ (next b) (onward (φ b))) :
    Transparent ψ (look >>= next) fun e => answer e >>= fun c => onward c e :=
  h.bindOf fun b _ _ => hn b

/-- A look-up with a known result does not show in what comes behind it. -/
theorem bindOk {c : γ} {answer : Environment → Except Fault ι}
    (h : Transparent φ look fun _ => .ok c) (hn : ∀ b, φ b = c → Transparent ψ (next b) answer) :
    Transparent ψ (look >>= next) answer := by
  have hnext : Transparent ψ (look >>= next) fun e => Except.ok c >>= fun _ => answer e :=
    h.bindOf fun b _ hb => hn b (Except.ok.inj hb).symm
  exact hnext

theorem wrap {ψ : κ → γ} {f : β → κ} {answer : Environment → Except Fault γ}
    (h : Transparent φ look answer) (hf : ∀ b, ψ (f b) = φ b) :
    Transparent ψ (do return f (← look)) answer := by
  have hnext : Transparent ψ (do return f (← look)) fun e => answer e >>= fun c => .ok c :=
    h.bind fun b => .pureOf fun _ => hf b
  have hanswer : (fun e => answer e >>= fun c => Except.ok c) = answer := by
    funext e
    cases answer e <;> rfl
  exact hanswer ▸ hnext

theorem mapM {f : β → Lookup Registry κ} {g : β → Environment → Except Fault ι}
    (h : ∀ b, Transparent ψ (f b) (g b)) (bs : List β) :
    Transparent (List.map ψ) (bs.mapM f) fun e => bs.mapM fun b => g b e := by
  induction bs with
  | nil => exact pure []
  | cons b bs ih =>
    simp only [List.mapM_cons]
    exact (h b).bind fun c => ih.bind fun cs => pure (c :: cs)

theorem mapMOk {f : β → Lookup Registry κ} {g : β → ι}
    (h : ∀ b, Transparent ψ (f b) fun _ => .ok (g b)) (bs : List β) :
    Transparent (List.map ψ) (bs.mapM f) fun _ => .ok (bs.map g) := by
  have hall := mapM h bs
  have hok : (bs.mapM fun b => (Except.ok (g b) : Except Fault ι)) = .ok (bs.map g) := by
    induction bs with
    | nil => rfl
    | cons b bs ih =>
      rw [List.mapM_cons, ih (mapM h bs)]
      rfl
  simpa only [hok] using hall

end Transparent

theorem transparent_inspect (f : Environment → Except Fault β) : Transparent id (inspect f) f := by
  intro s wf
  refine ⟨f s.environment, s.handles, wf, .refl _, ?_, fun references hf => ⟨references, hf, rfl⟩⟩
  cases f s.environment <;> rfl

theorem transparent_onHandles {φ : β → γ} {m : EStateM Fault Handles β} {answer : Except Fault γ}
    (h : Resolves φ m answer) : Transparent φ (onHandles m) fun _ => answer := by
  intro s wf
  obtain ⟨r, t, hm, wf', hkept, -, hr⟩ := h s.handles wf
  refine ⟨r, t, wf', hkept, hr, fun references hf => ⟨references, hf.kept wf hkept, ?_⟩⟩
  cases r <;> simp [onHandles, hm]

theorem transparent_inspectOk {ψ : κ → ι} (f : Environment → β) {next : β → Lookup Registry κ}
    {onward : β → Environment → Except Fault ι} (h : ∀ b, Transparent ψ (next b) (onward b)) :
    Transparent ψ (inspect (fun e => .ok (f e)) >>= next) fun e => onward (f e) e :=
  (transparent_inspect _).bind h

theorem transparent_handle (name : String) :
    Transparent Handle.name (handle name) fun _ => .ok name :=
  transparent_onHandles (.handle name)

theorem transparent_parsed (expression : String) :
    Transparent (TypeRef.map Entity.descriptor) (parsed expression) fun _ =>
      reading expression := by
  intro s wf
  obtain ⟨r, t, hr, wf', hkept, hagain, hmap⟩ := resolves_with expression s.handles wf
  refine ⟨r.mapError fun why => .unusable (why.message expression), t, wf', hkept, ?_,
    fun references hf => ?_⟩
  · have hread : Expression.read Descriptor.named expression = reading expression :=
      s.environment.read_handle expression
    rw [← hread, Expression.read, ← hmap]
    cases r <;> rfl
  · cases hx : references.get? expression with
    | some x =>
      -- What is remembered is what reading gives now, and reading makes no handle.
      have hread := hf expression x hx
      rw [hr] at hread
      cases r with
      | error why => cases hread
      | ok y =>
        cases hread
        exact ⟨references, hf, by simp [parsed, hx, Except.mapError]⟩
    | none =>
      cases r with
      | error why =>
        refine ⟨references, hf.kept wf hkept, ?_⟩
        simp [parsed, hx, hr, Except.mapError]
      | ok x =>
        refine ⟨references.put expression x, fun other y hy => ?_, ?_⟩
        · rw [Table.get?_put] at hy
          split at hy
          · next heq =>
            cases hy
            rw [heq]
            exact hagain t (.refl t)
          · exact hf.kept wf hkept other y hy
        · simp [parsed, hx, hr, Except.mapError]

theorem transparent_slot (expression : Option String) :
    Transparent (TypeRef.map Entity.descriptor) (slot expression) fun _ =>
      slotReading expression := by
  cases expression with
  | none => exact .pure _
  | some expression => exact transparent_parsed expression

theorem transparent_annotationSet (as : List AnnotationDefinition) :
    Transparent (List.map (AnnotationUse.map Entity.descriptor)) (annotationSet as)
      fun _ => .ok (Environment.annotationSet {} as) :=
  .mapMOk (fun a => (transparent_handle a.type).bindOk fun _ hname => hname ▸ .pure _) as

theorem transparent_parameters (ps : List ParameterDefinition) :
    Transparent (List.map (List.map (AnnotationUse.map Entity.descriptor)))
      (ps.mapM fun p => annotationSet p.annotations)
      fun _ => .ok (ps.map fun p => Environment.annotationSet {} p.annotations) :=
  .mapMOk (fun p => transparent_annotationSet p.annotations) ps

theorem transparent_definition (x : Entity) :
    Transparent id (definition x) fun e => e.found x.descriptor :=
  transparent_inspect _

theorem transparent_method (m : MethodDefinition) :
    Transparent (Method.map Entity.descriptor) (resolveMethod m) fun e => e.readMethod m := by
  refine (transparent_slot m.returns).bind fun returns => ?_
  refine (Transparent.mapM transparent_parsed m.raises).bind fun raises => ?_
  have hslots := Transparent.mapM (fun p => transparent_slot p.type) m.parameters
  refine hslots.bind fun parameters => ?_
  exact (transparent_parameters m.parameters).bindOk fun uses huses =>
    .pureOf fun e => by simp only [Method.map, huses]; rfl

theorem transparent_constructor (owner : String) (c : ConstructorDefinition) :
    Transparent (Constructor.map Entity.descriptor) (resolveConstructor owner c)
      fun e => e.readConstructor owner c := by
  refine (Transparent.mapM transparent_parsed c.raises).bind fun raises => ?_
  have hslots := Transparent.mapM (fun p => transparent_slot p.type) c.parameters
  refine hslots.bind fun parameters => ?_
  exact (transparent_parameters c.parameters).bindOk fun uses huses =>
    .pureOf fun e => by simp only [Constructor.map, huses]; rfl

theorem transparent_field (f : FieldDefinition) :
    Transparent (Field.map Entity.descriptor) (resolveField f) fun e => e.readField f := by
  refine (transparent_slot f.type).bind fun type => ?_
  exact (transparent_annotationSet f.annotations).bindOk fun uses huses =>
    .pureOf fun e => by simp only [Field.map, huses]; rfl

theorem transparent_packageSet (d : TypeDefinition) :
    Transparent (Option.map (List.map (AnnotationUse.map Entity.descriptor))) (packageSet d)
      fun e => .ok (e.packageSet d) := by
  unfold packageSet
  cases hname : d.package with
  | none =>
    have hset (e : Environment) : e.packageSet d = none := by
      rw [Environment.packageSet, hname]
      rfl
    simp only [hset]
    exact .pure none
  | some name =>
    have hset (e : Environment) : e.packageSet d =
        some ((e.package name).elim [] fun p => Environment.annotationSet {} p.annotations) := by
      rw [Environment.packageSet, hname, Option.map_some]
      cases e.package name <;> rfl
    simp only [hset]
    have h (p : Option PackageDefinition) :
        Transparent (Option.map (List.map (AnnotationUse.map Entity.descriptor)))
          (match p with
            | none => return some []
            | some p => do return some (← annotationSet p.annotations))
          fun _ => .ok (some (p.elim [] fun p => Environment.annotationSet {} p.annotations)) := by
      cases p with
      | none => exact .pure (some [])
      | some p =>
        exact (transparent_annotationSet p.annotations).bindOk fun uses huses =>
          .pureOf fun _ => congrArg some huses
    exact transparent_inspectOk (fun e => e.package name) h

theorem transparent_force (v : Value) :
    Transparent ReadItem.value (force v) fun e => e.force v := by
  cases v with
  | typeName name =>
    have h (defined : Bool) : Transparent ReadItem.value
        (if defined then do return ReadItem.handle (← handle name)
          else throw (.notPresent name none))
        fun _ => if defined then .ok (.handle name) else .error (.notPresent name none) := by
      cases defined with
      | false => exact .throw _
      | true =>
        exact (transparent_handle name).bindOk fun h hname =>
          .pureOf fun _ => congrArg Value.handle hname
    exact transparent_inspectOk (fun e => e.defines name) h
  | _ => exact .pure (ReadItem.given _)

theorem transparent_read (a : AnnotationDefinition) (accessor : String) :
    Transparent ReadValue.value (read a accessor) fun e => e.read a accessor := by
  unfold read Environment.read
  cases a.attributes.get? accessor with
  | none => exact .throw _
  | some v =>
    have items (vs : List Value) : Transparent ReadValue.value
        (do return ReadValue.tuple (← vs.mapM force) : Lookup Registry ReadValue)
        fun e => do return Value.tuple (← vs.mapM e.force) :=
      (Transparent.mapM transparent_force vs).bind fun is => .pure (ReadValue.tuple is)
    have item (v : Value) : Transparent ReadValue.value
        (do return ReadValue.item (← force v) : Lookup Registry ReadValue) fun e => e.force v :=
      (transparent_force v).wrap fun _ => rfl
    cases v with
    | restricted reason => exact .throw _
    | list vs => exact items vs
    | tuple vs => exact items vs
    | _ => exact item _

theorem transparent_methods (x : Entity) :
    Transparent (List.map (Method.map Entity.descriptor)) (provider.methods x)
      fun e => e.answers.methods x.descriptor :=
  (transparent_definition x).bind fun d => .mapM transparent_method d.methods

theorem transparent_constructors (x : Entity) :
    Transparent (List.map (Constructor.map Entity.descriptor)) (provider.constructors x)
      fun e => e.answers.constructors x.descriptor :=
  (transparent_definition x).bind fun d => .mapM (transparent_constructor d.name) d.constructors

theorem transparent_fields (x : Entity) :
    Transparent (List.map (Field.map Entity.descriptor)) (provider.fields x)
      fun e => e.answers.fields x.descriptor :=
  (transparent_definition x).bind fun d => .mapM transparent_field d.fields

theorem transparent_supertype (x : Entity) :
    Transparent (TypeRef.map Entity.descriptor) (provider.supertype x)
      fun e => e.answers.supertype x.descriptor :=
  (transparent_definition x).bind fun d => transparent_slot d.supertype

theorem transparent_interfaces (x : Entity) :
    Transparent (List.map (TypeRef.map Entity.descriptor)) (provider.interfaces x)
      fun e => e.answers.interfaces x.descriptor :=
  (transparent_definition x).bind fun d => .mapM transparent_parsed d.interfaces

theorem transparent_annotations (x : Entity) :
    Transparent (List.map (AnnotationUse.map Entity.descriptor)) (provider.annotations x)
      fun e => e.answers.annotations x.descriptor :=
  (transparent_definition x).bind fun d => transparent_annotationSet d.annotations

theorem transparent_packageAnnotations (x : Entity) :
    Transparent (Option.map (List.map (AnnotationUse.map Entity.descriptor)))
      (provider.packageAnnotations x) fun e => e.answers.packageAnnotations x.descriptor :=
  (transparent_definition x).bind transparent_packageSet

theorem transparent_accessors (a : AnnotationUse Entity AnnotationDefinition) :
    Transparent id (provider.accessors a)
      fun e => e.answers.accessors (a.map Entity.descriptor) :=
  .pure a.value.attributes.names

theorem transparent_invoke (a : AnnotationUse Entity AnnotationDefinition) (accessor : String) :
    Transparent ReadValue.value (provider.invoke a accessor)
      fun e => e.answers.invoke (a.map Entity.descriptor) accessor :=
  transparent_read a.value accessor

/-- A state of a walk in which some references are remembered. -/
def recalling (references : References) (s : WalkState Registry Entity) :
    WalkState Registry Entity :=
  { s with memory := { s.memory with references } }

/-- A step of a walk comes to the same whatever is remembered, as long as that is faithful. It keeps
the definitions and the handles. -/
def Blind (a : Walk Registry Entity β) : Prop :=
  ∀ s, s.memory.handles.WellFormed → ∃ r, ∃ t : WalkState Registry Entity,
    t.memory.environment = s.memory.environment ∧ t.memory.handles.WellFormed ∧
    s.memory.handles.KeptIn t.memory.handles ∧
    ∀ references : References, references.Faithful s.memory.handles → ∃ references' : References,
      references'.Faithful t.memory.handles ∧
      a (recalling references s) = resultAt r (recalling references' t)

namespace Blind

variable {a : Walk Registry Entity β} {f : β → Walk Registry Entity γ}

theorem pure (b : β) : Blind (Pure.pure b) :=
  fun s wf => ⟨.ok b, s, rfl, wf, .refl _, fun references hf => ⟨references, hf, rfl⟩⟩

theorem throw (fault : Fault) : Blind (MonadExcept.throw fault : Walk Registry Entity β) :=
  fun s wf => ⟨.error fault, s, rfl, wf, .refl _, fun references hf => ⟨references, hf, rfl⟩⟩

/-- What a step comes to may be handled by a step that is blind again. -/
theorem handled {b : Walk Registry Entity γ} (h : Blind a)
    (hb : ∀ r, ∃ next, Blind next ∧ ∀ s t, a s = resultAt r t → b s = next t) : Blind b := by
  intro s wf
  obtain ⟨r, t, he, wf', hkept, ha⟩ := h s wf
  obtain ⟨next, hn, hb⟩ := hb r
  obtain ⟨r', u, he', wf'', hkept', hnext⟩ := hn t wf'
  refine ⟨r', u, he'.trans he, wf'', hkept.trans hkept', fun references hf => ?_⟩
  obtain ⟨references', hf', ha⟩ := ha references hf
  obtain ⟨references'', hf'', hnext⟩ := hnext references' hf'
  exact ⟨references'', hf'', (hb _ _ ha).trans hnext⟩

theorem bind (h : Blind a) (hf : ∀ b, Blind (f b)) : Blind (a >>= f) := by
  refine h.handled fun r => ?_
  cases r with
  | ok b =>
    refine ⟨f b, hf b, fun s t ha => ?_⟩
    simp only [Bind.bind, EStateM.bind, ha, resultAt_ok]
  | error fault =>
    refine ⟨_, throw fault, fun s t ha => ?_⟩
    simp only [Bind.bind, EStateM.bind, ha, resultAt_error]
    rfl

theorem note (n : Note) : Blind (Walk.note n) :=
  fun s wf =>
    ⟨.ok (), { s with notes := n :: s.notes }, rfl, wf, .refl _, fun references hf =>
      ⟨references, hf, rfl⟩⟩

theorem consult {φ : β → γ} {look : Lookup Registry β} {answer : Environment → Except Fault γ}
    (h : Transparent φ look answer) : Blind (Walk.consult look) := by
  intro s wf
  obtain ⟨r, t, wf', hkept, -, hlook⟩ := h s.memory wf
  refine ⟨r, { s with memory := { s.memory with handles := t } }, rfl, wf', hkept,
    fun references hf => ?_⟩
  obtain ⟨references', hf', hlook⟩ := hlook references hf
  refine ⟨references', hf', ?_⟩
  simp only [Walk.consult, recalling, hlook]
  cases r <;> rfl

theorem ask {φ : β → γ} {look : Lookup Registry β} {answer : Environment → Except Fault γ}
    (h : Transparent φ look answer) (call : Call) : Blind (Walk.ask call look) :=
  fun s wf => consult h { s with calls := call :: s.calls } wf

theorem skip (a : AnnotationUse Entity AnnotationDefinition) (accessor : String) (fault : Fault) :
    Blind (Walk.skip provider a accessor fault) :=
  (consult (.pure (φ := id) _)).bind fun name => note (.skipped name accessor fault)

theorem reads (a : AnnotationUse Entity AnnotationDefinition) (accessor : String) :
    Blind (Walk.readAttribute provider a accessor) := by
  have asks := ask (transparent_invoke a accessor)
    (.invoke (provider.typeName a.descriptor) accessor)
  refine asks.handled fun r => ?_
  cases r with
  | ok v =>
    refine ⟨_, pure (), fun s t h => ?_⟩
    simp only [Walk.readAttribute, h, resultAt_ok]
    rfl
  | error fault =>
    by_cases hr : ∃ message, fault = .restricted message
    · obtain ⟨message, rfl⟩ := hr
      refine ⟨_, skip a accessor (.restricted message), fun s t h => ?_⟩
      simp only [Walk.readAttribute, h, resultAt_error]
    · refine ⟨_, throw fault, fun s t h => ?_⟩
      simp only [Walk.readAttribute, h, resultAt_error]
      cases fault with
      | restricted message => exact absurd ⟨message, rfl⟩ hr
      | _ => rfl

theorem classify (x : Entity) (fault : Fault) : Blind (Walk.classify provider x fault) := by
  cases fault with
  | linkage message typeName =>
    have hblame :
        Blind (Walk.consult (Walk.blame provider x typeName) : Walk Registry Entity String) := by
      cases typeName with
      | none => exact consult (.pure (φ := id) _)
      | some name =>
        simp only [Walk.blame]
        split
        · exact consult (.pure (φ := id) _)
        · exact consult (.pure (φ := id) _)
    exact hblame.bind fun name => (note _).bind fun _ => pure _
  | notPresent typeName cause => exact (note _).bind fun _ => pure _
  | _ => exact pure _

theorem opened {a : Walk Registry Entity Unit} (h : Blind a) (x : Entity) :
    Blind (Walk.opened provider x a) := by
  have entered : Blind fun s => a (Walk.enter x s) := fun s wf => h (Walk.enter x s) wf
  have left : Blind fun s => .ok () (Walk.leave x s) := fun s wf =>
    ⟨.ok (), Walk.leave x s, rfl, wf, .refl _, fun references hf => ⟨references, hf, rfl⟩⟩
  have rolledBack (fault : Fault) :
      Blind fun s => (.error fault (Walk.rollBack provider x s) : EStateM.Result _ _ Unit) :=
    fun s wf => ⟨.error fault, Walk.rollBack provider x s, rfl, wf, .refl _, fun references hf =>
      ⟨references, hf, rfl⟩⟩
  refine entered.handled fun r => ?_
  cases r with
  | ok _ =>
    refine ⟨_, left, fun s t h => ?_⟩
    simp only [Walk.opened, h, resultAt_ok]
  | error fault =>
    -- Whether or not a fault can be classified, the mark is taken back.
    have shuts : Blind fun s => (.error (Walk.shut provider (fault, s) x).1
        (Walk.shut provider (fault, s) x).2 : EStateM.Result _ _ Unit) := by
      refine (classify x fault).handled fun r => ?_
      cases r with
      | ok fault' =>
        refine ⟨_, rolledBack fault', fun s t h => ?_⟩
        simp only [Walk.shut, h, resultAt_ok]
      | error fault' =>
        refine ⟨_, rolledBack fault', fun s t h => ?_⟩
        simp only [Walk.shut, h, resultAt_error]
    refine ⟨_, shuts, fun s t h => ?_⟩
    simp only [Walk.opened, Walk.shut, h, resultAt_error]
    cases Walk.classify provider x fault t <;> rfl

end Blind

theorem relating_blind (x : Entity) : Walk.Relating provider provider x fun a _ => Blind a where
  pure := .pure
  bind := .bind
  stop _ := .throw _
  methods := .ask (transparent_methods x) _
  constructors := .ask (transparent_constructors x) _
  fields := .ask (transparent_fields x) _
  supertype := .ask (transparent_supertype x) _
  interfaces := .ask (transparent_interfaces x) _
  annotations := .ask (transparent_annotations x) _
  package := .ask (transparent_packageAnnotations x) _
  accessors a := .ask (transparent_accessors a) _
  reads := .reads

theorem blind_type (options : WalkOptions) (depth : Nat) (x : Entity) :
    Blind (Walk.type provider options depth x) := by
  induction depth generalizing x with
  | zero =>
    intro s wf
    by_cases hx : x ∈ s.marked
    · refine ⟨.ok (), s, rfl, wf, .refl _, fun references hf => ⟨references, hf, ?_⟩⟩
      simp [Walk.type, recalling, hx]
    · refine ⟨.error .nestedTooDeep, s, rfl, wf, .refl _, fun references hf => ⟨references, hf, ?_⟩⟩
      simp [Walk.type, recalling, hx]
  | succ depth ih =>
    intro s wf
    by_cases hx : x ∈ s.marked
    · refine ⟨.ok (), s, rfl, wf, .refl _, fun references hf => ⟨references, hf, ?_⟩⟩
      simp [Walk.type, recalling, hx]
    · have hmembers : Blind (Walk.members provider options (Walk.type provider options depth) x) :=
        (relating_blind x).members_of ih options
      obtain ⟨r, t, he, wf', hkept, hopened⟩ := hmembers.opened x s wf
      refine ⟨r, t, he, wf', hkept, fun references hf => ?_⟩
      obtain ⟨references', hf', hopened⟩ := hopened references hf
      refine ⟨references', hf', ?_⟩
      rw [← hopened]
      simp [Walk.type, recalling, hx]

theorem blind_reference (options : WalkOptions) (depth : Nat) (root : TypeRef Entity) :
    Blind (Walk.reference (Walk.type provider options depth) root) :=
  -- No type is open yet, and the steps are blind whichever is.
  @Walk.RelatingParts.reference _ _ _ _ _ _ _ _ _ (Walk.type provider options depth)
    (Walk.type provider options depth) (relating_blind default).toRelatingParts
    (blind_type options depth) root

/-- What is remembered of handles and references is in order. -/
structure InOrder (s : Registry) : Prop where
  wellFormed : s.handles.WellFormed
  faithful : s.references.Faithful s.handles

theorem inOrder_fresh {s : Registry} (h : s.InOrder) : s.fresh.InOrder where
  wellFormed := h.wellFormed
  faithful := by simp [fresh, References.Faithful]

/-- A question to the provider of a registry. -/
inductive Question where
  | methods (x : Entity)
  | constructors (x : Entity)
  | fields (x : Entity)
  | supertype (x : Entity)
  | interfaces (x : Entity)
  | annotations (x : Entity)
  | packageAnnotations (x : Entity)
  | accessors (a : AnnotationUse Entity AnnotationDefinition)
  | invoke (a : AnnotationUse Entity AnnotationDefinition) (accessor : String)

/-- A registry after a question. -/
def Question.after (s : Registry) : Question → Registry
  | methods x => (provider.methods x).after s
  | constructors x => (provider.constructors x).after s
  | fields x => (provider.fields x).after s
  | supertype x => (provider.supertype x).after s
  | interfaces x => (provider.interfaces x).after s
  | annotations x => (provider.annotations x).after s
  | packageAnnotations x => (provider.packageAnnotations x).after s
  | accessors a => (provider.accessors a).after s
  | invoke a accessor => (provider.invoke a accessor).after s

/-- Something that is done with an environment or with its provider. -/
inductive Operation where
  | define (d : TypeDefinition)
  | undefine (name : String)
  | definePackage (p : PackageDefinition)
  | handle (name : String)
  | lookup (name : String)
  | ask (q : Question)
  | load (w : Walker Entity) (depth : Nat) (root : TypeRef Entity)

/-- A type defined under its name, and its handle. -/
def define (d : TypeDefinition) : Lookup Registry Handle := fun s =>
  handle d.name { s with environment := s.environment.define d }

/-- A registry after an operation. -/
def perform (s : Registry) : Operation → Registry
  | .define d => (define d).after s
  | .undefine name => { s with environment := s.environment.undefine name }
  | .definePackage p => { s with environment := s.environment.definePackage p }
  | .handle name => (handle name).after s
  | .lookup _ => s
  | .ask q => q.after s
  | .load w depth root => (w.load provider depth s root).memory

/-- The definitions after an operation. -/
def redefined (e : Environment) : Operation → Environment
  | .define d => e.define d
  | .undefine name => e.undefine name
  | .definePackage p => e.definePackage p
  | _ => e

/-- What a look-up comes to when it is transparent: the same as for a new provider, and only handles
and references change. -/
theorem Transparent.after {φ : β → γ} {look : Lookup Registry β}
    {answer : Environment → Except Fault γ} (h : Transparent φ look answer) {s : Registry}
    (hs : s.InOrder) :
    look.answer s = look.answer s.fresh ∧ (look.answer s).map φ = answer s.environment ∧
    (look.after s).InOrder ∧ (look.after s).environment = s.environment ∧
    s.handles.KeptIn (look.after s).handles ∧
    (look.after s.fresh).handles = (look.after s).handles := by
  obtain ⟨r, t, wf, hkept, hr, hlook⟩ := h s hs.wellFormed
  obtain ⟨references, hf, hown⟩ := hlook s.references hs.faithful
  obtain ⟨references', hf', hfresh⟩ := hlook .empty (inOrder_fresh hs).faithful
  have hown' : look s = resultAt r { s with handles := t, references } := hown
  have hfresh' : look s.fresh = resultAt r { s with handles := t, references := references' } :=
    hfresh
  simp only [Lookup.answer, Lookup.after, hown', hfresh']
  cases r <;> exact ⟨rfl, hr, ⟨wf, hf⟩, rfl, hkept, rfl⟩

/-- Answers given with handles are other answers if the handles are known by their names. -/
structure Denote (a : Answers Entity AnnotationDefinition ReadValue)
    (b : Answers Descriptor AnnotationDefinition Value) : Prop where
  methods : ∀ x, (a.methods x).map (List.map (Method.map Entity.descriptor)) =
    b.methods x.descriptor
  constructors : ∀ x, (a.constructors x).map (List.map (Constructor.map Entity.descriptor)) =
    b.constructors x.descriptor
  fields : ∀ x, (a.fields x).map (List.map (Field.map Entity.descriptor)) = b.fields x.descriptor
  supertype : ∀ x, (a.supertype x).map (TypeRef.map Entity.descriptor) = b.supertype x.descriptor
  interfaces : ∀ x, (a.interfaces x).map (List.map (TypeRef.map Entity.descriptor)) =
    b.interfaces x.descriptor
  annotations : ∀ x, (a.annotations x).map (List.map (AnnotationUse.map Entity.descriptor)) =
    b.annotations x.descriptor
  packageAnnotations : ∀ x, (a.packageAnnotations x).map
    (Option.map (List.map (AnnotationUse.map Entity.descriptor))) =
      b.packageAnnotations x.descriptor
  accessors : ∀ u, a.accessors u = b.accessors (u.map Entity.descriptor)
  invoke : ∀ u accessor, (a.invoke u accessor).map ReadValue.value =
    b.invoke (u.map Entity.descriptor) accessor
  naming : ∀ x, a.naming x = b.naming x.descriptor

section

variable {s : Registry} (hs : s.InOrder)

include hs

/-- What a provider remembers does not show in its answers. -/
theorem answers_fresh : provider.answers s = provider.answers s.fresh := by
  simp only [Provider.answers, Answers.mk.injEq]
  exact ⟨funext fun x => ((transparent_methods x).after hs).1,
    funext fun x => ((transparent_constructors x).after hs).1,
    funext fun x => ((transparent_fields x).after hs).1,
    funext fun x => ((transparent_supertype x).after hs).1,
    funext fun x => ((transparent_interfaces x).after hs).1,
    funext fun x => ((transparent_annotations x).after hs).1,
    funext fun x => ((transparent_packageAnnotations x).after hs).1,
    funext fun a => ((transparent_accessors a).after hs).1,
    funext fun a => funext fun accessor => ((transparent_invoke a accessor).after hs).1, rfl⟩

/-- The answers of a registry are those of its environment. -/
theorem denote_answers : Denote (provider.answers s) s.environment.answers where
  methods x := ((transparent_methods x).after hs).2.1
  constructors x := ((transparent_constructors x).after hs).2.1
  fields x := ((transparent_fields x).after hs).2.1
  supertype x := ((transparent_supertype x).after hs).2.1
  interfaces x := ((transparent_interfaces x).after hs).2.1
  annotations x := ((transparent_annotations x).after hs).2.1
  packageAnnotations x := ((transparent_packageAnnotations x).after hs).2.1
  accessors _ := rfl
  invoke a accessor := ((transparent_invoke a accessor).after hs).2.1
  naming _ := rfl

/-- A question changes handles and references only, and the handles as for a new provider. -/
theorem question_after (q : Question) :
    (q.after s).InOrder ∧ (q.after s).environment = s.environment ∧
    s.handles.KeptIn (q.after s).handles ∧ (q.after s.fresh).handles = (q.after s).handles := by
  cases q with
  | methods x => exact ((transparent_methods x).after hs).2.2
  | constructors x => exact ((transparent_constructors x).after hs).2.2
  | fields x => exact ((transparent_fields x).after hs).2.2
  | supertype x => exact ((transparent_supertype x).after hs).2.2
  | interfaces x => exact ((transparent_interfaces x).after hs).2.2
  | annotations x => exact ((transparent_annotations x).after hs).2.2
  | packageAnnotations x => exact ((transparent_packageAnnotations x).after hs).2.2
  | accessors a => exact ((transparent_accessors a).after hs).2.2
  | invoke a accessor => exact ((transparent_invoke a accessor).after hs).2.2

/-- A load changes handles and references only, and comes to the same for a new provider. -/
theorem load_after (w : Walker Entity) (depth : Nat) (root : TypeRef Entity) :
    let r := w.load provider depth s root
    let r' := w.load provider depth s.fresh root
    (r'.outcome = r.outcome ∧ r'.marked = r.marked ∧ r'.moves = r.moves ∧ r'.notes = r.notes ∧
      r'.calls = r.calls) ∧
    r.memory.InOrder ∧ r.memory.environment = s.environment ∧
    s.handles.KeptIn r.memory.handles ∧ r'.memory.handles = r.memory.handles := by
  obtain ⟨r, t, he, wf, hkept, hload⟩ := blind_reference w.options depth root
    { marked := w.marked, moves := [], notes := [], calls := [], memory := s } hs.wellFormed
  obtain ⟨references, hf, hown⟩ := hload s.references hs.faithful
  obtain ⟨references', hf', hfresh⟩ := hload .empty (inOrder_fresh hs).faithful
  simp only [recalling] at hown hfresh
  simp only [Walker.load, Walker.run, fresh, hown, hfresh]
  cases r <;> exact ⟨⟨rfl, rfl, rfl, rfl, rfl⟩, ⟨wf, hf⟩, he, hkept, rfl⟩

/-- An operation keeps what is remembered in order, keeps all handles, and changes the definitions
only if it is to define something or to remove a definition. -/
theorem perform_spec (op : Operation) :
    (s.perform op).InOrder ∧ (s.perform op).environment = redefined s.environment op ∧
    s.handles.KeptIn (s.perform op).handles := by
  have made (name : String) (e : Environment) :
      let s' : Registry := (handle name).after { s with environment := e }
      s'.InOrder ∧ s'.environment = e ∧ s.handles.KeptIn s'.handles := by
    have hin : InOrder { s with environment := e } := ⟨hs.wellFormed, hs.faithful⟩
    obtain ⟨-, -, hin', he, hkept, -⟩ := (transparent_handle name).after hin
    exact ⟨hin', he, hkept⟩
  cases op with
  | define d => exact made d.name (s.environment.define d)
  | undefine name => exact ⟨⟨hs.wellFormed, hs.faithful⟩, rfl, .refl _⟩
  | definePackage p => exact ⟨⟨hs.wellFormed, hs.faithful⟩, rfl, .refl _⟩
  | handle name => exact made name s.environment
  | lookup name => exact ⟨hs, rfl, .refl _⟩
  | ask q =>
    obtain ⟨hin, he, hkept, -⟩ := question_after hs q
    exact ⟨hin, he, hkept⟩
  | load w depth root =>
    obtain ⟨-, hin, he, hkept, -⟩ := load_after hs w depth root
    exact ⟨hin, he, hkept⟩

theorem foldl_perform_spec (ops : List Operation) :
    (ops.foldl perform s).InOrder ∧
    (ops.foldl perform s).environment = ops.foldl redefined s.environment ∧
    s.handles.KeptIn (ops.foldl perform s).handles := by
  induction ops generalizing s with
  | nil => exact ⟨hs, rfl, .refl _⟩
  | cons op ops ih =>
    obtain ⟨hin, he, hkept⟩ := perform_spec hs op
    obtain ⟨hin', he', hkept'⟩ := ih hin
    exact ⟨hin', by rw [List.foldl_cons, he', he, List.foldl_cons], hkept.trans hkept'⟩

omit hs in
theorem answer_handle {name : String} {h : Handle} (hname : s.handles.get? name = some h) :
    (handle name).answer s = .ok h := by
  simp [Lookup.answer, handle, onHandles, Handles.handle, hname]

omit hs in
theorem answer_define (s : Registry) (d : TypeDefinition) :
    (define d).answer s = (handle d.name).answer s := by
  simp only [Lookup.answer, define, handle, onHandles]
  cases (Handles.handle d.name : EStateM Fault Handles Handle) s.handles <;> rfl

omit hs in
theorem exists_get?_after_handle (s : Registry) (name : String) :
    ∃ h, (handle name).answer s = .ok h ∧ ((handle name).after s).handles.get? name = some h := by
  cases h : s.handles.get? name with
  | some x =>
    exact ⟨x, answer_handle h, by simp [Lookup.after, handle, onHandles, Handles.handle, h]⟩
  | none =>
    refine ⟨⟨s.handles.size, name⟩, ?_, ?_⟩
    · simp [Lookup.answer, handle, onHandles, Handles.handle, h]
    · simp [Lookup.after, handle, onHandles, Handles.handle, h]

end

/-- The registry after some operations on an empty environment and a new provider. -/
def afterAll (ops : List Operation) : Registry :=
  ops.foldl perform {}

theorem inOrder_afterAll (ops : List Operation) : (afterAll ops).InOrder :=
  (foldl_perform_spec ⟨Handles.wellFormed_empty, by simp [References.Faithful]⟩ ops).1

/-- Whatever has been done before, the provider answers and walks as a new one would, with the same
handles, and as its environment does. Each name keeps its handle, which has that name and is the
handle of no other. Only definitions and removals change the definitions. -/
theorem memory_never_shows (ops : List Operation) :
    let s := afterAll ops
    provider.answers s = provider.answers s.fresh ∧
    (∀ q : Question, (q.after s).environment = s.environment ∧
      (q.after s.fresh).handles = (q.after s).handles) ∧
    (∀ (w : Walker Entity) (depth : Nat) (root : TypeRef Entity),
      let r := w.load provider depth s root
      let r' := w.load provider depth s.fresh root
      (r'.outcome = r.outcome ∧ r'.marked = r.marked ∧ r'.moves = r.moves ∧ r'.notes = r.notes ∧
        r'.calls = r.calls) ∧
      r.memory.environment = s.environment ∧ r'.memory.handles = r.memory.handles) ∧
    Denote (provider.answers s) s.environment.answers ∧
    s.environment = ops.foldl redefined {} ∧
    (∀ name rest, (handle name).answer (afterAll (ops ++ .handle name :: rest)) =
      (handle name).answer s) ∧
    (∀ d, (define d).answer s = (handle d.name).answer s) ∧
    ∀ name h, s.handles.get? name = some h → h.name = name ∧
      ∀ name' h', s.handles.get? name' = some h' → h'.number = h.number → name' = name := by
  have hs := inOrder_afterAll ops
  refine ⟨answers_fresh hs, fun q => ?_, fun w depth root => ?_, denote_answers hs, ?definitions,
    fun name rest => ?stable, answer_define (afterAll ops), fun name h hname => ?own⟩
  · obtain ⟨-, he, -, hhandles⟩ := question_after hs q
    exact ⟨he, hhandles⟩
  · obtain ⟨hsame, -, he, -, hhandles⟩ := load_after hs w depth root
    exact ⟨hsame, he, hhandles⟩
  case definitions =>
    exact (foldl_perform_spec ⟨Handles.wellFormed_empty, by simp [References.Faithful]⟩ ops).2.1
  case stable =>
    obtain ⟨h, hanswer, hthere⟩ := exists_get?_after_handle (afterAll ops) name
    have hkept := (foldl_perform_spec (perform_spec hs (.handle name)).1 rest).2.2
    rw [hanswer, afterAll, List.foldl_append]
    exact answer_handle (hkept name h hthere)
  case own =>
    exact ⟨hs.wellFormed.named hname, fun name' h' hname' hnumber =>
      hs.wellFormed.distinct hname' hname hnumber⟩

/-- `A` is defined with an expression that breaks off, asked for, removed, defined again with one
that does not, asked for, and removed. -/
def redefinitions : List Operation :=
  [.define { name := "A", fields := [{ name := "b", type := some "B<C" }] },
    .ask (.fields (.made ⟨0, "A"⟩)), .undefine "A",
    .define { name := "A", fields := [{ name := "b", type := some "B<C>" }] },
    .load {} 3 (.concrete (.made ⟨0, "A"⟩)), .undefine "A"]

/-- The handles of `B` and `C` were made when the first expression broke off. -/
theorem memory_never_shows_redefinitions :
    (afterAll redefinitions).references.names = ["B<C>"] ∧
    (handle "C").answer (afterAll redefinitions) = .ok ⟨2, "C"⟩ ∧
    (handle "C").answer (afterAll (redefinitions ++ [.handle "C", .define { name := "C" }])) =
      .ok ⟨2, "C"⟩ ∧
    provider.answers (afterAll redefinitions) = provider.answers (afterAll redefinitions).fresh := by
  obtain ⟨hanswers, -, -, -, -, hstable, -, -⟩ := memory_never_shows redefinitions
  have hhandle : (handle "C").answer (afterAll redefinitions) = .ok ⟨2, "C"⟩ := by decide +kernel
  exact ⟨by decide +kernel, hhandle, (hstable "C" [.define { name := "C" }]).trans hhandle,
    hanswers⟩

end Registry

end Graph

end TypeReach
