import TypeReach.Walk.Basic

/-!
# Related walks

What a walk does while a type is open is put together from a few kinds of steps: questions about the
type and its annotations, readings of attributes, visits of other types, and stops at unknown nodes.
A relation between steps that holds of these and is kept when steps are put together holds of walks
along references and of the walk of all that the type declares. The two steps may be taken over
providers that remember different things.
-/

namespace TypeReach.Walk

variable {σ σ' δ α ν ν' : Type}

/-- A relation of steps, over two providers, that holds of every single step along references and
annotations and is kept when steps are put together. -/
structure RelatingParts (p : Provider σ δ α ν) (q : Provider σ' δ α ν')
    (R : ∀ {β : Type}, Walk σ δ β → Walk σ' δ β → Prop) : Prop where
  pure : ∀ {β : Type} (b : β), R (pure b) (pure b)
  bind : ∀ {β γ : Type} {a : Walk σ δ β} {b : Walk σ' δ β} {f : β → Walk σ δ γ}
    {g : β → Walk σ' δ γ}, R a b → (∀ x, R (f x) (g x)) → R (a >>= f) (b >>= g)
  stop : ∀ why, R (throw (.unwalkable why) : Walk σ δ Unit) (throw (.unwalkable why))
  accessors : ∀ a, R (ask (.accessors (p.typeName a.descriptor)) (p.accessors a))
    (ask (.accessors (q.typeName a.descriptor)) (q.accessors a))
  reads : ∀ a accessor, R (readAttribute p a accessor) (readAttribute q a accessor)

/-- A relation of steps, over two providers, that holds of every single step taken while `d` is open
and is kept when steps are put together. -/
structure Relating (p : Provider σ δ α ν) (q : Provider σ' δ α ν') (d : δ)
    (R : ∀ {β : Type}, Walk σ δ β → Walk σ' δ β → Prop) : Prop extends RelatingParts p q R where
  methods : R (ask (.methods (p.typeName d)) (p.methods d))
    (ask (.methods (q.typeName d)) (q.methods d))
  constructors : R (ask (.constructors (p.typeName d)) (p.constructors d))
    (ask (.constructors (q.typeName d)) (q.constructors d))
  fields : R (ask (.fields (p.typeName d)) (p.fields d))
    (ask (.fields (q.typeName d)) (q.fields d))
  supertype : R (ask (.supertype (p.typeName d)) (p.supertype d))
    (ask (.supertype (q.typeName d)) (q.supertype d))
  interfaces : R (ask (.interfaces (p.typeName d)) (p.interfaces d))
    (ask (.interfaces (q.typeName d)) (q.interfaces d))
  annotations : R (ask (.annotations (p.typeName d)) (p.annotations d))
    (ask (.annotations (q.typeName d)) (q.annotations d))
  package : R (ask (.package (p.typeName d)) (p.packageAnnotations d))
    (ask (.package (q.typeName d)) (q.packageAnnotations d))

section

variable {p : Provider σ δ α ν} {q : Provider σ' δ α ν'}
  {R : ∀ {β : Type}, Walk σ δ β → Walk σ' δ β → Prop} {visit : δ → Walk σ δ Unit}
  {visit' : δ → Walk σ' δ Unit}

namespace RelatingParts

theorem each {β : Type} (h : RelatingParts p q @R) {f : β → Walk σ δ Unit}
    {g : β → Walk σ' δ Unit} (hf : ∀ x, R (f x) (g x)) (xs : List β) :
    R (each f xs) (each g xs) := by
  induction xs with
  | nil => exact h.pure ()
  | cons x xs ih => exact h.bind (hf x) fun _ => ih

mutual

theorem reference (h : RelatingParts p q @R) (hv : ∀ x, R (visit x) (visit' x)) :
    ∀ r : TypeRef δ, R (reference visit r) (reference visit' r)
  | .absent => h.pure ()
  | .concrete x => hv x
  | .parameterized owner args => h.bind (reference h hv owner) fun _ => references h hv args
  | .wildcard lower upper => h.bind (references h hv lower) fun _ => references h hv upper
  | .array component => reference h hv component
  | .unknown why => h.stop why

theorem references (h : RelatingParts p q @R) (hv : ∀ x, R (visit x) (visit' x)) :
    ∀ rs : List (TypeRef δ), R (references visit rs) (references visit' rs)
  | [] => h.pure ()
  | r :: rs => h.bind (reference h hv r) fun _ => references h hv rs

end

variable (h : RelatingParts p q @R) (hv : ∀ x, R (visit x) (visit' x))

include h hv

theorem annotationUse (a : AnnotationUse δ α) :
    R (annotationUse p visit a) (annotationUse q visit' a) :=
  h.bind (hv a.descriptor) fun _ => h.bind (h.accessors a) fun names =>
    h.each (h.reads a) names

theorem annotationsOf (as : List (AnnotationUse δ α)) :
    R (Walk.annotations p visit as) (Walk.annotations q visit' as) :=
  h.each (h.annotationUse hv) as

theorem method (m : Method δ α) : R (method p visit m) (method q visit' m) :=
  h.bind (h.reference hv m.returns) fun _ => h.bind (h.references hv m.raises) fun _ =>
    h.bind (h.references hv m.parameters) fun _ => h.each (h.annotationsOf hv) m.parameterAnnotations

theorem constructor (c : Constructor δ α) : R (constructor p visit c) (constructor q visit' c) :=
  h.bind (h.references hv c.raises) fun _ => h.bind (h.references hv c.parameters) fun _ =>
    h.each (h.annotationsOf hv) c.parameterAnnotations

theorem field (f : Field δ α) : R (field p visit f) (field q visit' f) :=
  h.bind (h.reference hv f.type) fun _ => h.annotationsOf hv f.annotations

theorem packageOf (own : Option (List (AnnotationUse δ α))) :
    R (Walk.package p visit own) (Walk.package q visit' own) := by
  cases own with
  | none => exact h.pure ()
  | some as => exact h.annotationsOf hv as

end RelatingParts

/-- Walks of all that a type declares are related if their visits are. -/
theorem Relating.members {d : δ} (h : Relating p q d @R) (hv : ∀ x, R (visit x) (visit' x))
    (options : WalkOptions) : R (members p options visit d) (members q options visit' d) := by
  have rest : R
      (do
        Walk.references visit (← ask (.interfaces (p.typeName d)) (p.interfaces d))
        Walk.annotations p visit (← ask (.annotations (p.typeName d)) (p.annotations d))
        Walk.package p visit (← ask (.package (p.typeName d)) (p.packageAnnotations d)))
      (do
        Walk.references visit' (← ask (.interfaces (q.typeName d)) (q.interfaces d))
        Walk.annotations q visit' (← ask (.annotations (q.typeName d)) (q.annotations d))
        Walk.package q visit' (← ask (.package (q.typeName d)) (q.packageAnnotations d))) :=
    h.bind h.interfaces fun rs => h.bind (h.references hv rs) fun _ =>
      h.bind h.annotations fun as => h.bind (h.annotationsOf hv as) fun _ =>
        h.bind h.package fun own => h.packageOf hv own
  refine h.bind h.methods fun ms => h.bind (h.each (h.method hv) ms) fun _ => ?_
  refine h.bind h.constructors fun cs => h.bind (h.each (h.constructor hv) cs) fun _ => ?_
  refine h.bind h.fields fun fs => h.bind (h.each (h.field hv) fs) fun _ => ?_
  refine h.bind h.supertype fun r => ?_
  -- What comes behind the supertype is the same whether or not the supertype is walked.
  split
  · exact h.bind (h.reference hv r) fun _ => rest
  · exact rest

/-- A property that holds of every single step and is kept when steps are put together holds of the
walk of all that a type declares, if it holds of visits. -/
theorem Relating.members_of {d : δ} {P : ∀ {β : Type}, Walk σ δ β → Prop}
    (h : Relating p p d fun a _ => P a) (hv : ∀ x, P (visit x)) (options : WalkOptions) :
    P (Walk.members p options visit d) :=
  @Relating.members _ _ _ _ _ _ _ _ _ visit visit d h hv options

end

/-- A property of steps that holds of every question, whoever it is put to, and of notes, and is kept
when steps are put together or one takes over at the fault of another. -/
structure Pervasive (P : ∀ {β : Type}, Walk σ δ β → Prop) : Prop where
  pure : ∀ {β : Type} (b : β), P (pure b)
  throw : ∀ {β : Type} (fault : Fault), P (throw fault : Walk σ δ β)
  bind : ∀ {β γ : Type} {a : Walk σ δ β} {f : β → Walk σ δ γ}, P a → (∀ b, P (f b)) → P (a >>= f)
  handle : ∀ {β : Type} {a : Walk σ δ β} {f : Fault → Walk σ δ Unit}, P a → (∀ fault, P (f fault)) →
    P fun s => match a s with
      | .ok _ s => .ok () s
      | .error fault s => f fault s
  note : ∀ n, P (note n)
  consult : ∀ {β : Type} (look : Lookup σ β), P (consult look)
  ask : ∀ {β : Type} (call : Call) (look : Lookup σ β), P (ask call look)

/-- What comes of the fault of an attribute: one that must not be read is noted. -/
def passOver (p : Provider σ δ α ν) (use : AnnotationUse δ α) (accessor : String) :
    Fault → Walk σ δ Unit
  | .restricted message => skip p use accessor (.restricted message)
  | fault => throw fault

theorem readAttribute_eq (p : Provider σ δ α ν) (use : AnnotationUse δ α) (accessor : String) :
    readAttribute p use accessor = fun s =>
      match ask (.invoke (p.typeName use.descriptor) accessor) (p.invoke use accessor) s with
      | .ok _ s => .ok () s
      | .error fault s => passOver p use accessor fault s := by
  funext s
  simp only [readAttribute]
  cases ask (.invoke (p.typeName use.descriptor) accessor) (p.invoke use accessor) s with
  | ok _ t => rfl
  | error fault t => cases fault <;> rfl

namespace Pervasive

variable {P : ∀ {β : Type}, Walk σ δ β → Prop} (h : Pervasive @P) (p : Provider σ δ α ν)

include h

theorem each {β : Type} {step : β → Walk σ δ Unit} (hstep : ∀ b, P (step b)) (bs : List β) :
    P (each step bs) := by
  induction bs with
  | nil => exact h.pure ()
  | cons b bs ih => exact h.bind (hstep b) fun _ => ih

theorem readAttribute (use : AnnotationUse δ α) (accessor : String) :
    P (readAttribute p use accessor) := by
  rw [readAttribute_eq]
  refine h.handle (h.ask _ _) fun fault => ?_
  cases fault with
  | restricted message => exact h.bind (h.consult _) fun _ => h.note _
  | _ => exact h.throw _

theorem members {visit : δ → Walk σ δ Unit} (hv : ∀ x, P (visit x)) (options : WalkOptions) (d : δ) :
    P (members p options visit d) := by
  have single : Relating p p d fun a _ => P a := {
    pure := h.pure
    bind := h.bind
    stop := fun _ => h.throw _
    accessors := fun _ => h.ask _ _
    reads := h.readAttribute p
    methods := h.ask _ _
    constructors := h.ask _ _
    fields := h.ask _ _
    supertype := h.ask _ _
    interfaces := h.ask _ _
    annotations := h.ask _ _
    package := h.ask _ _ }
  exact single.members_of hv options

theorem classify (d : δ) (fault : Fault) : P (classify p d fault) := by
  cases fault with
  | linkage message typeName =>
    exact h.bind (h.consult (blame p d typeName)) fun _ => h.bind (h.note _) fun _ => h.pure _
  | notPresent typeName cause => exact h.bind (h.note _) fun _ => h.pure _
  | _ => exact h.pure _

end Pervasive

end TypeReach.Walk
