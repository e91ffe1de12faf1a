import TypeReach.Provider

/-!
# The walk of a closure

A walk visits every type that a root reaches through members, signatures and annotations, and reads
every attribute of the annotations on the way. A type is marked before its members are walked, so
that cycles end; if anything fails while it is open, its mark is taken back. A failure to load or
find a type is turned, at the innermost open type, into one that names what could not be resolved.
-/

namespace TypeReach

/-- What a walk reports on its way. -/
inductive Note where
  /-- A definition could not be loaded while the named type was walked. -/
  | linkage (typeName : String) (fault : Fault)
  /-- A lazy reference led nowhere. -/
  | lazy (typeName : Option String)
  /-- The mark of a descriptor was taken back. -/
  | rolledBack (shown : String)
  /-- An attribute that must not be read was passed over. -/
  | skipped (typeName accessor : String) (fault : Fault)
  deriving DecidableEq, Inhabited

/-- A note as a message. -/
def Note.text : Note → String
  | linkage t fault => "Linkage failure while walking " ++ t ++ ": " ++ fault.message
  | lazy t => "Lazy reference to missing type " ++ Fault.nameText t
  | rolledBack shown => "Rolled back visited mark for " ++ shown
  | skipped t a fault => "Skipping restricted attribute " ++ t ++ "." ++ a ++ ": " ++ fault.message

/-- A move of a walk from type to type. A visit of a marked type is none. -/
inductive Move (δ : Type) where
  /-- A type was marked, and what it declares is walked from now on. -/
  | entered (descriptor : δ)
  /-- All that an open type declares is walked. -/
  | returned (descriptor : δ)
  deriving DecidableEq, Repr

/-- Where a walk stands: the marked descriptors and the moves so far, each with the latest first. -/
structure Track (δ : Type) where
  marked : List δ
  moves : List (Move δ)

/-- What a walk carries along: where it stands, notes and calls with the latest first, and the
memory of the provider. -/
structure WalkState (σ δ : Type) extends Track δ where
  notes : List Note
  calls : List Call
  memory : σ

/-- A step of a walk, which leaves a state also when it fails. -/
abbrev Walk (σ δ β : Type) := EStateM Fault (WalkState σ δ) β

/-- Switches of a walk. -/
structure WalkOptions where
  /-- Whether the supertype is walked; if not, it is only looked up. -/
  traverseSupertype : Bool := true
  deriving DecidableEq, Repr, Inhabited

namespace Walk

variable {σ δ α ν β : Type}

/-- Adds a note. -/
def note (n : Note) : Walk σ δ Unit := fun s =>
  .ok () { s with notes := n :: s.notes }

/-- Puts a question about a name to the provider, which is no call. -/
def consult (look : Lookup σ β) : Walk σ δ β := fun s =>
  match look s.memory with
  | .ok b memory => .ok b { s with memory }
  | .error fault memory => .error fault { s with memory }

/-- Puts a question to the provider, as a call. -/
def ask (call : Call) (look : Lookup σ β) : Walk σ δ β := fun s =>
  consult look { s with calls := call :: s.calls }

/-- Runs a step for each item in order. -/
def each (step : β → Walk σ δ Unit) : List β → Walk σ δ Unit
  | [] => pure ()
  | b :: bs => do
    step b
    each step bs

mutual

/-- Visits the descriptors of a reference from left to right and stops at an unknown node. -/
def reference (visit : δ → Walk σ δ Unit) : TypeRef δ → Walk σ δ Unit
  | .absent => pure ()
  | .concrete d => visit d
  | .parameterized owner args => do
    reference visit owner
    references visit args
  | .wildcard lower upper => do
    references visit lower
    references visit upper
  | .array component => reference visit component
  | .unknown why => throw (.unwalkable why)

/-- Visits the descriptors of several references in order. -/
def references (visit : δ → Walk σ δ Unit) : List (TypeRef δ) → Walk σ δ Unit
  | [] => pure ()
  | r :: rs => do
    reference visit r
    references visit rs

end

/-- Notes that an attribute must not be read. -/
def skip (p : Provider σ δ α ν) (a : AnnotationUse δ α) (accessor : String) (fault : Fault) :
    Walk σ δ Unit := do
  let name ← consult (p.naming a.descriptor)
  note (.skipped name accessor fault)

/-- Reads an attribute. One that must not be read is noted and passed over. -/
def readAttribute (p : Provider σ δ α ν) (a : AnnotationUse δ α) (accessor : String) :
    Walk σ δ Unit := fun s =>
  match ask (.invoke (p.typeName a.descriptor) accessor) (p.invoke a accessor) s with
  | .ok _ s => .ok () s
  | .error (.restricted message) s => skip p a accessor (.restricted message) s
  | .error fault s => .error fault s

/-- Visits the type of an annotation and then reads its attributes in order. -/
def annotationUse (p : Provider σ δ α ν) (visit : δ → Walk σ δ Unit) (a : AnnotationUse δ α) :
    Walk σ δ Unit := do
  visit a.descriptor
  let names ← ask (.accessors (p.typeName a.descriptor)) (p.accessors a)
  each (readAttribute p a) names

/-- Walks annotations in order. -/
def annotations (p : Provider σ δ α ν) (visit : δ → Walk σ δ Unit) :
    List (AnnotationUse δ α) → Walk σ δ Unit :=
  each (annotationUse p visit)

/-- Walks a method: what it returns, raises and takes, and the annotations of its parameters. -/
def method (p : Provider σ δ α ν) (visit : δ → Walk σ δ Unit) (m : Method δ α) :
    Walk σ δ Unit := do
  reference visit m.returns
  references visit m.raises
  references visit m.parameters
  each (annotations p visit) m.parameterAnnotations

/-- Walks a constructor: what it raises and takes, and the annotations of its parameters. -/
def constructor (p : Provider σ δ α ν) (visit : δ → Walk σ δ Unit) (c : Constructor δ α) :
    Walk σ δ Unit := do
  references visit c.raises
  references visit c.parameters
  each (annotations p visit) c.parameterAnnotations

/-- Walks a field: its type and its annotations. -/
def field (p : Provider σ δ α ν) (visit : δ → Walk σ δ Unit) (f : Field δ α) :
    Walk σ δ Unit := do
  reference visit f.type
  annotations p visit f.annotations

/-- Walks the annotations of a package, if there is one. -/
def package (p : Provider σ δ α ν) (visit : δ → Walk σ δ Unit) :
    Option (List (AnnotationUse δ α)) → Walk σ δ Unit
  | none => pure ()
  | some own => annotations p visit own

/-- Walks all that a type declares: methods, constructors, fields, supertype, interfaces, its own
annotations and those of its package, each looked up just before it is walked. -/
def members (p : Provider σ δ α ν) (options : WalkOptions) (visit : δ → Walk σ δ Unit) (d : δ) :
    Walk σ δ Unit := do
  let name := p.typeName d
  each (method p visit) (← ask (.methods name) (p.methods d))
  each (constructor p visit) (← ask (.constructors name) (p.constructors d))
  each (field p visit) (← ask (.fields name) (p.fields d))
  let supertype ← ask (.supertype name) (p.supertype d)
  if options.traverseSupertype then reference visit supertype
  references visit (← ask (.interfaces name) (p.interfaces d))
  annotations p visit (← ask (.annotations name) (p.annotations d))
  package p visit (← ask (.package name) (p.packageAnnotations d))

/-- The name that a failure to load is reported under while `d` is the innermost open type: the
fault's own, unless it has none or an empty one. -/
def blame (p : Provider σ δ α ν) (d : δ) : Option String → Lookup σ String
  | none => p.naming d
  | some name => if name = "" then p.naming d else pure name

/-- Notes a fault met while `d` is the innermost open type and gives the fault that leaves `d`
for it. -/
def classify (p : Provider σ δ α ν) (d : δ) : Fault → Walk σ δ Fault
  | .linkage message typeName => do
    let name ← consult (blame p d typeName)
    note (.linkage name (.linkage message typeName))
    return .unresolved (some name) (some (.linkage message typeName))
  | .notPresent typeName cause => do
    note (.lazy typeName)
    return .unresolved typeName (some (.notPresent typeName cause))
  | fault => return fault

variable [DecidableEq δ]

/-- Marks a type and opens it. -/
def enter (d : δ) (s : WalkState σ δ) : WalkState σ δ :=
  { s with marked := d :: s.marked, moves := .entered d :: s.moves }

/-- Leaves an open type whose members are walked. -/
def leave (d : δ) (s : WalkState σ δ) : WalkState σ δ :=
  { s with moves := .returned d :: s.moves }

/-- Takes the mark of an open type back. -/
def rollBack (p : Provider σ δ α ν) (d : δ) (s : WalkState σ δ) : WalkState σ δ :=
  { s with marked := s.marked.erase d, notes := .rolledBack (p.shown d) :: s.notes }

/-- Runs a step with `d` marked and open. If it fails, the fault is classified and the mark is taken
back. -/
def opened (p : Provider σ δ α ν) (d : δ) (body : Walk σ δ Unit) : Walk σ δ Unit := fun s =>
  match body (enter d s) with
  | .ok _ s => .ok () (leave d s)
  | .error fault s =>
    match classify p d fault s with
    | .ok fault s => .error fault (rollBack p d s)
    | .error fault s => .error fault (rollBack p d s)

/-- Walks a type unless it is marked, with at most `depth` types open at once. -/
def type (p : Provider σ δ α ν) (options : WalkOptions) : Nat → δ → Walk σ δ Unit
  | 0, d => fun s => if d ∈ s.marked then .ok () s else .error .nestedTooDeep s
  | depth + 1, d => fun s =>
    if d ∈ s.marked then .ok () s
    else opened p d (members p options (type p options depth) d) s

end Walk

end TypeReach
