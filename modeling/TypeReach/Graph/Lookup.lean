import TypeReach.Expression.Parse
import TypeReach.Graph.Environment
import TypeReach.Walk.Walker

/-!
# Look-ups in an environment

An environment as a metadata provider. Expressions are parsed when they are asked for, and the
provider remembers what it has parsed. Attribute values that name a type are resolved when they are
read: directly, or as an item of a list.
-/

namespace TypeReach.Graph

/-- The references parsed so far, by expression. -/
abbrev Parses := Table (TypeRef Descriptor)

/-- A look-up that remembers parses. -/
abbrev GraphLookup (β : Type) := Lookup Parses β

/-- An annotation met in an environment. -/
abbrev GraphAnnotationUse := AnnotationUse Descriptor AnnotationDefinition

namespace Environment

variable (e : Environment)

/-- The reference of an expression, remembered or parsed now. -/
def parsed (expression : String) : GraphLookup (TypeRef Descriptor) := fun parses =>
  match parses.get? expression with
  | some r => .ok r parses
  | none =>
    match Expression.read e.handle expression with
    | .ok r => .ok r (parses.put expression r)
    | .error fault => .error fault parses

/-- The reference in a slot, which is empty if nothing is written there. -/
def slot : Option String → GraphLookup (TypeRef Descriptor)
  | none => pure .absent
  | some expression => e.parsed expression

/-- The references of several expressions. -/
def parsedAll (expressions : List String) : GraphLookup (List (TypeRef Descriptor)) :=
  expressions.mapM e.parsed

/-- The annotations that are written in a place. -/
def annotationSet (definitions : List AnnotationDefinition) : List GraphAnnotationUse :=
  definitions.map fun a => { descriptor := e.handle a.type, value := a }

/-- The definition behind a descriptor. -/
def definition (d : Descriptor) : GraphLookup TypeDefinition :=
  match e.lookup d.typeName with
  | some definition => pure definition
  | none => throw (.linkage ("No definition found for type " ++ d.typeName) (some d.typeName))

/-- A method with its references parsed. -/
def resolveMethod (m : MethodDefinition) :
    GraphLookup (Method Descriptor AnnotationDefinition) := do
  let returns ← e.slot m.returns
  let raises ← e.parsedAll m.raises
  let parameters ← m.parameters.mapM fun p => e.slot p.type
  return {
    name := m.name, returns, raises, parameters
    parameterAnnotations := m.parameters.map fun p => e.annotationSet p.annotations }

/-- A constructor of the type `owner` with its references parsed. -/
def resolveConstructor (owner : String) (c : ConstructorDefinition) :
    GraphLookup (Constructor Descriptor AnnotationDefinition) := do
  let raises ← e.parsedAll c.raises
  let parameters ← c.parameters.mapM fun p => e.slot p.type
  return {
    name := owner, raises, parameters
    parameterAnnotations := c.parameters.map fun p => e.annotationSet p.annotations }

/-- A field with its reference parsed. -/
def resolveField (f : FieldDefinition) : GraphLookup (Field Descriptor AnnotationDefinition) := do
  let type ← e.slot f.type
  return { name := f.name, type, annotations := e.annotationSet f.annotations }

/-- A value with the type that it names resolved. -/
def force : Value → Except Fault Value
  | .typeName name => if e.defines name then .ok (.handle name) else .error (.notPresent name none)
  | v => .ok v

/-- The value of an attribute as it is read. -/
def read (a : AnnotationDefinition) (accessor : String) : Except Fault Value :=
  match a.attributes.get? accessor with
  | none => .error (.other .key accessor)
  | some (.restricted reason) => .error (.restricted (a.type ++ "." ++ accessor ++ ": " ++ reason))
  | some (.list items) => do return .tuple (← items.mapM e.force)
  | some (.tuple items) => do return .tuple (← items.mapM e.force)
  | some v => e.force v

/-- The annotations of the package that a definition names; a package that is not defined has
none. -/
def packageSet (d : TypeDefinition) : Option (List GraphAnnotationUse) :=
  d.package.map fun name =>
    match e.package name with
    | some p => e.annotationSet p.annotations
    | none => []

/-- The environment as a provider. -/
def provider : Provider Parses Descriptor AnnotationDefinition Value where
  typeName := Descriptor.typeName
  shown := Descriptor.shown
  methods d := do (← e.definition d).methods.mapM e.resolveMethod
  constructors d := do
    let definition ← e.definition d
    definition.constructors.mapM (e.resolveConstructor definition.name)
  fields d := do (← e.definition d).fields.mapM e.resolveField
  supertype d := do e.slot (← e.definition d).supertype
  interfaces d := do e.parsedAll (← e.definition d).interfaces
  annotations d := return e.annotationSet (← e.definition d).annotations
  packageAnnotations d := return e.packageSet (← e.definition d)
  accessors a := return a.value.attributes.names
  invoke a accessor := fun parses =>
    match e.read a.value accessor with
    | .ok v => .ok v parses
    | .error fault => .error fault parses

/-- A bound on the types that can be open at once: every open type but the innermost is defined,
and the root may be a second handle of a defined name. -/
def depth : Nat := e.size + 2

end Environment

end TypeReach.Graph
