import TypeReach.Expression.Parse
import TypeReach.Graph.Environment

/-!
# Loading an environment from data

Graph data is a mapping with the sections `packages` and `types`. Most parts have a short form: a
single value where a list is expected, nothing where a list or mapping is expected, a bare
expression for a field or parameter, and a bare name for an annotation. Expressions are parsed here
only to refuse malformed ones early. Keys and names are written out as text, which fails for an
integer that is too long.
-/

namespace TypeReach.Graph

open Expression (ParseError)

/-- What is wrong with graph data. -/
inductive LoadError where
  /-- The data is no mapping. -/
  | notMapping
  /-- A part is no mapping. -/
  | expectedMapping (context : String)
  /-- An annotation has no type. -/
  | annotationWithoutType
  /-- A value stands where an expression is expected. -/
  | notExpression (shown : String)
  /-- An expression does not parse. -/
  | expression (source : String) (why : ParseError)
  /-- An integer is too long to be written out. -/
  | unwritable
  deriving DecidableEq, Repr, Inhabited

/-- What is said about graph data that cannot be loaded. -/
def LoadError.message : LoadError → String
  | notMapping => "Graph file must contain a mapping at the root"
  | expectedMapping context => "Expected a mapping for " ++ context
  | annotationWithoutType => "Annotation entries require a 'type' key"
  | notExpression shown => "Type expressions must be strings, got " ++ shown
  | expression source why => why.message source
  | unwritable => Decimal.tooLongMessage

/-- Graph data that cannot be loaded, as a fault. -/
def LoadError.toFault : LoadError → Fault
  | unwritable => .other .value unwritable.message
  | why => .unusable why.message

/-- A value as plain text. -/
def textOf (v : Value) : Except LoadError String :=
  match v.text? with
  | some text => .ok text
  | none => .error .unwritable

/-- The entries of a mapping; null counts as an empty one. -/
def asMapping (v : Value) (context : String) : Except LoadError (List (Value × Value)) :=
  match v.opened with
  | .null => .ok []
  | .map entries => .ok entries
  | _ => .error (.expectedMapping context)

/-- The items of a list; null counts as an empty list, and any other value as its only item. -/
def asList (v : Value) : List Value :=
  match v.opened with
  | .null => []
  | .list items => items
  | _ => [v]

/-- An expression, or none for null. -/
def expression? : Value → Except LoadError (Option String)
  | .null => .ok none
  | .str s =>
    match Expression.parse s with
    | .ok _ => .ok (some s)
    | .error why => .error (.expression s why)
  | v =>
    match v.shown? with
    | some shown => .error (.notExpression shown)
    | none => .error .unwritable

/-- The expressions of a list, without the null ones. -/
def expressions (v : Value) : Except LoadError (List String) := do
  return (← (asList v).mapM expression?).filterMap id

/-- The value of an attribute that is a mapping: it may name a type or forbid reading. -/
def attributeMapping (entries : List (Value × Value)) : Except LoadError Value :=
  match Value.fieldOf? entries "type_value" with
  | some name => do return .typeName (← textOf name)
  | none =>
    if (Value.fieldOf entries "restricted").isTruthy then do
      let reason := (Value.fieldOf? entries "reason").getD (.str "access denied")
      return .restricted (← textOf reason)
    else .ok (.map entries)

mutual

/-- The value of an attribute: a mapping may name a type or forbid reading, also inside lists. What
the value holds is laid open by `lay` first. -/
def attributeWithin (lay : Value → Value) : Value → Except LoadError Value
  | .map entries => attributeMapping (entries.map fun e => (lay e.1, lay e.2))
  | .list items => do return .list (← attributesWithin lay items)
  | .loop name body => attributeWithin (fun v => lay (Value.subst name (.loop name body) v)) body
  | v => .ok (lay v)

/-- The values of the items of a list. -/
def attributesWithin (lay : Value → Value) : List Value → Except LoadError (List Value)
  | [] => .ok []
  | v :: vs => do return (← attributeWithin lay v) :: (← attributesWithin lay vs)

end

/-- The value of an attribute. -/
def attributeValue : Value → Except LoadError Value :=
  attributeWithin id

/-- One attribute of an annotation: its name, and then its value. -/
def attributeEntry (entry : Value × Value) : Except LoadError (String × Value) := do
  return (← textOf entry.1, ← attributeValue entry.2)

/-- One annotation: a bare type name, or a mapping with a type and attributes. -/
def annotationEntry (v : Value) : Except LoadError AnnotationDefinition :=
  match v with
  | .str type => .ok { type }
  | v => do
    let entries ← asMapping v "annotation"
    match Value.fieldOf? entries "type" with
    | none => .error .annotationWithoutType
    | some type =>
      let attributes ← asMapping (Value.fieldOf entries "attributes") "annotation attributes"
      let attributes ← attributes.mapM attributeEntry
      return { type := ← textOf type, attributes := .ofEntries attributes }

/-- The annotations of a list. -/
def annotations (v : Value) : Except LoadError (List AnnotationDefinition) :=
  (asList v).mapM annotationEntry

/-- One parameter: an expression, or a mapping with a type and annotations. -/
def parameter (v : Value) : Except LoadError ParameterDefinition :=
  match v.opened with
  | .map entries => do
    let type ← expression? (Value.fieldOf entries "type")
    let annotations ← annotations (Value.fieldOf entries "annotations")
    return { type, annotations }
  | _ => do
    let type ← expression? v
    return { type }

/-- The parameters of a list. -/
def parameters (v : Value) : Except LoadError (List ParameterDefinition) :=
  (asList v).mapM parameter

/-- One method of the type `owner`. -/
def method (owner : String) (entry : Value × Value) : Except LoadError MethodDefinition := do
  let name ← textOf entry.1
  let body ← asMapping entry.2 ("method " ++ owner ++ "." ++ name)
  let returns ← expression? (Value.fieldOf body "returns")
  let raises ← expressions (Value.fieldOf body "raises")
  let parameters ← parameters (Value.fieldOf body "parameters")
  return { name, returns, raises, parameters }

/-- One constructor of the type `owner`. -/
def constructor (owner : String) (v : Value) : Except LoadError ConstructorDefinition := do
  let body ← asMapping v ("constructor of " ++ owner)
  let raises ← expressions (Value.fieldOf body "raises")
  let parameters ← parameters (Value.fieldOf body "parameters")
  return { raises, parameters }

/-- One field: an expression, or a mapping with a type and annotations. -/
def field (entry : Value × Value) : Except LoadError FieldDefinition := do
  let name ← textOf entry.1
  match entry.2.opened with
  | .map body =>
    let type ← expression? (Value.fieldOf body "type")
    let annotations ← annotations (Value.fieldOf body "annotations")
    return { name, type, annotations }
  | _ =>
    let type ← expression? entry.2
    return { name, type }

/-- The name of a package, or none for null. -/
def packageName? : Value → Except LoadError (Option String)
  | .null => .ok none
  | v => do return some (← textOf v)

/-- One entry of the section `types`. -/
def typeDefinition (entry : Value × Value) : Except LoadError TypeDefinition := do
  let name ← textOf entry.1
  let body ← asMapping entry.2 ("type " ++ name)
  let methods ← (← asMapping (Value.fieldOf body "methods") (name ++ ".methods")).mapM (method name)
  let constructors ← (asList (Value.fieldOf body "constructors")).mapM (constructor name)
  let fields ← (← asMapping (Value.fieldOf body "fields") (name ++ ".fields")).mapM field
  let supertype ← expression? (Value.fieldOf body "supertype")
  let interfaces ← expressions (Value.fieldOf body "interfaces")
  let annotations ← annotations (Value.fieldOf body "annotations")
  let package ← packageName? (Value.fieldOf body "package")
  return {
    name, methods, constructors, fields, supertype, interfaces, annotations, package }

/-- One entry of the section `packages`. -/
def packageDefinition (entry : Value × Value) : Except LoadError PackageDefinition := do
  let name ← textOf entry.1
  let body ← asMapping entry.2 ("package " ++ name)
  let annotations ← annotations (Value.fieldOf body "annotations")
  return { name, annotations }

/-- The environment that graph data describes. -/
def Environment.ofValue (data : Value) : Except LoadError Environment :=
  match data.opened with
  | .map entries => do
    let packages ←
      (← asMapping (Value.fieldOf entries "packages") "packages").mapM packageDefinition
    let types ← (← asMapping (Value.fieldOf entries "types") "types").mapM typeDefinition
    return .ofDefinitions types packages
  | _ => .error .notMapping

end TypeReach.Graph
