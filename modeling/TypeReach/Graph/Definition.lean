import TypeReach.Data.Table
import TypeReach.Data.Value

/-!
# Definitions of types and packages

A definition states what a type declares, with every reference still written as an expression and
every annotation by the name of its type and the values of its attributes.
-/

namespace TypeReach.Graph

/-- An annotation as written: its type and its attributes in order. -/
structure AnnotationDefinition where
  type : String
  attributes : Table Value := .empty

/-- A parameter as written. -/
structure ParameterDefinition where
  type : Option String := none
  annotations : List AnnotationDefinition := []

/-- A method as written. -/
structure MethodDefinition where
  name : String
  returns : Option String := none
  raises : List String := []
  parameters : List ParameterDefinition := []

/-- A constructor as written. -/
structure ConstructorDefinition where
  raises : List String := []
  parameters : List ParameterDefinition := []

/-- A field as written. -/
structure FieldDefinition where
  name : String
  type : Option String := none
  annotations : List AnnotationDefinition := []

/-- A package as written. -/
structure PackageDefinition where
  name : String
  annotations : List AnnotationDefinition := []

/-- A type as written. -/
structure TypeDefinition where
  name : String
  methods : List MethodDefinition := []
  constructors : List ConstructorDefinition := []
  fields : List FieldDefinition := []
  supertype : Option String := none
  interfaces : List String := []
  annotations : List AnnotationDefinition := []
  package : Option String := none

end TypeReach.Graph
