import TypeReach.Fault
import TypeReach.Member

/-!
# Metadata providers

A provider answers what a type declares. Every look-up may fail, and may change what the provider
remembers, so it is a step on the provider's memory `σ`.
-/

namespace TypeReach

/-- A look-up on the memory of a provider. -/
abbrev Lookup (σ β : Type) := EStateM Fault σ β

/-- A source of what types declare. Descriptors are `δ`, annotation instances `α`, and the values
of their attributes `ν`. -/
structure Provider (σ δ α ν : Type) where
  /-- The name of a type for messages. -/
  typeName : δ → String
  /-- How a descriptor prints. -/
  shown : δ → String
  methods : δ → Lookup σ (List (Method δ α))
  constructors : δ → Lookup σ (List (Constructor δ α))
  fields : δ → Lookup σ (List (Field δ α))
  /-- The supertype, or an empty slot. -/
  supertype : δ → Lookup σ (TypeRef δ)
  interfaces : δ → Lookup σ (List (TypeRef δ))
  annotations : δ → Lookup σ (List (AnnotationUse δ α))
  /-- The annotations of the enclosing package, if there is one. -/
  packageAnnotations : δ → Lookup σ (Option (List (AnnotationUse δ α)))
  /-- The names of the attributes of an annotation. -/
  accessors : AnnotationUse δ α → Lookup σ (List String)
  /-- The value of an attribute; types that it names are resolved. -/
  invoke : AnnotationUse δ α → String → Lookup σ ν
  /-- The name of a type, asked for when a walk reports something about it. -/
  naming : δ → Lookup σ String := fun d => pure (typeName d)

/-- A question put to a provider, with the name of the type it is about. -/
inductive Call where
  | methods (type : String)
  | constructors (type : String)
  | fields (type : String)
  | supertype (type : String)
  | interfaces (type : String)
  | annotations (type : String)
  | package (type : String)
  | accessors (type : String)
  | invoke (type accessor : String)
  deriving DecidableEq, Repr, Inhabited

namespace Call

/-- A call as a line of a trace. -/
def text : Call → String
  | methods t => "methods " ++ t
  | constructors t => "constructors " ++ t
  | fields t => "fields " ++ t
  | supertype t => "supertype " ++ t
  | interfaces t => "interfaces " ++ t
  | annotations t => "annotations " ++ t
  | package t => "package " ++ t
  | accessors t => "accessors " ++ t
  | invoke t a => "invoke " ++ t ++ " " ++ a

end Call

end TypeReach
