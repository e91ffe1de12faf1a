import TypeReach.Reference

/-!
# Members of a type

What a type declares: methods, constructors and fields, with the references and annotations in
their signatures. An annotation is a live instance `α` together with the descriptor `δ` of its type.
-/

namespace TypeReach

/-- An annotation instance with the descriptor of its type. -/
structure AnnotationUse (δ α : Type) where
  descriptor : δ
  value : α

/-- A declared method. -/
structure Method (δ α : Type) where
  name : String
  returns : TypeRef δ
  raises : List (TypeRef δ)
  parameters : List (TypeRef δ)
  parameterAnnotations : List (List (AnnotationUse δ α))

/-- A declared constructor, which has no return type. -/
structure Constructor (δ α : Type) where
  name : String
  raises : List (TypeRef δ)
  parameters : List (TypeRef δ)
  parameterAnnotations : List (List (AnnotationUse δ α))

/-- A declared field. -/
structure Field (δ α : Type) where
  name : String
  type : TypeRef δ
  annotations : List (AnnotationUse δ α)

end TypeReach
