import TypeReach.Classes.Hint
import TypeReach.Data.Plain
import TypeReach.Reference

/-!
# References of hints

What a hint says about types, as a reference. Hints that name no type give an empty slot, and empty
slots inside a reference are left out. A type variable is a wildcard below its bounds; inside its
own bounds it is left out.
-/

namespace TypeReach.Classes

/-- What a walk visits: a class, or a value that is none. -/
inductive Descriptor where
  | cls (c : ClassId)
  | plain (value : Plain)
  deriving DecidableEq, Repr, Inhabited

namespace Descriptor

/-- The value that a descriptor is, if it is no class. -/
def plain? : Descriptor → Option Plain
  | plain value => some value
  | _ => none

/-- The descriptor by which a descriptor is known, among those that are known: classes are known by
themselves. -/
def recognise (known : List Descriptor) : Descriptor → Descriptor
  | plain value => plain (value.recognise (known.filterMap plain?))
  | d => d

end Descriptor

/-- The references that are no empty slots. -/
def filled (references : List (TypeRef Descriptor)) : List (TypeRef Descriptor) :=
  references.filter fun
    | .absent => false
    | _ => true

/-- An array, unless its component is an empty slot. -/
def arrayOf : TypeRef Descriptor → TypeRef Descriptor
  | .absent => .absent
  | component => .array component

/-- The component of the arguments that mean an array. -/
def component? : List Object → Option Object
  | [component, .rest] => some component
  | _ => none

/-- The objects in a list, or the object itself. -/
def listed : Object → List Object
  | .list items => items
  | o => [o]

/-- The types among the arguments of a class. A list stands for its items, and what a function takes
is a list unless it is given as one object. -/
def argumentTypes (origin : ClassId) (arguments : List Object) : List Object :=
  if origin == .callable && !takesOne arguments then
    arguments.dropLast ++ (arguments.getLast?.map listed).getD []
  else arguments.flatMap listed

namespace Universe

variable (u : Universe)

/-- The types that a type variable is bound by. -/
def boundsOf (index : Nat) : List Object :=
  ((u.typeVariables[index]?).map TypeVariable.bounds).getD []

/-- The reference of a hint that is met in a module, in at most `n` steps down. The type variables
in `opened` are those that the hint is a bound of. -/
def referenceWithin (module : Option String) :
    Nat → List Nat → Object → Except Fault (TypeRef Descriptor)
  | 0, _, _ => .error .nestedTooDeep
  | n + 1, opened, o =>
    let inner := referenceWithin module n opened
    let all := fun (os : List Object) => do return filled (← os.mapM inner)
    let ofClass := fun (c : ClassId) => TypeRef.concrete (Descriptor.cls c)
    match o with
    | .cls c => .ok (if c == .generic then .parameterized (ofClass c) [] else ofClass c)
    | .typeVar index =>
      if opened.contains index then .ok .absent
      else do
        let bounds ← ((u.boundsOf index).flatMap listed).mapM
          (referenceWithin module n (index :: opened))
        return .wildcard [] (filled bounds)
    | .forward _ text _ => do inner (← u.resolveName module text)
    | .annotated hint _ => inner hint
    | .wrapped .spread hint => return .parameterized .absent (← all [hint])
    | .wrapped _ hint => inner hint
    | .union members | .either members =>
      return .parameterized .absent (← all (members.flatMap listed))
    | .applied _ origin arguments =>
      match (if origin == .builtin "tuple" then component? arguments else none) with
      | some component => return arrayOf (← inner component)
      | none =>
        return .parameterized (ofClass origin) (← all (argumentTypes origin arguments))
    | .parameters arguments => return .parameterized (ofClass .generic) (← all arguments)
    | .record c fields =>
      match u.classFault? (.record c fields) with
      | some fault => .error fault
      | none => .ok .absent
    | _ => .ok .absent

/-- The reference of a hint that is met in a module. -/
def reference (module : Option String) (hint : Object) : Except Fault (TypeRef Descriptor) :=
  u.referenceWithin module (u.depth hint) [] hint

/-- The reference of a hint and its outermost annotations. -/
def split (module : Option String) : Object → Except Fault (TypeRef Descriptor × List Object)
  | .annotated hint annotations => return (← u.reference module hint, annotations)
  | hint => return (← u.reference module hint, [])

/-- The reference and the annotations of a slot that may have no hint. -/
def splitSlot (module : Option String) : Option Object →
    Except Fault (TypeRef Descriptor × List Object)
  | none => .ok (.absent, [])
  | some hint => u.split module hint

/-- The base that only declares the parameters of a class, or the root of all classes. -/
def isSilentBase : Object → Bool
  | .cls c => c == .builtin "object" || c == .generic
  | .parameters _ => true
  | _ => false

/-- The references of the bases of a class. -/
def baseReferences (module : Option String) (bases : List Object) :
    Except Fault (List (TypeRef Descriptor)) := do
  return filled (← (bases.filter fun b => !isSilentBase b).mapM (u.reference module))

/-- What a function declares to raise, one by one. -/
def raisedItems (raises : Option Object) : List Object :=
  match raises, raises.map u.plainOf with
  | none, _ => []
  | some _, some (.list items) | some _, some (.tuple items) => items
  | some o, _ => [o]

/-- The references of what a function declares to raise. -/
def raisedReferences (module : Option String) (raises : Option Object) :
    Except Fault (List (TypeRef Descriptor)) := do
  return filled (← (u.raisedItems raises).mapM fun o => do u.reference module (← u.force module o))

end Universe

end TypeReach.Classes
