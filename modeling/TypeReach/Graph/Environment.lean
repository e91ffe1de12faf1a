import TypeReach.Data.Plain
import TypeReach.Graph.Definition
import TypeReach.Fault

/-!
# Environments of types

An environment holds the definitions of types and packages by name. A type has the same handle
whether or not it is defined: the environment's handle of a name is the name itself, and it differs
from every handle made elsewhere.
-/

namespace TypeReach.Graph

/-- What stands for a type: a handle of the environment, a handle made elsewhere, or some other
value. -/
inductive Descriptor where
  | named (name : String)
  | foreign (name : String) (id : Int)
  | plain (value : Plain)
  deriving DecidableEq, Repr, Inhabited

namespace Descriptor

/-- The name of a type: that of a handle, or the printed form of another value. -/
def typeName : Descriptor → String
  | named name => name
  | foreign name _ => name
  | plain value => value.shown

/-- How a descriptor prints. -/
def shown : Descriptor → String
  | named name => (Value.handle name).shown
  | foreign name _ => (Value.handle name).shown
  | plain value => value.shown

/-- The value that a descriptor is, if it is no handle. -/
def plain? : Descriptor → Option Plain
  | plain value => some value
  | _ => none

/-- The descriptor by which a descriptor is known, among those that are known: handles are known by
themselves. -/
def recognise (known : List Descriptor) : Descriptor → Descriptor
  | plain value => plain (value.recognise (known.filterMap plain?))
  | d => d

/-- Whether two descriptors are equal. -/
def equals : Descriptor → Descriptor → Bool
  | plain a, plain b => a.equals b
  | a, b => a == b

/-- Whether two descriptors are one object. -/
def isOne : Descriptor → Descriptor → Bool
  | plain a, plain b => a.isOne b
  | a, b => a == b

end Descriptor

/-- Definitions of types and packages, by name. -/
structure Environment where
  types : Table TypeDefinition := .empty
  packages : Table PackageDefinition := .empty

namespace Environment

/-- Defines a type under its name; an earlier definition is replaced. -/
def define (e : Environment) (d : TypeDefinition) : Environment :=
  { e with types := e.types.put d.name d }

/-- Defines a package under its name; an earlier definition is replaced. -/
def definePackage (e : Environment) (p : PackageDefinition) : Environment :=
  { e with packages := e.packages.put p.name p }

/-- Removes the definition of a type, if there is one. -/
def undefine (e : Environment) (name : String) : Environment :=
  { e with types := e.types.erase name }

/-- The handle of a name. -/
def handle (_ : Environment) (name : String) : Descriptor := .named name

/-- The definition of a type. -/
def lookup (e : Environment) (name : String) : Option TypeDefinition := e.types.get? name

/-- The definition of a package. -/
def package (e : Environment) (name : String) : Option PackageDefinition := e.packages.get? name

/-- Whether a type is defined. -/
def defines (e : Environment) (name : String) : Bool := e.types.contains name

/-- The number of defined types. -/
def size (e : Environment) : Nat := e.types.size

/-- The environment of some definitions. -/
def ofDefinitions (types : List TypeDefinition) (packages : List PackageDefinition) : Environment :=
  packages.foldl definePackage (types.foldl define {})

end Environment

end TypeReach.Graph
