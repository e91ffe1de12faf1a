import TypeReach.Data.Value

/-!
# Objects of described modules

The modules of a universe hold objects: plain values, classes, records of a class, and the hints
that signatures are written with. A hint is an object too, so that a name may stand for one. A text
inside a hint is a formula that is evaluated later.
-/

namespace TypeReach.Classes

/-- Which class: a standard one, by its module and name, or the one declared at a position. -/
inductive ClassId where
  | standard (module name : String)
  | declared (index : Nat)
  deriving DecidableEq, Repr, Inhabited

namespace ClassId

/-- A class that is known without a module. -/
def builtin (name : String) : ClassId := .standard "builtins" name

/-- The class that classes with parameters have above them. -/
def generic : ClassId := .standard "typing" "Generic"

/-- The class of functions as hints have it. -/
def callable : ClassId := .standard "collections.abc" "Callable"

end ClassId

/-- A form of hints that is no class. -/
inductive Form where
  /-- An attribute of the class and not of its records. -/
  | classWide
  /-- An attribute that is not set twice. -/
  | final
  /-- One of several types. -/
  | union
  /-- One of several values. -/
  | literal
  /-- The parts of a type in its place. -/
  | spread
  deriving DecidableEq, Repr, Inhabited

/-- The name of a form. -/
def Form.name : Form → String
  | classWide => "ClassVar"
  | final => "Final"
  | union => "Union"
  | literal => "Literal"
  | spread => "Unpack"

/-- How a class was applied to arguments. -/
inductive Application where
  /-- By its own brackets: a standard class takes any arguments as they are. -/
  | plain
  /-- As a hint: the arguments are parts of it. -/
  | hint
  /-- As the hint of a function, whose last argument is its result. -/
  | function
  deriving DecidableEq, Repr, Inhabited

/-- An object of a described module. -/
inductive Object where
  | null
  | bool (b : Bool)
  | int (n : Int)
  | double (x : Double)
  | str (s : String)
  | list (items : List Object)
  | tuple (items : List Object)
  /-- Keys, each with a value. -/
  | mapping (entries : List (Object × Object))
  /-- A record of a class, with what was stored in it. -/
  | record (of : ClassId) (fields : List (String × Object))
  /-- A class. -/
  | cls (c : ClassId)
  /-- A formula that is evaluated when it is needed; what it stood for may be kept under its number.
  A lenient one may stand for a form. -/
  | forward (number : Option Nat) (text : String) (lenient : Bool)
  /-- The type variable declared at a position. -/
  | typeVar (index : Nat)
  /-- A hint for any type at all. -/
  | anything
  /-- The mark for the rest of a list of arguments. -/
  | rest
  /-- A form without a hint in it. -/
  | bare (f : Form)
  /-- A hint for one of some values. -/
  | literal (values : List Object)
  /-- A hint in a form. -/
  | wrapped (f : Form) (hint : Object)
  /-- A hint with annotations. -/
  | annotated (hint : Object) (annotations : List Object)
  /-- One of several types, as a hint. -/
  | union (members : List Object)
  /-- One of several types, by the operator of classes. -/
  | either (members : List Object)
  /-- A class applied to arguments. -/
  | applied (how : Application) (origin : ClassId) (arguments : List Object)
  /-- The base that declares the parameters of a class. -/
  | parameters (arguments : List Object)
  /-- The ends and the step of a stretch of a row. -/
  | slice (start stop step : Object)
  /-- A function or another part of a class, by the class that it is from and its name. What is from
  no class is from a module. -/
  | feature (of : ClassId) (owner : Option ClassId) (name : String)
  /-- Anything of which only the class matters. -/
  | thing (of : ClassId)
  deriving Inhabited

/-- The object that a class is. -/
def ClassId.object (c : ClassId) : Object :=
  if c == .standard "typing" "Any" then .anything else .cls c

namespace Object

/-- The class of nothing. -/
def nullClass : Object := .cls (.builtin "NoneType")

/-- Something of a built-in class of which only the class matters. -/
def ofBuiltin (className : String) : Object := .thing (.builtin className)

/-- Whether an object is a class; the hint for any type at all is one. -/
def isClass : Object → Bool
  | cls _ | anything => true
  | _ => false

/-- The class of an object. -/
def classOf : Object → ClassId
  | null => .builtin "NoneType"
  | bool _ => .builtin "bool"
  | int _ => .builtin "int"
  | double _ => .builtin "float"
  | str _ => .builtin "str"
  | list _ => .builtin "list"
  | tuple _ => .builtin "tuple"
  | mapping _ => .builtin "dict"
  | record c _ => c
  | cls (.standard "collections.abc" _) => .standard "abc" "ABCMeta"
  | cls (.standard "collections" name) =>
    if ["ChainMap", "UserDict", "UserList", "UserString"].contains name then
      .standard "abc" "ABCMeta"
    else .builtin "type"
  | cls _ => .builtin "type"
  | forward .. => .standard "typing" "ForwardRef"
  | typeVar _ => .standard "typing" "TypeVar"
  | anything => .standard "typing" "_AnyMeta"
  | rest => .builtin "ellipsis"
  | bare .literal => .standard "typing" "_LiteralSpecialForm"
  | bare _ => .standard "typing" "_SpecialForm"
  | literal _ => .standard "typing" "_LiteralGenericAlias"
  | wrapped .spread _ => .standard "typing" "_UnpackGenericAlias"
  | wrapped .. => .standard "typing" "_GenericAlias"
  | annotated .. => .standard "typing" "_AnnotatedAlias"
  | union _ => .standard "typing" "_UnionGenericAlias"
  | either _ => .standard "types" "UnionType"
  | applied .plain .. => .standard "types" "GenericAlias"
  | applied .hint .. => .standard "typing" "_GenericAlias"
  | applied .function .. => .standard "typing" "_CallableGenericAlias"
  | parameters _ => .standard "typing" "_GenericAlias"
  | slice .. => .builtin "slice"
  | feature c _ _ => c
  | thing c => c

mutual

/-- The number of nodes and characters of an object. -/
def size : Object → Nat
  | list items | tuple items | literal items | union items | either items | applied _ _ items
  | parameters items => sizeList items + 1
  | mapping entries => sizeEntries entries + 1
  | record _ fields => sizeFields fields + 1
  | str s => s.length + 1
  | forward _ text _ => text.length + 1
  | wrapped _ hint => hint.size + 1
  | annotated hint items => hint.size + sizeList items + 1
  | slice start stop step => start.size + stop.size + step.size + 1
  | _ => 1

/-- The size of several objects. -/
def sizeList : List Object → Nat
  | [] => 0
  | o :: os => o.size + sizeList os

/-- The size of keys and values. -/
def sizeEntries : List (Object × Object) → Nat
  | [] => 0
  | (k, v) :: es => k.size + v.size + sizeEntries es

/-- The size of what a record holds. -/
def sizeFields : List (String × Object) → Nat
  | [] => 0
  | (_, o) :: fs => o.size + sizeFields fs

end

mutual

/-- The type variables in a hint, with repetition. -/
def freeVariables : Object → List Nat
  | typeVar index => [index]
  | wrapped _ hint | annotated hint _ => hint.freeVariables
  | union items | either items | applied _ _ items | parameters items => freeVariablesOfList items
  | _ => []

/-- The type variables in several hints. -/
def freeVariablesOfList : List Object → List Nat
  | [] => []
  | o :: os => o.freeVariables ++ freeVariablesOfList os

end

/-! ### Numbers of formulas -/

mutual

/-- An object whose formulas are numbered from `n` on, in order. -/
def numbered (n : Nat) : Object → Object × Nat
  | forward none text lenient => (forward (some n) text lenient, n + 1)
  | list items => let (os, n) := numberedList n items; (list os, n)
  | tuple items => let (os, n) := numberedList n items; (tuple os, n)
  | record c fields => let (fs, n) := numberedFields n fields; (record c fs, n)
  | literal values => let (os, n) := numberedList n values; (literal os, n)
  | wrapped f hint => let (o, n) := numbered n hint; (wrapped f o, n)
  | annotated hint annotations =>
    let (o, n) := numbered n hint
    let (os, n) := numberedList n annotations
    (annotated o os, n)
  | union members => let (os, n) := numberedList n members; (union os, n)
  | either members => let (os, n) := numberedList n members; (either os, n)
  | applied how origin arguments =>
    let (os, n) := numberedList n arguments
    (applied how origin os, n)
  | parameters arguments => let (os, n) := numberedList n arguments; (parameters os, n)
  | o => (o, n)

/-- Objects whose formulas are numbered from `n` on. -/
def numberedList (n : Nat) : List Object → List Object × Nat
  | [] => ([], n)
  | o :: os =>
    let (o, n) := numbered n o
    let (os, n) := numberedList n os
    (o :: os, n)

/-- What a record holds, with formulas numbered from `n` on. -/
def numberedFields (n : Nat) : List (String × Object) → List (String × Object) × Nat
  | [] => ([], n)
  | (name, o) :: fs =>
    let (o, n) := numbered n o
    let (fs, n) := numberedFields n fs
    ((name, o) :: fs, n)

end

/-! ### Hints put together -/

/-- An object as a part of a hint: a text becomes a formula, and nothing becomes its class. -/
def partOf (lenient : Bool) : Object → Object
  | str s => forward none s lenient
  | null => nullClass
  | o => o

/-- An object as a part of a hint in which no form stands by itself. -/
def part : Object → Object := partOf false

/-- A hint with annotations after those that it has. -/
def annotate (hint : Object) (annotations : List Object) : Object :=
  match hint with
  | annotated inner earlier => annotated inner (earlier ++ annotations)
  | o => annotated o annotations

/-- A function type: what it takes, if that is said, and what it returns. -/
def callable (takes : Option (List Object)) (returns : Object) : Object :=
  applied .function .callable ((takes.getD [rest] ++ [returns]).map part)

end Object

end TypeReach.Classes
