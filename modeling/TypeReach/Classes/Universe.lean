import TypeReach.Classes.Contents
import TypeReach.Classes.Equality
import TypeReach.Classes.Parameter
import TypeReach.Classes.Standard
import TypeReach.Data.Table

/-!
# Universes of classes

A universe is a set of modules that can be imported, with the classes declared in them. A class is
declared empty, so that others can refer to it, and completed later. What its formulas stood for
when they were evaluated may be kept.
-/

namespace TypeReach.Classes

/-- A function of a class: the name that it has in messages, the module whose names its hints are
read with, what it takes, what it declares to raise, and what comes of calling it. -/
structure Function where
  name : String
  home : String
  takes : List Parameter := [{ name := "self" }]
  /-- The hints by what they are for: the parameters as they are written, and then the result. -/
  hints : List (String × Object) := []
  raises : Option Object := none
  outcome : Except Fault Object := .ok .null
  deriving Inhabited

namespace Function

/-- A function by its parameters as they are written, each with its hint, and the hint of what it
returns. -/
def ofWritten (name home : String) (written : List (String × Option Object))
    (returns : Option Object) : Function where
  name
  home
  takes := Parameter.read (written.map Prod.fst)
  hints := (Table.ofEntries (written.filterMap fun p =>
      p.2.map fun hint => (Parameter.spelling p.1, hint))).entries
    ++ (returns.map fun hint => ("return", hint)).toList

/-- What comes of calling a function. -/
def called (f : Function) (call : Call) : Except Fault Object := do
  call.require f.name f.takes
  f.outcome

end Function

/-- What stands under a name in a class. -/
inductive Attribute where
  | function (f : Function)
  /-- A function that gets no record. -/
  | static (f : Function)
  /-- A function that gets the class. -/
  | classMethod (f : Function)
  /-- A value that is computed when it is read, if there is a function for that. -/
  | property (getter : Option Function)
  | value (o : Object)
  deriving Inhabited

/-- The function that is called under a name of a class, if there is one. -/
def Attribute.function? : Attribute → Option Function
  | function f | static f | classMethod f => some f
  | property getter => getter
  | value _ => none

/-- An attribute as the class `c` holds it under a name. -/
def Attribute.held (c : ClassId) (name : String) : Attribute → Object
  | function _ => .feature (.builtin "function") (some c) name
  | static _ => .ofBuiltin "staticmethod"
  | classMethod _ => .ofBuiltin "classmethod"
  | property _ => .ofBuiltin "property"
  | value o => o

/-- A field that records of a class may be made of. -/
structure RecordField where
  hint : Object
  /-- Whether the class has it and not its records. -/
  isClassWide : Bool
  /-- What records have under it unless something else is given. -/
  standard : Option Object
  deriving Inhabited

/-- The last part of a dotted name. -/
def lastPart (qualname : String) : String :=
  (Text.cutAt '.' qualname).getLastD ""

/-- The parts of a dotted name before the last, with the last. -/
def splitLast (qualname : String) : String × String :=
  let parts := Text.cutAt '.' qualname
  (".".intercalate parts.dropLast, parts.getLastD "")

/-- A declared class. -/
structure ClassInfo where
  /-- The module that the class is declared to be from, if any. -/
  module : Option String
  /-- The name of the class with those of the classes around it. -/
  qualname : String
  /-- The name of the class by itself. -/
  name : String := lastPart qualname
  /-- The bases as they are written. -/
  bases : List Object := []
  /-- The classes that the bases are. -/
  parents : List ClassId := []
  /-- The class and its ancestors, in order. -/
  order : List ClassId := []
  /-- The type variables that stand for the arguments of the class. -/
  parameters : List Nat := []
  attributes : Table Attribute := .empty
  /-- The hints of the fields that the class itself declares. -/
  fields : Table Object := .empty
  /-- If the fields make up the records of the class, those fields and the ones of its
  ancestors. -/
  recordFields : Option (Table RecordField) := none
  /-- What the class says that it is. -/
  documentation : Option String := none
  deriving Inhabited

/-- Whether the fields of a class make up its records. -/
def ClassInfo.isDataClass (i : ClassInfo) : Bool := i.recordFields.isSome

/-- A module that can be imported. -/
structure Module where
  attributes : Table Object := .empty
  deriving Inhabited

/-- A type variable, which has one bound, or several to choose from, or none. -/
structure TypeVariable where
  name : String
  bound : Option Object := none
  choices : List Object := []
  deriving Inhabited

/-- The types that a type variable is bound by. -/
def TypeVariable.bounds (v : TypeVariable) : List Object :=
  match v.bound with
  | some bound => [bound]
  | none => v.choices

/-- What numbered formulas stood for when they were evaluated, the latest first. -/
abbrev Settled := List (Nat × Object)

/-- Modules, the classes declared in them, and their type variables; how many formulas have a
number, and what some of them are known to stand for. -/
structure Universe where
  modules : Table Module := .empty
  classes : List ClassInfo := []
  typeVariables : List TypeVariable := []
  formulas : Nat := 0
  settled : Settled := []
  deriving Inhabited

namespace Universe

variable (u : Universe)

/-- The declaration of a class. -/
def info? : ClassId → Option ClassInfo
  | .declared index => u.classes[index]?
  | .standard .. => none

/-- What a class says that its module is. -/
def saidModule (c : ClassId) : Object :=
  match c, u.info? c with
  | .standard module _, _ => .str module
  | c, some i =>
    match i.attributes.get? "__module__" with
    | some a => a.held c "__module__"
    | none => (i.module.map Object.str).getD .null
  | _, none => .null

/-- The name of the module that a class says it is from. -/
def moduleOf (c : ClassId) : Option String :=
  match u.saidModule c with
  | .str module => some module
  | _ => none

/-- The name of a class inside its module. -/
def qualnameOf : ClassId → String
  | .standard _ name => name
  | c => ((u.info? c).map ClassInfo.qualname).getD ""

/-- The name of a class without those of the classes around it. -/
def plainName : ClassId → String
  | .standard _ name => lastPart name
  | c => ((u.info? c).map ClassInfo.name).getD ""

/-- The name of a class in messages about its objects. -/
def typeName : ClassId → String
  | .standard "types" name => "types." ++ name
  | .standard "collections" name =>
    if ["OrderedDict", "defaultdict", "deque"].contains name then "collections." ++ name else name
  | c => u.plainName c

/-- A plain value as a text by itself. -/
def plainText : Object → String
  | .null => "None"
  | .bool b => if b then "True" else "False"
  | .int n => toString n
  | .double x => x.text
  | .str s => s
  | .list [] => "[]"
  | .tuple [] => "()"
  | _ => ""

/-- The name of a class with its module. -/
def nameOf (c : ClassId) : String :=
  plainText (u.saidModule c) ++ "." ++ u.qualnameOf c

/-- How a class prints. -/
def shownClass (c : ClassId) : String :=
  let name := match u.moduleOf c with
    | none => u.plainName c
    | some "builtins" => u.plainName c
    | some module => module ++ "." ++ u.qualnameOf c
  "<class '" ++ name ++ "'>"

/-! ### Declarations -/

/-- A universe with a module changed. -/
def alterModule (name : String) (f : Module → Module) : Universe :=
  { u with modules := u.modules.put name (f ((u.modules.get? name).getD {})) }

/-- A universe with a class changed. -/
def alterClass (c : ClassId) (f : ClassInfo → ClassInfo) : Universe :=
  match c with
  | .declared index => { u with classes := u.classes.modify index f }
  | .standard .. => u

/-- Numbers the formulas in an object. -/
def number (o : Object) : Universe × Object :=
  let (o, formulas) := o.numbered u.formulas
  ({ u with formulas }, o)

/-- Puts an object under a name in a module. -/
def bind (module name : String) (o : Object) : Universe :=
  let (u, o) := u.number o
  u.alterModule module fun m => { m with attributes := m.attributes.put name o }

/-- Declares a type variable. -/
def addVariable (v : TypeVariable) : Universe × Object :=
  let (bound, n) := match v.bound with
    | some o => (o.numbered u.formulas).map some id
    | none => (none, u.formulas)
  let (choices, formulas) := Object.numberedList n v.choices
  ({ u with typeVariables := u.typeVariables ++ [{ v with bound, choices }], formulas },
    .typeVar u.typeVariables.length)

/-- The class that a dotted name stands for in a module, one class in another. -/
def classIn? (module qualname : String) : Option ClassId :=
  match Text.cutAt '.' qualname with
  | [] => none
  | head :: parts =>
    let start := match (u.modules.get? module).bind (·.attributes.get? head) with
      | some (.cls c) => some c
      | _ => none
    parts.foldl (fun c part =>
      match (c.bind u.info?).bind (·.attributes.get? part) with
      | some (.value (.cls inner)) => some inner
      | _ => none) start

/-- A class and its ancestors, in order. -/
def order : ClassId → List ClassId
  | .standard module name => Standard.order module name
  | c => ((u.info? c).map ClassInfo.order).getD [c]

/-- The class of an object. A class is of the kind that one of its ancestors is of, if that is no
plain one. -/
def classOf : Object → ClassId
  | .cls c =>
    (((u.order c).map fun d => d.object.classOf).find? (· != .builtin "type")).getD
      (.builtin "type")
  | o => o.classOf

/-- Adds a declared class under its name in a module, or in the class around it. -/
def addClass (home : String) (info : ClassInfo) : Universe × ClassId :=
  let c := ClassId.declared u.classes.length
  let v := { u with classes := u.classes ++ [{ info with order := c :: info.order }] }
  let (outer, name) := splitLast info.qualname
  match u.classIn? home outer with
  | some around =>
    (v.alterClass around fun i =>
      { i with attributes := i.attributes.put name (.value (.cls c)) }, c)
  | none => (v.bind home name (.cls c), c)

/-! ### Sizes -/

/-- What comes of a function. -/
def outcomes (f : Function) : List Object :=
  match f.outcome with
  | .ok o => [o]
  | .error _ => []

/-- The objects that a name in a class can lead to. -/
def attributeObjects (a : Attribute) : List Object :=
  match a, a.function? with
  | .value o, _ => [o]
  | _, some f => outcomes f
  | _, none => []

/-- The objects that records of a class may be made of. -/
def standards (i : ClassInfo) : List Object :=
  ((i.recordFields.map Table.entries).getD []).filterMap fun e => e.2.standard

/-- The objects that names can lead to. -/
def objects : List Object :=
  (u.modules.entries.flatMap fun m => m.2.attributes.entries.map Prod.snd)
    ++ (u.classes.flatMap fun i => (i.attributes.entries.flatMap fun e => attributeObjects e.2)
        ++ standards i ++ i.fields.entries.map Prod.snd ++ i.bases)
    ++ u.settled.map Prod.snd ++ u.typeVariables.flatMap TypeVariable.bounds

/-- The number of type variables and of the nodes that names can lead to. -/
def size : Nat := u.typeVariables.length + Object.sizeList u.objects

/-- A bound on how deep the names and variables in an object lead. -/
def depth (o : Object) : Nat :=
  Nat.pow (o.size + u.size + 2) 3

end Universe

end TypeReach.Classes
