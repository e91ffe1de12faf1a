import TypeReach.Classes.Reading
import TypeReach.Text.Blank

/-!
# Resolution of names

A name is resolved lazily, in the module of the class that holds it, when an attribute value is
read; the text `type:` marks such a name in a value. A name that stands for nothing there is taken
for a dotted name with a module to import. Roots are named with a colon after the module.
-/

namespace TypeReach.Classes

/-- Why a module cannot be imported. -/
inductive ImportProblem where
  /-- There is no such module. -/
  | noModule (name : String)
  /-- There is no such module, and the one before its last dot holds no modules. -/
  | noPackage (name parent : String)
  deriving DecidableEq, Repr

namespace ImportProblem

/-- What is said about a module that cannot be imported. -/
def message : ImportProblem → String
  | noModule name => "No module named " ++ Text.quoted name
  | noPackage name parent =>
    "No module named " ++ Text.quoted name ++ "; " ++ Text.quoted parent ++ " is not a package"

end ImportProblem

/-- Why an import fails. -/
inductive ImportError where
  | problem (why : ImportProblem)
  /-- No name is given. -/
  | emptyName
  /-- The name begins with a dot. -/
  | relative (name : String)
  /-- Looking for the modules in a package fails. -/
  | fault (why : Fault)

/-- The part of a text before a character, and the part after its first occurrence. -/
def cutFirst (c : Char) (s : String) : String × String :=
  let cs := s.toList
  (String.ofList (cs.takeWhile (· != c)), String.ofList ((cs.dropWhile (· != c)).drop 1))

/-- The part of a text before the last occurrence of a character, which is empty if there is none,
and the part after it. -/
def cutLast (c : Char) (s : String) : String × String :=
  let cs := s.toList.reverse
  (String.ofList ((cs.dropWhile (· != c)).drop 1).reverse,
    String.ofList (cs.takeWhile (· != c)).reverse)

/-- The mark of a lazy name in a text. -/
def lazyMark : String := "type:"

/-- The name in a text with the mark of a lazy name. -/
def lazyName? (s : String) : Option String :=
  if lazyMark.isPrefixOf s then
    some (Text.strip (String.ofList (s.toList.drop lazyMark.length)))
  else none

namespace Universe

variable (u : Universe)

/-- Whether a module is there. -/
def hasModule (name : String) : Bool :=
  u.modules.contains name || Standard.importable.contains name

/-- Where the modules in a module are looked for, unless it holds none. -/
def packagePath? (name : String) : Except Fault (Option Object) :=
  if !u.modules.contains name && Standard.packages.contains name then .ok (some (.list []))
  else match u.readModule name "__path__" with
    | .ok path => .ok (some path)
    | .error (.other .attribute _) => .ok none
    | .error fault => .error fault

/-- Why a module that is not there cannot be imported, which would be in the module `parent`. -/
def problemIn (name parent : String) : Except Fault ImportProblem := do
  match ← u.packagePath? parent with
  | none => return .noPackage name parent
  | some .null => return .noModule name
  | some path =>
    discard (u.objectsIn path)
    return .noModule name

/-- Why the module whose name has the given parts, the last first, cannot be imported; the modules
before its dots come first. -/
def importProblem? : List String → Except Fault (Option ImportProblem)
  | [] => .ok none
  | part :: parents => do
    let name := ".".intercalate (part :: parents).reverse
    if u.hasModule name then return none
    if parents.isEmpty then return some (.noModule name)
    match ← importProblem? parents with
    | some why => return some why
    | none => return some (← u.problemIn name (".".intercalate parents.reverse))

/-- Imports a module. -/
def importModule (name : String) : Except ImportError Unit :=
  if name.startsWith "." then .error (.relative name)
  else if name == "" then .error .emptyName
  else
    match u.importProblem? (Text.cutAt '.' name).reverse with
    | .ok none => .ok ()
    | .ok (some why) => .error (.problem why)
    | .error why => .error (.fault why)

/-- A failed import as a fault; a missing module is one of linkage, about the type `typeName`. -/
def importFault (typeName : String) (announce : String) : ImportError → Fault
  | .problem why => .linkage (announce ++ ": " ++ why.message) (some typeName)
  | .emptyName => .other .value "Empty module name"
  | .fault why => why
  | .relative name => .other .type
      ("the 'package' argument is required to perform a relative import for " ++ Text.quoted name)

/-- A reading whose missing attribute means that the type `typeName` is not there. -/
def presentOr (typeName : String) (r : Except Fault Object) : Except Fault Object :=
  match r with
  | .error (.other .attribute message) =>
    .error (.notPresent (some typeName) (some (.other .attribute message)))
  | r => r

/-- What a dotted name stands for whose part before the last dot is a module. -/
def importDotted (name : String) : Except Fault Object :=
  let (module, last) := cutLast '.' name
  match u.importModule module with
  | .error e => .error (importFault name ("Cannot load " ++ name) e)
  | .ok () => presentOr name (u.readModule module last)

/-- What the names of a module and the built-in names stand for. -/
def inScope? (module : Option String) (name : String) : Option Object :=
  (module.bind fun m => u.moduleAttribute? m name) <|> u.builtinName? name

/-- What the part of a name before its first dot stands for in a module, or else among the built-in
names and what belongs to every module. -/
def headObject? (module : Option String) (head : String) : Option Object :=
  (module.bind fun m => u.moduleAttribute? m head) <|> (u.readModule "builtins" head).toOption

/-- What a name stands for in a module: its part before the first dot is looked up there, among the
built-in names, and at last as a module. -/
def resolveName (module : Option String) (name : String) : Except Fault Object :=
  let (head, tail) := cutFirst '.' name
  match u.headObject? module head with
  | some o => presentOr name (u.readPath o (if tail == "" then [] else Text.cutAt '.' tail))
  | none =>
    if tail == "" then .error (.notPresent (some name) none) else u.importDotted name

/-- Whether a record that is also a text says that it begins with the mark of a lazy name. -/
def saysLazy (o : Object) : Except Fault Bool := do
  match ← u.read o "startswith" with
  | .feature (.standard "builtins" "builtin_function_or_method") .. => return false
  | asked => u.isTrue (← u.called asked { arguments := [.str "type:"] })

/-- A record that is read: one that is also a row is made anew. One that is also a text is empty,
and stands for itself unless it says that it is a lazy name. -/
def forceRecord (module : Option String) (c : ClassId) (fields : List (String × Object)) :
    Except Fault Object := do
  let o := Object.record c fields
  match u.classFault? o, u.plainOf o with
  | some fault, _ => throw fault
  | none, .list _ | none, .tuple _ =>
    discard (u.objectsIn o)
    u.remade c
  | none, .str _ => if ← u.saysLazy o then u.resolveName module "" else return o
  | none, _ => return o

mutual

/-- A value with the lazy names in it resolved. A record that is also a row is made anew. -/
def force (module : Option String) : Object → Except Fault Object
  | .forward _ text _ => u.resolveName module text
  | .str s =>
    match lazyName? s with
    | some name => u.resolveName module name
    | none => .ok (.str s)
  | .list items => return .list (← forceList module items)
  | .tuple items => return .tuple (← forceList module items)
  | .record c fields => u.forceRecord module c fields
  | o => .ok o

/-- Values with the lazy names in them resolved, from left to right. -/
def forceList (module : Option String) : List Object → Except Fault (List Object)
  | [] => .ok []
  | o :: os => return (← force module o) :: (← forceList module os)

end

/-- The module and the name in it that a root is given by: with a colon between them or, without
any, with the last dot between them. -/
def rootParts (root : String) : String × String :=
  if root.contains ':' then cutFirst ':' root else cutLast '.' root

/-- The class that a root names. The hint for any type at all is a class by itself. -/
def resolveRoot (root : String) : Except Fault ClassId := do
  let (module, qualname) := rootParts root
  if module == "" || qualname == "" then
    throw (.other .value ("Expected 'module:QualName', got '" ++ root ++ "'"))
  match u.importModule module with
  | .error e => throw (importFault root ("Cannot import module " ++ module) e)
  | .ok () => pure ()
  let target ← presentOr root <|
    match Text.cutAt '.' qualname with
    | [] => .ok .null
    | head :: parts => do u.readPath (← u.readModule module head) parts
  match target with
  | .cls c => return c
  | .anything => return .standard "typing" "Any"
  | _ => throw (.other .type (root ++ " does not name a class"))

end Universe

end TypeReach.Classes
