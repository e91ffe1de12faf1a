import TypeReach.Classes.Calling

/-!
# Reading attributes

Reading an attribute of an object gives another object. What a record holds gives way only to what
its class computes. A class may say for itself how its records are read, and what they show where
nothing else is found; so may a module.
-/

namespace TypeReach.Classes

/-- The value stored under a name. -/
def stored? (fields : List (String × Object)) (name : String) : Option Object :=
  fields.lookup name

namespace Universe

variable (u : Universe)

/-- Reads an attribute of a record of a class that does not say how. What the class computes comes
first, then what is stored in the record, and then the rest of what the class has. -/
def readPlainly (c : ClassId) (fields : List (String × Object)) (name : String) :
    Except Fault Object :=
  let o := Object.record c fields
  let late := fun (found : Option (ClassId × Content)) =>
    match stored? fields name, found with
    | some stored, _ => .ok stored
    | none, some (owner, content) => u.boundContent o owner name content
    | none, none =>
      if name == "__doc__" then .ok (u.documentationOf c)
      else .error (Missing.ofObject (u.typeName c) name).toFault
  match name, u.found? c name with
  | "__dict__", _ => .ok (.mapping (fields.map fun f => (.str f.1, f.2)))
  | "__weakref__", _ => .ok .null
  | _, some (_, .attribute (.property (some getter))) => getter.called { arguments := [o] }
  | _, some (_, .attribute (.property none)) =>
    .error (Missing.getter (u.qualnameOf c)).toFault
  | _, some (owner, .attribute (.value v)) =>
    if u.isWritable v then u.shownAttribute o c owner name (.value v)
    else late (some (owner, .attribute (.value v)))
  | _, some (owner, .held h) =>
    if h.isComputed then .ok (u.computed o name)
    else late (some (owner, .held h))
  | _, found => late found

/-- Reads an attribute of a record. If its class says how records are read, that is done; and if it
says what they show in place of what is missing, they show that. -/
def readRecord (c : ClassId) (fields : List (String × Object)) (name : String) :
    Except Fault Object :=
  let said? := fun (function : String) =>
    u.said? u.called (.record c fields) function [.str name]
  match (said? "__getattribute__").getD (u.readPlainly c fields name) with
  | .error (.other .attribute message) =>
    (said? "__getattr__").getD (.error (.other .attribute message))
  | r => r

/-- Reads an attribute of an object. -/
def read (o : Object) (name : String) : Except Fault Object :=
  let own : Option (Except Fault Object) := match o with
    | .applied .plain .. => u.ofPlain? o name
    | .bare f => (ofForm? f name).map .ok
    | .typeVar index => (u.ofVariable? index name).map .ok
    | .forward number text lenient => (u.ofForward? number text lenient name).map .ok
    | .either _ =>
      if name == "__module__" then some (.ok (.str "types"))
      else if ["__args__", "__parameters__"].contains name then (u.ofHint? o name).map .ok
      else none
    | o => if passesOn o then (u.ofHint? o name).map .ok <|> u.ofHintClass? o name else none
  let reservedName : Except Fault Object := .error (Missing.name name).toFault
  match own, o with
  | some r, _ => r
  | none, .cls c | none, .applied .plain c _ => u.readClass c name
  | none, .anything => u.readClass (.standard "typing" "Any") name
  | none, .record c fields => u.readRecord c fields name
  | none, .annotated hint _ => if isReserved name then reservedName else read hint name
  | none, .applied _ origin _ =>
    if isReserved name then reservedName else u.readClass origin name
  | none, .parameters _ => if isReserved name then reservedName else u.readClass .generic name
  | none, .literal _ | none, .union _ | none, .wrapped .. => reservedName
  | none, .bare f => ((u.ofHintClass? (.bare f) name)).getD reservedName
  | none, o => u.readValue o name

/-- Reads attributes one after the other, each of what came before. -/
def readPath (o : Object) (names : List String) : Except Fault Object :=
  names.foldlM u.read o

/-! ### Modules -/

/-- What every module has under a name, unless it holds something else under it. -/
def moduleName? (module : String) : String → Option Object
  | "__name__" => some (.str module)
  | "__doc__" =>
    some (if Standard.isStandard module then .ofBuiltin "str" else .null)
  | "__package__" =>
    some <| if Standard.packages.contains module then .str module
      else if Standard.importable.contains module then .str "" else .null
  | "__loader__" =>
    some (if Standard.isStandard module then .ofBuiltin "type" else .null)
  | "__spec__" =>
    some (if Standard.isStandard module then .thing (.standard "_frozen_importlib" "ModuleSpec")
      else .null)
  | _ => none

/-- What a name stands for in a module. -/
def moduleAttribute? (module name : String) : Option Object :=
  match u.modules.get? module with
  | some m => m.attributes.get? name <|> moduleName? module name
  | none =>
    if Standard.importable.contains module then
      Standard.nameIn? module name <|> moduleName? module name
    else none

/-- Reads an attribute of a module. A module may say what it shows in place of what is missing. -/
def readModule (module name : String) : Except Fault Object :=
  match u.moduleAttribute? module name, u.found? (.builtin "module") name with
  | some o, _ => .ok o
  | none, some (owner, .held h) =>
    .ok (if name == "__class__" then .cls (.builtin "module")
      else if name == "__dict__" || name == "__annotations__" then .ofBuiltin "dict"
      else h.boundShown owner name)
  | none, _ =>
    match u.moduleAttribute? module "__getattr__", u.moduleAttribute? module "__name__" with
    | some o, _ => u.called o { arguments := [.str name] }
    | none, some (.str shown) => .error (Missing.ofModule shown name).toFault
    | none, _ => .error (Missing.ofNamelessModule name).toFault

/-- What a built-in name stands for, in any module. -/
def builtinName? (name : String) : Option Object :=
  u.moduleAttribute? "builtins" name

/-! ### Reading by a call -/

/-- What a built-in function gives that reads an attribute by its name. -/
def namedReading? (function : String) (os : List Object) : Option (Except Fault Object) :=
  match function, os with
  | "getattr", [o, .str member] => some (u.read o member)
  | "getattr", [o, .str member, other] =>
    match u.read o member with
    | .error (.other .attribute _) => some (.ok other)
    | r => some r
  | "hasattr", [o, .str member] =>
    match u.read o member with
    | .ok _ => some (.ok (.bool true))
    | .error (.other .attribute _) => some (.ok (.bool false))
    | .error fault => some (.error fault)
  | "getattr", [_, o] | "getattr", [_, o, _] | "hasattr", [_, o] => some (.error (typeFault
      ("attribute name must be string, not " ++ Text.quoted (u.typeName (u.classOf o)))))
  | _, _ => none

/-- What a call in a formula gives. -/
def result (o : Object) (call : Call) : Except Fault Object :=
  match o, call.named with
  | .feature _ none function, [] =>
    (u.namedReading? function call.arguments).getD (u.called o call)
  | _, _ => u.called o call

end Universe

end TypeReach.Classes
