import TypeReach.Classes.Conversion

/-!
# What comes of calling objects

A class that is called makes a new object, and a function gives what comes of it. Of most built-in
functions only the class of what they give is known here.
-/

namespace TypeReach.Classes

namespace Universe

variable (u : Universe)

/-! ### New objects -/

/-- A record made of its fields by the function that the class `owner` has for it. -/
def newFields (c owner : ClassId) (call : Call) : Except Fault Object := do
  let fields := (((u.info? owner).bind ClassInfo.recordFields).map Table.entries).getD []
  let own := fields.filter fun e => !e.2.isClassWide
  let takes := own.map fun e => { name := e.1, isOptional := e.2.standard.isSome : Parameter }
  let given : Call := { call with arguments := .null :: call.arguments }
  given.require (u.qualnameOf owner ++ ".__init__") ({ name := "self" } :: takes)
  let found := (own.map Prod.fst).zip call.arguments ++ call.named
  return .record c (own.filterMap fun e =>
    (found.lookup e.1 <|> e.2.standard).map fun o => (e.1, o))

/-- A new plain value of a built-in class, if that makes plain values. -/
def newPlain? (again : Caller) (name : String) (call : Call) : Option (Except Fault Object) :=
  match name with
  | "str" => some (u.newText again call)
  | "bool" => some do
    if !call.named.isEmpty then throw (typeFault "bool() takes no keyword arguments")
    requireOne "bool" call
    match call.arguments.head? with
    | none => return .bool false
    | some o => Object.bool <$> u.truth again o
  | "int" => some (u.newWhole again call)
  | "float" => some (u.newDouble again call)
  | "list" => some (Object.list <$> u.rowOf again "list" call)
  | "tuple" => some (Object.tuple <$> u.rowOf again "tuple" call)
  | "dict" => some (u.newMapping again call)
  | _ => none

/-- Fails if a class is below one of some built-in ones and that could not be called as the class
is. -/
def requireFilling (again : Caller) (c : ClassId) (names : List String) (call : Call) :
    Except Fault Unit :=
  match u.layout c with
  | .standard "builtins" name =>
    if names.contains name then ((u.newPlain? again name call).map discard).getD (.ok ())
    else .ok ()
  | _ => .ok ()

/-- A new record as its class begins it with what it is called with. -/
def begun (again : Caller) (c : ClassId) (fields : List (String × Object)) (call : Call) :
    Except Fault Object := do
  let o := Object.record c fields
  match u.found? c "__init__" with
  | some (owner, .attribute (.value (.feature ..))) => u.newFields c owner call
  | some (_, .attribute a) =>
    match ← u.ofAttribute again o a call with
    | .null => return o
    | other => throw (typeFault ("__init__() should return None, not "
        ++ Text.quoted (u.typeName (u.classOf other))))
  | _ =>
    if (u.order c).contains (.builtin "BaseException") && !call.named.isEmpty then
      throw (typeFault (u.plainName c ++ "() takes no keyword arguments"))
    if !call.isEmpty && u.isCommon c "__new__" && u.isCommon c "__init__" then
      throw (u.takesNothing c)
    u.requireFilling again c ["list", "dict"] call
    return o

/-- A new record of a declared class, or what the class makes instead. -/
def newRecord (again : Caller) (c : ClassId) (call : Call) : Except Fault Object :=
  match u.found? c "__new__" with
  | some (_, .attribute a) => do
    let made ← u.ofOwnAttribute again c a { call with arguments := .cls c :: call.arguments }
    match made with
    | .record d fields =>
      if (u.order d).contains c then u.begun again d fields call else return made
    | _ => return made
  | _ => do
    u.requireFilling again c ["tuple", "str", "int", "float"] call
    u.begun again c [] call

/-- The class of a new object, or what is wrong with what the class of classes is called with. -/
def newClass (call : Call) : Except Fault Object :=
  let wrong := fun (index : Nat) (kind : String) (o : Object) =>
    Except.error (typeFault ("type.__new__() argument " ++ toString index ++ " must be " ++ kind
      ++ ", not " ++ u.typeName (u.classOf o)))
  match call.arguments with
  | [o] =>
    if call.named.isEmpty then .ok (u.classOf o).object
    else .error (typeFault "type() takes no keyword arguments")
  | [name, bases, entries] =>
    match u.plainOf name, u.plainOf bases, u.plainOf entries with
    | .str _, .tuple _, .mapping _ => .ok (.ofBuiltin "type")
    | .str _, .tuple _, _ => wrong 3 "dict" entries
    | .str _, _, _ => wrong 2 "tuple" bases
    | _, _, _ => wrong 1 "str" name
  | _ => .error (typeFault "type() takes 1 or 3 arguments")

/-- A new object of a class. -/
def newObject (again : Caller) (c : ClassId) (call : Call) : Except Fault Object :=
  match c with
  | .declared _ => u.newRecord again c call
  | .standard "collections.abc" name => .error (typeFault
      (if call.isEmpty
        then "Can't instantiate abstract class " ++ name ++ " with abstract method __call__"
        else name ++ "() takes no arguments"))
  | .standard "builtins" "type" => u.newClass call
  | .standard "builtins" "NoneType" =>
    if call.isEmpty then .ok .null else .error (typeFault "NoneType takes no arguments")
  | .standard "builtins" "object" =>
    if call.isEmpty then .ok (.ofBuiltin "object")
    else .error (typeFault "object() takes no arguments")
  | .standard "builtins" "set" | .standard "builtins" "frozenset" => do
    u.markedRow again (u.plainName c) call
    return .thing c
  | .standard module name =>
    match if module == "builtins" then u.newPlain? again name call else none with
    | some r => r
    | none =>
      if !(u.order c).contains (.builtin "BaseException") then .ok (.thing c)
      else if call.named.isEmpty then .ok (.record c [])
      else .error (typeFault (u.plainName c ++ "() takes no keyword arguments"))

/-! ### Built-in functions -/

/-- How many objects a row, a text or a mapping holds. -/
def length? (o : Object) : Option Nat :=
  match u.plainOf o with
  | .list items | .tuple items => some items.length
  | .mapping entries => some entries.length
  | .str s => some s.length
  | _ => none

/-- Whether an object can be called. -/
def isCallable (o : Object) : Bool :=
  match o with
  | .record c _ => (u.content? c "__call__").isSome
  | .cls _ | .anything | .feature .. | .bare _ => true
  | .applied .plain .. => true
  | .thing _ => o.isRoutine
  | o => passesOn o

/-- The classes that an object stands for where a class, a row or a union of them is asked for. -/
def classesOf? : Object → Option (List ClassId)
  | .cls c => some [c]
  | .anything => some [.standard "typing" "Any"]
  | .tuple items | .either items | .union items => items.mapM fun
    | .cls c => some c
    | _ => none
  | _ => none

/-- The classes that an object stands for which a built-in function is given as its second. -/
def classesFor (function what : String) (o : Object) : Except Fault (List ClassId) :=
  match classesOf? o, o with
  | some cs, _ => .ok cs
  | none, .applied .plain .. =>
    .error (typeFault (function ++ "() argument 2 cannot be a parameterized generic"))
  | none, .bare f =>
    .error (typeFault ("typing." ++ f.name ++ " cannot be used with " ++ function ++ "()"))
  | none, o =>
    .error (typeFault (if passesOn o
      then "Subscripted generics cannot be used with class and instance checks"
      else function ++ "() arg 2 must be " ++ what ++ ", or a union"))

/-- Whether a class has one of some classes among its ancestors. -/
def isBelow (c : ClassId) (classes : List ClassId) : Bool :=
  (u.order c).any classes.contains

/-- What a built-in function gives that takes the objects of a call, unless it reads attributes. -/
def builtinResult (again : Caller) (name : String) (os : List Object) : Except Fault Object :=
  match name, os with
  | "len", [o] =>
    match u.said? again o "__len__" [], u.length? o with
    | some r, _ => do return .int (← u.saidLength again (← r))
    | none, some n => .ok (.int n)
    | none, none =>
      .error (typeFault
        ("object of type " ++ Text.quoted (u.typeName (u.classOf o)) ++ " has no len()"))
  | "callable", [o] => .ok (.bool (u.isCallable o))
  | "repr", [o] => Object.str <$> u.written again o
  | "isinstance", [o, classes] =>
    match u.said? again classes "__instancecheck__" [o] with
    | some r => do return .bool (← u.truth again (← r))
    | none =>
      return .bool (u.isBelow (u.classOf o) (← classesFor name "a type, a tuple of types" classes))
  | "issubclass", [o, classes] => do
    if let some r := u.said? again classes "__subclasscheck__" [o] then
      return .bool (← u.truth again (← r))
    let cs ← classesFor name "a class, a tuple of classes" classes
    match o with
    | .cls c => return .bool (u.isBelow c cs)
    | _ => throw (typeFault "issubclass() arg 1 must be a class")
  | "any", [o] => do
    return .bool (← (← u.itemsIn again o).anyM (u.truth again))
  | "all", [o] => do
    return .bool (← (← u.itemsIn again o).allM (u.truth again))
  | "sorted", [o] | "iter", [o] | "sum", [o] => do
    discard (u.itemsIn again o)
    return .ofBuiltin (resultClass name)
  | "bin", [o] | "hex", [o] | "oct", [o] | "chr", [o] => do
    discard (u.placeOf again o)
    return .ofBuiltin "str"
  | "hash", [o] => do
    u.requireFixed [o]
    return .ofBuiltin "int"
  | name, _ =>
    .ok (if givesNothing.contains name then .null else .ofBuiltin (resultClass name))

/-- The fault of calling a method of a standard class for an object that is not of that class, if it
is not. -/
def unboundFault? (of owner : ClassId) (name : String) (call : Call) : Option Fault :=
  let kind := u.plainName owner
  match of == .builtin "method_descriptor", of == .builtin "wrapper_descriptor",
    call.arguments.head? with
  | true, _, none =>
    some (typeFault ("unbound method " ++ kind ++ "." ++ name ++ "() needs an argument"))
  | _, true, none => some (typeFault ("descriptor " ++ Text.quoted name ++ " of "
      ++ Text.quoted kind ++ " object needs an argument"))
  | true, _, some o =>
    if u.isBelow (u.classOf o) [owner] then none
    else some (typeFault ("descriptor " ++ Text.quoted name ++ " for " ++ Text.quoted kind
      ++ " objects doesn't apply to a " ++ Text.quoted (u.typeName (u.classOf o)) ++ " object"))
  | _, true, some o =>
    if u.isBelow (u.classOf o) [owner] then none
    else some (typeFault ("descriptor " ++ Text.quoted name ++ " requires a " ++ Text.quoted kind
      ++ " object but received a " ++ Text.quoted (u.typeName (u.classOf o))))
  | _, _, _ => none

/-- What comes of calling a function or another part of a class. A function that is bound gets
what it is bound to in front of the rest. -/
def featureResult (again : Caller) (of : ClassId) (owner : Option ClassId) (name : String)
    (call : Call) : Except Fault Object :=
  match owner, u.functionIn? owner name with
  | _, some f =>
    let bound := { call with arguments := .null :: call.arguments }
    f.called (if of == methodClass then bound else call)
  | none, none =>
    if isOrdinary name && !call.named.isEmpty then
      .error (typeFault (name ++ "() takes no keyword arguments"))
    else match countFault? name call.arguments.length with
      | some fault => .error fault
      | none => u.builtinResult again name call.arguments
  | some owner, none =>
    match u.unboundFault? of owner name call with
    | some fault => .error fault
    | none => .ok (if givesNothing.contains name then .null else .ofBuiltin "object")

/-- What comes of calling an object that calls others by `again`. -/
def calledBy (again : Caller) (o : Object) (call : Call) : Except Fault Object :=
  let refusal : Except Fault Object := .error (u.notCallable o)
  let noInstance := fun (shown : String) =>
    Except.error (typeFault ("Cannot instantiate " ++ shown))
  match o with
  | .cls c => u.newObject again c call
  | .anything => .error (typeFault "Any cannot be instantiated")
  | .applied .plain origin _ => u.newObject again origin call
  | .applied _ origin _ =>
    if isForCalls o then u.newObject again origin call
    else .error (typeFault ("Type " ++ (givenName? o).getD "None"
      ++ " cannot be instantiated; use " ++ u.plainName origin ++ "() instead"))
  | .bare f => noInstance ("typing." ++ f.name)
  | .union _ => noInstance "typing.Union"
  | .literal _ => noInstance "typing.Literal"
  | .wrapped f _ => noInstance ("typing." ++ f.name)
  | .annotated (.cls c) _ => u.newObject again c call
  | .feature of owner name => if o.isRoutine then u.featureResult again of owner name call
    else refusal
  | .thing _ => if o.isRoutine then .ok (.ofBuiltin "object") else refusal
  | .record c _ =>
    match u.content? c "__call__" with
    | some (.attribute a) => u.ofAttribute again o a call
    | _ => refusal
  | _ => refusal

/-- What comes of calling an object, in at most `n` calls one inside another. -/
def calledWithin : Nat → Caller
  | 0, _, _ => .error .nestedTooDeep
  | n + 1, o, call => u.calledBy (calledWithin n) o call

/-- What comes of calling an object. What a class has for calls of its records may be a record
again; unless that goes round in a circle, no class comes twice. -/
def called (o : Object) (call : Call) : Except Fault Object :=
  u.calledWithin (u.classes.length + 2) o call

/-- Whether an object counts as true. -/
def isTrue (o : Object) : Except Fault Bool :=
  u.truth u.called o

/-- The objects that an object is made of, which must be a row. -/
def objectsIn (o : Object) : Except Fault (List Object) :=
  u.itemsIn u.called o

/-- A new object of the class of a record, made of a row of objects. -/
def remade (c : ClassId) : Except Fault Object :=
  u.newRecord u.called c { arguments := [.ofBuiltin "generator"] }

end Universe

end TypeReach.Classes
