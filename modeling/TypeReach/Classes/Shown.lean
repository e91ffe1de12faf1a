import TypeReach.Classes.Special

/-!
# How objects print

An object prints as one would write it. A class prints with its kind when it stands alone, and by
its name inside a hint; which module's name goes with it depends on the hint.
-/

namespace TypeReach.Classes

/-- Where an object prints. -/
inductive Place where
  | alone
  /-- Among the arguments of a hint. -/
  | hint
  /-- Among the arguments of a class that was applied by its own brackets. -/
  | plain
  /-- Between the bars of a union of classes. -/
  | either
  deriving DecidableEq, Repr

/-- Objects between brackets after a name. -/
def bracketed (name : String) (arguments : List String) : String :=
  let inner := if arguments.isEmpty then "()" else Value.commaSeparated arguments
  name ++ "[" ++ inner ++ "]"

/-- Whether what a function takes is given as one list, or not at all, before what it returns. -/
def takesOne : List Object → Bool
  | [.rest, _] | [.list _, _] | [.tuple _, _] => true
  | _ => false

namespace Universe

variable (u : Universe)

/-- How a class prints in a place. -/
def classIn (p : Place) (c : ClassId) : String :=
  let bare := fun (m : Option String) => m == some "builtins" || (m.isNone && p != .hint)
  match p with
  | .alone => u.shownClass c
  | .either =>
    if c == .builtin "NoneType" then "None"
    else if c == .standard "types" "GenericAlias" then u.shownClass c
    else named bare
  | _ => named bare
where
  /-- The name of the class, with its module unless that is left out. -/
  named (leaveOut : Option String → Bool) : String :=
    if leaveOut (u.moduleOf c) then u.qualnameOf c else u.nameOf c

/-- The name of a type variable. -/
def variableName (index : Nat) : String :=
  ((u.typeVariables[index]?).map TypeVariable.name).getD ""

/-- How a record prints if its class says so. -/
def printedBy? (c : ClassId) : Option String :=
  match u.saidIfRead? u.simplyCalled (.record c []) "__repr__" [] with
  | some (.ok (.str s)) => some s
  | _ => none

/-- How a record prints whose class says nothing about that: as the plain value that it is, or as a
bare object. -/
def shownBare (c : ClassId) : String :=
  match u.plainOf (.record c []) with
  | .record .. =>
    if (u.order c).contains (.builtin "BaseException") then u.plainName c ++ "()"
    else "<" ++ u.nameOf c ++ " object>"
  | .str s => Text.quoted s
  | .mapping _ => "\x7b\x7d"
  | o => plainText o

/-- How a record of a class prints whose fields print as given. -/
def shownRecord (c : ClassId) (fields : List (String × String)) : String :=
  let shownFields := fun (names : List String) => Value.commaSeparated <|
    names.filterMap fun n => (fields.lookup n).map fun s => n ++ "=" ++ s
  match u.content? c "__repr__", u.printedBy? c, u.recordFields? c with
  | some (.attribute _), some s, _ => s
  | some (.attribute _), none, some names =>
    u.qualnameOf c ++ "(" ++ shownFields names ++ ")"
  | _, _, _ => u.shownBare c

/-- How something prints of which only the class matters. -/
def shownThing : ClassId → String
  | .standard "builtins" "NotImplementedType" => "NotImplemented"
  | c => "<" ++ u.nameOf c ++ " object>"

/-- Whether a function or another part of a class prints by its name in a place. -/
def showsName (p : Place) (of : ClassId) : Bool :=
  match p with
  | .alone => false
  | .hint => of == .builtin "function"
  | _ => ["function", "method", "builtin_function_or_method"].any fun n => of == .builtin n

/-- The full name of a function with the module that it is from, unless it is a standard one. -/
def featureName (owner : Option ClassId) (name : String) : String :=
  match u.functionIn? owner name with
  | some f => f.home ++ "." ++ f.name
  | none => u.fullName owner name

/-- How a function or another part of a class prints. -/
def shownFeature (of : ClassId) (owner : Option ClassId) (name : String) : String :=
  let partOf := fun (kind : String) => "<" ++ kind ++ " " ++ Text.quoted name ++
    (owner.map fun c => " of " ++ Text.quoted (u.plainName c) ++ " objects").getD ""
    ++ ">"
  match of, owner with
  | .standard "builtins" "method_descriptor", _ => partOf "method"
  | .standard "builtins" "wrapper_descriptor", _ => partOf "slot wrapper"
  | .standard "builtins" "getset_descriptor", _ => partOf "attribute"
  | .standard "builtins" "member_descriptor", _ => partOf "member"
  | .standard "builtins" "builtin_function_or_method", none => "<built-in function " ++ name ++ ">"
  | of, _ => "<" ++ u.qualnameOf of ++ " " ++ u.fullName owner name ++ ">"

mutual

/-- How an object prints in a place. -/
def shownAt (p : Place) : Object → String
  | .null => "None"
  | .bool b => if b then "True" else "False"
  | .int n => toString n
  | .double x => x.text
  | .str s => Text.quoted s
  | .list items => "[" ++ Value.commaSeparated (shownEach .alone items) ++ "]"
  | .tuple [item] => "(" ++ shownAt .alone item ++ ",)"
  | .tuple items => "(" ++ Value.commaSeparated (shownEach .alone items) ++ ")"
  | .mapping entries => "\x7b" ++ Value.commaSeparated (shownEntries entries) ++ "\x7d"
  | .record c fields => u.shownRecord c (shownFields fields)
  | .cls c => u.classIn p c
  | .forward _ text _ => "ForwardRef(" ++ Text.quoted text ++ ")"
  | .typeVar index => "~" ++ u.variableName index
  | .anything => "typing.Any"
  | .rest => if p == .alone then "Ellipsis" else "..."
  | .bare f => "typing." ++ f.name
  | .literal values => bracketed "typing.Literal" (shownEach .hint values)
  | .wrapped .spread hint => "*" ++ shownAt .alone hint
  | .wrapped f hint => bracketed ("typing." ++ f.name) [shownAt .hint hint]
  | .annotated hint annotations =>
    bracketed "typing.Annotated" (shownAt .hint hint :: shownEach .alone annotations)
  | .union [.cls (.standard "builtins" "NoneType"), o]
  | .union [o, .cls (.standard "builtins" "NoneType")] =>
    bracketed "typing.Optional" [shownAt .hint o]
  | .union members => bracketed "typing.Union" (shownEach .hint members)
  | .either members => " | ".intercalate (shownEach .either members)
  | .applied .plain origin arguments =>
    bracketed (u.classIn .plain origin) (shownEach .plain arguments)
  | .applied .hint (.standard "builtins" "list") arguments =>
    bracketed "typing.List" (shownEach .hint arguments)
  | .applied .hint origin arguments =>
    bracketed (u.classIn .hint origin) (shownEach .hint arguments)
  | .applied .function _ arguments =>
    let shown := shownEach .hint arguments
    if takesOne arguments then bracketed "typing.Callable" shown
    else "typing.Callable[[" ++ Value.commaSeparated shown.dropLast ++ "], "
      ++ shown.getLastD "" ++ "]"
  | .parameters arguments => bracketed "typing.Generic" (shownEach .hint arguments)
  | .slice start stop step =>
    "slice("
      ++ Value.commaSeparated [shownAt .alone start, shownAt .alone stop, shownAt .alone step]
      ++ ")"
  | .feature of owner name =>
    if showsName p of then (if p == .hint then name else u.featureName owner name)
    else u.shownFeature of owner name
  | .thing c => u.shownThing c

/-- How objects print in a place. -/
def shownEach (p : Place) : List Object → List String
  | [] => []
  | o :: os => shownAt p o :: shownEach p os

/-- How the entries of a mapping print. -/
def shownEntries : List (Object × Object) → List String
  | [] => []
  | (k, v) :: es => (shownAt .alone k ++ ": " ++ shownAt .alone v) :: shownEntries es

/-- How the values that a record holds print. -/
def shownFields : List (String × Object) → List (String × String)
  | [] => []
  | (n, o) :: fs => (n, shownAt .alone o) :: shownFields fs

end

/-- How an object prints. -/
def shown (o : Object) : String :=
  u.shownAt .alone o

/-! ### Objects that cannot be printed -/

/-- The fault of reading a field of a record of a class that holds something under some names: that
of the first field that is not there. -/
def missingField? (c : ClassId) (held : List String) : Option Fault :=
  let missing := ((u.recordFields? c).getD []).find? fun n =>
    !held.contains n && (u.content? c n).isNone
  missing.map fun n => (Missing.ofObject (u.typeName c) n).toFault

/-- The fault of printing a record of a class that holds something under some names, if its class
says how it prints and that fails, or if one of its fields is missing. -/
def recordFault? (c : ClassId) (held : List String) : Option Fault :=
  match u.saidIfRead? u.simplyCalled (.record c []) "__repr__" [] with
  | some (.error fault) => some fault
  | some (.ok (.thing _)) => u.missingField? c held
  | some (.ok (.str _)) | none => none
  | some (.ok o) => some (typeFault ("__repr__ returned non-string (type "
      ++ u.typeName (u.classOf o) ++ ")"))

mutual

/-- The fault of printing an object: that of the first record in it that cannot be printed. -/
def printFault? : Object → Option Fault
  | .record c fields => u.recordFault? c (fields.map Prod.fst) <|> fieldFault? fields
  | .list items | .tuple items | .literal items | .union items | .either items
  | .applied _ _ items | .parameters items => printFaultIn? items
  | .mapping entries => entryFault? entries
  | .wrapped _ hint => printFault? hint
  | .annotated hint annotations => printFault? hint <|> printFaultIn? annotations
  | .slice start stop step => printFault? start <|> printFault? stop <|> printFault? step
  | _ => none

/-- The fault of printing several objects. -/
def printFaultIn? : List Object → Option Fault
  | [] => none
  | o :: os => printFault? o <|> printFaultIn? os

/-- The fault of printing the entries of a mapping. -/
def entryFault? : List (Object × Object) → Option Fault
  | [] => none
  | (k, v) :: es => printFault? k <|> printFault? v <|> entryFault? es

/-- The fault of printing what a record holds. -/
def fieldFault? : List (String × Object) → Option Fault
  | [] => none
  | (_, o) :: fs => printFault? o <|> fieldFault? fs

end

/-- How an object prints, unless something in it cannot be printed. -/
def printed (o : Object) : Except Fault String :=
  match u.printFault? o with
  | some fault => .error fault
  | none => .ok (u.shown o)

end Universe

end TypeReach.Classes
