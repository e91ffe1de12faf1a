import TypeReach.Classes.Parts
import TypeReach.Formula.Parse

/-!
# Hints made of others

A text that becomes a part of a hint has to be a formula. What is a part of a hint has to be a type,
as far as that is looked at. The members of a union are told apart, and a union with one member is
that member.
-/

namespace TypeReach.Classes

/-- The formula that a text is. -/
def formulaOf (text : String) : Except Fault Formula :=
  let found := text.toList.findIdx? fun c => (Text.surrogate? c).isSome
  if text == "" then .error (.other (.named "IndexError") "string index out of range")
  else match found with
    | some index =>
      let code := Text.codeOf (text.toList.getD index ' ')
      let code := String.ofList ('\\' :: 'u' :: Text.hexDigits 4 code)
      .error (.other (.named "UnicodeEncodeError")
        ("'utf-8' codec can't encode character '" ++ code ++ "' in position " ++ toString index
          ++ ": surrogates not allowed"))
    | none =>
      if text.toList.contains '\x00' then
        .error (.other .value "source code string cannot contain null bytes")
      else match Formula.ofText? text with
        | some f => .ok f
        | none => .error (.other .unparsable
            ("Forward reference must be an expression -- got " ++ Text.quoted text))

/-- An object as a part of a hint, if it is a text only one that is a formula. -/
def checkedPart (lenient : Bool) (o : Object) : Except Fault Object :=
  match o with
  | .str s => (formulaOf s).map fun _ => o.partOf lenient
  | o => .ok (o.partOf lenient)

/-- The items of a tuple, or the object itself. -/
def itemsOf : Object → List Object
  | .tuple items => items
  | o => [o]

namespace Universe

variable (u : Universe)

/-! ### Telling objects apart -/

/-- Whether objects of a class can change, so that they are told apart by no mark. -/
def isChangeable (c : ClassId) : Bool :=
  match u.content? c "__hash__" with
  | some (.held .nothing) | some (.attribute (.value .null)) => true
  | _ => false

/-- Whether the mark that records of a class are told apart by cannot be read. -/
def hidesMark (c : ClassId) : Bool :=
  match u.content? c "__hash__" with
  | some (.attribute a) => (u.readingFault? u.simplyCalled (.record c []) a).isSome
  | _ => false

/-- The fault of telling objects of a class apart by marks. -/
def unmarked (c : ClassId) : Fault :=
  typeFault ("unhashable type: " ++ Text.quoted (u.typeName c))

mutual

/-- The fault of telling an object from others by its mark: that of its first part that has none. -/
def unmarked? : Object → Option Fault
  | .tuple items | .literal items | .union items | .either items | .applied _ _ items
  | .parameters items => unmarkedIn? items
  | .wrapped _ hint => unmarked? hint
  | .annotated hint annotations => unmarked? hint <|> unmarkedIn? annotations
  | .record c fields =>
    if u.isChangeable c || u.hidesMark c then some (u.unmarked c)
    else u.markFault? (.record c fields)
  | .thing c => if u.isChangeable c then some (u.unmarked c) else none
  | .list _ => some (u.unmarked (.builtin "list"))
  | .slice .. => some (u.unmarked (.builtin "slice"))
  | .mapping _ => some (u.unmarked (.builtin "dict"))
  | _ => none

/-- The fault of telling several objects from others by their marks. -/
def unmarkedIn? : List Object → Option Fault
  | [] => none
  | o :: os => unmarked? o <|> unmarkedIn? os

end

/-- Fails if some of the objects have no mark. -/
def requireFixed (os : List Object) : Except Fault Unit :=
  match u.unmarkedIn? os with
  | some fault => .error fault
  | none => .ok ()

/-! ### Parts and unions -/

/-- Fails if a record cannot be told from the objects that stand for types: it is asked for its
class, and compared with them. -/
def requireTold (o : Object) : Except Fault Unit :=
  match u.classFault? o, u.saidIfRead? u.simplyCalled o "__eq__" [.anything] with
  | some fault, _ | none, some (.error fault) => .error fault
  | none, _ => .ok ()

/-- An object as a type inside a hint. A lenient place takes a form as well. The message is about a
tuple, which is no type. -/
def typePart (lenient : Bool) (message : String) (o : Object) : Except Fault Object := do
  u.requireTold o
  let o ← checkedPart lenient o
  let invalid : Except Fault Object :=
    .error (typeFault (u.shown o ++ " is not valid as type argument"))
  let plain : Except Fault Object :=
    .error (typeFault ("Plain " ++ u.shown o ++ " is not valid as type argument"))
  match o with
  | .parameters _ => invalid
  | .wrapped .classWide _ | .wrapped .final _ => if lenient then .ok o else invalid
  | .bare .classWide | .bare .final => if lenient then .ok o else plain
  | .bare _ => plain
  | .cls c => if c == .generic then plain else .ok o
  | .tuple _ => do
    let shown ← u.printed o
    throw (typeFault (message ++ " Got " ++ String.ofList (shown.toList.take 100) ++ "."))
  | o => .ok o

/-- The members of a union, or the object itself. -/
def membersOf : Object → List Object
  | .union members | .either members => members
  | o => [o]

/-- The union of some types. -/
def unite (os : List Object) : Except Fault Object := do
  if os.isEmpty then throw (typeFault "Cannot take a Union of no types.")
  let types ← os.mapM (u.typePart false "Union[arg, ...]: each arg must be a type.")
  let members := types.flatMap membersOf
  u.requireFixed members
  match Object.distinct members with
  | [o] => return o
  | members => return .union members

/-- A type, or nothing. -/
def optional (o : Object) : Except Fault Object := do
  u.unite [← u.typePart false "typing.Optional requires a single type." o, Object.nullClass]

/-- Whether an object can be between the bars of a union of classes. -/
def joinsClasses : Object → Bool
  | .null | .cls _ | .anything | .either _ | .applied .plain .. => true
  | _ => false

/-- Whether an object is made for hints. -/
def joinsHints : Object → Bool
  | .bare _ | .typeVar _ | .forward .. => true
  | o => passesOn o

/-- The fault of an operator between objects that it does not work on. -/
def operatorFault (operator : String) (a b : Object) : Fault :=
  typeFault ("unsupported operand type(s) for " ++ operator ++ ": "
    ++ Text.quoted (u.typeName (u.classOf a)) ++ " and "
    ++ Text.quoted (u.typeName (u.classOf b)))

/-- The union of two classes by their operator, or of two hints. -/
def join (a b : Object) : Except Fault Object :=
  match a, b with
  | .null, .null => .error (u.operatorFault "|" a b)
  | a, b =>
    if joinsClasses a && joinsClasses b then
      let member := fun
        | .null => Object.nullClass
        | o => o
      match Object.distinct ((membersOf a ++ membersOf b).map member) with
      | [o] => .ok o
      | members => .ok (.either members)
    else if joinsHints a || joinsHints b then u.unite [a, b]
    else .error (u.operatorFault "|" a b)

/-- The union of several classes by their operator, from the left. -/
def joinAll : List Object → Except Fault Object
  | [] => .ok .null
  | o :: os => os.foldlM u.join o

/-! ### Arguments -/

/-- Fails unless as many arguments are given as there are parameters. -/
def requireCount (shown : String) (actual expected : Nat) : Except Fault Unit :=
  if expected == 0 then .error (typeFault (shown ++ " is not a generic class"))
  else if actual == expected then .ok ()
  else
    let word := if expected < actual then "many" else "few"
    .error (typeFault ("Too " ++ word ++ " arguments for " ++ shown ++ "; actual "
      ++ toString actual ++ ", expected " ++ toString expected))

mutual

/-- A hint with objects for some of its type variables. -/
def replace (found : List (Nat × Object)) : Object → Except Fault Object
  | .typeVar index => .ok ((found.lookup index).getD (.typeVar index))
  | .wrapped f hint => return .wrapped f (← replace found hint)
  | .annotated hint annotations => return (← replace found hint).annotate annotations
  | .union members => do u.unite (← replaceEach found members)
  | .either members => do u.joinAll (← replaceEach found members)
  | .applied how origin arguments => return .applied how origin (← replaceEach found arguments)
  | o => .ok o

/-- Hints with objects for some of their type variables. -/
def replaceEach (found : List (Nat × Object)) : List Object → Except Fault (List Object)
  | [] => .ok []
  | o :: os => return (← replace found o) :: (← replaceEach found os)

end

/-- A hint applied to arguments, which take the places of its type variables. -/
def applyHint (o : Object) (arguments : List Object) : Except Fault Object := do
  if let .parameters _ := o then
    throw (typeFault ("Cannot subscript already-subscripted " ++ u.shown o))
  let places := o.freeVariables.eraseDups
  if places.isEmpty then throw (typeFault ((← u.printed o) ++ " is not a generic class"))
  let arguments ← arguments.mapM (checkedPart false)
  requireCount (u.shown o) arguments.length places.length
  let arguments ←
    arguments.mapM (u.typePart false "Parameters to generic types must be types.")
  u.replace (places.zip arguments) o

/-- The base that declares type variables. -/
def declareParameters (arguments : List Object) : Except Fault Object := do
  let arguments ← arguments.mapM (checkedPart false)
  if arguments.isEmpty then throw (typeFault "Parameter list to Generic[...] cannot be empty")
  let isVariable := fun
    | Object.typeVar _ => true
    | _ => false
  if !arguments.all isVariable then
    throw (typeFault ("Parameters to Generic[...] must all be type variables or parameter "
      ++ "specification variables."))
  if (Object.distinct arguments).length != arguments.length then
    throw (typeFault "Parameters to Generic[...] must all be unique")
  return .parameters arguments

/-- A class applied to arguments by its own brackets. Each argument is asked whether it takes the
place of a type variable. -/
def applyPlainly (c : ClassId) (arguments : List Object) : Except Fault Object :=
  match arguments.findSome? (u.askingFault? · "__typing_subst__") with
  | some fault => .error fault
  | none => .ok (.applied .plain c arguments)

/-- A class applied to arguments. -/
def apply (c : ClassId) (arguments : List Object) : Except Fault Object :=
  let refusal :=
    typeFault ("type " ++ Text.quoted (u.typeName c) ++ " is not subscriptable")
  match u.content? c "__class_getitem__" with
  | some (.held .bound) =>
    if (u.order c).contains .generic then do
      if c == .generic then declareParameters arguments
      else
        let arguments ← arguments.mapM (checkedPart false)
        requireCount (u.shownClass c) arguments.length
          (((u.info? c).map ClassInfo.parameters).getD []).length
        return .applied .hint c arguments
    else u.applyPlainly c arguments
  | some (.held _) => u.applyPlainly c arguments
  | some (.attribute (.value .null)) => .error refusal
  | some (.attribute a) =>
    let given := match arguments with
      | [o] => o
      | os => .tuple os
    u.ofOwnAttribute u.simplyCalled c a { arguments := [given] }
  | none =>
    if c == .builtin "type" then u.applyPlainly c arguments else .error refusal

/-- The values of a hint for one of some values, with those of such hints among them. -/
def literalValues (os : List Object) : List Object :=
  os.flatMap fun
    | .literal values => values
    | o => [o]

/-- A form applied to an object. -/
def applyForm (f : Form) (o : Object) : Except Fault Object :=
  match f with
  | .union => u.unite (itemsOf o)
  | .literal => .ok (.literal (literalValues (itemsOf o)))
  | f => do
    let o ← u.typePart false ("typing." ++ f.name ++ " accepts only single type.") o
    return .wrapped f o

end Universe

end TypeReach.Classes
