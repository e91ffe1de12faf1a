import TypeReach.Classes.Operation
import TypeReach.Decimal.Reading

/-!
# Conversions of objects

The built-in classes of numbers, texts and rows make a new object of another one, as far as its
class says how, or it is a plain value of the right kind.
-/

namespace TypeReach.Classes

namespace Universe

variable (u : Universe) (again : Caller)

/-! ### Rows -/

/-- The fault of something that is no row of objects. -/
def notIterable (o : Object) : Fault :=
  typeFault (Text.quoted (u.typeName (u.classOf o)) ++ " object is not iterable")

/-- The objects that an object is made of, which must be a row. -/
def itemsIn (o : Object) : Except Fault (List Object) := do
  match ← u.spreadObjects again o with
  | some items => return items
  | none => throw (u.notIterable o)

/-- Fails if more than one object is given to a class by its place. -/
def requireOne (name : String) (call : Call) : Except Fault Unit :=
  if call.arguments.length ≤ 1 then .ok ()
  else .error (typeFault (name ++ " expected at most 1 argument, got "
    ++ toString call.arguments.length))

/-- The objects in a row that a class is called with. -/
def rowOf (name : String) (call : Call) : Except Fault (List Object) := do
  if !call.named.isEmpty then throw (typeFault (name ++ "() takes no keyword arguments"))
  requireOne name call
  match call.arguments.head? with
  | none => return []
  | some o => u.itemsIn again o

/-- A mapping with another entry, in the place of an earlier one with its key. -/
def withEntry (entries : List (Object × Object)) (key value : Object) : List (Object × Object) :=
  if entries.any fun e => e.1.same key then
    entries.map fun e => if e.1.same key then (e.1, value) else e
  else entries ++ [(key, value)]

/-- The key and the value that an object of a row stands for, if it is a pair. -/
def pairAt (index : Nat) (o : Object) : Except Fault (Object × Object) :=
  match iterated? o with
  | some [k, v] => .ok (k, v)
  | some items => .error (.other .value ("dictionary update sequence element #" ++ toString index
      ++ " has length " ++ toString items.length ++ "; 2 is required"))
  | none => .error (typeFault ("cannot convert dictionary update sequence element #"
      ++ toString index ++ " to a sequence"))

/-- A new mapping. -/
def newMapping (call : Call) : Except Fault Object := do
  requireOne "dict" call
  let first ← match call.arguments with
    | [] => pure []
    | o :: _ => match u.plainOf o with
      | .mapping entries => pure entries
      | _ => do (← u.itemsIn again o).zipIdx.mapM fun e => pairAt e.2 e.1
  requireFixed u (first.map Prod.fst)
  let named := call.named.map fun e => (Object.str e.1, e.2)
  return .mapping ((first ++ named).foldl (fun es e => withEntry es e.1 e.2) [])

/-- The objects in a row that a class of marked objects is called with. -/
def markedRow (name : String) (call : Call) : Except Fault Unit := do
  u.requireFixed (← u.rowOf again name call)

/-! ### Numbers and texts -/

/-- The whole number that an object is as a place in a row, which it must be. -/
def placeOf (o : Object) : Except Fault Int :=
  match u.place? again o with
  | some r => r
  | none => .error (typeFault (Text.quoted (u.typeName (u.classOf o))
      ++ " object cannot be interpreted as an integer"))

/-- The whole number that a text stands for in a base. -/
def wholeIn (base : Nat) (s : String) : Except Fault Object :=
  match Decimal.readIntegerIn base s with
  | .ok n => .ok (.int n)
  | .error e => .error (.other .value (e.message base s))

/-- The whole number that an object stands for. -/
def wholeOf (o : Object) : Except Fault Object :=
  match u.said? again o "__int__" [], u.plainOf o, u.place? again o with
  | some r, _, _ => do
    let other ← r
    match whole? (u.plainOf other) with
    | some n => return .int n
    | none => throw (typeFault ("__int__ returned non-int (type "
        ++ u.typeName (u.classOf other) ++ ")"))
  | none, _, some n => Object.int <$> n
  | none, .str s, none => wholeIn 10 s
  | none, .double x, none => .ok (((x.toInt?).map Object.int).getD (.ofBuiltin "int"))
  | none, _, none =>
    .error (typeFault ("int() argument must be a string, a bytes-like object or a real number, not "
      ++ Text.quoted (u.typeName (u.classOf o))))

/-- A new whole number, of a text in some base if one is given. -/
def newWhole (call : Call) : Except Fault Object := do
  let count := call.arguments.length + call.named.length
  if 2 < count then
    throw (typeFault ("int() takes at most 2 arguments (" ++ toString count ++ " given)"))
  if let some e := call.named.find? fun e => e.1 != "base" then
    throw (typeFault (Text.quoted e.1 ++ " is an invalid keyword argument for int()"))
  match call.arguments, call.arguments[1]? <|> call.named.lookup "base" with
  | [], none => return .int 0
  | [], some _ => throw (typeFault "int() missing string argument")
  | o :: _, none => u.wholeOf again o
  | o :: _, some base =>
    let base ← u.placeOf again base
    if base != 0 && (base < 2 || 36 < base) then
      throw (.other .value "int() base must be >= 2 and <= 36, or 0")
    match u.plainOf o with
    | .str s => if base == 0 then return .ofBuiltin "int" else wholeIn base.toNat s
    | _ => throw (typeFault "int() can't convert non-string with explicit base")

/-- A new machine number. -/
def newDouble (call : Call) : Except Fault Object := do
  if !call.named.isEmpty then throw (typeFault "float() takes no keyword arguments")
  requireOne "float" call
  let some o := call.arguments.head? | return .double (.ofFloat 0)
  match u.said? again o "__float__" [], u.plainOf o, u.place? again o with
  | some r, _, _ =>
    let other ← r
    match u.plainOf other with
    | .double x => return .double x
    | _ => throw (typeFault (u.plainName (u.classOf o) ++ ".__float__ returned non-float (type "
        ++ u.typeName (u.classOf other) ++ ")"))
  | none, .double x, _ => return .double x
  | none, .str s, _ =>
    match Decimal.readDouble? s with
    | some x => return .double x
    | none => throw (.other .value ("could not convert string to float: " ++ Text.quoted s))
  | none, _, some n => return .double (.ofFloat (Float.ofInt (← n)))
  | none, _, none =>
    throw (typeFault ("float() argument must be a string or a real number, not "
      ++ Text.quoted (u.typeName (u.classOf o))))

/-- A new text. No object is known that a text could be decoded from. -/
def newText (call : Call) : Except Fault Object := do
  let count := call.arguments.length + call.named.length
  if 3 < count then
    throw (typeFault ("str() takes at most 3 arguments (" ++ toString count ++ " given)"))
  let known := ["object", "encoding", "errors"]
  if let some e := call.named.find? fun e => !known.contains e.1 then
    throw (typeFault (Text.quoted e.1 ++ " is an invalid keyword argument for str()"))
  let given := fun (index : Nat) (name : String) =>
    call.arguments[index]? <|> call.named.lookup name
  for (index, name) in [(1, "encoding"), (2, "errors")] do
    if let some o := given index name then
      match u.plainOf o with
      | .str _ => pure ()
      | _ => throw (typeFault ("str() argument " ++ Text.quoted name ++ " must be str, not "
          ++ u.typeName (u.classOf o)))
  match given 0 "object", given 1 "encoding" <|> given 2 "errors" with
  | none, _ => return .str ""
  | some o, none => Object.str <$> u.asText again o
  | some o, some _ =>
    match u.plainOf o with
    | .str _ => throw (typeFault "decoding str is not supported")
    | _ => throw (typeFault ("decoding to str: need a bytes-like object, "
        ++ u.typeName (u.classOf o) ++ " found"))

end Universe

end TypeReach.Classes
