import TypeReach.Classes.Reading

/-!
# What formulas stand for

A formula is read in a scope, which tells what names stand for. Its parts are read from left to
right, and the first fault among them is the fault of the formula. What a function returns that is
called in a formula is not looked at.
-/

namespace TypeReach.Classes

/-- What the names in a formula stand for. -/
abbrev Scope := String → Except Fault Object

/-- The fault of a name that stands for nothing. -/
def undefined (name : String) : Fault :=
  .unknownName ("name '" ++ String.ofList (Missing.cutChars 200 name.toList) ++ "' is not defined")
    (some name)

/-- What a constant stands for. -/
def constantObject : Formula.Constant → Object
  | .null => .null
  | .bool b => .bool b
  | .int n => .int n
  | .double x => .double x
  | .imaginary => .ofBuiltin "complex"
  | .str s => .str s
  | .bytes => .ofBuiltin "bytes"
  | .rest => .rest

/-- The item of a row at an index, where negative ones count from the end. -/
def itemAt? {α : Type} (items : List α) (index : Int) : Option α :=
  if 0 ≤ index then items[index.toNat]?
  else if -index ≤ items.length then items[(items.length + index).toNat]?
  else none

/-- The items of a row from an end to another, in steps; ends that are left out are those of the
row. -/
def stretch {α : Type} (items : List α) (start stop : Option Int) (step : Int) : List α :=
  let n : Int := items.length
  let (low, high) : Int × Int := if 0 < step then (0, n) else (-1, n - 1)
  let place := fun (index : Int) => max low (min high (if index < 0 then index + n else index))
  let first := (start.map place).getD (if 0 < step then low else high)
  let behind := (stop.map place).getD (if 0 < step then high else low)
  let count := if 0 < step then (behind - first + step - 1) / step
    else (first - behind - step - 1) / (-step)
  (List.range count.toNat).filterMap fun (k : Nat) => items[(first + k * step).toNat]?

namespace Universe

variable (u : Universe)

/-- An end of a slice, unless it is left out. -/
def sliceEnd? (o : Object) : Except Fault (Option Int) :=
  match o, u.place? u.called o with
  | .null, _ => .ok none
  | _, some r => some <$> r
  | _, none => .error (typeFault
      "slice indices must be integers or None or have an __index__ method")

/-- The item of a row at what stands between the brackets, or what a slice leaves of the row, which
`remake` makes a row again. -/
def rowItem (kind : String) (remake : List Object → Object) (items : List Object)
    (index : Object) : Except Fault Object :=
  match index, u.place? u.called index with
  | _, some r => do
    match itemAt? items (← r) with
    | some o => return o
    | none => throw (.other (.named "IndexError") (kind ++ " index out of range"))
  | .slice start stop step, none => do
    let step := (← u.sliceEnd? step).getD 1
    if step == 0 then throw (.other .value "slice step cannot be zero")
    return remake (stretch items (← u.sliceEnd? start) (← u.sliceEnd? stop) step)
  | index, none =>
    let name := u.typeName (u.classOf index)
    let rule := if kind == "string" then "integers, not " ++ Text.quoted name
      else "integers or slices, not " ++ name
    .error (typeFault (kind ++ " indices must be " ++ rule))

/-- An object as a part of a text, where its class is asked for that. -/
def formatted (o : Object) : Except Fault String :=
  match u.said? u.called o "__format__" [.str ""] with
  | some r => do
    match ← r with
    | .str s => return s
    | other => throw (typeFault ("__format__ must return a str, not "
        ++ u.typeName (u.classOf other)))
  | none => u.asText u.called o

/-- What stands in an object that is no record under what is between the brackets. -/
def plainItem (o index : Object) : Except Fault Object :=
  match o with
  | .cls c => u.apply c (itemsOf index)
  | .anything => u.apply (.standard "typing" "Any") (itemsOf index)
  | .bare f => u.applyForm f index
  | .list items => u.rowItem "list" .list items index
  | .tuple items => u.rowItem "tuple" .tuple items index
  | .str s =>
    let remake := fun (os : List Object) => Object.str (String.join (os.map plainText))
    u.rowItem "string" remake (s.toList.map fun c => .str c.toString) index
  | .mapping entries => do
    u.requireFixed [index]
    match entries.find? fun e => e.1.same index with
    | some e => .ok e.2
    | none => do throw (.other (.named "KeyError") (← u.printed index))
  | .either _ => u.applyHint o (itemsOf index)
  | .applied .plain .. => u.applyHint o (itemsOf index)
  | o =>
    if passesOn o then u.applyHint o (itemsOf index)
    else .error (typeFault
      (Text.quoted (u.typeName (u.classOf o)) ++ " object is not subscriptable"))

/-- What stands in an object under what is between the brackets. -/
def item (o index : Object) : Except Fault Object :=
  match u.said? u.called o "__getitem__" [index], u.plainOf o with
  | some r, _ => r
  | none, .mapping entries => u.plainItem (.mapping entries) index
  | none, plain => u.plainItem (if isRow plain then plain else o) index

/-- The entries that a mapping takes over from an object. -/
def entriesOf (o : Object) : Except Fault (List (Object × Object)) :=
  match o with
  | .mapping entries => .ok entries
  | .thing (.standard "builtins" "dict") => .ok []
  | o => .error (typeFault (Text.quoted (u.typeName (u.classOf o)) ++ " object is not a mapping"))

/-- What a part of a formula stands for; the objects of a spread part take its place. -/
structure Reading where
  isSpread : Bool
  outcome : Except Fault Object

/-- The fault of an object that is spread and is no row of objects. -/
def spreadFault (o : Object) : Fault :=
  if u.refusesRow o then u.notIterable o
  else typeFault ("Value after * must be an iterable, not " ++ u.typeName (u.classOf o))

/-- The objects that parts of a formula stand for. -/
def gathered : List Reading → Except Fault (List Object)
  | [] => .ok []
  | r :: rs => do
    let o ← r.outcome
    let objects ← if !r.isSpread then pure [o] else match ← u.spreadObjects u.called o with
      | some objects => pure objects
      | none => throw (u.spreadFault o)
    return objects ++ (← gathered rs)

/-- How an object that is called shows in messages about what it is called with. -/
def calledName (o : Object) : String :=
  match u.read o "__qualname__", u.read o "__module__" with
  | .ok (.str qualname), .ok (.str module) =>
    (if module == "builtins" then qualname else module ++ "." ++ qualname) ++ "()"
  | .ok (.str qualname), _ => qualname ++ "()"
  | _, _ => u.shown o

/-- The objects that an object is called with by their places. -/
def calledWith (o : Object) : List Reading → Except Fault (List Object)
  | [⟨true, outcome⟩] => do
    let row ← outcome
    match ← u.spreadObjects u.called row, u.refusesRow row with
    | some objects, _ => return objects
    | none, true => throw (u.notIterable row)
    | none, false => throw (typeFault (u.calledName o
        ++ " argument after * must be an iterable, not " ++ u.typeName (u.classOf row)))
  | readings => u.gathered readings

/-- The objects that an object is called with by names, after those that are there. -/
def calledWithNames (o : Object) (found : List (String × Object)) :
    List (Option String × Reading) → Except Fault (List (String × Object))
  | [] => .ok found
  | (some name, r) :: rest => do
    calledWithNames o (← entry found (name, ← r.outcome)) rest
  | (none, r) :: rest => do
    match ← r.outcome with
    | .mapping entries => calledWithNames o (← entries.foldlM spreadEntry found) rest
    | .thing (.standard "builtins" "dict") => calledWithNames o found rest
    | other => throw (typeFault (u.calledName o ++ " argument after ** must be a mapping, not "
        ++ u.typeName (u.classOf other)))
where
  /-- Another object by a name, which is not there yet. -/
  entry (found : List (String × Object)) (e : String × Object) :
      Except Fault (List (String × Object)) :=
    if (found.lookup e.1).isSome then
      .error (typeFault (u.calledName o ++ " got multiple values for keyword argument "
        ++ Text.quoted e.1))
    else .ok (found ++ [e])
  /-- Another object under a key of a mapping. -/
  spreadEntry (found : List (String × Object)) (e : Object × Object) :
      Except Fault (List (String × Object)) :=
    match e.1 with
    | .str name => entry found (name, e.2)
    | _ => .error (typeFault "keywords must be strings")

/-- The entries that keys and values stand for, after those that are there. -/
def gatheredEntries (found : List (Object × Object)) :
    List (Reading × Reading) → Except Fault (List (Object × Object))
  | [] => .ok found
  | (k, v) :: rest => do
    let key ← k.outcome
    if k.isSpread then
      let more ← u.entriesOf key
      gatheredEntries (more.foldl (fun es e => withEntry es e.1 e.2) found) rest
    else
      let value ← v.outcome
      u.requireFixed [key]
      gatheredEntries (withEntry found key value) rest

/-- The answer to comparisons of neighbours, of which `left` is the first: that of the last one, or
of the first that does not count as true. -/
def comparisonChain (left : Object) :
    List (Formula.Comparison × Reading) → Except Fault Object
  | [] => .ok (.bool true)
  | [(comparison, r)] => do u.comparedResult u.called comparison left (← r.outcome)
  | (comparison, r) :: rest => do
    let right ← r.outcome
    let answer ← u.comparedResult u.called comparison left right
    if ← u.isTrue answer then comparisonChain right rest else return answer

mutual

/-- What a formula stands for. -/
def meaning (scope : Scope) : Formula → Except Fault Object
  | .name n => scope n
  | .constant c => .ok (constantObject c)
  | .member f n => do u.read (← meaning scope f) n
  | .item f index => do
    let o ← meaning scope f
    u.item o (← meaning scope index)
  | .slice f g h => do
    let start ← meaning scope f
    let stop ← meaning scope g
    return .slice start stop (← meaning scope h)
  | .tuple fs => return .tuple (← u.gathered (meanings scope fs))
  | .list fs => return .list (← u.gathered (meanings scope fs))
  | .set fs => do
    u.requireFixed (← u.gathered (meanings scope fs))
    return .ofBuiltin "set"
  | .mapping keys values => do
    return .mapping (← u.gatheredEntries [] ((meanings scope keys).zip (meanings scope values)))
  | .spread f => meaning scope f
  | .binary operator f g => do
    let a ← meaning scope f
    u.operated u.called operator a (← meaning scope g)
  | .signed sign f => do u.signedResult u.called sign (← meaning scope f)
  | .compared first comparisons others => do
    u.comparisonChain (← meaning scope first) (comparisons.zip (meanings scope others))
  | .and f g => do
    let a ← meaning scope f
    if ← u.isTrue a then meaning scope g else return a
  | .or f g => do
    let a ← meaning scope f
    if ← u.isTrue a then return a else meaning scope g
  | .choice condition yes no => do
    if ← u.isTrue (← meaning scope condition) then meaning scope yes
    else meaning scope no
  | .call f arguments names values => do
    let o ← meaning scope f
    let arguments ← u.calledWith o (meanings scope arguments)
    let named ← u.calledWithNames o [] (names.zip (meanings scope values))
    u.result o { arguments, named }
  | .function => .ok (.feature functionClass none "<lambda>")
  | .loop kind f => do
    let o ← meaning scope f
    if (← u.spreadObjects u.called o).isNone then
      throw (u.notIterable o)
    return .ofBuiltin <| match kind with
      | .generator => "generator"
      | .list => "list"
      | .set => "set"
      | .mapping => "dict"
  | .joined fs => do
    let parts ← u.gathered (meanings scope fs)
    return .str (String.join (← parts.mapM u.formatted))
  | .named _ f => meaning scope f

/-- What several formulas stand for. -/
def meanings (scope : Scope) : List Formula → List Reading
  | [] => []
  | .spread f :: fs => ⟨true, meaning scope f⟩ :: meanings scope fs
  | f :: fs => ⟨false, meaning scope f⟩ :: meanings scope fs

end

end Universe

end TypeReach.Classes
