import TypeReach.Classes.Arithmetic
import TypeReach.Classes.Composition

/-!
# Operators on objects

Of two objects with an operator between them, the classes are asked what it gives; if they do not
say so, numbers, texts and rows of objects have their own operators, and classes and hints are
joined by the bar. Where an operator does not work on two objects, the fault names their classes.
-/

namespace TypeReach.Classes

open Formula (Operator Sign Comparison)

/-- The function of a class for an operator, without the lines around its name. -/
def operatorName : Operator → String
  | .either => "or"
  | .exclusive => "xor"
  | .both => "and"
  | .shiftLeft => "lshift"
  | .shiftRight => "rshift"
  | .plus => "add"
  | .minus => "sub"
  | .times => "mul"
  | .matrix => "matmul"
  | .divided => "truediv"
  | .floorDivided => "floordiv"
  | .remainder => "mod"
  | .power => "pow"

/-- The function of a class for a sign. -/
def signName : Sign → String
  | .plus => "__pos__"
  | .minus => "__neg__"
  | .complement => "__invert__"
  | .negation => "__bool__"

/-- The function of a class for a comparison, and the comparison from the other side. -/
def comparisonName? : Comparison → Option (String × Comparison)
  | .equal => some ("__eq__", .equal)
  | .unequal => some ("__ne__", .unequal)
  | .less => some ("__lt__", .greater)
  | .lessEqual => some ("__le__", .greaterEqual)
  | .greater => some ("__gt__", .less)
  | .greaterEqual => some ("__ge__", .lessEqual)
  | .same | .other | .inside | .outside => none

/-- The object by which a function says that it knows nothing of the other object. -/
def notImplemented : Object := .thing (.builtin "NotImplementedType")

/-- What a class says, unless it says that it knows nothing. -/
def unlessUnknown (said : Option (Except Fault Object)) : Option (Except Fault Object) :=
  said.filter fun
    | .ok (.thing c) => c != .builtin "NotImplementedType"
    | _ => true

namespace Universe

variable (u : Universe) (again : Caller)

/-! ### Records as plain values -/

/-- The whole number that an object is as a place in a row, if it can be one. -/
def place? (o : Object) : Option (Except Fault Int) :=
  match whole? (u.plainOf o), u.said? again o "__index__" [] with
  | some n, _ => some (.ok n)
  | none, some r => some do
    let other ← r
    match whole? (u.plainOf other) with
    | some n => return n
    | none => throw (typeFault ("__index__ returned non-int (type "
        ++ u.typeName (u.classOf other) ++ ")"))
  | none, none => none

/-- How long something is whose length is said to be an object. -/
def saidLength (o : Object) : Except Fault Nat := do
  match u.place? again o with
  | some r =>
    let n ← r
    if n < 0 then throw (.other .value "__len__() should return >= 0") else return n.toNat
  | none => throw (typeFault (Text.quoted (u.typeName (u.classOf o))
      ++ " object cannot be interpreted as an integer"))

/-- Whether an object counts as true. The class of a record says so, or says how long it is. -/
def truth (o : Object) : Except Fault Bool :=
  match u.said? again o "__bool__" [], u.said? again o "__len__" [] with
  | some r, _ => do
    match ← r with
    | .bool b => return b
    | other => throw (typeFault ("__bool__ should return bool, returned "
        ++ u.typeName (u.classOf other)))
  | none, some r => return (← u.saidLength again (← r)) != 0
  | none, none => .ok (plainTruth (u.plainOf o))

/-- An object as one would write it, where its class is asked for that. -/
def written (o : Object) : Except Fault String :=
  match u.saidIfRead? again o "__repr__" [] with
  | some r => do
    match ← r with
    | .str s => return s
    | .thing _ => u.printed o
    | other => throw (typeFault ("__repr__ returned non-string (type "
        ++ u.typeName (u.classOf other) ++ ")"))
  | none => u.printed o

/-- An object as a text by itself, where its class is asked for that. -/
def asText (o : Object) : Except Fault String :=
  match u.said? again o "__str__" [], o with
  | some r, _ => do
    match ← r with
    | .str s => return s
    | other => throw (typeFault ("__str__ returned non-string (type "
        ++ u.typeName (u.classOf other) ++ ")"))
  | none, .str s => .ok s
  | none, .record c _ =>
    match u.found? c "__str__" with
    | some (owner, .held _) => if owner == .builtin "object" then u.written again o else .ok ""
    | _ => u.written again o
  | none, o => u.printed o

/-! ### Rows of objects -/

/-- Whether the class of an object says that its objects are no rows. -/
def refusesRow (o : Object) : Bool :=
  match u.content? (u.classOf o) "__iter__" with
  | some (.attribute (.value .null)) | some (.held .nothing) => true
  | _ => false

/-- The objects that asking for one after the other gives, when asking once gives this: either none,
as the fault for the end of a row says, or the same one without end. -/
def untilEnd (ends : List String) (asked : Except Fault Object) : Except Fault (List Object) :=
  match asked with
  | .error (.other (.named name) message) =>
    if ends.contains name then .ok [] else .error (.other (.named name) message)
  | .error fault => .error fault
  | .ok _ => .error .nestedTooDeep

/-- The objects that a record is made of, if it is a row of objects. A class may say what is gone
through in place of a record, or what comes of asking for an object by its place. -/
def spreadRecord (o : Object) : Except Fault (Option (List Object)) := do
  if u.refusesRow o then return none
  match u.saidIfRead? again o "__iter__" [], u.plainOf o with
  | some r, _ =>
    let row ← r
    match u.said? again row "__next__" [] with
    | some next => return some (← untilEnd ["StopIteration"] next)
    | none => throw (typeFault ("iter() returned non-iterator of type "
        ++ Text.quoted (u.typeName (u.classOf row))))
  | none, .record .. =>
    match u.said? again o "__getitem__" [.int 0] with
    | some first => return some (← untilEnd ["IndexError", "StopIteration"] first)
    | none => return none
  | none, plain => return iterated? plain

/-- The objects that an object is made of, if it is a row of objects or can be spread; a hint that
is no type by itself cannot. -/
def spreadObjects (o : Object) : Except Fault (Option (List Object)) :=
  match o with
  | .wrapped .classWide _ | .wrapped .final _ | .parameters _ =>
    .error (typeFault (u.shown o ++ " is not valid as type argument"))
  | .record .. => u.spreadRecord again o
  | o => .ok (iterated? o)

/-! ### Operators -/

/-- Two texts or rows of objects one after the other; `b` is the second, and `q` what it is as a
plain value. -/
def concatenate (p q b : Object) : Except Fault Object :=
  match p, q with
  | .str s, .str t => .ok (.str (s ++ t))
  | .list xs, .list ys => .ok (.list (xs ++ ys))
  | .tuple xs, .tuple ys => .ok (.tuple (xs ++ ys))
  | p, _ =>
    let kind := u.typeName (u.classOf p)
    .error (typeFault ("can only concatenate " ++ kind ++ " (not \"" ++ u.typeName (u.classOf b)
      ++ "\") to " ++ kind))

/-- A text with objects in its places. Only a text without places is known here. -/
def filledText (s : String) (o : Object) : Except Fault Object :=
  let takesAnything := match o with
    | .mapping _ | .list _ | .applied .plain .. | .either _ | .bare _ | .tuple [] => true
    | .record c _ => (u.content? c "__getitem__").isSome
    | o => passesOn o
  if s.toList.contains '%' then .ok (.ofBuiltin "str")
  else if takesAnything then .ok (.str s)
  else .error (typeFault "not all arguments converted during string formatting")

/-- Several times a row, if one of two objects is a row. -/
def timesRow (a b : Object) : Except Fault (Option Object) :=
  let times := fun (row count : Object) => do
    match u.place? again count with
    | some n => return timesResult? (← n) row
    | none => throw (typeFault ("can't multiply sequence by non-int of type "
        ++ Text.quoted (u.typeName (u.classOf count))))
  if isRow (u.plainOf a) then times (u.plainOf a) b
  else if isRow (u.plainOf b) then times (u.plainOf b) a
  else .ok none

/-- An operator between objects that are no numbers. -/
def otherResult (operator : Operator) (a b : Object) : Except Fault Object :=
  let refusal : Except Fault Object := .error (u.operatorFault operator.text a b)
  match operator, u.plainOf a, u.plainOf b with
  | .either, .mapping es, .mapping fs =>
    .ok (.mapping ((es.filter fun e => !fs.any fun f => e.1.same f.1) ++ fs))
  | .either, _, _ => u.join a b
  | .plus, p, q => if isRow p then u.concatenate p q b else refusal
  | .times, _, _ => do
    match ← u.timesRow again a b with
    | some o => return o
    | none => refusal
  | .remainder, .str s, _ => u.filledText s b
  | _, _, _ => refusal

/-- Whether a class is below another and has something else under a name. -/
def overrides (c d : ClassId) (name : String) : Bool :=
  c != d && (u.order c).contains d
    && ((u.found? c name).map Prod.fst) != ((u.found? d name).map Prod.fst)

/-- Whether an object knows by itself about an operator behind it, whatever follows. -/
def leadsAlways (operator : Operator) (o : Object) : Bool :=
  match operator, u.plainOf o with
  | .either, o => joinsHints o
  | .remainder, .str _ => true
  | _, _ => false

/-- What the classes of two objects say about an operator between them. The class of the second is
asked first if it is below the other and says something of its own. -/
def saidBetween? (operator : Operator) (a b : Object) : Option (Except Fault Object) :=
  let (c, d) := (u.classOf a, u.classOf b)
  let turned := "__r" ++ operatorName operator ++ "__"
  let forward := u.said? again a ("__" ++ operatorName operator ++ "__") [b]
  let backward := if c == d || u.leadsAlways operator a then none else u.said? again b turned [a]
  unlessUnknown <| if u.overrides d c turned then backward <|> forward else forward <|> backward

/-- What an operator between two objects gives. -/
def operated (operator : Operator) (a b : Object) : Except Fault Object :=
  match u.saidBetween? again operator a b with
  | some r => r
  | none => do
    let (p, q) := (u.plainOf a, u.plainOf b)
    if let (.bool s, .bool t) := (p, q) then
      if let some r := truthResult? operator s t then return .bool r
    let found ← match whole? p, whole? q, float? p, float? q with
      | some m, some n, _, _ => wholeResult operator m n
      | _, _, some x, some y => doubleResult operator x y
      | _, _, _, _ => .ok none
    match found with
    | some o => return o
    | none => u.otherResult again operator a b

/-- What a sign in front of an object gives. -/
def signedResult (sign : Sign) (o : Object) : Except Fault Object :=
  let refusal : Except Fault Object := .error (typeFault ("bad operand type for unary "
    ++ sign.text ++ ": " ++ Text.quoted (u.typeName (u.classOf o))))
  let plain := u.plainOf o
  match sign, u.said? again o (signName sign) [], plain, whole? plain with
  | .negation, _, _, _ => do return .bool (!(← u.truth again o))
  | _, some r, _, _ => r
  | .plus, none, _, some n => .ok (.int n)
  | .minus, none, _, some n => .ok (.int (-n))
  | .complement, none, _, some n => .ok (.int (-n - 1))
  | .plus, none, .double x, _ => .ok (.double x)
  | .minus, none, .double x, _ => .ok (.double x.neg)
  | _, none, _, _ => refusal

/-! ### Comparisons -/

/-- What the class of a record says about a comparison with another object. Two objects are unequal
if it says that they are not equal. -/
def saidAbout? (comparison : Comparison) (o other : Object) : Option (Except Fault Object) :=
  let asked := fun (c : Comparison) =>
    (comparisonName? c).bind fun e => unlessUnknown (u.saidIfRead? again o e.1 [other])
  match comparison with
  | .unequal => asked .unequal <|> (asked .equal).map fun r => do
    return .bool (!(← u.truth again (← r)))
  | comparison => asked comparison

/-- What the classes of two objects say about a comparison. The class of the second is asked first
if it is below the other. -/
def saidCompared? (comparison : Comparison) (a b : Object) : Option (Except Fault Object) :=
  let (c, d) := (u.classOf a, u.classOf b)
  let forward := u.saidAbout? again comparison a b
  let backward := (comparisonName? comparison).bind fun e => u.saidAbout? again e.2 b a
  if c != d && (u.order d).contains c then backward <|> forward else forward <|> backward

/-- Whether two objects are equal whose classes say no more than that their fields are compared. -/
def plainlyEqual (a b : Object) : Except Fault Bool :=
  let comparesFields := fun (c : ClassId) => match u.content? c "__eq__" with
    | some (.attribute (.function f)) => match f.outcome with
      | .ok (.thing _) => true
      | _ => false
    | _ => false
  match a, b with
  | .record c fields, .record d others =>
    let fault? := u.missingField? c (fields.map Prod.fst)
      <|> u.missingField? d (others.map Prod.fst)
    match if c == d && comparesFields c then fault? else none with
    | some fault => .error fault
    | none => .ok ((u.plainOf a).same (u.plainOf b))
  | a, b => .ok ((u.plainOf a).same (u.plainOf b))

/-- Whether an object is another, or is said to be equal to it. -/
def isEqual (a b : Object) : Except Fault Bool :=
  if u.classOf a == u.classOf b && a.same b then .ok true
  else match u.saidCompared? again .equal a b with
    | some r => do u.truth again (← r)
    | none => u.plainlyEqual a b

/-- Whether an object is one of those in another. -/
def isInside (o container : Object) : Except Fault Bool :=
  let refusal := typeFault ("argument of type "
    ++ Text.quoted (u.typeName (u.classOf container)) ++ " is not iterable")
  match u.content? (u.classOf container) "__contains__", u.said? again container "__contains__" [o],
    u.plainOf container with
  | some (.attribute (.value .null)), some _, _ => .error (typeFault
      (Text.quoted (u.typeName (u.classOf container)) ++ " object is not a container"))
  | _, some r, _ => do u.truth again (← r)
  | _, none, .list items | _, none, .tuple items => items.anyM fun item => u.isEqual again item o
  | _, none, .mapping entries => do
    u.requireFixed [o]
    return entries.any fun e => o.same e.1
  | _, none, .str s =>
    match u.plainOf o with
    | .str part => .ok (occursIn part.toList s.toList)
    | _ => .error (typeFault ("'in <string>' requires string as left operand, not "
        ++ u.typeName (u.classOf o)))
  | _, none, _ =>
    let asksForRow := match u.content? (u.classOf container) "__iter__" with
      | some (.attribute _) => true
      | _ => false
    match u.spreadObjects again container with
    | .ok (some items) => items.anyM fun item => u.isEqual again item o
    | .ok none => .error refusal
    | .error (.other .type message) =>
      .error (if asksForRow then refusal else .other .type message)
    | .error fault => .error fault

/-- The fault of a comparison that tells nothing about two objects. -/
def comparisonFault (comparison : Comparison) (a b : Object) : Fault :=
  typeFault (Text.quoted comparison.text ++ " not supported between instances of "
    ++ Text.quoted (u.typeName (u.classOf a)) ++ " and "
    ++ Text.quoted (u.typeName (u.classOf b)))

/-- Whether the order of two objects that hold no others is as asked. Nothing stands before or after
what is no number. -/
def plainlyOrdered (comparison : Comparison) (holds : Ordering → Bool) (a b : Object) :
    Except Fault Object :=
  let isNoNumber := fun
    | Object.double x => x.isNaN
    | _ => false
  match u.plainOf a, u.plainOf b with
  | .list xs, .list ys | .tuple xs, .tuple ys => .ok (.bool (holds (compare xs.length ys.length)))
  | p, q =>
    match ordering? p q with
    | some o => .ok (.bool (!isNoNumber p && !isNoNumber q && holds o))
    | none => .error (u.comparisonFault comparison a b)

mutual

/-- Whether the order of two objects is as asked: that of numbers or texts, or that of the first
objects in which two rows differ. -/
def isOrdered (comparison : Comparison) (holds : Ordering → Bool) :
    Object → Object → Except Fault Object
  | .list xs, .list ys | .tuple xs, .tuple ys => areOrdered comparison holds xs ys
  | a, b => u.plainlyOrdered comparison holds a b

/-- Whether the order of two rows of objects is as asked. -/
def areOrdered (comparison : Comparison) (holds : Ordering → Bool) :
    List Object → List Object → Except Fault Object
  | x :: xs, y :: ys => do
    if ← u.isEqual again x y then areOrdered comparison holds xs ys
    else match u.saidCompared? again comparison x y with
      | some r => r
      | none => isOrdered comparison holds x y
  | xs, ys => .ok (.bool (holds (compare xs.length ys.length)))

end

/-- The answer to a comparison of two objects, of which their classes may say something else than
whether it is true. -/
def comparedResult (comparison : Comparison) (a b : Object) : Except Fault Object :=
  let isSame := u.classOf a == u.classOf b && a.same b
  match u.saidCompared? again comparison a b with
  | some r => r
  | none =>
    let ordered := fun holds => u.isOrdered again comparison holds a b
    match comparison with
    | .equal => Object.bool <$> u.plainlyEqual a b
    | .unequal => do return .bool (!(← u.plainlyEqual a b))
    | .same => .ok (.bool isSame)
    | .other => .ok (.bool !isSame)
    | .less => ordered Ordering.isLT
    | .lessEqual => ordered Ordering.isLE
    | .greater => ordered Ordering.isGT
    | .greaterEqual => ordered Ordering.isGE
    | .inside => Object.bool <$> u.isInside again a b
    | .outside => do return .bool (!(← u.isInside again a b))

end Universe

end TypeReach.Classes
