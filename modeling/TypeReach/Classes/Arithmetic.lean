import TypeReach.Classes.Object
import TypeReach.Fault
import TypeReach.Formula.Basic

/-!
# Arithmetic of plain values

What the operators of formulas give for numbers, and for texts and rows of objects as far as no
class has to be asked.
-/

namespace TypeReach.Classes

open Formula (Operator)

/-- A bitwise operation on whole numbers, negative ones with endless leading ones. -/
def bitwise (f : Nat → Nat → Nat) (a b : Int) : Int :=
  let bound := Nat.pow 2 (max a.natAbs.log2 b.natAbs.log2 + 2)
  let bits := fun (n : Int) => (n % (bound : Int)).toNat
  Int.bmod (f (bits a) (bits b)) bound

/-- The fault of a division by zero. -/
def zeroDivision (message : String) : Fault :=
  .other (.named "ZeroDivisionError") message

/-- An operator between whole numbers. -/
def wholeResult (operator : Operator) (a b : Int) : Except Fault (Option Object) :=
  let double := fun (x : Float) => some (Object.double (.ofFloat x))
  match operator with
  | .plus => .ok (some (.int (a + b)))
  | .minus => .ok (some (.int (a - b)))
  | .times => .ok (some (.int (a * b)))
  | .divided =>
    if b == 0 then .error (zeroDivision "division by zero")
    else .ok (double (Float.ofInt a / Float.ofInt b))
  | .floorDivided =>
    if b == 0 then .error (zeroDivision "integer division or modulo by zero")
    else .ok (some (.int (a.fdiv b)))
  | .remainder =>
    if b == 0 then .error (zeroDivision "integer modulo by zero")
    else .ok (some (.int (a.fmod b)))
  | .power =>
    if 0 ≤ b then .ok (some (if b ≤ 10000 then .int (Int.pow a b.toNat) else .ofBuiltin "int"))
    else if a == 0 then .error (zeroDivision "0.0 cannot be raised to a negative power")
    else .ok (double (Float.pow (Float.ofInt a) (Float.ofInt b)))
  | .shiftLeft =>
    if b < 0 then .error (.other .value "negative shift count")
    else .ok (some (if b ≤ 10000 then .int (a * (Nat.pow 2 b.toNat : Nat)) else .ofBuiltin "int"))
  | .shiftRight =>
    if b < 0 then .error (.other .value "negative shift count")
    else .ok (some (.int (a.fdiv (Nat.pow 2 (min b (a.natAbs.log2 + 1)).toNat : Nat))))
  | .either => .ok (some (.int (bitwise Nat.lor a b)))
  | .exclusive => .ok (some (.int (bitwise Nat.xor a b)))
  | .both => .ok (some (.int (bitwise Nat.land a b)))
  | .matrix => .ok none

/-- An operator between numbers of which one at least is no whole number. -/
def doubleResult (operator : Operator) (a b : Float) : Except Fault (Option Object) :=
  let double := fun (x : Float) => .ok (some (Object.double (.ofFloat x)))
  match operator with
  | .plus => double (a + b)
  | .minus => double (a - b)
  | .times => double (a * b)
  | .divided => if b == 0 then .error (zeroDivision "float division by zero") else double (a / b)
  | .floorDivided =>
    if b == 0 then .error (zeroDivision "float floor division by zero")
    else double (a / b).floor
  | .remainder =>
    if b == 0 then .error (zeroDivision "float modulo")
    else double (a - b * (a / b).floor)
  | .power => double (Float.pow a b)
  | _ => .ok none

/-- The whole number that an object is. -/
def whole? : Object → Option Int
  | .bool b => some (if b then 1 else 0)
  | .int n => some n
  | _ => none

/-- The machine number that an object is. -/
def float? : Object → Option Float
  | .double x => some x.toFloat
  | o => (whole? o).map Float.ofInt

/-- An operator between two truth values that gives one again. -/
def truthResult? (operator : Operator) (a b : Bool) : Option Bool :=
  match operator with
  | .either => some (a || b)
  | .exclusive => some (a != b)
  | .both => some (a && b)
  | _ => none

/-- A row of objects so many times. -/
def repeated {α : Type} (n : Int) (items : List α) : List α :=
  (List.replicate n.toNat items).flatten

/-- Several times a text or a row of objects. -/
def timesResult? (n : Int) : Object → Option Object
  | .str s => some (.str (String.ofList (repeated n s.toList)))
  | .list items => some (.list (repeated n items))
  | .tuple items => some (.tuple (repeated n items))
  | _ => none

/-- Whether an object is a text or a row of objects. -/
def isRow : Object → Bool
  | .str _ | .list _ | .tuple _ => true
  | _ => false

/-- The objects that a row, a text or a mapping is made of. -/
def iterated? : Object → Option (List Object)
  | .list items | .tuple items => some items
  | .mapping entries => some (entries.map Prod.fst)
  | .str s => some (s.toList.map fun c => .str c.toString)
  | .applied .plain origin args => some [.wrapped .spread (.applied .plain origin args)]
  | .applied .hint origin args => some [.wrapped .spread (.applied .hint origin args)]
  | .literal values => some [.wrapped .spread (.literal values)]
  | .wrapped f hint => some [.wrapped .spread (.wrapped f hint)]
  | .thing c =>
    if [ClassId.builtin "list", .builtin "dict", .builtin "set", .builtin "tuple", .builtin "bytes",
        .builtin "generator"].contains c then some []
    else none
  | _ => none

/-- Whether an object counts as true that is no record. -/
def plainTruth : Object → Bool
  | .null => false
  | .bool b => b
  | .int n => n != 0
  | .double x => !x.isZero
  | .str s => s != ""
  | .list items | .tuple items => !items.isEmpty
  | .mapping entries => !entries.isEmpty
  | _ => true

/-- Whether a text stands somewhere in another. -/
def occursIn (part : List Char) : List Char → Bool
  | [] => part.isEmpty
  | c :: cs => part.isPrefixOf (c :: cs) || occursIn part cs

/-- Which of two objects comes first, if they are numbers or texts. -/
def ordering? (a b : Object) : Option Ordering :=
  match a, b, whole? a, whole? b, float? a, float? b with
  | .str s, .str t, _, _, _, _ => some (compare s t)
  | _, _, some m, some n, _, _ => some (compare m n)
  | _, _, _, _, some x, some y => some (if x < y then .lt else if x == y then .eq else .gt)
  | _, _, _, _, _, _ => none

end TypeReach.Classes
