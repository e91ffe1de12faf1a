/-!
# Double-precision numbers

A double is its sixty-four bits. A finite one is a whole number of units times a power of two.
-/

namespace TypeReach

/-- A double-precision number, by its bits. -/
structure Double where
  bits : UInt64
  deriving DecidableEq, Repr, Inhabited

namespace Double

/-- A double as a number: its sign, and units times a power of two. -/
inductive View where
  | finite (negative : Bool) (units : Nat) (exponent : Int)
  | infinite (negative : Bool)
  | nan
  deriving DecidableEq, Repr

/-- The number of fractions, which is the fewest units of a double that is not near zero. -/
def wholeUnits : Nat := 0x10000000000000

/-- What the sign, the eleven exponent bits and the fifty-two fraction bits say. -/
def view (x : Double) : View :=
  let n := x.bits.toNat
  let negative := n / 0x8000000000000000 == 1
  let exponent : Nat := n / wholeUnits % 0x800
  let fraction := n % wholeUnits
  if exponent == 0x7FF then
    if fraction == 0 then .infinite negative else .nan
  else if exponent == 0 then .finite negative fraction (-1074)
  else .finite negative (wholeUnits + fraction) ((exponent : Int) - 1075)

def infinity : Double := ⟨0x7FF0000000000000⟩
def negInfinity : Double := ⟨0xFFF0000000000000⟩

/-- One of the doubles that are no number. Each of them equals itself only. -/
def markedNaN (mark : Nat) : Double := ⟨0x7FF8000000000000 + mark.toUInt64⟩

def nan : Double := markedNaN 0

/-- The double of a machine number. -/
def ofFloat (x : Float) : Double := ⟨x.toBits⟩

/-- The machine number of a double. -/
def toFloat (x : Double) : Float := Float.ofBits x.bits

/-- The double with the sign turned round. -/
def neg (x : Double) : Double := ⟨x.bits ^^^ 0x8000000000000000⟩

/-- The double nearest to `digits` times ten to the `exponent`. -/
def ofDecimal (digits : Nat) (exponent : Int) : Double :=
  let size := (Nat.toDigits 10 digits).length
  if digits == 0 then ⟨0⟩
  else if size + exponent > 400 then infinity
  else if size + exponent < -400 then ⟨0⟩
  else ofFloat (Float.ofScientific digits (exponent < 0) exponent.natAbs)

/-- Whether the double is no number. -/
def isNaN (x : Double) : Bool := x.view == .nan

/-- Whether the double is a zero of either sign. -/
def isZero (x : Double) : Bool :=
  match x.view with
  | .finite _ units _ => units == 0
  | _ => false

/-- The integer that equals the double, if one does. -/
def toInt? (x : Double) : Option Int :=
  match x.view with
  | .finite negative units exponent =>
    let sign : Int := if negative then -1 else 1
    if 0 ≤ exponent then some (sign * (units * Nat.pow 2 exponent.toNat : Nat))
    else
      let unit := Nat.pow 2 (-exponent).toNat
      if units % unit == 0 then some (sign * (units / unit : Nat)) else none
  | _ => none

end Double

end TypeReach
