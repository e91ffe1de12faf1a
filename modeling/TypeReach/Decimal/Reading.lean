import TypeReach.Decimal.Double
import TypeReach.Decimal.Integer
import TypeReach.Text.LetterCase

/-!
# Doubles read from text

A double is written like an integer, with an optional fraction and an optional power of ten, or as
a word for infinity or for no number.
-/

namespace TypeReach.Decimal

/-- The digits of a run that may be empty. -/
private def optionalRun : List Char → Option (List Nat)
  | [] => some []
  | cs => digitRun 10 cs

/-- The parts in front of and behind the first character that satisfies a test; the latter only if
there is one. -/
private def cutAt (test : Char → Bool) (cs : List Char) : List Char × Option (List Char) :=
  let front := cs.takeWhile fun c => !test c
  match cs.drop front.length with
  | [] => (front, none)
  | _ :: back => (front, some back)

/-- A power of ten, with an optional sign. -/
private def readExponent? : List Char → Option Int
  | '-' :: rest => (digitRun 10 rest).map fun ds => -(ofDigits 10 ds : Int)
  | '+' :: rest => (digitRun 10 rest).map fun ds => (ofDigits 10 ds : Int)
  | rest => (digitRun 10 rest).map fun ds => (ofDigits 10 ds : Int)

private def readUnsignedDouble? (cs : List Char) : Option Double :=
  let word := Text.lower (String.ofList cs)
  if word == "inf" || word == "infinity" then some .infinity
  else if word == "nan" then some .nan
  else do
    let (mantissa, power) := cutAt (fun c => c == 'e' || c == 'E') cs
    let exponent ← match power with
      | none => some 0
      | some power => readExponent? power
    let (whole, fraction) := cutAt (· == '.') mantissa
    let front ← optionalRun whole
    let back ← optionalRun (fraction.getD [])
    if front.isEmpty && back.isEmpty then none
    else some (Double.ofDecimal (ofDigits 10 (front ++ back)) (exponent - back.length))

/-- The double that a text stands for, if any. -/
def readDouble? (s : String) : Option Double :=
  match dropMargins s.toList with
  | '-' :: rest => (readUnsignedDouble? rest).map Double.neg
  | '+' :: rest => readUnsignedDouble? rest
  | rest => readUnsignedDouble? rest

end TypeReach.Decimal
