import TypeReach.Decimal.Double

/-!
# Shortest decimal text of a double

The digits written are the fewest whose number rounds back to the double, and of those the nearest
to it. Numbers from `1e-4` up to below `1e16` are written positionally, with at least one digit on
either side of the point; others have an exponent of at least two digits.
-/

namespace TypeReach.Double

/-- A decimal number `digits` times ten to the `exponent`. -/
structure Decimal where
  digits : Nat
  exponent : Int
  deriving DecidableEq, Repr

/-- A ratio of two naturals times a power of ten, as a ratio. -/
private def scaleByTen (num den : Nat) (power : Int) : Nat × Nat :=
  if 0 ≤ power then (num * Nat.pow 10 power.toNat, den) else (num, den * Nat.pow 10 (-power).toNat)

/-- The exponent of the first decimal digit of a positive ratio. -/
def leadingExponent (num den : Nat) : Int :=
  if den ≤ num then ((Nat.toDigits 10 (num / den)).length : Int) - 1
  else
    let steps := (den + num - 1) / num
    if steps ≤ 1 then 0 else -((Nat.toDigits 10 (steps - 1)).length : Int)

/-- The multiples of ten to the `power` next to `num / den` that lie between `low / den` and
`high / den`, the ends counted when `closed` holds; of two, the nearer to the ratio, and of
equally near ones the even one. -/
def onGrid (low num high den : Nat) (closed : Bool) (power : Int) : Option Nat :=
  let (n, d) := scaleByTen num den (-power)
  let (l, _) := scaleByTen low den (-power)
  let (h, _) := scaleByTen high den (-power)
  let below := n / d
  let above := below + 1
  let fits := fun x => if closed then l ≤ x * d && x * d ≤ h else l < x * d && x * d < h
  match fits below, fits above with
  | true, true =>
    let up := above * d - n
    let down := n - below * d
    some (if down < up || (down == up && below % 2 == 0) then below else above)
  | true, false => some below
  | false, true => some above
  | false, false => none

/-- The first of the grids of one, two, … seventeen digits that has a hit. -/
private def firstHit (low num high den : Nat) (closed : Bool) (lead : Int) :
    Nat → Nat → Decimal
  | 0, _ => ⟨num / den, 0⟩
  | tries + 1, count =>
    let power := lead - count
    match onGrid low num high den closed power with
    | some digits => ⟨digits, power⟩
    | none => firstHit low num high den closed lead tries (count + 1)

/-- The shortest decimal that rounds to `units` (not zero) times two to the `exponent`. -/
def shortest (units : Nat) (exponent : Int) : Decimal :=
  -- Four quarter units are a unit; the neighbour below a power of two is half as far away.
  let lowest := units == Double.wholeUnits && exponent != -1074
  let (low, mid, high) :=
    (if lowest then 4 * units - 1 else 4 * units - 2, 4 * units, 4 * units + 2)
  let up := if 0 ≤ exponent then Nat.pow 2 exponent.toNat else 1
  let den := 4 * if 0 ≤ exponent then 1 else Nat.pow 2 (-exponent).toNat
  firstHit (low * up) (mid * up) (high * up) den (units % 2 == 0)
    (leadingExponent (mid * up) den) 17 0

private def zerosText (n : Nat) : List Char := List.replicate n '0'

/-- Digits without the zeros at their end. -/
private def dropTrailingZeros (ds : List Char) : List Char :=
  (ds.reverse.dropWhile (· == '0')).reverse

/-- The text of a positive decimal. -/
def decimalText (d : Decimal) : List Char :=
  let all := Nat.toDigits 10 d.digits
  let lead := (all.length : Int) - 1 + d.exponent
  let ds := dropTrailingZeros all
  if -4 ≤ lead && lead < 16 then
    if lead < 0 then "0.".toList ++ zerosText (-lead - 1).toNat ++ ds
    else
      let whole := lead.toNat + 1
      let front := ds.take whole ++ zerosText (whole - ds.length)
      let back := ds.drop whole
      front ++ ['.'] ++ (if back.isEmpty then ['0'] else back)
  else
    let mantissa := match ds with
      | [] => ['0']
      | [x] => [x]
      | x :: rest => x :: '.' :: rest
    let size := Nat.toDigits 10 lead.natAbs
    mantissa ++ ['e', if lead < 0 then '-' else '+']
      ++ (if size.length < 2 then '0' :: size else size)

/-- The text of a double. -/
def text (x : Double) : String :=
  match x.view with
  | .nan => "nan"
  | .infinite negative => if negative then "-inf" else "inf"
  | .finite negative units exponent =>
    let body := if units == 0 then "0.0".toList else decimalText (shortest units exponent)
    String.ofList (if negative then '-' :: body else body)

end TypeReach.Double
