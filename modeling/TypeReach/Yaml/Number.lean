import TypeReach.Decimal.Reading
import TypeReach.Yaml.Token

/-!
# Numbers of YAML

Integers are binary, octal behind a zero, decimal, hexadecimal, or in base sixty with colons.
Floating-point numbers have a point, an optional power of ten with a sign, or are in base sixty with
a point; there are words for infinity and for no number. Underscores may stand between digits.
-/

namespace TypeReach.Yaml

private def isDigitOrBar (c : Char) : Bool := c.isDigit || c == '_'

/-- The characters behind a sign, if there is one. -/
private def dropSign : List Char → List Char
  | '+' :: rest => rest
  | '-' :: rest => rest
  | cs => cs

/-- The characters between colons. -/
def splitColons (cs : List Char) : List (List Char) := cs.splitOn ':'

/-- Whether the characters are a number below sixty, of one or two digits. -/
private def isSixtieth : List Char → Bool
  | [a] => a.isDigit
  | [a, b] => '0' ≤ a && a ≤ '5' && b.isDigit
  | _ => false

/-- Whether the characters are digits and underscores with a digit in front. -/
private def startsWithDigit : List Char → Bool
  | [] => false
  | c :: cs => c.isDigit && cs.all isDigitOrBar

/-- Whether the characters are a number in base sixty, with more than one place. -/
private def isSixties (zeroFirst : Bool) (cs : List Char) : Bool :=
  match splitColons cs with
  | first :: second :: more =>
    startsWithDigit first && (zeroFirst || first.head? != some '0')
      && (second :: more).all isSixtieth
  | _ => false

/-- Whether a plain scalar is an integer. -/
def isInteger (cs : List Char) : Bool :=
  match dropSign cs with
  | ['0'] => true
  | '0' :: 'b' :: ds => !ds.isEmpty && ds.all fun c => c == '0' || c == '1' || c == '_'
  | '0' :: 'x' :: ds =>
    !ds.isEmpty && ds.all fun c =>
      isDigitOrBar c || ('a' ≤ c && c ≤ 'f') || ('A' ≤ c && c ≤ 'F')
  | '0' :: ds => ds.all fun c => ('0' ≤ c && c ≤ '7') || c == '_'
  | ds => startsWithDigit ds || isSixties false ds

/-- Whether the characters are a power of ten with a sign, or nothing. -/
private def isPower : List Char → Bool
  | [] => true
  | e :: sign :: ds =>
    (e == 'e' || e == 'E') && (sign == '+' || sign == '-') && !ds.isEmpty && ds.all Char.isDigit
  | _ => false

/-- Whether the characters are a point, digits, and an optional power of ten. -/
private def isFraction : List Char → Bool
  | '.' :: cs => isPower (cs.dropWhile isDigitOrBar)
  | _ => false

/-- Whether a plain scalar is a floating-point number. -/
def isFloating (cs : List Char) : Bool :=
  let ds := dropSign cs
  let whole := ds.takeWhile isDigitOrBar
  let base := ds.takeWhile (· != '.')
  let behind := ds.drop base.length
  (startsWithDigit whole && isFraction (ds.drop whole.length))
    || (isSixties true base && behind.head? == some '.' && behind.tail.all isDigitOrBar)
    || [".inf", ".Inf", ".INF"].contains (String.ofList ds)
    || (match cs with
      | '.' :: d :: _ => d.isDigit && isFraction cs
      | _ => false)
    || [".nan", ".NaN", ".NAN"].contains (String.ofList cs)

/-- A failure of a scalar to be a number. -/
private def failed {β : Type} (kind : FaultKind) (message : String) : Except YamlError β :=
  .error (.unreadable kind message)

/-- The sign of a number and the characters behind it. -/
private def readSign : List Char → Except YamlError (Bool × List Char)
  | [] => failed (.named "IndexError") "string index out of range"
  | '-' :: rest => .ok (true, rest)
  | '+' :: rest => .ok (false, rest)
  | cs => .ok (false, cs)

private def readIn (base : Nat) (cs : List Char) : Except YamlError Int :=
  let text := String.ofList cs
  match Decimal.readIntegerIn base text with
  | .ok n => .ok n
  | .error why => failed .value (why.message base text)

private def readDigits (cs : List Char) : Except YamlError Int :=
  match cs with
  | [] => failed (.named "IndexError") "string index out of range"
  | ['0'] => .ok 0
  | '0' :: 'b' :: rest => readIn 2 rest
  | '0' :: 'x' :: rest => readIn 16 rest
  | '0' :: _ => readIn 8 cs
  | _ =>
    if cs.contains ':' then do
      let places ← (splitColons cs).mapM (readIn 10)
      return places.foldl (fun n d => 60 * n + d) 0
    else readIn 10 cs

/-- The integer that a scalar stands for. -/
def readInteger (text : String) : Except YamlError Int := do
  let (negative, cs) ← readSign (text.toList.filter (· != '_'))
  let n ← readDigits cs
  return if negative then -n else n

private def readDouble (cs : List Char) : Except YamlError Double :=
  let text := String.ofList cs
  match Decimal.readDouble? text with
  | some x => .ok x
  | none => failed .value ("could not convert string to float: " ++ Text.quoted text)

/-- The value of a whole number as a double, unless it is too large for one. -/
private def doubleOf (n : Nat) : Except YamlError Float :=
  let x := Double.ofDecimal n 0
  if x == Double.infinity then failed (.named "OverflowError") "int too large to convert to float"
  else .ok x.toFloat

/-- The value of places in base sixty, the lowest first: every place is rounded by itself. -/
private def addPlaces (total : Float) (base : Nat) : List Double → Except YamlError Float
  | [] => .ok total
  | x :: rest => do addPlaces (total + x.toFloat * (← doubleOf base)) (60 * base) rest

/-- The floating-point number that a scalar stands for. A text that is no number gives a value of
its own for each `mark`, unless it is written with a point. -/
def readFloating (mark : Nat) (text : String) : Except YamlError Double := do
  let plain := String.ofList (text.toList.filter (· != '_'))
  let (negative, cs) ← readSign (Text.lower plain).toList
  if cs == ".nan".toList then return Double.nan
  else
    let x ←
      if cs == ".inf".toList then pure Double.infinity
      else if cs.contains ':' then do
        let places ← (splitColons cs).mapM readDouble
        pure (Double.ofFloat (← addPlaces 0 1 places.reverse))
      else readDouble cs
    return if x.isNaN then Double.markedNaN (mark + 1) else if negative then x.neg else x

end TypeReach.Yaml
