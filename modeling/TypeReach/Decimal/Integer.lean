import TypeReach.Text.Blank
import TypeReach.Text.Digit
import TypeReach.Text.Quoted

/-!
# Integers read from text

An integer may have blanks around it, a sign, digits of any script, and single underscores between
digits. In a base other than ten it may begin with the mark of its base. A decimal one of more than
4300 digits is refused.
-/

namespace TypeReach.Decimal

/-- Why a text is no integer. -/
inductive IntegerError where
  | invalid
  | tooLong (digits : Nat)
  deriving DecidableEq, Repr, Inhabited

/-- The most decimal digits an integer may be written with. -/
def maxDigits : Nat := 4300

/-- What is said about an integer that is too long to be written out. -/
def tooLongMessage : String :=
  "Exceeds the limit (" ++ toString maxDigits ++ " digits) for integer string conversion; "
    ++ "use sys.set_int_max_str_digits() to increase the limit"

/-- What is said about a text that is no integer in some base. -/
def IntegerError.message (base : Nat) (text : String) : IntegerError → String
  | invalid => "invalid literal for int() with base " ++ toString base ++ ": " ++ Text.quoted text
  | tooLong digits =>
    "Exceeds the limit (" ++ toString maxDigits
      ++ " digits) for integer string conversion: value has " ++ toString digits
      ++ " digits; use sys.set_int_max_str_digits() to increase the limit"

/-- The blanks allowed around a number: all but the information separators. -/
private def isMargin (c : Char) : Bool :=
  Text.isBlank c && !(0x1C ≤ c.toNat && c.toNat ≤ 0x1F)

/-- The characters without the blanks around them. -/
def dropMargins (cs : List Char) : List Char :=
  ((cs.dropWhile isMargin).reverse.dropWhile isMargin).reverse

/-- The value of a digit in some base; behind nine come the Latin letters. -/
def digitIn? (base : Nat) (c : Char) : Option Nat :=
  let value :=
    if 'a' ≤ c && c ≤ 'z' then some (c.toNat - 87)
    else if 'A' ≤ c && c ≤ 'Z' then some (c.toNat - 55)
    else Text.digitValue? c
  value.filter (· < base)

mutual

/-- The digits of a run that begins with a digit. -/
def digitRun (base : Nat) : List Char → Option (List Nat)
  | [] => none
  | c :: rest => do
    let d ← digitIn? base c
    let ds ← digitTail base rest
    return d :: ds

/-- The digits after a digit; an underscore needs another digit behind it. -/
def digitTail (base : Nat) : List Char → Option (List Nat)
  | [] => some []
  | '_' :: rest => digitRun base rest
  | c :: rest => do
    let d ← digitIn? base c
    let ds ← digitTail base rest
    return d :: ds

end

/-- The number with the given digits, the highest first. -/
def ofDigits (base : Nat) (ds : List Nat) : Nat :=
  ds.foldl (fun n d => base * n + d) 0

/-- The characters behind the mark of a base, if it is there. -/
private def dropBaseMark (base : Nat) : List Char → List Char
  | '0' :: mark :: rest =>
    if [(2, 'b'), (2, 'B'), (8, 'o'), (8, 'O'), (16, 'x'), (16, 'X')].contains (base, mark) then
      rest
    else '0' :: mark :: rest
  | cs => cs

private def readUnsigned (base : Nat) (cs : List Char) : Except IntegerError Nat :=
  match digitRun base (dropBaseMark base cs) with
  | none => .error .invalid
  | some ds =>
    if base == 10 && maxDigits < ds.length then .error (.tooLong ds.length)
    else .ok (ofDigits base ds)

/-- The integer that a text stands for in some base. -/
def readIntegerIn (base : Nat) (s : String) : Except IntegerError Int := do
  match dropMargins s.toList with
  | '-' :: rest => return -((← readUnsigned base rest) : Int)
  | '+' :: rest => return ((← readUnsigned base rest) : Int)
  | rest => return ((← readUnsigned base rest) : Int)

/-- The integer that a decimal text stands for, if any. -/
def readInteger? (s : String) : Option Int :=
  (readIntegerIn 10 s).toOption

end TypeReach.Decimal
