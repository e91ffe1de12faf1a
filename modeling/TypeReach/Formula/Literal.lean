import TypeReach.Decimal.Reading
import TypeReach.Formula.Basic
import TypeReach.Text.Surrogate

/-!
# Literals of formulas

Numbers are written in four bases, with single underscores between digits, a fraction and a power of
ten. Texts stand between quotes and have escapes, unless they are marked as raw.
-/

namespace TypeReach.Formula

/-! ### Numbers -/

/-- The value of an ASCII digit in some base. -/
def plainDigit? (base : Nat) (c : Char) : Option Nat :=
  if c.toNat < 0x80 then Decimal.digitIn? base c else none

/-- The digits of a base at the front, with single underscores between them, and what follows. -/
def digitsIn (base : Nat) : List Char → List Nat × List Char
  | [] => ([], [])
  | '_' :: c :: cs =>
    match plainDigit? base c with
    | some d =>
      let (ds, rest) := digitsIn base cs
      (d :: ds, rest)
    | none => ([], '_' :: c :: cs)
  | c :: cs =>
    match plainDigit? base c with
    | some d =>
      let (ds, rest) := digitsIn base cs
      (d :: ds, rest)
    | none => ([], c :: cs)

/-- The ASCII digits at the front, which begin with one, and what follows. An underscore behind them
stays. -/
def decimalDigits (cs : List Char) : List Nat × List Char :=
  match cs with
  | c :: _ => if c.isDigit then digitsIn 10 cs else ([], cs)
  | [] => ([], [])

/-- Whether a word that may follow a number directly is at the front. -/
def startsWordAfterNumber (cs : List Char) : Bool :=
  [['a', 'n', 'd'], ['e', 'l', 's', 'e'], ['f', 'o', 'r'], ['i', 'f'], ['i', 'n'], ['i', 's'],
    ['n', 'o', 't'], ['o', 'r']].any fun word => word.isPrefixOf cs

/-- What may follow a number. -/
def endsNumber (cs : List Char) : Bool :=
  startsWordAfterNumber cs ||
    match cs with
    | [] => true
    | c :: _ => !(c.isAlphanum || c == '_' || 0x80 ≤ c.toNat)

/-- The power of ten at the front, if there is one, and what follows. A sign needs digits. -/
def powerOfTen? (cs : List Char) : Option (Option Int × List Char) :=
  let power := fun (negative : Bool) (cs : List Char) =>
    match decimalDigits cs with
    | ([], _) => none
    | (ds, rest) =>
      let n : Int := Decimal.ofDigits 10 ds
      some (some (if negative then -n else n), rest)
  match cs with
  | 'e' :: '-' :: rest | 'E' :: '-' :: rest => power true rest
  | 'e' :: '+' :: rest | 'E' :: '+' :: rest => power false rest
  | 'e' :: rest | 'E' :: rest => power false rest <|> some (none, cs)
  | _ => some (none, cs)

/-- A number in a base that is marked, from behind the mark. -/
def markedNumber? (base : Nat) (cs : List Char) : Option (Constant × List Char) :=
  match digitsIn base cs with
  | ([], _) => none
  | (ds, rest) => if endsNumber rest then some (.int (Decimal.ofDigits base ds), rest) else none

/-- A decimal number and what follows it. A whole number does not begin with zero unless it is
zero. -/
def decimalNumber? (cs : List Char) : Option (Constant × List Char) := do
  let (whole, behind) := decimalDigits cs
  let (fraction, behind) := match behind with
    | '.' :: rest =>
      let (ds, rest) := decimalDigits rest
      (some ds, rest)
    | _ => (none, behind)
  let (power, behind) ← powerOfTen? behind
  let (imaginary, behind) := match behind with
    | 'j' :: rest | 'J' :: rest => (true, rest)
    | _ => (false, behind)
  if !endsNumber behind then none
  else if imaginary then some (.imaginary, behind)
  else
    match fraction, power with
    | none, none =>
      if whole.head? == some 0 && whole.any (· != 0) then none
      else if Decimal.maxDigits < whole.length then none
      else some (.int (Decimal.ofDigits 10 whole), behind)
    | _, _ =>
      let back := fraction.getD []
      some (.double (.ofDecimal (Decimal.ofDigits 10 (whole ++ back)) (power.getD 0 - back.length)),
        behind)

/-- The number at the front and what follows it. -/
def number? (cs : List Char) : Option (Constant × List Char) :=
  match cs with
  | '0' :: 'x' :: rest | '0' :: 'X' :: rest => markedNumber? 16 rest
  | '0' :: 'o' :: rest | '0' :: 'O' :: rest => markedNumber? 8 rest
  | '0' :: 'b' :: rest | '0' :: 'B' :: rest => markedNumber? 2 rest
  | _ => decimalNumber? cs

/-! ### Texts -/

/-- How a text is marked in front of its quote. -/
structure TextMarks where
  raw : Bool := false
  bytes : Bool := false
  unicode : Bool := false
  /-- Whether there are fields between braces. -/
  formatted : Bool := false
  deriving DecidableEq, Repr, Inhabited

/-- Marks with one more; not all go together. -/
def TextMarks.with? (m : TextMarks) (c : Char) : Option TextMarks :=
  match c.toLower with
  | 'b' => if m.bytes || m.unicode || m.formatted then none else some { m with bytes := true }
  | 'u' =>
    if m.bytes || m.unicode || m.raw || m.formatted then none else some { m with unicode := true }
  | 'r' => if m.raw || m.unicode then none else some { m with raw := true }
  | 'f' => if m.formatted || m.bytes || m.unicode then none else some { m with formatted := true }
  | _ => none

/-- The marks of a text at the front, if they are followed by its quote. -/
def textMarks? (m : TextMarks) : List Char → Option (TextMarks × List Char)
  | [] => none
  | c :: cs =>
    if c == '"' || c == '\'' then some (m, c :: cs)
    else do textMarks? (← m.with? c) cs

/-- What stands in front of the end of a text, and what follows; `size` bounds the length. A quoted
text with single quotes stays on its line. -/
def bodyOf? (quote : Char) (triple : Bool) :
    (size : Nat) → List Char → Option (List Char × List Char)
  | 0, _ => none
  | _ + 1, [] => none
  | size + 1, c :: cs =>
    if c == '\\' then
      match cs with
      | [] => none
      | d :: rest =>
        (bodyOf? quote triple size rest).map fun (body, behind) => (c :: d :: body, behind)
    else if c == quote then
      if !triple then some ([], cs)
      else
        match cs with
        | d :: e :: rest =>
          if d == quote && e == quote then some ([], rest)
          else (bodyOf? quote triple size cs).map fun (body, behind) => (c :: body, behind)
        | _ => none
    else if c == '\n' && !triple then none
    else (bodyOf? quote triple size cs).map fun (body, behind) => (c :: body, behind)

/-- The body of a text from its quote on, and what follows the text. -/
def quotedBody? (cs : List Char) : Option (List Char × List Char) :=
  match cs with
  | a :: b :: c :: rest =>
    if a == b && b == c then bodyOf? a true (rest.length + 1) rest
    else bodyOf? a false (rest.length + 3) (b :: c :: rest)
  | a :: rest => bodyOf? a false (rest.length + 1) rest
  | [] => none

/-- The number that some digits of a base stand for, if there are as many as said, and what
follows. -/
def codeIn? (base count : Nat) (cs : List Char) : Option (Nat × List Char) := do
  let ds ← (cs.take count).mapM (plainDigit? base)
  if ds.length < count then none else some (Decimal.ofDigits base ds, cs.drop count)

/-- A character with a name of one letter behind a backslash. -/
def shortEscape? : Char → Option Char
  | '\\' => some '\\'
  | '\'' => some '\''
  | '"' => some '"'
  | 'a' => some (Char.ofNat 7)
  | 'b' => some (Char.ofNat 8)
  | 'f' => some (Char.ofNat 12)
  | 'n' => some '\n'
  | 'r' => some '\r'
  | 't' => some '\t'
  | 'v' => some (Char.ofNat 11)
  | _ => none

/-- The octal digits at the front, at most `n`, and what follows. -/
def octalDigits : (n : Nat) → List Char → List Nat × List Char
  | n + 1, c :: cs =>
    if '0' ≤ c && c ≤ '7' then
      let (ds, rest) := octalDigits n cs
      ((c.toNat - 48) :: ds, rest)
    else ([], c :: cs)
  | _, cs => ([], cs)

/-- The characters of a body with its escapes resolved; `size` bounds the length. A backslash in
front of what is no escape stays. -/
def unescape? (bytes : Bool) : (size : Nat) → List Char → Option (List Char)
  | 0, _ => some []
  | _ + 1, [] => some []
  | size + 1, '\\' :: c :: cs =>
    let code := fun (found : Option (Nat × List Char)) => do
      let (n, rest) ← found
      if 0x110000 ≤ n then none else return Text.charOfCode n :: (← unescape? bytes size rest)
    if c == '\n' then unescape? bytes size cs
    else if let some d := shortEscape? c then do return d :: (← unescape? bytes size cs)
    else if '0' ≤ c && c ≤ '7' then
      let (ds, rest) := octalDigits 3 (c :: cs)
      code (some (Decimal.ofDigits 8 ds, rest))
    else if c == 'x' then code (codeIn? 16 2 cs)
    else if c == 'u' && !bytes then code (codeIn? 16 4 cs)
    else if c == 'U' && !bytes then code (codeIn? 16 8 cs)
    else if c == 'N' && !bytes then none
    else do return '\\' :: c :: (← unescape? bytes size cs)
  | size + 1, c :: cs => do return c :: (← unescape? bytes size cs)

/-- The characters that a body stands for. -/
def resolved? (m : TextMarks) (body : List Char) : Option (List Char) :=
  if m.raw then some body else unescape? m.bytes (body.length + 1) body

end TypeReach.Formula
