import TypeReach.Text.Quoted

/-!
# UTF-8 and lines

Bytes are read as UTF-8 one after the other. The first byte that rules a character out ends the
reading, with the position at which the character began.
-/

namespace TypeReach.Text

/-- What is wrong with the bytes of a character. -/
inductive Utf8Fault where
  | invalidStart
  | invalidContinuation
  | unexpectedEnd
  deriving DecidableEq, Repr, Inhabited

/-- A character that cannot be read: its first byte, its position, and how many bytes of it were
read. -/
structure Utf8Error where
  first : UInt8
  position : Nat
  length : Nat
  fault : Utf8Fault
  deriving DecidableEq, Repr, Inhabited

/-- What is said about bytes that are not UTF-8. -/
def Utf8Error.message (e : Utf8Error) : String :=
  let place :=
    if e.length == 1 then
      "byte 0x" ++ String.ofList (hexDigits 2 e.first.toNat) ++ " in position " ++
        toString e.position
    else s!"bytes in position {e.position}-{e.position + e.length - 1}"
  let why := match e.fault with
    | .invalidStart => "invalid start byte"
    | .invalidContinuation => "invalid continuation byte"
    | .unexpectedEnd => "unexpected end of data"
  "'utf-8' codec can't decode " ++ place ++ ": " ++ why

/-- A character of which some bytes are read: the bits so far, how many bytes are owed, the least
and greatest byte that may come next, the first byte, and how many bytes are read. -/
structure PartialChar where
  code : Nat
  owed : Nat
  low : UInt8
  high : UInt8
  first : UInt8
  read : Nat
  deriving Repr

/-- The beginning of a character of several bytes. -/
def PartialChar.start? (b : UInt8) : Option PartialChar :=
  let n := b.toNat
  if 0xC2 ≤ n && n ≤ 0xDF then some ⟨n - 0xC0, 1, 0x80, 0xBF, b, 1⟩
  else if n == 0xE0 then some ⟨0, 2, 0xA0, 0xBF, b, 1⟩
  else if n == 0xED then some ⟨0xD, 2, 0x80, 0x9F, b, 1⟩
  else if 0xE1 ≤ n && n ≤ 0xEF then some ⟨n - 0xE0, 2, 0x80, 0xBF, b, 1⟩
  else if n == 0xF0 then some ⟨0, 3, 0x90, 0xBF, b, 1⟩
  else if 0xF1 ≤ n && n ≤ 0xF3 then some ⟨n - 0xF0, 3, 0x80, 0xBF, b, 1⟩
  else if n == 0xF4 then some ⟨4, 3, 0x80, 0x8F, b, 1⟩
  else none

/-- Reads on from a position with a character begun or none. -/
def decodeFrom (position : Nat) :
    Option PartialChar → List UInt8 → Except Utf8Error (List Char)
  | none, [] => .ok []
  | some p, [] => .error ⟨p.first, position - p.read, p.read, .unexpectedEnd⟩
  | none, b :: rest =>
    if b.toNat < 0x80 then do
      return Char.ofNat b.toNat :: (← decodeFrom (position + 1) none rest)
    else
      match PartialChar.start? b with
      | some p => decodeFrom (position + 1) (some p) rest
      | none => .error ⟨b, position, 1, .invalidStart⟩
  | some p, b :: rest =>
    if p.low ≤ b && b ≤ p.high then
      let code := p.code * 64 + (b.toNat - 0x80)
      if p.owed ≤ 1 then do
        return Char.ofNat code :: (← decodeFrom (position + 1) none rest)
      else
        decodeFrom (position + 1)
          (some { p with code, owed := p.owed - 1, low := 0x80, high := 0xBF, read := p.read + 1 })
          rest
    else .error ⟨p.first, position - p.read, p.read, .invalidContinuation⟩

/-- The characters that bytes stand for. -/
def decodeUtf8 (bytes : List UInt8) : Except Utf8Error (List Char) :=
  decodeFrom 0 none bytes

/-- The text with every carriage return, alone or before a line feed, read as a line feed. -/
def unifyLineEnds : List Char → List Char
  | '\r' :: '\n' :: rest => '\n' :: unifyLineEnds rest
  | '\r' :: rest => '\n' :: unifyLineEnds rest
  | c :: rest => c :: unifyLineEnds rest
  | [] => []

/-- The text of a file: its bytes as UTF-8 with line ends unified. -/
def decodeFile (bytes : List UInt8) : Except Utf8Error String := do
  return String.ofList (unifyLineEnds (← decodeUtf8 bytes))

end TypeReach.Text
