/-!
# A position in YAML text

A cursor is the text still to be read, with how far the reading has come. Line ends are line feeds,
next-line characters, and line and paragraph separators.
-/

namespace TypeReach.Yaml

/-- The end of the text, as a character. -/
def endMark : Char := '\x00'

def isBreak (c : Char) : Bool :=
  c == '\n' || c.toNat == 0x85 || c.toNat == 0x2028 || c.toNat == 0x2029

def isBreakOrEnd (c : Char) : Bool := isBreak c || c == endMark

def isSpaceOrTab (c : Char) : Bool := c == ' ' || c == '\t'

def isSpaceBreakOrEnd (c : Char) : Bool := c == ' ' || isBreakOrEnd c

def isBlankOrEnd (c : Char) : Bool := isSpaceOrTab c || isBreakOrEnd c

/-- What anchors and tag handles are made of. -/
def isWordCharacter (c : Char) : Bool := c.isAlphanum || c == '-' || c == '_'

/-- Whether a character may stand in a YAML text at all. -/
def isAllowed (c : Char) : Bool :=
  let n := c.toNat
  n == 0x9 || n == 0xA || n == 0xD || (0x20 ≤ n && n ≤ 0x7E) || n == 0x85 ||
    (0xA0 ≤ n && n ≤ 0xD7FF) || (0xE000 ≤ n && n ≤ 0xFFFD) || (0x10000 ≤ n && n ≤ 0x10FFFF)

/-- A position in a text: the text from there on, and the index, line and column of its first
character. -/
structure Cursor where
  rest : List Char
  index : Nat := 0
  line : Nat := 0
  column : Nat := 0
  deriving Repr, Inhabited

namespace Cursor

/-- The character at a distance, or the end mark behind the text. -/
def peekAt (c : Cursor) (distance : Nat) : Char := (c.rest.drop distance).headD endMark

/-- The next character. -/
def peek (c : Cursor) : Char := c.rest.headD endMark

/-- The position behind the next character; a byte order mark takes no column. -/
def next (c : Cursor) : Cursor :=
  match c.rest with
  | [] => c
  | ch :: rest =>
    if isBreak ch then { rest, index := c.index + 1, line := c.line + 1, column := 0 }
    else
      let column := if ch.toNat == 0xFEFF then c.column else c.column + 1
      { rest, index := c.index + 1, line := c.line, column }

/-- The position behind a number of characters. -/
def skip (c : Cursor) : Nat → Cursor
  | 0 => c
  | n + 1 => c.next.skip n

/-- The characters from here on that satisfy a test, and the position behind them. -/
def span (c : Cursor) (test : Char → Bool) : List Char × Cursor :=
  let taken := c.rest.takeWhile test
  (taken, c.skip taken.length)

/-- The position behind the characters that satisfy a test. -/
def skipWhile (c : Cursor) (test : Char → Bool) : Cursor := (c.span test).2

/-- The line end here as it reads in a scalar, nothing if there is none, and the position behind
it. -/
def lineBreak (c : Cursor) : List Char × Cursor :=
  let ch := c.peek
  if ch == '\n' || ch.toNat == 0x85 then (['\n'], c.next)
  else if isBreak ch then ([ch], c.next)
  else ([], c)

/-- Whether a line with the given three characters starts here, as documents begin and end. -/
def atMarker (c : Cursor) (marker : String) : Bool :=
  c.rest.take 3 == marker.toList && isBlankOrEnd (c.peekAt 3)

/-- Whether a document begins or ends here. -/
def atDocumentMarker (c : Cursor) : Bool := c.atMarker "---" || c.atMarker "..."

end Cursor

end TypeReach.Yaml
