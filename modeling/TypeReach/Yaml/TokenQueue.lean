import TypeReach.Yaml.Scalar

/-!
# The tokens of a YAML text

Tokens are read from left to right, as they are asked for. Indentation opens and closes blocks. A
key without a mark of its own is recognised only by the colon behind it, so the places where such a
key may have begun are kept, and no token behind such a place is given out before it is settled.
-/

namespace TypeReach.Yaml

/-- A place where a key without mark may have begun: the number of tokens in front of it, where it
is in the text, and whether a key has to stand there. -/
structure KeyPlace where
  tokens : Nat
  index : Nat
  line : Nat
  column : Nat
  required : Bool
  deriving Repr

/-- How far the reading of tokens has come: the number of tokens given out, those that wait, the
columns of the open blocks, innermost first, the place of a key that may have begun in the innermost
collection and those in the flow collections around it, whether a key may begin here, and whether
the end of the text is behind. -/
structure TokenQueue where
  cursor : Cursor
  /-- A bound on the tokens still to be read. -/
  bound : Nat
  given : Nat := 0
  waiting : List Token := []
  blocks : List Nat := []
  place : Option KeyPlace := none
  outer : List (Option KeyPlace) := []
  keyAllowed : Bool := true
  ended : Bool := false

namespace TokenQueue

variable (s : TokenQueue)

private def malformed {β : Type} : Except YamlError β := .error .malformed

/-- Whether the reading is inside a flow collection. -/
def inFlow : Bool := !s.outer.isEmpty

/-- Adds a token. -/
def push (t : Token) : TokenQueue := { s with waiting := s.waiting ++ [t] }

/-- Moves on to a position. -/
def goto (c : Cursor) : TokenQueue := { s with cursor := c }

/-- Lets a key begin next, or not. -/
def allowKey (allowed : Bool) : TokenQueue := { s with keyAllowed := allowed }

/-- Skips blanks, comments and line ends. Behind a line end a key may begin, except in a flow
collection. -/
def skipBlanks : (size : Nat) → TokenQueue → TokenQueue
  | 0, s => s
  | size + 1, s =>
    let c := s.cursor.skipWhile (· == ' ')
    let c := if c.peek == '#' then c.skipWhile fun ch => !isBreakOrEnd ch else c
    if isBreak c.peek then
      skipBlanks size { s with cursor := c.lineBreak.2, keyAllowed := s.keyAllowed || !s.inFlow }
    else s.goto c

/-- A key place that can still be one: the colon must follow on the same line and within 1024
characters. -/
def freshPlace (c : Cursor) : Option KeyPlace → Except YamlError (Option KeyPlace)
  | none => .ok none
  | some k =>
    if k.line != c.line || c.index - k.index > 1024 then
      if k.required then malformed else .ok none
    else .ok (some k)

/-- Drops the key places that are too far back. -/
def dropStale : Except YamlError TokenQueue := do
  let place ← freshPlace s.cursor s.place
  let outer ← s.outer.mapM (freshPlace s.cursor)
  return { s with place, outer }

/-- Gives the key place of the innermost collection up. -/
def dropPlace : Except YamlError TokenQueue :=
  match s.place with
  | some k => if k.required then malformed else .ok { s with place := none }
  | none => .ok s

/-- Keeps the current position as the place of a key. -/
def keepPlace : Except YamlError TokenQueue :=
  if s.keyAllowed then do
    let s ← s.dropPlace
    let c := s.cursor
    return { s with place := some {
      tokens := s.given + s.waiting.length, index := c.index, line := c.line, column := c.column
      required := !s.inFlow && s.blocks.head? == some c.column } }
  else .ok s

/-- The blocks that stay open when they are closed for as long as `closes` says so of the innermost,
and the tokens that end the others. -/
def closeBlocks (closes : Nat → Bool) : List Nat → List Nat × List Token
  | [] => ([], [])
  | b :: blocks =>
    if closes b then
      let (blocks, ends) := closeBlocks closes blocks
      (blocks, .blockEnd :: ends)
    else (b :: blocks, [])

/-- Closes the blocks for which `closes` holds; inside a flow collection no block ends. -/
def unwind (closes : Nat → Bool) : TokenQueue :=
  if s.inFlow then s
  else
    let (blocks, ends) := closeBlocks closes s.blocks
    { s with blocks, waiting := s.waiting ++ ends }

/-- Closes all blocks. -/
def unwindAll : TokenQueue := s.unwind fun _ => true

/-- Whether a column is indented more than the innermost block. -/
def opensBlock (column : Nat) : Bool :=
  match s.blocks with
  | [] => true
  | b :: _ => b < column

/-- Opens a block at the current column, if that is indented more than the innermost block. -/
def openBlock (start : Token) : TokenQueue :=
  let column := s.cursor.column
  if s.opensBlock column then { s.push start with blocks := column :: s.blocks } else s

/-- The end of the text. -/
def endStream : Except YamlError TokenQueue := do
  let s ← s.unwindAll.dropPlace
  return { s.push .streamEnd with place := none, outer := [], ended := true }

/-- A directive. -/
def readDirective : Except YamlError TokenQueue := do
  let s := (← s.unwindAll.dropPlace).allowKey false
  let (d, c) ← s.cursor.directive
  return (s.push (.directive d)).goto c

/-- The three characters with which a document begins or ends. -/
def readMarker (t : Token) : Except YamlError TokenQueue := do
  let s := (← s.unwindAll.dropPlace).allowKey false
  return (s.push t).goto (s.cursor.skip 3)

/-- The opening bracket of a flow collection. -/
def openFlow (t : Token) : Except YamlError TokenQueue := do
  let s ← s.keepPlace
  return { s.push t with
    cursor := s.cursor.next, place := none, outer := s.place :: s.outer, keyAllowed := true }

/-- The closing bracket of a flow collection. -/
def closeFlow (t : Token) : Except YamlError TokenQueue := do
  let s ← s.dropPlace
  match s.outer with
  | [] => malformed
  | place :: outer =>
    return { s.push t with cursor := s.cursor.next, place, outer, keyAllowed := false }

/-- The comma between the entries of a flow collection. -/
def flowEntry : Except YamlError TokenQueue := do
  let s ← s.dropPlace
  return ((s.push .flowEntry).goto s.cursor.next).allowKey true

/-- The dash of a block sequence. -/
def blockEntry : Except YamlError TokenQueue := do
  let s ←
    if s.inFlow then pure s
    else if s.keyAllowed then pure (s.openBlock .blockSequenceStart)
    else malformed
  let s ← (s.allowKey true).dropPlace
  return (s.push .blockEntry).goto s.cursor.next

/-- The mark of a key. -/
def keyMark : Except YamlError TokenQueue := do
  let s ←
    if s.inFlow then pure s
    else if s.keyAllowed then pure (s.openBlock .blockMappingStart)
    else malformed
  let s ← (s.allowKey (!s.inFlow)).dropPlace
  return (s.push .key).goto s.cursor.next

/-- The mark of a value, behind a key with or without mark. -/
def valueMark : Except YamlError TokenQueue :=
  match s.place with
  | some k =>
    let (before, behind) := s.waiting.splitAt (k.tokens - s.given)
    let (marks, blocks) :=
      if !s.inFlow && s.opensBlock k.column then
        ([.blockMappingStart, .key], k.column :: s.blocks)
      else ([.key], s.blocks)
    .ok { s with
      cursor := s.cursor.next, waiting := before ++ marks ++ behind ++ [.value], blocks
      place := none, keyAllowed := false }
  | none =>
    if s.inFlow then .ok (((s.push .value).goto s.cursor.next).allowKey false)
    else if s.keyAllowed then
      let s := s.openBlock .blockMappingStart
      .ok ((s.push .value).goto s.cursor.next)
    else malformed

/-- A token that may begin a key and behind which none may begin. -/
def content (read : Cursor → Except YamlError (Token × Cursor)) : Except YamlError TokenQueue := do
  let s ← s.keepPlace
  let (t, c) ← read s.cursor
  return ((s.push t).goto c).allowKey false

/-- A plain scalar; if a line ended behind it, a key may begin. -/
def plain : Except YamlError TokenQueue := do
  let s ← s.keepPlace
  let indent := match s.blocks with
    | [] => 0
    | b :: _ => b + 1
  let (t, ended, c) := s.cursor.plainScalar s.inFlow indent
  return ((s.push t).goto c).allowKey ended

/-- A block scalar. -/
def block : Except YamlError TokenQueue := do
  let s ← (s.allowKey true).dropPlace
  let (t, c) ← s.cursor.blockScalar s.blocks.head?
  return (s.push t).goto c

/-- Whether a plain scalar may begin here. -/
def startsPlain : Bool :=
  let ch := s.cursor.peek
  !(isBlankOrEnd ch || "-?:,[]\x7b\x7d#&*!|>'\"%@\x60".toList.contains ch) ||
    (!isBlankOrEnd (s.cursor.peekAt 1) && (ch == '-' || (!s.inFlow && (ch == '?' || ch == ':'))))

/-- Reads the next token, behind blanks and with blocks closed that end here. -/
def readToken : Except YamlError TokenQueue :=
  let c := s.cursor
  let follower := c.peekAt 1
  match c.peek with
  | '\x00' => s.endStream
  | ch =>
    if ch == '%' && c.column == 0 then s.readDirective
    else if c.column == 0 && c.atMarker "---" then s.readMarker .documentStart
    else if c.column == 0 && c.atMarker "..." then s.readMarker .documentEnd
    else if ch == '[' then s.openFlow .flowSequenceStart
    else if ch == '\x7b' then s.openFlow .flowMappingStart
    else if ch == ']' then s.closeFlow .flowSequenceEnd
    else if ch == '\x7d' then s.closeFlow .flowMappingEnd
    else if ch == ',' then s.flowEntry
    else if ch == '-' && isBlankOrEnd follower then s.blockEntry
    else if ch == '?' && (s.inFlow || isBlankOrEnd follower) then s.keyMark
    else if ch == ':' && (s.inFlow || isBlankOrEnd follower) then s.valueMark
    else if ch == '*' then s.content fun c => do
      let (name, c) ← c.anchorName
      return (.alias name, c)
    else if ch == '&' then s.content fun c => do
      let (name, c) ← c.anchorName
      return (.anchor name, c)
    else if ch == '!' then s.content Cursor.tagToken
    else if (ch == '|' || ch == '>') && !s.inFlow then s.block
    else if ch == '\'' || ch == '"' then s.content Cursor.quotedScalar
    else if s.startsPlain then s.plain
    else malformed

/-- Skips to the next token and reads it. -/
def step : Except YamlError TokenQueue := do
  let s ← (skipBlanks s.bound s).dropStale
  (s.unwind (s.cursor.column < ·)).readToken

/-- Whether a key may have begun at the next token to be given out, and not be settled yet. -/
def isUnsettled : Bool :=
  (s.place :: s.outer).any fun
    | some k => k.tokens == s.given
    | none => false

/-- Reads tokens until the next one is settled. -/
def fill : (size : Nat) → TokenQueue → Except YamlError TokenQueue
  | 0, s => .ok s
  | size + 1, s =>
    if s.ended then .ok s
    else if s.waiting.isEmpty then do fill size (← s.step)
    else do
      let s ← s.dropStale
      if s.isUnsettled then fill size (← s.step) else return s

/-- The queue with the next token settled. -/
def settled : Except YamlError TokenQueue := fill s.bound s

/-- The next token of a queue in which it is settled; behind the last comes the last again. -/
def head : Token := s.waiting.headD .streamEnd

/-- The queue behind its next token. -/
def tail : TokenQueue := { s with given := s.given + 1, waiting := s.waiting.tail }

/-- The tokens of a text. A byte order mark at its beginning is passed over; a text with characters
that may not stand in YAML at all has no tokens. -/
def ofText (text : String) : Except YamlError TokenQueue :=
  let cs := text.toList
  if cs.all isAllowed then
    let start : Cursor := { rest := cs }
    let cursor := if start.peek.toNat == 0xFEFF then start.next else start
    .ok { cursor, bound := cs.length + 2 }
  else malformed

end TokenQueue

end TypeReach.Yaml
