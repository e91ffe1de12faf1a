import TypeReach.Decimal.Integer
import TypeReach.Text.Utf8
import TypeReach.Yaml.Token

/-!
# Scalars, anchors, tags and directives

Readers for the tokens whose text counts. Each begins at the first character of its token and gives
what it has read with the position behind it. Lines of a flow scalar are folded; block scalars are
folded or kept as they are.
-/

namespace TypeReach.Yaml

/-- What a reader has read, with the position behind it. -/
abbrev Reading (β : Type) := Except YamlError (β × Cursor)

private def malformed {β : Type} : Except YamlError β := .error .malformed

namespace Cursor

/-- The line ends here and on the blank lines that follow; a document must not begin or end on
them. -/
private def flowBreaks : (size : Nat) → List Char → Cursor → Except YamlError (List Char × Cursor)
  | 0, _, _ => malformed
  | size + 1, acc, c =>
    if c.atDocumentMarker then malformed
    else
      let c := c.skipWhile isSpaceOrTab
      if isBreak c.peek then
        let (b, c) := c.lineBreak
        flowBreaks size (acc ++ b) c
      else .ok (acc, c)

/-- Blanks or a line end inside a quoted scalar, as they read. -/
private def quotedSpaces (c : Cursor) : Except YamlError (List Char × Cursor) := do
  let (spaces, c) := c.span isSpaceOrTab
  let ch := c.peek
  if ch == endMark then malformed
  else if isBreak ch then
    let (first, c) := c.lineBreak
    let (more, c) ← flowBreaks (c.rest.length + 1) [] c
    let folded := if first != ['\n'] then first else if more.isEmpty then [' '] else []
    return (folded ++ more, c)
  else return (spaces, c)

/-- What a single character behind a backslash stands for. -/
private def simpleEscape? (c : Char) : Option Char :=
  [('0', '\x00'), ('a', '\x07'), ('b', '\x08'), ('t', '\t'), ('\t', '\t'), ('n', '\n'),
    ('v', '\x0b'), ('f', '\x0c'), ('r', '\r'), ('e', '\x1b'), (' ', ' '), ('"', '"'),
    ('\\', '\\'), ('/', '/'), ('N', Char.ofNat 0x85), ('_', Char.ofNat 0xA0),
    ('L', Char.ofNat 0x2028), ('P', Char.ofNat 0x2029)].lookup c

private def isHexDigit (c : Char) : Bool :=
  c.isDigit || ('a' ≤ c && c ≤ 'f') || ('A' ≤ c && c ≤ 'F')

/-- The value of a hexadecimal digit. -/
private def hexValue (c : Char) : Nat :=
  if c.isDigit then c.toNat - 48 else c.toLower.toNat - 87

private def hexNumber (cs : List Char) : Nat := cs.foldl (fun n c => 16 * n + hexValue c) 0

/-- The number of hexadecimal digits behind `x`, `u` and `U`. -/
private def escapeWidth? (c : Char) : Option Nat :=
  [('x', 2), ('u', 4), ('U', 8)].lookup c

/-- The character of a code point in an escape. -/
private def escapedChar (code : Nat) : Except YamlError Char :=
  if code ≤ 0x10FFFF then .ok (Text.charOfCode code)
  else if code < 0x80000000 then .error (.unreadable .value "chr() arg not in range(0x110000)")
  else .error (.unreadable (.named "OverflowError") "Python int too large to convert to C int")

/-- An escape, from behind its backslash. -/
private def escape (c : Cursor) : Except YamlError (List Char × Cursor) :=
  let ch := c.peek
  match simpleEscape? ch, escapeWidth? ch with
  | some e, _ => .ok ([e], c.next)
  | none, some width =>
    let digits := c.next.rest.take width
    if digits.length == width && digits.all isHexDigit then do
      return ([← escapedChar (hexNumber digits)], c.next.skip width)
    else malformed
  | none, none =>
    if isBreak ch then do
      let (_, c) := c.lineBreak
      flowBreaks (c.rest.length + 1) [] c
    else malformed

/-- The rest of a quoted scalar; `double` tells which quotes. -/
private def quotedFrom (double : Bool) :
    (size : Nat) → List Char → Cursor → Except YamlError (List Char × Cursor)
  | 0, _, _ => malformed
  | size + 1, acc, c =>
    let ch := c.peek
    if double && ch == '"' then .ok (acc, c.next)
    else if !double && ch == '\'' then
      if c.peekAt 1 == '\'' then quotedFrom double size (acc ++ ['\'']) (c.skip 2)
      else .ok (acc, c.next)
    else if double && ch == '\\' then do
      let (part, c) ← c.next.escape
      quotedFrom double size (acc ++ part) c
    else if isBlankOrEnd ch then do
      let (part, c) ← c.quotedSpaces
      quotedFrom double size (acc ++ part) c
    else
      let stop := fun ch => isBlankOrEnd ch || ch == '\'' || ch == '"' || ch == '\\'
      let (part, c) := c.next.span fun ch => !stop ch
      quotedFrom double size (acc ++ ch :: part) c

/-- A quoted scalar. -/
def quotedScalar (c : Cursor) : Except YamlError (Token × Cursor) := do
  let (cs, c) ← quotedFrom (c.peek == '"') (c.rest.length + 1) [] c.next
  return (.scalar (String.ofList cs) false, c)

/-- The line ends between the lines of a plain scalar, unless a document begins or ends among
them. -/
private def plainBreaks : (size : Nat) → List Char → Cursor → Option (List Char) × Cursor
  | 0, acc, c => (some acc, c)
  | size + 1, acc, c =>
    if c.peek == ' ' then plainBreaks size acc c.next
    else if isBreak c.peek then
      let (b, c) := c.lineBreak
      if c.atDocumentMarker then (none, c) else plainBreaks size (acc ++ b) c
    else (some acc, c)

/-- What stands between two parts of a plain scalar as it reads, whether a line ended, and the
position behind it; nothing if the scalar ends here. -/
private def plainSpaces (c : Cursor) : List Char × Bool × Cursor :=
  let (spaces, c) := c.span (· == ' ')
  if isBreak c.peek then
    let (first, c) := c.lineBreak
    if c.atDocumentMarker then ([], true, c)
    else
      match plainBreaks (c.rest.length + 1) [] c with
      | (none, c) => ([], true, c)
      | (some more, c) =>
        let folded := if first != ['\n'] then first else if more.isEmpty then [' '] else []
        (folded ++ more, true, c)
  else (spaces, false, c)

private def isFlowSign (c : Char) : Bool :=
  c == ',' || c == '[' || c == ']' || c == '\x7b' || c == '\x7d'

/-- The characters up to where a plain scalar is interrupted. -/
private def plainRun (inFlow : Bool) : List Char → List Char
  | [] => []
  | ch :: rest =>
    let follower := rest.headD endMark
    if isBlankOrEnd ch then []
    else if ch == ':' && (isBlankOrEnd follower || (inFlow && isFlowSign follower)) then []
    else if inFlow && (isFlowSign ch || ch == '?') then []
    else ch :: plainRun inFlow rest

/-- The rest of a plain scalar: `between` stands in front of its next part, and `ended` tells
whether a line ended since the last part. -/
private def plainFrom (inFlow : Bool) (indent : Nat) :
    (size : Nat) → (acc between : List Char) → (ended : Bool) → Cursor → List Char × Bool × Cursor
  | 0, acc, _, ended, c => (acc, ended, c)
  | size + 1, acc, between, ended, c =>
    if c.peek == '#' then (acc, ended, c)
    else
      let part := plainRun inFlow c.rest
      if part.isEmpty then (acc, ended, c)
      else
        let acc := acc ++ between ++ part
        let (between, ended, c) := (c.skip part.length).plainSpaces
        if between.isEmpty || c.peek == '#' || (!inFlow && c.column < indent) then (acc, ended, c)
        else plainFrom inFlow indent size acc between ended c

/-- A plain scalar whose lines are indented by at least `indent`, and whether a line ended behind
it. -/
def plainScalar (c : Cursor) (inFlow : Bool) (indent : Nat) : Token × Bool × Cursor :=
  let (cs, ended, c) := plainFrom inFlow indent (c.rest.length + 1) [] [] false c
  (.scalar (String.ofList cs) true, ended, c)

/-- How the line ends at the end of a block scalar are treated. -/
private inductive Chomping where
  | clip
  | strip
  | keep

private def chomping? : Char → Option Chomping
  | '+' => some .keep
  | '-' => some .strip
  | _ => none

/-- The signs behind the mark of a block scalar, in either order: chomping and indentation. -/
private def blockHeader (c : Cursor) : Except YamlError (Chomping × Option Nat × Cursor) := do
  let (chomp, c) := match chomping? c.peek with
    | some chomp => (some chomp, c.next)
    | none => (none, c)
  let (increment, c) := if c.peek.isDigit then (some (c.peek.toNat - 48), c.next) else (none, c)
  let (chomp, c) := match chomp, increment, chomping? c.peek with
    | none, some _, some chomp => (some chomp, c.next)
    | chomp, _, _ => (chomp, c)
  if increment == some 0 || !isSpaceBreakOrEnd c.peek then malformed
  else return (chomp.getD .clip, increment, c)

/-- The rest of a line that may hold blanks and a comment only. -/
def ignoredLine (c : Cursor) : Except YamlError Cursor :=
  let c := c.skipWhile (· == ' ')
  let c := if c.peek == '#' then c.skipWhile fun ch => !isBreakOrEnd ch else c
  if isBreakOrEnd c.peek then .ok c.lineBreak.2 else malformed

/-- The line ends before the first line of a block scalar, and the widest indentation among
them. -/
private def blockIndentation :
    (size : Nat) → (acc : List Char) → (widest : Nat) → Cursor → List Char × Nat × Cursor
  | 0, acc, widest, c => (acc, widest, c)
  | size + 1, acc, widest, c =>
    if c.peek == ' ' then blockIndentation size acc (max widest c.next.column) c.next
    else if isBreak c.peek then
      let (b, c) := c.lineBreak
      blockIndentation size (acc ++ b) widest c
    else (acc, widest, c)

/-- Skips blanks up to a column. -/
private def indentTo (indent : Nat) : (size : Nat) → Cursor → Cursor
  | 0, c => c
  | size + 1, c =>
    if c.column < indent && c.peek == ' ' then indentTo indent size c.next else c

/-- The line ends before the next line of a block scalar, up to its indentation. -/
private def blockBreaks (indent : Nat) :
    (size : Nat) → (acc : List Char) → Cursor → List Char × Cursor
  | 0, acc, c => (acc, c)
  | size + 1, acc, c =>
    let c := indentTo indent c.rest.length c
    if isBreak c.peek then
      let (b, c) := c.lineBreak
      blockBreaks indent size (acc ++ b) c
    else (acc, c)

/-- The lines of a block scalar, without the line ends at its end: those come apart, first that of
the last line and then those of blank lines. -/
private def blockLines (folded : Bool) (indent : Nat) :
    (size : Nat) → (acc breaks : List Char) → Cursor → List Char × List Char × List Char × Cursor
  | 0, acc, breaks, c => (acc, [], breaks, c)
  | size + 1, acc, breaks, c =>
    let leading := !isSpaceOrTab c.peek
    let (line, c) := c.span fun ch => !isBreakOrEnd ch
    let (lineEnd, c) := c.lineBreak
    let acc := acc ++ breaks ++ line
    let (breaks, c) := blockBreaks indent (c.rest.length + 1) [] c
    if c.column == indent && c.peek != endMark then
      let joint :=
        if folded && lineEnd == ['\n'] && leading && !isSpaceOrTab c.peek then
          if breaks.isEmpty then [' '] else []
        else lineEnd
      blockLines folded indent size (acc ++ joint) breaks c
    else (acc, lineEnd, breaks, c)

/-- A block scalar inside a block indented by `parent`, if any. -/
def blockScalar (c : Cursor) (parent : Option Nat) : Except YamlError (Token × Cursor) := do
  let folded := c.peek == '>'
  let (chomp, increment, c) ← c.next.blockHeader
  let c ← c.ignoredLine
  let least := match parent with
    | some n => max (n + 1) 1
    | none => 1
  let (breaks, indent, c) := match increment with
    | none =>
      let (breaks, widest, c) := blockIndentation (c.rest.length + 1) [] 0 c
      (breaks, max least widest, c)
    | some n =>
      let indent := least + n - 1
      let (breaks, c) := blockBreaks indent (c.rest.length + 1) [] c
      (breaks, indent, c)
  let (text, lineEnd, breaks, c) :=
    if c.column == indent && c.peek != endMark then
      blockLines folded indent (c.rest.length + 1) [] breaks c
    else ([], [], breaks, c)
  let ending := match chomp with
    | .strip => []
    | .clip => lineEnd
    | .keep => lineEnd ++ breaks
  return (.scalar (String.ofList (text ++ ending)) false, c)

/-- The name of an anchor or alias, from its mark on. -/
def anchorName (c : Cursor) : Except YamlError (String × Cursor) :=
  let (name, c) := c.next.span isWordCharacter
  let ch := c.peek
  if name.isEmpty then malformed
  else if isBlankOrEnd ch || ['?', ':', ',', ']', '\x7d', '%', '@', '\x60'].contains ch then
    .ok (String.ofList name, c)
  else malformed

/-- A tag handle: `!`, or a word between two exclamation marks. -/
private def tagHandle (c : Cursor) : Except YamlError (String × Cursor) :=
  if c.peek != '!' then malformed
  else if c.peekAt 1 == ' ' then .ok ("!", c.next)
  else
    let (word, d) := c.next.span isWordCharacter
    if d.peek == '!' then .ok (String.ofList ('!' :: word ++ ['!']), d.next) else malformed

private def isUriCharacter (c : Char) : Bool :=
  c.isAlphanum || "-;/?:@&=+$,_.!~*'()[]".toList.contains c

/-- The bytes of a run of percent escapes. -/
private def uriEscapes : (size : Nat) → List UInt8 → Cursor → Except YamlError (List UInt8 × Cursor)
  | 0, acc, c => .ok (acc, c)
  | size + 1, acc, c =>
    if c.peek == '%' then
      let digits := c.next.rest.take 2
      if digits.length == 2 && digits.all isHexDigit then
        uriEscapes size (acc ++ [(hexNumber digits).toUInt8]) (c.skip 3)
      else malformed
    else .ok (acc, c)

private def uriFrom : (size : Nat) → List Char → Cursor → Except YamlError (List Char × Cursor)
  | 0, acc, c => .ok (acc, c)
  | size + 1, acc, c =>
    if c.peek == '%' then do
      let (bytes, c) ← uriEscapes (c.rest.length + 1) [] c
      match Text.decodeUtf8 bytes with
      | .ok cs => uriFrom size (acc ++ cs) c
      | .error _ => malformed
    else if isUriCharacter c.peek then
      let (part, c) := c.span isUriCharacter
      uriFrom size (acc ++ part) c
    else .ok (acc, c)

/-- A tag suffix or expansion. -/
private def tagUri (c : Cursor) : Except YamlError (String × Cursor) := do
  let (cs, d) ← uriFrom (c.rest.length + 1) [] c
  if d.index == c.index then malformed else return (String.ofList cs, d)

/-- Whether an exclamation mark comes before the next blank. -/
private def namesHandle (cs : List Char) : Bool :=
  (cs.takeWhile fun ch => !isSpaceBreakOrEnd ch).contains '!'

/-- A tag: in full between angle brackets, alone, or as a handle with a suffix. -/
def tagToken (c : Cursor) : Except YamlError (Token × Cursor) := do
  let ch := c.peekAt 1
  let (token, c) ←
    if ch == '<' then do
      let (suffix, c) ← (c.skip 2).tagUri
      if c.peek == '>' then pure (Token.tag none suffix, c.next) else malformed
    else if isBlankOrEnd ch then pure (Token.tag none "!", c.next)
    else do
      let (handle, c) ← if namesHandle c.next.rest then c.tagHandle else pure ("!", c.next)
      let (suffix, c) ← c.tagUri
      pure (Token.tag (some handle) suffix, c)
  if isSpaceBreakOrEnd c.peek then return (token, c) else malformed

/-- A number in a version. -/
private def versionNumber (c : Cursor) : Except YamlError (Nat × Cursor) :=
  let (digits, c) := c.span Char.isDigit
  let text := String.ofList digits
  if digits.isEmpty then malformed
  else
    match Decimal.readIntegerIn 10 text with
    | .ok n => .ok (n.toNat, c)
    | .error why => .error (.unreadable .value (why.message 10 text))

/-- A directive with the rest of its line. -/
def directive (c : Cursor) : Except YamlError (Directive × Cursor) := do
  let (name, c) := c.next.span isWordCharacter
  if name.isEmpty || !isSpaceBreakOrEnd c.peek then malformed
  else
    let (d, c) ←
      if name == "YAML".toList then do
        let (major, c) ← (c.skipWhile (· == ' ')).versionNumber
        if c.peek != '.' then malformed
        else
          let (minor, c) ← c.next.versionNumber
          if isSpaceBreakOrEnd c.peek then pure (Directive.version major minor, c) else malformed
      else if name == "TAG".toList then do
        let (handle, c) ← (c.skipWhile (· == ' ')).tagHandle
        if c.peek != ' ' then malformed
        else
          let (expansion, c) ← (c.skipWhile (· == ' ')).tagUri
          if isSpaceBreakOrEnd c.peek then pure (Directive.tag handle expansion, c) else malformed
      else pure (Directive.unknown, c.skipWhile fun ch => !isBreakOrEnd ch)
    return (d, ← c.ignoredLine)

end Cursor

end TypeReach.Yaml
