import TypeReach.Formula.Literal
import TypeReach.Text.Identifier
import TypeReach.Text.Normal

/-!
# Lexemes of formulas

A formula is divided into words, names, constants, texts and marks. Blanks and comments stand
between them; a line ends where no bracket is open. A formula does not begin with blanks.
-/

namespace TypeReach.Formula

/-- A part of a formula's text. -/
inductive Lexeme where
  | name (name : String)
  /-- A word that is no name. -/
  | word (word : String)
  | number (value : Constant)
  | text (s : String)
  | bytes
  /-- A text with fields between braces. -/
  | formatted (marks : TextMarks) (body : List Char)
  /-- A bracket, an operator or another mark. -/
  | mark (mark : String)
  | lineEnd
  deriving DecidableEq, Repr, Inhabited

/-- The words that are no names. -/
def reservedWords : List String :=
  ["False", "None", "True", "and", "as", "assert", "async", "await", "break", "class", "continue",
   "def", "del", "elif", "else", "except", "finally", "for", "from", "global", "if", "import", "in",
   "is", "lambda", "nonlocal", "not", "or", "pass", "raise", "return", "try", "while", "with",
   "yield"]

/-- The marks, the longest first. -/
def marks : List String :=
  ["**=", "//=", "<<=", ">>=", "...", "**", "//", "<<", ">>", "<=", ">=", "==", "!=", "->", ":=",
   "+=", "-=", "*=", "/=", "%=", "&=", "|=", "^=", "@=", "(", ")", "[", "]", "\x7b", "\x7d", ",",
   ":", ".", ";", "@", "=", "<", ">", "+", "-", "*", "/", "%", "&", "|", "^", "~"]

/-- Whether a character may stand in a word, judged before its normal form is known. -/
def isWordPart (c : Char) : Bool :=
  c.isAlphanum || c == '_' || 0x80 ≤ c.toNat

/-- The most brackets that may be open at once. -/
def maxBrackets : Nat := 200

/-- A lexeme at the front of a text that begins with no blank, and what follows it. -/
def lexeme? (cs : List Char) : Option (Lexeme × List Char) :=
  match cs with
  | [] => none
  | c :: rest =>
    if c.isDigit || (c == '.' && (rest.headD ' ').isDigit) then
      (number? cs).map fun (value, behind) => (.number value, behind)
    else
      match textMarks? {} cs with
      | some (m, quoted) => do
        let (body, behind) ← quotedBody? quoted
        if m.bytes then
          if body.any fun c => 0x80 ≤ c.toNat then none
          else
            let _ ← resolved? m body
            return (.bytes, behind)
        else if m.formatted then return (.formatted m body, behind)
        else return (.text (String.ofList (← resolved? m body)), behind)
      | none =>
        if isWordPart c then
          let word := String.ofList (cs.takeWhile isWordPart)
          let behind := cs.dropWhile isWordPart
          if !Text.isIdentifier word then none
          else if reservedWords.contains word then some (.word word, behind)
          else some (.name (Text.normal word), behind)
        else
          (marks.find? fun m => m.toList.isPrefixOf cs).map fun m => (.mark m, cs.drop m.length)

/-- How many brackets are open behind a lexeme. -/
def bracketsBehind (opened : Nat) : Lexeme → Nat
  | .mark m =>
    if ["(", "[", "\x7b"].contains m then opened + 1
    else if [")", "]", "\x7d"].contains m then opened - 1
    else opened
  | _ => opened

/-- Whether a character stands between lexemes and does not end a line. -/
def isSpace (c : Char) : Bool :=
  c == ' ' || c == '\t' || c == Char.ofNat 12

/-- How far the blanks at the front move the start of a line; a form feed moves it back. -/
def indentOf (cs : List Char) : Nat :=
  (cs.takeWhile isSpace).foldl (fun n c => if c == Char.ofNat 12 then 0 else n + 1) 0

/-- The lexemes of a text; `size` bounds its length, `opened` is the number of open brackets, and
`fresh` tells whether the line has no lexeme yet. -/
def lexemesFrom? : (size opened : Nat) → (fresh : Bool) → List Char → Option (List Lexeme)
  | 0, _, _, _ => none
  | size + 1, opened, fresh, cs =>
    let front := cs.dropWhile isSpace
    match front with
    | [] => if fresh then some [] else some [.lineEnd]
    | '#' :: rest => lexemesFrom? size opened fresh (rest.dropWhile (· != '\n'))
    | '\n' :: rest =>
      if fresh || opened != 0 then lexemesFrom? size opened fresh rest
      else (lexemesFrom? size opened true rest).map (.lineEnd :: ·)
    | '\\' :: '\n' :: rest => if rest.isEmpty then none else lexemesFrom? size opened fresh rest
    | _ =>
      if fresh && indentOf cs != 0 then none
      else
        match lexeme? front with
        | none => none
        | some (lexeme, rest) =>
          let opened := bracketsBehind opened lexeme
          if maxBrackets < opened then none
          else (lexemesFrom? size opened false rest).map (lexeme :: ·)

/-- The characters of a text in which every line ends in the same way. -/
def plainLines : List Char → List Char
  | [] => []
  | '\r' :: '\n' :: cs => '\n' :: plainLines cs
  | '\r' :: cs => '\n' :: plainLines cs
  | c :: cs => c :: plainLines cs

/-- The lexemes of a formula. -/
def lexemes? (s : String) : Option (List Lexeme) :=
  let cs := plainLines s.toList
  lexemesFrom? (cs.length + 1) 0 true cs

end TypeReach.Formula
