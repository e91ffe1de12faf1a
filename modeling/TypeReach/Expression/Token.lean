import TypeReach.Text.Blank
import TypeReach.Text.Word

/-!
# Tokens of type expressions

A type expression is made of names, which are taken as long as possible, the array mark `[]`, and
the signs `<`, `>`, `,`, `?` and `&`. Blanks may stand before every token and at the end.
-/

namespace TypeReach.Expression

/-- A token of a type expression. -/
inductive Token where
  | name (text : String)
  | array
  | less
  | greater
  | comma
  | question
  | ampersand
  deriving DecidableEq, Repr, Inhabited

namespace Token

/-- How a token is written. -/
def text : Token → String
  | name t => t
  | array => "[]"
  | less => "<"
  | greater => ">"
  | comma => ","
  | question => "?"
  | ampersand => "&"

end Token

/-- What is wrong with a type expression. -/
inductive ParseError where
  /-- No token begins at this offset, where blanks before it count as part of it. -/
  | invalidCharacter (offset : Nat)
  /-- There are no tokens. -/
  | empty
  /-- The tokens end too early. -/
  | ended
  /-- A type name was expected. -/
  | expectedName (found : Token)
  /-- Type arguments are not closed. -/
  | unclosed
  /-- Tokens are left over. -/
  | trailing
  deriving DecidableEq, Repr, Inhabited

/-- What is said about an expression that does not parse. -/
def ParseError.message (source : String) : ParseError → String
  | invalidCharacter offset =>
    "Invalid character in type expression '" ++ source ++ "' at offset " ++ toString offset
  | empty => "Type expression must not be empty"
  | ended => "Unexpected end of type expression '" ++ source ++ "'"
  | expectedName found =>
    "Expected a type name in '" ++ source ++ "', found '" ++ found.text ++ "'"
  | unclosed => "Unclosed type arguments in '" ++ source ++ "'"
  | trailing => "Unexpected trailing input in type expression '" ++ source ++ "'"

/-- The token that begins the text, and the text behind it. -/
def nextToken? : List Char → Option (Token × List Char)
  | [] => none
  | '[' :: ']' :: rest => some (.array, rest)
  | '<' :: rest => some (.less, rest)
  | '>' :: rest => some (.greater, rest)
  | ',' :: rest => some (.comma, rest)
  | '?' :: rest => some (.question, rest)
  | '&' :: rest => some (.ampersand, rest)
  | c :: rest =>
    if Text.isNameStart c then
      some (.name (String.ofList (c :: rest.takeWhile Text.isNamePart)),
        rest.dropWhile Text.isNamePart)
    else none

/-- The tokens of the rest of a text with `total` characters and no blanks at its end; a rest of
`size` characters has at most as many tokens. -/
def tokensFrom (total : Nat) : (size : Nat) → List Char → Except ParseError (List Token)
  | _, [] => .ok []
  | 0, _ :: _ => .ok []
  | size + 1, c :: cs =>
    match nextToken? ((c :: cs).dropWhile Text.isBlank) with
    | none => .error (.invalidCharacter (total - (cs.length + 1)))
    | some (token, rest) => do
      let tokens ← tokensFrom total size rest
      return token :: tokens

/-- The tokens of an expression. -/
def tokens (source : String) : Except ParseError (List Token) :=
  let cs := Text.trimRight source.toList
  match tokensFrom cs.length cs.length cs with
  | .ok [] => .error .empty
  | result => result

end TypeReach.Expression
