import TypeReach.Expression.Token
import TypeReach.Fault
import TypeReach.Reference

/-!
# Reading type expressions

    Type   ::= '?' | '?' extends Bounds | '?' super Bounds | Named '[]'*
    Named  ::= name | name '<' Type (',' Type)* '>'
    Bounds ::= Type ('&' Type)*

The words `extends` and `super` are keywords directly after `?` and names elsewhere. An `&` belongs
to the innermost bounds that are open. Each name is resolved as it is read.
-/

namespace TypeReach.Expression

variable {δ : Type}

/-- The reference with an array around it for each array mark in front. -/
def arrays (r : TypeRef δ) : List Token → TypeRef δ × List Token
  | .array :: rest => arrays (.array r) rest
  | rest => (r, rest)

section

variable (resolve : String → δ)

mutual

/-- Reads one type from the front and gives the tokens behind it; `fuel` bounds the nesting, and two
more than twice the number of tokens always suffices. -/
def parseType : (fuel : Nat) → List Token → Except ParseError (TypeRef δ × List Token)
  | 0, _ => .error .ended
  | _ + 1, [] => .error .ended
  | fuel + 1, .question :: .name "extends" :: rest => do
    let (bounds, rest) ← parseSeparated .ampersand fuel rest
    return (.wildcard [] bounds, rest)
  | fuel + 1, .question :: .name "super" :: rest => do
    let (bounds, rest) ← parseSeparated .ampersand fuel rest
    return (.wildcard bounds [], rest)
  | _ + 1, .question :: rest => .ok (.wildcard [] [], rest)
  | fuel + 1, .name owner :: .less :: rest => do
    let (args, rest) ← parseSeparated .comma fuel rest
    match rest with
    | [] => .error .ended
    | .greater :: rest => .ok (arrays (.parameterized (.concrete (resolve owner)) args) rest)
    | _ :: _ => .error .unclosed
  | _ + 1, .name owner :: rest => .ok (arrays (.concrete (resolve owner)) rest)
  | _ + 1, token :: _ => .error (.expectedName token)

/-- Reads one or more types with a separator between them. -/
def parseSeparated (separator : Token) :
    (fuel : Nat) → List Token → Except ParseError (List (TypeRef δ) × List Token)
  | 0, _ => .error .ended
  | fuel + 1, tokens => do
    let (first, rest) ← parseType fuel tokens
    match rest with
    | [] => return ([first], [])
    | token :: rest =>
      if token = separator then
        let (others, rest) ← parseSeparated separator fuel rest
        return (first :: others, rest)
      else return ([first], token :: rest)

end

/-- Reads tokens that are one type and nothing else. -/
def parseTokens (tokens : List Token) : Except ParseError (TypeRef δ) := do
  let (reference, rest) ← parseType resolve (2 * tokens.length + 2) tokens
  if rest.isEmpty then return reference else .error .trailing

/-- The reference that an expression stands for, with the names written in it resolved. -/
def parseWith (source : String) : Except ParseError (TypeRef δ) := do
  parseTokens resolve (← tokens source)

/-- The reference that an expression stands for. One that does not parse is not usable. -/
def read (source : String) : Except Fault (TypeRef δ) :=
  (parseWith resolve source).mapError fun why => .unusable (why.message source)

end

/-- The reference that an expression stands for, over the names written in it. -/
def parse (source : String) : Except ParseError (TypeRef String) :=
  parseWith id source

end TypeReach.Expression
