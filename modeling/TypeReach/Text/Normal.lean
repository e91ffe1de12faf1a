import TypeReach.Text.Compatibility
import TypeReach.Text.Composition

/-!
# Normal form of text

Two spellings of one word have one normal form: characters that stand for others are replaced, the
marks of a letter are put into order, and a letter is joined with its marks as far as there are
characters for that. Syllable blocks are joined and taken apart by arithmetic.
-/

namespace TypeReach.Text

/-- The letters of a syllable block. -/
def syllableLetters? (code : Nat) : Option (List Nat) :=
  if 0xAC00 ≤ code && code ≤ 0xD7A3 then
    let index := code - 0xAC00
    let last := index % 28
    some ([0x1100 + index / 588, 0x1161 + index % 588 / 28]
      ++ if last = 0 then [] else [0x11A7 + last])
  else none

/-- The block of a syllable and the letter behind it. -/
def syllable? (first second : Nat) : Option Nat :=
  if 0x1100 ≤ first && first < 0x1113 && 0x1161 ≤ second && second < 0x1176 then
    some (0xAC00 + ((first - 0x1100) * 21 + (second - 0x1161)) * 28)
  else if 0xAC00 ≤ first && first ≤ 0xD7A3 && (first - 0xAC00) % 28 = 0
      && 0x11A7 < second && second < 0x11C3 then
    some (first + (second - 0x11A7))
  else none

/-- The plain letters and marks that a character consists of, in at most `n` steps. -/
def lettersWithin : Nat → Nat → List Nat
  | 0, code => [code]
  | n + 1, code =>
    if code < 0x80 then [code]
    else
      match syllableLetters? code, plainForm? code with
      | some letters, _ => letters
      | none, some plain => plain
      | none, none =>
        match compositions.find? fun e => e.2.2 = code with
        | some (letter, mark, _) => lettersWithin n letter ++ lettersWithin n mark
        | none => [code]

/-- The plain letters and marks that a character consists of. No character is more than three times
composed. -/
def letters (code : Nat) : List Nat :=
  lettersWithin 4 code

/-- Puts a character behind others, the last first: a mark goes before marks of later places. -/
def putMark (code : Nat) : List Nat → List Nat
  | [] => [code]
  | other :: others =>
    if placeOf code != 0 && placeOf code < placeOf other then other :: putMark code others
    else code :: other :: others

/-- Characters with the marks of each letter in the order of their places. -/
def orderMarks (codes : List Nat) : List Nat :=
  (codes.foldl (fun out code => putMark code out) []).reverse

/-- The character for a letter and a mark. -/
def compose? (letter mark : Nat) : Option Nat :=
  syllable? letter mark <|>
    ((compositions.find? fun e => e.1 = letter && e.2.1 = mark).map fun e => e.2.2)

/-- A letter joined with what follows. The marks in `kept`, the last first, could not be joined;
they hide the marks of their own and earlier places, and any letter. -/
def joinMarks (letter : Nat) (kept : List Nat) : List Nat → List Nat
  | [] => letter :: kept.reverse
  | code :: rest =>
    let free := match kept with
      | [] => true
      | last :: _ => placeOf last < placeOf code
    match if free then compose? letter code else none with
    | some whole => joinMarks whole kept rest
    | none =>
      if placeOf code = 0 then letter :: (kept.reverse ++ joinMarks code [] rest)
      else joinMarks letter (code :: kept) rest

/-- The normal form of characters. -/
def normalCodes (codes : List Nat) : List Nat :=
  match orderMarks (codes.flatMap letters) with
  | [] => []
  | first :: rest => joinMarks first [] rest

/-- The normal form of a text; plain text is its own. -/
def normal (s : String) : String :=
  if s.toList.all fun c => c.toNat < 0x80 then s
  else String.ofList ((normalCodes (s.toList.map Char.toNat)).map Char.ofNat)

end TypeReach.Text
