/-!
# Halves of surrogate pairs

A code point from D800 to DFFF is one half of a surrogate pair and by itself no character. Where a
text holds one that stands alone, a character from the private end of the code space is kept in its
place.
-/

namespace TypeReach.Text

/-- Whether a number is the code point of a half of a surrogate pair. -/
def isSurrogate (n : Nat) : Bool := 0xD800 ≤ n && n ≤ 0xDFFF

/-- How far from a half of a pair the character lies that is kept in its place. -/
private def surrogateShift : Nat := 0x100000

/-- The character of a code point. -/
def charOfCode (n : Nat) : Char :=
  Char.ofNat (if isSurrogate n then n + surrogateShift else n)

/-- The code point that a character is kept in the place of, if it is a half of a pair. -/
def surrogate? (c : Char) : Option Nat :=
  if isSurrogate (c.toNat - surrogateShift) then some (c.toNat - surrogateShift) else none

/-- The code point that a character stands for. -/
def codeOf (c : Char) : Nat := (surrogate? c).getD c.toNat

end TypeReach.Text
