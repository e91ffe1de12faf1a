/-!
# Base 64

Four characters stand for three bytes. Characters outside the alphabet are passed over, and the
equals signs that complete a group of four end the text.
-/

namespace TypeReach.Text

/-- The six bits that a character stands for. -/
def sextet? (c : Char) : Option Nat :=
  if 'A' ≤ c && c ≤ 'Z' then some (c.toNat - 65)
  else if 'a' ≤ c && c ≤ 'z' then some (c.toNat - 71)
  else if '0' ≤ c && c ≤ '9' then some (c.toNat + 4)
  else if c == '+' then some 62
  else if c == '/' then some 63
  else none

/-- The bytes that the sextets of a group yield when the next one comes in: `carry` holds the bits
left over, and `position` tells how many sextets of the group there were. -/
private def joinSextet (position carry sextet : Nat) : List UInt8 × Nat :=
  match position with
  | 0 => ([], sextet)
  | 1 => ([(carry * 4 + sextet / 16).toUInt8], sextet % 16)
  | 2 => ([(carry * 16 + sextet / 4).toUInt8], sextet % 4)
  | _ => ([(carry * 64 + sextet).toUInt8], 0)

private def decodeFrom64 (position carry pads : Nat) : List Char → Option (List UInt8)
  | [] => if position == 0 then some [] else none
  | c :: rest =>
    if c == '=' then
      if 2 ≤ position then
        if 4 ≤ position + pads + 1 then some [] else decodeFrom64 position carry (pads + 1) rest
      else decodeFrom64 position carry pads rest
    else
      match sextet? c with
      | none => decodeFrom64 position carry pads rest
      | some sextet =>
        let (bytes, carry) := joinSextet position carry sextet
        (decodeFrom64 ((position + 1) % 4) carry 0 rest).map (bytes ++ ·)

/-- The bytes that a text in base 64 stands for, unless its last group is incomplete. -/
def decodeBase64 (cs : List Char) : Option (List UInt8) :=
  decodeFrom64 0 0 0 cs

end TypeReach.Text
