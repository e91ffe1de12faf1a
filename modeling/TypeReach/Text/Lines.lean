/-!
# Lines of a text

A line ends with the characters that move the paper or the cursor to a new line, with the
separators of files, groups and records, or where the text ends. A carriage return and the line
feed behind it are one end. What follows the last end is a line only if it is not empty.
-/

namespace TypeReach.Text

/-- Whether a line ends with a character. -/
def isLineEnd (c : Char) : Bool :=
  (0xA ≤ c.toNat && c.toNat ≤ 0xD) || (0x1C ≤ c.toNat && c.toNat ≤ 0x1E) ||
    [0x85, 0x2028, 0x2029].contains c.toNat

/-- Lines with one more character in front. -/
def extendFirst (c : Char) : List (List Char) → List (List Char)
  | [] => [[c]]
  | l :: ls => (c :: l) :: ls

/-- The lines of characters, without their ends. -/
def cutLines : List Char → List (List Char)
  | [] => []
  | '\r' :: '\n' :: cs => [] :: cutLines cs
  | c :: cs => if isLineEnd c then [] :: cutLines cs else extendFirst c (cutLines cs)

/-- The lines of a text, without their ends. -/
def lines (s : String) : List String :=
  (cutLines s.toList).map String.ofList

theorem isLineEnd_of_mem_extendFirst {c : Char} {ls : List (List Char)} (hc : isLineEnd c = false)
    (h : ∀ l ∈ ls, ∀ d ∈ l, isLineEnd d = false) :
    ∀ l ∈ extendFirst c ls, ∀ d ∈ l, isLineEnd d = false := by
  cases ls with
  | nil => simpa [extendFirst] using hc
  | cons l ls =>
    simp only [extendFirst, List.forall_mem_cons] at h ⊢
    exact ⟨⟨hc, h.1⟩, h.2⟩

theorem isLineEnd_of_mem_cutLines (cs : List Char) :
    ∀ l ∈ cutLines cs, ∀ d ∈ l, isLineEnd d = false := by
  fun_induction cutLines cs with
  | case1 => simp
  | case2 cs ih => simpa using ih
  | case3 c cs _ hc ih => simpa using ih
  | case4 c cs _ hc ih => exact isLineEnd_of_mem_extendFirst (by simpa using hc) ih

end TypeReach.Text
