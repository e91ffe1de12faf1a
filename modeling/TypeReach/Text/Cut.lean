/-!
# Texts in parts

A character cuts a text into the parts between the places where it stands. Texts without the
character that are put together with it between them are those parts.
-/

namespace TypeReach.Text

/-- The parts of a text between the places where a character stands. -/
def cutAt (c : Char) (s : String) : List String :=
  (s.toList.splitOn c).map String.ofList

theorem cutAt_intercalate {c : Char} {parts : List String} (h : ∀ part ∈ parts, c ∉ part.toList)
    (hne : parts ≠ []) : cutAt c ((String.singleton c).intercalate parts) = parts := by
  have hlists : ∀ cs ∈ parts.map String.toList, c ∉ cs := by simpa using h
  have hsplit := List.splitOn_intercalate c hlists (by simpa using hne)
  rw [cutAt, String.toList_intercalate, String.toList_singleton, hsplit, List.map_map]
  simp [Function.comp_def]

theorem cutAt_ne_nil (c : Char) (s : String) : cutAt c s ≠ [] := by
  simp [cutAt]

theorem intercalate_cutAt (c : Char) (s : String) :
    (String.singleton c).intercalate (cutAt c s) = s := by
  have hchars : (cutAt c s).map String.toList = s.toList.splitOn c := by
    simp [cutAt, Function.comp_def]
  rw [← String.toList_inj, String.toList_intercalate, String.toList_singleton, hchars,
    List.intercalate_splitOn c]

end TypeReach.Text
