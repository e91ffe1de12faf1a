import Mathlib.Data.List.TakeWhile
import TypeReach.Classes.Resolve

/-!
# Dotted names

A name can be cut at its first or its last dot, or at all of them. Parts without dots that are put
together with dots between them are found again.
-/

namespace TypeReach

namespace Classes

section

variable {c : Char} {as bs : List Char} {s t : String}

/-- A text is cut where the character is first found. -/
theorem cutFirst_ofList (h : c ∉ as) :
    cutFirst c (String.ofList (as ++ c :: bs)) = (String.ofList as, String.ofList bs) := by
  have hne : ∀ d ∈ as, (d != c) = true := fun d hd => bne_iff_ne.2 fun e => h (e ▸ hd)
  simp [cutFirst, List.takeWhile_append_of_pos hne, List.dropWhile_append_of_pos hne]

theorem cutFirst_of_not_mem (h : c ∉ s.toList) : cutFirst c s = (s, "") := by
  have hne : ∀ d ∈ s.toList, (d != c) = true := fun d hd => bne_iff_ne.2 fun e => h (e ▸ hd)
  simp [cutFirst, List.takeWhile_eq_self_iff.2 hne, List.dropWhile_eq_nil_iff.2 hne]

/-- A text is cut where the character is last found. -/
theorem cutLast_ofList (h : c ∉ bs) :
    cutLast c (String.ofList (as ++ c :: bs)) = (String.ofList as, String.ofList bs) := by
  have hne : ∀ d ∈ bs.reverse, (d != c) = true :=
    fun d hd => bne_iff_ne.2 fun e => h (e ▸ List.mem_reverse.1 hd)
  simp [cutLast, List.takeWhile_append_of_pos hne, List.dropWhile_append_of_pos hne]

theorem exists_first (h : c ∈ s.toList) :
    ∃ as bs, c ∉ as ∧ s = String.ofList (as ++ c :: bs) := by
  obtain ⟨as, bs, hs, has⟩ := List.eq_append_cons_of_mem h
  exact ⟨as, bs, has, String.toList_inj.1 (by rw [hs, String.toList_ofList])⟩

theorem exists_last (h : c ∈ s.toList) :
    ∃ as bs, c ∉ bs ∧ s = String.ofList (as ++ c :: bs) := by
  obtain ⟨bs, as, hs, hbs⟩ := List.eq_append_cons_of_mem (List.mem_reverse.2 h)
  have hlist : s.toList = as.reverse ++ c :: bs.reverse := by
    rw [← List.reverse_reverse s.toList, hs]
    simp
  exact ⟨as.reverse, bs.reverse, by simpa using hbs,
    String.toList_inj.1 (by rw [hlist, String.toList_ofList])⟩

theorem append_singleton_append :
    s ++ String.singleton c ++ t = String.ofList (s.toList ++ c :: t.toList) := by
  rw [← String.toList_inj]
  simp

theorem cutFirst_append (h : c ∉ s.toList) :
    cutFirst c (s ++ String.singleton c ++ t) = (s, t) := by
  rw [append_singleton_append, cutFirst_ofList h, String.ofList_toList, String.ofList_toList]

theorem cutLast_append (h : c ∉ t.toList) :
    cutLast c (s ++ String.singleton c ++ t) = (s, t) := by
  rw [append_singleton_append, cutLast_ofList h, String.ofList_toList, String.ofList_toList]

/-- What stands before the first occurrence of a character is not changed by what is added with it,
of which something is left behind. -/
theorem cutFirst_append_fst (ht : t ≠ "") :
    (cutFirst c (s ++ String.singleton c ++ t)).1 = (cutFirst c s).1 ∧
      (cutFirst c (s ++ String.singleton c ++ t)).2 ≠ "" := by
  by_cases h : c ∈ s.toList
  · obtain ⟨as, bs, has, rfl⟩ := exists_first h
    have hlonger : String.ofList (as ++ c :: bs) ++ String.singleton c ++ t =
        String.ofList (as ++ c :: (bs ++ c :: t.toList)) := by
      rw [append_singleton_append, String.toList_ofList, List.append_assoc, List.cons_append]
    rw [hlonger, cutFirst_ofList has, cutFirst_ofList has]
    refine ⟨rfl, fun he => ?_⟩
    rw [← String.toList_inj, String.toList_ofList] at he
    cases (List.append_eq_nil_iff.1 he).2
  · rw [cutFirst_append h, cutFirst_of_not_mem h]
    exact ⟨rfl, ht⟩

end

end Classes

end TypeReach
