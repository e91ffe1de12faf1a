import Mathlib.Data.List.Basic
import TypeReach.Files.Tree

/-!
# Files that stay where they are

A path leads to the same place when files are added to a tree, and to a file when texts are put at
the ends of files.
-/

namespace TypeReach.Files.Tree

variable {t : Tree}

theorem fileAt?_putAt (t : Tree) (place other : List String) (bytes : List UInt8) :
    (t.putAt place bytes).fileAt? other =
      if key other = key place then some bytes else t.fileAt? other :=
  Table.get?_put _ _ _ _

theorem names_putAt (t : Tree) (place : List String) (bytes : List UInt8) :
    (t.putAt place bytes).files.names =
      if key place ∈ t.files.names then t.files.names else t.files.names ++ [key place] :=
  Table.map_fst_putIn _ _ _

theorem key_mem_names {place : List String} (h : (t.fileAt? place).isSome) :
    key place ∈ t.files.names := by
  by_contra hnone
  rw [fileAt?, (Table.get?_eq_none_iff _ _).2 hnone] at h
  cases h

/-- A file makes folders of the places above it. -/
theorem isFolderAt_putAt (t : Tree) (place other : List String) (bytes : List UInt8) :
    (t.putAt place bytes).isFolderAt other =
      (t.isFolderAt other || (key other ++ "/").isPrefixOf (key place)) := by
  simp only [isFolderAt, names_putAt]
  split
  · next hmem =>
    rw [Bool.eq_iff_iff]
    simp only [putAt, Bool.or_eq_true, List.any_eq_true]
    constructor
    · exact .inl
    · rintro (h | h)
      · exact h
      · exact .inr ⟨_, hmem, h⟩
  · simp [putAt, Bool.or_assoc]

theorem isFolderAt_putAt_of_isSome {place : List String} (h : (t.fileAt? place).isSome)
    (bytes : List UInt8) (other : List String) :
    (t.putAt place bytes).isFolderAt other = t.isFolderAt other := by
  rw [isFolderAt_putAt, Bool.eq_iff_iff]
  simp only [isFolderAt, Bool.or_eq_true, List.any_eq_true]
  constructor
  · rintro (h' | h')
    · exact h'
    · exact .inr ⟨_, key_mem_names h, h'⟩
  · exact .inl

theorem not_isFolderAt_putAt_self {place : List String} (h : t.isFolderAt place = false)
    (bytes : List UInt8) : (t.putAt place bytes).isFolderAt place = false := by
  rw [isFolderAt_putAt, h, Bool.false_or, Bool.eq_false_iff]
  intro hprefix
  rw [String.isPrefixOf, String.startsWith_string_iff, String.toList_append] at hprefix
  have hlength := hprefix.length_le
  rw [List.length_append, show "/".toList.length = 1 from rfl] at hlength
  omega

theorem follow_putAt {place : List String} {bytes : List UInt8} {found : List String} :
    ∀ {from' parts : List String}, t.follow from' parts = .ok found →
      (t.putAt place bytes).follow from' parts = .ok found
  | from', [], h => h
  | from', part :: parts, h => by
    rw [follow] at h ⊢
    split at h
    · next hfolder =>
      rw [if_pos (by rw [isFolderAt_putAt, hfolder, Bool.true_or])]
      split at h
      · cases h
      · next hshort =>
        rw [if_neg hshort]
        exact follow_putAt h
    · split at h <;> cases h

/-- A path leads to its place also when files are added. -/
theorem place_putAt {p : Path} {found : List String} (h : t.place p = .ok found)
    (place : List String) (bytes : List UInt8) : (t.putAt place bytes).place p = .ok found := by
  rw [Tree.place] at h ⊢
  split at h
  · cases h
  · split at h
    · cases h
    · next hnull hshort =>
      rw [if_neg hnull, if_neg hshort]
      exact follow_putAt h

theorem read_eq_ok_iff {p : Path} {bytes : List UInt8} :
    t.read p = .ok bytes ↔
      ∃ place, t.place p = .ok place ∧ t.isFolderAt place = false ∧ t.fileAt? place = some bytes := by
  rw [Tree.read]
  constructor
  · intro h
    split at h
    · cases h
    · next place hplace =>
      split at h
      · cases h
      · next hfolder =>
        split at h
        · next found hfile =>
          cases h
          exact ⟨place, hplace, by simpa using hfolder, hfile⟩
        · cases h
  · rintro ⟨place, hplace, hfolder, hfile⟩
    simp [hplace, hfolder, hfile]

/-- A file that is made sure of can be read. -/
theorem exists_read_of_touch {p : Path} {t' : Tree} (h : t.touch p = .ok t') :
    ∃ bytes, t'.read p = .ok bytes := by
  rw [touch] at h
  split at h
  · cases h
  · next place hplace =>
    split at h
    · cases h
    · next hfolder =>
      have hnot : t.isFolderAt place = false := by simpa using hfolder
      split at h
      · next hfile =>
        cases h
        obtain ⟨bytes, hbytes⟩ := Option.isSome_iff_exists.1 hfile
        exact ⟨bytes, read_eq_ok_iff.2 ⟨place, hplace, hnot, hbytes⟩⟩
      · cases h
        exact ⟨[], read_eq_ok_iff.2 ⟨place, place_putAt hplace place [],
          not_isFolderAt_putAt_self hnot [], by simp [fileAt?_putAt]⟩⟩

theorem isSome_fileAt?_putAt {place : List String} (h : (t.fileAt? place).isSome)
    (bytes : List UInt8) (other : List String) :
    ((t.putAt place bytes).fileAt? other).isSome = (t.fileAt? other).isSome := by
  rw [fileAt?_putAt]
  split
  · next hkey =>
    rw [fileAt?, hkey]
    exact h.symm
  · rfl

/-- Where parts lead to depends only on which folders and files there are. -/
theorem follow_congr {t t' : Tree} (hfolder : ∀ place, t'.isFolderAt place = t.isFolderAt place)
    (hfile : ∀ place, (t'.fileAt? place).isSome = (t.fileAt? place).isSome) :
    ∀ parts place, t'.follow place parts = t.follow place parts
  | [], _ => rfl
  | part :: parts, place => by
    simp only [follow, hfolder, hfile, follow_congr hfolder hfile parts]

theorem place_putAt_of_isSome {place : List String} (h : (t.fileAt? place).isSome)
    (bytes : List UInt8) (p : Path) : (t.putAt place bytes).place p = t.place p := by
  have hfollow := follow_congr (isFolderAt_putAt_of_isSome h bytes) (isSome_fileAt?_putAt h bytes)
  rw [Tree.place, Tree.place, hfollow]
  rfl

/-- A text is put at the end of the file that a path leads to, and nothing else happens. -/
def Extends (t : Tree) (p : Path) (text : String) (t' : Tree) : Prop :=
  ∃ place bytes, t.place p = .ok place ∧ t.read p = .ok bytes ∧
    t' = t.putAt place (bytes ++ text.toUTF8.toList)

namespace Extends

variable {p q : Path} {text : String} {t' : Tree}

theorem eq_append (h : t.Extends p text t') : t' = t.append p text := by
  obtain ⟨place, bytes, hplace, hread, rfl⟩ := h
  obtain ⟨own, hown, -, hfile⟩ := read_eq_ok_iff.1 hread
  cases hown.symm.trans hplace
  simp only [append, hplace, hfile, Option.getD_some]

/-- The file is read with the text behind what was in it before. -/
theorem read {bytes : List UInt8} (h : t.Extends p text t') (hread : t.read p = .ok bytes) :
    t'.read p = .ok (bytes ++ text.toUTF8.toList) := by
  obtain ⟨place, held, hplace, hheld, rfl⟩ := h
  cases hheld.symm.trans hread
  obtain ⟨own, hown, hfolder, hfile⟩ := read_eq_ok_iff.1 hread
  cases hown.symm.trans hplace
  have hsome : (t.fileAt? place).isSome := by rw [hfile]; rfl
  exact read_eq_ok_iff.2 ⟨place, by rw [place_putAt_of_isSome hsome, hplace],
    by rw [isFolderAt_putAt_of_isSome hsome, hfolder], by rw [fileAt?_putAt, if_pos rfl]⟩

/-- Paths that lead to other files are read as before. -/
theorem read_of_ne (h : t.Extends p text t')
    (hne : ∀ place other, t.place p = .ok place → t.place q = .ok other → key other ≠ key place) :
    t'.read q = t.read q := by
  obtain ⟨place, held, hplace, hheld, rfl⟩ := h
  obtain ⟨own, hown, -, hfile⟩ := read_eq_ok_iff.1 hheld
  cases hown.symm.trans hplace
  have hsome : (t.fileAt? place).isSome := by rw [hfile]; rfl
  rw [Tree.read, Tree.read, place_putAt_of_isSome hsome]
  cases hq : t.place q with
  | error problem => rfl
  | ok other =>
    simp only [isFolderAt_putAt_of_isSome hsome, fileAt?_putAt, hne place other hplace hq, if_false]

end Extends

/-- Putting texts at the ends of files changes neither where paths lead to nor what is a file. -/
theorem exists_read_appendAt {p : Path} {bytes : List UInt8} (h : t.read p = .ok bytes)
    (place : List String) (text : String) :
    ∃ bytes', (t.appendAt place text).read p = .ok bytes' := by
  obtain ⟨own, hown, hfolder, hfile⟩ := read_eq_ok_iff.1 h
  rw [appendAt]
  split
  · next held hheld =>
    have hsome : (t.fileAt? place).isSome := by rw [hheld]; rfl
    obtain ⟨bytes', hbytes⟩ : ∃ bytes', (t.putAt place (held ++ text.toUTF8.toList)).fileAt? own =
        some bytes' := by
      rw [← Option.isSome_iff_exists, isSome_fileAt?_putAt hsome, hfile]
      rfl
    exact ⟨bytes', read_eq_ok_iff.2 ⟨own, by rw [place_putAt_of_isSome hsome, hown],
      by rw [isFolderAt_putAt_of_isSome hsome, hfolder], hbytes⟩⟩
  · exact ⟨bytes, h⟩

theorem place_appendAt (t : Tree) (place : List String) (text : String) (p : Path) :
    (t.appendAt place text).place p = t.place p := by
  rw [appendAt]
  split
  · next held hheld => exact place_putAt_of_isSome (by rw [hheld]; rfl) _ p
  · rfl

theorem extends_appendAt {p : Path} {place : List String} {bytes : List UInt8}
    (hplace : t.place p = .ok place) (hread : t.read p = .ok bytes) (text : String) :
    t.Extends p text (t.appendAt place text) := by
  refine ⟨place, bytes, hplace, hread, ?_⟩
  obtain ⟨own, hown, -, hfile⟩ := read_eq_ok_iff.1 hread
  cases hown.symm.trans hplace
  rw [appendAt, hfile]

end TypeReach.Files.Tree
