import TypeReach.Graph.File
import TypeReach.Proofs.Encoding
import TypeReach.Proofs.GraphCheck
import TypeReach.Proofs.SpelledOut

/-!
# Files that hold no graph

A graph file holds UTF-8 text with a YAML value that is null or a mapping. A file that holds
anything else is to be refused as unusable, and a graph file to be loaded like its value alone. Two
kinds of files are not treated so: bytes that are not UTF-8 give a fault of another kind, and a
value that counts as false is taken for an empty mapping.
-/

namespace TypeReach

namespace Text

/-- Bytes are the encoding of some characters. -/
def IsUtf8 (bytes : List UInt8) : Prop :=
  ∃ cs : List Char, bytes = cs.flatMap String.utf8EncodeChar

theorem decodeUtf8_of_not_isUtf8 {bytes : List UInt8} (h : ¬IsUtf8 bytes) :
    ∃ why, decodeUtf8 bytes = .error why := by
  cases hd : decodeUtf8 bytes with
  | error why => exact ⟨why, rfl⟩
  | ok cs => exact absurd ⟨cs, decodeUtf8_eq_ok_iff.1 hd⟩ h

end Text

namespace Files

/-- Bytes are UTF-8, and the reading of their text as YAML comes to a result. -/
def Holds (bytes : List UInt8) (r : Except DocumentError Value) : Prop :=
  ∃ cs : List Char, bytes = cs.flatMap String.utf8EncodeChar ∧
    documentValue (String.ofList (Text.unifyLineEnds cs)) = r

/-- What a document holds, read from its bytes. -/
def document (bytes : List UInt8) : Except DocumentError Value :=
  (documentText bytes).bind documentValue

theorem Holds.document_eq {bytes : List UInt8} {r : Except DocumentError Value}
    (h : Holds bytes r) : document bytes = r := by
  obtain ⟨cs, hbytes, hr⟩ := h
  have hdecode : Text.decodeUtf8 bytes = .ok cs := Text.decodeUtf8_eq_ok_iff.2 hbytes
  rw [← hr, document, documentText, Text.decodeFile, hdecode]
  rfl

theorem holds_document {bytes : List UInt8} (h : Text.IsUtf8 bytes) :
    Holds bytes (document bytes) := by
  obtain ⟨cs, hbytes⟩ := h
  have hholds : Holds bytes (documentValue (String.ofList (Text.unifyLineEnds cs))) :=
    ⟨cs, hbytes, rfl⟩
  exact hholds.document_eq ▸ hholds

theorem document_of_not_isUtf8 {bytes : List UInt8} (h : ¬Text.IsUtf8 bytes) :
    ∃ why, document bytes = .error (.notText why) := by
  obtain ⟨why, hwhy⟩ := Text.decodeUtf8_of_not_isUtf8 h
  refine ⟨why, ?_⟩
  rw [document, documentText, Text.decodeFile, hwhy]
  rfl

end Files

namespace Graph.Environment

open Files (Holds Tree Path document)

/-- What is to come of a file with some bytes: it is refused as unusable if they are not UTF-8, not
YAML, or hold what is neither null nor a mapping, and is loaded like its value otherwise. -/
structure LoadsOnlyGraphs (bytes : List UInt8) (loaded : Except Fault Environment) : Prop where
  notUtf8 : ¬Text.IsUtf8 bytes → ∃ message, loaded = .error (.unusable message)
  malformed : Holds bytes (.error .malformed) → ∃ message, loaded = .error (.unusable message)
  foreign : ∀ v, Holds bytes (.ok v) → v.opened ≠ .null → (∀ es, v.opened ≠ .map es) →
    ∃ message, loaded = .error (.unusable message)
  null : ∀ v, Holds bytes (.ok v) → v.opened = .null →
    loaded = (ofValue (.map [])).mapError LoadError.toFault
  mapping : ∀ v es, Holds bytes (.ok v) → v.opened = .map es →
    loaded = (ofValue v).mapError LoadError.toFault

section

variable {t : Tree} {p : Path} {bytes : List UInt8}

/-- What is read from a file is loaded; what counts as false is replaced by an empty mapping. -/
theorem ofFile_eq_document (hread : t.read p = .ok bytes) :
    (ofFile t p).mapError (FileFault.toFault p) =
      match document bytes with
      | .error why => .error (why.toFault p.name)
      | .ok v => (ofValue (if v.isTruthy then v else .map [])).mapError LoadError.toFault := by
  rw [ofFile, hread]
  change (ofBytes bytes).mapError _ = _
  rw [ofBytes, document]
  cases (Files.documentText bytes).bind Files.documentValue with
  | error why => rfl
  | ok v =>
    change ((ofValue (if v.isTruthy then v else .map [])).mapError FileFault.data).mapError _ =
      (ofValue (if v.isTruthy then v else .map [])).mapError LoadError.toFault
    cases ofValue (if v.isTruthy then v else .map []) <;> rfl

theorem ofValue_of_ne_map {v : Value} (h : ∀ es, v.opened ≠ .map es) :
    ofValue v = .error .notMapping := by
  unfold ofValue
  split
  · next es hes => exact absurd hes (h es)
  · rfl

/-- Graph data that counts as false and is a mapping, like null, is the empty mapping. -/
theorem ofValue_of_not_isTruthy {v : Value} {es : List (Value × Value)} (h : v.opened = .map es)
    (ht : v.isTruthy = false) : ofValue (.map []) = ofValue v := by
  refine ofValue_congr ?_
  rw [h, Value.eq_nil_of_not_isTruthy h ht]
  rfl

theorem not_isTruthy_of_null {v : Value} (h : v.opened = .null) : v.isTruthy = false := by
  cases v with
  | null => rfl
  | loop name body =>
    cases body with
    | null => rfl
    | again n =>
      simp only [Value.opened, Value.subst] at h
      split at h <;> cases h
    | loop n body =>
      simp only [Value.opened, Value.subst] at h
      split at h <;> cases h
    | _ => simp [Value.opened, Value.subst] at h
  | _ => cases h

/-- Bytes that are not UTF-8 give a fault that does not tell that the file is unusable. -/
theorem ofFile_of_not_isUtf8 (hread : t.read p = .ok bytes) (h : ¬Text.IsUtf8 bytes) :
    ∃ message, (ofFile t p).mapError (FileFault.toFault p) =
      .error (.other .undecodable message) := by
  obtain ⟨why, hwhy⟩ := Files.document_of_not_isUtf8 h
  rw [ofFile_eq_document hread, hwhy]
  exact ⟨_, rfl⟩

/-- Whatever counts as false is loaded as an environment without types. -/
theorem ofFile_of_not_isTruthy {v : Value} (hread : t.read p = .ok bytes)
    (hv : Holds bytes (.ok v)) (ht : v.isTruthy = false) :
    (ofFile t p).mapError (FileFault.toFault p) =
      (ofValue (.map [])).mapError LoadError.toFault := by
  rw [ofFile_eq_document hread, hv.document_eq]
  simp only [ht]
  rfl

theorem ofFile_of_isTruthy {v : Value} (hread : t.read p = .ok bytes)
    (hv : Holds bytes (.ok v)) (ht : v.isTruthy = true) :
    (ofFile t p).mapError (FileFault.toFault p) = (ofValue v).mapError LoadError.toFault := by
  rw [ofFile_eq_document hread, hv.document_eq]
  simp only [ht, if_true]

/-- A file is treated as it is to be exactly if its bytes are UTF-8 and what counts as false in it
is null or a mapping. -/
theorem ofFile_loadsOnlyGraphs_iff (hread : t.read p = .ok bytes) :
    LoadsOnlyGraphs bytes ((ofFile t p).mapError (FileFault.toFault p)) ↔
      Text.IsUtf8 bytes ∧ ∀ v, Holds bytes (.ok v) →
        v.opened = .null ∨ (∃ es, v.opened = .map es) ∨ v.isTruthy = true := by
  constructor
  · intro h
    constructor
    · by_contra hnot
      obtain ⟨message, hm⟩ := h.notUtf8 hnot
      obtain ⟨_, hother⟩ := ofFile_of_not_isUtf8 hread hnot
      cases hm.symm.trans hother
    · intro v hv
      by_contra hnot
      rw [not_or, not_or, not_exists, Bool.not_eq_true] at hnot
      obtain ⟨hnull, hmap, hfalse⟩ := hnot
      obtain ⟨message, hm⟩ := h.foreign v hv hnull hmap
      cases hm.symm.trans (ofFile_of_not_isTruthy hread hv hfalse)
  · rintro ⟨hutf8, hvalues⟩
    refine ⟨fun h => absurd hutf8 h, fun h => ?_, fun v hv hnull hmap => ?_, fun v hv hnull => ?_,
      fun v es hv hmap => ?_⟩
    · rw [ofFile_eq_document hread, h.document_eq]
      exact ⟨_, rfl⟩
    · obtain h | ⟨es, hes⟩ | htrue := hvalues v hv
      · exact absurd h hnull
      · exact absurd hes (hmap es)
      · rw [ofFile_of_isTruthy hread hv htrue, ofValue_of_ne_map hmap]
        exact ⟨_, rfl⟩
    · exact ofFile_of_not_isTruthy hread hv (not_isTruthy_of_null hnull)
    · cases ht : v.isTruthy with
      | true => exact ofFile_of_isTruthy hread hv ht
      | false =>
        rw [ofFile_of_not_isTruthy hread hv ht, ofValue_of_not_isTruthy hmap ht]

end

/-- A working directory with a graph file alone. -/
def treeOf (bytes : List UInt8) : Tree :=
  { home := ["home"], files := Table.ofEntries [("home/g.yml", bytes)] }

theorem read_treeOf (bytes : List UInt8) :
    (treeOf bytes).read (Path.ofText "g.yml") = .ok bytes := by
  simp only [Tree.read, Tree.place, Tree.holdsNull, String.contains_char_eq]
  rfl

/-- What comes of such a file. -/
def loadedFrom (bytes : List UInt8) : Except Fault Environment :=
  (ofFile (treeOf bytes) (Path.ofText "g.yml")).mapError (FileFault.toFault (Path.ofText "g.yml"))

/-- A file with a mapping is treated as it is to be. -/
theorem ofFile_loadsOnlyGraphs_mapping :
    LoadsOnlyGraphs "types: {A: null}".toUTF8.toList
      (loadedFrom "types: {A: null}".toUTF8.toList) := by
  have hutf8 : Text.IsUtf8 "types: {A: null}".toUTF8.toList :=
    ⟨"types: {A: null}".toList, by decide +kernel⟩
  have htrue : (document "types: {A: null}".toUTF8.toList).toOption.map Value.isTruthy =
      some true := by decide +kernel
  refine (ofFile_loadsOnlyGraphs_iff (read_treeOf _)).2 ⟨hutf8, fun v hv => .inr (.inr ?_)⟩
  rw [hv.document_eq] at htrue
  exact Option.some.inj htrue

/-- A file with an empty text as its value and one with a byte that begins no character are not. -/
theorem ofFile_not_loadsOnlyGraphs :
    (Holds "''".toUTF8.toList (.ok (.str "")) ∧
      ¬LoadsOnlyGraphs "''".toUTF8.toList (loadedFrom "''".toUTF8.toList)) ∧
    (¬Text.IsUtf8 [0xFF] ∧ ¬LoadsOnlyGraphs [0xFF] (loadedFrom [0xFF])) := by
  have hutf8 : Text.IsUtf8 "''".toUTF8.toList := ⟨"''".toList, by decide +kernel⟩
  have hread : document "''".toUTF8.toList = .ok (.str "") := by
    have hsame : (document "''".toUTF8.toList).toOption.map (Value.sameKey · (.str "")) =
        some true := by decide +kernel
    cases hd : document "''".toUTF8.toList with
    | error why =>
      rw [hd] at hsame
      cases hsame
    | ok v =>
      rw [hd] at hsame
      rw [Value.sameKey_str_iff.1 (Option.some.inj hsame)]
  have hempty : Holds "''".toUTF8.toList (.ok (.str "")) := hread ▸ Files.holds_document hutf8
  have hnot : ¬Text.IsUtf8 [0xFF] := by
    rintro ⟨cs, hcs⟩
    cases Text.decodeUtf8_eq_ok_iff.2 hcs
  refine ⟨⟨hempty, fun h => ?_⟩, hnot, fun h => ?_⟩
  · obtain ⟨message, hm⟩ := h.foreign _ hempty (by simp [Value.opened]) (by simp [Value.opened])
    cases hm.symm.trans (ofFile_of_not_isTruthy (read_treeOf _) hempty rfl)
  · obtain ⟨message, hm⟩ := h.notUtf8 hnot
    obtain ⟨_, hother⟩ := ofFile_of_not_isUtf8 (p := Path.ofText "g.yml") (read_treeOf _) hnot
    cases hm.symm.trans hother

end Graph.Environment

end TypeReach
