import TypeReach.Classes.Inspector
import TypeReach.Proofs.Classification
import TypeReach.Proofs.DottedNames

/-!
# Faults of lazy names

To resolve a lazy name fails because the type is not there or its module cannot be loaded, and says
so about the name. There are two exceptions. Attributes that are read on the way may fail for
reasons of their own. And the name of a module that is to be imported must not be empty or begin
with a dot, which is complained about in another way if a name begins with a dot.
-/

namespace TypeReach

/-- A fault says of a name that its type is not there or cannot be loaded. -/
def Fault.Concerns (name : String) : Fault → Prop
  | notPresent typeName _ => typeName = some name
  | linkage _ typeName => typeName = some name
  | _ => False

namespace Classes

/-- A name begins with a dot and goes on behind it. -/
def IsHeadless (name : String) : Prop :=
  ∃ rest, rest ≠ [] ∧ name.toList = '.' :: rest

/-- A name is empty or begins with a dot, so no module is imported by it. -/
def IsRelative (name : String) : Prop :=
  name = "" ∨ ∃ rest, name.toList = '.' :: rest

instance (name : String) : Decidable (IsRelative name) :=
  decidable_of_iff (name = "" ∨ name.toList.head? = some '.')
    (or_congr_right List.head?_eq_some_iff)

/-- The names of the attributes behind the first dot of a name. -/
def attributesIn (name : String) : List String :=
  let tail := (cutFirst '.' name).2
  if tail == "" then [] else Text.cutAt '.' tail

theorem cutFirst_of_dot {name : String} {rest : List Char} (h : name.toList = '.' :: rest) :
    cutFirst '.' name = ("", String.ofList rest) := by
  have hname : name = String.ofList ([] ++ '.' :: rest) :=
    String.toList_inj.1 (by rw [h, String.toList_ofList, List.nil_append])
  rw [hname, cutFirst_ofList (by simp)]

theorem isHeadless_iff {name : String} :
    IsHeadless name ↔ (∃ rest, name.toList = '.' :: rest) ∧ (cutFirst '.' name).2 ≠ "" := by
  have tail {rest : List Char} (h : name.toList = '.' :: rest) :
      (cutFirst '.' name).2 = "" ↔ rest = [] := by
    rw [cutFirst_of_dot h, ← String.toList_inj, String.toList_ofList]
    rfl
  constructor
  · rintro ⟨rest, hne, h⟩
    exact ⟨⟨rest, h⟩, mt (tail h).1 hne⟩
  · rintro ⟨⟨rest, h⟩, hne⟩
    exact ⟨rest, mt (tail h).2 hne, h⟩

theorem mem_of_cutFirst_ne {name : String} (h : (cutFirst '.' name).2 ≠ "") :
    '.' ∈ name.toList := by
  by_contra hnot
  exact h (congrArg Prod.snd (cutFirst_of_not_mem hnot))

/-- What stands before the last dot of a name is empty or begins with a dot exactly if the name
begins with one. -/
theorem cutLast_begins_iff {name : String} (h : '.' ∈ name.toList) :
    IsRelative (cutLast '.' name).1 ↔ ∃ rest, name.toList = '.' :: rest := by
  obtain ⟨as, bs, hbs, rfl⟩ := exists_last h
  rw [cutLast_ofList hbs]
  cases as with
  | nil => simp [IsRelative]
  | cons d as => simp [IsRelative, ← String.toList_inj]

namespace Universe

variable (u : Universe) (module : Option String) (name : String)

/-- What is read on the way to what a name stands for fails, though no attribute is missing. -/
inductive Raises (fault : Fault) : Prop
  | path {o : Object} : u.headObject? module (cutFirst '.' name).1 = some o →
      u.readPath o (attributesIn name) = .error fault →
      (∀ message, fault ≠ .other .attribute message) → Raises fault
  | package : u.headObject? module (cutFirst '.' name).1 = none → (cutFirst '.' name).2 ≠ "" →
      u.importModule (cutLast '.' name).1 = .error (.fault fault) → Raises fault
  | member : u.headObject? module (cutFirst '.' name).1 = none → (cutFirst '.' name).2 ≠ "" →
      u.importModule (cutLast '.' name).1 = .ok () →
      u.readModule (cutLast '.' name).1 (cutLast '.' name).2 = .error fault →
      (∀ message, fault ≠ .other .attribute message) → Raises fault

variable {u module name} {fault : Fault}

theorem presentOr_eq_error_iff {r : Except Fault Object} : presentOr name r = .error fault ↔
    (∃ message, r = .error (.other .attribute message) ∧
      fault = .notPresent (some name) (some (.other .attribute message))) ∨
    (r = .error fault ∧ ∀ message, fault ≠ .other .attribute message) := by
  unfold presentOr
  split
  · next message =>
    constructor
    · rintro ⟨⟩
      exact .inl ⟨message, rfl, rfl⟩
    · rintro (⟨_, ⟨⟩, rfl⟩ | ⟨⟨⟩, h⟩)
      · rfl
      · exact absurd rfl (h message)
  · next hr =>
    constructor
    · rintro rfl
      exact .inr ⟨rfl, fun message h => hr message (by rw [h])⟩
    · rintro (⟨message, h, -⟩ | ⟨h, -⟩)
      · exact absurd h (hr message)
      · exact h

theorem concerns_of_presentOr {r : Except Fault Object} (h : presentOr name r = .error fault) :
    fault.Concerns name ∨ (r = .error fault ∧ ∀ message, fault ≠ .other .attribute message) := by
  obtain ⟨message, -, rfl⟩ | h := presentOr_eq_error_iff.1 h
  · exact .inl rfl
  · exact .inr h

theorem startsWith_dot_iff : name.startsWith "." = true ↔ ∃ rest, name.toList = '.' :: rest := by
  rw [String.startsWith_string_iff]
  constructor
  · rintro ⟨rest, h⟩
    exact ⟨rest, h.symm⟩
  · rintro ⟨rest, h⟩
    exact ⟨rest, h.symm⟩

theorem importModule_of_named (h : ¬IsRelative name) :
    u.importModule name =
      match u.importProblem? (Text.cutAt '.' name).reverse with
      | .ok none => .ok ()
      | .ok (some why) => .error (.problem why)
      | .error why => .error (.fault why) := by
  have hempty : (name == "") = false := beq_eq_false_iff_ne.2 fun e => h (.inl e)
  have hdot : name.startsWith "." = false := by
    simpa using fun hs => h (.inr (startsWith_dot_iff.1 hs))
  rw [importModule, hempty, hdot]
  rfl

/-- Only a name that is not empty and does not begin with a dot is looked for. -/
theorem importModule_cases (u : Universe) (name : String) :
    (name = "" ∧ u.importModule name = .error .emptyName) ∨
    ((∃ rest, name.toList = '.' :: rest) ∧ u.importModule name = .error (.relative name)) ∨
    (¬IsRelative name ∧
      (u.importModule name = .ok () ∨ (∃ why, u.importModule name = .error (.problem why)) ∨
        ∃ why, u.importModule name = .error (.fault why))) := by
  by_cases hdot : ∃ rest, name.toList = '.' :: rest
  · exact .inr (.inl ⟨hdot, by rw [importModule, if_pos (startsWith_dot_iff.2 hdot)]⟩)
  by_cases hempty : name = ""
  · subst hempty
    exact .inl ⟨rfl, by rw [importModule, if_neg (mt startsWith_dot_iff.1 hdot)]; rfl⟩
  have hname := not_or.2 ⟨hempty, hdot⟩
  refine .inr (.inr ⟨hname, ?_⟩)
  rw [importModule_of_named hname]
  split
  · exact .inl rfl
  · exact .inr (.inl ⟨_, rfl⟩)
  · exact .inr (.inr ⟨_, rfl⟩)

theorem importDotted_of_error {e : ImportError}
    (h : u.importModule (cutLast '.' name).1 = .error e) :
    u.importDotted name = .error (importFault name ("Cannot load " ++ name) e) := by
  simp only [importDotted, h]

theorem importDotted_of_ok (h : u.importModule (cutLast '.' name).1 = .ok ()) :
    u.importDotted name =
      presentOr name (u.readModule (cutLast '.' name).1 (cutLast '.' name).2) := by
  simp only [importDotted, h]

section

variable (hnone : u.headObject? module (cutFirst '.' name).1 = none)

theorem resolveName_of_head {o : Object} (h : u.headObject? module (cutFirst '.' name).1 = some o) :
    u.resolveName module name = presentOr name (u.readPath o (attributesIn name)) := by
  simp only [resolveName, h, attributesIn]

include hnone

theorem resolveName_of_import (htail : (cutFirst '.' name).2 ≠ "") :
    u.resolveName module name = u.importDotted name := by
  simp only [resolveName, hnone, beq_eq_false_iff_ne.2 htail]
  rfl

theorem resolveName_of_nothing (htail : (cutFirst '.' name).2 = "") :
    u.resolveName module name = .error (.notPresent (some name) none) := by
  simp only [resolveName, hnone, htail]
  rfl

end

theorem Raises.resolveName_eq (h : u.Raises module name fault) :
    u.resolveName module name = .error fault := by
  obtain ⟨hsome, hread, hother⟩ | ⟨hnone, htail, himport⟩ |
    ⟨hnone, htail, himport, hread, hother⟩ := h
  · rw [resolveName_of_head hsome]
    exact presentOr_eq_error_iff.2 (.inr ⟨hread, hother⟩)
  · rw [resolveName_of_import hnone htail, importDotted_of_error himport]
    rfl
  · rw [resolveName_of_import hnone htail, importDotted_of_ok himport]
    exact presentOr_eq_error_iff.2 (.inr ⟨hread, hother⟩)

/-- A name that begins with a dot, where nothing has the empty name, is told to have none or not to
say what it is relative to. -/
theorem resolveName_of_isHeadless (h : IsHeadless name) (hnone : u.headObject? module "" = none) :
    ∃ kind message, u.resolveName module name = .error (.other kind message) := by
  obtain ⟨⟨rest, hrest⟩, htail⟩ := isHeadless_iff.1 h
  have hhead : u.headObject? module (cutFirst '.' name).1 = none := by
    rw [cutFirst_of_dot hrest]
    exact hnone
  rw [resolveName_of_import hhead htail]
  have hbegins := (cutLast_begins_iff (mem_of_cutFirst_ne htail)).2 ⟨rest, hrest⟩
  obtain ⟨-, himport⟩ | ⟨-, himport⟩ | ⟨hnot, -⟩ := u.importModule_cases (cutLast '.' name).1
  · exact ⟨_, _, importDotted_of_error himport⟩
  · exact ⟨_, _, importDotted_of_error himport⟩
  · exact absurd hbegins hnot

/-- What a name is not resolved for. -/
theorem resolveName_error (h : u.resolveName module name = .error fault) :
    fault.Concerns name ∨ u.Raises module name fault ∨
      (IsHeadless name ∧ u.headObject? module "" = none) := by
  cases hhead : u.headObject? module (cutFirst '.' name).1 with
  | some o =>
    rw [resolveName_of_head hhead] at h
    exact (concerns_of_presentOr h).imp_right fun ⟨hread, hother⟩ => .inl (.path hhead hread hother)
  | none =>
    obtain htail | htail := eq_or_ne (cutFirst '.' name).2 ""
    · rw [resolveName_of_nothing hhead htail] at h
      cases h
      exact .inl rfl
    · rw [resolveName_of_import hhead htail] at h
      have hbegins := cutLast_begins_iff (mem_of_cutFirst_ne htail)
      have headless (hb : ∃ rest, name.toList = '.' :: rest) :
          IsHeadless name ∧ u.headObject? module "" = none := by
        refine ⟨isHeadless_iff.2 ⟨hb, htail⟩, ?_⟩
        obtain ⟨rest, hrest⟩ := hb
        rw [cutFirst_of_dot hrest] at hhead
        exact hhead
      obtain ⟨hempty, -⟩ | ⟨hrelative, -⟩ | ⟨-, himport | ⟨why, himport⟩ | ⟨why, himport⟩⟩ :=
        u.importModule_cases (cutLast '.' name).1
      · exact .inr (.inr (headless (hbegins.1 (.inl hempty))))
      · exact .inr (.inr (headless (hbegins.1 (.inr hrelative))))
      · rw [importDotted_of_ok himport] at h
        exact (concerns_of_presentOr h).imp_right fun ⟨hread, hother⟩ =>
          .inl (.member hhead htail himport hread hother)
      · rw [importDotted_of_error himport] at h
        cases h
        exact .inl rfl
      · rw [importDotted_of_error himport] at h
        cases h
        exact .inr (.inl (.package hhead htail himport))

theorem resolveName_empty (h : u.resolveName module "" = .error fault) :
    fault = .notPresent (some "") none := by
  cases hhead : u.headObject? module (cutFirst '.' "").1 with
  | some o =>
    rw [resolveName_of_head hhead] at h
    cases h
  | none =>
    rw [resolveName_of_nothing hhead rfl] at h
    exact (Except.error.inj h).symm

end Universe

mutual

/-- What a value holds at any depth of lists. -/
def Object.leaves : Object → List Object
  | .list items => allLeaves items
  | .tuple items => allLeaves items
  | o => [o]

def Object.allLeaves : List Object → List Object
  | [] => []
  | o :: os => o.leaves ++ allLeaves os

end

namespace Universe

variable {u : Universe} {module : Option String} {fault : Fault}

mutual

/-- A value is not resolved for something that it holds. -/
theorem force_error : ∀ {o : Object}, u.force module o = .error fault →
    ∃ leaf ∈ o.leaves, u.force module leaf = .error fault
  | .list items, h => by
    rw [force] at h
    obtain h | ⟨_, -, h⟩ := bind_eq_error_iff.1 h
    · exact forceList_error h
    · cases h
  | .tuple items, h => by
    rw [force] at h
    obtain h | ⟨_, -, h⟩ := bind_eq_error_iff.1 h
    · exact forceList_error h
    · cases h
  | .null, h | .bool _, h | .int _, h | .double _, h | .str _, h | .mapping _, h | .record _ _, h
  | .cls _, h | .forward _ _ _, h | .typeVar _, h | .anything, h | .rest, h | .bare _, h
  | .literal _, h | .wrapped _ _, h | .annotated _ _, h | .union _, h | .either _, h
  | .applied _ _ _, h | .parameters _, h | .slice _ _ _, h | .feature _ _ _, h | .thing _, h =>
    ⟨_, List.mem_singleton_self _, h⟩

theorem forceList_error : ∀ {os : List Object}, u.forceList module os = .error fault →
    ∃ leaf ∈ Object.allLeaves os, u.force module leaf = .error fault
  | [], h => nomatch h
  | o :: os, h => by
    rw [forceList] at h
    obtain h | ⟨_, -, h⟩ := bind_eq_error_iff.1 h
    · obtain ⟨leaf, hleaf, hf⟩ := force_error h
      exact ⟨leaf, List.mem_append_left _ hleaf, hf⟩
    · obtain h | ⟨_, -, h⟩ := bind_eq_error_iff.1 h
      · obtain ⟨leaf, hleaf, hf⟩ := forceList_error h
        exact ⟨leaf, List.mem_append_right _ hleaf, hf⟩
      · cases h

end

end Universe

namespace Inspector

theorem invoke_of_read {i : Inspector} {o value : Object} {accessor : String}
    (h : i.world.read o accessor = .ok value) :
    i.invoke o accessor = i.world.force (i.world.moduleOf (i.world.classOf o)) value := by
  rw [invoke, h]
  rfl

end Inspector

end Classes

namespace Walker

open Walk

variable {σ δ α ν : Type} [DecidableEq δ] {p : Provider σ δ α ν}

/-- A walk that first fails with a fault about a name ends with a failed resolution of the name. -/
theorem load_of_concerns (named : ∀ d m, ∃ name m', p.naming d m = .ok name m') {w : Walker δ}
    {depth : Nat} {m : σ} {root : δ} {name : String} {fault : Fault} (hc : fault.Concerns name)
    (hname : ∀ message, fault = .linkage message (some name) → name ≠ "")
    (h : (w.loadUnguarded p depth m root).outcome = .error fault) :
    (w.load p depth m (.concrete root)).outcome =
      .error (.unresolved (some name) (some fault)) := by
  obtain ⟨hok, -⟩ | ⟨fault', s, hr, hopen, hraised, hl⟩ := load_unwinds named w depth m root
  · cases h.symm.trans hok
  · have hfault : fault' = fault :=
      Except.error.inj ((congrArg WalkReport.outcome hr).symm.trans h)
    subst hfault
    have houtcome := congrArg WalkReport.outcome hl
    rw [← hopen] at houtcome
    obtain ⟨why, rfl⟩ | rfl | ⟨d, outer, hd, -⟩ := hraised
    · cases hc
    · cases hc
    · rw [hd] at houtcome
      cases fault' with
      | linkage message typeName =>
        cases hc
        obtain ⟨blamed, hblames, hleft, -⟩ :=
          unwind_linkage named d outer message (some name) s
        have hblamed : blamed = name := by
          obtain ⟨heq, -⟩ | ⟨hnone | hempty, -⟩ := hblames
          · exact (Option.some.inj heq).symm
          · cases hnone
          · exact absurd (Option.some.inj hempty) (hname message rfl)
        rw [hblamed] at hleft
        exact houtcome.trans (congrArg Except.error hleft)
      | notPresent typeName cause =>
        cases hc
        have hleft := (unwind_notPresent (p := p) d outer (some name) cause s).1
        exact houtcome.trans (congrArg Except.error hleft)
      | _ => cases hc

end Walker

namespace Classes

namespace Inspector

/-- If an attribute of an annotation is not read for a text in its value, the text has a lazy name
that is not resolved; and if the fault is about that name, then each walk that it stops ends with a
failed resolution of the name. -/
theorem exists_lazyName_of_stops {i : Inspector} {module : Option String} {s : String}
    {fault : Fault} (h : i.world.force module (.str s) = .error fault) :
    ∃ name, lazyName? s = some name ∧ i.world.resolveName module name = .error fault ∧
      (fault.Concerns name → ∀ (w : Walker Descriptor) (depth : Nat) (memory : Settled)
        (root : Descriptor),
        (w.loadUnguarded i.provider depth memory root).outcome = .error fault →
        (w.load i.provider depth memory (.concrete root)).outcome =
          .error (.unresolved (some name) (some fault))) := by
  rw [Universe.force] at h
  cases hname : lazyName? s with
  | none =>
    rw [hname] at h
    cases h
  | some name =>
    rw [hname] at h
    refine ⟨name, rfl, h, fun hc w depth memory root hstop => ?_⟩
    have named : ∀ d m, ∃ name m', i.provider.naming d m = .ok name m' := fun d m =>
      ⟨i.typeName d, m, rfl⟩
    refine Walker.load_of_concerns named hc (fun message hl => ?_) hstop
    rintro rfl
    cases hl.symm.trans (Universe.resolveName_empty h)

end Inspector

namespace Universe

/-- To resolve a name fails only for that the type is not there or cannot be loaded, exactly if the
name does not begin with a dot where nothing has the empty name, and nothing else comes up when
attributes are read on the way. If the value of an attribute of an annotation is not resolved for a
text in it, the fault is that of a lazy name in the text; and if that is about the name, each walk
that it stops ends with a failed resolution of the name. -/
theorem resolveName_concerns_iff (i : Inspector) (module : Option String) (name : String) :
    ((∀ fault, i.world.resolveName module name = .error fault → fault.Concerns name) ↔
      (IsHeadless name → i.world.headObject? module "" ≠ none) ∧
        ∀ fault, i.world.Raises module name fault → fault.Concerns name) ∧
    ∀ (o value : Object) (accessor : String) (fault : Fault),
      i.world.read o accessor = .ok value → i.invoke o accessor = .error fault →
      let home := i.world.moduleOf (i.world.classOf o)
      ∃ leaf ∈ value.leaves, i.world.force home leaf = .error fault ∧
        ∀ s, leaf = .str s → ∃ name, lazyName? s = some name ∧
          i.world.resolveName home name = .error fault ∧
          (fault.Concerns name → ∀ (w : Walker Descriptor) (depth : Nat) (memory : Settled)
            (root : Descriptor),
            (w.loadUnguarded i.provider depth memory root).outcome = .error fault →
            (w.load i.provider depth memory (.concrete root)).outcome =
              .error (.unresolved (some name) (some fault))) := by
  constructor
  · constructor
    · intro h
      refine ⟨fun hheadless hnone => ?_, fun fault hraises => h fault hraises.resolveName_eq⟩
      obtain ⟨kind, message, hother⟩ := resolveName_of_isHeadless hheadless hnone
      exact h _ hother
    · rintro ⟨hhead, hraises⟩ fault h
      obtain hc | hr | ⟨hheadless, hnone⟩ := resolveName_error h
      · exact hc
      · exact hraises fault hr
      · exact absurd hnone (hhead hheadless)
  · intro o value accessor fault hread hinvoke home
    rw [Inspector.invoke_of_read hread] at hinvoke
    obtain ⟨leaf, hleaf, hforce⟩ := force_error hinvoke
    refine ⟨leaf, hleaf, hforce, ?_⟩
    rintro s rfl
    exact Inspector.exists_lazyName_of_stops hforce

/-! ### Annotations with a text -/

/-- An annotation whose attribute `kind` is a text. -/
def mark (text : String) : Object :=
  .record (.declared 0) [("kind", .str text)]

/-- A class `C` with such an annotation, in a module in which `part` is one, too. -/
def marked (text : String) : Universe where
  modules := .ofEntries [("m", {
    attributes := .ofEntries [("__metadata__", .tuple []), ("part", mark "")] })]
  classes := [
    { module := some "m", qualname := "Mark", order := [.declared 0]
      recordFields := some (.ofEntries
        [("kind", { hint := .ofBuiltin "str", isClassWide := false, standard := none })]) },
    { module := some "m", qualname := "C", order := [.declared 1]
      attributes := .ofEntries [("__metadata__", .value (.tuple [mark text]))] }]

/-- The text that a value is. -/
def text? : Object → Option String
  | .str s => some s
  | _ => none

theorem text?_eq_some {o : Object} {s : String} (h : text? o = some s) : o = .str s := by
  cases o with
  | str t => exact congrArg Object.str (Option.some.inj h)
  | _ => cases h

theorem read_eq_of_map {α : Type} {u : Universe} {o value : Object} {name : String}
    {f : Object → Option α} {a : α} (hf : ∀ {v}, f v = some a → v = value)
    (h : (u.read o name).map f = .ok (some a)) : u.read o name = .ok value := by
  cases hr : u.read o name with
  | error fault =>
    rw [hr] at h
    cases h
  | ok v =>
    rw [hr] at h
    exact congrArg Except.ok (hf (Except.ok.inj h))

/-- The walk of `C` is stopped by the attribute of its annotation, since `part` has no attribute
`gone`. -/
theorem resolveName_concerns_gone :
    let i : Inspector := ⟨marked "type:part.gone", []⟩
    let missing := Fault.other .attribute "'Mark' object has no attribute 'gone'"
    let fault := Fault.notPresent (some "part.gone") (some missing)
    i.world.read (mark "type:part.gone") "kind" = .ok (.str "type:part.gone") ∧
    i.invoke (mark "type:part.gone") "kind" = .error fault ∧
    (({} : Walker Descriptor).load i.provider 5 [] (.concrete (.cls (.declared 1)))).outcome =
      .error (.unresolved (some "part.gone") (some fault)) := by
  intro i missing fault
  have hread : i.world.read (mark "type:part.gone") "kind" = .ok (.str "type:part.gone") :=
    read_eq_of_map text?_eq_some (by decide +kernel)
  have hinvoke : i.invoke (mark "type:part.gone") "kind" = .error fault := by
    have hfails : (i.invoke (mark "type:part.gone") "kind").map (fun _ => ()) = .error fault := by
      decide +kernel
    cases h : i.invoke (mark "type:part.gone") "kind" with
    | error other =>
      rw [h] at hfails
      exact congrArg Except.error (Except.error.inj hfails)
    | ok v =>
      rw [h] at hfails
      cases hfails
  have hstop : (({} : Walker Descriptor).loadUnguarded i.provider 5 []
      (.cls (.declared 1))).outcome = .error fault := by decide +kernel
  obtain ⟨-, hfaults⟩ := resolveName_concerns_iff i (some "m") "part.gone"
  obtain ⟨leaf, hleaf, -, hname⟩ := hfaults (mark "type:part.gone") _ "kind" fault hread hinvoke
  obtain rfl := List.mem_singleton.1 hleaf
  obtain ⟨name, hlazy, -, hwalk⟩ := hname _ rfl
  have hgone : lazyName? "type:part.gone" = some "part.gone" := by decide +kernel
  obtain rfl := Option.some.inj (hlazy.symm.trans hgone)
  exact ⟨hread, hinvoke, hwalk rfl {} 5 [] (.cls (.declared 1)) hstop⟩

/-- What a module has beside its names has a name that begins with an underscore, and it has no
path. -/
theorem held?_module_eq_none {name : String} (h : name.toList.head? ≠ some '_' ∨ name = "__path__")
    {className : String} (hc : className = "module" ∨ className = "object") :
    Standard.held? "builtins" className name = none := by
  have hall : ∀ c ∈ ["module", "object"], (Standard.contents "builtins" c).all
      (fun e => e.1.toList.head? == some '_' && e.1 != "__path__") = true := by decide +kernel
  have hmem : className ∈ ["module", "object"] := by simpa using hc
  rw [Standard.held?, List.lookup_eq_none_iff]
  intro e he
  obtain ⟨hhead, hpath⟩ := Bool.and_eq_true_iff.1 (List.all_eq_true.1 (hall className hmem) e he)
  refine bne_iff_ne.2 fun heq => ?_
  obtain h | rfl := h
  · exact h (heq ▸ beq_iff_eq.1 hhead)
  · exact bne_iff_ne.1 hpath heq.symm

/-- To read a name that a module lacks fails for that. -/
theorem readModule_of_missing {u : Universe} {m name : String}
    (h : name.toList.head? ≠ some '_' ∨ name = "__path__")
    (hname : u.moduleAttribute? m name = none)
    (hgetattr : u.moduleAttribute? m "__getattr__" = none) :
    ∃ message, u.readModule m name = .error (.other .attribute message) := by
  have horder : u.order (.builtin "module") = [.builtin "module", .builtin "object"] := by
    change Standard.order "builtins" "module" = _
    rfl
  have hfound : u.found? (.builtin "module") name = none := by
    have own {c : String} (hc : c = "module" ∨ c = "object") :
        u.ownContent? (.builtin c) name = none := by
      simp only [ClassId.builtin, ownContent?, held?_module_eq_none h hc]
      obtain rfl | rfl := hc <;> rfl
    simp only [found?, horder, List.findSome?, own (.inl rfl), own (.inr rfl), Option.map_none]
  simp only [readModule, hname, hfound, hgetattr]
  split
  · next ho => cases ho
  · exact ⟨_, rfl⟩
  · exact ⟨_, rfl⟩

/-- A name that neither a module nor the built-in ones have stands for nothing. -/
theorem headObject?_eq_none {u : Universe} {m name : String} (h : name.toList.head? ≠ some '_')
    (hm : u.moduleAttribute? m name = none) (hb : u.moduleAttribute? "builtins" name = none)
    (hg : u.moduleAttribute? "builtins" "__getattr__" = none) :
    u.headObject? (some m) name = none := by
  obtain ⟨message, hread⟩ := readModule_of_missing (.inl h) hb hg
  rw [headObject?, Option.bind_some, hm, hread]
  rfl

/-- A name that begins with its only dot is told to have no module, and the fault does not name it.
No type is said to be missing where it is read. -/
theorem resolveName_not_concerns_headless :
    let i : Inspector := ⟨marked "type:.x", []⟩
    let fault := Fault.other .value "Empty module name"
    i.world.resolveName (some "m") ".x" = .error fault ∧
    i.invoke (mark "type:.x") "kind" = .error fault ∧
    ¬∀ fault, i.world.resolveName (some "m") ".x" = .error fault → fault.Concerns ".x" := by
  intro i fault
  have hnone : i.world.headObject? (some "m") (cutFirst '.' ".x").1 = none := by
    have hcut : (cutFirst '.' ".x").1 = "" := by decide +kernel
    rw [hcut]
    exact headObject?_eq_none (by decide) (Option.isNone_iff_eq_none.1 (by decide +kernel))
      (Option.isNone_iff_eq_none.1 (by decide +kernel))
      (Option.isNone_iff_eq_none.1 (by decide +kernel))
  have himport : i.world.importModule (cutLast '.' ".x").1 = .error .emptyName := by
    have hcut : (cutLast '.' ".x").1 = "" := by decide +kernel
    rw [hcut]
    obtain ⟨-, h⟩ | ⟨⟨rest, h⟩, -⟩ | ⟨hnot, -⟩ := i.world.importModule_cases ""
    · exact h
    · cases h
    · exact absurd (.inl rfl) hnot
  have hresolve : i.world.resolveName (some "m") ".x" = .error fault := by
    rw [resolveName_of_import hnone (by decide +kernel), importDotted_of_error himport]
    rfl
  have hinvoke : i.invoke (mark "type:.x") "kind" = .error fault := by
    have hread : i.world.read (mark "type:.x") "kind" = .ok (.str "type:.x") :=
      read_eq_of_map text?_eq_some (by decide +kernel)
    have hlazy : lazyName? "type:.x" = some ".x" := by decide +kernel
    have hmodule : i.world.moduleOf (i.world.classOf (mark "type:.x")) = some "m" := by
      decide +kernel
    rw [Inspector.invoke_of_read hread, hmodule, force, hlazy]
    exact hresolve
  exact ⟨hresolve, hinvoke, fun h => h fault hresolve⟩

end Universe

end Classes

end TypeReach
