import TypeReach.Classes.Declaration
import TypeReach.Proofs.LazyNames

/-!
# Names of nested classes

A class inside others is reached from its module by reading their names one after the other, which
is what the name of a root with a colon says. A lazy name has only dots. If its first part stands
for nothing, all but its last part is taken for a module, so the class is found for such a name only
if the classes around it make up the name of a module that has it, too.
-/

namespace TypeReach

namespace Classes

/-- A name in a module with a dot before each part. -/
def dotted (module : String) (names : List String) : String :=
  ".".intercalate (module :: names)

theorem dotted_snoc (module last : String) (names : List String) :
    dotted module (names ++ [last]) = dotted module names ++ String.singleton '.' ++ last := by
  rw [dotted, ← List.cons_append, String.intercalate_append_of_ne_nil (by simp) (by simp),
    String.intercalate_singleton]
  rfl

/-- A name in a module begins like the module's. -/
theorem not_isRelative_dotted {module : String} (names : List String)
    (h : ¬IsRelative module) : ¬IsRelative (dotted module names) := by
  obtain ⟨d, rest, hd⟩ := List.exists_cons_of_ne_nil
    (mt String.toList_eq_nil_iff.1 (not_or.1 h).1)
  have hbegins : ∃ tail, (dotted module names).toList = d :: tail := by
    cases names with
    | nil => exact ⟨rest, by rw [dotted, String.intercalate_singleton, hd]⟩
    | cons name names =>
      rw [dotted, String.intercalate_cons_of_ne_nil (List.cons_ne_nil _ _), String.toList_append,
        String.toList_append, hd]
      exact ⟨_, rfl⟩
  obtain ⟨tail, htail⟩ := hbegins
  rw [IsRelative, ← String.toList_inj, htail]
  rintro (he | ⟨rest', he⟩)
  · cases he
  · cases he
    exact h (.inr ⟨rest, hd⟩)

/-- The name of a class by itself, which has no dots. -/
def IsPlainName (name : String) : Prop :=
  name ≠ "" ∧ '.' ∉ name.toList

instance (name : String) : Decidable (IsPlainName name) :=
  inferInstanceAs (Decidable (_ ∧ _))

theorem cutLast_dotted {module last : String} (names : List String) (h : IsPlainName last) :
    cutLast '.' (dotted module (names ++ [last])) = (dotted module names, last) := by
  rw [dotted_snoc]
  exact cutLast_append h.2

theorem cutAt_of_plain {names : List String} (h : ∀ name ∈ names, IsPlainName name)
    (hne : names ≠ []) : Text.cutAt '.' (".".intercalate names) = names :=
  Text.cutAt_intercalate (fun name hn => (h name hn).2) hne

theorem intercalate_ne_empty {names : List String} (h : ∀ name ∈ names, IsPlainName name)
    (hne : names ≠ []) : ".".intercalate names ≠ "" := by
  intro he
  have hcut := cutAt_of_plain h hne
  rw [he] at hcut
  have hmem : "" ∈ names := hcut ▸ List.mem_singleton_self ""
  exact (h "" hmem).1 rfl

namespace Universe

variable {u : Universe} {p name : String} {names : List String} {c d : ClassId}

/-! ### Modules that are there -/

theorem importProblem?_eq_none_iff {parts : List String} (hne : parts ≠ []) :
    u.importProblem? parts = .ok none ↔ u.hasModule (".".intercalate parts.reverse) = true := by
  cases parts with
  | nil => exact absurd rfl hne
  | cons part parents =>
    rw [importProblem?]
    split
    · next hthere => exact iff_of_true rfl hthere
    · next hgone =>
      refine iff_of_false (fun h => ?_) hgone
      split at h
      · cases h
      · -- a module before the last dot, or the one that would hold this one, is to blame
        obtain ⟨why, -, h⟩ := exists_of_bind_eq_ok h
        cases why with
        | some why => cases h
        | none =>
          obtain ⟨why, -, h⟩ := exists_of_bind_eq_ok h
          cases h

/-- A module that is not there is looked for in the one before its last dot, and not found if that
holds no modules. -/
theorem importProblem?_of_noPackage {part parent : String} {parents : List String}
    (hgone : u.hasModule (".".intercalate (part :: parent :: parents).reverse) = false)
    (hthere : u.importProblem? (parent :: parents) = .ok none)
    (hpath : u.packagePath? (".".intercalate (parent :: parents).reverse) = .ok none) :
    u.importProblem? (part :: parent :: parents) =
      .ok (some (.noPackage (".".intercalate (part :: parent :: parents).reverse)
        (".".intercalate (parent :: parents).reverse))) := by
  rw [importProblem?, if_neg (by rw [hgone]; exact Bool.false_ne_true), hthere]
  have hproblem : ∀ name, u.problemIn name (".".intercalate (parent :: parents).reverse) =
      .ok (.noPackage name (".".intercalate (parent :: parents).reverse)) := fun name => by
    rw [problemIn, hpath]
    rfl
  exact congrArg (· >>= fun why => pure (some why)) (hproblem _)

/-- A module is imported exactly if it is there, unless its name is empty or begins with a dot. -/
theorem importModule_eq_ok_iff : u.importModule name = .ok () ↔
    ¬IsRelative name ∧ u.hasModule name = true := by
  have hparts : (Text.cutAt '.' name).reverse ≠ [] := by
    simpa using Text.cutAt_ne_nil '.' name
  have hjoin : ".".intercalate (Text.cutAt '.' name) = name := Text.intercalate_cutAt '.' name
  have hthere := importProblem?_eq_none_iff (u := u) hparts
  rw [List.reverse_reverse, hjoin] at hthere
  obtain ⟨hempty, h⟩ | ⟨hdot, h⟩ | ⟨hname, -⟩ := u.importModule_cases name
  · exact iff_of_false (by rw [h]; nofun) fun hn => hn.1 (.inl hempty)
  · exact iff_of_false (by rw [h]; nofun) fun hn => hn.1 (.inr hdot)
  · rw [importModule_of_named hname, ← hthere, and_iff_right hname]
    split
    · next h => exact iff_of_true rfl h
    · next h => exact iff_of_false nofun (by rw [h]; nofun)
    · next h => exact iff_of_false nofun (by rw [h]; nofun)

/-! ### Chains of classes -/

/-- Reading the names one after the other, the first in a module, leads to a class by way of
classes. -/
inductive IsNested (u : Universe) (p : String) : List String → ClassId → Prop
  | top {name : String} {c : ClassId} : u.readModule p name = .ok c.object → IsNested u p [name] c
  | within {names : List String} {name : String} {c d : ClassId} : IsNested u p names c →
      u.read c.object name = .ok d.object → IsNested u p (names ++ [name]) d

theorem IsNested.exists_path (h : u.IsNested p names c) : ∃ head parts, names = head :: parts ∧
    (u.readModule p head >>= fun o => u.readPath o parts) = .ok c.object := by
  induction h with
  | top hread => exact ⟨_, [], rfl, by rw [hread]; rfl⟩
  | @within names name c d _ hread ih =>
    obtain ⟨head, parts, rfl, hpath⟩ := ih
    refine ⟨head, parts ++ [name], rfl, ?_⟩
    obtain ⟨o, hhead, hparts⟩ := exists_of_bind_eq_ok hpath
    have hlast : u.readPath o (parts ++ [name]) = .ok d.object := by
      rw [readPath, List.foldlM_append, ← readPath, hparts]
      change u.read c.object name >>= pure = _
      rw [hread]
      rfl
    rw [hhead]
    exact hlast

theorem IsNested.last (h : u.IsNested p [name] c) : u.readModule p name = .ok c.object := by
  obtain ⟨head, parts, hnames, hpath⟩ := h.exists_path
  cases hnames
  obtain ⟨o, hhead, hparts⟩ := exists_of_bind_eq_ok hpath
  exact hhead.trans hparts

/-- The class at the end of a chain is the root that is named with a colon after the module. -/
theorem IsNested.resolveRoot_eq (h : u.IsNested p names c) (hp : ':' ∉ p.toList)
    (hnames : ∀ name ∈ names, IsPlainName name) (himport : u.importModule p = .ok ()) :
    u.resolveRoot (p ++ ":" ++ ".".intercalate names) = .ok c := by
  obtain ⟨head, parts, rfl, hpath⟩ := h.exists_path
  have hcut := cutAt_of_plain hnames (List.cons_ne_nil _ _)
  have hempty := intercalate_ne_empty hnames (List.cons_ne_nil _ _)
  have hparts : rootParts (p ++ ":" ++ ".".intercalate (head :: parts)) =
      (p, ".".intercalate (head :: parts)) := by
    have hcolon : (p ++ ":" ++ ".".intercalate (head :: parts)).contains ':' = true := by
      simp
    rw [rootParts, if_pos hcolon]
    exact cutFirst_append hp
  have hp' : (p == "") = false :=
    beq_eq_false_iff_ne.2 fun he => (importModule_eq_ok_iff.1 himport).1 (.inl he)
  have hq' : (".".intercalate (head :: parts) == "") = false := beq_eq_false_iff_ne.2 hempty
  rw [resolveRoot, hparts]
  simp only [hp', hq', himport, hcut, hpath]
  by_cases hany : c = .standard "typing" "Any"
  · rw [hany]
    rfl
  · rw [ClassId.object, if_neg (mt beq_iff_eq.1 hany)]
    rfl

/-! ### Lazy names -/

theorem lazyName?_of_mark (s : String) : lazyName? (lazyMark ++ s) = some (Text.strip s) := by
  have hmark : lazyMark.isPrefixOf (lazyMark ++ s) = true := by
    rw [String.isPrefixOf, String.startsWith_string_iff, String.toList_append]
    exact List.prefix_append _ _
  have hdrop : (lazyMark ++ s).toList.drop lazyMark.length = s.toList := by
    rw [String.toList_append, ← String.length_toList, List.drop_left]
  rw [lazyName?, if_pos hmark, hdrop, String.ofList_toList]

theorem presentOr_eq_ok_iff {r : Except Fault Object} {o : Object} :
    presentOr name r = .ok o ↔ r = .ok o := by
  unfold presentOr
  split
  · exact iff_of_false nofun nofun
  · rfl

/-- A lazy name whose first part stands for nothing is that of a module before its last dot. -/
theorem force_dotted {module : Option String} (hnames : ∀ name ∈ names, IsPlainName name)
    (hne : names ≠ []) (hstrip : Text.strip (dotted p names) = dotted p names)
    (hnone : u.headObject? module (cutFirst '.' p).1 = none) :
    u.force module (.str (lazyMark ++ dotted p names)) = u.importDotted (dotted p names) := by
  have hdotted : dotted p names = p ++ String.singleton '.' ++ ".".intercalate names :=
    String.intercalate_cons_of_ne_nil hne
  obtain ⟨hhead, htail⟩ := cutFirst_append_fst (c := '.') (s := p) (intercalate_ne_empty hnames hne)
  rw [← hdotted] at hhead htail
  rw [force, lazyName?_of_mark, hstrip]
  exact resolveName_of_import (hhead ▸ hnone) htail

/-- A class that is reached from a module by the names of the classes around it and its own is the
root with a colon after the module. The lazy name with dots alone stands for it exactly if what
comes before its last dot is a module, too, and has the class under the last part of the name. So
it does if no class is around it. If there is no such module, the name is said not to be loaded,
unless looking for modules in a package fails. -/
theorem force_nested_iff {module : Option String} {inner : List String} {last : String}
    (hp : ':' ∉ p.toList) (hnames : ∀ name ∈ inner ++ [last], IsPlainName name)
    (hstrip : Text.strip (dotted p (inner ++ [last])) = dotted p (inner ++ [last]))
    (himport : u.importModule p = .ok ()) (hnested : u.IsNested p (inner ++ [last]) c)
    (hnone : u.headObject? module (cutFirst '.' p).1 = none) :
    let outer := dotted p inner
    let full := dotted p (inner ++ [last])
    let forced := u.force module (.str (lazyMark ++ full))
    u.resolveRoot (p ++ ":" ++ ".".intercalate (inner ++ [last])) = .ok c ∧
    (forced = .ok c.object ↔
      u.hasModule outer = true ∧ u.readModule outer last = .ok c.object) ∧
    (inner = [] → forced = .ok c.object) ∧
    (u.hasModule outer = false →
      (∃ why : ImportProblem, forced =
        .error (.linkage ("Cannot load " ++ full ++ ": " ++ why.message) (some full))) ∨
      ∃ why, u.importModule outer = .error (.fault why) ∧ forced = .error why) := by
  intro outer full forced
  have hforced : forced = u.importDotted full := force_dotted hnames (by simp) hstrip hnone
  have hlast : IsPlainName last := hnames last (by simp)
  have hcut : cutLast '.' full = (outer, last) := cutLast_dotted inner hlast
  have houter := not_isRelative_dotted inner (importModule_eq_ok_iff.1 himport).1
  have hthere : u.importModule outer = .ok () ↔ u.hasModule outer = true :=
    importModule_eq_ok_iff.trans (and_iff_right houter)
  have of_error {e : ImportError} (h : u.importModule outer = .error e) :
      forced = .error (importFault full ("Cannot load " ++ full) e) := by
    rw [hforced, importDotted_of_error (by rw [hcut]; exact h)]
  have agree : forced = .ok c.object ↔
      u.hasModule outer = true ∧ u.readModule outer last = .ok c.object := by
    rw [← hthere]
    cases h : u.importModule outer with
    | error e =>
      rw [of_error h]
      exact iff_of_false nofun fun hn => nomatch hn.1
    | ok _ =>
      rw [hforced, importDotted_of_ok (by rw [hcut]; exact h), hcut, presentOr_eq_ok_iff]
      exact (and_iff_right rfl).symm
  refine ⟨hnested.resolveRoot_eq hp hnames himport, agree, ?_, fun hgone => ?_⟩
  · rintro rfl
    exact agree.2 ⟨(importModule_eq_ok_iff.1 himport).2, hnested.last⟩
  · obtain ⟨hempty, -⟩ | ⟨hdot, -⟩ | ⟨-, h | ⟨why, h⟩ | ⟨why, h⟩⟩ := u.importModule_cases outer
    · exact absurd (.inl hempty) houter
    · exact absurd (.inr hdot) houter
    · rw [hthere.1 h] at hgone
      cases hgone
    · exact .inl ⟨why, of_error h⟩
    · exact .inr ⟨why, h, of_error h⟩

/-! ### A class in a class -/

/-- A module `p` with a class `A` that holds a class `B`, and a module `m` without names. -/
def surrounding : Universe where
  modules := .ofEntries [
    ("p", { attributes := .ofEntries [("A", .cls (.declared 0))] }),
    ("m", {})]
  classes := [
    { module := some "p", qualname := "A", order := [.declared 0]
      attributes := .ofEntries [("B", .value (.cls (.declared 1)))] },
    { module := some "p", qualname := "A.B", order := [.declared 1] }]

theorem eq_cls_of_declared {o : Object} {index : Nat}
    (h : classOfBase? o = some (.declared index)) : o = .cls (.declared index) := by
  cases o with
  | cls c => exact congrArg Object.cls (Option.some.inj h)
  | _ => cases h

theorem isNested_surrounding :
    surrounding.IsNested "p" ["A"] (.declared 0) ∧
      surrounding.IsNested "p" ["A", "B"] (.declared 1) := by
  have houter : surrounding.IsNested "p" ["A"] (.declared 0) := .top rfl
  have hread : surrounding.read (.cls (.declared 0)) "B" = .ok (.cls (.declared 1)) :=
    read_eq_of_map eq_cls_of_declared (by decide +kernel)
  exact ⟨houter, houter.within hread⟩

theorem importModule_surrounding : surrounding.importModule "p" = .ok () :=
  importModule_eq_ok_iff.2 ⟨by decide, by rfl⟩

theorem headObject?_surrounding :
    surrounding.headObject? (some "m") (cutFirst '.' "p").1 = none := by
  have hcut : (cutFirst '.' "p").1 = "p" := by rfl
  rw [hcut]
  exact headObject?_eq_none (by decide) (Option.isNone_iff_eq_none.1 (by rfl))
    (Option.isNone_iff_eq_none.1 (by rfl))
    (Option.isNone_iff_eq_none.1 (by rfl))

/-- The class `A` is the same by either name. -/
theorem force_nested_outermost :
    surrounding.resolveRoot "p:A" = .ok (.declared 0) ∧
      surrounding.force (some "m") (.str "type:p.A") = .ok (.cls (.declared 0)) := by
  have hnested : surrounding.IsNested "p" ([] ++ ["A"]) (.declared 0) := isNested_surrounding.1
  obtain ⟨hroot, -, hsame, -⟩ := force_nested_iff (by decide +kernel) (by decide +kernel)
    (by decide +kernel) importModule_surrounding hnested headObject?_surrounding
  exact ⟨hroot, hsame rfl⟩

/-- The class `B` is found by the name of a root, but not by its lazy name, for `p.A` is no
module. -/
theorem force_not_nested_inner :
    let fault := Fault.linkage "Cannot load p.A.B: No module named 'p.A'; 'p' is not a package"
      (some "p.A.B")
    surrounding.importModule "p" = .ok () ∧
    surrounding.IsNested "p" ["A", "B"] (.declared 1) ∧
    surrounding.headObject? (some "m") (cutFirst '.' "p").1 = none ∧
    surrounding.resolveRoot "p:A.B" = .ok (.declared 1) ∧
    surrounding.force (some "m") (.str "type:p.A.B") = .error fault ∧
    surrounding.force (some "m") (.str "type:p.A.B") ≠ .ok (.cls (.declared 1)) := by
  intro fault
  have himport : surrounding.importModule "p.A" = .error (.problem (.noPackage "p.A" "p")) := by
    obtain ⟨message, hread⟩ := readModule_of_missing (u := surrounding) (m := "p") (.inr rfl)
      (Option.isNone_iff_eq_none.1 (by decide +kernel))
      (Option.isNone_iff_eq_none.1 (by decide +kernel))
    have hpath : surrounding.packagePath? "p" = .ok none := by
      have hown :
          (!surrounding.modules.contains "p" && Standard.packages.contains "p") = false := by
        decide +kernel
      rw [packagePath?, hown, hread]
      rfl
    have hproblem : surrounding.importProblem? ["A", "p"] = .ok (some (.noPackage "p.A" "p")) := by
      have hgone : surrounding.hasModule (".".intercalate ["A", "p"].reverse) = false := by
        decide +kernel
      have hparent : surrounding.importProblem? ["p"] = .ok none :=
        (importProblem?_eq_none_iff (by simp)).2 (by decide +kernel)
      exact importProblem?_of_noPackage hgone hparent hpath
    have hname : ¬IsRelative "p.A" := by decide +kernel
    have hparts : (Text.cutAt '.' "p.A").reverse = ["A", "p"] := by decide +kernel
    rw [importModule_of_named hname, hparts, hproblem]
  have hnames : ∀ name ∈ ["A", "B"], IsPlainName name := by decide +kernel
  have hforce : surrounding.force (some "m") (.str "type:p.A.B") =
      surrounding.importDotted "p.A.B" :=
    force_dotted (p := "p") hnames (by simp) (by decide +kernel) headObject?_surrounding
  have hfault : surrounding.force (some "m") (.str "type:p.A.B") = .error fault := by
    have hcut : cutLast '.' "p.A.B" = ("p.A", "B") := by decide +kernel
    rw [hforce, importDotted_of_error (by rw [hcut]; exact himport)]
    rfl
  have hroot : surrounding.resolveRoot "p:A.B" = .ok (.declared 1) :=
    isNested_surrounding.2.resolveRoot_eq (by decide +kernel) hnames importModule_surrounding
  refine ⟨importModule_surrounding, isNested_surrounding.2, headObject?_surrounding, hroot, hfault,
    fun hsame => ?_⟩
  cases hfault.symm.trans hsame

end Universe

end Classes

end TypeReach
