import Mathlib.Logic.Relation
import TypeReach.Classes.Signature
import TypeReach.Proofs.Loading

/-!
# Classes that hints mention

A hint leads to its parts: what it is put together from, what a name in it stands for, and the
bounds of its type variables. It mentions the classes of all the hints that it leads to. The
reference of a hint, as long as it has one, holds just these. Names and bounds may lead in a circle;
inside its own bounds a type variable is left out, which loses no class.
-/

namespace TypeReach

/-- A way from `x` can be cut so that it does not come back to `x`. -/
theorem reflTransGen_avoids_start {β : Type} {r : β → β → Prop} {x y : β}
    (h : Relation.ReflTransGen r x y) : Relation.ReflTransGen (fun a b => r a b ∧ b ≠ x) x y := by
  induction h with
  | refl => exact .refl
  | @tail b c _ hstep ih =>
    by_cases hc : c = x
    · rw [hc]
    · exact ih.tail ⟨hstep, hc⟩

namespace Classes

/-- The component of a class applied to arguments, if that means a row of any length. -/
def rowComponent? (origin : ClassId) (arguments : List Object) : Option Object :=
  if origin == .builtin "tuple" then component? arguments else none

/-- The types that a class is applied to. -/
def typesIn (origin : ClassId) (arguments : List Object) : List Object :=
  match rowComponent? origin arguments with
  | some component => [component]
  | none => argumentTypes origin arguments

/-- The class that a hint names at its outermost. A row of any length is an array of its component
and names none. -/
def ownClass? : Object → Option ClassId
  | .cls c => some c
  | .applied _ origin arguments =>
    if (rowComponent? origin arguments).isSome then none else some origin
  | .parameters _ => some .generic
  | _ => none

/-- A hint is one of the type variables that are open. -/
def IsOpen (opened : List Nat) (hint : Object) : Prop :=
  ∃ index ∈ opened, hint = .typeVar index

namespace Universe

variable (u : Universe) (module : Option String)

/-- What a hint that is met in a module leads to. -/
def parts : Object → List Object
  | .typeVar index => (u.boundsOf index).flatMap listed
  | .forward _ text _ => (u.resolveName module text).toOption.toList
  | .annotated hint _ | .wrapped _ hint => [hint]
  | .union members | .either members => members.flatMap listed
  | .applied _ origin arguments => typesIn origin arguments
  | .parameters arguments => arguments
  | _ => []

/-- A hint that is met in a module mentions a class: it leads to a hint that names the class. -/
def Mentions (hint : Object) (d : Descriptor) : Prop :=
  ∃ o c, Relation.ReflTransGen (fun a b => b ∈ u.parts module a) hint o ∧
    ownClass? o = some c ∧ d = .cls c

/-- A hint mentions a class on a way that passes through none of the type variables in `opened`. -/
def MentionsOutside (opened : List Nat) (hint : Object) (d : Descriptor) : Prop :=
  ¬IsOpen opened hint ∧ ∃ o c,
    Relation.ReflTransGen (fun a b => b ∈ u.parts module a ∧ ¬IsOpen opened b) hint o ∧
      ownClass? o = some c ∧ d = .cls c

variable {u module} {opened : List Nat} {hint : Object} {d : Descriptor} {index : Nat}

theorem mentionsOutside_nil : u.MentionsOutside module [] hint d ↔ u.Mentions module hint d := by
  simp [MentionsOutside, Mentions, IsOpen]

/-- What a hint mentions is its own class or mentioned by what it leads to. -/
theorem mentionsOutside_iff (h : ¬IsOpen opened hint) : u.MentionsOutside module opened hint d ↔
    (∃ c, ownClass? hint = some c ∧ d = .cls c) ∨
      ∃ o ∈ u.parts module hint, u.MentionsOutside module opened o d := by
  constructor
  · rintro ⟨-, o, c, hway, hc, rfl⟩
    rcases hway.cases_head with rfl | ⟨p, ⟨hlead, hp⟩, hway⟩
    · exact .inl ⟨c, hc, rfl⟩
    · exact .inr ⟨p, hlead, hp, o, c, hway, hc, rfl⟩
  · rintro (⟨c, hc, rfl⟩ | ⟨p, hlead, hp, o, c, hway, hc, rfl⟩)
    · exact ⟨h, hint, c, .refl, hc, rfl⟩
    · exact ⟨h, o, c, hway.head ⟨hlead, hp⟩, hc, rfl⟩

theorem mentions_annotated {annotations : List Object} :
    u.Mentions module (.annotated hint annotations) d ↔ u.Mentions module hint d := by
  rw [← mentionsOutside_nil, mentionsOutside_iff (by simp [IsOpen])]
  simp [ownClass?, parts, mentionsOutside_nil]

/-- A type variable mentions what its bounds mention without it. -/
theorem mentionsOutside_typeVar (h : index ∉ opened) :
    u.MentionsOutside module opened (.typeVar index) d ↔
      ∃ o ∈ (u.boundsOf index).flatMap listed, u.MentionsOutside module (index :: opened) o d := by
  have opens (o : Object) :
      ¬IsOpen (index :: opened) o ↔ ¬IsOpen opened o ∧ o ≠ .typeVar index := by
    simp [IsOpen, and_comm]
  constructor
  · rintro ⟨-, o, c, hway, hc, rfl⟩
    -- The way is cut where it comes back to the variable for the last time.
    rcases (reflTransGen_avoids_start hway).cases_head with rfl | ⟨p, ⟨⟨hlead, hp⟩, hne⟩, hway⟩
    · cases hc
    · exact ⟨p, hlead, (opens p).2 ⟨hp, hne⟩, o, c, Relation.ReflTransGen.mono
        (fun a b hab => ⟨hab.1.1, (opens b).2 ⟨hab.1.2, hab.2⟩⟩) _ _ hway, hc, rfl⟩
  · rintro ⟨p, hmem, hp, o, c, hway, hc, rfl⟩
    have hopen : ¬IsOpen opened (.typeVar index) := by simpa [IsOpen] using h
    have hway : Relation.ReflTransGen (fun a b => b ∈ u.parts module a ∧ ¬IsOpen opened b) p o :=
      Relation.ReflTransGen.mono (fun a b hab => ⟨hab.1, ((opens b).1 hab.2).1⟩) _ _ hway
    exact ⟨hopen, o, c, hway.head ⟨hmem, ((opens p).1 hp).1⟩, hc, rfl⟩

theorem exists_mem_filled {rs : List (TypeRef Descriptor)} :
    (∃ r ∈ filled rs, d ∈ r.targets) ↔ ∃ r ∈ rs, d ∈ r.targets := by
  refine exists_congr fun r => ?_
  cases r <;> simp [filled, TypeRef.targets]

theorem exists_mem_filled_mapM {f : Object → Except Fault (TypeRef Descriptor)} {P : Object → Prop}
    (hf : ∀ o r, f o = .ok r → (d ∈ r.targets ↔ P o)) {os : List Object}
    {rs : List (TypeRef Descriptor)} (h : (do return filled (← os.mapM f)) = Except.ok rs) :
    (∃ r ∈ rs, d ∈ r.targets) ↔ ∃ o ∈ os, P o := by
  obtain ⟨rs', hrs, h⟩ := exists_of_bind_eq_ok h
  cases h
  rw [exists_mem_filled]
  constructor
  · rintro ⟨r, hr, hd⟩
    obtain ⟨o, ho, hof⟩ := exists_of_mem_mapM hrs hr
    exact ⟨o, ho, (hf o r hof).1 hd⟩
  · rintro ⟨o, ho, hP⟩
    obtain ⟨r, hr, hof⟩ := exists_mem_of_mapM hrs ho
    exact ⟨r, hr, (hf o r hof).2 hP⟩

theorem targets_arrayOf (r : TypeRef Descriptor) : (arrayOf r).targets = r.targets := by
  cases r <;> rfl

/-- A reference holds what its hint mentions outside of the type variables that are open. -/
theorem mem_targets_iff_outside {n : Nat} {r : TypeRef Descriptor}
    (h : u.referenceWithin module n opened hint = .ok r) :
    d ∈ r.targets ↔ u.MentionsOutside module opened hint d := by
  -- Each step down opens at most one more variable, so the induction is over any that are open.
  induction n generalizing opened hint r with
  | zero => cases h
  | succ n ih =>
    have all {opened : List Nat} {os : List Object} {rs : List (TypeRef Descriptor)}
        (h : (do return filled (← os.mapM (u.referenceWithin module n opened))) = Except.ok rs) :
        (∃ r ∈ rs, d ∈ r.targets) ↔ ∃ o ∈ os, u.MentionsOutside module opened o d :=
      exists_mem_filled_mapM (fun o r => ih) h
    cases hint with
    | typeVar index =>
      simp only [referenceWithin] at h
      split at h
      · next hopen =>
        cases h
        have hopen : IsOpen opened (.typeVar index) := ⟨index, by simpa using hopen, rfl⟩
        simp [TypeRef.targets, MentionsOutside, hopen]
      · next hopen =>
        obtain ⟨rs, hrs, h⟩ := exists_of_bind_eq_ok h
        cases h
        rw [mentionsOutside_typeVar (by simpa using hopen),
          ← all (congrArg (Except.map filled) hrs)]
        simp [TypeRef.targets]
    | cls c =>
      rw [mentionsOutside_iff (by simp [IsOpen])]
      cases h
      split <;> simp [TypeRef.targets, ownClass?, parts]
    | forward number text lenient =>
      rw [mentionsOutside_iff (by simp [IsOpen])]
      obtain ⟨o, ho, h⟩ := exists_of_bind_eq_ok h
      simp [ih h, ownClass?, parts, ho, Except.toOption]
    | annotated hint annotations =>
      rw [mentionsOutside_iff (by simp [IsOpen]), ih (by simpa only [referenceWithin] using h)]
      simp [ownClass?, parts]
    | wrapped form hint =>
      rw [mentionsOutside_iff (by simp [IsOpen])]
      cases form with
      | spread =>
        obtain ⟨rs, hrs, h⟩ := exists_of_bind_eq_ok h
        cases h
        simp [TypeRef.targets, ownClass?, parts, all hrs]
      | _ =>
        rw [ih (by simpa only [referenceWithin] using h)]
        simp [ownClass?, parts]
    | union members | either members =>
      rw [mentionsOutside_iff (by simp [IsOpen])]
      obtain ⟨rs, hrs, h⟩ := exists_of_bind_eq_ok h
      cases h
      simp [TypeRef.targets, ownClass?, parts, all hrs]
    | applied how origin arguments =>
      rw [mentionsOutside_iff (by simp [IsOpen])]
      simp only [referenceWithin] at h
      rw [← rowComponent?] at h
      cases hrow : rowComponent? origin arguments with
      | some component =>
        simp only [hrow] at h
        obtain ⟨r', hr', h⟩ := exists_of_bind_eq_ok h
        cases h
        simp [targets_arrayOf, ih hr', ownClass?, parts, typesIn, hrow]
      | none =>
        simp only [hrow] at h
        obtain ⟨rs, hrs, h⟩ := exists_of_bind_eq_ok h
        cases h
        simp [TypeRef.targets, ownClass?, parts, typesIn, hrow, all hrs]
    | parameters arguments =>
      rw [mentionsOutside_iff (by simp [IsOpen])]
      obtain ⟨rs, hrs, h⟩ := exists_of_bind_eq_ok h
      cases h
      simp [TypeRef.targets, ownClass?, parts, all hrs]
    | record c fields =>
      rw [mentionsOutside_iff (by simp [IsOpen])]
      simp only [referenceWithin] at h
      split at h
      · cases h
      · cases h
        simp [TypeRef.targets, ownClass?, parts]
    | _ =>
      rw [mentionsOutside_iff (by simp [IsOpen])]
      cases h
      simp [TypeRef.targets, ownClass?, parts]

/-- The reference of a hint holds the classes that the hint mentions. -/
theorem mem_targets_iff {r : TypeRef Descriptor} (h : u.reference module hint = .ok r) :
    d ∈ r.targets ↔ u.Mentions module hint d := by
  rw [mem_targets_iff_outside h, mentionsOutside_nil]

/-- What is split off a hint is the reference to what it mentions and its outermost annotations. -/
theorem split_spec {s : TypeRef Descriptor × List Object} (h : u.split module hint = .ok s) :
    (∀ d, d ∈ s.1.targets ↔ u.Mentions module hint d) ∧
      ∀ a, a ∈ s.2 ↔
        ∃ inner annotations, hint = .annotated inner annotations ∧ a ∈ annotations := by
  unfold split at h
  split at h
  · next inner annotations =>
    obtain ⟨r, hr, h⟩ := exists_of_bind_eq_ok h
    cases h
    exact ⟨fun d => by rw [mem_targets_iff hr, mentions_annotated], by simp⟩
  · next hplain =>
    obtain ⟨r, hr, h⟩ := exists_of_bind_eq_ok h
    cases h
    refine ⟨fun d => mem_targets_iff hr, fun a => ⟨fun ha => absurd ha List.not_mem_nil, ?_⟩⟩
    rintro ⟨inner, annotations, heq, -⟩
    exact absurd heq (hplain inner annotations)

theorem raisedReferences_spec {raises : Option Object} {rs : List (TypeRef Descriptor)}
    (h : u.raisedReferences module raises = .ok rs) :
    (∃ r ∈ rs, d ∈ r.targets) ↔ ∃ o ∈ u.raisedItems raises, ∃ hint,
      u.force module o = .ok hint ∧ u.Mentions module hint d := by
  refine exists_mem_filled_mapM (fun o r hr => ?_) h
  obtain ⟨hint, hforce, hr⟩ := exists_of_bind_eq_ok hr
  rw [mem_targets_iff hr, hforce]
  simp

theorem baseReferences_spec {bases : List Object} {rs : List (TypeRef Descriptor)}
    (h : u.baseReferences module bases = .ok rs) : (∃ r ∈ rs, d ∈ r.targets) ↔
      ∃ b ∈ bases, isSilentBase b = false ∧ u.Mentions module b d := by
  rw [exists_mem_filled_mapM (fun b r hr => mem_targets_iff hr) h]
  simp [and_assoc]

end Universe

end Classes

end TypeReach
