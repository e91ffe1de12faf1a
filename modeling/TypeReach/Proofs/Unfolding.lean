import Mathlib.Tactic.Ring
import TypeReach.Proofs.Readings

/-!
# Hints that can be unfolded

The names and the type variables in a hint may lead back to the hint. A reference to it can be made
just when every way back passes through a type variable, since none is opened twice on one way: the
way can then be no longer than there are variables, times the hints that lead to others. What comes
out has no empty slots inside, so that a walk gets through it.
-/

namespace TypeReach

namespace TypeRef

variable {δ : Type}

mutual

/-- Every node of a reference is of a known kind, and no slot is empty but that of an owner. -/
def IsWhole : TypeRef δ → Prop
  | absent => False
  | concrete _ => True
  | parameterized owner args => (owner = .absent ∨ owner.IsWhole) ∧ AreWhole args
  | wildcard lower upper => AreWhole lower ∧ AreWhole upper
  | array component => component.IsWhole
  | unknown _ => False

/-- Every one of several references is whole. -/
def AreWhole : List (TypeRef δ) → Prop
  | [] => True
  | r :: rs => r.IsWhole ∧ AreWhole rs

end

@[simp] theorem areWhole_iff (rs : List (TypeRef δ)) : AreWhole rs ↔ ∀ r ∈ rs, r.IsWhole := by
  induction rs with
  | nil => simp [AreWhole]
  | cons r rs ih => simp [AreWhole, ih]

mutual

theorem IsWhole.known : ∀ {r : TypeRef δ}, r.IsWhole → r.Known
  | .concrete _, _ => trivial
  | .parameterized _ _, ⟨howner, hargs⟩ =>
    ⟨howner.elim (fun h => h ▸ trivial) IsWhole.known, AreWhole.known hargs⟩
  | .wildcard _ _, ⟨hlower, hupper⟩ => ⟨AreWhole.known hlower, AreWhole.known hupper⟩
  | .array component, h => IsWhole.known (r := component) h

theorem AreWhole.known : ∀ {rs : List (TypeRef δ)}, AreWhole rs → KnownList rs
  | [], _ => trivial
  | _ :: _, ⟨hr, hrs⟩ => ⟨IsWhole.known hr, AreWhole.known hrs⟩

end

end TypeRef

namespace Classes

theorem mem_filled {r : TypeRef Descriptor} {rs : List (TypeRef Descriptor)} :
    r ∈ filled rs ↔ r ∈ rs ∧ r ≠ .absent := by
  cases r <;> simp [filled]

/-- A reference can be made that is an empty slot or has none inside. -/
def Refers (r : Except Fault (TypeRef Descriptor)) : Prop :=
  ∃ reference, r = .ok reference ∧ (reference = .absent ∨ reference.IsWhole)

theorem exists_filled_mapM {f : Object → Except Fault (TypeRef Descriptor)} {os : List Object}
    (h : ∀ o ∈ os, Refers (f o)) :
    ∃ rs, (do return filled (← os.mapM f)) = Except.ok rs ∧ ∀ r ∈ rs, r.IsWhole := by
  have hall : ∃ rs, os.mapM f = .ok rs ∧ ∀ r ∈ rs, r = .absent ∨ r.IsWhole := by
    induction os with
    | nil => exact ⟨[], rfl, by simp⟩
    | cons o os ih =>
      obtain ⟨r, hr, hwhole⟩ := h o (by simp)
      obtain ⟨rs, hrs, hwholes⟩ := ih fun p hp => h p (by simp [hp])
      refine ⟨r :: rs, ?_, List.forall_mem_cons.2 ⟨hwhole, hwholes⟩⟩
      rw [List.mapM_cons, hr, hrs]
      rfl
  obtain ⟨rs, hrs, hwhole⟩ := hall
  refine ⟨filled rs, by rw [hrs]; rfl, fun r hr => ?_⟩
  obtain ⟨hr, hne⟩ := mem_filled.1 hr
  exact (hwhole r hr).resolve_left hne

theorem refers_parameterized {owner : TypeRef Descriptor}
    {args : Except Fault (List (TypeRef Descriptor))} (howner : owner = .absent ∨ owner.IsWhole)
    (h : ∃ rs, args = .ok rs ∧ ∀ r ∈ rs, r.IsWhole) :
    Refers (do return .parameterized owner (← args)) := by
  obtain ⟨rs, rfl, hwhole⟩ := h
  exact ⟨_, rfl, .inr ⟨howner, (TypeRef.areWhole_iff rs).2 hwhole⟩⟩

theorem isWhole_arrayOf {r : TypeRef Descriptor} (h : r.IsWhole) : (arrayOf r).IsWhole := by
  cases r with
  | absent => exact h.elim
  | _ => exact h

namespace Universe

variable (u : Universe) (module : Option String)

/-- A hint that is met in a module leads to another, in any number of steps. -/
def LeadsTo : Object → Object → Prop :=
  Relation.ReflTransGen fun a b => b ∈ u.parts module a

/-- A hint unfolds to another: it leads to it in one step and is no type variable. -/
def UnfoldsTo (a b : Object) : Prop :=
  b ∈ u.parts module a ∧ ∀ index, a ≠ .typeVar index

/-- A hint that is met in a module can be unfolded: the names that it leads to stand for something
there, the records that it leads to tell their class, and every way from a hint back to it passes
through a type variable. -/
structure IsGuarded (hint : Object) : Prop where
  resolves : ∀ number text lenient, u.LeadsTo module hint (.forward number text lenient) →
    ∃ o, u.resolveName module text = .ok o
  tells : ∀ c fields, u.LeadsTo module hint (.record c fields) →
    u.classFault? (.record c fields) = none
  returns : ∀ o, u.LeadsTo module hint o → ¬Relation.TransGen (u.UnfoldsTo module) o o

/-! ### Ways through hints -/

/-- On the way from a hint to `o`, the variables in `opened` were opened, and since the last of them
the hints in `passed`, which are among the ones in `known`, were unfolded. -/
structure IsWay (hint : Object) (known : List Object) (opened : List Nat) (passed : List Object)
    (o : Object) : Prop where
  leads : u.LeadsTo module hint o
  opened_nodup : opened.Nodup
  opened_lt : ∀ index ∈ opened, index < u.typeVariables.length
  passed_nodup : passed.Nodup
  passed_known : passed ⊆ known
  unfolds : ∀ p ∈ passed, Relation.TransGen (u.UnfoldsTo module) p o

/-- How many more steps a way can have. -/
def room (known : List Object) (opened : List Nat) (passed : List Object) : Nat :=
  (u.typeVariables.length - opened.length) * (known.length + 2) + (known.length - passed.length)

variable {u module} {hint o p : Object} {known passed : List Object} {opened : List Nat}
  {index : Nat}

/-- A way goes on through a hint that is no variable. -/
theorem IsWay.unfold (hguard : u.IsGuarded module hint)
    (hway : u.IsWay module hint known opened passed o) (hknown : o ∈ known)
    (hp : u.UnfoldsTo module o p) :
    u.IsWay module hint known opened (o :: passed) p ∧
      u.room known opened (o :: passed) < u.room known opened passed := by
  have hfresh : o ∉ passed := fun ho => hguard.returns o hway.leads (hway.unfolds o ho)
  have hnodup : (o :: passed).Nodup := List.nodup_cons.2 ⟨hfresh, hway.passed_nodup⟩
  have hsubset : o :: passed ⊆ known := List.cons_subset.2 ⟨hknown, hway.passed_known⟩
  refine ⟨{ hway with leads := hway.leads.tail hp.1, passed_nodup := hnodup,
                      passed_known := hsubset, unfolds := ?_ }, ?_⟩
  · intro q hq
    rcases List.mem_cons.1 hq with rfl | hq
    · exact .single hp
    · exact (hway.unfolds q hq).tail hp
  · have hlength := (hnodup.subperm hsubset).length_le
    rw [List.length_cons] at hlength
    simp only [room, List.length_cons]
    omega

theorem lt_of_mem_parts (hp : p ∈ u.parts module (.typeVar index)) :
    index < u.typeVariables.length := by
  by_contra h
  have hnone : u.typeVariables[index]? = none := List.getElem?_eq_none (by omega)
  simp [parts, boundsOf, hnone] at hp

/-- A way goes on through a variable that is not open. -/
theorem IsWay.open (hway : u.IsWay module hint known opened passed (.typeVar index))
    (hclosed : index ∉ opened) (hp : p ∈ u.parts module (.typeVar index)) :
    u.IsWay module hint known (index :: opened) [] p ∧
      u.room known (index :: opened) [] < u.room known opened passed := by
  have hnodup : (index :: opened).Nodup := List.nodup_cons.2 ⟨hclosed, hway.opened_nodup⟩
  have hlt : ∀ i ∈ index :: opened, i < u.typeVariables.length :=
    List.forall_mem_cons.2 ⟨lt_of_mem_parts hp, hway.opened_lt⟩
  refine ⟨⟨hway.leads.tail hp, hnodup, hlt, .nil, by simp, by simp⟩, ?_⟩
  have hsubset : index :: opened ⊆ List.range u.typeVariables.length := fun i hi =>
    List.mem_range.2 (hlt i hi)
  have hlength := (hnodup.subperm hsubset).length_le
  rw [List.length_cons, List.length_range] at hlength
  have hless : u.typeVariables.length - opened.length =
      u.typeVariables.length - (opened.length + 1) + 1 := by omega
  simp only [room, List.length_cons, List.length_nil, hless, Nat.add_mul, Nat.one_mul]
  omega

/-- A reference can be made with as many steps as a way may still have. -/
theorem refers_referenceWithin (hguard : u.IsGuarded module hint)
    (hknown : ∀ o p, u.LeadsTo module hint o → u.UnfoldsTo module o p → o ∈ known) {n : Nat}
    (hway : u.IsWay module hint known opened passed o) (hn : u.room known opened passed < n) :
    Refers (u.referenceWithin module n opened o) := by
  -- Each step down makes the way longer and leaves less room than steps.
  induction n generalizing opened passed o with
  | zero => omega
  | succ n ih =>
    have inner {p : Object} (hp : u.UnfoldsTo module o p) :
        Refers (u.referenceWithin module n opened p) := by
      obtain ⟨hon, hroom⟩ := hway.unfold hguard (hknown o p hway.leads hp) hp
      exact ih hon (by omega)
    have row {owner : TypeRef Descriptor} {os : List Object}
        (howner : owner = .absent ∨ owner.IsWhole) (hos : ∀ p ∈ os, u.UnfoldsTo module o p) :=
      refers_parameterized howner (exists_filled_mapM fun p hp => inner (hos p hp))
    cases o with
    | cls c =>
      refine ⟨_, rfl, .inr ?_⟩
      split <;> simp [TypeRef.IsWhole]
    | typeVar index =>
      simp only [referenceWithin]
      split
      · exact ⟨_, rfl, .inl rfl⟩
      · next hclosed =>
        have hclosed : index ∉ opened := by simpa using hclosed
        have bound {p : Object} (hp : p ∈ u.parts module (.typeVar index)) :
            Refers (u.referenceWithin module n (index :: opened) p) := by
          obtain ⟨hon, hroom⟩ := hway.open hclosed hp
          exact ih hon (by omega)
        obtain ⟨rs, hrs, hwhole⟩ := exists_filled_mapM fun p hp => bound hp
        obtain ⟨rs', hrs', heq⟩ := exists_of_bind_eq_ok hrs
        cases heq
        rw [show ((u.boundsOf index).flatMap listed).mapM
          (u.referenceWithin module n (index :: opened)) = .ok rs' from hrs']
        exact ⟨_, rfl, .inr (by simpa [TypeRef.IsWhole] using hwhole)⟩
    | forward number text lenient =>
      obtain ⟨o, ho⟩ := hguard.resolves number text lenient hway.leads
      have hinner := inner (p := o) ⟨by simp [parts, ho, Except.toOption], by simp⟩
      simp only [referenceWithin, ho]
      exact hinner
    | annotated inside annotations =>
      simpa only [referenceWithin] using inner (p := inside) ⟨by simp [parts], by simp⟩
    | wrapped form inside =>
      have hinside : u.UnfoldsTo module (.wrapped form inside) inside :=
        ⟨by simp [parts], by simp⟩
      cases form with
      | spread => exact row (.inl rfl) (by simpa using hinside)
      | _ => simpa only [referenceWithin] using inner hinside
    | union members | either members => exact row (.inl rfl) fun p hp => ⟨hp, by simp⟩
    | applied how origin arguments =>
      simp only [referenceWithin]
      rw [← rowComponent?]
      cases hrow : rowComponent? origin arguments with
      | some component =>
        obtain ⟨r, hr, hwhole⟩ := inner (p := component) ⟨by simp [parts, typesIn, hrow], by simp⟩
        simp only [hr]
        rcases hwhole with rfl | hwhole
        · exact ⟨_, rfl, .inl rfl⟩
        · exact ⟨_, rfl, .inr (isWhole_arrayOf hwhole)⟩
      | none =>
        exact row (.inr trivial) fun p hp => ⟨by simpa [parts, typesIn, hrow] using hp, by simp⟩
    | parameters arguments => exact row (.inr trivial) fun p hp => ⟨hp, by simp⟩
    | record c fields =>
      simp only [referenceWithin, hguard.tells c fields hway.leads]
      exact ⟨_, rfl, .inl rfl⟩
    | _ => exact ⟨_, rfl, .inl rfl⟩

/-! ### The hints that lead to others -/

theorem mem_or_listed_of_mem_typesIn {origin : ClassId} {arguments : List Object}
    (h : o ∈ typesIn origin arguments) : o ∈ arguments ∨ o ∈ arguments.flatMap listed := by
  unfold typesIn at h
  split at h
  · next component hrow =>
    obtain rfl : o = component := by simpa using h
    unfold rowComponent? component? at hrow
    repeat' split at hrow
    all_goals cases hrow
    exact .inl (by simp)
  · unfold argumentTypes at h
    split at h
    · rcases List.mem_append.1 h with h | h
      · exact .inl (List.mem_of_mem_dropLast h)
      · cases hlast : arguments.getLast? with
        | none => simp [hlast] at h
        | some last =>
          simp only [hlast, Option.map_some, Option.getD_some] at h
          exact .inr (List.mem_flatMap.2 ⟨last, List.mem_of_getLast? hlast, h⟩)
    · exact .inr h

theorem boundsOf_subset : u.boundsOf index ⊆ u.objects := by
  intro o ho
  cases hv : u.typeVariables[index]? with
  | none => simp [boundsOf, hv] at ho
  | some v =>
    exact mem_objects_of_bound (List.mem_of_getElem? hv) (by simpa [boundsOf, hv] using ho)

/-- What a hint leads to is put together from the same objects as the hint and the universe. -/
theorem within_of_mem_parts (hu : Object.fragmentsListed u.objects ⊆ known) (ho : o.Within known)
    (hp : p ∈ u.parts module o) : p.Within known := by
  cases o with
  | typeVar index =>
    obtain ⟨b, hb, hp⟩ := List.mem_flatMap.1 hp
    exact List.Subset.trans (Object.fragments_subset_of_mem_listed
      (List.mem_flatMap.2 ⟨b, boundsOf_subset hb, hp⟩)) hu
  | forward number text lenient =>
    have hp : u.resolveName module text = .ok p := by
      cases h : u.resolveName module text with
      | error fault => simp [parts, h, Except.toOption] at hp
      | ok b => simp_all [parts, Except.toOption]
    have hheld : u.Within known := fun b hb =>
      List.Subset.trans (Object.fragments_subset_of_mem hb) hu
    exact gives_resolveName hheld p hp
  | annotated inside annotations | wrapped form inside =>
    obtain rfl : p = inside := by simpa [parts] using hp
    exact (List.cons_subset.1 ho).2
  | union members | either members =>
    exact List.Subset.trans (Object.fragments_subset_of_mem_listed hp) (List.cons_subset.1 ho).2
  | applied how origin arguments =>
    refine List.Subset.trans ?_ (List.cons_subset.1 ho).2
    exact (mem_or_listed_of_mem_typesIn hp).elim Object.fragments_subset_of_mem
      Object.fragments_subset_of_mem_listed
  | parameters arguments =>
    exact List.Subset.trans (Object.fragments_subset_of_mem hp) (List.cons_subset.1 ho).2
  | _ => simp [parts] at hp

/-- What leads further is a fragment of the hint or of what the universe holds. -/
theorem mem_of_unfoldsTo (ho : o.Within known) (h : u.UnfoldsTo module o p) : o ∈ known := by
  obtain ⟨hp, hvar⟩ := h
  cases o with
  | typeVar index => exact absurd rfl (hvar index)
  | forward | annotated | wrapped | union | either | applied | parameters =>
    exact (List.cons_subset.1 ho).1
  | _ => simp [parts] at hp

theorem room_lt_depth (h : known.length ≤ hint.size + Object.sizeList u.objects) :
    u.room known [] [] < u.depth hint := by
  have hvariables : u.typeVariables.length ≤ hint.size + u.size := by simp only [size]; omega
  have hknown : known.length ≤ hint.size + u.size := by simp only [size]; omega
  simp only [room, depth, List.length_nil, Nat.sub_zero]
  generalize hint.size + u.size = s at *
  calc u.typeVariables.length * (known.length + 2) + known.length
    _ ≤ s * (s + 2) + s := by gcongr
    _ < (s + 2) ^ 3 := by ring_nf; omega

/-- A hint that can be unfolded has a reference with no empty slots inside. -/
theorem refers_reference (h : u.IsGuarded module hint) : Refers (u.reference module hint) := by
  let known := Object.fragmentsListed (hint :: u.objects)
  have hstart : hint.Within known := Object.fragments_subset_of_mem (by simp)
  have hobjects : Object.fragmentsListed u.objects ⊆ known := by
    simp only [known, Object.fragmentsListed_eq_flatMap, List.flatMap_cons, List.flatMap_append]
    exact List.subset_append_right _ _
  have hwithin {o : Object} (ho : u.LeadsTo module hint o) : o.Within known := by
    induction ho with
    | refl => exact hstart
    | tail _ hp ih => exact within_of_mem_parts hobjects ih hp
  have hroom : u.room known [] [] < u.depth hint := by
    have hlength : known.length ≤ hint.size + Object.sizeList u.objects :=
      Object.length_fragmentsListed_le (hint :: u.objects)
    exact room_lt_depth hlength
  have hway : u.IsWay module hint known [] [] hint :=
    ⟨.refl, .nil, by simp, .nil, by simp, by simp⟩
  exact refers_referenceWithin h (fun o p ho hp => mem_of_unfoldsTo (hwithin ho) hp) hway hroom

/-! ### Hints that cannot be unfolded -/

/-- The variables that are open in what a hint leads to. -/
def opening (opened : List Nat) : Object → List Nat
  | .typeVar index => index :: opened
  | _ => opened

theorem exists_ok_of_filled_mapM {f : Object → Except Fault (TypeRef Descriptor)}
    {os : List Object} {rs : List (TypeRef Descriptor)}
    (h : (do return filled (← os.mapM f)) = Except.ok rs) (hp : p ∈ os) : ∃ r, f p = .ok r := by
  obtain ⟨rs', hrs, -⟩ := exists_of_bind_eq_ok h
  obtain ⟨r, -, hr⟩ := exists_mem_of_mapM hrs hp
  exact ⟨r, hr⟩

/-- A reference is made of references to what its hint leads to. -/
theorem exists_referenceWithin_part {n : Nat} {r : TypeRef Descriptor}
    (h : u.referenceWithin module (n + 1) opened o = .ok r) (hclosed : ¬IsOpen opened o)
    (hp : p ∈ u.parts module o) :
    ∃ r, u.referenceWithin module n (opening opened o) p = .ok r := by
  cases o with
  | typeVar index =>
    have hclosed : index ∉ opened := by simpa [IsOpen] using hclosed
    simp only [referenceWithin] at h
    split at h
    · next hopen => exact absurd (by simpa using hopen) hclosed
    · obtain ⟨rs, hrs, -⟩ := exists_of_bind_eq_ok h
      exact exists_ok_of_filled_mapM (congrArg (Except.map filled) hrs) hp
  | forward number text lenient =>
    obtain ⟨o, ho, h⟩ := exists_of_bind_eq_ok h
    obtain rfl : p = o := by simpa [parts, ho, Except.toOption] using hp
    exact ⟨r, h⟩
  | annotated inside annotations =>
    obtain rfl : p = inside := by simpa [parts] using hp
    exact ⟨r, by simpa only [referenceWithin, opening] using h⟩
  | wrapped form inside =>
    obtain rfl : p = inside := by simpa [parts] using hp
    cases form with
    | spread =>
      obtain ⟨rs, hrs, -⟩ := exists_of_bind_eq_ok h
      exact exists_ok_of_filled_mapM hrs (by simp)
    | _ => exact ⟨r, by simpa only [referenceWithin, opening] using h⟩
  | union members | either members | parameters arguments =>
    obtain ⟨rs, hrs, -⟩ := exists_of_bind_eq_ok h
    exact exists_ok_of_filled_mapM hrs hp
  | applied how origin arguments =>
    simp only [referenceWithin] at h
    rw [← rowComponent?] at h
    cases hrow : rowComponent? origin arguments with
    | some component =>
      simp only [hrow] at h
      obtain ⟨r', hr', -⟩ := exists_of_bind_eq_ok h
      obtain rfl : p = component := by simpa [parts, typesIn, hrow] using hp
      exact ⟨r', hr'⟩
    | none =>
      simp only [hrow] at h
      obtain ⟨rs, hrs, -⟩ := exists_of_bind_eq_ok h
      exact exists_ok_of_filled_mapM hrs (by simpa [parts, typesIn, hrow] using hp)
  | _ => simp [parts] at hp

/-- A reference is made of references to all that its hint leads to outside of open variables. -/
theorem exists_referenceWithin_of_way {n : Nat} {r : TypeRef Descriptor}
    (h : u.referenceWithin module n opened o = .ok r) (hclosed : ¬IsOpen opened o)
    (hway : Relation.ReflTransGen (fun a b => b ∈ u.parts module a ∧ ¬IsOpen opened b) o p) :
    ∃ m opened r, u.referenceWithin module m opened p = .ok r := by
  induction n generalizing opened o r with
  | zero => cases h
  | succ n ih =>
    -- The way is cut where it comes back to its start for the last time.
    rcases (reflTransGen_avoids_start hway).cases_head with rfl | ⟨q, ⟨⟨hq, hqopen⟩, hne⟩, hway⟩
    · exact ⟨n + 1, opened, r, h⟩
    · obtain ⟨r', hr'⟩ := exists_referenceWithin_part h hclosed hq
      have hopening (b : Object) (hb : ¬IsOpen opened b) (hbo : b ≠ o) :
          ¬IsOpen (opening opened o) b := by
        cases o with
        | typeVar index => simp_all [IsOpen, opening]
        | _ => exact hb
      exact ih hr' (hopening q hqopen hne) (Relation.ReflTransGen.mono
        (fun a b hab => ⟨hab.1.1, hopening b hab.1.2 hab.2⟩) _ _ hway)

/-- What a hint unfolds to leaves fewer steps. -/
theorem exists_referenceWithin_of_unfolds {n : Nat} {r : TypeRef Descriptor}
    (h : u.referenceWithin module n opened o = .ok r)
    (hway : Relation.TransGen (u.UnfoldsTo module) o p) :
    ∃ m < n, ∃ r, u.referenceWithin module m opened p = .ok r := by
  have step {n : Nat} {a b : Object} {r : TypeRef Descriptor}
      (h : u.referenceWithin module n opened a = .ok r) (hab : u.UnfoldsTo module a b) :
      ∃ m < n, ∃ r, u.referenceWithin module m opened b = .ok r := by
    cases n with
    | zero => cases h
    | succ n =>
      have hopening : opening opened a = opened := by
        cases a with
        | typeVar index => exact absurd rfl (hab.2 index)
        | _ => rfl
      have hclosed : ¬IsOpen opened a := fun ⟨index, _, heq⟩ => hab.2 index heq
      obtain ⟨r', hr'⟩ := exists_referenceWithin_part h hclosed hab.1
      exact ⟨n, n.lt_succ_self, r', hopening ▸ hr'⟩
  induction hway with
  | single hp => exact step h hp
  | tail _ hp ih =>
    obtain ⟨m, hm, r', hr'⟩ := ih
    obtain ⟨l, hl, r'', hr''⟩ := step hr' hp
    exact ⟨l, hl.trans hm, r'', hr''⟩

theorem not_unfolds_self {n : Nat} {r : TypeRef Descriptor}
    (h : u.referenceWithin module n opened o = .ok r) :
    ¬Relation.TransGen (u.UnfoldsTo module) o o := by
  -- Each time around leaves fewer steps.
  induction n using Nat.strongRecOn generalizing r with
  | _ n ih =>
    intro hway
    obtain ⟨m, hm, r', hr'⟩ := exists_referenceWithin_of_unfolds h hway
    exact ih m hm hr' hway

/-- Just the hints that can be unfolded have references. -/
theorem exists_reference_iff :
    (∃ r, u.reference module hint = .ok r) ↔ u.IsGuarded module hint := by
  constructor
  · rintro ⟨r, h⟩
    have reached {o : Object} (ho : u.LeadsTo module hint o) :
        ∃ n opened r, u.referenceWithin module n opened o = .ok r :=
      exists_referenceWithin_of_way h (by simp [IsOpen])
        (Relation.ReflTransGen.mono (fun a b hb => ⟨hb, by simp [IsOpen]⟩) _ _ ho)
    refine ⟨fun number text lenient ho => ?_, fun c fields ho => ?_, fun o ho => ?_⟩
    · obtain ⟨n, opened, r', hr'⟩ := reached ho
      cases n with
      | zero => cases hr'
      | succ n =>
        obtain ⟨o, ho, -⟩ := exists_of_bind_eq_ok hr'
        exact ⟨o, ho⟩
    · obtain ⟨n, opened, r', hr'⟩ := reached ho
      cases n with
      | zero => cases hr'
      | succ n =>
        simp only [referenceWithin] at hr'
        split at hr'
        · cases hr'
        · assumption
    · obtain ⟨n, opened, r', hr'⟩ := reached ho
      exact not_unfolds_self hr'
  · intro h
    obtain ⟨r, hr, -⟩ := refers_reference h
    exact ⟨r, hr⟩

/-- No way leads back to a hint if each step takes it further down. -/
theorem not_transGen_of_rank (rank : Object → Nat)
    (hrank : ∀ a b, u.LeadsTo module hint a → u.UnfoldsTo module a b → rank b < rank a)
    (ho : u.LeadsTo module hint o) : ¬Relation.TransGen (u.UnfoldsTo module) o o := by
  have hdown {p : Object} (h : Relation.TransGen (u.UnfoldsTo module) o p) :
      u.LeadsTo module hint p ∧ rank p < rank o := by
    induction h with
    | single hp => exact ⟨ho.tail hp.1, hrank _ _ ho hp⟩
    | tail _ hp ih => exact ⟨ih.1.tail hp.1, (hrank _ _ ih.1 hp).trans ih.2⟩
  exact fun h => Nat.lt_irrefl _ (hdown h).2

/-- A hint that can be unfolded has a reference, with no empty slots inside, to what it mentions. -/
theorem reference_mentions (h : u.IsGuarded module hint) :
    ∃ r, u.reference module hint = .ok r ∧ (∀ d, d ∈ r.targets ↔ u.Mentions module hint d) ∧
      (r = .absent ∨ r.IsWhole) ∧ r.course.stop = none := by
  obtain ⟨r, hr, hwhole⟩ := refers_reference h
  have hknown : r.Known := hwhole.elim (fun h => h ▸ trivial) TypeRef.IsWhole.known
  exact ⟨r, hr, fun d => mem_targets_iff hr, hwhole,
    (TypeRef.covers_course r).stop_eq_none trivial hknown⟩

/-- A union of a class and a type variable, whose bound in turn is a name for the union. -/
def knot : Object := .union [.typeVar 0, .cls (.declared 0)]

/-- A module that holds the union. -/
def tangled : Universe where
  modules := .ofEntries [("app", {
    attributes := .ofEntries [("Node", .cls (.declared 0)), ("Tree", knot)] })]
  classes := [{ module := some "app", qualname := "Node" }]
  typeVariables := [{ name := "T", bound := some (.forward none "Tree" false) }]

theorem tangled_parts_forward :
    tangled.parts (some "app") (.forward none "Tree" false) = [knot] :=
  rfl

theorem tangled_leadsTo
    (h : tangled.LeadsTo (some "app") (.forward none "Tree" false) o) :
    o = .forward none "Tree" false ∨ o = knot ∨ o = .typeVar 0 ∨ o = .cls (.declared 0) := by
  induction h with
  | refl => exact .inl rfl
  | tail _ hp ih =>
    rcases ih with rfl | rfl | rfl | rfl
    · exact .inr (.inl (List.mem_singleton.1 (tangled_parts_forward ▸ hp)))
    · rcases List.mem_cons.1 hp with rfl | hp
      · exact .inr (.inr (.inl rfl))
      · exact .inr (.inr (.inr (List.mem_singleton.1 hp)))
    · exact .inl (List.mem_singleton.1 hp)
    · simp [parts] at hp

theorem tangled_isGuarded :
    tangled.IsGuarded (some "app") (.forward none "Tree" false) where
  resolves number text lenient h := by
    rcases tangled_leadsTo h with h | h | h | h <;> cases h
    exact ⟨knot, rfl⟩
  tells c fields h := by
    rcases tangled_leadsTo h with h | h | h | h <;> cases h
  returns o ho := by
    -- Only the step from the variable to its bound goes up.
    let rank : Object → Nat
      | .forward .. => 2
      | .union _ => 1
      | _ => 0
    refine not_transGen_of_rank rank (fun a b ha ⟨hb, hvar⟩ => ?_) ho
    rcases tangled_leadsTo ha with rfl | rfl | rfl | rfl
    · obtain rfl := List.mem_singleton.1 (tangled_parts_forward ▸ hb)
      simp [rank, knot]
    · rcases List.mem_cons.1 hb with rfl | hb
      · simp [rank, knot]
      · obtain rfl := List.mem_singleton.1 hb
        simp [rank, knot]
    · exact absurd rfl (hvar 0)
    · simp [parts] at hb

/-- The name for the union has a reference to the class. -/
theorem reference_mentions_tangled :
    tangled.IsGuarded (some "app") (.forward none "Tree" false) ∧
      ∃ r, tangled.reference (some "app") (.forward none "Tree" false) = .ok r ∧
        (∀ d, d ∈ r.targets ↔ tangled.Mentions (some "app") (.forward none "Tree" false) d) ∧
        (r = .absent ∨ r.IsWhole) ∧ r.course.stop = none :=
  ⟨tangled_isGuarded, reference_mentions tangled_isGuarded⟩

end Universe

end Classes

end TypeReach
