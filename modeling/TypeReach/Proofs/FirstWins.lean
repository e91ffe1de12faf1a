import Mathlib.Data.List.Basic
import TypeReach.Proofs.Enabled

/-!
# The first provider of a name

The providers that are built in and those of entry points stand in a row. Discovery goes along the
row and takes, of all with one name in small letters, the first, if the name is enabled. It fails
exactly if an enabled name is that of none.
-/

namespace TypeReach.Discovery

namespace Finding

variable {f : Finding} {name : String} {factory : Factory}

instance : Decidable (f.Seeks name) :=
  match hw : f.wanted with
  | none => decidable_of_iff (f.factories.get? name = none) (by simp [Seeks, hw])
  | some names =>
    decidable_of_iff (f.factories.get? name = none ∧ name ∈ names) (by simp [Seeks, hw])

/-- The names of factories, in small letters. -/
def keys (es : List (String × Factory)) : List String := es.map fun e => Text.lower e.1

@[simp] theorem keys_nil : keys [] = [] := rfl

@[simp] theorem keys_cons (e : String × Factory) (es : List (String × Factory)) :
    keys (e :: es) = Text.lower e.1 :: keys es := rfl

/-- Whose name is among the keys, there is a first one with it. -/
theorem exists_first_of_mem_keys {es : List (String × Factory)} (h : name ∈ keys es) :
    ∃ e, es.find? (fun e => Text.lower e.1 == name) = some e := by
  obtain ⟨e, he, hkey⟩ := List.mem_map.1 h
  exact Option.isSome_iff_exists.1 (List.find?_isSome.2 ⟨e, he, by simpa using hkey⟩)

theorem seeks_add_iff (h : f.Seeks (Text.lower name)) (other : String) :
    (f.add name factory).Seeks other ↔ f.Seeks other ∧ other ≠ Text.lower name := by
  obtain ⟨-, hs⟩ | ⟨-, hadd⟩ := add_cases f name factory
  · exact absurd h hs
  · rw [hadd]
    by_cases hname : other = Text.lower name
    · simp [Seeks, hname]
    · cases hw : f.wanted <;> simp [Seeks, hname, hw]

theorem names_add (h : f.Seeks (Text.lower name)) :
    (f.add name factory).factories.names = f.factories.names ++ [Text.lower name] := by
  obtain ⟨-, hs⟩ | ⟨-, hadd⟩ := add_cases f name factory
  · exact absurd h hs
  · have hnew : Text.lower name ∉ f.factories.names := (Table.get?_eq_none_iff _ _).1 h.1
    rw [hadd]
    exact (Table.map_fst_putIn _ _ _).trans (if_neg hnew)

theorem add_of_not_seeks (h : ¬f.Seeks (Text.lower name)) : f.add name factory = f :=
  (add_cases f name factory).elim And.left fun hs => absurd hs.1 h

/-- Behind the names that are taken come those that are sought, as they come up first. -/
theorem names_addEach (f : Finding) (es : List (String × Factory)) :
    (f.addEach es).factories.names =
      f.factories.names ++ ((keys es).filter fun n => decide (f.Seeks n)).eraseDups := by
  induction es generalizing f with
  | nil => simp [addEach]
  | cons e es ih =>
    have step := ih (f.add e.1 e.2)
    by_cases h : f.Seeks (Text.lower e.1)
    · have later : (keys es).filter (fun n => decide ((f.add e.1 e.2).Seeks n)) =
          ((keys es).filter fun n => decide (f.Seeks n)).filter fun n => !n == Text.lower e.1 := by
        rw [List.filter_filter]
        refine List.filter_congr fun n _ => ?_
        rw [Bool.eq_iff_iff]
        simp [seeks_add_iff h, and_comm]
      rw [names_add h, later] at step
      have first : (keys (e :: es)).filter (fun n => decide (f.Seeks n)) =
          Text.lower e.1 :: (keys es).filter fun n => decide (f.Seeks n) := by
        simp [h]
      rw [first, List.eraseDups_cons, List.append_cons]
      exact step
    · have first : (keys (e :: es)).filter (fun n => decide (f.Seeks n)) =
          (keys es).filter fun n => decide (f.Seeks n) := by
        simp [h]
      rw [add_of_not_seeks h] at step
      rw [first, ← step]
      exact congrArg (fun g : Finding => (g.addEach es).factories.names) (add_of_not_seeks h)

/-- Of the names that are wanted, those that never come up stay so. -/
theorem Apart.wanted_addEach_eq (h : f.Apart) (es : List (String × Factory)) :
    (f.addEach es).wanted =
      f.wanted.map fun names => names.filter fun n => decide (n ∉ keys es) := by
  induction es generalizing f with
  | nil => cases hw : f.wanted <;> simp [addEach, hw]
  | cons e es ih =>
    have apart : (f.add e.1 e.2).Apart := h.add
    have step := ih apart
    have both : ∀ names : List String,
        (names.filter (· != Text.lower e.1)).filter (fun n => decide (n ∉ keys es)) =
          names.filter fun n => decide (n ∉ keys (e :: es)) := by
      intro names
      rw [List.filter_filter]
      refine List.filter_congr fun n _ => ?_
      rw [Bool.eq_iff_iff]
      simp [and_comm]
    refine Eq.trans step ?_
    obtain ⟨hadd, hs⟩ | ⟨-, hadd⟩ := add_cases f e.1 e.2
    · -- A name that is passed over is not wanted, so taking it out of the wanted ones does nothing.
      cases hw : f.wanted with
      | none => simp [hadd, hw]
      | some names =>
        have hnot : Text.lower e.1 ∉ names := fun hin =>
          hs ⟨h names hw _ hin, fun names' hw' => by cases hw'.symm.trans hw; exact hin⟩
        have same : names.filter (· != Text.lower e.1) = names :=
          List.filter_eq_self.2 fun n hn => by
            have hne : n ≠ Text.lower e.1 := fun heq => hnot (heq ▸ hn)
            simpa using hne
        simp only [hadd, hw, Option.map_some]
        rw [← both, same]
    · cases hw : f.wanted with
      | none => simp [hadd, hw]
      | some names => simp only [hadd, hw, Option.map_some, both]

end Finding

open Finding (keys)

/-- Entry points that load. -/
def entryPoints (points : List (String × Loaded)) : List EntryPoint :=
  points.map fun p => ⟨p.1, .ok p.2⟩

/-- All factories in a row: those that are built in, and then those of entry points. -/
def candidates (points : List (String × Loaded)) : List (String × Factory) :=
  builtIns ++ points.map fun p => (p.1, .entryPoint p.2)

/-- An enabled name, in small letters, that nothing goes by. -/
def Unmatched (enabled : Option (List String)) (points : List (String × Loaded)) (name : String) :
    Prop :=
  ∃ names, enabled = some names ∧ name ∈ names.map Text.lower ∧ name ∉ keys (candidates points)

/-- The options whose names no factory of an entry point keeps for itself. -/
def Free (options : Options) : Prop := ∀ o ∈ options, o.1 ≠ "obj"

/-- What is behind a factory, called with options: the class, or what the entry point loads. -/
def Factory.call (options : Options) : Factory → Except DiscoveryError Made
  | builtIn c => c.make options
  | entryPoint loaded => loaded.make options

instance {enabled : Option (List String)} {name : String} : Decidable (Enables enabled name) :=
  match enabled with
  | none => isTrue fun _ h => nomatch h
  | some names => decidable_of_iff (name ∈ names.map Text.lower) (by simp [Enables])

variable {enabled : Option (List String)} {points : List (String × Loaded)} {name : String}

theorem Factory.make_of_free {options : Options} (h : Free options) (factory : Factory) :
    factory.make options = factory.call options := by
  cases factory with
  | builtIn c => rfl
  | entryPoint loaded =>
    have hany : options.any (·.1 == "obj") = false := by
      rw [List.any_eq_false]
      exact fun o ho => by simpa using h o ho
    simp [Factory.make, Factory.call, hany]

theorem addAll_entryPoints (f : Finding) (points : List (String × Loaded)) :
    f.addAll (entryPoints points) =
      .ok (f.addEach (points.map fun p => (p.1, .entryPoint p.2))) := by
  induction points generalizing f with
  | nil => rfl
  | cons p points ih => exact ih (f.add p.1 (.entryPoint p.2))

theorem seeks_start_iff : (Finding.start enabled).Seeks name ↔ Enables enabled name := by
  cases enabled <;> simp [Finding.start, Finding.Seeks, Enables]

theorem names_start_addEach (enabled : Option (List String)) (es : List (String × Factory)) :
    ((Finding.start enabled).addEach es).factories.names =
      ((keys es).filter fun n => decide (Enables enabled n)).eraseDups := by
  have hempty : (Finding.start enabled).factories.names = [] := rfl
  simp only [Finding.names_addEach, hempty, List.nil_append, seeks_start_iff]

/-- Discovery goes along the row of candidates, and fails with the names that are left over. -/
theorem discover_entryPoints (enabled : Option (List String)) (points : List (String × Loaded)) :
    discover enabled (entryPoints points) =
      match ((Finding.start enabled).addEach (candidates points)).wanted with
      | some (name :: names) => .error (.unknown (sortedNames (name :: names)))
      | _ => .ok ((Finding.start enabled).addEach (candidates points)).factories := by
  have hall : Finding.addAll (builtIns.foldl (fun (f : Finding) e => f.add e.1 e.2)
      { wanted := enabled.map fun names => names.map Text.lower }) (entryPoints points) =
      .ok ((Finding.start enabled).addEach (candidates points)) := by
    rw [addAll_entryPoints, Finding.addEach, Finding.addEach, candidates, List.foldl_append]
    rfl
  simp only [discover, hall, bind, Except.bind]
  rfl

theorem wanted_candidates (enabled : Option (List String)) (points : List (String × Loaded)) :
    ((Finding.start enabled).addEach (candidates points)).wanted = enabled.map fun names =>
      (names.map Text.lower).filter fun n => decide (n ∉ keys (candidates points)) := by
  have apart : (Finding.start enabled).Apart := fun _ _ _ _ => rfl
  rw [apart.wanted_addEach_eq]
  cases enabled <;> rfl

theorem mem_sortedNames {names : List String} : name ∈ sortedNames names ↔ name ∈ names := by
  rw [sortedNames, List.mem_mergeSort, List.mem_eraseDups]

theorem nodup_eraseDups (names : List String) : names.eraseDups.Nodup := by
  cases names with
  | nil => simp
  | cons name names =>
    rw [List.eraseDups_cons, List.nodup_cons]
    exact ⟨by simp [List.mem_eraseDups], nodup_eraseDups _⟩
termination_by names.length
decreasing_by
  have hle := List.length_filter_le (fun b => !b == name) names
  simp only [List.length_cons]
  omega

/-- Names are told in order of code points, each once. -/
theorem pairwise_sortedNames (names : List String) : (sortedNames names).Pairwise (· < ·) := by
  have sorted : (sortedNames names).Pairwise (· ≤ ·) := by
    refine (List.pairwise_mergeSort (fun a b c hab hbc => ?_) (fun a b => ?_) _).imp
      of_decide_eq_true
    · exact decide_eq_true (String.le_trans (of_decide_eq_true hab) (of_decide_eq_true hbc))
    · simpa using String.le_total a b
  have nodup : (sortedNames names).Nodup :=
    (List.mergeSort_perm _ _).nodup_iff.2 (nodup_eraseDups names)
  refine (sorted.and nodup).imp fun {a b} h => String.not_le.1 fun hba => ?_
  exact h.2 (String.le_antisymm h.1 hba)

theorem mem_wanted_iff {names : List String}
    (hw : ((Finding.start enabled).addEach (candidates points)).wanted = some names) :
    name ∈ names ↔ Unmatched enabled points name := by
  obtain ⟨given, rfl, rfl⟩ := Option.map_eq_some_iff.1 ((wanted_candidates _ _).symm.trans hw)
  simp [Unmatched]

/-- If each enabled name is that of a candidate, discovery succeeds. -/
theorem discover_eq_ok (h : ∀ name, ¬Unmatched enabled points name) :
    discover enabled (entryPoints points) =
      .ok ((Finding.start enabled).addEach (candidates points)).factories := by
  rw [discover_entryPoints]
  split
  · next name names hw => exact absurd ((mem_wanted_iff hw).1 List.mem_cons_self) (h name)
  · rfl

/-- If an enabled name is that of no candidate, discovery fails and tells all such names. -/
theorem exists_discover_eq_error (h : Unmatched enabled points name) :
    ∃ names, discover enabled (entryPoints points) = .error (.unknown (sortedNames names)) ∧
      ∀ other, other ∈ names ↔ Unmatched enabled points other := by
  obtain ⟨given, rfl, -⟩ := id h
  have hw := wanted_candidates (some given) points
  obtain ⟨first, rest, hleft⟩ :=
    List.exists_cons_of_ne_nil (List.ne_nil_of_mem ((mem_wanted_iff hw).2 h))
  have hwanted := hw.trans (congrArg some hleft)
  exact ⟨_, by rw [discover_entryPoints, hwanted], fun other => mem_wanted_iff hwanted⟩

/-- Under an enabled name stands the first candidate with it. -/
theorem get?_start_addEach {es : List (String × Factory)} {candidate : String × Factory}
    (he : Enables enabled name)
    (hfirst : es.find? (fun e => Text.lower e.1 == name) = some candidate) :
    ((Finding.start enabled).addEach es).factories.get? name = some candidate.2 :=
  (seeks_start_iff.2 he).get?_addEach hfirst

/-- Whatever is enabled and whatever entry points load: either each enabled name is that of a
candidate, and what is found has the enabled names of candidates in the order in which they first
come up, under each the first candidate with that name, which makes what its own entry point makes;
or exactly the enabled names of no candidate are told, in order and each once. -/
theorem discover_takes_firsts (enabled : Option (List String)) (points : List (String × Loaded)) :
    (∃ table, discover enabled (entryPoints points) = .ok table ∧
      (∀ name, ¬Unmatched enabled points name) ∧
      table.names =
        ((keys (candidates points)).filter fun n => decide (Enables enabled n)).eraseDups ∧
      ∀ name ∈ table.names, ∃ candidate,
        (candidates points).find? (fun c => Text.lower c.1 == name) = some candidate ∧
        table.get? name = some candidate.2 ∧
        ∀ options, Free options → candidate.2.make options = candidate.2.call options) ∨
    ∃ names, discover enabled (entryPoints points) = .error (.unknown names) ∧
      names ≠ [] ∧ (∀ name, name ∈ names ↔ Unmatched enabled points name) ∧
      names.Pairwise (· < ·) ∧ (DiscoveryError.unknown names).toFault =
        .other .value ("Unknown providers requested: " ++ ", ".intercalate names) := by
  by_cases h : ∃ name, Unmatched enabled points name
  · obtain ⟨name, hname⟩ := h
    obtain ⟨names, herror, hmem⟩ := exists_discover_eq_error hname
    have hsorted : ∀ other, other ∈ sortedNames names ↔ Unmatched enabled points other :=
      fun other => mem_sortedNames.trans (hmem other)
    refine .inr ⟨_, herror, ?_, hsorted, pairwise_sortedNames names, rfl⟩
    exact List.ne_nil_of_mem ((hsorted name).2 hname)
  · have hnone : ∀ name, ¬Unmatched enabled points name := fun name hname => h ⟨name, hname⟩
    refine .inl ⟨_, discover_eq_ok hnone, hnone, names_start_addEach _ _, fun name hname => ?_⟩
    rw [names_start_addEach, List.mem_eraseDups, List.mem_filter] at hname
    obtain ⟨candidate, hfirst⟩ := Finding.exists_first_of_mem_keys hname.1
    have hget := get?_start_addEach (of_decide_eq_true hname.2) hfirst
    exact ⟨candidate, hfirst, hget, fun options hfree => Factory.make_of_free hfree _⟩

end TypeReach.Discovery
