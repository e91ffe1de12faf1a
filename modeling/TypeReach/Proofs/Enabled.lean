import TypeReach.Discovery

/-!
# Enabled providers

If all entry points load and every enabled name is that of a provider, discovery succeeds, and what
it finds under the name of an enabled provider that is built in is that provider.
-/

namespace TypeReach.Discovery

namespace Finding

variable {f : Finding} {name other : String} {factory : Factory}

/-- A name is to be found: it is not taken, and wanted. -/
def Seeks (f : Finding) (name : String) : Prop :=
  f.factories.get? name = none ∧ ∀ names, f.wanted = some names → name ∈ names

/-- No name that is taken is still wanted. -/
def Apart (f : Finding) : Prop :=
  ∀ names, f.wanted = some names → ∀ name ∈ names, f.factories.get? name = none

/-- A name that comes up is passed over if it is taken or not wanted. Otherwise it is taken and
wanted no more. -/
theorem add_cases (f : Finding) (name : String) (factory : Factory) :
    f.add name factory = f ∧ ¬f.Seeks (Text.lower name) ∨
      f.Seeks (Text.lower name) ∧ f.add name factory =
        { factories := f.factories.put (Text.lower name) factory
          wanted := f.wanted.map fun names => names.filter (· != Text.lower name) } := by
  cases hget : f.factories.get? (Text.lower name) with
  | some taken =>
    have hc : f.factories.contains (Text.lower name) = true := by simp [Table.contains, hget]
    refine .inl ⟨?_, fun h => by simp [h.1] at hget⟩
    unfold add
    split <;> simp [hc]
  | none =>
    have hc : f.factories.contains (Text.lower name) = false := by simp [Table.contains, hget]
    cases hw : f.wanted with
    | none => exact .inr ⟨⟨hget, by simp [hw]⟩, by simp [add, hw, hc]⟩
    | some names =>
      by_cases hn : Text.lower name ∈ names
      · exact .inr ⟨⟨hget, by simpa [hw] using hn⟩, by simp [add, hw, hc, hn]⟩
      · exact .inl ⟨by simp [add, hw, hn], fun h => hn (h.2 names hw)⟩

/-- What is taken stays. -/
theorem get?_add {taken : Factory} (h : f.factories.get? other = some taken) :
    (f.add name factory).factories.get? other = some taken := by
  rcases add_cases f name factory with ⟨hadd, -⟩ | ⟨hs, hadd⟩
  · rwa [hadd]
  · have hne : other ≠ Text.lower name := by
      rintro rfl
      cases h.symm.trans hs.1
    simp [hadd, hne, h]

/-- A name that is sought is taken by the first factory with it. -/
theorem Seeks.add (h : f.Seeks other) (name : String) (factory : Factory) :
    (f.add name factory).Seeks other ∧ Text.lower name ≠ other ∨
      Text.lower name = other ∧ (f.add name factory).factories.get? other = some factory := by
  by_cases hname : Text.lower name = other
  · subst hname
    rcases add_cases f name factory with ⟨-, hs⟩ | ⟨-, hadd⟩
    · exact absurd h hs
    · exact .inr ⟨rfl, by simp [hadd]⟩
  · refine .inl ⟨?_, hname⟩
    rcases add_cases f name factory with ⟨hadd, -⟩ | ⟨-, hadd⟩
    · rwa [hadd]
    · rw [hadd]
      refine ⟨by simp [Ne.symm hname, h.1], fun names hw => ?_⟩
      obtain ⟨names', hw', rfl⟩ := Option.map_eq_some_iff.1 hw
      simpa [Ne.symm hname] using h.2 names' hw'

theorem Apart.add (h : f.Apart) : (f.add name factory).Apart := by
  rcases add_cases f name factory with ⟨hadd, -⟩ | ⟨-, hadd⟩
  · rwa [hadd]
  · rw [hadd]
    intro names hw n hn
    obtain ⟨names', hw', rfl⟩ := Option.map_eq_some_iff.1 hw
    obtain ⟨hn', hne⟩ := List.mem_filter.1 hn
    have hne' : n ≠ Text.lower name := by simpa using hne
    simpa [hne'] using h names' hw' n hn'

/-- A name is wanted as long as it does not come up. -/
theorem Apart.wanted_add (h : f.Apart) {names : List String}
    (hw : (f.add name factory).wanted = some names) :
    ∃ names', f.wanted = some names' ∧ ∀ n ∈ names, n ∈ names' ∧ n ≠ Text.lower name := by
  rcases add_cases f name factory with ⟨hadd, hs⟩ | ⟨-, hadd⟩
  · rw [hadd] at hw
    refine ⟨names, hw, fun n hn => ⟨hn, ?_⟩⟩
    rintro rfl
    refine hs ⟨h names hw _ hn, fun names' hw' => ?_⟩
    cases hw'.symm.trans hw
    exact hn
  · rw [hadd] at hw
    obtain ⟨names', hw', rfl⟩ := Option.map_eq_some_iff.1 hw
    exact ⟨names', hw', fun n hn => by simpa using hn⟩

/-- Takes several factories in. -/
def addEach (f : Finding) (es : List (String × Factory)) : Finding :=
  es.foldl (fun f e => f.add e.1 e.2) f

theorem get?_addEach {taken : Factory} (es : List (String × Factory))
    (h : f.factories.get? other = some taken) :
    (f.addEach es).factories.get? other = some taken := by
  induction es generalizing f with
  | nil => exact h
  | cons e es ih => exact ih (get?_add h)

/-- Of the factories with a name that is sought, the first one takes it. -/
theorem Seeks.get?_addEach (h : f.Seeks name) {es : List (String × Factory)} {taken : Factory}
    (hfirst : es.find? (fun e => Text.lower e.1 == name) = some (other, taken)) :
    (f.addEach es).factories.get? name = some taken := by
  induction es generalizing f with
  | nil => cases hfirst
  | cons e es ih =>
    rw [List.find?_cons] at hfirst
    rcases h.add e.1 e.2 with ⟨hs, hne⟩ | ⟨hname, htaken⟩
    · rw [beq_eq_false_iff_ne.2 hne] at hfirst
      exact ih hs hfirst
    · rw [beq_iff_eq.2 hname] at hfirst
      cases hfirst
      exact Finding.get?_addEach es htaken

/-- What is still wanted at last was so from the start, and never came up. -/
theorem Apart.wanted_addEach (h : f.Apart) {es : List (String × Factory)} {names : List String}
    (hw : (f.addEach es).wanted = some names) :
    ∃ names', f.wanted = some names' ∧
      ∀ n ∈ names, n ∈ names' ∧ n ∉ es.map fun e => Text.lower e.1 := by
  induction es generalizing f with
  | nil => exact ⟨names, hw, fun n hn => ⟨hn, by simp⟩⟩
  | cons e es ih =>
    obtain ⟨names₁, hw₁, h₁⟩ := ih h.add hw
    obtain ⟨names₂, hw₂, h₂⟩ := h.wanted_add hw₁
    refine ⟨names₂, hw₂, fun n hn => ?_⟩
    obtain ⟨hn₁, hes⟩ := h₁ n hn
    obtain ⟨hn₂, hne⟩ := h₂ n hn₁
    exact ⟨hn₂, List.not_mem_cons_of_ne_of_not_mem hne hes⟩

/-- Entry points that load are taken in one by one. -/
theorem addAll_of_loaded {entries : List EntryPoint}
    (h : ∀ entry ∈ entries, ∃ loaded, entry.loaded = .ok loaded) : ∃ es : List (String × Factory),
      es.map Prod.fst = entries.map EntryPoint.name ∧ f.addAll entries = .ok (f.addEach es) := by
  induction entries generalizing f with
  | nil => exact ⟨[], rfl, rfl⟩
  | cons entry entries ih =>
    obtain ⟨loaded, hloaded⟩ := h entry (by simp)
    obtain ⟨es, hnames, hadd⟩ := ih (f := f.add entry.name (.entryPoint loaded))
      fun entry' h' => h entry' (List.mem_cons_of_mem _ h')
    refine ⟨(entry.name, .entryPoint loaded) :: es, by simp [hnames], ?_⟩
    rw [addAll, hloaded]
    exact hadd

end Finding

/-- A provider is known by a name: it is built in or that of an entry point. -/
def Known (entries : List EntryPoint) (name : String) : Prop :=
  Text.lower name ∈ builtIns.map Prod.fst ∨
    ∃ entry ∈ entries, Text.lower entry.name = Text.lower name

/-- A name is enabled, in any letter case. Without a list all names are. -/
def Enables (enabled : Option (List String)) (name : String) : Prop :=
  ∀ names, enabled = some names → name ∈ names.map Text.lower

/-- The finding that starts with the enabled names. -/
def Finding.start (enabled : Option (List String)) : Finding :=
  { wanted := enabled.map fun names => names.map Text.lower }

variable {enabled : Option (List String)} {entries : List EntryPoint} {name : String}
  {factory : Factory}

/-- The factories found are those that are built in, and then those of the entry points. -/
theorem discover_of_known (hl : ∀ entry ∈ entries, ∃ loaded, entry.loaded = .ok loaded)
    (hk : ∀ names, enabled = some names → ∀ n ∈ names, Known entries n) :
    ∃ es, discover enabled entries =
      .ok ((Finding.start enabled).addEach (builtIns ++ es)).factories := by
  have small : ∀ e ∈ builtIns, Text.lower e.1 = e.1 := by decide +kernel
  have apart : (Finding.start enabled).Apart := fun _ _ _ _ => rfl
  obtain ⟨es, hnames, hall⟩ :=
    Finding.addAll_of_loaded (f := (Finding.start enabled).addEach builtIns) hl
  rw [Finding.addEach, Finding.addEach, ← List.foldl_append] at hall
  have nothing : ∀ names, ((Finding.start enabled).addEach (builtIns ++ es)).wanted = some names →
      names = [] := by
    intro names hw
    obtain ⟨names', hw', h⟩ := apart.wanted_addEach hw
    obtain ⟨given, hgiven, rfl⟩ := Option.map_eq_some_iff.1 hw'
    refine List.eq_nil_iff_forall_not_mem.2 fun n hn => ?_
    obtain ⟨hn', hnot⟩ := h n hn
    obtain ⟨n', hmem, rfl⟩ := List.mem_map.1 hn'
    -- A known name has come up, so it cannot be wanted still.
    refine hnot (List.mem_map.2 ?_)
    obtain hbuilt | ⟨entry, hentry, hlower⟩ := hk given hgiven n' hmem
    · obtain ⟨e, he, hname⟩ := List.mem_map.1 hbuilt
      exact ⟨e, List.mem_append_left _ he, by rw [small e he, hname]⟩
    · have hin : entry.name ∈ es.map Prod.fst := hnames ▸ List.mem_map.2 ⟨entry, hentry, rfl⟩
      obtain ⟨e, he, hname⟩ := List.mem_map.1 hin
      exact ⟨e, List.mem_append_right _ he, by rw [hname, hlower]⟩
  refine ⟨es, ?_⟩
  have hfound : Finding.addAll (builtIns.foldl (fun (f : Finding) e => f.add e.1 e.2)
      { wanted := enabled.map fun names => names.map Text.lower }) entries =
      .ok ((Finding.start enabled).addEach (builtIns ++ es)) := hall
  simp only [discover, hfound, bind, Except.bind]
  cases hw : ((Finding.start enabled).addEach (builtIns ++ es)).wanted with
  | none => rfl
  | some names =>
    rw [nothing names hw]
    rfl

/-- A provider that is built in and enabled is found. -/
theorem discover_builtIn (hl : ∀ entry ∈ entries, ∃ loaded, entry.loaded = .ok loaded)
    (hk : ∀ names, enabled = some names → ∀ n ∈ names, Known entries n)
    (hb : (name, factory) ∈ builtIns) (he : Enables enabled name) :
    ∃ table, discover enabled entries = .ok table ∧ table.get? name = some factory := by
  have first : builtIns.find? (fun e => Text.lower e.1 == name) = some (name, factory) := by
    simp only [builtIns, List.mem_cons, List.not_mem_nil, or_false, Prod.mk.injEq] at hb
    obtain ⟨rfl, rfl⟩ | ⟨rfl, rfl⟩ := hb <;> rfl
  have seeks : (Finding.start enabled).Seeks name := by
    refine ⟨rfl, fun names hw => ?_⟩
    obtain ⟨names', hw', rfl⟩ := Option.map_eq_some_iff.1 hw
    exact he names' hw'
  obtain ⟨es, hfound⟩ := discover_of_known hl hk
  exact ⟨_, hfound, seeks.get?_addEach (by rw [List.find?_append, first]; rfl)⟩

/-- A provider that is built in is made if it is enabled and takes the option. -/
theorem create_builtIn {c : ProviderClass} {option : String} {v : Value} {made : Made}
    (hl : ∀ entry ∈ entries, ∃ loaded, entry.loaded = .ok loaded)
    (hk : ∀ names, enabled = some names → ∀ n ∈ names, Known entries n)
    (hb : (name, .builtIn c) ∈ builtIns) (he : Enables enabled name)
    (hoption : option ∉ ["name", "enabled"]) (hmade : c.make [(option, v)] = .ok made) :
    create name enabled entries [(option, v)] = .ok made := by
  obtain ⟨table, hfound, hget⟩ := discover_builtIn hl hk hb he
  have hlower : Text.lower name = name := by
    simp only [builtIns, List.mem_cons, List.not_mem_nil, or_false, Prod.mk.injEq] at hb
    obtain ⟨rfl, -⟩ | ⟨rfl, -⟩ := hb <;> rfl
  have hfree : ["name", "enabled"].find? (fun p => [(option, v)].any (·.1 == p)) = none := by
    refine List.find?_eq_none.2 fun p hp => ?_
    have hne : option ≠ p := fun h => hoption (h ▸ hp)
    simp [hne]
  simp only [create, hfree, hfound, hlower, bind, Except.bind, hget]
  exact hmade

end TypeReach.Discovery
