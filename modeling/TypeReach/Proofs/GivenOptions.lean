import TypeReach.Proofs.FirstWins

/-!
# Options given to providers

A provider is made by what the selected entry point loads, called with the options that are given.
The factory that stands between them has a name of its own for what the entry point loads, so this
holds exactly of options that do not have that name.
-/

namespace TypeReach.Discovery

variable {enabled : Option (List String)} {points : List (String × Loaded)} {name : String}
  {loaded : Loaded} {c : ProviderClass} {options : Options}

/-- What an entry point loads is selected by a name: each enabled name is that of a candidate, the
name is enabled, and the entry point is the first candidate with it. -/
structure Selects (enabled : Option (List String)) (points : List (String × Loaded)) (name : String)
    (loaded : Loaded) : Prop where
  matched : ∀ other, ¬Unmatched enabled points other
  enables : Enables enabled (Text.lower name)
  first : ∃ entryName, (candidates points).find? (fun e => Text.lower e.1 == Text.lower name) =
    some (entryName, .entryPoint loaded)

/-- Options without the names of the two other parameters. -/
def Admissible (options : Options) : Prop := ∀ o ∈ options, o.1 ≠ "name" ∧ o.1 ≠ "enabled"

/-- A provider is made as the class makes it of exactly the options that are given. -/
def HandsOver (enabled : Option (List String)) (points : List (String × Loaded)) (name : String)
    (c : ProviderClass) (options : Options) : Prop :=
  create name enabled (entryPoints points) options = c.make options

/-- The provider is made by the factory of the selected entry point. -/
theorem Selects.create_eq (h : Selects enabled points name loaded) (ho : Admissible options) :
    create name enabled (entryPoints points) options =
      (Factory.entryPoint loaded).make options := by
  obtain ⟨entryName, hfirst⟩ := h.first
  have hget := get?_start_addEach h.enables hfirst
  have hfree : ["name", "enabled"].find? (fun p => options.any (·.1 == p)) = none := by
    refine List.find?_eq_none.2 fun p hp hany => ?_
    obtain ⟨o, hmem, hname⟩ := List.any_eq_true.1 hany
    obtain ⟨hne, hne'⟩ := ho o hmem
    rw [beq_iff_eq] at hname
    simp only [List.mem_cons, List.not_mem_nil, or_false] at hp
    exact hp.elim (fun h => hne (hname.trans h)) fun h => hne' (hname.trans h)
  simp only [create, hfree, discover_eq_ok h.matched, bind, Except.bind, hget]

/-- A class of providers refuses options, but it never makes something else. -/
theorem ProviderClass.make_ne_notProvider (c : ProviderClass) (options : Options) :
    c.make options ≠ .error .notProvider := by
  unfold ProviderClass.make
  repeat' split
  all_goals simp

/-- A class from outside makes a provider with exactly the options that are given. -/
theorem ProviderClass.make_plugin {className providerName : String}
    (h : ∀ o ∈ options, o.1 ≠ ownName) :
    (plugin className providerName).make options = .ok ⟨plugin className providerName, options⟩ := by
  have accepted : options.findSome? (fun o => (plugin className providerName).refusal? o.1) = none := by
    refine List.findSome?_eq_none_iff.2 fun o ho => ?_
    simp [refusal?, h o ho, option?]
  simp [make, accepted]

/-- A provider of a selected entry point that loads a class, or a function that makes providers of
the class, is made of exactly the options that are given, whatever their names, if and only if none
has the name that the factory keeps for itself. -/
theorem create_handsOver_iff (h : Selects enabled points name loaded)
    (hl : loaded = .providerClass c ∨ loaded = .factory c) (ho : Admissible options) :
    HandsOver enabled points name c options ↔ Free options := by
  have made : loaded.make options = c.make options := by
    obtain rfl | rfl := hl <;> rfl
  unfold HandsOver
  rw [h.create_eq ho]
  constructor
  · intro heq o hmem hname
    have taken : options.any (·.1 == "obj") = true :=
      List.any_eq_true.2 ⟨o, hmem, beq_iff_eq.2 hname⟩
    simp only [Factory.make, taken, if_true] at heq
    exact c.make_ne_notProvider options heq.symm
  · intro hfree
    rw [Factory.make_of_free hfree]
    exact made

/-- A class from outside. -/
private def outside : ProviderClass := .plugin "Plugin" "plugin"

/-- Entry points with names in several letter cases, some of which are taken before. -/
private def severalPoints : List (String × Loaded) :=
  [("Registry", .other), ("PLUG", .factory outside), ("plug", .otherFactory)]

private theorem selects_several :
    Selects (some ["Plug", "REGISTRY"]) severalPoints "pLug" (.factory outside) where
  matched := by
    rintro other ⟨names, hnames, hmem, hnot⟩
    cases hnames
    have known : ∀ n ∈ ["Plug", "REGISTRY"].map Text.lower,
        n ∈ Finding.keys (candidates severalPoints) := by decide
    exact hnot (known other hmem)
  enables := by decide
  first := ⟨"PLUG", by rfl⟩

/-- Options whose names come near those used on the way reach the function of the second entry
point. -/
theorem create_handsOver_iff_several :
    Selects (some ["Plug", "REGISTRY"]) severalPoints "pLug" (.factory outside) ∧
      Admissible [("Name", .int 1), ("object", .null)] ∧
      create "pLug" (some ["Plug", "REGISTRY"]) (entryPoints severalPoints)
        [("Name", .int 1), ("object", .null)] =
        .ok ⟨outside, [("Name", .int 1), ("object", .null)]⟩ := by
  have ho : Admissible [("Name", .int 1), ("object", .null)] := by simp [Admissible]
  have hfree : Free [("Name", .int 1), ("object", .null)] := by simp [Free]
  have handed := (create_handsOver_iff selects_several (.inr rfl) ho).2 hfree
  exact ⟨selects_several, ho, handed.trans (ProviderClass.make_plugin (by simp [ownName]))⟩

/-- The option `obj` does not reach the function: it stands in for it, and nothing is made. -/
theorem not_handsOver_obj :
    ¬∀ (enabled : Option (List String)) (points : List (String × Loaded)) (name : String)
      (c : ProviderClass) (options : Options), Selects enabled points name (.factory c) →
      Admissible options → HandsOver enabled points name c options := by
  intro h
  have handed := h _ _ _ _ [("obj", .int 1)] selects_several (by simp [Admissible])
  have nothing : create "pLug" (some ["Plug", "REGISTRY"]) (entryPoints severalPoints)
      [("obj", .int 1)] = .error .notProvider :=
    selects_several.create_eq (by simp [Admissible])
  exact outside.make_ne_notProvider _ (handed.symm.trans nothing)

end TypeReach.Discovery
