import TypeReach.Classes.Inspector
import TypeReach.Proofs.ExactClosure
import TypeReach.Proofs.Mentions

/-!
# Closures of described classes

What a class that is looked into contributes to a closure, said without the order in which a walk
asks for it: the classes that its signatures, fields and bases mention, and those of the annotations
at them, at itself and at its module. A walk that succeeds marks the least set that has its root
and, with each class, what the class contributes.
-/

namespace TypeReach

namespace Classes

namespace Evaluation

variable {β γ ε : Type}

theorem ofExcept_eq_ok {r : Except Fault β} {b : β} {kept kept' : Settled} :
    ofExcept r kept = .ok b kept' ↔ r = .ok b ∧ kept' = kept := by
  cases r <;> simp [ofExcept, eq_comm]

theorem exists_of_bind_eq_ok {r : Evaluation β} {f : β → Evaluation γ} {c : γ}
    {kept kept' : Settled} (h : (r >>= f) kept = .ok c kept') :
    ∃ b between, r kept = .ok b between ∧ f b between = .ok c kept' := by
  simp only [Bind.bind, EStateM.bind] at h
  split at h
  · next b between hr => exact ⟨b, between, hr, h⟩
  · cases h

theorem answer_eq_ok {r : Evaluation β} {b : β} {kept : Settled} :
    r.answer kept = .ok b ↔ ∃ kept', r kept = .ok b kept' := by
  unfold Lookup.answer
  cases r kept <;> simp

theorem exists_of_mem_mapM {f : β → Evaluation γ} {bs : List β} {cs : List γ} {c : γ}
    {kept kept' : Settled} (h : bs.mapM f kept = .ok cs kept') (hc : c ∈ cs) :
    ∃ b ∈ bs, ∃ before after, f b before = .ok c after := by
  induction bs generalizing kept cs with
  | nil =>
    cases h
    simp at hc
  | cons b bs ih =>
    rw [List.mapM_cons] at h
    obtain ⟨x, between, hb, h⟩ := exists_of_bind_eq_ok h
    obtain ⟨xs, _, hbs, h⟩ := exists_of_bind_eq_ok h
    cases h
    rcases List.mem_cons.1 hc with rfl | hc
    · exact ⟨b, by simp, kept, between, hb⟩
    · obtain ⟨y, hy, hf⟩ := ih hbs hc
      exact ⟨y, List.mem_cons_of_mem b hy, hf⟩

/-- Evaluations in order that are read one by one: if all succeed, they can be done in order first
and then be read in order. -/
theorem exists_of_mapM_eq_ok {f : β → Evaluation γ} {g : γ → Except Fault ε} {fg : β → Evaluation ε}
    (hfg : ∀ b, fg b = do ofExcept (g (← f b))) {bs : List β} {es : List ε}
    {kept kept' : Settled} (h : bs.mapM fg kept = .ok es kept') :
    ∃ cs, bs.mapM f kept = .ok cs kept' ∧ cs.mapM g = .ok es := by
  induction bs generalizing kept es with
  | nil =>
    cases h
    exact ⟨[], rfl, rfl⟩
  | cons b bs ih =>
    rw [List.mapM_cons] at h ⊢
    obtain ⟨e, between, hb, h⟩ := exists_of_bind_eq_ok h
    rw [hfg] at hb
    obtain ⟨c, _, hc, hb⟩ := exists_of_bind_eq_ok hb
    obtain ⟨hg, rfl⟩ := ofExcept_eq_ok.1 hb
    obtain ⟨es', _, hbs, h⟩ := exists_of_bind_eq_ok h
    cases h
    obtain ⟨cs, hcs, hgs⟩ := ih hbs
    refine ⟨c :: cs, ?_, ?_⟩
    · simp [Bind.bind, EStateM.bind, Pure.pure, EStateM.pure, hc, hcs]
    · rw [List.mapM_cons, hg, hgs]
      rfl

end Evaluation

/-- A module is another or lies in it. -/
def LiesIn (module other : String) : Prop :=
  module = other ∨ ∃ rest, module = other ++ "." ++ rest

namespace Inspector

variable (i : Inspector)

/-- A declared class is looked into: its module is not standard, and is none of the ignored ones and
lies in none of them. -/
def LooksInto (c : ClassId) (info : ClassInfo) : Prop :=
  i.world.info? c = some info ∧ ∃ module, i.judgedModule c = .ok module ∧
    Standard.isStandard module = false ∧
    ∀ ignored ∈ i.ignored, ∃ other, ignored = some other ∧ ¬LiesIn module other

/-- The functions of a class but its constructor, each with its evaluated hints. What formulas stood
for in the hints of one they stand for in those of the next. -/
def signatures (c : ClassId) (info : ClassInfo) :
    Evaluation (List (String × Function × List (String × Object))) :=
  (methodFunctions c info).mapM fun m => do return (m.1, m.2, ← i.evaluatedHints m.2)

/-- A class itself has a function that is not its constructor, with the given evaluated hints. -/
def HasMethod (c : ClassId) (info : ClassInfo) (f : Function) (hints : List (String × Object)) :
    Prop :=
  ∃ name a found, name ≠ "__init__" ∧ info.attributes.get? name = some a ∧ a.function? = some f ∧
    (i.signatures c info).answer [] = .ok found ∧ (name, f, hints) ∈ found

/-- A class itself has a constructor with the given evaluated hints, and its records are not made of
fields. -/
def HasConstructor (info : ClassInfo) (f : Function) (hints : List (String × Object)) : Prop :=
  holdsRecordFields info = false ∧
    (∃ a, info.attributes.get? "__init__" = some a ∧ a.function? = some f) ∧
    (i.evaluatedHints f).answer [] = .ok hints

/-- A class itself declares a field with the given evaluated hint. -/
def HasField (c : ClassId) (info : ClassInfo) (hint : Object) : Prop :=
  ∃ own hints name, i.ownHints c info = .ok own ∧
    (i.world.evaluateAll (i.fieldScope c) own).answer [] = .ok hints ∧ (name, hint) ∈ hints

/-- What the hint of a parameter or a field contributes: what it mentions, and the classes of its
outermost annotations. -/
inductive FromSlot (module : Option String) (hint : Object) : Descriptor → Prop
  | mentioned {d} : i.world.Mentions module hint d → FromSlot module hint d
  | attached {inner annotations a} : hint = .annotated inner annotations → a ∈ annotations →
      FromSlot module hint (.cls (i.world.classOf a))

/-- What a function contributes apart from what it returns. -/
inductive FromCall (module : Option String) (f : Function) (hints : List (String × Object)) :
    Descriptor → Prop
  | parameter {p hint d} : p ∈ f.takes → hintFor? hints p.name = some hint →
      i.FromSlot module hint d → FromCall module f hints d
  | raised {o hint d} : o ∈ i.world.raisedItems f.raises → i.world.force module o = .ok hint →
      i.world.Mentions module hint d → FromCall module f hints d

/-- The bases of a class: those that it holds as written, if it holds something for them that counts
as true, and else those that it has. -/
def HasBases (c : ClassId) (os : List Object) : Prop :=
  (∃ o, i.namespaceObject? c "__orig_bases__" = some o ∧ i.world.isTrue o = .ok true ∧
    i.world.objectsIn o = .ok os) ∨
  (∀ o, i.namespaceObject? c "__orig_bases__" = some o → i.world.isTrue o = .ok false) ∧
    os = (i.world.parents c).map ClassId.object

/-- What a class contributes to a closure, if its bases are those that `hasBases` says. -/
inductive ContributesWith (hasBases : ClassId → List Object → Prop) :
    Descriptor → Descriptor → Prop
  | result {c info f hints hint d} : i.LooksInto c info → i.HasMethod c info f hints →
      hintFor? hints "return" = some hint → i.world.Mentions (i.world.moduleOf c) hint d →
      ContributesWith hasBases (.cls c) d
  | method {c info f hints d} : i.LooksInto c info → i.HasMethod c info f hints →
      i.FromCall (i.world.moduleOf c) f hints d → ContributesWith hasBases (.cls c) d
  | constructor {c info f hints d} : i.LooksInto c info → i.HasConstructor info f hints →
      i.FromCall (i.world.moduleOf c) f hints d → ContributesWith hasBases (.cls c) d
  | field {c info hint d} : i.LooksInto c info → i.HasField c info hint →
      i.FromSlot (i.world.moduleOf c) hint d → ContributesWith hasBases (.cls c) d
  | base {c info os b d} : i.LooksInto c info → hasBases c os → b ∈ os →
      Universe.isSilentBase b = false → i.world.Mentions (i.world.moduleOf c) b d →
      ContributesWith hasBases (.cls c) d
  | attached {c info o os a} : i.LooksInto c info →
      i.namespaceObject? c "__metadata__" = some o → i.world.objectsIn o = .ok os → a ∈ os →
      ContributesWith hasBases (.cls c) (.cls (i.world.classOf a))
  | packaged {c info module o os a} : i.LooksInto c info → i.world.moduleOf c = some module →
      i.world.modules.contains module = true →
      i.world.readModule module "__metadata__" = .ok o → i.world.objectsIn o = .ok os → a ∈ os →
      ContributesWith hasBases (.cls c) (.cls (i.world.classOf a))

/-- What a class contributes to a closure. -/
abbrev Contributes : Descriptor → Descriptor → Prop :=
  i.ContributesWith i.HasBases

variable {i} {module : Option String} {d : Descriptor}

/-! ### Signatures -/

/-- The reference and the annotations that are split off a hint are what the hint contributes. -/
theorem fromSlot_iff {hint : Object} {s : TypeRef Descriptor × List Object}
    (h : i.world.split module hint = .ok s) : i.FromSlot module hint d ↔
      d ∈ s.1.targets ∨ ∃ a ∈ i.annotationUses s.2, d = a.descriptor := by
  obtain ⟨hreference, hannotations⟩ := Universe.split_spec h
  constructor
  · rintro (hd | ⟨hint, ha⟩)
    · exact .inl ((hreference d).2 hd)
    · exact .inr ⟨_, List.mem_map_of_mem ((hannotations _).2 ⟨_, _, hint, ha⟩), rfl⟩
  · rintro (hd | ⟨use, huse, rfl⟩)
    · exact .mentioned ((hreference d).1 hd)
    · obtain ⟨a, ha, rfl⟩ := List.mem_map.1 huse
      obtain ⟨inner, annotations, hint, ha⟩ := (hannotations a).1 ha
      exact .attached hint ha

theorem exists_fromSlot_iff {slot : Option Object} {s : TypeRef Descriptor × List Object}
    (h : i.world.splitSlot module slot = .ok s) :
    (∃ hint, slot = some hint ∧ i.FromSlot module hint d) ↔
      d ∈ s.1.targets ∨ ∃ a ∈ i.annotationUses s.2, d = a.descriptor := by
  cases slot with
  | none =>
    cases h
    simp [TypeRef.targets, annotationUses]
  | some hint => simp [fromSlot_iff (show i.world.split module hint = .ok s from h)]

theorem exists_mentions_iff {slot : Option Object} {s : TypeRef Descriptor × List Object}
    (h : i.world.splitSlot module slot = .ok s) :
    (∃ hint, slot = some hint ∧ i.world.Mentions module hint d) ↔ d ∈ s.1.targets := by
  cases slot with
  | none =>
    cases h
    simp [TypeRef.targets]
  | some hint => simp [(Universe.split_spec (show i.world.split module hint = .ok s from h)).1 d]

section

variable {f : Function} {hints : List (String × Object)}
  {ps : List (TypeRef Descriptor × List Object)} {rs : List (TypeRef Descriptor)}

theorem parameters_spec (h : i.parameters module f hints = .ok ps) :
    (∃ p ∈ f.takes, ∃ hint, hintFor? hints p.name = some hint ∧ i.FromSlot module hint d) ↔
      ∃ s ∈ ps, d ∈ s.1.targets ∨ ∃ a ∈ i.annotationUses s.2, d = a.descriptor := by
  constructor
  · rintro ⟨p, hmem, hd⟩
    obtain ⟨s, hs, hsplit⟩ := exists_mem_of_mapM h hmem
    exact ⟨s, hs, (exists_fromSlot_iff hsplit).1 hd⟩
  · rintro ⟨s, hs, hd⟩
    obtain ⟨p, hmem, hsplit⟩ := exists_of_mem_mapM h hs
    exact ⟨p, hmem, (exists_fromSlot_iff hsplit).2 hd⟩

theorem target_call_iff : Answers.Target (rs ++ ps.map Prod.fst)
    (ps.map fun s => i.annotationUses s.2).flatten d ↔ (∃ r ∈ rs, d ∈ r.targets) ∨
      ∃ s ∈ ps, d ∈ s.1.targets ∨ ∃ a ∈ i.annotationUses s.2, d = a.descriptor := by
  constructor
  · rintro (⟨r, hr, hd⟩ | ⟨a, ha, hd⟩)
    · rcases List.mem_append.1 hr with hr | hr
      · exact .inl ⟨r, hr, hd⟩
      · obtain ⟨s, hs, rfl⟩ := List.mem_map.1 hr
        exact .inr ⟨s, hs, .inl hd⟩
    · obtain ⟨_, huses, ha⟩ := List.mem_flatten.1 ha
      obtain ⟨s, hs, rfl⟩ := List.mem_map.1 huses
      exact .inr ⟨s, hs, .inr ⟨a, ha, hd⟩⟩
  · rintro (⟨r, hr, hd⟩ | ⟨s, hs, hd | ⟨a, ha, hd⟩⟩)
    · exact .inl ⟨r, List.mem_append_left _ hr, hd⟩
    · exact .inl ⟨s.1, List.mem_append_right _ (List.mem_map_of_mem hs), hd⟩
    · exact .inr ⟨a, List.mem_flatten.2 ⟨_, List.mem_map_of_mem hs, ha⟩, hd⟩

/-- The parameters of a function and what it raises, as they are read, are what it contributes apart
from what it returns. -/
theorem fromCall_iff (hp : i.parameters module f hints = .ok ps)
    (hr : i.world.raisedReferences module f.raises = .ok rs) : i.FromCall module f hints d ↔
      Answers.Target (rs ++ ps.map Prod.fst) (ps.map fun s => i.annotationUses s.2).flatten d := by
  rw [target_call_iff, ← parameters_spec hp, Universe.raisedReferences_spec hr]
  constructor
  · rintro (⟨hmem, hhint, hd⟩ | ⟨ho, hforce, hd⟩)
    · exact .inr ⟨_, hmem, _, hhint, hd⟩
    · exact .inl ⟨_, ho, _, hforce, hd⟩
  · rintro (⟨o, ho, hint, hforce, hd⟩ | ⟨p, hmem, hint, hhint, hd⟩)
    · exact .raised ho hforce hd
    · exact .parameter hmem hhint hd

theorem readMethod_spec {name : String} {m : Method Descriptor Object}
    (h : i.readMethod module name f hints = .ok m) : Answers.Target m.references m.uses d ↔
      (∃ hint, hintFor? hints "return" = some hint ∧ i.world.Mentions module hint d) ∨
        i.FromCall module f hints d := by
  obtain ⟨ps, hp, h⟩ := exists_of_bind_eq_ok h
  obtain ⟨s, hs, h⟩ := exists_of_bind_eq_ok h
  obtain ⟨rs, hr, h⟩ := exists_of_bind_eq_ok h
  cases h
  rw [fromCall_iff hp hr, exists_mentions_iff hs]
  simp [Answers.Target, Method.references, Method.uses, or_assoc]

theorem readConstructor_spec {c : ClassId} {made : Constructor Descriptor Object}
    (h : i.readConstructor c f hints = .ok made) :
    Answers.Target made.references made.uses d ↔ i.FromCall (i.world.moduleOf c) f hints d := by
  obtain ⟨ps, hp, h⟩ := exists_of_bind_eq_ok h
  obtain ⟨rs, hr, h⟩ := exists_of_bind_eq_ok h
  cases h
  exact (fromCall_iff hp hr).symm

theorem readField_spec {hint : String × Object} {made : Field Descriptor Object}
    (h : i.readField module hint = .ok made) :
    Answers.Target [made.type] made.annotations d ↔ i.FromSlot module hint.2 d := by
  obtain ⟨s, hs, h⟩ := exists_of_bind_eq_ok h
  cases h
  rw [fromSlot_iff hs]
  simp [Answers.Target]

end

/-! ### Classes that are looked into -/

theorem isPrefixOf_iff {p s : String} : p.isPrefixOf s = true ↔ ∃ rest, s = p ++ rest := by
  rw [String.isPrefixOf, String.startsWith_string_iff]
  constructor
  · rintro ⟨cs, hcs⟩
    exact ⟨String.ofList cs, String.toList_inj.1 (by simp [← hcs])⟩
  · rintro ⟨rest, rfl⟩
    exact ⟨rest.toList, by simp⟩

theorem isAmong_eq_false_iff {name : String} {others : List (Option String)} :
    isAmong name others = .ok false ↔
      ∀ o ∈ others, ∃ other, o = some other ∧ ¬LiesIn name other := by
  induction others with
  | nil => simp [isAmong]
  | cons o others ih =>
    cases o with
    | none => simp [isAmong]
    | some other =>
      have lies : (name == other || (other ++ ".").isPrefixOf name) = true ↔ LiesIn name other := by
        rw [Bool.or_eq_true, beq_iff_eq, LiesIn, isPrefixOf_iff]
      rw [isAmong]
      split
      · next h => simp [lies.1 h]
      · next h => simp [ih, mt lies.2 h]

theorem isInspectable_eq_true_iff {c : ClassId} : i.isInspectable (.cls c) = .ok true ↔
    ∃ module, i.judgedModule c = .ok module ∧ Standard.isStandard module = false ∧
      ∀ ignored ∈ i.ignored, ∃ other, ignored = some other ∧ ¬LiesIn module other := by
  simp only [← isAmong_eq_false_iff]
  constructor
  · intro h
    obtain ⟨module, hmodule, h⟩ := exists_of_bind_eq_ok h
    split at h
    · cases h
    · next hstandard =>
      obtain ⟨among, hamong, h⟩ := exists_of_bind_eq_ok h
      cases among with
      | false => exact ⟨module, hmodule, by simpa using hstandard, hamong⟩
      | true => cases h
  · rintro ⟨module, hmodule, hstandard, hamong⟩
    simp [isInspectable, hmodule, hstandard, hamong, Bind.bind, Except.bind, Pure.pure, Except.pure]

theorem LooksInto.unique {c : ClassId} {info info' : ClassInfo} (h : i.LooksInto c info)
    (h' : i.LooksInto c info') : info' = info :=
  Option.some.inj (h'.1.symm.trans h.1)

theorem inspected?_cases {c : ClassId} {o : Option (ClassId × ClassInfo)}
    (h : i.inspected? (.cls c) = .ok o) : (o = none ∧ ∀ info, ¬i.LooksInto c info) ∨
      ∃ info, o = some (c, info) ∧ i.LooksInto c info := by
  obtain ⟨inspectable, hi, h⟩ := exists_of_bind_eq_ok h
  have hlook := i.isInspectable_eq_true_iff (c := c)
  cases inspectable with
  | false =>
    cases h
    rw [hi] at hlook
    exact .inl ⟨rfl, fun info hl => by simpa using hlook.2 hl.2⟩
  | true =>
    cases h
    cases hinfo : i.world.info? c with
    | none => exact .inl ⟨rfl, fun info hl => by cases hinfo.symm.trans hl.1⟩
    | some info => exact .inr ⟨info, rfl, hinfo, hlook.1 hi⟩

/-- What is evaluated for a class comes from its declaration, if it is looked into. -/
theorem evaluation_cases {β : Type} {c : ClassId} {nothing b : β}
    {body : ClassId → ClassInfo → Evaluation β}
    (h : Lookup.answer (do
      match ← Evaluation.ofExcept (i.inspected? (.cls c)) with
      | none => return nothing
      | some (c, info) => body c info : Evaluation β) [] = .ok b) :
    (b = nothing ∧ ∀ info, ¬i.LooksInto c info) ∨
      ∃ info, i.LooksInto c info ∧ ∃ kept, body c info [] = .ok b kept := by
  obtain ⟨kept, h⟩ := Evaluation.answer_eq_ok.1 h
  obtain ⟨o, _, ho, h⟩ := Evaluation.exists_of_bind_eq_ok h
  obtain ⟨hinspected, rfl⟩ := Evaluation.ofExcept_eq_ok.1 ho
  rcases inspected?_cases hinspected with ⟨rfl, hnone⟩ | ⟨info, rfl, hlook⟩
  · cases h
    exact .inl ⟨rfl, hnone⟩
  · exact .inr ⟨info, hlook, kept, h⟩

theorem reading_cases {β : Type} {c : ClassId} {nothing b : β}
    {body : ClassId → ClassInfo → Except Fault β}
    (h : (do
      match ← i.inspected? (.cls c) with
      | none => return nothing
      | some (c, info) => body c info : Except Fault β) = .ok b) :
    (b = nothing ∧ ∀ info, ¬i.LooksInto c info) ∨
      ∃ info, i.LooksInto c info ∧ body c info = .ok b := by
  obtain ⟨o, ho, h⟩ := exists_of_bind_eq_ok h
  rcases inspected?_cases ho with ⟨rfl, hnone⟩ | ⟨info, rfl, hlook⟩
  · cases h
    exact .inl ⟨rfl, hnone⟩
  · exact .inr ⟨info, hlook, h⟩

/-! ### Members -/

section

variable {c : ClassId}

theorem mem_methodFunctions_iff {info : ClassInfo} {name : String} {f : Function} :
    (name, f) ∈ methodFunctions c info ↔ name ≠ "__init__" ∧
      ∃ a, info.attributes.get? name = some a ∧ a.function? = some f := by
  have entry : (name, f) ∈ (info.attributes.entries.filterMap fun e =>
      if e.1 == "__init__" then none else e.2.function?.map fun f => (e.1, f)) ↔
      name ≠ "__init__" ∧ ∃ a, info.attributes.get? name = some a ∧ a.function? = some f := by
    rw [List.mem_filterMap]
    constructor
    · rintro ⟨⟨name', a⟩, ha, he⟩
      split at he
      · cases he
      · next hne =>
        obtain ⟨f', hf, he⟩ := Option.map_eq_some_iff.1 he
        cases he
        exact ⟨by simpa using hne, a, Table.mem_entries_iff.1 ha, hf⟩
    · rintro ⟨hne, a, ha, hf⟩
      exact ⟨(name, a), Table.mem_entries_iff.2 ha, by simp [hne, hf]⟩
  rw [← entry]
  -- The two parts of the list are complementary, so its order does not matter here.
  simp only [methodFunctions, List.mem_append, List.mem_filter, ← and_or_left, Bool.not_eq_true']
  exact and_iff_left (Bool.eq_false_or_eq_true _)

theorem constructorFunction?_eq_some_iff {info : ClassInfo} {f : Function} :
    constructorFunction? info = some f ↔ holdsRecordFields info = false ∧
      ∃ a, info.attributes.get? "__init__" = some a ∧ a.function? = some f := by
  unfold constructorFunction?
  split <;> simp [Option.bind_eq_some_iff, *]

/-- The methods of a class are those of its functions with their evaluated hints. -/
theorem methods_spec {ms : List (Method Descriptor Object)}
    (h : (i.methods (.cls c)).answer [] = .ok ms) :
    (∃ m ∈ ms, Answers.Target m.references m.uses d) ↔ ∃ info, i.LooksInto c info ∧
      ∃ f hints, i.HasMethod c info f hints ∧
        ((∃ hint, hintFor? hints "return" = some hint ∧
          i.world.Mentions (i.world.moduleOf c) hint d) ∨
          i.FromCall (i.world.moduleOf c) f hints d) := by
  rcases evaluation_cases h with ⟨rfl, hnone⟩ | ⟨info, hlook, kept, h⟩
  · simp [hnone]
  · obtain ⟨found, hfound, hread⟩ := Evaluation.exists_of_mapM_eq_ok
      (f := fun m : String × Function => do return (m.1, m.2, ← i.evaluatedHints m.2))
      (g := fun s => i.readMethod (i.world.moduleOf c) s.1 s.2.1 s.2.2)
      (fun m => by simp [method]) h
    constructor
    · rintro ⟨m, hm, hd⟩
      obtain ⟨⟨name, f, hints⟩, hmem, hm⟩ := exists_of_mem_mapM hread hm
      obtain ⟨_, hb, _, _, heval⟩ := Evaluation.exists_of_mem_mapM hfound hmem
      obtain ⟨_, _, -, heval⟩ := Evaluation.exists_of_bind_eq_ok heval
      cases heval
      obtain ⟨hne, a, ha, hf⟩ := mem_methodFunctions_iff.1 hb
      exact ⟨info, hlook, _, hints, ⟨_, a, found, hne, ha, hf,
        Evaluation.answer_eq_ok.2 ⟨kept, hfound⟩, hmem⟩, (readMethod_spec hm).1 hd⟩
    · -- The hints are read off the same evaluation, so they are those that the method was read with.
      rintro ⟨info', hlook', f, hints, ⟨name, a, found', -, -, -, hfound', hmem⟩, hd⟩
      cases hlook.unique hlook'
      cases (Evaluation.answer_eq_ok.2 ⟨kept, hfound⟩).symm.trans hfound'
      obtain ⟨m, hm, hread⟩ := exists_mem_of_mapM hread hmem
      exact ⟨m, hm, (readMethod_spec hread).2 hd⟩

theorem constructors_spec {made : List (Constructor Descriptor Object)}
    (h : (i.constructors (.cls c)).answer [] = .ok made) :
    (∃ m ∈ made, Answers.Target m.references m.uses d) ↔ ∃ info, i.LooksInto c info ∧
      ∃ f hints, i.HasConstructor info f hints ∧ i.FromCall (i.world.moduleOf c) f hints d := by
  rcases evaluation_cases h with ⟨rfl, hnone⟩ | ⟨info, hlook, kept, h⟩
  · simp [hnone]
  · have hfunction (info' : ClassInfo) (hlook' : i.LooksInto c info') (f : Function)
        (hints : List (String × Object)) : i.HasConstructor info' f hints ↔
          constructorFunction? info = some f ∧ (i.evaluatedHints f).answer [] = .ok hints := by
      cases hlook.unique hlook'
      rw [HasConstructor, ← and_assoc, constructorFunction?_eq_some_iff]
    cases hf : constructorFunction? info with
    | none =>
      rw [hf] at h
      cases h
      simp +contextual [hfunction, hf]
    | some f =>
      rw [hf] at h
      obtain ⟨m, _, hm, h⟩ := Evaluation.exists_of_bind_eq_ok h
      cases h
      obtain ⟨hints, kept', hhints, hm⟩ := Evaluation.exists_of_bind_eq_ok hm
      obtain ⟨hm, -⟩ := Evaluation.ofExcept_eq_ok.1 hm
      have hhints := Evaluation.answer_eq_ok.2 ⟨kept', hhints⟩
      constructor
      · rintro ⟨m', hmem, hd⟩
        cases List.mem_singleton.1 hmem
        exact ⟨info, hlook, f, hints, (hfunction info hlook f hints).2 ⟨hf, hhints⟩,
          (readConstructor_spec hm).1 hd⟩
      · rintro ⟨info', hlook', f', hints', hmade, hd⟩
        obtain ⟨hf', hhints'⟩ := (hfunction info' hlook' f' hints').1 hmade
        cases hf.symm.trans hf'
        cases hhints.symm.trans hhints'
        exact ⟨m, List.mem_singleton_self m, (readConstructor_spec hm).2 hd⟩

theorem fields_spec {fs : List (Field Descriptor Object)}
    (h : (i.fields (.cls c)).answer [] = .ok fs) :
    (∃ f ∈ fs, Answers.Target [f.type] f.annotations d) ↔ ∃ info, i.LooksInto c info ∧
      ∃ hint, i.HasField c info hint ∧ i.FromSlot (i.world.moduleOf c) hint d := by
  rcases evaluation_cases h with ⟨rfl, hnone⟩ | ⟨info, hlook, kept, h⟩
  · simp [hnone]
  · obtain ⟨own, _, heval, h⟩ := Evaluation.exists_of_bind_eq_ok h
    obtain ⟨hown, rfl⟩ := Evaluation.ofExcept_eq_ok.1 heval
    obtain ⟨hints, kept', hhints, h⟩ := Evaluation.exists_of_bind_eq_ok h
    obtain ⟨hread, -⟩ := Evaluation.ofExcept_eq_ok.1 h
    constructor
    · rintro ⟨f, hf, hd⟩
      obtain ⟨⟨name, hint⟩, hmem, hf⟩ := exists_of_mem_mapM hread hf
      exact ⟨info, hlook, hint, ⟨own, hints, name, hown,
        Evaluation.answer_eq_ok.2 ⟨kept', hhints⟩, hmem⟩, (readField_spec hf).1 hd⟩
    · rintro ⟨info', hlook', hint, ⟨own', hints', name, hown', hhints', hmem⟩, hd⟩
      cases hlook.unique hlook'
      cases hown.symm.trans hown'
      cases (Evaluation.answer_eq_ok.2 ⟨kept', hhints⟩).symm.trans hhints'
      obtain ⟨f, hf, hread⟩ := exists_mem_of_mapM hread hmem
      exact ⟨f, hf, (readField_spec hread).2 hd⟩

theorem heldBases_eq_ok_iff {os : List Object} : i.heldBases c = .ok os ↔ i.HasBases c os := by
  unfold heldBases HasBases
  cases i.namespaceObject? c "__orig_bases__" with
  | none => simp [eq_comm]
  | some o =>
    cases htrue : i.world.isTrue o with
    | error fault => simp [htrue, Bind.bind, Except.bind]
    | ok isTrue =>
      cases isTrue <;> simp [htrue, Bind.bind, Except.bind, Pure.pure, Except.pure, eq_comm]

/-- The bases of a class are its supertype and its interfaces. -/
theorem bases_spec {r : TypeRef Descriptor} {rs : List (TypeRef Descriptor)}
    (hr : i.supertype (.cls c) = .ok r) (hrs : i.interfaces (.cls c) = .ok rs) :
    (d ∈ r.targets ∨ ∃ r ∈ rs, d ∈ r.targets) ↔ ∃ info, i.LooksInto c info ∧
      ∃ os, i.HasBases c os ∧ ∃ b ∈ os, Universe.isSilentBase b = false ∧
        i.world.Mentions (i.world.moduleOf c) b d := by
  obtain ⟨bases, hbases, hr⟩ := exists_of_bind_eq_ok hr
  obtain ⟨bases', hbases', hrs⟩ := exists_of_bind_eq_ok hrs
  cases hbases.symm.trans hbases'
  cases hr
  cases hrs
  have split : (d ∈ (bases.headD .absent).targets ∨ ∃ r ∈ bases.drop 1, d ∈ r.targets) ↔
      ∃ r ∈ bases, d ∈ r.targets := by
    cases bases <;> simp [TypeRef.targets]
  rw [split]
  rcases reading_cases hbases with ⟨rfl, hnone⟩ | ⟨info, hlook, h⟩
  · simp [hnone]
  · obtain ⟨os, hos, h⟩ := exists_of_bind_eq_ok h
    rw [Universe.baseReferences_spec h]
    constructor
    · exact fun hb => ⟨info, hlook, os, heldBases_eq_ok_iff.1 hos, hb⟩
    · rintro ⟨-, -, os', hos', hb⟩
      cases hos.symm.trans (heldBases_eq_ok_iff.2 hos')
      exact hb

theorem usesIn_spec {held : Option Object} {uses : List ClassAnnotationUse}
    (h : i.usesIn held = .ok uses) : (∃ use ∈ uses, d = use.descriptor) ↔
      ∃ o os, held = some o ∧ i.world.objectsIn o = .ok os ∧
        ∃ a ∈ os, d = .cls (i.world.classOf a) := by
  cases held with
  | none =>
    cases h
    simp
  | some o =>
    cases hos : i.world.objectsIn o with
    | error fault => simp [usesIn, hos] at h
    | ok os =>
      simp only [usesIn, hos, Except.map_ok, Except.ok.injEq] at h
      simp [← h, annotationUses, hos]

theorem present?_eq_ok {r : Except Fault Object} {held : Option Object}
    (h : present? r = .ok held) (o : Object) : held = some o ↔ r = .ok o := by
  unfold present? at h
  split at h
  · cases h
    simp [eq_comm]
  · cases h
    simp
  · cases h

theorem annotations_spec {uses : List ClassAnnotationUse}
    (h : i.annotations (.cls c) = .ok uses) : (∃ use ∈ uses, d = use.descriptor) ↔
      ∃ info, i.LooksInto c info ∧ ∃ o os, i.namespaceObject? c "__metadata__" = some o ∧
        i.world.objectsIn o = .ok os ∧ ∃ a ∈ os, d = .cls (i.world.classOf a) := by
  rcases reading_cases h with ⟨rfl, hnone⟩ | ⟨info, hlook, h⟩
  · simp [hnone]
  · rw [usesIn_spec h]
    exact ⟨fun ha => ⟨info, hlook, ha⟩, fun ⟨_, _, ha⟩ => ha⟩

theorem packageAnnotations_spec {own : Option (List ClassAnnotationUse)}
    (h : i.packageAnnotations (.cls c) = .ok own) :
    (∃ uses, own = some uses ∧ ∃ use ∈ uses, d = use.descriptor) ↔
      ∃ info, i.LooksInto c info ∧ ∃ module o os, i.world.moduleOf c = some module ∧
        i.world.modules.contains module = true ∧
        i.world.readModule module "__metadata__" = .ok o ∧ i.world.objectsIn o = .ok os ∧
        ∃ a ∈ os, d = .cls (i.world.classOf a) := by
  obtain ⟨found, hfound, h⟩ := exists_of_bind_eq_ok h
  rcases inspected?_cases hfound with ⟨rfl, hnone⟩ | ⟨info, rfl, hlook⟩
  · cases h
    simp [hnone]
  · cases hmodule : (i.world.moduleOf c).filter i.world.modules.contains with
    | none =>
      simp only [Option.bind_some, hmodule] at h
      cases h
      constructor
      · rintro ⟨_, hnone, -⟩
        cases hnone
      · rintro ⟨-, -, module, -, -, hm, hcontains, -⟩
        cases hmodule.symm.trans (Option.filter_eq_some_iff.2 ⟨hm, hcontains⟩)
    | some module =>
      simp only [Option.bind_some, hmodule] at h
      obtain ⟨hm, hcontains⟩ := Option.filter_eq_some_iff.1 hmodule
      obtain ⟨held, hheld, h⟩ := exists_of_bind_eq_ok h
      obtain ⟨uses, huses, h⟩ := exists_of_bind_eq_ok h
      cases h
      simp only [Option.some.injEq, exists_eq_left', usesIn_spec huses, present?_eq_ok hheld]
      constructor
      · rintro ⟨o, os, ho, hos, ha⟩
        exact ⟨info, hlook, module, o, os, hm, hcontains, ho, hos, ha⟩
      · rintro ⟨-, -, module', o, os, hm', -, ho, hos, ha⟩
        cases hm.symm.trans hm'
        exact ⟨o, os, ho, hos, ha⟩

end

/-! ### Closures -/

variable (i) in
/-- What an inspector answers, whatever is remembered. -/
def answers : Answers Descriptor Object Object where
  methods d := (i.methods d).answer []
  constructors d := (i.constructors d).answer []
  fields d := (i.fields d).answer []
  supertype := i.supertype
  interfaces := i.interfaces
  annotations := i.annotations
  packageAnnotations := i.packageAnnotations
  accessors a := i.accessors a.value
  invoke a accessor := i.invoke a.value accessor
  naming d := .ok (i.typeName d)

theorem gives_answer {β : Type} (r : Evaluation β) :
    (answer r).Gives (fun _ => True) (r.answer []) where
  answer_eq _ := by
    unfold Lookup.answer answer
    cases r [] <;> rfl
  after _ := trivial

theorem gives_answer_ofExcept {β : Type} (r : Except Fault β) :
    (answer (.ofExcept r)).Gives (fun _ => True) r := by
  have h := gives_answer (Evaluation.ofExcept r)
  cases r <;> exact h

variable (i) in
theorem gives_provider : i.provider.Gives (fun _ => True) i.answers where
  methods d := gives_answer (i.methods d)
  constructors d := gives_answer (i.constructors d)
  fields d := gives_answer (i.fields d)
  supertype d := gives_answer_ofExcept (i.supertype d)
  interfaces d := gives_answer_ofExcept (i.interfaces d)
  annotations d := gives_answer_ofExcept (i.annotations d)
  packageAnnotations d := gives_answer_ofExcept (i.packageAnnotations d)
  accessors a := gives_answer_ofExcept (i.accessors a.value)
  invoke a accessor := gives_answer_ofExcept (i.invoke a.value accessor)
  naming d := .pure (i.typeName d)

/-- What a class contributes, member by member. -/
theorem contributes_iff {c : ClassId} : i.Contributes (.cls c) d ↔
    (∃ info, i.LooksInto c info ∧ ∃ f hints, i.HasMethod c info f hints ∧
      ((∃ hint, hintFor? hints "return" = some hint ∧
        i.world.Mentions (i.world.moduleOf c) hint d) ∨
        i.FromCall (i.world.moduleOf c) f hints d)) ∨
    (∃ info, i.LooksInto c info ∧ ∃ f hints, i.HasConstructor info f hints ∧
      i.FromCall (i.world.moduleOf c) f hints d) ∨
    (∃ info, i.LooksInto c info ∧ ∃ hint, i.HasField c info hint ∧
      i.FromSlot (i.world.moduleOf c) hint d) ∨
    (∃ info, i.LooksInto c info ∧ ∃ os, i.HasBases c os ∧ ∃ b ∈ os,
      Universe.isSilentBase b = false ∧ i.world.Mentions (i.world.moduleOf c) b d) ∨
    (∃ info, i.LooksInto c info ∧ ∃ o os, i.namespaceObject? c "__metadata__" = some o ∧
      i.world.objectsIn o = .ok os ∧ ∃ a ∈ os, d = .cls (i.world.classOf a)) ∨
    ∃ info, i.LooksInto c info ∧ ∃ module o os, i.world.moduleOf c = some module ∧
      i.world.modules.contains module = true ∧
      i.world.readModule module "__metadata__" = .ok o ∧ i.world.objectsIn o = .ok os ∧
      ∃ a ∈ os, d = .cls (i.world.classOf a) := by
  constructor
  · intro h
    cases h with
    | result hl hm hh hd => exact .inl ⟨_, hl, _, _, hm, .inl ⟨_, hh, hd⟩⟩
    | method hl hm hd => exact .inl ⟨_, hl, _, _, hm, .inr hd⟩
    | constructor hl hm hd => exact .inr (.inl ⟨_, hl, _, _, hm, hd⟩)
    | field hl hf hd => exact .inr (.inr (.inl ⟨_, hl, _, hf, hd⟩))
    | base hl ho hb hs hd => exact .inr (.inr (.inr (.inl ⟨_, hl, _, ho, _, hb, hs, hd⟩)))
    | attached hl hn ho ha =>
      exact .inr (.inr (.inr (.inr (.inl ⟨_, hl, _, _, hn, ho, _, ha, rfl⟩))))
    | packaged hl hm hc hr ho ha =>
      exact .inr (.inr (.inr (.inr (.inr ⟨_, hl, _, _, _, hm, hc, hr, ho, _, ha, rfl⟩))))
  · rintro (⟨info, hl, f, hints, hm, ⟨hint, hh, hd⟩ | hd⟩ | ⟨info, hl, f, hints, hm, hd⟩ |
      ⟨info, hl, hint, hf, hd⟩ | ⟨info, hl, os, ho, b, hb, hs, hd⟩ |
      ⟨info, hl, o, os, hn, ho, a, ha, rfl⟩ |
      ⟨info, hl, module, o, os, hm, hc, hr, ho, a, ha, rfl⟩)
    · exact .result hl hm hh hd
    · exact .method hl hm hd
    · exact .constructor hl hm hd
    · exact .field hl hf hd
    · exact .base hl ho hb hs hd
    · exact .attached hl hn ho ha
    · exact .packaged hl hm hc hr ho ha

/-- What a walk finds that a sound class depends on is what the class contributes. -/
theorem depends_iff_contributes {c : ClassId} (h : i.answers.Sound {} (.cls c)) :
    i.answers.Depends {} (.cls c) d ↔ i.Contributes (.cls c) d := by
  obtain ⟨ms, hms⟩ := h.methods
  obtain ⟨cs, hcs⟩ := h.constructors
  obtain ⟨fs, hfs⟩ := h.fields
  obtain ⟨r, hr⟩ := h.supertype
  obtain ⟨rs, hrs⟩ := h.interfaces
  obtain ⟨as, has⟩ := h.annotations
  obtain ⟨own, hown⟩ := h.packageAnnotations
  rw [contributes_iff, ← methods_spec hms, ← constructors_spec hcs, ← fields_spec hfs,
    ← bases_spec hr hrs, ← annotations_spec has, ← packageAnnotations_spec hown,
    Answers.depends_iff]
  simp [hms, hcs, hfs, hr, hrs, has, hown, Answers.Target, or_assoc]

theorem exists_cls_of_fromCall {f : Function} {hints : List (String × Object)}
    (h : i.FromCall module f hints d) : ∃ c, d = .cls c := by
  rcases h with ⟨-, -, ⟨_, c, -, -, hd⟩ | ⟨-, -⟩⟩ | ⟨-, -, _, c, -, -, hd⟩
  · exact ⟨c, hd⟩
  · exact ⟨_, rfl⟩
  · exact ⟨c, hd⟩

theorem exists_cls_of_contributes {e : Descriptor} (h : i.Contributes d e) : ∃ c, e = .cls c := by
  cases h with
  | result _ _ _ hd =>
    obtain ⟨_, c, -, -, hd⟩ := hd
    exact ⟨c, hd⟩
  | method _ _ hd | constructor _ _ hd => exact exists_cls_of_fromCall hd
  | field _ _ hd =>
    rcases hd with ⟨_, c, -, -, hd⟩ | ⟨-, -⟩
    · exact ⟨c, hd⟩
    · exact ⟨_, rfl⟩
  | base _ _ _ _ hd =>
    obtain ⟨_, c, -, -, hd⟩ := hd
    exact ⟨c, hd⟩
  | attached | packaged => exact ⟨_, rfl⟩

/-- A module of two classes that lead to each other: `A` has a field for rows of `B`, with a text as
an annotation, and `B` is below `A` and returns it. -/
def circular : Inspector where
  world := {
    modules := .ofEntries [("m", {
      attributes := .ofEntries
        [("__metadata__", .tuple []), ("A", .cls (.declared 0)), ("B", .cls (.declared 1))] })]
    classes := [
      { module := some "m", qualname := "A", order := [.declared 0, .builtin "object"],
        parents := [.builtin "object"],
        fields := .ofEntries [("rows", .annotated
          (.applied .plain (.builtin "list") [.cls (.declared 1)]) [.str "in order"])] },
      { module := some "m", qualname := "B", bases := [.cls (.declared 0)],
        parents := [.declared 0], order := [.declared 1, .declared 0, .builtin "object"],
        attributes := .ofEntries [("first", .function
          { name := "first", home := "m", hints := [("return", .cls (.declared 0))] })] }] }

variable (i) in
/-- The bases of a class if all that it holds for them counts, be it a row without any. -/
def HasWrittenBases (c : ClassId) (os : List Object) : Prop :=
  (∃ o, i.namespaceObject? c "__orig_bases__" = some o ∧ i.world.objectsIn o = .ok os) ∨
  i.namespaceObject? c "__orig_bases__" = none ∧ os = (i.world.parents c).map ClassId.object

/-- A class `A` below `B` that holds a row without bases in the place of those written. -/
def emptied : Inspector where
  world := {
    modules := .ofEntries [("m", {
      attributes := .ofEntries
        [("__metadata__", .tuple []), ("B", .cls (.declared 0)), ("A", .cls (.declared 1))] })]
    classes := [
      { module := some "m", qualname := "B", order := [.declared 0, .builtin "object"],
        parents := [.builtin "object"] },
      { module := some "m", qualname := "A", bases := [.cls (.declared 0)],
        parents := [.declared 0], order := [.declared 1, .declared 0, .builtin "object"],
        attributes := .ofEntries [("__orig_bases__", .value (.tuple []))] }] }

theorem not_contributesWith_emptied :
    ¬emptied.ContributesWith emptied.HasWrittenBases (.cls (.declared 1)) d := by
  have noFunction {info : ClassInfo} (hl : emptied.LooksInto (.declared 1) info) {name : String}
      {a : Attribute} {f : Function} (ha : info.attributes.get? name = some a) :
      a.function? ≠ some f := by
    cases hl.1
    have ha := Table.mem_entries_iff.2 ha
    cases List.mem_singleton.1 ha
    simp [Attribute.function?]
  intro h
  cases h with
  | result hl hm | method hl hm =>
    obtain ⟨name, a, -, -, ha, hf, -⟩ := hm
    exact noFunction hl ha hf
  | constructor hl hm =>
    obtain ⟨-, ⟨a, ha, hf⟩, -⟩ := hm
    exact noFunction hl ha hf
  | field hl hf =>
    obtain ⟨own, hints, name, hown, hhints, hmem⟩ := hf
    cases hl.1
    cases hown
    cases hhints
    exact List.not_mem_nil hmem
  | base hl ho hb =>
    rcases ho with ⟨o, hn, ho⟩ | ⟨hn, -⟩
    · cases hn
      cases ho
      exact List.not_mem_nil hb
    · cases hn
  | attached hl hn ho ha => cases hn
  | packaged hl hm hc hr ho ha =>
    cases hm
    cases hr
    cases ho
    exact List.not_mem_nil ha

end Inspector

end Classes

end TypeReach
