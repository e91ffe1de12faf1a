import TypeReach.Proofs.Fragments

/-!
# What readings give

Reading an attribute, calling an object and looking up a name put nothing new together: what comes
of them has only fragments of the objects that they begin with and of those that the universe holds.
There is one lemma for each way of reading, in the order in which they rest on each other.
-/

namespace TypeReach.Classes.Universe

variable {u : Universe} {known : List Object} {again : Caller} {c reader owner : ClassId}
  {o value : Object} {name : String} {a : Attribute} {content : Content} {f : Function}
  {call : Call} {r : Except Fault Object}

/-! ### Parts of values, and what is standard -/

theorem gives_called (hf : ∀ o ∈ outcomes f, o.Within known) : Gives known (f.called call) := by
  refine gives_bind fun _ _ => ?_
  intro o ho
  exact hf o (by simp [outcomes, ho])

theorem within_shown {how : Held} : (how.shown owner name).Within known := by
  cases how <;> exact .of_nil rfl

theorem within_boundShown {how : Held} : (how.boundShown owner name).Within known := by
  cases how <;> exact .of_nil rfl

theorem within_record {fields : List (String × Object)} :
    (Object.record c fields).Within known ↔ ∀ f ∈ fields, f.2.Within known := by
  simp only [Object.Within, Object.fragments, Object.fragmentsStored_eq_flatMap,
    List.subset_def, List.mem_flatMap]
  constructor
  · intro h f hf o ho
    exact h ⟨f, hf, ho⟩
  · rintro h o ⟨f, hf, ho⟩
    exact h f hf ho

theorem within_text {text : Option String} : ((text.map Object.str).getD .null).Within known := by
  cases text <;> exact .of_nil rfl

theorem within_object : c.object.Within known := by
  unfold ClassId.object
  split <;> exact .of_nil rfl

theorem within_held (ha : a.Within known) : (a.held c name).Within known := by
  cases a with
  | value v => exact within_value.1 ha
  | _ => exact .of_nil rfl

theorem within_mainBase {bases : List ClassId} : (u.mainBase bases).Within known := by
  cases bases with
  | nil => exact .of_nil rfl
  | cons first rest => exact within_object

/-- What declared classes have for themselves has no fragments. -/
theorem within_plainNames {i : ClassInfo} {b : Object}
    (h : (plainNames c i ++ recordNames c i).lookup name = some b) : b.Within known := by
  refine .of_nil ?_
  rcases List.mem_append.1 (mem_of_lookup h) with hmem | hmem
  · simp only [plainNames, List.mem_append, List.mem_cons, Prod.mk.injEq, List.not_mem_nil,
      or_false] at hmem
    rcases hmem with (((⟨-, rfl⟩ | ⟨-, rfl⟩ | ⟨-, rfl⟩) | hmem) | hmem) | hmem
    · cases i.module <;> rfl
    · cases i.documentation <;> rfl
    · rfl
    all_goals
      split at hmem
      · simp only [List.mem_singleton, Prod.mk.injEq] at hmem
        rw [hmem.2]
        rfl
      · cases hmem
  · unfold recordNames at hmem
    split at hmem
    · cases hmem
    · simp only [List.mem_cons, Prod.mk.injEq, List.not_mem_nil, or_false] at hmem
      rcases hmem with ⟨-, rfl⟩ | ⟨-, rfl⟩ | ⟨-, rfl⟩ | ⟨-, rfl⟩ | ⟨-, rfl⟩ <;> rfl

theorem within_valuePart {b : Object} (ho : o.Within known) (h : valuePart? o name = some b) :
    b.Within known := by
  unfold valuePart? at h
  split at h
  case h_11 | h_12 | h_13 =>
    cases h
    simp only [Object.Within, Object.fragments, List.append_subset] at ho ⊢
    simp only [ho]
  all_goals
    cases h
    try exact .of_nil rfl

theorem within_plainOf (ho : o.Within known) : (u.plainOf o).Within known := by
  unfold plainOf
  split
  · dsimp only
    repeat' split
    all_goals first | exact .of_nil rfl | exact ho
  · exact ho

theorem within_featurePart {of : ClassId} {owner : Option ClassId} {part : String} {b : Object}
    (h : u.featurePart? of owner name part = some b) : b.Within known := by
  unfold featurePart? at h
  split at h
  case h_3 =>
    obtain ⟨c, -, rfl⟩ := Option.map_eq_some_iff.1 h
    exact within_object
  case h_11 | h_12 =>
    split at h <;> cases h
    exact .of_nil rfl
  all_goals
    cases h
    try exact .of_nil rfl

theorem within_computed (ho : o.Within known) : (u.computed o name).Within known := by
  unfold computed
  dsimp only
  split
  · next b hown =>
    split at hown
    · exact within_featurePart hown
    · exact within_valuePart (within_plainOf ho) hown
  all_goals exact .of_nil rfl

theorem within_functionModule {b : Object} (h : u.functionModule? o = some b) :
    b.Within known := by
  unfold functionModule? at h
  split at h
  · next of owner name =>
    dsimp only at h
    split at h
    · cases h
      cases u.functionIn? owner name with
      | some f => exact .of_nil rfl
      | none => cases owner.bind u.moduleOf <;> exact .of_nil rfl
    · split at h <;> cases h
      split <;> exact .of_nil rfl
  · cases h

theorem within_originOf (ho : o.Within known) : (originOf o).Within known := by
  unfold originOf
  split
  case h_4 => exact (List.cons_subset.1 ho).2
  all_goals exact .of_nil rfl

theorem within_ofForm {form : Form} {b : Object} (h : ofForm? form name = some b) :
    b.Within known := by
  unfold ofForm? at h
  split at h <;> cases h <;> exact .of_nil rfl

theorem gives_wholeOf : Gives known (u.wholeOf again o) := by
  unfold wholeOf
  split
  · refine gives_bind fun other _ => ?_
    split
    · exact .of_nil rfl
    · exact gives_error
  · exact gives_map fun _ => .of_nil rfl
  · unfold wholeIn
    split
    · exact .of_nil rfl
    · exact gives_error
  · next x _ _ _ => exact .of_nil (by cases x.toInt? <;> rfl)
  · exact gives_error

theorem gives_newPlain (h : u.newPlain? again name call = some r) : Gives known r := by
  unfold newPlain? newText newWhole newDouble newMapping wholeIn at h
  split at h <;> cases h
  -- Whatever is asked on the way, each path ends in a fault or in a value without fragments.
  all_goals
    repeat' first
      | exact gives_error
      | exact .of_nil rfl
      | exact gives_map fun _ => .of_nil rfl
      | exact gives_wholeOf
      | refine gives_bind fun _ _ => ?_
      | dsimp only
      | split

theorem gives_newClass : Gives known (u.newClass call) := by
  unfold newClass
  dsimp only
  split
  · split
    · exact gives_ok.2 within_object
    · exact gives_error
  · split
    · exact .of_nil rfl
    all_goals exact gives_error
  · exact gives_error

theorem gives_builtinResult {os : List Object} : Gives known (u.builtinResult again name os) := by
  unfold builtinResult
  split
  all_goals
    repeat' first
      | exact gives_error
      | exact .of_nil rfl
      | exact gives_map fun _ => .of_nil rfl
      | refine gives_bind fun _ _ => ?_
      | dsimp only
      | split

theorem within_builtin (h : Standard.builtin? name = some o) : o.Within known := by
  unfold Standard.builtin? at h
  split at h
  · cases h
    exact .of_nil rfl
  split at h
  · cases h
    exact .of_nil rfl
  · split at h <;> cases h <;> exact .of_nil rfl

theorem within_nameIn {module : String} (h : Standard.nameIn? module name = some o) :
    o.Within known := by
  unfold Standard.nameIn? at h
  split at h
  · exact within_builtin h
  all_goals
    repeat' split at h
    all_goals cases h <;> exact .of_nil rfl

theorem within_moduleName {module : String} (h : moduleName? module name = some o) :
    o.Within known := by
  unfold moduleName? at h
  split at h <;> cases h <;> repeat' first | exact .of_nil rfl | split

theorem gives_presentOr (h : Gives known r) : Gives known (presentOr name r) := by
  unfold presentOr
  split
  · exact gives_error
  · exact h

section

/-! ### What classes hold -/

variable (hu : u.Within known)

include hu

theorem within_ownContent (h : u.ownContent? c name = some content) : content.Within known := by
  cases c with
  | standard module className =>
    rcases (Option.orElse_eq_some _ _ _).1 h with h | ⟨-, h⟩
    · obtain ⟨how, -, rfl⟩ := Option.map_eq_some_iff.1 h
      trivial
    · obtain ⟨b, hb, rfl⟩ := Option.map_eq_some_iff.1 h
      refine within_value.2 ?_
      unfold Standard.classValue? at hb
      split at hb <;> cases hb <;> exact .of_nil rfl
  | declared index =>
    obtain ⟨i, hi, h⟩ := Option.bind_eq_some_iff.1 h
    obtain ⟨a, ha, rfl⟩ := Option.map_eq_some_iff.1 h
    rcases (Option.orElse_eq_some _ _ _).1 ha with ha | ⟨-, ha⟩
    · exact fun o ho => hu o (mem_objects_of_attribute (mem_classes_of_info hi) ha ho)
    · obtain ⟨b, hb, rfl⟩ := Option.map_eq_some_iff.1 ha
      exact within_value.2 (within_plainNames hb)

theorem within_found (h : u.found? c name = some (owner, content)) : content.Within known := by
  obtain ⟨d, -, hd⟩ := List.exists_of_findSome?_eq_some h
  obtain ⟨own, hown, heq⟩ := Option.map_eq_some_iff.1 hd
  cases heq
  exact within_ownContent hu hown

theorem within_content (h : u.content? c name = some content) : content.Within known := by
  obtain ⟨⟨owner, content⟩, hfound, rfl⟩ := Option.map_eq_some_iff.1 h
  exact within_found hu hfound

theorem within_functionIn {owner : Option ClassId} (h : u.functionIn? owner name = some f) :
    ∀ o ∈ outcomes f, o.Within known := by
  unfold functionIn? at h
  split at h
  · next a ha =>
    obtain ⟨c, -, hc⟩ := Option.bind_eq_some_iff.1 ha
    exact Attribute.Within.outcomes (within_ownContent hu hc) h
  · cases h

/-! ### Calls before calls are known -/

theorem gives_describedBy (hagain : again.Keeps known) (hv : value.Within known)
    (ho : o.Within known) (h : u.describedBy? again value o reader = some r) : Gives known r := by
  have hgiven : Call.Within known { arguments := [value, o, .cls reader] } :=
    ⟨by simpa [hv, ho] using Object.Within.of_nil rfl, by simp⟩
  unfold describedBy? at h
  split at h
  · split at h
    · next hget =>
      cases h
      exact gives_called (within_content hu hget)
    · next hget =>
      cases h
      exact gives_called (within_content hu hget)
    · next hget =>
      cases h
      exact hagain _ _ (within_value.1 (within_content hu hget)) hgiven
    · cases h
      exact gives_error
    · split at h
      · cases h
        exact gives_error
      split at h
      · cases h
        exact gives_error
      split at h
      · cases h
        exact gives_error
      · cases h
    · cases h
  · cases h

theorem gives_described (hagain : again.Keeps known) (hv : value.Within known)
    (ho : o.Within known) :
    Gives known ((u.describedBy? again value o reader).getD (.ok value)) := by
  cases h : u.describedBy? again value o reader with
  | none => exact gives_ok.2 hv
  | some r => exact gives_describedBy hu hagain hv ho h

theorem gives_ofAttribute (hagain : again.Keeps known) (ha : a.Within known) (ho : o.Within known)
    (hcall : call.Within known) : Gives known (u.ofAttribute again o a call) := by
  cases a with
  | function f | static f | classMethod f => exact gives_called ha
  | property getter =>
    cases getter with
    | none => exact gives_error
    | some f =>
      refine gives_bind fun b hb => hagain _ _ ?_ hcall
      exact gives_called ha b hb
  | value v =>
    have hv : v.Within known := within_value.1 ha
    refine gives_bind fun b hb => hagain _ _ ?_ hcall
    exact gives_described hu hagain hv ho b hb

theorem gives_ofOwnAttribute (hagain : again.Keeps known) (ha : a.Within known)
    (hcall : call.Within known) : Gives known (u.ofOwnAttribute again c a call) := by
  cases a with
  | function f | static f | classMethod f => exact gives_called ha
  | property getter => exact gives_error
  | value v =>
    have hv : v.Within known := within_value.1 ha
    refine gives_bind fun b hb => hagain _ _ ?_ hcall
    exact gives_described hu hagain hv (.of_nil rfl) b hb

theorem gives_said {given : List Object} (hagain : again.Keeps known) (ho : o.Within known)
    (hgiven : ∀ o ∈ given, o.Within known) (h : u.said? again o name given = some r) :
    Gives known r := by
  unfold said? at h
  split at h
  · split at h
    · next ha =>
      cases h
      exact gives_ofAttribute hu hagain (within_content hu ha) ho ⟨hgiven, by simp⟩
    · cases h
  · cases h

theorem keeps_simplyCalledWithin (n : Nat) : (u.simplyCalledWithin n).Keeps known := by
  induction n with
  | zero => exact fun _ _ _ _ => gives_error
  | succ n ih =>
    intro o call ho hcall
    unfold simplyCalledWithin
    split
    · split
      · next ha => exact gives_ofAttribute hu ih (within_content hu ha) ho hcall
      · exact gives_error
    · split
      · exact gives_error
      · exact .of_nil rfl
    · next owner name =>
      cases hf : u.functionIn? owner name with
      | some f => exact gives_called (within_functionIn hu hf)
      | none =>
        generalize (if owner.isNone then countFault? name call.arguments.length else none) = fault?
        cases fault? with
        | some fault => exact gives_error
        | none => exact .of_nil rfl
    · exact gives_error

/-! ### Reading before calls are known -/

theorem gives_shownAttribute (ha : a.Within known) (ho : o.Within known) :
    Gives known (u.shownAttribute o reader owner name a) := by
  cases a with
  | value v =>
    exact gives_described hu (keeps_simplyCalledWithin hu _) (within_value.1 ha) ho
  | _ => exact .of_nil rfl

theorem gives_shownContent (h : content.Within known) :
    Gives known (u.shownContent reader owner name content) := by
  rcases content with a | how
  · exact gives_shownAttribute hu h (.of_nil rfl)
  · exact gives_ok.2 within_shown

theorem within_documentationOf : (u.documentationOf c).Within known := by
  unfold documentationOf
  split
  · next hown => exact within_value.1 (within_ownContent hu hown)
  · split
    · exact .of_nil rfl
    · exact within_shown
    · exact .of_nil rfl
  · exact .of_nil rfl

theorem within_given
    (h : ((u.info? c).bind fun i => i.attributes.get? name).map (Attribute.held c name) = some o) :
    o.Within known := by
  obtain ⟨a, ha, rfl⟩ := Option.map_eq_some_iff.1 h
  obtain ⟨i, hi, ha⟩ := Option.bind_eq_some_iff.1 ha
  exact within_held fun o ho => hu o (mem_objects_of_attribute (mem_classes_of_info hi) ha ho)

theorem within_saidModule : (u.saidModule c).Within known := by
  unfold saidModule
  split
  · exact .of_nil rfl
  · next i _ hi =>
    split
    · next a ha =>
      exact within_held fun o ho => hu o (mem_objects_of_attribute (mem_classes_of_info hi) ha ho)
    · exact within_text
  · exact .of_nil rfl

theorem gives_ownName (h : u.ownName? c name = some r) : Gives known r := by
  unfold ownName? at h
  dsimp only at h
  split at h
  case h_3 =>
    cases h
    exact gives_ok.2 (within_saidModule hu)
  case h_6 =>
    cases h
    exact gives_ok.2 within_mainBase
  case h_9 =>
    cases h
    exact gives_ok.2 (within_documentationOf hu)
  case h_10 =>
    split at h <;> cases h
    · exact gives_ok.2 within_text
    · exact .of_nil rfl
  case h_11 =>
    split at h <;> cases h
    · next hgiven => exact gives_ok.2 (within_given hu hgiven)
    · exact .of_nil rfl
    · exact gives_error
  case h_12 =>
    cases h
    cases hgiven : ((u.info? c).bind fun i => i.attributes.get? "__abstractmethods__").map
        (Attribute.held c "__abstractmethods__") with
    | none => exact gives_error
    | some o => exact gives_ok.2 (within_given hu hgiven)
  all_goals
    cases h
    try exact .of_nil rfl

theorem gives_readClass : Gives known (u.readClass c name) := by
  unfold readClass
  split
  · next r hr => exact gives_ownName hu hr
  · next hfound =>
    exact gives_shownContent hu (within_found hu hfound)
  · exact gives_ok.2 within_boundShown
  · exact gives_error

theorem gives_boundAttribute (ha : a.Within known) (ho : o.Within known) :
    Gives known (u.boundAttribute o owner name a) := by
  unfold boundAttribute
  split
  · exact .of_nil rfl
  · exact .of_nil rfl
  · exact gives_shownAttribute hu ha ho

theorem gives_boundContent (h : content.Within known) (ho : o.Within known) :
    Gives known (u.boundContent o owner name content) := by
  rcases content with a | how
  · exact gives_boundAttribute hu h ho
  · exact gives_ok.2 within_boundShown

/-! ### Values and hints -/

theorem gives_readValue (ho : o.Within known) : Gives known (u.readValue o name) := by
  unfold readValue
  dsimp only
  split
  · split
    · exact gives_ok.2 (within_computed ho)
    · exact gives_ok.2 within_boundShown
  · next hfound =>
    refine gives_boundContent hu ?_ ho
    rcases (Option.orElse_eq_some _ _ _).1 hfound with hfound | ⟨-, hfound⟩
    · exact within_found hu hfound
    · exact within_found hu hfound
  · exact gives_ok.2 (within_documentationOf hu)
  · split
    · next hmodule _ _ => exact gives_ok.2 (within_functionModule hmodule)
    · exact gives_error

theorem within_ofHint {b : Object} (ho : o.Within known) (h : u.ofHint? o name = some b) :
    b.Within known := by
  unfold ofHint? at h
  dsimp only at h
  split at h <;> cases h
  case h_2.refl => exact within_originOf ho
  case h_6.refl | h_13.refl => exact within_text
  case h_8.refl => exact within_documentationOf hu
  all_goals exact .of_nil rfl

theorem gives_ofPlain (ho : o.Within known) (h : u.ofPlain? o name = some r) :
    Gives known r := by
  unfold ofPlain? at h
  split at h
  case h_1 | h_2 | h_3 | h_4 => exact gives_of_map (fun _ => within_ofHint hu ho) h
  all_goals cases h <;> first | exact gives_error | exact .of_nil rfl

theorem within_ofVariable {index : Nat} {b : Object} (h : u.ofVariable? index name = some b) :
    b.Within known := by
  obtain ⟨v, hv, h⟩ := Option.bind_eq_some_iff.1 h
  split at h <;> cases h
  case h_2.refl =>
    cases hbound : v.bound with
    | none => exact .of_nil rfl
    | some bound =>
      refine hu _ (mem_objects_of_bound (List.mem_of_getElem? hv) ?_)
      simp [TypeVariable.bounds, hbound]
  all_goals exact .of_nil rfl

theorem within_ofForward {number : Option Nat} {text : String} {lenient : Bool} {b : Object}
    (h : u.ofForward? number text lenient name = some b) : b.Within known := by
  unfold ofForward? at h
  dsimp only at h
  split at h <;> cases h
  case h_3.refl =>
    cases hvalue : number.bind fun n => List.lookup n u.settled with
    | none => exact .of_nil rfl
    | some value =>
      obtain ⟨n, -, hn⟩ := Option.bind_eq_some_iff.1 hvalue
      exact hu _ (mem_objects_of_settled (mem_of_lookup hn))
  all_goals exact .of_nil rfl

theorem gives_ofHintClass (ho : o.Within known) (h : u.ofHintClass? o name = some r) :
    Gives known r := by
  obtain ⟨⟨owner, content⟩, hfound, rfl⟩ := Option.map_eq_some_iff.1 h
  exact gives_boundContent hu (within_found hu hfound) ho

/-! ### Calls -/

theorem gives_newFields (hcall : call.Within known) : Gives known (u.newFields c owner call) := by
  unfold newFields
  refine gives_bind fun _ _ => gives_ok.2 ?_
  refine within_record.2 fun field hfield => ?_
  obtain ⟨e, he, hmap⟩ := List.mem_filterMap.1 hfield
  obtain ⟨value, hvalue, rfl⟩ := Option.map_eq_some_iff.1 hmap
  rcases (Option.orElse_eq_some _ _ _).1 hvalue with hgiven | ⟨-, hstandard⟩
  · rcases List.mem_append.1 (mem_of_lookup hgiven) with hmem | hmem
    · exact hcall.arguments _ (List.of_mem_zip hmem).2
    · exact hcall.named _ hmem
  · refine hu _ ?_
    have he := (List.mem_filter.1 he).1
    cases hfields : (u.info? owner).bind ClassInfo.recordFields with
    | none => simp [hfields] at he
    | some fields =>
      obtain ⟨i, hi, hrecord⟩ := Option.bind_eq_some_iff.1 hfields
      simp only [hfields, Option.map_some, Option.getD_some] at he
      exact mem_objects_of_standard (mem_classes_of_info hi) hrecord he hstandard

theorem gives_begun {fields : List (String × Object)}
    (ho : (Object.record c fields).Within known) (hcall : call.Within known) :
    Gives known (u.begun again c fields call) := by
  unfold begun
  dsimp only
  split
  · exact gives_newFields hu hcall
  · refine gives_bind fun made _ => ?_
    split
    · exact gives_ok.2 ho
    · exact gives_error
  · repeat' first
      | exact gives_error
      | exact gives_ok.2 ho
      | refine gives_bind fun _ _ => ?_
      | split

theorem gives_newRecord (hagain : again.Keeps known) (hcall : call.Within known) :
    Gives known (u.newRecord again c call) := by
  unfold newRecord
  split
  · next owner a ha =>
    have hown : Call.Within known { call with arguments := .cls c :: call.arguments } :=
      ⟨List.forall_mem_cons.2 ⟨.of_nil rfl, hcall.arguments⟩, hcall.named⟩
    refine gives_bind fun made hmade => ?_
    have hmade := gives_ofOwnAttribute hu hagain (within_found hu ha) hown made hmade
    split
    · split
      · exact gives_begun hu hmade hcall
      · exact gives_ok.2 hmade
    · exact gives_ok.2 hmade
  · refine gives_bind fun _ _ => gives_begun hu (within_record.2 (by simp)) hcall

theorem gives_newObject (hagain : again.Keeps known) (hcall : call.Within known) :
    Gives known (u.newObject again c call) := by
  unfold newObject
  split
  · exact gives_newRecord hu hagain hcall
  · exact gives_error
  · exact gives_newClass
  · split
    · exact .of_nil rfl
    · exact gives_error
  · split
    · exact .of_nil rfl
    · exact gives_error
  · exact gives_bind fun _ _ => .of_nil rfl
  · exact gives_bind fun _ _ => .of_nil rfl
  · split
    · next h =>
      split at h
      · exact gives_newPlain h
      · cases h
    · split
      · exact .of_nil rfl
      · split
        · exact gives_ok.2 (within_record.2 (by simp))
        · exact gives_error

theorem gives_featureResult {of : ClassId} {owner : Option ClassId} :
    Gives known (u.featureResult again of owner name call) := by
  unfold featureResult
  split
  · next hf => exact gives_called (within_functionIn hu hf)
  · split
    · exact gives_error
    · split
      · exact gives_error
      · exact gives_builtinResult
  · split
    · exact gives_error
    · split <;> exact .of_nil rfl

theorem keeps_calledBy (hagain : again.Keeps known) : Caller.Keeps known (u.calledBy again) := by
  intro o call ho hcall
  unfold calledBy
  dsimp only
  split
  case h_1 => exact gives_newObject hu hagain hcall
  case h_3 => exact gives_newObject hu hagain hcall
  case h_4 =>
    split
    · exact gives_newObject hu hagain hcall
    · exact gives_error
  case h_9 => exact gives_newObject hu hagain hcall
  case h_10 =>
    split
    · exact gives_featureResult hu
    · exact gives_error
  case h_11 =>
    split
    · exact .of_nil rfl
    · exact gives_error
  case h_12 =>
    split
    · next ha => exact gives_ofAttribute hu hagain (within_content hu ha) ho hcall
    · exact gives_error
  all_goals exact gives_error

theorem keeps_calledWithin (n : Nat) : (u.calledWithin n).Keeps known := by
  induction n with
  | zero => exact fun _ _ _ _ => gives_error
  | succ n ih => exact keeps_calledBy hu ih

/-! ### Reading -/

theorem gives_readPlainly {fields : List (String × Object)}
    (ho : (Object.record c fields).Within known) : Gives known (u.readPlainly c fields name) := by
  unfold readPlainly
  extract_lets o late
  -- What is stored comes before what the class has, unless the class computes it.
  have hlate : Gives known (late (u.found? c name)) := by
    dsimp only [late]
    split
    · next stored hstored => exact gives_ok.2 (within_record.1 ho _ (mem_of_lookup hstored))
    · next hfound =>
      exact gives_boundContent hu (within_found hu hfound) ho
    · split
      · exact gives_ok.2 (within_documentationOf hu)
      · exact gives_error
  split
  · exact .of_nil rfl
  · exact .of_nil rfl
  · next hfound => exact gives_called (within_found hu hfound)
  · exact gives_error
  · next hfound =>
    rw [hfound] at hlate
    split
    · exact gives_shownAttribute hu (within_found hu hfound) ho
    · exact hlate
  · next hfound =>
    rw [hfound] at hlate
    split
    · exact gives_ok.2 (within_computed ho)
    · exact hlate
  · exact hlate

theorem gives_readRecord {fields : List (String × Object)}
    (ho : (Object.record c fields).Within known) : Gives known (u.readRecord c fields name) := by
  have said {function : String} {r : Except Fault Object} (hr : Gives known r) :
      Gives known ((u.said? u.called (.record c fields) function [.str name]).getD r) := by
    cases h : u.said? u.called (.record c fields) function [.str name] with
    | none => exact hr
    | some r => exact gives_said hu (keeps_calledWithin hu _) ho (by simpa using .of_nil rfl) h
  unfold readRecord
  dsimp only
  split
  · exact said gives_error
  · exact said (gives_readPlainly hu ho)

theorem gives_read : ∀ {o : Object}, o.Within known → Gives known (u.read o name) := by
  intro o ho
  unfold read
  extract_lets own reservedName
  -- Only what an object does not answer itself goes on to its class.
  have hown : ∀ r, own = some r → Gives known r := by
    intro r hr
    dsimp only [own] at hr
    split at hr
    · exact gives_ofPlain hu ho hr
    · exact gives_of_map (fun _ => within_ofForm) hr
    · exact gives_of_map (fun _ => within_ofVariable hu) hr
    · exact gives_of_map (fun _ => within_ofForward hu) hr
    · split at hr
      · cases hr
        exact .of_nil rfl
      · split at hr
        · exact gives_of_map (fun _ => within_ofHint hu ho) hr
        · cases hr
    · split at hr
      · rcases (Option.orElse_eq_some _ _ _).1 hr with hr | ⟨-, hr⟩
        · exact gives_of_map (fun _ => within_ofHint hu ho) hr
        · exact gives_ofHintClass hu ho hr
      · cases hr
  clear_value own
  rcases own with _ | r
  case some => exact hown r rfl
  have unreserved {b : Except Fault Object} (hb : Gives known b) :
      Gives known (if isReserved name then reservedName else b) := by
    split
    · exact gives_error
    · exact hb
  cases o with
  | cls c => exact gives_readClass hu
  | anything => exact gives_readClass hu
  | record c fields => exact gives_readRecord hu ho
  | annotated hint annotations => exact unreserved (gives_read (List.cons_subset.1 ho).2)
  | applied how origin arguments =>
    cases how with
    | plain => exact gives_readClass hu
    | _ => exact unreserved (gives_readClass hu)
  | parameters arguments => exact unreserved (gives_readClass hu)
  | literal | union | wrapped => exact gives_error
  | bare form =>
    dsimp only
    cases h : u.ofHintClass? (.bare form) name with
    | none => exact gives_error
    | some r => exact gives_ofHintClass hu ho h
  | _ => exact gives_readValue hu ho

theorem gives_readPath (ho : o.Within known) (names : List String) :
    Gives known (u.readPath o names) := by
  induction names generalizing o with
  | nil => exact gives_ok.2 ho
  | cons name names ih => exact gives_bind fun b hb => ih (gives_read hu ho b hb)

theorem within_moduleAttribute {module : String} (h : u.moduleAttribute? module name = some o) :
    o.Within known := by
  unfold moduleAttribute? at h
  split at h
  · next m hm =>
    rcases (Option.orElse_eq_some _ _ _).1 h with h | ⟨-, h⟩
    · exact hu o (mem_objects_of_module (Table.mem_of_get? hm) (Table.mem_of_get? h))
    · exact within_moduleName h
  · split at h
    · rcases (Option.orElse_eq_some _ _ _).1 h with h | ⟨-, h⟩
      · exact within_nameIn h
      · exact within_moduleName h
    · cases h

theorem gives_readModule {module : String} : Gives known (u.readModule module name) := by
  unfold readModule
  split
  · next ho => exact gives_ok.2 (within_moduleAttribute hu ho)
  · split
    · exact .of_nil rfl
    · split
      · exact .of_nil rfl
      · exact gives_ok.2 within_boundShown
  · split
    · next ho =>
      exact keeps_calledWithin hu _ _ _ (within_moduleAttribute hu ho)
        ⟨by simpa using .of_nil rfl, by simp⟩
    · exact gives_error
    · exact gives_error

theorem gives_importDotted : Gives known (u.importDotted name) := by
  unfold importDotted
  dsimp only
  split
  · exact gives_error
  · exact gives_presentOr (gives_readModule hu)

/-- What a name stands for is put together from what the universe holds. -/
theorem gives_resolveName {module : Option String} : Gives known (u.resolveName module name) := by
  unfold resolveName
  dsimp only
  split
  · next o ho =>
    refine gives_presentOr (gives_readPath hu ?_ _)
    rcases (Option.orElse_eq_some _ _ _).1 ho with ho | ⟨-, ho⟩
    · obtain ⟨m, -, ho⟩ := Option.bind_eq_some_iff.1 ho
      exact within_moduleAttribute hu ho
    · cases hread : u.readModule "builtins" (cutFirst '.' name).1 with
      | error fault => simp [hread, Except.toOption] at ho
      | ok b =>
        simp only [hread, Except.toOption, Option.some.injEq] at ho
        exact ho ▸ gives_readModule hu b hread
  · split
    · exact gives_error
    · exact gives_importDotted hu

end

end TypeReach.Classes.Universe
