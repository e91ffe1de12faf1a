import TypeReach.Proofs.ClassClosure
import TypeReach.Proofs.UnusableSettings

/-!
# Checks of several classes

A run that checks several classes prints for each of them the line that a run with this class alone
prints, and ends with status 1 if one of those runs does. The walks share nothing but what formulas
stood for in the walks before: as long as that changes no course, no walk shows in another.
-/

namespace TypeReach.Command

open Classes (ClassId Descriptor Inspector Settled Universe)

/-! ### Targets on the command line -/

/-- A text is a target of a check of classes, wherever it stands behind the name of the action. -/
def IsTarget (text : String) : Prop :=
  Request.spec.TakesAsPositional text ∧ Request.classesSpec.TakesAsPositional text

/-- What does not begin with a dash is a target. -/
theorem isTarget_of_head? {text : String} (h : text.toList.head? ≠ some '-') : IsTarget text :=
  ⟨Spec.takesAsPositional_of_head? h, Spec.takesAsPositional_of_head? h⟩

/-- The request to check classes, without options. -/
def classesRequest (targets : List String) : Request :=
  ⟨false, some ".", false, .checkClasses targets []⟩

theorem parse_targets {targets : List String} (hne : targets ≠ [])
    (h : ∀ x ∈ targets, IsTarget x) :
    Request.parse ("check-python" :: targets) = .ok (classesRequest targets) := by
  obtain ⟨target, others, rfl⟩ := List.exists_cons_of_ne_nil hne
  have houter : Request.spec.parse ("check-python" :: target :: others) =
      .ok { positionals := ["check-python" :: target :: others] } := by
    refine Spec.parse_of_positionals (by decide) rfl fun x hx => ?_
    rcases List.mem_cons.1 hx with rfl | hx
    · exact Spec.takesAsPositional_of_head? (by decide)
    · exact (h x hx).1
  have hinner : Request.classesSpec.parse (target :: others) =
      .ok { positionals := [target :: others] } :=
    Spec.parse_of_positionals (by decide) rfl fun x hx => (h x hx).2
  have haction : Request.readAction "check-python" (target :: others) =
      .ok (.checkClasses (target :: others) [], { positionals := [target :: others] }) := by
    simp only [Request.readAction, hinner, bind, Except.bind]
    rfl
  simp only [Request.parse, houter, haction, bind, Except.bind]
  rfl

/-! ### Checks one after the other -/

section

variable {σ δ α ν : Type} [DecidableEq δ] {provider : σ → Provider σ δ α ν} {depth : Nat}
  {options : WalkOptions} {inOrder : σ → Prop}

/-- A target comes to a line and to whether its closure is resolved whenever it is checked, as long
as what is remembered is in order; and that it stays. -/
def ComesTo (provider : σ → Provider σ δ α ν) (depth : Nat) (options : WalkOptions)
    (inOrder : σ → Prop) (t : String × Except Fault δ) (line : String) (isResolved : Bool) : Prop :=
  ∀ memory, inOrder memory → ∃ memory', inOrder memory' ∧
    (checkTarget (provider memory) depth options memory t.1 t.2).result =
      .ok (isResolved, memory') ∧
    (checkTarget (provider memory) depth options memory t.1 t.2).prints = [line]

theorem comesTo_absent (target : String) (failure : Fault) :
    ComesTo provider depth options inOrder (target, .error failure)
      (verdict target 0 (some failure)) false :=
  fun memory hm => ⟨memory, hm, rfl, rfl⟩

/-- If each of some targets comes to a line, a check of all of them prints these lines in order. -/
theorem checkTargets_of_comesTo {targets : List String} {root : String → Except Fault δ}
    {line : String → String} {isResolved : String → Bool}
    (h : ∀ x ∈ targets,
      ComesTo provider depth options inOrder (x, root x) (line x) (isResolved x))
    {memory : σ} (hm : inOrder memory) :
    let checks := checkTargets provider depth options memory (targets.map fun x => (x, root x))
    checks.result = .ok (targets.all isResolved) ∧ checks.prints = targets.map line := by
  -- A check may change what is remembered, so the induction is over any memory that is in order.
  induction targets generalizing memory with
  | nil => exact ⟨rfl, rfl⟩
  | cons x targets ih =>
    obtain ⟨hx, htargets⟩ := List.forall_mem_cons.1 h
    obtain ⟨memory', hm', hthis, hline⟩ := hx memory hm
    obtain ⟨hothers, hlines⟩ := ih htargets hm'
    obtain ⟨hresult, hprints⟩ :=
      checkTargets_cons provider (root x) hthis (targets.map fun x => (x, root x))
    refine ⟨hresult.trans ?_, hprints.trans ?_⟩
    · rw [hothers]
      rfl
    · rw [hline, hlines]
      rfl

end

/-! ### Walks of classes -/

/-- The walk of a class, from what is settled in the universe. -/
def walkOf (i : Inspector) (options : WalkOptions) (c : ClassId) :
    WalkReport Settled Descriptor (Option Fault) :=
  Walker.check i.provider i.depth { options } i.world.settled (.concrete (.cls c))

/-- What may be remembered behind walks of some classes, each done any number of times, in any
order. -/
inductive Kept (i : Inspector) (options : WalkOptions) (roots : Set ClassId) : Settled → Prop
  | start : Kept i options roots i.world.settled
  | walk {kept : Settled} {c : ClassId} : Kept i options roots kept → c ∈ roots →
      Kept i options roots (walkOf (i.settle kept) options c).memory

/-- Walks of some classes leave the courses of all that these classes reach as they are, whatever is
remembered behind the walks. -/
def LeavesCourses (i : Inspector) (options : WalkOptions) (roots : Set ClassId) : Prop :=
  ∀ kept, Kept i options roots kept → ∀ c ∈ roots, ∀ d, i.answers.Reaches options (.cls c) d →
    (i.settle kept).answers.course options d = i.answers.course options d

/-- A target whose check no fault ends: its walk comes to a result, or it is absent. -/
inductive Checkable (i : Inspector) (options : WalkOptions) (target : String) : Prop
  | walked {c : ClassId} {failure : Option Fault} : i.world.resolveRoot target = .ok c →
      (walkOf i options c).outcome = .ok failure → Checkable i options target
  | absent {fault failure : Fault} : i.world.resolveRoot target = .error fault →
      absentRoot? target fault = some failure → Checkable i options target

section

variable {i : Inspector} {options : WalkOptions} {roots : Set ClassId} {kept : Settled}

/-- What is remembered shows in the outcome and the marks of no walk if it shows in no course of
what the walk can reach. -/
theorem walkOf_settle {c : ClassId} (h : ∀ d, i.answers.Reaches options (.cls c) d →
      (i.settle kept).answers.course options d = i.answers.course options d) :
    (walkOf (i.settle kept) options c).outcome = (walkOf i options c).outcome ∧
      (walkOf (i.settle kept) options c).marked = (walkOf i options c).marked := by
  have hroot : ∀ d ∈ (TypeRef.concrete (Descriptor.cls c)).course.visits,
      i.answers.Reaches options (.cls c) d := by
    intro d hd
    obtain rfl := List.mem_singleton.1 hd
    exact .refl
  obtain ⟨houtcome, hmarked, -⟩ := Walker.load_of_course_on (w := { options }) i.gives_provider
    (i.settle kept).gives_provider trivial trivial hroot
    (fun _ hd _ he => hd.tail (Answers.depends_of_mem_visits he)) (fun d hd => (h d hd).symm) rfl
    i.depth
  exact ⟨congrArg Walker.failure houtcome.symm, hmarked.symm⟩

theorem comesTo_walked (hkept : LeavesCourses i options roots) (target : String) {c : ClassId}
    (hc : c ∈ roots) {failure : Option Fault} (h : (walkOf i options c).outcome = .ok failure) :
    ComesTo (fun kept => (i.settle kept).provider) i.depth options (Kept i options roots)
      (target, .ok (.cls c)) (verdict target (walkOf i options c).marked.length failure)
      failure.isNone := by
  intro kept hk
  obtain ⟨houtcome, hmarked⟩ := walkOf_settle (hkept kept hk c hc)
  obtain ⟨hresult, hprints⟩ := checkRoot_of_outcome target (houtcome.trans h)
  refine ⟨_, .walk hk hc, hresult, hprints.trans ?_⟩
  rw [← hmarked]
  rfl

/-- Targets with the classes that they name, or with why these are absent. -/
def locateAll (u : Universe) (targets : List String) :
    Except Fault (List (String × Except Fault Descriptor)) :=
  targets.mapM fun t => do
    return (t, ← locate (fun t => (u.resolveRoot t).map Descriptor.cls) t)

/-- A target that can be checked is located, and what it is located as comes to a line. -/
theorem Checkable.exists_comesTo (hkept : LeavesCourses i options roots) {target : String}
    (hroots : ∀ c, i.world.resolveRoot target = .ok c → c ∈ roots)
    (h : Checkable i options target) :
    ∃ root line isResolved,
      locate (fun t => (i.world.resolveRoot t).map Descriptor.cls) target = .ok root ∧
        ComesTo (fun kept => (i.settle kept).provider) i.depth options (Kept i options roots)
          (target, root) line isResolved := by
  cases h with
  | walked hc hwalk =>
    refine ⟨_, _, _, ?_, comesTo_walked hkept target (hroots _ hc) hwalk⟩
    simp only [locate, hc, Except.map]
  | @absent fault failure hfault hfailure =>
    refine ⟨.error failure, _, _, ?_, comesTo_absent target failure⟩
    simp only [locate, hfault, Except.map, hfailure]

end

/-- The inspector with which classes are checked if no module is ignored on the command line. -/
def inspectorOf (world : Universe) (settings : Settings) : Inspector :=
  { world, ignored := settings.ignoredModules.map some }

namespace Surroundings

variable {s : Surroundings}

/-- A check of classes that are all located checks what they are located as. -/
theorem checkClasses_eq (options : WalkOptions)
    (hl : ∀ entry ∈ s.entries, ∃ loaded, entry.loaded = .ok loaded)
    (hs : Allows "python" s.entries s.settings) {targets : List String}
    {roots : List (String × Except Fault Descriptor)} (h : locateAll s.world targets = .ok roots) :
    let i := inspectorOf s.world s.settings
    let checks := checkTargets (fun kept => (i.settle kept).provider) i.depth options
      s.world.settled roots
    (s.checkClasses options targets []).result = checks.result ∧
      (s.checkClasses options targets []).prints = checks.prints := by
  intro i checks
  have required (v : List Value) : (s.require (.checkClasses targets []) "python"
      "ignored_modules" (.list v)).Yields () :=
    yields_require hl hs (.tail _ (.head _)) (by simp) rfl
  obtain ⟨hresult, hprints⟩ := (required _).andThen
  obtain ⟨hresult', hprints'⟩ := (Steps.yields_attempt h).andThen
  simp only [checkClasses, List.append_nil]
  exact ⟨hresult.trans hresult', hprints.trans hprints'⟩

end Surroundings

/-! ### Runs -/

/-- A run for some targets prints one line for each of them, that of the run with this target alone,
and ends with status 1 if one of those runs does, and else with status 0. -/
structure ChecksEachAlone (run : List String → Run) (targets : List String) : Prop where
  lines : List.Forall₂ (fun target line => (run [target]).prints = [line]) targets
    (run targets).prints
  ending : (run targets).ending =
    .exit (if ∃ target ∈ targets, (run [target]).ending = .exit 1 then 1 else 0)

/-- Runs in which each target has a line and a verdict of its own. -/
def HasLines (run : List String → Run) (targets : List String) (line : String → String)
    (isResolved : String → Bool) : Prop :=
  ∀ ts, ts ≠ [] → (∀ x ∈ ts, x ∈ targets) →
    (run ts).prints = ts.map line ∧ (run ts).ending = endingOf (.ok (ts.all isResolved))

namespace HasLines

variable {run : List String → Run} {targets : List String} {line : String → String}
  {isResolved : String → Bool}

theorem ending_eq_one_iff (h : HasLines run targets line isResolved) {ts : List String}
    (hne : ts ≠ []) (hts : ∀ x ∈ ts, x ∈ targets) :
    (run ts).ending = .exit 1 ↔ ∃ x ∈ ts, isResolved x = false := by
  rw [(h ts hne hts).2]
  cases hall : ts.all isResolved with
  | true => simpa [endingOf] using hall
  | false => simpa [endingOf, unresolvedStatus] using hall

theorem checksEachAlone (h : HasLines run targets line isResolved) (hne : targets ≠ []) :
    ChecksEachAlone run targets := by
  have single {x : String} (hx : x ∈ targets) : ∀ y ∈ [x], y ∈ targets := by simpa using hx
  obtain ⟨hprints, hending⟩ := h targets hne fun _ hx => hx
  constructor
  · rw [hprints, List.forall₂_map_right_iff, List.forall₂_same]
    exact fun x hx => (h [x] (by simp) (single hx)).1
  · have unresolved : (∃ x ∈ targets, (run [x]).ending = .exit 1) ↔
        ∃ x ∈ targets, isResolved x = false :=
      exists_congr fun x => and_congr_right fun hx =>
        (h.ending_eq_one_iff (by simp) (single hx)).trans (by simp)
    simp only [unresolved]
    rw [hending]
    cases hall : targets.all isResolved with
    | true =>
      have hnone : ¬∃ x ∈ targets, isResolved x = false := by simpa using hall
      rw [if_neg hnone]
      rfl
    | false =>
      have hsome : ∃ x ∈ targets, isResolved x = false := by simpa using hall
      rw [if_pos hsome]
      rfl

/-- The order of the targets is the order of the lines, and shows nowhere else. -/
theorem perm (h : HasLines run targets line isResolved) (hne : targets ≠ []) {ts : List String}
    (hp : ts.Perm targets) :
    (run ts).prints.Perm (run targets).prints ∧ (run ts).ending = (run targets).ending := by
  obtain ⟨hprints, hending⟩ := h targets hne fun _ hx => hx
  obtain ⟨hprints', hending'⟩ := h ts (fun hnil => hne (hnil ▸ hp).nil_eq.symm)
    fun _ hx => hp.mem_iff.1 hx
  have hall : ts.all isResolved = targets.all isResolved := by
    rw [Bool.eq_iff_iff, List.all_eq_true, List.all_eq_true]
    exact forall_congr' fun x => by rw [hp.mem_iff]
  exact ⟨by rw [hprints, hprints']; exact hp.map line, by rw [hending, hending', hall]⟩

end HasLines

namespace Run

/-- Classes can be checked in a working directory: its settings are there and leave the provider of
classes enabled, their logger is there, and all entry points load. -/
structure CanCheck (entries : List Discovery.EntryPoint) (t : Files.Tree) (settings : Settings) :
    Prop where
  loaded : ∀ targets, settingsOf t (classesRequest targets) = .ok settings
  logger : ∀ targets, ∃ chosen, chooseLogger t (classesRequest targets) settings = .ok chosen
  python : Allows "python" entries settings
  entries : ∀ entry ∈ entries, ∃ loaded, entry.loaded = .ok loaded

variable {world : Universe} {entries : List Discovery.EntryPoint} {t : Files.Tree}
  {settings : Settings} {targets : List String}

/-- A run for targets that are all located ends and prints like the checks of what they are located
as. -/
theorem ofArguments_targets (hready : CanCheck entries t settings) (hne : targets ≠ [])
    (htargets : ∀ x ∈ targets, IsTarget x) {roots : List (String × Except Fault Descriptor)}
    (hroots : locateAll world targets = .ok roots) :
    let run := ofArguments world entries t ("check-python" :: targets)
    let i := inspectorOf world settings
    let checks := checkTargets (fun kept => (i.settle kept).provider) i.depth settings.walkOptions
      world.settled roots
    run.ending = endingOf checks.result ∧ run.prints = checks.prints := by
  intro run i checks
  obtain ⟨⟨logger, tree⟩, hlogger⟩ := hready.logger targets
  obtain ⟨hending, hprints⟩ := ofArguments_eq_perform world entries (parse_targets hne htargets)
    (hready.loaded targets) hlogger
  obtain ⟨hresult, hlines⟩ := Surroundings.checkClasses_eq (s := ⟨world, entries, tree, settings⟩)
    settings.walkOptions hready.entries hready.python hroots
  exact ⟨hending.trans (congrArg endingOf hresult), hprints.trans hlines⟩

/-- Each target has its line and its verdict in all runs for some of the targets. -/
theorem exists_hasLines (hready : CanCheck entries t settings)
    (htargets : ∀ x ∈ targets, IsTarget x)
    (hchecks : ∀ x ∈ targets, Checkable (inspectorOf world settings) settings.walkOptions x)
    (hkept : LeavesCourses (inspectorOf world settings) settings.walkOptions
      {c | ∃ x ∈ targets, world.resolveRoot x = .ok c}) :
    ∃ line isResolved, HasLines (fun ts => ofArguments world entries t ("check-python" :: ts))
      targets line isResolved := by
  have comes (x : String) (hx : x ∈ targets) :=
    (hchecks x hx).exists_comesTo hkept fun c hc => ⟨x, hx, hc⟩
  choose! root line isResolved hroot hcomes using comes
  refine ⟨line, isResolved, fun ts hne hts => ?_⟩
  have located : locateAll world ts = .ok (ts.map fun x => (x, root x)) := by
    refine mapM_eq_ok_map fun x hx => ?_
    have hx' : locate (fun t => (world.resolveRoot t).map Descriptor.cls) x = .ok (root x) :=
      hroot x (hts x hx)
    rw [hx']
    rfl
  obtain ⟨hending, hprints⟩ :=
    ofArguments_targets hready hne (fun x hx => htargets x (hts x hx)) located
  obtain ⟨hresults, hprinted⟩ := checkTargets_of_comesTo (fun x hx => hcomes x (hts x hx)) .start
  exact ⟨hprints.trans hprinted, hending.trans (congrArg endingOf hresults)⟩

open Classes.Inspector (circular)

/-- Without settings of their own, classes can be checked. -/
theorem canCheck_lacking : CanCheck [] lackingTree { root := ⟨.slash, ["home"]⟩ } where
  loaded _ := settingsOf_lacking _ rfl
  logger _ := ⟨_, chooseLogger_lacking⟩
  python := ⟨by simp, .inl rfl⟩
  entries := by simp

theorem resolveRoot_circular : circular.world.resolveRoot "m:A" = .ok (.declared 0) ∧
    circular.world.resolveRoot "m:B" = .ok (.declared 1) ∧
    circular.world.resolveRoot "n:A" =
      .error (.linkage "Cannot import module n: No module named 'n'" (some "n:A")) := by
  simp only [Universe.resolveRoot, Universe.rootParts, String.contains_char_eq]
  decide +kernel

/-- Walks of circular classes resolve and keep nothing, as there are no formulas. -/
theorem walkOf_circular : ∀ c ∈ [ClassId.declared 0, .declared 1],
    (walkOf circular {} c).outcome = .ok none ∧
      List.isEmpty (walkOf (circular.settle []) {} c).memory := by
  decide +kernel

theorem kept_circular {roots : Set ClassId}
    (hroots : ∀ c ∈ roots, c = .declared 0 ∨ c = .declared 1) {kept : Settled}
    (h : Kept circular {} roots kept) : kept = [] := by
  induction h with
  | start => rfl
  | walk _ hc ih =>
    subst ih
    exact List.isEmpty_iff.1 (walkOf_circular _ (by simpa using hroots _ hc)).2

/-- Two classes that name one formula. In the first, `X` is nothing, and in the module there is no
`X`. -/
def sharing : Universe where
  modules := .ofEntries [("m", {
    attributes := .ofEntries [("__metadata__", .tuple []), ("R", .forward (some 0) "X" false),
      ("A", .cls (.declared 0)), ("B", .cls (.declared 1))] })]
  classes := [
    { module := some "m", qualname := "A", order := [.declared 0, .builtin "object"],
      parents := [.builtin "object"], fields := .ofEntries [("x", .str "R")],
      attributes := .ofEntries [("X", .value .null)] },
    { module := some "m", qualname := "B", order := [.declared 1, .builtin "object"],
      parents := [.builtin "object"],
      attributes := .ofEntries [("f", .function
        { name := "f", home := "m", hints := [("return", .str "R")] })] }]
  formulas := 1

/-- The checks of classes that share a formula. -/
def sharingChecks (roots : List (String × Except Fault Descriptor)) : Steps Bool :=
  checkTargets (fun kept => (Inspector.settle { world := sharing } kept).provider)
    (Inspector.depth { world := sharing }) {} [] roots

/-- Alone, the second class cannot be resolved; behind the first one it can. -/
theorem sharingChecks_eq :
    let alone := sharingChecks [("m:B", .ok (.cls (.declared 1)))]
    let both :=
      sharingChecks [("m:A", .ok (.cls (.declared 0))), ("m:B", .ok (.cls (.declared 1)))]
    (alone.result = .ok false ∧
      alone.prints = ["m:B: unresolvable type X (Type X not present)"]) ∧
    (both.result = .ok true ∧ both.prints =
      ["m:A: closure resolved (2 types)", "m:B: closure resolved (2 types)"]) := by
  decide +kernel

theorem locateAll_sharing :
    locateAll sharing ["m:B"] = .ok [("m:B", .ok (.cls (.declared 1)))] ∧
    locateAll sharing ["m:A", "m:B"] =
      .ok [("m:A", .ok (.cls (.declared 0))), ("m:B", .ok (.cls (.declared 1)))] := by
  have roots : sharing.resolveRoot "m:A" = .ok (.declared 0) ∧
      sharing.resolveRoot "m:B" = .ok (.declared 1) := by
    simp only [Universe.resolveRoot, Universe.rootParts, String.contains_char_eq]
    decide +kernel
  simp only [locateAll, locate, List.mapM_cons, List.mapM_nil, roots.1, roots.2, Except.map]
  exact ⟨rfl, rfl⟩

/-- A run for classes that share a formula checks these classes. -/
theorem ofArguments_sharing {ts : List String} (hne : ts ≠ [])
    (hts : ∀ x ∈ ts, x.toList.head? ≠ some '-') {roots : List (String × Except Fault Descriptor)}
    (hroots : locateAll sharing ts = .ok roots) :
    let run := ofArguments sharing [] lackingTree ("check-python" :: ts)
    run.ending = endingOf (sharingChecks roots).result ∧
      run.prints = (sharingChecks roots).prints :=
  ofArguments_targets canCheck_lacking hne (fun x hx => isTarget_of_head? (hts x hx)) hroots

/-- Settings that enable the registry alone. -/
def registryOnly : List UInt8 := "providers:\n  enabled:\n  - registry\n".toUTF8.toList

theorem settingsOf_registryOnly (request : Request) (h : request.config = some ".") :
    settingsOf (settingsTree registryOnly) request =
      .ok { root := settingsPath.parent, enabled := ["registry"] } := by
  rw [settingsOf_eq_ofBytes (congrArg pathOf h) (filePath_settingsTree _) (read_settingsTree _)]
  decide +kernel

/-- With those settings a check of classes is refused. -/
theorem ofArguments_registryOnly :
    let run := ofArguments sharing [] (settingsTree registryOnly) ["check-python", "m:A"]
    run.ending = .exit 2 ∧ run.prints = [] := by
  have hrequest : Request.parse ["check-python", "m:A"] = .ok (classesRequest ["m:A"]) :=
    parse_targets (by simp) fun x hx => isTarget_of_head? (by
      obtain rfl := List.mem_singleton.1 hx
      decide)
  obtain ⟨hending, hprints⟩ := ofArguments_eq_perform sharing [] hrequest
    (settingsOf_registryOnly _ rfl) (show chooseLogger _ _ _ =
      .ok (⟨Log.warningLevel, none⟩, settingsTree registryOnly) from rfl)
  exact ⟨hending, hprints⟩

end Run

end TypeReach.Command
