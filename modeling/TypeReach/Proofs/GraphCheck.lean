import TypeReach.Command.Run
import TypeReach.Proofs.Enabled
import TypeReach.Proofs.WrittenClosure

/-!
# Checks of graph files

A run that checks a type of a graph file, with settings that leave the registry enabled, is told by
the data in the file: it is refused if no environment can be loaded, prints that the closure is
resolved if all names that are reached and forced are keys, and else prints a name that is none.
-/

namespace TypeReach

namespace Value

/-- A mapping that counts as false is empty. -/
theorem eq_nil_of_not_isTruthy {v : Value} {es : List (Value × Value)} (h : v.opened = .map es)
    (ht : v.isTruthy = false) : es = [] := by
  cases v with
  | map entries =>
    cases h
    simpa [isTruthy] using ht
  | loop name body =>
    cases body with
    | map entries =>
      have hnil : entries = [] := by simpa [isTruthy] using ht
      subst hnil
      simpa [opened, subst, substEntries] using h.symm
    | again n =>
      simp only [opened, subst] at h
      split at h <;> cases h
    | loop n body =>
      simp only [opened, subst] at h
      split at h <;> cases h
    | _ => simp [opened, subst] at h
  | _ => cases h

end Value

namespace Graph.Environment

theorem opened_of_ofValue {v : Value} {e : Environment} (h : ofValue v = .ok e) :
    ∃ es, v.opened = .map es := by
  unfold ofValue at h
  split at h
  · next es hes => exact ⟨es, hes⟩
  · cases h

theorem ofValue_congr {v w : Value} (h : v.opened = w.opened) : ofValue v = ofValue w := by
  unfold ofValue
  rw [h]

/-- A graph file with a mapping gives the environment of that mapping. -/
theorem ofFile_eq {t : Files.Tree} {p : Files.Path} {bytes : List UInt8} {data : Value}
    {es : List (Value × Value)} (hbytes : t.read p = .ok bytes)
    (hdata : (Files.documentText bytes).bind Files.documentValue = .ok data)
    (hmap : data.opened = .map es) : ofFile t p = (ofValue data).mapError .data := by
  have hempty : ofValue (if data.isTruthy then data else .map []) = ofValue data := by
    cases ht : data.isTruthy with
    | true => rfl
    | false =>
      refine ofValue_congr ?_
      rw [hmap, Value.eq_nil_of_not_isTruthy hmap ht]
      rfl
  have hof : ofBytes bytes = (ofValue data).mapError .data := by
    rw [ofBytes, hdata, ← hempty]
    rfl
  rw [ofFile, hbytes]
  exact hof

end Graph.Environment

namespace Command

open TypeReach.Graph (Complete Reached Forced typeBody?)

/-- What an effect prints. -/
def Effect.printed? : Effect → Option String
  | print line => some line
  | _ => none

namespace Steps

variable {β γ : Type}

/-- What steps print. -/
def prints (s : Steps β) : List String :=
  s.effects.filterMap Effect.printed?

/-- Steps give a value, and print nothing. -/
def Yields (s : Steps β) (b : β) : Prop :=
  s.result = .ok b ∧ s.prints = []

theorem Yields.andThen {s : Steps β} {b : β} {next : β → Steps γ} (h : s.Yields b) :
    (s.andThen next).result = (next b).result ∧ (s.andThen next).prints = (next b).prints := by
  obtain ⟨effects, result⟩ := s
  obtain ⟨rfl, hp⟩ := h
  refine ⟨rfl, ?_⟩
  simp only [prints] at hp
  simp [prints, List.filterMap_append, hp]

/-- Steps end the run for a complaint, and print nothing. -/
def Refuses (s : Steps β) : Prop :=
  s.result = .error (.exit usageStatus) ∧ s.prints = []

theorem Refuses.after {s : Steps β} {b : β} {next : β → Steps γ} (h : s.Yields b)
    (hn : (next b).Refuses) : (s >>= next).Refuses :=
  ⟨h.andThen.1.trans hn.1, h.andThen.2.trans hn.2⟩

theorem Refuses.bind {s : Steps β} (h : s.Refuses) (next : β → Steps γ) : (s >>= next).Refuses := by
  obtain ⟨effects, result⟩ := s
  obtain ⟨rfl, hp⟩ := h
  exact ⟨rfl, hp⟩

theorem yields_attempt {action : Action} {r : Except Fault β} {b : β} (h : r = .ok b) :
    (attempt action r).Yields b := by
  rw [h]
  exact ⟨rfl, rfl⟩

theorem refuses_attempt {action : Action} {r : Except Fault β} {fault : Fault}
    (h : r = .error fault) (hf : isReported fault = true) : (attempt action r).Refuses := by
  rw [h, attempt, if_pos hf]
  exact ⟨rfl, rfl⟩

end Steps

/-- A line that names a type that could not be resolved. -/
def failureLine (root name cause : String) : String :=
  root ++ ": unresolvable type " ++ name ++ " (" ++ cause ++ ")"

/-- The line about a root for which a machine comes to a verdict. -/
def lineOf (root : String) (types : Nat) : Graph.Verdict → String
  | .resolved => root ++ ": closure resolved (" ++ toString types ++ " types)"
  | .missing name => failureLine root name ("No definition found for type " ++ name)
  | .unforced name => failureLine root name ("Type " ++ name ++ " not present")

/-- Steps print what a machine that has to walk a root comes to, and tell whether that is the
end. -/
def Tells (e : Graph.Environment) (options : WalkOptions) (root : String) (s : Steps Bool) : Prop :=
  ∃ verdict marked,
    Graph.Machine.Halts e options ⟨[.walk (.named root)], []⟩ (verdict, marked) ∧
      s.prints = [lineOf root marked.length verdict] ∧ s.result = .ok (verdict == .resolved)

section

variable {e : Graph.Environment} {options : WalkOptions} {root : String}

theorem Tells.of_eq {s s' : Steps Bool} (h : Tells e options root s) (hr : s'.result = s.result)
    (hp : s'.prints = s.prints) : Tells e options root s' := by
  obtain ⟨verdict, marked, hh, hprints, hresult⟩ := h
  exact ⟨verdict, marked, hh, hp.trans hprints, hr.trans hresult⟩

theorem prints_noteEffects (notes : List Note) :
    (noteEffects notes).filterMap Effect.printed? = [] := by
  simp [noteEffects, Effect.printed?, List.filterMap_map, Function.comp_def]

/-- A check that does not end in another fault prints one line about it. -/
theorem checkRoot_of_outcome {σ δ α ν : Type} [DecidableEq δ] {p : Provider σ δ α ν} {depth : Nat}
    {memory : σ} {d : δ} {failure : Option Fault} (target : String)
    (h : (Walker.check p depth { options } memory (.concrete d)).outcome = .ok failure) :
    (checkRoot p depth options memory target d).result = .ok (failure.isNone,
        (Walker.check p depth { options } memory (.concrete d)).memory) ∧
      (checkRoot p depth options memory target d).prints = [verdict target
        (Walker.check p depth { options } memory (.concrete d)).marked.length failure] := by
  simp only [checkRoot, Steps.emit, Steps.emitAll, Steps.bind_eq, Steps.pure_eq, Steps.andThen_ok,
    h, Steps.ofExcept, Steps.skip, Steps.prints, List.filterMap_append, prints_noteEffects]
  exact ⟨trivial, rfl⟩

/-- Targets are checked one by one: what is printed about the first comes first, and the others are
checked with what the provider is once it remembers that walk. -/
theorem checkTargets_cons {σ δ α ν : Type} [DecidableEq δ] (provider : σ → Provider σ δ α ν)
    {depth : Nat} {memory memory' : σ} {target : String} (resolved : Except Fault δ) {this : Bool}
    (h : (checkTarget (provider memory) depth options memory target resolved).result =
      .ok (this, memory')) (ts : List (String × Except Fault δ)) :
    (checkTargets provider depth options memory ((target, resolved) :: ts)).result =
        (checkTargets provider depth options memory' ts).result.map (this && ·) ∧
      (checkTargets provider depth options memory ((target, resolved) :: ts)).prints =
        (checkTarget (provider memory) depth options memory target resolved).prints ++
          (checkTargets provider depth options memory' ts).prints := by
  rw [checkTargets]
  cases hcheck : checkTarget (provider memory) depth options memory target resolved with
  | mk effects result =>
    rw [hcheck] at h
    obtain rfl : result = _ := h
    simp only [Steps.bind_eq, Steps.pure_eq, Steps.andThen_ok, Steps.prints]
    cases hothers : checkTargets provider depth options memory' ts with
    | mk effects' result' =>
      cases result' with
      | ok others => exact ⟨rfl, by simp⟩
      | error ending => exact ⟨rfl, by simp⟩

theorem checkRoot_tells (he : e.AllLegible) : Tells e options root
    (checkTargets (fun _ => e.provider) e.depth options .empty [(root, .ok (e.handle root))]) := by
  obtain ⟨verdict, hh, houtcome, hmarked⟩ :=
    Walker.load_halts he Graph.faithful_empty { options } le_rfl (.named root)
  have hcheck : (Walker.check e.provider e.depth { options } .empty
      (.concrete (.named root))).outcome = Walker.failure verdict.outcome :=
    congrArg Walker.failure houtcome
  have tells {failure : Option Fault} (h : Walker.failure verdict.outcome = .ok failure) :
      let checks :=
        checkTargets (fun _ => e.provider) e.depth options .empty [(root, .ok (e.handle root))]
      checks.result = .ok failure.isNone ∧
        checks.prints = [Command.verdict root (Walker.check e.provider e.depth { options } .empty
          (.concrete (.named root))).marked.length failure] := by
    obtain ⟨hresult, hprints⟩ := checkRoot_of_outcome root (hcheck.trans h)
    obtain ⟨hresults, hlines⟩ :=
      checkTargets_cons (fun _ => e.provider) (.ok (e.handle root)) hresult []
    exact ⟨hresults.trans (by simp [checkTargets, Except.map]),
      (hlines.trans (List.append_nil _)).trans hprints⟩
  refine ⟨verdict, _, hh, ?_⟩
  cases verdict with
  | resolved =>
    obtain ⟨hresult, hprints⟩ := tells rfl
    rw [← hmarked houtcome]
    exact ⟨hprints, hresult⟩
  | missing name =>
    obtain ⟨hresult, hprints⟩ := tells rfl
    exact ⟨hprints, hresult⟩
  | unforced name =>
    obtain ⟨hresult, hprints⟩ := tells rfl
    exact ⟨hprints, hresult⟩

theorem Tells.after {β : Type} {s : Steps β} {b : β} {next : β → Steps Bool} (h : s.Yields b)
    (ht : Tells e options root (next b)) : Tells e options root (s >>= next) :=
  ht.of_eq h.andThen.1 h.andThen.2

/-- What is printed about a closure that is not resolved: one line, with a name that is reached or
forced and is no key. -/
def Misses (data : Value) (options : WalkOptions) (root : String) (lines : List String) : Prop :=
  ∃ name, typeBody? data name = none ∧
    (Reached data options root name ∧
        lines = [failureLine root name ("No definition found for type " ++ name)] ∨
      Forced data options root name ∧
        lines = [failureLine root name ("Type " ++ name ++ " not present")])

/-- What a check of a root in loaded data prints and tells. -/
theorem Tells.decides {data : Value} (he : Graph.Environment.ofValue data = .ok e) {s : Steps Bool}
    (h : Tells e options root s) :
    (Complete data options root ∧ {name | Reached data options root name}.Finite ∧
      s.result = .ok true ∧ s.prints = [root ++ ": closure resolved (" ++
        toString {name | Reached data options root name}.ncard ++ " types)"]) ∨
    (¬Complete data options root ∧ s.result = .ok false ∧ Misses data options root s.prints) := by
  obtain ⟨verdict, marked, hh, hprints, hresult⟩ := h
  cases verdict with
  | resolved =>
    obtain ⟨hcomplete, hfinite, hcard⟩ := Graph.complete_of_halts he hh
    exact .inl ⟨hcomplete, hfinite, hresult, by rw [hcard]; exact hprints⟩
  | missing name =>
    obtain ⟨hreached, hnone⟩ := Graph.reached_of_halts he hh
    exact .inr ⟨fun hc => hc name (.inl hreached) hnone, hresult,
      name, hnone, .inl ⟨hreached, hprints⟩⟩
  | unforced name =>
    obtain ⟨hforced, hnone⟩ := Graph.forced_of_halts he hh
    exact .inr ⟨fun hc => hc name (.inr hforced) hnone, hresult,
      name, hnone, .inr ⟨hforced, hprints⟩⟩

end

/-- The settings leave a provider enabled, and enable none that there is none of. -/
structure Allows (name : String) (entries : List Discovery.EntryPoint) (settings : Settings) :
    Prop where
  known : ∀ other ∈ settings.enabled, Discovery.Known entries other
  enabled : settings.enabled = [] ∨ name ∈ settings.enabled.map Text.lower

/-- The settings leave the registry enabled, and enable no provider that there is none of. -/
structure AllowsRegistry (entries : List Discovery.EntryPoint) (settings : Settings) : Prop where
  known : ∀ name ∈ settings.enabled, Discovery.Known entries name
  registry : settings.enabled = [] ∨ "registry" ∈ settings.enabled.map Text.lower

theorem AllowsRegistry.allows {entries : List Discovery.EntryPoint} {settings : Settings}
    (h : AllowsRegistry entries settings) : Allows "registry" entries settings :=
  ⟨h.known, h.registry⟩

namespace Surroundings

variable {s : Surroundings} {action : Action}

/-- A provider that is built in is there if the settings leave it enabled. -/
theorem yields_require {c : Discovery.ProviderClass} {name option : String} {v : Value}
    {made : Discovery.Made} (hl : ∀ entry ∈ s.entries, ∃ loaded, entry.loaded = .ok loaded)
    (hs : Allows name s.entries s.settings) (hb : (name, .builtIn c) ∈ Discovery.builtIns)
    (hoption : option ∉ ["name", "enabled"]) (hmade : c.make [(option, v)] = .ok made) :
    (s.require action name option v).Yields () := by
  have known : ∀ names, s.enabled = some names → ∀ n ∈ names, Discovery.Known s.entries n := by
    intro names h n hn
    unfold enabled at h
    split at h
    · cases h
    · cases h
      exact hs.known n hn
  have enables : Discovery.Enables s.enabled name := by
    intro names h
    unfold enabled at h
    split at h
    · cases h
    · next hne =>
      cases h
      refine hs.enabled.resolve_left fun hnil => hne ?_
      rw [hnil]
      rfl
  rw [require, Discovery.create_builtIn hl known hb enables hoption hmade]
  exact ⟨rfl, rfl⟩

variable {graph : String} {bytes : List UInt8} {data : Value} (options : WalkOptions)
  (root : String) {es : List (Value × Value)}

/-- A graph file that no environment can be loaded from is refused. -/
theorem checkGraph_refuses (hbytes : s.tree.read (Files.Path.ofText graph) = .ok bytes)
    (hdata : (Files.documentText bytes).bind Files.documentValue = .ok data)
    (hmap : data.opened = .map es) {why : Graph.LoadError}
    (hwhy : Graph.Environment.ofValue data = .error why) :
    (s.checkGraph options (some graph) (some root)).Refuses := by
  have hfile := Graph.Environment.ofFile_eq hbytes hdata hmap
  rw [hwhy] at hfile
  have reported : isReported why.toFault = true := by cases why <;> rfl
  exact .after (Steps.yields_attempt rfl)
    (.bind (Steps.refuses_attempt (by rw [hfile]; rfl) reported) _)

/-- A graph file that an environment can be loaded from is checked. -/
theorem checkGraph_tells (hl : ∀ entry ∈ s.entries, ∃ loaded, entry.loaded = .ok loaded)
    (hs : AllowsRegistry s.entries s.settings)
    (hbytes : s.tree.read (Files.Path.ofText graph) = .ok bytes)
    (hdata : (Files.documentText bytes).bind Files.documentValue = .ok data)
    (hmap : data.opened = .map es) {e : Graph.Environment}
    (he : Graph.Environment.ofValue data = .ok e) :
    Tells e options root (s.checkGraph options (some graph) (some root)) := by
  have hfile := Graph.Environment.ofFile_eq hbytes hdata hmap
  rw [he] at hfile
  -- Before the check come the path, the environment, a record, the provider and the root.
  refine .after (Steps.yields_attempt rfl) (.after (Steps.yields_attempt (by rw [hfile]; rfl)) ?_)
  have required : (s.require (.checkGraph (some graph) (some root)) "registry" "environment"
      .null).Yields () := yields_require hl hs.allows (.head _) (by simp) rfl
  refine .after ⟨rfl, rfl⟩ (.after required (.after (Steps.yields_attempt rfl) ?_))
  exact checkRoot_tells (Graph.Environment.allLegible_of_ofValue he)

/-- A request is performed when its limit is set, which prints nothing. -/
theorem steps_eq (request : Request) : (s.steps request).result = (s.perform request).result ∧
    (s.steps request).prints = (s.perform request).prints := by
  have limits : (Steps.emitAll (s.settings.recursionLimit.toList.map Effect.limit)).Yields () := by
    refine ⟨rfl, ?_⟩
    simp [Steps.prints, Steps.emitAll, Effect.printed?, List.filterMap_map, Function.comp_def]
  exact limits.andThen

end Surroundings

/-- The switches of the walks of a request. -/
def Request.walkOptions (request : Request) (settings : Settings) : WalkOptions :=
  if request.skipSupertype then { traverseSupertype := false } else settings.walkOptions

namespace Run

/-- What a run prints. -/
def prints (r : Run) : List String :=
  r.effects.filterMap Effect.printed?

variable (world : Classes.Universe) {entries : List Discovery.EntryPoint} {t tree : Files.Tree}
  {texts : List String} {request : Request} {graph root : String} {settings : Settings}
  {logger : Log.Logger} {bytes : List UInt8} {data : Value} {es : List (Value × Value)}

/-- A request whose settings and logger are there ends as it is performed, and prints the same. -/
theorem ofArguments_eq_perform (entries : List Discovery.EntryPoint)
    (hrequest : Request.parse texts = .ok request)
    (hsettings : settingsOf t request = .ok settings)
    (hlogger : chooseLogger t request settings = .ok (logger, tree)) :
    let run := ofArguments world entries t texts
    let performed := Surroundings.perform { world, entries, tree, settings } request
    run.ending = endingOf performed.result ∧ run.prints = performed.prints := by
  intro run performed
  obtain ⟨hresult, hprints⟩ :=
    Surroundings.steps_eq (s := { world, entries, tree, settings }) request
  have hrun : run = ⟨some logger, tree,
      (Surroundings.steps { world, entries, tree, settings } request).effects,
      endingOf (Surroundings.steps { world, entries, tree, settings } request).result⟩ := by
    simp only [run, ofArguments, hrequest, ofRequest, hsettings, hlogger]
  rw [hrun]
  exact ⟨congrArg endingOf hresult, hprints⟩

/-- A check of a graph file ends like the steps of the check, and prints the same. -/
theorem ofArguments_eq (entries : List Discovery.EntryPoint)
    (hrequest : Request.parse texts = .ok request)
    (haction : request.action = .checkGraph (some graph) (some root))
    (hsettings : settingsOf t request = .ok settings)
    (hlogger : chooseLogger t request settings = .ok (logger, tree)) :
    let run := ofArguments world entries t texts
    let s : Surroundings := { world, entries, tree, settings }
    let check := s.checkGraph (request.walkOptions settings) (some graph) (some root)
    run.ending = endingOf check.result ∧ run.prints = check.prints := by
  intro run s check
  have hperform : s.perform request = check := by
    simp only [Surroundings.perform, haction]
    rfl
  rw [← hperform]
  exact ofArguments_eq_perform world entries hrequest hsettings hlogger

/-- A graph file in which `A` needs `X`, which is missing. -/
def lackingText : String := "\x7btypes: \x7bA: \x7bfields: \x7bx: X\x7d\x7d\x7d\x7d"

/-- A working directory with that graph file alone. -/
def lackingTree : Files.Tree :=
  { home := ["home"], files := Table.ofEntries [("home/g.yml", lackingText.toUTF8.toList)] }

theorem settingsOf_lacking (request : Request) (h : request.config = some ".") :
    settingsOf lackingTree request = .ok { root := ⟨.slash, ["home"]⟩ } := by
  simp only [settingsOf, h, Settings.load, Settings.filePath, Files.Tree.expandHome,
    Files.Tree.isFolder, Files.Tree.placeHas, Files.Tree.place, Files.Tree.fullPath,
    Settings.ofFile, Files.Tree.contains, Files.Tree.holdsNull, String.contains_char_eq]
  decide +kernel

theorem chooseLogger_lacking {action : Action} :
    chooseLogger lackingTree ⟨false, some ".", false, action⟩ { root := ⟨.slash, ["home"]⟩ } =
      .ok (⟨Log.warningLevel, none⟩, lackingTree) :=
  rfl

theorem read_lacking :
    lackingTree.read (Files.Path.ofText "g.yml") = .ok lackingText.toUTF8.toList := by
  simp only [Files.Tree.read, Files.Tree.place, Files.Tree.holdsNull, String.contains_char_eq]
  decide +kernel

/-- The file holds data that an environment is loaded from, in which `A` mentions the missing `X`. -/
theorem exists_data_lacking :
    ∃ data e, (Files.documentText lackingText.toUTF8.toList).bind Files.documentValue = .ok data ∧
      Graph.Environment.ofValue data = .ok e ∧ ¬Complete data {} "A" := by
  have loads : (((Files.documentText lackingText.toUTF8.toList).bind
      Files.documentValue).toOption.bind fun data =>
        (Graph.Environment.ofValue data).toOption).isSome = true := by decide +kernel
  have places : (((Files.documentText lackingText.toUTF8.toList).bind
      Files.documentValue).toOption.bind fun data => (typeBody? data "A").map fun body =>
        (Graph.expressionPlaces {} body).filterMap Graph.str?) = some ["X"] := by decide +kernel
  have lacks : (((Files.documentText lackingText.toUTF8.toList).bind
      Files.documentValue).toOption.bind fun data => typeBody? data "X").isNone = true := by
    decide +kernel
  cases hdata : (Files.documentText lackingText.toUTF8.toList).bind Files.documentValue with
  | error why =>
    rw [hdata] at loads
    cases loads
  | ok data =>
    rw [hdata] at loads places lacks
    obtain ⟨e, he⟩ := Option.isSome_iff_exists.1 loads
    obtain ⟨body, hbody, hx⟩ := Option.map_eq_some_iff.1 places
    refine ⟨data, e, rfl, ?_, fun hcomplete => ?_⟩
    · change (Graph.Environment.ofValue data).toOption = some e at he
      cases hload : Graph.Environment.ofValue data with
      | error why =>
        rw [hload] at he
        cases he
      | ok e' =>
        rw [hload] at he
        cases he
        rfl
    · have hmem : .str "X" ∈ Graph.expressionPlaces {} body :=
        Graph.mem_filterMap_str?.1 (by rw [hx]; simp)
      have hmentions : Graph.Mentions data {} body "X" :=
        .inl ⟨"X", .concrete "X", hmem, rfl, by simp [TypeRef.targets]⟩
      exact hcomplete "X" (.inl (.single ⟨body, hbody, hmentions⟩))
        (Option.isNone_iff_eq_none.1 lacks)

end Run

end Command

end TypeReach
