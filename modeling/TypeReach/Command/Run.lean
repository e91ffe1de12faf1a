import TypeReach.Command.Check
import TypeReach.Command.Request
import TypeReach.Discovery
import TypeReach.Graph.File
import TypeReach.Settings.File

/-!
# Runs

A run reads the command line, loads the settings, chooses the logger and does what is asked for. It
ends with status 2 if the command line, the settings or the input cannot be used, with status 1 if a
closure is not resolved, and else with status 0.
-/

namespace TypeReach.Command

open Discovery (EntryPoint)
open Files (Path Tree)
open Log (Logger)

/-- The status of a run with a closure that is not resolved. -/
def unresolvedStatus : Nat := 1

/-- The status of a run that cannot be done. -/
def usageStatus : Nat := 2

/-- How the program is used. -/
def usageText : String :=
  "usage: typeclosure [-h] [-v] [--config CONFIG] [--reproduce-supertype-anomaly] "
    ++ "(check-graph [-v] graph root | check-python [-v] [--ignore-module MODULE] targets ... | "
    ++ "providers [-v])"

/-- Whether a fault met while a request is prepared is reported, and the run ended with status 2. -/
def isReported : Fault → Bool
  | .unusable _ => true
  | .unwalkable _ => true
  | .other .value _ | .other .type _ | .other .undecodable _ => true
  | _ => false

/-- A complaint, and the end of the run with status 2. -/
def refuse {β : Type} (text : String) : Steps β := do
  Steps.emit (.complain text)
  Steps.stop (.exit usageStatus)

/-- A value that an action needs, or a report that the action failed. -/
def attempt {β : Type} (action : Action) : Except Fault β → Steps β
  | .ok b => return b
  | .error f =>
    if isReported f then refuse ("typeclosure " ++ action.name ++ " failed: " ++ f.message)
    else Steps.stop (.fault f)

/-- The path that a value names; one without a text names none. -/
def pathOf : Option String → Except Fault Path
  | some text => .ok (Path.ofText text)
  | none => .error (.other .type "expected str, bytes or os.PathLike object, not list")

/-- The name that a value is; one without a text is none. -/
def nameOf : Option String → Except Fault String
  | some text => .ok text
  | none => .error (.unwalkable (.unmarkable "list"))

/-- What a run has at hand: the classes that can be imported, the entry points of providers, the
tree of files, and the settings. -/
structure Surroundings where
  world : Classes.Universe
  entries : List EntryPoint
  tree : Tree
  settings : Settings

namespace Surroundings

variable (s : Surroundings)

/-- The names of the enabled providers; none at all means that all are. -/
def enabled : Option (List String) :=
  if s.settings.enabled.isEmpty then none else some s.settings.enabled

/-- Makes sure that a provider is enabled and takes an option. -/
def require (action : Action) (name option : String) (value : Value) : Steps Unit := do
  let made := Discovery.create name s.enabled s.entries [(option, value)]
  let _ ← attempt action (made.mapError Discovery.DiscoveryError.toFault)

/-- Prints the names of the enabled providers. -/
def listProviders : Steps Unit := do
  let found := Discovery.discover s.enabled s.entries
  let table ← attempt .providers (found.mapError Discovery.DiscoveryError.toFault)
  Steps.emitAll (table.names.map Effect.print)

/-- Checks a type of a graph file. -/
def checkGraph (options : WalkOptions) (graph root : Option String) : Steps Bool := do
  let action := Action.checkGraph graph root
  let path ← attempt action (pathOf graph)
  let loaded := Graph.Environment.ofFile s.tree path
  let e ← attempt action (loaded.mapError (Graph.FileFault.toFault path))
  Steps.emit (detail "providers.registry" (e.loadedMessage path))
  s.require action "registry" "environment" .null
  let root ← attempt action (nameOf root)
  checkTargets (fun _ => e.provider) e.depth options .empty [(root, .ok (e.handle root))]

/-- Checks classes. All of them are resolved before the first is walked, and what formulas stood for
in one walk is settled in the next. -/
def checkClasses (options : WalkOptions) (targets : List String)
    (ignored : List (Option String)) : Steps Bool := do
  let action := Action.checkClasses targets ignored
  let modules := s.settings.ignoredModules.map some ++ ignored
  let listed := modules.map fun m => (m.map Value.str).getD (.list [])
  s.require action "python" "ignored_modules" (.list listed)
  let i : Classes.Inspector := { world := s.world, ignored := modules }
  let resolve := fun target => (s.world.resolveRoot target).map Classes.Descriptor.cls
  let roots ← attempt action (targets.mapM fun t => do return (t, ← locate resolve t))
  checkTargets (fun kept => (i.settle kept).provider) i.depth options s.world.settled roots

/-- Does what is asked for, and says whether all closures are resolved. -/
def perform (request : Request) : Steps Bool := do
  let options : WalkOptions :=
    if request.skipSupertype then { traverseSupertype := false } else s.settings.walkOptions
  match request.action with
  | .providers => do
    s.listProviders
    return true
  | .checkGraph graph root => s.checkGraph options graph root
  | .checkClasses targets ignored => s.checkClasses options targets ignored

/-- The steps of a request after its settings: the limit of recursion, and then the action. -/
def steps (request : Request) : Steps Bool := do
  Steps.emitAll (s.settings.recursionLimit.toList.map Effect.limit)
  s.perform request

end Surroundings

/-- The end of steps that say whether all closures are resolved. -/
def endingOf : Except Ending Bool → Ending
  | .ok true => .exit 0
  | .ok false => .exit unresolvedStatus
  | .error ending => ending

namespace Run

/-- A run that does no more than print or complain. -/
def brief (t : Tree) (effects : List Effect) (ending : Ending) : Run :=
  { logger := none, tree := t, effects, ending }

/-- The run of a request whose settings are not to be had. -/
def withoutSettings (t : Tree) : Fault → Run
  | .unusable message => brief t [.complain message] (.exit usageStatus)
  | fault => brief t [] (.fault fault)

/-- The logger that the settings ask for, and the tree with its log file in place. -/
def chooseLogger (t : Tree) (request : Request) (settings : Settings) :
    Except Fault (Logger × Tree) := do
  let logger ← (Logger.configure request.verbose settings.logLevel settings.logFile).mapError
    fun why => .unusable why.message
  let t ← (logger.prepare t).mapError Files.FileError.toFault
  return (logger, t)

/-- The settings that a request names. -/
def settingsOf (t : Tree) (request : Request) : Except Fault Settings := do
  Settings.load t (← pathOf request.config)

/-- The run of a request. -/
def ofRequest (world : Classes.Universe) (entries : List EntryPoint) (t : Tree)
    (request : Request) : Run :=
  match settingsOf t request with
  | .error fault => withoutSettings t fault
  | .ok settings =>
    match chooseLogger t request settings with
    | .error fault => brief t [] (.fault fault)
    | .ok (logger, tree) =>
      let steps := Surroundings.steps { world, entries, tree, settings } request
      { logger := some logger, tree, effects := steps.effects, ending := endingOf steps.result }

/-- The run of a command line. -/
def ofArguments (world : Classes.Universe) (entries : List EntryPoint) (t : Tree)
    (texts : List String) : Run :=
  match Request.parse texts with
  | .ok request => ofRequest world entries t request
  | .error .help => brief t [.print usageText] (.exit 0)
  | .error .usage => brief t [.complain usageText] (.exit usageStatus)

end Run

end TypeReach.Command
