import TypeReach.Command.Arguments

/-!
# Requests

A request is what a command line asks for: to check a type of a graph file, to check classes, or to
list the providers. Its errors are told apart only as far as the exit status goes.
-/

namespace TypeReach.Command

/-- What is to be done. A value that is given without a text is none. -/
inductive Action where
  | checkGraph (graph root : Option String)
  | checkClasses (targets : List String) (ignored : List (Option String))
  | providers
  deriving DecidableEq, Repr, Inhabited

/-- The name of an action on the command line. -/
def Action.name : Action → String
  | checkGraph .. => "check-graph"
  | checkClasses .. => "check-python"
  | providers => "providers"

/-- What a command line asks for. -/
structure Request where
  verbose : Bool
  /-- The path of the settings file or of its folder. -/
  config : Option String
  /-- Whether supertypes are looked up only. -/
  skipSupertype : Bool
  action : Action
  deriving DecidableEq, Repr, Inhabited

namespace Request

private def helpOption : OptionSpec := ⟨.help, ["-h", "--help"]⟩
private def verboseOption : OptionSpec := ⟨.flag, ["-v", "--verbose"]⟩

/-- What may stand in front of an action. -/
def spec : Spec where
  options := [helpOption, verboseOption, ⟨.value, ["--config"]⟩,
    ⟨.flag, ["--reproduce-supertype-anomaly"]⟩]
  positionals := [.rest]

/-- What may stand behind `check-graph`. -/
def graphSpec : Spec := { options := [helpOption, verboseOption], positionals := [.one, .one] }

/-- What may stand behind `check-python`. -/
def classesSpec : Spec where
  options := [helpOption, verboseOption, ⟨.value, ["--ignore-module"]⟩]
  positionals := [.many]

/-- What may stand behind `providers`. -/
def providersSpec : Spec := { options := [helpOption, verboseOption], positionals := [] }

/-- Whether an option is given. -/
def gives (p : Parsed) (name : String) : Bool := p.options.any (·.1 == name)

/-- The values of an option in order. -/
def valuesOf (p : Parsed) (name : String) : List (Option String) :=
  (p.options.filter (·.1 == name)).map fun g => g.2.head?

/-- The action of a name with its arguments, and all that these hold. -/
def readAction (name : String) (texts : List String) : Except ArgumentsError (Action × Parsed) := do
  match name with
  | "check-graph" => do
    let p ← graphSpec.parse texts
    match p.positionals with
    | [graph, root] => return (.checkGraph graph.head? root.head?, p)
    | _ => throw .usage
  | "check-python" => do
    let p ← classesSpec.parse texts
    match p.positionals with
    | [targets] => return (.checkClasses targets (valuesOf p "--ignore-module"), p)
    | _ => throw .usage
  | "providers" => do
    let p ← providersSpec.parse texts
    return (.providers, p)
  | _ => throw .usage

/-- The request that a command line makes; arguments without a place are refused. -/
def parse (texts : List String) : Except ArgumentsError Request := do
  let p ← spec.parse texts
  match p.positionals with
  | [name :: texts] => do
    let (action, q) ← readAction name texts
    if p.extras.isEmpty && q.extras.isEmpty then
      return {
        verbose := gives p "--verbose" || gives q "--verbose"
        config := (valuesOf p "--config").getLastD (some ".")
        skipSupertype := gives p "--reproduce-supertype-anomaly"
        action }
    else throw .usage
  | _ => throw .usage

end Request

end TypeReach.Command
