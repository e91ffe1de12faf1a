import TypeReach.Classes.Inspector
import TypeReach.Command.Steps
import TypeReach.Graph.Lookup
import TypeReach.Walk.Walker

/-!
# Checks

A check walks the closure of one root with a walker of its own and prints one line about it. A root
that is not there is as good as a failed check; any other fault ends the run. What the provider
remembers of one walk is there in the next.
-/

namespace TypeReach.Command

/-- The line about the closure of a target: how many types it has, or what is wrong. -/
def verdict (target : String) (visited : Nat) : Option Fault → String
  | none => target ++ ": closure resolved (" ++ toString visited ++ " types)"
  | some (.unresolved typeName none) => target ++ ": unresolvable type " ++ Fault.nameText typeName
  | some (.unresolved typeName (some cause)) =>
    target ++ ": unresolvable type " ++ Fault.nameText typeName ++ " (" ++ cause.message ++ ")"
  | some fault => target ++ ": " ++ fault.message

/-- A detail of the part of the program with the given name. -/
def detail (component message : String) : Effect :=
  .record { component, level := Log.debugLevel, message }

/-- The notes of a walk, as effects. -/
def noteEffects (notes : List Note) : List Effect :=
  notes.map fun n => .record (Log.Record.ofNote n)

/-- Checks one root: whether its closure is resolved, and what the provider remembers then. -/
def checkRoot {σ δ α ν : Type} [DecidableEq δ] (p : Provider σ δ α ν) (depth : Nat)
    (options : WalkOptions) (memory : σ) (target : String) (root : δ) : Steps (Bool × σ) := do
  Steps.emit (detail "cli" ("Walking closure of " ++ p.typeName root))
  let report := Walker.check p depth { options } memory (.concrete root)
  Steps.emitAll (noteEffects report.notes)
  let failure ← Steps.ofExcept report.outcome
  Steps.emit (.print (verdict target report.marked.length failure))
  return (failure.isNone, report.memory)

/-- The failed check of a target that is not there; other faults are none. -/
def absentRoot? (target : String) : Fault → Option Fault
  | .linkage message typeName =>
    some (.unresolved (some (subject typeName)) (some (.linkage message typeName)))
  | .notPresent typeName cause =>
    some (.unresolved (some (subject typeName)) (some (.notPresent typeName cause)))
  | _ => none
where
  /-- The name that the fault gives or, failing that, the target. -/
  subject : Option String → String
    | none | some "" => target
    | some name => name

/-- A target, resolved to a root or found to be absent. -/
def locate {δ : Type} (resolve : String → Except Fault δ) (target : String) :
    Except Fault (Except Fault δ) :=
  match resolve target with
  | .ok root => .ok (.ok root)
  | .error fault =>
    match absentRoot? target fault with
    | some failure => .ok (.error failure)
    | none => .error fault

/-- Checks what a target was resolved to. -/
def checkTarget {σ δ α ν : Type} [DecidableEq δ] (p : Provider σ δ α ν) (depth : Nat)
    (options : WalkOptions) (memory : σ) (target : String) : Except Fault δ → Steps (Bool × σ)
  | .ok root => checkRoot p depth options memory target root
  | .error failure => do
    Steps.emit (.print (verdict target 0 (some failure)))
    return (false, memory)

/-- Checks targets one after the other, and says whether all closures are resolved. Each is checked
with what the provider is once it remembers the walks before. -/
def checkTargets {σ δ α ν : Type} [DecidableEq δ] (provider : σ → Provider σ δ α ν) (depth : Nat)
    (options : WalkOptions) : σ → List (String × Except Fault δ) → Steps Bool
  | _, [] => return true
  | memory, t :: ts => do
    let (this, memory) ← checkTarget (provider memory) depth options memory t.1 t.2
    let others ← checkTargets provider depth options memory ts
    return this && others

end TypeReach.Command
