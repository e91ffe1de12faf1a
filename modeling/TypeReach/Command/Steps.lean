import TypeReach.Files.Tree
import TypeReach.Log.Logger

/-!
# Steps of a run

A run of the program is a list of effects, in order, and a way in which it ends. Steps are parts of
a run: they either give a value, and the run goes on, or end it.
-/

namespace TypeReach.Command

open Files (Tree)
open Log (Logger Record)

/-- Something that a run does. -/
inductive Effect where
  /-- Prints a line. -/
  | print (line : String)
  /-- Prints a text among the errors. -/
  | complain (text : String)
  /-- Sets the limit of recursion. -/
  | limit (depth : Int)
  /-- Gives a record to the logger. -/
  | record (r : Record)
  deriving DecidableEq, Inhabited

/-- How a run ends: with an exit status, or with a fault that nothing reports. -/
inductive Ending where
  | exit (status : Nat)
  | fault (f : Fault)
  deriving DecidableEq, Inhabited

/-- A part of a run: its effects, and the value that it gives or the end that it makes. -/
structure Steps (β : Type) where
  effects : List Effect
  result : Except Ending β

namespace Steps

variable {β γ : Type}

/-- The steps that do nothing. -/
def skip (b : β) : Steps β := ⟨[], .ok b⟩

/-- Steps followed by others, unless they end the run. -/
def andThen (s : Steps β) (next : β → Steps γ) : Steps γ :=
  match s.result with
  | .ok b => ⟨s.effects ++ (next b).effects, (next b).result⟩
  | .error ending => ⟨s.effects, .error ending⟩

instance : Monad Steps where
  pure := skip
  bind := andThen

/-- A single effect. -/
def emit (e : Effect) : Steps Unit := ⟨[e], .ok ()⟩

/-- Several effects. -/
def emitAll (es : List Effect) : Steps Unit := ⟨es, .ok ()⟩

/-- The end of a run. -/
def stop (ending : Ending) : Steps β := ⟨[], .error ending⟩

/-- A value, or the end of the run with a fault. -/
def ofExcept : Except Fault β → Steps β
  | .ok b => skip b
  | .error f => stop (.fault f)

@[simp] theorem pure_eq (b : β) : (pure b : Steps β) = ⟨[], .ok b⟩ := rfl

@[simp] theorem bind_eq (s : Steps β) (next : β → Steps γ) : s >>= next = s.andThen next := rfl

@[simp] theorem andThen_ok (es : List Effect) (b : β) (next : β → Steps γ) :
    andThen ⟨es, .ok b⟩ next = ⟨es ++ (next b).effects, (next b).result⟩ := rfl

@[simp] theorem andThen_error (es : List Effect) (ending : Ending) (next : β → Steps γ) :
    andThen ⟨es, .error ending⟩ next = ⟨es, .error ending⟩ := rfl

end Steps

/-- What came of a run: the logger, if one was chosen, the tree as the run left it before any
record, what the run did, and how it ended. -/
structure Run where
  logger : Option Logger
  tree : Tree
  effects : List Effect
  ending : Ending

namespace Run

variable (r : Run)

/-- The lines printed. -/
def printed : List String :=
  r.effects.flatMap fun
    | .print line => Text.lines (line ++ "\n")
    | _ => []

/-- The lines among the errors: complaints, and the records that the logger writes. -/
def errors : List String :=
  r.effects.flatMap fun
    | .complain text => Text.lines (text ++ "\n")
    | .record record => (r.logger.map fun l => l.console [record]).getD []
    | _ => []

/-- The limits set. -/
def limits : List Int :=
  r.effects.filterMap fun
    | .limit depth => some depth
    | _ => none

/-- The records given to the logger. -/
def records : List Record :=
  r.effects.filterMap fun
    | .record record => some record
    | _ => none

/-- The tree with the records in the log file. -/
def finalTree : Tree :=
  (r.logger.map fun l => l.write r.tree r.records).getD r.tree

end Run

end TypeReach.Command
