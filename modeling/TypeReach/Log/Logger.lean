import TypeReach.Files.Tree
import TypeReach.Log.Level
import TypeReach.Text.Lines
import TypeReach.Walk.Basic

/-!
# The logger

Records go to the console and, if one is chosen, to the end of a log file. Choosing anew replaces
what was chosen before.
-/

namespace TypeReach.Log

open Files (FileError Path Tree)

/-- A record; a component without name is the program itself. -/
structure Record where
  component : String
  level : Int
  message : String
  deriving DecidableEq, Repr, Inhabited

/-- The name of the program in records. -/
def programName : String := "typeclosure"

namespace Record

/-- The full name of the component. -/
def fullName (r : Record) : String :=
  if r.component == "" then programName else programName ++ "." ++ r.component

/-- A record as it is written to the console. -/
def consoleText (r : Record) : String :=
  "[" ++ programName ++ ":" ++ (if r.component == "" then programName else r.component) ++ "] "
    ++ levelText r.level ++ " " ++ r.message

/-- A record as it is written to a file, behind the date. -/
def fileText (r : Record) : String :=
  levelText r.level ++ " " ++ r.fullName ++ ": " ++ r.message

/-- A note of a walk as a record. -/
def ofNote (n : Note) : Record := { component := "walker", level := debugLevel, message := n.text }

end Record

/-- What is chosen: the level and the log file. -/
structure Logger where
  level : Int
  file : Option Path
  deriving DecidableEq, Repr, Inhabited

namespace Logger

/-- The least level written. No level at all means that of warnings. -/
def threshold (l : Logger) : Int := if l.level == 0 then warningLevel else l.level

/-- Whether a record is written; one without a positive level never is. -/
def writes (l : Logger) (r : Record) : Bool := 0 < r.level && l.threshold ≤ r.level

/-- The number of places that records are written to. -/
def handlers (l : Logger) : Nat := if l.file.isSome then 2 else 1

/-- The logger with a level by name, or with every record if `verbose` holds. -/
def configure (verbose : Bool) (level : Option String) (file : Option Path) :
    Except UnknownLevel Logger :=
  if verbose then .ok { level := debugLevel, file }
  else do return { level := ← resolveLevel level, file }

/-- The tree with the log file in place, and the folders around it. -/
def prepare (l : Logger) (t : Tree) : Except FileError Tree :=
  match l.file with
  | none => .ok t
  | some p => do (← t.makeFolder p.parent).touch p

/-- The lines of records on the console. -/
def console (l : Logger) (rs : List Record) : List String :=
  (rs.filter l.writes).flatMap fun r => Text.lines (r.consoleText ++ "\n")

/-- The tree with records written to the log file. -/
def write (l : Logger) (t : Tree) (rs : List Record) : Tree :=
  match l.file with
  | none => t
  | some p => (rs.filter l.writes).foldl (fun t r => t.append p (r.fileText ++ "\n")) t

end Logger

end TypeReach.Log
