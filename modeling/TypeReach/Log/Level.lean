import TypeReach.Text.Blank
import TypeReach.Text.LetterCase

/-!
# Levels of log records

A level is a number; some have names. A level is chosen by name, in any letter case and with blanks
around it.
-/

namespace TypeReach.Log

/-- A level name that is not known. -/
structure UnknownLevel where
  name : String
  deriving DecidableEq, Repr, Inhabited

/-- What is said about a level name that is not known. -/
def UnknownLevel.message (u : UnknownLevel) : String :=
  "Unknown log_level '" ++ u.name ++ "'"

def debugLevel : Int := 10
def warningLevel : Int := 30

/-- The level that a name in capital letters stands for. -/
def namedLevel? (name : String) : Option Int :=
  [("CRITICAL", 50), ("FATAL", 50), ("ERROR", 40), ("WARN", 30), ("WARNING", 30), ("INFO", 20),
    ("DEBUG", 10), ("NOTSET", 0)].lookup name

/-- The level chosen by name; without a choice it is the one of warnings. -/
def resolveLevel : Option String → Except UnknownLevel Int
  | none => .ok warningLevel
  | some name =>
    match namedLevel? (Text.upper (Text.strip name)) with
    | some level => .ok level
    | none => .error ⟨name⟩

/-- How a level prints. -/
def levelText (level : Int) : String :=
  (([(50, "CRITICAL"), (40, "ERROR"), (30, "WARNING"), (20, "INFO"), (10, "DEBUG"), (0, "NOTSET")] :
    List (Int × String)).lookup level).getD ("Level " ++ toString level)

end TypeReach.Log
