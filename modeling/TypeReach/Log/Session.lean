import TypeReach.Log.Logger

/-!
# Records in the course of a session

Each component has a logger under a dotted name, and the program's logger stands above those of its
components. A record goes to the handlers of its own logger and of those above it, where the handlers
of the surroundings come last; a record for which there is no handler goes to the handler of last
resort. Which levels a logger admits is remembered until a level is chosen anew.
-/

namespace TypeReach.Log

open Files (FileError Path Tree)

/-- What a record looks like where it is written. -/
inductive Layout where
  /-- The component, the level and the message. -/
  | component
  /-- The level, the full name and the message. -/
  | full
  /-- The message alone. -/
  | bare
  deriving DecidableEq, Repr, Inhabited

/-- A record as it is written. -/
def Layout.text (r : Record) : Layout → String
  | .component => r.consoleText
  | .full => r.fileText
  | .bare => r.message

/-- A way out for records of at least some level: the console, or the file that is open at a
place. -/
structure Handler where
  level : Int
  layout : Layout
  file : Option (List String)
  deriving DecidableEq, Repr, Inhabited

namespace Handler

/-- The handler that writes to the console. -/
def console (level : Int) : Handler := { level, layout := .component, file := none }

/-- The handler that writes to the end of a file. -/
def appending (level : Int) (place : List String) : Handler :=
  { level, layout := .full, file := some place }

/-- The handler of records for which there is no other. -/
def lastResort : Handler := { level := warningLevel, layout := .bare, file := none }

end Handler

/-- The tree with the log file in place, and the handler that writes to it. -/
def Logger.opened (l : Logger) (t : Tree) : Except FileError (Tree × List Handler) :=
  match l.file with
  | none => .ok (t, [])
  | some p => do
    let t ← l.prepare t
    match t.place p with
    | .ok place => .ok (t, [.appending l.level place])
    | .error problem => .error ⟨problem, p⟩

/-- A choice of level and log file, as it is made. -/
structure Choice where
  verbose : Bool := false
  level : Option String := none
  file : Option Path := none

/-- The logger that a choice stands for. -/
def Choice.logger (c : Choice) : Except UnknownLevel Logger :=
  Logger.configure c.verbose c.level c.file

/-- Everything that is there while records are written. -/
structure Session where
  tree : Tree
  /-- What has been written to the console. -/
  console : List String := []
  /-- The names of the loggers that have been asked for. -/
  loggers : List String := []
  /-- Which levels the loggers were found to admit. -/
  decided : List ((String × Int) × Bool) := []
  /-- The level of the program's logger; 0 is none. -/
  level : Int := 0
  /-- The handlers of the program's logger. -/
  handlers : List Handler := []
  /-- Whether records pass on from the program's logger to the surroundings. -/
  passesOn : Bool := true
  /-- The handlers of the surroundings. -/
  outer : List Handler := []

/-- A name that was read backwards. -/
def forwards (cs : List Char) : String := String.ofList cs.reverse

/-- Whether the way up from a logger comes to the program's, for a name that is read backwards. The
next logger on the way is the nearest one known whose name is this one up to a dot. Where there is
none, the search goes on at the next dot but one character further: of two dots side by side it
passes over the first. -/
def climbs (loggers : List String) : List Char → Bool
  | [] => false
  | [_] => false
  | c :: d :: rest =>
    if c ≠ '.' then climbs loggers (d :: rest)
    else if forwards (d :: rest) ∈ loggers then
      forwards (d :: rest) == programName || climbs loggers (d :: rest)
    else climbs loggers rest

namespace Session

variable (s : Session)

/-- The session with a logger known. -/
def know (name : String) : Session := { s with loggers := s.loggers.insert name }

/-- Whether a logger is the program's or below it. -/
def isUnder (name : String) : Bool :=
  name == programName || climbs s.loggers name.toList.reverse

/-- The least level that a logger admits: that of the program's logger, if it has one. -/
def least (name : String) : Int :=
  if s.isUnder name && s.level != 0 then s.level else warningLevel

/-- Whether a logger admits a level. -/
def admits (name : String) (level : Int) : Bool :=
  (s.decided.lookup (name, level)).getD (0 < level && s.least name ≤ level)

/-- The handlers that a record of a logger goes to. -/
def reached (name : String) : List Handler :=
  let found :=
    if s.isUnder name then s.handlers ++ if s.passesOn then s.outer else [] else s.outer
  if found.isEmpty then [.lastResort] else found

/-- The session with a record written by a handler. -/
def handle (r : Record) (s : Session) (h : Handler) : Session :=
  if h.level ≤ r.level then
    match h.file with
    | none => { s with console := s.console ++ [h.layout.text r] }
    | some place => { s with tree := s.tree.appendAt place (h.layout.text r ++ "\n") }
  else s

/-- The session in which it is remembered whether a logger admits a level. -/
def remember (name : String) (level : Int) : Session :=
  { s with decided := ((name, level), s.admits name level) :: s.decided }

/-- The session with a record of a component. -/
def emit (r : Record) : Session :=
  let s := (s.know r.fullName).remember r.fullName r.level
  if s.admits r.fullName r.level then (s.reached r.fullName).foldl (handle r) s else s

/-- The session without handlers: each one is taken out. -/
def clear : Session := { s with handlers := s.handlers.foldl List.erase s.handlers }

/-- The session with another logger in place of what was chosen before. If the log file cannot be
opened, the console alone is left. -/
def install (l : Logger) : Session × Option FileError :=
  let s := { s.know programName with level := l.level, decided := [], passesOn := false }.clear
  let s := { s with handlers := s.handlers ++ [.console l.level] }
  match l.opened s.tree with
  | .ok (t, files) => ({ s with tree := t, handlers := s.handlers ++ files }, none)
  | .error e => (s, some e)

/-- The session after a choice, and the fault if there is one. A level that is not known changes
nothing. -/
def configure (c : Choice) : Session × Option Fault :=
  match c.logger with
  | .ok l => (s.install l).map id (·.map FileError.toFault)
  | .error unknown => (s, some (.unusable unknown.message))

end Session

/-- What happens in a session. -/
inductive Event where
  | configure (c : Choice)
  | emit (r : Record)

namespace Session

/-- The session after an event. -/
def step (s : Session) : Event → Session
  | .configure c => (s.configure c).1
  | .emit r => s.emit r

/-- The session after some events. -/
def run (s : Session) (es : List Event) : Session := es.foldl step s

@[simp] theorem run_nil (s : Session) : s.run [] = s := rfl

@[simp] theorem run_cons (s : Session) (e : Event) (es : List Event) :
    s.run (e :: es) = (s.step e).run es := rfl

/-- A session at its beginning. -/
def start (t : Tree) (outer : List Handler) : Session := { tree := t, outer }

end Session

end TypeReach.Log
