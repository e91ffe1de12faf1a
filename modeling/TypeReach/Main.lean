import TypeReach.Command.Run

/-!
# The program

The outer layer of the program: it looks at the files that a command line names, has the run worked
out, and then does what the run does.
-/

namespace TypeReach

open Command (Effect Ending Request Run)
open Files (Path Tree)

/-- Takes what is at a path on the disk into a tree: the folders on the way, and the file. -/
def lookAt (t : Tree) (p : Path) : IO Tree := do
  let here ← IO.currentDir
  let parts := (Path.resolve t.homePath p).parts
  let full := fun (parts : List String) => here / ("/" ++ "/".intercalate parts)
  let mut t := t
  for n in List.range (parts.length + 1) do
    if ← (full (parts.take n)).isDir then
      t := { t with folders := parts.take n :: t.folders }
  try
    let bytes ← IO.FS.readBinFile (full parts)
    return t.putAt parts bytes.toList
  catch _ => return t

/-- The tree with all that a request may read. -/
def surroundings (t : Tree) (request : Request) : IO Tree := do
  let config := Path.ofText (request.config.getD ".")
  let t ← lookAt (← lookAt t config) (config.join (Path.ofText settingsFileName))
  let t ← match request.action with
    | .checkGraph (some graph) _ => lookAt t (Path.ofText graph)
    | _ => pure t
  match Settings.load t config with
  | .ok settings =>
    match settings.logFile with
    | some p => lookAt t p
    | none => return t
  | .error _ => return t

/-- Writes a text to the end of a log file, which is made if it is not there. -/
def appendToLog (p : Path) (text : String) : IO Unit := do
  let here ← IO.currentDir
  IO.FS.createDirAll (here / p.parent.text)
  let file ← IO.FS.Handle.mk (here / p.text) .append
  file.putStr text

/-- The date and time of the last change of a file. -/
def lastChange (p : Path) : IO Moment := do
  let here ← IO.currentDir
  let data ← (here / p.text).metadata
  return Moment.ofSeconds data.modified.sec.toNat

/-- Does one thing that a run does. -/
def perform (logger : Option Log.Logger) : Effect → IO Unit
  | .print line => IO.println line
  | .complain text => IO.eprintln text
  | .limit _ => pure ()
  | .record r => do
    let some l := logger | return ()
    for line in l.console [r] do
      IO.eprintln line
    let some p := l.file | return ()
    if l.writes r then
      appendToLog p ""
      let moment ← lastChange p
      appendToLog p (moment.text ++ " " ++ r.fileText ++ "\n")

/-- Does what a run does, and gives its exit status. -/
def performAll (run : Run) : IO UInt32 := do
  if let some p := run.logger.bind (·.file) then
    appendToLog p ""
  for e in run.effects do
    perform run.logger e
  match run.ending with
  | .exit status => return status.toUInt32
  | .fault f =>
    IO.eprintln f.message
    return Command.unresolvedStatus.toUInt32

end TypeReach

open TypeReach in
/-- Runs the program with the arguments of its command line. No classes can be imported. -/
def main (texts : List String) : IO UInt32 := do
  let here ← IO.currentDir
  let tree : Files.Tree := { home := (Files.Path.ofText here.toString).parts, files := .empty }
  let tree ← match Command.Request.parse texts with
    | .ok request => surroundings tree request
    | .error _ => pure tree
  performAll (Command.Run.ofArguments {} [] tree texts)
