import TypeReach.Files.Document
import TypeReach.Graph.Load

/-!
# Graph files

A graph file is a YAML document with graph data. One whose value is empty describes an environment
without types.
-/

namespace TypeReach.Graph

open Files (DocumentError FileError Path Tree)

/-- Why a file gives no environment. -/
inductive FileFault where
  | unreadable (why : FileError)
  | document (why : DocumentError)
  | data (why : LoadError)
  deriving DecidableEq, Repr, Inhabited

/-- Why the file at a path gives no environment, as a fault. -/
def FileFault.toFault (p : Path) : FileFault → Fault
  | unreadable ⟨.nullCharacter, q⟩ => FileError.toFault ⟨.nullCharacter, q⟩
  | unreadable why => .unusable ("Cannot read graph file " ++ p.text ++ ": " ++ why.message)
  | document why => why.toFault p.name
  | data why => why.toFault

/-- The environment that the bytes of a graph file describe. -/
def Environment.ofBytes (bytes : List UInt8) : Except FileFault Environment := do
  let value ← ((Files.documentText bytes).bind Files.documentValue).mapError .document
  (Environment.ofValue (if value.isTruthy then value else .map [])).mapError .data

/-- The environment that the file at a path describes. -/
def Environment.ofFile (t : Tree) (p : Path) : Except FileFault Environment := do
  Environment.ofBytes (← (t.read p).mapError .unreadable)

/-- What is reported about an environment read from a path. -/
def Environment.loadedMessage (e : Environment) (p : Path) : String :=
  "Loaded " ++ toString e.size ++ " type definitions from " ++ p.text

end TypeReach.Graph
