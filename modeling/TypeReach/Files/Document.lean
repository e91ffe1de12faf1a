import TypeReach.Files.Tree
import TypeReach.Text.Utf8
import TypeReach.Yaml.Load

/-!
# Documents

A document is a file that holds UTF-8 text with a YAML value.
-/

namespace TypeReach.Files

/-- Why the bytes of a file hold no value. -/
inductive DocumentError where
  /-- The bytes are no text. -/
  | notText (why : Text.Utf8Error)
  /-- The text is not YAML. -/
  | malformed
  /-- A scalar does not stand for what its tag says. -/
  | unreadable (kind : FaultKind) (message : String)
  deriving DecidableEq, Repr, Inhabited

/-- Why a file with a name holds no value, as a fault. -/
def DocumentError.toFault (name : String) : DocumentError → Fault
  | notText why => .other .undecodable why.message
  | malformed => .unusable ("Failed to parse " ++ name)
  | unreadable kind message => .other kind message

/-- The text of a document. -/
def documentText (bytes : List UInt8) : Except DocumentError String :=
  match Text.decodeFile bytes with
  | .ok text => .ok text
  | .error why => .error (.notText why)

/-- The value that the text of a document holds. -/
def documentValue (text : String) : Except DocumentError Value :=
  match Yaml.load text with
  | .ok v => .ok v
  | .error .malformed => .error .malformed
  | .error (.unreadable kind message) => .error (.unreadable kind message)

end TypeReach.Files
