import TypeReach.Fault
import TypeReach.Yaml.Cursor

/-!
# Tokens of YAML text

The parts that a YAML text falls into. Block structure shows in tokens that begin and end a block.
The last token of a text is the end of the stream.
-/

namespace TypeReach.Yaml

/-- Why a YAML text gives no value: it is malformed, or a number in it or a scalar does not stand
for what it should. -/
inductive YamlError where
  | malformed
  | unreadable (kind : FaultKind) (message : String)
  deriving DecidableEq, Repr, Inhabited

/-- A directive; all but two kinds say nothing. -/
inductive Directive where
  | version (major minor : Nat)
  | tag (handle expansion : String)
  | unknown
  deriving DecidableEq, Repr

/-- A token. A tag without handle is given in full. -/
inductive Token where
  | directive (d : Directive)
  | documentStart
  | documentEnd
  | streamEnd
  | blockSequenceStart
  | blockMappingStart
  | blockEnd
  | flowSequenceStart
  | flowSequenceEnd
  | flowMappingStart
  | flowMappingEnd
  | blockEntry
  | flowEntry
  | key
  | value
  | alias (name : String)
  | anchor (name : String)
  | tag (handle : Option String) (suffix : String)
  | scalar (text : String) (plain : Bool)
  deriving DecidableEq, Repr, Inhabited

end TypeReach.Yaml
