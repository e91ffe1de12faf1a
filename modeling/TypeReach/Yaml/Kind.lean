import TypeReach.Yaml.Number
import TypeReach.Yaml.Timestamp

/-!
# Kinds of YAML nodes

The kind of a node is given by its tag; without one, a collection is a sequence or mapping, quoted
text is text, and the form of a plain scalar decides. A line end behind that form does not count.
-/

namespace TypeReach.Yaml

/-- What a node is. -/
inductive Kind where
  | null
  | bool
  | int
  | float
  | binary
  | timestamp
  | omap
  | pairs
  | set
  | str
  | seq
  | map
  /-- The key under which other mappings are merged. -/
  | merge
  /-- The key of the default value of a mapping. -/
  | value
  | unknown
  deriving DecidableEq, Repr, Inhabited

/-- The kind that a full tag names. -/
def Kind.ofTag (tag : String) : Kind :=
  let standard := [("null", Kind.null), ("bool", .bool), ("int", .int), ("float", .float),
    ("binary", .binary), ("timestamp", .timestamp), ("omap", .omap), ("pairs", .pairs),
    ("set", .set), ("str", .str), ("seq", .seq), ("map", .map), ("merge", .merge),
    ("value", .value)]
  ((standard.find? fun e => "tag:yaml.org,2002:" ++ e.1 == tag).map Prod.snd).getD .unknown

/-- Words for truth values, in small letters. -/
def truthWords : List (String × Bool) :=
  [("yes", true), ("no", false), ("true", true), ("false", false), ("on", true), ("off", false)]

/-- Whether a plain scalar is a truth value: a word in small letters, with a capital or in
capitals. -/
private def isTruthWord (cs : List Char) : Bool :=
  truthWords.any fun e =>
    let word := e.1.toList
    let capital := match word with
      | [] => []
      | c :: rest => c.toUpper :: rest
    cs == word || cs == capital || cs == word.map Char.toUpper

/-- The kind of a scalar without tag, by its form. A mark of a tag, an anchor or an alias that
stands alone is none that can be built. -/
def Kind.ofPlain (text : String) : Kind :=
  let cs := dropLineEnd text.toList
  let word := String.ofList cs
  if cs.isEmpty then (if text == "" then .null else .str)
  else if isTruthWord cs then .bool
  else if isFloating cs then .float
  else if isInteger cs then .int
  else if word == "<<" then .merge
  else if ["~", "null", "Null", "NULL"].contains word then .null
  else if isTimestamp cs then .timestamp
  else if word == "=" then .value
  else if ["!", "&", "*"].contains word then .unknown
  else .str

end TypeReach.Yaml
