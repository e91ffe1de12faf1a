import TypeReach.Data.Value
import TypeReach.Decimal.Integer
import TypeReach.Files.Path
import TypeReach.Log.Level
import TypeReach.Walk.Walker

/-!
# Settings

Settings come from a mapping with the sections `walker`, `python` and `providers` and the keys
`log_file` and `log_level`. A part that is absent or of the wrong kind has its default; few values
are refused.
-/

namespace TypeReach

open Files (Path)

/-- The settings of a run. -/
structure Settings where
  /-- The folder that a relative log file is seen from. -/
  root : Path
  traverseSupertype : Bool := true
  recursionLimit : Option Int := none
  ignoredModules : List String := []
  /-- The providers to use; all of them if there are none. -/
  enabled : List String := []
  logFile : Option Path := none
  logLevel : Option String := none
  deriving DecidableEq, Repr, Inhabited

/-- Why a value gives no settings. -/
inductive SettingsError where
  | notMapping
  | limitNotPositive
  | unknownLevel (why : Log.UnknownLevel)
  /-- An integer is too long to be written out. -/
  | unwritable
  deriving DecidableEq, Repr, Inhabited

/-- The name of the settings file. -/
def settingsFileName : String := ".typeclosure.yml"

/-- What is said about a value that gives no settings. -/
def SettingsError.message : SettingsError → String
  | notMapping => settingsFileName ++ " must contain a mapping at the root"
  | limitNotPositive => "walker.recursion_limit must be a positive integer"
  | unknownLevel why => why.message
  | unwritable => Decimal.tooLongMessage

/-- A value that gives no settings, as a fault. -/
def SettingsError.toFault : SettingsError → Fault
  | unwritable => .other .value unwritable.message
  | why => .unusable why.message

namespace Settings

/-- The switches of a walk. -/
def walkOptions (s : Settings) : WalkOptions := { traverseSupertype := s.traverseSupertype }

/-- The entries of a section; what is no mapping counts as an empty one. -/
def section? (v : Value) : List (Value × Value) :=
  match v.opened with
  | .map entries => entries
  | _ => []

/-- Whether a value is a scalar that counts as text. -/
def isScalar : Value → Bool
  | .str _ | .int _ | .double _ | .bool _ => true
  | _ => false

/-- A scalar as text. -/
def scalarText (v : Value) : Except SettingsError (Option String) :=
  if isScalar v then
    match v.text? with
    | some text => .ok (some text)
    | none => .error .unwritable
  else .ok none

/-- A truth value, or one of the words for it in any letter case. -/
def truth? : Value → Option Bool
  | .bool b => some b
  | .str s =>
    let word := Text.lower (Text.strip s)
    if ["true", "yes", "1"].contains word then some true
    else if ["false", "no", "0"].contains word then some false
    else none
  | _ => none

/-- An integer, or a text that is one. -/
def integer? : Value → Option Int
  | .int n => some n
  | .str s => Decimal.readInteger? s
  | _ => none

/-- The scalars among some values, as texts. -/
def scalarTexts (items : List Value) : Except SettingsError (List String) := do
  return (← items.mapM scalarText).filterMap id

/-- A list of texts: the scalars of a list, or a single text. Bytes are a list of numbers. -/
def texts (v : Value) : Except SettingsError (List String) :=
  match v.opened with
  | .str s => .ok [s]
  | .list items => scalarTexts items
  | .tuple items => scalarTexts items
  | .bytes bs => .ok (bs.map fun b => toString b.toNat)
  | _ => .ok []

/-- The limit of recursion, which has to be positive. -/
def limitOf (v : Value) : Except SettingsError (Option Int) :=
  match integer? v with
  | some n => if n ≤ 0 then .error .limitNotPositive else .ok (some n)
  | none => .ok none

/-- The name of the level, which has to be known. -/
def levelOf (v : Value) : Except SettingsError (Option String) := do
  match ← scalarText v with
  | none => return none
  | some name =>
    match Log.resolveLevel (some name) with
    | .ok _ => return some name
    | .error why => throw (.unknownLevel why)

/-- The log file, unless its name is empty. -/
def logFileOf (root : Path) (v : Value) : Except SettingsError (Option Path) := do
  match ← scalarText v with
  | none => return none
  | some name => return if name == "" then none else some (root.join (Path.ofText name))

/-- The settings that the value of a settings file in the folder `root` gives. -/
def ofValue (root : Path) (v : Value) : Except SettingsError Settings :=
  match v.opened with
  | .map entries => do
    let walker := section? (Value.fieldOf entries "walker")
    let classes := section? (Value.fieldOf entries "python")
    let providers := section? (Value.fieldOf entries "providers")
    let recursionLimit ← limitOf (Value.fieldOf walker "recursion_limit")
    let ignoredModules ← texts (Value.fieldOf classes "ignored_modules")
    let enabled ← texts (Value.fieldOf providers "enabled")
    let logFile ← logFileOf root (Value.fieldOf entries "log_file")
    let logLevel ← levelOf (Value.fieldOf entries "log_level")
    return {
      root, recursionLimit, ignoredModules, enabled, logFile, logLevel
      traverseSupertype := (truth? (Value.fieldOf walker "traverse_supertype")).getD true }
  | _ => .error .notMapping

end Settings

end TypeReach
