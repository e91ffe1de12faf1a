import TypeReach.Files.Document
import TypeReach.Settings.Basic

/-!
# Settings files

The settings file is given by its path or by that of its folder. Without one the defaults hold, and
a blank one is as good as an empty mapping.
-/

namespace TypeReach.Settings

open Files (DocumentError FileError Path Tree)

/-- Why a file gives no settings. -/
inductive FileFault where
  | unreadable (why : FileError)
  | document (why : DocumentError)
  | value (why : SettingsError)
  deriving DecidableEq, Repr, Inhabited

/-- Why the settings file at a path gives no settings, as a fault. -/
def FileFault.toFault (p : Path) : FileFault → Fault
  | unreadable why => why.toFault
  | document why => why.toFault p.name
  | value why => why.toFault

/-- The full path of the settings file that a path stands for. -/
def filePath (t : Tree) (p : Path) : Except FileError Path := do
  let p ← t.expandHome p
  if ← t.isFolder p then t.fullPath (p.join (Path.ofText settingsFileName)) else t.fullPath p

/-- The value of a settings file; nothing written counts as an empty mapping. -/
def fileValue (bytes : List UInt8) : Except DocumentError Value := do
  let text ← Files.documentText bytes
  if (Text.strip text).isEmpty then return .map []
  else
    match ← Files.documentValue text with
    | .null => return .map []
    | v => return v

/-- The settings that the bytes of a settings file in the folder `root` give. -/
def ofBytes (root : Path) (bytes : List UInt8) : Except FileFault Settings := do
  (ofValue root (← (fileValue bytes).mapError .document)).mapError .value

/-- The settings that the settings file at a full path gives. -/
def ofFile (t : Tree) (file : Path) : Except FileFault Settings := do
  if ← (t.contains file).mapError .unreadable then
    ofBytes file.parent (← (t.read file).mapError .unreadable)
  else return { root := file.parent }

/-- The settings that a path stands for. -/
def load (t : Tree) (p : Path) : Except Fault Settings := do
  let file ← (filePath t p).mapError FileError.toFault
  (ofFile t file).mapError (FileFault.toFault file)

end TypeReach.Settings
