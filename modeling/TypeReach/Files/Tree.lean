import TypeReach.Data.Table
import TypeReach.Fault
import TypeReach.Files.Path

/-!
# File trees

A tree is a working directory with the files below it. Folders on the way to a file, and the working
directory with those around it, are there without further ado. No name is longer than 255 bytes, no
path longer than 4095, and none holds the null character.
-/

namespace TypeReach.Files

/-- What is wrong with a path. -/
inductive FileProblem where
  | missing
  | present
  | notFolder
  | isFolder
  | tooLong
  /-- The path holds a null character. -/
  | nullCharacter
  /-- The path begins with the home folder of a user who is not known. -/
  | unknownHome
  deriving DecidableEq, Repr, Inhabited

/-- A path that cannot be used. -/
structure FileError where
  problem : FileProblem
  path : Path
  deriving DecidableEq, Repr, Inhabited

namespace FileError

/-- What is said about a path that cannot be used. -/
def message (e : FileError) : String :=
  let named := fun why => why ++ ": " ++ Text.quoted e.path.text
  match e.problem with
  | .missing => named "[Errno 2] No such file or directory"
  | .present => named "[Errno 17] File exists"
  | .notFolder => named "[Errno 20] Not a directory"
  | .isFolder => named "[Errno 21] Is a directory"
  | .tooLong => named "[Errno 36] File name too long"
  | .nullCharacter => "embedded null byte"
  | .unknownHome => "Could not determine home directory."

/-- The kind of fault that a problem with a path is. -/
def kind (e : FileError) : FaultKind :=
  match e.problem with
  | .missing => .named "FileNotFoundError"
  | .present => .named "FileExistsError"
  | .notFolder => .named "NotADirectoryError"
  | .isFolder => .named "IsADirectoryError"
  | .tooLong => .named "OSError"
  | .nullCharacter => .value
  | .unknownHome => .runtime

/-- A path that cannot be used, as a fault. -/
def toFault (e : FileError) : Fault := .other e.kind e.message

end FileError

/-- A tree of files: the parts of the working directory's path, the contents of the files by their
full path, folders made on purpose, and the home folders of users; the current user has the empty
name. -/
structure Tree where
  home : List String
  files : Table (List UInt8)
  folders : List (List String) := []
  userHomes : List (String × Path) := []

namespace Tree

variable (t : Tree)

/-- The working directory. -/
def homePath : Path := { start := .slash, parts := t.home }

/-- The key of a place in the tree. -/
def key (place : List String) : String := "/".intercalate place

/-- The contents of the file at a place. -/
def fileAt? (place : List String) : Option (List UInt8) := t.files.get? (key place)

/-- Whether a place is a folder. -/
def isFolderAt (place : List String) : Bool :=
  place.isPrefixOf t.home || t.folders.any (place.isPrefixOf ·)
    || t.files.names.any fun name => (key place ++ "/").isPrefixOf name

/-- The most bytes in the name of a file. -/
def nameLimit : Nat := 255

/-- The most bytes in a path. -/
def pathLimit : Nat := 4095

/-- The place that parts lead to; all but the last must be folders. -/
def follow : List String → List String → Except FileProblem (List String)
  | place, [] => .ok place
  | place, part :: parts =>
    if t.isFolderAt place then
      if nameLimit < part.utf8ByteSize then .error .tooLong
      else follow (if part == ".." then place.dropLast else place ++ [part]) parts
    else if (t.fileAt? place).isSome then .error .notFolder
    else .error .missing

/-- Whether a path holds a null character. -/
def holdsNull (p : Path) : Bool := p.parts.any (·.contains '\x00')

/-- The place of a path. -/
def place (p : Path) : Except FileProblem (List String) :=
  if holdsNull p then .error .nullCharacter
  else if pathLimit < p.text.utf8ByteSize then .error .tooLong
  else t.follow [] (t.homePath.join p).parts

/-- Whether a test holds of the place of a path; a path that leads nowhere has none. -/
def placeHas (p : Path) (test : List String → Bool) : Except FileError Bool :=
  match t.place p with
  | .ok place => .ok (test place)
  | .error .tooLong => .error ⟨.tooLong, p⟩
  | .error _ => .ok false

/-- Whether a path is a folder. -/
def isFolder (p : Path) : Except FileError Bool :=
  t.placeHas p t.isFolderAt

/-- Whether there is something at a path. -/
def contains (p : Path) : Except FileError Bool :=
  t.placeHas p fun place => t.isFolderAt place || (t.fileAt? place).isSome

/-- A path with the home folder that it begins with in full. -/
def expandHome (p : Path) : Except FileError Path :=
  match p.homeUser? with
  | none => .ok p
  | some user =>
    if user.contains '\x00' then .error ⟨.nullCharacter, p⟩
    else
      match t.userHomes.lookup user with
      | some folder => .ok { folder with parts := folder.parts ++ p.parts.drop 1 }
      | none => .error ⟨.unknownHome, p⟩

/-- A path in full, without two dots. -/
def fullPath (p : Path) : Except FileError Path :=
  if holdsNull p then .error ⟨.nullCharacter, p⟩ else .ok (Path.resolve t.homePath p)

/-- The contents of a file. -/
def read (p : Path) : Except FileError (List UInt8) :=
  match t.place p with
  | .error problem => .error ⟨problem, p⟩
  | .ok place =>
    if t.isFolderAt place then .error ⟨.isFolder, p⟩
    else
      match t.fileAt? place with
      | some bytes => .ok bytes
      | none => .error ⟨.missing, p⟩

/-- Puts contents at a place. -/
def putAt (place : List String) (bytes : List UInt8) : Tree :=
  { t with files := t.files.put (key place) bytes }

/-- Makes sure that there is a file at a path; errors name the path in full. -/
def touch (p : Path) : Except FileError Tree :=
  let full := Path.resolve t.homePath p
  match t.place p with
  | .error problem => .error ⟨problem, full⟩
  | .ok place =>
    if t.isFolderAt place then .error ⟨.isFolder, full⟩
    else if (t.fileAt? place).isSome then .ok t
    else .ok (t.putAt place [])

/-- Puts a text at the end of a file. -/
def append (p : Path) (text : String) : Tree :=
  match t.place p with
  | .error _ => t
  | .ok place => t.putAt place (((t.fileAt? place).getD []) ++ text.toUTF8.toList)

/-- Puts a text at the end of the file at a place; where there is no file, nothing happens. -/
def appendAt (place : List String) (text : String) : Tree :=
  match t.fileAt? place with
  | some bytes => t.putAt place (bytes ++ text.toUTF8.toList)
  | none => t

/-- Makes a folder, and with it those around it that are missing. -/
def makeFolders : (size : Nat) → Tree → Path → Except FileError Tree
  | 0, _, p => .error ⟨.missing, p⟩
  | size + 1, t, p =>
    match t.place p with
    | .error .missing =>
      if p.parts.isEmpty then .error ⟨.missing, p⟩
      else do makeFolders size (← makeFolders size t p.parent) p
    | .error problem => .error ⟨problem, p⟩
    | .ok place =>
      if t.isFolderAt place then .ok t
      else if (t.fileAt? place).isSome then .error ⟨.present, p⟩
      else .ok { t with folders := place :: t.folders }

/-- Makes a folder with all those around it. -/
def makeFolder (p : Path) : Except FileError Tree :=
  makeFolders (2 * p.parts.length + 2) t p

end Tree

end TypeReach.Files
