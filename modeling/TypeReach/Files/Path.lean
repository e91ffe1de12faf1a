/-!
# Paths

A path is relative or begins with one or two slashes. Its parts hold neither empty text nor single
dots; two dots are kept.
-/

namespace TypeReach.Files

/-- How a path begins. -/
inductive PathStart where
  | relative
  | slash
  | twoSlashes
  deriving DecidableEq, Repr, Inhabited

/-- A path. -/
structure Path where
  start : PathStart
  parts : List String
  deriving DecidableEq, Repr, Inhabited

namespace Path

/-- The number of slashes in front; only two count as two. -/
private def startOf (cs : List Char) : PathStart :=
  match (cs.takeWhile (· == '/')).length with
  | 0 => .relative
  | 2 => .twoSlashes
  | _ => .slash

/-- The path that a text names. -/
def ofText (s : String) : Path where
  start := startOf s.toList
  parts := ((s.toList.splitOn '/').map String.ofList).filter fun part => part != "" && part != "."

/-- The text of a path. -/
def text (p : Path) : String :=
  let parts := "/".intercalate p.parts
  match p.start with
  | .relative => if p.parts.isEmpty then "." else parts
  | .slash => "/" ++ parts
  | .twoSlashes => "//" ++ parts

/-- Whether the path does not depend on a working directory. -/
def isAbsolute (p : Path) : Bool := p.start != .relative

/-- The path `other` seen from `p`. -/
def join (p other : Path) : Path :=
  if other.isAbsolute then other else { p with parts := p.parts ++ other.parts }

/-- The last part, or nothing. -/
def name (p : Path) : String := p.parts.getLast?.getD ""

/-- The path without its last part. -/
def parent (p : Path) : Path := { p with parts := p.parts.dropLast }

/-- Parts with two dots taking back the part before them. -/
def withoutDots (parts : List String) : List String :=
  parts.foldl (fun done part => if part == ".." then done.dropLast else done ++ [part]) []

/-- The path in full, seen from a working directory, without two dots. -/
def resolve (home p : Path) : Path :=
  { start := .slash, parts := withoutDots (home.join p).parts }

/-- The user whose home folder a path begins with: that of the name behind a tilde, which is empty
for the current user. -/
def homeUser? (p : Path) : Option String :=
  match p.start, p.parts with
  | .relative, first :: _ =>
    match first.toList with
    | '~' :: user => some (String.ofList user)
    | _ => none
  | _, _ => none

@[simp] theorem join_of_isAbsolute (p : Path) {other : Path} (h : other.isAbsolute = true) :
    p.join other = other := by
  simp [join, h]

end Path

end TypeReach.Files
