import TypeReach.Fault

/-!
# Attributes that are not there
-/

namespace TypeReach.Classes

/-- An attribute that is not there. -/
inductive Missing where
  | ofClass (className name : String)
  | ofModule (module name : String)
  /-- In a module that does not tell its name. -/
  | ofNamelessModule (name : String)
  | ofObject (className name : String)
  /-- A property that nothing computes. -/
  | getter (className : String)
  /-- Nothing more is known than the name. -/
  | name (name : String)
  deriving DecidableEq, Repr

namespace Missing

/-- The characters of a text that begin in its first `n` bytes, where `n` bytes are left; of a
character that is cut through, a mark stays. -/
def cutChars : Nat → List Char → List Char
  | _, [] => []
  | 0, _ => []
  | n + 1, c :: cs =>
    if c.utf8Size ≤ n + 1 then c :: cutChars (n + 1 - c.utf8Size) cs else ['\uFFFD']
termination_by _ cs => cs.length

/-- A class name in a message, of which at most fifty bytes are shown. -/
def quotedClass (className : String) : String :=
  "'" ++ String.ofList (cutChars 50 className.toList) ++ "'"

/-- What is said about an attribute that is not there. -/
def message : Missing → String
  | ofClass c a => "type object " ++ quotedClass c ++ " has no attribute '" ++ a ++ "'"
  | ofModule m a => "module '" ++ m ++ "' has no attribute '" ++ a ++ "'"
  | ofNamelessModule a => "module has no attribute '" ++ a ++ "'"
  | ofObject c a => quotedClass c ++ " object has no attribute '" ++ a ++ "'"
  | getter c => "property of " ++ Text.quoted c ++ " object has no getter"
  | name a => a

/-- A missing attribute as a fault. -/
def toFault (m : Missing) : Fault :=
  .other .attribute m.message

end Missing

end TypeReach.Classes
