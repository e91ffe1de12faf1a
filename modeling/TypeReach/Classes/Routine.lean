import TypeReach.Classes.Parameter

/-!
# Built-in functions

What built-in functions take, and of what class that is which they give.
-/

namespace TypeReach.Classes

/-- The built-in functions that take one object and nothing else. -/
def oneArgument : List String :=
  ["abs", "all", "any", "ascii", "bin", "callable", "chr", "hash", "hex", "id", "len", "oct", "ord",
   "repr"]

/-- The built-in functions that take two objects and nothing else. -/
def twoArguments : List String := ["divmod", "hasattr", "isinstance", "issubclass"]

/-- Whether a built-in function takes no objects by name. -/
def isOrdinary (name : String) : Bool :=
  oneArgument.contains name || twoArguments.contains name || name == "getattr"

/-- The built-in functions and methods that give nothing. -/
def givesNothing : List String :=
  ["breakpoint", "delattr", "exec", "print", "setattr", "append", "clear", "extend", "insert",
   "remove", "reverse", "sort", "update", "add", "discard", "add_note", "__setattr__",
   "__delattr__", "__init__", "__setitem__", "__delitem__"]

/-- The name of the built-in class of what a built-in function gives. -/
def resultClass (name : String) : String :=
  if ["hash", "id", "round", "sum", "pow"].contains name then "int"
  else if ["bin", "format", "hex", "input", "oct"].contains name then "str"
  else if ["dir", "sorted"].contains name then "list"
  else if ["globals", "locals", "vars"].contains name then "dict"
  else if name == "divmod" then "tuple"
  else "object"

/-- The fault of a function that takes objects of other numbers than it is called with, if it is. -/
def countFault? (name : String) (given : Nat) : Option Fault :=
  if oneArgument.contains name && given != 1 then
    some (typeFault (name ++ "() takes exactly one argument (" ++ toString given ++ " given)"))
  else if twoArguments.contains name && given != 2 then
    some (typeFault (name ++ " expected 2 arguments, got " ++ toString given))
  else if name == "getattr" && given < 2 then
    some (typeFault ("getattr expected at least 2 arguments, got " ++ toString given))
  else if name == "getattr" && 3 < given then
    some (typeFault ("getattr expected at most 3 arguments, got " ++ toString given))
  else none

end TypeReach.Classes
