import TypeReach.Classes.Missing
import TypeReach.Classes.Universe

/-!
# What classes have from their ancestors

A class and its ancestors stand in one order, and of the classes that have something under a name,
the first in the order gives it.
-/

namespace TypeReach.Classes

/-- What is found under a name in a class. -/
inductive Content where
  | attribute (a : Attribute)
  /-- In a standard class. -/
  | held (h : Held)
  deriving Inhabited

/-- The classes of functions and methods. -/
def routineClasses : List String :=
  ["function", "builtin_function_or_method", "method", "method-wrapper", "method_descriptor",
   "wrapper_descriptor", "classmethod_descriptor"]

/-- Whether an object that is no record is there to be called. -/
def Object.isRoutine : Object → Bool
  | feature (.standard "builtins" name) .. | thing (.standard "builtins" name) =>
    routineClasses.contains name
  | _ => false

namespace Universe

variable (u : Universe)

/-! ### What is found under a name -/

/-- The names that every declared class has for itself, each with an object. -/
def plainNames (c : ClassId) (i : ClassInfo) : List (String × Object) :=
  let some? := fun (name : String) (present : Bool) (o : Object) =>
    if present then [(name, o)] else []
  [("__module__", (i.module.map Object.str).getD .null),
    ("__doc__", (i.documentation.map Object.str).getD .null),
    ("__weakref__", .feature (.builtin "getset_descriptor") (some c) "__weakref__")]
    ++ some? "__annotations__" (!i.fields.entries.isEmpty)
      (.mapping (i.fields.entries.map fun e => (.str e.1, e.2)))
    ++ some? "__orig_bases__" (i.bases.any fun b => !b.isClass) (.tuple i.bases)
    ++ some? "__parameters__" (i.order.contains .generic) (.tuple (i.parameters.map .typeVar))

/-- The names that a class has for itself if its fields make up its records. -/
def recordNames (c : ClassId) (i : ClassInfo) : List (String × Object) :=
  match i.recordFields with
  | none => []
  | some fields =>
    [("__init__", .feature (.builtin "function") (some c) "__init__"), ("__hash__", .null),
      ("__dataclass_fields__", .ofBuiltin "dict"),
      ("__dataclass_params__", .thing (.standard "dataclasses" "_DataclassParams")),
      ("__match_args__",
        .tuple ((fields.entries.filter fun e => !e.2.isClassWide).map fun e => .str e.1))]

/-- What a class itself has under a name. -/
def ownContent? (c : ClassId) (name : String) : Option Content :=
  match c with
  | .standard module className =>
    (Standard.held? module className name).map .held <|>
      (Standard.classValue? module className name).map fun o => .attribute (.value o)
  | .declared _ => (u.info? c).bind fun i =>
      (i.attributes.get? name <|>
        ((plainNames c i ++ recordNames c i).lookup name).map Attribute.value).map .attribute

/-- What a class or the first of its ancestors that has something has under a name, with the class
that has it. -/
def found? (c : ClassId) (name : String) : Option (ClassId × Content) :=
  (u.order c).findSome? fun d => (u.ownContent? d name).map fun content => (d, content)

/-- What a class or the first of its ancestors that has something has under a name. -/
def content? (c : ClassId) (name : String) : Option Content :=
  (u.found? c name).map Prod.snd

/-- Whether what a class has under a name is what all classes have. -/
def isCommon (c : ClassId) (name : String) : Bool :=
  ((u.found? c name).map Prod.fst) == some (.builtin "object")

/-- The attribute that a class or the first of its ancestors that has one was given under a name. -/
def inherited? (c : ClassId) (name : String) : Option Attribute :=
  (u.order c).findSome? fun d => (u.info? d).bind fun i => i.attributes.get? name

/-- The function that a class itself has under a name. -/
def functionIn? (owner : Option ClassId) (name : String) : Option Function :=
  match owner.bind fun c => u.ownContent? c name with
  | some (.attribute a) => a.function?
  | _ => none

/-- The full name of a function or another part of a class: a function that was declared has its
own. -/
def fullName (owner : Option ClassId) (name : String) : String :=
  match u.functionIn? owner name with
  | some f => f.name
  | none => (owner.map fun c => u.qualnameOf c ++ "." ++ name).getD name

/-- The names that a class and its declared ancestors have attributes under, sorted and without
repetition. -/
def attributeNames (c : ClassId) : List String :=
  let names := (u.order c).flatMap fun d =>
    ((u.info? d).map fun i => i.attributes.names).getD []
  (names.eraseDups).mergeSort fun a b => decide (a ≤ b)

/-! ### Values in classes -/

/-- Whether a value is a record of a class below a built-in one. -/
def isBelowBuiltin (className : String) (value : Object) : Bool :=
  match value with
  | .record c _ => (u.order c).contains (.builtin className)
  | _ => false

/-- Whether a value in a class also says what happens when it is written. -/
def isWritable : Object → Bool
  | .record c _ => (u.content? c "__set__").isSome || (u.content? c "__delete__").isSome
  | _ => false

/-! ### Records -/

/-- The plain value that a record is besides what it holds: an empty one, if its class is that of
nothing or of truth values, or below that of texts, rows, mappings or numbers. -/
def plainOf (o : Object) : Object :=
  match o with
  | .record c _ =>
    let isBelow := fun (name : String) => (u.order c).contains (.builtin name)
    if isBelow "list" then .list []
    else if isBelow "tuple" then .tuple []
    else if isBelow "str" then .str ""
    else if isBelow "bool" then .bool false
    else if isBelow "int" then .int 0
    else if isBelow "float" then .double ⟨0⟩
    else if isBelow "dict" then .mapping []
    else if isBelow "NoneType" then .null
    else o
  | o => o

/-- The fields of records of the nearest class that has them, from the class upwards. -/
def nearestFields? (c : ClassId) : Option (Table RecordField) :=
  (u.order c).findSome? fun d => (u.info? d).bind ClassInfo.recordFields

/-- The names of the fields that records of a class are made of, if there are any. -/
def recordFields? (c : ClassId) : Option (List String) :=
  (u.nearestFields? c).map fun fields =>
    (fields.entries.filter fun e => !e.2.isClassWide).map Prod.fst

end Universe

end TypeReach.Classes
