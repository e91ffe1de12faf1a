import TypeReach.Classes.Ancestors
import TypeReach.Classes.Routine

/-!
# What classes say about their records

A class may have functions under special names, and these are called where a record is compared,
printed, read or called itself. Such a function is found in the class and never in the record.
-/

namespace TypeReach.Classes

/-- A way of calling objects. -/
abbrev Caller := Object → Call → Except Fault Object

namespace Universe

variable (u : Universe)

/-- The fault of calling an object that nothing comes of. -/
def notCallable (o : Object) : Fault :=
  typeFault (Text.quoted (u.typeName (u.classOf o)) ++ " object is not callable")

/-- The fault of calling a class with objects that takes none. -/
def takesNothing (c : ClassId) : Fault :=
  typeFault (u.plainName c ++ "() takes no arguments")

/-! ### Calling what stands in a class -/

/-- What comes of reading a value that stands in a class, for an object or the class `reader`, if
the value's class says so. A bare record of a class of functions or properties has nothing that
would be called. -/
def describedBy? (again : Caller) (value instanceOrNull : Object) (reader : ClassId) :
    Option (Except Fault Object) :=
  let given : Call := { arguments := [value, instanceOrNull, .cls reader] }
  let bare := fun (kind : String) =>
    some (Except.error (.other .runtime ("uninitialized " ++ kind ++ " object")))
  match value with
  | .record c _ =>
    match u.content? c "__get__" with
    | some (.attribute (.function f)) | some (.attribute (.static f)) => some (f.called given)
    | some (.attribute (.value v)) => some (again v given)
    | some (.attribute a) => some (.error (u.notCallable (a.held c "__get__")))
    | some (.held _) =>
      if u.isBelowBuiltin "staticmethod" value then bare "staticmethod"
      else if u.isBelowBuiltin "classmethod" value then bare "classmethod"
      else match u.isBelowBuiltin "property" value, instanceOrNull with
        | true, .record .. => some (.error (Missing.getter (u.qualnameOf reader)).toFault)
        | _, _ => none
    | none => none
  | _ => none

/-- What comes of calling what the class of an object has under a name. -/
def ofAttribute (again : Caller) (o : Object) (a : Attribute) (call : Call) :
    Except Fault Object :=
  let c := u.classOf o
  match a with
  | .function f => f.called { call with arguments := o :: call.arguments }
  | .static f => f.called call
  | .classMethod f => f.called { call with arguments := .cls c :: call.arguments }
  | .property (some f) => do again (← f.called { arguments := [o] }) call
  | .property none => .error (Missing.getter (u.qualnameOf c)).toFault
  | .value v => do again (← (u.describedBy? again v o c).getD (.ok v)) call

/-- What comes of calling what a class has under a name, where a function is not bound. -/
def ofOwnAttribute (again : Caller) (c : ClassId) (a : Attribute) (call : Call) :
    Except Fault Object :=
  match a with
  | .function f | .static f => f.called call
  | .classMethod f => f.called { call with arguments := .cls c :: call.arguments }
  | .property _ => .error (typeFault "'property' object is not callable")
  | .value v => do again (← (u.describedBy? again v .null c).getD (.ok v)) call

/-- The fault of reading what the class of an object has under a name, before it is called. -/
def readingFault? (again : Caller) (o : Object) (a : Attribute) : Option Fault :=
  let faultOf := fun
    | Except.error fault => some fault
    | Except.ok (_ : Object) => none
  match a with
  | .property (some f) => faultOf (f.called { arguments := [o] })
  | .property none => some (Missing.getter (u.qualnameOf (u.classOf o))).toFault
  | .value v => (u.describedBy? again v o (u.classOf o)).bind faultOf
  | .function _ | .static _ | .classMethod _ => none

/-- What the class of a record says under a name about the record and other objects. -/
def said? (again : Caller) (o : Object) (name : String) (given : List Object) :
    Option (Except Fault Object) :=
  match o with
  | .record c _ =>
    match u.content? c name with
    | some (.attribute a) => some (u.ofAttribute again o a { arguments := given })
    | _ => none
  | _ => none

/-- What the class of a record says under a name about the record and other objects, if there is no
fault before it is asked. -/
def saidIfRead? (again : Caller) (o : Object) (name : String) (given : List Object) :
    Option (Except Fault Object) :=
  match u.content? (u.classOf o) name with
  | some (.attribute a) =>
    if (u.readingFault? again o a).isSome then none else u.said? again o name given
  | _ => none

/-! ### Before calls are known -/

/-- What comes of calling a record, in at most `n` calls one inside another. Of a class it is known
only which one is called and whether it takes anything, and nothing is known of a built-in
function. -/
def simplyCalledWithin : Nat → Caller
  | 0, _, _ => .error .nestedTooDeep
  | n + 1, o, call =>
    match o with
    | .record c _ =>
      match u.content? c "__call__" with
      | some (.attribute a) => u.ofAttribute (simplyCalledWithin n) o a call
      | _ => .error (u.notCallable o)
    | .cls c =>
      if !call.isEmpty && u.isCommon c "__new__" && u.isCommon c "__init__" then
        .error (u.takesNothing c)
      else .ok (.thing c)
    | .feature of owner name =>
      let fault? := if owner.isNone then countFault? name call.arguments.length else none
      match u.functionIn? owner name, fault? with
      | some f, _ =>
        f.called (if of == .builtin "method"
          then { call with arguments := .null :: call.arguments } else call)
      | none, some fault => .error fault
      | none, none => .ok (.ofBuiltin "object")
    | o => .error (u.notCallable o)

/-- What comes of calling a record. What a class has for calls of its records may be a record again;
unless that goes round in a circle, no class comes twice. -/
def simplyCalled : Caller :=
  u.simplyCalledWithin (u.classes.length + 2)

/-- What the class of a record says under a name about the record and other objects. -/
def simplySaid? (o : Object) (name : String) (given : List Object) :
    Option (Except Fault Object) :=
  u.said? u.simplyCalled o name given

/-- What comes of reading a value that stands in a class, for an object or the class `reader`, if
the value's class says so. -/
def described? (value instanceOrNull : Object) (reader : ClassId) :
    Option (Except Fault Object) :=
  u.describedBy? u.simplyCalled value instanceOrNull reader

/-- The fault of asking a record for an attribute, if its class says how its records are read and
that fails. -/
def askingFault? (o : Object) (member : String) : Option Fault :=
  let asked := fun (name : String) => u.simplySaid? o name [.str member]
  let isMissing := fun
    | Fault.other .attribute _ => true
    | _ => false
  let late := fun
    | some (Except.error fault) => if isMissing fault then none else some fault
    | _ => none
  match asked "__getattribute__" with
  | some (.error fault) => if isMissing fault then late (asked "__getattr__") else some fault
  | some (.ok _) => none
  | none => if member == "__class__" then none else late (asked "__getattr__")

/-- The fault of asking a record for its class. -/
def classFault? (o : Object) : Option Fault :=
  u.askingFault? o "__class__"

/-- The fault of asking a record for the mark that tells it from others, unless its objects can
change and have none. -/
def markFault? (o : Object) : Option Fault :=
  match u.saidIfRead? u.simplyCalled o "__hash__" [] with
  | some (.error fault) => some fault
  | some (.ok (.int _)) | some (.ok (.bool _)) | none => none
  | some (.ok _) => some (typeFault "__hash__ method should return an integer")

end Universe

end TypeReach.Classes
