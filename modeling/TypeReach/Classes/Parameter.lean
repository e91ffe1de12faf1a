import TypeReach.Classes.Object
import TypeReach.Fault
import TypeReach.Text.Normal
import TypeReach.Text.Word

/-!
# Parameters and calls

A function takes objects by their places, by names, or both. A call gives some, and fails if they
are not those that the function takes: one too many, one by a name that is not there, or one that is
missing.
-/

namespace TypeReach.Classes

/-- The fault of something that is not of the right kind. -/
def typeFault (message : String) : Fault :=
  .other .type message

/-! ### Parameters -/

/-- How a parameter is given. -/
inductive ParameterKind where
  /-- By its place only. -/
  | placed
  /-- By its place or by its name. -/
  | free
  /-- It takes all that is given by place and is left over. -/
  | rest
  /-- By its name only. -/
  | named
  /-- It takes all that is given by name and is left over. -/
  | others
  deriving DecidableEq, Repr, Inhabited

/-- A parameter of a function. -/
structure Parameter where
  name : String
  kind : ParameterKind := .free
  /-- Whether it may be left out. -/
  isOptional : Bool := false
  deriving DecidableEq, Repr, Inhabited

namespace Parameter

/-- Whether a parameter can be given by its place. -/
def hasPlace (p : Parameter) : Bool :=
  p.kind == .placed || p.kind == .free

/-- A written parameter without the stars in front of it. -/
def spelling (written : String) : String :=
  String.ofList (written.toList.dropWhile (· == '*'))

/-- The name that a parameter is written with: the word after the stars, in its normal form. -/
def nameOf (written : String) : String :=
  Text.normal (String.ofList ((spelling written).toList.takeWhile Text.isWord))

/-- Parameters as they are written, after others. One star takes what is left over and two stars
take what is left over by name. All before a slash have only places, and all behind a star have only
names. -/
def readAfter (before : List Parameter) (isNamed : Bool) : List String → List Parameter
  | [] => before
  | written :: rest =>
    let add := fun (kind : ParameterKind) => before ++ [{ name := nameOf written, kind }]
    match written.toList with
    | ['/'] =>
      readAfter (before.map fun p => if p.kind == .free then { p with kind := .placed } else p)
        isNamed rest
    | ['*'] => readAfter before true rest
    | '*' :: '*' :: _ => readAfter (add .others) isNamed rest
    | '*' :: _ => readAfter (add .rest) true rest
    | _ => readAfter (add (if isNamed then .named else .free)) isNamed rest

/-- Parameters as they are written. -/
def read (written : List String) : List Parameter :=
  readAfter [] false written

end Parameter

/-! ### Calls -/

/-- What an object is called with: objects by their places, and objects by names. -/
structure Call where
  arguments : List Object
  named : List (String × Object) := []

/-- Names with commas between them, and `and` in front of the last. -/
def enumerated : List String → String
  | [] => ""
  | [a] => a
  | [a, b] => a ++ " and " ++ b
  | names => ", ".intercalate names.dropLast ++ ", and " ++ names.getLastD ""

/-- The end of a word for so many things. -/
def pluralEnd (n : Nat) : String := if n == 1 then "" else "s"

/-- A number of things in words. -/
def counted (n : Nat) (thing : String) : String :=
  toString n ++ " " ++ thing ++ pluralEnd n

/-- What is wrong with what a function is called with. -/
inductive Misfit where
  /-- More objects are given by their places than there are places, of which some may be left out;
  and so many objects are given whose parameters have only names. -/
  | tooMany (optional places given named : Nat)
  /-- Parameters that have places are missing. -/
  | missingPlaced (names : List String)
  /-- Parameters that have only names are missing. -/
  | missingNamed (names : List String)
  /-- An object is given by a name and by its place. -/
  | repeated (name : String)
  /-- No parameter has the name. -/
  | unexpected (name : String)
  /-- Parameters are given by name that have only places. -/
  | onlyPlaced (names : List String)
  deriving DecidableEq, Repr

namespace Misfit

/-- How many places there are, in words. -/
def places (optional places : Nat) : String :=
  if optional == 0 then counted places "positional argument"
  else "from " ++ toString (places - optional) ++ " to " ++ toString places
    ++ " positional arguments"

/-- What is said about a call that does not fit. -/
def message : Misfit → String
  | tooMany optional count given named =>
    let alsoNamed := if named == 0 then "" else " positional argument" ++ pluralEnd given
      ++ " (and " ++ counted named "keyword-only argument" ++ ")"
    "takes " ++ places optional count ++ " but " ++ toString given ++ alsoNamed
      ++ (if given == 1 && named == 0 then " was given" else " were given")
  | missingPlaced names => "missing " ++ counted names.length "required positional argument" ++ ": "
      ++ enumerated (names.map Text.quoted)
  | missingNamed names => "missing " ++ counted names.length "required keyword-only argument"
      ++ ": " ++ enumerated (names.map Text.quoted)
  | repeated name => "got multiple values for argument " ++ Text.quoted name
  | unexpected name => "got an unexpected keyword argument " ++ Text.quoted name
  | onlyPlaced names => "got some positional-only arguments passed as keyword arguments: "
      ++ Text.quoted (", ".intercalate names)

end Misfit

namespace Call

variable (call : Call)

/-- Whether nothing is given in a call. -/
def isEmpty : Bool :=
  call.arguments.isEmpty && call.named.isEmpty

/-- What is wrong with an object that is given by name, if something is. -/
def nameMisfit? (takes : List Parameter) (name : String) : Option Misfit :=
  let placed := (takes.filter Parameter.hasPlace).take call.arguments.length
  let byName := takes.filter fun p => p.name == name && (p.kind == .free || p.kind == .named)
  let onlyPlaced := (call.named.map Prod.fst).filter fun n =>
    takes.any fun p => p.kind == .placed && p.name == n
  if !byName.isEmpty then
    if placed.any fun p => p.name == name then some (.repeated name) else none
  else if takes.any fun p => p.kind == .others then none
  else if !onlyPlaced.isEmpty then some (.onlyPlaced onlyPlaced)
  else some (.unexpected name)

/-- The names of the parameters that must be given by name, for they are not given by their places,
and are not. -/
def missing (parameters : List Parameter) : List String :=
  (parameters.filter fun p =>
    !p.isOptional && (p.kind == .placed || (call.named.lookup p.name).isNone)).map (·.name)

/-- What is wrong with a call of a function, if something is. -/
def misfit? (takes : List Parameter) : Option Misfit :=
  let places := takes.filter Parameter.hasPlace
  let named := takes.filter fun p => p.kind == .named
  let given := call.arguments.length
  let givenNamed := (named.filter fun p => (call.named.lookup p.name).isSome).length
  let tooMany := if places.length < given && !(takes.any fun p => p.kind == .rest)
    then some (.tooMany (places.filter (·.isOptional)).length places.length given givenNamed)
    else none
  let missingPlaced := match call.missing (places.drop given) with
    | [] => none
    | names => some (.missingPlaced names)
  let missingNamed := match call.missing named with
    | [] => none
    | names => some (.missingNamed names)
  call.named.findSome? (fun e => call.nameMisfit? takes e.1) <|> tooMany <|> missingPlaced
    <|> missingNamed

/-- A call by places alone fits a function with just these places. -/
theorem misfit?_eq_none {takes : List Parameter} (h : takes.length = call.arguments.length)
    (hfree : ∀ p ∈ takes, p.kind = .free) (hnamed : call.named = []) :
    call.misfit? takes = none := by
  have hplaces : takes.filter Parameter.hasPlace = takes :=
    List.filter_eq_self.2 fun p hp => by simp [Parameter.hasPlace, hfree p hp]
  have hnames : takes.filter (fun p => p.kind == .named) = [] :=
    List.filter_eq_nil_iff.2 fun p hp => by simp [hfree p hp]
  have hrest : takes.drop call.arguments.length = [] := by simp [← h]
  simp [misfit?, hplaces, hnames, hnamed, h, missing, hrest]

/-- Fails unless a function of the given name takes what is given. -/
def require (function : String) (takes : List Parameter) : Except Fault Unit :=
  match call.misfit? takes with
  | some m => .error (typeFault (function ++ "() " ++ m.message))
  | none => .ok ()

end Call

end TypeReach.Classes
