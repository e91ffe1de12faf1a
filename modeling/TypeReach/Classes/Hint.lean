import TypeReach.Classes.Meaning
import TypeReach.Classes.Resolve
import TypeReach.Provider

/-!
# Evaluation of hints

Before a signature is read, every formula in its hints is replaced by what it stands for, at any
depth. The bounds of type variables are left as they are. A formula inside what it stands for itself
stays a formula. What a numbered formula stood for is kept; the hints of functions go back to it.
-/

namespace TypeReach.Classes

/-- What the formulas in a hint are read with. -/
structure HintScope where
  names : Scope
  /-- Whether a formula keeps standing for what it once stood for. -/
  isLasting : Bool

/-- A step of evaluation, which keeps what formulas stood for. -/
abbrev Evaluation := Lookup Settled

/-- An answer as a step of evaluation. -/
def Evaluation.ofExcept {β : Type} (r : Except Fault β) : Evaluation β := fun kept =>
  match r with
  | .ok b => .ok b kept
  | .error fault => .error fault kept

/-- What a numbered formula stood for the last time. -/
def Evaluation.kept? (number : Option Nat) : Evaluation (Option Object) := do
  let kept ← get
  return number.bind fun n => List.lookup n kept

/-- Keeps what a formula stands for, if it has a number. -/
def Evaluation.keep (number : Option Nat) (o : Object) : Evaluation Unit :=
  match number with
  | some n => modify fun kept => (n, o) :: kept
  | none => pure ()

namespace Universe

variable (u : Universe)

/-- An object as the argument of a standard class: a text is a formula. -/
def plainArgument : Object → Except Fault Object
  | .str s => checkedPart false (.str s)
  | o => .ok o

/-- A type that a formula stands for. -/
def typeMeant (scope : Scope) (text : String) (lenient : Bool) : Except Fault Object := do
  let o ← u.meaning scope (← formulaOf text)
  u.typePart lenient "Forward references must evaluate to types." o

/-- What a formula stood for the last time, if formulas keep it in the scope. -/
def known? (scope : HintScope) (number : Option Nat) : Evaluation (Option Object) := do
  if scope.isLasting then
    return (← Evaluation.kept? number) <|> number.bind fun n => List.lookup n u.settled
  else return none

/-- A hint with other arguments than it had; the same hint if they are equal to those. -/
def withArguments (o : Object) (arguments : List Object) : Except Fault Object :=
  if Object.sameList arguments (argumentsOf o) then .ok o
  else match o, arguments with
    | .wrapped f _, [hint] => .ok (.wrapped f hint)
    | .annotated _ annotations, [hint] => .ok (hint.annotate annotations)
    | .union _, os => u.unite os
    | .either _, os => u.joinAll os
    | .applied how origin _, os => .ok (.applied how origin os)
    | .parameters _, os => .ok (.parameters os)
    | o, _ => .ok o

/-- A hint with its formulas replaced, in at most `n` steps down. The formulas in `opened` are being
replaced already. -/
def evaluateWithin (scope : HintScope) : Nat → List String → Object → Evaluation Object
  | 0, _, _ => throw .nestedTooDeep
  | n + 1, opened, o => do
    match o with
    | .forward number text lenient =>
      if opened.contains text then return o
      match ← u.known? scope number with
      | some found => return found
      | none => do
        let target ← .ofExcept (u.typeMeant scope.names text lenient)
        let found ← evaluateWithin scope n (text :: opened) target
        Evaluation.keep number found
        return found
    | .applied .plain .. =>
      let arguments ← .ofExcept ((argumentsOf o).mapM plainArgument)
      .ofExcept (u.withArguments o (← arguments.mapM (evaluateWithin scope n opened)))
    | .literal _ => return o
    | o =>
      let arguments := argumentsOf o
      if arguments.isEmpty then return o
      else .ofExcept (u.withArguments o (← arguments.mapM (evaluateWithin scope n opened)))

/-- The hint of a parameter, a result or a field with its formulas replaced. -/
def evaluate (scope : HintScope) (hint : Object) : Evaluation Object := do
  let hint ← .ofExcept (checkedPart (!scope.isLasting) hint)
  u.evaluateWithin scope (u.depth hint) [] hint

/-- A fault in reading a signature: an undefined name is a type that is not there. -/
def signatureFault : Fault → Fault
  | .unknownName message name =>
    let missing := match name with
      | none | some "" => message
      | some n => n
    .notPresent (some missing) (some (.unknownName message name))
  | fault => fault

/-- Hints with their formulas replaced, in order; the first fault is that of the signature. -/
def evaluateAll (scope : HintScope) (hints : List (String × Object)) :
    Evaluation (List (String × Object)) := fun kept =>
  let one := fun (h : String × Object) => do return (h.1, ← u.evaluate scope h.2)
  match (hints.mapM one : Evaluation _) kept with
  | .ok hints kept => .ok hints kept
  | .error fault kept => .error (signatureFault fault) kept

end Universe

end TypeReach.Classes
