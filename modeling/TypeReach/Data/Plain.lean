import TypeReach.Data.Value

/-!
# Plain values that stand for types

A value from outside may stand for a type by itself. Values that are equal stand for the same type,
and the one that is met first gives the printed form.
-/

namespace TypeReach

/-- A value that stands for a type. -/
structure Plain where
  /-- How the value prints. -/
  shown : String
  /-- The text that equal values share; a value that equals nothing but itself has none. -/
  key : Option String
  /-- What tells apart values that equal nothing but themselves. -/
  serial : Nat := 0
  /-- Whether the value is the same object wherever it is read. -/
  unique : Bool := false
  deriving DecidableEq, Repr, Inhabited

namespace Plain

/-- Whether a value is the same object wherever it is read: constants, integers from -5 up to 256,
and texts of at most one character of the first 256. -/
def isUnique : Value → Bool
  | .null | .bool _ | .tuple [] => true
  | .int n => -5 ≤ n && n ≤ 256
  | .str s => s.length ≤ 1 && s.toList.all fun c => c.toNat < 256
  | _ => false

/-- A value as one that stands for a type. -/
def ofValue (v : Value) : Plain where
  shown := v.shown
  key := v.key?
  unique := isUnique v

/-- Whether two values that were read apart are equal. -/
def equals (p q : Plain) : Bool := p.key.isSome && p.key == q.key

/-- Whether two values that were read apart are one object. -/
def isOne (p q : Plain) : Bool := p.unique && q.unique && p.shown == q.shown

/-- The value by which a value is known, among those that are known. -/
def recognise (known : List Plain) (p : Plain) : Plain :=
  match p.key with
  | some _ => (known.find? fun q => q.key == p.key).getD p
  | none => { p with serial := known.length + 1 }

end Plain

end TypeReach
