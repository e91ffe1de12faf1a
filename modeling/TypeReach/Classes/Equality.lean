import TypeReach.Classes.Object

/-!
# Equality of objects

Numbers are equal if they count the same, unions if they have the same members in any order. Literal
values are told apart by their class as well.
-/

namespace TypeReach.Classes.Object

/-- What a number counts: a whole number, or another one. -/
def count? : Object → Option (Int ⊕ Double)
  | bool b => some (.inl (if b then 1 else 0))
  | int n => some (.inl n)
  | double x =>
    match x.toInt? with
    | some n => some (.inl n)
    | none => if x.isNaN then none else some (.inr x)
  | _ => none

/-- Whether two numbers count the same. -/
def countsAs (a b : Object) : Bool :=
  a.count?.isSome && a.count? == b.count?

mutual

/-- Whether two objects are equal. -/
def same : Object → Object → Bool
  | null, null => true
  | bool a, b => countsAs (bool a) b
  | int a, b => countsAs (int a) b
  | double a, b => countsAs (double a) b
  | str a, str b => a == b
  | list as, list bs => sameList as bs
  | tuple as, tuple bs => sameList as bs
  | mapping as, mapping bs => sameEntries as bs
  | record c as, record d bs => c == d && sameFields as bs
  | cls a, cls b => a == b
  | forward _ a _, forward _ b _ => a == b
  | typeVar a, typeVar b => a == b
  | anything, anything => true
  | rest, rest => true
  | bare a, bare b => a == b
  | literal as, literal bs => allKnown as bs && bs.all (knows as)
  | wrapped v a, wrapped w b => v == w && a.same b
  | annotated a as, annotated b bs => a.same b && sameList as bs
  | union as, union bs | union as, either bs | either as, union bs | either as, either bs =>
    allIn as bs && bs.all (hasIn as)
  | applied .plain c as, applied .plain d bs => c == d && sameList as bs
  | applied .hint c as, applied .hint d bs => c == d && sameList as bs
  | applied .function c as, applied .function d bs => c == d && sameList as bs
  | parameters as, parameters bs => sameList as bs
  | slice a b c, slice d e f => a.same d && b.same e && c.same f
  | feature a c s, feature b d t => a == b && c == d && s == t
  | thing a, thing b => a == b
  | _, _ => false

/-- Whether two lists of objects are equal. -/
def sameList : List Object → List Object → Bool
  | [], [] => true
  | a :: as, b :: bs => a.same b && sameList as bs
  | _, _ => false

/-- Whether two mappings have the same keys and values in the same order. -/
def sameEntries : List (Object × Object) → List (Object × Object) → Bool
  | [], [] => true
  | (j, a) :: as, (k, b) :: bs => j.same k && a.same b && sameEntries as bs
  | _, _ => false

/-- Whether two records hold the same. -/
def sameFields : List (String × Object) → List (String × Object) → Bool
  | [], [] => true
  | (n, a) :: as, (m, b) :: bs => n == m && a.same b && sameFields as bs
  | _, _ => false

/-- Whether each of some objects equals one of others. -/
def allIn : List Object → List Object → Bool
  | [], _ => true
  | a :: as, bs => bs.any (a.same ·) && allIn as bs

/-- Whether one of some objects equals the given one. -/
def hasIn : List Object → Object → Bool
  | [], _ => false
  | a :: as, b => a.same b || hasIn as b

/-- Whether each of some objects equals one of others that has its class. -/
def allKnown : List Object → List Object → Bool
  | [], _ => true
  | a :: as, bs => bs.any (fun b => a.classOf == b.classOf && a.same b) && allKnown as bs

/-- Whether one of some objects equals the given one and has its class. -/
def knows : List Object → Object → Bool
  | [], _ => false
  | a :: as, b => (a.classOf == b.classOf && a.same b) || knows as b

end

/-- The objects of a list without those that equal one before. -/
def distinct : List Object → List Object
  | [] => []
  | o :: os => o :: (distinct os).filter fun p => !o.same p

end TypeReach.Classes.Object
