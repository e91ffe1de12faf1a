import TypeReach.Data.Moment
import TypeReach.Decimal.Integer
import TypeReach.Decimal.Shortest
import TypeReach.Text.Quoted

/-!
# Values of a graph file

A graph or settings file is a tree of values, in which a collection may hold itself: then it has a
name, and the name stands for it inside. Two more kinds of value stand in annotation attributes: one
that names a type and is resolved when it is read, and one that must not be read. Reading the former
gives a handle.
-/

namespace TypeReach

/-- A value of a graph file or of an annotation attribute. -/
inductive Value where
  | null
  | bool (b : Bool)
  | int (n : Int)
  | double (x : Double)
  | str (s : String)
  | bytes (bs : List UInt8)
  | day (d : Day)
  | moment (m : Moment)
  | list (items : List Value)
  | tuple (items : List Value)
  | map (entries : List (Value × Value))
  | set (items : List Value)
  /-- A value that names a type, resolved when it is read. -/
  | typeName (name : String)
  /-- A value that must not be read. -/
  | restricted (reason : String)
  /-- The handle of a type. -/
  | handle (name : String)
  /-- A collection with a name, which may stand for it inside. -/
  | loop (name : Nat) (body : Value)
  /-- The collection with a name, inside that collection. -/
  | again (name : Nat)
  deriving Inhabited

namespace Value

/-- Parts with a comma and a blank between them. -/
def commaSeparated (parts : List String) : String :=
  ", ".intercalate parts

mutual

/-- A value in which another stands for a name. -/
def subst (name : Nat) (v : Value) : Value → Value
  | again n => if n = name then v else again n
  | loop n body => if n = name then loop n body else loop n (subst name v body)
  | list items => list (substList name v items)
  | tuple items => tuple (substList name v items)
  | map entries => map (substEntries name v entries)
  | set items => set (substList name v items)
  | w => w

/-- Values in which another stands for a name. -/
def substList (name : Nat) (v : Value) : List Value → List Value
  | [] => []
  | w :: ws => subst name v w :: substList name v ws

/-- Entries in which another value stands for a name. -/
def substEntries (name : Nat) (v : Value) : List (Value × Value) → List (Value × Value)
  | [] => []
  | (k, w) :: es => (subst name v k, subst name v w) :: substEntries name v es

end

/-- A value with its outermost collection laid open. -/
def opened : Value → Value
  | loop name body => subst name (loop name body) body
  | v => v

/-- What a collection prints as inside itself. -/
def ellipsis : Value → String
  | tuple _ => "(...)"
  | map _ => "\x7b...\x7d"
  | set _ => "set(...)"
  | _ => "[...]"

mutual

/-- How a value prints inside the collections with the names in `around`, each with what it prints
as there. -/
def shownWithin (around : List (Nat × String)) : Value → String
  | null => "None"
  | bool b => if b then "True" else "False"
  | int n => toString n
  | double x => x.text
  | str s => Text.quoted s
  | bytes bs => Text.quotedBytes bs
  | day d => d.shown
  | moment m => m.shown
  | list items => "[" ++ commaSeparated (shownList around items) ++ "]"
  | tuple [item] => "(" ++ item.shownWithin around ++ ",)"
  | tuple items => "(" ++ commaSeparated (shownList around items) ++ ")"
  | map entries => "\x7b" ++ commaSeparated (shownEntries around entries) ++ "\x7d"
  | set [] => "set()"
  | set items => "\x7b" ++ commaSeparated (shownList around items) ++ "\x7d"
  | typeName name => "TypeValue(name=" ++ Text.quoted name ++ ")"
  | restricted reason => "Restricted(reason=" ++ Text.quoted reason ++ ")"
  | handle name => "TypeHandle(" ++ Text.quoted name ++ ")"
  | loop name body =>
    match around.lookup name with
    | some s => s
    | none => body.shownWithin ((name, body.ellipsis) :: around)
  | again name => (around.lookup name).getD "..."

/-- How the items of a list print. -/
def shownList (around : List (Nat × String)) : List Value → List String
  | [] => []
  | v :: vs => v.shownWithin around :: shownList around vs

/-- How the entries of a mapping print. -/
def shownEntries (around : List (Nat × String)) : List (Value × Value) → List String
  | [] => []
  | (k, v) :: es => (k.shownWithin around ++ ": " ++ v.shownWithin around) :: shownEntries around es

end

/-- How a value prints inside another value. -/
def shown (v : Value) : String := v.shownWithin []

/-- A value as plain text: a string is itself, a date is written with dashes, and every other
value is as it prints inside another. -/
def text : Value → String
  | str s => s
  | day d => d.text
  | moment m => m.text
  | v => v.shown

mutual

/-- Whether no integer in a value is too long to be written out. -/
def isWritable : Value → Bool
  | int n => n.natAbs < Nat.pow 10 Decimal.maxDigits
  | list items => areWritable items
  | tuple items => areWritable items
  | map entries => entriesAreWritable entries
  | set items => areWritable items
  | loop _ body => body.isWritable
  | _ => true

/-- Whether values can be written out. -/
def areWritable : List Value → Bool
  | [] => true
  | v :: vs => v.isWritable && areWritable vs

/-- Whether the entries of a mapping can be written out. -/
def entriesAreWritable : List (Value × Value) → Bool
  | [] => true
  | (k, v) :: es => k.isWritable && v.isWritable && entriesAreWritable es

end

/-- How a value prints inside another value, if it can be written out. -/
def shown? (v : Value) : Option String := if v.isWritable then some v.shown else none

/-- A value as plain text, if it can be written out. -/
def text? (v : Value) : Option String := if v.isWritable then some v.text else none

/-- Whether a value counts as true: not empty, not zero and not null. -/
def isTruthy : Value → Bool
  | null => false
  | bool b => b
  | int n => n != 0
  | double x => !x.isZero
  | str s => s != ""
  | bytes bs => !bs.isEmpty
  | list items => !items.isEmpty
  | tuple items => !items.isEmpty
  | map entries => !entries.isEmpty
  | set items => !items.isEmpty
  | loop _ body => body.isTruthy
  | _ => true

mutual

/-- Equality of values as keys: numbers are compared by what they count, and truth values count
as one and zero. -/
def sameKey : Value → Value → Bool
  | null, null => true
  | bool a, bool b => a == b
  | bool a, int n => (if a then 1 else 0) == n
  | int n, bool a => (if a then 1 else 0) == n
  | bool a, double x => x.toInt? == some (if a then 1 else 0)
  | double x, bool a => x.toInt? == some (if a then 1 else 0)
  | int m, int n => m == n
  | int n, double x => x.toInt? == some n
  | double x, int n => x.toInt? == some n
  | double x, double y => x == y || (x.isZero && y.isZero)
  | str a, str b => a == b
  | bytes a, bytes b => a == b
  | day a, day b => a == b
  | moment a, moment b => a.same b
  | list as, list bs => sameKeys as bs
  | tuple as, tuple bs => sameKeys as bs
  | typeName a, typeName b => a == b
  | restricted a, restricted b => a == b
  | handle a, handle b => a == b
  | _, _ => false

/-- Equality of lists of values as keys. -/
def sameKeys : List Value → List Value → Bool
  | [], [] => true
  | a :: as, b :: bs => a.sameKey b && sameKeys as bs
  | _, _ => false

end

mutual

/-- The text that a value shares with those that it equals; there is none if a part of it is no
number, because that equals nothing but itself. The order of a mapping does not count. -/
def key? : Value → Option String
  | bool b => some (if b then "1" else "0")
  | int n => some (toString n)
  | double x =>
    match x.toInt? with
    | some n => some (toString n)
    | none => if x.isNaN then none else some x.text
  | tuple items => (keys? items).map fun ks => "(" ++ commaSeparated ks ++ ")"
  | list items => (keys? items).map fun ks => "[" ++ commaSeparated ks ++ "]"
  | map entries =>
    (entryKeys? entries).map fun ks => "\x7b" ++ commaSeparated ks.mergeSort ++ "\x7d"
  | v => some v.shown

/-- The texts that values share with those that they equal. -/
def keys? : List Value → Option (List String)
  | [] => some []
  | v :: vs => do return (← v.key?) :: (← keys? vs)

/-- The texts that entries of a mapping share with those that they equal. -/
def entryKeys? : List (Value × Value) → Option (List String)
  | [] => some []
  | (k, v) :: es => do return ((← k.key?) ++ ": " ++ (← v.key?)) :: (← entryKeys? es)

end

mutual

/-- The kind of the first changeable part of a value, because of which it cannot be a key. -/
def changeable? : Value → Option String
  | list _ => some "list"
  | map _ => some "dict"
  | set _ => some "set"
  | tuple items => changeableIn? items
  | loop _ body => body.changeable?
  | _ => none

/-- The kind of the first changeable part of some values. -/
def changeableIn? : List Value → Option String
  | [] => none
  | v :: vs => v.changeable? <|> changeableIn? vs

end

/-- The entries of a mapping with one more: a key that is there keeps its place and its first
spelling, and gets the new value. -/
def putEntry (entries : List (Value × Value)) (key value : Value) : List (Value × Value) :=
  if entries.any fun e => e.1.sameKey key then
    entries.map fun e => if e.1.sameKey key then (e.1, value) else e
  else entries ++ [(key, value)]

/-- A mapping of entries in which a later value of a key replaces an earlier one. A key that equals
nothing but itself replaces nothing. -/
def ofEntries (entries : List (Value × Value)) : Value :=
  map <| entries.foldl (fun es e => if e.1.key?.isNone then es ++ [e] else putEntry es e.1 e.2) []

/-- The value under a text key. -/
def fieldOf? (entries : List (Value × Value)) (key : String) : Option Value :=
  (entries.find? fun e => e.1.sameKey (str key)).map Prod.snd

/-- The value under a text key, or null. -/
def fieldOf (entries : List (Value × Value)) (key : String) : Value :=
  (fieldOf? entries key).getD null

end Value

end TypeReach
