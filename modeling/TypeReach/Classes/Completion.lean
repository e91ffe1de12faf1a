import TypeReach.Classes.Declaration
import TypeReach.Text.Blank
import TypeReach.Text.Word

/-!
# Completion of classes

A class that is declared gets its fields, its other attributes and its metadata later. Some names
stand for what the class says about itself and cannot be given anything. If its fields make up its
records, it takes in the fields of its ancestors, gets functions that print and compare records, and
says what its records are made of.
-/

namespace TypeReach.Classes

/-! ### Numbers of formulas -/

/-- An object whose formulas have the next numbers. -/
def Object.register (o : Object) : StateM Nat Object :=
  modifyGet o.numbered

/-- A function with the formulas in its hints and in what comes of it numbered. -/
def Function.register (f : Function) : StateM Nat Function := do
  let hints ← f.hints.mapM fun h => do return (h.1, ← h.2.register)
  let raises ← f.raises.mapM Object.register
  let outcome ← match f.outcome with
    | .ok o => Except.ok <$> o.register
    | .error fault => pure (.error fault)
  return { f with hints, raises, outcome }

/-- What stands under a name in a class, with its formulas numbered. -/
def Attribute.register : Attribute → StateM Nat Attribute
  | function f => function <$> f.register
  | static f => static <$> f.register
  | classMethod f => classMethod <$> f.register
  | property getter => property <$> getter.mapM Function.register
  | value o => value <$> o.register

/-- The word that a text begins with, unless a dot and another word follow; blanks do not count. -/
def leadingWord? (s : String) : Option String :=
  let word := (s.toList.dropWhile Text.isBlank).takeWhile Text.isWord
  let after := ((s.toList.dropWhile Text.isBlank).dropWhile Text.isWord).dropWhile Text.isBlank
  let more := after.head? == some '.'
    && ((after.drop 1).dropWhile Text.isBlank).head?.any Text.isWord
  if word.isEmpty || more then none else some (String.ofList word)

namespace Universe

variable (u : Universe)

/-! ### Fields -/

/-- Whether a hint in a class of the given module declares an attribute of the class and not of its
records. A text does so if the word that it begins with stands for such a hint. -/
def isClassWide (module : Option String) : Object → Bool
  | .bare .classWide => true
  | .wrapped .classWide _ => true
  | .str s =>
    let found := (leadingWord? s).bind fun word =>
      (module.bind u.modules.get?).bind fun m => m.attributes.get? word
    match found with
    | some (.bare .classWide) | some (.wrapped .classWide _) => true
    | _ => false
  | _ => false

/-- The hints of the fields of a class whose fields make up its records. -/
def ownHints (c : ClassId) : Except Fault (List (String × Object)) :=
  let given := ((u.info? c).bind fun i => i.attributes.get? "__annotations__").map fun a =>
    u.plainOf (a.held c "__annotations__")
  match given with
  | none => .ok (((u.info? c).map fun i => i.fields.entries).getD [])
  | some (.mapping _) => .ok []
  | some o => .error (Missing.ofObject (u.typeName (u.classOf o)) "items").toFault

/-- What records have under the name of a field unless something else is given: what their class
has under it, which must not be able to change. -/
def fieldStandard (c : ClassId) (name : String) (isClassWide : Bool) :
    Except Fault (Option Object) :=
  match u.readClass c name with
  | .error (.other .attribute _) => .ok none
  | .error fault => .error fault
  | .ok (.feature (.standard "builtins" "member_descriptor") ..) => .ok none
  | .ok o =>
    if !isClassWide && u.isChangeable (u.classOf o) then
      .error (.other .value ("mutable default " ++ u.shownClass (u.classOf o) ++ " for field "
        ++ name ++ " is not allowed: use default_factory"))
    else .ok (some o)

/-- A field that records of a class may be made of, with its name. -/
def recordField (c : ClassId) (e : String × Object) : Except Fault (String × RecordField) := do
  let isClassWide := u.isClassWide (u.moduleOf c) e.2
  return (e.1, { hint := e.2, isClassWide, standard := ← u.fieldStandard c e.1 isClassWide })

/-- The fields that records of an ancestor may be made of. -/
def ancestorFields (c : ClassId) : Except Fault (List (String × RecordField)) :=
  match u.readClass c "__dataclass_fields__" with
  | .error (.other .attribute _) | .ok .null => .ok []
  | .error fault => .error fault
  | .ok (.thing _) => .ok (((u.nearestFields? c).map Table.entries).getD [])
  | .ok o =>
    match u.plainOf o with
    | .mapping _ => .ok []
    | _ => .error (Missing.ofObject (u.typeName (u.classOf o)) "values").toFault

/-- The fields that records of a class are made of: those of its ancestors, the farthest first, and
its own; a later one takes the place of an earlier one of its name. -/
def gatheredFields (c : ClassId) : Except Fault (Table RecordField) := do
  let above ← ((u.order c).drop 1).reverse.mapM u.ancestorFields
  let own ← (← u.ownHints c).mapM (u.recordField c)
  return (above.flatten ++ own).foldl (fun t e => t.put e.1 e.2) .empty

/-- Fails if a field that has to be given comes after one that does not. -/
def requireOrder (fields : Table RecordField) : Except Fault Unit :=
  let behind := (fields.entries.filter fun e => !e.2.isClassWide).dropWhile fun e =>
    e.2.standard.isNone
  match behind.find? fun e => e.2.standard.isNone with
  | some (name, _) => .error (typeFault ("non-default argument " ++ Text.quoted name
      ++ " follows default argument"))
  | none => .ok ()

/-! ### What a class says about its records -/

/-- A text without the module of hints in front of the names in it. -/
def withoutHintModule (s : String) : String :=
  let isNamePart := fun (c : Char) => Text.isWord c || c == '.'
  let pieces := s.toList.splitBy fun c d => isNamePart c && isNamePart d
  String.join (pieces.map fun piece =>
    String.ofList (if "typing.".toList.isPrefixOf piece then piece.drop 7 else piece))

/-- How a hint prints in what a class says about its records. -/
def shownHint (hint : Object) : String :=
  let module := match hint with
    | .cls c => u.moduleOf c
    | .forward .. | .anything | .bare _ => some "typing"
    | .either _ => none
    | o => if passesOn o then u.hintModule o else none
  match hint with
  | .cls (.standard "builtins" name) => name
  | .cls (.declared index) => u.nameOf (.declared index)
  | hint => if module == some "typing" then withoutHintModule (u.shown hint) else u.shown hint

/-- What the function that makes records of a class takes: each field by its hint, and what records
have under its name otherwise, if there is anything. -/
def shownField (name : String) (field : RecordField) : String :=
  let value := (field.standard.map fun o => " = " ++ u.shown o).getD ""
  name ++ ": " ++ u.shownHint field.hint ++ value

/-- What a class says that it is whose fields make up its records, unless it says it itself. -/
def recordDocumentation (c : ClassId) (fields : Table RecordField) : String :=
  let shown := (fields.entries.filter fun e => !e.2.isClassWide).map fun e => u.shownField e.1 e.2
  u.plainName c ++ "(" ++ Value.commaSeparated shown ++ ")"

/-! ### Completion -/

/-- The names under which a class says how it is laid out. -/
def layoutNames : List String :=
  ["__mro__", "__base__", "__basicsize__", "__itemsize__", "__flags__", "__weakrefoffset__",
   "__dictoffset__"]

/-- The fault of giving a class something under a name, if that cannot be done. -/
def settingFault? (c : ClassId) (name : String) (a : Attribute) : Option Fault :=
  let given := a.held c name
  let kind := u.typeName (u.classOf given)
  let place := u.plainName c ++ "." ++ name
  match name, given with
  | "__name__", .str s =>
    if s.toList.contains '\x00' then
      some (.other .value "type name must not contain null characters")
    else none
  | "__qualname__", .str _ => none
  | "__name__", _ | "__qualname__", _ =>
    some (typeFault ("can only assign string to " ++ place ++ ", not " ++ Text.quoted kind))
  | "__class__", o => some (typeFault (if o.isClass
      then "__class__ assignment only supported for mutable types or ModuleType subclasses"
      else "__class__ must be set to a class, not " ++ Text.quoted kind ++ " object"))
  | "__bases__", .tuple [] =>
    some (typeFault ("can only assign non-empty tuple to " ++ place ++ ", not ()"))
  | "__bases__", .tuple items => (items.find? fun o => !o.isClass).map fun o =>
      typeFault (place ++ " must be tuple of classes, not "
        ++ Text.quoted (u.typeName (u.classOf o)))
  | "__bases__", _ => some (typeFault ("can only assign tuple to " ++ place ++ ", not " ++ kind))
  | "__dict__", _ | "__text_signature__", _ =>
    some (.other .attribute ("attribute " ++ Text.quoted name
      ++ " of 'type' objects is not writable"))
  | name, _ =>
    if layoutNames.contains name then some (.other .attribute "readonly attribute") else none

/-- Gives a class an attribute. Its names are not among those that it holds. -/
def give (c : ClassId) (u : Universe) (e : String × Attribute) : Except Fault Universe :=
  match u.settingFault? c e.1 e.2 with
  | some fault => .error fault
  | none => .ok <| u.alterClass c fun i =>
    match e with
    | ("__name__", .value (.str name)) => { i with name }
    | ("__qualname__", .value (.str qualname)) => { i with qualname }
    | (name, a) => { i with attributes := i.attributes.put name a }

/-- The attributes of a class whose fields make up its records, with two functions that print and
compare them, unless it has something under their names. What they give is not known from the class
alone. -/
def withRecordFunctions (home qualname : String) (attributes : Table Attribute) :
    Table Attribute :=
  let add := fun (t : Table Attribute) (name : String) (takes : List String) (given : Object) =>
    if t.contains name then t
    else t.put name (.function
      { name := qualname ++ "." ++ name, home, takes := takes.map fun n => { name := n },
        outcome := .ok given })
  add (add attributes "__repr__" ["self"] (.ofBuiltin "str")) "__eq__" ["self", "other"]
    notImplemented

/-- Makes a class one whose fields make up its records. -/
def makeDataClass (c : ClassId) (home : String) : Except Fault Universe := do
  let recordFields ← u.gatheredFields c
  requireOrder recordFields
  let documentation := u.recordDocumentation c recordFields
  return u.alterClass c fun i =>
    { i with
      recordFields := some recordFields
      documentation := some documentation
      attributes :=
        (withRecordFunctions home i.qualname i.attributes).erase "__dataclass_fields__" }

/-- Completes a class that is declared in the module `home`. -/
def complete (c : ClassId) (home : String) (fields : List (String × Object))
    (members : List (String × Attribute)) (isDataClass : Bool) (metadata : List Object) :
    Except Fault Universe := do
  let numbers : StateM Nat _ := do
    let fields ← fields.mapM fun e => do return (e.1, ← e.2.register)
    let members ← members.mapM fun e => do return (e.1, ← e.2.register)
    let metadata ← metadata.mapM Object.register
    return (fields, members, metadata)
  let ((fields, members, metadata), formulas) := numbers.run u.formulas
  let v := { u with formulas }.alterClass c fun i => { i with fields := Table.ofEntries fields }
  let v ← members.foldlM (give c) v
  let v ← if isDataClass then v.makeDataClass c home else pure v
  if metadata.isEmpty then return v
  else give c v ("__metadata__", .value (.tuple metadata))

end Universe

end TypeReach.Classes
