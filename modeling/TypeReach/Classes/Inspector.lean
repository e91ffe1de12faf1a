import TypeReach.Classes.Signature
import TypeReach.Provider

/-!
# Inspection of classes

An inspector looks into the declared classes of a universe, except those whose module is standard or
ignored: what is not looked into declares nothing. Signatures are read when they are asked for. An
answer depends on the universe alone; what formulas stood for on the way to it is remembered, so
that it can be settled in the universe before that changes.
-/

namespace TypeReach.Classes

/-- A look-up that remembers what formulas stood for. -/
abbrev ClassLookup := Lookup Settled

/-- An annotation met in a universe. -/
abbrev ClassAnnotationUse := AnnotationUse Descriptor Object

/-- A universe, and the modules in it that are not looked into. What has no name among these cannot
be told from a module. -/
structure Inspector where
  world : Universe
  ignored : List (Option String) := []

/-- The answer of an evaluation that begins with nothing in mind, as a look-up. -/
def answer {β : Type} (r : Evaluation β) : ClassLookup β := fun memory =>
  match r [] with
  | .ok b kept => .ok b (kept ++ memory)
  | .error fault kept => .error fault (kept ++ memory)

/-- Whether a name is meant for use from outside. -/
def isPublic (name : String) : Bool :=
  !name.startsWith "_"

namespace Inspector

variable (i : Inspector)

/-- The inspector of a universe in which what is remembered is settled. -/
def settle (memory : Settled) : Inspector :=
  { i with world := { i.world with settled := memory } }

/-- Annotations with the classes of the objects in them. -/
def annotationUses (objects : List Object) : List ClassAnnotationUse :=
  objects.map fun o => { descriptor := .cls (i.world.classOf o), value := o }

/-- Whether a module is one of some others or lies in one. -/
def isAmong (module : String) : List (Option String) → Except Fault Bool
  | [] => .ok false
  | none :: _ => .error (typeFault "can only concatenate list (not \"str\") to list")
  | some other :: rest =>
    if module == other || (other ++ ".").isPrefixOf module then .ok true else isAmong module rest

/-- The name of the module by which a class is looked into or not. -/
def judgedModule (c : ClassId) : Except Fault String :=
  match i.world.saidModule c with
  | .str module => .ok module
  | o => do
    if ← i.world.isTrue o then (i.world.read o "split").map fun _ => "" else return ""

/-- Whether a class is looked into. -/
def isInspectable : Descriptor → Except Fault Bool
  | .plain _ => .ok false
  | .cls c => do
    let module ← i.judgedModule c
    if Standard.isStandard module then return false
    else return !(← isAmong module i.ignored)

/-- A class that is looked into, with its declaration. -/
def inspected? (d : Descriptor) : Except Fault (Option (ClassId × ClassInfo)) := do
  match d, ← i.isInspectable d with
  | .cls c, true => return (i.world.info? c).map fun info => (c, info)
  | _, _ => return none

/-- The name of a type for messages. -/
def typeName : Descriptor → String
  | .cls c => i.world.nameOf c
  | .plain value => value.shown

/-- How a descriptor prints. -/
def shown : Descriptor → String
  | .cls c => i.world.shownClass c
  | .plain value => value.shown

/-! ### Signatures -/

/-- What a name stands for that nothing but the built-in names has, in a module that may have an
object in their place. -/
def builtinMeaning (replaced : Option Object) (name : String) : Except Fault Object :=
  match replaced with
  | none =>
    if name == "__builtins__" then .ok (.ofBuiltin "dict")
    else match i.world.builtinName? name with
      | some o => .ok o
      | none => .error (undefined name)
  | some o =>
    match i.world.item o (.str name) with
    | .error (.other .key _) | .error (.other (.named "KeyError") _) => .error (undefined name)
    | r => r

/-- The names that formulas are read with in a module, where the given ones come first. -/
def scopeOver (isLasting : Bool) (names : String → Option Object) (module : Option String) :
    HintScope where
  isLasting
  names name :=
    let inModule := fun (name : String) => module.bind fun m => i.world.moduleAttribute? m name
    match names name <|> inModule name with
    | some o => .ok o
    | none => i.builtinMeaning (inModule "__builtins__") name

/-- What the hints of a function are read with. -/
def functionScope (f : Function) : HintScope :=
  i.scopeOver true (fun _ => none) (some f.home)

/-- The hint for a name among evaluated hints. -/
def hintFor? (hints : List (String × Object)) (name : String) : Option Object :=
  (hints.find? fun h => h.1 == name).map Prod.snd

/-- The hints of a function with their formulas replaced. -/
def evaluatedHints (f : Function) : Evaluation (List (String × Object)) :=
  i.world.evaluateAll (i.functionScope f) f.hints

/-- The references and annotations of the parameters of a function. -/
def parameters (module : Option String) (f : Function) (hints : List (String × Object)) :
    Except Fault (List (TypeRef Descriptor × List Object)) :=
  f.takes.mapM fun p => i.world.splitSlot module (hintFor? hints p.name)

/-- The method that a function with evaluated hints is. The parameters are read first, the result
next and what it raises last. -/
def readMethod (module : Option String) (name : String) (f : Function)
    (hints : List (String × Object)) : Except Fault (Method Descriptor Object) := do
  let parameters ← i.parameters module f hints
  let (returns, _) ← i.world.splitSlot module (hintFor? hints "return")
  let raises ← i.world.raisedReferences module f.raises
  return {
    name, returns, raises, parameters := parameters.map Prod.fst
    parameterAnnotations := parameters.map fun p => i.annotationUses p.2 }

/-- A method under a name of a class from the given module. Its hints are evaluated before any of
them is read. -/
def method (module : Option String) (name : String) (f : Function) :
    Evaluation (Method Descriptor Object) := do
  .ofExcept (i.readMethod module name f (← i.evaluatedHints f))

/-- The constructor of the class `c` that a function with evaluated hints is. A hint for its result
is not read. -/
def readConstructor (c : ClassId) (f : Function) (hints : List (String × Object)) :
    Except Fault (Constructor Descriptor Object) := do
  let module := i.world.moduleOf c
  let parameters ← i.parameters module f hints
  let raises ← i.world.raisedReferences module f.raises
  return {
    name := i.world.qualnameOf c, raises, parameters := parameters.map Prod.fst
    parameterAnnotations := parameters.map fun p => i.annotationUses p.2 }

/-- The constructor of a class. -/
def constructor (c : ClassId) (f : Function) : Evaluation (Constructor Descriptor Object) := do
  .ofExcept (i.readConstructor c f (← i.evaluatedHints f))

/-- The functions of a class but its constructor, by name. Those under names that every class has
come first. -/
def methodFunctions (c : ClassId) (info : ClassInfo) : List (String × Function) :=
  let found := info.attributes.entries.filterMap fun e =>
    if e.1 == "__init__" then none else e.2.function?.map fun f => (e.1, f)
  let isPlain := fun (e : String × Function) => ((Universe.plainNames c info).lookup e.1).isSome
  found.filter isPlain ++ found.filter fun e => !isPlain e

/-- The methods that a class declares. -/
def methods (d : Descriptor) : Evaluation (List (Method Descriptor Object)) := do
  match ← .ofExcept (i.inspected? d) with
  | none => return []
  | some (c, info) => (methodFunctions c info).mapM fun m => i.method (i.world.moduleOf c) m.1 m.2

/-- Whether a class holds fields that make up its records, or something in their place. -/
def holdsRecordFields (info : ClassInfo) : Bool :=
  info.isDataClass || info.attributes.contains "__dataclass_fields__"

/-- The function that makes records of a class, unless they are made of its fields. -/
def constructorFunction? (info : ClassInfo) : Option Function :=
  if holdsRecordFields info then none
  else (info.attributes.get? "__init__").bind Attribute.function?

/-- The constructors that a class declares, one at most. -/
def constructors (d : Descriptor) : Evaluation (List (Constructor Descriptor Object)) := do
  match ← .ofExcept (i.inspected? d) with
  | none => return []
  | some (c, info) => (constructorFunction? info).toList.mapM (i.constructor c)

/-- What a class itself holds under a name. -/
def namespaceObject? (c : ClassId) (name : String) : Option Object :=
  if name == "__dict__" then some (.feature (.builtin "getset_descriptor") (some c) name)
  else match i.world.ownContent? c name with
    | some (.attribute a) => some (a.held c name)
    | _ => none

/-- What the fields of a class are read with: its own names, those of its module, and the built-in
ones. -/
def fieldScope (c : ClassId) : HintScope :=
  i.scopeOver false (i.namespaceObject? c) (i.world.moduleOf c)

/-- The field that an evaluated hint is. -/
def readField (module : Option String) (hint : String × Object) :
    Except Fault (Field Descriptor Object) := do
  let (type, annotations) ← i.world.split module hint.2
  return { name := hint.1, type, annotations := i.annotationUses annotations }

/-- The hints of the fields that a class itself declares, unless it holds something else in their
place, which has to be nothing or without entries. -/
def ownHints (c : ClassId) (info : ClassInfo) : Except Fault (List (String × Object)) :=
  let given := (info.attributes.get? "__annotations__").map (Attribute.held c "__annotations__")
  match given.map i.world.plainOf with
  | none => .ok info.fields.entries
  | some .null | some (.mapping _) => .ok []
  | some _ => .error (.other .value
      (i.world.shownClass c ++ ".__annotations__ is neither a dict nor None"))

/-- The fields that a class itself declares. All their hints are evaluated before any is read. -/
def fields (d : Descriptor) : Evaluation (List (Field Descriptor Object)) := do
  match ← .ofExcept (i.inspected? d) with
  | none => return []
  | some (c, info) =>
    let hints ← i.world.evaluateAll (i.fieldScope c) (← .ofExcept (i.ownHints c info))
    .ofExcept (hints.mapM (i.readField (i.world.moduleOf c)))

/-- The bases of a class as it holds them or, failing that, as they are. -/
def heldBases (c : ClassId) : Except Fault (List Object) :=
  match i.namespaceObject? c "__orig_bases__" with
  | some o => do
    if ← i.world.isTrue o then i.world.objectsIn o
    else return (i.world.parents c).map ClassId.object
  | none => .ok ((i.world.parents c).map ClassId.object)

/-- The references of the bases of a class that is looked into. -/
def bases (d : Descriptor) : Except Fault (List (TypeRef Descriptor)) := do
  match ← i.inspected? d with
  | none => return []
  | some (c, _) => i.world.baseReferences (i.world.moduleOf c) (← i.heldBases c)

/-- The first base of a class, or an empty slot. -/
def supertype (d : Descriptor) : Except Fault (TypeRef Descriptor) := do
  return (← i.bases d).headD .absent

/-- The bases of a class after the first. -/
def interfaces (d : Descriptor) : Except Fault (List (TypeRef Descriptor)) := do
  return (← i.bases d).drop 1

/-! ### Annotations -/

/-- The annotations in what is held for them, if anything is. -/
def usesIn (held : Option Object) : Except Fault (List ClassAnnotationUse) :=
  match held with
  | none => .ok []
  | some o => i.annotationUses <$> i.world.objectsIn o

/-- The annotations of a class. -/
def annotations (d : Descriptor) : Except Fault (List ClassAnnotationUse) := do
  match ← i.inspected? d with
  | none => return []
  | some (c, _) => i.usesIn (i.namespaceObject? c "__metadata__")

/-- A reading of what may be missing. -/
def present? (r : Except Fault Object) : Except Fault (Option Object) :=
  match r with
  | .ok o => .ok (some o)
  | .error (.other .attribute _) => .ok none
  | .error fault => .error fault

/-- The annotations of the module of a class that is looked into, if that module is there. -/
def packageAnnotations (d : Descriptor) : Except Fault (Option (List ClassAnnotationUse)) := do
  let module := (← i.inspected? d).bind fun e => i.world.moduleOf e.1
  match module.filter i.world.modules.contains with
  | none => return none
  | some m => return some (← i.usesIn (← present? (i.world.readModule m "__metadata__")))

/-! ### Attributes of annotations -/

/-- Whether what a class has under a name is computed for its records, whatever they hold. -/
def isComputed : Content → Bool
  | .attribute (.property _) => true
  | .attribute (.value (.record c fields)) =>
    (i.world.content? c "__get__").isSome && i.world.isWritable (.record c fields)
  | .attribute _ => false
  | .held h => h.isComputed

/-- Whether an object is there to be called. A record is asked for its class, and the class for what
makes its records stand for functions. -/
def isRoutine (o : Object) : Except Fault Bool :=
  match o with
  | .record c _ => do
    if let some fault := i.world.classFault? o then throw fault
    if (← present? (i.world.readClass c "__get__")).isNone then return false
    return (← present? (i.world.readClass c "__set__")).isNone
  | o => .ok o.isRoutine

/-- Whether what a class has under a name is there to be called. -/
def contentIsRoutine : Content → Except Fault Bool
  | .attribute (.function _) | .attribute (.static _) | .attribute (.classMethod _) => .ok true
  | .attribute (.property _) => .ok false
  | .attribute (.value o) => i.isRoutine o
  | .held .computed | .held .stored | .held .property | .held .nothing => .ok false
  | .held _ => .ok true

/-- Whether what a record has under a name is there to be called; what is computed is not. -/
def recordHasRoutine (c : ClassId) (held : List (String × Object)) (name : String) :
    Except Fault Bool :=
  match i.world.content? c name, stored? held name with
  | some content, some o =>
    if i.isComputed content then i.contentIsRoutine content else i.isRoutine o
  | some content, none => i.contentIsRoutine content
  | none, some o => i.isRoutine o
  | none, none => .ok false

/-- The names of the public properties of a class and its ancestors, sorted. What an earlier class
in the order has under a name of a property hides it. Each record that stands in a base or is found
under a name is asked for its class. -/
def propertyNames (c : ClassId) : Except Fault (List String) := do
  let near := (i.world.parents c).filterMap i.world.info?
  for (_, a) in near.flatMap fun info => info.attributes.entries do
    if let .value o := a then
      if let some fault := i.world.classFault? o then throw fault
  (i.world.attributeNames c).filterM fun name =>
    match i.world.content? c name with
    | some (.attribute (.property _)) => .ok (isPublic name)
    | some (.attribute (.value o)) =>
      match i.world.isBelowBuiltin "property" o, i.world.classFault? o with
      | true, _ => .ok (isPublic name)
      | false, some fault => .error fault
      | false, none => .ok false
    | _ => .ok false

/-- The names of the fields of a record whose class has fields for that. -/
def fieldNames (o : Object) (c : ClassId) : Except Fault (List String) := do
  match ← present? (i.world.read o "__dataclass_fields__") with
  | none => throw (typeFault "must be called with a dataclass type or instance")
  | some (.thing _) => return (i.world.recordFields? c).getD []
  | some fields =>
    match i.world.plainOf fields with
    | .mapping _ => return []
    | _ =>
      let values ← i.world.objectsIn (← i.world.called (← i.world.read fields "values") ⟨[], []⟩)
      values.forM fun v => discard (i.world.read v "_field_type")
      return []

/-- The public names among the objects that a record says it holds something under. -/
def storedNames (o : Object) : Except Fault (List String) := do
  let stored ← match ← present? (i.world.read o "__dict__") with
    | none => pure []
    | some o => i.world.objectsIn o
  let names ← stored.mapM fun
    | .str name => return name
    | other => (i.world.read other "startswith").map fun _ => "_"
  return names.filter isPublic

/-- Whether a record says that it is a class. -/
def poses (o : Object) : Except Fault Bool := do
  match ← present? (i.world.read o "__class__") with
  | some (.cls c) => return (i.world.order c).contains (.builtin "type")
  | _ => return false

/-- The names of the attributes of a record: its fields or, if its class has none, what it holds
under public names; and then the properties of its class. -/
def recordAccessors (c : ClassId) (held : List (String × Object)) : Except Fault (List String) := do
  let o := Object.record c held
  let isPosing ← i.poses o
  let fields ← present? (i.world.readClass c "__dataclass_fields__")
  let candidates ← if fields.isSome && !isPosing then i.fieldNames o c else i.storedNames o
  let own ← candidates.filterM fun name => do return !(← i.recordHasRoutine c held name)
  return own ++ (← i.propertyNames c).filter fun name => !own.contains name

/-- What a class itself was given, or holds if it is a standard one, by name. -/
def contents : ClassId → List (String × Content)
  | .standard module name => (Standard.contents module name).map fun e => (e.1, .held e.2)
  | c => ((i.world.info? c).map fun info =>
      info.attributes.entries.map fun e => (e.1, Content.attribute e.2)).getD []

/-- The names of the attributes of an object that is an annotation. A class has those that stand in
it itself and are not there to be called, after it is asked for the fields of its records; a class
applied by its own brackets has all of them. -/
def accessors : Object → Except Fault (List String)
  | .record c held => i.recordAccessors c held
  | .cls c => do
    discard (present? (i.world.readClass c "__dataclass_fields__"))
    let shown ← ((i.contents c).filter fun e => isPublic e.1).filterM fun e => do
      return !(← i.contentIsRoutine e.2)
    return shown.map Prod.fst
  | .applied .plain origin _ => .ok (((i.contents origin).map Prod.fst).filter isPublic)
  | _ => .ok []

/-- A fault in reading an attribute of an annotation: one of permission means that the attribute is
restricted, and an undefined name is a type that is not there. -/
def readingFault : Fault → Fault
  | .other .permission message => .restricted message
  | fault => Universe.signatureFault fault

/-- The value of an attribute of an annotation, with the lazy names in it resolved in the module of
the annotation's class. -/
def invoke (o : Object) (accessor : String) : Except Fault Object := do
  let value ← (i.world.read o accessor).mapError readingFault
  i.world.force (i.world.moduleOf (i.world.classOf o)) value

/-- The inspector as a provider. -/
def provider : Provider Settled Descriptor Object Object where
  typeName := i.typeName
  shown := i.shown
  methods d := answer (i.methods d)
  constructors d := answer (i.constructors d)
  fields d := answer (i.fields d)
  supertype d := answer (.ofExcept (i.supertype d))
  interfaces d := answer (.ofExcept (i.interfaces d))
  annotations d := answer (.ofExcept (i.annotations d))
  packageAnnotations d := answer (.ofExcept (i.packageAnnotations d))
  accessors a := answer (.ofExcept (i.accessors a.value))
  invoke a accessor := answer (.ofExcept (i.invoke a.value accessor))

/-- A bound on the types that can be open at once: only declared classes have members, and the
innermost open type may be another. -/
def depth : Nat := i.world.classes.length + 2

end Inspector

end TypeReach.Classes
