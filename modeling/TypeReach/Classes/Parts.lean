import TypeReach.Classes.Documentation
import TypeReach.Classes.Shown

/-!
# What classes and hints say about themselves

What a class holds is found through its ancestors, and the class or an object of it shows it in its
own way. A class says some things about itself, whatever it holds. So does a hint, which passes
other names on to the class that it is made of.
-/

namespace TypeReach.Classes

/-- Whether a name is kept for the language of classes itself. -/
def isReserved (name : String) : Bool :=
  name.startsWith "__" && name.endsWith "__"

/-- The parts of a number or a slice. -/
def valuePart? : Object → String → Option Object
  | .bool b, "real" | .bool b, "numerator" => some (.int (if b then 1 else 0))
  | .bool _, "imag" => some (.int 0)
  | .bool _, "denominator" => some (.int 1)
  | .int n, "real" | .int n, "numerator" => some (.int n)
  | .int _, "imag" => some (.int 0)
  | .int _, "denominator" => some (.int 1)
  | .double x, "real" => some (.double x)
  | .double _, "imag" => some (.double ⟨0⟩)
  | .slice start _ _, "start" => some start
  | .slice _ stop _, "stop" => some stop
  | .slice _ _ step, "step" => some step
  | _, _ => none

/-- What a class shows of something that the standard class `owner` holds under a name. -/
def Held.shown (owner : ClassId) (name : String) (h : Held) : Object :=
  let feature := fun (of : String) => Object.feature (.builtin of) (some owner) name
  match h with
  | method => feature "method_descriptor"
  | operation => feature "wrapper_descriptor"
  | computed => feature "getset_descriptor"
  | stored => feature "member_descriptor"
  | classMethod | static => feature "builtin_function_or_method"
  | nothing => .null
  | function => feature "function"
  | bound => feature "method"
  | property => .ofBuiltin "property"

/-- What an object shows of something that the standard class `owner` holds under a name, unless
that is computed. -/
def Held.boundShown (owner : ClassId) (name : String) (h : Held) : Object :=
  let feature := fun (of : String) => Object.feature (.builtin of) (some owner) name
  match h with
  | method | classMethod | static => feature "builtin_function_or_method"
  | operation => feature "method-wrapper"
  | function | bound => feature "method"
  | _ => .null

/-- Whether something that a standard class holds is computed for each object. -/
def Held.isComputed : Held → Bool
  | computed | stored | property => true
  | _ => false

/-- The class of functions that are declared. -/
def functionClass : ClassId := .builtin "function"

/-- The class of functions that are bound to what they are called for. -/
def methodClass : ClassId := .builtin "method"

namespace Universe

variable (u : Universe)

/-! ### Classes -/

/-- The nearest class above a class, or the class itself, that says how its objects are laid out. -/
def layout (c : ClassId) : ClassId :=
  ((u.order c).find? Standard.hasLayout).getD (.builtin "object")

/-- The first base of a class, or the first that says more about the layout of its objects. -/
def mainBase (bases : List ClassId) : Object :=
  match bases with
  | [] => .null
  | first :: rest =>
    let better := fun (best c : ClassId) =>
      let old := u.layout best
      let new := u.layout c
      if old != new && (u.order new).contains old then c else best
    (rest.foldl better first).object

/-- The bases of a class. -/
def parents : ClassId → List ClassId
  | .standard module name => Standard.bases module name
  | c => ((u.info? c).map ClassInfo.parents).getD []

/-- What a class says that it is. -/
def documentationOf (c : ClassId) : Object :=
  match c, u.ownContent? c "__doc__" with
  | .declared _, some (.attribute (.value o)) => o
  | .standard module name, own =>
    match Standard.documentation? module name, own with
    | some s, _ => .str s
    | none, some (.held h) => h.shown c "__doc__"
    | none, _ => .null
  | _, _ => .null

/-- What a class says about itself, whatever it and its ancestors hold. -/
def ownName? (c : ClassId) (name : String) : Option (Except Fault Object) :=
  let fields := (u.info? c).map fun i => i.fields.entries.map fun e => (Object.str e.1, e.2)
  let given := ((u.info? c).bind fun i => i.attributes.get? name).map (Attribute.held c name)
  match name with
  | "__name__" => some (.ok (.str (u.plainName c)))
  | "__qualname__" => some (.ok (.str (u.qualnameOf c)))
  | "__module__" => some (.ok (u.saidModule c))
  | "__class__" => some (.ok (.cls (u.classOf c.object)))
  | "__bases__" => some (.ok (.tuple ((u.parents c).map ClassId.object)))
  | "__base__" => some (.ok (u.mainBase (u.parents c)))
  | "__mro__" => some (.ok (.tuple ((u.order c).map ClassId.object)))
  | "__dict__" => some (.ok (.ofBuiltin "mappingproxy"))
  | "__doc__" => some (.ok (u.documentationOf c))
  | "__text_signature__" =>
    match c with
    | .standard module name =>
      some (.ok (((Standard.signature? module name).map Object.str).getD .null))
    | .declared _ => some (.ok .null)
  | "__annotations__" =>
    match given, fields with
    | some o, _ => some (.ok o)
    | none, some entries => some (.ok (.mapping entries))
    | none, none => some (.error (Missing.ofClass (u.typeName c) name).toFault)
  | "__abstractmethods__" =>
    some ((given.map Except.ok).getD (.error (Missing.name name).toFault))
  | "__basicsize__" | "__itemsize__" | "__flags__" | "__weakrefoffset__" | "__dictoffset__" =>
    some (.ok (.ofBuiltin "int"))
  | _ => none

/-- An attribute that the class `owner` has under a name, as an object or the class `reader` shows
it, in which case the object is nothing. -/
def shownAttribute (o : Object) (reader owner : ClassId) (name : String) :
    Attribute → Except Fault Object
  | .function _ | .static _ => .ok (.feature functionClass (some owner) name)
  | .classMethod _ => .ok (.feature methodClass (some owner) name)
  | .property _ => .ok (.ofBuiltin "property")
  | .value v => (u.described? v o reader).getD (.ok v)

/-- What the class `owner` has under a name, as the class `reader` shows it. -/
def shownContent (reader owner : ClassId) (name : String) : Content → Except Fault Object
  | .attribute a => u.shownAttribute .null reader owner name a
  | .held h => .ok (h.shown owner name)

/-- Reads an attribute of a class. -/
def readClass (c : ClassId) (name : String) : Except Fault Object :=
  match u.ownName? c name, u.found? c name, Standard.held? "builtins" "type" name with
  | some r, _, _ => r
  | none, some (owner, content), _ => u.shownContent c owner name content
  | none, none, some h => .ok (h.boundShown (.builtin "type") name)
  | none, none, none => .error (Missing.ofClass (u.typeName c) name).toFault

/-! ### Records and values -/

/-- An attribute that the class `owner` has under a name, as an object shows it. -/
def boundAttribute (o : Object) (owner : ClassId) (name : String) : Attribute → Except Fault Object
  | .function _ => .ok (.feature methodClass (some owner) name)
  | .value (.feature (.standard "builtins" "function") owner name) =>
    .ok (.feature methodClass owner name)
  | a => u.shownAttribute o (u.classOf o) owner name a

/-- What the class `owner` has under a name, as an object shows it. -/
def boundContent (o : Object) (owner : ClassId) (name : String) : Content → Except Fault Object
  | .attribute a => u.boundAttribute o owner name a
  | .held h => .ok (h.boundShown owner name)

/-- What a function or another part of a class says about itself. -/
def featurePart? (of : ClassId) (owner : Option ClassId) (name : String) (part : String) :
    Option Object :=
  match part with
  | "__name__" => some (.str name)
  | "__qualname__" => some (.str (u.fullName owner name))
  | "__objclass__" => owner.map ClassId.object
  | "__func__" => some (.feature functionClass owner name)
  | "__code__" => some (.ofBuiltin "code")
  | "__globals__" | "__builtins__" => some (.ofBuiltin "dict")
  | "__dict__" => some (.mapping [])
  | "__annotations__" =>
    let hints := ((u.functionIn? owner name).map Function.hints).getD []
    some (.mapping (hints.map fun h => (.str h.1, h.2)))
  | "__self__" => some (.ofBuiltin (if owner.isNone then "module" else "object"))
  | "__doc__" | "__text_signature__" =>
    if [functionClass, methodClass].contains of then none else some (.ofBuiltin "str")
  | _ => none

/-- What an object has under a name that its standard class computes. -/
def computed (o : Object) (name : String) : Object :=
  let own := match o with
    | .feature of owner n => u.featurePart? of owner n name
    | o => valuePart? (u.plainOf o) name
  match own, name with
  | some part, _ => part
  | none, "__class__" => .cls (u.classOf o)
  | none, "args" => .tuple []
  | none, "__suppress_context__" => .bool false
  | none, _ => .null

/-- The class in which the names of an object are looked up that its own class lacks, and whose name
stands in the message about a missing one: a bound function stands for the function. -/
def fallbackClass (c : ClassId) : ClassId :=
  if c == methodClass then functionClass else c

/-- The name of the module that a function is from. -/
def functionModule? : Object → Option Object
  | .feature of owner name =>
    let module : Option Object := match u.functionIn? owner name with
      | some f => some (.str f.home)
      | none => (owner.bind u.moduleOf).map Object.str
    if of == functionClass || of == methodClass then some (module.getD .null)
    else if of == .builtin "builtin_function_or_method" then
      some (if owner.isNone then .str "builtins" else .null)
    else none
  | _ => none

/-- Reads an attribute of an object that holds nothing but what its class gives it. -/
def readValue (o : Object) (name : String) : Except Fault Object :=
  let fallback := fallbackClass o.classOf
  match u.found? o.classOf name <|> u.found? fallback name, name with
  | some (owner, .held h), _ =>
    .ok (if h.isComputed then u.computed o name else h.boundShown owner name)
  | some (owner, content), _ => u.boundContent o owner name content
  | none, "__doc__" => .ok (u.documentationOf o.classOf)
  | none, _ =>
    match name, u.functionModule? o with
    | "__module__", some module => .ok module
    | _, _ => .error (Missing.ofObject (u.typeName fallback) name).toFault

/-! ### Hints -/

/-- The objects that a hint is made of, as it tells them. -/
def argumentsOf : Object → List Object
  | .literal items | .union items | .either items | .applied _ _ items | .parameters items => items
  | .wrapped _ hint | .annotated hint _ => [hint]
  | _ => []

/-- The form or the class that a hint is made with; for a hint with annotations, the hint. -/
def originOf : Object → Object
  | .literal _ => .bare .literal
  | .union _ => .bare .union
  | .wrapped f _ => .bare f
  | .annotated hint _ => hint
  | .applied _ origin _ => .cls origin
  | .parameters _ => .cls .generic
  | _ => .null

/-- The name that a hint was given, if it was given one. -/
def givenName? : Object → Option String
  | .applied .function .. => some "Callable"
  | .applied .hint (.standard "builtins" "list") _ => some "List"
  | .union [a, b] =>
    if a.same Object.nullClass || b.same Object.nullClass then some "Optional" else none
  | _ => none

/-- Whether hints of a kind can be called for new objects of their class. -/
def isForCalls : Object → Bool
  | .applied .hint (.standard "builtins" "list") _ => false
  | _ => true

/-- The name of the module that a hint says it is from. -/
def hintModule : Object → Option String
  | .annotated hint _ =>
    match hint with
    | .cls c => u.moduleOf c
    | .applied .plain origin _ => u.moduleOf origin
    | _ => some "typing"
  | .applied .hint (.standard "builtins" "list") _ => some "typing"
  | .applied .hint origin _ => u.moduleOf origin
  | _ => some "typing"

/-- The name of what a hint is made with. -/
def originName (o : Object) : String :=
  match givenName? o, o with
  | some name, _ => name
  | none, .literal _ => "Literal"
  | none, .union _ => "Union"
  | none, .wrapped f _ => f.name
  | none, .annotated .. => "Annotated"
  | none, .applied _ origin _ => u.plainName origin
  | none, _ => "Generic"

/-- What a hint itself has under a name, before its class is asked. -/
def ofHint? (o : Object) (name : String) : Option Object :=
  let indices := (Object.freeVariablesOfList (argumentsOf o)).eraseDups
  let parameters := Object.tuple (indices.map .typeVar)
  match name, o with
  | "__class__", _ => some (.cls o.classOf)
  | "__origin__", _ => some (originOf o)
  | "__args__", _ => some (.tuple (argumentsOf o))
  | "__parameters__", _ => some parameters
  | "__metadata__", .annotated _ annotations => some (.tuple annotations)
  | "_name", _ => some (((givenName? o).map Object.str).getD .null)
  | "_inst", _ => some (.bool (isForCalls o))
  | "__doc__", _ => some (u.documentationOf o.classOf)
  | "__slots__", .parameters _ => some (.tuple [])
  | "__slots__", _ | "__weakref__", _ => some .null
  | "__dict__", _ => some (.ofBuiltin "dict")
  | "__module__", _ => some (((u.hintModule o).map Object.str).getD .null)
  | "__name__", _ | "__qualname__", _ => some (.str (u.originName o))
  | _, _ => none

/-- What a class applied by its own brackets itself has under a name. -/
def ofPlain? (o : Object) (name : String) : Option (Except Fault Object) :=
  match name with
  | "__class__" | "__origin__" | "__args__" | "__parameters__" => (u.ofHint? o name).map .ok
  | "__unpacked__" => some (.ok (.bool false))
  | "__typing_unpacked_tuple_args__" => some (.ok .null)
  | "__mro_entries__" | "__reduce__" | "__reduce_ex__" =>
    some (.ok (.feature (.builtin "builtin_function_or_method") (some o.classOf) name))
  | "__copy__" | "__deepcopy__" =>
    some (.error (Missing.ofObject (u.typeName o.classOf) name).toFault)
  | _ => none

/-- What a form has under a name, before its class is asked. -/
def ofForm? (f : Form) : String → Option Object
  | "__class__" => some (.cls (Object.bare f).classOf)
  | "__name__" | "__qualname__" | "_name" => some (.str f.name)
  | "__module__" => some (.str "typing")
  | "__doc__" => some (.str (Standard.formDocumentation f))
  | "__slots__" => some (.tuple [.str "_name", .str "__doc__", .str "_getitem"])
  | "__weakref__" => some .null
  | "_getitem" => some (.feature functionClass none f.name)
  | _ => none

/-- What a type variable has under a name, before its class is asked. -/
def ofVariable? (index : Nat) (name : String) : Option Object := do
  let v ← u.typeVariables[index]?
  match name with
  | "__name__" => some (.str v.name)
  | "__bound__" => some (v.bound.getD .null)
  | "__constraints__" => some (.tuple (if v.bound.isSome then [] else v.choices))
  | "__covariant__" | "__contravariant__" => some (.bool false)
  | "__module__" => some (.str "__main__")
  | "__dict__" => some (.ofBuiltin "dict")
  | "__slots__" => some (.tuple [.str "__weakref__"])
  | "__weakref__" => some .null
  | _ => none

/-- What a formula has under a name, before its class is asked. -/
def ofForward? (number : Option Nat) (text : String) (lenient : Bool) (name : String) :
    Option Object :=
  let value := number.bind fun n => List.lookup n u.settled
  match name with
  | "__forward_arg__" => some (.str text)
  | "__forward_evaluated__" => some (.bool value.isSome)
  | "__forward_value__" => some (value.getD .null)
  | "__forward_code__" => some (.ofBuiltin "code")
  | "__forward_is_argument__" => some (.bool !lenient)
  | "__forward_is_class__" => some (.bool lenient)
  | "__forward_module__" | "__weakref__" => some .null
  | "__module__" => some (.str "typing")
  | _ => none

/-- Whether an object is a hint that passes attributes on to what it is made of. -/
def passesOn : Object → Bool
  | .literal _ | .union _ | .wrapped .. | .annotated .. | .applied .hint .. | .applied .function ..
  | .parameters _ => true
  | _ => false

/-- What the class of a hint has under a name. -/
def ofHintClass? (o : Object) (name : String) : Option (Except Fault Object) :=
  (u.found? o.classOf name).map fun f => u.boundContent o f.1 name f.2

end Universe

end TypeReach.Classes
