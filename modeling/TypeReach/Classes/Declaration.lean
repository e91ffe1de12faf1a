import TypeReach.Classes.Calling

/-!
# Declaration of classes

The bases of a class are written as objects, each of which stands for some classes or for none.
Together they say of what kind the new class is. A class is declared empty, unless its bases do not
go together: objects of two of them may be laid out in ways that exclude each other, or there may be
no order in which the ancestors can stand.
-/

namespace TypeReach.Classes

/-- Whether a base is a hint. -/
def isHintBase : Object → Bool
  | .applied .hint .. | .applied .function .. | .parameters _ | .annotated .. | .union _
  | .literal _ | .wrapped .. => true
  | _ => false

/-- The type variables that stand for the arguments of a class with the given bases: those that a
base declares, or else those in its bases. -/
def parametersOf (bases : List Object) : List Nat :=
  let declared := bases.findSome? fun
    | .parameters arguments => some (Object.freeVariablesOfList arguments)
    | _ => none
  (declared.getD (Object.freeVariablesOfList bases)).eraseDups

namespace Universe

variable (u : Universe)

/-! ### Bases -/

/-- Whether one of some bases makes a class take parameters. What is asked has to be a class, unless
it is a hint. -/
def takesParameters : List Object → Except Fault Bool
  | [] => .ok false
  | base :: rest =>
    match base with
    | .cls c | .applied .plain c _ =>
      if (u.order c).contains .generic then .ok true else takesParameters rest
    | .anything => takesParameters rest
    | base =>
      if isHintBase base then .ok true
      else .error (typeFault "issubclass() arg 1 must be a class")

/-- What one of the bases in `written` stands for. The base that declares parameters counts only if
no hint follows; the hint of a standard class brings it along if nothing that follows does. -/
def resolvedBase (written : List Object) (base : Object) : Except Fault (List Object) :=
  let rest := (written.dropWhile fun b => !b.same base).drop 1
  match base with
  | .bare _ | .union _ | .literal _ | .wrapped .. | .annotated (.bare _) _ =>
    .error (typeFault ("Cannot subclass " ++ u.shown base))
  | .annotated hint _ => .ok [hint]
  | .applied .plain origin _ => .ok [.cls origin]
  | .applied .hint (.declared index) _ => .ok [.cls (.declared index)]
  | .applied _ origin _ => do
    let own := if written.any fun b => b.same (.cls origin) then [] else [Object.cls origin]
    return own ++ if ← u.takesParameters rest then [] else [.cls .generic]
  | .parameters _ =>
    .ok (if rest.any fun b => isHintBase b && !b.same base then [] else [.cls .generic])
  | o => .ok [o]

/-- The kind of a class with the given bases: of the kinds that they are of, the one that is below
all others. -/
def kindOf (bases : List Object) : Except Fault ClassId :=
  let lower := fun (best c : ClassId) =>
    if (u.order best).contains c then .ok best
    else if (u.order c).contains best then .ok c
    else .error (typeFault ("metaclass conflict: the metaclass of a derived class must be a "
      ++ "(non-strict) subclass of the metaclasses of all its bases"))
  match bases.map u.classOf with
  | [] => .ok (.builtin "type")
  | c :: rest => rest.foldlM lower c

/-- The fault of making an object of a kind that is no kind of classes out of a name and bases. -/
def madeFault (kind : ClassId) (bases : List Object) : Fault :=
  typeFault <| match kind with
  | .standard "builtins" "NoneType" => "NoneType takes no arguments"
  | .standard "builtins" "ellipsis" => "EllipsisType takes no arguments"
  | .standard "builtins" "str" => "str() argument 'encoding' must be str, not tuple"
  | .standard "types" "UnionType" => "cannot create 'types.UnionType' instances"
  | .standard "types" "GenericAlias" => "GenericAlias expected 2 arguments, got 3"
  | .standard "typing" "TypeVar" =>
    "TypeVar(name, constraint, ...): constraints must be types. Got "
      ++ String.ofList ((u.shown (.tuple bases)).toList.take 100) ++ "."
  | _ => "_GenericAlias.__init__() takes 3 positional arguments but 4 were given"

/-- The class that an object is. -/
def classOfBase? : Object → Option ClassId
  | .cls c => some c
  | .anything => some (.standard "typing" "Any")
  | _ => none

/-- The classes that the bases of a class are. -/
def parentsOf (written : List Object) : Except Fault (List ClassId) := do
  let bases := (← written.mapM (u.resolvedBase written)).flatten
  let kind ← u.kindOf bases
  if !(u.order kind).contains (.builtin "type") then throw (u.madeFault kind bases)
  match bases.filterMap classOfBase? with
  | [] => return [.builtin "object"]
  | parents => return parents

/-! ### Layouts and orders -/

/-- Fails if a class cannot be a base, or if the objects of two bases are laid out in ways of which
neither goes further than the other. -/
def requireLayout (parents : List ClassId) : Except Fault Unit :=
  discard (parents.foldlM further (.builtin "object"))
where
  /-- The layout that goes further, of the one so far and that of the next base. -/
  further (layout c : ClassId) : Except Fault ClassId :=
    let next := u.layout c
    if Standard.isFinal c then
      .error (typeFault ("type " ++ Text.quoted (u.typeName c)
        ++ " is not an acceptable base type"))
    else if (u.order layout).contains next then .ok layout
    else if (u.order next).contains layout then .ok next
    else .error (typeFault "multiple bases have instance lay-out conflict")

/-- The ancestors of a class with the given bases, in order. -/
def ancestorsOf (parents : List ClassId) : Except Fault (List ClassId) := do
  let repeated := parents.find? fun c => parents.count c > 1
  if let some c := repeated then throw (typeFault ("duplicate base class " ++ u.plainName c))
  match orderAbove parents u.order with
  | .ok order => return order
  | .error heads => throw (typeFault ("Cannot create a consistent method resolution\norder (MRO) "
      ++ "for bases " ++ Value.commaSeparated (heads.map u.plainName)))

/-! ### Announcement -/

/-- Fails if a class with the given bases does not declare its parameters once and all of them. -/
def requireListed (bases : List Object) : Except Fault Unit :=
  let lists := bases.filterMap fun
    | .parameters arguments => some (Object.freeVariablesOfList arguments)
    | _ => none
  let shown := fun (indices : List Nat) =>
    Value.commaSeparated (indices.map fun index => u.shown (.typeVar index))
  match lists with
  | [] => .ok ()
  | [listed] =>
    match ((Object.freeVariablesOfList bases).eraseDups).filter fun i => !listed.contains i with
    | [] => .ok ()
    | unlisted => .error (typeFault ("Some type variables (" ++ shown unlisted
        ++ ") are not listed in Generic[" ++ shown listed ++ "]"))
  | _ => .error (typeFault "Cannot inherit from Generic[...] multiple times.")

/-- Calls what the nearest of some ancestors has for the declaration of others. The ancestor that
stands for parameters calls what the next one has, and then looks at the bases. -/
def announce (c : ClassId) (bases : List Object) : List ClassId → Except Fault Unit
  | [] => .ok ()
  | d :: above =>
    match u.ownContent? d "__init_subclass__" with
    | some (.attribute a) => discard (u.ofOwnAttribute u.called c a { arguments := [] })
    | _ => do
      announce c bases above
      if d == .generic then u.requireListed bases

/-- Declares a class under its name in a module. What its ancestors have for the declaration of
others is called, and may fail. -/
def declareClass (home : String) (info : ClassInfo) : Except Fault (Universe × ClassId) := do
  let parents ← u.parentsOf info.bases
  u.requireLayout parents
  let order ← u.ancestorsOf parents
  let (v, c) := u.addClass home
    { info with parents, order, parameters := parametersOf info.bases }
  v.announce c info.bases order
  return (v, c)

end Universe

end TypeReach.Classes
