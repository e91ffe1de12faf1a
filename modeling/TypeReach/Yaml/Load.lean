import TypeReach.Data.Value
import TypeReach.Text.Base64
import TypeReach.Yaml.Merge

/-!
# Values of YAML texts

The value of a text is that of its root node. Collections are filled one after the other in the
order in which they are met, the root first, so that of several faults the first in this order
counts. A node has one value wherever it stands, and a collection may hold itself.
-/

namespace TypeReach.Yaml

/-- The value that a scalar has as one of a kind; `mark` tells it from equal texts elsewhere. -/
def scalarValue (kind : Kind) (mark : Nat) (text : String) : Except YamlError Value :=
  match kind with
  | .null => .ok .null
  | .bool =>
    match truthWords.lookup (Text.lower text) with
    | some b => .ok (.bool b)
    | none => .error (.unreadable .key (Text.lower text))
  | .int => do return .int (← readInteger text)
  | .float => do return .double (← readFloating mark text)
  | .binary =>
    match if text.toList.all (·.toNat < 128) then Text.decodeBase64 text.toList else none with
    | some bytes => .ok (.bytes bytes)
    | none => .error .malformed
  | .timestamp => do
    match ← readTimestamp text with
    | .inl day => return .day day
    | .inr moment => return .moment moment
  | .str => .ok (.str text)
  | _ => .error .malformed

/-- Whether values of a kind are made of others, so that they cannot be keys. -/
def Kind.isCollection (kind : Kind) : Bool :=
  [Kind.omap, .pairs, .set, .seq, .map].contains kind

/-- What has been made of a node: the items of collections are nodes, and keys are values. -/
inductive Made where
  | scalar (v : Value)
  | list (items : List NodeId)
  | pairs (items : List (NodeId × NodeId))
  | map (entries : List (Value × NodeId))
  | set (items : List Value)
  deriving Inhabited

/-- How far the making of values has come: the nodes, what has been made of them, and the
collections that are still to be filled, the latest first. -/
structure MakeState where
  nodes : Array Node
  made : Array (Option Made)
  pending : List NodeId := []

/-- A step of making values. -/
abbrev Making := StateT MakeState (Except YamlError)

namespace Making

/-- The node at a place. -/
def nodeAt (id : NodeId) : Making Node := do
  return ((← get).nodes[id]?).getD default

/-- Takes in what has been made of a node. -/
def put (id : NodeId) (m : Made) : Making Unit :=
  modify fun s => { s with made := s.made.setIfInBounds id (some m) }

/-- The text of a scalar; a mapping stands for the scalar under its default key. -/
def scalarText : (size : Nat) → NodeId → Making String
  | 0, _ => throw .malformed
  | size + 1, id => do
    match (← nodeAt id).content with
    | .scalar text => return text
    | .sequence _ => throw .malformed
    | .mapping entries =>
      let kinds ← entries.mapM fun e => do return ((← nodeAt e.1).kind, e.2)
      match kinds.find? (·.1 == .value) with
      | some (_, value) => scalarText size value
      | none => throw .malformed

/-- Whether a node is a scalar as it stands. -/
def isScalar (n : Node) : Bool :=
  match n.content with
  | .scalar _ => true
  | _ => false

/-- Makes the value of a node, unless that is done. A collection is to be filled later. -/
def make (id : NodeId) : Making Unit := do
  let s ← get
  if ((s.made[id]?).bind fun m => m).isSome then return ()
  let n ← nodeAt id
  if n.kind.isCollection then
    put id (.list [])
    modify fun s => { s with pending := id :: s.pending }
  else if n.kind = .merge || n.kind = .value || n.kind = .unknown then throw .malformed
  else
    let text ← scalarText (s.nodes.size + 1) id
    if n.kind = .timestamp && !isScalar n then
      throw (.unreadable .type "expected string or bytes-like object, got 'list'")
    put id (.scalar (← scalarValue n.kind id text))

/-- The value of a node as a key; a collection is none. -/
def keyOf (id : NodeId) : Making Value := do
  make id
  if (← nodeAt id).kind.isCollection then throw .malformed
  match ((← get).made[id]?).bind fun m => m with
  | some (.scalar v) => return v
  | _ => throw .malformed

/-- Entries with one more: a key that is there keeps its place and its first spelling. -/
def putEntry (entries : List (Value × NodeId)) (key : Value) (value : NodeId) :
    List (Value × NodeId) :=
  if entries.any fun e => e.1.sameKey key then
    entries.map fun e => if e.1.sameKey key then (e.1, value) else e
  else entries ++ [(key, value)]

/-- The entries of a mapping, which is completed first; `merges` bounds the mappings merged. -/
def entriesOf (merges : Nat) (id : NodeId) : Making (List (Value × NodeId)) := do
  let ((), nodes) ← (Merging.complete merges id []).run (← get).nodes
  modify fun s => { s with nodes }
  match (← nodeAt id).content with
  | .mapping entries =>
    entries.foldlM (fun done e => do
      let key ← keyOf e.1
      make e.2
      return putEntry done key e.2) []
  | _ => throw .malformed

/-- The key and value of a mapping with one entry. -/
def pairOf (id : NodeId) : Making (NodeId × NodeId) := do
  match (← nodeAt id).content with
  | .mapping [(key, value)] =>
    make key
    make value
    return (key, value)
  | _ => throw .malformed

/-- Fills a collection. -/
def fill (merges : Nat) (id : NodeId) : Making Unit := do
  let n ← nodeAt id
  match n.kind, n.content with
  | .seq, .sequence items =>
    items.forM make
    put id (.list items)
  | .omap, .sequence items | .pairs, .sequence items => do put id (.pairs (← items.mapM pairOf))
  | .map, .mapping _ => do put id (.map (← entriesOf merges id))
  | .set, .mapping _ => do put id (.set ((← entriesOf merges id).map Prod.fst))
  | _, _ => throw .malformed

/-- Fills collections, in rounds: those met in one round are filled in the next. -/
def fillAll (merges : Nat) : (rounds : Nat) → Making Unit
  | 0 => return ()
  | rounds + 1 => do
    let ids := (← get).pending.reverse
    if ids.isEmpty then return ()
    modify fun s => { s with pending := [] }
    ids.forM (fill merges)
    fillAll merges rounds

end Making

/-- What has been made of the nodes of a document, given its root. -/
def makeAll (nodes : Array Node) (root : NodeId) : Except YamlError (Array (Option Made)) := do
  let start : MakeState := { nodes, made := Array.replicate nodes.size none }
  let merges := Merging.mergeCount nodes + 1
  let all : Making Unit := do
    Making.make root
    Making.fillAll merges (nodes.size + 1)
  return (← all.run start).2.made

/-! ### Values put together -/

/-- A step of putting values together, which remembers those of nodes not holding themselves. -/
abbrev Joining := StateM (Array (Option Value))

/-- What is made of parts: the value, and the names of the collections around it that it holds. A
collection that holds itself, or one around it, gets its name. -/
def joined (name : Nat) (body : Value) (held : List Nat) : Value × List Nat :=
  if held.isEmpty then (body, []) else (.loop name body, held.filter (· != name))

/-- The value of a node inside the collections `around`, at most `n` deep, and the names of those
that it holds. -/
def valueWithin (made : Array (Option Made)) :
    (n : Nat) → (around : List Nat) → NodeId → Joining (Value × List Nat)
  | 0, _, _ => return (.null, [])
  | n + 1, around, id => do
    if around.contains id then return (.again id, [id])
    if let some v := ((← get)[id]?).bind fun v => v then return (v, [])
    let inner := valueWithin made n
    let (v, held) ← match ((made[id]?).bind fun m => m) with
      | none => pure (.null, [])
      | some (.scalar v) => pure (v, [])
      | some (.set items) => pure (.set items, [])
      | some (.list items) => do
        let parts ← items.mapM (inner (id :: around))
        pure (joined id (.list (parts.map Prod.fst)) (parts.flatMap Prod.snd))
      | some (.map entries) => do
        let parts ← entries.mapM fun e => inner (id :: around) e.2
        let entries := entries.zipWith (fun e part => (e.1, part.1)) parts
        pure (joined id (.map entries) (parts.flatMap Prod.snd))
      | some (.pairs items) => do
        let parts ← items.zipIdx.mapM fun (item, index) => do
          -- A pair is an object too, and its name differs from those of all nodes.
          let name := made.size * (index + 1) + id
          let key ← inner (name :: id :: around) item.1
          let value ← inner (name :: id :: around) item.2
          pure (joined name (.tuple [key.1, value.1]) (key.2 ++ value.2))
        pure (joined id (.list (parts.map Prod.fst)) (parts.flatMap Prod.snd))
    if let .loop .. := v then return (v, held)
    modify fun memory => memory.setIfInBounds id (some v)
    return (v, held)

/-- The value of a YAML text; a text without a document has the value null. -/
def load (text : String) : Except YamlError Value := do
  let document ← Document.ofText text
  match document.root with
  | none => return .null
  | some root =>
    let made ← makeAll document.nodes root
    let memory := Array.replicate made.size none
    return ((valueWithin made (2 * made.size + 2) [] root).run memory).1.1

end TypeReach.Yaml
