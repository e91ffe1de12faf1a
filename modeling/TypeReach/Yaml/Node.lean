import TypeReach.Yaml.Kind
import TypeReach.Yaml.TokenQueue

/-!
# The nodes of a YAML document

The tokens of a text form the graph of a single document. An alias is the very node of its anchor,
so that a collection may hold itself.
-/

namespace TypeReach.Yaml

/-- The place of a node in its document. -/
abbrev NodeId := Nat

/-- What is written in a node. -/
inductive Content where
  | scalar (text : String)
  | sequence (items : List NodeId)
  | mapping (entries : List (NodeId × NodeId))
  deriving DecidableEq, Repr, Inhabited

/-- A node: its kind and what is written in it. -/
structure Node where
  kind : Kind
  content : Content
  deriving DecidableEq, Repr, Inhabited

/-- What is known while a document is read: the tokens to come, the expansions of tag handles, the
nodes read or begun, and those of anchors. -/
structure NodeState where
  tokens : TokenQueue
  handles : List (String × String) := []
  nodes : Array Node := #[]
  anchors : List (String × NodeId) := []

/-- A step of reading a document. -/
abbrev NodeReader := StateT NodeState (Except YamlError)

namespace NodeReader

/-- The next token. -/
def peek : NodeReader Token := do
  let tokens ← (← get).tokens.settled
  modify fun s => { s with tokens }
  return tokens.head

/-- Passes over the next token, which has been looked at. -/
def drop : NodeReader Unit := modify fun s => { s with tokens := s.tokens.tail }

/-- The next token has no place here. -/
def unexpected {β : Type} : NodeReader β := throw .malformed

/-- Passes over the next token if it is the given one, and tells whether it was. -/
def accept (t : Token) : NodeReader Bool := do
  if (← peek) = t then
    drop
    return true
  else return false

/-- The tag that a handle and a suffix stand for. -/
def tagOf (handle : Option String) (suffix : String) : NodeReader String := do
  match handle with
  | none => return suffix
  | some handle =>
    match (← get).handles.lookup handle with
    | some expansion => return expansion ++ suffix
    | none => unexpected

/-- The anchor and the tag in front of a node, in either order. A tag is expanded once both are
read. -/
def properties : NodeReader (Option String × Option String) := do
  match ← peek with
  | .anchor name =>
    drop
    match ← peek with
    | .tag handle suffix => do
      drop
      return (some name, some (← tagOf handle suffix))
    | _ => return (some name, none)
  | .tag handle suffix =>
    drop
    match ← peek with
    | .anchor name => do
      drop
      return (some name, some (← tagOf handle suffix))
    | _ => return (none, some (← tagOf handle suffix))
  | _ => return (none, none)

/-- The kind of a node, given the tag in front of it and its kind without one. The tag `!` leaves
the form of a scalar to decide: `byForm` is the kind that this gives. -/
def kindOf (tag : Option String) (untagged byForm : Kind) : Kind :=
  match tag with
  | none => untagged
  | some tag => if tag == "!" then byForm else .ofTag tag

/-- Refuses an anchor that is there already. -/
def checkAnchor (anchor : Option String) : NodeReader Unit := do
  if let some name := anchor then
    if ((← get).anchors.lookup name).isSome then unexpected

/-- Adds a node, known under its anchor from now on. -/
def add (anchor : Option String) (node : Node) : NodeReader NodeId := fun s =>
  let id := s.nodes.size
  let anchors := match anchor with
    | some name => (name, id) :: s.anchors
    | none => s.anchors
  .ok (id, { s with nodes := s.nodes.push node, anchors })

/-- Adds a node with nothing written. -/
def addEmpty : NodeReader NodeId := add none ⟨.null, .scalar ""⟩

/-- Where a node stands: in a block, in a block that allows a sequence without indentation of its
own, or in a flow collection. -/
inductive Place where
  | block
  | loose
  | flow
  deriving DecidableEq

/-- A collection, known under its anchor while it is read. -/
def collection (anchor : Option String) (kind : Kind) (empty : Content)
    (read : NodeReader Content) : NodeReader NodeId := do
  checkAnchor anchor
  let id ← add anchor ⟨kind, empty⟩
  let content ← read
  modify fun s => { s with nodes := s.nodes.setIfInBounds id ⟨kind, content⟩ }
  return id

mutual

/-- A node. -/
def node : (size : Nat) → Place → NodeReader NodeId
  | 0, _ => unexpected
  | size + 1, place => do
    match ← peek with
    | .alias name =>
      drop
      match (← get).anchors.lookup name with
      | some id => return id
      | none => unexpected
    | _ =>
      let (anchor, tag) ← properties
      let sequence := collection anchor (kindOf tag .seq .seq) (.sequence [])
      let mapping := collection anchor (kindOf tag .map .map) (.mapping [])
      match ← peek with
      | .scalar text plain =>
        checkAnchor anchor
        drop
        let byForm := Kind.ofPlain text
        add anchor ⟨kindOf tag (if plain then byForm else .str) byForm, .scalar text⟩
      | t =>
        if place = .loose && t = .blockEntry then
          sequence (return .sequence (← looseItems size []))
        else if t = .flowSequenceStart then
          sequence (do drop; return .sequence (← flowItems size true []))
        else if t = .flowMappingStart then
          mapping (do drop; return .mapping (← flowEntries size true []))
        else if place != .flow && t = .blockSequenceStart then
          sequence (do drop; return .sequence (← blockItems size []))
        else if place != .flow && t = .blockMappingStart then
          mapping (do drop; return .mapping (← blockEntries size []))
        else if anchor.isSome || tag.isSome then do
          checkAnchor anchor
          add anchor ⟨kindOf tag .null .null, .scalar ""⟩
        else unexpected

/-- A node, or an empty one if one of the given tokens comes next. -/
def nodeUnless : (size : Nat) → Place → List Token → NodeReader NodeId
  | 0, _, _ => unexpected
  | size + 1, place, ends => do
    if ends.contains (← peek) then addEmpty else node size place

/-- The rest of a block sequence. -/
def blockItems : (size : Nat) → List NodeId → NodeReader (List NodeId)
  | 0, _ => unexpected
  | size + 1, items => do
    if ← accept .blockEntry then
      let item ← nodeUnless size .block [.blockEntry, .blockEnd]
      blockItems size (item :: items)
    else if ← accept .blockEnd then return items.reverse
    else unexpected

/-- The rest of a sequence without indentation of its own. -/
def looseItems : (size : Nat) → List NodeId → NodeReader (List NodeId)
  | 0, _ => unexpected
  | size + 1, items => do
    if ← accept .blockEntry then
      let item ← nodeUnless size .block [.blockEntry, .key, .value, .blockEnd]
      looseItems size (item :: items)
    else return items.reverse

/-- The rest of a block mapping. -/
def blockEntries : (size : Nat) → List (NodeId × NodeId) →
    NodeReader (List (NodeId × NodeId))
  | 0, _ => unexpected
  | size + 1, entries => do
    let ends := [.key, .value, .blockEnd]
    if ← accept .key then
      let key ← nodeUnless size .loose ends
      let value ← if ← accept .value then nodeUnless size .loose ends else addEmpty
      blockEntries size ((key, value) :: entries)
    else if ← accept .blockEnd then return entries.reverse
    else unexpected

/-- The rest of a flow sequence; an entry with a key is a mapping of its own. -/
def flowItems : (size : Nat) → (first : Bool) → List NodeId → NodeReader (List NodeId)
  | 0, _, _ => unexpected
  | size + 1, first, items => do
    if ← accept .flowSequenceEnd then return items.reverse
    else if first || (← accept .flowEntry) then
      if ← accept .key then
        let key ← nodeUnless size .flow [.value, .flowEntry, .flowSequenceEnd]
        let value ←
          if ← accept .value then nodeUnless size .flow [.flowEntry, .flowSequenceEnd]
          else addEmpty
        let pair ← add none ⟨.map, .mapping [(key, value)]⟩
        flowItems size false (pair :: items)
      else if ← accept .flowSequenceEnd then return items.reverse
      else
        let item ← node size .flow
        flowItems size false (item :: items)
    else unexpected

/-- The rest of a flow mapping; an entry without a colon has no value. -/
def flowEntries : (size : Nat) → (first : Bool) → List (NodeId × NodeId) →
    NodeReader (List (NodeId × NodeId))
  | 0, _, _ => unexpected
  | size + 1, first, entries => do
    if ← accept .flowMappingEnd then return entries.reverse
    else if first || (← accept .flowEntry) then
      if ← accept .key then
        let key ← nodeUnless size .flow [.value, .flowEntry, .flowMappingEnd]
        let value ←
          if ← accept .value then nodeUnless size .flow [.flowEntry, .flowMappingEnd]
          else addEmpty
        flowEntries size false ((key, value) :: entries)
      else if ← accept .flowMappingEnd then return entries.reverse
      else
        let key ← node size .flow
        flowEntries size false ((key, ← addEmpty) :: entries)
    else unexpected

end

/-- The directives in front of a document: at most one version, which must be 1, and no tag handle
twice. -/
def directives : (size : Nat) → (versioned : Bool) → NodeReader Unit
  | 0, _ => unexpected
  | size + 1, versioned => do
    match ← peek with
    | .directive (.version major _) =>
      if versioned || major != 1 then unexpected
      else
        drop
        directives size true
    | .directive (.tag handle expansion) =>
      if ((← get).handles.lookup handle).isSome then unexpected
      else
        modify fun s => { s with handles := (handle, expansion) :: s.handles }
        drop
        directives size versioned
    | .directive .unknown =>
      drop
      directives size versioned
    | _ => return ()

/-- Expansions of the two handles that need no directive. -/
def standardHandles : List (String × String) := [("!", "!"), ("!!", "tag:yaml.org,2002:")]

/-- Passes over the marks of document ends. -/
def documentEnds : (size : Nat) → NodeReader Unit
  | 0 => unexpected
  | size + 1 => do if ← accept .documentEnd then documentEnds size else return ()

/-- Refuses whatever follows the root but the end. The directives of a second document are read
first. -/
def finish (size : Nat) (root : NodeId) : NodeReader (Option NodeId) := do
  documentEnds size
  if ← accept .streamEnd then return some root
  else
    modify fun s => { s with handles := [] }
    directives size false
    unexpected

/-- The root of the document, unless there is none, with nothing behind it. -/
def document (size : Nat) : NodeReader (Option NodeId) := do
  match ← peek with
  | .streamEnd => return none
  | .directive _ | .documentStart =>
    directives size false
    if ← accept .documentStart then
      modify fun s => { s with handles := s.handles ++ standardHandles }
      let root ← match ← peek with
        | .directive _ | .documentStart | .documentEnd | .streamEnd => addEmpty
        | _ => node size .block
      finish size root
    else unexpected
  | _ =>
    modify fun s => { s with handles := standardHandles }
    finish size (← node size .block)

end NodeReader

/-- A document: its nodes, and the root among them unless nothing is written. -/
structure Document where
  nodes : Array Node
  root : Option NodeId

/-- The single document in a text. -/
def Document.ofText (text : String) : Except YamlError Document := do
  let tokens ← TokenQueue.ofText text
  let (root, s) ← (NodeReader.document (8 * tokens.bound)).run { tokens }
  return { nodes := s.nodes, root }

end TypeReach.Yaml
