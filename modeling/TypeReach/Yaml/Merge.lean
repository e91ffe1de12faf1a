import TypeReach.Yaml.Node

/-!
# Merged mappings

A mapping may name others, or a list of others, whose entries it takes over. The entries taken over
come before its own, and those of the last mapping of a list first. A mapping is completed once: the
keys that name others are dropped, those of default values become plain text, and what it names is
completed on the way.
-/

namespace TypeReach.Yaml

/-- A step of completing mappings. -/
abbrev Merging := StateT (Array Node) (Except YamlError)

namespace Merging

/-- The node at a place. -/
def nodeAt (id : NodeId) : Merging Node := do
  return ((← get)[id]?).getD default

/-- The kind of the node at a place. -/
def kindAt (id : NodeId) : Merging Kind := do
  return (← nodeAt id).kind

/-- The entries of a mapping; other nodes have none. -/
def entriesAt (id : NodeId) : Merging (List (NodeId × NodeId)) := do
  match (← nodeAt id).content with
  | .mapping entries => return entries
  | _ => return []

/-- Replaces the entries of a mapping. -/
def setEntries (id : NodeId) (entries : List (NodeId × NodeId)) : Merging Unit :=
  modify fun nodes => nodes.modify id fun n => { n with content := .mapping entries }

/-- The number of entries that name mappings to be merged. -/
def mergeCount (nodes : Array Node) : Nat :=
  (nodes.toList.flatMap fun n =>
    match n.content with
    | .mapping entries => entries.filter fun e => (nodes[e.1]?.map Node.kind) == some .merge
    | _ => []).length

/-- The entries in front of the first one that names mappings to be merged, what that one names, and
the entries behind it. -/
def cutAtMerge : List (NodeId × NodeId) →
    Merging (Option (List (NodeId × NodeId) × NodeId × List (NodeId × NodeId)))
  | [] => return none
  | (key, value) :: rest => do
    if (← kindAt key) == .merge then return some ([], value, rest)
    else return (← cutAtMerge rest).map fun (before, named, behind) =>
      ((key, value) :: before, named, behind)

/-- Makes the keys of default values plain text. -/
def plainKeys (entries : List (NodeId × NodeId)) : Merging Unit :=
  modify fun nodes => entries.foldl (fun nodes e =>
    nodes.modify e.1 fun n => if n.kind = .value then { n with kind := .str } else n) nodes

/-- The entries of the mappings in a list, with `one` to complete each; the last mapping comes
first. -/
def entriesOfAll (one : NodeId → Merging Unit) :
    List NodeId → List (NodeId × NodeId) → Merging (List (NodeId × NodeId))
  | [], earlier => return earlier
  | id :: ids, earlier => do
    match (← nodeAt id).content with
    | .mapping _ =>
      one id
      entriesOfAll one ids ((← entriesAt id) ++ earlier)
    | _ => throw .malformed

/-- Completes a mapping: `taken` are the entries taken over so far. Every step drops an entry that
names others, so that one step more than there are such entries is enough. -/
def complete : (n : Nat) → NodeId → (taken : List (NodeId × NodeId)) → Merging Unit
  | 0, _, _ => return ()
  | n + 1, id, taken => do
    let entries ← entriesAt id
    match ← cutAtMerge entries with
    | none =>
      plainKeys entries
      setEntries id (taken ++ entries)
    | some (before, named, behind) =>
      setEntries id (before ++ behind)
      let inner := fun other => complete n other []
      let more ← match (← nodeAt named).content with
        | .mapping _ => do
          inner named
          entriesAt named
        | .sequence items => entriesOfAll inner items []
        | .scalar _ => throw .malformed
      complete n id (taken ++ more)

end Merging

end TypeReach.Yaml
