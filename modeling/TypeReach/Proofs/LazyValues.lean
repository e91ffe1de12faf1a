import TypeReach.Proofs.LazyNames

/-!
# Lazy values

A value of lists and tuples is read leaf by leaf, from left to right: the first leaf that fails
gives its fault, and if none fails the value keeps its shape, with each leaf replaced by what it is
read as. A lazy name is read as what it stands for, and any other leaf as itself, unless it is a
record that is asked about itself: one that fails to say what class it is of, that is also a row and
is made anew, or that is also a text and says itself whether it is a lazy name.
-/

namespace TypeReach

namespace Classes

namespace Object

mutual

/-- A value with its leaves replaced. -/
def mapLeaves (f : Object → Object) : Object → Object
  | .list items => .list (mapAllLeaves f items)
  | .tuple items => .tuple (mapAllLeaves f items)
  | o => f o

/-- Values with their leaves replaced. -/
def mapAllLeaves (f : Object → Object) : List Object → List Object
  | [] => []
  | o :: os => o.mapLeaves f :: mapAllLeaves f os

end

/-- What is no list or tuple. -/
def IsLeaf (o : Object) : Prop :=
  (∀ items, o ≠ .list items) ∧ ∀ items, o ≠ .tuple items

mutual

theorem isLeaf_of_mem_leaves {leaf : Object} : ∀ {o : Object}, leaf ∈ o.leaves → leaf.IsLeaf
  | .list _, h => isLeaf_of_mem_allLeaves h
  | .tuple _, h => isLeaf_of_mem_allLeaves h
  | .null, h | .bool _, h | .int _, h | .double _, h | .str _, h | .mapping _, h | .record _ _, h
  | .cls _, h | .forward _ _ _, h | .typeVar _, h | .anything, h | .rest, h | .bare _, h
  | .literal _, h | .wrapped _ _, h | .annotated _ _, h | .union _, h | .either _, h
  | .applied _ _ _, h | .parameters _, h | .slice _ _ _, h | .feature _ _ _, h | .thing _, h => by
    rw [List.mem_singleton.1 h]
    exact ⟨nofun, nofun⟩

theorem isLeaf_of_mem_allLeaves {leaf : Object} :
    ∀ {os : List Object}, leaf ∈ allLeaves os → leaf.IsLeaf
  | _ :: _, h => by
    obtain h | h := List.mem_append.1 h
    · exact isLeaf_of_mem_leaves h
    · exact isLeaf_of_mem_allLeaves h

end

/-- The name that a lazy leaf has to be resolved by: a formula is one, and a text with the mark. -/
def lazyText? : Object → Option String
  | .forward _ text _ => some text
  | .str s => lazyName? s
  | _ => none

end Object

namespace Universe

variable (u : Universe) (module : Option String)

/-- What a leaf is read as, if it can be read. -/
def forced (leaf : Object) : Object :=
  match u.force module leaf with
  | .ok o => o
  | .error _ => leaf

/-- A record that is asked about itself when it is read, and what comes of that. -/
inductive Reconsiders (c : ClassId) (fields : List (String × Object)) : Except Fault Object → Prop
  | unclassed {fault : Fault} : u.classFault? (.record c fields) = some fault →
      Reconsiders c fields (.error fault)
  /-- A row is taken apart, and a new one is made of what is in it. -/
  | row {items : List Object} : u.classFault? (.record c fields) = none →
      u.plainOf (.record c fields) = .list items ∨ u.plainOf (.record c fields) = .tuple items →
      Reconsiders c fields (discard (u.objectsIn (.record c fields)) >>= fun _ => u.remade c)
  /-- A text is an empty one, so the name in it is empty, too. -/
  | text {s : String} : u.classFault? (.record c fields) = none →
      u.plainOf (.record c fields) = .str s →
      Reconsiders c fields (u.saysLazy (.record c fields) >>= fun isLazy =>
        if isLazy then u.resolveName module "" else .ok (.record c fields))

variable {u module}

/-- A leaf of its own is read in one step. -/
theorem force_of_leaf (leaf : Object) :
    u.force module leaf = ([leaf].mapM (u.force module)).map fun _ => u.forced module leaf := by
  rw [List.mapM_cons, List.mapM_nil, forced]
  cases u.force module leaf <;> rfl

mutual

/-- A value is read by reading its leaves in order. -/
theorem force_eq_leaves : ∀ o : Object, u.force module o =
    (o.leaves.mapM (u.force module)).map fun _ => o.mapLeaves (u.forced module)
  | .list items => by
    rw [force, forceList_eq_leaves items, Object.leaves, Object.mapLeaves]
    cases (Object.allLeaves items).mapM (u.force module) <;> rfl
  | .tuple items => by
    rw [force, forceList_eq_leaves items, Object.leaves, Object.mapLeaves]
    cases (Object.allLeaves items).mapM (u.force module) <;> rfl
  | .null | .bool _ | .int _ | .double _ | .str _ | .mapping _ | .record _ _ | .cls _
  | .forward _ _ _ | .typeVar _ | .anything | .rest | .bare _ | .literal _ | .wrapped _ _
  | .annotated _ _ | .union _ | .either _ | .applied _ _ _ | .parameters _ | .slice _ _ _
  | .feature _ _ _ | .thing _ => force_of_leaf _

theorem forceList_eq_leaves : ∀ os : List Object, u.forceList module os =
    ((Object.allLeaves os).mapM (u.force module)).map fun _ =>
      Object.mapAllLeaves (u.forced module) os
  | [] => rfl
  | o :: os => by
    rw [forceList, force_eq_leaves o, forceList_eq_leaves os, Object.allLeaves, List.mapM_append,
      Object.mapAllLeaves]
    cases o.leaves.mapM (u.force module) with
    | error fault => rfl
    | ok _ => cases (Object.allLeaves os).mapM (u.force module) <;> rfl

end

theorem force_of_lazyText? {leaf : Object} {name : String} (h : leaf.lazyText? = some name) :
    u.force module leaf = u.resolveName module name := by
  cases leaf with
  | forward number text lenient =>
    cases h
    rfl
  | str s =>
    have hname : lazyName? s = some name := h
    rw [force, hname]
  | _ => cases h

/-- A record is read as itself, unless it is asked about itself. -/
theorem forceRecord_cases (c : ClassId) (fields : List (String × Object)) :
    u.forceRecord module c fields = .ok (.record c fields) ∨
      u.Reconsiders module c fields (u.forceRecord module c fields) := by
  unfold forceRecord
  dsimp only
  split
  · next fault hfault => exact .inr (.unclassed hfault)
  · next hclass hplain => exact .inr (.row hclass (.inl hplain))
  · next hclass hplain => exact .inr (.row hclass (.inr hplain))
  · next hclass hplain => exact .inr (.text hclass hplain)
  · exact .inl rfl

/-- What a leaf is read as. -/
theorem force_leaf_cases {leaf : Object} (h : leaf.IsLeaf) :
    (∃ name, leaf.lazyText? = some name ∧ u.force module leaf = u.resolveName module name) ∨
    (leaf.lazyText? = none ∧ (u.force module leaf = .ok leaf ∨
      ∃ c fields, leaf = .record c fields ∧
        u.Reconsiders module c fields (u.force module leaf))) := by
  cases hname : leaf.lazyText? with
  | some name => exact .inl ⟨name, rfl, force_of_lazyText? hname⟩
  | none =>
    refine .inr ⟨rfl, ?_⟩
    cases leaf with
    | record c fields => exact (forceRecord_cases c fields).imp_right fun h => ⟨c, fields, rfl, h⟩
    | forward _ _ _ => cases hname
    | str s =>
      have hs : lazyName? s = none := hname
      exact .inl (by rw [force, hs])
    | list items => exact absurd rfl (h.1 items)
    | tuple items => exact absurd rfl (h.2 items)
    | _ => exact .inl rfl

/-- A class of rows that are made of two things. -/
def rows : Universe where
  classes := [{
    module := some "m", qualname := "Row", parents := [.builtin "list"]
    order := [.declared 0, .builtin "list", .builtin "object"]
    attributes := .ofEntries [("__init__", .function {
      name := "__init__", home := "m"
      takes := [{ name := "self" }, { name := "first" }, { name := "second" }] })] }]

end Universe

end Classes

end TypeReach
