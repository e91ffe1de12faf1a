/-!
# Tables

A table keeps one value under each of its names, in the order in which the names came in.
-/

namespace TypeReach

/-- Values under distinct names, in the order of the names' arrival. -/
structure Table (β : Type) where
  entries : List (String × β)
  distinct : (entries.map Prod.fst).Nodup
  deriving DecidableEq

namespace Table

variable {β : Type}

/-- The table without entries. -/
def empty : Table β := ⟨[], by simp⟩

instance : Inhabited (Table β) := ⟨empty⟩

/-- The names in order of arrival. -/
def names (t : Table β) : List String := t.entries.map Prod.fst

/-- The number of entries. -/
def size (t : Table β) : Nat := t.entries.length

/-- The entries with a value under a name: in the place of the name if it is there, else at the
end. -/
def putIn (name : String) (value : β) : List (String × β) → List (String × β)
  | [] => [(name, value)]
  | (n, v) :: rest => if n = name then (n, value) :: rest else (n, v) :: putIn name value rest

theorem map_fst_putIn (name : String) (value : β) (es : List (String × β)) :
    (putIn name value es).map Prod.fst =
      if name ∈ es.map Prod.fst then es.map Prod.fst else es.map Prod.fst ++ [name] := by
  induction es with
  | nil => simp [putIn]
  | cons e es ih =>
    obtain ⟨n, v⟩ := e
    by_cases h : n = name
    · simp [putIn, h]
    · rw [putIn, if_neg h, List.map_cons, ih]
      by_cases hm : name ∈ es.map Prod.fst <;> simp_all [eq_comm]

/-- Puts a value under a name. -/
def put (t : Table β) (name : String) (value : β) : Table β where
  entries := putIn name value t.entries
  distinct := by
    rw [map_fst_putIn]
    split
    · exact t.distinct
    · next h =>
      exact List.nodup_append.2 ⟨t.distinct, by simp, by
        intro a ha b hb e
        exact h (by simp_all)⟩

/-- Takes a name out. -/
def erase (t : Table β) (name : String) : Table β where
  entries := t.entries.filter (·.1 != name)
  distinct := t.distinct.sublist (List.filter_sublist.map _)

/-- The first value under a name. -/
def getIn? (name : String) : List (String × β) → Option β
  | [] => none
  | (n, v) :: rest => if n = name then some v else getIn? name rest

/-- The value under a name, if there is one. -/
def get? (t : Table β) (name : String) : Option β :=
  getIn? name t.entries

/-- Whether a name is there. -/
def contains (t : Table β) (name : String) : Bool :=
  (t.get? name).isSome

/-- The table of some entries, put in one after the other. -/
def ofEntries (es : List (String × β)) : Table β :=
  es.foldl (fun t e => t.put e.1 e.2) empty

private theorem getIn?_putIn (name other : String) (value : β) (es : List (String × β)) :
    getIn? other (putIn name value es) = if other = name then some value else getIn? other es := by
  induction es with
  | nil => simp [putIn, getIn?, eq_comm]
  | cons e es ih => grind [putIn, getIn?]

private theorem getIn?_filter_ne (name other : String) (es : List (String × β)) :
    getIn? other (es.filter (·.1 != name)) = if other = name then none else getIn? other es := by
  induction es with
  | nil => simp [getIn?]
  | cons e es ih => grind [getIn?]

private theorem getIn?_eq_none_iff (name : String) (es : List (String × β)) :
    getIn? name es = none ↔ name ∉ es.map Prod.fst := by
  induction es with
  | nil => simp [getIn?]
  | cons e es ih => grind [getIn?]

theorem get?_eq_none_iff (t : Table β) (name : String) : t.get? name = none ↔ name ∉ t.names :=
  getIn?_eq_none_iff name t.entries

@[simp] theorem get?_empty (name : String) : (empty : Table β).get? name = none := rfl

@[simp] theorem get?_put (t : Table β) (name other : String) (value : β) :
    (t.put name value).get? other = if other = name then some value else t.get? other :=
  getIn?_putIn name other value t.entries

@[simp] theorem get?_erase (t : Table β) (name other : String) :
    (t.erase name).get? other = if other = name then none else t.get? other :=
  getIn?_filter_ne name other t.entries

@[ext] theorem ext {s t : Table β} (h : s.entries = t.entries) : s = t := by
  cases s; cases t; cases h; rfl

end Table

end TypeReach
