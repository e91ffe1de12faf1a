/-!
# Type references

A reference is what a signature says about types: a plain type, a type applied to arguments, a
bounded wildcard or an array. Slots of a signature may be empty, and a reference that comes from
outside may be of no known kind; both are nodes of their own, so that a walk decides about them.
-/

namespace TypeReach

/-- Why a node cannot be walked at all. -/
inductive Unwalkable where
  /-- The value is no reference of a known kind; `shown` is how it prints. -/
  | unsupported (shown : String)
  /-- The descriptor holds a value of a changeable kind, so it cannot be marked. -/
  | unmarkable (kind : String)
  deriving DecidableEq, Repr, Inhabited

/-- A reference to types, over descriptors `δ`. -/
inductive TypeRef (δ : Type) where
  /-- An empty slot. -/
  | absent
  /-- A plain type. -/
  | concrete (descriptor : δ)
  /-- A type applied to arguments; a union has no owner. -/
  | parameterized (owner : TypeRef δ) (args : List (TypeRef δ))
  /-- An occurrence bounded from below and above. -/
  | wildcard (lower upper : List (TypeRef δ))
  /-- An array of a component type. -/
  | array (component : TypeRef δ)
  /-- A node on which every walk stops. -/
  | unknown (why : Unwalkable)
  deriving Inhabited

namespace TypeRef

variable {δ ε : Type}

mutual

/-- The reference with every descriptor replaced. -/
def map (f : δ → ε) : TypeRef δ → TypeRef ε
  | absent => absent
  | concrete d => concrete (f d)
  | parameterized owner args => parameterized (owner.map f) (mapList f args)
  | wildcard lower upper => wildcard (mapList f lower) (mapList f upper)
  | array component => array (component.map f)
  | unknown why => unknown why

/-- The references with every descriptor replaced. -/
def mapList (f : δ → ε) : List (TypeRef δ) → List (TypeRef ε)
  | [] => []
  | r :: rs => r.map f :: mapList f rs

end

@[simp] theorem mapList_eq_map (f : δ → ε) (rs : List (TypeRef δ)) :
    mapList f rs = rs.map (TypeRef.map f) := by
  induction rs with
  | nil => rfl
  | cons r rs ih => simp [mapList, ih]

mutual

/-- The reference with every descriptor replaced by a step on a state, from left to right. -/
def mapState {σ : Type} (f : δ → σ → ε × σ) : TypeRef δ → σ → TypeRef ε × σ
  | absent, s => (absent, s)
  | concrete d, s => let (e, s) := f d s; (concrete e, s)
  | parameterized owner args, s =>
    let (owner, s) := owner.mapState f s
    let (args, s) := mapStateList f args s
    (parameterized owner args, s)
  | wildcard lower upper, s =>
    let (lower, s) := mapStateList f lower s
    let (upper, s) := mapStateList f upper s
    (wildcard lower upper, s)
  | array component, s => let (component, s) := component.mapState f s; (array component, s)
  | unknown why, s => (unknown why, s)

/-- The references with every descriptor replaced by a step on a state, in order. -/
def mapStateList {σ : Type} (f : δ → σ → ε × σ) : List (TypeRef δ) → σ → List (TypeRef ε) × σ
  | [], s => ([], s)
  | r :: rs, s =>
    let (r, s) := r.mapState f s
    let (rs, s) := mapStateList f rs s
    (r :: rs, s)

end

/-- The reference in which every descriptor is replaced by the one that it is known by, given those
that are known; each is known to those after it. -/
def recognise (replacement : List δ → δ → δ) (known : List δ) (r : TypeRef δ) : TypeRef δ :=
  (r.mapState (fun d known => let d := replacement known d; (d, d :: known)) known).1

mutual

/-- The descriptors of a reference from left to right: owner before arguments, lower before
upper bounds. -/
def targets : TypeRef δ → List δ
  | absent => []
  | concrete d => [d]
  | parameterized owner args => owner.targets ++ targetsList args
  | wildcard lower upper => targetsList lower ++ targetsList upper
  | array component => component.targets
  | unknown _ => []

/-- The descriptors of several references, in order. -/
def targetsList : List (TypeRef δ) → List δ
  | [] => []
  | r :: rs => r.targets ++ targetsList rs

end

@[simp] theorem targetsList_eq_flatMap (rs : List (TypeRef δ)) :
    targetsList rs = rs.flatMap targets := by
  induction rs with
  | nil => rfl
  | cons r rs ih => simp [targetsList, ih]

mutual

/-- Equality of references, node by node. -/
def same [DecidableEq δ] : TypeRef δ → TypeRef δ → Bool
  | absent, absent => true
  | concrete a, concrete b => a == b
  | parameterized o as, parameterized p bs => o.same p && sameList as bs
  | wildcard l u, wildcard k v => sameList l k && sameList u v
  | array a, array b => a.same b
  | unknown a, unknown b => a == b
  | _, _ => false

/-- Equality of lists of references. -/
def sameList [DecidableEq δ] : List (TypeRef δ) → List (TypeRef δ) → Bool
  | [], [] => true
  | a :: as, b :: bs => a.same b && sameList as bs
  | _, _ => false

end

mutual

theorem eq_of_same [DecidableEq δ] : ∀ {a b : TypeRef δ}, a.same b = true → a = b
  | absent, b, h => by cases b <;> simp_all [same]
  | concrete a, b, h => by cases b <;> simp_all [same]
  | parameterized o as, b, h => by
    cases b with
    | parameterized p bs =>
      simp only [same, Bool.and_eq_true] at h
      rw [eq_of_same h.1, eq_of_sameList h.2]
    | _ => simp [same] at h
  | wildcard l u, b, h => by
    cases b with
    | wildcard k v =>
      simp only [same, Bool.and_eq_true] at h
      rw [eq_of_sameList h.1, eq_of_sameList h.2]
    | _ => simp [same] at h
  | array a, b, h => by
    cases b with
    | array b =>
      simp only [same] at h
      rw [eq_of_same h]
    | _ => simp [same] at h
  | unknown a, b, h => by cases b <;> simp_all [same]

theorem eq_of_sameList [DecidableEq δ] : ∀ {as bs : List (TypeRef δ)},
    sameList as bs = true → as = bs
  | [], bs, h => by cases bs <;> simp_all [sameList]
  | a :: as, bs, h => by
    cases bs with
    | nil => simp [sameList] at h
    | cons b bs =>
      simp only [sameList, Bool.and_eq_true] at h
      rw [eq_of_same h.1, eq_of_sameList h.2]

end

mutual

theorem same_refl [DecidableEq δ] : ∀ a : TypeRef δ, a.same a = true
  | absent => rfl
  | concrete _ => by simp [same]
  | parameterized o as => by simp [same, same_refl o, sameList_refl as]
  | wildcard l u => by simp [same, sameList_refl l, sameList_refl u]
  | array a => by simp [same, same_refl a]
  | unknown _ => by simp [same]

theorem sameList_refl [DecidableEq δ] : ∀ as : List (TypeRef δ), sameList as as = true
  | [] => rfl
  | a :: as => by simp [sameList, same_refl a, sameList_refl as]

end

instance [DecidableEq δ] : DecidableEq (TypeRef δ) := fun a b =>
  if h : a.same b = true then isTrue (eq_of_same h)
  else isFalse fun e => h (e ▸ same_refl a)

end TypeRef

end TypeReach
