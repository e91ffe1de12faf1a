import TypeReach.Reference
import TypeReach.Text.Quoted

/-!
# Faults

What a look-up or a walk can fail with. A failed resolution names the type that could not be
resolved and keeps the fault behind it.
-/

namespace TypeReach

/-- The kinds of fault that tell nothing about the resolution of types. -/
inductive FaultKind where
  | type
  | value
  | key
  | lookup
  | runtime
  | attribute
  | permission
  | unparsable
  | undecodable
  | named (className : String)
  deriving DecidableEq, Repr, Inhabited

/-- What a look-up or a walk fails with. -/
inductive Fault where
  /-- The definition behind a type cannot be loaded. -/
  | linkage (message : String) (typeName : Option String)
  /-- A type referred to lazily is not there. -/
  | notPresent (typeName : Option String) (cause : Option Fault)
  /-- A type of the closure cannot be resolved. -/
  | unresolved (typeName : Option String) (cause : Option Fault)
  /-- An attribute must not be read. -/
  | restricted (message : String)
  /-- A graph or settings file, or an expression in one, is not usable. -/
  | unusable (message : String)
  /-- A name stands for nothing. -/
  | unknownName (message : String) (name : Option String)
  /-- A node of a reference cannot be walked. -/
  | unwalkable (why : Unwalkable)
  /-- More types are open at once than the walk allows. -/
  | nestedTooDeep
  /-- Any other fault. -/
  | other (kind : FaultKind) (message : String)
  deriving Inhabited

namespace Unwalkable

/-- What is said about a node that cannot be walked. -/
def message : Unwalkable → String
  | unsupported shown => "Unsupported type reference: " ++ shown
  | unmarkable kind => "unhashable type: " ++ Text.quoted kind

end Unwalkable

namespace Fault

/-- A type name in a message. -/
def nameText (typeName : Option String) : String :=
  typeName.getD "None"

/-- What is said about a fault. -/
def message : Fault → String
  | linkage m _ => m
  | notPresent t _ => "Type " ++ nameText t ++ " not present"
  | unresolved t none => nameText t
  | unresolved t (some cause) => nameText t ++ ": " ++ cause.message
  | restricted m => m
  | unusable m => m
  | unknownName m _ => m
  | unwalkable why => why.message
  | nestedTooDeep => "maximum recursion depth exceeded"
  | other .key m => Text.quoted m
  | other _ m => m

/-- Equality of faults. -/
def same : Fault → Fault → Bool
  | linkage m t, linkage n u => m == n && t == u
  | notPresent t none, notPresent u none => t == u
  | notPresent t (some c), notPresent u (some d) => t == u && c.same d
  | unresolved t none, unresolved u none => t == u
  | unresolved t (some c), unresolved u (some d) => t == u && c.same d
  | restricted m, restricted n => m == n
  | unusable m, unusable n => m == n
  | unknownName m a, unknownName n b => m == n && a == b
  | unwalkable a, unwalkable b => a == b
  | nestedTooDeep, nestedTooDeep => true
  | other k m, other l n => k == l && m == n
  | _, _ => false

theorem eq_of_same : ∀ {a b : Fault}, a.same b = true → a = b
  | linkage .., b, h => by cases b <;> simp_all [same]
  | notPresent t none, b, h => by
    cases b with
    | notPresent u c => cases c <;> simp_all [same]
    | _ => simp [same] at h
  | notPresent t (some c), b, h => by
    cases b with
    | notPresent u d =>
      cases d with
      | none => simp [same] at h
      | some d =>
        simp only [same, Bool.and_eq_true, beq_iff_eq] at h
        rw [h.1, eq_of_same h.2]
    | _ => simp [same] at h
  | unresolved t none, b, h => by
    cases b with
    | unresolved u c => cases c <;> simp_all [same]
    | _ => simp [same] at h
  | unresolved t (some c), b, h => by
    cases b with
    | unresolved u d =>
      cases d with
      | none => simp [same] at h
      | some d =>
        simp only [same, Bool.and_eq_true, beq_iff_eq] at h
        rw [h.1, eq_of_same h.2]
    | _ => simp [same] at h
  | restricted _, b, h => by cases b <;> simp_all [same]
  | unusable _, b, h => by cases b <;> simp_all [same]
  | unknownName .., b, h => by cases b <;> simp_all [same]
  | unwalkable _, b, h => by cases b <;> simp_all [same]
  | nestedTooDeep, b, h => by cases b <;> simp_all [same]
  | other .., b, h => by cases b <;> simp_all [same]

theorem same_refl : ∀ a : Fault, a.same a = true
  | linkage .. => by simp [same]
  | notPresent _ none => by simp [same]
  | notPresent _ (some c) => by simp [same, same_refl c]
  | unresolved _ none => by simp [same]
  | unresolved _ (some c) => by simp [same, same_refl c]
  | restricted _ => by simp [same]
  | unusable _ => by simp [same]
  | unknownName .. => by simp [same]
  | unwalkable _ => by simp [same]
  | nestedTooDeep => by simp [same]
  | other .. => by simp [same]

instance : DecidableEq Fault := fun a b =>
  if h : a.same b = true then isTrue (eq_of_same h)
  else isFalse fun e => h (e ▸ same_refl a)

end Fault

end TypeReach
