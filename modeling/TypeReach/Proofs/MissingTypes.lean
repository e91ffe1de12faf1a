import TypeReach.Proofs.WrittenClosure

/-!
# Walks fail for missing types only

In a loaded environment all expressions can be read, and reading them gives handles for the names
that are written. So a walk can stop for two reasons only: a type that it comes to is not defined,
or one that an attribute names is not.
-/

namespace TypeReach

open TypeReach.Graph

namespace Graph.Environment

variable (e : Environment)

/-- What was read with names is read with their handles. -/
theorem read_handle_of_legible {x : String} (h : Legible x) :
    ∃ r, Expression.parse x = .ok r ∧ Expression.read e.handle x = .ok (r.map e.handle) := by
  obtain ⟨r, hr⟩ := h
  refine ⟨r, hr, ?_⟩
  rw [Expression.read, Expression.parseWith_eq_map, hr]
  rfl

end Graph.Environment

/-- A machine that does not come to the end names a type that is not defined. -/
theorem Graph.Machine.undefined_of_halts {e : Environment} {options : WalkOptions} {m : Machine}
    {verdict : Verdict} {marked : List Descriptor} (h : Halts e options m (verdict, marked)) :
    verdict = .resolved ∨ ∃ name cause,
      verdict.outcome = .error (.unresolved (some name) (some cause)) ∧ e.lookup name = none := by
  obtain ⟨m', -, hhalt⟩ := h
  cases verdict with
  | resolved => exact .inl rfl
  | missing name =>
    obtain ⟨d, rest, -, hlookup, rfl⟩ := next_eq_missing hhalt
    exact .inr ⟨d.typeName, _, rfl, hlookup⟩
  | unforced name =>
    obtain ⟨v, rest, -, habsent⟩ := next_eq_unforced hhalt
    obtain ⟨-, hdefines⟩ := Environment.absent?_eq_some habsent
    have hlookup : e.lookup name = none := by
      by_contra hne
      rw [(e.defines_iff name).2 hne] at hdefines
      cases hdefines
    exact .inr ⟨name, _, rfl, hlookup⟩

/-- A load in a loaded environment, from any marks, succeeds or fails with a failed resolution of a
type that has no definition. For reading an expression with handles accepts what loading accepted,
and gives the same reference over the handles; so each expression of a definition, that of its
supertype included, is read. -/
theorem Walker.load_fails_only_missing {data : Value} {e : Environment}
    (he : Environment.ofValue data = .ok e) {memory : Parses} (hm : Faithful memory)
    (w : Walker Descriptor) {depth : Nat} (hd : e.depth ≤ depth) (root : Descriptor) :
    ((w.load e.provider depth memory (.concrete root)).outcome = .ok () ∨
      ∃ name cause, (w.load e.provider depth memory (.concrete root)).outcome =
        .error (.unresolved (some name) (some cause)) ∧ e.lookup name = none) ∧
    (∀ x, Expression.parseWith e.handle x = (Expression.parse x).map (TypeRef.map e.handle)) ∧
    ∀ name d, e.lookup name = some d → ∀ x ∈ d.expressions { traverseSupertype := true },
      ∃ r, Expression.parse x = .ok r ∧ Expression.read e.handle x = .ok (r.map e.handle) := by
  have hlegible : e.AllLegible := Environment.allLegible_of_ofValue he
  refine ⟨?outcome, Expression.parseWith_eq_map e.handle, fun name d hl x hx => ?stored⟩
  case outcome =>
    obtain ⟨verdict, hhalts, houtcome, -⟩ := load_halts hlegible hm w hd root
    rw [houtcome]
    rcases Machine.undefined_of_halts hhalts with rfl | ⟨name, cause, hfault, hlookup⟩
    · exact .inl rfl
    · exact .inr ⟨name, cause, hfault, hlookup⟩
  case stored =>
    exact e.read_handle_of_legible (hlegible name d hl x hx)

/-- A walker that does not traverse supertypes and has marked `B` misses `Y` on its way from `A`. -/
theorem Walker.load_fails_only_missing_bounded :
    ∃ e, Environment.ofValue bounded = .ok e ∧ Faithful .empty ∧ e.depth ≤ 6 ∧
      ∃ cause, (({ options := { traverseSupertype := false }, marked := [.named "B"] } :
        Walker Descriptor).load e.provider 6 .empty (.concrete (.named "A"))).outcome =
          .error (.unresolved (some "Y") (some cause)) ∧ e.lookup "Y" = none := by
  have loads : (Environment.ofValue bounded).isOk = true := by decide +kernel
  cases h : Environment.ofValue bounded with
  | error why =>
    rw [h] at loads
    cases loads
  | ok e =>
    have he : e = (Environment.ofValue bounded).toOption.getD {} := by rw [h]; rfl
    have hd : e.depth ≤ 6 := by rw [he]; decide +kernel
    have hfault : (({ options := { traverseSupertype := false }, marked := [.named "B"] } :
        Walker Descriptor).load e.provider 6 .empty (.concrete (.named "A"))).outcome =
          (Verdict.missing "Y").outcome := by
      rw [he]
      decide +kernel
    obtain ⟨hok | ⟨name, cause, hname, hlookup⟩, -⟩ := load_fails_only_missing h faithful_empty
      { options := { traverseSupertype := false }, marked := [.named "B"] } hd (.named "A")
    · cases hfault.symm.trans hok
    · cases hfault.symm.trans hname
      exact ⟨e, rfl, faithful_empty, hd, _, hfault, hlookup⟩

end TypeReach
