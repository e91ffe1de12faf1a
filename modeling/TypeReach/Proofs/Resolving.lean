import TypeReach.Expression.Parse

/-!
# Names resolved while reading

Whatever the names in an expression are resolved to, the same expressions are read, with the same
errors for the others, and the reference is the one over the names themselves with each name
replaced by what it is resolved to.
-/

namespace TypeReach.Expression

variable {δ : Type} (resolve : String → δ)

theorem arrays_map {ε : Type} (f : δ → ε) (r : TypeRef δ) (tokens : List Token) :
    arrays (r.map f) tokens = ((arrays r tokens).1.map f, (arrays r tokens).2) := by
  fun_induction arrays r tokens with
  | case1 r rest ih => exact ih
  | case2 r rest hrest => rw [arrays.eq_2 _ _ hrest]

/-- A type, or a row of types, that was read with names as they are, with the names resolved. -/
theorem parseType_eq_map :
    (∀ fuel tokens, parseType resolve fuel tokens =
      (parseType id fuel tokens).map fun p => (p.1.map resolve, p.2)) ∧
    ∀ separator fuel tokens, parseSeparated resolve separator fuel tokens =
      (parseSeparated id separator fuel tokens).map
        fun p => (p.1.map (TypeRef.map resolve), p.2) := by
  refine parseType.mutual_induct
    (fun fuel tokens => parseType resolve fuel tokens =
      (parseType id fuel tokens).map fun p => (p.1.map resolve, p.2))
    (fun separator fuel tokens => parseSeparated resolve separator fuel tokens =
      (parseSeparated id separator fuel tokens).map
        fun p => (p.1.map (TypeRef.map resolve), p.2))
    ?ended ?empty ?upper ?lower ?question ?arguments ?name ?other ?endedRow ?row
  case ended =>
    intro tokens
    simp only [parseType, Except.map]
  case empty =>
    intro fuel
    simp only [parseType, Except.map]
  case upper =>
    intro fuel tokens ih
    rw [parseType, parseType, ih]
    cases parseSeparated id .ampersand fuel tokens with
    | error why => rfl
    | ok p => simp [bind, Except.bind, Except.map, pure, Except.pure, TypeRef.map]
  case lower =>
    intro fuel tokens ih
    rw [parseType, parseType, ih]
    cases parseSeparated id .ampersand fuel tokens with
    | error why => rfl
    | ok p => simp [bind, Except.bind, Except.map, pure, Except.pure, TypeRef.map]
  case question =>
    intro fuel tokens hextends hsuper
    rw [parseType, parseType]
    · simp [Except.map, TypeRef.map]
    all_goals assumption
  case arguments =>
    intro fuel owner tokens ih
    rw [parseType, parseType, ih]
    cases parseSeparated id .comma fuel tokens with
    | error why => rfl
    | ok p =>
      obtain ⟨args, rest⟩ := p
      cases rest with
      | nil => rfl
      | cons token rest =>
        cases token with
        | greater =>
          have harrays := arrays_map resolve (.parameterized (.concrete owner) args) rest
          simp only [TypeRef.map, TypeRef.mapList_eq_map] at harrays
          simp only [bind, Except.bind, Except.map, harrays, id]
        | _ => rfl
  case name =>
    intro fuel owner tokens hless
    rw [parseType, parseType]
    · have harrays := arrays_map resolve (.concrete owner) tokens
      simp only [TypeRef.map] at harrays
      simp only [Except.map, harrays, id]
    all_goals assumption
  case other =>
    intro fuel token tail hextends hsuper hquestion hless hname
    rw [parseType, parseType]
    · rfl
    all_goals assumption
  case endedRow =>
    intro separator tokens
    simp only [parseSeparated, Except.map]
  case row =>
    intro separator fuel tokens ihFirst ihOthers
    rw [parseSeparated, parseSeparated, ihFirst]
    cases hfirst : parseType id fuel tokens with
    | error why => rfl
    | ok p =>
      obtain ⟨first, rest⟩ := p
      cases rest with
      | nil => rfl
      | cons token rest =>
        simp only [bind, Except.bind, Except.map]
        split
        · rw [ihOthers]
          cases parseSeparated id separator fuel rest <;> rfl
        · rfl

/-- To resolve names while reading is to read and then resolve them. -/
theorem parseWith_eq_map (source : String) :
    parseWith resolve source = (parse source).map (TypeRef.map resolve) := by
  simp only [parse, parseWith, bind, Except.bind]
  cases tokens source with
  | error why => rfl
  | ok ts =>
    simp only [parseTokens, (parseType_eq_map resolve).1, bind, Except.bind]
    cases parseType id (2 * ts.length + 2) ts with
    | error why => rfl
    | ok p =>
      simp only [Except.map]
      split <;> rfl

end TypeReach.Expression
