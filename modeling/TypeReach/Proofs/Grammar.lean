import Mathlib.Logic.Function.Iterate
import TypeReach.Proofs.Answers
import TypeReach.Proofs.Resolving
import TypeReach.Proofs.Splitting

/-!
# The grammar of type expressions

What can be derived from the grammar, with the reference of each derivation. Bounds that stand
inside bounds make it ambiguous: an `&` behind them may belong to either. The reader accepts all
that can be derived, and gives the reference of the derivation in which each `&` belongs to the
innermost bounds that are open.
-/

namespace TypeReach

/-- A wildcard with bounds, which are still open behind it. -/
def TypeRef.IsBounded {δ : Type} : TypeRef δ → Prop
  | .wildcard lower upper => lower ≠ [] ∨ upper ≠ []
  | _ => False

namespace Expression

mutual

/-- Tokens that are a type. In bounds only types for which `stands` holds are in front of an `&`. -/
inductive IsType (stands : TypeRef String → Prop) : List Token → TypeRef String → Prop
  | unbounded : IsType stands [.question] (.wildcard [] [])
  | upper {tokens bounds} : IsRow stands .ampersand tokens bounds →
      IsType stands (.question :: .name "extends" :: tokens) (.wildcard [] bounds)
  | lower {tokens bounds} : IsRow stands .ampersand tokens bounds →
      IsType stands (.question :: .name "super" :: tokens) (.wildcard bounds [])
  | named {tokens r} (n : Nat) : IsNamed stands tokens r →
      IsType stands (tokens ++ List.replicate n .array) (TypeRef.array^[n] r)

/-- Tokens that are a name, or a name with arguments. -/
inductive IsNamed (stands : TypeRef String → Prop) : List Token → TypeRef String → Prop
  | plain (name : String) : IsNamed stands [.name name] (.concrete name)
  | applied {tokens args} (owner : String) : IsRow stands .comma tokens args →
      IsNamed stands (.name owner :: .less :: (tokens ++ [.greater]))
        (.parameterized (.concrete owner) args)

/-- Tokens that are types with a separator between them. -/
inductive IsRow (stands : TypeRef String → Prop) :
    Token → List Token → List (TypeRef String) → Prop
  | last {separator tokens r} : IsType stands tokens r → IsRow stands separator tokens [r]
  | more {separator first others r rs} : IsType stands first r →
      (separator = .ampersand → stands r) → IsRow stands separator others rs →
      IsRow stands separator (first ++ separator :: others) (r :: rs)

end

/-- Tokens that can be derived as a type, with the reference of a derivation. -/
def Derives : List Token → TypeRef String → Prop :=
  IsType fun _ => True

/-- No bounds are open behind a type. -/
abbrev NoneOpen (r : TypeRef String) : Prop := ¬ r.IsBounded

/-- A derivation in which each `&` belongs to the innermost bounds that are open: an `&` of outer
bounds has no bounds in front of it that could go on with it. -/
def DerivesInnermost : List Token → TypeRef String → Prop :=
  IsType NoneOpen

/-- A text that splits into tokens from which a type can be derived. -/
def Grammatical (source : String) : Prop :=
  ∃ tokens r, Splits source.toList tokens ∧ Derives tokens r

section

variable {δ : Type}

theorem not_isBounded_arrays {r : TypeRef δ} (h : ¬ r.IsBounded) (n : Nat) :
    ¬ (TypeRef.array^[n] r).IsBounded := by
  cases n with
  | zero => exact h
  | succ n =>
    rw [Function.iterate_succ_apply']
    exact id

theorem exists_of_arrays_eq {r r' : TypeRef δ} {tokens rest : List Token}
    (h : arrays r tokens = (r', rest)) :
    ∃ n, tokens = List.replicate n .array ++ rest ∧ r' = TypeRef.array^[n] r := by
  fun_induction arrays r tokens with
  | case1 r tokens ih =>
    obtain ⟨n, htokens, hr⟩ := ih h
    exact ⟨n + 1, by rw [htokens]; rfl, hr⟩
  | case2 r tokens =>
    cases h
    exact ⟨0, rfl, rfl⟩

theorem arrays_replicate (r : TypeRef δ) (n : Nat) {rest : List Token}
    (h : rest.head? ≠ some .array) :
    arrays r (List.replicate n .array ++ rest) = (TypeRef.array^[n] r, rest) := by
  induction n generalizing r with
  | zero =>
    refine arrays.eq_2 r rest fun rest' hrest => h ?_
    rw [hrest]
    rfl
  | succ n ih => exact ih (.array r)

end

/-- What is read from the front of tokens is derived from what was taken off. What is left goes on
neither with a row nor with bounds. -/
theorem derives_of_parsed :
    (∀ fuel tokens, ∀ r rest, parseType id fuel tokens = .ok (r, rest) →
      (∃ used, tokens = used ++ rest ∧ DerivesInnermost used r) ∧
        (r.IsBounded → rest.head? ≠ some .ampersand)) ∧
    ∀ separator fuel tokens, ∀ rs rest, parseSeparated id separator fuel tokens = .ok (rs, rest) →
      (∃ used, tokens = used ++ rest ∧ IsRow NoneOpen separator used rs) ∧
        rest.head? ≠ some separator := by
  -- Along the recursion of the reader. That bounds do not go on is what lets an outer `&` stand.
  refine parseType.mutual_induct
    (fun fuel tokens => ∀ r rest, parseType id fuel tokens = .ok (r, rest) →
      (∃ used, tokens = used ++ rest ∧ DerivesInnermost used r) ∧
        (r.IsBounded → rest.head? ≠ some .ampersand))
    (fun separator fuel tokens => ∀ rs rest,
      parseSeparated id separator fuel tokens = .ok (rs, rest) →
      (∃ used, tokens = used ++ rest ∧ IsRow NoneOpen separator used rs) ∧
        rest.head? ≠ some separator)
    ?ended ?empty ?upper ?lower ?question ?arguments ?name ?other ?endedRow ?row
  case ended =>
    intro tokens r rest h
    simp [parseType] at h
  case empty =>
    intro fuel r rest h
    simp [parseType] at h
  case upper =>
    intro fuel tokens ih r rest h
    rw [parseType] at h
    obtain ⟨⟨bounds, rest'⟩, hb, hr⟩ := exists_of_bind_eq_ok h
    cases hr
    obtain ⟨⟨used, rfl, hrow⟩, hrest⟩ := ih _ _ hb
    exact ⟨⟨_, rfl, .upper hrow⟩, fun _ => hrest⟩
  case lower =>
    intro fuel tokens ih r rest h
    rw [parseType] at h
    obtain ⟨⟨bounds, rest'⟩, hb, hr⟩ := exists_of_bind_eq_ok h
    cases hr
    obtain ⟨⟨used, rfl, hrow⟩, hrest⟩ := ih _ _ hb
    exact ⟨⟨_, rfl, .lower hrow⟩, fun _ => hrest⟩
  case question =>
    intro fuel tokens hextends hsuper r rest h
    rw [parseType] at h
    · cases h
      refine ⟨⟨[.question], rfl, .unbounded⟩, fun hbounded => ?_⟩
      simp [TypeRef.IsBounded] at hbounded
    · exact hextends
    · exact hsuper
  case arguments =>
    intro fuel owner tokens ih r rest h
    rw [parseType] at h
    obtain ⟨⟨args, rest'⟩, ha, hr⟩ := exists_of_bind_eq_ok h
    obtain ⟨⟨used, htokens, hrow⟩, -⟩ := ih _ _ ha
    cases rest' with
    | nil => simp at hr
    | cons token rest' =>
      cases token with
      | greater =>
        obtain ⟨n, rfl, rfl⟩ := exists_of_arrays_eq (Except.ok.inj hr)
        refine ⟨⟨_, ?_, .named n (.applied owner hrow)⟩, fun hbounded => ?_⟩
        · rw [htokens]
          simp
        · exact absurd hbounded (not_isBounded_arrays id n)
      | _ => simp at hr
  case name =>
    intro fuel owner tokens hless r rest h
    rw [parseType] at h
    · obtain ⟨n, rfl, rfl⟩ := exists_of_arrays_eq (Except.ok.inj h)
      refine ⟨⟨_, ?_, .named n (.plain owner)⟩, fun hbounded => ?_⟩
      · simp
      · exact absurd hbounded (not_isBounded_arrays id n)
    · exact hless
  case other =>
    intro fuel token tail hextends hsuper hquestion hless hname r rest h
    rw [parseType] at h
    · simp at h
    · exact hextends
    · exact hsuper
    · exact hquestion
    · exact hless
    · exact hname
  case endedRow =>
    intro separator tokens rs rest h
    simp [parseSeparated] at h
  case row =>
    intro separator fuel tokens ihFirst ihOthers rs rest h
    rw [parseSeparated] at h
    obtain ⟨⟨first, rest'⟩, hf, hr⟩ := exists_of_bind_eq_ok h
    obtain ⟨⟨used, htokens, htype⟩, hopen⟩ := ihFirst _ _ hf
    cases rest' with
    | nil =>
      cases hr
      exact ⟨⟨used, htokens, .last htype⟩, by simp⟩
    | cons token rest' =>
      simp only at hr
      split at hr
      · next heq =>
        subst heq
        obtain ⟨⟨others, rest''⟩, ho, hr⟩ := exists_of_bind_eq_ok hr
        cases hr
        obtain ⟨⟨used', rfl, hrow⟩, hrest⟩ := ihOthers _ _ _ ho
        refine ⟨⟨used ++ token :: used', ?_, .more htype ?_ hrow⟩, hrest⟩
        · rw [htokens]
          simp
        · rintro rfl hbounded
          exact hopen hbounded rfl
      · next hne =>
        cases hr
        exact ⟨⟨used, htokens, .last htype⟩, by simpa using hne⟩

theorem IsRow.ne_nil {stands : TypeRef String → Prop} {separator : Token} {tokens : List Token}
    {rs : List (TypeRef String)} (h : IsRow stands separator tokens rs) : rs ≠ [] := by
  cases h <;> simp

/-- What may stand behind a type. -/
def Ends (rest : List Token) : Prop :=
  ∀ token ∈ rest.head?, token = .comma ∨ token = .greater ∨ token = .ampersand

theorem Ends.head?_ne {rest : List Token} (h : Ends rest) {token : Token}
    (ht : token ≠ .comma ∧ token ≠ .greater ∧ token ≠ .ampersand) : rest.head? ≠ some token := by
  intro hhead
  rcases h token hhead with heq | heq | heq
  · exact ht.1 heq
  · exact ht.2.1 heq
  · exact ht.2.2 heq

theorem ends_nil : Ends [] := by
  simp [Ends]

theorem ends_greater (rest : List Token) : Ends (.greater :: rest) := by
  simp [Ends]

mutual

/-- Enough fuel reads a derived type in front of anything that does not go on with it. -/
theorem parseType_of_isType : ∀ {tokens : List Token} {r : TypeRef String},
    IsType NoneOpen tokens r → ∀ (fuel : Nat) {rest : List Token}, Ends rest →
      (r.IsBounded → rest.head? ≠ some .ampersand) → 2 * tokens.length ≤ fuel →
      parseType id fuel (tokens ++ rest) = .ok (r, rest)
  | _, _, .unbounded, fuel, rest, hends, _, hfuel => by
    obtain ⟨fuel, rfl⟩ : ∃ n, fuel = n + 1 := ⟨fuel - 1, by simp at hfuel; omega⟩
    have hno (name : String) : rest.head? ≠ some (.name name) := hends.head?_ne (by simp)
    rw [List.singleton_append, parseType]
    · rintro rest' rfl
      exact hno "extends" rfl
    · rintro rest' rfl
      exact hno "super" rfl
  | _, _, .upper hrow, fuel, rest, hends, hopen, hfuel => by
    obtain ⟨fuel, rfl⟩ : ∃ n, fuel = n + 1 := ⟨fuel - 1, by simp at hfuel; omega⟩
    simp only [List.length_cons] at hfuel
    have hrest := hopen (.inr hrow.ne_nil)
    have hbounds := parseSeparated_of_isRow hrow (.inr rfl) fuel hends hrest hrest (by omega)
    rw [List.cons_append, List.cons_append, parseType, hbounds]
    rfl
  | _, _, .lower hrow, fuel, rest, hends, hopen, hfuel => by
    obtain ⟨fuel, rfl⟩ : ∃ n, fuel = n + 1 := ⟨fuel - 1, by simp at hfuel; omega⟩
    simp only [List.length_cons] at hfuel
    have hrest := hopen (.inl hrow.ne_nil)
    have hbounds := parseSeparated_of_isRow hrow (.inr rfl) fuel hends hrest hrest (by omega)
    rw [List.cons_append, List.cons_append, parseType, hbounds]
    rfl
  | _, _, .named n hnamed, fuel, rest, hends, _, hfuel => by
    rw [List.append_assoc]
    refine parseType_of_isNamed hnamed n fuel hends ?_
    simp only [List.length_append] at hfuel
    omega

theorem parseType_of_isNamed : ∀ {tokens : List Token} {r : TypeRef String},
    IsNamed NoneOpen tokens r → ∀ (n fuel : Nat) {rest : List Token},
      Ends rest → 2 * tokens.length ≤ fuel →
      parseType id fuel (tokens ++ (List.replicate n .array ++ rest)) =
        .ok (TypeRef.array^[n] r, rest)
  | _, _, .plain name, n, fuel, rest, hends, hfuel => by
    obtain ⟨fuel, rfl⟩ : ∃ n, fuel = n + 1 := ⟨fuel - 1, by simp at hfuel; omega⟩
    have harray : rest.head? ≠ some .array := hends.head?_ne (by simp)
    have hless : (List.replicate n Token.array ++ rest).head? ≠ some .less := by
      cases n with
      | zero => exact hends.head?_ne (by simp)
      | succ n => simp [List.replicate_succ]
    rw [List.singleton_append, parseType, arrays_replicate _ n harray, id]
    intro rest' heq
    rw [heq] at hless
    exact hless rfl
  | _, _, .applied owner hrow, n, fuel, rest, hends, hfuel => by
    obtain ⟨fuel, rfl⟩ : ∃ n, fuel = n + 1 := ⟨fuel - 1, by simp at hfuel; omega⟩
    simp only [List.length_cons, List.length_append] at hfuel
    have harray : rest.head? ≠ some .array := hends.head?_ne (by simp)
    have hargs := parseSeparated_of_isRow hrow (.inl rfl) fuel
      (ends_greater (List.replicate n .array ++ rest)) (by simp) (by simp) (by omega)
    simp only [List.cons_append, List.append_assoc, List.nil_append, parseType, hargs]
    simp only [bind, Except.bind, id, arrays_replicate _ n harray]

theorem parseSeparated_of_isRow : ∀ {separator : Token} {tokens : List Token}
    {rs : List (TypeRef String)}, IsRow NoneOpen separator tokens rs →
      separator = .comma ∨ separator = .ampersand → ∀ (fuel : Nat) {rest : List Token},
      Ends rest → rest.head? ≠ some separator → rest.head? ≠ some .ampersand →
      2 * tokens.length + 1 ≤ fuel →
      parseSeparated id separator fuel (tokens ++ rest) = .ok (rs, rest)
  | separator, _, _, .last htype, _, fuel, rest, hends, hsep, hamp, hfuel => by
    obtain ⟨fuel, rfl⟩ : ∃ n, fuel = n + 1 := ⟨fuel - 1, by omega⟩
    have hfirst := parseType_of_isType htype fuel hends (fun _ => hamp) (by omega)
    rw [parseSeparated, hfirst]
    cases rest with
    | nil => rfl
    | cons token rest =>
      have hne : token ≠ separator := fun heq => hsep (by rw [heq]; rfl)
      simp only [bind, Except.bind, hne, if_false]
      rfl
  | separator, _, _, @IsRow.more _ _ first others _ _ htype hstands hrow, hkind, fuel, rest, hends,
      hsep, hamp, hfuel => by
    obtain ⟨fuel, rfl⟩ : ∃ n, fuel = n + 1 := ⟨fuel - 1, by omega⟩
    simp only [List.length_append, List.length_cons] at hfuel
    have hends' : Ends (separator :: (others ++ rest)) := by
      rcases hkind with rfl | rfl <;> simp [Ends]
    have hfirst := parseType_of_isType htype fuel hends'
      (fun hbounded heq => hstands (Option.some.inj heq) hbounded) (by omega)
    have hothers := parseSeparated_of_isRow hrow hkind fuel hends hsep hamp (by omega)
    rw [List.append_assoc, List.cons_append, parseSeparated, hfirst]
    simp only [bind, Except.bind, if_true, hothers]
    rfl

end

/-- Tokens are read as the reference of the innermost derivation. -/
theorem parseTokens_eq_ok_iff {tokens : List Token} {r : TypeRef String} :
    parseTokens id tokens = .ok r ↔ DerivesInnermost tokens r := by
  constructor
  · intro h
    obtain ⟨⟨r', rest⟩, hr, h⟩ := exists_of_bind_eq_ok h
    simp only at h
    split at h
    · next hempty =>
      cases h
      obtain rfl : rest = [] := List.isEmpty_iff.1 hempty
      obtain ⟨⟨used, rfl, hused⟩, -⟩ := derives_of_parsed.1 _ _ _ _ hr
      rwa [List.append_nil]
    · cases h
  · intro h
    have hparse := parseType_of_isType h (2 * tokens.length + 2) ends_nil (by simp) (by omega)
    rw [List.append_nil] at hparse
    rw [parseTokens, hparse]
    rfl

mutual

/-- Bounds that are open at the end of a type go on with what stands behind an `&`. -/
theorem IsType.extend : ∀ {tokens : List Token} {r : TypeRef String},
    IsType NoneOpen tokens r → r.IsBounded → ∀ {others : List Token}
      {rs : List (TypeRef String)}, IsRow NoneOpen .ampersand others rs →
      ∃ r', IsType NoneOpen (tokens ++ .ampersand :: others) r'
  | _, _, .unbounded, hbounded, _, _, _ => by simp [TypeRef.IsBounded] at hbounded
  | _, _, .upper hrow, _, _, _, hothers => by
    obtain ⟨bounds, hbounds⟩ := hrow.extend rfl hothers
    exact ⟨.wildcard [] bounds, .upper hbounds⟩
  | _, _, .lower hrow, _, _, _, hothers => by
    obtain ⟨bounds, hbounds⟩ := hrow.extend rfl hothers
    exact ⟨.wildcard bounds [], .lower hbounds⟩
  | _, _, .named n hnamed, hbounded, _, _, _ => by
    refine absurd hbounded (not_isBounded_arrays ?_ n)
    cases hnamed <;> exact id

theorem IsRow.extend : ∀ {separator : Token} {tokens : List Token} {rs : List (TypeRef String)},
    IsRow NoneOpen separator tokens rs → separator = .ampersand →
      ∀ {others : List Token} {rs' : List (TypeRef String)},
      IsRow NoneOpen .ampersand others rs' →
      ∃ bounds, IsRow NoneOpen .ampersand (tokens ++ .ampersand :: others) bounds
  | _, _, _, @IsRow.last _ _ _ r htype, _, _, rs', hothers => by
    by_cases hbounded : r.IsBounded
    · obtain ⟨r', hr'⟩ := htype.extend hbounded hothers
      exact ⟨[r'], .last hr'⟩
    · exact ⟨r :: rs', .more htype (fun _ => hbounded) hothers⟩
  | _, _, _, @IsRow.more _ _ _ _ r _ htype hstands hrow, hsep, _, _, hothers => by
    subst hsep
    obtain ⟨bounds, hbounds⟩ := hrow.extend rfl hothers
    refine ⟨r :: bounds, ?_⟩
    rw [List.append_assoc, List.cons_append]
    exact .more htype hstands hbounds

end

mutual

/-- What can be derived at all has a derivation in which each `&` belongs to the innermost bounds
that are open. -/
theorem IsType.innermost {stands : TypeRef String → Prop} : ∀ {tokens : List Token}
    {r : TypeRef String}, IsType stands tokens r →
      ∃ r', IsType NoneOpen tokens r'
  | _, _, .unbounded => ⟨_, .unbounded⟩
  | _, _, .upper hrow => by
    obtain ⟨bounds, hbounds⟩ := hrow.innermost
    exact ⟨.wildcard [] bounds, .upper hbounds⟩
  | _, _, .lower hrow => by
    obtain ⟨bounds, hbounds⟩ := hrow.innermost
    exact ⟨.wildcard bounds [], .lower hbounds⟩
  | _, _, .named n hnamed => by
    obtain ⟨r, hr⟩ := hnamed.innermost
    exact ⟨_, .named n hr⟩

theorem IsNamed.innermost {stands : TypeRef String → Prop} : ∀ {tokens : List Token}
    {r : TypeRef String}, IsNamed stands tokens r →
      ∃ r', IsNamed NoneOpen tokens r'
  | _, _, .plain name => ⟨_, .plain name⟩
  | _, _, .applied owner hrow => by
    obtain ⟨args, hargs⟩ := hrow.innermost
    exact ⟨.parameterized (.concrete owner) args, .applied owner hargs⟩

theorem IsRow.innermost {stands : TypeRef String → Prop} : ∀ {separator : Token}
    {tokens : List Token} {rs : List (TypeRef String)}, IsRow stands separator tokens rs →
      ∃ rs', IsRow NoneOpen separator tokens rs'
  | _, _, _, .last htype => by
    obtain ⟨r, hr⟩ := htype.innermost
    exact ⟨[r], .last hr⟩
  | separator, _, _, .more htype _ hrow => by
    obtain ⟨r, hr⟩ := htype.innermost
    obtain ⟨rs, hrs⟩ := hrow.innermost
    -- An `&` behind open bounds belongs to these, whatever it belonged to before.
    by_cases hmoves : separator = .ampersand ∧ r.IsBounded
    · obtain ⟨rfl, hbounded⟩ := hmoves
      obtain ⟨r', hr'⟩ := hr.extend hbounded hrs
      exact ⟨[r'], .last hr'⟩
    · exact ⟨r :: rs, .more hr (fun hsep hbounded => hmoves ⟨hsep, hbounded⟩) hrs⟩

end

mutual

theorem IsType.derives {stands : TypeRef String → Prop} : ∀ {tokens : List Token}
    {r : TypeRef String}, IsType stands tokens r → Derives tokens r
  | _, _, .unbounded => .unbounded
  | _, _, .upper hrow => .upper hrow.derives
  | _, _, .lower hrow => .lower hrow.derives
  | _, _, .named n hnamed => .named n hnamed.derives

theorem IsNamed.derives {stands : TypeRef String → Prop} : ∀ {tokens : List Token}
    {r : TypeRef String}, IsNamed stands tokens r → IsNamed (fun _ => True) tokens r
  | _, _, .plain name => .plain name
  | _, _, .applied owner hrow => .applied owner hrow.derives

theorem IsRow.derives {stands : TypeRef String → Prop} : ∀ {separator : Token}
    {tokens : List Token} {rs : List (TypeRef String)}, IsRow stands separator tokens rs →
      IsRow (fun _ => True) separator tokens rs
  | _, _, _, .last htype => .last htype.derives
  | _, _, _, .more htype _ hrow => .more htype.derives (fun _ => trivial) hrow.derives

end

theorem IsType.ne_nil {stands : TypeRef String → Prop} {tokens : List Token} {r : TypeRef String}
    (h : IsType stands tokens r) : tokens ≠ [] := by
  cases h with
  | named n hnamed => cases hnamed <;> simp
  | _ => simp

/-- An expression is read as the reference of the innermost derivation from its tokens. -/
theorem parse_eq_ok_iff {source : String} {r : TypeRef String} :
    parse source = .ok r ↔
      ∃ tokens, Splits source.toList tokens ∧ DerivesInnermost tokens r := by
  constructor
  · intro h
    obtain ⟨ts, hts, h⟩ := exists_of_bind_eq_ok h
    exact ⟨ts, (tokens_eq_ok_iff.1 hts).1, parseTokens_eq_ok_iff.1 h⟩
  · rintro ⟨ts, hsplits, hderives⟩
    have hts : tokens source = .ok ts := tokens_eq_ok_iff.2 ⟨hsplits, hderives.ne_nil⟩
    rw [parse, parseWith, hts]
    exact parseTokens_eq_ok_iff.2 hderives

/-- What can be derived is read. -/
theorem exists_parse_iff {source : String} :
    (∃ r, parse source = .ok r) ↔ Grammatical source := by
  constructor
  · rintro ⟨r, hr⟩
    obtain ⟨ts, hsplits, hderives⟩ := parse_eq_ok_iff.1 hr
    exact ⟨ts, r, hsplits, hderives.derives⟩
  · rintro ⟨ts, r, hsplits, hderives⟩
    obtain ⟨r', hr'⟩ := hderives.innermost
    exact ⟨r', parse_eq_ok_iff.2 ⟨ts, hsplits, hr'⟩⟩

theorem parse_eq_error_iff {source : String} :
    (∃ why, parse source = .error why) ↔ ¬ Grammatical source := by
  rw [← exists_parse_iff]
  cases parse source <;> simp

/-- Whatever names are resolved to, exactly what can be derived from the grammar is read, as the
innermost derivation with its names resolved, and every other text is not usable. -/
theorem read_accepts_grammar {δ : Type} (resolve : String → δ) (source : String) :
    ((∃ r, read resolve source = .ok r) ↔ Grammatical source) ∧
    (∀ r, read resolve source = .ok r ↔ ∃ tokens names, Splits source.toList tokens ∧
      DerivesInnermost tokens names ∧ names.map resolve = r) ∧
    ((∃ why, read resolve source = .error (.unusable (ParseError.message source why))) ↔
      ¬ Grammatical source) := by
  have hread : read resolve source = ((parse source).map (TypeRef.map resolve)).mapError
      fun why => .unusable (why.message source) := by
    rw [read, parseWith_eq_map]
  have hok : ∀ r, read resolve source = .ok r ↔
      ∃ names, parse source = .ok names ∧ names.map resolve = r := by
    intro r
    rw [hread]
    cases parse source <;> simp [Except.map, Except.mapError]
  refine ⟨?accepted, ?reference, ?refused⟩
  case accepted =>
    rw [← exists_parse_iff]
    simp only [hok]
    exact ⟨fun ⟨_, names, hnames, _⟩ => ⟨names, hnames⟩, fun ⟨names, hnames⟩ =>
      ⟨_, names, hnames, rfl⟩⟩
  case reference =>
    intro r
    simp only [hok, parse_eq_ok_iff]
    exact ⟨fun ⟨names, ⟨ts, hs, hd⟩, hr⟩ => ⟨ts, names, hs, hd, hr⟩, fun ⟨ts, names, hs, hd, hr⟩ =>
      ⟨names, ⟨ts, hs, hd⟩, hr⟩⟩
  case refused =>
    rw [← parse_eq_error_iff, hread]
    cases parse source with
    | ok names => simp [Except.map, Except.mapError]
    | error why => exact ⟨fun _ => ⟨why, rfl⟩, fun _ => ⟨why, rfl⟩⟩

example : parse "? extends ? super A & B" =
    .ok (.wildcard [] [.wildcard [.concrete "A", .concrete "B"] []]) := by
  decide +kernel

end Expression

end TypeReach
