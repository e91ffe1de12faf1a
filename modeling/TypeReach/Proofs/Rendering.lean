import TypeReach.Proofs.Grammar

/-!
# Writing references and reading them again

A reference is written with the tokens of its syntax, and blanks may be put around them. Reading
what is written gives the reference back, for the references that can be written: these keep an `&`
away from bounds that it does not belong to.
-/

namespace TypeReach

open Expression Text

mutual

/-- The tokens that a reference is written with. -/
def TypeRef.written : TypeRef String → List Token
  | .absent => []
  | .concrete name => [.name name]
  | .parameterized owner args => owner.written ++ .less :: (writtenRow .comma args ++ [.greater])
  | .wildcard [] [] => [.question]
  | .wildcard (bound :: bounds) _ =>
    .question :: .name "super" :: writtenRow .ampersand (bound :: bounds)
  | .wildcard [] (bound :: bounds) =>
    .question :: .name "extends" :: writtenRow .ampersand (bound :: bounds)
  | .array component => component.written ++ [.array]
  | .unknown _ => []

/-- The tokens of references with a separator between them. -/
def TypeRef.writtenRow (separator : Token) : List (TypeRef String) → List Token
  | [] => []
  | [r] => r.written
  | r :: r' :: rs => r.written ++ separator :: writtenRow separator (r' :: rs)

end

namespace Expression

/-- The references that can be written: owners have names, there are arguments, arrays are not over
wildcards, wildcards are bounded on one side at most, and a bounded wildcard among bounds is the
last of them. -/
inductive Expressible : TypeRef String → Prop
  | plain {name} : IsName name → Expressible (.concrete name)
  | applied {owner args} : IsName owner → args ≠ [] → (∀ r ∈ args, Expressible r) →
      Expressible (.parameterized (.concrete owner) args)
  | array {r} : (∀ lower upper, r ≠ .wildcard lower upper) → Expressible r → Expressible (.array r)
  | wildcard {lower upper} : lower = [] ∨ upper = [] → (∀ r ∈ lower ++ upper, Expressible r) →
      (∀ r ∈ (lower ++ upper).dropLast, ¬ r.IsBounded) → Expressible (.wildcard lower upper)

/-- Tokens with blanks put before, between and behind them, at least one between two names. -/
inductive Rendering : List Token → List Char → Prop
  | done {bs} : Blank bs → Rendering [] bs
  | token {token tokens bs cs} : Blank bs →
      (∀ n m, token = .name n → tokens.head? = some (.name m) → ∃ b ∈ cs.head?, isBlank b = true) →
      Rendering tokens cs → Rendering (token :: tokens) (bs ++ (token.text.toList ++ cs))

section Written

variable {stands : TypeRef String → Prop}

theorem writtenRow_cons (separator : Token) (r : TypeRef String) {rs : List (TypeRef String)}
    (h : rs ≠ []) : TypeRef.writtenRow separator (r :: rs) =
      r.written ++ separator :: TypeRef.writtenRow separator rs := by
  cases rs with
  | nil => exact absurd rfl h
  | cons r' rs => rw [TypeRef.writtenRow]

theorem written_upper {bounds : List (TypeRef String)} (h : bounds ≠ []) :
    (TypeRef.wildcard [] bounds).written =
      .question :: .name "extends" :: TypeRef.writtenRow .ampersand bounds := by
  cases bounds with
  | nil => exact absurd rfl h
  | cons r rs => rw [TypeRef.written]

theorem written_lower {bounds : List (TypeRef String)} (h : bounds ≠ []) :
    (TypeRef.wildcard bounds []).written =
      .question :: .name "super" :: TypeRef.writtenRow .ampersand bounds := by
  cases bounds with
  | nil => exact absurd rfl h
  | cons r rs => rw [TypeRef.written]

theorem written_arrays (r : TypeRef String) (n : Nat) :
    (TypeRef.array^[n] r).written = r.written ++ List.replicate n .array := by
  induction n with
  | zero => simp
  | succ n ih =>
    rw [Function.iterate_succ_apply', TypeRef.written, ih, List.append_assoc,
      List.replicate_succ']

mutual

/-- A reference is written with the tokens that it is derived from. -/
theorem IsType.written_eq : ∀ {tokens : List Token} {r : TypeRef String},
    IsType stands tokens r → r.written = tokens
  | _, _, .unbounded => by rw [TypeRef.written]
  | _, _, .upper hrow => by rw [written_upper hrow.ne_nil, hrow.written_eq]
  | _, _, .lower hrow => by rw [written_lower hrow.ne_nil, hrow.written_eq]
  | _, _, .named n hnamed => by rw [written_arrays, hnamed.written_eq]

theorem IsNamed.written_eq : ∀ {tokens : List Token} {r : TypeRef String},
    IsNamed stands tokens r → r.written = tokens
  | _, _, .plain name => by rw [TypeRef.written]
  | _, _, .applied owner hrow => by
    rw [TypeRef.written, TypeRef.written, hrow.written_eq, List.singleton_append]

theorem IsRow.written_eq : ∀ {separator : Token} {tokens : List Token}
    {rs : List (TypeRef String)}, IsRow stands separator tokens rs →
      TypeRef.writtenRow separator rs = tokens
  | _, _, _, .last htype => by rw [TypeRef.writtenRow, htype.written_eq]
  | _, _, _, .more htype _ hrow => by
    rw [writtenRow_cons _ _ hrow.ne_nil, htype.written_eq, hrow.written_eq]

end

end Written

/-- Every name among tokens can be a name of a text. -/
def Named (tokens : List Token) : Prop := ∀ n, .name n ∈ tokens → IsName n

@[simp] theorem named_nil : Named [] := by
  simp [Named]

@[simp] theorem named_cons {t : Token} {ts : List Token} :
    Named (t :: ts) ↔ (∀ n, t = .name n → IsName n) ∧ Named ts := by
  simp [Named, or_imp, forall_and, eq_comm]

@[simp] theorem named_append {ts us : List Token} :
    Named (ts ++ us) ↔ Named ts ∧ Named us := by
  simp [Named, or_imp, forall_and]

theorem Splits.named {cs : List Char} {tokens : List Token} (h : Splits cs tokens) :
    Named tokens := by
  induction h with
  | done _ => exact named_nil
  | token _ ht _ ih =>
    refine named_cons.2 ⟨?_, ih⟩
    rintro n rfl
    exact ht.1

theorem expressible_arrays {r : TypeRef String} (h : Expressible r)
    (hr : ∀ lower upper, r ≠ .wildcard lower upper) (n : Nat) :
    Expressible (TypeRef.array^[n] r) := by
  induction n generalizing r with
  | zero => exact h
  | succ n ih => exact ih (.array hr h) (by simp)

mutual

/-- What is derived from proper names can be written. -/
theorem IsType.expressible : ∀ {tokens : List Token} {r : TypeRef String},
    IsType NoneOpen tokens r → Named tokens → Expressible r
  | _, _, .unbounded, _ => .wildcard (.inl rfl) (by simp) (by simp)
  | _, _, .upper hrow, hnames => by
    simp only [named_cons] at hnames
    obtain ⟨hall, hopen⟩ := hrow.expressible hnames.2.2
    exact .wildcard (.inl rfl) hall (hopen rfl)
  | _, _, @IsType.lower _ _ bounds hrow, hnames => by
    simp only [named_cons] at hnames
    obtain ⟨hall, hopen⟩ := hrow.expressible hnames.2.2
    have happend : bounds ++ [] = bounds := List.append_nil bounds
    exact .wildcard (.inr rfl) (by rwa [happend]) (by rw [happend]; exact hopen rfl)
  | _, _, .named n hnamed, hnames => by
    refine expressible_arrays (hnamed.expressible (named_append.1 hnames).1) ?_ n
    cases hnamed <;> simp

theorem IsNamed.expressible : ∀ {tokens : List Token} {r : TypeRef String},
    IsNamed NoneOpen tokens r → Named tokens → Expressible r
  | _, _, .plain name, hnames => .plain ((named_cons.1 hnames).1 name rfl)
  | _, _, .applied owner hrow, hnames => by
    simp only [named_cons, named_append] at hnames
    exact .applied (hnames.1 owner rfl) hrow.ne_nil (hrow.expressible hnames.2.2.1).1

theorem IsRow.expressible : ∀ {separator : Token} {tokens : List Token}
    {rs : List (TypeRef String)}, IsRow NoneOpen separator tokens rs → Named tokens →
      (∀ r ∈ rs, Expressible r) ∧
        (separator = .ampersand → ∀ r ∈ rs.dropLast, ¬ r.IsBounded)
  | _, _, _, .last htype, hnames => by
    have hr := htype.expressible hnames
    simpa using hr
  | _, _, _, .more htype hstands hrow, hnames => by
    simp only [named_append, named_cons] at hnames
    have hr := htype.expressible hnames.1
    obtain ⟨hall, hopen⟩ := hrow.expressible hnames.2.2
    refine ⟨List.forall_mem_cons.2 ⟨hr, hall⟩, fun hsep => ?_⟩
    rw [List.dropLast_cons_of_ne_nil hrow.ne_nil]
    exact List.forall_mem_cons.2 ⟨hstands hsep, hopen hsep⟩

end

theorem isRow_written {separator : Token} {rs : List (TypeRef String)} (hne : rs ≠ [])
    (htypes : ∀ r ∈ rs, DerivesInnermost r.written r)
    (hopen : separator = .ampersand → ∀ r ∈ rs.dropLast, ¬ r.IsBounded) :
    IsRow NoneOpen separator (TypeRef.writtenRow separator rs) rs := by
  induction rs with
  | nil => exact absurd rfl hne
  | cons r rs ih =>
    have hr : DerivesInnermost r.written r := htypes r (by simp)
    cases rs with
    | nil =>
      rw [TypeRef.writtenRow]
      exact .last hr
    | cons r' rs =>
      rw [TypeRef.writtenRow]
      refine .more hr (fun hsep => hopen hsep r (by simp)) (ih (by simp) ?_ fun hsep => ?_)
      · exact fun r'' hr'' => htypes r'' (List.mem_cons_of_mem _ hr'')
      · exact fun r'' hr'' => hopen hsep r'' (List.mem_cons_of_mem _ hr'')

theorem IsType.array {stands : TypeRef String → Prop} {tokens : List Token} {r : TypeRef String}
    (h : IsType stands tokens r) (hr : ∀ lower upper, r ≠ .wildcard lower upper) :
    IsType stands (tokens ++ [.array]) (.array r) := by
  cases h with
  | named n hnamed =>
    have htype := IsType.named (n + 1) hnamed
    rwa [Function.iterate_succ_apply', List.replicate_succ', ← List.append_assoc] at htype
  | _ => exact absurd rfl (hr _ _)

/-- What can be written is derived from the tokens that it is written with. -/
theorem Expressible.derives {r : TypeRef String} (h : Expressible r) :
    DerivesInnermost r.written r := by
  induction h with
  | @plain name hname =>
    rw [TypeRef.written]
    exact .named 0 (.plain name)
  | @applied owner args hname hne _ ih =>
    have hrow : IsRow NoneOpen .comma (TypeRef.writtenRow .comma args) args :=
      isRow_written hne ih (by simp)
    rw [TypeRef.written, TypeRef.written, ← List.append_nil (_ ++ _)]
    exact .named 0 (.applied owner hrow)
  | @array r hr _ ih =>
    rw [TypeRef.written]
    exact ih.array hr
  | @wildcard lower upper hside _ hopen ih =>
    rcases hside with rfl | rfl
    · cases upper with
      | nil =>
        rw [TypeRef.written]
        exact .unbounded
      | cons r rs =>
        rw [written_upper (by simp)]
        exact .upper (isRow_written (by simp) ih fun _ => hopen)
    · rw [List.append_nil] at ih hopen
      cases lower with
      | nil =>
        rw [TypeRef.written]
        exact .unbounded
      | cons r rs =>
        rw [written_lower (by simp)]
        exact .lower (isRow_written (by simp) ih fun _ => hopen)

theorem named_writtenRow (separator : Token) (hsep : ∀ n, separator ≠ .name n)
    {rs : List (TypeRef String)} (h : ∀ r ∈ rs, Named r.written) :
    Named (TypeRef.writtenRow separator rs) := by
  induction rs with
  | nil => simp [TypeRef.writtenRow]
  | cons r rs ih =>
    obtain ⟨hr, hrs⟩ := List.forall_mem_cons.1 h
    cases rs with
    | nil => rwa [TypeRef.writtenRow]
    | cons r' rs =>
      rw [TypeRef.writtenRow]
      simp [hr, hsep, ih hrs]

theorem isName_extends : IsName "extends" :=
  ⟨'e', ['x', 't', 'e', 'n', 'd', 's'], rfl, by decide, List.all_eq_true.1 (by decide)⟩

theorem isName_super : IsName "super" :=
  ⟨'s', ['u', 'p', 'e', 'r'], rfl, by decide, List.all_eq_true.1 (by decide)⟩

theorem Expressible.named {r : TypeRef String} (h : Expressible r) : Named r.written := by
  induction h with
  | plain hname => simpa [TypeRef.written] using hname
  | applied hname _ _ ih =>
    have hrow := named_writtenRow .comma (by simp) ih
    simpa [TypeRef.written, hrow] using hname
  | array _ _ ih => simpa [TypeRef.written] using ih
  | @wildcard lower upper hside _ _ ih =>
    have hrow := named_writtenRow .ampersand (by simp) ih
    rcases hside with rfl | rfl
    · cases upper with
      | nil => simp [TypeRef.written]
      | cons r rs => simpa [TypeRef.written, isName_extends] using hrow
    · cases lower with
      | nil => simp [TypeRef.written]
      | cons r rs => simpa [TypeRef.written, isName_super] using hrow

theorem Token.exists_of_sign {token : Token} (h : ∀ n, token ≠ .name n) :
    ∃ c cs, token.text.toList = c :: cs ∧ isNamePart c = false := by
  cases token with
  | name n => exact absurd rfl (h n)
  | array => exact ⟨'[', [']'], rfl, by decide⟩
  | less => exact ⟨'<', [], rfl, by decide⟩
  | greater => exact ⟨'>', [], rfl, by decide⟩
  | comma => exact ⟨',', [], rfl, by decide⟩
  | question => exact ⟨'?', [], rfl, by decide⟩
  | ampersand => exact ⟨'&', [], rfl, by decide⟩

/-- Only a name can stand in front of a text that begins with what a name could go on with. -/
theorem Rendering.head?_of_isNamePart {tokens : List Token} {cs : List Char}
    (h : Rendering tokens cs) {c : Char} (hc : c ∈ cs.head?) (hpart : isNamePart c = true) :
    ∃ n, tokens.head? = some (.name n) := by
  have hblank : ∀ {bs : List Char}, Blank bs → c ∉ bs := fun hb hmem => by
    rw [isNamePart_of_isBlank (hb c hmem)] at hpart
    cases hpart
  cases h with
  | done hb => exact absurd (List.mem_of_head? hc) (hblank hb)
  | @token token tokens bs cs hb _ _ =>
    cases bs with
    | cons b bs =>
      obtain rfl : b = c := Option.some.inj hc
      exact absurd (List.mem_cons_self) (hblank hb)
    | nil =>
      by_contra hnone
      have hsign : ∀ n, token ≠ .name n := by
        rintro n rfl
        exact hnone ⟨n, rfl⟩
      obtain ⟨d, ds, htext, hd⟩ := Token.exists_of_sign hsign
      rw [htext] at hc
      obtain rfl : d = c := Option.some.inj hc
      rw [hd] at hpart
      cases hpart

/-- Tokens with blanks around them split into these tokens again, as long as no names touch. -/
theorem Rendering.splits {tokens : List Token} {cs : List Char} (h : Rendering tokens cs)
    (hnames : Named tokens) : Splits cs tokens := by
  induction h with
  | done hb => exact .done hb
  | @token token tokens bs cs hb hapart hcs ih =>
    obtain ⟨hname, htokens⟩ := named_cons.1 hnames
    refine .token hb ?_ (ih htokens)
    cases token with
    | name n =>
      refine ⟨hname n rfl, fun c hc => ?_⟩
      by_contra hpart
      rw [Bool.not_eq_false] at hpart
      obtain ⟨m, hm⟩ := hcs.head?_of_isNamePart hc hpart
      obtain ⟨b, hhead, hblank⟩ := hapart n m rfl hm
      obtain rfl : b = c := Option.mem_unique hhead hc
      rw [isNamePart_of_isBlank hblank] at hpart
      cases hpart
    | _ => trivial

/-- The tokens with one blank behind each. -/
def spelled (tokens : List Token) : List Char :=
  tokens.flatMap fun token => token.text.toList ++ [' ']

theorem rendering_spelled (tokens : List Token) : Rendering tokens (spelled tokens) := by
  suffices h : ∀ bs, Blank bs → Rendering tokens (bs ++ spelled tokens) from h [] (by simp [Blank])
  induction tokens with
  | nil =>
    intro bs hb
    rw [spelled, List.flatMap_nil, List.append_nil]
    exact .done hb
  | cons token tokens ih =>
    intro bs hb
    have hrest : Rendering tokens (' ' :: spelled tokens) := ih [' '] (by simp [Blank]; decide)
    have hall : Rendering (token :: tokens) (bs ++ (token.text.toList ++ ' ' :: spelled tokens)) :=
      .token hb (fun _ _ _ _ => ⟨' ', rfl, by decide⟩) hrest
    simpa [spelled] using hall

/-- What can be written is read from each of its renderings. -/
theorem Expressible.parse_eq_ok {r : TypeRef String} (h : Expressible r) {text : String}
    (ht : Rendering r.written text.toList) : parse text = .ok r :=
  parse_eq_ok_iff.2 ⟨r.written, ht.splits h.named, h.derives⟩

theorem expressible_of_parse {source : String} {r : TypeRef String} (h : parse source = .ok r) :
    Expressible r := by
  obtain ⟨tokens, hsplits, hderives⟩ := parse_eq_ok_iff.1 h
  exact IsType.expressible hderives hsplits.named

/-- Reading whatever a reference is written as gives back the reference that was read before, and
what is read are exactly the references that can be written. -/
theorem parse_rendering :
    (∀ source r text, parse source = .ok r → Rendering r.written text.toList →
      parse text = .ok r) ∧
    (∀ r, (∃ source, parse source = .ok r) ↔ Expressible r) := by
  refine ⟨fun source r text h ht => (expressible_of_parse h).parse_eq_ok ht, fun r => ?_⟩
  constructor
  · rintro ⟨source, h⟩
    exact expressible_of_parse h
  · intro h
    have hspelled := rendering_spelled r.written
    rw [← String.toList_ofList (l := spelled r.written)] at hspelled
    exact ⟨_, h.parse_eq_ok hspelled⟩

theorem parse_rendering_super :
    parse "? super A" = .ok (.wildcard [.concrete "A"] []) ∧
      Rendering (TypeRef.wildcard [.concrete "A"] []).written "\t?super  A ".toList ∧
      parse "\t?super  A " = .ok (.wildcard [.concrete "A"] []) := by
  have hparse : parse "? super A" = .ok (.wildcard [.concrete "A"] []) := by decide +kernel
  have hA : Rendering [.name "A"] ([' ', ' '] ++ ("A".toList ++ [' '])) :=
    .token (by decide) (by simp) (.done (by decide))
  have hsuper : Rendering [.name "super", .name "A"]
      ([] ++ ("super".toList ++ ([' ', ' '] ++ ("A".toList ++ [' '])))) :=
    .token (by decide) (fun _ _ _ _ => ⟨' ', rfl, by decide⟩) hA
  have hrendering : Rendering (TypeRef.wildcard [.concrete "A"] []).written
      "\t?super  A ".toList :=
    @Rendering.token .question _ ['\t'] _ (by decide) (by simp) hsuper
  exact ⟨hparse, hrendering, parse_rendering.1 _ _ _ hparse hrendering⟩

end Expression

end TypeReach
