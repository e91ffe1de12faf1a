import Mathlib.Data.List.TakeWhile
import TypeReach.Expression.Token

/-!
# How a text splits into tokens

A text splits into tokens with blanks before, between and behind them, where a name is taken as long
as possible. The tokens of an expression are those into which it splits, if there are any.
-/

namespace TypeReach

namespace Text

theorem toNat_mem_of_isBlank {c : Char} (h : isBlank c = true) :
    c.toNat ∈ List.range' 0x9 5 ++ List.range' 0x1C 5 ++ List.range' 0x2000 11 ++
      [0x85, 0xA0, 0x1680, 0x2028, 0x2029, 0x202F, 0x205F, 0x3000] := by
  simp only [isBlank, Bool.or_eq_true, Bool.and_eq_true, decide_eq_true_eq,
    List.contains_iff_mem] at h
  simp only [List.mem_cons, List.not_mem_nil, or_false] at h
  simp only [List.mem_append, List.mem_range'_1, List.mem_cons, List.not_mem_nil, or_false]
  omega

theorem isNamePart_of_isBlank {c : Char} (h : isBlank c = true) : isNamePart c = false := by
  have hall : ∀ n ∈ List.range' 0x9 5 ++ List.range' 0x1C 5 ++ List.range' 0x2000 11 ++
      [0x85, 0xA0, 0x1680, 0x2028, 0x2029, 0x202F, 0x205F, 0x3000],
      isNamePart (Char.ofNat n) = false := by decide +kernel
  have hc := hall c.toNat (toNat_mem_of_isBlank h)
  rwa [Char.ofNat_toNat] at hc

theorem isBlank_of_isNamePart {c : Char} (h : isNamePart c = true) : isBlank c = false := by
  cases hb : isBlank c with
  | false => rfl
  | true => rw [isNamePart_of_isBlank hb] at h; cases h

theorem isNamePart_of_isNameStart {c : Char} (h : isNameStart c = true) :
    isNamePart c = true := by
  simp only [isNameStart, Bool.or_eq_true, beq_iff_eq] at h
  rcases h with (h | rfl) | rfl
  · have hascii : c.toNat < 0x80 := by
      have hletter : (decide ('A'.val ≤ c.val ∧ c.val ≤ 'Z'.val) ||
          (decide ('a'.val ≤ c.val) && decide (c.val ≤ 'z'.val))) = true := h
      simp only [Bool.or_eq_true, Bool.and_eq_true, decide_eq_true_eq,
        UInt32.le_iff_toNat_le] at hletter
      have hval : c.toNat = c.val.toNat := rfl
      have hZ : 'Z'.val.toNat = 90 := rfl
      have hz : 'z'.val.toNat = 122 := rfl
      omega
    simp [isNamePart, isWord, hascii, Char.isAlphanum, h]
  · decide
  · decide

theorem trimRight_of_blank {bs : List Char} (h : ∀ b ∈ bs, isBlank b = true) :
    trimRight bs = [] := by
  have happend := trimRight_append_blanks [] h
  rwa [List.nil_append] at happend

/-- Trimming stops at a character that is not blank. -/
theorem trimRight_append (cs : List Char) {c : Char} (h : isBlank c = false) (rest : List Char) :
    trimRight (cs ++ c :: rest) = cs ++ c :: trimRight rest := by
  simp only [trimRight, List.reverse_append, List.reverse_cons, List.append_assoc,
    List.dropWhile_append]
  cases hd : rest.reverse.dropWhile isBlank with
  | nil => simp [h]
  | cons d ds => simp

theorem trimRight_append_dropped (cs : List Char) :
    ∃ bs, (∀ b ∈ bs, isBlank b = true) ∧ cs = trimRight cs ++ bs := by
  refine ⟨(cs.reverse.takeWhile isBlank).reverse, fun b hb => ?_, ?_⟩
  · exact List.mem_takeWhile_imp (List.mem_reverse.1 hb)
  · rw [trimRight, ← List.reverse_append, List.takeWhile_append_dropWhile, List.reverse_reverse]

theorem isBlank_getLast_trimRight (cs : List Char) :
    ∀ c ∈ (trimRight cs).getLast?, isBlank c = false := by
  intro c hc
  have hhead := List.head?_dropWhile_not isBlank cs.reverse
  rw [trimRight, List.getLast?_reverse] at hc
  rw [hc] at hhead
  exact hhead

end Text

namespace Expression

open Text

/-- A name starts with an ASCII letter, an underscore or a dollar sign and goes on with word
characters, dollar signs and dots. -/
def IsName (name : String) : Prop :=
  ∃ c cs, name.toList = c :: cs ∧ isNameStart c = true ∧ ∀ d ∈ cs, isNamePart d = true

def Blank (cs : List Char) : Prop := ∀ c ∈ cs, isBlank c = true

instance : DecidablePred Blank := fun cs =>
  decidable_of_iff (cs.all isBlank = true) List.all_eq_true

/-- What stands behind a token ends it: behind a name, nothing that the name could go on with. -/
def Token.Before : Token → List Char → Prop
  | name n, rest => IsName n ∧ ∀ c ∈ rest.head?, isNamePart c = false
  | _, _ => True

/-- A text splits into tokens, each as long as possible, with blanks around them. -/
inductive Splits : List Char → List Token → Prop
  | done {bs} : Blank bs → Splits bs []
  | token {bs rest token tokens} : Blank bs → token.Before rest → Splits rest tokens →
      Splits (bs ++ (token.text.toList ++ rest)) (token :: tokens)

theorem Token.Before.not_blank {token : Token} {rest : List Char} (h : token.Before rest) :
    (∃ c cs, token.text.toList = c :: cs ∧ isBlank c = false) ∧
      ∃ cs c, token.text.toList = cs ++ [c] ∧ isBlank c = false := by
  cases token with
  | name n =>
    obtain ⟨⟨c, cs, hn, hc, hcs⟩, -⟩ := h
    have hstart : isNamePart c = true := isNamePart_of_isNameStart hc
    have hparts : ∀ d ∈ c :: cs, isNamePart d = true := List.forall_mem_cons.2 ⟨hstart, hcs⟩
    have hall : ∀ d ∈ c :: cs, isBlank d = false := fun d hd => isBlank_of_isNamePart (hparts d hd)
    refine ⟨⟨c, cs, hn, hall c (by simp)⟩, (c :: cs).dropLast, (c :: cs).getLast (by simp), ?_, ?_⟩
    · rw [List.dropLast_concat_getLast]
      exact hn
    · exact hall _ (List.getLast_mem _)
  | array => exact ⟨⟨'[', [']'], rfl, rfl⟩, ['['], ']', rfl, rfl⟩
  | less => exact ⟨⟨'<', [], rfl, rfl⟩, [], '<', rfl, rfl⟩
  | greater => exact ⟨⟨'>', [], rfl, rfl⟩, [], '>', rfl, rfl⟩
  | comma => exact ⟨⟨',', [], rfl, rfl⟩, [], ',', rfl, rfl⟩
  | question => exact ⟨⟨'?', [], rfl, rfl⟩, [], '?', rfl, rfl⟩
  | ampersand => exact ⟨⟨'&', [], rfl, rfl⟩, [], '&', rfl, rfl⟩

theorem nextToken?_of_isNameStart {c : Char} (hc : isNameStart c = true) (cs : List Char) :
    nextToken? (c :: cs) = some (.name (String.ofList (c :: cs.takeWhile isNamePart)),
      cs.dropWhile isNamePart) := by
  have hsigns : c ≠ '[' ∧ c ≠ '<' ∧ c ≠ '>' ∧ c ≠ ',' ∧ c ≠ '?' ∧ c ≠ '&' := by
    refine ⟨?_, ?_, ?_, ?_, ?_, ?_⟩ <;> rintro rfl <;> cases hc
  unfold nextToken?
  split <;> simp_all

/-- The token in front is the one that the text begins with and that what is behind it ends. -/
theorem nextToken?_eq_some_iff {cs rest : List Char} {token : Token} :
    nextToken? cs = some (token, rest) ↔
      cs = token.text.toList ++ rest ∧ token.Before rest := by
  constructor
  · intro h
    unfold nextToken? at h
    split at h
    case h_8 c cs _ _ _ _ _ _ =>
      split at h
      · next hc =>
        cases h
        have hhead := List.head?_dropWhile_not isNamePart cs
        refine ⟨?_, ⟨c, cs.takeWhile isNamePart, String.toList_ofList, hc, fun d hd => ?_⟩, ?_⟩
        · simp [Token.text]
        · exact List.mem_takeWhile_imp hd
        · intro d hd
          rw [hd] at hhead
          exact hhead
      · cases h
    all_goals first | cases h; exact ⟨rfl, trivial⟩ | cases h
  · rintro ⟨rfl, h⟩
    cases token with
    | name n =>
      obtain ⟨⟨c, cs, hn, hc, hcs⟩, hrest⟩ := h
      have hsplit : (cs ++ rest).takeWhile isNamePart = cs ∧
          (cs ++ rest).dropWhile isNamePart = rest := by
        have hstop : rest.takeWhile isNamePart = [] ∧ rest.dropWhile isNamePart = rest := by
          cases rest with
          | nil => exact ⟨rfl, rfl⟩
          | cons d ds => simp [hrest d rfl]
        rw [List.takeWhile_append_of_pos hcs, List.dropWhile_append_of_pos hcs, hstop.1, hstop.2]
        exact ⟨List.append_nil cs, rfl⟩
      have hname : String.ofList (c :: cs) = n := by rw [← hn, String.ofList_toList]
      rw [Token.text, hn, List.cons_append, nextToken?_of_isNameStart hc, hsplit.1, hsplit.2, hname]
    | _ => rfl

theorem splits_nil_iff {cs : List Char} : Splits cs [] ↔ Blank cs := by
  constructor
  · intro h
    cases h with
    | done hb => exact hb
  · exact .done

theorem dropWhile_blank {bs : List Char} (h : Blank bs) (cs : List Char) :
    (bs ++ cs).dropWhile isBlank = cs.dropWhile isBlank :=
  List.dropWhile_append_of_pos h

theorem splits_cons_iff {cs : List Char} {token : Token} {tokens : List Token} :
    Splits cs (token :: tokens) ↔
      ∃ rest, nextToken? (cs.dropWhile isBlank) = some (token, rest) ∧ Splits rest tokens := by
  constructor
  · intro h
    cases h with
    | @token bs rest _ _ hb ht hrest =>
      refine ⟨rest, nextToken?_eq_some_iff.2 ⟨?_, ht⟩, hrest⟩
      obtain ⟨⟨c, cs, htext, hc⟩, -⟩ := ht.not_blank
      rw [dropWhile_blank hb, htext]
      simp [hc]
  · rintro ⟨rest, hnext, hrest⟩
    obtain ⟨hcs, ht⟩ := nextToken?_eq_some_iff.1 hnext
    have hb : Blank (cs.takeWhile isBlank) := fun c hc => List.mem_takeWhile_imp hc
    have hsplits := Splits.token hb ht hrest
    rwa [← hcs, List.takeWhile_append_dropWhile] at hsplits

theorem splits_append_blank {cs bs : List Char} {tokens : List Token} (hb : Blank bs)
    (h : Splits cs tokens) : Splits (cs ++ bs) tokens := by
  induction h with
  | done hbs => exact .done fun b hmem => (List.mem_append.1 hmem).elim (hbs b) (hb b)
  | @token as rest token tokens has ht _ ih =>
    have ht' : token.Before (rest ++ bs) := by
      cases token with
      | name n =>
        refine ⟨ht.1, fun c hc => ?_⟩
        cases rest with
        | nil => exact isNamePart_of_isBlank (hb c (List.mem_of_head? hc))
        | cons d ds => exact ht.2 c hc
      | _ => trivial
    simpa only [List.append_assoc] using Splits.token has ht' ih

theorem splits_trimRight {cs : List Char} {tokens : List Token} (h : Splits cs tokens) :
    Splits (trimRight cs) tokens := by
  induction h with
  | done hb =>
    rw [trimRight_of_blank hb]
    exact .done (by simp [Blank])
  | @token bs rest token tokens hb ht _ ih =>
    obtain ⟨-, cs, c, htext, hc⟩ := ht.not_blank
    have ht' : token.Before (trimRight rest) := by
      cases token with
      | name n =>
        refine ⟨ht.1, fun d hd => ht.2 d ?_⟩
        obtain ⟨as, -, hrest⟩ := trimRight_append_dropped rest
        rw [hrest, List.head?_append, hd]
        rfl
      | _ => trivial
    have hsplits := Splits.token hb ht' ih
    have htrim := trimRight_append (bs ++ cs) hc rest
    rw [htext] at hsplits ⊢
    simp only [List.append_assoc, List.singleton_append] at hsplits htrim ⊢
    rwa [htrim]

theorem splits_trimRight_iff {cs : List Char} {tokens : List Token} :
    Splits (trimRight cs) tokens ↔ Splits cs tokens := by
  refine ⟨fun h => ?_, splits_trimRight⟩
  obtain ⟨bs, hb, hcs⟩ := trimRight_append_dropped cs
  rw [hcs]
  exact splits_append_blank hb h

theorem tokensFrom_eq_ok_iff {total size : Nat} {cs : List Char} {ts : List Token}
    (hsize : cs.length ≤ size) (hlast : ∀ c ∈ cs.getLast?, isBlank c = false) :
    tokensFrom total size cs = .ok ts ↔ Splits cs ts := by
  induction size generalizing cs ts with
  | zero =>
    obtain rfl : cs = [] := List.length_eq_zero_iff.1 (by omega)
    cases ts with
    | nil => simp [tokensFrom, splits_nil_iff, Blank]
    | cons t ts => simp [tokensFrom, splits_cons_iff, nextToken?]
  | succ size ih =>
    cases cs with
    | nil =>
      cases ts with
      | nil => simp [tokensFrom, splits_nil_iff, Blank]
      | cons t ts => simp [tokensFrom, splits_cons_iff, nextToken?]
    | cons c cs =>
      have hnot : ¬ Blank (c :: cs) := fun hb => by
        have hmem : (c :: cs).getLast (by simp) ∈ c :: cs := List.getLast_mem _
        have hfalse := hlast _ (List.getLast?_eq_some_getLast (by simp))
        rw [hb _ hmem] at hfalse
        cases hfalse
      rw [tokensFrom]
      cases hnext : nextToken? ((c :: cs).dropWhile isBlank) with
      | none =>
        cases ts with
        | nil => simpa [splits_nil_iff] using hnot
        | cons t ts => simp [splits_cons_iff, hnext]
      | some p =>
        obtain ⟨token, rest⟩ := p
        -- The rest is a proper end of the text, so it is shorter and ends with the same character.
        obtain ⟨hcs, ht⟩ := nextToken?_eq_some_iff.1 hnext
        obtain ⟨⟨d, ds, htext, -⟩, -⟩ := ht.not_blank
        have hend : rest <:+ (c :: cs).dropWhile isBlank := by
          rw [hcs]
          exact List.suffix_append _ _
        have hend' : rest <:+ c :: cs := hend.trans (List.dropWhile_suffix _)
        have hsize' : rest.length ≤ size := by
          have hle := (List.dropWhile_suffix (p := isBlank) (l := c :: cs)).length_le
          rw [hcs, htext] at hle
          simp only [List.cons_append, List.length_cons, List.length_append] at hle hsize
          omega
        have hlast' : ∀ d ∈ rest.getLast?, isBlank d = false := by
          intro d hd
          obtain ⟨as, has⟩ := hend'
          refine hlast d ?_
          rw [← has, List.getLast?_append, hd]
          rfl
        have hiff (ts : List Token) : tokensFrom total size rest = .ok ts ↔ Splits rest ts :=
          ih hsize' hlast'
        simp only [bind, Except.bind]
        cases ts with
        | nil =>
          cases tokensFrom total size rest <;> simp [splits_nil_iff, hnot, pure, Except.pure]
        | cons t ts =>
          have hexists : (∃ rest', some (token, rest) = some (t, rest') ∧ Splits rest' ts) ↔
              token = t ∧ tokensFrom total size rest = .ok ts := by
            rw [hiff]
            simp only [Option.some.injEq, Prod.mk.injEq, and_assoc, exists_and_left,
              exists_eq_left']
          rw [splits_cons_iff, hnext, hexists]
          cases tokensFrom total size rest <;> simp [pure, Except.pure]

/-- The tokens of an expression are those that its text splits into, of which there is one. -/
theorem tokens_eq_ok_iff {source : String} {ts : List Token} :
    tokens source = .ok ts ↔ Splits source.toList ts ∧ ts ≠ [] := by
  have hiff {ts : List Token} : tokensFrom (trimRight source.toList).length
      (trimRight source.toList).length (trimRight source.toList) = .ok ts ↔
        Splits source.toList ts :=
    (tokensFrom_eq_ok_iff le_rfl (isBlank_getLast_trimRight _)).trans splits_trimRight_iff
  rw [← hiff, tokens]
  split
  · next hempty =>
    rw [hempty]
    cases ts <;> simp
  · next result hne =>
    constructor
    · intro h
      refine ⟨h, ?_⟩
      rintro rfl
      exact hne h
    · exact And.left

end Expression

end TypeReach
