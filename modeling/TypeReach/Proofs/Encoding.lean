import Mathlib.Tactic.NormNum
import TypeReach.Text.Utf8

/-!
# Decoding of UTF-8

Bytes are decoded to characters exactly if they are what the characters are encoded as.
-/

namespace TypeReach.Text

/-- The last bytes of a character: the low digits of its code to the base 64, the highest first. -/
def trailing : (digits code : Nat) → List UInt8
  | 0, _ => []
  | digits + 1, code => UInt8.ofNat (0x80 + code / 64 ^ digits % 64) :: trailing digits code

theorem code_ofNat {code : Nat} (h : code.isValidChar) : (Char.ofNat code).val.toNat = code := by
  rw [Char.ofNat, dif_pos h]
  rfl

namespace PartialChar

/-- A character with that code can still come of the beginning. -/
def Admits (p : PartialChar) (code : Nat) : Prop :=
  p.code * 64 + (p.low.toNat - 0x80) ≤ code / 64 ^ (p.owed - 1) ∧
    code / 64 ^ (p.owed - 1) ≤ p.code * 64 + (p.high.toNat - 0x80)

/-- Bytes are owed, and the next one has to carry a digit. -/
structure Regular (p : PartialChar) : Prop where
  owed : 0 < p.owed
  low : 0x80 ≤ p.low.toNat
  le : p.low.toNat ≤ p.high.toNat
  high : p.high.toNat ≤ 0xBF

section

variable {b : UInt8} {p : PartialChar} {code : Nat}

theorem regular_of_start? (h : start? b = some p) : p.Regular := by
  simp only [start?] at h
  split_ifs at h <;> rw [Option.some.injEq] at h <;> subst h <;> constructor <;> simp

/-- A first byte admits the codes of two, three or four bytes of which it has the highest digits. -/
theorem admits_iff (h : start? b = some p) : p.Admits code ↔
    (p.owed = 1 ∧ 0x80 ≤ code ∧ code < 0x800 ∧ b.toNat = 0xC0 + code / 64) ∨
    (p.owed = 2 ∧ 0x800 ≤ code ∧ code < 0x10000 ∧ (code < 0xD800 ∨ 0xDFFF < code) ∧
      b.toNat = 0xE0 + code / 64 ^ 2) ∨
    (p.owed = 3 ∧ 0x10000 ≤ code ∧ code < 0x110000 ∧ b.toNat = 0xF0 + code / 64 ^ 3) := by
  simp only [start?, Bool.and_eq_true, decide_eq_true_eq, beq_iff_eq] at h
  split_ifs at h <;> rw [Option.some.injEq] at h <;> subst h <;>
    simp only [Admits, UInt8.reduceToNat] <;> norm_num <;> omega

theorem Admits.isValidChar (ha : p.Admits code) (h : start? b = some p) : code.isValidChar := by
  simp only [Nat.isValidChar]
  obtain h | h | h := (admits_iff h).1 ha <;> omega

theorem Admits.le (ha : p.Admits code) (h : start? b = some p) : 0x80 ≤ code ∧ 0xC0 ≤ b.toNat := by
  obtain h | h | h := (admits_iff h).1 ha <;> omega

/-- The characters with codes that a first byte admits begin with it. -/
theorem encode_of_admits (h : start? b = some p) (ha : p.Admits code) :
    String.utf8EncodeChar (Char.ofNat code) = b :: trailing p.owed code := by
  have hval : (Char.ofNat code).val.toNat = code := code_ofNat (ha.isValidChar h)
  have hfirst {n : Nat} (hn : b.toNat = n) : UInt8.ofNat n = b := by rw [← hn, UInt8.ofNat_toNat]
  simp only [String.utf8EncodeChar, hval]
  obtain ⟨howed, hlow, hhigh, hb⟩ | ⟨howed, hlow, hhigh, -, hb⟩ | ⟨howed, hlow, hhigh, hb⟩ :=
    (admits_iff h).1 ha
  · rw [if_neg (by omega), if_pos (by omega), hfirst (by omega), howed]
    simp [trailing, Nat.add_comm]
  · rw [if_neg (by omega), if_neg (by omega), if_pos (by omega), hfirst (by omega), howed]
    simp [trailing, Nat.add_comm]
  · rw [if_neg (by omega), if_neg (by omega), if_neg (by omega), hfirst (by omega), howed]
    simp [trailing, Nat.add_comm]

theorem owed_of_start? (h : start? b = some p) :
    p.owed = if b.toNat < 0xE0 then 1 else if b.toNat < 0xF0 then 2 else 3 := by
  simp only [start?, Bool.and_eq_true, decide_eq_true_eq, beq_iff_eq] at h
  split_ifs at h <;> rw [Option.some.injEq] at h <;> subst h <;> dsimp only <;> split_ifs <;> omega

theorem exists_start? {n : Nat} (h2 : 0xC2 ≤ n) (h4 : n ≤ 0xF4) :
    ∃ b p, start? b = some p ∧ b.toNat = n := by
  have hn : (UInt8.ofNat n).toNat = n := by simp; omega
  refine ⟨UInt8.ofNat n, ?_⟩
  simp only [start?, hn, Bool.and_eq_true, decide_eq_true_eq, beq_iff_eq]
  split_ifs <;> first | exact ⟨_, rfl, trivial⟩ | omega

end

/-- Each character of several bytes has a first byte that admits its code. -/
theorem exists_admits {c : Char} (hc : 0x80 ≤ c.toNat) :
    ∃ b p, start? b = some p ∧ p.Admits c.toNat := by
  have hvalid : c.toNat.isValidChar := c.valid
  simp only [Nat.isValidChar] at hvalid
  obtain h2 | h2 := Nat.lt_or_ge c.toNat 0x800
  · obtain ⟨b, p, h, hb⟩ := @exists_start? (0xC0 + c.toNat / 64) (by omega) (by omega)
    have howed := owed_of_start? h
    rw [if_pos (by omega)] at howed
    exact ⟨b, p, h, (admits_iff h).2 (.inl ⟨howed, hc, h2, hb⟩)⟩
  obtain h3 | h3 := Nat.lt_or_ge c.toNat 0x10000
  · obtain ⟨b, p, h, hb⟩ := @exists_start? (0xE0 + c.toNat / 64 ^ 2) (by omega) (by omega)
    have howed := owed_of_start? h
    rw [if_neg (by omega), if_pos (by omega)] at howed
    exact ⟨b, p, h, (admits_iff h).2 (.inr (.inl ⟨howed, h2, h3, by omega, hb⟩))⟩
  · obtain ⟨b, p, h, hb⟩ := @exists_start? (0xF0 + c.toNat / 64 ^ 3) (by omega) (by omega)
    have howed := owed_of_start? h
    rw [if_neg (by omega), if_neg (by omega)] at howed
    exact ⟨b, p, h, (admits_iff h).2 (.inr (.inr ⟨howed, h3, by omega, hb⟩))⟩

end PartialChar

/-- The encoding of a character is one byte, or begins with a byte that admits the character. -/
theorem encode_cases (c : Char) :
    (c.toNat < 0x80 ∧ String.utf8EncodeChar c = [UInt8.ofNat c.toNat]) ∨
    ∃ b p, PartialChar.start? b = some p ∧ p.Admits c.toNat ∧
      String.utf8EncodeChar c = b :: trailing p.owed c.toNat := by
  obtain hc | hc := Nat.lt_or_ge c.toNat 0x80
  · have hle : c.val.toNat ≤ 127 := Nat.le_of_lt_succ hc
    exact .inl ⟨hc, by simp only [String.utf8EncodeChar, if_pos hle]; rfl⟩
  · obtain ⟨b, p, h, ha⟩ := PartialChar.exists_admits hc
    refine .inr ⟨b, p, h, ha, ?_⟩
    rw [← PartialChar.encode_of_admits h ha, Char.ofNat_toNat]

/-- What characters are encoded as, without the bytes that are read of the first if it is begun. -/
def Encodes : Option PartialChar → List UInt8 → List Char → Prop
  | none, bytes, cs => bytes = cs.flatMap String.utf8EncodeChar
  | some p, bytes, cs => ∃ code cs', p.Admits code ∧ cs = Char.ofNat code :: cs' ∧
      bytes = trailing p.owed code ++ cs'.flatMap String.utf8EncodeChar

section

variable {b : UInt8} {rest : List UInt8} {cs : List Char} {p : PartialChar}

theorem encodes_nil : Encodes none [] cs ↔ cs = [] := by
  cases cs with
  | nil => simp [Encodes]
  | cons c cs =>
    obtain ⟨-, h⟩ | ⟨b, p, -, -, h⟩ := encode_cases c <;> simp [Encodes, h]

/-- The first byte is a character or begins one. -/
theorem encodes_cons : Encodes none (b :: rest) cs ↔
    (b.toNat < 0x80 ∧ ∃ cs', cs = Char.ofNat b.toNat :: cs' ∧ Encodes none rest cs') ∨
    ∃ p, PartialChar.start? b = some p ∧ Encodes (some p) rest cs := by
  constructor
  · intro h
    cases cs with
    | nil => cases h
    | cons c cs =>
      simp only [Encodes, List.flatMap_cons] at h
      obtain ⟨hc, he⟩ | ⟨b', p, hp, ha, he⟩ := encode_cases c
      · rw [he] at h
        obtain ⟨rfl, rfl⟩ := List.cons.inj h
        have hb : (UInt8.ofNat c.toNat).toNat = c.toNat := by simp; omega
        rw [hb, Char.ofNat_toNat]
        exact .inl ⟨hc, cs, rfl, rfl⟩
      · rw [he] at h
        obtain ⟨rfl, rfl⟩ := List.cons.inj h
        exact .inr ⟨p, hp, c.toNat, cs, ha, by rw [Char.ofNat_toNat], rfl⟩
  · rintro (⟨hb, cs', rfl, rfl⟩ | ⟨p, hp, code, cs', ha, rfl, rfl⟩)
    · have hc : (Char.ofNat b.toNat).toNat = b.toNat := code_ofNat (.inl (by omega))
      obtain ⟨-, he⟩ | ⟨b', p, hp, ha, he⟩ := encode_cases (Char.ofNat b.toNat)
      · simp [Encodes, he, hc]
      · exact absurd (hc ▸ (ha.le hp).1) (by omega)
    · simp [Encodes, PartialChar.encode_of_admits hp ha]

theorem not_encodes_nil (hr : p.Regular) : ¬Encodes (some p) [] cs := by
  rintro ⟨code, cs', -, -, h⟩
  obtain ⟨k, hk⟩ := Nat.exists_eq_succ_of_ne_zero hr.owed.ne'
  simp [hk, trailing] at h

/-- The next byte that is owed is in the range, and carries the next digit of the code. -/
theorem encodes_begun (hr : p.Regular) {k : Nat} (hk : p.owed = k + 1) :
    Encodes (some p) (b :: rest) cs ↔ (p.low ≤ b ∧ b ≤ p.high) ∧
      ∃ code cs', code / 64 ^ k = p.code * 64 + (b.toNat - 0x80) ∧ cs = Char.ofNat code :: cs' ∧
        rest = trailing k code ++ cs'.flatMap String.utf8EncodeChar := by
  obtain ⟨-, hlow, hle, hhigh⟩ := hr
  have carries (code : Nat) : (p.Admits code ∧ b = UInt8.ofNat (0x80 + code / 64 ^ k % 64)) ↔
      (p.low ≤ b ∧ b ≤ p.high) ∧ code / 64 ^ k = p.code * 64 + (b.toNat - 0x80) := by
    simp only [PartialChar.Admits, hk, Nat.add_sub_cancel, UInt8.le_iff_toNat_le,
      ← UInt8.toNat_inj, UInt8.toNat_ofNat']
    generalize code / 64 ^ k = digits
    omega
  simp only [Encodes, hk, trailing, List.cons_append, List.cons.injEq]
  constructor
  · rintro ⟨code, cs', ha, hcs, hb, hrest⟩
    obtain ⟨hrange, hcode⟩ := (carries code).1 ⟨ha, hb⟩
    exact ⟨hrange, code, cs', hcode, hcs, hrest⟩
  · rintro ⟨hrange, code, cs', hcode, hcs, hrest⟩
    obtain ⟨ha, hb⟩ := (carries code).2 ⟨hrange, hcode⟩
    exact ⟨code, cs', ha, hcs, hb, hrest⟩

end

theorem bind_cons_eq_ok_iff {ε : Type} {r : Except ε (List Char)} {c : Char} {cs : List Char} :
    (do return c :: (← r) : Except ε (List Char)) = .ok cs ↔
      ∃ cs', cs = c :: cs' ∧ r = .ok cs' := by
  cases r with
  | error e => simp [bind, Except.bind]
  | ok tail => simp [bind, Except.bind, pure, Except.pure, eq_comm]

/-- Bytes are read on to characters exactly if they are what the characters are encoded as. -/
theorem decodeFrom_eq_ok_iff {position : Nat} {begun : Option PartialChar} {bytes : List UInt8}
    {cs : List Char} (hr : ∀ p, begun = some p → p.Regular) :
    decodeFrom position begun bytes = .ok cs ↔ Encodes begun bytes cs := by
  fun_induction decodeFrom position begun bytes generalizing cs with
  | case1 => rw [encodes_nil, Except.ok.injEq, eq_comm]
  | case2 position p => exact iff_of_false (fun h => nomatch h) (not_encodes_nil (hr p rfl))
  | case3 position b rest hb ih =>
    have hnone : ¬∃ p, PartialChar.start? b = some p ∧ Encodes (some p) rest cs := by
      rintro ⟨p, hp, code, cs', ha, -⟩
      exact absurd (ha.le hp).2 (by omega)
    rw [encodes_cons, or_iff_left hnone, and_iff_right hb, bind_cons_eq_ok_iff]
    simp only [ih fun p h => nomatch h]
  | case4 position b rest hb p hp ih =>
    rw [ih fun q hq => Option.some.inj hq ▸ PartialChar.regular_of_start? hp, encodes_cons, hp]
    simp [hb]
  | case5 position b rest hb hp =>
    refine iff_of_false (fun h => nomatch h) fun h => ?_
    obtain ⟨hlt, -⟩ | ⟨p, hp', -⟩ := encodes_cons.1 h
    · exact hb hlt
    · cases hp.symm.trans hp'
  | case6 position p b rest hb code hone =>
    rename_i ih
    rw [Bool.and_eq_true, decide_eq_true_eq, decide_eq_true_eq] at hb
    have hp := hr p rfl
    have howed : p.owed = 0 + 1 := by have := hp.owed; omega
    rw [encodes_begun hp howed, and_iff_right hb, bind_cons_eq_ok_iff]
    simp only [pow_zero, Nat.div_one, trailing, List.nil_append]
    have hih {cs' : List Char} := @ih cs' fun p h => nomatch h
    simp only [hih, Encodes]
    constructor
    · rintro ⟨cs', hcs, hrest⟩
      exact ⟨code, cs', rfl, hcs, hrest⟩
    · rintro ⟨code', cs', hcode, hcs, hrest⟩
      rw [hcode] at hcs
      exact ⟨cs', hcs, hrest⟩
  | case7 position p b rest hb code hmore =>
    rename_i ih
    rw [Bool.and_eq_true, decide_eq_true_eq, decide_eq_true_eq] at hb
    have hp := hr p rfl
    obtain ⟨k, hk⟩ : ∃ k, p.owed = (k + 1) + 1 := ⟨p.owed - 2, by omega⟩
    rw [encodes_begun hp hk, and_iff_right hb, ih]
    · simp only [Encodes, PartialChar.Admits, hk, Nat.add_sub_cancel]
      refine exists_congr fun code => exists_congr fun cs' => and_congr_left' ?_
      rw [pow_succ, ← Nat.div_div_eq_div_mul]
      generalize code / 64 ^ k = digits
      simp only [UInt8.reduceToNat]
      omega
    · intro q hq
      rw [← Option.some.inj hq]
      have hmin : 0x80 ≤ (0x80 : UInt8).toNat := by decide
      have hrange : (0x80 : UInt8).toNat ≤ (0xBF : UInt8).toNat := by decide
      have hmax : (0xBF : UInt8).toNat ≤ 0xBF := by decide
      exact ⟨Nat.sub_pos_of_lt (Nat.lt_of_not_le hmore), hmin, hrange, hmax⟩
  | case8 position p b rest hb =>
    rw [Bool.and_eq_true, decide_eq_true_eq, decide_eq_true_eq] at hb
    have hp := hr p rfl
    obtain ⟨k, hk⟩ := Nat.exists_eq_succ_of_ne_zero hp.owed.ne'
    exact iff_of_false (fun h => nomatch h) fun h => hb ((encodes_begun hp hk).1 h).1

/-- Bytes are decoded to characters exactly if the characters are encoded as them. -/
theorem decodeUtf8_eq_ok_iff {bytes : List UInt8} {cs : List Char} :
    decodeUtf8 bytes = .ok cs ↔ bytes = cs.flatMap String.utf8EncodeChar :=
  decodeFrom_eq_ok_iff fun _ h => nomatch h

end TypeReach.Text
