import ForwardProxy.Proofs.Text.Trim
import ForwardProxy.Text.Integer
import Mathlib.Algebra.GroupWithZero.Nat
import Mathlib.Data.List.Induction

/-!
# Numerals

What is written for a number: one digit or more, of which those in front may be zeros, and in front
of them a sign. The readers of numbers accept exactly these texts, up to their limits, and those with
blanks around them where these are trimmed away.
-/

namespace ForwardProxy.Text

/-- A text is a run of digits that denotes a number. -/
structure IsNumeral (text : List Char) (n : Nat) : Prop where
  /-- There is a digit. -/
  ne_nil : text ≠ []
  /-- There is nothing else. -/
  isDigit : ∀ c ∈ text, c.isDigit = true
  /-- The digits denote the number. -/
  value : digitsValue text = n

/-- A text is a number that may have a plus sign. -/
def IsUnsigned (text : List Char) (n : Nat) : Prop :=
  IsNumeral text n ∨ ∃ digits, text = '+' :: digits ∧ IsNumeral digits n

/-- A text is an integer that may have a sign. -/
def IsSigned (text : List Char) (n : Int) : Prop :=
  (∃ m : Nat, IsUnsigned text m ∧ n = m) ∨
    ∃ digits, ∃ m : Nat, text = '-' :: digits ∧ IsNumeral digits m ∧ n = -(m : Int)

variable {text : List Char}

/-- Digits are read as the number that they denote, and nothing else is read. -/
theorem natural?_eq_some_iff {n : Nat} : natural? text = some n ↔ IsNumeral text n := by
  unfold natural?
  rw [Option.ite_none_right_eq_some, Option.some.injEq, List.all_eq_true]
  exact ⟨fun ⟨⟨hne, hdigits⟩, hvalue⟩ => ⟨hne, hdigits, hvalue⟩,
    fun h => ⟨⟨h.ne_nil, h.isDigit⟩, h.value⟩⟩

/-- Nothing but a digit stands in front of a numeral. -/
theorem not_isNumeral_cons {c : Char} (hc : c.isDigit = false) {n : Nat} :
    ¬IsNumeral (c :: text) n := by
  intro h
  have hdigit := h.isDigit c List.mem_cons_self
  rw [hc] at hdigit
  cases hdigit

/-- A number is read with a plus sign or without, up to the limit. -/
theorem unsigned?_eq_some_iff {limit n : Nat} :
    unsigned? limit text = some n ↔ IsUnsigned text n ∧ n ≤ limit := by
  unfold unsigned? IsUnsigned
  simp only [Option.filter_eq_some_iff, decide_eq_true_eq]
  refine and_congr_left' ?_
  split
  · next digits =>
    rw [natural?_eq_some_iff, or_iff_right (not_isNumeral_cons rfl)]
    exact ⟨fun h => ⟨digits, rfl, h⟩, fun ⟨_, heq, h⟩ => (List.cons.inj heq).2 ▸ h⟩
  · next hplus =>
    rw [natural?_eq_some_iff, or_iff_left]
    rintro ⟨digits, heq, -⟩
    exact hplus digits heq

/-- An integer is read with a sign or without, from the bound below zero up to one less than the
bound. -/
theorem signed?_eq_some_iff {bound : Nat} (hbound : 0 < bound) {n : Int} :
    signed? bound text = some n ↔ IsSigned text n ∧ -(bound : Int) ≤ n ∧ n < bound := by
  have hread (digits : List Char) :
      ((natural? digits).filter (· < bound)).map Int.ofNat = some n ↔
        ∃ m : Nat, IsNumeral digits m ∧ n = m ∧ m < bound := by
    simp only [Option.map_eq_some_iff, Option.filter_eq_some_iff, natural?_eq_some_iff,
      decide_eq_true_eq, Int.ofNat_eq_natCast]
    exact ⟨fun ⟨m, ⟨hm, hlt⟩, heq⟩ => ⟨m, hm, heq.symm, hlt⟩,
      fun ⟨m, hm, heq, hlt⟩ => ⟨m, ⟨hm, hlt⟩, heq.symm⟩⟩
  unfold signed? IsSigned IsUnsigned
  split
  case h_1 digits =>
    simp only [Option.bind_eq_bind, Option.map_eq_some_iff, Option.bind_eq_some_iff,
      Option.filter_eq_some_iff, natural?_eq_some_iff, decide_eq_true_eq, Option.pure_def,
      Option.some.injEq]
    constructor
    · rintro ⟨_, ⟨m, ⟨hm, hle⟩, rfl⟩, rfl⟩
      exact ⟨.inr ⟨digits, m, rfl, hm, rfl⟩, by omega, by omega⟩
    · rintro ⟨⟨m, hplain | ⟨_, heq, -⟩, -⟩ | ⟨_, m, heq, hm, rfl⟩, hleast, -⟩
      · exact absurd hplain (not_isNumeral_cons rfl)
      · cases heq
      · cases heq
        exact ⟨m, ⟨m, ⟨hm, by omega⟩, rfl⟩, rfl⟩
  case h_2 digits =>
    rw [hread]
    constructor
    · rintro ⟨m, hm, rfl, hlt⟩
      exact ⟨.inl ⟨m, .inr ⟨digits, rfl, hm⟩, rfl⟩, by omega, by omega⟩
    · rintro ⟨⟨m, hplain | ⟨_, heq, hm⟩, rfl⟩ | ⟨_, _, heq, -⟩, -, hlt⟩
      · exact absurd hplain (not_isNumeral_cons rfl)
      · cases heq
        exact ⟨m, hm, rfl, by omega⟩
      · cases heq
  case h_3 hminus hplus =>
    rw [hread]
    constructor
    · rintro ⟨m, hm, rfl, hlt⟩
      exact ⟨.inl ⟨m, .inl hm, rfl⟩, by omega, by omega⟩
    · rintro ⟨⟨m, hm | ⟨digits, heq, -⟩, rfl⟩ | ⟨digits, _, heq, -⟩, -, hlt⟩
      · exact ⟨m, hm, rfl, by omega⟩
      · exact absurd heq (hplus digits)
      · exact absurd heq (hminus digits)

/-! ### Written numbers -/

/-- The value of digits is what the digits of the library denote. -/
theorem digitsValue_eq_ofDigitChars (digits : List Char) :
    digitsValue digits = Nat.ofDigitChars 10 digits 0 := by
  simp only [digitsValue, Nat.ofDigitChars_eq_foldl, Nat.mul_comm 10]
  rfl

/-- Zeros in front do not count. -/
theorem digitsValue_padded (width n : Nat) : digitsValue (padded width n) = n := by
  simp only [digitsValue_eq_ofDigitChars, padded, Nat.ofDigitChars_append,
    Nat.ofDigitChars_replicate_zero, Nat.mul_zero, Nat.ofDigitChars_ten_toDigits]

/-- Digits denote a number below the power of ten with their count as exponent. -/
theorem digitsValue_lt (digits : List Char) (h : ∀ c ∈ digits, c.isDigit = true) :
    digitsValue digits < 10 ^ digits.length := by
  induction digits using List.reverseRecOn with
  | nil => decide
  | append_singleton digits c ih =>
    obtain ⟨-, hnine⟩ : 48 ≤ c.toNat ∧ c.toNat ≤ 57 :=
      Char.isDigit_iff_toNat.mp (h c (List.mem_append_right _ List.mem_cons_self))
    have hfront := ih fun c hc => h c (List.mem_append_left _ hc)
    have hvalue : digitsValue (digits ++ [c]) = digitsValue digits * 10 + (c.toNat - 48) := by
      rw [digitsValue, List.foldl_append]
      rfl
    rw [hvalue, List.length_append, List.length_singleton, Nat.pow_succ]
    omega

/-- A number is written as a numeral. -/
theorem isNumeral_padded (width n : Nat) : IsNumeral (padded width n) n := by
  refine ⟨?_, ?_, digitsValue_padded width n⟩
  · have hpos : 0 < (Nat.toDigits 10 n).length := Nat.length_toDigits_pos
    exact List.append_ne_nil_of_right_ne_nil _ (List.ne_nil_of_length_pos hpos)
  · intro c hc
    rcases List.mem_append.mp hc with hzero | hdigit
    · rw [List.eq_of_mem_replicate hzero]
      rfl
    · exact Nat.isDigit_of_mem_toDigits (by decide) (Nat.le_refl 10) hdigit

/-- A padded number fills the width if it has no more digits than that. -/
theorem length_padded {width n : Nat} (hwidth : 0 < width) (h : n < 10 ^ width) :
    (padded width n).length = width := by
  have hlength : (Nat.toDigits 10 n).length ≤ width :=
    (Nat.length_toDigits_le_iff (by decide) hwidth).mpr h
  rw [padded, List.length_append, List.length_replicate]
  omega

/-! ### Blanks around a number -/

/-- A digit is no blank. -/
theorem isBlank_of_isDigit {c : Char} (h : c.isDigit = true) : isBlank c = false := by
  obtain ⟨hleast, hgreatest⟩ : 48 ≤ c.toNat ∧ c.toNat ≤ 57 := Char.isDigit_iff_toNat.mp h
  simp only [isBlank, Bool.or_eq_false_iff, Bool.and_eq_false_iff, decide_eq_false_iff_not,
    beq_eq_false_iff_ne]
  omega

/-- No blank stands in a number. -/
theorem IsUnsigned.isTrimmed {n : Nat} (h : IsUnsigned text n) : IsTrimmed text := by
  apply isTrimmed_of_not_blank
  rcases h with hdigits | ⟨digits, rfl, hdigits⟩
  · exact fun c hc => isBlank_of_isDigit (hdigits.isDigit c hc)
  · rw [List.forall_mem_cons]
    exact ⟨by decide, fun c hc => isBlank_of_isDigit (hdigits.isDigit c hc)⟩

/-- A number is read from a text once the blanks around it are trimmed away. -/
theorem unsigned?_trim_eq_some_iff {limit n : Nat} :
    unsigned? limit (trim text) = some n ↔
      (∃ middle, IsPadded text middle ∧ IsUnsigned middle n) ∧ n ≤ limit := by
  rw [unsigned?_eq_some_iff]
  refine and_congr_left' ⟨fun h => ⟨_, isPadded_trim text, h⟩, ?_⟩
  rintro ⟨middle, hpadded, hnumber⟩
  rwa [trim_eq_of_isPadded hpadded hnumber.isTrimmed]

end ForwardProxy.Text
