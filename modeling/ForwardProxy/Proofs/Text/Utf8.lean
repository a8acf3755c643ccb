import ForwardProxy.Text.Utf8
import Mathlib.Data.List.Basic

/-!
# Well-formed octets

The octets that are read as text are those that are written for a text, so text and well-formed
octets determine each other. An octet that begins a sequence announces how many follow it, and the
range of the next one keeps out what has a shorter form, what is no character, and what lies beyond
the last one.
-/

namespace ForwardProxy

/-- What holds of the numbers below 256, as octets, holds of every octet. -/
theorem forall_octet {P : UInt8 → Prop} (h : ∀ n < 256, P (UInt8.ofNat n)) (b : UInt8) : P b := by
  have hb := h b.toNat b.toNat_lt
  rwa [UInt8.ofNat_toNat] at hb

namespace Utf8

variable {lead : UInt8} {low high : UInt8} {owed bits v : Nat} {bytes rest : Bytes}

/-- A character has the number that it was made from. -/
theorem toNat_char {n : Nat} (h : n.isValidChar) : (Char.ofNat n).val.toNat = n := by
  rw [Char.ofNat, dif_pos h]
  rfl

/-! ### What the first octet announces -/

/-- An octet below 128 stands for itself. -/
theorem announced?_of_lt (h : lead.toNat < 128) :
    announced? lead = some (0, 0x80, 0xBF, lead.toNat) :=
  if_pos (UInt8.lt_iff_toNat_lt.mpr h)

/-- One octet is to follow after each from 194 to 223. -/
theorem announced?_one : ∀ a < 30,
    announced? (UInt8.ofNat (a + 194)) = some (1, 0x80, 0xBF, a + 2) := by decide

/-- Two octets are to follow after each from 224 to 239. -/
theorem announced?_two : ∀ a < 16,
    announced? (UInt8.ofNat (a + 224)) =
      some (2, if a = 0 then 0xA0 else 0x80, if a = 13 then 0x9F else 0xBF, a) := by decide

/-- Three octets are to follow after each from 240 to 244. -/
theorem announced?_three : ∀ a < 5,
    announced? (UInt8.ofNat (a + 240)) =
      some (3, if a = 0 then 0x90 else 0x80, if a = 4 then 0x8F else 0xBF, a) := by decide

/-- Only octets of ASCII and those from 194 to 244 begin a sequence. -/
theorem lt_of_announced? : ∀ lead, announced? lead ≠ none →
    lead.toNat < 128 ∨ (194 ≤ lead.toNat ∧ lead.toNat < 245) :=
  forall_octet (by decide +kernel)

/-! ### What follows it -/

/-- A character is read if the sequence that was announced is complete. -/
theorem next_eq_some {c : Char} :
    next lead bytes = (some c, rest) ↔ ∃ owed low high bits v,
      announced? lead = some (owed, low, high, bits) ∧
        continueWith owed low high bits bytes = (some v, rest) ∧ c = Char.ofNat v := by
  unfold next
  cases announced? lead with
  | none => simp
  | some form =>
    obtain ⟨owed, low, high, bits⟩ := form
    simp only [Prod.mk.injEq, Option.map_eq_some_iff, Option.some.injEq]
    constructor
    · rintro ⟨⟨v, hv, rfl⟩, hrest⟩
      exact ⟨owed, low, high, bits, v, ⟨rfl, rfl, rfl, rfl⟩, Prod.ext hv hrest, rfl⟩
    · rintro ⟨_, _, _, _, v, ⟨rfl, rfl, rfl, rfl⟩, hread, rfl⟩
      rw [hread]
      exact ⟨⟨v, rfl, rfl⟩, rfl⟩

/-- Where no octet is owed, the number that was gathered is the one that is read. -/
theorem continueWith_zero_eq_some :
    continueWith 0 low high bits bytes = (some v, rest) ↔ bits = v ∧ bytes = rest := by
  rw [continueWith, Prod.mk.injEq, Option.some.injEq]

/-! ### The octets of a number -/

/-- The octets that are written for a number, by how many there are. Each octet after the first
holds six bits; the bounds on the second one leave each number its shortest form only, and leave out
what is no character. -/
inductive Written : Nat → Bytes → Prop
  | one {a : Nat} (ha : a < 128) : Written a [UInt8.ofNat a]
  | two {a x : Nat} (ha : a < 30) (hx : x < 64) :
      Written ((a + 2) * 64 + x) [UInt8.ofNat (a + 194), UInt8.ofNat (x + 128)]
  | three {a x y : Nat} (ha : a < 16) (hx : x < 64) (hlow : a = 0 → 32 ≤ x)
      (hhigh : a = 13 → x < 32) (hy : y < 64) :
      Written ((a * 64 + x) * 64 + y)
        [UInt8.ofNat (a + 224), UInt8.ofNat (x + 128), UInt8.ofNat (y + 128)]
  | four {a x y z : Nat} (ha : a < 5) (hx : x < 64) (hlow : a = 0 → 16 ≤ x)
      (hhigh : a = 4 → x < 16) (hy : y < 64) (hz : z < 64) :
      Written (((a * 64 + x) * 64 + y) * 64 + z)
        [UInt8.ofNat (a + 240), UInt8.ofNat (x + 128), UInt8.ofNat (y + 128), UInt8.ofNat (z + 128)]

/-- The number of written octets is that of a character, and the octets are those of it. -/
theorem Written.eq_utf8EncodeChar (h : Written v bytes) :
    v.isValidChar ∧ bytes = String.utf8EncodeChar (Char.ofNat v) := by
  have hvalid : v.isValidChar := by cases h <;> unfold Nat.isValidChar <;> omega
  refine ⟨hvalid, ?_⟩
  unfold String.utf8EncodeChar
  rw [toNat_char hvalid]
  cases h with
  | one ha => rw [if_pos (by omega)]
  | @two a x ha hx =>
    have hlead : ((a + 2) * 64 + x) / 64 % 32 + 192 = a + 194 := by omega
    have hlast : ((a + 2) * 64 + x) % 64 + 128 = x + 128 := by omega
    rw [if_neg (by omega), if_pos (by omega), hlead, hlast]
  | @three a x y ha hx hlow hhigh hy =>
    have hlead : ((a * 64 + x) * 64 + y) / 4096 % 16 + 224 = a + 224 := by omega
    have hnext : ((a * 64 + x) * 64 + y) / 64 % 64 + 128 = x + 128 := by omega
    have hlast : ((a * 64 + x) * 64 + y) % 64 + 128 = y + 128 := by omega
    rw [if_neg (by omega), if_neg (by omega), if_pos (by omega), hlead, hnext, hlast]
  | @four a x y z ha hx hlow hhigh hy hz =>
    have hlead : (((a * 64 + x) * 64 + y) * 64 + z) / 262144 % 8 + 240 = a + 240 := by omega
    have hnext : (((a * 64 + x) * 64 + y) * 64 + z) / 4096 % 64 + 128 = x + 128 := by omega
    have hthird : (((a * 64 + x) * 64 + y) * 64 + z) / 64 % 64 + 128 = y + 128 := by omega
    have hlast : (((a * 64 + x) * 64 + y) * 64 + z) % 64 + 128 = z + 128 := by omega
    rw [if_neg (by omega), if_neg (by omega), if_neg (by omega), hlead, hnext, hthird, hlast]

/-- The octets of a character are written for its number. -/
theorem written_utf8EncodeChar (c : Char) : Written c.val.toNat (String.utf8EncodeChar c) := by
  have hvalid : c.val.toNat.isValidChar := c.valid
  unfold String.utf8EncodeChar
  generalize c.val.toNat = v at hvalid
  unfold Nat.isValidChar at hvalid
  dsimp only
  split
  · exact .one (by omega)
  split
  · have h := Written.two (a := v / 64 - 2) (x := v % 64) (by omega) (by omega)
    have hv : (v / 64 - 2 + 2) * 64 + v % 64 = v := by omega
    have hlead : v / 64 - 2 + 194 = v / 64 % 32 + 192 := by omega
    rwa [hv, hlead] at h
  split
  · have h := Written.three (a := v / 4096) (x := v / 64 % 64) (y := v % 64) (by omega) (by omega)
      (by omega) (by omega) (by omega)
    have hv : (v / 4096 * 64 + v / 64 % 64) * 64 + v % 64 = v := by omega
    have hlead : v / 4096 + 224 = v / 4096 % 16 + 224 := by omega
    rwa [hv, hlead] at h
  · have h := Written.four (a := v / 262144) (x := v / 4096 % 64) (y := v / 64 % 64) (z := v % 64)
      (by omega) (by omega) (by omega) (by omega) (by omega) (by omega)
    have hv : ((v / 262144 * 64 + v / 4096 % 64) * 64 + v / 64 % 64) * 64 + v % 64 = v := by omega
    have hlead : v / 262144 + 240 = v / 262144 % 8 + 240 := by omega
    rwa [hv, hlead] at h

/-! ### Reading what is written -/

/-- Six bits in an octet that is owed join the bits before them. -/
theorem continueWith_octet {x : Nat} (hx : x < 64) (hlow : low.toNat ≤ x + 128)
    (hhigh : x + 128 ≤ high.toNat) (tail : Bytes) :
    continueWith (owed + 1) low high bits (UInt8.ofNat (x + 128) :: tail) =
      continueWith owed 0x80 0xBF (bits * 64 + x) tail := by
  have hoctet : (UInt8.ofNat (x + 128)).toNat = x + 128 :=
    UInt8.toNat_ofNat_of_lt' (show x + 128 < 256 by omega)
  have hbits : (x + 128) % 64 = x := by omega
  rw [continueWith, if_pos, hoctet, hbits]
  rw [UInt8.le_iff_toNat_le, UInt8.le_iff_toNat_le, hoctet]
  exact ⟨hlow, hhigh⟩

/-- The octets that are written for a number are read as the character of this number. -/
theorem Written.next_eq {front : Bytes} (h : Written v (lead :: front)) (rest : Bytes) :
    next lead (front ++ rest) = (some (Char.ofNat v), rest) := by
  have hleast : (0x80 : UInt8).toNat = 128 := rfl
  have hgreatest : (0xBF : UInt8).toNat = 191 := rfl
  generalize hwritten : lead :: front = bytes at h
  cases h with
  | one ha =>
    obtain ⟨rfl, rfl⟩ := List.cons.inj hwritten
    have hoctet : (UInt8.ofNat v).toNat = v := UInt8.toNat_ofNat_of_lt' (show v < 256 by omega)
    have hlead := announced?_of_lt (hoctet.symm ▸ ha)
    rw [hoctet] at hlead
    simp [next, hlead, continueWith]
  | @two a x ha hx =>
    obtain ⟨rfl, rfl⟩ := List.cons.inj hwritten
    simp only [next, announced?_one a ha, List.cons_append, List.nil_append]
    rw [continueWith_octet hx (by omega) (by omega)]
    rfl
  | @three a x y ha hx hlow hhigh hy =>
    obtain ⟨rfl, rfl⟩ := List.cons.inj hwritten
    simp only [next, announced?_two a ha, List.cons_append, List.nil_append]
    rw [continueWith_octet hx, continueWith_octet hy (by omega) (by omega)]
    · rfl
    · split
      · next ha => exact Nat.add_le_add_right (hlow ha) 128
      · omega
    · split
      · next ha => exact Nat.add_le_add_right (Nat.le_of_lt_succ (hhigh ha)) 128
      · omega
  | @four a x y z ha hx hlow hhigh hy hz =>
    obtain ⟨rfl, rfl⟩ := List.cons.inj hwritten
    simp only [next, announced?_three a ha, List.cons_append, List.nil_append]
    rw [continueWith_octet hx, continueWith_octet hy (by omega) (by omega),
      continueWith_octet hz (by omega) (by omega)]
    · rfl
    · split
      · next ha => exact Nat.add_le_add_right (hlow ha) 128
      · omega
    · split
      · next ha => exact Nat.add_le_add_right (Nat.le_of_lt_succ (hhigh ha)) 128
      · omega

/-- An octet that is owed is there, in the range that was announced, and its six bits join the bits
before them. -/
theorem exists_of_continueWith (hlow : 128 ≤ low.toNat) (hhigh : high.toNat ≤ 191)
    (h : continueWith (owed + 1) low high bits bytes = (some v, rest)) :
    ∃ x tail, bytes = UInt8.ofNat (x + 128) :: tail ∧ x < 64 ∧
      low.toNat ≤ x + 128 ∧ x + 128 ≤ high.toNat ∧
      continueWith owed 0x80 0xBF (bits * 64 + x) tail = (some v, rest) := by
  cases bytes with
  | nil => cases h
  | cons b tail =>
    rw [continueWith] at h
    split at h
    · next hrange =>
      rw [UInt8.le_iff_toNat_le, UInt8.le_iff_toNat_le] at hrange
      have hsum : b.toNat - 128 + 128 = b.toNat := by omega
      have hbits : b.toNat % 64 = b.toNat - 128 := by omega
      refine ⟨b.toNat - 128, tail, ?_, by omega, by omega, by omega, hbits ▸ h⟩
      rw [hsum, UInt8.ofNat_toNat]
    · cases h

/-- What is read as a character was written for its number. -/
theorem exists_written_of_next {c : Char} (h : next lead bytes = (some c, rest)) :
    ∃ v front, Written v (lead :: front) ∧ bytes = front ++ rest ∧ c = Char.ofNat v := by
  obtain ⟨owed, low, high, bits, v, hlead, hread, rfl⟩ := next_eq_some.mp h
  have hform {k base : Nat} (hsum : lead.toNat = k + base) : lead = UInt8.ofNat (k + base) := by
    rw [← hsum, UInt8.ofNat_toNat]
  have hrange := lt_of_announced? lead (by simp [hlead])
  rcases Nat.lt_or_ge lead.toNat 128 with hone | hmany
  · rw [announced?_of_lt hone] at hlead
    cases hlead
    obtain ⟨rfl, rfl⟩ := continueWith_zero_eq_some.mp hread
    refine ⟨lead.toNat, [], ?_, rfl, rfl⟩
    have hwritten := Written.one hone
    rwa [UInt8.ofNat_toNat] at hwritten
  rcases Nat.lt_or_ge lead.toNat 224 with htwo | hmore
  · obtain ⟨a, ha⟩ : ∃ a, lead.toNat = a + 194 := ⟨lead.toNat - 194, by omega⟩
    obtain rfl := hform ha
    rw [announced?_one a (by omega)] at hlead
    cases hlead
    obtain ⟨x, tail, rfl, hx, -, -, hread⟩ := exists_of_continueWith (by decide) (by decide) hread
    obtain ⟨rfl, rfl⟩ := continueWith_zero_eq_some.mp hread
    exact ⟨_, _, .two (by omega) hx, rfl, rfl⟩
  rcases Nat.lt_or_ge lead.toNat 240 with hthree | hfour
  · obtain ⟨a, ha⟩ : ∃ a, lead.toNat = a + 224 := ⟨lead.toNat - 224, by omega⟩
    obtain rfl := hform ha
    rw [announced?_two a (by omega)] at hlead
    cases hlead
    obtain ⟨x, tail, rfl, hx, hlow, hhigh, hread⟩ :=
      exists_of_continueWith (by split <;> decide) (by split <;> decide) hread
    obtain ⟨y, tail, rfl, hy, -, -, hread⟩ := exists_of_continueWith (by decide) (by decide) hread
    obtain ⟨rfl, rfl⟩ := continueWith_zero_eq_some.mp hread
    refine ⟨_, _, .three (by omega) hx ?_ ?_ hy, rfl, rfl⟩
    · rintro rfl
      exact Nat.le_of_add_le_add_right (show 32 + 128 ≤ x + 128 from hlow)
    · rintro rfl
      exact Nat.lt_succ_of_le (Nat.le_of_add_le_add_right hhigh)
  · obtain ⟨a, ha⟩ : ∃ a, lead.toNat = a + 240 := ⟨lead.toNat - 240, by omega⟩
    obtain rfl := hform ha
    rw [announced?_three a (by omega)] at hlead
    cases hlead
    obtain ⟨x, tail, rfl, hx, hlow, hhigh, hread⟩ :=
      exists_of_continueWith (by split <;> decide) (by split <;> decide) hread
    obtain ⟨y, tail, rfl, hy, -, -, hread⟩ := exists_of_continueWith (by decide) (by decide) hread
    obtain ⟨z, tail, rfl, hz, -, -, hread⟩ := exists_of_continueWith (by decide) (by decide) hread
    obtain ⟨rfl, rfl⟩ := continueWith_zero_eq_some.mp hread
    refine ⟨_, _, .four (by omega) hx ?_ ?_ hy hz, rfl, rfl⟩
    · rintro rfl
      exact Nat.le_of_add_le_add_right (show 16 + 128 ≤ x + 128 from hlow)
    · rintro rfl
      exact Nat.lt_succ_of_le (Nat.le_of_add_le_add_right hhigh)

/-- A character is read where, and only where, its octets stand. -/
theorem next_eq_some_iff {c : Char} :
    next lead bytes = (some c, rest) ↔ lead :: bytes = String.utf8EncodeChar c ++ rest := by
  constructor
  · intro h
    obtain ⟨v, front, hwritten, rfl, rfl⟩ := exists_written_of_next h
    rw [← hwritten.eq_utf8EncodeChar.2, List.cons_append]
  · intro h
    have hwritten := written_utf8EncodeChar c
    obtain ⟨first, front, hfront⟩ : ∃ first front, String.utf8EncodeChar c = first :: front :=
      List.exists_cons_of_ne_nil (by simp)
    rw [hfront] at h hwritten
    rw [List.cons_append] at h
    obtain ⟨rfl, rfl⟩ := List.cons.inj h
    rw [hwritten.next_eq, Char.toNat_val, Char.ofNat_toNat]

/-! ### Texts -/

@[simp] theorem decode?_nil : decode? [] = some [] := by
  rw [decode?, pieces_nil]
  rfl

/-- A text is read character by character. -/
theorem decode?_cons_eq_some {text : List Char} :
    decode? (lead :: bytes) = some text ↔ ∃ c rest tail,
      next lead bytes = (some c, rest) ∧ decode? rest = some tail ∧ text = c :: tail := by
  unfold decode?
  rw [pieces_cons, List.mapM_cons]
  simp only [id, Option.bind_eq_bind, Option.bind_eq_some_iff, Option.pure_def, Option.some.injEq,
    Prod.ext_iff]
  constructor
  · rintro ⟨c, hc, tail, htail, rfl⟩
    exact ⟨c, _, tail, ⟨hc, rfl⟩, htail, rfl⟩
  · rintro ⟨c, rest, tail, ⟨hc, rfl⟩, htail, rfl⟩
    exact ⟨c, hc, tail, htail, rfl⟩

/-- Octets are read as a text if, and only if, they are those that are written for it. -/
theorem decode?_eq_some_iff {text : List Char} :
    decode? bytes = some text ↔ bytes = encode text := by
  induction text generalizing bytes with
  | nil =>
    cases bytes with
    | nil => simp [encode]
    | cons lead bytes => simp [decode?_cons_eq_some, encode]
  | cons c text ih =>
    have hencode : encode (c :: text) = String.utf8EncodeChar c ++ encode text := rfl
    rw [hencode]
    cases bytes with
    | nil => simp [decode?_nil]
    | cons lead bytes =>
      rw [decode?_cons_eq_some]
      constructor
      · rintro ⟨_, rest, _, hnext, hrest, heq⟩
        obtain ⟨rfl, rfl⟩ := List.cons.inj heq
        rw [next_eq_some_iff.mp hnext, ih.mp hrest]
      · intro h
        exact ⟨c, encode text, text, next_eq_some_iff.mpr h, ih.mpr rfl, rfl⟩

/-- The octets that are written for a text fall into those of its characters. -/
theorem pieces_encode (text : List Char) : pieces (encode text) = text.map some := by
  induction text with
  | nil => exact pieces_nil
  | cons c text ih =>
    obtain ⟨lead, front, hfront⟩ : ∃ lead front, String.utf8EncodeChar c = lead :: front :=
      List.exists_cons_of_ne_nil (by simp)
    have hencode : encode (c :: text) = lead :: (front ++ encode text) :=
      congrArg (· ++ encode text) hfront
    have hnext : next lead (front ++ encode text) = (some c, encode text) := by
      rw [next_eq_some_iff, hfront]
      rfl
    rw [hencode, pieces_cons, hnext, ih]
    rfl

/-- The octets that are written for a text are read as this text, without a replacement. -/
theorem decodeLossy_encode (text : List Char) : decodeLossy (encode text) = text := by
  rw [decodeLossy, pieces_encode, List.map_map]
  exact List.map_id text

/-- Texts with the same octets are the same. -/
theorem encode_injective {text other : List Char} (h : encode text = encode other) :
    text = other := by
  rw [← decodeLossy_encode text, h, decodeLossy_encode]

end Utf8

end ForwardProxy
