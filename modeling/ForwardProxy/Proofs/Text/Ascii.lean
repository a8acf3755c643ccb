import ForwardProxy.Proofs.Text.Trim
import ForwardProxy.Text.Integer
import ForwardProxy.Text.Utf8
import Mathlib.Tactic.IntervalCases

/-!
# Numbers in ASCII

Octets below 128 are well-formed text, one character for each. Three digits with nothing around
them read as the number that they denote.
-/

namespace ForwardProxy

namespace Utf8

/-- An octet below 128 is a character of its own. -/
theorem next_of_lt {lead : UInt8} (h : lead < 0x80) (rest : Bytes) :
    next lead rest = (some (Char.ofNat lead.toNat), rest) := by
  simp [next, announced?, h, continueWith]

/-- ASCII is read as text, one character for each octet. -/
theorem decode?_of_ascii {bytes : Bytes} (h : ∀ b ∈ bytes, b < 0x80) :
    decode? bytes = some bytes.toChars := by
  unfold decode?
  induction bytes with
  | nil => simp [Bytes.toChars]
  | cons b bytes ih =>
    have hrest := ih fun other hmem => h other (List.mem_cons_of_mem b hmem)
    rw [pieces_cons, next_of_lt (h b (by simp))]
    simp only [List.mapM_cons, hrest]
    rfl

end Utf8

namespace Text

/-- An octet that is the digit for a number, as the readers of text see it. -/
structure IsDigitFor (d : Nat) (b : UInt8) : Prop where
  /-- It is ASCII. -/
  ascii : b < 0x80
  /-- Its character is a digit. -/
  isDigit : (Char.ofNat b.toNat).isDigit = true
  /-- The digit counts `d`. -/
  value : (Char.ofNat b.toNat).toNat = 48 + d
  /-- It is not trimmed away. -/
  not_blank : isBlank (Char.ofNat b.toNat) = false
  /-- It is no sign. -/
  ne_plus : Char.ofNat b.toNat ≠ '+'

/-- The octet that is written for a number below ten is its digit. -/
theorem isDigitFor_octet {d : Nat} (hd : d < 10) : IsDigitFor d (48 + d).toUInt8 := by
  interval_cases d <;> constructor <;> decide

/-- Three digits read as the number that they denote, with or without trimming. -/
theorem unsigned?_three_digits {x y z : Nat} {a b c : UInt8} (ha : IsDigitFor x a)
    (hb : IsDigitFor y b) (hc : IsDigitFor z c) {limit : Nat}
    (hlimit : x * 100 + y * 10 + z ≤ limit) :
    unsigned? limit (trim (Bytes.toChars [a, b, c])) = some (x * 100 + y * 10 + z) := by
  have htrim : trim (Bytes.toChars [a, b, c]) = Bytes.toChars [a, b, c] := by
    apply trim_eq_self
    constructor
    · simpa [Bytes.toChars] using ha.not_blank
    · simpa [Bytes.toChars] using hc.not_blank
  have hvalue : digitsValue (Bytes.toChars [a, b, c]) = x * 100 + y * 10 + z := by
    simp only [digitsValue, Bytes.toChars, List.map_cons, List.map_nil, List.foldl_cons,
      List.foldl_nil, ha.value, hb.value, hc.value]
    omega
  have hnumber : natural? (Bytes.toChars [a, b, c]) = some (x * 100 + y * 10 + z) := by
    rw [natural?, if_pos, hvalue]
    simp [Bytes.toChars, ha.isDigit, hb.isDigit, hc.isDigit]
  -- The first digit is no plus sign, so the whole text is the number.
  have hsign : unsigned? limit (Bytes.toChars [a, b, c]) =
      (natural? (Bytes.toChars [a, b, c])).filter (· ≤ limit) := by
    unfold unsigned?
    split
    · next digits heq => exact absurd (List.cons.inj heq).1 ha.ne_plus
    · rfl
  rw [htrim, hsign, hnumber, Option.filter_some, if_pos (by simpa using hlimit)]

end Text

end ForwardProxy
