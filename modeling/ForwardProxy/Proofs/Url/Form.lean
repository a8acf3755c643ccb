import ForwardProxy.Proofs.Text.Utf8
import ForwardProxy.Url.Form

/-!
# Form-encoded pairs are read back

Whatever text the names and values of pairs hold, the pairs that are read are those that were
written. Each octet is read from what is written for it. None of the signs that separate the parts
is written within them, so the parts are cut where they were put together.
-/

namespace ForwardProxy

namespace Percent

/-- An octet as the digits are written that stand for it. -/
def octets (b : UInt8) : Bytes := (octet b).map fun c => c.toNat.toUInt8

/-- A digit is read as the number that it was written for. -/
theorem hexValue?_hexDigit :
    ∀ n < 16, hexValue? (hexDigit n).toNat.toUInt8 = some n.toUInt8 := by decide

/-- The two halves of an octet make it up. -/
theorem halves (b : UInt8) : (b.toNat / 16).toUInt8 * 16 + (b.toNat % 16).toUInt8 = b := by
  revert b
  exact forall_octet (by decide +kernel)

variable {done rest : Bytes} {b : UInt8}

/-- An octet other than the percent sign stands for itself. -/
theorem decodeOnto_cons (h : b ≠ 37) :
    decodeOnto done (b :: rest) = decodeOnto (b :: done) rest := by
  rw [decodeOnto]
  rintro high low rest rfl
  exact absurd rfl h

/-- An octet is read from the percent sign and the digits that are written for it. -/
theorem decodeOnto_octets : decodeOnto done (octets b ++ rest) = decodeOnto (b :: done) rest := by
  have hb : b.toNat < 256 := b.toNat_lt
  have hhigh := hexValue?_hexDigit (b.toNat / 16) (by omega)
  have hlow := hexValue?_hexDigit (b.toNat % 16) (by omega)
  have hoctets : octets b ++ rest = 37 :: (hexDigit (b.toNat / 16)).toNat.toUInt8 ::
      (hexDigit (b.toNat % 16)).toNat.toUInt8 :: rest := rfl
  rw [hoctets, decodeOnto, hhigh, hlow]
  simp only [halves]

end Percent

namespace Url.Form

/-- What is written for an octet, as octets. -/
def writtenOctets (b : UInt8) : Bytes := (writtenOctet b).map fun c => c.toNat.toUInt8

/-- A plus sign is read as a space. -/
def unplussed (b : UInt8) : UInt8 := if b = 43 then 32 else b

/-- An octet may stand in a written name or value. -/
def IsWritten (b : UInt8) : Prop := isPlain b = true ∨ b = 37 ∨ b = 43

variable {b c : UInt8} {done rest : Bytes} {text : List Char}

/-- An octet that is written as it is has no meaning of its own, and is that of its character. -/
theorem plain_facts : ∀ b, isPlain b = true →
    b ≠ 37 ∧ b ≠ 43 ∧ (Char.ofNat b.toNat).toNat.toUInt8 = b :=
  forall_octet (by decide +kernel)

/-- A digit is written as it is. -/
theorem isPlain_hexDigit :
    ∀ n < 16, isPlain (Percent.hexDigit n).toNat.toUInt8 = true := by decide

/-- What stands for an octet are a percent sign and plain octets. -/
theorem forall_mem_octets (b : UInt8) :
    ∀ c ∈ Percent.octets b, c = 37 ∨ isPlain c = true := by
  have hb : b.toNat < 256 := b.toNat_lt
  have hoctets : Percent.octets b = [37, (Percent.hexDigit (b.toNat / 16)).toNat.toUInt8,
      (Percent.hexDigit (b.toNat % 16)).toNat.toUInt8] := rfl
  simp [hoctets, isPlain_hexDigit (b.toNat / 16) (by omega),
    isPlain_hexDigit (b.toNat % 16) (by omega)]

/-- An octet is written as it is, as a plus sign, or by its digits. -/
theorem writtenOctets_cases (b : UInt8) :
    (isPlain b = true ∧ writtenOctets b = [b]) ∨ (b = 32 ∧ writtenOctets b = [43]) ∨
      writtenOctets b = Percent.octets b := by
  unfold writtenOctets writtenOctet
  by_cases hplain : isPlain b = true
  · refine .inl ⟨hplain, ?_⟩
    rw [if_pos hplain]
    exact congrArg ([·]) (plain_facts b hplain).2.2
  · rw [if_neg hplain]
    by_cases hspace : b = 32
    · exact .inr (.inl ⟨hspace, by rw [if_pos hspace]; rfl⟩)
    · exact .inr (.inr (by rw [if_neg hspace]; rfl))

/-- Nothing but octets that may stand in a written text is written for an octet. -/
theorem isWritten_of_mem_writtenOctets (h : c ∈ writtenOctets b) : IsWritten c := by
  rcases writtenOctets_cases b with ⟨hplain, heq⟩ | ⟨-, heq⟩ | heq
  · rw [heq, List.mem_singleton] at h
    exact .inl (h ▸ hplain)
  · rw [heq, List.mem_singleton] at h
    exact .inr (.inr h)
  · rw [heq] at h
    rcases forall_mem_octets b c h with hpercent | hplain
    · exact .inr (.inl hpercent)
    · exact .inl hplain

/-- An octet is read from what is written for it. -/
theorem decodeOnto_writtenOctets :
    Percent.decodeOnto done ((writtenOctets b).map unplussed ++ rest) =
      Percent.decodeOnto (b :: done) rest := by
  rcases writtenOctets_cases b with ⟨hplain, heq⟩ | ⟨rfl, heq⟩ | heq
  · obtain ⟨hpercent, hplus, -⟩ := plain_facts b hplain
    have hsame : unplussed b = b := if_neg hplus
    rw [heq, List.map_singleton, hsame]
    exact Percent.decodeOnto_cons hpercent
  · rw [heq]
    exact Percent.decodeOnto_cons (by decide)
  · have hsame : (Percent.octets b).map unplussed = Percent.octets b := by
      refine (List.map_congr_left fun c hmem => if_neg ?_).trans (List.map_id _)
      rcases forall_mem_octets b c hmem with rfl | hplain
      · decide
      · exact (plain_facts c hplain).2.1
    rw [heq, hsame]
    exact Percent.decodeOnto_octets

/-- Octets are read from what is written for them. -/
theorem decodeOnto_flatMap_writtenOctets (bytes done : Bytes) :
    Percent.decodeOnto done ((bytes.flatMap writtenOctets).map unplussed) = done.reverse ++ bytes := by
  induction bytes generalizing done with
  | nil => simp [Percent.decodeOnto]
  | cons b bytes ih =>
    rw [List.flatMap_cons, List.map_append, decodeOnto_writtenOctets, ih]
    simp

/-- What is written for a text is what is written for its octets. -/
theorem writtenText_eq (text : List Char) :
    writtenText text = (Utf8.encode text).flatMap writtenOctets := by
  rw [writtenText, List.map_flatMap]
  rfl

/-- A text is read from what is written for it. -/
theorem readText_writtenText (text : List Char) : readText (writtenText text) = text := by
  have hdecode : Percent.decode ((writtenText text).map unplussed) = Utf8.encode text := by
    rw [writtenText_eq]
    exact decodeOnto_flatMap_writtenOctets _ []
  exact (congrArg Utf8.decodeLossy hdecode).trans (Utf8.decodeLossy_encode text)

/-- Nothing but octets that may stand in a written text is written for a text. -/
theorem isWritten_of_mem_writtenText (h : b ∈ writtenText text) : IsWritten b := by
  rw [writtenText_eq] at h
  obtain ⟨octet, -, hmem⟩ := List.mem_flatMap.mp h
  exact isWritten_of_mem_writtenOctets hmem

/-- No octet that is written for a name or value is one of the signs between the parts. -/
theorem IsWritten.ne_signs (h : IsWritten b) : b ≠ 38 ∧ b ≠ 61 := by
  rcases h with hplain | rfl | rfl
  · constructor <;> rintro rfl <;> exact absurd hplain (by decide)
  · decide
  · decide

/-- The written form of a pair. -/
def writtenPair (pair : List Char × List Char) : Bytes :=
  writtenText pair.1 ++ [61] ++ writtenText pair.2

/-- A pair is read from what is written for it. -/
theorem readPair_writtenPair (pair : List Char × List Char) :
    readPair (writtenPair pair) = pair := by
  have hname : (writtenPair pair).takeWhile (· ≠ 61) = writtenText pair.1 := by
    have hne : ∀ b ∈ writtenText pair.1, decide (b ≠ 61) = true := fun b hmem =>
      decide_eq_true (isWritten_of_mem_writtenText hmem).ne_signs.2
    rw [writtenPair, List.append_assoc, List.takeWhile_append_of_pos hne]
    simp
  have hvalue : (writtenPair pair).drop ((writtenText pair.1).length + 1) = writtenText pair.2 := by
    rw [writtenPair, List.drop_append_of_le_length (by simp)]
    simp
  simp only [readPair, hname, hvalue, readText_writtenText]

/-- A written pair holds nothing but the octets of a written text and the sign between its parts. -/
theorem eq_or_isWritten_of_mem_writtenPair {pair : List Char × List Char}
    (h : b ∈ writtenPair pair) : b = 61 ∨ IsWritten b := by
  rcases List.mem_append.mp h with hfront | hvalue
  · rcases List.mem_append.mp hfront with hname | hsign
    · exact .inr (isWritten_of_mem_writtenText hname)
    · exact .inl (List.mem_singleton.mp hsign)
  · exact .inr (isWritten_of_mem_writtenText hvalue)

/-- No sign between pairs stands in a pair. -/
theorem ampersand_not_mem_writtenPair (pair : List Char × List Char) : 38 ∉ writtenPair pair := by
  intro hmem
  rcases eq_or_isWritten_of_mem_writtenPair hmem with hsign | hwritten
  · exact absurd hsign (by decide)
  · exact hwritten.ne_signs.1 rfl

/-- Pairs are read from what is written for them. -/
theorem read_written (pairs : List (List Char × List Char)) : read (written pairs) = pairs := by
  by_cases hnone : pairs = []
  · rw [hnone]
    rfl
  · have hsplit : (written pairs).splitOn 38 = pairs.map writtenPair :=
      List.splitOn_intercalate 38
        (List.forall_mem_map.mpr fun pair _ => ampersand_not_mem_writtenPair pair)
        (by simpa using hnone)
    have hfull : ∀ part ∈ pairs.map writtenPair, (!part.isEmpty) = true :=
      List.forall_mem_map.mpr fun pair _ => by simp [writtenPair]
    rw [read, hsplit, List.filter_eq_self.mpr hfull, List.map_map]
    exact (List.map_congr_left fun pair _ => readPair_writtenPair pair).trans (List.map_id pairs)

end Url.Form

end ForwardProxy
