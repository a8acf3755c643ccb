import ForwardProxy.Http.Token
import ForwardProxy.Proofs.Text.Utf8

/-!
# Octets of names and values

Which octets are read as the name of a header field and which as a value. Names are read in any
letter case and kept in lower case; an octet in lower case is allowed where the octet itself is.
-/

namespace ForwardProxy.Http

/-- Octets that name a header field, in any letter case. -/
structure IsName (bytes : Bytes) : Prop where
  /-- There is one. -/
  ne_nil : bytes ≠ []
  /-- There are not too many. -/
  length_le : bytes.length ≤ maxNameLength
  /-- They make up a token. -/
  isToken : ∀ b ∈ bytes, isTokenOctet b = true

/-- Octets that are the value of a header field: no controls but the tab. -/
def IsValue (bytes : Bytes) : Prop := ∀ b ∈ bytes, isValueOctet b = true

/-- Every octet but the controls may stand in a value. -/
theorem isValueOctet_of_toNat {b : UInt8} (hleast : 32 ≤ b.toNat) (hdelete : b.toNat ≠ 127) :
    isValueOctet b = true := by
  have hle : 32 ≤ b := UInt8.le_iff_toNat_le.mpr hleast
  have hne : b ≠ 127 := fun heq => hdelete (congrArg UInt8.toNat heq)
  simp [isValueOctet, hle, hne]

/-- Text without controls is a value. -/
theorem isValue_encode {text : List Char} (h : ∀ c ∈ text, 32 ≤ c.toNat ∧ c.toNat ≠ 127) :
    IsValue (Utf8.encode text) := by
  intro b hb
  obtain ⟨c, hc, hmem⟩ := List.mem_flatMap.mp hb
  have hwritten := Utf8.written_utf8EncodeChar c
  generalize String.utf8EncodeChar c = octets at hmem hwritten
  have hchar : 32 ≤ c.val.toNat ∧ c.val.toNat ≠ 127 := h c hc
  generalize c.val.toNat = n at hchar hwritten
  -- The only octet of a character below 128 is its number; all others are beyond 127.
  have hoctet : ∀ m < 256, 32 ≤ m → m ≠ 127 → b = UInt8.ofNat m → isValueOctet b = true := by
    rintro m hm hleast hdelete rfl
    have hnat : (UInt8.ofNat m).toNat = m := by
      rw [UInt8.toNat_ofNat', Nat.mod_eq_of_lt hm]
    exact isValueOctet_of_toNat (by omega) (by omega)
  cases hwritten <;> simp only [List.mem_cons, List.not_mem_nil, or_false] at hmem
  case one ha => exact hoctet _ (by omega) hchar.1 hchar.2 hmem
  case two ha hx =>
    rcases hmem with hmem | hmem <;> exact hoctet _ (by omega) (by omega) (by omega) hmem
  case three ha hx _ _ hy =>
    rcases hmem with hmem | hmem | hmem <;>
      exact hoctet _ (by omega) (by omega) (by omega) hmem
  case four ha hx _ _ hy hz =>
    rcases hmem with hmem | hmem | hmem | hmem <;>
      exact hoctet _ (by omega) (by omega) (by omega) hmem

/-- An octet in lower case is in lower case, and it stays what a token may hold. -/
theorem isTokenOctet_lowered (b : UInt8) :
    (isTokenOctet (lowered b) && lowered (lowered b) == lowered b) = isTokenOctet b := by
  revert b
  exact forall_octet (by decide +kernel)

/-- Octets are a name if they are one in lower case. -/
theorem isFieldName_map_lowered {bytes : Bytes} :
    isFieldName (bytes.map lowered) = true ↔ IsName bytes := by
  simp only [isFieldName, Bool.and_eq_true, List.all_map, List.all_eq_true, Function.comp_apply,
    isTokenOctet_lowered]
  simp only [List.isEmpty_map, Bool.not_eq_true', List.isEmpty_eq_false_iff, List.length_map,
    decide_eq_true_eq]
  exact ⟨fun h => ⟨h.1.1, h.1.2, h.2⟩, fun h => ⟨⟨h.ne_nil, h.length_le⟩, h.isToken⟩⟩

/-- A name is read in any letter case, and kept in lower case. -/
theorem FieldName.ofBytes?_eq_some_iff {bytes : Bytes} {name : FieldName} :
    FieldName.ofBytes? bytes = some name ↔ IsName bytes ∧ name.bytes = bytes.map lowered := by
  unfold FieldName.ofBytes?
  split
  · next h =>
    rw [Option.some.injEq, FieldName.ext_iff]
    exact ⟨fun heq => ⟨isFieldName_map_lowered.mp h, heq.symm⟩, fun heq => heq.2.symm⟩
  · next h =>
    simp only [reduceCtorEq, false_iff]
    exact fun heq => h (isFieldName_map_lowered.mpr heq.1)

/-- A value is read as it is. -/
theorem FieldValue.ofBytes?_eq_some_iff {bytes : Bytes} {value : FieldValue} :
    FieldValue.ofBytes? bytes = some value ↔ IsValue bytes ∧ value.bytes = bytes := by
  unfold FieldValue.ofBytes?
  split
  · next h =>
    rw [Option.some.injEq, FieldValue.ext_iff]
    exact ⟨fun heq => ⟨List.all_eq_true.mp h, heq.symm⟩, fun heq => heq.2.symm⟩
  · next h =>
    simp only [reduceCtorEq, false_iff]
    exact fun heq => h (List.all_eq_true.mpr heq.1)

end ForwardProxy.Http
