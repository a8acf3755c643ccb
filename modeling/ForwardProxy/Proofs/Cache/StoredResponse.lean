import ForwardProxy.Cache.StoredResponse
import ForwardProxy.Proofs.Http.Headers
import ForwardProxy.Proofs.Text.Ascii
import ForwardProxy.Proofs.Text.Cut

/-!
# Stored responses are read back

The written form of a response determines it. Neither a status code, nor a name, nor a value holds a
carriage return, so the first empty line is the one that ends the header, whatever the values and
the body are; and no name holds a colon, so a header line is cut where its name ends.
-/

namespace ForwardProxy.Cache.StoredResponse

open Http

/-- The written form of one header line, without its line end. -/
def lineOctets (line : FieldName × FieldValue) : Bytes :=
  line.1.bytes ++ colonSpace ++ line.2.bytes

/-- No octet that separates names, values and lines occurs in a token. -/
theorem not_mem_name (name : FieldName) {b : UInt8} (hb : b = 13 ∨ b = 58) : b ∉ name.bytes := by
  intro hmem
  have hvalid := name.valid
  simp only [isFieldName, Bool.and_eq_true, List.all_eq_true] at hvalid
  have htoken := (hvalid.2 b hmem).1
  rcases hb with rfl | rfl <;> revert htoken <;> decide

/-- No carriage return occurs in a value. -/
theorem not_mem_value (value : FieldValue) : (13 : UInt8) ∉ value.bytes := by
  intro hmem
  have hoctet := List.all_eq_true.mp value.valid 13 hmem
  revert hoctet
  decide

/-- The written form of a header line is a line. -/
theorem isLine_lineOctets (line : FieldName × FieldValue) : (lineOctets line).IsLine := by
  refine ⟨by simp [lineOctets, colonSpace], ?_⟩
  simp only [lineOctets, colonSpace, List.mem_append, not_or]
  exact ⟨⟨not_mem_name line.1 (Or.inl rfl), by decide⟩, not_mem_value line.2⟩

/-- The digits of a status code are a line. -/
theorem isLine_digits (status : Status) : Bytes.IsLine status.digits := by
  have hcode := status.valid
  refine ⟨by simp [Status.digits], ?_⟩
  have hne (d : Nat) (hd : d < 10) : (13 : UInt8) ≠ (48 + d).toUInt8 := by
    intro heq
    have hnat := congrArg UInt8.toNat heq
    simp only [Nat.toUInt8, UInt8.toNat_ofNat', UInt8.reduceToNat] at hnat
    omega
  simp only [Status.digits, List.mem_cons, List.not_mem_nil, or_false, not_or]
  exact ⟨hne _ (by omega), hne _ (by omega), hne _ (by omega)⟩

/-- The digits of a status code are read back. -/
theorem readStatus?_digits (status : Status) : readStatus? status.digits = some status := by
  obtain ⟨code, hcode⟩ := status
  have hhundreds := Text.isDigitFor_octet (show code / 100 < 10 by omega)
  have htens := Text.isDigitFor_octet (show code / 10 % 10 < 10 by omega)
  have hones := Text.isDigitFor_octet (show code % 10 < 10 by omega)
  have hascii : ∀ b ∈ [(48 + code / 100).toUInt8, (48 + code / 10 % 10).toUInt8,
      (48 + code % 10).toUInt8], b < 0x80 := by
    simp only [List.forall_mem_cons]
    exact ⟨hhundreds.ascii, htens.ascii, hones.ascii, by simp⟩
  have hlimit : code / 100 * 100 + code / 10 % 10 * 10 + code % 10 ≤ 65535 := by omega
  have hread := Text.unsigned?_three_digits hhundreds htens hones hlimit
  have hsum : code / 100 * 100 + code / 10 % 10 * 10 + code % 10 = code := by omega
  rw [hsum] at hread
  simp only [readStatus?, Status.digits, Utf8.decode?_of_ascii hascii, Option.bind_eq_bind,
    Option.bind_some, hread, Status.ofCode?, dif_pos hcode]

/-- A written header line adds its value to the name. -/
theorem addLine_lineOctets (headers : Headers) (line : FieldName × FieldValue) :
    addLine headers (lineOctets line) = .ok (headers.append line.1 line.2) := by
  have hcut : (lineOctets line).cut? colonSpace = some (line.1.bytes, line.2.bytes) := by
    have h := Bytes.cut?_of_not_mem [32] line.2.bytes (not_mem_name line.1 (Or.inr rfl))
    simpa [lineOctets, colonSpace] using h
  simp only [addLine, hcut, FieldName.ofBytes?_bytes, FieldValue.ofBytes?_bytes]

/-- Written header lines add their values one by one. -/
theorem foldlM_addLine (headers : Headers) (lines : List (FieldName × FieldValue)) :
    (lines.map lineOctets).foldlM addLine headers =
      .ok (lines.foldl (fun headers line => headers.append line.1 line.2) headers) := by
  induction lines generalizing headers with
  | nil => rfl
  | cons line lines ih =>
    rw [List.map_cons, List.foldlM_cons, addLine_lineOctets]
    exact ih _

/-- The header of a written response ends at its first empty line, and its lines are the status code
and one for each value. -/
theorem cut?_encode (response : Response) :
    (encode response).cut? headerEnd =
      some (Bytes.lineEnd.intercalate
        (response.status.digits :: response.headers.lines.map lineOctets), response.body) := by
  have h := Bytes.cut?_written_lines (response.headers.lines.map lineOctets) response.body
    (isLine_digits response.status) (List.forall_mem_map.mpr fun line _ => isLine_lineOctets line)
  simpa [encode, headerEnd, lineOctets, List.flatMap_map] using h

/-- The written form of a response is read as that response, with its header fields in the same
order. -/
theorem decode_encode (response : Response) : decode (encode response) = .ok response := by
  have hlines : Bytes.lines (Bytes.lineEnd.intercalate
        (response.status.digits :: response.headers.lines.map lineOctets)) =
      response.status.digits :: response.headers.lines.map lineOctets := by
    apply Bytes.lines_intercalate
    simp only [List.forall_mem_cons, List.forall_mem_map]
    exact ⟨isLine_digits response.status, fun line _ => isLine_lineOctets line⟩
  have hheaders : response.headers.lines.foldl
      (fun headers line => headers.append line.1 line.2) Headers.empty = response.headers :=
    Headers.ofLines_lines response.headers
  simp only [decode, cut?_encode, hlines, List.headD_cons, List.tail_cons, readStatus?_digits,
    foldlM_addLine, hheaders]
  rfl

/-- Reading undoes writing: the response that is read from a written one has the same status code,
the same body, the same values of each name in order, and the same written form. Whatever octets
are read as a response, writing that response and reading it again gives the same response. -/
theorem decode_encode_roundtrip :
    (∀ response : Response, ∃ again, decode (encode response) = .ok again ∧
      again.status = response.status ∧ again.body = response.body ∧
      (∀ name, again.headers.values name = response.headers.values name) ∧
      encode again = encode response) ∧
    ∀ data : Bytes, (do decode (encode (← decode data))) = decode data := by
  refine ⟨fun response => ⟨response, decode_encode response, rfl, rfl, fun _ => rfl, rfl⟩, ?_⟩
  intro data
  cases hdecode : decode data with
  | error cause => rfl
  | ok response => exact decode_encode response

end ForwardProxy.Cache.StoredResponse
