import ForwardProxy.Cache.StoredResponse
import ForwardProxy.Proofs.Http.Headers
import ForwardProxy.Proofs.Http.Token
import ForwardProxy.Proofs.Text.FirstCut
import ForwardProxy.Proofs.Text.Numerals

/-!
# The grammar of stored responses

Which octets are read as a stored response, and why others are not, said without the searches that
the reader makes. The empty line that comes first ends the header. Its first line has to be a
number of three digits, zeros in front apart, with blanks around it. Each other line either has no
colon with a space after it and is passed over, or it carries a value of a name, or it offends. The
first line that offends is the one that is quoted.
-/

namespace ForwardProxy.Cache.StoredResponse

open Http Bytes

variable {line head body data : Bytes} {lines : List Bytes} {name : FieldName}
  {value : FieldValue} {status : Status}

/-! ### The first line -/

/-- A line is a status code: well-formed text with a number of three digits in it, which may have a
plus sign and zeros in front of it, and nothing but blanks around. -/
def IsStatusLine (line : Bytes) (code : Nat) : Prop :=
  ∃ text number, line = Utf8.encode text ∧ Text.IsPadded text number ∧
    Text.IsUnsigned number code ∧ 100 ≤ code ∧ code ≤ 999

/-- A number of three digits is read as the status code that it is. -/
theorem ofCode?_eq_some_iff {code : Nat} :
    Status.ofCode? code = some status ↔ code = status.code := by
  unfold Status.ofCode?
  split
  · rw [Option.some.injEq, Status.ext_iff]
  · next h =>
    simp only [reduceCtorEq, false_iff]
    rintro rfl
    exact h status.valid

/-- A status code is read from a line that is one. -/
theorem readStatus?_eq_some_iff :
    readStatus? line = some status ↔ IsStatusLine line status.code := by
  unfold readStatus? IsStatusLine
  simp only [Option.bind_eq_bind, Option.bind_eq_some_iff, Utf8.decode?_eq_some_iff,
    Text.unsigned?_trim_eq_some_iff, ofCode?_eq_some_iff]
  constructor
  · rintro ⟨text, rfl, n, ⟨⟨number, hpadded, hnumber⟩, -⟩, rfl⟩
    exact ⟨text, number, rfl, hpadded, hnumber, status.valid⟩
  · rintro ⟨text, number, rfl, hpadded, hnumber, -, hle⟩
    exact ⟨text, rfl, status.code, ⟨⟨number, hpadded, hnumber⟩, by omega⟩, rfl⟩

/-- A line is one status code at most. -/
theorem IsStatusLine.unique {code other : Nat} (h : IsStatusLine line code)
    (hother : IsStatusLine line other) : code = other := by
  obtain ⟨-, -, -, -, -, hcode⟩ := id h
  obtain ⟨-, -, -, -, -, hrange⟩ := id hother
  have hread : readStatus? line = some ⟨code, hcode⟩ := readStatus?_eq_some_iff.mpr h
  have hagain : readStatus? line = some ⟨other, hrange⟩ := readStatus?_eq_some_iff.mpr hother
  rw [hread, Option.some.injEq] at hagain
  exact congrArg Status.code hagain

/-! ### The other lines -/

/-- A line carries a value of a name: they stand before and after the first colon that has a space
after it. -/
def Carries (line : Bytes) (name : FieldName) (value : FieldValue) : Prop :=
  ∃ before after, IsFirstCut line colonSpace before after ∧
    IsName before ∧ name.bytes = before.map lowered ∧ IsValue after ∧ value.bytes = after

/-- A line has a colon and a space, but no name before or no value after them. -/
def Offends (line : Bytes) : Prop :=
  ∃ before after, IsFirstCut line colonSpace before after ∧ ¬(IsName before ∧ IsValue after)

/-- The values that lines give to a name, in the order of the lines. -/
inductive GiveValues (name : FieldName) : List Bytes → List FieldValue → Prop
  /-- No line gives no value. -/
  | nil : GiveValues name [] []
  /-- A line that carries a value of the name gives this value. -/
  | takes {line : Bytes} {lines : List Bytes} {value : FieldValue} {values : List FieldValue}
      (h : Carries line name value) (hlines : GiveValues name lines values) :
      GiveValues name (line :: lines) (value :: values)
  /-- Any other line gives no value. -/
  | skips {line : Bytes} {lines : List Bytes} {values : List FieldValue}
      (h : ∀ value, ¬Carries line name value) (hlines : GiveValues name lines values) :
      GiveValues name (line :: lines) values

/-- A line offends, and no line before it does. -/
def IsFirstOffender (lines : List Bytes) (bad : Bytes) : Prop :=
  ∃ before after, lines = before ++ bad :: after ∧ (∀ line ∈ before, ¬Offends line) ∧ Offends bad

/-- If a line offends, there is a first one that does. -/
theorem not_offends_or_isFirstOffender (lines : List Bytes) :
    (∀ line ∈ lines, ¬Offends line) ∨ ∃ bad, IsFirstOffender lines bad := by
  induction lines with
  | nil => simp
  | cons line lines ih =>
    by_cases hline : Offends line
    · exact .inr ⟨line, [], lines, rfl, by simp, hline⟩
    · rcases ih with hlines | ⟨bad, before, after, rfl, hbefore, hbad⟩
      · exact .inl (List.forall_mem_cons.mpr ⟨hline, hlines⟩)
      · have hnone : ∀ other ∈ line :: before, ¬Offends other :=
          List.forall_mem_cons.mpr ⟨hline, hbefore⟩
        exact .inr ⟨bad, line :: before, after, rfl, hnone, hbad⟩

/-- A line carries one value at most. -/
theorem Carries.unique {other : FieldName} {another : FieldValue} (h : Carries line name value)
    (hother : Carries line other another) : other = name ∧ another = value := by
  obtain ⟨before, after, hcut, -, hname, -, hvalue⟩ := h
  obtain ⟨front, rest, hfirst, -, hbytes, -, hrest⟩ := hother
  obtain ⟨rfl, rfl⟩ := hcut.unique hfirst
  exact ⟨FieldName.ext (hbytes.trans hname.symm), FieldValue.ext (hrest.trans hvalue.symm)⟩

/-- The lines determine the values of a name. -/
theorem GiveValues.unique {values others : List FieldValue} (h : GiveValues name lines values)
    (hothers : GiveValues name lines others) : others = values := by
  induction h generalizing others with
  | nil =>
    cases hothers
    rfl
  | takes hline _ ih =>
    cases hothers with
    | takes hother hlines => rw [(hline.unique hother).2, ih hlines]
    | skips hother _ => exact absurd hline (hother _)
  | skips hline _ ih =>
    cases hothers with
    | takes hother _ => exact absurd hother (hline _)
    | skips _ hlines => exact ih hlines

/-- A line that offends is quoted. -/
theorem addLine_of_offends (h : Offends line) (headers : Headers) :
    addLine headers line = .error (.invalidHeader (Utf8.decodeLossy line)) := by
  obtain ⟨before, after, hcut, hnot⟩ := h
  unfold addLine
  rw [cut?_eq_some_iff.mpr hcut]
  dsimp only
  split
  · next name value hname hvalue =>
    exact absurd ⟨(FieldName.ofBytes?_eq_some_iff.mp hname).1,
      (FieldValue.ofBytes?_eq_some_iff.mp hvalue).1⟩ hnot
  · rfl

/-- A line without a colon and a space carries nothing. -/
theorem not_carries_of_not_cut (h : line.cut? colonSpace = none) : ¬Carries line name value := by
  rintro ⟨before, after, hfirst, -⟩
  exact cut?_eq_none_iff.mp h ⟨before, after, hfirst.eq.symm⟩

/-- A line without a colon and a space is passed over. -/
theorem addLine_of_not_cut (h : line.cut? colonSpace = none) (headers : Headers) :
    addLine headers line = .ok headers := by
  rw [addLine, h]

/-- A line that carries a value adds it to the name. -/
theorem addLine_of_carries (h : Carries line name value) (headers : Headers) :
    addLine headers line = .ok (headers.append name value) := by
  obtain ⟨before, after, hcut, hname, hbytes, hvalue, hafter⟩ := h
  rw [addLine, cut?_eq_some_iff.mpr hcut]
  dsimp only
  rw [FieldName.ofBytes?_eq_some_iff.mpr ⟨hname, hbytes⟩,
    FieldValue.ofBytes?_eq_some_iff.mpr ⟨hvalue, hafter⟩]

/-- A line that does not offend has no colon with a space after it, or carries a value. -/
theorem cut?_eq_none_or_carries (h : ¬Offends line) :
    line.cut? colonSpace = none ∨ ∃ name value, Carries line name value := by
  cases hcut : line.cut? colonSpace with
  | none => exact .inl rfl
  | some parts =>
    obtain ⟨before, after⟩ := parts
    have hfirst := cut?_eq_some_iff.mp hcut
    obtain ⟨hname, hvalue⟩ : IsName before ∧ IsValue after := by
      by_contra hnot
      exact h ⟨before, after, hfirst, hnot⟩
    exact .inr ⟨⟨before.map lowered, isFieldName_map_lowered.mpr hname⟩,
      ⟨after, List.all_eq_true.mpr hvalue⟩, before, after, hfirst, hname, rfl, hvalue, rfl⟩

/-- Lines of which none offends give their values to the names, after the values that were there. -/
theorem exists_foldlM_addLine (h : ∀ line ∈ lines, ¬Offends line) (headers : Headers) :
    ∃ added, lines.foldlM addLine headers = .ok added ∧
      ∀ name, ∃ values, GiveValues name lines values ∧
        added.values name = headers.values name ++ values := by
  -- By induction on the lines, for every header that they are added to.
  induction lines generalizing headers with
  | nil => exact ⟨headers, rfl, fun name => ⟨[], .nil, by simp⟩⟩
  | cons line lines ih =>
    rw [List.forall_mem_cons] at h
    rw [List.foldlM_cons]
    rcases cut?_eq_none_or_carries h.1 with hcut | ⟨name, value, hcarries⟩
    · obtain ⟨added, hadded, hvalues⟩ := ih h.2 headers
      refine ⟨added, ?_, fun name => ?_⟩
      · rw [addLine_of_not_cut hcut]
        exact hadded
      · obtain ⟨values, hgive, heq⟩ := hvalues name
        exact ⟨values, .skips (fun _ => not_carries_of_not_cut hcut) hgive, heq⟩
    · obtain ⟨added, hadded, hvalues⟩ := ih h.2 (headers.append name value)
      refine ⟨added, ?_, fun other => ?_⟩
      · rw [addLine_of_carries hcarries]
        exact hadded
      · obtain ⟨values, hgive, heq⟩ := hvalues other
        rw [Headers.values_append] at heq
        by_cases hother : other = name
        · subst hother
          refine ⟨value :: values, .takes hcarries hgive, ?_⟩
          rw [heq, if_pos rfl, List.append_assoc, List.singleton_append]
        · rw [if_neg hother] at heq
          exact ⟨values, .skips (fun another hline => hother (hcarries.unique hline).1) hgive, heq⟩

/-- The first line that offends is quoted, whatever comes after it. -/
theorem foldlM_addLine_of_isFirstOffender {bad : Bytes} (h : IsFirstOffender lines bad)
    (headers : Headers) :
    lines.foldlM addLine headers = .error (.invalidHeader (Utf8.decodeLossy bad)) := by
  obtain ⟨before, after, rfl, hbefore, hbad⟩ := h
  obtain ⟨added, hadded, -⟩ := exists_foldlM_addLine hbefore headers
  rw [List.foldlM_append, hadded]
  change (do let headers ← addLine added bad; after.foldlM addLine headers) = _
  rw [addLine_of_offends hbad]
  rfl

/-! ### The whole -/

/-- The parts of octets in which an empty line stands: the header before the first one, cut into its
lines, and the body after it. -/
structure Parts (data : Bytes) where
  /-- What comes before the empty line. -/
  head : Bytes
  /-- What comes after it, as it is. -/
  body : Bytes
  /-- The first line of the header. -/
  first : Bytes
  /-- Its other lines. -/
  rest : List Bytes
  /-- The empty line is the first one. -/
  isFirstCut : IsFirstCut data headerEnd head body
  /-- The header is cut at every line end. -/
  areLines : AreLines head (first :: rest)

/-- The header in front of the first empty line does not end with a line end. -/
theorem not_suffix_head (h : IsFirstCut data headerEnd head body) : ¬lineEnd <:+ head := by
  rintro ⟨before, rfl⟩
  have hle := h.first before (lineEnd ++ body) (by rw [h.eq]; simp [headerEnd])
  rw [List.length_append] at hle
  exact absurd hle (by simp [lineEnd])

/-- The lines that the reader works on are those of the header. -/
theorem Parts.headD_tail (parts : Parts data) :
    parts.head.lines.headD [] = parts.first ∧ parts.head.lines.tail = parts.rest := by
  -- A header without octets has no line for the reader, but it has one piece.
  by_cases hhead : parts.head = []
  · have hlines := parts.areLines
    rw [hhead] at hlines
    rw [hhead, hlines.of_nil.1, hlines.of_nil.2]
    exact ⟨rfl, rfl⟩
  · rw [lines_eq_of_areLines parts.areLines hhead (not_suffix_head parts.isFirstCut)]
    exact ⟨rfl, rfl⟩

/-- Octets have parts if, and only if, an empty line stands in them. -/
theorem nonempty_parts_iff : Nonempty (Parts data) ↔ headerEnd <:+: data := by
  constructor
  · rintro ⟨parts⟩
    exact ⟨parts.head, parts.body, parts.isFirstCut.eq.symm⟩
  · intro hempty
    obtain ⟨⟨head, body⟩, hcut⟩ := Option.ne_none_iff_exists'.mp
      fun hnone => cut?_eq_none_iff.mp hnone hempty
    obtain ⟨first, rest, hlines⟩ := exists_areLines head
    exact ⟨⟨head, body, first, rest, cut?_eq_some_iff.mp hcut, hlines⟩⟩

/-- The status code is read from the first line, then the fields from the other lines. -/
theorem decode_eq (parts : Parts data) :
    decode data =
      match readStatus? parts.first with
      | none => .error (.invalidStatus (Utf8.decodeLossy parts.first))
      | some status =>
        (parts.rest.foldlM addLine .empty).map fun headers => ⟨status, headers, parts.body⟩ := by
  unfold decode
  rw [cut?_eq_some_iff.mpr parts.isFirstCut]
  dsimp only
  rw [parts.headD_tail.1, parts.headD_tail.2]
  cases readStatus? parts.first with
  | none => rfl
  | some status => cases parts.rest.foldlM addLine .empty <;> rfl

/-- A first line that is no status code is quoted. -/
theorem decode_of_not_isStatusLine (parts : Parts data)
    (h : ∀ code, ¬IsStatusLine parts.first code) :
    decode data = .error (.invalidStatus (Utf8.decodeLossy parts.first)) := by
  have hnone : readStatus? parts.first = none :=
    Option.eq_none_iff_forall_ne_some.mpr fun status hread =>
      h status.code (readStatus?_eq_some_iff.mp hread)
  rw [decode_eq parts, hnone]

/-- After a status code, the fields of the other lines decide. -/
theorem exists_decode_of_isStatusLine (parts : Parts data) {code : Nat}
    (h : IsStatusLine parts.first code) :
    ∃ status : Status, status.code = code ∧ decode data =
      (parts.rest.foldlM addLine .empty).map fun headers => ⟨status, headers, parts.body⟩ := by
  obtain ⟨-, -, -, -, -, hcode⟩ := id h
  have hread : readStatus? parts.first = some ⟨code, hcode⟩ := readStatus?_eq_some_iff.mpr h
  exact ⟨⟨code, hcode⟩, rfl, by rw [decode_eq parts, hread]⟩

/-- After a status code, the first line that offends is quoted. -/
theorem decode_of_isFirstOffender (parts : Parts data) {code : Nat}
    (hcode : IsStatusLine parts.first code) {bad : Bytes} (hbad : IsFirstOffender parts.rest bad) :
    decode data = .error (.invalidHeader (Utf8.decodeLossy bad)) := by
  obtain ⟨status, -, hdecode⟩ := exists_decode_of_isStatusLine parts hcode
  rw [hdecode, foldlM_addLine_of_isFirstOffender hbad]
  rfl

/-- After a status code, a response is read if no other line offends. -/
theorem exists_decode_eq_ok (parts : Parts data) {code : Nat}
    (hcode : IsStatusLine parts.first code) (hlines : ∀ line ∈ parts.rest, ¬Offends line) :
    ∃ response, decode data = .ok response ∧ response.status.code = code ∧
      response.body = parts.body ∧
      ∀ name, GiveValues name parts.rest (response.headers.values name) := by
  obtain ⟨status, hstatus, hdecode⟩ := exists_decode_of_isStatusLine parts hcode
  obtain ⟨headers, hheaders, hvalues⟩ := exists_foldlM_addLine hlines .empty
  refine ⟨⟨status, headers, parts.body⟩, by rw [hdecode, hheaders]; rfl, hstatus, rfl, ?_⟩
  intro name
  obtain ⟨values, hgive, heq⟩ := hvalues name
  rw [Headers.values_empty, List.nil_append] at heq
  exact heq ▸ hgive

/-- Octets with parts are read in one of three ways. -/
theorem decode_cases (parts : Parts data) :
    ((∀ code, ¬IsStatusLine parts.first code) ∧
      decode data = .error (.invalidStatus (Utf8.decodeLossy parts.first))) ∨
    ((∃ code, IsStatusLine parts.first code) ∧ ∃ bad, IsFirstOffender parts.rest bad ∧
      decode data = .error (.invalidHeader (Utf8.decodeLossy bad))) ∨
    ∃ response, decode data = .ok response ∧ IsStatusLine parts.first response.status.code ∧
      (∀ line ∈ parts.rest, ¬Offends line) ∧ response.body = parts.body ∧
      ∀ name, GiveValues name parts.rest (response.headers.values name) := by
  by_cases hfirst : ∃ code, IsStatusLine parts.first code
  · obtain ⟨code, hcode⟩ := id hfirst
    rcases not_offends_or_isFirstOffender parts.rest with hlines | ⟨bad, hbad⟩
    · obtain ⟨response, hok, rfl, hrest⟩ := exists_decode_eq_ok parts hcode hlines
      exact .inr (.inr ⟨response, hok, hcode, hlines, hrest⟩)
    · exact .inr (.inl ⟨hfirst, bad, hbad, decode_of_isFirstOffender parts hcode hbad⟩)
  · have hnone := not_exists.mp hfirst
    exact .inl ⟨hnone, decode_of_not_isStatusLine parts hnone⟩

/-- The separator is missing if, and only if, no empty line stands in the octets. -/
theorem decode_eq_missingSeparator_iff :
    decode data = .error .missingSeparator ↔ ¬headerEnd <:+: data := by
  constructor
  · intro hdecode hempty
    obtain ⟨parts⟩ := nonempty_parts_iff.mpr hempty
    rcases decode_cases parts with ⟨-, h⟩ | ⟨-, bad, -, h⟩ | ⟨response, h, -⟩ <;>
      cases h.symm.trans hdecode
  · intro hempty
    rw [decode, cut?_eq_none_iff.mpr hempty]
    rfl

/-- The first line is quoted if, and only if, it is no status code. -/
theorem decode_eq_invalidStatus_iff (parts : Parts data) {quoted : List Char} :
    decode data = .error (.invalidStatus quoted) ↔
      (∀ code, ¬IsStatusLine parts.first code) ∧ quoted = Utf8.decodeLossy parts.first := by
  constructor
  · intro hdecode
    rcases decode_cases parts with ⟨hfirst, h⟩ | ⟨-, bad, -, h⟩ | ⟨response, h, -⟩ <;>
      cases h.symm.trans hdecode
    exact ⟨hfirst, rfl⟩
  · rintro ⟨hfirst, rfl⟩
    exact decode_of_not_isStatusLine parts hfirst

/-- A line after the first is quoted if, and only if, the first line is a status code and the other
is the first that offends. -/
theorem decode_eq_invalidHeader_iff (parts : Parts data) {quoted : List Char} :
    decode data = .error (.invalidHeader quoted) ↔
      (∃ code, IsStatusLine parts.first code) ∧
        ∃ bad, IsFirstOffender parts.rest bad ∧ quoted = Utf8.decodeLossy bad := by
  constructor
  · intro hdecode
    rcases decode_cases parts with ⟨-, h⟩ | ⟨hfirst, bad, hbad, h⟩ | ⟨response, h, -⟩ <;>
      cases h.symm.trans hdecode
    exact ⟨hfirst, bad, hbad, rfl⟩
  · rintro ⟨⟨code, hcode⟩, bad, hbad, rfl⟩
    exact decode_of_isFirstOffender parts hcode hbad

/-- A response is read if, and only if, the first line is a status code and no other line
offends. -/
theorem exists_decode_eq_ok_iff (parts : Parts data) :
    (∃ response, decode data = .ok response) ↔
      (∃ code, IsStatusLine parts.first code) ∧ ∀ line ∈ parts.rest, ¬Offends line := by
  constructor
  · rintro ⟨response, hdecode⟩
    rcases decode_cases parts with ⟨-, h⟩ | ⟨-, bad, -, h⟩ | ⟨other, h, hcode, hlines, -⟩ <;>
      cases h.symm.trans hdecode
    exact ⟨⟨_, hcode⟩, hlines⟩
  · rintro ⟨⟨code, hcode⟩, hlines⟩
    obtain ⟨response, hok, -⟩ := exists_decode_eq_ok parts hcode hlines
    exact ⟨response, hok⟩

/-- A response that is read is what the lines and the body say. -/
theorem of_decode_eq_ok (parts : Parts data) {response : Response}
    (hdecode : decode data = .ok response) :
    (∀ code, IsStatusLine parts.first code ↔ response.status.code = code) ∧
      response.body = parts.body ∧
      ∀ name values, GiveValues name parts.rest values ↔ response.headers.values name = values := by
  rcases decode_cases parts with ⟨-, h⟩ | ⟨-, bad, -, h⟩ | ⟨other, h, hcode, -, hbody, hvalues⟩ <;>
    cases h.symm.trans hdecode
  exact ⟨fun code => ⟨hcode.unique, fun heq => heq ▸ hcode⟩, hbody,
    fun name values => ⟨fun hgive => hgive.unique (hvalues name), fun heq => heq ▸ hvalues name⟩⟩

/-- Octets are read as a stored response exactly by its grammar. They lack the separator if no empty
line stands in them. Otherwise they have parts, and whatever these are, the first line is quoted if
it is no status code; the first of the other lines that offends is quoted if there is one; and in
every other case a response is read. It has the status code of the first line and the body as it is,
and each name has the values that the lines give to it, in order. -/
theorem decode_accepts_exactly_grammar (data : Bytes) :
    (decode data = .error .missingSeparator ↔ ¬headerEnd <:+: data) ∧
    (headerEnd <:+: data ↔ Nonempty (Parts data)) ∧
    ∀ parts : Parts data,
      (∀ quoted, decode data = .error (.invalidStatus quoted) ↔
        (∀ code, ¬IsStatusLine parts.first code) ∧ quoted = Utf8.decodeLossy parts.first) ∧
      (∀ quoted, decode data = .error (.invalidHeader quoted) ↔
        (∃ code, IsStatusLine parts.first code) ∧
          ∃ bad, IsFirstOffender parts.rest bad ∧ quoted = Utf8.decodeLossy bad) ∧
      ((∃ response, decode data = .ok response) ↔
        (∃ code, IsStatusLine parts.first code) ∧ ∀ line ∈ parts.rest, ¬Offends line) ∧
      ∀ response, decode data = .ok response →
        (∀ code, IsStatusLine parts.first code ↔ response.status.code = code) ∧
        response.body = parts.body ∧
        ∀ name values,
          GiveValues name parts.rest values ↔ response.headers.values name = values := by
  refine ⟨decode_eq_missingSeparator_iff, nonempty_parts_iff.symm, fun parts => ⟨?_, ?_, ?_, ?_⟩⟩
  · exact fun _ => decode_eq_invalidStatus_iff parts
  · exact fun _ => decode_eq_invalidHeader_iff parts
  · exact exists_decode_eq_ok_iff parts
  · exact fun _ => of_decode_eq_ok parts

/-- A stored page with a line that is passed over and a field. -/
def storedPage : Bytes := ofAscii "200\r\n?\r\nX: 1\r\n\r\n<p>"

/-- The parts of the page. -/
def storedPageParts : Parts storedPage where
  head := ofAscii "200\r\n?\r\nX: 1"
  body := ofAscii "<p>"
  first := ofAscii "200"
  rest := [ofAscii "?", ofAscii "X: 1"]
  isFirstCut := cut?_eq_some_iff.mp (by decide +kernel)
  areLines := ⟨by decide, by decide⟩

/-- The first line of the page is a status code. -/
theorem isStatusLine_storedPage : IsStatusLine (ofAscii "200") 200 :=
  ⟨"200".toList, "200".toList, by decide, ⟨[], [], by decide, by simp, by simp⟩,
    .inl (Text.natural?_eq_some_iff.mp (by decide)), by decide, by decide⟩

/-- No other line of the page offends. -/
theorem not_offends_storedPage : ∀ line ∈ [ofAscii "?", ofAscii "X: 1"], ¬Offends line := by
  rw [List.forall_mem_cons, List.forall_mem_singleton]
  constructor
  · rintro ⟨before, after, hcut, -⟩
    have hnone : (ofAscii "?").cut? colonSpace = none := by decide
    exact cut?_eq_none_iff.mp hnone ⟨before, after, hcut.eq.symm⟩
  · rintro ⟨before, after, hcut, hnot⟩
    have hfirst : IsFirstCut (ofAscii "X: 1") colonSpace (ofAscii "X") (ofAscii "1") :=
      cut?_eq_some_iff.mp (by decide)
    obtain ⟨rfl, rfl⟩ := hfirst.unique hcut
    exact hnot ⟨⟨by decide, by decide, List.all_eq_true.mp (by decide)⟩,
      List.all_eq_true.mp (by decide)⟩

/-- The page is read, and its field has the value on its line. -/
theorem decode_accepts_exactly_grammar_storedPage :
    ∃ response, decode storedPage = .ok response ∧ response.status.code = 200 ∧
      response.body = ofAscii "<p>" ∧
      GiveValues ⟨ofAscii "x", by decide⟩ [ofAscii "?", ofAscii "X: 1"]
        (response.headers.values ⟨ofAscii "x", by decide⟩) := by
  have hgrammar := (decode_accepts_exactly_grammar storedPage).2.2 storedPageParts
  obtain ⟨response, hdecode⟩ := hgrammar.2.2.1.mpr
    ⟨⟨200, isStatusLine_storedPage⟩, not_offends_storedPage⟩
  have hread := hgrammar.2.2.2 response hdecode
  exact ⟨response, hdecode, (hread.1 200).mp isStatusLine_storedPage, hread.2.1,
    (hread.2.2 _ _).mpr rfl⟩

end ForwardProxy.Cache.StoredResponse
