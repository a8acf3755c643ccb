import ForwardProxy.Policy.Target
import ForwardProxy.Proofs.Http.RequestUri
import ForwardProxy.Proofs.Text.Cut
import ForwardProxy.Proofs.Url.Form

/-!
# Naming a target in either form

A target may be named in the query of a request, form-encoded, or by the request itself in absolute
form. Whatever pairs a query was written for, the address that is read is the value of the first one
with the right name, unless it is empty. So an address in absolute form can as well be put into a
query: both requests have the same target, and share one place in the cache.
-/

namespace ForwardProxy.Policy

open Http

/-- The name of the pair that names a target. -/
def targetName : List Char := "url".toList

/-- What pairs name as the target: the value of the first one with the right name, unless it is
empty. -/
def named? (pairs : List (List Char × List Char)) : Option (List Char) :=
  ((pairs.find? (·.1 == targetName)).map (·.2)).filter (· ≠ [])

/-- A text is a target if it is a web address, and else the reason is given why it is none. -/
theorem targetOfText_eq (text : List Char) :
    targetOfText text = (Url.parse text).mapError .invalid := by
  unfold targetOfText
  cases Url.parse text <;> rfl

/-- What the pairs of the query name is the target, and otherwise what the request itself names. -/
theorem resolveTarget_eq (uri : RequestUri) :
    resolveTarget uri =
      match uri.query?.bind fun query => named? (Url.Form.read query) with
      | some text => targetOfText text
      | none => absoluteTarget uri := by
  unfold resolveTarget named? Url.Form.value? targetName
  cases uri.query? with
  | none => rfl
  | some query =>
    simp only [Option.bind_some]
    generalize (Url.Form.read query).find? (·.1 == "url".toList) = found
    rcases found with _ | ⟨name, _ | ⟨c, rest⟩⟩ <;> rfl

/-- Every octet that is written for pairs may stand in a query. -/
theorem isQuery_written (pairs : List (List Char × List Char)) :
    RequestUri.IsQuery (Url.Form.written pairs) := by
  have hplain : ∀ b, Url.Form.isPlain b = true →
      b ≠ 35 ∧ RequestUri.isQueryOctet b = true ∧ b < 0x80 := forall_octet (by decide +kernel)
  have hwritten : ∀ b, Url.Form.IsWritten b →
      b ≠ 35 ∧ RequestUri.isQueryOctet b = true ∧ b < 0x80 := by
    rintro b (hb | rfl | rfl)
    · exact hplain b hb
    · decide
    · decide
  have hall : ∀ b ∈ Url.Form.written pairs,
      b ≠ 35 ∧ RequestUri.isQueryOctet b = true ∧ b < 0x80 := by
    refine forall_mem_intercalate (by decide) (List.forall_mem_map.mpr fun pair _ b hmem => ?_)
    rcases Url.Form.eq_or_isWritten_of_mem_writtenPair hmem with rfl | hb
    · decide
    · exact hwritten b hb
  exact ⟨fun b hmem => by simpa using (hall b hmem).1, fun b hmem => .inl (hall b hmem).2.1,
    Utf8.isText_of_ascii fun b hmem => (hall b hmem).2.2⟩

/-- The target of a request with a query that was written for pairs. -/
theorem resolveTarget_origin_written (path : Bytes) (pairs : List (List Char × List Char)) :
    resolveTarget (.origin path (some (Url.Form.written pairs))) =
      match named? pairs with
      | some text => (Url.parse text).mapError .invalid
      | none => .error .missing := by
  rw [resolveTarget_eq, RequestUri.query?, Option.bind_some, Url.Form.read_written]
  cases named? pairs with
  | some text => exact targetOfText_eq text
  | none => rfl

/-- The target of a request in absolute form is the address that it is displayed as, if its own query
names none. -/
theorem resolveTarget_absolute {uri : RequestUri} {text : List Char}
    (hshown : uri.absoluteText? = some (Utf8.encode text))
    (hquery : ∀ query ∈ uri.query?, named? (Url.Form.read query) = none) :
    resolveTarget uri = (Url.parse text).mapError .invalid := by
  have hnone : (uri.query?.bind fun query => named? (Url.Form.read query)) = none :=
    Option.bind_eq_none_iff.mpr hquery
  rw [resolveTarget_eq, hnone, ← targetOfText_eq]
  simp only [absoluteTarget, hshown, Utf8.decodeLossy_encode]

/-- An address that is displayed has a scheme, so it is not empty. -/
theorem ne_nil_of_absoluteText? {uri : RequestUri} {octets : Bytes}
    (h : uri.absoluteText? = some octets) : octets ≠ [] := by
  cases uri with
  | absolute scheme host path query =>
    obtain rfl := Option.some.inj h
    simp [Bytes.ofAscii]
  | _ => cases h

/-- A path that is a target of its own takes any pairs as its query, form-encoded, as long as the
target stays short enough. Then the first pair with the right name decides: its value is read as a
web address, whatever characters it holds, and if it is empty or there is no such pair, the request
names no target. A target in absolute form, whose own query names none, can be put into such a pair
as the text that it is displayed as. Both requests have the same target, or fail alike, and have the
same key in the cache. -/
theorem resolveTarget_in_either_form {path : Bytes}
    (hpath : RequestUri.parse path = .ok (.origin path none)) :
    (∀ pairs, (path ++ 63 :: Url.Form.written pairs).length ≤ RequestUri.maxLength →
      ∃ uri, RequestUri.parse (path ++ 63 :: Url.Form.written pairs) = .ok uri ∧
        resolveTarget uri =
          match named? pairs with
          | some text => (Url.parse text).mapError .invalid
          | none => .error .missing) ∧
    ∀ data uri octets, RequestUri.parse data = .ok uri → uri.absoluteText? = some octets →
      (∀ query ∈ uri.query?, named? (Url.Form.read query) = none) →
      ∃ text, Utf8.encode text = octets ∧
        let query := Url.Form.written [(targetName, text)]
        (path ++ 63 :: query).length ≤ RequestUri.maxLength →
          ∃ other, RequestUri.parse (path ++ 63 :: query) = .ok other ∧
            resolveTarget uri = resolveTarget other ∧
            ∀ method, (resolveTarget uri).map (cacheKey method) =
              (resolveTarget other).map (cacheKey method) := by
  have hparse (pairs : List (List Char × List Char))
      (hlength : (path ++ 63 :: Url.Form.written pairs).length ≤ RequestUri.maxLength) :
      RequestUri.parse (path ++ 63 :: Url.Form.written pairs) =
        .ok (.origin path (some (Url.Form.written pairs))) :=
    RequestUri.parse_append_query hpath (isQuery_written pairs) hlength
  constructor
  · exact fun pairs hlength =>
      ⟨_, hparse pairs hlength, resolveTarget_origin_written path pairs⟩
  · intro data uri octets hdata hshown hquery
    obtain ⟨text, rfl⟩ := RequestUri.isText_of_absoluteText? hdata hshown
    have hnamed : named? [(targetName, text)] = some text := by
      have hne : text ≠ [] := by
        rintro rfl
        exact ne_nil_of_absoluteText? hshown rfl
      simp [named?, hne]
    have hsame : resolveTarget uri =
        resolveTarget (.origin path (some (Url.Form.written [(targetName, text)]))) := by
      rw [resolveTarget_absolute hshown hquery, resolveTarget_origin_written, hnamed]
    exact ⟨text, rfl, fun hlength =>
      ⟨_, hparse _ hlength, hsame, fun method => by rw [hsame]⟩⟩

/-- Pairs of which the second one names an address with a query of its own, and the third one another
address. -/
def mixedPairs : List (List Char × List Char) :=
  [("page".toList, "a&b=c".toList), (targetName, "http://[::1]/?q=1+1 & é%20#".toList),
    (targetName, "http://[::2]/".toList)]

/-- The address is read as it was written into the query. Another one is displayed with a query that
names nothing, and can be written into a query itself. -/
theorem resolveTarget_in_either_form_mixedPairs :
    let path := Bytes.ofAscii "/fetch"
    let text := "http://[::1]/a?url=".toList
    let uri : RequestUri := .absolute (Bytes.ofAscii "http") (Bytes.ofAscii "[::1]")
      (Bytes.ofAscii "/a") (some (Bytes.ofAscii "url="))
    RequestUri.parse path = .ok (.origin path none) ∧
      (∃ other, RequestUri.parse (path ++ 63 :: Url.Form.written mixedPairs) = .ok other ∧
        resolveTarget other =
          (Url.parse "http://[::1]/?q=1+1 & é%20#".toList).mapError .invalid) ∧
      RequestUri.parse (Utf8.encode text) = .ok uri ∧
      ∃ other, RequestUri.parse (path ++ 63 :: Url.Form.written [(targetName, text)]) = .ok other ∧
        resolveTarget uri = resolveTarget other := by
  intro path text uri
  have hpath : RequestUri.parse path = .ok (.origin path none) := by decide +kernel
  have hparse : RequestUri.parse (Utf8.encode text) = .ok uri := by decide +kernel
  have hshown : uri.absoluteText? = some (Utf8.encode text) := by decide
  have hquery : ∀ query ∈ uri.query?, named? (Url.Form.read query) = none := by
    have hwritten : Bytes.ofAscii "url=" = Url.Form.written [(targetName, [])] := by decide
    rintro _ ⟨⟩
    rw [hwritten, Url.Form.read_written]
    rfl
  obtain ⟨hpairs, habsolute⟩ := resolveTarget_in_either_form hpath
  obtain ⟨shown, heq, hsame⟩ := habsolute _ uri _ hparse hshown hquery
  obtain rfl : shown = text := Utf8.encode_injective heq
  obtain ⟨other, hother, htarget, -⟩ := hsame (by decide +kernel)
  exact ⟨hpath, hpairs mixedPairs (by decide +kernel), hparse, other, hother, htarget⟩

end ForwardProxy.Policy
