import ForwardProxy.Policy.Cacheability
import ForwardProxy.Policy.Lifetime
import ForwardProxy.Policy.Target
import ForwardProxy.Proofs.Http.Headers

/-!
# What the policy goes by

A key of the cache determines the method and the text of the target. Whether the cache is asked, and
whether an answer may be kept and for how long, depends on the first values of a few header fields
alone. Of the directives only those of printable ASCII can speak against it.
-/

namespace ForwardProxy

/-- Different octets have different characters. -/
theorem Bytes.char_injective : Function.Injective fun b : UInt8 => Char.ofNat b.toNat := by
  intro a b heq
  have hnat (c : UInt8) : (Char.ofNat c.toNat).toNat = c.toNat := by
    have hlt := c.toNat_lt
    have hvalid : c.toNat.isValidChar := Or.inl (by omega)
    rw [Char.ofNat, dif_pos hvalid]
    rfl
  have hchars := congrArg Char.toNat heq
  simp only [hnat] at hchars
  exact UInt8.toNat_inj.mp hchars

/-- A run of characters occurs exactly where its octets do. -/
theorem Bytes.toChars_infix_iff {needle bytes : Bytes} :
    needle.toChars <:+: bytes.toChars ↔ needle <:+: bytes := by
  constructor
  · intro h
    obtain ⟨run, hrun, heq⟩ := List.infix_map_iff.mp h
    rwa [List.map_injective_iff.mpr char_injective heq]
  · exact fun h => h.map _

namespace Http.Headers

/-- Taking a name away leaves the first value of every other name. -/
theorem get?_erase {headers : Headers} {name other : FieldName} (h : other ≠ name) :
    (headers.erase name).get? other = headers.get? other := by
  rw [get?_eq_head?, values_erase, if_neg h, get?_eq_head?]

end Http.Headers

namespace Policy

open Http Time

/-- No name of a method holds the sign that ends it in a key. -/
theorem colon_not_mem_name (method : Method) : ':' ∉ method.name.toList := by
  intro hmem
  have hvalid := method.valid
  simp only [isToken, Bool.and_eq_true, List.all_eq_true] at hvalid
  have htoken := hvalid.2 ':' hmem
  revert htoken
  decide

/-- A key determines the method and the text of the target. -/
theorem cacheKey_inj {method other : Method} {target otherTarget : Url}
    (h : cacheKey method target = cacheKey other otherTarget) :
    method = other ∧ target.text = otherTarget.text := by
  have hchars : method.name.toList ++ ':' :: target.text.toList =
      other.name.toList ++ ':' :: otherTarget.text.toList := by
    simpa [cacheKey] using congrArg String.toList h
  have hfront (name : List Char) (rest : List Char) (hname : ':' ∉ name) :
      (name ++ ':' :: rest).takeWhile (· ≠ ':') = name := by
    rw [List.takeWhile_append_of_pos]
    · simp
    · intro c hc
      simpa using fun heq : c = ':' => hname (heq ▸ hc)
  have hnames : method.name.toList = other.name.toList := by
    rw [← hfront _ target.text.toList (colon_not_mem_name method), hchars,
      hfront _ _ (colon_not_mem_name other)]
  rw [hnames, List.append_cancel_left_eq, List.cons.injEq] at hchars
  exact ⟨Method.ext (String.toList_inj.mp hnames), String.toList_inj.mp hchars.2⟩

/-- The octets of the directive against keeping an answer. -/
def noStoreOctets : Bytes := Bytes.ofAscii "no-store"

/-- Keeping an answer is forbidden by a first value for caches of printable ASCII that holds the
directive, and by nothing else. -/
theorem forbidsStoring_iff {headers : Headers} :
    forbidsStoring headers = true ↔
      ∃ value ∈ headers.get? .cacheControl,
        (∀ octet ∈ value.bytes, isTextOctet octet = true) ∧ noStoreOctets <:+: value.bytes := by
  have hneedle : noStore = noStoreOctets.toChars := by decide
  unfold forbidsStoring
  cases headers.get? .cacheControl with
  | none => simp
  | some value =>
    by_cases htext : ∀ octet ∈ value.bytes, isTextOctet octet = true
    · have hchars : value.text? = some value.bytes.toChars := if_pos (List.all_eq_true.mpr htext)
      simpa [hchars, hneedle, Text.occursIn_iff, Bytes.toChars_infix_iff] using fun _ => htext
    · have hnone : value.text? = none := if_neg (mt List.all_eq_true.mp htext)
      simp [hnone, htext]

/-- A name has content if its first value has octets. -/
theorem hasContent_iff {headers : Headers} {name : FieldName} :
    hasContent headers name = true ↔ ∃ value ∈ headers.get? name, value.bytes ≠ [] := by
  unfold hasContent
  cases headers.get? name <;> simp

/-- The first values of a header tell that it belongs to one client: the first cookie is not empty,
or the first directives are printable ASCII and hold the one against keeping the answer. -/
def FirstValuesTell (headers : Headers) : Prop :=
  (∃ value ∈ headers.get? .setCookie, value.bytes ≠ []) ∨
    ∃ value ∈ headers.get? .cacheControl,
      (∀ octet ∈ value.bytes, isTextOctet octet = true) ∧ noStoreOctets <:+: value.bytes

/-- A response may be kept if it is a plain success whose first values do not tell that it belongs
to one client. -/
theorem responseCacheable_iff {status : Status} {headers : Headers} :
    responseCacheable status headers = true ↔ status = .ok ∧ ¬FirstValuesTell headers := by
  rw [FirstValuesTell, ← forbidsStoring_iff, ← hasContent_iff]
  simp only [responseCacheable, Bool.and_eq_true, beq_iff_eq, Bool.not_eq_true', not_or,
    Bool.not_eq_true]
  exact ⟨fun ⟨⟨hok, hstore⟩, hcookie⟩ => ⟨hok, hcookie, hstore⟩,
    fun ⟨hok, hcookie, hstore⟩ => ⟨⟨hok, hstore⟩, hcookie⟩⟩

/-- The first values of a header keep a request from the cache: the first credentials are not empty,
or the first directives are printable ASCII and hold the one against keeping the answer. -/
def FirstValuesForbid (headers : Headers) : Prop :=
  (∃ value ∈ headers.get? .authorization, value.bytes ≠ []) ∨
    ∃ value ∈ headers.get? .cacheControl,
      (∀ octet ∈ value.bytes, isTextOctet octet = true) ∧ noStoreOctets <:+: value.bytes

/-- The cache is asked about a request that only reads and whose first values do not forbid it. -/
theorem requestCacheable_iff {method : Method} {headers : Headers} :
    requestCacheable method headers = true ↔
      (method = .get ∨ method = .head) ∧ ¬FirstValuesForbid headers := by
  rw [FirstValuesForbid, ← forbidsStoring_iff, ← hasContent_iff]
  simp only [requestCacheable, Bool.and_eq_true, Bool.or_eq_true, beq_iff_eq, Bool.not_eq_true',
    not_or, Bool.not_eq_true, and_assoc]

/-- How the octets of a body traveled does not matter for whether a response may be kept. -/
theorem responseCacheable_erase (status : Status) (headers : Headers) :
    responseCacheable status (headers.erase .transferEncoding) =
      responseCacheable status headers := by
  have hcontrol : FieldName.cacheControl ≠ .transferEncoding := by decide
  have hcookie : FieldName.setCookie ≠ .transferEncoding := by decide
  simp only [responseCacheable, forbidsStoring, hasContent, Headers.get?_erase hcontrol,
    Headers.get?_erase hcookie]

/-- How the octets of a body traveled does not matter for how long a response lives. -/
theorem lifetime?_erase (headers : Headers) (now : Instant) :
    lifetime? (headers.erase .transferEncoding) now = lifetime? headers now := by
  have hcontrol : FieldName.cacheControl ≠ .transferEncoding := by decide
  have hexpires : FieldName.expires ≠ .transferEncoding := by decide
  simp only [lifetime?, maxAge?, expiry?, Headers.get?_erase hcontrol,
    Headers.get?_erase hexpires]

end Policy

end ForwardProxy
