import ForwardProxy.Proofs.Policy.Cacheability
import ForwardProxy.Proofs.Proxy.MaxAge
import ForwardProxy.Proofs.Text.Cut

/-!
# The list of directives

A value for caches is a list of directives with commas between them. The list is gone through from
the front for an age. Whatever else stands in it has no effect, before the first age and after it:
a directive for something else, an age that is no number, or one that no integer of sixty-four bits
holds. A list without an age counts as if the field were not there.
-/

namespace ForwardProxy.Policy

open Http Time

/-- The sign between two directives. -/
def comma : UInt8 := 44

/-- A value lists directives of printable ASCII and tabs. -/
structure ListsDirectives (value : FieldValue) (directives : List Bytes) : Prop where
  /-- The octets of the value are those of the directives, with commas between them. -/
  bytes : value.bytes = [comma].intercalate directives
  /-- The directives are text. -/
  isText : ∀ directive ∈ directives, ∀ octet ∈ directive, isTextOctet octet = true
  /-- No directive has a comma of its own. -/
  not_mem : ∀ directive ∈ directives, comma ∉ directive

/-- Octets that are put together with a sign between them are read as characters in the same way. -/
theorem toChars_intercalate (sign : UInt8) (parts : List Bytes) :
    Bytes.toChars ([sign].intercalate parts) =
      [Char.ofNat sign.toNat].intercalate (parts.map Bytes.toChars) := by
  induction parts with
  | nil => rfl
  | cons part parts ih =>
    by_cases hlast : parts = []
    · simp [hlast]
    · have hmap : parts.map Bytes.toChars ≠ [] := by simpa using hlast
      rw [List.map_cons, List.intercalate_cons_of_ne_nil hlast,
        List.intercalate_cons_of_ne_nil hmap, ← ih]
      simp [Bytes.toChars]

namespace ListsDirectives

variable {headers : Headers} {value : FieldValue} {directives : List Bytes}

/-- A value that lists directives is text. -/
theorem text?_eq (h : ListsDirectives value directives) :
    value.text? = some value.bytes.toChars := by
  refine if_pos (List.all_eq_true.mpr ?_)
  rw [h.bytes]
  exact forall_mem_intercalate (by decide) h.isText

/-- The text of a value that lists directives is cut into these again. -/
theorem splitOn_eq (h : ListsDirectives value directives) (hne : directives ≠ []) :
    value.bytes.toChars.splitOn ',' = directives.map Bytes.toChars := by
  have hchar : Char.ofNat comma.toNat = ',' := by decide
  rw [h.bytes, toChars_intercalate, hchar]
  refine List.splitOn_intercalate ',' ?_ (by simpa using hne)
  intro text htext hmem
  obtain ⟨directive, hdirective, rfl⟩ := List.mem_map.mp htext
  obtain ⟨octet, hoctet, heq⟩ := List.mem_map.mp hmem
  obtain rfl : octet = comma := Bytes.char_injective (heq.trans hchar.symm)
  exact h.not_mem directive hdirective hoctet

/-- The first directive that gives an age is the first in the text. -/
theorem hasFirstAge (h : ListsDirectives value directives)
    (hvalue : headers.get? .cacheControl = some value) {before after : List Bytes}
    {directive : Bytes} {n : Int} (hsplit : directives = before ++ directive :: after)
    (hgives : GivesAge directive.toChars n)
    (hfirst : ∀ earlier ∈ before, ∀ m, ¬GivesAge earlier.toChars m) : HasFirstAge headers n := by
  refine ⟨value, hvalue, value.bytes.toChars, h.text?_eq, before.map Bytes.toChars,
    directive.toChars, after.map Bytes.toChars, ?_, hgives, ?_⟩
  · rw [h.splitOn_eq (by simp [hsplit]), hsplit, List.map_append, List.map_cons]
  · exact List.forall_mem_map.mpr hfirst

/-- If none of the directives gives an age, the field has none. -/
theorem not_hasAge (h : ListsDirectives value directives)
    (hvalue : headers.get? .cacheControl = some value)
    (hnone : ∀ directive ∈ directives, ∀ n, ¬GivesAge directive.toChars n) : ¬HasAge headers := by
  rintro ⟨other, hother, text, htext, directive, hmem, n, hgives⟩
  obtain rfl : value = other := Option.some.inj (hvalue.symm.trans hother)
  obtain rfl : value.bytes.toChars = text := Option.some.inj (h.text?_eq.symm.trans htext)
  by_cases hempty : directives = []
  · -- Without directives the text is empty, and so is its one part.
    have hbytes : value.bytes = [] := by rw [h.bytes, hempty]; rfl
    rw [hbytes] at hmem
    obtain rfl : directive = [] := by simpa [Bytes.toChars] using hmem
    obtain ⟨literal, htrim, -⟩ := hgives
    have hname : maxAgeDirective = [] := (List.append_eq_nil_iff.mp htrim.symm).1
    exact absurd hname (by decide)
  · rw [h.splitOn_eq hempty] at hmem
    obtain ⟨bytes, hbytes, rfl⟩ := List.mem_map.mp hmem
    exact hnone bytes hbytes n hgives

end ListsDirectives

/-- Nothing that a field without a value says can be an age. -/
theorem not_hasAge_erase (headers : Headers) : ¬HasAge (headers.erase .cacheControl) := by
  rintro ⟨value, hvalue, -⟩
  rw [Headers.get?_eq_head?, Headers.values_erase, if_pos rfl] at hvalue
  cases hvalue

/-- The first directive that gives an age decides how long an answer lives, if a span may have so
many seconds, whatever directives stand before it and after it, whatever the other fields say, and
at every instant. If no directive gives an age, the answer lives as long as without the field. -/
theorem lifetime_from_first_age_of_list {headers : Headers} {value : FieldValue}
    {directives : List Bytes} (hvalue : headers.get? .cacheControl = some value)
    (hlist : ListsDirectives value directives) :
    (∀ before directive after n, directives = before ++ directive :: after →
        GivesAge directive.toChars n → (∀ earlier ∈ before, ∀ m, ¬GivesAge earlier.toChars m) →
        IsSpanOf n → ∀ now, lifetime? headers now = some (.ofSeconds n)) ∧
      ((∀ directive ∈ directives, ∀ n, ¬GivesAge directive.toChars n) →
        ∀ now, lifetime? headers now = lifetime? (headers.erase .cacheControl) now) := by
  constructor
  · intro before directive after n hsplit hgives hfirst hspan now
    have hage : HasFirstAge headers n := hlist.hasFirstAge hvalue hsplit hgives hfirst
    have hseconds : Span.ofSeconds? n = some (.ofSeconds n) := if_pos hspan
    rw [hage.lifetime?_eq (fun _ _ => rfl), hseconds, Option.some_or]
  · intro hnone now
    have hexpires : expiry? (headers.erase .cacheControl) = expiry? headers := by
      rw [expiry?, expiry?, Headers.get?_erase (by decide)]
    rw [lifetime?_of_not_hasAge (hlist.not_hasAge hvalue hnone),
      lifetime?_of_not_hasAge (not_hasAge_erase headers), hexpires]

/-- Directives of which the fifth is the first that gives an age. Of those before it one has no
number, one is for shared caches, one is in another letter case, and one quotes an age. -/
def busyDirectives : List Bytes :=
  ["max-age=soon", " s-maxage=9", "\tMax-Age=3", " note=max-age=1", " max-age=+30 ",
    "max-age=5"].map Bytes.ofAscii

/-- The value that lists the directives of which the fifth gives an age. -/
def busyValue : FieldValue := { bytes := [comma].intercalate busyDirectives }

/-- An answer with directives of which the fifth gives half a minute lives for half a minute. -/
theorem lifetime_from_first_age_of_list_busy :
    let headers := Headers.empty.insert .cacheControl busyValue
    headers.get? .cacheControl = some busyValue ∧ ListsDirectives busyValue busyDirectives ∧
      lifetime? headers .epoch = some (.ofSeconds 30) := by
  intro headers
  have hvalue : headers.get? .cacheControl = some busyValue := rfl
  have htext : (busyDirectives.all fun directive => directive.all isTextOctet) = true := by decide
  have hlist : ListsDirectives busyValue busyDirectives :=
    ⟨rfl, fun directive hmem => List.all_eq_true.mp (List.all_eq_true.mp htext directive hmem),
      by decide⟩
  have hgives : GivesAge (Bytes.ofAscii " max-age=+30 ").toChars 30 :=
    directiveAge?_eq_some_iff.mp (by decide)
  have hearlier : ∀ earlier ∈ busyDirectives.take 4, ∀ m, ¬GivesAge earlier.toChars m := by
    simp only [← directiveAge?_eq_none_iff]
    decide
  exact ⟨hvalue, hlist, (lifetime_from_first_age_of_list hvalue hlist).1 (busyDirectives.take 4)
    (Bytes.ofAscii " max-age=+30 ") (busyDirectives.drop 5) 30 rfl hgives hearlier
    ⟨by decide, by decide⟩ .epoch⟩

end ForwardProxy.Policy
