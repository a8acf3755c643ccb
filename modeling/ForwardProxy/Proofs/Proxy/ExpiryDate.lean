import ForwardProxy.Proofs.Proxy.MaxAge

/-!
# Kept to the date

A response without an age lives to the date that its server gives. The time to live is the span from
the instant at which the response is kept to the date, in nanoseconds, and the entry adds it to that
instant again. Outside leap seconds this arrives at the date to the nanosecond, from before it and
from after it. Only a response that is kept at the date itself gets no end.
-/

namespace ForwardProxy

open Http Time

namespace Time.Instant

variable {earlier later : Instant}

/-- An instant that is not after another is the same or before it. -/
theorem not_lt_iff {a b : Instant} : ¬a < b ↔ b = a ∨ b < a := by
  rw [lt_iff, lt_iff, Instant.ext_iff]
  omega

/-- Outside leap seconds a span is the difference of the readings. -/
theorem nanoseconds_since (hlater : ¬later.IsLeap) (hearlier : ¬earlier.IsLeap) :
    (later.since earlier).nanoseconds = later.reading - earlier.reading := by
  have hleap : leapBetween later earlier = 0 := by simp [leapBetween, hlater, hearlier]
  simp only [since, hleap, reading, perSecond]
  omega

/-- The time between two instants outside leap seconds is zero only if they are the same. -/
theorem since_eq_zero_iff (hlater : ¬later.IsLeap) (hearlier : ¬earlier.IsLeap) :
    later.since earlier = Span.zero ↔ later = earlier := by
  rw [Span.ext_iff, nanoseconds_since hlater hearlier, Instant.ext_iff]
  simp only [IsLeap, reading, perSecond, Span.zero] at hlater hearlier ⊢
  omega

/-- Any two instants are so near to each other that a time to live may reach from one to the
other. -/
theorem ofParts?_since (hlater : ¬later.IsLeap) (hearlier : ¬earlier.IsLeap) :
    Span.ofParts? (later.since earlier).seconds (later.since earlier).fraction =
      some (later.since earlier) := by
  have hspan := nanoseconds_since hlater hearlier
  have hfirst := later.valid
  have hsecond := earlier.valid
  simp only [IsInstant, firstSecond, lastSecond, reading, perSecond] at hspan hfirst hsecond
  simp only [IsLeap, perSecond] at hlater hearlier
  have htotal : (later.since earlier).seconds * perSecond + (later.since earlier).fraction =
      (later.since earlier).nanoseconds := by
    simp only [Span.seconds, Span.fraction, perSecond]
    omega
  have hbounds : (later.since earlier).fraction < perSecond ∧
      -(Span.maxMilliseconds * 1000000) ≤ (later.since earlier).nanoseconds ∧
        (later.since earlier).nanoseconds ≤ Span.maxMilliseconds * 1000000 := by
    simp only [Span.fraction, Span.maxMilliseconds, perSecond]
    omega
  simp only [Span.ofParts?, htotal, if_pos hbounds]

end Time.Instant

namespace Policy

/-- The first date of the header, without the blanks around it, names an instant. -/
def HasDate (headers : Headers) (date : Instant) : Prop :=
  ∃ value ∈ headers.get? .expires, ∃ text ∈ value.text?,
    HttpDate.parse? (Text.trim text) = some date

/-- The date after which an answer is stale is the first date of its header. -/
theorem expiry?_eq_some_iff {headers : Headers} {date : Instant} :
    expiry? headers = some date ↔ HasDate headers date := by
  unfold expiry? HasDate
  simp only [Option.bind_eq_some_iff, Option.mem_def]
  exact ⟨fun ⟨text, ⟨value, hvalue, htext⟩, hdate⟩ => ⟨value, hvalue, text, htext, hdate⟩,
    fun ⟨value, hvalue, text, htext, hdate⟩ => ⟨text, ⟨value, hvalue, htext⟩, hdate⟩⟩

end Policy

namespace Cache.Entry

/-- An entry is live up to a date and not after it. -/
structure LivesTo (entry : Entry) (date : Instant) : Prop where
  /-- The date is the last instant of the entry. -/
  last : entry.expiresAt = some date
  /-- The entry is live at the date and before, at each instant, and at no other. -/
  live : ∀ now, entry.expired now = false ↔ now = date ∨ now < date
  /-- A cache that holds the entry gives it up to the date, and not after it. -/
  given : ∀ (store : Store) (now : Instant), store.entries[entry.key]? = some entry →
    ((store.get entry.key now).1 = some entry ↔ now = date ∨ now < date)

/-- An entry lives to its last instant. -/
theorem livesTo_of_expiresAt {entry : Entry} {date : Instant} (h : entry.expiresAt = some date) :
    entry.LivesTo date := by
  have hlive (now : Instant) : entry.expired now = false ↔ now = date ∨ now < date := by
    rw [← Instant.not_lt_iff, Bool.eq_false_iff, Ne, expired_iff, h]
    simp
  refine ⟨h, hlive, fun store now hentry => ?_⟩
  rw [← hlive, Store.get_fst, hentry, Option.filter_some]
  cases entry.expired now <;> simp

variable (key : String) (value : Bytes) {date now : Instant}

/-- An entry that is made with the span to another instant lives to that. -/
theorem livesTo_since (hdate : ¬date.IsLeap) (hnow : ¬now.IsLeap) (hne : date ≠ now) :
    (Entry.new key value (some (date.since now)) now).LivesTo date := by
  have hspan : date.since now ≠ Span.zero := mt (Instant.since_eq_zero_iff hdate hnow).mp hne
  apply livesTo_of_expiresAt
  simp only [Entry.new, expiryAfter?, Option.filter_some, ne_eq, hspan, not_false_eq_true,
    decide_true, if_true, Option.bind_some]
  exact Instant.add?_since hnow hdate

/-- An entry that is made with the span to the instant of its creation has no end. -/
theorem expiresAt_since_self (hnow : ¬now.IsLeap) :
    (Entry.new key value (some (now.since now)) now).expiresAt = none := by
  have hspan : now.since now = Span.zero := (Instant.since_eq_zero_iff hnow hnow).mpr rfl
  simp [Entry.new, expiryAfter?, hspan]

end Cache.Entry

namespace Proxy

/-- A response whose directives give no age lives to its date, to the nanosecond. The span to the
date is a time to live, and it is the one that the response gets, whatever the rules say. Once the
response is kept, the entry under its key ends at the date, or, if it was kept at the date itself,
not at all. The cache has this entry unless it may hold nothing. -/
theorem kept_to_the_date {response : Response} {date now : Instant}
    (hage : ¬Policy.HasAge response.headers) (hdate : Policy.HasDate response.headers date)
    (hleap : ¬date.IsLeap) (hclock : ¬now.IsLeap) :
    Policy.lifetime? response.headers now = some (date.since now) ∧
      Span.ofParts? (date.since now).seconds (date.since now).fraction =
        some (date.since now) ∧
      ∀ (rules : Rules) (store : Cache.Store) (key : String),
        (∀ entry ∈ (keep rules store key response now).entries[key]?,
          (date ≠ now → entry.LivesTo date) ∧ (date = now → entry.expiresAt = none)) ∧
        ∀ capacity, store.InOrder capacity → 0 < capacity →
          (keep rules store key response now).entries[key]?.isSome = true := by
  have hlifetime : Policy.lifetime? response.headers now = some (date.since now) := by
    rw [Policy.lifetime?_of_not_hasAge hage, Policy.expiry?_eq_some_iff.mpr hdate, Option.map_some]
  refine ⟨hlifetime, Instant.ofParts?_since hleap hclock, fun rules store key => ?_⟩
  have hkeep : keep rules store key response now =
      (store.set key (Cache.StoredResponse.encode response) (some (date.since now)) now).2 := by
    rw [keep, hlifetime, Option.some_or]
  rw [hkeep]
  constructor
  · intro entry hentry
    have hset := Cache.Store.getElem?_of_set hentry
    rw [if_pos rfl] at hset
    obtain rfl := Option.some.inj hset
    refine ⟨Cache.Entry.livesTo_since _ _ hleap hclock, ?_⟩
    rintro rfl
    exact Cache.Entry.expiresAt_since_self _ _ hclock
  · intro capacity horder hpos
    rw [horder.getElem?_set hpos]
    rfl

/-- A page with a date. -/
def datedPage : Response where
  status := .ok
  headers := Headers.empty.insert .expires someDate
  body := Bytes.ofAscii "page"

/-- The instant of the date that the page has. -/
def someInstant : Instant := ⟨1445413080, 0, by decide⟩

/-- Half a second before the instant of the date. -/
def justBefore : Instant := ⟨1445413079, 500000000, by decide⟩

/-- The page that is kept half a second before its date lives for this half a second. -/
theorem kept_to_the_date_datedPage :
    (¬Policy.HasAge datedPage.headers ∧ Policy.HasDate datedPage.headers someInstant ∧
      ¬someInstant.IsLeap ∧ ¬justBefore.IsLeap) ∧
      Policy.lifetime? datedPage.headers justBefore = some ⟨500000000⟩ ∧
      ∃ entry, (keep { maxBodySize := 0 } (.new 1) "k" datedPage justBefore).entries["k"]? =
        some entry ∧ entry.LivesTo someInstant := by
  have hage : ¬Policy.HasAge datedPage.headers := by
    rintro ⟨value, hvalue, -⟩
    have hnone : datedPage.headers.get? .cacheControl = none := by decide
    rw [hnone] at hvalue
    cases hvalue
  have hdate : Policy.HasDate datedPage.headers someInstant :=
    Policy.expiry?_eq_some_iff.mp (by decide +kernel)
  have hleap : ¬someInstant.IsLeap := by decide
  have hclock : ¬justBefore.IsLeap := by decide
  obtain ⟨hlifetime, -, hkept⟩ := kept_to_the_date hage hdate hleap hclock
  obtain ⟨hends, hthere⟩ := hkept { maxBodySize := 0 } (.new 1) "k"
  obtain ⟨entry, hentry⟩ := Option.isSome_iff_exists.mp
    (hthere 1 (Cache.Store.inOrder_new 1) (by decide))
  have hspan : someInstant.since justBefore = ⟨500000000⟩ := by decide
  exact ⟨⟨hage, hdate, hleap, hclock⟩, hspan ▸ hlifetime, entry, hentry,
    (hends entry hentry).1 (by decide)⟩

end Proxy

end ForwardProxy
