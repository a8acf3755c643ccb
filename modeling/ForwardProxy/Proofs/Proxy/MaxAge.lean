import ForwardProxy.Proofs.Cache.Expiry
import ForwardProxy.Proofs.Http.Headers
import ForwardProxy.Proofs.Text.Numerals
import ForwardProxy.Proxy.Handler

/-!
# What counts before the date

Of the directives for caches the first one that gives an age decides. As long as a span may have
that many seconds, the response lives for the age, whatever date its server gives it besides,
whenever it is kept, and whatever time the rules give. But an age that no span may have decides
nothing: it keeps later directives from being read, and then the date or the rules count after all.
-/

namespace ForwardProxy

open Http Time

namespace Http.Headers

/-- Other fields that have the same values of every name but one. -/
def AgreeBut (headers : Headers) (name : FieldName) (others : Headers) : Prop :=
  ∀ other, other ≠ name → others.values other = headers.values other

/-- The fields without a name are other fields that agree but for this name. -/
theorem agreeBut_erase (headers : Headers) (name : FieldName) :
    headers.AgreeBut name (headers.erase name) := by
  intro other hother
  rw [values_erase, if_neg hother]

/-- Fields that agree but for one name have the same first value of every other name. -/
theorem AgreeBut.get? {headers others : Headers} {name other : FieldName}
    (h : headers.AgreeBut name others) (hother : other ≠ name) :
    others.get? other = headers.get? other := by
  rw [get?_eq_head?, h other hother, get?_eq_head?]

end Http.Headers

namespace Policy

/-- A directive gives an age: without the blanks around it, it is the name for ages and an integer
of sixty-four bits. -/
def GivesAge (directive : List Char) (n : Int) : Prop :=
  ∃ literal, Text.trim directive = maxAgeDirective ++ literal ∧ Text.IsSigned literal n ∧
    -(ageBound : Int) ≤ n ∧ n < ageBound

/-- Some directive in the first value for caches gives an age. -/
def HasAge (headers : Headers) : Prop :=
  ∃ value ∈ headers.get? .cacheControl, ∃ text ∈ value.text?, ∃ directive ∈ text.splitOn ',',
    ∃ n, GivesAge directive n

/-- The first directive in the first value for caches that gives an age gives this one. -/
def HasFirstAge (headers : Headers) (n : Int) : Prop :=
  ∃ value ∈ headers.get? .cacheControl, ∃ text ∈ value.text?,
    ∃ before directive after, text.splitOn ',' = before ++ directive :: after ∧
      GivesAge directive n ∧ ∀ earlier ∈ before, ∀ m, ¬GivesAge earlier m

/-- A span may have so many seconds, into the past or into the future. -/
def IsSpanOf (n : Int) : Prop := -Span.maxSeconds ≤ n ∧ n ≤ Span.maxSeconds

variable {headers : Headers} {n : Int}

/-- An age is read from a directive exactly if this gives it. -/
theorem directiveAge?_eq_some_iff {directive : List Char} :
    directiveAge? directive = some n ↔ GivesAge directive n := by
  have hbound : 0 < ageBound := by decide
  unfold directiveAge? GivesAge
  simp only [Option.bind_eq_some_iff, List.isPrefixOf?_eq_some_iff_append_eq,
    Text.signed?_eq_some_iff hbound]
  simp only [eq_comm]

/-- No age is read from a directive that gives none. -/
theorem directiveAge?_eq_none_iff {directive : List Char} :
    directiveAge? directive = none ↔ ∀ m, ¬GivesAge directive m := by
  rw [Option.eq_none_iff_forall_ne_some]
  exact forall_congr' fun m => not_congr directiveAge?_eq_some_iff

/-- The age that is read from the fields is the first one that a directive gives. -/
theorem firstAge_iff :
    ((headers.get? .cacheControl).bind (·.text?)).bind firstAge? = some n ↔
      HasFirstAge headers n := by
  unfold HasFirstAge firstAge?
  simp only [Option.bind_eq_some_iff, List.findSome?_eq_some_iff, directiveAge?_eq_some_iff,
    directiveAge?_eq_none_iff]
  exact ⟨fun ⟨text, ⟨value, hvalue, htext⟩, hfirst⟩ => ⟨value, hvalue, text, htext, hfirst⟩,
    fun ⟨value, hvalue, text, htext, hfirst⟩ => ⟨text, ⟨value, hvalue, htext⟩, hfirst⟩⟩

/-- If some directive gives an age, there is a first one that does. -/
theorem HasAge.exists_first (h : HasAge headers) : ∃ n, HasFirstAge headers n := by
  obtain ⟨value, hvalue, text, htext, directive, hmem, n, hgives⟩ := h
  cases hfirst : firstAge? text with
  | some first =>
    refine ⟨first, firstAge_iff.mp ?_⟩
    rw [Option.mem_def.mp hvalue, Option.bind_some, Option.mem_def.mp htext, Option.bind_some,
      hfirst]
  | none =>
    have hnone := List.findSome?_eq_none_iff.mp hfirst directive hmem
    rw [directiveAge?_eq_some_iff.mpr hgives] at hnone
    cases hnone

/-- Without an age only the date decides. -/
theorem lifetime?_of_not_hasAge (h : ¬HasAge headers) (now : Instant) :
    lifetime? headers now = (expiry? headers).map (·.since now) := by
  have hnone : ((headers.get? .cacheControl).bind (·.text?)).bind firstAge? = none := by
    rw [Option.eq_none_iff_forall_ne_some]
    intro n hfirst
    obtain ⟨value, hvalue, text, htext, before, directive, after, hsplit, hgives, -⟩ :=
      firstAge_iff.mp hfirst
    have hmem : directive ∈ text.splitOn ',' := by simp [hsplit]
    exact h ⟨value, hvalue, text, htext, directive, hmem, n, hgives⟩
  rw [lifetime?, maxAge?, hnone, Option.bind_none, Option.none_or]

/-- The first age decides alone if a span may have so many seconds, and otherwise the date does,
whichever it is and whenever the response is kept. -/
theorem HasFirstAge.lifetime?_eq (h : HasFirstAge headers n) {others : Headers}
    (hagree : headers.AgreeBut .expires others) (now : Instant) :
    lifetime? others now =
      (Span.ofSeconds? n).or ((expiry? others).map (·.since now)) := by
  have hcontrol : others.get? .cacheControl = headers.get? .cacheControl :=
    hagree.get? (by decide)
  rw [lifetime?, maxAge?, hcontrol, firstAge_iff.mpr h, Option.bind_some]

end Policy

namespace Proxy

/-- Whatever date responses with the given directives have, each is kept for one and the same time,
at any instant and under any rules. -/
structure LivesFor (headers : Headers) (ttl : Span) : Prop where
  /-- The server gives a response this time, at any instant. -/
  given : ∀ others, headers.AgreeBut .expires others → ∀ now,
    Policy.lifetime? others now = some ttl
  /-- Whatever the rules give, a response is kept for this time. -/
  kept : ∀ response : Response, headers.AgreeBut .expires response.headers →
    ∀ (rules : Rules) (store : Cache.Store) (key : String) (now : Instant),
      keep rules store key response now =
        (store.set key (Cache.StoredResponse.encode response) (some ttl) now).2

/-- Only the date counts for responses with the given directives, or else the rules. -/
structure LivesByDate (headers : Headers) : Prop where
  /-- The server gives a response the time up to the date, if there is one. -/
  given : ∀ others, headers.AgreeBut .expires others → ∀ now,
    Policy.lifetime? others now = (Policy.expiry? others).map (·.since now)
  /-- Without a date a response is kept for as long as the rules give. -/
  kept : ∀ response : Response, headers.AgreeBut .expires response.headers →
    Policy.expiry? response.headers = none →
    ∀ (rules : Rules) (store : Cache.Store) (key : String) (now : Instant),
      keep rules store key response now =
        (store.set key (Cache.StoredResponse.encode response) rules.defaultLifetime now).2

variable {headers : Headers} {n : Int}

/-- An age that a span may have is how long the response lives. -/
theorem livesFor_of_isSpanOf (h : Policy.HasFirstAge headers n) (hspan : Policy.IsSpanOf n) :
    LivesFor headers (.ofSeconds n) := by
  have hseconds : Span.ofSeconds? n = some (.ofSeconds n) := if_pos hspan
  have hgiven (others : Headers) (hagree : headers.AgreeBut .expires others) (now : Instant) :
      Policy.lifetime? others now = some (.ofSeconds n) := by
    rw [h.lifetime?_eq hagree, hseconds, Option.some_or]
  refine ⟨hgiven, fun response hagree rules store key now => ?_⟩
  rw [keep, hgiven _ hagree, Option.some_or]

/-- An age that no span may have leaves the time to live to the date. -/
theorem livesByDate_of_not_isSpanOf (h : Policy.HasFirstAge headers n)
    (hspan : ¬Policy.IsSpanOf n) : LivesByDate headers := by
  have hseconds : Span.ofSeconds? n = none := if_neg hspan
  have hgiven (others : Headers) (hagree : headers.AgreeBut .expires others) (now : Instant) :
      Policy.lifetime? others now = (Policy.expiry? others).map (·.since now) := by
    rw [h.lifetime?_eq hagree, hseconds, Option.none_or]
  refine ⟨hgiven, fun response hagree hnone rules store key now => ?_⟩
  rw [keep, hgiven _ hagree, hnone, Option.map_none, Option.none_or]

/-- What lives by its date has no time of its own: without a date the server gives it none. -/
theorem LivesByDate.not_livesFor (h : LivesByDate headers) (ttl : Span) :
    ¬LivesFor headers ttl := by
  intro hfor
  have hagree := headers.agreeBut_erase .expires
  have hdate : Policy.expiry? (headers.erase .expires) = none := by
    rw [Policy.expiry?, Headers.get?_eq_head?, Headers.values_erase, if_pos rfl]
    rfl
  have hsome := hfor.given _ hagree .epoch
  rw [h.given _ hagree, hdate] at hsome
  cases hsome

/-- If some directive gives an age, the first one that does goes before the date and before the
rules if and only if a span may have so many seconds. Then the response lives for that age in every
case; otherwise only its date counts, or else the rules. -/
theorem max_age_precedes_iff_isSpanOf (h : Policy.HasAge headers) :
    ∃ n, Policy.HasFirstAge headers n ∧
      (Policy.IsSpanOf n → LivesFor headers (.ofSeconds n)) ∧
      (¬Policy.IsSpanOf n → LivesByDate headers) ∧
      ((∃ ttl, LivesFor headers ttl) ↔ Policy.IsSpanOf n) := by
  obtain ⟨n, hfirst⟩ := h.exists_first
  refine ⟨n, hfirst, livesFor_of_isSpanOf hfirst, livesByDate_of_not_isSpanOf hfirst, ?_⟩
  constructor
  · rintro ⟨ttl, hfor⟩
    by_contra hspan
    exact (livesByDate_of_not_isSpanOf hfirst hspan).not_livesFor ttl hfor
  · exact fun hspan => ⟨_, livesFor_of_isSpanOf hfirst hspan⟩

/-- Directives with an age of two minutes. -/
def twoMinutes : Headers :=
  Headers.empty.insert .cacheControl { bytes := Bytes.ofAscii "public, max-age=120" }

/-- An age of two minutes is how long the response lives. -/
theorem max_age_precedes_iff_isSpanOf_twoMinutes :
    Policy.HasAge twoMinutes ∧ LivesFor twoMinutes (.ofSeconds 120) := by
  have hage : Policy.HasAge twoMinutes := by
    refine ⟨_, rfl, "public, max-age=120".toList, by decide, " max-age=120".toList, by decide, 120,
      "120".toList, by decide,
      .inl ⟨120, .inl (Text.natural?_eq_some_iff.mp (by decide)), rfl⟩, by decide, by decide⟩
  obtain ⟨n, hfirst, hfor, -, -⟩ := max_age_precedes_iff_isSpanOf hage
  have hread :
      ((twoMinutes.get? .cacheControl).bind (·.text?)).bind Policy.firstAge? = some 120 := by
    decide
  obtain rfl : 120 = n := Option.some.inj (hread.symm.trans (Policy.firstAge_iff.mpr hfirst))
  exact ⟨hage, hfor ⟨by decide, by decide⟩⟩

/-- Directives with the greatest age of sixty-four bits. -/
def greatestAge : Headers :=
  Headers.empty.insert .cacheControl { bytes := Bytes.ofAscii "max-age=9223372036854775807" }

/-- A date. -/
def someDate : FieldValue := { bytes := Bytes.ofAscii "Wed, 21 Oct 2015 07:38:00 GMT" }

/-- The greatest age that is read does not count: without a date the response gets no time to live,
and with one it gets the time up to that. -/
theorem greatestAge_gives_way :
    Policy.HasAge greatestAge ∧ Policy.lifetime? greatestAge .epoch = none ∧
      Policy.lifetime? (greatestAge.insert .expires someDate) .epoch =
        some (.ofSeconds 1445413080) := by
  refine ⟨⟨_, rfl, "max-age=9223372036854775807".toList, by decide,
    "max-age=9223372036854775807".toList, by decide, 9223372036854775807,
    "9223372036854775807".toList, by decide,
    .inl ⟨9223372036854775807, .inl (Text.natural?_eq_some_iff.mp (by decide)), rfl⟩, by decide,
    by decide⟩, by decide, ?_⟩
  decide +kernel

end Proxy

end ForwardProxy
