/-!
# Instants and spans

A span is a signed length of time in nanoseconds. An instant is a second of the universal calendar,
counted from the start of 1970, with a fraction. A leap second has no number of its own: it is the
second half of a 59th second, with a fraction of one second or more. Instants reach from the first
second of the year -262143 to the last of the year 262142.

The main statement is that going from a start by the span to an end arrives at the end, unless one
of them is a leap second.
-/

namespace ForwardProxy.Time

/-- The nanoseconds in a second. -/
abbrev perSecond : Nat := 1000000000

/-- A signed length of time. -/
@[ext] structure Span where
  /-- Its length in nanoseconds. -/
  nanoseconds : Int
  deriving DecidableEq

namespace Span

/-- No time. -/
def zero : Span := ⟨0⟩

/-- Whole seconds. -/
def ofSeconds (n : Int) : Span := ⟨n * perSecond⟩

/-- The greatest number of whole seconds in a span that a time to live may have. -/
def maxSeconds : Int := 9223372036854775

/-- Whole seconds, if a time to live may have as many in either direction. -/
def ofSeconds? (n : Int) : Option Span :=
  if -maxSeconds ≤ n ∧ n ≤ maxSeconds then some (ofSeconds n) else none

/-- The number of whole milliseconds beyond which a time to live may not go in either direction. -/
def maxMilliseconds : Int := 9223372036854775807

/-- A number of seconds and a fraction in nanoseconds, if a time to live may have that length. -/
def ofParts? (seconds : Int) (nanos : Nat) : Option Span :=
  let total := seconds * perSecond + nanos
  if nanos < perSecond ∧ -(maxMilliseconds * 1000000) ≤ total ∧ total ≤ maxMilliseconds * 1000000 then
    some ⟨total⟩
  else none

/-- The whole seconds, rounded down. -/
def seconds (span : Span) : Int := span.nanoseconds / perSecond

/-- The nanoseconds beyond the whole seconds. -/
def fraction (span : Span) : Nat := (span.nanoseconds % perSecond).toNat

end Span

/-- The first second that has an instant. -/
abbrev firstSecond : Int := -8334601228800

/-- The last second that has an instant. -/
abbrev lastSecond : Int := 8210266876799

/-- Whether a second and a fraction make an instant. Only the 59th second of a minute can have a
leap second as its second half. -/
abbrev IsInstant (seconds : Int) (nanos : Nat) : Prop :=
  firstSecond ≤ seconds ∧ seconds ≤ lastSecond ∧ nanos < 2 * perSecond ∧
    (perSecond ≤ nanos → seconds % 60 = 59)

/-- A point in time. -/
@[ext] structure Instant where
  /-- The second, counted from the start of 1970. -/
  seconds : Int
  /-- The nanoseconds since that second began, one second or more in a leap second. -/
  nanos : Nat
  /-- The second has an instant with this fraction. -/
  valid : IsInstant seconds nanos
  deriving DecidableEq

namespace Instant

/-- The start of 1970. -/
def epoch : Instant := ⟨0, 0, by decide⟩

/-- The instant with the given parts. -/
def ofParts? (seconds : Int) (nanos : Nat) : Option Instant :=
  if h : IsInstant seconds nanos then some ⟨seconds, nanos, h⟩ else none

/-- The instant that lies so many nanoseconds after the start of 1970 and in no leap second. -/
def ofNanoseconds? (total : Int) : Option Instant :=
  ofParts? (total / perSecond) (total % perSecond).toNat

/-- An instant is earlier than another if its second is, or its fraction of the same second. -/
instance : LT Instant where
  lt a b := a.seconds < b.seconds ∨ (a.seconds = b.seconds ∧ a.nanos < b.nanos)

instance (a b : Instant) : Decidable (a < b) :=
  inferInstanceAs (Decidable (_ ∨ _))

/-- The instant lies in a leap second. -/
def IsLeap (instant : Instant) : Prop := perSecond ≤ instant.nanos

instance (instant : Instant) : Decidable instant.IsLeap := inferInstanceAs (Decidable (_ ≤ _))

/-- The nanoseconds since the start of 1970 on a clock that knows no leap seconds. -/
def reading (instant : Instant) : Int := instant.seconds * perSecond + instant.nanos

/-- The second of the day. -/
def secondOfDay (instant : Instant) : Int := instant.seconds % 86400

/-- The length of the leap second that one of two instants adds to the time between them: the
earlier one by the time of day counts its leap second. -/
def leapBetween (later earlier : Instant) : Int :=
  if earlier.secondOfDay < later.secondOfDay ∧ earlier.IsLeap then 1
  else if later.secondOfDay < earlier.secondOfDay ∧ later.IsLeap then -1
  else 0

/-- The span from `earlier` to `later`. -/
def since (later earlier : Instant) : Span :=
  ⟨(later.seconds - earlier.seconds + leapBetween later earlier) * perSecond +
    ((later.nanos : Int) - earlier.nanos)⟩

/-- The instant that lies a span after this one. From inside a leap second, a span that stays
inside is added to the fraction, and one that leaves it counts the leap second as the second it
runs into. -/
def add? (start : Instant) (span : Span) : Option Instant :=
  let seconds := span.nanoseconds.tdiv perSecond
  let fraction := span.nanoseconds.tmod perSecond
  let total := start.seconds * perSecond + start.nanos + span.nanoseconds
  if start.IsLeap then
    if 0 < seconds ∨ (0 < fraction ∧ 2 * (perSecond : Int) ≤ start.nanos + fraction) then
      ofNanoseconds? (total - perSecond)
    else if seconds < 0 then ofNanoseconds? total
    else ofParts? start.seconds (start.nanos + fraction).toNat
  else ofNanoseconds? total

/-- The parts of an instant make it up again. -/
theorem ofParts?_eq_some (instant : Instant) :
    ofParts? instant.seconds instant.nanos = some instant := by
  simp only [ofParts?, dif_pos instant.valid]

/-- Going from a start by the span to an end arrives at the end. -/
theorem add?_since {start finish : Instant} (hs : ¬start.IsLeap) (hf : ¬finish.IsLeap) :
    start.add? (finish.since start) = some finish := by
  have hn : finish.nanos < perSecond := Nat.lt_of_not_le hf
  have hleap : leapBetween finish start = 0 := by
    simp [leapBetween, hs, hf]
  have htotal : start.seconds * (perSecond : Int) + start.nanos + (finish.since start).nanoseconds =
      finish.seconds * perSecond + finish.nanos := by
    simp only [since, hleap, perSecond]
    omega
  simp only [add?, if_neg hs, htotal, ofNanoseconds?]
  have hdiv : (finish.seconds * (perSecond : Int) + finish.nanos) / perSecond = finish.seconds := by
    simp only [perSecond] at hn ⊢
    omega
  have hmod : ((finish.seconds * (perSecond : Int) + finish.nanos) % perSecond).toNat =
      finish.nanos := by
    simp only [perSecond] at hn ⊢
    omega
  rw [hdiv, hmod, ofParts?_eq_some]

end Instant

end ForwardProxy.Time
