import ForwardProxy.Proofs.Time.Calendar
import ForwardProxy.Time.Instant

/-!
# Dates and times of day

What a clock shows to the second at an instant. The clock may be ahead of universal time. A date
and a time of day that exist are shown at one second only.
-/

namespace ForwardProxy.Time

/-- A date and a time of day, to the second. -/
@[ext] structure Civil where
  /-- The date. -/
  date : Date
  /-- The hour. -/
  hour : Nat
  /-- The minute. -/
  minute : Nat
  /-- The second. -/
  second : Nat
  deriving DecidableEq

/-- What a clock shows that is ahead of universal time by so many seconds. -/
def Instant.civil (instant : Instant) (ahead : Int) : Civil where
  date := Date.ofDayNumber ((instant.seconds + ahead) / 86400)
  hour := ((instant.seconds + ahead) % 86400 / 3600).toNat
  minute := ((instant.seconds + ahead) % 3600 / 60).toNat
  second := ((instant.seconds + ahead) % 60).toNat

namespace Civil

/-- The date exists, and the time is one of the day. -/
structure IsValid (civil : Civil) : Prop where
  /-- The date exists. -/
  date : civil.date.IsValid
  /-- The hour is in a day. -/
  hour : civil.hour ≤ 23
  /-- The minute is in an hour. -/
  minute : civil.minute ≤ 59
  /-- The second is in a minute. -/
  second : civil.second ≤ 59

/-- The weekday of the date. -/
def weekday (civil : Civil) : Weekday := Weekday.ofDayNumber civil.date.dayNumber

/-- The seconds from the start of 1970 on the same clock. -/
def seconds (civil : Civil) : Int :=
  civil.date.dayNumber * 86400 + (civil.hour * 3600 + civil.minute * 60 + civil.second : Nat)

variable {civil : Civil}

/-- At the second that belongs to a date and a time of day, the clock shows these. -/
theorem IsValid.civil_eq (h : civil.IsValid) {instant : Instant} {ahead : Int}
    (hseconds : instant.seconds + ahead = civil.seconds) : instant.civil ahead = civil := by
  obtain ⟨hdate, hhour, hminute, hsecond⟩ := h
  unfold seconds at hseconds
  have hday : (instant.seconds + ahead) / 86400 = civil.date.dayNumber := by omega
  apply Civil.ext
  · simp only [Instant.civil, hday, hdate.ofDayNumber_dayNumber]
  · simp only [Instant.civil]
    omega
  · simp only [Instant.civil]
    omega
  · simp only [Instant.civil]
    omega

/-- In years of four digits there are less than three million days before or after 1970. -/
theorem IsValid.dayNumber_bounds (h : civil.IsValid)
    (hyear : 0 ≤ civil.date.year ∧ civil.date.year ≤ 9999) :
    -3000000 ≤ civil.date.dayNumber ∧ civil.date.dayNumber ≤ 3000000 := by
  have hlt := h.date.dayOfYear_lt
  have hnumber := h.date.dayNumber_eq
  rw [daysInYear_eq] at hlt
  simp only [daysBeforeYear, daysBefore1970] at hnumber
  split at hlt <;> omega

end Civil

end ForwardProxy.Time
