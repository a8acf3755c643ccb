import ForwardProxy.Time.Calendar
import ForwardProxy.Time.Instant
import Mathlib.Order.Monotone.Basic

/-!
# Dates and their day numbers

The day number of a date that exists is the number of that date alone: counting it out again, by
cycles of years, then by months, arrives at the date. The calendar repeats itself every 400 years,
which are a whole number of weeks, so a date falls on the same weekday as 400 years before. It does
not repeat itself like that after 1900 years.
-/

namespace ForwardProxy.Time

/-- The number of days in a year. -/
def daysInYear (year : Int) : Nat := if isLeapYear year then 366 else 365

/-- A year has one day more if it is a leap year by the rule. -/
theorem daysInYear_eq (year : Int) :
    daysInYear year = if year % 4 = 0 ∧ (year % 100 ≠ 0 ∨ year % 400 = 0) then 366 else 365 := by
  simp [daysInYear, isLeapYear]

/-- No month has more than 31 days. -/
theorem daysInMonth_le (year : Int) (month : Nat) : daysInMonth year month ≤ 31 := by
  unfold daysInMonth
  split
  · split <;> decide
  all_goals decide

variable {year other : Int} {month : Nat}

/-- A month begins when the one before it ends. -/
theorem daysBeforeMonth_succ (year : Int) (h : 1 ≤ month) :
    daysBeforeMonth year (month + 1) = daysBeforeMonth year month + daysInMonth year month := by
  have hdrop : (List.range (month + 1)).drop 1 = (List.range month).drop 1 ++ [month] := by
    rw [List.range_succ, List.drop_append_of_le_length (by simpa using h)]
  rw [daysBeforeMonth, hdrop, List.foldl_append]
  rfl

/-- A later month does not begin before an earlier one. -/
theorem daysBeforeMonth_le (year : Int) {later : Nat} (h : 1 ≤ month) (hlater : month ≤ later) :
    daysBeforeMonth year month ≤ daysBeforeMonth year later := by
  induction later, hlater using Nat.le_induction with
  | base => exact Nat.le_refl _
  | succ later hle ih =>
    rw [daysBeforeMonth_succ year (by omega)]
    omega

/-- Twelve months make up a year. -/
theorem daysBeforeMonth_thirteen (year : Int) : daysBeforeMonth year 13 = daysInYear year := by
  cases hleap : isLeapYear year <;>
    simp [daysBeforeMonth, daysInMonth, daysInYear, hleap, List.range_succ]

namespace Date

variable {date : Date}

/-- The days from the start of the year to a date. -/
def dayOfYear (date : Date) : Nat := daysBeforeMonth date.year date.month + (date.day - 1)

/-- A date that exists lies in its year. -/
theorem IsValid.dayOfYear_lt (h : date.IsValid) : date.dayOfYear < daysInYear date.year := by
  obtain ⟨hfirst, hlast, hday, hlength⟩ := h
  have hnext := daysBeforeMonth_succ date.year hfirst
  have hyear : daysBeforeMonth date.year (date.month + 1) ≤ daysBeforeMonth date.year 13 :=
    daysBeforeMonth_le date.year (by omega) (by omega)
  rw [daysBeforeMonth_thirteen] at hyear
  unfold dayOfYear
  omega

/-- The day number of a date counts whole years, and days from the start of its year. -/
theorem IsValid.dayNumber_eq (h : date.IsValid) :
    date.dayNumber = daysBeforeYear date.year + date.dayOfYear - daysBefore1970 := by
  have hday := h.2.2.1
  unfold dayNumber dayOfYear
  omega

/-- Counting days month by month from one that is not too late arrives at the date. -/
theorem IsValid.fromMonth_eq (h : date.IsValid) {left first rest : Nat} (hfirst : 1 ≤ first)
    (hle : first ≤ date.month) (hlast : date.month ≤ first + left)
    (hrest : daysBeforeMonth date.year first + rest = date.dayOfYear) :
    fromMonth date.year left first rest = date := by
  obtain ⟨-, -, hday, hlength⟩ := h
  unfold dayOfYear at hrest
  induction left generalizing first rest with
  | zero =>
    obtain rfl : first = date.month := by omega
    obtain rfl : rest = date.day - 1 := by omega
    rw [fromMonth, Nat.sub_add_cancel hday]
  | succ left ih =>
    rw [fromMonth]
    by_cases hreached : first = date.month
    · subst hreached
      obtain rfl : rest = date.day - 1 := by omega
      rw [if_pos (by omega), Nat.sub_add_cancel hday]
    · have hnext := daysBeforeMonth_succ date.year hfirst
      have hlater : daysBeforeMonth date.year (first + 1) ≤ daysBeforeMonth date.year date.month :=
        daysBeforeMonth_le date.year (by omega) (by omega)
      rw [if_neg (by omega)]
      exact ih (by omega) (by omega) (by omega) (by omega)

/-- Counting a day number out by cycles of years finds the year. -/
theorem ofDayNumber_eq_fromMonth {day : Nat} (h : day < daysInYear year) :
    ofDayNumber (daysBeforeYear year + day - daysBefore1970) = fromMonth year 11 1 day := by
  -- The years before this one are so many whole cycles, centuries, fours and single years.
  obtain ⟨cycles, centuries, fours, years, hyear, hcenturies, hfours, hyears⟩ :
      ∃ cycles centuries fours years : Int,
        year = 400 * cycles + 100 * centuries + 4 * fours + years + 1 ∧
          (0 ≤ centuries ∧ centuries ≤ 3) ∧ (0 ≤ fours ∧ fours ≤ 24) ∧ 0 ≤ years ∧ years ≤ 3 :=
    ⟨(year - 1) / 400, (year - 1) % 400 / 100, (year - 1) % 100 / 4, (year - 1) % 4, by omega,
      by omega, by omega, by omega⟩
  have hbefore : daysBeforeYear year =
      146097 * cycles + 36524 * centuries + 1461 * fours + 365 * years := by
    simp only [daysBeforeYear]
    omega
  -- Only the last year of four has one day more, and that of a century only in the last century.
  have hlength : day < 365 ∨ (day = 365 ∧ years = 3 ∧ (fours = 24 → centuries = 3)) := by
    rw [daysInYear_eq] at h
    split at h <;> omega
  have hcycles : (daysBeforeYear year + day) / 146097 = cycles := by omega
  have hinCycle : (daysBeforeYear year + day) % 146097 =
      36524 * centuries + 1461 * fours + 365 * years + day := by omega
  have hcenturiesIn :
      min 3 ((36524 * centuries + 1461 * fours + 365 * years + day) / 36524) = centuries := by
    omega
  have hinCentury : 36524 * centuries + 1461 * fours + 365 * years + day - centuries * 36524 =
      1461 * fours + 365 * years + day := by omega
  have hfoursIn : (1461 * fours + 365 * years + day) / 1461 = fours := by omega
  have hinFour : (1461 * fours + 365 * years + day) % 1461 = 365 * years + day := by omega
  have hyearsIn : min 3 ((365 * years + day) / 365) = years := by omega
  have hinYear : (365 * years + (day : Int) - years * 365).toNat = day := by omega
  simp only [ofDayNumber, Int.sub_add_cancel, hcycles, hinCycle, hcenturiesIn, hinCentury, hfoursIn,
    hinFour, hyearsIn, hinYear]
  rw [← hyear]

/-- The day number of a date that exists is the number of this date. -/
theorem IsValid.ofDayNumber_dayNumber (h : date.IsValid) : ofDayNumber date.dayNumber = date := by
  rw [h.dayNumber_eq, ofDayNumber_eq_fromMonth h.dayOfYear_lt]
  exact h.fromMonth_eq (Nat.le_refl 1) h.1 (by have := h.2.1; omega) (by simp [daysBeforeMonth])

end Date

/-! ### Weeks and years -/

/-- Days that lie whole weeks apart fall on the same weekday. -/
theorem Weekday.ofDayNumber_add_weeks (n weeks : Int) :
    ofDayNumber (n + 7 * weeks) = ofDayNumber n := by
  have hmod : (n + 7 * weeks + 3) % 7 = (n + 3) % 7 := by omega
  rw [ofDayNumber, ofDayNumber, hmod]

/-- The next day falls on another weekday. -/
theorem Weekday.ofDayNumber_succ_ne (n : Int) : ofDayNumber (n + 1) ≠ ofDayNumber n := by
  obtain ⟨m, hm⟩ : ∃ m : Nat, (m : Int) = (n + 3) % 7 := ⟨((n + 3) % 7).toNat, by omega⟩
  have hnext : (n + 1 + 3) % 7 = ((m + 1) % 7 : Nat) := by omega
  have hlt : m < 7 := by omega
  simp only [ofDayNumber, hnext, ← hm, Int.toNat_natCast]
  clear hm hnext
  decide +revert

/-- Whether years have a day more decides how long their months are. -/
theorem daysInMonth_congr (h : isLeapYear year = isLeapYear other) (month : Nat) :
    daysInMonth year month = daysInMonth other month := by
  simp only [daysInMonth, h]

/-- Whether years have a day more decides when their months begin. -/
theorem daysBeforeMonth_congr (h : isLeapYear year = isLeapYear other) (month : Nat) :
    daysBeforeMonth year month = daysBeforeMonth other month := by
  simp only [daysBeforeMonth, daysInMonth_congr h]

/-- Whether years have a day more decides which dates they have. -/
theorem Date.isValid_congr (h : isLeapYear year = isLeapYear other) (month day : Nat) :
    (Date.mk year month day).IsValid ↔ (Date.mk other month day).IsValid := by
  simp only [Date.IsValid, daysInMonth_congr h]

/-- Dates in years that have the same number of days are as far from each other as the years. -/
theorem Date.dayNumber_congr (h : isLeapYear year = isLeapYear other) (month day : Nat) :
    (Date.mk year month day).dayNumber =
      (Date.mk other month day).dayNumber + (daysBeforeYear year - daysBeforeYear other) := by
  simp only [Date.dayNumber, daysBeforeMonth_congr h]
  omega

end ForwardProxy.Time
