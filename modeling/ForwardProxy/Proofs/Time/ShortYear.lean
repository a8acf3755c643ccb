import ForwardProxy.Proofs.Time.StampInstant

/-!
# Dates with two digits for the year

Two digits stand for a year from 1970 to 2069. The layouts for them go first. But the layouts for
four digits come after them, and they read two digits as well: as one of the first hundred years. So
a date whose weekday is wrong gets a second chance there. Up to 69 this changes nothing, since the
calendar repeats itself after 2000 years. From 70 on the weekday that is wrong in the last century
may be right in the first one, and then the date is read as one of that time.
-/

namespace ForwardProxy.Time

open Text

namespace Stamp

variable {stamp : Stamp} {n : Nat} {name : Piece}

/-- A layout for two digits fits a stamp with two. -/
theorem fits_shortYear (h : TwoDigits stamp.yearText n) (hname : stamp.NamesWeekday name) :
    stamp.Fits name (.literal '-') .shortYear '-' (pivoted n) :=
  fits_hyphens hname h.isNumeral (givesYear_shortYear h)

/-- A layout for four digits fits a stamp with two, with the number itself for the year. -/
theorem fits_year_of_two (h : TwoDigits stamp.yearText n) (hname : stamp.NamesWeekday name) :
    stamp.Fits name (.literal '-') .year '-' n :=
  fits_hyphens hname h.isNumeral (givesYear_year h.isNumeral (by rw [h.length]; decide))

/-- Whatever the weekday looks like, the named layouts read a stamp of two digits with the year that
they stand for, or else with the number itself. -/
theorem findSome?_namedZone (h : TwoDigits stamp.yearText n) :
    HttpDate.namedZone.findSome? (Layout.instant? · (stamp.text '-')) =
      ((HttpDate.hyphenated .weekday .shortYear).instant? (stamp.text '-')).or
        ((HttpDate.hyphenated .weekday .year).instant? (stamp.text '-')) := by
  have hspaced : HttpDate.spaced.instant? (stamp.text '-') = none := by
    rw [Layout.instant?, Layout.read_of_refuses stamp.refuses_spaced, Option.bind_none]
  have hfull := stamp.namesWeekday_weekday
  simp only [HttpDate.namedZone, List.findSome?_cons, hspaced, List.findSome?_nil]
  rcases stamp.isWeekday with hshort | hlong
  · -- A short weekday fits all four layouts, and so each two of them read the same.
    have hname := namesWeekday_short hshort
    have hpivot : (HttpDate.hyphenated .shortWeekday .shortYear).instant? (stamp.text '-') =
        (HttpDate.hyphenated .weekday .shortYear).instant? (stamp.text '-') :=
      instant?_eq_of_fits (fits_shortYear h hname) (fits_shortYear h hfull)
    have hplain : (HttpDate.hyphenated .shortWeekday .year).instant? (stamp.text '-') =
        (HttpDate.hyphenated .weekday .year).instant? (stamp.text '-') :=
      instant?_eq_of_fits (fits_year_of_two h hname) (fits_year_of_two h hfull)
    rw [hpivot, hplain]
    cases (HttpDate.hyphenated .weekday .shortYear).instant? (stamp.text '-') <;>
      cases (HttpDate.hyphenated .weekday .year).instant? (stamp.text '-') <;> rfl
  · have hnone (number : Piece) :
        (HttpDate.hyphenated .shortWeekday number).instant? (stamp.text '-') = none := by
      have hrefuses : ∀ rest, Layout.Refuses (HttpDate.hyphenated .shortWeekday number)
          (stamp.text '-' ++ rest) := refuses_short hlong
      rw [Layout.instant?, Layout.read_of_refuses hrefuses, Option.bind_none]
    simp only [hnone]
    cases (HttpDate.hyphenated .weekday .shortYear).instant? (stamp.text '-') <;>
      cases (HttpDate.hyphenated .weekday .year).instant? (stamp.text '-') <;> rfl

/-- A stamp of two digits in front of the name of a zone is read by the named layouts only. -/
theorem parse?_of_two (h : TwoDigits stamp.yearText n) {zone : List Char}
    (hzone : ∀ c ∈ zone, c.isAlpha = true) :
    HttpDate.parse? (stamp.text '-' ++ ' ' :: zone) =
      ((HttpDate.hyphenated .weekday .shortYear).instant? (stamp.text '-')).or
        ((HttpDate.hyphenated .weekday .year).instant? (stamp.text '-')) := by
  have hnumeric : HttpDate.numericZone.instant? (stamp.text '-' ++ ' ' :: zone) = none := by
    have hrefuses : HttpDate.numericZone.Refuses (stamp.text '-' ++ ' ' :: zone) :=
      (stamp.refuses_spaced (' ' :: zone)).append
    rw [Layout.instant?, hrefuses.read_eq, Option.bind_none]
  rw [HttpDate.parse?_of_name _ hzone, findSome?_namedZone h, hnumeric, Option.or_none]

/-! ### The two readings -/

/-- Two digits denote a number below a hundred. -/
theorem lt_of_twoDigits {digits : List Char} (h : TwoDigits digits n) : n < 100 := by
  have hlt := digitsValue_lt digits h.isNumeral.isDigit
  rwa [h.length, h.isNumeral.value] at hlt

/-- Two digits stand for the year with the same place in its century, in this one or the last. -/
theorem pivoted_eq (n : Nat) : pivoted n = n + if n < 70 then 2000 else 1900 := by
  unfold pivoted
  split <;> omega

/-- The year that two digits stand for lies from 1970 to 2069. -/
theorem pivoted_bounds (h : n < 100) : 1970 ≤ pivoted n ∧ pivoted n ≤ 2069 := by
  rw [pivoted_eq]
  split <;> omega

/-- The year that two digits stand for has a day more exactly if the year that is the number itself
has. -/
theorem isLeapYear_pivoted (h : n < 100) : isLeapYear (pivoted n) = isLeapYear n := by
  rw [Bool.eq_iff_iff, pivoted_eq]
  simp only [isLeapYear, Bool.and_eq_true, Bool.or_eq_true, beq_iff_eq, bne_iff_ne]
  split <;> omega

/-- Up to 69, the year that two digits stand for begins whole weeks after the year that is the
number itself. -/
theorem daysBeforeYear_pivoted_of_lt (h : n < 70) :
    daysBeforeYear (pivoted n) - daysBeforeYear n = 7 * 104355 := by
  rw [pivoted_eq, if_pos h]
  simp only [daysBeforeYear]
  omega

/-- From 70 on, the year that two digits stand for begins one day more than whole weeks after the
year that is the number itself. -/
theorem daysBeforeYear_pivoted_of_ge (h : 70 ≤ n) (hlt : n < 100) :
    daysBeforeYear (pivoted n) - daysBeforeYear n = 7 * 99137 + 1 := by
  rw [pivoted_eq, if_neg (Nat.not_lt.mpr h)]
  simp only [daysBeforeYear]
  omega

/-- Up to 69, a stamp tells the same in the year that two digits stand for as in the year that is
the number itself. -/
theorem tells_pivoted_iff (h : n < 70) : stamp.Tells (pivoted n) ↔ stamp.Tells n := by
  have hleap := isLeapYear_pivoted (by omega : n < 100)
  have hvalid : (stamp.date (pivoted n)).IsValid ↔ (stamp.date n).IsValid :=
    Date.isValid_congr hleap _ _
  have hweekday : Weekday.ofDayNumber (stamp.date (pivoted n)).dayNumber =
      Weekday.ofDayNumber (stamp.date n).dayNumber := by
    rw [date, Date.dayNumber_congr hleap, daysBeforeYear_pivoted_of_lt h,
      Weekday.ofDayNumber_add_weeks]
    rfl
  constructor
  · rintro ⟨hrange, hdate, hday⟩
    exact ⟨hrange, hvalid.mp hdate, hweekday.symm.trans hday⟩
  · rintro ⟨hrange, hdate, hday⟩
    exact ⟨hrange, hvalid.mpr hdate, hweekday.trans hday⟩

/-- From 70 on, no stamp tells something both in the year that two digits stand for and in the year
that is the number itself. -/
theorem not_tells_of_pivoted (hge : 70 ≤ n) (hlt : n < 100) (h : stamp.Tells (pivoted n)) :
    ¬stamp.Tells n := by
  intro hother
  have hnumber : (stamp.date (pivoted n)).dayNumber =
      (stamp.date n).dayNumber + 1 + 7 * 99137 := by
    have hnumber := Date.dayNumber_congr (isLeapYear_pivoted hlt) stamp.month stamp.day
    rw [daysBeforeYear_pivoted_of_ge hge hlt] at hnumber
    unfold date
    omega
  apply Weekday.ofDayNumber_succ_ne (stamp.date n).dayNumber
  rw [← Weekday.ofDayNumber_add_weeks _ 99137, ← hnumber, h.weekday, hother.weekday]

/-! ### The year that is read -/

/-- What a text with two digits for the year is read as. -/
structure ReadsShortYear (stamp : Stamp) (n : Nat) (read : Option Instant) : Prop where
  /-- If the stamp tells a date and a time in the year that the digits stand for, these are read. -/
  recent : stamp.Tells (pivoted n) →
    ∃ instant, read = some instant ∧ stamp.IsShown (pivoted n) 0 instant
  /-- If the stamp tells a date and a time in the year that is the number itself, from 70 on, those
  are read. -/
  literal : 70 ≤ n → stamp.Tells n → ∃ instant, read = some instant ∧ stamp.IsShown n 0 instant
  /-- Nothing is read if the stamp tells nothing in either year. -/
  neither : ¬stamp.Tells (pivoted n) → ¬(70 ≤ n ∧ stamp.Tells n) → read = none
  /-- Every year that is read is one from 1970 to 2069, exactly if the stamp tells nothing in the
  year that is the number itself, or that is below 70. -/
  century : (∀ instant, read = some instant →
      1970 ≤ (instant.civil 0).date.year ∧ (instant.civil 0).date.year ≤ 2069) ↔
    ¬(70 ≤ n ∧ stamp.Tells n)

variable {zone : List Char}

/-- What a stamp tells in the year that the digits stand for is read. -/
theorem exists_parse?_of_recent (h : TwoDigits stamp.yearText n)
    (hzone : ∀ c ∈ zone, c.isAlpha = true) (htells : stamp.Tells (pivoted n)) :
    ∃ instant, HttpDate.parse? (stamp.text '-' ++ ' ' :: zone) = some instant ∧
      stamp.IsShown (pivoted n) 0 instant := by
  have hbounds := pivoted_bounds (lt_of_twoDigits h)
  obtain ⟨instant, hinstant, hshown⟩ :=
    exists_instant?_of_tells htells (by omega) (fits_shortYear h stamp.namesWeekday_weekday)
  refine ⟨instant, ?_, hshown⟩
  rw [parse?_of_two h hzone]
  exact congrArg (Option.or · _) hinstant

/-- If a stamp tells nothing in the year that its two digits stand for, the layout for four digits
decides what is read. -/
theorem parse?_of_not_recent (h : TwoDigits stamp.yearText n)
    (hzone : ∀ c ∈ zone, c.isAlpha = true) (htells : ¬stamp.Tells (pivoted n)) :
    HttpDate.parse? (stamp.text '-' ++ ' ' :: zone) =
      (HttpDate.hyphenated .weekday .year).instant? (stamp.text '-') := by
  rw [parse?_of_two h hzone]
  exact congrArg (Option.or · _)
    (instant?_of_not_tells htells (fits_shortYear h stamp.namesWeekday_weekday))

/-- A date with hyphens and two digits for its year, in front of the name of a zone, is read as one
of the years from 1970 to 2069, or not at all, unless the digits are 70 or more and the date in the
year that is the number itself exists on the weekday. -/
theorem short_year_recent_unless_literal (h : TwoDigits stamp.yearText n)
    (hzone : ∀ c ∈ zone, c.isAlpha = true) :
    stamp.ReadsShortYear n (HttpDate.parse? (stamp.text '-' ++ ' ' :: zone)) := by
  have hlt := lt_of_twoDigits h
  have hfits := fits_year_of_two h stamp.namesWeekday_weekday
  have hliteral (hge : 70 ≤ n) (htells : stamp.Tells n) : ∃ instant,
      HttpDate.parse? (stamp.text '-' ++ ' ' :: zone) = some instant ∧
        stamp.IsShown n 0 instant := by
    rw [parse?_of_not_recent h hzone fun hrecent => not_tells_of_pivoted hge hlt hrecent htells]
    exact exists_instant?_of_tells htells (by omega) hfits
  have hneither (hrecent : ¬stamp.Tells (pivoted n)) (hother : ¬(70 ≤ n ∧ stamp.Tells n)) :
      HttpDate.parse? (stamp.text '-' ++ ' ' :: zone) = none := by
    rw [parse?_of_not_recent h hzone hrecent]
    refine instant?_of_not_tells (fun htells => ?_) hfits
    by_cases hge : 70 ≤ n
    · exact hother ⟨hge, htells⟩
    · exact hrecent ((tells_pivoted_iff (by omega)).mpr htells)
  refine ⟨exists_parse?_of_recent h hzone, hliteral, hneither, ?_, ?_⟩
  · rintro hcentury ⟨hge, htells⟩
    obtain ⟨instant, hread, hshown⟩ := hliteral hge htells
    obtain ⟨hfirst, -⟩ := hcentury instant hread
    rw [htells.civil_eq hshown] at hfirst
    have hyear : (stamp.civil n).date.year = n := rfl
    omega
  · intro hother instant hread
    by_cases hrecent : stamp.Tells (pivoted n)
    · obtain ⟨only, honly, hshown⟩ := exists_parse?_of_recent h hzone hrecent
      obtain rfl : only = instant := Option.some.inj (honly.symm.trans hread)
      rw [hrecent.civil_eq hshown]
      exact pivoted_bounds hlt
    · rw [hneither hrecent hother] at hread
      cases hread

/-- An hour of the 21st of October in a year 75, on the weekday that is given. -/
def october75 (weekday : Weekday) : Stamp where
  weekday := weekday
  weekdayText := weekday.shortLetters
  isWeekday := .inl rfl
  day := 21
  day_lt := by decide
  month := 10
  monthText := "Oct".toList
  isMonth := ⟨"Oct", by decide, rfl⟩
  yearText := "75".toList
  hour := 7
  hour_lt := by decide
  minute := 28
  minute_lt := by decide
  second := 0
  second_lt := by decide

/-- The 21st of October in a year 75 is in 1975 if it is a Tuesday and in the year 75 if it is a
Monday, and on a Sunday there is none. -/
theorem short_year_recent_unless_literal_october75 :
    (∃ instant, HttpDate.parse? "Tue, 21-Oct-75 07:28:00 GMT".toList = some instant ∧
      instant.civil 0 = ⟨⟨1975, 10, 21⟩, 7, 28, 0⟩) ∧
    (∃ instant, HttpDate.parse? "Mon, 21-Oct-75 07:28:00 GMT".toList = some instant ∧
      instant.civil 0 = ⟨⟨75, 10, 21⟩, 7, 28, 0⟩) ∧
    HttpDate.parse? "Sun, 21-Oct-75 07:28:00 GMT".toList = none := by
  have hdigits : TwoDigits "75".toList 75 := ⟨⟨by decide, List.all_eq_true.mp (by decide), by decide⟩, by decide⟩
  have hzone : ∀ c ∈ "GMT".toList, c.isAlpha = true := List.all_eq_true.mp (by decide)
  have hrange (weekday : Weekday) : (october75 weekday).InRange := by
    cases weekday <;> exact ⟨by decide, by decide, by decide, by decide⟩
  have hreads (weekday : Weekday) : (october75 weekday).ReadsShortYear 75
      (HttpDate.parse? ((october75 weekday).text '-' ++ ' ' :: "GMT".toList)) :=
    short_year_recent_unless_literal hdigits hzone
  refine ⟨?_, ?_, ?_⟩
  · have htells : (october75 .tuesday).Tells (pivoted 75) := ⟨hrange _, by decide, by decide⟩
    obtain ⟨instant, hread, hshown⟩ := (hreads .tuesday).recent htells
    exact ⟨instant, hread, htells.civil_eq hshown⟩
  · have htells : (october75 .monday).Tells (75 : Nat) := ⟨hrange _, by decide, by decide⟩
    obtain ⟨instant, hread, hshown⟩ := (hreads .monday).literal (by decide) htells
    exact ⟨instant, hread, htells.civil_eq hshown⟩
  · exact (hreads .sunday).neither (fun htells => absurd htells.weekday (by decide))
      (fun ⟨_, htells⟩ => absurd htells.weekday (by decide))

/-- On a Monday the two digits of 75 are taken literally: the date is in none of the years from 1970
to 2069. -/
theorem monday_of_75_is_literal :
    ∃ instant, HttpDate.parse? "Mon, 21-Oct-75 07:28:00 GMT".toList = some instant ∧
      (instant.civil 0).date = ⟨75, 10, 21⟩ ∧
      ¬(1970 ≤ (instant.civil 0).date.year ∧ (instant.civil 0).date.year ≤ 2069) :=
  ⟨⟨-59775035520, 0, by decide⟩, by decide +kernel, by decide +kernel, by decide +kernel⟩

end Stamp

end ForwardProxy.Time
