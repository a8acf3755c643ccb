import ForwardProxy.Proofs.Time.Calendar
import ForwardProxy.Proofs.Time.Pieces

/-!
# Written dates

A stamp is a date with a time of day as it is written, in words and in numbers of two digits. All
layouts have the same order; they differ in the words for the weekday, in the signs between the
parts of the date, and in the digits of the year. A stamp is read in a layout that fits these,
unless one of its numbers is out of range, and its fields make up an instant if the date exists and
has the weekday.
-/

namespace ForwardProxy.Time

open Text

/-- A date and a time of day as they are written. -/
structure Stamp where
  /-- The weekday. -/
  weekday : Weekday
  /-- The word for the weekday. -/
  weekdayText : List Char
  /-- The word is the name of the weekday or the first three letters of that, in any letter case. -/
  isWeekday : Spells weekdayText weekday.shortLetters ∨ Spells weekdayText weekday.letters
  /-- The day of the month. -/
  day : Nat
  /-- The day has two digits. -/
  day_lt : day < 100
  /-- The month, from 1. -/
  month : Nat
  /-- The word for the month. -/
  monthText : List Char
  /-- The word is the first three letters of the month, in any letter case. -/
  isMonth : IsMonth monthText month
  /-- The digits of the year. -/
  yearText : List Char
  /-- The hour. -/
  hour : Nat
  /-- The hour has two digits. -/
  hour_lt : hour < 100
  /-- The minute. -/
  minute : Nat
  /-- The minute has two digits. -/
  minute_lt : minute < 100
  /-- The second. -/
  second : Nat
  /-- The second has two digits. -/
  second_lt : second < 100

/-- The pieces up to the time of day, of which some differ from layout to layout: for the weekday,
between the parts of the date, and for the year. -/
def datePieces (name separator number : Piece) : Layout :=
  [name, .literal ',', .blanks, .day, separator, .month, separator, number, .blanks]

/-- The layout with these pieces. -/
def layoutOf (name separator number : Piece) : Layout :=
  datePieces name separator number ++ HttpDate.clock

namespace Stamp

variable (stamp : Stamp)

/-- The date as it is written, with a sign between its parts and a space after it. -/
def dateText (sign : Char) : List Char :=
  stamp.weekdayText ++ ([','] ++ ([' '] ++ (padded 2 stamp.day ++ ([sign] ++ (stamp.monthText ++
    ([sign] ++ (stamp.yearText ++ [' '])))))))

/-- The time of day as it is written. -/
def clockText : List Char :=
  padded 2 stamp.hour ++
    ([':'] ++ (padded 2 stamp.minute ++ ([':'] ++ padded 2 stamp.second)))

/-- The date and the time of day as they are written. -/
def text (sign : Char) : List Char := stamp.dateText sign ++ stamp.clockText

/-- The numbers are in the ranges of their parts. The second may be a leap second. -/
structure InRange : Prop where
  /-- The day may be in a month. -/
  day : 1 ≤ stamp.day ∧ stamp.day ≤ 31
  /-- The hour is in a day. -/
  hour : stamp.hour ≤ 23
  /-- The minute is in an hour. -/
  minute : stamp.minute ≤ 59
  /-- The second is in a minute, or a leap second after it. -/
  second : stamp.second ≤ 60

/-- The fields with what is read, where the digits of the year stand for a year. -/
def fill (year : Int) (fields : DateFields) : DateFields :=
  { fields with
    weekday := some stamp.weekday
    day := some stamp.day
    month := some stamp.month
    year := some year
    hour := some stamp.hour
    minute := some stamp.minute
    second := some stamp.second }

/-- A piece takes the word for the weekday in front of a comma. -/
def NamesWeekday (name : Piece) : Prop :=
  ∀ rest, name.Takes stamp.weekdayText (',' :: rest) fun fields =>
    { fields with weekday := some stamp.weekday }

/-- A piece takes the digits of the year in front of a space, for some year. -/
def GivesYear (number : Piece) (year : Int) : Prop :=
  ∀ rest, number.Takes stamp.yearText (' ' :: rest) fun fields => { fields with year := some year }

/-- The pieces of a layout fit the stamp with a sign between its parts, where the digits of the year
stand for a year. -/
structure Fits (name separator number : Piece) (sign : Char) (year : Int) : Prop where
  /-- The first piece takes the weekday. -/
  name : stamp.NamesWeekday name
  /-- The piece between the parts takes the sign. -/
  sign : ∀ rest, StartsPlain rest → separator.Takes [sign] rest id
  /-- There are only digits for the year. -/
  digits : ∃ n, IsNumeral stamp.yearText n
  /-- The piece for the year takes its digits. -/
  year : stamp.GivesYear number year

variable {stamp}

/-- The piece for weekdays takes the word, full or not. -/
theorem namesWeekday_weekday (stamp : Stamp) : stamp.NamesWeekday .weekday := by
  intro rest
  rcases stamp.isWeekday with hshort | hfull
  · exact takes_weekday hshort rfl
  · exact takes_full_weekday hfull _

/-- The piece for short weekdays takes a short word. -/
theorem namesWeekday_short (h : Spells stamp.weekdayText stamp.weekday.shortLetters) :
    stamp.NamesWeekday .shortWeekday := fun rest => takes_shortWeekday h (',' :: rest)

/-- Up to four digits give the year that they denote. -/
theorem givesYear_year {n : Nat} (h : IsNumeral stamp.yearText n)
    (hmost : stamp.yearText.length ≤ 4) : stamp.GivesYear .year n := by
  intro rest
  refine takes_year h hmost (.inr fun c hc => ?_)
  obtain rfl : ' ' = c := Option.some.inj hc
  rfl

/-- Two digits give the year that they stand for. -/
theorem givesYear_shortYear {n : Nat} (h : TwoDigits stamp.yearText n) :
    stamp.GivesYear .shortYear (pivoted n) := fun rest => takes_shortYear h (' ' :: rest)

/-- A layout with hyphens fits a stamp with hyphens if its other pieces do. -/
theorem fits_hyphens {name number : Piece} {year : Int} {n : Nat} (hname : stamp.NamesWeekday name)
    (hdigits : IsNumeral stamp.yearText n) (hyear : stamp.GivesYear number year) :
    stamp.Fits name (.literal '-') number '-' year where
  name := hname
  sign rest _ := takes_literal '-' rest
  digits := ⟨n, hdigits⟩
  year := hyear

/-! ### Reading -/

/-- A time of day does not start with a blank. -/
theorem startsPlain_clockText (stamp : Stamp) (rest : List Char) :
    StartsPlain (stamp.clockText ++ rest) :=
  ((isNumeral_padded 2 stamp.hour).startsPlain _).assoc

/-- The pieces for the time of day take one that is in range. -/
theorem takes_clock (h : stamp.InRange) (rest : List Char) :
    Layout.Takes HttpDate.clock stamp.clockText rest fun fields =>
      { fields with
        hour := some stamp.hour, minute := some stamp.minute, second := some stamp.second } := by
  have hhour := Piece.IsNumber.hour.takes_padded ⟨Nat.zero_le _, h.hour⟩
  have hminute := Piece.IsNumber.minute.takes_padded ⟨Nat.zero_le _, h.minute⟩
  have hsecond := Piece.IsNumber.second.takes_padded ⟨Nat.zero_le _, h.second⟩
  have hend := Layout.takes_cons (takes_literal ':' _) (Layout.takes_one (hsecond rest))
  have hmiddle := Layout.takes_cons (takes_literal ':' _) (Layout.takes_cons (hminute _) hend)
  exact Layout.takes_cons (hhour _) hmiddle

/-- The pieces for the time of day refuse one that is not in range. -/
theorem refuses_clock (h : ¬(stamp.hour ≤ 23 ∧ stamp.minute ≤ 59 ∧ stamp.second ≤ 60))
    (rest : List Char) : Layout.Refuses HttpDate.clock (stamp.clockText ++ rest) := by
  simp only [clockText, List.append_assoc]
  by_cases hhour : stamp.hour ≤ 23
  · apply Layout.refuses_of_takes (Piece.IsNumber.hour.takes_padded ⟨Nat.zero_le _, hhour⟩ _)
    apply Layout.refuses_of_takes (takes_literal ':' _)
    by_cases hminute : stamp.minute ≤ 59
    · apply Layout.refuses_of_takes
        (Piece.IsNumber.minute.takes_padded ⟨Nat.zero_le _, hminute⟩ _)
      apply Layout.refuses_of_takes (takes_literal ':' _)
      apply Layout.refuses_cons
      apply Piece.IsNumber.second.refuses_padded stamp.second_lt
      exact fun hsecond => h ⟨hhour, hminute, hsecond.2⟩
    · apply Layout.refuses_cons
      apply Piece.IsNumber.minute.refuses_padded stamp.minute_lt
      exact fun hlimits => hminute hlimits.2
  · apply Layout.refuses_cons
    apply Piece.IsNumber.hour.refuses_padded stamp.hour_lt
    exact fun hlimits => hhour hlimits.2

variable {name separator number : Piece} {sign : Char} {year : Int}

/-- A date is taken by the pieces that fit it. -/
theorem takes_date (hday : 1 ≤ stamp.day ∧ stamp.day ≤ 31)
    (hfits : stamp.Fits name separator number sign year) {rest : List Char}
    (hrest : StartsPlain rest) :
    Layout.Takes (datePieces name separator number) (stamp.dateText sign) rest fun fields =>
      { fields with
        weekday := some stamp.weekday, day := some stamp.day, month := some stamp.month
        year := some year } := by
  obtain ⟨hname, hsign, ⟨n, hdigits⟩, hyear⟩ := hfits
  have hnumber := Piece.IsNumber.day.takes_padded hday
  -- From the end to the front, since what a piece leaves is what the pieces after it take.
  have hend := Layout.takes_cons (hsign _ (hdigits.startsPlain _).assoc)
    (Layout.takes_cons (hyear rest) (Layout.takes_one (takes_space hrest)))
  have hmonth := Layout.takes_cons (hsign _ (stamp.isMonth.startsPlain _).assoc)
    (Layout.takes_cons (takes_month stamp.isMonth _) hend)
  have hmiddle := Layout.takes_cons
    (takes_space ((isNumeral_padded 2 stamp.day).startsPlain _).assoc)
    (Layout.takes_cons (hnumber _) hmonth)
  exact Layout.takes_cons (hname _) (Layout.takes_cons (takes_literal ',' _) hmiddle)

/-- A stamp in range is taken by a layout that fits it. -/
theorem takes (h : stamp.InRange) (hfits : stamp.Fits name separator number sign year)
    (rest : List Char) :
    Layout.Takes (layoutOf name separator number) (stamp.text sign) rest (stamp.fill year) :=
  (takes_date h.day hfits (startsPlain_clockText stamp rest)).append (takes_clock h rest)

/-- If what follows the weekday is refused, all of it is. -/
theorem refuses_of_refuses_day (hname : stamp.NamesWeekday name) {layout : Layout}
    {rest : List Char} (h : layout.Refuses (padded 2 stamp.day ++ rest)) :
    Layout.Refuses (name :: .literal ',' :: .blanks :: layout)
      (stamp.weekdayText ++ ([','] ++ ([' '] ++ (padded 2 stamp.day ++ rest)))) := by
  apply Layout.refuses_of_takes (hname _)
  apply Layout.refuses_of_takes (takes_literal ',' _)
  apply Layout.refuses_of_takes (takes_space ((isNumeral_padded 2 stamp.day).startsPlain _))
  exact h

/-- A day that is in no month is refused by every layout whose first piece takes the weekday. -/
theorem refuses_day (hname : stamp.NamesWeekday name) (h : ¬(1 ≤ stamp.day ∧ stamp.day ≤ 31))
    (rest : List Char) :
    Layout.Refuses (layoutOf name separator number) (stamp.text sign ++ rest) := by
  simp only [text, dateText, List.append_assoc]
  apply refuses_of_refuses_day hname
  apply Layout.refuses_cons
  exact Piece.IsNumber.day.refuses_padded stamp.day_lt h _

/-- A stamp out of range is refused. -/
theorem refuses (h : ¬stamp.InRange) (hfits : stamp.Fits name separator number sign year)
    (rest : List Char) :
    Layout.Refuses (layoutOf name separator number) (stamp.text sign ++ rest) := by
  by_cases hday : 1 ≤ stamp.day ∧ stamp.day ≤ 31
  · have hclock : ¬(stamp.hour ≤ 23 ∧ stamp.minute ≤ 59 ∧ stamp.second ≤ 60) :=
      fun ⟨hhour, hminute, hsecond⟩ => h ⟨hday, hhour, hminute, hsecond⟩
    rw [text, List.append_assoc]
    exact (takes_date hday hfits (startsPlain_clockText stamp rest)).refuses
      (refuses_clock hclock rest)
  · exact refuses_day hfits.name hday rest

/-- A full weekday is refused by a layout for short ones. -/
theorem refuses_short (h : Spells stamp.weekdayText stamp.weekday.letters) (rest : List Char) :
    Layout.Refuses (layoutOf .shortWeekday separator number) (stamp.text sign ++ rest) := by
  simp only [text, dateText, List.append_assoc]
  exact refuses_full_weekday h _ _

/-- A date with hyphens is refused by a layout for blanks. -/
theorem refuses_blanks (hname : stamp.NamesWeekday name) (rest : List Char) :
    Layout.Refuses (layoutOf name .blanks number) (stamp.text '-' ++ rest) := by
  by_cases hday : 1 ≤ stamp.day ∧ stamp.day ≤ 31
  · simp only [text, dateText, List.append_assoc]
    apply refuses_of_refuses_day hname
    apply Layout.refuses_of_takes (Piece.IsNumber.day.takes_padded hday _)
    apply Layout.refuses_of_no_blanks (startsPlain_cons (by decide) _)
    exact Layout.refuses_cons (refuses_month _)
  · exact refuses_day hname hday rest

/-- The layout for blanks refuses a stamp with hyphens, whatever the weekday looks like. -/
theorem refuses_spaced (stamp : Stamp) (rest : List Char) :
    Layout.Refuses HttpDate.spaced (stamp.text '-' ++ rest) := by
  rcases stamp.isWeekday with hshort | hfull
  · exact refuses_blanks (namesWeekday_short hshort) rest
  · exact refuses_short hfull rest

/-- A year of four digits is refused by a layout for two: the last two digits are taken for the
hour, and no colon follows. -/
theorem refuses_shortYear (hday : 1 ≤ stamp.day ∧ stamp.day ≤ 31) (hname : stamp.NamesWeekday name)
    {front back : List Char} {n m : Nat} (hyear : stamp.yearText = front ++ back)
    (hfront : TwoDigits front n) (hback : TwoDigits back m) (rest : List Char) :
    Layout.Refuses (layoutOf name (.literal '-') .shortYear) (stamp.text '-' ++ rest) := by
  simp only [text, dateText, hyear, List.append_assoc]
  apply refuses_of_refuses_day hname
  apply Layout.refuses_of_takes (Piece.IsNumber.day.takes_padded hday _)
  apply Layout.refuses_of_takes (takes_literal '-' _)
  apply Layout.refuses_of_takes (takes_month stamp.isMonth _)
  apply Layout.refuses_of_takes (takes_literal '-' _)
  apply Layout.refuses_of_takes (takes_shortYear hfront _)
  have hclock (tail : List Char) : Layout.Refuses HttpDate.clock (back ++ ([' '] ++ tail)) := by
    by_cases hhour : 0 ≤ m ∧ m ≤ 23
    · apply Layout.refuses_of_takes (Piece.IsNumber.hour.takes hback hhour _)
      apply Layout.refuses_cons
      exact refuses_literal (by simp)
    · apply Layout.refuses_cons
      exact Piece.IsNumber.hour.refuses hback hhour _
  apply Layout.refuses_of_no_blanks (hback.isNumeral.startsPlain _)
  exact hclock _

end Stamp

end ForwardProxy.Time
