/-!
# The calendar

Dates of the Gregorian calendar, carried on before its introduction and before the year 1, and their
day numbers: days counted from the start of 1970.
-/

namespace ForwardProxy.Time

/-- A date of the calendar. The year before 1 is the year 0. -/
structure Date where
  /-- The year. -/
  year : Int
  /-- The month, from 1. -/
  month : Nat
  /-- The day of the month, from 1. -/
  day : Nat
  deriving DecidableEq

/-- Whether a year has a day more: every fourth one, but of the hundredth ones only every fourth. -/
def isLeapYear (year : Int) : Bool :=
  year % 4 == 0 && (year % 100 != 0 || year % 400 == 0)

/-- The number of days in a month. -/
def daysInMonth (year : Int) : Nat → Nat
  | 2 => if isLeapYear year then 29 else 28
  | 4 | 6 | 9 | 11 => 30
  | _ => 31

/-- The days from the start of the year 1 to the start of a year. -/
def daysBeforeYear (year : Int) : Int :=
  let y := year - 1
  365 * y + y / 4 - y / 100 + y / 400

/-- The days from the start of a year to the start of one of its months. -/
def daysBeforeMonth (year : Int) (month : Nat) : Nat :=
  ((List.range month).drop 1).foldl (fun days m => days + daysInMonth year m) 0

/-- The days from the start of the year 1 to the start of 1970. -/
def daysBefore1970 : Int := 719162

namespace Date

/-- The date exists. -/
def IsValid (date : Date) : Prop :=
  1 ≤ date.month ∧ date.month ≤ 12 ∧ 1 ≤ date.day ∧ date.day ≤ daysInMonth date.year date.month

instance (date : Date) : Decidable date.IsValid := inferInstanceAs (Decidable (_ ∧ _))

/-- The days from the start of 1970 to a date. -/
def dayNumber (date : Date) : Int :=
  daysBeforeYear date.year + daysBeforeMonth date.year date.month + (date.day - 1) - daysBefore1970

/-- The date in the given year, from the given month on, that lies `rest` days after the start of
that month. -/
def fromMonth (year : Int) : (left month rest : Nat) → Date
  | 0, month, rest => ⟨year, month, rest + 1⟩
  | left + 1, month, rest =>
    if rest < daysInMonth year month then ⟨year, month, rest + 1⟩
    else fromMonth year left (month + 1) (rest - daysInMonth year month)

/-- The date with the given day number: whole cycles of 400 years, then centuries, cycles of four
years and single years, of which a cycle that ends in a leap day has one too few. -/
def ofDayNumber (n : Int) : Date :=
  let days := n + daysBefore1970
  let cycles := days / 146097
  let inCycle := days % 146097
  let centuries := min 3 (inCycle / 36524)
  let inCentury := inCycle - centuries * 36524
  let fours := inCentury / 1461
  let inFour := inCentury % 1461
  let years := min 3 (inFour / 365)
  let inYear := inFour - years * 365
  fromMonth (400 * cycles + 100 * centuries + 4 * fours + years + 1) 11 1 inYear.toNat

end Date

/-- The days of the week. -/
inductive Weekday where
  | monday | tuesday | wednesday | thursday | friday | saturday | sunday
  deriving DecidableEq, Repr

/-- The days of the week in order. -/
def Weekday.all : List Weekday :=
  [monday, tuesday, wednesday, thursday, friday, saturday, sunday]

/-- The weekday of a day number. The year 1970 began on a Thursday. -/
def Weekday.ofDayNumber (n : Int) : Weekday :=
  match ((n + 3) % 7).toNat with
  | 0 => monday
  | 1 => tuesday
  | 2 => wednesday
  | 3 => thursday
  | 4 => friday
  | 5 => saturday
  | _ => sunday

end ForwardProxy.Time
