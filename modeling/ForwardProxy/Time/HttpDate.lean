import ForwardProxy.Text.Blank
import ForwardProxy.Text.Integer
import ForwardProxy.Time.Calendar
import ForwardProxy.Time.Instant

/-!
# Dates in header fields

A layout is a list of pieces, each of which reads the front of what is left of a text. A date is
read in the first layout that takes the text to its end and whose fields make up an instant.

Servers send six layouts. Five of them end in the name of a zone, which is not resolved: the date
is then read as universal time. The last ends in an offset.
-/

namespace ForwardProxy.Time

/-- One piece of a layout. -/
inductive Piece where
  /-- A sign that stands for itself. -/
  | literal (sign : Char)
  /-- Any run of blanks, also none. -/
  | blanks
  /-- The first three letters of a weekday. -/
  | shortWeekday
  /-- A weekday, in full or its first three letters. -/
  | weekday
  /-- The day of the month in one or two digits. -/
  | day
  /-- The first three letters of a month. -/
  | month
  /-- The year: up to four digits, or a sign and any number of digits. -/
  | year
  /-- The place of a year from 1970 to 2069 in its century, in one or two digits. -/
  | shortYear
  /-- The hour in one or two digits. -/
  | hour
  /-- The minute in one or two digits. -/
  | minute
  /-- The second in one or two digits, 60 for a leap second. -/
  | second
  /-- How far local time is ahead of universal time: a sign, hours and minutes. -/
  | offset
  deriving DecidableEq

/-- A layout of a date. -/
abbrev Layout := List Piece

/-- What the pieces of a layout have read so far. -/
structure DateFields where
  /-- The weekday. -/
  weekday : Option Weekday := none
  /-- The day of the month. -/
  day : Option Nat := none
  /-- The month, from 1. -/
  month : Option Nat := none
  /-- The year. -/
  year : Option Int := none
  /-- The hour. -/
  hour : Option Nat := none
  /-- The minute. -/
  minute : Option Nat := none
  /-- The second, 60 for a leap second. -/
  second : Option Nat := none
  /-- The seconds by which local time is ahead of universal time. -/
  offset : Int := 0

/-- The name of a weekday. -/
def Weekday.name : Weekday → String
  | .monday => "Monday"
  | .tuesday => "Tuesday"
  | .wednesday => "Wednesday"
  | .thursday => "Thursday"
  | .friday => "Friday"
  | .saturday => "Saturday"
  | .sunday => "Sunday"

/-- The first three letters of the months in order. -/
def monthNames : List String :=
  ["Jan", "Feb", "Mar", "Apr", "May", "Jun", "Jul", "Aug", "Sep", "Oct", "Nov", "Dec"]

/-- Reads a word in any letter case. -/
def readWord (word : List Char) (text : List Char) : Option (List Char) :=
  if (text.take word.length).map Char.toLower = word.map Char.toLower then
    some (text.drop word.length)
  else none

/-- Reads the first three letters of a weekday. -/
def readShortWeekday (text : List Char) : Option (Weekday × List Char) :=
  Weekday.all.findSome? fun day =>
    (readWord (day.name.toList.take 3) text).map fun rest => (day, rest)

/-- Reads a weekday and the rest of its name if it is there. -/
def readWeekday (text : List Char) : Option (Weekday × List Char) :=
  (readShortWeekday text).map fun (day, rest) =>
    (day, (readWord (day.name.toList.drop 3) rest).getD rest)

/-- Reads the first three letters of a month. -/
def readMonth (text : List Char) : Option (Nat × List Char) :=
  (monthNames.zip ((List.range 13).drop 1)).findSome? fun (name, number) =>
    (readWord name.toList text).map fun rest => (number, rest)

/-- Reads digits, as many as there are from `least` up to `most`. -/
def readDigits (least most : Nat) (text : List Char) : Option (Nat × List Char) :=
  let digits := (text.take most).takeWhile Char.isDigit
  if least ≤ digits.length then some (Text.digitsValue digits, text.drop digits.length) else none

/-- Reads a number of one or two digits between two limits, after blanks. -/
def readField (low high : Nat) (text : List Char) : Option (Nat × List Char) :=
  (readDigits 1 2 (Text.trimStart text)).filter fun (n, _) => low ≤ n ∧ n ≤ high

/-- Reads a year after blanks. -/
def readYear (text : List Char) : Option (Int × List Char) :=
  match Text.trimStart text with
  | '-' :: digits => (readDigits 1 digits.length digits).map fun (n, rest) => (-(n : Int), rest)
  | '+' :: digits => (readDigits 1 digits.length digits).map fun (n, rest) => ((n : Int), rest)
  | digits => (readDigits 1 4 digits).map fun (n, rest) => ((n : Int), rest)

/-- Reads the place of a year in its century after blanks. -/
def readShortYear (text : List Char) : Option (Int × List Char) :=
  (readDigits 1 2 (Text.trimStart text)).map fun (n, rest) =>
    ((if n < 70 then 2000 + n else 1900 + n : Nat), rest)

/-- Reads the hours and minutes of an offset, with colons and blanks between them. -/
def readHoursMinutes (text : List Char) : Option (Int × List Char) := do
  let (hours, rest) ← readDigits 2 2 text
  let (minutes, rest) ← readDigits 2 2 (rest.dropWhile fun c => c == ':' || Text.isBlank c)
  guard (minutes ≤ 59)
  return ((hours * 3600 + minutes * 60 : Nat), rest)

/-- Reads an offset after blanks: a plus sign, a hyphen or a minus sign, then hours and minutes. A
name of universal time is no offset. -/
def readOffset (text : List Char) : Option (Int × List Char) :=
  match Text.trimStart text with
  | [] => none
  | sign :: rest =>
    if sign = '+' then readHoursMinutes rest
    else if sign = '-' ∨ sign = '\u2212' then
      (readHoursMinutes rest).map fun (seconds, rest) => (-seconds, rest)
    else none

/-- Reads one piece from the front of a text. -/
def Piece.read (fields : DateFields) (text : List Char) : Piece → Option (DateFields × List Char)
  | literal sign =>
    match text with
    | c :: rest => if c = sign then some (fields, rest) else none
    | [] => none
  | blanks => some (fields, Text.trimStart text)
  | shortWeekday => (readShortWeekday text).map fun (d, rest) =>
    ({ fields with weekday := some d }, rest)
  | weekday => (readWeekday text).map fun (d, rest) => ({ fields with weekday := some d }, rest)
  | day => (readField 1 31 text).map fun (n, rest) => ({ fields with day := some n }, rest)
  | month => (readMonth text).map fun (n, rest) => ({ fields with month := some n }, rest)
  | year => (readYear text).map fun (n, rest) => ({ fields with year := some n }, rest)
  | shortYear => (readShortYear text).map fun (n, rest) => ({ fields with year := some n }, rest)
  | hour => (readField 0 23 text).map fun (n, rest) => ({ fields with hour := some n }, rest)
  | minute => (readField 0 59 text).map fun (n, rest) => ({ fields with minute := some n }, rest)
  | second => (readField 0 60 text).map fun (n, rest) => ({ fields with second := some n }, rest)
  | offset => (readOffset text).map fun (n, rest) => ({ fields with offset := n }, rest)

/-- Reads a text in a layout to its end. -/
def Layout.read (fields : DateFields) : Layout → List Char → Option DateFields
  | [], [] => some fields
  | [], _ :: _ => none
  | piece :: layout, text =>
    match piece.read fields text with
    | some (fields, rest) => Layout.read fields layout rest
    | none => none

/-- The first year of the calendar here. -/
def firstYear : Int := -262143

/-- The last year of the calendar here. -/
def lastYear : Int := 262142

/-- The instant that the fields name: the date must exist and have that weekday, and an offset must
be shorter than a day. -/
def DateFields.instant? (fields : DateFields) : Option Instant := do
  let date : Date := ⟨← fields.year, ← fields.month, ← fields.day⟩
  let weekday ← fields.weekday
  let hour ← fields.hour
  let minute ← fields.minute
  let second ← fields.second
  guard (date.IsValid ∧ firstYear ≤ date.year ∧ date.year ≤ lastYear)
  guard (Weekday.ofDayNumber date.dayNumber = weekday)
  guard (-86400 < fields.offset ∧ fields.offset < 86400)
  let (second, nanos) := if second = 60 then (59, perSecond) else (second, 0)
  let civil := date.dayNumber * 86400 + (hour * 3600 + minute * 60 + second : Nat)
  Instant.ofParts? (civil - fields.offset) nanos

/-- The instant that a text names in a layout. -/
def Layout.instant? (layout : Layout) (text : List Char) : Option Instant :=
  (layout.read {} text).bind DateFields.instant?

namespace HttpDate

/-- The pieces of a time of day. -/
def clock : Layout := [.hour, .literal ':', .minute, .literal ':', .second]

/-- A weekday, a comma and a date with blanks between its parts, then the time. -/
def spaced : Layout :=
  [.shortWeekday, .literal ',', .blanks, .day, .blanks, .month, .blanks, .year, .blanks] ++ clock

/-- A weekday, a comma and a date with hyphens between its parts, then the time. -/
def hyphenated (name number : Piece) : Layout :=
  [name, .literal ',', .blanks, .day, .literal '-', .month, .literal '-', number, .blanks] ++ clock

/-- The layouts that end in the name of a zone, without it, in the order in which they are tried.
Two-digit years go before four-digit ones, so that a short year is taken for one of its century
first. -/
def namedZone : List Layout :=
  [spaced, hyphenated .shortWeekday .shortYear, hyphenated .weekday .shortYear,
    hyphenated .shortWeekday .year, hyphenated .weekday .year]

/-- The layout that ends in an offset. -/
def numericZone : Layout := spaced ++ [.blanks, .offset]

/-- The parts before and after the last space. -/
def cutAtLastSpace? (text : List Char) : Option (List Char × List Char) :=
  let zone := (text.reverse.takeWhile (· ≠ ' ')).reverse
  if zone.length = text.length then none
  else some (text.take (text.length - zone.length - 1), zone)

/-- Whether a text can be the name of a zone: letters only, or nothing. -/
def isZoneName (text : List Char) : Bool := text.all Char.isAlpha

/-- Reads a date of a header field. -/
def parse? (text : List Char) : Option Instant :=
  match cutAtLastSpace? text with
  | none => none
  | some (stamp, zone) =>
    let named := if isZoneName zone then namedZone.findSome? (Layout.instant? · stamp) else none
    named.or (numericZone.instant? text)

end HttpDate

end ForwardProxy.Time
