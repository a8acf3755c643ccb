import ForwardProxy.Text.Integer
import ForwardProxy.Time.Calendar
import ForwardProxy.Time.Instant

/-!
# Timestamps

The text of an instant in universal time: date and time of day with a `T` between them, a fraction
of three, six or nine digits if one is needed, and the offset zero.
-/

namespace ForwardProxy.Time

/-- A year in at least four digits. One that four digits cannot show has a sign. -/
def yearText (year : Int) : List Char :=
  if year < 0 then '-' :: Text.padded 4 year.natAbs
  else if year ≤ 9999 then Text.padded 4 year.natAbs
  else '+' :: Text.padded 4 year.natAbs

/-- A fraction of a second after a point, in as few groups of three digits as show it. -/
def fractionText (nanos : Nat) : List Char :=
  if nanos = 0 then []
  else if nanos % 1000000 = 0 then '.' :: Text.padded 3 (nanos / 1000000)
  else if nanos % 1000 = 0 then '.' :: Text.padded 6 (nanos / 1000)
  else '.' :: Text.padded 9 nanos

/-- The text of an instant. A leap second is written as second 60. -/
def Instant.timestamp (instant : Instant) : String :=
  let date := Date.ofDayNumber (instant.seconds / 86400)
  let inDay := (instant.seconds % 86400).toNat
  let leap := if perSecond ≤ instant.nanos then 1 else 0
  String.ofList <|
    yearText date.year ++ ['-'] ++ Text.padded 2 date.month ++ ['-'] ++ Text.padded 2 date.day ++
      ['T'] ++ Text.padded 2 (inDay / 3600) ++ [':'] ++ Text.padded 2 (inDay / 60 % 60) ++ [':'] ++
      Text.padded 2 (inDay % 60 + leap) ++ fractionText (instant.nanos - leap * perSecond) ++
      "+00:00".toList

end ForwardProxy.Time
