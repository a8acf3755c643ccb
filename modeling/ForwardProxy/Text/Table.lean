import ForwardProxy.Text.CodeSet

/-!
# Tables in text

Large tables of code points are written as text: entries with blanks between them, each of which is
a row of hexadecimal numbers with points between them.
-/

namespace ForwardProxy.Text

/-- The value of a hexadecimal digit in upper case. -/
def tableDigit (c : Char) : Nat :=
  if c.isDigit then c.toNat - 48 else c.toNat - 55

/-- The rows of a table. -/
def tableRows (text : String) : List (List Nat) :=
  ((text.toList.splitOnP fun c => c == ' ' || c == '\n').filter (!·.isEmpty)).map fun entry =>
    (entry.splitOn '.').map fun digits => digits.foldl (fun n c => n * 16 + tableDigit c) 0

/-- A function on code points that changes its value at few places. -/
structure RangeMap where
  /-- The first point of each range, ascending. -/
  starts : Array Nat
  /-- The value on each range. -/
  values : Array Nat

/-- The function whose rows are the first point of a range and the value there. -/
def RangeMap.ofRows (rows : List (List Nat)) : RangeMap where
  starts := (rows.map (·.getD 0 0)).toArray
  values := (rows.map (·.getD 1 0)).toArray

/-- The value at a character, zero before the first range. -/
def RangeMap.value (ranges : RangeMap) (c : Char) : Nat :=
  match rank ranges.starts c.toNat with
  | 0 => 0
  | n + 1 => ranges.values.getD n 0

/-- The set of the points at which membership changes, one in each row. -/
def CodeSet.ofRows (rows : List (List Nat)) : CodeSet where
  changes := (rows.map (·.getD 0 0)).toArray

end ForwardProxy.Text
