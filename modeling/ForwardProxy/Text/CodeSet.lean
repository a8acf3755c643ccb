/-!
# Sets of code points

A character property is a union of ranges. It is kept as the ascending list of the code points at
which membership changes: the first of each range, and the first after each range.
-/

namespace ForwardProxy.Text

/-- How many of the entries from `lo` to `hi` of an ascending table lie at or below `n`, counted
from the start of the table. -/
def rankWithin (table : Array Nat) (n lo hi : Nat) : Nat :=
  if lo < hi then
    let mid := (lo + hi) / 2
    if table.getD mid 0 ≤ n then rankWithin table n (mid + 1) hi else rankWithin table n lo mid
  else lo
termination_by hi - lo

/-- How many entries of an ascending table lie at or below `n`. -/
def rank (table : Array Nat) (n : Nat) : Nat := rankWithin table n 0 table.size

/-- A set of code points, by the points at which membership changes. -/
structure CodeSet where
  /-- The first point of each range and the first point after it, ascending. -/
  changes : Array Nat

/-- A point is a member after an odd number of changes. -/
def CodeSet.contains (set : CodeSet) (c : Char) : Bool :=
  rank set.changes c.toNat % 2 == 1

end ForwardProxy.Text
