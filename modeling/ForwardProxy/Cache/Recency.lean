import Std.Data.HashMap
import Std.Data.TreeMap

/-!
# Recency

The order in which keys were last used. Each use gives the key the next tick of a clock, and the
keys are kept both by tick and by name, so that the oldest key and the tick of a key are found at
once. The view is `Recency.recent`, the keys from the newest to the oldest.
-/

namespace ForwardProxy.Cache

/-- Keys in the order of their last use. -/
structure Recency where
  /-- The key that was last used at each tick. -/
  order : Std.TreeMap Nat String := ∅
  /-- The tick of the last use of each key. -/
  ticks : Std.HashMap String Nat := ∅
  /-- The next tick. -/
  clock : Nat := 0

namespace Recency

/-- No keys. -/
def empty : Recency := {}

/-- Uses a key. -/
def touch (recency : Recency) (key : String) : Recency :=
  let tick := recency.clock
  match recency.ticks[key]? with
  | some previous =>
    { order :=
        match recency.order[previous]? with
        | some name => (recency.order.erase previous).insert tick name
        | none => recency.order
      ticks := recency.ticks.insert key tick
      clock := tick + 1 }
  | none =>
    { order := recency.order.insert tick key
      ticks := recency.ticks.insert key tick
      clock := tick + 1 }

/-- Forgets a key, and says whether it was there. -/
def remove (recency : Recency) (key : String) : Bool × Recency :=
  match recency.ticks[key]? with
  | some tick =>
    (true, { recency with
      order := recency.order.erase tick
      ticks := recency.ticks.erase key })
  | none => (false, recency)

/-- The key whose last use is the longest ago. -/
def oldest? (recency : Recency) : Option String :=
  recency.order.minKey?.bind fun tick => recency.order[tick]?

/-- The keys from the newest to the oldest. -/
def recent (recency : Recency) : List String :=
  (recency.order.toList.map (·.2)).reverse

/-- How many keys there are. -/
def size (recency : Recency) : Nat := recency.order.size

/-- Whether there are no keys. -/
def isEmpty (recency : Recency) : Bool := recency.order.isEmpty

/-- Forgets all keys. The clock goes on. -/
def clear (recency : Recency) : Recency := { clock := recency.clock }

end Recency

end ForwardProxy.Cache
