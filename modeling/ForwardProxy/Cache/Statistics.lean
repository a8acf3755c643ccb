/-!
# Statistics of the cache

Counters of what happened to a cache since it was made, with how full it is.
-/

namespace ForwardProxy.Cache

/-- What is known of a cache at one time. The counters have sixty-four bits, so what is said of them
holds of runs with fewer than 2 ^ 64 calls. -/
structure Statistics where
  /-- The number of entries. -/
  size : Nat := 0
  /-- The greatest number of entries. -/
  capacity : Nat
  /-- Lookups that found a live entry. -/
  hits : Nat := 0
  /-- Lookups that found no live entry. -/
  misses : Nat := 0
  /-- Entries that were pushed out, found expired, or removed. -/
  evictions : Nat := 0
  /-- The mean size of the entries, rounded down. -/
  meanSize : Nat := 0
  deriving DecidableEq

namespace Statistics

/-- Counts a lookup that found a live entry. -/
def hit (stats : Statistics) : Statistics := { stats with hits := stats.hits + 1 }

/-- Counts a lookup that found no live entry. -/
def miss (stats : Statistics) : Statistics := { stats with misses := stats.misses + 1 }

/-- Counts an entry that is gone. -/
def eviction (stats : Statistics) : Statistics := { stats with evictions := stats.evictions + 1 }

/-- Notes how many entries there are and how many octets they hold. -/
def withOccupancy (stats : Statistics) (size octets : Nat) : Statistics :=
  { stats with size, meanSize := if size = 0 then 0 else octets / size }

/-- The share of the lookups that found a live entry, zero if there were none. -/
def hitRate (stats : Statistics) : Float :=
  let total := stats.hits + stats.misses
  if total = 0 then 0.0 else stats.hits.toUInt64.toFloat / total.toUInt64.toFloat

end Statistics

end ForwardProxy.Cache
