import ForwardProxy.Cache.Statistics
import ForwardProxy.Text.Shortest
import ForwardProxy.Time.Timestamp

/-!
# Reports

What the proxy tells about itself: how well the cache does, and that it is alive. Both are written
as objects on one line, members in a fixed order and without blanks.
-/

namespace ForwardProxy.Report

/-- A member of an object whose value is written already. Names hold no quotes. -/
def member (name value : String) : String := "\"" ++ name ++ "\":" ++ value

/-- An object with the given members. -/
def object (members : List String) : String := "\x7b" ++ ",".intercalate members ++ "\x7d"

/-- The report on the cache and the number of workers. -/
def statistics (stats : Cache.Statistics) (workers : Nat) : String :=
  object
    [member "size" (toString stats.size),
      member "capacity" (toString stats.capacity),
      member "hits" (toString stats.hits),
      member "misses" (toString stats.misses),
      member "evictions" (toString stats.evictions),
      member "hit_rate" (Text.floatText stats.hitRate),
      member "avg_item_size" (toString stats.meanSize),
      member "workers" (toString workers)]

/-- The report that the proxy is alive. -/
def health (now : Time.Instant) : String :=
  object [member "status" "\"healthy\"", member "timestamp" ("\"" ++ now.timestamp ++ "\"")]

end ForwardProxy.Report
