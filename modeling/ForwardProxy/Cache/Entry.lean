import ForwardProxy.Text.Bytes
import ForwardProxy.Time.Instant

/-!
# Entries of the cache

An entry is kept with its size, the time at which it was made, and the time up to which it is live.
-/

namespace ForwardProxy.Cache

open Time

/-- A value in the cache. -/
structure Entry where
  /-- The key under which it is kept. -/
  key : String
  /-- The value. -/
  value : Bytes
  /-- The number of octets of the value. -/
  size : Nat
  /-- When the entry was made. -/
  createdAt : Instant
  /-- The last instant at which it is live, `none` if it always is. -/
  expiresAt : Option Instant
  deriving DecidableEq

/-- The last live instant of an entry made at `now` with a time to live. Without one, with one of
zero, or where the calendar does not reach that far, there is none. -/
def expiryAfter? (now : Instant) (ttl : Option Span) : Option Instant :=
  (ttl.filter (· ≠ Span.zero)).bind now.add?

/-- An entry made at `now`. -/
def Entry.new (key : String) (value : Bytes) (ttl : Option Span) (now : Instant) : Entry where
  key := key
  value := value
  size := value.length
  createdAt := now
  expiresAt := expiryAfter? now ttl

/-- Whether an entry is past its last live instant. -/
def Entry.expired (entry : Entry) (now : Instant) : Bool :=
  entry.expiresAt.any (· < now)

end ForwardProxy.Cache
