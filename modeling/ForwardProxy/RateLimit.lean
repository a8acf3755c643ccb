import Std.Data.HashMap
import ForwardProxy.Net.Address
import ForwardProxy.Time.Instant

/-!
# Rate limit

Each client has a window of time that starts at its first request, and starts anew at its first
request after the window is over. Within a window only so many requests pass. Windows that are over
may be dropped at any time, because a client without a window starts one. They are measured on a
clock that knows no leap seconds.
-/

namespace ForwardProxy

open Time

/-- The requests of a client in its window. -/
structure RateLimiter.Window where
  /-- When the window started. -/
  started : Instant
  /-- The requests since then. -/
  count : Nat
  deriving DecidableEq

/-- A limit on the requests of each client. -/
structure RateLimiter where
  /-- The requests that pass in one window. -/
  limit : Nat
  /-- The length of a window. -/
  length : Span
  /-- The windows of the clients that have one. -/
  windows : Std.HashMap Net.IpAddress RateLimiter.Window := ∅

namespace RateLimiter

/-- A limit for each minute. -/
def perMinute (limit : Nat) : RateLimiter where
  limit := limit
  length := .ofSeconds 60

/-- The number of windows above which those that are over are dropped. -/
def pruneThreshold : Nat := 4096

/-- Whether a window is over. A clock that was set back counts as one that stands still. -/
def Window.isOver (window : Window) (length : Span) (now : Instant) : Bool :=
  length.nanoseconds ≤ max 0 (now.reading - window.started.reading)

/-- Drops the windows that are over. -/
def prune (limiter : RateLimiter) (now : Instant) : RateLimiter :=
  { limiter with
    windows := limiter.windows.filter fun _ window => !window.isOver limiter.length now }

/-- The window in which a request at `now` counts: the client's own, or a new one. -/
def windowAt (limiter : RateLimiter) (client : Net.IpAddress) (now : Instant) : Window :=
  match limiter.windows[client]? with
  | some window => if window.isOver limiter.length now then ⟨now, 0⟩ else window
  | none => ⟨now, 0⟩

/-- Counts a request of a client, and says whether it passes. -/
def check (limiter : RateLimiter) (client : Net.IpAddress) (now : Instant) :
    Bool × RateLimiter :=
  let limiter :=
    if pruneThreshold < limiter.windows.size then limiter.prune now else limiter
  let window := limiter.windowAt client now
  let count := window.count + 1
  (count ≤ limiter.limit,
    { limiter with windows := limiter.windows.insert client { window with count } })

end RateLimiter

end ForwardProxy
