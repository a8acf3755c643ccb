import ForwardProxy.Http.Message
import ForwardProxy.Policy.Cacheability
import ForwardProxy.Time.HttpDate

/-!
# How long an answer lives

The server says it in one of two ways: the directive `max-age` gives seconds, the field `Expires` a
date. The first such directive that is a number goes before the date.
-/

namespace ForwardProxy.Policy

open Http Time

/-- The directive for an age in seconds. -/
def maxAgeDirective : List Char := "max-age=".toList

/-- The bound of the numbers that a directive may hold. -/
def ageBound : Nat := 9223372036854775808

/-- The age that one directive gives, if it gives one. -/
def directiveAge? (directive : List Char) : Option Int :=
  (maxAgeDirective.isPrefixOf? (Text.trim directive)).bind (Text.signed? ageBound)

/-- The first age that the directives of a text give. -/
def firstAge? (directives : List Char) : Option Int :=
  (directives.splitOn ',').findSome? directiveAge?

/-- The time to live that the directives for caches give. -/
def maxAge? (headers : Headers) : Option Span :=
  (((headers.get? .cacheControl).bind (·.text?)).bind firstAge?).bind Span.ofSeconds?

/-- The date after which an answer is stale. -/
def expiry? (headers : Headers) : Option Instant :=
  ((headers.get? .expires).bind (·.text?)).bind fun text => HttpDate.parse? (Text.trim text)

/-- The time to live that a server gives an answer. It is negative for a date in the past. -/
def lifetime? (headers : Headers) (now : Instant) : Option Span :=
  (maxAge? headers).or ((expiry? headers).map (·.since now))

end ForwardProxy.Policy
