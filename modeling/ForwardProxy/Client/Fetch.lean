import ForwardProxy.Client.Outgoing

/-!
# Fetching

A fetch sends a request to a server and follows the redirects that come back, up to ten of them.
The network is a parameter: a function from what is sent to what comes back, which may change a
state of its own with each exchange. So everything said here holds for every behaviour of servers.
-/

namespace ForwardProxy.Client

open Http

/-- What a server sends back. -/
structure Reply where
  /-- The status code. -/
  status : Status
  /-- The header fields. -/
  headers : Headers
  /-- The body, `none` if it breaks off. -/
  body : Option Bytes
  deriving DecidableEq

/-- The answer to each request that is sent, `none` if there is none in time, and the state of the
network after it. -/
abbrev Network (σ : Type) := Outgoing → σ → Option Reply × σ

/-- A network in which no server can be reached. -/
def Network.unreachable {σ : Type} : Network σ := fun _ state => (none, state)

/-- Why a fetch fails. -/
inductive FetchError where
  /-- The request cannot be made, for the address if it is known. -/
  | unsuitable (url : Option Url)
  /-- A server gave no answer. -/
  | unanswered (target : Url)
  /-- There was one redirect too many. -/
  | tooManyRedirects (url : Url)
  /-- The body of the answer broke off. -/
  | brokenBody
  deriving DecidableEq

/-- The wording of an address in a failure. -/
def forUrl (url : Url) : String := " for url (" ++ url.text ++ ")"

/-- The wording of a failure. -/
def FetchError.message : FetchError → String
  | unsuitable none => "builder error"
  | unsuitable (some url) => "builder error" ++ forUrl url
  | unanswered target => "error sending request" ++ forUrl target
  | tooManyRedirects url => "error following redirect" ++ forUrl url
  | brokenBody => "error decoding response body"

/-- The redirects that a fetch follows at most. -/
def maxRedirects : Nat := 10

/-- The status codes of redirects. -/
def redirectStatuses : List Status :=
  [.movedPermanently, .found, .seeOther, .temporaryRedirect, .permanentRedirect]

/-- The fields that are not shown to another host. -/
def sensitiveFields : List FieldName :=
  [.authorization, .cookie, .cookie2, .proxyAuthorization, .wwwAuthenticate]

/-- The fields that go with a body. -/
def bodyFields : List FieldName :=
  [.transferEncoding, .contentEncoding, .contentType, .contentLength]

/-- The address that a reply redirects to. The answer to a redirect without a usable address is the
reply itself. -/
def redirect? (url : Url) (reply : Reply) : Option Url := do
  guard (redirectStatuses.contains reply.status)
  let value ← reply.headers.get? .location
  let text ← Utf8.decode? value.bytes
  let next ← (url.join text).toOption
  guard (RequestUri.parse (Utf8.encode next.chars)).toOption.isSome
  return next

/-- Whether two addresses are served by different hosts. -/
def isOtherHost (next previous : Url) : Bool :=
  next.host != previous.host || next.effectivePort? != previous.effectivePort?

/-- A request without its body, for the method `GET` unless it was `HEAD`. -/
def Outgoing.withoutBody (request : Outgoing) : Outgoing :=
  { request with
    method := if request.method = .head then .head else .get
    headers := request.headers.eraseAll bodyFields
    body := [] }

/-- Whether a redirect drops the body of a request. -/
def dropsBody (status : Status) (method : Method) : Bool :=
  status == .seeOther ||
    ((status == .movedPermanently || status == .found) && method == .post)

/-- The address that a request names as the one before it. A secure one is not told to a server that
is not. -/
def refererOf? (next previous : Url) : Option Bytes :=
  if next.scheme = "http".toList ∧ previous.scheme = "https".toList then none
  else some (Utf8.encode previous.withoutUser.withoutFragment.chars)

/-- The request after a redirect. -/
def Outgoing.redirected (request : Outgoing) (status : Status) (next : Url) : Outgoing :=
  let reduced := if dropsBody status request.method then request.withoutBody else request
  let headers :=
    match refererOf? next request.url with
    | some previous => reduced.headers.insertOctets .referer previous
    | none => reduced.headers
  { reduced with
    url := next
    headers := if isOtherHost next request.url then headers.eraseAll sensitiveFields else headers }

/-- A reply with its whole body. -/
def Reply.complete (reply : Reply) : Except FetchError Response :=
  match reply.body with
  | some body => .ok { status := reply.status, headers := reply.headers, body }
  | none => .error .brokenBody

/-- Sends a request and follows up to `hops` redirects. A failure to get an answer names the first
address. -/
def follow {σ : Type} (network : Network σ) (target : Url) :
    (hops : Nat) → Outgoing → σ → Except FetchError Response × σ
  | hops, request, state =>
    match network request.sent state with
    | (none, state) => (.error (.unanswered target), state)
    | (some reply, state) =>
      match redirect? request.url reply with
      | none => (reply.complete, state)
      | some next =>
        match hops with
        | 0 => (.error (.tooManyRedirects request.url), state)
        | hops + 1 =>
          if isFetchable next then
            follow network target hops (request.redirected reply.status next) state
          else (.error (.unsuitable (some next)), state)

/-- Fetches a resource. -/
def fetch {σ : Type} (network : Network σ) (request : Outgoing) (state : σ) :
    Except FetchError Response × σ :=
  if isFetchable request.url then follow network request.url maxRedirects request state
  else (.error (.unsuitable (some request.url)), state)

end ForwardProxy.Client
