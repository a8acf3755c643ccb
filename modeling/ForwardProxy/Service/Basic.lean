import ForwardProxy.Pool
import ForwardProxy.Proxy.Handler
import ForwardProxy.RateLimit
import ForwardProxy.Report
import ForwardProxy.RequestId
import ForwardProxy.Service.Compression

/-!
# The service

What a client talks to. A request passes through layers, each of which may answer it or change the
answer of the layers inside. From the outside in, they number the request, let other sites read
the answer, add fields that protect browsers, compress the answer, limit the rate of each client
and the length of a body. Innermost is the proxy, and beside it two resources that tell of the
proxy itself.
-/

namespace ForwardProxy

open Http Time

/-- A proxy with all that it keeps from one request to the next. -/
structure Service where
  /-- What the proxy goes by. -/
  rules : Proxy.Rules
  /-- The cache. -/
  store : Cache.Store
  /-- The limit on the requests of each client. -/
  limiter : RateLimiter
  /-- The count of numbered requests. -/
  ids : RequestIds := {}
  /-- The workers that run the proxy. -/
  pool : Pool Request Response

namespace Service

/-- The service that a configuration gives. -/
def ofConfig (config : Config) : Service where
  rules := .ofConfig config
  store := .new config.cacheCapacity.toNat
  limiter := .perMinute config.requestsPerMinute
  pool := .new config.maxConnections.toNat

/-- A response of the service, and what it leaves behind. -/
structure Answer (σ : Type) where
  /-- The response to the client. -/
  response : Response
  /-- The service afterwards. -/
  service : Service
  /-- The state of the network afterwards. -/
  state : σ

/-- The answer with a changed response. -/
def Answer.map {σ : Type} (answer : Answer σ) (f : Response → Response) : Answer σ :=
  { answer with response := f answer.response }

/-! ### The resources of the proxy itself -/

/-- A resource that tells of the proxy. -/
inductive Resource where
  /-- Whether it is alive. -/
  | health
  /-- How well the cache does. -/
  | statistics
  deriving DecidableEq

/-- The resource at a path. -/
def Resource.ofPath? (path : Bytes) : Option Resource :=
  if path = Bytes.ofAscii "/_proxy/health" then some .health
  else if path = Bytes.ofAscii "/_proxy/stats" then some .statistics
  else none

/-- The methods that these resources know. -/
def isReading (method : Method) : Bool := method == .get || method == .head

/-- The names of these methods. -/
def readingMethods : FieldValue := { bytes := Bytes.ofAscii "GET,HEAD" }

/-- The type of a report. -/
def jsonType : FieldValue := { bytes := Bytes.ofAscii "application/json" }

/-- The response with a report. -/
def reportResponse (report : String) : Response where
  status := .ok
  headers := Headers.empty.insert .contentType jsonType
  body := Utf8.encode report.toList

/-- The report of a resource. -/
def report (service : Service) (resource : Resource) (now : Instant) : String :=
  match resource with
  | .health => Report.health now
  | .statistics => Report.statistics service.store.statistics service.pool.size

/-- The response of a resource. -/
def resourceResponse (service : Service) (resource : Resource) (method : Method)
    (now : Instant) : Response :=
  if isReading method then reportResponse (service.report resource now)
  else { status := .methodNotAllowed, headers := .empty, body := [] }

/-- What a resource does to the response that leaves the service: without a body for the method
`HEAD`, and with the methods that it knows for any that it does not. -/
def finishResource (method : Method) (response : Response) : Response :=
  if method = .head then { response with body := [] }
  else if isReading method then response
  else if response.headers.contains .allow then response
  else { response with headers := response.headers.insert .allow readingMethods }

/-! ### The limits -/

/-- The length of the body that a request declares, if it does. -/
def declaredLength? (headers : Headers) : Option Nat :=
  ((headers.get? .contentLength).bind (·.text?)).bind (Text.unsigned? Config.maxCount)

/-- Has the proxy answer, on a worker. -/
def dispatch {σ : Type} (service : Service) (network : Client.Network σ) (allowance : Nat)
    (moments : Proxy.Moments) (request : Request) (state : σ) : Answer σ :=
  if service.pool.isSealed then ⟨Proxy.Failure.poolStopped.response, service, state⟩
  else
    let answer :=
      Proxy.handleWithin service.rules network allowance moments request service.store state
    ⟨answer.response, { service with store := answer.store }, answer.state⟩

/-- Refuses a request that declares too long a body, and passes any other on to a resource or to the
proxy. No more is read of a body than was declared. -/
def limitBody {σ : Type} (service : Service) (network : Client.Network σ) (moments : Proxy.Moments)
    (request : Request) (state : σ) : Answer σ :=
  let limit := service.rules.maxBodySize
  let declared := (declaredLength? request.headers).getD limit
  if limit < declared then
    ⟨Proxy.textResponse .contentTooLarge Proxy.tooLong, service, state⟩
  else
    match Resource.ofPath? request.uri.path with
    | some resource =>
      ⟨service.resourceResponse resource request.method moments.asked, service, state⟩
    | none => service.dispatch network declared moments request state

/-- Refuses a request of a client that sent too many. One whose address is not known is not counted.
The limit has a clock of its own that is never set back; here it goes by the reading with which the
cache is asked. -/
def limitRate {σ : Type} (service : Service) (network : Client.Network σ) (moments : Proxy.Moments)
    (request : Request) (state : σ) : Answer σ :=
  match request.peer with
  | none => service.limitBody network moments request state
  | some peer =>
    let (passes, limiter) := service.limiter.check peer.ip moments.asked
    let service := { service with limiter }
    if passes then service.limitBody network moments request state
    else ⟨Proxy.Failure.rateLimited.response, service, state⟩

/-! ### The fields that protect browsers -/

/-- The fields that protect browsers, and their values. -/
def securityFields : List (FieldName × FieldValue) :=
  [(.xContentTypeOptions, { bytes := Bytes.ofAscii "nosniff" }),
    (.xFrameOptions, { bytes := Bytes.ofAscii "DENY" }),
    (.xXssProtection, { bytes := Bytes.ofAscii "1; mode=block" }),
    (.referrerPolicy, { bytes := Bytes.ofAscii "strict-origin-when-cross-origin" })]

/-- A response with these fields, in place of any that it had. -/
def protect (response : Response) : Response :=
  { response with
    headers := securityFields.foldl (fun headers field => headers.insert field.1 field.2)
      response.headers }

/-! ### Other sites -/

/-- Any site, method or field. -/
def anything : FieldValue := { bytes := Bytes.ofAscii "*" }

/-- The fields of a request on which the permission for other sites depends. -/
def varyOrigin : FieldValue :=
  { bytes := Bytes.ofAscii
      "origin, access-control-request-method, access-control-request-headers" }

/-- A response that other sites may read. -/
def share (response : Response) : Response :=
  { response with
    headers := (response.headers.append .vary varyOrigin).insert .accessControlAllowOrigin anything }

/-- A length of zero. -/
def zeroLength : FieldValue := { bytes := Bytes.ofAscii "0" }

/-- The answer to the question what other sites may do. -/
def permission : Response where
  status := .ok
  headers := .ofLines
    [(.accessControlAllowOrigin, anything), (.vary, varyOrigin),
      (.accessControlAllowMethods, anything), (.accessControlAllowHeaders, anything),
      (.contentLength, zeroLength)]
  body := []

/-- Answers what other sites may do, or has the layers inside answer. -/
def shareWithSites {σ : Type} (service : Service) (network : Client.Network σ) (moments : Proxy.Moments)
    (request : Request) (state : σ) : Answer σ :=
  if request.method = .options then ⟨permission, service, state⟩
  else
    (service.limitRate network moments request state).map fun response =>
      share (protect (compressFor request.headers response))

/-! ### The number of a request -/

/-- The digits of a number as the value of a field. -/
def numberOctets (n : Nat) : Bytes := Bytes.ofAscii (String.ofList (Nat.toDigits 10 n))

/-- Gives a request the next number, unless the client numbered it itself. -/
def number (service : Service) (request : Request) : Request × Service :=
  if request.headers.contains .xRequestId then (request, service)
  else
    let (n, ids) := service.ids.next
    ({ request with headers := request.headers.insertOctets .xRequestId (numberOctets n) },
      { service with ids })

/-- A response with the number of its request, unless it has one. -/
def showNumber (request : Request) (response : Response) : Response :=
  match request.headers.get? .xRequestId with
  | some value =>
    if response.headers.contains .xRequestId then response
    else { response with headers := response.headers.insert .xRequestId value }
  | none => response

/-- Answers a request. -/
def handle {σ : Type} (service : Service) (network : Client.Network σ) (moments : Proxy.Moments)
    (request : Request) (state : σ) : Answer σ :=
  let (numbered, service) := service.number request
  (service.shareWithSites network moments numbered state).map fun response =>
    let response := showNumber numbered response
    if (Resource.ofPath? request.uri.path).isSome then finishResource request.method response
    else response

end Service

end ForwardProxy
