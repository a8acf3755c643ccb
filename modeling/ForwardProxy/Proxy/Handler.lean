import ForwardProxy.Cache.Store
import ForwardProxy.Cache.StoredResponse
import ForwardProxy.Config
import ForwardProxy.Policy.Domains
import ForwardProxy.Policy.Lifetime
import ForwardProxy.Proxy.Failure
import ForwardProxy.Proxy.Forwarding

/-!
# Answering a request

The proxy finds the target of a request, asks the list of allowed hosts, looks into the cache,
fetches what it does not find there, keeps what may be kept, and answers. A request that may not be
answered from the cache touches it in no way.

The clock is read when the cache is asked, and again when a fetched response is there to be kept.
The cache and the state of the network are passed through. How a request ended is told apart from
the response that its client sees.
-/

namespace ForwardProxy.Proxy

open Http Time

/-- What a proxy goes by. -/
structure Rules where
  /-- The hosts that may be fetched from. -/
  domains : Policy.DomainFilter := {}
  /-- The time to live of a response whose server does not give it one. -/
  defaultLifetime : Option Span := none
  /-- The greatest number of octets in the body of a request. -/
  maxBodySize : Nat

/-- The rules that a configuration gives. -/
def Rules.ofConfig (config : Config) : Rules where
  domains := { domains := config.allowedDomains, strict := config.strictDomainMatching }
  defaultLifetime := config.defaultLifetime?
  maxBodySize := config.maxBodySize.toNat

/-- The two times at which the clock is read for a request. Once a fetched response is there, the
clock is read for its time to live and again for its entry; these two readings are taken as one. -/
structure Moments where
  /-- When the cache is asked. -/
  asked : Instant
  /-- When a fetched response is there to be kept, and when its entry is made. -/
  received : Instant
  deriving DecidableEq

/-- The two readings are the same while the clock stands still. -/
instance : Coe Instant Moments := ⟨fun now => ⟨now, now⟩⟩

/-- The response comes from the cache. -/
def hit : FieldValue := { bytes := Bytes.ofAscii "HIT" }

/-- The response was fetched. -/
def miss : FieldValue := { bytes := Bytes.ofAscii "MISS" }

/-- The name of the proxy, with its version. -/
def proxyServerId : FieldValue := { bytes := Bytes.ofAscii "caching-proxy/0.1.0" }

/-- The reason why a body that is too long is not read. -/
def tooLong : String := "length limit exceeded"

/-- Looks a response up. An entry that cannot be read is taken as absent. -/
def lookUp (store : Cache.Store) (key : String) (now : Instant) :
    Option Response × Cache.Store :=
  let (entry, store) := store.get key now
  (entry.bind fun entry => (Cache.StoredResponse.decode entry.value).toOption, store)

/-- The answer that repeats a stored response. -/
def hitResponse (stored : Response) : Response :=
  { stored with headers := stored.headers.insert .xCache hit }

/-- The answer that passes a fetched response on. -/
def missResponse (fetched : Response) : Response :=
  { fetched with
    headers := (fetched.headers.insert .xProxyServer proxyServerId).insert .xCache miss }

/-- Keeps a response under a key, for as long as its server says, or else for the time that the
rules give. The time to live counts from the reading of the clock at which it is found out, as if no
time passed until the entry is made. -/
def keep (rules : Rules) (store : Cache.Store) (key : String) (response : Response)
    (now : Instant) : Cache.Store :=
  let lifetime := (Policy.lifetime? response.headers now).or rules.defaultLifetime
  (store.set key (Cache.StoredResponse.encode response) lifetime now).2

/-- Fetches a target for a request. How the octets of the body traveled is forgotten. -/
def fetchFor {σ : Type} (network : Client.Network σ) (request : Request) (target : Url)
    (state : σ) : Except Client.FetchError Response × σ :=
  let outgoing := Client.Outgoing.new request.method target (forwardedHeaders request) request.body
  let (fetched, state) := Client.fetch network outgoing state
  (fetched.map fun response =>
    { response with headers := response.headers.erase .transferEncoding }, state)

/-- How a request ends. -/
inductive Outcome where
  /-- It gets no proper answer. -/
  | failed (failure : Failure)
  /-- The cache answers it with a stored response. -/
  | found (stored : Response)
  /-- A server answers it. -/
  | fetched (response : Response)
  deriving DecidableEq

/-- The response that the client sees. -/
def Outcome.response : Outcome → Response
  | failed failure => failure.response
  | found stored => hitResponse stored
  | fetched response => missResponse response

/-- How a request ended, and what it leaves behind. -/
structure Answer (σ : Type) where
  /-- How the request ended. -/
  outcome : Outcome
  /-- The cache afterwards. -/
  store : Cache.Store
  /-- The state of the network afterwards. -/
  state : σ

/-- The response to the client. -/
def Answer.response {σ : Type} (answer : Answer σ) : Response := answer.outcome.response

/-- Answers a request that the cache does not answer. At most `allowance` octets of its body are
read. -/
def forward {σ : Type} (rules : Rules) (network : Client.Network σ) (allowance : Nat)
    (moments : Moments) (request : Request) (target : Url) (store : Cache.Store) (state : σ) :
    Answer σ :=
  if allowance < request.body.length then
    ⟨.failed (.invalidBody tooLong), store, state⟩
  else
    match fetchFor network request target state with
    | (.error cause, state) => ⟨.failed (.badGateway cause), store, state⟩
    | (.ok fetched, state) =>
      let store :=
        if Policy.requestCacheable request.method request.headers &&
            Policy.responseCacheable fetched.status fetched.headers then
          keep rules store (Policy.cacheKey request.method target) fetched moments.received
        else store
      ⟨.fetched fetched, store, state⟩

/-- Answers a request whose target may be fetched. -/
def answerFor {σ : Type} (rules : Rules) (network : Client.Network σ) (allowance : Nat)
    (moments : Moments) (request : Request) (target : Url) (store : Cache.Store) (state : σ) :
    Answer σ :=
  if Policy.requestCacheable request.method request.headers then
    match lookUp store (Policy.cacheKey request.method target) moments.asked with
    | (some stored, store) => ⟨.found stored, store, state⟩
    | (none, store) => forward rules network allowance moments request target store state
  else forward rules network allowance moments request target store state

/-- Answers a request, of whose body at most `allowance` octets are read. -/
def handleWithin {σ : Type} (rules : Rules) (network : Client.Network σ) (allowance : Nat)
    (moments : Moments) (request : Request) (store : Cache.Store) (state : σ) : Answer σ :=
  match Policy.resolveTarget request.uri with
  | .error error => ⟨.failed (.ofTargetError error), store, state⟩
  | .ok target =>
    let host := Policy.targetHost target
    if rules.domains.allows host then
      answerFor rules network allowance moments request target store state
    else ⟨.failed (.hostNotAllowed host), store, state⟩

/-- Answers a request. -/
def handle {σ : Type} (rules : Rules) (network : Client.Network σ) (moments : Moments)
    (request : Request) (store : Cache.Store) (state : σ) : Answer σ :=
  handleWithin rules network rules.maxBodySize moments request store state

end ForwardProxy.Proxy
