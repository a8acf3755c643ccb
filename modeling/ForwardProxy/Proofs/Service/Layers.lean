import ForwardProxy.Proofs.Proxy.Run
import ForwardProxy.Service.Basic

/-!
# What the layers do to a request

A request either is answered by one of the layers or by a resource, or it reaches the proxy. `Course`
lists the ways, from the outside in, with the response that leaves the layers and with what each
leaves behind, and every fact about the service is drawn from it. On the way out the layers write
fields of their own and leave the values of every other name alone.
-/

namespace ForwardProxy

open Http Time Proxy

/-- The response of a server that an outcome passes on, from the cache or fetched. -/
def Proxy.Outcome.relayed? : Outcome → Option Response
  | failed _ => none
  | found response | fetched response => some response

namespace Service

/-! ### Responses on the way out -/

/-- A response that passed the layers between the number of the request and the limits. -/
def dressed (request : Headers) (response : Response) : Response :=
  share (protect (compressFor request response))

/-- The fields that the service writes into responses or takes out of them, but for the number of the
request. -/
def ownFields : List FieldName :=
  [.acceptRanges, .accessControlAllowHeaders, .accessControlAllowMethods, .accessControlAllowOrigin,
    .allow, .contentEncoding, .contentLength, .contentType, .vary, .xCache, .xProxyServer] ++
  securityFields.map (·.1)

variable {name : FieldName}

/-- A name that is not among the fields of the service is none of them. -/
theorem ne_of_not_mem_ownFields {field : FieldName} (hname : name ∉ ownFields)
    (hfield : field ∈ ownFields := by simp [ownFields]) : name ≠ field :=
  (ne_of_mem_of_not_mem hfield hname).symm

/-- Compression leaves the values of every name that is not of the service. -/
theorem values_compressFor (hname : name ∉ ownFields) (request : Headers) (response : Response) :
    (compressFor request response).headers.values name = response.headers.values name := by
  have hencoding : name ≠ .contentEncoding := ne_of_not_mem_ownFields hname
  have hlength : name ≠ .contentLength := ne_of_not_mem_ownFields hname
  have hranges : name ≠ .acceptRanges := ne_of_not_mem_ownFields hname
  have hvary : name ≠ .vary := ne_of_not_mem_ownFields hname
  unfold compressFor
  split
  · split
    · simp [hencoding, hranges, hlength, hvary]
    · simp [hvary]
  · rfl

/-- The fields that protect browsers leave the values of every name that is not of the service. -/
theorem values_protect (hname : name ∉ ownFields) (response : Response) :
    (protect response).headers.values name = response.headers.values name := by
  have hsecurity : name ∉ securityFields.map (·.1) := fun hmem =>
    hname (List.mem_append_right _ hmem)
  exact Headers.values_foldl_insert hsecurity response.headers

/-- The permission for other sites to read the response leaves all names but the two that it
writes. -/
theorem values_share (horigin : name ≠ .accessControlAllowOrigin) (hvary : name ≠ .vary)
    (response : Response) : (share response).headers.values name = response.headers.values name := by
  simp [share, horigin, hvary]

/-- Compression, protection and permission together leave the values of every name that is not of
the service. -/
theorem values_dressed (hname : name ∉ ownFields) (request : Headers) (response : Response) :
    (dressed request response).headers.values name = response.headers.values name := by
  have horigin : name ≠ .accessControlAllowOrigin := ne_of_not_mem_ownFields hname
  have hvary : name ≠ .vary := ne_of_not_mem_ownFields hname
  rw [dressed, values_share horigin hvary, values_protect hname, values_compressFor hname]

/-- A resource that finishes its response leaves all names but the one that it writes. -/
theorem values_finishResource (hallow : name ≠ .allow) (method : Method) (response : Response) :
    (finishResource method response).headers.values name = response.headers.values name := by
  unfold finishResource
  split
  · rfl
  · split
    · rfl
    · split
      · rfl
      · simp [hallow]

/-- A response in plain text has only fields that the service writes. -/
theorem values_textResponse (hname : name ∉ ownFields) (status : Status) (text : String) :
    (textResponse status text).headers.values name = [] := by
  have htype : name ≠ .contentType := ne_of_not_mem_ownFields hname
  simp [textResponse, htype]

/-- A report has only fields that the service writes. -/
theorem values_resourceResponse (hname : name ∉ ownFields) (service : Service) (resource : Resource)
    (method : Method) (now : Instant) :
    (service.resourceResponse resource method now).headers.values name = [] := by
  have htype : name ≠ .contentType := ne_of_not_mem_ownFields hname
  unfold resourceResponse
  split
  · simp [reportResponse, htype]
  · rfl

/-- The answer to the question what other sites may do has only fields that the service writes. -/
theorem values_permission (hname : name ∉ ownFields) : permission.headers.values name = [] := by
  have hfields : name ≠ .accessControlAllowHeaders := ne_of_not_mem_ownFields hname
  have hmethods : name ≠ .accessControlAllowMethods := ne_of_not_mem_ownFields hname
  have horigin : name ≠ .accessControlAllowOrigin := ne_of_not_mem_ownFields hname
  have hlength : name ≠ .contentLength := ne_of_not_mem_ownFields hname
  have hvary : name ≠ .vary := ne_of_not_mem_ownFields hname
  simp [permission, Headers.ofLines, hfields, hmethods, horigin, hlength, hvary]

/-- The proxy passes on the values of every name that is not of the service. -/
theorem values_outcome (hname : name ∉ ownFields) (outcome : Outcome) :
    outcome.response.headers.values name =
      (outcome.relayed?.map (·.headers.values name)).getD [] := by
  have hcache : name ≠ .xCache := ne_of_not_mem_ownFields hname
  have hserver : name ≠ .xProxyServer := ne_of_not_mem_ownFields hname
  cases outcome with
  | failed failure => exact values_textResponse hname _ _
  | found stored => simp [Outcome.response, hitResponse, Outcome.relayed?, hcache]
  | fetched response =>
    simp [Outcome.response, missResponse, Outcome.relayed?, hcache, hserver]

/-! ### Requests on the way in -/

variable {σ : Type} (service : Service) (network : Client.Network σ) (visit : Visit) (state : σ)

/-- The number of octets of its body that a request may have read. -/
def allowance : Nat := (declaredLength? visit.request.headers).getD service.rules.maxBodySize

/-- The limit on the requests of each client lets the request pass. -/
def passesLimit : Bool :=
  match visit.request.peer with
  | none => true
  | some peer => (service.limiter.check peer.ip visit.moments.asked).1

/-- The service after the request was counted for its client. -/
def counted : Service :=
  match visit.request.peer with
  | none => service
  | some peer =>
    { service with limiter := (service.limiter.check peer.ip visit.moments.asked).2 }

/-- The proxy inside, for a request of which no more is read than it may have read. -/
def deployment : Deployment σ :=
  ⟨{ service.rules with maxBodySize := service.allowance visit }, network⟩

/-- How the proxy inside answers. -/
def proxyAnswer : Proxy.Answer σ :=
  (service.deployment network visit).answer ⟨service.store, state⟩ visit

/-- A request passes all layers, and none of the resources is meant. -/
structure Reaches : Prop where
  /-- The request does not ask what other sites may do. -/
  method : visit.request.method ≠ .options
  /-- The client did not send too many requests. -/
  inTime : service.passesLimit visit = true
  /-- The request does not declare too long a body. -/
  short : service.allowance visit ≤ service.rules.maxBodySize
  /-- The request names no resource of the proxy. -/
  path : Resource.ofPath? visit.request.uri.path = none
  /-- The workers take jobs. -/
  opened : service.pool.isSealed = false

instance : Decidable (service.Reaches visit) :=
  decidable_of_iff
    (visit.request.method ≠ .options ∧ service.passesLimit visit = true ∧
      service.allowance visit ≤ service.rules.maxBodySize ∧
      Resource.ofPath? visit.request.uri.path = none ∧ service.pool.isSealed = false)
    ⟨fun ⟨hmethod, hlimit, hshort, hpath, hopen⟩ => ⟨hmethod, hlimit, hshort, hpath, hopen⟩,
      fun h => ⟨h.method, h.inTime, h.short, h.path, h.opened⟩⟩

/-- The response of a server with which a request is answered, from the cache or fetched. -/
def relayed? : Option Response :=
  if service.Reaches visit then (service.proxyAnswer network visit state).outcome.relayed? else none

/-- The ways in which a request is answered inside the layer that numbers it. -/
inductive Course : Answer σ → Prop where
  /-- The request asks what other sites may do. -/
  | permitted (hmethod : visit.request.method = .options) :
    Course ⟨permission, service, state⟩
  /-- The client sent too many requests. -/
  | limited (hmethod : visit.request.method ≠ .options)
    (hlimit : service.passesLimit visit = false) :
    Course ⟨dressed visit.request.headers Failure.rateLimited.response, service.counted visit, state⟩
  /-- The request declares too long a body. -/
  | tooLong (hmethod : visit.request.method ≠ .options)
    (hlimit : service.passesLimit visit = true)
    (hlong : service.rules.maxBodySize < service.allowance visit) :
    Course ⟨dressed visit.request.headers (textResponse .contentTooLarge Proxy.tooLong),
      service.counted visit, state⟩
  /-- A resource answers the request. -/
  | told {resource : Resource} (hmethod : visit.request.method ≠ .options)
    (hlimit : service.passesLimit visit = true)
    (hshort : service.allowance visit ≤ service.rules.maxBodySize)
    (hpath : Resource.ofPath? visit.request.uri.path = some resource) :
    Course ⟨dressed visit.request.headers
        (service.resourceResponse resource visit.request.method visit.moments.asked),
      service.counted visit, state⟩
  /-- The workers take no more jobs. -/
  | closed (hmethod : visit.request.method ≠ .options)
    (hlimit : service.passesLimit visit = true)
    (hshort : service.allowance visit ≤ service.rules.maxBodySize)
    (hpath : Resource.ofPath? visit.request.uri.path = none)
    (hsealed : service.pool.isSealed = true) :
    Course ⟨dressed visit.request.headers Failure.poolStopped.response, service.counted visit, state⟩
  /-- The proxy answers the request. -/
  | proxied (hreaches : service.Reaches visit) :
    Course ⟨dressed visit.request.headers (service.proxyAnswer network visit state).response,
      { service.counted visit with store := (service.proxyAnswer network visit state).store },
      (service.proxyAnswer network visit state).state⟩

/-- What the limits let pass is passed on for the service in which it is counted. -/
theorem limitRate_eq :
    service.limitRate network visit.moments visit.request state =
      if service.passesLimit visit then
        (service.counted visit).limitBody network visit.moments visit.request state
      else ⟨Failure.rateLimited.response, service.counted visit, state⟩ := by
  unfold limitRate passesLimit counted
  cases visit.request.peer with
  | none => simp
  | some peer => rfl

/-- Counting a request changes nothing but the limit on the requests of each client. -/
theorem counted_eq : ∃ limiter, service.counted visit = { service with limiter } := by
  unfold counted
  cases visit.request.peer with
  | none => exact ⟨service.limiter, rfl⟩
  | some peer => exact ⟨_, rfl⟩

variable {service visit}

/-- What passes the limits and names no resource goes to the proxy, if the workers take jobs. -/
theorem course_dispatch (hmethod : visit.request.method ≠ .options)
    (hlimit : service.passesLimit visit = true)
    (hshort : service.allowance visit ≤ service.rules.maxBodySize)
    (hpath : Resource.ofPath? visit.request.uri.path = none) :
    service.Course network visit state
      (((service.counted visit).dispatch network (service.allowance visit) visit.moments
        visit.request state).map (dressed visit.request.headers)) := by
  obtain ⟨limiter, hcounted⟩ := service.counted_eq visit
  unfold dispatch
  cases hsealed : service.pool.isSealed with
  | true =>
    have h : service.Course network visit state _ := .closed hmethod hlimit hshort hpath hsealed
    rw [hcounted] at h ⊢
    rwa [if_pos (by exact hsealed)]
  | false =>
    have h : service.Course network visit state _ :=
      .proxied ⟨hmethod, hlimit, hshort, hpath, hsealed⟩
    rw [hcounted] at h ⊢
    rwa [if_neg (by simp [hsealed])]

/-- What the limit on requests lets pass goes on to a resource or to the proxy, if its body is not
too long. -/
theorem course_limitBody (hmethod : visit.request.method ≠ .options)
    (hlimit : service.passesLimit visit = true) :
    service.Course network visit state
      (((service.counted visit).limitBody network visit.moments visit.request state).map
        (dressed visit.request.headers)) := by
  obtain ⟨limiter, hcounted⟩ := service.counted_eq visit
  have hallowance : (declaredLength? visit.request.headers).getD
      (service.counted visit).rules.maxBodySize = service.allowance visit := by
    rw [hcounted, allowance]
  have hmost : (service.counted visit).rules.maxBodySize = service.rules.maxBodySize := by
    rw [hcounted]
  simp only [limitBody, hallowance]
  by_cases hlong : service.rules.maxBodySize < service.allowance visit
  · rw [hmost, if_pos hlong]
    exact .tooLong hmethod hlimit hlong
  · have hshort := Nat.le_of_not_lt hlong
    rw [hmost, if_neg hlong]
    cases hpath : Resource.ofPath? visit.request.uri.path with
    | some resource =>
      have h : service.Course network visit state _ := .told hmethod hlimit hshort hpath
      rw [hcounted] at h ⊢
      exact h
    | none => exact course_dispatch network state hmethod hlimit hshort hpath

variable (service visit)

/-- Every request is answered in one of the six ways. -/
theorem course_shareWithSites :
    service.Course network visit state
      (service.shareWithSites network visit.moments visit.request state) := by
  unfold shareWithSites
  by_cases hmethod : visit.request.method = .options
  · rw [if_pos hmethod]
    exact .permitted hmethod
  · rw [if_neg hmethod, limitRate_eq]
    cases hlimit : service.passesLimit visit with
    | false => exact .limited hmethod hlimit
    | true => exact course_limitBody network state hmethod hlimit

variable {service network visit state} {answer : Answer σ}

/-- Whatever course a request takes, only the windows of the clients and the cache change. -/
theorem Course.frame (h : service.Course network visit state answer) :
    ∃ limiter, answer.service = { service with limiter, store := answer.service.store } := by
  obtain ⟨limiter, hcounted⟩ := service.counted_eq visit
  cases h with
  | permitted => exact ⟨service.limiter, rfl⟩
  | _ =>
    simp only [hcounted]
    exact ⟨limiter, rfl⟩

/-- The proxy answers a request that reaches it, and what it leaves behind is kept. -/
theorem Course.of_reaches (h : service.Course network visit state answer)
    (hreaches : service.Reaches visit) :
    answer = ⟨dressed visit.request.headers (service.proxyAnswer network visit state).response,
      { service.counted visit with store := (service.proxyAnswer network visit state).store },
      (service.proxyAnswer network visit state).state⟩ := by
  cases h with
  | permitted hmethod => exact absurd hmethod hreaches.method
  | limited _ hlimit => simp [hreaches.inTime] at hlimit
  | tooLong _ _ hlong => exact absurd hreaches.short (Nat.not_le_of_lt hlong)
  | told _ _ _ hpath => simp [hreaches.path] at hpath
  | closed _ _ _ _ hsealed => simp [hreaches.opened] at hsealed
  | proxied => rfl

/-- A request that does not reach the proxy leaves the cache and the network alone. -/
theorem Course.frame_of_not_reaches (h : service.Course network visit state answer)
    (hno : ¬service.Reaches visit) :
    answer.service.store = service.store ∧ answer.state = state := by
  obtain ⟨limiter, hcounted⟩ := service.counted_eq visit
  cases h with
  | permitted => exact ⟨rfl, rfl⟩
  | proxied hreaches => exact absurd hreaches hno
  | _ => exact ⟨by rw [hcounted], rfl⟩

/-- The response to a request that does not reach the proxy has no fields but those that the service
writes. -/
theorem Course.values_of_not_reaches (h : service.Course network visit state answer)
    (hno : ¬service.Reaches visit) (hname : name ∉ ownFields) :
    answer.response.headers.values name = [] := by
  cases h with
  | permitted => exact values_permission hname
  | limited => exact (values_dressed hname _ _).trans (values_textResponse hname _ _)
  | tooLong => exact (values_dressed hname _ _).trans (values_textResponse hname _ _)
  | told => exact (values_dressed hname _ _).trans (values_resourceResponse hname _ _ _ _)
  | closed => exact (values_dressed hname _ _).trans (values_textResponse hname _ _)
  | proxied hreaches => exact absurd hreaches hno

/-- The response to a request has the values that a server gave to the names that are not of the
service, and none if no server is behind it. -/
theorem Course.values_response (h : service.Course network visit state answer)
    (hname : name ∉ ownFields) :
    answer.response.headers.values name =
      ((service.relayed? network visit state).map (·.headers.values name)).getD [] := by
  unfold relayed?
  by_cases hreaches : service.Reaches visit
  · rw [h.of_reaches hreaches, if_pos hreaches]
    exact (values_dressed hname _ _).trans (values_outcome hname _)
  · rw [h.values_of_not_reaches hreaches hname, if_neg hreaches]
    rfl

end Service

end ForwardProxy
