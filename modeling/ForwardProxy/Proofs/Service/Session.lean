import ForwardProxy.Proofs.Proxy.Provenance
import ForwardProxy.Proofs.Service.Layers

/-!
# Sessions

Requests reach the service one after another. Each finds the service and the network as the one
before it left them. What the service keeps between them changes only in three places: the count of
numbered requests, the windows of the clients, and the cache, into which only the proxy inside
brings anything. So every response of a server that a client sees was fetched in the session.
-/

namespace ForwardProxy

open Http Time Proxy

namespace Service

variable {σ : Type} (service : Service) (network : Client.Network σ) (visit : Visit) (state : σ)

/-- The visit with its request as the inner layers get it, under a number. -/
def numbered : Visit := { visit with request := (service.number visit.request).1 }

/-- The service once the request has its number. -/
def numbering : Service := (service.number visit.request).2

/-- What the outermost layer and a resource make of a response. -/
def presented (response : Response) : Response :=
  let response := showNumber (service.numbered visit).request response
  if (Resource.ofPath? visit.request.uri.path).isSome then
    finishResource visit.request.method response
  else response

/-- Numbering a request changes nothing but the count. -/
theorem numbering_eq : service.numbering visit =
    { service with
      ids :=
        if visit.request.headers.contains .xRequestId then service.ids else service.ids.next.2 } := by
  unfold numbering number
  split <;> rfl

/-- A number does not change what a request asks for. -/
theorem method_numbered : (service.numbered visit).request.method = visit.request.method := by
  unfold numbered number
  split <;> rfl

/-- Nothing that decides over the course of a request depends on the count. -/
theorem reaches_numbering (other : Visit) :
    (service.numbering visit).Reaches other ↔ service.Reaches other := by
  rw [numbering_eq]
  exact ⟨fun ⟨hmethod, hlimit, hshort, hpath, hopen⟩ => ⟨hmethod, hlimit, hshort, hpath, hopen⟩,
    fun ⟨hmethod, hlimit, hshort, hpath, hopen⟩ => ⟨hmethod, hlimit, hshort, hpath, hopen⟩⟩

/-- The answer of the proxy does not depend on the count of numbers. -/
theorem proxyAnswer_numbering (other : Visit) :
    (service.numbering visit).proxyAnswer network other state =
      service.proxyAnswer network other state := by
  rw [numbering_eq]
  rfl

end Service

/-- A service, and the network that it reaches. -/
structure Scene (σ : Type) where
  /-- The service. -/
  service : Service
  /-- The state of the network. -/
  state : σ

namespace Scene

variable {σ : Type} (network : Client.Network σ) (scene : Scene σ)

/-- A service that nobody has visited yet. -/
def opening (rules : Rules) (capacity : Nat) (limiter : RateLimiter)
    (pool : Pool Request Response) (state : σ) : Scene σ where
  service := { rules, store := .new capacity, limiter, pool }
  state := state

/-- The service that a configuration gives is one that nobody has visited yet. -/
theorem opening_ofConfig (config : Config) (state : σ) :
    opening (.ofConfig config) config.cacheCapacity.toNat (.perMinute config.requestsPerMinute)
      (.new config.maxConnections.toNat) state = ⟨.ofConfig config, state⟩ := rfl

/-- The answer of the service to a visit. -/
def answer (visit : Visit) : Service.Answer σ :=
  scene.service.handle network visit.moments visit.request scene.state

/-- The response to a visit. -/
def response (visit : Visit) : Response := (scene.answer network visit).response

/-- The scene after a visit. -/
def next (visit : Visit) : Scene σ :=
  ⟨(scene.answer network visit).service, (scene.answer network visit).state⟩

/-- The scene after visits. -/
def after (visits : List Visit) : Scene σ := visits.foldl (next network) scene

/-- The last visit finds the scene as the visits before it left it. -/
theorem after_concat (visits : List Visit) (visit : Visit) :
    scene.after network (visits ++ [visit]) = (scene.after network visits).next network visit := by
  simp [after]

/-- What becomes of a visit inside the layer that numbers it. -/
def inner (visit : Visit) : Service.Answer σ :=
  (scene.service.numbering visit).shareWithSites network visit.moments
    (scene.service.numbered visit).request scene.state

/-- The response is presented as the outermost layer and a resource have it. -/
theorem response_eq (visit : Visit) :
    scene.response network visit =
      scene.service.presented visit (scene.inner network visit).response := rfl

/-- The service is left as the inner layers leave it. -/
theorem service_next (visit : Visit) :
    (scene.next network visit).service = (scene.inner network visit).service := rfl

/-- Every visit takes one of the courses. -/
theorem course (visit : Visit) :
    (scene.service.numbering visit).Course network (scene.service.numbered visit) scene.state
      (scene.inner network visit) :=
  (scene.service.numbering visit).course_shareWithSites network (scene.service.numbered visit)
    scene.state

/-- A visit reaches the proxy inside. -/
abbrev Reaches (visit : Visit) : Prop := scene.service.Reaches (scene.service.numbered visit)

/-- How the proxy inside answers a visit that reaches it. -/
def outcome (visit : Visit) : Outcome :=
  (scene.service.proxyAnswer network (scene.service.numbered visit) scene.state).outcome

/-- The response of a server with which a visit is answered, from the cache or fetched. -/
def relayed? (visit : Visit) : Option Response :=
  scene.service.relayed? network (scene.service.numbered visit) scene.state

/-- A visit is answered with the response that a fetch gives for it. -/
structure Fetches (visit : Visit) (raw : Response) : Prop where
  /-- The proxy inside answers the visit. -/
  reaches : scene.Reaches visit
  /-- Servers answer its request with the response. -/
  fetched : ∃ target, Policy.resolveTarget visit.request.uri = .ok target ∧
    (Client.fetch network ((scene.service.numbered visit).outgoing target) scene.state).1 = .ok raw
  /-- The response is passed on. -/
  outcome : scene.outcome network visit = .fetched (passedOn raw)

/-- A visit leaves the rules and the workers as they are, and counts if it comes without a number. -/
theorem frame_next (visit : Visit) :
    ∃ limiter store, (scene.next network visit).service =
      { scene.service.numbering visit with limiter, store } := by
  obtain ⟨limiter, hframe⟩ := (scene.course network visit).frame
  exact ⟨limiter, _, hframe⟩

/-- A visit leaves the rules as they are. -/
@[simp] theorem rules_next (visit : Visit) :
    (scene.next network visit).service.rules = scene.service.rules := by
  obtain ⟨limiter, store, hframe⟩ := scene.frame_next network visit
  rw [hframe, Service.numbering_eq]

/-- A visit leaves the workers as they are. -/
@[simp] theorem pool_next (visit : Visit) :
    (scene.next network visit).service.pool = scene.service.pool := by
  obtain ⟨limiter, store, hframe⟩ := scene.frame_next network visit
  rw [hframe, Service.numbering_eq]

variable {network scene}

/-- A visit that reaches the proxy leaves the cache as the proxy does. -/
theorem store_next_of_reaches {visit : Visit} (h : scene.Reaches visit) :
    (scene.next network visit).service.store =
      ((scene.service.deployment network (scene.service.numbered visit)).next
        ⟨scene.service.store, scene.state⟩ (scene.service.numbered visit)).store := by
  have hcourse := (scene.course network visit).of_reaches
    ((scene.service.reaches_numbering visit _).mpr h)
  rw [service_next, hcourse, Service.proxyAnswer_numbering]
  rfl

/-- A visit that does not reach the proxy leaves the cache alone. -/
theorem store_next_of_not_reaches {visit : Visit} (h : ¬scene.Reaches visit) :
    (scene.next network visit).service.store = scene.service.store := by
  have hcourse := (scene.course network visit).frame_of_not_reaches
    (mt (scene.service.reaches_numbering visit _).mp h)
  rw [service_next, hcourse.1, Service.numbering_eq]

/-- The response to a visit inside the layer that numbers it has the values that a server gave to
the names that the service does not write, and none if no server is behind it. -/
theorem values_inner (visit : Visit) {name : FieldName} (hname : name ∉ Service.ownFields) :
    (scene.inner network visit).response.headers.values name =
      ((scene.relayed? network visit).map (·.headers.values name)).getD [] := by
  have hvalues := (scene.course network visit).values_response hname
  rwa [Service.relayed?, Service.proxyAnswer_numbering,
    if_congr (scene.service.reaches_numbering visit _) rfl rfl] at hvalues

/-- The request under a number has the same target. -/
theorem uri_numbered (service : Service) (visit : Visit) :
    (service.numbered visit).request.uri = visit.request.uri := by
  unfold Service.numbered Service.number
  split <;> rfl

/-- What a visit fetches is the response that a fetch gives for it. -/
theorem fetches_of_outcome {visit : Visit} {response : Response} (hreaches : scene.Reaches visit)
    (hfetched : scene.outcome network visit = .fetched response) :
    ∃ raw, scene.Fetches network visit raw ∧ response = passedOn raw := by
  obtain ⟨target, raw, hadmits, hmissed, hshort, hfetch⟩ :=
    Deployment.fetch_of_fetched _ hfetched
  have hsame := Deployment.outcome_of_fetched _ hadmits hmissed hshort hfetch
  have hresponse : response = passedOn raw := Outcome.fetched.inj (hfetched.symm.trans hsame)
  have hresolved := hadmits.resolved
  rw [uri_numbered] at hresolved
  exact ⟨raw, ⟨hreaches, ⟨target, hresolved, hfetch⟩, hsame⟩, hresponse⟩

section

variable {rules : Rules} {capacity : Nat} {limiter : RateLimiter} {pool : Pool Request Response}
  {state : σ}

/-- Every entry that a session leaves in the cache keeps a response that a visit of the session
fetched. -/
theorem entry_of_after {visits : List Visit} {key : String} {entry : Cache.Entry}
    (hentry : ((opening rules capacity limiter pool state).after network
      visits).service.store.entries[key]? = some entry) :
    ∃ before origin between raw, visits = before ++ origin :: between ∧
      ((opening rules capacity limiter pool state).after network before).Fetches network origin
        raw ∧
      Cache.StoredResponse.decode entry.value = .ok (passedOn raw) := by
  induction visits using List.reverseRecOn with
  | nil => simp [after, opening, Cache.Store.new] at hentry
  | append_singleton visits visit ih =>
    rw [after_concat] at hentry
    generalize hscene : (opening rules capacity limiter pool state).after network visits = scene
      at hentry ih
    -- An entry that was there before has an origin by induction.
    have hkept (hbefore : scene.service.store.entries[key]? = some entry) :
        ∃ before origin between raw, visits ++ [visit] = before ++ origin :: between ∧
          ((opening rules capacity limiter pool state).after network before).Fetches network
            origin raw ∧
          Cache.StoredResponse.decode entry.value = .ok (passedOn raw) := by
      obtain ⟨before, origin, between, raw, rfl, hfetches, hdecode⟩ := ih hbefore
      exact ⟨before, origin, between ++ [visit], raw, by simp, hfetches, hdecode⟩
    by_cases hreaches : scene.Reaches visit
    · rw [store_next_of_reaches hreaches] at hentry
      have hreadable (hbefore : scene.service.store.entries[key]? = some entry) :
          ∃ response, Cache.StoredResponse.decode entry.value = .ok response := by
        obtain ⟨_, _, _, raw, _, _, hdecode⟩ := ih hbefore
        exact ⟨passedOn raw, hdecode⟩
      rcases Deployment.entry_of_next _ hreadable hentry with
        ⟨hbefore, -⟩ | ⟨target, raw, hkeeps, -, rfl⟩
      · exact hkept hbefore
      · have hresolved := hkeeps.admits.resolved
        rw [uri_numbered] at hresolved
        refine ⟨visits, visit, [], raw, rfl, ?_, Visit.decode_entry _ _⟩
        rw [hscene]
        exact ⟨hreaches, ⟨target, hresolved, hkeeps.fetched⟩, hkeeps.outcome⟩
    · rw [store_next_of_not_reaches hreaches] at hentry
      exact hkept hentry

/-- Every response of a server with which a visit is answered was fetched, for this visit or for an
earlier one of the session. -/
theorem fetches_of_relayed {visits : List Visit} {visit : Visit} {response : Response}
    (h : ((opening rules capacity limiter pool state).after network visits).relayed? network visit =
      some response) :
    ∃ before origin between raw, visits ++ [visit] = before ++ origin :: between ∧
      ((opening rules capacity limiter pool state).after network before).Fetches network origin
        raw ∧
      response = passedOn raw := by
  obtain ⟨hreaches, houtcome⟩ := Option.ite_none_right_eq_some.mp h
  generalize hended : ((opening rules capacity limiter pool state).after network
    visits).service.proxyAnswer network _ _ = ended at houtcome
  obtain ⟨failure | stored | fetched, store, left⟩ := ended
  · cases houtcome
  · obtain rfl := Option.some.inj houtcome
    obtain ⟨target, -, hlookUp⟩ := Deployment.lookUp_of_found _ (congrArg Answer.outcome hended)
    obtain ⟨-, entry, hentry, -, hdecode⟩ := Visit.lookUp_eq_some.mp hlookUp
    obtain ⟨before, origin, between, raw, rfl, hfetches, hraw⟩ := entry_of_after hentry
    rw [hraw] at hdecode
    exact ⟨before, origin, between ++ [visit], raw, by simp, hfetches,
      (Except.ok.inj hdecode).symm⟩
  · obtain rfl := Option.some.inj houtcome
    obtain ⟨raw, hfetches, hresponse⟩ :=
      fetches_of_outcome hreaches (congrArg Answer.outcome hended)
    exact ⟨visits, visit, [], raw, rfl, hfetches, hresponse⟩

end

end Scene

end ForwardProxy
