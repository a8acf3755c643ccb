import ForwardProxy.Proofs.Client.Exchanges
import ForwardProxy.Proofs.RateLimit.LastWindow
import ForwardProxy.Proofs.Service.Session

/-!
# The budget of each client

The limit on the requests of each client stands outside of the limit on bodies, of the resources and
of the proxy. So it counts every request of a client that is known, whatever becomes of it, and what
it refuses has no effect but that it is counted. Only the question what other sites may do is
answered without being counted.
-/

namespace ForwardProxy

open Http Time Proxy

/-- What the limit on requests sees of a visit: nothing if its client is not known. -/
def Proxy.Visit.check? (visit : Visit) : Option RateLimiter.Check :=
  visit.request.peer.map fun peer => ⟨peer.ip, visit.moments.asked⟩

namespace Service

variable {σ : Type} {network : Client.Network σ} {service : Service} {visit : Visit} {state : σ}
  {answer : Answer σ}

/-- A number does not change who sends a request. -/
theorem peer_numbered (service : Service) (visit : Visit) :
    (service.numbered visit).request.peer = visit.request.peer := by
  unfold numbered number
  split <;> rfl

/-- A number does not change how long the body of a request may be. -/
theorem allowance_numbered (service : Service) (visit : Visit) :
    service.allowance (service.numbered visit) = service.allowance visit := by
  have hlength (octets : Bytes) :
      (visit.request.headers.insertOctets .xRequestId octets).get? .contentLength =
        visit.request.headers.get? .contentLength := by
    rw [Headers.get?_eq_head?, Headers.values_insertOctets_of_ne (by decide),
      Headers.get?_eq_head?]
  unfold allowance numbered number
  split
  · rfl
  · simp only [declaredLength?, hlength]

/-- Whether a request passes the limit on requests does not depend on its number. -/
theorem passesLimit_numbered (service : Service) (visit : Visit) :
    service.passesLimit (service.numbered visit) = service.passesLimit visit := by
  unfold passesLimit
  rw [peer_numbered]
  rfl

/-- Whether a request passes the limit on requests does not depend on the count of numbers. -/
theorem passesLimit_numbering (service : Service) (visit other : Visit) :
    (service.numbering visit).passesLimit other = service.passesLimit other := by
  rw [numbering_eq]
  rfl

/-- How a request is counted for its client does not depend on the count of numbers. -/
theorem limiter_counted_numbering (service : Service) (visit : Visit) :
    ((service.numbering visit).counted (service.numbered visit)).limiter =
      (service.counted visit).limiter := by
  unfold counted
  rw [peer_numbered, numbering_eq]
  cases visit.request.peer <;> rfl

/-- Counting a request is what the limit does with what it sees of it. -/
theorem limiter_counted (service : Service) (visit : Visit) :
    (service.counted visit).limiter = service.limiter.counting visit.check?.toList := by
  unfold counted Visit.check?
  cases visit.request.peer <;> rfl

/-- A request is counted on every course but that of the question what other sites may do. -/
theorem Course.limiter_eq (h : service.Course network visit state answer)
    (hmethod : visit.request.method ≠ .options) :
    answer.service.limiter = (service.counted visit).limiter := by
  cases h with
  | permitted hoptions => exact absurd hoptions hmethod
  | _ => rfl

/-- Two changes of a response, one after the other, are one change. -/
theorem Answer.map_map (answer : Answer σ) (f g : Response → Response) :
    (answer.map f).map g = answer.map fun response => g (f response) := rfl

/-! ### Refusals -/

/-- The layers on the way out leave the status code. -/
theorem status_dressed (request : Headers) (response : Response) :
    (dressed request response).status = response.status := by
  have hcompress : (compressFor request response).status = response.status := by
    unfold compressFor
    split
    · split <;> rfl
    · rfl
  exact hcompress

/-- A request that passes the limit on requests and declares too long a body is told so. -/
theorem Course.status_of_tooLong (h : service.Course network visit state answer)
    (hmethod : visit.request.method ≠ .options) (hlimit : service.passesLimit visit = true)
    (hlong : service.rules.maxBodySize < service.allowance visit) :
    answer.response.status = .contentTooLarge := by
  cases h with
  | permitted hoptions => exact absurd hoptions hmethod
  | limited _ hrefused => simp [hlimit] at hrefused
  | tooLong => exact status_dressed _ _
  | told _ _ hshort | closed _ _ hshort => exact absurd hlong (Nat.not_lt_of_le hshort)
  | proxied hreaches => exact absurd hlong (Nat.not_lt_of_le hreaches.short)

/-- A refusal is too short to be compressed. -/
theorem compressFor_rateLimited (request : Headers) :
    compressFor request Failure.rateLimited.response = Failure.rateLimited.response :=
  if_neg (by decide)

/-- The number of a request changes neither the status code nor the body of its response. -/
theorem showNumber_frame (request : Request) (response : Response) :
    (showNumber request response).status = response.status ∧
      (showNumber request response).body = response.body := by
  unfold showNumber
  split
  · split <;> exact ⟨rfl, rfl⟩
  · exact ⟨rfl, rfl⟩

/-- Nothing that is done to a response at last changes its status code. -/
theorem status_presented (service : Service) (visit : Visit) (response : Response) :
    (service.presented visit response).status = response.status := by
  have hnumber := showNumber_frame (service.numbered visit).request response
  unfold presented finishResource
  dsimp only
  split
  · split
    · exact hnumber.1
    · split
      · exact hnumber.1
      · split <;> exact hnumber.1
  · exact hnumber.1

/-- The body of a response is left out if a resource is asked for the fields only. -/
theorem body_presented (service : Service) (visit : Visit) (response : Response) :
    (service.presented visit response).body =
      if (Resource.ofPath? visit.request.uri.path).isSome ∧ visit.request.method = .head then []
      else response.body := by
  have hnumber := showNumber_frame (service.numbered visit).request response
  unfold presented finishResource
  dsimp only
  by_cases hpath : (Resource.ofPath? visit.request.uri.path).isSome = true
  · by_cases hhead : visit.request.method = .head
    · rw [if_pos hpath, if_pos hhead, if_pos ⟨hpath, hhead⟩]
    · have hkept : ¬((Resource.ofPath? visit.request.uri.path).isSome = true ∧
          visit.request.method = .head) := fun h => hhead h.2
      rw [if_pos hpath, if_neg hhead, if_neg hkept]
      split
      · exact hnumber.2
      · split <;> exact hnumber.2
  · rw [if_neg hpath, if_neg fun h => hpath h.1]
    exact hnumber.2

/-- A response has the status code of too many requests, and says what is wrong if it has a body. A
resource gives no body to a client that asks for the fields only. -/
structure IsRefusal (visit : Visit) (response : Response) : Prop where
  /-- The status code is that of too many requests. -/
  status : response.status = .tooManyRequests
  /-- The body says what is wrong, if there is to be one. -/
  body : response.body =
    if (Resource.ofPath? visit.request.uri.path).isSome ∧ visit.request.method = .head then []
    else Utf8.encode "Rate limit exceeded".toList

end Service

namespace Scene

variable {σ : Type} {network : Client.Network σ} {scene : Scene σ} {before visits : List Visit}
  {visit : Visit}

/-! ### What is counted -/

/-- What the limit on requests sees of visits. -/
def checks (visits : List Visit) : List RateLimiter.Check := visits.filterMap Visit.check?

theorem checks_concat (visits : List Visit) (visit : Visit) :
    checks (visits ++ [visit]) = checks visits ++ visit.check?.toList := by
  rw [checks, List.filterMap_append]
  cases h : visit.check? <;> simp [checks, h]

/-- A visit that does not ask what other sites may do is counted. -/
theorem limiter_next (hmethod : visit.request.method ≠ .options) :
    (scene.next network visit).service.limiter =
      scene.service.limiter.counting visit.check?.toList := by
  have hcourse := (scene.course network visit).limiter_eq
    (fun hoptions => hmethod ((scene.service.method_numbered visit).symm.trans hoptions))
  rw [service_next, hcourse, Service.limiter_counted_numbering, Service.limiter_counted]

/-- Visits that do not ask what other sites may do are all counted. -/
theorem limiter_after (hmethods : ∀ visit ∈ visits, visit.request.method ≠ .options) :
    (scene.after network visits).service.limiter =
      scene.service.limiter.counting (checks visits) := by
  induction visits using List.reverseRecOn with
  | nil => rfl
  | append_singleton visits visit ih =>
    have hbefore : ∀ other ∈ visits, other.request.method ≠ .options :=
      fun other hmem => hmethods other (List.mem_append_left _ hmem)
    have hvisit := hmethods visit (by simp)
    rw [after_concat, limiter_next hvisit, ih hbefore, checks_concat,
      RateLimiter.counting_append]

/-! ### What is refused -/

variable (network scene)

/-- The limit on requests refuses a visit. -/
def Refuses (visit : Visit) : Prop := scene.service.passesLimit visit = false

/-- What becomes of a visit inside of the limit on requests. -/
def inside (visit : Visit) : Service.Answer σ :=
  ((scene.service.numbering visit).counted (scene.service.numbered visit)).limitBody network
    visit.moments (scene.service.numbered visit).request scene.state

/-- A scene with a record of exchanges that is still empty. -/
def recorded : Scene (σ × List Client.Exchange) := ⟨scene.service, (scene.state, [])⟩

/-- The exchanges with servers on account of a visit. -/
def exchanges (visit : Visit) : List Client.Exchange :=
  (scene.recorded.next network.recorded visit).state.2

variable {network scene}

/-- A visit that is refused gets the refusal, and any other one what is inside of the limit. -/
theorem inner_eq (hmethod : visit.request.method ≠ .options) :
    scene.inner network visit =
      (if scene.service.passesLimit visit then scene.inside network visit
        else ⟨Failure.rateLimited.response,
          (scene.service.numbering visit).counted (scene.service.numbered visit),
          scene.state⟩).map (Service.dressed (scene.service.numbered visit).request.headers) := by
  have hnumbered : ¬(scene.service.numbered visit).request.method = .options := by
    rwa [Service.method_numbered]
  have hlimit := (scene.service.numbering visit).limitRate_eq network
    (scene.service.numbered visit) scene.state
  rw [Service.passesLimit_numbering, Service.passesLimit_numbered] at hlimit
  unfold inner Service.shareWithSites
  rw [if_neg hnumbered]
  exact congrArg (Service.Answer.map · _) hlimit

/-- A refusal is presented as one. -/
theorem isRefusal_response (hmethod : visit.request.method ≠ .options)
    (h : scene.Refuses visit) :
    Service.IsRefusal visit (scene.response network visit) := by
  have hdressed : (scene.inner network visit).response =
      Service.share (Service.protect Failure.rateLimited.response) := by
    rw [inner_eq hmethod, h, if_neg (by decide)]
    exact congrArg (fun response => Service.share (Service.protect response))
      (Service.compressFor_rateLimited _)
  rw [response_eq, hdressed]
  exact ⟨Service.status_presented _ _ _, Service.body_presented _ _ _⟩

/-- A visit that declares too long a body is told so, if it is not refused. -/
theorem status_response_of_tooLong (hmethod : visit.request.method ≠ .options)
    (hpasses : ¬scene.Refuses visit)
    (hlong : scene.service.rules.maxBodySize < scene.service.allowance visit) :
    (scene.response network visit).status = .contentTooLarge := by
  rw [response_eq, Service.status_presented]
  refine (scene.course network visit).status_of_tooLong ?_ ?_ ?_
  · rwa [Service.method_numbered]
  · rw [Service.passesLimit_numbering, Service.passesLimit_numbered]
    exact Bool.not_eq_false _ |>.mp hpasses
  · rw [← Service.allowance_numbered] at hlong
    rwa [Service.numbering_eq]

/-- A visit that is not refused gets the answer from inside of the limit. -/
theorem answer_eq_of_not_refuses (hmethod : visit.request.method ≠ .options)
    (h : ¬scene.Refuses visit) :
    scene.answer network visit = (scene.inside network visit).map fun response =>
      scene.service.presented visit
        (Service.dressed (scene.service.numbered visit).request.headers response) := by
  have hpasses : scene.service.passesLimit visit = true := Bool.not_eq_false _ |>.mp h
  have hinner : scene.inner network visit = _ := inner_eq hmethod
  rw [hpasses, if_pos rfl] at hinner
  have hanswer : scene.answer network visit =
      (scene.inner network visit).map (scene.service.presented visit) := rfl
  rw [hanswer, hinner, Service.Answer.map_map]

/-- A visit of a known client passes if the limit says so. -/
theorem refuses_iff_check {peer : Net.SocketAddress} (hpeer : visit.request.peer = some peer) :
    scene.Refuses visit ↔
      ¬(scene.service.limiter.check peer.ip visit.moments.asked).1 = true := by
  rw [Refuses, Service.passesLimit, hpeer, Bool.not_eq_true]

/-! ### What has no effect -/

/-- A visit leaves the cache and the network alone, and no server is asked on its account. -/
structure IsIdle (network : Client.Network σ) (scene : Scene σ) (visit : Visit) : Prop where
  /-- The cache is what it was. -/
  store : (scene.next network visit).service.store = scene.service.store
  /-- The state of the network is what it was. -/
  state : (scene.next network visit).state = scene.state
  /-- Nothing is exchanged with servers. -/
  exchanges : scene.exchanges network visit = []

/-- A visit that does not reach the proxy leaves the network alone. -/
theorem state_next_of_not_reaches (h : ¬scene.Reaches visit) :
    (scene.next network visit).state = scene.state :=
  ((scene.course network visit).frame_of_not_reaches
    (mt (scene.service.reaches_numbering visit _).mp h)).2

/-- A visit that does not reach the proxy has no effect but that it is counted. -/
theorem isIdle_of_not_reaches (h : ¬scene.Reaches visit) : IsIdle network scene visit where
  store := store_next_of_not_reaches h
  state := state_next_of_not_reaches h
  exchanges := by
    have hrecorded : ¬scene.recorded.Reaches visit := h
    have hstate : (scene.recorded.next network.recorded visit).state = scene.recorded.state :=
      state_next_of_not_reaches hrecorded
    rw [Scene.exchanges, hstate]
    rfl

/-- What is refused, declares too long a body or names a resource does not reach the proxy. -/
theorem not_reaches (h : scene.Refuses visit ∨
    scene.service.rules.maxBodySize < scene.service.allowance visit ∨
      (Service.Resource.ofPath? visit.request.uri.path).isSome = true) : ¬scene.Reaches visit := by
  intro hreaches
  rcases h with hrefuses | hlong | hpath
  · have hpasses := hreaches.inTime
    rw [Service.passesLimit_numbered, hrefuses] at hpasses
    cases hpasses
  · have hshort := hreaches.short
    rw [Service.allowance_numbered] at hshort
    exact Nat.not_le_of_lt hlong hshort
  · have hnone := hreaches.path
    rw [uri_numbered] at hnone
    rw [hnone] at hpath
    cases hpath

/-! ### The whole session -/

/-- The requests of a client in its window, as the last of several visits finds it: the readings of
the clock when they came, that visit included. -/
def windowOf (client : Net.IpAddress) (visits : List Visit) : List Int :=
  RateLimiter.lastWindow (Span.ofSeconds 60).nanoseconds
    (RateLimiter.readingsOf client (checks visits))

/-- The clock is read for one visit after the other. -/
abbrev Chronological (visits : List Visit) : Prop :=
  visits.Pairwise fun earlier later => earlier.moments.asked.reading ≤ later.moments.asked.reading

/-- If the clock is read for one visit after the other, it is read so for the requests that
count. -/
theorem chronological_checks (hclock : Chronological visits) :
    RateLimiter.Chronological (checks visits) := by
  rw [checks, RateLimiter.Chronological, List.pairwise_filterMap]
  refine hclock.imp fun hle check hcheck other hother => ?_
  obtain ⟨peer, -, rfl⟩ := Option.map_eq_some_iff.mp hcheck
  obtain ⟨another, -, rfl⟩ := Option.map_eq_some_iff.mp hother
  exact hle

/-- A visit of a known client is refused if the window of this client holds too many. -/
theorem refuses_iff_windowOf {budget : Nat} {peer : Net.SocketAddress}
    (hlimiter : scene.service.limiter = (RateLimiter.perMinute budget).counting (checks before))
    (hpeer : visit.request.peer = some peer) (hclock : Chronological (before ++ [visit])) :
    scene.Refuses visit ↔ budget < (windowOf peer.ip (before ++ [visit])).length := by
  have hcheck : visit.check? = some ⟨peer.ip, visit.moments.asked⟩ := by
    rw [Visit.check?, hpeer]
    rfl
  have hchecks : checks (before ++ [visit]) =
      checks before ++ [⟨peer.ip, visit.moments.asked⟩] := by
    rw [checks_concat, hcheck]
    rfl
  have hordered := chronological_checks hclock
  rw [hchecks] at hordered
  have hunseen : (RateLimiter.perMinute budget).Unseen peer.ip := Std.HashMap.getElem?_empty
  rw [refuses_iff_check hpeer, hlimiter, RateLimiter.passes_counting_iff hunseen hordered,
    Nat.not_le, windowOf, hchecks]
  rfl

/-- What a budget means for a visit that comes after others. -/
structure HeldToBudget (network : Client.Network σ) (scene : Scene σ) (budget : Nat)
    (before : List Visit) (visit : Visit) : Prop where
  /-- The visit of a known client is refused if, and only if, the window of this client holds more
  requests than the budget. -/
  refuses_iff : ∀ peer, visit.request.peer = some peer →
    (scene.Refuses visit ↔ budget < (windowOf peer.ip (before ++ [visit])).length)
  /-- The visit of an unknown client is not refused, and it counts for nobody. -/
  unknown : visit.request.peer = none → ¬scene.Refuses visit ∧
    (scene.next network visit).service.limiter = scene.service.limiter
  /-- A visit that is refused is told so. -/
  refusal : scene.Refuses visit → Service.IsRefusal visit (scene.response network visit)
  /-- Any other visit gets the answer from inside of the limit, dressed and presented. -/
  admission : ¬scene.Refuses visit →
    scene.answer network visit = (scene.inside network visit).map fun response =>
      scene.service.presented visit
        (Service.dressed (scene.service.numbered visit).request.headers response)
  /-- A visit that is not refused and declares too long a body is told so. -/
  tooLong : ¬scene.Refuses visit →
    scene.service.rules.maxBodySize < scene.service.allowance visit →
    (scene.response network visit).status = .contentTooLarge
  /-- A visit that is refused, declares too long a body or names a resource has no effect on the
  cache or on any server. -/
  idle : scene.Refuses visit ∨ scene.service.rules.maxBodySize < scene.service.allowance visit ∨
      (Service.Resource.ofPath? visit.request.uri.path).isSome = true →
    IsIdle network scene visit

/-- In every session with the service that a configuration gives, each visit is held to the budget
of the configuration, as long as no visit asks what other sites may do and the clock is not set
back. The windows hold all requests of a client, whatever they ask for and whatever became of
them. -/
theorem session_held_to_budget (config : Config) (network : Client.Network σ) (state : σ)
    (hmethods : ∀ other ∈ before ++ [visit], other.request.method ≠ .options)
    (hclock : Chronological (before ++ [visit])) :
    HeldToBudget network ((⟨.ofConfig config, state⟩ : Scene σ).after network before)
      config.requestsPerMinute before visit := by
  have hmethod := hmethods visit (by simp)
  have hlimiter : ((⟨.ofConfig config, state⟩ : Scene σ).after network before).service.limiter =
      (RateLimiter.perMinute config.requestsPerMinute).counting (checks before) :=
    limiter_after fun other hmem => hmethods other (List.mem_append_left _ hmem)
  generalize (⟨.ofConfig config, state⟩ : Scene σ).after network before = scene at hlimiter
  refine ⟨fun peer hpeer => refuses_iff_windowOf hlimiter hpeer hclock, ?_,
    isRefusal_response hmethod, answer_eq_of_not_refuses hmethod,
    status_response_of_tooLong hmethod, fun hidle => isIdle_of_not_reaches (not_reaches hidle)⟩
  · intro hpeer
    have hcheck : visit.check? = none := by rw [Visit.check?, hpeer]; rfl
    refine ⟨?_, by rw [limiter_next hmethod, hcheck]; rfl⟩
    rw [Refuses, Service.passesLimit, hpeer]
    simp

/-- A client asks for the health of the proxy, from one of its ports. -/
def healthVisit (port : Nat) : Visit where
  request :=
    { method := .get
      uri := .origin (Bytes.ofAscii "/_proxy/health") none
      headers := .empty
      body := []
      peer := some ⟨.v4 1, port, 0⟩ }
  moments := Instant.epoch

/-- With a budget of two, the client is refused when it asks for the third time, though each time
from another port. -/
theorem session_held_to_budget_healthVisits :
    let scene := (⟨.ofConfig { rateLimitPerMinute := 2 }, ()⟩ : Scene Unit).after
      (fun _ state => (none, state)) [healthVisit 1, healthVisit 2]
    scene.Refuses (healthVisit 3) ∧
      Service.IsRefusal (healthVisit 3) (scene.response (fun _ state => (none, state))
        (healthVisit 3)) := by
  intro scene
  have hheld : HeldToBudget (fun _ state => (none, state)) scene _ _ (healthVisit 3) :=
    session_held_to_budget { rateLimitPerMinute := 2 } (fun _ state => (none, state)) ()
      (by decide) (by decide)
  have hrefuses : scene.Refuses (healthVisit 3) :=
    (hheld.refuses_iff ⟨.v4 1, 3, 0⟩ rfl).mpr (by decide)
  exact ⟨hrefuses, hheld.refusal hrefuses⟩

end Scene

end ForwardProxy
