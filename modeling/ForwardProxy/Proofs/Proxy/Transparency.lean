import ForwardProxy.Proofs.Proxy.Provenance
import ForwardProxy.Proofs.Proxy.Record

/-!
# The cache does not show

If what servers answer depends on the method and the address alone, every entry of the cache keeps
what a fetch would give. So a client cannot tell from the answers how much the cache may hold, or
whether there is one: they are the same but for the fields in which the proxy says where an answer
comes from.
-/

namespace ForwardProxy

namespace Client

open Http

variable {σ : Type} {network : Network σ}

/-- The replies of servers depend on the method and the address alone, and not on their state. -/
def Network.Static (network : Network σ) : Prop :=
  ∀ (request other : Outgoing) (state otherState : σ),
    request.method = other.method → request.url = other.url →
      (network request state).1 = (network other otherState).1

/-- The method after a redirect depends on the method before it, and not on the rest of the
request. -/
theorem method_redirected {request other : Outgoing} (hmethod : request.method = other.method)
    (status : Status) (next : Url) :
    (request.redirected status next).method = (other.redirected status next).method := by
  unfold Outgoing.redirected
  simp only [hmethod]
  split <;> simp [Outgoing.withoutBody, hmethod]

/-- Requests with the same method and address get the same reply. -/
theorem Network.Static.exists_reply (h : network.Static) {request other : Outgoing}
    (hmethod : request.method = other.method) (hurl : request.url = other.url)
    (state otherState : σ) :
    ∃ reply after otherAfter, network request.sent state = (reply, after) ∧
      network other.sent otherState = (reply, otherAfter) :=
  ⟨_, _, (network other.sent otherState).2, rfl,
    Prod.ext (h request.sent other.sent state otherState hmethod hurl).symm rfl⟩

/-- If replies depend on the method and the address alone, what following redirects gives does so
too. -/
theorem Network.Static.follow (h : network.Static) (target : Url) (hops : Nat)
    {request other : Outgoing} (hmethod : request.method = other.method)
    (hurl : request.url = other.url) (state otherState : σ) :
    (follow network target hops request state).1 =
      (follow network target hops other otherState).1 := by
  induction hops generalizing request other state otherState with
  | zero =>
    obtain ⟨reply, after, otherAfter, hfirst, hsecond⟩ :=
      h.exists_reply hmethod hurl state otherState
    unfold Client.follow
    rw [hfirst, hsecond, hurl]
    cases reply with
    | none => rfl
    | some reply =>
      dsimp only
      cases redirect? other.url reply <;> rfl
  | succ hops ih =>
    obtain ⟨reply, after, otherAfter, hfirst, hsecond⟩ :=
      h.exists_reply hmethod hurl state otherState
    unfold Client.follow
    rw [hfirst, hsecond, hurl]
    cases reply with
    | none => rfl
    | some reply =>
      dsimp only
      cases redirect? other.url reply with
      | none => rfl
      | some next =>
        by_cases hfetchable : isFetchable next = true
        · simp only [if_pos hfetchable]
          exact ih (method_redirected hmethod reply.status next) rfl after otherAfter
        · simp only [if_neg hfetchable]

/-- If replies depend on the method and the address alone, so does what a fetch gives. -/
theorem Network.Static.fetch (h : network.Static) {request other : Outgoing}
    (hmethod : request.method = other.method) (hurl : request.url = other.url)
    (state otherState : σ) :
    (fetch network request state).1 = (fetch network other otherState).1 := by
  unfold Client.fetch
  rw [hurl]
  by_cases hfetchable : isFetchable other.url = true
  · rw [if_pos hfetchable, if_pos hfetchable]
    exact h.follow other.url maxRedirects hmethod hurl state otherState
  · rw [if_neg hfetchable, if_neg hfetchable]

end Client

namespace Proxy

open Http Time

/-- Two responses are the same but for the fields that the proxy itself sets. -/
structure SameButMarks (response other : Response) : Prop where
  /-- The status is the same. -/
  status : response.status = other.status
  /-- The body is the same. -/
  body : response.body = other.body
  /-- All other names have the same values, in order. -/
  values : ∀ name, name ≠ .xCache → name ≠ .xProxyServer →
    response.headers.values name = other.headers.values name

/-- A fetch has a result, and a visit ends with it: with its failure, or with its response, which
was fetched or found. -/
inductive Passes : Except Client.FetchError Response → Outcome → Prop where
  /-- The fetch failed. -/
  | failed (cause : Client.FetchError) : Passes (.error cause) (.failed (.badGateway cause))
  /-- The response was fetched. -/
  | fetched (raw : Response) : Passes (.ok raw) (.fetched (passedOn raw))
  /-- The response was found in the cache. -/
  | found (raw : Response) : Passes (.ok raw) (.found (passedOn raw))

/-- Visits that end with the same result are answered the same but for the marks. -/
theorem Passes.sameButMarks {result : Except Client.FetchError Response} {outcome other : Outcome}
    (h : Passes result outcome) (hother : Passes result other) :
    SameButMarks outcome.response other.response := by
  cases h <;> cases hother <;>
    exact ⟨rfl, rfl, fun name hcache hserver => by
      simp [Outcome.response, hitResponse, missResponse, hcache, hserver]⟩

/-- Every entry of a store keeps what a fetch for its method and address gives. -/
def Mirrors (result : Method → String → Except Client.FetchError Response)
    (store : Cache.Store) : Prop :=
  ∀ (method : Method) (target : Url) (entry : Cache.Entry),
    store.entries[Policy.cacheKey method target]? = some entry →
      ∃ raw, result method target.text = .ok raw ∧
        Cache.StoredResponse.decode entry.value = .ok (passedOn raw)

/-- A new store has no entries. -/
theorem mirrors_new (result : Method → String → Except Client.FetchError Response)
    (capacity : Nat) : Mirrors result (.new capacity) := by
  intro method target entry hentry
  simp [Cache.Store.new] at hentry

namespace Deployment

variable {σ : Type} (deployment : Deployment σ)

/-- What servers answer to some requests depends on the method and the address alone: whatever state
they are in, a fetch for such a request has the result that goes with these. -/
def Static (result : Method → String → Except Client.FetchError Response)
    (requests : List Request) : Prop :=
  ∀ (visit : Visit) (target : Url), visit.request ∈ requests → deployment.Admits visit target →
    ∀ world, (deployment.fetch world visit target).1 = result visit.request.method target.text

/-- What servers answer depends on the method and the address alone, if their replies do and no two
targets of the requests have one text. -/
theorem static_of_network (start : World σ) {requests : List Request}
    (hnetwork : deployment.network.Static)
    (htargets : ∀ request ∈ requests, ∀ other ∈ requests, ∀ target otherTarget,
      Policy.resolveTarget request.uri = .ok target →
        Policy.resolveTarget other.uri = .ok otherTarget →
          target.text = otherTarget.text → target = otherTarget) :
    ∃ result, deployment.Static result requests := by
  have hresult (method : Method) (text : String) :
      ∃ result, ∀ (visit : Visit) (target : Url), visit.request ∈ requests →
        deployment.Admits visit target → visit.request.method = method → target.text = text →
          ∀ world, (deployment.fetch world visit target).1 = result := by
    by_cases hasked : ∃ visit target, visit.request ∈ requests ∧ deployment.Admits visit target ∧
        visit.request.method = method ∧ target.text = text
    · obtain ⟨first, firstTarget, hmem, hadmits, rfl, rfl⟩ := hasked
      refine ⟨(deployment.fetch start first firstTarget).1,
        fun visit target hvisit hother hmethod htext world => ?_⟩
      obtain rfl := htargets _ hvisit _ hmem _ _ hother.resolved hadmits.resolved htext
      refine hnetwork.fetch hmethod ?_ _ _
      unfold Visit.outgoing Client.Outgoing.new
      cases Client.credentials? target <;> rfl
    · exact ⟨.error (.unsuitable none), fun visit target hvisit hother hmethod htext =>
        absurd ⟨visit, target, hvisit, hother, hmethod, htext⟩ hasked⟩
  choose result hresult using hresult
  exact ⟨result, fun visit target hmem hadmits =>
    hresult _ _ visit target hmem hadmits rfl rfl⟩

variable {deployment}
  {result : Method → String → Except Client.FetchError Response} {requests : List Request}
  {world other : World σ} {visit again : Visit}

/-- A visit leaves nothing in the cache but what a fetch gives. -/
theorem Static.mirrors_next (h : deployment.Static result requests)
    (hmem : visit.request ∈ requests) (hmirrors : Mirrors result world.store) :
    Mirrors result (deployment.next world visit).store := by
  intro method target entry hentry
  have hreadable (hbefore : world.store.entries[Policy.cacheKey method target]? = some entry) :
      ∃ response, Cache.StoredResponse.decode entry.value = .ok response := by
    obtain ⟨raw, -, hdecode⟩ := hmirrors method target entry hbefore
    exact ⟨_, hdecode⟩
  rcases deployment.entry_of_next hreadable hentry with
    ⟨hbefore, -⟩ | ⟨fetchedTarget, raw, hkeeps, hkey, rfl⟩
  · exact hmirrors method target entry hbefore
  · obtain ⟨rfl, htext⟩ := Policy.cacheKey_inj hkey
    have hfetched := hkeeps.fetched
    rw [h visit fetchedTarget hmem hkeeps.admits] at hfetched
    exact ⟨raw, htext ▸ hfetched, Visit.decode_entry _ _⟩

/-- A visit whose target may be fetched from ends with what a fetch gives, whether it is fetched or
found. -/
theorem Static.passes (h : deployment.Static result requests) (hmem : visit.request ∈ requests)
    (hmirrors : Mirrors result world.store) {target : Url} (hadmits : deployment.Admits visit target)
    (hshort : visit.request.body.length ≤ deployment.rules.maxBodySize) :
    Passes (result visit.request.method target.text) (deployment.answer world visit).outcome := by
  have hresult := h visit target hmem hadmits world
  have hturn := deployment.turn_answer world visit
  generalize deployment.answer world visit = answer at hturn
  cases hturn with
  | refused hnone => exact absurd hadmits (hnone target)
  | found hother hfound =>
    obtain rfl := hadmits.unique hother
    obtain ⟨-, entry, hentry, -, hdecode⟩ := Visit.lookUp_eq_some.mp hfound
    obtain ⟨raw, hraw, hsame⟩ := hmirrors _ _ entry hentry
    rw [hraw, Except.ok.inj (hdecode.symm.trans hsame)]
    exact .found raw
  | unread _ _ hlong => exact absurd hlong (Nat.not_lt.mpr hshort)
  | unanswered hother _ hfetch =>
    obtain rfl := hadmits.unique hother
    rw [← hresult, hfetch]
    exact .failed _
  | fetched hother _ hfetch =>
    obtain rfl := hadmits.unique hother
    rw [← hresult, hfetch]
    exact .fetched _

/-- How a visit without a target that may be fetched from ends is up to its request alone. -/
theorem outcome_eq_of_not_admits (hnone : ∀ target, ¬deployment.Admits visit target)
    (hsame : again.request = visit.request) (world other : World σ) :
    (deployment.answer world visit).outcome = (deployment.answer other again).outcome := by
  unfold answer handle handleWithin
  rw [hsame]
  cases hresolved : Policy.resolveTarget visit.request.uri with
  | error cause => rfl
  | ok target =>
    have hforbidden : ¬deployment.rules.domains.allows (Policy.targetHost target) = true :=
      fun hallowed => hnone target ⟨hresolved, hallowed⟩
    simp only [if_neg hforbidden]

/-- A request is answered the same in any two worlds whose caches keep only what fetches give. -/
theorem Static.sameButMarks (h : deployment.Static result requests)
    (hmem : visit.request ∈ requests) (hsame : again.request = visit.request)
    (hshort : visit.request.body.length ≤ deployment.rules.maxBodySize)
    (hworld : Mirrors result world.store) (hother : Mirrors result other.store) :
    SameButMarks (deployment.answer world visit).response
      (deployment.answer other again).response := by
  by_cases hadmits : ∃ target, deployment.Admits visit target
  · obtain ⟨target, hadmits⟩ := hadmits
    have hagain : deployment.Admits again target := ⟨hsame ▸ hadmits.resolved, hadmits.allowed⟩
    have hpasses := h.passes (hsame ▸ hmem) hother hagain (hsame ▸ hshort)
    rw [hsame] at hpasses
    exact (h.passes hmem hworld hadmits hshort).sameButMarks hpasses
  · have houtcome :=
      deployment.outcome_eq_of_not_admits (not_exists.mp hadmits) hsame world other
    rw [Answer.response, Answer.response, houtcome]
    exact ⟨rfl, rfl, fun _ _ _ => rfl⟩

/-- Requests are answered the same in two runs that begin in worlds whose caches keep only what
fetches give. -/
theorem Static.forall₂_accounts (h : deployment.Static result requests) {visits others : List Visit}
    (hmem : ∀ visit ∈ visits, visit.request ∈ requests)
    (hsame : others.map (·.request) = visits.map (·.request))
    (hshort : ∀ visit ∈ visits, visit.request.body.length ≤ deployment.rules.maxBodySize)
    (hworld : Mirrors result world.store) (hother : Mirrors result other.store) :
    List.Forall₂ (fun account again => SameButMarks account.response again.response)
      (deployment.accounts world visits) (deployment.accounts other others) := by
  induction visits generalizing world other others with
  | nil =>
    obtain rfl : others = [] := by simpa using hsame
    exact .nil
  | cons visit visits ih =>
    obtain ⟨again, others, rfl, hagain, hrest⟩ := List.map_eq_cons_iff.mp hsame
    rw [List.forall_mem_cons] at hmem hshort
    have hagainMem : again.request ∈ requests := hagain ▸ hmem.1
    exact .cons (h.sameButMarks hmem.1 hagain hshort.1 hworld hother)
      (ih hmem.2 hrest hshort.2 (h.mirrors_next hmem.1 hworld) (h.mirrors_next hagainMem hother))

/-- Let what servers answer to the requests of a run depend on the method and the address alone, and
let no body be too long. Then the same requests are answered the same in any other run, whatever the
two caches may hold, one of them nothing perhaps, and whatever the clock shows: each request gets
the same status, the same body, and the same values of every name but for the two by which the proxy
marks its answers. -/
theorem answers_same_for_any_capacity {visits others : List Visit}
    (hstatic : deployment.Static result (visits.map (·.request)))
    (hshort : ∀ visit ∈ visits, visit.request.body.length ≤ deployment.rules.maxBodySize)
    (hsame : others.map (·.request) = visits.map (·.request))
    (capacity otherCapacity : Nat) (state otherState : σ) :
    List.Forall₂ (fun account again => SameButMarks account.response again.response)
      (deployment.accounts (.fresh capacity state) visits)
      (deployment.accounts (.fresh otherCapacity otherState) others) :=
  hstatic.forall₂_accounts (fun _ hvisit => List.mem_map_of_mem hvisit) hsame hshort
    (mirrors_new result capacity) (mirrors_new result otherCapacity)

/-- With room for one entry the second visit to a server that always says the same finds its answer in
the cache. Without room it does not, and is answered the same. -/
theorem answers_same_for_any_capacity_steady :
    let deployment := steady SteadyServer.greeting
    let visits := [SteadyServer.visit, SteadyServer.visit]
    ∃ result, deployment.Static result (visits.map (·.request)) ∧
      (∀ visit ∈ visits, visit.request.body.length ≤ deployment.rules.maxBodySize) ∧
      (deployment.answer (deployment.after (.fresh 1 ()) [SteadyServer.visit])
        SteadyServer.visit).outcome = .found (passedOn SteadyServer.greeting) ∧
      List.Forall₂ (fun account again => SameButMarks account.response again.response)
        (deployment.accounts (.fresh 1 ()) visits) (deployment.accounts (.fresh 0 ()) visits) := by
  intro deployment visits
  have hnetwork : deployment.network.Static := fun _ _ _ _ _ _ => rfl
  have htargets : ∀ request ∈ visits.map (·.request), ∀ other ∈ visits.map (·.request),
      ∀ target otherTarget, Policy.resolveTarget request.uri = .ok target →
        Policy.resolveTarget other.uri = .ok otherTarget →
          target.text = otherTarget.text → target = otherTarget := by
    intro request hrequest other hother target otherTarget htarget hotherTarget _
    simp only [visits, List.map_cons, List.map_nil, List.mem_cons, List.not_mem_nil, or_false,
      or_self] at hrequest hother
    rw [hrequest, SteadyServer.resolveTarget_visit] at htarget
    rw [hother, SteadyServer.resolveTarget_visit] at hotherTarget
    exact (Except.ok.inj htarget).symm.trans (Except.ok.inj hotherTarget)
  obtain ⟨result, hstatic⟩ := deployment.static_of_network (.fresh 0 ()) hnetwork htargets
  have hshort : ∀ visit ∈ visits, visit.request.body.length ≤ deployment.rules.maxBodySize := by
    simp [visits, SteadyServer.visit]
  exact ⟨result, hstatic, hshort,
    SteadyServer.outcome_second SteadyServer.greeting (by decide) (by decide) Nat.one_pos,
    answers_same_for_any_capacity hstatic hshort rfl 1 0 () ()⟩

end Deployment

end Proxy

end ForwardProxy
