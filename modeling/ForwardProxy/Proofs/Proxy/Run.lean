import ForwardProxy.Proofs.Proxy.Visit
import Mathlib.Data.List.Induction

/-!
# Runs of the proxy

Requests reach the proxy one after another. Each finds the cache and the network as the one before
it left them, and comes with readings of the clock that need not be related to earlier ones. `Turn`
lists the ways in which a request can end, with what each does to the cache, and every fact about
runs is drawn from it.
-/

namespace ForwardProxy.Proxy

open Http Time

/-- A proxy with the network that it reaches. -/
structure Deployment (σ : Type) where
  /-- What the proxy goes by. -/
  rules : Rules
  /-- How servers answer. -/
  network : Client.Network σ

/-- What one request leaves to the next. -/
structure World (σ : Type) where
  /-- The cache. -/
  store : Cache.Store
  /-- The state of the network. -/
  state : σ

/-- A world in which nothing is kept yet. -/
def World.fresh {σ : Type} (capacity : Nat) (state : σ) : World σ := ⟨.new capacity, state⟩

/-- A server was asked. -/
def Outcome.IsFetch : Outcome → Prop
  | fetched _ | failed (.badGateway _) => True
  | _ => False

namespace Deployment

variable {σ : Type} (deployment : Deployment σ)

/-- What becomes of a visit. -/
def answer (world : World σ) (visit : Visit) : Answer σ :=
  handle deployment.rules deployment.network visit.moments visit.request world.store world.state

/-- The world after a visit. -/
def next (world : World σ) (visit : Visit) : World σ :=
  ⟨(deployment.answer world visit).store, (deployment.answer world visit).state⟩

/-- The world after visits. -/
def after (world : World σ) (visits : List Visit) : World σ := visits.foldl deployment.next world

/-- What a fetch gives for the request of a visit. -/
def fetch (world : World σ) (visit : Visit) (target : Url) :
    Except Client.FetchError Response × σ :=
  Client.fetch deployment.network (visit.outgoing target) world.state

/-- A visit is for a target that may be fetched from. -/
structure Admits (visit : Visit) (target : Url) : Prop where
  /-- The request names the target. -/
  resolved : Policy.resolveTarget visit.request.uri = .ok target
  /-- Its host is allowed. -/
  allowed : deployment.rules.domains.allows (Policy.targetHost target) = true

/-- A visit is for one target. -/
theorem Admits.unique {deployment : Deployment σ} {visit : Visit} {target other : Url}
    (h : deployment.Admits visit target) (hother : deployment.Admits visit other) :
    target = other := by
  simpa [h.resolved] using hother.resolved

/-- The ways in which a visit can end. -/
inductive Turn (world : World σ) (visit : Visit) : Answer σ → Prop where
  /-- The visit has no target that may be fetched from. The cache is not touched. -/
  | refused {failure : Failure} (hnone : ∀ target, ¬deployment.Admits visit target)
    (hfailure : ∀ cause, failure ≠ .badGateway cause) :
    Turn world visit ⟨.failed failure, world.store, world.state⟩
  /-- The cache answers the visit. -/
  | found {target : Url} {stored : Response} (hadmits : deployment.Admits visit target)
    (hfound : (visit.lookUp target world.store).1 = some stored) :
    Turn world visit ⟨.found stored, (visit.lookUp target world.store).2, world.state⟩
  /-- The cache does not answer the visit, and its body is too long. -/
  | unread {target : Url} (hadmits : deployment.Admits visit target)
    (hmissed : (visit.lookUp target world.store).1 = none)
    (hlong : deployment.rules.maxBodySize < visit.request.body.length) :
    Turn world visit
      ⟨.failed (.invalidBody tooLong), (visit.lookUp target world.store).2, world.state⟩
  /-- The cache does not answer the visit, and the fetch fails. -/
  | unanswered {target : Url} {cause : Client.FetchError}
    (hadmits : deployment.Admits visit target)
    (hmissed : (visit.lookUp target world.store).1 = none)
    (hfetch : (deployment.fetch world visit target).1 = .error cause)
    (hshort : visit.request.body.length ≤ deployment.rules.maxBodySize) :
    Turn world visit
      ⟨.failed (.badGateway cause), (visit.lookUp target world.store).2,
        (deployment.fetch world visit target).2⟩
  /-- The cache does not answer the visit, and a server does. The response is kept if it may be. -/
  | fetched {target : Url} {raw : Response} (hadmits : deployment.Admits visit target)
    (hmissed : (visit.lookUp target world.store).1 = none)
    (hfetch : (deployment.fetch world visit target).1 = .ok raw)
    (hshort : visit.request.body.length ≤ deployment.rules.maxBodySize) :
    Turn world visit
      ⟨.fetched (passedOn raw),
        visit.keep target deployment.rules (passedOn raw) (visit.lookUp target world.store).2,
        (deployment.fetch world visit target).2⟩

/-- A visit for a target is answered by the cache, or passed on. -/
theorem answerFor_eq (world : World σ) (visit : Visit) (target : Url) :
    answerFor deployment.rules deployment.network deployment.rules.maxBodySize visit.moments
        visit.request target world.store world.state =
      match visit.lookUp target world.store with
      | (some stored, store) => ⟨.found stored, store, world.state⟩
      | (none, store) =>
        forward deployment.rules deployment.network deployment.rules.maxBodySize visit.moments
          visit.request target store world.state := by
  unfold answerFor Visit.lookUp
  by_cases hasks : visit.AsksCache
  · rw [if_pos hasks, if_pos hasks]
    rfl
  · rw [if_neg hasks, if_neg hasks]

/-- A visit that the cache does not answer ends in one of three ways. -/
theorem turn_forward {world : World σ} {visit : Visit} {target : Url}
    (hadmits : deployment.Admits visit target)
    (hmissed : (visit.lookUp target world.store).1 = none) :
    deployment.Turn world visit
      (forward deployment.rules deployment.network deployment.rules.maxBodySize visit.moments
        visit.request target (visit.lookUp target world.store).2 world.state) := by
  unfold forward
  by_cases hlong : deployment.rules.maxBodySize < visit.request.body.length
  · rw [if_pos hlong]
    exact .unread hadmits hmissed hlong
  · have hfetchFor : fetchFor deployment.network visit.request target world.state =
        ((deployment.fetch world visit target).1.map passedOn,
          (deployment.fetch world visit target).2) := rfl
    rw [if_neg hlong, hfetchFor]
    cases hfetch : (deployment.fetch world visit target).1 with
    | error cause => exact .unanswered hadmits hmissed hfetch (Nat.le_of_not_lt hlong)
    | ok raw =>
      have h := Turn.fetched hadmits hmissed hfetch (Nat.le_of_not_lt hlong)
      simp only [Visit.keep, ← Bool.and_eq_true] at h
      exact h

/-- Every visit ends in one of the five ways. -/
theorem turn_answer (world : World σ) (visit : Visit) :
    deployment.Turn world visit (deployment.answer world visit) := by
  unfold answer handle handleWithin
  cases hresolved : Policy.resolveTarget visit.request.uri with
  | error cause =>
    refine .refused (fun target hadmits => ?_) ?_
    · have hok := hadmits.resolved
      rw [hresolved] at hok
      cases hok
    · cases cause <;> simp [Failure.ofTargetError]
  | ok target =>
    by_cases hallowed : deployment.rules.domains.allows (Policy.targetHost target) = true
    · have hadmits : deployment.Admits visit target := ⟨hresolved, hallowed⟩
      simp only [if_pos hallowed, answerFor_eq]
      rcases hlookUp : visit.lookUp target world.store with ⟨_ | stored, store⟩
      · have h := deployment.turn_forward hadmits (by rw [hlookUp])
        rwa [hlookUp] at h
      · have h := Turn.found hadmits (by rw [hlookUp])
        rwa [hlookUp] at h
    · simp only [if_neg hallowed]
      refine .refused (fun other hadmits => hallowed ?_) (by simp)
      obtain rfl : target = other := by simpa [hresolved] using hadmits.resolved
      exact hadmits.allowed

/-- What a visit that is passed on ends with, and what it leaves of the network, is not up to the
cache. -/
theorem forward_congr (visit : Visit) (target : Url) (store other : Cache.Store) (state : σ) :
    let passed (store : Cache.Store) :=
      forward deployment.rules deployment.network deployment.rules.maxBodySize visit.moments
        visit.request target store state
    (passed store).outcome = (passed other).outcome ∧
      (passed store).state = (passed other).state := by
  intro passed
  simp only [passed, forward]
  by_cases hlong : deployment.rules.maxBodySize < visit.request.body.length
  · simp only [if_pos hlong, and_self]
  · simp only [if_neg hlong]
    rcases fetchFor deployment.network visit.request target state with ⟨_ | raw, after⟩ <;>
      exact ⟨rfl, rfl⟩

/-- Two caches that do not answer a visit let it end in the same way, with the network in the same
state. -/
theorem answer_congr_of_missed {store other : Cache.Store} (state : σ) {visit : Visit}
    (hmissed : ∀ target, deployment.Admits visit target → (visit.lookUp target store).1 = none)
    (hother : ∀ target, deployment.Admits visit target → (visit.lookUp target other).1 = none) :
    (deployment.answer ⟨store, state⟩ visit).outcome =
        (deployment.answer ⟨other, state⟩ visit).outcome ∧
      (deployment.answer ⟨store, state⟩ visit).state =
        (deployment.answer ⟨other, state⟩ visit).state := by
  unfold answer handle handleWithin
  cases hresolved : Policy.resolveTarget visit.request.uri with
  | error cause => exact ⟨rfl, rfl⟩
  | ok target =>
    by_cases hallowed : deployment.rules.domains.allows (Policy.targetHost target) = true
    · have hnone := hmissed target ⟨hresolved, hallowed⟩
      have hnoneOther := hother target ⟨hresolved, hallowed⟩
      have hfirst := deployment.answerFor_eq ⟨store, state⟩ visit target
      have hsecond := deployment.answerFor_eq ⟨other, state⟩ visit target
      simp only [if_pos hallowed, hfirst, hsecond]
      rcases hlookUp : visit.lookUp target store with ⟨_ | stored, left⟩
      · rcases hlookUpOther : visit.lookUp target other with ⟨_ | stored, leftOther⟩
        · exact deployment.forward_congr visit target left leftOther state
        · simp [hlookUpOther] at hnoneOther
      · simp [hlookUp] at hnone
    · simp only [if_neg hallowed, and_self]

/-- A visit that the cache answers ends with what it answers. -/
theorem outcome_of_found {world : World σ} {visit : Visit} {target : Url} {stored : Response}
    (hadmits : deployment.Admits visit target)
    (hfound : (visit.lookUp target world.store).1 = some stored) :
    (deployment.answer world visit).outcome = .found stored := by
  have hturn := deployment.turn_answer world visit
  generalize deployment.answer world visit = answer at hturn ⊢
  cases hturn with
  | refused hnone => exact absurd hadmits (hnone target)
  | found hother hsame =>
    obtain rfl := hadmits.unique hother
    rw [hfound] at hsame
    rw [Option.some.inj hsame]
  | unread hother hmissed =>
    obtain rfl := hadmits.unique hother
    simp [hfound] at hmissed
  | unanswered hother hmissed =>
    obtain rfl := hadmits.unique hother
    simp [hfound] at hmissed
  | fetched hother hmissed =>
    obtain rfl := hadmits.unique hother
    simp [hfound] at hmissed

/-- What a visit finds is what the cache answers. -/
theorem lookUp_of_found {world : World σ} {visit : Visit} {stored : Response}
    (hfound : (deployment.answer world visit).outcome = .found stored) :
    ∃ target, deployment.Admits visit target ∧
      (visit.lookUp target world.store).1 = some stored := by
  have hturn := deployment.turn_answer world visit
  generalize deployment.answer world visit = answer at hturn hfound
  cases hturn with
  | @found target _ hadmits hlookUp =>
    obtain rfl := Outcome.found.inj hfound
    exact ⟨target, hadmits, hlookUp⟩
  | _ => cases hfound

/-- What a visit fetches is the response of a fetch for its target, about which the cache had no
answer. -/
theorem fetch_of_fetched {world : World σ} {visit : Visit} {response : Response}
    (hfetched : (deployment.answer world visit).outcome = .fetched response) :
    ∃ target raw, deployment.Admits visit target ∧ (visit.lookUp target world.store).1 = none ∧
      visit.request.body.length ≤ deployment.rules.maxBodySize ∧
      (deployment.fetch world visit target).1 = .ok raw := by
  have hturn := deployment.turn_answer world visit
  generalize deployment.answer world visit = answer at hturn hfetched
  cases hturn with
  | @fetched target raw hadmits hmissed hfetch hshort =>
    exact ⟨target, raw, hadmits, hmissed, hshort, hfetch⟩
  | _ => cases hfetched

/-- A visit that the cache does not answer ends with what is fetched, if its body is not too
long. -/
theorem outcome_of_fetched {world : World σ} {visit : Visit} {target : Url} {raw : Response}
    (hadmits : deployment.Admits visit target)
    (hmissed : (visit.lookUp target world.store).1 = none)
    (hshort : visit.request.body.length ≤ deployment.rules.maxBodySize)
    (hfetch : (deployment.fetch world visit target).1 = .ok raw) :
    (deployment.answer world visit).outcome = .fetched (passedOn raw) := by
  have hturn := deployment.turn_answer world visit
  generalize deployment.answer world visit = answer at hturn ⊢
  cases hturn with
  | refused hnone => exact absurd hadmits (hnone target)
  | found hother hfound =>
    obtain rfl := hadmits.unique hother
    simp [hmissed] at hfound
  | unread hother hmissed hlong => omega
  | unanswered hother hmissed hfailed =>
    obtain rfl := hadmits.unique hother
    simp [hfetch] at hfailed
  | fetched hother hmissed hsame =>
    obtain rfl := hadmits.unique hother
    rw [hfetch] at hsame
    rw [Except.ok.inj hsame]

/-- The last visit of a run finds the world as the visits before it left it. -/
theorem after_concat (world : World σ) (visits : List Visit) (visit : Visit) :
    deployment.after world (visits ++ [visit]) =
      deployment.next (deployment.after world visits) visit := by
  simp [after]

/-- A visit about which the cache is not asked leaves it alone. -/
theorem store_next_of_unasked {world : World σ} {visit : Visit}
    (h : ∀ target, deployment.Admits visit target → ¬visit.AsksCache) :
    (deployment.next world visit).store = world.store := by
  have hlookUp {target : Url} (hadmits : deployment.Admits visit target) :
      (visit.lookUp target world.store).2 = world.store := by
    rw [Visit.lookUp, if_neg (h target hadmits)]
  have hturn := deployment.turn_answer world visit
  unfold next
  generalize deployment.answer world visit = answer at hturn ⊢
  cases hturn with
  | refused => rfl
  | found hadmits => exact hlookUp hadmits
  | unread hadmits => exact hlookUp hadmits
  | unanswered hadmits => exact hlookUp hadmits
  | fetched hadmits =>
    rw [Visit.keep, if_neg fun hkept => h _ hadmits hkept.1]
    exact hlookUp hadmits

/-- A visit keeps the cache in order. -/
theorem inOrder_next {world : World σ} {capacity : Nat} (h : world.store.InOrder capacity)
    (visit : Visit) : (deployment.next world visit).store.InOrder capacity := by
  have hturn := deployment.turn_answer world visit
  unfold next
  generalize deployment.answer world visit = answer at hturn ⊢
  cases hturn with
  | refused => exact h
  | found => exact Visit.inOrder_lookUp h
  | unread => exact Visit.inOrder_lookUp h
  | unanswered => exact Visit.inOrder_lookUp h
  | fetched => exact Visit.inOrder_keep (Visit.inOrder_lookUp h) _ _

/-- The cache is in order throughout a run. -/
theorem inOrder_after (capacity : Nat) (state : σ) (visits : List Visit) :
    (deployment.after (.fresh capacity state) visits).store.InOrder capacity := by
  induction visits using List.reverseRecOn with
  | nil => exact Cache.Store.inOrder_new capacity
  | append_singleton visits visit ih =>
    rw [after_concat]
    exact deployment.inOrder_next ih visit

/-- A response that was fetched and may be kept is in the cache after the visit, if that asks the
cache and the cache may hold something. -/
theorem entry_of_fetched {world : World σ} {capacity : Nat} (h : world.store.InOrder capacity)
    (hpos : 0 < capacity) {visit : Visit} {response : Response}
    (hfetched : (deployment.answer world visit).outcome = .fetched response)
    (hasks : visit.AsksCache)
    (hcacheable : Policy.responseCacheable response.status response.headers = true) :
    ∃ target, deployment.Admits visit target ∧
      (deployment.next world visit).store.entries[visit.key target]? =
        some (visit.entry target deployment.rules response) := by
  have hturn := deployment.turn_answer world visit
  unfold next
  generalize deployment.answer world visit = answer at hturn hfetched ⊢
  cases hturn with
  | @fetched target raw hadmits =>
    obtain rfl := Outcome.fetched.inj hfetched
    exact ⟨target, hadmits,
      Visit.getElem?_keep (Visit.inOrder_lookUp h) hpos hasks hcacheable⟩
  | _ => cases hfetched

/-- Once a response was fetched that may be kept, whoever asks for the same in time is answered with
it by the cache, if the cache is asked. -/
theorem outcome_shared {world : World σ} {capacity : Nat} (h : world.store.InOrder capacity)
    (hpos : 0 < capacity) {visit again : Visit} {response : Response}
    (hfetched : (deployment.answer world visit).outcome = .fetched response)
    (hasks : visit.AsksCache)
    (hcacheable : Policy.responseCacheable response.status response.headers = true)
    (huri : again.request.uri = visit.request.uri)
    (hmethod : again.request.method = visit.request.method) (hagain : again.AsksCache)
    (hlive : ∀ last ∈ Cache.expiryAfter? visit.moments.received
      (visit.lifetime? deployment.rules response), ¬last < again.moments.asked) :
    (deployment.answer (deployment.next world visit) again).outcome = .found response := by
  obtain ⟨target, hadmits, hentry⟩ :=
    deployment.entry_of_fetched h hpos hfetched hasks hcacheable
  have hkey : again.key target = visit.key target := by rw [Visit.key, hmethod, Visit.key]
  refine deployment.outcome_of_found ⟨huri ▸ hadmits.resolved, hadmits.allowed⟩
    (Visit.lookUp_eq_some.mpr ⟨hagain, _, hkey ▸ hentry, ?_, Visit.decode_entry _ _⟩)
  rw [Bool.eq_false_iff, Ne, Cache.Entry.expired_iff]
  rintro ⟨last, hlast, hpast⟩
  exact hlive last hlast hpast

/-- Once a response was fetched that may be kept, the cache answers the same request with it, if
that comes again in time. -/
theorem outcome_again {world : World σ} {capacity : Nat} (h : world.store.InOrder capacity)
    (hpos : 0 < capacity) {visit : Visit} {response : Response}
    (hfetched : (deployment.answer world visit).outcome = .fetched response)
    (hasks : visit.AsksCache)
    (hcacheable : Policy.responseCacheable response.status response.headers = true)
    {moments : Moments}
    (hlive : ∀ last ∈ Cache.expiryAfter? visit.moments.received
      (visit.lifetime? deployment.rules response), ¬last < moments.asked) :
    (deployment.answer (deployment.next world visit) ⟨visit.request, moments⟩).outcome =
      .found response :=
  deployment.outcome_shared h hpos hfetched hasks hcacheable rfl rfl hasks hlive

end Deployment

end ForwardProxy.Proxy
