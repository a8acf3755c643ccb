import ForwardProxy.Proofs.Cache.WorkingSet
import ForwardProxy.Proofs.Proxy.AllowedHosts
import ForwardProxy.Proofs.Proxy.Provenance

/-!
# What the cache must still know

A response that a visit keeps is found by every later visit that asks the cache for the same method
and target in time, as long as the cache was asked under fewer other keys in between than it may
have entries. It does not matter how often it was asked, how those visits ended, and what came
between them that does not ask the cache.
-/

namespace ForwardProxy.Proxy

open Http Time

namespace Visit

variable {visit : Visit} {target : Url} {store : Cache.Store} {capacity : Nat}
  {used : Finset String} {entry : Cache.Entry}

/-- Asking the cache keeps a live entry among those of the last keys. -/
theorem recent_lookUp (h : store.Recent capacity used entry) (hown : entry.key ∉ used)
    (hlive : entry.expired visit.moments.asked = false)
    (hkey : visit.AsksCache → visit.key target = entry.key ∨ visit.key target ∈ used) :
    (visit.lookUp target store).2.Recent capacity used entry := by
  unfold lookUp
  by_cases hasks : visit.AsksCache
  · rw [if_pos hasks]
    rcases hkey hasks with hsame | hused
    · rw [hsame]
      exact h.get_self hlive
    · exact h.get_other (ne_of_mem_of_not_mem hused hown).symm hused _
  · rw [if_neg hasks]
    exact h

/-- Keeping a response under another key keeps a live entry among those of the last keys, if there
are fewer keys than the cache may have entries. -/
theorem recent_keep (h : store.Recent capacity used entry) (hown : entry.key ∉ used)
    (hcard : used.card < capacity) (hkey : visit.AsksCache → visit.key target ∈ used)
    (rules : Rules) (response : Response) :
    (visit.keep target rules response store).Recent capacity used entry := by
  unfold keep
  split
  · next hkept =>
    have hused := hkey hkept.1
    exact h.set_other (ne_of_mem_of_not_mem hused hown).symm hused hcard _ _ _
  · exact h

/-- The cache answers with what a live entry of its keeps. -/
theorem lookUp_of_recent (h : store.Recent capacity used entry) (hasks : visit.AsksCache)
    (hkey : visit.key target = entry.key) (hlive : entry.expired visit.moments.asked = false)
    {response : Response} (hdecode : Cache.StoredResponse.decode entry.value = .ok response) :
    (visit.lookUp target store).1 = some response :=
  lookUp_eq_some.mpr ⟨hasks, entry, hkey ▸ h.getElem?, hlive, hdecode⟩

end Visit

namespace Deployment

variable {σ : Type} (deployment : Deployment σ)

/-- The key under which the cache is asked about a visit, if it is. -/
def keyAsked? (visit : Visit) : Option String :=
  match Policy.resolveTarget visit.request.uri with
  | .ok target =>
    if deployment.Allows target ∧ visit.AsksCache then some (visit.key target) else none
  | .error _ => none

/-- The keys, other than one, under which the cache is asked about some visits. -/
def otherKeys (visits : List Visit) (key : String) : Finset String :=
  (visits.filterMap deployment.keyAsked?).toFinset.erase key

/-- A visit for an allowed host asks under its own key. -/
theorem keyAsked?_of_admits {visit : Visit} {target : Url}
    (hadmits : deployment.Admits visit target) (hasks : visit.AsksCache) :
    deployment.keyAsked? visit = some (visit.key target) := by
  rw [keyAsked?, hadmits.resolved]
  exact if_pos ⟨hadmits.allowed, hasks⟩

/-- A key of some visits is one of the others or the one that is left out. -/
theorem eq_or_mem_otherKeys {visits : List Visit} {visit : Visit} (hmem : visit ∈ visits)
    {key other : String} (hkey : deployment.keyAsked? visit = some key) :
    key = other ∨ key ∈ deployment.otherKeys visits other := by
  rw [otherKeys, Finset.mem_erase, List.mem_toFinset, List.mem_filterMap]
  exact or_iff_not_imp_left.mpr fun hother => ⟨hother, visit, hmem, hkey⟩

variable {capacity : Nat} {used : Finset String} {entry : Cache.Entry} {response : Response}

/-- A visit in the lifetime of an entry leaves it in the cache, if it asks under its key or under
one of fewer others than the cache may have entries. -/
theorem recent_next {world : World σ} (h : world.store.Recent capacity used entry)
    (hdecode : Cache.StoredResponse.decode entry.value = .ok response) (hown : entry.key ∉ used)
    (hcard : used.card < capacity) {visit : Visit}
    (hlive : entry.expired visit.moments.asked = false)
    (hkey : ∀ key, deployment.keyAsked? visit = some key → key = entry.key ∨ key ∈ used) :
    (deployment.next world visit).store.Recent capacity used entry := by
  have hvisit {target : Url} (hadmits : deployment.Admits visit target) (hasks : visit.AsksCache) :
      visit.key target = entry.key ∨ visit.key target ∈ used :=
    hkey _ (deployment.keyAsked?_of_admits hadmits hasks)
  have hturn := deployment.turn_answer world visit
  unfold next
  generalize deployment.answer world visit = answer at hturn ⊢
  cases hturn with
  | refused => exact h
  | found hadmits => exact Visit.recent_lookUp h hown hlive (hvisit hadmits)
  | unread hadmits => exact Visit.recent_lookUp h hown hlive (hvisit hadmits)
  | unanswered hadmits => exact Visit.recent_lookUp h hown hlive (hvisit hadmits)
  | fetched hadmits hmissed =>
    refine Visit.recent_keep (Visit.recent_lookUp h hown hlive (hvisit hadmits)) hown hcard
      (fun hasks => (hvisit hadmits hasks).resolve_left fun hsame => ?_) _ _
    -- Under the key of the entry the cache would have answered.
    rw [Visit.lookUp_of_recent h hasks hsame hlive hdecode] at hmissed
    cases hmissed

/-- Any number of visits in the lifetime of an entry leave it in the cache, if each asks under its
key or one of few others. -/
theorem recent_after {world : World σ} (h : world.store.Recent capacity used entry)
    (hdecode : Cache.StoredResponse.decode entry.value = .ok response) (hown : entry.key ∉ used)
    (hcard : used.card < capacity) {visits : List Visit}
    (hlive : ∀ visit ∈ visits, entry.expired visit.moments.asked = false)
    (hkey : ∀ visit ∈ visits, ∀ key, deployment.keyAsked? visit = some key →
      key = entry.key ∨ key ∈ used) :
    (deployment.after world visits).store.Recent capacity used entry := by
  induction visits generalizing world with
  | nil => exact h
  | cons visit visits ih =>
    rw [List.forall_mem_cons] at hlive hkey
    exact ih (deployment.recent_next h hdecode hown hcard hlive.1 hkey.1) hlive.2 hkey.2

/-- A visit that keeps a response leaves its entry in front of all others. -/
theorem Keeps.recent_next {deployment : Deployment σ} {world : World σ}
    (h : world.store.InOrder capacity) (hpos : 0 < capacity) {origin : Visit} {target : Url}
    {raw : Response} (hkeeps : deployment.Keeps world origin target raw) :
    (deployment.next world origin).store.Recent capacity used
      (origin.entry target deployment.rules (passedOn raw)) := by
  have hturn := deployment.turn_answer world origin
  have houtcome := hkeeps.outcome
  unfold next
  generalize deployment.answer world origin = answer at hturn houtcome ⊢
  cases hturn with
  | @fetched other _ hadmits =>
    obtain rfl := hadmits.unique hkeeps.admits
    rw [← Outcome.fetched.inj houtcome]
    have hcacheable := (responseCacheable_passedOn raw).trans hkeeps.cacheable
    rw [← Outcome.fetched.inj houtcome] at hcacheable
    rw [Visit.keep, if_pos ⟨hkeeps.asks, hcacheable⟩]
    exact (Visit.inOrder_lookUp h).recent_set hpos _ _ _ _ _
  | _ => cases houtcome

/-- Once a visit of a run from an empty cache keeps a response, every later visit that asks the
cache for the same method and the text of the same target is answered with that response from the
cache and has no exchanges, under three conditions: no visit in between came at a later reading of
the clock; the time to live of the response, if it has one other than zero that ends at an instant,
is not over; and the visits in between asked under fewer other keys than the cache may have
entries. -/
theorem kept_response_is_found {state : σ} {before between : List Visit} {origin visit : Visit}
    {originTarget target : Url} {raw : Response}
    (hkeeps : deployment.Keeps (deployment.after (.fresh capacity state) before) origin originTarget
      raw)
    (hadmits : deployment.Admits visit target) (hasks : visit.AsksCache)
    (hmethod : visit.request.method = origin.request.method)
    (htext : target.text = originTarget.text)
    (hclock : ∀ other ∈ between, ¬visit.moments.asked < other.moments.asked)
    (hintime : ∀ lifetime last,
      (Policy.lifetime? raw.headers origin.moments.received).or deployment.rules.defaultLifetime =
          some lifetime →
        lifetime ≠ Span.zero → origin.moments.received.add? lifetime = some last →
          ¬last < visit.moments.asked)
    (hfew : (deployment.otherKeys between (origin.key originTarget)).card < capacity) :
    let world := deployment.after (.fresh capacity state) (before ++ origin :: between)
    (deployment.answer world visit).outcome = .found (passedOn raw) ∧
      Repeats (deployment.answer world visit).response raw ∧
      deployment.exchanges world visit = [] := by
  intro world
  let entry := origin.entry originTarget deployment.rules (passedOn raw)
  let others := deployment.otherKeys between (origin.key originTarget)
  have hlive : entry.expired visit.moments.asked = false := live_iff.mpr hintime
  have hfirst : (deployment.next (deployment.after (.fresh capacity state) before)
      origin).store.Recent capacity others entry :=
    hkeeps.recent_next (deployment.inOrder_after capacity state before) (Nat.zero_lt_of_lt hfew)
  have hrecent : world.store.Recent capacity others entry := by
    have hworld : world = deployment.after
        (deployment.next (deployment.after (.fresh capacity state) before) origin) between := by
      simp [world, after]
    rw [hworld]
    exact deployment.recent_after hfirst (Visit.decode_entry _ _) (Finset.notMem_erase _ _) hfew
      (fun other hmem => Cache.Entry.live_earlier (hclock other hmem) hlive)
      (fun other hmem key hkey => deployment.eq_or_mem_otherKeys hmem hkey)
  have hkey : visit.key target = origin.key originTarget := by
    rw [Visit.key, Policy.cacheKey, hmethod, htext]
    rfl
  have hfound := deployment.outcome_of_found hadmits
    (Visit.lookUp_of_recent hrecent hasks hkey hlive (Visit.decode_entry _ _))
  refine ⟨hfound, ?_, deployment.exchanges_of_found hfound⟩
  rw [Answer.response, hfound]
  exact repeats_hitResponse raw

/-- In a cache for two entries the response of a server is still found after the cache was asked
under one other key. -/
theorem kept_response_is_found_steady :
    let deployment := steady SteadyServer.greeting
    let head : Visit :=
      { SteadyServer.visit with request := { SteadyServer.visit.request with method := .head } }
    let world := deployment.after (.fresh 2 ()) [SteadyServer.visit, head]
    deployment.Keeps (.fresh 2 ()) SteadyServer.visit SteadyServer.target SteadyServer.greeting ∧
      (deployment.otherKeys [head] (SteadyServer.visit.key SteadyServer.target)).card < 2 ∧
      (deployment.answer world SteadyServer.visit).outcome =
        .found (passedOn SteadyServer.greeting) := by
  intro deployment head world
  have hkeeps : deployment.Keeps (deployment.after (.fresh 2 ()) []) SteadyServer.visit
      SteadyServer.target SteadyServer.greeting :=
    { admits := SteadyServer.admits_visit _
      asks := SteadyServer.asksCache_visit
      fetched := SteadyServer.fetch_visit _ rfl _
      outcome := SteadyServer.outcome_first _ rfl 2
      cacheable := by decide }
  have hfew : (deployment.otherKeys [head] (SteadyServer.visit.key SteadyServer.target)).card < 2 :=
    calc _ ≤ ([head].filterMap deployment.keyAsked?).toFinset.card := Finset.card_erase_le
      _ ≤ ([head].filterMap deployment.keyAsked?).length := List.toFinset_card_le _
      _ ≤ [head].length := List.length_filterMap_le _ _
      _ < 2 := by decide
  have hforever (lifetime : Span) :
      (Policy.lifetime? SteadyServer.greeting.headers SteadyServer.visit.moments.received).or
        deployment.rules.defaultLifetime ≠ some lifetime := by
    rw [show Policy.lifetime? SteadyServer.greeting.headers _ = none by decide]
    simp [deployment, steady]
  refine ⟨hkeeps, hfew, (deployment.kept_response_is_found hkeeps (SteadyServer.admits_visit _)
    SteadyServer.asksCache_visit rfl rfl ?_ ?_ hfew).1⟩
  · decide
  · exact fun lifetime _ hlifetime => absurd hlifetime (hforever lifetime)

end Deployment

end ForwardProxy.Proxy
