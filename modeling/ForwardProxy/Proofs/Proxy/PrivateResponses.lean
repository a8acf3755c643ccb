import ForwardProxy.Proofs.Proxy.Provenance

/-!
# Responses that are for one client

A response is private if any of its cookies is not empty, or any of its directives for caches holds
the one against keeping it. The policy looks at the first value of each name only, and there only at
printable ASCII. A private response that it recognises is never kept and never repeated; one that it
overlooks is kept like any other, and repeated to whoever asks next.
-/

namespace ForwardProxy.Proxy

open Http Time

/-- Some value of a header says that the response belongs to one client. -/
def IsPrivate (headers : Headers) : Prop :=
  (∃ value ∈ headers.values .setCookie, value.bytes ≠ []) ∨
    ∃ value ∈ headers.values .cacheControl, Policy.noStoreOctets <:+: value.bytes

/-- Some value of a header says that the response belongs to one client, but not a first one, or not
one of printable ASCII. -/
def Overlooked (headers : Headers) : Prop :=
  IsPrivate headers ∧ ¬Policy.FirstValuesTell headers

/-- No entry of a store is read back as the response. -/
def NotStored (store : Cache.Store) (response : Response) : Prop :=
  ∀ (key : String) (entry : Cache.Entry), store.entries[key]? = some entry →
    Cache.StoredResponse.decode entry.value ≠ .ok response

/-- A response may be kept if it is a plain success that is not private, or overlooked. -/
theorem responseCacheable_iff_of_private {response : Response}
    (hprivate : IsPrivate response.headers) :
    Policy.responseCacheable response.status response.headers = true ↔
      response.status = .ok ∧ Overlooked response.headers := by
  rw [Policy.responseCacheable_iff, Overlooked, and_iff_right hprivate]

namespace Deployment

variable {σ : Type} (deployment : Deployment σ)

/-- Whatever a run from an empty cache leaves there may be kept. -/
theorem cacheable_of_stored {capacity : Nat} {state : σ} {visits : List Visit} {key : String}
    {entry : Cache.Entry} {response : Response}
    (hentry : (deployment.after (.fresh capacity state) visits).store.entries[key]? = some entry)
    (hdecode : Cache.StoredResponse.decode entry.value = .ok response) :
    Policy.responseCacheable response.status response.headers = true := by
  obtain ⟨_, _, _, _, raw, hsource, -, rfl⟩ := deployment.entry_of_after capacity state hentry
  rw [Visit.decode_entry, Except.ok.injEq] at hdecode
  rw [← hdecode, responseCacheable_passedOn]
  exact hsource.keeps.cacheable

/-- What a visit finds in a run from an empty cache may be kept. -/
theorem cacheable_of_found {capacity : Nat} {state : σ} {visits : List Visit} {visit : Visit}
    {response : Response}
    (hfound : (deployment.answer (deployment.after (.fresh capacity state) visits) visit).outcome =
      .found response) :
    Policy.responseCacheable response.status response.headers = true := by
  obtain ⟨target, -, hlookUp⟩ := deployment.lookUp_of_found hfound
  obtain ⟨-, entry, hentry, -, hdecode⟩ := Visit.lookUp_eq_some.mp hlookUp
  exact deployment.cacheable_of_stored hentry hdecode

/-- A visit that does not ask the cache leaves it alone. -/
theorem store_next_of_not_asksCache {world : World σ} {visit : Visit} (h : ¬visit.AsksCache) :
    (deployment.next world visit).store = world.store :=
  deployment.store_next_of_unasked fun _ _ => h

/-- For every run from an empty cache and every visit that is answered with a private response from
a server: after the visit no entry of the cache is read back as that response, unless it is a plain
success that is overlooked, the cache may hold something, and the visit asks the cache or such an
entry was there before. A response that is no plain success or is not overlooked is never found in
the cache later on. One that is overlooked is found there by the same request, if that asks the
cache and comes in time. -/
theorem private_response_stored_iff_overlooked {capacity : Nat} {state : σ} {visits : List Visit}
    {visit : Visit} {response : Response}
    (hfetched : (deployment.answer (deployment.after (.fresh capacity state) visits)
      visit).outcome = .fetched response)
    (hprivate : IsPrivate response.headers) :
    (NotStored (deployment.after (.fresh capacity state) (visits ++ [visit])).store response ↔
      (response.status ≠ .ok ∨ ¬Overlooked response.headers) ∨ capacity = 0 ∨
        ¬visit.AsksCache ∧
          NotStored (deployment.after (.fresh capacity state) visits).store response) ∧
    (response.status ≠ .ok ∨ ¬Overlooked response.headers → ∀ later again,
      (deployment.answer (deployment.after (.fresh capacity state) (visits ++ visit :: later))
        again).outcome ≠ .found response) ∧
    (response.status = .ok → Overlooked response.headers → visit.AsksCache → 0 < capacity →
      ∀ moments : Moments,
        (∀ last ∈ Cache.expiryAfter? visit.moments.received
          (visit.lifetime? deployment.rules response), ¬last < moments.asked) →
        (deployment.answer (deployment.after (.fresh capacity state) (visits ++ [visit]))
          ⟨visit.request, moments⟩).outcome = .found response) := by
  have hcacheable := responseCacheable_iff_of_private hprivate
  have horder := deployment.inOrder_after capacity state visits
  refine ⟨⟨fun hnot => ?_, ?_⟩, fun hsafe later again hfound => ?_,
    fun hok hover hasks hpos moments hlive => ?_⟩
  · by_contra hcon
    simp only [not_or, not_and, not_not] at hcon
    obtain ⟨⟨hok, hover⟩, hpos, hbefore⟩ := hcon
    by_cases hasks : visit.AsksCache
    · obtain ⟨target, -, hentry⟩ := deployment.entry_of_fetched horder (Nat.pos_of_ne_zero hpos)
        hfetched hasks (hcacheable.mpr ⟨hok, hover⟩)
      rw [← after_concat] at hentry
      exact hnot _ _ hentry (Visit.decode_entry _ _)
    · rw [after_concat, deployment.store_next_of_not_asksCache hasks] at hnot
      exact hbefore hasks hnot
  · rintro (hsafe | rfl | ⟨hasks, hbefore⟩) key entry hentry
    · intro hdecode
      obtain ⟨hok, hover⟩ := hcacheable.mp (deployment.cacheable_of_stored hentry hdecode)
      exact hsafe.elim (· hok) (· hover)
    · rw [(deployment.inOrder_after 0 state _).getElem?_of_zero] at hentry
      cases hentry
    · rw [after_concat, deployment.store_next_of_not_asksCache hasks] at hentry
      exact hbefore key entry hentry
  · obtain ⟨hok, hover⟩ := hcacheable.mp (deployment.cacheable_of_found hfound)
    exact hsafe.elim (· hok) (· hover)
  · rw [after_concat]
    exact deployment.outcome_again horder hpos hfetched hasks (hcacheable.mpr ⟨hok, hover⟩) hlive

/-- A plain success whose second directive for caches is against keeping it. -/
def secondDirective : Response where
  status := .ok
  headers :=
    (Headers.empty.append .cacheControl { bytes := Bytes.ofAscii "public" }).append .cacheControl
      { bytes := Policy.noStoreOctets }
  body := []

/-- A response whose second directive is against keeping it is fetched, it is private, and it is
stored. -/
theorem private_response_stored_iff_overlooked_steady :
    let deployment := steady secondDirective
    (deployment.answer (deployment.after (.fresh 1 ()) []) SteadyServer.visit).outcome =
        .fetched secondDirective ∧
      IsPrivate secondDirective.headers ∧
      ¬NotStored (deployment.after (.fresh 1 ()) ([] ++ [SteadyServer.visit])).store
        secondDirective := by
  have hfetched : ((steady secondDirective).answer
      ((steady secondDirective).after (.fresh 1 ()) []) SteadyServer.visit).outcome =
        .fetched secondDirective := SteadyServer.outcome_first secondDirective rfl 1
  have hprivate : IsPrivate secondDirective.headers :=
    .inr ⟨{ bytes := Policy.noStoreOctets }, by decide, List.infix_rfl⟩
  have htell : ¬Policy.FirstValuesTell secondDirective.headers :=
    (Policy.responseCacheable_iff.mp (show Policy.responseCacheable .ok _ = true by decide)).2
  refine ⟨hfetched, hprivate, fun hnot => ?_⟩
  have hiff := private_response_stored_iff_overlooked (steady secondDirective) hfetched hprivate
  rcases hiff.1.mp hnot with (hno | hover) | hzero | ⟨hasks, -⟩
  · exact hno rfl
  · exact hover ⟨hprivate, htell⟩
  · cases hzero
  · exact hasks SteadyServer.asksCache_visit

/-- A plain success whose second cookie is not empty. -/
def secondCookie : Response where
  status := .ok
  headers :=
    (Headers.empty.append .setCookie { bytes := [] }).append .setCookie
      { bytes := Bytes.ofAscii "id=1" }
  body := []

/-- A response whose second cookie is not empty is fetched, it is private, it is stored, and the
next visit finds it in the cache. -/
theorem second_cookie_is_repeated :
    let deployment := steady secondCookie
    let world := deployment.after (.fresh 1 ()) [SteadyServer.visit]
    (deployment.answer (.fresh 1 ()) SteadyServer.visit).outcome = .fetched secondCookie ∧
      IsPrivate secondCookie.headers ∧ ¬NotStored world.store secondCookie ∧
      (deployment.answer world SteadyServer.visit).outcome = .found secondCookie := by
  have hfetched := SteadyServer.outcome_first secondCookie rfl 1
  obtain ⟨target, -, hentry⟩ := (steady secondCookie).entry_of_fetched
    (Cache.Store.inOrder_new 1) Nat.one_pos hfetched SteadyServer.asksCache_visit (by decide)
  exact ⟨hfetched, .inl ⟨{ bytes := Bytes.ofAscii "id=1" }, by decide, by decide⟩,
    fun hnot => hnot _ _ hentry (Visit.decode_entry _ _),
    SteadyServer.outcome_second secondCookie (by decide) (by decide) Nat.one_pos⟩

end Deployment

end ForwardProxy.Proxy
