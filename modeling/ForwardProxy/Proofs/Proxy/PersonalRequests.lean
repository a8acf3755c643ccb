import ForwardProxy.Proofs.Cache.Balance
import ForwardProxy.Proofs.Proxy.Frame
import ForwardProxy.Proofs.Proxy.Traffic

/-!
# Requests that are for one client

A request is personal if any of its credentials are not empty, or any of its directives for caches
holds the one against keeping the answer. It goes past the cache if the policy recognises it, which
looks at the first value of each name only, and there only at printable ASCII. A personal request
that it does not recognise is treated as any other: it may be answered with what was fetched for
someone else, and what is fetched for it may be kept for anyone.
-/

namespace ForwardProxy.Proxy

open Http Time

/-- Some value of a header says that the request is for one client. -/
def IsPersonal (headers : Headers) : Prop :=
  (∃ value ∈ headers.values .authorization, value.bytes ≠ []) ∨
    ∃ value ∈ headers.values .cacheControl, Policy.noStoreOctets <:+: value.bytes

/-- Some value of a header says that the request is for one client, but not a first one, or not one
of printable ASCII. -/
def Unrecognised (headers : Headers) : Prop :=
  IsPersonal headers ∧ ¬Policy.FirstValuesForbid headers

/-- Of the personal requests that only read, the cache is asked about those that are not
recognised. -/
theorem Visit.asksCache_iff_of_personal {visit : Visit}
    (hpersonal : IsPersonal visit.request.headers) :
    visit.AsksCache ↔ (visit.request.method = .get ∨ visit.request.method = .head) ∧
      Unrecognised visit.request.headers := by
  rw [AsksCache, Policy.requestCacheable_iff, Unrecognised, and_iff_right hpersonal]

namespace Deployment

variable {σ : Type} (deployment : Deployment σ)

/-- A visit goes past the cache. -/
structure Bypasses (world : World σ) (visit : Visit) : Prop where
  /-- The cache is left as it is, with its order and its counters. -/
  unwritten : (deployment.next world visit).store = world.store
  /-- Any other cache makes no difference to what is seen of the visit. -/
  unread : ∀ store, deployment.AnswersAlike ⟨store, world.state⟩ world visit
  /-- Unless it fails, it ends with what a fetch gives, and its answer is marked so. -/
  fresh : (∃ failure, (deployment.answer world visit).outcome = .failed failure) ∨
    ∃ target raw, deployment.Admits visit target ∧
      (deployment.fetch world visit target).1 = .ok raw ∧
      (deployment.answer world visit).outcome = .fetched (passedOn raw) ∧
      (deployment.answer world visit).response.headers.values .xCache = [miss]

variable {deployment} {world : World σ} {visit : Visit}

/-- A visit about which the cache is not asked goes past it. -/
theorem bypasses_of_unasked (h : ∀ target, deployment.Admits visit target → ¬visit.AsksCache) :
    deployment.Bypasses world visit := by
  have hmissed (store : Cache.Store) (target : Url) (hadmits : deployment.Admits visit target) :
      (visit.lookUp target store).1 = none := by
    rw [Visit.lookUp, if_neg (h target hadmits)]
  refine ⟨deployment.store_next_of_unasked h, fun store =>
    deployment.answersAlike_of_missed world.state (hmissed store) (hmissed world.store), ?_⟩
  cases houtcome : (deployment.answer world visit).outcome with
  | failed failure => exact .inl ⟨failure, rfl⟩
  | found stored =>
    obtain ⟨target, hadmits, hfound⟩ := deployment.lookUp_of_found houtcome
    simp [hmissed world.store target hadmits] at hfound
  | fetched response =>
    obtain ⟨target, raw, hadmits, hnone, hshort, hfetch⟩ := deployment.fetch_of_fetched houtcome
    have hsame := deployment.outcome_of_fetched hadmits hnone hshort hfetch
    refine .inr ⟨target, raw, hadmits, hfetch, houtcome.symm.trans hsame, ?_⟩
    rw [Answer.response, houtcome, Outcome.values_xCache]

/-- A visit about which the cache is asked is counted there. -/
theorem lookups_next (world : World σ) {target : Url} (hadmits : deployment.Admits visit target)
    (hasks : visit.AsksCache) :
    (deployment.next world visit).store.counters.hits +
        (deployment.next world visit).store.counters.misses =
      world.store.counters.hits + world.store.counters.misses + 1 := by
  obtain ⟨hhits, hmisses⟩ := sameLookups_next hadmits
  have hlookUp : (visit.lookUp target world.store).2 =
      (world.store.perform (.get (visit.key target) visit.moments.asked)).2 := by
    rw [Visit.lookUp, if_pos hasks]
    rfl
  rw [hhits, hmisses, hlookUp, Cache.Store.lookups_perform]
  rfl

/-- The visits that go past the cache are those about which the cache is not asked. -/
theorem bypasses_iff : deployment.Bypasses world visit ↔
    ∀ target, deployment.Admits visit target → ¬visit.AsksCache := by
  refine ⟨fun h target hadmits hasks => ?_, bypasses_of_unasked⟩
  -- The count of lookups gives the cache away even where nothing else in it changes.
  have hcounted := lookups_next world hadmits hasks
  rw [h.unwritten] at hcounted
  omega

/-- A visit about which the cache is asked is treated as if it were for anyone: it is answered with
the response in the live entry under its key, if there is one that can be read, and a response that
is fetched for it is set under this key, if that may be kept. -/
structure Mingles (deployment : Deployment σ) (world : World σ) (visit : Visit) (target : Url) :
    Prop where
  /-- What the cache holds for anyone answers the visit. -/
  found : ∀ stored, (deployment.answer world visit).outcome = .found stored ↔
    ∃ entry, world.store.entries[visit.key target]? = some entry ∧
      entry.expired visit.moments.asked = false ∧
      Cache.StoredResponse.decode entry.value = .ok stored
  /-- What is fetched for the visit is kept for anyone. -/
  kept : ∀ response, (deployment.answer world visit).outcome = .fetched response →
    Policy.responseCacheable response.status response.headers = true →
    (deployment.next world visit).store =
      ((world.store.get (visit.key target) visit.moments.asked).2.set (visit.key target)
        (Cache.StoredResponse.encode response) (visit.lifetime? deployment.rules response)
        visit.moments.received).2

/-- A visit about which the cache is asked shares the cache with all others. -/
theorem mingles_of_asks {target : Url} (hadmits : deployment.Admits visit target)
    (hasks : visit.AsksCache) : deployment.Mingles world visit target where
  found := by
    intro stored
    constructor
    · intro hfound
      obtain ⟨other, hother, hlookUp⟩ := deployment.lookUp_of_found hfound
      obtain rfl := hadmits.unique hother
      exact (Visit.lookUp_eq_some.mp hlookUp).2
    · exact fun hentry => deployment.outcome_of_found hadmits
        (Visit.lookUp_eq_some.mpr ⟨hasks, hentry⟩)
  kept := fun _ hfetched hcacheable =>
    deployment.store_next_of_kept hadmits hasks hfetched hcacheable

/-- In whatever state the cache is, and whatever servers answer: a personal request goes past the
cache if and only if it has no target that may be fetched from, or does more than read, or is
recognised. Any other is treated as if it were for anyone. -/
theorem personal_request_bypasses_unless_unrecognised (world : World σ)
    (hpersonal : IsPersonal visit.request.headers) :
    (deployment.Bypasses world visit ↔
      (∀ target, ¬deployment.Admits visit target) ∨
        (visit.request.method ≠ .get ∧ visit.request.method ≠ .head) ∨
        ¬Unrecognised visit.request.headers) ∧
    ∀ target, deployment.Admits visit target →
      visit.request.method = .get ∨ visit.request.method = .head →
      Unrecognised visit.request.headers → deployment.Mingles world visit target := by
  have hasks := Visit.asksCache_iff_of_personal hpersonal
  refine ⟨?_, fun target hadmits hreads hunrecognised =>
    mingles_of_asks hadmits (hasks.mpr ⟨hreads, hunrecognised⟩)⟩
  rw [bypasses_iff, hasks, not_and_or, not_or]
  constructor
  · intro h
    by_cases hadmits : ∃ target, deployment.Admits visit target
    · obtain ⟨target, hadmits⟩ := hadmits
      exact .inr (h target hadmits)
    · exact .inl (not_exists.mp hadmits)
  · rintro (hnone | hother) target hadmits
    · exact absurd hadmits (hnone target)
    · exact hother

end Deployment

/-! A client shows its credentials to a server that always answers the same, after another client
has been there. -/

namespace SteadyServer

/-- A client asks for the address with header fields. -/
def visitWith (headers : Headers) : Visit :=
  { visit with request := { visit.request with headers } }

/-- Credentials. -/
def credentials : FieldValue := { bytes := Bytes.ofAscii "Bearer x" }

/-- The world after another client asked for the address without header fields. -/
def visited : World Unit := (Deployment.steady greeting).after (.fresh 1 ()) [visit]

/-- A visit with credentials as its first value is recognised, and goes past the cache. -/
theorem personal_request_bypasses_with_credentials :
    let showing := visitWith (Headers.empty.append .authorization credentials)
    IsPersonal showing.request.headers ∧ (Deployment.steady greeting).Bypasses visited showing := by
  intro showing
  have hpersonal : IsPersonal showing.request.headers :=
    .inl ⟨credentials, by decide, by decide⟩
  have hfirst : Policy.FirstValuesForbid showing.request.headers :=
    .inl ⟨credentials, by decide, by decide⟩
  exact ⟨hpersonal, (Deployment.personal_request_bypasses_unless_unrecognised visited
    hpersonal).1.mpr (.inr (.inr fun hunrecognised => hunrecognised.2 hfirst))⟩

/-- Credentials after an empty line are not recognised: the visit is answered with what the other
client got. -/
theorem second_credentials_do_not_bypass :
    let showing := visitWith
      ((Headers.empty.append .authorization { bytes := [] }).append .authorization credentials)
    IsPersonal showing.request.headers ∧
      ¬(Deployment.steady greeting).Bypasses visited showing ∧
      ((Deployment.steady greeting).answer visited showing).outcome = .found greeting := by
  intro showing
  have hasks : showing.AsksCache := by decide
  refine ⟨.inl ⟨credentials, by decide, by decide⟩, fun hbypasses => ?_, ?_⟩
  · exact Deployment.bypasses_iff.mp hbypasses target ⟨resolveTarget_visit, rfl⟩ hasks
  · apply Deployment.outcome_shared _ (Cache.Store.inOrder_new 1) Nat.one_pos
      (outcome_first greeting rfl 1) asksCache_visit (by decide) rfl rfl hasks
    intro last hlast
    rw [show visit.lifetime? (Deployment.steady greeting).rules (passedOn greeting) = none by
      decide] at hlast
    cases hlast

end SteadyServer

end ForwardProxy.Proxy
