import ForwardProxy.Proofs.Cache.Contents
import ForwardProxy.Proofs.Cache.StoredResponse
import ForwardProxy.Proofs.Policy.Cacheability
import ForwardProxy.Proxy.Handler

/-!
# What a request does to the cache

A request that asks the cache looks a key up, and may keep a response under it. Looking up brings
nothing into the cache, and keeping brings in one entry, from which the response is read back.
-/

namespace ForwardProxy.Proxy

open Http Time

/-- A request that reaches the proxy. -/
structure Visit where
  /-- The request. -/
  request : Request
  /-- The readings of the clock while it is answered. -/
  moments : Moments

namespace Visit

variable (visit : Visit) (target : Url)

/-- The cache is asked about the request. -/
abbrev AsksCache : Prop := Policy.requestCacheable visit.request.method visit.request.headers = true

/-- The key under which the answer is kept. -/
def key : String := Policy.cacheKey visit.request.method target

/-- The request that is sent for a target. -/
def outgoing : Client.Outgoing :=
  .new visit.request.method target (forwardedHeaders visit.request) visit.request.body

/-- What the cache answers, if it is asked, and the cache after that. -/
def lookUp (store : Cache.Store) : Option Response × Cache.Store :=
  if visit.AsksCache then Proxy.lookUp store (visit.key target) visit.moments.asked
  else (none, store)

/-- The time to live that a response has in the cache. -/
def lifetime? (rules : Rules) (response : Response) : Option Span :=
  (Policy.lifetime? response.headers visit.moments.received).or rules.defaultLifetime

/-- The entry that keeps a response. -/
def entry (rules : Rules) (response : Response) : Cache.Entry :=
  .new (visit.key target) (Cache.StoredResponse.encode response) (visit.lifetime? rules response)
    visit.moments.received

/-- The cache after a response was fetched. -/
def keep (rules : Rules) (response : Response) (store : Cache.Store) : Cache.Store :=
  if visit.AsksCache ∧ Policy.responseCacheable response.status response.headers = true then
    Proxy.keep rules store (visit.key target) response visit.moments.received
  else store

variable {visit : Visit} {target : Url} {store : Cache.Store} {key : String} {entry : Cache.Entry}

/-- What the cache answers is the response in the live entry under the key. -/
theorem lookUp_eq_some {stored : Response} :
    (visit.lookUp target store).1 = some stored ↔
      visit.AsksCache ∧ ∃ entry, store.entries[visit.key target]? = some entry ∧
        entry.expired visit.moments.asked = false ∧
        Cache.StoredResponse.decode entry.value = .ok stored := by
  have hdecode (entry : Cache.Entry) :
      (Cache.StoredResponse.decode entry.value).toOption = some stored ↔
        Cache.StoredResponse.decode entry.value = .ok stored := by
    cases Cache.StoredResponse.decode entry.value <;> simp [Except.toOption]
  unfold lookUp
  by_cases hasks : visit.AsksCache
  · rw [and_iff_right hasks]
    simp only [if_pos hasks, Proxy.lookUp, Cache.Store.get_fst, Option.bind_eq_some_iff,
      Option.filter_eq_some_iff, hdecode, Bool.not_eq_true', and_assoc]
  · simp [hasks]

/-- Without an entry under its key a visit is not answered. -/
theorem lookUp_of_absent (habsent : store.entries[visit.key target]? = none) :
    (visit.lookUp target store).1 = none := by
  rw [Option.eq_none_iff_forall_ne_some]
  intro stored hstored
  obtain ⟨-, entry, hentry, -⟩ := lookUp_eq_some.mp hstored
  rw [habsent] at hentry
  cases hentry

/-- A new cache answers nothing. -/
theorem lookUp_new {capacity : Nat} : (visit.lookUp target (.new capacity)).1 = none :=
  lookUp_of_absent (by simp [Cache.Store.new])

/-- Asking the cache brings no entry into it. -/
theorem getElem?_of_lookUp (h : (visit.lookUp target store).2.entries[key]? = some entry) :
    store.entries[key]? = some entry := by
  unfold lookUp at h
  by_cases hasks : visit.AsksCache
  · rw [if_pos hasks, Proxy.lookUp, Cache.Store.getElem?_get, Cache.Store.get_fst] at h
    split at h
    · next hkey => exact hkey ▸ (Option.filter_eq_some_iff.mp h).1
    · exact h
  · rwa [if_neg hasks] at h

/-- If the cache does not answer, no entry that can be read is left under the key. -/
theorem getElem?_lookUp_of_none (hasks : visit.AsksCache)
    (hmissed : (visit.lookUp target store).1 = none) {response : Response}
    (h : (visit.lookUp target store).2.entries[visit.key target]? = some entry) :
    Cache.StoredResponse.decode entry.value ≠ .ok response := by
  rw [lookUp, if_pos hasks] at hmissed h
  rw [Proxy.lookUp, Cache.Store.getElem?_get, if_pos rfl] at h
  intro hdecode
  simp [Proxy.lookUp, h, hdecode, Except.toOption] at hmissed

/-- Keeping a response brings no entry into the cache but the one that keeps it. -/
theorem getElem?_of_keep {rules : Rules} {response : Response}
    (h : (visit.keep target rules response store).entries[key]? = some entry) :
    store.entries[key]? = some entry ∨
      (visit.AsksCache ∧ Policy.responseCacheable response.status response.headers = true) ∧
        key = visit.key target ∧ entry = visit.entry target rules response := by
  unfold keep at h
  by_cases hkept : visit.AsksCache ∧
      Policy.responseCacheable response.status response.headers = true
  · rw [if_pos hkept] at h
    have hset := Cache.Store.getElem?_of_set h
    split at hset
    · next hkey => exact .inr ⟨hkept, hkey.symm, (Option.some.inj hset).symm⟩
    · exact .inl hset
  · rw [if_neg hkept] at h
    exact .inl h

variable {capacity : Nat}

/-- Asking the cache keeps it in order. -/
theorem inOrder_lookUp (h : store.InOrder capacity) :
    (visit.lookUp target store).2.InOrder capacity := by
  unfold lookUp
  split
  · exact h.get _ _
  · exact h

/-- Keeping a response keeps the cache in order. -/
theorem inOrder_keep (h : store.InOrder capacity) (rules : Rules) (response : Response) :
    (visit.keep target rules response store).InOrder capacity := by
  unfold keep
  split
  · exact h.set _ _ _ _
  · exact h

/-- A response that may be kept stands in the cache, unless that may hold nothing. -/
theorem getElem?_keep (h : store.InOrder capacity) (hpos : 0 < capacity) {rules : Rules}
    {response : Response} (hasks : visit.AsksCache)
    (hcacheable : Policy.responseCacheable response.status response.headers = true) :
    (visit.keep target rules response store).entries[visit.key target]? =
      some (visit.entry target rules response) := by
  rw [keep, if_pos ⟨hasks, hcacheable⟩]
  exact h.getElem?_set hpos _ _ _ _

/-- What an entry keeps is read back. -/
theorem decode_entry (rules : Rules) (response : Response) :
    Cache.StoredResponse.decode (visit.entry target rules response).value = .ok response :=
  Cache.StoredResponse.decode_encode response

end Visit

/-- A response as it is passed on: how the octets of its body traveled is forgotten. -/
def passedOn (raw : Response) : Response :=
  { raw with headers := raw.headers.erase .transferEncoding }

/-- Whether a response may be kept does not depend on how the octets of its body traveled. -/
theorem responseCacheable_passedOn (raw : Response) :
    Policy.responseCacheable (passedOn raw).status (passedOn raw).headers =
      Policy.responseCacheable raw.status raw.headers :=
  Policy.responseCacheable_erase raw.status raw.headers

/-- The time to live of a response does not depend on how the octets of its body traveled. -/
theorem Visit.lifetime?_passedOn (visit : Visit) (rules : Rules) (raw : Response) :
    visit.lifetime? rules (passedOn raw) =
      (Policy.lifetime? raw.headers visit.moments.received).or rules.defaultLifetime := by
  rw [lifetime?, passedOn, Policy.lifetime?_erase]

end ForwardProxy.Proxy
