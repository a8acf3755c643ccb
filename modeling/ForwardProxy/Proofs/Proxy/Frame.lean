import ForwardProxy.Proofs.Cache.Frame
import ForwardProxy.Proofs.Proxy.AllowedHosts

/-!
# What one request may change

Whatever becomes of a request, it changes the cache by one lookup of its key at most, and by setting
that key after it if a response was fetched that may be kept. A request that is turned away before
changes nothing. So no failure leaves anything half done, and other keys are safe but for the one
that a new key pushes out.
-/

namespace ForwardProxy.Proxy

open Http Time

namespace Deployment

variable {σ : Type} (deployment : Deployment σ)

/-- What one visit may change. -/
structure Confined (world : World σ) (visit : Visit) : Prop where
  /-- Without a target that may be fetched from, or if the cache is not asked about the request, the
  cache stays as it is. -/
  untouched : (∀ target, deployment.Admits visit target → ¬visit.AsksCache) →
    (deployment.next world visit).store = world.store
  /-- If the cache is asked and no response is fetched that may be kept, the cache is as one lookup
  leaves it, whether that answers the request, the body is too long, or the fetch fails. -/
  lookedUp : ∀ target, deployment.Admits visit target → visit.AsksCache →
    (∀ response, (deployment.answer world visit).outcome = .fetched response →
      Policy.responseCacheable response.status response.headers = false) →
    (deployment.next world visit).store =
      (world.store.get (visit.key target) visit.moments.asked).2
  /-- If a response is fetched that may be kept, it is set under the key after one lookup. -/
  kept : ∀ target, deployment.Admits visit target → visit.AsksCache →
    ∀ response, (deployment.answer world visit).outcome = .fetched response →
      Policy.responseCacheable response.status response.headers = true →
    (deployment.next world visit).store =
      ((world.store.get (visit.key target) visit.moments.asked).2.set (visit.key target)
        (Cache.StoredResponse.encode response) (visit.lifetime? deployment.rules response)
        visit.moments.received).2
  /-- All other keys have the same entries in the same order, or the key is new to a full cache and
  only the other key goes whose last use is the longest ago. -/
  others : ∀ target, deployment.Admits visit target →
    Cache.Store.Agree (visit.key target) world.store (deployment.next world visit).store ∨
      ∃ oldest, Cache.Store.PushesOut (visit.key target) oldest world.store
        (deployment.next world visit).store
  /-- No server is asked without a target that may be fetched from, or if the body is too long. -/
  quiet : (∀ target, ¬deployment.Admits visit target) ∨
      deployment.rules.maxBodySize < visit.request.body.length →
    deployment.exchanges world visit = []

/-- A visit that asks the cache leaves it as one lookup does, and may keep what it fetches. -/
theorem store_next_of_asks (world : World σ) {visit : Visit} {target : Url}
    (hadmits : deployment.Admits visit target) (hasks : visit.AsksCache) :
    let looked := (world.store.get (visit.key target) visit.moments.asked).2
    ((∀ response, (deployment.answer world visit).outcome ≠ .fetched response) ∧
        (deployment.next world visit).store = looked) ∨
      ∃ response, (deployment.answer world visit).outcome = .fetched response ∧
        (deployment.next world visit).store =
          visit.keep target deployment.rules response looked := by
  intro looked
  have hlookUp : (visit.lookUp target world.store).2 = looked := by
    rw [Visit.lookUp, if_pos hasks]
    rfl
  have hturn := deployment.turn_answer world visit
  unfold next
  generalize deployment.answer world visit = answer at hturn ⊢
  cases hturn with
  | refused hnone => exact absurd hadmits (hnone target)
  | found hother =>
    obtain rfl := hadmits.unique hother
    exact .inl ⟨by simp, hlookUp⟩
  | unread hother =>
    obtain rfl := hadmits.unique hother
    exact .inl ⟨by simp, hlookUp⟩
  | unanswered hother =>
    obtain rfl := hadmits.unique hother
    exact .inl ⟨by simp, hlookUp⟩
  | fetched hother =>
    obtain rfl := hadmits.unique hother
    exact .inr ⟨_, rfl, by rw [← hlookUp]⟩

/-- What a visit that asks the cache fetches is set under its key, if that may be kept. -/
theorem store_next_of_kept {world : World σ} {visit : Visit} {target : Url} {response : Response}
    (hadmits : deployment.Admits visit target) (hasks : visit.AsksCache)
    (hfetched : (deployment.answer world visit).outcome = .fetched response)
    (hcacheable : Policy.responseCacheable response.status response.headers = true) :
    (deployment.next world visit).store =
      ((world.store.get (visit.key target) visit.moments.asked).2.set (visit.key target)
        (Cache.StoredResponse.encode response) (visit.lifetime? deployment.rules response)
        visit.moments.received).2 := by
  rcases deployment.store_next_of_asks world hadmits hasks with
    ⟨hother, -⟩ | ⟨other, hother, hstore⟩
  · exact absurd hfetched (hother response)
  · obtain rfl := Outcome.fetched.inj (hfetched.symm.trans hother)
    rw [hstore, Visit.keep, if_pos ⟨hasks, hcacheable⟩]
    rfl

/-- In whatever state calls of it have left the cache, and however servers answer, one visit changes
no more than its request allows. -/
theorem confined_of_reachable (capacity : Nat) (operations : List Cache.Operation) (state : σ)
    (visit : Visit) :
    deployment.Confined ⟨(Cache.Store.new capacity).after operations, state⟩ visit := by
  have horder := Cache.Store.inOrder_after capacity operations
  generalize hworld : World.mk ((Cache.Store.new capacity).after operations) state = world
  replace horder : world.store.InOrder capacity := hworld ▸ horder
  refine ⟨deployment.store_next_of_unasked, fun target hadmits hasks hnone => ?_,
    fun target hadmits hasks response hfetched hcacheable => ?_, fun target hadmits => ?_,
    deployment.exchanges_of_unfetchable⟩
  · rcases deployment.store_next_of_asks world hadmits hasks with
      ⟨-, hstore⟩ | ⟨response, hfetched, hstore⟩
    · exact hstore
    · rw [hstore, Visit.keep, if_neg fun hkept => by simp [hnone response hfetched] at hkept]
  · exact deployment.store_next_of_kept hadmits hasks hfetched hcacheable
  · by_cases hasks : visit.AsksCache
    · have hlooked := horder.agree_get (visit.key target) visit.moments.asked
      rcases deployment.store_next_of_asks world hadmits hasks with
        ⟨-, hstore⟩ | ⟨response, -, hstore⟩
      · exact .inl (hstore ▸ hlooked)
      · rw [hstore, Visit.keep]
        split
        · exact horder.agree_or_pushesOut _ _ _ _ _
        · exact .inl hlooked
    · rw [deployment.store_next_of_unasked fun _ _ => hasks]
      exact .inl ⟨rfl, fun _ _ => rfl⟩

end Deployment

end ForwardProxy.Proxy
