import ForwardProxy.Proofs.Proxy.Traffic

/-!
# Entries that cannot be read

The cache takes any octets, and it may be shared, so a live entry need not hold a response. To the
client such an entry is as good as none: the request goes to the servers, and its answer is theirs.
To the counters it is not: the cache has counted that it found a live entry before the proxy tries
to read it.
-/

namespace ForwardProxy.Proxy

open Http Time

namespace Visit

variable {visit : Visit} {target : Url} {store : Cache.Store} {entry : Cache.Entry}

/-- The entry under the key of a visit is live, but no response can be read from it. -/
structure MeetsUnreadable (visit : Visit) (target : Url) (store : Cache.Store)
    (entry : Cache.Entry) : Prop where
  /-- The entry is in the cache. -/
  present : store.entries[visit.key target]? = some entry
  /-- The entry is not past its last instant. -/
  live : entry.expired visit.moments.asked = false
  /-- The entry cannot be read. -/
  unreadable : ∀ response, Cache.StoredResponse.decode entry.value ≠ .ok response

/-- An entry that cannot be read does not answer the visit that meets it. -/
theorem MeetsUnreadable.lookUp_eq_none (h : visit.MeetsUnreadable target store entry) :
    (visit.lookUp target store).1 = none := by
  rw [Option.eq_none_iff_forall_ne_some]
  intro stored hstored
  obtain ⟨-, other, hother, -, hdecode⟩ := lookUp_eq_some.mp hstored
  obtain rfl := Option.some.inj (h.present.symm.trans hother)
  exact h.unreadable stored hdecode

/-- Without an entry under its key a visit is not counted as a hit. -/
theorem counters_lookUp_of_absent (habsent : store.entries[visit.key target]? = none) :
    (visit.lookUp target store).2.counters.hits = store.counters.hits ∧
      (visit.lookUp target store).2.counters.misses =
        store.counters.misses + (if visit.AsksCache then 1 else 0) := by
  refine counters_lookUp_of_none (fun entry hentry => ?_) (lookUp_of_absent habsent)
  rw [habsent] at hentry
  cases hentry

end Visit

namespace Deployment

variable {σ : Type} (deployment : Deployment σ)

/-- What a visit adds to the counters. -/
structure Counts (world : World σ) (visit : Visit) (hits misses : Nat) : Prop where
  /-- The lookups that found a live entry. -/
  hits : (deployment.next world visit).store.counters.hits = world.store.counters.hits + hits
  /-- The lookups that found no live entry. -/
  misses :
    (deployment.next world visit).store.counters.misses = world.store.counters.misses + misses

variable {deployment} {world : World σ} {visit : Visit} {target : Url}

/-- A visit adds to the counters what its lookup adds, if its host is allowed. -/
theorem counts_of_lookUp (hits misses : Nat)
    (hresolved : Policy.resolveTarget visit.request.uri = .ok target)
    (hlookUp : (visit.lookUp target world.store).2.counters.hits =
        world.store.counters.hits + hits ∧
      (visit.lookUp target world.store).2.counters.misses =
        world.store.counters.misses + misses) :
    deployment.Counts world visit (if deployment.Allows target then hits else 0)
      (if deployment.Allows target then misses else 0) := by
  by_cases hallows : deployment.Allows target
  · obtain ⟨hhits, hmisses⟩ := sameLookups_next ⟨hresolved, hallows⟩
    rw [if_pos hallows, if_pos hallows]
    exact ⟨hhits.trans hlookUp.1, hmisses.trans hlookUp.2⟩
  · have hanswer : deployment.answer world visit = _ :=
      deployment.answer_of_not_allows hresolved hallows
    rw [if_neg hallows, if_neg hallows]
    constructor <;> rw [next, hanswer] <;> rfl

/-- In whatever state the cache is, whatever it holds, and whatever servers answer: if the entry
under the key of a visit is live and cannot be read, the visit ends as it does without the entry,
with the same exchanges, and is not answered from the cache. But if the cache is asked, it counts a
hit, and a miss without the entry. -/
theorem unreadable_entry_as_absent_but_counted (store : Cache.Store) (state : σ)
    {entry : Cache.Entry} (hresolved : Policy.resolveTarget visit.request.uri = .ok target)
    (hmeets : visit.MeetsUnreadable target store entry) :
    let world : World σ := ⟨store, state⟩
    let without : World σ := ⟨(store.remove (visit.key target)).2, state⟩
    let asked := if deployment.Allows target ∧ visit.AsksCache then 1 else 0
    deployment.AnswersAlike world without visit ∧
      (∀ stored, (deployment.answer world visit).outcome ≠ .found stored) ∧
      deployment.Counts world visit asked 0 ∧ deployment.Counts without visit 0 asked := by
  intro world without asked
  have habsent : without.store.entries[visit.key target]? = none := store.getElem?_remove_self _
  have hsame {other : Url} (hadmits : deployment.Admits visit other) : target = other := by
    simpa [hresolved] using hadmits.resolved
  have hmissed (other : Url) (hadmits : deployment.Admits visit other) :
      (visit.lookUp other store).1 = none :=
    hsame hadmits ▸ hmeets.lookUp_eq_none
  have hmissedWithout (other : Url) (hadmits : deployment.Admits visit other) :
      (visit.lookUp other without.store).1 = none :=
    hsame hadmits ▸ Visit.lookUp_of_absent habsent
  refine ⟨deployment.answersAlike_of_missed state hmissed hmissedWithout, fun stored hfound => ?_,
    ?_, ?_⟩
  · obtain ⟨other, hadmits, hlookUp⟩ := deployment.lookUp_of_found hfound
    simp [world, hmissed other hadmits] at hlookUp
  · have hcounts : deployment.Counts world visit _ _ :=
      counts_of_lookUp _ 0 hresolved (Visit.counters_lookUp_of_live hmeets.present hmeets.live)
    rwa [ite_self, ← ite_and] at hcounts
  · have hcounts : deployment.Counts without visit _ _ :=
      counts_of_lookUp 0 _ hresolved (Visit.counters_lookUp_of_absent habsent)
    rwa [ite_self, ← ite_and] at hcounts

end Deployment

/-! Someone else has put nonsense under the key of a visit to a server that always answers the
same. -/

namespace SteadyServer

/-- Octets that are no stored response. -/
def nonsense : Bytes := Bytes.ofAscii "garbage"

/-- A cache with nonsense under the key of the visit. -/
def spoiled : Cache.Store := ((Cache.Store.new 1).set (visit.key target) nonsense none .epoch).2

/-- The entry of nonsense is live, and cannot be read. -/
theorem meetsUnreadable_spoiled :
    visit.MeetsUnreadable target spoiled (.new (visit.key target) nonsense none .epoch) where
  present := (Cache.Store.inOrder_new 1).getElem?_set Nat.one_pos _ _ _ _
  live := rfl
  unreadable := by
    have hnone : (Cache.StoredResponse.decode nonsense).toOption = none := by decide
    intro response hdecode
    rw [show (Cache.Entry.new (visit.key target) nonsense none .epoch).value = nonsense from rfl]
      at hdecode
    rw [hdecode] at hnone
    cases hnone

/-- A visit that meets an entry of nonsense is answered as without it, and counted as a hit in place
of a miss. -/
theorem unreadable_entry_as_absent_but_counted_spoiled :
    let deployment := Deployment.steady greeting
    let without := (spoiled.remove (visit.key target)).2
    Policy.resolveTarget visit.request.uri = .ok target ∧
      visit.MeetsUnreadable target spoiled (.new (visit.key target) nonsense none .epoch) ∧
      deployment.AnswersAlike ⟨spoiled, ()⟩ ⟨without, ()⟩ visit ∧
      deployment.Counts ⟨spoiled, ()⟩ visit 1 0 ∧ deployment.Counts ⟨without, ()⟩ visit 0 1 := by
  intro deployment without
  have hasked : deployment.Allows target ∧ visit.AsksCache := ⟨rfl, asksCache_visit⟩
  obtain ⟨halike, -, hcounts, hcountsWithout⟩ :=
    Deployment.unreadable_entry_as_absent_but_counted spoiled ()
      resolveTarget_visit meetsUnreadable_spoiled
  rw [if_pos hasked] at hcounts hcountsWithout
  exact ⟨resolveTarget_visit, meetsUnreadable_spoiled, halike, hcounts, hcountsWithout⟩

/-- With nonsense under its key a visit adds a hit to the counters, and without it a miss. -/
theorem spoiled_entry_is_no_miss :
    let deployment := Deployment.steady greeting
    let without := (spoiled.remove (visit.key target)).2
    visit.MeetsUnreadable target spoiled (.new (visit.key target) nonsense none .epoch) ∧
      deployment.Counts ⟨without, ()⟩ visit 0 1 ∧ ¬deployment.Counts ⟨spoiled, ()⟩ visit 0 1 := by
  intro deployment without
  have habsent : without.entries[visit.key target]? = none := spoiled.getElem?_remove_self _
  have hallows : deployment.Allows target := rfl
  have hcounts : deployment.Counts ⟨spoiled, ()⟩ visit _ _ :=
    Deployment.counts_of_lookUp _ 0 resolveTarget_visit
      (Visit.counters_lookUp_of_live meetsUnreadable_spoiled.present meetsUnreadable_spoiled.live)
  have hcountsWithout : deployment.Counts ⟨without, ()⟩ visit _ _ :=
    Deployment.counts_of_lookUp 0 _ resolveTarget_visit (Visit.counters_lookUp_of_absent habsent)
  simp only [if_pos hallows, if_pos asksCache_visit] at hcounts hcountsWithout
  refine ⟨meetsUnreadable_spoiled, hcountsWithout, fun hmiss => ?_⟩
  have hhits := hcounts.hits.symm.trans hmiss.hits
  omega

end SteadyServer

end ForwardProxy.Proxy
