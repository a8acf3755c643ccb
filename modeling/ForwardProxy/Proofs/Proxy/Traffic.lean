import ForwardProxy.Proofs.Cache.Frame
import ForwardProxy.Proofs.Proxy.Record
import ForwardProxy.Proofs.Proxy.WorkingSet

/-!
# The counters tell what clients saw

The cache counts lookups, while it is the proxy that tells hits from other answers, after it has read
what the cache gives it. The two agree because whatever is kept can be read: so every lookup that
finds a live entry answers its request.
-/

namespace ForwardProxy.Proxy

open Http Time

/-- Every entry of a store is read back as a plain success. -/
def Readable (store : Cache.Store) : Prop :=
  ∀ (key : String) (entry : Cache.Entry), store.entries[key]? = some entry →
    ∃ response, Cache.StoredResponse.decode entry.value = .ok response ∧ response.status = .ok

namespace Visit

variable {visit : Visit} {target : Url} {store : Cache.Store}

/-- A lookup that finds a live entry is counted as such, whether or not that can be read. -/
theorem counters_lookUp_of_live {entry : Cache.Entry}
    (hentry : store.entries[visit.key target]? = some entry)
    (hlive : entry.expired visit.moments.asked = false) :
    (visit.lookUp target store).2.counters.hits =
        store.counters.hits + (if visit.AsksCache then 1 else 0) ∧
      (visit.lookUp target store).2.counters.misses = store.counters.misses := by
  by_cases hasks : visit.AsksCache
  · have hget : (store.get (visit.key target) visit.moments.asked).1 = some entry := by
      rw [Cache.Store.get_fst, hentry, Option.filter_some, hlive]
      rfl
    rw [lookUp, if_pos hasks, if_pos hasks]
    exact Cache.Store.counters_get_of_some hget
  · rw [lookUp, if_neg hasks, if_neg hasks]
    exact ⟨rfl, rfl⟩

/-- A lookup that answers a request is counted as one that finds a live entry. -/
theorem counters_lookUp_of_some {stored : Response}
    (hfound : (visit.lookUp target store).1 = some stored) :
    (visit.lookUp target store).2.counters.hits = store.counters.hits + 1 ∧
      (visit.lookUp target store).2.counters.misses = store.counters.misses := by
  obtain ⟨hasks, entry, hentry, hlive, -⟩ := lookUp_eq_some.mp hfound
  have hcounted := counters_lookUp_of_live hentry hlive
  rwa [if_pos hasks] at hcounted

/-- A lookup that does not answer a request is counted as one that found no live entry, if what is
kept under its key can be read. -/
theorem counters_lookUp_of_none
    (hreadable : ∀ entry, store.entries[visit.key target]? = some entry →
      ∃ response, Cache.StoredResponse.decode entry.value = .ok response)
    (hmissed : (visit.lookUp target store).1 = none) :
    (visit.lookUp target store).2.counters.hits = store.counters.hits ∧
      (visit.lookUp target store).2.counters.misses =
        store.counters.misses + if visit.AsksCache then 1 else 0 := by
  by_cases hasks : visit.AsksCache
  · have hget : (store.get (visit.key target) visit.moments.asked).1 = none := by
      rw [Option.eq_none_iff_forall_ne_some]
      intro entry hfound
      -- A live entry would have been read, and the response in it would have been the answer.
      obtain ⟨hentry, hlive⟩ := Option.filter_eq_some_iff.mp (Cache.Store.get_fst .. ▸ hfound)
      obtain ⟨response, hdecode⟩ := hreadable entry hentry
      have hanswer := lookUp_eq_some.mpr ⟨hasks, entry, hentry, by simpa using hlive, hdecode⟩
      rw [hmissed] at hanswer
      cases hanswer
    rw [lookUp, if_pos hasks, if_pos hasks]
    exact Cache.Store.counters_get_of_none hget
  · rw [lookUp, if_neg hasks, if_neg hasks]
    exact ⟨rfl, rfl⟩

/-- Keeping a response is no lookup. -/
theorem sameLookups_keep (visit : Visit) (target : Url) (rules : Rules) (response : Response)
    (store : Cache.Store) : store.SameLookups (visit.keep target rules response store) := by
  unfold keep
  split
  · exact Cache.Store.sameLookups_set ..
  · exact ⟨rfl, rfl⟩

end Visit

/-- The two marks differ. -/
theorem miss_ne_hit : miss ≠ hit := by decide

/-- A response is marked by how its request ended, whatever marks the server gave it. -/
theorem Outcome.values_xCache (outcome : Outcome) :
    outcome.response.headers.values .xCache =
      match outcome with
      | failed _ => []
      | found _ => [hit]
      | fetched _ => [miss] := by
  have hname : FieldName.xCache ≠ .contentType := by decide
  cases outcome <;>
    simp [response, Failure.response, textResponse, hitResponse, missResponse, hname]

namespace Deployment

variable {σ : Type} (deployment : Deployment σ)

/-- The cache was asked about the request and did not answer it. -/
def isMissed (account : Account) : Bool :=
  (deployment.keyAsked? account.visit).isSome && !account.outcome.isFound

variable {deployment} {visit : Visit} {outcome : Outcome} {exchanges : List Client.Exchange}

/-- About a visit without a target that may be fetched from the cache is not asked. -/
theorem isMissed_of_refused (hnone : ∀ target, ¬deployment.Admits visit target) :
    deployment.isMissed ⟨visit, outcome, exchanges⟩ = false := by
  unfold isMissed keyAsked?
  cases hresolved : Policy.resolveTarget visit.request.uri with
  | error cause => rfl
  | ok target =>
    simp only
    rw [if_neg fun hasked => hnone target ⟨hresolved, hasked.1⟩]
    rfl

/-- A visit whose target may be fetched from is missed exactly if the cache was asked about it and
did not answer it. -/
theorem isMissed_of_admits {target : Url} (hadmits : deployment.Admits visit target) :
    deployment.isMissed ⟨visit, outcome, exchanges⟩ =
      (decide visit.AsksCache && !outcome.isFound) := by
  unfold isMissed keyAsked?
  simp only [hadmits.resolved]
  by_cases hasks : visit.AsksCache
  · rw [if_pos ⟨hadmits.allowed, hasks⟩, decide_eq_true hasks]
    rfl
  · rw [if_neg fun hasked => hasks hasked.2, decide_eq_false hasks]
    rfl

variable {world : World σ}

/-- A visit looks nothing up but the key of its target, once. -/
theorem sameLookups_next {target : Url} (hadmits : deployment.Admits visit target) :
    (visit.lookUp target world.store).2.SameLookups (deployment.next world visit).store := by
  have hturn := deployment.turn_answer world visit
  unfold next
  generalize deployment.answer world visit = answer at hturn ⊢
  cases hturn with
  | refused hnone => exact absurd hadmits (hnone target)
  | found hother | unread hother | unanswered hother =>
    obtain rfl := hadmits.unique hother
    exact ⟨rfl, rfl⟩
  | fetched hother =>
    obtain rfl := hadmits.unique hother
    exact Visit.sameLookups_keep ..

/-- A visit is counted as a hit if it was answered from the cache, as a miss if the cache was asked
and did not answer it, and else not at all. -/
theorem counters_next (h : Readable world.store) (visit : Visit) :
    (deployment.next world visit).store.counters.hits = world.store.counters.hits +
        (if (deployment.account world visit).outcome.isFound then 1 else 0) ∧
      (deployment.next world visit).store.counters.misses = world.store.counters.misses +
        (if deployment.isMissed (deployment.account world visit) then 1 else 0) := by
  have hreadable (key : String) (entry : Cache.Entry)
      (hentry : world.store.entries[key]? = some entry) :
      ∃ response, Cache.StoredResponse.decode entry.value = .ok response :=
    (h key entry hentry).imp fun _ hread => hread.1
  have hturn := deployment.turn_answer world visit
  unfold account next
  generalize deployment.answer world visit = answer at hturn ⊢
  cases hturn with
  | refused hnone => simp [isMissed_of_refused hnone, Outcome.isFound]
  | found hadmits hfound =>
    simpa [isMissed_of_admits hadmits, Outcome.isFound] using Visit.counters_lookUp_of_some hfound
  | unread hadmits hmissed =>
    simpa [isMissed_of_admits hadmits, Outcome.isFound] using
      Visit.counters_lookUp_of_none (hreadable _) hmissed
  | unanswered hadmits hmissed =>
    simpa [isMissed_of_admits hadmits, Outcome.isFound] using
      Visit.counters_lookUp_of_none (hreadable _) hmissed
  | @fetched target raw hadmits hmissed =>
    obtain ⟨hhits, hmisses⟩ := visit.sameLookups_keep target deployment.rules (passedOn raw)
      (visit.lookUp target world.store).2
    simpa [isMissed_of_admits hadmits, Outcome.isFound, hhits, hmisses] using
      Visit.counters_lookUp_of_none (hreadable _) hmissed

/-- Whatever a run leaves in an empty cache keeps a response that was fetched, and can be read. -/
theorem readable_after (capacity : Nat) (state : σ) (visits : List Visit) :
    Readable (deployment.after (.fresh capacity state) visits).store := by
  intro key entry hentry
  obtain ⟨_, origin, _, target, raw, hsource, -, rfl⟩ :=
    deployment.entry_of_after capacity state hentry
  exact ⟨passedOn raw, origin.decode_entry _ _,
    (Policy.responseCacheable_iff.mp hsource.keeps.cacheable).1⟩

/-- What a run from an empty cache has counted are the visits of either kind. -/
theorem counters_after (capacity : Nat) (state : σ) (visits : List Visit) :
    let start : World σ := .fresh capacity state
    let counters := (deployment.after start visits).store.counters
    counters.hits = (deployment.accounts start visits).countP (·.outcome.isFound) ∧
      counters.misses = (deployment.accounts start visits).countP deployment.isMissed := by
  intro start counters
  induction visits using List.reverseRecOn with
  | nil => exact ⟨rfl, rfl⟩
  | append_singleton visits visit ih =>
    obtain ⟨hhits, hmisses⟩ :=
      deployment.counters_next (deployment.readable_after capacity state visits) visit
    simp only [counters, start, after_concat, accounts_concat, List.countP_append,
      List.countP_singleton]
    exact ⟨by rw [hhits, ih.1], by rw [hmisses, ih.2]⟩

/-- What is counted is what is seen. -/
structure Accounted (world : World σ) (accounts : List Account) : Prop where
  /-- Every entry is read back as a plain success, so no lookup finds one that it cannot read. -/
  readable : Readable world.store
  /-- Hits are the requests that were answered from the cache. -/
  hits : world.store.statistics.hits = accounts.countP (·.outcome.isFound)
  /-- Misses are the requests about which the cache was asked and which it did not answer. -/
  misses : world.store.statistics.misses = accounts.countP deployment.isMissed
  /-- No server was asked for a hit. -/
  quiet : ∀ account ∈ accounts, account.outcome.isFound = true → account.exchanges = []

/-- The answer to a visit tells where it comes from. -/
structure Marked (world : World σ) (visit : Visit) : Prop where
  /-- An answer that tells of no failure has one mark. -/
  marked : (∀ failure, (deployment.answer world visit).outcome ≠ .failed failure) →
    (deployment.answer world visit).response.headers.values .xCache = [hit] ∨
      (deployment.answer world visit).response.headers.values .xCache = [miss]
  /-- An answer is marked as a hit if the cache had it. -/
  hit_iff : (deployment.answer world visit).response.headers.values .xCache = [hit] ↔
    ∃ target stored, deployment.Admits visit target ∧
      (visit.lookUp target world.store).1 = some stored
  /-- An answer is marked as a miss if the cache did not have it and the fetch gave a response. -/
  miss_iff : (deployment.answer world visit).response.headers.values .xCache = [miss] ↔
    ∃ target raw, deployment.Admits visit target ∧ (visit.lookUp target world.store).1 = none ∧
      visit.request.body.length ≤ deployment.rules.maxBodySize ∧
      (deployment.fetch world visit target).1 = .ok raw

/-- The answer to every visit tells where it comes from. -/
theorem marked_answer (world : World σ) (visit : Visit) : deployment.Marked world visit where
  marked := by
    rw [Answer.response, Outcome.values_xCache]
    cases (deployment.answer world visit).outcome with
    | failed failure => exact fun h => absurd rfl (h failure)
    | found => exact fun _ => .inl rfl
    | fetched => exact fun _ => .inr rfl
  hit_iff := by
    rw [Answer.response, Outcome.values_xCache]
    constructor
    · intro hvalues
      cases houtcome : (deployment.answer world visit).outcome with
      | failed => simp [houtcome] at hvalues
      | found stored =>
        obtain ⟨target, hadmits, hfound⟩ := deployment.lookUp_of_found houtcome
        exact ⟨target, stored, hadmits, hfound⟩
      | fetched => simp [houtcome, miss_ne_hit] at hvalues
    · rintro ⟨target, stored, hadmits, hfound⟩
      rw [deployment.outcome_of_found hadmits hfound]
  miss_iff := by
    rw [Answer.response, Outcome.values_xCache]
    constructor
    · intro hvalues
      cases houtcome : (deployment.answer world visit).outcome with
      | failed => simp [houtcome] at hvalues
      | found => simp [houtcome, miss_ne_hit.symm] at hvalues
      | fetched => exact deployment.fetch_of_fetched houtcome
    · rintro ⟨target, raw, hadmits, hmissed, hshort, hfetch⟩
      rw [deployment.outcome_of_fetched hadmits hmissed hshort hfetch]

/-- A hit of a run has no exchanges. -/
theorem exchanges_of_mem_accounts {world : World σ} {visits : List Visit} {account : Account}
    (hmem : account ∈ deployment.accounts world visits) (hfound : account.outcome.isFound = true) :
    account.exchanges = [] := by
  obtain ⟨before, visit, -, -, rfl⟩ := deployment.exists_of_mem_accounts hmem
  cases houtcome : (deployment.answer (deployment.after world before) visit).outcome with
  | found => exact deployment.exchanges_of_found houtcome
  | _ => simp [account, houtcome, Outcome.isFound] at hfound

/-- At every point of a run from an empty cache, what the cache keeps can be read, its hits and misses
are those of the requests so far, and the answer to the next request tells which of the two it
is. -/
theorem traffic_accounted (capacity : Nat) (state : σ) (visits : List Visit) :
    let start : World σ := .fresh capacity state
    deployment.Accounted (deployment.after start visits) (deployment.accounts start visits) ∧
      ∀ visit, deployment.Marked (deployment.after start visits) visit := by
  intro start
  obtain ⟨hhits, hmisses⟩ := deployment.counters_after capacity state visits
  refine ⟨⟨deployment.readable_after capacity state visits, ?_, ?_,
    fun _ => deployment.exchanges_of_mem_accounts⟩, deployment.marked_answer _⟩
  · rwa [Cache.Store.statistics, Cache.Statistics.withOccupancy]
  · rwa [Cache.Store.statistics, Cache.Statistics.withOccupancy]

end Deployment

end ForwardProxy.Proxy
