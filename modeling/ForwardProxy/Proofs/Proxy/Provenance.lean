import ForwardProxy.Proofs.Proxy.SteadyServer

/-!
# Where a hit comes from

Every entry of the cache keeps a response that some visit of the run fetched, and since that visit
nothing was fetched for the same method and the same target by a request that asks the cache. A hit
reads such an entry back, so it repeats the response of the last fetch, within its time to live.
-/

namespace ForwardProxy.Proxy

open Http Time

/-- A hit repeats a response: without the field on how the octets of the body traveled, and marked
as a hit. -/
structure Repeats (response raw : Response) : Prop where
  /-- The status is the same. -/
  status : response.status = raw.status
  /-- The body is the same. -/
  body : response.body = raw.body
  /-- The values of every other name are the same, in order. -/
  values : ∀ name, response.headers.values name =
    if name = .xCache then [hit]
    else if name = .transferEncoding then []
    else raw.headers.values name

namespace Deployment

variable {σ : Type} (deployment : Deployment σ)

/-- A visit that asks the cache fetches, for this method and the text of this target. -/
def FetchesFor (world : World σ) (visit : Visit) (method : Method) (text : String) : Prop :=
  ∃ target, Policy.resolveTarget visit.request.uri = .ok target ∧ visit.AsksCache ∧
    visit.request.method = method ∧ target.text = text ∧
    (deployment.answer world visit).outcome.IsFetch

/-- A visit asks the cache about a target, and fetches a response that may be kept. -/
structure Keeps (world : World σ) (visit : Visit) (target : Url) (raw : Response) : Prop where
  /-- The target may be fetched from. -/
  admits : deployment.Admits visit target
  /-- The cache is asked. -/
  asks : visit.AsksCache
  /-- The response is what the fetch gives. -/
  fetched : (deployment.fetch world visit target).1 = .ok raw
  /-- The visit is answered with the response. -/
  outcome : (deployment.answer world visit).outcome = .fetched (passedOn raw)
  /-- The response may be kept. -/
  cacheable : Policy.responseCacheable raw.status raw.headers = true

/-- A run has a visit that keeps a response, and no visit after that fetches for its method and its
target. -/
structure Source (start : World σ) (visits before : List Visit) (origin : Visit)
    (between : List Visit) (target : Url) (raw : Response) : Prop where
  /-- The visits before, the visit, and the visits after it make up the run. -/
  split : visits = before ++ origin :: between
  /-- The visit keeps the response. -/
  keeps : deployment.Keeps (deployment.after start before) origin target raw
  /-- No later visit fetches for its method and its target. -/
  latest : ∀ earlier other later, between = earlier ++ other :: later →
    ¬deployment.FetchesFor (deployment.after start (before ++ origin :: earlier)) other
      origin.request.method target.text

/-- A visit that asks the cache does not fetch for a key. -/
def SkipsKey (world : World σ) (visit : Visit) (key : String) : Prop :=
  ∀ target, Policy.resolveTarget visit.request.uri = .ok target → visit.AsksCache →
    (deployment.answer world visit).outcome.IsFetch → visit.key target ≠ key

/-- What the cache still has after it did not answer was there before, and not under the key that it
was asked for. -/
theorem skipsKey_of_missed {world : World σ} {visit : Visit} {target : Url} {key : String}
    {entry : Cache.Entry} (hadmits : deployment.Admits visit target)
    (hmissed : (visit.lookUp target world.store).1 = none)
    (hreadable : world.store.entries[key]? = some entry →
      ∃ response, Cache.StoredResponse.decode entry.value = .ok response)
    (hleft : (visit.lookUp target world.store).2.entries[key]? = some entry) :
    world.store.entries[key]? = some entry ∧ deployment.SkipsKey world visit key := by
  have hbefore := Visit.getElem?_of_lookUp hleft
  obtain ⟨response, hresponse⟩ := hreadable hbefore
  refine ⟨hbefore, ?_⟩
  rintro other hresolved hasks - rfl
  obtain rfl : target = other := by simpa [hadmits.resolved] using hresolved
  exact Visit.getElem?_lookUp_of_none hasks hmissed hleft hresponse

/-- An entry that is in the cache after a visit was there before, and the visit did not fetch for
its key; or the visit keeps a response, and the entry is the one for that response. -/
theorem entry_of_next {world : World σ} {visit : Visit} {key : String} {entry : Cache.Entry}
    (hreadable : world.store.entries[key]? = some entry →
      ∃ response, Cache.StoredResponse.decode entry.value = .ok response)
    (hentry : (deployment.next world visit).store.entries[key]? = some entry) :
    (world.store.entries[key]? = some entry ∧ deployment.SkipsKey world visit key) ∨
    ∃ target raw, deployment.Keeps world visit target raw ∧ key = visit.key target ∧
      entry = visit.entry target deployment.rules (passedOn raw) := by
  have hturn := deployment.turn_answer world visit
  unfold next at hentry
  -- A visit whose outcome is no fetch skips every key.
  have hskips (hno : ¬(deployment.answer world visit).outcome.IsFetch) :
      deployment.SkipsKey world visit key := fun _ _ _ hfetch => absurd hfetch hno
  generalize hanswer : deployment.answer world visit = answer at hturn hentry hskips
  cases hturn with
  | refused hnone hfailure =>
    refine .inl ⟨hentry, hskips fun hfetch => ?_⟩
    unfold Outcome.IsFetch at hfetch
    split at hfetch
    · next heq => cases heq
    · next cause heq => exact hfailure cause (Outcome.failed.inj heq)
    · exact hfetch
  | found hadmits hfound => exact .inl ⟨Visit.getElem?_of_lookUp hentry, hskips id⟩
  | unread hadmits hmissed =>
    exact .inl (deployment.skipsKey_of_missed hadmits hmissed hreadable hentry)
  | unanswered hadmits hmissed hfetch =>
    exact .inl (deployment.skipsKey_of_missed hadmits hmissed hreadable hentry)
  | @fetched target raw hadmits hmissed hfetch =>
    rcases Visit.getElem?_of_keep hentry with hleft | ⟨⟨hasks, hcacheable⟩, hkey, rfl⟩
    · exact .inl (deployment.skipsKey_of_missed hadmits hmissed hreadable hleft)
    · have hraw := (responseCacheable_passedOn raw).symm.trans hcacheable
      exact .inr ⟨target, raw, ⟨hadmits, hasks, hfetch, by rw [hanswer], hraw⟩, hkey, rfl⟩

/-- A source stays one after a visit that does not fetch for its key. -/
theorem Source.concat {deployment : Deployment σ} {start : World σ} {visits before : List Visit}
    {origin : Visit} {between : List Visit} {target : Url} {raw : Response}
    (h : deployment.Source start visits before origin between target raw) {visit : Visit}
    (hvisit : ¬deployment.FetchesFor (deployment.after start visits) visit origin.request.method
      target.text) :
    deployment.Source start (visits ++ [visit]) before origin (between ++ [visit]) target raw where
  split := by simp [h.split]
  keeps := h.keeps
  latest := by
    intro earlier other later hsplit
    rcases List.eq_nil_or_concat later with rfl | ⟨front, last, rfl⟩
    · obtain ⟨rfl, heq⟩ := List.append_inj' hsplit rfl
      obtain rfl : visit = other := by simpa using heq
      rw [← h.split]
      exact hvisit
    · rw [List.concat_eq_append, ← List.cons_append, ← List.append_assoc] at hsplit
      exact h.latest earlier other front (List.append_inj' hsplit rfl).1

/-- Every entry that a run from an empty cache leaves there has a source. -/
theorem entry_of_after (capacity : Nat) (state : σ) {visits : List Visit} {key : String}
    {entry : Cache.Entry}
    (hentry : (deployment.after (.fresh capacity state) visits).store.entries[key]? = some entry) :
    ∃ before origin between target raw,
      deployment.Source (.fresh capacity state) visits before origin between target raw ∧
        key = origin.key target ∧ entry = origin.entry target deployment.rules (passedOn raw) := by
  induction visits using List.reverseRecOn with
  | nil => simp [after, World.fresh, Cache.Store.new] at hentry
  | append_singleton visits visit ih =>
    rw [after_concat] at hentry
    have hreadable
        (hbefore : (deployment.after (.fresh capacity state) visits).store.entries[key]? =
          some entry) :
        ∃ response, Cache.StoredResponse.decode entry.value = .ok response := by
      obtain ⟨_, origin, _, target, raw, _, _, rfl⟩ := ih hbefore
      exact ⟨_, Visit.decode_entry deployment.rules (passedOn raw)⟩
    rcases deployment.entry_of_next hreadable hentry with ⟨hbefore, hother⟩ | hkeeps
    · obtain ⟨before, origin, between, target, raw, hsource, rfl, rfl⟩ := ih hbefore
      refine ⟨before, origin, between ++ [visit], target, raw, hsource.concat ?_, rfl, rfl⟩
      rintro ⟨other, hresolved, hasks, hmethod, htext, hfetch⟩
      apply hother other hresolved hasks hfetch
      rw [Visit.key, Policy.cacheKey, hmethod, htext]
      rfl
    · obtain ⟨target, raw, hkeeps, rfl, rfl⟩ := hkeeps
      exact ⟨visits, visit, [], target, raw, ⟨rfl, hkeeps, by simp⟩, rfl, rfl⟩

/-- A hit repeats the response that the entry keeps by which it was answered. -/
theorem repeats_hitResponse (raw : Response) : Repeats (hitResponse (passedOn raw)) raw where
  status := rfl
  body := rfl
  values := by simp [hitResponse, passedOn]

/-- The entry for a response is live as long as the time to live of the response is not over. -/
theorem live_iff {rules : Rules} {origin : Visit} {target : Url} {raw : Response} {now : Instant} :
    (origin.entry target rules (passedOn raw)).expired now = false ↔ ∀ lifetime last,
      (Policy.lifetime? raw.headers origin.moments.received).or rules.defaultLifetime =
          some lifetime →
        lifetime ≠ Span.zero → origin.moments.received.add? lifetime = some last → ¬last < now := by
  rw [Bool.eq_false_iff, Ne, Cache.Entry.expired_iff]
  simp only [Visit.entry, Cache.Entry.new, Cache.expiryAfter?, Visit.lifetime?_passedOn,
    Option.mem_def, Option.bind_eq_some_iff, Option.filter_eq_some_iff, decide_eq_true_eq]
  constructor
  · intro hlive lifetime last hlifetime hzero hlast hpast
    exact hlive ⟨last, ⟨lifetime, ⟨hlifetime, hzero⟩, hlast⟩, hpast⟩
  · rintro hintime ⟨last, ⟨lifetime, ⟨hlifetime, hzero⟩, hlast⟩, hpast⟩
    exact hintime lifetime last hlifetime hzero hlast hpast

/-- A live entry for a response is not past the end of the time to live of that response. -/
theorem not_lt_of_live {rules : Rules} {origin : Visit} {target : Url} {raw : Response}
    {now last : Instant} {lifetime : Span}
    (hlive : (origin.entry target rules (passedOn raw)).expired now = false)
    (hlifetime : (Policy.lifetime? raw.headers origin.moments.received).or rules.defaultLifetime =
      some lifetime)
    (hzero : lifetime ≠ Span.zero) (hlast : origin.moments.received.add? lifetime = some last) :
    ¬last < now :=
  live_iff.mp hlive lifetime last hlifetime hzero hlast

/-- Whatever is found in the cache in a run from an empty one was asked for by a request that asks
the cache for an allowed host, and an earlier visit of the run for the same method and the text of
the same target asked the cache as well and fetched a response that may be kept. The answer repeats
that response. No visit since then that asks the cache for that method and target has fetched
anything. If the response has a time to live other than zero that ends at an instant, the cache was
asked no later than at that instant. -/
theorem found_repeats_latest_fetch {capacity : Nat} {state : σ} {visits : List Visit}
    {visit : Visit} {stored : Response}
    (hfound : (deployment.answer (deployment.after (.fresh capacity state) visits) visit).outcome =
      .found stored) :
    ∃ target, deployment.Admits visit target ∧ visit.AsksCache ∧
      ∃ before origin between originTarget raw,
        deployment.Source (.fresh capacity state) visits before origin between originTarget raw ∧
        origin.request.method = visit.request.method ∧ originTarget.text = target.text ∧
        Repeats
          (deployment.answer (deployment.after (.fresh capacity state) visits) visit).response raw ∧
        ∀ lifetime last,
          (Policy.lifetime? raw.headers origin.moments.received).or
              deployment.rules.defaultLifetime = some lifetime →
            lifetime ≠ Span.zero → origin.moments.received.add? lifetime = some last →
              ¬last < visit.moments.asked := by
  obtain ⟨target, hadmits, hlookUp⟩ := deployment.lookUp_of_found hfound
  obtain ⟨hasks, entry, hentry, hlive, hdecode⟩ := Visit.lookUp_eq_some.mp hlookUp
  obtain ⟨before, origin, between, originTarget, raw, hsource, hkey, rfl⟩ :=
    deployment.entry_of_after capacity state hentry
  obtain ⟨hmethod, htext⟩ := Policy.cacheKey_inj hkey
  rw [Visit.decode_entry, Except.ok.injEq] at hdecode
  refine ⟨target, hadmits, hasks, before, origin, between, originTarget, raw, hsource,
    hmethod.symm, htext.symm, ?_, fun _ _ => not_lt_of_live hlive⟩
  rw [Answer.response, hfound, ← hdecode]
  exact repeats_hitResponse raw

/-- The second visit to a server that always says the same repeats what the first one fetched. -/
theorem found_repeats_latest_fetch_steady :
    let deployment := Deployment.steady SteadyServer.greeting
    let world := deployment.after (.fresh 1 ()) [SteadyServer.visit]
    (deployment.answer world SteadyServer.visit).outcome =
        .found (passedOn SteadyServer.greeting) ∧
      ∃ before origin between target raw,
        deployment.Source (.fresh 1 ()) [SteadyServer.visit] before origin between target raw ∧
          Repeats (deployment.answer world SteadyServer.visit).response raw := by
  have hfound := SteadyServer.outcome_second SteadyServer.greeting (by decide) (by decide)
    Nat.one_pos
  obtain ⟨_, _, _, before, origin, between, target, raw, hsource, _, _, hrepeats, _⟩ :=
    found_repeats_latest_fetch _ hfound
  exact ⟨hfound, before, origin, between, target, raw, hsource, hrepeats⟩

end Deployment

end ForwardProxy.Proxy
