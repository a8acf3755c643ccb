import ForwardProxy.Proofs.Client.Exchanges
import ForwardProxy.Proofs.Proxy.SteadyServer

/-!
# Which hosts are asked

The list of allowed hosts is asked about the target of a request, and about nothing else. So all
that a visit fetches begins at a target whose host is allowed, and a visit for any other host has no
effect but its answer. Where redirects lead from there is up to those who answer: a host that is not
allowed is asked as soon as one that is allowed redirects to it.
-/

namespace ForwardProxy.Proxy

open Http Time

namespace Deployment

variable {σ : Type} (deployment : Deployment σ)

/-- A deployment with a record of all exchanges. -/
def recorded : Deployment (σ × List Client.Exchange) :=
  ⟨deployment.rules, deployment.network.recorded⟩

/-- The exchanges of a visit. -/
def exchanges (world : World σ) (visit : Visit) : List Client.Exchange :=
  (deployment.recorded.answer ⟨world.store, world.state, []⟩ visit).state.2

/-- A host may be fetched from. -/
abbrev Allows (url : Url) : Prop :=
  deployment.rules.domains.allows (Policy.targetHost url) = true

/-- A visit either fetches nothing, or has the exchanges of one fetch for its target. -/
theorem exchanges_eq (world : World σ) (visit : Visit) :
    deployment.exchanges world visit = [] ∨
      ∃ target, deployment.Admits visit target ∧
        deployment.exchanges world visit =
          Client.exchanges deployment.network (visit.outgoing target) world.state := by
  have hturn := deployment.recorded.turn_answer ⟨world.store, world.state, []⟩ visit
  unfold exchanges
  generalize deployment.recorded.answer ⟨world.store, world.state, []⟩ visit = answer at hturn ⊢
  cases hturn with
  | refused => exact .inl rfl
  | found => exact .inl rfl
  | unread => exact .inl rfl
  | @unanswered target _ hadmits => exact .inr ⟨target, ⟨hadmits.resolved, hadmits.allowed⟩, rfl⟩
  | @fetched target _ hadmits => exact .inr ⟨target, ⟨hadmits.resolved, hadmits.allowed⟩, rfl⟩

/-- Passing a visit on is the same with a record. -/
theorem forward_recorded (visit : Visit) (target : Url) (store : Cache.Store) (state : σ) :
    ∃ trail, ∀ before,
      forward deployment.rules deployment.network.recorded deployment.rules.maxBodySize
          visit.moments visit.request target store (state, before) =
        let answer := forward deployment.rules deployment.network deployment.rules.maxBodySize
          visit.moments visit.request target store state
        ⟨answer.outcome, answer.store, answer.state, before ++ trail⟩ := by
  unfold forward
  by_cases hlong : deployment.rules.maxBodySize < visit.request.body.length
  · simp only [if_pos hlong]
    exact ⟨[], fun before => by rw [List.append_nil]⟩
  · simp only [if_neg hlong, fetchFor]
    rw [← Visit.outgoing]
    refine ⟨Client.exchanges deployment.network (visit.outgoing target) state, fun before => ?_⟩
    rw [Client.fetch_recorded]
    rcases Client.fetch deployment.network (visit.outgoing target) state with ⟨_ | raw, after⟩ <;>
      rfl

/-- A visit is answered in the same way with a record, which grows by the exchanges of the
visit. -/
theorem answer_recorded (world : World σ) (visit : Visit) (before : List Client.Exchange) :
    deployment.recorded.answer ⟨world.store, world.state, before⟩ visit =
      ⟨(deployment.answer world visit).outcome, (deployment.answer world visit).store,
        (deployment.answer world visit).state, before ++ deployment.exchanges world visit⟩ := by
  have hrecorded : ∃ trail, ∀ before,
      deployment.recorded.answer ⟨world.store, world.state, before⟩ visit =
        ⟨(deployment.answer world visit).outcome, (deployment.answer world visit).store,
          (deployment.answer world visit).state, before ++ trail⟩ := by
    unfold answer handle handleWithin
    cases Policy.resolveTarget visit.request.uri with
    | error cause => exact ⟨[], fun before => by rw [List.append_nil]⟩
    | ok target =>
      have hsame (before : List Client.Exchange) :=
        deployment.recorded.answerFor_eq ⟨world.store, world.state, before⟩ visit target
      simp only [recorded] at hsame ⊢
      by_cases hallowed : deployment.rules.domains.allows (Policy.targetHost target) = true
      · simp only [if_pos hallowed, hsame, answerFor_eq]
        rcases visit.lookUp target world.store with ⟨_ | stored, store⟩
        · exact deployment.forward_recorded visit target store world.state
        · exact ⟨[], fun before => by rw [List.append_nil]⟩
      · refine ⟨[], fun before => ?_⟩
        simp only [if_neg hallowed, List.append_nil]
        exact if_neg hallowed
  obtain ⟨trail, htrail⟩ := hrecorded
  have hexchanges : deployment.exchanges world visit = trail := by
    rw [exchanges, htrail, List.nil_append]
  rw [htrail, hexchanges]

/-- A visit that the cache answers has no exchanges. -/
theorem exchanges_of_found {world : World σ} {visit : Visit} {stored : Response}
    (hfound : (deployment.answer world visit).outcome = .found stored) :
    deployment.exchanges world visit = [] := by
  have hturn := deployment.recorded.turn_answer ⟨world.store, world.state, []⟩ visit
  have houtcome : (deployment.recorded.answer ⟨world.store, world.state, []⟩ visit).outcome =
      .found stored := by
    rw [answer_recorded, hfound]
  unfold exchanges
  generalize deployment.recorded.answer ⟨world.store, world.state, []⟩ visit = answer
    at hturn houtcome ⊢
  cases hturn with
  | found => rfl
  | _ => cases houtcome

/-- A visit without a target that may be fetched from has no exchanges, and neither has one whose
body is too long. -/
theorem exchanges_of_unfetchable {world : World σ} {visit : Visit}
    (h : (∀ target, ¬deployment.Admits visit target) ∨
      deployment.rules.maxBodySize < visit.request.body.length) :
    deployment.exchanges world visit = [] := by
  have hfetch {target : Url} (hadmits : deployment.recorded.Admits visit target)
      (hshort : visit.request.body.length ≤ deployment.recorded.rules.maxBodySize) : False := by
    rcases h with hnone | hlong
    · exact hnone target ⟨hadmits.resolved, hadmits.allowed⟩
    · exact absurd hlong (Nat.not_lt.mpr hshort)
  have hturn := deployment.recorded.turn_answer ⟨world.store, world.state, []⟩ visit
  unfold exchanges
  generalize deployment.recorded.answer ⟨world.store, world.state, []⟩ visit = answer at hturn ⊢
  cases hturn with
  | refused => rfl
  | found => rfl
  | unread => rfl
  | unanswered hadmits _ _ hshort => exact (hfetch hadmits hshort).elim
  | fetched hadmits _ _ hshort => exact (hfetch hadmits hshort).elim

/-- A visit that the cache does not answer has the exchanges of a fetch, if its body is not too
long. -/
theorem exchanges_of_missed {world : World σ} {visit : Visit} {target : Url}
    (hadmits : deployment.Admits visit target)
    (hmissed : (visit.lookUp target world.store).1 = none)
    (hshort : visit.request.body.length ≤ deployment.rules.maxBodySize) :
    deployment.exchanges world visit =
      Client.exchanges deployment.network (visit.outgoing target) world.state := by
  have hturn := deployment.recorded.turn_answer ⟨world.store, world.state, []⟩ visit
  unfold exchanges
  generalize deployment.recorded.answer ⟨world.store, world.state, []⟩ visit = answer at hturn ⊢
  cases hturn with
  | refused hnone => exact absurd ⟨hadmits.resolved, hadmits.allowed⟩ (hnone target)
  | @found other _ hother hfound =>
    obtain rfl := hadmits.unique ⟨hother.resolved, hother.allowed⟩
    simp [hmissed] at hfound
  | unread _ _ hlong => exact absurd hlong (Nat.not_lt.mpr hshort)
  | @unanswered other _ hother =>
    obtain rfl := hadmits.unique ⟨hother.resolved, hother.allowed⟩
    rfl
  | @fetched other _ hother =>
    obtain rfl := hadmits.unique ⟨hother.resolved, hother.allowed⟩
    rfl

/-- Two caches that do not answer a visit let it have the same exchanges. -/
theorem exchanges_congr_of_missed {store other : Cache.Store} (state : σ) {visit : Visit}
    (hmissed : ∀ target, deployment.Admits visit target → (visit.lookUp target store).1 = none)
    (hother : ∀ target, deployment.Admits visit target → (visit.lookUp target other).1 = none) :
    deployment.exchanges ⟨store, state⟩ visit = deployment.exchanges ⟨other, state⟩ visit :=
  congrArg Prod.snd (deployment.recorded.answer_congr_of_missed (state, [])
    (fun target hadmits => hmissed target ⟨hadmits.resolved, hadmits.allowed⟩)
    (fun target hadmits => hother target ⟨hadmits.resolved, hadmits.allowed⟩)).2

/-- A visit for a target whose host is not allowed ends at once. -/
theorem answer_of_not_allows {world : World σ} {visit : Visit} {target : Url}
    (hresolved : Policy.resolveTarget visit.request.uri = .ok target)
    (hforbidden : ¬deployment.Allows target) :
    deployment.answer world visit =
      ⟨.failed (.hostNotAllowed (Policy.targetHost target)), world.store, world.state⟩ := by
  unfold answer handle handleWithin
  simp only [hresolved]
  exact if_neg hforbidden

/-- The host of a target is not changed by what is left out of the request for it. -/
theorem targetHost_outgoing (visit : Visit) (target : Url) :
    Policy.targetHost (visit.outgoing target).url = Policy.targetHost target := by
  unfold Visit.outgoing Client.Outgoing.new
  cases Client.credentials? target <;> rfl

/-- All that a visit fetches begins at its target, whose host is allowed, and goes on from there
along the redirects of those who answer, ten of them at most. So a host that is not allowed is asked
only if an earlier answer redirects to it, and as long as answers redirect to allowed hosts only, no
other host is asked. A visit for a target whose host is not allowed fetches nothing, leaves the
cache and the network alone, and is answered with the status for what is forbidden. -/
theorem exchanges_allowed_unless_redirected (world : World σ) (visit : Visit) :
    (deployment.exchanges world visit = [] ∨
      ∃ target, deployment.Admits visit target ∧
        Client.Trail Client.maxRedirects (visit.outgoing target).url
          (deployment.exchanges world visit)) ∧
    (∀ exchange ∈ deployment.exchanges world visit, deployment.Allows exchange.url ∨
      ∃ earlier ∈ deployment.exchanges world visit, earlier.RedirectsTo exchange.url) ∧
    ∀ target, Policy.resolveTarget visit.request.uri = .ok target → ¬deployment.Allows target →
      deployment.exchanges world visit = [] ∧ deployment.next world visit = world ∧
        (deployment.answer world visit).outcome =
          .failed (.hostNotAllowed (Policy.targetHost target)) ∧
        (deployment.answer world visit).response.status = .forbidden := by
  have htrail : deployment.exchanges world visit = [] ∨
      ∃ target, deployment.Admits visit target ∧
        Client.Trail Client.maxRedirects (visit.outgoing target).url
          (deployment.exchanges world visit) := by
    rcases deployment.exchanges_eq world visit with hnone | ⟨target, hadmits, heq⟩
    · exact .inl hnone
    · rw [heq]
      rcases Client.exchanges_eq_nil_or_trail deployment.network (visit.outgoing target)
        world.state with hnone | htrail
      · exact .inl hnone
      · exact .inr ⟨target, hadmits, htrail⟩
  refine ⟨htrail, ?_, fun target hresolved hforbidden => ?_⟩
  · rcases htrail with hnone | ⟨target, hadmits, htrail⟩
    · simp [hnone]
    · intro exchange hmem
      refine (htrail.eq_or_redirectsTo exchange hmem).imp_left fun hstart => ?_
      rw [Allows, hstart, targetHost_outgoing]
      exact hadmits.allowed
  · have hanswer : deployment.answer world visit = _ :=
      deployment.answer_of_not_allows hresolved hforbidden
    refine ⟨?_, by rw [next, hanswer], by rw [hanswer], by rw [hanswer]; rfl⟩
    rw [exchanges, deployment.recorded.answer_of_not_allows hresolved hforbidden]

end Deployment

/-! A server whose host is allowed redirects to one whose host is not. -/

namespace Redirection

/-- The address of a server whose host is not allowed. -/
def other : Url := { scheme := "http".toList, host := some (.v6 2), path := .segments [[]] }

/-- A redirect to the server whose host is not allowed. -/
def reply : Client.Reply where
  status := .found
  headers := Headers.empty.append .location { bytes := Bytes.ofAscii "http://[::2]/" }
  body := some []

/-- A proxy with one allowed host, in a network where every server answers with the redirect. -/
def deployment : Deployment Unit where
  rules := { domains := { domains := ["[::1]"] }, maxBodySize := 0 }
  network := fun _ state => (some reply, state)

/-- A visit to the allowed host has a server asked whose host is not allowed. -/
theorem forbidden_host_is_asked :
    ¬∀ exchange ∈ deployment.exchanges (.fresh 1 ()) SteadyServer.visit,
      deployment.Allows exchange.url := by
  intro hall
  have hexchanges : deployment.exchanges (.fresh 1 ()) SteadyServer.visit =
      Client.exchanges deployment.network (SteadyServer.visit.outgoing SteadyServer.target) () :=
    deployment.exchanges_of_missed ⟨SteadyServer.resolveTarget_visit, by decide⟩ Visit.lookUp_new
      (Nat.le_refl 0)
  have hredirect :
      Client.redirect? (SteadyServer.visit.outgoing SteadyServer.target).url reply = some other := by
    decide +kernel
  obtain ⟨exchange, hmem, hurl⟩ := Client.exists_exchange_of_redirect deployment.network
    SteadyServer.isFetchable_outgoing rfl hredirect (by decide +kernel)
  have hallows := hall exchange (hexchanges ▸ hmem)
  rw [hurl] at hallows
  exact absurd hallows (by decide)

end Redirection

end ForwardProxy.Proxy
