import ForwardProxy.Proofs.Proxy.AllowedHosts

/-!
# What is seen of a run

An account of a visit says how it ended and which servers were asked. The accounts of a run are what
its clients and the servers see of it; the cache does not show in them. Whatever else it holds, a
cache that does not answer a visit makes no difference to what is seen of that visit.
-/

namespace ForwardProxy.Proxy

open Http Time

/-- What is seen of a visit. -/
structure Account where
  /-- The visit. -/
  visit : Visit
  /-- How it ended. -/
  outcome : Outcome
  /-- What reached the network. -/
  exchanges : List Client.Exchange

/-- The response to the client. -/
def Account.response (account : Account) : Response := account.outcome.response

/-- The request was answered from the cache. -/
def Outcome.isFound : Outcome → Bool
  | found _ => true
  | _ => false

namespace Deployment

variable {σ : Type} (deployment : Deployment σ)

/-- The account of a visit. -/
def account (world : World σ) (visit : Visit) : Account :=
  ⟨visit, (deployment.answer world visit).outcome, deployment.exchanges world visit⟩

/-- The accounts of visits that follow one another. -/
def accounts (world : World σ) : List Visit → List Account
  | [] => []
  | visit :: visits =>
    deployment.account world visit :: accounts (deployment.next world visit) visits

/-- The last account of a run is that of its last visit. -/
theorem accounts_concat (world : World σ) (visits : List Visit) (visit : Visit) :
    deployment.accounts world (visits ++ [visit]) =
      deployment.accounts world visits ++
        [deployment.account (deployment.after world visits) visit] := by
  induction visits generalizing world with
  | nil => rfl
  | cons first visits ih => exact congrArg _ (ih (deployment.next world first))

/-- Each account of a run is that of a visit in a world to which the visits before it lead. -/
theorem exists_of_mem_accounts {world : World σ} {visits : List Visit} {account : Account}
    (h : account ∈ deployment.accounts world visits) :
    ∃ before visit later, visits = before ++ visit :: later ∧
      account = deployment.account (deployment.after world before) visit := by
  induction visits generalizing world with
  | nil => simp [accounts] at h
  | cons visit visits ih =>
    rcases List.mem_cons.mp h with rfl | hrest
    · exact ⟨[], visit, visits, rfl, rfl⟩
    · obtain ⟨before, other, later, rfl, rfl⟩ := ih hrest
      exact ⟨visit :: before, other, later, rfl, rfl⟩

/-- Two worlds answer a visit alike. -/
structure AnswersAlike (world other : World σ) (visit : Visit) : Prop where
  /-- The visit ends in the same way, so the client sees the same response. -/
  outcome : (deployment.answer world visit).outcome = (deployment.answer other visit).outcome
  /-- The visit has the same exchanges with servers. -/
  exchanges : deployment.exchanges world visit = deployment.exchanges other visit
  /-- The visit leaves the network in the same state. -/
  state : (deployment.next world visit).state = (deployment.next other visit).state

/-- Caches that do not answer a visit make no difference to it. -/
theorem answersAlike_of_missed {store other : Cache.Store} (state : σ) {visit : Visit}
    (hmissed : ∀ target, deployment.Admits visit target → (visit.lookUp target store).1 = none)
    (hother : ∀ target, deployment.Admits visit target → (visit.lookUp target other).1 = none) :
    deployment.AnswersAlike ⟨store, state⟩ ⟨other, state⟩ visit := by
  obtain ⟨houtcome, hstate⟩ := deployment.answer_congr_of_missed state hmissed hother
  exact ⟨houtcome, deployment.exchanges_congr_of_missed state hmissed hother, hstate⟩

end Deployment

end ForwardProxy.Proxy
