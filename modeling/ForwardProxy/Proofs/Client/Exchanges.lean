import ForwardProxy.Client.Fetch

/-!
# What a fetch asks for

A network that keeps a record shows every address that a fetch asks for, with what came back. The
record changes nothing else. The first address on it is the one of the request, and each later one
is where the reply before it redirects to, for as many redirects as are followed.
-/

namespace ForwardProxy.Client

open Http

/-- A request that was sent, and what came back. -/
structure Exchange where
  /-- The address that was asked for. -/
  url : Url
  /-- What the server sent back, if anything. -/
  reply : Option Reply

/-- What came back redirects to an address. -/
def Exchange.RedirectsTo (exchange : Exchange) (next : Url) : Prop :=
  ∃ reply ∈ exchange.reply, redirect? exchange.url reply = some next

/-- A network with a record of all exchanges. -/
def Network.recorded {σ : Type} (network : Network σ) : Network (σ × List Exchange) :=
  fun request world =>
    let answer := network request world.1
    (answer.1, answer.2, world.2 ++ [⟨request.url, answer.1⟩])

/-- Exchanges that begin at an address and follow up to `hops` redirects: each one asks for the
address to which the one before it redirects. -/
inductive Trail : (hops : Nat) → (start : Url) → List Exchange → Prop where
  /-- No redirect is followed. -/
  | last {hops : Nat} (url : Url) (reply : Option Reply) : Trail hops url [⟨url, reply⟩]
  /-- A redirect is followed. -/
  | redirected {hops : Nat} {url next : Url} {reply : Reply} {rest : List Exchange}
    (hredirect : redirect? url reply = some next) (hrest : Trail hops next rest) :
    Trail (hops + 1) url (⟨url, some reply⟩ :: rest)

namespace Trail

variable {hops : Nat} {start : Url} {exchanges : List Exchange}

/-- A trail has its start. -/
theorem exists_start (h : Trail hops start exchanges) :
    ∃ exchange ∈ exchanges, exchange.url = start := by
  cases h with
  | last => exact ⟨_, List.mem_cons_self, rfl⟩
  | redirected => exact ⟨_, List.mem_cons_self, rfl⟩

/-- Every address on a trail is its start, or some exchange on it redirects there. -/
theorem eq_or_redirectsTo (h : Trail hops start exchanges) :
    ∀ exchange ∈ exchanges, exchange.url = start ∨
      ∃ earlier ∈ exchanges, earlier.RedirectsTo exchange.url := by
  induction h with
  | last =>
    intro exchange hmem
    rw [List.mem_singleton.mp hmem]
    exact .inl rfl
  | redirected hredirect _ ih =>
    intro exchange hmem
    rcases List.mem_cons.mp hmem with rfl | hmem
    · exact .inl rfl
    · refine .inr ?_
      rcases ih exchange hmem with heq | ⟨earlier, hearlier, hto⟩
      · exact ⟨_, List.mem_cons_self, _, rfl, heq ▸ hredirect⟩
      · exact ⟨earlier, List.mem_cons_of_mem _ hearlier, hto⟩

end Trail

variable {σ : Type} (network : Network σ)

/-- The exchanges of a fetch. -/
def exchanges (request : Outgoing) (state : σ) : List Exchange :=
  (fetch network.recorded request (state, [])).2.2

/-- Following redirects is the same with a record, which grows by a trail from the address of the
request. -/
theorem follow_recorded (target : Url) (hops : Nat) (request : Outgoing) (state : σ) :
    ∃ trail, Trail hops request.url trail ∧ ∀ before,
      follow network.recorded target hops request (state, before) =
        ((follow network target hops request state).1,
          (follow network target hops request state).2, before ++ trail) := by
  induction hops generalizing request state with
  | zero =>
    refine ⟨_, .last request.url (network request.sent state).1, fun before => ?_⟩
    unfold follow
    simp only [Network.recorded]
    rcases network request.sent state with ⟨_ | reply, after⟩
    · rfl
    · dsimp only
      cases redirect? request.url reply <;> rfl
  | succ hops ih =>
    unfold follow
    simp only [Network.recorded]
    rcases network request.sent state with ⟨_ | reply, after⟩
    · exact ⟨_, .last request.url none, fun before => rfl⟩
    · dsimp only
      cases hredirect : redirect? request.url reply with
      | none => exact ⟨_, .last request.url (some reply), fun before => rfl⟩
      | some next =>
        by_cases hfetchable : isFetchable next = true
        · obtain ⟨rest, hrest, heq⟩ := ih (request.redirected reply.status next) after
          refine ⟨_, .redirected hredirect hrest, fun before => ?_⟩
          simp only [if_pos hfetchable, heq, List.append_assoc]
          rfl
        · simp only [if_neg hfetchable]
          exact ⟨_, .last request.url (some reply), fun before => rfl⟩

/-- A fetch is the same with a record, which grows by the exchanges of the fetch. -/
theorem fetch_recorded (request : Outgoing) (state : σ) (before : List Exchange) :
    fetch network.recorded request (state, before) =
      ((fetch network request state).1, (fetch network request state).2,
        before ++ exchanges network request state) := by
  unfold exchanges fetch
  by_cases hfetchable : isFetchable request.url = true
  · obtain ⟨trail, -, heq⟩ := follow_recorded network request.url maxRedirects request state
    simp only [if_pos hfetchable, heq, List.nil_append]
  · simp only [if_neg hfetchable, List.append_nil]

/-- The exchanges of a fetch are a trail from the address of the request, if that can be fetched. -/
theorem exchanges_eq_nil_or_trail (request : Outgoing) (state : σ) :
    exchanges network request state = [] ∨
      Trail maxRedirects request.url (exchanges network request state) := by
  unfold exchanges fetch
  by_cases hfetchable : isFetchable request.url = true
  · obtain ⟨trail, htrail, heq⟩ := follow_recorded network request.url maxRedirects request state
    rw [if_pos hfetchable, heq, List.nil_append]
    exact .inr htrail
  · rw [if_neg hfetchable]
    exact .inl rfl

/-- The first redirect is followed, if its address can be fetched. -/
theorem exists_exchange_of_redirect {request : Outgoing} {state : σ} {reply : Reply} {next : Url}
    (hfetchable : isFetchable request.url = true)
    (hreply : (network request.sent state).1 = some reply)
    (hredirect : redirect? request.url reply = some next) (hnext : isFetchable next = true) :
    ∃ exchange ∈ exchanges network request state, exchange.url = next := by
  obtain ⟨hops, hhops⟩ : ∃ hops, maxRedirects = hops + 1 :=
    Nat.exists_eq_succ_of_ne_zero (by decide)
  obtain ⟨rest, hrest, heq⟩ := follow_recorded network request.url hops
    (request.redirected reply.status next) (network request.sent state).2
  obtain ⟨exchange, hmem, hurl⟩ := hrest.exists_start
  refine ⟨exchange, ?_, hurl⟩
  unfold exchanges fetch
  rw [if_pos hfetchable, hhops, follow]
  simp only [Network.recorded, hreply, hredirect, if_pos hnext]
  rw [heq]
  exact List.mem_append_right _ hmem

end ForwardProxy.Client
