import ForwardProxy.Proofs.Proxy.Run

/-!
# A server that always answers the same

The smallest deployment in which something can be kept: every request gets the same response, and a
client asks for one address again and again. Whatever plain success the server answers with, the
first visit fetches it, and if it may be kept, the next visit finds it in the cache.
-/

namespace ForwardProxy.Proxy

open Http Time

/-- Every request gets the same response, and every host may be fetched from. -/
def Deployment.steady (response : Response) : Deployment Unit where
  rules := { maxBodySize := 0 }
  network := fun _ state =>
    (some { status := response.status, headers := response.headers, body := some response.body },
      state)

namespace SteadyServer

/-- The address that is asked for. -/
def target : Url := { scheme := "http".toList, host := some (.v6 1), path := .segments [[]] }

/-- A client asks for the address, without header fields and without a body. -/
def visit : Visit where
  request :=
    { method := .get
      uri := .absolute (Bytes.ofAscii "http") (Bytes.ofAscii "[::1]") [47] none
      headers := .empty
      body := [] }
  moments := Instant.epoch

/-- A plain success without header fields. -/
def greeting : Response where
  status := .ok
  headers := .empty
  body := Bytes.ofAscii "hello"

/-- The request of the visit names the address that is asked for. -/
theorem resolveTarget_visit : Policy.resolveTarget visit.request.uri = .ok target := by
  have hsome : (Policy.resolveTarget visit.request.uri).toOption = some target := by
    decide +kernel
  cases hresolved : Policy.resolveTarget visit.request.uri with
  | error cause => simp [hresolved, Except.toOption] at hsome
  | ok other =>
    rw [hresolved] at hsome
    rw [Option.some.inj hsome]

/-- The cache is asked about the visit. -/
theorem asksCache_visit : visit.AsksCache := by decide

/-- The address that is asked for can be fetched. -/
theorem isFetchable_outgoing : Client.isFetchable (visit.outgoing target).url = true := by
  decide +kernel

variable (response : Response)

/-- The steady proxy may fetch from the address that is asked for. -/
theorem admits_visit : (Deployment.steady response).Admits visit target :=
  ⟨resolveTarget_visit, rfl⟩

/-- A plain success redirects nowhere. -/
theorem redirect?_of_ok (reply : Client.Reply) (hok : reply.status = .ok) (url : Url) :
    Client.redirect? url reply = none := by
  have hplain : reply.status ∉ Client.redirectStatuses := by
    rw [hok]
    decide
  simp [Client.redirect?, hplain]

/-- A fetch from a server with a plain success gives that success. -/
theorem fetch_visit (hok : response.status = .ok) (world : World Unit) :
    ((Deployment.steady response).fetch world visit target).1 = .ok response := by
  unfold Deployment.fetch Client.fetch
  rw [if_pos isFetchable_outgoing]
  unfold Client.follow
  simp only [Deployment.steady]
  rw [redirect?_of_ok ⟨response.status, response.headers, some response.body⟩ hok]
  rfl

/-- The first visit is answered with the response of the server. -/
theorem outcome_first (hok : response.status = .ok) (capacity : Nat) :
    ((Deployment.steady response).answer (.fresh capacity ()) visit).outcome =
      .fetched (passedOn response) :=
  Deployment.outcome_of_fetched _ (admits_visit response) Visit.lookUp_new (Nat.le_refl 0)
    (fetch_visit response hok _)

/-- The next visit finds the response in the cache, if it may be kept and has no time to live. -/
theorem outcome_second
    (hcacheable : Policy.responseCacheable response.status response.headers = true)
    (hforever : Policy.lifetime? response.headers .epoch = none) {capacity : Nat}
    (hpos : 0 < capacity) :
    ((Deployment.steady response).answer
        ((Deployment.steady response).after (.fresh capacity ()) [visit]) visit).outcome =
      .found (passedOn response) := by
  have hok := (Policy.responseCacheable_iff.mp hcacheable).1
  apply Deployment.outcome_again _ (Cache.Store.inOrder_new capacity) hpos
    (outcome_first response hok capacity) asksCache_visit
  · rw [responseCacheable_passedOn, hcacheable]
  · intro last hlast
    rw [Visit.lifetime?_passedOn, show visit.moments.received = .epoch from rfl, hforever] at hlast
    cases hlast

end SteadyServer

end ForwardProxy.Proxy
