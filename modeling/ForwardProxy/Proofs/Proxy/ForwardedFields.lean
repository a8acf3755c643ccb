import ForwardProxy.Proofs.Client.SentFields
import ForwardProxy.Proofs.Http.RequestUri
import ForwardProxy.Proofs.Http.Token
import ForwardProxy.Proofs.Net.Address
import ForwardProxy.Proofs.Proxy.SteadyServer

/-!
# Which fields are passed on

A request is passed on with the fields of its client, but for four names. The two fields that concern
the connection to the proxy are left out. Two others are the proxy's own to fill in: who asked, if
that is known, and for which host. What the client wrote under these names does not matter then, so
no server that is asked for it learns of another sender than the real one.
-/

namespace ForwardProxy.Proxy

open Http

/-- The names of which the values are not simply passed on. -/
def filledIn : List FieldName := [.host, .connection, .xForwardedFor, .xForwardedHost]

/-- What is passed on for a request. -/
structure PassesOn (request : Request) (passed : Headers) : Prop where
  /-- The host that the proxy was asked as is left out, whatever values it has. -/
  host : passed.values .host = []
  /-- What concerns the connection is left out. -/
  connection : passed.values .connection = []
  /-- A sender that is known is named by its address, and no other is. -/
  sender : ∀ peer ∈ request.peer,
    (passed.values .xForwardedFor).map (·.bytes) = [Utf8.encode peer.text]
  /-- If the sender is not known, what the client wrote stays. -/
  noSender : request.peer = none →
    passed.values .xForwardedFor = request.headers.values .xForwardedFor
  /-- The first host that the client named is the one that was asked. -/
  namedHost : ∀ first later, request.headers.values .host = first :: later →
    passed.values .xForwardedHost = [first]
  /-- If the client named no host, the host that was asked is the one in the target of the
  request. -/
  targetHost : request.headers.values .host = [] → ∀ authority ∈ request.uri.authority?,
    (passed.values .xForwardedHost).map (·.bytes) = [authority]
  /-- If neither the client nor the target names a host, what the client wrote stays. -/
  noHost : request.headers.values .host = [] → request.uri.authority? = none →
    passed.values .xForwardedHost = request.headers.values .xForwardedHost
  /-- Every other name has the values that the client gave it, in their order. -/
  others : ∀ name ∉ filledIn, passed.values name = request.headers.values name

/-! ### One value -/

variable {request : Request} {headers : Headers} {name other : FieldName}

/-- Other names keep their values when one is given a value. -/
theorem values_insertIfSome_of_ne (h : other ≠ name) (headers : Headers) (octets : Option Bytes) :
    (insertIfSome headers name octets).values other = headers.values other := by
  cases octets with
  | none => rfl
  | some octets => exact Headers.values_insertOctets_of_ne h headers octets

/-- A name that is given a value has no other. -/
theorem values_insertIfSome {octets : Bytes} {value : FieldValue}
    (h : FieldValue.ofBytes? octets = some value) :
    (insertIfSome headers name (some octets)).values name = [value] := by
  rw [insertIfSome, Headers.insertOctets_eq_insert h, Headers.values_insert, if_pos rfl]

/-- A name that is given octets has these as its only value. -/
theorem map_bytes_values_insertIfSome {octets : Bytes} (h : IsValue octets) :
    ((insertIfSome headers name (some octets)).values name).map (·.bytes) = [octets] := by
  have hvalue : FieldValue.ofBytes? octets = some ⟨octets, List.all_eq_true.mpr h⟩ :=
    FieldValue.ofBytes?_eq_some_iff.mpr ⟨h, rfl⟩
  rw [values_insertIfSome hvalue]
  rfl

/-- The text of an address is a value. -/
theorem isValue_text (peer : Net.SocketAddress) : IsValue (Utf8.encode peer.text) := by
  apply isValue_encode
  intro c hc
  have hseen : 32 < c.toNat ∧ c.toNat < 127 := peer.isVisible_text c hc
  omega

/-- The authority of a target is a value. -/
theorem isValue_authority {data authority : Bytes} {uri : RequestUri}
    (hread : RequestUri.parse data = .ok uri) (h : uri.authority? = some authority) :
    IsValue authority := by
  have hallowed : ∀ b, RequestUri.IsVisible b → isValueOctet b = true :=
    forall_octet (by decide +kernel)
  exact fun b hmem => hallowed b (RequestUri.forall_isVisible_of_authority? hread h b hmem)

/-! ### All values that are passed on -/

/-- A name that is not filled in has its values, unless it is left out. -/
theorem values_forwardedHeaders (hsender : name ≠ .xForwardedFor) (hhost : name ≠ .xForwardedHost) :
    (forwardedHeaders request).values name =
      if name = .host then [] else if name = .connection then []
      else request.headers.values name := by
  unfold forwardedHeaders
  dsimp only
  rw [values_insertIfSome_of_ne hhost, values_insertIfSome_of_ne hsender, Headers.values_erase,
    Headers.values_erase]

/-- Who sent a request is filled in, whatever host was asked. -/
theorem values_xForwardedFor :
    (forwardedHeaders request).values .xForwardedFor =
      (insertIfSome ((request.headers.erase .connection).erase .host) .xForwardedFor
        (request.peer.map fun peer => Utf8.encode peer.text)).values .xForwardedFor :=
  values_insertIfSome_of_ne (by decide) _ _

/-- What a client wrote under a name that is filled in is still there when nothing but the host and
the connection has been left out. -/
theorem values_erased (hconnection : name ≠ .connection) (hhost : name ≠ .host)
    (headers : Headers) :
    ((headers.erase .connection).erase .host).values name = headers.values name := by
  rw [Headers.values_erase, if_neg hhost, Headers.values_erase, if_neg hconnection]

/-- The host that was asked is the first that the client named. -/
theorem askedHost?_of_named {first : FieldValue} {later : List FieldValue}
    (h : request.headers.values .host = first :: later) :
    askedHost? request = some first.bytes := by
  rw [askedHost?, Headers.get?_eq_head?, h]
  rfl

/-- The host that was asked is the one in the target, if the client named none. -/
theorem askedHost?_of_not_named (h : request.headers.values .host = []) :
    askedHost? request = request.uri.authority? := by
  rw [askedHost?, Headers.get?_eq_head?, h]
  rfl

/-- The fields that are passed on for a request that was read. -/
theorem passesOn_forwardedHeaders {data : Bytes} (hread : RequestUri.parse data = .ok request.uri) :
    PassesOn request (forwardedHeaders request) where
  host := values_forwardedHeaders (by decide) (by decide)
  connection := values_forwardedHeaders (by decide) (by decide)
  sender := by
    intro peer hpeer
    rw [values_xForwardedFor, Option.mem_def.mp hpeer]
    exact map_bytes_values_insertIfSome (isValue_text peer)
  noSender := by
    intro hnone
    rw [values_xForwardedFor, hnone]
    exact values_erased (by decide) (by decide) _
  namedHost := by
    intro first later hhost
    rw [forwardedHeaders, askedHost?_of_named hhost]
    exact values_insertIfSome first.ofBytes?_bytes
  targetHost := by
    intro hhost authority hauthority
    rw [forwardedHeaders, askedHost?_of_not_named hhost, Option.mem_def.mp hauthority]
    exact map_bytes_values_insertIfSome (isValue_authority hread hauthority)
  noHost := by
    intro hhost hauthority
    rw [forwardedHeaders, askedHost?_of_not_named hhost, hauthority]
    change (insertIfSome _ .xForwardedFor _).values .xForwardedHost = _
    rw [values_insertIfSome_of_ne (by decide), values_erased (by decide) (by decide)]
  others := by
    intro name hname
    simp only [filledIn, List.mem_cons, List.not_mem_nil, or_false, not_or] at hname
    obtain ⟨hhost, hconnection, hsender, hasked⟩ := hname
    rw [values_forwardedHeaders hsender hasked, if_neg hhost, if_neg hconnection]

/-! ### What servers are sent -/

namespace Deployment

variable {σ : Type} (deployment : Deployment σ)

/-- A deployment with a log of what servers are sent. -/
def logged : Deployment (σ × List Client.Outgoing) :=
  ⟨deployment.rules, deployment.network.logged⟩

/-- What servers are sent while a visit is answered. -/
def sent (world : World σ) (visit : Visit) : List Client.Outgoing :=
  (deployment.logged.answer ⟨world.store, world.state, []⟩ visit).state.2

/-- A visit either has nothing sent, or what a fetch for its target sends. -/
theorem sent_eq (world : World σ) (visit : Visit) :
    deployment.sent world visit = [] ∨
      ∃ target, deployment.Admits visit target ∧
        deployment.sent world visit =
          (Client.fetch deployment.network.logged (visit.outgoing target) (world.state, [])).2.2 := by
  have hturn := deployment.logged.turn_answer ⟨world.store, world.state, []⟩ visit
  unfold sent
  generalize deployment.logged.answer ⟨world.store, world.state, []⟩ visit = answer at hturn ⊢
  cases hturn with
  | refused | found | unread => exact .inl rfl
  | unanswered hadmits | fetched hadmits =>
    exact .inr ⟨_, ⟨hadmits.resolved, hadmits.allowed⟩, rfl⟩

/-- A visit that the cache does not answer has its request sent, if its body is not too long. -/
theorem outgoing_mem_sent {world : World σ} {visit : Visit} {target : Url}
    (hadmits : deployment.Admits visit target)
    (hmissed : (visit.lookUp target world.store).1 = none)
    (hshort : visit.request.body.length ≤ deployment.rules.maxBodySize)
    (hfetchable : Client.isFetchable (visit.outgoing target).url = true) :
    (visit.outgoing target).sent ∈ deployment.sent world visit := by
  have hmem := Client.sent_mem_fetch deployment.network hfetchable world.state
  have hturn := deployment.logged.turn_answer ⟨world.store, world.state, []⟩ visit
  unfold sent
  generalize deployment.logged.answer ⟨world.store, world.state, []⟩ visit = answer at hturn ⊢
  cases hturn with
  | refused hnone => exact absurd ⟨hadmits.resolved, hadmits.allowed⟩ (hnone target)
  | found hother hfound =>
    obtain rfl := hadmits.unique ⟨hother.resolved, hother.allowed⟩
    simp [hmissed] at hfound
  | unread _ _ hlong => exact absurd hlong (Nat.not_lt.mpr hshort)
  | unanswered hother | fetched hother =>
    obtain rfl := hadmits.unique ⟨hother.resolved, hother.allowed⟩
    exact hmem

/-- All that is sent for a visit has the values that are passed on, but under the names that a fetch
has to do with itself. -/
theorem values_of_mem_sent {name : FieldName} (hname : name ∉ Client.touchedFields)
    {world : World σ} {visit : Visit} {request : Client.Outgoing}
    (hsent : request ∈ deployment.sent world visit) :
    request.headers.values name = (forwardedHeaders visit.request).values name := by
  rcases deployment.sent_eq world visit with hnone | ⟨target, -, heq⟩
  · rw [hnone] at hsent
    cases hsent
  · rw [heq] at hsent
    rw [Client.sameValues_of_mem_fetch deployment.network _ _ request hsent name hname,
      Visit.outgoing, Client.values_new hname]

/-- The fields that are passed on for a request are exactly those of its client, but for the four
names that the proxy fills in or leaves out. Whatever the cache holds, however servers answer and
wherever they redirect to, all that a server is sent for the request has these values under every
name that a fetch does not touch. So a sender that is known is the only one that any server learns
of, whatever the client wrote. -/
theorem passes_on_exactly {data : Bytes} {visit : Visit}
    (hread : RequestUri.parse data = .ok visit.request.uri) (world : World σ) :
    PassesOn visit.request (forwardedHeaders visit.request) ∧
      ∀ request ∈ deployment.sent world visit,
        (∀ name ∉ Client.touchedFields,
          request.headers.values name = (forwardedHeaders visit.request).values name) ∧
        ∀ peer ∈ visit.request.peer,
          (request.headers.values .xForwardedFor).map (·.bytes) = [Utf8.encode peer.text] := by
  have hpasses := passesOn_forwardedHeaders hread
  refine ⟨hpasses, fun request hsent => ⟨fun name hname => ?_, fun peer hpeer => ?_⟩⟩
  · exact deployment.values_of_mem_sent hname hsent
  · rw [deployment.values_of_mem_sent (by decide) hsent]
    exact hpasses.sender peer hpeer

end Deployment

/-- A client names two hosts, and two senders that it is not. -/
def forgedVisit : Visit where
  request :=
    { SteadyServer.visit.request with
      headers := .ofLines
        [(.xForwardedFor, { bytes := Bytes.ofAscii "192.0.2.1" }),
          (.host, { bytes := Bytes.ofAscii "a.test" }),
          (.connection, { bytes := Bytes.ofAscii "x-forwarded-for" }),
          (.host, { bytes := Bytes.ofAscii "b.test" }),
          (.xForwardedFor, { bytes := Bytes.ofAscii "192.0.2.2" })]
      peer := some ⟨.v4 0x0A000007, 51234, 0⟩ }
  moments := Time.Instant.epoch

/-- For a client that names two hosts and two false senders, the server is sent the first of the
hosts and the true sender. -/
theorem passes_on_exactly_forgedVisit :
    let deployment := Deployment.steady SteadyServer.greeting
    RequestUri.parse (Bytes.ofAscii "http://[::1]/") = .ok forgedVisit.request.uri ∧
      ∃ request ∈ deployment.sent (.fresh 1 ()) forgedVisit,
        request.headers.values .xForwardedHost = [{ bytes := Bytes.ofAscii "a.test" }] ∧
        (request.headers.values .xForwardedFor).map (·.bytes) =
          [Bytes.ofAscii "10.0.0.7:51234"] := by
  intro deployment
  have hread : RequestUri.parse (Bytes.ofAscii "http://[::1]/") = .ok forgedVisit.request.uri := by
    decide +kernel
  have hsent : (forgedVisit.outgoing SteadyServer.target).sent ∈
      deployment.sent (.fresh 1 ()) forgedVisit :=
    deployment.outgoing_mem_sent ⟨SteadyServer.resolveTarget_visit, rfl⟩ Visit.lookUp_new
      (Nat.le_refl 0) (by decide +kernel)
  obtain ⟨hpasses, hall⟩ := deployment.passes_on_exactly hread (.fresh 1 ())
  obtain ⟨hvalues, hpeer⟩ := hall _ hsent
  refine ⟨hread, _, hsent, ?_, hpeer ⟨.v4 0x0A000007, 51234, 0⟩ rfl⟩
  rw [hvalues .xForwardedHost (by decide)]
  exact hpasses.namedHost _ [{ bytes := Bytes.ofAscii "b.test" }] (by decide)

end ForwardProxy.Proxy
