import ForwardProxy.Proofs.Http.Token
import ForwardProxy.Proofs.Service.Session

/-!
# The numbers that responses show

Every request goes through the service under a number: the first that its client gave it, or else
the next of the service's own count of requests without one. Its response shows that number, unless
it is a response of a server that has a number already. Such a response was fetched for this request
or for an earlier one, so it may show the number of another request.
-/

namespace ForwardProxy

open Http Time Proxy

namespace Service

/-! ### Numbers as values of fields -/

/-- The octet of a digit has the number of its character. -/
theorem toNat_octet_of_isDigit {c : Char} (h : c.isDigit = true) :
    c.toNat.toUInt8.toNat = c.toNat := by
  have hgreatest : c.toNat ≤ 57 := (Char.isDigit_iff_toNat.mp h).2
  rw [Nat.toUInt8, UInt8.toNat_ofNat', Nat.mod_eq_of_lt (by omega)]

/-- Digits may stand in the value of a field. -/
theorem isValueOctet_of_isDigit {c : Char} (h : c.isDigit = true) :
    isValueOctet c.toNat.toUInt8 = true := by
  have hnat := toNat_octet_of_isDigit h
  obtain ⟨hleast, hgreatest⟩ : 48 ≤ c.toNat ∧ c.toNat ≤ 57 := Char.isDigit_iff_toNat.mp h
  exact isValueOctet_of_toNat (by omega) (by omega)

/-- The octets of a number are its digits. -/
theorem toChars_numberOctets (n : Nat) : (numberOctets n).toChars = Nat.toDigits 10 n := by
  rw [numberOctets, Bytes.ofAscii, String.toList_ofList, Bytes.toChars, List.map_map]
  conv_rhs => rw [← List.map_id (Nat.toDigits 10 n)]
  apply List.map_congr_left
  intro c hc
  have hdigit := Nat.isDigit_of_mem_toDigits (by decide) (Nat.le_refl 10) hc
  simp [toNat_octet_of_isDigit hdigit]

/-- Different numbers have different octets. -/
theorem numberOctets_injective : Function.Injective numberOctets := by
  intro n other heq
  have hdigits := congrArg Bytes.toChars heq
  rw [toChars_numberOctets, toChars_numberOctets] at hdigits
  rw [← Nat.ofDigitChars_ten_toDigits (n := n), hdigits, Nat.ofDigitChars_ten_toDigits]

/-- A number in digits is the value of a field. -/
theorem all_isValueOctet_numberOctets (n : Nat) : (numberOctets n).all isValueOctet = true := by
  rw [List.all_eq_true]
  intro octet hoctet
  simp only [numberOctets, Bytes.ofAscii, String.toList_ofList, List.mem_map] at hoctet
  obtain ⟨c, hc, rfl⟩ := hoctet
  exact isValueOctet_of_isDigit (Nat.isDigit_of_mem_toDigits (by decide) (Nat.le_refl 10) hc)

/-- The value of a field that holds a number. -/
def numberValue (n : Nat) : FieldValue := ⟨numberOctets n, all_isValueOctet_numberOctets n⟩

/-- A number in digits can always be inserted as the value of a name. -/
theorem insertOctets_numberOctets (headers : Headers) (name : FieldName) (n : Nat) :
    headers.insertOctets name (numberOctets n) = headers.insert name (numberValue n) :=
  Headers.insertOctets_eq_insert (FieldValue.ofBytes?_bytes (numberValue n)) headers name

/-! ### What the layers do to numbers -/

variable (service : Service) (visit : Visit)

/-- The number under which a visit goes through the service. -/
def ownValue : FieldValue :=
  (visit.request.headers.get? .xRequestId).getD (numberValue (service.ids.issued + 1))

/-- The inner layers get the request under the number of its visit. -/
theorem get?_numbered :
    (service.numbered visit).request.headers.get? .xRequestId = some (service.ownValue visit) := by
  unfold numbered number ownValue Headers.contains
  cases hnamed : visit.request.headers.get? .xRequestId with
  | some value => simpa using hnamed
  | none => simp [RequestIds.next, insertOctets_numberOctets, Headers.get?_eq_head?]

/-- The response that is presented shows the number of the visit, unless it has one already. -/
theorem values_presented (response : Response) :
    (service.presented visit response).headers.values .xRequestId =
      if response.headers.values .xRequestId = [] then [service.ownValue visit]
      else response.headers.values .xRequestId := by
  have hshown : (showNumber (service.numbered visit).request response).headers.values .xRequestId =
      if response.headers.values .xRequestId = [] then [service.ownValue visit]
      else response.headers.values .xRequestId := by
    unfold showNumber
    rw [get?_numbered]
    unfold Headers.contains
    rw [Headers.get?_eq_head?]
    cases hvalues : response.headers.values .xRequestId with
    | nil => simp
    | cons value values => simp [hvalues]
  unfold presented
  simp only
  split
  · rw [values_finishResource (by decide), hshown]
  · exact hshown

end Service

namespace Scene

variable {σ : Type} {network : Client.Network σ} {scene : Scene σ}

/-- The numbers that a response shows. -/
def numbersOf (response : Response) : List Bytes :=
  (response.headers.values .xRequestId).map (·.bytes)

/-- Passing a response on leaves its numbers. -/
theorem numbersOf_passedOn (raw : Response) : numbersOf (passedOn raw) = numbersOf raw := by
  rw [numbersOf, passedOn, Headers.values_erase, if_neg (by decide), numbersOf]

/-- The response to a visit shows the numbers of the response of a server that is passed on, or else
the number of the visit. -/
theorem numbersOf_response (visit : Visit) :
    numbersOf (scene.response network visit) =
      match ((scene.relayed? network visit).map numbersOf).getD [] with
      | [] => [(scene.service.ownValue visit).bytes]
      | numbers => numbers := by
  rw [response_eq, numbersOf, Service.values_presented, values_inner visit (by decide)]
  cases scene.relayed? network visit with
  | none => rfl
  | some relayed =>
    simp only [Option.map_some, Option.getD_some, numbersOf]
    cases relayed.headers.values .xRequestId <;> rfl

/-- A request without a number of its own. -/
def isUnnumbered (visit : Visit) : Bool := !visit.request.headers.contains .xRequestId

/-- The number of a visit: the first that its client gave it, or else its place among the visits
without one. -/
def ownNumber (before : List Visit) (visit : Visit) : Bytes :=
  match visit.request.headers.get? .xRequestId with
  | some value => value.bytes
  | none => Service.numberOctets (before.countP isUnnumbered + 1)

section

variable {rules : Rules} {capacity : Nat} {limiter : RateLimiter} {pool : Pool Request Response}
  {state : σ}

/-- The service counts the visits without a number. -/
theorem issued_after (visits : List Visit) :
    ((opening rules capacity limiter pool state).after network visits).service.ids.issued =
      visits.countP isUnnumbered := by
  induction visits using List.reverseRecOn with
  | nil => rfl
  | append_singleton visits visit ih =>
    rw [after_concat, List.countP_append, List.countP_singleton, ← ih]
    generalize (opening rules capacity limiter pool state).after network visits = scene
    obtain ⟨limiter, store, hframe⟩ := scene.frame_next network visit
    rw [hframe, Service.numbering_eq]
    simp only [isUnnumbered, RequestIds.next]
    by_cases hnamed : visit.request.headers.contains .xRequestId = true <;> simp [hnamed]

/-- The number under which a visit of a session goes through the service is its own. -/
theorem bytes_ownValue (before : List Visit) (visit : Visit) :
    (((opening rules capacity limiter pool state).after network before).service.ownValue
      visit).bytes = ownNumber before visit := by
  unfold Service.ownValue ownNumber
  rw [issued_after]
  cases visit.request.headers.get? .xRequestId <;> rfl

/-- Two visits of a session that come without a number get different ones. -/
theorem ownNumber_ne {before earlier between : List Visit} {visit origin : Visit}
    (hsplit : before = earlier ++ origin :: between) (hvisit : isUnnumbered visit = true)
    (horigin : isUnnumbered origin = true) : ownNumber earlier origin ≠ ownNumber before visit := by
  have hnone {other : Visit} (h : isUnnumbered other = true) :
      other.request.headers.get? .xRequestId = none := by
    simpa [isUnnumbered, Headers.contains] using h
  unfold ownNumber
  rw [hnone hvisit, hnone horigin, hsplit]
  intro heq
  have hcount := Service.numberOctets_injective heq
  rw [List.countP_append, List.countP_cons_of_pos horigin] at hcount
  omega

/-- A response shows exactly the number of its own request, if and only if no response of a server
is passed on that shows anything else. A response of a server that is passed on shows what it showed
before, and was fetched for this visit or for an earlier one of the session. The numbers that the
service gives to two visits of a session are never the same. -/
theorem response_shows_own_number_unless_relayed (before : List Visit) (visit : Visit) :
    let scene := (opening rules capacity limiter pool state).after network before
    (numbersOf (scene.response network visit) = [ownNumber before visit] ↔
      ∀ relayed ∈ scene.relayed? network visit,
        numbersOf relayed = [] ∨ numbersOf relayed = [ownNumber before visit]) ∧
    (∀ relayed ∈ scene.relayed? network visit, numbersOf relayed ≠ [] →
      numbersOf (scene.response network visit) = numbersOf relayed) ∧
    (∀ relayed ∈ scene.relayed? network visit,
      ∃ earlier origin between raw, before ++ [visit] = earlier ++ origin :: between ∧
        ((opening rules capacity limiter pool state).after network earlier).Fetches network origin
          raw ∧
        relayed = passedOn raw ∧ numbersOf relayed = numbersOf raw) ∧
    (∀ earlier origin between, before = earlier ++ origin :: between →
      isUnnumbered visit = true → isUnnumbered origin = true →
        ownNumber earlier origin ≠ ownNumber before visit) := by
  intro scene
  have hshown : numbersOf (scene.response network visit) = _ := numbersOf_response visit
  rw [bytes_ownValue] at hshown
  refine ⟨?_, ?_, ?_, fun _ _ _ hsplit => ownNumber_ne hsplit⟩
  · rw [hshown]
    cases scene.relayed? network visit with
    | none => simp
    | some relayed =>
      simp only [Option.map_some, Option.getD_some, Option.mem_some_iff, forall_eq']
      cases numbersOf relayed <;> simp
  · intro relayed hrelayed hnumbers
    rw [hshown, Option.mem_def.mp hrelayed, Option.map_some, Option.getD_some]
    cases hlist : numbersOf relayed with
    | nil => exact absurd hlist hnumbers
    | cons number numbers => rfl
  · intro relayed hrelayed
    obtain ⟨earlier, origin, between, raw, hsplit, hfetches, rfl⟩ := fetches_of_relayed hrelayed
    exact ⟨earlier, origin, between, raw, hsplit, hfetches, rfl, numbersOf_passedOn raw⟩

end

end Scene

/-! ### A server that repeats numbers -/

namespace EchoServer

/-- A server that says under which number it was asked. -/
def network : Client.Network Unit := fun sent state =>
  (some
    { status := .ok
      headers := (sent.headers.get? .xRequestId).elim .empty (Headers.empty.insert .xRequestId)
      body := some [] },
    state)

/-- The response in which a server says a number. -/
def saying (value : FieldValue) : Response where
  status := .ok
  headers := Headers.empty.insert .xRequestId value
  body := []

/-- A service before anyone visits it. -/
def opening : Scene Unit := .opening { maxBodySize := 0 } 1 (.perMinute 2) (.new 1) ()

/-- A client asks for the address, without a number. -/
abbrev visit : Visit := SteadyServer.visit

/-- A client asks for the address, under a number. -/
def visitUnder (n : Nat) : Visit where
  request :=
    { visit.request with headers := Headers.empty.insert .xRequestId (Service.numberValue n) }
  moments := visit.moments

/-- The inner layers get the request of the client without a number under the next one. -/
theorem numbered_visit (service : Service) :
    service.numbered visit = visitUnder (service.ids.issued + 1) := by
  have hnone : visit.request.headers.contains .xRequestId = false := by decide
  unfold Service.numbered Service.number
  rw [if_neg (by simp [hnone])]
  simp only [RequestIds.next, Service.insertOctets_numberOctets]
  rfl

/-- A visit under a number carries nothing but its number. -/
theorem get?_visitUnder (n : Nat) {name : FieldName} (hname : name ≠ .xRequestId) :
    (visitUnder n).request.headers.get? name = none := by
  rw [Headers.get?_eq_head?, visitUnder, Headers.values_insert, if_neg hname]
  rfl

/-- The cache is asked about a visit under a number. -/
theorem asksCache_visitUnder (n : Nat) : (visitUnder n).AsksCache := by
  simp only [Visit.AsksCache, Policy.requestCacheable, Policy.hasContent, Policy.forbidsStoring,
    get?_visitUnder n (show FieldName.authorization ≠ .xRequestId by decide),
    get?_visitUnder n (show FieldName.cacheControl ≠ .xRequestId by decide)]
  rfl

/-- A visit without a number reaches the proxy as long as the workers take jobs. -/
theorem reaches_visit {scene : Scene Unit} (hopen : scene.service.pool.isSealed = false) :
    scene.Reaches visit := by
  unfold Scene.Reaches
  rw [numbered_visit]
  generalize scene.service.ids.issued + 1 = n
  have hmethod : visit.request.method ≠ .options := by decide
  have hpath : Service.Resource.ofPath? visit.request.uri.path = none := by decide
  refine ⟨hmethod, rfl, ?_, hpath, hopen⟩
  rw [Service.allowance, Service.declaredLength?,
    get?_visitUnder n (show FieldName.contentLength ≠ .xRequestId by decide)]
  exact Nat.le_refl _

/-- The address can be fetched for the first visit. -/
theorem isFetchable_first :
    Client.isFetchable ((visitUnder 1).outgoing SteadyServer.target).url = true := by
  decide +kernel

/-- The server is asked under the number of the first visit. -/
theorem get?_sent_first :
    ((visitUnder 1).outgoing SteadyServer.target).sent.headers.get? .xRequestId =
      some (Service.numberValue 1) := by
  decide +kernel

/-- The server says the number of the first visit. -/
theorem fetch_first :
    (Client.fetch network ((visitUnder 1).outgoing SteadyServer.target) ()).1 =
      .ok (saying (Service.numberValue 1)) := by
  unfold Client.fetch
  rw [if_pos isFetchable_first]
  unfold Client.follow
  simp only [network, get?_sent_first]
  rw [SteadyServer.redirect?_of_ok _ rfl]
  rfl

/-- The first visit is answered with what the server says. -/
theorem outcome_first :
    opening.outcome network visit = .fetched (passedOn (saying (Service.numberValue 1))) := by
  unfold Scene.outcome
  rw [numbered_visit]
  exact Deployment.outcome_of_fetched _ ⟨SteadyServer.resolveTarget_visit, rfl⟩
    Visit.lookUp_new (Nat.le_refl 0) fetch_first

/-- What the server says to the first visit is kept. -/
theorem entry_first :
    (opening.next network visit).service.store.entries[visit.key SteadyServer.target]? =
      some ((visitUnder 1).entry SteadyServer.target
        (opening.service.deployment network (visitUnder 1)).rules
        (passedOn (saying (Service.numberValue 1)))) := by
  have hfetched := outcome_first
  have hreaches : opening.Reaches visit := reaches_visit rfl
  have hstore : (opening.next network visit).service.store = _ :=
    Scene.store_next_of_reaches hreaches
  unfold Scene.outcome at hfetched
  rw [numbered_visit] at hfetched hstore
  obtain ⟨target, hadmits, hentry⟩ := Deployment.entry_of_fetched _
    (Cache.Store.inOrder_new 1) Nat.one_pos hfetched (asksCache_visitUnder 1) (by decide)
  obtain rfl := hadmits.unique ⟨SteadyServer.resolveTarget_visit, rfl⟩
  rw [hstore]
  exact hentry

/-- The second visit is answered with what the server said to the first. -/
theorem outcome_second :
    (opening.next network visit).outcome network visit =
      .found (passedOn (saying (Service.numberValue 1))) := by
  unfold Scene.outcome
  rw [numbered_visit]
  generalize (opening.next network visit).service.ids.issued + 1 = n
  apply Deployment.outcome_of_found
  · refine ⟨SteadyServer.resolveTarget_visit, ?_⟩
    simp only [Service.deployment, Scene.rules_next]
    rfl
  · exact Visit.lookUp_eq_some.mpr ⟨asksCache_visitUnder n, _, entry_first, by rfl,
      Visit.decode_entry _ _⟩

/-- A server repeats the number of the first visit, and the cache repeats it to the second, whose own
number is another. -/
theorem second_visit_shows_first_number :
    Scene.numbersOf ((opening.after network [visit]).response network visit) =
        [Scene.ownNumber [] visit] ∧
      Scene.ownNumber [visit] visit ≠ Scene.ownNumber [] visit := by
  have hopen : (opening.next network visit).service.pool.isSealed = false := by
    rw [Scene.pool_next]
    rfl
  have hrelayed : (opening.next network visit).relayed? network visit =
      some (passedOn (saying (Service.numberValue 1))) := by
    have houtcome := outcome_second
    unfold Scene.outcome at houtcome
    rw [Scene.relayed?, Service.relayed?, if_pos (reaches_visit hopen), houtcome]
    rfl
  have hshown : Scene.numbersOf ((opening.next network visit).response network visit) = _ :=
    Scene.numbersOf_response visit
  rw [hrelayed] at hshown
  exact ⟨hshown, by decide⟩

end EchoServer

end ForwardProxy
