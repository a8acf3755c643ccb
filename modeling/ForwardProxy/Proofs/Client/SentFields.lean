import ForwardProxy.Client.Fetch
import ForwardProxy.Proofs.Http.Headers

/-!
# What servers are sent

A network that keeps a log shows every request that a fetch sends, as it travels. The fetch gives
some fields values of its own, and takes some away when it follows a redirect. Every other field
reaches each server with the values that it came with.
-/

namespace ForwardProxy.Client

open Http

/-- A network with a log of what is sent. -/
def Network.logged {σ : Type} (network : Network σ) : Network (σ × List Outgoing) :=
  fun request world =>
    let answer := network request world.1
    (answer.1, answer.2, world.2 ++ [request])

/-- The fields that a fetch may give values or take away. -/
def touchedFields : List FieldName :=
  [.accept, .host, .referer] ++ sensitiveFields ++ bodyFields

variable {name : FieldName}

/-- A name that a fetch leaves alone is none of those that it may touch. -/
theorem ne_of_not_mem (hname : name ∉ touchedFields) {other : FieldName}
    (hother : other ∈ touchedFields) : name ≠ other := fun heq => hname (heq ▸ hother)

/-- A request for a target has the values that are passed on for it. -/
theorem values_new (hname : name ∉ touchedFields) (method : Method) (target : Url)
    (headers : Headers) (body : Bytes) :
    (Outgoing.new method target headers body).headers.values name = headers.values name := by
  have haccept : name ≠ .accept := ne_of_not_mem hname (by decide)
  have hcredentials : name ≠ .authorization := ne_of_not_mem hname (by decide)
  have hextend {own : Headers} (hown : own.values name = []) :
      (own.extend headers).values name = headers.values name := by
    rw [Headers.values_extend, hown]
    split
    · next hnone => exact hnone.symm
    · rfl
  have haccepting (headers : Headers) :
      (if headers.contains .accept then headers else headers.insert .accept anyType).values name =
        headers.values name := by
    split
    · rfl
    · rw [Headers.values_insert, if_neg haccept]
  unfold Outgoing.new
  simp only [haccepting]
  -- User and password in the target stand under a name of their own.
  cases credentials? target with
  | none => exact hextend (Headers.values_empty name)
  | some credentials =>
    exact hextend (by rw [Headers.values_insertOctets_of_ne hcredentials, Headers.values_empty])

/-- A request has the same values as it travels, under every name that a fetch leaves alone. -/
theorem values_sent (hname : name ∉ touchedFields) (request : Outgoing) :
    request.sent.headers.values name = request.headers.values name := by
  have hlength (headers : Headers) (octets : Bytes) :
      (if request.body.isEmpty || headers.contains .contentLength then headers
        else headers.insertOctets .contentLength octets).values name = headers.values name := by
    split
    · rfl
    · exact Headers.values_insertOctets_of_ne (ne_of_not_mem hname (by decide)) _ _
  simp only [Outgoing.sent, Outgoing.sentHeaders, hlength]
  split
  · rfl
  · exact Headers.values_insertOctets_of_ne (ne_of_not_mem hname (by decide)) _ _

/-- A redirected request has the values of the request before it, under every name that a fetch
leaves alone. -/
theorem values_redirected (hname : name ∉ touchedFields) (request : Outgoing) (status : Status)
    (next : Url) :
    (request.redirected status next).headers.values name = request.headers.values name := by
  have hsensitive : name ∉ sensitiveFields := fun hmem => hname (by simp [touchedFields, hmem])
  have hbody : name ∉ bodyFields := fun hmem => hname (by simp [touchedFields, hmem])
  have hreduced : (if dropsBody status request.method then request.withoutBody
      else request).headers.values name = request.headers.values name := by
    split
    · rw [Outgoing.withoutBody, Headers.values_eraseAll, if_neg hbody]
    · rfl
  have hreferer : name ≠ .referer := ne_of_not_mem hname (by decide)
  have hother (headers : Headers) (other : Bool) :
      (if other then headers.eraseAll sensitiveFields else headers).values name =
        headers.values name := by
    split
    · rw [Headers.values_eraseAll, if_neg hsensitive]
    · rfl
  simp only [Outgoing.redirected, hother]
  cases refererOf? next request.url with
  | none => exact hreduced
  | some previous => exact (Headers.values_insertOctets_of_ne hreferer _ _).trans hreduced

variable {σ : Type} (network : Network σ)

/-- A request has the same values as another under every name that a fetch leaves alone. -/
def SameValues (request sent : Outgoing) : Prop :=
  ∀ name ∉ touchedFields, sent.headers.values name = request.headers.values name

/-- A request is sent first, and what is sent along redirects after it has the same values. -/
theorem follow_logged (target : Url) (hops : Nat) (request : Outgoing) (state : σ)
    (before : List Outgoing) :
    ∃ later, (follow network.logged target hops request (state, before)).2.2 =
        before ++ request.sent :: later ∧
      ∀ sent ∈ request.sent :: later, SameValues request sent := by
  have halone (request : Outgoing) : ∀ sent ∈ [request.sent], SameValues request sent :=
    List.forall_mem_singleton.mpr fun _ hname => values_sent hname request
  induction hops generalizing request state before with
  | zero =>
    refine ⟨[], ?_, halone request⟩
    unfold follow
    simp only [Network.logged]
    rcases network request.sent state with ⟨_ | reply, after⟩
    · rfl
    · dsimp only
      cases redirect? request.url reply <;> rfl
  | succ hops ih =>
    unfold follow
    simp only [Network.logged]
    rcases network request.sent state with ⟨_ | reply, after⟩
    · exact ⟨[], rfl, halone request⟩
    · dsimp only
      cases redirect? request.url reply with
      | none => exact ⟨[], rfl, halone request⟩
      | some next =>
        by_cases hfetchable : isFetchable next = true
        · obtain ⟨later, hlater, hvalues⟩ := ih (request.redirected reply.status next) after
            (before ++ [request.sent])
          refine ⟨(request.redirected reply.status next).sent :: later, ?_, ?_⟩
          · simp only [if_pos hfetchable, hlater, List.append_assoc, List.singleton_append]
          · rw [List.forall_mem_cons]
            exact ⟨fun _ hname => values_sent hname request, fun sent hsent name hname =>
              (hvalues sent hsent name hname).trans
                (values_redirected hname request reply.status next)⟩
        · simp only [if_neg hfetchable]
          exact ⟨[], rfl, halone request⟩

/-- All that a fetch sends has the values of its request. -/
theorem sameValues_of_mem_fetch (request : Outgoing) (state : σ) :
    ∀ sent ∈ (fetch network.logged request (state, [])).2.2, SameValues request sent := by
  unfold fetch
  split
  · obtain ⟨later, hlater, hvalues⟩ :=
      follow_logged network request.url maxRedirects request state []
    rw [hlater]
    exact hvalues
  · simp

/-- A request for an address that can be fetched is sent. -/
theorem sent_mem_fetch {request : Outgoing} (hfetchable : isFetchable request.url = true)
    (state : σ) : request.sent ∈ (fetch network.logged request (state, [])).2.2 := by
  obtain ⟨later, hlater, -⟩ := follow_logged network request.url maxRedirects request state []
  rw [fetch, if_pos hfetchable, hlater]
  exact List.mem_append_right _ List.mem_cons_self

end ForwardProxy.Client
