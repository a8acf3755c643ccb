import ForwardProxy.Proofs.Service.Session

/-!
# The fields that protect browsers

One layer gives every response that passes it the fields that protect browsers, in place of what a
server or the cache had under these names. The layers outside of it leave these names alone. But the
layer that answers what other sites may do is outside of it, and its own answers do not pass. So a
response has all of the fields, unless its request asks that question; then it has none.
-/

namespace ForwardProxy

open Http Time Proxy

/-- A response has each of the fields that protect browsers once, with its value. -/
def IsProtected (response : Response) : Prop :=
  ∀ field ∈ Service.securityFields, response.headers.values field.1 = [field.2]

/-- A response has none of the fields that protect browsers. -/
def IsBare (response : Response) : Prop :=
  ∀ field ∈ Service.securityFields, response.headers.values field.1 = []

/-- No response is both protected and bare. -/
theorem IsProtected.not_isBare {response : Response} (h : IsProtected response) :
    ¬IsBare response := by
  intro hbare
  obtain ⟨field, hfield⟩ := List.exists_mem_of_ne_nil Service.securityFields (List.cons_ne_nil _ _)
  have hvalues := h field hfield
  rw [hbare field hfield] at hvalues
  cases hvalues

namespace Service

/-- The fields that protect browsers have different names. -/
theorem nodup_map_securityFields : (securityFields.map (·.1)).Nodup := by decide

/-- No field that protects browsers has a name that is written outside of their layer. -/
theorem ne_of_mem_securityFields {field : FieldName × FieldValue} (h : field ∈ securityFields) :
    field.1 ≠ .accessControlAllowOrigin ∧ field.1 ≠ .vary ∧ field.1 ≠ .allow ∧
      field.1 ≠ .xRequestId := by
  have hall : ∀ field ∈ securityFields, field.1 ≠ .accessControlAllowOrigin ∧
      field.1 ≠ .vary ∧ field.1 ≠ .allow ∧ field.1 ≠ .xRequestId := by decide
  exact hall field h

/-- Whatever response comes from inside, it is protected once it has passed the layers. -/
theorem isProtected_dressed (request : Headers) (response : Response) :
    IsProtected (dressed request response) := by
  intro field hfield
  obtain ⟨horigin, hvary, -, -⟩ := ne_of_mem_securityFields hfield
  rw [dressed, values_share horigin hvary, protect]
  exact Headers.values_foldl_insert_of_mem nodup_map_securityFields hfield _

/-- The answer to the question what other sites may do is bare. -/
theorem isBare_permission : IsBare permission := by
  unfold IsBare
  decide

variable {σ : Type} {service : Service} {network : Client.Network σ} {visit : Visit} {state : σ}
  {answer : Answer σ}

/-- Every course but that of the question what other sites may do leads through the layers, so its
response is protected. -/
theorem Course.isProtected (h : service.Course network visit state answer)
    (hmethod : visit.request.method ≠ .options) : IsProtected answer.response := by
  cases h with
  | permitted hoptions => exact absurd hoptions hmethod
  | _ => exact isProtected_dressed _ _

/-- The question what other sites may do goes past the layers, so its answer is bare. -/
theorem Course.isBare (h : service.Course network visit state answer)
    (hmethod : visit.request.method = .options) : IsBare answer.response := by
  cases h with
  | permitted => exact isBare_permission
  | proxied hreaches => exact absurd hmethod hreaches.method
  | limited hother | tooLong hother | told hother | closed hother => exact absurd hmethod hother

/-- The number of a request is written under its own name only. -/
theorem values_showNumber {name : FieldName} (hname : name ≠ .xRequestId) (request : Request)
    (response : Response) :
    (showNumber request response).headers.values name = response.headers.values name := by
  unfold showNumber
  split
  · split
    · rfl
    · simp [hname]
  · rfl

/-- The outermost layer and a resource leave the fields as they are. -/
theorem values_presented_of_mem {field : FieldName × FieldValue} (h : field ∈ securityFields)
    (service : Service) (visit : Visit) (response : Response) :
    (service.presented visit response).headers.values field.1 =
      response.headers.values field.1 := by
  obtain ⟨-, -, hallow, hnumber⟩ := ne_of_mem_securityFields h
  unfold presented
  simp only
  split
  · rw [values_finishResource hallow, values_showNumber hnumber]
  · rw [values_showNumber hnumber]

end Service

namespace Scene

variable {σ : Type} (network : Client.Network σ) (scene : Scene σ)

/-- What other sites may do is answered without protection. -/
theorem isBare_response {visit : Visit} (hmethod : visit.request.method = .options) :
    IsBare (scene.response network visit) := by
  intro field hfield
  rw [response_eq, Service.values_presented_of_mem hfield]
  exact (scene.course network visit).isBare
    ((scene.service.method_numbered visit).trans hmethod) field hfield

/-- Whatever does not ask what other sites may do is answered with protection. -/
theorem isProtected_response {visit : Visit} (hmethod : visit.request.method ≠ .options) :
    IsProtected (scene.response network visit) := by
  intro field hfield
  rw [response_eq, Service.values_presented_of_mem hfield]
  exact (scene.course network visit).isProtected
    (fun hoptions => hmethod ((scene.service.method_numbered visit).symm.trans hoptions)) field
    hfield

/-- In whatever state a service is, and whatever servers answer: the response to a visit has each of
the fields that protect browsers, once and with its value, if and only if its method is not the one
that asks what other sites may do. The response to that method has none of them. -/
theorem response_protected_unless_preflight (visit : Visit) :
    (IsProtected (scene.response network visit) ↔ visit.request.method ≠ .options) ∧
      (IsBare (scene.response network visit) ↔ visit.request.method = .options) := by
  by_cases hmethod : visit.request.method = .options
  · have hbare := scene.isBare_response network hmethod
    exact ⟨⟨fun hprotected => absurd hbare hprotected.not_isBare, fun hne => absurd hmethod hne⟩,
      ⟨fun _ => hmethod, fun _ => hbare⟩⟩
  · have hprotected := scene.isProtected_response network hmethod
    exact ⟨⟨fun _ => hmethod, fun _ => hprotected⟩,
      ⟨fun hbare => absurd hbare hprotected.not_isBare, fun hoptions => absurd hoptions hmethod⟩⟩

/-- A service as it is without any settings. -/
def unconfigured : Scene Unit := ⟨.ofConfig {}, ()⟩

/-- A client asks what other sites may do. -/
def preflight : Visit :=
  { SteadyServer.visit with request := { SteadyServer.visit.request with method := .options } }

/-- A client that asks what other sites may do gets a response that is not protected. -/
theorem preflight_is_not_protected :
    ¬IsProtected (unconfigured.response .unreachable preflight) := fun hprotected =>
  hprotected.not_isBare (unconfigured.isBare_response _ rfl)

end Scene

end ForwardProxy
