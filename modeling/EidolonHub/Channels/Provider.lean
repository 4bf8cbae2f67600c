import EidolonHub.Devices.Domain

/-!
# EidolonHub.Channels.Provider

**The Channel Provider as its client sees it.** The Provider owns the Channels. It is asked what
it holds for a device, or to begin or advance a binding; every answer is checked against what was
asked before any of it is used, and a refusal is not taken for an outage.
-/

namespace EidolonHub.Channels

open EidolonHub.Admission EidolonHub.Devices EidolonHub.Library.Python

/-- The id of a provision or a refresh, by which the Provider knows a repetition. -/
abbrev OperationId := String

/-- A time in milliseconds. -/
abbrev Millis := Int

/-! ### What the Provider answers -/

/-- `ChannelBinding`: when its credentials expire, and the rest of it as a text. -/
structure ChannelBinding where
  expiresAtMs : Millis
  document : String
  deriving DecidableEq

variable (presentation : Presentation)

/-- `_ProvisionResponse`; it has one channel. -/
structure ProvisionResponse where
  operationId : OperationId
  deviceRef : DeviceRef
  manifestRevision : String
  outputPolicy : Option presentation.Policy
  channel : ChannelBinding
  deriving DecidableEq

/-- `_CurrentResponse`. -/
structure CurrentResponse where
  binding : Option (ProvisionResponse presentation)
  refreshRequired : Bool
  deriving DecidableEq

/-- The problem document of a refusal. -/
structure ProblemDocument where
  code : String
  retryable : Bool
  authority : String
  detail : Option String
  deriving DecidableEq

/-- What comes of a request: no answer, one with an error status and its problem document if it
can be read, or one whose body validates or does not. -/
inductive Reply (Body : Type) where
  | unreachable
  | refused (status : Nat) (problem : Option ProblemDocument)
  | answered (body : Option Body)
  deriving DecidableEq

/-! ### What the client makes of it -/

/-- `ChannelProviderError`; its text is the detail, or the code where there is none. -/
structure ProviderError where
  code : String
  retryable : Bool
  detail : String
  deriving DecidableEq

/-- `str(error)`. -/
def ProviderError.text (error : ProviderError) : String :=
  if error.detail = "" then error.code else error.detail

/-- The Provider was not reached, so waiting may help. -/
def providerUnavailable : ProviderError := ⟨"PROVIDER_UNAVAILABLE", true, "Channel Provider unavailable"⟩

/-- The client cannot make anything of the answer. -/
def invalidResponse (retryable : Bool) (detail : String) : ProviderError :=
  ⟨"INVALID_PROVIDER_RESPONSE", retryable, detail⟩

/-- What a call of the client raises. -/
inductive Raised where
  | provider (error : ProviderError)
  /-- a `ValueError` -/
  | unreadable
  deriving DecidableEq

/-- `_post`, and the validation of the body with the detail of its refusal. -/
def post {Body : Type} (detail : String) : Reply Body → Except Raised Body
  | .unreachable => .error (.provider providerUnavailable)
  | .refused status none =>
    .error (.provider (invalidResponse (500 ≤ status) ("Provider returned HTTP " ++ toString status)))
  | .refused _ (some problem) =>
    if problem.authority ≠ "eidolon-channel-provider" then
      .error (.provider (invalidResponse false "wrong problem authority"))
    else .error (.provider ⟨problem.code, problem.retryable, problem.detail.getD problem.code⟩)
  | .answered none => .error (.provider (invalidResponse false detail))
  | .answered (some body) => .ok body

/-- `CurrentChannelBinding`. -/
structure CurrentBinding where
  operationId : OperationId
  manifestRevision : String
  channel : ChannelBinding
  refreshRequired : Bool
  outputPolicy : Option presentation.Policy
  deriving DecidableEq

variable {presentation}

/-- `expires_at_ms` of what is held, which is that of its channel. -/
def CurrentBinding.expiresAtMs (current : CurrentBinding presentation) : Millis := current.channel.expiresAtMs

/-- `Field(min_length=1, max_length=128)`. -/
def fits (text : String) : Prop := 1 ≤ text.length ∧ text.length ≤ 128

instance (text : String) : Decidable (fits text) := inferInstanceAs (Decidable (_ ∧ _))

/-- `ChannelProviderHttpClient.current`. -/
def current (deviceRef : DeviceRef) (reply : Reply (CurrentResponse presentation)) :
    Except Raised (Option (CurrentBinding presentation)) :=
  match post "invalid current binding response" reply with
  | .error raised => .error raised
  | .ok response =>
    match response.binding with
    | none => .ok none
    | some binding =>
      if binding.deviceRef ≠ deviceRef then
        .error (.provider (invalidResponse false "current binding response names another device"))
      else if fits binding.operationId ∧ fits binding.manifestRevision then
        .ok (some ⟨binding.operationId, binding.manifestRevision, binding.channel, response.refreshRequired,
          binding.outputPolicy⟩)
      else .error .unreadable

/-- `_provision`, with what it compares of the request. -/
def provisioned (operationId : OperationId) (deviceRef : DeviceRef) (manifestRevision : String)
    (reply : Reply (ProvisionResponse presentation)) : Except Raised ChannelBinding :=
  match post "invalid provision response" reply with
  | .error raised => .error raised
  | .ok response =>
    if response.operationId ≠ operationId ∨ response.deviceRef ≠ deviceRef ∨
        response.manifestRevision ≠ manifestRevision then
      .error (.provider (invalidResponse false "provision response does not match request"))
    else .ok response.channel

theorem post_ok {Body : Type} {detail : String} {reply : Reply Body} {body : Body} :
    post detail reply = .ok body ↔ reply = .answered (some body) := by
  constructor
  · intro h
    match reply, h with
    | .answered (some _), h => rw [Except.ok.inj h]
    | .refused _ (some problem), h =>
      simp only [post] at h
      split_ifs at h
  · rintro rfl
    rfl

/-- What the Provider holds, as far as the client hands it on. -/
theorem current_ok {deviceRef : DeviceRef} {reply : Reply (CurrentResponse presentation)}
    {held : CurrentBinding presentation} (h : current deviceRef reply = .ok (some held)) :
    ∃ binding, reply = .answered (some ⟨some binding, held.refreshRequired⟩) ∧
      binding.deviceRef = deviceRef ∧ binding.operationId = held.operationId ∧
      binding.manifestRevision = held.manifestRevision ∧ binding.outputPolicy = held.outputPolicy ∧
      binding.channel = held.channel := by
  unfold current at h
  split at h
  · cases h
  · next response hresponse =>
    split at h
    · cases h
    · next binding hbinding =>
      split_ifs at h with hother hfits
      cases h
      refine ⟨binding, ?_, not_not.mp hother, rfl, rfl, rfl, rfl⟩
      rw [post_ok.mp hresponse, ← hbinding]

theorem provisioned_ok {operationId : OperationId} {deviceRef : DeviceRef} {manifestRevision : String}
    {reply : Reply (ProvisionResponse presentation)} {channel : ChannelBinding} :
    provisioned operationId deviceRef manifestRevision reply = .ok channel ↔
      ∃ outputPolicy, reply = .answered (some ⟨operationId, deviceRef, manifestRevision, outputPolicy, channel⟩) := by
  unfold provisioned
  constructor
  · intro h
    split at h
    · cases h
    · next response hresponse =>
      split_ifs at h with hother
      simp only [not_or, not_not] at hother
      obtain ⟨rfl, rfl, rfl⟩ := hother
      cases h
      exact ⟨response.outputPolicy, post_ok.mp hresponse⟩
  · rintro ⟨outputPolicy, rfl⟩
    simp [post]

end EidolonHub.Channels
