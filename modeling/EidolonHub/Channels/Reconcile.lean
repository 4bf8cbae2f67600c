import EidolonHub.Channels.Provider

/-!
# EidolonHub.Channels.Reconcile

**Resolving the Channel of a device.** A call reads the row of the device, asks the Provider what
it holds, and then begins a binding, hands on the one that is held, or advances it. Between these
it waits, so it is a process of three steps; what the Provider says once is kept where it says
that waiting will not change it.

The Channels that are handed out were confirmed for the device and the Manifest of the row, and
have not expired. Of what is held the output policy is compared too; of what was just begun or
advanced it is not.
-/

namespace EidolonHub.Channels

open EidolonHub.Admission EidolonHub.Devices EidolonHub.Library.Python

variable {crypto : Crypto} {presentation : Presentation}

/-! ### Values and operations -/

/-- What `_operation_id` is given; it hashes the texts of these. -/
inductive Hashed (presentation : Presentation) where
  | deviceRef (ref : DeviceRef)
  | text (value : String)
  | number (value : Int)
  | outputPolicy (policy : Option presentation.Policy)
  deriving DecidableEq

/-- What the presentation contract and the hash supply. -/
structure Wire (presentation : Presentation) where
  /-- `output_policy_required(manifest_outputs(manifest), manifest=manifest)`, unless it raises -/
  policyRequired : Json → Option Bool
  /-- the digest of `_operation_id` -/
  digest : List (Hashed presentation) → String

variable (wire : Wire presentation)

/-- `_operation_id`. -/
def operationId (pre : String) (values : List (Hashed presentation)) : OperationId :=
  pre ++ "-" ++ wire.digest values

/-- What a decision of the Provider is about. -/
structure Inputs (presentation : Presentation) where
  deviceRef : DeviceRef
  manifestDigest : String
  manifestDeclaredRevision : Nat
  ownerId : BusinessOwnerId
  outputPolicy : Option presentation.Policy
  observedHostAddress : String
  deriving DecidableEq

/-- The revision of a policy, and `0` for none. -/
def policyRevision (policy : Option presentation.Policy) : Int :=
  match policy with
  | some policy => policy.revision
  | none => 0

namespace Inputs

variable (inputs : Inputs presentation)

/-- What a refusal is kept under: every input of the decision. -/
def fingerprint : String :=
  operationId wire "binding-inputs" [.deviceRef inputs.deviceRef, .text inputs.manifestDigest,
    .number inputs.manifestDeclaredRevision, .text inputs.ownerId, .outputPolicy inputs.outputPolicy,
    .text inputs.observedHostAddress]

/-- The id of the first binding for a device, a Manifest and a policy. -/
def provisionId : OperationId :=
  operationId wire "channel-provision" [.deviceRef inputs.deviceRef, .text inputs.manifestDigest,
    .number (policyRevision inputs.outputPolicy)]

/-- The id of a refresh, which follows the operation that established what is held. -/
def refreshId (current : CurrentBinding presentation) : OperationId :=
  operationId wire "channel-refresh" [.text current.operationId, .number current.expiresAtMs,
    .text inputs.manifestDigest, .number inputs.manifestDeclaredRevision,
    .number (policyRevision inputs.outputPolicy)]

end Inputs

/-- `values`: what goes with an operation. -/
structure Values (presentation : Presentation) where
  deviceRef : DeviceRef
  ownerId : BusinessOwnerId
  displayName : String
  manifestId : String
  manifest : Json
  manifestRevision : String
  outputPolicy : Option presentation.Policy
  observedHostAddress : String

/-! ### Resolutions -/

/-- `ChannelBindingProblem`. -/
structure Problem where
  code : String
  retryable : Bool
  detail : String
  deriving DecidableEq

/-- `ChannelBindingResolution`. -/
structure Resolution where
  channels : List ChannelBinding := []
  problem : Option Problem := none
  deriving DecidableEq

/-- The resolution of a call that ends with a problem. -/
def Resolution.ofProblem (problem : Problem) : Resolution := { problem := some problem }

/-- What the handlers make of what was raised. -/
def Raised.problem : Raised → Problem
  | .provider error => ⟨error.code, error.retryable, error.text⟩
  | .unreadable =>
    ⟨"INVALID_PROVIDER_RESPONSE", false, "The Channel Provider returned an unreadable binding."⟩

/-- `_refusals`, in the order of its entries. -/
abbrev Refusals := List (DeviceInstanceId × String × Problem)

/-- How many refusals are kept. -/
def maxRefusals : Nat := 1024

namespace Refusals

variable (refusals : Refusals)

/-- `_refusals.get(id)`. -/
def get (id : DeviceInstanceId) : Option (String × Problem) := (refusals.find? (·.1 = id)).map (·.2)

/-- `_refusals.pop(id, None)`. -/
def pop (id : DeviceInstanceId) : Refusals := refusals.filter (·.1 ≠ id)

/-- `_refusals[id] = entry`. -/
def set (id : DeviceInstanceId) (entry : String × Problem) : Refusals :=
  if refusals.any (·.1 = id) then refusals.map fun held => if held.1 = id then (id, entry) else held
  else refusals ++ [(id, entry)]

/-- What a handler keeps of a refusal. -/
def keep (id : DeviceInstanceId) (entry : String × Problem) : Refusals :=
  let held := refusals.set id entry
  if maxRefusals < held.length then held.tail else held

end Refusals

/-! ### The call -/

/-- A call that has read the row and now asks the Provider. -/
structure Asking (presentation : Presentation) where
  inputs : Inputs presentation
  values : Values presentation
  nowMs : Millis

/-- The two ways to go on from what is held. -/
inductive Operation where
  | provision | refresh
  deriving DecidableEq

/-- `needs_policy`, unless it raises. -/
def needsPolicy (outputPolicy : Option presentation.Policy) (manifest : Json) : Option Bool :=
  if outputPolicy = none then wire.policyRequired manifest else some false

/-- The row checks of `resolve` and what it makes of the row, or what it answers without asking. -/
def prepare (deviceRef : DeviceRef) (observedHostAddress : String) (nowMs : Millis)
    (device : Option (ManagedDevice crypto presentation)) : Except Resolution (Asking presentation) :=
  match device with
  | none => .error {}
  | some device =>
    if device.deviceRef ≠ deviceRef ∨ device.lifecycleState ≠ .approved then .error {}
    else
      match (crypto.jsonLoads device.manifest.canonicalJson).filter (·.isObject) with
      | none => .error (.ofProblem ⟨"INVALID_MANIFEST", false, "The accepted Manifest must be a JSON object."⟩)
      | some manifest =>
        match needsPolicy wire device.outputPolicy manifest with
        | none =>
          .error (.ofProblem
            ⟨"INVALID_MANIFEST", false, "The accepted Manifest has unreadable output declarations."⟩)
        | some true =>
          .error (.ofProblem ⟨"OUTPUT_POLICY_REQUIRED", false,
            "Ask the Owner to choose this device's input and output permissions."⟩)
        | some false => .ok
          { inputs :=
              { deviceRef
                manifestDigest := device.manifest.digest
                manifestDeclaredRevision := device.manifest.declaredRevision
                ownerId := device.ownerId
                outputPolicy := device.outputPolicy
                observedHostAddress }
            values :=
              { deviceRef
                ownerId := device.ownerId
                displayName := device.displayName
                manifestId := device.manifestId
                manifest
                manifestRevision := device.manifest.digest
                outputPolicy := device.outputPolicy
                observedHostAddress }
            nowMs }

/-- What is held serves the row as it is. -/
def Asking.serves (asking : Asking presentation) (current : CurrentBinding presentation) : Prop :=
  current.refreshRequired = false ∧ asking.nowMs < current.expiresAtMs ∧
    current.manifestRevision = asking.inputs.manifestDigest ∧ current.outputPolicy = asking.inputs.outputPolicy

instance (asking : Asking presentation) (current : CurrentBinding presentation) :
    Decidable (asking.serves current) :=
  inferInstanceAs (Decidable (_ ∧ _ ∧ _ ∧ _))

/-- A call after it knows what is held: it has Channels, or goes on with an operation. -/
inductive Decision where
  | serve (channel : ChannelBinding)
  | operate (operation : Operation) (id : OperationId)
  deriving DecidableEq

/-- What the call does with what is held: nothing is held, it serves the row as it is, or it has to be
advanced. -/
def Asking.decide (asking : Asking presentation) : Option (CurrentBinding presentation) → Decision
  | none => .operate .provision (asking.inputs.provisionId wire)
  | some current =>
    if asking.serves current then .serve current.channel
    else .operate .refresh (asking.inputs.refreshId wire current)

/-- The credentials that the Provider returned have expired. It is asked again, so waiting may help. -/
def expiredBinding : ProviderError := ⟨"EXPIRED_PROVIDER_BINDING", true, "Provider returned expired credentials"⟩

/-- `_unexpired`. -/
def unexpired (nowMs : Millis) (channel : ChannelBinding) : Except Raised ChannelBinding :=
  if channel.expiresAtMs ≤ nowMs then .error (.provider expiredBinding) else .ok channel

/-- What the operation's answer comes to. -/
def Asking.operated (asking : Asking presentation) (id : OperationId)
    (reply : Reply (ProvisionResponse presentation)) : Except Raised ChannelBinding :=
  (provisioned id asking.values.deviceRef asking.values.manifestRevision reply).bind (unexpired asking.nowMs)

/-- The end of a call that asked the Provider. -/
def conclude : Except Raised ChannelBinding → Resolution
  | .ok channel => { channels := [channel] }
  | .error raised => .ofProblem raised.problem

/-- A whole call without the cache: the answer to `current`, and the one to the operation where
it comes to one. -/
def resolve (deviceRef : DeviceRef) (observedHostAddress : String) (nowMs : Millis)
    (device : Option (ManagedDevice crypto presentation)) (held : Reply (CurrentResponse presentation))
    (answer : Reply (ProvisionResponse presentation)) : Resolution :=
  match prepare wire deviceRef observedHostAddress nowMs device with
  | .error resolution => resolution
  | .ok asking =>
    match current deviceRef held with
    | .error raised => .ofProblem raised.problem
    | .ok binding =>
      match asking.decide wire binding with
      | .serve channel => { channels := [channel] }
      | .operate _ id => conclude (asking.operated id answer)

end EidolonHub.Channels
