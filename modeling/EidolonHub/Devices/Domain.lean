import EidolonHub.Admission.Application
import EidolonHub.Library.JsonText

/-!
# EidolonHub.Devices.Domain

**The device aggregate**: the accepted Manifest of a device, the output policy its Owner
set, and `ManagedDevice`, which is a row of the device directory with everything its
constructor checks. A row that fails a check has no aggregate, and none can be built by
other means.
-/

namespace EidolonHub.Devices

open EidolonHub.Library.Python EidolonHub.Admission

/-! ### What a call is refused with -/

/-- What device control raises. -/
inductive ControlError where
  /-- a `KeyError` -/
  | key (deviceInstanceId : DeviceInstanceId)
  /-- a `PermissionError` -/
  | permission (message : String)
  /-- a `DeviceEraseContractError`: a signature does not verify -/
  | contract
  /-- a `ManifestRevisionConflict` -/
  | manifestRevision (message : String)
  /-- an `OutputPolicyConflict` -/
  | outputPolicy (message : String)
  /-- a `ConcurrentDeviceMutationError` -/
  | concurrent (message : String)
  /-- a `ValueError` -/
  | value (message : String)
  /-- an `AdmissionProblem` -/
  | admission (problem : HubError)
  /-- what a step after the commit raises: the projection, or a Channel call -/
  | followUp
  deriving DecidableEq

/-! ### The accepted Manifest -/

/-- Python's `value == 1`. -/
def equalsOne : Json → Bool
  | .int n => n = 1
  | .bool b => b
  | .float bits => bits = 0x3ff0000000000000
  | _ => false

/-- What `DeviceManifestDocument.__post_init__` raises, if it raises. -/
def manifestProblem (crypto : Crypto) (canonicalJson digest : String) (declaredRevision : Nat) :
    Option String :=
  match crypto.jsonLoads canonicalJson with
  | none => some "device manifest must contain valid JSON"
  | some value =>
    if ¬ value.isObject then some "device manifest must be a JSON object"
    else if ¬ (value.field "schema_version").all equalsOne then
      some "device manifest schema_version 1 is required"
    else if declaredRevision < 1 then some "device manifest declared_revision must be positive"
    else if digest ≠ crypto.digest canonicalJson then
      some "device manifest digest does not match canonical content"
    else none

theorem manifestProblem_eq_none {crypto : Crypto} {canonicalJson digest : String} {declaredRevision : Nat} :
    manifestProblem crypto canonicalJson digest declaredRevision = none ↔
      (∃ value, crypto.jsonLoads canonicalJson = some value ∧ value.isObject = true ∧
        (value.field "schema_version").all equalsOne = true) ∧
      1 ≤ declaredRevision ∧ digest = crypto.digest canonicalJson := by
  unfold manifestProblem
  cases crypto.jsonLoads canonicalJson with
  | none => simp
  | some value =>
    simp only [Option.some.injEq, exists_eq_left']
    by_cases hobject : value.isObject = true
    · by_cases hschema : (value.field "schema_version").all equalsOne = true
      · by_cases hrevision : declaredRevision < 1
        · simp only [hobject, hschema, hrevision, not_true_eq_false, if_false, if_true, reduceCtorEq,
            false_iff]
          omega
        · simp only [hobject, hschema, hrevision, not_true_eq_false, if_false, and_self, true_and,
            Nat.not_lt.mp hrevision]
          split <;> simp_all
      · simp [hobject, hschema]
    · simp [hobject]

/-- One accepted account of what a device can do. -/
structure DeviceManifestDocument (crypto : Crypto) where
  canonicalJson : String
  digest : String
  declaredRevision : Nat
  valid : manifestProblem crypto canonicalJson digest declaredRevision = none
  deriving DecidableEq

namespace DeviceManifestDocument

variable {crypto : Crypto}

/-- The document with its check: there is no value of the type that fails it. -/
def make (crypto : Crypto) (canonicalJson digest : String) (declaredRevision : Nat) :
    Except ControlError (DeviceManifestDocument crypto) :=
  match h : manifestProblem crypto canonicalJson digest declaredRevision with
  | none => .ok ⟨canonicalJson, digest, declaredRevision, h⟩
  | some message => .error (.value message)

/-- `from_declaration`. -/
def fromDeclaration (crypto : Crypto) (document : Json) (declaredRevision : Nat) :
    Except ControlError (DeviceManifestDocument crypto) :=
  if document.isObject then
    make crypto (dumps document) (crypto.digest (dumps document)) declaredRevision
  else .error (.value "device manifest must be an object")

theorem make_ok {canonicalJson digest : String} {declaredRevision : Nat}
    {manifest : DeviceManifestDocument crypto} :
    make crypto canonicalJson digest declaredRevision = .ok manifest ↔
      manifest.canonicalJson = canonicalJson ∧ manifest.digest = digest ∧
        manifest.declaredRevision = declaredRevision := by
  unfold make
  split
  · rw [Except.ok.injEq]
    constructor
    · rintro rfl
      exact ⟨rfl, rfl, rfl⟩
    · intro h
      cases manifest
      simp_all
  · next message hproblem =>
    refine iff_of_false (by simp) ?_
    rintro ⟨rfl, rfl, rfl⟩
    rw [manifest.valid] at hproblem
    cases hproblem

theorem fromDeclaration_ok {document : Json} {declaredRevision : Nat}
    {manifest : DeviceManifestDocument crypto}
    (h : fromDeclaration crypto document declaredRevision = .ok manifest) :
    manifest.canonicalJson = dumps document ∧ manifest.digest = crypto.digest (dumps document) ∧
      manifest.declaredRevision = declaredRevision := by
  unfold fromDeclaration at h
  split at h
  · exact make_ok.mp h
  · cases h

/-- The digest of an accepted Manifest is that of its text. -/
theorem digest_eq (manifest : DeviceManifestDocument crypto) :
    manifest.digest = crypto.digest manifest.canonicalJson := by
  have hvalid := manifest.valid
  unfold manifestProblem at hvalid
  split at hvalid
  · cases hvalid
  · split_ifs at hvalid with _ _ _ hdigest
    exact not_not.mp hdigest

end DeviceManifestDocument

/-! ### The output policy -/

/-- `DeviceOutputPolicy`. -/
structure OutputPolicy (Outputs Inputs : Type) where
  revision : Nat
  allowed : Outputs
  inputs : Option Inputs
  deriving DecidableEq

/-- What the presentation contract supplies. What a policy selects is opaque here, and its
JSON reads back as what was written. -/
structure Presentation where
  Outputs : Type
  Inputs : Type
  outputsEq : DecidableEq Outputs
  inputsEq : DecidableEq Inputs
  /-- `model_dump_json` -/
  dumpJson : OutputPolicy Outputs Inputs → String
  /-- `model_validate_json` -/
  validateJson : String → Option (OutputPolicy Outputs Inputs)
  validate_dump : ∀ policy, validateJson (dumpJson policy) = some policy
  /-- `model_dump(mode="json")` -/
  dump : OutputPolicy Outputs Inputs → Json

attribute [instance] Presentation.outputsEq Presentation.inputsEq

/-- An output policy with the outputs and inputs of the contract. -/
abbrev Presentation.Policy (presentation : Presentation) : Type :=
  OutputPolicy presentation.Outputs presentation.Inputs

/-! ### The aggregate -/

/-- What `ManagedDevice.__post_init__` and `DeviceIdentity.__post_init__` raise, if they raise;
the timestamps a row decodes to are timezone-aware. -/
def deviceProblem (deviceId manifestId : String) (ownerId : Option BusinessOwnerId)
    (ownerDomainGeneration claimGeneration trustEpoch aggregateRevision : Nat) : Option String :=
  if strip deviceId = "" then some "device_id is required"
  else if strip manifestId = "" then some "manifest_id is required"
  else if ownerId.any (strip · = "") then some "owner_id must be null or non-empty"
  else if min (min ownerDomainGeneration claimGeneration) (min trustEpoch aggregateRevision) < 1 then
    some "Owner, claim, trust and aggregate generations must be positive"
  else if ownerId = none then some "Claim projection requires an owner"
  else none

/-- `ManagedDevice`: the owner-facing projection of one Claim. -/
structure ManagedDevice (crypto : Crypto) (presentation : Presentation) where
  deviceId : DeviceInstanceId
  displayName : String
  manifestId : String
  manifest : DeviceManifestDocument crypto
  enrolledAt : Timestamp
  updatedAt : Timestamp
  ownerDomainId : OwnerDomainId
  ownerDomainGeneration : Nat
  claimGeneration : Nat
  trustEpoch : Nat
  aggregateRevision : Nat
  ownerId : BusinessOwnerId
  lifecycleState : LifecycleState
  lastManagementRequestId : String
  lastManagementFingerprint : String
  outputPolicy : Option presentation.Policy
  valid : deviceProblem deviceId manifestId (some ownerId) ownerDomainGeneration claimGeneration
    trustEpoch aggregateRevision = none
  deriving DecidableEq

variable {crypto : Crypto} {presentation : Presentation}

/-- `device_ref`. -/
def ManagedDevice.deviceRef (device : ManagedDevice crypto presentation) : DeviceRef where
  deviceInstanceId := device.deviceId
  ownerDomainId := device.ownerDomainId
  ownerDomainGeneration := device.ownerDomainGeneration
  claimGeneration := device.claimGeneration
  trustEpoch := device.trustEpoch

/-- The Manifest the aggregate holds, as a device names it. -/
def ManagedDevice.manifestRef (device : ManagedDevice crypto presentation) : ManifestRef where
  manifestId := device.manifestId
  revision := device.manifest.declaredRevision
  digest := device.manifest.digest

/-- `_values`: the columns of the row. -/
def ManagedDevice.values (device : ManagedDevice crypto presentation) : DeviceRow where
  deviceId := device.deviceId
  displayName := device.displayName
  manifestId := device.manifestId
  manifestJson := device.manifest.canonicalJson
  outputPolicyJson := device.outputPolicy.map presentation.dumpJson
  manifestRevision := device.manifest.digest
  manifestDeclaredRevision := device.manifest.declaredRevision
  enrolledAt := device.enrolledAt
  updatedAt := device.updatedAt
  ownerDomainGeneration := device.ownerDomainGeneration
  claimGeneration := device.claimGeneration
  trustEpoch := device.trustEpoch
  aggregateRevision := device.aggregateRevision
  ownerId := some device.ownerId
  lifecycleState := device.lifecycleState
  lastManagementRequestId := device.lastManagementRequestId
  lastManagementFingerprint := device.lastManagementFingerprint

/-- The policy a column holds; `none` where the JSON does not validate. -/
def decodePolicy (presentation : Presentation) : Option String → Option (Option presentation.Policy)
  | none => some none
  | some text => (presentation.validateJson text).map some

/-- `_decode`. -/
def decode (crypto : Crypto) (presentation : Presentation) (ownerDomainId : OwnerDomainId)
    (row : DeviceRow) : Except ControlError (ManagedDevice crypto presentation) :=
  if strip row.deviceId = "" then .error (.value "device_id is required")
  else match decodePolicy presentation row.outputPolicyJson with
  | none => .error (.value "output policy does not validate")
  | some outputPolicy =>
    match DeviceManifestDocument.make crypto row.manifestJson row.manifestRevision
        row.manifestDeclaredRevision with
    | .error e => .error e
    | .ok manifest =>
      match hproblem : deviceProblem row.deviceId row.manifestId row.ownerId row.ownerDomainGeneration
          row.claimGeneration row.trustEpoch row.aggregateRevision with
      | some message => .error (.value message)
      | none =>
        match howner : row.ownerId with
        | none => .error (.value "Claim projection requires an owner")
        | some ownerId => .ok
            { deviceId := row.deviceId
              displayName := row.displayName
              manifestId := row.manifestId
              manifest
              enrolledAt := row.enrolledAt
              updatedAt := row.updatedAt
              ownerDomainId
              ownerDomainGeneration := row.ownerDomainGeneration
              claimGeneration := row.claimGeneration
              trustEpoch := row.trustEpoch
              aggregateRevision := row.aggregateRevision
              ownerId
              lifecycleState := row.lifecycleState
              lastManagementRequestId := row.lastManagementRequestId
              lastManagementFingerprint := row.lastManagementFingerprint
              outputPolicy
              valid := by rw [← howner]; exact hproblem }

section Decoding

variable {ownerDomainId : OwnerDomainId} {row : DeviceRow} {device : ManagedDevice crypto presentation}

theorem ManagedDevice.deviceId_ne (device : ManagedDevice crypto presentation) :
    strip device.deviceId ≠ "" := by
  intro h
  have hvalid := device.valid
  simp [deviceProblem, h] at hvalid

/-- **A row decodes to the aggregate whose columns it holds**, up to how the policy is spelled. -/
theorem decode_ok : decode crypto presentation ownerDomainId row = .ok device ↔
    device.ownerDomainId = ownerDomainId ∧
      row = { device.values with outputPolicyJson := row.outputPolicyJson } ∧
      decodePolicy presentation row.outputPolicyJson = some device.outputPolicy := by
  unfold decode
  constructor
  · intro h
    split at h
    · cases h
    split at h
    · cases h
    · next policy hpolicy =>
      split at h
      · cases h
      · next manifest hmanifest =>
        split at h
        · cases h
        · split at h
          · cases h
          · next ownerId howner =>
            obtain ⟨hjson, hdigest, hrevision⟩ := DeviceManifestDocument.make_ok.mp hmanifest
            cases h
            refine ⟨rfl, ?_, hpolicy⟩
            simp only [ManagedDevice.values, hjson, hdigest, hrevision, ← howner]
  · rintro ⟨rfl, hrow, hpolicy⟩
    generalize row.outputPolicyJson = policyJson at hrow hpolicy
    subst hrow
    have hmake : DeviceManifestDocument.make crypto device.manifest.canonicalJson
        device.manifest.digest device.manifest.declaredRevision = .ok device.manifest :=
      DeviceManifestDocument.make_ok.mpr ⟨rfl, rfl, rfl⟩
    simp only [ManagedDevice.values, device.deviceId_ne, if_false, hpolicy, hmake]
    split
    · next message hproblem =>
      rw [device.valid] at hproblem
      cases hproblem
    · rfl

/-- Reading back what was written. -/
theorem decode_values : decode crypto presentation device.ownerDomainId device.values = .ok device := by
  refine decode_ok.mpr ⟨rfl, rfl, ?_⟩
  show decodePolicy presentation (device.outputPolicy.map presentation.dumpJson) = _
  cases device.outputPolicy with
  | none => rfl
  | some policy => simp [decodePolicy, presentation.validate_dump]

end Decoding

end EidolonHub.Devices
