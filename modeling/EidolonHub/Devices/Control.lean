import EidolonHub.Admission.Commands
import EidolonHub.Devices.Domain

/-!
# EidolonHub.Devices.Control

**The two commands of Device Control that change a device**: a device asserts what it can
do (`AcceptDeviceManifest`), its Owner sets what it may present (`UpdateDeviceOutputPolicy`).

Both are made of the same parts with other steps of the Hub between them: a check that
reads no device, a plan computed from the aggregate that was read, and a commit that
compares the aggregate once more and writes it together with its audit event.
-/

namespace EidolonHub.Devices

open EidolonHub.Library EidolonHub.Library.Python EidolonHub.Admission

/-! ### The database with its audit events -/

/-- `DeviceManagementEventRecord`. -/
structure ManagementEvent where
  eventId : EventId
  eventType : String
  source : String
  principalId : PrincipalId
  subject : String
  occurredAt : Timestamp
  data : Json

/-- What its `__post_init__` raises, if it raises. -/
def ManagementEvent.problem (event : ManagementEvent) : Option String :=
  if [event.eventId, event.eventType, event.source, event.principalId, event.subject].any
      (strip · = "") then
    some "management event identifiers are required"
  else if 255 < event.principalId.length then
    some "management event principal_id exceeds 255 characters"
  else if ¬ event.data.isObject then some "management event data must be an object"
  else none

/-- `DeviceManagementEventRow`; its position in the stream is its place in the table. -/
structure ManagementEventRow where
  eventId : EventId
  eventType : String
  source : String
  principalId : PrincipalId
  subject : String
  ownerId : BusinessOwnerId
  occurredAt : Timestamp
  dataJson : String
  deriving DecidableEq

instance : Keyed ManagementEventRow where
  clash r s := r.eventId = s.eventId
  clash_symm _ _ := by simp [eq_comm]

/-- What Admission and Device Control write. -/
structure Hub where
  tables : Tables
  events : Table ManagementEventRow

/-- Nothing is stored. -/
def Hub.empty : Hub := ⟨.empty, .empty⟩

/-- A transaction of the Hub in which device control can raise. -/
abbrev HubTx := Tx Hub ControlError

/-- The directory row of a device. -/
def Hub.device (h : Hub) (i : DeviceInstanceId) : Option DeviceRow :=
  h.tables.devices.get (·.deviceId) i

/-! ### The deployment -/

/-- `AssertDeviceManifest`. -/
structure AssertDeviceManifest where
  deviceRef : DeviceRef
  manifest : ManifestDeclaration
  nonce : String
  publicKeySpki : Spki
  deviceSignature : String

/-- An Authority with its Device Control: the contracts this rests on. -/
structure DeviceControl where
  authority : AdmissionAuthority
  presentation : Presentation
  /-- `assertion.signing_document()` -/
  signingDocument : AssertDeviceManifest → Json
  /-- `verify_p256_signature` returns -/
  verifyP256Signature : (publicKeySpki : Spki) → Json → (signature : String) → Bool

namespace DeviceControl

/-- A device, as the control reads it. -/
abbrev Device (control : DeviceControl) : Type :=
  ManagedDevice control.authority.crypto control.presentation

/-- An output policy of the presentation contract. -/
abbrev Policy (control : DeviceControl) : Type := control.presentation.Policy

variable (control : DeviceControl)

/-- `SqlDeviceRepository.get`. -/
def getDevice (h : Hub) (i : DeviceInstanceId) : Except ControlError (Option control.Device) :=
  match h.device i with
  | none => .ok none
  | some row =>
    (decode control.authority.crypto control.presentation control.authority.ownerDomainId row).map some

/-- `SqlDeviceEraseLedger.get_claim`. -/
def getClaim (t : Tables) (i : DeviceInstanceId) (ownerDomainId : OwnerDomainId) : Option ClaimRow :=
  (t.claims.get (·.deviceInstanceId) i).filter (·.ownerDomainId = ownerDomainId)

/-! ### The commit -/

/-- What a use case hands to the commit. -/
structure Mutation where
  expected : Option control.Device
  device : control.Device
  event : ManagementEvent

/-- `_data_json`. -/
def dataJson (event : ManagementEvent) : Except ControlError String :=
  if 256 * 1024 < (dumps event.data).utf8ByteSize then
    .error (.value "management event data exceeds 256KiB")
  else .ok (dumps event.data)

/-- The row an audit event is stored in. -/
def eventRow (event : ManagementEvent) (ownerId : BusinessOwnerId) (dataJson : String) :
    ManagementEventRow where
  eventId := event.eventId
  eventType := event.eventType
  source := event.source
  principalId := event.principalId
  subject := event.subject
  ownerId := ownerId
  occurredAt := event.occurredAt
  dataJson := dataJson

/-- `_append`: an event that is stored already is not stored twice. -/
def appendEvent (row : ManagementEventRow) : HubTx Unit := do
  match ← Tx.read fun h => h.events.get (·.eventId) row.eventId with
  | some current =>
    Tx.raiseIf (current ≠ row) (.value "event_id was reused with different content")
  | none =>
    Tx.update? (fun h => (h.events.insert? row).map fun events => { h with events })
      (.value "event_id was reused with different content")

/-- Set every column of the row with this primary key. -/
def overwrite (values row : DeviceRow) : DeviceRow := if row.deviceId = values.deviceId then values else row

theorem overwrite_deviceId (values row : DeviceRow) : (overwrite values row).deviceId = row.deviceId := by
  unfold overwrite
  split
  · next h => exact h.symm
  · rfl

theorem overwrite_keeps (values : DeviceRow) : Table.Keeps (overwrite values) := by
  intro r s
  simp only [Keyed.clash, overwrite_deviceId]

/-- `_upsert`. -/
def upsert (device : control.Device) : HubTx Unit := do
  match ← Tx.read fun h => h.device device.deviceId with
  | none =>
    Tx.update? (fun h => (h.tables.devices.insert? device.values).map fun devices =>
      { h with tables := { h.tables with devices } }) (.value "the device row exists")
  | some _ =>
    Tx.update fun h => { h with tables := { h.tables with
      devices := h.tables.devices.modify (·.deviceId) device.deviceId (overwrite device.values)
        (overwrite_keeps device.values) } }

/-- The same read inside a transaction. -/
def readDevice (i : DeviceInstanceId) : HubTx (Option control.Device) := do
  Tx.lift (← Tx.read fun h => control.getDevice h i)

/-- `SqlDeviceMutationUnitOfWork.commit`. -/
def commit (mutation : control.Mutation) : HubTx Unit := do
  Tx.raiseIf (mutation.event.subject ≠ mutation.device.deviceId)
    (.value "management event subject must match device")
  let dataJson ← Tx.lift (dataJson mutation.event)
  let actual ← control.readDevice mutation.device.deviceId
  Tx.raiseIf (actual ≠ mutation.expected)
    (.concurrent "device changed concurrently; reload and retry")
  control.upsert mutation.device
  appendEvent (eventRow mutation.event
    (if mutation.device.ownerId = "" then "unclaimed" else mutation.device.ownerId) dataJson)

/-! ### The commands -/

/-- `DeviceManifestAcceptance`. -/
inductive Outcome where
  | accepted | unchanged
  deriving DecidableEq

/-- `ManifestAcceptance`: what a device is answered with, and when. -/
structure Acceptance where
  deviceRef : DeviceRef
  nonce : String
  accepted : ManifestRef
  outcome : Outcome
  acceptedAt : Timestamp
  deriving DecidableEq

/-- `SetDeviceOutputPolicy`. -/
structure SetOutputPolicy where
  deviceRef : DeviceRef
  expectedRevision : Nat
  allowed : control.presentation.Outputs
  inputs : Option control.presentation.Inputs

/-- What device control is asked for. -/
inductive Operation where
  | assertManifest (assertion : AssertDeviceManifest)
  | setOutputPolicy (command : control.SetOutputPolicy) (context : ActorContext)

/-- What device control answers with. -/
inductive Answer where
  | accepted (acceptance : Acceptance)
  | policy (policy : control.Policy)

/-- What a call draws while it runs. -/
structure ControlDraws where
  /-- the reading the new row and its event carry -/
  now : Timestamp
  eventId : EventId
  /-- the reading of the answer -/
  answeredAt : Timestamp
  /-- what is awaited after the change, or instead of one, succeeds -/
  followUp : Bool := true

variable {control}

/-- The device that an operation is about. -/
def Operation.deviceRef : control.Operation → DeviceRef
  | .assertManifest assertion => assertion.deviceRef
  | .setOutputPolicy command _ => command.deviceRef

variable (control)

/-- The scope that sets output policies. -/
def policyWriteScope : String := "device.output-policy.write"

/-- The event of an accepted Manifest. -/
def manifestAccepted : String := "live.eidolon.device.manifest-accepted.v1"

/-- The event of a changed output policy. -/
def outputPolicyChanged : String := "device.output-policy.changed"

/-- The source that the events of device control name. -/
def controlSource : String := "urn:eidolon:authority:device-control"

/-- What stands in front of a public key that is stored. -/
def spkiScheme : String := "p256-spki:"

/-- `_same_operational_key`. -/
def sameOperationalKey (recorded presented : Spki) : Bool :=
  removePrefix spkiScheme recorded = removePrefix spkiScheme presented

/-- What is checked before the device is read. -/
def authorize (t : Tables) : control.Operation → Except ControlError Unit
  | .assertManifest assertion =>
    match getClaim t assertion.deviceRef.deviceInstanceId assertion.deviceRef.ownerDomainId with
    | none => .error (.key assertion.deviceRef.deviceInstanceId)
    | some claim =>
      if claim.state ≠ .active then .error (.key assertion.deviceRef.deviceInstanceId)
      else if ¬ sameOperationalKey claim.operationalPublicKeySpki assertion.publicKeySpki then
        .error (.permission "manifest assertion key differs from the Claim")
      else if ¬ control.verifyP256Signature assertion.publicKeySpki
          (control.signingDocument assertion) assertion.deviceSignature then
        .error .contract
      else .ok ()
  | .setOutputPolicy _ context =>
    match context.requireScope policyWriteScope with
    | .ok _ => .ok ()
    | .error e => .error (.admission e)

/-- What a command makes of the device it read. -/
inductive Plan where
  /-- nothing to change; `followed` where a further step is awaited before the answer -/
  | settled (answer : control.Answer) (followed : Bool)
  | write (mutation : control.Mutation) (answer : control.Answer)

/-- An aggregate keeps its checks when its revision goes up by one. -/
theorem deviceProblem_succ {deviceId manifestId : String} {ownerId : Option BusinessOwnerId}
    {generation claimGeneration trustEpoch revision : Nat}
    (h : deviceProblem deviceId manifestId ownerId generation claimGeneration trustEpoch revision =
      none) :
    deviceProblem deviceId manifestId ownerId generation claimGeneration trustEpoch (revision + 1) =
      none := by
  unfold deviceProblem at h ⊢
  split_ifs at h with hid hmanifest howner hmin hnone
  rw [if_neg hid, if_neg hmanifest, if_neg howner, if_neg (by omega), if_neg hnone]

/-- `replace(device, ...)` with the next aggregate revision. -/
def withManifest (device : control.Device)
    (manifest : DeviceManifestDocument control.authority.crypto) (now : Timestamp) : control.Device :=
  { device with
    manifest
    updatedAt := now
    aggregateRevision := device.aggregateRevision + 1
    valid := deviceProblem_succ device.valid }

/-- The device with another output policy, as it is saved. -/
def withPolicy (device : control.Device) (policy : control.Policy) (now : Timestamp) :
    control.Device :=
  { device with
    outputPolicy := some policy
    updatedAt := now
    aggregateRevision := device.aggregateRevision + 1
    valid := deviceProblem_succ device.valid }

/-- A change of the device, with an event that has to stand its own checks. -/
def writes (current device : control.Device) (event : ManagementEvent) (answer : control.Answer) :
    Except ControlError control.Plan :=
  match event.problem with
  | some message => .error (.value message)
  | none => .ok (.write ⟨some current, device, event⟩ answer)

/-- The audit event of an accepted Manifest. -/
def manifestEvent (assertion : AssertDeviceManifest) (draws : ControlDraws) (current : control.Device)
    (manifest : DeviceManifestDocument control.authority.crypto) : ManagementEvent where
  eventId := draws.eventId
  eventType := manifestAccepted
  source := controlSource
  principalId := assertion.deviceRef.deviceInstanceId
  subject := assertion.deviceRef.deviceInstanceId
  occurredAt := draws.now
  data := .obj [("manifest_id", .str assertion.manifest.manifestId),
    ("revision", .int assertion.manifest.revision), ("digest", .str manifest.digest),
    ("superseded_digest", .str current.manifest.digest)]

/-- `AcceptDeviceManifest.execute`, from the device it read to its commit. -/
def planAssertion (assertion : AssertDeviceManifest) (draws : ControlDraws)
    (current : Option control.Device) : Except ControlError control.Plan :=
  match current with
  | none => .error (.key assertion.deviceRef.deviceInstanceId)
  | some current =>
    if current.deviceRef ≠ assertion.deviceRef then
      .error (.key assertion.deviceRef.deviceInstanceId)
    else
      let declared := assertion.manifest
      if declared.manifestId ≠ current.manifestId then
        .error (.manifestRevision "manifest_id is fixed for the Claim")
      else match DeviceManifestDocument.fromDeclaration control.authority.crypto declared.document
          declared.revision with
      | .error e => .error e
      | .ok manifest =>
        if declared.revision < current.manifest.declaredRevision then
          .error (.manifestRevision "manifest revision is older than the accepted declaration")
        else if declared.revision = current.manifest.declaredRevision then
          if declared.ref ≠ current.manifestRef then
            .error (.manifestRevision "manifest revision was reused for different content")
          else .ok (.settled (.accepted ⟨assertion.deviceRef, assertion.nonce, current.manifestRef,
            .unchanged, draws.answeredAt⟩) false)
        else
          control.writes current (control.withManifest current manifest draws.now)
            (control.manifestEvent assertion draws current manifest)
            (.accepted ⟨assertion.deviceRef, assertion.nonce, declared.ref, .accepted,
              draws.answeredAt⟩)

/-- `_owned_device`. -/
def ownedDevice (deviceRef : DeviceRef) (context : ActorContext) (current : Option control.Device) :
    Except ControlError control.Device :=
  match current with
  | none => .error (.key deviceRef.deviceInstanceId)
  | some current =>
    if current.lifecycleState ≠ .approved then .error (.key deviceRef.deviceInstanceId)
    else if context.ownerDomainId ≠ current.ownerDomainId ∨ context.businessOwnerId ≠ current.ownerId then
      .error (.permission "output policy belongs to another Owner")
    else if current.deviceRef ≠ deviceRef then .error (.outputPolicy "device generation changed")
    else .ok current

/-- The revision of a device's policy. -/
def policyRevision (device : control.Device) : Nat := (device.outputPolicy.map (·.revision)).getD 0

/-- The policy of the device is what this command would have left. -/
def Applied (command : control.SetOutputPolicy) (policy : control.Policy) : Prop :=
  policy.revision = command.expectedRevision + 1 ∧ policy.allowed = command.allowed ∧
    (command.inputs = none ∨ policy.inputs = command.inputs)

instance (command : control.SetOutputPolicy) (policy : control.Policy) :
    Decidable (control.Applied command policy) :=
  inferInstanceAs (Decidable (_ ∧ _ ∧ (_ ∨ _)))

/-- The policy an update leaves; a client that sends no inputs keeps those that are set. -/
def nextPolicy (command : control.SetOutputPolicy) (current : control.Device) : control.Policy where
  revision := control.policyRevision current + 1
  allowed := command.allowed
  inputs := command.inputs.or (current.outputPolicy.bind (·.inputs))

/-- The audit event of a policy update. -/
def policyEvent (command : control.SetOutputPolicy) (context : ActorContext) (draws : ControlDraws)
    (current : control.Device) : ManagementEvent where
  eventId := draws.eventId
  eventType := outputPolicyChanged
  source := controlSource
  principalId := context.actor.principalId
  subject := current.deviceId
  occurredAt := draws.now
  data := .obj [("owner_id", .str current.ownerId),
    ("device_ref", control.authority.sdk.dumpDeviceRef command.deviceRef),
    ("output_policy", control.presentation.dump (control.nextPolicy command current))]

/-- `UpdateDeviceOutputPolicy.execute`, from the device it read to its commit. -/
def planPolicy (command : control.SetOutputPolicy) (context : ActorContext) (draws : ControlDraws)
    (current : Option control.Device) : Except ControlError control.Plan :=
  match control.ownedDevice command.deviceRef context current with
  | .error e => .error e
  | .ok current =>
    if control.policyRevision current ≠ command.expectedRevision then
      match current.outputPolicy with
      | some policy =>
        if control.Applied command policy then .ok (.settled (.policy policy) true)
        else .error (.outputPolicy "output policy revision changed")
      | none => .error (.outputPolicy "output policy revision changed")
    else
      control.writes current
        (control.withPolicy current (control.nextPolicy command current) draws.now)
        (control.policyEvent command context draws current)
        (.policy (control.nextPolicy command current))

/-- What an operation would change, from the row that it has read. -/
def plan (draws : ControlDraws) : control.Operation → Option control.Device →
    Except ControlError control.Plan
  | .assertManifest assertion => control.planAssertion assertion draws
  | .setOutputPolicy command context => control.planPolicy command context draws

/-- What is left of a call once its change is made, or found to be made. -/
def finish (draws : ControlDraws) (answer : control.Answer) (followed : Bool) :
    Except ControlError control.Answer :=
  if followed && !draws.followUp then .error .followUp else .ok answer

/-- A whole call, with nothing between its steps. -/
def execute (operation : control.Operation) (draws : ControlDraws) (h : Hub) :
    Except ControlError control.Answer × Hub :=
  match control.authorize h.tables operation with
  | .error e => (.error e, h)
  | .ok () =>
    match control.getDevice h operation.deviceRef.deviceInstanceId with
    | .error e => (.error e, h)
    | .ok current =>
      match control.plan draws operation current with
      | .error e => (.error e, h)
      | .ok (.settled answer followed) => (control.finish draws answer followed, h)
      | .ok (.write mutation answer) =>
        match control.commit mutation h with
        | .error e => (.error e, h)
        | .ok (_, h') => (control.finish draws answer true, h')

end DeviceControl

/-! ### A deployment to run

The Authority of `EidolonHub.Admission.Sample` with policies that allow the outputs or do not,
spelled in one letter for each choice and one stroke for each revision. -/

namespace Sample

open DeviceControl

/-- A permission as a character of the sample's documents. -/
def flag (allowed : Bool) : Char := if allowed then 't' else 'f'

/-- A contract in which outputs and inputs are allowed or not. -/
def presentation : Presentation where
  Outputs := Bool
  Inputs := Bool
  outputsEq := inferInstance
  inputsEq := inferInstance
  dumpJson policy := String.ofList
    (flag policy.allowed :: (policy.inputs.elim 'n' flag) :: List.replicate policy.revision '+')
  validateJson text :=
    match text.toList with
    | allowed :: inputs :: strokes => some
      { revision := strokes.length
        allowed := allowed = 't'
        inputs := if inputs = 'n' then none else some (inputs = 't') }
    | _ => none
  validate_dump policy := by
    obtain ⟨revision, allowed, inputs⟩ := policy
    rcases inputs with _ | _ | _ <;> cases allowed <;> simp [flag]
  dump _ := .null

/-- Device control over the sample's Authority, which takes one signature. -/
def control : DeviceControl where
  authority := Sample.authority
  presentation := presentation
  signingDocument _ := .null
  verifyP256Signature _ _ signature := signature = "signed"

/-- A Controller that sets policies, acting for this Owner. -/
def controller (b : BusinessOwnerId) : ActorContext where
  actor := ⟨"phone", "home", [policyWriteScope], "software"⟩
  ownerDomainId := "home"
  businessOwnerId := b
  actor_ownerDomainId := rfl

/-- The Owner allows the outputs of the device with this key, or forbids them. -/
def setPolicy (key : Spki) (generation expectedRevision : Nat) (allowed : Bool)
    (b : BusinessOwnerId := "alice") : control.Operation :=
  .setOutputPolicy ⟨Sample.deviceRef key generation, expectedRevision, allowed, none⟩ (controller b)

/-- The device with this key asserts this document. -/
def assertManifest (key : Spki) (generation revision : Nat) (document : Json := .obj [])
    (digest : String := "sha256:{}") : control.Operation :=
  .assertManifest ⟨Sample.deviceRef key generation, ⟨"lamp", revision, digest, document⟩, "nonce", key,
    "signed"⟩

/-- What a call draws. -/
def draws (eventId : EventId) : ControlDraws where
  now := 5
  eventId := eventId
  answeredAt := 6

/-- The Hub whose Admission has answered these requests. -/
def hubAfter (requests : List Request) : Hub := ⟨Sample.after requests, .empty⟩

end Sample

end EidolonHub.Devices
