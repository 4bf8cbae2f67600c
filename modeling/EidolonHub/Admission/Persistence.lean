import EidolonHub.Admission.Commissioning
import EidolonHub.Library.Transaction
import Mathlib.Data.List.Sort

/-!
# EidolonHub.Admission.Persistence

**The Admission store**: the reads and writes a command makes inside one
transaction. A read sees what the transaction wrote before it; an insertion that
violates a uniqueness constraint raises, and with the transaction everything it
wrote is gone.
-/

namespace EidolonHub.Admission

open EidolonHub.Library EidolonHub.Library.Python

/-- A transaction of the Admission store. -/
abbrev Session := Tx Tables HubError

namespace Session

/-- `session.add(row)`. -/
def add {ρ : Type} [Keyed ρ] (table : Tables → Table ρ) (put : Tables → Table ρ → Tables)
    (row : ρ) : Session Unit :=
  Tx.update? (fun t => ((table t).insert? row).map (put t)) .integrity

end Session

/-! ### Lookups -/

/-- `get_claim`: the Claim of a device. -/
def getClaim (deviceInstanceId : DeviceInstanceId) : Session (Option ClaimRow) :=
  Tx.read fun t => t.claims.get (·.deviceInstanceId) deviceInstanceId

/-- `get_decision`. -/
def getDecision (decisionId : DecisionId) : Session (Option DecisionRow) :=
  Tx.read fun t => t.decisions.get (·.decisionId) decisionId

/-- `get_grant`. -/
def getGrant (grantId : GrantId) : Session (Option GrantRow) :=
  Tx.read fun t => t.grants.get (·.grantId) grantId

/-- `get_proposal`. -/
def getProposal (enrollmentId : EnrollmentId) : Session (Option ProposalRow) :=
  Tx.read fun t => t.proposals.get (·.enrollmentId) enrollmentId

/-- `get_grant_for_enrollment`: an enrollment has one grant at most. -/
def getGrantForEnrollment (enrollmentId : EnrollmentId) : Session (Option GrantRow) :=
  Tx.read fun t => t.grants.get (·.enrollmentId) enrollmentId

/-- `get_grant_for_device_ref`: a reference with its generations has one grant. -/
def getGrantForDeviceRef (deviceRef : DeviceRef) : Session (Option GrantRow) :=
  Tx.read fun t => t.grants.get (·.deviceRef) deviceRef

/-- `get_grant_for_decision`. -/
def getGrantForDecision (decisionId : DecisionId) : Session (Option GrantRow) :=
  Tx.read fun t => t.grants.get (·.decisionId) decisionId

/-- `get_decision_for_enrollment`. -/
def getDecisionForEnrollment (enrollmentId : EnrollmentId) : Session (Option DecisionRow) :=
  Tx.read fun t => t.decisions.get (·.enrollmentId) enrollmentId

/-- `base_identity`: the binding of a base id, if there is one. -/
def baseIdentity (deviceBaseId : DeviceBaseId) : Session (Option BaseIdentityRow) :=
  Tx.read fun t => t.baseIdentities.get (·.deviceBaseId) deviceBaseId

/-- `base_identity_for_key`: the binding of an operational key, if there is one. -/
def baseIdentityForKey (operationalKeyId : KeyId) : Session (Option BaseIdentityRow) :=
  Tx.read fun t => t.baseIdentities.get (·.operationalKeyId) operationalKeyId

/-- `commissioning_standing`: the standing under which a voucher was issued. -/
def commissioningStanding (jti : Jti) : Session (Option CommissioningStandingRow) :=
  Tx.read fun t => t.standings.get (·.jti) jti

/-- The states a deadline ends. -/
def expirable (state : ProposalState) : Bool :=
  match state with
  | .pendingReview | .approvedAwaitingHandoff | .grantDelivered => true
  | _ => false

/-- `list_expirable`: the Proposals that can expire and whose time has come, by their ids. -/
def listExpirable (deadline : Timestamp) : Session (List ProposalRow) :=
  Tx.read fun t => (t.proposals.rows.filter fun p =>
    expirable p.state && decide (p.expiresAt ≤ deadline)).insertionSort
      fun p q => p.enrollmentId ≤ q.enrollmentId

/-- The highest generation ever granted to a hardware in an Owner Domain, or 0. -/
def Tables.maxClaimGeneration (t : Tables) (ownerDomainId : OwnerDomainId)
    (hardwareIdentityRef : HardwareIdentityRef) : Nat :=
  ((t.grants.rows.filter fun g => g.ownerDomainId = ownerDomainId ∧
    g.hardwareIdentityRef = hardwareIdentityRef).map (·.claimGeneration)).max?.getD 0

/-- `max_claim_generation`: the last generation that was issued for a lineage. -/
def maxClaimGeneration (ownerDomainId : OwnerDomainId)
    (hardwareIdentityRef : HardwareIdentityRef) : Session Nat :=
  Tx.read fun t => t.maxClaimGeneration ownerDomainId hardwareIdentityRef

/-- The most recent standing this Owner Domain recorded for a key. -/
def latestCommissioningStandingForKey (ownerDomainId : OwnerDomainId)
    (operationalKeyId : KeyId) : Session (Option CommissioningStandingRow) :=
  Tx.read fun t => ((t.standings.rows.filter fun s => s.ownerDomainId = ownerDomainId ∧
    s.operationalKeyId = operationalKeyId).insertionSort fun a b =>
      b.recordedAt < a.recordedAt ∨ (b.recordedAt = a.recordedAt ∧ b.jti ≤ a.jti)).head?

/-- What is recorded of a Controller that was withdrawn. -/
def controllerWithdrawal (ownerDomainId : OwnerDomainId) (principalId : PrincipalId) :
    Session (Option ControllerWithdrawalRow) :=
  Tx.read fun t => t.withdrawals.get (fun w => (w.ownerDomainId, w.principalId))
    (ownerDomainId, principalId)

/-- `controller_withdrawn_at`: since when a Controller is withdrawn, if it is. -/
def controllerWithdrawnAt (ownerDomainId : OwnerDomainId) (principalId : PrincipalId) :
    Session (Option Timestamp) := do
  let existing ← controllerWithdrawal ownerDomainId principalId
  return existing.map (·.withdrawnAt)

/-- Has this base identity already been told no? -/
def Tables.requiresFreshPresence (t : Tables) (ownerDomainId : OwnerDomainId)
    (hardwareIdentityRef : HardwareIdentityRef) : Bool :=
  (t.proposals.rows.any fun p => decide (p.requestedOwnerDomainId = ownerDomainId) &&
    decide (p.hardwareIdentityRef = hardwareIdentityRef) && decide (p.state = .rejected)) ||
  (t.claims.rows.any fun c => decide (c.ownerDomainId = ownerDomainId) &&
    decide (c.hardwareIdentityRef = hardwareIdentityRef) && decide (c.state = .revoked))

/-- `requires_fresh_presence`: a lineage that was revoked or rejected has to show itself again. -/
def requiresFreshPresence (ownerDomainId : OwnerDomainId)
    (hardwareIdentityRef : HardwareIdentityRef) : Session Bool :=
  Tx.read fun t => t.requiresFreshPresence ownerDomainId hardwareIdentityRef

/-! ### Insertions -/

/-- `add_proposal`. -/
def addProposal (row : ProposalRow) : Session Unit :=
  Session.add (·.proposals) (fun t proposals => { t with proposals }) row

/-- `add_decision`. -/
def addDecision (row : DecisionRow) : Session Unit :=
  Session.add (·.decisions) (fun t decisions => { t with decisions }) row

/-- `add_grant`. -/
def addGrant (row : GrantRow) : Session Unit :=
  Session.add (·.grants) (fun t grants => { t with grants }) row

/-- `add_grant_ack`. -/
def addGrantAck (row : GrantAckRow) : Session Unit :=
  Session.add (·.acks) (fun t acks => { t with acks }) row

/-! ### Rewriting a Proposal or a grant -/

/-- `proposal.state = target; proposal.revision += 1; proposal.updated_at = now`. -/
def ProposalRow.moved (target : ProposalState) (now : Timestamp) (row : ProposalRow) :
    ProposalRow :=
  { row with state := target, revision := row.revision + 1, updatedAt := now }

section Moved

variable {target : ProposalState} {now : Timestamp} {row : ProposalRow}

@[simp] theorem ProposalRow.moved_enrollmentId :
    (row.moved target now).enrollmentId = row.enrollmentId := rfl
@[simp] theorem ProposalRow.moved_state : (row.moved target now).state = target := rfl
@[simp] theorem ProposalRow.moved_revision :
    (row.moved target now).revision = row.revision + 1 := rfl
@[simp] theorem ProposalRow.moved_deviceInstanceId :
    (row.moved target now).deviceInstanceId = row.deviceInstanceId := rfl
@[simp] theorem ProposalRow.moved_hardwareIdentityRef :
    (row.moved target now).hardwareIdentityRef = row.hardwareIdentityRef := rfl
@[simp] theorem ProposalRow.moved_requestedOwnerDomainId :
    (row.moved target now).requestedOwnerDomainId = row.requestedOwnerDomainId := rfl
@[simp] theorem ProposalRow.moved_operationalPublicKeySpki :
    (row.moved target now).operationalPublicKeySpki = row.operationalPublicKeySpki := rfl
@[simp] theorem ProposalRow.moved_operationalKeyId :
    (row.moved target now).operationalKeyId = row.operationalKeyId := rfl

end Moved

theorem ProposalRow.moved_keeps (target : ProposalState) (now : Timestamp) :
    Table.Keeps (ProposalRow.moved target now) := fun _ _ => rfl

/-- The Proposal goes to another state, and counts a revision. -/
def moveProposal (enrollmentId : EnrollmentId) (target : ProposalState) (now : Timestamp) :
    Session Unit :=
  Tx.update fun t => { t with
    proposals := t.proposals.modify (·.enrollmentId) enrollmentId (ProposalRow.moved target now)
      (ProposalRow.moved_keeps target now) }

/-- `grant.revoked_at = now`. -/
def GrantRow.revoke (now : Timestamp) (row : GrantRow) : GrantRow :=
  { row with revokedAt := some now }

@[simp] theorem GrantRow.revoke_grantId {now : Timestamp} {row : GrantRow} :
    (row.revoke now).grantId = row.grantId := rfl
@[simp] theorem GrantRow.revoke_enrollmentId {now : Timestamp} {row : GrantRow} :
    (row.revoke now).enrollmentId = row.enrollmentId := rfl
@[simp] theorem GrantRow.revoke_decisionId {now : Timestamp} {row : GrantRow} :
    (row.revoke now).decisionId = row.decisionId := rfl
@[simp] theorem GrantRow.revoke_deviceRef {now : Timestamp} {row : GrantRow} :
    (row.revoke now).deviceRef = row.deviceRef := rfl
@[simp] theorem GrantRow.revoke_claimGeneration {now : Timestamp} {row : GrantRow} :
    (row.revoke now).claimGeneration = row.claimGeneration := rfl
@[simp] theorem GrantRow.revoke_ownerDomainId {now : Timestamp} {row : GrantRow} :
    (row.revoke now).ownerDomainId = row.ownerDomainId := rfl
@[simp] theorem GrantRow.revoke_hardwareIdentityRef {now : Timestamp} {row : GrantRow} :
    (row.revoke now).hardwareIdentityRef = row.hardwareIdentityRef := rfl
@[simp] theorem GrantRow.revoke_wireEnvelope {now : Timestamp} {row : GrantRow} :
    (row.revoke now).wireEnvelope = row.wireEnvelope := rfl
@[simp] theorem GrantRow.revoke_revokedAt {now : Timestamp} {row : GrantRow} :
    (row.revoke now).revokedAt = some now := rfl

theorem GrantRow.revoke_keeps (now : Timestamp) : Table.Keeps (GrantRow.revoke now) :=
  fun _ _ => rfl

/-- The grant is of no use from now on. -/
def revokeGrant (grantId : GrantId) (now : Timestamp) : Session Unit :=
  Tx.update fun t => { t with
    grants := t.grants.modify (·.grantId) grantId (GrantRow.revoke now) (GrantRow.revoke_keeps now) }

/-- `grant.wire_envelope_json = envelope; grant.delivered_at = now`. -/
def GrantRow.deliver (envelope : ClaimGrantWireEnvelope) (now : Timestamp) (row : GrantRow) :
    GrantRow :=
  { row with wireEnvelope := some envelope, deliveredAt := some now }

theorem GrantRow.deliver_keeps (envelope : ClaimGrantWireEnvelope) (now : Timestamp) :
    Table.Keeps (GrantRow.deliver envelope now) := fun _ _ => rfl

/-- The sealed grant is kept with the row of the grant, and when it was collected. -/
def deliverGrant (grantId : GrantId) (envelope : ClaimGrantWireEnvelope) (now : Timestamp) :
    Session Unit :=
  Tx.update fun t => { t with
    grants := t.grants.modify (·.grantId) grantId (GrantRow.deliver envelope now)
      (GrantRow.deliver_keeps envelope now) }

/-! ### Claims and the directory rows derived from them -/

/-- The row a Claim already had takes over the new values at its next revision. -/
def ClaimRow.replacedBy (values existing : ClaimRow) : ClaimRow :=
  { values with
    deviceInstanceId := existing.deviceInstanceId
    revision := existing.revision + 1 }

theorem ClaimRow.replacedBy_keeps (values : ClaimRow) :
    Table.Keeps values.replacedBy := fun _ _ => rfl

/-- `upsert_claim`: insert the row, or let it replace the one this Body already
had; the revision it now has. -/
def upsertClaim (values : ClaimRow) : Session Nat := do
  match ← getClaim values.deviceInstanceId with
  | none =>
    Session.add (·.claims) (fun t claims => { t with claims }) values
    return values.revision
  | some existing =>
    Tx.update fun t => { t with
      claims := t.claims.modify (·.deviceInstanceId) values.deviceInstanceId values.replacedBy
        values.replacedBy_keeps }
    return existing.revision + 1

/-- `claim.state = "revoked"` and the columns that go with it. -/
def ClaimRow.revoke (now : Timestamp) (row : ClaimRow) : ClaimRow :=
  { row with state := .revoked, revision := row.revision + 1, updatedAt := now, revokedAt := some now }

theorem ClaimRow.revoke_keeps (now : Timestamp) : Table.Keeps (ClaimRow.revoke now) :=
  fun _ _ => rfl

/-- The row of the Claim is marked as revoked. -/
def revokeClaimRow (deviceInstanceId : DeviceInstanceId) (now : Timestamp) : Session Unit :=
  Tx.update fun t => { t with
    claims := t.claims.modify (·.deviceInstanceId) deviceInstanceId (ClaimRow.revoke now)
      (ClaimRow.revoke_keeps now) }

/-- The name a Manifest gives a device, or its instance id. -/
def displayName (document : Json) (deviceInstanceId : DeviceInstanceId) : String :=
  match document.field "title" with
  | some (.str title) => if strip title ≠ "" then strip title else deviceInstanceId
  | _ => deviceInstanceId

/-- The values `project_active_claim` writes, over the row it found. -/
def DeviceRow.activated (deviceRef : DeviceRef) (businessOwnerId : BusinessOwnerId)
    (manifest : ManifestRef) (manifestJson : String) (activatedAt : Timestamp) (row : DeviceRow) :
    DeviceRow :=
  { row with
    manifestId := manifest.manifestId
    manifestJson := manifestJson
    manifestRevision := manifest.digest
    manifestDeclaredRevision := manifest.revision
    enrolledAt := activatedAt
    updatedAt := activatedAt
    ownerDomainGeneration := deviceRef.ownerDomainGeneration
    claimGeneration := deviceRef.claimGeneration
    trustEpoch := deviceRef.trustEpoch
    aggregateRevision := row.aggregateRevision + 1
    ownerId := some businessOwnerId
    lifecycleState := .approved
    lastManagementRequestId := ""
    lastManagementFingerprint := "" }

theorem DeviceRow.activated_keeps (deviceRef : DeviceRef) (businessOwnerId : BusinessOwnerId)
    (manifest : ManifestRef) (manifestJson : String) (activatedAt : Timestamp) :
    Table.Keeps (DeviceRow.activated deviceRef businessOwnerId manifest manifestJson activatedAt) :=
  fun _ _ => rfl

/-- The row `project_active_claim` adds for a device it had none for. -/
def DeviceRow.enrolled (displayName : String) (deviceRef : DeviceRef)
    (businessOwnerId : BusinessOwnerId) (manifest : ManifestRef) (manifestJson : String)
    (activatedAt : Timestamp) : DeviceRow where
  deviceId := deviceRef.deviceInstanceId
  displayName := displayName
  manifestId := manifest.manifestId
  manifestJson := manifestJson
  outputPolicyJson := none
  manifestRevision := manifest.digest
  manifestDeclaredRevision := manifest.revision
  enrolledAt := activatedAt
  updatedAt := activatedAt
  ownerDomainGeneration := deviceRef.ownerDomainGeneration
  claimGeneration := deviceRef.claimGeneration
  trustEpoch := deviceRef.trustEpoch
  aggregateRevision := 1
  ownerId := some businessOwnerId
  lifecycleState := .approved
  lastManagementRequestId := ""
  lastManagementFingerprint := ""

/-- `project_active_claim`. -/
def projectActiveClaim (crypto : Crypto) (deviceRef : DeviceRef)
    (businessOwnerId : BusinessOwnerId) (manifest : ManifestRef) (manifestJson : String)
    (activatedAt : Timestamp) : Session Unit := do
  let document ← Tx.demand (crypto.jsonLoads manifestJson) (.value "Manifest document is not JSON")
  Tx.raiseIf (¬ document.isObject) (conflict .invalidArgument "Manifest document must be an object")
  match ← Tx.read fun t => t.devices.get (·.deviceId) deviceRef.deviceInstanceId with
  | none =>
    Session.add (·.devices) (fun t devices => { t with devices })
      (.enrolled (displayName document deviceRef.deviceInstanceId) deviceRef businessOwnerId manifest
        manifestJson activatedAt)
  | some _ =>
    Tx.update fun t => { t with
      devices := t.devices.modify (·.deviceId) deviceRef.deviceInstanceId
        (.activated deviceRef businessOwnerId manifest manifestJson activatedAt)
        (DeviceRow.activated_keeps deviceRef businessOwnerId manifest manifestJson activatedAt) }

/-- The row records the generation a DeviceRef names. -/
def DeviceRow.matches (deviceRef : DeviceRef) (row : DeviceRow) : Prop :=
  row.ownerDomainGeneration = deviceRef.ownerDomainGeneration ∧
    row.claimGeneration = deviceRef.claimGeneration ∧ row.trustEpoch = deviceRef.trustEpoch

instance (deviceRef : DeviceRef) (row : DeviceRow) : Decidable (row.matches deviceRef) :=
  inferInstanceAs (Decidable (_ ∧ _))

/-- `project_revoked_claim` on the row of the revoked generation. -/
def DeviceRow.revoke (deviceRef : DeviceRef) (revokedAt : Timestamp) (row : DeviceRow) : DeviceRow :=
  if row.matches deviceRef then
    { row with
      lifecycleState := .revoked
      updatedAt := revokedAt
      aggregateRevision := row.aggregateRevision + 1 }
  else row

theorem DeviceRow.revoke_keeps (deviceRef : DeviceRef) (revokedAt : Timestamp) :
    Table.Keeps (DeviceRow.revoke deviceRef revokedAt) := by
  intro r s
  unfold DeviceRow.revoke
  split <;> rfl

/-- `project_revoked_claim`. -/
def projectRevokedClaim (deviceRef : DeviceRef) (revokedAt : Timestamp) : Session Unit :=
  Tx.update fun t => { t with
    devices := t.devices.modify (·.deviceId) deviceRef.deviceInstanceId
      (.revoke deviceRef revokedAt) (DeviceRow.revoke_keeps deviceRef revokedAt) }

/-! ### Base identities, vouchers, standings and withdrawals -/

/-- `bind_base_identity`: record the one-to-one binding, or refuse a second one. -/
def bindBaseIdentity (row : BaseIdentityRow) : Session Unit := do
  match ← baseIdentity row.deviceBaseId with
  | some existing =>
    Tx.raiseIf (existing.operationalKeyId ≠ row.operationalKeyId)
      (unauthenticated "base identity is bound to another operational key")
  | none =>
    let held ← baseIdentityForKey row.operationalKeyId
    Tx.raiseIf (held.isSome = true)
      (unauthenticated "operational key is already bound to another base identity")
    Session.add (·.baseIdentities) (fun t baseIdentities => { t with baseIdentities }) row

/-- `consume_commissioning_voucher`: spend a voucher exactly once, durably. -/
def consumeCommissioningVoucher (row : CommissioningVoucherRow) : Session Unit := do
  let spent ← Tx.read fun t => t.vouchers.get (·.jti) row.jti
  Tx.raiseIf (spent.isSome = true) (unauthenticated "commissioning voucher was already used")
  Session.add (·.vouchers) (fun t vouchers => { t with vouchers }) row

/-- `record_commissioning_standing`: record who admitted this key, once per voucher. -/
def recordCommissioningStanding (row : CommissioningStandingRow) : Session Bool := do
  match ← commissioningStanding row.jti with
  | some existing =>
    Tx.raiseIf (existing.operationalKeyId ≠ row.operationalKeyId
        ∨ existing.ownerDomainId ≠ row.ownerDomainId
        ∨ existing.businessOwnerId ≠ row.businessOwnerId
        ∨ existing.actor ≠ row.actor)
      (conflict .idempotencyConflict
        "commissioning standing was already recorded for another key or Controller")
    return false
  | none =>
    Session.add (·.standings) (fun t standings => { t with standings }) row
    return true

/-- A withdrawal row after a withdrawal at a later moment. -/
def ControllerWithdrawalRow.advance (withdrawnAt : Timestamp) (actor : ControllerActorRef)
    (row : ControllerWithdrawalRow) : ControllerWithdrawalRow :=
  { row with withdrawnAt, actor }

theorem ControllerWithdrawalRow.advance_keeps (withdrawnAt : Timestamp)
    (actor : ControllerActorRef) :
    Table.Keeps (ControllerWithdrawalRow.advance withdrawnAt actor) := fun _ _ => rfl

/-- `record_controller_withdrawal`: the moment that now stands. -/
def recordControllerWithdrawal (row : ControllerWithdrawalRow) : Session Timestamp := do
  match ← controllerWithdrawal row.ownerDomainId row.principalId with
  | none =>
    Session.add (·.withdrawals) (fun t withdrawals => { t with withdrawals }) row
    return row.withdrawnAt
  | some existing =>
    if existing.withdrawnAt < row.withdrawnAt then
      Tx.update fun t => { t with
        withdrawals := t.withdrawals.modify (fun w => (w.ownerDomainId, w.principalId))
          (row.ownerDomainId, row.principalId) (.advance row.withdrawnAt row.actor)
          (ControllerWithdrawalRow.advance_keeps row.withdrawnAt row.actor) }
      return row.withdrawnAt
    else return existing.withdrawnAt

/-! ### Command results and events -/

/-- The answer a stored result gives to a later call. -/
def CommandResult.replay (result : CommandResult) : CommandResult :=
  { result with outcome := .replayed }

/-- `replay_in_session`. -/
def replayInSession (key : CommandKey) (fingerprint : Fingerprint) :
    Session (Option CommandResult) := do
  match ← Tx.read fun t => t.results.get (·.key) key with
  | none => return none
  | some row =>
    Tx.raiseIf (row.fingerprint ≠ fingerprint)
      (conflict .idempotencyConflict "command_id was reused with different canonical payload")
    return some row.result.replay

/-- `save_result`. -/
def saveResult (key : CommandKey) (fingerprint : Fingerprint) (result : CommandResult)
    (occurredAt : Timestamp) : Session Unit :=
  Session.add (·.results) (fun t results => { t with results }) { key, fingerprint, result, occurredAt }

/-- `add_outbox`: publish an event; a Claim event also goes to the recovery stream,
at the position after the last one. -/
def addOutbox (eventId : EventId) (eventType : EventType) (aggregateId : String)
    (aggregateRevision : Nat) (event : Event) (occurredAt : Timestamp) : Session Unit := do
  Session.add (·.outbox) (fun t outbox => { t with outbox })
    { eventId, eventType, source, aggregateId, aggregateRevision, event, occurredAt
      publishedAt := none, publishAttempts := 0, lastError := "" }
  if eventType.isClaim then
    let streamPosition ← Tx.read fun t => t.stream.rows.length + 1
    Session.add (·.stream) (fun t stream => { t with stream })
      { streamPosition, eventId, ownerDomainId := event.ownerDomainId, eventType, event, occurredAt }

end EidolonHub.Admission
