import EidolonHub.Admission.HardwareIdentity
import EidolonHub.Library.Table

/-!
# EidolonHub.Admission.Models

**The tables of the Hub that Admission writes.** One structure per row class,
with the uniqueness constraints of its columns as its `Keyed` instance, and
`Tables`, the database a transaction works on.

Columns ending in `_json` hold the value they encode. The column
`output_policy_json` of a Proposal is never written nor read and is left out.
-/

namespace EidolonHub.Admission

open EidolonHub.Library EidolonHub.Library.Python

/-! ### Proposals, Decisions, grants and acknowledgements -/

/-- `AdmissionProposalRow`. -/
structure ProposalRow where
  enrollmentId : EnrollmentId
  deviceInstanceId : DeviceInstanceId
  hardwareIdentityRef : HardwareIdentityRef
  requestedOwnerDomainId : OwnerDomainId
  state : ProposalState
  revision : Nat
  hardwareEvidenceDigest : String
  commissioningProofDigest : String
  manifestId : String
  manifestRevision : Nat
  manifestDigest : String
  manifestJson : String
  handoffPublicKeySpki : Spki
  handoffKeyId : KeyId
  operationalPublicKeySpki : Spki
  operationalKeyId : KeyId
  collectionChallengeHash : String
  createdAt : Timestamp
  expiresAt : Timestamp
  updatedAt : Timestamp
  deriving DecidableEq

instance : Keyed ProposalRow where
  clash r s := r.enrollmentId = s.enrollmentId
  clash_symm _ _ := by simp [eq_comm]

/-- `AdmissionDecisionRow`. -/
structure DecisionRow where
  decisionId : DecisionId
  enrollmentId : EnrollmentId
  decision : DecisionKind
  actor : ControllerActorRef
  targetOwnerDomainId : OwnerDomainId
  targetBusinessOwnerId : BusinessOwnerId
  reviewedManifest : ManifestRef
  expectedProposalRevision : Nat
  decidedAt : Timestamp
  deriving DecidableEq

instance : Keyed DecisionRow where
  clash r s := decide (r.decisionId = s.decisionId) || decide (r.enrollmentId = s.enrollmentId)
  clash_symm _ _ := by simp [eq_comm]

/-- The `ClaimGrant` document sealed into the envelope. -/
structure ClaimGrant where
  grantId : GrantId
  enrollmentId : EnrollmentId
  deviceRef : DeviceRef
  manifestRef : ManifestRef
  approvalDecisionId : DecisionId
  handoffKeyId : KeyId
  operationalKeyId : KeyId
  issuedAt : Timestamp
  expiresAt : Timestamp
  deriving DecidableEq

/-- What the ciphertext of a grant is bound to. -/
structure ClaimGrantAAD where
  enrollmentId : EnrollmentId
  proposalRevision : Nat
  deviceInstanceId : DeviceInstanceId
  hardwareEvidenceDigest : String
  manifestRef : ManifestRef
  ownerDomainId : OwnerDomainId
  ownerDomainGeneration : Nat
  claimGeneration : Nat
  trustEpoch : Nat
  grantId : GrantId
  deriving DecidableEq

/-- The sealed grant, as the device collects it. -/
structure ClaimGrantWireEnvelope where
  recipientHandoffKeyId : KeyId
  encapsulatedKey : String
  ciphertext : String
  aad : ClaimGrantAAD
  deriving DecidableEq

/-- `AdmissionGrantRow`. -/
structure GrantRow where
  grantId : GrantId
  enrollmentId : EnrollmentId
  decisionId : DecisionId
  ownerDomainId : OwnerDomainId
  hardwareIdentityRef : HardwareIdentityRef
  claimGeneration : Nat
  deviceRef : DeviceRef
  manifestRef : ManifestRef
  handoffKeyId : KeyId
  operationalKeyId : KeyId
  grant : ClaimGrant
  wireEnvelope : Option ClaimGrantWireEnvelope
  issuedAt : Timestamp
  expiresAt : Timestamp
  deliveredAt : Option Timestamp
  revokedAt : Option Timestamp
  deriving DecidableEq

instance : Keyed GrantRow where
  clash r s := decide (r.grantId = s.grantId) || decide (r.enrollmentId = s.enrollmentId) ||
    decide (r.decisionId = s.decisionId)
  clash_symm _ _ := by simp [eq_comm]

/-- `AdmissionGrantAckRow`. -/
structure GrantAckRow where
  grantId : GrantId
  enrollmentId : EnrollmentId
  proofFingerprint : String
  deviceRef : DeviceRef
  acknowledgedAt : Timestamp
  deriving DecidableEq

instance : Keyed GrantAckRow where
  clash r s := decide (r.grantId = s.grantId) || decide (r.enrollmentId = s.enrollmentId)
  clash_symm _ _ := by simp [eq_comm]

/-! ### Claims and their read model -/

/-- `AdmissionClaimRow`. -/
structure ClaimRow where
  deviceInstanceId : DeviceInstanceId
  ownerDomainId : OwnerDomainId
  businessOwnerId : BusinessOwnerId
  hardwareIdentityRef : HardwareIdentityRef
  ownerDomainGeneration : Nat
  claimGeneration : Nat
  trustEpoch : Nat
  manifestRef : ManifestRef
  approvalDecisionId : DecisionId
  operationalPublicKeySpki : Spki
  state : ClaimState
  revision : Nat
  activatedAt : Option Timestamp
  updatedAt : Timestamp
  revokedAt : Option Timestamp
  deriving DecidableEq

instance : Keyed ClaimRow where
  clash r s := r.deviceInstanceId = s.deviceInstanceId
  clash_symm _ _ := by simp [eq_comm]

/-- The generation a Claim row records. -/
def ClaimRow.deviceRef (row : ClaimRow) : DeviceRef where
  deviceInstanceId := row.deviceInstanceId
  ownerDomainId := row.ownerDomainId
  ownerDomainGeneration := row.ownerDomainGeneration
  claimGeneration := row.claimGeneration
  trustEpoch := row.trustEpoch

/-- Whether the directory shows a device as approved. -/
inductive LifecycleState where
  | approved | revoked
  deriving DecidableEq, Repr

/-- `DeviceRow`: the owner-facing directory row of a device. -/
structure DeviceRow where
  deviceId : DeviceInstanceId
  displayName : String
  manifestId : String
  manifestJson : String
  outputPolicyJson : Option String
  manifestRevision : String
  manifestDeclaredRevision : Nat
  enrolledAt : Timestamp
  updatedAt : Timestamp
  ownerDomainGeneration : Nat
  claimGeneration : Nat
  trustEpoch : Nat
  aggregateRevision : Nat
  ownerId : Option BusinessOwnerId
  lifecycleState : LifecycleState
  lastManagementRequestId : String
  lastManagementFingerprint : String
  deriving DecidableEq

instance : Keyed DeviceRow where
  clash r s := r.deviceId = s.deviceId
  clash_symm _ _ := by simp [eq_comm]

/-! ### Base identities, vouchers and standings -/

/-- Where a base identity comes from. -/
inductive Provenance where
  | minted | derivedFromController
  deriving DecidableEq, Repr

/-- `AdmissionBaseIdentityRow`. -/
structure BaseIdentityRow where
  deviceBaseId : DeviceBaseId
  ownerDomainId : OwnerDomainId
  hardwareIdentityRef : HardwareIdentityRef
  operationalKeyId : KeyId
  provenance : Provenance
  boundAt : Timestamp
  deriving DecidableEq

instance : Keyed BaseIdentityRow where
  clash r s := decide (r.deviceBaseId = s.deviceBaseId) ||
    decide (r.operationalKeyId = s.operationalKeyId)
  clash_symm _ _ := by simp [eq_comm]

/-- `AdmissionCommissioningVoucherRow`. -/
structure CommissioningVoucherRow where
  jti : Jti
  deviceBaseId : DeviceBaseId
  operationalKeyId : KeyId
  expiresAt : Timestamp
  consumedAt : Timestamp
  deriving DecidableEq

instance : Keyed CommissioningVoucherRow where
  clash r s := r.jti = s.jti
  clash_symm _ _ := by simp [eq_comm]

/-- `AdmissionCommissioningStandingRow`. -/
structure CommissioningStandingRow where
  jti : Jti
  operationalKeyId : KeyId
  ownerDomainId : OwnerDomainId
  businessOwnerId : BusinessOwnerId
  actor : ControllerActorRef
  recordedAt : Timestamp
  deriving DecidableEq

instance : Keyed CommissioningStandingRow where
  clash r s := r.jti = s.jti
  clash_symm _ _ := by simp [eq_comm]

/-- `AdmissionControllerWithdrawalRow`. -/
structure ControllerWithdrawalRow where
  ownerDomainId : OwnerDomainId
  principalId : PrincipalId
  withdrawnAt : Timestamp
  actor : ControllerActorRef
  deriving DecidableEq

instance : Keyed ControllerWithdrawalRow where
  clash r s := decide (r.ownerDomainId = s.ownerDomainId) && decide (r.principalId = s.principalId)
  clash_symm _ _ := by simp [eq_comm]

/-! ### Command results, outbox and recovery stream -/

/-- The commands whose results are stored. -/
inductive CommandType where
  | createEnrollment | cancelEnrollment | decideEnrollment | collectClaimGrant | ackClaimGrant
  | revokeClaim
  deriving DecidableEq, Repr

/-- The name under which the results of a command are stored. -/
def CommandType.value : CommandType → String
  | createEnrollment => "admission.create-enrollment"
  | cancelEnrollment => "admission.cancel-enrollment"
  | decideEnrollment => "admission.decide-enrollment"
  | collectClaimGrant => "admission.collect-claim-grant"
  | ackClaimGrant => "admission.ack-claim-grant"
  | revokeClaim => "admission.revoke-claim"

/-- Whether a command was carried out now, or answered from what is stored. -/
inductive Outcome where
  | committed | replayed
  deriving DecidableEq, Repr

/-- The `ApprovalDecision` document a decide call answers with. -/
structure ApprovalDecision where
  decisionId : DecisionId
  enrollmentId : EnrollmentId
  decision : DecisionKind
  actor : ControllerActorRef
  targetOwnerDomainId : OwnerDomainId
  targetBusinessOwnerId : BusinessOwnerId
  reviewedManifestRef : ManifestRef
  expectedProposalRevision : Nat
  decidedAt : Timestamp
  deriving DecidableEq

/-- What each command answers, apart from its id, outcome and time. -/
inductive ResultBody where
  | created (enrollmentId : EnrollmentId) (proposalRevision : Nat) (state : ProposalState)
      (collectionChallenge : String) (expiresAt : Timestamp) (reviewedManifestRef : ManifestRef)
  | canceled (enrollmentId : EnrollmentId) (proposalState : ProposalState) (proposalRevision : Nat)
  | decided (decision : ApprovalDecision) (grantId : Option GrantId) (proposalRevision : Nat)
  | collected (grantId : GrantId) (wireEnvelope : ClaimGrantWireEnvelope) (expiresAt : Timestamp)
      (approvalDecisionId : DecisionId) (proposalRevision : Nat)
  | acknowledged (deviceRef : DeviceRef) (claimState : ClaimState)
  | revoked (operation : String) (deviceRef : DeviceRef) (aggregateRevision : Nat)
      (eventId : Option EventId) (lifecycleState : LifecycleState) (claimState : ClaimState)
  deriving DecidableEq

/-- `CommandResult`: what a command is answered with, and when it was carried out. -/
structure CommandResult where
  commandId : CommandId
  outcome : Outcome
  body : ResultBody
  occurredAt : Timestamp
  deriving DecidableEq

/-- The identity a command is idempotent under. -/
structure CommandKey where
  ownerDomainId : OwnerDomainId
  commandType : CommandType
  commandId : CommandId
  deriving DecidableEq, Repr

/-- `AdmissionCommandResultRow`. -/
structure CommandResultRow where
  key : CommandKey
  fingerprint : Fingerprint
  result : CommandResult
  occurredAt : Timestamp
  deriving DecidableEq

instance : Keyed CommandResultRow where
  clash r s := r.key = s.key
  clash_symm _ _ := by simp [eq_comm]

/-- `AdmissionOutboxRow`. -/
structure OutboxRow where
  eventId : EventId
  eventType : EventType
  source : String
  aggregateId : String
  aggregateRevision : Nat
  event : Event
  occurredAt : Timestamp
  publishedAt : Option Timestamp
  publishAttempts : Nat
  lastError : String
  deriving DecidableEq

instance : Keyed OutboxRow where
  clash r s := r.eventId = s.eventId
  clash_symm _ _ := by simp [eq_comm]

/-- `AdmissionClaimEventStreamRow`. -/
structure ClaimEventStreamRow where
  streamPosition : Nat
  eventId : EventId
  ownerDomainId : OwnerDomainId
  eventType : EventType
  event : Event
  occurredAt : Timestamp
  deriving DecidableEq

instance : Keyed ClaimEventStreamRow where
  clash r s := decide (r.streamPosition = s.streamPosition) || decide (r.eventId = s.eventId)
  clash_symm _ _ := by simp [eq_comm]

/-- The tables an Admission transaction reads and writes. -/
structure Tables where
  proposals : Table ProposalRow
  decisions : Table DecisionRow
  grants : Table GrantRow
  acks : Table GrantAckRow
  claims : Table ClaimRow
  devices : Table DeviceRow
  baseIdentities : Table BaseIdentityRow
  vouchers : Table CommissioningVoucherRow
  standings : Table CommissioningStandingRow
  withdrawals : Table ControllerWithdrawalRow
  results : Table CommandResultRow
  outbox : Table OutboxRow
  stream : Table ClaimEventStreamRow

/-- A freshly created database. -/
def Tables.empty : Tables where
  proposals := .empty
  decisions := .empty
  grants := .empty
  acks := .empty
  claims := .empty
  devices := .empty
  baseIdentities := .empty
  vouchers := .empty
  standings := .empty
  withdrawals := .empty
  results := .empty
  outbox := .empty
  stream := .empty

/-! ### Unique columns -/

theorem proposal_enrollmentId_isKey : Table.IsKey ProposalRow.enrollmentId :=
  fun _ _ h => by simpa [Keyed.clash] using h

theorem decision_decisionId_isKey : Table.IsKey DecisionRow.decisionId :=
  fun _ _ h => by simp [Keyed.clash, h]

theorem decision_enrollmentId_isKey : Table.IsKey DecisionRow.enrollmentId :=
  fun _ _ h => by simp [Keyed.clash, h]

theorem grant_grantId_isKey : Table.IsKey GrantRow.grantId :=
  fun _ _ h => by simp [Keyed.clash, h]

theorem grant_enrollmentId_isKey : Table.IsKey GrantRow.enrollmentId :=
  fun _ _ h => by simp [Keyed.clash, h]

theorem grant_decisionId_isKey : Table.IsKey GrantRow.decisionId :=
  fun _ _ h => by simp [Keyed.clash, h]

theorem ack_grantId_isKey : Table.IsKey GrantAckRow.grantId :=
  fun _ _ h => by simp [Keyed.clash, h]

theorem ack_enrollmentId_isKey : Table.IsKey GrantAckRow.enrollmentId :=
  fun _ _ h => by simp [Keyed.clash, h]

theorem claim_deviceInstanceId_isKey : Table.IsKey ClaimRow.deviceInstanceId :=
  fun _ _ h => by simpa [Keyed.clash] using h

theorem device_deviceId_isKey : Table.IsKey DeviceRow.deviceId :=
  fun _ _ h => by simpa [Keyed.clash] using h

theorem baseIdentity_deviceBaseId_isKey : Table.IsKey BaseIdentityRow.deviceBaseId :=
  fun _ _ h => by simp [Keyed.clash, h]

theorem baseIdentity_operationalKeyId_isKey : Table.IsKey BaseIdentityRow.operationalKeyId :=
  fun _ _ h => by simp [Keyed.clash, h]

theorem voucher_jti_isKey : Table.IsKey CommissioningVoucherRow.jti :=
  fun _ _ h => by simpa [Keyed.clash] using h

theorem result_key_isKey : Table.IsKey CommandResultRow.key :=
  fun _ _ h => by simpa [Keyed.clash] using h

theorem outbox_eventId_isKey : Table.IsKey OutboxRow.eventId :=
  fun _ _ h => by simpa [Keyed.clash] using h

theorem stream_eventId_isKey : Table.IsKey ClaimEventStreamRow.eventId :=
  fun _ _ h => by simp [Keyed.clash, h]

end EidolonHub.Admission
