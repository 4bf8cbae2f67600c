import EidolonHub.Admission.Application
import EidolonHub.Library.Run

/-!
# EidolonHub.Admission.Commands

**The Admission Authority as a state machine.** A `Request` is one transaction
under the store's lock, with everything it draws from outside; `next` is the
database it leaves. Since a transaction that raises leaves the database as it
found it, every list of requests is a run, whatever each of them is answered.
-/

namespace EidolonHub.Admission

open EidolonHub.Library

/-- The commands that are idempotent by command id. -/
inductive Command where
  | createEnrollment (commandId : CommandId) (correlationId : CorrelationId)
      (payload : CreateEnrollment)
  | decideEnrollment (commandId : CommandId) (correlationId : CorrelationId)
      (enrollmentId : EnrollmentId) (payload : DecideEnrollment) (context : ActorContext)
  | cancelEnrollment (commandId : CommandId) (correlationId : CorrelationId)
      (enrollmentId : EnrollmentId) (reason : String) (context : ActorContext)
  | collectClaimGrant (commandId : CommandId) (correlationId : CorrelationId)
      (enrollmentId : EnrollmentId) (proposalRevision : Nat)
      (collectionChallenge handoffKeyProof : String)
  | ackClaimGrant (commandId : CommandId) (correlationId : CorrelationId)
      (enrollmentId : EnrollmentId) (grantId : GrantId) (operationalKeyProof : String)
      (storedClaimGeneration storedTrustEpoch : Nat)
  | revokeClaim (commandId : CommandId) (correlationId : CorrelationId) (deviceRef : DeviceRef)
      (reason : String) (context : ActorContext)

namespace Command

variable (authority : AdmissionAuthority)

/-- The identity a call is recognised by. -/
def key : Command → CommandKey
  | createEnrollment commandId _ payload => AdmissionAuthority.createKey commandId payload
  | decideEnrollment commandId _ _ payload _ => AdmissionAuthority.decideKey commandId payload
  | cancelEnrollment commandId _ _ _ context => AdmissionAuthority.cancelKey commandId context
  | collectClaimGrant commandId _ _ _ _ _ => authority.collectKey commandId
  | ackClaimGrant commandId _ _ _ _ _ _ => authority.ackKey commandId
  | revokeClaim commandId _ _ _ context => AdmissionAuthority.revokeKey commandId context

/-- The fingerprint of a call. -/
def fingerprint : Command → Except HubError Fingerprint
  | createEnrollment _ _ payload => authority.createFingerprint payload
  | decideEnrollment _ _ enrollmentId payload context =>
    authority.decideFingerprint enrollmentId payload context
  | cancelEnrollment _ _ enrollmentId reason context =>
    authority.cancelFingerprint enrollmentId reason context
  | collectClaimGrant _ _ enrollmentId proposalRevision collectionChallenge handoffKeyProof =>
    authority.collectAuthorized enrollmentId proposalRevision collectionChallenge handoffKeyProof
  | ackClaimGrant _ _ enrollmentId grantId operationalKeyProof storedClaimGeneration
      storedTrustEpoch =>
    authority.ackAuthorized enrollmentId grantId operationalKeyProof storedClaimGeneration
      storedTrustEpoch
  | revokeClaim _ _ deviceRef reason context => authority.revokeFingerprint deviceRef reason context

/-- What a call checks before its replay lookup, and the fingerprint it looks up. -/
def authorized : Command → Except HubError Fingerprint
  | createEnrollment _ _ payload => authority.createAuthorized payload
  | decideEnrollment _ _ enrollmentId payload context =>
    authority.decideAuthorized enrollmentId payload context
  | cancelEnrollment _ _ enrollmentId reason context =>
    authority.cancelAuthorized enrollmentId reason context
  | collectClaimGrant _ _ enrollmentId proposalRevision collectionChallenge handoffKeyProof =>
    authority.collectAuthorized enrollmentId proposalRevision collectionChallenge handoffKeyProof
  | ackClaimGrant _ _ enrollmentId grantId operationalKeyProof storedClaimGeneration
      storedTrustEpoch =>
    authority.ackAuthorized enrollmentId grantId operationalKeyProof storedClaimGeneration
      storedTrustEpoch
  | revokeClaim _ _ deviceRef reason context => authority.revokeAuthorized deviceRef reason context

/-- The call runs the expiry sweep after its replay lookup. -/
def sweeps : Command → Bool
  | createEnrollment .. | revokeClaim .. => false
  | _ => true

/-- What a call does once its replay lookup found nothing. -/
def session (fp : Fingerprint) (draws : Draws) : Command → Session CommandResult
  | createEnrollment commandId correlationId payload =>
    authority.createEnrollment commandId correlationId payload fp draws
  | decideEnrollment commandId correlationId enrollmentId payload context =>
    authority.decideEnrollment commandId correlationId enrollmentId payload context fp draws
  | cancelEnrollment commandId correlationId enrollmentId reason context =>
    AdmissionAuthority.cancelEnrollment commandId correlationId enrollmentId reason context fp draws
  | collectClaimGrant commandId correlationId enrollmentId proposalRevision collectionChallenge
      handoffKeyProof =>
    authority.collectClaimGrant commandId correlationId enrollmentId proposalRevision
      collectionChallenge handoffKeyProof fp draws
  | ackClaimGrant commandId correlationId enrollmentId grantId operationalKeyProof
      storedClaimGeneration storedTrustEpoch =>
    authority.ackClaimGrant commandId correlationId enrollmentId grantId operationalKeyProof
      storedClaimGeneration storedTrustEpoch fp draws
  | revokeClaim commandId correlationId deviceRef reason context =>
    authority.revokeClaim commandId correlationId deviceRef reason context fp draws

/-- A call as one transaction. -/
def transaction (command : Command) (draws : Draws) : Session CommandResult := do
  let fp ← Tx.lift (command.authorized authority)
  command.session authority fp draws

end Command

/-- One transaction of the Authority. -/
inductive Request where
  | command (cmd : Command) (draws : Draws)
  | expireDue (eventIds : EnrollmentId → EventId) (now : Timestamp)
  | recordStanding (jti : Jti) (operationalKeyId : KeyId) (context : ActorContext) (now : Timestamp)
  | withdrawController (principalId : PrincipalId) (context : ActorContext) (now : Timestamp)

/-- The transaction a request runs, without its answer. -/
def Request.transaction (authority : AdmissionAuthority) : Request → Session Unit
  | .command cmd draws => do
    let _ ← cmd.transaction authority draws
  | .expireDue eventIds now => do
    let _ ← AdmissionAuthority.expireDue eventIds now
  | .recordStanding jti operationalKeyId context now =>
    AdmissionAuthority.recordStanding jti operationalKeyId context now
  | .withdrawController principalId context now => do
    let _ ← AdmissionAuthority.withdrawController principalId context now

/-- The database after a request. -/
def AdmissionAuthority.next (authority : AdmissionAuthority) (t : Tables) (request : Request) :
    Tables :=
  Tx.attempt (request.transaction authority) t

/-- Some sequence of requests to a fresh Authority leads to this database. -/
def Reachable (authority : AdmissionAuthority) (t : Tables) : Prop :=
  Reaches authority.next Tables.empty t

/-! ### A deployment to run

An Authority whose primitives can be evaluated: a digest is its text, the one
signature that verifies is `"signed"`, and a voucher names the base identity of
the key it is presented with. -/

namespace Sample

open EidolonHub.Library.Python

/-- Primitives under which every document is empty and every text is its own hash. -/
def crypto : Crypto where
  sha256 := id
  hmacSha256 _ _ := []
  b64urlDecode _ := none
  jsonLoads _ := some (.obj [])
  jsonLoadsBytes _ := none
  rfc8785Dumps _ := .ok "{}"
  strOther _ := ""
  unicode := ⟨fun c => [c], fun _ => none⟩
  p256Verify _ _ signature := signature = "signed"
  operationalKeyId key := .ok key
  deriveDeviceInstanceId key := .ok ("device-" ++ key)
  hpkeSeal _ _ _ _ := .ok ("encapsulated", "sealed")

/-- Contracts that hold no fields. -/
def sdk : Sdk where
  dumpActor _ := .null
  dumpDeviceRef _ := .null
  dumpCreateEnrollment _ := .null
  dumpDecideEnrollment _ := []
  dumpClaimGrant _ := .null
  dumpClaimGrantAAD _ := .null
  claimGrantCollectionProofDocument _ _ _ := .null
  claimGrantAckProofDocument _ _ _ := .null
  acceptsClaimEvent _ := true
  baseIdentityEvidenceScheme := "base-identity"
  baseIdentityEvidenceFields := []
  trustProfileId := "profile"
  isVoucherHeader _ := true
  commissioningVoucherClaimNames := []
  commissioningVoucherPurpose := "commissioning"
  commissioningVoucherProvenance := ["minted"]
  hashesProvenance := true

/-- An Authority that takes every proof, and finds the base id and the voucher in its own request. -/
def authority : AdmissionAuthority where
  crypto := crypto
  sdk := sdk
  ownerDomainId := "home"
  ownerDomainGeneration := 1
  commissioningProofs request := .ok (some
    { identity := ⟨"base-" ++ request.operationalPublicKey⟩
      scheme := voucherScheme
      jti := some request.nonce
      expiresAt := some 60 })

/-- A Controller with both scopes, acting for this Owner. -/
def owner (b : BusinessOwnerId) : ActorContext where
  actor := ⟨"phone", "home", [approveScope, revokeScope], "software"⟩
  ownerDomainId := "home"
  businessOwnerId := b
  actor_ownerDomainId := rfl

/-- What every device of the examples declares. -/
def manifest : ManifestDeclaration := ⟨"lamp", 1, "sha256:{}", .obj []⟩

/-- The generation of the device with this key. -/
def deviceRef (key : Spki) (generation : Nat) : DeviceRef :=
  ⟨"device-" ++ key, "home", 1, generation, 1⟩

/-- The device with this key enrolls as `e`. -/
def create (e : EnrollmentId) (key : Spki) : Request :=
  .command (.createEnrollment ("create-" ++ e) e
      { requestedOwnerDomainId := "home"
        deviceInstanceCandidateId := "device-" ++ key
        hardwareIdentityEvidence := ⟨"base-identity", "evidence", "sha256:evidence"⟩
        operationalKey := key
        handoffKey := "handoff"
        commissioningProof := ⟨voucherScheme, "voucher-" ++ e, "proof"⟩
        manifest := manifest })
    { now := 0, enrollmentId := e, eventId := "created-" ++ e, challenge := "challenge" }

/-- The owner decides the enrollment `e`. -/
def decide (e : EnrollmentId) (decision : DecisionKind) (b : BusinessOwnerId := "alice") : Request :=
  .command (.decideEnrollment ("decide-" ++ e) e e ⟨"home", b, decision, 1, manifest.ref⟩ (owner b))
    { now := 1, decisionId := "decision-" ++ e, grantId := "grant-" ++ e, eventId := "decided-" ++ e }

/-- The device collects the grant of `e`. -/
def collect (e : EnrollmentId) : Request :=
  .command (.collectClaimGrant ("collect-" ++ e) e e 1 "challenge" "signed")
    { now := 2, eventId := "delivered-" ++ e }

/-- The device acknowledges the grant of `e`. -/
def ack (e : EnrollmentId) (generation : Nat) : Request :=
  .command (.ackClaimGrant ("ack-" ++ e) e e ("grant-" ++ e) "signed" generation 1)
    { now := 3, eventId := "acknowledged-" ++ e, laterEventId := "activated-" ++ e }

/-- The owner revokes a generation. -/
def revoke (commandId : CommandId) (key : Spki) (generation : Nat) (b : BusinessOwnerId := "alice") :
    Request :=
  .command (.revokeClaim commandId commandId (deviceRef key generation) "lost" (owner b))
    { now := 4, eventId := commandId }

/-- The device enrolls as `e`, is approved and collects its grant. -/
def handoff (e : EnrollmentId) (key : Spki) : List Request :=
  [create e key, decide e .approve, collect e]

/-- The database after these requests. -/
def after (requests : List Request) : Tables := run authority.next Tables.empty requests

theorem after_reachable (requests : List Request) : Reachable authority (after requests) :=
  ⟨requests, rfl⟩

end Sample

end EidolonHub.Admission
