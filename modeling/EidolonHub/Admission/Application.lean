import EidolonHub.Admission.Persistence

/-!
# EidolonHub.Admission.Application

**The Admission Authority**: the commands that take a device from an enrollment
to an active Claim and back. Each command is the body of one transaction under
the store's lock, together with the checks it makes before it takes the lock;
the replay lookup before the lock and the expiry sweep are transactions of their
own and are put in front of it where calls interleave.

What a command takes from its clock, its id generator and its random source is
an argument (`Draws`), so nothing is assumed about them; an id that was handed
out before violates a uniqueness constraint and rolls the command back.
-/

namespace EidolonHub.Admission

open EidolonHub.Library EidolonHub.Library.Python

/-- `AdmissionAuthority` and the dependencies it is built with. -/
structure AdmissionAuthority where
  crypto : Crypto
  sdk : Sdk
  ownerDomainId : OwnerDomainId
  ownerDomainGeneration : Nat
  commissioningProofs : CommissioningProofVerifier
  proposalTtl : Duration := minutes 15
  grantTtl : Duration := minutes 10
  decideFromStanding : Bool := true

/-- What one transaction draws: its clock reading, ids and randomness. -/
structure Draws where
  now : Timestamp
  enrollmentId : EnrollmentId := ""
  decisionId : DecisionId := ""
  grantId : GrantId := ""
  eventId : EventId := ""
  laterEventId : EventId := ""
  challenge : String := ""
  entropy : String := ""

/-- `context.require_scope(scope)`. -/
def ActorContext.requireScope (context : ActorContext) (scope : String) : Except HubError Unit :=
  if scope ∈ context.actor.grantedScopes then .ok () else .error (scopeProblem scope)

/-- `require_transition`. -/
def requireTransition (current target : ProposalState) : Session Unit :=
  Tx.raiseIf (target ∉ current.allowed) (transitionProblem current target)

/-- The locked replay check every command makes before it acts. -/
def once (key : CommandKey) (fp : Fingerprint) (body : Session CommandResult) :
    Session CommandResult := do
  match ← replayInSession key fp with
  | some replay => return replay
  | none => body

/-- The subject of an enrollment's events. -/
def enrollmentSubject (enrollmentId : EnrollmentId) : String := "enrollments/" ++ enrollmentId

/-- The subject of a device instance's events. -/
def deviceSubject (deviceInstanceId : DeviceInstanceId) : String :=
  "device-instances/" ++ deviceInstanceId

namespace AdmissionAuthority

variable (authority : AdmissionAuthority)

/-! ### Deciding -/

/-- The Decision row of a Decision on a Proposal. -/
def decisionFor (proposal : ProposalRow) (decision : DecisionKind) (actor : ControllerActorRef)
    (targetDomain : OwnerDomainId) (targetOwner : BusinessOwnerId) (reviewed : ManifestRef)
    (draws : Draws) : DecisionRow where
  decisionId := draws.decisionId
  enrollmentId := proposal.enrollmentId
  decision := decision
  actor := actor
  targetOwnerDomainId := targetDomain
  targetBusinessOwnerId := targetOwner
  reviewedManifest := reviewed
  expectedProposalRevision := proposal.revision
  decidedAt := draws.now

/-- The `ApprovalDecision` a Decision row stands for. -/
def approvalDecision (row : DecisionRow) : ApprovalDecision where
  decisionId := row.decisionId
  enrollmentId := row.enrollmentId
  decision := row.decision
  actor := row.actor
  targetOwnerDomainId := row.targetOwnerDomainId
  targetBusinessOwnerId := row.targetBusinessOwnerId
  reviewedManifestRef := row.reviewedManifest
  expectedProposalRevision := row.expectedProposalRevision
  decidedAt := row.decidedAt

/-- The generation an approval makes a grant for. -/
def grantDeviceRef (proposal : ProposalRow) (targetDomain : OwnerDomainId)
    (claimGeneration : Nat) : DeviceRef where
  deviceInstanceId := proposal.deviceInstanceId
  ownerDomainId := targetDomain
  ownerDomainGeneration := authority.ownerDomainGeneration
  claimGeneration := claimGeneration
  trustEpoch := 1

/-- The `ClaimGrant` document of an approval. -/
def claimGrant (proposal : ProposalRow) (targetDomain : OwnerDomainId) (reviewed : ManifestRef)
    (claimGeneration : Nat) (draws : Draws) : ClaimGrant where
  grantId := draws.grantId
  enrollmentId := proposal.enrollmentId
  deviceRef := authority.grantDeviceRef proposal targetDomain claimGeneration
  manifestRef := reviewed
  approvalDecisionId := draws.decisionId
  handoffKeyId := proposal.handoffKeyId
  operationalKeyId := proposal.operationalKeyId
  issuedAt := draws.now
  expiresAt := draws.now + authority.grantTtl

/-- The grant row of an approval. -/
def grantFor (proposal : ProposalRow) (targetDomain : OwnerDomainId) (reviewed : ManifestRef)
    (claimGeneration : Nat) (draws : Draws) : GrantRow where
  grantId := draws.grantId
  enrollmentId := proposal.enrollmentId
  decisionId := draws.decisionId
  ownerDomainId := targetDomain
  hardwareIdentityRef := proposal.hardwareIdentityRef
  claimGeneration := claimGeneration
  deviceRef := authority.grantDeviceRef proposal targetDomain claimGeneration
  manifestRef := reviewed
  handoffKeyId := proposal.handoffKeyId
  operationalKeyId := proposal.operationalKeyId
  grant := authority.claimGrant proposal targetDomain reviewed claimGeneration draws
  wireEnvelope := none
  issuedAt := draws.now
  expiresAt := draws.now + authority.grantTtl
  deliveredAt := none
  revokedAt := none

/-- `_decide_in_session`: one immutable Decision on a Proposal and what follows. -/
def decideInSession (proposal : ProposalRow) (decision : DecisionKind)
    (actor : ControllerActorRef) (targetDomain : OwnerDomainId) (targetOwner : BusinessOwnerId)
    (reviewed : ManifestRef) (commandId : CommandId) (correlationId : CorrelationId)
    (eventId : EventId) (draws : Draws) : Session (ApprovalDecision × Option GrantId) := do
  let now := draws.now
  let enrollmentId := proposal.enrollmentId
  let decided := decisionFor proposal decision actor targetDomain targetOwner reviewed draws
  addDecision decided
  match decision with
  | .reject =>
    moveProposal enrollmentId .rejected now
    addOutbox eventId .enrollmentRejected enrollmentId (proposal.revision + 1)
      (event eventId .enrollmentRejected (enrollmentSubject enrollmentId) targetDomain
        (proposal.revision + 1) commandId correlationId now
        (.decided draws.decisionId decision)) now
    return (approvalDecision decided, none)
  | .approve =>
    moveProposal enrollmentId .approvedAwaitingHandoff now
    let currentGeneration ← maxClaimGeneration targetDomain proposal.hardwareIdentityRef
    addGrant (authority.grantFor proposal targetDomain reviewed (currentGeneration + 1) draws)
    addOutbox eventId .enrollmentApproved enrollmentId (proposal.revision + 1)
      (event eventId .enrollmentApproved (enrollmentSubject enrollmentId) targetDomain
        (proposal.revision + 1) commandId correlationId now
        (.decided draws.decisionId decision)) now
    return (approvalDecision decided, some draws.grantId)

/-- The fingerprint of `decide_enrollment`. -/
def decideFingerprint (enrollmentId : EnrollmentId) (payload : DecideEnrollment)
    (context : ActorContext) : Except HubError Fingerprint :=
  fingerprint authority.crypto CommandType.decideEnrollment.value payload.targetOwnerDomainId
    (.obj (authority.sdk.dumpDecideEnrollment payload ++
      [("enrollment_id", .str enrollmentId), ("actor", authority.sdk.dumpActor context.actor)]))

/-- The checks `decide_enrollment` makes before its replay lookup, and its fingerprint. -/
def decideAuthorized (enrollmentId : EnrollmentId) (payload : DecideEnrollment)
    (context : ActorContext) : Except HubError Fingerprint := do
  context.requireScope approveScope
  if payload.targetOwnerDomainId ≠ context.ownerDomainId then
    throw (forbidden .ownerDomainMismatch
      "Decision target Owner Domain does not match authorization")
  if payload.targetBusinessOwnerId ≠ context.businessOwnerId then
    throw (forbidden .businessOwnerMismatch
      "Decision business Owner does not match authorization")
  authority.decideFingerprint enrollmentId payload context

/-- The key under which a decision is stored: the targeted Owner Domain and the command. -/
def decideKey (commandId : CommandId) (payload : DecideEnrollment) : CommandKey :=
  ⟨payload.targetOwnerDomainId, .decideEnrollment, commandId⟩

/-- The transaction of `decide_enrollment`. -/
def decideEnrollment (commandId : CommandId) (correlationId : CorrelationId)
    (enrollmentId : EnrollmentId) (payload : DecideEnrollment) (context : ActorContext)
    (fp : Fingerprint) (draws : Draws) : Session CommandResult :=
  once (decideKey commandId payload) fp do
    let now := draws.now
    let proposal ← Tx.demand (← getProposal enrollmentId) (missing "enrollment not found")
    Tx.raiseIf (proposal.requestedOwnerDomainId ≠ context.ownerDomainId)
      (missing "enrollment not found")
    Tx.raiseIf (proposal.state = .expired ∨ proposal.expiresAt ≤ now)
      (expired .proposalExpired "proposal expired")
    requireTransition proposal.state
      (if payload.decision = .approve then .approvedAwaitingHandoff else .rejected)
    Tx.raiseIf (proposal.revision ≠ payload.expectedProposalRevision)
      (conflict .revisionConflict "proposal revision is stale")
    let reviewed := payload.reviewedManifestRef
    Tx.raiseIf (reviewed ≠ ⟨proposal.manifestId, proposal.manifestRevision, proposal.manifestDigest⟩)
      (conflict .revisionConflict "reviewed ManifestRef does not match Proposal")
    let (decision, grantId) ← authority.decideInSession proposal payload.decision context.actor
      payload.targetOwnerDomainId payload.targetBusinessOwnerId reviewed commandId correlationId
      draws.eventId draws
    let result : CommandResult :=
      { commandId
        outcome := .committed
        body := .decided decision grantId decision.expectedProposalRevision
        occurredAt := now }
    saveResult (decideKey commandId payload) fp result now
    return result

/-! ### Enrolling -/

/-- The fingerprint of `create_enrollment`. -/
def createFingerprint (payload : CreateEnrollment) : Except HubError Fingerprint :=
  fingerprint authority.crypto CommandType.createEnrollment.value payload.requestedOwnerDomainId
    (authority.sdk.dumpCreateEnrollment payload)

/-- The checks `create_enrollment` makes before its replay lookup, and its fingerprint. -/
def createAuthorized (payload : CreateEnrollment) : Except HubError Fingerprint := do
  if payload.requestedOwnerDomainId ≠ authority.ownerDomainId then
    throw (forbidden .ownerDomainMismatch "requested Owner Domain is not served here")
  authority.createFingerprint payload

/-- The key under which an enrollment is stored: the requested Owner Domain and the command. -/
def createKey (commandId : CommandId) (payload : CreateEnrollment) : CommandKey :=
  ⟨payload.requestedOwnerDomainId, .createEnrollment, commandId⟩

/-- What `create_enrollment` knows of a payload once it has verified it. -/
structure VerifiedEnrollment where
  handoffKeyId : KeyId
  operationalKeyId : KeyId
  verified : VerifiedCommissioning
  identityRef : HardwareIdentityRef
  canonicalManifest : String

/-- A `ValueError` that `create_enrollment` answers as an invalid argument. -/
def orInvalid {α : Type} : Except String α → Except HubError α
  | .ok a => .ok a
  | .error message => .error (invalid message)

/-- `int(now.timestamp())`. -/
def unixTime (now : Timestamp) : Int := now.tdiv 1000000

/-- What the verifier is asked about a payload. -/
def commissioningRequest (payload : CreateEnrollment) (now : Timestamp) : CommissioningRequest where
  deviceInstanceId := payload.deviceInstanceCandidateId
  ownerDomainId := payload.requestedOwnerDomainId
  nonce := payload.commissioningProof.nonce
  proof := payload.commissioningProof.proof
  hardwareIdentityEvidence := payload.hardwareIdentityEvidence
  operationalPublicKey := payload.operationalKey
  nowUnix := unixTime now

/-- The proof of a payload, verified and of the scheme it declares. -/
def verifyCommissioning (payload : CreateEnrollment) (now : Timestamp) :
    Except HubError VerifiedCommissioning := do
  match ← authority.commissioningProofs (commissioningRequest payload now) with
  | none => throw (unauthenticated "commissioning proof is invalid")
  | some verified =>
    if verified.scheme ≠ voucherScheme ∧ verified.scheme ≠ enrolledBaseKeyScheme then
      throw (unauthenticated "commissioning proof is invalid")
    if payload.commissioningProof.scheme ≠ verified.scheme then
      throw (unauthenticated "commissioning proof does not match the scheme it declares")
    return verified

/-- The verification `create_enrollment` makes before it takes the lock. -/
def verifyEnrollment (payload : CreateEnrollment) (now : Timestamp) :
    Except HubError VerifiedEnrollment := do
  let crypto := authority.crypto
  if crypto.digest payload.hardwareIdentityEvidence.evidence ≠
      payload.hardwareIdentityEvidence.evidenceDigest then
    throw (invalid "hardware evidence digest mismatch")
  let handoffKeyId ← orInvalid (crypto.keyId payload.handoffKey)
  let operationalKeyId ← orInvalid (crypto.keyId payload.operationalKey)
  let expectedInstanceId ← orInvalid (crypto.deriveDeviceInstanceId payload.operationalKey)
  if payload.deviceInstanceCandidateId ≠ expectedInstanceId then
    throw (invalid "device instance candidate is not bound to the operational key")
  let verified ← authority.verifyCommissioning payload now
  let identityRef ← orInvalid (verified.identity.hardwareIdentityRef crypto)
  match crypto.rfc8785Dumps payload.manifest.document with
  | .error message => throw (.value message)
  | .ok canonicalManifest =>
    if payload.manifest.digest ≠ crypto.digest canonicalManifest then
      throw (invalid "ManifestRef digest does not match the canonical Manifest document")
    return { handoffKeyId, operationalKeyId, verified, identityRef, canonicalManifest }

/-- `datetime.fromtimestamp(seconds, UTC)`: the years 1 to 9999. -/
def fromTimestamp (seconds : Int) : Except HubError Timestamp :=
  if -62135596800 ≤ seconds ∧ seconds ≤ 253402300799 then .ok (seconds * 1000000)
  else .error (.value "year is out of range")

/-- The binding a voucher for this base identity and key records. -/
def bindingFor (payload : CreateEnrollment) (enrolled : VerifiedEnrollment) (now : Timestamp) :
    BaseIdentityRow where
  deviceBaseId := enrolled.verified.identity.deviceBaseId
  ownerDomainId := payload.requestedOwnerDomainId
  hardwareIdentityRef := enrolled.identityRef
  operationalKeyId := enrolled.operationalKeyId
  provenance :=
    if startsWith "device-base-" enrolled.verified.identity.deviceBaseId then .minted
    else .derivedFromController
  boundAt := now

/-- `str(verified.jti)`. -/
def jtiText (verified : VerifiedCommissioning) : Jti := verified.jti.getD "None"

/-- The durable half of standing: spend the voucher and bind the identity it
names, or find the binding a continuation continues. -/
def establishStanding (payload : CreateEnrollment) (enrolled : VerifiedEnrollment)
    (now : Timestamp) : Session Unit := do
  let verified := enrolled.verified
  if verified.scheme = voucherScheme then
    let expiresAt ← Tx.lift (fromTimestamp (verified.expiresAt.getD 0))
    consumeCommissioningVoucher
      { jti := jtiText verified
        deviceBaseId := verified.identity.deviceBaseId
        operationalKeyId := enrolled.operationalKeyId
        expiresAt
        consumedAt := now }
    bindBaseIdentity (bindingFor payload enrolled now)
  else
    let mismatch := unauthenticated "base identity continuation has no matching issued binding"
    let bound ← Tx.demand (← baseIdentity verified.identity.deviceBaseId) mismatch
    Tx.raiseIf (bound.ownerDomainId ≠ payload.requestedOwnerDomainId
        ∨ bound.operationalKeyId ≠ enrolled.operationalKeyId
        ∨ bound.hardwareIdentityRef ≠ enrolled.identityRef) mismatch
    let toldNo ← requiresFreshPresence payload.requestedOwnerDomainId enrolled.identityRef
    Tx.raiseIf (toldNo = true)
      (forbidden .forbidden "this Body was rejected or removed and needs a new commissioning")

/-- The Proposal an enrollment creates. -/
def proposalFor (payload : CreateEnrollment) (enrolled : VerifiedEnrollment) (draws : Draws) :
    ProposalRow where
  enrollmentId := draws.enrollmentId
  deviceInstanceId := payload.deviceInstanceCandidateId
  hardwareIdentityRef := enrolled.identityRef
  requestedOwnerDomainId := payload.requestedOwnerDomainId
  state := .pendingReview
  revision := 1
  hardwareEvidenceDigest := payload.hardwareIdentityEvidence.evidenceDigest
  commissioningProofDigest := authority.crypto.digest payload.commissioningProof.proof
  manifestId := payload.manifest.manifestId
  manifestRevision := payload.manifest.revision
  manifestDigest := payload.manifest.digest
  manifestJson := enrolled.canonicalManifest
  handoffPublicKeySpki := payload.handoffKey
  handoffKeyId := enrolled.handoffKeyId
  operationalPublicKeySpki := payload.operationalKey
  operationalKeyId := enrolled.operationalKeyId
  collectionChallengeHash := authority.crypto.sha256 draws.challenge
  createdAt := draws.now
  expiresAt := draws.now + authority.proposalTtl
  updatedAt := draws.now

/-- The standing a proof names: by its voucher, or the latest one of its key. -/
def recordedStanding (verified : VerifiedCommissioning) (ownerDomainId : OwnerDomainId)
    (operationalKeyId : KeyId) : Session (Option CommissioningStandingRow) :=
  if verified.scheme = voucherScheme then commissioningStanding (jtiText verified)
  else latestCommissioningStandingForKey ownerDomainId operationalKeyId

/-- `_standing_for`: who admits a Proposal at its creation, if a Controller that
may decide recorded standing for its key. -/
def standingFor (verified : VerifiedCommissioning) (ownerDomainId : OwnerDomainId)
    (operationalKeyId : KeyId) : Session (Option (ControllerActorRef × BusinessOwnerId)) := do
  if authority.decideFromStanding = false then return none
  else
    match ← recordedStanding verified ownerDomainId operationalKeyId with
    | none => return none
    | some row =>
      if row.ownerDomainId ≠ ownerDomainId ∨ row.operationalKeyId ≠ operationalKeyId
          ∨ row.actor.ownerDomainId ≠ ownerDomainId ∨ approveScope ∉ row.actor.grantedScopes then
        return none
      else
        match ← controllerWithdrawnAt ownerDomainId row.actor.principalId with
        | some withdrawnAt =>
          if row.recordedAt ≤ withdrawnAt then return none
          else return some (row.actor, row.businessOwnerId)
        | none => return some (row.actor, row.businessOwnerId)

/-- The answer to an enrollment: the Proposal as created. -/
def createdResult (commandId : CommandId) (payload : CreateEnrollment) (draws : Draws) :
    CommandResult where
  commandId := commandId
  outcome := .committed
  body := .created draws.enrollmentId 1 .pendingReview draws.challenge
    (draws.now + authority.proposalTtl) payload.manifest.ref
  occurredAt := draws.now

/-- The transaction of `create_enrollment`, after its verification. -/
def createInSession (commandId : CommandId) (correlationId : CorrelationId)
    (payload : CreateEnrollment) (enrolled : VerifiedEnrollment) (fp : Fingerprint)
    (draws : Draws) : Session CommandResult := do
  let now := draws.now
  let requested := payload.requestedOwnerDomainId
  let proposal := authority.proposalFor payload enrolled draws
  let result := authority.createdResult commandId payload draws
  establishStanding payload enrolled now
  addProposal proposal
  saveResult (createKey commandId payload) fp result now
  addOutbox draws.eventId .enrollmentProposalCreated draws.enrollmentId 1
    (event draws.eventId .enrollmentProposalCreated (enrollmentSubject draws.enrollmentId) requested
      1 commandId correlationId now (.created draws.enrollmentId payload.manifest.ref)) now
  match ← authority.standingFor enrolled.verified requested enrolled.operationalKeyId with
  | none => return result
  | some (actor, businessOwnerId) =>
    let _ ← authority.decideInSession proposal .approve actor requested businessOwnerId
      payload.manifest.ref (commandId ++ ":standing") correlationId draws.laterEventId draws
    return result

/-- `create_enrollment` after its replay lookup. -/
def createEnrollment (commandId : CommandId) (correlationId : CorrelationId)
    (payload : CreateEnrollment) (fp : Fingerprint) (draws : Draws) : Session CommandResult := do
  let enrolled ← Tx.lift (authority.verifyEnrollment payload draws.now)
  once (createKey commandId payload) fp
    (authority.createInSession commandId correlationId payload enrolled fp draws)

/-! ### Expiry and cancellation -/

/-- Revoke the grant a deadline ends, unless it was revoked before. -/
def revokeUnlessRevoked (found : Option GrantRow) (now : Timestamp) : Session Unit :=
  match found with
  | some grant => if grant.revokedAt = none then revokeGrant grant.grantId now else pure ()
  | none => pure ()

/-- One round of `expire_due`. -/
def expireProposal (eventIds : EnrollmentId → EventId) (now : Timestamp) (proposal : ProposalRow) :
    Session Unit := do
  let enrollmentId := proposal.enrollmentId
  requireTransition proposal.state .expired
  moveProposal enrollmentId .expired now
  revokeUnlessRevoked (← getGrantForEnrollment enrollmentId) now
  let eventId := eventIds enrollmentId
  addOutbox eventId .enrollmentExpired enrollmentId (proposal.revision + 1)
    (event eventId .enrollmentExpired (enrollmentSubject enrollmentId)
      proposal.requestedOwnerDomainId (proposal.revision + 1) ("deadline:" ++ enrollmentId)
      enrollmentId now (.expired enrollmentId)) now

/-- `expire_due`. -/
def expireDue (eventIds : EnrollmentId → EventId) (now : Timestamp) : Session Nat := do
  let proposals ← listExpirable now
  Tx.forEach (expireProposal eventIds now) proposals
  return proposals.length

/-- The fingerprint of `cancel_enrollment`. -/
def cancelFingerprint (enrollmentId : EnrollmentId) (reason : String) (context : ActorContext) :
    Except HubError Fingerprint :=
  fingerprint authority.crypto CommandType.cancelEnrollment.value context.ownerDomainId
    (.obj [("enrollment_id", .str enrollmentId), ("reason", .str reason),
      ("actor", authority.sdk.dumpActor context.actor)])

/-- The checks `cancel_enrollment` makes before its replay lookup, and its fingerprint. -/
def cancelAuthorized (enrollmentId : EnrollmentId) (reason : String) (context : ActorContext) :
    Except HubError Fingerprint := do
  context.requireScope approveScope
  authority.cancelFingerprint enrollmentId reason context

/-- The key under which a cancellation is stored: the domain of the actor and the command. -/
def cancelKey (commandId : CommandId) (context : ActorContext) : CommandKey :=
  ⟨context.ownerDomainId, .cancelEnrollment, commandId⟩

/-- The transaction of `cancel_enrollment`. -/
def cancelEnrollment (commandId : CommandId) (correlationId : CorrelationId)
    (enrollmentId : EnrollmentId) (reason : String) (context : ActorContext) (fp : Fingerprint)
    (draws : Draws) : Session CommandResult :=
  once (cancelKey commandId context) fp do
    let now := draws.now
    let proposal ← Tx.demand (← getProposal enrollmentId) (missing "enrollment not found")
    Tx.raiseIf (proposal.requestedOwnerDomainId ≠ context.ownerDomainId)
      (missing "enrollment not found")
    requireTransition proposal.state .canceled
    moveProposal enrollmentId .canceled now
    let result : CommandResult :=
      { commandId
        outcome := .committed
        body := .canceled enrollmentId .canceled (proposal.revision + 1)
        occurredAt := now }
    saveResult (cancelKey commandId context) fp result now
    addOutbox draws.eventId .enrollmentCanceled enrollmentId (proposal.revision + 1)
      (event draws.eventId .enrollmentCanceled (enrollmentSubject enrollmentId) context.ownerDomainId
        (proposal.revision + 1) commandId correlationId now (.canceled enrollmentId reason)) now
    return result

/-! ### Collecting a grant -/

/-- `collect_claim_grant` checks nothing before its replay lookup. -/
def collectAuthorized (enrollmentId : EnrollmentId) (proposalRevision : Nat)
    (collectionChallenge handoffKeyProof : String) : Except HubError Fingerprint :=
  fingerprint authority.crypto CommandType.collectClaimGrant.value authority.ownerDomainId
    (.obj [("enrollment_id", .str enrollmentId), ("proposal_revision", .int proposalRevision),
      ("collection_challenge_hash", .str (authority.crypto.sha256 collectionChallenge)),
      ("handoff_key_proof", .str handoffKeyProof)])

/-- The key under which a collection is stored. A device has no domain of its own yet, so it is the
Authority's. -/
def collectKey (commandId : CommandId) : CommandKey :=
  ⟨authority.ownerDomainId, .collectClaimGrant, commandId⟩

/-- The associated data a grant is sealed with. -/
def grantAAD (proposal : ProposalRow) (grant : GrantRow) (proposalRevision : Nat) :
    ClaimGrantAAD where
  enrollmentId := proposal.enrollmentId
  proposalRevision := proposalRevision
  deviceInstanceId := proposal.deviceInstanceId
  hardwareEvidenceDigest := proposal.hardwareEvidenceDigest
  manifestRef := ⟨proposal.manifestId, proposal.manifestRevision, proposal.manifestDigest⟩
  ownerDomainId := proposal.requestedOwnerDomainId
  ownerDomainGeneration := authority.ownerDomainGeneration
  claimGeneration := grant.claimGeneration
  trustEpoch := 1
  grantId := grant.grantId

/-- The answer to a collection, at the moment the grant was delivered. -/
def collectedResult (commandId : CommandId) (grant : GrantRow) (envelope : ClaimGrantWireEnvelope)
    (proposalRevision : Nat) (deliveredAt : Timestamp) : CommandResult where
  commandId := commandId
  outcome := .committed
  body := .collected grant.grantId envelope grant.expiresAt grant.decisionId proposalRevision
  occurredAt := deliveredAt

/-- The checks of `collect_claim_grant` on the Proposal; the grant it may hand out. -/
def collectable (enrollmentId : EnrollmentId) (proposalRevision : Nat)
    (collectionChallenge handoffKeyProof : String) (now : Timestamp) :
    Session (ProposalRow × GrantRow) := do
  let proposal ← Tx.demand (← getProposal enrollmentId) (missing "enrollment not found")
  Tx.raiseIf (proposal.requestedOwnerDomainId ≠ authority.ownerDomainId)
    (missing "enrollment not found")
  Tx.raiseIf (proposal.state = .claimRevoked)
    (conflict .claimRevoked "Claim generation was revoked")
  Tx.raiseIf (proposal.state = .grantAcknowledged)
    (conflict .proposalTerminal "Claim is active and the handoff capability is terminal")
  Tx.raiseIf (proposal.state = .expired ∨ proposal.expiresAt ≤ now)
    (expired .proposalExpired "proposal expired")
  let found ← getGrantForEnrollment enrollmentId
  Tx.raiseIf (found.any (·.revokedAt.isSome) = true)
    (conflict .claimRevoked "Claim generation was revoked")
  Tx.raiseIf (found.any (·.wireEnvelope.isNone) = true ∧ proposal.state = .grantDelivered)
    (conflict .contractUnsupported
      "pre-PH2-B0 opaque grant cannot be replayed as a canonical wire envelope")
  let undecided := conflict .decisionRequired "approved Decision is required"
  let decision ← Tx.demand (← getDecisionForEnrollment enrollmentId) undecided
  Tx.raiseIf (proposal.state ≠ .approvedAwaitingHandoff ∧ proposal.state ≠ .grantDelivered) undecided
  Tx.raiseIf (decision.expectedProposalRevision ≠ proposalRevision)
    (conflict .revisionConflict "proposal revision is stale")
  Tx.raiseIf (proposal.collectionChallengeHash ≠ authority.crypto.sha256 collectionChallenge)
    (forbidden .handoffProofInvalid "collection challenge is invalid")
  Tx.raiseIf (authority.crypto.verifyP256Proof proposal.handoffPublicKeySpki
      (authority.sdk.claimGrantCollectionProofDocument enrollmentId proposalRevision
        collectionChallenge) handoffKeyProof = false)
    (forbidden .handoffProofInvalid "handoff key proof is invalid")
  let grant ← Tx.demand found (conflict .decisionRequired "approved ClaimGrant is missing")
  Tx.raiseIf (grant.expiresAt ≤ now) (expired .grantExpired "ClaimGrant expired")
  return (proposal, grant)

/-- The transaction of `collect_claim_grant`. -/
def collectClaimGrant (commandId : CommandId) (correlationId : CorrelationId)
    (enrollmentId : EnrollmentId) (proposalRevision : Nat)
    (collectionChallenge handoffKeyProof : String) (fp : Fingerprint) (draws : Draws) :
    Session CommandResult :=
  once (authority.collectKey commandId) fp do
    let now := draws.now
    let (proposal, grant) ← authority.collectable enrollmentId proposalRevision collectionChallenge
      handoffKeyProof now
    match grant.wireEnvelope with
    | some envelope =>
      -- delivered before: the same envelope again, and nothing else changes
      let deliveredAt ← Tx.demand grant.deliveredAt (.value "grant was never delivered")
      let result := collectedResult commandId grant envelope proposalRevision deliveredAt
      saveResult (authority.collectKey commandId) fp result deliveredAt
      return result
    | none =>
      let envelope ← Tx.lift (match sealClaimGrant authority.crypto authority.sdk
          proposal.handoffPublicKeySpki grant.grant
          (authority.grantAAD proposal grant proposalRevision) proposal.handoffKeyId draws.entropy with
        | .ok envelope => .ok envelope
        | .error message => .error (.value message))
      deliverGrant grant.grantId envelope now
      moveProposal enrollmentId .grantDelivered now
      let result := collectedResult commandId grant envelope proposalRevision now
      saveResult (authority.collectKey commandId) fp result now
      addOutbox draws.eventId .claimGrantDelivered enrollmentId (proposal.revision + 1)
        (event draws.eventId .claimGrantDelivered (enrollmentSubject enrollmentId)
          authority.ownerDomainId (proposal.revision + 1) commandId correlationId now
          (.delivered grant.grantId grant.decisionId)) now
      return result

/-! ### Acknowledging a grant -/

/-- `ack_claim_grant` checks nothing before its replay lookup. -/
def ackAuthorized (enrollmentId : EnrollmentId) (grantId : GrantId) (operationalKeyProof : String)
    (storedClaimGeneration storedTrustEpoch : Nat) : Except HubError Fingerprint :=
  fingerprint authority.crypto CommandType.ackClaimGrant.value authority.ownerDomainId
    (.obj [("enrollment_id", .str enrollmentId), ("grant_id", .str grantId),
      ("operational_key_proof", .str operationalKeyProof),
      ("stored_claim_generation", .int storedClaimGeneration),
      ("stored_trust_epoch", .int storedTrustEpoch)])

/-- The key under which an acknowledgement is stored, in the domain of the Authority. -/
def ackKey (commandId : CommandId) : CommandKey :=
  ⟨authority.ownerDomainId, .ackClaimGrant, commandId⟩

/-- The Claim a grant activates. -/
def activeClaim (proposal : ProposalRow) (grant : GrantRow) (businessOwnerId : BusinessOwnerId)
    (now : Timestamp) : ClaimRow where
  deviceInstanceId := grant.deviceRef.deviceInstanceId
  ownerDomainId := grant.deviceRef.ownerDomainId
  businessOwnerId := businessOwnerId
  hardwareIdentityRef := grant.hardwareIdentityRef
  ownerDomainGeneration := grant.deviceRef.ownerDomainGeneration
  claimGeneration := grant.deviceRef.claimGeneration
  trustEpoch := grant.deviceRef.trustEpoch
  manifestRef := grant.manifestRef
  approvalDecisionId := grant.decisionId
  operationalPublicKeySpki := proposal.operationalPublicKeySpki
  state := .active
  revision := 1
  activatedAt := some now
  updatedAt := now
  revokedAt := none

/-- The acknowledgement row of a grant. -/
def ackFor (grant : GrantRow) (enrollmentId : EnrollmentId) (operationalKeyProof : String)
    (now : Timestamp) : GrantAckRow where
  grantId := grant.grantId
  enrollmentId := enrollmentId
  proofFingerprint := authority.crypto.digest operationalKeyProof
  deviceRef := grant.deviceRef
  acknowledgedAt := now

/-- The checks of `ack_claim_grant`; the Proposal and the grant it is about. -/
def acknowledgeable (enrollmentId : EnrollmentId) (grantId : GrantId) (operationalKeyProof : String)
    (storedClaimGeneration storedTrustEpoch : Nat) (now : Timestamp) :
    Session (ProposalRow × GrantRow) := do
  let found ← getProposal enrollmentId
  let foundGrant ← getGrant grantId
  let proposal ← Tx.demand found (missing "ClaimGrant not found")
  let grant ← Tx.demand foundGrant (missing "ClaimGrant not found")
  Tx.raiseIf (grant.enrollmentId ≠ enrollmentId) (missing "ClaimGrant not found")
  Tx.raiseIf (grant.revokedAt.isSome = true ∨ proposal.state = .claimRevoked)
    (conflict .claimRevoked "Claim generation was revoked")
  Tx.raiseIf (grant.expiresAt ≤ now) (expired .grantExpired "ClaimGrant expired")
  requireTransition proposal.state .grantAcknowledged
  Tx.raiseIf ((storedClaimGeneration, storedTrustEpoch) ≠
      (grant.deviceRef.claimGeneration, grant.deviceRef.trustEpoch))
    (conflict .generationConflict "stored Claim generation or trust epoch is stale")
  Tx.raiseIf (authority.crypto.verifyP256Proof proposal.operationalPublicKeySpki
      (authority.sdk.claimGrantAckProofDocument enrollmentId grantId grant.deviceRef)
      operationalKeyProof = false)
    (unauthenticated "operational key proof is invalid")
  return (proposal, grant)

/-- The transaction of `ack_claim_grant`. -/
def ackClaimGrant (commandId : CommandId) (correlationId : CorrelationId)
    (enrollmentId : EnrollmentId) (grantId : GrantId) (operationalKeyProof : String)
    (storedClaimGeneration storedTrustEpoch : Nat) (fp : Fingerprint) (draws : Draws) :
    Session CommandResult :=
  once (authority.ackKey commandId) fp do
    let now := draws.now
    let (proposal, grant) ← authority.acknowledgeable enrollmentId grantId operationalKeyProof
      storedClaimGeneration storedTrustEpoch now
    let deviceRef := grant.deviceRef
    addGrantAck (authority.ackFor grant enrollmentId operationalKeyProof now)
    let decision ← Tx.demand (← getDecision grant.decisionId) (.value "grant has no Decision")
    let claimRevision ← upsertClaim
      (activeClaim proposal grant decision.targetBusinessOwnerId now)
    projectActiveClaim authority.crypto deviceRef decision.targetBusinessOwnerId
      ⟨proposal.manifestId, proposal.manifestRevision, proposal.manifestDigest⟩
      proposal.manifestJson now
    moveProposal enrollmentId .grantAcknowledged now
    let result : CommandResult :=
      { commandId
        outcome := .committed
        body := .acknowledged deviceRef .active
        occurredAt := now }
    saveResult (authority.ackKey commandId) fp result now
    addOutbox draws.eventId .claimGrantAcknowledged enrollmentId (proposal.revision + 1)
      (event draws.eventId .claimGrantAcknowledged (enrollmentSubject enrollmentId)
        deviceRef.ownerDomainId (proposal.revision + 1) commandId correlationId now
        (.acknowledged grantId)) now
    let activated ← Tx.lift (authority.sdk.validateClaimEvent
      (event draws.laterEventId .claimActivated (deviceSubject deviceRef.deviceInstanceId)
        deviceRef.ownerDomainId claimRevision commandId correlationId now
        (.activated deviceRef decision.targetBusinessOwnerId grant.manifestRef grant.decisionId now)))
    addOutbox draws.laterEventId .claimActivated deviceRef.deviceInstanceId claimRevision activated now
    return result

/-! ### Revoking a Claim -/

/-- The fingerprint of `revoke_claim`. -/
def revokeFingerprint (deviceRef : DeviceRef) (reason : String) (context : ActorContext) :
    Except HubError Fingerprint :=
  fingerprint authority.crypto CommandType.revokeClaim.value context.ownerDomainId
    (.obj [("device_ref", authority.sdk.dumpDeviceRef deviceRef), ("reason", .str reason)])

/-- The checks `revoke_claim` makes before its replay lookup, and its fingerprint. -/
def revokeAuthorized (deviceRef : DeviceRef) (reason : String) (context : ActorContext) :
    Except HubError Fingerprint := do
  context.requireScope revokeScope
  if deviceRef.ownerDomainId ≠ context.ownerDomainId then
    throw (forbidden .ownerDomainMismatch "target DeviceRef is outside authorization")
  authority.revokeFingerprint deviceRef reason context

/-- The key under which a revocation is stored: the domain of the actor and the command. -/
def revokeKey (commandId : CommandId) (context : ActorContext) : CommandKey :=
  ⟨context.ownerDomainId, .revokeClaim, commandId⟩

/-- The answer to a revocation. -/
def revokedResult (commandId : CommandId) (deviceRef : DeviceRef) (aggregateRevision : Nat)
    (eventId : Option EventId) (occurredAt : Timestamp) : CommandResult where
  commandId := commandId
  outcome := .committed
  body := .revoked "device.claim-revocation-result" deviceRef aggregateRevision eventId .revoked
    .revoked
  occurredAt := occurredAt

/-- The revoked Claim of a grant that is withdrawn before it was acknowledged. -/
def withdrawnClaim (deviceRef : DeviceRef) (proposal : ProposalRow) (grant : GrantRow)
    (businessOwnerId : BusinessOwnerId) (now : Timestamp) : ClaimRow where
  deviceInstanceId := deviceRef.deviceInstanceId
  ownerDomainId := deviceRef.ownerDomainId
  businessOwnerId := businessOwnerId
  hardwareIdentityRef := grant.hardwareIdentityRef
  ownerDomainGeneration := deviceRef.ownerDomainGeneration
  claimGeneration := deviceRef.claimGeneration
  trustEpoch := deviceRef.trustEpoch
  manifestRef := grant.manifestRef
  approvalDecisionId := grant.decisionId
  operationalPublicKeySpki := proposal.operationalPublicKeySpki
  state := .revoked
  revision := 1
  activatedAt := none
  updatedAt := now
  revokedAt := some now

/-- What every revocation that changes something ends with. -/
def finishRevocation (commandId : CommandId) (correlationId : CorrelationId)
    (deviceRef : DeviceRef) (reason : String) (context : ActorContext) (fp : Fingerprint)
    (draws : Draws) (revision : Nat) : Session CommandResult := do
  let now := draws.now
  projectRevokedClaim deviceRef now
  let result := revokedResult commandId deviceRef revision (some draws.eventId) now
  saveResult (revokeKey commandId context) fp result now
  let revoked ← Tx.lift (authority.sdk.validateClaimEvent
    (event draws.eventId .claimRevoked (deviceSubject deviceRef.deviceInstanceId)
      deviceRef.ownerDomainId revision commandId correlationId now (.revoked deviceRef reason now)))
  addOutbox draws.eventId .claimRevoked deviceRef.deviceInstanceId revision revoked now
  return result

/-- `revoke_claim` where the device has no Claim: the grant is withdrawn. -/
def withdrawGrant (deviceRef : DeviceRef) (grant : GrantRow) (now : Timestamp) : Session Nat := do
  let proposal ← Tx.demand (← getProposal grant.enrollmentId) (.value "grant has no Proposal")
  requireTransition proposal.state .claimRevoked
  moveProposal grant.enrollmentId .claimRevoked now
  revokeGrant grant.grantId now
  let decision ← Tx.demand (← getDecision grant.decisionId) (.value "grant has no Decision")
  let _ ← upsertClaim (withdrawnClaim deviceRef proposal grant decision.targetBusinessOwnerId now)
  return 1

/-- Revoke the grant behind a Claim, if there is one. -/
def revokeActiveGrant (found : Option GrantRow) (now : Timestamp) : Session Unit :=
  match found with
  | some grant => revokeGrant grant.grantId now
  | none => pure ()

/-- `revoke_claim` where the Claim is not revoked yet. -/
def revokeStanding (claim : ClaimRow) (now : Timestamp) : Session Nat := do
  revokeClaimRow claim.deviceInstanceId now
  revokeActiveGrant (← getGrantForDecision claim.approvalDecisionId) now
  return claim.revision + 1

/-- The Claim records the Owner Domain and generation a DeviceRef names. -/
def sameGeneration (claim : ClaimRow) (deviceRef : DeviceRef) : Prop :=
  claim.ownerDomainId = deviceRef.ownerDomainId ∧
    claim.ownerDomainGeneration = deviceRef.ownerDomainGeneration ∧
    claim.claimGeneration = deviceRef.claimGeneration ∧ claim.trustEpoch = deviceRef.trustEpoch

instance (claim : ClaimRow) (deviceRef : DeviceRef) : Decidable (sameGeneration claim deviceRef) :=
  inferInstanceAs (Decidable (_ ∧ _))

/-- The transaction of `revoke_claim`. -/
def revokeClaim (commandId : CommandId) (correlationId : CorrelationId) (deviceRef : DeviceRef)
    (reason : String) (context : ActorContext) (fp : Fingerprint) (draws : Draws) :
    Session CommandResult :=
  once (revokeKey commandId context) fp do
    let now := draws.now
    match ← getClaim deviceRef.deviceInstanceId with
    | none =>
      let grant ← Tx.demand (← getGrantForDeviceRef deviceRef) (missing "Claim not found")
      let decision ← Tx.demand (← getDecision grant.decisionId) (.value "grant has no Decision")
      Tx.raiseIf (decision.targetBusinessOwnerId ≠ context.businessOwnerId)
        (missing "Claim not found")
      let revision ← withdrawGrant deviceRef grant now
      authority.finishRevocation commandId correlationId deviceRef reason context fp draws revision
    | some claim =>
      Tx.raiseIf (claim.businessOwnerId ≠ context.businessOwnerId) (missing "Claim not found")
      Tx.raiseIf (¬ sameGeneration claim deviceRef)
        (conflict .generationConflict "Claim generation is stale")
      if claim.state = .revoked then
        let occurredAt := claim.revokedAt.getD claim.updatedAt
        let result := revokedResult commandId deviceRef claim.revision none occurredAt
        saveResult (revokeKey commandId context) fp result occurredAt
        return result
      else
        let revision ← revokeStanding claim now
        authority.finishRevocation commandId correlationId deviceRef reason context fp draws revision

/-! ### Standings and withdrawals -/

/-- `record_commissioning_standing`. -/
def recordStanding (jti : Jti) (operationalKeyId : KeyId) (context : ActorContext)
    (now : Timestamp) : Session Unit := do
  Tx.lift (context.requireScope approveScope)
  let _ ← recordCommissioningStanding
    { jti, operationalKeyId
      ownerDomainId := context.ownerDomainId
      businessOwnerId := context.businessOwnerId
      actor := context.actor
      recordedAt := now }

/-- `withdraw_controller`. -/
def withdrawController (principalId : PrincipalId) (context : ActorContext) (now : Timestamp) :
    Session Timestamp := do
  Tx.lift (context.requireScope approveScope)
  Tx.raiseIf (strip principalId = "" ∨ 128 < principalId.length) (invalid "principal_id is required")
  recordControllerWithdrawal
    { ownerDomainId := context.ownerDomainId, principalId, withdrawnAt := now
      actor := context.actor }

end AdmissionAuthority

end EidolonHub.Admission
