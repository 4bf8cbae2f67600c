import EidolonHub.Admission.Models

/-!
# EidolonHub.Admission.Contracts

**What the device-foundation contract supplies**: the payloads of the commands,
the documents that are signed and the constants of a commissioning voucher. The
contract lives in a package of its own, so its serialisations are the fields of
`Sdk`; a document it validates is kept as the value it stands for.
-/

namespace EidolonHub.Admission

open EidolonHub.Library.Python

/-! ### Command payloads -/

/-- What a device shows of its hardware: a scheme, the evidence in it, and the digest of the evidence. -/
structure HardwareIdentityEvidence where
  scheme : String
  evidence : String
  evidenceDigest : String
  deriving DecidableEq

/-- What a device shows of its standing: a scheme, the nonce it answers, and the proof. -/
structure CommissioningProof where
  scheme : String
  nonce : String
  proof : String
  deriving DecidableEq

/-- The Manifest as a device declares it: the document, and what names and digests it. -/
structure ManifestDeclaration where
  manifestId : String
  revision : Nat
  digest : String
  document : Json

/-- The reference to a declared Manifest. -/
def ManifestDeclaration.ref (manifest : ManifestDeclaration) : ManifestRef where
  manifestId := manifest.manifestId
  revision := manifest.revision
  digest := manifest.digest

/-- The payload of `create_enrollment`. -/
structure CreateEnrollment where
  requestedOwnerDomainId : OwnerDomainId
  deviceInstanceCandidateId : DeviceInstanceId
  hardwareIdentityEvidence : HardwareIdentityEvidence
  operationalKey : Spki
  handoffKey : Spki
  commissioningProof : CommissioningProof
  manifest : ManifestDeclaration

/-- The payload of `decide_enrollment`. -/
structure DecideEnrollment where
  targetOwnerDomainId : OwnerDomainId
  targetBusinessOwnerId : BusinessOwnerId
  decision : DecisionKind
  expectedProposalRevision : Nat
  reviewedManifestRef : ManifestRef
  deriving DecidableEq

/-! ### The contract package -/

/-- What the contract package supplies: how payloads are dumped, and which fields its documents have. -/
structure Sdk where
  dumpActor : ControllerActorRef → Json
  dumpDeviceRef : DeviceRef → Json
  dumpCreateEnrollment : CreateEnrollment → Json
  /-- the fields of the decide payload, without its enrollment id -/
  dumpDecideEnrollment : DecideEnrollment → List (String × Json)
  dumpClaimGrant : ClaimGrant → Json
  dumpClaimGrantAAD : ClaimGrantAAD → Json
  /-- `claim_grant_collection_proof_document` -/
  claimGrantCollectionProofDocument : EnrollmentId → (proposalRevision : Nat) → String → Json
  /-- `claim_grant_ack_proof_document` -/
  claimGrantAckProofDocument : EnrollmentId → GrantId → DeviceRef → Json
  /-- `ClaimActivatedEvent` and `ClaimRevokedEvent` validate the event; a validated
  event is dumped as it was given -/
  acceptsClaimEvent : Event → Bool
  baseIdentityEvidenceScheme : String
  baseIdentityEvidenceFields : List String
  trustProfileId : String
  /-- the value equals `COMMISSIONING_VOUCHER_HEADER` -/
  isVoucherHeader : Json → Bool
  commissioningVoucherClaimNames : List String
  commissioningVoucherPurpose : String
  commissioningVoucherProvenance : List String
  /-- `COMMISSIONING_VOUCHER_PROVENANCE` is a set, which looks a value up by its hash -/
  hashesProvenance : Bool

/-- `ClaimActivatedEvent.model_validate(event).model_dump(mode="json")`, and the same
of `ClaimRevokedEvent`. -/
def Sdk.validateClaimEvent (sdk : Sdk) (event : Event) : Except HubError Event :=
  if sdk.acceptsClaimEvent event then .ok event
  else .error (.value "Claim event does not validate")

theorem Sdk.validateClaimEvent_ok {sdk : Sdk} {event event' : Event} :
    sdk.validateClaimEvent event = .ok event' ↔
      sdk.acceptsClaimEvent event = true ∧ event' = event := by
  unfold Sdk.validateClaimEvent
  split <;> simp [*, eq_comm]

/-- `seal_claim_grant`. -/
def sealClaimGrant (crypto : Crypto) (sdk : Sdk) (publicSpki : Spki) (grant : ClaimGrant)
    (aad : ClaimGrantAAD) (recipientHandoffKeyId : KeyId) (entropy : String) :
    Except String ClaimGrantWireEnvelope := do
  let plaintext ← crypto.rfc8785Dumps (sdk.dumpClaimGrant grant)
  let associated ← crypto.rfc8785Dumps (sdk.dumpClaimGrantAAD aad)
  let (encapsulatedKey, ciphertext) ← crypto.hpkeSeal publicSpki plaintext associated entropy
  return { recipientHandoffKeyId, encapsulatedKey, ciphertext, aad }

end EidolonHub.Admission
