import EidolonHub.Admission.Contracts

/-!
# EidolonHub.Admission.Commissioning

**Commissioning proofs**: what gives a Body standing to ask for admission. A
verifier checks possession of the operational key and, for a voucher, that this
Owner Domain signed it for exactly that key and base identity. Verification is
pure: spending the voucher and binding the identity belong to the transaction.
-/

namespace EidolonHub.Admission

open EidolonHub.Library.Python

/-- `VOUCHER_SCHEME`: the proof is a voucher that the Hub has issued. -/
def voucherScheme : String := "hub-issued-commissioning-voucher-v1"

/-- `ENROLLED_BASE_KEY_SCHEME`: the proof is a signature by a key that is enrolled already. -/
def enrolledBaseKeyScheme : String := "enrolled-base-key-v1"

/-- The contract that a continuation document names. -/
def enrolledBaseKeyContract : String := "eidolon.device-foundation.enrolled-base-key-v1"

/-- What a proof established, and what the Authority still has to enforce. -/
structure VerifiedCommissioning where
  identity : VerifiedBaseIdentity
  scheme : String
  jti : Option Jti := none
  expiresAt : Option Int := none
  deriving DecidableEq

/-- The arguments of `CommissioningProofVerifier.verify`. -/
structure CommissioningRequest where
  deviceInstanceId : DeviceInstanceId
  ownerDomainId : OwnerDomainId
  nonce : String
  proof : String
  hardwareIdentityEvidence : HardwareIdentityEvidence
  operationalPublicKey : Spki
  nowUnix : Int

/-- A `CommissioningProofVerifier`: it refuses, accepts or raises. -/
abbrev CommissioningProofVerifier :=
  CommissioningRequest → Except HubError (Option VerifiedCommissioning)

/-! ### The verifier of issued base identities -/

/-- `IssuedBaseIdentityVerifier`. -/
structure IssuedBaseIdentityVerifier where
  crypto : Crypto
  sdk : Sdk
  voucherSigningKey : Bytes

namespace IssuedBaseIdentityVerifier

variable (verifier : IssuedBaseIdentityVerifier)

/-- The part of `_verified_evidence` that follows on its `try`: what is raised here reaches the
caller. -/
def documentChecked (request : CommissioningRequest) (documentRaw signature : String) (document : Json) :
    Except HubError (Option DeviceBaseId) :=
  let crypto := verifier.crypto
  let sdk := verifier.sdk
  if ¬ document.hasKeys sdk.baseIdentityEvidenceFields then .ok none
  else if crypto.recursionLimit.dumps document then .error recursionError
  else
    match crypto.rfc8785Dumps document with
    | .error message => .error (.value message)
    | .ok canonical =>
      -- the canonical form is re-derived rather than trusted
      if documentRaw ≠ canonical then .ok none
      else if ¬ document.fieldIs "device_instance_id" request.deviceInstanceId
          ∨ ¬ document.fieldIs "operational_public_key" request.operationalPublicKey
          ∨ ¬ document.fieldIs "profile_id" sdk.trustProfileId then
        .ok none
      else if crypto.recursionLimit.verifies request.operationalPublicKey document signature then
        .error recursionError
      else if ¬ crypto.verifyP256Proof request.operationalPublicKey document signature then .ok none
      else .ok ((document.field "device_base_id").map crypto.str)

/-- The part of `_verified_evidence` after the evidence has been taken apart. -/
def partsChecked (request : CommissioningRequest) (documentRaw signature : String) :
    Except HubError (Option DeviceBaseId) :=
  -- the `except` names no `RecursionError`
  if verifier.crypto.recursionLimit.loads documentRaw then .error recursionError
  else
    match verifier.crypto.jsonLoads documentRaw with
    | none => .ok none
    | some document => verifier.documentChecked request documentRaw signature document

/-- `_verified_evidence`: the base id a signed, canonical evidence document names. -/
def verifiedEvidence (request : CommissioningRequest) : Except HubError (Option DeviceBaseId) :=
  let evidence := request.hardwareIdentityEvidence
  if evidence.scheme ≠ verifier.sdk.baseIdentityEvidenceScheme then .ok none
  else
    match rsplitOnce '.' evidence.evidence with
    | none => .ok none
    | some (documentRaw, signature) => verifier.partsChecked request documentRaw signature

/-- The header and the claims of a voucher are read, the claims only after the header. -/
def sealedClaims (header claims : String) : Except HubError (Option Json) :=
  match verifier.crypto.loadsPart header with
  | .error e => .error e
  | .ok none => .ok none
  | .ok (some header) =>
    match verifier.crypto.loadsPart claims with
    | .error e => .error e
    | .ok none => .ok none
    | .ok (some claims) => if verifier.sdk.isVoucherHeader header then .ok (some claims) else .ok none

/-- The claims of a voucher whose signature and header are this Owner Domain's. -/
def signedClaims (proof : String) : Except HubError (Option Json) :=
  match split '.' proof with
  | [header, claims, signature] =>
    let crypto := verifier.crypto
    let expected := crypto.hmacSha256 verifier.voucherSigningKey (header ++ "." ++ claims)
    match crypto.b64urlDecode signature with
    | none => .ok none
    | some actual =>
      if expected ≠ actual then .ok none
      else verifier.sealedClaims header claims
  | _ => .ok none

/-- The claims are those of a commissioning, of this Owner Domain and this base identity. -/
def claimsAddressed (claims : Json) (deviceBaseId : DeviceBaseId)
    (request : CommissioningRequest) : Bool :=
  claims.fieldIs "purpose" verifier.sdk.commissioningVoucherPurpose &&
    claims.fieldIs "owner_domain_id" request.ownerDomainId &&
    claims.fieldIs "device_base_id" deviceBaseId

/-- The claims name this Owner Domain, base identity and nonce. -/
def claimsMatch (claims : Json) (deviceBaseId : DeviceBaseId)
    (request : CommissioningRequest) : Bool :=
  verifier.claimsAddressed claims deviceBaseId request &&
    verifier.sdk.commissioningVoucherProvenance.any (claims.fieldIs "base_identity_provenance") &&
    claims.fieldIs "jti" request.nonce

/-- Asking whether the provenance is an accepted one raises. -/
def provenanceRaises (claims : Json) (deviceBaseId : DeviceBaseId)
    (request : CommissioningRequest) : Bool :=
  verifier.sdk.hashesProvenance && verifier.claimsAddressed claims deviceBaseId request &&
    !(claims.field "base_identity_provenance").all Json.isHashable

/-- The part of `_verified_voucher` that reads the expiry. -/
def expiryChecked (deviceBaseId : DeviceBaseId) (request : CommissioningRequest) (claims : Json) :
    Except HubError (Option VerifiedCommissioning) :=
  match (claims.field "exp").map (intOf verifier.crypto.unicode) with
  | some (.ok expiresAt) =>
    if expiresAt ≤ request.nowUnix then .ok none
    else .ok (some
      { identity := ⟨deviceBaseId⟩
        scheme := voucherScheme
        jti := (claims.field "jti").map verifier.crypto.str
        expiresAt := some expiresAt })
  | some .overflow => .error .overflow
  | _ => .ok none

/-- The part of `_verified_voucher` that checks the claims. -/
def claimsChecked (deviceBaseId : DeviceBaseId) (request : CommissioningRequest) (claims : Json) :
    Except HubError (Option VerifiedCommissioning) :=
  if ¬ claims.hasKeys verifier.sdk.commissioningVoucherClaimNames then .ok none
  else if verifier.provenanceRaises claims deviceBaseId request then .error .type
  else if ¬ verifier.claimsMatch claims deviceBaseId request then .ok none
  else
    match verifier.crypto.keyId request.operationalPublicKey with
    | .error message => .error (.value message)
    | .ok keyId =>
      if ¬ claims.fieldIs "operational_spki_sha256" keyId then .ok none
      else verifier.expiryChecked deviceBaseId request claims

/-- `_verified_voucher`. -/
def verifiedVoucher (deviceBaseId : DeviceBaseId) (request : CommissioningRequest) :
    Except HubError (Option VerifiedCommissioning) :=
  match verifier.signedClaims request.proof with
  | .error e => .error e
  | .ok none => .ok none
  | .ok (some claims) => verifier.claimsChecked deviceBaseId request claims

/-- `_verified_continuation`; its document is flat. -/
def verifiedContinuation (deviceBaseId : DeviceBaseId) (request : CommissioningRequest) :
    Option VerifiedCommissioning :=
  let document := Json.obj [
    ("contract", .str enrolledBaseKeyContract),
    ("device_base_id", .str deviceBaseId),
    ("device_instance_id", .str request.deviceInstanceId),
    ("nonce", .str request.nonce),
    ("owner_domain_id", .str request.ownerDomainId)]
  if verifier.crypto.verifyP256Proof request.operationalPublicKey document request.proof then
    some { identity := ⟨deviceBaseId⟩, scheme := enrolledBaseKeyScheme }
  else none

/-- `_verified_standing`. -/
def verifiedStanding (deviceBaseId : DeviceBaseId) (request : CommissioningRequest) :
    Except HubError (Option VerifiedCommissioning) :=
  match verifier.verifiedVoucher deviceBaseId request with
  | .error e => .error e
  | .ok (some voucher) => .ok (some voucher)
  | .ok none => .ok (verifier.verifiedContinuation deviceBaseId request)

/-- `IssuedBaseIdentityVerifier.verify`. -/
def verify : CommissioningProofVerifier := fun request =>
  match verifier.verifiedEvidence request with
  | .error e => .error e
  | .ok none => .ok none
  | .ok (some deviceBaseId) => verifier.verifiedStanding deviceBaseId request

end IssuedBaseIdentityVerifier

/-- `RejectingCommissioningProofVerifier`. -/
def rejectingCommissioningProofVerifier : CommissioningProofVerifier := fun _ => .ok none

end EidolonHub.Admission
