import EidolonHub.Admission.Crypto

/-!
# EidolonHub.Admission.HardwareIdentity

**The permanent hardware identity**, derived from a base identity that
commissioning verified. Case and surrounding whitespace of the base id are
folded, its separators are kept, and the digest of the result is the reference
that Claim generations are counted under.
-/

namespace EidolonHub.Admission

open EidolonHub.Library.Python

/-- A `hardware_identity_ref`. It is built by `deriveHardwareIdentityRef` only, so
`require_derived_hardware_identity_ref` has nothing left to refuse. -/
structure HardwareIdentityRef where
  digest : String
  deriving DecidableEq, Repr

/-- The reference as it is stored: a prefix and the digest. -/
def HardwareIdentityRef.text (ref : HardwareIdentityRef) : String := "hardware-" ++ ref.digest

/-- What is hashed in front of the base id. -/
def derivationLabel : String := "eidolon-hardware-identity-v1"

/-- How many bytes a base id may have. -/
def maximumLookupIdBytes : Nat := 128

/-- The form of a base id that its hardware identity depends on. -/
def canonicalBaseId (crypto : Crypto) (deviceBaseId : DeviceBaseId) : String :=
  casefold crypto.unicode (strip deviceBaseId)

/-- `derive_hardware_identity_ref`. -/
def deriveHardwareIdentityRef (crypto : Crypto) (deviceBaseId : DeviceBaseId) :
    Except String HardwareIdentityRef :=
  let canonical := canonicalBaseId crypto deviceBaseId
  if canonical = "" ∨ canonical.utf8ByteSize > maximumLookupIdBytes then
    .error "device base id is empty or too long to be an identity"
  else .ok ⟨crypto.sha256 (derivationLabel ++ "\x00" ++ canonical)⟩

/-- The only identity fact a commissioning adapter may assert. -/
structure VerifiedBaseIdentity where
  deviceBaseId : DeviceBaseId
  deriving DecidableEq, Repr

/-- The lineage that a verified base id belongs to. -/
def VerifiedBaseIdentity.hardwareIdentityRef (identity : VerifiedBaseIdentity) (crypto : Crypto) :
    Except String HardwareIdentityRef :=
  deriveHardwareIdentityRef crypto identity.deviceBaseId

/-- With a digest that does not collide, two base ids share a hardware identity
exactly when they fold to the same text. -/
theorem deriveHardwareIdentityRef_inj {crypto : Crypto} (hinj : Function.Injective crypto.sha256)
    {a b : DeviceBaseId} {ref : HardwareIdentityRef}
    (ha : deriveHardwareIdentityRef crypto a = .ok ref)
    (hb : deriveHardwareIdentityRef crypto b = .ok ref) :
    canonicalBaseId crypto a = canonicalBaseId crypto b := by
  unfold deriveHardwareIdentityRef at ha hb
  simp only at ha hb
  split at ha
  · cases ha
  split at hb
  · cases hb
  rw [← ha] at hb
  have hd : crypto.sha256 (derivationLabel ++ "\x00" ++ canonicalBaseId crypto b) =
      crypto.sha256 (derivationLabel ++ "\x00" ++ canonicalBaseId crypto a) := by
    simpa using hb
  have htext := congrArg String.toList (hinj hd)
  simp only [String.toList_append, List.append_cancel_left_eq] at htext
  exact (String.toList_inj.mp htext).symm

end EidolonHub.Admission
