import EidolonHub.Admission.Domain

/-!
# EidolonHub.Admission.Crypto

**Keys, signatures and digests.** The primitives Admission takes from its
cryptography, canonical-JSON and standard-library dependencies are the fields of
`Crypto`; what the Hub builds out of them is defined here in the order the
source computes it.

No law is assumed of the primitives. Where a result needs one (a digest that is
injective, a key id that names its key), it is a hypothesis of that result.
-/

namespace EidolonHub.Admission

open EidolonHub.Library.Python

/-- `bytes`. -/
abbrev Bytes := List UInt8

/-- Where the interpreter's recursion limit is hit. What is raised there is a `RecursionError`, which
no `except ValueError` catches. -/
structure RecursionLimit where
  /-- `json.loads` of a text -/
  loads : String → Bool := fun _ => false
  /-- `json.loads` of encoded text -/
  loadsBytes : Bytes → Bool := fun _ => false
  /-- `rfc8785.dumps` of a value -/
  dumps : Json → Bool := fun _ => false
  /-- `verify_p256_proof`, which canonicalises the document once more -/
  verifies : Spki → Json → String → Bool := fun _ _ _ => false

/-- The primitives, as functions on texts. A computation that raises a
`ValueError` ends in `.error` with its message. -/
structure Crypto where
  /-- `hashlib.sha256(text.encode()).hexdigest()` -/
  sha256 : String → String
  /-- `hmac.new(key, text.encode(), hashlib.sha256).digest()` -/
  hmacSha256 : Bytes → String → Bytes
  /-- `base64.urlsafe_b64decode` after padding -/
  b64urlDecode : String → Option Bytes
  /-- `json.loads` of a text -/
  jsonLoads : String → Option Json
  /-- `json.loads` of encoded text -/
  jsonLoadsBytes : Bytes → Option Json
  /-- `rfc8785.dumps(value).decode()` -/
  rfc8785Dumps : Json → Except String String
  /-- `str(value)` of a value that is not a text -/
  strOther : Json → String
  unicode : Unicode
  /-- a P-256 public key verifies a signature over these bytes; a malformed key or
  signature verifies nothing -/
  p256Verify : Spki → String → String → Bool
  /-- `operational_key_id` -/
  operationalKeyId : Spki → Except String KeyId
  /-- `derive_device_instance_id` -/
  deriveDeviceInstanceId : Spki → Except String DeviceInstanceId
  /-- HPKE base-mode sealing of a plaintext with associated data to a public key,
  with the ephemeral key pair drawn for it; encapsulated key and ciphertext -/
  hpkeSeal : Spki → String → String → (entropy : String) → Except String (String × String)
  recursionLimit : RecursionLimit := {}

namespace Crypto

variable (crypto : Crypto)

/-- The digests the Hub stores and compares. -/
def digest (text : String) : String := "sha256:" ++ crypto.sha256 text

/-- `key_id`. -/
def keyId (value : Spki) : Except String KeyId := crypto.operationalKeyId value

/-- `verify_p256_proof`. -/
def verifyP256Proof (publicSpki : Spki) (document : Json) (signature : String) : Bool :=
  match crypto.rfc8785Dumps document with
  | .ok message => crypto.p256Verify publicSpki message signature
  | .error _ => false

/-- `json.loads(_b64url_decode(part))`; absent where it raises a `ValueError`. -/
def loadsPart (part : String) : Except HubError (Option Json) :=
  match crypto.b64urlDecode part with
  | none => .ok none
  | some encoded =>
    if crypto.recursionLimit.loadsBytes encoded then .error recursionError
    else .ok (crypto.jsonLoadsBytes encoded)

/-- `str(value)`. -/
def str : Json → String
  | .str s => s
  | value => crypto.strOther value

end Crypto

/-- `fingerprint`: the digest a replay of a command is recognised by. -/
def fingerprint (crypto : Crypto) (commandType : String) (ownerDomainId : OwnerDomainId)
    (payload : Json) : Except HubError Fingerprint :=
  let document := Json.obj [("command_type", .str commandType),
    ("owner_domain_id", .str ownerDomainId), ("payload", payload)]
  match crypto.rfc8785Dumps document with
  | .ok text => .ok (crypto.digest text)
  | .error message => .error (.value message)

end EidolonHub.Admission
