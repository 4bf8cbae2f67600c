import EidolonHub.Admission.Commands
import EidolonHub.Library.JsonText

/-!
# EidolonHub.Admission.Possession

**What the verifier of issued base identities accepts.** A request proves possession by
evidence and standing by a voucher or a continuation; the verifier finds exactly the base
id proven, unless it meets a value one of its parsers raises on (`Answers`).
-/

namespace EidolonHub.Admission

open EidolonHub.Library.Python

/-! ### Signatures over documents -/

/-- The canonicaliser writes exactly the values RFC 8785 can represent. -/
def Crypto.Canonicalizes (crypto : Crypto) : Prop :=
  ∀ value, (∃ text, crypto.rfc8785Dumps value = .ok text) ↔ value.representable = true

/-- The key signed the canonical text of the document. -/
def Crypto.Signed (crypto : Crypto) (key : Spki) (document : Json) (signature : String) : Prop :=
  ∃ text, crypto.rfc8785Dumps document = .ok text ∧ crypto.p256Verify key text signature = true

theorem Crypto.verifyP256Proof_iff {crypto : Crypto} {key : Spki} {document : Json}
    {signature : String} :
    crypto.verifyP256Proof key document signature = true ↔ crypto.Signed key document signature := by
  unfold Crypto.verifyP256Proof Crypto.Signed
  cases crypto.rfc8785Dumps document with
  | ok text => simp
  | error message => simp

/-- Reading the part of a voucher hits the recursion limit. -/
def Crypto.tooDeep (crypto : Crypto) (part : String) : Bool :=
  (crypto.b64urlDecode part).any crypto.recursionLimit.loadsBytes

theorem Crypto.loadsPart_eq {crypto : Crypto} {part : String} :
    crypto.loadsPart part =
      if crypto.tooDeep part then .error recursionError
      else .ok ((crypto.b64urlDecode part).bind crypto.jsonLoadsBytes) := by
  unfold Crypto.loadsPart Crypto.tooDeep
  cases crypto.b64urlDecode part <;> rfl

/-- The number is infinite: the one that `int()` overflows on. -/
def isInfinite : Json → Bool
  | .float bits => (bits.toNat >>> 52) % 2048 = 2047 ∧ bits.toNat % (1 <<< 52) = 0
  | _ => false

theorem intOf_overflow {unicode : Unicode} {value : Json} :
    intOf unicode value = .overflow ↔ isInfinite value = true := by
  cases value with
  | float bits =>
    simp only [intOf, intOfFloat, isInfinite]
    split_ifs with hexponent hfraction <;> simp_all
  | str text =>
    simp only [intOf, isInfinite]
    cases intOfText unicode text <;> simp
  | _ => simp [intOf, isInfinite]

theorem isInfinite_eq_false {unicode : Unicode} {value : Json} {result : IntResult}
    (h : intOf unicode value = result) (hresult : result ≠ .overflow) : isInfinite value = false := by
  rw [← Bool.not_eq_true, ← @intOf_overflow unicode, h]
  exact hresult

namespace IssuedBaseIdentityVerifier

variable (verifier : IssuedBaseIdentityVerifier) (request : CommissioningRequest)

/-! ### What a request can prove -/

/-- The evidence of the request is the text of a document, and a signature. -/
structure Carries (documentRaw signature : String) : Prop where
  scheme : request.hardwareIdentityEvidence.scheme = verifier.sdk.baseIdentityEvidenceScheme
  parts : rsplitOnce '.' request.hardwareIdentityEvidence.evidence = some (documentRaw, signature)

/-- The evidence of the request is a document of the closed schema, and a signature. -/
structure Presents (documentRaw signature : String) (document : Json) : Prop
    extends Carries verifier request documentRaw signature where
  reads : verifier.crypto.jsonLoads documentRaw = some document
  closed : document.hasKeys verifier.sdk.baseIdentityEvidenceFields = true

/-- The evidence is canonical, and names the device instance, the operational key and the
profile. -/
structure Names (documentRaw signature : String) (document : Json) : Prop
    extends Presents verifier request documentRaw signature document where
  canonical : verifier.crypto.rfc8785Dumps document = .ok documentRaw
  instanceId : document.field "device_instance_id" = some (.str request.deviceInstanceId)
  key : document.field "operational_public_key" = some (.str request.operationalPublicKey)
  profile : document.field "profile_id" = some (.str verifier.sdk.trustProfileId)

/-- The evidence names this base id too, and is signed by the operational key. -/
structure Evidences (deviceBaseId : DeviceBaseId) (documentRaw signature : String)
    (document : Json) : Prop extends Names verifier request documentRaw signature document where
  signed : verifier.crypto.Signed request.operationalPublicKey document signature
  base : (document.field "device_base_id").map verifier.crypto.str = some deviceBaseId

/-- Some evidence of the request proves this base id. -/
def ProvesPossession (deviceBaseId : DeviceBaseId) : Prop :=
  ∃ documentRaw signature document,
    Evidences verifier request deviceBaseId documentRaw signature document

/-- The proof is a header and a body that this Owner Domain signed. -/
def Sealed (header body : String) : Prop :=
  ∃ signature, split '.' request.proof = [header, body, signature] ∧
    verifier.crypto.b64urlDecode signature =
      some (verifier.crypto.hmacSha256 verifier.voucherSigningKey (header ++ "." ++ body))

/-- The proof is a voucher this Owner Domain signed, with these claims. -/
def IssuedVoucher (claims : Json) : Prop :=
  ∃ header body, verifier.Sealed request header body ∧
    (∃ value, (verifier.crypto.b64urlDecode header).bind verifier.crypto.jsonLoadsBytes = some value ∧
      verifier.sdk.isVoucherHeader value = true) ∧
    (verifier.crypto.b64urlDecode body).bind verifier.crypto.jsonLoadsBytes = some claims

/-- Neither the header nor, where that is JSON, the claims of a voucher nest too deep to be read. -/
def VoucherReads : Prop :=
  ∀ header body, verifier.Sealed request header body → verifier.crypto.tooDeep header = false ∧
    ((verifier.crypto.b64urlDecode header).bind verifier.crypto.jsonLoadsBytes ≠ none →
      verifier.crypto.tooDeep body = false)

/-- The claims are of the closed schema and of a commissioning of this base id here. -/
structure Addressed (deviceBaseId : DeviceBaseId) (claims : Json) : Prop where
  closed : claims.hasKeys verifier.sdk.commissioningVoucherClaimNames = true
  purpose : claims.field "purpose" = some (.str verifier.sdk.commissioningVoucherPurpose)
  ownerDomain : claims.field "owner_domain_id" = some (.str request.ownerDomainId)
  base : claims.field "device_base_id" = some (.str deviceBaseId)

/-- The claims name the nonce and the key of the request, and an accepted provenance. -/
structure Entitles (deviceBaseId : DeviceBaseId) (keyId : KeyId) (claims : Json) : Prop
    extends Addressed verifier request deviceBaseId claims where
  provenance : ∃ provenance ∈ verifier.sdk.commissioningVoucherProvenance,
    claims.field "base_identity_provenance" = some (.str provenance)
  nonce : claims.field "jti" = some (.str request.nonce)
  key : claims.field "operational_spki_sha256" = some (.str keyId)

/-- The claims say until when, and that is later than now. -/
def Unexpired (claims : Json) : Prop :=
  ∃ expiresAt, (claims.field "exp").map (intOf verifier.crypto.unicode) = some (.ok expiresAt) ∧
    request.nowUnix < expiresAt

/-- The document that a continuation signs, as the verifier writes it for this base id. -/
def continuationDocument (deviceBaseId : DeviceBaseId) : Json := .obj [
  ("contract", .str enrolledBaseKeyContract),
  ("device_base_id", .str deviceBaseId),
  ("device_instance_id", .str request.deviceInstanceId),
  ("nonce", .str request.nonce),
  ("owner_domain_id", .str request.ownerDomainId)]

/-- An unexpired voucher for this base id and key, or the key's own continuation. -/
def ProvesStanding (deviceBaseId : DeviceBaseId) (keyId : KeyId) : Prop :=
  (∃ claims, verifier.IssuedVoucher request claims ∧
    verifier.Entitles request deviceBaseId keyId claims ∧ verifier.Unexpired request claims) ∨
  verifier.crypto.Signed request.operationalPublicKey (continuationDocument request deviceBaseId)
    request.proof

/-- The verifier answers, and finds exactly the base id that is proven. -/
def VerifiesExactly (keyId : KeyId) : Prop :=
  ∃ result, verifier.verify request = .ok result ∧ ∀ deviceBaseId,
    (∃ verified, result = some verified ∧ verified.identity.deviceBaseId = deviceBaseId) ↔
      verifier.ProvesPossession request deviceBaseId ∧
        verifier.ProvesStanding request deviceBaseId keyId

/-- No parser of the evidence meets a value it raises on. -/
structure EvidenceAnswers : Prop where
  /-- the evidence does not nest too deep to be read -/
  nesting : ∀ documentRaw signature, verifier.Carries request documentRaw signature →
    verifier.crypto.recursionLimit.loads documentRaw = false
  /-- its document holds numbers and texts that can be canonicalised, and does not nest too deep for it -/
  evidence : ∀ documentRaw signature document,
    verifier.Presents request documentRaw signature document →
      verifier.crypto.recursionLimit.dumps document = false ∧ document.representable = true
  /-- it does not nest too deep to be canonicalised again where its signature is checked -/
  proof : ∀ documentRaw signature document, verifier.Names request documentRaw signature document →
    verifier.crypto.recursionLimit.verifies request.operationalPublicKey document signature = false

/-- No parser of the verifier meets a value it raises on. -/
structure Answers (keyId : KeyId) : Prop extends EvidenceAnswers verifier request where
  /-- a voucher for a proven base id does not nest too deep to be read -/
  voucher : ∀ deviceBaseId, verifier.ProvesPossession request deviceBaseId →
    verifier.VoucherReads request
  /-- a voucher for a proven base id names a provenance that can be looked up -/
  provenance : verifier.sdk.hashesProvenance = true → ∀ deviceBaseId claims,
    verifier.ProvesPossession request deviceBaseId → verifier.IssuedVoucher request claims →
    verifier.Addressed request deviceBaseId claims →
    (claims.field "base_identity_provenance").all Json.isHashable = true
  /-- a voucher for a proven base id expires at a finite time -/
  expiry : ∀ deviceBaseId claims, verifier.ProvesPossession request deviceBaseId →
    verifier.IssuedVoucher request claims → verifier.Entitles request deviceBaseId keyId claims →
    (claims.field "exp").any isInfinite = false

variable {verifier request} {deviceBaseId : DeviceBaseId} {keyId : KeyId} {claims : Json}

/-! ### The evidence -/

section Evidence

variable {documentRaw signature : String} {document : Json}

theorem verifiedEvidence_of_not_carries
    (h : ∀ documentRaw signature, ¬ verifier.Carries request documentRaw signature) :
    verifier.verifiedEvidence request = .ok none := by
  unfold verifiedEvidence
  dsimp only
  split_ifs with hscheme
  · rfl
  split
  · rfl
  next documentRaw signature hparts => exact absurd ⟨not_not.mp hscheme, hparts⟩ (h _ _)

theorem verifiedEvidence_of_carries (h : verifier.Carries request documentRaw signature) :
    verifier.verifiedEvidence request = verifier.partsChecked request documentRaw signature := by
  unfold verifiedEvidence
  simp only [h.scheme, h.parts, ne_eq, not_true_eq_false, if_false]

theorem verifiedEvidence_of_presents (hnesting : verifier.crypto.recursionLimit.loads documentRaw = false)
    (h : verifier.Presents request documentRaw signature document) :
    verifier.verifiedEvidence request =
      verifier.documentChecked request documentRaw signature document := by
  rw [verifiedEvidence_of_carries h.toCarries]
  unfold partsChecked
  simp only [hnesting, h.reads, Bool.false_eq_true, if_false]

theorem verifiedEvidence_of_not_presents
    (hnesting : ∀ documentRaw signature, verifier.Carries request documentRaw signature →
      verifier.crypto.recursionLimit.loads documentRaw = false)
    (h : ∀ documentRaw signature document, ¬ verifier.Presents request documentRaw signature document) :
    verifier.verifiedEvidence request = .ok none := by
  by_cases hcarries : ∃ documentRaw signature, verifier.Carries request documentRaw signature
  · obtain ⟨documentRaw, signature, hcarries⟩ := hcarries
    rw [verifiedEvidence_of_carries hcarries]
    unfold partsChecked
    rw [if_neg (by simp [hnesting _ _ hcarries])]
    split
    · rfl
    · next document hreads =>
      exact if_pos fun hclosed => h documentRaw signature document ⟨hcarries, hreads, hclosed⟩
  · push Not at hcarries
    exact verifiedEvidence_of_not_carries hcarries

/-- The evidence of a request is one text. -/
theorem Carries.unique {documentRaw' signature' : String}
    (h : verifier.Carries request documentRaw signature)
    (h' : verifier.Carries request documentRaw' signature') :
    documentRaw' = documentRaw ∧ signature' = signature := by
  obtain ⟨rfl, rfl⟩ := Prod.mk.inj (Option.some.inj (h.parts.symm.trans h'.parts))
  exact ⟨rfl, rfl⟩

/-- The evidence of a request is one document. -/
theorem Presents.unique {documentRaw' signature' : String} {document' : Json}
    (h : verifier.Presents request documentRaw signature document)
    (h' : verifier.Presents request documentRaw' signature' document') :
    documentRaw' = documentRaw ∧ signature' = signature ∧ document' = document := by
  obtain ⟨rfl, rfl⟩ := h.toCarries.unique h'.toCarries
  exact ⟨rfl, rfl, Option.some.inj (h'.reads.symm.trans h.reads)⟩

/-- Evidence that is answered does not nest too deep to be read. -/
theorem nesting_of_verifiedEvidence {found : Option DeviceBaseId}
    (h : verifier.verifiedEvidence request = .ok found) (hcarries : verifier.Carries request documentRaw signature) :
    verifier.crypto.recursionLimit.loads documentRaw = false := by
  rw [verifiedEvidence_of_carries hcarries] at h
  unfold partsChecked at h
  split_ifs at h with hdeep
  simpa using hdeep

/-- What the checks of a document come to. -/
theorem documentChecked_of_canonical {canonical : String}
    (hdumps : verifier.crypto.recursionLimit.dumps document = false)
    (hcanonical : verifier.crypto.rfc8785Dumps document = .ok canonical)
    (h : verifier.Presents request documentRaw signature document) :
    verifier.Names request documentRaw signature document ∧
        verifier.documentChecked request documentRaw signature document =
          (if verifier.crypto.recursionLimit.verifies request.operationalPublicKey document signature then
            .error recursionError
          else if ¬ verifier.crypto.verifyP256Proof request.operationalPublicKey document signature then .ok none
          else .ok ((document.field "device_base_id").map verifier.crypto.str)) ∨
      ¬ verifier.Names request documentRaw signature document ∧
        verifier.documentChecked request documentRaw signature document = .ok none := by
  unfold documentChecked
  dsimp only
  rw [if_neg (not_not.mpr h.closed), if_neg (by simp [hdumps]), hcanonical]
  dsimp only
  by_cases hraw : documentRaw = canonical
  · subst hraw
    rw [if_neg (not_not.mpr rfl)]
    by_cases hnames : verifier.Names request documentRaw signature document
    · refine .inl ⟨hnames, if_neg ?_⟩
      simp [Json.fieldIs_iff.mpr hnames.instanceId, Json.fieldIs_iff.mpr hnames.key,
        Json.fieldIs_iff.mpr hnames.profile]
    · refine .inr ⟨hnames, if_pos ?_⟩
      by_contra hfields
      simp only [not_or, not_not] at hfields
      obtain ⟨hinstance, hkey, hprofile⟩ := hfields
      exact hnames ⟨h, hcanonical, Json.fieldIs_iff.mp hinstance, Json.fieldIs_iff.mp hkey,
        Json.fieldIs_iff.mp hprofile⟩
  · rw [if_pos hraw]
    refine .inr ⟨fun hnames => hraw ?_, rfl⟩
    exact Except.ok.inj (hnames.canonical.symm.trans hcanonical)

/-- A document that is answered has been canonicalised. -/
theorem canonical_of_documentChecked {found : Option DeviceBaseId}
    (h : verifier.Presents request documentRaw signature document)
    (hfound : verifier.documentChecked request documentRaw signature document = .ok found) :
    verifier.crypto.recursionLimit.dumps document = false ∧
      ∃ canonical, verifier.crypto.rfc8785Dumps document = .ok canonical := by
  unfold documentChecked at hfound
  dsimp only at hfound
  rw [if_neg (not_not.mpr h.closed)] at hfound
  by_cases hdumps : verifier.crypto.recursionLimit.dumps document = true
  · rw [if_pos hdumps] at hfound
    cases hfound
  · rw [if_neg hdumps] at hfound
    refine ⟨by simpa using hdumps, ?_⟩
    cases hcanonical : verifier.crypto.rfc8785Dumps document with
    | error message =>
      rw [hcanonical] at hfound
      cases hfound
    | ok canonical => exact ⟨canonical, rfl⟩

/-- **Evidence that is answered is accepted exactly where it proves possession.** -/
theorem verifiedEvidence_iff {found : Option DeviceBaseId}
    (hfound : verifier.verifiedEvidence request = .ok found) :
    found = some deviceBaseId ↔ verifier.ProvesPossession request deviceBaseId := by
  have hnesting : ∀ documentRaw signature, verifier.Carries request documentRaw signature →
      verifier.crypto.recursionLimit.loads documentRaw = false :=
    fun _ _ hcarries => nesting_of_verifiedEvidence hfound hcarries
  by_cases hpresents : ∃ documentRaw signature document,
      verifier.Presents request documentRaw signature document
  · obtain ⟨documentRaw, signature, document, hpresents⟩ := hpresents
    rw [verifiedEvidence_of_presents (hnesting _ _ hpresents.toCarries) hpresents] at hfound
    have hproves : verifier.ProvesPossession request deviceBaseId ↔
        verifier.Evidences request deviceBaseId documentRaw signature document := by
      refine ⟨?_, fun h => ⟨_, _, _, h⟩⟩
      rintro ⟨documentRaw', signature', document', h⟩
      obtain ⟨rfl, rfl, rfl⟩ := hpresents.unique h.toPresents
      exact h
    rw [hproves]
    obtain ⟨hdumps, canonical, hcanonical⟩ := canonical_of_documentChecked hpresents hfound
    rcases documentChecked_of_canonical hdumps hcanonical hpresents with
      ⟨hnames, hchecked⟩ | ⟨hnames, hchecked⟩
    · rw [hchecked] at hfound
      split_ifs at hfound with hverifies hsigned
      · rw [← Except.ok.inj hfound]
        exact ⟨fun hbase => ⟨hnames, Crypto.verifyP256Proof_iff.mp hsigned, hbase⟩, fun h => h.base⟩
      · cases hfound
        exact iff_of_false nofun fun h => hsigned (Crypto.verifyP256Proof_iff.mpr h.signed)
    · rw [hchecked] at hfound
      cases hfound
      exact iff_of_false nofun fun h => hnames h.toNames
  · push Not at hpresents
    rw [verifiedEvidence_of_not_presents hnesting hpresents] at hfound
    cases hfound
    refine iff_of_false nofun ?_
    rintro ⟨documentRaw, signature, document, h⟩
    exact hpresents _ _ _ h.toPresents

/-- The evidence is answered exactly where none of its parsers raises. -/
theorem verifiedEvidence_answers (hcanonicalizes : verifier.crypto.Canonicalizes) :
    (∃ found, verifier.verifiedEvidence request = .ok found) ↔ verifier.EvidenceAnswers request := by
  constructor
  · rintro ⟨found, hfound⟩
    have hnesting {documentRaw signature : String} (hcarries : verifier.Carries request documentRaw signature) :
        verifier.crypto.recursionLimit.loads documentRaw = false :=
      nesting_of_verifiedEvidence hfound hcarries
    have hevidence {documentRaw signature : String} {document : Json}
        (h : verifier.Presents request documentRaw signature document) :
        verifier.crypto.recursionLimit.dumps document = false ∧ document.representable = true := by
      rw [verifiedEvidence_of_presents (hnesting h.toCarries) h] at hfound
      obtain ⟨hdumps, hcanonical⟩ := canonical_of_documentChecked h hfound
      exact ⟨hdumps, (hcanonicalizes document).mp hcanonical⟩
    refine ⟨fun _ _ => hnesting, fun _ _ _ => hevidence, fun documentRaw signature document h => ?_⟩
    rw [verifiedEvidence_of_presents (hnesting h.toCarries) h.toPresents] at hfound
    rcases documentChecked_of_canonical (hevidence h.toPresents).1 h.canonical h.toPresents with
      ⟨-, hchecked⟩ | ⟨hnames, -⟩
    · rw [hchecked] at hfound
      split_ifs at hfound with hverifies <;> simpa using hverifies
    · exact absurd h hnames
  · intro h
    by_cases hpresents : ∃ documentRaw signature document,
        verifier.Presents request documentRaw signature document
    · obtain ⟨documentRaw, signature, document, hpresents⟩ := hpresents
      obtain ⟨hdumps, hrepresentable⟩ := h.evidence _ _ _ hpresents
      obtain ⟨canonical, hcanonical⟩ := (hcanonicalizes document).mpr hrepresentable
      rw [verifiedEvidence_of_presents (h.nesting _ _ hpresents.toCarries) hpresents]
      rcases documentChecked_of_canonical hdumps hcanonical hpresents with
        ⟨hnames, hchecked⟩ | ⟨-, hchecked⟩
      · rw [hchecked, if_neg (by simp [h.proof _ _ _ hnames])]
        split_ifs <;> exact ⟨_, rfl⟩
      · exact ⟨none, hchecked⟩
    · push Not at hpresents
      exact ⟨none, verifiedEvidence_of_not_presents h.nesting hpresents⟩

end Evidence

/-! ### The voucher -/

theorem Sealed.unique {header body header' body' : String} (h : verifier.Sealed request header body)
    (h' : verifier.Sealed request header' body') : header' = header ∧ body' = body := by
  obtain ⟨signature, hsplit, -⟩ := h
  obtain ⟨signature', hsplit', -⟩ := h'
  have hparts := hsplit'.symm.trans hsplit
  simp only [List.cons.injEq, and_true] at hparts
  exact ⟨hparts.1, hparts.2.1⟩

/-- What was read of a voucher are its claims, if its header is one. -/
theorem sealedClaims_iff {header body : String} {found : Option Json}
    (hfound : verifier.sealedClaims header body = .ok found) :
    found = some claims ↔
      (∃ value, (verifier.crypto.b64urlDecode header).bind verifier.crypto.jsonLoadsBytes = some value ∧
        verifier.sdk.isVoucherHeader value = true) ∧
      (verifier.crypto.b64urlDecode body).bind verifier.crypto.jsonLoadsBytes = some claims := by
  unfold sealedClaims at hfound
  rw [Crypto.loadsPart_eq, Crypto.loadsPart_eq] at hfound
  by_cases hheader : verifier.crypto.tooDeep header = true
  · rw [if_pos hheader] at hfound
    cases hfound
  rw [if_neg hheader] at hfound
  cases hvalue : (verifier.crypto.b64urlDecode header).bind verifier.crypto.jsonLoadsBytes with
  | none =>
    rw [hvalue] at hfound
    cases hfound
    simp
  | some value =>
    rw [hvalue] at hfound
    by_cases hbody : verifier.crypto.tooDeep body = true
    · rw [if_pos hbody] at hfound
      cases hfound
    rw [if_neg hbody] at hfound
    cases hclaims : (verifier.crypto.b64urlDecode body).bind verifier.crypto.jsonLoadsBytes with
    | none =>
      rw [hclaims] at hfound
      cases hfound
      simp
    | some claims' =>
      rw [hclaims] at hfound
      by_cases hvoucher : verifier.sdk.isVoucherHeader value = true
      · dsimp only at hfound
        rw [if_pos hvoucher] at hfound
        cases hfound
        simp [hvoucher]
      · dsimp only at hfound
        rw [if_neg hvoucher] at hfound
        cases hfound
        simp [hvoucher]

theorem sealedClaims_answers {header body : String} :
    (∃ found, verifier.sealedClaims header body = .ok found) ↔
      verifier.crypto.tooDeep header = false ∧
        ((verifier.crypto.b64urlDecode header).bind verifier.crypto.jsonLoadsBytes ≠ none →
          verifier.crypto.tooDeep body = false) := by
  unfold sealedClaims
  rw [Crypto.loadsPart_eq, Crypto.loadsPart_eq]
  cases hheader : verifier.crypto.tooDeep header with
  | true => simp
  | false =>
    simp only [Bool.false_eq_true, if_false, true_and]
    cases hvalue : (verifier.crypto.b64urlDecode header).bind verifier.crypto.jsonLoadsBytes with
    | none => simp
    | some value =>
      cases hbody : verifier.crypto.tooDeep body with
      | true => simp
      | false =>
        refine iff_of_true ?_ fun _ => rfl
        simp only [Bool.false_eq_true, if_false]
        cases (verifier.crypto.b64urlDecode body).bind verifier.crypto.jsonLoadsBytes with
        | none => exact ⟨_, rfl⟩
        | some claims =>
          dsimp only
          split_ifs <;> exact ⟨_, rfl⟩

theorem signedClaims_of_sealed {header body : String} (h : verifier.Sealed request header body) :
    verifier.signedClaims request.proof = verifier.sealedClaims header body := by
  obtain ⟨signature, hsplit, hmac⟩ := h
  unfold signedClaims
  simp only [hsplit, hmac, ne_eq, not_true_eq_false, if_false]

theorem signedClaims_of_not_sealed (h : ∀ header body, ¬ verifier.Sealed request header body) :
    verifier.signedClaims request.proof = .ok none := by
  unfold signedClaims
  split
  · next header body signature hsplit =>
    dsimp only
    split
    · rfl
    · next actual hactual =>
      refine if_pos fun hmac => h header body ⟨signature, hsplit, ?_⟩
      rw [hactual, hmac]
  · rfl

/-- **The claims that are found** are those of a voucher of this Owner Domain. -/
theorem signedClaims_iff {found : Option Json}
    (hfound : verifier.signedClaims request.proof = .ok found) :
    found = some claims ↔ verifier.IssuedVoucher request claims := by
  by_cases hsealed : ∃ header body, verifier.Sealed request header body
  · obtain ⟨header, body, hsealed⟩ := hsealed
    rw [signedClaims_of_sealed hsealed] at hfound
    rw [sealedClaims_iff hfound]
    constructor
    · intro h
      exact ⟨header, body, hsealed, h⟩
    · rintro ⟨header', body', hsealed', h⟩
      obtain ⟨rfl, rfl⟩ := hsealed.unique hsealed'
      exact h
  · push Not at hsealed
    rw [signedClaims_of_not_sealed hsealed] at hfound
    cases hfound
    refine iff_of_false nofun ?_
    rintro ⟨header, body, h, -⟩
    exact hsealed header body h

theorem signedClaims_answers :
    (∃ found, verifier.signedClaims request.proof = .ok found) ↔ verifier.VoucherReads request := by
  by_cases hsealed : ∃ header body, verifier.Sealed request header body
  · obtain ⟨header, body, hsealed⟩ := hsealed
    rw [signedClaims_of_sealed hsealed, sealedClaims_answers]
    constructor
    · rintro h header' body' hsealed'
      obtain ⟨rfl, rfl⟩ := hsealed.unique hsealed'
      exact h
    · intro h
      exact h header body hsealed
  · push Not at hsealed
    refine iff_of_true ⟨none, signedClaims_of_not_sealed hsealed⟩ ?_
    intro header body h
    exact absurd h (hsealed header body)

theorem IssuedVoucher.unique {claims' : Json} (h : verifier.IssuedVoucher request claims)
    (h' : verifier.IssuedVoucher request claims') : claims' = claims := by
  obtain ⟨header, body, hsealed, -, hclaims⟩ := h
  obtain ⟨header', body', hsealed', -, hclaims'⟩ := h'
  obtain ⟨rfl, rfl⟩ := hsealed.unique hsealed'
  exact Option.some.inj (hclaims'.symm.trans hclaims)

theorem addressed_iff : verifier.Addressed request deviceBaseId claims ↔
    claims.hasKeys verifier.sdk.commissioningVoucherClaimNames = true ∧
      verifier.claimsAddressed claims deviceBaseId request = true := by
  simp only [claimsAddressed, Bool.and_eq_true, Json.fieldIs_iff]
  exact ⟨fun h => ⟨h.closed, ⟨h.purpose, h.ownerDomain⟩, h.base⟩,
    fun h => ⟨h.1, h.2.1.1, h.2.1.2, h.2.2⟩⟩

theorem entitles_iff : verifier.Entitles request deviceBaseId keyId claims ↔
    claims.hasKeys verifier.sdk.commissioningVoucherClaimNames = true ∧
      verifier.claimsMatch claims deviceBaseId request = true ∧
      claims.fieldIs "operational_spki_sha256" keyId = true := by
  simp only [claimsMatch, Bool.and_eq_true, List.any_eq_true, Json.fieldIs_iff]
  constructor
  · intro h
    obtain ⟨hclosed, haddressed⟩ := addressed_iff.mp h.toAddressed
    exact ⟨hclosed, ⟨⟨haddressed, h.provenance⟩, h.nonce⟩, h.key⟩
  · rintro ⟨hclosed, ⟨⟨haddressed, hprovenance⟩, hnonce⟩, hkey⟩
    exact ⟨addressed_iff.mpr ⟨hclosed, haddressed⟩, hprovenance, hnonce, hkey⟩

/-- An accepted provenance can be looked up. -/
theorem Entitles.not_raises (h : verifier.Entitles request deviceBaseId keyId claims) :
    verifier.provenanceRaises claims deviceBaseId request = false := by
  obtain ⟨provenance, -, hfield⟩ := h.provenance
  simp [provenanceRaises, hfield, Json.isHashable]

/-- What is left to check of the claims of an issued voucher. -/
theorem claimsChecked_eq (hkey : verifier.crypto.keyId request.operationalPublicKey = .ok keyId) :
    verifier.claimsChecked deviceBaseId request claims =
      if ¬ claims.hasKeys verifier.sdk.commissioningVoucherClaimNames then .ok none
      else if verifier.provenanceRaises claims deviceBaseId request then .error .type
      else if ¬ verifier.claimsMatch claims deviceBaseId request then .ok none
      else if ¬ claims.fieldIs "operational_spki_sha256" keyId then .ok none
      else verifier.expiryChecked deviceBaseId request claims := by
  unfold claimsChecked
  rw [hkey]

theorem verifiedVoucher_of_issued (hreads : verifier.VoucherReads request)
    (h : verifier.IssuedVoucher request claims) :
    verifier.verifiedVoucher deviceBaseId request = verifier.claimsChecked deviceBaseId request claims := by
  obtain ⟨found, hfound⟩ := signedClaims_answers.mpr hreads
  obtain rfl := (signedClaims_iff hfound).mpr h
  unfold verifiedVoucher
  rw [hfound]

theorem verifiedVoucher_of_not_issued (hreads : verifier.VoucherReads request)
    (h : ∀ claims, ¬ verifier.IssuedVoucher request claims) :
    verifier.verifiedVoucher deviceBaseId request = .ok none := by
  obtain ⟨found, hfound⟩ := signedClaims_answers.mpr hreads
  unfold verifiedVoucher
  rw [hfound]
  cases found with
  | none => rfl
  | some claims => exact absurd ((signedClaims_iff hfound).mp rfl) (h claims)

theorem claimsChecked_of_entitles
    (hkey : verifier.crypto.keyId request.operationalPublicKey = .ok keyId)
    (hentitles : verifier.Entitles request deviceBaseId keyId claims) :
    verifier.claimsChecked deviceBaseId request claims = verifier.expiryChecked deviceBaseId request claims := by
  obtain ⟨hclosed, hmatch, hnamed⟩ := entitles_iff.mp hentitles
  rw [claimsChecked_eq hkey]
  simp only [hclosed, hentitles.not_raises, hmatch, hnamed, not_true_eq_false, if_false,
    Bool.false_eq_true]

/-- A voucher that is answered has been read. -/
theorem voucherReads_of_verifiedVoucher {verified : Option VerifiedCommissioning}
    (h : verifier.verifiedVoucher deviceBaseId request = .ok verified) : verifier.VoucherReads request := by
  refine signedClaims_answers.mp ?_
  unfold verifiedVoucher at h
  cases hclaims : verifier.signedClaims request.proof with
  | error e =>
    rw [hclaims] at h
    cases h
  | ok found => exact ⟨found, rfl⟩

/-- **A voucher is accepted exactly where it entitles and has not expired.** -/
theorem verifiedVoucher_iff
    (hkey : verifier.crypto.keyId request.operationalPublicKey = .ok keyId)
    {verified : Option VerifiedCommissioning}
    (hverified : verifier.verifiedVoucher deviceBaseId request = .ok verified) :
    (∃ voucher, verified = some voucher) ↔
      ∃ claims, verifier.IssuedVoucher request claims ∧
        verifier.Entitles request deviceBaseId keyId claims ∧ verifier.Unexpired request claims := by
  have hreads := voucherReads_of_verifiedVoucher hverified
  constructor
  · rintro ⟨voucher, rfl⟩
    by_cases hissued : ∃ claims, verifier.IssuedVoucher request claims
    · obtain ⟨claims, hissued⟩ := hissued
      rw [verifiedVoucher_of_issued hreads hissued] at hverified
      have hentitles : verifier.Entitles request deviceBaseId keyId claims := by
        rw [claimsChecked_eq hkey] at hverified
        split_ifs at hverified with hclosed hraises hmatch hnamed
        all_goals first
          | cases hverified
          | exact entitles_iff.mpr ⟨hclosed, hmatch, hnamed⟩
      refine ⟨claims, hissued, hentitles, ?_⟩
      rw [claimsChecked_of_entitles hkey hentitles, expiryChecked] at hverified
      split at hverified
      · next expiresAt hexp =>
        split_ifs at hverified with hexpired
        · cases hverified
        · exact ⟨expiresAt, hexp, not_le.mp hexpired⟩
      · cases hverified
      · cases hverified
    · push Not at hissued
      rw [verifiedVoucher_of_not_issued hreads hissued] at hverified
      cases hverified
  · rintro ⟨claims, hissued, hentitles, expiresAt, hexp, hlater⟩
    rw [verifiedVoucher_of_issued hreads hissued, claimsChecked_of_entitles hkey hentitles, expiryChecked,
      hexp] at hverified
    simp only [if_neg (not_le.mpr hlater)] at hverified
    exact ⟨_, (Except.ok.inj hverified).symm⟩

/-- The claims of a voucher are answered exactly where its provenance and its expiry can be read. -/
theorem claimsChecked_answers (hkey : verifier.crypto.keyId request.operationalPublicKey = .ok keyId) :
    (∃ verified, verifier.claimsChecked deviceBaseId request claims = .ok verified) ↔
      (verifier.sdk.hashesProvenance = true → verifier.Addressed request deviceBaseId claims →
        (claims.field "base_identity_provenance").all Json.isHashable = true) ∧
      (verifier.Entitles request deviceBaseId keyId claims →
        (claims.field "exp").any isInfinite = false) := by
  -- a provenance that cannot be hashed raises where the claims are addressed to the device
  by_cases hraises : verifier.provenanceRaises claims deviceBaseId request = true
  · simp only [provenanceRaises, Bool.and_eq_true, Bool.not_eq_true'] at hraises
    by_cases hclosed : claims.hasKeys verifier.sdk.commissioningVoucherClaimNames = true
    · refine iff_of_false ?_ ?_
      · rw [claimsChecked_eq hkey]
        simp [hclosed, provenanceRaises, hraises]
      · intro h
        have := h.1 hraises.1.1 (addressed_iff.mpr ⟨hclosed, hraises.1.2⟩)
        rw [hraises.2] at this
        cases this
    · refine iff_of_true ?_ ⟨fun _ h => absurd h.closed hclosed, fun h => absurd h.closed hclosed⟩
      rw [claimsChecked_eq hkey, if_pos hclosed]
      exact ⟨none, rfl⟩
  · have hhashable : verifier.sdk.hashesProvenance = true →
        verifier.Addressed request deviceBaseId claims →
        (claims.field "base_identity_provenance").all Json.isHashable = true := by
      intro hhashes haddressed
      have := (addressed_iff.mp haddressed).2
      simpa [provenanceRaises, hhashes, this] using hraises
    -- the expiry is read last, of claims that entitle; only an infinite one raises
    by_cases hentitles : verifier.Entitles request deviceBaseId keyId claims
    · rw [claimsChecked_of_entitles hkey hentitles, expiryChecked]
      rw [and_iff_right hhashable, forall_prop_of_true hentitles]
      cases claims.field "exp" with
      | none => simp
      | some exp =>
        simp only [Option.map_some, Option.any_some]
        cases hint : intOf verifier.crypto.unicode exp with
        | overflow => simp [intOf_overflow.mp hint]
        | ok expiresAt =>
          refine iff_of_true ?_ (isInfinite_eq_false hint (by simp))
          simp only
          split_ifs <;> exact ⟨_, rfl⟩
        | refused => exact iff_of_true ⟨none, rfl⟩ (isInfinite_eq_false hint (by simp))
    · refine iff_of_true ?_ ⟨hhashable, fun h => absurd h hentitles⟩
      rw [claimsChecked_eq hkey]
      split_ifs with hclosed hmatch hnamed
      all_goals first
        | exact ⟨none, rfl⟩
        | exact absurd (entitles_iff.mpr ⟨hclosed, hmatch, hnamed⟩) hentitles

/-- A voucher is answered exactly where it can be read, with its provenance and its expiry. -/
theorem verifiedVoucher_answers
    (hkey : verifier.crypto.keyId request.operationalPublicKey = .ok keyId) :
    (∃ verified, verifier.verifiedVoucher deviceBaseId request = .ok verified) ↔
      verifier.VoucherReads request ∧ ∀ claims, verifier.IssuedVoucher request claims →
        (verifier.sdk.hashesProvenance = true → verifier.Addressed request deviceBaseId claims →
          (claims.field "base_identity_provenance").all Json.isHashable = true) ∧
        (verifier.Entitles request deviceBaseId keyId claims →
          (claims.field "exp").any isInfinite = false) := by
  constructor
  · rintro ⟨verified, hverified⟩
    have hreads := voucherReads_of_verifiedVoucher hverified
    refine ⟨hreads, fun claims hissued => (claimsChecked_answers hkey).mp ⟨verified, ?_⟩⟩
    rw [← verifiedVoucher_of_issued hreads hissued]
    exact hverified
  · rintro ⟨hreads, hclaims⟩
    by_cases hissued : ∃ claims, verifier.IssuedVoucher request claims
    · obtain ⟨claims, hissued⟩ := hissued
      rw [verifiedVoucher_of_issued hreads hissued]
      exact (claimsChecked_answers hkey).mpr (hclaims claims hissued)
    · push Not at hissued
      exact ⟨none, verifiedVoucher_of_not_issued hreads hissued⟩

/-! ### The verification -/

theorem verifiedVoucher_base {voucher : VerifiedCommissioning}
    (h : verifier.verifiedVoucher deviceBaseId request = .ok (some voucher)) :
    voucher.identity.deviceBaseId = deviceBaseId := by
  unfold verifiedVoucher claimsChecked expiryChecked at h
  repeat' split at h
  all_goals first
    | cases h; rfl
    | cases h

theorem verifiedContinuation_iff :
    (∃ verified, verifier.verifiedContinuation deviceBaseId request = some verified) ↔
      verifier.crypto.Signed request.operationalPublicKey (continuationDocument request deviceBaseId)
        request.proof := by
  rw [← Crypto.verifyP256Proof_iff]
  unfold verifiedContinuation continuationDocument
  dsimp only
  split_ifs with hsigned
  · exact iff_of_true ⟨_, rfl⟩ hsigned
  · simp [hsigned]

theorem verifiedContinuation_base {verified : VerifiedCommissioning}
    (h : verifier.verifiedContinuation deviceBaseId request = some verified) :
    verified.identity.deviceBaseId = deviceBaseId := by
  unfold verifiedContinuation at h
  dsimp only at h
  split at h
  · cases h
    rfl
  · cases h

theorem verifiedStanding_of_voucher {verified : Option VerifiedCommissioning}
    (h : verifier.verifiedVoucher deviceBaseId request = .ok verified) :
    verifier.verifiedStanding deviceBaseId request =
      .ok (verified.or (verifier.verifiedContinuation deviceBaseId request)) := by
  unfold verifiedStanding
  cases verified <;> simp [h]

/-- **Standing is found exactly where a voucher or a continuation proves it**, for the base id
it was asked about. -/
theorem verifiedStanding_iff
    (hkey : verifier.crypto.keyId request.operationalPublicKey = .ok keyId)
    {verified : Option VerifiedCommissioning}
    (h : verifier.verifiedStanding deviceBaseId request = .ok verified) :
    ((∃ found, verified = some found) ↔ verifier.ProvesStanding request deviceBaseId keyId) ∧
      ∀ found, verified = some found → found.identity.deviceBaseId = deviceBaseId := by
  cases hvoucher : verifier.verifiedVoucher deviceBaseId request with
  | error e => simp [verifiedStanding, hvoucher] at h
  | ok voucher =>
    unfold ProvesStanding
    rw [← verifiedVoucher_iff hkey hvoucher, ← verifiedContinuation_iff]
    rw [verifiedStanding_of_voucher hvoucher] at h
    cases h
    cases voucher with
    | none =>
      refine ⟨by simp, fun found hfound => ?_⟩
      rw [Option.none_or] at hfound
      exact verifiedContinuation_base hfound
    | some found =>
      refine ⟨by simp, fun found' hfound => ?_⟩
      cases hfound
      exact verifiedVoucher_base hvoucher

/-- **The verifier answers and finds exactly the base id that is proven**, where and only where
none of its parsers meets a value it raises on: a number or a text that cannot be canonicalised, a
nesting past the recursion limit, a provenance without a hash, an infinite expiry. -/
theorem verifiesExactly_iff (verifier : IssuedBaseIdentityVerifier) (request : CommissioningRequest)
    (keyId : KeyId) (hcanonicalizes : verifier.crypto.Canonicalizes)
    (hkey : verifier.crypto.keyId request.operationalPublicKey = .ok keyId) :
    verifier.VerifiesExactly request keyId ↔ verifier.Answers request keyId := by
  constructor
  -- an answer means that neither half raised, and each half says when that is
  · rintro ⟨result, hresult, -⟩
    unfold verify at hresult
    have hevidence : ∃ found, verifier.verifiedEvidence request = .ok found := by
      cases hfound : verifier.verifiedEvidence request with
      | ok found => exact ⟨found, rfl⟩
      | error e => simp [hfound] at hresult
    have hvoucher : ∀ deviceBaseId, verifier.ProvesPossession request deviceBaseId →
        ∃ verified, verifier.verifiedVoucher deviceBaseId request = .ok verified := by
      intro deviceBaseId hpossession
      obtain ⟨found, hfound⟩ := hevidence
      obtain rfl := (verifiedEvidence_iff hfound).mpr hpossession
      rw [hfound] at hresult
      cases hvoucher : verifier.verifiedVoucher deviceBaseId request with
      | ok verified => exact ⟨verified, rfl⟩
      | error e => simp [verifiedStanding, hvoucher] at hresult
    refine ⟨(verifiedEvidence_answers hcanonicalizes).mp hevidence, ?_, ?_, ?_⟩
    · intro deviceBaseId hpossession
      exact ((verifiedVoucher_answers hkey).mp (hvoucher _ hpossession)).1
    -- neither half raises; the answer is empty without evidence of possession, else it is the
    -- voucher's
    · intro hhashes deviceBaseId claims hpossession hissued
      exact (((verifiedVoucher_answers hkey).mp (hvoucher _ hpossession)).2 claims hissued).1 hhashes
    · intro deviceBaseId claims hpossession hissued
      exact (((verifiedVoucher_answers hkey).mp (hvoucher _ hpossession)).2 claims hissued).2
  · intro h
    obtain ⟨found, hfound⟩ := (verifiedEvidence_answers hcanonicalizes).mpr h.toEvidenceAnswers
    have hproven : ∀ deviceBaseId, verifier.ProvesPossession request deviceBaseId ↔
        found = some deviceBaseId := by
      intro deviceBaseId
      rw [verifiedEvidence_iff hfound]
    unfold VerifiesExactly verify
    rw [hfound]
    cases found with
    | none => exact ⟨none, rfl, fun deviceBaseId => by simp [hproven]⟩
    | some base =>
      have hpossession := (hproven base).mpr rfl
      obtain ⟨voucher, hvoucher⟩ := (verifiedVoucher_answers hkey).mpr
        ⟨h.voucher base hpossession, fun claims hissued =>
          ⟨fun hhashes => h.provenance hhashes base claims hpossession hissued,
            h.expiry base claims hpossession hissued⟩⟩
      have hstanding := verifiedStanding_of_voucher hvoucher
      obtain ⟨hiff, hbase⟩ := verifiedStanding_iff hkey hstanding
      refine ⟨_, hstanding, fun deviceBaseId => ?_⟩
      rw [hproven]
      constructor
      · rintro ⟨verified, hverified, rfl⟩
        obtain rfl := hbase verified hverified
        exact ⟨rfl, hiff.mp ⟨verified, hverified⟩⟩
      · rintro ⟨hsame, hproves⟩
        cases hsame
        obtain ⟨verified, hverified⟩ := hiff.mpr hproves
        exact ⟨verified, hverified, hbase verified hverified⟩

end IssuedBaseIdentityVerifier

/-! ### Two devices at the verifier

A deployment that canonicalises as RFC 8785 asks. The evidence of `"k"` names its base id by a
text, that of `"l"` by a number too large for a binary64, or by a text that no encoding holds. -/

namespace Exact

/-- The sample's primitives, with an RFC 8785 that refuses what it cannot represent. -/
def crypto : Crypto :=
  { Sample.crypto with
    rfc8785Dumps := fun value =>
      if value.representable then .ok (jcs value) else .error "the value cannot be represented" }

/-- The evidence of a key, with this base id. -/
def evidence (base : Json) (key : Spki) : Json := .obj [
  ("device_base_id", base), ("device_instance_id", .str ("device-" ++ key)),
  ("operational_public_key", .str key), ("profile_id", .str "profile")]

/-- What `json.loads` makes of `1e400`. -/
def infinity : Json := .float 0x7ff0000000000000

/-- The text of the second evidence, whose base id reads as an infinite number. -/
def hugeText : String :=
  "\x7b\"device_base_id\":1e400,\"device_instance_id\":\"device-l\"," ++
    "\"operational_public_key\":\"l\",\"profile_id\":\"profile\"\x7d"

/-- The same with a base id that is a surrogate standing alone. -/
def loneText : String :=
  "\x7b\"device_base_id\":\"\\ud800\",\"device_instance_id\":\"device-l\"," ++
    "\"operational_public_key\":\"l\",\"profile_id\":\"profile\"\x7d"

/-- It reads the three evidences, and nothing else. -/
def verifier : IssuedBaseIdentityVerifier where
  crypto := { crypto with
    jsonLoads := fun text =>
      if text = jcs (evidence (.str "lamp") "k") then some (evidence (.str "lamp") "k")
      else if text = hugeText then some (evidence infinity "l")
      else if text = loneText then some (evidence (.loneText "\\ud800") "l")
      else none }
  sdk := { Sample.sdk with
    baseIdentityEvidenceFields :=
      ["device_base_id", "device_instance_id", "operational_public_key", "profile_id"] }
  voucherSigningKey := []

/-- The device with this key continues with this evidence. -/
def request (text : String) (key : Spki) : CommissioningRequest where
  deviceInstanceId := "device-" ++ key
  ownerDomainId := "home"
  nonce := "nonce"
  proof := "signed"
  hardwareIdentityEvidence := ⟨"base-identity", text ++ ".signed", "sha256:" ++ text⟩
  operationalPublicKey := key
  nowUnix := 0

theorem canonicalizes : verifier.crypto.Canonicalizes := by
  intro value
  show (∃ text, (if value.representable = true then Except.ok (jcs value) else _) = Except.ok text) ↔ _
  split_ifs with h <;> simp [h]

end Exact

open IssuedBaseIdentityVerifier

/-- The first device is answered, and its base id found. -/
theorem verifiesExactly_lamp :
    (Exact.verifier.VerifiesExactly (Exact.request (jcs (Exact.evidence (.str "lamp") "k")) "k") "k" ↔
      Exact.verifier.Answers (Exact.request (jcs (Exact.evidence (.str "lamp") "k")) "k") "k") ∧
    Exact.verifier.verify (Exact.request (jcs (Exact.evidence (.str "lamp") "k")) "k") =
      .ok (some ⟨⟨"lamp"⟩, enrolledBaseKeyScheme, none, none⟩) :=
  ⟨verifiesExactly_iff _ _ _ Exact.canonicalizes rfl, by decide +kernel⟩

/-- **Either evidence of the second device raises.** -/
theorem evidence_raises : Exact.verifier.crypto.Canonicalizes ∧ ∀ text ∈ [Exact.hugeText, Exact.loneText],
    Exact.verifier.crypto.keyId (Exact.request text "l").operationalPublicKey = .ok "l" ∧
    Exact.verifier.verify (Exact.request text "l") = .error (.value "the value cannot be represented") ∧
    ¬ Exact.verifier.VerifiesExactly (Exact.request text "l") "l" := by
  have hraises : ∀ text ∈ [Exact.hugeText, Exact.loneText],
      Exact.verifier.verify (Exact.request text "l") =
        .error (.value "the value cannot be represented") := by decide +kernel
  refine ⟨Exact.canonicalizes, fun text htext => ⟨rfl, hraises text htext, ?_⟩⟩
  rintro ⟨result, hresult, -⟩
  rw [hraises text htext] at hresult
  cases hresult

end EidolonHub.Admission
