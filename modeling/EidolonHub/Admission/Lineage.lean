import EidolonHub.Admission.Identity

/-!
# EidolonHub.Admission.Lineage

**Which key a lineage belongs to.** Claim generations are counted under the
hardware identity, which is derived from the folded base id; a base id is bound
to its key as it was proven. Where no voucher is accepted for a base id that only
folds to a bound one, a hardware identity has one binding, and every Proposal and
grant of it is of that one key.
-/

namespace EidolonHub.Admission

open EidolonHub.Library EidolonHub.Library.Tx EidolonHub.Library.Python

namespace AdmissionAuthority

/-- Every enrollment by voucher that is not refused names a base id that is bound
already, or one that folds unlike every bound one. -/
def FoldsApart (authority : AdmissionAuthority) (t : Tables) : Request → Prop
  | .command (.createEnrollment _ _ payload) draws =>
    ¬ Refused authority t payload draws.now → ∀ enrolled,
      authority.verifyEnrollment payload draws.now = .ok enrolled →
      enrolled.verified.scheme = voucherScheme → ∀ b ∈ t.baseIdentities,
        canonicalBaseId authority.crypto b.deviceBaseId =
          canonicalBaseId authority.crypto enrolled.verified.identity.deviceBaseId →
        b.deviceBaseId = enrolled.verified.identity.deviceBaseId
  | _ => True

/-- All that is recorded of one hardware identity is of one operational key. -/
structure OneKey (t : Tables) : Prop where
  bindings : ∀ b ∈ t.baseIdentities, ∀ b' ∈ t.baseIdentities,
    b.hardwareIdentityRef = b'.hardwareIdentityRef → b.operationalKeyId = b'.operationalKeyId
  proposals : ∀ p ∈ t.proposals, ∀ b ∈ t.baseIdentities,
    p.hardwareIdentityRef = b.hardwareIdentityRef → p.operationalKeyId = b.operationalKeyId
  grants : ∀ g ∈ t.grants, ∀ b ∈ t.baseIdentities,
    g.hardwareIdentityRef = b.hardwareIdentityRef → g.operationalKeyId = b.operationalKeyId

/-- Bound base ids fold apart. -/
def Apart (authority : AdmissionAuthority) (t : Tables) : Prop :=
  ∀ b ∈ t.baseIdentities, ∀ b' ∈ t.baseIdentities,
    canonicalBaseId authority.crypto b.deviceBaseId =
      canonicalBaseId authority.crypto b'.deviceBaseId → b = b'

variable {authority : AdmissionAuthority} {t : Tables}

/-- An enrollment that commits was not refused. -/
theorem Enrolls.not_refused {request : Request} {payload : CreateEnrollment}
    {enrolled : VerifiedEnrollment} {draws : Draws}
    (h : Enrolls authority t request payload enrolled draws) :
    ¬ Refused authority t payload draws.now := by
  obtain ⟨commandId, correlationId, fp, r, hrequest, -⟩ := h.commits
  intro hrefused
  obtain ⟨hnew, ⟨p, hp, -⟩, -⟩ := h.proposals
  rw [hrequest, next_of_refused hrefused] at hp
  rw [hp] at hnew
  cases hnew

/-- Enrollments that fold apart keep the bound base ids apart. -/
theorem next_apart {request : Request} (ht : Apart authority t)
    (hfolds : FoldsApart authority t request) : Apart authority (authority.next t request) := by
  rcases next_cases authority t request with ⟨payload, enrolled, draws, h⟩ | ⟨-, hsame, -⟩
  · by_cases hscheme : enrolled.verified.scheme = voucherScheme
    · obtain ⟨-, -, ⟨hsame, -⟩ | hinsert⟩ := h.voucher hscheme
      · unfold Apart
        rwa [hsame]
      · -- the new binding folds unlike all before it
        have hnew : ∀ b ∈ t.baseIdentities, canonicalBaseId authority.crypto b.deviceBaseId ≠
            canonicalBaseId authority.crypto enrolled.verified.identity.deviceBaseId := by
          intro b hb heq
          obtain ⟨commandId, correlationId, fp, r, hrequest, -⟩ := h.commits
          subst hrequest
          exact Table.get_eq_none_iff.mp
            (Table.fresh_of_insert hinsert baseIdentity_deviceBaseId_isKey) b hb
            (hfolds h.not_refused enrolled h.verified hscheme b hb heq)
        intro b hb b' hb' heq
        rcases (Table.mem_insert hinsert).mp hb with hb | rfl <;>
          rcases (Table.mem_insert hinsert).mp hb' with hb' | rfl
        · exact ht b hb b' hb' heq
        · exact absurd heq (hnew b hb)
        · exact absurd heq.symm (hnew b' hb')
        · rfl
    · unfold Apart
      rwa [(h.continuation hscheme).2.1]
  · unfold Apart
    rwa [hsame]

theorem apart_empty : Apart authority .empty := by simp [Apart, Tables.empty]

/-- A grant is made for the key and the hardware identity of its Proposal. -/
theorem grant_proposal (h : t.registry.Sound authority) {g : GrantRow} (hg : g ∈ t.grants) :
    ∃ p ∈ t.proposals, g.operationalKeyId = p.operationalKeyId ∧
      g.hardwareIdentityRef = p.hardwareIdentityRef := by
  obtain ⟨p, d, hp, -, -, hgranted⟩ :=
    (h.legal g.enrollmentId).granted (Tables.hasGrant_iff.mpr hg)
  exact ⟨p, (Tables.proposal_of_dossier hp).1, hgranted.approval.operationalKeyId,
    hgranted.approval.hardwareIdentityRef⟩

/-- **A lineage belongs to one key** where enrollments fold apart. -/
theorem lineage_one_key (hinj : Function.Injective authority.crypto.sha256)
    (requests : List Request)
    (hfolds : Along authority.next (FoldsApart authority) .empty requests) :
    OneKey (run authority.next .empty requests) := by
  have hreach : Reachable authority (run authority.next .empty requests) := ⟨requests, rfl⟩
  have hids := reachable_identified hreach
  have hapart : Apart authority (run authority.next .empty requests) :=
    run_inv_along (I := Apart authority) (fun _ _ => next_apart) apart_empty hfolds
  -- with a digest that does not collide, a hardware identity has one binding
  have hone : ∀ b ∈ (run authority.next .empty requests).baseIdentities,
      ∀ b' ∈ (run authority.next .empty requests).baseIdentities,
      b.hardwareIdentityRef = b'.hardwareIdentityRef → b = b' := by
    intro b hb b' hb' heq
    refine hapart b hb b' hb' (deriveHardwareIdentityRef_inj hinj (hids.derived b hb) ?_)
    rw [heq]
    exact hids.derived b' hb'
  have hproposals : ∀ p ∈ (run authority.next .empty requests).proposals,
      ∀ b ∈ (run authority.next .empty requests).baseIdentities,
      p.hardwareIdentityRef = b.hardwareIdentityRef → p.operationalKeyId = b.operationalKeyId := by
    intro p hp b hb heq
    obtain ⟨b', hb', hkey, hidentity⟩ :=
      (hids.proposals p.enrollmentId p (Tables.hasProposal_iff.mpr hp)).binding
    rw [← hkey, hone b' hb' b hb (hidentity.trans heq)]
  refine ⟨fun b hb b' hb' heq => by rw [hone b hb b' hb' heq], hproposals, ?_⟩
  intro g hg b hb heq
  obtain ⟨p, hp, hkey, hidentity⟩ := grant_proposal (reachable_sound hreach) hg
  rw [hkey]
  exact hproposals p hp b hb (hidentity.symm.trans heq)

/-- Two devices enroll under base ids that fold apart. -/
theorem lineage_one_key_apart :
    Function.Injective Sample.authority.crypto.sha256 ∧
    Along Sample.authority.next (FoldsApart Sample.authority) .empty
      [Sample.create "a" "k", Sample.create "b" "l"] ∧
    OneKey (Sample.after [Sample.create "a" "k", Sample.create "b" "l"]) := by
  have hinj : Function.Injective Sample.authority.crypto.sha256 := fun _ _ => id
  have hfolds : Along Sample.authority.next (FoldsApart Sample.authority) .empty
      [Sample.create "a" "k", Sample.create "b" "l"] := by
    have hbound : ∀ b ∈ (Sample.after [Sample.create "a" "k"]).baseIdentities,
        canonicalBaseId Sample.crypto b.deviceBaseId ≠ canonicalBaseId Sample.crypto "base-l" := by
      decide +kernel
    refine ⟨?_, ?_, trivial⟩
    · intro _ _ _ _ b hb
      simp [Tables.empty] at hb
    · intro _ enrolled h _ b hb heq
      have hbase : enrolled.verified.identity.deviceBaseId = "base-l" := by
        have := verifyCommissioning_ok (verifyEnrollment_ok h).2.2.1
        simp only [Sample.authority, Except.ok.injEq, Option.some.injEq] at this
        rw [← this]
        decide
      rw [hbase] at heq
      exact absurd heq (hbound b hb)
  exact ⟨hinj, hfolds, lineage_one_key hinj _ hfolds⟩

end AdmissionAuthority

/-! ### Two spellings of one base id

A deployment with the verifier of issued base identities, whose documents are
looked up by their text: the text of a key is also the text of its evidence and of
the claims of its voucher. -/

namespace Issued

/-- The base id the evidence and the voucher of a key name. -/
def baseIdOf (key : String) : DeviceBaseId := if key = "k" then "Lamp" else "lamp"

/-- The evidence document of the device with this key. -/
def evidenceOf (key : String) : Json := .obj [
  ("device_base_id", .str (baseIdOf key)), ("device_instance_id", .str ("device-" ++ key)),
  ("operational_public_key", .str key), ("profile_id", .str "profile")]

/-- The claims of the voucher of the device with this key. -/
def claimsOf (key : String) : Json := .obj [
  ("purpose", .str "commissioning"), ("owner_domain_id", .str "home"),
  ("device_base_id", .str (baseIdOf key)), ("base_identity_provenance", .str "minted"),
  ("jti", .str ("voucher-" ++ key)), ("operational_spki_sha256", .str key), ("exp", .int 60)]

/-- A text in ASCII as its bytes. -/
def bytes (text : String) : Bytes := text.toList.map fun c => c.toNat.toUInt8

/-- Primitives that find the two documents in the texts of the example. -/
def crypto : Crypto :=
  { Sample.crypto with
    hmacSha256 := fun _ _ => bytes "s"
    b64urlDecode := fun text => some (bytes text)
    jsonLoads := fun text => some (evidenceOf text)
    jsonLoadsBytes := fun text =>
      some (if text = bytes "k" then claimsOf "k" else if text = bytes "l" then claimsOf "l" else .null)
    rfc8785Dumps := fun document =>
      .ok (if document.fieldIs "operational_public_key" "k" then "k"
        else if document.fieldIs "operational_public_key" "l" then "l" else "{}") }

/-- The closed schemas of the two documents. -/
def sdk : Sdk :=
  { Sample.sdk with
    baseIdentityEvidenceFields :=
      ["device_base_id", "device_instance_id", "operational_public_key", "profile_id"]
    commissioningVoucherClaimNames := ["purpose", "owner_domain_id", "device_base_id",
      "base_identity_provenance", "jti", "operational_spki_sha256", "exp"] }

/-- An Authority that checks vouchers as the Hub issues them. -/
def authority : AdmissionAuthority :=
  { Sample.authority with crypto := crypto, sdk := sdk }.issuing []

/-- The device with this key enrolls as `e`, with its evidence and its voucher. -/
def create (e : EnrollmentId) (key : Spki) : Request :=
  .command (.createEnrollment ("create-" ++ e) e
      { requestedOwnerDomainId := "home"
        deviceInstanceCandidateId := "device-" ++ key
        hardwareIdentityEvidence := ⟨"base-identity", key ++ ".signed", "sha256:" ++ key ++ ".signed"⟩
        operationalKey := key
        handoffKey := "handoff"
        commissioningProof := ⟨voucherScheme, "voucher-" ++ key, "h." ++ key ++ ".s"⟩
        manifest := Sample.manifest })
    { now := 0, enrollmentId := e, eventId := "created-" ++ e, challenge := "challenge" }

/-- Two devices whose base ids differ by a capital letter are enrolled and approved. -/
def spellings : Tables := run authority.next .empty
  [create "a" "k", Sample.decide "a" .approve, create "b" "l", Sample.decide "b" .approve]

end Issued

/-- Two keys hold bindings of one hardware identity, and the second one got a grant
that uses up a generation of its lineage. -/
theorem lineage_two_keys : Function.Injective Issued.authority.crypto.sha256 ∧
    Reachable Issued.authority Issued.spellings ∧ ∃ b ∈ Issued.spellings.baseIdentities, ∃ b' ∈ Issued.spellings.baseIdentities,
    ∃ g ∈ Issued.spellings.grants, b.hardwareIdentityRef = b'.hardwareIdentityRef ∧
      b.operationalKeyId = "k" ∧ b'.operationalKeyId = "l" ∧
      g.hardwareIdentityRef = b.hardwareIdentityRef ∧ g.operationalKeyId = "l" ∧
      g.claimGeneration = 2 := by
  refine ⟨fun _ _ => id, ⟨_, rfl⟩, ?_⟩
  decide +kernel

end EidolonHub.Admission
