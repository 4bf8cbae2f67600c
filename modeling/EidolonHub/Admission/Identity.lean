import EidolonHub.Admission.Invariants
import EidolonHub.Admission.Writes

/-!
# EidolonHub.Admission.Identity

**Which key is which hardware.** An enrollment either spends a voucher, which may
bind the base identity it names to the operational key it was issued for, or
continues under a binding that is there already. Bindings are never rewritten,
so a base identity and its key stay with each other, and every Proposal is made
under the binding of its key.

The binding is kept under the base id as it was proven, while a lineage is
counted under the hardware identity derived from its folded form. Two base ids
that fold to one text are therefore two bindings of one lineage; where vouchers
never name such a pair, a lineage belongs to one key.
-/

namespace EidolonHub.Admission

open EidolonHub.Library EidolonHub.Library.Tx EidolonHub.Library.Python

namespace AdmissionAuthority

/-! ### Enrollments -/

/-- The request is an enrollment that commits, with this payload, verification and draws. -/
structure Enrolls (authority : AdmissionAuthority) (t : Tables) (request : Request)
    (payload : CreateEnrollment) (enrolled : VerifiedEnrollment) (draws : Draws) : Prop where
  verified : authority.verifyEnrollment payload draws.now = .ok enrolled
  commits : ∃ commandId correlationId fp r,
    request = .command (.createEnrollment commandId correlationId payload) draws ∧
      payload.requestedOwnerDomainId = authority.ownerDomainId ∧
      Commits (authority.createInSession commandId correlationId payload enrolled fp draws) t r
        (authority.next t request)

/-- Spending this voucher, as the enrollment that presents it records it. -/
def voucherFor (enrolled : VerifiedEnrollment) (expiresAt now : Timestamp) :
    CommissioningVoucherRow where
  jti := jtiText enrolled.verified
  deviceBaseId := enrolled.verified.identity.deviceBaseId
  operationalKeyId := enrolled.operationalKeyId
  expiresAt := expiresAt
  consumedAt := now

variable {authority : AdmissionAuthority} {t t' : Tables} {payload : CreateEnrollment}
  {enrolled : VerifiedEnrollment} {draws : Draws} {request : Request}

/-- An enrollment commits or leaves the database alone. -/
theorem next_create (authority : AdmissionAuthority) (t : Tables) (commandId : CommandId)
    (correlationId : CorrelationId) (payload : CreateEnrollment) (draws : Draws) :
    authority.next t (.command (.createEnrollment commandId correlationId payload) draws) = t ∨
    ∃ enrolled, Enrolls authority t
      (.command (.createEnrollment commandId correlationId payload) draws) payload enrolled draws := by
  rcases next_command_cases authority t (.createEnrollment commandId correlationId payload) draws with
    ⟨r, h⟩ | h
  · obtain ⟨fp, hfp, hsession⟩ := command_commits h
    simp only [Command.session, createEnrollment, commits_lift_bind] at hsession
    obtain ⟨enrolled, hverified, hsession⟩ := hsession
    rcases once_commits hsession with ⟨hsame, -⟩ | ⟨-, hbody⟩
    · exact .inl hsame
    · exact .inr ⟨enrolled, hverified, commandId, correlationId, fp, r, rfl,
        createAuthorized_ok hfp, hbody⟩
  · exact .inl h

/-- A voucher is spent once, and binds its base identity unless that is bound to
the same key already. -/
theorem establishStanding_voucher {now : Timestamp} {u : Unit}
    (hscheme : enrolled.verified.scheme = voucherScheme)
    (h : Commits (establishStanding payload enrolled now) t u t') :
    ∃ expiresAt x, t.vouchers.insert? (voucherFor enrolled expiresAt now) = some x ∧
      ((t' = { t with vouchers := x } ∧
        ∃ b ∈ t.baseIdentities, b.deviceBaseId = enrolled.verified.identity.deviceBaseId ∧
          b.operationalKeyId = enrolled.operationalKeyId) ∨
      ∃ y, t.baseIdentities.insert? (bindingFor payload enrolled now) = some y ∧
        t' = { t with vouchers := x, baseIdentities := y }) := by
  unfold establishStanding at h
  simp only [hscheme, ↓reduceIte] at h
  simp only [consumeCommissioningVoucher, bindBaseIdentity, baseIdentity, baseIdentityForKey,
    commits_bind, commits_lift, commits_read, commits_raiseIf, commits_add, and_assoc,
    exists_and_left, exists_eq_left, exists_unit] at h
  obtain ⟨expiresAt, -, -, _, ⟨x, hx, rfl⟩, h⟩ := h
  refine ⟨expiresAt, x, hx, ?_⟩
  cases hget : t.baseIdentities.get (·.deviceBaseId) (bindingFor payload enrolled now).deviceBaseId with
  | some b =>
    simp only [hget, commits_raiseIf, not_not] at h
    exact .inl ⟨h.2, b, Table.get_mem hget, Table.get_key hget, h.1⟩
  | none =>
    simp only [hget, commits_bind, commits_read, commits_raiseIf, commits_add, and_assoc,
      exists_and_left, exists_eq_left, exists_unit] at h
    obtain ⟨-, y, hy, rfl⟩ := h
    exact .inr ⟨y, hy, rfl⟩

/-- A continuation changes nothing and continues a binding. -/
theorem establishStanding_continuation {now : Timestamp} {u : Unit}
    (hscheme : enrolled.verified.scheme ≠ voucherScheme)
    (h : Commits (establishStanding payload enrolled now) t u t') :
    t' = t ∧ t.requiresFreshPresence payload.requestedOwnerDomainId enrolled.identityRef = false ∧
    ∃ b ∈ t.baseIdentities, b.deviceBaseId = enrolled.verified.identity.deviceBaseId ∧
      b.ownerDomainId = payload.requestedOwnerDomainId ∧
      b.operationalKeyId = enrolled.operationalKeyId ∧
      b.hardwareIdentityRef = enrolled.identityRef := by
  unfold establishStanding at h
  simp only [hscheme, ↓reduceIte] at h
  simp only [baseIdentity, requiresFreshPresence, commits_bind, commits_read, commits_demand,
    commits_raiseIf, and_assoc, exists_and_left, exists_eq_left, exists_unit] at h
  obtain ⟨b, hb, hmatch, hfresh, rfl⟩ := h
  simp only [not_or, not_not] at hmatch
  exact ⟨rfl, by simpa using hfresh, b, Table.get_mem hb, Table.get_key hb, hmatch.1, hmatch.2.1,
    hmatch.2.2⟩

theorem orInvalid_ok {α : Type} {x : Except String α} {a : α} :
    orInvalid x = .ok a ↔ x = .ok a := by
  cases x <;> simp [orInvalid]

/-- Bindings and spent vouchers are written by `establishStanding` only. -/
theorem standingUnchanged :
    StoreWithin (SameOn fun t : Tables => (t.baseIdentities, t.vouchers)) :=
  .of_frames (fun _ _ => rfl) (fun _ _ => rfl) (fun _ _ => rfl) (fun _ _ => rfl) (fun _ _ => rfl)
    (fun _ _ => rfl) (fun _ _ => rfl) (fun _ _ => rfl)
    (fun _ _ _ _ => StoreWithin.within_add fun _ _ _ => rfl)
    fun _ _ _ => StoreWithin.within_addOutbox (fun _ _ => rfl) fun _ _ => rfl

/-- What `verify_enrollment` computed. -/
theorem verifyEnrollment_ok {now : Timestamp}
    (h : authority.verifyEnrollment payload now = .ok enrolled) :
    authority.crypto.keyId payload.operationalKey = .ok enrolled.operationalKeyId ∧
    authority.crypto.deriveDeviceInstanceId payload.operationalKey =
      .ok payload.deviceInstanceCandidateId ∧
    authority.verifyCommissioning payload now = .ok enrolled.verified ∧
    deriveHardwareIdentityRef authority.crypto enrolled.verified.identity.deviceBaseId =
      .ok enrolled.identityRef := by
  unfold verifyEnrollment at h
  simp only at h
  split at h
  · cases h
  obtain ⟨handoffKeyId, -, h⟩ := except_bind_ok.mp h
  obtain ⟨operationalKeyId, hkey, h⟩ := except_bind_ok.mp h
  obtain ⟨expectedInstanceId, hinstance, h⟩ := except_bind_ok.mp h
  split at h
  · cases h
  next hcandidate =>
  obtain ⟨verified, hverified, h⟩ := except_bind_ok.mp h
  obtain ⟨identityRef, hidentity, h⟩ := except_bind_ok.mp h
  split at h
  · cases h
  split at h
  · cases h
  cases h
  rw [not_not.mp hcandidate]
  exact ⟨orInvalid_ok.mp hkey, orInvalid_ok.mp hinstance, hverified, orInvalid_ok.mp hidentity⟩

/-! ### What an enrollment changes -/

/-- Moves that enroll nothing leave the Proposals that were on file. -/
theorem proposals_of_follows {s s' : Registry} {moves : List Move}
    (h : Registry.Follows authority s moves s') (hno : ∀ m ∈ moves, ∀ p, m ≠ .enroll p)
    {e : EnrollmentId} {p' : ProposalRow} (hp' : (s'.dossier e).proposal = some p') :
    ∃ p, (s.dossier e).proposal = some p ∧ p.Later p' := by
  refine h.inv_of (I := fun s' => ∀ p', (s'.dossier e).proposal = some p' →
    ∃ p, (s.dossier e).proposal = some p ∧ p.Later p') ?_ hno (fun p h => ⟨p, h, .refl p⟩) p' hp'
  intro s₁ m hs₁ hm hno p' hp'
  rcases Registry.proposal_apply hm hp' with ⟨p₁, hp₁, hlater⟩ | ⟨henroll, -⟩
  · obtain ⟨p, hp, hlater₁⟩ := hs₁ p₁ hp₁
    exact ⟨p, hp, hlater₁.trans hlater⟩
  · exact absurd henroll (hno p')

namespace Enrolls

/-- An enrollment by voucher spends it, and binds its base identity unless that is
bound to the key already. -/
theorem voucher (h : Enrolls authority t request payload enrolled draws)
    (hscheme : enrolled.verified.scheme = voucherScheme) :
    ∃ expiresAt, t.vouchers.insert? (voucherFor enrolled expiresAt draws.now) =
        some (authority.next t request).vouchers ∧
      (((authority.next t request).baseIdentities = t.baseIdentities ∧
        ∃ b ∈ t.baseIdentities, b.deviceBaseId = enrolled.verified.identity.deviceBaseId ∧
          b.operationalKeyId = enrolled.operationalKeyId) ∨
      t.baseIdentities.insert? (bindingFor payload enrolled draws.now) =
        some (authority.next t request).baseIdentities) := by
  obtain ⟨commandId, correlationId, fp, r, -, -, hsession⟩ := h.commits
  obtain ⟨t₁, hstanding, hrest⟩ := standingUnchanged.createInSession hsession
  obtain ⟨hbindings, hvouchers⟩ := Prod.mk.inj hrest
  obtain ⟨expiresAt, x, hx, ⟨rfl, hb⟩ | ⟨y, hy, rfl⟩⟩ := establishStanding_voucher hscheme hstanding
  · exact ⟨expiresAt, by rw [hvouchers]; exact hx, .inl ⟨hbindings, hb⟩⟩
  · exact ⟨expiresAt, by rw [hvouchers]; exact hx, .inr (by rw [hbindings]; exact hy)⟩

/-- A continuation is made under a binding of its key and changes none. -/
theorem continuation (h : Enrolls authority t request payload enrolled draws)
    (hscheme : enrolled.verified.scheme ≠ voucherScheme) :
    (authority.next t request).vouchers = t.vouchers ∧
    (authority.next t request).baseIdentities = t.baseIdentities ∧
    ∃ b ∈ t.baseIdentities, b.operationalKeyId = enrolled.operationalKeyId ∧
      b.hardwareIdentityRef = enrolled.identityRef := by
  obtain ⟨commandId, correlationId, fp, r, -, -, hsession⟩ := h.commits
  obtain ⟨t₁, hstanding, hrest⟩ := standingUnchanged.createInSession hsession
  obtain ⟨hbindings, hvouchers⟩ := Prod.mk.inj hrest
  obtain ⟨rfl, -, b, hb, -, -, hkey, hidentity⟩ := establishStanding_continuation hscheme hstanding
  exact ⟨hvouchers, hbindings, b, hb, hkey, hidentity⟩

/-- The Proposals an enrollment leaves: its own, which is new, and those on file. -/
theorem proposals (h : Enrolls authority t request payload enrolled draws) :
    (t.registry.dossier draws.enrollmentId).proposal = none ∧
    (∃ p, ((authority.next t request).registry.dossier draws.enrollmentId).proposal = some p ∧
      (authority.proposalFor payload enrolled draws).Later p) ∧
    ∀ e p', e ≠ draws.enrollmentId →
      ((authority.next t request).registry.dossier e).proposal = some p' →
        ∃ p, (t.registry.dossier e).proposal = some p ∧ p.Later p' := by
  obtain ⟨commandId, correlationId, fp, r, -, hdomain, hsession⟩ := h.commits
  have hfollows := createInSession_follows hdomain hsession
  -- after its first move the enrollment only rewrites what it enrolled
  have henrolled : ∃ s moves, s = t.registry.withProposal (authority.proposalFor payload enrolled
      draws) ∧ (t.registry.dossier draws.enrollmentId).proposal = none ∧
      Registry.Follows authority s moves (authority.next t request).registry ∧
      ∀ m ∈ moves, ∀ p, m ≠ .enroll p := by
    rcases hfollows with hone | ⟨t₁, actor, owner, -, htwo⟩
    · exact ⟨_, [], rfl, hone.1.1.1, ⟨trivial, hone.2⟩, by simp⟩
    · refine ⟨_, [_], rfl, htwo.1.1.1, ⟨htwo.1.2, htwo.2⟩, ?_⟩
      simp [decisionMove]
  obtain ⟨s, moves, rfl, hnew, hmoves, hno⟩ := henrolled
  refine ⟨hnew, ?_, ?_⟩
  · refine hmoves.inv (I := fun s => ∃ p, (s.dossier draws.enrollmentId).proposal = some p ∧
      (authority.proposalFor payload enrolled draws).Later p) ?_
      ⟨_, by simp [proposalFor], .refl _⟩
    rintro s m ⟨p, hp, hlater⟩ hm
    obtain ⟨p', hp', hlater'⟩ := Registry.proposal_kept hm hp
    exact ⟨p', hp', hlater.trans hlater'⟩
  · intro e p' hne hp'
    obtain ⟨p, hp, hlater⟩ := proposals_of_follows hmoves hno hp'
    refine ⟨p, ?_, hlater⟩
    simpa [proposalFor, hne] using hp

end Enrolls

/-- Where a request is no enrollment, every Proposal was on file before. -/
theorem proposals_of_not_create (t : Tables)
    (hcreate : ∀ commandId correlationId payload draws, request ≠
      .command (.createEnrollment commandId correlationId payload) draws) {e : EnrollmentId}
    {p' : ProposalRow} (h : ((authority.next t request).registry.dossier e).proposal = some p') :
    ∃ p, (t.registry.dossier e).proposal = some p ∧ p.Later p' := by
  obtain ⟨moves, hmakes, hfollows⟩ := next_makes authority t request
  refine proposals_of_follows hfollows ?_ h
  rintro m hm p rfl
  have := hmakes _ hm
  cases request with
  | command cmd draws =>
    cases cmd with
    | createEnrollment => exact hcreate _ _ _ _ rfl
    | _ => simp [Request.makes] at this
  | _ => simp [Request.makes] at this

/-- A request enrolls, or leaves bindings, spent vouchers and the bodies of all
Proposals alone. -/
theorem next_cases (authority : AdmissionAuthority) (t : Tables) (request : Request) :
    (∃ payload enrolled draws, Enrolls authority t request payload enrolled draws) ∨
    ((authority.next t request).vouchers = t.vouchers ∧
      (authority.next t request).baseIdentities = t.baseIdentities ∧
      ∀ e p', ((authority.next t request).registry.dossier e).proposal = some p' →
        ∃ p, (t.registry.dossier e).proposal = some p ∧ p.Later p') := by
  by_cases hcreate : ∃ commandId correlationId payload draws,
      request = .command (.createEnrollment commandId correlationId payload) draws
  · obtain ⟨commandId, correlationId, payload, draws, rfl⟩ := hcreate
    rcases next_create authority t commandId correlationId payload draws with hsame | ⟨enrolled, h⟩
    · rw [hsame]
      exact .inr ⟨rfl, rfl, fun e p hp => ⟨p, hp, .refl p⟩⟩
    · exact .inl ⟨payload, enrolled, draws, h⟩
  · have hne : ∀ commandId correlationId payload draws, request ≠
        .command (.createEnrollment commandId correlationId payload) draws :=
      fun _ _ _ _ heq => hcreate ⟨_, _, _, _, heq⟩
    obtain ⟨hbindings, hvouchers⟩ := Prod.mk.inj (standingUnchanged.next_of_not_create t hne)
    exact .inr ⟨hvouchers, hbindings, fun e p' hp' => proposals_of_not_create t hne hp'⟩

/-! ### Bindings and Proposals -/

/-- **No binding is ever changed or removed.** -/
theorem binding_kept (authority : AdmissionAuthority) (request : Request) {b : BaseIdentityRow}
    (hb : b ∈ t.baseIdentities) : b ∈ (authority.next t request).baseIdentities := by
  rcases next_cases authority t request with ⟨payload, enrolled, draws, h⟩ | ⟨-, hsame, -⟩
  · by_cases hscheme : enrolled.verified.scheme = voucherScheme
    · obtain ⟨-, -, ⟨hsame, -⟩ | hinsert⟩ := h.voucher hscheme
      · rwa [hsame]
      · exact (Table.mem_insert hinsert).mpr (.inl hb)
    · rwa [(h.continuation hscheme).2.1]
  · rwa [hsame]

/-- A spent voucher stays spent. -/
theorem voucher_kept (authority : AdmissionAuthority) (request : Request)
    {v : CommissioningVoucherRow} (hv : v ∈ t.vouchers) :
    v ∈ (authority.next t request).vouchers := by
  rcases next_cases authority t request with ⟨payload, enrolled, draws, h⟩ | ⟨hsame, -, -⟩
  · by_cases hscheme : enrolled.verified.scheme = voucherScheme
    · obtain ⟨expiresAt, hinsert, -⟩ := h.voucher hscheme
      exact (Table.mem_insert hinsert).mpr (.inl hv)
    · rwa [(h.continuation hscheme).1]
  · rwa [hsame]

/-- The Proposal names its key and device as they are derived, and is made under the
binding of that key. -/
structure Bound (authority : AdmissionAuthority) (t : Tables) (p : ProposalRow) : Prop where
  keyId : authority.crypto.keyId p.operationalPublicKeySpki = .ok p.operationalKeyId
  instanceId : authority.crypto.deriveDeviceInstanceId p.operationalPublicKeySpki =
    .ok p.deviceInstanceId
  binding : ∃ b ∈ t.baseIdentities, b.operationalKeyId = p.operationalKeyId ∧
    b.hardwareIdentityRef = p.hardwareIdentityRef

theorem Bound.later {p p' : ProposalRow} (h : Bound authority t p) (hlater : p.Later p')
    (hkept : ∀ b ∈ t.baseIdentities, b ∈ t'.baseIdentities) : Bound authority t' p' := by
  obtain ⟨b, hb, hbinding⟩ := h.binding
  rw [hlater.same]
  exact ⟨h.keyId, h.instanceId, b, hkept b hb, hbinding⟩

/-- No two keys have one device instance id: a device instance names its key. -/
def InstanceNamesKey (crypto : Crypto) : Prop :=
  ∀ k k' i, crypto.deriveDeviceInstanceId k = .ok i → crypto.deriveDeviceInstanceId k' = .ok i →
    crypto.keyId k = crypto.keyId k'

theorem sample_instanceNamesKey : InstanceNamesKey Sample.crypto := by
  intro k k' i hk hk'
  have heq : "device-" ++ k = "device-" ++ k' := by
    simpa [Sample.crypto] using hk.trans hk'.symm
  have htext := congrArg String.toList heq
  simp only [String.toList_append, List.append_cancel_left_eq] at htext
  rw [String.toList_inj.mp htext]

/-- The bindings carry the hardware identity of their base id, the Proposals a binding. -/
structure Identified (authority : AdmissionAuthority) (t : Tables) : Prop where
  derived : ∀ b ∈ t.baseIdentities,
    deriveHardwareIdentityRef authority.crypto b.deviceBaseId = .ok b.hardwareIdentityRef
  proposals : ∀ e p, (t.registry.dossier e).proposal = some p → Bound authority t p

/-- Two bindings of one base id, or of one key, are one. -/
theorem binding_unique {b b' : BaseIdentityRow} (hb : b ∈ t.baseIdentities)
    (hb' : b' ∈ t.baseIdentities)
    (h : b.deviceBaseId = b'.deviceBaseId ∨ b.operationalKeyId = b'.operationalKeyId) : b = b' :=
  h.elim (Table.eq_of_key baseIdentity_deviceBaseId_isKey hb hb')
    (Table.eq_of_key baseIdentity_operationalKeyId_isKey hb hb')

/-- An enrollment leaves a binding of its key that carries the identity it verified. -/
theorem Enrolls.binding (h : Enrolls authority t request payload enrolled draws)
    (ht : Identified authority t) :
    ∃ b ∈ (authority.next t request).baseIdentities,
      b.operationalKeyId = enrolled.operationalKeyId ∧
      b.hardwareIdentityRef = enrolled.identityRef := by
  by_cases hscheme : enrolled.verified.scheme = voucherScheme
  · obtain ⟨-, -, ⟨hsame, b, hb, hbase, hkey⟩ | hinsert⟩ := h.voucher hscheme
    · refine ⟨b, hsame ▸ hb, hkey, ?_⟩
      have hidentity := (verifyEnrollment_ok h.verified).2.2.2
      rw [← hbase, ht.derived b hb] at hidentity
      exact Except.ok.inj hidentity
    · exact ⟨_, (Table.mem_insert hinsert).mpr (.inr rfl), rfl, rfl⟩
  · obtain ⟨-, hsame, b, hb, hbinding⟩ := h.continuation hscheme
    exact ⟨b, hsame ▸ hb, hbinding⟩

theorem next_identified (request : Request) (ht : Identified authority t) :
    Identified authority (authority.next t request) := by
  have hkept : ∀ b ∈ t.baseIdentities, b ∈ (authority.next t request).baseIdentities :=
    fun _ => binding_kept authority request
  rcases next_cases authority t request with ⟨payload, enrolled, draws, h⟩ | ⟨-, hsame, hold⟩
  · obtain ⟨hkey, hinstance, -, hidentity⟩ := verifyEnrollment_ok h.verified
    constructor
    · intro b hb
      by_cases hscheme : enrolled.verified.scheme = voucherScheme
      · obtain ⟨-, -, ⟨hsame, -⟩ | hinsert⟩ := h.voucher hscheme
        · exact ht.derived b (hsame ▸ hb)
        · rcases (Table.mem_insert hinsert).mp hb with hb | rfl
          · exact ht.derived b hb
          · exact hidentity
      · exact ht.derived b ((h.continuation hscheme).2.1 ▸ hb)
    · intro e p' hp'
      obtain ⟨-, ⟨q, hq, hlater⟩, hold⟩ := h.proposals
      by_cases he : e = draws.enrollmentId
      · obtain rfl : q = p' := by simpa [he, hq] using hp'
        exact Bound.later ⟨hkey, hinstance, h.binding ht⟩ hlater fun _ => id
      · obtain ⟨p, hp, hlater⟩ := hold e p' he hp'
        exact (ht.proposals e p hp).later hlater hkept
  · constructor
    · rw [hsame]
      exact ht.derived
    · intro e p' hp'
      obtain ⟨p, hp, hlater⟩ := hold e p' hp'
      exact (ht.proposals e p hp).later hlater hkept

/-- Two Proposals of one device are of one key and one hardware identity. -/
theorem Identified.same_device (ht : Identified authority t)
    (hkeys : InstanceNamesKey authority.crypto) {e e' : EnrollmentId} {p p' : ProposalRow}
    (hp : (t.registry.dossier e).proposal = some p)
    (hp' : (t.registry.dossier e').proposal = some p')
    (h : p.deviceInstanceId = p'.deviceInstanceId) :
    p.operationalKeyId = p'.operationalKeyId ∧ p.hardwareIdentityRef = p'.hardwareIdentityRef := by
  have hb := ht.proposals e p hp
  have hb' := ht.proposals e' p' hp'
  have hkey : p.operationalKeyId = p'.operationalKeyId := by
    have := hkeys _ _ _ hb.instanceId (h ▸ hb'.instanceId)
    rw [hb.keyId, hb'.keyId] at this
    exact Except.ok.inj this
  obtain ⟨b, hmem, hbkey, hidentity⟩ := hb.binding
  obtain ⟨b', hmem', hbkey', hidentity'⟩ := hb'.binding
  obtain rfl := binding_unique hmem hmem' (.inr (by rw [hbkey, hbkey', hkey]))
  exact ⟨hkey, hidentity.symm.trans hidentity'⟩

theorem identified_empty : Identified authority .empty where
  derived := by simp [Tables.empty]
  proposals := by simp [Tables.empty_registry, Registry.empty, Dossier.blank]

theorem reachable_identified (h : Reachable authority t) : Identified authority t :=
  Reaches.inv h (fun _ request => next_identified request) identified_empty

/-! ### Vouchers -/

/-- A request presents a voucher that this Owner Domain signed for this base identity
and key and that has not expired, with the evidence of possession that names them. -/
structure ValidVoucher (verifier : IssuedBaseIdentityVerifier) (request : CommissioningRequest)
    (deviceBaseId : DeviceBaseId) (operationalKeyId : KeyId) : Prop where
  possession : verifier.verifiedEvidence request = .ok (some deviceBaseId)
  key : verifier.crypto.keyId request.operationalPublicKey = .ok operationalKeyId
  signed : ∃ claims expiresAt, verifier.signedClaims request.proof = .ok (some claims) ∧
    claims.hasKeys verifier.sdk.commissioningVoucherClaimNames = true ∧
    verifier.claimsMatch claims deviceBaseId request = true ∧
    claims.fieldIs "operational_spki_sha256" operationalKeyId = true ∧
    (claims.field "exp").map (intOf verifier.crypto.unicode) = some (.ok expiresAt) ∧
    request.nowUnix < expiresAt

theorem schemes_differ : enrolledBaseKeyScheme ≠ voucherScheme := by decide

/-- What `_verified_voucher` established. -/
theorem verifiedVoucher_ok {verifier : IssuedBaseIdentityVerifier} {request : CommissioningRequest}
    {deviceBaseId : DeviceBaseId} {verified : VerifiedCommissioning} {keyId : KeyId}
    (hpossession : verifier.verifiedEvidence request = .ok (some deviceBaseId))
    (hkey : verifier.crypto.keyId request.operationalPublicKey = .ok keyId)
    (h : verifier.verifiedVoucher deviceBaseId request = .ok (some verified)) :
    verified.identity.deviceBaseId = deviceBaseId ∧ verified.jti = some request.nonce ∧
      ValidVoucher verifier request deviceBaseId keyId := by
  unfold IssuedBaseIdentityVerifier.verifiedVoucher at h
  split at h
  · cases h
  · cases h
  next claims hclaims =>
  -- the checks in the order of the source, each of which answers with none
  unfold IssuedBaseIdentityVerifier.claimsChecked at h
  split at h
  · cases h
  next hnames =>
  split at h
  · cases h
  split at h
  · cases h
  next hmatch =>
  rw [hkey] at h
  simp only at h
  split at h
  · cases h
  next hspki =>
  unfold IssuedBaseIdentityVerifier.expiryChecked at h
  split at h
  · next expiresAt hexp =>
    split at h
    · cases h
    next hfresh =>
    cases h
    simp only [not_not] at hnames hmatch hspki
    have hjti : claims.field "jti" = some (.str request.nonce) := by
      simp only [IssuedBaseIdentityVerifier.claimsMatch, Bool.and_eq_true] at hmatch
      exact Json.fieldIs_iff.mp hmatch.2
    refine ⟨rfl, by simp [hjti, Crypto.str], hpossession, hkey, claims, expiresAt, hclaims, hnames,
      hmatch, hspki, hexp, by omega⟩
  · cases h
  · cases h

/-- What a verification by voucher established. -/
theorem verify_voucher {verifier : IssuedBaseIdentityVerifier} {request : CommissioningRequest}
    {verified : VerifiedCommissioning} {keyId : KeyId}
    (hkey : verifier.crypto.keyId request.operationalPublicKey = .ok keyId)
    (h : verifier.verify request = .ok (some verified)) (hscheme : verified.scheme = voucherScheme) :
    verified.jti = some request.nonce ∧
      ValidVoucher verifier request verified.identity.deviceBaseId keyId := by
  unfold IssuedBaseIdentityVerifier.verify at h
  split at h
  · cases h
  · cases h
  next deviceBaseId hpossession =>
  unfold IssuedBaseIdentityVerifier.verifiedStanding at h
  split at h
  · cases h
  · next hvoucher =>
    cases h
    obtain ⟨rfl, hjti, hvalid⟩ := verifiedVoucher_ok hpossession hkey hvoucher
    exact ⟨hjti, hvalid⟩
  · unfold IssuedBaseIdentityVerifier.verifiedContinuation at h
    simp only at h
    split at h
    · cases h
      exact absurd hscheme schemes_differ
    · cases h

/-- The verification an enrollment passed. -/
theorem verifyCommissioning_ok {now : Timestamp} {verified : VerifiedCommissioning}
    (h : authority.verifyCommissioning payload now = .ok verified) :
    authority.commissioningProofs (commissioningRequest payload now) = .ok (some verified) := by
  unfold verifyCommissioning at h
  obtain ⟨found, hfound, h⟩ := except_bind_ok.mp h
  cases found with
  | none => cases h
  | some verified' =>
    suffices verified' = verified by rw [hfound, this]
    simp only at h
    by_cases hknown : verified'.scheme ≠ voucherScheme ∧ verified'.scheme ≠ enrolledBaseKeyScheme
    · simp [hknown, bind, Except.bind, throw, throwThe, MonadExceptOf.throw] at h
    · by_cases hdeclared : payload.commissioningProof.scheme = verified'.scheme
      · simpa [hknown, hdeclared, bind, Except.bind, pure, Except.pure] using h
      · simp [hknown, hdeclared, bind, Except.bind, throw, throwThe, MonadExceptOf.throw] at h

/-- The request spends the voucher and creates the Proposal. -/
structure Spends (authority : AdmissionAuthority) (t : Tables) (request : Request)
    (v : CommissioningVoucherRow) (e : EnrollmentId) : Prop where
  unspent : v ∉ t.vouchers
  spent : v ∈ (authority.next t request).vouchers
  unknown : ∀ p ∈ t.proposals, p.enrollmentId ≠ e
  created : ∃ p ∈ (authority.next t request).proposals, p.enrollmentId = e

theorem no_proposal_iff {e : EnrollmentId} :
    (∀ p ∈ t.proposals, p.enrollmentId ≠ e) ↔ (t.registry.dossier e).proposal = none :=
  Table.get_eq_none_iff.symm

theorem proposal_iff {e : EnrollmentId} :
    (∃ p ∈ t.proposals, p.enrollmentId = e) ↔ ∃ p, (t.registry.dossier e).proposal = some p := by
  constructor
  · rintro ⟨p, hp, rfl⟩
    exact ⟨p, Tables.hasProposal_iff.mpr hp⟩
  · rintro ⟨p, hp⟩
    exact ⟨p, Tables.proposal_of_dossier hp⟩

/-- **A voucher is spent by the one Proposal that presents it.** -/
theorem Spends.enrolls {v : CommissioningVoucherRow} {e : EnrollmentId}
    (h : Spends authority t request v e) :
    ∃ payload enrolled draws expiresAt, Enrolls authority t request payload enrolled draws ∧
      enrolled.verified.scheme = voucherScheme ∧ v = voucherFor enrolled expiresAt draws.now ∧
      e = draws.enrollmentId := by
  rcases next_cases authority t request with ⟨payload, enrolled, draws, henrolls⟩ | ⟨hsame, -, -⟩
  · by_cases hscheme : enrolled.verified.scheme = voucherScheme
    · obtain ⟨expiresAt, hinsert, -⟩ := henrolls.voucher hscheme
      have hv := ((Table.mem_insert hinsert).mp h.spent).resolve_left h.unspent
      refine ⟨payload, enrolled, draws, expiresAt, henrolls, hscheme, hv, ?_⟩
      by_contra hne
      obtain ⟨p', hp'⟩ := proposal_iff.mp h.created
      obtain ⟨p, hp, -⟩ := henrolls.proposals.2.2 e p' hne hp'
      exact absurd (no_proposal_iff.mp h.unknown) (by rw [hp]; exact Option.some_ne_none p)
    · exact absurd ((henrolls.continuation hscheme).1 ▸ h.spent) h.unspent
  · exact absurd (hsame ▸ h.spent) h.unspent

/-- An enrollment by voucher spends it. -/
theorem Enrolls.spends (h : Enrolls authority t request payload enrolled draws)
    (hscheme : enrolled.verified.scheme = voucherScheme) :
    ∃ expiresAt, Spends authority t request (voucherFor enrolled expiresAt draws.now)
      draws.enrollmentId := by
  obtain ⟨expiresAt, hinsert, -⟩ := h.voucher hscheme
  obtain ⟨hnew, ⟨p, hp, -⟩, -⟩ := h.proposals
  have hfresh := Table.get_eq_none_iff.mp (Table.fresh_of_insert hinsert voucher_jti_isKey)
  exact ⟨expiresAt, fun hv => hfresh _ hv rfl, (Table.mem_insert hinsert).mpr (.inr rfl),
    no_proposal_iff.mpr hnew, proposal_iff.mpr ⟨p, hp⟩⟩

/-- A voucher that was not spent before was spent by an enrollment. -/
theorem spends_of_new {v : CommissioningVoucherRow} (hnew : v ∉ t.vouchers)
    (hv : v ∈ (authority.next t request).vouchers) : ∃ e, Spends authority t request v e := by
  rcases next_cases authority t request with ⟨payload, enrolled, draws, h⟩ | ⟨hsame, -, -⟩
  · by_cases hscheme : enrolled.verified.scheme = voucherScheme
    · obtain ⟨expiresAt, hinsert, -⟩ := h.voucher hscheme
      obtain ⟨expiresAt', hspends⟩ := h.spends hscheme
      -- one enrollment spends one voucher
      have hone : ∀ w, w ∉ t.vouchers → w ∈ (authority.next t request).vouchers →
          w = voucherFor enrolled expiresAt draws.now :=
        fun w hw hw' => ((Table.mem_insert hinsert).mp hw').resolve_left hw
      rw [hone v hnew hv, ← hone _ hspends.unspent hspends.spent]
      exact ⟨_, hspends⟩
    · exact absurd ((h.continuation hscheme).1 ▸ hv) hnew
  · exact absurd (hsame ▸ hv) hnew

theorem voucher_unique {v v' : CommissioningVoucherRow} (hv : v ∈ t.vouchers)
    (hv' : v' ∈ t.vouchers) (h : v.jti = v'.jti) : v = v' :=
  Table.eq_of_key voucher_jti_isKey hv hv' h

/-- No voucher of that id was spent before. -/
theorem Spends.fresh {v v' : CommissioningVoucherRow} {e : EnrollmentId}
    (h : Spends authority t request v e) (hv' : v' ∈ t.vouchers) : v'.jti ≠ v.jti := by
  intro hjti
  have heq := voucher_unique (voucher_kept authority request hv') h.spent hjti
  exact h.unspent (heq ▸ hv')

/-- One request spends one voucher, by one Proposal. -/
theorem Spends.unique {v v' : CommissioningVoucherRow} {e e' : EnrollmentId}
    (h : Spends authority t request v e) (h' : Spends authority t request v' e')
    (hjti : v.jti = v'.jti) : v = v' ∧ e = e' := by
  refine ⟨voucher_unique h.spent h'.spent hjti, ?_⟩
  obtain ⟨_, _, draws, _, henrolls, -, -, rfl⟩ := h.enrolls
  obtain ⟨_, _, draws', _, henrolls', -, -, rfl⟩ := h'.enrolls
  obtain ⟨_, _, _, _, hrequest, -⟩ := henrolls.commits
  obtain ⟨_, _, _, _, hrequest', -⟩ := henrolls'.commits
  rw [hrequest] at hrequest'
  cases hrequest'
  rfl

/-- The Authority with the verifier of issued base identities, under this signing key. -/
def issuing (authority : AdmissionAuthority) (voucherSigningKey : Bytes) : AdmissionAuthority :=
  { authority with
    commissioningProofs :=
      (IssuedBaseIdentityVerifier.mk authority.crypto authority.sdk voucherSigningKey).verify }

/-- The request binds the base identity, by an enrollment that spends a valid voucher
for that base identity and key. -/
structure Binds (authority : AdmissionAuthority) (voucherSigningKey : Bytes) (t : Tables)
    (request : Request) (b : BaseIdentityRow) : Prop where
  unbound : b ∉ t.baseIdentities
  bound : b ∈ ((authority.issuing voucherSigningKey).next t request).baseIdentities
  byVoucher : ∃ commandId correlationId payload draws v e,
    request = .command (.createEnrollment commandId correlationId payload) draws ∧
    Spends (authority.issuing voucherSigningKey) t request v e ∧
    v.deviceBaseId = b.deviceBaseId ∧ v.operationalKeyId = b.operationalKeyId ∧
    v.jti = payload.commissioningProof.nonce ∧
    ValidVoucher ⟨authority.crypto, authority.sdk, voucherSigningKey⟩
      (commissioningRequest payload draws.now) b.deviceBaseId b.operationalKeyId

/-- A base identity is bound by spending a valid voucher for it. -/
theorem binds_of_new {voucherSigningKey : Bytes} {b : BaseIdentityRow}
    (hnew : b ∉ t.baseIdentities)
    (hb : b ∈ ((authority.issuing voucherSigningKey).next t request).baseIdentities) :
    Binds authority voucherSigningKey t request b := by
  refine ⟨hnew, hb, ?_⟩
  rcases next_cases (authority.issuing voucherSigningKey) t request with
    ⟨payload, enrolled, draws, h⟩ | ⟨-, hsame, -⟩
  · by_cases hscheme : enrolled.verified.scheme = voucherScheme
    · obtain ⟨expiresAt, hspends⟩ := h.spends hscheme
      obtain ⟨-, -, ⟨hsame, -⟩ | hinsert⟩ := h.voucher hscheme
      · exact absurd (hsame ▸ hb) hnew
      · obtain rfl := ((Table.mem_insert hinsert).mp hb).resolve_left hnew
        obtain ⟨commandId, correlationId, -, -, hrequest, -⟩ := h.commits
        obtain ⟨hkey, -, hverified, -⟩ := verifyEnrollment_ok h.verified
        obtain ⟨hjti, hvalid⟩ := verify_voucher hkey (verifyCommissioning_ok hverified) hscheme
        refine ⟨commandId, correlationId, payload, draws, _, _, hrequest, hspends, rfl, rfl, ?_,
          hvalid⟩
        simp [voucherFor, jtiText, hjti, commissioningRequest]
    · exact absurd ((h.continuation hscheme).2.1 ▸ hb) hnew
  · exact absurd (hsame ▸ hb) hnew

/-! ### Refused enrollments -/

/-- Why an enrollment has no standing: its proof is refused, its voucher is spent, the
base identity or the key it names is bound to another one, or there is nothing, or
nothing still in force, that it continues. -/
inductive Refused (authority : AdmissionAuthority) (t : Tables) (payload : CreateEnrollment)
    (now : Timestamp) : Prop
  | proof (h : ∀ enrolled, authority.verifyEnrollment payload now ≠ .ok enrolled)
  | spent {enrolled : VerifiedEnrollment} {v : CommissioningVoucherRow}
      (h : authority.verifyEnrollment payload now = .ok enrolled)
      (hscheme : enrolled.verified.scheme = voucherScheme) (hv : v ∈ t.vouchers)
      (hjti : v.jti = jtiText enrolled.verified)
  | bound {enrolled : VerifiedEnrollment} {b : BaseIdentityRow}
      (h : authority.verifyEnrollment payload now = .ok enrolled)
      (hscheme : enrolled.verified.scheme = voucherScheme) (hb : b ∈ t.baseIdentities)
      (hother : ¬ (b.deviceBaseId = enrolled.verified.identity.deviceBaseId ↔
        b.operationalKeyId = enrolled.operationalKeyId))
  | unbound {enrolled : VerifiedEnrollment}
      (h : authority.verifyEnrollment payload now = .ok enrolled)
      (hscheme : enrolled.verified.scheme ≠ voucherScheme)
      (hnone : ∀ b ∈ t.baseIdentities, ¬ (b.deviceBaseId = enrolled.verified.identity.deviceBaseId ∧
        b.ownerDomainId = payload.requestedOwnerDomainId ∧
        b.operationalKeyId = enrolled.operationalKeyId ∧
        b.hardwareIdentityRef = enrolled.identityRef))
  | toldNo {enrolled : VerifiedEnrollment}
      (h : authority.verifyEnrollment payload now = .ok enrolled)
      (hscheme : enrolled.verified.scheme ≠ voucherScheme)
      (hno : t.requiresFreshPresence payload.requestedOwnerDomainId enrolled.identityRef = true)

/-- **A refused enrollment writes nothing.** -/
theorem next_of_refused {commandId : CommandId} {correlationId : CorrelationId}
    (h : Refused authority t payload draws.now) :
    authority.next t (.command (.createEnrollment commandId correlationId payload) draws) = t := by
  rcases next_create authority t commandId correlationId payload draws with hsame | ⟨enrolled', h'⟩
  · exact hsame
  exfalso
  have hsame : ∀ {enrolled}, authority.verifyEnrollment payload draws.now = .ok enrolled →
      enrolled = enrolled' := fun h => Except.ok.inj (h.symm.trans h'.verified)
  cases h with
  | proof h => exact h enrolled' h'.verified
  | spent h hscheme hv hjti =>
    obtain rfl := hsame h
    obtain ⟨expiresAt, hinsert, -⟩ := h'.voucher hscheme
    exact Table.get_eq_none_iff.mp (Table.fresh_of_insert hinsert voucher_jti_isKey) _ hv hjti
  | bound h hscheme hb hother =>
    obtain rfl := hsame h
    obtain ⟨-, -, ⟨-, b, hb', hbase, hkey⟩ | hinsert⟩ := h'.voucher hscheme
    · refine hother ⟨fun heq => ?_, fun heq => ?_⟩
      · rw [binding_unique hb hb' (.inl (heq.trans hbase.symm)), hkey]
      · rw [binding_unique hb hb' (.inr (heq.trans hkey.symm)), hbase]
    · have hbase := Table.get_eq_none_iff.mp
        (Table.fresh_of_insert hinsert baseIdentity_deviceBaseId_isKey) _ hb
      have hkey := Table.get_eq_none_iff.mp
        (Table.fresh_of_insert hinsert baseIdentity_operationalKeyId_isKey) _ hb
      exact hother ⟨fun heq => absurd heq hbase, fun heq => absurd heq hkey⟩
  | unbound h hscheme hnone =>
    obtain rfl := hsame h
    obtain ⟨_, _, _, _, -, -, hsession⟩ := h'.commits
    obtain ⟨_, hstanding, -⟩ := standingUnchanged.createInSession hsession
    obtain ⟨-, -, b, hb, hmatch⟩ := establishStanding_continuation hscheme hstanding
    exact hnone b hb hmatch
  | toldNo h hscheme hno =>
    obtain rfl := hsame h
    obtain ⟨_, _, _, _, -, -, hsession⟩ := h'.commits
    obtain ⟨_, hstanding, -⟩ := standingUnchanged.createInSession hsession
    have := (establishStanding_continuation hscheme hstanding).2.1
    simp [hno] at this

/-! ### Base identities over runs -/

/-- `P` holds of the request at this place of a run from a fresh Authority, in the
state it is made in. -/
def AtPlace (authority : AdmissionAuthority) (requests : List Request) (k : Nat)
    (P : Tables → Request → Prop) : Prop :=
  ∃ request, requests[k]? = some request ∧
    P (run authority.next .empty (requests.take k)) request

/-- What a run of requests leaves of base identities, vouchers and Proposals. -/
structure Commissioned (authority : AdmissionAuthority) (voucherSigningKey : Bytes)
    (requests : List Request) (t : Tables) : Prop where
  /-- bindings pair each base id with one key and each key with one base id -/
  oneToOne : ∀ b ∈ t.baseIdentities, ∀ b' ∈ t.baseIdentities,
    (b.deviceBaseId = b'.deviceBaseId ↔ b.operationalKeyId = b'.operationalKeyId)
  /-- a binding is there, as it is, in every state from here on -/
  permanent : ∀ b ∈ t.baseIdentities, ∀ later,
    b ∈ (run (authority.issuing voucherSigningKey).next t later).baseIdentities
  /-- a spent voucher was spent by some Proposal -/
  spent : ∀ v ∈ t.vouchers, ∃ k e,
    AtPlace (authority.issuing voucherSigningKey) requests k fun t request =>
      Spends (authority.issuing voucherSigningKey) t request v e
  /-- a voucher id was spent at one place only, by one Proposal -/
  spentOnce : ∀ k k' v v' e e', v.jti = v'.jti →
    (AtPlace (authority.issuing voucherSigningKey) requests k fun t request =>
      Spends (authority.issuing voucherSigningKey) t request v e) →
    (AtPlace (authority.issuing voucherSigningKey) requests k' fun t request =>
      Spends (authority.issuing voucherSigningKey) t request v' e') →
    k = k' ∧ v = v' ∧ e = e'
  /-- a Proposal has key and hardware identity of a binding made by a valid voucher -/
  proven : ∀ p ∈ t.proposals, ∃ b ∈ t.baseIdentities,
    authority.crypto.keyId p.operationalPublicKeySpki = .ok p.operationalKeyId ∧
    p.operationalKeyId = b.operationalKeyId ∧ p.hardwareIdentityRef = b.hardwareIdentityRef ∧
    ∃ k, AtPlace (authority.issuing voucherSigningKey) requests k fun t request =>
      Binds authority voucherSigningKey t request b
  /-- a refused enrollment writes nothing -/
  refused : ∀ commandId correlationId payload draws,
    Refused (authority.issuing voucherSigningKey) t payload draws.now →
    (authority.issuing voucherSigningKey).next t
      (.command (.createEnrollment commandId correlationId payload) draws) = t

/-- **Base identities are proven, permanent and one-to-one.** Whatever enrollments
and other commands are requested, in whatever order. -/
theorem identities_commissioned (authority : AdmissionAuthority) (voucherSigningKey : Bytes)
    (requests : List Request) :
    Commissioned authority voucherSigningKey requests
      (run (authority.issuing voucherSigningKey).next .empty requests) where
  oneToOne b hb b' hb' :=
    ⟨fun h => by rw [binding_unique hb hb' (.inl h)], fun h => by rw [binding_unique hb hb' (.inr h)]⟩
  permanent b hb later :=
    run_inv (I := fun t : Tables => b ∈ t.baseIdentities) (fun _ _ => binding_kept _ _) hb later
  spent v hv := by
    obtain ⟨k, request, hrequest, hbefore, hafter⟩ := exists_turn
      (P := fun t : Tables => v ∈ t.vouchers) (by simp [Tables.empty]) hv
    obtain ⟨e, hspends⟩ := spends_of_new hbefore hafter
    exact ⟨k, e, request, hrequest, hspends⟩
  spentOnce k k' v v' e e' hjti hplace hplace' := by
    obtain ⟨request, hrequest, hspends⟩ := hplace
    obtain ⟨request', hrequest', hspends'⟩ := hplace'
    have hk : k = k' := turn_unique (P := fun t : Tables => ∃ w ∈ t.vouchers, w.jti = v.jti)
      (fun _ _ ⟨w, hw, hjti⟩ => ⟨w, voucher_kept _ _ hw, hjti⟩) hrequest hrequest'
      (fun ⟨_, hw, hjti⟩ => hspends.fresh hw hjti) ⟨v, hspends.spent, rfl⟩
      (fun ⟨_, hw, hw'⟩ => hspends'.fresh hw (hw'.trans hjti)) ⟨v', hspends'.spent, hjti.symm⟩
    subst hk
    obtain rfl : request = request' := Option.some.inj (hrequest.symm.trans hrequest')
    exact ⟨rfl, hspends.unique hspends' hjti⟩
  proven p hp := by
    have hbound := (reachable_identified ⟨requests, rfl⟩).proposals p.enrollmentId p
      (Tables.hasProposal_iff.mpr hp)
    obtain ⟨b, hb, hkey, hidentity⟩ := hbound.binding
    obtain ⟨k, request, hrequest, hbefore, hafter⟩ := exists_turn
      (P := fun t : Tables => b ∈ t.baseIdentities) (by simp [Tables.empty]) hb
    exact ⟨b, hb, hbound.keyId, hkey.symm, hidentity.symm, k, request, hrequest,
      binds_of_new hbefore hafter⟩
  refused commandId correlationId payload draws h := next_of_refused h

end AdmissionAuthority

end EidolonHub.Admission
