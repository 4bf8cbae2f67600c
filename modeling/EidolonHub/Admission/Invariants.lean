import EidolonHub.Admission.Simulation

/-!
# EidolonHub.Admission.Invariants

**What is true of every registry the Authority can reach.** Every dossier
describes one legal Proposal history (`Dossier.Legal`), no two grants of one
lineage share a generation, every Claim stands on the grant it was made from
(`StandsOn`) and every directory row agrees with its Claim.

A revocation reaches the grant behind a Claim through the Claim, so these facts
are one invariant (`Registry.Sound`); it is proved one field at a time, with one
case for each move.
-/

namespace EidolonHub.Admission

open EidolonHub.Library

/-! ### Dossiers -/

/-- Nothing was decided about this enrollment. -/
def Dossier.Undecided (x : Dossier) : Prop :=
  x.decision = none ∧ x.grant = none ∧ x.ack = none

/-- The Decision approved this Proposal while it was pending, and the grant was
issued by that Decision for this device. -/
structure Approval (authority : AdmissionAuthority) (p : ProposalRow) (d : DecisionRow)
    (g : GrantRow) : Prop where
  approves : d.decision = .approve
  decision_enrollmentId : d.enrollmentId = p.enrollmentId
  expected : d.expectedProposalRevision = 1
  targetOwnerDomainId : d.targetOwnerDomainId = p.requestedOwnerDomainId
  grant_enrollmentId : g.enrollmentId = p.enrollmentId
  decisionId : g.decisionId = d.decisionId
  ownerDomainId : g.ownerDomainId = p.requestedOwnerDomainId
  hardwareIdentityRef : g.hardwareIdentityRef = p.hardwareIdentityRef
  operationalKeyId : g.operationalKeyId = p.operationalKeyId
  deviceRef : g.deviceRef = ⟨p.deviceInstanceId, p.requestedOwnerDomainId,
    authority.ownerDomainGeneration, g.claimGeneration, 1⟩

namespace Approval

variable {authority : AdmissionAuthority} {p : ProposalRow} {d : DecisionRow} {g : GrantRow}

theorem moved (h : Approval authority p d g) (target : ProposalState) (now : Timestamp) :
    Approval authority (p.moved target now) d g := by
  obtain ⟨h₁, h₂, h₃, h₄, h₅, h₆, h₇, h₈, h₉, h₁₀⟩ := h
  exact ⟨h₁, h₂, h₃, h₄, h₅, h₆, h₇, h₈, h₉, h₁₀⟩

theorem revoke (h : Approval authority p d g) (now : Timestamp) :
    Approval authority p d (g.revoke now) := by
  obtain ⟨h₁, h₂, h₃, h₄, h₅, h₆, h₇, h₈, h₉, h₁₀⟩ := h
  exact ⟨h₁, h₂, h₃, h₄, h₅, h₆, h₇, h₈, h₉, h₁₀⟩

theorem deliver (h : Approval authority p d g) (envelope : ClaimGrantWireEnvelope)
    (now : Timestamp) : Approval authority p d (g.deliver envelope now) := by
  obtain ⟨h₁, h₂, h₃, h₄, h₅, h₆, h₇, h₈, h₉, h₁₀⟩ := h
  exact ⟨h₁, h₂, h₃, h₄, h₅, h₆, h₇, h₈, h₉, h₁₀⟩

theorem lapse (h : Approval authority p d g) (now : Timestamp) :
    Approval authority p d (g.lapse now) := by
  unfold GrantRow.lapse
  split
  · exact h.revoke now
  · exact h

end Approval

/-- A dossier whose Proposal was approved by `d` with the grant `g`. -/
structure Dossier.Granted (authority : AdmissionAuthority) (x : Dossier) (p : ProposalRow)
    (d : DecisionRow) (g : GrantRow) : Prop where
  decision : x.decision = some d
  grant : x.grant = some g
  approval : Approval authority p d g

theorem Dossier.Granted.eq_of_hasGrant {authority : AdmissionAuthority} {s : Registry}
    {e : EnrollmentId} {p : ProposalRow} {d : DecisionRow} {g g' : GrantRow}
    (h : (s.dossier e).Granted authority p d g) (he : g'.enrollmentId = e) (hg : s.HasGrant g') :
    g = g' := by
  unfold Registry.HasGrant at hg
  rw [he, h.grant] at hg
  simpa using hg

/-- A dossier whose grant was ended before it was acknowledged: it was delivered
exactly when the Proposal had moved that far. -/
def Dossier.Ended (authority : AdmissionAuthority) (x : Dossier) (p : ProposalRow) : Prop :=
  ∃ d g, x.Granted authority p d g ∧ g.revokedAt ≠ none ∧ x.ack = none ∧
    (p.revision = 3 ∧ g.wireEnvelope = none ∨ p.revision = 4 ∧ g.wireEnvelope ≠ none)

/-- What belongs to a Proposal in each of its states. -/
def Dossier.Phase (authority : AdmissionAuthority) (x : Dossier) (p : ProposalRow) : Prop :=
  match p.state with
  | .pendingReview => p.revision = 1 ∧ x.Undecided
  | .canceled => p.revision = 2 ∧ x.Undecided
  | .rejected => p.revision = 2 ∧ x.grant = none ∧ x.ack = none ∧
      ∃ d, x.decision = some d ∧ d.decision = .reject ∧ d.enrollmentId = p.enrollmentId
  | .approvedAwaitingHandoff => p.revision = 2 ∧ x.ack = none ∧
      ∃ d g, x.Granted authority p d g ∧ g.wireEnvelope = none ∧ g.revokedAt = none
  | .grantDelivered => p.revision = 3 ∧ x.ack = none ∧
      ∃ d g, x.Granted authority p d g ∧ g.wireEnvelope ≠ none ∧ g.revokedAt = none
  | .grantAcknowledged => p.revision = 4 ∧
      ∃ d g a, x.Granted authority p d g ∧ g.wireEnvelope ≠ none ∧ x.ack = some a ∧
        a.enrollmentId = p.enrollmentId ∧ a.grantId = g.grantId ∧ a.deviceRef = g.deviceRef
  | .expired => p.revision = 2 ∧ x.Undecided ∨ x.Ended authority p
  | .claimRevoked => x.Ended authority p

/-- The dossier describes one legal history of a Proposal, or none at all. -/
def Dossier.Legal (authority : AdmissionAuthority) (e : EnrollmentId) (x : Dossier) : Prop :=
  match x.proposal with
  | none => x.Undecided
  | some p => p.enrollmentId = e ∧ p.requestedOwnerDomainId = authority.ownerDomainId ∧
      x.Phase authority p

/-- The states of a Proposal whose grant is on file. -/
def ProposalRow.Issued (p : ProposalRow) : Prop :=
  p.state = .approvedAwaitingHandoff ∨ p.state = .grantDelivered ∨ p.state = .grantAcknowledged ∨
    p.state = .expired ∨ p.state = .claimRevoked

namespace Dossier.Legal

variable {authority : AdmissionAuthority} {e : EnrollmentId} {x : Dossier} {p : ProposalRow}
  {d : DecisionRow} {g : GrantRow} {a : GrantAckRow}

theorem proposal (h : x.Legal authority e) (hp : x.proposal = some p) :
    p.enrollmentId = e ∧ p.requestedOwnerDomainId = authority.ownerDomainId ∧
      x.Phase authority p := by
  simpa [Legal, hp] using h

theorem of_none (h : x.Legal authority e) (hp : x.proposal = none) : x.Undecided := by
  simpa [Legal, hp] using h

/-- A grant on file was issued by the Decision on file, for the Proposal on file. -/
theorem granted (h : x.Legal authority e) (hg : x.grant = some g) :
    ∃ p d, x.proposal = some p ∧ p.enrollmentId = e ∧ p.Issued ∧ x.Granted authority p d g := by
  cases hp : x.proposal with
  | none =>
    have := (h.of_none hp).2.1
    simp [hg] at this
  | some p =>
    obtain ⟨he, -, hphase⟩ := h.proposal hp
    have hend : x.Ended authority p → ∃ d, x.Granted authority p d g := by
      rintro ⟨d, g', hgranted, -⟩
      obtain rfl : g' = g := by simpa [hg] using hgranted.grant.symm
      exact ⟨d, hgranted⟩
    unfold Phase at hphase
    cases hs : p.state <;> simp only [hs, Undecided, hg, reduceCtorEq, false_and, and_false] at hphase
    case approvedAwaitingHandoff | grantDelivered =>
      obtain ⟨-, -, d, g', hgranted, -⟩ := hphase
      obtain rfl : g' = g := by simpa [hg] using hgranted.grant.symm
      exact ⟨p, d, rfl, he, by simp [ProposalRow.Issued, hs], hgranted⟩
    case grantAcknowledged =>
      obtain ⟨-, d, g', a, hgranted, -⟩ := hphase
      obtain rfl : g' = g := by simpa [hg] using hgranted.grant.symm
      exact ⟨p, d, rfl, he, by simp [ProposalRow.Issued, hs], hgranted⟩
    case expired =>
      obtain ⟨d, hgranted⟩ := hend (hphase.resolve_left id)
      exact ⟨p, d, rfl, he, by simp [ProposalRow.Issued, hs], hgranted⟩
    case claimRevoked =>
      obtain ⟨d, hgranted⟩ := hend hphase
      exact ⟨p, d, rfl, he, by simp [ProposalRow.Issued, hs], hgranted⟩

end Dossier.Legal

/-- A row of a grant as it was before and after: only its envelope, its delivery
and its revocation are ever written again, and a revocation stays. -/
structure GrantRow.Later (g g' : GrantRow) : Prop where
  same : g' = { g with wireEnvelope := g'.wireEnvelope, deliveredAt := g'.deliveredAt,
                       revokedAt := g'.revokedAt }
  revoked : g.revokedAt ≠ none → g'.revokedAt ≠ none

namespace GrantRow.Later

variable {g g' : GrantRow}

theorem refl (g : GrantRow) : g.Later g := ⟨rfl, id⟩

theorem trans {g'' : GrantRow} (h : g.Later g') (h' : g'.Later g'') : g.Later g'' :=
  ⟨by rw [h'.same, h.same], fun hr => h'.revoked (h.revoked hr)⟩

theorem of_revoke (g : GrantRow) (now : Timestamp) : g.Later (g.revoke now) :=
  ⟨rfl, fun _ => by simp⟩

theorem of_deliver (g : GrantRow) (envelope : ClaimGrantWireEnvelope) (now : Timestamp) :
    g.Later (g.deliver envelope now) := ⟨rfl, id⟩

theorem of_lapse (g : GrantRow) (now : Timestamp) : g.Later (g.lapse now) := by
  unfold GrantRow.lapse
  split
  · exact of_revoke g now
  · exact refl g

theorem grantId (h : g.Later g') : g'.grantId = g.grantId := by rw [h.same]
theorem enrollmentId (h : g.Later g') : g'.enrollmentId = g.enrollmentId := by rw [h.same]
theorem decisionId (h : g.Later g') : g'.decisionId = g.decisionId := by rw [h.same]
theorem deviceRef (h : g.Later g') : g'.deviceRef = g.deviceRef := by rw [h.same]
theorem ownerDomainId (h : g.Later g') : g'.ownerDomainId = g.ownerDomainId := by rw [h.same]
theorem claimGeneration (h : g.Later g') : g'.claimGeneration = g.claimGeneration := by
  rw [h.same]
theorem hardwareIdentityRef (h : g.Later g') : g'.hardwareIdentityRef = g.hardwareIdentityRef := by
  rw [h.same]

end GrantRow.Later

/-- A row of a Proposal as it was before and after: only its state, its revision and
its time of change are ever written again. -/
structure ProposalRow.Later (p p' : ProposalRow) : Prop where
  same : p' = { p with state := p'.state, revision := p'.revision, updatedAt := p'.updatedAt }

namespace ProposalRow.Later

variable {p p' : ProposalRow}

theorem refl (p : ProposalRow) : p.Later p := ⟨rfl⟩

theorem trans {p'' : ProposalRow} (h : p.Later p') (h' : p'.Later p'') : p.Later p'' :=
  ⟨by rw [h'.same, h.same]⟩

theorem of_moved (p : ProposalRow) (target : ProposalState) (now : Timestamp) :
    p.Later (p.moved target now) := ⟨rfl⟩

end ProposalRow.Later

/-- The enrollment a move is about; a revocation is about a Claim instead. -/
def Move.enrollment : Move → Option EnrollmentId
  | .enroll p | .reject p _ _ | .approve p _ _ _ | .deliver p _ _ _ | .acknowledge p _ _ _ _ _ _
  | .cancel p _ | .expire p _ | .withdraw p _ _ _ _ => some p.enrollmentId
  | .revoke _ _ _ => none

/-- The Proposal row a move writes. -/
def Move.proposal : Move → Option ProposalRow
  | .enroll p => some p
  | .reject p _ now => some (p.moved .rejected now)
  | .approve p _ _ now => some (p.moved .approvedAwaitingHandoff now)
  | .deliver p _ _ now => some (p.moved .grantDelivered now)
  | .acknowledge p _ _ _ _ _ now => some (p.moved .grantAcknowledged now)
  | .cancel p now => some (p.moved .canceled now)
  | .expire p now => some (p.moved .expired now)
  | .withdraw p _ _ _ now => some (p.moved .claimRevoked now)
  | .revoke _ _ _ => none

/-- The device whose Claim a move writes. -/
def Move.device : Move → Option DeviceInstanceId
  | .acknowledge _ g _ _ _ _ _ | .withdraw _ g _ _ _ => some g.deviceRef.deviceInstanceId
  | .revoke c _ _ => some c.deviceInstanceId
  | _ => none

/-! ### The invariant -/

/-- A Claim is the generation of a grant that was acknowledged or withdrawn, held
for the Owner its Decision named; Claim and grant are revoked together. -/
structure StandsOn (s : Registry) (c : ClaimRow) (p : ProposalRow) (d : DecisionRow)
    (g : GrantRow) : Prop where
  proposal : s.HasProposal p
  decision : (s.dossier p.enrollmentId).decision = some d
  grant : (s.dossier p.enrollmentId).grant = some g
  approvalDecisionId : c.approvalDecisionId = g.decisionId
  deviceRef : c.deviceRef = g.deviceRef
  businessOwnerId : c.businessOwnerId = d.targetBusinessOwnerId
  hardwareIdentityRef : c.hardwareIdentityRef = g.hardwareIdentityRef
  state : c.state = .active ∧ p.state = .grantAcknowledged ∧ g.revokedAt = none ∨
    c.state = .revoked ∧ (p.state = .grantAcknowledged ∨ p.state = .claimRevoked) ∧
      g.revokedAt ≠ none

/-- A directory row shows the generation, the Owner and the state of its Claim. -/
structure Shows (row : DeviceRow) (c : ClaimRow) : Prop where
  generation : row.matches c.deviceRef
  owner : row.ownerId = some c.businessOwnerId
  lifecycle : row.lifecycleState = .approved ∧ c.state = .active ∨
    row.lifecycleState = .revoked ∧ c.state = .revoked

namespace Registry

/-- What holds in every registry the Authority can reach. -/
structure Sound (authority : AdmissionAuthority) (s : Registry) : Prop where
  legal : ∀ e, (s.dossier e).Legal authority e
  decisionIds : ∀ e e' d d', (s.dossier e).decision = some d → (s.dossier e').decision = some d' →
    d.decisionId = d'.decisionId → e = e'
  lineage : ∀ e e' g g', (s.dossier e).grant = some g → (s.dossier e').grant = some g' →
    g.ownerDomainId = g'.ownerDomainId → g.hardwareIdentityRef = g'.hardwareIdentityRef →
    g.claimGeneration = g'.claimGeneration → e = e'
  claims : ∀ i c, s.claim i = some c → c.deviceInstanceId = i ∧ ∃ p d g, StandsOn s c p d g
  devices : ∀ i row, s.device i = some row → ∃ c, s.claim i = some c ∧ Shows row c

theorem sound_empty {authority : AdmissionAuthority} : Sound authority empty where
  legal _ := by simp [empty, Dossier.blank, Dossier.Legal, Dossier.Undecided]
  decisionIds := by simp [empty, Dossier.blank]
  lineage := by simp [empty, Dossier.blank]
  claims := by simp [empty]
  devices := by simp [empty]

section Step

variable {authority : AdmissionAuthority} {s : Registry} {m : Move} {e e' : EnrollmentId}

/-- What a move does to the Decisions: it may add one, for a pending Proposal. -/
theorem decision_apply {d : DecisionRow} (h : ((s.apply m).dossier e).decision = some d) :
    (s.dossier e).decision = some d ∨ d.enrollmentId = e ∧
      ((∃ p now, m = .reject p d now) ∨ ∃ p g now, m = .approve p d g now) := by
  cases m with
  | reject p d' now =>
    by_cases he : e = d'.enrollmentId
    · subst he
      simp only [apply, withProposal_dossier, withDecision_dossier] at h
      split at h <;> simp_all
    · simp only [apply, withProposal_dossier, withDecision_dossier, he] at h
      split at h <;> simp_all
  | approve p d' g now =>
    by_cases he : e = d'.enrollmentId
    · subst he
      simp only [apply, withGrant_dossier, withProposal_dossier, withDecision_dossier] at h
      split at h <;> split at h <;> simp_all
    · simp only [apply, withGrant_dossier, withProposal_dossier, withDecision_dossier, he] at h
      split at h <;> split at h <;> simp_all
  | _ =>
    left
    simp only [apply, publish_dossier, withDevice_dossier, withDeviceRevoked, withClaim_dossier,
      withAck_dossier, withGrant_dossier, withProposal_dossier, lapseGrant_dossier,
      revokeGrantsOf_dossier] at h
    revert h
    repeat' split
    all_goals exact id

/-- What a move does to the grants: it may issue one, or rewrite one. -/
theorem grant_apply {g' : GrantRow} (hm : s.allows authority m)
    (h : ((s.apply m).dossier e).grant = some g') :
    (∃ g, (s.dossier e).grant = some g ∧ g.Later g') ∨
      ∃ p d now, m = .approve p d g' now ∧ e = g'.enrollmentId := by
  have hsame : (s.dossier e).grant = some g' → ∃ g, (s.dossier e).grant = some g ∧ g.Later g' :=
    fun h => ⟨g', h, .refl g'⟩
  cases m with
  -- only an approval makes a Grant; every other move leaves each one or moves it later
  | approve p d g now =>
    simp only [apply, withGrant_dossier, withProposal_dossier, withDecision_dossier] at h
    by_cases he : e = g.enrollmentId
    · rw [if_pos he] at h
      obtain rfl : g = g' := by simpa using h
      exact .inr ⟨p, d, now, rfl, he⟩
    · rw [if_neg he] at h
      refine .inl (hsame ?_)
      split at h <;> split at h <;> exact h
  -- the moves that write a Grant write that of their own Proposal
  | deliver p g envelope now =>
    simp only [apply, withProposal_dossier, withGrant_dossier] at h
    left
    by_cases he : e = (g.deliver envelope now).enrollmentId
    · obtain rfl : g.deliver envelope now = g' := by
        rw [if_pos he] at h
        split at h <;> simpa using h
      exact ⟨g, by rw [he]; exact hm.2.2.1, .of_deliver g envelope now⟩
    · rw [if_neg he] at h
      refine hsame ?_
      split at h <;> exact h
  | expire p now =>
    simp only [apply, lapseGrant_dossier, withProposal_dossier, ProposalRow.moved_enrollmentId] at h
    left
    by_cases he : e = p.enrollmentId
    · simp only [he, ↓reduceIte, Option.map_eq_some_iff] at h
      obtain ⟨g, hg, rfl⟩ := h
      exact ⟨g, he ▸ hg, .of_lapse g now⟩
    · simp only [he, ↓reduceIte] at h
      exact hsame h
  | withdraw p g d published now =>
    simp only [apply, publish_dossier, withDeviceRevoked, withDevice_dossier, withClaim_dossier,
      withGrant_dossier, withProposal_dossier] at h
    left
    by_cases he : e = (g.revoke now).enrollmentId
    · rw [if_pos he] at h
      obtain rfl : g.revoke now = g' := by simpa using h
      exact ⟨g, by rw [he]; exact hm.2.2.1, .of_revoke g now⟩
    · rw [if_neg he] at h
      refine hsame ?_
      split at h <;> exact h
  | revoke c published now =>
    simp only [apply, publish_dossier, withDeviceRevoked, withDevice_dossier,
      revokeGrantsOf_dossier, withClaim_dossier] at h
    left
    obtain ⟨g, hg, rfl⟩ := Option.map_eq_some_iff.mp h
    refine ⟨g, hg, ?_⟩
    split
    · exact .of_revoke g now
    · exact .refl g
  -- the rest write no Grant
  | acknowledge p g d a name published now =>
    simp only [apply, publish_dossier, withProposal_dossier, withDevice_dossier, withClaim_dossier,
      withAck_dossier] at h
    refine .inl (hsame ?_)
    split at h <;> split at h <;> exact h
  | reject p d now =>
    simp only [apply, withProposal_dossier, withDecision_dossier] at h
    refine .inl (hsame ?_)
    split at h <;> split at h <;> exact h
  | enroll p | cancel p now =>
    simp only [apply, withProposal_dossier] at h
    refine .inl (hsame ?_)
    split at h <;> exact h

/-- The Proposals after a move. -/
theorem proposal_apply_eq : ((s.apply m).dossier e).proposal =
    match m.proposal with
    | some p => if e = p.enrollmentId then some p else (s.dossier e).proposal
    | none => (s.dossier e).proposal := by
  cases m <;> simp only [apply, Move.proposal, publish_dossier, withDevice_dossier,
    withDeviceRevoked, withClaim_dossier, withAck_dossier, withGrant_dossier,
    withDecision_dossier, withProposal_dossier, lapseGrant_dossier, revokeGrantsOf_dossier]
  all_goals
    repeat' split
    all_goals rfl

/-- A move that is not an enrollment moves a Proposal on file. -/
theorem proposal_of_allows {p' : ProposalRow} (hm : s.allows authority m)
    (hp' : m.proposal = some p') : m = .enroll p' ∨ ∃ p, s.HasProposal p ∧ p.Later p' ∧
      p.enrollmentId = p'.enrollmentId := by
  cases m <;> simp only [Move.proposal, Option.some.injEq, reduceCtorEq] at hp' <;> subst hp'
  case enroll => exact .inl rfl
  all_goals exact .inr ⟨_, hm.1, .of_moved _ _ _, rfl⟩

/-- What a move does to the Proposals: it may enroll one, or rewrite one. -/
theorem proposal_apply {p' : ProposalRow} (hm : s.allows authority m)
    (h : ((s.apply m).dossier e).proposal = some p') :
    (∃ p, (s.dossier e).proposal = some p ∧ p.Later p') ∨ m = .enroll p' ∧ e = p'.enrollmentId := by
  rw [proposal_apply_eq] at h
  cases hmp : m.proposal with
  | none => exact .inl ⟨p', by simpa [hmp] using h, .refl p'⟩
  | some q =>
    by_cases he : e = q.enrollmentId
    · obtain rfl : q = p' := by simpa [hmp, he] using h
      rcases proposal_of_allows hm hmp with henroll | ⟨p, hp, hlater, hid⟩
      · exact .inr ⟨henroll, he⟩
      · exact .inl ⟨p, by rw [he, ← hid]; exact hp, hlater⟩
    · exact .inl ⟨p', by simpa [hmp, he] using h, .refl p'⟩

/-- A Proposal on file is at most rewritten. -/
theorem proposal_kept {p : ProposalRow} (hm : s.allows authority m)
    (hp : (s.dossier e).proposal = some p) :
    ∃ p', ((s.apply m).dossier e).proposal = some p' ∧ p.Later p' := by
  rw [proposal_apply_eq]
  cases hmp : m.proposal with
  | none => exact ⟨p, hp, .refl p⟩
  | some q =>
    by_cases he : e = q.enrollmentId
    · refine ⟨q, if_pos he, ?_⟩
      rcases proposal_of_allows hm hmp with rfl | ⟨p₀, hp₀, hlater, hid⟩
      · have hnone := hm.1
        rw [← he, hp] at hnone
        cases hnone
      · unfold HasProposal at hp₀
        rw [hid, ← he, hp] at hp₀
        rwa [Option.some.inj hp₀]
    · exact ⟨p, by simpa only [he, ↓reduceIte] using hp, .refl p⟩

/-- A move about one enrollment leaves the dossiers of all others alone. -/
theorem dossier_apply_of_ne (hm : s.allows authority m) (he : m.enrollment = some e')
    (hne : e ≠ e') : (s.apply m).dossier e = s.dossier e := by
  cases m <;> simp only [Move.enrollment, Option.some.injEq, reduceCtorEq] at he <;> subst he
  case enroll | cancel | expire => simp [apply, hne]
  case reject => simp [apply, hne, hm.2.2.enrollmentId]
  case approve => simp [apply, hne, hm.2.2.1.enrollmentId, hm.2.2.2.enrollmentId]
  case deliver => simp [apply, hne, GrantRow.deliver, hm.2.2.2.1]
  case acknowledge =>
    obtain ⟨-, -, -, -, -, -, -, -, -, hae, -⟩ := hm
    simp [apply, hne, hae]
  case withdraw => simp [apply, hne, withDeviceRevoked, hm.2.2.2.1]

/-- A Decision has one grant at most. -/
theorem Sound.enrollment_of_decisionId {g g' : GrantRow} (hs : s.Sound authority)
    (hg : (s.dossier e).grant = some g) (hg' : (s.dossier e').grant = some g')
    (h : g.decisionId = g'.decisionId) : e = e' := by
  obtain ⟨p, d, -, -, -, hgranted⟩ := (hs.legal e).granted hg
  obtain ⟨p', d', -, -, -, hgranted'⟩ := (hs.legal e').granted hg'
  refine hs.decisionIds e e' d d' hgranted.decision hgranted'.decision ?_
  rw [← hgranted.approval.decisionId, ← hgranted'.approval.decisionId, h]

/-! The dossier a move is about stays legal, one lemma for each move. -/

section Legal

variable {p : ProposalRow} {d : DecisionRow} {g : GrantRow} {now : Timestamp}

theorem legal_enroll (hlegal : (s.dossier p.enrollmentId).Legal authority p.enrollmentId)
    (hm : s.allows authority (.enroll p)) :
    ((s.apply (.enroll p)).dossier p.enrollmentId).Legal authority p.enrollmentId := by
  obtain ⟨hnone, hstate, hrev, hdomain⟩ := hm
  have hblank := hlegal.of_none hnone
  simpa [apply, Dossier.Legal, Dossier.Phase, Dossier.Undecided, hstate, hrev, hdomain] using hblank

theorem legal_reject (hlegal : (s.dossier p.enrollmentId).Legal authority p.enrollmentId)
    (hm : s.allows authority (.reject p d now)) :
    ((s.apply (.reject p d now)).dossier p.enrollmentId).Legal authority p.enrollmentId := by
  obtain ⟨hp, hstate, hd⟩ := hm
  obtain ⟨-, hdomain, hphase⟩ := hlegal.proposal hp
  simp only [Dossier.Phase, hstate] at hphase
  obtain ⟨hrev, -, hgrant, hack⟩ := hphase
  simp [apply, Dossier.Legal, Dossier.Phase, hd.enrollmentId, hd.decision, hrev, hdomain, hgrant,
    hack]

theorem legal_approve (hlegal : (s.dossier p.enrollmentId).Legal authority p.enrollmentId)
    (hm : s.allows authority (.approve p d g now)) :
    ((s.apply (.approve p d g now)).dossier p.enrollmentId).Legal authority p.enrollmentId := by
  obtain ⟨hp, hstate, hd, hg⟩ := hm
  obtain ⟨-, hdomain, hphase⟩ := hlegal.proposal hp
  simp only [Dossier.Phase, hstate] at hphase
  obtain ⟨hrev, -, -, hack⟩ := hphase
  have happroval : Approval authority p d g := ⟨hd.decision, hd.enrollmentId,
    hd.expectedProposalRevision.trans hrev, hd.targetOwnerDomainId, hg.enrollmentId,
    hg.decisionId, hg.ownerDomainId, hg.hardwareIdentityRef, hg.operationalKeyId, hg.deviceRef⟩
  simp only [apply, Dossier.Legal, Dossier.Phase, hd.enrollmentId, hg.enrollmentId, hdomain, hrev,
    hack, withGrant_dossier, withProposal_dossier, withDecision_dossier,
    ProposalRow.moved_enrollmentId, ProposalRow.moved_state, ProposalRow.moved_revision,
    ProposalRow.moved_requestedOwnerDomainId, ↓reduceIte, true_and]
  exact ⟨d, g, ⟨rfl, rfl, happroval.moved _ now⟩, hg.wireEnvelope, hg.revokedAt⟩

theorem legal_deliver {envelope : ClaimGrantWireEnvelope}
    (hlegal : (s.dossier p.enrollmentId).Legal authority p.enrollmentId)
    (hm : s.allows authority (.deliver p g envelope now)) :
    ((s.apply (.deliver p g envelope now)).dossier p.enrollmentId).Legal authority
      p.enrollmentId := by
  obtain ⟨hp, hstate, hg, hge, -, hrevoked, -⟩ := hm
  obtain ⟨-, hdomain, hphase⟩ := hlegal.proposal hp
  simp only [Dossier.Phase, hstate] at hphase
  obtain ⟨hrev, hack, d, g', hgranted, -⟩ := hphase
  obtain rfl : g' = g := hgranted.eq_of_hasGrant hge hg
  have hge' : (g'.deliver envelope now).enrollmentId = p.enrollmentId := hge
  simp only [apply, Dossier.Legal, Dossier.Phase, hdomain, hge', hrev, hack, withGrant_dossier,
    withProposal_dossier, ProposalRow.moved_enrollmentId, ProposalRow.moved_state,
    ProposalRow.moved_revision, ProposalRow.moved_requestedOwnerDomainId, ↓reduceIte, true_and]
  exact ⟨d, _, ⟨hgranted.decision, rfl, (hgranted.approval.deliver envelope now).moved _ now⟩,
    by simp [GrantRow.deliver], hrevoked⟩

theorem legal_acknowledge {a : GrantAckRow} {name : String} {published : Event}
    (hlegal : (s.dossier p.enrollmentId).Legal authority p.enrollmentId)
    (hm : s.allows authority (.acknowledge p g d a name published now)) :
    ((s.apply (.acknowledge p g d a name published now)).dossier p.enrollmentId).Legal authority
      p.enrollmentId := by
  obtain ⟨hp, hstate, hg, hge, -, -, -, -, -, hae, hag, har, -⟩ := hm
  obtain ⟨-, hdomain, hphase⟩ := hlegal.proposal hp
  simp only [Dossier.Phase, hstate] at hphase
  obtain ⟨hrev, -, d', g', hgranted, henv, -⟩ := hphase
  obtain rfl : g' = g := hgranted.eq_of_hasGrant hge hg
  simp only [apply, Dossier.Legal, Dossier.Phase, hdomain, hae, hrev, publish_dossier,
    withProposal_dossier, withDevice_dossier, withClaim_dossier, withAck_dossier,
    ProposalRow.moved_enrollmentId, ProposalRow.moved_state, ProposalRow.moved_revision,
    ProposalRow.moved_requestedOwnerDomainId, ↓reduceIte, true_and]
  exact ⟨d', g', a, ⟨hgranted.decision, hgranted.grant, hgranted.approval.moved _ now⟩, henv, rfl,
    hae, hag, har⟩

theorem legal_cancel (hlegal : (s.dossier p.enrollmentId).Legal authority p.enrollmentId)
    (hm : s.allows authority (.cancel p now)) :
    ((s.apply (.cancel p now)).dossier p.enrollmentId).Legal authority p.enrollmentId := by
  obtain ⟨hp, hstate⟩ := hm
  obtain ⟨-, hdomain, hphase⟩ := hlegal.proposal hp
  simp only [Dossier.Phase, hstate] at hphase
  obtain ⟨hrev, hundecided⟩ := hphase
  simpa [apply, Dossier.Legal, Dossier.Phase, Dossier.Undecided, hdomain, hrev] using hundecided

/-- A grant that is handed out or waits for it, as a deadline or a withdrawal ends it. -/
theorem ended_of_outstanding {x : Dossier} {target : ProposalState}
    (hphase : (s.dossier p.enrollmentId).Phase authority p)
    (hstate : p.state = .approvedAwaitingHandoff ∨ p.state = .grantDelivered)
    (hdecision : x.decision = (s.dossier p.enrollmentId).decision)
    (hgrant : x.grant = (s.dossier p.enrollmentId).grant.map (GrantRow.revoke now))
    (hack : x.ack = (s.dossier p.enrollmentId).ack) :
    x.Ended authority (p.moved target now) := by
  rcases hstate with hps | hps <;> simp only [Dossier.Phase, hps] at hphase <;>
    obtain ⟨hrev, hnoack, d, g, hgranted, henv, -⟩ := hphase
  all_goals
    refine ⟨d, g.revoke now, ⟨hdecision.trans hgranted.decision, ?_,
      (hgranted.approval.revoke now).moved target now⟩, by simp, hack.trans hnoack, ?_⟩
    · rw [hgrant, hgranted.grant, Option.map_some]
  · exact .inl ⟨by simp [hrev], henv⟩
  · exact .inr ⟨by simp [hrev], henv⟩

theorem legal_expire (hlegal : (s.dossier p.enrollmentId).Legal authority p.enrollmentId)
    (hm : s.allows authority (.expire p now)) :
    ((s.apply (.expire p now)).dossier p.enrollmentId).Legal authority p.enrollmentId := by
  obtain ⟨hp, hstate, -⟩ := hm
  obtain ⟨-, hdomain, hphase⟩ := hlegal.proposal hp
  simp only [apply, Dossier.Legal, lapseGrant_dossier, withProposal_dossier, hdomain, Dossier.Phase,
    ProposalRow.moved_enrollmentId, ProposalRow.moved_state, ProposalRow.moved_revision,
    ProposalRow.moved_requestedOwnerDomainId, ↓reduceIte, true_and]
  by_cases hps : p.state = .pendingReview
  · simp only [Dossier.Phase, hps] at hphase
    obtain ⟨hrev, hundecided⟩ := hphase
    left
    simpa [hrev, Dossier.Undecided] using hundecided
  · have houtstanding : p.state = .approvedAwaitingHandoff ∨ p.state = .grantDelivered := by
      revert hstate hps
      cases p.state <;> simp [expirable]
    -- an outstanding grant is not revoked yet, so the deadline revokes it
    have hlapse : (s.dossier p.enrollmentId).grant.map (GrantRow.lapse now) =
        (s.dossier p.enrollmentId).grant.map (GrantRow.revoke now) := by
      rcases houtstanding with hps | hps <;> simp only [Dossier.Phase, hps] at hphase <;>
        obtain ⟨-, -, d, g, hgranted, -, hnone⟩ := hphase <;>
        simp [hgranted.grant, GrantRow.lapse, hnone]
    exact .inr (ended_of_outstanding hphase houtstanding rfl hlapse rfl)

theorem legal_withdraw {published : Event}
    (hlegal : (s.dossier p.enrollmentId).Legal authority p.enrollmentId)
    (hm : s.allows authority (.withdraw p g d published now)) :
    ((s.apply (.withdraw p g d published now)).dossier p.enrollmentId).Legal authority
      p.enrollmentId := by
  obtain ⟨hp, hstate, hg, hge, -⟩ := hm
  obtain ⟨-, hdomain, hphase⟩ := hlegal.proposal hp
  have hgrant : (s.dossier p.enrollmentId).grant = some g := by
    rw [← hge]
    exact hg
  have hge' : (g.revoke now).enrollmentId = p.enrollmentId := hge
  simp only [apply, Dossier.Legal, Dossier.Phase, hdomain, publish_dossier, withDeviceRevoked,
    withDevice_dossier, withClaim_dossier, withGrant_dossier, withProposal_dossier, hge',
    ProposalRow.moved_enrollmentId, ProposalRow.moved_state,
    ProposalRow.moved_requestedOwnerDomainId, ↓reduceIte, true_and]
  exact ended_of_outstanding hphase hstate rfl (by simp [hgrant]) rfl

/-- A revocation marks grants that were acknowledged, if any. -/
theorem legal_revoke {c : ClaimRow} {published : Event} (hlegal : (s.dossier e).Legal authority e)
    (hacked : ∀ g, (s.dossier e).grant = some g → g.decisionId = c.approvalDecisionId →
      ∃ p, (s.dossier e).proposal = some p ∧ p.state = .grantAcknowledged) :
    ((s.apply (.revoke c published now)).dossier e).Legal authority e := by
  have hdossier : (s.apply (.revoke c published now)).dossier e = { s.dossier e with
      grant := (s.dossier e).grant.map fun g =>
        if g.decisionId = c.approvalDecisionId then g.revoke now else g } := by
    simp [apply, withDeviceRevoked, revokeGrantsOf_dossier]
  rw [hdossier]
  by_cases hmarked : ∃ g, (s.dossier e).grant = some g ∧ g.decisionId = c.approvalDecisionId
  · obtain ⟨g, hg, hd⟩ := hmarked
    obtain ⟨p, hp, hstate⟩ := hacked g hg hd
    obtain ⟨hpe, hdomain, hphase⟩ := hlegal.proposal hp
    simp only [Dossier.Phase, hstate] at hphase
    obtain ⟨hrev, d, g', a, hgranted, henv, hack, hae, hag, har⟩ := hphase
    obtain rfl : g' = g := by simpa [hg] using hgranted.grant.symm
    simp only [Dossier.Legal, hp, hpe, hdomain, Dossier.Phase, hstate, hrev, true_and, hg,
      Option.map_some, hd, ↓reduceIte]
    exact ⟨d, g'.revoke now, a, ⟨hgranted.decision, rfl, hgranted.approval.revoke now⟩, henv, hack,
      hae.trans hpe, hag, har⟩
  · have hkeep : (s.dossier e).grant.map (fun g =>
        if g.decisionId = c.approvalDecisionId then g.revoke now else g) = (s.dossier e).grant := by
      cases hg : (s.dossier e).grant with
      | none => rfl
      | some g =>
        have hne : g.decisionId ≠ c.approvalDecisionId := fun hd => hmarked ⟨g, hg, hd⟩
        simp [hne]
    rw [hkeep]
    exact hlegal

theorem Sound.legal_apply (hs : s.Sound authority) (hm : s.allows authority m) :
    ((s.apply m).dossier e).Legal authority e := by
  by_cases hne : m.enrollment = some e
  · have hlegal := hs.legal e
    cases m <;> simp only [Move.enrollment, Option.some.injEq, reduceCtorEq] at hne <;> subst hne
    case enroll => exact legal_enroll hlegal hm
    case reject => exact legal_reject hlegal hm
    case approve => exact legal_approve hlegal hm
    case deliver => exact legal_deliver hlegal hm
    case acknowledge => exact legal_acknowledge hlegal hm
    case cancel => exact legal_cancel hlegal hm
    case expire => exact legal_expire hlegal hm
    case withdraw => exact legal_withdraw hlegal hm
  · cases he : m.enrollment with
    | some e' =>
      rw [dossier_apply_of_ne hm he fun h => hne (he.trans (congrArg some h.symm))]
      exact hs.legal e
    | none =>
      cases m <;> simp only [Move.enrollment, reduceCtorEq] at he
      rename_i c published now
      refine legal_revoke (hs.legal e) ?_
      -- the grant behind an active Claim was acknowledged, and no other has its Decision
      intro g hg hd
      obtain ⟨-, p, d, g', hstands⟩ := hs.claims _ c hm.1
      obtain rfl := hs.enrollment_of_decisionId hg hstands.grant
        (hd.trans hstands.approvalDecisionId)
      refine ⟨p, hstands.proposal, ?_⟩
      rcases hstands.state with ⟨-, hacked, -⟩ | ⟨hrevoked, -⟩
      · exact hacked
      · exact absurd hrevoked hm.2.1

end Legal

/-! A Proposal that has ended. -/

/-- No move is about a Proposal in a terminal state. -/
theorem enrollment_ne_of_terminal {p : ProposalRow} (hm : s.allows authority m)
    (hp : (s.dossier e).proposal = some p) (hterm : p.state.terminal = true) :
    m.enrollment ≠ some e := by
  have hhas : ∀ q : ProposalRow, s.HasProposal q → q.enrollmentId = e → q = p := by
    intro q hq he
    unfold HasProposal at hq
    rw [he, hp] at hq
    simpa using hq.symm
  intro he
  cases m <;> simp only [Move.enrollment, Option.some.injEq, reduceCtorEq] at he
  case enroll q =>
    have := hm.1
    simp [he, hp] at this
  case expire q now =>
    obtain rfl := hhas q hm.1 he
    have := hm.2.1
    revert this hterm
    cases q.state <;> simp [expirable, ProposalState.terminal]
  case withdraw q _ _ _ _ =>
    obtain rfl := hhas q hm.1 he
    rcases hm.2.1 with hs | hs <;> simp [hs, ProposalState.terminal] at hterm
  case cancel q _ =>
    obtain rfl := hhas q hm.1 he
    simp [hm.2, ProposalState.terminal] at hterm
  case reject q _ _ | approve q _ _ _ | deliver q _ _ _ | acknowledge q _ _ _ _ _ _ =>
    obtain rfl := hhas q hm.1 he
    simp [hm.2.1, ProposalState.terminal] at hterm

/-- **A terminal Proposal is never written again.** -/
theorem proposal_apply_of_terminal {p : ProposalRow} (hm : s.allows authority m)
    (hp : (s.dossier e).proposal = some p) (hterm : p.state.terminal = true) :
    ((s.apply m).dossier e).proposal = some p := by
  have hne := enrollment_ne_of_terminal hm hp hterm
  cases he : m.enrollment with
  | some e' => rw [dossier_apply_of_ne hm he (fun h => hne (he.trans (congrArg some h.symm))), hp]
  | none =>
    cases m <;> simp only [Move.enrollment, reduceCtorEq] at he
    simpa [apply, withDeviceRevoked, revokeGrantsOf_dossier] using hp

/-! What is on file stays on file. -/

/-- A Decision is never removed or replaced. -/
theorem decision_kept {d : DecisionRow} (hs : s.Sound authority) (hm : s.allows authority m)
    (hd : (s.dossier e).decision = some d) : ((s.apply m).dossier e).decision = some d := by
  -- a Decision is added to a dossier that has none
  have hpending : ∀ p : ProposalRow, s.HasProposal p → p.state = .pendingReview →
      e ≠ p.enrollmentId := by
    rintro p hp hstate rfl
    obtain ⟨-, -, hphase⟩ := (hs.legal p.enrollmentId).proposal hp
    simp only [Dossier.Phase, hstate] at hphase
    simp [hphase.2.1] at hd
  cases m with
  | reject p d' now => simp [apply, hm.2.2.enrollmentId, hpending p hm.1 hm.2.1, hd]
  | approve p d' g now =>
    simp [apply, hm.2.2.1.enrollmentId, hm.2.2.2.enrollmentId, hpending p hm.1 hm.2.1, hd]
  | _ =>
    simp only [apply, publish_dossier, withDevice_dossier, withDeviceRevoked, withClaim_dossier,
      withAck_dossier, withGrant_dossier, withProposal_dossier, lapseGrant_dossier,
      revokeGrantsOf_dossier]
    repeat' split
    all_goals exact hd

/-- A grant is never removed, only rewritten. -/
theorem grant_kept {g : GrantRow} (hs : s.Sound authority) (hm : s.allows authority m)
    (hg : (s.dossier e).grant = some g) :
    ∃ g', ((s.apply m).dossier e).grant = some g' ∧ g.Later g' := by
  have hsame : ∀ g', (s.dossier e).grant = some g' → g' = g := fun g' h => by simpa [hg] using h.symm
  cases m with
  -- a Proposal under review has no Grant yet, so the Grant is of another enrollment
  | approve p d g' now =>
    have hne : e ≠ p.enrollmentId := by
      rintro rfl
      obtain ⟨-, -, hphase⟩ := (hs.legal p.enrollmentId).proposal hm.1
      simp only [Dossier.Phase, hm.2.1] at hphase
      simp [hphase.2.2.1] at hg
    refine ⟨g, ?_, .refl g⟩
    simp [apply, hm.2.2.1.enrollmentId, hm.2.2.2.enrollmentId, hne, hg]
  | deliver p g' envelope now =>
    by_cases he : e = g'.enrollmentId
    · obtain rfl := hsame g' (by rw [he]; exact hm.2.2.1)
      refine ⟨_, ?_, .of_deliver g' envelope now⟩
      simp only [apply, withProposal_dossier, withGrant_dossier, GrantRow.deliver, he, ↓reduceIte]
      split <;> rfl
    · refine ⟨g, ?_, .refl g⟩
      simp only [apply, withProposal_dossier, withGrant_dossier, GrantRow.deliver, he, ↓reduceIte]
      split <;> exact hg
  | expire p now =>
    by_cases he : e = p.enrollmentId
    · exact ⟨_, by simp [apply, ← he, hg], .of_lapse g now⟩
    · exact ⟨g, by simp [apply, he, hg], .refl g⟩
  | withdraw p g' d published now =>
    by_cases he : e = g'.enrollmentId
    · obtain rfl := hsame g' (by rw [he]; exact hm.2.2.1)
      exact ⟨_, by simp [apply, withDeviceRevoked, he], .of_revoke g' now⟩
    · refine ⟨g, ?_, .refl g⟩
      simp only [apply, publish_dossier, withDeviceRevoked, withDevice_dossier, withClaim_dossier,
        withGrant_dossier, GrantRow.revoke_enrollmentId, he, ↓reduceIte, withProposal_dossier]
      split <;> exact hg
  | revoke c published now =>
    refine ⟨if g.decisionId = c.approvalDecisionId then g.revoke now else g,
      by simp [apply, withDeviceRevoked, revokeGrantsOf_dossier, hg], ?_⟩
    split
    · exact .of_revoke g now
    · exact .refl g
  -- the rest write no Grant
  | _ =>
    refine ⟨g, ?_, .refl g⟩
    simp only [apply, publish_dossier, withDevice_dossier, withClaim_dossier, withAck_dossier,
      withProposal_dossier, withDecision_dossier]
    repeat' split
    all_goals exact hg

/-- The dossiers of one registry as a later registry shows them: nothing is taken
back, and a terminal Proposal is not even rewritten. -/
structure Grows (s s' : Registry) : Prop where
  proposal : ∀ e p, (s.dossier e).proposal = some p →
    ∃ p', (s'.dossier e).proposal = some p' ∧ p.Later p'
  decision : ∀ e d, (s.dossier e).decision = some d → (s'.dossier e).decision = some d
  grant : ∀ e g, (s.dossier e).grant = some g → ∃ g', (s'.dossier e).grant = some g' ∧ g.Later g'
  terminal : ∀ e p, (s.dossier e).proposal = some p → p.state.terminal = true →
    (s'.dossier e).proposal = some p

theorem Grows.refl (s : Registry) : s.Grows s :=
  ⟨fun _ p h => ⟨p, h, .refl p⟩, fun _ _ h => h, fun _ g h => ⟨g, h, .refl g⟩, fun _ _ h _ => h⟩

theorem Grows.trans {s' s'' : Registry} (h : s.Grows s') (h' : s'.Grows s'') : s.Grows s'' := by
  refine ⟨?_, fun e d hd => h'.decision e d (h.decision e d hd), ?_,
    fun e p hp ht => h'.terminal e p (h.terminal e p hp ht) ht⟩
  · intro e p hp
    obtain ⟨p', hp', hlater⟩ := h.proposal e p hp
    obtain ⟨p'', hp'', hlater'⟩ := h'.proposal e p' hp'
    exact ⟨p'', hp'', hlater.trans hlater'⟩
  · intro e g hg
    obtain ⟨g', hg', hlater⟩ := h.grant e g hg
    obtain ⟨g'', hg'', hlater'⟩ := h'.grant e g' hg'
    exact ⟨g'', hg'', hlater.trans hlater'⟩

theorem Sound.grows (hs : s.Sound authority) (hm : s.allows authority m) : s.Grows (s.apply m) :=
  ⟨fun _ _ => proposal_kept hm, fun _ _ => decision_kept hs hm, fun _ _ => grant_kept hs hm,
    fun _ _ => proposal_apply_of_terminal hm⟩

/-! Decision ids and lineages. -/

/-- The id of a Decision that a move adds was not used before. -/
theorem fresh_of_new {d d' : DecisionRow} (hm : s.allows authority m)
    (hnew : (∃ p now, m = .reject p d now) ∨ ∃ p g now, m = .approve p d g now)
    (hd' : (s.dossier e).decision = some d') : d'.decisionId ≠ d.decisionId := by
  rcases hnew with ⟨p, now, rfl⟩ | ⟨p, g, now, rfl⟩
  · exact hm.2.2.fresh e d' hd'
  · exact hm.2.2.1.fresh e d' hd'

theorem Sound.decisionIds_apply {d d' : DecisionRow} (hs : s.Sound authority)
    (hm : s.allows authority m) (hd : ((s.apply m).dossier e).decision = some d)
    (hd' : ((s.apply m).dossier e').decision = some d') (h : d.decisionId = d'.decisionId) :
    e = e' := by
  rcases decision_apply hd with hold | ⟨he, hnew⟩ <;>
    rcases decision_apply hd' with hold' | ⟨he', hnew'⟩
  · exact hs.decisionIds e e' d d' hold hold' h
  · exact absurd h (fresh_of_new hm hnew' hold)
  · exact absurd h.symm (fresh_of_new hm hnew hold')
  · have : d = d' := by
      rcases hnew with ⟨p, now, rfl⟩ | ⟨p, g, now, rfl⟩ <;>
        rcases hnew' with ⟨p', now', heq⟩ | ⟨p', g', now', heq⟩ <;> cases heq <;> rfl
    rw [← he, ← he', this]

theorem Sound.lineage_apply {g g' : GrantRow} (hs : s.Sound authority) (hm : s.allows authority m)
    (hg : ((s.apply m).dossier e).grant = some g) (hg' : ((s.apply m).dossier e').grant = some g')
    (hdomain : g.ownerDomainId = g'.ownerDomainId)
    (hhardware : g.hardwareIdentityRef = g'.hardwareIdentityRef)
    (hgeneration : g.claimGeneration = g'.claimGeneration) : e = e' := by
  rcases grant_apply hm hg with ⟨h, hold, hlater⟩ | ⟨p, d, now, rfl, he⟩ <;>
    rcases grant_apply hm hg' with ⟨h', hold', hlater'⟩ | ⟨p', d', now', heq, he'⟩
  · refine hs.lineage e e' h h' hold hold' ?_ ?_ ?_
    · rw [← hlater.ownerDomainId, ← hlater'.ownerDomainId, hdomain]
    · rw [← hlater.hardwareIdentityRef, ← hlater'.hardwareIdentityRef, hhardware]
    · rw [← hlater.claimGeneration, ← hlater'.claimGeneration, hgeneration]
  · subst heq
    have hlt := hm.2.2.2.issues.1 e h hold (by rw [← hlater.ownerDomainId, hdomain])
      (by rw [← hlater.hardwareIdentityRef, hhardware])
    rw [← hlater.claimGeneration, hgeneration] at hlt
    exact absurd hlt (Nat.lt_irrefl _)
  · have hlt := hm.2.2.2.issues.1 e' h' hold' (by rw [← hlater'.ownerDomainId, hdomain])
      (by rw [← hlater'.hardwareIdentityRef, hhardware])
    rw [← hlater'.claimGeneration, hgeneration] at hlt
    exact absurd hlt (Nat.lt_irrefl _)
  · cases heq
    rw [he, he']

/-! Claims and directory rows. -/

theorem acknowledgedClaim_deviceInstanceId (p : ProposalRow) (g : GrantRow) (d : DecisionRow)
    (now : Timestamp) (hs : s.Sound authority) :
    (acknowledgedClaim s p g d now).deviceInstanceId = g.deviceRef.deviceInstanceId := by
  unfold acknowledgedClaim ClaimRow.over
  cases hc : s.claim g.deviceRef.deviceInstanceId with
  | none => rfl
  | some c => exact (hs.claims _ c hc).1

/-- A move leaves the Claims of other devices alone. -/
theorem claim_apply_of_ne {i : DeviceInstanceId} (hs : s.Sound authority) (h : m.device ≠ some i) :
    (s.apply m).claim i = s.claim i := by
  cases m with
  | acknowledge p g d a name published now =>
    have hne : i ≠ g.deviceRef.deviceInstanceId := fun hi => h (congrArg some hi.symm)
    simp [apply, acknowledgedClaim_deviceInstanceId p g d now hs, hne]
  | withdraw p g d published now =>
    have hne : i ≠ g.deviceRef.deviceInstanceId := fun hi => h (congrArg some hi.symm)
    simp [apply, withDeviceRevoked, AdmissionAuthority.withdrawnClaim, hne]
  | revoke c published now =>
    have hne : i ≠ c.deviceInstanceId := fun hi => h (congrArg some hi.symm)
    simp [apply, withDeviceRevoked, revokeGrantsOf, ClaimRow.revoke, hne]
  | _ => rfl

/-- A move leaves the directory rows of other devices alone. -/
theorem device_apply_of_ne {i : DeviceInstanceId} (h : m.device ≠ some i) :
    (s.apply m).device i = s.device i := by
  cases m with
  | acknowledge p g d a name published now =>
    have hne : i ≠ g.deviceRef.deviceInstanceId := fun hi => h (congrArg some hi.symm)
    simp [apply, hne]
  | withdraw p g d published now =>
    have hne : i ≠ g.deviceRef.deviceInstanceId := fun hi => h (congrArg some hi.symm)
    simp [apply, withDeviceRevoked, hne]
  | revoke c published now =>
    have hne : i ≠ c.deviceRef.deviceInstanceId := fun hi => h (congrArg some hi.symm)
    simp [apply, withDeviceRevoked, revokeGrantsOf, hne]
  | _ => rfl

/-- The Claim an acknowledgement leaves, at its device. -/
theorem claim_acknowledge {p : ProposalRow} {g : GrantRow} {d : DecisionRow} {a : GrantAckRow}
    {name : String} {published : Event} {now : Timestamp} (hs : s.Sound authority) :
    (s.apply (.acknowledge p g d a name published now)).claim g.deviceRef.deviceInstanceId =
      some (acknowledgedClaim s p g d now) := by
  simp [apply, acknowledgedClaim_deviceInstanceId p g d now hs]

theorem acknowledgedClaim_deviceRef (p : ProposalRow) (g : GrantRow) (d : DecisionRow)
    (now : Timestamp) (hs : s.Sound authority) :
    (acknowledgedClaim s p g d now).deviceRef = g.deviceRef := by
  have h := acknowledgedClaim_deviceInstanceId p g d now hs
  unfold acknowledgedClaim ClaimRow.over at h ⊢
  cases hc : s.claim g.deviceRef.deviceInstanceId with
  | none => rfl
  | some c =>
    rw [hc] at h
    exact congrArg (fun i => ({ g.deviceRef with deviceInstanceId := i } : DeviceRef)) h

theorem acknowledgedClaim_state {p : ProposalRow} {g : GrantRow} {d : DecisionRow}
    {now : Timestamp} : (acknowledgedClaim s p g d now).state = .active := by
  unfold acknowledgedClaim ClaimRow.over
  cases s.claim g.deviceRef.deviceInstanceId <;> rfl

/-- What an acknowledgement and a withdrawal know of the Decision and the grant. -/
theorem Sound.granted_of_has {p : ProposalRow} {g : GrantRow} {d : DecisionRow}
    (hs : s.Sound authority) (hp : s.HasProposal p) (hg : s.HasGrant g)
    (hge : g.enrollmentId = p.enrollmentId) (hd : s.HasDecision d)
    (hdg : d.decisionId = g.decisionId) : (s.dossier p.enrollmentId).Granted authority p d g := by
  have hg' : (s.dossier p.enrollmentId).grant = some g := by
    rw [← hge]
    exact hg
  obtain ⟨p', d', hp', -, -, hgranted⟩ := (hs.legal p.enrollmentId).granted hg'
  obtain rfl : p' = p := by
    unfold HasProposal at hp
    simpa [hp] using hp'.symm
  have he : d.enrollmentId = p'.enrollmentId := hs.decisionIds _ _ d d' hd hgranted.decision
    (hdg.trans hgranted.approval.decisionId)
  obtain rfl : d = d' := by
    unfold HasDecision at hd
    rw [he, hgranted.decision] at hd
    simpa using hd.symm
  exact hgranted

/-- A Claim that a move does not write keeps standing on its grant. -/
theorem standsOn_apply_of_ne {c : ClaimRow} {p : ProposalRow} {d : DecisionRow} {g : GrantRow}
    (hs : s.Sound authority) (hm : s.allows authority m) (h : StandsOn s c p d g)
    (hne : m.device ≠ some c.deviceInstanceId) : StandsOn (s.apply m) c p d g := by
  have hterm : p.state.terminal = true := by
    rcases h.state with ⟨-, hp, -⟩ | ⟨-, hp | hp, -⟩ <;> simp [hp, ProposalState.terminal]
  have hnot := enrollment_ne_of_terminal hm h.proposal hterm
  have hdossier : (s.apply m).dossier p.enrollmentId = s.dossier p.enrollmentId := by
    cases he : m.enrollment with
    | some e' => exact dossier_apply_of_ne hm he fun heq => hnot (he.trans (congrArg some heq.symm))
    | none =>
      cases m <;> simp only [Move.enrollment, reduceCtorEq] at he
      rename_i c' published now
      -- two Claims never stand on one grant, so the revocation marks another one
      have hother : g.decisionId ≠ c'.approvalDecisionId := by
        intro heq
        obtain ⟨-, p', d', g', h'⟩ := hs.claims _ c' hm.1
        have he := hs.enrollment_of_decisionId h.grant h'.grant (heq.trans h'.approvalDecisionId)
        have hgg : g = g' := by
          have := h'.grant
          rw [← he, h.grant] at this
          simpa using this
        have href : c.deviceRef = c'.deviceRef := by rw [h.deviceRef, h'.deviceRef, hgg]
        exact hne (congrArg (fun r : DeviceRef => some r.deviceInstanceId) href.symm)
      ext1 <;> simp [apply, withDeviceRevoked, revokeGrantsOf_dossier, h.grant, hother]
  exact ⟨by rw [HasProposal, hdossier]; exact h.proposal, by rw [hdossier]; exact h.decision,
    by rw [hdossier]; exact h.grant, h.approvalDecisionId, h.deviceRef, h.businessOwnerId,
    h.hardwareIdentityRef, h.state⟩

theorem standsOn_acknowledge {p : ProposalRow} {g : GrantRow} {d : DecisionRow} {a : GrantAckRow}
    {name : String} {published : Event} {now : Timestamp} (hs : s.Sound authority)
    (hm : s.allows authority (.acknowledge p g d a name published now)) :
    StandsOn (s.apply (.acknowledge p g d a name published now)) (acknowledgedClaim s p g d now)
      (p.moved .grantAcknowledged now) d g := by
  have href := acknowledgedClaim_deviceRef p g d now hs
  obtain ⟨hp, hstate, hg, hge, hrevoked, -, hd, hdg, -, hae, -⟩ := hm
  have hgranted := hs.granted_of_has hp hg hge hd hdg
  have hproposal : ((s.apply (.acknowledge p g d a name published now)).dossier
      p.enrollmentId).proposal = some (p.moved .grantAcknowledged now) := by simp [apply]
  have hdecision : ((s.apply (.acknowledge p g d a name published now)).dossier
      p.enrollmentId).decision = some d := by simp [apply, hae, hgranted.decision]
  have hgrant : ((s.apply (.acknowledge p g d a name published now)).dossier
      p.enrollmentId).grant = some g := by simp [apply, hae, hgranted.grant]
  refine ⟨hproposal, hdecision, hgrant, ?_, href, ?_, ?_, .inl ⟨?_, rfl, hrevoked⟩⟩ <;>
    unfold acknowledgedClaim ClaimRow.over <;>
    cases s.claim g.deviceRef.deviceInstanceId <;> rfl

theorem standsOn_withdraw {p : ProposalRow} {g : GrantRow} {d : DecisionRow} {published : Event}
    {now : Timestamp} (hs : s.Sound authority)
    (hm : s.allows authority (.withdraw p g d published now)) :
    StandsOn (s.apply (.withdraw p g d published now))
      (AdmissionAuthority.withdrawnClaim g.deviceRef p g d.targetBusinessOwnerId now)
      (p.moved .claimRevoked now) d (g.revoke now) := by
  obtain ⟨hp, -, hg, hge, hd, hdg, -⟩ := hm
  have hgranted := hs.granted_of_has hp hg hge hd hdg
  refine ⟨?_, ?_, ?_, rfl, rfl, rfl, rfl, .inr ⟨rfl, .inr rfl, by simp⟩⟩
  · simp [HasProposal, apply, withDeviceRevoked, hge]
  · simp [apply, withDeviceRevoked, hge, hgranted.decision]
  · simp [apply, withDeviceRevoked, hge]

theorem standsOn_revoke {c : ClaimRow} {published : Event} {now : Timestamp} {p : ProposalRow}
    {d : DecisionRow} {g : GrantRow} (h : StandsOn s c p d g) (hactive : c.state ≠ .revoked) :
    StandsOn (s.apply (.revoke c published now)) (c.revoke now) p d (g.revoke now) := by
  have hacked : p.state = .grantAcknowledged := by
    rcases h.state with ⟨-, hp, -⟩ | ⟨hc, -⟩
    · exact hp
    · exact absurd hc hactive
  refine ⟨?_, ?_, ?_, h.approvalDecisionId, h.deviceRef, h.businessOwnerId, h.hardwareIdentityRef,
    .inr ⟨rfl, .inl hacked, by simp⟩⟩
  · simpa [HasProposal, apply, withDeviceRevoked, revokeGrantsOf_dossier] using h.proposal
  · simpa [apply, withDeviceRevoked, revokeGrantsOf_dossier] using h.decision
  · simp [apply, withDeviceRevoked, revokeGrantsOf_dossier, h.grant, h.approvalDecisionId]

theorem Sound.claims_apply {c : ClaimRow} {i : DeviceInstanceId} (hs : s.Sound authority)
    (hm : s.allows authority m) (hc : (s.apply m).claim i = some c) :
    c.deviceInstanceId = i ∧ ∃ p d g, StandsOn (s.apply m) c p d g := by
  by_cases hne : m.device = some i
  · cases m <;> simp only [Move.device, Option.some.injEq, reduceCtorEq] at hne <;> subst hne
    case acknowledge p g d a name published now =>
      rw [claim_acknowledge hs] at hc
      cases hc
      exact ⟨acknowledgedClaim_deviceInstanceId _ _ _ _ hs, _, _, _, standsOn_acknowledge hs hm⟩
    case withdraw p g d published now =>
      obtain rfl : AdmissionAuthority.withdrawnClaim g.deviceRef p g d.targetBusinessOwnerId now =
          c := by
        simpa [apply, withDeviceRevoked, AdmissionAuthority.withdrawnClaim] using hc
      exact ⟨rfl, _, _, _, standsOn_withdraw hs hm⟩
    case revoke c' published now =>
      obtain rfl : c'.revoke now = c := by
        simpa [apply, withDeviceRevoked, revokeGrantsOf, ClaimRow.revoke] using hc
      obtain ⟨-, p, d, g, h⟩ := hs.claims _ c' hm.1
      exact ⟨rfl, _, _, _, standsOn_revoke h hm.2.1⟩
  · rw [claim_apply_of_ne hs hne] at hc
    obtain ⟨hi, p, d, g, h⟩ := hs.claims i c hc
    exact ⟨hi, p, d, g, standsOn_apply_of_ne hs hm h (hi.symm ▸ hne)⟩

theorem Sound.devices_apply {row : DeviceRow} {i : DeviceInstanceId} (hs : s.Sound authority)
    (hm : s.allows authority m) (hrow : (s.apply m).device i = some row) :
    ∃ c, (s.apply m).claim i = some c ∧ Shows row c := by
  by_cases hne : m.device = some i
  · cases m <;> simp only [Move.device, Option.some.injEq, reduceCtorEq] at hne <;> subst hne
    case acknowledge p g d a name published now =>
      refine ⟨_, claim_acknowledge hs, ?_⟩
      obtain rfl : acknowledgedDevice s p g d name now = row := by simpa [apply] using hrow
      refine ⟨?_, ?_, .inl ⟨?_, ?_⟩⟩
      · rw [acknowledgedClaim_deviceRef _ _ _ _ hs]
        unfold acknowledgedDevice
        cases s.device g.deviceRef.deviceInstanceId <;> exact ⟨rfl, rfl, rfl⟩
      · unfold acknowledgedDevice acknowledgedClaim ClaimRow.over
        cases s.device g.deviceRef.deviceInstanceId <;>
          cases s.claim g.deviceRef.deviceInstanceId <;> rfl
      · unfold acknowledgedDevice
        cases s.device g.deviceRef.deviceInstanceId <;> rfl
      · exact acknowledgedClaim_state
    case withdraw p g d published now =>
      -- a device without a Claim has no directory row either
      obtain ⟨-, -, -, -, -, -, hnone, -⟩ := hm
      cases hd : s.device g.deviceRef.deviceInstanceId with
      | none => simp [apply, withDeviceRevoked, hd] at hrow
      | some row' =>
        obtain ⟨c, hc, -⟩ := hs.devices _ row' hd
        simp [hnone] at hc
    case revoke c published now =>
      have hclaim : (s.apply (.revoke c published now)).claim c.deviceInstanceId =
          some (c.revoke now) := by
        simp [apply, withDeviceRevoked, revokeGrantsOf, ClaimRow.revoke]
      refine ⟨_, hclaim, ?_⟩
      have hdev : (s.device c.deviceInstanceId).map (DeviceRow.revoke c.deviceRef now) = some row := by
        simpa [apply, withDeviceRevoked, revokeGrantsOf, ClaimRow.deviceRef] using hrow
      obtain ⟨row', hrow', rfl⟩ := Option.map_eq_some_iff.mp hdev
      obtain ⟨c', hc', hshows⟩ := hs.devices _ row' hrow'
      obtain rfl : c' = c := by simpa [hm.1] using hc'.symm
      have hgen := hshows.generation
      rw [DeviceRow.revoke, if_pos hgen]
      exact ⟨hgen, hshows.owner, .inr ⟨rfl, rfl⟩⟩
  · rw [device_apply_of_ne hne] at hrow
    obtain ⟨c, hc, hshows⟩ := hs.devices i row hrow
    exact ⟨c, by rw [claim_apply_of_ne hs hne, hc], hshows⟩

/-- **Every move keeps the registry sound.** -/
theorem Sound.apply (hs : s.Sound authority) (hm : s.allows authority m) :
    (s.apply m).Sound authority where
  legal _ := hs.legal_apply hm
  decisionIds _ _ _ _ := hs.decisionIds_apply hm
  lineage _ _ _ _ := hs.lineage_apply hm
  claims _ _ := hs.claims_apply hm
  devices _ _ := hs.devices_apply hm

end Step

end Registry

namespace AdmissionAuthority

variable {authority : AdmissionAuthority} {t : Tables}

/-- **Every reachable registry is sound.** -/
theorem reachable_sound (h : Reachable authority t) : t.registry.Sound authority :=
  reachable_inv Registry.sound_empty (fun _ _ hs hm => hs.apply hm) h

/-- Every request keeps the registry sound. -/
theorem next_sound {request : Request} (h : t.registry.Sound authority) :
    (authority.next t request).registry.Sound authority :=
  next_inv (fun _ _ hs hm => hs.apply hm) h

/-- Over a run of requests, dossiers only grow. -/
theorem run_grows (h : t.registry.Sound authority) (requests : List Request) :
    (run authority.next t requests).registry.Sound authority ∧
      t.registry.Grows (run authority.next t requests).registry := by
  refine run_inv (I := fun t' : Tables => t'.registry.Sound authority ∧
    t.registry.Grows t'.registry) ?_ ⟨h, .refl _⟩ requests
  intro t' request ht'
  exact next_inv (I := fun s => s.Sound authority ∧ t.registry.Grows s)
    (fun _ _ hs hm => ⟨hs.1.apply hm, hs.2.trans (hs.1.grows hm)⟩) ht'

end AdmissionAuthority

end EidolonHub.Admission
