import EidolonHub.Admission.Invariants

/-!
# EidolonHub.Admission.History

**The tables always describe one legal history of every Proposal.** A history is
a chain of allowed transitions from `pending_review`, and each transition raises
the revision by one, so state and revision together say how far a Proposal has
come; the Decision, the grant and the acknowledgement on file are the ones that
belong to that point, and a terminal Proposal is never written again.
-/

namespace EidolonHub.Admission

open EidolonHub.Library

/-- The states a Proposal has gone through, the present one first. -/
inductive History : List ProposalState → Prop where
  | created : History [.pendingReview]
  | moved {s s' : ProposalState} {path : List ProposalState} (h : History (s :: path))
      (allowed : s' ∈ s.allowed) : History (s' :: s :: path)

namespace History

theorem approved : History [.approvedAwaitingHandoff, .pendingReview] :=
  created.moved (by decide)

theorem delivered : History [.grantDelivered, .approvedAwaitingHandoff, .pendingReview] :=
  approved.moved (by decide)

end History

/-- What the tables say of a Proposal is one legal history. -/
structure LegalProposal (t : Tables) (p : ProposalRow) : Prop where
  /-- a chain of allowed transitions leads to the state, one revision each; an
  envelope is on file only where the chain has passed the delivery -/
  history : ∃ path, History (p.state :: path) ∧ p.revision = path.length + 1 ∧
    ∀ g ∈ t.grants, g.enrollmentId = p.enrollmentId → g.wireEnvelope ≠ none →
      .grantDelivered ∈ p.state :: path
  pending : p.state = .pendingReview →
    (∀ d ∈ t.decisions, d.enrollmentId ≠ p.enrollmentId) ∧
      ∀ g ∈ t.grants, g.enrollmentId ≠ p.enrollmentId
  rejected : p.state = .rejected →
    (∃! d, d ∈ t.decisions ∧ d.enrollmentId = p.enrollmentId) ∧
      ∀ g ∈ t.grants, g.enrollmentId ≠ p.enrollmentId
  approved : p.state = .approvedAwaitingHandoff ∨ p.state = .grantDelivered ∨
      p.state = .grantAcknowledged →
    (∃! d, d ∈ t.decisions ∧ d.enrollmentId = p.enrollmentId) ∧
      (∀ d ∈ t.decisions, d.enrollmentId = p.enrollmentId →
        d.decision = .approve ∧ d.expectedProposalRevision = 1) ∧
      ∃! g, g ∈ t.grants ∧ g.enrollmentId = p.enrollmentId
  acknowledged : p.state = .grantAcknowledged → ∃ g, g ∈ t.grants ∧
    g.enrollmentId = p.enrollmentId ∧ ∃! a, a ∈ t.acks ∧ a.grantId = g.grantId

namespace AdmissionAuthority

open Registry

variable {authority : AdmissionAuthority} {t : Tables} {p : ProposalRow}

/-! ### From the dossier to the tables -/

theorem none_of_undecided (h : (t.registry.dossier p.enrollmentId).grant = none) :
    ∀ g ∈ t.grants, g.enrollmentId ≠ p.enrollmentId :=
  Table.get_eq_none_iff.mp h

/-- A row that a dossier holds is the only one of its enrollment. -/
theorem only_decision {d : DecisionRow}
    (h : (t.registry.dossier p.enrollmentId).decision = some d) :
    ∃! d, d ∈ t.decisions ∧ d.enrollmentId = p.enrollmentId := by
  obtain ⟨hmem, he⟩ := Tables.decision_of_dossier h
  refine ⟨d, ⟨hmem, he⟩, ?_⟩
  rintro d' ⟨hd', he'⟩
  exact Table.eq_of_key decision_enrollmentId_isKey hd' hmem (he'.trans he.symm)

theorem only_grant {g : GrantRow} (h : (t.registry.dossier p.enrollmentId).grant = some g) :
    ∃! g, g ∈ t.grants ∧ g.enrollmentId = p.enrollmentId := by
  obtain ⟨hmem, he⟩ := Tables.grant_of_dossier h
  refine ⟨g, ⟨hmem, he⟩, ?_⟩
  rintro g' ⟨hg', he'⟩
  exact Table.eq_of_key grant_enrollmentId_isKey hg' hmem (he'.trans he.symm)

/-- The revision of an ended grant, and whether it was delivered, tell its history. -/
theorem history_of_ended {target : ProposalState}
    (h : (t.registry.dossier p.enrollmentId).Ended authority p)
    (happroved : target ∈ ProposalState.approvedAwaitingHandoff.allowed)
    (hdelivered : target ∈ ProposalState.grantDelivered.allowed) :
    ∃ path, History (target :: path) ∧ p.revision = path.length + 1 ∧
      ∀ g ∈ t.grants, g.enrollmentId = p.enrollmentId → g.wireEnvelope ≠ none →
        .grantDelivered ∈ target :: path := by
  obtain ⟨d, g, hgranted, -, -, ⟨hrev, henv⟩ | ⟨hrev, -⟩⟩ := h
  · refine ⟨_, History.approved.moved happroved, hrev, ?_⟩
    intro g' hg' he' henv'
    have : g' = g := (only_grant hgranted.grant).unique ⟨hg', he'⟩
      (Tables.grant_of_dossier hgranted.grant)
    exact absurd henv (this ▸ henv')
  · exact ⟨_, History.delivered.moved hdelivered, hrev, fun _ _ _ _ => by simp⟩

theorem history_of_phase (h : (t.registry.dossier p.enrollmentId).Phase authority p) :
    ∃ path, History (p.state :: path) ∧ p.revision = path.length + 1 ∧
      ∀ g ∈ t.grants, g.enrollmentId = p.enrollmentId → g.wireEnvelope ≠ none →
        .grantDelivered ∈ p.state :: path := by
  have hblank : ∀ path : List ProposalState, (t.registry.dossier p.enrollmentId).grant = none →
      ∀ g ∈ t.grants, g.enrollmentId = p.enrollmentId → g.wireEnvelope ≠ none →
        ProposalState.grantDelivered ∈ path :=
    fun _ hnone g hg he => absurd he (none_of_undecided hnone g hg)
  cases hs : p.state <;> simp only [Dossier.Phase, hs] at h
  case pendingReview => exact ⟨[], .created, h.1, hblank _ h.2.2.1⟩
  case canceled => exact ⟨_, History.created.moved (by decide), h.1, hblank _ h.2.2.1⟩
  case rejected => exact ⟨_, History.created.moved (by decide), h.1, hblank _ h.2.1⟩
  case approvedAwaitingHandoff =>
    obtain ⟨hrev, -, d, g, hgranted, henv, -⟩ := h
    refine ⟨_, History.approved, hrev, ?_⟩
    intro g' hg' he' henv'
    have : g' = g := (only_grant hgranted.grant).unique ⟨hg', he'⟩
      (Tables.grant_of_dossier hgranted.grant)
    exact absurd henv (this ▸ henv')
  case grantDelivered => exact ⟨_, History.delivered, h.1, fun _ _ _ _ => by simp⟩
  case grantAcknowledged =>
    exact ⟨_, History.delivered.moved (by decide), h.1, fun _ _ _ _ => by simp⟩
  case expired =>
    rcases h with ⟨hrev, hundecided⟩ | hended
    · exact ⟨_, History.created.moved (by decide), hrev, hblank _ hundecided.2.1⟩
    · exact history_of_ended hended (by decide) (by decide)
  case claimRevoked => exact history_of_ended h (by decide) (by decide)

/-- In sound tables every Proposal has a legal history. -/
theorem legalProposal (h : t.registry.Sound authority) (hp : p ∈ t.proposals) :
    LegalProposal t p := by
  obtain ⟨-, -, hphase⟩ := (h.legal p.enrollmentId).proposal (Tables.hasProposal_iff.mpr hp)
  refine ⟨history_of_phase hphase, ?_, ?_, ?_, ?_⟩
  · intro hs
    simp only [Dossier.Phase, hs] at hphase
    obtain ⟨-, hdecision, hgrant, -⟩ := hphase
    exact ⟨Table.get_eq_none_iff.mp hdecision, none_of_undecided hgrant⟩
  · intro hs
    simp only [Dossier.Phase, hs] at hphase
    obtain ⟨-, hgrant, -, d, hd, -⟩ := hphase
    exact ⟨only_decision hd, none_of_undecided hgrant⟩
  · intro hs
    obtain ⟨d, g, hgranted⟩ : ∃ d g, (t.registry.dossier p.enrollmentId).Granted authority p d g := by
      rcases hs with hs | hs | hs <;> simp only [Dossier.Phase, hs] at hphase
      · obtain ⟨-, -, d, g, hgranted, -⟩ := hphase
        exact ⟨d, g, hgranted⟩
      · obtain ⟨-, -, d, g, hgranted, -⟩ := hphase
        exact ⟨d, g, hgranted⟩
      · obtain ⟨-, d, g, a, hgranted, -⟩ := hphase
        exact ⟨d, g, hgranted⟩
    refine ⟨only_decision hgranted.decision, ?_, only_grant hgranted.grant⟩
    intro d' hmem he
    obtain rfl : d' = d := (only_decision hgranted.decision).unique ⟨hmem, he⟩
      (Tables.decision_of_dossier hgranted.decision)
    exact ⟨hgranted.approval.approves, hgranted.approval.expected⟩
  · intro hs
    simp only [Dossier.Phase, hs] at hphase
    obtain ⟨-, d, g, a, hgranted, -, hack, -, hag, -⟩ := hphase
    obtain ⟨hg, he⟩ := Tables.grant_of_dossier hgranted.grant
    refine ⟨g, hg, he, a, ⟨Table.get_mem hack, hag⟩, ?_⟩
    rintro a' ⟨hmem, hag'⟩
    exact Table.eq_of_key ack_grantId_isKey hmem (Table.get_mem hack) (hag'.trans hag.symm)

/-! ### Over runs -/

/-- A terminal Proposal is the same row after every later request. -/
theorem run_terminal (hp : p ∈ t.proposals) (hterm : p.state.terminal = true)
    (requests : List Request) : p ∈ (run authority.next t requests).proposals := by
  rw [← Tables.hasProposal_iff] at hp ⊢
  refine run_inv (I := fun t : Tables => t.registry.HasProposal p) ?_ hp requests
  intro t request hp
  exact next_inv (I := fun s => s.HasProposal p)
    (fun _ _ hp hm => proposal_apply_of_terminal hm hp hterm) hp

/-- **Proposal histories are legal** in every reachable state, and end where they end. -/
theorem proposals_legal (h : Reachable authority t) (hp : p ∈ t.proposals) :
    LegalProposal t p ∧
      (p.state.terminal = true →
        ∀ requests, p ∈ (run authority.next t requests).proposals) :=
  ⟨legalProposal (reachable_sound h) hp, run_terminal hp⟩

/-- A device that was enrolled, decided, handed its grant and acknowledged it. -/
theorem proposals_legal_acknowledged : ∃ p, p.state = .grantAcknowledged ∧
    LegalProposal (Sample.after [Sample.create "e" "k", Sample.decide "e" .approve,
      Sample.collect "e", Sample.ack "e" 1]) p ∧
    ∀ requests, p ∈ (run Sample.authority.next (Sample.after [Sample.create "e" "k",
      Sample.decide "e" .approve, Sample.collect "e", Sample.ack "e" 1]) requests).proposals := by
  have hstate : ((Sample.after [Sample.create "e" "k", Sample.decide "e" .approve,
      Sample.collect "e", Sample.ack "e" 1]).proposals.get (·.enrollmentId) "e").map (·.state) =
      some .grantAcknowledged := by decide +kernel
  obtain ⟨p, hp, hs⟩ := Option.map_eq_some_iff.mp hstate
  obtain ⟨hlegal, hkept⟩ := proposals_legal (Sample.after_reachable _) (Table.get_mem hp)
  exact ⟨p, hs, hlegal, hkept (by rw [hs]; rfl)⟩

end AdmissionAuthority

end EidolonHub.Admission
