import EidolonHub.Admission.Commands
import Mathlib.Logic.Function.Basic

/-!
# EidolonHub.Admission.Registry

**The registry behind the tables**: what Admission knows, without the tables it
keeps it in. Everything recorded about one enrollment is its dossier; every
device instance has at most one Claim and one directory row; the Claim events
form one stream.

A committed command is a list of *moves* on the registry. `Registry.allows` says
when a move is open and `Registry.apply` what it changes; invariants of the
Authority are proved here, one case per move, and reach the tables through the
simulation (`EidolonHub.Admission.Simulation`).
-/

namespace EidolonHub.Admission

open EidolonHub.Library

/-- Everything recorded about one enrollment. -/
@[ext] structure Dossier where
  proposal : Option ProposalRow
  decision : Option DecisionRow
  grant : Option GrantRow
  ack : Option GrantAckRow

/-- The dossier of an enrollment that never happened. -/
def Dossier.blank : Dossier := ⟨none, none, none, none⟩

/-- The tables as an enrollment and a device see them: the dossier of each enrollment, the Claim and the
directory row of each device, and the stream of Claim events. -/
@[ext] structure Registry where
  dossier : EnrollmentId → Dossier
  claim : DeviceInstanceId → Option ClaimRow
  device : DeviceInstanceId → Option DeviceRow
  stream : List Event

namespace Registry

/-- The registry of a fresh Authority. -/
def empty : Registry := ⟨fun _ => .blank, fun _ => none, fun _ => none, []⟩

variable (s : Registry)

/-! ### Elementary updates -/

/-- Rewrite one dossier. -/
def onDossier (e : EnrollmentId) (f : Dossier → Dossier) : Registry :=
  { s with dossier := Function.update s.dossier e (f (s.dossier e)) }

/-- A Proposal is written into its dossier. -/
def withProposal (p : ProposalRow) : Registry :=
  s.onDossier p.enrollmentId fun x => { x with proposal := some p }

/-- A decision is written into its dossier. -/
def withDecision (d : DecisionRow) : Registry :=
  s.onDossier d.enrollmentId fun x => { x with decision := some d }

/-- A grant is written into its dossier. -/
def withGrant (g : GrantRow) : Registry :=
  s.onDossier g.enrollmentId fun x => { x with grant := some g }

/-- An acknowledgement is written into its dossier. -/
def withAck (a : GrantAckRow) : Registry :=
  s.onDossier a.enrollmentId fun x => { x with ack := some a }

/-- A Claim takes the place of the one of its device. -/
def withClaim (c : ClaimRow) : Registry :=
  { s with claim := Function.update s.claim c.deviceInstanceId (some c) }

/-- A directory row takes the place of the one of its device. -/
def withDevice (deviceId : DeviceInstanceId) (row : Option DeviceRow) : Registry :=
  { s with device := Function.update s.device deviceId row }

/-- An event is appended to the stream. -/
def publish (event : Event) : Registry := { s with stream := s.stream ++ [event] }

section Updates

variable {s} {p : ProposalRow} {d : DecisionRow} {g : GrantRow} {a : GrantAckRow} {c : ClaimRow}
  {i : DeviceInstanceId} {row : Option DeviceRow} {event : Event} {e : EnrollmentId}
  {j : DeviceInstanceId}

@[simp] theorem onDossier_dossier {f : Dossier → Dossier} {e' : EnrollmentId} :
    (s.onDossier e f).dossier e' = if e' = e then f (s.dossier e') else s.dossier e' := by
  by_cases h : e' = e
  · subst h; simp [onDossier]
  · simp [onDossier, h]

@[simp] theorem withProposal_dossier : (s.withProposal p).dossier e =
    if e = p.enrollmentId then { s.dossier e with proposal := some p } else s.dossier e :=
  onDossier_dossier

@[simp] theorem withDecision_dossier : (s.withDecision d).dossier e =
    if e = d.enrollmentId then { s.dossier e with decision := some d } else s.dossier e :=
  onDossier_dossier

@[simp] theorem withGrant_dossier : (s.withGrant g).dossier e =
    if e = g.enrollmentId then { s.dossier e with grant := some g } else s.dossier e :=
  onDossier_dossier

@[simp] theorem withAck_dossier : (s.withAck a).dossier e =
    if e = a.enrollmentId then { s.dossier e with ack := some a } else s.dossier e :=
  onDossier_dossier

@[simp] theorem withClaim_claim : (s.withClaim c).claim j =
    if j = c.deviceInstanceId then some c else s.claim j := by
  simp [withClaim, Function.update_apply]

@[simp] theorem withDevice_device : (s.withDevice i row).device j =
    if j = i then row else s.device j := by
  simp [withDevice, Function.update_apply]

@[simp] theorem withProposal_claim : (s.withProposal p).claim = s.claim := rfl
@[simp] theorem withProposal_device : (s.withProposal p).device = s.device := rfl
@[simp] theorem withProposal_stream : (s.withProposal p).stream = s.stream := rfl
@[simp] theorem withDecision_claim : (s.withDecision d).claim = s.claim := rfl
@[simp] theorem withDecision_device : (s.withDecision d).device = s.device := rfl
@[simp] theorem withDecision_stream : (s.withDecision d).stream = s.stream := rfl
@[simp] theorem withGrant_claim : (s.withGrant g).claim = s.claim := rfl
@[simp] theorem withGrant_device : (s.withGrant g).device = s.device := rfl
@[simp] theorem withGrant_stream : (s.withGrant g).stream = s.stream := rfl
@[simp] theorem withAck_claim : (s.withAck a).claim = s.claim := rfl
@[simp] theorem withAck_device : (s.withAck a).device = s.device := rfl
@[simp] theorem withAck_stream : (s.withAck a).stream = s.stream := rfl
@[simp] theorem withClaim_dossier : (s.withClaim c).dossier = s.dossier := rfl
@[simp] theorem withClaim_device : (s.withClaim c).device = s.device := rfl
@[simp] theorem withClaim_stream : (s.withClaim c).stream = s.stream := rfl
@[simp] theorem withDevice_dossier : (s.withDevice i row).dossier = s.dossier := rfl
@[simp] theorem withDevice_claim : (s.withDevice i row).claim = s.claim := rfl
@[simp] theorem withDevice_stream : (s.withDevice i row).stream = s.stream := rfl
@[simp] theorem publish_dossier : (s.publish event).dossier = s.dossier := rfl
@[simp] theorem publish_claim : (s.publish event).claim = s.claim := rfl
@[simp] theorem publish_device : (s.publish event).device = s.device := rfl
@[simp] theorem publish_stream : (s.publish event).stream = s.stream ++ [event] := rfl

end Updates

/-! ### What the registry holds -/

/-- A Proposal, Decision or grant of some enrollment. -/
def HasProposal (p : ProposalRow) : Prop := (s.dossier p.enrollmentId).proposal = some p

/-- The decision is in its dossier. -/
def HasDecision (d : DecisionRow) : Prop := (s.dossier d.enrollmentId).decision = some d

/-- The grant is in its dossier. -/
def HasGrant (g : GrantRow) : Prop := (s.dossier g.enrollmentId).grant = some g

end Registry

/-! ### Moves -/

/-- What a committed command does to the registry. -/
inductive Move where
  | enroll (p : ProposalRow)
  | reject (p : ProposalRow) (d : DecisionRow) (now : Timestamp)
  | approve (p : ProposalRow) (d : DecisionRow) (g : GrantRow) (now : Timestamp)
  | deliver (p : ProposalRow) (g : GrantRow) (envelope : ClaimGrantWireEnvelope) (now : Timestamp)
  | acknowledge (p : ProposalRow) (g : GrantRow) (d : DecisionRow) (a : GrantAckRow)
      (name : String) (published : Event) (now : Timestamp)
  | cancel (p : ProposalRow) (now : Timestamp)
  | expire (p : ProposalRow) (now : Timestamp)
  | withdraw (p : ProposalRow) (g : GrantRow) (d : DecisionRow) (published : Event)
      (now : Timestamp)
  | revoke (c : ClaimRow) (published : Event) (now : Timestamp)

/-- A grant that a deadline ends is revoked, unless it was before. -/
def GrantRow.lapse (now : Timestamp) (g : GrantRow) : GrantRow :=
  if g.revokedAt = none then g.revoke now else g

/-- The Claim an activation leaves, over the one the device had. -/
def ClaimRow.over (values : ClaimRow) : Option ClaimRow → ClaimRow
  | none => values
  | some existing => values.replacedBy existing

/-- The Claim row a Move acknowledges into being. -/
def acknowledgedClaim (s : Registry) (p : ProposalRow) (g : GrantRow) (d : DecisionRow)
    (now : Timestamp) : ClaimRow :=
  (AdmissionAuthority.activeClaim p g d.targetBusinessOwnerId now).over
    (s.claim g.deviceRef.deviceInstanceId)

/-- The reference a Proposal makes to its Manifest. -/
def ProposalRow.manifestRef (p : ProposalRow) : ManifestRef :=
  ⟨p.manifestId, p.manifestRevision, p.manifestDigest⟩

/-- The directory row an activation leaves. -/
def acknowledgedDevice (s : Registry) (p : ProposalRow) (g : GrantRow) (d : DecisionRow)
    (name : String) (now : Timestamp) : DeviceRow :=
  match s.device g.deviceRef.deviceInstanceId with
  | none => .enrolled name g.deviceRef d.targetBusinessOwnerId p.manifestRef p.manifestJson now
  | some row => row.activated g.deviceRef d.targetBusinessOwnerId p.manifestRef p.manifestJson now

namespace Registry

/-- The registry after revoking the grants with a decision id. -/
def revokeGrantsOf (s : Registry) (decisionId : DecisionId) (now : Timestamp) : Registry :=
  { s with dossier := fun e =>
      { s.dossier e with
        grant := (s.dossier e).grant.map fun g =>
          if g.decisionId = decisionId then g.revoke now else g } }

/-- The registry after a deadline ended the grant of an enrollment, if it had one. -/
def lapseGrant (s : Registry) (e : EnrollmentId) (now : Timestamp) : Registry :=
  s.onDossier e fun x => { x with grant := x.grant.map (GrantRow.lapse now) }

@[simp] theorem lapseGrant_dossier {s : Registry} {e e' : EnrollmentId} {now : Timestamp} :
    (s.lapseGrant e now).dossier e' =
      if e' = e then { s.dossier e' with grant := (s.dossier e').grant.map (GrantRow.lapse now) }
      else s.dossier e' := onDossier_dossier

/-- Storing the grant a registry already holds changes nothing. -/
theorem withGrant_self {s : Registry} {g : GrantRow} (h : s.HasGrant g) : s.withGrant g = s := by
  ext1
  · funext e
    by_cases he : e = g.enrollmentId
    · subst he
      unfold HasGrant at h
      simp [← h]
    · simp [he]
  all_goals rfl

theorem lapseGrant_of_none {s : Registry} {e : EnrollmentId} {now : Timestamp}
    (h : (s.dossier e).grant = none) : s.lapseGrant e now = s := by
  ext1
  · funext e'
    by_cases he : e' = e
    · subst he
      rw [lapseGrant_dossier, if_pos rfl]
      ext1 <;> simp [h]
    · simp [he]
  all_goals rfl

theorem lapseGrant_eq {s : Registry} {g : GrantRow} {now : Timestamp}
    (h : (s.dossier g.enrollmentId).grant = some g) :
    s.lapseGrant g.enrollmentId now = s.withGrant (g.lapse now) := by
  have hkeep : (g.lapse now).enrollmentId = g.enrollmentId := by
    unfold GrantRow.lapse
    split <;> rfl
  ext1
  · funext e
    by_cases he : e = g.enrollmentId
    · subst he
      simp [hkeep, h]
    · simp [hkeep, he]
  all_goals rfl

theorem revokeGrantsOf_dossier {s : Registry} {decisionId : DecisionId} {now : Timestamp}
    {e : EnrollmentId} : (s.revokeGrantsOf decisionId now).dossier e =
      { s.dossier e with
        grant := (s.dossier e).grant.map fun g =>
          if g.decisionId = decisionId then g.revoke now else g } := rfl

theorem revokeGrantsOf_of_none {s : Registry} {decisionId : DecisionId} {now : Timestamp}
    (h : ∀ e g, (s.dossier e).grant = some g → g.decisionId ≠ decisionId) :
    s.revokeGrantsOf decisionId now = s := by
  ext1
  · funext e
    rw [revokeGrantsOf_dossier]
    ext1 <;> try rfl
    cases hg : (s.dossier e).grant with
    | none => rfl
    | some g => simp [h e g hg]
  all_goals rfl

/-- A Decision has one grant at most, so revoking by Decision revokes one grant. -/
theorem revokeGrantsOf_eq {s : Registry} {g : GrantRow} {decisionId : DecisionId}
    {now : Timestamp} (hg : s.HasGrant g) (hd : g.decisionId = decisionId)
    (huniq : ∀ e g', (s.dossier e).grant = some g' → g'.decisionId = decisionId →
      e = g.enrollmentId) :
    s.revokeGrantsOf decisionId now = s.withGrant (g.revoke now) := by
  have hkeep : (g.revoke now).enrollmentId = g.enrollmentId := rfl
  ext1
  · funext e
    rw [revokeGrantsOf_dossier, withGrant_dossier, hkeep]
    by_cases he : e = g.enrollmentId
    · subst he
      unfold HasGrant at hg
      simp [hg, hd]
    · rw [if_neg he]
      ext1 <;> try rfl
      cases hg' : (s.dossier e).grant with
      | none => rfl
      | some g' =>
        have hne : g'.decisionId ≠ decisionId := fun h => he (huniq e g' hg' h)
        simp [hne]
  all_goals rfl

/-- The directory row of a generation that is revoked. -/
def withDeviceRevoked (s : Registry) (ref : DeviceRef) (now : Timestamp) : Registry :=
  s.withDevice ref.deviceInstanceId ((s.device ref.deviceInstanceId).map (DeviceRow.revoke ref now))

/-- What a move changes. -/
def apply (s : Registry) : Move → Registry
  | .enroll p => s.withProposal p
  | .reject p d now => (s.withDecision d).withProposal (p.moved .rejected now)
  | .approve p d g now =>
    ((s.withDecision d).withProposal (p.moved .approvedAwaitingHandoff now)).withGrant g
  | .deliver p g envelope now =>
    (s.withGrant (g.deliver envelope now)).withProposal (p.moved .grantDelivered now)
  | .acknowledge p g d a name published now =>
    ((((s.withAck a).withClaim (acknowledgedClaim s p g d now)).withDevice
      g.deviceRef.deviceInstanceId (some (acknowledgedDevice s p g d name now))).withProposal
        (p.moved .grantAcknowledged now)).publish published
  | .cancel p now => s.withProposal (p.moved .canceled now)
  | .expire p now => (s.withProposal (p.moved .expired now)).lapseGrant p.enrollmentId now
  | .withdraw p g d published now =>
    (((((s.withProposal (p.moved .claimRevoked now)).withGrant (g.revoke now))).withClaim
      (AdmissionAuthority.withdrawnClaim g.deviceRef p g d.targetBusinessOwnerId now)).withDeviceRevoked
        g.deviceRef now).publish published
  | .revoke c published now =>
    (((s.withClaim (c.revoke now)).revokeGrantsOf c.approvalDecisionId now).withDeviceRevoked
      c.deviceRef now).publish published

/-- A grant is the next one its hardware gets: one generation above all before it. -/
def Issues (s : Registry) (g : GrantRow) : Prop :=
  (∀ e g', (s.dossier e).grant = some g' → g'.ownerDomainId = g.ownerDomainId →
    g'.hardwareIdentityRef = g.hardwareIdentityRef → g'.claimGeneration < g.claimGeneration) ∧
  (g.claimGeneration = 1 ∨ ∃ e g', (s.dossier e).grant = some g' ∧
    g'.ownerDomainId = g.ownerDomainId ∧ g'.hardwareIdentityRef = g.hardwareIdentityRef ∧
    g'.claimGeneration + 1 = g.claimGeneration)

/-- The Decision is new and records what was pending. -/
structure Decides (s : Registry) (p : ProposalRow) (kind : DecisionKind) (d : DecisionRow) :
    Prop where
  enrollmentId : d.enrollmentId = p.enrollmentId
  decision : d.decision = kind
  targetOwnerDomainId : d.targetOwnerDomainId = p.requestedOwnerDomainId
  expectedProposalRevision : d.expectedProposalRevision = p.revision
  fresh : ∀ e d', (s.dossier e).decision = some d' → d'.decisionId ≠ d.decisionId

/-- The grant is new, unused, and made for this Proposal and Decision. -/
structure Grants (authority : AdmissionAuthority) (s : Registry) (p : ProposalRow)
    (d : DecisionRow) (g : GrantRow) : Prop where
  enrollmentId : g.enrollmentId = p.enrollmentId
  decisionId : g.decisionId = d.decisionId
  ownerDomainId : g.ownerDomainId = p.requestedOwnerDomainId
  hardwareIdentityRef : g.hardwareIdentityRef = p.hardwareIdentityRef
  operationalKeyId : g.operationalKeyId = p.operationalKeyId
  deviceRef : g.deviceRef = ⟨p.deviceInstanceId, p.requestedOwnerDomainId,
    authority.ownerDomainGeneration, g.claimGeneration, 1⟩
  wireEnvelope : g.wireEnvelope = none
  deliveredAt : g.deliveredAt = none
  revokedAt : g.revokedAt = none
  issues : s.Issues g
  freshGrant : ∀ e g', (s.dossier e).grant = some g' → g'.grantId ≠ g.grantId
  freshDecision : ∀ e g', (s.dossier e).grant = some g' → g'.decisionId ≠ d.decisionId

/-- The event is the Claim event of this aggregate, revision and data. -/
structure Publishes (published : Event) (type : EventType) (ref : DeviceRef) (revision : Nat)
    (data : EventData) : Prop where
  type : published.type = type
  subject : published.subject = deviceSubject ref.deviceInstanceId
  ownerDomainId : published.ownerDomainId = ref.ownerDomainId
  revision : published.aggregateRev = revision
  data : published.data = data

/-- When a move is open. -/
def allows (authority : AdmissionAuthority) (s : Registry) : Move → Prop
  | .enroll p => (s.dossier p.enrollmentId).proposal = none ∧ p.state = .pendingReview ∧ p.revision = 1 ∧
      p.requestedOwnerDomainId = authority.ownerDomainId
  | .reject p d _ => s.HasProposal p ∧ p.state = .pendingReview ∧ s.Decides p .reject d
  | .approve p d g _ => s.HasProposal p ∧ p.state = .pendingReview ∧ s.Decides p .approve d ∧
      Grants authority s p d g
  | .deliver p g _ now => s.HasProposal p ∧ p.state = .approvedAwaitingHandoff ∧ s.HasGrant g ∧
      g.enrollmentId = p.enrollmentId ∧ g.wireEnvelope = none ∧ g.revokedAt = none ∧
      now < p.expiresAt ∧ now < g.expiresAt
  | .acknowledge p g d a _ published now => s.HasProposal p ∧ p.state = .grantDelivered ∧
      s.HasGrant g ∧ g.enrollmentId = p.enrollmentId ∧ g.revokedAt = none ∧ now < g.expiresAt ∧
      s.HasDecision d ∧ d.decisionId = g.decisionId ∧
      (s.dossier p.enrollmentId).ack = none ∧ a.enrollmentId = p.enrollmentId ∧
      a.grantId = g.grantId ∧ a.deviceRef = g.deviceRef ∧
      Publishes published .claimActivated g.deviceRef (acknowledgedClaim s p g d now).revision
        (.activated g.deviceRef d.targetBusinessOwnerId g.manifestRef g.decisionId now)
  | .cancel p _ => s.HasProposal p ∧ p.state = .pendingReview
  | .expire p now => s.HasProposal p ∧ expirable p.state = true ∧ p.expiresAt ≤ now
  | .withdraw p g d published now => s.HasProposal p ∧
      (p.state = .approvedAwaitingHandoff ∨ p.state = .grantDelivered) ∧ s.HasGrant g ∧
      g.enrollmentId = p.enrollmentId ∧ s.HasDecision d ∧ d.decisionId = g.decisionId ∧
      s.claim g.deviceRef.deviceInstanceId = none ∧
      ∃ reason, Publishes published .claimRevoked g.deviceRef 1 (.revoked g.deviceRef reason now)
  | .revoke c published now => s.claim c.deviceInstanceId = some c ∧ c.state ≠ .revoked ∧
      ∃ reason, Publishes published .claimRevoked c.deviceRef (c.revision + 1)
        (.revoked c.deviceRef reason now)

/-- The moves were open one after the other and lead from one registry to the other. -/
def Follows (authority : AdmissionAuthority) (s : Registry) (moves : List Move) (s' : Registry) :
    Prop :=
  Along apply (allows authority) s moves ∧ s' = run apply s moves

variable {authority : AdmissionAuthority} {s s' s'' : Registry} {moves moves' : List Move}

theorem Follows.nil : Follows authority s [] s := ⟨trivial, rfl⟩

theorem Follows.single {m : Move} (h : s.allows authority m) : Follows authority s [m] (s.apply m) :=
  ⟨⟨h, trivial⟩, rfl⟩

theorem Follows.append (h : Follows authority s moves s') (h' : Follows authority s' moves' s'') :
    Follows authority s (moves ++ moves') s'' := by
  obtain ⟨ha, rfl⟩ := h
  obtain ⟨ha', rfl⟩ := h'
  exact ⟨along_append.mpr ⟨ha, ha'⟩, (run_append apply s moves moves').symm⟩

/-- What every open move preserves is preserved by every list of moves. -/
theorem Follows.inv {I : Registry → Prop}
    (hstep : ∀ s m, I s → s.allows authority m → I (s.apply m))
    (h : Follows authority s moves s') (h0 : I s) : I s' := by
  obtain ⟨ha, rfl⟩ := h
  exact run_inv_along hstep h0 ha

/-- `Follows.inv` where something is known of the moves. -/
theorem Follows.inv_of {I : Registry → Prop} {Q : Move → Prop}
    (hstep : ∀ s m, I s → s.allows authority m → Q m → I (s.apply m))
    (h : Follows authority s moves s') (hQ : ∀ m ∈ moves, Q m) (h0 : I s) : I s' := by
  obtain ⟨ha, rfl⟩ := h
  induction moves generalizing s with
  | nil => exact h0
  | cons m moves ih =>
    rw [List.forall_mem_cons] at hQ
    exact ih hQ.2 (hstep s m h0 ha.1 hQ.1) ha.2

end Registry

end EidolonHub.Admission
