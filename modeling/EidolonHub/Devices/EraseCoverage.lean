import EidolonHub.Admission.ClaimStream
import EidolonHub.Devices.EraseLedger

/-!
# EidolonHub.Devices.EraseCoverage

**Every revocation becomes an instruction**, unless the device is claimed again first. A pass reads
the revocations of the past and takes the key of each from the Claim of the present. The Claim is of
the generation that was revoked until the device is activated again; from then on a revocation that
has no instruction yet finds another generation there, and the pass raises, for every device.
-/

namespace EidolonHub.Admission

open EidolonHub.Library EidolonHub.Library.Tx
open EidolonHub.Devices.DeviceErase (Revokes)

namespace Registry

variable {authority : AdmissionAuthority} {s s' : Registry} {m : Move} {ref : DeviceRef} {key : Spki}

/-! ### The key of a generation -/

/-- A grant of this generation was issued for a Proposal with this key, which is at its end. -/
def Keyed (s : Registry) (ref : DeviceRef) (key : Spki) : Prop :=
  ∃ p g, s.HasProposal p ∧ (s.dossier p.enrollmentId).grant = some g ∧ g.deviceRef = ref ∧
    p.operationalPublicKeySpki = key ∧ p.state.terminal = true

theorem Keyed.apply (hm : s.allows authority m) (h : s.Keyed ref key) : (s.apply m).Keyed ref key := by
  obtain ⟨p, g, hp, hg, href, hkey, hterminal⟩ := h
  have hp' := proposal_apply_of_terminal hm hp hterminal
  have hne := enrollment_ne_of_terminal hm hp hterminal
  cases he : m.enrollment with
  | some e =>
    have hdossier := dossier_apply_of_ne hm he fun heq => hne (he.trans (congrArg some heq.symm))
    exact ⟨p, g, hp', by rw [hdossier, hg], href, hkey, hterminal⟩
  | none =>
    cases m <;> simp only [Move.enrollment, reduceCtorEq] at he
    rename_i c published now
    refine ⟨p, if g.decisionId = c.approvalDecisionId then g.revoke now else g, hp', ?_, ?_, hkey, hterminal⟩
    · simp [Registry.apply, withDeviceRevoked, revokeGrantsOf_dossier, hg]
    · split
      · exact href
      · exact href

/-- What a Claim stands on has its key. -/
theorem keyed_of_standsOn {c : ClaimRow} {p : ProposalRow} {d : DecisionRow} {g : GrantRow}
    (h : StandsOn s c p d g) (hkey : c.operationalPublicKeySpki = p.operationalPublicKeySpki) :
    s.Keyed c.deviceRef c.operationalPublicKeySpki := by
  refine ⟨p, g, h.proposal, h.grant, h.deviceRef.symm, hkey.symm, ?_⟩
  rcases h.state with ⟨-, hp, -⟩ | ⟨-, hp | hp, -⟩ <;> rw [hp] <;> rfl

/-- Every Claim has the key of a grant of its generation. -/
def ClaimsKeyed (s : Registry) : Prop :=
  ∀ i c, s.claim i = some c → s.Keyed c.deviceRef c.operationalPublicKeySpki

theorem ClaimsKeyed.apply (hs : s.Sound authority) (hm : s.allows authority m) (h : s.ClaimsKeyed) :
    (s.apply m).ClaimsKeyed := by
  intro i c hc
  by_cases hne : m.device = some i
  · cases m <;> simp only [Move.device, Option.some.injEq, reduceCtorEq] at hne <;> subst hne
    case acknowledge p g d a name published now =>
      rw [claim_acknowledge hs] at hc
      cases hc
      refine keyed_of_standsOn (standsOn_acknowledge hs hm) ?_
      unfold acknowledgedClaim ClaimRow.over
      cases s.claim g.deviceRef.deviceInstanceId <;> rfl
    case withdraw p g d published now =>
      obtain rfl : AdmissionAuthority.withdrawnClaim g.deviceRef p g d.targetBusinessOwnerId now = c := by
        simpa [Registry.apply, withDeviceRevoked, AdmissionAuthority.withdrawnClaim] using hc
      exact keyed_of_standsOn (standsOn_withdraw hs hm) rfl
    case revoke c' published now =>
      obtain rfl : c'.revoke now = c := by
        simpa [Registry.apply, withDeviceRevoked, revokeGrantsOf, ClaimRow.revoke] using hc
      exact Keyed.apply hm (h _ c' hm.1)
  · rw [claim_apply_of_ne hs hne] at hc
    exact Keyed.apply hm (h i c hc)

/-! ### The revocations in the stream -/

/-- An event of the stream revokes a generation exactly when its type says so. -/
def StreamTyped (s : Registry) : Prop :=
  ∀ event ∈ s.stream, event.type = .claimRevoked ↔ ∃ ref, Revokes event ref

theorem StreamTyped.apply (hm : s.allows authority m) (h : s.StreamTyped) : (s.apply m).StreamTyped := by
  cases m with
  | acknowledge p g d a name published now =>
    obtain ⟨-, -, -, -, -, -, -, -, -, -, -, -, hpub⟩ := hm
    intro event hevent
    rcases List.mem_append.mp hevent with hold | hnew
    · exact h event hold
    · rw [List.mem_singleton.mp hnew]
      simp [hpub.type, Revokes, hpub.data]
  | withdraw p g d published now =>
    obtain ⟨-, -, -, -, -, -, -, reason, hpub⟩ := hm
    intro event hevent
    rcases List.mem_append.mp hevent with hold | hnew
    · exact h event hold
    · rw [List.mem_singleton.mp hnew]
      exact iff_of_true hpub.type ⟨_, _, _, hpub.data⟩
  | revoke c published now =>
    obtain ⟨-, -, reason, hpub⟩ := hm
    intro event hevent
    rcases List.mem_append.mp hevent with hold | hnew
    · exact h event hold
    · rw [List.mem_singleton.mp hnew]
      exact iff_of_true hpub.type ⟨_, _, _, hpub.data⟩
  | _ => exact h

theorem stream_apply (event : Event) (h : event ∈ s.stream) : event ∈ (s.apply m).stream := by
  cases m with
  | acknowledge | withdraw | revoke => exact List.mem_append_left _ h
  | _ => exact h

/-- Every revocation in the stream is among the ones dealt with, or is of the generation its device
still has. -/
def Matched (dealt : EventId → Prop) (s : Registry) : Prop :=
  ∀ event ∈ s.stream, ∀ ref, Revokes event ref → dealt event.id ∨
    ∃ c, s.claim ref.deviceInstanceId = some c ∧ c.deviceRef = ref

/-- A move that is not an activation leaves the Claim of a device at its generation. -/
theorem deviceRef_apply {c : ClaimRow} {i : DeviceInstanceId} (hs : s.Sound authority)
    (hm : s.allows authority m) (hother : ∀ p g d a name published now, m ≠ .acknowledge p g d a name published now)
    (hc : s.claim i = some c) : ∃ c', (s.apply m).claim i = some c' ∧ c'.deviceRef = c.deviceRef := by
  by_cases hne : m.device = some i
  · cases m <;> simp only [Move.device, Option.some.injEq, reduceCtorEq] at hne <;> subst hne
    case acknowledge p g d a name published now => exact absurd rfl (hother p g d a name published now)
    case withdraw p g d published now =>
      obtain ⟨-, -, -, -, -, -, hnone, -⟩ := hm
      rw [hnone] at hc
      cases hc
    case revoke c' published now =>
      rw [hm.1] at hc
      cases hc
      exact ⟨c.revoke now, by simp [Registry.apply, withDeviceRevoked, revokeGrantsOf, ClaimRow.revoke], rfl⟩
  · exact ⟨c, by rw [claim_apply_of_ne hs hne, hc], rfl⟩

/-- A move that is not an activation leaves the revocations matched. -/
theorem Matched.apply {dealt : EventId → Prop} (hs : s.Sound authority) (hm : s.allows authority m)
    (hother : ∀ p g d a name published now, m ≠ .acknowledge p g d a name published now)
    (h : Matched dealt s) : Matched dealt (s.apply m) := by
  -- what was matched stays so, and a revocation that is published is of the Claim it writes
  have hold : ∀ event ∈ s.stream, ∀ ref, Revokes event ref → dealt event.id ∨
      ∃ c, (s.apply m).claim ref.deviceInstanceId = some c ∧ c.deviceRef = ref := by
    intro event hevent ref hrevokes
    rcases h event hevent ref hrevokes with hdealt | ⟨c, hc, href⟩
    · exact .inl hdealt
    · obtain ⟨c', hc', hsame⟩ := deviceRef_apply hs hm hother hc
      exact .inr ⟨c', hc', hsame.trans href⟩
  cases m with
  | acknowledge p g d a name published now => exact absurd rfl (hother p g d a name published now)
  | withdraw p g d published now =>
    obtain ⟨-, -, -, -, -, -, -, reason, hpub⟩ := hm
    intro event hevent ref hrevokes
    rcases List.mem_append.mp hevent with hevent | hnew
    · exact hold event hevent ref hrevokes
    · obtain rfl := List.mem_singleton.mp hnew
      obtain ⟨reason', at', hdata⟩ := hrevokes
      rw [hpub.data] at hdata
      cases hdata
      exact .inr ⟨AdmissionAuthority.withdrawnClaim g.deviceRef p g d.targetBusinessOwnerId now,
        by simp [Registry.apply, withDeviceRevoked, AdmissionAuthority.withdrawnClaim], rfl⟩
  | revoke c published now =>
    obtain ⟨-, -, reason, hpub⟩ := hm
    intro event hevent ref hrevokes
    rcases List.mem_append.mp hevent with hevent | hnew
    · exact hold event hevent ref hrevokes
    · obtain rfl := List.mem_singleton.mp hnew
      obtain ⟨reason', at', hdata⟩ := hrevokes
      rw [hpub.data] at hdata
      cases hdata
      exact .inr ⟨c.revoke now, by
        simp [Registry.apply, withDeviceRevoked, revokeGrantsOf, ClaimRow.revoke, ClaimRow.deviceRef], rfl⟩
  | _ => exact hold

/-- **An activation** leaves the revocations matched exactly when those of its device that are not
dealt with are of the generation it activates. -/
theorem matched_acknowledge {dealt : EventId → Prop} {p : ProposalRow} {g : GrantRow} {d : DecisionRow}
    {a : GrantAckRow} {name : String} {published : Event} {now : Timestamp} (hs : s.Sound authority)
    (hm : s.allows authority (.acknowledge p g d a name published now)) (h : Matched dealt s) :
    Matched dealt (s.apply (.acknowledge p g d a name published now)) ↔ ∀ event ∈ s.stream, ∀ ref,
      Revokes event ref → ref.deviceInstanceId = g.deviceRef.deviceInstanceId → ref ≠ g.deviceRef →
      dealt event.id := by
  have hclaim : (s.apply (.acknowledge p g d a name published now)).claim g.deviceRef.deviceInstanceId =
      some (acknowledgedClaim s p g d now) := claim_acknowledge hs
  have href := acknowledgedClaim_deviceRef p g d now hs
  obtain ⟨-, -, -, -, -, -, -, -, -, -, -, -, hpub⟩ := hm
  constructor
  · intro hmatched event hevent ref hrevokes hdevice hne
    rcases hmatched event (stream_apply event hevent) ref hrevokes with hdealt | ⟨c, hc, hsame⟩
    · exact hdealt
    · rw [hdevice, hclaim] at hc
      cases hc
      exact absurd (hsame.symm.trans href) hne
  · intro hdealt event hevent ref hrevokes
    rcases List.mem_append.mp hevent with hevent | hnew
    · by_cases hdevice : ref.deviceInstanceId = g.deviceRef.deviceInstanceId
      · by_cases hsame : ref = g.deviceRef
        · exact .inr ⟨_, by rw [hsame]; exact hclaim, href.trans hsame.symm⟩
        · exact .inl (hdealt event hevent ref hrevokes hdevice hsame)
      · rcases h event hevent ref hrevokes with hold | ⟨c, hc, hsame⟩
        · exact .inl hold
        · have hne : (Move.acknowledge p g d a name published now).device ≠ some ref.deviceInstanceId :=
            fun heq => hdevice (Option.some.inj heq).symm
          exact .inr ⟨c, by rw [claim_apply_of_ne hs hne, hc], hsame⟩
    · obtain rfl := List.mem_singleton.mp hnew
      obtain ⟨reason, at', hdata⟩ := hrevokes
      rw [hpub.data] at hdata
      cases hdata

end Registry

namespace AdmissionAuthority

open Registry

variable {authority : AdmissionAuthority} {t t' : Tables} {request : Request} {ref : DeviceRef}

/-! ### One request -/

/-- The request acknowledges a grant, not for the second time, and activates its generation. -/
def ActivatesRef (authority : AdmissionAuthority) (t : Tables) (request : Request) (ref : DeviceRef) : Prop :=
  ∃ commandId correlationId enrollmentId grantId proof generation epoch draws result t' g,
    request = .command (.ackClaimGrant commandId correlationId enrollmentId grantId proof generation epoch)
      draws ∧
    Commits (Command.transaction authority (.ackClaimGrant commandId correlationId enrollmentId grantId
      proof generation epoch) draws) t result t' ∧
    result.outcome = .committed ∧ g ∈ t.grants ∧ g.grantId = grantId ∧ g.deviceRef = ref

theorem ActivatesRef.moves (h : ActivatesRef authority t request ref) : ∃ p g d a name published now,
    g.deviceRef = ref ∧ t.registry.allows authority (.acknowledge p g d a name published now) ∧
      (authority.next t request).registry = t.registry.apply (.acknowledge p g d a name published now) := by
  obtain ⟨commandId, correlationId, enrollmentId, grantId, proof, generation, epoch, draws, result, t', g, rfl,
    hcommits, hnew, hg, hgid, rfl⟩ := h
  obtain ⟨fp, -, hsession⟩ := command_commits hcommits
  rcases ackClaimGrant_follows hsession with ⟨-, hreplayed⟩ |
    ⟨-, p, g', d, name, published, -, hid, ⟨⟨hallows, -⟩, hrun⟩⟩
  · rw [hnew] at hreplayed
    cases hreplayed
  · obtain rfl : g' = g := by
      obtain ⟨-, -, hgrant, -⟩ := hallows
      exact Table.eq_of_key grant_grantId_isKey (Tables.hasGrant_iff.mp hgrant) hg (hid.trans hgid.symm)
    refine ⟨p, g', d, _, name, published, draws.now, rfl, hallows, ?_⟩
    rw [next_command hcommits, hrun]
    rfl

theorem ActivatesRef.unique {ref' : DeviceRef} (h : ActivatesRef authority t request ref)
    (h' : ActivatesRef authority t request ref') : ref = ref' := by
  obtain ⟨_, _, _, grantId, _, _, _, _, _, _, g, rfl, -, -, hg, hid, rfl⟩ := h
  obtain ⟨_, _, _, _, _, _, _, _, _, _, g', heq, -, -, hg', hid', rfl⟩ := h'
  cases heq
  rw [Table.eq_of_key grant_grantId_isKey hg hg' (hid.trans hid'.symm)]

/-- What activates nothing makes no move that does. -/
theorem makes_of_not_activates (hnone : ∀ ref, ¬ ActivatesRef authority t request ref) :
    ∃ moves, (∀ m ∈ moves, ∀ p g d a name published now, m ≠ .acknowledge p g d a name published now) ∧
      Follows authority t.registry moves (authority.next t request).registry := by
  by_cases hack : ∃ commandId correlationId enrollmentId grantId proof generation epoch draws, request =
      .command (.ackClaimGrant commandId correlationId enrollmentId grantId proof generation epoch) draws
  · obtain ⟨commandId, correlationId, enrollmentId, grantId, proof, generation, epoch, draws, rfl⟩ := hack
    refine ⟨[], by simp, ?_⟩
    rcases next_command_cases authority t (.ackClaimGrant commandId correlationId enrollmentId grantId proof
      generation epoch) draws with ⟨r, hcommits⟩ | hsame
    · obtain ⟨fp, -, hsession⟩ := command_commits hcommits
      rcases ackClaimGrant_follows hsession with ⟨hsame, -⟩ |
        ⟨hnew, p, g, d, name, published, -, rfl, ⟨⟨⟨-, -, hgrant, -⟩, -⟩, -⟩⟩
      · rw [hsame]
        exact Follows.nil
      · exact absurd ⟨_, _, _, _, _, _, _, _, _, _, g, rfl, hcommits, hnew, Tables.hasGrant_iff.mp hgrant, rfl, rfl⟩
          (hnone g.deviceRef)
    · rw [hsame]
      exact Follows.nil
  · obtain ⟨moves, hmakes, hfollows⟩ := next_makes authority t request
    refine ⟨moves, ?_, hfollows⟩
    rintro m hm p g d a name published now rfl
    have hmove := hmakes _ hm
    cases request with
    | command cmd draws =>
      cases cmd with
      | ackClaimGrant => exact hack ⟨_, _, _, _, _, _, _, _, rfl⟩
      | createEnrollment | decideEnrollment | cancelEnrollment | collectClaimGrant | revokeClaim =>
        simp [Request.makes] at hmove
    | expireDue | recordStanding | withdrawController => simp [Request.makes] at hmove

/-- **A request leaves the revocations matched** exactly when it does not activate a generation of a
device ahead of the revocation of another one. -/
theorem matched_next {dealt : EventId → Prop} (hreach : Reachable authority t)
    (h : Matched dealt t.registry) : Matched dealt (authority.next t request).registry ↔
      ∀ ref, ActivatesRef authority t request ref → ∀ event ∈ t.registry.stream, ∀ ref', Revokes event ref' →
        ref'.deviceInstanceId = ref.deviceInstanceId → ref' ≠ ref → dealt event.id := by
  have hs := reachable_sound hreach
  by_cases hactivates : ∃ ref, ActivatesRef authority t request ref
  · obtain ⟨ref, hactivates⟩ := hactivates
    obtain ⟨p, g, d, a, name, published, now, rfl, hallows, hnext⟩ := hactivates.moves
    rw [hnext, matched_acknowledge hs hallows h]
    constructor
    · intro hdealt ref hother
      rw [← hactivates.unique hother]
      exact hdealt
    · exact fun hdealt => hdealt g.deviceRef hactivates
  · push Not at hactivates
    refine iff_of_true ?_ fun ref hother => absurd hother (hactivates ref)
    obtain ⟨moves, hother, hfollows⟩ := makes_of_not_activates hactivates
    refine (hfollows.inv_of (I := fun s => s.Sound authority ∧ Matched dealt s)
      (Q := fun m => ∀ p g d a name published now, m ≠ .acknowledge p g d a name published now)
      ?_ hother ⟨hs, h⟩).2
    exact fun s m hI hm hother => ⟨hI.1.apply hm, hI.2.apply hI.1 hm hother⟩

end AdmissionAuthority

end EidolonHub.Admission

namespace EidolonHub.Devices

open EidolonHub.Library EidolonHub.Library.Tx EidolonHub.Library.Python EidolonHub.Admission

namespace DeviceErase

variable {erase : DeviceErase} {l l' : EraseLedger} {row row' : EraseOperationRow} {event : Event}
  {deviceRef : DeviceRef} {request : EraseRequest}

/-! ### What the rows and the stream say of each other -/

/-- Every row is the instruction of a revocation in the stream, with a key of its generation. -/
def Instructed (erase : DeviceErase) (l : EraseLedger) : Prop :=
  ∀ row ∈ l.operations, ∃ event ∈ revocations l.tables, ∃ deviceRef key, Revokes event deviceRef ∧
    Instructs erase event deviceRef row ∧ row.publicKeySpki = some key ∧ l.tables.registry.Keyed deviceRef key

theorem Instructs.of_identity (h : Instructs erase event deviceRef row) (hidentity : row'.identity = row.identity) :
    Instructs erase event deviceRef row' := by
  have hevent : row'.identity.sourceEventId = row.identity.sourceEventId := congrArg _ hidentity
  have href : row'.identity.deviceRef = row.identity.deviceRef := congrArg _ hidentity
  exact ⟨(operationId_of_identity hidentity).trans h.operationId, Eq.trans hevent h.sourceEventId,
    Eq.trans href h.deviceRef⟩

/-- The Claim of a generation is the one at its device, in that generation. -/
theorem claimOf_eq_some {claim : ClaimRow} : claimOf l deviceRef = some claim ↔
    l.tables.registry.claim deviceRef.deviceInstanceId = some claim ∧ claim.deviceRef = deviceRef := by
  unfold claimOf
  rw [Option.filter_eq_some_iff]
  refine and_congr_right fun hclaim => ?_
  have hid : claim.deviceInstanceId = deviceRef.deviceInstanceId := Table.get_key hclaim
  constructor
  · intro hsame
    obtain ⟨hdomain, hdomainGeneration, hgeneration, hepoch⟩ := of_decide_eq_true hsame
    unfold ClaimRow.deviceRef
    rw [hid, hdomain, hdomainGeneration, hgeneration, hepoch]
  · rintro rfl
    exact decide_eq_true ⟨rfl, rfl, rfl, rfl⟩

theorem revoked_unique {deviceRef' : DeviceRef} (h : Revokes event deviceRef) (h' : Revokes event deviceRef') :
    deviceRef = deviceRef' := by
  obtain ⟨_, _, h⟩ := h
  obtain ⟨_, _, h'⟩ := h'
  rw [h] at h'
  cases h'
  rfl

/-- What is known of the ledger after any run. -/
structure Grounded (erase : DeviceErase) (l : EraseLedger) : Prop where
  reachable : Admission.Reachable erase.authority l.tables
  typed : l.tables.registry.StreamTyped
  keyed : l.tables.registry.ClaimsKeyed
  instructed : Instructed erase l

theorem Grounded.mem_revocations (h : Grounded erase l) : event ∈ revocations l.tables ↔
    event ∈ l.tables.registry.stream ∧ ∃ deviceRef, Revokes event deviceRef := by
  have hcopied := AdmissionAuthority.reachable_copied h.reachable
  unfold revocations
  rw [List.mem_map]
  constructor
  · rintro ⟨row, hrow, rfl⟩
    obtain ⟨hrow, htype⟩ := List.mem_filter.mp hrow
    have hmem : row.event ∈ l.tables.registry.stream := List.mem_map_of_mem hrow
    exact ⟨hmem, (h.typed _ hmem).mp ((hcopied.copies row hrow).2.1.symm.trans (of_decide_eq_true htype))⟩
  · rintro ⟨hmem, hrevokes⟩
    obtain ⟨row, hrow, rfl⟩ := List.mem_map.mp hmem
    refine ⟨row, List.mem_filter.mpr ⟨hrow, decide_eq_true ?_⟩, rfl⟩
    exact (hcopied.copies row hrow).2.1.trans ((h.typed _ hmem).mpr hrevokes)

/-- Two revocations have two event ids. -/
theorem Grounded.event_unique {event' : Event} (h : Grounded erase l) (he : event ∈ revocations l.tables)
    (he' : event' ∈ revocations l.tables) (hid : event.id = event'.id) : event = event' := by
  have hcopied := AdmissionAuthority.reachable_copied h.reachable
  obtain ⟨row, hrow, rfl⟩ := List.mem_map.mp he
  obtain ⟨row', hrow', rfl⟩ := List.mem_map.mp he'
  replace hrow := (List.mem_filter.mp hrow).1
  replace hrow' := (List.mem_filter.mp hrow').1
  rw [Table.eq_of_key stream_eventId_isKey hrow hrow' ((hcopied.copies row hrow).1.trans
    (hid.trans (hcopied.copies row' hrow').1.symm))]

/-- A request to Admission changes its tables, any other the rest. -/
theorem next_tables (hrequest : ∀ admission, request ≠ .admission admission) :
    (erase.next l request).tables = l.tables := by
  cases request with
  | admission admission => exact absurd rfl (hrequest admission)
  | materialize =>
    rcases attempt_cases erase.materializeClaimEvents l with ⟨n, h⟩ | ⟨-, h⟩
    · exact (materializeClaimEvents_commits h).tables
    · rw [next, h]
  | markAcceptedPending now | expireDue now => rfl
  | rearmLapsed operationId now =>
    rcases attempt_cases (erase.rearmLapsed operationId now) l with ⟨operation, h⟩ | ⟨-, h⟩
    · obtain ⟨row, -, -, h⟩ := rearmLapsed_commits.mp h
      rw [next, h]
    · rw [next, h]
  | acceptDelivery operationId deliveryAttemptId acceptedAt =>
    rcases attempt_cases (acceptDelivery operationId deliveryAttemptId acceptedAt) l with
      ⟨operation, h⟩ | ⟨-, h⟩
    · obtain ⟨row, -, -, h⟩ := acceptDelivery_commits.mp h
      rw [next, h]
    · rw [next, h]
  | acknowledge ack receivedAt =>
    rcases attempt_cases (erase.acknowledge ack receivedAt) l with ⟨operation, h⟩ | ⟨-, h⟩
    · rcases acknowledge_commits h with ⟨hsame, -⟩ | ⟨row, hacknowledges, -⟩
      · rw [next, hsame]
      · exact hacknowledges.tables
    · rw [next, h]

/-- A transaction of the ledger leaves its rows instructed. -/
theorem Change.instructed (hchange : Change erase l l') (htables : l'.tables = l.tables)
    (h : Grounded erase l) : Instructed erase l' := by
  intro row' hrow'
  rw [htables]
  rcases hchange.origin hrow' with ⟨row, hrow, hidentity⟩ |
    ⟨event, hevent, deviceRef, claim, hrevokes, hclaim, rfl⟩
  · obtain ⟨event, hevent, deviceRef, key, hrevokes, hinstructs, hkey, hkeyed⟩ := h.instructed row hrow
    have hsame : row'.identity.publicKeySpki = row.identity.publicKeySpki := congrArg _ hidentity
    exact ⟨event, hevent, deviceRef, key, hrevokes, hinstructs.of_identity hidentity, Eq.trans hsame hkey, hkeyed⟩
  · obtain ⟨hclaim, href⟩ := claimOf_eq_some.mp hclaim
    exact ⟨event, hevent, deviceRef, _, hrevokes, ⟨rfl, rfl, rfl⟩, rfl, href ▸ h.keyed _ claim hclaim⟩

/-- The revocations in the stream of a Hub are there to stay. -/
theorem Grounded.revocations_next {authority : AdmissionAuthority} {t : Tables} {request : Request}
    (he : event ∈ t.registry.stream) : event ∈ (authority.next t request).registry.stream :=
  AdmissionAuthority.next_inv (I := fun s => event ∈ s.stream) (fun _ _ h _ => Registry.stream_apply event h) he

theorem next_grounded (h : Grounded erase l) : Grounded erase (erase.next l request) := by
  by_cases hrequest : ∀ admission, request ≠ .admission admission
  · have htables : (erase.next l request).tables = l.tables := next_tables hrequest
    refine ⟨by rw [htables]; exact h.reachable, by rw [htables]; exact h.typed,
      by rw [htables]; exact h.keyed, (next_change l request).instructed htables h⟩
  push Not at hrequest
  obtain ⟨admission, rfl⟩ := hrequest
  have hnext : Grounded erase { erase.next l (.admission admission) with operations := .empty } := by
    refine ⟨h.reachable.step admission, ?_, ?_, fun row hrow => absurd hrow Table.not_mem_empty⟩
    · exact AdmissionAuthority.next_inv (fun _ _ hs hm => hs.apply hm) h.typed
    · exact (AdmissionAuthority.next_inv (I := fun s => s.Sound erase.authority ∧ s.ClaimsKeyed)
        (fun _ _ hs hm => ⟨hs.1.apply hm, hs.2.apply hs.1 hm⟩) ⟨AdmissionAuthority.reachable_sound h.reachable, h.keyed⟩).2
  refine ⟨hnext.reachable, hnext.typed, hnext.keyed, fun row hrow => ?_⟩
  obtain ⟨event, hevent, deviceRef, key, hrevokes, hinstructs, hkey, hkeyed⟩ := h.instructed row hrow
  refine ⟨event, ?_, deviceRef, key, hrevokes, hinstructs, hkey, ?_⟩
  · exact hnext.mem_revocations.mpr ⟨Grounded.revocations_next (h.mem_revocations.mp hevent).1, deviceRef, hrevokes⟩
  · exact AdmissionAuthority.next_inv (I := fun s => s.Keyed deviceRef key) (fun _ _ hs hm => hs.apply hm) hkeyed

/-! ### A pass that commits -/

/-- The revocations of the stream have operation ids of their own. -/
def DistinctIds (erase : DeviceErase) (l : EraseLedger) : Prop :=
  ∀ event ∈ revocations l.tables, ∀ event' ∈ revocations l.tables, ∀ deviceRef deviceRef',
    Revokes event deviceRef → Revokes event' deviceRef' →
    erase.operationId event deviceRef = erase.operationId event' deviceRef' → event.id = event'.id

/-- The revocation has an instruction. -/
def Dealt (l : EraseLedger) (eventId : EventId) : Prop := ∃ row ∈ l.operations, row.sourceEventId = eventId

/-- A round finds the instruction of its event, or the Claim to create it for. -/
theorem materializeEvent_ready (hgrounded : Grounded erase l) (hids : DistinctIds erase l)
    (hevent : event ∈ revocations l.tables) (hrevokes : Revokes event deviceRef)
    (hready : Dealt l event.id ∨ ∃ claim, claimOf l deviceRef = some claim) :
    ∃ n l', Commits (erase.materializeEvent event) l n l' := by
  -- a row of this event, or under its operation id, is its instruction
  have hinstructs : ∀ row ∈ l.operations, row.sourceEventId = event.id ∨
      row.operationId = erase.operationId event deviceRef → Instructs erase event deviceRef row := by
    intro row hrow hsame
    obtain ⟨event', hevent', deviceRef', -, hrevokes', hinstructs, -, -⟩ := hgrounded.instructed row hrow
    obtain rfl : event' = event := by
      refine hgrounded.event_unique hevent' hevent ?_
      rcases hsame with hsource | hoperation
      · exact hinstructs.sourceEventId.symm.trans hsource
      · exact hids event' hevent' event hevent deviceRef' deviceRef hrevokes' hrevokes
          (hinstructs.operationId.symm.trans hoperation)
    rwa [revoked_unique hrevokes hrevokes']
  obtain ⟨reason, at', hdata⟩ := hrevokes
  unfold materializeEvent
  rw [hdata]
  simp only [materializeRevocation_commits]
  by_cases hfound : ∃ row ∈ l.operations, row.operationId = erase.operationId event deviceRef
  · obtain ⟨row, hrow, hid⟩ := hfound
    have hinstruction := hinstructs row hrow (.inr hid)
    refine ⟨0, l, .inl ⟨row, ?_, hinstruction.sourceEventId, hinstruction.deviceRef, rfl, rfl⟩⟩
    rw [← hid]
    exact Table.get_of_mem eraseOperation_operationId_isKey hrow
  · have hnone : ∀ row ∈ l.operations, row.sourceEventId ≠ event.id := fun row hrow hsource =>
      hfound ⟨row, hrow, (hinstructs row hrow (.inl hsource)).operationId⟩
    rcases hready with ⟨row, hrow, hsource⟩ | ⟨claim, hclaim⟩
    · exact absurd hsource (hnone row hrow)
    · have hfresh : ∀ row ∈ l.operations, Keyed.clash row (erase.operationFor event deviceRef claim) = false := by
        intro row hrow
        have hid : row.operationId ≠ erase.operationId event deviceRef := fun hid => hfound ⟨row, hrow, hid⟩
        simp [Keyed.clash, operationFor, hid, hnone row hrow]
      obtain ⟨operations, hinsert⟩ := Table.insert?_isSome hfresh
      exact ⟨1, _, .inr ⟨claim, operations, hclaim, hinsert, rfl, rfl⟩⟩

/-- A round leaves what is known of the ledger, and what the next rounds need. -/
theorem materializeEvent_grounded {n : Nat} (hgrounded : Grounded erase l) (hevent : event ∈ revocations l.tables)
    (hrevokes : Revokes event deviceRef) (h : Commits (erase.materializeEvent event) l n l') :
    Grounded erase l' ∧ l'.tables = l.tables ∧ ∀ eventId, Dealt l eventId → Dealt l' eventId := by
  obtain ⟨reason, at', hdata⟩ := hrevokes
  unfold materializeEvent at h
  rw [hdata] at h
  rcases materializeRevocation_commits.mp h with ⟨-, -, -, -, -, rfl⟩ |
    ⟨claim, operations, hclaim, hinsert, -, rfl⟩
  · exact ⟨hgrounded, rfl, fun _ => id⟩
  · refine ⟨⟨hgrounded.reachable, hgrounded.typed, hgrounded.keyed, fun row hrow => ?_⟩, rfl, ?_⟩
    · rcases (Table.mem_insert hinsert).mp hrow with hold | rfl
      · exact hgrounded.instructed row hold
      · obtain ⟨hclaim, href⟩ := claimOf_eq_some.mp hclaim
        exact ⟨event, hevent, deviceRef, _, ⟨reason, at', hdata⟩, ⟨rfl, rfl, rfl⟩, rfl,
          href ▸ hgrounded.keyed _ claim hclaim⟩
    · rintro eventId ⟨row, hrow, hsource⟩
      exact ⟨row, (Table.mem_insert hinsert).mpr (.inl hrow), hsource⟩

theorem materializeEvents_ready {events : List Event} (hgrounded : Grounded erase l)
    (hids : DistinctIds erase l) (hready : ∀ event ∈ events, event ∈ revocations l.tables ∧
      ∃ deviceRef, Revokes event deviceRef ∧ (Dealt l event.id ∨ ∃ claim, claimOf l deviceRef = some claim)) :
    ∃ n l', Commits (erase.materializeEvents events) l n l' := by
  induction events generalizing l with
  | nil => exact ⟨0, l, rfl⟩
  | cons event events ih =>
    obtain ⟨hevent, deviceRef, hrevokes, hhead⟩ := hready event List.mem_cons_self
    obtain ⟨n, l₁, hround⟩ := materializeEvent_ready hgrounded hids hevent hrevokes hhead
    obtain ⟨hgrounded', htables, hdealt⟩ := materializeEvent_grounded hgrounded hevent hrevokes hround
    have hrest : ∀ event ∈ events, event ∈ revocations l₁.tables ∧ ∃ deviceRef, Revokes event deviceRef ∧
        (Dealt l₁ event.id ∨ ∃ claim, claimOf l₁ deviceRef = some claim) := by
      intro event hmem
      obtain ⟨hevent, deviceRef, hrevokes, hstanding⟩ := hready event (List.mem_cons_of_mem _ hmem)
      refine ⟨htables ▸ hevent, deviceRef, hrevokes, hstanding.imp (hdealt event.id) ?_⟩
      unfold claimOf
      rw [htables]
      exact id
    obtain ⟨rest, l', hcommits⟩ := ih hgrounded' (by unfold DistinctIds; rwa [htables]) hrest
    exact ⟨n + rest, l', commits_bind.mpr ⟨n, l₁, hround, commits_bind.mpr ⟨rest, l', hcommits, rfl⟩⟩⟩

/-! ### What a pass leaves -/

/-- The one instruction of this revocation: addressed to its generation, with a key of it. -/
structure Answers (l : EraseLedger) (event : Event) (deviceRef : DeviceRef) (row : EraseOperationRow) :
    Prop where
  mem : row ∈ l.operations
  sourceEventId : row.sourceEventId = event.id
  only : ∀ other ∈ l.operations, other.sourceEventId = event.id → other = row
  addressed : row.deviceRef = deviceRef
  key : ∃ key, row.publicKeySpki = some key ∧ l.tables.registry.Keyed deviceRef key

/-- A pass does not raise, and after it every revocation in the stream has its one instruction, and
nothing else has one. -/
def Covers (erase : DeviceErase) (l : EraseLedger) : Prop :=
  ∃ n l', Commits erase.materializeClaimEvents l n l' ∧
    (∀ event ∈ revocations l.tables, ∃ deviceRef row, Revokes event deviceRef ∧ Answers l' event deviceRef row) ∧
    ∀ row ∈ l'.operations, ∃ event ∈ revocations l.tables, row.sourceEventId = event.id

/-- Every revocation without an instruction is of the generation its device still has. -/
def Timely (l : EraseLedger) : Prop := Registry.Matched (Dealt l) l.tables.registry

theorem timely_iff (hgrounded : Grounded erase l) : Timely l ↔ ∀ event ∈ revocations l.tables, ∀ deviceRef,
    Revokes event deviceRef → Dealt l event.id ∨ ∃ claim, claimOf l deviceRef = some claim := by
  simp only [claimOf_eq_some, Timely, Registry.Matched]
  constructor
  · exact fun h event hevent => h event (hgrounded.mem_revocations.mp hevent).1
  · exact fun h event hevent deviceRef hrevokes =>
      h event (hgrounded.mem_revocations.mpr ⟨hevent, deviceRef, hrevokes⟩) deviceRef hrevokes

/-- **A pass covers the revocations** exactly when each of them has its instruction or its Claim. -/
theorem covers_iff (hgrounded : Grounded erase l) (hids : DistinctIds erase l) : Covers erase l ↔ Timely l := by
  rw [timely_iff hgrounded]
  constructor
  · rintro ⟨n, l', hcommits, hall, -⟩ event hevent deviceRef hrevokes
    obtain ⟨_, row, -, hanswers⟩ := hall event hevent
    obtain ⟨created, hrows, hcreated⟩ := (materializeClaimEvents_commits hcommits).created
    have hmem := hanswers.mem
    rw [Table.mem_def, hrows] at hmem
    rcases List.mem_append.mp hmem with hold | hnew
    · exact .inl ⟨row, hold, hanswers.sourceEventId⟩
    · obtain ⟨event', hevent', deviceRef', claim, hrevokes', hclaim, rfl⟩ := hcreated row hnew
      obtain rfl := hgrounded.event_unique hevent' hevent hanswers.sourceEventId
      obtain rfl := revoked_unique hrevokes hrevokes'
      exact .inr ⟨claim, hclaim⟩
  · intro hready
    obtain ⟨n, l', hcommits⟩ := materializeEvents_ready hgrounded hids fun event hevent => by
      obtain ⟨deviceRef, hrevokes⟩ := (hgrounded.mem_revocations.mp hevent).2
      exact ⟨hevent, deviceRef, hrevokes, hready event hevent deviceRef hrevokes⟩
    have hpass : Commits erase.materializeClaimEvents l n l' :=
      commits_raiseIf_bind.mpr ⟨Int.not_le.mpr erase.operationTtl_pos, commits_read_bind.mpr hcommits⟩
    have hmaterialized := materializeClaimEvents_commits hpass
    have hinstructed : Instructed erase l' :=
      (Change.materialized hmaterialized).instructed hmaterialized.tables hgrounded
    rw [Instructed, hmaterialized.tables] at hinstructed
    refine ⟨n, l', hpass, fun event hevent => ?_, fun row hrow => ?_⟩
    · obtain ⟨deviceRef, hrevokes, row, hrow, hinstructs⟩ := hmaterialized.complete event hevent
      obtain ⟨event', hevent', deviceRef', key, hrevokes', hinstructs', hkey, hkeyed⟩ := hinstructed row hrow
      obtain rfl := hgrounded.event_unique hevent' hevent
        (hinstructs'.sourceEventId.symm.trans hinstructs.sourceEventId)
      obtain rfl := revoked_unique hrevokes hrevokes'
      refine ⟨deviceRef, row, hrevokes, hrow, hinstructs.sourceEventId, fun other hother hsource => ?_,
        hinstructs.deviceRef, key, hkey, hmaterialized.tables.symm ▸ hkeyed⟩
      exact Table.eq_of_key eraseOperation_sourceEventId_isKey hother hrow
        (hsource.trans hinstructs.sourceEventId.symm)
    · obtain ⟨event, hevent, _, _, -, hinstructs, -, -⟩ := hinstructed row hrow
      exact ⟨event, hevent, hinstructs.sourceEventId⟩

/-! ### Whole runs -/

/-- The request activates a generation of a device while the revocation of another one of it has no
instruction yet. -/
def Overtakes (erase : DeviceErase) (l : EraseLedger) : EraseRequest → Prop
  | .admission request => ∃ deviceRef, erase.authority.ActivatesRef l.tables request deviceRef ∧
      ∃ event ∈ revocations l.tables, ∃ revoked, Revokes event revoked ∧
        revoked.deviceInstanceId = deviceRef.deviceInstanceId ∧ revoked ≠ deviceRef ∧ ¬ Dealt l event.id
  | _ => False

/-- **A request keeps the revocations timely** exactly when it does not overtake one of them. -/
theorem next_timely (hgrounded : Grounded erase l) (h : Timely l) :
    Timely (erase.next l request) ↔ ¬ Overtakes erase l request := by
  by_cases hrequest : ∀ admission, request ≠ .admission admission
  · refine iff_of_true ?_ ?_
    · intro event hevent deviceRef hrevokes
      rw [next_tables hrequest] at hevent ⊢
      refine (h event hevent deviceRef hrevokes).imp ?_ id
      rintro ⟨row, hrow, hsource⟩
      obtain ⟨row', hrow', hidentity, -⟩ := (next_change l request).keeps row hrow
      have hsame : row'.identity.sourceEventId = row.identity.sourceEventId := congrArg _ hidentity
      exact ⟨row', hrow', Eq.trans hsame hsource⟩
    · cases request with
      | admission admission => exact absurd rfl (hrequest admission)
      | _ => exact id
  push Not at hrequest
  obtain ⟨admission, rfl⟩ := hrequest
  have hdealt : Dealt (erase.next l (.admission admission)) = Dealt l := rfl
  rw [Timely, hdealt]
  refine (AdmissionAuthority.matched_next hgrounded.reachable h).trans ?_
  constructor
  · rintro hall ⟨deviceRef, hactivates, event, hevent, revoked, hrevokes, hdevice, hne, hpending⟩
    exact hpending (hall deviceRef hactivates event (hgrounded.mem_revocations.mp hevent).1 revoked hrevokes
      hdevice hne)
  · intro hnone deviceRef hactivates event hevent revoked hrevokes hdevice hne
    by_contra hpending
    exact hnone ⟨deviceRef, hactivates, event, hgrounded.mem_revocations.mpr ⟨hevent, revoked, hrevokes⟩,
      revoked, hrevokes, hdevice, hne, hpending⟩

theorem grounded_empty : Grounded erase .empty where
  reachable := ⟨[], rfl⟩
  typed _ hevent := absurd hevent List.not_mem_nil
  keyed _ _ hclaim := by cases hclaim
  instructed _ hrow := absurd hrow Table.not_mem_empty

/-- The revocations of a run are among those it ends with. -/
theorem revocations_run (hgrounded : Grounded erase l) (requests : List EraseRequest)
    (hevent : event ∈ revocations l.tables) : event ∈ revocations (run erase.next l requests).tables := by
  refine (run_inv (I := fun l => Grounded erase l ∧ event ∈ revocations l.tables) ?_ ⟨hgrounded, hevent⟩
    requests).2
  rintro l request ⟨hgrounded, hevent⟩
  refine ⟨next_grounded hgrounded, ?_⟩
  obtain ⟨hmem, hrevokes⟩ := hgrounded.mem_revocations.mp hevent
  refine (next_grounded hgrounded).mem_revocations.mpr ⟨?_, hrevokes⟩
  by_cases hrequest : ∀ admission, request ≠ .admission admission
  · rwa [next_tables hrequest]
  push Not at hrequest
  obtain ⟨admission, rfl⟩ := hrequest
  exact Grounded.revocations_next hmem

/-- **Every pass covers the revocations**, in every order of passes and commands, exactly along the
runs in which no device is activated again before its revocation has an instruction; where the
operation ids of the revocations are distinct. -/
theorem covers_iff_timely (erase : DeviceErase) (requests : List EraseRequest)
    (hids : DistinctIds erase (run erase.next .empty requests)) :
    (∀ pre post, requests = pre ++ post → Covers erase (run erase.next .empty pre)) ↔
      Along erase.next (fun l request => ¬ Overtakes erase l request) .empty requests := by
  have hgrounded : ∀ requests, Grounded erase (run erase.next .empty requests) :=
    run_inv (fun _ _ => next_grounded) grounded_empty
  rw [along_iff_forall (I := Grounded erase) (P := Timely) (fun _ _ => next_grounded)
    (fun _ _ => next_timely) grounded_empty fun event hevent => absurd hevent List.not_mem_nil]
  refine forall_congr' fun pre => forall_congr' fun post => imp_congr_right fun hsplit => ?_
  refine covers_iff (hgrounded pre) fun event hevent event' hevent' => ?_
  subst hsplit
  rw [run_append] at hids
  exact hids event (revocations_run (hgrounded pre) post hevent) event'
    (revocations_run (hgrounded pre) post hevent')

end DeviceErase

/-! ### A lamp that is claimed again -/

namespace Sample

/-- The lost lamp is told to erase its data; then it is claimed again, and lost again. -/
def lampReturns : List EraseRequest :=
  lampLost.map .admission ++ [.materialize] ++
    (Sample.handoff "f" "k" ++ [Sample.ack "f" 2, Sample.revoke "again" "k" 2]).map .admission ++ [.materialize]

/-- The lamp is claimed again before a pass. -/
def lampOvertakes : List EraseRequest :=
  (lampLost ++ Sample.handoff "f" "k" ++ [Sample.ack "f" 2]).map .admission

/-- The generation that an event revokes. -/
def revoked (event : Event) : Option DeviceRef :=
  match event.data with
  | .revoked deviceRef _ _ => some deviceRef
  | _ => none

theorem distinctIds_of_revoked {l : EraseLedger}
    (h : ∀ event ∈ DeviceErase.revocations l.tables, ∀ event' ∈ DeviceErase.revocations l.tables,
      ∀ deviceRef ∈ revoked event, ∀ deviceRef' ∈ revoked event',
        erase.operationId event deviceRef = erase.operationId event' deviceRef' → event.id = event'.id) :
    DeviceErase.DistinctIds erase l := by
  intro event hevent event' hevent' deviceRef deviceRef' ⟨_, _, hdata⟩ ⟨_, _, hdata'⟩
  exact h event hevent event' hevent' deviceRef (by simp [revoked, hdata]) deviceRef' (by simp [revoked, hdata'])

theorem lampReturns_distinct : DeviceErase.DistinctIds erase (run erase.next .empty lampReturns) :=
  distinctIds_of_revoked (by decide +kernel)

theorem lampOvertakes_distinct : DeviceErase.DistinctIds erase (run erase.next .empty lampOvertakes) :=
  distinctIds_of_revoked (by decide +kernel)

end Sample

theorem covers_iff_timely_lamp :
    (∀ pre post, Sample.lampReturns = pre ++ post →
      DeviceErase.Covers Sample.erase (run Sample.erase.next .empty pre)) ↔
      Along Sample.erase.next (fun l request => ¬ DeviceErase.Overtakes Sample.erase l request) .empty
        Sample.lampReturns :=
  DeviceErase.covers_iff_timely Sample.erase Sample.lampReturns Sample.lampReturns_distinct

/-- A pass raises when a device was revoked and claimed again before it. -/
theorem reclaimed_device_blocks_pass : ¬ ∀ (erase : DeviceErase) (requests : List EraseRequest),
    DeviceErase.DistinctIds erase (run erase.next .empty requests) →
    ∀ pre post, requests = pre ++ post → DeviceErase.Covers erase (run erase.next .empty pre) := by
  intro hclaim
  obtain ⟨n, l', hcommits, -⟩ := hclaim Sample.erase Sample.lampOvertakes Sample.lampOvertakes_distinct
    Sample.lampOvertakes [] (List.append_nil _).symm
  have hraises : (Sample.erase.materializeClaimEvents
      (run Sample.erase.next .empty Sample.lampOvertakes)).toOption.isSome = false := by decide +kernel
  rw [show Sample.erase.materializeClaimEvents (run Sample.erase.next .empty Sample.lampOvertakes) = _ from
    hcommits] at hraises
  cases hraises

end EidolonHub.Devices
