import EidolonHub.Admission.ClaimStream
import EidolonHub.Admission.Fence
import EidolonHub.Admission.Identity

/-!
# EidolonHub.Admission.Withdrawal

**Withdrawing a grant before it is acknowledged.** A revocation that names the
generation of an outstanding grant looks at the Claim row of the device first:
where there is none it withdraws the grant, and where there is one, which is then
of another generation, it refuses. So an outstanding grant can be withdrawn
exactly while its device has no Claim row.
-/

namespace EidolonHub.Admission

open EidolonHub.Library EidolonHub.Library.Tx

namespace AdmissionAuthority

open Registry

variable {authority : AdmissionAuthority} {t t' : Tables} {g g' : GrantRow}

/-- One generation of one device has one grant. -/
theorem grant_of_deviceRef (h : Reachable authority t) (hkeys : InstanceNamesKey authority.crypto)
    (hg : g ∈ t.grants) (hg' : g' ∈ t.grants) (href : g.deviceRef = g'.deviceRef) : g = g' := by
  have hs := reachable_sound h
  have hgrant := Tables.hasGrant_iff.mpr hg
  have hgrant' := Tables.hasGrant_iff.mpr hg'
  obtain ⟨p, d, hp, -, -, hgranted⟩ := (hs.legal _).granted hgrant
  obtain ⟨p', d', hp', -, -, hgranted'⟩ := (hs.legal _).granted hgrant'
  rw [hgranted.approval.deviceRef, hgranted'.approval.deviceRef, DeviceRef.mk.injEq] at href
  obtain ⟨hinstance, hdomain, -, hgeneration, -⟩ := href
  have hidentity := ((reachable_identified h).same_device hkeys hp hp' hinstance).2
  have he := hs.lineage _ _ g g' hgrant hgrant'
    (by rw [hgranted.approval.ownerDomainId, hgranted'.approval.ownerDomainId, hdomain])
    (by rw [hgranted.approval.hardwareIdentityRef, hgranted'.approval.hardwareIdentityRef, hidentity])
    hgeneration
  exact Table.eq_of_key grant_enrollmentId_isKey hg hg' he

theorem get_of_deviceRef (h : Reachable authority t) (hkeys : InstanceNamesKey authority.crypto)
    (hg : g ∈ t.grants) : t.grants.get (·.deviceRef) g.deviceRef = some g := by
  cases hget : t.grants.get (·.deviceRef) g.deviceRef with
  | none => exact absurd rfl (Table.get_eq_none_iff.mp hget g hg)
  | some g' =>
    rw [grant_of_deviceRef h hkeys (Table.get_mem hget) hg (Table.get_key hget)]

/-- The Claim a device has is not of the generation of an outstanding grant. -/
theorem claim_of_outstanding (h : Reachable authority t) (hkeys : InstanceNamesKey authority.crypto)
    (hg : Outstanding t g) {c : ClaimRow}
    (hc : t.registry.claim g.deviceRef.deviceInstanceId = some c) : c.deviceRef ≠ g.deviceRef := by
  intro href
  have hs := reachable_sound h
  obtain ⟨-, p, d, g', hstands⟩ := hs.claims _ c hc
  obtain ⟨hg', he⟩ := Tables.grant_of_dossier hstands.grant
  obtain rfl := grant_of_deviceRef h hkeys hg' hg.1 (hstands.deviceRef.symm.trans href)
  obtain ⟨-, p', hp', hstate⟩ := (outstanding_iff hs).mp hg
  obtain rfl : p = p' := by
    have := hstands.proposal
    unfold HasProposal at this
    rw [← he, hp'] at this
    simpa using this.symm
  rcases hstands.state with ⟨-, hend, -⟩ | ⟨-, hend | hend, -⟩ <;> simp [hend] at hstate

/-! ### The withdrawal commits -/

theorem withdrawGrant_commits {p : ProposalRow} {d : DecisionRow} (now : Timestamp)
    (hp : t.proposals.get (·.enrollmentId) g.enrollmentId = some p)
    (hstate : p.state = .approvedAwaitingHandoff ∨ p.state = .grantDelivered)
    (hd : t.decisions.get (·.decisionId) g.decisionId = some d)
    (hclaim : t.claims.get (·.deviceInstanceId) g.deviceRef.deviceInstanceId = none) :
    ∃ t₁, Commits (withdrawGrant g.deviceRef g now) t 1 t₁ ∧ t₁.results = t.results ∧
      t₁.outbox = t.outbox ∧ t₁.stream = t.stream := by
  have hallowed : ProposalState.claimRevoked ∈ p.state.allowed := by
    rcases hstate with hstate | hstate <;> rw [hstate] <;> decide
  obtain ⟨x, hx⟩ := Table.insert?_isSome (t := t.claims)
    (r := withdrawnClaim g.deviceRef p g d.targetBusinessOwnerId now) fun c hc =>
      decide_eq_false (Table.get_eq_none_iff.mp hclaim c hc)
  -- the Claim row is added to the tables with the Proposal moved and the grant revoked
  have hupsert : ∀ t₁ : Tables, t₁.claims = t.claims →
      Commits (upsertClaim (withdrawnClaim g.deviceRef p g d.targetBusinessOwnerId now)) t₁ 1
        { t₁ with claims := x } := by
    intro t₁ hsame
    simp only [upsertClaim, getClaim, commits_read_bind, hsame,
      show (withdrawnClaim g.deviceRef p g d.targetBusinessOwnerId now).deviceInstanceId =
        g.deviceRef.deviceInstanceId from rfl, hclaim]
    exact commits_bind.mpr ⟨(), _, commits_add.mpr ⟨x, by rw [hsame, hx], rfl⟩,
      commits_pure.mpr ⟨rfl, rfl⟩⟩
  simp only [withdrawGrant, getProposal, getDecision, moveProposal, revokeGrant, requireTransition,
    commits_read_bind, commits_demand_bind, commits_raiseIf_bind, commits_update_bind, hp, hd,
    Option.some.injEq, exists_eq_left', not_not, hallowed, true_and]
  exact ⟨_, commits_bind.mpr ⟨1, _, hupsert _ rfl, commits_pure.mpr ⟨rfl, rfl⟩⟩, rfl, rfl, rfl⟩

/-- An event with a fresh id can be published. -/
theorem addOutbox_commits {eventId : EventId} {type : EventType} {aggregateId : String}
    {revision : Nat} {event : Event} {now : Timestamp} (hcopied : Copied t)
    (hevent : ∀ o ∈ t.outbox, o.eventId ≠ eventId) :
    ∃ t', Commits (addOutbox eventId type aggregateId revision event now) t () t' := by
  obtain ⟨x, hx⟩ := Table.insert?_isSome (t := t.outbox)
    (r := ⟨eventId, type, source, aggregateId, revision, event, now, none, 0, ""⟩) fun o ho =>
      decide_eq_false (hevent o ho)
  have hstream : ∀ row ∈ t.stream, row.streamPosition ≠ t.stream.rows.length + 1 ∧
      row.eventId ≠ eventId := by
    intro row hrow
    constructor
    · have hmem : row.streamPosition ∈ t.stream.rows.map (·.streamPosition) :=
        List.mem_map_of_mem hrow
      rw [hcopied.positions, List.mem_range'_1] at hmem
      omega
    · obtain ⟨-, -, o, ho, hid, -⟩ := hcopied.copies row hrow
      rw [← hid]
      exact hevent o ho
  obtain ⟨y, hy⟩ := Table.insert?_isSome (t := t.stream)
    (r := ⟨t.stream.rows.length + 1, eventId, event.ownerDomainId, type, event, now⟩)
    fun row hrow => by
      simp [Keyed.clash, (hstream row hrow).1, (hstream row hrow).2]
  unfold addOutbox
  by_cases hclaim : type.isClaim = true
  · rw [if_pos hclaim]
    exact ⟨_, commits_bind.mpr ⟨(), _, commits_add.mpr ⟨x, hx, rfl⟩,
      commits_read_bind.mpr (commits_add.mpr ⟨y, hy, rfl⟩)⟩⟩
  · rw [if_neg hclaim]
    exact ⟨_, commits_bind.mpr ⟨(), _, commits_add.mpr ⟨x, hx, rfl⟩, commits_pure.mpr ⟨rfl, rfl⟩⟩⟩

/-- The end of a revocation commits under a fresh command id and event id. -/
theorem finishRevocation_commits {commandId : CommandId} {correlationId : CorrelationId}
    {ref : DeviceRef} {reason : String} {context : ActorContext} {fp : Fingerprint} {draws : Draws}
    {revision : Nat} (hcopied : Copied t)
    (hcommand : t.results.get (·.key) (revokeKey commandId context) = none)
    (hevent : ∀ o ∈ t.outbox, o.eventId ≠ draws.eventId)
    (haccepts : authority.sdk.acceptsClaimEvent (event draws.eventId .claimRevoked
      (deviceSubject ref.deviceInstanceId) ref.ownerDomainId revision commandId correlationId
      draws.now (.revoked ref reason draws.now)) = true) :
    ∃ t', Commits (authority.finishRevocation commandId correlationId ref reason context fp draws
      revision) t (revokedResult commandId ref revision (some draws.eventId) draws.now) t' := by
  obtain ⟨x, hx⟩ := Table.insert?_isSome (t := t.results)
    (r := ⟨revokeKey commandId context, fp, revokedResult commandId ref revision
      (some draws.eventId) draws.now, draws.now⟩) fun row hrow =>
      decide_eq_false (Table.get_eq_none_iff.mp hcommand row hrow)
  unfold finishRevocation
  obtain ⟨t₁, hout⟩ := addOutbox_commits (t := { t with
      devices := t.devices.modify (·.deviceId) ref.deviceInstanceId (DeviceRow.revoke ref draws.now)
        (DeviceRow.revoke_keeps ref draws.now)
      results := x }) (preserves_copied (t := t) rfl rfl hcopied) hevent
  exact ⟨t₁, commits_update_bind.mpr (commits_bind.mpr ⟨(), _, commits_add.mpr ⟨x, hx, rfl⟩,
    commits_lift_bind.mpr ⟨_, Sdk.validateClaimEvent_ok.mpr ⟨haccepts, rfl⟩,
      commits_bind.mpr ⟨(), t₁, hout, commits_pure.mpr ⟨rfl, rfl⟩⟩⟩⟩)⟩

/-- The authorization of a revocation by an actor with the scope, in its own domain. -/
theorem revokeAuthorized_ok {ref : DeviceRef} {reason : String} {context : ActorContext}
    {fp : Fingerprint} (hscope : revokeScope ∈ context.actor.grantedScopes)
    (hdomain : context.ownerDomainId = ref.ownerDomainId)
    (hfp : authority.revokeFingerprint ref reason context = .ok fp) :
    authority.revokeAuthorized ref reason context = .ok fp := by
  simp [revokeAuthorized, ActorContext.requireScope, hscope, hdomain.symm, hfp, bind, Except.bind]

/-- No acknowledgement of the grant succeeds from here on; one that repeats an answer
changes nothing. -/
def NeverAcknowledged (authority : AdmissionAuthority) (t : Tables) (g : GrantRow) : Prop :=
  ∀ requests commandId correlationId enrollmentId proof generation epoch draws r t',
    Commits ((Command.ackClaimGrant commandId correlationId enrollmentId g.grantId proof generation
      epoch).transaction authority draws) (run authority.next t requests) r t' →
    r.outcome = .replayed ∧ t' = run authority.next t requests

/-- A grant that was withdrawn is never acknowledged. -/
theorem neverAcknowledged_of_withdraw {p : ProposalRow} {d : DecisionRow} {published : Event}
    {now : Timestamp} (hs : t.registry.Sound authority)
    (hm : t.registry.allows authority (.withdraw p g d published now))
    (hrun : t'.registry = t.registry.apply (.withdraw p g d published now)) :
    NeverAcknowledged authority t' g := by
  intro requests commandId correlationId enrollmentId proof generation epoch draws r t'' hack
  have hs' : t'.registry.Sound authority := hrun ▸ hs.apply hm
  obtain ⟨g', hg', hlater⟩ := grant_kept hs hm hm.2.2.1
  rw [← hrun] at hg'
  obtain ⟨hmem, he⟩ := Tables.grant_of_dossier hg'
  rw [← hlater.grantId] at hack
  refine ack_of_closed hs' hmem ?_ hack
  rintro ⟨p', hp', hstate⟩
  have hmoved : (t'.registry.dossier p.enrollmentId).proposal = some (p.moved .claimRevoked now) := by
    rw [hrun, proposal_apply_eq]
    simp [Move.proposal]
  rw [he, hm.2.2.2.1, hmoved] at hp'
  cases hp'
  simp at hstate

/-- **An outstanding grant can be withdrawn exactly while its device has no Claim row.** -/
theorem revoke_withdraws {commandId : CommandId} {correlationId : CorrelationId} {reason : String}
    {context : ActorContext} {draws : Draws} {fp : Fingerprint} {d : DecisionRow}
    (h : Reachable authority t) (hkeys : InstanceNamesKey authority.crypto) (hg : Outstanding t g)
    (hd : d ∈ t.decisions) (hdecided : d.decisionId = g.decisionId)
    (hscope : revokeScope ∈ context.actor.grantedScopes)
    (hdomain : context.ownerDomainId = g.deviceRef.ownerDomainId)
    (howner : context.businessOwnerId = d.targetBusinessOwnerId)
    (hcommand : t.results.get (·.key) (revokeKey commandId context) = none)
    (hevent : ∀ o ∈ t.outbox, o.eventId ≠ draws.eventId)
    (hfp : authority.revokeFingerprint g.deviceRef reason context = .ok fp)
    (haccepts : authority.sdk.acceptsClaimEvent (event draws.eventId .claimRevoked
      (deviceSubject g.deviceRef.deviceInstanceId) g.deviceRef.ownerDomainId 1 commandId
      correlationId draws.now (.revoked g.deviceRef reason draws.now)) = true) :
    (∃ r t', Commits ((Command.revokeClaim commandId correlationId g.deviceRef reason
        context).transaction authority draws) t r t' ∧ r.outcome = .committed ∧
      NeverAcknowledged authority t' g) ↔
    t.claims.get (·.deviceInstanceId) g.deviceRef.deviceInstanceId = none := by
  have hs := reachable_sound h
  constructor
  · rintro ⟨r, t', hcommit, hout, -⟩
    obtain ⟨_, -, hsession⟩ := command_commits hcommit
    rcases revokeClaim_follows hsession with ⟨-, hreplay⟩ | ⟨-, ⟨-, c, hc, href, -⟩ |
      ⟨_, g', _, _, hget, -, ⟨hm, -⟩, -⟩ | ⟨c, _, href, -, ⟨hm, -⟩, -⟩⟩
    · simp [hout] at hreplay
    · exact absurd href (claim_of_outstanding h hkeys hg hc)
    · obtain ⟨-, -, -, -, -, -, hnone, -⟩ := hm
      rw [Table.get_key hget] at hnone
      exact hnone
    · refine absurd href (claim_of_outstanding h hkeys hg ?_)
      rw [← href]
      exact hm.1
  · intro hnone
    obtain ⟨hmem, p, hp, hstate⟩ := (outstanding_iff hs).mp hg
    have hgetDecision : t.decisions.get (·.decisionId) g.decisionId = some d :=
      (Table.get_eq_some_iff decision_decisionId_isKey).mpr ⟨hd, hdecided⟩
    obtain ⟨t₁, hwithdraw, hresults, houtbox, hstream⟩ :=
      withdrawGrant_commits draws.now hp hstate hgetDecision hnone
    obtain ⟨t', hfinish⟩ := finishRevocation_commits (t := t₁)
      (preserves_copied houtbox hstream (reachable_copied h)) (by rwa [hresults])
      (by rwa [houtbox]) haccepts
    have hsession : Commits (authority.revokeClaim commandId correlationId g.deviceRef reason
        context fp draws) t (revokedResult commandId g.deviceRef 1 (some draws.eventId) draws.now)
        t' := by
      refine commits_once hcommand ?_
      simp only [getClaim, getGrantForDeviceRef, getDecision, commits_read_bind, hnone,
        get_of_deviceRef h hkeys hmem, hgetDecision, commits_demand_bind, commits_raiseIf_bind,
        Option.some.injEq, exists_eq_left', howner, ne_eq, not_true_eq_false, not_false_eq_true,
        true_and]
      exact commits_bind.mpr ⟨1, t₁, hwithdraw, hfinish⟩
    have hcommit : Commits ((Command.revokeClaim commandId correlationId g.deviceRef reason
        context).transaction authority draws) t
        (revokedResult commandId g.deviceRef 1 (some draws.eventId) draws.now) t' :=
      commits_lift_bind.mpr ⟨fp, revokeAuthorized_ok hscope hdomain hfp, hsession⟩
    refine ⟨_, t', hcommit, rfl, ?_⟩
    -- with no Claim row, the revocation is the withdrawal of this grant
    have hclaim : t.registry.claim g.deviceRef.deviceInstanceId = none := hnone
    rcases revokeClaim_follows hsession with ⟨-, hreplay⟩ | ⟨-, ⟨-, c, hc, -, -⟩ |
      ⟨_, g', _, _, hget, -, ⟨hm, -⟩, hrun⟩ | ⟨c, _, href, -, ⟨hm, -⟩, -⟩⟩
    · simp [revokedResult] at hreplay
    · simp [hclaim] at hc
    · obtain rfl : g' = g := by simpa [get_of_deviceRef h hkeys hmem] using hget.symm
      exact neverAcknowledged_of_withdraw hs hm hrun
    · have hc : t.registry.claim c.deviceRef.deviceInstanceId = some c := hm.1
      simp [href, hclaim] at hc

/-- The one grant of a device that never had a Claim is withdrawn. -/
theorem revoke_withdraws_first : ∃ r t' g, g ∈ (Sample.after (Sample.handoff "e" "k")).grants ∧
    Commits ((Command.revokeClaim "revoke" "revoke" (Sample.deviceRef "k" 1) "lost"
      (Sample.owner "alice")).transaction Sample.authority { now := 4, eventId := "revoked" })
      (Sample.after (Sample.handoff "e" "k")) r t' ∧ r.outcome = .committed ∧
    NeverAcknowledged Sample.authority t' g := by
  have hgrant : ∃ g ∈ (Sample.after (Sample.handoff "e" "k")).grants.rows,
      ∃ d ∈ (Sample.after (Sample.handoff "e" "k")).decisions.rows,
      ∃ p ∈ (Sample.after (Sample.handoff "e" "k")).proposals.rows,
      g.deviceRef = Sample.deviceRef "k" 1 ∧ g.revokedAt = none ∧ d.decisionId = g.decisionId ∧
      "alice" = d.targetBusinessOwnerId ∧ p.enrollmentId = g.enrollmentId ∧
      p.state = .grantDelivered := by decide +kernel
  obtain ⟨g, hg, d, hd, p, hp, href, hunrevoked, hdecided, howner, he, hstate⟩ := hgrant
  have hiff := revoke_withdraws (Sample.after_reachable (Sample.handoff "e" "k"))
    sample_instanceNamesKey ⟨hg, hunrevoked, p, hp, he, .inr hstate⟩ hd hdecided
    (show revokeScope ∈ (Sample.owner "alice").actor.grantedScopes by decide)
    (by rw [href]; rfl) howner
    (show (Sample.after (Sample.handoff "e" "k")).results.get (·.key)
      (revokeKey "revoke" (Sample.owner "alice")) = none by decide +kernel)
    (show ∀ o ∈ (Sample.after (Sample.handoff "e" "k")).outbox.rows, o.eventId ≠
      ({ now := 4, eventId := "revoked" } : Draws).eventId by decide +kernel)
    (show Sample.authority.revokeFingerprint g.deviceRef "lost" (Sample.owner "alice") =
      .ok "sha256:{}" by rfl)
    (show Sample.sdk.acceptsClaimEvent (event "revoked" .claimRevoked _ _ 1 "revoke" "revoke" 4
      (.revoked g.deviceRef "lost" 4)) = true by rfl)
  rw [href] at hiff
  obtain ⟨r, t', hcommit, hout, hnever⟩ := hiff.mpr (by decide +kernel)
  exact ⟨r, t', g, hg, hcommit, hout, hnever⟩

/-- Where the device has an active Claim of generation 1 and a delivered grant of
generation 2, the revocation that names the grant is refused. -/
theorem outstanding_not_withdrawn : ¬ ∀ (authority : AdmissionAuthority) (t : Tables) (g : GrantRow)
    (d : DecisionRow) (commandId : CommandId) (correlationId : CorrelationId) (reason : String)
    (context : ActorContext) (draws : Draws), Reachable authority t →
    InstanceNamesKey authority.crypto → Outstanding t g → d ∈ t.decisions →
    d.decisionId = g.decisionId → revokeScope ∈ context.actor.grantedScopes →
    context.ownerDomainId = g.deviceRef.ownerDomainId →
    context.businessOwnerId = d.targetBusinessOwnerId →
    t.results.get (·.key) (revokeKey commandId context) = none →
    (∀ o ∈ t.outbox, o.eventId ≠ draws.eventId) →
    (∃ fp, authority.revokeFingerprint g.deviceRef reason context = .ok fp) →
    (∀ event, authority.sdk.acceptsClaimEvent event = true) →
    ∃ r t', Commits ((Command.revokeClaim commandId correlationId g.deviceRef reason
        context).transaction authority draws) t r t' ∧ r.outcome = .committed ∧
      NeverAcknowledged authority t' g := by
  intro hclaim
  have hgrant : ∃ g ∈ (Sample.after (Sample.handoff "e" "k" ++ [Sample.ack "e" 1] ++
        Sample.handoff "f" "k")).grants.rows,
      ∃ d ∈ (Sample.after (Sample.handoff "e" "k" ++ [Sample.ack "e" 1] ++
        Sample.handoff "f" "k")).decisions.rows,
      ∃ p ∈ (Sample.after (Sample.handoff "e" "k" ++ [Sample.ack "e" 1] ++
        Sample.handoff "f" "k")).proposals.rows,
      g.deviceRef = Sample.deviceRef "k" 2 ∧ g.revokedAt = none ∧ d.decisionId = g.decisionId ∧
      "alice" = d.targetBusinessOwnerId ∧ p.enrollmentId = g.enrollmentId ∧
      p.state = .grantDelivered := by decide +kernel
  obtain ⟨g, hg, d, hd, p, hp, href, hunrevoked, hdecided, howner, he, hstate⟩ := hgrant
  obtain ⟨r, t', hcommit, -⟩ := hclaim Sample.authority _ g d "revoke" "revoke" "lost"
    (Sample.owner "alice") { now := 4, eventId := "revoked" } (Sample.after_reachable _)
    sample_instanceNamesKey ⟨hg, hunrevoked, p, hp, he, .inr hstate⟩ hd hdecided (by decide)
    (by rw [href]; rfl) howner (by decide +kernel) (by decide +kernel) ⟨_, rfl⟩
    fun _ => rfl
  rw [href] at hcommit
  have hrefused : (answer ((Command.revokeClaim "revoke" "revoke" (Sample.deviceRef "k" 2) "lost"
      (Sample.owner "alice")).transaction Sample.authority { now := 4, eventId := "revoked" })
      (Sample.after (Sample.handoff "e" "k" ++ [Sample.ack "e" 1] ++
        Sample.handoff "f" "k"))).isNone = true := by decide +kernel
  rw [answer_of_commits hcommit] at hrefused
  cases hrefused

end AdmissionAuthority

end EidolonHub.Admission
