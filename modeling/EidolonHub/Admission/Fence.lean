import EidolonHub.Admission.Invariants

/-!
# EidolonHub.Admission.Fence

**What a revocation holds back, and the order of generations.** A grant is
outstanding while it is not revoked and its Proposal waits for the handoff or
its acknowledgement. A revocation withdraws or revokes one grant; every other
outstanding grant of the device survives it and can be acknowledged later, so a
revocation is a fence where it leaves none behind. For the same reason Claim
generations advance as long as the grants of a device are acknowledged in the
order they were issued.
-/

namespace EidolonHub.Admission

open EidolonHub.Library EidolonHub.Library.Tx

/-! ### Outstanding grants -/

/-- The grant can be acknowledged, or collected and acknowledged. -/
def Outstanding (t : Tables) (g : GrantRow) : Prop :=
  g ∈ t.grants ∧ g.revokedAt = none ∧ ∃ p ∈ t.proposals, p.enrollmentId = g.enrollmentId ∧
    (p.state = .approvedAwaitingHandoff ∨ p.state = .grantDelivered)

/-- The enrollment was approved and waits for its grant to be acknowledged. -/
def Registry.Open (s : Registry) (e : EnrollmentId) : Prop :=
  ∃ p, (s.dossier e).proposal = some p ∧
    (p.state = .approvedAwaitingHandoff ∨ p.state = .grantDelivered)

namespace Registry

variable {authority : AdmissionAuthority} {s : Registry} {m : Move} {e : EnrollmentId}
  {g : GrantRow}

/-- The grant of an open enrollment is not revoked. -/
theorem Sound.unrevoked_of_open (hs : s.Sound authority) (h : s.Open e)
    (hg : (s.dossier e).grant = some g) : g.revokedAt = none := by
  obtain ⟨p, hp, hstate⟩ := h
  obtain ⟨-, -, hphase⟩ := (hs.legal e).proposal hp
  rcases hstate with hstate | hstate <;> simp only [Dossier.Phase, hstate] at hphase <;>
    obtain ⟨-, -, d, g', hgranted, -, hnone⟩ := hphase <;>
    obtain rfl : g' = g := by simpa [hg] using hgranted.grant.symm
  all_goals exact hnone

/-- An enrollment with a grant does not open again. -/
theorem open_apply (hs : s.Sound authority) (hm : s.allows authority m)
    (hg : (s.dossier e).grant = some g) (h : (s.apply m).Open e) : s.Open e := by
  obtain ⟨p, d, hp, -, hissued, -⟩ := (hs.legal e).granted hg
  by_contra hclosed
  have hterm : p.state.terminal = true := by
    rcases hissued with hstate | hstate | hstate | hstate | hstate <;>
      simp_all [Open, ProposalState.terminal]
  obtain ⟨p', hp', hstate⟩ := h
  obtain rfl : p' = p := by
    simpa [proposal_apply_of_terminal hm hp hterm] using hp'.symm
  exact hclosed ⟨p', hp, hstate⟩

/-- The Claim of a device becomes active by an acknowledgement only. -/
theorem active_apply {c : ClaimRow} {i : DeviceInstanceId} (hs : s.Sound authority)
    (hm : s.allows authority m) (hc : (s.apply m).claim i = some c) (hactive : c.state = .active) :
    s.claim i = some c ∨ ∃ p g d a name published now,
      m = .acknowledge p g d a name published now ∧ g.deviceRef.deviceInstanceId = i := by
  by_cases hne : m.device = some i
  · cases m <;> simp only [Move.device, Option.some.injEq, reduceCtorEq] at hne <;> subst hne
    case acknowledge p g d a name published now =>
      exact .inr ⟨p, g, d, a, name, published, now, rfl, rfl⟩
    case withdraw p g d published now =>
      obtain rfl : AdmissionAuthority.withdrawnClaim g.deviceRef p g d.targetBusinessOwnerId now =
          c := by
        simpa [apply, withDeviceRevoked, AdmissionAuthority.withdrawnClaim] using hc
      simp [AdmissionAuthority.withdrawnClaim] at hactive
    case revoke c' published now =>
      obtain rfl : c'.revoke now = c := by
        simpa [apply, withDeviceRevoked, revokeGrantsOf, ClaimRow.revoke] using hc
      simp [ClaimRow.revoke] at hactive
  · rw [claim_apply_of_ne hs hne] at hc
    exact .inl hc

/-! ### The fence -/

/-- No grant of the device whose Decision is one of these can be acknowledged. -/
structure Fence (authority : AdmissionAuthority) (decided : DecisionId → Prop)
    (i : DeviceInstanceId) (s : Registry) : Prop where
  sound : s.Sound authority
  /-- these are Decisions on file, so no later one takes their ids -/
  known : ∀ x, decided x → ∃ e d, (s.dossier e).decision = some d ∧ d.decisionId = x
  closed : ∀ e g, (s.dossier e).grant = some g → g.deviceRef.deviceInstanceId = i →
    decided g.decisionId → ¬ s.Open e

theorem Fence.apply {decided : DecisionId → Prop} {i : DeviceInstanceId}
    (h : Fence authority decided i s) (hm : s.allows authority m) :
    Fence authority decided i (s.apply m) where
  sound := h.sound.apply hm
  known x hx := by
    obtain ⟨e, d, hd, hid⟩ := h.known x hx
    exact ⟨e, d, decision_kept h.sound hm hd, hid⟩
  closed e g' hg' hi hdecided := by
    rcases grant_apply hm hg' with ⟨g, hg, hlater⟩ | ⟨p, d, now, rfl, he⟩
    · rw [hlater.deviceRef] at hi
      rw [hlater.decisionId] at hdecided
      exact fun hopen => h.closed e g hg hi hdecided (open_apply h.sound hm hg hopen)
    · -- a new grant has a new Decision
      obtain ⟨e', d', hd', hid⟩ := h.known _ hdecided
      rw [hm.2.2.2.decisionId] at hid
      exact absurd hid (hm.2.2.1.fresh e' d' hd')

end Registry

/-- The request is an acknowledgement of this grant. -/
def Request.Acknowledges (request : Request) (grantId : GrantId) : Prop :=
  ∃ commandId correlationId enrollmentId proof generation epoch draws, request =
    .command (.ackClaimGrant commandId correlationId enrollmentId grantId proof generation epoch) draws

/-- The device has an active Claim. -/
def ActiveClaim (t : Tables) (i : DeviceInstanceId) : Prop :=
  (t.claims.get (·.deviceInstanceId) i).map (·.state) = some .active

instance (t : Tables) (i : DeviceInstanceId) : Decidable (ActiveClaim t i) :=
  inferInstanceAs (Decidable (_ = _))

/-- **From this database on, the device is fenced off**: its Claim becomes active
by acknowledging a grant that was decided later, and no grant it holds now is
ever acknowledged. -/
structure Fenced (authority : AdmissionAuthority) (t : Tables) (i : DeviceInstanceId) : Prop where
  activation : ∀ requests request, ¬ ActiveClaim (run authority.next t requests) i →
    ActiveClaim (authority.next (run authority.next t requests) request) i →
    ∃ g ∈ (run authority.next t requests).grants, request.Acknowledges g.grantId ∧
      g.deviceRef.deviceInstanceId = i ∧ ∀ d ∈ t.decisions, d.decisionId ≠ g.decisionId
  issued : ∀ requests, ∀ g ∈ t.grants, g.deviceRef.deviceInstanceId = i →
    ∀ commandId correlationId enrollmentId proof generation epoch draws r t',
      Commits ((Command.ackClaimGrant commandId correlationId enrollmentId g.grantId proof generation
        epoch).transaction authority draws) (run authority.next t requests) r t' →
      r.outcome = .replayed ∧ t' = run authority.next t requests

/-- Only an acknowledgement acknowledges. -/
theorem Request.acknowledges_of_makes {request : Request} {p : ProposalRow} {g : GrantRow}
    {d : DecisionRow} {a : GrantAckRow} {name : String} {published : Event} {now : Timestamp}
    (h : request.makes (.acknowledge p g d a name published now)) :
    request.Acknowledges g.grantId := by
  unfold Request.makes at h
  split at h
  case h_5 =>
    obtain ⟨p, g, d, a, name, published, now, -, rfl, heq⟩ := h
    cases heq
    exact ⟨_, _, _, _, _, _, _, rfl⟩
  all_goals simp at h

namespace AdmissionAuthority

open Registry

variable {authority : AdmissionAuthority} {t t' : Tables} {i : DeviceInstanceId}

theorem outstanding_iff {g : GrantRow} (hs : t.registry.Sound authority) :
    Outstanding t g ↔ g ∈ t.grants ∧ t.registry.Open g.enrollmentId := by
  constructor
  · rintro ⟨hg, -, p, hp, he, hstate⟩
    exact ⟨hg, p, by rw [← he]; exact Tables.hasProposal_iff.mpr hp, hstate⟩
  · rintro ⟨hg, hopen⟩
    refine ⟨hg, hs.unrevoked_of_open hopen (Tables.hasGrant_iff.mpr hg), ?_⟩
    obtain ⟨p, hp, hstate⟩ := hopen
    obtain ⟨hmem, he⟩ := Tables.proposal_of_dossier hp
    exact ⟨p, hmem, he, hstate⟩

theorem activeClaim_iff : ActiveClaim t i ↔ ∃ c, t.registry.claim i = some c ∧ c.state = .active :=
  Option.map_eq_some_iff

/-- What an acknowledgement that commits found, unless it repeats an answer. -/
theorem ack_commits {commandId : CommandId} {correlationId : CorrelationId}
    {enrollmentId : EnrollmentId} {grantId : GrantId} {proof : String} {generation epoch : Nat}
    {draws : Draws} {r : CommandResult}
    (h : Commits ((Command.ackClaimGrant commandId correlationId enrollmentId grantId proof generation
      epoch).transaction authority draws) t r t') :
    (t' = t ∧ r.outcome = .replayed) ∨ ∃ p g d a name published, g.grantId = grantId ∧
      t.registry.allows authority (.acknowledge p g d a name published draws.now) ∧
      t'.registry = t.registry.apply (.acknowledge p g d a name published draws.now) := by
  obtain ⟨fp, -, h⟩ := command_commits h
  rcases ackClaimGrant_follows h with hreplay | ⟨-, p, g, d, name, published, -, hg, hallows,
    hrun⟩
  · exact .inl hreplay
  · exact .inr ⟨p, g, d, _, name, published, hg, hallows.1, hrun⟩

/-- The grant of an open acknowledgement. -/
theorem open_of_acknowledge {p : ProposalRow} {g : GrantRow} {d : DecisionRow} {a : GrantAckRow}
    {name : String} {published : Event} {now : Timestamp}
    (h : t.registry.allows authority (.acknowledge p g d a name published now)) :
    g ∈ t.grants ∧ t.registry.Open g.enrollmentId := by
  obtain ⟨hp, hstate, hg, hge, -⟩ := h
  exact ⟨Tables.hasGrant_iff.mp hg, p, by rw [hge]; exact hp, .inr hstate⟩

/-- A request that makes a Claim active acknowledges an open grant of its device. -/
theorem activation_acknowledges {request : Request} (hs : t.registry.Sound authority)
    (hbefore : ¬ ActiveClaim t i) (hafter : ActiveClaim (authority.next t request) i) :
    ∃ g ∈ t.grants, request.Acknowledges g.grantId ∧ g.deviceRef.deviceInstanceId = i ∧
      t.registry.Open g.enrollmentId := by
  rw [activeClaim_iff] at hbefore hafter
  by_cases hack : ∃ grantId, request.Acknowledges grantId
  · obtain ⟨grantId, commandId, correlationId, enrollmentId, proof, generation, epoch, draws, rfl⟩ :=
      hack
    rcases next_command_cases authority t (.ackClaimGrant commandId correlationId enrollmentId grantId
      proof generation epoch) draws with ⟨r, hcommit⟩ | hsame
    · rcases ack_commits hcommit with ⟨hsame, -⟩ | ⟨p, g, d, a, name, published, rfl, hm, happly⟩
      · rw [hsame] at hafter
        exact absurd hafter hbefore
      · obtain ⟨hg, hopen⟩ := open_of_acknowledge hm
        refine ⟨g, hg, ⟨_, _, _, _, _, _, _, rfl⟩, ?_, hopen⟩
        rw [happly] at hafter
        obtain ⟨c, hc, hactive⟩ := hafter
        rcases active_apply hs hm hc hactive with hold | ⟨_, _, _, _, _, _, _, heq, hi⟩
        · exact absurd ⟨c, hold, hactive⟩ hbefore
        · cases heq
          exact hi
    · rw [hsame] at hafter
      exact absurd hafter hbefore
  · obtain ⟨moves, hmakes, hfollows⟩ := next_makes authority t request
    have hinv := hfollows.inv_of (I := fun s => s.Sound authority ∧
      ¬ ∃ c, s.claim i = some c ∧ c.state = .active) ?_ hmakes ⟨hs, hbefore⟩
    · exact absurd hafter hinv.2
    · rintro s m ⟨hs, hinactive⟩ hm hmade
      refine ⟨hs.apply hm, ?_⟩
      rintro ⟨c, hc, hactive⟩
      rcases active_apply hs hm hc hactive with hold | ⟨_, _, _, _, _, _, _, rfl, -⟩
      · exact hinactive ⟨c, hold, hactive⟩
      · exact hack ⟨_, Request.acknowledges_of_makes hmade⟩

/-- An enrollment that is closed once it has its grant stays closed. -/
theorem closed_stays {e : EnrollmentId} {g : GrantRow} (hs : t.registry.Sound authority)
    (hg : (t.registry.dossier e).grant = some g) (hclosed : ¬ t.registry.Open e)
    (requests : List Request) : ¬ (run authority.next t requests).registry.Open e := by
  refine (run_inv (I := fun t' : Tables => (t'.registry.Sound authority ∧
    ∃ g', (t'.registry.dossier e).grant = some g') ∧ ¬ t'.registry.Open e)
    (fun _ _ => next_inv (I := fun s => (s.Sound authority ∧ ∃ g', (s.dossier e).grant = some g') ∧
      ¬ s.Open e) ?_) ⟨⟨hs, g, hg⟩, hclosed⟩ requests).2
  rintro s m ⟨⟨hs, g', hg'⟩, hclosed⟩ hm
  obtain ⟨g'', hg'', -⟩ := grant_kept hs hm hg'
  exact ⟨⟨hs.apply hm, g'', hg''⟩, fun hopen => hclosed (open_apply hs hm hg' hopen)⟩

/-- **A grant whose enrollment is closed is never acknowledged**; an acknowledgement
of it repeats an answer or fails. -/
theorem ack_of_closed {g : GrantRow} (hs : t.registry.Sound authority) (hg : g ∈ t.grants)
    (hclosed : ¬ t.registry.Open g.enrollmentId) {requests : List Request}
    {commandId : CommandId} {correlationId : CorrelationId} {enrollmentId : EnrollmentId}
    {proof : String} {generation epoch : Nat} {draws : Draws} {r : CommandResult}
    (h : Commits ((Command.ackClaimGrant commandId correlationId enrollmentId g.grantId proof
      generation epoch).transaction authority draws) (run authority.next t requests) r t') :
    r.outcome = .replayed ∧ t' = run authority.next t requests := by
  rcases ack_commits h with hreplay | ⟨p, g', d, a, name, published, hid, hm, -⟩
  · exact hreplay.symm
  · -- the grant that is acknowledged would be the one on file since then
    have hgrant := Tables.hasGrant_iff.mpr hg
    obtain ⟨hg', hopen⟩ := open_of_acknowledge hm
    obtain ⟨g₂, hg₂, hlater⟩ := (run_grows hs requests).2.grant _ g hgrant
    obtain rfl : g' = g₂ := Table.eq_of_key grant_grantId_isKey hg' (Tables.grant_of_dossier hg₂).1
      (hid.trans hlater.grantId.symm)
    rw [hlater.enrollmentId] at hopen
    exact absurd hopen (closed_stays hs hgrant hclosed requests)

/-! ### Revocation is a fence where it leaves no grant behind -/

/-- A database that no grant of the device is outstanding in is fenced off. -/
theorem fenced_of_none_open (hs : t.registry.Sound authority)
    (hnone : ∀ g ∈ t.grants, g.deviceRef.deviceInstanceId = i → ¬ t.registry.Open g.enrollmentId) :
    Fenced authority t i := by
  have hfence : ∀ requests, Fence authority (fun x => ∃ d ∈ t.decisions, d.decisionId = x) i
      (run authority.next t requests).registry := by
    refine run_inv (I := fun t' : Tables => Fence authority
      (fun x => ∃ d ∈ t.decisions, d.decisionId = x) i t'.registry)
      (fun _ _ => next_inv fun _ _ h hm => h.apply hm) ⟨hs, ?_, ?_⟩
    · rintro x ⟨d, hd, hid⟩
      exact ⟨_, d, Tables.hasDecision_iff.mpr hd, hid⟩
    · rintro e g hg hi -
      obtain ⟨hmem, rfl⟩ := Tables.grant_of_dossier hg
      exact hnone g hmem hi
  refine ⟨?_, ?_⟩
  · intro requests request hbefore hafter
    obtain ⟨g, hg, hack, hi, hopen⟩ :=
      activation_acknowledges (hfence requests).sound hbefore hafter
    refine ⟨g, hg, hack, hi, fun d hd hid => ?_⟩
    exact (hfence requests).closed _ g (Tables.hasGrant_iff.mpr hg) hi ⟨d, hd, hid⟩ hopen
  · intro requests g hg hi commandId correlationId enrollmentId proof generation epoch draws r t' h
    exact ack_of_closed hs hg (hnone g hg hi) h

/-- **A revocation that leaves no other grant of its device outstanding is a fence.** -/
theorem revoke_fences {commandId : CommandId} {correlationId : CorrelationId} {ref : DeviceRef}
    {reason : String} {context : ActorContext} {draws : Draws} {r : CommandResult}
    (h : Reachable authority t)
    (hcommit : Commits ((Command.revokeClaim commandId correlationId ref reason context).transaction
      authority draws) t r t') (hout : r.outcome = .committed)
    (honly : ∀ g, Outstanding t g → g.deviceRef.deviceInstanceId = ref.deviceInstanceId →
      t.claims.get (·.deviceInstanceId) ref.deviceInstanceId = none ∧
        t.grants.get (·.deviceRef) ref = some g) :
    Fenced authority t' ref.deviceInstanceId := by
  have hs := reachable_sound h
  have hs' : t'.registry.Sound authority := by
    rw [← next_command hcommit]
    exact next_sound hs
  refine fenced_of_none_open hs' ?_
  intro g' hg' hi hopen'
  have hgrant' := Tables.hasGrant_iff.mpr hg'
  obtain ⟨fp, -, hsession⟩ := command_commits hcommit
  -- a grant that is open after the move was outstanding before it
  have hearlier : ∀ m : Move, t.registry.allows authority m → t'.registry = t.registry.apply m →
      (∀ p d g now, m ≠ .approve p d g now) →
      ∃ g, Outstanding t g ∧ g.Later g' ∧ g.enrollmentId = g'.enrollmentId := by
    intro m hm hrun hne
    unfold HasGrant at hgrant'
    rw [hrun] at hgrant' hopen'
    rcases grant_apply hm hgrant' with ⟨g, hg, hlater⟩ | ⟨p, d, now, rfl, -⟩
    · obtain ⟨hmem, he⟩ := Tables.grant_of_dossier hg
      refine ⟨g, (outstanding_iff hs).mpr ⟨hmem, ?_⟩, hlater, he⟩
      rw [he]
      exact open_apply hs hm hg hopen'
    · exact absurd rfl (hne p d g' now)
  rcases revokeClaim_follows hsession with ⟨-, hreplay⟩ | ⟨-, ⟨hsame, c, hc, -, -⟩ |
    ⟨p, g, d, published, hget, -, ⟨hm, -⟩, hrun⟩ | ⟨c, published, href, -, ⟨hm, -⟩, hrun⟩⟩
  · simp [hout] at hreplay
  · -- the Claim was revoked before: nothing changed, and it is there
    rw [hsame] at hopen'
    unfold HasGrant at hgrant'
    rw [hsame] at hgrant'
    have hout := (outstanding_iff hs).mpr ⟨(Tables.grant_of_dossier hgrant').1, hopen'⟩
    have hsome : t.claims.get (·.deviceInstanceId) ref.deviceInstanceId = some c := hc
    simp [hsome] at honly
    exact honly g' hout hi
  · -- the grant that was withdrawn is the only one, and its Proposal has ended
    obtain ⟨g₀, hout, hlater, he⟩ := hearlier _ hm hrun (by simp)
    obtain ⟨-, hget₀⟩ := honly g₀ hout (by rw [← hlater.deviceRef, hi])
    obtain rfl : g = g₀ := by simpa [hget] using hget₀
    obtain ⟨p', hp', hstate⟩ := hopen'
    have hmoved : (t'.registry.dossier p.enrollmentId).proposal = some (p.moved .claimRevoked draws.now) := by
      rw [hrun]
      simp [Registry.apply, run, withDeviceRevoked, hm.2.2.2.1]
    rw [← he, hm.2.2.2.1, hmoved] at hp'
    cases hp'
    simp at hstate
  · -- the device has a Claim
    obtain ⟨g₀, hout, hlater, -⟩ := hearlier _ hm hrun (by simp)
    obtain ⟨hnone, -⟩ := honly g₀ hout (by rw [← hlater.deviceRef, hi])
    have hsome : t.claims.get (·.deviceInstanceId) c.deviceInstanceId = some c := hm.1
    rw [← href] at hnone
    simp [hsome, ClaimRow.deviceRef] at hnone

/-- A device with one enrollment, whose active Claim is revoked. -/
theorem revoke_fences_single : ∃ t', Fenced Sample.authority t' "device-k" := by
  have hanswer : (answer ((Command.revokeClaim "revoke" "revoke" (Sample.deviceRef "k" 1) "lost"
      (Sample.owner "alice")).transaction Sample.authority { now := 4, eventId := "revoked" })
      (Sample.after (Sample.handoff "e" "k" ++ [Sample.ack "e" 1]))).map (·.outcome) =
      some .committed := by decide +kernel
  have hstates : ∀ p ∈ (Sample.after (Sample.handoff "e" "k" ++ [Sample.ack "e" 1])).proposals.rows,
      p.state = .grantAcknowledged := by decide +kernel
  obtain ⟨r, hr, hout⟩ := Option.map_eq_some_iff.mp hanswer
  refine ⟨_, revoke_fences (Sample.after_reachable _) (commits_of_answer hr) hout ?_⟩
  rintro g ⟨-, -, p, hp, -, hstate⟩
  rw [hstates p hp] at hstate
  simp at hstate

/-- A revocation is no fence where another grant of the device is outstanding: here
the device holds two delivered grants, acknowledges the first, has its Claim
revoked and acknowledges the second. -/
theorem revocation_is_no_fence : ¬ ∀ (authority : AdmissionAuthority) (t t' : Tables)
    (commandId : CommandId) (correlationId : CorrelationId) (ref : DeviceRef) (reason : String)
    (context : ActorContext) (draws : Draws) (r : CommandResult), Reachable authority t →
    Commits ((Command.revokeClaim commandId correlationId ref reason context).transaction authority
      draws) t r t' → r.outcome = .committed → Fenced authority t' ref.deviceInstanceId := by
  intro hfence
  have hanswer : (answer ((Command.revokeClaim "revoke" "revoke" (Sample.deviceRef "k" 1) "lost"
      (Sample.owner "alice")).transaction Sample.authority { now := 4, eventId := "revoke" })
      (Sample.after (Sample.handoff "e" "k" ++ Sample.handoff "f" "k" ++ [Sample.ack "e" 1]))).map
      (·.outcome) = some .committed := by decide +kernel
  obtain ⟨r, hr, hout⟩ := Option.map_eq_some_iff.mp hanswer
  have hcommit := commits_of_answer hr
  have hfenced := hfence _ _ _ _ _ _ _ _ _ r (Sample.after_reachable _) hcommit hout
  rw [← next_command hcommit] at hfenced
  obtain ⟨g, hg, -, -, hlater⟩ := hfenced.activation [] (Sample.ack "f" 2) (by decide +kernel)
    (by decide +kernel)
  -- every grant on file was decided before the revocation
  have hdecided : ∀ g ∈ (Sample.after (Sample.handoff "e" "k" ++ Sample.handoff "f" "k" ++
        [Sample.ack "e" 1, Sample.revoke "revoke" "k" 1])).grants.rows,
      ∃ d ∈ (Sample.after (Sample.handoff "e" "k" ++ Sample.handoff "f" "k" ++
        [Sample.ack "e" 1, Sample.revoke "revoke" "k" 1])).decisions.rows,
      d.decisionId = g.decisionId := by decide +kernel
  obtain ⟨d, hd, hid⟩ := hdecided g hg
  exact hlater d hd hid

end AdmissionAuthority

/-! ### Generations advance -/

/-- No Claim and no directory row has gone back to an earlier Claim generation. -/
structure GenerationsAdvance (t t' : Tables) : Prop where
  claim : ∀ i c, t.claims.get (·.deviceInstanceId) i = some c →
    ∃ c', t'.claims.get (·.deviceInstanceId) i = some c' ∧ c.claimGeneration ≤ c'.claimGeneration
  device : ∀ i row, t.devices.get (·.deviceId) i = some row →
    ∃ row', t'.devices.get (·.deviceId) i = some row' ∧ row.claimGeneration ≤ row'.claimGeneration

/-- The request acknowledges no open grant that a later generation of its device, which
was acknowledged or withdrawn, has overtaken. Of a grant that is not open an acknowledgement
is refused, or answered from what is stored. -/
def InOrder (t : Tables) (request : Request) : Prop :=
  ∀ g ∈ t.grants, request.Acknowledges g.grantId → t.registry.Open g.enrollmentId → ∀ g' ∈ t.grants,
    g'.deviceRef.deviceInstanceId = g.deviceRef.deviceInstanceId →
    g.claimGeneration < g'.claimGeneration → ∀ p ∈ t.proposals, p.enrollmentId = g'.enrollmentId →
      p.state ≠ .grantAcknowledged ∧ p.state ≠ .claimRevoked

namespace Registry

/-- Claims keep their row and advance, directory rows keep theirs. -/
structure Advances (s s' : Registry) : Prop where
  claim : ∀ i c, s.claim i = some c →
    ∃ c', s'.claim i = some c' ∧ c.claimGeneration ≤ c'.claimGeneration
  device : ∀ i row, s.device i = some row → ∃ row', s'.device i = some row'

theorem Advances.refl (s : Registry) : s.Advances s :=
  ⟨fun _ c hc => ⟨c, hc, Nat.le_refl _⟩, fun _ row hrow => ⟨row, hrow⟩⟩

theorem Advances.trans {s s' s'' : Registry} (h : s.Advances s') (h' : s'.Advances s'') :
    s.Advances s'' := by
  refine ⟨?_, ?_⟩
  · intro i c hc
    obtain ⟨c', hc', hle⟩ := h.claim i c hc
    obtain ⟨c'', hc'', hle'⟩ := h'.claim i c' hc'
    exact ⟨c'', hc'', Nat.le_trans hle hle'⟩
  · intro i row hrow
    obtain ⟨row', hrow'⟩ := h.device i row hrow
    exact h'.device i row' hrow'

variable {authority : AdmissionAuthority} {s : Registry} {m : Move}

/-- The generation of a Claim is the one of the grant it stands on. -/
theorem Sound.claimGeneration {c : ClaimRow} {p : ProposalRow} {d : DecisionRow} {g : GrantRow}
    (hs : s.Sound authority) (h : StandsOn s c p d g) : c.claimGeneration = g.claimGeneration := by
  obtain ⟨p', d', -, -, -, hgranted⟩ := (hs.legal _).granted h.grant
  have := congrArg DeviceRef.claimGeneration (h.deviceRef.trans hgranted.approval.deviceRef)
  exact this

theorem device_kept {i : DeviceInstanceId} {row : DeviceRow} (h : s.device i = some row) :
    ∃ row', (s.apply m).device i = some row' := by
  cases m with
  | acknowledge p g d a name published now =>
    by_cases hi : i = g.deviceRef.deviceInstanceId
    · exact ⟨acknowledgedDevice s p g d name now, by simp [apply, hi]⟩
    · exact ⟨row, by simp [apply, hi, h]⟩
  | withdraw p g d published now =>
    by_cases hi : i = g.deviceRef.deviceInstanceId
    · exact ⟨row.revoke g.deviceRef now, by simp [apply, withDeviceRevoked, ← hi, h]⟩
    · exact ⟨row, by simp [apply, withDeviceRevoked, hi, h]⟩
  | revoke c published now =>
    by_cases hi : i = c.deviceRef.deviceInstanceId
    · exact ⟨row.revoke c.deviceRef now,
        by simp [apply, withDeviceRevoked, revokeGrantsOf, ← hi, h]⟩
    · exact ⟨row, by simp [apply, withDeviceRevoked, revokeGrantsOf, hi, h]⟩
  | _ => exact ⟨row, h⟩

/-- A move advances the Claims, unless it acknowledges a grant that was overtaken. -/
theorem Sound.advances (hs : s.Sound authority) (hm : s.allows authority m)
    (horder : ∀ p g d a name published now, m = .acknowledge p g d a name published now →
      ∀ c, s.claim g.deviceRef.deviceInstanceId = some c → c.claimGeneration ≤ g.claimGeneration) :
    s.Advances (s.apply m) := by
  refine ⟨?_, fun _ _ => device_kept⟩
  intro i c hc
  by_cases hne : m.device = some i
  · cases m <;> simp only [Move.device, Option.some.injEq, reduceCtorEq] at hne <;> subst hne
    case acknowledge p g d a name published now =>
      refine ⟨_, claim_acknowledge hs, ?_⟩
      have hgeneration := (hs.apply hm).claimGeneration (standsOn_acknowledge hs hm)
      rw [hgeneration]
      exact horder p g d a name published now rfl c hc
    case withdraw p g d published now =>
      obtain ⟨-, -, -, -, -, -, hnone, -⟩ := hm
      simp [hnone] at hc
    case revoke c' published now =>
      obtain rfl : c' = c := by simpa [hm.1] using hc
      exact ⟨c'.revoke now,
        by simp [Registry.apply, withDeviceRevoked, revokeGrantsOf, ClaimRow.revoke], Nat.le_refl _⟩
  · exact ⟨c, by rw [claim_apply_of_ne hs hne, hc], Nat.le_refl _⟩

end Registry

namespace AdmissionAuthority

open Registry

variable {authority : AdmissionAuthority} {t t' : Tables}

/-- A directory row has the generation of its Claim, so it advances with it. -/
theorem generationsAdvance_of (hs : t.registry.Sound authority) (hs' : t'.registry.Sound authority)
    (h : t.registry.Advances t'.registry) : GenerationsAdvance t t' := by
  refine ⟨h.claim, ?_⟩
  intro i row hrow
  obtain ⟨row', hrow'⟩ := h.device i row hrow
  obtain ⟨c, hc, hshows⟩ := hs.devices i row hrow
  obtain ⟨c', hc', hshows'⟩ := hs'.devices i row' hrow'
  obtain ⟨c'', hc'', hle⟩ := h.claim i c hc
  obtain rfl : c'' = c' := by simpa [hc'] using hc''.symm
  refine ⟨row', hrow', ?_⟩
  rw [hshows.generation.2.1, hshows'.generation.2.1]
  exact hle

/-- The Claim of a device is no newer than a grant that is acknowledged in order. -/
theorem claim_le_of_inOrder {request : Request} {g : GrantRow} (hs : t.registry.Sound authority)
    (horder : InOrder t request) (hg : g ∈ t.grants) (hack : request.Acknowledges g.grantId)
    (hopen : t.registry.Open g.enrollmentId) {c : ClaimRow} (hc : t.registry.claim g.deviceRef.deviceInstanceId = some c) :
    c.claimGeneration ≤ g.claimGeneration := by
  obtain ⟨hi, p, d, g', hstands⟩ := hs.claims _ c hc
  rw [hs.claimGeneration hstands]
  by_contra hlt
  obtain ⟨hg', he⟩ := Tables.grant_of_dossier hstands.grant
  have hdevice : g'.deviceRef.deviceInstanceId = g.deviceRef.deviceInstanceId := by
    rw [← hstands.deviceRef, ← hi]
    rfl
  have hstate := horder g hg hack hopen g' hg' hdevice (Nat.not_le.mp hlt) p
    (Tables.hasProposal_iff.mp hstands.proposal) he.symm
  rcases hstands.state with ⟨-, hp, -⟩ | ⟨-, hp | hp, -⟩ <;> simp [hp] at hstate

theorem next_advances {request : Request} (hs : t.registry.Sound authority)
    (horder : InOrder t request) : t.registry.Advances (authority.next t request).registry := by
  by_cases hack : ∃ grantId, request.Acknowledges grantId
  · obtain ⟨grantId, commandId, correlationId, enrollmentId, proof, generation, epoch, draws, rfl⟩ :=
      hack
    rcases next_command_cases authority t (.ackClaimGrant commandId correlationId enrollmentId grantId
      proof generation epoch) draws with ⟨r, hcommit⟩ | hsame
    · rcases ack_commits hcommit with ⟨hsame, -⟩ | ⟨p, g, d, a, name, published, rfl, hm, happly⟩
      · rw [hsame]
        exact .refl _
      · rw [happly]
        refine hs.advances hm ?_
        rintro p' g' d' a' name' published' now' heq c hc
        cases heq
        obtain ⟨hg, hopen⟩ := open_of_acknowledge hm
        exact claim_le_of_inOrder hs horder hg ⟨_, _, _, _, _, _, _, rfl⟩ hopen hc
    · rw [hsame]
      exact .refl _
  · obtain ⟨moves, hmakes, hfollows⟩ := next_makes authority t request
    refine (hfollows.inv_of (I := fun s => s.Sound authority ∧ t.registry.Advances s) ?_ hmakes
      ⟨hs, .refl _⟩).2
    rintro s m ⟨hs, hadvances⟩ hm hmade
    refine ⟨hs.apply hm, hadvances.trans (hs.advances hm ?_)⟩
    rintro p g d a name published now rfl
    exact absurd ⟨_, Request.acknowledges_of_makes hmade⟩ hack

/-- **Generations advance in every run that acknowledges grants in order.** -/
theorem generations_advance {requests : List Request} (h : Reachable authority t)
    (horder : Along authority.next InOrder t requests) :
    GenerationsAdvance t (run authority.next t requests) := by
  have hs := reachable_sound h
  have hrun := run_inv_along (I := fun t' : Tables => t'.registry.Sound authority ∧
    t.registry.Advances t'.registry) ?_ ⟨hs, .refl _⟩ horder
  · exact generationsAdvance_of hs hrun.1 hrun.2
  · rintro t' request ⟨hs', hadvances⟩ hin
    exact ⟨next_sound hs', hadvances.trans (next_advances hs' hin)⟩

/-- Two grants of one device, acknowledged in the order they were issued. -/
theorem generations_advance_in_order : GenerationsAdvance
    (Sample.after (Sample.handoff "e" "k" ++ Sample.handoff "f" "k" ++ [Sample.ack "e" 1]))
    (run Sample.authority.next
      (Sample.after (Sample.handoff "e" "k" ++ Sample.handoff "f" "k" ++ [Sample.ack "e" 1]))
      [Sample.ack "f" 2]) := by
  refine generations_advance (Sample.after_reachable _) ⟨?_, trivial⟩
  rintro g hg ⟨commandId, correlationId, enrollmentId, proof, generation, epoch, draws, heq⟩ - g' hg' -
    hlt
  have hid : "grant-f" = g.grantId := by
    simp only [Sample.ack, Request.command.injEq, Command.ackClaimGrant.injEq] at heq
    exact heq.1.2.2.2.1
  have hnewest : ∀ g ∈ (Sample.after (Sample.handoff "e" "k" ++ Sample.handoff "f" "k" ++
      [Sample.ack "e" 1])).grants.rows, g.claimGeneration ≤ 2 ∧
      (g.grantId = "grant-f" → g.claimGeneration = 2) := by decide +kernel
  have := (hnewest g hg).2 hid.symm
  have := (hnewest g' hg').1
  omega

/-- Acknowledged out of order, the older grant takes the Claim back a generation. -/
theorem generations_go_back : ¬ ∀ (authority : AdmissionAuthority) (t : Tables)
    (requests : List Request), Reachable authority t →
    GenerationsAdvance t (run authority.next t requests) := by
  intro hadvance
  have h := hadvance Sample.authority (Sample.after (Sample.handoff "e" "k" ++
    Sample.handoff "f" "k" ++ [Sample.ack "f" 2])) [Sample.ack "e" 1] (Sample.after_reachable _)
  have hbefore : ((Sample.after (Sample.handoff "e" "k" ++ Sample.handoff "f" "k" ++
      [Sample.ack "f" 2])).claims.get (·.deviceInstanceId) "device-k").map (·.claimGeneration) =
      some 2 := by decide +kernel
  have hafter : ((Sample.after (Sample.handoff "e" "k" ++ Sample.handoff "f" "k" ++
      [Sample.ack "f" 2, Sample.ack "e" 1])).claims.get (·.deviceInstanceId) "device-k").map
      (·.claimGeneration) = some 1 := by decide +kernel
  obtain ⟨c, hc, hgeneration⟩ := Option.map_eq_some_iff.mp hbefore
  obtain ⟨c', hc', hle⟩ := h.claim _ c hc
  have hafter' : ((run Sample.authority.next (Sample.after (Sample.handoff "e" "k" ++
      Sample.handoff "f" "k" ++ [Sample.ack "f" 2])) [Sample.ack "e" 1]).claims.get
      (·.deviceInstanceId) "device-k").map (·.claimGeneration) = some 1 := hafter
  rw [hc'] at hafter'
  simp only [Option.map_some, Option.some.injEq] at hafter'
  omega

end AdmissionAuthority

end EidolonHub.Admission
