import EidolonHub.Admission.Identity

/-!
# EidolonHub.Admission.Presence

**Who needs a fresh moment of presence.** A continuation is refused while a Proposal
of its hardware is on file as rejected or a Claim of it as revoked. That is read off
the tables of the present; what it stands for is the last verdict the owner gave, which
`Ruling` keeps along a run. An activation takes a revocation back and no rejection, so
the two agree in the runs whose activations find nothing but the row they replace.
-/

namespace EidolonHub.Admission

open EidolonHub.Library EidolonHub.Library.Tx

/-! ### What is on file against a hardware -/

namespace Registry

variable {authority : AdmissionAuthority} {s : Registry} {m : Move} {domain : OwnerDomainId}
  {hardware : HardwareIdentityRef} {i : DeviceInstanceId}

/-- A Proposal of this hardware was rejected. -/
def Rejected (s : Registry) (domain : OwnerDomainId) (hardware : HardwareIdentityRef) : Prop :=
  ∃ p, s.HasProposal p ∧ p.requestedOwnerDomainId = domain ∧ p.hardwareIdentityRef = hardware ∧
    p.state = .rejected

/-- The Claim of this device is one of the hardware, and revoked. -/
def RevokedAt (s : Registry) (domain : OwnerDomainId) (hardware : HardwareIdentityRef)
    (i : DeviceInstanceId) : Prop :=
  ∃ c, s.claim i = some c ∧ c.ownerDomainId = domain ∧ c.hardwareIdentityRef = hardware ∧
    c.state = .revoked

/-- The hardware was told no, as the registry has it. -/
def ToldNo (s : Registry) (domain : OwnerDomainId) (hardware : HardwareIdentityRef) : Prop :=
  s.Rejected domain hardware ∨ ∃ i, s.RevokedAt domain hardware i

/-- The Claim of a device is that of a Proposal of the device and its hardware. -/
theorem Sound.claim_proposal {c : ClaimRow} (hs : s.Sound authority) (hc : s.claim i = some c) :
    ∃ p, s.HasProposal p ∧ p.deviceInstanceId = i ∧
      c.ownerDomainId = p.requestedOwnerDomainId ∧ c.hardwareIdentityRef = p.hardwareIdentityRef := by
  obtain ⟨hi, p, d, g, hstands⟩ := hs.claims i c hc
  obtain ⟨p', d', hp', -, -, hgranted⟩ := (hs.legal p.enrollmentId).granted hstands.grant
  have hp := hstands.proposal
  unfold HasProposal at hp
  obtain rfl : p = p' := Option.some.inj (hp.symm.trans hp')
  have href := hstands.deviceRef.trans hgranted.approval.deviceRef
  simp only [ClaimRow.deviceRef, DeviceRef.mk.injEq] at href
  exact ⟨p, hp, href.1.symm.trans hi, href.2.1,
    hstands.hardwareIdentityRef.trans hgranted.approval.hardwareIdentityRef⟩

/-- Only a rejection adds to the rejected Proposals, and nothing removes one. -/
theorem rejected_apply (domain : OwnerDomainId) (hardware : HardwareIdentityRef)
    (hm : s.allows authority m) : (s.apply m).Rejected domain hardware ↔
    s.Rejected domain hardware ∨ ∃ p d now, m = .reject p d now ∧
      p.requestedOwnerDomainId = domain ∧ p.hardwareIdentityRef = hardware := by
  constructor
  · rintro ⟨p', hp', hdomain, hhardware, hstate⟩
    unfold HasProposal at hp'
    rw [proposal_apply_eq] at hp'
    have hold : (s.dossier p'.enrollmentId).proposal = some p' → s.Rejected domain hardware :=
      fun hp => ⟨p', hp, hdomain, hhardware, hstate⟩
    cases m with
    | reject p d now =>
      by_cases he : p'.enrollmentId = p.enrollmentId
      · obtain rfl : p.moved .rejected now = p' := by simpa [Move.proposal, he] using hp'
        exact .inr ⟨p, d, now, rfl, hdomain, hhardware⟩
      · exact .inl (hold (by simpa [Move.proposal, he] using hp'))
    | enroll p =>
      by_cases he : p'.enrollmentId = p.enrollmentId
      · obtain rfl : p = p' := by simpa [Move.proposal, he] using hp'
        simp [hm.2.1] at hstate
      · exact .inl (hold (by simpa [Move.proposal, he] using hp'))
    | revoke c published now => exact .inl (hold hp')
    | approve p | deliver p | acknowledge p | cancel p | expire p | withdraw p =>
      left
      by_cases he : p'.enrollmentId = p.enrollmentId
      · simp only [Move.proposal, ProposalRow.moved_enrollmentId, he, if_true, Option.some.injEq] at hp'
        rw [← hp'] at hstate
        cases hstate
      · exact hold (by simpa [Move.proposal, he] using hp')
  · rintro (⟨p, hp, hdomain, hhardware, hstate⟩ | ⟨p, d, now, rfl, hdomain, hhardware⟩)
    · exact ⟨p, proposal_apply_of_terminal hm hp (by rw [hstate]; rfl), hdomain, hhardware, hstate⟩
    · refine ⟨p.moved .rejected now, ?_, hdomain, hhardware, rfl⟩
      unfold HasProposal
      rw [proposal_apply_eq]
      simp [Move.proposal]

theorem revokedAt_apply_of_ne (hs : s.Sound authority) (h : m.device ≠ some i) :
    (s.apply m).RevokedAt domain hardware i ↔ s.RevokedAt domain hardware i := by
  unfold RevokedAt
  rw [claim_apply_of_ne hs h]

/-- A move leaves what is on file against a hardware where it rejects no Proposal of it and
the device it writes is no other case than before. -/
theorem toldNo_apply (hs : s.Sound authority) (hm : s.allows authority m)
    (hreject : ∀ p d now, m = .reject p d now →
      ¬ (p.requestedOwnerDomainId = domain ∧ p.hardwareIdentityRef = hardware))
    (hdevice : ∀ i, m.device = some i →
      ((s.apply m).RevokedAt domain hardware i ↔ s.RevokedAt domain hardware i)) :
    (s.apply m).ToldNo domain hardware ↔ s.ToldNo domain hardware := by
  have hrejected : (s.apply m).Rejected domain hardware ↔ s.Rejected domain hardware := by
    rw [rejected_apply _ _ hm, or_iff_left]
    rintro ⟨p, d, now, rfl, hmatch⟩
    exact hreject p d now rfl hmatch
  have hrevoked : ∀ i, (s.apply m).RevokedAt domain hardware i ↔ s.RevokedAt domain hardware i := by
    intro i
    by_cases hi : m.device = some i
    · exact hdevice i hi
    · exact revokedAt_apply_of_ne hs hi
  simp only [ToldNo, hrejected, hrevoked]

/-- Moves that neither reject nor write a Claim leave what is on file. -/
theorem Follows.toldNo {s' : Registry} {moves : List Move} (h : Follows authority s moves s')
    (hs : s.Sound authority) (hsilent : ∀ m ∈ moves, (∀ p d now, m ≠ .reject p d now) ∧ m.device = none) :
    s'.ToldNo domain hardware ↔ s.ToldNo domain hardware := by
  refine (h.inv_of (I := fun s' => s'.Sound authority ∧
    (s'.ToldNo domain hardware ↔ s.ToldNo domain hardware)) ?_ hsilent ⟨hs, Iff.rfl⟩).2
  intro s₁ m hs₁ hm hsilent
  refine ⟨hs₁.1.apply hm, (toldNo_apply hs₁.1 hm ?_ ?_).trans hs₁.2⟩
  · intro p d now heq
    exact absurd heq (hsilent.1 p d now)
  · intro i hi
    rw [hsilent.2] at hi
    cases hi

end Registry

namespace AdmissionAuthority

variable {authority : AdmissionAuthority} {t t' : Tables} {request : Request}
  {domain : OwnerDomainId} {hardware : HardwareIdentityRef}

theorem requiresFreshPresence_iff :
    t.requiresFreshPresence domain hardware = true ↔ t.registry.ToldNo domain hardware := by
  simp only [Tables.requiresFreshPresence, Bool.or_eq_true, List.any_eq_true, Bool.and_eq_true,
    decide_eq_true_eq, and_assoc]
  refine or_congr ⟨?_, ?_⟩ ⟨?_, ?_⟩
  · rintro ⟨p, hp, hmatch⟩
    exact ⟨p, Tables.hasProposal_iff.mpr hp, hmatch⟩
  · rintro ⟨p, hp, hmatch⟩
    exact ⟨p, Tables.hasProposal_iff.mp hp, hmatch⟩
  · rintro ⟨c, hc, hmatch⟩
    exact ⟨c.deviceInstanceId, c, Table.get_of_mem claim_deviceInstanceId_isKey hc, hmatch⟩
  · rintro ⟨i, c, hc, hmatch⟩
    exact ⟨c, Table.get_mem hc, hmatch⟩

/-! ### Calls that are answered as committed -/

/-- The call commits, and its answer repeats no stored one. -/
def IsCommitted (authority : AdmissionAuthority) (t : Tables) (cmd : Command) (draws : Draws) :
    Prop :=
  ∃ r t', Commits (cmd.transaction authority draws) t r t' ∧ r.outcome = .committed

/-- Where a call either repeats an answer or acts, it acts exactly when it is committed. -/
theorem isCommitted_effect {cmd : Command} {draws : Draws} {P : Tables → Prop}
    (h : ∀ r t', Commits (cmd.transaction authority draws) t r t' →
      t' = t ∧ r.outcome = .replayed ∨ r.outcome = .committed ∧ P t') :
    IsCommitted authority t cmd draws ∧ P (authority.next t (.command cmd draws)) ∨
      ¬ IsCommitted authority t cmd draws ∧ authority.next t (.command cmd draws) = t := by
  by_cases hc : IsCommitted authority t cmd draws
  · left
    obtain ⟨r, t', hcommit, hout⟩ := hc
    rw [next_command hcommit]
    rcases h r t' hcommit with ⟨-, hreplay⟩ | ⟨-, hp⟩
    · rw [hreplay] at hout
      cases hout
    · exact ⟨⟨r, t', hcommit, hout⟩, hp⟩
  · right
    refine ⟨hc, ?_⟩
    rcases next_command_cases authority t cmd draws with ⟨r, hcommit⟩ | hsame
    · rcases h r _ hcommit with ⟨hsame, -⟩ | ⟨hout, -⟩
      · exact hsame
      · exact absurd ⟨r, _, hcommit, hout⟩ hc
    · exact hsame

theorem decide_effect (authority : AdmissionAuthority) (t : Tables) (commandId : CommandId)
    (correlationId : CorrelationId) (e : EnrollmentId) (payload : DecideEnrollment)
    (context : ActorContext) (draws : Draws) :
    let cmd := Command.decideEnrollment commandId correlationId e payload context;
    (IsCommitted authority t cmd draws ∧ ∃ p, p.enrollmentId = e ∧
      Registry.Follows authority t.registry [decisionMove authority t p payload.decision context.actor
        payload.targetBusinessOwnerId payload.reviewedManifestRef draws]
        (authority.next t (.command cmd draws)).registry) ∨
    ¬ IsCommitted authority t cmd draws ∧ authority.next t (.command cmd draws) = t := by
  refine isCommitted_effect (P := fun t' => ∃ p, p.enrollmentId = e ∧ Registry.Follows authority
    t.registry [decisionMove authority t p payload.decision context.actor
      payload.targetBusinessOwnerId payload.reviewedManifestRef draws] t'.registry) ?_
  intro r t' hcommit
  obtain ⟨fp, hfp, hsession⟩ := command_commits hcommit
  refine (decideEnrollment_follows (decideAuthorized_ok hfp).1 hsession).imp id ?_
  exact fun ⟨hout, p, he, _, hmove⟩ => ⟨hout, p, he, hmove⟩

theorem ack_effect (authority : AdmissionAuthority) (t : Tables) (commandId : CommandId)
    (correlationId : CorrelationId) (e : EnrollmentId) (grantId : GrantId) (proof : String)
    (generation epoch : Nat) (draws : Draws) :
    let cmd := Command.ackClaimGrant commandId correlationId e grantId proof generation epoch;
    (IsCommitted authority t cmd draws ∧ ∃ p g d a name published, p.enrollmentId = e ∧
      Registry.Follows authority t.registry [.acknowledge p g d a name published draws.now]
        (authority.next t (.command cmd draws)).registry) ∨
    ¬ IsCommitted authority t cmd draws ∧ authority.next t (.command cmd draws) = t := by
  refine isCommitted_effect (P := fun t' => ∃ p g d a name published, p.enrollmentId = e ∧
    Registry.Follows authority t.registry [.acknowledge p g d a name published draws.now]
      t'.registry) ?_
  intro r t' hcommit
  obtain ⟨fp, hfp, hsession⟩ := command_commits hcommit
  refine (ackClaimGrant_follows hsession).imp id ?_
  exact fun ⟨hout, p, g, d, name, published, he, _, hmove⟩ =>
    ⟨hout, p, g, d, _, name, published, he, hmove⟩

/-- What a revocation that acts does: nothing to a Claim that is revoked already, and
otherwise it withdraws a grant or revokes the Claim. -/
theorem revoke_effect (authority : AdmissionAuthority) (t : Tables) (commandId : CommandId)
    (correlationId : CorrelationId) (ref : DeviceRef) (reason : String) (context : ActorContext)
    (draws : Draws) :
    let cmd := Command.revokeClaim commandId correlationId ref reason context
    let s' := (authority.next t (.command cmd draws)).registry;
    (IsCommitted authority t cmd draws ∧
      ((s' = t.registry ∧ ∃ c, t.registry.claim ref.deviceInstanceId = some c ∧ c.state = .revoked) ∨
        (∃ p g d published, g.deviceRef = ref ∧
          Registry.Follows authority t.registry [.withdraw p g d published draws.now] s') ∨
        ∃ c published, c.deviceRef = ref ∧
          Registry.Follows authority t.registry [.revoke c published draws.now] s')) ∨
    ¬ IsCommitted authority t cmd draws ∧ authority.next t (.command cmd draws) = t := by
  refine isCommitted_effect (P := fun t' => (t'.registry = t.registry ∧
      ∃ c, t.registry.claim ref.deviceInstanceId = some c ∧ c.state = .revoked) ∨
    (∃ p g d published, g.deviceRef = ref ∧
      Registry.Follows authority t.registry [.withdraw p g d published draws.now] t'.registry) ∨
    ∃ c published, c.deviceRef = ref ∧
      Registry.Follows authority t.registry [.revoke c published draws.now] t'.registry) ?_
  intro r t' hcommit
  obtain ⟨fp, hfp, hsession⟩ := command_commits hcommit
  refine (revokeClaim_follows hsession).imp id (And.imp id ?_)
  rintro (⟨hsame, c, hc, -, hstate⟩ | ⟨p, g, d, published, hg, -, hmove⟩ |
    ⟨c, published, href, -, hmove⟩)
  · exact .inl ⟨hsame, c, hc, hstate⟩
  · exact .inr (.inl ⟨p, g, d, published, Table.get_key hg, hmove⟩)
  · exact .inr (.inr ⟨c, published, href, hmove⟩)

/-! ### Verdicts -/

/-- The owner says no to the hardware: a Proposal of it is rejected, or a revocation of
its Claim is committed. -/
inductive SaysNo (authority : AdmissionAuthority) (domain : OwnerDomainId)
    (hardware : HardwareIdentityRef) (t : Tables) : Request → Prop where
  | reject {commandId : CommandId} {correlationId : CorrelationId} {e : EnrollmentId}
      {payload : DecideEnrollment} {context : ActorContext} {draws : Draws} {p : ProposalRow}
      (committed : IsCommitted authority t
        (.decideEnrollment commandId correlationId e payload context) draws)
      (rejects : payload.decision = .reject) (mem : p ∈ t.proposals) (enrollmentId : p.enrollmentId = e)
      (ownerDomainId : p.requestedOwnerDomainId = domain)
      (hardwareIdentityRef : p.hardwareIdentityRef = hardware) :
      SaysNo authority domain hardware t
        (.command (.decideEnrollment commandId correlationId e payload context) draws)
  | revoke {commandId : CommandId} {correlationId : CorrelationId} {ref : DeviceRef}
      {reason : String} {context : ActorContext} {draws : Draws} {c : ClaimRow}
      (committed : IsCommitted authority t
        (.revokeClaim commandId correlationId ref reason context) draws)
      (mem : c ∈ (authority.next t
        (.command (.revokeClaim commandId correlationId ref reason context) draws)).claims)
      (deviceInstanceId : c.deviceInstanceId = ref.deviceInstanceId)
      (ownerDomainId : c.ownerDomainId = domain)
      (hardwareIdentityRef : c.hardwareIdentityRef = hardware) :
      SaysNo authority domain hardware t
        (.command (.revokeClaim commandId correlationId ref reason context) draws)

/-- The request activates the Claim of this enrollment of the hardware. -/
def Activates (authority : AdmissionAuthority) (domain : OwnerDomainId)
    (hardware : HardwareIdentityRef) (t : Tables) (request : Request) (e : EnrollmentId) : Prop :=
  ∃ commandId correlationId grantId proof generation epoch draws p,
    request = .command (.ackClaimGrant commandId correlationId e grantId proof generation epoch)
      draws ∧
    IsCommitted authority t (.ackClaimGrant commandId correlationId e grantId proof generation epoch)
      draws ∧
    p ∈ t.proposals ∧ p.enrollmentId = e ∧ p.requestedOwnerDomainId = domain ∧
    p.hardwareIdentityRef = hardware

/-- The request approves this enrollment, by itself or at issuance. -/
def Approves (authority : AdmissionAuthority) (t : Tables) (request : Request) (e : EnrollmentId) :
    Prop :=
  ∃ d ∈ (authority.next t request).decisions, d ∉ t.decisions ∧ d.decision = .approve ∧
    d.enrollmentId = e

/-- The request makes this enrollment, on a fresh voucher. -/
def Vouches (authority : AdmissionAuthority) (t : Tables) (request : Request) (e : EnrollmentId) :
    Prop :=
  ∃ payload enrolled draws, Enrolls authority t request payload enrolled draws ∧
    enrolled.verified.scheme = voucherScheme ∧ draws.enrollmentId = e

/-! ### What the verdicts leave on file -/

/-- The Claim a committed revocation leaves is revoked. -/
theorem revoked_of_committed {commandId : CommandId} {correlationId : CorrelationId}
    {ref : DeviceRef} {reason : String} {context : ActorContext} {draws : Draws} {c : ClaimRow}
    (hcommitted : IsCommitted authority t (.revokeClaim commandId correlationId ref reason context)
      draws)
    (hc : (authority.next t (.command (.revokeClaim commandId correlationId ref reason context)
      draws)).registry.claim ref.deviceInstanceId = some c) : c.state = .revoked := by
  rcases revoke_effect authority t commandId correlationId ref reason context draws with
    ⟨-, ⟨hsame, c', hc', hstate⟩ | ⟨p, g, d, published, rfl, -, hnext⟩ |
    ⟨c', published, rfl, -, hnext⟩⟩ | ⟨hno, -⟩
  · rw [hsame, hc'] at hc
    cases hc
    exact hstate
  · rw [hnext] at hc
    obtain rfl : withdrawnClaim g.deviceRef p g d.targetBusinessOwnerId draws.now = c := by
      simpa [Registry.apply, Registry.withDeviceRevoked, withdrawnClaim] using hc
    rfl
  · rw [hnext] at hc
    obtain rfl : c'.revoke draws.now = c := by
      simpa [Registry.apply, Registry.withDeviceRevoked, Registry.revokeGrantsOf, ClaimRow.revoke,
        ClaimRow.deviceRef] using hc
    rfl
  · exact absurd hcommitted hno

/-- **After a no, one is on file.** -/
theorem SaysNo.toldNo (h : SaysNo authority domain hardware t request) :
    (authority.next t request).registry.ToldNo domain hardware := by
  cases h with
  | @reject commandId correlationId e payload context draws p committed rejects mem he hdomain hhardware =>
    rcases decide_effect authority t commandId correlationId e payload context draws with
      ⟨-, p', he', ⟨hm, -⟩, hnext⟩ | ⟨hno, -⟩
    · rw [rejects] at hm hnext
      obtain rfl : p' = p := by
        refine Table.eq_of_key proposal_enrollmentId_isKey (Tables.hasProposal_iff.mp hm.1) mem ?_
        exact he'.trans he.symm
      rw [hnext]
      exact .inl ((Registry.rejected_apply _ _ hm).mpr (.inr ⟨p', _, _, rfl, hdomain, hhardware⟩))
    · exact absurd committed hno
  | @revoke commandId correlationId ref reason context draws c committed mem hi hdomain hhardware =>
    have hc := Table.get_of_mem claim_deviceInstanceId_isKey mem
    rw [hi] at hc
    exact .inr ⟨ref.deviceInstanceId, c, hc, hdomain, hhardware, revoked_of_committed committed hc⟩

theorem not_revokedAt_acknowledge {s : Registry} {p : ProposalRow} {g : GrantRow} {d : DecisionRow}
    {a : GrantAckRow} {name : String} {published : Event} {now : Timestamp} (hs : s.Sound authority) :
    ¬ (s.apply (.acknowledge p g d a name published now)).RevokedAt domain hardware
      g.deviceRef.deviceInstanceId := by
  rintro ⟨c, hc, -, -, hstate⟩
  rw [Registry.claim_acknowledge hs] at hc
  obtain rfl := Option.some.inj hc
  rw [Registry.acknowledgedClaim_state] at hstate
  cases hstate

/-- A Claim the registry shows is on file, under its device. -/
theorem claim_of_registry {s : Registry} {i : DeviceInstanceId} {c : ClaimRow} (h : t.registry = s)
    (hc : s.claim i = some c) : c ∈ t.claims ∧ c.deviceInstanceId = i := by
  subst h
  exact ⟨Table.get_mem hc, Table.get_key hc⟩

/-- A request that is no verdict leaves what is on file against a hardware. -/
theorem toldNo_next (hreach : Reachable authority t) (hkeys : InstanceNamesKey authority.crypto)
    (hno : ¬ SaysNo authority domain hardware t request)
    (hactivates : ∀ e, ¬ Activates authority domain hardware t request e) :
    (authority.next t request).registry.ToldNo domain hardware ↔
      t.registry.ToldNo domain hardware := by
  have hs := reachable_sound hreach
  obtain ⟨moves, hmakes, hfollows⟩ := next_makes authority t request
  have hsilent : (∀ m, request.makes m → (∀ p d now, m ≠ .reject p d now) ∧ m.device = none) →
      ((authority.next t request).registry.ToldNo domain hardware ↔
        t.registry.ToldNo domain hardware) :=
    fun h => hfollows.toldNo hs fun m hm => h m (hmakes m hm)
  cases request with
  | command cmd draws =>
    cases cmd with
    | createEnrollment =>
      refine hsilent ?_
      rintro m (⟨p, rfl⟩ | ⟨p, d, g, now, rfl⟩) <;> exact ⟨fun _ _ _ h => (by cases h), rfl⟩
    | decideEnrollment commandId correlationId e payload context =>
      rcases decide_effect authority t commandId correlationId e payload context draws with
        ⟨hcommitted, p, he, ⟨hm, -⟩, hnext⟩ | ⟨-, hsame⟩
      · rw [hnext]
        refine Registry.toldNo_apply hs hm ?_ ?_
        · intro p' d now heq hmatch
          cases hkind : payload.decision with
          | approve =>
            rw [hkind] at heq
            cases heq
          | reject =>
            rw [hkind] at heq
            cases heq
            rw [hkind] at hm
            exact hno (.reject hcommitted hkind (Tables.hasProposal_iff.mp hm.1) he hmatch.1 hmatch.2)
        · intro i hi
          cases hkind : payload.decision <;> rw [hkind] at hi <;> cases hi
      · rw [hsame]
    | cancelEnrollment =>
      refine hsilent ?_
      rintro m ⟨p, now, -, rfl⟩
      exact ⟨fun _ _ _ h => (by cases h), rfl⟩
    | collectClaimGrant =>
      refine hsilent ?_
      rintro m ⟨p, g, envelope, now, -, rfl⟩
      exact ⟨fun _ _ _ h => (by cases h), rfl⟩
    | ackClaimGrant commandId correlationId e grantId proof generation epoch =>
      rcases ack_effect authority t commandId correlationId e grantId proof generation epoch draws with
        ⟨hcommitted, p, g, d, a, name, published, he, ⟨hm, -⟩, hnext⟩ | ⟨-, hsame⟩
      · rw [hnext]
        refine Registry.toldNo_apply hs hm (fun _ _ _ h => by cases h) ?_
        intro i hi
        obtain rfl := Option.some.inj hi
        obtain ⟨hp, -, hg, hge, -, -, hd, hdid, -⟩ := hm
        refine iff_of_false (not_revokedAt_acknowledge hs) ?_
        -- a Claim of the hardware at this device would make the acknowledgement one of the hardware
        rintro ⟨c, hc, hdomain, hhardware, -⟩
        obtain ⟨p₀, hp₀, hdevice, hdomain₀, hhardware₀⟩ := hs.claim_proposal hc
        have href := (hs.granted_of_has hp hg hge hd hdid).approval.deviceRef
        have hsame := ((reachable_identified hreach).same_device hkeys hp hp₀
          (by rw [hdevice, href])).2
        have hsame' : p.requestedOwnerDomainId = p₀.requestedOwnerDomainId :=
          ((hs.legal _).proposal hp).2.1.trans ((hs.legal _).proposal hp₀).2.1.symm
        exact hactivates e ⟨commandId, correlationId, grantId, proof, generation, epoch, draws, p, rfl,
          hcommitted, Tables.hasProposal_iff.mp hp, he, by rw [hsame', ← hdomain₀, hdomain],
          by rw [hsame, ← hhardware₀, hhardware]⟩
      · rw [hsame]
    | revokeClaim commandId correlationId ref reason context =>
      rcases revoke_effect authority t commandId correlationId ref reason context draws with
        ⟨hcommitted, ⟨hsame, -⟩ | ⟨p, g, d, published, rfl, ⟨hm, -⟩, hnext⟩ |
          ⟨c, published, rfl, ⟨hm, -⟩, hnext⟩⟩ | ⟨-, hsame⟩
      · rw [hsame]
      · have hclaim := fun i c => claim_of_registry (i := i) (c := c) hnext
        rw [hnext]
        refine Registry.toldNo_apply hs hm (fun _ _ _ h => by cases h) ?_
        intro i hi
        obtain rfl := Option.some.inj hi
        refine iff_of_false ?_ ?_
        · rintro ⟨c, hc, hdomain, hhardware, -⟩
          obtain ⟨hmem, hkey⟩ := hclaim _ c hc
          exact hno (.revoke hcommitted hmem hkey hdomain hhardware)
        · rintro ⟨c, hc, -⟩
          rw [hm.2.2.2.2.2.2.1] at hc
          cases hc
      · have hclaim := fun i c' => claim_of_registry (i := i) (c := c') hnext
        rw [hnext]
        refine Registry.toldNo_apply hs hm (fun _ _ _ h => by cases h) ?_
        intro i hi
        obtain rfl := Option.some.inj hi
        refine iff_of_false ?_ ?_
        · rintro ⟨c', hc', hdomain, hhardware, -⟩
          obtain ⟨hmem, hkey⟩ := hclaim _ c' hc'
          exact hno (.revoke hcommitted hmem hkey hdomain hhardware)
        · rintro ⟨c', hc', -, -, hstate⟩
          rw [hm.1] at hc'
          obtain rfl := Option.some.inj hc'
          exact hm.2.1 hstate
      · rw [hsame]
  | expireDue eventIds now =>
    refine hsilent ?_
    rintro m ⟨p, now, rfl⟩
    exact ⟨fun _ _ _ h => (by cases h), rfl⟩
  | recordStanding => exact hsilent fun m hm => hm.elim
  | withdrawController => exact hsilent fun m hm => hm.elim

/-- Nothing is on file against the hardware but, at most, the Claim of the device that
enrolled as this enrollment. -/
structure Cleared (t : Tables) (domain : OwnerDomainId) (hardware : HardwareIdentityRef)
    (e : EnrollmentId) : Prop where
  rejected : ∀ p ∈ t.proposals, p.requestedOwnerDomainId = domain →
    p.hardwareIdentityRef = hardware → p.state ≠ .rejected
  revoked : ∀ c ∈ t.claims, c.ownerDomainId = domain → c.hardwareIdentityRef = hardware →
    c.state = .revoked → ∃ p ∈ t.proposals, p.enrollmentId = e ∧ p.deviceInstanceId = c.deviceInstanceId

/-- **An activation leaves what it finds on file**, apart from the Claim it replaces. -/
theorem Activates.toldNo {e : EnrollmentId} (hs : t.registry.Sound authority)
    (h : Activates authority domain hardware t request e) :
    (authority.next t request).registry.ToldNo domain hardware ↔ ¬ Cleared t domain hardware e := by
  obtain ⟨commandId, correlationId, grantId, proof, generation, epoch, draws, q, rfl, hcommitted,
    hq, hqe, hdomain, hhardware⟩ := h
  rcases ack_effect authority t commandId correlationId e grantId proof generation epoch draws with
    ⟨-, p, g, d, a, name, published, he, ⟨hm, -⟩, hnext⟩ | ⟨hno, -⟩
  · have hopen := hm
    obtain ⟨hp, -, hg, hge, -, -, hd, hdid, -⟩ := hopen
    obtain rfl : p = q :=
      Table.eq_of_key proposal_enrollmentId_isKey (Tables.hasProposal_iff.mp hp) hq (he.trans hqe.symm)
    have hdevice : g.deviceRef.deviceInstanceId = p.deviceInstanceId := by
      rw [(hs.granted_of_has hp hg hge hd hdid).approval.deviceRef]
    have hrejected := Registry.rejected_apply domain hardware hm
    have hother : ∀ i, i ≠ p.deviceInstanceId → ((t.registry.apply (.acknowledge p g d a name
        published draws.now)).RevokedAt domain hardware i ↔ t.registry.RevokedAt domain hardware i) := by
      intro i hi
      refine Registry.revokedAt_apply_of_ne hs fun heq => hi ?_
      rw [← hdevice]
      exact (Option.some.inj heq).symm
    rw [hnext]
    constructor
    -- the activated device is not revoked any more, and no other one changes
    · rintro (hrej | ⟨i, hrev⟩) hcleared
      · rcases hrejected.mp hrej with ⟨p', hp', hdomain', hhardware', hstate⟩ | ⟨_, _, _, heq, -⟩
        · exact hcleared.rejected p' (Tables.hasProposal_iff.mp hp') hdomain' hhardware' hstate
        · cases heq
      · by_cases hi : i = p.deviceInstanceId
        · rw [hi, ← hdevice] at hrev
          exact not_revokedAt_acknowledge hs hrev
        · obtain ⟨c, hc, hdomain', hhardware', hstate⟩ := (hother i hi).mp hrev
          obtain ⟨p', hp', he', hdevice'⟩ := hcleared.revoked c (Table.get_mem hc) hdomain' hhardware'
            hstate
          obtain rfl := Table.eq_of_key proposal_enrollmentId_isKey hp' hq (he'.trans hqe.symm)
          exact hi ((Table.get_key hc).symm.trans hdevice'.symm)
    -- were nothing on file, the enrollment would have cleared it all
    · intro hnot
      by_contra hno
      refine hnot ⟨?_, ?_⟩
      · intro p' hp' hdomain' hhardware' hstate
        exact hno (.inl (hrejected.mpr (.inl
          ⟨p', Tables.hasProposal_iff.mpr hp', hdomain', hhardware', hstate⟩)))
      · intro c hc hdomain' hhardware' hstate
        refine ⟨p, hq, hqe, ?_⟩
        by_contra hi
        exact hno (.inr ⟨c.deviceInstanceId, (hother _ (Ne.symm hi)).mpr ⟨c,
          Table.get_of_mem claim_deviceInstanceId_isKey hc, hdomain', hhardware', hstate⟩⟩)
  · exact absurd hcommitted hno

/-! ### The last verdict -/

end AdmissionAuthority

open AdmissionAuthority

/-- What a run has heard of a hardware: whether the last verdict on it is a no, the
enrollments approved since the last no, and the enrollments made on a voucher. -/
structure Ruling where
  refused : Prop
  approved : EnrollmentId → Prop
  vouched : EnrollmentId → Prop

/-- Nothing has been said yet. -/
def Ruling.none : Ruling := ⟨False, fun _ => False, fun _ => False⟩

/-- What is heard of one more request. A no stands until an enrollment that was made on a
voucher, and approved since, is activated. -/
def Ruling.hear (authority : AdmissionAuthority) (domain : OwnerDomainId)
    (hardware : HardwareIdentityRef) (t : Tables) (ruling : Ruling) (request : Request) : Ruling where
  refused := SaysNo authority domain hardware t request ∨ ruling.refused ∧
    ¬ ∃ e, Activates authority domain hardware t request e ∧ ruling.approved e ∧ ruling.vouched e
  approved e := ¬ SaysNo authority domain hardware t request ∧
    (ruling.approved e ∨ Approves authority t request e)
  vouched e := ruling.vouched e ∨ Vouches authority t request e

/-- A request, and what is heard of it. -/
def heard (authority : AdmissionAuthority) (domain : OwnerDomainId) (hardware : HardwareIdentityRef)
    (s : Tables × Ruling) (request : Request) : Tables × Ruling :=
  (authority.next s.1 request, s.2.hear authority domain hardware s.1 request)

/-- A fresh Authority, and nothing heard. -/
def unheard : Tables × Ruling := (.empty, .none)

namespace AdmissionAuthority

variable {authority : AdmissionAuthority} {t : Tables} {request : Request} {domain : OwnerDomainId}
  {hardware : HardwareIdentityRef}

/-- Where an enrollment is activated on a no, it was made on a voucher and approved since
exactly when nothing is on file against the hardware but the Claim it replaces. -/
def ClearsWithNo (authority : AdmissionAuthority) (domain : OwnerDomainId)
    (hardware : HardwareIdentityRef) (s : Tables × Ruling) (request : Request) : Prop :=
  ∀ e, Activates authority domain hardware s.1 request e → s.2.refused →
    (s.2.approved e ∧ s.2.vouched e ↔ Cleared s.1 domain hardware e)

/-- Fresh presence is asked for exactly while the last verdict is a no. -/
def AsksWhenRefused (domain : OwnerDomainId) (hardware : HardwareIdentityRef) (s : Tables × Ruling) :
    Prop :=
  s.1.requiresFreshPresence domain hardware = true ↔ s.2.refused

theorem activates_unique {e e' : EnrollmentId} (h : Activates authority domain hardware t request e)
    (h' : Activates authority domain hardware t request e') : e = e' := by
  obtain ⟨_, _, _, _, _, _, _, _, rfl, -⟩ := h
  obtain ⟨_, _, _, _, _, _, _, _, heq, -⟩ := h'
  cases heq
  rfl

theorem not_activates_of_saysNo {e : EnrollmentId} (h : SaysNo authority domain hardware t request) :
    ¬ Activates authority domain hardware t request e := by
  rintro ⟨_, _, _, _, _, _, _, _, rfl, -⟩
  cases h

/-- **One request keeps what is asked for and the last verdict together exactly when it clears
the one with the other.** -/
theorem asksWhenRefused_heard {s : Tables × Ruling} (hreach : Reachable authority s.1)
    (hkeys : InstanceNamesKey authority.crypto) (h : AsksWhenRefused domain hardware s) :
    AsksWhenRefused domain hardware (heard authority domain hardware s request) ↔
      ClearsWithNo authority domain hardware s request := by
  unfold AsksWhenRefused at h ⊢
  rw [requiresFreshPresence_iff] at h ⊢
  have hs := reachable_sound hreach
  by_cases hno : SaysNo authority domain hardware s.1 request
  · -- a no is heard and on file, and activates nothing
    refine iff_of_true (iff_of_true hno.toldNo (.inl hno)) ?_
    intro e hactivates
    exact absurd hactivates (not_activates_of_saysNo hno)
  -- an activation clears the verdict, if it does, for the one enrollment it activates
  · by_cases hactivates : ∃ e, Activates authority domain hardware s.1 request e
    · obtain ⟨e, he⟩ := hactivates
      have hrefused : (heard authority domain hardware s request).2.refused ↔
          s.2.refused ∧ ¬ (s.2.approved e ∧ s.2.vouched e) := by
        refine (or_iff_right hno).trans (and_congr_right fun _ => not_congr ⟨?_, fun h => ⟨e, he, h⟩⟩)
        rintro ⟨e', he', hreadmits⟩
        rwa [activates_unique he he']
      have htold : (heard authority domain hardware s request).1.registry.ToldNo domain hardware ↔
          ¬ Cleared s.1 domain hardware e := he.toldNo hs
      have hclears : ClearsWithNo authority domain hardware s request ↔
          (s.2.refused → (s.2.approved e ∧ s.2.vouched e ↔ Cleared s.1 domain hardware e)) := by
        refine ⟨fun hc => hc e he, fun hc e' he' => ?_⟩
        rwa [activates_unique he' he]
      rw [hrefused, htold, hclears]
      by_cases hr : s.2.refused
      · simp only [hr, true_and, forall_const]
        rw [not_iff_not]
        exact iff_comm
      · -- with no verdict against it, nothing is on file and nothing stays on file
        have hcleared : Cleared s.1 domain hardware e := by
          have hnot := fun htold => hr (h.mp htold)
          refine ⟨?_, ?_⟩
          · intro p hp hdomain hhardware hstate
            exact absurd (.inl ⟨p, Tables.hasProposal_iff.mpr hp, hdomain, hhardware, hstate⟩) hnot
          · intro c hc hdomain hhardware hstate
            exact absurd (.inr ⟨c.deviceInstanceId, c,
              Table.get_of_mem claim_deviceInstanceId_isKey hc, hdomain, hhardware, hstate⟩) hnot
        simp [hr, hcleared]
    -- any other request changes neither the verdict nor what is on file
    · have hactivates : ∀ e, ¬ Activates authority domain hardware s.1 request e :=
        fun e he => hactivates ⟨e, he⟩
      have hrefused : (heard authority domain hardware s request).2.refused ↔ s.2.refused := by
        refine (or_iff_right hno).trans (and_iff_left ?_)
        rintro ⟨e, he, -⟩
        exact hactivates e he
      have hsame : (heard authority domain hardware s request).1.registry.ToldNo domain hardware ↔
          s.1.registry.ToldNo domain hardware := toldNo_next hreach hkeys hno hactivates
      refine iff_of_true (hsame.trans (h.trans hrefused.symm)) ?_
      intro e he
      exact absurd he (hactivates e)

/-! ### What a continuation is answered -/

/-- The answer to a continuation of a hardware that was told no. -/
def freshPresenceNeeded : HubError :=
  forbidden .forbidden "this Body was rejected or removed and needs a new commissioning"

/-- An enrollment that brings a continuation proof and no voucher, passes verification, was
not answered before, and continues a binding on file. -/
structure Continues (authority : AdmissionAuthority) (t : Tables) (commandId : CommandId)
    (payload : CreateEnrollment) (draws : Draws) (enrolled : VerifiedEnrollment) : Prop where
  authorized : ∃ fp, authority.createAuthorized payload = .ok fp
  verified : authority.verifyEnrollment payload draws.now = .ok enrolled
  continuation : enrolled.verified.scheme ≠ voucherScheme
  fresh : t.results.get (·.key) (createKey commandId payload) = none
  proven : ∃ b, t.baseIdentities.get (·.deviceBaseId) enrolled.verified.identity.deviceBaseId = some b ∧
    b.ownerDomainId = payload.requestedOwnerDomainId ∧
    b.operationalKeyId = enrolled.operationalKeyId ∧ b.hardwareIdentityRef = enrolled.identityRef

theorem raisesOnly_add {ρ : Type} [Keyed ρ] {table : Tables → Table ρ}
    {put : Tables → Table ρ → Tables} {row : ρ} :
    RaisesOnly (· = .integrity) (Session.add table put row) :=
  raisesOnly_update? rfl

theorem raisesOnly_addOutbox {eventId : EventId} {type : EventType} {aggregateId : String}
    {revision : Nat} {event : Event} {occurredAt : Timestamp} :
    RaisesOnly (· = .integrity) (addOutbox eventId type aggregateId revision event occurredAt) := by
  refine raisesOnly_add.bind fun _ => ?_
  split
  · exact raisesOnly_read.bind fun _ => raisesOnly_add
  · exact raisesOnly_pure

theorem raisesOnly_decideInSession {p : ProposalRow} {decision : DecisionKind}
    {actor : ControllerActorRef} {target : OwnerDomainId} {owner : BusinessOwnerId}
    {reviewed : ManifestRef} {commandId : CommandId} {correlationId : CorrelationId}
    {eventId : EventId} {draws : Draws} :
    RaisesOnly (· = .integrity) (authority.decideInSession p decision actor target owner reviewed
      commandId correlationId eventId draws) := by
  refine raisesOnly_add.bind fun _ => ?_
  cases decision with
  | reject =>
    exact raisesOnly_update.bind fun _ => raisesOnly_addOutbox.bind fun _ => raisesOnly_pure
  | approve =>
    exact raisesOnly_update.bind fun _ => raisesOnly_read.bind fun _ => raisesOnly_add.bind fun _ =>
      raisesOnly_addOutbox.bind fun _ => raisesOnly_pure

theorem raisesOnly_standingFor {verified : VerifiedCommissioning} {keyId : KeyId} :
    RaisesOnly (· = .integrity) (authority.standingFor verified domain keyId) := by
  unfold standingFor
  split
  · exact raisesOnly_pure
  · refine RaisesOnly.bind ?_ fun found => ?_
    · unfold recordedStanding
      split
      · exact raisesOnly_read
      · exact raisesOnly_read
    · cases found with
      | none => exact raisesOnly_pure
      | some row =>
        dsimp only
        split
        · exact raisesOnly_pure
        · refine RaisesOnly.bind (raisesOnly_read.bind fun _ => raisesOnly_pure) fun w => ?_
          cases w with
          | none => exact raisesOnly_pure
          | some w =>
            dsimp only
            split <;> exact raisesOnly_pure

/-- Where a continuation continues a binding, the one thing that can stand against it is
what is on file against its hardware. -/
theorem establishStanding_continues {commandId : CommandId} {payload : CreateEnrollment}
    {draws : Draws} {enrolled : VerifiedEnrollment}
    (h : Continues authority t commandId payload draws enrolled) :
    establishStanding payload enrolled draws.now t =
      if t.requiresFreshPresence payload.requestedOwnerDomainId enrolled.identityRef = true then
        .error freshPresenceNeeded
      else .ok ((), t) := by
  obtain ⟨b, hb, hdomain, hkey, hidentity⟩ := h.proven
  have hmatch : ¬ (b.ownerDomainId ≠ payload.requestedOwnerDomainId ∨
      b.operationalKeyId ≠ enrolled.operationalKeyId ∨
      b.hardwareIdentityRef ≠ enrolled.identityRef) := by
    simp [hdomain, hkey, hidentity]
  unfold establishStanding
  simp only [h.continuation, if_false, baseIdentity, requiresFreshPresence, run_read_bind, hb,
    demand]
  show (raiseIf _ _ >>= _) t = _
  rw [run_raiseIf_bind, if_neg hmatch, run_read_bind]
  unfold raiseIf
  split <;> rfl

/-- **A continuation is refused for want of fresh presence exactly where it is asked for.** -/
theorem continuation_refused_iff {commandId : CommandId} {correlationId : CorrelationId}
    {payload : CreateEnrollment} {draws : Draws} {enrolled : VerifiedEnrollment}
    (h : Continues authority t commandId payload draws enrolled) :
    (Command.createEnrollment commandId correlationId payload).transaction authority draws t =
        .error freshPresenceNeeded ↔
      t.requiresFreshPresence payload.requestedOwnerDomainId enrolled.identityRef = true := by
  obtain ⟨fp, hfp⟩ := h.authorized
  have hbody : (Command.createEnrollment commandId correlationId payload).transaction authority draws t
      = authority.createInSession commandId correlationId payload enrolled fp draws t := by
    simp only [Command.transaction, Command.authorized, Command.session, createEnrollment, run_lift_bind,
      hfp, h.verified, Except.bind]
    unfold once replayInSession
    rw [run_bind, run_read_bind, h.fresh]
    rfl
  rw [hbody]
  unfold createInSession
  rw [run_bind, establishStanding_continues h]
  by_cases htold : t.requiresFreshPresence payload.requestedOwnerDomainId enrolled.identityRef = true
  · simp [htold, Except.bind]
  · simp only [htold, Bool.false_eq_true, if_false, iff_false]
    intro hraised
    -- whatever is raised after the standing is established is a violated constraint
    have hintegrity : freshPresenceNeeded = .integrity := by
      simp only [Except.bind] at hraised
      refine (?_ : RaisesOnly (· = HubError.integrity) _) hraised
      refine raisesOnly_add.bind fun _ => raisesOnly_add.bind fun _ =>
        raisesOnly_addOutbox.bind fun _ => raisesOnly_standingFor.bind fun found => ?_
      cases found with
      | none => exact raisesOnly_pure
      | some decider => exact raisesOnly_decideInSession.bind fun _ => raisesOnly_pure
    cases hintegrity

/-! ### Over a run -/

theorem run_heard (requests : List Request) (s : Tables × Ruling) :
    (run (heard authority domain hardware) s requests).1 = run authority.next s.1 requests := by
  induction requests generalizing s with
  | nil => rfl
  | cons request requests ih => exact ih _

theorem asksWhenRefused_unheard : AsksWhenRefused domain hardware unheard := by
  refine (requiresFreshPresence_iff.trans (iff_of_false ?_ id))
  rintro (⟨p, hp, -⟩ | ⟨i, c, hc, -⟩)
  · exact absurd (Tables.hasProposal_iff.mp hp) (List.not_mem_nil)
  · exact absurd (Table.get_mem hc) (List.not_mem_nil)

/-- **A continuation needs fresh presence exactly while the last verdict is a no**, in the
runs whose activations clear what is on file with the no, and only in those is it so at
every point. -/
theorem continuation_needs_presence (authority : AdmissionAuthority)
    (hkeys : InstanceNamesKey authority.crypto) (requests : List Request) :
    (∀ domain hardware,
      (∀ pre post, requests = pre ++ post →
        AsksWhenRefused domain hardware (run (heard authority domain hardware) unheard pre)) ↔
      Along (heard authority domain hardware) (ClearsWithNo authority domain hardware) unheard
        requests) ∧
    ∀ commandId correlationId payload draws enrolled,
      Continues authority (run authority.next .empty requests) commandId payload draws enrolled →
      Along (heard authority payload.requestedOwnerDomainId enrolled.identityRef)
        (ClearsWithNo authority payload.requestedOwnerDomainId enrolled.identityRef) unheard
        requests →
      ((Command.createEnrollment commandId correlationId payload).transaction authority draws
          (run authority.next .empty requests) = .error freshPresenceNeeded ↔
        (run (heard authority payload.requestedOwnerDomainId enrolled.identityRef) unheard
          requests).2.refused) := by
  have hrun : ∀ domain hardware,
      Along (heard authority domain hardware) (ClearsWithNo authority domain hardware) unheard
        requests ↔ ∀ pre post, requests = pre ++ post →
        AsksWhenRefused domain hardware (run (heard authority domain hardware) unheard pre) := by
    intro domain hardware
    refine along_iff_forall (I := fun s => Reachable authority s.1) ?_ ?_ ⟨[], rfl⟩
      asksWhenRefused_unheard
    · intro s request hreach
      exact Reaches.step hreach request
    · intro s request hreach h
      exact asksWhenRefused_heard hreach hkeys h
  refine ⟨fun domain hardware => (hrun domain hardware).symm, ?_⟩
  intro commandId correlationId payload draws enrolled hcontinues halong
  have hlast := (hrun _ _).mp halong requests [] (List.append_nil requests).symm
  unfold AsksWhenRefused at hlast
  rw [run_heard] at hlast
  exact (continuation_refused_iff hcontinues).trans hlast

end AdmissionAuthority

/-! ### A removed body and a rejection that stays -/

namespace Sample

/-- The Authority of the sample deployment, which also takes the signature of an enrolled base
key for a continuation proof. -/
def continuing : AdmissionAuthority :=
  { authority with
    commissioningProofs := fun request =>
      if request.proof = "continuation" then
        .ok (some { identity := ⟨"base-" ++ request.operationalPublicKey⟩
                    scheme := enrolledBaseKeyScheme })
      else authority.commissioningProofs request }

/-- Rejected first, then enrolled on another voucher, approved, collected and activated. -/
def readmitted : List Request :=
  [create "a" "k", decide "a" .reject] ++ handoff "b" "k" ++ [ack "b" 1]

/-- The lamp asks to be enrolled again by its enrolled key. -/
def continuation : CreateEnrollment where
  requestedOwnerDomainId := "home"
  deviceInstanceCandidateId := "device-k"
  hardwareIdentityEvidence := ⟨"base-identity", "evidence", "sha256:evidence"⟩
  operationalKey := "k"
  handoffKey := "handoff"
  commissioningProof := ⟨enrolledBaseKeyScheme, "again", "continuation"⟩
  manifest := manifest

end Sample

namespace AdmissionAuthority

/-- A body that was admitted and removed: no activation finds a no, so what is asked for and
the last verdict agree, and fresh presence is asked for. -/
theorem continuation_needs_presence_removed : ∃ enrolled,
    Sample.continuing.verifyEnrollment Sample.continuation 4 = .ok enrolled ∧
    (run (heard Sample.continuing "home" enrolled.identityRef) unheard
      (Sample.handoff "b" "k" ++ [Sample.ack "b" 1, Sample.revoke "revoke" "k" 1])).2.refused := by
  obtain ⟨enrolled, hverified⟩ : ∃ enrolled, Sample.continuing.verifyEnrollment Sample.continuation 4 =
    .ok enrolled := ⟨_, rfl⟩
  have htold : (run Sample.continuing.next .empty (Sample.handoff "b" "k" ++ [Sample.ack "b" 1,
      Sample.revoke "revoke" "k" 1])).requiresFreshPresence "home" enrolled.identityRef = true := by
    obtain rfl := Except.ok.inj hverified
    decide +kernel
  have halong : Along (heard Sample.continuing "home" enrolled.identityRef)
      (ClearsWithNo Sample.continuing "home" enrolled.identityRef) unheard
      (Sample.handoff "b" "k" ++ [Sample.ack "b" 1, Sample.revoke "revoke" "k" 1]) := by
    refine ⟨?_, ?_, ?_, ?_, ?_, trivial⟩
    case refine_4 =>
      -- nothing was refused before the acknowledgement
      intro e _ hrefused
      rcases hrefused with hno | ⟨hno | ⟨hno | ⟨hnone, -⟩, -⟩, -⟩
      · cases hno
      · cases hno with
        | reject _ rejects => cases rejects
      · cases hno
      · exact hnone.elim
    all_goals
      intro e hactivates
      obtain ⟨_, _, _, _, _, _, _, _, heq, -⟩ := hactivates
      cases heq
  have hasks := ((continuation_needs_presence Sample.continuing sample_instanceNamesKey
    (Sample.handoff "b" "k" ++ [Sample.ack "b" 1, Sample.revoke "revoke" "k" 1])).1 "home"
    enrolled.identityRef).mpr halong _ [] (List.append_nil _).symm
  refine ⟨enrolled, hverified, hasks.mp ?_⟩
  rw [run_heard]
  exact htold

theorem run_heard_vouched (requests : List Request) {s : Tables × Ruling} {e : EnrollmentId}
    (h : s.2.vouched e) : (run (heard authority domain hardware) s requests).2.vouched e := by
  refine run_inv (I := fun s : Tables × Ruling => s.2.vouched e) ?_ h requests
  intro s request h
  exact Or.inl h

/-- The second enrollment of the sample run is on a voucher. -/
theorem sample_vouches : Vouches Sample.continuing
    (run Sample.continuing.next .empty [Sample.create "a" "k", Sample.decide "a" .reject])
    (Sample.create "b" "k") "b" := by
  have hmade : ∃ p ∈ (Sample.continuing.next (run Sample.continuing.next .empty
      [Sample.create "a" "k", Sample.decide "a" .reject]) (Sample.create "b" "k")).proposals.rows,
      p.enrollmentId = "b" := by decide +kernel
  have hnew : ∀ p ∈ (run Sample.continuing.next .empty [Sample.create "a" "k",
      Sample.decide "a" .reject]).proposals.rows, p.enrollmentId ≠ "b" := by decide +kernel
  obtain ⟨commandId, correlationId, payload, draws, hrequest, he, hscheme⟩ : ∃ commandId correlationId
      payload draws, Sample.create "b" "k" =
        .command (.createEnrollment commandId correlationId payload) draws ∧
        draws.enrollmentId = "b" ∧ ∀ enrolled, Sample.continuing.verifyEnrollment payload draws.now =
          .ok enrolled → enrolled.verified.scheme = voucherScheme :=
    ⟨_, _, _, _, rfl, rfl, fun _ h => by rw [← Except.ok.inj h]⟩
  rw [hrequest] at hmade ⊢
  rcases next_create Sample.continuing (run Sample.continuing.next .empty [Sample.create "a" "k",
    Sample.decide "a" .reject]) commandId correlationId payload draws with hsame | ⟨enrolled, h⟩
  · rw [hsame] at hmade
    obtain ⟨p, hp, hpe⟩ := hmade
    exact absurd hpe (hnew p hp)
  · exact ⟨payload, enrolled, draws, h, hscheme enrolled h.verified, he⟩

/-- The sample run ends with the hardware re-admitted: rejected, then enrolled on a voucher,
approved and activated. -/
theorem sample_readmitted {enrolled : VerifiedEnrollment}
    (h : Sample.continuing.verifyEnrollment Sample.continuation 4 = .ok enrolled) :
    ¬ (run (heard Sample.continuing "home" enrolled.identityRef) unheard
      Sample.readmitted).2.refused := by
  have hcommitted : IsCommitted Sample.continuing (run Sample.continuing.next .empty
      ([Sample.create "a" "k", Sample.decide "a" .reject] ++ Sample.handoff "b" "k"))
      (.ackClaimGrant "ack-b" "b" "b" "grant-b" "signed" 1 1)
      { now := 3, eventId := "acknowledged-b", laterEventId := "activated-b" } := by
    have hanswer : (answer ((Command.ackClaimGrant "ack-b" "b" "b" "grant-b" "signed" 1 1).transaction
        Sample.continuing { now := 3, eventId := "acknowledged-b", laterEventId := "activated-b" })
        (run Sample.continuing.next .empty ([Sample.create "a" "k", Sample.decide "a" .reject] ++
          Sample.handoff "b" "k"))).map (·.outcome) = some .committed := by decide +kernel
    obtain ⟨r, hr, hout⟩ := Option.map_eq_some_iff.mp hanswer
    exact ⟨r, _, commits_of_answer hr, hout⟩
  -- the second enrollment names the same body in the same domain
  have hproposal : ∃ p ∈ (run Sample.continuing.next .empty ([Sample.create "a" "k",
      Sample.decide "a" .reject] ++ Sample.handoff "b" "k")).proposals.rows, p.enrollmentId = "b" ∧
      p.requestedOwnerDomainId = "home" ∧ p.hardwareIdentityRef = enrolled.identityRef := by
    obtain rfl := Except.ok.inj h
    decide +kernel
  have happroves : Approves Sample.continuing (run Sample.continuing.next .empty [Sample.create "a" "k",
      Sample.decide "a" .reject, Sample.create "b" "k"]) (Sample.decide "b" .approve) "b" := by
    show ∃ d ∈ (Table.rows _), ¬ d ∈ Table.rows _ ∧ _
    decide +kernel
  have hsilent : ∀ t, ¬ SaysNo Sample.continuing "home" enrolled.identityRef t (Sample.collect "b") ∧
      ¬ SaysNo Sample.continuing "home" enrolled.identityRef t (Sample.ack "b" 1) := by
    intro t
    constructor
    · intro hno
      cases hno
    · intro hno
      cases hno
  have hyes : ∀ t, ¬ SaysNo Sample.continuing "home" enrolled.identityRef t
      (Sample.decide "b" .approve) := by
    intro t hno
    cases hno with
    | reject _ rejects => cases rejects
  -- it was vouched for afresh, approved after the no, and committed last
  have hvouched : (run (heard Sample.continuing "home" enrolled.identityRef) unheard
      ([Sample.create "a" "k", Sample.decide "a" .reject] ++ Sample.handoff "b" "k")).2.vouched "b" := by
    rw [run_append]
    exact run_heard_vouched [Sample.decide "b" .approve, Sample.collect "b"] (.inr sample_vouches)
  have happroved : (run (heard Sample.continuing "home" enrolled.identityRef) unheard
      ([Sample.create "a" "k", Sample.decide "a" .reject] ++ Sample.handoff "b" "k")).2.approved "b" := by
    refine ⟨(hsilent _).1, Or.inl ⟨hyes _, Or.inr ?_⟩⟩
    exact happroves
  unfold Sample.readmitted
  rw [run_concat]
  rintro (hno | ⟨-, hnone⟩)
  · exact (hsilent _).2 hno
  · rw [run_heard] at hnone
    obtain ⟨p, hp, hmatch⟩ := hproposal
    exact hnone ⟨"b", ⟨_, _, _, _, _, _, _, p, rfl, hcommitted, hp, hmatch⟩, happroved, hvouched⟩

/-- A rejected Proposal stays on file: a body rejected once and since re-admitted on a fresh
voucher is still asked for fresh presence. -/
theorem readmitted_refused : ¬ ∀ (authority : AdmissionAuthority) (requests : List Request)
    (commandId : CommandId) (correlationId : CorrelationId) (payload : CreateEnrollment) (draws : Draws)
    (enrolled : VerifiedEnrollment), InstanceNamesKey authority.crypto →
    Continues authority (run authority.next .empty requests) commandId payload draws enrolled →
    ((Command.createEnrollment commandId correlationId payload).transaction authority draws
        (run authority.next .empty requests) = .error freshPresenceNeeded ↔
      (run (heard authority payload.requestedOwnerDomainId enrolled.identityRef) unheard
        requests).2.refused) := by
  intro hclaim
  obtain ⟨enrolled, hverified, hscheme⟩ : ∃ enrolled, Sample.continuing.verifyEnrollment
      Sample.continuation 4 = .ok enrolled ∧ enrolled.verified.scheme = enrolledBaseKeyScheme :=
    ⟨_, rfl, rfl⟩
  have hcontinues : Continues Sample.continuing (run Sample.continuing.next .empty Sample.readmitted)
      "again" Sample.continuation { now := 4, enrollmentId := "c", eventId := "created-c" } enrolled := by
    refine ⟨⟨_, rfl⟩, hverified, by rw [hscheme]; exact schemes_differ, by decide +kernel, ?_⟩
    have hproven : ((run Sample.continuing.next .empty Sample.readmitted).baseIdentities.get
        (·.deviceBaseId) enrolled.verified.identity.deviceBaseId).any (fun b =>
          b.ownerDomainId = "home" ∧ b.operationalKeyId = enrolled.operationalKeyId ∧
            b.hardwareIdentityRef = enrolled.identityRef) = true := by
      obtain rfl := Except.ok.inj hverified
      decide +kernel
    obtain ⟨b, hb, hmatch⟩ := (Option.any_eq_true _ _).mp hproven
    exact ⟨b, hb, of_decide_eq_true hmatch⟩
  have htold : (run Sample.continuing.next .empty Sample.readmitted).requiresFreshPresence "home"
      enrolled.identityRef = true := by
    obtain rfl := Except.ok.inj hverified
    decide +kernel
  have hiff := hclaim Sample.continuing Sample.readmitted "again" "again" Sample.continuation _ enrolled
    sample_instanceNamesKey hcontinues
  exact sample_readmitted hverified (hiff.mp ((continuation_refused_iff hcontinues).mpr htold))

end AdmissionAuthority

end EidolonHub.Admission
