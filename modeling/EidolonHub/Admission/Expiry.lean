import EidolonHub.Admission.Invariants

/-!
# EidolonHub.Admission.Expiry

**What a deadline still lets through.** A decision and a collection compare the
deadline of the Proposal with the reading they record; an acknowledgement compares
the deadline of the grant only, and leaves that of the Proposal to the sweep before
it, which has an earlier reading. Where the grant does not outlive the Proposal, a
Proposal whose deadline a command has reached is not moved by it.
-/

namespace EidolonHub.Admission

open EidolonHub.Library EidolonHub.Library.Tx

/-- The reading of a decision, a collection or an acknowledgement. -/
def Request.progresses : Request → Option Timestamp
  | .command (.decideEnrollment ..) draws | .command (.collectClaimGrant ..) draws
  | .command (.ackClaimGrant ..) draws => some draws.now
  | _ => none

/-- The reading a request is made at. -/
def Request.now : Request → Timestamp
  | .command _ draws => draws.now
  | .expireDue _ now | .recordStanding _ _ _ now | .withdrawController _ _ now => now

/-- A Proposal whose deadline the request has reached is not written by it, and no Claim
is made of its grant. -/
def NoLateProgress (authority : AdmissionAuthority) (t : Tables) (request : Request) : Prop :=
  ∀ now, request.progresses = some now → ∀ p ∈ t.proposals, p.expiresAt ≤ now →
    p ∈ (authority.next t request).proposals ∧
    ∀ g ∈ t.grants, g.enrollmentId = p.enrollmentId → ∀ c ∈ (authority.next t request).claims,
      c.approvalDecisionId = g.decisionId → c ∈ t.claims

/-- An acknowledgement of a delivered grant that has reached the deadline of its Proposal
has reached that of the grant as well. -/
def OnTime (t : Tables) : Request → Prop
  | .command (.ackClaimGrant _ _ enrollmentId grantId _ _ _) draws =>
    ∀ p ∈ t.proposals, p.enrollmentId = enrollmentId → p.state = .grantDelivered →
      ∀ g ∈ t.grants, g.grantId = grantId → p.expiresAt ≤ draws.now → g.expiresAt ≤ draws.now
  | _ => True

namespace AdmissionAuthority

open Registry

variable {authority : AdmissionAuthority} {t t' : Tables} {request : Request}

/-! ### One request -/

/-- What a progressing move needs to leave overtaken Proposals alone: it is about a
Proposal that is on time. -/
theorem noLateProgress_of_move {m : Move} {p : ProposalRow} {now : Timestamp}
    (hs : t.registry.Sound authority) (hm : t.registry.allows authority m)
    (hp : t.registry.HasProposal p) (he : m.enrollment = some p.enrollmentId)
    (htime : now < p.expiresAt)
    (hclaim : ∀ i c, (t.registry.apply m).claim i = some c → t.registry.claim i = some c ∨
      ∃ g, t.registry.HasGrant g ∧ g.enrollmentId = p.enrollmentId ∧
        c.approvalDecisionId = g.decisionId)
    (hnext : t'.registry = t.registry.apply m) {q : ProposalRow} (hq : q ∈ t.proposals)
    (hlate : q.expiresAt ≤ now) :
    q ∈ t'.proposals ∧ ∀ g ∈ t.grants, g.enrollmentId = q.enrollmentId → ∀ c ∈ t'.claims,
      c.approvalDecisionId = g.decisionId → c ∈ t.claims := by
  have hother : q.enrollmentId ≠ p.enrollmentId := by
    intro heq
    obtain rfl := Table.eq_of_key proposal_enrollmentId_isKey hq (Tables.hasProposal_iff.mp hp) heq
    exact absurd hlate (Int.not_le.mpr htime)
  constructor
  · rw [← Tables.hasProposal_iff, HasProposal, hnext, dossier_apply_of_ne hm he hother]
    exact Tables.hasProposal_iff.mpr hq
  · intro g hg hge c hc hdecision
    have hget : t'.registry.claim c.deviceInstanceId = some c :=
      Table.get_of_mem claim_deviceInstanceId_isKey hc
    rw [hnext] at hget
    rcases hclaim _ c hget with hold | ⟨g', hg', hge', hdecision'⟩
    · exact Table.get_mem hold
    · -- a Decision has one grant, which is of one enrollment
      have heq := hs.enrollment_of_decisionId (Tables.hasGrant_iff.mpr hg) hg'
        (hdecision.symm.trans hdecision')
      exact absurd (hge.symm.trans (heq.trans hge')) hother

/-- A decision leaves every Claim alone. -/
theorem claim_decisionMove {p : ProposalRow} {kind : DecisionKind} {actor : ControllerActorRef}
    {owner : BusinessOwnerId} {reviewed : ManifestRef} {draws : Draws} {s : Registry} :
    (s.apply (decisionMove authority t p kind actor owner reviewed draws)).claim = s.claim := by
  cases kind <;> rfl

theorem decisionMove_enrollment {p : ProposalRow} {kind : DecisionKind}
    {actor : ControllerActorRef} {owner : BusinessOwnerId} {reviewed : ManifestRef} {draws : Draws} :
    (decisionMove authority t p kind actor owner reviewed draws).enrollment =
      some p.enrollmentId := by
  cases kind <;> rfl

/-- A request that changes nothing makes no late progress. -/
theorem noLateProgress_of_same (h : (authority.next t request).registry = t.registry) :
    NoLateProgress authority t request := by
  intro now _ p hp _
  constructor
  · rw [← Tables.hasProposal_iff, h]
    exact Tables.hasProposal_iff.mpr hp
  · intro g _ _ c hc _
    have hget : (authority.next t request).registry.claim c.deviceInstanceId = some c :=
      Table.get_of_mem claim_deviceInstanceId_isKey hc
    rw [h] at hget
    exact Table.get_mem hget

theorem decide_noLateProgress {commandId : CommandId} {correlationId : CorrelationId}
    {enrollmentId : EnrollmentId} {payload : DecideEnrollment} {context : ActorContext}
    {draws : Draws} (hs : t.registry.Sound authority) :
    NoLateProgress authority t
      (.command (.decideEnrollment commandId correlationId enrollmentId payload context) draws) := by
  rcases next_command_cases authority t (.decideEnrollment commandId correlationId enrollmentId
    payload context) draws with ⟨r, h⟩ | h
  · obtain ⟨fp, hfp, hsession⟩ := command_commits h
    rcases decideEnrollment_follows (decideAuthorized_ok hfp).1 hsession with
      ⟨hsame, -⟩ | ⟨-, p, -, htime, hm, hnext⟩
    · exact noLateProgress_of_same (congrArg Tables.registry hsame)
    · intro now hnow q hq hlate
      cases hnow
      have hp : t.registry.HasProposal p := by
        have hopen := hm.1
        cases hkind : payload.decision <;> rw [hkind] at hopen <;> exact hopen.1
      refine noLateProgress_of_move hs hm.1 hp decisionMove_enrollment htime ?_ hnext hq hlate
      intro i c hc
      rw [claim_decisionMove] at hc
      exact .inl hc
  · exact noLateProgress_of_same (congrArg Tables.registry h)

theorem collect_noLateProgress {commandId : CommandId} {correlationId : CorrelationId}
    {enrollmentId : EnrollmentId} {proposalRevision : Nat} {challenge proof : String}
    {draws : Draws} (hs : t.registry.Sound authority) :
    NoLateProgress authority t (.command (.collectClaimGrant commandId correlationId enrollmentId
      proposalRevision challenge proof) draws) := by
  rcases next_command_cases authority t (.collectClaimGrant commandId correlationId enrollmentId
    proposalRevision challenge proof) draws with ⟨r, h⟩ | h
  · obtain ⟨fp, -, hsession⟩ := command_commits h
    rcases collectClaimGrant_follows hsession with hsame | ⟨p, g, envelope, -, hm, hnext⟩
    · exact noLateProgress_of_same hsame
    · intro now hnow q hq hlate
      cases hnow
      have hopen := hm.1
      obtain ⟨hp, -, -, -, -, -, htime, -⟩ := hopen
      exact noLateProgress_of_move hs hm.1 hp rfl htime (fun i c hc => .inl hc) hnext hq hlate
  · exact noLateProgress_of_same (congrArg Tables.registry h)

/-- The Claims after an acknowledgement: those before it, and one of its grant. -/
theorem claim_acknowledge_cases {s : Registry} {p : ProposalRow} {g : GrantRow} {d : DecisionRow}
    {a : GrantAckRow} {name : String} {published : Event} {now : Timestamp} {i : DeviceInstanceId}
    {c : ClaimRow} (hs : s.Sound authority)
    (hc : (s.apply (.acknowledge p g d a name published now)).claim i = some c) :
    s.claim i = some c ∨ c.approvalDecisionId = g.decisionId := by
  by_cases hi : g.deviceRef.deviceInstanceId = i
  · subst hi
    rw [claim_acknowledge hs] at hc
    cases hc
    unfold acknowledgedClaim ClaimRow.over
    exact .inr (by cases s.claim g.deviceRef.deviceInstanceId <;> rfl)
  · rw [claim_apply_of_ne hs (by simpa [Move.device] using hi)] at hc
    exact .inl hc

/-- An acknowledgement makes no late progress where the grant does not outlive the
Proposal. -/
theorem ack_noLateProgress {commandId : CommandId} {correlationId : CorrelationId}
    {enrollmentId : EnrollmentId} {grantId : GrantId} {proof : String} {generation epoch : Nat}
    {draws : Draws} (hs : t.registry.Sound authority)
    (htime : OnTime t (.command (.ackClaimGrant commandId correlationId enrollmentId grantId proof
      generation epoch) draws)) :
    NoLateProgress authority t (.command (.ackClaimGrant commandId correlationId enrollmentId
      grantId proof generation epoch) draws) := by
  rcases next_command_cases authority t (.ackClaimGrant commandId correlationId enrollmentId grantId
    proof generation epoch) draws with ⟨r, h⟩ | h
  · obtain ⟨fp, -, hsession⟩ := command_commits h
    rcases ackClaimGrant_follows hsession with ⟨hsame, -⟩ | ⟨-, p, g, d, name, published, hpid, hgid,
      hm, hnext⟩
    · exact noLateProgress_of_same (congrArg Tables.registry hsame)
    · intro now hnow q hq hlate
      cases hnow
      have hopen := hm.1
      obtain ⟨hp, hstate, hg, hge, -, hgtime, -⟩ := hopen
      -- the grant has not expired, so on time the Proposal has not either
      have hptime : draws.now < p.expiresAt := by
        by_contra hlate
        exact absurd (htime p (Tables.hasProposal_iff.mp hp) hpid hstate g
          (Tables.hasGrant_iff.mp hg) hgid (Int.not_lt.mp hlate)) (Int.not_le.mpr hgtime)
      refine noLateProgress_of_move hs hm.1 hp rfl hptime ?_ hnext hq hlate
      intro i c hc
      rcases claim_acknowledge_cases hs hc with hold | hnew
      · exact .inl hold
      · exact .inr ⟨g, hg, hge, hnew⟩
  · exact noLateProgress_of_same (congrArg Tables.registry h)

theorem next_noLateProgress (hs : t.registry.Sound authority) (htime : OnTime t request) :
    NoLateProgress authority t request := by
  cases request with
  | command cmd draws =>
    cases cmd with
    | decideEnrollment => exact decide_noLateProgress hs
    | collectClaimGrant => exact collect_noLateProgress hs
    | ackClaimGrant => exact ack_noLateProgress hs htime
    | _ =>
      intro now hnow
      cases hnow
  | _ =>
    intro now hnow
    cases hnow

/-! ### Over runs -/

/-- **An expired Proposal makes no progress** in runs that acknowledge on time. -/
theorem expired_no_progress (requests : List Request)
    (htime : Along authority.next OnTime .empty requests) :
    Along authority.next (NoLateProgress authority) .empty requests :=
  htime.imp_of_inv (I := fun t : Tables => t.registry.Sound authority)
    (fun _ _ hs _ => next_sound hs) (fun _ _ hs => next_noLateProgress hs)
    (reachable_sound ⟨[], rfl⟩)

end AdmissionAuthority

/-! ### A deadline between two readings -/

/-- The same request at another reading. -/
def Request.madeAt (now : Timestamp) : Request → Request
  | .command cmd draws => .command cmd { draws with now }
  | .expireDue eventIds _ => .expireDue eventIds now
  | .recordStanding jti operationalKeyId context _ =>
    .recordStanding jti operationalKeyId context now
  | .withdrawController principalId context _ => .withdrawController principalId context now

namespace Sample

/-- Enrolled at once, approved ten minutes later, collected, and swept just before the
Proposal's quarter of an hour is over. -/
def swept : List Request :=
  [create "e" "k", (decide "e" .approve).madeAt (minutes 10), (collect "e").madeAt (minutes 11),
    .expireDue (fun _ => "expired") (minutes 15 - 1)]

end Sample

namespace AdmissionAuthority

/-- An acknowledgement in time. -/
theorem expired_no_progress_in_time :
    Along Sample.authority.next (NoLateProgress Sample.authority) .empty
      (Sample.swept ++ [(Sample.ack "e" 1).madeAt (minutes 15 - 1)]) := by
  refine expired_no_progress _ (along_append.mpr ⟨⟨trivial, trivial, trivial, trivial, trivial⟩, ?_,
    trivial⟩)
  have hdelivered : ∀ p ∈ (Sample.after Sample.swept).proposals.rows,
      ¬ p.expiresAt ≤ minutes 15 - 1 := by decide +kernel
  intro p hp _ _ g _ _ hlate
  exact absurd hlate (hdelivered p hp)

/-- The grant outlives the Proposal by ten minutes: an acknowledgement whose reading is at
the deadline of the Proposal, after a sweep whose reading was not, is committed. -/
theorem expired_acknowledged : ¬ ∀ (authority : AdmissionAuthority) (requests : List Request),
    (requests.map Request.now).Pairwise (· ≤ ·) →
    Along authority.next (NoLateProgress authority) .empty requests := by
  intro hclaim
  have hlate := along_split (hclaim Sample.authority
    (Sample.swept ++ (Sample.ack "e" 1).madeAt (minutes 15) :: []) (by decide))
  have hmoved : ∃ p ∈ (Sample.after Sample.swept).proposals.rows, p.expiresAt ≤ minutes 15 ∧
      ¬ p ∈ (Sample.authority.next (Sample.after Sample.swept)
        ((Sample.ack "e" 1).madeAt (minutes 15))).proposals.rows := by decide +kernel
  obtain ⟨p, hp, hexpired, hmoved⟩ := hmoved
  exact hmoved (hlate (minutes 15) rfl p hp hexpired).1

end AdmissionAuthority

end EidolonHub.Admission
