import EidolonHub.Admission.History
import EidolonHub.Admission.Standing
import EidolonHub.Admission.Withdrawal

/-!
# EidolonHub.Admission.Issuance

**Approval at issuance is the owner's approval made early.** An enrollment that a
standing decides leaves the tables that the same enrollment, left pending, and an
approval by the recording Controller leave, apart from what the approval records of
itself as a command. The call of `decide_enrollment` sweeps overdue Proposals before
its own transaction, which an enrollment does not.
-/

namespace EidolonHub.Admission

open EidolonHub.Library EidolonHub.Library.Tx

/-- The same event, published under another command. -/
def OutboxRow.attributed (commandId : CommandId) (correlationId : CorrelationId) (row : OutboxRow) :
    OutboxRow :=
  { row with event := { row.event with causationId := commandId, correlationId := correlationId } }

/-- What the later approval draws: the ids of the Decision, the grant and the event. -/
def Draws.later (draws : Draws) : Draws := { draws with eventId := draws.laterEventId }

namespace AdmissionAuthority

variable {authority : AdmissionAuthority} {t t' : Tables} {payload : CreateEnrollment}
  {enrolled : VerifiedEnrollment} {draws : Draws} {request : Request}

/-! ### The standing behind a Decision -/

/-- The order the latest standing is looked up in: a later reading first, and of one
reading the greater voucher id. -/
def Precedes (a b : CommissioningStandingRow) : Prop :=
  b.recordedAt < a.recordedAt ∨ b.recordedAt = a.recordedAt ∧ b.jti ≤ a.jti

instance : DecidableRel Precedes := fun _ _ => inferInstanceAs (Decidable (_ ∨ _))

instance : Std.Total Precedes where
  total a b := by
    rcases Int.lt_trichotomy a.recordedAt b.recordedAt with hlt | heq | hgt
    · exact .inr (.inl hlt)
    · exact (String.le_total b.jti a.jti).imp (fun hle => .inr ⟨heq.symm, hle⟩)
        fun hle => .inr ⟨heq, hle⟩
    · exact .inl (.inl hgt)

instance : IsTrans CommissioningStandingRow Precedes where
  trans a b c hab hbc := by
    rcases hab with hab | ⟨hab, hjti⟩ <;> rcases hbc with hbc | ⟨hbc, hjti'⟩
    · exact .inl (Int.lt_trans hbc hab)
    · exact .inl (hbc ▸ hab)
    · exact .inl (hab ▸ hbc)
    · exact .inr ⟨hbc.trans hab, String.le_trans hjti' hjti⟩

/-- The standing is the one the proof of an enrollment names: that of its voucher, and
otherwise the latest one of its key. -/
structure NamedBy (t : Tables) (payload : CreateEnrollment) (enrolled : VerifiedEnrollment)
    (s : CommissioningStandingRow) : Prop where
  mem : s ∈ t.standings
  ownerDomainId : s.ownerDomainId = payload.requestedOwnerDomainId
  operationalKeyId : s.operationalKeyId = enrolled.operationalKeyId
  voucher : enrolled.verified.scheme = voucherScheme → s.jti = jtiText enrolled.verified
  latest : enrolled.verified.scheme ≠ voucherScheme → ∀ s' ∈ t.standings,
    s'.ownerDomainId = payload.requestedOwnerDomainId →
    s'.operationalKeyId = enrolled.operationalKeyId → Precedes s s'

/-- The head of a sorted list is related to every member. -/
theorem rel_of_head_insertionSort {α : Type} {r : α → α → Prop} [DecidableRel r] [Std.Total r]
    [IsTrans α r] {l : List α} {a b : α} (ha : (l.insertionSort r).head? = some a) (hb : b ∈ l) :
    r a b := by
  have hmem := (List.mem_insertionSort (r := r)).mpr hb
  obtain ⟨rest, hrest⟩ := List.head?_eq_some_iff.mp ha
  have hsorted := List.pairwise_insertionSort r l
  rw [hrest] at hmem hsorted
  rcases List.mem_cons.mp hmem with rfl | hmem
  · exact (Std.Total.total b b).elim id id
  · exact (List.pairwise_cons.mp hsorted).1 b hmem

theorem recordedStanding_named {s : CommissioningStandingRow}
    (h : t.recordedStanding enrolled.verified payload.requestedOwnerDomainId
      enrolled.operationalKeyId = some s)
    (hdomain : s.ownerDomainId = payload.requestedOwnerDomainId)
    (hkey : s.operationalKeyId = enrolled.operationalKeyId) : NamedBy t payload enrolled s := by
  refine ⟨recordedStanding_mem h, hdomain, hkey, ?_, ?_⟩
  · intro hscheme
    simp only [Tables.recordedStanding, recordedStanding, hscheme, if_true, commissioningStanding,
      answer_read] at h
    exact Table.get_key h
  · intro hscheme s' hs' hdomain' hkey'
    simp only [Tables.recordedStanding, recordedStanding, hscheme, if_false,
      latestCommissioningStandingForKey, answer_read] at h
    refine rel_of_head_insertionSort (r := Precedes) h ?_
    rw [List.mem_filter]
    exact ⟨hs', by simp [hdomain', hkey']⟩

/-! ### An approval -/

/-- The event an approval publishes, on the outbox. -/
def approvalRow (p : ProposalRow) (target : OwnerDomainId) (commandId : CommandId)
    (correlationId : CorrelationId) (eventId : EventId) (draws : Draws) : OutboxRow where
  eventId := eventId
  eventType := .enrollmentApproved
  source := source
  aggregateId := p.enrollmentId
  aggregateRevision := p.revision + 1
  event := event eventId .enrollmentApproved (enrollmentSubject p.enrollmentId) target
    (p.revision + 1) commandId correlationId draws.now (.decided draws.decisionId .approve)
  occurredAt := draws.now
  publishedAt := none
  publishAttempts := 0
  lastError := ""

/-- What an approval writes: its Decision, the Proposal, the grant and its event. -/
theorem decideInSession_approve_commits {p : ProposalRow} {actor : ControllerActorRef}
    {target : OwnerDomainId} {owner : BusinessOwnerId} {reviewed : ManifestRef}
    {commandId : CommandId} {correlationId : CorrelationId} {eventId : EventId}
    {answer : ApprovalDecision × Option GrantId} :
    Commits (authority.decideInSession p .approve actor target owner reviewed commandId
      correlationId eventId draws) t answer t' ↔
    answer = (approvalDecision (decisionFor p .approve actor target owner reviewed draws),
      some draws.grantId) ∧
    ∃ x y z, t.decisions.insert? (decisionFor p .approve actor target owner reviewed draws) = some x ∧
      t.grants.insert? (authority.grantFor p target reviewed
        (t.maxClaimGeneration target p.hardwareIdentityRef + 1) draws) = some y ∧
      t.outbox.insert? (approvalRow p target commandId correlationId eventId draws) = some z ∧
      t' = { t with
        decisions := x
        proposals := t.proposals.modify (·.enrollmentId) p.enrollmentId
          (ProposalRow.moved .approvedAwaitingHandoff draws.now)
          (ProposalRow.moved_keeps .approvedAwaitingHandoff draws.now)
        grants := y
        outbox := z } := by
  constructor
  · intro h
    obtain ⟨_, _, hadd, h⟩ := commits_bind.mp h
    obtain ⟨x, hx, rfl⟩ := commits_add.mp hadd
    simp only [moveProposal, maxClaimGeneration, commits_update_bind, commits_read_bind] at h
    obtain ⟨_, _, hgrant, h⟩ := commits_bind.mp h
    obtain ⟨y, hy, rfl⟩ := commits_add.mp hgrant
    obtain ⟨_, _, hout, h⟩ := commits_bind.mp h
    obtain ⟨_, _, hevent, hrest⟩ := commits_bind.mp hout
    obtain ⟨z, hz, rfl⟩ := commits_add.mp hevent
    rw [if_neg (by decide), commits_pure] at hrest
    obtain ⟨-, rfl⟩ := hrest
    obtain ⟨rfl, rfl⟩ := commits_pure.mp h
    exact ⟨rfl, x, y, z, hx, hy, hz, rfl⟩
  · rintro ⟨rfl, x, y, z, hx, hy, hz, rfl⟩
    refine commits_bind.mpr ⟨(), _, commits_add.mpr ⟨x, hx, rfl⟩, ?_⟩
    refine commits_update_bind.mpr (commits_read_bind.mpr ?_)
    refine commits_bind.mpr ⟨(), _, commits_add.mpr ⟨y, hy, rfl⟩, ?_⟩
    exact commits_bind.mpr ⟨(), _, commits_bind.mpr ⟨(), _, commits_add.mpr ⟨z, hz, rfl⟩,
      commits_pure.mpr ⟨rfl, rfl⟩⟩, commits_pure.mpr ⟨rfl, rfl⟩⟩

/-! ### The enrollment left pending -/

/-- The Authority that leaves every enrollment to a review. -/
def reviewing (authority : AdmissionAuthority) : AdmissionAuthority :=
  { authority with decideFromStanding := false }

/-- An enrollment is a call whose command id has no stored answer. -/
theorem Enrolls.command (h : Enrolls authority t request payload enrolled draws) :
    ∃ commandId correlationId fp r,
      request = .command (.createEnrollment commandId correlationId payload) draws ∧
      authority.createAuthorized payload = .ok fp ∧
      t.results.get (·.key) (createKey commandId payload) = none ∧
      Commits (authority.createInSession commandId correlationId payload enrolled fp draws) t r
        (authority.next t request) := by
  obtain ⟨hnew, ⟨p, hp, -⟩, -⟩ := h.proposals
  have hchange : authority.next t request ≠ t := by
    intro hsame
    rw [hsame, hnew] at hp
    cases hp
  obtain ⟨commandId, correlationId, -, -, rfl, -, -⟩ := h.commits
  rcases next_command_cases authority t (.createEnrollment commandId correlationId payload) draws with
    ⟨r, hcommit⟩ | hsame
  · obtain ⟨fp, hfp, hsession⟩ := command_commits hcommit
    simp only [Command.session, createEnrollment, commits_lift_bind] at hsession
    obtain ⟨enrolled', hverified, hsession⟩ := hsession
    obtain rfl : enrolled = enrolled' := Except.ok.inj (h.verified.symm.trans hverified)
    rcases once_commits hsession with ⟨hsame, -⟩ | ⟨hnone, hbody⟩
    · exact absurd hsame hchange
    · exact ⟨commandId, correlationId, fp, r, rfl, hfp, hnone, hbody⟩
  · exact absurd hsame hchange

/-- **An enrollment, and the same enrollment left pending**: they differ by the Decision of
a standing. -/
theorem Enrolls.pending (h : Enrolls authority t request payload enrolled draws) :
    ∃ commandId correlationId fp,
      Commits (authority.createPending commandId correlationId payload enrolled fp draws) t ()
        (authority.reviewing.next t request) ∧
      ((∃ s answer, DecidedBy authority t payload enrolled s ∧
          Commits (authority.decideByStanding commandId correlationId payload enrolled draws s)
            (authority.reviewing.next t request) answer (authority.next t request)) ∨
        authority.next t request = authority.reviewing.next t request ∧
          ¬ ∃ s, DecidedBy authority t payload enrolled s) := by
  obtain ⟨commandId, correlationId, fp, r, rfl, hfp, hnone, hbody⟩ := h.command
  obtain ⟨-, t₁, hpending, hdecided⟩ := createInSession_commits.mp hbody
  have hreviewing : Commits (authority.reviewing.createInSession commandId correlationId payload
      enrolled fp draws) t (authority.createdResult commandId payload draws) t₁ :=
    createInSession_commits.mpr ⟨rfl, t₁, hpending, .inr ⟨rfl, fun ⟨s, hoff, _⟩ => by cases hoff⟩⟩
  have hcommit : Commits ((Command.createEnrollment commandId correlationId payload).transaction
      authority.reviewing draws) t (authority.createdResult commandId payload draws) t₁ :=
    commits_lift_bind.mpr ⟨fp, hfp, commits_lift_bind.mpr ⟨enrolled, h.verified,
      commits_once hnone hreviewing⟩⟩
  have hnext : authority.reviewing.next t
      (.command (.createEnrollment commandId correlationId payload) draws) = t₁ :=
    attempt_of_commits (a := ()) (commits_bind.mpr ⟨_, t₁, hcommit, commits_pure.mpr ⟨rfl, rfl⟩⟩)
  have hstandings : (t₁.standings, t₁.withdrawals) = (t.standings, t.withdrawals) :=
    createPending_within (R := SameOn fun t : Tables => (t.standings, t.withdrawals))
      (fun _ _ => rfl) (fun _ _ => rfl) (fun _ _ => rfl) (fun _ _ => rfl) (fun _ _ => rfl)
      (fun _ _ => rfl) hpending
  simp only [decidedBy_congr hstandings] at hdecided
  rw [hnext]
  exact ⟨commandId, correlationId, fp, hpending, hdecided⟩

/-- What the pending half adds to Proposals and stored answers. -/
theorem createPending_adds {commandId : CommandId} {correlationId : CorrelationId} {fp : Fingerprint}
    (h : Commits (authority.createPending commandId correlationId payload enrolled fp draws) t () t') :
    t.proposals.insert? (authority.proposalFor payload enrolled draws) = some t'.proposals ∧
    t.results.insert? ⟨createKey commandId payload, fp,
      authority.createdResult commandId payload draws, draws.now⟩ = some t'.results := by
  obtain ⟨_, t₁, hestablish, h⟩ := commits_bind.mp h
  have hsame : (t₁.proposals, t₁.results) = (t.proposals, t.results) :=
    StoreWithin.establishStanding (R := SameOn fun t : Tables => (t.proposals, t.results))
      (fun _ _ => rfl) (fun _ _ => rfl) hestablish
  obtain ⟨hproposals, hresults⟩ := Prod.mk.inj hsame
  obtain ⟨_, _, hadd, h⟩ := commits_bind.mp h
  obtain ⟨x, hx, rfl⟩ := commits_add.mp hadd
  obtain ⟨_, _, hsave, hout⟩ := commits_bind.mp h
  obtain ⟨y, hy, rfl⟩ := commits_add.mp hsave
  have hrest : (t'.proposals, t'.results) = (x, y) :=
    StoreWithin.within_addOutbox (R := SameOn fun t : Tables => (t.proposals, t.results))
      (fun _ _ => rfl) (fun _ _ => rfl) hout
  obtain ⟨hproposals', hresults'⟩ := Prod.mk.inj hrest
  rw [hproposals', hresults', ← hproposals, ← hresults]
  exact ⟨hx, hy⟩

/-! ### The approval made later -/

/-- The payload of the approval a standing stands for. -/
def approvalOf (payload : CreateEnrollment) (s : CommissioningStandingRow) : DecideEnrollment where
  targetOwnerDomainId := payload.requestedOwnerDomainId
  targetBusinessOwnerId := s.businessOwnerId
  decision := .approve
  expectedProposalRevision := 1
  reviewedManifestRef := payload.manifest.ref

/-- The second database is the first, with the last event published under another command
and with the stored answer of that command. -/
structure MadeLater (key : CommandKey) (correlationId : CorrelationId) (eventId : EventId)
    (t t' : Tables) : Prop where
  results : ∃ record, record.key = key ∧ t'.results.rows = t.results.rows ++ [record]
  outbox : ∃ rows row, row.eventId = eventId ∧ t.outbox.rows = rows ++ [row] ∧
    t'.outbox.rows = rows ++ [row.attributed key.commandId correlationId]
  rest : { t' with results := t.results, outbox := t.outbox } = t

/-- The answer to the later approval. -/
def approvedResult (authority : AdmissionAuthority) (payload : CreateEnrollment)
    (enrolled : VerifiedEnrollment) (s : CommissioningStandingRow) (commandId : CommandId)
    (draws : Draws) : CommandResult where
  commandId := commandId
  outcome := .committed
  body := .decided (approvalDecision (decisionFor (authority.proposalFor payload enrolled draws)
    .approve s.actor payload.requestedOwnerDomainId s.businessOwnerId payload.manifest.ref draws))
    (some draws.grantId) 1
  occurredAt := draws.now

/-- An approval on the strength of a standing can be made by a call of its Controller. -/
theorem decideEnrollment_madeLater (authority : AdmissionAuthority) (decideCorrelation : CorrelationId)
    (fp : Fingerprint) {s : CommissioningStandingRow} {commandId decideId : CommandId}
    {correlationId : CorrelationId} {context : ActorContext} {answer : ApprovalDecision × Option GrantId}
    (hactor : context.actor = s.actor) (hdomain : context.ownerDomainId = payload.requestedOwnerDomainId)
    (httl : 0 < authority.proposalTtl)
    (hp : t.proposals.get (·.enrollmentId) draws.enrollmentId =
      some (authority.proposalFor payload enrolled draws))
    (hnone : t.results.get (·.key) (decideKey decideId (approvalOf payload s)) = none)
    (h : Commits (authority.decideByStanding commandId correlationId payload enrolled draws s) t
      answer t') :
    ∃ r t'', Commits (authority.decideEnrollment decideId decideCorrelation draws.enrollmentId
        (approvalOf payload s) context fp draws.later) t r t'' ∧
      MadeLater (decideKey decideId (approvalOf payload s)) decideCorrelation draws.laterEventId t'
        t'' := by
  obtain ⟨-, x, y, z, hx, hy, hz, rfl⟩ := decideInSession_approve_commits.mp h
  -- the event under the other command clashes with what it clashed with before
  obtain ⟨z', hz'⟩ := Table.insert?_of_clash_eq (approvalRow
    (authority.proposalFor payload enrolled draws) payload.requestedOwnerDomainId decideId
    decideCorrelation draws.laterEventId draws) hz fun _ => rfl
  have hdecide : Commits (authority.decideInSession (authority.proposalFor payload enrolled draws)
      .approve s.actor payload.requestedOwnerDomainId s.businessOwnerId payload.manifest.ref decideId
      decideCorrelation draws.laterEventId draws.later) t _ _ :=
    decideInSession_approve_commits.mpr ⟨rfl, x, y, z', hx, hy, hz', rfl⟩
  obtain ⟨w, hw⟩ := Table.insert?_isSome (t := t.results)
    (r := ⟨decideKey decideId (approvalOf payload s), fp,
      authority.approvedResult payload enrolled s decideId draws, draws.now⟩) fun row hrow =>
      decide_eq_false (Table.get_eq_none_iff.mp hnone row hrow)
  have hopen : ¬ ((authority.proposalFor payload enrolled draws).state = .expired ∨
      (authority.proposalFor payload enrolled draws).expiresAt ≤ draws.now) := by
    intro hlate
    rcases hlate with hstate | hlate
    · cases hstate
    · have : draws.now < draws.now + authority.proposalTtl := Int.lt_add_of_pos_right _ httl
      exact absurd hlate (Int.not_le.mpr this)
  refine ⟨authority.approvedResult payload enrolled s decideId draws, { t with
    decisions := x
    proposals := t.proposals.modify (·.enrollmentId) draws.enrollmentId
      (ProposalRow.moved .approvedAwaitingHandoff draws.now)
      (ProposalRow.moved_keeps .approvedAwaitingHandoff draws.now)
    grants := y
    outbox := z'
    results := w }, commits_once hnone ?_, ?_⟩
  · simp only [getProposal, commits_read_bind, hp, commits_demand_bind, Option.some.injEq,
      exists_eq_left', commits_raiseIf_bind]
    refine ⟨fun hne => hne hdomain.symm, hopen, ?_⟩
    have hallowed : ProposalState.approvedAwaitingHandoff ∈ ProposalState.pendingReview.allowed := by
      decide
    refine commits_bind.mpr ⟨(), t, commits_requireTransition.mpr ⟨hallowed, rfl⟩, ?_⟩
    simp only [commits_raiseIf_bind]
    refine ⟨fun hne => hne rfl, fun hne => hne rfl, ?_⟩
    rw [hactor]
    refine commits_bind.mpr ⟨_, _, hdecide, ?_⟩
    exact commits_bind.mpr ⟨(), _, commits_add.mpr ⟨w, hw, rfl⟩, commits_pure.mpr ⟨rfl, rfl⟩⟩
  · exact ⟨⟨_, rfl, Table.insert?_rows hw⟩, ⟨_, _, rfl, Table.insert?_rows hz, Table.insert?_rows hz'⟩,
      rfl⟩

/-- A sweep that finds no Proposal overdue changes nothing. -/
theorem next_expireDue_of_none {eventIds : EnrollmentId → EventId} {now : Timestamp}
    (h : ∀ p ∈ t.proposals, expirable p.state = true → now < p.expiresAt) :
    authority.next t (.expireDue eventIds now) = t := by
  have hnone : (t.proposals.rows.filter fun p =>
      expirable p.state && decide (p.expiresAt ≤ now)) = [] := by
    rw [List.filter_eq_nil_iff]
    intro p hp hdue
    simp only [Bool.and_eq_true, decide_eq_true_eq] at hdue
    exact absurd hdue.2 (Int.not_le.mpr (h p hp hdue.1))
  refine attempt_of_commits (a := ()) ?_
  simp [Request.transaction, expireDue, listExpirable, hnone]

/-! ### Enrollments decided at once -/

/-- The enrollment has its Decision at once. -/
def DecidedAtOnce (authority : AdmissionAuthority) (t : Tables) (request : Request)
    (draws : Draws) : Prop :=
  ∃ d ∈ (authority.next t request).decisions, d.enrollmentId = draws.enrollmentId

/-- A standing that the proof of an enrollment names is on file, and was recorded by a
Controller that had the scope to approve, for the business Owner it acted for. -/
structure StandsFor (requests : List Request) (t : Tables) (payload : CreateEnrollment)
    (enrolled : VerifiedEnrollment) (s : CommissioningStandingRow) (context : ActorContext) : Prop where
  named : NamedBy t payload enrolled s
  recorded : ∃ now, .recordStanding s.jti s.operationalKeyId context now ∈ requests ∧
    s = standingRow s.jti s.operationalKeyId context now
  scope : approveScope ∈ context.actor.grantedScopes

/-- The call that makes the approval of a standing later. -/
def approvalCommand (payload : CreateEnrollment) (draws : Draws) (s : CommissioningStandingRow)
    (context : ActorContext) (commandId : CommandId) (correlationId : CorrelationId) : Command :=
  .decideEnrollment commandId correlationId draws.enrollmentId (approvalOf payload s) context

/-- The enrollment is the same enrollment left pending, and an approval made later at the
same reading: the call is authorized, its sweep finds nothing unless a Proposal on file is
overdue, and its transaction leaves the tables of the enrollment that was decided at
once, up to what it records of itself. -/
structure ApprovedEarly (authority : AdmissionAuthority) (t : Tables) (request : Request)
    (payload : CreateEnrollment) (draws : Draws) (s : CommissioningStandingRow)
    (context : ActorContext) : Prop where
  pending : ∃ p ∈ (authority.reviewing.next t request).proposals,
    p.enrollmentId = draws.enrollmentId ∧ p.state = .pendingReview
  authorized : ∀ commandId correlationId,
    (approvalCommand payload draws s context commandId correlationId).authorized authority.reviewing =
      (approvalCommand payload draws s context commandId correlationId).fingerprint authority.reviewing
  swept : (∀ p ∈ t.proposals, expirable p.state = true → draws.now < p.expiresAt) →
    ∀ eventIds, authority.reviewing.next (authority.reviewing.next t request)
      (.expireDue eventIds draws.now) = authority.reviewing.next t request
  approved : ∀ commandId correlationId fp,
    (approvalCommand payload draws s context commandId correlationId).fingerprint authority.reviewing =
      .ok fp →
    t.results.get (·.key)
      ((approvalCommand payload draws s context commandId correlationId).key authority.reviewing) =
      none →
    MadeLater ((approvalCommand payload draws s context commandId correlationId).key
        authority.reviewing) correlationId draws.laterEventId (authority.next t request)
      (authority.reviewing.next (authority.reviewing.next t request)
        (.command (approvalCommand payload draws s context commandId correlationId) draws.later))

/-- A Decision made at once is that of a standing. -/
theorem decidedBy_of_decidedAtOnce (hreach : Reachable authority t)
    (h : Enrolls authority t request payload enrolled draws)
    (hd : DecidedAtOnce authority t request draws) : ∃ s, DecidedBy authority t payload enrolled s := by
  rcases h.decisions with ⟨s, hs, -⟩ | ⟨hsame, -⟩
  · exact ⟨s, hs⟩
  · -- the enrollment is new, so no Decision of it was on file
    obtain ⟨d, hd, he⟩ := hd
    rw [hsame] at hd
    have hundecided := ((reachable_sound hreach).legal draws.enrollmentId).of_none h.proposals.1
    exact absurd he (Table.get_eq_none_iff.mp hundecided.1 d hd)

theorem standsFor_of_decidedBy {requests : List Request} {s : CommissioningStandingRow}
    (h : DecidedBy authority (run authority.next .empty requests) payload enrolled s) :
    ∃ context, StandsFor requests (run authority.next .empty requests) payload enrolled s context := by
  obtain ⟨-, hs, hdecides⟩ := h
  obtain ⟨made, hmade, context, now, rfl, hscope, hrow⟩ :=
    standings_made authority requests (recordedStanding_mem hs)
  exact ⟨context, recordedStanding_named hs hdecides.ownerDomainId hdecides.operationalKeyId,
    ⟨now, hmade, hrow⟩, hscope⟩

/-- Its recording Controller is authorized to make the approval of a standing. -/
theorem approvalCommand_authorized {s : CommissioningStandingRow} {context : ActorContext}
    {commandId : CommandId} {correlationId : CorrelationId}
    (hscope : approveScope ∈ context.actor.grantedScopes)
    (hdomain : context.ownerDomainId = payload.requestedOwnerDomainId)
    (howner : context.businessOwnerId = s.businessOwnerId) :
    (approvalCommand payload draws s context commandId correlationId).authorized authority =
      (approvalCommand payload draws s context commandId correlationId).fingerprint authority := by
  simp [approvalCommand, Command.authorized, Command.fingerprint, decideAuthorized, approvalOf,
    ActorContext.requireScope, hscope, hdomain, howner, bind, Except.bind]

theorem approvedEarly_of_decidedBy {s : CommissioningStandingRow} {context : ActorContext}
    (h : Enrolls authority t request payload enrolled draws)
    (hs : DecidedBy authority t payload enrolled s) (httl : 0 < authority.proposalTtl)
    (hscope : approveScope ∈ context.actor.grantedScopes) (hactor : context.actor = s.actor)
    (hdomain : context.ownerDomainId = s.ownerDomainId)
    (howner : context.businessOwnerId = s.businessOwnerId) :
    ApprovedEarly authority t request payload draws s context := by
  obtain ⟨commandId, correlationId, fp, hpending, hdecided⟩ := h.pending
  obtain ⟨hproposals, hresults⟩ := createPending_adds hpending
  have hrequested := hdomain.trans hs.2.2.ownerDomainId
  have hget : (authority.reviewing.next t request).proposals.get (·.enrollmentId)
      draws.enrollmentId = some (authority.proposalFor payload enrolled draws) := by
    rw [Table.get_insert hproposals proposal_enrollmentId_isKey]
    exact if_pos rfl
  refine ⟨⟨_, Table.get_mem hget, rfl, rfl⟩, fun _ _ => approvalCommand_authorized hscope hrequested
    howner, ?_, ?_⟩
  · intro hnone eventIds
    refine next_expireDue_of_none ?_
    intro p hp hexpirable
    rcases (Table.mem_insert hproposals).mp hp with hp | rfl
    · exact hnone p hp hexpirable
    · exact Int.lt_add_of_pos_right _ httl
  · intro decideId decideCorrelation fp' hfp hnone
    rcases hdecided with ⟨s', answer, hs', hdecide⟩ | ⟨-, hno⟩
    · obtain rfl : s = s' := Option.some.inj (hs.2.1.symm.trans hs'.2.1)
      -- the answer of the enrollment is stored under another kind of command
      have hnone' : (authority.reviewing.next t request).results.get (·.key)
          (decideKey decideId (approvalOf payload s)) = none := by
        rw [Table.get_insert hresults result_key_isKey, if_neg (by simp [decideKey, createKey])]
        exact hnone
      obtain ⟨r, t'', hcommit, hlater⟩ := decideEnrollment_madeLater authority.reviewing
        decideCorrelation fp' hactor hrequested httl hget hnone' hdecide
      have hnext : authority.reviewing.next (authority.reviewing.next t request)
          (.command (approvalCommand payload draws s context decideId decideCorrelation)
            draws.later) = t'' := by
        refine attempt_of_commits (a := ()) (commits_bind.mpr ⟨r, t'', ?_, commits_pure.mpr ⟨rfl, rfl⟩⟩)
        refine commits_lift_bind.mpr ⟨fp', ?_, hcommit⟩
        rw [approvalCommand_authorized hscope hrequested howner]
        exact hfp
      rw [hnext]
      exact hlater
    · exact absurd ⟨s, hs⟩ hno

/-- **Approval at issuance is the owner's approval made early**, and without a standing an
enrollment stays pending. -/
theorem approval_at_issuance (authority : AdmissionAuthority) (requests : List Request)
    (h : Enrolls authority (run authority.next .empty requests) request payload enrolled draws) :
    (DecidedAtOnce authority (run authority.next .empty requests) request draws →
      ∃ s context, StandsFor requests (run authority.next .empty requests) payload enrolled s
          context ∧
        (0 < authority.proposalTtl → ApprovedEarly authority (run authority.next .empty requests)
          request payload draws s context)) ∧
    ((¬ ∃ s context, StandsFor requests (run authority.next .empty requests) payload enrolled s
        context) →
      ∃ p ∈ (authority.next (run authority.next .empty requests) request).proposals,
        p.enrollmentId = draws.enrollmentId ∧ p.state = .pendingReview) := by
  constructor
  · intro hd
    obtain ⟨s, hs⟩ := decidedBy_of_decidedAtOnce ⟨requests, rfl⟩ h hd
    obtain ⟨context, hstands⟩ := standsFor_of_decidedBy hs
    refine ⟨s, context, hstands, fun httl => ?_⟩
    obtain ⟨now, -, hrow⟩ := hstands.recorded
    exact approvedEarly_of_decidedBy h hs httl hstands.scope (by rw [hrow]; rfl) (by rw [hrow]; rfl)
      (by rw [hrow]; rfl)
  · intro hno
    obtain ⟨commandId, correlationId, fp, hpending, hdecided⟩ := h.pending
    rcases hdecided with ⟨s, -, hs, -⟩ | ⟨hsame, -⟩
    · obtain ⟨context, hstands⟩ := standsFor_of_decidedBy hs
      exact absurd ⟨s, context, hstands⟩ hno
    · rw [hsame]
      exact ⟨_, (Table.mem_insert (createPending_adds hpending).1).mpr (.inr rfl), rfl, rfl⟩

/-- The phone records standing for a key; the enrollment of the key is decided at once. -/
theorem approval_at_issuance_recorded : ∃ payload enrolled draws s context,
    StandsFor [Sample.record "e" "k" 0] (Sample.after [Sample.record "e" "k" 0]) payload enrolled s
      context ∧
    ApprovedEarly Sample.authority (Sample.after [Sample.record "e" "k" 0])
      ((Sample.create "e" "k").madeAt 1) payload draws s context := by
  have hdecided : ∃ d ∈ (Sample.authority.next (Sample.after [Sample.record "e" "k" 0])
      ((Sample.create "e" "k").madeAt 1)).decisions.rows, d.enrollmentId = "e" := by decide +kernel
  have hnew : (Sample.after [Sample.record "e" "k" 0]).decisions.rows = [] := by decide +kernel
  obtain ⟨commandId, correlationId, payload, draws, hrequest, he⟩ : ∃ commandId correlationId payload
      draws, (Sample.create "e" "k").madeAt 1 =
        .command (.createEnrollment commandId correlationId payload) draws ∧ draws.enrollmentId = "e" :=
    ⟨_, _, _, _, rfl, rfl⟩
  rw [hrequest] at hdecided ⊢
  rcases next_create Sample.authority (Sample.after [Sample.record "e" "k" 0]) commandId correlationId
    payload draws with hsame | ⟨enrolled, h⟩
  · rw [hsame, hnew] at hdecided
    simp at hdecided
  · obtain ⟨d, hd, hde⟩ := hdecided
    obtain ⟨s, context, hstands, hearly⟩ := (approval_at_issuance Sample.authority
      [Sample.record "e" "k" 0] h).1 ⟨d, hd, hde.trans he.symm⟩
    exact ⟨payload, enrolled, draws, s, context, hstands, hearly (by decide)⟩

/-- The call of `decide_enrollment` ends whatever is overdue; an enrollment does not. With
an overdue Proposal of another device on file, approval at issuance leaves that Proposal
pending and the later call does not. -/
theorem approval_sweeps : ¬ ∀ (authority : AdmissionAuthority) (requests : List Request)
    (request : Request) (payload : CreateEnrollment) (enrolled : VerifiedEnrollment) (draws : Draws),
    Enrolls authority (run authority.next .empty requests) request payload enrolled draws →
    0 < authority.proposalTtl →
    DecidedAtOnce authority (run authority.next .empty requests) request draws →
    ∃ s context, StandsFor requests (run authority.next .empty requests) payload enrolled s context ∧
      ∀ eventIds commandId correlationId,
        (run authority.reviewing.next (run authority.next .empty requests) [request,
          .expireDue eventIds draws.now,
          .command (approvalCommand payload draws s context commandId correlationId)
            draws.later]).proposals.rows =
        (authority.next (run authority.next .empty requests) request).proposals.rows := by
  intro hclaim
  have hdecided : ∃ d ∈ (Sample.authority.next (Sample.after [Sample.create "a" "ka",
      Sample.record "e" "k" 1]) ((Sample.create "e" "k").madeAt (minutes 15))).decisions.rows,
      d.enrollmentId = "e" := by decide +kernel
  have hnew : (Sample.after [Sample.create "a" "ka", Sample.record "e" "k" 1]).decisions.rows = [] := by
    decide +kernel
  have hswept : ∃ p ∈ (Sample.authority.reviewing.next (Sample.authority.reviewing.next
      (Sample.after [Sample.create "a" "ka", Sample.record "e" "k" 1])
      ((Sample.create "e" "k").madeAt (minutes 15)))
      (.expireDue (fun _ => "swept") (minutes 15))).proposals.rows, p.state = .expired := by
    decide +kernel
  have hkept : ∀ p ∈ (Sample.authority.next (Sample.after [Sample.create "a" "ka",
      Sample.record "e" "k" 1]) ((Sample.create "e" "k").madeAt (minutes 15))).proposals.rows,
      p.state ≠ .expired := by decide +kernel
  obtain ⟨commandId, correlationId, payload, draws, hrequest, he, hnow⟩ : ∃ commandId correlationId
      payload draws, (Sample.create "e" "k").madeAt (minutes 15) =
        .command (.createEnrollment commandId correlationId payload) draws ∧
        draws.enrollmentId = "e" ∧ draws.now = minutes 15 := ⟨_, _, _, _, rfl, rfl, rfl⟩
  rw [hrequest] at hdecided hswept hkept
  rcases next_create Sample.authority (Sample.after [Sample.create "a" "ka", Sample.record "e" "k" 1])
    commandId correlationId payload draws with hsame | ⟨enrolled, h⟩
  · rw [hsame, hnew] at hdecided
    simp at hdecided
  · obtain ⟨d, hd, hde⟩ := hdecided
    obtain ⟨s, context, -, heq⟩ := hclaim Sample.authority [Sample.create "a" "ka",
      Sample.record "e" "k" 1] _ payload enrolled draws h (by decide) ⟨d, hd, hde.trans he.symm⟩
    obtain ⟨p, hp, hexpired⟩ := hswept
    -- what the sweep ended, the approval leaves as it is
    have hfinal : p ∈ (run Sample.authority.reviewing.next _ _).proposals :=
      run_terminal hp (by rw [hexpired]; rfl)
      [.command (approvalCommand payload draws s context "approve" "approve") draws.later]
    have hrows := heq (fun _ => "swept") "approve" "approve"
    rw [hnow] at hrows
    refine hkept p ?_ hexpired
    show p ∈ (Sample.authority.next (run Sample.authority.next .empty [Sample.create "a" "ka",
      Sample.record "e" "k" 1]) _).proposals.rows
    rw [← hrows]
    exact hfinal

end AdmissionAuthority

end EidolonHub.Admission
