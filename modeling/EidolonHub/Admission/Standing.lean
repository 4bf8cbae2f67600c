import EidolonHub.Admission.Expiry
import EidolonHub.Admission.Identity

/-!
# EidolonHub.Admission.Standing

**Approvals given in advance, and how they end.** A Controller records standing for
a key when a voucher is issued; an enrollment of that key is then decided at once, by
the standing its voucher names or by the latest one of its key. A standing keeps the
moment it was first recorded at, and the moment a Controller was withdrawn only
moves forward, so what a withdrawal has silenced stays silent.
-/

namespace EidolonHub.Admission

open EidolonHub.Library EidolonHub.Library.Tx

/-- The moment the last withdrawal of a Controller stands at. -/
def Tables.withdrawnAt (t : Tables) (domain : OwnerDomainId) (principalId : PrincipalId) :
    Option Timestamp :=
  (t.withdrawals.get (fun w => (w.ownerDomainId, w.principalId)) (domain, principalId)).map
    (·.withdrawnAt)

/-- The standing a proof names, as the tables have it. -/
def Tables.recordedStanding (t : Tables) (verified : VerifiedCommissioning)
    (domain : OwnerDomainId) (keyId : KeyId) : Option CommissioningStandingRow :=
  (answer (AdmissionAuthority.recordedStanding verified domain keyId) t).join

/-- The standing decides for this key: it is of the domain and the key, recorded by a
Controller that may decide and that was not withdrawn since. -/
structure CommissioningStandingRow.Decides (s : CommissioningStandingRow) (t : Tables)
    (domain : OwnerDomainId) (keyId : KeyId) : Prop where
  ownerDomainId : s.ownerDomainId = domain
  operationalKeyId : s.operationalKeyId = keyId
  actor : s.actor.ownerDomainId = domain
  scope : approveScope ∈ s.actor.grantedScopes
  standing : ∀ w, t.withdrawnAt domain s.actor.principalId = some w → w < s.recordedAt

namespace AdmissionAuthority

variable {authority : AdmissionAuthority} {t t' : Tables} {domain : OwnerDomainId} {keyId : KeyId}
  {verified : VerifiedCommissioning} {payload : CreateEnrollment} {enrolled : VerifiedEnrollment}
  {draws : Draws} {request : Request}

/-! ### The standing that decides -/

theorem recordedStanding_commits {found : Option CommissioningStandingRow} :
    Commits (recordedStanding verified domain keyId) t found t' ↔
      t' = t ∧ found = t.recordedStanding verified domain keyId := by
  unfold Tables.recordedStanding AdmissionAuthority.recordedStanding
  split
  · rw [commissioningStanding, commits_read, answer_read, and_comm]
    rfl
  · rw [latestCommissioningStandingForKey, commits_read, answer_read, and_comm]
    rfl

/-- The standing that is looked up is on file. -/
theorem recordedStanding_mem {s : CommissioningStandingRow}
    (h : t.recordedStanding verified domain keyId = some s) : s ∈ t.standings := by
  unfold Tables.recordedStanding AdmissionAuthority.recordedStanding at h
  split at h
  · rw [commissioningStanding, answer_read] at h
    exact Table.get_mem h
  · rw [latestCommissioningStandingForKey, answer_read] at h
    have hmem := List.mem_of_head? h
    rw [List.mem_insertionSort, List.mem_filter] at hmem
    exact hmem.1

theorem controllerWithdrawnAt_commits {principalId : PrincipalId} {found : Option Timestamp} :
    Commits (controllerWithdrawnAt domain principalId) t found t' ↔
      t' = t ∧ found = t.withdrawnAt domain principalId := by
  simp [controllerWithdrawnAt, controllerWithdrawal, Tables.withdrawnAt, and_comm]

/-- A decider is found exactly where the standing that is looked up decides. -/
theorem standingFor_commits {found : Option (ControllerActorRef × BusinessOwnerId)} :
    Commits (authority.standingFor verified domain keyId) t found t' ↔ t' = t ∧
      ((∃ s, authority.decideFromStanding = true ∧
          t.recordedStanding verified domain keyId = some s ∧ s.Decides t domain keyId ∧
          found = some (s.actor, s.businessOwnerId)) ∨
        found = none ∧ ¬ ∃ s, authority.decideFromStanding = true ∧
          t.recordedStanding verified domain keyId = some s ∧ s.Decides t domain keyId) := by
  unfold standingFor
  by_cases hon : authority.decideFromStanding = true
  · simp only [hon, Bool.true_eq_false, if_false, commits_bind, recordedStanding_commits, true_and,
      and_assoc, exists_eq_left]
    cases hs : t.recordedStanding verified domain keyId with
    | none => simp [and_comm]
    | some s =>
      by_cases hself : s.ownerDomainId ≠ domain ∨ s.operationalKeyId ≠ keyId
          ∨ s.actor.ownerDomainId ≠ domain ∨ approveScope ∉ s.actor.grantedScopes
      · have hno : ¬ s.Decides t domain keyId := fun h => by
          simp [h.ownerDomainId, h.operationalKeyId, h.actor, h.scope] at hself
        simp [hself, hno, and_comm]
      · have hdecides : s.Decides t domain keyId ↔
            ∀ w, t.withdrawnAt domain s.actor.principalId = some w → w < s.recordedAt := by
          simp only [ne_eq, not_or, not_not] at hself
          exact ⟨fun h => h.standing,
            fun h => ⟨hself.1, hself.2.1, hself.2.2.1, hself.2.2.2, h⟩⟩
        simp only [hself, if_false, commits_bind, controllerWithdrawnAt_commits, and_assoc,
          exists_eq_left, exists_eq_left', Option.some.injEq, hdecides]
        cases t.withdrawnAt domain s.actor.principalId with
        | none => simp [and_comm]
        | some w =>
          by_cases hw : s.recordedAt ≤ w
          · simp [hw, and_comm]
          · have hlt : w < s.recordedAt := Int.not_le.mp hw
            simp [hw, hlt, and_comm]
  · simp [hon, and_comm]

/-! ### An enrollment, before and after its Decision -/

/-- What an enrollment writes before a standing may decide it. -/
def createPending (authority : AdmissionAuthority) (commandId : CommandId)
    (correlationId : CorrelationId) (payload : CreateEnrollment) (enrolled : VerifiedEnrollment)
    (fp : Fingerprint) (draws : Draws) : Session Unit := do
  establishStanding payload enrolled draws.now
  addProposal (authority.proposalFor payload enrolled draws)
  saveResult (createKey commandId payload) fp (authority.createdResult commandId payload draws)
    draws.now
  addOutbox draws.eventId .enrollmentProposalCreated draws.enrollmentId 1
    (event draws.eventId .enrollmentProposalCreated (enrollmentSubject draws.enrollmentId)
      payload.requestedOwnerDomainId 1 commandId correlationId draws.now
      (.created draws.enrollmentId payload.manifest.ref)) draws.now

/-- The standing that decides an enrollment at its creation. -/
def DecidedBy (authority : AdmissionAuthority) (t : Tables) (payload : CreateEnrollment)
    (enrolled : VerifiedEnrollment) (s : CommissioningStandingRow) : Prop :=
  authority.decideFromStanding = true ∧
    t.recordedStanding enrolled.verified payload.requestedOwnerDomainId enrolled.operationalKeyId =
      some s ∧ s.Decides t payload.requestedOwnerDomainId enrolled.operationalKeyId

/-- The Decision an enrollment makes on the strength of a standing. -/
def decideByStanding (authority : AdmissionAuthority) (commandId : CommandId)
    (correlationId : CorrelationId) (payload : CreateEnrollment) (enrolled : VerifiedEnrollment)
    (draws : Draws) (s : CommissioningStandingRow) : Session (ApprovalDecision × Option GrantId) :=
  authority.decideInSession (authority.proposalFor payload enrolled draws) .approve s.actor
    payload.requestedOwnerDomainId s.businessOwnerId payload.manifest.ref (commandId ++ ":standing")
    correlationId draws.laterEventId draws

/-- **An enrollment is its pending half, and a Decision where a standing decides.** -/
theorem createInSession_commits {commandId : CommandId} {correlationId : CorrelationId}
    {fp : Fingerprint} {r : CommandResult} :
    Commits (authority.createInSession commandId correlationId payload enrolled fp draws) t r t' ↔
      r = authority.createdResult commandId payload draws ∧
      ∃ t₁, Commits (authority.createPending commandId correlationId payload enrolled fp draws) t ()
        t₁ ∧ ((∃ s answer, DecidedBy authority t₁ payload enrolled s ∧ Commits
          (authority.decideByStanding commandId correlationId payload enrolled draws s) t₁ answer t') ∨
          t' = t₁ ∧ ¬ ∃ s, DecidedBy authority t₁ payload enrolled s) := by
  unfold createInSession createPending decideByStanding
  simp only [commits_bind, exists_unit, standingFor_commits]
  constructor
  · rintro ⟨t₂, hestablish, t₃, hadd, t₄, hsave, t₁, hout, found, _, ⟨rfl, hfound⟩, h⟩
    rcases hfound with ⟨s, hon, hs, hdecides, rfl⟩ | ⟨rfl, hno⟩
    · simp only [commits_bind, commits_pure] at h
      obtain ⟨answer, t₅, hdecide, rfl, rfl⟩ := h
      exact ⟨rfl, _, ⟨t₂, hestablish, t₃, hadd, t₄, hsave, hout⟩,
        .inl ⟨s, answer, ⟨hon, hs, hdecides⟩, hdecide⟩⟩
    · simp only [commits_pure] at h
      obtain ⟨rfl, rfl⟩ := h
      exact ⟨rfl, _, ⟨t₂, hestablish, t₃, hadd, t₄, hsave, hout⟩, .inr ⟨rfl, hno⟩⟩
  · rintro ⟨rfl, t₁, ⟨t₂, hestablish, t₃, hadd, t₄, hsave, hout⟩, h⟩
    refine ⟨t₂, hestablish, t₃, hadd, t₄, hsave, t₁, hout, ?_⟩
    rcases h with ⟨s, answer, ⟨hon, hs, hdecides⟩, hdecide⟩ | ⟨rfl, hno⟩
    · refine ⟨some (s.actor, s.businessOwnerId), t₁, ⟨rfl, .inl ⟨s, hon, hs, hdecides, rfl⟩⟩, ?_⟩
      simp only [commits_bind, commits_pure]
      exact ⟨answer, t', hdecide, trivial, rfl⟩
    · exact ⟨none, _, ⟨rfl, .inr ⟨rfl, hno⟩⟩, commits_pure.mpr ⟨rfl, rfl⟩⟩

/-! ### Standings and withdrawals over a run -/

/-- No command writes a standing or a withdrawal. -/
theorem commandsWithin_standings :
    CommandsWithin authority (SameOn fun t : Tables => (t.standings, t.withdrawals)) :=
  .of_frames (fun _ _ => rfl)
    (fun _ _ _ _ _ _ _ _ _ _ => StoreWithin.within_decideInSession (fun _ _ => rfl)
      (fun _ _ => rfl) (fun _ _ => rfl) (fun _ _ => rfl) fun _ _ => rfl)
    (fun _ _ => within_update fun _ => rfl) (fun _ _ _ => within_update fun _ => rfl)
    (fun _ _ => rfl) (fun _ _ => rfl) (fun _ _ => rfl) (fun _ _ => rfl) (fun _ _ => rfl)
    fun _ _ => rfl

theorem establishStanding_standings {now : Timestamp} :
    Within (SameOn fun t : Tables => (t.standings, t.withdrawals))
      (establishStanding payload enrolled now) :=
  StoreWithin.establishStanding (fun _ _ => rfl) fun _ _ => rfl

theorem recordedStanding_congr (h : t'.standings = t.standings) :
    t'.recordedStanding verified domain keyId = t.recordedStanding verified domain keyId := by
  unfold Tables.recordedStanding AdmissionAuthority.recordedStanding
  split
  · simp only [commissioningStanding, answer_read, h]
  · simp only [latestCommissioningStandingForKey, answer_read, h]

theorem withdrawnAt_congr {principalId : PrincipalId} (h : t'.withdrawals = t.withdrawals) :
    t'.withdrawnAt domain principalId = t.withdrawnAt domain principalId := by
  unfold Tables.withdrawnAt
  rw [h]

theorem decidedBy_congr {s : CommissioningStandingRow}
    (h : (t'.standings, t'.withdrawals) = (t.standings, t.withdrawals)) :
    DecidedBy authority t' payload enrolled s ↔ DecidedBy authority t payload enrolled s := by
  obtain ⟨hstandings, hwithdrawals⟩ := Prod.mk.inj h
  unfold DecidedBy
  rw [recordedStanding_congr hstandings]
  have hdecides : s.Decides t' payload.requestedOwnerDomainId enrolled.operationalKeyId ↔
      s.Decides t payload.requestedOwnerDomainId enrolled.operationalKeyId := by
    constructor <;> rintro ⟨hdomain, hkey, hactor, hscope, hstanding⟩ <;>
      refine ⟨hdomain, hkey, hactor, hscope, fun w hw => hstanding w ?_⟩
    · rwa [withdrawnAt_congr hwithdrawals]
    · rwa [withdrawnAt_congr hwithdrawals] at hw
  rw [hdecides]

/-- The pending half of an enrollment says nothing of the tables it does not write. -/
theorem createPending_within {R : Tables → Tables → Prop} [Std.Refl R] [IsTrans Tables R]
    (hvouchers : ∀ t x, R t { t with vouchers := x })
    (hbindings : ∀ t x, R t { t with baseIdentities := x })
    (hproposals : ∀ t x, R t { t with proposals := x })
    (hresults : ∀ t x, R t { t with results := x }) (houtbox : ∀ t x, R t { t with outbox := x })
    (hstream : ∀ t x, R t { t with stream := x }) {commandId : CommandId}
    {correlationId : CorrelationId} {fp : Fingerprint} :
    Within R (authority.createPending commandId correlationId payload enrolled fp draws) :=
  (StoreWithin.establishStanding hvouchers hbindings).bind fun _ =>
    Within.bind (StoreWithin.within_add fun t x _ => hproposals t x) fun _ =>
    Within.bind (StoreWithin.within_add fun t x _ => hresults t x) fun _ =>
    StoreWithin.within_addOutbox houtbox hstream

/-- A Decision adds its row. -/
theorem decideInSession_decisions {p : ProposalRow} {decision : DecisionKind}
    {actor : ControllerActorRef} {target : OwnerDomainId} {owner : BusinessOwnerId}
    {reviewed : ManifestRef} {commandId : CommandId} {correlationId : CorrelationId}
    {eventId : EventId} {found : ApprovalDecision × Option GrantId}
    (h : Commits (authority.decideInSession p decision actor target owner reviewed commandId
      correlationId eventId draws) t found t') :
    t.decisions.insert? (decisionFor p decision actor target owner reviewed draws) =
      some t'.decisions := by
  obtain ⟨_, t₁, hadd, hrest⟩ := commits_bind.mp h
  obtain ⟨x, hx, rfl⟩ := commits_add.mp hadd
  have hpublish : ∀ type revision published,
      Within (SameOn Tables.decisions) (addOutbox eventId type p.enrollmentId revision published
        draws.now) := by
    intro type revision published
    exact StoreWithin.within_addOutbox (fun _ _ => rfl) fun _ _ => rfl
  have hgrant : ∀ row, Within (SameOn Tables.decisions) (addGrant row) :=
    fun _ => StoreWithin.within_add fun _ _ _ => rfl
  have hmove : ∀ target, Within (SameOn Tables.decisions)
      (moveProposal p.enrollmentId target draws.now) := fun _ => within_update fun _ => rfl
  have hsame : t'.decisions = x := by
    cases decision with
    | reject =>
      exact ((hmove _).bind fun _ => (hpublish ..).bind fun _ => within_pure) hrest
    | approve =>
      exact ((hmove _).bind fun _ => within_read.bind fun _ => (hgrant _).bind fun _ =>
        (hpublish ..).bind fun _ => within_pure) hrest
  rw [hsame]
  exact hx

/-- **What an enrollment decides**: nothing, unless the standing it looks up decides. -/
theorem Enrolls.decisions (h : Enrolls authority t request payload enrolled draws) :
    (∃ s, DecidedBy authority t payload enrolled s ∧
      t.decisions.insert? (decisionFor (authority.proposalFor payload enrolled draws) .approve s.actor
        payload.requestedOwnerDomainId s.businessOwnerId payload.manifest.ref draws) =
          some (authority.next t request).decisions) ∨
    (authority.next t request).decisions = t.decisions ∧
      ¬ ∃ s, DecidedBy authority t payload enrolled s := by
  obtain ⟨commandId, correlationId, fp, r, -, -, hsession⟩ := h.commits
  obtain ⟨-, t₁, hpending, hdecided⟩ := createInSession_commits.mp hsession
  have hframe : (t₁.decisions, t₁.standings, t₁.withdrawals) =
      (t.decisions, t.standings, t.withdrawals) :=
    createPending_within (R := SameOn fun t : Tables => (t.decisions, t.standings, t.withdrawals))
      (fun _ _ => rfl) (fun _ _ => rfl) (fun _ _ => rfl) (fun _ _ => rfl) (fun _ _ => rfl)
      (fun _ _ => rfl) hpending
  obtain ⟨hdecisions, hstandings⟩ := Prod.mk.inj hframe
  simp only [decidedBy_congr hstandings] at hdecided
  rcases hdecided with ⟨s, answer, hs, hdecide⟩ | ⟨hsame, hno⟩
  · have hinsert := decideInSession_decisions hdecide
    rw [hdecisions] at hinsert
    exact .inl ⟨s, hs, hinsert⟩
  · rw [hsame]
    exact .inr ⟨hdecisions, hno⟩

/-! ### Recording and withdrawing -/

/-- The row a Controller's standing is recorded as. -/
def standingRow (jti : Jti) (operationalKeyId : KeyId) (context : ActorContext) (now : Timestamp) :
    CommissioningStandingRow where
  jti := jti
  operationalKeyId := operationalKeyId
  ownerDomainId := context.ownerDomainId
  businessOwnerId := context.businessOwnerId
  actor := context.actor
  recordedAt := now

theorem requireScope_ok {context : ActorContext} {scope : String}
    (h : context.requireScope scope = .ok ()) : scope ∈ context.actor.grantedScopes := by
  unfold ActorContext.requireScope at h
  by_contra hscope
  simp [hscope] at h

/-- A standing is recorded once, by a Controller that may decide. -/
theorem recordStanding_commits {jti : Jti} {context : ActorContext} {now : Timestamp}
    (h : Commits (recordStanding jti keyId context now) t () t') :
    t' = t ∨ approveScope ∈ context.actor.grantedScopes ∧ ∃ x,
      t.standings.insert? (standingRow jti keyId context now) = some x ∧
        t' = { t with standings := x } := by
  simp only [recordStanding, recordCommissioningStanding, commissioningStanding, commits_bind,
    commits_lift, commits_read, commits_pure, and_assoc, exists_and_left, exists_eq_left,
    exists_unit] at h
  obtain ⟨hscope, changed, t₁, h, -, rfl⟩ := h
  split at h
  · simp only [commits_raiseIf_bind, commits_pure] at h
    exact .inl h.2.2
  · simp only [commits_bind, commits_add, commits_pure, exists_unit] at h
    obtain ⟨_, ⟨x, hx, rfl⟩, -, rfl⟩ := h
    exact .inr ⟨requireScope_ok hscope, x, hx, rfl⟩

theorem withdrawal_key_isKey :
    Table.IsKey fun w : ControllerWithdrawalRow => (w.ownerDomainId, w.principalId) :=
  fun _ _ h => by
    rw [Prod.mk.injEq] at h
    simp [Keyed.clash, h.1, h.2]

theorem withdrawnAt_insert {row : ControllerWithdrawalRow} {x : Table ControllerWithdrawalRow}
    {principalId : PrincipalId} (h : t.withdrawals.insert? row = some x) :
    ({ t with withdrawals := x } : Tables).withdrawnAt domain principalId =
      if domain = row.ownerDomainId ∧ principalId = row.principalId then some row.withdrawnAt
      else t.withdrawnAt domain principalId := by
  unfold Tables.withdrawnAt
  simp only [Table.get_insert h withdrawal_key_isKey, Prod.mk.injEq]
  split <;> rfl

theorem withdrawnAt_advance {domain' : OwnerDomainId} {principalId principalId' : PrincipalId}
    {now : Timestamp} {actor : ControllerActorRef} :
    ({ t with
      withdrawals := t.withdrawals.modify (fun w => (w.ownerDomainId, w.principalId))
        (domain', principalId') (.advance now actor)
        (ControllerWithdrawalRow.advance_keeps now actor) } : Tables).withdrawnAt domain principalId =
      if domain = domain' ∧ principalId = principalId' then
        (t.withdrawnAt domain principalId).map fun _ => now
      else t.withdrawnAt domain principalId := by
  unfold Tables.withdrawnAt
  simp only [Table.get_modify_self
      (k := fun w : ControllerWithdrawalRow => (w.ownerDomainId, w.principalId))
      (ControllerWithdrawalRow.advance_keeps now actor) fun _ => rfl, Prod.mk.injEq]
  split
  · rw [Option.map_map, Option.map_map]
    rfl
  · rfl

/-- **A withdrawal moves the moment of its Controller forward, or leaves it.** -/
theorem withdrawController_commits {principalId : PrincipalId} {context : ActorContext}
    {now w : Timestamp} (h : Commits (withdrawController principalId context now) t w t') :
    t'.standings = t.standings ∧ now ≤ w ∧
      t'.withdrawnAt context.ownerDomainId principalId = some w ∧
      (w = now ∧ (∀ w₀, t.withdrawnAt context.ownerDomainId principalId = some w₀ → w₀ ≤ now) ∨
        t.withdrawnAt context.ownerDomainId principalId = some w) ∧
      ∀ domain' principalId', ¬ (domain' = context.ownerDomainId ∧ principalId' = principalId) →
        t'.withdrawnAt domain' principalId' = t.withdrawnAt domain' principalId' := by
  simp only [withdrawController, recordControllerWithdrawal, controllerWithdrawal, commits_bind,
    commits_lift, commits_raiseIf, commits_read, and_assoc, exists_and_left, exists_eq_left,
    exists_unit] at h
  obtain ⟨-, -, h⟩ := h
  have hfile : t.withdrawnAt context.ownerDomainId principalId = (t.withdrawals.get
    (fun w => (w.ownerDomainId, w.principalId)) (context.ownerDomainId, principalId)).map
      (·.withdrawnAt) := rfl
  split at h
  -- the first withdrawal of this Controller
  · next hnone =>
    rw [hnone] at hfile
    simp only [commits_bind, commits_add, commits_pure, exists_unit] at h
    obtain ⟨_, ⟨x, hx, rfl⟩, rfl, rfl⟩ := h
    refine ⟨rfl, Int.le_refl _, ?_, .inl ⟨rfl, by simp [hfile]⟩, ?_⟩
    · rw [withdrawnAt_insert hx, if_pos ⟨rfl, rfl⟩]
    · intro domain' principalId' hne
      rw [withdrawnAt_insert hx, if_neg hne]
  · next existing hsome =>
    rw [hsome] at hfile
    split at h
    -- a later reading moves the withdrawal on
    · next hlt =>
      simp only [commits_bind, commits_update, commits_pure, exists_unit, exists_eq_left] at h
      obtain ⟨rfl, rfl⟩ := h
      refine ⟨rfl, Int.le_refl _, ?_, .inl ⟨rfl, ?_⟩, ?_⟩
      · rw [withdrawnAt_advance, if_pos ⟨rfl, rfl⟩, hfile]
        rfl
      · intro w₀ hw₀
        rw [hfile] at hw₀
        cases hw₀
        exact Int.le_of_lt hlt
      · intro domain' principalId' hne
        rw [withdrawnAt_advance, if_neg hne]
    -- an earlier reading leaves the one on file
    · next hge =>
      rw [commits_pure] at h
      obtain ⟨rfl, rfl⟩ := h
      exact ⟨rfl, Int.not_lt.mp hge, hfile, .inr hfile, fun _ _ _ => rfl⟩

/-- The request is a withdrawal of this Controller, made at this reading, that commits. -/
def Withdraws (t : Tables) (request : Request) (domain : OwnerDomainId) (principalId : PrincipalId)
    (now : Timestamp) : Prop :=
  ∃ context w t', request = .withdrawController principalId context now ∧
    context.ownerDomainId = domain ∧ Commits (withdrawController principalId context now) t w t'

/-- The database after a withdrawal that commits. -/
theorem next_withdraw {principalId : PrincipalId} {context : ActorContext} {now w : Timestamp}
    (h : Commits (withdrawController principalId context now) t w t') :
    authority.next t (.withdrawController principalId context now) = t' :=
  attempt_of_commits (a := ()) (commits_bind.mpr ⟨w, t', h, commits_pure.mpr ⟨rfl, rfl⟩⟩)

/-- What a request does to the standings and the withdrawals. -/
theorem next_standings_cases (authority : AdmissionAuthority) (t : Tables) (request : Request) :
    ((authority.next t request).standings, (authority.next t request).withdrawals) =
        (t.standings, t.withdrawals) ∨
    (∃ jti keyId context now x, request = .recordStanding jti keyId context now ∧
      approveScope ∈ context.actor.grantedScopes ∧
      t.standings.insert? (standingRow jti keyId context now) = some x ∧
      authority.next t request = { t with standings := x }) ∨
    ∃ principalId context now w, request = .withdrawController principalId context now ∧
      Commits (withdrawController principalId context now) t w (authority.next t request) := by
  cases request with
  | command cmd draws =>
    exact .inl (commandsWithin_standings.next_command (fun _ _ _ => establishStanding_standings) t
      cmd draws)
  | expireDue eventIds now => exact .inl (commandsWithin_standings.next_expireDue t eventIds now)
  | recordStanding jti keyId context now =>
    rcases attempt_cases (recordStanding jti keyId context now) t with ⟨_, h⟩ | ⟨-, h⟩
    · rcases recordStanding_commits h with hsame | ⟨hscope, x, hx, hnext⟩
      · exact .inl (congrArg (fun t : Tables => (t.standings, t.withdrawals)) hsame)
      · exact .inr (.inl ⟨jti, keyId, context, now, x, rfl, hscope, hx, hnext⟩)
    · exact .inl (congrArg (fun t : Tables => (t.standings, t.withdrawals)) h)
  | withdrawController principalId context now =>
    rcases attempt_cases (withdrawController principalId context now) t with
      ⟨w, h⟩ | ⟨⟨e, h⟩, -⟩
    · refine .inr (.inr ⟨principalId, context, now, w, rfl, ?_⟩)
      rw [next_withdraw h]
      exact h
    · left
      simp [next, attempt, Request.transaction, run_bind, h, Except.bind]

/-- **The moment of a withdrawal never moves back.** -/
theorem withdrawnAt_next (authority : AdmissionAuthority) {principalId : PrincipalId} {w : Timestamp}
    (request : Request) (h : t.withdrawnAt domain principalId = some w) :
    ∃ w', (authority.next t request).withdrawnAt domain principalId = some w' ∧ w ≤ w' := by
  rcases next_standings_cases authority t request with hsame | ⟨_, _, _, _, x, -, -, -, hnext⟩ |
    ⟨principalId', context, now, w', rfl, hcommit⟩
  · exact ⟨w, by rw [withdrawnAt_congr (Prod.mk.inj hsame).2, h], Int.le_refl _⟩
  · rw [hnext]
    exact ⟨w, h, Int.le_refl _⟩
  · obtain ⟨-, -, hw', hmoment, hother⟩ := withdrawController_commits hcommit
    by_cases heq : domain = context.ownerDomainId ∧ principalId = principalId'
    · obtain ⟨rfl, rfl⟩ := heq
      rcases hmoment with ⟨rfl, hbefore⟩ | hsame
      · exact ⟨w', hw', hbefore w h⟩
      · rw [h] at hsame
        cases hsame
        exact ⟨w, hw', Int.le_refl _⟩
    · exact ⟨w, (hother _ _ heq).trans h, Int.le_refl _⟩

theorem withdrawnAt_run (authority : AdmissionAuthority) {principalId : PrincipalId} {w : Timestamp}
    (requests : List Request) (h : t.withdrawnAt domain principalId = some w) :
    ∃ w', (run authority.next t requests).withdrawnAt domain principalId = some w' ∧ w ≤ w' := by
  refine run_inv (I := fun t : Tables => ∃ w', t.withdrawnAt domain principalId = some w' ∧ w ≤ w')
    ?_ ⟨w, h, Int.le_refl _⟩ requests
  rintro t request ⟨w', hw', hle⟩
  obtain ⟨w'', hw'', hle'⟩ := withdrawnAt_next authority request hw'
  exact ⟨w'', hw'', Int.le_trans hle hle'⟩

/-- A withdrawal stands at its reading or later. -/
theorem Withdraws.withdrawnAt (authority : AdmissionAuthority) {principalId : PrincipalId}
    {now : Timestamp} (h : Withdraws t request domain principalId now) : ∃ w,
      (authority.next t request).withdrawnAt domain principalId = some w ∧ now ≤ w := by
  obtain ⟨context, w, t', rfl, rfl, hcommit⟩ := h
  rw [next_withdraw hcommit]
  obtain ⟨-, hle, hw, -⟩ := withdrawController_commits hcommit
  exact ⟨w, hw, hle⟩

/-! ### Histories -/

/-- The moment on file is the reading of a withdrawal that was made. -/
theorem withdrawnAt_made (authority : AdmissionAuthority) (requests : List Request)
    {principalId : PrincipalId} {w : Timestamp}
    (h : (run authority.next .empty requests).withdrawnAt domain principalId = some w) :
    ∃ pre request post, requests = pre ++ request :: post ∧
      Withdraws (run authority.next .empty pre) request domain principalId w := by
  refine run_history (I := fun requests (t : Tables) => ∀ w, t.withdrawnAt domain principalId = some w →
    ∃ pre request post, requests = pre ++ request :: post ∧
      Withdraws (run authority.next .empty pre) request domain principalId w) ?_ ?_ requests w h
  · intro w hw
    simp [Tables.withdrawnAt, Tables.empty] at hw
  · intro as request ih w hw
    -- one that was made before, or this one
    have hold : (run authority.next .empty as).withdrawnAt domain principalId = some w →
        ∃ pre made post, as ++ [request] = pre ++ made :: post ∧
          Withdraws (run authority.next .empty pre) made domain principalId w := by
      intro hw
      obtain ⟨pre, made, post, rfl, hmade⟩ := ih w hw
      exact ⟨pre, made, post ++ [request], by simp, hmade⟩
    rcases next_standings_cases authority (run authority.next .empty as) request with
      hsame | ⟨_, _, _, _, x, -, -, -, hnext⟩ | ⟨principalId', context, now, w', rfl, hcommit⟩
    · rw [withdrawnAt_congr (Prod.mk.inj hsame).2] at hw
      exact hold hw
    · rw [hnext] at hw
      exact hold hw
    · obtain ⟨-, -, hw', hmoment, hother⟩ := withdrawController_commits hcommit
      by_cases heq : domain = context.ownerDomainId ∧ principalId = principalId'
      · obtain ⟨rfl, rfl⟩ := heq
        rw [hw'] at hw
        cases hw
        rcases hmoment with ⟨rfl, -⟩ | hsame
        · exact ⟨as, _, [], rfl, context, _, _, rfl, rfl, hcommit⟩
        · exact hold hsame
      · rw [hother _ _ heq] at hw
        exact hold hw

/-- The request recorded this standing, for a Controller that may decide. -/
def Records (request : Request) (s : CommissioningStandingRow) : Prop :=
  ∃ context now, request = .recordStanding s.jti s.operationalKeyId context now ∧
    approveScope ∈ context.actor.grantedScopes ∧
    s = standingRow s.jti s.operationalKeyId context now

theorem Records.now {s : CommissioningStandingRow} (h : Records request s) :
    s.recordedAt = request.now := by
  obtain ⟨context, now, rfl, -, hs⟩ := h
  rw [hs]
  rfl

/-- Who records a standing acts in its Owner Domain. -/
theorem Records.ownerDomainId {s : CommissioningStandingRow} (h : Records request s) :
    s.actor.ownerDomainId = s.ownerDomainId := by
  obtain ⟨context, now, -, -, hs⟩ := h
  rw [hs]
  exact context.actor_ownerDomainId

theorem Records.scope {s : CommissioningStandingRow} (h : Records request s) :
    approveScope ∈ s.actor.grantedScopes := by
  obtain ⟨context, now, -, hscope, hs⟩ := h
  rw [hs]
  exact hscope

/-- Every standing was recorded by a request that was made. -/
theorem standings_made (authority : AdmissionAuthority) (requests : List Request)
    {s : CommissioningStandingRow} (h : s ∈ (run authority.next .empty requests).standings) :
    ∃ request ∈ requests, Records request s := by
  refine run_history (I := fun requests (t : Tables) => ∀ s ∈ t.standings,
    ∃ request ∈ requests, Records request s) ?_ ?_ requests s h
  · intro s hs
    simp [Tables.empty] at hs
  · intro as request ih s hs
    have hold : s ∈ (run authority.next .empty as).standings →
        ∃ made ∈ as ++ [request], Records made s := by
      intro hs
      obtain ⟨made, hmade, hrecords⟩ := ih s hs
      exact ⟨made, List.mem_append_left _ hmade, hrecords⟩
    rcases next_standings_cases authority (run authority.next .empty as) request with
      hsame | ⟨jti, keyId, context, now, x, rfl, hscope, hx, hnext⟩ |
      ⟨principalId', context, now, w', rfl, hcommit⟩
    · rw [(Prod.mk.inj hsame).1] at hs
      exact hold hs
    · rw [hnext] at hs
      rcases (Table.mem_insert hx).mp hs with hs | rfl
      · exact hold hs
      · exact ⟨_, List.mem_append_right _ (List.mem_singleton_self _), context, now, rfl, hscope, rfl⟩
    · rw [(withdrawController_commits hcommit).1] at hs
      exact hold hs

/-! ### What a withdrawal silences -/

/-- The request is an enrollment that writes an approving Decision on the strength of this
standing: it is the one that is looked up, and the Decision is that of its Controller for
its business Owner. -/
def DecidesBy (authority : AdmissionAuthority) (t : Tables) (request : Request)
    (s : CommissioningStandingRow) : Prop :=
  ∃ payload enrolled draws d, Enrolls authority t request payload enrolled draws ∧
    t.recordedStanding enrolled.verified payload.requestedOwnerDomainId enrolled.operationalKeyId =
      some s ∧
    d ∈ (authority.next t request).decisions ∧ d ∉ t.decisions ∧ d.decision = .approve ∧
    d.enrollmentId = draws.enrollmentId ∧ d.actor = s.actor ∧
    d.targetBusinessOwnerId = s.businessOwnerId

/-- A standing no later than the withdrawal of its Controller decides nothing. -/
theorem not_decidesBy_of_withdrawn {s : CommissioningStandingRow} {w : Timestamp}
    (h : t.withdrawnAt s.ownerDomainId s.actor.principalId = some w) (hle : s.recordedAt ≤ w) :
    ¬ DecidesBy authority t request s := by
  rintro ⟨payload, enrolled, draws, d, henrolls, hs, hd, hnew, -⟩
  rcases henrolls.decisions with ⟨s', ⟨-, hs', hdecides⟩, -⟩ | ⟨hsame, -⟩
  · obtain rfl : s = s' := by simpa [hs] using hs'
    rw [hdecides.ownerDomainId] at h
    exact absurd (hdecides.standing w h) (Int.not_lt.mpr hle)
  · rw [hsame] at hd
    exact hnew hd

/-- A standing that is looked up and decides, decides. -/
theorem decidesBy_of_decides {s : CommissioningStandingRow}
    (henrolls : Enrolls authority t request payload enrolled draws)
    (hs : DecidedBy authority t payload enrolled s) : DecidesBy authority t request s := by
  rcases henrolls.decisions with ⟨s', ⟨-, hs', -⟩, hinsert⟩ | ⟨-, hno⟩
  · obtain rfl : s = s' := by simpa [hs.2.1] using hs'
    refine ⟨payload, enrolled, draws, _, henrolls, hs.2.1, (Table.mem_insert hinsert).mpr (.inr rfl), ?_,
      rfl, rfl, rfl, rfl⟩
    intro hold
    exact Table.get_eq_none_iff.mp (Table.fresh_of_insert hinsert decision_decisionId_isKey) _ hold rfl
  · exact absurd ⟨s, hs⟩ hno

/-- **Withdrawing a Controller silences every approval it gave in advance**, and no other;
the moment of a withdrawal never moves back. -/
theorem withdrawal_silences (authority : AdmissionAuthority) (requests : List Request)
    (hclock : (requests.map Request.now).Pairwise (· ≤ ·)) :
    (∀ pre withdrawal mid request post domain principalId now,
      requests = pre ++ withdrawal :: (mid ++ request :: post) →
      Withdraws (run authority.next .empty pre) withdrawal domain principalId now →
      ∀ s ∈ (run authority.next .empty pre).standings, s.ownerDomainId = domain →
        s.actor.principalId = principalId →
        ¬ DecidesBy authority (run authority.next .empty (pre ++ withdrawal :: mid)) request s) ∧
    (∀ pre request post payload enrolled draws s, requests = pre ++ request :: post →
      authority.decideFromStanding = true →
      Enrolls authority (run authority.next .empty pre) request payload enrolled draws →
      (run authority.next .empty pre).recordedStanding enrolled.verified
        payload.requestedOwnerDomainId enrolled.operationalKeyId = some s →
      s.ownerDomainId = payload.requestedOwnerDomainId →
      s.operationalKeyId = enrolled.operationalKeyId →
      (∀ before withdrawal after now, pre = before ++ withdrawal :: after →
        Withdraws (run authority.next .empty before) withdrawal s.ownerDomainId s.actor.principalId
          now → now < s.recordedAt) →
      DecidesBy authority (run authority.next .empty pre) request s) ∧
    ∀ pre post domain principalId w, requests = pre ++ post →
      (run authority.next .empty pre).withdrawnAt domain principalId = some w →
      ∃ w', (run authority.next .empty requests).withdrawnAt domain principalId = some w' ∧
        w ≤ w' := by
  refine ⟨?_, ?_, ?_⟩
  · intro pre withdrawal mid request post domain principalId now heq hwithdraws s hs hdomain hprincipal
    obtain ⟨w, hw, hnow⟩ := hwithdraws.withdrawnAt authority
    obtain ⟨w', hw', hle⟩ := withdrawnAt_run authority mid hw
    -- the standing was recorded at a reading before that of the withdrawal
    obtain ⟨made, hmade, hrecords⟩ := standings_made authority pre hs
    have hbefore : made.now ≤ now := by
      obtain ⟨context, _, _, rfl, -, -⟩ := hwithdraws
      rw [heq, List.map_append, List.map_cons, List.pairwise_append] at hclock
      exact hclock.2.2 _ (List.mem_map_of_mem hmade) _ (List.mem_cons_self ..)
    subst hdomain hprincipal
    refine not_decidesBy_of_withdrawn (w := w') ?_ ?_
    · rw [run_append]
      exact hw'
    · rw [hrecords.now]
      exact Int.le_trans hbefore (Int.le_trans hnow hle)
  · intro pre request post payload enrolled draws s heq hon henrolls hs hdomain hkey hlater
    have hmem : s ∈ (run authority.next .empty pre).standings := recordedStanding_mem hs
    obtain ⟨made, -, hrecords⟩ := standings_made authority pre hmem
    refine decidesBy_of_decides henrolls ⟨hon, hs, hdomain, hkey,
      hrecords.ownerDomainId.trans hdomain, hrecords.scope, ?_⟩
    intro w hw
    rw [← hdomain] at hw
    obtain ⟨before, withdrawal, after, hpre, hwithdraws⟩ := withdrawnAt_made authority pre hw
    exact hlater before withdrawal after w hpre hwithdraws
  · rintro pre post domain principalId w rfl hw
    rw [run_append]
    exact withdrawnAt_run authority post hw

end AdmissionAuthority

namespace Sample

/-- The owner's phone records standing for a key, under the voucher of an enrollment. -/
def record (e : EnrollmentId) (key : KeyId) (now : Timestamp) : Request :=
  .recordStanding ("voucher-" ++ e) key (owner "alice") now

/-- The owner withdraws a Controller. -/
def withdraw (principalId : PrincipalId) (now : Timestamp) : Request :=
  .withdrawController principalId (owner "alice") now

end Sample

namespace AdmissionAuthority

/-- The phone records standing and is withdrawn; the enrollment that names the standing is
not decided by it. -/
theorem withdrawal_silences_phone : ∃ s ∈ (Sample.after [Sample.record "e" "k" 0]).standings,
    s.actor.principalId = "phone" ∧
    ¬ DecidesBy Sample.authority (Sample.after [Sample.record "e" "k" 0, Sample.withdraw "phone" 1])
      ((Sample.create "e" "k").madeAt 2) s := by
  have hs : ∃ s ∈ (Sample.after [Sample.record "e" "k" 0]).standings.rows,
      s.ownerDomainId = "home" ∧ s.actor.principalId = "phone" := by decide +kernel
  obtain ⟨s, hs, hdomain, hprincipal⟩ := hs
  have hcommit : (answer (withdrawController "phone" (Sample.owner "alice") 1)
      (Sample.after [Sample.record "e" "k" 0])).isSome = true := by decide +kernel
  obtain ⟨w, hw⟩ := Option.isSome_iff_exists.mp hcommit
  obtain ⟨hsilent, -, -⟩ := withdrawal_silences Sample.authority
    [Sample.record "e" "k" 0, Sample.withdraw "phone" 1, (Sample.create "e" "k").madeAt 2] (by decide)
  exact ⟨s, hs, hprincipal, hsilent [Sample.record "e" "k" 0] _ [] _ [] "home" "phone" 1 rfl
    ⟨Sample.owner "alice", w, _, rfl, rfl, commits_of_answer hw⟩ s hs hdomain hprincipal⟩

end AdmissionAuthority

end EidolonHub.Admission
