import EidolonHub.Admission.Commands

/-!
# EidolonHub.Admission.Writes

**Commands write through the store operations only.** A preorder on databases
that every store operation stays within (`StoreWithin`) is a preorder that every
request stays within; this is shown once, along the syntax of the commands, and
each result of the form "this table only grows" supplies its own preorder.
-/

namespace EidolonHub.Admission

open EidolonHub.Library EidolonHub.Library.Tx

/-- Every write of the Admission store stays within the relation. -/
structure StoreWithin (R : Tables → Tables → Prop) : Prop where
  addProposal : ∀ row, Within R (addProposal row)
  addDecision : ∀ row, Within R (addDecision row)
  addGrant : ∀ row, Within R (addGrant row)
  addGrantAck : ∀ row, Within R (addGrantAck row)
  moveProposal : ∀ enrollmentId target now, Within R (moveProposal enrollmentId target now)
  revokeGrant : ∀ grantId now, Within R (revokeGrant grantId now)
  deliverGrant : ∀ grantId envelope now, Within R (deliverGrant grantId envelope now)
  upsertClaim : ∀ values, Within R (upsertClaim values)
  revokeClaimRow : ∀ deviceInstanceId now, Within R (revokeClaimRow deviceInstanceId now)
  projectActiveClaim : ∀ crypto deviceRef businessOwnerId manifest manifestJson activatedAt,
    Within R (projectActiveClaim crypto deviceRef businessOwnerId manifest manifestJson activatedAt)
  projectRevokedClaim : ∀ deviceRef revokedAt, Within R (projectRevokedClaim deviceRef revokedAt)
  recordCommissioningStanding : ∀ row, Within R (recordCommissioningStanding row)
  recordControllerWithdrawal : ∀ row, Within R (recordControllerWithdrawal row)
  saveResult : ∀ key fingerprint result occurredAt,
    Within R (saveResult key fingerprint result occurredAt)
  /-- the columns of a published event repeat what the event says -/
  addOutbox : ∀ aggregateId event occurredAt,
    Within R (addOutbox event.id event.type aggregateId event.aggregateRev event occurredAt)

/-- Every write of the commands stays within the relation; a Decision and the grant it
issues are one write. -/
structure CommandsWithin (authority : AdmissionAuthority) (R : Tables → Tables → Prop) : Prop where
  addProposal : ∀ row, Within R (addProposal row)
  decideInSession : ∀ p decision actor domain owner reviewed commandId correlationId eventId draws,
    Within R (authority.decideInSession p decision actor domain owner reviewed commandId
      correlationId eventId draws)
  addGrantAck : ∀ row, Within R (addGrantAck row)
  moveProposal : ∀ enrollmentId target now, Within R (moveProposal enrollmentId target now)
  revokeGrant : ∀ grantId now, Within R (revokeGrant grantId now)
  deliverGrant : ∀ grantId envelope now, Within R (deliverGrant grantId envelope now)
  upsertClaim : ∀ values, Within R (upsertClaim values)
  revokeClaimRow : ∀ deviceInstanceId now, Within R (revokeClaimRow deviceInstanceId now)
  projectActiveClaim : ∀ crypto deviceRef businessOwnerId manifest manifestJson activatedAt,
    Within R (projectActiveClaim crypto deviceRef businessOwnerId manifest manifestJson activatedAt)
  projectRevokedClaim : ∀ deviceRef revokedAt, Within R (projectRevokedClaim deviceRef revokedAt)
  saveResult : ∀ key fingerprint result occurredAt,
    Within R (saveResult key fingerprint result occurredAt)
  addOutbox : ∀ aggregateId event occurredAt,
    Within R (addOutbox event.id event.type aggregateId event.aggregateRev event occurredAt)

namespace StoreWithin

open AdmissionAuthority

variable {R : Tables → Tables → Prop} {authority : AdmissionAuthority}

theorem within_add {ρ : Type} [Keyed ρ] {table : Tables → Table ρ} {put : Tables → Table ρ → Tables}
    {row : ρ} (h : ∀ t x, (table t).insert? row = some x → R t (put t x)) :
    Within R (Session.add table put row) :=
  within_update? fun t t' ht => by
    obtain ⟨x, hx, rfl⟩ := Option.map_eq_some_iff.mp ht
    exact h t x hx

/-- The Authority publishes events under their own id, type and revision. -/
theorem publish (h : StoreWithin R) {eventId : EventId} {type : EventType} {aggregateId : String}
    {subject : String} {domain : OwnerDomainId} {revision : Nat} {commandId : CommandId}
    {correlationId : CorrelationId} {now occurredAt : Timestamp} {data : EventData} :
    Within R (Admission.addOutbox eventId type aggregateId revision
      (event eventId type subject domain revision commandId correlationId now data) occurredAt) :=
  h.addOutbox aggregateId (event eventId type subject domain revision commandId correlationId now data)
    occurredAt

variable [Std.Refl R] [IsTrans Tables R]

theorem within_addOutbox (houtbox : ∀ t x, R t { t with outbox := x })
    (hstream : ∀ t x, R t { t with stream := x }) {eventId : EventId} {type : EventType}
    {aggregateId : String} {revision : Nat} {event : Event} {occurredAt : Timestamp} :
    Within R (Admission.addOutbox eventId type aggregateId revision event occurredAt) := by
  unfold Admission.addOutbox
  refine (within_add fun t x _ => houtbox t x).bind fun _ => ?_
  split
  · exact within_read.bind fun _ => within_add fun t x _ => hstream t x
  · exact within_pure

theorem within_upsertClaim (hclaims : ∀ t x, R t { t with claims := x }) {values : ClaimRow} :
    Within R (Admission.upsertClaim values) := by
  refine within_read.bind fun found => ?_
  cases found with
  | none => exact (within_add fun t x _ => hclaims t x).bind fun _ => within_pure
  | some existing => exact (within_update fun t => hclaims t _).bind fun _ => within_pure

theorem within_projectActiveClaim (hdevices : ∀ t x, R t { t with devices := x }) {crypto : Crypto}
    {deviceRef : DeviceRef} {businessOwnerId : BusinessOwnerId} {manifest : ManifestRef}
    {manifestJson : String} {activatedAt : Timestamp} :
    Within R (Admission.projectActiveClaim crypto deviceRef businessOwnerId manifest manifestJson
      activatedAt) := by
  refine within_demand.bind fun _ => within_raiseIf.bind fun _ => within_read.bind fun found => ?_
  cases found with
  | none => exact within_add fun t x _ => hdevices t x
  | some row => exact within_update fun t => hdevices t _

theorem within_recordCommissioningStanding (hstandings : ∀ t x, R t { t with standings := x })
    {row : CommissioningStandingRow} : Within R (Admission.recordCommissioningStanding row) := by
  refine within_read.bind fun found => ?_
  cases found with
  | none => exact (within_add fun t x _ => hstandings t x).bind fun _ => within_pure
  | some existing => exact within_raiseIf.bind fun _ => within_pure

theorem within_recordControllerWithdrawal (hwithdrawals : ∀ t x, R t { t with withdrawals := x })
    {row : ControllerWithdrawalRow} : Within R (Admission.recordControllerWithdrawal row) := by
  refine (within_read (g := fun t : Tables => t.withdrawals.get
    (fun w => (w.ownerDomainId, w.principalId)) (row.ownerDomainId, row.principalId))).bind
    fun found => ?_
  cases found with
  | none => exact (within_add fun t x _ => hwithdrawals t x).bind fun _ => within_pure
  | some existing =>
    simp only
    split
    · exact (within_update fun t => hwithdrawals t _).bind fun _ => within_pure
    · exact within_pure

/-! ### Relations about few tables -/

/-- A relation that says nothing of most tables: what remains to be shown of it is
what it says of bindings, vouchers, results and events. -/
theorem of_frames (hproposals : ∀ t x, R t { t with proposals := x })
    (hdecisions : ∀ t x, R t { t with decisions := x }) (hgrants : ∀ t x, R t { t with grants := x })
    (hacks : ∀ t x, R t { t with acks := x }) (hclaims : ∀ t x, R t { t with claims := x })
    (hdevices : ∀ t x, R t { t with devices := x })
    (hstandings : ∀ t x, R t { t with standings := x })
    (hwithdrawals : ∀ t x, R t { t with withdrawals := x })
    (hsave : ∀ key fp result occurredAt, Within R (Admission.saveResult key fp result occurredAt))
    (houtbox : ∀ aggregateId event occurredAt, Within R (Admission.addOutbox event.id event.type
      aggregateId event.aggregateRev event occurredAt)) : StoreWithin R where
  addProposal _ := within_add fun t x _ => hproposals t x
  addDecision _ := within_add fun t x _ => hdecisions t x
  addGrant _ := within_add fun t x _ => hgrants t x
  addGrantAck _ := within_add fun t x _ => hacks t x
  moveProposal _ _ _ := within_update fun t => hproposals t _
  revokeGrant _ _ := within_update fun t => hgrants t _
  deliverGrant _ _ _ := within_update fun t => hgrants t _
  upsertClaim _ := within_upsertClaim hclaims
  revokeClaimRow _ _ := within_update fun t => hclaims t _
  projectActiveClaim _ _ _ _ _ _ := within_projectActiveClaim hdevices
  projectRevokedClaim _ _ := within_update fun t => hdevices t _
  recordCommissioningStanding _ := within_recordCommissioningStanding hstandings
  recordControllerWithdrawal _ := within_recordControllerWithdrawal hwithdrawals
  saveResult := hsave
  addOutbox := houtbox

/-! ### Parts of the commands -/

theorem once {key : CommandKey} {fp : Fingerprint}
    {body : Session CommandResult} (hbody : Within R body) : Within R (once key fp body) := by
  refine Within.bind ?_ fun found => ?_
  · refine within_read.bind fun row => ?_
    cases row with
    | none => exact within_pure
    | some row => exact within_raiseIf.bind fun _ => within_pure
  · cases found with
    | some replay => exact within_pure
    | none => exact hbody

/-- Standing is established by spending a voucher and recording a binding. -/
theorem establishStanding (hvouchers : ∀ t x, R t { t with vouchers := x })
    (hbindings : ∀ t x, R t { t with baseIdentities := x }) {payload : CreateEnrollment}
    {enrolled : VerifiedEnrollment} {now : Timestamp} :
    Within R (AdmissionAuthority.establishStanding payload enrolled now) := by
  unfold AdmissionAuthority.establishStanding
  simp only
  split
  · refine within_lift.bind fun _ => Within.bind ?_ fun _ => ?_
    · exact within_read.bind fun _ => within_raiseIf.bind fun _ =>
        within_add fun t x _ => hvouchers t x
    · refine within_read.bind fun found => ?_
      cases found with
      | some existing => exact within_raiseIf
      | none =>
        exact within_read.bind fun _ => within_raiseIf.bind fun _ =>
          within_add fun t x _ => hbindings t x
  · exact within_read.bind fun _ => within_demand.bind fun _ => within_raiseIf.bind fun _ =>
      within_read.bind fun _ => within_raiseIf

theorem standingFor {verified : VerifiedCommissioning} {domain : OwnerDomainId} {keyId : KeyId} :
    Within R (authority.standingFor verified domain keyId) := by
  unfold AdmissionAuthority.standingFor
  split
  · exact within_pure
  refine Within.bind ?_ fun found => ?_
  · unfold recordedStanding
    split <;> exact within_read
  cases found with
  | none => exact within_pure
  | some row =>
    simp only
    split
    · exact within_pure
    · refine (within_read.bind fun _ => within_pure).bind fun withdrawnAt => ?_
      cases withdrawnAt with
      | none => exact within_pure
      | some withdrawnAt =>
        simp only
        split <;> exact within_pure

theorem collectable {enrollmentId : EnrollmentId} {proposalRevision : Nat}
    {collectionChallenge handoffKeyProof : String} {now : Timestamp} :
    Within R (authority.collectable enrollmentId proposalRevision collectionChallenge
      handoffKeyProof now) :=
  within_read.bind fun _ => within_demand.bind fun _ => within_raiseIf.bind fun _ =>
    within_raiseIf.bind fun _ => within_raiseIf.bind fun _ => within_raiseIf.bind fun _ =>
    within_read.bind fun _ => within_raiseIf.bind fun _ => within_raiseIf.bind fun _ =>
    within_read.bind fun _ => within_demand.bind fun _ => within_raiseIf.bind fun _ =>
    within_raiseIf.bind fun _ => within_raiseIf.bind fun _ => within_raiseIf.bind fun _ =>
    within_demand.bind fun _ => within_raiseIf.bind fun _ => within_pure

theorem acknowledgeable {enrollmentId : EnrollmentId} {grantId : GrantId}
    {operationalKeyProof : String} {storedClaimGeneration storedTrustEpoch : Nat}
    {now : Timestamp} :
    Within R (authority.acknowledgeable enrollmentId grantId operationalKeyProof
      storedClaimGeneration storedTrustEpoch now) :=
  within_read.bind fun _ => within_read.bind fun _ => within_demand.bind fun _ =>
    within_demand.bind fun _ => within_raiseIf.bind fun _ => within_raiseIf.bind fun _ =>
    within_raiseIf.bind fun _ => within_raiseIf.bind fun _ => within_raiseIf.bind fun _ =>
    within_raiseIf.bind fun _ => within_pure

theorem decideInSession (h : StoreWithin R) {p : ProposalRow} {decision : DecisionKind}
    {actor : ControllerActorRef} {domain : OwnerDomainId} {owner : BusinessOwnerId}
    {reviewed : ManifestRef} {commandId : CommandId} {correlationId : CorrelationId}
    {eventId : EventId} {draws : Draws} :
    Within R (authority.decideInSession p decision actor domain owner reviewed commandId
      correlationId eventId draws) := by
  refine (h.addDecision _).bind fun _ => ?_
  cases decision with
  | reject => exact (h.moveProposal ..).bind fun _ => h.publish.bind fun _ => within_pure
  | approve =>
    exact (h.moveProposal ..).bind fun _ => within_read.bind fun _ => (h.addGrant _).bind fun _ =>
      h.publish.bind fun _ => within_pure

/-- A Decision says nothing of the tables it does not write. -/
theorem within_decideInSession (hdecisions : ∀ t x, R t { t with decisions := x })
    (hproposals : ∀ t x, R t { t with proposals := x }) (hgrants : ∀ t x, R t { t with grants := x })
    (houtbox : ∀ t x, R t { t with outbox := x }) (hstream : ∀ t x, R t { t with stream := x })
    {p : ProposalRow} {decision : DecisionKind} {actor : ControllerActorRef} {domain : OwnerDomainId}
    {owner : BusinessOwnerId} {reviewed : ManifestRef} {commandId : CommandId}
    {correlationId : CorrelationId} {eventId : EventId} {draws : Draws} :
    Within R (authority.decideInSession p decision actor domain owner reviewed commandId
      correlationId eventId draws) := by
  refine Within.bind (within_add fun t x _ => hdecisions t x) fun _ => ?_
  cases decision with
  | reject =>
    exact Within.bind (within_update fun t => hproposals t _) fun _ =>
      (within_addOutbox houtbox hstream).bind fun _ => within_pure
  | approve =>
    exact Within.bind (within_update fun t => hproposals t _) fun _ => within_read.bind fun _ =>
      Within.bind (within_add fun t x _ => hgrants t x) fun _ =>
      (within_addOutbox houtbox hstream).bind fun _ => within_pure

/-- A relation of all store operations is one of the commands. -/
theorem commands (h : StoreWithin R) : CommandsWithin authority R where
  addProposal := h.addProposal
  decideInSession _ _ _ _ _ _ _ _ _ _ := h.decideInSession
  addGrantAck := h.addGrantAck
  moveProposal := h.moveProposal
  revokeGrant := h.revokeGrant
  deliverGrant := h.deliverGrant
  upsertClaim := h.upsertClaim
  revokeClaimRow := h.revokeClaimRow
  projectActiveClaim := h.projectActiveClaim
  projectRevokedClaim := h.projectRevokedClaim
  saveResult := h.saveResult
  addOutbox := h.addOutbox

end StoreWithin

/-! ### Along the commands -/

namespace CommandsWithin

open AdmissionAuthority StoreWithin

variable {R : Tables → Tables → Prop} {authority : AdmissionAuthority}

/-- The Authority publishes events under their own id, type and revision. -/
theorem publish (h : CommandsWithin authority R) {eventId : EventId} {type : EventType}
    {aggregateId : String} {subject : String} {domain : OwnerDomainId} {revision : Nat}
    {commandId : CommandId} {correlationId : CorrelationId} {now occurredAt : Timestamp}
    {data : EventData} :
    Within R (Admission.addOutbox eventId type aggregateId revision
      (event eventId type subject domain revision commandId correlationId now data) occurredAt) :=
  h.addOutbox aggregateId (event eventId type subject domain revision commandId correlationId now data)
    occurredAt

variable [Std.Refl R] [IsTrans Tables R]

/-- A relation about Decisions and grants: what remains to be shown of it is what it
says of the ways these are written. -/
theorem of_frames (hproposals : ∀ t x, R t { t with proposals := x })
    (hdecide : ∀ p decision actor domain owner reviewed commandId correlationId eventId draws,
      Within R (authority.decideInSession p decision actor domain owner reviewed commandId
        correlationId eventId draws))
    (hrevoke : ∀ grantId now, Within R (Admission.revokeGrant grantId now))
    (hdeliver : ∀ grantId envelope now, Within R (Admission.deliverGrant grantId envelope now))
    (hacks : ∀ t x, R t { t with acks := x }) (hclaims : ∀ t x, R t { t with claims := x })
    (hdevices : ∀ t x, R t { t with devices := x }) (hresults : ∀ t x, R t { t with results := x })
    (houtbox : ∀ t x, R t { t with outbox := x }) (hstream : ∀ t x, R t { t with stream := x }) :
    CommandsWithin authority R where
  addProposal _ := within_add fun t x _ => hproposals t x
  decideInSession := hdecide
  addGrantAck _ := within_add fun t x _ => hacks t x
  moveProposal _ _ _ := within_update fun t => hproposals t _
  revokeGrant := hrevoke
  deliverGrant := hdeliver
  upsertClaim _ := within_upsertClaim hclaims
  revokeClaimRow _ _ := within_update fun t => hclaims t _
  projectActiveClaim _ _ _ _ _ _ := within_projectActiveClaim hdevices
  projectRevokedClaim _ _ := within_update fun t => hdevices t _
  saveResult _ _ _ _ := within_add fun t x _ => hresults t x
  addOutbox _ _ _ := within_addOutbox houtbox hstream

theorem decideEnrollment (h : CommandsWithin authority R) {commandId : CommandId}
    {correlationId : CorrelationId} {enrollmentId : EnrollmentId} {payload : DecideEnrollment}
    {context : ActorContext} {fp : Fingerprint} {draws : Draws} :
    Within R (authority.decideEnrollment commandId correlationId enrollmentId payload context fp
      draws) :=
  StoreWithin.once <| within_read.bind fun _ => within_demand.bind fun _ =>
    within_raiseIf.bind fun _ =>
    within_raiseIf.bind fun _ => within_raiseIf.bind fun _ => within_raiseIf.bind fun _ =>
    within_raiseIf.bind fun _ => (h.decideInSession ..).bind fun _ => (h.saveResult ..).bind fun _ =>
    within_pure

/-- An enrollment that commits has established standing, and written the rest after it. -/
theorem createInSession (h : CommandsWithin authority R) {commandId : CommandId} {correlationId : CorrelationId}
    {payload : CreateEnrollment} {enrolled : VerifiedEnrollment} {fp : Fingerprint} {draws : Draws}
    {t t' : Tables} {r : CommandResult} (hc : Commits (authority.createInSession commandId
      correlationId payload enrolled fp draws) t r t') :
    ∃ t₁, Commits (AdmissionAuthority.establishStanding payload enrolled draws.now) t () t₁ ∧
      R t₁ t' := by
  obtain ⟨_, t₁, hstanding, hrest⟩ := commits_bind.mp hc
  refine ⟨t₁, hstanding, Within.bind (h.addProposal _) (fun _ => (h.saveResult ..).bind fun _ =>
    h.publish.bind fun _ => StoreWithin.standingFor.bind fun found => ?_) hrest⟩
  cases found with
  | none => exact within_pure
  | some decider => exact (h.decideInSession ..).bind fun _ => within_pure

theorem expireDue (h : CommandsWithin authority R) {eventIds : EnrollmentId → EventId} {now : Timestamp} :
    Within R (expireDue eventIds now) := by
  refine within_read.bind fun proposals =>
    Within.bind (within_forEach fun p _ => ?_) fun _ => within_pure
  refine within_raiseIf.bind fun _ => (h.moveProposal ..).bind fun _ => within_read.bind fun found =>
    Within.bind ?_ fun _ => h.publish
  unfold revokeUnlessRevoked
  split
  · split
    · exact h.revokeGrant ..
    · exact within_pure
  · exact within_pure

theorem cancelEnrollment (h : CommandsWithin authority R) {commandId : CommandId}
    {correlationId : CorrelationId} {enrollmentId : EnrollmentId} {reason : String}
    {context : ActorContext} {fp : Fingerprint} {draws : Draws} :
    Within R (cancelEnrollment commandId correlationId enrollmentId reason context fp draws) :=
  StoreWithin.once <| within_read.bind fun _ => within_demand.bind fun _ =>
    within_raiseIf.bind fun _ =>
    within_raiseIf.bind fun _ => (h.moveProposal ..).bind fun _ => (h.saveResult ..).bind fun _ =>
    h.publish.bind fun _ => within_pure

theorem collectClaimGrant (h : CommandsWithin authority R) {commandId : CommandId}
    {correlationId : CorrelationId} {enrollmentId : EnrollmentId} {proposalRevision : Nat}
    {collectionChallenge handoffKeyProof : String} {fp : Fingerprint} {draws : Draws} :
    Within R (authority.collectClaimGrant commandId correlationId enrollmentId proposalRevision
      collectionChallenge handoffKeyProof fp draws) := by
  refine StoreWithin.once (StoreWithin.collectable.bind fun found => ?_)
  obtain ⟨p, g⟩ := found
  simp only
  split
  · exact within_demand.bind fun _ => (h.saveResult ..).bind fun _ => within_pure
  · exact within_lift.bind fun _ => (h.deliverGrant ..).bind fun _ => (h.moveProposal ..).bind fun _ =>
      (h.saveResult ..).bind fun _ => h.publish.bind fun _ => within_pure

theorem ackClaimGrant (h : CommandsWithin authority R) {commandId : CommandId} {correlationId : CorrelationId}
    {enrollmentId : EnrollmentId} {grantId : GrantId} {operationalKeyProof : String}
    {storedClaimGeneration storedTrustEpoch : Nat} {fp : Fingerprint} {draws : Draws} :
    Within R (authority.ackClaimGrant commandId correlationId enrollmentId grantId
      operationalKeyProof storedClaimGeneration storedTrustEpoch fp draws) :=
  StoreWithin.once <| StoreWithin.acknowledgeable.bind fun _ => (h.addGrantAck _).bind fun _ =>
    within_read.bind fun _ =>
    within_demand.bind fun _ => (h.upsertClaim _).bind fun _ =>
    (h.projectActiveClaim ..).bind fun _ => (h.moveProposal ..).bind fun _ =>
    (h.saveResult ..).bind fun _ => h.publish.bind fun _ =>
    within_lift_bind fun activated hvalid => by
      rw [(Sdk.validateClaimEvent_ok.mp hvalid).2]
      exact h.publish.bind fun _ => within_pure

theorem finishRevocation (h : CommandsWithin authority R) {commandId : CommandId}
    {correlationId : CorrelationId} {ref : DeviceRef} {reason : String} {context : ActorContext}
    {fp : Fingerprint} {draws : Draws} {revision : Nat} :
    Within R (authority.finishRevocation commandId correlationId ref reason context fp draws
      revision) :=
  (h.projectRevokedClaim ..).bind fun _ => (h.saveResult ..).bind fun _ =>
    within_lift_bind fun revoked hvalid => by
      rw [(Sdk.validateClaimEvent_ok.mp hvalid).2]
      exact h.publish.bind fun _ => within_pure

theorem revokeClaim (h : CommandsWithin authority R) {commandId : CommandId} {correlationId : CorrelationId}
    {ref : DeviceRef} {reason : String} {context : ActorContext} {fp : Fingerprint}
    {draws : Draws} :
    Within R (authority.revokeClaim commandId correlationId ref reason context fp draws) := by
  refine StoreWithin.once (within_read.bind fun found => ?_)
  cases found with
  | none =>
    refine within_read.bind fun _ => within_demand.bind fun _ => within_read.bind fun _ =>
      within_demand.bind fun _ => within_raiseIf.bind fun _ => Within.bind ?_ fun _ =>
      h.finishRevocation
    exact within_read.bind fun _ => within_demand.bind fun _ => within_raiseIf.bind fun _ =>
      (h.moveProposal ..).bind fun _ => (h.revokeGrant ..).bind fun _ => within_read.bind fun _ =>
      within_demand.bind fun _ => (h.upsertClaim _).bind fun _ => within_pure
  | some claim =>
    refine within_raiseIf.bind fun _ => within_raiseIf.bind fun _ => ?_
    simp only
    split
    · exact (h.saveResult ..).bind fun _ => within_pure
    · refine Within.bind ?_ fun _ => h.finishRevocation
      refine (h.revokeClaimRow ..).bind fun _ => within_read.bind fun found =>
        Within.bind ?_ fun _ => within_pure
      cases found with
      | none => exact within_pure
      | some g => exact h.revokeGrant ..

/-- What every store operation stays within, every call but an enrollment stays within. -/
theorem session (h : CommandsWithin authority R) {cmd : Command} {fp : Fingerprint} {draws : Draws}
    (hcreate : ∀ commandId correlationId payload, cmd ≠ .createEnrollment commandId correlationId
      payload) : Within R (cmd.session authority fp draws) := by
  cases cmd with
  | createEnrollment => exact absurd rfl (hcreate _ _ _)
  | decideEnrollment => exact h.decideEnrollment
  | cancelEnrollment => exact h.cancelEnrollment
  | collectClaimGrant => exact h.collectClaimGrant
  | ackClaimGrant => exact h.ackClaimGrant
  | revokeClaim => exact h.revokeClaim

theorem createEnrollment (h : CommandsWithin authority R)
    (hstanding : ∀ payload enrolled now,
      Within R (AdmissionAuthority.establishStanding payload enrolled now))
    {commandId : CommandId} {correlationId : CorrelationId} {payload : CreateEnrollment}
    {fp : Fingerprint} {draws : Draws} :
    Within R (authority.createEnrollment commandId correlationId payload fp draws) := by
  refine within_lift.bind fun enrolled => StoreWithin.once fun t r t' hc => ?_
  obtain ⟨t₁, hfirst, hrest⟩ := h.createInSession hc
  exact IsTrans.trans _ _ _ (hstanding _ _ _ hfirst) hrest

/-- What every write of the commands stays within, every call stays within. -/
theorem next_command (h : CommandsWithin authority R) (hstanding : ∀ payload enrolled now,
      Within R (AdmissionAuthority.establishStanding payload enrolled now))
    (t : Tables) (cmd : Command) (draws : Draws) : R t (authority.next t (.command cmd draws)) := by
  refine Within.attempt (Within.bind (within_lift.bind fun fp => ?_) fun _ => within_pure)
    Std.Refl.refl t
  by_cases hcreate : ∃ commandId correlationId payload,
      cmd = .createEnrollment commandId correlationId payload
  · obtain ⟨commandId, correlationId, payload, rfl⟩ := hcreate
    exact h.createEnrollment hstanding
  · exact h.session fun _ _ _ heq => hcreate ⟨_, _, _, heq⟩

theorem next_expireDue (h : CommandsWithin authority R) (t : Tables)
    (eventIds : EnrollmentId → EventId) (now : Timestamp) :
    R t (authority.next t (.expireDue eventIds now)) :=
  Within.attempt (h.expireDue.bind fun _ => within_pure) Std.Refl.refl t

/-- What the commands and the standings stay within, every request stays within. -/
theorem next (h : CommandsWithin authority R) (hstanding : ∀ payload enrolled now,
      Within R (AdmissionAuthority.establishStanding payload enrolled now))
    (hrecord : ∀ row, Within R (recordCommissioningStanding row))
    (hwithdraw : ∀ row, Within R (recordControllerWithdrawal row))
    (t : Tables) (request : Request) : R t (authority.next t request) := by
  cases request with
  | command cmd draws => exact h.next_command hstanding t cmd draws
  | expireDue eventIds now => exact h.next_expireDue t eventIds now
  | recordStanding jti keyId context now =>
    exact Within.attempt (within_lift.bind fun _ => (hrecord _).bind fun _ => within_pure)
      Std.Refl.refl t
  | withdrawController principalId context now =>
    exact Within.attempt ((within_lift.bind fun _ => within_raiseIf.bind fun _ =>
      hwithdraw _).bind fun _ => within_pure) Std.Refl.refl t

end CommandsWithin

namespace StoreWithin

open AdmissionAuthority

variable {R : Tables → Tables → Prop} {authority : AdmissionAuthority} [Std.Refl R]
  [IsTrans Tables R]

/-! ### Along the requests -/

theorem createInSession (h : StoreWithin R) {commandId : CommandId} {correlationId : CorrelationId}
    {payload : CreateEnrollment} {enrolled : VerifiedEnrollment} {fp : Fingerprint} {draws : Draws}
    {t t' : Tables} {r : CommandResult} (hc : Commits (authority.createInSession commandId
      correlationId payload enrolled fp draws) t r t') :
    ∃ t₁, Commits (AdmissionAuthority.establishStanding payload enrolled draws.now) t () t₁ ∧
      R t₁ t' :=
  h.commands.createInSession hc

theorem expireDue (h : StoreWithin R) (authority : AdmissionAuthority)
    {eventIds : EnrollmentId → EventId} {now : Timestamp} : Within R (expireDue eventIds now) :=
  (h.commands : CommandsWithin authority R).expireDue

/-- What every store operation stays within, every call but an enrollment stays within. -/
theorem session (h : StoreWithin R) {cmd : Command} {fp : Fingerprint} {draws : Draws}
    (hcreate : ∀ commandId correlationId payload, cmd ≠ .createEnrollment commandId correlationId
      payload) : Within R (cmd.session authority fp draws) :=
  h.commands.session hcreate

theorem createEnrollment (h : StoreWithin R)
    (hstanding : ∀ payload enrolled now,
      Within R (AdmissionAuthority.establishStanding payload enrolled now))
    {commandId : CommandId} {correlationId : CorrelationId} {payload : CreateEnrollment}
    {fp : Fingerprint} {draws : Draws} :
    Within R (authority.createEnrollment commandId correlationId payload fp draws) :=
  h.commands.createEnrollment hstanding

/-- What every store operation stays within, every request but an enrollment stays within. -/
theorem next_of_not_create (h : StoreWithin R) (t : Tables) {request : Request}
    (hcreate : ∀ commandId correlationId payload draws, request ≠
      .command (.createEnrollment commandId correlationId payload) draws) :
    R t (authority.next t request) := by
  refine Within.attempt ?_ Std.Refl.refl t
  cases request with
  | command cmd draws =>
    refine Within.bind (within_lift.bind fun _ => h.session ?_) fun _ => within_pure
    rintro commandId correlationId payload rfl
    exact hcreate _ _ _ _ rfl
  | expireDue eventIds now => exact (h.expireDue authority).bind fun _ => within_pure
  | recordStanding jti keyId context now =>
    exact within_lift.bind fun _ => (h.recordCommissioningStanding _).bind fun _ => within_pure
  | withdrawController principalId context now =>
    exact (within_lift.bind fun _ => within_raiseIf.bind fun _ =>
      h.recordControllerWithdrawal _).bind fun _ => within_pure

/-- **What every store operation stays within, every request stays within.** -/
theorem next (h : StoreWithin R) (hstanding : ∀ payload enrolled now,
      Within R (AdmissionAuthority.establishStanding payload enrolled now))
    (t : Tables) (request : Request) : R t (authority.next t request) :=
  h.commands.next hstanding h.recordCommissioningStanding h.recordControllerWithdrawal t request

end StoreWithin

end EidolonHub.Admission
