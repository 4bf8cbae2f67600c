import EidolonHub.Admission.Commands

/-!
# EidolonHub.Admission.Oblivious

**Admission does not read what Device Control writes.** A device row holds what Admission says
of the Claim, and beside it the Manifest and the output policy that Device Control keeps. Two
databases that differ in the second part only (`Tables.Alike`) answer every request of
Admission alike and stay alike.
-/

namespace EidolonHub.Admission

open EidolonHub.Library EidolonHub.Library.Tx

/-- What Admission says of a device. -/
def DeviceRow.claimed (row : DeviceRow) : DeviceRow :=
  { row with
    manifestJson := ""
    manifestRevision := ""
    manifestDeclaredRevision := 0
    outputPolicyJson := none
    updatedAt := 0
    aggregateRevision := 0 }

/-- Two directories say the same of every Claim. -/
def SameClaims (devices devices' : Table DeviceRow) : Prop :=
  ∀ i, (devices.get (·.deviceId) i).map DeviceRow.claimed =
    (devices'.get (·.deviceId) i).map DeviceRow.claimed

/-- Two databases that differ in what Device Control writes only. -/
def Tables.Alike (t t' : Tables) : Prop :=
  ∃ (t₀ : Tables) (devices devices' : Table DeviceRow), t = { t₀ with devices := devices } ∧
    t' = { t₀ with devices := devices' } ∧ SameClaims devices devices'

theorem Tables.Alike.refl (t : Tables) : t.Alike t := ⟨t, t.devices, t.devices, rfl, rfl, fun _ => rfl⟩

theorem Tables.Alike.symm {t t' : Tables} (h : t.Alike t') : t'.Alike t := by
  obtain ⟨t₀, devices, devices', ht, ht', hsame⟩ := h
  exact ⟨t₀, devices', devices, ht', ht, fun i => (hsame i).symm⟩

theorem Tables.Alike.trans {t t' t'' : Tables} (h : t.Alike t') (h' : t'.Alike t'') : t.Alike t'' := by
  obtain ⟨t₀, devices, devices', rfl, rfl, hsame⟩ := h
  obtain ⟨t₁, devices₁, devices₁', heq, rfl, hsame'⟩ := h'
  refine ⟨t₁, devices, devices₁', ?_, rfl, ?_⟩
  · exact congrArg (fun t : Tables => { t with devices := devices }) heq
  · intro i
    have hdevices : devices' = devices₁ := congrArg Tables.devices heq
    rw [hsame i, hdevices]
    exact hsame' i

namespace Oblivious

open AdmissionAuthority

/-! ### Primitive steps -/

/-- Reading any other table. -/
theorem read {α : Type} {g : Tables → α} (hg : ∀ t x, g { t with devices := x } = g t) :
    Alike Tables.Alike (Tx.read g : Session α) := by
  apply alike_read
  rintro _ _ ⟨t₀, devices, devices', rfl, rfl, -⟩
  exact (hg ..).trans (hg ..).symm

/-- Rewriting any other table. -/
theorem update {g : Tables → Tables} (hg : ∀ t x, g { t with devices := x } = { g t with devices := x }) :
    Alike Tables.Alike (Tx.update g : Session Unit) := by
  apply alike_update
  rintro _ _ ⟨t₀, devices, devices', rfl, rfl, hsame⟩
  exact ⟨g t₀, devices, devices', hg .., hg .., hsame⟩

/-- Adding a row to any other table. -/
theorem add {ρ : Type} [Keyed ρ] {table : Tables → Table ρ} {put : Tables → Table ρ → Tables} {row : ρ}
    (htable : ∀ t x, table { t with devices := x } = table t)
    (hput : ∀ t x y, put { t with devices := x } y = { put t y with devices := x }) :
    Alike Tables.Alike (Session.add table put row) := by
  apply alike_update?
  rintro _ _ ⟨t₀, devices, devices', rfl, rfl, hsame⟩
  show Option.Rel _ (((table _).insert? row).map _) (((table _).insert? row).map _)
  rw [htable t₀ devices, htable t₀ devices']
  cases (table t₀).insert? row with
  | none => exact .none
  | some y => exact .some ⟨put t₀ y, devices, devices', hput .., hput .., hsame⟩

/-! ### The directory rows -/

theorem sameClaims_insert {devices devices' : Table DeviceRow} {row : DeviceRow}
    (hsame : SameClaims devices devices') :
    Option.Rel SameClaims (devices.insert? row) (devices'.insert? row) := by
  have hnone : ∀ {x y : Table DeviceRow}, SameClaims x y → x.insert? row = none → y.insert? row = none := by
    intro x y hxy hx
    by_contra hy
    obtain ⟨y', hy'⟩ := Option.ne_none_iff_exists'.mp hy
    have hget := hxy row.deviceId
    rw [Table.fresh_of_insert hy' device_deviceId_isKey, Option.map_none, Option.map_eq_none_iff,
      Table.get_eq_none_iff] at hget
    obtain ⟨x', hx'⟩ := Table.insert?_isSome (t := x) (r := row) fun s hs => by
      simpa [Keyed.clash] using hget s hs
    rw [hx] at hx'
    cases hx'
  cases hinsert : devices.insert? row with
  | none =>
    rw [hnone hsame hinsert]
    exact .none
  | some x =>
    cases hinsert' : devices'.insert? row with
    | none =>
      rw [hnone (fun i => (hsame i).symm) hinsert'] at hinsert
      cases hinsert
    | some y =>
      refine .some ?_
      intro i
      rw [Table.get_insert hinsert device_deviceId_isKey, Table.get_insert hinsert' device_deviceId_isKey]
      split
      · rfl
      · exact hsame i

/-- A rewrite that treats alike rows alike. -/
theorem sameClaims_modify {devices devices' : Table DeviceRow} {i : DeviceInstanceId}
    {f : DeviceRow → DeviceRow} {hf : Table.Keeps f} (hid : ∀ r, (f r).deviceId = r.deviceId)
    (hclaimed : ∀ r r', r.claimed = r'.claimed → (f r).claimed = (f r').claimed)
    (hsame : SameClaims devices devices') :
    SameClaims (devices.modify (·.deviceId) i f hf) (devices'.modify (·.deviceId) i f hf) := by
  intro j
  rw [Table.get_modify_self hf hid, Table.get_modify_self hf hid]
  split
  · have hj := hsame j
    cases hrow : devices.get (·.deviceId) j with
    | none =>
      rw [hrow] at hj
      rw [Option.map_eq_none_iff.mp hj.symm]
    | some row =>
      rw [hrow] at hj
      obtain ⟨row', hrow', heq⟩ := Option.map_eq_some_iff.mp hj.symm
      rw [hrow']
      exact congrArg some (hclaimed row row' heq.symm)
  · exact hsame j

theorem insertDevice {row : DeviceRow} :
    Alike Tables.Alike (Session.add (·.devices) (fun t devices => { t with devices }) row) := by
  apply alike_update?
  rintro _ _ ⟨t₀, devices, devices', rfl, rfl, hsame⟩
  show Option.Rel _ ((devices.insert? row).map _) ((devices'.insert? row).map _)
  have hrel : Option.Rel SameClaims (devices.insert? row) (devices'.insert? row) :=
    sameClaims_insert hsame
  generalize devices.insert? row = x at *
  generalize devices'.insert? row = y at *
  cases hrel with
  | none => exact .none
  | some hxy => exact .some ⟨t₀, _, _, rfl, rfl, hxy⟩

theorem modifyDevice {i : DeviceInstanceId} {f : DeviceRow → DeviceRow} {hf : Table.Keeps f}
    (hid : ∀ r, (f r).deviceId = r.deviceId)
    (hclaimed : ∀ r r', r.claimed = r'.claimed → (f r).claimed = (f r').claimed) :
    Alike Tables.Alike (Tx.update fun t => { t with
      devices := t.devices.modify (·.deviceId) i f hf } : Session Unit) := by
  apply alike_update
  rintro _ _ ⟨t₀, devices, devices', rfl, rfl, hsame⟩
  exact ⟨t₀, _, _, rfl, rfl, sameClaims_modify hid hclaimed hsame⟩

theorem activated_claimed {deviceRef : DeviceRef} {businessOwnerId : BusinessOwnerId}
    {manifest : ManifestRef} {manifestJson : String} {now : Timestamp} {r r' : DeviceRow}
    (h : r.claimed = r'.claimed) :
    (r.activated deviceRef businessOwnerId manifest manifestJson now).claimed =
      (r'.activated deviceRef businessOwnerId manifest manifestJson now).claimed := by
  cases r
  cases r'
  simp only [DeviceRow.claimed, DeviceRow.mk.injEq] at h
  simp [DeviceRow.claimed, DeviceRow.activated, h]

theorem revoke_claimed {deviceRef : DeviceRef} {now : Timestamp} {r r' : DeviceRow}
    (h : r.claimed = r'.claimed) :
    (r.revoke deviceRef now).claimed = (r'.revoke deviceRef now).claimed := by
  have hmatches : r.matches deviceRef ↔ r'.matches deviceRef := by
    have hgeneration := congrArg DeviceRow.ownerDomainGeneration h
    have hclaim := congrArg DeviceRow.claimGeneration h
    have hepoch := congrArg DeviceRow.trustEpoch h
    simp only [DeviceRow.claimed] at hgeneration hclaim hepoch
    rw [DeviceRow.matches, DeviceRow.matches, hgeneration, hclaim, hepoch]
  unfold DeviceRow.revoke
  by_cases hm : r.matches deviceRef
  · rw [if_pos hm, if_pos (hmatches.mp hm)]
    exact congrArg (fun row : DeviceRow => { row with lifecycleState := .revoked }) h
  · rw [if_neg hm, if_neg fun hm' => hm (hmatches.mpr hm')]
    exact h

theorem projectActiveClaim {crypto : Crypto} {deviceRef : DeviceRef} {owner : BusinessOwnerId}
    {manifest : ManifestRef} {manifestJson : String} {now : Timestamp} :
    Alike Tables.Alike
      (Admission.projectActiveClaim crypto deviceRef owner manifest manifestJson now) := by
  refine alike_demand.bind fun document => alike_raiseIf.bind fun _ => alike_read_bind ?_ fun found => ?_
  · -- which of the two ways is taken, both databases agree on
    rintro _ _ ⟨t₀, devices, devices', rfl, rfl, hsame⟩
    have hrow := hsame deviceRef.deviceInstanceId
    dsimp only
    cases hfound : devices.get (·.deviceId) deviceRef.deviceInstanceId with
    | none =>
      rw [hfound] at hrow
      rw [Option.map_eq_none_iff.mp hrow.symm]
    | some row =>
      rw [hfound] at hrow
      obtain ⟨row', hrow', -⟩ := Option.map_eq_some_iff.mp hrow.symm
      rw [hrow']
  · cases found with
    | none => exact insertDevice
    | some row => exact modifyDevice (fun _ => rfl) fun _ _ => activated_claimed

theorem projectRevokedClaim {deviceRef : DeviceRef} {now : Timestamp} :
    Alike Tables.Alike (Admission.projectRevokedClaim deviceRef now) := by
  refine modifyDevice (fun r => ?_) fun _ _ => revoke_claimed
  unfold DeviceRow.revoke
  split <;> rfl

/-! ### The other operations of the store -/

theorem moveProposal {enrollmentId : EnrollmentId} {target : ProposalState} {now : Timestamp} :
    Alike Tables.Alike (Admission.moveProposal enrollmentId target now) :=
  update fun _ _ => rfl

theorem revokeGrant {grantId : GrantId} {now : Timestamp} :
    Alike Tables.Alike (Admission.revokeGrant grantId now) :=
  update fun _ _ => rfl

theorem upsertClaim {values : ClaimRow} : Alike Tables.Alike (Admission.upsertClaim values) := by
  refine (read fun _ _ => rfl).bind fun found => ?_
  cases found with
  | none => exact (add (fun _ _ => rfl) fun _ _ _ => rfl).bind fun _ => alike_pure
  | some existing => exact (update fun _ _ => rfl).bind fun _ => alike_pure

theorem saveResult {key : CommandKey} {fp : Fingerprint} {result : CommandResult}
    {occurredAt : Timestamp} : Alike Tables.Alike (Admission.saveResult key fp result occurredAt) :=
  add (fun _ _ => rfl) fun _ _ _ => rfl

theorem addOutbox {eventId : EventId} {type : EventType} {aggregateId : String} {revision : Nat}
    {event : Event} {occurredAt : Timestamp} :
    Alike Tables.Alike (Admission.addOutbox eventId type aggregateId revision event occurredAt) := by
  refine (add (fun _ _ => rfl) fun _ _ _ => rfl).bind fun _ => ?_
  split
  · exact (read fun _ _ => rfl).bind fun _ => add (fun _ _ => rfl) fun _ _ _ => rfl
  · exact alike_pure

/-! ### Along the commands -/

theorem once {key : CommandKey} {fp : Fingerprint} {body : Session CommandResult}
    (hbody : Alike Tables.Alike body) : Alike Tables.Alike (once key fp body) := by
  refine Alike.bind ?_ fun found => ?_
  · refine (read fun _ _ => rfl).bind fun row => ?_
    cases row with
    | none => exact alike_pure
    | some row => exact alike_raiseIf.bind fun _ => alike_pure
  · cases found with
    | some replay => exact alike_pure
    | none => exact hbody

theorem establishStanding {payload : CreateEnrollment} {enrolled : VerifiedEnrollment}
    {now : Timestamp} :
    Alike Tables.Alike (AdmissionAuthority.establishStanding payload enrolled now) := by
  unfold AdmissionAuthority.establishStanding
  simp only
  split
  · refine alike_lift.bind fun _ => Alike.bind ?_ fun _ => ?_
    · exact (read fun _ _ => rfl).bind fun _ => alike_raiseIf.bind fun _ =>
        add (fun _ _ => rfl) fun _ _ _ => rfl
    · refine (read fun _ _ => rfl).bind fun found => ?_
      cases found with
      | some existing => exact alike_raiseIf
      | none =>
        exact (read fun _ _ => rfl).bind fun _ => alike_raiseIf.bind fun _ =>
          add (fun _ _ => rfl) fun _ _ _ => rfl
  · exact (read fun _ _ => rfl).bind fun _ => alike_demand.bind fun _ => alike_raiseIf.bind fun _ =>
      (read fun _ _ => rfl).bind fun _ => alike_raiseIf

variable {authority : AdmissionAuthority} {commandId : CommandId} {correlationId : CorrelationId}
  {enrollmentId : EnrollmentId} {fp : Fingerprint} {draws : Draws} {context : ActorContext}

theorem standingFor {verified : VerifiedCommissioning} {domain : OwnerDomainId} {keyId : KeyId} :
    Alike Tables.Alike (authority.standingFor verified domain keyId) := by
  unfold AdmissionAuthority.standingFor
  split
  · exact alike_pure
  refine Alike.bind ?_ fun found => ?_
  · unfold recordedStanding
    split <;> exact read fun _ _ => rfl
  cases found with
  | none => exact alike_pure
  | some row =>
    simp only
    split
    · exact alike_pure
    · refine ((read fun _ _ => rfl).bind fun _ => alike_pure).bind fun withdrawnAt => ?_
      cases withdrawnAt with
      | none => exact alike_pure
      | some withdrawnAt =>
        simp only
        split <;> exact alike_pure

theorem decideInSession {p : ProposalRow} {decision : DecisionKind} {actor : ControllerActorRef}
    {domain : OwnerDomainId} {owner : BusinessOwnerId} {reviewed : ManifestRef} {eventId : EventId} :
    Alike Tables.Alike (authority.decideInSession p decision actor domain owner reviewed commandId
      correlationId eventId draws) := by
  refine Alike.bind (add (fun _ _ => rfl) fun _ _ _ => rfl) fun _ => ?_
  cases decision with
  | reject => exact moveProposal.bind fun _ => addOutbox.bind fun _ => alike_pure
  | approve =>
    exact moveProposal.bind fun _ => (read fun _ _ => rfl).bind fun _ =>
      Alike.bind (add (fun _ _ => rfl) fun _ _ _ => rfl) fun _ => addOutbox.bind fun _ => alike_pure

theorem createEnrollment {payload : CreateEnrollment} :
    Alike Tables.Alike (authority.createEnrollment commandId correlationId payload fp draws) := by
  refine alike_lift.bind fun enrolled => once (establishStanding.bind fun _ =>
    Alike.bind (add (fun _ _ => rfl) fun _ _ _ => rfl) fun _ => saveResult.bind fun _ =>
    addOutbox.bind fun _ => standingFor.bind fun found => ?_)
  cases found with
  | none => exact alike_pure
  | some decider => exact decideInSession.bind fun _ => alike_pure

theorem decideEnrollment {payload : DecideEnrollment} :
    Alike Tables.Alike (authority.decideEnrollment commandId correlationId enrollmentId payload context
      fp draws) :=
  once <| (read fun _ _ => rfl).bind fun _ => alike_demand.bind fun _ => alike_raiseIf.bind fun _ =>
    alike_raiseIf.bind fun _ => alike_raiseIf.bind fun _ => alike_raiseIf.bind fun _ =>
    alike_raiseIf.bind fun _ => decideInSession.bind fun _ => saveResult.bind fun _ => alike_pure

theorem expireDue {eventIds : EnrollmentId → EventId} {now : Timestamp} :
    Alike Tables.Alike (expireDue eventIds now) := by
  refine (read fun _ _ => rfl).bind fun proposals =>
    Alike.bind (alike_forEach fun p _ => ?_) fun _ => alike_pure
  refine alike_raiseIf.bind fun _ => moveProposal.bind fun _ => (read fun _ _ => rfl).bind fun found =>
    Alike.bind ?_ fun _ => addOutbox
  unfold revokeUnlessRevoked
  split
  · split
    · exact revokeGrant
    · exact alike_pure
  · exact alike_pure

theorem cancelEnrollment {reason : String} :
    Alike Tables.Alike (cancelEnrollment commandId correlationId enrollmentId reason context fp draws) :=
  once <| (read fun _ _ => rfl).bind fun _ => alike_demand.bind fun _ => alike_raiseIf.bind fun _ =>
    alike_raiseIf.bind fun _ => moveProposal.bind fun _ => saveResult.bind fun _ =>
    addOutbox.bind fun _ => alike_pure

theorem collectable {proposalRevision : Nat} {collectionChallenge handoffKeyProof : String}
    {now : Timestamp} :
    Alike Tables.Alike (authority.collectable enrollmentId proposalRevision collectionChallenge
      handoffKeyProof now) :=
  (read fun _ _ => rfl).bind fun _ => alike_demand.bind fun _ => alike_raiseIf.bind fun _ =>
    alike_raiseIf.bind fun _ => alike_raiseIf.bind fun _ => alike_raiseIf.bind fun _ =>
    (read fun _ _ => rfl).bind fun _ => alike_raiseIf.bind fun _ => alike_raiseIf.bind fun _ =>
    (read fun _ _ => rfl).bind fun _ => alike_demand.bind fun _ => alike_raiseIf.bind fun _ =>
    alike_raiseIf.bind fun _ => alike_raiseIf.bind fun _ => alike_raiseIf.bind fun _ =>
    alike_demand.bind fun _ => alike_raiseIf.bind fun _ => alike_pure

theorem collectClaimGrant {proposalRevision : Nat} {collectionChallenge handoffKeyProof : String} :
    Alike Tables.Alike (authority.collectClaimGrant commandId correlationId enrollmentId
      proposalRevision collectionChallenge handoffKeyProof fp draws) := by
  refine once (collectable.bind fun found => ?_)
  obtain ⟨p, g⟩ := found
  simp only
  split
  · exact alike_demand.bind fun _ => saveResult.bind fun _ => alike_pure
  · exact alike_lift.bind fun _ => Alike.bind (update fun _ _ => rfl) fun _ => moveProposal.bind fun _ =>
      saveResult.bind fun _ => addOutbox.bind fun _ => alike_pure

theorem acknowledgeable {grantId : GrantId} {operationalKeyProof : String}
    {storedClaimGeneration storedTrustEpoch : Nat} {now : Timestamp} :
    Alike Tables.Alike (authority.acknowledgeable enrollmentId grantId operationalKeyProof
      storedClaimGeneration storedTrustEpoch now) :=
  (read fun _ _ => rfl).bind fun _ => (read fun _ _ => rfl).bind fun _ => alike_demand.bind fun _ =>
    alike_demand.bind fun _ => alike_raiseIf.bind fun _ => alike_raiseIf.bind fun _ =>
    alike_raiseIf.bind fun _ => alike_raiseIf.bind fun _ => alike_raiseIf.bind fun _ =>
    alike_raiseIf.bind fun _ => alike_pure

theorem ackClaimGrant {grantId : GrantId} {operationalKeyProof : String}
    {storedClaimGeneration storedTrustEpoch : Nat} :
    Alike Tables.Alike (authority.ackClaimGrant commandId correlationId enrollmentId grantId
      operationalKeyProof storedClaimGeneration storedTrustEpoch fp draws) :=
  once <| acknowledgeable.bind fun _ => Alike.bind (add (fun _ _ => rfl) fun _ _ _ => rfl) fun _ =>
    (read fun _ _ => rfl).bind fun _ => alike_demand.bind fun _ => upsertClaim.bind fun _ =>
    projectActiveClaim.bind fun _ => moveProposal.bind fun _ => saveResult.bind fun _ =>
    addOutbox.bind fun _ => alike_lift.bind fun _ => addOutbox.bind fun _ => alike_pure

theorem finishRevocation {ref : DeviceRef} {reason : String} {revision : Nat} :
    Alike Tables.Alike (authority.finishRevocation commandId correlationId ref reason context fp draws
      revision) :=
  projectRevokedClaim.bind fun _ => saveResult.bind fun _ => alike_lift.bind fun _ =>
    addOutbox.bind fun _ => alike_pure

theorem revokeClaim {ref : DeviceRef} {reason : String} :
    Alike Tables.Alike (authority.revokeClaim commandId correlationId ref reason context fp draws) := by
  refine once ((read fun _ _ => rfl).bind fun found => ?_)
  cases found with
  | none =>
    refine (read fun _ _ => rfl).bind fun _ => alike_demand.bind fun _ => (read fun _ _ => rfl).bind
      fun _ => alike_demand.bind fun _ => alike_raiseIf.bind fun _ => Alike.bind ?_ fun _ =>
      finishRevocation
    exact (read fun _ _ => rfl).bind fun _ => alike_demand.bind fun _ => alike_raiseIf.bind fun _ =>
      moveProposal.bind fun _ => revokeGrant.bind fun _ => (read fun _ _ => rfl).bind fun _ =>
      alike_demand.bind fun _ => upsertClaim.bind fun _ => alike_pure
  | some claim =>
    refine alike_raiseIf.bind fun _ => alike_raiseIf.bind fun _ => ?_
    simp only
    split
    · exact saveResult.bind fun _ => alike_pure
    · refine Alike.bind ?_ fun _ => finishRevocation
      refine Alike.bind (update fun _ _ => rfl) fun _ => (read fun _ _ => rfl).bind fun found =>
        Alike.bind ?_ fun _ => alike_pure
      cases found with
      | none => exact alike_pure
      | some g => exact revokeGrant

theorem session {cmd : Command} : Alike Tables.Alike (cmd.session authority fp draws) := by
  cases cmd with
  | createEnrollment => exact createEnrollment
  | decideEnrollment => exact decideEnrollment
  | cancelEnrollment => exact cancelEnrollment
  | collectClaimGrant => exact collectClaimGrant
  | ackClaimGrant => exact ackClaimGrant
  | revokeClaim => exact revokeClaim

theorem command {cmd : Command} : Alike Tables.Alike (cmd.transaction authority draws) :=
  alike_lift.bind fun _ => session

theorem request {request : Request} : Alike Tables.Alike (request.transaction authority) := by
  cases request with
  | command cmd draws => exact command.bind fun _ => alike_pure
  | expireDue eventIds now => exact expireDue.bind fun _ => alike_pure
  | recordStanding jti keyId context now =>
    refine alike_lift.bind fun _ => Alike.bind ?_ fun _ => alike_pure
    refine (read fun _ _ => rfl).bind fun found => ?_
    cases found with
    | none => exact (add (fun _ _ => rfl) fun _ _ _ => rfl).bind fun _ => alike_pure
    | some existing => exact alike_raiseIf.bind fun _ => alike_pure
  | withdrawController principalId context now =>
    refine Alike.bind (alike_lift.bind fun _ => alike_raiseIf.bind fun _ => ?_) fun _ => alike_pure
    refine Alike.bind (read (g := fun t : Tables => t.withdrawals.get
      (fun w => (w.ownerDomainId, w.principalId)) (context.ownerDomainId, principalId))
      fun _ _ => rfl) fun found => ?_
    cases found with
    | none => exact (add (fun _ _ => rfl) fun _ _ _ => rfl).bind fun _ => alike_pure
    | some existing =>
      simp only
      split
      · exact (update fun _ _ => rfl).bind fun _ => alike_pure
      · exact alike_pure

end Oblivious

/-- **Admission cannot tell alike databases apart.** -/
theorem AdmissionAuthority.next_alike {authority : AdmissionAuthority} {t t' : Tables}
    {request : Request} (h : t.Alike t') :
    (authority.next t request).Alike (authority.next t' request) :=
  Oblivious.request.attempt h

end EidolonHub.Admission
