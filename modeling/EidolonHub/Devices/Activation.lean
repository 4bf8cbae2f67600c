import EidolonHub.Devices.Mirror

/-!
# EidolonHub.Devices.Activation

**What an activation makes of a directory row.** An acknowledgement takes the Manifest of a
device from its Proposal and its generation from the grant. It leaves the column of the output
policy, which is Device Control's to write and stays legible under either writer.
-/

namespace EidolonHub.Devices

open EidolonHub.Library EidolonHub.Library.Tx EidolonHub.Admission

namespace DeviceControl

/-! ### What an acknowledgement writes -/

section Acknowledging

variable {authority : AdmissionAuthority} {t t' : Tables} {commandId : CommandId}
  {correlationId : CorrelationId} {enrollmentId : EnrollmentId} {grantId : GrantId}
  {operationalKeyProof : String} {storedClaimGeneration storedTrustEpoch : Nat} {draws : Draws}
  {result : CommandResult} {i : DeviceInstanceId}

/-- The columns of a row that an activation takes from the Proposal and the grant, and the two it
takes from the row it found. -/
structure ActivatedFrom (p : ProposalRow) (g : GrantRow) (now : Timestamp) (found : Option DeviceRow)
    (row : DeviceRow) : Prop where
  manifestId : row.manifestId = p.manifestId
  manifestJson : row.manifestJson = p.manifestJson
  manifestRevision : row.manifestRevision = p.manifestDigest
  manifestDeclaredRevision : row.manifestDeclaredRevision = p.manifestRevision
  updatedAt : row.updatedAt = now
  ownerDomainGeneration : row.ownerDomainGeneration = g.deviceRef.ownerDomainGeneration
  claimGeneration : row.claimGeneration = g.deviceRef.claimGeneration
  trustEpoch : row.trustEpoch = g.deviceRef.trustEpoch
  outputPolicyJson : row.outputPolicyJson = found.bind (·.outputPolicyJson)
  aggregateRevision : 0 < row.aggregateRevision

theorem acknowledgedDevice_from {s : Registry} {p : ProposalRow} {g : GrantRow} {d : DecisionRow}
    {n : String} {t : Timestamp} :
    ActivatedFrom p g t (s.device g.deviceRef.deviceInstanceId) (acknowledgedDevice s p g d n t) := by
  unfold acknowledgedDevice
  cases s.device g.deviceRef.deviceInstanceId with
  | none => exact ⟨rfl, rfl, rfl, rfl, rfl, rfl, rfl, rfl, rfl, Nat.one_pos⟩
  | some row => exact ⟨rfl, rfl, rfl, rfl, rfl, rfl, rfl, rfl, rfl, Nat.succ_pos _⟩

/-- An acknowledgement that is not a replay activates the device of its grant. -/
theorem ack_activates {g : GrantRow}
    (hack : Commits (Command.transaction authority (.ackClaimGrant commandId correlationId enrollmentId
      grantId operationalKeyProof storedClaimGeneration storedTrustEpoch) draws) t result t')
    (hnew : result.outcome = .committed) (hg : g ∈ t.grants) (hid : g.grantId = grantId) :
    ∃ p row, t.proposals.get (·.enrollmentId) enrollmentId = some p ∧
      t'.devices.get (·.deviceId) g.deviceRef.deviceInstanceId = some row ∧
      ActivatedFrom p g draws.now (t.devices.get (·.deviceId) g.deviceRef.deviceInstanceId) row := by
  obtain ⟨fp, -, hsession⟩ := commits_lift_bind.mp hack
  rcases AdmissionAuthority.ackClaimGrant_follows hsession with ⟨-, hreplayed⟩ |
    ⟨-, p, g', d, name, published, hp, hg', ⟨⟨hproposal, -, hgrant, -⟩, -⟩, hrun⟩
  · rw [hnew] at hreplayed
    cases hreplayed
  · obtain rfl : g' = g :=
      Table.eq_of_key grant_grantId_isKey (Tables.hasGrant_iff.mp hgrant) hg (hg'.trans hid.symm)
    refine ⟨p, acknowledgedDevice t.registry p g' d name draws.now, hp ▸ hproposal, ?_,
      acknowledgedDevice_from (s := t.registry)⟩
    have hdevice := congrArg (fun s => s.device g'.deviceRef.deviceInstanceId) hrun
    change t'.devices.get (·.deviceId) _ = _ at hdevice
    simpa [Registry.apply] using hdevice

end Acknowledging

/-! ### The policy column -/

section Policies

variable {control : DeviceControl} {h : Hub} {i : DeviceInstanceId} {row : DeviceRow}

/-- The policy column of a row holds nothing, or what a policy was written as. -/
def Legible (control : DeviceControl) (row : DeviceRow) : Prop :=
  (decodePolicy control.presentation row.outputPolicyJson).isSome

/-- No move of Admission writes the policy column. -/
theorem policy_apply {s : Registry} {m : Move} (hrow : (s.apply m).device i = some row) :
    row.outputPolicyJson = none ∨
      ∃ found, s.device i = some found ∧ row.outputPolicyJson = found.outputPolicyJson := by
  rcases device_apply s m i with hsame | ⟨found, ref, now, hfound, hnext⟩ |
    ⟨p, g, d, a, name, published, now, -, rfl, hnext⟩
  · exact .inr ⟨row, hsame ▸ hrow, rfl⟩
  · rw [hnext] at hrow
    cases hrow
    refine .inr ⟨found, hfound, ?_⟩
    unfold DeviceRow.revoke
    split <;> rfl
  · rw [hnext] at hrow
    cases hrow
    rw [acknowledgedDevice_from.outputPolicyJson]
    cases s.device g.deviceRef.deviceInstanceId with
    | none => exact .inl rfl
    | some found => exact .inr ⟨found, rfl, rfl⟩

theorem reachable_legible (hreach : control.Reachable h) (hrow : h.device i = some row) :
    control.Legible row := by
  refine Reaches.inv (I := fun h : Hub => ∀ i row, h.device i = some row → control.Legible row) hreach
    ?_ ?_ i row hrow
  · intro h request hlegible
    cases request with
    | admission request =>
      obtain ⟨moves, -, hfollows⟩ := AdmissionAuthority.next_makes control.authority h.tables request
      refine hfollows.inv (I := fun s => ∀ i row, s.device i = some row → control.Legible row) ?_ hlegible
      intro s m hall _ i row hrow
      rcases policy_apply hrow with hnone | ⟨found, hfound, hsame⟩
      · rw [Legible, hnone]
        rfl
      · rw [Legible, hsame]
        exact hall i found hfound
    | device operation draws =>
      intro i row hrow
      rcases execute_cases operation draws h with hsame |
        ⟨device, mutation, answer, -, hrevises, hcommitted⟩
      · rw [next, hsame] at hrow
        exact hlegible i row hrow
      · rw [next, hcommitted.device i] at hrow
        by_cases hi : i = mutation.device.deviceId
        · rw [if_pos hi] at hrow
          cases hrow
          have hdecoded : decode control.authority.crypto control.presentation
              mutation.device.ownerDomainId mutation.device.values = .ok mutation.device := decode_values
          rw [Legible, (decode_ok.mp hdecoded).2.2]
          rfl
        · rw [if_neg hi] at hrow
          exact hlegible i row hrow
  · intro i row hrow
    cases hrow

end Policies

end DeviceControl

end EidolonHub.Devices
