import EidolonHub.Devices.Control

/-!
# EidolonHub.Devices.Mutations

**What a change of a device is**: one lemma for the plan of a command, one for the commit.
Everything said about Device Control later is said of `Revises` and `Committed`.
-/

namespace EidolonHub.Devices

open EidolonHub.Library EidolonHub.Library.Tx EidolonHub.Library.Python EidolonHub.Admission

namespace DeviceControl

variable {control : DeviceControl} {draws : ControlDraws} {operation : control.Operation}
  {current : Option control.Device} {device : control.Device} {mutation : control.Mutation}
  {answer : control.Answer} {h h' : Hub} {i : DeviceInstanceId}

/-! ### The plan -/

/-- What a command makes of a device it changes: the new aggregate, the event and the answer. -/
inductive Revises (control : DeviceControl) (draws : ControlDraws) (device : control.Device) :
    control.Operation → control.Mutation → control.Answer → Prop where
  | manifest {assertion : AssertDeviceManifest}
      {manifest : DeviceManifestDocument control.authority.crypto}
      (deviceRef : device.deviceRef = assertion.deviceRef)
      (manifestId : assertion.manifest.manifestId = device.manifestId)
      (declared : DeviceManifestDocument.fromDeclaration control.authority.crypto
        assertion.manifest.document assertion.manifest.revision = .ok manifest)
      (newer : device.manifest.declaredRevision < assertion.manifest.revision) :
      Revises control draws device (.assertManifest assertion)
        ⟨some device, control.withManifest device manifest draws.now,
          control.manifestEvent assertion draws device manifest⟩
        (.accepted ⟨assertion.deviceRef, assertion.nonce, assertion.manifest.ref, .accepted,
          draws.answeredAt⟩)
  | policy {command : control.SetOutputPolicy} {context : ActorContext}
      (deviceRef : device.deviceRef = command.deviceRef)
      (ownerDomainId : context.ownerDomainId = device.ownerDomainId)
      (ownerId : context.businessOwnerId = device.ownerId)
      (lifecycleState : device.lifecycleState = .approved)
      (revision : control.policyRevision device = command.expectedRevision) :
      Revises control draws device (.setOutputPolicy command context)
        ⟨some device, control.withPolicy device (control.nextPolicy command device) draws.now,
          control.policyEvent command context draws device⟩
        (.policy (control.nextPolicy command device))

theorem ownedDevice_ok {deviceRef : DeviceRef} {context : ActorContext} :
    control.ownedDevice deviceRef context current = .ok device ↔ current = some device ∧
      device.lifecycleState = .approved ∧ context.ownerDomainId = device.ownerDomainId ∧
      context.businessOwnerId = device.ownerId ∧ device.deviceRef = deviceRef := by
  unfold ownedDevice
  cases current with
  | none => simp
  | some current =>
    dsimp only
    split_ifs with hstate howner href
    · simp only [Option.some.injEq, false_iff, not_and]
      rintro rfl hstate'
      exact absurd hstate' hstate
    · simp only [Option.some.injEq, false_iff, not_and]
      rintro rfl - hdomain hid
      rcases howner with hne | hne
      · exact absurd hdomain hne
      · exact absurd hid hne
    · simp only [Option.some.injEq, false_iff, not_and]
      rintro rfl - - - href'
      exact href href'
    · simp only [Except.ok.injEq, Option.some.injEq]
      constructor
      · rintro rfl
        exact ⟨rfl, not_not.mp hstate, not_not.mp fun h => howner (.inl h),
          not_not.mp fun h => howner (.inr h), not_not.mp href⟩
      · exact fun h => h.1

theorem writes_ok {revised : control.Device} {event : ManagementEvent} {plan : control.Plan} :
    control.writes device revised event answer = .ok plan ↔
      event.problem = none ∧ plan = .write ⟨some device, revised, event⟩ answer := by
  unfold writes
  cases event.problem <;> simp [eq_comm]

/-- **A plan that changes a device revises the one that was read.** -/
theorem plan_write (hplan : control.plan draws operation current = .ok (.write mutation answer)) :
    ∃ device, current = some device ∧ Revises control draws device operation mutation answer := by
  cases operation with
  | assertManifest assertion =>
    simp only [plan, planAssertion] at hplan
    cases current with
    | none => cases hplan
    | some device =>
      refine ⟨device, rfl, ?_⟩
      by_cases href : device.deviceRef = assertion.deviceRef
      · by_cases hname : assertion.manifest.manifestId = device.manifestId
        · simp only [href, hname, ne_eq, not_true_eq_false, if_false] at hplan
          cases hdeclared : DeviceManifestDocument.fromDeclaration control.authority.crypto
              assertion.manifest.document assertion.manifest.revision with
          | error e => simp [hdeclared] at hplan
          | ok manifest =>
            simp only [hdeclared] at hplan
            split_ifs at hplan with holder hequal hother
            · cases hplan
            · obtain ⟨-, hwrite⟩ := writes_ok.mp hplan
              cases hwrite
              refine .manifest href hname hdeclared ?_
              omega
        · simp [href, hname] at hplan
      · simp [href] at hplan
  | setOutputPolicy command context =>
    simp only [plan, planPolicy] at hplan
    split at hplan
    · cases hplan
    · next device howned =>
      obtain ⟨rfl, hstate, hdomain, howner, href⟩ := ownedDevice_ok.mp howned
      refine ⟨device, rfl, ?_⟩
      split_ifs at hplan with hrevision
      · split at hplan
        · split_ifs at hplan
          cases hplan
        · cases hplan
      · obtain ⟨-, hwrite⟩ := writes_ok.mp hplan
        cases hwrite
        exact .policy href hdomain howner hstate (not_not.mp hrevision)

namespace Revises

variable (hrevises : Revises control draws device operation mutation answer)
include hrevises

theorem expected : mutation.expected = some device := by
  cases hrevises <;> rfl

/-- A revision leaves who the device is, and goes one revision up. -/
theorem same : mutation.device.deviceRef = device.deviceRef ∧
    mutation.device.ownerId = device.ownerId ∧ mutation.device.manifestId = device.manifestId ∧
    mutation.device.lifecycleState = device.lifecycleState ∧
    mutation.device.displayName = device.displayName ∧
    mutation.device.enrolledAt = device.enrolledAt ∧
    mutation.device.aggregateRevision = device.aggregateRevision + 1 := by
  cases hrevises <;> exact ⟨rfl, rfl, rfl, rfl, rfl, rfl, rfl⟩

theorem deviceRef : device.deviceRef = operation.deviceRef := by
  cases hrevises with
  | manifest href => exact href
  | policy href => exact href

theorem deviceId : mutation.device.deviceId = operation.deviceRef.deviceInstanceId :=
  congrArg DeviceRef.deviceInstanceId (hrevises.same.1.trans hrevises.deviceRef)

end Revises

/-! ### The commit -/

theorem getDevice_ok {found : Option control.Device} : control.getDevice h i = .ok found ↔
    (h.device i = none ∧ found = none) ∨ ∃ row device, h.device i = some row ∧ found = some device ∧
      decode control.authority.crypto control.presentation control.authority.ownerDomainId row =
        .ok device := by
  unfold getDevice
  cases h.device i with
  | none => simp [eq_comm]
  | some row =>
    cases hdecode : decode control.authority.crypto control.presentation
        control.authority.ownerDomainId row with
    | error e => simp [Except.map, hdecode]
    | ok device =>
      simp only [Except.map, hdecode, Except.ok.injEq, reduceCtorEq, false_and, false_or,
        Option.some.injEq]
      constructor
      · rintro rfl
        exact ⟨row, device, rfl, rfl, hdecode⟩
      · rintro ⟨_, _, rfl, rfl, hdecode'⟩
        rw [hdecode] at hdecode'
        rw [Except.ok.inj hdecode']

/-- The audit event of a commit is stored once. -/
def Audits (events events' : Table ManagementEventRow) (row : ManagementEventRow) : Prop :=
  events.get (·.eventId) row.eventId = none ∧ events'.rows = events.rows ++ [row] ∨
    row ∈ events ∧ events' = events

/-- The event row a commit writes. -/
def auditRow (mutation : control.Mutation) : ManagementEventRow :=
  eventRow mutation.event
    (if mutation.device.ownerId = "" then "unclaimed" else mutation.device.ownerId)
    (dumps mutation.event.data)

/-- What a commit found and what it left. -/
structure Committed (control : DeviceControl) (mutation : control.Mutation) (h h' : Hub) : Prop where
  expected : control.getDevice h mutation.device.deviceId = .ok mutation.expected
  tables : ∃ devices, h'.tables = { h.tables with devices }
  device : ∀ i, h'.device i =
    if i = mutation.device.deviceId then some mutation.device.values else h.device i
  audits : Audits h.events h'.events (auditRow mutation)

theorem appendEvent_commits {row : ManagementEventRow} {u : Unit} :
    Commits (appendEvent row) h u h' → h'.tables = h.tables ∧ Audits h.events h'.events row := by
  intro hcommit
  simp only [appendEvent, commits_read_bind] at hcommit
  split at hcommit
  · next current hfound =>
    obtain ⟨hsame, rfl⟩ := commits_raiseIf.mp hcommit
    rw [not_not.mp hsame] at hfound
    exact ⟨rfl, .inr ⟨Table.get_mem hfound, rfl⟩⟩
  · next hnone =>
    rw [commits_update?] at hcommit
    obtain ⟨events, hinsert, rfl⟩ := Option.map_eq_some_iff.mp hcommit
    exact ⟨rfl, .inl ⟨hnone, Table.insert?_rows hinsert⟩⟩

theorem upsert_commits {u : Unit} : Commits (control.upsert device) h u h' →
    (∃ devices, h'.tables = { h.tables with devices }) ∧ h'.events = h.events ∧
      ∀ i, h'.device i = if i = device.deviceId then some device.values else h.device i := by
  intro hcommit
  simp only [upsert, commits_read_bind] at hcommit
  split at hcommit
  · rw [commits_update?] at hcommit
    obtain ⟨devices, hinsert, rfl⟩ := Option.map_eq_some_iff.mp hcommit
    exact ⟨⟨devices, rfl⟩, rfl, fun i => Table.get_insert hinsert device_deviceId_isKey⟩
  · next row hrow =>
    rw [commits_update] at hcommit
    subst hcommit
    refine ⟨⟨_, rfl⟩, rfl, fun i => ?_⟩
    refine (Table.get_modify_self (overwrite_keeps _) (overwrite_deviceId _)).trans ?_
    by_cases hi : i = device.deviceId
    · subst hi
      have hid : row.deviceId = device.values.deviceId := Table.get_key hrow
      unfold Hub.device at hrow
      rw [if_pos rfl, if_pos rfl, hrow, Option.map_some, overwrite, if_pos hid]
    · rw [if_neg hi, if_neg hi]
      rfl

/-- The steps of a commit. -/
theorem commit_steps {u : Unit} (hcommit : Commits (control.commit mutation) h u h') :
    mutation.event.subject = mutation.device.deviceId ∧
      dataJson mutation.event = .ok (dumps mutation.event.data) ∧
      control.getDevice h mutation.device.deviceId = .ok mutation.expected ∧
      ∃ h₁ u₁ u₂, Commits (control.upsert mutation.device) h u₁ h₁ ∧
        Commits (appendEvent (auditRow mutation)) h₁ u₂ h' := by
  simp only [commit, commits_raiseIf_bind, commits_lift_bind] at hcommit
  obtain ⟨hsubject, text, hjson, hread⟩ := hcommit
  obtain ⟨actual, h₁, hread, hbody⟩ := commits_bind.mp hread
  obtain ⟨hget, rfl⟩ : control.getDevice h mutation.device.deviceId = .ok actual ∧ h₁ = h := by
    simpa only [readDevice, commits_read_bind, commits_lift] using hread
  obtain ⟨hactual, hwrite⟩ := commits_raiseIf_bind.mp hbody
  obtain ⟨_, h₂, hupsert, happend⟩ := commits_bind.mp hwrite
  have htext : text = dumps mutation.event.data := by
    unfold dataJson at hjson
    split_ifs at hjson
    exact (Except.ok.inj hjson).symm
  subst htext
  exact ⟨not_not.mp hsubject, hjson, by rw [hget, not_not.mp hactual], h₂, _, _, hupsert, happend⟩

/-- **What a commit does**: it found the aggregate it expected, and it left the new one and one
audit event. -/
theorem commit_commits {u : Unit} (hcommit : Commits (control.commit mutation) h u h') :
    Committed control mutation h h' := by
  obtain ⟨-, -, hexpected, h₁, _, _, hupsert, happend⟩ := commit_steps hcommit
  obtain ⟨⟨devices, htables⟩, hevents, hdevice⟩ := upsert_commits hupsert
  obtain ⟨hsame, haudits⟩ := appendEvent_commits happend
  refine ⟨hexpected, ⟨devices, by rw [hsame, htables]⟩, ?_, ?_⟩
  · intro i
    rw [← hdevice i, Hub.device, hsame]
    rfl
  · rw [← hevents]
    exact haudits

end DeviceControl

end EidolonHub.Devices
