import EidolonHub.Admission.Invariants
import EidolonHub.Devices.Mutations

/-!
# EidolonHub.Devices.Mirror

**The device registry mirrors the Claim table.** A directory row is written whole by two
subsystems: by Admission when a Claim is activated or revoked, by Device Control from
the aggregate it read. The second keeps what the first says of the Claim
(`Revises.same`), so the registry stays sound under either, and each of them takes the
row to a higher revision.
-/

namespace EidolonHub.Devices

open EidolonHub.Library EidolonHub.Library.Tx EidolonHub.Admission

/-! ### Requests to the Hub -/

/-- A request of the Admission, or one of device control. -/
inductive HubRequest (control : DeviceControl) where
  | admission (request : Request)
  | device (operation : control.Operation) (draws : DeviceControl.ControlDraws)

namespace DeviceControl

variable (control : DeviceControl)

/-- The database after a request. -/
def next (h : Hub) : HubRequest control → Hub
  | .admission request => { h with tables := control.authority.next h.tables request }
  | .device operation draws => (control.execute operation draws h).2

/-- Some sequence of requests to a fresh Hub leads to this database. -/
def Reachable (h : Hub) : Prop := Reaches control.next .empty h

variable {control} {h h' : Hub} {operation : control.Operation} {draws : ControlDraws}
  {mutation : control.Mutation} {answer : control.Answer} {i : DeviceInstanceId}

/-- A command changes one device, or nothing. -/
theorem execute_cases (operation : control.Operation) (draws : ControlDraws) (h : Hub) :
    (control.execute operation draws h).2 = h ∨ ∃ device mutation answer,
      control.getDevice h operation.deviceRef.deviceInstanceId = .ok (some device) ∧
      Revises control draws device operation mutation answer ∧
      Committed control mutation h (control.execute operation draws h).2 := by
  unfold execute
  split
  · exact .inl rfl
  · split
    · exact .inl rfl
    · next current hread =>
      split
      · exact .inl rfl
      · exact .inl rfl
      · next mutation answer hplan =>
        split
        · exact .inl rfl
        · next u h' hcommit =>
          right
          obtain ⟨device, rfl, hrevises⟩ := plan_write hplan
          exact ⟨device, mutation, answer, hread, hrevises, commit_commits hcommit⟩

/-! ### A change of a device and the registry -/

/-- The row a revision replaces, and the aggregate that was read from it. -/
theorem Committed.row (hcommitted : Committed control mutation h h') {device : control.Device}
    (hrevises : Revises control draws device operation mutation answer) :
    ∃ row, h.device mutation.device.deviceId = some row ∧
      decode control.authority.crypto control.presentation control.authority.ownerDomainId row =
        .ok device := by
  rcases getDevice_ok.mp (hrevises.expected ▸ hcommitted.expected) with
    ⟨-, hnone⟩ | ⟨row, device', hrow, heq, hdecode⟩
  · cases hnone
  · cases heq
    exact ⟨row, hrow, hdecode⟩

theorem Committed.registry (hcommitted : Committed control mutation h h') :
    h'.tables.registry =
      h.tables.registry.withDevice mutation.device.deviceId (some mutation.device.values) := by
  obtain ⟨devices, htables⟩ := hcommitted.tables
  ext1
  · rw [htables]
    rfl
  · rw [htables]
    rfl
  · funext i
    rw [Registry.withDevice_device]
    exact hcommitted.device i
  · rw [htables]
    rfl

/-- The new row says of the Claim what the old one said. -/
theorem Revises.shows {device : control.Device} {ownerDomainId : OwnerDomainId} {row : DeviceRow}
    {c : ClaimRow} (hrevises : Revises control draws device operation mutation answer)
    (hdecode : decode control.authority.crypto control.presentation ownerDomainId row = .ok device)
    (h : Shows row c) : Shows mutation.device.values c := by
  obtain ⟨href, howner, -, hstate, -⟩ := hrevises.same
  obtain ⟨-, hrow, -⟩ := decode_ok.mp hdecode
  simp only [ManagedDevice.deviceRef, DeviceRef.mk.injEq] at href
  obtain ⟨-, -, hgeneration, hclaim, hepoch⟩ := href
  have hmatches := h.generation
  have hown := h.owner
  have hlife := h.lifecycle
  rw [hrow] at hmatches hown hlife
  exact ⟨⟨hgeneration.trans hmatches.1, hclaim.trans hmatches.2.1, hepoch.trans hmatches.2.2⟩,
    (congrArg some howner).trans hown, by simpa only [ManagedDevice.values, hstate] using hlife⟩

/-- **A change of a device keeps the registry sound.** -/
theorem Committed.sound {device : control.Device} (hcommitted : Committed control mutation h h')
    (hrevises : Revises control draws device operation mutation answer)
    (hs : h.tables.registry.Sound control.authority) :
    h'.tables.registry.Sound control.authority := by
  obtain ⟨row, hrow, hdecode⟩ := hcommitted.row hrevises
  rw [hcommitted.registry]
  refine ⟨hs.legal, hs.decisionIds, hs.lineage, ?_, ?_⟩
  · intro i c hc
    obtain ⟨hi, p, d, g, hstands⟩ := hs.claims i c hc
    exact ⟨hi, p, d, g, { hstands with }⟩
  · intro i row' hrow'
    rw [Registry.withDevice_device] at hrow'
    split at hrow'
    · next hi =>
      subst hi
      obtain ⟨c, hc, hshows⟩ := hs.devices _ row hrow
      cases hrow'
      exact ⟨c, hc, hrevises.shows hdecode hshows⟩
    · exact hs.devices i row' hrow'

/-! ### Whole runs -/

theorem next_sound {request : HubRequest control} (hs : h.tables.registry.Sound control.authority) :
    (control.next h request).tables.registry.Sound control.authority := by
  cases request with
  | admission request => exact AdmissionAuthority.next_sound hs
  | device operation draws =>
    rcases execute_cases operation draws h with hsame | ⟨device, mutation, answer, -, hrevises, hcommitted⟩
    · rw [next, hsame]
      exact hs
    · exact hcommitted.sound hrevises hs

theorem reachable_sound (hreach : control.Reachable h) :
    h.tables.registry.Sound control.authority :=
  Reaches.inv (I := fun h : Hub => h.tables.registry.Sound control.authority) hreach
    (fun _ _ hs => next_sound hs) (by
      show Tables.empty.registry.Sound control.authority
      rw [Tables.empty_registry]
      exact Registry.sound_empty)

/-- A row stays, as it is or at a higher revision. -/
def Rises (row row' : Option DeviceRow) : Prop :=
  ∀ r, row = some r → ∃ r', row' = some r' ∧ (r' = r ∨ r.aggregateRevision < r'.aggregateRevision)

instance : Std.Refl Rises := ⟨fun _ r hr => ⟨r, hr, .inl rfl⟩⟩

instance : IsTrans (Option DeviceRow) Rises where
  trans a b c hab hbc := by
    intro r hr
    obtain ⟨r', hr', hle⟩ := hab r hr
    obtain ⟨r'', hr'', hle'⟩ := hbc r' hr'
    refine ⟨r'', hr'', ?_⟩
    rcases hle with rfl | hlt
    · exact hle'
    · rcases hle' with rfl | hlt'
      · exact .inr hlt
      · exact .inr (hlt.trans hlt')

/-- **What a move of Admission makes of a row**: nothing, a revoked row, or the row of an
acknowledged device. -/
theorem device_apply (s : Registry) (m : Move) (i : DeviceInstanceId) :
    (s.apply m).device i = s.device i ∨
    (∃ row ref now, s.device i = some row ∧ (s.apply m).device i = some (row.revoke ref now)) ∨
    ∃ p g d a name published now, m = .acknowledge p g d a name published now ∧
      g.deviceRef.deviceInstanceId = i ∧
      (s.apply m).device i = some (acknowledgedDevice s p g d name now) := by
  have hrevoked : ∀ ref now, (s.withDeviceRevoked ref now).device i = s.device i ∨
      ∃ row ref' now', s.device i = some row ∧
        (s.withDeviceRevoked ref now).device i = some (row.revoke ref' now') := by
    intro ref now
    unfold Registry.withDeviceRevoked
    rw [Registry.withDevice_device]
    by_cases hi : i = ref.deviceInstanceId
    · subst hi
      rw [if_pos rfl]
      cases hrow : s.device ref.deviceInstanceId with
      | none => exact .inl rfl
      | some row => exact .inr ⟨row, ref, now, rfl, rfl⟩
    · rw [if_neg hi]
      exact .inl rfl
  cases m with
  | acknowledge p g d a name published now =>
    by_cases hi : i = g.deviceRef.deviceInstanceId
    · subst hi
      exact .inr (.inr ⟨p, g, d, a, name, published, now, rfl, rfl, by simp [Registry.apply]⟩)
    · exact .inl (by simp [Registry.apply, hi])
  | withdraw p g d published now =>
    rcases hrevoked g.deviceRef now with hsame | hrow
    · exact .inl hsame
    · exact .inr (.inl hrow)
  | revoke c published now =>
    rcases hrevoked c.deviceRef now with hsame | hrow
    · exact .inl hsame
    · exact .inr (.inl hrow)
  | enroll | reject | approve | deliver | cancel | expire => exact .inl rfl

/-- A move of Admission takes each row to a higher revision or leaves it. -/
theorem rises_apply {s : Registry} {m : Move} : Rises (s.device i) ((s.apply m).device i) := by
  intro row hrow
  rcases device_apply s m i with hsame | ⟨row', ref, now, hrow', hnext⟩ |
    ⟨p, g, d, a, name, published, now, -, hi, hnext⟩
  · exact ⟨row, hsame.trans hrow, .inl rfl⟩
  · rw [hrow] at hrow'
    cases hrow'
    refine ⟨_, hnext, ?_⟩
    unfold DeviceRow.revoke
    split
    · exact .inr (Nat.lt_succ_self _)
    · exact .inl rfl
  · refine ⟨_, hnext, .inr ?_⟩
    simp [acknowledgedDevice, hi, hrow, DeviceRow.activated]

/-- **Whoever writes a row writes it at a higher revision.** -/
theorem next_rises (request : HubRequest control) : Rises (h.device i) ((control.next h request).device i) := by
  cases request with
  | admission request =>
    obtain ⟨moves, -, hfollows⟩ := AdmissionAuthority.next_makes control.authority h.tables request
    refine hfollows.inv (I := fun s => Rises (h.device i) (s.device i)) ?_ (Std.Refl.refl _)
    intro s m hrises _
    exact IsTrans.trans _ _ _ hrises rises_apply
  | device operation draws =>
    intro row hrow
    rcases execute_cases operation draws h with hsame | ⟨device, mutation, answer, -, hrevises, hcommitted⟩
    · exact ⟨row, by rw [next, hsame, hrow], .inl rfl⟩
    · rw [next, hcommitted.device i]
      by_cases hi : i = mutation.device.deviceId
      · subst hi
        obtain ⟨row', hrow', hdecode⟩ := hcommitted.row hrevises
        rw [hrow] at hrow'
        cases hrow'
        obtain ⟨-, hcolumns, -⟩ := decode_ok.mp hdecode
        refine ⟨_, if_pos rfl, .inr ?_⟩
        rw [hcolumns]
        show device.aggregateRevision < mutation.device.aggregateRevision
        rw [hrevises.same.2.2.2.2.2.2]
        exact Nat.lt_succ_self _
      · exact ⟨row, by rw [if_neg hi, hrow], .inl rfl⟩

/-- **The device registry mirrors the Claim table**, whatever commands of Admission, Manifests and
policies came before, and no request changes a row without raising its revision. -/
theorem registry_mirrors (control : DeviceControl) (requests : List (HubRequest control)) :
    (∀ i row, (run control.next .empty requests).device i = some row →
      ∃ c, (run control.next .empty requests).tables.claims.get (·.deviceInstanceId) i = some c ∧
        row.ownerId = some c.businessOwnerId ∧ row.trustEpoch = c.trustEpoch ∧
        row.claimGeneration = c.claimGeneration ∧
        (row.lifecycleState = .approved ↔ c.state = .active) ∧
        (row.lifecycleState = .revoked ↔ c.state = .revoked)) ∧
    ∀ request i, Rises ((run control.next .empty requests).device i)
      ((control.next (run control.next .empty requests) request).device i) := by
  refine ⟨?_, fun request i => next_rises request⟩
  intro i row hrow
  obtain ⟨c, hc, hshows⟩ := (reachable_sound ⟨requests, rfl⟩).devices i row hrow
  refine ⟨c, hc, hshows.owner, hshows.generation.2.2, hshows.generation.2.1, ?_⟩
  rcases hshows.lifecycle with ⟨hrow, hclaim⟩ | ⟨hrow, hclaim⟩ <;> simp [hrow, hclaim]

end DeviceControl

end EidolonHub.Devices
