import EidolonHub.Admission.Simulation
import EidolonHub.Devices.Mutations
import EidolonHub.Library.Isolation

/-!
# EidolonHub.Devices.Isolation

**Two writers of one device row.** Admission projects a Claim on the row under the lock of its
store, Device Control commits a mutation under a lock of its own, and SQLite, which the Python
driver keeps out of a transaction until the first statement that writes, lets both read the row
first. The statement of the ORM sets the columns in which the new row differs from the row that
was read.

A transaction that commits on the row it read is as good as alone. One that commits on another
row mixes the two, under a revision that was used already.
-/

namespace EidolonHub.Devices

open EidolonHub.Library EidolonHub.Library.Tx EidolonHub.Library.Python EidolonHub.Admission

/-! ### The statement on a row -/

section Columns

variable {α : Type} [DecidableEq α]

/-- The value of a column that an UPDATE sets where it changed. -/
def column (read written onto : α) : α := if written = read then onto else written

@[simp] theorem column_self (read written : α) : column read written read = written := by
  unfold column
  split
  · next h => exact h.symm
  · rfl

end Columns

/-- An UPDATE of the columns in which a row differs from the one that was read. -/
def updateRow (read written onto : DeviceRow) : DeviceRow where
  deviceId := onto.deviceId
  displayName := column read.displayName written.displayName onto.displayName
  manifestId := column read.manifestId written.manifestId onto.manifestId
  manifestJson := column read.manifestJson written.manifestJson onto.manifestJson
  outputPolicyJson := column read.outputPolicyJson written.outputPolicyJson onto.outputPolicyJson
  manifestRevision := column read.manifestRevision written.manifestRevision onto.manifestRevision
  manifestDeclaredRevision := column read.manifestDeclaredRevision written.manifestDeclaredRevision
    onto.manifestDeclaredRevision
  enrolledAt := column read.enrolledAt written.enrolledAt onto.enrolledAt
  updatedAt := column read.updatedAt written.updatedAt onto.updatedAt
  ownerDomainGeneration := column read.ownerDomainGeneration written.ownerDomainGeneration
    onto.ownerDomainGeneration
  claimGeneration := column read.claimGeneration written.claimGeneration onto.claimGeneration
  trustEpoch := column read.trustEpoch written.trustEpoch onto.trustEpoch
  aggregateRevision := column read.aggregateRevision written.aggregateRevision onto.aggregateRevision
  ownerId := column read.ownerId written.ownerId onto.ownerId
  lifecycleState := column read.lifecycleState written.lifecycleState onto.lifecycleState
  lastManagementRequestId := column read.lastManagementRequestId written.lastManagementRequestId
    onto.lastManagementRequestId
  lastManagementFingerprint := column read.lastManagementFingerprint written.lastManagementFingerprint
    onto.lastManagementFingerprint

/-- On the row that was read, the statement leaves the row that was written. -/
theorem updateRow_self {read written : DeviceRow} (h : written.deviceId = read.deviceId) :
    updateRow read written read = written := by
  simp only [updateRow, column_self, ← h]

/-- What a transaction does to the row of the device. -/
inductive RowWrite (i : DeviceInstanceId) where
  | keep
  | store (row : DeviceRow) (deviceId : row.deviceId = i)
  deriving DecidableEq

/-- The row of the device. -/
abbrev RowOf (i : DeviceInstanceId) : Type := Option { row : DeviceRow // row.deviceId = i }

variable {i : DeviceInstanceId}

/-- An INSERT where no row was read, an UPDATE where one was. -/
def rowStatement (i : DeviceInstanceId) : Isolation.Statement (RowOf i) (RowWrite i) where
  apply
    | row, .keep => row
    | _, .store row deviceId => some ⟨row, deviceId⟩
  merge
    | _, .keep, onto => some onto
    | none, .store row deviceId, none => some (some ⟨row, deviceId⟩)
    | some before, .store row _, some onto =>
      some (some ⟨updateRow before.1 row onto.1, onto.2⟩)
    | none, .store _ _, some _ => none
    | some _, .store _ _, none => none
  merge_self := by
    rintro (_ | ⟨before, hbefore⟩) (_ | ⟨row, hrow⟩)
    · rfl
    · rfl
    · rfl
    · exact congrArg some (congrArg some (Subtype.ext (updateRow_self (hrow.trans hbefore.symm))))

/-! ### The transactions -/

/-- Whose lock a transaction holds. -/
inductive Side where
  | admission | device
  deriving DecidableEq

/-- What `ack_claim_grant` projects. -/
structure Activation (i : DeviceInstanceId) where
  deviceRef : DeviceRef
  businessOwnerId : BusinessOwnerId
  manifest : ManifestRef
  manifestJson : String
  activatedAt : Timestamp
  deviceInstanceId : deviceRef.deviceInstanceId = i

/-- What `revoke_claim` projects. -/
structure Revocation (i : DeviceInstanceId) where
  deviceRef : DeviceRef
  revokedAt : Timestamp
  deviceInstanceId : deviceRef.deviceInstanceId = i

/-- A mutation that one of the two commands has planned. -/
structure PlannedMutation (control : DeviceControl) (i : DeviceInstanceId) where
  mutation : control.Mutation
  planned : ∃ draws device operation answer,
    DeviceControl.Revises control draws device operation mutation answer
  deviceId : mutation.device.deviceId = i

/-- A transaction that writes the row of this device, in its three kinds. -/
inductive RowTransaction (control : DeviceControl) (i : DeviceInstanceId) where
  | activate (activation : Activation i)
  | revoke (revocation : Revocation i)
  | mutate (change : PlannedMutation control i)

/-- The write of `project_active_claim`. -/
def Activation.compute (crypto : Crypto) (a : Activation i) (row : RowOf i) : Option (RowWrite i) :=
  match crypto.jsonLoads a.manifestJson with
  | none => none
  | some document =>
    if document.isObject then
      match row with
      | none => some (.store (.enrolled (displayName document a.deviceRef.deviceInstanceId) a.deviceRef
          a.businessOwnerId a.manifest a.manifestJson a.activatedAt) a.deviceInstanceId)
      | some row => some (.store (row.1.activated a.deviceRef a.businessOwnerId a.manifest
          a.manifestJson a.activatedAt) row.2)
    else none

/-- The write of `project_revoked_claim`. -/
def Revocation.compute (r : Revocation i) : RowOf i → RowWrite i
  | none => .keep
  | some row =>
    if row.1.matches r.deviceRef then
      .store { row.1 with
        lifecycleState := .revoked
        updatedAt := r.revokedAt
        aggregateRevision := row.1.aggregateRevision + 1 } row.2
    else .keep

/-- The device a row holds, or none where there is no row. -/
def rowDevice (control : DeviceControl) : RowOf i → Except ControlError (Option control.Device)
  | none => .ok none
  | some row =>
    (decode control.authority.crypto control.presentation control.authority.ownerDomainId row.1).map some

/-- The write of the mutation commit, up to its audit event. -/
def PlannedMutation.compute {control : DeviceControl} (change : PlannedMutation control i)
    (row : RowOf i) : Option (RowWrite i) :=
  if change.mutation.event.subject ≠ change.mutation.device.deviceId then none
  else match DeviceControl.dataJson change.mutation.event, rowDevice control row with
  | .ok _, .ok actual =>
    if actual = change.mutation.expected then
      some (.store change.mutation.device.values change.deviceId)
    else none
  | _, _ => none

/-- `_append`, on the audit events. -/
def recordEvent (row : ManagementEventRow) (events : Table ManagementEventRow) :
    Option (Table ManagementEventRow) :=
  match events.get (·.eventId) row.eventId with
  | some current => if current = row then some events else none
  | none => events.insert? row

/-- A transaction, as the database sees it. -/
def RowTransaction.transaction {control : DeviceControl} :
    RowTransaction control i →
      Isolation.Transaction Side (RowOf i) (RowWrite i) (Table ManagementEventRow)
  | .activate activation => ⟨.admission, activation.compute control.authority.crypto, some⟩
  | .revoke revocation => ⟨.admission, fun row => some (revocation.compute row), some⟩
  | .mutate change =>
    ⟨.device, change.compute, recordEvent (DeviceControl.auditRow change.mutation)⟩

/-! ### What a transaction does with nothing between its steps -/

/-- The row of the device, with the fact that it is its row. -/
def rowOf (t : Tables) (i : DeviceInstanceId) : RowOf i :=
  (t.devices.get (·.deviceId) i).pmap Subtype.mk fun _ hrow => Table.get_key hrow

@[simp] theorem rowOf_map (t : Tables) (i : DeviceInstanceId) :
    (rowOf t i).map Subtype.val = t.devices.get (·.deviceId) i := by
  unfold rowOf
  simp [Option.map_pmap]

theorem RowOf.ext {row row' : RowOf i} (h : row.map Subtype.val = row'.map Subtype.val) : row = row' :=
  Option.map_injective Subtype.val_injective h

section Steps

variable {control : DeviceControl} {t t' : Tables} {h h' : Hub} {u : Unit}

/-- `project_active_claim` leaves what an activation computes from the row. -/
theorem projectActiveClaim_applies {activation : Activation i} {crypto : Crypto}
    (hcommit : Commits (projectActiveClaim crypto activation.deviceRef activation.businessOwnerId
      activation.manifest activation.manifestJson activation.activatedAt) t u t') :
    ∃ write, activation.compute crypto (rowOf t i) = some write ∧
      rowOf t' i = (rowStatement i).apply (rowOf t i) write := by
  obtain ⟨deviceRef, owner, manifest, json, now, hi⟩ := activation
  subst hi
  simp only [projectActiveClaim, commits_demand_bind, commits_raiseIf_bind, commits_read_bind] at hcommit
  obtain ⟨document, hjson, hobject, hcommit⟩ := hcommit
  have hobject' : document.isObject = true := not_not.mp hobject
  cases hrow : rowOf t deviceRef.deviceInstanceId with
  | none =>
    have hget := (rowOf_map t deviceRef.deviceInstanceId).symm.trans (congrArg _ hrow)
    rw [Option.map_none] at hget
    simp only [hget, commits_add] at hcommit
    obtain ⟨devices, hinsert, rfl⟩ := hcommit
    refine ⟨.store (.enrolled (displayName document deviceRef.deviceInstanceId) deviceRef owner
      manifest json now) rfl, ?_, RowOf.ext ?_⟩
    · simp only [Activation.compute, hjson, hobject', if_true]
    · rw [rowOf_map]
      exact (Table.get_insert hinsert device_deviceId_isKey).trans (if_pos rfl)
  | some row =>
    have hget := (rowOf_map t deviceRef.deviceInstanceId).symm.trans (congrArg _ hrow)
    rw [Option.map_some] at hget
    simp only [hget, commits_update] at hcommit
    subst hcommit
    refine ⟨.store (row.1.activated deviceRef owner manifest json now) row.2, ?_, RowOf.ext ?_⟩
    · simp only [Activation.compute, hjson, hobject', if_true]
    · rw [rowOf_map]
      refine (Table.get_modify_self (DeviceRow.activated_keeps _ _ _ _ _) (fun _ => rfl)).trans ?_
      rw [if_pos rfl, hget]
      rfl

/-- `project_revoked_claim` leaves what a revocation computes from the row. -/
theorem projectRevokedClaim_applies {revocation : Revocation i}
    (hcommit : Commits (projectRevokedClaim revocation.deviceRef revocation.revokedAt) t u t') :
    rowOf t' i = (rowStatement i).apply (rowOf t i) (revocation.compute (rowOf t i)) := by
  obtain ⟨deviceRef, now, hi⟩ := revocation
  subst hi
  rw [projectRevokedClaim, commits_update] at hcommit
  subst hcommit
  have hkeep : ∀ r : DeviceRow, (r.revoke deviceRef now).deviceId = r.deviceId := by
    intro r
    unfold DeviceRow.revoke
    split <;> rfl
  refine RowOf.ext ?_
  rw [rowOf_map]
  refine (Table.get_modify_self (DeviceRow.revoke_keeps _ _) hkeep).trans ?_
  rw [if_pos rfl, ← rowOf_map]
  cases rowOf t deviceRef.deviceInstanceId with
  | none => rfl
  | some row =>
    by_cases hmatches : row.1.matches deviceRef
    · simp [Revocation.compute, DeviceRow.revoke, hmatches, rowStatement]
    · simp [Revocation.compute, DeviceRow.revoke, hmatches, rowStatement]

theorem rowDevice_rowOf : rowDevice control (rowOf h.tables i) = control.getDevice h i := by
  have hget : (rowOf h.tables i).map Subtype.val = h.device i := rowOf_map h.tables i
  unfold DeviceControl.getDevice
  rw [← hget]
  cases rowOf h.tables i <;> rfl

theorem appendEvent_records {row : ManagementEventRow}
    (hcommit : Commits (DeviceControl.appendEvent row) h u h') :
    recordEvent row h.events = some h'.events := by
  simp only [DeviceControl.appendEvent, commits_read_bind] at hcommit
  split at hcommit
  · next current hfound =>
    obtain ⟨hsame, rfl⟩ := commits_raiseIf.mp hcommit
    rw [recordEvent, hfound]
    exact if_pos (not_not.mp hsame)
  · next hnone =>
    rw [commits_update?] at hcommit
    obtain ⟨events, hinsert, rfl⟩ := Option.map_eq_some_iff.mp hcommit
    rw [recordEvent, hnone]
    exact hinsert

/-- The mutation commit leaves what a mutation computes from the row, and records its event. -/
theorem commit_applies {change : PlannedMutation control i}
    (hcommit : Commits (control.commit change.mutation) h u h') :
    ∃ write, change.compute (rowOf h.tables i) = some write ∧
      rowOf h'.tables i = (rowStatement i).apply (rowOf h.tables i) write ∧
      recordEvent (DeviceControl.auditRow change.mutation) h.events = some h'.events := by
  obtain ⟨mutation, hplanned, hi⟩ := change
  subst hi
  replace hcommit : Commits (control.commit mutation) h u h' := hcommit
  obtain ⟨hsubject, hjson, hexpected, h₁, _, _, hupsert, happend⟩ := DeviceControl.commit_steps hcommit
  obtain ⟨-, hevents, hdevice⟩ := DeviceControl.upsert_commits hupsert
  have htables := (DeviceControl.appendEvent_commits happend).1
  refine ⟨.store mutation.device.values rfl, ?_, RowOf.ext ?_, ?_⟩
  · simp [PlannedMutation.compute, hsubject, hjson, rowDevice_rowOf, hexpected]
  · rw [rowOf_map, htables]
    exact (hdevice mutation.device.deviceId).trans (if_pos rfl)
  · rw [← hevents]
    exact appendEvent_records happend

/-! ### Any interleaving -/

variable {txs : Nat → RowTransaction control i} {row : RowOf i} {events : Table ManagementEventRow}
  {turns : List (Turn Isolation.Event)} {e : Nat × RowWrite i}
  {s s' : RowOf i × Table ManagementEventRow}

/-- The revision of a row; a device without a row has had none. -/
def revisionOf (row : RowOf i) : Nat := row.elim 0 fun row => row.1.aggregateRevision

/-- A step of the serial order. -/
abbrev RowSerial (txs : Nat → RowTransaction control i) :
    RowOf i × Table ManagementEventRow → Nat × RowWrite i → RowOf i × Table ManagementEventRow → Prop :=
  Isolation.Serial (rowStatement i) fun c => (txs c).transaction

/-- A mutation is written on the row of the generation it was planned for. -/
theorem mutate_onto {change : PlannedMutation control i} {write : RowWrite i}
    (hcompute : change.compute row = some write) :
    write = .store change.mutation.device.values change.deviceId ∧ ∃ before, row = some before ∧
      before.1.matches change.mutation.device.deviceRef ∧
      before.1.ownerId = some change.mutation.device.ownerId ∧
      change.mutation.device.aggregateRevision = before.1.aggregateRevision + 1 := by
  obtain ⟨draws, device, operation, answer, hrevises⟩ := change.planned
  unfold PlannedMutation.compute at hcompute
  split at hcompute
  · cases hcompute
  · split at hcompute
    -- the write goes onto the row that was planned on, which decodes to the planned device
    · next actual _ hread =>
      by_cases hactual : actual = change.mutation.expected
      · rw [if_pos hactual] at hcompute
        refine ⟨(Option.some.inj hcompute).symm, ?_⟩
        rw [hactual, hrevises.expected] at hread
        cases row with
        | none => cases hread
        | some before =>
          cases hdecode : decode control.authority.crypto control.presentation
              control.authority.ownerDomainId before.1 with
          | error error =>
            simp only [rowDevice, hdecode] at hread
            cases hread
          | ok device' =>
            simp only [rowDevice, hdecode] at hread
            cases hread
            obtain ⟨-, hcolumns, -⟩ := decode_ok.mp hdecode
            obtain ⟨href, howner, -, -, -, -, hrevision⟩ := hrevises.same
            refine ⟨before, rfl, ?_, ?_, ?_⟩
            · rw [href, hcolumns]
              exact ⟨rfl, rfl, rfl⟩
            · rw [howner, hcolumns]
              rfl
            · rw [hcolumns]
              exact hrevision
      · rw [if_neg hactual] at hcompute
        cases hcompute
    · cases hcompute

/-- A transaction on its own that writes the row takes it one revision up. -/
theorem serial_revision (hstep : RowSerial txs s e s') :
    revisionOf s'.1 = revisionOf s.1 + if e.2 = .keep then 0 else 1 := by
  obtain ⟨hcompute, hvalue, -⟩ := hstep
  rw [hvalue]
  obtain ⟨c, write⟩ := e
  obtain ⟨before, events⟩ := s
  cases htx : txs c with
  | activate activation =>
    simp only [htx, RowTransaction.transaction, Activation.compute] at hcompute
    split at hcompute
    · cases hcompute
    · split at hcompute
      · split at hcompute <;> (cases hcompute; rfl)
      · cases hcompute
  | revoke revocation =>
    simp only [htx, RowTransaction.transaction, Option.some.injEq] at hcompute
    subst hcompute
    unfold Revocation.compute
    split
    · rfl
    · split <;> rfl
  | mutate change =>
    simp only [htx, RowTransaction.transaction] at hcompute
    obtain ⟨rfl, row, rfl, -, -, hrevision⟩ := mutate_onto hcompute
    exact hrevision

/-- The database after a schedule. -/
def rowDatabase (txs : Nat → RowTransaction control i) (row : RowOf i) (events : Table ManagementEventRow)
    (turns : List (Turn Isolation.Event)) : Isolation.Database Side (RowOf i) (Table ManagementEventRow) :=
  (run (Isolation.step (rowStatement i) fun c => (txs c).transaction) (Isolation.start row events)
    turns).shared

/-- The transactions that succeeded in a schedule, with their writes. -/
def rowCommits (txs : Nat → RowTransaction control i) (row : RowOf i) (events : Table ManagementEventRow)
    (turns : List (Turn Isolation.Event)) : List (Nat × RowWrite i) :=
  Isolation.commits (rowStatement i) (fun c => (txs c).transaction) row events turns

/-- Whenever a transaction of the schedule commits, it has written on the row it read. -/
def RowOntoRead (txs : Nat → RowTransaction control i) (row : RowOf i)
    (events : Table ManagementEventRow) (turns : List (Turn Isolation.Event)) : Prop :=
  Along (Isolation.step (rowStatement i) fun c => (txs c).transaction) Isolation.OntoRead
    (Isolation.start row events) turns

instance : Decidable (RowOntoRead txs row events turns) :=
  inferInstanceAs (Decidable (Along _ _ _ _))

end Steps

/-- **Admission and Device Control are serializable on a device row while every transaction that
commits writes on the row it read**: the row and the audit events are those of the transactions
that succeeded, one after the other; each of them that writes adds one revision; and a mutation
is written on the row of the generation and the Owner it was planned for. -/
theorem rows_serializable (control : DeviceControl) (i : DeviceInstanceId)
    (txs : Nat → RowTransaction control i) (row : RowOf i) (events : Table ManagementEventRow)
    (turns : List (Turn Isolation.Event)) (honto : RowOntoRead txs row events turns) :
    Path (RowSerial txs) (row, events) (rowCommits txs row events turns)
        ((rowDatabase txs row events turns).value, (rowDatabase txs row events turns).ledger) ∧
      revisionOf (rowDatabase txs row events turns).value = revisionOf row +
        ((rowCommits txs row events turns).map fun e => if e.2 = .keep then 0 else 1).sum ∧
      ∀ pre c write post change, rowCommits txs row events turns = pre ++ (c, write) :: post →
        txs c = .mutate change → ∃ s before, Path (RowSerial txs) (row, events) pre s ∧
          s.1 = some before ∧ before.1.matches change.mutation.device.deviceRef ∧
          before.1.ownerId = some change.mutation.device.ownerId := by
  have hpath := Isolation.serializable honto
  refine ⟨hpath, ?_, ?_⟩
  · exact Path.adds (m := fun s : RowOf i × Table ManagementEventRow => revisionOf s.1) hpath
      fun hstep => serial_revision hstep
  · intro pre c write post change hsplit htx
    rw [rowCommits] at hsplit
    rw [hsplit] at hpath
    obtain ⟨s, hpre, hrest⟩ := Path.append_iff.mp hpath
    cases hrest with
    | cons hstep _ =>
      have hcompute := hstep.computes
      simp only [htx, RowTransaction.transaction] at hcompute
      obtain ⟨-, before, hbefore, hmatches, howner, -⟩ := mutate_onto hcompute
      exact ⟨s, before, hpre, hbefore, hmatches, howner⟩

/-! ### An update that read before the revocation and writes after it -/

namespace Sample

open DeviceControl

theorem lamp_valid : deviceProblem "device-k" "lamp" (some "alice") 1 1 1 1 = none := by
  decide +kernel

/-- The device of alice after its activation. -/
def lamp : control.Device where
  deviceId := "device-k"
  displayName := "device-k"
  manifestId := "lamp"
  manifest := ⟨"{}", "sha256:{}", 1, by decide +kernel⟩
  enrolledAt := 3
  updatedAt := 3
  ownerDomainId := "home"
  ownerDomainGeneration := 1
  claimGeneration := 1
  trustEpoch := 1
  aggregateRevision := 1
  ownerId := "alice"
  lifecycleState := .approved
  lastManagementRequestId := ""
  lastManagementFingerprint := ""
  outputPolicy := none
  valid := lamp_valid

/-- The row of the lamp. -/
def lampRow : RowOf "device-k" := some ⟨lamp.values, rfl⟩

/-- Alice allows the outputs. -/
def allowOutputs : PlannedMutation control "device-k" where
  mutation := ⟨some lamp, control.withPolicy lamp ⟨1, true, none⟩ 5,
    control.policyEvent ⟨Sample.deviceRef "k" 1, 0, true, none⟩ (controller "alice") (draws "policy") lamp⟩
  planned := ⟨draws "policy", lamp, setPolicy "k" 1 0 true, _, .policy rfl rfl rfl rfl rfl⟩
  deviceId := rfl

/-- The Claim of the lamp is revoked. -/
def revokeLamp : Revocation "device-k" := ⟨Sample.deviceRef "k" 1, 4, rfl⟩

/-- A change of the policy against a revocation. -/
def rivals : Nat → RowTransaction control "device-k"
  | 0 => .mutate allowOutputs
  | _ => .revoke revokeLamp

/-- The transaction takes this many steps. -/
def proceeds (c n : Nat) : List (Turn Isolation.Event) := List.replicate n ⟨c, .proceed⟩

/-- The update reads, the revocation runs, the update writes. -/
def race : List (Turn Isolation.Event) := proceeds 0 2 ++ proceeds 1 4 ++ proceeds 0 2

/-- The revocation begins, the update runs, the revocation reads and writes. -/
def turnTaking : List (Turn Isolation.Event) := proceeds 1 1 ++ proceeds 0 4 ++ proceeds 1 3

/-- The row after a transaction with nothing between its steps. -/
def alone (c : Nat) (row : RowOf "device-k") : Option (RowOf "device-k") :=
  ((rivals c).transaction.compute row).map ((rowStatement _).apply row)

theorem alone_of_serial {s s' : RowOf "device-k" × Table ManagementEventRow}
    {e : Nat × RowWrite "device-k"} (h : RowSerial rivals s e s') : alone e.1 s.1 = some s'.1 := by
  rw [alone, h.computes, h.value, Option.map_some]

end Sample

/-- Both transactions succeed, and the revocation writes on the row the update left. -/
theorem rows_serializable_turns :
    RowOntoRead Sample.rivals Sample.lampRow .empty Sample.turnTaking ∧
      (rowCommits Sample.rivals Sample.lampRow .empty Sample.turnTaking).map (·.1) = [0, 1] ∧
      Path (RowSerial Sample.rivals) (Sample.lampRow, .empty)
        (rowCommits Sample.rivals Sample.lampRow .empty Sample.turnTaking)
        ((rowDatabase Sample.rivals Sample.lampRow .empty Sample.turnTaking).value,
          (rowDatabase Sample.rivals Sample.lampRow .empty Sample.turnTaking).ledger) :=
  have honto : RowOntoRead Sample.rivals Sample.lampRow .empty Sample.turnTaking := by decide +kernel
  ⟨honto, by decide +kernel, (rows_serializable _ _ _ _ _ _ honto).1⟩

/-- The two writers are not serializable: an update that has read the row before a revocation and
writes it afterwards leaves a row that neither order leaves, and one revision is lost. -/
theorem revocation_is_mixed : ¬ ∀ (control : DeviceControl) (i : DeviceInstanceId)
    (txs : Nat → RowTransaction control i) (row : RowOf i) (events : Table ManagementEventRow)
    (turns : List (Turn Isolation.Event)), ∃ order : List (Nat × RowWrite i),
    (order.map (·.1)).Perm ((rowCommits txs row events turns).map (·.1)) ∧
      Path (RowSerial txs) (row, events) order
        ((rowDatabase txs row events turns).value, (rowDatabase txs row events turns).ledger) := by
  intro hclaim
  obtain ⟨order, hperm, hpath⟩ := hclaim Sample.control "device-k" Sample.rivals Sample.lampRow .empty
    Sample.race
  have hcommits : (rowCommits Sample.rivals Sample.lampRow .empty Sample.race).map (·.1) = [1, 0] := by
    decide +kernel
  have hrevision : revisionOf (rowDatabase Sample.rivals Sample.lampRow .empty Sample.race).value = 2 := by
    decide +kernel
  -- after the revocation the update is refused, and after the update the revocation is revision 3
  have hrefused : (Sample.alone 1 Sample.lampRow).bind (Sample.alone 0) = none := by decide +kernel
  have hthird : ((Sample.alone 0 Sample.lampRow).bind (Sample.alone 1)).map revisionOf = some 3 := by
    decide +kernel
  rw [hcommits] at hperm
  cases hpath with
  | @cons _ s₁ _ e order hfirst hrest =>
    cases hrest with
    | nil => simpa using hperm.length_eq
    | @cons _ s₂ _ e' order hsecond hlast =>
      cases hlast with
      | cons => simpa using hperm.length_eq
      | nil =>
        have hboth : (Sample.alone e.1 Sample.lampRow).bind (Sample.alone e'.1) =
            some (rowDatabase Sample.rivals Sample.lampRow .empty Sample.race).value := by
          rw [Sample.alone_of_serial hfirst]
          exact Sample.alone_of_serial hsecond
        obtain ⟨c, write⟩ := e
        obtain ⟨c', write'⟩ := e'
        have hmem : c = 1 ∨ c = 0 := by simpa using hperm.subset (List.mem_cons_self ..)
        have hnodup : c ≠ c' := by simpa using hperm.nodup_iff.mpr (by decide)
        have hmem' : c' = 1 ∨ c' = 0 := by
          simpa using hperm.subset (List.mem_cons_of_mem _ (List.mem_cons_self ..))
        rcases hmem with rfl | rfl <;> rcases hmem' with rfl | rfl
        · exact hnodup rfl
        · rw [hrefused] at hboth
          cases hboth
        · rw [hboth, Option.map_some, hrevision] at hthird
          cases hthird
        · exact hnodup rfl

end EidolonHub.Devices
