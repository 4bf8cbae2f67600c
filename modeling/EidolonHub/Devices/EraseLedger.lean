import EidolonHub.Devices.Erase

/-!
# EidolonHub.Devices.EraseLedger

**One coherent instruction per operation.** A transaction of the ledger creates rows, moves rows
that are not settled (`Moves`), or applies an acknowledgement and records it as evidence. What the
columns of a row say of each other (`Consistent`), and what they say of the evidence (`Coherent`),
holds in every database that transactions lead to.
-/

namespace EidolonHub.Devices

open EidolonHub.Library EidolonHub.Library.Tx EidolonHub.Library.Python EidolonHub.Admission

/-- The evidence that was applied to an operation. -/
def EraseLedger.applied (l : EraseLedger) (operationId : OperationId) : List AckEvidenceRow :=
  l.evidence.rows.filter fun e => e.operationId = operationId ∧ e.applied

namespace DeviceErase

variable {erase : DeviceErase} {l l' : EraseLedger} {row row' : EraseOperationRow} {now : Timestamp}

/-! ### One row -/

/-- What the columns of a row say of each other. -/
structure Consistent (erase : DeviceErase) (row : EraseOperationRow) : Prop where
  operationId : row.command.operationId = row.operationId
  deviceRef : row.command.deviceRef = row.deviceRef
  deadline : row.deadline = row.command.deadline
  requestFingerprint : row.requestFingerprint = erase.operationFingerprint row.command
  terminalResult : match row.state with
    | .expired => row.terminalResult = some deadlineExpired
    | .acknowledged => row.terminalResult = some "erased"
    | .permanentFailure => ∃ result, row.terminalResult = some result ∧ result ≠ deadlineExpired
    | _ => row.terminalResult = none

/-- What a transaction that applies no acknowledgement may make of a row. -/
inductive Moves (erase : DeviceErase) : EraseOperationRow → EraseOperationRow → Prop where
  | kept (row : EraseOperationRow) : Moves erase row row
  | pending {row : EraseOperationRow} (accepted : row.state = .accepted) :
      Moves erase row { row with state := .pending }
  | expired {row : EraseOperationRow} (unsettled : row.state.isSettled = false) :
      Moves erase row row.expire
  | rearmed {row : EraseOperationRow} {now : Timestamp} (unsettled : row.state.isSettled = false)
      (lapsed : row.state = .expired ∨ row.deadline ≤ now) : Moves erase row (erase.rearmed now row)
  | delivered {row : EraseOperationRow} {deliveryAttemptId : String} {acceptedAt : Timestamp}
      (live : row.state.isTerminal = false) (open' : acceptedAt < row.deadline) :
      Moves erase row (row.deliver deliveryAttemptId acceptedAt)

theorem isSettled_of_not_terminal {state : EraseState} (h : state.isTerminal = false) :
    state.isSettled = false := by
  cases state <;> first | rfl | cases h

theorem expireDue_moves : Moves erase row (row.expireDue now) := by
  unfold EraseOperationRow.expireDue
  split
  · next h => exact .expired (isSettled_of_not_terminal (Bool.eq_false_iff.mpr h.1))
  · exact .kept row

theorem markPending_moves : Moves erase row (row.markPending now) := by
  unfold EraseOperationRow.markPending
  split
  · next h => exact .pending h.1
  · exact .kept row

theorem rearmed_moves : Moves erase row (erase.rearmed now row) := by
  by_cases h : row.state.isSettled ∨ row.state ≠ .expired ∧ now < row.deadline
  · unfold rearmed
    dsimp only
    rw [if_pos h]
    exact .kept row
  · rw [not_or, not_and_or, not_not, Int.not_lt] at h
    exact .rearmed (Bool.eq_false_iff.mpr h.1) h.2

theorem deliver_moves {deliveryAttemptId : String} {acceptedAt : Timestamp} :
    Moves erase row (row.deliver deliveryAttemptId acceptedAt) := by
  by_cases hdue : row.deadline ≤ acceptedAt
  · unfold EraseOperationRow.deliver
    rw [if_pos hdue]
    split
    · exact .kept row
    · next h => exact .expired (Bool.eq_false_iff.mpr h)
  · by_cases hterminal : row.state.isTerminal = true
    · unfold EraseOperationRow.deliver
      rw [if_neg hdue, if_pos hterminal]
      exact .kept row
    · exact .delivered (Bool.eq_false_iff.mpr hterminal) (Int.not_le.mp hdue)

/-- The columns of a row that is handed out. -/
theorem deliver_live {deliveryAttemptId : String} {acceptedAt : Timestamp}
    (hlive : row.state.isTerminal = false) (hopen : acceptedAt < row.deadline) :
    row.deliver deliveryAttemptId acceptedAt =
      { row with
        attemptCount :=
          if row.deliveryAttemptId = some deliveryAttemptId then row.attemptCount
          else row.attemptCount + 1
        deliveryAttemptId := some deliveryAttemptId
        deliveryAcceptedAt := some acceptedAt
        state := .deliveryAccepted } := by
  unfold EraseOperationRow.deliver
  rw [if_neg (Int.not_le.mpr hopen), if_neg (Bool.eq_false_iff.mp hlive)]

/-- A row that is live after a delivery was so before it, with its deadline ahead. -/
theorem live_of_deliver {deliveryAttemptId : String} {acceptedAt : Timestamp}
    (h : (row.deliver deliveryAttemptId acceptedAt).state.isTerminal = false) :
    row.state.isTerminal = false ∧ acceptedAt < row.deadline := by
  unfold EraseOperationRow.deliver at h
  split at h
  · split at h
    · next hsettled =>
      rw [isSettled_of_not_terminal h] at hsettled
      cases hsettled
    · cases h
  · next hopen =>
    split at h
    · next hterminal => exact absurd hterminal (by simp [h])
    · next hlive => exact ⟨Bool.eq_false_iff.mpr hlive, Int.not_le.mp hopen⟩

/-- The columns of a row that is re-armed. -/
theorem rearmed_lapsed (hunsettled : row.state.isSettled = false)
    (hlapsed : row.state = .expired ∨ row.deadline ≤ now) :
    erase.rearmed now row =
      { row with
        command := { row.command with deadline := now + erase.operationTtl }
        requestFingerprint :=
          erase.operationFingerprint { row.command with deadline := now + erase.operationTtl }
        deadline := now + erase.operationTtl
        state := .pending
        terminalResult := none
        resultCode := ""
        deliveryAttemptId := none
        deliveryAcceptedAt := none } := by
  unfold rearmed
  dsimp only
  rw [if_neg]
  rw [not_or, not_and_or, not_not, Int.not_lt]
  exact ⟨Bool.eq_false_iff.mp hunsettled, hlapsed⟩

theorem Moves.identity (hmoves : Moves erase row row') : row'.identity = row.identity := by
  cases hmoves with
  | kept | pending | expired => rfl
  | rearmed => exact erase.rearmed_identity
  | delivered => exact EraseOperationRow.deliver_identity

/-- A settled row is not moved, and no row is settled by a move. -/
theorem Moves.settled (hmoves : Moves erase row row') :
    row' = row ∨ row.state.isSettled = false ∧ row'.state.isSettled = false := by
  cases hmoves with
  | kept => exact .inl rfl
  | pending accepted => exact .inr ⟨by rw [accepted]; rfl, rfl⟩
  | expired unsettled => exact .inr ⟨unsettled, rfl⟩
  | rearmed unsettled lapsed =>
    rw [rearmed_lapsed unsettled lapsed]
    exact .inr ⟨unsettled, rfl⟩
  | delivered live hopen =>
    rw [deliver_live live hopen]
    exact .inr ⟨isSettled_of_not_terminal live, rfl⟩

theorem Moves.consistent (hmoves : Moves erase row row') (h : Consistent erase row) :
    Consistent erase row' := by
  obtain ⟨hid, href, hdeadline, hfingerprint, hresult⟩ := h
  cases hmoves with
  | kept => exact ⟨hid, href, hdeadline, hfingerprint, hresult⟩
  | pending accepted =>
    rw [accepted] at hresult
    exact ⟨hid, href, hdeadline, hfingerprint, hresult⟩
  | expired => exact ⟨hid, href, hdeadline, hfingerprint, rfl⟩
  | rearmed unsettled lapsed =>
    rw [rearmed_lapsed unsettled lapsed]
    exact ⟨hid, href, rfl, rfl, rfl⟩
  | delivered live hopen =>
    rw [deliver_live live hopen]
    refine ⟨hid, href, hdeadline, hfingerprint, ?_⟩
    cases hstate : row.state <;> rw [hstate] at live hresult
    case accepted | pending | deliveryAccepted => exact hresult
    all_goals cases live

theorem operationFor_consistent {event : Event} {deviceRef : DeviceRef} {claim : ClaimRow} :
    Consistent erase (erase.operationFor event deviceRef claim) := ⟨rfl, rfl, rfl, rfl, rfl⟩

/-- An acknowledgement settles a row, or it moves it. -/
theorem acknowledge_cases (row : EraseOperationRow) (ack : EraseAck) (receivedAt : Timestamp) :
    (row.dueAt receivedAt).state.isTerminal = true ∧ row.acknowledge ack receivedAt = row.dueAt receivedAt ∨
      (row.dueAt receivedAt).state.isTerminal = false ∧ row.state.isTerminal = false ∧
        row.acknowledge ack receivedAt = row.settle ack receivedAt := by
  unfold EraseOperationRow.acknowledge
  by_cases hterminal : (row.dueAt receivedAt).state.isTerminal = true
  · exact .inl ⟨hterminal, if_pos hterminal⟩
  · refine .inr ⟨Bool.eq_false_iff.mpr hterminal, ?_, if_neg hterminal⟩
    rw [Bool.eq_false_iff]
    intro h
    refine hterminal ?_
    unfold EraseOperationRow.dueAt EraseOperationRow.expireDue
    rw [if_neg (by simp [h])]
    exact h

theorem settle_consistent {ack : EraseAck} {receivedAt : Timestamp} (hresult : ack.result ≠ deadlineExpired)
    (h : Consistent erase row) : Consistent erase (row.settle ack receivedAt) := by
  obtain ⟨hid, href, hdeadline, hfingerprint, -⟩ := h
  refine ⟨hid, href, hdeadline, hfingerprint, ?_⟩
  unfold EraseOperationRow.settle
  by_cases herased : ack.result = "erased"
  · simp [herased]
  · simp [herased, hresult]

/-! ### Materializing revocations -/

/-- **A round of materialization** finds the operation of its event, or creates it for the Claim. -/
theorem materializeRevocation_commits {event : Event} {deviceRef : DeviceRef} {n : Nat} :
    Commits (erase.materializeRevocation event deviceRef) l n l' ↔
      (∃ row, l.operation (erase.operationId event deviceRef) = some row ∧ row.sourceEventId = event.id ∧
        row.deviceRef = deviceRef ∧ n = 0 ∧ l' = l) ∨
      ∃ claim operations, claimOf l deviceRef = some claim ∧
        l.operations.insert? (erase.operationFor event deviceRef claim) = some operations ∧ n = 1 ∧
        l' = { l with operations } := by
  unfold materializeRevocation
  dsimp only
  rw [commits_read_bind]
  cases hfound : l.operation (erase.operationId event deviceRef) with
  | some row =>
    simp only [commits_raiseIf_bind, commits_pure, not_or, not_not, Option.some.injEq, exists_eq_left']
    constructor
    · rintro ⟨⟨hevent, href⟩, rfl, rfl⟩
      exact .inl ⟨hevent, href, rfl, rfl⟩
    · rintro (⟨hevent, href, rfl, rfl⟩ | ⟨claim, operations, -, hinsert, -⟩)
      · exact ⟨⟨hevent, href⟩, rfl, rfl⟩
      · have hfresh := Table.fresh_of_insert hinsert eraseOperation_operationId_isKey
        change l.operation (erase.operationId event deviceRef) = none at hfresh
        rw [hfound] at hfresh
        cases hfresh
  | none =>
    simp only [commits_read_bind, reduceCtorEq, false_and, exists_false, false_or]
    -- under another id the event may not have an operation, for its id is unique too
    cases hevent : l.operations.get (·.sourceEventId) event.id with
    | some row =>
      simp only [commits_raiseIf_bind, commits_pure, not_not]
      refine iff_of_false ?_ ?_
      · rintro ⟨hid, -⟩
        exact Table.get_eq_none_iff.mp hfound row (Table.get_mem hevent) hid
      · rintro ⟨claim, operations, -, hinsert, -⟩
        have hfresh := Table.fresh_of_insert hinsert eraseOperation_sourceEventId_isKey
        change l.operations.get (·.sourceEventId) event.id = none at hfresh
        rw [hevent] at hfresh
        cases hfresh
    | none =>
      simp only [commits_read_bind, commits_demand_bind, commits_update?_bind, commits_pure,
        Option.map_eq_some_iff]
      constructor
      · rintro ⟨claim, hclaim, _, ⟨operations, hinsert, rfl⟩, rfl, rfl⟩
        exact ⟨claim, operations, hclaim, hinsert, rfl, rfl⟩
      · rintro ⟨claim, operations, hclaim, hinsert, rfl, rfl⟩
        exact ⟨claim, hclaim, _, ⟨operations, hinsert, rfl⟩, rfl, rfl⟩

/-- The operation of an event: addressed to its generation, under the id they determine. -/
structure Instructs (erase : DeviceErase) (event : Event) (deviceRef : DeviceRef)
    (row : EraseOperationRow) : Prop where
  operationId : row.operationId = erase.operationId event deviceRef
  sourceEventId : row.sourceEventId = event.id
  deviceRef : row.deviceRef = deviceRef

/-- The event revokes this generation. -/
def Revokes (event : Event) (deviceRef : DeviceRef) : Prop :=
  ∃ reason at', event.data = .revoked deviceRef reason at'

/-- What a pass over these events leaves: each has its operation, and what is new was created for one
of them from the Claim of its generation. -/
structure Materialized (erase : DeviceErase) (l : EraseLedger) (events : List Event) (l' : EraseLedger) :
    Prop where
  tables : l'.tables = l.tables
  evidence : l'.evidence = l.evidence
  created : ∃ created, l'.operations.rows = l.operations.rows ++ created ∧ ∀ row ∈ created,
    ∃ event ∈ events, ∃ deviceRef claim, Revokes event deviceRef ∧ claimOf l deviceRef = some claim ∧
      row = erase.operationFor event deviceRef claim
  complete : ∀ event ∈ events, ∃ deviceRef, Revokes event deviceRef ∧
    ∃ row ∈ l'.operations, Instructs erase event deviceRef row

theorem materializeEvents_commits {events : List Event} {n : Nat}
    (h : Commits (erase.materializeEvents events) l n l') : Materialized erase l events l' := by
  induction events generalizing l n with
  | nil =>
    obtain ⟨-, rfl⟩ := commits_pure.mp h
    exact ⟨rfl, rfl, ⟨[], (List.append_nil _).symm, by simp⟩, by simp⟩
  | cons event events ih =>
    obtain ⟨c, l₁, hround, hrest⟩ := commits_bind.mp h
    obtain ⟨rest, _, hrest, hreturn⟩ := commits_bind.mp hrest
    obtain ⟨-, rfl⟩ := commits_pure.mp hreturn
    obtain ⟨htables, hevidence, ⟨later, hrows, hlater⟩, hcomplete⟩ := ih hrest
    obtain ⟨deviceRef, hrevokes, hround⟩ : ∃ deviceRef, Revokes event deviceRef ∧
        Commits (erase.materializeRevocation event deviceRef) l c l₁ := by
      unfold materializeEvent at hround
      split at hround
      · next deviceRef reason at' hdata => exact ⟨deviceRef, ⟨reason, at', hdata⟩, hround⟩
      · exact absurd (commits_raise.mp hround) id
    -- the event has its operation already, or gets it now
    rcases materializeRevocation_commits.mp hround with
      ⟨row, hrow, hevent, href, -, rfl⟩ | ⟨claim, operations, hclaim, hinsert, -, rfl⟩
    · refine ⟨htables, hevidence, ⟨later, hrows, fun row hrow => ?_⟩, ?_⟩
      · obtain ⟨event', hmem, hcreated⟩ := hlater row hrow
        exact ⟨event', List.mem_cons_of_mem _ hmem, hcreated⟩
      · rintro event' hmem
        rcases List.mem_cons.mp hmem with rfl | hmem
        · refine ⟨deviceRef, hrevokes, row, ?_, Table.get_key hrow, hevent, href⟩
          rw [Table.mem_def, hrows]
          exact List.mem_append_left _ (Table.get_mem hrow)
        · exact hcomplete event' hmem
    · have hadded := Table.insert?_rows hinsert
      refine ⟨htables, hevidence, ⟨erase.operationFor event deviceRef claim :: later, ?_, ?_⟩, ?_⟩
      · rw [hrows]
        show operations.rows ++ later = _
        rw [hadded, List.append_assoc, List.singleton_append]
      · intro row hrow
        rcases List.mem_cons.mp hrow with rfl | hrow
        · exact ⟨event, List.mem_cons_self, deviceRef, claim, hrevokes, hclaim, rfl⟩
        · obtain ⟨event', hmem, hcreated⟩ := hlater row hrow
          exact ⟨event', List.mem_cons_of_mem _ hmem, hcreated⟩
      · rintro event' hmem
        rcases List.mem_cons.mp hmem with rfl | hmem
        · refine ⟨deviceRef, hrevokes, erase.operationFor event' deviceRef claim, ?_, rfl, rfl, rfl⟩
          rw [Table.mem_def, hrows]
          refine List.mem_append_left _ ?_
          show _ ∈ operations.rows
          rw [hadded]
          exact List.mem_append_right _ (List.mem_singleton_self _)
        · exact hcomplete event' hmem

theorem materializeClaimEvents_commits {n : Nat} (h : Commits erase.materializeClaimEvents l n l') :
    Materialized erase l (revocations l.tables) l' := by
  obtain ⟨-, hread⟩ := commits_raiseIf_bind.mp h
  exact materializeEvents_commits (commits_read_bind.mp hread)

/-! ### One transaction -/

/-- An acknowledgement that is new to the ledger: what was checked, and what it left. -/
structure Acknowledges (erase : DeviceErase) (ack : EraseAck) (receivedAt : Timestamp)
    (row : EraseOperationRow) (l l' : EraseLedger) : Prop where
  found : l.operation ack.operationId = some row
  deviceRef : ack.deviceRef = row.command.deviceRef
  verified : ∃ key, row.publicKeySpki = some key ∧ erase.verifyDeviceEraseAck ack key = true
  fresh : l.evidence.get (·.key) (ack.operationId, ack.ackSequence) = none
  tables : l'.tables = l.tables
  operations : l'.operations = l.operations.modify (·.operationId) ack.operationId
    (.acknowledge ack receivedAt) (EraseOperationRow.keeps fun _ => EraseOperationRow.acknowledge_identity)
  evidence : l'.evidence.rows = l.evidence.rows ++
    [evidenceFor ack (erase.ackFingerprint ack) receivedAt row]

/-- What a transaction does to the ledger. -/
inductive Change (erase : DeviceErase) (l l' : EraseLedger) : Prop where
  | unchanged (operations : l'.operations = l.operations) (evidence : l'.evidence = l.evidence)
  | materialized (materialized : Materialized erase l (revocations l.tables) l')
  | moved (f : EraseOperationRow → EraseOperationRow) (moves : ∀ row, Moves erase row (f row))
      (operations : l'.operations.rows = l.operations.rows.map f) (evidence : l'.evidence = l.evidence)
  | acknowledged (ack : EraseAck) (receivedAt : Timestamp) (row : EraseOperationRow)
      (acknowledges : Acknowledges erase ack receivedAt row l l')

/-- Rewriting one row moves the rows. -/
theorem modify_moved {f : EraseOperationRow → EraseOperationRow} (hf : Table.Keeps f)
    (hmoves : ∀ row, Moves erase row (f row)) {operationId : OperationId} :
    Change erase l { l with operations := l.operations.modify (·.operationId) operationId f hf } := by
  refine .moved (fun row => if row.operationId = operationId then f row else row) ?_ rfl rfl
  intro row
  split
  · exact hmoves row
  · exact .kept row

theorem rearmLapsed_commits {operationId : OperationId} {operation : EraseOperation} :
    Commits (erase.rearmLapsed operationId now) l operation l' ↔ ∃ row, l.operation operationId = some row ∧
      operation = (erase.rearmed now row).decode ∧
      l' = { l with
        operations := l.operations.modify (·.operationId) operationId (erase.rearmed now)
          (EraseOperationRow.keeps fun _ => erase.rearmed_identity) } := by
  simp only [rearmLapsed, rewrite, commits_raiseIf_bind, commits_read_bind, commits_demand_bind,
    commits_update_bind, commits_pure, Int.not_le.mpr erase.operationTtl_pos, not_false_eq_true, true_and]

theorem acceptDelivery_commits {operationId : OperationId} {deliveryAttemptId : String}
    {acceptedAt : Timestamp} {operation : EraseOperation} :
    Commits (acceptDelivery operationId deliveryAttemptId acceptedAt) l operation l' ↔
      ∃ row, l.operation operationId = some row ∧
      operation = (row.deliver deliveryAttemptId acceptedAt).decode ∧
      l' = { l with
        operations := l.operations.modify (·.operationId) operationId (.deliver deliveryAttemptId acceptedAt)
          (EraseOperationRow.keeps fun _ => EraseOperationRow.deliver_identity) } := by
  simp only [acceptDelivery, rewrite, commits_read_bind, commits_demand_bind, commits_update_bind,
    commits_pure]

theorem ackChecked_some {ack : EraseAck} {operation : EraseOperation} :
    erase.ackChecked ack (some operation) = .ok () ↔ ack.deviceRef = operation.command.deviceRef ∧
      ∃ key, operation.publicKeySpki = some key ∧ erase.verifyDeviceEraseAck ack key = true := by
  simp only [ackChecked]
  by_cases href : ack.deviceRef = operation.command.deviceRef
  · cases hkey : operation.publicKeySpki with
    | none => simp [href]
    | some key => simp [href]
  · simp [href]

theorem ackChecked_ok {ack : EraseAck} :
    erase.ackChecked ack (get l ack.operationId) = .ok () ↔ ∃ row, l.operation ack.operationId = some row ∧
      ack.deviceRef = row.command.deviceRef ∧
      ∃ key, row.publicKeySpki = some key ∧ erase.verifyDeviceEraseAck ack key = true := by
  unfold get
  cases hrow : l.operation ack.operationId with
  | none => simp [ackChecked]
  | some row =>
    rw [Option.map_some, ackChecked_some]
    simp only [EraseOperationRow.decode, Option.some.injEq, exists_eq_left']

/-- **An accepted acknowledgement** is on file already, or it is new. -/
theorem acknowledge_commits {ack : EraseAck} {receivedAt : Timestamp} {operation : EraseOperation}
    (h : Commits (erase.acknowledge ack receivedAt) l operation l') :
    (l' = l ∧ ∃ row, l.operation ack.operationId = some row ∧ operation = row.decode ∧ ∃ e ∈ l.evidence,
      e.key = (ack.operationId, ack.ackSequence) ∧ e.ackFingerprint = erase.ackFingerprint ack) ∨
      ∃ row, Acknowledges erase ack receivedAt row l l' ∧
        operation = (row.acknowledge ack receivedAt).decode := by
  simp only [acknowledge, commits_read_bind, commits_lift_bind] at h
  obtain ⟨_, hchecked, happly⟩ := h
  obtain ⟨row, hrow, href, hverified⟩ := ackChecked_ok.mp hchecked
  unfold applyAck at happly
  simp only [commits_read_bind, commits_demand_bind] at happly
  obtain ⟨row', hrow', happly⟩ := happly
  rw [hrow] at hrow'
  cases hrow'
  cases hevidence : l.evidence.get (·.key) (ack.operationId, ack.ackSequence) with
  | some e =>
    rw [hevidence] at happly
    obtain ⟨hsame, hreturn⟩ := commits_raiseIf_bind.mp happly
    obtain ⟨rfl, rfl⟩ := commits_pure.mp hreturn
    exact .inl ⟨rfl, row, hrow, rfl, e, Table.get_mem hevidence, Table.get_key hevidence, not_not.mp hsame⟩
  | none =>
    rw [hevidence] at happly
    simp only [rewrite, commits_update_bind, commits_update?_bind, commits_pure,
      Option.map_eq_some_iff] at happly
    obtain ⟨_, ⟨evidence, hinsert, rfl⟩, rfl, rfl⟩ := happly
    exact .inr ⟨row, ⟨hrow, href, hverified, hevidence, rfl, rfl, Table.insert?_rows hinsert⟩, rfl⟩

/-- **What a transaction does**: it creates operations, it moves rows, it records an acknowledgement,
or it leaves the ledger as it is. -/
theorem next_change (l : EraseLedger) (request : EraseRequest) : Change erase l (erase.next l request) := by
  have hsame : Change erase l l := .unchanged rfl rfl
  cases request with
  | admission request => exact .unchanged rfl rfl
  | materialize =>
    rcases attempt_cases erase.materializeClaimEvents l with ⟨n, h⟩ | ⟨-, h⟩
    · exact .materialized (materializeClaimEvents_commits h)
    · rw [next, h]
      exact hsame
  | markAcceptedPending now =>
    exact .moved (.markPending now) (fun _ => markPending_moves) rfl rfl
  | expireDue now => exact .moved (.expireDue now) (fun _ => expireDue_moves) rfl rfl
  | rearmLapsed operationId now =>
    rcases attempt_cases (erase.rearmLapsed operationId now) l with ⟨operation, h⟩ | ⟨-, h⟩
    · obtain ⟨row, -, -, h⟩ := rearmLapsed_commits.mp h
      rw [next, h]
      exact modify_moved _ fun _ => rearmed_moves
    · rw [next, h]
      exact hsame
  | acceptDelivery operationId deliveryAttemptId acceptedAt =>
    rcases attempt_cases (acceptDelivery operationId deliveryAttemptId acceptedAt) l with
      ⟨operation, h⟩ | ⟨-, h⟩
    · obtain ⟨row, -, -, h⟩ := acceptDelivery_commits.mp h
      rw [next, h]
      exact modify_moved _ fun _ => deliver_moves
    · rw [next, h]
      exact hsame
  | acknowledge ack receivedAt =>
    rcases attempt_cases (erase.acknowledge ack receivedAt) l with ⟨operation, h⟩ | ⟨-, h⟩
    · rcases acknowledge_commits h with ⟨hsame', -⟩ | ⟨row, hacknowledges, -⟩
      · rw [next, hsame']
        exact hsame
      · exact .acknowledged ack receivedAt row hacknowledges
    · rw [next, h]
      exact hsame

/-! ### The invariant -/

/-- The row was settled by this piece of evidence. -/
structure SettledBy (row : EraseOperationRow) (e : AckEvidenceRow) : Prop where
  acknowledgedAt : row.acknowledgedAt = some e.receivedAt
  terminalResult : row.terminalResult = some e.result
  resultCode : row.resultCode = e.resultCode
  state : row.state = if e.result = "erased" then .acknowledged else .permanentFailure

/-- The evidence is of an acknowledgement of this row, signed with its key. -/
def Attests (erase : DeviceErase) (row : EraseOperationRow) (e : AckEvidenceRow) : Prop :=
  ∃ ack key, e.key = (ack.operationId, ack.ackSequence) ∧ row.operationId = ack.operationId ∧
    ack.deviceRef = row.deviceRef ∧ row.publicKeySpki = some key ∧
    erase.verifyDeviceEraseAck ack key = true ∧ e.ackFingerprint = erase.ackFingerprint ack

/-- The rows are consistent, each settled one has its one piece of applied evidence, the others have
none, and all evidence is attested. -/
structure Coherent (erase : DeviceErase) (l : EraseLedger) : Prop where
  rows : ∀ row ∈ l.operations, Consistent erase row
  settled : ∀ row ∈ l.operations, row.state.isSettled = true →
    ∃ e, l.applied row.operationId = [e] ∧ SettledBy row e
  unsettled : ∀ row ∈ l.operations, row.state.isSettled = false → l.applied row.operationId = []
  attested : ∀ e ∈ l.evidence, ∃ row ∈ l.operations, Attests erase row e

theorem operationId_of_identity (h : row'.identity = row.identity) : row'.operationId = row.operationId := by
  have hid : row'.identity.operationId = row.identity.operationId := congrArg _ h
  exact hid

theorem Attests.of_identity {e : AckEvidenceRow} (h : Attests erase row e)
    (hidentity : row'.identity = row.identity) : Attests erase row' e := by
  obtain ⟨ack, key, he, hid, href, hkey, hverify, hfingerprint⟩ := h
  have href' : row'.identity.deviceRef = row.identity.deviceRef := congrArg _ hidentity
  have hkey' : row'.identity.publicKeySpki = row.identity.publicKeySpki := congrArg _ hidentity
  exact ⟨ack, key, he, (operationId_of_identity hidentity).trans hid, href.trans href'.symm,
    Eq.trans hkey' hkey, hverify, hfingerprint⟩

/-- What a transaction leaves of the rows: each stays under its identity, and as it is once it is
settled. -/
def Keeps (l l' : EraseLedger) : Prop :=
  ∀ row ∈ l.operations, ∃ row' ∈ l'.operations, row'.identity = row.identity ∧
    (row.state.isSettled = true → row' = row)

instance : Std.Refl Keeps := ⟨fun _ row hrow => ⟨row, hrow, rfl, fun _ => rfl⟩⟩

instance : IsTrans EraseLedger Keeps where
  trans l l' l'' h h' := by
    intro row hrow
    obtain ⟨row', hrow', hidentity, hsettled⟩ := h row hrow
    obtain ⟨row'', hrow'', hidentity', hsettled'⟩ := h' row' hrow'
    refine ⟨row'', hrow'', hidentity'.trans hidentity, fun hs => ?_⟩
    have hsame := hsettled hs
    rw [hsettled' (hsame ▸ hs), hsame]

theorem acknowledge_settled {ack : EraseAck} {receivedAt : Timestamp} (hsettled : row.state.isSettled = true) :
    row.acknowledge ack receivedAt = row := by
  have hterminal : row.state.isTerminal = true := by
    cases hstate : row.state <;> rw [hstate] at hsettled <;> first | rfl | cases hsettled
  have hdue : row.dueAt receivedAt = row := by
    unfold EraseOperationRow.dueAt EraseOperationRow.expireDue
    rw [if_neg (by simp [hterminal])]
  unfold EraseOperationRow.acknowledge
  rw [hdue, if_pos hterminal]

theorem Acknowledges.mem {ack : EraseAck} {receivedAt : Timestamp}
    (h : Acknowledges erase ack receivedAt row l l') : row ∈ l.operations ∧ row.operationId = ack.operationId :=
  ⟨Table.get_mem h.found, Table.get_key h.found⟩

/-- The rows after an acknowledgement. -/
theorem Acknowledges.mem_operations {ack : EraseAck} {receivedAt : Timestamp}
    (h : Acknowledges erase ack receivedAt row l l') : row' ∈ l'.operations ↔
      row' = row.acknowledge ack receivedAt ∨ row' ∈ l.operations ∧ row'.operationId ≠ ack.operationId := by
  obtain ⟨hrow, hid⟩ := h.mem
  rw [h.operations, Table.mem_modify]
  constructor
  · rintro ⟨r, hr, rfl⟩
    by_cases hr' : r.operationId = ack.operationId
    · rw [if_pos hr']
      exact .inl (by rw [Table.eq_of_key eraseOperation_operationId_isKey hr hrow (hr'.trans hid.symm)])
    · rw [if_neg hr']
      exact .inr ⟨hr, hr'⟩
  · rintro (rfl | ⟨hr, hr'⟩)
    · exact ⟨row, hrow, (if_pos hid).symm⟩
    · exact ⟨row', hr, (if_neg hr').symm⟩

theorem Change.keeps (h : Change erase l l') : Keeps l l' := by
  intro row hrow
  cases h with
  | unchanged operations => exact ⟨row, operations ▸ hrow, rfl, fun _ => rfl⟩
  | materialized materialized =>
    obtain ⟨created, hrows, -⟩ := materialized.created
    refine ⟨row, ?_, rfl, fun _ => rfl⟩
    rw [Table.mem_def, hrows]
    exact List.mem_append_left _ hrow
  | moved f moves operations =>
    refine ⟨f row, ?_, (moves row).identity, fun hsettled => ?_⟩
    · rw [Table.mem_def, operations]
      exact List.mem_map_of_mem hrow
    · rcases (moves row).settled with hsame | ⟨hunsettled, -⟩
      · exact hsame
      · rw [hsettled] at hunsettled
        cases hunsettled
  | acknowledged ack receivedAt found acknowledges =>
    obtain ⟨hfound, hid⟩ := acknowledges.mem
    by_cases hrow' : row.operationId = ack.operationId
    · obtain rfl := Table.eq_of_key eraseOperation_operationId_isKey hrow hfound (hrow'.trans hid.symm)
      exact ⟨_, acknowledges.mem_operations.mpr (.inl rfl), EraseOperationRow.acknowledge_identity,
        acknowledge_settled⟩
    · exact ⟨row, acknowledges.mem_operations.mpr (.inr ⟨hrow, hrow'⟩), rfl, fun _ => rfl⟩

/-- What is on file after a transaction was before it, or was created by it. -/
theorem Change.origin (h : Change erase l l') (hrow : row' ∈ l'.operations) :
    (∃ row ∈ l.operations, row'.identity = row.identity) ∨
      ∃ event ∈ revocations l.tables, ∃ deviceRef claim, Revokes event deviceRef ∧
        claimOf l deviceRef = some claim ∧ row' = erase.operationFor event deviceRef claim := by
  cases h with
  | unchanged operations => exact .inl ⟨row', operations ▸ hrow, rfl⟩
  | materialized materialized =>
    obtain ⟨created, hrows, hcreated⟩ := materialized.created
    rw [Table.mem_def, hrows] at hrow
    rcases List.mem_append.mp hrow with hold | hnew
    · exact .inl ⟨row', hold, rfl⟩
    · exact .inr (hcreated row' hnew)
  | moved f moves operations =>
    rw [Table.mem_def, operations] at hrow
    obtain ⟨row, hfound, rfl⟩ := List.mem_map.mp hrow
    exact .inl ⟨row, hfound, (moves row).identity⟩
  | acknowledged ack receivedAt row acknowledges =>
    rcases acknowledges.mem_operations.mp hrow with rfl | ⟨hother, -⟩
    · exact .inl ⟨row, acknowledges.mem.1, EraseOperationRow.acknowledge_identity⟩
    · exact .inl ⟨row', hother, rfl⟩

/-- Every row is addressed to the device of its command, and all evidence is of an acknowledgement of
a row on file, signed with its key. -/
structure Filed (erase : DeviceErase) (l : EraseLedger) : Prop where
  addressed : ∀ row ∈ l.operations, row.command.deviceRef = row.deviceRef
  attested : ∀ e ∈ l.evidence, ∃ row ∈ l.operations, Attests erase row e

theorem Change.filed (hchange : Change erase l l') (h : Filed erase l) : Filed erase l' where
  addressed row' hrow' := by
    rcases hchange.origin hrow' with ⟨row, hrow, hidentity⟩ | ⟨event, -, deviceRef, claim, -, -, rfl⟩
    · have hcommand : row'.identity.command.deviceRef = row.identity.command.deviceRef :=
        congrArg (·.command.deviceRef) hidentity
      have href : row'.identity.deviceRef = row.identity.deviceRef := congrArg _ hidentity
      exact hcommand.trans ((h.addressed row hrow).trans href.symm)
    · rfl
  attested := by
    have hkept : ∀ e ∈ l.evidence, ∃ row ∈ l'.operations, Attests erase row e := by
      intro e he
      obtain ⟨row, hrow, hattests⟩ := h.attested e he
      obtain ⟨row', hrow', hidentity, -⟩ := hchange.keeps row hrow
      exact ⟨row', hrow', hattests.of_identity hidentity⟩
    cases hchange with
    | unchanged operations evidence => rwa [evidence]
    | materialized materialized => rwa [materialized.evidence]
    | moved f moves operations evidence => rwa [evidence]
    | acknowledged ack receivedAt row acknowledges =>
      obtain ⟨hrow, hid⟩ := acknowledges.mem
      obtain ⟨key, hkey, hverified⟩ := acknowledges.verified
      intro e he
      rw [Table.mem_def, acknowledges.evidence] at he
      rcases List.mem_append.mp he with he | he
      · exact hkept e he
      · rw [List.mem_singleton.mp he]
        refine ⟨row.acknowledge ack receivedAt, acknowledges.mem_operations.mpr (.inl rfl), ?_⟩
        refine Attests.of_identity ?_ EraseOperationRow.acknowledge_identity
        exact ⟨ack, key, rfl, hid, acknowledges.deviceRef.trans (h.addressed row hrow), hkey, hverified, rfl⟩

theorem applied_congr (h : l'.evidence = l.evidence) : l'.applied = l.applied := by
  funext operationId
  rw [EraseLedger.applied, h]
  rfl

/-- What is said of a row and the evidence for it. -/
def Accounted (l : EraseLedger) (row : EraseOperationRow) : Prop :=
  if row.state.isSettled then ∃ e, l.applied row.operationId = [e] ∧ SettledBy row e
  else l.applied row.operationId = []

theorem Coherent.accounted (h : Coherent erase l) (hrow : row ∈ l.operations) : Accounted l row := by
  unfold Accounted
  split
  · next hsettled => exact h.settled row hrow hsettled
  · next hunsettled => exact h.unsettled row hrow (Bool.eq_false_iff.mpr hunsettled)

theorem Coherent.of_accounted (hrows : ∀ row ∈ l.operations, Consistent erase row ∧ Accounted l row)
    (hattested : ∀ e ∈ l.evidence, ∃ row ∈ l.operations, Attests erase row e) : Coherent erase l where
  rows row hrow := (hrows row hrow).1
  settled row hrow hsettled := by
    have haccounted := (hrows row hrow).2
    rwa [Accounted, if_pos hsettled] at haccounted
  unsettled row hrow hunsettled := by
    have haccounted := (hrows row hrow).2
    rwa [Accounted, if_neg (by simp [hunsettled])] at haccounted
  attested := hattested

theorem Accounted.kept (happlied : l'.applied row.operationId = l.applied row.operationId)
    (h : Accounted l row) : Accounted l' row := by
  unfold Accounted at h ⊢
  rwa [happlied]

/-- A move leaves a row that is accounted for. -/
theorem Moves.accounted (hmoves : Moves erase row row') (happlied : l'.applied row.operationId =
    l.applied row.operationId) (h : Accounted l row) : Accounted l' row' := by
  rcases hmoves.settled with rfl | ⟨hunsettled, hunsettled'⟩
  · exact h.kept happlied
  · unfold Accounted at h ⊢
    rw [if_neg (by simp [hunsettled])] at h
    rw [if_neg (by simp [hunsettled']), operationId_of_identity hmoves.identity, happlied, h]

/-- **Every transaction keeps the ledger coherent**, where no acknowledgement that verifies has the
result of a deadline. -/
theorem Change.coherent
    (hresults : ∀ ack key, erase.verifyDeviceEraseAck ack key = true → ack.result ≠ deadlineExpired)
    (hchange : Change erase l l') (h : Coherent erase l) : Coherent erase l' := by
  have hattested := (hchange.filed ⟨fun row hrow => (h.rows row hrow).deviceRef, h.attested⟩).attested
  cases hchange with
  | unchanged operations evidence =>
    refine .of_accounted (fun row hrow => ?_) hattested
    rw [operations] at hrow
    exact ⟨h.rows row hrow, (h.accounted hrow).kept (by rw [applied_congr evidence])⟩
  | materialized materialized =>
    obtain ⟨created, hrows, hcreated⟩ := materialized.created
    refine .of_accounted (fun row hrow => ?_) hattested
    have happlied := applied_congr materialized.evidence
    have hmem := hrow
    rw [Table.mem_def, hrows] at hmem
    rcases List.mem_append.mp hmem with hold | hnew
    · exact ⟨h.rows row hold, (h.accounted hold).kept (by rw [happlied])⟩
    · obtain ⟨event, -, deviceRef, claim, -, -, rfl⟩ := hcreated row hnew
      refine ⟨operationFor_consistent, ?_⟩
      rw [Accounted, if_neg (by simp [operationFor, EraseState.isSettled]), happlied, EraseLedger.applied,
        List.filter_eq_nil_iff]
      intro e he happlies
      -- its evidence would be of a row that is on file already, and that one is not settled
      obtain ⟨found, hfound, ack, key, hkey, hid, -⟩ := h.attested e he
      have hoperation : found.operationId = (erase.operationFor event deviceRef claim).operationId := by
        rw [hid, ← (of_decide_eq_true happlies).1]
        exact (congrArg Prod.fst hkey).symm
      have hfound' : found ∈ l'.operations := by
        rw [Table.mem_def, hrows]
        exact List.mem_append_left _ hfound
      have hsame := Table.eq_of_key eraseOperation_operationId_isKey hfound' hrow hoperation
      have hnone := h.unsettled found hfound (by rw [hsame]; rfl)
      rw [hoperation, EraseLedger.applied, List.filter_eq_nil_iff] at hnone
      exact hnone e he happlies
  | moved f moves operations evidence =>
    refine .of_accounted (fun row hrow => ?_) hattested
    rw [Table.mem_def, operations] at hrow
    obtain ⟨found, hfound, rfl⟩ := List.mem_map.mp hrow
    exact ⟨(moves found).consistent (h.rows found hfound),
      (moves found).accounted (by rw [applied_congr evidence]) (h.accounted hfound)⟩
  | acknowledged ack receivedAt row acknowledges =>
    obtain ⟨hrow, hid⟩ := acknowledges.mem
    obtain ⟨key, -, hverified⟩ := acknowledges.verified
    have happlied : ∀ operationId, l'.applied operationId = l.applied operationId ++
        if ack.operationId = operationId ∧ (row.dueAt receivedAt).state.isTerminal = false then
          [evidenceFor ack (erase.ackFingerprint ack) receivedAt row] else [] := by
      intro operationId
      rw [EraseLedger.applied, acknowledges.evidence, List.filter_append]
      congr 1
      simp [evidenceFor, List.filter_singleton]
    refine .of_accounted (fun row' hrow' => ?_) hattested
    rcases acknowledges.mem_operations.mp hrow' with rfl | ⟨hother, hne⟩
    · rcases acknowledge_cases row ack receivedAt with ⟨hterminal, hsame⟩ |
        ⟨hlive, hlive', hsame⟩
      · rw [hsame]
        have hmoves : Moves erase row (row.dueAt receivedAt) := expireDue_moves
        refine ⟨hmoves.consistent (h.rows row hrow), hmoves.accounted ?_ (h.accounted hrow)⟩
        rw [happlied, if_neg (by simp [hterminal]), List.append_nil]
      · rw [hsame]
        refine ⟨settle_consistent (hresults ack key hverified) (h.rows row hrow), ?_⟩
        have hsettled : (row.settle ack receivedAt).state.isSettled = true := by
          unfold EraseOperationRow.settle
          dsimp only
          split <;> rfl
        rw [Accounted, if_pos hsettled]
        refine ⟨evidenceFor ack (erase.ackFingerprint ack) receivedAt row, ?_, rfl, rfl, rfl, rfl⟩
        show l'.applied row.operationId = _
        rw [happlied, if_pos ⟨hid.symm, hlive⟩, h.unsettled row hrow (isSettled_of_not_terminal hlive'),
          List.nil_append]
    · refine ⟨h.rows row' hother, (h.accounted hother).kept ?_⟩
      rw [happlied, if_neg (fun hsame => hne hsame.1.symm), List.append_nil]

theorem coherent_empty : Coherent erase .empty where
  rows _ hrow := absurd hrow Table.not_mem_empty
  settled _ hrow := absurd hrow Table.not_mem_empty
  unsettled _ hrow := absurd hrow Table.not_mem_empty
  attested _ he := absurd he Table.not_mem_empty

end DeviceErase

end EidolonHub.Devices
