import EidolonHub.Devices.Control

/-!
# EidolonHub.Devices.Erase

**The ledger of erase instructions.** Each revocation of a Claim becomes one instruction to
the device to erase its data. The ledger holds it with its deadline and its state, and beside
it the evidence of every acknowledgement that came in. Each operation of the ledger is one
transaction; the columns it rewrites are a function of the row.
-/

namespace EidolonHub.Devices

open EidolonHub.Library EidolonHub.Library.Python EidolonHub.Admission

/-- The id of an instruction to erase. -/
abbrev OperationId := String

/-! ### Instructions -/

/-- `DeviceEraseState`. -/
inductive EraseState where
  | accepted | pending | deliveryAccepted | acknowledged | expired | permanentFailure
  deriving DecidableEq, Repr

/-- The device has answered for good. -/
def EraseState.isSettled : EraseState → Bool
  | acknowledged | permanentFailure => true
  | _ => false

/-- The states in which nothing is delivered. -/
def EraseState.isTerminal : EraseState → Bool
  | acknowledged | expired | permanentFailure => true
  | _ => false

/-- `DeviceLocalEraseCommand`. -/
structure EraseCommand where
  operationId : OperationId
  deviceRef : DeviceRef
  deadline : Timestamp
  deriving DecidableEq

/-- `DeviceLocalEraseAck`. -/
structure EraseAck where
  operationId : OperationId
  deviceRef : DeviceRef
  ackSequence : Nat
  result : String
  resultCode : String
  deviceMonotonicTime : Nat
  deviceSignature : String
  deriving DecidableEq

/-! ### The tables -/

/-- `DeviceEraseOperationRow`; its `command_json` holds the command. -/
structure EraseOperationRow where
  operationId : OperationId
  sourceEventId : EventId
  requestFingerprint : String
  deviceId : DeviceInstanceId
  ownerDomainId : OwnerDomainId
  ownerDomainGeneration : Nat
  claimGeneration : Nat
  trustEpoch : Nat
  acceptedManifestDigest : String
  publicKeySpki : Option Spki
  keyId : Option KeyId
  command : EraseCommand
  state : EraseState
  createdAt : Timestamp
  deadline : Timestamp
  attemptCount : Nat
  deliveryAttemptId : Option String
  deliveryAcceptedAt : Option Timestamp
  acknowledgedAt : Option Timestamp
  terminalResult : Option String
  resultCode : String
  lastErrorCode : String
  deriving DecidableEq

instance : Keyed EraseOperationRow where
  clash r s := decide (r.operationId = s.operationId) || decide (r.sourceEventId = s.sourceEventId)
  clash_symm _ _ := by simp [eq_comm]

theorem eraseOperation_operationId_isKey : Table.IsKey EraseOperationRow.operationId :=
  fun _ _ h => by simp [Keyed.clash, h]

theorem eraseOperation_sourceEventId_isKey : Table.IsKey EraseOperationRow.sourceEventId :=
  fun _ _ h => by simp [Keyed.clash, h]

/-- The generation the instruction is addressed to. -/
def EraseOperationRow.deviceRef (row : EraseOperationRow) : DeviceRef where
  deviceInstanceId := row.deviceId
  ownerDomainId := row.ownerDomainId
  ownerDomainGeneration := row.ownerDomainGeneration
  claimGeneration := row.claimGeneration
  trustEpoch := row.trustEpoch

/-- `DeviceEraseAckEvidenceRow`. -/
structure AckEvidenceRow where
  operationId : OperationId
  ackSequence : Nat
  ackFingerprint : String
  receivedAt : Timestamp
  applied : Bool
  result : String
  resultCode : String
  deriving DecidableEq

/-- Its primary key. -/
def AckEvidenceRow.key (row : AckEvidenceRow) : OperationId × Nat := (row.operationId, row.ackSequence)

instance : Keyed AckEvidenceRow where
  clash r s := r.key = s.key
  clash_symm _ _ := by simp [eq_comm]

theorem ackEvidence_key_isKey : Table.IsKey AckEvidenceRow.key :=
  fun _ _ h => by simpa [Keyed.clash] using h

/-- The database of the Hub with the tables of the ledger. -/
structure EraseLedger where
  tables : Tables
  operations : Table EraseOperationRow
  evidence : Table AckEvidenceRow

/-- Nothing is stored. -/
def EraseLedger.empty : EraseLedger := ⟨.empty, .empty, .empty⟩

/-- `session.get(DeviceEraseOperationRow, operation_id)`. -/
def EraseLedger.operation (l : EraseLedger) (operationId : OperationId) : Option EraseOperationRow :=
  l.operations.get (·.operationId) operationId

/-- What an operation of the ledger is refused with. -/
inductive EraseError where
  /-- a `KeyError` -/
  | key (operationId : OperationId)
  /-- a `ValueError` -/
  | value (message : String)
  /-- a `DeviceEraseIdempotencyConflict` -/
  | idempotency (message : String)
  /-- a `DeviceEraseGenerationConflict` -/
  | generation (message : String)
  /-- a `PermissionError` -/
  | permission (message : String)
  /-- a `DeviceEraseContractError`: a signature does not verify -/
  | contract
  deriving DecidableEq

/-- A transaction of the ledger. -/
abbrev EraseTx := Tx EraseLedger EraseError

/-- `DeviceEraseOperation`: a row, decoded. -/
structure EraseOperation where
  sourceEventId : EventId
  command : EraseCommand
  requestFingerprint : String
  publicKeySpki : Option Spki
  keyId : Option KeyId
  state : EraseState
  createdAt : Timestamp
  attemptCount : Nat
  deliveryAttemptId : Option String
  deliveryAcceptedAt : Option Timestamp
  acknowledgedAt : Option Timestamp
  terminalResult : Option String
  resultCode : String
  lastErrorCode : String
  deriving DecidableEq

/-- `_decode`. -/
def EraseOperationRow.decode (row : EraseOperationRow) : EraseOperation where
  sourceEventId := row.sourceEventId
  command := row.command
  requestFingerprint := row.requestFingerprint
  publicKeySpki := row.publicKeySpki
  keyId := row.keyId
  state := row.state
  createdAt := row.createdAt
  attemptCount := row.attemptCount
  deliveryAttemptId := row.deliveryAttemptId
  deliveryAcceptedAt := row.deliveryAcceptedAt
  acknowledgedAt := row.acknowledgedAt
  terminalResult := row.terminalResult
  resultCode := row.resultCode
  lastErrorCode := row.lastErrorCode

/-! ### What a transaction makes of a row -/

/-- The result of an instruction that no device has answered in time. -/
def deadlineExpired : String := "deadline-expired"

namespace EraseOperationRow

/-- The deadline has passed. -/
def expire (row : EraseOperationRow) : EraseOperationRow :=
  { row with
    state := .expired
    terminalResult := some deadlineExpired
    resultCode := "OPERATION_EXPIRED" }

/-- What `expire_due` makes of a row. -/
def expireDue (now : Timestamp) (row : EraseOperationRow) : EraseOperationRow :=
  if ¬ row.state.isTerminal ∧ row.deadline ≤ now then row.expire else row

/-- What `mark_accepted_pending` makes of a row. -/
def markPending (now : Timestamp) (row : EraseOperationRow) : EraseOperationRow :=
  if row.state = .accepted ∧ now < row.deadline then { row with state := .pending } else row

/-- What `accept_delivery` makes of a row. -/
def deliver (deliveryAttemptId : String) (acceptedAt : Timestamp) (row : EraseOperationRow) :
    EraseOperationRow :=
  if row.deadline ≤ acceptedAt then
    if row.state.isSettled then row else row.expire
  else if row.state.isTerminal then row
  else
    { row with
      attemptCount :=
        if row.deliveryAttemptId = some deliveryAttemptId then row.attemptCount
        else row.attemptCount + 1
      deliveryAttemptId := some deliveryAttemptId
      deliveryAcceptedAt := some acceptedAt
      state := .deliveryAccepted }

/-- The row as `apply_ack` finds it: a deadline that passed is noticed first. -/
def dueAt (receivedAt : Timestamp) (row : EraseOperationRow) : EraseOperationRow := row.expireDue receivedAt

/-- What `apply_ack` makes of a row that is not terminal. -/
def settle (ack : EraseAck) (receivedAt : Timestamp) (row : EraseOperationRow) : EraseOperationRow :=
  { row with
    acknowledgedAt := some receivedAt
    terminalResult := some ack.result
    resultCode := ack.resultCode
    state := if ack.result = "erased" then .acknowledged else .permanentFailure }

/-- What `apply_ack` makes of a row. -/
def acknowledge (ack : EraseAck) (receivedAt : Timestamp) (row : EraseOperationRow) : EraseOperationRow :=
  if (row.dueAt receivedAt).state.isTerminal then row.dueAt receivedAt else row.settle ack receivedAt

end EraseOperationRow

namespace EraseOperationRow

/-- The columns that are set once, when the row is created. -/
def identity (row : EraseOperationRow) : EraseOperationRow :=
  { row with
    command := { row.command with deadline := 0 }
    requestFingerprint := ""
    state := .accepted
    deadline := 0
    attemptCount := 0
    deliveryAttemptId := none
    deliveryAcceptedAt := none
    acknowledgedAt := none
    terminalResult := none
    resultCode := "" }

/-- What keeps the identity of a row can rewrite it in its table. -/
theorem keeps {f : EraseOperationRow → EraseOperationRow} (hf : ∀ row, (f row).identity = row.identity) :
    Table.Keeps f := by
  intro r s
  have hid : (f r).identity.operationId = r.identity.operationId := congrArg _ (hf r)
  have hevent : (f r).identity.sourceEventId = r.identity.sourceEventId := congrArg _ (hf r)
  change (f r).operationId = r.operationId at hid
  change (f r).sourceEventId = r.sourceEventId at hevent
  simp only [Keyed.clash, hid, hevent]

variable {row : EraseOperationRow}

theorem expireDue_identity {now : Timestamp} : (row.expireDue now).identity = row.identity := by
  unfold expireDue
  split <;> rfl

theorem markPending_identity {now : Timestamp} : (row.markPending now).identity = row.identity := by
  unfold markPending
  split <;> rfl

theorem deliver_identity {deliveryAttemptId : String} {acceptedAt : Timestamp} :
    (row.deliver deliveryAttemptId acceptedAt).identity = row.identity := by
  unfold deliver
  split
  · split <;> rfl
  · split <;> rfl

theorem acknowledge_identity {ack : EraseAck} {receivedAt : Timestamp} :
    (row.acknowledge ack receivedAt).identity = row.identity := by
  unfold acknowledge
  split
  · exact expireDue_identity
  · rfl

end EraseOperationRow

/-! ### The deployment -/

/-- Device Control's ledger: the contracts it rests on and its configuration. -/
structure DeviceErase where
  authority : AdmissionAuthority
  /-- `operation_fingerprint` -/
  operationFingerprint : EraseCommand → String
  /-- `canonical_bytes` of an acknowledgement -/
  canonicalBytes : EraseAck → String
  /-- `verify_device_erase_ack` returns -/
  verifyDeviceEraseAck : EraseAck → (publicKeySpki : Spki) → Bool
  /-- `verify_p256_signature` returns -/
  verifyP256Signature : (publicKeySpki : Spki) → Json → (signature : String) → Bool
  operationTtl : Duration
  /-- `erase_operation_ttl_seconds` is configured with `ge=300` -/
  operationTtl_pos : 0 < operationTtl

namespace DeviceErase

variable (erase : DeviceErase)

/-- `_operation_id`. -/
def operationId (event : Event) (deviceRef : DeviceRef) : OperationId :=
  let semantic := "device-local.erase\x00" ++ event.id ++ "\x00" ++ deviceRef.deviceInstanceId ++ "\x00" ++
    deviceRef.ownerDomainId ++ "\x00" ++ toString deviceRef.ownerDomainGeneration ++ "\x00" ++
    toString deviceRef.claimGeneration ++ "\x00" ++ toString deviceRef.trustEpoch
  "erase_" ++ String.ofList ((erase.authority.crypto.sha256 semantic).toList.take 48)

/-- The command a revocation becomes. -/
def commandFor (event : Event) (deviceRef : DeviceRef) : EraseCommand where
  operationId := erase.operationId event deviceRef
  deviceRef := deviceRef
  deadline := event.time + erase.operationTtl

/-- The row of a revocation: the key is that of the Claim. -/
def operationFor (event : Event) (deviceRef : DeviceRef) (claim : ClaimRow) : EraseOperationRow where
  operationId := erase.operationId event deviceRef
  sourceEventId := event.id
  requestFingerprint := erase.operationFingerprint (erase.commandFor event deviceRef)
  deviceId := deviceRef.deviceInstanceId
  ownerDomainId := deviceRef.ownerDomainId
  ownerDomainGeneration := deviceRef.ownerDomainGeneration
  claimGeneration := deviceRef.claimGeneration
  trustEpoch := deviceRef.trustEpoch
  acceptedManifestDigest := claim.manifestRef.digest
  publicKeySpki := some claim.operationalPublicKeySpki
  keyId := none
  command := erase.commandFor event deviceRef
  state := .accepted
  createdAt := event.time
  deadline := event.time + erase.operationTtl
  attemptCount := 0
  deliveryAttemptId := none
  deliveryAcceptedAt := none
  acknowledgedAt := none
  terminalResult := none
  resultCode := ""
  lastErrorCode := ""

/-- What `rearm_lapsed` makes of a row. -/
def rearmed (now : Timestamp) (row : EraseOperationRow) : EraseOperationRow :=
  let command := { row.command with deadline := now + erase.operationTtl }
  if row.state.isSettled ∨ row.state ≠ .expired ∧ now < row.deadline then row
  else
    { row with
      command
      requestFingerprint := erase.operationFingerprint command
      deadline := command.deadline
      state := .pending
      terminalResult := none
      resultCode := ""
      deliveryAttemptId := none
      deliveryAcceptedAt := none }

theorem rearmed_identity {now : Timestamp} {row : EraseOperationRow} :
    (erase.rearmed now row).identity = row.identity := by
  unfold rearmed
  dsimp only
  split <;> rfl

/-! ### Its transactions -/

/-- The Claim is of the generation that was revoked. -/
def claimOf (l : EraseLedger) (deviceRef : DeviceRef) : Option ClaimRow :=
  (l.tables.claims.get (·.deviceInstanceId) deviceRef.deviceInstanceId).filter
    fun claim => AdmissionAuthority.sameGeneration claim deviceRef

/-- One round of `materialize_claim_events`: how many rows it created. -/
def materializeRevocation (event : Event) (deviceRef : DeviceRef) : EraseTx Nat := do
  let operationId := erase.operationId event deviceRef
  match ← Tx.read fun l => l.operation operationId with
  | some existing =>
    Tx.raiseIf (existing.sourceEventId ≠ event.id ∨ existing.deviceRef ≠ deviceRef)
      (.idempotency "operation_id was reused for another Claim generation")
    return 0
  | none =>
    match ← Tx.read fun l => l.operations.get (·.sourceEventId) event.id with
    | some byEvent =>
      Tx.raiseIf (byEvent.operationId ≠ operationId)
        (.idempotency "Claim event was projected under another operation identity")
      return 0
    | none =>
      let claim ← Tx.demand (← Tx.read fun l => claimOf l deviceRef)
        (.idempotency "canonical ClaimRevoked event has no matching Claim generation")
      Tx.update? (fun l => (l.operations.insert? (erase.operationFor event deviceRef claim)).map
        fun operations => { l with operations }) (.value "the operation exists")
      return 1

/-- A round of the pass: the instruction for one event of the stream. -/
def materializeEvent (event : Event) : EraseTx Nat :=
  match event.data with
  | .revoked deviceRef _ _ => erase.materializeRevocation event deviceRef
  | _ => Tx.raise (.value "not a ClaimRevoked event")

/-- The rounds of a pass. -/
def materializeEvents : List Event → EraseTx Nat
  | [] => pure 0
  | event :: events => do
    let created ← erase.materializeEvent event
    let rest ← materializeEvents events
    return created + rest

/-- The revocations in the recovery stream, in its order. -/
def revocations (t : Tables) : List Event :=
  (t.stream.rows.filter fun row => row.eventType = .claimRevoked).map (·.event)

/-- `materialize_claim_events`. -/
def materializeClaimEvents : EraseTx Nat := do
  Tx.raiseIf (erase.operationTtl ≤ 0) (.value "device erase operation TTL must be positive")
  erase.materializeEvents (← Tx.read fun l => revocations l.tables)

/-- Rewrite the row of an operation. -/
def rewrite (operationId : OperationId) (f : EraseOperationRow → EraseOperationRow) (hf : Table.Keeps f) :
    EraseTx Unit :=
  Tx.update fun l => { l with operations := l.operations.modify (·.operationId) operationId f hf }

/-- `expire_due`: how many rows were due. -/
def expireDue (now : Timestamp) : EraseTx Nat := do
  let rows ← Tx.read fun l =>
    l.operations.rows.filter fun row => ¬ row.state.isTerminal ∧ row.deadline ≤ now
  Tx.update fun l => { l with
    operations := l.operations.map (.expireDue now) (EraseOperationRow.keeps fun _ => EraseOperationRow.expireDue_identity) }
  return rows.length

/-- `mark_accepted_pending`: how many rows were marked. -/
def markAcceptedPending (now : Timestamp) : EraseTx Nat := do
  let rows ← Tx.read fun l =>
    l.operations.rows.filter fun row => row.state = .accepted ∧ now < row.deadline
  Tx.update fun l => { l with
    operations := l.operations.map (.markPending now)
      (EraseOperationRow.keeps fun _ => EraseOperationRow.markPending_identity) }
  return rows.length

/-- `get`. -/
def get (l : EraseLedger) (operationId : OperationId) : Option EraseOperation :=
  (l.operation operationId).map (·.decode)

/-- `get_for_device`. -/
def getForDevice (l : EraseLedger) (deviceRef : DeviceRef) : Option EraseOperation :=
  (l.operations.get (·.deviceRef) deviceRef).map (·.decode)

/-- `rearm_lapsed`. -/
def rearmLapsed (operationId : OperationId) (now : Timestamp) : EraseTx EraseOperation := do
  Tx.raiseIf (erase.operationTtl ≤ 0) (.value "device erase operation TTL must be positive")
  let row ← Tx.demand (← Tx.read fun l => l.operation operationId) (.key operationId)
  rewrite operationId (erase.rearmed now) (EraseOperationRow.keeps fun _ => erase.rearmed_identity)
  return (erase.rearmed now row).decode

/-- `accept_delivery`. -/
def acceptDelivery (operationId : OperationId) (deliveryAttemptId : String) (acceptedAt : Timestamp) :
    EraseTx EraseOperation := do
  let row ← Tx.demand (← Tx.read fun l => l.operation operationId) (.key operationId)
  rewrite operationId (.deliver deliveryAttemptId acceptedAt)
    (EraseOperationRow.keeps fun _ => EraseOperationRow.deliver_identity)
  return (row.deliver deliveryAttemptId acceptedAt).decode

/-- The evidence of an acknowledgement that arrived at this row. -/
def evidenceFor (ack : EraseAck) (ackFingerprint : String) (receivedAt : Timestamp)
    (row : EraseOperationRow) : AckEvidenceRow where
  operationId := ack.operationId
  ackSequence := ack.ackSequence
  ackFingerprint := ackFingerprint
  receivedAt := receivedAt
  applied := ¬ (row.dueAt receivedAt).state.isTerminal
  result := ack.result
  resultCode := ack.resultCode

/-- `apply_ack`. -/
def applyAck (ack : EraseAck) (ackFingerprint : String) (receivedAt : Timestamp) :
    EraseTx EraseOperation := do
  let row ← Tx.demand (← Tx.read fun l => l.operation ack.operationId) (.key ack.operationId)
  match ← Tx.read fun l => l.evidence.get (·.key) (ack.operationId, ack.ackSequence) with
  | some existing =>
    Tx.raiseIf (existing.ackFingerprint ≠ ackFingerprint)
      (.idempotency "ack_sequence was reused with different content")
    return row.decode
  | none =>
    rewrite ack.operationId (.acknowledge ack receivedAt)
      (EraseOperationRow.keeps fun _ => EraseOperationRow.acknowledge_identity)
    Tx.update? (fun l => (l.evidence.insert? (evidenceFor ack ackFingerprint receivedAt row)).map
      fun evidence => { l with evidence }) (.value "the evidence exists")
    return (row.acknowledge ack receivedAt).decode

/-! ### The services that need no step of their own -/

/-- The fingerprint of an acknowledgement. -/
def ackFingerprint (ack : EraseAck) : String := erase.authority.crypto.digest (erase.canonicalBytes ack)

/-- What `AcknowledgeDeviceEraseOperation` checks of the operation it found. -/
def ackChecked (ack : EraseAck) : Option EraseOperation → Except EraseError Unit
  | none => .error (.key ack.operationId)
  | some operation =>
    if ack.deviceRef ≠ operation.command.deviceRef then
      .error (.generation "ACK DeviceRef does not match the operation Claim generation")
    else match operation.publicKeySpki with
    | none => .error (.permission "operation has no bound device ACK key")
    | some publicKeySpki =>
      if erase.verifyDeviceEraseAck ack publicKeySpki then .ok () else .error .contract

/-- `AcknowledgeDeviceEraseOperation.execute`, with nothing between its two transactions. -/
def acknowledge (ack : EraseAck) (receivedAt : Timestamp) : EraseTx EraseOperation := do
  Tx.lift (erase.ackChecked ack (← Tx.read fun l => get l ack.operationId))
  applyAck ack (erase.ackFingerprint ack) receivedAt

end DeviceErase

/-! ### Requests to the ledger -/

/-- A transaction on the database of the ledger. -/
inductive EraseRequest where
  | admission (request : Request)
  | materialize
  | markAcceptedPending (now : Timestamp)
  | expireDue (now : Timestamp)
  | rearmLapsed (operationId : OperationId) (now : Timestamp)
  | acceptDelivery (operationId : OperationId) (deliveryAttemptId : String) (acceptedAt : Timestamp)
  | acknowledge (ack : EraseAck) (receivedAt : Timestamp)

namespace DeviceErase

variable (erase : DeviceErase)

/-- The database after a transaction. -/
def next (l : EraseLedger) : EraseRequest → EraseLedger
  | .admission request => { l with tables := erase.authority.next l.tables request }
  | .materialize => Tx.attempt erase.materializeClaimEvents l
  | .markAcceptedPending now => Tx.attempt (markAcceptedPending now) l
  | .expireDue now => Tx.attempt (expireDue now) l
  | .rearmLapsed operationId now => Tx.attempt (erase.rearmLapsed operationId now) l
  | .acceptDelivery operationId deliveryAttemptId acceptedAt =>
    Tx.attempt (acceptDelivery operationId deliveryAttemptId acceptedAt) l
  | .acknowledge ack receivedAt => Tx.attempt (erase.acknowledge ack receivedAt) l

/-- Some sequence of transactions on a fresh database leads to this one. -/
def Reachable (l : EraseLedger) : Prop := Reaches erase.next .empty l

end DeviceErase

/-! ### A lamp that is lost -/

namespace Sample

/-- A ledger of the sample's Authority, where the device signs with its key. -/
def erase : DeviceErase where
  authority := Sample.authority
  operationFingerprint command := command.operationId ++ toString command.deadline
  canonicalBytes ack := ack.result
  verifyDeviceEraseAck ack key := ack.deviceSignature = key ∧ ack.result ∈ ["erased", "failed"]
  verifyP256Signature key _ signature := signature = key
  operationTtl := 300
  operationTtl_pos := by decide

theorem erase_results (ack : EraseAck) (key : Spki) (h : erase.verifyDeviceEraseAck ack key = true) :
    ack.result ≠ deadlineExpired := by
  obtain ⟨-, hresult⟩ := of_decide_eq_true h
  rintro heq
  rw [heq] at hresult
  exact absurd hresult (by decide)

/-- The lamp is claimed, and its owner revokes the Claim. -/
def lampLost : List Request := Sample.handoff "e" "k" ++ [Sample.ack "e" 1, Sample.revoke "revoke" "k" 1]

/-- The instruction to the lamp. -/
def lampOperation : OperationId :=
  "erase_device-local.erase\x00revoke\x00device-k\x00home\x001\x001\x001"

/-- The lamp has erased its data. -/
def lampErased : EraseAck where
  operationId := lampOperation
  deviceRef := Sample.deviceRef "k" 1
  ackSequence := 1
  result := "erased"
  resultCode := "OK"
  deviceMonotonicTime := 0
  deviceSignature := "k"

end Sample

end EidolonHub.Devices
