import EidolonHub.Admission.Commands
import EidolonHub.Channels.Provider
import EidolonHub.Library.Rounding
import EidolonHub.Library.Run
import EidolonHub.Library.Transaction

/-!
# EidolonHub.Channels.Revocations

**Delivering revocations to the Channel Provider.** A revoked Claim is an event of the recovery
stream. A pass of the reconciler first gives each such event a row, then sends those that are due
and marks what came of them; each of these is a transaction of its own, and the process may end
between any two. What a pass leaves behind is in the rows alone.

`Sound` is what every step keeps: the row of an event is named by the event, it is settled by an
answer to its own operation, and it counts the failures that were recorded for it. `Kept` is what a
later state owes to an earlier one.
-/

namespace EidolonHub.Channels.Revocations

open EidolonHub.Admission EidolonHub.Library

/-! ### Rows -/

/-- `pending`, or one of the two ways a revocation is done with. -/
inductive DeliveryState where
  | pending | delivered | fenced
  deriving DecidableEq

/-- `ChannelRevocationDeliveryRow`. -/
structure DeliveryRow where
  sourceEventId : EventId
  operationId : OperationId
  deviceId : DeviceInstanceId
  ownerDomainId : OwnerDomainId
  ownerDomainGeneration : Nat
  claimGeneration : Nat
  trustEpoch : Nat
  reason : String
  state : DeliveryState
  attemptCount : Nat
  nextAttemptAt : Timestamp
  deliveredAt : Option Timestamp
  resultCode : String
  lastError : String
  deriving DecidableEq

instance : Keyed DeliveryRow where
  clash r s := decide (r.sourceEventId = s.sourceEventId) || decide (r.operationId = s.operationId)
  clash_symm _ _ := by simp [eq_comm]

/-- `ChannelRevocationDelivery`. -/
structure Delivery where
  sourceEventId : EventId
  operationId : OperationId
  deviceRef : DeviceRef
  reason : String
  state : DeliveryState
  attemptCount : Nat
  nextAttemptAt : Timestamp
  deliveredAt : Option Timestamp
  resultCode : String
  lastError : String
  deriving DecidableEq

namespace DeliveryRow

/-- The reference that is revoked. -/
def deviceRef (row : DeliveryRow) : DeviceRef where
  deviceInstanceId := row.deviceId
  ownerDomainId := row.ownerDomainId
  ownerDomainGeneration := row.ownerDomainGeneration
  claimGeneration := row.claimGeneration
  trustEpoch := row.trustEpoch

/-- `_decode`. -/
def decode (row : DeliveryRow) : Delivery where
  sourceEventId := row.sourceEventId
  operationId := row.operationId
  deviceRef := row.deviceRef
  reason := row.reason
  state := row.state
  attemptCount := row.attemptCount
  nextAttemptAt := row.nextAttemptAt
  deliveredAt := row.deliveredAt
  resultCode := row.resultCode
  lastError := row.lastError

/-- What the Provider is sent for a row, and the event it is sent for. -/
def identity (row : DeliveryRow) : EventId × OperationId × DeviceRef × String :=
  (row.sourceEventId, row.operationId, row.deviceRef, row.reason)

/-- What `mark_terminal` makes of a row. -/
def settle (state : DeliveryState) (resultCode : String) (deliveredAt : Timestamp) (row : DeliveryRow) :
    DeliveryRow :=
  { row with state, deliveredAt := some deliveredAt, resultCode, lastError := "" }

/-- What `mark_retry` makes of a row. -/
def defer (attemptCount : Nat) (nextAttemptAt : Timestamp) (error : String) (row : DeliveryRow) :
    DeliveryRow :=
  { row with attemptCount, nextAttemptAt, lastError := String.ofList (error.toList.take 512) }

theorem sourceEventId_isKey : Table.IsKey DeliveryRow.sourceEventId := fun r s h => by
  simp [Keyed.clash, h]

theorem operationId_isKey : Table.IsKey DeliveryRow.operationId := fun r s h => by
  simp [Keyed.clash, h]

theorem settle_keeps {state : DeliveryState} {resultCode : String} {deliveredAt : Timestamp} :
    Table.Keeps (settle state resultCode deliveredAt) := fun _ _ => rfl

theorem defer_keeps {attemptCount : Nat} {nextAttemptAt : Timestamp} {error : String} :
    Table.Keeps (defer attemptCount nextAttemptAt error) := fun _ _ => rfl

end DeliveryRow

/-! ### The store -/

/-- What a call of the store raises. -/
inductive StoreError where
  /-- the stored event does not validate -/
  | validation
  | integrity
  | key (sourceEventId : EventId)
  | value (text : String)
  deriving DecidableEq

/-- A transaction of the store of deliveries. -/
abbrev StoreTx := Tx (Table DeliveryRow) StoreError

/-- `_operation_id`. -/
def operationId (crypto : Crypto) (eventId : EventId) : OperationId :=
  "channel-revoke-" ++ String.ofList ((crypto.sha256 eventId).toList.take 48)

/-- The data of a `ClaimRevokedEvent`; no other event validates as one. -/
def revocation (event : Admission.Event) : Option (DeviceRef × String) :=
  match event.data with
  | .revoked deviceRef reason _ => some (deviceRef, reason)
  | _ => none

/-- The row that is created for an event. -/
def deliveryFor (crypto : Crypto) (eventId : EventId) (deviceRef : DeviceRef) (reason : String)
    (now : Timestamp) : DeliveryRow where
  sourceEventId := eventId
  operationId := operationId crypto eventId
  deviceId := deviceRef.deviceInstanceId
  ownerDomainId := deviceRef.ownerDomainId
  ownerDomainGeneration := deviceRef.ownerDomainGeneration
  claimGeneration := deviceRef.claimGeneration
  trustEpoch := deviceRef.trustEpoch
  reason
  state := .pending
  attemptCount := 0
  nextAttemptAt := now
  deliveredAt := none
  resultCode := ""
  lastError := ""

/-- What an event says its row is. -/
def named (crypto : Crypto) (event : Admission.Event) :
    Option (EventId × OperationId × DeviceRef × String) :=
  (revocation event).map fun data => (event.id, operationId crypto event.id, data.1, data.2)

/-- The rows of the recovery stream that `materialize_claim_events` selects. -/
def revocations (stream : Table ClaimEventStreamRow) : List ClaimEventStreamRow :=
  (stream.rows.filter fun row => row.eventType = .claimRevoked).insertionSort
    fun r s => r.streamPosition ≤ s.streamPosition

/-- One round of `materialize_claim_events`. -/
def materializeEvent (crypto : Crypto) (now : Timestamp) (row : ClaimEventStreamRow) : StoreTx Nat := do
  match ← Tx.read fun deliveries => deliveries.get (·.sourceEventId) row.eventId with
  | some _ => return 0
  | none =>
    let data ← Tx.demand (revocation row.event) .validation
    Tx.update? (·.insert? (deliveryFor crypto row.event.id data.1 data.2 now)) .integrity
    return 1

/-- `materialize_claim_events`, for the rows it has selected. -/
def materializeClaimEvents (crypto : Crypto) (now : Timestamp) : List ClaimEventStreamRow → StoreTx Nat
  | [] => pure 0
  | row :: rows => do
    let created ← materializeEvent crypto now row
    let rest ← materializeClaimEvents crypto now rows
    return created + rest

/-- `list_due`. -/
def listDue (now : Timestamp) (limit : Int) : StoreTx (List Delivery) := do
  Tx.raiseIf (¬ (1 ≤ limit ∧ limit ≤ 100)) (.value "Channel reconciliation batch limit must be 1..100")
  Tx.read fun deliveries =>
    (((deliveries.rows.filter fun row => row.state = .pending ∧ row.nextAttemptAt ≤ now).insertionSort
      fun r s => r.nextAttemptAt ≤ s.nextAttemptAt).take limit.toNat).map DeliveryRow.decode

/-- `mark_terminal`. -/
def markTerminal (sourceEventId : EventId) (state : DeliveryState) (resultCode : String)
    (deliveredAt : Timestamp) : StoreTx Unit := do
  Tx.raiseIf (state = .pending)
    (.value "Channel terminal delivery state must be delivered or fenced")
  let row ← Tx.demand (← Tx.read fun deliveries => deliveries.get (·.sourceEventId) sourceEventId)
    (.key sourceEventId)
  if row.state = .pending then
    Tx.update fun deliveries => deliveries.modify (·.sourceEventId) sourceEventId
      (.settle state resultCode deliveredAt) DeliveryRow.settle_keeps

/-- `mark_retry`; whether it wrote. -/
def markRetry (sourceEventId : EventId) (attemptCount : Nat) (nextAttemptAt : Timestamp)
    (error : String) : StoreTx Bool := do
  let row ← Tx.demand (← Tx.read fun deliveries => deliveries.get (·.sourceEventId) sourceEventId)
    (.key sourceEventId)
  if row.state = .pending then
    Tx.update fun deliveries => deliveries.modify (·.sourceEventId) sourceEventId
      (.defer attemptCount nextAttemptAt error) DeliveryRow.defer_keeps
    return true
  else return false

/-! ### Passes -/

/-- What a call of `revoke` comes to: it returns, or it raises a `ChannelProviderError` or some
other exception. -/
inductive Outcome where
  | success
  | refused (error : ProviderError)
  | failed (exception : String)
  deriving DecidableEq

/-- What a pass makes of it. -/
inductive Verdict where
  | terminal (state : DeliveryState) (resultCode : String)
  | retry (error : String)
  deriving DecidableEq

/-- The clauses of `execute` around the call. -/
def Outcome.verdict : Outcome → Verdict
  | .success => .terminal .delivered "REVOKED"
  | .refused error =>
    if error.code = "STALE_GENERATION" then .terminal .fenced error.code else .retry error.code
  | .failed exception => .retry exception

/-- `timedelta(seconds=q)`: to the nearest microsecond. -/
def timedelta (seconds : ℚ) : Duration := roundHalfEven (seconds * 1000000)

/-- `ReconcileChannelRevocations`. -/
structure Reconciler where
  crypto : Crypto
  retryBase : ℚ := 1
  retryMax : ℚ := 60

variable (reconciler : Reconciler)

/-- The delay before an attempt is made again. -/
def Reconciler.delay (attempt : Nat) : ℚ :=
  min reconciler.retryMax (reconciler.retryBase * 2 ^ min (attempt - 1) 10)

/-- How far the pass of the reconciler has come. -/
inductive Pass where
  /-- no pass is running; what the last one of this process came to -/
  | resting (last : Option (Except StoreError Nat))
  | begun (now : Timestamp)
  | materialized (now : Timestamp)
  /-- the operations that are left, and how many have converged -/
  | working (converged : Nat) (rest : List Delivery)
  | calling (converged : Nat) (operation : Delivery) (rest : List Delivery)
  | answered (converged : Nat) (operation : Delivery) (outcome : Outcome) (rest : List Delivery)

/-- The operations a pass has read and not yet marked. -/
def Pass.operations : Pass → List Delivery
  | working _ rest => rest
  | calling _ operation rest => operation :: rest
  | answered _ operation _ rest => operation :: rest
  | _ => []

/-- What has happened between the Hub and the Provider. -/
inductive Entry where
  /-- a transaction has given these events their rows -/
  | materialized (now : Timestamp) (events : List Admission.Event)
  | called (operationId : OperationId) (deviceRef : DeviceRef) (reason : String)
  | answered (operationId : OperationId) (outcome : Outcome)
  /-- a failure is recorded, with the reading of the clock -/
  | failed (sourceEventId : EventId) (clock : Timestamp)
  deriving DecidableEq

/-- The readings at the failures recorded for an event. -/
def failures (log : List Entry) (sourceEventId : EventId) : List Timestamp :=
  log.filterMap fun
    | .failed id clock => if id = sourceEventId then some clock else none
    | _ => none

/-- What was sent to the Provider under an operation id. -/
def calls (log : List Entry) (operationId : OperationId) : List (DeviceRef × String) :=
  log.filterMap fun
    | .called id deviceRef reason => if id = operationId then some (deviceRef, reason) else none
    | _ => none

/-- The stream of Claim events, the rows of the store, where the pass stands, and what the Provider was
told. The log decides nothing. -/
structure World where
  stream : Table ClaimEventStreamRow := .empty
  deliveries : Table DeliveryRow := .empty
  pass : Pass := .resting none
  log : List Entry := []

/-- What happens: an event is published, the pass takes its next step, or the process dies. -/
inductive Action where
  /-- an event reaches the recovery stream -/
  | append (streamPosition : Nat) (event : Admission.Event) (occurredAt : Timestamp)
  | start (now : Timestamp)
  | materialize
  | list (limit : Int)
  /-- the next operation is sent, or the pass returns -/
  | call
  | answer (outcome : Outcome)
  | mark (clock : Timestamp)
  | crash

namespace World

variable (w : World)

/-- An event is published. The stream refuses a position or an id that it has. -/
def append (streamPosition : Nat) (event : Admission.Event) (occurredAt : Timestamp) : World :=
  match w.stream.insert?
      ⟨streamPosition, event.id, event.ownerDomainId, event.type, event, occurredAt⟩ with
  | some stream => { w with stream }
  | none => w

/-- The pass begins, unless one is under way. -/
def start (now : Timestamp) : World :=
  match w.pass with
  | .resting _ => { w with pass := .begun now }
  | _ => w

/-- The pass ends in what a transaction has raised. -/
def fail (error : StoreError) : World := { w with pass := .resting (some (.error error)) }

/-- The pass creates a row for each revocation that has none, or ends with what was raised. -/
def materialize : World :=
  match w.pass with
  | .begun now =>
    match materializeClaimEvents reconciler.crypto now (revocations w.stream) w.deliveries with
    | .ok (_, deliveries) =>
      { w with
        deliveries
        pass := .materialized now
        log := w.log ++ [.materialized now ((revocations w.stream).map (·.event))] }
    | .error error => w.fail error
  | _ => w

/-- The pass reads which rows are due. -/
def list (limit : Int) : World :=
  match w.pass with
  | .materialized now =>
    match listDue now limit w.deliveries with
    | .ok (operations, _) => { w with pass := .working 0 operations }
    | .error error => w.fail error
  | _ => w

/-- The Provider is told the next revocation that is due, or the pass is done. -/
def call : World :=
  match w.pass with
  | .working converged [] => { w with pass := .resting (some (.ok converged)) }
  | .working converged (operation :: rest) =>
    { w with
      pass := .calling converged operation rest
      log := w.log ++ [.called operation.operationId operation.deviceRef operation.reason] }
  | _ => w

/-- The call of the Provider returns. -/
def answer (outcome : Outcome) : World :=
  match w.pass with
  | .calling converged operation rest =>
    { w with
      pass := .answered converged operation outcome rest
      log := w.log ++ [.answered operation.operationId outcome] }
  | _ => w

/-- The operation has converged. -/
def settle (converged : Nat) (operation : Delivery) (rest : List Delivery) (state : DeliveryState)
    (resultCode : String) (clock : Timestamp) : World :=
  match markTerminal operation.sourceEventId state resultCode clock w.deliveries with
  | .ok (_, deliveries) => { w with deliveries, pass := .working (converged + 1) rest }
  | .error error => w.fail error

/-- `_retry`. -/
def retry (converged : Nat) (operation : Delivery) (rest : List Delivery) (error : String)
    (clock : Timestamp) : World :=
  let attempt := operation.attemptCount + 1
  match markRetry operation.sourceEventId attempt (clock + timedelta (reconciler.delay attempt)) error
      w.deliveries with
  | .ok (true, deliveries) =>
    { w with
      deliveries
      pass := .working converged rest
      log := w.log ++ [.failed operation.sourceEventId clock] }
  | .ok (false, deliveries) => { w with deliveries, pass := .working converged rest }
  | .error error => w.fail error

/-- The row is marked by the outcome of its call. -/
def mark (clock : Timestamp) : World :=
  match w.pass with
  | .answered converged operation outcome rest =>
    match outcome.verdict with
    | .terminal state resultCode => w.settle converged operation rest state resultCode clock
    | .retry error => w.retry reconciler converged operation rest error clock
  | _ => w

/-- The process dies; the stream, the rows and what was told stay. -/
def crash : World := { w with pass := .resting none }

/-- One action; where it does not come next, nothing happens. -/
def step : Action → World
  | .append streamPosition event occurredAt => w.append streamPosition event occurredAt
  | .start now => w.start now
  | .materialize => w.materialize reconciler
  | .list limit => w.list limit
  | .call => w.call
  | .answer outcome => w.answer outcome
  | .mark clock => w.mark reconciler clock
  | .crash => w.crash

end World

/-! ### The log -/

theorem failures_append (log log' : List Entry) (id : EventId) :
    failures (log ++ log') id = failures log id ++ failures log' id := by
  simp [failures]

theorem calls_append (log log' : List Entry) (id : OperationId) :
    calls (log ++ log') id = calls log id ++ calls log' id := by
  simp [calls]

/-! ### What the transactions do -/

section Transactions

variable {crypto : Crypto} {now : Timestamp} {t t' : Table DeliveryRow}

/-- What `materialize_claim_events` makes of the rows, for the part of the stream it has read. -/
structure Materialized (crypto : Crypto) (now : Timestamp) (rows : List ClaimEventStreamRow)
    (t t' : Table DeliveryRow) : Prop where
  kept : ∀ d ∈ t, d ∈ t'
  new : ∀ d ∈ t', d ∈ t ∨ ∃ row ∈ rows, ∃ data, revocation row.event = some data ∧
    d = deliveryFor crypto row.event.id data.1 data.2 now
  present : ∀ row ∈ rows, row.eventId = row.event.id → ∃ d ∈ t', d.sourceEventId = row.eventId

theorem materializeEvent_spec {row : ClaimEventStreamRow} {n : Nat}
    (h : Tx.Commits (materializeEvent crypto now row) t n t') : Materialized crypto now [row] t t' := by
  simp only [materializeEvent, Tx.commits_read_bind] at h
  split at h
  · next d hget =>
    obtain ⟨-, rfl⟩ := Tx.commits_pure.mp h
    refine ⟨fun d hd => hd, fun d hd => .inl hd, fun row' hrow' _ => ?_⟩
    rw [List.mem_singleton.mp hrow']
    exact ⟨d, Table.get_mem hget, Table.get_key hget⟩
  · simp only [Tx.commits_demand_bind, Tx.commits_update?_bind, Tx.commits_pure] at h
    obtain ⟨data, hdata, _, hinsert, -, rfl⟩ := h
    refine ⟨fun d hd => (Table.mem_insert hinsert).mpr (.inl hd), fun d hd => ?_, fun row' hrow' hid => ?_⟩
    · rcases (Table.mem_insert hinsert).mp hd with hd | rfl
      · exact .inl hd
      · exact .inr ⟨row, List.mem_singleton_self row, data, hdata, rfl⟩
    · rw [List.mem_singleton.mp hrow'] at hid ⊢
      exact ⟨_, (Table.mem_insert hinsert).mpr (.inr rfl), hid.symm⟩

theorem materializeClaimEvents_spec {rows : List ClaimEventStreamRow} {n : Nat}
    (h : Tx.Commits (materializeClaimEvents crypto now rows) t n t') :
    Materialized crypto now rows t t' := by
  induction rows generalizing t n with
  | nil =>
    obtain ⟨-, rfl⟩ := Tx.commits_pure.mp h
    exact ⟨fun d hd => hd, fun d hd => .inl hd, fun _ hrow => (nomatch hrow)⟩
  | cons row rows ih =>
    simp only [materializeClaimEvents, Tx.commits_bind, Tx.commits_pure] at h
    obtain ⟨_, t₁, hrow, _, _, hrows, -, rfl⟩ := h
    have hfirst := materializeEvent_spec hrow
    have hrest := ih hrows
    refine ⟨fun d hd => hrest.kept d (hfirst.kept d hd), fun d hd => ?_, fun row' hrow' hid => ?_⟩
    · rcases hrest.new d hd with hd | ⟨row', hrow', hd⟩
      · rcases hfirst.new d hd with hd | ⟨row', hrow', hd⟩
        · exact .inl hd
        · exact .inr ⟨row', List.mem_cons.mpr (.inl (List.mem_singleton.mp hrow')), hd⟩
      · exact .inr ⟨row', List.mem_cons_of_mem _ hrow', hd⟩
    · rcases List.mem_cons.mp hrow' with rfl | hrow'
      · obtain ⟨d, hd, hkey⟩ := hfirst.present _ (List.mem_singleton_self _) hid
        exact ⟨d, hrest.kept d hd, hkey⟩
      · exact hrest.present row' hrow' hid

theorem mem_revocations {stream : Table ClaimEventStreamRow} {row : ClaimEventStreamRow} :
    row ∈ revocations stream ↔ row ∈ stream ∧ row.eventType = .claimRevoked := by
  simp [revocations, Table.mem_def]

/-- Each row that is due is read once, and is pending. -/
theorem listDue_spec {limit : Int} {operations : List Delivery}
    (h : Tx.Commits (listDue now limit) t operations t') :
    t' = t ∧ (operations.map (·.sourceEventId)).Nodup ∧
      ∀ operation ∈ operations, ∃ d ∈ t, d.state = .pending ∧ d.decode = operation := by
  simp only [listDue, Tx.commits_raiseIf_bind, Tx.commits_read] at h
  obtain ⟨-, rfl, rfl⟩ := h
  refine ⟨rfl, ?_, ?_⟩
  · rw [List.map_map]
    refine List.Nodup.sublist ((List.take_sublist _ _).map _) ?_
    refine ((List.perm_insertionSort _ _).map _).nodup_iff.mpr ?_
    exact (t'.keys_nodup DeliveryRow.sourceEventId_isKey).sublist (List.filter_sublist.map _)
  · intro operation hoperation
    obtain ⟨d, hd, rfl⟩ := List.mem_map.mp hoperation
    have hmem := (List.mem_insertionSort _).mp (List.mem_of_mem_take hd)
    rw [List.mem_filter, decide_eq_true_eq] at hmem
    exact ⟨d, hmem.1, hmem.2.1, rfl⟩

theorem markTerminal_spec {id : EventId} {state : DeliveryState} {resultCode : String}
    {clock : Timestamp} {d : DeliveryRow} (hd : d ∈ t) (hid : d.sourceEventId = id)
    (hpending : d.state = .pending) (h : Tx.Commits (markTerminal id state resultCode clock) t () t') :
    t' = t.modify (·.sourceEventId) id (.settle state resultCode clock) DeliveryRow.settle_keeps := by
  have hget : t.get (·.sourceEventId) id = some d :=
    (Table.get_eq_some_iff DeliveryRow.sourceEventId_isKey).mpr ⟨hd, hid⟩
  simp only [markTerminal, Tx.commits_raiseIf_bind, Tx.commits_read_bind, Tx.commits_demand_bind, hget,
    Option.some.injEq] at h
  obtain ⟨-, _, rfl, h⟩ := h
  rw [if_pos hpending] at h
  exact Tx.commits_update.mp h

theorem markRetry_spec {id : EventId} {attemptCount : Nat} {nextAttemptAt : Timestamp}
    {error : String} {wrote : Bool} {d : DeliveryRow} (hd : d ∈ t) (hid : d.sourceEventId = id)
    (hpending : d.state = .pending)
    (h : Tx.Commits (markRetry id attemptCount nextAttemptAt error) t wrote t') :
    wrote = true ∧ t' = t.modify (·.sourceEventId) id (.defer attemptCount nextAttemptAt error)
      DeliveryRow.defer_keeps := by
  have hget : t.get (·.sourceEventId) id = some d :=
    (Table.get_eq_some_iff DeliveryRow.sourceEventId_isKey).mpr ⟨hd, hid⟩
  simp only [markRetry, Tx.commits_read_bind, Tx.commits_demand_bind, hget, Option.some.injEq] at h
  obtain ⟨_, rfl, h⟩ := h
  rw [if_pos hpending] at h
  simpa using h

end Transactions

/-! ### What every step keeps -/

/-- What is in a row of the log: a settled row rests on an answer to its own operation, and a row
counts the failures recorded for it and waits from the last one. -/
structure Booked (log : List Entry) (d : DeliveryRow) : Prop where
  delivered : d.state = .delivered → .answered d.operationId .success ∈ log
  fenced : d.state = .fenced → ∃ error, error.code = "STALE_GENERATION" ∧
    .answered d.operationId (.refused error) ∈ log
  counted : d.attemptCount = (failures log d.sourceEventId).length
  due : ∀ clock ∈ (failures log d.sourceEventId).getLast?,
    d.nextAttemptAt ≤ clock + timedelta reconciler.retryMax

/-- The rows, for what is in the stream and what has happened. -/
structure Rows (stream : Table ClaimEventStreamRow) (deliveries : Table DeliveryRow)
    (log : List Entry) : Prop where
  streamIds : ∀ row ∈ stream, row.eventId = row.event.id
  recorded : ∀ {now events}, .materialized now events ∈ log → ∀ event ∈ events,
    (∃ row ∈ stream, row.event = event) ∧ ∃ d ∈ deliveries, d.sourceEventId = event.id
  origin : ∀ d ∈ deliveries, ∃ now events event, .materialized now events ∈ log ∧ event ∈ events ∧
    named reconciler.crypto event = some d.identity ∧
    (failures log d.sourceEventId = [] → d.nextAttemptAt = now)
  called : ∀ {id deviceRef reason}, .called id deviceRef reason ∈ log → ∃ d ∈ deliveries,
    d.operationId = id ∧ d.deviceRef = deviceRef ∧ d.reason = reason
  failed : ∀ {id}, failures log id ≠ [] → ∃ d ∈ deliveries, d.sourceEventId = id
  booked : ∀ d ∈ deliveries, Booked reconciler log d

/-- What the pass has read, and not yet marked. -/
structure Listed (deliveries : Table DeliveryRow) (pass : Pass) (log : List Entry) : Prop where
  pending : ∀ operation ∈ pass.operations, ∃ d ∈ deliveries, d.state = .pending ∧ d.decode = operation
  distinct : (pass.operations.map (·.sourceEventId)).Nodup
  heard : ∀ {converged operation outcome rest}, pass = .answered converged operation outcome rest →
    .answered operation.operationId outcome ∈ log

/-- The rows stand for revocations of the stream, and what the pass has read is among them. -/
structure Sound (w : World) : Prop where
  rows : Rows reconciler w.stream w.deliveries w.log
  listed : Listed w.deliveries w.pass w.log

variable {reconciler} {stream stream' : Table ClaimEventStreamRow} {deliveries deliveries' : Table DeliveryRow}
variable {log extra : List Entry}

/-- A row is booked as it was when no more failures are recorded for it. -/
theorem Booked.append {d : DeliveryRow} (h : Booked reconciler log d)
    (hnone : failures extra d.sourceEventId = []) : Booked reconciler (log ++ extra) d := by
  have hfailures : failures (log ++ extra) d.sourceEventId = failures log d.sourceEventId := by
    rw [failures_append, hnone, List.append_nil]
  constructor
  case delivered => exact fun hstate => List.mem_append_left _ (h.delivered hstate)
  case fenced =>
    intro hstate
    obtain ⟨error, hcode, hmem⟩ := h.fenced hstate
    exact ⟨error, hcode, List.mem_append_left _ hmem⟩
  case counted => rw [hfailures, h.counted]
  case due =>
    rw [hfailures]
    exact h.due

namespace Rows

theorem append {row : ClaimEventStreamRow} (h : Rows reconciler stream deliveries log)
    (hid : row.eventId = row.event.id) (hinsert : stream.insert? row = some stream') :
    Rows reconciler stream' deliveries log := by
  refine { h with streamIds := fun row' hrow' => ?_, recorded := fun hmem event hevent => ?_ }
  · rcases (Table.mem_insert hinsert).mp hrow' with hrow' | rfl
    · exact h.streamIds row' hrow'
    · exact hid
  · obtain ⟨⟨row', hrow', heq⟩, hd⟩ := h.recorded hmem event hevent
    exact ⟨⟨row', (Table.mem_insert hinsert).mpr (.inl hrow'), heq⟩, hd⟩

theorem materialize {now : Timestamp} (h : Rows reconciler stream deliveries log)
    (hspec : Materialized reconciler.crypto now (revocations stream) deliveries deliveries') :
    Rows reconciler stream deliveries'
      (log ++ [.materialized now ((revocations stream).map (·.event))]) := by
  have hfailures : ∀ id, failures (log ++ [.materialized now ((revocations stream).map (·.event))]) id =
      failures log id := fun id => by simp [failures]
  -- what is not an old row was created just now, and no failure is recorded for it
  have hnew : ∀ d ∈ deliveries', d ∉ deliveries → failures log d.sourceEventId = [] ∧
      ∃ row ∈ revocations stream, ∃ data, revocation row.event = some data ∧
        d = deliveryFor reconciler.crypto row.event.id data.1 data.2 now := by
    intro d hd hnot
    refine ⟨?_, (hspec.new d hd).resolve_left hnot⟩
    by_contra hne
    obtain ⟨d₀, hd₀, hkey⟩ := h.failed hne
    rw [Table.eq_of_key DeliveryRow.sourceEventId_isKey (hspec.kept d₀ hd₀) hd hkey] at hd₀
    exact hnot hd₀
  constructor
  case streamIds => exact h.streamIds
  case recorded =>
    intro now' events hmem event hevent
    rcases List.mem_append.mp hmem with hmem | hmem
    · obtain ⟨hrow, d, hd, hkey⟩ := h.recorded hmem event hevent
      exact ⟨hrow, d, hspec.kept d hd, hkey⟩
    · cases List.mem_singleton.mp hmem
      obtain ⟨row, hrow, rfl⟩ := List.mem_map.mp hevent
      have hstream := (mem_revocations.mp hrow).1
      obtain ⟨d, hd, hkey⟩ := hspec.present row hrow (h.streamIds row hstream)
      exact ⟨⟨row, hstream, rfl⟩, d, hd, hkey.trans (h.streamIds row hstream)⟩
  case origin =>
    intro d hd
    rw [hfailures]
    by_cases hold : d ∈ deliveries
    · obtain ⟨now', events, event, hmem, hrest⟩ := h.origin d hold
      exact ⟨now', events, event, List.mem_append_left _ hmem, hrest⟩
    · obtain ⟨-, row, hrow, data, hdata, rfl⟩ := hnew d hd hold
      refine ⟨now, _, row.event, List.mem_append_right _ (List.mem_singleton_self _),
        List.mem_map_of_mem hrow, ?_, fun _ => rfl⟩
      simp only [named, hdata, Option.map_some]
      rfl
  case called =>
    intro id deviceRef reason hmem
    obtain ⟨d, hd, hsame⟩ := h.called ((List.mem_append.mp hmem).resolve_right (by simp))
    exact ⟨d, hspec.kept d hd, hsame⟩
  case failed =>
    intro id hne
    rw [hfailures] at hne
    obtain ⟨d, hd, hkey⟩ := h.failed hne
    exact ⟨d, hspec.kept d hd, hkey⟩
  case booked =>
    intro d hd
    by_cases hold : d ∈ deliveries
    · exact (h.booked d hold).append (by simp [failures])
    · obtain ⟨hnone, row, hrow, data, hdata, rfl⟩ := hnew d hd hold
      refine ⟨fun hstate => (nomatch hstate), fun hstate => (nomatch hstate), ?_, ?_⟩
      · rw [hfailures, hnone]
        rfl
      · rw [hfailures, hnone]
        exact fun _ hclock => (nomatch hclock)

/-- Rows that keep their names, with what was exchanged or recorded for them. -/
theorem change (h : Rows reconciler stream deliveries log)
    (hkept : ∀ d ∈ deliveries, ∃ d' ∈ deliveries', d'.identity = d.identity)
    (hrow : ∀ d' ∈ deliveries', ∃ d ∈ deliveries, d'.identity = d.identity ∧
      Booked reconciler (log ++ extra) d' ∧
      (failures extra d.sourceEventId = [] → d'.nextAttemptAt = d.nextAttemptAt))
    (hrecorded : ∀ now events, .materialized now events ∉ extra)
    (hcalled : ∀ id deviceRef reason, .called id deviceRef reason ∈ extra → ∃ d ∈ deliveries,
      d.operationId = id ∧ d.deviceRef = deviceRef ∧ d.reason = reason)
    (hfailed : ∀ id, failures extra id ≠ [] → ∃ d ∈ deliveries, d.sourceEventId = id) :
    Rows reconciler stream deliveries' (log ++ extra) := by
  have hfound : ∀ {id}, (∃ d ∈ deliveries, d.sourceEventId = id) →
      ∃ d' ∈ deliveries', d'.sourceEventId = id := by
    rintro id ⟨d, hd, rfl⟩
    obtain ⟨d', hd', hsame⟩ := hkept d hd
    exact ⟨d', hd', congrArg Prod.fst hsame⟩
  constructor
  case streamIds => exact h.streamIds
  case recorded =>
    intro now events hmem event hevent
    have hold := (List.mem_append.mp hmem).resolve_right (hrecorded now events)
    exact ⟨(h.recorded hold event hevent).1, hfound (h.recorded hold event hevent).2⟩
  -- a row's next attempt is that of its event until a failure of its own moves it
  case origin =>
    intro d' hd'
    obtain ⟨d, hd, hsame, -, hnext⟩ := hrow d' hd'
    have hkey : d'.sourceEventId = d.sourceEventId := congrArg Prod.fst hsame
    obtain ⟨now, events, event, hmem, hevent, hnamed, hwaits⟩ := h.origin d hd
    refine ⟨now, events, event, List.mem_append_left _ hmem, hevent, hsame ▸ hnamed, fun hnone => ?_⟩
    rw [hkey, failures_append, List.append_eq_nil_iff] at hnone
    exact (hnext hnone.2).trans (hwaits hnone.1)
  case called =>
    intro id deviceRef reason hmem
    obtain ⟨d, hd, hoperation, href, hreason⟩ : ∃ d ∈ deliveries,
        d.operationId = id ∧ d.deviceRef = deviceRef ∧ d.reason = reason := by
      rcases List.mem_append.mp hmem with hmem | hmem
      · exact h.called hmem
      · exact hcalled id deviceRef reason hmem
    obtain ⟨d', hd', hsame⟩ := hkept d hd
    simp only [DeliveryRow.identity, Prod.mk.injEq] at hsame
    exact ⟨d', hd', hsame.2.1.trans hoperation, hsame.2.2.1.trans href, hsame.2.2.2.trans hreason⟩
  case failed =>
    intro id hne
    by_cases hold : failures log id = []
    · rw [failures_append, hold, List.nil_append] at hne
      exact hfound (hfailed id hne)
    · exact hfound (h.failed hold)
  case booked =>
    intro d' hd'
    obtain ⟨d, -, -, hbooked, -⟩ := hrow d' hd'
    exact hbooked

/-- What is exchanged with the Provider changes no row. -/
theorem exchange {entry : Entry} (h : Rows reconciler stream deliveries log)
    (hfailures : ∀ id, failures [entry] id = [])
    (hrecorded : ∀ now events, entry ≠ .materialized now events)
    (hcalled : ∀ id deviceRef reason, entry = .called id deviceRef reason → ∃ d ∈ deliveries,
      d.operationId = id ∧ d.deviceRef = deviceRef ∧ d.reason = reason) :
    Rows reconciler stream deliveries (log ++ [entry]) := by
  refine h.change (fun d hd => ⟨d, hd, rfl⟩) (fun d hd => ⟨d, hd, rfl, ?_, fun _ => rfl⟩)
    (fun now events hmem => hrecorded now events (List.mem_singleton.mp hmem).symm)
    (fun id deviceRef reason hmem => hcalled id deviceRef reason (List.mem_singleton.mp hmem).symm)
    (fun id hne => absurd (hfailures id) hne)
  exact (h.booked d hd).append (hfailures _)

variable {id : EventId}

/-- A row and what is made of it have the same name. -/
theorem modify_kept {f : DeliveryRow → DeliveryRow} {hf : Table.Keeps f}
    (hidentity : ∀ d, (f d).identity = d.identity) :
    ∀ d ∈ deliveries, ∃ d' ∈ deliveries.modify (·.sourceEventId) id f hf,
      d'.identity = d.identity := by
  intro d hd
  refine ⟨_, Table.mem_modify.mpr ⟨d, hd, rfl⟩, ?_⟩
  split
  · exact hidentity d
  · rfl

theorem settle {state : DeliveryState} {resultCode : String} {clock : Timestamp}
    (h : Rows reconciler stream deliveries log)
    (hanswer : ∀ d ∈ deliveries, d.sourceEventId = id →
      Booked reconciler log (d.settle state resultCode clock)) :
    Rows reconciler stream
      (deliveries.modify (·.sourceEventId) id (.settle state resultCode clock) DeliveryRow.settle_keeps)
      log := by
  rw [← List.append_nil log]
  refine h.change (modify_kept fun _ => rfl) (fun d' hd' => ?_) (fun _ _ hmem => (nomatch hmem))
    (fun _ _ _ hmem => (nomatch hmem)) (fun _ hne => absurd rfl hne)
  rw [List.append_nil]
  obtain ⟨d, hd, rfl⟩ := Table.mem_modify.mp hd'
  refine ⟨d, hd, ?_⟩
  split
  · next hid => exact ⟨rfl, hanswer d hd hid, fun _ => rfl⟩
  · exact ⟨rfl, h.booked d hd, fun _ => rfl⟩

theorem defer {d : DeliveryRow} {nextAttemptAt clock : Timestamp} {error : String}
    (h : Rows reconciler stream deliveries log) (hd : d ∈ deliveries) (hpending : d.state = .pending)
    (hnext : nextAttemptAt ≤ clock + timedelta reconciler.retryMax) :
    Rows reconciler stream
      (deliveries.modify (·.sourceEventId) d.sourceEventId
        (.defer (d.attemptCount + 1) nextAttemptAt error) DeliveryRow.defer_keeps)
      (log ++ [.failed d.sourceEventId clock]) := by
  refine h.change (modify_kept fun _ => rfl) (fun e' he' => ?_) (by simp) (by simp) (fun id hne => ?_)
  · obtain ⟨e, he, rfl⟩ := Table.mem_modify.mp he'
    refine ⟨e, he, ?_⟩
    split
    · next hkey =>
      obtain rfl := Table.eq_of_key DeliveryRow.sourceEventId_isKey he hd hkey
      have hfailures : failures (log ++ [.failed e.sourceEventId clock]) e.sourceEventId =
          failures log e.sourceEventId ++ [clock] := by simp [failures]
      have hone : failures [.failed e.sourceEventId clock] e.sourceEventId ≠ [] := by simp [failures]
      refine ⟨rfl, ⟨fun hstate => ?_, fun hstate => ?_, ?_, ?_⟩, fun hnone => absurd hnone hone⟩
      · exact absurd (hpending.symm.trans hstate) (by decide)
      · exact absurd (hpending.symm.trans hstate) (by decide)
      · show e.attemptCount + 1 = (failures _ e.sourceEventId).length
        rw [hfailures, List.length_append, (h.booked e hd).counted]
        rfl
      · show ∀ c ∈ (failures _ e.sourceEventId).getLast?, nextAttemptAt ≤ c + _
        rw [hfailures, List.getLast?_append, List.getLast?_singleton]
        simpa using hnext
    · next hkey =>
      have hother : failures [.failed d.sourceEventId clock] e.sourceEventId = [] := by
        simp [failures, Ne.symm hkey]
      exact ⟨rfl, (h.booked e he).append hother, fun _ => rfl⟩
  · refine ⟨d, hd, ?_⟩
    by_contra hkey
    exact hne (by simp [failures, hkey])

end Rows

/-! ### What one action does -/

theorem timedelta_mono {p q : ℚ} (h : p ≤ q) : timedelta p ≤ timedelta q :=
  roundHalfEven_mono (mul_le_mul_of_nonneg_right h (by norm_num))

theorem Outcome.verdict_terminal {outcome : Outcome} {state : DeliveryState} {resultCode : String}
    (h : outcome.verdict = .terminal state resultCode) :
    (outcome = .success ∧ state = .delivered) ∨
      ∃ error, outcome = .refused error ∧ error.code = "STALE_GENERATION" ∧ state = .fenced := by
  cases outcome with
  | success =>
    cases h
    exact .inl ⟨rfl, rfl⟩
  | refused error =>
    simp only [verdict] at h
    split at h
    · next hcode =>
      cases h
      exact .inr ⟨error, rfl, hcode, rfl⟩
    · cases h
  | failed exception => cases h

variable (reconciler) in
/-- What an action can do to a world with the invariant. -/
inductive Effect (w : World) : World → Prop where
  | same : Effect w w
  | appended {row : ClaimEventStreamRow} {stream : Table ClaimEventStreamRow}
      (hid : row.eventId = row.event.id) (hinsert : w.stream.insert? row = some stream) :
      Effect w { w with stream }
  | paused {pass : Pass} (hnone : pass.operations = []) : Effect w { w with pass }
  | materialized {now : Timestamp} {deliveries : Table DeliveryRow}
      (hspec : Materialized reconciler.crypto now (revocations w.stream) w.deliveries deliveries) :
      Effect w { w with
        deliveries
        pass := .materialized now
        log := w.log ++ [.materialized now ((revocations w.stream).map (·.event))] }
  | listed {operations : List Delivery} (hdistinct : (operations.map (·.sourceEventId)).Nodup)
      (hpending : ∀ operation ∈ operations, ∃ d ∈ w.deliveries, d.state = .pending ∧
        d.decode = operation) :
      Effect w { w with pass := .working 0 operations }
  | called {converged : Nat} {operation : Delivery} {rest : List Delivery}
      (hpass : w.pass = .working converged (operation :: rest)) :
      Effect w { w with
        pass := .calling converged operation rest
        log := w.log ++ [.called operation.operationId operation.deviceRef operation.reason] }
  | answered {converged : Nat} {operation : Delivery} {rest : List Delivery} {outcome : Outcome}
      (hpass : w.pass = .calling converged operation rest) :
      Effect w { w with
        pass := .answered converged operation outcome rest
        log := w.log ++ [.answered operation.operationId outcome] }
  | settled {converged : Nat} {outcome : Outcome} {rest : List Delivery} {d : DeliveryRow}
      {state : DeliveryState} {resultCode : String} {clock : Timestamp}
      (hpass : w.pass = .answered converged d.decode outcome rest)
      (hverdict : outcome.verdict = .terminal state resultCode)
      (hd : d ∈ w.deliveries) (hpending : d.state = .pending) :
      Effect w { w with
        deliveries := w.deliveries.modify (·.sourceEventId) d.sourceEventId
          (.settle state resultCode clock) DeliveryRow.settle_keeps
        pass := .working (converged + 1) rest }
  | deferred {converged : Nat} {outcome : Outcome} {rest : List Delivery} {d : DeliveryRow}
      {nextAttemptAt clock : Timestamp} {error : String}
      (hpass : w.pass = .answered converged d.decode outcome rest)
      (hnext : nextAttemptAt ≤ clock + timedelta reconciler.retryMax)
      (hd : d ∈ w.deliveries) (hpending : d.state = .pending) :
      Effect w { w with
        deliveries := w.deliveries.modify (·.sourceEventId) d.sourceEventId
          (.defer (d.attemptCount + 1) nextAttemptAt error) DeliveryRow.defer_keeps
        pass := .working converged rest
        log := w.log ++ [.failed d.sourceEventId clock] }

variable {w w' : World}

theorem effect_materialize : Effect reconciler w (w.materialize reconciler) := by
  unfold World.materialize
  split
  · split
    · next hcommits => exact .materialized (materializeClaimEvents_spec hcommits)
    · exact .paused rfl
  · exact .same

theorem effect_list {limit : Int} : Effect reconciler w (w.list limit) := by
  unfold World.list
  split
  · split
    · next hcommits =>
      obtain ⟨-, hdistinct, hpending⟩ := listDue_spec hcommits
      exact .listed hdistinct hpending
    · exact .paused rfl
  · exact .same

theorem effect_settle {converged : Nat} {outcome : Outcome} {rest : List Delivery} {d : DeliveryRow}
    {state : DeliveryState} {resultCode : String} {clock : Timestamp}
    (hpass : w.pass = .answered converged d.decode outcome rest)
    (hverdict : outcome.verdict = .terminal state resultCode)
    (hd : d ∈ w.deliveries) (hpending : d.state = .pending) :
    Effect reconciler w (w.settle converged d.decode rest state resultCode clock) := by
  unfold World.settle
  split
  · next hcommits =>
    rw [markTerminal_spec hd rfl hpending hcommits]
    exact .settled hpass hverdict hd hpending
  · exact .paused rfl

theorem effect_retry {converged : Nat} {outcome : Outcome} {rest : List Delivery} {d : DeliveryRow}
    {error : String} {clock : Timestamp} (hpass : w.pass = .answered converged d.decode outcome rest)
    (hd : d ∈ w.deliveries) (hpending : d.state = .pending) :
    Effect reconciler w (w.retry reconciler converged d.decode rest error clock) := by
  have hnext : clock + timedelta (reconciler.delay (d.attemptCount + 1)) ≤
      clock + timedelta reconciler.retryMax :=
    Int.add_le_add_left (timedelta_mono (min_le_left _ _)) clock
  simp only [World.retry]
  split
  · next hcommits =>
    obtain ⟨-, rfl⟩ := markRetry_spec hd rfl hpending hcommits
    exact .deferred hpass hnext hd hpending
  · next hcommits => exact absurd (markRetry_spec hd rfl hpending hcommits).1 Bool.false_ne_true
  · exact .paused rfl

theorem effect_mark {clock : Timestamp} (h : Sound reconciler w) :
    Effect reconciler w (w.mark reconciler clock) := by
  unfold World.mark
  split
  · next converged operation outcome rest hpass =>
    obtain ⟨d, hd, hpending, rfl⟩ := h.listed.pending operation (by rw [hpass]; exact List.mem_cons_self)
    split
    · next hverdict => exact effect_settle hpass hverdict hd hpending
    · exact effect_retry hpass hd hpending
  · exact .same

theorem effect_step (h : Sound reconciler w) (a : Action) : Effect reconciler w (w.step reconciler a) := by
  cases a with
  | append streamPosition event occurredAt =>
    simp only [World.step, World.append]
    split
    · next hinsert => exact .appended rfl hinsert
    · exact .same
  | start now =>
    simp only [World.step, World.start]
    split
    · exact .paused rfl
    · exact .same
  | materialize => exact effect_materialize
  | list limit => exact effect_list
  | call =>
    simp only [World.step, World.call]
    split
    · exact .paused rfl
    · next hpass => exact .called hpass
    · exact .same
  | answer outcome =>
    simp only [World.step, World.answer]
    split
    · next hpass => exact .answered hpass
    · exact .same
  | mark clock => exact effect_mark h
  | crash => exact .paused rfl

/-! ### Every action keeps the invariant -/

theorem Listed.of_none {pass : Pass} (hnone : pass.operations = []) : Listed deliveries pass log := by
  constructor
  case pending => simp [hnone]
  case distinct => simp [hnone]
  case heard =>
    rintro _ _ _ _ rfl
    cases hnone

/-- Marking one operation leaves the others as they were read. -/
theorem Listed.marked {pass : Pass} {d : DeliveryRow} {rest : List Delivery} {converged : Nat}
    {f : DeliveryRow → DeliveryRow} (hf : Table.Keeps f) (h : Listed deliveries pass log)
    (hoperations : pass.operations = d.decode :: rest) :
    Listed (deliveries.modify (·.sourceEventId) d.sourceEventId f hf) (.working converged rest) extra := by
  have hdistinct := h.distinct
  rw [hoperations, List.map_cons, List.nodup_cons] at hdistinct
  refine ⟨fun operation hoperation => ?_, hdistinct.2, fun hpass => (nomatch hpass)⟩
  obtain ⟨e, he, hpending, rfl⟩ := h.pending operation (by
    rw [hoperations]
    exact List.mem_cons_of_mem _ hoperation)
  have hother : e.sourceEventId ≠ d.sourceEventId := fun heq =>
    hdistinct.1 (List.mem_map.mpr ⟨_, hoperation, heq⟩)
  exact ⟨e, Table.mem_modify.mpr ⟨e, he, (if_neg hother).symm⟩, hpending, rfl⟩

/-- The row of an operation that has been read. -/
theorem Listed.row {pass : Pass} {operation : Delivery} {rest : List Delivery}
    (h : Listed deliveries pass log) (hoperations : pass.operations = operation :: rest) :
    ∃ d ∈ deliveries, d.state = .pending ∧ d.decode = operation :=
  h.pending operation (by rw [hoperations]; exact List.mem_cons_self)

theorem Effect.sound (heffect : Effect reconciler w w') (h : Sound reconciler w) : Sound reconciler w' := by
  cases heffect with
  | same => exact h
  | appended hid hinsert => exact ⟨h.rows.append hid hinsert, h.listed⟩
  | paused hnone => exact ⟨h.rows, .of_none hnone⟩
  | materialized hspec => exact ⟨h.rows.materialize hspec, .of_none rfl⟩
  | listed hdistinct hpending => exact ⟨h.rows, hpending, hdistinct, fun hpass => (nomatch hpass)⟩
  -- a call carries out the row that is listed first
  | @called converged operation rest hpass =>
    have hlisted := h.listed
    rw [hpass] at hlisted
    obtain ⟨d, hd, -, rfl⟩ := hlisted.row rfl
    refine ⟨h.rows.exchange (fun _ => rfl) (fun _ _ heq => (nomatch heq)) ?_, hlisted.pending,
      hlisted.distinct, fun hpass => (nomatch hpass)⟩
    intro id deviceRef reason heq
    cases heq
    exact ⟨d, hd, rfl, rfl, rfl⟩
  | @answered converged operation rest outcome hpass =>
    have hlisted := h.listed
    rw [hpass] at hlisted
    refine ⟨h.rows.exchange (fun _ => rfl) (fun _ _ heq => (nomatch heq))
      (fun _ _ _ heq => (nomatch heq)), hlisted.pending, hlisted.distinct, ?_⟩
    intro _ _ _ _ heq
    cases heq
    exact List.mem_append_right _ (List.mem_singleton_self _)
  -- a row is settled on what was heard of its own call
  | @settled converged outcome rest d state resultCode clock hpass hverdict hd hpending =>
    have hheard := h.listed.heard hpass
    refine ⟨h.rows.settle fun e he hkey => ?_, ?_⟩
    · obtain rfl := Table.eq_of_key DeliveryRow.sourceEventId_isKey he hd hkey
      have hbooked := h.rows.booked e he
      refine ⟨fun hstate => ?_, fun hstate => ?_, hbooked.counted, hbooked.due⟩
      · rcases Outcome.verdict_terminal hverdict with ⟨rfl, -⟩ | ⟨_, -, -, rfl⟩
        · exact hheard
        · cases hstate
      · rcases Outcome.verdict_terminal hverdict with ⟨-, rfl⟩ | ⟨error, rfl, hcode, -⟩
        · cases hstate
        · exact ⟨error, hcode, hheard⟩
    · exact h.listed.marked DeliveryRow.settle_keeps (by rw [hpass]; rfl)
  | deferred hpass hnext hd hpending =>
    exact ⟨h.rows.defer hd hpending hnext,
      h.listed.marked DeliveryRow.defer_keeps (by rw [hpass]; rfl)⟩

/-! ### What a later state owes to an earlier one -/

/-- The rows stay, under their names; a settled one stays as it is, and nothing more is sent for it. -/
structure Kept (w w' : World) : Prop where
  kept : ∀ d ∈ w.deliveries, ∃ d' ∈ w'.deliveries, d'.identity = d.identity
  absorbed : ∀ d ∈ w.deliveries, d.state ≠ .pending →
    d ∈ w'.deliveries ∧ calls w'.log d.operationId = calls w.log d.operationId

instance : Std.Refl Kept := ⟨fun _ => ⟨fun d hd => ⟨d, hd, rfl⟩, fun _ hd _ => ⟨hd, rfl⟩⟩⟩

instance : IsTrans World Kept where
  trans w₁ w₂ w₃ h h' := by
    constructor
    · intro d hd
      obtain ⟨d', hd', hsame⟩ := h.kept d hd
      obtain ⟨d'', hd'', hsame'⟩ := h'.kept d' hd'
      exact ⟨d'', hd'', hsame'.trans hsame⟩
    · intro d hd hstate
      obtain ⟨hd', hcalls⟩ := h.absorbed d hd hstate
      obtain ⟨hd'', hcalls'⟩ := h'.absorbed d hd' hstate
      exact ⟨hd'', hcalls'.trans hcalls⟩

/-- Rewriting a pending row. -/
theorem Kept.of_modify {d : DeliveryRow} {f : DeliveryRow → DeliveryRow} (hf : Table.Keeps f)
    (hdeliveries : w'.deliveries = w.deliveries.modify (·.sourceEventId) d.sourceEventId f hf)
    (hd : d ∈ w.deliveries) (hpending : d.state = .pending)
    (hidentity : ∀ d, (f d).identity = d.identity)
    (hcalls : ∀ id, calls w'.log id = calls w.log id) : Kept w w' := by
  constructor
  · rw [hdeliveries]
    exact Rows.modify_kept hidentity
  · intro e he hstate
    refine ⟨?_, hcalls _⟩
    have hother : e.sourceEventId ≠ d.sourceEventId := by
      intro heq
      rw [Table.eq_of_key DeliveryRow.sourceEventId_isKey he hd heq] at hstate
      exact hstate hpending
    rw [hdeliveries]
    exact Table.mem_modify.mpr ⟨e, he, (if_neg hother).symm⟩

/-- What touches no row and sends nothing. -/
theorem Kept.of_kept (hkept : ∀ d ∈ w.deliveries, d ∈ w'.deliveries)
    (hcalls : ∀ d ∈ w.deliveries, d.state ≠ .pending →
      calls w'.log d.operationId = calls w.log d.operationId) : Kept w w' :=
  ⟨fun d hd => ⟨d, hkept d hd, rfl⟩, fun d hd hstate => ⟨hkept d hd, hcalls d hd hstate⟩⟩

theorem Effect.kept (heffect : Effect reconciler w w') (h : Sound reconciler w) : Kept w w' := by
  cases heffect with
  | same => exact Std.Refl.refl w
  | appended | paused | listed => exact .of_kept (fun _ hd => hd) fun _ _ _ => rfl
  | materialized hspec => exact .of_kept hspec.kept fun _ _ _ => by simp [calls]
  | @called converged operation rest hpass =>
    refine .of_kept (fun _ hd => hd) fun e he hstate => ?_
    obtain ⟨d, hd, hpending, rfl⟩ := h.listed.row (by rw [hpass]; rfl)
    -- what is sent is sent for a pending row, and a settled one has another operation
    have hother : d.operationId ≠ e.operationId := by
      intro heq
      rw [← Table.eq_of_key DeliveryRow.operationId_isKey hd he heq] at hstate
      exact hstate hpending
    have hnone : calls [.called d.operationId d.deviceRef d.reason] e.operationId = [] := by
      simp [calls, hother]
    show calls (w.log ++ [.called d.operationId d.deviceRef d.reason]) e.operationId = _
    rw [calls_append, hnone, List.append_nil]
  | answered => exact .of_kept (fun _ hd => hd) fun _ _ _ => by simp [calls]
  | settled hpass hverdict hd hpending =>
    exact .of_modify DeliveryRow.settle_keeps rfl hd hpending (fun _ => rfl) fun _ => rfl
  | deferred hpass hnext hd hpending =>
    exact .of_modify DeliveryRow.defer_keeps rfl hd hpending (fun _ => rfl) fun _ => by simp [calls]

theorem sound_step (h : Sound reconciler w) (a : Action) : Sound reconciler (w.step reconciler a) :=
  (effect_step h a).sound h

theorem sound_empty : Sound reconciler {} := by
  refine ⟨⟨?_, ?_, ?_, ?_, ?_, ?_⟩, .of_none rfl⟩
  · exact fun _ hrow => absurd hrow Table.not_mem_empty
  · exact fun hmem => (nomatch hmem)
  · exact fun _ hd => absurd hd Table.not_mem_empty
  · exact fun hmem => (nomatch hmem)
  · exact fun hne => absurd rfl hne
  · exact fun _ hd => absurd hd Table.not_mem_empty

/-! ### Every revocation is one operation -/

variable (reconciler) in
/-- Each event that has been materialized has one row, named by the event, and there is no other
row; what was sent to the Provider is what the rows say. A row is settled by an answer to its own
operation; a pending one counts the failures that were recorded for it and is due within the
longest delay after the last. -/
structure Delivered (w : World) : Prop where
  one : ∀ {now events}, .materialized now events ∈ w.log → ∀ event ∈ events,
    ∃ d ∈ w.deliveries, named reconciler.crypto event = some d.identity ∧
      ∀ d' ∈ w.deliveries, d'.sourceEventId = event.id → d' = d
  origin : ∀ d ∈ w.deliveries, ∃ now events event, .materialized now events ∈ w.log ∧
    event ∈ events ∧ named reconciler.crypto event = some d.identity ∧
    (failures w.log d.sourceEventId = [] → d.nextAttemptAt = now)
  called : ∀ {id deviceRef reason}, .called id deviceRef reason ∈ w.log →
    ∃ d ∈ w.deliveries, d.operationId = id ∧ d.deviceRef = deviceRef ∧ d.reason = reason ∧
      ∀ d' ∈ w.deliveries, d'.operationId = id → d' = d
  delivered : ∀ d ∈ w.deliveries, d.state = .delivered → .answered d.operationId .success ∈ w.log
  fenced : ∀ d ∈ w.deliveries, d.state = .fenced → ∃ error, error.code = "STALE_GENERATION" ∧
    .answered d.operationId (.refused error) ∈ w.log
  pending : ∀ d ∈ w.deliveries, d.state = .pending →
    d.attemptCount = (failures w.log d.sourceEventId).length ∧
      ∀ clock ∈ (failures w.log d.sourceEventId).getLast?,
        d.nextAttemptAt ≤ clock + timedelta reconciler.retryMax

theorem Sound.delivered (h : Sound reconciler w) : Delivered reconciler w := by
  constructor
  case one =>
    intro now events hmem event hevent
    obtain ⟨⟨row, hrow, rfl⟩, d, hd, hkey⟩ := h.rows.recorded hmem event hevent
    -- the row was created for an event of the stream with this id, and there is one
    obtain ⟨now', events', event', hmem', hevent', hnamed, -⟩ := h.rows.origin d hd
    obtain ⟨⟨row', hrow', rfl⟩, -⟩ := h.rows.recorded hmem' event' hevent'
    have hid : row'.event.id = d.sourceEventId := by
      obtain ⟨data, -, hdata⟩ := Option.map_eq_some_iff.mp hnamed
      exact congrArg Prod.fst hdata
    have hsame : row' = row := by
      refine Table.eq_of_key stream_eventId_isKey hrow' hrow ?_
      rw [h.rows.streamIds row' hrow', h.rows.streamIds row hrow, hid, hkey]
    rw [hsame] at hnamed
    refine ⟨d, hd, hnamed, fun d' hd' hkey' => ?_⟩
    exact Table.eq_of_key DeliveryRow.sourceEventId_isKey hd' hd (hkey'.trans hkey.symm)
  case origin => exact h.rows.origin
  case called =>
    intro id deviceRef reason hmem
    obtain ⟨d, hd, rfl, href, hreason⟩ := h.rows.called hmem
    exact ⟨d, hd, rfl, href, hreason, fun d' hd' hid =>
      Table.eq_of_key DeliveryRow.operationId_isKey hd' hd hid⟩
  case delivered => exact fun d hd => (h.rows.booked d hd).delivered
  case fenced => exact fun d hd => (h.rows.booked d hd).fenced
  case pending => exact fun d hd _ => ⟨(h.rows.booked d hd).counted, (h.rows.booked d hd).due⟩

/-- In every state of every run each revocation is one operation, and every later state keeps what
was settled. -/
theorem revocations_delivered (reconciler : Reconciler) (before after : List Action) :
    Delivered reconciler (run (World.step reconciler) {} before) ∧
      Kept (run (World.step reconciler) {} before) (run (World.step reconciler) {} (before ++ after)) := by
  have hsound : Sound reconciler (run (World.step reconciler) {} before) :=
    run_inv (I := Sound reconciler) (fun _ a h => sound_step h a) sound_empty before
  refine ⟨hsound.delivered, ?_⟩
  rw [run_append]
  exact run_rel (I := Sound reconciler) (fun _ a h _ => sound_step h a)
    (fun _ a h _ => (effect_step h a).kept h) hsound along_true

/-! ### An outage and a restart -/

namespace Sample

/-- A reconciler with the sample's primitives. -/
def worker : Reconciler := { crypto := Admission.Sample.crypto }

/-- The revocation of a Claim. -/
def revoked : Admission.Event :=
  Admission.event "event-1" .claimRevoked "device-instances/lamp" "home" 8 "revoke-1" "removal-1" 0
    (.revoked ⟨"lamp", "home", 1, 1, 1⟩ "owner-request" 0)

/-- The Provider is out of reach, the process starts again, and then the call succeeds. -/
def outage : List Action :=
  [.append 1 revoked 0, .start 0, .materialize, .list 50, .call, .answer (.failed "ConnectError"), .mark 0,
    .crash, .start 2000000, .materialize, .list 50, .call, .answer .success, .mark 2000000, .call]

end Sample

example :
    let w := run (World.step Sample.worker) {} Sample.outage
    (w.deliveries.rows.map fun d => (d.state, d.resultCode, d.attemptCount)) = [(.delivered, "REVOKED", 1)] ∧
      (calls w.log (operationId Sample.worker.crypto "event-1")).length = 2 := by
  decide +kernel

end EidolonHub.Channels.Revocations
