import EidolonHub.Library.ChangeLog
import EidolonHub.Library.Run
import EidolonHub.SmartHome.Vocabulary

/-!
# EidolonHub.SmartHome.Ledger

**Durable receipts**: one row per (owner, scope, request), kept in SQLite, and the ledger in
memory with the same interface. One rewrites rows by columns, the other replaces whole
records.

Both find the same receipts and give the same answers up to two columns: a receipt that is
reopened keeps its `reconciled_at_ms` in SQLite and loses it in memory, and a completion
that brings a submission time of its own changes `submitted_at_ms` in memory only
(`ledgers_agree`).
-/

namespace EidolonHub.SmartHome

open EidolonHub.Library

/-! ### Receipts -/

/-- A repeat this long after the first submission still answers with the first result. -/
def idempotencyWindowMs : Millis := 24 * 60 * 60000

/-- Rows older than this are pruned on the next begin. -/
def retentionMs : Millis := 7 * 24 * 60 * 60000

/-- When a request was taken, and how far it had come when. -/
structure Timestamps where
  submittedAtMs : Millis
  providerStartedAtMs : Option Millis := none
  providerReturnedAtMs : Option Millis := none
  confirmedAtMs : Option Millis := none
  completedAtMs : Option Millis := none
  reconciledAtMs : Option Millis := none
  deriving DecidableEq

/-- What a receipt is stored under. -/
structure ReceiptKey where
  ownerId : OwnerId
  scope : Scope
  requestId : RequestId
  deriving DecidableEq

/-- `Receipt`; without a result while in flight. In SQLite the result is its JSON text. -/
structure Receipt where
  key : ReceiptKey
  fingerprint : String
  timestamps : Timestamps
  result : Option ExecuteResult
  deriving DecidableEq

/-- A request that was just submitted. -/
def Receipt.submitted (key : ReceiptKey) (fingerprint : String) (nowMs : Millis) : Receipt :=
  ⟨key, fingerprint, { submittedAtMs := nowMs }, none⟩

/-- The submission is recent enough to answer for the request. -/
def Receipt.live (receipt : Receipt) (nowMs : Millis) : Bool :=
  nowMs - idempotencyWindowMs ≤ receipt.timestamps.submittedAtMs

/-- The same request id was reused for a different request. -/
structure ReceiptConflict where
  requestId : RequestId
  deriving DecidableEq

/-- The first item for the device that is still unknown gives way to the settled one. -/
def replaceFirst (target : DeviceId) (item : CommandResult) :
    List CommandResult → Option (List CommandResult)
  | [] => none
  | found :: items =>
    if found.deviceId = target ∧ found.status = .unknown then some (item :: items)
    else (replaceFirst target item items).map (found :: ·)

/-- `_replace_unknown`. -/
def replaceUnknown (receipt : Option Receipt) (target : DeviceId) (item : CommandResult) :
    Option ExecuteResult := do
  let result ← (← receipt).result
  let results ← replaceFirst target item result.results
  return { result with results }

/-- The row of a key. -/
def fetch (rows : List Receipt) (key : ReceiptKey) : Option Receipt := rows.find? (·.key = key)

/-! ### The ledger in SQLite -/

namespace SqliteReceiptLedger

/-- `UPDATE receipts SET … WHERE` the key. -/
def update (key : ReceiptKey) (set : Receipt → Receipt) (rows : List Receipt) : List Receipt :=
  rows.map fun r => if r.key = key then set r else r

/-- The columns a conflicting insert sets. -/
def reopen (fingerprint : String) (nowMs : Millis) (row : Receipt) : Receipt :=
  { row with
    fingerprint
    timestamps := { row.timestamps with
      submittedAtMs := nowMs
      providerStartedAtMs := none
      providerReturnedAtMs := none
      confirmedAtMs := none
      completedAtMs := none }
    result := none }

/-- `begin`: old rows are pruned, and the key gets a row if it has none. The row that is there answers
the request, unless its fingerprint is another one. -/
def begin (rows : List Receipt) (key : ReceiptKey) (fingerprint : String) (nowMs : Millis) :
    List Receipt × Except ReceiptConflict (Option Receipt) :=
  let kept := rows.filter fun r => nowMs - retentionMs ≤ r.timestamps.submittedAtMs
  match fetch kept key with
  | none => (kept ++ [.submitted key fingerprint nowMs], .ok none)
  | some row =>
    if row.live nowMs then
      -- the pruning is rolled back with the conflict
      if row.fingerprint ≠ fingerprint then (rows, .error ⟨key.requestId⟩) else (kept, .ok (some row))
    else (update key (reopen fingerprint nowMs) kept, .ok none)

/-- The columns a completion sets. -/
def record (result : ExecuteResult) (timestamps : Timestamps) (row : Receipt) : Receipt :=
  { row with
    timestamps := { row.timestamps with
      providerStartedAtMs := timestamps.providerStartedAtMs
      providerReturnedAtMs := timestamps.providerReturnedAtMs
      confirmedAtMs := timestamps.confirmedAtMs
      completedAtMs := timestamps.completedAtMs }
    result := some result }

/-- `complete`: the result is recorded, where the key has a row. -/
def complete (rows : List Receipt) (key : ReceiptKey) (result : ExecuteResult)
    (timestamps : Timestamps) : List Receipt :=
  update key (record result timestamps) rows

/-- The columns a reconciliation sets. -/
def settle (result : ExecuteResult) (atMs : Millis) (row : Receipt) : Receipt :=
  { row with
    timestamps := { row.timestamps with reconciledAtMs := some atMs }
    result := some result }

/-- `reconcile`: the first item of the device that is unknown gives way, if the row has one. -/
def reconcile (rows : List Receipt) (key : ReceiptKey) (target : DeviceId) (item : CommandResult)
    (atMs : Millis) : List Receipt × Bool :=
  match replaceUnknown (fetch rows key) target item with
  | none => (rows, false)
  | some replaced => (update key (settle replaced atMs) rows, true)

end SqliteReceiptLedger

/-! ### The ledger in memory -/

namespace MemoryLedger

/-- `self._rows[key] = …`. -/
def store (receipt : Receipt) (rows : List Receipt) : List Receipt := place Receipt.key receipt rows

/-- `begin` of the ledger in memory: the oldest rows make room once there are too many. -/
def begin (capacity : Nat) (rows : List Receipt) (key : ReceiptKey) (fingerprint : String)
    (nowMs : Millis) : List Receipt × Except ReceiptConflict (Option Receipt) :=
  let next :=
    let stored := store (.submitted key fingerprint nowMs) rows
    (stored.drop (stored.length - capacity), .ok none)
  match fetch rows key with
  | none => next
  | some row =>
    if row.live nowMs then
      if row.fingerprint ≠ fingerprint then (rows, .error ⟨key.requestId⟩) else (rows, .ok (some row))
    else next

/-- `complete` of the ledger in memory: the row is stored anew, where the key has one. -/
def complete (rows : List Receipt) (key : ReceiptKey) (result : ExecuteResult)
    (timestamps : Timestamps) : List Receipt :=
  match fetch rows key with
  | none => rows
  | some row => store ⟨key, row.fingerprint, timestamps, some result⟩ rows

/-- `reconcile` of the ledger in memory. -/
def reconcile (rows : List Receipt) (key : ReceiptKey) (target : DeviceId) (item : CommandResult)
    (atMs : Millis) : List Receipt × Bool :=
  match fetch rows key with
  | none => (rows, false)
  | some row =>
    match replaceUnknown (some row) target item with
    | none => (rows, false)
    | some replaced =>
      (store ⟨key, row.fingerprint, { row.timestamps with reconciledAtMs := some atMs },
        some replaced⟩ rows, true)

end MemoryLedger

/-! ### Side by side -/

/-- A call of a ledger. -/
inductive LedgerCall where
  | begin (key : ReceiptKey) (fingerprint : String) (nowMs : Millis)
  | complete (key : ReceiptKey) (result : ExecuteResult) (timestamps : Timestamps)
  | get (key : ReceiptKey)
  | reconcile (key : ReceiptKey) (target : DeviceId) (item : CommandResult) (atMs : Millis)
  deriving DecidableEq

/-- What a call of a ledger is answered with. -/
inductive LedgerAnswer where
  | begun (answer : Except ReceiptConflict (Option Receipt))
  | completed
  | got (receipt : Option Receipt)
  | reconciled (done : Bool)

/-- One call of the ledger in SQLite. -/
def SqliteReceiptLedger.call (rows : List Receipt) : LedgerCall → List Receipt × LedgerAnswer
  | .begin key fingerprint nowMs => (begin rows key fingerprint nowMs).map id .begun
  | .complete key result timestamps => (complete rows key result timestamps, .completed)
  | .get key => (rows, .got (fetch rows key))
  | .reconcile key target item atMs => (reconcile rows key target item atMs).map id .reconciled

/-- One call of the ledger in memory. -/
def MemoryLedger.call (capacity : Nat) (rows : List Receipt) :
    LedgerCall → List Receipt × LedgerAnswer
  | .begin key fingerprint nowMs => (begin capacity rows key fingerprint nowMs).map id .begun
  | .complete key result timestamps => (complete rows key result timestamps, .completed)
  | .get key => (rows, .got (fetch rows key))
  | .reconcile key target item atMs => (reconcile rows key target item atMs).map id .reconciled

/-- Both ledgers, and what they answered to the calls so far. -/
structure Ledgers where
  sqlite : List Receipt := []
  memory : List Receipt := []
  answers : List (LedgerAnswer × LedgerAnswer) := []

namespace Ledgers

/-- The same call of both ledgers, and what each of them answers. -/
def call (capacity : Nat) (ledgers : Ledgers) (c : LedgerCall) : Ledgers :=
  let (sqlite, durable) := SqliteReceiptLedger.call ledgers.sqlite c
  let (memory, volatile) := MemoryLedger.call capacity ledgers.memory c
  { sqlite, memory, answers := ledgers.answers ++ [(durable, volatile)] }

/-- The receipts are equal, and so are all answers. -/
structure Agree (ledgers : Ledgers) : Prop where
  receipts : ∀ key, fetch ledgers.sqlite key = fetch ledgers.memory key
  answers : ∀ answer ∈ ledgers.answers, answer.1 = answer.2

/-- A submission prunes nothing. -/
def Retained (ledgers : Ledgers) : LedgerCall → Prop
  | .begin _ _ nowMs => ∀ r ∈ ledgers.sqlite, nowMs - retentionMs ≤ r.timestamps.submittedAtMs
  | _ => True

instance : ∀ ledgers c, Decidable (Retained ledgers c)
  | ledgers, .begin _ _ nowMs => inferInstanceAs
      (Decidable (∀ r ∈ ledgers.sqlite, nowMs - retentionMs ≤ r.timestamps.submittedAtMs))
  | _, .complete .. | _, .get _ | _, .reconcile .. => .isTrue trivial

/-- A receipt that is reopened was never reconciled, a new one has room, and a completion
has the submission and the reconciliation that are stored. -/
def Fits (capacity : Nat) (ledgers : Ledgers) : LedgerCall → Prop
  | .begin key _ nowMs =>
    (∀ row, fetch ledgers.memory key = some row → row.live nowMs = false →
      row.timestamps.reconciledAtMs = none) ∧
    (fetch ledgers.memory key = none → ledgers.memory.length < capacity)
  | .complete key _ timestamps =>
    ∀ row, fetch ledgers.memory key = some row →
      timestamps.submittedAtMs = row.timestamps.submittedAtMs ∧
      timestamps.reconciledAtMs = row.timestamps.reconciledAtMs
  | _ => True

instance (capacity : Nat) : ∀ ledgers c, Decidable (Fits capacity ledgers c)
  | ledgers, .begin key _ nowMs => inferInstanceAs (Decidable
      ((∀ row ∈ fetch ledgers.memory key, row.live nowMs = false →
        row.timestamps.reconciledAtMs = none) ∧
      (fetch ledgers.memory key = none → ledgers.memory.length < capacity)))
  | ledgers, .complete key _ timestamps => inferInstanceAs (Decidable
      (∀ row ∈ fetch ledgers.memory key,
        timestamps.submittedAtMs = row.timestamps.submittedAtMs ∧
        timestamps.reconciledAtMs = row.timestamps.reconciledAtMs))
  | _, .get _ | _, .reconcile .. => .isTrue trivial

end Ledgers

/-! ### Looking up what was stored -/

section Fetch

variable {rows : List Receipt} {key k : ReceiptKey} {row receipt : Receipt}

theorem fetch_key (h : fetch rows key = some row) : row.key = key := by
  simpa using List.find?_some h

theorem fetch_update {set : Receipt → Receipt} (hset : ∀ r, (set r).key = r.key) :
    fetch (SqliteReceiptLedger.update key set rows) k =
      if k = key then (fetch rows k).map set else fetch rows k := by
  unfold fetch SqliteReceiptLedger.update
  rw [List.find?_map]
  have hcomp : ((fun r : Receipt => decide (r.key = k)) ∘ fun r => if r.key = key then set r else r) =
      fun r => decide (r.key = k) := by
    funext r
    by_cases hr : r.key = key <;> simp [hr, hset]
  rw [hcomp]
  cases hfind : rows.find? fun r => decide (r.key = k) with
  | none => simp
  | some found =>
    have hkey : found.key = k := fetch_key hfind
    by_cases hk : k = key <;> simp [hkey, hk]

theorem fetch_store : fetch (MemoryLedger.store receipt rows) k =
    if receipt.key = k then some receipt else fetch rows k := find?_place

theorem any_key : (rows.any fun r => r.key = key) = (fetch rows key).isSome := by
  rw [Bool.eq_iff_iff, fetch, List.find?_isSome, List.any_eq_true]

theorem store_of_fetch_none (h : fetch rows receipt.key = none) :
    MemoryLedger.store receipt rows = rows ++ [receipt] := by
  unfold MemoryLedger.store place
  rw [any_key, h]
  rfl

theorem length_store_of_fetch (h : fetch rows receipt.key = some row) :
    (MemoryLedger.store receipt rows).length = rows.length := by
  unfold MemoryLedger.store place
  rw [any_key, h]
  exact List.length_map _

theorem mem_store : receipt ∈ MemoryLedger.store receipt rows := mem_place.mpr (.inl rfl)

/-- Nothing is missing exactly when nothing was dropped. -/
theorem fetch_drop_iff (hkeys : (rows.map Receipt.key).Nodup) (hrows : rows ≠ []) {n : Nat} :
    (∀ k, fetch rows k = fetch (rows.drop n) k) ↔ n = 0 := by
  constructor
  · intro h
    cases rows with
    | nil => exact absurd rfl hrows
    | cons first rest =>
      cases n with
      | zero => rfl
      | succ n =>
        have hfirst : fetch (first :: rest) first.key = some first := by simp [fetch]
        rw [h, List.drop_succ_cons] at hfirst
        have hmem : first ∈ rest := List.mem_of_mem_drop (List.mem_of_find?_eq_some hfirst)
        rw [List.map_cons, List.nodup_cons] at hkeys
        exact absurd (List.mem_map_of_mem hmem) hkeys.1
  · rintro rfl k
    rfl

end Fetch

/-! ### What the memory holds -/

/-- One receipt per key, and no more than there is room for. -/
structure Held (capacity : Nat) (rows : List Receipt) : Prop where
  keys : (rows.map Receipt.key).Nodup
  room : rows.length ≤ capacity

namespace MemoryLedger

variable {capacity : Nat} {rows : List Receipt} {receipt row : Receipt}

theorem held_replace (h : Held capacity rows) (hrow : fetch rows receipt.key = some row) :
    Held capacity (store receipt rows) := by
  refine ⟨nodup_place h.keys, ?_⟩
  rw [length_store_of_fetch hrow]
  exact h.room

theorem held_begin (h : Held capacity rows) (key : ReceiptKey) (fingerprint : String)
    (nowMs : Millis) : Held capacity (begin capacity rows key fingerprint nowMs).1 := by
  have hnext : ∀ receipt : Receipt, Held capacity
      ((store receipt rows).drop ((store receipt rows).length - capacity)) := by
    intro receipt
    constructor
    · rw [List.map_drop]
      exact (nodup_place h.keys).sublist (List.drop_sublist _ _)
    · rw [List.length_drop]
      omega
  unfold begin
  split
  · exact hnext _
  · split
    · split
      · exact h
      · exact h
    · exact hnext _

theorem held_call (h : Held capacity rows) (c : LedgerCall) : Held capacity (call capacity rows c).1 := by
  cases c with
  | begin key fingerprint nowMs => exact held_begin h key fingerprint nowMs
  | complete key result timestamps =>
    show Held capacity (complete rows key result timestamps)
    unfold complete
    split
    · exact h
    · next hrow => exact held_replace h hrow
  | get key => exact h
  | reconcile key target item atMs =>
    show Held capacity (reconcile rows key target item atMs).1
    unfold reconcile
    split
    · exact h
    · next hrow =>
      split
      · exact h
      · exact held_replace h hrow

end MemoryLedger

/-! ### Which calls they disagree on -/

namespace Ledgers

variable {capacity : Nat} {s m : List Receipt}

/-- What the two ledgers do to one receipt: they agree on all when they agree on it. -/
theorem fetch_update_iff {key : ReceiptKey} {row receipt : Receipt} {set : Receipt → Receipt}
    (hset : ∀ r, (set r).key = r.key) (h : ∀ k, fetch s k = fetch m k)
    (hrow : fetch m key = some row) (hkey : receipt.key = key) :
    (∀ k, fetch (SqliteReceiptLedger.update key set s) k = fetch (MemoryLedger.store receipt m) k) ↔
      set row = receipt := by
  constructor
  · intro hall
    have hat := hall key
    rw [fetch_update hset, fetch_store, if_pos rfl, if_pos hkey, h, hrow] at hat
    exact Option.some.inj hat
  · intro hsame k
    rw [fetch_update hset, fetch_store, hkey]
    by_cases hk : k = key
    · rw [if_pos hk, if_pos hk.symm, h, hk, hrow, ← hsame]
      rfl
    · rw [if_neg hk, if_neg (Ne.symm hk), h]

theorem reopen_key (fingerprint : String) (nowMs : Millis) (row : Receipt) :
    (SqliteReceiptLedger.reopen fingerprint nowMs row).key = row.key := rfl

theorem record_key (result : ExecuteResult) (timestamps : Timestamps) (row : Receipt) :
    (SqliteReceiptLedger.record result timestamps row).key = row.key := rfl

theorem settle_key (result : ExecuteResult) (atMs : Millis) (row : Receipt) :
    (SqliteReceiptLedger.settle result atMs row).key = row.key := rfl

theorem reopen_eq_iff {key : ReceiptKey} {fingerprint : String} {nowMs : Millis} {row : Receipt}
    (hkey : row.key = key) : SqliteReceiptLedger.reopen fingerprint nowMs row =
      .submitted key fingerprint nowMs ↔ row.timestamps.reconciledAtMs = none := by
  subst hkey
  simp [SqliteReceiptLedger.reopen, Receipt.submitted]

theorem record_eq_iff {key : ReceiptKey} {result : ExecuteResult} {timestamps : Timestamps}
    {row : Receipt} (hkey : row.key = key) : SqliteReceiptLedger.record result timestamps row =
      ⟨key, row.fingerprint, timestamps, some result⟩ ↔
        timestamps.submittedAtMs = row.timestamps.submittedAtMs ∧
          timestamps.reconciledAtMs = row.timestamps.reconciledAtMs := by
  subst hkey
  obtain ⟨submitted, started, returned, confirmed, completed, reconciled⟩ := timestamps
  simp only [SqliteReceiptLedger.record, Receipt.mk.injEq, Timestamps.mk.injEq, true_and, and_true]
  exact and_congr eq_comm eq_comm

variable (h : ∀ k, fetch s k = fetch m k)
include h

theorem begin_answer {key : ReceiptKey} {fingerprint : String} {nowMs : Millis}
    (hretained : ∀ r ∈ s, nowMs - retentionMs ≤ r.timestamps.submittedAtMs) :
    (SqliteReceiptLedger.begin s key fingerprint nowMs).2 =
      (MemoryLedger.begin capacity m key fingerprint nowMs).2 := by
  have hkept : s.filter (fun r => nowMs - retentionMs ≤ r.timestamps.submittedAtMs) = s :=
    List.filter_eq_self.mpr fun r hr => decide_eq_true (hretained r hr)
  simp only [SqliteReceiptLedger.begin, MemoryLedger.begin, hkept, h]
  split
  · rfl
  · split
    · split <;> rfl
    · rfl

theorem begin_receipts_iff (hheld : Held capacity m) {key : ReceiptKey} {fingerprint : String}
    {nowMs : Millis} (hretained : ∀ r ∈ s, nowMs - retentionMs ≤ r.timestamps.submittedAtMs) :
    (∀ k, fetch (SqliteReceiptLedger.begin s key fingerprint nowMs).1 k =
        fetch (MemoryLedger.begin capacity m key fingerprint nowMs).1 k) ↔
      (∀ row, fetch m key = some row → row.live nowMs = false →
        row.timestamps.reconciledAtMs = none) ∧ (fetch m key = none → m.length < capacity) := by
  have hkept : s.filter (fun r => nowMs - retentionMs ≤ r.timestamps.submittedAtMs) = s :=
    List.filter_eq_self.mpr fun r hr => decide_eq_true (hretained r hr)
  simp only [SqliteReceiptLedger.begin, MemoryLedger.begin, hkept, h]
  cases hrow : fetch m key with
  | none =>
    -- a new row: equal unless the memory drops one to make room
    have hkey : (Receipt.submitted key fingerprint nowMs).key = key := rfl
    have hsame : ∀ k, fetch (s ++ [.submitted key fingerprint nowMs]) k =
        fetch (MemoryLedger.store (.submitted key fingerprint nowMs) m) k := by
      intro k
      rw [← store_of_fetch_none ((h key).trans hrow), fetch_store, fetch_store, h]
    have hkeys : ((MemoryLedger.store (.submitted key fingerprint nowMs) m).map Receipt.key).Nodup :=
      nodup_place hheld.keys
    have hne : MemoryLedger.store (.submitted key fingerprint nowMs) m ≠ [] :=
      List.ne_nil_of_mem mem_store
    have hlength : (MemoryLedger.store (.submitted key fingerprint nowMs) m).length = m.length + 1 := by
      rw [store_of_fetch_none hrow, List.length_append, List.length_singleton]
    simp only [hsame]
    rw [fetch_drop_iff hkeys hne, hlength]
    have hroom := hheld.room
    simp only [reduceCtorEq, false_implies, implies_true, true_and, forall_const]
    omega
  | some row =>
    by_cases hlive : row.live nowMs
    · -- the receipt answers, and nothing is written
      simp only [hlive, if_true]
      split <;> simp [h, hlive]
    · -- the row is reopened in its place
      simp only [Bool.not_eq_true] at hlive
      simp only [hlive, Bool.false_eq_true, if_false]
      have hlength : (MemoryLedger.store (.submitted key fingerprint nowMs) m).length = m.length :=
        length_store_of_fetch hrow
      rw [hlength, Nat.sub_eq_zero_of_le hheld.room, List.drop_zero,
        fetch_update_iff (reopen_key fingerprint nowMs) h hrow rfl, reopen_eq_iff (fetch_key hrow)]
      simp [hlive]

theorem complete_receipts_iff {key : ReceiptKey} {result : ExecuteResult} {timestamps : Timestamps} :
    (∀ k, fetch (SqliteReceiptLedger.complete s key result timestamps) k =
        fetch (MemoryLedger.complete m key result timestamps) k) ↔
      ∀ row, fetch m key = some row →
        timestamps.submittedAtMs = row.timestamps.submittedAtMs ∧
        timestamps.reconciledAtMs = row.timestamps.reconciledAtMs := by
  unfold SqliteReceiptLedger.complete MemoryLedger.complete
  cases hrow : fetch m key with
  | none =>
    have hsame : ∀ k, fetch (SqliteReceiptLedger.update key
        (SqliteReceiptLedger.record result timestamps) s) k = fetch m k := by
      intro k
      rw [fetch_update (record_key result timestamps), h]
      split
      · next hk => rw [hk, hrow]; rfl
      · rfl
    simp [hsame]
  | some row =>
    show (∀ k, fetch (SqliteReceiptLedger.update key _ s) k = fetch (MemoryLedger.store _ m) k) ↔ _
    rw [fetch_update_iff (record_key result timestamps) h hrow rfl, record_eq_iff (fetch_key hrow)]
    simp

theorem reconcile_same {key : ReceiptKey} {target : DeviceId} {item : CommandResult}
    {atMs : Millis} :
    (SqliteReceiptLedger.reconcile s key target item atMs).2 =
      (MemoryLedger.reconcile m key target item atMs).2 ∧
    ∀ k, fetch (SqliteReceiptLedger.reconcile s key target item atMs).1 k =
      fetch (MemoryLedger.reconcile m key target item atMs).1 k := by
  unfold SqliteReceiptLedger.reconcile MemoryLedger.reconcile
  rw [h]
  cases hrow : fetch m key with
  | none => exact ⟨rfl, h⟩
  | some row =>
    cases hreplaced : replaceUnknown (some row) target item with
    | none => exact ⟨by simp [hreplaced], by simpa [hreplaced] using h⟩
    | some replaced =>
      have hkey := fetch_key hrow
      have hset : SqliteReceiptLedger.settle replaced atMs row =
          ⟨key, row.fingerprint, { row.timestamps with reconciledAtMs := some atMs }, some replaced⟩ := by
        subst hkey
        rfl
      simp only [hreplaced]
      exact ⟨trivial, (fetch_update_iff (settle_key replaced atMs) h hrow rfl).mpr hset⟩

theorem call_answer {c : LedgerCall} (hretained : Retained { sqlite := s } c) :
    (SqliteReceiptLedger.call s c).2 = (MemoryLedger.call capacity m c).2 := by
  cases c with
  | begin key fingerprint nowMs => exact congrArg LedgerAnswer.begun (begin_answer h hretained)
  | complete key result timestamps => rfl
  | get key => exact congrArg LedgerAnswer.got (h key)
  | reconcile key target item atMs => exact congrArg LedgerAnswer.reconciled (reconcile_same h).1

theorem call_receipts_iff (hheld : Held capacity m) {c : LedgerCall}
    (hretained : Retained { sqlite := s } c) :
    (∀ k, fetch (SqliteReceiptLedger.call s c).1 k = fetch (MemoryLedger.call capacity m c).1 k) ↔
      Fits capacity { memory := m } c := by
  cases c with
  | begin key fingerprint nowMs => exact begin_receipts_iff h hheld hretained
  | complete key result timestamps => exact complete_receipts_iff h
  | get key => exact iff_of_true h trivial
  | reconcile key target item atMs => exact iff_of_true (reconcile_same h).2 trivial

omit h

/-- Ledgers that agree keep agreeing exactly through a call that fits. -/
theorem agree_call_iff {ledgers : Ledgers} {c : LedgerCall} (hheld : Held capacity ledgers.memory)
    (hretained : Retained ledgers c) (h : Agree ledgers) :
    Agree (call capacity ledgers c) ↔ Fits capacity ledgers c := by
  rw [show Fits capacity ledgers c ↔ Fits capacity { memory := ledgers.memory } c by cases c <;> rfl]
  replace hretained : Retained { sqlite := ledgers.sqlite } c := by cases c <;> exact hretained
  rw [← call_receipts_iff h.receipts hheld hretained]
  constructor
  · intro hagree
    exact hagree.receipts
  · intro hreceipts
    refine ⟨hreceipts, fun answer hanswer => ?_⟩
    rcases List.mem_append.mp hanswer with hold | hnew
    · exact h.answers answer hold
    · rw [List.mem_singleton.mp hnew]
      exact call_answer h.receipts hretained

/-- From empty ledgers, over calls that prune nothing, the durable ledger and the one in memory
agree after every call exactly when every call fits. -/
theorem ledgers_agree (capacity : Nat) (calls : List LedgerCall)
    (h : Along (call capacity) Retained {} calls) :
    Along (call capacity) (Fits capacity) {} calls ↔
      ∀ pre post, calls = pre ++ post → Agree (run (call capacity) {} pre) := by
  have hheld : Held capacity ({} : Ledgers).memory := ⟨List.nodup_nil, Nat.zero_le _⟩
  have hagree : Agree {} := ⟨fun _ => rfl, fun _ hmem => absurd hmem List.not_mem_nil⟩
  exact along_iff_forall_along (I := fun ledgers => Held capacity ledgers.memory)
    (fun _ c hs _ => MemoryLedger.held_call hs c)
    (fun _ _ hs hretained hs' => agree_call_iff hs hretained hs') hheld hagree h

/-- A light switched on from a panel. -/
def lightOn : ReceiptKey := ⟨"alice", "panel-1", "request-1"⟩

/-- A result whose one item is unknown. -/
def lightUnknown : ExecuteResult :=
  ⟨"request-1", [{ deviceId := "light-1", status := .unknown, code := some errorDeadlineExceeded }], none⟩

/-- The command times out and is settled by an observation; the id is used again a day later. -/
def reopened : List LedgerCall :=
  [.begin lightOn "on" 1000,
   .complete lightOn lightUnknown { submittedAtMs := 1000, completedAtMs := some 1200 },
   .reconcile lightOn "light-1" { deviceId := "light-1", status := .succeeded } 2000,
   .begin lightOn "on" (1001 + idempotencyWindowMs)]

theorem ledgers_agree_settled : Agree (run (call 8) {} (reopened.take 3)) := by
  have hretained : Along (call 8) Retained {} (reopened.take 3) := by decide +kernel
  have hfits : Along (call 8) (Fits 8) {} (reopened.take 3) := by decide +kernel
  exact (ledgers_agree 8 (reopened.take 3) hretained).mp hfits _ [] (List.append_nil _).symm

/-- The runtime reads the clock again for the completion. -/
def completedLate : List LedgerCall :=
  [.begin lightOn "on" 1000,
   .complete lightOn lightUnknown { submittedAtMs := 1005, completedAtMs := some 1200 }]

/-- The reopened receipt keeps the reconciliation of the one before it in SQLite; a later
submission time is kept in memory only. -/
theorem ledgers_part :
    (Along (call 8) Retained {} reopened ∧
      (fetch (run (call 8) {} reopened).sqlite lightOn).map (·.timestamps.reconciledAtMs) =
        some (some 2000) ∧
      (fetch (run (call 8) {} reopened).memory lightOn).map (·.timestamps.reconciledAtMs) = some none ∧
      ¬ Agree (run (call 8) {} reopened)) ∧
    (Along (call 8) Retained {} completedLate ∧
      (fetch (run (call 8) {} completedLate).sqlite lightOn).map (·.timestamps.submittedAtMs) =
        some 1000 ∧
      (fetch (run (call 8) {} completedLate).memory lightOn).map (·.timestamps.submittedAtMs) =
        some 1005 ∧
      ¬ Agree (run (call 8) {} completedLate)) := by
  have hreopened : fetch (run (call 8) {} reopened).sqlite lightOn ≠
      fetch (run (call 8) {} reopened).memory lightOn := by decide +kernel
  have hlate : fetch (run (call 8) {} completedLate).sqlite lightOn ≠
      fetch (run (call 8) {} completedLate).memory lightOn := by decide +kernel
  exact ⟨⟨by decide +kernel, by decide +kernel, by decide +kernel,
      fun h => hreopened (h.receipts lightOn)⟩,
    by decide +kernel, by decide +kernel, by decide +kernel, fun h => hlate (h.receipts lightOn)⟩

end Ledgers

end EidolonHub.SmartHome
