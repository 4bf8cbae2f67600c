import EidolonHub.Library.Pool

/-!
# EidolonHub.Library.Isolation

**Transactions that read before they lock.** A transaction holds a lock of its own side, which
the other sides do not see, and reads a value without any lock of the database. Its first
statement that writes takes the write lock, which it holds until it commits or aborts; the
statement merges the write into whatever value is committed by then, which need not be the
one that was read.

While every transaction that commits has written on the value it read, the committed state
is that of the committed transactions one after the other.
-/

namespace EidolonHub.Library.Isolation

/-- How a write that was computed from one value lands on another. -/
structure Statement (ρ ω : Type) where
  apply : ρ → ω → ρ
  /-- the write, computed from the first value, as a statement on the second; `none` where the
  database refuses it -/
  merge : ρ → ω → ρ → Option ρ
  merge_self : ∀ r w, merge r w r = some (apply r w)

/-- A transaction on the value: the lock of its side, the write it computes from the value it
reads, or its failure, and what it adds to a ledger under the write lock. -/
structure Transaction (κ ρ ω α : Type) where
  side : κ
  compute : ρ → Option ω
  record : α → Option α

/-- The committed value and ledger, and who holds which lock. -/
structure Database (κ ρ α : Type) where
  value : ρ
  ledger : α
  holder : κ → Option Nat
  writer : Option Nat

/-- How far a transaction has come. -/
inductive Stage (ρ ω α : Type) where
  | waiting
  | running
  | computed (read : ρ) (write : ω)
  /-- the statement has been executed on the value `onto` -/
  | written (read : ρ) (write : ω) (onto : ρ) (value : ρ) (ledger : α)
  | committed
  | failed

/-- What happens to a transaction in its turn. -/
inductive Event where
  | proceed
  /-- it writes elsewhere first, and so takes the write lock before it reads -/
  | lock
  /-- it is cancelled, or waits too long for a lock -/
  | abort
  deriving DecidableEq

variable {κ ρ ω α : Type} [DecidableEq κ] (statement : Statement ρ ω) (txs : Nat → Transaction κ ρ ω α)

/-- Give up every lock. -/
def release (c : Nat) (db : Database κ ρ α) : Database κ ρ α :=
  { db with
    holder := fun side => if db.holder side = some c then none else db.holder side
    writer := if db.writer = some c then none else db.writer }

/-- Nobody else holds the write lock. -/
def MayWrite (c : Nat) (db : Database κ ρ α) : Prop := db.writer = none ∨ db.writer = some c

instance (c : Nat) (db : Database κ ρ α) : Decidable (MayWrite c db) :=
  inferInstanceAs (Decidable (_ ∨ _))

/-- The next step of a transaction. -/
def act (c : Nat) : Event → Database κ ρ α → Stage ρ ω α → Database κ ρ α × Stage ρ ω α
  | .proceed, db, .waiting =>
    if db.holder (txs c).side = none then
      ({ db with holder := Function.update db.holder (txs c).side (some c) }, .running)
    else (db, .waiting)
  | .lock, db, .running =>
    if MayWrite c db then ({ db with writer := some c }, .running) else (db, .running)
  | .proceed, db, .running =>
    match (txs c).compute db.value with
    | none => (release c db, .failed)
    | some write => (db, .computed db.value write)
  | .proceed, db, .computed read write =>
    if MayWrite c db then
      match statement.merge read write db.value, (txs c).record db.ledger with
      | some value, some ledger =>
        ({ db with writer := some c }, .written read write db.value value ledger)
      | _, _ => (release c db, .failed)
    else (db, .computed read write)
  | .proceed, db, .written _ _ _ value ledger =>
    (release c { db with value, ledger }, .committed)
  | _, db, .committed => (db, .committed)
  | _, db, .failed => (db, .failed)
  | .abort, db, _ => (release c db, .failed)
  | .lock, db, stage => (db, stage)

/-- The database and its transactions after a turn. -/
abbrev step : Pool (Database κ ρ α) (Stage ρ ω α) → Turn Event → Pool (Database κ ρ α) (Stage ρ ω α) :=
  Pool.step (act statement txs)

/-- No transaction has begun. -/
def start (value : ρ) (ledger : α) : Pool (Database κ ρ α) (Stage ρ ω α) :=
  .start ⟨value, ledger, fun _ => none, none⟩ .waiting

/-- The transaction a turn commits, with its write. -/
def commitOf (s : Pool (Database κ ρ α) (Stage ρ ω α)) (turn : Turn Event) : Option (Nat × ω) :=
  match turn.draws, s.phase turn.call with
  | .proceed, .written _ write _ _ _ => some (turn.call, write)
  | _, _ => none

/-- The committed transactions of a schedule, in order. -/
def commits (value : ρ) (ledger : α) (turns : List (Turn Event)) : List (Nat × ω) :=
  outputs (step statement txs) commitOf (start value ledger) turns

/-- **The condition**: a transaction that commits has written on the value it read. -/
def OntoRead (s : Pool (Database κ ρ α) (Stage ρ ω α)) (turn : Turn Event) : Prop :=
  match turn.draws, s.phase turn.call with
  | .proceed, .written read _ onto _ _ => onto = read
  | _, _ => True

instance [DecidableEq ρ] (s : Pool (Database κ ρ α) (Stage ρ ω α)) (turn : Turn Event) :
    Decidable (OntoRead s turn) := by
  unfold OntoRead
  split <;> infer_instance

/-- A transaction with nothing between its steps. -/
structure Serial (s : ρ × α) (e : Nat × ω) (s' : ρ × α) : Prop where
  computes : (txs e.1).compute s.1 = some e.2
  value : s'.1 = statement.apply s.1 e.2
  ledger : (txs e.1).record s.2 = some s'.2

variable {statement txs} {db : Database κ ρ α} {stage : Stage ρ ω α} {b c : Nat} {event : Event}

/-- What is known of a transaction on the way. -/
def Valid (statement : Statement ρ ω) (txs : Nat → Transaction κ ρ ω α) (c : Nat)
    (db : Database κ ρ α) : Stage ρ ω α → Prop
  | .computed read write => (txs c).compute read = some write
  | .written read write onto value ledger =>
    (txs c).compute read = some write ∧ statement.merge read write onto = some value ∧
      (txs c).record db.ledger = some ledger ∧ db.value = onto ∧ db.writer = some c
  | _ => True

/-- While one transaction holds the write lock, no other takes it or commits. -/
theorem act_excluded (event : Event) (hne : b ≠ c) (hwriter : db.writer = some b)
    (hvalid : Valid statement txs c db stage) :
    let db' := (act statement txs c event db stage).1;
    db'.writer = some b ∧ db'.value = db.value ∧ db'.ledger = db.ledger := by
  have hmay : ¬ MayWrite c db := by simp [MayWrite, hwriter, hne]
  have hrelease : (release c db).writer = some b := by simp [release, hwriter, hne]
  cases stage with
  | waiting =>
    cases event with
    | proceed =>
      simp only [act]
      split <;> exact ⟨hwriter, rfl, rfl⟩
    | lock => exact ⟨hwriter, rfl, rfl⟩
    | abort => exact ⟨hrelease, rfl, rfl⟩
  | running =>
    cases event with
    | proceed =>
      simp only [act]
      split
      · exact ⟨hrelease, rfl, rfl⟩
      · exact ⟨hwriter, rfl, rfl⟩
    | lock =>
      simp only [act, hmay, if_false]
      exact ⟨hwriter, trivial, trivial⟩
    | abort => exact ⟨hrelease, rfl, rfl⟩
  | computed read write =>
    cases event with
    | proceed =>
      simp only [act, hmay, if_false]
      exact ⟨hwriter, trivial, trivial⟩
    | lock => exact ⟨hwriter, rfl, rfl⟩
    | abort => exact ⟨hrelease, rfl, rfl⟩
  | written read write onto value ledger =>
    -- the transaction would hold the lock itself
    have hholds := hvalid.2.2.2.2
    rw [hwriter] at hholds
    exact absurd (Option.some.inj hholds) hne
  | committed => cases event <;> exact ⟨hwriter, rfl, rfl⟩
  | failed => cases event <;> exact ⟨hwriter, rfl, rfl⟩

theorem act_valid (hvalid : Valid statement txs c db stage) :
    Valid statement txs c (act statement txs c event db stage).1 (act statement txs c event db stage).2 := by
  cases stage with
  | waiting =>
    cases event with
    | proceed =>
      simp only [act]
      split <;> trivial
    | _ => trivial
  | running =>
    cases event with
    | proceed =>
      simp only [act]
      split
      · trivial
      · next hcompute => exact hcompute
    | lock =>
      simp only [act]
      split <;> trivial
    | abort => trivial
  -- what is written onto the merged row is recorded with the row it was written onto
  | computed read write =>
    cases event with
    | proceed =>
      simp only [act]
      split
      · split
        · next hmerge hrecord => exact ⟨hvalid, hmerge, hrecord, rfl, rfl⟩
        · trivial
      · exact hvalid
    | lock => exact hvalid
    | abort => trivial
  | written read write onto value ledger =>
    cases event with
    | lock => exact hvalid
    | _ => trivial
  | committed => cases event <;> trivial
  | failed => cases event <;> trivial

theorem valid_other {stage' : Stage ρ ω α} (hne : b ≠ c) (hvalid : Valid statement txs c db stage)
    (hother : Valid statement txs b db stage') :
    Valid statement txs b (act statement txs c event db stage).1 stage' := by
  cases stage' with
  | computed => exact hother
  | written read write onto value ledger =>
    obtain ⟨hcompute, hmerge, hrecord, honto, hwriter⟩ := hother
    obtain ⟨hwriter', hvalue, hledger⟩ := act_excluded event hne hwriter hvalid
    exact ⟨hcompute, hmerge, by rw [hledger]; exact hrecord, hvalue.trans honto, hwriter'⟩
  | _ => trivial

variable {s : Pool (Database κ ρ α) (Stage ρ ω α)} {turn : Turn Event}

theorem step_valid (hs : ∀ c, Valid statement txs c s.shared (s.phase c)) (c : Nat) :
    Valid statement txs c (step statement txs s turn).shared ((step statement txs s turn).phase c) :=
  (Pool.inv_step (I := fun _ => True) (L := Valid statement txs) (fun _ _ _ _ _ _ => trivial)
    (fun _ _ _ _ _ hL => act_valid hL) (fun _ _ _ _ _ _ hne _ hL hL' => valid_other hne hL hL')
    ⟨trivial, hs⟩).2 c

/-- A turn that commits nothing leaves what is committed. -/
theorem commitOf_none (hnone : commitOf s turn = none) :
    ((step statement txs s turn).shared.value, (step statement txs s turn).shared.ledger) =
      (s.shared.value, s.shared.ledger) := by
  rw [Pool.step_shared]
  unfold commitOf at hnone
  cases hstage : s.phase turn.call with
  | waiting =>
    cases turn.draws with
    | proceed =>
      simp only [act]
      split <;> rfl
    | _ => rfl
  | running =>
    cases turn.draws with
    | proceed =>
      simp only [act]
      split <;> rfl
    | lock =>
      simp only [act]
      split <;> rfl
    | abort => rfl
  | computed =>
    cases turn.draws with
    | proceed =>
      simp only [act]
      split
      · split <;> rfl
      · rfl
    | _ => rfl
  | written =>
    cases hevent : turn.draws with
    | proceed => simp [hevent, hstage] at hnone
    | _ => rfl
  | committed => cases turn.draws <;> rfl
  | failed => cases turn.draws <;> rfl

/-- A turn that commits on the value that was read is the transaction on its own. -/
theorem commitOf_some {e : Nat × ω} (hvalid : ∀ c, Valid statement txs c s.shared (s.phase c))
    (honto : OntoRead s turn) (hcommit : commitOf s turn = some e) :
    Serial statement txs (s.shared.value, s.shared.ledger) e
      ((step statement txs s turn).shared.value, (step statement txs s turn).shared.ledger) := by
  unfold commitOf at hcommit
  split at hcommit
  · next read write onto value ledger hevent hstage =>
    cases hcommit
    obtain ⟨hcompute, hmerge, hrecord, hvalue, -⟩ := hstage ▸ hvalid turn.call
    simp only [OntoRead, hevent, hstage] at honto
    subst honto
    rw [Pool.step_shared, hevent, hstage]
    refine ⟨?_, ?_, ?_⟩
    · rw [hvalue]
      exact hcompute
    · rw [hvalue]
      exact Option.some.inj (hmerge.symm.trans (statement.merge_self onto write))
    · exact hrecord
  · cases hcommit

/-- **Transactions that write on what they read are serializable**: what is committed is what the
committed transactions leave one after the other. -/
theorem serializable {value : ρ} {ledger : α} {turns : List (Turn Event)}
    (honto : Along (step statement txs) OntoRead (start value ledger) turns) :
    let db := (run (step statement txs) (start value ledger) turns).shared;
    Path (Serial statement txs) (value, ledger) (commits statement txs value ledger turns)
      (db.value, db.ledger) := by
  refine outputs_path_along (s := start value ledger)
    (f := fun s : Pool (Database κ ρ α) (Stage ρ ω α) => (s.shared.value, s.shared.ledger))
    (I := fun s => ∀ c, Valid statement txs c s.shared (s.phase c))
    (fun _ _ => step_valid) ?_ ?_ ?_ honto
  · intro s turn e hs honto hcommit
    exact commitOf_some hs honto hcommit
  · intro s turn _ hnone
    exact commitOf_none hnone
  · exact fun _ => trivial

end EidolonHub.Library.Isolation
