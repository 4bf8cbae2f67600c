import EidolonHub.Devices.EraseLedger
import EidolonHub.Library.Pool

/-!
# EidolonHub.Devices.EraseDelivery

**Reconciler passes, pulls and acknowledgements side by side.** Each of them is several
transactions, and between two of them any other call may take any number of its own. A pull decides
on the operation it has read whether to re-arm it, and hands out what the last transaction stored.

Every turn of a call is one transaction of the ledger or none (`turn_next`), so what holds after any
sequence of transactions holds after any schedule.
-/

namespace EidolonHub.Devices

open EidolonHub.Library EidolonHub.Library.Tx EidolonHub.Library.Python EidolonHub.Admission

namespace DeviceErase

/-! ### Calls and their steps -/

/-- What `PullDeviceEraseOperation.execute` is called with. -/
structure PullRequest where
  deviceRef : DeviceRef
  publicKeySpki : Spki
  nonce : String
  signature : String
  deriving DecidableEq

/-- `DeviceEraseDelivery`. -/
structure EraseDelivery where
  deliveryAttemptId : String
  command : EraseCommand
  deriving DecidableEq

/-- What calls of the Hub do: requests of the Admission, passes of the reconciler, and what a device asks
for and answers. -/
inductive Call where
  | admission (request : Request)
  | reconcile
  | pull (request : PullRequest)
  | acknowledge (ack : EraseAck)

/-- What a call ends with. -/
inductive Answer where
  | admitted
  | reconciled (created : Nat)
  | pulled (delivery : Option EraseDelivery)
  | acknowledged (operation : EraseOperation)
  deriving DecidableEq

/-- How far a call has come. -/
inductive Phase where
  | fresh
  /-- the revocations are materialized; the rows are marked next, with the reading of the pass -/
  | materialized (now : Timestamp) (created : Nat)
  /-- the rows are marked; those that are due expire next -/
  | marked (now : Timestamp) (created : Nat)
  /-- a pull has read the operation of its device -/
  | pulled (request : PullRequest) (operation : EraseOperation)
  /-- the operation is armed; the delivery is recorded next -/
  | armed (request : PullRequest) (operation : EraseOperation)
  /-- an acknowledgement has read its operation -/
  | heard (ack : EraseAck) (operation : EraseOperation)
  | answered (result : Except EraseError Answer)
  deriving DecidableEq

variable (erase : DeviceErase)

/-- What a device signs when it pulls. -/
def signingDocument (request : PullRequest) : Json :=
  .obj [("device_ref", erase.authority.sdk.dumpDeviceRef request.deviceRef),
    ("nonce", .str request.nonce), ("operation_type", .str "device-local.erase")]

/-- What a pull checks of the operation it has read. -/
def pullChecked (request : PullRequest) (operation : EraseOperation) : Except EraseError Unit :=
  if ¬ operation.publicKeySpki.any (DeviceControl.sameOperationalKey · request.publicKeySpki) then
    .error (.permission "operation delivery key does not match the Claim generation")
  else if ¬ erase.verifyP256Signature request.publicKeySpki (erase.signingDocument request)
      request.signature then
    .error .contract
  else .ok ()

/-- The id of a delivery attempt. -/
def attemptId (operationId : OperationId) (nonce : String) : String :=
  "erase_delivery_" ++
    String.ofList ((erase.authority.crypto.sha256 (operationId ++ "\x00" ++ nonce)).toList.take 40)

/-- What a pull answers with the operation it was left with. -/
def handOut (deliveryAttemptId : String) (operation : EraseOperation) : Option EraseDelivery :=
  if operation.state.isTerminal then none else some ⟨deliveryAttemptId, operation.command⟩

/-- A pull that has read its operation: its checks, and the re-arming of an attempt that lapsed. -/
def arm (request : PullRequest) (operation : EraseOperation) (now : Timestamp) (l : EraseLedger) :
    EraseLedger × Phase :=
  match erase.pullChecked request operation with
  | .error e => (l, .answered (.error e))
  | .ok () =>
    if operation.state.isSettled then (l, .answered (.ok (.pulled none)))
    else if operation.state = .expired ∨ operation.command.deadline ≤ now then
      match erase.rearmLapsed operation.command.operationId now l with
      | .error e => (l, .answered (.error e))
      | .ok (rearmed, l') =>
        if rearmed.state.isTerminal then (l', .answered (.ok (.pulled none)))
        else (l', .armed request rearmed)
    else (l, .armed request operation)

variable (calls : Nat → Call)

/-- The next step of a call, with the reading of its clock. -/
def act (c : Nat) (now : Timestamp) (l : EraseLedger) : Phase → EraseLedger × Phase
  | .fresh =>
    match calls c with
    | .admission request => (erase.next l (.admission request), .answered (.ok .admitted))
    | .reconcile =>
      match erase.materializeClaimEvents l with
      | .error e => (l, .answered (.error e))
      | .ok (created, l') => (l', .materialized now created)
    | .pull request =>
      match getForDevice l request.deviceRef with
      | none => (l, .answered (.ok (.pulled none)))
      | some operation => (l, .pulled request operation)
    | .acknowledge ack =>
      match get l ack.operationId with
      | none => (l, .answered (.error (.key ack.operationId)))
      | some operation => (l, .heard ack operation)
  | .materialized reading created => (Tx.attempt (markAcceptedPending reading) l, .marked reading created)
  | .marked reading created =>
    (Tx.attempt (expireDue reading) l, .answered (.ok (.reconciled created)))
  | .pulled request operation => erase.arm request operation now l
  | .armed request operation =>
    let attempt := erase.attemptId operation.command.operationId request.nonce
    match acceptDelivery operation.command.operationId attempt now l with
    | .error e => (l, .answered (.error e))
    | .ok (accepted, l') => (l', .answered (.ok (.pulled (handOut attempt accepted))))
  | .heard ack operation =>
    match erase.ackChecked ack (some operation) with
    | .error e => (l, .answered (.error e))
    | .ok () =>
      match applyAck ack (erase.ackFingerprint ack) now l with
      | .error e => (l, .answered (.error e))
      | .ok (applied, l') => (l', .answered (.ok (.acknowledged applied)))
  | .answered result => (l, .answered result)

/-- The ledger and its calls after a turn. -/
abbrev turn : Pool EraseLedger Phase → Turn Timestamp → Pool EraseLedger Phase :=
  Pool.step (erase.act calls)

/-- The ledger and its calls after a schedule on a fresh database. -/
def scheduled (turns : List (Turn Timestamp)) : Pool EraseLedger Phase :=
  run (erase.turn calls) (.start .empty .fresh) turns

variable {erase calls} {l l' : EraseLedger} {c : Nat} {now : Timestamp} {phase : Phase}
  {row : EraseOperationRow} {request : PullRequest} {operation : EraseOperation} {ack : EraseAck}

/-! ### A turn is a transaction or none -/

/-- The operation was read from this row, perhaps long ago. -/
structure ReadFrom (operation : EraseOperation) (row : EraseOperationRow) : Prop where
  operationId : operation.command.operationId = row.operationId
  deviceRef : operation.command.deviceRef = row.deviceRef
  publicKeySpki : operation.publicKeySpki = row.publicKeySpki

/-- What a call knows between its steps: the row of the operation it has read is on file. -/
def Sound (erase : DeviceErase) (calls : Nat → Call) (c : Nat) (l : EraseLedger) : Phase → Prop
  | .materialized _ _ | .marked _ _ => calls c = .reconcile
  | .pulled request operation => calls c = .pull request ∧
      ∃ row ∈ l.operations, row.deviceRef = request.deviceRef ∧ ReadFrom operation row
  | .armed request operation => calls c = .pull request ∧ erase.pullChecked request operation = .ok () ∧
      ∃ row ∈ l.operations, row.deviceRef = request.deviceRef ∧ ReadFrom operation row
  | .heard ack operation => calls c = .acknowledge ack ∧
      ∃ row ∈ l.operations, row.operationId = ack.operationId ∧ ReadFrom operation row
  | .fresh | .answered _ => True

theorem readFrom_decode (hrow : Consistent erase row) : ReadFrom row.decode row :=
  ⟨hrow.operationId, hrow.deviceRef, rfl⟩

theorem ReadFrom.of_identity {row' : EraseOperationRow} (h : ReadFrom operation row)
    (hidentity : row'.identity = row.identity) : ReadFrom operation row' := by
  have href : row'.identity.deviceRef = row.identity.deviceRef := congrArg _ hidentity
  have hkey : row'.identity.publicKeySpki = row.identity.publicKeySpki := congrArg _ hidentity
  exact ⟨h.operationId.trans (operationId_of_identity hidentity).symm, h.deviceRef.trans href.symm,
    h.publicKeySpki.trans (Eq.symm hkey)⟩

/-- What a call knows stays true while the rows keep their identity. -/
theorem Sound.keeps (hkeeps : Keeps l l') (h : Sound erase calls c l phase) :
    Sound erase calls c l' phase := by
  have hrow : ∀ (P : EraseOperationRow → Prop),
      (∀ row row' : EraseOperationRow, row'.identity = row.identity → P row → P row') →
      (∃ row ∈ l.operations, P row) → ∃ row ∈ l'.operations, P row := by
    rintro P hP ⟨row, hrow, h⟩
    obtain ⟨row', hrow', hidentity, -⟩ := hkeeps row hrow
    exact ⟨row', hrow', hP row row' hidentity h⟩
  have hread : ∀ (ref : DeviceRef) (operation : EraseOperation) (row row' : EraseOperationRow),
      row'.identity = row.identity → row.deviceRef = ref ∧ ReadFrom operation row →
      row'.deviceRef = ref ∧ ReadFrom operation row' := by
    rintro ref operation row row' hidentity ⟨href, h⟩
    have href' : row'.identity.deviceRef = row.identity.deviceRef := congrArg _ hidentity
    exact ⟨Eq.trans href' href, h.of_identity hidentity⟩
  cases phase with
  | pulled request operation =>
    exact ⟨h.1, hrow (fun row => row.deviceRef = request.deviceRef ∧ ReadFrom operation row)
      (hread request.deviceRef operation) h.2⟩
  | armed request operation =>
    exact ⟨h.1, h.2.1, hrow (fun row => row.deviceRef = request.deviceRef ∧ ReadFrom operation row)
      (hread request.deviceRef operation) h.2.2⟩
  | heard ack operation =>
    refine ⟨h.1, hrow (fun row => row.operationId = ack.operationId ∧ ReadFrom operation row) ?_ h.2⟩
    rintro row row' hidentity ⟨hid, h⟩
    exact ⟨(operationId_of_identity hidentity).trans hid, h.of_identity hidentity⟩
  | materialized | marked => exact h
  | fresh | answered => trivial

/-- **A turn is one transaction of the ledger, or it changes nothing.** -/
theorem act_next (now : Timestamp) (hcoherent : Coherent erase l) (hsound : Sound erase calls c l phase) :
    (erase.act calls c now l phase).1 = l ∨ ∃ request, (erase.act calls c now l phase).1 = erase.next l request := by
  cases phase with
  | fresh =>
    simp only [act]
    cases calls c with
    | admission request => exact .inr ⟨.admission request, rfl⟩
    | reconcile =>
      dsimp only
      split
      · exact .inl rfl
      · next created l' h => exact .inr ⟨.materialize, (attempt_of_commits h).symm⟩
    | pull request =>
      dsimp only
      split <;> exact .inl rfl
    | acknowledge ack =>
      dsimp only
      split <;> exact .inl rfl
  | materialized reading created => exact .inr ⟨.markAcceptedPending reading, rfl⟩
  | marked reading created => exact .inr ⟨.expireDue reading, rfl⟩
  | pulled request operation =>
    simp only [act, arm]
    split
    · exact .inl rfl
    · split_ifs
      · exact .inl rfl
      · split
        · exact .inl rfl
        · next rearmed l' h =>
          split <;> exact .inr ⟨.rearmLapsed operation.command.operationId now, (attempt_of_commits h).symm⟩
      · exact .inl rfl
  | armed request operation =>
    simp only [act]
    split
    · exact .inl rfl
    · next accepted l' h =>
      exact .inr ⟨.acceptDelivery operation.command.operationId _ now, (attempt_of_commits h).symm⟩
  | heard ack operation =>
    simp only [act]
    split
    · exact .inl rfl
    · next hchecked =>
      split
      · exact .inl rfl
      · next applied l' h =>
        refine .inr ⟨.acknowledge ack now, (attempt_of_commits (a := applied) ?_).symm⟩
        obtain ⟨-, row, hrow, hid, hread⟩ := hsound
        obtain ⟨href, key, hkey, hverify⟩ := ackChecked_some.mp hchecked
        -- the row is still the one the checks were made on
        have hfound : l.operation ack.operationId = some row := by
          rw [← hid]
          exact Table.get_of_mem eraseOperation_operationId_isKey hrow
        simp only [DeviceErase.acknowledge, commits_read_bind, commits_lift_bind]
        refine ⟨(), ackChecked_ok.mpr ⟨row, hfound, ?_, key, hread.publicKeySpki.symm.trans hkey, hverify⟩, h⟩
        rw [href, hread.deviceRef, (hcoherent.rows row hrow).deviceRef]
  | answered result => exact .inl rfl

/-! ### What a call knows -/

/-- Of the operation a pull has read, its checks look at the key alone. -/
theorem pullChecked_congr {other : EraseOperation} (h : other.publicKeySpki = operation.publicKeySpki) :
    erase.pullChecked request other = erase.pullChecked request operation := by
  unfold pullChecked
  rw [h]

/-- Re-arming the operation that was read finds its row, and leaves it on file. -/
theorem ReadFrom.rearmed {rearmed : EraseOperation} (hread : ReadFrom operation row)
    (hrow : row ∈ l.operations)
    (h : Commits (erase.rearmLapsed operation.command.operationId now) l rearmed l') :
    erase.rearmed now row ∈ l'.operations ∧ rearmed = (erase.rearmed now row).decode := by
  obtain ⟨found, hfound, rfl, rfl⟩ := rearmLapsed_commits.mp h
  have hsame : l.operation operation.command.operationId = some row := by
    rw [hread.operationId]
    exact Table.get_of_mem eraseOperation_operationId_isKey hrow
  obtain rfl : row = found := Option.some.inj (hsame.symm.trans hfound)
  have hkeeps : Table.Keeps (erase.rearmed now) := EraseOperationRow.keeps fun _ => erase.rearmed_identity
  exact ⟨Table.modify_mem hkeeps hrow hread.operationId.symm, rfl⟩

/-- A call that takes its next step knows what it says it does. -/
theorem act_sound (hcoherent : Coherent erase l) (hsound : Sound erase calls c l phase) :
    Sound erase calls c (erase.act calls c now l phase).1 (erase.act calls c now l phase).2 := by
  cases phase with
  | fresh =>
    simp only [act]
    cases hcall : calls c with
    | admission request => trivial
    | reconcile =>
      dsimp only
      split
      · trivial
      · exact hcall
    -- what a lookup returns is read from a row of the ledger
    | pull request =>
      dsimp only
      cases hfound : getForDevice l request.deviceRef with
      | none => trivial
      | some operation =>
        obtain ⟨row, hrow, rfl⟩ := Option.map_eq_some_iff.mp hfound
        exact ⟨hcall, row, Table.get_mem hrow, Table.get_key hrow,
          readFrom_decode (hcoherent.rows row (Table.get_mem hrow))⟩
    | acknowledge ack =>
      dsimp only
      cases hfound : get l ack.operationId with
      | none => trivial
      | some operation =>
        obtain ⟨row, hrow, rfl⟩ := Option.map_eq_some_iff.mp hfound
        exact ⟨hcall, row, Table.get_mem hrow, Table.get_key hrow,
          readFrom_decode (hcoherent.rows row (Table.get_mem hrow))⟩
  | materialized reading created => exact hsound
  | marked reading created => trivial
  -- re-arming writes the row that was read, under the same identity, so the check made before still
  -- holds
  | pulled request operation =>
    obtain ⟨hcall, row, hrow, href, hread⟩ := hsound
    simp only [act, arm]
    split
    · trivial
    · next hchecked =>
      split_ifs
      · trivial
      · split
        · trivial
        · next rearmed l' h =>
          split
          · trivial
          · obtain ⟨hrow', rfl⟩ := hread.rearmed hrow h
            have hmoves : Moves erase row (erase.rearmed now row) := rearmed_moves
            have hdevice : (erase.rearmed now row).identity.deviceRef = row.identity.deviceRef :=
              congrArg _ hmoves.identity
            have hkey : (erase.rearmed now row).identity.publicKeySpki = row.identity.publicKeySpki :=
              congrArg _ hmoves.identity
            refine ⟨hcall, ?_, _, hrow', Eq.trans hdevice href,
              readFrom_decode (hmoves.consistent (hcoherent.rows row hrow))⟩
            rw [pullChecked_congr (Eq.trans hkey hread.publicKeySpki.symm)]
            exact hchecked
      · exact ⟨hcall, hchecked, row, hrow, href, hread⟩
  | armed request operation =>
    simp only [act]
    split <;> trivial
  | heard ack operation =>
    simp only [act]
    split
    · trivial
    · split <;> trivial
  | answered result => trivial

/-! ### What the ledger says -/

/-- One coherent instruction: the deadline, the command and the fingerprint describe one command; the
row is expired exactly with the result of a deadline; what settled it is its one piece of applied
evidence. -/
structure Instruction (erase : DeviceErase) (l : EraseLedger) (row : EraseOperationRow) : Prop where
  command : row.command.operationId = row.operationId ∧ row.command.deviceRef = row.deviceRef
  deadline : row.deadline = row.command.deadline
  requestFingerprint : row.requestFingerprint = erase.operationFingerprint row.command
  expired : row.state = .expired ↔ row.terminalResult = some deadlineExpired
  settled : row.state.isSettled = true → ∃ e, l.applied row.operationId = [e] ∧ SettledBy row e
  unsettled : row.state.isSettled = false → l.applied row.operationId = []

theorem Consistent.expired_iff (h : Consistent erase row) :
    row.state = .expired ↔ row.terminalResult = some deadlineExpired := by
  have hresult := h.terminalResult
  cases hstate : row.state <;> rw [hstate] at hresult
  case expired => exact iff_of_true rfl hresult
  case acknowledged => simp [hresult, deadlineExpired]
  case permanentFailure =>
    obtain ⟨result, hresult, hother⟩ := hresult
    simp [hresult, hother]
  all_goals simp [show row.terminalResult = none from hresult]

theorem Coherent.instruction (h : Coherent erase l) (hrow : row ∈ l.operations) :
    Instruction erase l row where
  command := ⟨(h.rows row hrow).operationId, (h.rows row hrow).deviceRef⟩
  deadline := (h.rows row hrow).deadline
  requestFingerprint := (h.rows row hrow).requestFingerprint
  expired := (h.rows row hrow).expired_iff
  settled := h.settled row hrow
  unsettled := h.unsettled row hrow

/-! ### What a pull does -/

/-- The caller has proved possession of the key the operation is bound to. -/
def Proves (erase : DeviceErase) (request : PullRequest) (row : EraseOperationRow) : Prop :=
  (∃ key, row.publicKeySpki = some key ∧ DeviceControl.sameOperationalKey key request.publicKeySpki = true) ∧
    erase.verifyP256Signature request.publicKeySpki (erase.signingDocument request) request.signature = true

theorem ReadFrom.proves (hread : ReadFrom operation row) (h : erase.pullChecked request operation = .ok ()) :
    Proves erase request row := by
  unfold pullChecked at h
  rw [hread.publicKeySpki] at h
  split_ifs at h with hkey hsignature
  obtain ⟨key, hrow, hsame⟩ := (Option.any_eq_true ..).mp hkey
  exact ⟨⟨key, hrow, hsame⟩, hsignature⟩

/-- **A pull changes the ledger** only for a caller that has proved possession of the key. -/
theorem act_proves (hcall : calls c = .pull request) (hsound : Sound erase calls c l phase)
    (hchanged : (erase.act calls c now l phase).1 ≠ l) :
    ∃ row ∈ l.operations, row.deviceRef = request.deviceRef ∧ Proves erase request row := by
  cases phase with
  | fresh =>
    simp only [act, hcall] at hchanged
    split at hchanged <;> exact absurd rfl hchanged
  | materialized | marked =>
    rw [Sound, hcall] at hsound
    cases hsound
  | pulled other operation =>
    obtain ⟨hsame, row, hrow, href, hread⟩ := hsound
    cases hcall.symm.trans hsame
    simp only [act, arm] at hchanged
    split at hchanged
    · exact absurd rfl hchanged
    · next hchecked => exact ⟨row, hrow, href, hread.proves hchecked⟩
  | armed other operation =>
    obtain ⟨hsame, hchecked, row, hrow, href, hread⟩ := hsound
    cases hcall.symm.trans hsame
    exact ⟨row, hrow, href, hread.proves hchecked⟩
  | heard ack operation =>
    obtain ⟨hsame, -⟩ := hsound
    rw [hcall] at hsame
    cases hsame
  | answered result => exact absurd rfl hchanged

/-- A pull that has recorded nothing so far: it has not begun, has read, or was refused. -/
def Phase.isQuiet : Phase → Bool
  | .fresh | .pulled _ _ | .answered (.error _) => true
  | _ => false

/-- **A pull that is refused** has recorded nothing. -/
theorem act_quiet (hcall : calls c = .pull request) (hsound : Sound erase calls c l phase)
    (hquiet : (erase.act calls c now l phase).2.isQuiet = true) :
    phase.isQuiet = true ∧ (erase.act calls c now l phase).1 = l := by
  cases phase with
  | fresh =>
    refine ⟨rfl, ?_⟩
    simp only [act, hcall]
    split <;> rfl
  | materialized | marked =>
    rw [Sound, hcall] at hsound
    cases hsound
  | pulled other operation =>
    refine ⟨rfl, ?_⟩
    simp only [act, arm] at hquiet ⊢
    split at hquiet
    · rfl
    · split_ifs at hquiet ⊢
      · cases hquiet
      · split at hquiet
        · rfl
        · split at hquiet <;> cases hquiet
      · cases hquiet
  | armed other operation =>
    -- the row of the operation is on file, so that recording the delivery commits
    obtain ⟨-, -, row, hrow, -, hread⟩ := hsound
    have hfound : l.operation operation.command.operationId = some row := by
      rw [hread.operationId]
      exact Table.get_of_mem eraseOperation_operationId_isKey hrow
    have hcommits : Commits (acceptDelivery operation.command.operationId
        (erase.attemptId operation.command.operationId other.nonce) now) l _ _ :=
      acceptDelivery_commits.mpr ⟨row, hfound, rfl, rfl⟩
    unfold Commits at hcommits
    simp only [act, hcommits] at hquiet
    cases hquiet
  | heard ack operation =>
    obtain ⟨hsame, -⟩ := hsound
    rw [hcall] at hsame
    cases hsame
  | answered result =>
    exact ⟨hquiet, rfl⟩

/-- A delivery of the command of a row: the caller has proved possession of its key, and what it is
handed is the command on file, of an operation that is live, with its deadline ahead. -/
structure HandsOut (erase : DeviceErase) (request : PullRequest) (delivery : EraseDelivery)
    (now : Timestamp) (l l' : EraseLedger) (row row' : EraseOperationRow) : Prop where
  before : row ∈ l.operations
  after : row' ∈ l'.operations
  identity : row'.identity = row.identity
  deviceRef : row.deviceRef = request.deviceRef
  proves : Proves erase request row
  live : row.state.isTerminal = false
  delivered : row'.state = .deliveryAccepted
  command : delivery.command = row'.command ∧ row'.command = row.command
  deadline : now < row.command.deadline

/-- **A pull hands out** the command of a live operation. -/
theorem act_handsOut {delivery : EraseDelivery} (hcoherent : Coherent erase l)
    (hsound : Sound erase calls c l phase)
    (hbefore : phase ≠ .answered (.ok (.pulled (some delivery))))
    (hafter : (erase.act calls c now l phase).2 = .answered (.ok (.pulled (some delivery)))) :
    ∃ request row row', calls c = .pull request ∧
      HandsOut erase request delivery now l (erase.act calls c now l phase).1 row row' := by
  cases phase with
  -- only an armed pull hands out; its row is the one that was checked
  | armed request operation =>
    obtain ⟨hcall, hchecked, row, hrow, href, hread⟩ := hsound
    have hfound : l.operation operation.command.operationId = some row := by
      rw [hread.operationId]
      exact Table.get_of_mem eraseOperation_operationId_isKey hrow
    simp only [act] at hafter ⊢
    split at hafter
    · cases hafter
    · next accepted l' h =>
      obtain ⟨found, hfound', rfl, rfl⟩ := acceptDelivery_commits.mp h
      obtain rfl : row = found := Option.some.inj (hfound.symm.trans hfound')
      simp only [Phase.answered.injEq, Except.ok.injEq, Answer.pulled.injEq, handOut] at hafter
      split_ifs at hafter with hterminal
      obtain rfl := Option.some.inj hafter
      obtain ⟨hlive, hopen⟩ := live_of_deliver (Bool.eq_false_iff.mpr hterminal)
      have hkeeps : Table.Keeps (EraseOperationRow.deliver
          (erase.attemptId operation.command.operationId request.nonce) now) :=
        EraseOperationRow.keeps fun _ => EraseOperationRow.deliver_identity
      refine ⟨request, row, row.deliver _ now, hcall, hrow,
        Table.modify_mem hkeeps hrow hread.operationId.symm, EraseOperationRow.deliver_identity, href, hread.proves hchecked, hlive, ?_, ⟨rfl, ?_⟩, ?_⟩
      · rw [deliver_live hlive hopen]
      · rw [deliver_live hlive hopen]
      · rw [← (hcoherent.rows row hrow).deadline]
        exact hopen
  -- no other phase answers with a delivery
  | fresh =>
    simp only [act] at hafter
    cases hcall : calls c with
    | admission request =>
      rw [hcall] at hafter
      cases hafter
    | reconcile | pull request | acknowledge ack =>
      rw [hcall] at hafter
      dsimp only at hafter
      split at hafter <;> cases hafter
  | pulled request operation =>
    simp only [act, arm] at hafter
    split at hafter
    · cases hafter
    · split_ifs at hafter
      · cases hafter
      · split at hafter
        · cases hafter
        · split at hafter <;> cases hafter
  | materialized | marked => cases hafter
  | heard ack operation =>
    simp only [act] at hafter
    split at hafter
    · cases hafter
    · split at hafter <;> cases hafter
  | answered result => exact absurd hafter hbefore

/-! ### After any schedule -/

theorem scheduled_concat (turns : List (Turn Timestamp)) (turn : Turn Timestamp) :
    erase.scheduled calls (turns ++ [turn]) = erase.turn calls (erase.scheduled calls turns) turn :=
  run_concat _ _ turns turn

section Schedules

variable (hresults : ∀ ack key, erase.verifyDeviceEraseAck ack key = true → ack.result ≠ deadlineExpired)
include hresults

/-- A turn keeps the ledger coherent, and its rows. -/
theorem act_coherent (hcoherent : Coherent erase l) (hsound : Sound erase calls c l phase) :
    Coherent erase (erase.act calls c now l phase).1 ∧ Keeps l (erase.act calls c now l phase).1 := by
  rcases act_next now hcoherent hsound with hsame | ⟨request, hnext⟩
  · rw [hsame]
    exact ⟨hcoherent, Std.Refl.refl l⟩
  · rw [hnext]
    exact ⟨(next_change l request).coherent hresults hcoherent, (next_change l request).keeps⟩

/-- The ledger is coherent, and every call knows what it says it does. -/
theorem scheduled_sound (calls : Nat → Call) (turns : List (Turn Timestamp)) :
    Coherent erase (erase.scheduled calls turns).shared ∧
      ∀ c, Sound erase calls c (erase.scheduled calls turns).shared ((erase.scheduled calls turns).phase c) := by
  have h0 : Coherent erase (Pool.start EraseLedger.empty Phase.fresh).shared ∧ ∀ c, Sound erase calls c
      (Pool.start EraseLedger.empty Phase.fresh).shared ((Pool.start EraseLedger.empty Phase.fresh).phase c) :=
    ⟨coherent_empty, fun _ => trivial⟩
  refine Pool.inv ?_ ?_ ?_ h0 turns
  · intro c now l phase hcoherent hsound
    exact (act_coherent hresults hcoherent hsound).1
  · intro c now l phase hcoherent hsound
    exact act_sound hcoherent hsound
  · intro c now l phase b other _ hcoherent hsound hother
    exact hother.keeps (act_coherent hresults hcoherent hsound).2

/-- What a schedule has left of the rows is kept by what follows. -/
theorem scheduled_keeps (turns later : List (Turn Timestamp)) :
    Keeps (erase.scheduled calls turns).shared (erase.scheduled calls (turns ++ later)).shared := by
  induction later using List.reverseRec with
  | nil =>
    rw [List.append_nil]
    exact Std.Refl.refl _
  | append_singleton later turn ih =>
    obtain ⟨hcoherent, hsound⟩ := scheduled_sound hresults calls (turns ++ later)
    refine IsTrans.trans _ _ _ ih ?_
    rw [← List.append_assoc, scheduled_concat]
    exact (act_coherent hresults hcoherent (hsound turn.call)).2

/-- A pull that is refused, or that has only read, has recorded nothing at any of its turns. -/
theorem scheduled_quiet (hcall : calls c = .pull request) {turns pre post : List (Turn Timestamp)}
    {turn : Turn Timestamp} (hquiet : ((erase.scheduled calls turns).phase c).isQuiet = true)
    (hsplit : turns = pre ++ turn :: post) (hturn : turn.call = c) :
    (erase.scheduled calls (pre ++ [turn])).shared = (erase.scheduled calls pre).shared := by
  induction turns using List.reverseRec generalizing post with
  | nil => simp at hsplit
  | append_singleton turns last ih =>
    obtain ⟨-, hsound⟩ := scheduled_sound hresults calls turns
    rw [scheduled_concat] at hquiet
    rcases List.eq_nil_or_concat post with rfl | ⟨post, last', rfl⟩
    · obtain ⟨rfl, hlast⟩ := List.append_inj' hsplit rfl
      obtain rfl := (List.cons.inj hlast).1
      rw [scheduled_concat]
      subst hturn
      rw [Pool.step_phase_self] at hquiet
      exact (act_quiet hcall (hsound _) hquiet).2
    · rw [List.concat_eq_append, ← List.cons_append, ← List.append_assoc] at hsplit
      obtain ⟨rfl, hlast⟩ := List.append_inj' hsplit rfl
      refine ih ?_ rfl
      by_cases hc : c = last.call
      · subst hc
        rw [Pool.step_phase_self] at hquiet
        exact (act_quiet hcall (hsound _) hquiet).1
      · rwa [Pool.step_phase_ne hc] at hquiet

/-- Every delivery was handed out at one turn of the schedule. -/
theorem scheduled_handsOut {turns : List (Turn Timestamp)} {delivery : EraseDelivery}
    (h : (erase.scheduled calls turns).phase c = .answered (.ok (.pulled (some delivery)))) :
    ∃ pre turn post request row row', turns = pre ++ turn :: post ∧ turn.call = c ∧ calls c = .pull request ∧
      HandsOut erase request delivery turn.draws (erase.scheduled calls pre).shared
        (erase.scheduled calls (pre ++ [turn])).shared row row' := by
  have h0 : ¬ (Pool.start EraseLedger.empty Phase.fresh).phase c =
      .answered (.ok (.pulled (some delivery))) := by simp [Pool.start]
  obtain ⟨k, turn, hturn, hbefore, hafter⟩ := exists_turn
    (P := fun s : Pool EraseLedger Phase => s.phase c = .answered (.ok (.pulled (some delivery)))) h0 h
  obtain ⟨hcoherent, hsound⟩ := scheduled_sound hresults calls (turns.take k)
  have hcall : c = turn.call := by
    by_contra hc
    rw [Pool.step_phase_ne hc] at hafter
    exact hbefore hafter
  subst hcall
  rw [Pool.step_phase_self] at hafter
  obtain ⟨request, row, row', hcall, hands⟩ := act_handsOut hcoherent (hsound turn.call) hbefore hafter
  refine ⟨turns.take k, turn, turns.drop (k + 1), request, row, row', ?_, rfl, hcall, ?_⟩
  · obtain ⟨hk, rfl⟩ := List.getElem?_eq_some_iff.mp hturn
    rw [List.getElem_cons_drop, List.take_append_drop]
  · rw [scheduled_concat]
    exact hands

/-- **One coherent instruction per operation**, after every schedule of reconciler passes, pulls and
acknowledgements with any clock readings: the columns of every row agree, and its state agrees with
the evidence; no row changes its identity, and none changes at all once it is settled; a pull is
handed the command on file of a live operation whose key it has proved possession of, before its
deadline; and a pull that does not prove it, or is refused, changes nothing. -/
theorem scheduled_instructs (calls : Nat → Call) (turns : List (Turn Timestamp)) :
    (∀ row ∈ (erase.scheduled calls turns).shared.operations,
      Instruction erase (erase.scheduled calls turns).shared row) ∧
    (∀ later, Keeps (erase.scheduled calls turns).shared (erase.scheduled calls (turns ++ later)).shared) ∧
    (∀ c delivery, (erase.scheduled calls turns).phase c = .answered (.ok (.pulled (some delivery))) →
      ∃ pre turn post request row row', turns = pre ++ turn :: post ∧ turn.call = c ∧
        calls c = .pull request ∧ HandsOut erase request delivery turn.draws
          (erase.scheduled calls pre).shared (erase.scheduled calls (pre ++ [turn])).shared row row') ∧
    ∀ pre turn post request, turns = pre ++ turn :: post → calls turn.call = .pull request →
      (erase.scheduled calls (pre ++ [turn])).shared ≠ (erase.scheduled calls pre).shared →
      (∃ row ∈ (erase.scheduled calls pre).shared.operations, row.deviceRef = request.deviceRef ∧
        Proves erase request row) ∧
      ∀ e, (erase.scheduled calls turns).phase turn.call ≠ .answered (.error e) := by
  refine ⟨fun row hrow => (scheduled_sound hresults calls turns).1.instruction hrow,
    scheduled_keeps hresults turns, fun c delivery => scheduled_handsOut hresults, ?_⟩
  intro pre turn post request hsplit hcall hchanged
  constructor
  · rw [scheduled_concat] at hchanged
    exact act_proves hcall ((scheduled_sound hresults calls pre).2 turn.call) hchanged
  · intro e herror
    refine hchanged (scheduled_quiet hresults hcall ?_ hsplit rfl)
    rw [herror]
    rfl

end Schedules

end DeviceErase

/-! ### A lamp that comes back late -/

namespace Sample

open DeviceErase

/-- The calls of the example. -/
def eraseCalls (c : Nat) : Call :=
  match lampLost[c]? with
  | some request => .admission request
  | none => if c = 5 then .reconcile else .pull ⟨Sample.deviceRef "k" 1, "k", "nonce", "k"⟩

/-- The revocation is materialized, and the lamp pulls after the deadline. -/
def pulledLate : List (Turn Timestamp) :=
  [⟨0, 0⟩, ⟨1, 0⟩, ⟨2, 0⟩, ⟨3, 0⟩, ⟨4, 0⟩, ⟨5, 10⟩, ⟨5, 10⟩, ⟨5, 10⟩, ⟨6, 400⟩, ⟨6, 400⟩, ⟨6, 401⟩]

/-- What the lamp is handed out. -/
def lampDelivery : EraseDelivery :=
  ⟨"erase_delivery_erase_device-local.erase\x00revoke\x00device-k", ⟨lampOperation, Sample.deviceRef "k" 1, 700⟩⟩

end Sample

theorem scheduled_instructs_lamp : ∃ pre turn post request row row',
    Sample.pulledLate = pre ++ turn :: post ∧ turn.call = 6 ∧ Sample.eraseCalls 6 = .pull request ∧
      DeviceErase.HandsOut Sample.erase request Sample.lampDelivery turn.draws
        (Sample.erase.scheduled Sample.eraseCalls pre).shared
        (Sample.erase.scheduled Sample.eraseCalls (pre ++ [turn])).shared row row' :=
  (DeviceErase.scheduled_instructs Sample.erase_results Sample.eraseCalls Sample.pulledLate).2.2.1 6
    Sample.lampDelivery (by decide +kernel)

end EidolonHub.Devices
