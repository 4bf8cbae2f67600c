import EidolonHub.Devices.EraseLedger

/-!
# EidolonHub.Devices.EraseEvidence

**Acknowledgements that come in twice.** An acknowledgement that is on file is answered with the row
and changes nothing, whether it was applied or not. One that came in while its operation was expired
stays on file when the operation is re-armed, and is not applied any more.

An operation heeds its next acknowledgement as long as nothing about it is on file (`heeds_iff`).
-/

namespace EidolonHub.Devices

open EidolonHub.Library EidolonHub.Library.Tx EidolonHub.Library.Python EidolonHub.Admission

namespace DeviceErase

variable {erase : DeviceErase} {l l' : EraseLedger} {row row' : EraseOperationRow} {now : Timestamp}
  {request : EraseRequest}

/-- Every acknowledgement that is accepted for a live operation, before its deadline, settles it. -/
def Heeds (erase : DeviceErase) (l : EraseLedger) : Prop :=
  ∀ ack receivedAt operation l' row, l.operation ack.operationId = some row →
    row.state.isTerminal = false → receivedAt < row.deadline →
    Commits (erase.acknowledge ack receivedAt) l operation l' →
    ∃ row', l'.operation ack.operationId = some row' ∧ row'.terminalResult = some ack.result ∧
      row'.state = if ack.result = "erased" then .acknowledged else .permanentFailure

/-- No acknowledgement of the operation is on file. -/
def Unheard (l : EraseLedger) (operationId : OperationId) : Prop :=
  ∀ e ∈ l.evidence, e.operationId ≠ operationId

/-- No acknowledgement of a live operation is on file. -/
def LiveUnheard (l : EraseLedger) : Prop :=
  ∀ row ∈ l.operations, row.state.isTerminal = false → Unheard l row.operationId

/-- A request that re-arms an operation does so with no acknowledgement of it on file. -/
def RearmsUnheard (l : EraseLedger) : EraseRequest → Prop
  | .rearmLapsed operationId now => ∀ row, l.operation operationId = some row →
      row.state.isSettled = false → (row.state = .expired ∨ row.deadline ≤ now) → Unheard l operationId
  | _ => True

/-! ### One acknowledgement -/

/-- Evidence can be presented again, as long as its operation is on file. -/
theorem Attests.again {e : AckEvidenceRow} (hfiled : Filed erase l) (he : e ∈ l.evidence)
    (hrow : row ∈ l.operations) (h : Attests erase row e) (receivedAt : Timestamp) :
    ∃ ack, ack.operationId = row.operationId ∧ Commits (erase.acknowledge ack receivedAt) l row.decode l := by
  obtain ⟨ack, key, hkey, hid, href, hspki, hverified, hfingerprint⟩ := h
  have hfound : l.operation ack.operationId = some row := by
    rw [← hid]
    exact Table.get_of_mem eraseOperation_operationId_isKey hrow
  have hevidence : l.evidence.get (·.key) (ack.operationId, ack.ackSequence) = some e := by
    rw [← hkey]
    exact Table.get_of_mem ackEvidence_key_isKey he
  refine ⟨ack, hid.symm, ?_⟩
  simp only [acknowledge, commits_read_bind, commits_lift_bind]
  refine ⟨(), ackChecked_ok.mpr ⟨row, hfound, href.trans (hfiled.addressed row hrow).symm, key, hspki,
    hverified⟩, ?_⟩
  unfold applyAck
  simp only [commits_read_bind, commits_demand_bind]
  refine ⟨row, hfound, ?_⟩
  rw [hevidence]
  exact commits_raiseIf_bind.mpr ⟨not_not.mpr hfingerprint, commits_pure.mpr ⟨rfl, rfl⟩⟩

/-- **Live operations heed their acknowledgements** exactly when none of them is on file. -/
theorem heeds_iff (hfiled : Filed erase l) : Heeds erase l ↔ LiveUnheard l := by
  constructor
  · intro hheeds row hrow hlive e he hid
    obtain ⟨found, hfound, hattests⟩ := hfiled.attested e he
    obtain rfl : found = row := by
      refine Table.eq_of_key eraseOperation_operationId_isKey hfound hrow ?_
      obtain ⟨ack, key, hkey, hack, -⟩ := hattests
      exact hack.trans ((congrArg Prod.fst hkey).symm.trans hid)
    obtain ⟨ack, hack, hcommits⟩ := hattests.again hfiled he hrow (found.deadline - 1)
    have hget : l.operation ack.operationId = some found := by
      rw [hack]
      exact Table.get_of_mem eraseOperation_operationId_isKey hrow
    obtain ⟨row', hrow', -, hstate⟩ := hheeds ack _ _ l found hget hlive (Int.sub_one_lt_iff.mpr le_rfl) hcommits
    rw [hget] at hrow'
    cases hrow'
    rw [hstate] at hlive
    split at hlive <;> cases hlive
  · intro hunheard ack receivedAt operation l' row hrow hlive hopen hcommits
    rcases acknowledge_commits hcommits with ⟨-, -, -, -, e, he, hkey, -⟩ | ⟨found, hacknowledges, -⟩
    · have hid : e.operationId = row.operationId :=
        (congrArg Prod.fst hkey).trans (Table.get_key hrow).symm
      exact absurd hid (hunheard row (Table.get_mem hrow) hlive e he)
    · obtain rfl : row = found := Option.some.inj (hrow.symm.trans hacknowledges.found)
      have hsettles : row.acknowledge ack receivedAt = row.settle ack receivedAt := by
        unfold EraseOperationRow.acknowledge EraseOperationRow.dueAt EraseOperationRow.expireDue
        rw [if_neg (fun h : _ ∧ _ => Int.not_le.mpr hopen h.2), if_neg (by simp [hlive])]
      refine ⟨row.settle ack receivedAt, ?_, rfl, rfl⟩
      have hmem : row.settle ack receivedAt ∈ l'.operations :=
        hacknowledges.mem_operations.mpr (.inl hsettles.symm)
      have hid : row.operationId = ack.operationId := Table.get_key hrow
      show l'.operation ack.operationId = _
      rw [← hid]
      exact Table.get_of_mem eraseOperation_operationId_isKey hmem

/-! ### One request -/

theorem expireDue_live (h : (row.expireDue now).state.isTerminal = false) : row.state.isTerminal = false := by
  unfold EraseOperationRow.expireDue at h
  split at h
  · cases h
  · exact h

theorem markPending_live (h : (row.markPending now).state.isTerminal = false) :
    row.state.isTerminal = false := by
  unfold EraseOperationRow.markPending at h
  split at h
  · next hmarked =>
    rw [hmarked.1]
    rfl
  · exact h

/-- An acknowledgement leaves no operation live. -/
theorem acknowledge_terminal (ack : EraseAck) (receivedAt : Timestamp) :
    (row.acknowledge ack receivedAt).state.isTerminal = true := by
  rcases acknowledge_cases row ack receivedAt with ⟨hterminal, hsame⟩ | ⟨-, -, hsame⟩
  · rw [hsame, hterminal]
  · rw [hsame]
    unfold EraseOperationRow.settle
    dsimp only
    split <;> rfl

/-- A live row was live before, or its operation is new. -/
def Inherits (l l' : EraseLedger) : Prop :=
  ∀ row' ∈ l'.operations, row'.state.isTerminal = false →
    (∃ row ∈ l.operations, row.operationId = row'.operationId ∧ row.state.isTerminal = false) ∨
      ∀ row ∈ l.operations, row.operationId ≠ row'.operationId

/-- Rewriting rows, none of which comes to life. -/
theorem inherits_of_map {f : EraseOperationRow → EraseOperationRow}
    (hrows : l'.operations.rows = l.operations.rows.map f)
    (hid : ∀ row, (f row).operationId = row.operationId)
    (hlive : ∀ row, (f row).state.isTerminal = false → row.state.isTerminal = false) : Inherits l l' := by
  intro row' hrow' hlive'
  rw [Table.mem_def, hrows] at hrow'
  obtain ⟨row, hrow, rfl⟩ := List.mem_map.mp hrow'
  exact .inl ⟨row, hrow, (hid row).symm, hlive row hlive'⟩

/-- What is on file keeps its place, and what is added to it is new. -/
theorem inherits_of_append {created : List EraseOperationRow}
    (hrows : l'.operations.rows = l.operations.rows ++ created) : Inherits l l' := by
  intro row' hrow' hlive
  by_cases hfound : ∃ row ∈ l.operations, row.operationId = row'.operationId
  · obtain ⟨row, hrow, hid⟩ := hfound
    have hmem : row ∈ l'.operations := by
      rw [Table.mem_def, hrows]
      exact List.mem_append_left _ hrow
    obtain rfl := Table.eq_of_key eraseOperation_operationId_isKey hmem hrow' hid
    exact .inl ⟨row, hrow, rfl, hlive⟩
  · push Not at hfound
    exact .inr hfound

/-- What is not a re-arming brings no operation back to life. -/
theorem next_inherits (hrequest : ∀ operationId now, request ≠ .rearmLapsed operationId now) :
    Inherits l (erase.next l request) := by
  have hsame : Inherits l l := inherits_of_append (List.append_nil _).symm
  cases request with
  | admission request => exact inherits_of_append (List.append_nil _).symm
  -- a new operation is appended, and no old one comes to life
  | materialize =>
    rcases attempt_cases erase.materializeClaimEvents l with ⟨n, h⟩ | ⟨-, h⟩
    · obtain ⟨created, hrows, -⟩ := (materializeClaimEvents_commits h).created
      exact inherits_of_append hrows
    · rw [next, h]
      exact hsame
  | markAcceptedPending now =>
    exact inherits_of_map rfl (fun row => operationId_of_identity EraseOperationRow.markPending_identity)
      fun _ => markPending_live
  | expireDue now =>
    exact inherits_of_map rfl (fun row => operationId_of_identity EraseOperationRow.expireDue_identity)
      fun _ => expireDue_live
  | rearmLapsed operationId now => exact absurd rfl (hrequest operationId now)
  | acceptDelivery operationId deliveryAttemptId acceptedAt =>
    rcases attempt_cases (acceptDelivery operationId deliveryAttemptId acceptedAt) l with
      ⟨operation, h⟩ | ⟨-, h⟩
    · obtain ⟨row, -, -, h⟩ := acceptDelivery_commits.mp h
      rw [next, h]
      refine inherits_of_map rfl (fun row => ?_) (fun row hlive => ?_)
      · split
        · exact operationId_of_identity EraseOperationRow.deliver_identity
        · rfl
      · split at hlive
        · exact (live_of_deliver hlive).1
        · exact hlive
    · rw [next, h]
      exact hsame
  -- the acknowledged operation is settled, and no other one changes
  | acknowledge ack receivedAt =>
    rcases attempt_cases (erase.acknowledge ack receivedAt) l with ⟨operation, h⟩ | ⟨-, h⟩
    · rcases acknowledge_commits h with ⟨hsame', -⟩ | ⟨row, hacknowledges, -⟩
      · rw [next, hsame']
        exact hsame
      · intro row' hrow' hlive
        rcases hacknowledges.mem_operations.mp hrow' with rfl | ⟨hother, -⟩
        · rw [acknowledge_terminal] at hlive
          cases hlive
        · exact .inl ⟨row', hother, rfl, hlive⟩
    · rw [next, h]
      exact hsame

/-- Evidence that is new is of an operation that is on file, and not live any more. -/
theorem Change.evidence {e : AckEvidenceRow} (hchange : Change erase l l') (he : e ∈ l'.evidence) :
    e ∈ l.evidence ∨ (∃ row ∈ l.operations, row.operationId = e.operationId) ∧
      ∀ row ∈ l'.operations, row.operationId = e.operationId → row.state.isTerminal = true := by
  cases hchange with
  | unchanged operations evidence => exact .inl (evidence ▸ he)
  | materialized materialized => exact .inl (materialized.evidence ▸ he)
  | moved f moves operations evidence => exact .inl (evidence ▸ he)
  | acknowledged ack receivedAt row acknowledges =>
    rw [Table.mem_def, acknowledges.evidence] at he
    rcases List.mem_append.mp he with he | he
    · exact .inl he
    · rw [List.mem_singleton.mp he]
      refine .inr ⟨⟨row, acknowledges.mem⟩, fun row' hrow' hid => ?_⟩
      rcases acknowledges.mem_operations.mp hrow' with rfl | ⟨-, hne⟩
      · exact acknowledge_terminal ack receivedAt
      · exact absurd hid hne

/-- What brings no operation back to life leaves the live ones unheard. -/
theorem LiveUnheard.inherits (hfiled : Filed erase l) (hchange : Change erase l l') (hinherits : Inherits l l')
    (h : LiveUnheard l) : LiveUnheard l' := by
  intro row' hrow' hlive e he hid
  rcases hchange.evidence he with hold | ⟨⟨row, hrow, hnew⟩, hterminal⟩
  · obtain ⟨row, hrow, ack, key, hkey, hack, -⟩ := hfiled.attested e hold
    have hsame : row.operationId = row'.operationId :=
      hack.trans ((congrArg Prod.fst hkey).symm.trans hid)
    rcases hinherits row' hrow' hlive with ⟨found, hfound, hsame', hlive'⟩ | hfresh
    · exact h found hfound hlive' e hold (hid.trans hsame'.symm)
    · exact hfresh row hrow hsame
  · rw [hterminal row' hrow' hid.symm] at hlive
    cases hlive

/-- **A request leaves the live operations unheard** unless it re-arms one of which an acknowledgement
is on file. -/
theorem next_liveUnheard (hfiled : Filed erase l) (h : LiveUnheard l) :
    LiveUnheard (erase.next l request) ↔ RearmsUnheard l request := by
  by_cases hrequest : ∀ operationId now, request ≠ .rearmLapsed operationId now
  · refine iff_of_true (h.inherits hfiled (next_change l request) (next_inherits hrequest)) ?_
    cases request with
    | rearmLapsed operationId now => exact absurd rfl (hrequest operationId now)
    | _ => trivial
  -- re-arming alone makes a lapsed operation live again, and it is the condition that asks whether
  -- it was heard
  push Not at hrequest
  obtain ⟨operationId, now, rfl⟩ := hrequest
  rcases attempt_cases (erase.rearmLapsed operationId now) l with ⟨operation, hcommits⟩ | ⟨⟨e, hraises⟩, hsame⟩
  · obtain ⟨row, hfound, -, hnext⟩ := rearmLapsed_commits.mp hcommits
    have hkeeps : Table.Keeps (erase.rearmed now) := EraseOperationRow.keeps fun _ => erase.rearmed_identity
    have hrow := Table.get_mem hfound
    have hid : row.operationId = operationId := Table.get_key hfound
    rw [next, hnext]
    constructor
    · intro hunheard row' hrow' hunsettled hlapsed e he
      obtain rfl : row = row' := Option.some.inj (hfound.symm.trans hrow')
      have hmem := Table.modify_mem hkeeps hrow hid
      have hnone := hunheard (erase.rearmed now row) hmem (by rw [rearmed_lapsed hunsettled hlapsed]; rfl) e he
      rwa [operationId_of_identity erase.rearmed_identity, hid] at hnone
    · intro hcondition row' hrow' hlive e he hsame
      obtain ⟨found, hfound', rfl⟩ := List.mem_map.mp (Table.mem_def.mp hrow')
      by_cases hmatch : found.operationId = operationId
      · obtain rfl : found = row := Table.eq_of_key eraseOperation_operationId_isKey hfound' hrow
          (hmatch.trans hid.symm)
        rw [if_pos hmatch] at hlive hsame
        rw [operationId_of_identity erase.rearmed_identity] at hsame
        by_cases hlapses : found.state.isSettled = false ∧ (found.state = .expired ∨ found.deadline ≤ now)
        · exact hcondition found hfound hlapses.1 hlapses.2 e he (hsame.trans hmatch)
        -- an operation that has not lapsed stays as it is
        · have hkept : erase.rearmed now found = found := by
            unfold rearmed
            dsimp only
            rw [if_pos]
            by_contra hnot
            rw [not_or, not_and_or, not_not, Int.not_lt, Bool.not_eq_true] at hnot
            exact hlapses hnot
          rw [hkept] at hlive
          exact h found hrow hlive e he hsame
      · rw [if_neg hmatch] at hlive hsame
        exact h found hfound' hlive e he hsame
  · rw [next, hsame]
    refine iff_of_true h fun row hfound => ?_
    have hcommits : Commits (erase.rearmLapsed operationId now) l _ _ :=
      rearmLapsed_commits.mpr ⟨row, hfound, rfl, rfl⟩
    rw [hcommits] at hraises
    cases hraises

/-! ### Whole runs -/

theorem filed_empty : Filed erase .empty where
  addressed _ hrow := absurd hrow Table.not_mem_empty
  attested _ he := absurd he Table.not_mem_empty

/-- **No accepted acknowledgement is swallowed** exactly along the runs that never re-arm an operation
of which an acknowledgement is on file. -/
theorem heeds_iff_rearmsUnheard (erase : DeviceErase) (requests : List EraseRequest) :
    (∀ pre post, requests = pre ++ post → Heeds erase (run erase.next .empty pre)) ↔
      Along erase.next RearmsUnheard .empty requests := by
  have hfiled : ∀ requests, Filed erase (run erase.next .empty requests) :=
    run_inv (fun l request => (next_change l request).filed) filed_empty
  rw [along_iff_forall (I := Filed erase) (P := LiveUnheard) (fun l request => (next_change l request).filed)
    (fun l request hfiled h => next_liveUnheard hfiled h) filed_empty
    (fun row hrow => absurd hrow Table.not_mem_empty)]
  exact forall_congr' fun pre => forall_congr' fun post => imp_congr_right fun _ => heeds_iff (hfiled pre)

end DeviceErase

/-! ### A lamp that acknowledges late -/

namespace Sample

/-- The lamp acknowledges after the deadline, and its instruction is re-armed. -/
def heardLate : List EraseRequest :=
  lampLost.map .admission ++
    [.materialize, .acknowledge lampErased 400, .rearmLapsed lampOperation 400]

/-- The ledger then. -/
def lateLedger : EraseLedger := run erase.next .empty heardLate

/-- The acknowledgement comes in again, is accepted and changes nothing. -/
example : ((erase.acknowledge lampErased 401 lateLedger).toOption.map (·.1.state)) = some .pending := by
  decide +kernel

end Sample

/-- An acknowledgement that came in while its operation was expired is swallowed after the re-arming. -/
theorem late_acknowledgement_is_swallowed : ¬ ∀ (erase : DeviceErase) (l : EraseLedger),
    erase.Reachable l → DeviceErase.Heeds erase l := by
  intro hclaim
  have hheeds := hclaim Sample.erase Sample.lateLedger ⟨Sample.heardLate, rfl⟩
  have hunheard := (DeviceErase.heeds_iff (run_inv
    (fun l request => (DeviceErase.next_change l request).filed) DeviceErase.filed_empty Sample.heardLate)).mp hheeds
  have hheard : ∃ row ∈ Sample.lateLedger.operations.rows, row.state.isTerminal = false ∧
      ∃ e ∈ Sample.lateLedger.evidence.rows, e.operationId = row.operationId := by decide +kernel
  obtain ⟨row, hrow, hlive, e, he, hid⟩ := hheard
  exact hunheard row hrow hlive e he hid

end EidolonHub.Devices
