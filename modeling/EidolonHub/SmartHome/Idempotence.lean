import EidolonHub.SmartHome.Calls

/-!
# EidolonHub.SmartHome.Idempotence

**A request is carried out once.** The first call to enter opens the receipt and carries the
request out (`Led`). Every other call of the same Owner, scope and request id finds that
receipt: while it has no result the call waits for the one that leads, afterwards it is
answered from the receipt, and with another fingerprint it is refused (`Follows`).

A receipt changes once it has its result only by an observation that settles an unknown
item, so a repeat may be told more than the first call was (`Upgraded`).
-/

namespace EidolonHub.SmartHome

open EidolonHub.Library

/-! ### Results that were settled since -/

/-- An item is as it was, or was unknown and is known to have succeeded since. -/
def Settles (found item : CommandResult) : Prop :=
  item = found ∨ (found.status = .unknown ∧ item.status = .succeeded ∧ item.deviceId = found.deviceId)

/-- A later result is the first one, in which unknown items may have been settled. -/
structure Upgraded (first later : ExecuteResult) : Prop where
  requestId : later.requestId = first.requestId
  error : later.error = first.error
  results : List.Forall₂ Settles first.results later.results

theorem Settles.trans {a b c : CommandResult} (hab : Settles a b) (hbc : Settles b c) : Settles a c := by
  rcases hbc with rfl | ⟨hunknown, hsucceeded, hdevice⟩
  · exact hab
  · rcases hab with rfl | ⟨-, hsucceeded', -⟩
    · exact .inr ⟨hunknown, hsucceeded, hdevice⟩
    · rw [hunknown] at hsucceeded'
      cases hsucceeded'

theorem Upgraded.refl (result : ExecuteResult) : Upgraded result result :=
  ⟨rfl, rfl, List.forall₂_same.mpr fun _ _ => .inl rfl⟩

theorem settles_trans {as bs cs : List CommandResult} (hab : List.Forall₂ Settles as bs)
    (hbc : List.Forall₂ Settles bs cs) : List.Forall₂ Settles as cs := by
  induction hab generalizing cs with
  | nil => exact hbc
  | cons hhead _ ih =>
    cases hbc with
    | cons hhead' htail' => exact .cons (hhead.trans hhead') (ih htail')

theorem Upgraded.trans {a b c : ExecuteResult} (hab : Upgraded a b) (hbc : Upgraded b c) :
    Upgraded a c :=
  ⟨hbc.requestId.trans hab.requestId, hbc.error.trans hab.error, settles_trans hab.results hbc.results⟩

theorem replaceFirst_settles {target : DeviceId} {item : CommandResult}
    (hdevice : item.deviceId = target) (hstatus : item.status = .succeeded)
    {items items' : List CommandResult} (h : replaceFirst target item items = some items') :
    List.Forall₂ Settles items items' := by
  induction items generalizing items' with
  | nil => cases h
  | cons found items ih =>
    unfold replaceFirst at h
    split at h
    · next hfound =>
      cases h
      exact .cons (.inr ⟨hfound.2, hstatus, hdevice.trans hfound.1.symm⟩)
        (List.forall₂_same.mpr fun _ _ => .inl rfl)
    · obtain ⟨rest, hrest, rfl⟩ := Option.map_eq_some_iff.mp h
      exact .cons (.inl rfl) (ih hrest)

/-! ### What the ledger has for a key -/

section Ledger

variable {rows : List Receipt} {key key' : ReceiptKey} {row : Receipt} {fingerprint : String}
  {nowMs : Millis}

theorem fetch_filter {p : Receipt → Bool} (h : ∀ row, fetch rows key = some row → p row = true) :
    fetch (rows.filter p) key = fetch rows key := by
  induction rows with
  | nil => rfl
  | cons first rows ih =>
    by_cases hkey : first.key = key
    · have hfirst : fetch (first :: rows) key = some first := by simp [fetch, hkey]
      rw [List.filter_cons_of_pos (h first hfirst), hfirst]
      simp [fetch, hkey]
    · have hrest : fetch (first :: rows) key = fetch rows key := by simp [fetch, hkey]
      rw [hrest] at h ⊢
      rw [List.filter_cons]
      split
      · rw [← ih h]
        simp [fetch, hkey]
      · exact ih h

/-- What is live is not pruned. -/
theorem retained_of_live (h : row.live nowMs = true) :
    nowMs - retentionMs ≤ row.timestamps.submittedAtMs :=
  (Int.sub_le_sub_left (show idempotencyWindowMs ≤ retentionMs by decide) nowMs).trans
    (of_decide_eq_true h)

theorem begin_of_live (hrow : fetch rows key = some row) (hlive : row.live nowMs = true) :
    SqliteReceiptLedger.begin rows key fingerprint nowMs =
      if row.fingerprint ≠ fingerprint then (rows, .error ⟨key.requestId⟩)
      else (rows.filter fun r => nowMs - retentionMs ≤ r.timestamps.submittedAtMs, .ok (some row)) := by
  have hkept : fetch (rows.filter fun r => nowMs - retentionMs ≤ r.timestamps.submittedAtMs) key =
      some row := by
    rw [fetch_filter, hrow]
    intro found hfound
    rw [hrow] at hfound
    cases hfound
    exact decide_eq_true (retained_of_live hlive)
  simp only [SqliteReceiptLedger.begin, hkept, hlive, if_true]

variable (fingerprint nowMs) in
theorem begin_of_none (hrow : fetch rows key = none) :
    (SqliteReceiptLedger.begin rows key fingerprint nowMs).2 = .ok none ∧
      fetch (SqliteReceiptLedger.begin rows key fingerprint nowMs).1 key =
        some (.submitted key fingerprint nowMs) := by
  have hkept : fetch (rows.filter fun r => nowMs - retentionMs ≤ r.timestamps.submittedAtMs) key =
      none := by
    rw [fetch_filter, hrow]
    intro found hfound
    rw [hrow] at hfound
    cases hfound
  simp only [SqliteReceiptLedger.begin, hkept]
  refine ⟨trivial, ?_⟩
  have hnew : (Receipt.submitted key fingerprint nowMs).key = key := rfl
  rw [← store_of_fetch_none hkept, fetch_store, if_pos hnew]

theorem fetch_begin_of_ne (hne : key' ≠ key)
    (hretained : ∀ row, fetch rows key = some row →
      nowMs - retentionMs ≤ row.timestamps.submittedAtMs) :
    fetch (SqliteReceiptLedger.begin rows key' fingerprint nowMs).1 key = fetch rows key := by
  have hkept : fetch (rows.filter fun r => nowMs - retentionMs ≤ r.timestamps.submittedAtMs) key =
      fetch rows key := fetch_filter fun row hrow => decide_eq_true (hretained row hrow)
  unfold SqliteReceiptLedger.begin
  dsimp only
  split
  · next hnone =>
    have hnew : (Receipt.submitted key' fingerprint nowMs).key = key' := rfl
    rw [← store_of_fetch_none hnone, fetch_store, hnew, if_neg hne, hkept]
  · split
    · split
      · rfl
      · exact hkept
    · rw [fetch_update (Ledgers.reopen_key fingerprint nowMs), if_neg (Ne.symm hne), hkept]

theorem fetch_complete_of_ne {result : ExecuteResult} {timestamps : Timestamps} (hne : key' ≠ key) :
    fetch (SqliteReceiptLedger.complete rows key' result timestamps) key = fetch rows key := by
  unfold SqliteReceiptLedger.complete
  rw [fetch_update (Ledgers.record_key result timestamps), if_neg (Ne.symm hne)]

theorem fetch_complete {result : ExecuteResult} {timestamps : Timestamps}
    (hrow : fetch rows key = some row) :
    fetch (SqliteReceiptLedger.complete rows key result timestamps) key =
      some (SqliteReceiptLedger.record result timestamps row) := by
  unfold SqliteReceiptLedger.complete
  rw [fetch_update (Ledgers.record_key result timestamps), if_pos rfl, hrow]
  rfl

/-- What a receipt may be after an observation. -/
structure Receipt.Settles (row row' : Receipt) : Prop where
  fingerprint : row'.fingerprint = row.fingerprint
  none : row.result = none → row'.result = none
  some : ∀ result, row.result = some result → ∃ result', row'.result = some result' ∧ Upgraded result result'

theorem Receipt.Settles.refl (row : Receipt) : row.Settles row :=
  ⟨rfl, id, fun result h => ⟨result, h, .refl result⟩⟩

theorem Receipt.Settles.trans {row row' row'' : Receipt} (h : row.Settles row')
    (h' : row'.Settles row'') : row.Settles row'' where
  fingerprint := h'.fingerprint.trans h.fingerprint
  none hnone := h'.none (h.none hnone)
  some result hresult := by
    obtain ⟨result', hresult', hupgraded⟩ := h.some result hresult
    obtain ⟨result'', hresult'', hupgraded'⟩ := h'.some result' hresult'
    exact ⟨result'', hresult'', hupgraded.trans hupgraded'⟩

theorem replaceUnknown_eq_some {target : DeviceId} {item : CommandResult} {replaced : ExecuteResult}
    (h : replaceUnknown (some row) target item = some replaced) :
    ∃ result items, row.result = some result ∧ replaceFirst target item result.results = some items ∧
      replaced = { result with results := items } := by
  obtain ⟨result, hresult, h⟩ := Option.bind_eq_some_iff.mp h
  obtain ⟨items, hitems, h⟩ := Option.bind_eq_some_iff.mp h
  exact ⟨result, items, hresult, hitems, (Option.some.inj h).symm⟩

theorem fetch_reconcile {target : DeviceId} {item : CommandResult} {atMs : Millis}
    (hdevice : item.deviceId = target) (hstatus : item.status = .succeeded)
    (hrow : fetch rows key = some row) :
    ∃ row', fetch (SqliteReceiptLedger.reconcile rows key' target item atMs).1 key = some row' ∧
      row.Settles row' := by
  unfold SqliteReceiptLedger.reconcile
  split
  · exact ⟨row, hrow, .refl row⟩
  · next replaced hreplaced =>
    rw [fetch_update (Ledgers.settle_key replaced atMs)]
    by_cases hkey : key = key'
    · subst hkey
      rw [hrow] at hreplaced
      obtain ⟨result, items, hresult, hitems, rfl⟩ := replaceUnknown_eq_some hreplaced
      rw [if_pos rfl, hrow]
      refine ⟨_, rfl, rfl, fun hnone => ?_, fun found hfound => ⟨_, rfl, ?_⟩⟩
      · rw [hnone] at hresult
        cases hresult
      · rw [hresult] at hfound
        cases hfound
        exact ⟨rfl, rfl, replaceFirst_settles hdevice hstatus hitems⟩
    · rw [if_neg hkey]
      exact ⟨row, hrow, .refl row⟩

theorem fetch_reconcile_none {target : DeviceId} {item : CommandResult} {atMs : Millis}
    (hrow : fetch rows key = none) :
    fetch (SqliteReceiptLedger.reconcile rows key' target item atMs).1 key = none := by
  unfold SqliteReceiptLedger.reconcile
  split
  · exact hrow
  · next replaced hreplaced =>
    rw [fetch_update (Ledgers.settle_key replaced atMs), hrow]
    split <;> rfl

end Ledger

/-! ### The call that leads and those that follow -/

/-- Between `begin` and `complete`. -/
def CallPhase.active : CallPhase → Bool
  | carrying | admitted _ | reading _ | running .. | performed .. => true
  | entering | waiting _ | recorded _ | answered _ => false

namespace Runtime

/-- How far the leading call is, what is in flight and what its receipt holds go together. -/
inductive Stage (leader : CallId) :
    CallPhase → Option CallId → Option ExecuteResult → Prop where
  | active {phase : CallPhase} (hphase : phase.active = true) : Stage leader phase (some leader) none
  | recorded {first later : ExecuteResult} (h : Upgraded first later) :
    Stage leader (.recorded first) (some leader) (some later)
  | answered {first later : ExecuteResult} (h : Upgraded first later) :
    Stage leader (.answered (.result first)) none (some later)

variable (setup : Setup)

/-- Where another call of the key can be. -/
inductive Follows (leader : CallId) (first call : Call) : Prop where
  | entering (hphase : call.phase = .entering)
  | waiting (hphase : call.phase = .waiting leader)
    (hsame : setup.fingerprint call.request = setup.fingerprint first.request)
  | repeated {result later : ExecuteResult} (hphase : call.phase = .answered (.result later))
    (hfirst : first.Settled result) (hupgraded : Upgraded result later)
    (hsame : setup.fingerprint call.request = setup.fingerprint first.request)
  | refused (hphase : call.phase = .answered .conflict)
    (hother : setup.fingerprint call.request ≠ setup.fingerprint first.request)

/-- What the leading call has in the ledger and in flight. -/
def Stored (runtime : Runtime) (key : ReceiptKey) (leader : CallId) (first : Call) : Prop :=
  ∃ row, fetch runtime.receipts key = some row ∧
    row.fingerprint = setup.fingerprint first.request ∧
    Stage leader first.phase (runtime.inflight key) row.result

/-- One call of the key carries the request out or did so, and the others follow it. -/
structure Led (runtime : Runtime) (key : ReceiptKey) (leader : CallId) (first : Call) : Prop where
  call : runtime.calls leader = some first
  call_key : first.key = key
  stored : Stored setup runtime key leader first
  others : ∀ id call, runtime.calls id = some call → call.key = key → id ≠ leader →
    call.tasks = [] ∧ Follows setup leader first call

/-- No call of the key has entered. -/
structure Unled (runtime : Runtime) (key : ReceiptKey) : Prop where
  receipt : fetch runtime.receipts key = none
  inflight : runtime.inflight key = none
  calls : ∀ id call, runtime.calls id = some call → call.key = key →
    call.phase = .entering ∧ call.tasks = []

/-- No call of the key has entered, or one leads and the others are told its result. -/
def Standing (runtime : Runtime) (key : ReceiptKey) : Prop :=
  Unled runtime key ∨ ∃ leader first, Led setup runtime key leader first

/-- The receipt of the key answers for its calls and is not pruned, and none of them fails to
read the registry. -/
def Within (key : ReceiptKey) (runtime : Runtime) : Step → Prop
  | .enter id nowMs => ∀ row, fetch runtime.receipts key = some row →
      nowMs - retentionMs ≤ row.timestamps.submittedAtMs ∧
      ∀ call, runtime.calls id = some call → call.key = key → row.live nowMs = true
  | .raise id => ∀ call, runtime.calls id = some call → call.key ≠ key
  | _ => True

instance (key : ReceiptKey) (runtime : Runtime) : ∀ a, Decidable (Within key runtime a)
  | .enter id nowMs => inferInstanceAs (Decidable (∀ row ∈ fetch runtime.receipts key,
      nowMs - retentionMs ≤ row.timestamps.submittedAtMs ∧
      ∀ call ∈ runtime.calls id, call.key = key → row.live nowMs = true))
  | .raise id => inferInstanceAs (Decidable (∀ call ∈ runtime.calls id, call.key ≠ key))
  | .submit .. | .perform .. | .lock _ | .gather .. | .begin .. | .finish .. | .collect .. | .record ..
  | .answer _ | .wake _ | .observe .. | .settle _ | .forget .. => .isTrue trivial

variable {setup} {runtime runtime' : Runtime} {key : ReceiptKey} {leader : CallId}
  {first first' : Call}

theorem Follows.continues {call : Call} (h : Follows setup leader first call)
    (hcontinues : first.Continues first') : Follows setup leader first' call := by
  cases h with
  | entering hphase => exact .entering hphase
  | waiting hphase hsame =>
    rw [← hcontinues.request] at hsame
    exact .waiting hphase hsame
  | repeated hphase hfirst hupgraded hsame =>
    rw [← hcontinues.request] at hsame
    exact .repeated hphase (hcontinues.settled _ hfirst) hupgraded hsame
  | refused hphase hother =>
    rw [← hcontinues.request] at hother
    exact .refused hphase hother

/-- A call that is not the leading one is not carrying anything out. -/
theorem Follows.not_active {call : Call} (h : Follows setup leader first call) :
    call.phase.active = false ∧ ∀ result, call.phase ≠ .recorded result := by
  cases h with
  | entering hphase => rw [hphase]; exact ⟨rfl, nofun⟩
  | waiting hphase _ => rw [hphase]; exact ⟨rfl, nofun⟩
  | repeated hphase _ _ _ => rw [hphase]; exact ⟨rfl, nofun⟩
  | refused hphase _ => rw [hphase]; exact ⟨rfl, nofun⟩

/-- A call of another key, or one that follows, moves. -/
theorem Led.follower {id : CallId} (new : Call) (h : Led setup runtime key leader first)
    (hid : id ≠ leader) (hcalls : runtime'.calls = Function.update runtime.calls id (some new))
    (hnew : new.key = key → new.tasks = [] ∧ Follows setup leader first new)
    (hstored : Stored setup runtime' key leader first) : Led setup runtime' key leader first where
  call := by rw [hcalls, Function.update_of_ne (Ne.symm hid), h.call]
  call_key := h.call_key
  stored := hstored
  others := by
    intro i call hcall hkey hi
    rw [hcalls] at hcall
    by_cases heq : i = id
    · subst heq
      rw [Function.update_self] at hcall
      cases hcall
      exact hnew hkey
    · rw [Function.update_of_ne heq] at hcall
      exact h.others i call hcall hkey hi

/-- The leading call moves. -/
theorem Led.lead (h : Led setup runtime key leader first) (hcontinues : first.Continues first')
    (hcalls : runtime'.calls = Function.update runtime.calls leader (some first'))
    (hstored : Stored setup runtime' key leader first') : Led setup runtime' key leader first' where
  call := by rw [hcalls, Function.update_self]
  call_key := hcontinues.key.trans h.call_key
  stored := hstored
  others := by
    intro i call hcall hkey hi
    rw [hcalls, Function.update_of_ne hi] at hcall
    obtain ⟨hempty, hfollows⟩ := h.others i call hcall hkey hi
    exact ⟨hempty, hfollows.continues hcontinues⟩

theorem Unled.update {id : CallId} (new : Call) (h : Unled runtime key)
    (hcalls : runtime'.calls = Function.update runtime.calls id (some new))
    (hnew : new.key = key → new.phase = .entering ∧ new.tasks = [])
    (hreceipt : fetch runtime'.receipts key = none) (hinflight : runtime'.inflight key = none) :
    Unled runtime' key where
  receipt := hreceipt
  inflight := hinflight
  calls := by
    intro i call hcall hkey
    rw [hcalls] at hcall
    by_cases heq : i = id
    · subst heq
      rw [Function.update_self] at hcall
      cases hcall
      exact hnew hkey
    · rw [Function.update_of_ne heq] at hcall
      exact h.calls i call hcall hkey

/-- What is stored stays with an unchanged receipt and an unchanged future. -/
theorem Stored.congr (h : Stored setup runtime key leader first)
    (hreceipt : fetch runtime'.receipts key = fetch runtime.receipts key)
    (hinflight : runtime'.inflight key = runtime.inflight key) :
    Stored setup runtime' key leader first := by
  obtain ⟨row, hrow, hfingerprint, hstage⟩ := h
  exact ⟨row, hreceipt.trans hrow, hfingerprint, by rw [hinflight]; exact hstage⟩

theorem Led.congr (h : Led setup runtime key leader first) (hcalls : runtime'.calls = runtime.calls)
    (hstored : Stored setup runtime' key leader first) : Led setup runtime' key leader first :=
  ⟨by rw [hcalls, h.call], h.call_key, hstored, by rw [hcalls]; exact h.others⟩

theorem Standing.congr (h : Standing setup runtime key) (hcalls : runtime'.calls = runtime.calls)
    (hreceipts : runtime'.receipts = runtime.receipts)
    (hinflight : runtime'.inflight = runtime.inflight) : Standing setup runtime' key := by
  rcases h with h | ⟨leader, first, h⟩
  · exact .inl ⟨by rw [hreceipts, h.receipt], by rw [hinflight, h.inflight],
      by rw [hcalls]; exact h.calls⟩
  · exact .inr ⟨leader, first, h.congr hcalls (h.stored.congr (by rw [hreceipts]) (by rw [hinflight]))⟩

/-- A call of another key moves, and leaves this key alone. -/
theorem Standing.other {id : CallId} {old : Call} (new : Call) (h : Standing setup runtime key)
    (hold : runtime.calls id = some old) (hkey : old.key ≠ key) (hnew : new.key = old.key)
    (hcalls : runtime'.calls = Function.update runtime.calls id (some new))
    (hreceipt : fetch runtime'.receipts key = fetch runtime.receipts key)
    (hinflight : runtime'.inflight key = runtime.inflight key) : Standing setup runtime' key := by
  rcases h with h | ⟨leader, first, h⟩
  · exact .inl (h.update new hcalls (fun h => absurd (hnew.symm.trans h) hkey)
      (hreceipt.trans h.receipt) (hinflight.trans h.inflight))
  · have hid : id ≠ leader := by
      rintro rfl
      rw [h.call] at hold
      cases hold
      exact hkey h.call_key
    exact .inr ⟨leader, first, h.follower new hid hcalls (fun h => absurd (hnew.symm.trans h) hkey)
      (h.stored.congr hreceipt hinflight)⟩

/-- A call that carries its request out is the leading one. -/
theorem Standing.leads {id : CallId} {call : Call} (h : Standing setup runtime key)
    (hcall : runtime.calls id = some call) (hkey : call.key = key)
    (hphase : call.phase.active = true ∨ ∃ result, call.phase = .recorded result) :
    Led setup runtime key id call := by
  rcases h with h | ⟨leader, first, h⟩
  · have hentering := (h.calls id call hcall hkey).1
    rw [hentering] at hphase
    rcases hphase with hphase | ⟨result, hphase⟩ <;> cases hphase
  · by_cases hid : id = leader
    · subst hid
      rw [h.call] at hcall
      cases hcall
      exact h
    · have hfollows := (h.others id call hcall hkey hid).2.not_active
      rcases hphase with hphase | ⟨result, hphase⟩
      · rw [hfollows.1] at hphase
        cases hphase
      · exact absurd hphase (hfollows.2 result)

/-- A call that carries its request out moves on, and the receipt and the future stay. -/
theorem Standing.active {id : CallId} {old new : Call} (h : Standing setup runtime key)
    (hold : runtime.calls id = some old) (hcontinues : old.Continues new)
    (hphase : old.phase.active = true) (hphase' : new.phase.active = true)
    (hcalls : runtime'.calls = Function.update runtime.calls id (some new))
    (hreceipts : runtime'.receipts = runtime.receipts)
    (hinflight : runtime'.inflight = runtime.inflight) : Standing setup runtime' key := by
  by_cases hkey : old.key = key
  · have hled := h.leads hold hkey (.inl hphase)
    obtain ⟨row, hrow, hfingerprint, hstage⟩ := hled.stored
    refine .inr ⟨id, new, hled.lead hcontinues hcalls ⟨row, by rw [hreceipts, hrow], ?_, ?_⟩⟩
    · rw [hcontinues.request, hfingerprint]
    · rw [hinflight]
      generalize old.phase = phase, runtime.inflight key = inflight, row.result = result at hstage hphase
      cases hstage with
      | active => exact .active hphase'
      | recorded => cases hphase
      | answered => cases hphase
  · exact h.other new hold hkey hcontinues.key hcalls (by rw [hreceipts]) (by rw [hinflight])

/-- A task of a call that carries its request out moves on. -/
theorem Standing.task {id : CallId} {old : Call} {timing : Timing} {registry : Registry}
    {position : Nat} {task : Task} {phase : TaskPhase} (h : Standing setup runtime key)
    (hold : runtime.calls id = some old) (hrunning : old.phase = .running timing registry)
    (htask : old.tasks[position]? = some task)
    (hcalls : runtime'.calls = Function.update runtime.calls id
      (some { old with tasks := old.tasks.set position { task with phase } }))
    (hreceipts : runtime'.receipts = runtime.receipts)
    (hinflight : runtime'.inflight = runtime.inflight) (hphase : phase ≠ .queued) :
    Standing setup runtime' key := by
  have hactive : old.phase.active = true := by rw [hrunning]; rfl
  exact h.active hold (.task htask hphase) hactive hactive hcalls hreceipts hinflight

/-! ### Entering -/

section Enter

variable {id : CallId} {call : Call} {nowMs : Millis} {receipts : List Receipt}

/-- The leading call has entered. -/
theorem Led.ne_of_entering (h : Led setup runtime key leader first)
    (hcall : runtime.calls id = some call) (hphase : call.phase = .entering) : id ≠ leader := by
  rintro rfl
  obtain ⟨row, -, -, hstage⟩ := h.stored
  rw [h.call] at hcall
  cases hcall
  rw [hphase] at hstage
  generalize runtime.inflight key = inflight, row.result = result at hstage
  cases hstage with
  | active hphase => cases hphase

/-- The ledger answers a call that follows with the receipt of the leading one. -/
theorem Led.begin (h : Led setup runtime key leader first) (hkey : call.key = key)
    (hcall : runtime.calls id = some call) (hwithin : Within key runtime (.enter id nowMs)) :
    ∃ row, row.fingerprint = setup.fingerprint first.request ∧
      Stage leader first.phase (runtime.inflight key) row.result ∧
      fetch (SqliteReceiptLedger.begin runtime.receipts call.key (setup.fingerprint call.request)
        nowMs).1 key = fetch runtime.receipts key ∧
      (SqliteReceiptLedger.begin runtime.receipts call.key (setup.fingerprint call.request) nowMs).2 =
        if setup.fingerprint call.request = setup.fingerprint first.request then .ok (some row)
        else .error ⟨call.key.requestId⟩ := by
  obtain ⟨row, hrow, hfingerprint, hstage⟩ := h.stored
  obtain ⟨hretained, hlive⟩ := hwithin row hrow
  subst hkey
  rw [begin_of_live hrow (hlive call hcall rfl), hfingerprint]
  refine ⟨row, hfingerprint, hstage, ?_, ?_⟩
  · split
    · rfl
    · refine fetch_filter fun found hfound => ?_
      rw [hrow] at hfound
      cases hfound
      exact decide_eq_true hretained
  · by_cases hsame : setup.fingerprint call.request = setup.fingerprint first.request
    · rw [if_pos hsame, if_neg (not_not.mpr hsame.symm)]
    · rw [if_neg hsame, if_pos (Ne.symm hsame)]

/-- A call of another key enters. -/
theorem Standing.enter_other {runtime' : Runtime} {phase : CallPhase} (h : Standing setup runtime key)
    (hcall : runtime.calls id = some call) (hkey : call.key ≠ key)
    (hwithin : Within key runtime (.enter id nowMs))
    (hreceipts : runtime'.receipts = (SqliteReceiptLedger.begin runtime.receipts call.key
      (setup.fingerprint call.request) nowMs).1)
    (hcalls : runtime'.calls = Function.update runtime.calls id (some { call with phase }))
    (hinflight : runtime'.inflight key = runtime.inflight key) : Standing setup runtime' key := by
  refine h.other { call with phase } hcall hkey rfl hcalls ?_ hinflight
  rw [hreceipts]
  exact fetch_begin_of_ne hkey fun row hrow => (hwithin row hrow).1

/-- A call of the key enters, and follows the leading one. -/
theorem Led.enter {runtime' : Runtime} {phase : CallPhase} (h : Led setup runtime key leader first)
    (hearly : Early runtime) (hcall : runtime.calls id = some call) (hphase : call.phase = .entering)
    (hkey : call.key = key) (hwithin : Within key runtime (.enter id nowMs))
    (hreceipts : runtime'.receipts = (SqliteReceiptLedger.begin runtime.receipts call.key
      (setup.fingerprint call.request) nowMs).1)
    (hcalls : runtime'.calls = Function.update runtime.calls id (some { call with phase }))
    (hinflight : runtime'.inflight = runtime.inflight)
    (hfollows : Follows setup leader first { call with phase }) : Standing setup runtime' key := by
  obtain ⟨-, -, -, hfetch, -⟩ := h.begin hkey hcall hwithin
  refine .inr ⟨leader, first, h.follower { call with phase } (h.ne_of_entering hcall hphase) hcalls (fun _ => ⟨?_, hfollows⟩)
    (h.stored.congr ?_ (by rw [hinflight]))⟩
  · exact hearly id call hcall (by rw [hphase]; rfl)
  · rw [hreceipts, hfetch]

theorem standing_conflict {e : ReceiptConflict} (h : Standing setup runtime key)
    (hearly : Early runtime) (hwithin : Within key runtime (.enter id nowMs))
    (hcall : runtime.calls id = some call) (hphase : call.phase = .entering)
    (hbegin : SqliteReceiptLedger.begin runtime.receipts call.key (setup.fingerprint call.request)
      nowMs = (receipts, .error e)) :
    Standing setup ({ runtime with receipts }.setPhase id call (.answered .conflict)) key := by
  by_cases hkey : call.key = key
  · rcases h with h | ⟨leader, first, h⟩
    · have hnone := (begin_of_none (setup.fingerprint call.request) nowMs h.receipt).1
      rw [← hkey, hbegin] at hnone
      cases hnone
    · obtain ⟨row, -, -, -, hanswer⟩ := h.begin hkey hcall hwithin
      rw [hbegin] at hanswer
      refine h.enter hearly hcall hphase hkey hwithin (by rw [hbegin]; rfl) rfl rfl (.refused rfl fun hsame => ?_)
      replace hsame : setup.fingerprint call.request = setup.fingerprint first.request := hsame
      rw [if_pos hsame] at hanswer
      cases hanswer
  · exact h.enter_other hcall hkey hwithin (by rw [hbegin]; rfl) rfl rfl

theorem standing_repeats {existing : Receipt} {result : ExecuteResult}
    (h : Standing setup runtime key) (hearly : Early runtime)
    (hwithin : Within key runtime (.enter id nowMs)) (hcall : runtime.calls id = some call)
    (hphase : call.phase = .entering)
    (hbegin : SqliteReceiptLedger.begin runtime.receipts call.key (setup.fingerprint call.request)
      nowMs = (receipts, .ok (some existing))) (hresult : existing.result = some result) :
    Standing setup ({ runtime with receipts }.setPhase id call (.answered (.result result))) key := by
  by_cases hkey : call.key = key
  · rcases h with h | ⟨leader, first, h⟩
    · have hnone := (begin_of_none (setup.fingerprint call.request) nowMs h.receipt).1
      rw [← hkey, hbegin] at hnone
      cases hnone
    · obtain ⟨row, -, hstage, -, hanswer⟩ := h.begin hkey hcall hwithin
      rw [hbegin] at hanswer
      split at hanswer
      · next hsame =>
        cases hanswer
        refine h.enter hearly hcall hphase hkey hwithin (by rw [hbegin]; rfl) rfl rfl ?_
        rw [hresult] at hstage
        generalize hfirst : first.phase = phase, runtime.inflight key = inflight at hstage
        cases hstage with
        | recorded hupgraded => exact .repeated rfl (.inl hfirst) hupgraded hsame
        | answered hupgraded => exact .repeated rfl (.inr hfirst) hupgraded hsame
      · cases hanswer
  · exact h.enter_other hcall hkey hwithin (by rw [hbegin]; rfl) rfl rfl

theorem standing_waits {existing : Receipt} {inflight : CallId} (h : Standing setup runtime key)
    (hearly : Early runtime) (hwithin : Within key runtime (.enter id nowMs))
    (hcall : runtime.calls id = some call) (hphase : call.phase = .entering)
    (hbegin : SqliteReceiptLedger.begin runtime.receipts call.key (setup.fingerprint call.request)
      nowMs = (receipts, .ok (some existing)))
    (hinflight : runtime.inflight call.key = some inflight) :
    Standing setup ({ runtime with receipts }.setPhase id call (.waiting inflight)) key := by
  by_cases hkey : call.key = key
  · rcases h with h | ⟨leader, first, h⟩
    · rw [hkey, h.inflight] at hinflight
      cases hinflight
    · obtain ⟨row, -, hstage, -, hanswer⟩ := h.begin hkey hcall hwithin
      rw [hbegin] at hanswer
      split at hanswer
      · next hsame =>
        refine h.enter hearly hcall hphase hkey hwithin (by rw [hbegin]; rfl) rfl rfl ?_
        rw [← hkey, hinflight] at hstage
        generalize first.phase = phase, row.result = result at hstage
        cases hstage with
        | active => exact .waiting rfl hsame
        | recorded => exact .waiting rfl hsame
      · cases hanswer
  · exact h.enter_other hcall hkey hwithin (by rw [hbegin]; rfl) rfl rfl

theorem standing_carries {existing : Option Receipt} (h : Standing setup runtime key)
    (hwithin : Within key runtime (.enter id nowMs)) (hcall : runtime.calls id = some call)
    (hbegin : SqliteReceiptLedger.begin runtime.receipts call.key (setup.fingerprint call.request)
      nowMs = (receipts, .ok existing))
    (hexisting : ∀ row, existing = some row → row.result = none ∧ runtime.inflight call.key = none) :
    Standing setup
      ({ runtime with
        receipts
        inflight := Function.update runtime.inflight call.key (some id) }.setPhase id call .carrying)
      key := by
  by_cases hkey : call.key = key
  · rcases h with h | ⟨leader, first, h⟩
    · -- the first call of the key: it leads
      subst hkey
      have hnew := (begin_of_none (setup.fingerprint call.request) nowMs h.receipt).2
      rw [hbegin] at hnew
      refine .inr ⟨id, { call with phase := .carrying }, Function.update_self _ _ _, rfl,
        ⟨_, hnew, rfl, ?_⟩, ?_⟩
      · show Stage id .carrying (Function.update runtime.inflight call.key (some id) call.key) none
        rw [Function.update_self]
        exact .active rfl
      · intro i other hother hkey hi
        replace hother : Function.update runtime.calls id _ i = some other := hother
        rw [Function.update_of_ne hi] at hother
        obtain ⟨hentering, hempty⟩ := h.calls i other hother hkey
        exact ⟨hempty, .entering hentering⟩
    · obtain ⟨row, -, hstage, -, hanswer⟩ := h.begin hkey hcall hwithin
      rw [hbegin] at hanswer
      split at hanswer
      · cases hanswer
        -- a receipt without a result has a call in flight
        obtain ⟨hresult, hinflight⟩ := hexisting row rfl
        rw [hresult, ← hkey, hinflight] at hstage
        generalize first.phase = phase at hstage
        cases hstage
      · cases hanswer
  · refine h.enter_other hcall hkey hwithin (by rw [hbegin]; rfl) rfl ?_
    exact Function.update_of_ne (Ne.symm hkey) _ _

end Enter

/-! ### Recording, answering and settling -/

section Told

variable {id : CallId} {call : Call}

theorem standing_submit {ownerId : OwnerId} {request : ExecuteRequest}
    (h : Standing setup runtime key) (hnew : runtime.calls id = none) :
    Standing setup (runtime.setCall id { ownerId, request }) key := by
  rcases h with h | ⟨leader, first, h⟩
  · exact .inl (h.update { ownerId, request } rfl (fun _ => ⟨rfl, rfl⟩) h.receipt h.inflight)
  · have hid : id ≠ leader := by
      rintro rfl
      rw [h.call] at hnew
      cases hnew
    exact .inr ⟨leader, first, h.follower { ownerId, request } hid rfl
      (fun _ => ⟨rfl, .entering rfl⟩) (h.stored.congr rfl rfl)⟩

theorem standing_raise (h : Standing setup runtime key)
    (hwithin : Within key runtime (.raise id)) (hcall : runtime.calls id = some call) : Standing setup (runtime.raise id call) key := by
  have hkey : call.key ≠ key := hwithin call hcall
  refine h.other { call with phase := .answered .raised } hcall hkey rfl rfl rfl ?_
  exact Function.update_of_ne (Ne.symm hkey) _ _

theorem standing_record {timing : Timing} {result : ExecuteResult} {nowMs : Millis}
    (h : Standing setup runtime key) (hcall : runtime.calls id = some call)
    (hphase : call.phase = .performed timing result) :
    Standing setup (runtime.record id call timing result nowMs) key := by
  by_cases hkey : call.key = key
  · have hled := h.leads hcall hkey (.inl (by rw [hphase]; rfl))
    obtain ⟨row, hrow, hfingerprint, hstage⟩ := hled.stored
    subst hkey
    refine .inr ⟨id, _, hled.lead (.phase (.recorded result) (performed_not_settled hphase)) rfl
      ⟨_, fetch_complete hrow, hfingerprint, ?_⟩⟩
    · rw [hphase] at hstage
      show Stage id (.recorded result) (runtime.inflight call.key) (some result)
      generalize runtime.inflight call.key = inflight, row.result = stored at hstage
      cases hstage
      exact .recorded (.refl result)
  · exact h.other { call with phase := .recorded result } hcall hkey rfl rfl
      (fetch_complete_of_ne hkey) rfl

theorem standing_answer {result : ExecuteResult} (h : Standing setup runtime key)
    (hcall : runtime.calls id = some call) (hphase : call.phase = .recorded result) :
    Standing setup (runtime.answer id call result) key := by
  by_cases hkey : call.key = key
  · have hled := h.leads hcall hkey (.inr ⟨result, hphase⟩)
    obtain ⟨row, hrow, hfingerprint, hstage⟩ := hled.stored
    refine .inr ⟨id, _, hled.lead (.answer hphase) rfl ⟨row, hrow, hfingerprint, ?_⟩⟩
    have hinflight : (runtime.answer id call result).inflight key = none := by
      show Function.update runtime.inflight call.key none key = none
      rw [hkey, Function.update_self]
    rw [hphase] at hstage
    rw [hinflight]
    generalize runtime.inflight key = inflight, row.result = stored at hstage
    cases hstage with
    | active hphase => cases hphase
    | recorded hupgraded => exact .answered hupgraded
  · refine h.other { call with phase := .answered (.result result) } hcall hkey rfl rfl rfl ?_
    exact Function.update_of_ne (Ne.symm hkey) _ _

theorem standing_wake {i : CallId} {told : Call} {answer : CallAnswer} (h : Standing setup runtime key)
    (hcall : runtime.calls id = some call) (hphase : call.phase = .waiting i)
    (htold : runtime.calls i = some told) (hanswer : told.phase = .answered answer) :
    Standing setup (runtime.setPhase id call (.answered answer)) key := by
  by_cases hkey : call.key = key
  · rcases h with h | ⟨leader, first, h⟩
    · have hentering := (h.calls id call hcall hkey).1
      rw [hphase] at hentering
      cases hentering
    · obtain ⟨row, -, -, hstage⟩ := h.stored
      generalize hfirst : first.phase = phase, runtime.inflight key = inflight, row.result = stored at hstage
      have hid : id ≠ leader := by
        rintro rfl
        rw [h.call] at hcall
        cases hcall
        rw [← hfirst, hphase] at hstage
        cases hstage with
        | active hphase => cases hphase
      obtain ⟨hempty, hfollows⟩ := h.others id call hcall hkey hid
      cases hfollows with
      | waiting hwaiting hsame =>
        -- it waits for the leading call
        rw [hphase] at hwaiting
        cases hwaiting
        rw [h.call] at htold
        cases htold
        rw [hanswer] at hfirst
        subst hfirst
        cases hstage with
        | active hphase => cases hphase
        | @answered result later hupgraded =>
          have hrepeated : Follows setup i told { call with phase := .answered (.result result) } :=
            .repeated rfl (.inr hanswer) (.refl result) hsame
          exact .inr ⟨i, told, h.follower _ hid rfl (fun _ => ⟨hempty, hrepeated⟩)
            (h.stored.congr rfl rfl)⟩
      | entering hentering => rw [hphase] at hentering; cases hentering
      | repeated hrepeated => rw [hphase] at hrepeated; cases hrepeated
      | refused hrefused => rw [hphase] at hrefused; cases hrefused
  · exact h.other { call with phase := .answered answer } hcall hkey rfl rfl rfl rfl

theorem fetch_settleWaiting {ownerId : OwnerId} {deviceId : DeviceId} {state : Option DeviceState}
    {nowMs : Millis} {rows : List Receipt} {waiting : List Pending} {row : Receipt}
    (hrow : fetch rows key = some row) :
    ∃ row', fetch (settleWaiting ownerId deviceId state nowMs rows waiting).1 key = some row' ∧
      row.Settles row' := by
  induction waiting generalizing rows row with
  | nil => exact ⟨row, hrow, .refl row⟩
  | cons item waiting ih =>
    unfold settleWaiting
    split
    · exact ih hrow
    · split
      · let settled : CommandResult := { deviceId, status := .succeeded, state }
        obtain ⟨row', hrow', hsettles⟩ : ∃ row', fetch (SqliteReceiptLedger.reconcile rows
            (item.key ownerId) deviceId settled nowMs).1 key = some row' ∧ row.Settles row' :=
          fetch_reconcile rfl rfl hrow
        obtain ⟨row'', hrow'', hsettles'⟩ := ih hrow'
        exact ⟨row'', hrow'', hsettles.trans hsettles'⟩
      · exact ih hrow

theorem fetch_settleWaiting_none {ownerId : OwnerId} {deviceId : DeviceId}
    {state : Option DeviceState} {nowMs : Millis} {rows : List Receipt} {waiting : List Pending}
    (hrow : fetch rows key = none) :
    fetch (settleWaiting ownerId deviceId state nowMs rows waiting).1 key = none := by
  induction waiting generalizing rows with
  | nil => exact hrow
  | cons item waiting ih =>
    unfold settleWaiting
    split
    · exact ih hrow
    · split
      · exact ih (fetch_reconcile_none hrow)
      · exact ih hrow

theorem standing_settled {k : Nat} {seen : Observing} (h : Standing setup runtime key) :
    Standing setup (runtime.settled k seen) key := by
  rcases h with h | ⟨leader, first, h⟩
  · exact .inl ⟨fetch_settleWaiting_none h.receipt, h.inflight, h.calls⟩
  · refine .inr ⟨leader, first, h.congr rfl ?_⟩
    obtain ⟨row, hrow, hfingerprint, hstage⟩ := h.stored
    obtain ⟨row', hrow', hsettles⟩ : ∃ row', fetch (runtime.settled k seen).receipts key = some row' ∧
        row.Settles row' := fetch_settleWaiting hrow
    refine ⟨row', hrow', hsettles.fingerprint.trans hfingerprint, ?_⟩
    show Stage leader first.phase (runtime.inflight key) row'.result
    generalize first.phase = phase, runtime.inflight key = inflight, hresult : row.result = result at hstage
    cases hstage with
    | active hphase =>
      rw [hsettles.none hresult]
      exact .active hphase
    | recorded hupgraded =>
      obtain ⟨later, hlater, hupgraded'⟩ := hsettles.some _ hresult
      rw [hlater]
      exact .recorded (hupgraded.trans hupgraded')
    | answered hupgraded =>
      obtain ⟨later, hlater, hupgraded'⟩ := hsettles.some _ hresult
      rw [hlater]
      exact .answered (hupgraded.trans hupgraded')

theorem standing_settle {k : Nat} {seen : Observing} (h : Standing setup runtime key) :
    Standing setup (runtime.settle k seen) key := by
  obtain ⟨calls, hsettle, rfl | ⟨i, old, position, task, item, hold, htask, -, rfl⟩⟩ :=
    settle_eq runtime k seen
  · rw [hsettle]
    exact standing_settled h
  · rw [hsettle]
    replace h : Standing setup (runtime.settled k seen) key := standing_settled h
    replace hold : (runtime.settled k seen).calls i = some old := hold
    by_cases hkey : old.key = key
    · rcases h with h | ⟨leader, first, h⟩
      · have hempty := (h.calls i old hold hkey).2
        rw [hempty] at htask
        cases htask
      · by_cases hi : i = leader
        · subst hi
          obtain rfl : first = old := Option.some.inj (h.call.symm.trans hold)
          have hcontinues : first.Continues
              { first with tasks := first.tasks.set position { task with phase := .done item } } :=
            .task htask nofun
          exact .inr ⟨i, _, h.lead hcontinues rfl h.stored⟩
        · have hempty := (h.others i old hold hkey hi).1
          rw [hempty] at htask
          cases htask
    · exact h.other { old with tasks := old.tasks.set position { task with phase := .done item } }
        hold hkey rfl rfl rfl rfl

end Told

/-! ### Every step -/

theorem standing_step (h : Standing setup runtime key) (hsound : Sound runtime) {a : Step}
    (hwithin : Within key runtime a) : Standing setup (step setup runtime a) key := by
  rcases step_moves setup runtime a with hsame | hmoves
  · rw [hsame]
    exact h
  generalize step setup runtime a = runtime' at hmoves
  cases hmoves with
  | submit hnew => exact standing_submit h hnew
  -- what a call finds under its key depends on who leads it
  | conflict hcall hphase hbegin =>
    exact standing_conflict h hsound.early hwithin hcall hphase hbegin
  | repeats hcall hphase hbegin hresult =>
    exact standing_repeats h hsound.early hwithin hcall hphase hbegin hresult
  | waits hcall hphase hbegin _ hinflight =>
    exact standing_waits h hsound.early hwithin hcall hphase hbegin hinflight
  | carries hcall _ hbegin hexisting =>
    exact standing_carries h hwithin hcall hbegin hexisting
  -- what a call does while it is carried out leaves what stands for its key
  | late hcall hphase =>
    exact h.active hcall (.phase _ (not_settled (by rw [hphase]; rfl))) (by rw [hphase]; rfl) rfl rfl rfl rfl
  | inTime hcall hphase =>
    exact h.active hcall (.phase _ (not_settled (by rw [hphase]; rfl))) (by rw [hphase]; rfl) rfl rfl rfl rfl
  | lock hcall hphase =>
    exact h.active hcall (.phase _ (not_settled (by rw [hphase]; rfl))) (by rw [hphase]; rfl) rfl rfl rfl rfl
  | @start id call _ _ _ commands hcall hphase =>
    have hstarts : call.phase.early = true := by rw [hphase]; rfl
    exact h.active hcall (.start commands _ (hsound.early _ _ hcall hstarts) (not_settled hstarts))
      (by rw [hphase]; rfl) rfl rfl rfl rfl
  | noScene hcall hphase =>
    exact h.active hcall (.phase _ (not_settled (by rw [hphase]; rfl))) (by rw [hphase]; rfl) rfl rfl rfl rfl
  | raise hcall _ => exact standing_raise h hwithin hcall
  | decline code hcall hphase htask => exact h.task hcall hphase htask rfl rfl rfl (by nofun)
  | execute _ hcall hphase htask => exact h.task hcall hphase htask rfl rfl rfl (by nofun)
  | close _ _ hcall hphase htask => exact h.task hcall hphase htask rfl rfl rfl (by nofun)
  | expire _ hcall hphase htask => exact h.task hcall hphase htask rfl rfl rfl (by nofun)
  | report _ _ _ hcall hphase htask => exact h.task hcall hphase htask rfl rfl rfl (by nofun)
  | collect hcall hphase =>
    exact h.active hcall (.phase _ (running_not_settled hphase)) (by rw [hphase]; rfl) rfl rfl rfl rfl
  | record hcall hphase => exact standing_record h hcall hphase
  | answer hcall hphase => exact standing_answer h hcall hphase
  | wake hcall hphase htold hanswer => exact standing_wake h hcall hphase htold hanswer
  | observe => exact h.congr rfl rfl rfl
  | settle _ => exact standing_settle h
  | forget => exact h.congr rfl rfl rfl

/-! ### What calls are for -/

theorem update_eq_none {calls : CallId → Option Call} {i id : CallId} {old new : Call}
    (hold : calls i = some old) (hnone : calls id = none) :
    Function.update calls i (some new) id = none := by
  have hne : id ≠ i := by
    rintro rfl
    rw [hold] at hnone
    cases hnone
  rw [Function.update_of_ne hne, hnone]

/-- Only `execute` makes a call. -/
theorem Moves.new {a : Step} {id : CallId} {call : Call} (h : Moves setup runtime a runtime')
    (hnone : runtime.calls id = none) (hcall : runtime'.calls id = some call) :
    ∃ ownerId request, a = .submit id ownerId request ∧ call = { ownerId, request } := by
  -- every move but a submission writes calls that are there already
  suffices hno : runtime'.calls id = none ∨ ∃ ownerId request, a = .submit id ownerId request ∧
      runtime'.calls id = some { ownerId, request } by
    rcases hno with hno | ⟨ownerId, request, ha, hnew⟩
    · rw [hno] at hcall
      cases hcall
    · exact ⟨ownerId, request, ha, Option.some.inj (hcall.symm.trans hnew)⟩
  cases h with
  | @submit i ownerId request hnew =>
    by_cases hid : id = i
    · subst hid
      exact .inr ⟨ownerId, request, rfl, Function.update_self _ _ _⟩
    · exact .inl ((Function.update_of_ne hid _ _).trans hnone)
  | conflict hold => exact .inl (update_eq_none hold hnone)
  | repeats hold => exact .inl (update_eq_none hold hnone)
  | waits hold => exact .inl (update_eq_none hold hnone)
  | carries hold => exact .inl (update_eq_none hold hnone)
  | late hold => exact .inl (update_eq_none hold hnone)
  | inTime hold => exact .inl (update_eq_none hold hnone)
  | lock hold => exact .inl (update_eq_none hold hnone)
  | start _ hold => exact .inl (update_eq_none hold hnone)
  | noScene hold => exact .inl (update_eq_none hold hnone)
  | raise hold => exact .inl (update_eq_none hold hnone)
  | decline _ hold => exact .inl (update_eq_none hold hnone)
  | execute _ hold => exact .inl (update_eq_none hold hnone)
  | close _ _ hold => exact .inl (update_eq_none hold hnone)
  | expire _ hold => exact .inl (update_eq_none hold hnone)
  | report _ _ _ hold => exact .inl (update_eq_none hold hnone)
  | collect hold => exact .inl (update_eq_none hold hnone)
  | record hold => exact .inl (update_eq_none hold hnone)
  | answer hold => exact .inl (update_eq_none hold hnone)
  | wake hold => exact .inl (update_eq_none hold hnone)
  | observe => exact .inl hnone
  | @settle k seen _ =>
    obtain ⟨calls, hsettle, rfl | ⟨i, old, position, task, item, hold, -, -, rfl⟩⟩ :=
      settle_eq runtime k seen
    · rw [hsettle]
      exact .inl hnone
    · rw [hsettle]
      exact .inl (update_eq_none hold hnone)
  | forget => exact .inl hnone

/-- The request a step submits. -/
def Step.request : Step → Option ExecuteRequest
  | .submit _ _ request => some request
  | _ => none

/-- The requests of the run differ in their fingerprints where they differ in their contents. -/
def TellsApart (setup : Setup) (steps : List Step) : Prop :=
  ∀ a ∈ steps, ∀ b ∈ steps, ∀ request ∈ a.request, ∀ request' ∈ b.request,
    setup.fingerprint request = setup.fingerprint request' → request.contents = request'.contents

instance (setup : Setup) (steps : List Step) : Decidable (TellsApart setup steps) :=
  inferInstanceAs (Decidable (∀ a ∈ steps, ∀ b ∈ steps, ∀ request ∈ a.request, ∀ request' ∈ b.request,
    setup.fingerprint request = setup.fingerprint request' → request.contents = request'.contents))

/-- The request of a call was submitted. -/
theorem request_mem (steps : List Step) {id : CallId} {call : Call}
    (hcall : (run (step setup) {} steps).calls id = some call) :
    ∃ a ∈ steps, a.request = some call.request := by
  let Submitted (runtime : Runtime) : Prop := Early runtime ∧
    ∀ id call, runtime.calls id = some call → ∃ a ∈ steps, a.request = some call.request
  have hstep : ∀ runtime a, Submitted runtime → a ∈ steps → Submitted (step setup runtime a) := by
    intro runtime a h ha
    rcases step_moves setup runtime a with hsame | hmoves
    · rw [hsame]
      exact h
    · refine ⟨hmoves.early h.1, fun id call hcall => ?_⟩
      cases hold : runtime.calls id with
      | none =>
        obtain ⟨ownerId, request, rfl, rfl⟩ := hmoves.new hold hcall
        exact ⟨_, ha, rfl⟩
      | some old =>
        obtain ⟨call', hcall', hcontinues⟩ := hmoves.continues h.1 hold
        obtain rfl : call' = call := Option.some.inj (hcall'.symm.trans hcall)
        rw [hcontinues.request]
        exact h.2 id old hold
  have hstart : Submitted {} := ⟨(fun _ _ hcall => nomatch hcall), fun _ _ hcall => nomatch hcall⟩
  have halong : Along (step setup) (fun _ a => a ∈ steps) {} steps := along_of_forall fun _ ha => ha
  exact (run_inv_along hstep hstart halong).2 id call hcall

/-! ### A request is carried out once -/

/-- The calls of a key, and the one among them that carries the request out. -/
structure Once (runtime : Runtime) (key : ReceiptKey) (leader : CallId) (first : Call) : Prop where
  call : runtime.calls leader = some first
  call_key : first.key = key
  executed : ∀ e ∈ runtime.executed, e.key = key → e.call = leader
  same : ∀ id call, runtime.calls id = some call → call.key = key →
    call.request.contents = first.request.contents → ∀ answer, call.phase = .answered answer →
      ∃ result later, first.Settled result ∧ answer = .result later ∧ Upgraded result later
  other : ∀ id call, runtime.calls id = some call → call.key = key →
    call.request.contents ≠ first.request.contents →
      (call.phase = .entering ∨ call.phase = .answered .conflict) ∧ ∀ e ∈ runtime.executed, e.call ≠ id

theorem Sound.tasks_ne_nil (h : Sound runtime) {e : Execution} (he : e ∈ runtime.executed) :
    ∃ call, runtime.calls e.call = some call ∧ call.key = e.key ∧ call.tasks ≠ [] := by
  obtain ⟨call, task, hcall, hkey, htask, -, -⟩ := h.executed e he
  refine ⟨call, hcall, hkey, fun hempty => ?_⟩
  rw [hempty] at htask
  cases htask

/-- Only the leading call executes. -/
theorem Led.executed (h : Led setup runtime key leader first) (hsound : Sound runtime)
    {e : Execution} (he : e ∈ runtime.executed) (hkey : e.key = key) : e.call = leader := by
  obtain ⟨call, hcall, hcall_key, htasks⟩ := hsound.tasks_ne_nil he
  by_contra hne
  exact htasks (h.others e.call call hcall (hcall_key.trans hkey) hne).1

theorem Led.answered (h : Led setup runtime key leader first) {answer : CallAnswer}
    (hphase : first.phase = .answered answer) : ∃ result, answer = .result result := by
  obtain ⟨row, -, -, hstage⟩ := h.stored
  rw [hphase] at hstage
  generalize runtime.inflight key = inflight, row.result = result at hstage
  cases hstage with
  | active hphase => cases hphase
  | @answered result => exact ⟨result, rfl⟩

theorem Led.once (h : Led setup runtime key leader first) (hsound : Sound runtime)
    (hdumps : ∀ id call, runtime.calls id = some call →
      setup.fingerprint call.request = setup.fingerprint first.request →
        call.request.contents = first.request.contents) : Once runtime key leader first where
  call := h.call
  call_key := h.call_key
  executed := fun e he hkey => h.executed hsound he hkey
  same := by
    intro id call hcall hkey hcontents answer hanswer
    by_cases hid : id = leader
    · subst hid
      obtain rfl : first = call := Option.some.inj (h.call.symm.trans hcall)
      obtain ⟨result, rfl⟩ := h.answered hanswer
      exact ⟨result, result, .inr hanswer, rfl, .refl result⟩
    -- a call of the same contents that is not the leader waits for it, repeats its result, or has
    -- not begun
    · cases (h.others id call hcall hkey hid).2 with
      | entering hphase => rw [hphase] at hanswer; cases hanswer
      | waiting hphase => rw [hphase] at hanswer; cases hanswer
      | @repeated result later hphase hfirst hupgraded _ =>
        rw [hphase] at hanswer
        cases hanswer
        exact ⟨result, later, hfirst, rfl, hupgraded⟩
      | refused _ hother => exact absurd (congrArg setup.dumps hcontents) hother
  other := by
    intro id call hcall hkey hcontents
    have hid : id ≠ leader := by
      rintro rfl
      rw [h.call] at hcall
      cases hcall
      exact hcontents rfl
    refine ⟨?_, fun e he hcall_eq => ?_⟩
    · cases (h.others id call hcall hkey hid).2 with
      | entering hphase => exact .inl hphase
      | waiting _ hsame => exact absurd (hdumps id call hcall hsame) hcontents
      | repeated _ _ _ hsame => exact absurd (hdumps id call hcall hsame) hcontents
      | refused hphase _ => exact .inr hphase
    · subst hcall_eq
      obtain ⟨call', hcall', hkey', -⟩ := hsound.tasks_ne_nil he
      rw [hcall] at hcall'
      cases hcall'
      exact hid (h.executed hsound he (hkey'.symm.trans hkey))

/-- Executions of different commands have different places. -/
theorem length_filter_le_one {executed : List Execution} {p : Execution → Bool}
    (hnodup : (executed.map fun e => (e.call, e.position)).Nodup)
    (hp : ∀ e e', p e = true → p e' = true → e ∈ executed → e' ∈ executed →
      (e.call, e.position) = (e'.call, e'.position)) : (executed.filter p).length ≤ 1 := by
  have hfilter := hnodup.sublist ((List.filter_sublist (p := p)).map fun e => (e.call, e.position))
  match hfound : executed.filter p with
  | [] => simp
  | [_] => simp
  | e :: e' :: rest =>
    have he : e ∈ executed.filter p := by rw [hfound]; simp
    have he' : e' ∈ executed.filter p := by rw [hfound]; simp
    have hsame := hp e e' (List.of_mem_filter he) (List.of_mem_filter he')
      (List.mem_of_mem_filter he) (List.mem_of_mem_filter he')
    rw [hfound, List.map_cons, List.map_cons, List.nodup_cons] at hfilter
    rw [hsame] at hfilter
    exact absurd List.mem_cons_self hfilter.1

variable (setup)

/-- Over every run in which the receipt of a key answers for its calls, each command of the
request reaches its Provider at most once. One call carries the request out; every other call
with the same contents that is answered is told its result, or that result with unknown items
that have succeeded since; a call with other contents is refused and reaches no Provider. -/
theorem request_once (key : ReceiptKey) (steps : List Step)
    (hwithin : Along (step setup) (Within key) {} steps) (hdumps : TellsApart setup steps) :
    let runtime := run (step setup) {} steps;
    (∀ position, (runtime.executed.filter fun e => e.key = key ∧ e.position = position).length ≤ 1) ∧
    ((∀ id call, runtime.calls id = some call → call.key = key → call.phase = .entering) ∨
      ∃ leader first, Once runtime key leader first) := by
  intro runtime
  have hstart : Sound {} ∧ Standing setup {} key :=
    ⟨sound_init, .inl ⟨rfl, rfl, fun _ _ hcall => nomatch hcall⟩⟩
  obtain ⟨hsound, hstanding⟩ : Sound runtime ∧ Standing setup runtime key :=
    run_inv_along (I := fun runtime => Sound runtime ∧ Standing setup runtime key)
      (fun _ a h ha => ⟨sound_step h.1 a, standing_step h.2 h.1 ha⟩) hstart hwithin
  rcases hstanding with h | ⟨leader, first, h⟩
  · refine ⟨fun position => length_filter_le_one hsound.once fun e _ he _ hmem _ => ?_,
      .inl fun id call hcall hkey => (h.calls id call hcall hkey).1⟩
    obtain ⟨call, hcall, hkey, htasks⟩ := hsound.tasks_ne_nil hmem
    have he_key : e.key = key := (of_decide_eq_true he).1
    exact absurd (h.calls e.call call hcall (hkey.trans he_key)).2 htasks
  · refine ⟨fun position => length_filter_le_one hsound.once fun e e' he he' hmem hmem' => ?_,
      .inr ⟨leader, first, h.once hsound fun id call hcall hsame => ?_⟩⟩
    · obtain ⟨hkey, hposition⟩ := of_decide_eq_true he
      obtain ⟨hkey', hposition'⟩ := of_decide_eq_true he'
      rw [h.executed hsound hmem hkey, h.executed hsound hmem' hkey', hposition, hposition']
    · obtain ⟨a, ha, hrequest⟩ := request_mem steps hcall
      obtain ⟨b, hb, hrequest'⟩ := request_mem steps h.call
      exact hdumps a ha b hb _ hrequest _ hrequest' hsame

/-! ### A repeat that is told more -/

/-- One light, and the texts of the two requests below. -/
def lampSetup : Setup where
  dumps := fun (commands, _) =>
    if commands.map (·.action) = [.on] then
      "\x7b\"commands\":[\x7b\"command\":\"on\",\"device_id\":\"lamp\",\"params\":\x7b\x7d,\"trait\":\"on_off\"\x7d],\"scene_id\":null\x7d"
    else
      "\x7b\"commands\":[\x7b\"command\":\"off\",\"device_id\":\"lamp\",\"params\":\x7b\x7d,\"trait\":\"on_off\"\x7d],\"scene_id\":null\x7d"
  validateDeviceCommand := fun _ _ => none
  validateDeviceState := fun _ _ => none
  providers := ["virtual"]

/-- A home with one lamp. -/
def lampRegistry : Registry where
  devices := [{ deviceId := "lamp", type := "light", providerKind := "virtual", orphaned := false }]
  scenes := []

/-- A request with one command for the lamp. -/
def lampRequest (action : Action) : ExecuteRequest where
  requestId := "request-1"
  commands := [{ deviceId := "lamp", action }]
  origin := { kind := "touch", deviceRef := some "panel-1" }
  deadlineMs := 4000

/-- The key of that request. -/
def lampKey : ReceiptKey := ⟨"alice", "panel-1", "request-1"⟩

/-- A call is carried out up to the outcome of its command. -/
def lampCall (outcome : Outcome) : List Step :=
  [.submit 0 "alice" (lampRequest .on), .enter 0 1000, .perform 0 1000 1000, .lock 0,
   .gather 0 lampRegistry 1010, .begin 0 0 1010, .finish 0 0 1500 outcome]

/-- While it runs, a repeat waits and another command under its id is refused. -/
def lampRepeats : List Step :=
  lampCall (.state { on := some true }) ++
    [.submit 1 "alice" (lampRequest .on), .enter 1 1500, .submit 2 "alice" (lampRequest .off),
     .enter 2 1500, .settle 0, .collect 0 1510, .record 0 1510, .answer 0, .wake 1]

theorem request_once_lamp :
    ((run (step lampSetup) {} lampRepeats).executed.filter fun e =>
      e.key = lampKey ∧ e.position = 0).length ≤ 1 := by
  have hwithin : Along (step lampSetup) (Within lampKey) {} lampRepeats := by decide +kernel
  have hdumps : TellsApart lampSetup lampRepeats := by decide +kernel
  exact (request_once lampSetup lampKey lampRepeats hwithin hdumps).1 0

/-- The command times out, and the lamp is seen on before the request is made again. -/
def lampTimeout : List Step :=
  lampCall .timeout ++
    [.collect 0 4000, .record 0 4000, .answer 0, .observe "alice" "lamp" (some { on := some true }) 4100,
     .settle 0, .submit 1 "alice" (lampRequest .on), .enter 1 5000]

/-- The first call is told that the command is unknown, and the repeat that it has succeeded. -/
theorem repeat_is_told_more :
    let runtime := run (step lampSetup) {} lampTimeout;
    Along (step lampSetup) (Within lampKey) {} lampTimeout ∧ TellsApart lampSetup lampTimeout ∧
    (runtime.calls 0).map (·.phase) = some (.answered (.result
      ⟨"request-1", [unknown ⟨"lamp", .on⟩ (some errorDeadlineExceeded)], none⟩)) ∧
    (runtime.calls 1).map (·.phase) = some (.answered (.result
      ⟨"request-1", [{ deviceId := "lamp", status := .succeeded, state := some { on := some true } }], none⟩)) ∧
    (runtime.calls 1).map (·.phase) ≠ (runtime.calls 0).map (·.phase) := by
  decide +kernel

end Runtime

end EidolonHub.SmartHome
