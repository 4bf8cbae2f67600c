import EidolonHub.SmartHome.Idempotence

/-!
# EidolonHub.SmartHome.Reconciliation

**Unknown outcomes and the observations that settle them.** A pending command knows its
place in the request, and the ledger is told its device only: of the items for the device
that are unknown it takes the first. So an observation settles, in each receipt, as many of
the first unknown items as there are pending commands of the receipt whose effect it shows
(`itemAt_settle`).

These are those commands' own items for a request that addresses the device once; otherwise
they need not be (`only_own`). And a command whose call has not recorded its result yet has
no item to settle, while its entry is dropped all the same (`shown_is_recorded`).
-/

namespace EidolonHub.SmartHome

open EidolonHub.Library

/-! ### The first unknown items -/

/-- What the reconciler looks for. -/
def CommandResult.unknownOf (target : DeviceId) (found : CommandResult) : Bool :=
  found.deviceId = target ∧ found.status = .unknown

/-- The first `n` unknown items for the device give way to the settled one. -/
def settleFirst (target : DeviceId) (item : CommandResult) : Nat → List CommandResult → List CommandResult
  | 0, items => items
  | _, [] => []
  | n + 1, found :: items =>
    if found.unknownOf target then item :: settleFirst target item n items
    else found :: settleFirst target item (n + 1) items

section SettleFirst

variable {target : DeviceId} {item : CommandResult} {items : List CommandResult} {n i : Nat}

@[simp] theorem settleFirst_zero : settleFirst target item 0 items = items := by
  cases items <;> rfl

theorem settleFirst_of_none (h : replaceFirst target item items = none) :
    settleFirst target item n items = items := by
  induction items with
  | nil => cases n <;> rfl
  | cons found items ih =>
    unfold replaceFirst at h
    split at h
    · cases h
    · next hfound =>
      have hnot : found.unknownOf target = false := decide_eq_false hfound
      cases n with
      | zero => rfl
      | succ n => simp [settleFirst, hnot, ih (Option.map_eq_none_iff.mp h)]

theorem settleFirst_one {replaced : List CommandResult}
    (h : replaceFirst target item items = some replaced) :
    settleFirst target item 1 items = replaced := by
  induction items generalizing replaced with
  | nil => cases h
  | cons found items ih =>
    unfold replaceFirst at h
    split at h
    · next hfound =>
      cases h
      have hunknown : found.unknownOf target = true := decide_eq_true hfound
      simp [settleFirst, hunknown]
    · next hfound =>
      obtain ⟨rest, hrest, rfl⟩ := Option.map_eq_some_iff.mp h
      have hnot : found.unknownOf target = false := decide_eq_false hfound
      simp [settleFirst, hnot, ih hrest]

/-- One after the other. -/
theorem settleFirst_succ (hitem : item.status ≠ .unknown) :
    settleFirst target item n (settleFirst target item 1 items) =
      settleFirst target item (n + 1) items := by
  have hsettled : item.unknownOf target = false := decide_eq_false fun h => hitem h.2
  induction items with
  | nil => cases n <;> rfl
  | cons found items ih =>
    by_cases hfound : found.unknownOf target
    · cases n with
      | zero => simp
      | succ n => simp [settleFirst, hfound, hsettled]
    · cases n with
      | zero => simp
      | succ n => simp [settleFirst, hfound, ih]

/-- An item is settled where it is unknown and fewer than `n` come before it. -/
theorem getElem?_settleFirst : (settleFirst target item n items)[i]? =
    items[i]?.map fun found =>
      if found.unknownOf target ∧ (items.take i).countP (·.unknownOf target) < n then item else found := by
  induction items generalizing n i with
  | nil => cases n <;> simp [settleFirst]
  | cons found items ih =>
    cases n with
    | zero => simp [settleFirst]
    | succ n =>
      by_cases hfound : found.unknownOf target
      · cases i with
        | zero => simp [settleFirst, hfound]
        | succ i => simp [settleFirst, hfound, ih]
      · cases i with
        | zero => simp [settleFirst, hfound]
        | succ i => simp [settleFirst, hfound, ih]

end SettleFirst

/-! ### The results of the receipts -/

/-- The result recorded for a key. -/
def resultOf (rows : List Receipt) (key : ReceiptKey) : Option ExecuteResult :=
  (fetch rows key).bind (·.result)

/-- An item of the result recorded for a key. -/
def itemAt (rows : List Receipt) (key : ReceiptKey) (i : Nat) : Option CommandResult :=
  (resultOf rows key).bind (·.results[i]?)

section Results

variable {rows : List Receipt} {key key' : ReceiptKey} {target : DeviceId} {item : CommandResult}
  {nowMs : Millis}

theorem resultOf_reconcile : resultOf (SqliteReceiptLedger.reconcile rows key' target item nowMs).1 key =
    (resultOf rows key).map fun result =>
      { result with results := settleFirst target item (if key' = key then 1 else 0) result.results } := by
  unfold SqliteReceiptLedger.reconcile
  split
  · next hnone =>
    have hsame : ∀ result, resultOf rows key = some result →
        settleFirst target item (if key' = key then 1 else 0) result.results = result.results := by
      intro result hresult
      split
      · next hkey =>
        subst hkey
        obtain ⟨row, hrow, hresult⟩ := Option.bind_eq_some_iff.mp hresult
        rw [hrow] at hnone
        refine settleFirst_of_none (Option.eq_none_iff_forall_ne_some.mpr fun items hitems => ?_)
        simp [replaceUnknown, hresult, hitems] at hnone
      · exact settleFirst_zero
    cases hresult : resultOf rows key with
    | none => rfl
    | some result => rw [Option.map_some, hsame result hresult]
  · next replaced hreplaced =>
    unfold resultOf
    rw [fetch_update (Ledgers.settle_key replaced nowMs)]
    by_cases hkey : key' = key
    · subst hkey
      rw [if_pos rfl, if_pos rfl]
      cases hrow : fetch rows key' with
      | none =>
        rw [hrow] at hreplaced
        cases hreplaced
      | some row =>
        rw [hrow] at hreplaced
        obtain ⟨result, items, hresult, hitems, rfl⟩ := replaceUnknown_eq_some hreplaced
        simp [hresult, SqliteReceiptLedger.settle, settleFirst_one hitems]
    · rw [if_neg (Ne.symm hkey), if_neg hkey]
      simp

theorem fetch_reconcile_of_ne (hkey : key' ≠ key) :
    fetch (SqliteReceiptLedger.reconcile rows key' target item nowMs).1 key = fetch rows key := by
  unfold SqliteReceiptLedger.reconcile
  split
  · rfl
  · next replaced _ => rw [fetch_update (Ledgers.settle_key replaced nowMs), if_neg (Ne.symm hkey)]

/-- The loop leaves the whole receipt of a request without a pending command that is shown. -/
theorem fetch_settleWaiting_of_not {ownerId : OwnerId} {state : Option DeviceState} {waiting : List Pending}
    (h : ∀ pending ∈ waiting, pending.key ownerId = key → pending.settledBy state nowMs = false) :
    fetch (Runtime.settleWaiting ownerId target state nowMs rows waiting).1 key = fetch rows key := by
  induction waiting generalizing rows with
  | nil => rfl
  | cons pending waiting ih =>
    have hrest := fun other hother => h other (List.mem_cons_of_mem _ hother)
    unfold Runtime.settleWaiting
    split
    · exact ih hrest
    · split
      · next hsettled =>
        have hkey : pending.key ownerId ≠ key := by
          intro hkey
          rw [h pending List.mem_cons_self hkey] at hsettled
          cases hsettled
        exact (ih hrest).trans (fetch_reconcile_of_ne hkey)
      · exact ih hrest

/-- The loop settles in each receipt as many items as it has pending commands that are shown. -/
theorem resultOf_settleWaiting {ownerId : OwnerId} {state : Option DeviceState}
    {waiting : List Pending} :
    resultOf (Runtime.settleWaiting ownerId target state nowMs rows waiting).1 key =
      (resultOf rows key).map fun result =>
        { result with
          results := settleFirst target { deviceId := target, status := .succeeded, state }
            (waiting.countP fun item => item.key ownerId = key ∧ item.settledBy state nowMs) result.results } := by
  induction waiting generalizing rows with
  | nil => simp [Runtime.settleWaiting]
  | cons pending waiting ih =>
    unfold Runtime.settleWaiting
    split
    · next hexpired =>
      have hnot : pending.settledBy state nowMs = false := by
        simp [Pending.settledBy, Int.not_lt.mpr hexpired]
      rw [ih, List.countP_cons_of_neg (by simp [hnot])]
    · split
      · next hsettled =>
        rw [ih, resultOf_reconcile, Option.map_map]
        congr 1
        funext result
        by_cases hkey : pending.key ownerId = key
        · rw [List.countP_cons_of_pos (by simp [hkey, hsettled])]
          simp only [Function.comp_apply, if_pos hkey]
          rw [settleFirst_succ (by simp)]
        · rw [List.countP_cons_of_neg (by simp [hkey])]
          simp [if_neg hkey]
      · next hsettled =>
        show resultOf (Runtime.settleWaiting ownerId target state nowMs rows waiting).1 key = _
        rw [ih, List.countP_cons_of_neg (by simp [hsettled])]

end Results

/-! ### What one observation does to the receipts -/

namespace Runtime

/-- Fewer unknown items for the device come before this one than there are pending commands
of its receipt that the observation shows. -/
def Reached (runtime : Runtime) (seen : Observing) (key : ReceiptKey) (i : Nat) : Prop :=
  ∃ result ∈ resultOf runtime.receipts key, ∃ found ∈ result.results[i]?,
    found.unknownOf seen.deviceId = true ∧
    (result.results.take i).countP (·.unknownOf seen.deviceId) <
      (runtime.pending (seen.ownerId, seen.deviceId)).countP fun item =>
        item.key seen.ownerId = key ∧ item.settledBy seen.state seen.nowMs

instance (runtime : Runtime) (seen : Observing) (key : ReceiptKey) (i : Nat) :
    Decidable (Reached runtime seen key i) :=
  inferInstanceAs (Decidable (∃ result ∈ resultOf runtime.receipts key,
    ∃ found ∈ result.results[i]?, found.unknownOf seen.deviceId = true ∧
    (result.results.take i).countP (·.unknownOf seen.deviceId) <
      (runtime.pending (seen.ownerId, seen.deviceId)).countP fun item =>
        item.key seen.ownerId = key ∧ item.settledBy seen.state seen.nowMs))

/-- The item that tells of the observed state. -/
def settledItem (seen : Observing) : CommandResult where
  deviceId := seen.deviceId
  status := .succeeded
  state := seen.state

variable {setup : Setup} {runtime runtime' : Runtime} {seen : Observing} {key : ReceiptKey} {i k : Nat}

theorem settle_receipts : (runtime.settle k seen).receipts =
    (settleWaiting seen.ownerId seen.deviceId seen.state seen.nowMs runtime.receipts
      (runtime.pending (seen.ownerId, seen.deviceId))).1 := by
  obtain ⟨calls, hsettle, -⟩ := settle_eq runtime k seen
  rw [hsettle]
  rfl

/-- An observation settles the items it reaches, and leaves all others as they were. -/
theorem itemAt_settle : itemAt (runtime.settle k seen).receipts key i =
    if Reached runtime seen key i then some (settledItem seen) else itemAt runtime.receipts key i := by
  unfold itemAt
  rw [settle_receipts, resultOf_settleWaiting]
  cases hresult : resultOf runtime.receipts key with
  | none =>
    rw [if_neg]
    · rfl
    · rintro ⟨result, hmem, -⟩
      rw [hresult] at hmem
      cases hmem
  | some result =>
    rw [Option.map_some, Option.bind_some, getElem?_settleFirst, Option.bind_some]
    cases hfound : result.results[i]? with
    | none =>
      rw [if_neg]
      · rfl
      · rintro ⟨result', hmem, found, hfound', -⟩
        rw [hresult] at hmem
        cases hmem
        rw [hfound] at hfound'
        cases hfound'
    | some found =>
      -- with the result at hand, being reached is a count of the unknown items before this one
      have hiff : Reached runtime seen key i ↔ found.unknownOf seen.deviceId = true ∧
          (result.results.take i).countP (·.unknownOf seen.deviceId) <
            (runtime.pending (seen.ownerId, seen.deviceId)).countP fun item =>
              item.key seen.ownerId = key ∧ item.settledBy seen.state seen.nowMs := by
        constructor
        · rintro ⟨result', hmem, found', hfound', hreached⟩
          rw [hresult] at hmem
          cases hmem
          rw [hfound] at hfound'
          cases hfound'
          exact hreached
        · exact fun hreached => ⟨result, hresult, found, hfound, hreached⟩
      rw [Option.map_some, if_congr hiff rfl rfl]
      split <;> rfl

/-! ### Only its own command's effect -/

/-- A pending command of the call whose result the receipt holds has this place in its request,
and the observation shows its effect in time. -/
def Earned (runtime : Runtime) (seen : Observing) (key : ReceiptKey) (i : Nat) : Prop :=
  ∃ item ∈ runtime.pending (seen.ownerId, seen.deviceId), item.key seen.ownerId = key ∧
    runtime.recordedBy key = some item.call ∧ item.position = i ∧
    item.settledBy seen.state seen.nowMs = true

/-- An observation leaves the whole receipt of every request that has no pending command whose
effect it shows, so those of other Owners, scopes and requests. In the others it settles unknown
items of its device whose own commands took effect, and changes no other item. -/
def OnlyOwn (runtime runtime' : Runtime) (seen : Observing) : Prop :=
  (∀ key, (∀ item ∈ runtime.pending (seen.ownerId, seen.deviceId), item.key seen.ownerId = key →
      item.settledBy seen.state seen.nowMs = false) →
    fetch runtime'.receipts key = fetch runtime.receipts key) ∧
  ∀ key i, itemAt runtime'.receipts key i = itemAt runtime.receipts key i ∨
    ((itemAt runtime.receipts key i).any (·.unknownOf seen.deviceId) = true ∧
      itemAt runtime'.receipts key i = some (settledItem seen) ∧
      ∃ item ∈ runtime.pending (seen.ownerId, seen.deviceId), item.key seen.ownerId = key ∧
        runtime.recordedBy key = some item.call ∧ item.position = i ∧
        item.settledBy seen.state seen.nowMs = true ∧
        Placed runtime item.call key i item.command)

/-- Every item an observation reaches is that of a command it shows. -/
def Own (runtime : Runtime) (seen : Observing) : Prop :=
  ∀ key i, Reached runtime seen key i → Earned runtime seen key i

theorem Reached.unknown (h : Reached runtime seen key i) :
    (itemAt runtime.receipts key i).any (·.unknownOf seen.deviceId) = true := by
  obtain ⟨result, hresult, found, hfound, hunknown, -⟩ := h
  rw [Option.mem_def] at hresult hfound
  simp [itemAt, hresult, hfound, hunknown]

theorem onlyOwn_iff (hsound : Sound runtime) :
    OnlyOwn runtime (runtime.settle k seen) seen ↔ Own runtime seen := by
  constructor
  · intro h key i hreached
    rcases h.2 key i with hsame | ⟨-, -, item, hitem, hkey, hrecorded, hposition, hsettled, -⟩
    · -- what was unknown is not unknown any more
      rw [itemAt_settle, if_pos hreached] at hsame
      have hunknown := hreached.unknown
      rw [← hsame] at hunknown
      exact absurd hunknown (by simp [settledItem, CommandResult.unknownOf])
    · exact ⟨item, hitem, hkey, hrecorded, hposition, hsettled⟩
  · intro h
    refine ⟨fun key hnone => ?_, fun key i => ?_⟩
    · rw [settle_receipts]
      exact fetch_settleWaiting_of_not hnone
    by_cases hreached : Reached runtime seen key i
    · obtain ⟨item, hitem, hkey, hrecorded, hposition, hsettled⟩ := h key i hreached
      refine .inr ⟨hreached.unknown, by rw [itemAt_settle, if_pos hreached], item, hitem, hkey,
        hrecorded, hposition, hsettled, ?_⟩
      have hplaced := (hsound.pending _ item hitem).2
      rw [hposition] at hplaced
      rw [← hkey]
      exact hplaced
    · exact .inl (by rw [itemAt_settle, if_neg hreached])

/-- A condition on the observation that a step goes on with. -/
def OnSettle (P : Runtime → Nat → Observing → Prop) (runtime : Runtime) : Step → Prop
  | .settle k => ∀ seen ∈ runtime.observing[k]?, P runtime k seen
  | _ => True

instance {P : Runtime → Nat → Observing → Prop} [∀ runtime k seen, Decidable (P runtime k seen)]
    (runtime : Runtime) : ∀ a, Decidable (OnSettle P runtime a)
  | .settle k => inferInstanceAs (Decidable (∀ seen ∈ runtime.observing[k]?, P runtime k seen))
  | .submit .. | .enter .. | .perform .. | .lock _ | .gather .. | .raise _ | .begin .. | .finish ..
  | .collect .. | .record .. | .answer _ | .wake _ | .observe .. | .forget .. => .isTrue trivial

theorem OnSettle.congr {P Q : Runtime → Nat → Observing → Prop}
    (h : ∀ k seen, P runtime k seen ↔ Q runtime k seen) (a : Step) :
    OnSettle P runtime a ↔ OnSettle Q runtime a := by
  cases a with
  | settle k => exact forall_congr' fun seen => forall_congr' fun _ => h k seen
  | _ => exact Iff.rfl

variable (setup)

/-- Over every run, each observation settles only items whose own commands took effect, and
changes nothing else of any receipt, exactly when each reaches only items of commands it shows. -/
theorem only_own (steps : List Step) :
    Along (step setup) (OnSettle fun runtime k seen => OnlyOwn runtime (runtime.settle k seen) seen)
        {} steps ↔
      Along (step setup) (OnSettle fun runtime _ seen => Own runtime seen) {} steps := by
  constructor
  · intro h
    exact h.imp_of_inv (I := Sound) (fun runtime a hs _ => sound_step hs a)
      (fun runtime a hs ha => (OnSettle.congr (fun k seen => onlyOwn_iff hs) a).mp ha) sound_init
  · intro h
    exact h.imp_of_inv (I := Sound) (fun runtime a hs _ => sound_step hs a)
      (fun runtime a hs ha => (OnSettle.congr (fun k seen => onlyOwn_iff hs) a).mpr ha) sound_init

/-! ### A settling observation is recorded -/

/-- The receipt of every command the observation showed first, on its arrival, is recorded by
the command's call, and its item is reached, or has succeeded already. -/
def Timely (runtime : Runtime) (seen : Observing) : Prop :=
  ∀ item ∈ seen.due, (item.call, item.position) ∉ runtime.shown →
    runtime.recordedBy (item.key seen.ownerId) = some item.call ∧
    (Reached runtime seen (item.key seen.ownerId) item.position ∨
      (itemAt runtime.receipts (item.key seen.ownerId) item.position).any (·.status = .succeeded) = true)

instance (runtime : Runtime) (seen : Observing) : Decidable (Timely runtime seen) :=
  inferInstanceAs (Decidable (∀ item ∈ seen.due, (item.call, item.position) ∉ runtime.shown →
    runtime.recordedBy (item.key seen.ownerId) = some item.call ∧
    (Reached runtime seen (item.key seen.ownerId) item.position ∨
      (itemAt runtime.receipts (item.key seen.ownerId) item.position).any
        (·.status = .succeeded) = true)))

/-- Where a call has recorded its result, the items of its commands that were shown in time
have succeeded. -/
def Recorded (runtime : Runtime) : Prop :=
  ∀ key id position, runtime.recordedBy key = some id → (id, position) ∈ runtime.shown →
    ∀ result, resultOf runtime.receipts key = some result →
      ∃ item, result.results[position]? = some item ∧ item.status = .succeeded

/-- One row per key, a shown command's call has its result, and what was shown is recorded. -/
structure Kept (runtime : Runtime) : Prop where
  keys : (runtime.receipts.map Receipt.key).Nodup
  shown : ∀ id position, (id, position) ∈ runtime.shown →
    ∃ call result, runtime.calls id = some call ∧ call.Settled result
  recorded : Recorded runtime

end Runtime

section Keys

variable {rows : List Receipt} {key key' : ReceiptKey}

theorem keys_update {set : Receipt → Receipt} (hset : ∀ r, (set r).key = r.key) :
    (SqliteReceiptLedger.update key set rows).map Receipt.key = rows.map Receipt.key := by
  unfold SqliteReceiptLedger.update
  rw [List.map_map]
  refine List.map_congr_left fun r _ => ?_
  by_cases hr : r.key = key <;> simp [hr, hset]

theorem keys_begin {fingerprint : String} {nowMs : Millis} (h : (rows.map Receipt.key).Nodup) :
    ((SqliteReceiptLedger.begin rows key fingerprint nowMs).1.map Receipt.key).Nodup := by
  have hkept : ((rows.filter fun r => nowMs - retentionMs ≤ r.timestamps.submittedAtMs).map
      Receipt.key).Nodup := h.sublist (List.filter_sublist.map _)
  unfold SqliteReceiptLedger.begin
  dsimp only
  split
  · next hnone =>
    have hstore : MemoryLedger.store (.submitted key fingerprint nowMs) _ = _ := store_of_fetch_none hnone
    rw [← hstore]
    exact nodup_place hkept
  · split
    · split
      · exact h
      · exact hkept
    · rw [keys_update (Ledgers.reopen_key fingerprint nowMs)]
      exact hkept

theorem keys_reconcile {target : DeviceId} {item : CommandResult} {atMs : Millis}
    (h : (rows.map Receipt.key).Nodup) :
    ((SqliteReceiptLedger.reconcile rows key target item atMs).1.map Receipt.key).Nodup := by
  unfold SqliteReceiptLedger.reconcile
  split
  · exact h
  · next replaced _ =>
    rw [keys_update (Ledgers.settle_key replaced atMs)]
    exact h

theorem keys_settleWaiting {ownerId : OwnerId} {deviceId : DeviceId} {state : Option DeviceState}
    {nowMs : Millis} {waiting : List Pending} (h : (rows.map Receipt.key).Nodup) :
    ((Runtime.settleWaiting ownerId deviceId state nowMs rows waiting).1.map Receipt.key).Nodup := by
  induction waiting generalizing rows with
  | nil => exact h
  | cons item waiting ih =>
    unfold Runtime.settleWaiting
    split
    · exact ih h
    · split
      · exact ih (keys_reconcile h)
      · exact ih h

/-- What is left under a key is what was there. -/
theorem fetch_of_filter {p : Receipt → Bool} {row : Receipt} (h : (rows.map Receipt.key).Nodup)
    (hrow : fetch (rows.filter p) key = some row) : fetch rows key = some row := by
  have hmem := List.mem_of_mem_filter (List.mem_of_find?_eq_some hrow)
  have hkey := fetch_key hrow
  cases hfound : fetch rows key with
  | none =>
    have hnot := List.find?_eq_none.mp hfound row hmem
    exact absurd (decide_eq_true hkey) hnot
  | some found =>
    have hsame : found = row := List.inj_on_of_nodup_map h (List.mem_of_find?_eq_some hfound) hmem
      ((fetch_key hfound).trans hkey.symm)
    rw [hsame]

/-- A submission records no result. -/
theorem resultOf_begin {fingerprint : String} {nowMs : Millis} {result : ExecuteResult}
    (h : (rows.map Receipt.key).Nodup)
    (hresult : resultOf (SqliteReceiptLedger.begin rows key' fingerprint nowMs).1 key = some result) :
    resultOf rows key = some result := by
  have hkept : ∀ row, fetch (rows.filter fun r => nowMs - retentionMs ≤ r.timestamps.submittedAtMs)
      key = some row → fetch rows key = some row := fun row hrow => fetch_of_filter h hrow
  obtain ⟨row, hrow, hresult⟩ := Option.bind_eq_some_iff.mp hresult
  refine Option.bind_eq_some_iff.mpr ⟨row, ?_, hresult⟩
  unfold SqliteReceiptLedger.begin at hrow
  dsimp only at hrow
  split at hrow
  · next hnone =>
    have hnew : (Receipt.submitted key' fingerprint nowMs).key = key' := rfl
    rw [← store_of_fetch_none hnone, fetch_store, hnew] at hrow
    split at hrow
    · cases hrow
      cases hresult
    · exact hkept row hrow
  · split at hrow
    · split at hrow
      · exact hrow
      · exact hkept row hrow
    · rw [fetch_update (Ledgers.reopen_key fingerprint nowMs)] at hrow
      split at hrow
      · obtain ⟨old, -, rfl⟩ := Option.map_eq_some_iff.mp hrow
        cases hresult
      · exact hkept row hrow

theorem resultOf_complete {result : ExecuteResult} {timestamps : Timestamps} (hne : key' ≠ key) :
    resultOf (SqliteReceiptLedger.complete rows key' result timestamps) key = resultOf rows key := by
  unfold resultOf
  rw [fetch_complete_of_ne hne]

end Keys

namespace Runtime

variable {setup : Setup} {runtime runtime' : Runtime} {a : Step}

/-- What a step does to the receipts and what was shown. -/
inductive LedgerMoves (runtime runtime' : Runtime) : Step → Prop where
  | rest {a : Step} (hreceipts : runtime'.receipts = runtime.receipts)
    (hrecorded : runtime'.recordedBy = runtime.recordedBy) (hshown : runtime'.shown = runtime.shown) :
    LedgerMoves runtime runtime' a
  | begin {a : Step} (key : ReceiptKey) (fingerprint : String) (nowMs : Millis)
    (hreceipts : runtime'.receipts =
      (SqliteReceiptLedger.begin runtime.receipts key fingerprint nowMs).1)
    (hrecorded : runtime'.recordedBy = runtime.recordedBy) (hshown : runtime'.shown = runtime.shown) :
    LedgerMoves runtime runtime' a
  | complete {a : Step} {id : CallId} {call : Call} {timing : Timing} {result : ExecuteResult}
    (timestamps : Timestamps) (hcall : runtime.calls id = some call)
    (hphase : call.phase = .performed timing result)
    (hreceipts : runtime'.receipts =
      SqliteReceiptLedger.complete runtime.receipts call.key result timestamps)
    (hrecorded : runtime'.recordedBy = Function.update runtime.recordedBy call.key (some id))
    (hshown : runtime'.shown = runtime.shown) : LedgerMoves runtime runtime' a
  | settle {k : Nat} {seen : Observing} (hseen : runtime.observing[k]? = some seen)
    (hsettle : runtime' = runtime.settle k seen) : LedgerMoves runtime runtime' (.settle k)

theorem Moves.ledger (h : Moves setup runtime a runtime') : LedgerMoves runtime runtime' a := by
  cases h with
  | conflict _ _ hbegin => exact .begin _ _ _ (by rw [hbegin]; rfl) rfl rfl
  | repeats _ _ hbegin _ => exact .begin _ _ _ (by rw [hbegin]; rfl) rfl rfl
  | waits _ _ hbegin _ _ => exact .begin _ _ _ (by rw [hbegin]; rfl) rfl rfl
  | carries _ _ hbegin _ => exact .begin _ _ _ (by rw [hbegin]; rfl) rfl rfl
  | record hcall hphase => exact .complete _ hcall hphase rfl rfl rfl
  | settle hseen => exact .settle hseen rfl
  | _ => exact .rest rfl rfl rfl

theorem settle_recordedBy {k : Nat} {seen : Observing} :
    (runtime.settle k seen).recordedBy = runtime.recordedBy := by
  obtain ⟨calls, hsettle, -⟩ := settle_eq runtime k seen
  rw [hsettle]
  rfl

theorem settle_shown {k : Nat} {seen : Observing} : (runtime.settle k seen).shown =
    runtime.shown ++ seen.due.map fun item => (item.call, item.position) := by
  obtain ⟨calls, hsettle, -⟩ := settle_eq runtime k seen
  rw [hsettle]
  rfl

theorem LedgerMoves.keys (h : LedgerMoves runtime runtime' a)
    (hkeys : (runtime.receipts.map Receipt.key).Nodup) : (runtime'.receipts.map Receipt.key).Nodup := by
  cases h with
  | rest hreceipts => rw [hreceipts]; exact hkeys
  | begin _ _ _ hreceipts => rw [hreceipts]; exact keys_begin hkeys
  | complete _ _ _ hreceipts =>
    rw [hreceipts]
    unfold SqliteReceiptLedger.complete
    rw [keys_update (Ledgers.record_key _ _)]
    exact hkeys
  | settle _ hsettle => rw [hsettle, settle_receipts]; exact keys_settleWaiting hkeys

/-- A call that recorded its result is the only one of its id. -/
theorem Sound.key_of_recorded (h : Sound runtime) {key key' : ReceiptKey} {id : CallId}
    (hkey : runtime.recordedBy key = some id) (hkey' : runtime.recordedBy key' = some id) : key = key' := by
  obtain ⟨call, _, hcall, rfl, -⟩ := h.recorded key id hkey
  obtain ⟨call', _, hcall', rfl, -⟩ := h.recorded key' id hkey'
  rw [hcall] at hcall'
  cases hcall'
  rfl

/-- What was shown is recorded after the observation as well. -/
theorem recorded_settle {k : Nat} {seen : Observing} (h : Recorded runtime) (hsound : Sound runtime)
    (htimely : Timely runtime seen) : Recorded (runtime.settle k seen) := by
  intro key id position hrecorded hshown result hresult
  rw [settle_recordedBy] at hrecorded
  have hitem : itemAt (runtime.settle k seen).receipts key position = result.results[position]? := by
    rw [itemAt, hresult, Option.bind_some]
  rw [← hitem, itemAt_settle]
  -- the item had succeeded, or this observation settles it
  suffices hsucceeded : Reached runtime seen key position ∨ ∃ item,
      itemAt runtime.receipts key position = some item ∧ item.status = .succeeded by
    by_cases hreached : Reached runtime seen key position
    · exact ⟨settledItem seen, if_pos hreached, rfl⟩
    · obtain ⟨item, hfound, hstatus⟩ := hsucceeded.resolve_left hreached
      exact ⟨item, by rw [if_neg hreached, hfound], hstatus⟩
  by_cases hold : (id, position) ∈ runtime.shown
  · rw [settle_receipts, resultOf_settleWaiting] at hresult
    obtain ⟨before, hbefore, -⟩ := Option.map_eq_some_iff.mp hresult
    obtain ⟨item, hfound, hstatus⟩ := h key id position hrecorded hold before hbefore
    exact .inr ⟨item, by rw [itemAt, hbefore, Option.bind_some, hfound], hstatus⟩
  · rw [settle_shown] at hshown
    obtain ⟨item, hdue, hplace⟩ := List.mem_map.mp ((List.mem_append.mp hshown).resolve_left hold)
    cases hplace
    obtain ⟨hrecorded', hreached⟩ := htimely item hdue hold
    obtain rfl := hsound.key_of_recorded hrecorded hrecorded'
    refine hreached.imp_right fun hsucceeded => ?_
    obtain ⟨found, hfound, hstatus⟩ := (Option.any_eq_true _ _).mp hsucceeded
    exact ⟨found, hfound, of_decide_eq_true hstatus⟩

theorem kept_moves (h : Kept runtime) (hsound : Sound runtime) (hmoves : Moves setup runtime a runtime')
    (htimely : OnSettle (fun runtime _ seen => Timely runtime seen) runtime a) : Kept runtime' := by
  -- a call that has its result keeps it over every move
  have hcontinue : ∀ {id : CallId} {call : Call} {result : ExecuteResult},
      runtime.calls id = some call → call.Settled result →
        ∃ call result, runtime'.calls id = some call ∧ call.Settled result := by
    intro id call result hcall hsettled
    obtain ⟨call', hcall', hcontinues⟩ := hmoves.continues hsound.early hcall
    exact ⟨call', result, hcall', hcontinues.settled result hsettled⟩
  have hshown_old : ∀ {id : CallId} {position : Nat}, (id, position) ∈ runtime.shown →
      ∃ call result, runtime'.calls id = some call ∧ call.Settled result := by
    intro id position hmem
    obtain ⟨call, result, hcall, hsettled⟩ := h.shown id position hmem
    exact hcontinue hcall hsettled
  have hledger := hmoves.ledger
  refine ⟨hledger.keys h.keys, ?_, ?_⟩
  · intro id position hmem
    cases hledger with
    | rest _ _ hshown => rw [hshown] at hmem; exact hshown_old hmem
    | begin _ _ _ _ _ hshown => rw [hshown] at hmem; exact hshown_old hmem
    | complete _ _ _ _ _ hshown => rw [hshown] at hmem; exact hshown_old hmem
    -- only settling shows more: the items that were due, whose calls `Timely` says are recorded
    | settle hseen hsettle =>
      by_cases hold : (id, position) ∈ runtime.shown
      · exact hshown_old hold
      · rw [hsettle, settle_shown] at hmem
        obtain ⟨item, hdue, hplace⟩ := List.mem_map.mp ((List.mem_append.mp hmem).resolve_left hold)
        cases hplace
        obtain ⟨call, result, hcall, -, hsettled⟩ :=
          hsound.recorded _ _ (htimely _ hseen item hdue hold).1
        exact hcontinue hcall hsettled
  · cases hledger with
    | rest hreceipts hrecorded hshown =>
      unfold Recorded
      rw [hreceipts, hrecorded, hshown]
      exact h.recorded
    | begin key' fingerprint nowMs hreceipts hrecorded hshown =>
      intro key id position hid hmem result hresult
      rw [hrecorded] at hid
      rw [hshown] at hmem
      rw [hreceipts] at hresult
      exact h.recorded key id position hid hmem result (resultOf_begin h.keys hresult)
    -- a result is recorded once, and for one key
    | @complete _ i call timing performed timestamps hcall hphase hreceipts hrecorded hshown =>
      intro key id position hid hmem result hresult
      rw [hshown] at hmem
      rw [hrecorded] at hid
      by_cases hkey : key = call.key
      · -- nothing of this call was shown before it had its result
        subst hkey
        rw [Function.update_self] at hid
        cases hid
        obtain ⟨call', settled, hcall', hsettled⟩ := h.shown i position hmem
        rw [hcall] at hcall'
        cases hcall'
        exact absurd hsettled (performed_not_settled hphase settled)
      · rw [Function.update_of_ne hkey] at hid
        rw [hreceipts, resultOf_complete (Ne.symm hkey)] at hresult
        exact h.recorded key id position hid hmem result hresult
    | settle hseen hsettle =>
      rw [hsettle]
      exact recorded_settle h.recorded hsound (htimely _ hseen)

variable (setup)

/-- Over every run of concurrent calls and observations: where each command that an observation
showed in time had its item recorded and among those the observation settles, the item of every
shown command has succeeded once its call has recorded the result. -/
theorem shown_is_recorded (steps : List Step)
    (h : Along (step setup) (OnSettle fun runtime _ seen => Timely runtime seen) {} steps) :
    Recorded (run (step setup) {} steps) := by
  have hstart : Sound {} ∧ Kept {} :=
    ⟨sound_init, List.nodup_nil, (fun _ _ hmem => absurd hmem List.not_mem_nil),
      fun _ _ _ hid => nomatch hid⟩
  have hstep : ∀ (runtime : Runtime) (a : Step), Sound runtime ∧ Kept runtime →
      OnSettle (fun runtime _ seen => Timely runtime seen) runtime a →
        Sound (step setup runtime a) ∧ Kept (step setup runtime a) := by
    rintro runtime a ⟨hsound, hkept⟩ ha
    refine ⟨sound_step hsound a, ?_⟩
    rcases step_moves setup runtime a with hsame | hmoves
    · rw [hsame]
      exact hkept
    · exact kept_moves hkept hsound hmoves ha
  exact (run_inv_along hstep hstart h).2.recorded

theorem shown_is_recorded_lamp : Recorded (run (step lampSetup) {} lampTimeout) :=
  shown_is_recorded lampSetup lampTimeout (by decide +kernel)

/-! ### Observations that settle nothing, or another item -/

/-- A home with a lamp, a fan and a blind. -/
def homeRegistry : Registry where
  devices :=
    [{ deviceId := "lamp", type := "light", providerKind := "virtual", orphaned := false },
     { deviceId := "fan", type := "fan", providerKind := "virtual", orphaned := false },
     { deviceId := "blind", type := "cover", providerKind := "virtual", orphaned := false }]
  scenes := []

/-- A request with these commands. -/
def homeRequest (commands : List Command) : ExecuteRequest where
  requestId := "request-1"
  commands
  origin := { kind := "voice", deviceRef := none }
  deadlineMs := 60000

/-- The key of that request. -/
def homeKey : ReceiptKey := ⟨"alice", "", "request-1"⟩

/-- A request is carried out up to its tasks. -/
def homeCall (commands : List Command) : List Step :=
  [.submit 0 "alice" (homeRequest commands), .enter 0 1000, .perform 0 1000 1000, .lock 0,
   .gather 0 homeRegistry 1010]

/-- The lamp times out and is seen on while the fan is still starting. -/
def fanRuns : List Step :=
  homeCall [⟨"lamp", .on⟩, ⟨"fan", .setSpeed 40⟩] ++
    [.begin 0 0 1010, .begin 0 1 1010, .finish 0 0 16000 .timeout,
     .observe "alice" "lamp" (some { on := some true }) 17000, .settle 0,
     .finish 0 1 18000 (.state { on := some true, speed := some 40 }), .settle 0,
     .collect 0 18000, .record 0 18000, .answer 0]

/-- The observation is processed and the request is completed, and the lamp is unknown. -/
theorem shown_is_lost :
    let runtime := run (step lampSetup) {} fanRuns;
    (0, 0) ∈ runtime.shown ∧ runtime.recordedBy homeKey = some 0 ∧
      itemAt runtime.receipts homeKey 0 = some (unknown ⟨"lamp", .on⟩ (some errorDeadlineExceeded)) ∧
      ¬ Recorded runtime := by
  intro runtime
  have hshown : (0, 0) ∈ runtime.shown := by decide +kernel
  have hrecorded : runtime.recordedBy homeKey = some 0 := by decide +kernel
  have hitem : itemAt runtime.receipts homeKey 0 =
      some (unknown ⟨"lamp", .on⟩ (some errorDeadlineExceeded)) := by decide +kernel
  refine ⟨hshown, hrecorded, hitem, fun h => ?_⟩
  obtain ⟨result, hresult, hfound⟩ := Option.bind_eq_some_iff.mp hitem
  obtain ⟨item, hitem', hstatus⟩ := h homeKey 0 0 hrecorded hshown result hresult
  rw [hfound] at hitem'
  cases hitem'
  cases hstatus

/-- The blind's first command fails in its Provider, its second times out; then it is seen open. -/
def blindOpens : List Step :=
  homeCall [⟨"blind", .setPosition 50⟩, ⟨"blind", .openCover⟩] ++
    [.begin 0 0 1010, .finish 0 0 1500 .raised, .begin 0 1 1500, .finish 0 1 16000 .timeout,
     .collect 0 16000, .record 0 16000, .answer 0,
     .observe "alice" "blind" (some { position := some 100 }) 17000]

/-- The receipt then tells that the first command has succeeded, and the second is unknown. -/
theorem other_item_is_settled :
    let runtime := run (step lampSetup) {} blindOpens;
    let runtime' := step lampSetup runtime (.settle 0);
    (itemAt runtime.receipts homeKey 0).map (·.status) = some .unknown ∧
      (itemAt runtime'.receipts homeKey 0).map (·.status) = some .succeeded ∧
      (itemAt runtime'.receipts homeKey 1).map (·.status) = some .unknown ∧
      ¬ Along (step lampSetup)
        (OnSettle fun runtime k seen => OnlyOwn runtime (runtime.settle k seen) seen) {}
        (blindOpens ++ [.settle 0]) := by
  intro runtime runtime'
  have hbefore : (itemAt runtime.receipts homeKey 0).map (·.status) = some .unknown := by
    decide +kernel
  have hafter : (itemAt runtime'.receipts homeKey 0).map (·.status) = some .succeeded := by
    decide +kernel
  refine ⟨hbefore, hafter, by decide +kernel, fun h => ?_⟩
  have honly : ∀ seen ∈ runtime.observing[0]?, OnlyOwn runtime (runtime.settle 0 seen) seen :=
    along_split h
  obtain ⟨seen, hseen⟩ := Option.isSome_iff_exists.mp
    (show runtime.observing[0]?.isSome = true by decide +kernel)
  have hpending : ∀ seen ∈ runtime.observing[0]?,
      ∀ item ∈ runtime.pending (seen.ownerId, seen.deviceId), item.position ≠ 0 := by decide +kernel
  have hstep : runtime' = runtime.settle 0 seen := by
    show step lampSetup runtime (.settle 0) = _
    simp only [step, hseen]
  rcases (honly seen hseen).2 homeKey 0 with hsame | ⟨-, -, item, hitem, -, -, hposition, -⟩
  · rw [← hstep] at hsame
    rw [hsame, hbefore] at hafter
    cases hafter
  · exact hpending seen hseen item hitem hposition

end Runtime

end EidolonHub.SmartHome
