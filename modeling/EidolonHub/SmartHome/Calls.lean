import EidolonHub.SmartHome.Runtime

/-!
# EidolonHub.SmartHome.Calls

**What a call goes through.** A call keeps its request, its commands keep their places, and
a command that is started is never queued again; a call that has its result keeps it
(`Call.Continues`).

So what points at a command of a call, from the list of executions or from the commands
that wait for an observation, keeps pointing at it (`Sound`).
-/

namespace EidolonHub.SmartHome

open EidolonHub.Library

/-! ### One call -/

/-- The call carried the request out, or was answered from one that did. -/
def Call.Settled (call : Call) (result : ExecuteResult) : Prop :=
  call.phase = .recorded result ∨ call.phase = .answered (.result result)

/-- The registry is not read yet. -/
def CallPhase.early : CallPhase → Bool
  | entering | waiting _ | carrying | admitted _ | reading _ => true
  | running .. | performed .. | recorded _ | answered _ => false

/-- What no step changes of a call: its request, its commands, and its result once it has one. -/
structure Call.Continues (call call' : Call) : Prop where
  ownerId : call'.ownerId = call.ownerId
  request : call'.request = call.request
  tasks : ∀ (position : Nat) (task : Task), call.tasks[position]? = some task →
    ∃ task' : Task, call'.tasks[position]? = some task' ∧ task'.command = task.command ∧
      (task'.phase = .queued → task.phase = .queued)
  settled : ∀ result, call.Settled result → call'.Settled result

namespace Call.Continues

variable {call call' : Call}

theorem refl (call : Call) : call.Continues call :=
  ⟨rfl, rfl, fun _ task htask => ⟨task, htask, rfl, id⟩, fun _ h => h⟩

theorem key (h : call.Continues call') : call'.key = call.key := by
  unfold Call.key
  rw [h.ownerId, h.request]

/-- A call without a result goes to another phase. -/
theorem phase (phase : CallPhase) (h : ∀ result, ¬ call.Settled result) :
    call.Continues { call with phase } :=
  ⟨rfl, rfl, fun _ task htask => ⟨task, htask, rfl, id⟩, fun result hsettled => absurd hsettled (h result)⟩

theorem start (commands : List Command) (phase : CallPhase) (hempty : call.tasks = [])
    (h : ∀ result, ¬ call.Settled result) :
    call.Continues { call with phase, tasks := commands.map fun command => { command } } := by
  refine ⟨rfl, rfl, fun position task htask => ?_, fun result hsettled => absurd hsettled (h result)⟩
  rw [hempty] at htask
  cases htask

theorem task {position : Nat} {task : Task} {phase : TaskPhase}
    (htask : call.tasks[position]? = some task) (hphase : phase ≠ .queued) :
    call.Continues { call with tasks := call.tasks.set position { task with phase } } := by
  refine ⟨rfl, rfl, fun place found hfound => ?_, fun _ h => h⟩
  by_cases hplace : position = place
  · subst hplace
    obtain rfl : task = found := Option.some.inj (htask.symm.trans hfound)
    have hlt := (List.getElem?_eq_some_iff.mp htask).1
    exact ⟨{ task with phase }, List.getElem?_set_self hlt, rfl, fun h => absurd h hphase⟩
  · exact ⟨found, (List.getElem?_set_ne hplace).trans hfound, rfl, id⟩

theorem answer {result : ExecuteResult} (hphase : call.phase = .recorded result) :
    call.Continues { call with phase := .answered (.result result) } := by
  refine ⟨rfl, rfl, fun _ task htask => ⟨task, htask, rfl, id⟩, ?_⟩
  rintro settled (h | h)
  · obtain rfl : settled = result := by simpa [hphase] using h.symm
    exact .inr rfl
  · rw [hphase] at h
    cases h

end Call.Continues

namespace Runtime

variable {setup : Setup} {runtime runtime' : Runtime} {a : Step} {id : CallId} {call : Call}

theorem not_settled (hphase : call.phase.early = true) (result : ExecuteResult) : ¬ call.Settled result := by
  rintro (h | h) <;> rw [h] at hphase <;> cases hphase

theorem running_not_settled {timing : Timing} {registry : Registry}
    (hphase : call.phase = .running timing registry) (result : ExecuteResult) : ¬ call.Settled result := by
  rintro (h | h) <;> rw [h] at hphase <;> cases hphase

theorem performed_not_settled {timing : Timing} {performed : ExecuteResult}
    (hphase : call.phase = .performed timing performed) (result : ExecuteResult) :
    ¬ call.Settled result := by
  rintro (h | h) <;> rw [h] at hphase <;> cases hphase

/-! ### One step -/

/-- The tasks of a call that did not read the registry are not there. -/
def Early (runtime : Runtime) : Prop :=
  ∀ id call, runtime.calls id = some call → call.phase.early = true → call.tasks = []

theorem continues_update {i : CallId} {old new : Call} (hold : runtime.calls i = some old)
    (h : old.Continues new) (hcall : runtime.calls id = some call) :
    ∃ call', Function.update runtime.calls i (some new) id = some call' ∧ call.Continues call' := by
  by_cases hi : id = i
  · subst hi
    obtain rfl : old = call := Option.some.inj (hold.symm.trans hcall)
    exact ⟨new, Function.update_self _ _ _, h⟩
  · exact ⟨call, by rw [Function.update_of_ne hi, hcall], .refl call⟩

theorem report_calls (runtime : Runtime) (i : CallId) (position : Nat) :
    runtime.report i position = runtime ∨ ∃ old task item, runtime.calls i = some old ∧
      old.tasks[position]? = some task ∧ task.phase = .observing item ∧
      runtime.report i position = runtime.setTask i old position task (.done item) := by
  unfold report
  split
  · exact .inl rfl
  · next old hold =>
    split
    · next task htask =>
      split
      · next item hitem => exact .inr ⟨old, task, item, hold, htask, hitem, rfl⟩
      · exact .inl rfl
    · exact .inl rfl

/-- What is settled, before the task that reported it is done. -/
def settled (runtime : Runtime) (k : Nat) (seen : Observing) : Runtime :=
  let home := (seen.ownerId, seen.deviceId)
  let (receipts, remaining) :=
    settleWaiting seen.ownerId seen.deviceId seen.state seen.nowMs runtime.receipts (runtime.pending home)
  { runtime with
    receipts
    pending := Function.update runtime.pending home remaining
    observing := runtime.observing.eraseIdx k
    shown := runtime.shown ++ seen.due.map fun item => (item.call, item.position) }

/-- Only a call differs from what is settled. -/
theorem settle_eq (runtime : Runtime) (k : Nat) (seen : Observing) :
    ∃ calls, runtime.settle k seen = { runtime.settled k seen with calls } ∧
      (calls = runtime.calls ∨ ∃ i old position task item, runtime.calls i = some old ∧
        old.tasks[position]? = some task ∧ task.phase = .observing item ∧
        calls = Function.update runtime.calls i
          (some { old with tasks := old.tasks.set position { task with phase := .done item } })) := by
  cases hreporter : seen.reporter with
  | none =>
    have hsettle : runtime.settle k seen = runtime.settled k seen := by
      unfold settle
      rw [hreporter]
      rfl
    exact ⟨runtime.calls, hsettle, .inl rfl⟩
  | some place =>
    have hsettle : runtime.settle k seen = (runtime.settled k seen).report place.1 place.2 := by
      unfold settle
      rw [hreporter]
      rfl
    rw [hsettle]
    rcases report_calls (runtime.settled k seen) place.1 place.2 with
      h | ⟨old, task, item, hold, htask, hitem, h⟩
    · exact ⟨runtime.calls, h, .inl rfl⟩
    · exact ⟨_, h, .inr ⟨place.1, old, place.2, task, item, hold, htask, hitem, rfl⟩⟩

theorem settle_calls {k : Nat} {seen : Observing} (hcall : runtime.calls id = some call) :
    ∃ call', (runtime.settle k seen).calls id = some call' ∧ call.Continues call' := by
  obtain ⟨calls, hsettle, rfl | ⟨i, old, position, task, item, hold, htask, -, rfl⟩⟩ :=
    settle_eq runtime k seen
  · rw [hsettle]
    exact ⟨call, hcall, .refl call⟩
  · rw [hsettle]
    exact continues_update hold (.task htask nofun) hcall

/-- A call goes on through every step. -/
theorem Moves.continues (h : Moves setup runtime a runtime') (hearly : Early runtime)
    (hcall : runtime.calls id = some call) :
    ∃ call', runtime'.calls id = some call' ∧ call.Continues call' := by
  cases h with
  -- a new call is another one
  | @submit i ownerId request hnew =>
    have hne : id ≠ i := by
      rintro rfl
      rw [hnew] at hcall
      cases hcall
    refine ⟨call, ?_, .refl call⟩
    exact (Function.update_of_ne hne _ _).trans hcall
  -- every other move is made by one call, which keeps its result if it has one
  | conflict hold hphase =>
    exact continues_update hold (.phase _ (not_settled (by rw [hphase]; rfl))) hcall
  | repeats hold hphase =>
    exact continues_update hold (.phase _ (not_settled (by rw [hphase]; rfl))) hcall
  | waits hold hphase =>
    exact continues_update hold (.phase _ (not_settled (by rw [hphase]; rfl))) hcall
  | carries hold hphase =>
    exact continues_update hold (.phase _ (not_settled (by rw [hphase]; rfl))) hcall
  | late hold hphase =>
    exact continues_update hold (.phase _ (not_settled (by rw [hphase]; rfl))) hcall
  | inTime hold hphase =>
    exact continues_update hold (.phase _ (not_settled (by rw [hphase]; rfl))) hcall
  | lock hold hphase =>
    exact continues_update hold (.phase _ (not_settled (by rw [hphase]; rfl))) hcall
  | @start i old _ _ _ commands hold hphase =>
    have hstarts : old.phase.early = true := by rw [hphase]; rfl
    exact continues_update hold (.start commands _ (hearly i old hold hstarts) (not_settled hstarts)) hcall
  | noScene hold hphase =>
    exact continues_update hold (.phase _ (not_settled (by rw [hphase]; rfl))) hcall
  | raise hold hphase =>
    exact continues_update hold (.phase _ (not_settled (by rw [hphase]; rfl))) hcall
  | decline code hold _ htask => exact continues_update hold (.task htask nofun) hcall
  | execute _ hold _ htask => exact continues_update hold (.task htask nofun) hcall
  | close _ _ hold _ htask => exact continues_update hold (.task htask nofun) hcall
  | expire _ hold _ htask => exact continues_update hold (.task htask nofun) hcall
  | report _ _ _ hold _ htask => exact continues_update hold (.task htask nofun) hcall
  | collect hold hphase => exact continues_update hold (.phase _ (running_not_settled hphase)) hcall
  | record hold hphase => exact continues_update hold (.phase _ (performed_not_settled hphase)) hcall
  | answer hold hphase => exact continues_update hold (.answer hphase) hcall
  | wake hold hphase =>
    exact continues_update hold (.phase _ (not_settled (by rw [hphase]; rfl))) hcall
  | observe => exact ⟨call, hcall, .refl call⟩
  | settle hseen => exact settle_calls hcall
  | forget => exact ⟨call, hcall, .refl call⟩

/-! ### What points at commands of calls -/

/-- A command of a call of the key is started at the position. -/
def Placed (runtime : Runtime) (id : CallId) (key : ReceiptKey) (position : Nat) (command : Command) :
    Prop :=
  ∃ call task, runtime.calls id = some call ∧ call.key = key ∧
    call.tasks[position]? = some task ∧ task.command = command ∧ task.phase ≠ .queued

theorem Moves.placed (h : Moves setup runtime a runtime') (hearly : Early runtime)
    {key : ReceiptKey} {position : Nat} {command : Command}
    (hplaced : Placed runtime id key position command) : Placed runtime' id key position command := by
  obtain ⟨call, task, hcall, hkey, htask, hcommand, hstarted⟩ := hplaced
  obtain ⟨call', hcall', hcontinues⟩ := h.continues hearly hcall
  obtain ⟨task', htask', hcommand', hstarted'⟩ := hcontinues.tasks position task htask
  exact ⟨call', task', hcall', hcontinues.key.trans hkey, htask', hcommand'.trans hcommand,
    fun hqueued => hstarted (hstarted' hqueued)⟩

/-- The task that is set is in its place. -/
theorem placed_setTask {position : Nat} {task : Task} {phase : TaskPhase}
    (htask : call.tasks[position]? = some task) (hphase : phase ≠ .queued) :
    Placed (runtime.setTask id call position task phase) id call.key position task.command := by
  have hlt := (List.getElem?_eq_some_iff.mp htask).1
  exact ⟨_, { task with phase }, Function.update_self _ _ _, rfl, List.getElem?_set_self hlt, rfl, hphase⟩

theorem Moves.executed (h : Moves setup runtime a runtime') :
    runtime'.executed = runtime.executed ∨ ∃ id call position task,
      runtime.calls id = some call ∧ call.tasks[position]? = some task ∧ task.phase = .queued ∧
      Placed runtime' id call.key position task.command ∧
      runtime'.executed = runtime.executed ++ [⟨id, position, call.key, task.command⟩] := by
  cases h with
  | @execute id call _ _ position task _ _ hcall _ htask hqueued =>
    exact .inr ⟨id, call, position, task, hcall, htask, hqueued, placed_setTask htask nofun, rfl⟩
  | settle hseen =>
    obtain ⟨calls, hsettle, -⟩ := settle_eq runtime _ _
    rw [hsettle]
    exact .inl rfl
  | _ => exact .inl rfl

theorem settleWaiting_pending {ownerId : OwnerId} {deviceId : DeviceId} {state : Option DeviceState}
    {nowMs : Millis} {receipts : List Receipt} {waiting : List Pending} :
    (settleWaiting ownerId deviceId state nowMs receipts waiting).2 =
      waiting.filter fun item => nowMs < item.expiresAtMs ∧ item.settledBy state nowMs = false := by
  induction waiting generalizing receipts with
  | nil => rfl
  | cons item waiting ih =>
    unfold settleWaiting
    by_cases hexpired : item.expiresAtMs ≤ nowMs
    · rw [if_pos hexpired, ih, List.filter_cons_of_neg]
      simp [Int.not_lt.mpr hexpired]
    · rw [if_neg hexpired]
      by_cases hsettled : item.settledBy state nowMs
      · rw [if_pos hsettled, ih, List.filter_cons_of_neg]
        simp [hsettled]
      · rw [if_neg hsettled, List.filter_cons_of_pos, ← ih]
        simpa [Int.not_le.mp hexpired] using hsettled

theorem Moves.pending (h : Moves setup runtime a runtime') {home : OwnerId × DeviceId}
    {item : Pending} (hitem : item ∈ runtime'.pending home) : item ∈ runtime.pending home ∨
      (home.2 = item.command.deviceId ∧
        Placed runtime' item.call (item.key home.1) item.position item.command) := by
  cases h with
  | @expire id call _ _ position task nowMs _ hcall _ htask =>
    replace hitem : item ∈ Function.update runtime.pending _ _ _ := hitem
    by_cases hhome : home = (call.ownerId, task.command.deviceId)
    · subst hhome
      rw [Function.update_self] at hitem
      rcases List.mem_append.mp hitem with hold | hnew
      · exact .inl hold
      · rw [List.mem_singleton.mp hnew]
        exact .inr ⟨rfl, placed_setTask htask nofun⟩
    · rw [Function.update_of_ne hhome] at hitem
      exact .inl hitem
  | @settle k seen hseen =>
    obtain ⟨calls, hsettle, -⟩ := settle_eq runtime k seen
    rw [hsettle] at hitem
    replace hitem : item ∈ Function.update runtime.pending _ _ _ := hitem
    by_cases hhome : home = (seen.ownerId, seen.deviceId)
    · subst hhome
      rw [Function.update_self, settleWaiting_pending] at hitem
      exact .inl (List.mem_of_mem_filter hitem)
    · rw [Function.update_of_ne hhome] at hitem
      exact .inl hitem
  | _ => exact .inl hitem

theorem Moves.recordedBy (h : Moves setup runtime a runtime') :
    runtime'.recordedBy = runtime.recordedBy ∨ ∃ id call timing result,
      runtime.calls id = some call ∧ call.phase = .performed timing result ∧
      runtime'.calls id = some { call with phase := .recorded result } ∧
      runtime'.recordedBy = Function.update runtime.recordedBy call.key (some id) := by
  cases h with
  | @record id call timing result _ hcall hphase =>
    exact .inr ⟨id, call, timing, result, hcall, hphase, Function.update_self _ _ _, rfl⟩
  | settle hseen =>
    obtain ⟨calls, hsettle, -⟩ := settle_eq runtime _ _
    rw [hsettle]
    exact .inl rfl
  | _ => exact .inl rfl

theorem early_of_update {i : CallId} {new : Call} (hearly : Early runtime)
    (hcalls : runtime'.calls = Function.update runtime.calls i (some new))
    (hnew : new.phase.early = true → new.tasks = []) : Early runtime' := by
  intro id call hcall hphase
  rw [hcalls] at hcall
  by_cases hi : id = i
  · subst hi
    rw [Function.update_self] at hcall
    cases hcall
    exact hnew hphase
  · rw [Function.update_of_ne hi] at hcall
    exact hearly id call hcall hphase

theorem early_of_phase {i : CallId} {old : Call} {phase : CallPhase} (hearly : Early runtime)
    (hold : runtime.calls i = some old) (hphase : old.phase.early = true)
    (hcalls : runtime'.calls = Function.update runtime.calls i (some { old with phase })) :
    Early runtime' :=
  early_of_update hearly hcalls fun _ => hearly i old hold hphase

theorem Moves.early (h : Moves setup runtime a runtime') (hearly : Early runtime) :
    Early runtime' := by
  cases h with
  | submit hnew => exact early_of_update hearly rfl fun _ => rfl
  | conflict hold hphase => exact early_of_update hearly rfl nofun
  | repeats hold hphase => exact early_of_update hearly rfl nofun
  | waits hold hphase =>
    exact early_of_phase hearly hold (by rw [hphase]; rfl) rfl
  | carries hold hphase =>
    exact early_of_phase hearly hold (by rw [hphase]; rfl) rfl
  | late hold hphase => exact early_of_update hearly rfl nofun
  | inTime hold hphase =>
    exact early_of_phase hearly hold (by rw [hphase]; rfl) rfl
  | lock hold hphase =>
    exact early_of_phase hearly hold (by rw [hphase]; rfl) rfl
  | start commands hold hphase => exact early_of_update hearly rfl nofun
  | noScene hold hphase => exact early_of_update hearly rfl nofun
  | raise hold hphase => exact early_of_update hearly rfl nofun
  | decline _ hold hphase =>
    exact early_of_update hearly rfl fun h => by rw [hphase] at h; cases h
  | execute _ hold hphase =>
    exact early_of_update hearly rfl fun h => by rw [hphase] at h; cases h
  | close _ _ hold hphase =>
    exact early_of_update hearly rfl fun h => by rw [hphase] at h; cases h
  | expire _ hold hphase =>
    exact early_of_update hearly rfl fun h => by rw [hphase] at h; cases h
  | report _ _ _ hold hphase =>
    exact early_of_update hearly rfl fun h => by rw [hphase] at h; cases h
  | collect hold hphase => exact early_of_update hearly rfl nofun
  | record hold hphase => exact early_of_update hearly rfl nofun
  | answer hold hphase => exact early_of_update hearly rfl nofun
  | wake hold hphase => exact early_of_update hearly rfl nofun
  | observe => exact hearly
  -- settling touches a call that has commands, so it is not an early one
  | @settle k seen hseen =>
    obtain ⟨calls, hsettle, rfl | ⟨i, old, position, task, item, hold, htask, -, rfl⟩⟩ :=
      settle_eq runtime k seen
    · rw [hsettle]
      exact hearly
    · rw [hsettle]
      refine early_of_update hearly rfl fun h => ?_
      have hempty := hearly i old hold h
      rw [hempty] at htask
      cases htask
  | forget => exact hearly

/-- Every execution and every command that waits is a started command of its call, no command
is executed twice, and what a receipt holds is the result of a call of its key. -/
structure Sound (runtime : Runtime) : Prop where
  early : Early runtime
  executed : ∀ e ∈ runtime.executed, Placed runtime e.call e.key e.position e.command
  once : (runtime.executed.map fun e => (e.call, e.position)).Nodup
  pending : ∀ home, ∀ item ∈ runtime.pending home, home.2 = item.command.deviceId ∧
    Placed runtime item.call (item.key home.1) item.position item.command
  recorded : ∀ key id, runtime.recordedBy key = some id →
    ∃ call result, runtime.calls id = some call ∧ call.key = key ∧ call.Settled result

theorem sound_init : Sound {} where
  early := fun _ _ hcall => nomatch hcall
  executed := fun _ he => absurd he List.not_mem_nil
  once := List.nodup_nil
  pending := fun _ _ hitem => absurd hitem List.not_mem_nil
  recorded := fun _ _ hid => nomatch hid

theorem Sound.moves (h : Sound runtime) (hmoves : Moves setup runtime a runtime') : Sound runtime' where
  early := hmoves.early h.early
  executed := by
    intro e he
    rcases hmoves.executed with hsame | ⟨id, call, position, task, -, -, -, hplaced, hnew⟩
    · rw [hsame] at he
      exact hmoves.placed h.early (h.executed e he)
    · rw [hnew] at he
      rcases List.mem_append.mp he with he | he
      · exact hmoves.placed h.early (h.executed e he)
      · rw [List.mem_singleton.mp he]
        exact hplaced
  once := by
    rcases hmoves.executed with hsame | ⟨id, call, position, task, hcall, htask, hqueued, -, hnew⟩
    · rw [hsame]
      exact h.once
    · rw [hnew, List.map_append, List.map_singleton, List.nodup_append]
      refine ⟨h.once, List.nodup_singleton _, ?_⟩
      intro x hx y hy heq
      rw [List.mem_singleton.mp hy] at heq
      obtain ⟨e, he, rfl⟩ := List.mem_map.mp hx
      obtain ⟨hid, hposition⟩ := Prod.mk.injEq .. ▸ heq
      -- what was executed is not queued any more
      obtain ⟨call', task', hcall', -, htask', -, hstarted⟩ := h.executed e he
      rw [hid, hcall] at hcall'
      cases hcall'
      rw [hposition, htask] at htask'
      cases htask'
      exact hstarted hqueued
  pending := by
    intro home item hitem
    rcases hmoves.pending hitem with hold | hnew
    · obtain ⟨hdevice, hplaced⟩ := h.pending home item hold
      exact ⟨hdevice, hmoves.placed h.early hplaced⟩
    · exact hnew
  recorded := by
    intro key id hid
    have hkeep : runtime.recordedBy key = some id →
        ∃ call result, runtime'.calls id = some call ∧ call.key = key ∧ call.Settled result := by
      intro hid
      obtain ⟨call, result, hcall, hkey, hsettled⟩ := h.recorded key id hid
      obtain ⟨call', hcall', hcontinues⟩ := hmoves.continues h.early hcall
      exact ⟨call', result, hcall', hcontinues.key.trans hkey, hcontinues.settled result hsettled⟩
    rcases hmoves.recordedBy with hsame | ⟨i, call, timing, result, -, -, hcall', hnew⟩
    · rw [hsame] at hid
      exact hkeep hid
    · rw [hnew] at hid
      by_cases hkey : key = call.key
      · subst hkey
        rw [Function.update_self] at hid
        obtain rfl : i = id := Option.some.inj hid
        exact ⟨_, result, hcall', rfl, .inl rfl⟩
      · rw [Function.update_of_ne hkey] at hid
        exact hkeep hid

theorem sound_step (h : Sound runtime) (a : Step) : Sound (step setup runtime a) := by
  rcases step_moves setup runtime a with hsame | hmoves
  · rw [hsame]
    exact h
  · exact h.moves hmoves

theorem sound_run (steps : List Step) : Sound (run (step setup) {} steps) :=
  run_inv (I := Sound) (fun _ a h => sound_step h a) sound_init steps

end Runtime

end EidolonHub.SmartHome
