import EidolonHub.SmartHome.Connection

/-!
# EidolonHub.SmartHome.Observer

**Who reopens a lost Home Assistant connection.** A reader of its own notices that a WebSocket
is gone. Reopening it is up to the account's observer, and that looks at the connection between
two changes only: while it waits for the next one, it waits for the reader to hand it over.

A connection that is lost meanwhile stays lost (`lost_while_waiting`). Where every loss finds
the observer with a look at the connection ahead of it, a bound account always gets to a reopen
(`account_reconnects`).
-/

namespace EidolonHub.SmartHome

open EidolonHub.Library

/-- One connection of an account, of those it has had. -/
abbrev ConnectionId := Nat

/-- What a reader puts into the queues of those who listen. -/
abbrev Change (S : Type) := EntityId × Option S

/-- What the tasks around it see of an `HaConnection`. -/
structure Wire where
  /-- `connected`: `_ws` is there and not closed. -/
  connected : Bool := false
  /-- The `_read` tasks that have not ended. -/
  readers : Nat := 0

/-- Where the task of `AccountService._observe` is. -/
inductive ObserverPhase (S : Type) where
  /-- It looks the connection up when it first runs. -/
  | created
  /-- In `open`, before there is a WebSocket. -/
  | connecting (c : ConnectionId)
  /-- In `open`, with a request that was sent, and whether it was accepted. -/
  | requesting (c : ConnectionId) (request : OpeningRequest) (reply : Option Bool)
  /-- Reports the account as connected, and the states it was opened with. -/
  | announcing (c : ConnectionId)
  /-- Reports the account as degraded, and sleeps. -/
  | backingOff (c : ConnectionId)
  /-- In `queue.get()`. -/
  | waiting (c : ConnectionId) (queue : List (Change S))
  /-- Has been handed a change; these are left. -/
  | handling (c : ConnectionId) (queue : List (Change S))
  /-- Returned, raised or was cancelled. -/
  | done

/-- One account: what it is bound to, and who works on it. -/
structure AccountTasks (S : Type) where
  /-- `_connections[account_id]`. -/
  bound : Option ConnectionId := none
  wire : ConnectionId → Wire := fun _ => {}
  observer : ObserverPhase S := .done
  /-- Opened by a `bind` that has not stored it yet. -/
  opened : List ConnectionId := []
  /-- The `bind`s that have stored their connection and not called `_observe` yet. -/
  binding : Nat := 0
  nextId : ConnectionId := 0

namespace ObserverPhase

variable {S : Type}

/-- The connection `observe` holds on to. -/
def connection : ObserverPhase S → Option ConnectionId
  | created | done => none
  | connecting c | requesting c _ _ | announcing c | backingOff c | waiting c _ | handling c _ => some c

/-- A change is queued; the oldest makes room in a queue that is full. -/
def enqueue (queue : List (Change S)) (change : Change S) : List (Change S) :=
  if queue.length = 1024 then queue.tail ++ [change] else queue ++ [change]

/-- A change that the reader of `c` puts into the queues. -/
def hear (c : ConnectionId) (change : Change S) : ObserverPhase S → ObserverPhase S
  | waiting c' queue => waiting c' (if c' = c then enqueue queue change else queue)
  | handling c' queue => handling c' (if c' = c then enqueue queue change else queue)
  | phase => phase

/-- A pending request on `c` gets its answer, or an exception. -/
def answer (c : ConnectionId) (accepted : Bool) : ObserverPhase S → ObserverPhase S
  | requesting c' request none => requesting c' request (if c' = c then some accepted else none)
  | phase => phase

/-- It does not look at the connection before the next change. -/
def awaitsChange (c : ConnectionId) : ObserverPhase S → Bool
  | requesting c' request reply => c' = c ∧ request = .subscribeEvents ∧ reply = some true
  | announcing c' => c' = c
  | waiting c' queue => c' = c ∧ queue.isEmpty
  | _ => false

end ObserverPhase

/-- The request that `open` makes after this one. -/
def OpeningRequest.next : OpeningRequest → Option OpeningRequest
  | getConfig => some getStates
  | getStates => some subscribeEvents
  | subscribeEvents => none

/-- What can happen next. -/
inductive TaskStep (S : Type) where
  | changed (c : ConnectionId) (change : Change S)
  | answered (c : ConnectionId) (accepted : Bool)
  | lost (c : ConnectionId)
  /-- A reader is through with a WebSocket that is closed. -/
  | readerEnded (c : ConnectionId)
  /-- A reader stops on what it cannot read. -/
  | readerRaised (c : ConnectionId)
  /-- The observer goes on; `reached` is what became of `ws_connect` and the handshake. -/
  | observer (reached : Bool)
  /-- What `observe` does not catch: a request that times out, storage that is gone. -/
  | observerRaised
  | bindOpened
  | bindStored (c : ConnectionId)
  | observed
  | bindRaised
  | unbound

namespace AccountTasks

variable {S : Type} (t : AccountTasks S)

/-- A connection comes to another state. -/
def setWire (c : ConnectionId) (wire : Wire) : AccountTasks S :=
  { t with wire := Function.update t.wire c wire }

/-- The head of the loop in `observe`. -/
def look (c : ConnectionId) : ObserverPhase S :=
  if t.bound.isNone then .done
  else if (t.wire c).connected then .waiting c []
  else .connecting c

/-- What the observer does next, where it has what it waits for. -/
def proceed : ObserverPhase S → ObserverPhase S
  | .created =>
    match t.bound with
    | none => .done
    | some c => t.look c
  | .requesting c request (some true) =>
    match request.next with
    | none => .announcing c
    | some next => if (t.wire c).connected then .requesting c next none else .backingOff c
  | .requesting c _ (some false) => .backingOff c
  | .announcing c => .waiting c []
  | .backingOff c => t.look c
  | .waiting c (_ :: queue) => .handling c queue
  | .handling c queue => if (t.wire c).connected then .waiting c queue else t.look c
  | phase => phase

/-- The observer runs until it waits for something. -/
def resume (reached : Bool) : AccountTasks S :=
  match t.observer with
  | .connecting c =>
    if reached then
      { t.setWire c ⟨true, (t.wire c).readers + 1⟩ with observer := .requesting c .getConfig none }
    else { t with observer := .backingOff c }
  | phase => { t with observer := t.proceed phase }

/-- One of the readers of `c` is gone, and with it what was asked on `c`. -/
def endReader (c : ConnectionId) : AccountTasks S :=
  { t.setWire c { t.wire c with readers := (t.wire c).readers - 1 } with
    observer := t.observer.answer c false }

/-- `close`. -/
def close (c : ConnectionId) : AccountTasks S :=
  { t.setWire c { t.wire c with connected := false } with observer := t.observer.answer c false }

/-- `_connections.pop`, and `close` of what was there. -/
def drop : AccountTasks S :=
  match t.bound with
  | none => t
  | some c => { t.close c with bound := none }

/-- A step of one of the tasks of an account. -/
def step : TaskStep S → AccountTasks S
  | .changed c change =>
    if 0 < (t.wire c).readers then { t with observer := t.observer.hear c change } else t
  | .answered c accepted =>
    if 0 < (t.wire c).readers then { t with observer := t.observer.answer c accepted } else t
  | .lost c => t.setWire c { t.wire c with connected := false }
  | .readerEnded c => if !(t.wire c).connected ∨ 1 < (t.wire c).readers then t.endReader c else t
  | .readerRaised c => t.endReader c
  | .observer reached => t.resume reached
  | .observerRaised => { t with observer := .done }
  | .bindOpened =>
    { t.drop.setWire t.nextId ⟨true, 1⟩ with opened := t.nextId :: t.opened, nextId := t.nextId + 1 }
  | .bindStored c =>
    if c ∈ t.opened then
      { t with bound := some c, opened := t.opened.erase c, binding := t.binding + 1 }
    else t
  | .observed =>
    if t.binding = 0 then t
    else
      let t := { t with binding := t.binding - 1 }
      match t.observer with
      | .done => { t with observer := .created }
      | _ => t
  | .bindRaised => { t with binding := t.binding - 1 }
  | .unbound => { t.drop with observer := .done }

end AccountTasks

/-- The steps that need nothing from outside the process. -/
def TaskStep.own {S : Type} : TaskStep S → Bool
  | readerEnded _ | observer _ | observed => true
  | _ => false

namespace AccountTasks

variable {S : Type} (t : AccountTasks S)

/-- The tasks get to a reopen of `c` by themselves. -/
def Reopens (c : ConnectionId) : Prop :=
  ∃ steps : List (TaskStep S), (∀ s ∈ steps, s.own = true) ∧ (run step t steps).observer = .connecting c

/-- **No bound account is left without a reconnect.** -/
structure Recovers : Prop where
  reopens : ∀ c, t.bound = some c → (t.wire c).connected = false → t.Reopens c
  /-- Whoever waits for a change has a reader to wait for. -/
  delivered : ∀ c, t.observer = .waiting c [] → 0 < (t.wire c).readers

/-! ### When the observer looks -/

/-- The observer of `c` is there, or a `bind` is about to start it. -/
def attended (c : ConnectionId) : Bool :=
  match t.observer with
  | .created => true
  | .done => 0 < t.binding
  | phase => phase.connection = some c

/-- A loss, a rebind or an exception that leaves the observer with a look at the connection. -/
def Attentive : TaskStep S → Prop
  | .lost c => t.observer.awaitsChange c = false ∧ (t.bound = some c → t.attended c = true)
  | .answered c accepted =>
    (t.observer.answer c accepted).awaitsChange c = true → (t.wire c).connected = true
  | .readerRaised c => (t.wire c).connected = true → 1 < (t.wire c).readers
  | .observerRaised => ∀ c, t.bound = some c → (t.wire c).connected = true ∨ 0 < t.binding
  | .bindOpened => ∀ c, t.bound = some c → t.observer.awaitsChange c = false
  | .bindStored c => (t.wire c).connected = true ∨ t.observer.connection = none
  | .bindRaised => ∀ c, t.bound = some c →
    (t.wire c).connected = true ∨ ({ t with binding := t.binding - 1 } : AccountTasks S).attended c = true
  | _ => True

/-- What holds between two steps of such a run. -/
structure Watched : Prop where
  reading : ∀ c, (t.wire c).connected = true → 0 < (t.wire c).readers
  aware : ∀ c, t.observer.awaitsChange c = true → (t.wire c).connected = true
  asked : ∀ c request, t.observer = .requesting c request none → 0 < (t.wire c).readers
  attended : ∀ c, t.bound = some c → (t.wire c).connected = false → t.attended c = true

end AccountTasks

/-! ### What the others leave of a phase -/

namespace ObserverPhase

variable {S : Type} {phase : ObserverPhase S} {c c' : ConnectionId}

theorem enqueue_ne_nil (queue : List (Change S)) (change : Change S) :
    (enqueue queue change).isEmpty = false := by
  unfold enqueue
  split <;> simp

theorem awaitsChange_of_hear {change : Change S} (h : (phase.hear c change).awaitsChange c' = true) :
    phase.awaitsChange c' = true := by
  cases phase with
  | waiting c₀ queue =>
    by_cases hc : c₀ = c
    · -- with this change in its queue it does not wait any more
      simp [hear, awaitsChange, hc, enqueue_ne_nil] at h
    · simpa [hear, awaitsChange, hc] using h
  | _ => exact h

theorem requesting_of_hear {change : Change S} {request : OpeningRequest}
    (h : phase.hear c change = .requesting c' request none) : phase = .requesting c' request none := by
  cases phase with
  | waiting c₀ queue => cases h
  | handling c₀ queue => cases h
  | _ => exact h

theorem awaitsChange_of_refused (h : (phase.answer c false).awaitsChange c' = true) :
    phase.awaitsChange c' = true := by
  cases phase with
  | requesting c₀ request reply =>
    cases reply with
    | none => by_cases hc : c₀ = c <;> simp [answer, awaitsChange, hc] at h
    | some accepted => exact h
  | _ => exact h

theorem awaitsChange_of_answer {accepted : Bool} (hc : c' ≠ c)
    (h : (phase.answer c accepted).awaitsChange c' = true) : phase.awaitsChange c' = true := by
  cases phase with
  | requesting c₀ request reply =>
    cases reply with
    | none =>
      have hc₀ : c₀ = c' := (of_decide_eq_true h).1
      have hne : c₀ ≠ c := fun heq => hc (hc₀.symm.trans heq)
      simpa [answer, hne] using h
    | some reply => exact h
  | _ => exact h

/-- Who still waits for an answer waits for one from elsewhere. -/
theorem requesting_of_answer {accepted : Bool} {request : OpeningRequest}
    (h : phase.answer c accepted = .requesting c' request none) :
    phase = .requesting c' request none ∧ c' ≠ c := by
  cases phase with
  | requesting c₀ request₀ reply =>
    cases reply with
    | none =>
      by_cases hc : c₀ = c
      · simp [answer, hc] at h
      · simp only [answer, hc, if_false, requesting.injEq, and_true] at h
        exact ⟨by rw [h.1, h.2], h.1 ▸ hc⟩
    | some reply => cases h
  | _ => cases h

end ObserverPhase

namespace AccountTasks

variable {S : Type} {t : AccountTasks S} {c c' : ConnectionId}

@[simp] theorem attended_hear {change : Change S} :
    ({ t with observer := t.observer.hear c change } : AccountTasks S).attended c' = t.attended c' := by
  unfold attended
  cases t.observer <;> rfl

@[simp] theorem attended_answer {accepted : Bool} :
    ({ t with observer := t.observer.answer c accepted } : AccountTasks S).attended c' =
      t.attended c' := by
  unfold attended
  cases t.observer with
  | requesting c₀ request reply => cases reply <;> rfl
  | _ => rfl

/-- Who holds on to a connection attends to it and to no other. -/
theorem attended_iff (h : t.observer.connection = some c) : t.attended c' = true ↔ c' = c := by
  have hconnection : t.attended c' = decide (t.observer.connection = some c') := by
    unfold attended
    cases hphase : t.observer with
    | created => simp [hphase, ObserverPhase.connection] at h
    | done => simp [hphase, ObserverPhase.connection] at h
    | _ => rfl
  rw [hconnection, decide_eq_true_eq, h, Option.some.injEq, eq_comm]

/-! ### One step -/

/-- The observer goes on, and nothing else changes. -/
theorem Watched.goOn (h : t.Watched) {phase : ObserverPhase S}
    (haware : ∀ c, phase.awaitsChange c = true → (t.wire c).connected = true)
    (hasked : ∀ c request, phase = .requesting c request none → 0 < (t.wire c).readers)
    (hattended : ∀ c, t.bound = some c → (t.wire c).connected = false → t.attended c = true →
      ({ t with observer := phase } : AccountTasks S).attended c = true) :
    ({ t with observer := phase } : AccountTasks S).Watched where
  reading := h.reading
  aware := haware
  asked := hasked
  attended c hbound hlost := hattended c hbound hlost (h.attended c hbound hlost)

/-- Another state of one WebSocket. -/
theorem Watched.setWire (h : t.Watched) {wire : Wire}
    (hreading : wire.connected = true → 0 < wire.readers)
    (haware : t.observer.awaitsChange c = true → wire.connected = true)
    (hasked : ∀ request, t.observer = .requesting c request none → 0 < wire.readers)
    (hattended : t.bound = some c → wire.connected = false → t.attended c = true) :
    (t.setWire c wire).Watched := by
  have hwire : ∀ c', (t.setWire c wire).wire c' = if c' = c then wire else t.wire c' :=
    fun c' => Function.update_apply ..
  refine ⟨fun c' => ?_, fun c' => ?_, fun c' request => ?_, fun c' => ?_⟩
  all_goals
    rw [hwire]
    split
  · exact hreading
  · exact h.reading c'
  · next hc => exact hc ▸ haware
  · exact h.aware c'
  · next hc => exact hc ▸ hasked request
  · exact h.asked c' request
  · next hc => exact hc ▸ hattended
  · exact h.attended c'

/-- What was asked on `c` is refused, if it had no answer yet. -/
theorem Watched.refuse (h : t.Watched) (c : ConnectionId) :
    ({ t with observer := t.observer.answer c false } : AccountTasks S).Watched := by
  refine h.goOn ?_ ?_ ?_
  · exact fun c' hawaits => h.aware c' (ObserverPhase.awaitsChange_of_refused hawaits)
  · exact fun c' request hasks => h.asked c' request (ObserverPhase.requesting_of_answer hasks).1
  · intro c' _ _ hattended
    rwa [attended_answer]

/-- It goes on with the same connection. -/
theorem Watched.stay (h : t.Watched) {phase : ObserverPhase S} (hbefore : t.observer.connection = some c)
    (hafter : phase.connection = some c)
    (haware : ∀ c, phase.awaitsChange c = true → (t.wire c).connected = true)
    (hasked : ∀ c request, phase = .requesting c request none → 0 < (t.wire c).readers) :
    ({ t with observer := phase } : AccountTasks S).Watched := by
  refine h.goOn haware hasked fun c' _ _ hattended => ?_
  exact (attended_iff hafter).mpr ((attended_iff hbefore).mp hattended)

/-- It asks for something else, where it still can. -/
theorem Watched.ask (h : t.Watched) {request : OpeningRequest} (hbefore : t.observer.connection = some c) :
    ({ t with observer := if (t.wire c).connected then .requesting c request none else .backingOff c } :
      AccountTasks S).Watched := by
  split
  · next hconnected =>
    refine h.stay hbefore rfl (fun _ hawaits => ?_) (fun c' request' hasks => ?_)
    · simp [ObserverPhase.awaitsChange] at hawaits
    · cases hasks
      exact h.reading c hconnected
  · exact h.stay hbefore rfl (fun _ hawaits => nomatch hawaits) (fun _ _ hasks => nomatch hasks)

/-- It looks at the connection again. -/
theorem Watched.look (h : t.Watched) (hbound : t.observer = .created ∧ t.bound = some c ∨
    t.observer.connection = some c) :
    ({ t with observer := t.look c } : AccountTasks S).Watched := by
  refine h.goOn ?_ ?_ ?_
  · intro c' hawaits
    unfold AccountTasks.look at hawaits
    split at hawaits
    · cases hawaits
    · split at hawaits
      · next hconnected =>
        simp only [ObserverPhase.awaitsChange, List.isEmpty_nil, and_true, decide_eq_true_eq] at hawaits
        exact hawaits ▸ hconnected
      · cases hawaits
  · intro c' request hasks
    unfold AccountTasks.look at hasks
    split at hasks
    · cases hasks
    · split at hasks <;> cases hasks
  · intro c' hc' hlost hattended
    have hthere : t.bound.isNone = false := by simp [hc']
    have hsame : c' = c := by
      rcases hbound with ⟨-, hbound⟩ | hconnection
      · exact Option.some.inj (hc'.symm.trans hbound)
      · exact (attended_iff hconnection).mp hattended
    subst hsame
    refine (attended_iff (c := c') ?_).mpr rfl
    simp [AccountTasks.look, hthere, hlost, ObserverPhase.connection]

theorem observer_unchanged {phase : ObserverPhase S} (h : t.observer = phase) :
    ({ t with observer := phase } : AccountTasks S) = t := by
  rw [← h]

theorem Watched.proceed (h : t.Watched) :
    ({ t with observer := t.proceed t.observer } : AccountTasks S).Watched := by
  cases hphase : t.observer with
  | created =>
    rcases Option.eq_none_or_eq_some t.bound with hbound | ⟨c, hbound⟩
    · have hnext : t.proceed .created = .done := by simp [AccountTasks.proceed, hbound]
      rw [hnext]
      refine h.goOn (fun _ hawaits => nomatch hawaits) (fun _ _ hasks => nomatch hasks) ?_
      intro c hc
      rw [hbound] at hc
      cases hc
    · have hnext : t.proceed .created = t.look c := by simp [AccountTasks.proceed, hbound]
      rw [hnext]
      exact h.look (.inl ⟨hphase, hbound⟩)
  -- a refused request leaves the observer to back off on the same connection
  | requesting c request reply =>
    have hbefore : t.observer.connection = some c := by rw [hphase]; rfl
    cases reply with
    | none => exact (observer_unchanged hphase).symm ▸ h
    | some accepted =>
      cases accepted with
      | false => exact h.stay hbefore rfl (fun _ hawaits => nomatch hawaits) (fun _ _ hasks => nomatch hasks)
      | true =>
        cases request with
        | subscribeEvents =>
          refine h.stay hbefore rfl (fun c' hawaits => ?_) (fun _ _ hasks => nomatch hasks)
          have hc' : c = c' := of_decide_eq_true hawaits
          exact h.aware c' (by simp [hphase, ObserverPhase.awaitsChange, hc'])
        | getConfig => exact h.ask hbefore
        | getStates => exact h.ask hbefore
  | announcing c =>
    have hbefore : t.observer.connection = some c := by rw [hphase]; rfl
    refine h.stay hbefore rfl (fun c' hawaits => ?_) (fun _ _ hasks => nomatch hasks)
    have hc' : c = c' := (of_decide_eq_true hawaits).1
    exact h.aware c' (by simp [hphase, ObserverPhase.awaitsChange, hc'])
  | backingOff c => exact h.look (.inr (by rw [hphase]; rfl))
  | waiting c queue =>
    cases queue with
    | nil => exact (observer_unchanged hphase).symm ▸ h
    | cons change queue =>
      have hbefore : t.observer.connection = some c := by rw [hphase]; rfl
      exact h.stay hbefore rfl (fun _ hawaits => nomatch hawaits) (fun _ _ hasks => nomatch hasks)
  -- the loop looks at the connection only here: it waits again, or looks for one anew
  | handling c queue =>
    have hbefore : t.observer.connection = some c := by rw [hphase]; rfl
    by_cases hconnected : (t.wire c).connected = true
    · have hnext : t.proceed (.handling c queue) = .waiting c queue := if_pos hconnected
      rw [hnext]
      refine h.stay hbefore rfl (fun c' hawaits => ?_) (fun _ _ hasks => nomatch hasks)
      have hc' : c = c' := (of_decide_eq_true hawaits).1
      exact hc' ▸ hconnected
    · have hnext : t.proceed (.handling c queue) = t.look c := if_neg hconnected
      rw [hnext]
      exact h.look (.inr hbefore)
  | connecting c => exact (observer_unchanged hphase).symm ▸ h
  | done => exact (observer_unchanged hphase).symm ▸ h

theorem Watched.resume (h : t.Watched) (reached : Bool) : (t.resume reached).Watched := by
  unfold AccountTasks.resume
  split
  · next c hphase =>
    have hbefore : t.observer.connection = some c := by rw [hphase]; rfl
    split
    · have hopen : (t.setWire c ⟨true, (t.wire c).readers + 1⟩).Watched :=
        h.setWire (fun _ => Nat.succ_pos _) (fun _ => rfl) (fun _ _ => Nat.succ_pos _) nofun
      refine hopen.stay hbefore rfl (fun _ hawaits => ?_) (fun c' request hasks => ?_)
      · simp [ObserverPhase.awaitsChange] at hawaits
      · cases hasks
        simp [AccountTasks.setWire]
    · exact h.stay hbefore rfl (fun _ hawaits => nomatch hawaits) (fun _ _ hasks => nomatch hasks)
  · exact h.proceed

theorem Watched.endReader (h : t.Watched)
    (hlast : (t.wire c).connected = true → 1 < (t.wire c).readers) : (t.endReader c).Watched := by
  refine (h.refuse c).setWire (fun hconnected => ?_) (fun hawaits => ?_) (fun request hasks => ?_) ?_
  · exact Nat.sub_pos_of_lt (hlast hconnected)
  · exact (h.refuse c).aware c hawaits
  · exact absurd rfl (ObserverPhase.requesting_of_answer hasks).2
  · exact (h.refuse c).attended c

/-- A connection that is closed, where the observer looks before it waits. -/
theorem Watched.close (h : t.Watched) (hlooks : t.observer.awaitsChange c = false) :
    ({ t.close c with bound := none } : AccountTasks S).Watched := by
  have hrefused := h.refuse c
  have hnone : ({ t with observer := t.observer.answer c false, bound := none } : AccountTasks S).Watched :=
    ⟨hrefused.reading, hrefused.aware, hrefused.asked, nofun⟩
  refine hnone.setWire nofun (fun hawaits => ?_) (hrefused.asked c) nofun
  rw [ObserverPhase.awaitsChange_of_refused hawaits] at hlooks
  cases hlooks

theorem Watched.drop (h : t.Watched)
    (hlooks : ∀ c, t.bound = some c → t.observer.awaitsChange c = false) : t.drop.Watched := by
  unfold AccountTasks.drop
  split
  · exact h
  · next c hbound => exact h.close (hlooks c hbound)

theorem Watched.step (h : t.Watched) {s : TaskStep S} (hs : t.Attentive s) : (t.step s).Watched := by
  cases s with
  | changed c change =>
    simp only [AccountTasks.step]
    split
    · refine h.goOn ?_ ?_ ?_
      · exact fun c' hawaits => h.aware c' (ObserverPhase.awaitsChange_of_hear hawaits)
      · exact fun c' request hasks => h.asked c' request (ObserverPhase.requesting_of_hear hasks)
      · intro c' _ _ hattended
        rwa [attended_hear]
    · exact h
  | answered c accepted =>
    simp only [AccountTasks.step]
    split
    · refine h.goOn ?_ ?_ ?_
      · intro c' hawaits
        by_cases hc : c' = c
        · exact hc ▸ hs (hc ▸ hawaits)
        · exact h.aware c' (ObserverPhase.awaitsChange_of_answer hc hawaits)
      · exact fun c' request hasks => h.asked c' request (ObserverPhase.requesting_of_answer hasks).1
      · intro c' _ _ hattended
        rwa [attended_answer]
    · exact h
  | lost c =>
    refine h.setWire nofun (fun hawaits => ?_) (h.asked c) (fun hbound _ => hs.2 hbound)
    rw [hs.1] at hawaits
    cases hawaits
  | readerEnded c =>
    simp only [AccountTasks.step]
    split
    · next hends =>
      refine h.endReader fun hconnected => ?_
      simpa [hconnected] using hends
    · exact h
  | readerRaised c => exact h.endReader hs
  | observer reached => exact h.resume reached
  | observerRaised =>
    refine h.goOn (fun _ hawaits => nomatch hawaits) (fun _ _ hasks => nomatch hasks) ?_
    intro c hbound hlost _
    have hbinding := (hs c hbound).resolve_left (Bool.eq_false_iff.mp hlost)
    exact decide_eq_true hbinding
  | bindOpened =>
    have hopened : (t.drop.setWire t.nextId ⟨true, 1⟩).Watched :=
      (h.drop hs).setWire (fun _ => Nat.one_pos) (fun _ => rfl) (fun _ _ => Nat.one_pos) nofun
    exact ⟨hopened.reading, hopened.aware, hopened.asked, hopened.attended⟩
  | bindStored c =>
    simp only [AccountTasks.step]
    split
    · refine ⟨h.reading, h.aware, h.asked, ?_⟩
      intro c' hbound hlost
      cases hbound
      have hnone := hs.resolve_left (Bool.eq_false_iff.mp hlost)
      unfold AccountTasks.attended
      cases hphase : t.observer with
      | created => rfl
      | done => exact decide_eq_true (Nat.succ_pos _)
      | _ => simp [hphase, ObserverPhase.connection] at hnone
    · exact h
  | observed =>
    simp only [AccountTasks.step]
    split
    · exact h
    · split
      · exact ⟨h.reading, nofun, nofun, fun _ _ _ => rfl⟩
      · next hdone =>
        refine ⟨h.reading, h.aware, h.asked, fun c hbound hlost => ?_⟩
        have hattended := h.attended c hbound hlost
        unfold AccountTasks.attended at hattended ⊢
        cases hphase : t.observer with
        | done => exact absurd hphase hdone
        | _ => simp_all only
  | bindRaised =>
    refine ⟨h.reading, h.aware, h.asked, fun c hbound hlost => ?_⟩
    exact (hs c hbound).resolve_left (Bool.eq_false_iff.mp hlost)
  | unbound =>
    -- nobody looks after a connection any more, and nobody has to
    have hunbound : ({ t with observer := .done, bound := none } : AccountTasks S).Watched :=
      ⟨h.reading, nofun, nofun, nofun⟩
    simp only [AccountTasks.step, AccountTasks.drop]
    cases hbound : t.bound with
    | none => exact ⟨h.reading, nofun, nofun, fun c hc => nomatch hbound.symm.trans hc⟩
    | some c => exact hunbound.setWire nofun nofun nofun nofun

/-! ### Getting to a reopen -/

theorem reopens_of_step {s : TaskStep S} (hs : s.own = true) (h : (t.step s).Reopens c) : t.Reopens c := by
  obtain ⟨steps, howns, hreached⟩ := h
  exact ⟨s :: steps, List.forall_mem_cons.mpr ⟨hs, howns⟩, hreached⟩

/-- The observer has what it waits for. -/
theorem reopens_of_proceed {phase : ObserverPhase S} (hphase : t.observer = phase)
    (hconnecting : ∀ c', phase ≠ .connecting c')
    (h : ({ t with observer := t.proceed phase } : AccountTasks S).Reopens c) : t.Reopens c := by
  refine reopens_of_step (s := .observer true) rfl ?_
  subst hphase
  have hstep : t.step (.observer true) = { t with observer := t.proceed t.observer } := by
    simp only [AccountTasks.step, AccountTasks.resume]
  rwa [hstep]

section Lost

variable (hbound : t.bound = some c) (hlost : (t.wire c).connected = false)

include hbound hlost

/-- Once the observer looks, it reopens what is lost. -/
theorem reopens_look : ({ t with observer := t.look c } : AccountTasks S).Reopens c :=
  ⟨[], by simp, by simp [look, hbound, hlost]⟩

theorem reopens_backingOff (hphase : t.observer = .backingOff c) : t.Reopens c :=
  reopens_of_proceed hphase nofun (reopens_look hbound hlost)

theorem reopens_refused {request : OpeningRequest}
    (hphase : t.observer = .requesting c request (some false)) : t.Reopens c :=
  reopens_of_proceed hphase nofun (reopens_backingOff hbound hlost rfl)

theorem reopens_handling {queue : List (Change S)} (hphase : t.observer = .handling c queue) :
    t.Reopens c := by
  refine reopens_of_proceed hphase nofun ?_
  have hnext : t.proceed (.handling c queue) = t.look c := by simp [proceed, hlost]
  rw [hnext]
  exact reopens_look hbound hlost

theorem reopens_created (hphase : t.observer = .created) : t.Reopens c := by
  refine reopens_of_proceed hphase nofun ?_
  have hnext : t.proceed .created = t.look c := by simp [proceed, hbound]
  rw [hnext]
  exact reopens_look hbound hlost

/-- The next request finds the WebSocket closed. -/
theorem reopens_accepted {request : OpeningRequest} (next : OpeningRequest) (hrequest : request.next = some next)
    (hphase : t.observer = .requesting c request (some true)) : t.Reopens c := by
  refine reopens_of_proceed hphase nofun ?_
  have hnext : t.proceed (.requesting c request (some true)) = .backingOff c := by
    simp [proceed, hrequest, hlost]
  rw [hnext]
  exact reopens_backingOff hbound hlost rfl

/-- The reader that ends refuses what was asked. -/
theorem reopens_asked {request : OpeningRequest} (hphase : t.observer = .requesting c request none) :
    t.Reopens c := by
  refine reopens_of_step (s := .readerEnded c) rfl ?_
  have hstep : t.step (.readerEnded c) = t.endReader c := by simp [step, hlost]
  rw [hstep]
  have hrefused : (t.endReader c).observer = .requesting c request (some false) := by
    simp [endReader, hphase, ObserverPhase.answer]
  exact reopens_refused hbound (by simp [endReader, setWire, hlost]) hrefused

end Lost

/-- A connection that is lost is reopened by who watches it. -/
theorem Watched.reopens (h : t.Watched) (hbound : t.bound = some c)
    (hlost : (t.wire c).connected = false) : t.Reopens c := by
  have hattended := h.attended c hbound hlost
  have hlooks : t.observer.awaitsChange c ≠ true := fun hawaits => by
    rw [h.aware c hawaits] at hlost
    cases hlost
  have hsame : ∀ c', t.observer.connection = some c' → c' = c := fun c' hconnection =>
    ((attended_iff hconnection).mp hattended).symm
  cases hphase : t.observer with
  | created => exact reopens_created hbound hlost hphase
  | done =>
    have hbinding : 0 < t.binding := by simpa [AccountTasks.attended, hphase] using hattended
    have hstep : t.step .observed = { t with binding := t.binding - 1, observer := .created } := by
      simp [AccountTasks.step, hphase, Nat.ne_of_gt hbinding]
    refine reopens_of_step (s := .observed) rfl ?_
    rw [hstep]
    exact reopens_created hbound hlost rfl
  | connecting c' =>
    obtain rfl := hsame c' (by rw [hphase]; rfl)
    exact ⟨[], by simp, hphase⟩
  | requesting c' request reply =>
    obtain rfl := hsame c' (by rw [hphase]; rfl)
    cases reply with
    | none => exact reopens_asked hbound hlost hphase
    | some accepted =>
      cases accepted with
      | false => exact reopens_refused hbound hlost hphase
      | true =>
        cases request with
        | getConfig => exact reopens_accepted hbound hlost .getStates rfl hphase
        | getStates => exact reopens_accepted hbound hlost .subscribeEvents rfl hphase
        | subscribeEvents => exact absurd (by simp [hphase, ObserverPhase.awaitsChange]) hlooks
  | announcing c' =>
    obtain rfl := hsame c' (by rw [hphase]; rfl)
    exact absurd (by simp [hphase, ObserverPhase.awaitsChange]) hlooks
  | backingOff c' =>
    obtain rfl := hsame c' (by rw [hphase]; rfl)
    exact reopens_backingOff hbound hlost hphase
  | waiting c' queue =>
    obtain rfl := hsame c' (by rw [hphase]; rfl)
    cases queue with
    | nil => exact absurd (by simp [hphase, ObserverPhase.awaitsChange]) hlooks
    | cons change queue =>
      refine reopens_of_proceed hphase nofun ?_
      exact reopens_handling hbound hlost (show t.proceed (.waiting c' (change :: queue)) = .handling c' queue from rfl)
  | handling c' queue =>
    obtain rfl := hsame c' (by rw [hphase]; rfl)
    exact reopens_handling hbound hlost hphase

theorem Watched.recovers (h : t.Watched) : t.Recovers where
  reopens _ := h.reopens
  delivered c hwaits := by
    refine h.reading c (h.aware c ?_)
    simp [hwaits, ObserverPhase.awaitsChange]

theorem watched_start : ({} : AccountTasks S).Watched where
  reading := nofun
  aware := nofun
  asked := nofun
  attended := nofun

end AccountTasks

/-- **A bound account always gets to a reconnect**, as long as whatever takes its connection
away finds the observer with a look at the connection ahead of it. -/
theorem account_reconnects {S : Type} {steps : List (TaskStep S)}
    (h : Along AccountTasks.step AccountTasks.Attentive {} steps) :
    (run AccountTasks.step {} steps).Recovers :=
  (run_inv_along (fun _ _ ht hs => ht.step hs) AccountTasks.watched_start h).recovers

/-! ### A loss that nobody notices -/

/-- Who waits for a change that no reader brings does so whatever the tasks do. -/
theorem run_waiting {S : Type} {c : ConnectionId} {steps : List (TaskStep S)}
    (howns : ∀ s ∈ steps, s.own = true) {t : AccountTasks S} (h : t.observer = .waiting c []) :
    (run AccountTasks.step t steps).observer = .waiting c [] := by
  induction steps generalizing t with
  | nil => exact h
  | cons s steps ih =>
    rw [List.forall_mem_cons] at howns
    refine ih howns.2 ?_
    have hown := howns.1
    cases s with
    | observer reached => simp [AccountTasks.step, AccountTasks.resume, AccountTasks.proceed, h]
    | readerEnded c' =>
      simp only [AccountTasks.step]
      split
      · simp [AccountTasks.endReader, ObserverPhase.answer, h]
      · exact h
    | observed =>
      simp only [AccountTasks.step]
      split
      · exact h
      · simp [h]
    | _ => cases hown

/-- Bound and observed; then the connection is lost, and its reader ends. -/
def unnoticed : List (TaskStep Unit) :=
  [.bindOpened, .bindStored 0, .observed, .observer true, .lost 0, .readerEnded 0]

theorem lost_while_waiting : ¬ (run AccountTasks.step {} unnoticed).Recovers := by
  intro h
  obtain ⟨steps, howns, hreached⟩ := h.reopens 0 rfl rfl
  rw [run_waiting howns (show (run AccountTasks.step {} unnoticed).observer = .waiting 0 [] from rfl)]
    at hreached
  cases hreached

/-- The connection is lost while the observer deals with a change. -/
def noticed : List (TaskStep Unit) :=
  [.bindOpened, .bindStored 0, .observed, .observer true, .changed 0 ("light.a", none), .lost 0,
    .readerEnded 0]

theorem account_reconnects_noticed : (run AccountTasks.step {} noticed).Recovers :=
  account_reconnects ⟨nofun, .inl rfl, trivial, trivial, trivial, ⟨rfl, fun _ => rfl⟩, trivial, trivial⟩

end EidolonHub.SmartHome
