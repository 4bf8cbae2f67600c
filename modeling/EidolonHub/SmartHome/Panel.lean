import EidolonHub.Library.Pool
import EidolonHub.SmartHome.Observation
import EidolonHub.SmartHome.Virtual

/-!
# EidolonHub.SmartHome.Panel

**What a panel is shown of the virtual devices.** `snapshot` and `execute` get the registry of their Owner
under its lock. A registry that was read a moment ago is good; otherwise the Data service is asked for it,
and every device of a Provider that is polled is observed. A command is observed when it has been carried
out, with the registry its call has got, which may be an old one by then.

A turn ends where the lock, the Data service, another Provider or the readers of the observations may be
waited for. The virtual Provider is not waited for: what a command makes of a device and its observation
are one step, and so are the states of a poll and the first observation of it.
-/

namespace EidolonHub.SmartHome.Panel

open EidolonHub.Library

/-! ### The home -/

/-- A registry of the Data service. -/
structure Sourced where
  registry : Registry
  revision : Nat
  deriving DecidableEq

/-- A poll of an Owner's devices: when it began, and how many tables of the virtual Provider there had
been before the one it found. -/
structure Poll where
  startedMs : Millis
  moment : Nat
  deriving DecidableEq

/-- What the runtime is built with: its own setup, the virtual Provider's, which kinds of Providers push
their observations, and for how long a registry is good. -/
structure PanelSetup where
  runtime : Setup
  virtual : VirtualSetup
  pushes : String → Bool
  registryTtlMs : Millis

/-- `PROVIDER_NAME` of the virtual Provider. -/
def virtualKind : String := "virtual"

/-- The state that all calls share. The last three fields say what happened and decide nothing: the tables
the virtual Provider has had, the last poll of each Owner that came to its end, and whether one broke off. -/
structure Home where
  source : OwnerId → Sourced
  rows : VirtualRows
  known : OwnerId → Option Sourced
  readAtMs : OwnerId → Millis
  holder : OwnerId → Option Nat
  observations : List ObservationRow
  moments : List VirtualRows
  polls : OwnerId → Option Poll
  brokeOff : OwnerId → Bool

/-- What `snapshot` says of a device. -/
structure Status where
  deviceId : DeviceId
  online : Bool
  state : DeviceState
  deriving DecidableEq

/-- What happens at a panel, at the devices, or at the registry. -/
inductive Request where
  | snapshot (ownerId : OwnerId)
  /-- The commands are those of the request, or of the scene that it names. -/
  | execute (ownerId : OwnerId) (commands : List Command)
  /-- An adapter reports what it saw. -/
  | observe (ownerId : OwnerId) (deviceId : DeviceId) (reachable : Bool) (state : Option DeviceState)
  /-- The Data service has another registry. -/
  | change (ownerId : OwnerId) (sourced : Sourced)

/-- Whose home a request is about. -/
def Request.ownerId : Request → OwnerId
  | snapshot ownerId | execute ownerId _ | observe ownerId .. | change ownerId _ => ownerId

/-- A poll under way: the registry that was read, and whether it is another revision. -/
structure Reading where
  read : Sourced
  changed : Bool
  poll : Poll
  deriving DecidableEq

/-- How far a call has come. -/
inductive Phase where
  | idle
  /-- It has the lock, and waits for the Data service. -/
  | asking (startedMs : Millis)
  /-- It has the lock; these observations of a Provider and these Providers are left. -/
  | polling (reading : Reading) (rest : List (Device × Option DeviceState)) (kinds : List String)
  /-- These commands are left. -/
  | running (registry : Registry) (commands : List Command)
  /-- The answer of `snapshot`; with it, the last poll and when it asked for its registry. -/
  | answered (registry : Registry) (status : List Status) (poll : Option Poll) (askedMs : Millis)
  | ended
  deriving DecidableEq

/-- What a step draws: the time, whether the call is broken off there, what another Provider reports and
what a command of it comes to, and the command that is next. -/
structure Draws where
  nowMs : Millis
  breaks : Bool
  states : DeviceId → Option DeviceState
  outcome : Option (Option DeviceState)
  position : Nat

variable (setup : PanelSetup)

/-- `json.dumps` and `json.loads` of an observed state. -/
def PanelSetup.text : StateText DeviceState :=
  ⟨setup.virtual.dumps, fun text => (setup.virtual.loads text).getD {}⟩

namespace Home

/-- `_observed`, as far as it is shown. -/
def observe (home : Home) (ownerId : OwnerId) (deviceId : DeviceId) (reachable : Bool)
    (state : Option DeviceState) (nowMs : Millis) : Home :=
  { home with
    observations :=
      (SqliteObservationCache.put setup.text home.observations ownerId deviceId reachable state nowMs).1 }

/-- The virtual Provider has written. -/
def withRows (home : Home) (rows : VirtualRows) : Home :=
  { home with rows, moments := home.moments ++ [rows] }

/-- Whether the device is online, and the state it was last seen in. -/
def statusOf (home : Home) (ownerId : OwnerId) (device : Device) : Status :=
  match SqliteObservationCache.find home.observations ownerId device.deviceId with
  | none => ⟨device.deviceId, false, {}⟩
  | some row =>
    ⟨device.deviceId, row.reachable ∧ ¬ device.orphaned, (row.stateJson.map setup.text.loads).getD {}⟩

/-- The registry is there: `snapshot` answers, `execute` goes on. -/
def proceed (home : Home) (request : Request) (registry : Registry) (askedMs : Millis) : Phase :=
  match request with
  | .execute _ commands => .running registry commands
  | request => .answered registry (registry.devices.map (home.statusOf setup request.ownerId))
      (home.polls request.ownerId) askedMs

/-- `devices_of`, without the orphans. -/
def devicesOf (registry : Registry) (kind : String) : List Device :=
  registry.devices.filter fun device => device.providerKind = kind ∧ ¬ device.orphaned

/-- `reconcile` and `states` of a Provider: the observations that are to be made. -/
def pollKind (home : Home) (ownerId : OwnerId) (reading : Reading) (draws : Draws) (kind : String) :
    Home × List (Device × Option DeviceState) :=
  let devices := devicesOf reading.read.registry kind
  if kind = virtualKind then
    let home :=
      if reading.changed then home.withRows (VirtualProvider.reconcile setup.virtual home.rows ownerId devices)
      else home
    (home, if setup.pushes kind then [] else
      devices.map fun device => (device, some (VirtualProvider.shown setup.virtual home.rows ownerId device)))
  else (home, if setup.pushes kind then [] else devices.map fun device => (device, draws.states device.deviceId))

/-- The devices that the Owner had and does not have any more. -/
def gone (home : Home) (ownerId : OwnerId) (reading : Reading) : List DeviceId :=
  match home.known ownerId with
  | none => []
  | some known =>
    if reading.changed then
      (known.registry.devices.map (·.deviceId)).filter (· ∉ reading.read.registry.devices.map (·.deviceId))
    else []

/-- The end of `_registry`: what is gone is forgotten, and the lock is given back. -/
def finish (home : Home) (ownerId : OwnerId) (reading : Reading) : Home :=
  { home with
    observations := SqliteObservationCache.forget home.observations ownerId (home.gone ownerId reading)
    known := Function.update home.known ownerId (some reading.read)
    polls := Function.update home.polls ownerId (some reading.poll)
    holder := Function.update home.holder ownerId none }

/-- The loop of `_registry`, up to where the readers are woken. -/
def advance (home : Home) (request : Request) (reading : Reading) (draws : Draws) :
    List (Device × Option DeviceState) → List String → Home × Phase
  | (device, state) :: rest, kinds =>
    (home.observe setup request.ownerId device.deviceId state.isSome state draws.nowMs,
      .polling reading rest kinds)
  | [], [] =>
    let home := home.finish request.ownerId reading
    (home, home.proceed setup request reading.read.registry reading.poll.startedMs)
  | [], kind :: kinds =>
    match home.pollKind setup request.ownerId reading draws kind with
    | (home, []) => (home, .polling reading [] kinds)
    | (home, (device, state) :: rest) =>
      (home.observe setup request.ownerId device.deviceId state.isSome state draws.nowMs,
        .polling reading rest kinds)

/-- `_registry` under the lock, which is free: a registry that is good is there at once. -/
def enter (home : Home) (c : Nat) (request : Request) (nowMs : Millis) : Home × Phase :=
  let hold : Home × Phase :=
    ({ home with holder := Function.update home.holder request.ownerId (some c) }, .asking nowMs)
  match home.known request.ownerId with
  | none => hold
  | some known =>
    if 0 < setup.registryTtlMs ∧ nowMs - home.readAtMs request.ownerId < setup.registryTtlMs then
      (home, home.proceed setup request known.registry nowMs)
    else hold

/-- The lock is given back, and the call raises. -/
def release (home : Home) (ownerId : OwnerId) : Home :=
  { home with holder := Function.update home.holder ownerId none }

/-- `_run`: a command is checked, carried out and observed. -/
def carryOut (home : Home) (ownerId : OwnerId) (registry : Registry) (command : Command) (draws : Draws) :
    Home :=
  match registry.device command.deviceId with
  | none => home
  | some device =>
    if (setup.runtime.validateDeviceCommand device command).isSome then home
    else if device.providerKind ∉ setup.runtime.providers ∨ device.orphaned then home
    else if device.providerKind = virtualKind then
      match VirtualProvider.execute setup.virtual home.rows ownerId device command with
      | .error _ => home
      | .ok (rows, state) =>
        if (setup.runtime.validateDeviceState device state).isSome then home.withRows rows
        else (home.withRows rows).observe setup ownerId device.deviceId true (some state) draws.nowMs
    else match draws.outcome with
      | none => home
      | some state => home.observe setup ownerId device.deviceId true state draws.nowMs

/-- The next step of a call. -/
def act (requests : Nat → Request) (c : Nat) (draws : Draws) (home : Home) : Phase → Home × Phase
  | .idle =>
    match requests c with
    | .observe ownerId deviceId reachable state =>
      (home.observe setup ownerId deviceId reachable state draws.nowMs, .ended)
    | .change ownerId sourced => ({ home with source := Function.update home.source ownerId sourced }, .ended)
    | request =>
      if draws.breaks then (home, .ended)
      else if home.holder request.ownerId = none then home.enter setup c request draws.nowMs
      else (home, .idle)
  | .asking startedMs =>
    let ownerId := (requests c).ownerId
    -- A source that fails leaves the time of the last reading; a poll that fails later does not.
    if draws.breaks then (home.release ownerId, .ended)
    else
      let read := home.source ownerId
      let changed := (home.known ownerId).all (·.revision ≠ read.revision)
      ({ home with readAtMs := Function.update home.readAtMs ownerId startedMs },
        .polling ⟨read, changed, startedMs, home.moments.length - 1⟩ [] setup.runtime.providers)
  | .polling reading rest kinds =>
    let ownerId := (requests c).ownerId
    if draws.breaks then
      ({ home.release ownerId with brokeOff := Function.update home.brokeOff ownerId true }, .ended)
    else home.advance setup (requests c) reading draws rest kinds
  | .running registry commands =>
    match commands[draws.position]? with
    | none => (home, .ended)
    | some command =>
      (if draws.breaks then home else home.carryOut setup (requests c).ownerId registry command draws,
        .running registry (commands.eraseIdx draws.position))
  | phase => (home, phase)

/-- The runtime starts: nothing is known, and no call has begun. -/
def opened (source : OwnerId → Sourced) (rows : VirtualRows) (observations : List ObservationRow) :
    Pool Home Phase :=
  .start
    { source, rows, observations, known := fun _ => none, readAtMs := fun _ => 0, holder := fun _ => none
      moments := [rows], polls := fun _ => none, brokeOff := fun _ => false } .idle

end Home

/-! ### The observations -/

section Observations

variable {text : StateText DeviceState} {rows : List ObservationRow} {ownerId o : OwnerId}
  {target i : Target} {reachable : Bool} {state : Option DeviceState} {nowMs : Millis}

open SqliteObservationCache

theorem find_eq : find rows ownerId target =
    rows.find? fun r => decide ((fun r : ObservationRow => (r.ownerId, r.target)) r = (ownerId, target)) := by
  unfold find rowsOf
  rw [List.find?_filter]
  congr 1
  funext r
  simp [Prod.ext_iff, Bool.decide_and]

theorem find_map {f : ObservationRow → ObservationRow}
    (hf : ∀ r, (f r).ownerId = r.ownerId ∧ (f r).target = r.target) :
    find (rows.map f) o i = (find rows o i).map f := by
  rw [find_eq, find_eq, List.find?_map]
  congr 2
  funext r
  simp [hf r]

theorem find_put_self : ∃ row,
    find (put text rows ownerId target reachable state nowMs).1 ownerId target = some row ∧
      row.reachable = reachable ∧ row.stateJson = state.map text.dumps := by
  unfold put
  split
  · next hsame =>
    unfold unchanged at hsame
    split at hsame
    · cases hsame
    next row hrow =>
    obtain ⟨hreachable, hjson⟩ := of_decide_eq_true hsame
    refine ⟨_, (find_map fun r => ?_).trans (congrArg _ hrow), ?_, ?_⟩
    · split_ifs <;> exact ⟨rfl, rfl⟩
    · dsimp only
      split_ifs <;> exact hreachable
    · dsimp only
      split_ifs <;> exact hjson
  · refine ⟨⟨ownerId, target, reachable, state.map text.dumps, nowMs, latestSeq rows ownerId + 1⟩, ?_, rfl,
      rfl⟩
    dsimp only
    rw [find_eq, find?_place, if_pos rfl]

theorem find_put_of_ne (h : (o, i) ≠ (ownerId, target)) :
    find (put text rows ownerId target reachable state nowMs).1 o i = find rows o i := by
  unfold put
  split
  · dsimp only
    rw [find_map fun r => by split_ifs <;> exact ⟨rfl, rfl⟩]
    cases hfind : find rows o i with
    | none => rfl
    | some row =>
      rw [find_eq] at hfind
      have hkey : (row.ownerId, row.target) = (o, i) := by simpa using List.find?_some hfind
      rw [Option.map_some, if_neg]
      intro hrow
      rw [hrow.1, hrow.2] at hkey
      exact h hkey.symm
  · dsimp only
    rw [find_eq, find?_place, if_neg (Ne.symm h), ← find_eq]

theorem find_forget {targets : List Target} (h : ¬ (o = ownerId ∧ i ∈ targets)) :
    find (forget rows ownerId targets) o i = find rows o i := by
  rw [find_eq, find_eq]
  unfold forget
  rw [List.find?_filter]
  congr 1
  funext r
  by_cases hr : r.ownerId = o ∧ r.target = i
  · obtain ⟨rfl, rfl⟩ := hr
    simp [h]
  · simp [Prod.ext_iff, hr]

end Observations

/-! ### What is relied on -/

/-- The virtual Provider is enabled and is polled, and `json` reads back what it wrote of the states that a
type starts in. -/
structure PanelSetup.Lawful : Prop where
  virtual : setup.virtual.Lawful
  starts : ∀ kind, setup.virtual.loads (setup.virtual.dumps (setup.virtual.initialState kind)) =
    some (setup.virtual.initialState kind)
  enabled : virtualKind ∈ setup.runtime.providers
  polled : setup.pushes virtualKind = false

theorem text_reads {setup : PanelSetup} {state : DeviceState}
    (h : setup.virtual.loads (setup.virtual.dumps state) = some state) :
    setup.text.loads (setup.text.dumps state) = state := by
  show (setup.virtual.loads (setup.virtual.dumps state)).getD {} = state
  rw [h, Option.getD_some]

/-- What the virtual Provider reports is read back. -/
theorem PanelSetup.Lawful.reads_shown {setup : PanelSetup} (h : setup.Lawful) (rows : VirtualRows)
    (o : OwnerId) (device : Device) :
    setup.text.loads (setup.text.dumps (VirtualProvider.shown setup.virtual rows o device)) =
      VirtualProvider.shown setup.virtual rows o device := by
  refine text_reads ?_
  unfold VirtualProvider.shown VirtualProvider.currentState
  cases hstored : VirtualProvider.storedState setup.virtual device (rows o device.deviceId) with
  | none => exact h.starts _
  | some state =>
    dsimp only
    split_ifs
    · exact h.starts _
    · exact h.virtual.reads _ _ (VirtualProvider.storedState_valid hstored)

/-! ### What is kept -/

variable (types : String → Prop)

/-- The registry has the device, if at all, as one of the virtual Provider and of one of these types. -/
def OnlyVirtual (i : DeviceId) (registry : Registry) : Prop :=
  ∀ device ∈ registry.devices, device.deviceId = i → device.providerKind = virtualKind ∧ types device.type

/-- The registry has the device, and not as an orphan. -/
def Has (i : DeviceId) (registry : Registry) : Prop :=
  ∃ device ∈ registry.devices, device.deviceId = i ∧ device.orphaned = false

/-- The registry that is asked for was read by this poll, or the poll began when it was good. -/
def PanelSetup.Lately (poll : Poll) (askedMs : Millis) : Prop :=
  askedMs = poll.startedMs ∨ askedMs - poll.startedMs < setup.registryTtlMs

/-- The virtual Provider has reported this state of the device, for a type that the registries give it and
in one of its tables since that one. -/
def Had (o : OwnerId) (i : DeviceId) (home : Home) (since : Nat) (state : DeviceState) : Prop :=
  ∃ k rows device, since ≤ k ∧ home.moments[k]? = some rows ∧ device.deviceId = i ∧ types device.type ∧
    state.equals (VirtualProvider.shown setup.virtual rows o device) = true

/-- The device was last seen reachable, in a state it had since then. -/
def Seen (o : OwnerId) (i : DeviceId) (home : Home) (since : Nat) : Prop :=
  ∃ row state, SqliteObservationCache.find home.observations o i = some row ∧ row.reachable = true ∧
    row.stateJson.map setup.text.loads = some state ∧ Had setup types o i home since state

/-- A registry that is known was read at the beginning of the last poll, if none broke off. -/
def Settled (o : OwnerId) (home : Home) : Prop :=
  home.brokeOff o = false → ∀ poll, home.polls o = some poll → home.readAtMs o = poll.startedMs

/-- What holds of the state: since the last poll of the Owner, the device is seen in states it had. -/
structure Sound (o : OwnerId) (i : DeviceId) (home : Home) : Prop where
  rows : home.moments.getLast? = some home.rows
  source : OnlyVirtual types i (home.source o).registry
  known : ∀ known, home.known o = some known → OnlyVirtual types i known.registry ∧
    ∃ poll, home.polls o = some poll ∧ (Has i known.registry → Seen setup types o i home poll.moment)
  bound : ∀ poll, home.polls o = some poll → poll.moment < home.moments.length
  settled : home.holder o = none → Settled o home

/-- What holds of a call of the Owner. -/
def Phase.Fits (o : OwnerId) (i : DeviceId) (c : Nat) (home : Home) : Phase → Prop
  | .asking _ => home.holder o = some c ∧ Settled o home
  | .polling reading rest kinds =>
    home.holder o = some c ∧ OnlyVirtual types i reading.read.registry ∧
      reading.poll.moment < home.moments.length ∧
      (∀ poll, home.polls o = some poll → poll.moment ≤ reading.poll.moment) ∧
      home.readAtMs o = reading.poll.startedMs ∧
      (∀ entry ∈ rest, entry.1.deviceId = i → ∃ state, entry.2 = some state ∧
        setup.text.loads (setup.text.dumps state) = state ∧ Had setup types o i home reading.poll.moment state) ∧
      (Has i reading.read.registry → virtualKind ∈ kinds ∨ (∃ entry ∈ rest, entry.1.deviceId = i) ∨
        Seen setup types o i home reading.poll.moment)
  | .running registry _ => OnlyVirtual types i registry
  | .answered registry status poll askedMs =>
    Has i registry → ∃ last state, poll = some last ∧
      (home.brokeOff o = false → setup.Lately last askedMs) ∧
      ⟨i, true, state⟩ ∈ status ∧ Had setup types o i home last.moment state
  | _ => True

/-- What a step does that is not one of a call with the lock. -/
structure Beside (o : OwnerId) (i : DeviceId) (home home' : Home) : Prop where
  source : OnlyVirtual types i (home.source o).registry → OnlyVirtual types i (home'.source o).registry
  known : home'.known o = home.known o
  readAtMs : home'.readAtMs o = home.readAtMs o
  holder : home'.holder o = home.holder o
  polls : home'.polls o = home.polls o
  brokeOff : home'.brokeOff o = home.brokeOff o
  moments : home.moments <+: home'.moments
  rows : home.moments.getLast? = some home.rows → home'.moments.getLast? = some home'.rows
  seen : ∀ since, since < home.moments.length → Seen setup types o i home since → Seen setup types o i home' since

section Kept

variable {setup} {types} {o ownerId : OwnerId} {i deviceId : DeviceId} {home home' : Home} {c : Nat} {phase : Phase}
  {since : Nat} {state : DeviceState} {reading : Reading} {rest : List (Device × Option DeviceState)}
  {kinds : List String} {request : Request} {registry : Registry} {draws : Draws}

theorem Had.mono (h : Had setup types o i home since state) (hmoments : home.moments <+: home'.moments) :
    Had setup types o i home' since state := by
  obtain ⟨k, rows, device, hk, hrows, hdevice⟩ := h
  refine ⟨k, rows, device, hk, ?_, hdevice⟩
  obtain ⟨later, hlater⟩ := hmoments
  rw [← hlater]
  exact List.getElem?_append_left (List.getElem?_eq_some_iff.mp hrows).1 ▸ hrows

theorem Had.le {earlier : Nat} (h : Had setup types o i home since state) (hle : earlier ≤ since) :
    Had setup types o i home earlier state := by
  obtain ⟨k, rows, device, hk, hrest⟩ := h
  exact ⟨k, rows, device, Nat.le_trans hle hk, hrest⟩

theorem Seen.le {earlier : Nat} (h : Seen setup types o i home since) (hle : earlier ≤ since) :
    Seen setup types o i home earlier := by
  obtain ⟨row, state, hfind, hreachable, hstate, hhad⟩ := h
  exact ⟨row, state, hfind, hreachable, hstate, hhad.le hle⟩

/-- What is seen stays, where the row of the device does. -/
theorem Seen.mono (h : Seen setup types o i home since) (hmoments : home.moments <+: home'.moments)
    (hfind : SqliteObservationCache.find home'.observations o i =
      SqliteObservationCache.find home.observations o i) : Seen setup types o i home' since := by
  obtain ⟨row, state, hrow, hreachable, hstate, hhad⟩ := h
  exact ⟨row, state, hfind.trans hrow, hreachable, hstate, hhad.mono hmoments⟩

theorem Beside.refl : Beside setup types o i home home :=
  ⟨id, rfl, rfl, rfl, rfl, rfl, List.prefix_rfl, id, fun _ _ => id⟩

theorem Beside.trans {home'' : Home} (h : Beside setup types o i home home') (h' : Beside setup types o i home' home'') :
    Beside setup types o i home home'' where
  source := h'.source ∘ h.source
  known := h'.known.trans h.known
  readAtMs := h'.readAtMs.trans h.readAtMs
  holder := h'.holder.trans h.holder
  polls := h'.polls.trans h.polls
  brokeOff := h'.brokeOff.trans h.brokeOff
  moments := h.moments.trans h'.moments
  rows := h'.rows ∘ h.rows
  seen since hlt hseen :=
    h'.seen since (Nat.lt_of_lt_of_le hlt h.moments.length_le) (h.seen since hlt hseen)

theorem Settled.beside (hs : Settled o home) (h : Beside setup types o i home home') : Settled o home' := by
  unfold Settled at hs ⊢
  rw [h.brokeOff, h.polls, h.readAtMs]
  exact hs

theorem Sound.beside (hs : Sound setup types o i home) (h : Beside setup types o i home home') :
    Sound setup types o i home' where
  rows := h.rows hs.rows
  source := h.source hs.source
  known known hknown := by
    rw [h.known] at hknown
    obtain ⟨honly, poll, hpoll, hseen⟩ := hs.known known hknown
    exact ⟨honly, poll, h.polls.trans hpoll, fun hhas => h.seen _ (hs.bound poll hpoll) (hseen hhas)⟩
  bound poll hpoll := by
    rw [h.polls] at hpoll
    exact Nat.lt_of_lt_of_le (hs.bound poll hpoll) h.moments.length_le
  settled hholder := by
    rw [h.holder] at hholder
    exact (hs.settled hholder).beside h

theorem Phase.Fits.beside (hf : phase.Fits setup types o i c home) (h : Beside setup types o i home home') :
    phase.Fits setup types o i c home' := by
  cases phase with
  | idle | ended => trivial
  | asking => exact ⟨h.holder.trans hf.1, hf.2.beside h⟩
  | running => exact hf
  | answered =>
    intro hhas
    obtain ⟨last, state, hlast, htime, hmem, hhad⟩ := hf hhas
    exact ⟨last, state, hlast, fun hbroke => htime (h.brokeOff ▸ hbroke), hmem, hhad.mono h.moments⟩
  | polling =>
    obtain ⟨hholder, honly, hlt, hle, hread, hrest, hhas⟩ := hf
    refine ⟨h.holder.trans hholder, honly, Nat.lt_of_lt_of_le hlt h.moments.length_le, ?_,
      h.readAtMs.trans hread, fun entry hentry hid => ?_, fun hregistry => ?_⟩
    · rw [h.polls]
      exact hle
    · obtain ⟨state, hstate, hreads, hhad⟩ := hrest entry hentry hid
      exact ⟨state, hstate, hreads, hhad.mono h.moments⟩
    · exact (hhas hregistry).imp_right (Or.imp_right (h.seen _ hlt))

/-! ### Steps beside the poll -/

theorem beside_observe {d : DeviceId} {reachable : Bool} {observed : Option DeviceState} {nowMs : Millis}
    (h : (o, i) ≠ (ownerId, d)) :
    Beside setup types o i home (home.observe setup ownerId d reachable observed nowMs) where
  source := id
  known := rfl
  readAtMs := rfl
  holder := rfl
  polls := rfl
  brokeOff := rfl
  moments := List.prefix_rfl
  rows := id
  seen _ _ hseen := hseen.mono List.prefix_rfl (find_put_of_ne h)

/-- The device is observed in a state that it has just had. -/
theorem seen_observe {nowMs : Millis} (hreads : setup.text.loads (setup.text.dumps state) = state)
    (hhad : Had setup types o i home since state) :
    Seen setup types o i (home.observe setup o i true (some state) nowMs) since := by
  obtain ⟨row, hrow, hreachable, hjson⟩ : ∃ row,
      SqliteObservationCache.find (home.observe setup o i true (some state) nowMs).observations o i = some row ∧
        row.reachable = true ∧ row.stateJson = (some state).map setup.text.dumps := find_put_self
  refine ⟨row, state, hrow, hreachable, ?_, hhad⟩
  rw [hjson, Option.map_some, Option.map_some, hreads]

theorem beside_observe_had {nowMs : Millis} (hreads : setup.text.loads (setup.text.dumps state) = state)
    (hhad : ∀ since, since < home.moments.length → Had setup types o i home since state) :
    Beside setup types o i home (home.observe setup o i true (some state) nowMs) where
  source := id
  known := rfl
  readAtMs := rfl
  holder := rfl
  polls := rfl
  brokeOff := rfl
  moments := List.prefix_rfl
  rows := id
  seen since hlt _ := seen_observe hreads (hhad since hlt)

theorem beside_withRows {rows : VirtualRows} : Beside setup types o i home (home.withRows rows) where
  source := id
  known := rfl
  readAtMs := rfl
  holder := rfl
  polls := rfl
  brokeOff := rfl
  moments := List.prefix_append _ _
  rows _ := List.getLast?_concat
  seen _ _ hseen := hseen.mono (List.prefix_append _ _) rfl

/-- What the last table reports, the device has had since any earlier one. -/
theorem had_rows {device : Device} (hrows : home.moments.getLast? = some home.rows)
    (hlt : since < home.moments.length) (hid : device.deviceId = i)
    (htype : types device.type) (hequals : state.equals (VirtualProvider.shown setup.virtual home.rows o device) = true) :
    Had setup types o i home since state := by
  refine ⟨home.moments.length - 1, home.rows, device, by omega, ?_, hid, htype, hequals⟩
  rw [← List.getLast?_eq_getElem?, hrows]

theorem beside_pollKind {kind : String} :
    Beside setup types o i home (home.pollKind setup ownerId reading draws kind).1 := by
  unfold Home.pollKind
  split_ifs
  · exact beside_withRows
  · exact beside_withRows
  all_goals exact Beside.refl

/-- **A command is seen in the state it leaves**, and no other device with it. -/
theorem beside_carryOut {command : Command} (hlawful : setup.Lawful) (hs : Sound setup types o i home)
    (honly : ownerId = o → OnlyVirtual types i registry) :
    Beside setup types o i home (home.carryOut setup ownerId registry command draws) := by
  unfold Home.carryOut
  cases hdevice : registry.device command.deviceId with
  | none => exact Beside.refl
  | some device =>
    have hmem : device ∈ registry.devices := List.mem_of_find?_eq_some hdevice
    dsimp only
    split_ifs with hcommand hoffline hkind
    · exact Beside.refl
    · exact Beside.refl
    · cases hexecute : VirtualProvider.execute setup.virtual home.rows ownerId device command with
      | error e => exact Beside.refl
      | ok answer =>
        obtain ⟨rows, state⟩ := answer
        dsimp only
        split_ifs
        · exact beside_withRows
        · by_cases hself : (o, i) = (ownerId, device.deviceId)
          · obtain ⟨rfl, rfl⟩ := Prod.mk.inj hself
            have hvalid := VirtualProvider.applyCommand_valid (VirtualProvider.execute_ok hexecute).2.1
            have hrows : (home.withRows rows).moments.getLast? = some (home.withRows rows).rows :=
              List.getLast?_concat
            refine beside_withRows.trans (beside_observe_had (text_reads (hlawful.virtual.reads _ _ hvalid)) ?_)
            intro since hlt
            exact had_rows hrows hlt rfl (honly rfl device hmem rfl).2
              (VirtualProvider.shown_execute hlawful.virtual hexecute)
          · exact beside_withRows.trans (beside_observe hself)
    · have hother : (o, i) ≠ (ownerId, device.deviceId) := by
        intro hself
        obtain ⟨rfl, rfl⟩ := Prod.mk.inj hself
        exact hkind (honly rfl device hmem rfl).1
      split
      · exact Beside.refl
      · exact beside_observe hother

section Elsewhere

variable (hne : o ≠ request.ownerId)
include hne

theorem beside_finish : Beside setup types o i home (home.finish request.ownerId reading) where
  source := id
  known := Function.update_of_ne hne ..
  readAtMs := rfl
  holder := Function.update_of_ne hne ..
  polls := Function.update_of_ne hne ..
  brokeOff := rfl
  moments := List.prefix_rfl
  rows := id
  seen _ _ hseen := hseen.mono List.prefix_rfl (find_forget fun h => hne h.1)

theorem beside_hold : Beside setup types o i home
    { home with holder := Function.update home.holder request.ownerId (some c) } where
  source := id
  known := rfl
  readAtMs := rfl
  holder := Function.update_of_ne hne ..
  polls := rfl
  brokeOff := rfl
  moments := List.prefix_rfl
  rows := id
  seen _ _ hseen := hseen.mono List.prefix_rfl rfl

theorem beside_release : Beside setup types o i home (home.release request.ownerId) where
  source := id
  known := rfl
  readAtMs := rfl
  holder := Function.update_of_ne hne ..
  polls := rfl
  brokeOff := rfl
  moments := List.prefix_rfl
  rows := id
  seen _ _ hseen := hseen.mono List.prefix_rfl rfl

theorem beside_advance : Beside setup types o i home (home.advance setup request reading draws rest kinds).1 := by
  have hput (home : Home) (device : Device) (state : Option DeviceState) :
      Beside setup types o i home
        (home.observe setup request.ownerId device.deviceId state.isSome state draws.nowMs) :=
    beside_observe fun h => hne (Prod.mk.inj h).1
  unfold Home.advance
  split
  · exact hput _ _ _
  · exact beside_finish hne
  · next kind kinds =>
    have hpoll : Beside setup types o i home (home.pollKind setup request.ownerId reading draws kind).1 :=
      beside_pollKind
    split
    · next home' heq =>
      rw [heq] at hpoll
      exact hpoll
    · next home' device state rest heq =>
      rw [heq] at hpoll
      exact hpoll.trans (hput _ _ _)

theorem beside_enter {nowMs : Millis} : Beside setup types o i home (home.enter setup c request nowMs).1 := by
  unfold Home.enter
  dsimp only
  split
  · exact beside_hold hne
  · split_ifs
    · exact Beside.refl
    · exact beside_hold hne

end Elsewhere

/-! ### Steps with the lock -/

/-- Of a call without the lock nothing is broken by one with it. -/
theorem Phase.Fits.other {d : Nat} (hf : phase.Fits setup types o i d home) (hne : d ≠ c)
    (hholder : home.holder o = none ∨ home.holder o = some c) (hmoments : home.moments <+: home'.moments)
    (hbroke : home'.brokeOff o = false → home.brokeOff o = false) : phase.Fits setup types o i d home' := by
  have hnot : home.holder o ≠ some d := by
    obtain hnone | hsome := hholder
    · simp [hnone]
    · simpa [hsome] using hne.symm
  cases phase with
  | idle | ended => trivial
  | asking => exact absurd hf.1 hnot
  | polling => exact absurd hf.1 hnot
  | running => exact hf
  | answered =>
    intro hhas
    obtain ⟨last, state, hlast, htime, hmem, hhad⟩ := hf hhas
    exact ⟨last, state, hlast, fun h => htime (hbroke h), hmem, hhad.mono hmoments⟩

/-- What has been seen reachable is shown online. -/
theorem status_of_seen {device : Device} (hid : device.deviceId = i) (horphaned : device.orphaned = false)
    (hseen : Seen setup types o i home since) :
    ∃ state, home.statusOf setup o device = ⟨i, true, state⟩ ∧ Had setup types o i home since state := by
  obtain ⟨row, state, hrow, hreachable, hstate, hhad⟩ := hseen
  refine ⟨state, ?_, hhad⟩
  unfold Home.statusOf
  rw [hid, hrow]
  simp [hreachable, horphaned, hstate]

theorem fits_proceed {askedMs : Millis} (hown : request.ownerId = o) (honly : OnlyVirtual types i registry)
    (hseen : Has i registry → ∃ poll, home.polls o = some poll ∧ Seen setup types o i home poll.moment ∧
      (home.brokeOff o = false → setup.Lately poll askedMs)) :
    (home.proceed setup request registry askedMs).Fits setup types o i c home := by
  subst hown
  have hanswer : (Phase.answered registry (registry.devices.map (home.statusOf setup request.ownerId))
      (home.polls request.ownerId) askedMs).Fits setup types request.ownerId i c home := by
    intro hhas
    obtain ⟨poll, hpoll, hseen, htime⟩ := hseen hhas
    obtain ⟨device, hmem, hid, horphaned⟩ := hhas
    obtain ⟨state, hstatus, hhad⟩ := status_of_seen hid horphaned hseen
    exact ⟨poll, state, hpoll, htime, List.mem_map.mpr ⟨device, hmem, hstatus⟩, hhad⟩
  unfold Home.proceed
  split
  · exact honly
  · exact hanswer

/-- An observation of the poll. -/
theorem kept_observe {device : Device} {observed : Option DeviceState} {nowMs : Millis}
    (hs : Sound setup types o i home)
    (hf : (Phase.polling reading ((device, observed) :: rest) kinds).Fits setup types o i c home) :
    Sound setup types o i (home.observe setup o device.deviceId observed.isSome observed nowMs) ∧
      (Phase.polling reading rest kinds).Fits setup types o i c
        (home.observe setup o device.deviceId observed.isSome observed nowMs) := by
  obtain ⟨hholder, honly, hlt, hle, hread, hrest, hhas⟩ := hf
  have hnew : device.deviceId = i →
      Seen setup types o i (home.observe setup o device.deviceId observed.isSome observed nowMs)
        reading.poll.moment := by
    intro hid
    obtain ⟨state, hstate, hreads, hhad⟩ := hrest _ List.mem_cons_self hid
    dsimp only at hstate
    subst hstate
    rw [hid]
    exact seen_observe hreads hhad
  have hkept (since : Nat) (hsince : since ≤ reading.poll.moment) (hseen : Seen setup types o i home since) :
      Seen setup types o i (home.observe setup o device.deviceId observed.isSome observed nowMs) since := by
    by_cases hid : device.deviceId = i
    · exact (hnew hid).le hsince
    · exact hseen.mono List.prefix_rfl (find_put_of_ne fun h => hid (Prod.mk.inj h).2.symm)
  -- What was seen since an earlier poll is overwritten with what this poll, which began later, reported.
  refine ⟨⟨hs.rows, hs.source, fun known hknown => ?_, hs.bound, hs.settled⟩,
    hholder, honly, hlt, hle, hread, fun entry hentry => hrest entry (List.mem_cons_of_mem _ hentry), ?_⟩
  · obtain ⟨hvirtual, poll, hpoll, hseen⟩ := hs.known known hknown
    exact ⟨hvirtual, poll, hpoll, fun h => hkept _ (hle poll hpoll) (hseen h)⟩
  · intro h
    obtain hkind | ⟨entry, hentry, hid⟩ | hseen := hhas h
    · exact .inl hkind
    · obtain rfl | hentry := List.mem_cons.mp hentry
      · exact .inr (.inr (hnew hid))
      · exact .inr (.inl ⟨entry, hentry, hid⟩)
    · exact .inr (.inr (hkept _ (Nat.le_refl _) hseen))

/-- A Provider is asked. -/
theorem fits_pollKind {kind : String} (hlawful : setup.Lawful) (hs : Sound setup types o i home)
    (hf : (Phase.polling reading [] (kind :: kinds)).Fits setup types o i c home) :
    (Phase.polling reading (home.pollKind setup o reading draws kind).2 kinds).Fits setup types o i c
      (home.pollKind setup o reading draws kind).1 := by
  have hbeside : Beside setup types o i home (home.pollKind setup o reading draws kind).1 := beside_pollKind
  obtain ⟨hholder, honly, hlt, hle, hread, -, hhas⟩ := hf.beside hbeside
  refine ⟨hholder, honly, hlt, hle, hread, fun entry hentry hid => ?_, fun h => ?_⟩
  · have hrows := hbeside.rows hs.rows
    unfold Home.pollKind at hentry hrows hlt ⊢
    by_cases hkind : kind = virtualKind
    · simp only [hkind, hlawful.polled, Bool.false_eq_true, if_false] at hentry hrows hlt ⊢
      obtain ⟨device, hdevice, rfl⟩ := List.mem_map.mp hentry
      have htype := (honly device (List.mem_filter.mp hdevice).1 hid).2
      exact ⟨_, rfl, hlawful.reads_shown _ _ _, had_rows hrows hlt hid htype (by simp [DeviceState.equals])⟩
    · simp only [if_neg hkind] at hentry
      split_ifs at hentry
      · cases hentry
      · obtain ⟨device, hdevice, rfl⟩ := List.mem_map.mp hentry
        obtain ⟨hmem, hprovider⟩ := List.mem_filter.mp hdevice
        exact absurd ((of_decide_eq_true hprovider).1.symm.trans (honly device hmem hid).1) hkind
  · obtain hkind | ⟨entry, hentry, -⟩ | hseen := hhas h
    · obtain rfl | hkind := List.mem_cons.mp hkind
      · obtain ⟨device, hmem, hid, horphaned⟩ := h
        refine .inr (.inl ?_)
        unfold Home.pollKind
        simp only [if_true, hlawful.polled, Bool.false_eq_true, if_false]
        refine ⟨_, List.mem_map.mpr ⟨device, List.mem_filter.mpr ⟨hmem, decide_eq_true ?_⟩, rfl⟩, hid⟩
        exact ⟨(honly device hmem hid).1, by simp [horphaned]⟩
      · exact .inl hkind
    · cases hentry
    · exact .inr (.inr hseen)

/-- The poll comes to its end. -/
theorem kept_finish (hown : request.ownerId = o) (hs : Sound setup types o i home)
    (hf : (Phase.polling reading [] []).Fits setup types o i c home) :
    Sound setup types o i (home.finish o reading) ∧
      ((home.finish o reading).proceed setup request reading.read.registry reading.poll.startedMs).Fits
        setup types o i c (home.finish o reading) := by
  obtain ⟨-, honly, hlt, -, hread, -, hhas⟩ := hf
  have hpoll : (home.finish o reading).polls o = some reading.poll := Function.update_self ..
  have hseen (h : Has i reading.read.registry) : Seen setup types o i (home.finish o reading) reading.poll.moment := by
    obtain hkind | ⟨entry, hentry, -⟩ | hseen := hhas h
    · cases hkind
    · cases hentry
    -- The registry that was read has the device, so it is not among those forgotten.
    refine hseen.mono List.prefix_rfl (find_forget fun hgone => ?_)
    obtain ⟨device, hmem, hid, -⟩ := h
    have hgone := hgone.2
    unfold Home.gone at hgone
    split at hgone
    · cases hgone
    · split_ifs at hgone
      · exact of_decide_eq_true (List.mem_filter.mp hgone).2 (List.mem_map.mpr ⟨device, hmem, hid⟩)
      · cases hgone
  refine ⟨⟨hs.rows, hs.source, fun known hknown => ?_, fun poll h => ?_, fun _ _ poll h => ?_⟩,
    fits_proceed hown honly fun h => ⟨reading.poll, hpoll, hseen h, fun _ => ?_⟩⟩
  · have hread : (home.finish o reading).known o = some reading.read := Function.update_self ..
    obtain rfl := Option.some.inj (hread.symm.trans hknown)
    exact ⟨honly, reading.poll, hpoll, hseen⟩
  · obtain rfl := Option.some.inj (hpoll.symm.trans h)
    exact hlt
  · obtain rfl := Option.some.inj (hpoll.symm.trans h)
    exact hread
  · exact .inl rfl

theorem kept_advance (hlawful : setup.Lawful) (hown : request.ownerId = o) (hs : Sound setup types o i home)
    (hf : (Phase.polling reading rest kinds).Fits setup types o i c home) :
    Sound setup types o i (home.advance setup request reading draws rest kinds).1 ∧
      (home.advance setup request reading draws rest kinds).2.Fits setup types o i c
        (home.advance setup request reading draws rest kinds).1 := by
  subst hown
  unfold Home.advance
  split
  · exact kept_observe hs hf
  · exact kept_finish rfl hs hf
  · next kind kinds =>
    have hs' : Sound setup types request.ownerId i (home.pollKind setup request.ownerId reading draws kind).1 :=
      hs.beside beside_pollKind
    have hf' : (Phase.polling reading (home.pollKind setup request.ownerId reading draws kind).2 kinds).Fits
        setup types request.ownerId i c (home.pollKind setup request.ownerId reading draws kind).1 :=
      fits_pollKind hlawful hs hf
    split
    · next home' heq =>
      rw [heq] at hs' hf'
      exact ⟨hs', hf'⟩
    · next home' device state rest heq =>
      rw [heq] at hs' hf'
      exact kept_observe hs' hf'

theorem kept_enter {nowMs : Millis} (hown : request.ownerId = o) (hs : Sound setup types o i home)
    (hholder : home.holder o = none) :
    Sound setup types o i (home.enter setup c request nowMs).1 ∧
      (home.enter setup c request nowMs).2.Fits setup types o i c (home.enter setup c request nowMs).1 := by
  subst hown
  have hsettled := hs.settled hholder
  have hhold : Sound setup types request.ownerId i
      { home with holder := Function.update home.holder request.ownerId (some c) } ∧
      (Phase.asking nowMs).Fits setup types request.ownerId i c
        { home with holder := Function.update home.holder request.ownerId (some c) } :=
    ⟨⟨hs.rows, hs.source, hs.known, hs.bound, fun _ => hsettled⟩, Function.update_self .., hsettled⟩
  unfold Home.enter
  dsimp only
  split
  · exact hhold
  · next known hknown =>
    split_ifs with hgood
    · obtain ⟨honly, poll, hpoll, hseen⟩ := hs.known known hknown
      refine ⟨hs, fits_proceed rfl honly fun h => ⟨poll, hpoll, hseen h, fun hbroke => ?_⟩⟩
      refine .inr ?_
      rw [← hsettled hbroke poll hpoll]
      exact hgood.2
    · exact hhold

end Kept

/-! ### A step -/

/-- What a request may be: no adapter observes the device, and no registry gives it to another Provider or
another type. -/
def Request.Fits (o : OwnerId) (i : DeviceId) : Request → Prop
  | .observe ownerId deviceId _ _ => (o, i) ≠ (ownerId, deviceId)
  | .change ownerId sourced => ownerId = o → OnlyVirtual types i sourced.registry
  | _ => True

/-- What a call of the Owner or of another has come to. -/
def Local (requests : Nat → Request) (o : OwnerId) (i : DeviceId) (c : Nat) (home : Home) (phase : Phase) :
    Prop :=
  (requests c).ownerId = o → phase.Fits setup types o i c home

/-- A step keeps what holds, and is beside the poll or one with the lock. -/
structure Keeps (requests : Nat → Request) (o : OwnerId) (i : DeviceId) (c : Nat) (home home' : Home)
    (phase' : Phase) : Prop where
  sound : Sound setup types o i home'
  own : Local setup types requests o i c home' phase'
  other : Beside setup types o i home home' ∨
    (home.holder o = none ∨ home.holder o = some c) ∧ home.moments <+: home'.moments ∧
      (home'.brokeOff o = false → home.brokeOff o = false)

section Steps

variable {setup} {types} {requests : Nat → Request} {o : OwnerId} {i : DeviceId} {home home' : Home} {c : Nat}
  {phase phase' : Phase} {draws : Draws}

theorem Keeps.beside (hs : Sound setup types o i home) (h : Beside setup types o i home home')
    (hown : Local setup types requests o i c home' phase') : Keeps setup types requests o i c home home' phase' :=
  ⟨hs.beside h, hown, .inl h⟩

theorem Keeps.refl (hs : Sound setup types o i home) (hown : Local setup types requests o i c home phase') :
    Keeps setup types requests o i c home home phase' :=
  .beside hs .refl hown

theorem beside_change {ownerId : OwnerId} {sourced : Sourced}
    (h : ownerId = o → OnlyVirtual types i sourced.registry) :
    Beside setup types o i home { home with source := Function.update home.source ownerId sourced } where
  source hsource := by
    dsimp only
    by_cases ho : o = ownerId
    · subst ho
      rw [Function.update_self]
      exact h rfl
    · rw [Function.update_of_ne ho]
      exact hsource
  known := rfl
  readAtMs := rfl
  holder := rfl
  polls := rfl
  brokeOff := rfl
  moments := List.prefix_rfl
  rows := id
  seen _ _ := id

theorem advance_brokeOff {request : Request} {reading : Reading}
    {rest : List (Device × Option DeviceState)} {kinds : List String} :
    (home.advance setup request reading draws rest kinds).1.brokeOff = home.brokeOff ∧
      home.moments <+: (home.advance setup request reading draws rest kinds).1.moments := by
  unfold Home.advance
  split
  · exact ⟨rfl, List.prefix_rfl⟩
  · exact ⟨rfl, List.prefix_rfl⟩
  · next kind kinds =>
    have hpoll : (home.pollKind setup request.ownerId reading draws kind).1.brokeOff = home.brokeOff ∧
        home.moments <+: (home.pollKind setup request.ownerId reading draws kind).1.moments := by
      unfold Home.pollKind
      split_ifs
      any_goals exact ⟨rfl, List.prefix_append _ _⟩
      all_goals exact ⟨rfl, List.prefix_rfl⟩
    split
    · next home' heq =>
      rw [heq] at hpoll
      exact hpoll
    · next home' device state rest heq =>
      rw [heq] at hpoll
      exact hpoll

theorem keeps_enter {request : Request} (hrequest : requests c = request) {nowMs : Millis}
    (hs : Sound setup types o i home) (hholder : home.holder request.ownerId = none) :
    Keeps setup types requests o i c home (home.enter setup c request nowMs).1
      (home.enter setup c request nowMs).2 := by
  subst hrequest
  by_cases hown : (requests c).ownerId = o
  · obtain ⟨hsound, hfits⟩ : Sound setup types o i (home.enter setup c (requests c) nowMs).1 ∧
        (home.enter setup c (requests c) nowMs).2.Fits setup types o i c
          (home.enter setup c (requests c) nowMs).1 := kept_enter hown hs (hown ▸ hholder)
    refine ⟨hsound, fun _ => hfits, .inr ⟨.inl (hown ▸ hholder), ?_⟩⟩
    unfold Home.enter
    dsimp only
    split
    · exact ⟨List.prefix_rfl, id⟩
    · split_ifs <;> exact ⟨List.prefix_rfl, id⟩
  · exact .beside hs (beside_enter (Ne.symm hown)) fun h => absurd h hown

theorem keeps_idle (hs : Sound setup types o i home) (hfits : (requests c).Fits types o i) :
    Keeps setup types requests o i c home (home.act setup requests c draws .idle).1
      (home.act setup requests c draws .idle).2 := by
  have htrivial (home : Home) : Local setup types requests o i c home .ended := fun _ => trivial
  unfold Home.act
  cases hrequest : requests c with
  | observe ownerId deviceId reachable state =>
    rw [hrequest] at hfits
    exact .beside hs (beside_observe hfits) (htrivial _)
  | change ownerId sourced =>
    rw [hrequest] at hfits
    exact .beside hs (beside_change hfits) (htrivial _)
  | snapshot ownerId | execute ownerId commands =>
    dsimp only
    split_ifs with hbreaks hholder
    · exact .refl hs (htrivial _)
    · exact keeps_enter hrequest hs hholder
    · exact .refl hs fun _ => trivial

theorem keeps_asking {startedMs : Millis} (hlawful : setup.Lawful) (hs : Sound setup types o i home)
    (hf : Local setup types requests o i c home (.asking startedMs)) :
    Keeps setup types requests o i c home (home.act setup requests c draws (.asking startedMs)).1
      (home.act setup requests c draws (.asking startedMs)).2 := by
  unfold Home.act
  by_cases hown : (requests c).ownerId = o
  · obtain ⟨hholder, hsettled⟩ := hf hown
    subst hown
    dsimp only
    split_ifs
    · exact ⟨⟨hs.rows, hs.source, hs.known, hs.bound, fun _ => hsettled⟩, fun _ => trivial,
        .inr ⟨.inr hholder, List.prefix_rfl, id⟩⟩
    · have hpos : 0 < home.moments.length := by
        have hrows := hs.rows
        rw [List.getLast?_eq_getElem?] at hrows
        have hlt := (List.getElem?_eq_some_iff.mp hrows).1
        omega
      refine ⟨⟨hs.rows, hs.source, hs.known, hs.bound, fun hfree => ?_⟩, fun _ => ?_,
        .inr ⟨.inr hholder, List.prefix_rfl, id⟩⟩
      · rw [hholder] at hfree
        cases hfree
      · refine ⟨hholder, hs.source, Nat.sub_lt hpos Nat.one_pos, fun poll hpoll => ?_,
          Function.update_self .., fun entry hentry => absurd hentry List.not_mem_nil,
          fun _ => .inl hlawful.enabled⟩
        have hlt := hs.bound poll hpoll
        dsimp only
        omega
  · have hne : o ≠ (requests c).ownerId := Ne.symm hown
    dsimp only
    split_ifs
    · exact .beside hs (beside_release hne) fun h => absurd h hown
    · refine .beside hs ?_ fun h => absurd h hown
      exact ⟨id, rfl, Function.update_of_ne hne .., rfl, rfl, rfl, List.prefix_rfl, id, fun _ _ => id⟩

theorem keeps_polling {reading : Reading} {rest : List (Device × Option DeviceState)} {kinds : List String}
    (hlawful : setup.Lawful) (hs : Sound setup types o i home)
    (hf : Local setup types requests o i c home (.polling reading rest kinds)) :
    Keeps setup types requests o i c home (home.act setup requests c draws (.polling reading rest kinds)).1
      (home.act setup requests c draws (.polling reading rest kinds)).2 := by
  unfold Home.act
  by_cases hown : (requests c).ownerId = o
  · have hfits := hf hown
    dsimp only
    split_ifs
    · subst hown
      -- The time is that of a poll whose registry was not kept: nothing is said of how old the kept one is.
      have hbroke : Function.update home.brokeOff (requests c).ownerId true (requests c).ownerId ≠ false := by
        simp
      exact ⟨⟨hs.rows, hs.source, hs.known, hs.bound, fun _ h => absurd h hbroke⟩, fun _ => trivial,
        .inr ⟨.inr hfits.1, List.prefix_rfl, fun h => absurd h hbroke⟩⟩
    · obtain ⟨hsound, hlocal⟩ : Sound setup types o i (home.advance setup (requests c) reading draws rest kinds).1 ∧
          (home.advance setup (requests c) reading draws rest kinds).2.Fits setup types o i c
            (home.advance setup (requests c) reading draws rest kinds).1 :=
        kept_advance hlawful hown hs hfits
      refine ⟨hsound, fun _ => hlocal, .inr ⟨.inr hfits.1, advance_brokeOff.2, fun h => ?_⟩⟩
      rw [← h, advance_brokeOff.1]
  · have hne : o ≠ (requests c).ownerId := Ne.symm hown
    dsimp only
    split_ifs
    · refine .beside hs ?_ fun h => absurd h hown
      exact ⟨id, rfl, rfl, Function.update_of_ne hne .., rfl, Function.update_of_ne hne .., List.prefix_rfl,
        id, fun _ _ => id⟩
    · exact .beside hs (beside_advance hne) fun h => absurd h hown

theorem keeps_running {registry : Registry} {commands : List Command} (hlawful : setup.Lawful)
    (hs : Sound setup types o i home) (hf : Local setup types requests o i c home (.running registry commands)) :
    Keeps setup types requests o i c home (home.act setup requests c draws (.running registry commands)).1
      (home.act setup requests c draws (.running registry commands)).2 := by
  unfold Home.act
  dsimp only
  split
  · exact .refl hs fun _ => trivial
  · next command hcommand =>
    split_ifs
    · exact .refl hs hf
    · exact .beside hs (beside_carryOut hlawful hs hf) hf

/-- **What one step keeps.** -/
theorem keeps_act (hlawful : setup.Lawful) (hfits : ∀ c, (requests c).Fits types o i) (hs : Sound setup types o i home)
    (hf : Local setup types requests o i c home phase) :
    Keeps setup types requests o i c home (home.act setup requests c draws phase).1
      (home.act setup requests c draws phase).2 := by
  cases phase with
  | idle => exact keeps_idle hs (hfits c)
  | asking startedMs => exact keeps_asking hlawful hs hf
  | polling reading rest kinds => exact keeps_polling hlawful hs hf
  | running registry commands => exact keeps_running hlawful hs hf
  | answered registry status poll askedMs => exact .refl hs hf
  | ended => exact .refl hs hf

theorem Keeps.others (h : Keeps setup types requests o i c home home' phase') {d : Nat} (hne : d ≠ c)
    (hf : Local setup types requests o i d home phase) : Local setup types requests o i d home' phase := by
  intro hown
  obtain hbeside | ⟨hholder, hmoments, hbroke⟩ := h.other
  · exact (hf hown).beside hbeside
  · exact (hf hown).other hne hholder hmoments hbroke

theorem sound_opened {source : OwnerId → Sourced} {rows : VirtualRows} {observations : List ObservationRow}
    (hsource : OnlyVirtual types i (source o).registry) :
    Sound setup types o i (Home.opened source rows observations).shared where
  rows := rfl
  source := hsource
  known _ h := nomatch h
  bound _ h := nomatch h
  settled _ _ _ h := nomatch h

end Steps

/-! ### Runs -/

/-- **What every schedule keeps.** -/
theorem kept_run (hlawful : setup.Lawful) {requests : Nat → Request} {o : OwnerId} {i : DeviceId}
    (hfits : ∀ c, (requests c).Fits types o i) {source : OwnerId → Sourced}
    (hsource : OnlyVirtual types i (source o).registry) (rows : VirtualRows)
    (observations : List ObservationRow) (turns : List (Turn Draws)) :
    Sound setup types o i
      (run (Pool.step (Home.act setup requests)) (Home.opened source rows observations) turns).shared ∧
    ∀ c, Local setup types requests o i c
      (run (Pool.step (Home.act setup requests)) (Home.opened source rows observations) turns).shared
      ((run (Pool.step (Home.act setup requests)) (Home.opened source rows observations) turns).phase c) :=
  Pool.inv (L := Local setup types requests o i) (fun _ _ _ _ hs hf => (keeps_act hlawful hfits hs hf).sound)
    (fun _ _ _ _ hs hf => (keeps_act hlawful hfits hs hf).own)
    (fun _ _ _ _ _ _ hne hs hf hf' => (keeps_act hlawful hfits hs hf).others hne hf')
    ⟨sound_opened hsource, fun _ _ => trivial⟩ turns

/-- **A panel is shown what the virtual device was in since the last poll.** However the calls of all
Owners run side by side, `snapshot` shows every device of the virtual Provider that is no orphan online,
and in a state that the Provider reported in one of its tables since the last poll began that came to its
end. That poll is the one of this call, or began less than the time for which a registry is good before,
unless a poll was broken off. -/
theorem panel_current (setup : PanelSetup) (types : String → Prop) (hlawful : setup.Lawful)
    (requests : Nat → Request) (o : OwnerId) (i : DeviceId) (hfits : ∀ c, (requests c).Fits types o i) (source : OwnerId → Sourced)
    (hsource : OnlyVirtual types i (source o).registry) (rows : VirtualRows)
    (observations : List ObservationRow) (turns : List (Turn Draws)) (c : Nat)
    (hown : (requests c).ownerId = o) (registry : Registry) (status : List Status) (poll : Option Poll) (askedMs : Millis)
    (hanswer : (run (Pool.step (Home.act setup requests)) (Home.opened source rows observations) turns).phase c =
      .answered registry status poll askedMs) (hhas : Has i registry) :
    ∃ last state, poll = some last ∧ ⟨i, true, state⟩ ∈ status ∧
      Had setup types o i
        (run (Pool.step (Home.act setup requests)) (Home.opened source rows observations) turns).shared
        last.moment state ∧
      ((run (Pool.step (Home.act setup requests)) (Home.opened source rows observations) turns).shared.brokeOff
        o = false → setup.Lately last askedMs) := by
  have hlocal := (kept_run setup types hlawful hfits hsource rows observations turns).2 c hown
  rw [hanswer] at hlocal
  obtain ⟨last, state, hpoll, htime, hmem, hhad⟩ := hlocal hhas
  exact ⟨last, state, hpoll, hmem, hhad, htime⟩

/-! ### A lamp -/

namespace Sample

/-- Only virtual devices. -/
def lampSetup : PanelSetup where
  runtime :=
    { dumps := fun _ => "", validateDeviceCommand := fun _ _ => none, validateDeviceState := fun _ _ => none
      providers := [virtualKind] }
  virtual := VirtualProvider.Sample.switches
  pushes _ := false
  registryTtlMs := 1000

theorem lampSetup_lawful : lampSetup.Lawful where
  virtual := VirtualProvider.Sample.switches_lawful
  starts _ := by
    show VirtualProvider.Sample.switches.loads (VirtualProvider.Sample.switches.dumps { on := some false }) =
      some { on := some false }
    decide
  enabled := List.mem_singleton_self _
  polled := rfl

/-- A home with one lamp. -/
def lamps : Registry := ⟨[VirtualProvider.Sample.lamp], []⟩

theorem onlyVirtual_lamps : OnlyVirtual (· = "switch") "living.lamp" lamps := by
  intro device hmem _
  obtain rfl := List.mem_singleton.mp hmem
  exact ⟨rfl, rfl⟩

/-- The lamp is switched on, and then its panel is drawn. -/
def requests : Nat → Request
  | 0 => .execute "owner-a" [⟨"living.lamp", .on⟩]
  | _ => .snapshot "owner-a"

theorem requests_fit (c : Nat) : (requests c).Fits (· = "switch") "owner-a" "living.lamp" := by
  cases c <;> trivial

/-- What a step of the example draws: the clock, and no change. -/
def draws (nowMs : Millis) : Draws := ⟨nowMs, false, fun _ => none, none, 0⟩

/-- The panel waits for the poll of the command. -/
def turns : List (Turn Draws) :=
  [⟨0, draws 100⟩, ⟨1, draws 110⟩, ⟨0, draws 120⟩, ⟨0, draws 130⟩, ⟨0, draws 140⟩, ⟨0, draws 150⟩,
    ⟨1, draws 160⟩]

/-- The home of the example after its turns. -/
def home : Pool Home Phase :=
  run (Pool.step (Home.act lampSetup requests)) (Home.opened (fun _ => ⟨lamps, 1⟩) (fun _ _ => none) [])
    turns

end Sample

theorem panel_current_lamp : ∃ last state, some ⟨100, 0⟩ = some last ∧
    ⟨"living.lamp", true, state⟩ ∈ [(⟨"living.lamp", true, { on := some true }⟩ : Status)] ∧
    Had Sample.lampSetup (· = "switch") "owner-a" "living.lamp" Sample.home.shared last.moment state ∧
    (Sample.home.shared.brokeOff "owner-a" = false → Sample.lampSetup.Lately last 160) :=
  panel_current Sample.lampSetup (· = "switch") Sample.lampSetup_lawful Sample.requests "owner-a" "living.lamp"
    Sample.requests_fit (fun _ => ⟨Sample.lamps, 1⟩) Sample.onlyVirtual_lamps (fun _ _ => none) [] Sample.turns 1 rfl Sample.lamps
    [⟨"living.lamp", true, { on := some true }⟩] (some ⟨100, 0⟩) 160 (by decide +kernel)
    ⟨VirtualProvider.Sample.lamp, List.mem_singleton_self _, rfl, rfl⟩

end EidolonHub.SmartHome.Panel
