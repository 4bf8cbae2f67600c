import EidolonHub.Library.Run
import EidolonHub.SmartHome.Runtime

/-!
# EidolonHub.SmartHome.Virtual

**The virtual Provider.** Its devices are rows of a table of its own: a row has the type the
device had when it was written and its state as JSON. A row that no longer describes its
device is as good as none, and a state is only written where it is another one.

What is reported of a device is its commands carried out one after the other, from where it
was last started: at its first use, and wherever its Owner's registry was reconciled without
it or with another type for it.
-/

namespace EidolonHub.SmartHome

open EidolonHub.Library

/-! ### States and rows -/

/-- The state with every number as the `float` of its value. -/
def DeviceState.values (state : DeviceState) : DeviceState :=
  { state with
    targetC := state.targetC.map fun n => .float n.value
    currentC := state.currentC.map fun n => .float n.value
    tempC := state.tempC.map fun n => .float n.value }

/-- `a == b`: numbers are compared by their values. -/
def DeviceState.equals (a b : DeviceState) : Bool := a.values = b.values

/-- The target is written as an `int` where it is one. -/
def DeviceState.Whole (state : DeviceState) : Prop := state.targetC.map Number.whole = state.targetC

/-- What the Provider relies on: the vocabulary, and `json`. -/
structure VirtualSetup where
  types : DeviceTypes
  initialState : String → DeviceState
  dumps : DeviceState → String
  /-- `none` where `json.loads` raises, or reads something that is no state. -/
  loads : String → Option DeviceState

/-- What is relied on: `json` reads back what it wrote of a state, a type that has states starts in one
of them, and a cover has a position. -/
structure VirtualSetup.Lawful (setup : VirtualSetup) : Prop where
  reads : ∀ kind state, setup.types.validateState kind state = .ok () →
    setup.loads (setup.dumps state) = some state
  initial : ∀ kind state, setup.types.validateState kind state = .ok () →
    setup.types.validateState kind (setup.initialState kind) = .ok ()
  positioned : ∀ kind action state, setup.types.validateCommand kind action = .ok () →
    setup.types.validateState kind state = .ok () → action.trait = .position → state.position ≠ none

/-- A row of `virtual_devices`. -/
structure VirtualRow where
  deviceType : String
  stateJson : String
  deriving DecidableEq

/-- The rows, by their primary key. -/
abbrev VirtualRows := OwnerId → DeviceId → Option VirtualRow

/-- How `execute` fails. -/
inductive VirtualError where
  /-- The `ValueError` of a command that addresses a different device. -/
  | otherDevice
  | apply (e : ApplyError)
  deriving DecidableEq

namespace VirtualProvider

variable (setup : VirtualSetup)

/-- `_stored_state`: the stored state if it still describes this device. -/
def storedState (device : Device) (row : Option VirtualRow) : Option DeviceState :=
  match row with
  | none => none
  | some row =>
    if row.deviceType ≠ device.type then none
    else (setup.loads row.stateJson).filter fun state => (setup.types.validateState device.type state).isOk

/-- `_stored_state(device, row) or initial_state(device.type)`. -/
def currentState (device : Device) (row : Option VirtualRow) : DeviceState :=
  match storedState setup device row with
  | none => setup.initialState device.type
  -- an empty `dict` is false
  | some state => if state = {} then setup.initialState device.type else state

/-- What `states` reports of a device. -/
def shown (rows : VirtualRows) (ownerId : OwnerId) (device : Device) : DeviceState :=
  currentState setup device (rows ownerId device.deviceId)

/-- `states`. -/
def states (rows : VirtualRows) (ownerId : OwnerId) (devices : List Device) :
    List (DeviceId × DeviceState) :=
  devices.map fun device => (device.deviceId, shown setup rows ownerId device)

/-- `_write`. -/
def write (rows : VirtualRows) (ownerId : OwnerId) (device : Device) (state : DeviceState) : VirtualRows :=
  Function.update rows ownerId
    (Function.update (rows ownerId) device.deviceId (some ⟨device.type, setup.dumps state⟩))

/-- The rows of the Owner that `reconcile` does not delete. -/
def wanted (rows : VirtualRows) (ownerId : OwnerId) (devices : List Device) : VirtualRows :=
  Function.update rows ownerId fun deviceId =>
    if deviceId ∈ devices.map (·.deviceId) then rows ownerId deviceId else none

/-- A device is started afresh, unless the row that was read still describes it. -/
def startUnlessStored (read : VirtualRows) (ownerId : OwnerId) (rows : VirtualRows) (device : Device) :
    VirtualRows :=
  match storedState setup device (read ownerId device.deviceId) with
  | none => write setup rows ownerId device (setup.initialState device.type)
  | some _ => rows

/-- `reconcile`; the rows are read before it deletes any. -/
def reconcile (rows : VirtualRows) (ownerId : OwnerId) (devices : List Device) : VirtualRows :=
  devices.foldl (startUnlessStored setup rows ownerId) (wanted rows ownerId devices)

/-- `execute`. -/
def execute (rows : VirtualRows) (ownerId : OwnerId) (device : Device) (command : Command) :
    Except VirtualError (VirtualRows × DeviceState) :=
  if command.deviceId ≠ device.deviceId then .error .otherDevice
  else
    let row := rows ownerId device.deviceId
    let current := currentState setup device row
    match applyCommand setup.types device.type current command.action with
    | .error e => .error (.apply e)
    | .ok state =>
      .ok (if row.isNone ∨ ¬ state.equals current then write setup rows ownerId device state else rows, state)

/-- A call of the Provider; one that fails leaves the rows as they are. -/
inductive Call where
  | reconcile (ownerId : OwnerId) (devices : List Device)
  | states (ownerId : OwnerId) (devices : List Device)
  | execute (ownerId : OwnerId) (device : Device) (command : Command)

/-- The rows after a call. -/
def next (rows : VirtualRows) : Call → VirtualRows
  | .reconcile ownerId devices => reconcile setup rows ownerId devices
  | .states .. => rows
  | .execute ownerId device command =>
    match execute setup rows ownerId device command with
    | .error _ => rows
    | .ok (rows', _) => rows'

/-- What a call makes of a device's state: a command for it is carried out, and a registry without it, or
with another type for it, starts it afresh. -/
def carry (ownerId : OwnerId) (device : Device) (state : DeviceState) : Call → DeviceState
  | .reconcile o devices =>
    if o = ownerId ∧ ∀ d ∈ devices, ¬ (d.deviceId = device.deviceId ∧ d.type = device.type) then
      setup.initialState device.type
    else state
  | .states .. => state
  | .execute o d command =>
    if o = ownerId ∧ d.deviceId = device.deviceId ∧ command.deviceId = d.deviceId then
      match applyCommand setup.types device.type state command.action with
      | .error _ => state
      | .ok new => new
    else state

/-- A registry names a device once, and a command comes with the device's type. -/
def Call.Fits (ownerId : OwnerId) (device : Device) : Call → Prop
  | .reconcile o devices => o = ownerId → (devices.map (·.deviceId)).Nodup
  | .states .. => True
  | .execute o d _ => o = ownerId → d.deviceId = device.deviceId → d.type = device.type

/-! ### What is reported -/

variable {setup} {rows : VirtualRows} {ownerId o : OwnerId} {device d : Device} {state new : DeviceState}
  {command : Command} {devices : List Device}

theorem storedState_valid {row : Option VirtualRow} (h : storedState setup device row = some state) :
    setup.types.validateState device.type state = .ok () := by
  unfold storedState at h
  cases row with
  | none => cases h
  | some row =>
    dsimp only at h
    split_ifs at h
    obtain ⟨-, hvalid⟩ := Option.filter_eq_some_iff.mp h
    cases hcheck : setup.types.validateState device.type state with
    | error e => rw [hcheck] at hvalid; cases hvalid
    | ok u => rfl

theorem storedState_type {row : VirtualRow} (h : storedState setup device (some row) = some state) :
    row.deviceType = device.type := by
  unfold storedState at h
  dsimp only at h
  split_ifs at h with htype
  exact not_not.mp htype

/-- A row of another type is as good as none. -/
theorem storedState_of_type_ne {row : VirtualRow} (h : row.deviceType ≠ device.type) :
    storedState setup device (some row) = none := by
  unfold storedState
  exact if_pos h

/-- A valid state is read back. -/
theorem storedState_written (hlawful : setup.Lawful)
    (hvalid : setup.types.validateState device.type state = .ok ()) :
    storedState setup device (some ⟨device.type, setup.dumps state⟩) = some state := by
  unfold storedState
  dsimp only
  rw [if_neg (not_not.mpr rfl), hlawful.reads _ _ hvalid, Option.filter_some, hvalid]
  rfl

theorem currentState_of_none {row : Option VirtualRow} (h : storedState setup device row = none) :
    currentState setup device row = setup.initialState device.type := by
  unfold currentState
  rw [h]

/-- What is reported of a device is a state of its type, if the type has one. -/
theorem currentState_valid (hlawful : setup.Lawful) (row : Option VirtualRow)
    (hvalid : setup.types.validateState device.type state = .ok ()) :
    setup.types.validateState device.type (currentState setup device row) = .ok () := by
  unfold currentState
  cases hstored : storedState setup device row with
  | none => exact hlawful.initial _ _ hvalid
  | some stored =>
    dsimp only
    split_ifs
    · exact hlawful.initial _ _ hvalid
    · exact storedState_valid hstored

/-- A device that was started afresh reports the state its type starts in. -/
theorem currentState_started (hlawful : setup.Lawful) :
    currentState setup device (some ⟨device.type, setup.dumps (setup.initialState device.type)⟩) =
      setup.initialState device.type := by
  unfold currentState
  cases hstored : storedState setup device
      (some ⟨device.type, setup.dumps (setup.initialState device.type)⟩) with
  | none => rfl
  | some stored =>
    have hread : setup.loads (setup.dumps (setup.initialState device.type)) =
        some (setup.initialState device.type) :=
      hlawful.reads _ _ (hlawful.initial _ _ (storedState_valid hstored))
    have heq := storedState_written hlawful (hlawful.initial _ _ (storedState_valid hstored))
    rw [hstored] at heq
    dsimp only
    split_ifs
    · rfl
    · exact Option.some.inj heq

/-! ### Commands -/

theorem impliesOn_eq_empty {action : Action} (h : impliesOn action new = {}) : new = {} := by
  unfold impliesOn at h
  split_ifs at h
  · cases new
    simp_all
  · exact h

theorem setFields_ne_empty {types : DeviceTypes} {kind : String} {action : Action}
    (hposition : action.trait = .position → state.position ≠ none)
    (h : setFields types kind state action = .ok new) : new ≠ {} := by
  rintro rfl
  cases action with
  | stopCover =>
    cases h
    exact hposition rfl rfl
  | toggle | stepLevel | stepTarget | stepSpeed | stepVolume =>
    simp only [setFields, required, bind, Except.bind, pure, Except.pure] at h
    split at h
    · cases h
    · simp at h
  | _ => simp [setFields] at h

/-- A command that is carried out leaves a state that says something. -/
theorem applyCommand_ne_empty (hlawful : setup.Lawful) {kind : String} {action : Action}
    (hvalid : setup.types.validateState kind state = .ok ())
    (h : applyCommand setup.types kind state action = .ok new) : new ≠ {} := by
  obtain ⟨hcommand, fields, hfields, rfl⟩ := applyCommand_ok h
  intro hempty
  exact setFields_ne_empty (hlawful.positioned _ _ _ hcommand hvalid) hfields (impliesOn_eq_empty hempty)

/-- A command that is carried out leaves a state of the type. -/
theorem applyCommand_valid {kind : String} {action : Action}
    (h : applyCommand setup.types kind state action = .ok new) :
    setup.types.validateState kind new = .ok () := by
  obtain ⟨hcommand, fields, hfields, rfl⟩ := applyCommand_ok h
  unfold applyCommand at h
  rw [hcommand, hfields] at h
  cases hstate : setup.types.validateState kind (impliesOn action fields) with
  | error e =>
    simp only [hstate, Except.mapError, bind, Except.bind] at h
    cases h
  | ok u => rfl

/-- What `execute` answers is what the command makes of the state that was reported; the row is written
unless it reports this state already. -/
theorem execute_ok {rows' : VirtualRows}
    (h : execute setup rows ownerId device command = .ok (rows', new)) :
    command.deviceId = device.deviceId ∧
      applyCommand setup.types device.type (shown setup rows ownerId device) command.action = .ok new ∧
      (rows' = write setup rows ownerId device new ∨
        rows' = rows ∧ new.equals (shown setup rows ownerId device) = true) := by
  unfold execute at h
  split_ifs at h with hdevice
  dsimp only at h
  split at h
  · cases h
  next state hstate =>
  obtain ⟨hrows, rfl⟩ := Prod.mk.inj (Except.ok.inj h)
  refine ⟨not_not.mp hdevice, hstate, ?_⟩
  split_ifs at hrows with hwrites
  · exact .inl hrows.symm
  · have hsame := not_not.mp (not_or.mp hwrites).2
    exact .inr ⟨hrows.symm, hsame⟩

theorem execute_error {e : VirtualError} (h : execute setup rows ownerId device command = .error e) :
    command.deviceId ≠ device.deviceId ∨
      ∃ e', applyCommand setup.types device.type (shown setup rows ownerId device) command.action =
        .error e' := by
  unfold execute at h
  split_ifs at h with hdevice
  · exact .inl hdevice
  · dsimp only at h
    split at h
    next e' he => exact .inr ⟨e', he⟩
    · cases h

/-! ### Writes -/

/-- A row is one of its Owner and its device. -/
theorem write_of_ne (h : o ≠ ownerId ∨ d.deviceId ≠ device.deviceId) :
    write setup rows ownerId device state o d.deviceId = rows o d.deviceId := by
  unfold write
  by_cases ho : o = ownerId
  · subst ho
    rw [Function.update_self, Function.update_of_ne (h.resolve_left (not_not.mpr rfl))]
  · rw [Function.update_of_ne ho]

@[simp] theorem write_self :
    write setup rows ownerId device state ownerId device.deviceId =
      some ⟨device.type, setup.dumps state⟩ := by
  unfold write
  rw [Function.update_self, Function.update_self]

/-- What was written is reported. -/
theorem shown_write (hlawful : setup.Lawful)
    (hvalid : setup.types.validateState device.type state = .ok ()) (hempty : state ≠ {}) :
    shown setup (write setup rows ownerId device state) ownerId device = state := by
  unfold shown currentState
  rw [write_self, storedState_written hlawful hvalid]
  exact if_neg hempty

/-- **A command is what is reported next**, but for how its numbers are written. -/
theorem shown_execute (hlawful : setup.Lawful) {rows' : VirtualRows}
    (h : execute setup rows ownerId device command = .ok (rows', new)) :
    new.equals (shown setup rows' ownerId device) = true := by
  obtain ⟨-, happly, rfl | ⟨rfl, hsame⟩⟩ := execute_ok h
  · have hvalid := applyCommand_valid happly
    have hshown := currentState_valid hlawful (rows ownerId device.deviceId) hvalid
    rw [shown_write hlawful hvalid (applyCommand_ne_empty hlawful hshown happly)]
    exact decide_eq_true rfl
  · exact hsame

/-! ### Numbers -/

theorem whole_congr {a b : Number} (h : a.value = b.value) : a.whole = b.whole := by
  unfold Number.whole
  rw [h]

/-- A command leaves what was measured, and writes a temperature as an `int` where it is one. -/
theorem setFields_numbers {types : DeviceTypes} {kind : String} {action : Action}
    (h : setFields types kind state action = .ok new) :
    new.currentC = state.currentC ∧ new.tempC = state.tempC ∧
      (new.targetC = state.targetC ∨ ∃ n : Number, new.targetC = some n.whole) := by
  cases action with
  | setTarget celsius =>
    cases h
    exact ⟨rfl, rfl, .inr ⟨celsius, rfl⟩⟩
  | stepTarget delta =>
    simp only [setFields, required, bind, Except.bind, pure, Except.pure] at h
    split at h
    · cases h
    · cases h
      exact ⟨rfl, rfl, .inr ⟨_, rfl⟩⟩
  | toggle | stepLevel | stepSpeed | stepVolume =>
    simp only [setFields, required, bind, Except.bind, pure, Except.pure] at h
    split at h
    · cases h
    · cases h
      exact ⟨rfl, rfl, .inl rfl⟩
  | _ =>
    cases h
    exact ⟨rfl, rfl, .inl rfl⟩

theorem applyCommand_numbers {types : DeviceTypes} {kind : String} {action : Action}
    (h : applyCommand types kind state action = .ok new) :
    new.currentC = state.currentC ∧ new.tempC = state.tempC ∧
      (new.targetC = state.targetC ∨ ∃ n : Number, new.targetC = some n.whole) := by
  obtain ⟨-, fields, hfields, rfl⟩ := applyCommand_ok h
  have hnumbers := setFields_numbers hfields
  unfold impliesOn
  split_ifs
  · exact hnumbers
  · exact hnumbers

theorem Whole.apply {types : DeviceTypes} {kind : String} {action : Action} (hwhole : state.Whole)
    (h : applyCommand types kind state action = .ok new) : new.Whole := by
  obtain ⟨-, -, htarget | ⟨n, hn⟩⟩ := applyCommand_numbers h
  · unfold DeviceState.Whole
    rw [htarget]
    exact hwhole
  · unfold DeviceState.Whole
    rw [hn, Option.map_some, whole_congr (Number.whole_value n)]

/-- A command that makes an equal state makes the same one. -/
theorem applyCommand_eq_of_equals {types : DeviceTypes} {kind : String} {action : Action}
    (hwhole : state.Whole) (h : applyCommand types kind state action = .ok new)
    (hequals : new.equals state = true) : new = state := by
  obtain ⟨hcurrent, htemp, htarget⟩ := applyCommand_numbers h
  have hvalues : new.values = state.values := of_decide_eq_true hequals
  have hsame : new.targetC = state.targetC := by
    obtain hkept | ⟨n, hn⟩ := htarget
    · exact hkept
    · have htargets := congrArg DeviceState.targetC hvalues
      unfold DeviceState.values at htargets
      unfold DeviceState.Whole at hwhole
      dsimp only at htargets
      rw [hn] at htargets ⊢
      cases hstate : state.targetC with
      | none => rw [hstate] at htargets; cases htargets
      | some m =>
        rw [hstate] at htargets hwhole
        have hvalue : n.whole.value = m.value := Number.float.inj (Option.some.inj htargets)
        have hm : m.whole = m := Option.some.inj hwhole
        rw [← whole_congr (Number.whole_value n), whole_congr hvalue, hm]
  unfold DeviceState.values at hvalues
  cases new
  cases state
  simp only [DeviceState.mk.injEq] at hvalues hcurrent htemp hsame ⊢
  obtain ⟨h1, h2, h3, -, -, h6, h7, h8, h9, h10, h11, -, h13⟩ := hvalues
  exact ⟨h1, h2, h3, hsame, hcurrent, h6, h7, h8, h9, h10, h11, htemp, h13⟩

/-! ### Registries -/

theorem startUnlessStored_none {read written : VirtualRows}
    (h : storedState setup device (read ownerId device.deviceId) = none) :
    startUnlessStored setup read ownerId written device =
      write setup written ownerId device (setup.initialState device.type) := by
  unfold startUnlessStored
  rw [h]

theorem startUnlessStored_some {read written : VirtualRows}
    (h : storedState setup device (read ownerId device.deviceId) = some state) :
    startUnlessStored setup read ownerId written device = written := by
  unfold startUnlessStored
  rw [h]

theorem startUnlessStored_of_ne {read written : VirtualRows}
    (h : o ≠ ownerId ∨ d.deviceId ≠ device.deviceId) :
    startUnlessStored setup read ownerId written device o d.deviceId = written o d.deviceId := by
  cases hstored : storedState setup device (read ownerId device.deviceId) with
  | none => rw [startUnlessStored_none hstored, write_of_ne h]
  | some state => rw [startUnlessStored_some hstored]

/-- The rows of other Owners and of devices that are not named stay. -/
theorem foldl_start_of_ne {read written : VirtualRows}
    (h : o ≠ ownerId ∨ ∀ named ∈ devices, d.deviceId ≠ named.deviceId) :
    devices.foldl (startUnlessStored setup read ownerId) written o d.deviceId = written o d.deviceId := by
  induction devices generalizing written with
  | nil => rfl
  | cons named devices ih =>
    rw [List.foldl_cons, ih (h.imp_right fun h x hx => h x (List.mem_cons_of_mem _ hx))]
    exact startUnlessStored_of_ne (h.imp_right fun h => h named List.mem_cons_self)

/-- A device that is named once is started afresh where the row that was read does not describe it. -/
theorem foldl_start_of_mem {read written : VirtualRows} (hnodup : (devices.map (·.deviceId)).Nodup)
    (hmem : device ∈ devices) :
    devices.foldl (startUnlessStored setup read ownerId) written ownerId device.deviceId =
      startUnlessStored setup read ownerId written device ownerId device.deviceId := by
  induction devices generalizing written with
  | nil => cases hmem
  | cons named devices ih =>
    rw [List.map_cons, List.nodup_cons] at hnodup
    rw [List.foldl_cons]
    rcases List.mem_cons.mp hmem with rfl | hlater
    · refine foldl_start_of_ne (.inr fun d hd heq => hnodup.1 ?_)
      rw [heq]
      exact List.mem_map_of_mem hd
    · have hne : device.deviceId ≠ named.deviceId := fun heq =>
        hnodup.1 (heq ▸ List.mem_map_of_mem hlater)
      rw [ih hnodup.2 hlater]
      cases hstored : storedState setup device (read ownerId device.deviceId) with
      | none => rw [startUnlessStored_none hstored, startUnlessStored_none hstored, write_self, write_self]
      | some state =>
        rw [startUnlessStored_some hstored, startUnlessStored_some hstored]
        exact startUnlessStored_of_ne (.inr hne)

theorem wanted_of_mem (h : device ∈ devices) :
    wanted rows ownerId devices ownerId device.deviceId = rows ownerId device.deviceId := by
  unfold wanted
  rw [Function.update_self, if_pos (List.mem_map_of_mem h)]

/-- The row of a device in the registry, once it is reconciled. -/
theorem reconcile_of_mem (hnodup : (devices.map (·.deviceId)).Nodup) (hmem : device ∈ devices) :
    reconcile setup rows ownerId devices ownerId device.deviceId =
      match storedState setup device (rows ownerId device.deviceId) with
      | none => some ⟨device.type, setup.dumps (setup.initialState device.type)⟩
      | some _ => rows ownerId device.deviceId := by
  unfold reconcile
  rw [foldl_start_of_mem hnodup hmem]
  cases hstored : storedState setup device (rows ownerId device.deviceId) with
  | none => rw [startUnlessStored_none hstored, write_self]
  | some state => rw [startUnlessStored_some hstored, wanted_of_mem hmem]

/-- A device that is not in the registry has no row any more. -/
theorem reconcile_of_not_mem (h : ∀ named ∈ devices, device.deviceId ≠ named.deviceId) :
    reconcile setup rows ownerId devices ownerId device.deviceId = none := by
  unfold reconcile
  rw [foldl_start_of_ne (.inr h)]
  unfold wanted
  rw [Function.update_self, if_neg]
  intro hmem
  obtain ⟨named, hnamed, heq⟩ := List.mem_map.mp hmem
  exact h named hnamed heq.symm

theorem reconcile_of_ne (h : o ≠ ownerId) :
    reconcile setup rows ownerId devices o device.deviceId = rows o device.deviceId := by
  unfold reconcile wanted
  rw [foldl_start_of_ne (.inl h), Function.update_of_ne h]

theorem shown_congr {rows' : VirtualRows}
    (h : rows' ownerId device.deviceId = rows ownerId device.deviceId) :
    shown setup rows' ownerId device = shown setup rows ownerId device := by
  unfold shown
  rw [h]

/-- A device is reported by its id and its type. -/
theorem shown_of_alike (hid : d.deviceId = device.deviceId) (htype : d.type = device.type) :
    shown setup rows ownerId d = shown setup rows ownerId device := by
  unfold shown currentState storedState
  rw [hid, htype]

/-- **A registry keeps what is reported of its devices**, and starts the others afresh. -/
theorem shown_reconcile (hlawful : setup.Lawful) (hnodup : (devices.map (·.deviceId)).Nodup) :
    shown setup (reconcile setup rows ownerId devices) ownerId device =
      if ∀ d ∈ devices, ¬ (d.deviceId = device.deviceId ∧ d.type = device.type) then
        setup.initialState device.type
      else shown setup rows ownerId device := by
  by_cases hnamed : ∃ d ∈ devices, d.deviceId = device.deviceId
  · obtain ⟨d, hd, hid⟩ := hnamed
    have honly (d' : Device) (hd' : d' ∈ devices) (hid' : d'.deviceId = device.deviceId) : d' = d :=
      List.inj_on_of_nodup_map hnodup hd' hd (hid'.trans hid.symm)
    have hrow : reconcile setup rows ownerId devices ownerId d.deviceId =
        match storedState setup d (rows ownerId d.deviceId) with
        | none => some ⟨d.type, setup.dumps (setup.initialState d.type)⟩
        | some _ => rows ownerId d.deviceId := reconcile_of_mem hnodup hd
    by_cases htype : d.type = device.type
    · rw [if_neg fun h => h d hd ⟨hid, htype⟩, ← shown_of_alike hid htype, ← shown_of_alike hid htype]
      unfold shown
      rw [hrow]
      split
      · next hnone => rw [currentState_started hlawful, currentState_of_none hnone]
      · rfl
    · have hretyped : ∀ d' ∈ devices, ¬ (d'.deviceId = device.deviceId ∧ d'.type = device.type) := by
        intro d' hd' h
        rw [honly d' hd' h.1] at h
        exact htype h.2
      rw [if_pos hretyped]
      unfold shown
      rw [← hid, hrow]
      -- the row is one of the type that the registry has
      cases hstored : storedState setup d (rows ownerId d.deviceId) with
      | none => exact currentState_of_none (storedState_of_type_ne htype)
      | some state =>
        cases hread : rows ownerId d.deviceId with
        | none => rw [hread] at hstored; cases hstored
        | some row =>
          rw [hread] at hstored
          have hrowType := storedState_type hstored
          exact currentState_of_none (storedState_of_type_ne fun h => htype (hrowType.symm.trans h))
  · rw [if_pos fun d hd h => hnamed ⟨d, hd, h.1⟩]
    unfold shown
    rw [reconcile_of_not_mem fun d hd heq => hnamed ⟨d, hd, heq.symm⟩]
    rfl

/-! ### Runs -/

/-- One call does to what is reported of a device what it does to the device. -/
theorem shown_next (hlawful : setup.Lawful) {call : Call} (hfits : call.Fits ownerId device)
    (hwhole : (shown setup rows ownerId device).Whole) :
    shown setup (next setup rows call) ownerId device =
      carry setup ownerId device (shown setup rows ownerId device) call := by
  cases call with
  | states => rfl
  | reconcile o devices =>
    unfold next carry
    dsimp only
    by_cases ho : o = ownerId
    · subst ho
      rw [shown_reconcile hlawful (hfits rfl)]
      simp only [true_and]
    · rw [if_neg fun h => ho h.1]
      exact shown_congr (reconcile_of_ne (Ne.symm ho))
  -- a command of this device is its own; one of another device writes another row
  | execute o d command =>
    unfold next carry
    dsimp only
    by_cases ho : o = ownerId ∧ d.deviceId = device.deviceId
    · obtain ⟨rfl, hid⟩ := ho
      have htype := hfits rfl hid
      have halike (rows : VirtualRows) : shown setup rows o d = shown setup rows o device :=
        shown_of_alike hid htype
      cases hexecute : execute setup rows o d command with
      | error e =>
        dsimp only
        obtain hother | ⟨e', he⟩ := execute_error hexecute
        · rw [if_neg fun h => hother h.2.2]
        · rw [halike, htype] at he
          rw [he]
          split_ifs <;> rfl
      | ok answer =>
        obtain ⟨rows', new⟩ := answer
        dsimp only
        obtain ⟨hcommand, happly, hrows⟩ := execute_ok hexecute
        rw [if_pos ⟨rfl, hid, hcommand⟩]
        have hvalid := applyCommand_valid happly
        have hempty := applyCommand_ne_empty hlawful (currentState_valid hlawful _ hvalid) happly
        have happly' := happly
        rw [halike, htype] at happly'
        rw [happly', ← halike]
        -- the state was written, or it was shown already
        obtain rfl | ⟨rfl, hsame⟩ := hrows
        · exact shown_write hlawful hvalid hempty
        · rw [halike] at hsame ⊢
          exact (applyCommand_eq_of_equals hwhole happly' hsame).symm
    · rw [if_neg fun h => ho ⟨h.1, h.2.1⟩]
      cases hexecute : execute setup rows o d command with
      | error e => rfl
      | ok answer =>
        obtain ⟨rows', new⟩ := answer
        obtain ⟨-, -, rfl | ⟨rfl, -⟩⟩ := execute_ok hexecute
        · refine shown_congr (write_of_ne ?_)
          by_cases howner : ownerId = o
          · exact .inr fun h => ho ⟨howner.symm, h.symm⟩
          · exact .inl howner
        · rfl

theorem carry_whole {call : Call} (hinitial : (setup.initialState device.type).Whole)
    (hwhole : state.Whole) :
    (carry setup ownerId device state call).Whole := by
  unfold carry
  cases call with
  | states => exact hwhole
  | reconcile o devices =>
    dsimp only
    split_ifs
    · exact hinitial
    · exact hwhole
  | execute o d command =>
    dsimp only
    split_ifs
    · split
      · exact hwhole
      · next new happly => exact Whole.apply hwhole happly
    · exact hwhole

/-- **What is reported of a device is its commands, one after the other.** In every sequence of calls of
all Owners, what `states` reports of a device is what the commands for it make of the state it was first
reported in: a call that fails and a call for another device or Owner change nothing, and a registry
without it or with another type for it starts it afresh. -/
theorem shown_run (setup : VirtualSetup) (hlawful : setup.Lawful) (rows : VirtualRows) (ownerId : OwnerId)
    (device : Device) (hinitial : (setup.initialState device.type).Whole)
    (hwhole : (shown setup rows ownerId device).Whole) (calls : List Call)
    (hfits : ∀ call ∈ calls, call.Fits ownerId device) :
    shown setup (run (next setup) rows calls) ownerId device =
      calls.foldl (carry setup ownerId device) (shown setup rows ownerId device) := by
  induction calls generalizing rows with
  | nil => rfl
  | cons call calls ih =>
    have hnext := shown_next hlawful (hfits call List.mem_cons_self) hwhole
    have hwhole' : (shown setup (next setup rows call) ownerId device).Whole := by
      rw [hnext]
      exact carry_whole hinitial hwhole
    rw [run_cons, ih _ hwhole' fun later hlater => hfits later (List.mem_cons_of_mem _ hlater), hnext,
      List.foldl_cons]

/-! ### A switch -/

namespace Sample

/-- A vocabulary of switches. -/
def switches : VirtualSetup where
  types :=
    { validateCommand := fun kind action =>
        if kind = "switch" ∧ action.trait = .onOff then .ok () else .error ⟨errorUnsupportedCommand, kind⟩
      validateState := fun kind state =>
        if kind = "switch" ∧ (state = { on := some true } ∨ state = { on := some false }) then .ok ()
        else .error ⟨"INVALID_STATE", kind⟩
      targetC := fun _ => none }
  initialState _ := { on := some false }
  dumps state := if state.on = some true then "\x7b\"on\":true\x7d" else "\x7b\"on\":false\x7d"
  loads text :=
    if text = "\x7b\"on\":true\x7d" then some { on := some true }
    else if text = "\x7b\"on\":false\x7d" then some { on := some false }
    else none

theorem switches_valid {kind : String} (h : switches.types.validateState kind state = .ok ()) :
    kind = "switch" ∧ (state = { on := some true } ∨ state = { on := some false }) := by
  by_contra hnot
  have hinvalid : switches.types.validateState kind state = .error ⟨"INVALID_STATE", kind⟩ := if_neg hnot
  rw [hinvalid] at h
  cases h

theorem switches_lawful : switches.Lawful where
  reads kind state h := by
    obtain ⟨-, rfl | rfl⟩ := switches_valid h
    · decide
    · decide
  initial kind state h := by
    obtain ⟨rfl, -⟩ := switches_valid h
    decide
  positioned kind action state hcommand _ htrait := by
    have hinvalid : switches.types.validateCommand kind action = .error ⟨errorUnsupportedCommand, kind⟩ :=
      if_neg fun h => by rw [htrait] at h; cases h.2
    rw [hinvalid] at hcommand
    cases hcommand

/-- The lamp of the example. -/
def lamp : Device := ⟨"living.lamp", "switch", "virtual", false⟩

/-- The lamp is switched on and toggled, and another Owner has a device of the same name. -/
def calls : List Call :=
  [.reconcile "owner-a" [lamp], .execute "owner-a" lamp ⟨"living.lamp", .on⟩,
    .reconcile "owner-b" [lamp], .execute "owner-b" lamp ⟨"living.lamp", .on⟩,
    .execute "owner-a" lamp ⟨"living.tv", .on⟩, .execute "owner-a" lamp ⟨"living.lamp", .toggle⟩,
    .states "owner-a" [lamp], .reconcile "owner-b" []]

end Sample

theorem shown_run_lamp :
    shown Sample.switches (run (next Sample.switches) (fun _ _ => none) Sample.calls) "owner-a" Sample.lamp =
      { on := some false } :=
  (shown_run Sample.switches Sample.switches_lawful (fun _ _ => none) "owner-a" Sample.lamp rfl rfl
    Sample.calls (by simp [Sample.calls, Call.Fits, Sample.lamp])).trans (by decide +kernel)

end VirtualProvider

end EidolonHub.SmartHome
