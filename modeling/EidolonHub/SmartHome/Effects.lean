import EidolonHub.SmartHome.Vocabulary

/-!
# EidolonHub.SmartHome.Effects

**What commands do, and what is taken as their effect.** `applyCommand` is what the
virtual Provider makes of a state; `satisfied` is how the runtime and the Providers
recognise that a command took effect.

The two agree on every command but the relative ones. The step of a fan is recognised by
the value it has to arrive at; the other steps and the toggle by any change at all. So a
step that ends where it began is not recognised, and a change that the command did not ask
for is.
-/

namespace EidolonHub.SmartHome

open EidolonHub.Library

/-! ### The effect that is waited for -/

/-- `_near`, with its tolerance of `1`. -/
def near (actual : Option Int) (expected : Int) : Bool :=
  match actual with
  | none => false
  | some value => |value - expected| ≤ 1

/-- The `0.01` that two temperatures may differ by. -/
def tolerance : ℚ := binary64 (1 / 100)

theorem tolerance_pos : 0 < tolerance := by decide +kernel

/-- Whether `after` shows the command took effect; `before` disambiguates toggles and steps. -/
def satisfied (action : Action) (before : Option DeviceState) (after : DeviceState) : Bool :=
  let before := before.getD {}
  match action with
  | .on => after.on = some true
  | .off => after.on = some false
  | .toggle => after.on ≠ none ∧ after.on ≠ before.on
  | .setLevel value => after.on = some true ∧ near after.level value
  | .stepLevel delta => delta = 0 ∨ (after.on = some true ∧ after.level ≠ before.level)
  | .setMode mode => after.mode = some mode
  | .setTarget celsius =>
    match after.targetC with
    | none => false
    | some target => |binary64 (target.value - celsius.value)| < tolerance
  | .stepTarget delta =>
    delta.value = 0 ∨ after.targetC.map (·.value) ≠ before.targetC.map (·.value)
  | .stepSpeed delta =>
    match before.speed with
    | none => false
    | some speed => (0 ≤ speed ∧ speed ≤ 100) ∧ after.speed = some (max 0 (min 100 (speed + delta)))
  | .setSpeed value => after.speed = some value
  | .openCover => after.position = some 100
  | .closeCover => after.position = some 0
  | .stopCover => after.position ≠ none
  | .setPosition value => after.position = some value
  | .lock => after.locked = some true
  | .unlock => after.locked = some false
  | .start => after.runState = some "running"
  | .pause => after.runState = some "paused"
  | .stop => after.runState = some "idle" ∨ after.runState = some "docked"
  | .dock => after.runState = some "docked"
  | .setVolume value => near after.volume value
  | .stepVolume delta => delta = 0 ∨ after.volume ≠ before.volume
  | .mute muted => after.muted = some muted

/-! ### What the virtual Provider does -/

/-- What the vocabulary says of the kinds of devices. -/
structure DeviceTypes where
  validateCommand : String → Action → Except SmartHomeError Unit
  validateState : String → DeviceState → Except SmartHomeError Unit
  /-- the range of a kind's thermostat -/
  targetC : String → Option (Number × Number)

/-- How `apply_command` fails. -/
inductive ApplyError where
  | smartHome (e : SmartHomeError)
  | keyError (key : String)
  deriving DecidableEq

/-- `_clamp`. -/
def clamp (value : Int) (low high : Int) : Int :=
  if value < low then low else if high < value then high else value

/-- `_clamp`, of a number and bounds that need not be there. -/
def clampNumber (value : Number) (low high : Option Number) : Number :=
  match low, high with
  | some low, _ =>
    if value.value < low.value then low
    else match high with
      | some high => if high.value < value.value then high else value
      | none => value
  | none, some high => if high.value < value.value then high else value
  | none, none => value

/-- `state[key]`. -/
def required {α : Type} (key : String) : Option α → Except ApplyError α
  | none => .error (.keyError key)
  | some a => .ok a

variable (types : DeviceTypes)

/-- The fields a command sets, before the device is switched on by it. -/
def setFields (kind : String) (state : DeviceState) : Action → Except ApplyError DeviceState
  | .on => .ok { state with on := some true }
  | .off => .ok { state with on := some false }
  | .toggle => do
    let on ← required "on" state.on
    return { state with on := some !on }
  | .setLevel value => .ok { state with level := some value }
  | .stepLevel delta => do
    let level ← required "level" state.level
    return { state with level := some (clamp (level + delta) 0 100) }
  | .setMode mode => .ok { state with mode := some mode }
  | .setTarget celsius => .ok { state with targetC := some celsius.whole }
  | .stepTarget delta => do
    let target ← required "target_c" state.targetC
    let range := types.targetC kind
    let moved := clampNumber (target.add delta) (range.map (·.1)) (range.map (·.2))
    return { state with targetC := some moved.whole }
  | .setSpeed value => .ok { state with speed := some value }
  | .stepSpeed delta => do
    let speed ← required "speed" state.speed
    return { state with speed := some (clamp (speed + delta) 0 100) }
  | .openCover => .ok { state with position := some 100 }
  | .closeCover => .ok { state with position := some 0 }
  -- a virtual cover is never mid-travel
  | .stopCover => .ok state
  | .setPosition value => .ok { state with position := some value }
  | .lock => .ok { state with locked := some true }
  | .unlock => .ok { state with locked := some false }
  | .start => .ok { state with runState := some "running" }
  | .pause => .ok { state with runState := some "paused" }
  | .stop => .ok { state with runState := some "idle" }
  | .dock => .ok { state with runState := some "docked" }
  | .setVolume value => .ok { state with volume := some value }
  | .stepVolume delta => do
    let volume ← required "volume" state.volume
    return { state with volume := some (clamp (volume + delta) 0 100) }
  | .mute muted => .ok { state with muted := some muted }

/-- Adjusting a level or a thermostat implies wanting the device on. -/
def impliesOn (action : Action) (new : DeviceState) : DeviceState :=
  if action.trait = .level ∨ action.trait = .thermostat then { new with on := new.on.map fun _ => true }
  else new

/-- `apply_command`: the full state after the command. -/
def applyCommand (kind : String) (state : DeviceState) (action : Action) :
    Except ApplyError DeviceState := do
  (types.validateCommand kind action).mapError .smartHome
  let new := impliesOn action (← setFields types kind state action)
  (types.validateState kind new).mapError .smartHome
  return new

/-! ### Where the two agree -/

/-- A command whose effect depends on the value before: a toggle, or a step that is not `0`. -/
def Action.Relative : Action → Prop
  | .toggle => True
  | .stepLevel delta | .stepSpeed delta | .stepVolume delta => delta ≠ 0
  | .stepTarget delta => delta.value ≠ 0
  | _ => False

/-- The value a relative command starts from is not known. -/
def Action.Unknown (before : Option DeviceState) : Action → Prop
  | .toggle => (before.getD {}).on = none
  | .stepLevel _ => (before.getD {}).level = none
  | .stepTarget _ => (before.getD {}).targetC = none
  | .stepSpeed _ => (before.getD {}).speed = none
  | .stepVolume _ => (before.getD {}).volume = none
  | _ => False

/-- A value went down where the step goes up, or up where it goes down. -/
def Against {α : Type} [LT α] (delta : α) (zero : α) (before after : Option α) : Prop :=
  ∃ b a, before = some b ∧ after = some a ∧ ((zero < delta ∧ a < b) ∨ (delta < zero ∧ b < a))

/-- The value of a step moved against the direction that was asked for. -/
def Action.MovedAgainst (before : Option DeviceState) (after : DeviceState) : Action → Prop
  | .stepLevel delta => Against delta 0 (before.getD {}).level after.level
  | .stepTarget delta => Against delta.value 0 ((before.getD {}).targetC.map (·.value))
      (after.targetC.map (·.value))
  | .stepSpeed delta => Against delta 0 (before.getD {}).speed after.speed
  | .stepVolume delta => Against delta 0 (before.getD {}).volume after.volume
  | _ => False

/-- The state reports the value that a relative command other than the step of a fan moves;
of a level, with the device on. -/
def Action.Reported (after : DeviceState) : Action → Prop
  | .toggle => after.on ≠ none
  | .stepLevel _ => after.on = some true ∧ after.level ≠ none
  | .stepTarget _ => after.targetC ≠ none
  | .stepVolume _ => after.volume ≠ none
  | _ => False

/-- A step stands at the end of the range it goes to, or is too small for its number to change. -/
def Stuck (value moved : ℚ) (low high : Option ℚ) : Prop :=
  moved = value ∨ (high = some value ∧ value < moved) ∨ (low = some value ∧ moved < value)

/-- The command is a step of a level, a temperature or a volume that has nowhere to go. -/
def AtEnd (kind : String) (state : DeviceState) : Action → Prop
  | .stepLevel delta => delta ≠ 0 ∧ ∃ level, state.level = some level ∧
      ((0 < delta ∧ level = 100) ∨ (delta < 0 ∧ level = 0))
  | .stepVolume delta => delta ≠ 0 ∧ ∃ volume, state.volume = some volume ∧
      ((0 < delta ∧ volume = 100) ∨ (delta < 0 ∧ volume = 0))
  | .stepTarget delta => delta.value ≠ 0 ∧ ∃ target, state.targetC = some target ∧
      Stuck target.value (target.add delta).value ((types.targetC kind).map (·.1.value))
        ((types.targetC kind).map (·.2.value))
  | _ => False

/-- What the vocabulary keeps: a kind with a level is switched, a cover has a position, and values
stay in range. -/
structure DeviceTypes.Lawful : Prop where
  switched : ∀ kind action state, types.validateCommand kind action = .ok () →
    types.validateState kind state = .ok () → action.trait = .level → state.on ≠ none
  positioned : ∀ kind action state, types.validateCommand kind action = .ok () →
    types.validateState kind state = .ok () → action.trait = .position → state.position ≠ none
  level : ∀ kind state v, types.validateState kind state = .ok () → state.level = some v →
    0 ≤ v ∧ v ≤ 100
  speed : ∀ kind state v, types.validateState kind state = .ok () → state.speed = some v →
    0 ≤ v ∧ v ≤ 100
  volume : ∀ kind state v, types.validateState kind state = .ok () → state.volume = some v →
    0 ≤ v ∧ v ≤ 100
  target : ∀ kind state v low high, types.validateState kind state = .ok () →
    state.targetC = some v → types.targetC kind = some (low, high) →
    low.value ≤ v.value ∧ v.value ≤ high.value

variable {types} {kind : String} {state new : DeviceState} {action : Action}

theorem clamp_eq {value low high : Int} (h : low ≤ high) :
    clamp value low high = max low (min high value) := by
  unfold clamp
  split
  · omega
  · split <;> omega

/-- What a command that was carried out passed on the way. -/
theorem applyCommand_ok (h : applyCommand types kind state action = .ok new) :
    types.validateCommand kind action = .ok () ∧
      ∃ fields, setFields types kind state action = .ok fields ∧ new = impliesOn action fields := by
  unfold applyCommand at h
  cases hcommand : types.validateCommand kind action with
  | error e => rw [hcommand] at h; cases h
  | ok u =>
    rw [hcommand] at h
    refine ⟨rfl, ?_⟩
    cases hfields : setFields types kind state action with
    | error e => rw [hfields] at h; cases h
    | ok fields =>
      rw [hfields] at h
      refine ⟨fields, rfl, ?_⟩
      cases hstate : types.validateState kind (impliesOn action fields) with
      | error e =>
        simp only [hstate, Except.mapError, bind, Except.bind] at h
        cases h
      | ok u =>
        simp only [hstate, Except.mapError, bind, Except.bind, pure, Except.pure] at h
        exact (Except.ok.inj h).symm

/-- A clamped step stays where it was exactly at the end of its range. -/
theorem clamp_eq_self_iff {value delta : Int} (hlow : 0 ≤ value) (hhigh : value ≤ 100)
    (hdelta : delta ≠ 0) : clamp (value + delta) 0 100 = value ↔
      (0 < delta ∧ value = 100) ∨ (delta < 0 ∧ value = 0) := by
  rw [clamp_eq (by decide)]
  omega

theorem clampNumber_eq_iff (moved : Number) {value : Number} {range : Option (Number × Number)}
    (hrange : ∀ low high, range = some (low, high) → low.value ≤ value.value ∧
      value.value ≤ high.value) :
    (clampNumber moved (range.map (·.1)) (range.map (·.2))).value = value.value ↔
      Stuck value.value moved.value (range.map (·.1.value)) (range.map (·.2.value)) := by
  unfold Stuck clampNumber
  cases range with
  | none => simp
  | some bounds =>
    obtain ⟨low, high⟩ := bounds
    obtain ⟨hlow, hhigh⟩ := hrange low high rfl
    simp only [Option.map_some, Option.some.injEq]
    split
    -- below the range: clamped to its low end
    · next hbelow =>
      constructor
      · intro heq
        exact .inr (.inr ⟨heq, heq ▸ hbelow⟩)
      · rintro (heq | ⟨-, habove⟩ | ⟨heq, -⟩)
        · rw [heq] at hbelow
          exact absurd hlow (not_le.mpr hbelow)
        · exact absurd (hbelow.trans_le hlow) (not_lt.mpr habove.le)
        · exact heq
    · next hnot =>
      split
      -- above the range: clamped to its high end
      · next habove =>
        constructor
        · intro heq
          exact .inr (.inl ⟨heq, heq ▸ habove⟩)
        · rintro (heq | ⟨heq, -⟩ | ⟨heq, hbelow⟩)
          · rw [heq] at habove
            exact absurd hhigh (not_le.mpr habove)
          · exact heq
          · exact absurd (heq ▸ hbelow) hnot
      · next hnot' =>
        constructor
        · exact .inl
        · rintro (heq | ⟨heq, habove⟩ | ⟨heq, hbelow⟩)
          · exact heq
          · exact absurd (heq ▸ habove) hnot'
          · exact absurd (heq ▸ hbelow) hnot

/-- A command that was carried out is recognised, unless it is a step at the end of its range. -/
theorem satisfied_applyCommand (htypes : types.Lawful) (hstate : types.validateState kind state = .ok ())
    (h : applyCommand types kind state action = .ok new) :
    satisfied action (some state) new = true ↔ ¬ AtEnd types kind state action := by
  obtain ⟨hcommand, fields, hfields, rfl⟩ := applyCommand_ok h
  have hswitched := htypes.switched kind action state hcommand hstate
  have hpositioned := htypes.positioned kind action state hcommand hstate
  cases action with
  | toggle =>
    cases hon : state.on with
    | none => simp [setFields, required, hon, bind, Except.bind] at hfields
    | some on =>
      simp only [setFields, required, hon, bind, Except.bind, pure, Except.pure,
        Except.ok.injEq] at hfields
      subst hfields
      cases on <;> simp [satisfied, AtEnd, impliesOn, Action.trait, hon]
  | setLevel value =>
    simp only [setFields, Except.ok.injEq] at hfields
    subst hfields
    cases hon : state.on with
    | none => exact absurd hon (hswitched rfl)
    | some on => simp [satisfied, AtEnd, impliesOn, Action.trait, near]
  | stepLevel delta =>
    cases hlevel : state.level with
    | none => simp [setFields, required, hlevel, bind, Except.bind] at hfields
    | some level =>
      obtain ⟨hlow, hhigh⟩ := htypes.level kind state level hstate hlevel
      simp only [setFields, required, hlevel, bind, Except.bind, pure, Except.pure,
        Except.ok.injEq] at hfields
      subst hfields
      cases hon : state.on with
      | none => exact absurd hon (hswitched rfl)
      | some on =>
        by_cases hdelta : delta = 0
        · simp [satisfied, AtEnd, hdelta]
        · have hclamp := clamp_eq_self_iff hlow hhigh hdelta
          simp only [satisfied, AtEnd, impliesOn, Action.trait, true_or, if_true, hlevel, hdelta,
            Option.map_some, Option.getD_some, Option.some.injEq, decide_eq_true_eq, false_or,
            true_and, ne_eq, not_false_eq_true, hclamp, exists_eq_left']
  | setTarget celsius =>
    simp only [setFields, Except.ok.injEq] at hfields
    subst hfields
    simp [satisfied, AtEnd, impliesOn, Action.trait, tolerance_pos]
  | stepTarget delta =>
    cases htarget : state.targetC with
    | none => simp [setFields, required, htarget, bind, Except.bind] at hfields
    | some target =>
      simp only [setFields, required, htarget, bind, Except.bind, pure, Except.pure,
        Except.ok.injEq] at hfields
      subst hfields
      by_cases hdelta : delta.value = 0
      · simp [satisfied, AtEnd, hdelta]
      · have hclamp := clampNumber_eq_iff (target.add delta) fun low high hrange =>
          htypes.target kind state target low high hstate htarget hrange
        unfold satisfied
        rw [decide_eq_true_iff]
        simp only [AtEnd, impliesOn, Action.trait, or_true, if_true, htarget, hdelta,
          Option.map_some, Option.getD_some, Option.some.injEq, false_or, true_and, ne_eq,
          not_false_eq_true, Number.whole_value, hclamp, exists_eq_left']
  | stepSpeed delta =>
    cases hspeed : state.speed with
    | none => simp [setFields, required, hspeed, bind, Except.bind] at hfields
    | some speed =>
      obtain ⟨hlow, hhigh⟩ := htypes.speed kind state speed hstate hspeed
      simp only [setFields, required, hspeed, bind, Except.bind, pure, Except.pure,
        Except.ok.injEq] at hfields
      subst hfields
      simp [satisfied, AtEnd, impliesOn, Action.trait, hspeed, hlow, hhigh, clamp_eq]
  | stepVolume delta =>
    cases hvolume : state.volume with
    | none => simp [setFields, required, hvolume, bind, Except.bind] at hfields
    | some volume =>
      obtain ⟨hlow, hhigh⟩ := htypes.volume kind state volume hstate hvolume
      simp only [setFields, required, hvolume, bind, Except.bind, pure, Except.pure,
        Except.ok.injEq] at hfields
      subst hfields
      by_cases hdelta : delta = 0
      · simp [satisfied, AtEnd, hdelta]
      · have hclamp := clamp_eq_self_iff hlow hhigh hdelta
        simp only [satisfied, AtEnd, impliesOn, Action.trait, reduceCtorEq, or_self, if_false, hvolume,
          hdelta, Option.getD_some, Option.some.injEq, decide_eq_true_eq, false_or, true_and,
          ne_eq, not_false_eq_true, hclamp, exists_eq_left']
  | stopCover =>
    simp only [setFields, Except.ok.injEq] at hfields
    subst hfields
    have hposition : state.position ≠ none := hpositioned rfl
    simp [satisfied, AtEnd, impliesOn, Action.trait, hposition]
  | _ =>
    -- the command sets the field to the value it is recognised by
    simp only [setFields, Except.ok.injEq] at hfields
    subst hfields
    simp [satisfied, AtEnd, impliesOn, Action.trait, near]

/-- A value that was not known, or moved against its step, differs once it is reported. -/
theorem differs_iff {α : Type} [Preorder α] {delta zero : α} {before after : Option α}
    (h : before = none ∨ Against delta zero before after) : after ≠ before ↔ after ≠ none := by
  rcases h with rfl | ⟨b, a, rfl, rfl, hmoved⟩
  · rfl
  · have hne : a ≠ b := by
      rcases hmoved with ⟨-, hlt⟩ | ⟨-, hlt⟩
      · exact hlt.ne
      · exact hlt.ne'
    simp [hne]

/-- Where the value before is not known, or moved the wrong way, any report of the value passes for
the effect of a relative command; but not for the step of a fan. -/
theorem satisfied_relative {before : Option DeviceState} {after : DeviceState}
    (hrelative : action.Relative) (h : action.Unknown before ∨ action.MovedAgainst before after) :
    satisfied action before after = true ↔ action.Reported after := by
  cases action with
  | toggle =>
    have hunknown : (before.getD {}).on = none := h.resolve_right id
    simp [satisfied, Action.Reported, hunknown]
  | stepLevel delta =>
    have hdelta : delta ≠ 0 := hrelative
    have hdiffers : after.level ≠ (before.getD {}).level ↔ after.level ≠ none := differs_iff h
    unfold satisfied
    rw [decide_eq_true_iff, hdiffers]
    simp [Action.Reported, hdelta]
  | stepTarget delta =>
    have hdelta : delta.value ≠ 0 := hrelative
    have hdiffers : after.targetC.map (·.value) ≠ (before.getD {}).targetC.map (·.value) ↔
        after.targetC.map (·.value) ≠ none :=
      differs_iff (h.imp_left fun hunknown => Option.map_eq_none_iff.mpr hunknown)
    unfold satisfied
    rw [decide_eq_true_iff, hdiffers]
    simp [Action.Reported, hdelta]
  | stepSpeed delta =>
    have hnever : satisfied (.stepSpeed delta) before after = false := by
      cases hspeed : (before.getD {}).speed with
      | none => simp only [satisfied, hspeed]
      | some speed =>
        simp only [satisfied, hspeed]
        rcases h with hunknown | ⟨b, a, hb, ha, hmoved⟩
        · exact absurd (hspeed.symm.trans hunknown) (by simp)
        · obtain rfl : speed = b := Option.some.inj (hspeed.symm.trans hb)
          -- in range, the value that is waited for is on the side the step goes to
          rw [decide_eq_false_iff_not]
          rintro ⟨⟨hlow, hhigh⟩, harrived⟩
          rw [ha, Option.some.injEq] at harrived
          omega
    rw [hnever]
    simp [Action.Reported]
  | stepVolume delta =>
    have hdelta : delta ≠ 0 := hrelative
    have hdiffers : after.volume ≠ (before.getD {}).volume ↔ after.volume ≠ none := differs_iff h
    unfold satisfied
    rw [decide_eq_true_iff, hdiffers]
    simp [Action.Reported, hdelta]
  | _ => exact hrelative.elim

/-- **The confirmation predicate and the commands.** A command the virtual Provider carried out is
recognised exactly when it is no step of a level, temperature or volume at the end of its range; and
a relative command is not taken as confirmed by a state it tells nothing about exactly when that
state does not report the value, or the command is the step of a fan. -/
theorem satisfied_iff (types : DeviceTypes) (htypes : types.Lawful) :
    (∀ kind state action new, types.validateState kind state = .ok () →
      applyCommand types kind state action = .ok new →
      (satisfied action (some state) new = true ↔ ¬ AtEnd types kind state action)) ∧
    (∀ (action : Action) before after, action.Relative →
      action.Unknown before ∨ action.MovedAgainst before after →
      (satisfied action before after = false ↔ ¬ action.Reported after)) := by
  constructor
  · intro kind state action new hstate h
    exact satisfied_applyCommand htypes hstate h
  · intro action before after hrelative h
    rw [← satisfied_relative hrelative h, Bool.not_eq_true]

/-- Lights that keep a level. -/
def Sample.lights : DeviceTypes where
  validateCommand _ action :=
    if action.trait = .onOff ∨ action.trait = .level then .ok ()
    else .error ⟨errorUnsupportedCommand, "light"⟩
  validateState _ state :=
    if state.on ≠ none ∧ (∀ level ∈ state.level, 0 ≤ level ∧ level ≤ 100) ∧ state.speed = none ∧
        state.volume = none ∧ state.targetC = none then .ok ()
    else .error ⟨"OUT_OF_RANGE", "light"⟩
  targetC _ := none

theorem Sample.lights_lawful : Sample.lights.Lawful := by
  refine ⟨?_, ?_, ?_, ?_, ?_, ?_⟩
  · intro kind action state _ hstate _ hon
    simp [Sample.lights, hon] at hstate
  · intro kind action state hcommand _ htrait
    simp [Sample.lights, htrait] at hcommand
  · intro kind state v hstate hlevel
    simp only [Sample.lights, hlevel] at hstate
    split at hstate
    · next h => exact h.2.1 v rfl
    · cases hstate
  · intro kind state v hstate hspeed
    simp [Sample.lights, hspeed] at hstate
  · intro kind state v hstate hvolume
    simp [Sample.lights, hvolume] at hstate
  · intro kind state v low high _ _ hrange
    cases hrange

/-- A light that is stepped from `90` to the end of its range is recognised. -/
theorem satisfied_iff_light : satisfied (.stepLevel 20) (some { on := some true, level := some 90 })
    { on := some true, level := some 100 } = true :=
  ((satisfied_iff Sample.lights Sample.lights_lawful).1 "light" _ (.stepLevel 20) _ rfl rfl).mpr
    (by rintro ⟨-, level, hlevel, hend⟩; cases hlevel; omega)

/-- At the end of its range the step was carried out and is not recognised; a toggle and a step from
a value that is not known are, and so is a volume that went down where it was to go up. -/
theorem effects_disagree :
    (applyCommand Sample.lights "light" { on := some true, level := some 100 } (.stepLevel 10) =
        .ok { on := some true, level := some 100 } ∧
      satisfied (.stepLevel 10) (some { on := some true, level := some 100 })
        { on := some true, level := some 100 } = false) ∧
    satisfied .toggle none { on := some true } = true ∧
    satisfied (.stepLevel 10) (some { on := some true }) { on := some true, level := some 5 } = true ∧
    satisfied (.stepVolume 10) (some { volume := some 50 }) { volume := some 20 } = true := by
  decide +kernel

end EidolonHub.SmartHome
