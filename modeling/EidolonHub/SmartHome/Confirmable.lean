import EidolonHub.SmartHome.HomeAssistant
import EidolonHub.SmartHome.ImportFrame

/-!
# EidolonHub.SmartHome.Confirmable

**Whether a command that was carried out is recognised.** A service belongs to the domain of its
entity; once it is carried out the entity reports what the call names, and nothing is known of its
other attributes. A command is answered if the state after shows its effect.

It does not where a service of another domain is named, where the table of run states lacks a word,
where a light is dimmed to nothing, and where a step has nowhere to go.
-/

namespace EidolonHub.SmartHome.HomeAssistant

open EidolonHub.Library EidolonHub.Library.Python

/-! ### What a service does -/

/-- An entity of the domain is off. -/
def Off (domain state : String) : Prop := state = "off" ∨ (domain = "media_player" ∧ state = "standby")

/-- The domains whose entities have more than one word for being on. -/
def manyOn : List String := ["climate", "water_heater", "camera", "media_player"]

/-- An entity of the domain is on. -/
def On (domain state : String) : Prop :=
  if domain ∈ manyOn then state ∉ unreachable ∧ ¬ Off domain state else state = "on"

instance (domain state : String) : Decidable (Off domain state) := inferInstanceAs (Decidable (_ ∨ _))

instance (domain state : String) : Decidable (On domain state) :=
  inferInstanceAs
    (Decidable (if domain ∈ manyOn then state ∉ unreachable ∧ ¬ Off domain state else state = "on"))

/-- The brightness of a percentage. -/
def brightnessOf (pct : Int) : Int := roundHalfEven (255 * (pct : ℚ) / 100)

/-- What an entity reports once a service of its domain is carried out. -/
def Reports (domain : String) (before after : Entity) : Service → Prop
  | .turnOn none => On domain after.state
  | .turnOn (some pct) =>
    if brightnessOf pct = 0 then Off domain after.state
    else On domain after.state ∧ after.attributes.brightness = some (some (brightnessOf pct))
  | .turnOff => Off domain after.state
  | .toggle =>
    (On domain before.state → Off domain after.state) ∧
      (¬ On domain before.state → On domain after.state)
  | .setHvacMode hvacMode => after.state = hvacMode
  | .setTemperature temperature => after.attributes.temperature.map (·.value) = some temperature.value
  | .setPercentage percentage => after.attributes.percentage = some percentage
  | .openCover =>
    after.state = "open" ∧ (after.attributes.currentPosition = none ∨
      after.attributes.currentPosition = some 100)
  | .closeCover =>
    after.state = "closed" ∧ (after.attributes.currentPosition = none ∨
      after.attributes.currentPosition = some 0)
  | .stopCover => True
  | .setCoverPosition position => after.attributes.currentPosition = some position
  | .lock => after.state = "locked"
  | .unlock => after.state = "unlocked"
  | .start => after.state = "cleaning"
  | .startMowing => after.state = "mowing"
  | .pause => after.state = "paused"
  | .stop => after.state = "idle"
  | .dock => after.state = "docked"
  | .returnToBase => after.state = "returning"
  | .volumeSet volumeLevel => after.attributes.volumeLevel = some volumeLevel
  | .volumeMute isVolumeMuted => after.attributes.isVolumeMuted = some isVolumeMuted

/-- The call was carried out. -/
def CarriedOut (call : ServiceCall) (before after : Entity) : Prop :=
  after.entityId = before.entityId ∧ Reports call.domain before after call.service

/-! ### What a device admits -/

/-- The modes of the vocabulary. -/
def modes : List String := ["cool", "heat", "auto", "fan", "dry"]

/-- A command that the traits and the limits of a device admit. -/
def Admits (device : Import.Device) (action : Action) : Prop :=
  action.trait ∈ device.traits ∧
    match action with
    | .setLevel value | .setSpeed value | .setPosition value | .setVolume value => 0 ≤ value ∧ value ≤ 100
    | .setMode mode => mode ∈ (device.limits.bind (·.modes)).getD modes
    | .setTarget celsius =>
      (∀ low ∈ lowest device, low.value ≤ celsius.value) ∧
        ∀ high ∈ highest device, celsius.value ≤ high.value
    | _ => True

variable (parse : String → Option Number)

/-- The command is refused, or its call is of the entity's domain and the state after it shows the
effect. -/
def Agrees (device : Import.Device) (entity : Entity) (action : Action) : Prop :=
  match prepare parse device action (some entity) with
  | .error (.smartHome _) => True
  | .error (.keyError _) => False
  | .ok (before, call) =>
    call.domain = entity.domain ∧ call.entityId = some entity.entityId ∧
      ∀ after, CarriedOut call entity after →
        satisfied action (some before) (projectState parse device after) = true

/-- A light dimmed to nothing, a step with nowhere to go, the mode of a water heater and the start of
a lawn mower. -/
def Misses (device : Import.Device) (entity : Entity) : Action → Prop
  | .setLevel value => value = 0
  | .stepLevel delta =>
    delta ≠ 0 ∧ (levelOf entity + delta ≤ 0 ∨ (0 < delta ∧ levelOf entity = 100))
  | .setMode _ => entity.domain = "water_heater"
  | .stepTarget delta =>
    delta.value ≠ 0 ∧
      (stepped device (targetOf device.type entity) delta).value = (targetOf device.type entity).value
  | .stepVolume delta =>
    delta ≠ 0 ∧ ((0 < delta ∧ volumeOf entity = 100) ∨ (delta < 0 ∧ volumeOf entity = 0))
  | .start => entity.domain = "lawn_mower"
  | _ => False

/-! ### Devices of entities -/

/-- The device is that of an entity, as it was found. -/
structure DeviceOf (device : Import.Device) (entity : Entity) (kind : DeviceType) : Prop where
  domain : domainType entity.domain = some kind
  type : device.type = kind
  providerRef : device.providerRef = some entity.entityId
  traits : ∃ found : Entity, device.traits = traitsOf found kind
  limits : ∃ found : Entity, device.limits = limitsOf found kind

theorem deviceOf_spec {e : Entity} {found : DiscoveredDevice} (h : deviceOf e = some found) :
    ∃ kind, domainType e.domain = some kind ∧ found.suggestedType = kind ∧
      found.externalRef = e.entityId ∧ found.traits = traitsOf e kind ∧ found.limits = limitsOf e kind := by
  unfold deviceOf at h
  split at h
  · cases h
  · obtain ⟨kind, hkind, rfl⟩ := Option.map_eq_some_iff.mp h
    exact ⟨kind, hkind, rfl, rfl, rfl, rfl⟩

/-- A device that admits a command is no sensor. -/
theorem deviceOf_of_discover {entities : List Entity} {found : DiscoveredDevice} {device : Import.Device}
    {provider : String} {entity : Entity} {action : Action} (hfound : found ∈ discover entities)
    (hshows : device.Shows provider found) (hentity : entity.entityId = found.externalRef)
    (hadmits : Admits device action) : ∃ kind, DeviceOf device entity kind := by
  rcases List.mem_append.mp hfound with h | h
  · obtain ⟨e, -, he⟩ := List.mem_filterMap.mp h
    obtain ⟨kind, hdomain, htype, href, htraits, hlimits⟩ := deviceOf_spec he
    have hid : entity.entityId = e.entityId := hentity.trans href
    refine ⟨kind, ?_, hshows.type.trans htype, ?_, ⟨e, hshows.traits.trans htraits⟩,
      ⟨e, hshows.limits.trans hlimits⟩⟩
    · rw [Entity.domain, hid]
      exact hdomain
    · rw [hshows.providerRef, hentity]
  · obtain ⟨group, -, hgroup⟩ := List.mem_filterMap.mp h
    obtain ⟨first, -, rfl⟩ := Option.map_eq_some_iff.mp hgroup
    have htrait := hadmits.1
    rw [hshows.traits] at htrait
    cases action <;> simp [Action.trait] at htrait

/-! ### Kinds, traits and domains -/

/-- The kinds that can have a trait. -/
def kindsOf : DeviceTrait → List DeviceType
  | .onOff => [.light, .switch, .climate, .waterHeater, .fan, .media, .camera, .sensor]
  | .level => [.light]
  | .thermostat => [.climate, .waterHeater]
  | .fanSpeed => [.fan]
  | .position => [.cover]
  | .lock => [.lock]
  | .operational => [.appliance]
  | .volume => [.media]
  | .measure => []

theorem kind_of_trait {found : Entity} {kind : DeviceType} {t : DeviceTrait} (h : t ∈ traitsOf found kind) :
    kind ∈ kindsOf t := by
  cases kind <;> simp only [traitsOf] at h <;> (try split at h) <;> cases t <;> simp_all [kindsOf]

/-- The domains that become a kind. -/
def domainsOf : DeviceType → List String
  | .light => ["light"]
  | .switch => ["switch", "input_boolean"]
  | .climate => ["climate"]
  | .waterHeater => ["water_heater"]
  | .cover => ["cover"]
  | .fan => ["fan"]
  | .media => ["media_player"]
  | .appliance => ["vacuum", "lawn_mower"]
  | .lock => ["lock"]
  | .camera => ["camera"]
  | .sensor => []

theorem mem_of_lookup {α β : Type} [BEq α] [LawfulBEq α] {table : List (α × β)} {a : α} {b : β}
    (h : table.lookup a = some b) : (a, b) ∈ table := by
  obtain ⟨l, r, rfl, -⟩ := List.lookup_eq_some_iff.mp h
  simp

theorem domain_of_kind {domain : String} {kind : DeviceType} (h : domainType domain = some kind) :
    domain ∈ domainsOf kind := by
  have hall : ∀ entry ∈ domainTypes, entry.1 ∈ domainsOf entry.2 := by decide
  exact hall _ (mem_of_lookup h)

section Agreement

variable {parse} {device : Import.Device} {entity after : Entity} {kind : DeviceType} {action : Action}

/-- A call of the entity's own domain. -/
theorem agrees_of_call (service : Service) (hdevice : DeviceOf device entity kind)
    (hcall : toServiceCall device action (projectState parse device entity) entity.features =
      .ok ⟨entity.domain, service, device.providerRef⟩) (hreachable : entity.state ∉ unreachable) :
    Agrees parse device entity action ↔ ∀ after, after.entityId = entity.entityId →
      Reports entity.domain entity after service →
        satisfied action (some (projectState parse device entity)) (projectState parse device after) = true := by
  unfold Agrees prepare CarriedOut
  simp only [if_neg hreachable, hcall, Except.map, hdevice.providerRef, true_and, and_imp]

/-- The same where all states after it show the same, and there is one. -/
theorem agrees_iff_of_call {Q : Prop} (service : Service) (hdevice : DeviceOf device entity kind)
    (hcall : toServiceCall device action (projectState parse device entity) entity.features =
      .ok ⟨entity.domain, service, device.providerRef⟩) (hreachable : entity.state ∉ unreachable)
    (after : Entity) (hid : after.entityId = entity.entityId)
    (hafter : Reports entity.domain entity after service)
    (heffect : ∀ after, Reports entity.domain entity after service →
      (satisfied action (some (projectState parse device entity)) (projectState parse device after) = true ↔
        Q)) :
    Agrees parse device entity action ↔ Q := by
  rw [agrees_of_call service hdevice hcall hreachable]
  exact ⟨fun h => (heffect after hafter).mp (h after hid hafter),
    fun hQ after _ hreports => (heffect after hreports).mpr hQ⟩

theorem agrees_of_refused (error : SmartHomeError) (hreachable : entity.state ∉ unreachable)
    (hcall : toServiceCall device action (projectState parse device entity) entity.features =
      .error (.smartHome error)) : Agrees parse device entity action := by
  unfold Agrees prepare
  simp only [if_neg hreachable, hcall, Except.map]

theorem DeviceOf.domainOf_ref (hdevice : DeviceOf device entity kind) :
    domainOf (device.providerRef.getD "") = entity.domain := by
  rw [hdevice.providerRef]
  rfl

/-- The kind of a device that admits a command, and the domains it may have. -/
theorem DeviceOf.kind_of_admits (hdevice : DeviceOf device entity kind) (hadmits : Admits device action) :
    kind ∈ kindsOf action.trait ∧ entity.domain ∈ domainsOf kind := by
  obtain ⟨found, hfound⟩ := hdevice.traits
  have htrait := hadmits.1
  rw [hfound] at htrait
  exact ⟨kind_of_trait htrait, domain_of_kind hdevice.domain⟩

/-! ### Switching -/

theorem not_on_of_off {domain state : String} (h : Off domain state) : ¬ On domain state := by
  unfold On
  split
  · exact fun hon => hon.2 h
  · next hmany =>
    rcases h with rfl | ⟨rfl, -⟩
    · decide
    · simp [manyOn] at hmany

variable (parse) in
/-- What is switched reports whether its entity is on. -/
theorem projectState_on (hdevice : DeviceOf device entity kind) (hkind : kind ∈ kindsOf .onOff)
    (state : Entity) :
    (projectState parse device state).on = some (decide (On entity.domain state.state)) := by
  have hdomain := domain_of_kind hdevice.domain
  have htype := hdevice.type
  cases kind <;> simp only [kindsOf, domainsOf, List.mem_cons, List.not_mem_nil, or_false, reduceCtorEq,
    false_or, or_self] at hkind hdomain
  case switch => rcases hdomain with h | h <;> simp [projectState, htype, On, manyOn, h]
  all_goals simp [projectState, htype, On, Off, manyOn, hdomain]

theorem agrees_switch (hdevice : DeviceOf device entity kind) (hreachable : entity.state ∉ unreachable)
    (hadmits : Admits device action) (haction : action = .on ∨ action = .off ∨ action = .toggle) :
    Agrees parse device entity action := by
  have hkind := (hdevice.kind_of_admits hadmits).1
  rcases haction with rfl | rfl | rfl
  · refine (agrees_of_call .turnOn hdevice ?_ hreachable).mpr fun after _ hreports => ?_
    · simp only [toServiceCall, hdevice.domainOf_ref]
    · have hon : On entity.domain after.state := hreports
      simp [satisfied, projectState_on parse hdevice hkind, hon]
  · refine (agrees_of_call .turnOff hdevice ?_ hreachable).mpr fun after _ hoff => ?_
    · simp only [toServiceCall, hdevice.domainOf_ref]
    · simp [satisfied, projectState_on parse hdevice hkind, not_on_of_off hoff]
  · refine (agrees_of_call .toggle hdevice ?_ hreachable).mpr fun after _ htoggled => ?_
    · simp only [toServiceCall, hdevice.domainOf_ref]
    · simp only [satisfied, projectState_on parse hdevice hkind, Option.getD_some]
      by_cases hon : On entity.domain entity.state
      · simp [hon, not_on_of_off (htoggled.1 hon)]
      · simp [hon, htoggled.2 hon]

/-! ### Levels -/

theorem clamp_percent (value : Int) : clamp value 0 100 = max 0 (min 100 value) := clamp_eq (by decide)

/-- The level that is read off the brightness of a percentage is that percentage. -/
theorem level_of_brightness (pct : Int) : roundHalfEven ((brightnessOf pct : ℚ) * 100 / 255) = pct := by
  have hround := abs_le.mp (abs_sub_roundHalfEven_le (255 * (pct : ℚ) / 100))
  have hlow : 255 * (pct : ℚ) / 100 - brightnessOf pct ≤ 1 / 2 := hround.2
  have hhigh : -(1 / 2) ≤ 255 * (pct : ℚ) / 100 - brightnessOf pct := hround.1
  refine roundHalfEven_eq (abs_lt.mpr ⟨?_, ?_⟩)
  · linarith
  · linarith

theorem brightnessOf_eq_zero_iff {pct : Int} : brightnessOf pct = 0 ↔ pct = 0 := by
  constructor
  · intro h
    have hlevel := level_of_brightness pct
    rw [h] at hlevel
    rw [← hlevel]
    decide +kernel
  · rintro rfl
    decide +kernel

theorem reports_pct {domain : String} {before after : Entity} {pct : Int} :
    Reports domain before after (.turnOn pct) ↔
      if pct = 0 then Off domain after.state
      else On domain after.state ∧ after.attributes.brightness = some (some (brightnessOf pct)) := by
  simp only [Reports, brightnessOf_eq_zero_iff]

variable (parse) in
/-- What a light with a level reports once it is turned on at a percentage. -/
theorem projectState_level (hdevice : DeviceOf device entity .light) (hlevel : .level ∈ device.traits)
    {pct : Int} (hreports : Reports entity.domain entity after (.turnOn pct)) :
    (pct = 0 → (projectState parse device after).on = some false) ∧
      (pct ≠ 0 → (projectState parse device after).on = some true ∧
        (projectState parse device after).level = some pct) := by
  have hon := projectState_on parse hdevice (by simp [kindsOf]) after
  have hprojected : (projectState parse device after).level = some (levelOf after) := by
    simp only [projectState, hdevice.type, if_pos hlevel]
  constructor
  · intro hpct
    rw [reports_pct, if_pos hpct] at hreports
    rw [hon, decide_eq_false (not_on_of_off hreports)]
  · intro hpct
    rw [reports_pct, if_neg hpct] at hreports
    refine ⟨by rw [hon, decide_eq_true hreports.1], ?_⟩
    rw [hprojected, levelOf, hreports.2]
    exact congrArg some (level_of_brightness pct)

/-- A light that has been turned on at a percentage. -/
def lit (entity : Entity) (pct : Int) : Entity :=
  if pct = 0 then { entity with state := "off" }
  else
    { entity with
      state := "on"
      attributes := { entity.attributes with brightness := some (some (brightnessOf pct)) } }

theorem lit_id {pct : Int} : (lit entity pct).entityId = entity.entityId := by
  unfold lit
  split <;> rfl

theorem reports_lit {pct : Int} (hdomain : entity.domain = "light") :
    Reports entity.domain entity (lit entity pct) (.turnOn pct) := by
  unfold lit
  rw [reports_pct]
  split
  · exact .inl rfl
  · rw [hdomain]
    exact ⟨rfl, rfl⟩

theorem agrees_setLevel {value : Int} (hdevice : DeviceOf device entity kind)
    (hreachable : entity.state ∉ unreachable) (hadmits : Admits device (.setLevel value)) :
    Agrees parse device entity (.setLevel value) ↔ value ≠ 0 := by
  obtain ⟨hkind, hdomain⟩ := hdevice.kind_of_admits hadmits
  obtain rfl : kind = .light := by simpa [Action.trait, kindsOf] using hkind
  have hlight : entity.domain = "light" := by simpa [domainsOf] using hdomain
  refine agrees_iff_of_call (.turnOn value) hdevice ?_ hreachable (lit entity value) lit_id
    (reports_lit hlight) fun after hreports => ?_
  · simp only [toServiceCall, hlight]
  · obtain ⟨hoff, hon⟩ := projectState_level parse hdevice hadmits.1 hreports
    by_cases hvalue : value = 0
    · simp [satisfied, hoff hvalue, hvalue]
    · simp [satisfied, hon hvalue, hvalue, near]

theorem agrees_stepLevel {delta : Int} (hdevice : DeviceOf device entity kind)
    (hreachable : entity.state ∉ unreachable) (hadmits : Admits device (.stepLevel delta)) :
    Agrees parse device entity (.stepLevel delta) ↔ ¬ Misses device entity (.stepLevel delta) := by
  obtain ⟨hkind, hdomain⟩ := hdevice.kind_of_admits hadmits
  obtain rfl : kind = .light := by simpa [Action.trait, kindsOf] using hkind
  have hlight : entity.domain = "light" := by simpa [domainsOf] using hdomain
  have hlevel : .level ∈ device.traits := hadmits.1
  have hbefore : (projectState parse device entity).level = some (levelOf entity) := by
    simp only [projectState, hdevice.type, if_pos hlevel]
  generalize hpct : clamp (levelOf entity + delta) 0 100 = pct
  refine agrees_iff_of_call (.turnOn pct) hdevice ?_ hreachable (lit entity pct) lit_id
    (reports_lit hlight) fun after hreports => ?_
  · simp only [toServiceCall, hlight, hbefore, Option.getD_some, hpct]
  · obtain ⟨hoff, hon⟩ := projectState_level parse hdevice hadmits.1 hreports
    have hclamp := clamp_percent (levelOf entity + delta)
    rw [hpct] at hclamp
    unfold satisfied Misses
    by_cases hzero : pct = 0
    · have hnot : levelOf entity + delta ≤ 0 := by omega
      simp [hoff hzero, hnot]
    · have hpositive : ¬ levelOf entity + delta ≤ 0 := by omega
      simp only [hon hzero, hbefore, Option.getD_some, ne_eq, Option.some.injEq, true_and, decide_eq_true_eq,
        hpositive, false_or]
      omega

/-! ### Thermostats -/

/-- The modes of the vocabulary that a thermostat admits have a word of Home Assistant's, which reads
as the mode. -/
theorem hvac_of_mode {mode : String} (h : mode ∈ modes) :
    ∃ hvacMode, modeToHvac mode = some hvacMode ∧ hvacToMode hvacMode = some mode := by
  simp only [modes, List.mem_cons, List.not_mem_nil, or_false] at h
  rcases h with rfl | rfl | rfl | rfl | rfl <;> exact ⟨_, rfl, rfl⟩

theorem mem_modes_of_hvac {hvacMode mode : String} (h : hvacToMode hvacMode = some mode) : mode ∈ modes := by
  have hall : ∀ entry ∈ hvacModes, entry.2 ∈ modes := by decide
  exact hall _ (mem_of_lookup h)

/-- A mode that is admitted is one of the vocabulary. -/
theorem admitted_mode {mode : String} (hdevice : DeviceOf device entity kind)
    (hkind : kind = .climate ∨ kind = .waterHeater) (hadmits : Admits device (.setMode mode)) :
    mode ∈ modes := by
  obtain ⟨found, hlimits⟩ := hdevice.limits
  have hmode := hadmits.2
  simp only [hlimits] at hmode
  rcases hkind with rfl | rfl
  · simp only [limitsOf, Option.bind_some] at hmode
    split at hmode
    · exact hmode
    · obtain ⟨hvacMode, -, hto⟩ := List.mem_filterMap.mp (List.mem_eraseDups.mp hmode)
      exact mem_modes_of_hvac hto
  · simp only [limitsOf, Option.bind_some, Option.getD_some, List.mem_singleton] at hmode
    rw [hmode]
    decide

theorem agrees_setMode {mode : String} (hdevice : DeviceOf device entity kind)
    (hreachable : entity.state ∉ unreachable) (hadmits : Admits device (.setMode mode)) :
    Agrees parse device entity (.setMode mode) ↔ entity.domain ≠ "water_heater" := by
  obtain ⟨hkind, hdomain⟩ := hdevice.kind_of_admits hadmits
  have hkinds : kind = .climate ∨ kind = .waterHeater := by simpa [Action.trait, kindsOf] using hkind
  obtain ⟨hvacMode, hto, hfrom⟩ := hvac_of_mode (admitted_mode hdevice hkinds hadmits)
  rcases hkinds with rfl | rfl
  · have hclimate : entity.domain = "climate" := by simpa [domainsOf] using hdomain
    rw [agrees_of_call (.setHvacMode hvacMode) hdevice ?_ hreachable]
    · have hother : entity.domain ≠ "water_heater" := by rw [hclimate]; decide
      refine iff_of_true (fun after _ hreports => ?_) hother
      have hstate : after.state = hvacMode := hreports
      simp [satisfied, projectState, hdevice.type, hstate, hfrom]
    · simp only [toServiceCall, hto, hclimate]
  · -- the service is one of `climate`
    have hheater : entity.domain = "water_heater" := by simpa [domainsOf] using hdomain
    unfold Agrees prepare
    simp [hreachable, toServiceCall, hto, Except.map, hheater]

/-- A target that an entity reports is what its thermostat reports. -/
theorem targetOf_value {target : ℚ} (h : entity.attributes.temperature.map (·.value) = some target) :
    (targetOf kind entity).value = target := by
  obtain ⟨temperature, htemperature, rfl⟩ := Option.map_eq_some_iff.mp h
  cases kind <;> simp [targetOf, num, htemperature]

variable (parse) in
theorem projectState_target (hdevice : DeviceOf device entity kind)
    (hkind : kind = .climate ∨ kind = .waterHeater) (state : Entity) :
    (projectState parse device state).targetC = some (targetOf kind state) := by
  rcases hkind with rfl | rfl <;> simp only [projectState, hdevice.type]

theorem agrees_setTarget {celsius : Number} (hdevice : DeviceOf device entity kind)
    (hreachable : entity.state ∉ unreachable) (hadmits : Admits device (.setTarget celsius)) :
    Agrees parse device entity (.setTarget celsius) := by
  obtain ⟨hkind, -⟩ := hdevice.kind_of_admits hadmits
  have hkinds : kind = .climate ∨ kind = .waterHeater := by simpa [Action.trait, kindsOf] using hkind
  refine (agrees_of_call (.setTemperature celsius) hdevice ?_ hreachable).mpr fun after _ hreports => ?_
  · simp only [toServiceCall, hdevice.domainOf_ref]
  · have htarget : (targetOf kind after).value = celsius.value := targetOf_value hreports
    simp [satisfied, projectState_target parse hdevice hkinds, htarget, tolerance_pos]

theorem agrees_stepTarget {delta : Number} (hdevice : DeviceOf device entity kind)
    (hreachable : entity.state ∉ unreachable) (hadmits : Admits device (.stepTarget delta)) :
    Agrees parse device entity (.stepTarget delta) ↔ ¬ Misses device entity (.stepTarget delta) := by
  obtain ⟨hkind, -⟩ := hdevice.kind_of_admits hadmits
  have hkinds : kind = .climate ∨ kind = .waterHeater := by simpa [Action.trait, kindsOf] using hkind
  have hbefore := projectState_target parse hdevice hkinds entity
  generalize htemperature : stepped device (targetOf kind entity) delta = temperature
  refine agrees_iff_of_call (.setTemperature temperature) hdevice ?_ hreachable
    { entity with attributes := { entity.attributes with temperature := some temperature } } rfl rfl
    fun after hreports => ?_
  · simp only [toServiceCall, hdevice.domainOf_ref, hbefore, Option.getD_some, htemperature]
  · have htarget : (targetOf kind after).value = temperature.value := targetOf_value hreports
    unfold satisfied Misses
    simp only [projectState_target parse hdevice hkinds, hdevice.type, htemperature, Option.getD_some,
      Option.map_some, htarget, ne_eq, Option.some.injEq, decide_eq_true_eq, not_and]
    tauto

/-! ### Fans, covers and locks -/

theorem agrees_speed {value : Int} (hdevice : DeviceOf device entity kind)
    (hreachable : entity.state ∉ unreachable) (hadmits : Admits device action)
    (haction : action = .setSpeed value ∨ action = .stepSpeed value) : Agrees parse device entity action := by
  have htrait : action.trait = .fanSpeed := by rcases haction with rfl | rfl <;> rfl
  obtain ⟨hkind, hdomain⟩ := hdevice.kind_of_admits hadmits
  obtain rfl : kind = .fan := by simpa [htrait, kindsOf] using hkind
  have hfan : entity.domain = "fan" := by simpa [domainsOf] using hdomain
  have hspeed : .fanSpeed ∈ device.traits := htrait ▸ hadmits.1
  have hprojected : ∀ state : Entity,
      (projectState parse device state).speed = some (state.attributes.percentage.getD 0) := fun state => by
    simp only [projectState, hdevice.type, if_pos hspeed]
  rcases haction with rfl | rfl
  · refine (agrees_of_call (.setPercentage value) hdevice ?_ hreachable).mpr fun after _ hreports => ?_
    · simp only [toServiceCall, hfan]
    · have hpercentage : after.attributes.percentage = some value := hreports
      simp [satisfied, hprojected, hpercentage]
  · -- a speed out of range is refused
    generalize hbefore : entity.attributes.percentage.getD 0 = speed
    by_cases hrange : 0 ≤ speed ∧ speed ≤ 100
    · refine (agrees_of_call (.setPercentage (clamp (speed + value) 0 100)) hdevice ?_ hreachable).mpr
        fun after _ hreports => ?_
      · simp only [toServiceCall, hfan, hprojected, hbefore, if_pos hrange]
      · have hpercentage : after.attributes.percentage = some (clamp (speed + value) 0 100) := hreports
        simp [satisfied, hprojected, hbefore, hrange, hpercentage, clamp_percent]
    · refine agrees_of_refused ⟨errorUnsupportedCommand, "fan speed state unavailable"⟩ hreachable ?_
      simp only [toServiceCall, hprojected, hbefore, if_neg hrange]

theorem agrees_position (hdevice : DeviceOf device entity kind) (hreachable : entity.state ∉ unreachable)
    (hadmits : Admits device action) (htrait : action.trait = .position) :
    Agrees parse device entity action := by
  obtain ⟨hkind, hdomain⟩ := hdevice.kind_of_admits hadmits
  obtain rfl : kind = .cover := by simpa [htrait, kindsOf] using hkind
  have hcover : entity.domain = "cover" := by simpa [domainsOf] using hdomain
  cases action <;> simp only [Action.trait, reduceCtorEq] at htrait
  case openCover =>
    refine (agrees_of_call .openCover hdevice ?_ hreachable).mpr fun after _ hreports => ?_
    · simp only [toServiceCall, hcover]
    · obtain ⟨hstate, hposition⟩ := hreports
      rcases hposition with h | h <;> simp [satisfied, projectState, hdevice.type, hstate, h]
  case closeCover =>
    refine (agrees_of_call .closeCover hdevice ?_ hreachable).mpr fun after _ hreports => ?_
    · simp only [toServiceCall, hcover]
    · obtain ⟨hstate, hposition⟩ := hreports
      rcases hposition with h | h <;> simp [satisfied, projectState, hdevice.type, hstate, h]
  case stopCover =>
    refine (agrees_of_call .stopCover hdevice ?_ hreachable).mpr fun after _ _ => ?_
    · simp only [toServiceCall, hcover]
    · simp [satisfied, projectState, hdevice.type]
  case setPosition value =>
    by_cases hfeature : entity.features &&& coverSetPosition = 0
    · refine agrees_of_refused ⟨errorUnsupportedCommand, "cover has no set_position"⟩ hreachable ?_
      simp only [toServiceCall, if_pos hfeature]
    · refine (agrees_of_call (.setCoverPosition value) hdevice ?_ hreachable).mpr fun after _ hreports => ?_
      · simp only [toServiceCall, hcover, if_neg hfeature]
      · have hposition : after.attributes.currentPosition = some value := hreports
        simp [satisfied, projectState, hdevice.type, hposition]

theorem agrees_lock (hdevice : DeviceOf device entity kind) (hreachable : entity.state ∉ unreachable)
    (hadmits : Admits device action) (haction : action = .lock ∨ action = .unlock) :
    Agrees parse device entity action := by
  have htrait : action.trait = .lock := by rcases haction with rfl | rfl <;> rfl
  obtain ⟨hkind, hdomain⟩ := hdevice.kind_of_admits hadmits
  obtain rfl : kind = .lock := by simpa [htrait, kindsOf] using hkind
  have hlock : entity.domain = "lock" := by simpa [domainsOf] using hdomain
  rcases haction with rfl | rfl
  · refine (agrees_of_call .lock hdevice ?_ hreachable).mpr fun after _ hreports => ?_
    · simp only [toServiceCall, hlock]
    · have hstate : after.state = "locked" := hreports
      simp [satisfied, projectState, hdevice.type, hstate]
  · refine (agrees_of_call .unlock hdevice ?_ hreachable).mpr fun after _ hreports => ?_
    · simp only [toServiceCall, hlock]
    · have hstate : after.state = "unlocked" := hreports
      simp [satisfied, projectState, hdevice.type, hstate]

/-! ### Appliances -/

theorem agrees_operational (hdevice : DeviceOf device entity kind) (hreachable : entity.state ∉ unreachable)
    (hadmits : Admits device action) (htrait : action.trait = .operational) :
    Agrees parse device entity action ↔ ¬ Misses device entity action := by
  obtain ⟨hkind, hdomain⟩ := hdevice.kind_of_admits hadmits
  obtain rfl : kind = .appliance := by simpa [htrait, kindsOf] using hkind
  have hprojected : ∀ state : Entity, (projectState parse device state).runState =
      some ((vacuumRunState state.state).getD "idle") := fun state => by
    simp only [projectState, hdevice.type]
  simp only [domainsOf, List.mem_cons, List.not_mem_nil, or_false] at hdomain
  -- the word for the state after, what it reads as, and whether that shows the effect
  have hshown : ∀ (service : Service) (word shown : String) {shows : Prop},
      (∀ after : Entity, Reports entity.domain entity after service ↔ after.state = word) →
      (vacuumRunState word).getD "idle" = shown →
      toServiceCall device action (projectState parse device entity) entity.features =
        .ok ⟨entity.domain, service, device.providerRef⟩ →
      (∀ after : Entity, (projectState parse device after).runState = some shown →
        (satisfied action (some (projectState parse device entity)) (projectState parse device after) = true ↔
          shows)) →
      (Agrees parse device entity action ↔ shows) := by
    intro service word shown shows hreports hshown hcall heffect
    refine agrees_iff_of_call service hdevice hcall hreachable { entity with state := word } rfl
      ((hreports _).mpr rfl) fun after h => heffect after ?_
    rw [hprojected, (hreports after).mp h, hshown]
  cases action <;> simp only [Action.trait, reduceCtorEq] at htrait
  case start =>
    rcases hdomain with h | h
    · refine hshown .start "cleaning" "running" (fun _ => Iff.rfl) rfl ?_ fun after hrun => ?_
      · simp [toServiceCall, hdevice.domainOf_ref, h]
      · simp [satisfied, hrun, Misses, h]
    · refine hshown .startMowing "mowing" "idle" (fun _ => Iff.rfl) rfl ?_ fun after hrun => ?_
      · simp [toServiceCall, hdevice.domainOf_ref, h]
      · simp [satisfied, hrun, Misses, h]
  case pause =>
    refine hshown .pause "paused" "paused" (fun _ => Iff.rfl) rfl ?_ fun after hrun => ?_
    · simp only [toServiceCall, hdevice.domainOf_ref]
    · simp [satisfied, hrun, Misses]
  case stop =>
    rcases hdomain with h | h
    · refine hshown .stop "idle" "idle" (fun _ => Iff.rfl) rfl ?_ fun after hrun => ?_
      · simp [toServiceCall, hdevice.domainOf_ref, h]
      · simp [satisfied, hrun, Misses]
    · refine hshown .dock "docked" "docked" (fun _ => Iff.rfl) rfl ?_ fun after hrun => ?_
      · simp [toServiceCall, hdevice.domainOf_ref, h]
      · simp [satisfied, hrun, Misses]
  case dock =>
    rcases hdomain with h | h
    · refine hshown .returnToBase "returning" "docked" (fun _ => Iff.rfl) rfl ?_ fun after hrun => ?_
      · simp [toServiceCall, hdevice.domainOf_ref, h]
      · simp [satisfied, hrun, Misses]
    · refine hshown .dock "docked" "docked" (fun _ => Iff.rfl) rfl ?_ fun after hrun => ?_
      · simp [toServiceCall, hdevice.domainOf_ref, h]
      · simp [satisfied, hrun, Misses]

/-! ### Volumes -/

/-- The volume that is read off the level of a percentage is that percentage. -/
theorem volume_of_level (value : Int) : roundHalfEven ((value : ℚ) / 100 * 100) = value := by
  have h : (value : ℚ) / 100 * 100 = value := by ring
  rw [h, roundHalfEven_intCast]

variable (parse) in
/-- What a player with a volume reports. -/
theorem projectState_media (hdevice : DeviceOf device entity .media) (hvolume : .volume ∈ device.traits)
    (state : Entity) : (projectState parse device state).volume = some (volumeOf state) ∧
      (projectState parse device state).muted = some (state.attributes.isVolumeMuted.getD false) := by
  simp only [projectState, hdevice.type, if_pos hvolume, and_self]

theorem volumeOf_reported {value : Int} (h : after.attributes.volumeLevel = some ((value : ℚ) / 100)) :
    volumeOf after = value := by
  rw [volumeOf, h]
  exact volume_of_level value

theorem agrees_volume (hdevice : DeviceOf device entity kind) (hreachable : entity.state ∉ unreachable)
    (hadmits : Admits device action) (htrait : action.trait = .volume) :
    Agrees parse device entity action ↔ ¬ Misses device entity action := by
  obtain ⟨hkind, hdomain⟩ := hdevice.kind_of_admits hadmits
  obtain rfl : kind = .media := by simpa [htrait, kindsOf] using hkind
  have hmedia : entity.domain = "media_player" := by simpa [domainsOf] using hdomain
  have hvolume : .volume ∈ device.traits := htrait ▸ hadmits.1
  have hbefore := (projectState_media parse hdevice hvolume entity).1
  cases action <;> simp only [Action.trait, reduceCtorEq] at htrait
  case setVolume value =>
    refine agrees_iff_of_call (.volumeSet ((value : ℚ) / 100)) hdevice ?_ hreachable
      { entity with attributes := { entity.attributes with volumeLevel := some ((value : ℚ) / 100) } } rfl rfl
      fun after hreports => ?_
    · simp only [toServiceCall, hmedia]
    · simp [satisfied, (projectState_media parse hdevice hvolume after).1, volumeOf_reported hreports, near, Misses]
  case stepVolume delta =>
    generalize hlevel : clamp (volumeOf entity + delta) 0 100 = level
    refine agrees_iff_of_call (.volumeSet ((level : ℚ) / 100)) hdevice ?_ hreachable
      { entity with attributes := { entity.attributes with volumeLevel := some ((level : ℚ) / 100) } } rfl rfl
      fun after hreports => ?_
    · simp only [toServiceCall, hmedia, hbefore, Option.getD_some, hlevel]
    · have hclamp := clamp_percent (volumeOf entity + delta)
      rw [hlevel] at hclamp
      unfold satisfied Misses
      simp only [hbefore, (projectState_media parse hdevice hvolume after).1, volumeOf_reported hreports,
        Option.getD_some, ne_eq, Option.some.injEq, decide_eq_true_eq]
      omega
  case mute muted =>
    refine agrees_iff_of_call (.volumeMute muted) hdevice ?_ hreachable
      { entity with attributes := { entity.attributes with isVolumeMuted := some muted } } rfl rfl
      fun after hreports => ?_
    · simp only [toServiceCall, hmedia]
    · have hmuted : after.attributes.isVolumeMuted = some muted := hreports
      simp [satisfied, (projectState_media parse hdevice hvolume after).2, hmuted, Misses]

theorem agrees_iff (hdevice : DeviceOf device entity kind) (hreachable : entity.state ∉ unreachable)
    (hadmits : Admits device action) :
    Agrees parse device entity action ↔ ¬ Misses device entity action := by
  cases action with
  | on => exact iff_of_true (agrees_switch hdevice hreachable hadmits (.inl rfl)) id
  | off => exact iff_of_true (agrees_switch hdevice hreachable hadmits (.inr (.inl rfl))) id
  | toggle => exact iff_of_true (agrees_switch hdevice hreachable hadmits (.inr (.inr rfl))) id
  | setLevel value => exact agrees_setLevel hdevice hreachable hadmits
  | stepLevel delta => exact agrees_stepLevel hdevice hreachable hadmits
  | setMode mode => exact agrees_setMode hdevice hreachable hadmits
  | setTarget celsius => exact iff_of_true (agrees_setTarget hdevice hreachable hadmits) id
  | stepTarget delta => exact agrees_stepTarget hdevice hreachable hadmits
  | setSpeed value => exact iff_of_true (agrees_speed hdevice hreachable hadmits (.inl rfl)) id
  | stepSpeed delta => exact iff_of_true (agrees_speed hdevice hreachable hadmits (.inr rfl)) id
  | openCover | closeCover | stopCover | setPosition =>
    exact iff_of_true (agrees_position hdevice hreachable hadmits rfl) id
  | lock => exact iff_of_true (agrees_lock hdevice hreachable hadmits (.inl rfl)) id
  | unlock => exact iff_of_true (agrees_lock hdevice hreachable hadmits (.inr rfl)) id
  | start | pause | stop | dock => exact agrees_operational hdevice hreachable hadmits rfl
  | setVolume | stepVolume | mute => exact agrees_volume hdevice hreachable hadmits rfl

end Agreement

/-- **The encoder and the decoder agree** on a command that a device admits, in every state of its
entity but an unreachable one, exactly when the command is none of those that are missed. -/
theorem command_confirmed (parse : String → Option Number) {entities : List Entity}
    {found : DiscoveredDevice} (hfound : found ∈ discover entities) {device : Import.Device}
    {provider : String} (hshows : device.Shows provider found) {entity : Entity}
    (hentity : entity.entityId = found.externalRef) (hreachable : entity.state ∉ unreachable)
    {action : Action} (hadmits : Admits device action) :
    Agrees parse device entity action ↔ ¬ Misses device entity action := by
  obtain ⟨kind, hdevice⟩ := deviceOf_of_discover hfound hshows hentity hadmits
  exact agrees_iff hdevice hreachable hadmits

/-! ### A lawn mower -/

namespace Sample

/-- A mower that is docked. -/
def mower : Entity := { entityId := "lawn_mower.front", state := "docked", name := "front" }

/-- What is discovered of the mower. -/
def mowerFound : DiscoveredDevice where
  externalRef := "lawn_mower.front"
  name := "front"
  suggestedType := .appliance
  traits := [.operational]
  areaName := none
  reachable := true

/-- The mower in the registry. -/
def mowerDevice : Import.Device where
  deviceId := "homeassistant.lawn_mower.front"
  name := "front"
  type := .appliance
  areaId := none
  provider := "homeassistant:a"
  providerRef := some "lawn_mower.front"
  traits := [.operational]
  limits := none
  source := "imported"
  syncedAtMs := some 0

theorem mowerFound_mem : mowerFound ∈ discover [mower] := by decide +kernel

theorem mowerDevice_shows : mowerDevice.Shows "homeassistant:a" mowerFound :=
  ⟨rfl, rfl, rfl, rfl, rfl, rfl⟩

end Sample

theorem command_confirmed_pause :
    Agrees (fun _ => none) Sample.mowerDevice Sample.mower .pause ∧
      ¬ Agrees (fun _ => none) Sample.mowerDevice Sample.mower .start := by
  constructor
  · exact (command_confirmed _ Sample.mowerFound_mem Sample.mowerDevice_shows rfl (by decide)
      ⟨by decide, trivial⟩).mpr id
  · intro hagrees
    exact (command_confirmed _ Sample.mowerFound_mem Sample.mowerDevice_shows rfl (by decide)
      ⟨by decide, trivial⟩).mp hagrees
      (show Sample.mower.domain = "lawn_mower" by decide +kernel)

/-- A lawn mower that mows is read as idle, so its start is not recognised. -/
theorem mowing_unrecognised :
    ¬ ∀ (parse : String → Option Number) (entities : List Entity), ∀ found ∈ discover entities,
      ∀ (device : Import.Device) (provider : String), device.Shows provider found →
      ∀ entity : Entity, entity.entityId = found.externalRef → entity.state ∉ unreachable →
      ∀ action, Admits device action → Agrees parse device entity action := by
  intro h
  have hagrees := h (fun _ => none) [Sample.mower] _ Sample.mowerFound_mem _ _ Sample.mowerDevice_shows
    Sample.mower rfl (by decide) .start ⟨by decide, trivial⟩
  have hdevice : DeviceOf Sample.mowerDevice Sample.mower .appliance :=
    ⟨by decide +kernel, rfl, rfl, ⟨Sample.mower, rfl⟩, ⟨Sample.mower, rfl⟩⟩
  exact (agrees_iff hdevice (by decide) ⟨by decide, trivial⟩).mp hagrees
      (show Sample.mower.domain = "lawn_mower" by decide +kernel)

end EidolonHub.SmartHome.HomeAssistant
