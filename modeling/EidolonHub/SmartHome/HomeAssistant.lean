import EidolonHub.SmartHome.Effects
import EidolonHub.SmartHome.Importer
import Mathlib.Data.List.Sort

/-!
# EidolonHub.SmartHome.HomeAssistant

**Home Assistant's entities as devices.** An entity becomes a device by its domain; a sensor is
grouped with its siblings. The state of the device is read off the entity, and a command of the
device becomes the call of a service, with relative steps resolved against the state before.

Three tables meet here: which type a domain becomes, which service a command is, and which state a
domain's words are.
-/

namespace EidolonHub.SmartHome.HomeAssistant

open EidolonHub.Library EidolonHub.Library.Python EidolonHub.Library.Table

/-! ### Tables -/

/-- `_HVAC_TO_MODE`. -/
def hvacModes : List (String × String) :=
  [("cool", "cool"), ("heat", "heat"), ("auto", "auto"), ("heat_cool", "auto"), ("fan_only", "fan"),
    ("dry", "dry")]

/-- `_HVAC_TO_MODE.get(state)`. -/
def hvacToMode (state : String) : Option String := hvacModes.lookup state

/-- `_MODE_TO_HVAC`. -/
def modeToHvac (mode : String) : Option String :=
  [("cool", "cool"), ("heat", "heat"), ("auto", "auto"), ("fan", "fan_only"), ("dry", "dry")].lookup mode

/-- `_VACUUM_RUN_STATE`. -/
def vacuumRunState (state : String) : Option String :=
  [("cleaning", "running"), ("paused", "paused"), ("docked", "docked"), ("returning", "docked"),
    ("idle", "idle"), ("error", "idle")].lookup state

/-- `_UNREACHABLE`. -/
def unreachable : List String := ["unavailable", "unknown"]

/-- `_DOMAIN_TYPE`. -/
def domainTypes : List (String × DeviceType) :=
  [("light", .light), ("switch", .switch), ("input_boolean", .switch), ("climate", .climate),
    ("water_heater", .waterHeater), ("cover", .cover), ("fan", .fan), ("media_player", .media),
    ("vacuum", .appliance), ("lawn_mower", .appliance), ("lock", .lock), ("camera", .camera)]

/-- `_DOMAIN_TYPE.get(domain)`. -/
def domainType (domain : String) : Option DeviceType := domainTypes.lookup domain

/-- The feature of a cover that can be set to a position. -/
def coverSetPosition : Nat := 4

/-- The feature of a fan whose speed can be set. -/
def fanSetSpeed : Nat := 1

/-- The feature of a player whose volume can be set. -/
def mediaVolumeSet : Nat := 4

/-! ### Entities -/

/-- The attributes of an entity that are read here. -/
structure Attributes where
  supportedFeatures : Option Nat := none
  supportedColorModes : Option (List String) := none
  /-- it may be there and have no value -/
  brightness : Option (Option Int) := none
  temperature : Option Number := none
  targetTempHigh : Option Number := none
  minTemp : Option Number := none
  maxTemp : Option Number := none
  currentTemperature : Option Number := none
  hvacModes : List String := []
  currentPosition : Option Int := none
  percentage : Option Int := none
  volumeLevel : Option ℚ := none
  isVolumeMuted : Option Bool := none
  deriving DecidableEq

/-- An entity as the instance shows it. -/
structure Entity where
  entityId : String
  state : String
  attributes : Attributes := {}
  name : String
  areaName : Option String := none
  deviceId : Option String := none
  deviceClass : Option String := none
  deriving DecidableEq

/-- `ref.partition(".")[0]`. -/
def domainOf (ref : String) : String := String.ofList (ref.toList.takeWhile (· ≠ '.'))

namespace Entity

variable (entity : Entity)

/-- What stands before the dot of its id. -/
def domain : String := domainOf entity.entityId

/-- `int(attributes.get("supported_features") or 0)`. -/
def features : Nat := entity.attributes.supportedFeatures.getD 0

end Entity

/-! ### Discovery -/

/-- `traits_of`. -/
def traitsOf (entity : Entity) : DeviceType → List DeviceTrait
  | .light =>
    let modes := entity.attributes.supportedColorModes.getD []
    if entity.attributes.brightness.isSome ∨ modes.any (· ≠ "onoff") then [.onOff, .level] else [.onOff]
  | .cover => [.position]
  | .fan => if entity.features &&& fanSetSpeed ≠ 0 then [.onOff, .fanSpeed] else [.onOff]
  | .media => if entity.features &&& mediaVolumeSet ≠ 0 then [.onOff, .volume] else [.onOff]
  | .climate | .waterHeater => [.onOff, .thermostat]
  | .appliance => [.operational]
  | .lock => [.lock]
  | .camera | .switch | .sensor => [.onOff]

/-- The range of a thermostat, where both its ends are known. -/
def targetRange (attributes : Attributes) : Option (Number × Number) :=
  match attributes.minTemp, attributes.maxTemp with
  | some low, some high => some (.float low.value, .float high.value)
  | _, _ => none

/-- The modes of a climate entity, in the words of the vocabulary. -/
def climateModes (attributes : Attributes) : List String :=
  (attributes.hvacModes.filterMap hvacToMode).eraseDups

/-- `limits_of`. -/
def limitsOf (entity : Entity) : DeviceType → Option Limits
  | .climate =>
    let modes := climateModes entity.attributes
    some ⟨targetRange entity.attributes, if modes = [] then none else some modes⟩
  | .waterHeater => some ⟨targetRange entity.attributes, some ["heat"]⟩
  | _ => none

/-- The device of an entity that is no sensor, if its domain becomes one. -/
def deviceOf (entity : Entity) : Option DiscoveredDevice :=
  if entity.domain = "sensor" then none
  else
    (domainType entity.domain).map fun kind =>
      { externalRef := entity.entityId
        name := sliceTo 64 entity.name
        suggestedType := kind
        traits := traitsOf entity kind
        limits := limitsOf entity kind
        areaName := entity.areaName
        reachable := entity.state ∉ unreachable }

/-- A sensor that is shown. -/
def isSensor (entity : Entity) : Bool :=
  entity.domain = "sensor" ∧
    (entity.deviceClass = some "temperature" ∨ entity.deviceClass = some "humidity")

/-- `entity.device_id or entity.entity_id`. -/
def groupKey (entity : Entity) : String := (entity.deviceId.filter (· ≠ "")).getD entity.entityId

/-- `sensor_ref`. -/
def sensorRef (group : List Entity) : String :=
  replace "+" ":" ("+".intercalate ((group.map (·.entityId)).insertionSort (· ≤ ·)))

/-- The name of a group: that of its first sensor, without the words for what it measures. -/
def sensorName (first : Entity) (group : List Entity) : String :=
  let bare := strip (replace "湿度" "" (replace "温度" "" first.name))
  if 1 < group.length then sliceTo 64 (if bare = "" then first.name else bare)
  else sliceTo 64 first.name

/-- The device of a group of sensors. -/
def sensorOf (group : List Entity) : Option DiscoveredDevice :=
  group.head?.map fun first =>
    { externalRef := sensorRef group
      name := sensorName first group
      suggestedType := .sensor
      traits := [.measure]
      areaName := first.areaName
      reachable := group.any (·.state ∉ unreachable) }

/-- `discover`. -/
def discover (entities : List Entity) : List DiscoveredDevice :=
  entities.filterMap deviceOf ++ (groups groupKey (entities.filter isSensor)).filterMap sensorOf

/-! ### States -/

/-- `a or b`, of numbers. -/
def orNumber (a b : Option Number) : Option Number := (a.filter (·.value ≠ 0)).or b

/-- `_num`. -/
def num (value default : Option Number) : Number := ((value.or default).getD (.int 0)).whole

/-- `_first_mode`. -/
def firstMode (device : Import.Device) : String :=
  match (device.limits.bind (·.modes)).bind (·.head?) with
  | some mode => mode
  | none => if device.type = .climate then "cool" else "heat"

/-- The level a light reports. -/
def levelOf (entity : Entity) : Int :=
  match entity.attributes.brightness.join with
  | some brightness => roundHalfEven ((brightness : ℚ) * 100 / 255)
  | none => if entity.state = "on" then 100 else 0

/-- The target a thermostat reports. -/
def targetOf (kind : DeviceType) (entity : Entity) : Number :=
  let attributes := entity.attributes
  match kind with
  | .climate =>
    num attributes.temperature
      (orNumber attributes.targetTempHigh (orNumber attributes.minTemp (some (.int 16))))
  | _ => num attributes.temperature (orNumber attributes.minTemp (some (.int 35)))

/-- The volume a player reports. -/
def volumeOf (entity : Entity) : Int := roundHalfEven (entity.attributes.volumeLevel.getD 0 * 100)

/-- `_num_or_none` of a state, for `float()` of a text. -/
def numOrNone (parse : String → Option Number) (state : String) : Option Number :=
  if state ∈ unreachable then none else (parse state).map Number.whole

/-- One sensor of a group. -/
def measure (parse : String → Option Number) (state : DeviceState) (entity : Entity) : DeviceState :=
  let value := numOrNone parse entity.state
  if entity.deviceClass = some "temperature" then { state with tempC := value }
  else if entity.deviceClass = some "humidity" then
    { state with humidity := value.map fun number => roundHalfEven number.value }
  else state

/-- `project_state`, for a device that has the traits it was found with. -/
def projectState (parse : String → Option Number) (device : Import.Device) (entity : Entity)
    (extra : List Entity := []) : DeviceState :=
  let attributes := entity.attributes
  match device.type with
  | .light =>
    { on := some (entity.state = "on")
      level := if .level ∈ device.traits then some (levelOf entity) else none }
  | .switch => { on := some (entity.state = "on") }
  | .camera => { on := some (entity.state ∉ unreachable ∧ entity.state ≠ "off") }
  | .climate =>
    { on := some (entity.state ∉ unreachable ∧ entity.state ≠ "off")
      mode := some ((hvacToMode entity.state).getD (firstMode device))
      targetC := some (targetOf .climate entity)
      currentC := attributes.currentTemperature.map Number.whole }
  | .waterHeater =>
    { on := some (entity.state ∉ unreachable ∧ entity.state ≠ "off")
      mode := some "heat"
      targetC := some (targetOf .waterHeater entity)
      currentC := attributes.currentTemperature.map Number.whole }
  | .cover =>
    { position := some (attributes.currentPosition.getD
        (if entity.state = "open" ∨ entity.state = "opening" then 100 else 0)) }
  | .fan =>
    { on := some (entity.state = "on")
      speed := if .fanSpeed ∈ device.traits then some (attributes.percentage.getD 0) else none }
  | .media =>
    { on := some (entity.state ∉ unreachable ∧ entity.state ≠ "off" ∧ entity.state ≠ "standby")
      volume := if .volume ∈ device.traits then some (volumeOf entity) else none
      muted := if .volume ∈ device.traits then some (attributes.isVolumeMuted.getD false) else none }
  | .appliance => { runState := some ((vacuumRunState entity.state).getD "idle") }
  | .lock => { locked := some (entity.state = "locked" ∨ entity.state = "locking") }
  | .sensor => (entity :: extra).foldl (measure parse) {}

/-! ### Commands -/

/-- A service of Home Assistant, with what it is called with besides the entity. -/
inductive Service where
  | turnOn (brightnessPct : Option Int := none)
  | turnOff
  | toggle
  | setHvacMode (hvacMode : String)
  | setTemperature (temperature : Number)
  | setPercentage (percentage : Int)
  | openCover
  | closeCover
  | stopCover
  | setCoverPosition (position : Int)
  | lock
  | unlock
  | start
  | startMowing
  | pause
  | stop
  | dock
  | returnToBase
  | volumeSet (volumeLevel : ℚ)
  | volumeMute (isVolumeMuted : Bool)
  deriving DecidableEq

/-- A call of a service, with the entity it is for. -/
structure ServiceCall where
  domain : String
  service : Service
  entityId : Option String
  deriving DecidableEq

/-- How `to_service_call` fails. -/
inductive CallError where
  | smartHome (error : SmartHomeError)
  | keyError (key : String)
  deriving DecidableEq

/-- The ends of the range a step is clamped to. -/
def lowest (device : Import.Device) : Option Number := (device.limits.bind (·.targetC)).map (·.1)

/-- The highest target of a device, if the registry has its limits. -/
def highest (device : Import.Device) : Option Number := (device.limits.bind (·.targetC)).map (·.2)

/-- Where a step of the thermostat leads from a target. -/
def stepped (device : Import.Device) (target delta : Number) : Number :=
  clampNumber (.float (binary64 (target.value + delta.value))) (lowest device) (highest device)

/-- `to_service_call`. -/
def toServiceCall (device : Import.Device) (action : Action) (current : DeviceState) (features : Nat := 0) :
    Except CallError ServiceCall :=
  let domain := domainOf (device.providerRef.getD "")
  let call (domain : String) (service : Service) : Except CallError ServiceCall :=
    .ok ⟨domain, service, device.providerRef⟩
  let unsupported (message : String) : Except CallError ServiceCall :=
    .error (.smartHome ⟨errorUnsupportedCommand, message⟩)
  match action with
  | .on => call domain .turnOn
  | .off => call domain .turnOff
  | .toggle => call domain .toggle
  | .setLevel value => call "light" (.turnOn value)
  | .stepLevel delta => call "light" (.turnOn (clamp (current.level.getD 0 + delta) 0 100))
  | .setMode mode =>
    match modeToHvac mode with
    | some hvacMode => call "climate" (.setHvacMode hvacMode)
    | none => .error (.keyError mode)
  | .setTarget celsius => call domain (.setTemperature celsius)
  | .stepTarget delta =>
    call domain (.setTemperature (stepped device (current.targetC.getD (.int 0)) delta))
  | .stepSpeed delta =>
    match current.speed with
    | none => unsupported "fan speed state unavailable"
    | some speed =>
      if 0 ≤ speed ∧ speed ≤ 100 then call "fan" (.setPercentage (clamp (speed + delta) 0 100))
      else unsupported "fan speed state unavailable"
  | .setSpeed value => call "fan" (.setPercentage value)
  | .openCover => call "cover" .openCover
  | .closeCover => call "cover" .closeCover
  | .stopCover => call "cover" .stopCover
  | .setPosition value =>
    if features &&& coverSetPosition = 0 then unsupported "cover has no set_position"
    else call "cover" (.setCoverPosition value)
  | .lock => call "lock" .lock
  | .unlock => call "lock" .unlock
  | .start => call domain (if domain = "vacuum" then .start else .startMowing)
  | .pause => call domain .pause
  | .stop => call domain (if domain = "vacuum" then .stop else .dock)
  | .dock => call domain (if domain = "vacuum" then .returnToBase else .dock)
  | .setVolume value => call "media_player" (.volumeSet ((value : ℚ) / 100))
  | .stepVolume delta =>
    call "media_player" (.volumeSet ((clamp (current.volume.getD 0 + delta) 0 100 : ℚ) / 100))
  | .mute muted => call "media_player" (.volumeMute muted)

/-- `HomeAssistantProvider.execute` over a connection, up to the call: the state before, and the call
that is made. -/
def prepare (parse : String → Option Number) (device : Import.Device) (action : Action)
    (current : Option Entity) : Except CallError (DeviceState × ServiceCall) :=
  let offline := .error (.smartHome ⟨errorDeviceOffline, device.providerRef.getD "" ++ " is unavailable"⟩)
  match current with
  | none => offline
  | some entity =>
    if entity.state ∈ unreachable then offline
    else
      let before := projectState parse device entity
      (toServiceCall device action before entity.features).map fun call => (before, call)

end EidolonHub.SmartHome.HomeAssistant
