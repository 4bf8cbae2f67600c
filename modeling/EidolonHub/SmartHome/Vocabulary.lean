import EidolonHub.Library.Rounding

/-!
# EidolonHub.SmartHome.Vocabulary

**Devices, commands and states of the smart home**, in the vocabulary that the runtime and
its Providers share: what a command asks for, and which facts a state reports. A fact a
state does not report is absent.
-/

namespace EidolonHub.SmartHome

open EidolonHub.Library

/-- The Owner of a home. -/
abbrev OwnerId := String

/-- A device of a home. -/
abbrev DeviceId := String

/-- The id that a client gives a request. -/
abbrev RequestId := String

/-- What the ids of the requests of one client are told apart by. -/
abbrev Scope := String

/-- A time in milliseconds. -/
abbrev Millis := Int

/-! ### Numbers -/

/-- A number as Python has it: an `int`, or a `float` by its value. -/
inductive Number where
  | int (n : Int)
  | float (q : ℚ)
  deriving DecidableEq

namespace Number

/-- The value of a number, whichever kind it is of. -/
def value : Number → ℚ
  | int n => n
  | float q => q

/-- `a + b`: exact for two `int`, else one floating-point operation. -/
def add : Number → Number → Number
  | int a, int b => int (a + b)
  | a, b => float (binary64 (a.value + b.value))

/-- `int(value) if float(value).is_integer() else float(value)`. -/
def whole (a : Number) : Number :=
  if (⌊a.value⌋ : ℚ) = a.value then int ⌊a.value⌋ else float a.value

@[simp] theorem whole_value (a : Number) : a.whole.value = a.value := by
  unfold whole
  split
  · next h => exact h
  · rfl

end Number

/-! ### States -/

/-- What a state reports of a device. -/
structure DeviceState where
  on : Option Bool := none
  level : Option Int := none
  mode : Option String := none
  targetC : Option Number := none
  currentC : Option Number := none
  speed : Option Int := none
  position : Option Int := none
  locked : Option Bool := none
  runState : Option String := none
  volume : Option Int := none
  muted : Option Bool := none
  tempC : Option Number := none
  humidity : Option Int := none
  deriving DecidableEq

/-! ### Devices -/

/-- The kinds of devices that a Provider account can bring in. -/
inductive DeviceType where
  | light | switch | climate | waterHeater | cover | fan | media | appliance | lock | camera | sensor
  deriving DecidableEq

/-- The trait a command belongs to. -/
inductive DeviceTrait where
  | onOff | level | thermostat | fanSpeed | position | lock | operational | volume | measure
  deriving DecidableEq

/-- `Limits`. -/
structure Limits where
  targetC : Option (Number × Number)
  modes : Option (List String)
  deriving DecidableEq

/-- `DiscoveredDevice`. -/
structure DiscoveredDevice where
  externalRef : String
  name : String
  suggestedType : DeviceType
  traits : List DeviceTrait
  limits : Option Limits := none
  areaName : Option String
  reachable : Bool
  deriving DecidableEq

/-- `Observation`. An adapter names the device by its own reference. -/
structure Observation where
  deviceId : String
  reachable : Bool
  state : Option DeviceState
  observedAtMs : Millis
  deriving DecidableEq

/-! ### Commands -/

/-- Trait, command and parameters of a `Command`. -/
inductive Action where
  | on
  | off
  | toggle
  | setLevel (value : Int)
  | stepLevel (delta : Int)
  | setMode (mode : String)
  | setTarget (celsius : Number)
  | stepTarget (delta : Number)
  | setSpeed (value : Int)
  | stepSpeed (delta : Int)
  | openCover
  | closeCover
  | stopCover
  | setPosition (value : Int)
  | lock
  | unlock
  | start
  | pause
  | stop
  | dock
  | setVolume (value : Int)
  | stepVolume (delta : Int)
  | mute (muted : Bool)
  deriving DecidableEq

/-- The trait that a command is about. -/
def Action.trait : Action → DeviceTrait
  | on | off | toggle => .onOff
  | setLevel _ | stepLevel _ => .level
  | setMode _ | setTarget _ | stepTarget _ => .thermostat
  | setSpeed _ | stepSpeed _ => .fanSpeed
  | openCover | closeCover | stopCover | setPosition _ => .position
  | lock | unlock => .lock
  | start | pause | stop | dock => .operational
  | setVolume _ | stepVolume _ | mute _ => .volume

/-- `Command`. -/
structure Command where
  deviceId : DeviceId
  action : Action
  deriving DecidableEq

/-- How a command ended, as far as it is known. -/
inductive CommandStatus where
  | succeeded | failed | unknown | delegated
  deriving DecidableEq

/-- `CommandResult`. -/
structure CommandResult where
  deviceId : DeviceId
  status : CommandStatus
  code : Option String := none
  state : Option DeviceState := none
  platformAnswer : Option String := none
  deriving DecidableEq

/-- `ExecuteResult`. -/
structure ExecuteResult where
  requestId : RequestId
  results : List CommandResult := []
  error : Option String := none
  deriving DecidableEq

/-- `SmartHomeError`. -/
structure SmartHomeError where
  code : String
  message : String
  deriving DecidableEq

/-- The device has no such command, or not with this value. -/
def errorUnsupportedCommand : String := "UNSUPPORTED_COMMAND"

/-- The Provider did not answer in time. -/
def errorDeadlineExceeded : String := "DEADLINE_EXCEEDED"

/-- The device is not connected. -/
def errorDeviceOffline : String := "DEVICE_OFFLINE"

/-- The registry does not have the device. -/
def errorUnknownDevice : String := "UNKNOWN_DEVICE"

/-- The registry does not have the scene. -/
def errorUnknownScene : String := "UNKNOWN_SCENE"

end EidolonHub.SmartHome
