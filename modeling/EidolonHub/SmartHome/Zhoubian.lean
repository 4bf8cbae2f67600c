import EidolonHub.Library.Python
import EidolonHub.Library.Slug
import EidolonHub.SmartHome.Vocabulary

/-!
# EidolonHub.SmartHome.Zhoubian

**What the 周边好生活 adapter makes of a device list**: the devices that it lists for an import,
and an observation for every reference whose connection is not as it was in the list before.
-/

namespace EidolonHub.SmartHome.Zhoubian

open EidolonHub.Library EidolonHub.Library.Python EidolonHub.Library.Slug

/-- What the Unicode standard tabulates: `str.isalnum` of a single code point, and `str.lower`. -/
structure Letters where
  isalnum : Char → Bool
  lower : String → String

/-- A device as the platform names it: its id, and that of the resource if there is one. -/
structure PlatformId where
  deviceId : String
  resourceId : Option String
  deriving DecidableEq

/-- A row of the device list. -/
structure PlatformRow where
  id : PlatformId
  deviceName : Option String := none
  productName : Option String := none
  classifyName : Option String := none
  place : Option String := none
  connected : Bool := true

/-- `value or other`, where an empty text is as good as none. -/
def orElse (value : Option String) (other : String) : String := (value.filter (· ≠ "")).getD other

/-! ### References -/

/-- The text that a reference is made of. -/
def PlatformId.text (id : PlatformId) : String :=
  match id.resourceId.filter (· ≠ "") with
  | some resourceId => id.deviceId ++ "." ++ resourceId
  | none => id.deviceId

/-- What `external_ref` does not keep. -/
def outside (letters : Letters) (c : Char) : Bool :=
  !(letters.isalnum c || c ∈ ['.', '_', ':', '-'])

/-- How long a reference may be. -/
def refMax : Nat := 128

/-- `external_ref`. -/
def externalRef (letters : Letters) (id : PlatformId) : String :=
  sliceTo refMax (String.ofList (id.text.toList.map (fillChar (outside letters) '-')))

/-! ### Types and traits -/

/-- The words in a product's name that tell its type; the first that is found counts. -/
def typeWords : List (String × DeviceType) :=
  [("空调", .climate), ("ac", .climate), ("窗帘", .cover), ("curtain", .cover), ("灯", .light),
    ("light", .light), ("风扇", .fan), ("fan", .fan), ("插座", .switch), ("开关", .switch),
    ("switch", .switch), ("传感", .sensor), ("sensor", .sensor)]

/-- `suggest_type`. -/
def suggestType (letters : Letters) (classifyName productName : String) : DeviceType :=
  let text := letters.lower (classifyName ++ " " ++ productName)
  ((typeWords.find? fun word => isIn word.1 text).map (·.2)).getD .switch

/-- `traits_for`. -/
def traitsFor : DeviceType → List DeviceTrait
  | .cover => [.position]
  | .sensor => [.measure]
  | _ => [.onOff]

/-! ### The device list -/

/-- What `discover` makes of a row. -/
def PlatformRow.found (letters : Letters) (row : PlatformRow) : DiscoveredDevice :=
  let kind := suggestType letters (orElse row.classifyName "") (orElse row.productName "")
  { externalRef := externalRef letters row.id
    name := sliceTo 64 (orElse row.deviceName (orElse row.productName "设备"))
    suggestedType := kind
    traits := traitsFor kind
    areaName := row.place.filter (· ≠ "")
    reachable := row.connected }

/-- Whether each reference of a list was connected, by the last row that has it. -/
abbrev Known := List (String × Bool)

/-- `seen.get(ref)`. -/
def Known.get (known : Known) (ref : String) : Option Bool := (known.find? (·.1 = ref)).map (·.2)

/-- `seen[ref] = connected`. -/
def Known.set (known : Known) (ref : String) (connected : Bool) : Known :=
  if known.any (·.1 = ref) then known.map fun entry => if entry.1 = ref then (ref, connected) else entry
  else known ++ [(ref, connected)]

/-- `ZhoubianProvider.discover`: what it returns, and what it remembers of the account. -/
def discover (letters : Letters) (rows : List PlatformRow) : List DiscoveredDevice × Known :=
  (rows.map (·.found letters),
    rows.foldl (fun known row => known.set (externalRef letters row.id) row.connected) [])

/-- What `observe` yields for a list, after the one it remembers. -/
def observations (before known : Known) (nowMs : Millis) : List Observation :=
  (known.filter fun entry => before.get entry.1 ≠ some entry.2).map fun entry =>
    ⟨entry.1, entry.2, none, nowMs⟩

end EidolonHub.SmartHome.Zhoubian
