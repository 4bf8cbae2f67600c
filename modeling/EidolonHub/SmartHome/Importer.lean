import EidolonHub.Library.Python
import EidolonHub.Library.Run
import EidolonHub.Library.Table
import EidolonHub.SmartHome.Vocabulary

/-!
# EidolonHub.SmartHome.Importer

**Discovery becomes registry.** An import walks over what a Provider account exposes, and then
over the devices of that account which were not among it. Each turn makes at most one write for
an area and one for a device, at the revision the previous write returned.

Data stores what it is given or refuses. A Pass records what the registry was after every
write, also when a later one is refused.
-/

namespace EidolonHub.SmartHome.Import

open EidolonHub.Library EidolonHub.Library.Python

/-- An area of a home. -/
abbrev AreaId := String

/-! ### The registry -/

/-- What the owner edits by hand. -/
inductive OwnerField where
  | name | aliases | areaId
  deriving DecidableEq

/-- An area of the registry. -/
structure Area where
  areaId : AreaId
  name : String
  order : Nat
  deriving DecidableEq

/-- `Device`. -/
structure Device where
  deviceId : DeviceId
  name : String
  aliases : List String := []
  type : DeviceType
  areaId : Option AreaId
  provider : String
  providerRef : Option String
  traits : List DeviceTrait
  limits : Option Limits
  source : String
  overrides : List OwnerField := []
  orphaned : Bool := false
  syncedAtMs : Option Millis
  deriving DecidableEq

instance : Keyed Area where
  clash a b := a.areaId = b.areaId
  clash_symm a b := by simp only [eq_comm]

instance : Keyed Device where
  clash d e := d.deviceId = e.deviceId
  clash_symm d e := by simp only [eq_comm]

/-- `Registry`. -/
structure Registry where
  areas : Table Area
  devices : Table Device
  revision : Nat

namespace Registry

variable (registry : Registry)

/-- The device of this id. -/
def device (deviceId : DeviceId) : Option Device := registry.devices.get (·.deviceId) deviceId

/-- `next(... d.provider == provider and d.provider_ref == external_ref)`. -/
def imported (provider externalRef : String) : Option Device :=
  registry.devices.rows.find? fun d => d.provider = provider ∧ d.providerRef = some externalRef

/-- `next(a for a in registry.areas if a.name == name)`. -/
def areaNamed (name : String) : Option Area := registry.areas.rows.find? (·.name = name)

/-! What Data makes of a write; nothing where an id is taken or unknown. -/

/-- An area is created, unless its id is taken. -/
def createArea (area : Area) : Option Registry :=
  (registry.areas.insert? area).map fun areas =>
    { registry with areas, revision := registry.revision + 1 }

/-- A device is created, unless its id is taken. -/
def createDevice (device : Device) : Option Registry :=
  (registry.devices.insert? device).map fun devices =>
    { registry with devices, revision := registry.revision + 1 }

theorem replace_keeps (device : Device) :
    Table.Keeps fun d : Device => { device with deviceId := d.deviceId } := fun _ _ => rfl

/-- A device is written over, if it is there; it keeps its id. -/
def updateDevice (device : Device) : Option Registry :=
  (registry.device device.deviceId).map fun _ => { registry with
    devices := registry.devices.modify (·.deviceId) device.deviceId
      (fun d => { device with deviceId := d.deviceId }) (replace_keeps device)
    revision := registry.revision + 1 }

end Registry

/-! ### Names and ids -/

/-- How long a name may be. -/
def nameMax : Nat := 32

/-- `_clip_name`. -/
def clipName (name : String) : String :=
  let cleaned := strip (subRuns isSpace ' ' name)
  sliceTo nameMax (if cleaned = "" then "设备" else cleaned)

/-- The names of the other devices in an area. -/
def taken (registry : Registry) (areaId : Option AreaId) (exceptId : Option DeviceId) : List String :=
  (registry.devices.rows.filter fun d => d.areaId = areaId ∧ some d.deviceId ≠ exceptId).map (·.name)

/-- The names `_unique_name` tries, in their order. -/
def candidates (name : String) : List String :=
  name :: (List.range 98).map fun n =>
    let suffix := toString (n + 2)
    sliceTo (nameMax - suffix.length) name ++ suffix

/-- `_unique_name`, which raises where they are all taken. -/
def uniqueName (registry : Registry) (areaId : Option AreaId) (name : String)
    (exceptId : Option DeviceId := none) : Option String :=
  (candidates name).find? (· ∉ taken registry areaId exceptId)

/-- The characters an id may have. -/
def isIdent (c : Char) : Bool :=
  ('A' ≤ c ∧ c ≤ 'Z') ∨ ('a' ≤ c ∧ c ≤ 'z') ∨ ('0' ≤ c ∧ c ≤ '9') ∨ c ∈ ['.', '_', ':', '-']

/-- `_IDENT.sub("-", text)`. -/
def ident (text : String) : String := subRuns (fun c => !isIdent c) '-' text

/-- How long an id may be. -/
def idMax : Nat := 128

/-- `_device_id`. -/
def deviceId (provider externalRef : String) : DeviceId :=
  sliceTo idMax (ident (provider ++ "." ++ externalRef))

/-- The name of an area, unless it is empty. -/
def areaWanted (areaName : Option String) : Option String := areaName.filter (· ≠ "")

/-- What the id of an area begins with. -/
def areaBase (name : String) : String :=
  let base := stripChar '-' (ident name)
  let base := if base = "" then "area" else base
  match base.toList.head? with
  | some c => if isIdent c ∧ c ∉ ['.', '_', ':', '-'] then base else "area-" ++ base
  | none => base

/-- The ids `_area_id` tries, in their order. -/
def areaCandidate (base : String) : Nat → AreaId
  | 0 => base
  | n + 1 => base ++ "-" ++ toString (n + 2)

/-- `_area_id`: one of so many candidates is free. -/
def areaId (name : String) (registry : Registry) : AreaId :=
  let tried := (List.range (registry.areas.rows.length + 1)).map (areaCandidate (areaBase name))
  let free := tried.find? fun id => registry.areas.rows.all (·.areaId ≠ id)
  sliceTo idMax (free.getD (areaBase name))

/-- The name for a device that is there; the name it has where the owner gave it one. -/
def nameFor (registry : Registry) (found : DiscoveredDevice) (areaId : Option AreaId)
    (current : Device) : Option String :=
  if .name ∈ current.overrides then some current.name
  else uniqueName registry areaId (clipName found.name) current.deviceId

/-! ### A pass -/

/-- Why something that was found is left out. -/
inductive SkipReason where
  | duplicateRef | limitExceeded | areaLimitExceeded
  deriving DecidableEq

/-- Something that was found and is left out. -/
structure Skipped where
  ref : String
  reason : SkipReason
  deriving DecidableEq

/-- `SyncReport`. -/
structure SyncReport where
  added : List DeviceId := []
  updated : List DeviceId := []
  orphaned : List DeviceId := []
  skipped : List Skipped := []
  revision : Nat := 0
  deriving DecidableEq

/-- How an import ends that does not return. -/
inductive Failure where
  /-- Data refused a write. -/
  | refused
  /-- `ValueError`. -/
  | noUniqueName
  deriving DecidableEq

/-- What an import is made with: whose devices, when, what Data accepts, and the bounds of the
vocabulary. -/
structure Importer where
  provider : String
  nowMs : Millis
  accepts : Registry → Bool
  maxAreas : Nat
  maxDevices : Nat

/-- An import under way. -/
structure Pass where
  registry : Registry
  report : SyncReport := {}
  seenRefs : List String := []
  /-- The registry after each write. -/
  written : List Registry := []
  failure : Option Failure := none

namespace Pass

variable (pass : Pass)

/-- The report tells that something is left out. -/
def skip (ref : String) (reason : SkipReason) : Pass :=
  { pass with report := { pass.report with skipped := pass.report.skipped ++ [⟨ref, reason⟩] } }

@[simp] theorem skip_registry (ref : String) (reason : SkipReason) :
    (pass.skip ref reason).registry = pass.registry := rfl

@[simp] theorem skip_skipped (ref : String) (reason : SkipReason) :
    (pass.skip ref reason).report.skipped = pass.report.skipped ++ [⟨ref, reason⟩] := rfl

/-- `seen_refs.add(ref)`. -/
def see (ref : String) : Pass := { pass with seenRefs := pass.seenRefs ++ [ref] }

/-- A write, with what the report says of it. -/
def write (importer : Importer) (registry : Option Registry) (report : SyncReport) : Pass :=
  match registry.filter importer.accepts with
  | none => { pass with failure := some .refused }
  | some registry => { pass with registry, report, written := pass.written ++ [registry] }

/-- `_ensure_area`. -/
def ensureArea (importer : Importer) (areaName : Option String) : Pass × Option AreaId :=
  match areaWanted areaName with
  | none => (pass, none)
  | some areaName =>
    let name := clipName areaName
    match pass.registry.areaNamed name with
    | some existing => (pass, some existing.areaId)
    | none =>
      if importer.maxAreas ≤ pass.registry.areas.rows.length then
        (pass.skip name .areaLimitExceeded, none)
      else
        let area : Area := ⟨areaId name pass.registry, name, pass.registry.areas.rows.length⟩
        (pass.write importer (pass.registry.createArea area) pass.report, some area.areaId)

end Pass

/-- `_facts`. -/
def Device.facts (device : Device) : Device := { device with syncedAtMs := none }

namespace Importer

variable (importer : Importer)

/-- The device that is created for what was found. -/
def created (found : DiscoveredDevice) (areaId : Option AreaId) (name : String) : Device where
  deviceId := deviceId importer.provider found.externalRef
  name
  type := found.suggestedType
  areaId
  provider := importer.provider
  providerRef := some found.externalRef
  traits := found.traits
  limits := found.limits
  source := "imported"
  syncedAtMs := some importer.nowMs

/-- `proposed`, with the name that is not overridden. -/
def proposed (found : DiscoveredDevice) (areaId : Option AreaId) (current : Device) (name : String) :
    Device :=
  { current with
    type := found.suggestedType
    traits := found.traits
    limits := found.limits
    syncedAtMs := some importer.nowMs
    orphaned := false
    source := "imported"
    name := if .name ∈ current.overrides then current.name else name
    areaId := if .areaId ∈ current.overrides then current.areaId else areaId }

/-- The device of one discovered device, in the area that was found for it. -/
def importDevice (found : DiscoveredDevice) (areaId : Option AreaId) (pass : Pass) : Pass :=
  match pass.registry.imported importer.provider found.externalRef with
  | none =>
    if importer.maxDevices ≤ pass.registry.devices.rows.length then
      pass.skip found.externalRef .limitExceeded
    else
      match uniqueName pass.registry areaId (clipName found.name) with
      | none => { pass with failure := some .noUniqueName }
      | some name =>
        let device := importer.created found areaId name
        pass.write importer (pass.registry.createDevice device)
          { pass.report with added := pass.report.added ++ [device.deviceId] }
  | some current =>
    match nameFor pass.registry found areaId current with
    | none => { pass with failure := some .noUniqueName }
    | some name =>
      let proposed := importer.proposed found areaId current name
      if proposed.facts = current.facts then pass
      else
        pass.write importer (pass.registry.updateDevice proposed)
          { pass.report with updated := pass.report.updated ++ [current.deviceId] }

/-- Its area, and then its device. -/
def importNew (pass : Pass) (found : DiscoveredDevice) : Pass :=
  let area := pass.ensureArea importer found.areaName
  if area.1.failure.isSome then area.1 else importer.importDevice found area.2 area.1

/-- One turn of the first loop. -/
def importOne (pass : Pass) (found : DiscoveredDevice) : Pass :=
  if pass.failure.isSome then pass
  else if found.externalRef ∈ pass.seenRefs then pass.skip found.externalRef .duplicateRef
  else importer.importNew (pass.see found.externalRef) found

/-- One turn of the second loop. -/
def orphanOne (pass : Pass) (device : Device) : Pass :=
  if pass.failure.isSome then pass
  else if device.provider = importer.provider ∧ (∀ ref ∈ pass.seenRefs, device.providerRef ≠ some ref) ∧
      device.orphaned = false then
    pass.write importer
      (pass.registry.updateDevice { device with orphaned := true, syncedAtMs := some importer.nowMs })
      { pass.report with orphaned := pass.report.orphaned ++ [device.deviceId] }
  else pass

/-- The first loop, over what was discovered. -/
def importAll (registry : Registry) (discovered : List DiscoveredDevice) : Pass :=
  run importer.importOne { registry } discovered

/-- The second loop, over the devices that are there when it begins. -/
def orphanMissing (pass : Pass) : Pass := run importer.orphanOne pass pass.registry.devices.rows

/-- `RegistryImporter.sync`. -/
def sync (registry : Registry) (discovered : List DiscoveredDevice) : Pass :=
  let pass := importer.orphanMissing (importer.importAll registry discovered)
  { pass with report := { pass.report with revision := pass.registry.revision } }

end Importer

/-! ### What a write does -/

theorem device_isKey : Table.IsKey (·.deviceId : Device → DeviceId) := fun _ _ h => by
  simpa [Keyed.clash] using h

namespace Registry

variable {registry registry' : Registry} {device current : Device} {area : Area} {id : DeviceId}
  {provider externalRef : String}

theorem device_of_mem (h : device ∈ registry.devices) :
    registry.device device.deviceId = some device :=
  Table.get_of_mem device_isKey h

theorem device_mem (h : registry.device id = some device) : device ∈ registry.devices :=
  Table.get_mem h

theorem device_id (h : registry.device id = some device) : device.deviceId = id := Table.get_key h

theorem imported_spec (h : registry.imported provider externalRef = some current) :
    current ∈ registry.devices ∧ current.provider = provider ∧ current.providerRef = some externalRef :=
  have hfound := List.find?_some h
  ⟨List.mem_of_find?_eq_some h, of_decide_eq_true hfound⟩

theorem createArea_spec (h : registry.createArea area = some registry') :
    registry'.devices = registry.devices ∧ registry'.areas.rows = registry.areas.rows ++ [area] ∧
      registry'.revision = registry.revision + 1 := by
  obtain ⟨areas, hareas, rfl⟩ := Option.map_eq_some_iff.mp h
  exact ⟨rfl, Table.insert?_rows hareas, rfl⟩

theorem createDevice_spec (h : registry.createDevice device = some registry') :
    registry'.areas = registry.areas ∧ registry'.devices.rows = registry.devices.rows ++ [device] ∧
      registry'.revision = registry.revision + 1 := by
  obtain ⟨devices, hdevices, rfl⟩ := Option.map_eq_some_iff.mp h
  exact ⟨rfl, Table.insert?_rows hdevices, rfl⟩

theorem device_createDevice (h : registry.createDevice device = some registry') (id : DeviceId) :
    registry'.device id = if id = device.deviceId then some device else registry.device id := by
  obtain ⟨devices, hdevices, rfl⟩ := Option.map_eq_some_iff.mp h
  exact Table.get_insert hdevices device_isKey

theorem createDevice_fresh (h : registry.createDevice device = some registry') :
    registry.device device.deviceId = none := by
  obtain ⟨devices, hdevices, -⟩ := Option.map_eq_some_iff.mp h
  exact Table.fresh_of_insert hdevices device_isKey

theorem updateDevice_spec (h : registry.updateDevice device = some registry') :
    registry'.areas = registry.areas ∧
      registry'.devices.rows =
        registry.devices.rows.map (fun d => if d.deviceId = device.deviceId then device else d) ∧
      registry'.revision = registry.revision + 1 := by
  obtain ⟨current, -, rfl⟩ := Option.map_eq_some_iff.mp h
  refine ⟨rfl, List.map_congr_left fun d _ => ?_, rfl⟩
  by_cases hid : d.deviceId = device.deviceId
  · simp [hid]
  · simp [hid]

theorem device_updateDevice (h : registry.updateDevice device = some registry') (id : DeviceId) :
    registry'.device id = if id = device.deviceId then some device else registry.device id := by
  obtain ⟨current, hcurrent, rfl⟩ := Option.map_eq_some_iff.mp h
  have hget := Table.get_modify_self (t := registry.devices) (k := (·.deviceId)) (x := device.deviceId)
    (y := id) (replace_keeps device) (fun _ => rfl)
  refine hget.trans ?_
  split
  · next hid =>
    subst hid
    have hcurrent' : registry.devices.get (·.deviceId) device.deviceId = some current := hcurrent
    rw [hcurrent', Option.map_some, device_id hcurrent]
  · rfl

end Registry

/-! ### What a turn does -/

namespace Pass

variable {importer : Importer} {pass : Pass} {registry : Option Registry} {report : SyncReport}

/-- A write that Data accepts. -/
theorem write_eq (h : (pass.write importer registry report).failure = none) :
    ∃ registry', registry = some registry' ∧ pass.write importer registry report =
      { pass with registry := registry', report, written := pass.written ++ [registry'] } := by
  unfold write at h ⊢
  cases hregistry : registry.filter importer.accepts with
  | none =>
    rw [hregistry] at h
    cases h
  | some registry' => exact ⟨registry', (Option.filter_eq_some_iff.mp hregistry).1, rfl⟩

end Pass

/-- What comes of the area something was found in, where nothing is refused. -/
inductive AreaTurn (importer : Importer) (pass : Pass) (areaName : Option String) :
    Pass → Option AreaId → Prop
  | nowhere (hname : areaWanted areaName = none) : AreaTurn importer pass areaName pass none
  | existing {name : String} {area : Area} (hname : areaWanted areaName = some name)
      (harea : pass.registry.areaNamed (clipName name) = some area) :
      AreaTurn importer pass areaName pass (some area.areaId)
  | full {name : String} (hname : areaWanted areaName = some name)
      (hmissing : pass.registry.areaNamed (clipName name) = none)
      (hfull : importer.maxAreas ≤ pass.registry.areas.rows.length) :
      AreaTurn importer pass areaName (pass.skip (clipName name) .areaLimitExceeded) none
  | created {name : String} {area : Area} {registry : Registry}
      (hname : areaWanted areaName = some name) (hmissing : pass.registry.areaNamed (clipName name) = none)
      (hroom : pass.registry.areas.rows.length < importer.maxAreas)
      (harea : area.name = clipName name) (hwrite : pass.registry.createArea area = some registry) :
      AreaTurn importer pass areaName
        { pass with registry, written := pass.written ++ [registry] } (some area.areaId)

/-- What comes of one discovered device, where nothing is refused. -/
inductive Turn (importer : Importer) (found : DiscoveredDevice) (areaId : Option AreaId) (pass : Pass) :
    Pass → Prop
  | full (hmissing : pass.registry.imported importer.provider found.externalRef = none)
      (hfull : importer.maxDevices ≤ pass.registry.devices.rows.length) :
      Turn importer found areaId pass (pass.skip found.externalRef .limitExceeded)
  | added {name : String} {registry : Registry}
      (hmissing : pass.registry.imported importer.provider found.externalRef = none)
      (hroom : pass.registry.devices.rows.length < importer.maxDevices)
      (hname : uniqueName pass.registry areaId (clipName found.name) = some name)
      (hwrite : pass.registry.createDevice (importer.created found areaId name) = some registry) :
      Turn importer found areaId pass { pass with
        registry
        report := { pass.report with
          added := pass.report.added ++ [deviceId importer.provider found.externalRef] }
        written := pass.written ++ [registry] }
  | same {current : Device} {name : String}
      (hcurrent : pass.registry.imported importer.provider found.externalRef = some current)
      (hname : nameFor pass.registry found areaId current = some name)
      (hfacts : (importer.proposed found areaId current name).facts = current.facts) :
      Turn importer found areaId pass pass
  | updated {current : Device} {name : String} {registry : Registry}
      (hcurrent : pass.registry.imported importer.provider found.externalRef = some current)
      (hname : nameFor pass.registry found areaId current = some name)
      (hfacts : (importer.proposed found areaId current name).facts ≠ current.facts)
      (hwrite : pass.registry.updateDevice (importer.proposed found areaId current name) = some registry) :
      Turn importer found areaId pass { pass with
        registry
        report := { pass.report with updated := pass.report.updated ++ [current.deviceId] }
        written := pass.written ++ [registry] }

namespace Importer

variable {importer : Importer} {pass : Pass} {found : DiscoveredDevice} {areaId : Option AreaId}

theorem importDevice_turn (h : (importer.importDevice found areaId pass).failure = none) :
    Turn importer found areaId pass (importer.importDevice found areaId pass) := by
  unfold importDevice at h ⊢
  cases hcurrent : pass.registry.imported importer.provider found.externalRef with
  | none =>
    simp only [hcurrent] at h ⊢
    split
    · next hfull => exact .full hcurrent hfull
    · next hroom =>
      rw [if_neg hroom] at h
      cases hname : uniqueName pass.registry areaId (clipName found.name) with
      | none =>
        rw [hname] at h
        cases h
      | some name =>
        simp only [hname] at h ⊢
        obtain ⟨registry, hwrite, heq⟩ := Pass.write_eq h
        rw [heq]
        exact .added hcurrent (Nat.lt_of_not_le hroom) hname hwrite
  | some current =>
    simp only [hcurrent] at h ⊢
    cases hname : nameFor pass.registry found areaId current with
    | none =>
      rw [hname] at h
      cases h
    | some name =>
      simp only [hname] at h ⊢
      split
      · next hfacts => exact .same hcurrent hname hfacts
      · next hfacts =>
        rw [if_neg hfacts] at h
        obtain ⟨registry, hwrite, heq⟩ := Pass.write_eq h
        rw [heq]
        exact .updated hcurrent hname hfacts hwrite

theorem ensureArea_turn {areaName : Option String}
    (h : (pass.ensureArea importer areaName).1.failure = none) :
    AreaTurn importer pass areaName (pass.ensureArea importer areaName).1
      (pass.ensureArea importer areaName).2 := by
  unfold Pass.ensureArea at h ⊢
  cases hname : areaWanted areaName with
  | none => exact .nowhere hname
  | some name =>
    simp only [hname] at h ⊢
    cases harea : pass.registry.areaNamed (clipName name) with
    | some area => exact .existing hname harea
    | none =>
      simp only [harea] at h ⊢
      split
      · next hfull => exact .full hname harea hfull
      · next hroom =>
        rw [if_neg hroom] at h
        obtain ⟨registry, hwrite, heq⟩ := Pass.write_eq h
        rw [heq]
        refine .created hname harea (Nat.lt_of_not_le hroom) ?_ hwrite
        rfl

theorem importNew_turn (h : (importer.importNew pass found).failure = none) :
    AreaTurn importer pass found.areaName (pass.ensureArea importer found.areaName).1
        (pass.ensureArea importer found.areaName).2 ∧
      Turn importer found (pass.ensureArea importer found.areaName).2
        (pass.ensureArea importer found.areaName).1 (importer.importNew pass found) := by
  unfold importNew at h ⊢
  cases harea : (pass.ensureArea importer found.areaName).1.failure with
  | some failure =>
    simp only [harea, Option.isSome_some, if_true] at h
    cases h
  | none =>
    simp only [harea, Option.isSome_none, Bool.false_eq_true, if_false] at h ⊢
    exact ⟨ensureArea_turn harea, importDevice_turn h⟩

/-- What becomes of the area of a new reference. -/
def areaOf (importer : Importer) (pass : Pass) (found : DiscoveredDevice) : Pass × Option AreaId :=
  (pass.see found.externalRef).ensureArea importer found.areaName

theorem importOne_failed (h : pass.failure ≠ none) : importer.importOne pass found = pass :=
  if_pos (Option.isSome_iff_ne_none.mpr h)

theorem importOne_seen (h : pass.failure = none) (hseen : found.externalRef ∈ pass.seenRefs) :
    importer.importOne pass found = pass.skip found.externalRef .duplicateRef := by
  unfold importOne
  rw [if_neg (by simp [h]), if_pos hseen]

theorem run_importOne_failed (h : pass.failure ≠ none) (as : List DiscoveredDevice) :
    run importer.importOne pass as = pass := by
  induction as with
  | nil => rfl
  | cons a as ih => rw [run_cons, importOne_failed h, ih]

/-- One turn of the first loop: a repetition is skipped, anything else gets its area and then
its device. -/
theorem importOne_turn (h : (importer.importOne pass found).failure = none) :
    pass.failure = none ∧
      ((found.externalRef ∈ pass.seenRefs ∧
          importer.importOne pass found = pass.skip found.externalRef .duplicateRef) ∨
        found.externalRef ∉ pass.seenRefs ∧
          AreaTurn importer (pass.see found.externalRef) found.areaName (importer.areaOf pass found).1
            (importer.areaOf pass found).2 ∧
          Turn importer found (importer.areaOf pass found).2 (importer.areaOf pass found).1
            (importer.importOne pass found)) := by
  have hpass : pass.failure = none := by
    by_contra hfailed
    rw [importOne_failed hfailed] at h
    exact hfailed h
  refine ⟨hpass, ?_⟩
  unfold importOne at h ⊢
  simp only [hpass, Option.isSome_none, Bool.false_eq_true, if_false] at h ⊢
  split
  · next hseen => exact .inl ⟨hseen, rfl⟩
  · next hnew =>
    rw [if_neg hnew] at h
    exact .inr ⟨hnew, importNew_turn h⟩

end Importer

namespace Sample

/-- Data accepts whatever it is asked to store. -/
def importer : Importer where
  provider := "homeassistant:acc"
  nowMs := 0
  accepts _ := true
  maxAreas := 100
  maxDevices := 500

/-- A home without areas and devices. -/
def empty : Registry := ⟨.empty, .empty, 0⟩

/-- A light as it is found. -/
def found (ref name : String) (areaName : Option String) : DiscoveredDevice where
  externalRef := ref
  name
  suggestedType := .light
  traits := [.onOff]
  areaName
  reachable := true

end Sample

end EidolonHub.SmartHome.Import
