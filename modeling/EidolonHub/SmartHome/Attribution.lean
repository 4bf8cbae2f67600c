import EidolonHub.SmartHome.Accounts
import EidolonHub.SmartHome.Importer
import EidolonHub.SmartHome.Identity

/-!
# EidolonHub.SmartHome.Attribution

**On which device an observation is recorded.** An adapter names what it saw by its own
reference; the observer of the account looks for the first device of the account that has this
reference among the parts of its own, parted at every colon. That is how Home Assistant's
sensors are grouped. A reference of the other platform may have colons that part nothing.
-/

namespace EidolonHub.SmartHome.Attribution

open EidolonHub.Library EidolonHub.Library.Python EidolonHub.SmartHome.Accounts
open EidolonHub.SmartHome.Import hiding Sample.found

/-- The name of an account as a provider. -/
def provider (integration : Integration) (accountId : AccountId) : String :=
  integration.kind ++ ":" ++ accountId

/-- `sensor_entities`. -/
def sensorEntities (ref : String) : List String := split ':' ref

/-- `(d["provider_ref"] or "").split(":")`. -/
def parts (d : Import.Device) : List String := split ':' (d.providerRef.getD "")

/-- A device of the account that `_observe` takes for the one a reference names. -/
def Named (provider ref : String) (d : Import.Device) : Prop := d.provider = provider ∧ ref ∈ parts d

instance (provider ref : String) (d : Import.Device) : Decidable (Named provider ref d) :=
  inferInstanceAs (Decidable (_ ∧ _))

/-- The row that `_observe` finds. -/
def rowOf (registry : Import.Registry) (provider ref : String) : Option Import.Device :=
  registry.devices.rows.find? fun d => Named provider ref d

/-- What the runtime is told of a device. -/
structure Recorded where
  deviceId : DeviceId
  reachable : Bool
  state : Option DeviceState
  deriving DecidableEq

/-- One observation in `AccountService._observe`, with the `project` of the adapter if it has one. -/
def record (registry : Import.Registry) (provider : String)
    (project : Option (Import.Device → Option DeviceState)) (observation : Observation) : Option Recorded :=
  (rowOf registry provider observation.deviceId).map fun row =>
    let projected := if observation.reachable then project.bind (· row) else none
    ⟨row.deviceId, observation.reachable, observation.state.or projected⟩

/-! ### What an observation is about -/

/-- The device that a reference of an account stands for: its own, or that of a sensor in its
group. -/
def About (integration : Integration) (accountId : AccountId) (ref : String) (d : Import.Device) : Prop :=
  d.provider = provider integration accountId ∧
    (d.providerRef = some ref ∨
      integration = .homeassistant ∧ d.type = .sensor ∧ ∃ group ∈ d.providerRef, ref ∈ sensorEntities group)

/-- It is recorded on the device it is about, and on no other one. -/
def Attributed (registry : Import.Registry) (integration : Integration) (accountId : AccountId)
    (project : Option (Import.Device → Option DeviceState)) (observation : Observation) : Prop :=
  ∀ d ∈ registry.devices,
    (record registry (provider integration accountId) project observation).map (·.deviceId) =
      some d.deviceId ↔ About integration accountId observation.deviceId d

/-- Parting finds the device that a reference stands for. -/
structure Parted (registry : Import.Registry) (integration : Integration) (accountId : AccountId)
    (ref : String) : Prop where
  /-- A device's own reference is in one part. -/
  whole : ∀ d ∈ registry.devices, d.provider = provider integration accountId →
    d.providerRef = some ref → ':' ∉ ref.toList
  /-- No device before it has the reference among its parts. -/
  first : ∀ before d after, registry.devices.rows = before ++ d :: after →
    About integration accountId ref d → ∀ e ∈ before, ¬Named (provider integration accountId) ref e
  /-- Nor has any where there is no such device. -/
  unknown : (∀ d ∈ registry.devices, ¬About integration accountId ref d) →
    ∀ e ∈ registry.devices, ¬Named (provider integration accountId) ref e

section Row

variable {registry : Import.Registry} {integration : Integration} {accountId : AccountId} {ref : String}
variable {d e : Import.Device}

theorem rowOf_mem {provider : String} (h : rowOf registry provider ref = some d) : d ∈ registry.devices :=
  List.mem_of_find?_eq_some h

theorem rowOf_named {provider : String} (h : rowOf registry provider ref = some d) :
    Named provider ref d := by
  simpa using List.find?_some h

/-- An observation is recorded on the row that is found. -/
theorem record_deviceId {provider : String} {project : Option (Import.Device → Option DeviceState)}
    {observation : Observation} (hd : d ∈ registry.devices) :
    (record registry provider project observation).map (·.deviceId) = some d.deviceId ↔
      rowOf registry provider observation.deviceId = some d := by
  unfold record
  rw [Option.map_map]
  constructor
  · intro h
    obtain ⟨e, he, hid⟩ := Option.map_eq_some_iff.mp h
    rw [he, Table.eq_of_key device_isKey (rowOf_mem he) hd hid]
  · intro h
    rw [h]
    rfl

/-- What is about a device has its reference in one part of the device's. -/
theorem About.named (h : About integration accountId ref d) (hwhole : d.providerRef = some ref → ':' ∉ ref.toList) :
    Named (provider integration accountId) ref d := by
  refine ⟨h.1, ?_⟩
  unfold parts
  rcases h.2 with href | ⟨-, -, group, hgroup, hmem⟩
  · rw [href, Option.getD_some]
    exact mem_split_self.mpr (hwhole href)
  · rw [Option.mem_def] at hgroup
    rwa [hgroup, Option.getD_some]

/-- The first of the devices that are named is the one that is found. -/
theorem rowOf_of_first {provider : String} {before after : List Import.Device}
    (h : registry.devices.rows = before ++ d :: after) (hd : Named provider ref d)
    (hbefore : ∀ e ∈ before, ¬Named provider ref e) : rowOf registry provider ref = some d := by
  unfold rowOf
  rw [h, List.find?_eq_some_iff_append]
  exact ⟨by simpa using hd, before, after, rfl, fun e he => by simpa using hbefore e he⟩

/-- Of the devices before a row that is found, none is named. -/
theorem first_of_rowOf {provider : String} {before after : List Import.Device}
    (h : registry.devices.rows = before ++ d :: after) (hrow : rowOf registry provider ref = some d) :
    ∀ e ∈ before, ¬Named provider ref e := by
  obtain ⟨-, before', after', heq, hbefore⟩ := List.find?_eq_some_iff_append.mp hrow
  have hnodup : registry.devices.rows.Nodup := Table.nodup fun r => by simp [Keyed.clash]
  have hmid : d ∉ before ++ after := (List.nodup_cons.mp (List.nodup_middle.mp (h ▸ hnodup))).1
  rw [List.mem_append, not_or] at hmid
  have hsame := ((List.append_cons_inj_of_notMem hmid.1 hmid.2).mp (h.symm.trans heq)).1
  intro e he
  simpa using hbefore e (hsame ▸ he)

end Row

/-- **An observation is recorded on the device it is about exactly where parting finds it.** -/
theorem observation_attributed (registry : Import.Registry) (integration : Integration) (accountId : AccountId)
    (project : Option (Import.Device → Option DeviceState)) (observation : Observation) :
    Attributed registry integration accountId project observation ↔
      Parted registry integration accountId observation.deviceId := by
  have hrecord : ∀ d ∈ registry.devices,
      (record registry (provider integration accountId) project observation).map (·.deviceId) = some d.deviceId ↔
        rowOf registry (provider integration accountId) observation.deviceId = some d :=
    fun d hd => record_deviceId hd
  constructor
  -- attributed rightly, so each row is the first that is named, and an unknown name names none
  · intro h
    refine ⟨fun d hd hprovider href => ?_, fun before d after hrows habout => ?_, fun hnone e he hnamed => ?_⟩
    · have hrow := (hrecord d hd).mp ((h d hd).mpr ⟨hprovider, .inl href⟩)
      have hnamed := (rowOf_named hrow).2
      unfold parts at hnamed
      rw [href, Option.getD_some] at hnamed
      exact mem_split_self.mp hnamed
    · have hd : d ∈ registry.devices := by
        rw [Table.mem_def, hrows]
        exact List.mem_append_right _ List.mem_cons_self
      exact first_of_rowOf hrows ((hrecord d hd).mp ((h d hd).mpr habout))
    · have hsome : (rowOf registry (provider integration accountId) observation.deviceId).isSome :=
        List.find?_isSome.mpr ⟨e, he, by simpa using hnamed⟩
      obtain ⟨d, hrow⟩ := Option.isSome_iff_exists.mp hsome
      have hd := rowOf_mem hrow
      exact hnone d hd ((h d hd).mp ((hrecord d hd).mpr hrow))
  -- a device's own row is named and comes first
  · intro h
    have hfound : ∀ d ∈ registry.devices, About integration accountId observation.deviceId d →
        rowOf registry (provider integration accountId) observation.deviceId = some d := by
      intro d hd habout
      obtain ⟨before, after, hrows⟩ := List.append_of_mem hd
      exact rowOf_of_first hrows (habout.named (h.whole d hd habout.1)) (h.first before d after hrows habout)
    intro d hd
    rw [hrecord d hd]
    refine ⟨fun hrow => ?_, hfound d hd⟩
    by_cases hnone : ∃ e ∈ registry.devices, About integration accountId observation.deviceId e
    · obtain ⟨e, he, habout⟩ := hnone
      obtain rfl := Option.some.inj (hrow.symm.trans (hfound e he habout))
      exact habout
    · exact absurd (rowOf_named hrow) (h.unknown (fun e he habout => hnone ⟨e, he, habout⟩) d hd)

/-! ### A reference with a colon -/

namespace Sample

open Zhoubian

/-- An account whose platform calls one lamp `a:b` and another one `a`. -/
def lamps : Import.Registry :=
  let importer := { Import.Sample.importer with provider := "zhoubian:acc" }
  (importer.sync Import.Sample.empty
    (discover Zhoubian.Sample.ascii [{ id := ⟨"a:b", none⟩ }, { id := ⟨"a", none⟩ }]).1).registry

end Sample

/-- What the platform says of the lamp `a:b` is recorded nowhere. -/
theorem observation_astray : ¬∀ (letters : Zhoubian.Letters) (registry : Import.Registry) (accountId : AccountId)
    (id : Zhoubian.PlatformId) (reachable : Bool) (nowMs : Millis),
    Attributed registry .zhoubian accountId none ⟨Zhoubian.externalRef letters id, reachable, none, nowMs⟩ := by
  intro h
  have hlost : record Sample.lamps "zhoubian:acc" none ⟨"a:b", true, none, 0⟩ = none := by decide +kernel
  have hlamp : ∃ d ∈ Sample.lamps.devices.rows, d.provider = "zhoubian:acc" ∧ d.providerRef = some "a:b" := by
    decide +kernel
  obtain ⟨d, hd, hprovider, href⟩ := hlamp
  have hrecorded := (h Zhoubian.Sample.ascii Sample.lamps "acc" ⟨"a:b", none⟩ true 0 d hd).mpr
    ⟨hprovider, .inl (by rw [href]; decide +kernel)⟩
  have hprovider : provider .zhoubian "acc" = "zhoubian:acc" := by decide
  have hthe : Zhoubian.externalRef Zhoubian.Sample.ascii ⟨"a:b", none⟩ = "a:b" := by decide +kernel
  rw [hprovider, hthe, hlost] at hrecorded
  exact nomatch hrecorded

end EidolonHub.SmartHome.Attribution
