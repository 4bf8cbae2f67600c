import EidolonHub.SmartHome.ImportFrame

/-!
# EidolonHub.SmartHome.ImportNames

**Names of an area.** `_unique_name` finds a name that is free in the area a device was found
in. That is the area it goes to, unless the owner has put it somewhere else, and the name it
gets, unless the owner has given it one.

Where the owner has fixed one of the two and not the other, the name was never compared with
those of the area the device ends up in (`names_clash`). Otherwise every write keeps the names
of an area apart (`names_distinct`).
-/

namespace EidolonHub.SmartHome.Import

open EidolonHub.Library

/-- No two devices of one area have the same name. -/
def Distinct (registry : Registry) : Prop :=
  ∀ d ∈ registry.devices, ∀ e ∈ registry.devices,
    d.areaId = e.areaId → d.name = e.name → d.deviceId = e.deviceId

instance (registry : Registry) : Decidable (Distinct registry) :=
  inferInstanceAs (Decidable (∀ d ∈ registry.devices.rows, ∀ e ∈ registry.devices.rows,
    d.areaId = e.areaId → d.name = e.name → d.deviceId = e.deviceId))

section Taken

variable {registry registry' : Registry} {areaId : Option AreaId} {name n : String} {d device : Device}
  {exceptId : Option DeviceId}

theorem mem_taken : n ∈ taken registry areaId exceptId ↔
    ∃ d ∈ registry.devices, d.areaId = areaId ∧ some d.deviceId ≠ exceptId ∧ d.name = n := by
  unfold taken
  simp only [List.mem_map, List.mem_filter, decide_eq_true_eq, and_assoc, Table.mem_def]

theorem uniqueName_free (h : uniqueName registry areaId name exceptId = some n) :
    n ∉ taken registry areaId exceptId := by
  have hfree := List.find?_some h
  exact of_decide_eq_true hfree

/-- A device keeps its own name in its own area. -/
theorem Distinct.not_taken (h : Distinct registry) (hd : d ∈ registry.devices) :
    d.name ∉ taken registry d.areaId (some d.deviceId) := by
  rw [mem_taken]
  rintro ⟨e, he, harea, hid, hname⟩
  exact hid (congrArg some (h e he d hd harea hname))

theorem Distinct.created (h : Distinct registry) (hwrite : registry.createDevice device = some registry')
    (hname : device.name ∉ taken registry device.areaId none) : Distinct registry' := by
  have hmem : ∀ e, e ∈ registry'.devices ↔ e ∈ registry.devices ∨ e = device := fun e => by
    rw [Table.mem_def, (Registry.createDevice_spec hwrite).2.1]
    simp [Table.mem_def]
  have hnew : ∀ e ∈ registry.devices, e.areaId = device.areaId → e.name ≠ device.name :=
    fun e he harea heq => hname (mem_taken.mpr ⟨e, he, harea, by simp, heq⟩)
  intro d hd e he harea heq
  rcases (hmem d).mp hd with hd | rfl
  · rcases (hmem e).mp he with he | rfl
    · exact h d hd e he harea heq
    · exact absurd heq (hnew d hd harea)
  · rcases (hmem e).mp he with he | rfl
    · exact absurd heq.symm (hnew e he harea.symm)
    · rfl

theorem mem_updateDevice (hwrite : registry.updateDevice device = some registry') :
    d ∈ registry'.devices ↔ d = device ∨ d ∈ registry.devices ∧ d.deviceId ≠ device.deviceId := by
  have hget := Registry.device_updateDevice hwrite d.deviceId
  constructor
  · intro hd
    rw [Registry.device_of_mem hd] at hget
    by_cases hid : d.deviceId = device.deviceId
    · rw [if_pos hid] at hget
      exact .inl (Option.some.inj hget)
    · rw [if_neg hid] at hget
      exact .inr ⟨Registry.device_mem hget.symm, hid⟩
  · rintro (rfl | ⟨hd, hid⟩)
    · rw [if_pos rfl] at hget
      exact Registry.device_mem hget
    · rw [if_neg hid, Registry.device_of_mem hd] at hget
      exact Registry.device_mem hget

/-- What is written for a device leaves the names distinct, exactly if its name is free in its
area. -/
theorem Distinct.updated_iff (h : Distinct registry) (hwrite : registry.updateDevice device = some registry') :
    Distinct registry' ↔ device.name ∉ taken registry device.areaId (some device.deviceId) := by
  have hmem : ∀ e, e ∈ registry'.devices ↔ e = device ∨ e ∈ registry.devices ∧ e.deviceId ≠ device.deviceId :=
    fun e => mem_updateDevice hwrite
  constructor
  · intro hdistinct hname
    obtain ⟨e, he, harea, hid, heq⟩ := mem_taken.mp hname
    have hne : e.deviceId ≠ device.deviceId := fun h => hid (congrArg some h)
    exact hne (hdistinct e ((hmem e).mpr (.inr ⟨he, hne⟩)) device ((hmem device).mpr (.inl rfl)) harea heq)
  · intro hname d hd e he harea heq
    have hothers : ∀ e ∈ registry.devices, e.deviceId ≠ device.deviceId → e.areaId = device.areaId →
        e.name ≠ device.name := fun e he hid harea heq =>
      hname (mem_taken.mpr ⟨e, he, harea, fun h => hid (Option.some.inj h), heq⟩)
    rcases (hmem d).mp hd with rfl | ⟨hd, hdid⟩
    · rcases (hmem e).mp he with rfl | ⟨he, heid⟩
      · rfl
      · exact absurd heq.symm (hothers e he heid harea.symm)
    · rcases (hmem e).mp he with rfl | ⟨he, heid⟩
      · exact absurd heq (hothers d hd hdid harea)
      · exact h d hd e he harea heq

end Taken

/-! ### A turn -/

/-- A name that the owner fixed is free where the device was found; a name that is free there is
free where the owner put the device. -/
def FitsIn (registry : Registry) (areaId : Option AreaId) (found : DiscoveredDevice) (current : Device) :
    Prop :=
  (.name ∈ current.overrides → .areaId ∉ current.overrides →
    current.name ∉ taken registry areaId (some current.deviceId)) ∧
  (.areaId ∈ current.overrides → .name ∉ current.overrides →
    ∀ name, uniqueName registry areaId (clipName found.name) (some current.deviceId) = some name →
      name ∉ taken registry current.areaId (some current.deviceId))

/-- A device that the import comes across for the first time fits. Behind a failure it comes across
nothing. -/
def Importer.Fits (importer : Importer) (pass : Pass) (found : DiscoveredDevice) : Prop :=
  pass.failure = none → found.externalRef ∉ pass.seenRefs →
    ∀ current, pass.registry.imported importer.provider found.externalRef = some current →
      FitsIn pass.registry (importer.areaOf pass found).2 found current

instance (registry : Registry) (areaId : Option AreaId) (found : DiscoveredDevice) (current : Device) :
    Decidable (FitsIn registry areaId found current) :=
  inferInstanceAs (Decidable ((.name ∈ current.overrides → .areaId ∉ current.overrides →
    current.name ∉ taken registry areaId (some current.deviceId)) ∧
    (.areaId ∈ current.overrides → .name ∉ current.overrides →
      ∀ name ∈ uniqueName registry areaId (clipName found.name) (some current.deviceId),
        name ∉ taken registry current.areaId (some current.deviceId))))

instance (importer : Importer) (pass : Pass) (found : DiscoveredDevice) : Decidable (importer.Fits pass found) :=
  inferInstanceAs (Decidable (pass.failure = none → found.externalRef ∉ pass.seenRefs →
    ∀ current ∈ pass.registry.imported importer.provider found.externalRef,
      FitsIn pass.registry (importer.areaOf pass found).2 found current))

theorem proposed_free_iff (importer : Importer) {registry : Registry} {areaId : Option AreaId}
    {found : DiscoveredDevice} {current : Device} {name : String} (h : Distinct registry)
    (hcurrent : current ∈ registry.devices) (hname : nameFor registry found areaId current = some name) :
    (importer.proposed found areaId current name).name ∉
        taken registry (importer.proposed found areaId current name).areaId (some current.deviceId) ↔
      FitsIn registry areaId found current := by
  unfold nameFor at hname
  unfold FitsIn
  by_cases hn : .name ∈ current.overrides
  · by_cases ha : .areaId ∈ current.overrides
    · simp [Importer.proposed, hn, ha, h.not_taken hcurrent]
    · simp [Importer.proposed, hn, ha]
  · rw [if_neg hn] at hname
    by_cases ha : .areaId ∈ current.overrides
    · simp [Importer.proposed, hn, ha, hname]
    · simp [Importer.proposed, hn, ha, uniqueName_free hname]

section Turn

variable {importer : Importer} {pass pass' : Pass} {found : DiscoveredDevice} {areaId : Option AreaId}

/-- The names are distinct, and were after every write. -/
def Pass.Named (pass : Pass) : Prop := Distinct pass.registry ∧ ∀ r ∈ pass.written, Distinct r

theorem Pass.Named.write (h : pass.Named) {registry : Option Registry} {report : SyncReport}
    (hwrite : ∀ r, registry = some r → Distinct r) : (pass.write importer registry report).Named := by
  unfold Pass.write
  split
  · exact h
  · next registry' haccepted =>
    have hnamed := hwrite registry' (Option.filter_eq_some_iff.mp haccepted).1
    refine ⟨hnamed, fun r hr => ?_⟩
    rcases List.mem_append.mp hr with hr | hr
    · exact h.2 r hr
    · rwa [List.mem_singleton.mp hr]

theorem Pass.Named.ensureArea {pass : Pass} (h : pass.Named) (areaName : Option String) :
    (pass.ensureArea importer areaName).1.Named := by
  unfold Pass.ensureArea
  split
  · exact h
  · dsimp only
    split
    · exact h
    · split
      · exact h
      · refine h.write fun r hr => ?_
        unfold Distinct
        rw [(Registry.createArea_spec hr).1]
        exact h.1

theorem Pass.Named.importDevice (h : pass.Named)
    (hfits : ∀ current, pass.registry.imported importer.provider found.externalRef = some current →
      FitsIn pass.registry areaId found current) : (importer.importDevice found areaId pass).Named := by
  unfold Importer.importDevice
  split
  · split
    · exact h
    · split
      · exact h
      · next name hname => exact h.write fun r hr => h.1.created hr (uniqueName_free hname)
  · next current hcurrent =>
    split
    · exact h
    · next name hname =>
      dsimp only
      split
      · exact h
      · refine h.write fun r hr => (h.1.updated_iff hr).mpr ?_
        exact (proposed_free_iff importer h.1 (Registry.imported_spec hcurrent).1 hname).mpr (hfits current hcurrent)

theorem areaOf_devices (importer : Importer) (pass : Pass) (found : DiscoveredDevice) :
    (importer.areaOf pass found).1.registry.devices = pass.registry.devices := by
  unfold Importer.areaOf Pass.ensureArea
  split
  · rfl
  · dsimp only
    split
    · rfl
    · split
      · rfl
      · unfold Pass.write
        split
        · rfl
        · next registry' haccepted =>
          exact (Registry.createArea_spec (Option.filter_eq_some_iff.mp haccepted).1).1

/-- Which devices there are is all that counts. -/
theorem fitsIn_congr {registry registry' : Registry} (h : registry'.devices = registry.devices)
    {current : Device} : FitsIn registry' areaId found current ↔ FitsIn registry areaId found current := by
  unfold FitsIn uniqueName taken
  rw [h]

theorem imported_congr {registry registry' : Registry} (h : registry'.devices = registry.devices)
    (provider externalRef : String) :
    registry'.imported provider externalRef = registry.imported provider externalRef := by
  unfold Registry.imported
  rw [h]

theorem Pass.Named.importOne (h : pass.Named) (hfits : importer.Fits pass found) :
    (importer.importOne pass found).Named := by
  unfold Importer.importOne
  split
  · exact h
  · next hgoes =>
    split
    · exact h
    · next hnew =>
      unfold Importer.importNew
      have harea : (importer.areaOf pass found).1.Named :=
        have hsee : (pass.see found.externalRef).Named := h
        hsee.ensureArea found.areaName
      dsimp only
      split
      · exact harea
      · refine harea.importDevice fun current hcurrent => ?_
        have hdevices := areaOf_devices importer pass found
        rw [fitsIn_congr hdevices]
        exact hfits (by simpa using hgoes) hnew current ((imported_congr hdevices _ _).symm.trans hcurrent)

end Turn

/-! ### The second loop -/

/-- Every device is where it was, under the name it had. -/
def Placed (before registry : Registry) : Prop :=
  ∀ e ∈ registry.devices, ∃ d ∈ before.devices,
    d.deviceId = e.deviceId ∧ d.areaId = e.areaId ∧ d.name = e.name

theorem Placed.distinct {before registry : Registry} (h : Placed before registry) (hbefore : Distinct before) :
    Distinct registry := by
  intro d hd e he harea hname
  obtain ⟨d', hd', hdid, hdarea, hdname⟩ := h d hd
  obtain ⟨e', he', heid, hearea, hename⟩ := h e he
  rw [← hdid, ← heid]
  exact hbefore d' hd' e' he' (hdarea.trans (harea.trans hearea.symm)) (hdname.trans (hname.trans hename.symm))

theorem Placed.orphanOne (importer : Importer) {before : Registry} {pass : Pass} {d : Device}
    (h : Placed before pass.registry) (hd : d ∈ before.devices) (hnamed : pass.Named)
    (hbefore : Distinct before) :
    Placed before (importer.orphanOne pass d).registry ∧ (importer.orphanOne pass d).Named := by
  have hwritten : ∀ r, pass.registry.updateDevice
      { d with orphaned := true, syncedAtMs := some importer.nowMs } = some r → Placed before r := by
    intro r hr e he
    rcases (mem_updateDevice hr).mp he with rfl | ⟨he, -⟩
    · exact ⟨d, hd, rfl, rfl, rfl⟩
    · exact h e he
  unfold Importer.orphanOne
  split
  · exact ⟨h, hnamed⟩
  · split
    · refine ⟨?_, hnamed.write fun r hr => (hwritten r hr).distinct hbefore⟩
      unfold Pass.write
      split
      · exact h
      · next registry' haccepted => exact hwritten registry' (Option.filter_eq_some_iff.mp haccepted).1
    · exact ⟨h, hnamed⟩

theorem Pass.Named.orphanMissing {importer : Importer} {mid : Pass} (h : mid.Named) :
    (importer.orphanMissing mid).Named := by
  have hrun : ∀ (devices : List Device) (pass : Pass), (∀ d ∈ devices, d ∈ mid.registry.devices) →
      Placed mid.registry pass.registry → pass.Named → (run importer.orphanOne pass devices).Named := by
    intro devices
    induction devices with
    | nil => exact fun pass _ _ hnamed => hnamed
    | cons d devices ih =>
      intro pass hdevices hplaced hnamed
      rw [List.forall_mem_cons] at hdevices
      obtain ⟨hplaced', hnamed'⟩ := hplaced.orphanOne importer hdevices.1 hnamed h.1
      exact ih _ hdevices.2 hplaced' hnamed'
  exact hrun _ mid (fun _ hd => hd) (fun d hd => ⟨d, hd, rfl, rfl, rfl⟩) h

/-! ### The whole import -/

section Whole

variable {importer : Importer} {pass pass' : Pass} {found : DiscoveredDevice} {areaId : Option AreaId}

/-- What was written stays on record, and the registry is the last of it. -/
def Follows (pass pass' : Pass) : Prop :=
  pass.written <+: pass'.written ∧ (pass'.registry = pass.registry ∨ pass'.registry ∈ pass'.written)

theorem Follows.refl (pass : Pass) : Follows pass pass := ⟨List.prefix_refl _, .inl rfl⟩

theorem Follows.trans {pass'' : Pass} (h : Follows pass pass') (h' : Follows pass' pass'') :
    Follows pass pass'' := by
  refine ⟨h.1.trans h'.1, ?_⟩
  rcases h'.2 with heq | hmem
  · rw [heq]
    exact h.2.imp_right fun hmem => h'.1.subset hmem
  · exact .inr hmem

theorem Pass.write_follows (registry : Option Registry) (report : SyncReport) :
    Follows pass (pass.write importer registry report) := by
  unfold Pass.write
  split
  · exact .refl pass
  · exact ⟨List.prefix_append _ _, .inr (List.mem_append_right _ (List.mem_singleton_self _))⟩

theorem ensureArea_follows (importer : Importer) (pass : Pass) (areaName : Option String) :
    Follows pass (pass.ensureArea importer areaName).1 := by
  unfold Pass.ensureArea
  split
  · exact .refl pass
  · dsimp only
    split
    · exact .refl pass
    · split
      · exact .refl pass
      · exact Pass.write_follows _ _

theorem importDevice_follows : Follows pass (importer.importDevice found areaId pass) := by
  unfold Importer.importDevice
  split
  · split
    · exact .refl pass
    · split
      · exact .refl pass
      · exact Pass.write_follows _ _
  · split
    · exact .refl pass
    · dsimp only
      split
      · exact .refl pass
      · exact Pass.write_follows _ _

theorem importOne_follows (importer : Importer) (pass : Pass) (found : DiscoveredDevice) :
    Follows pass (importer.importOne pass found) := by
  unfold Importer.importOne
  split
  · exact .refl pass
  · split
    · exact .refl pass
    · have harea : Follows pass ((pass.see found.externalRef).ensureArea importer found.areaName).1 :=
        ensureArea_follows importer (pass.see found.externalRef) found.areaName
      unfold Importer.importNew
      dsimp only
      split
      · exact harea
      · exact harea.trans importDevice_follows

theorem orphanOne_follows (importer : Importer) (pass : Pass) (d : Device) :
    Follows pass (importer.orphanOne pass d) := by
  unfold Importer.orphanOne
  split
  · exact .refl pass
  · split
    · exact Pass.write_follows _ _
    · exact .refl pass

theorem run_follows {α : Type} {next : Pass → α → Pass} (hnext : ∀ pass a, Follows pass (next pass a))
    (as : List α) (pass : Pass) : Follows pass (run next pass as) := by
  induction as generalizing pass with
  | nil => exact .refl pass
  | cons a as ih => exact (hnext pass a).trans (ih (next pass a))

/-- A device that was imported and left the names distinct fitted. -/
theorem Turn.fitsIn (h : Turn importer found areaId pass pass') (hbefore : Distinct pass.registry)
    (hafter : Distinct pass'.registry) {current : Device}
    (hcurrent : pass.registry.imported importer.provider found.externalRef = some current) :
    FitsIn pass.registry areaId found current := by
  have hmem := (Registry.imported_spec hcurrent).1
  cases h with
  | full hmissing => exact nomatch hmissing.symm.trans hcurrent
  | added hmissing => exact nomatch hmissing.symm.trans hcurrent
  | same hcurrent' hname hfacts =>
    obtain rfl := Option.some.inj (hcurrent'.symm.trans hcurrent)
    refine (proposed_free_iff importer hbefore hmem hname).mp ?_
    have hsame := congrArg (fun d : Device => (d.name, d.areaId)) hfacts
    simp only [Device.facts, Prod.mk.injEq] at hsame
    rw [hsame.1, hsame.2]
    exact hbefore.not_taken hmem
  | updated hcurrent' hname hfacts hwrite =>
    obtain rfl := Option.some.inj (hcurrent'.symm.trans hcurrent)
    exact (proposed_free_iff importer hbefore hmem hname).mp ((hbefore.updated_iff hwrite).mp hafter)

/-- A run of turns that returns and leaves the names distinct after every write fitted. -/
theorem fits_of_named (discovered : List DiscoveredDevice) (pass : Pass) (hbefore : Distinct pass.registry)
    (hreturns : (run importer.importOne pass discovered).failure = none)
    (hnamed : ∀ r ∈ (run importer.importOne pass discovered).written, Distinct r) :
    Along importer.importOne importer.Fits pass discovered := by
  induction discovered generalizing pass with
  | nil => trivial
  | cons found discovered ih =>
    have hnext : (importer.importOne pass found).failure = none := by
      by_contra hfailed
      rw [run_cons, Importer.run_importOne_failed hfailed] at hreturns
      exact hfailed hreturns
    have hrest := run_follows (importOne_follows importer) discovered (importer.importOne pass found)
    have hafter : Distinct (importer.importOne pass found).registry := by
      rcases (importOne_follows importer pass found).2 with heq | hmem
      · rwa [heq]
      · exact hnamed _ (hrest.1.subset hmem)
    refine ⟨fun _ hnew current hcurrent => ?_, ih _ hafter hreturns hnamed⟩
    have hdevices := areaOf_devices importer pass found
    rcases (Importer.importOne_turn hnext).2 with ⟨hseen, -⟩ | ⟨-, -, hturn⟩
    · exact absurd hseen hnew
    · rw [← fitsIn_congr hdevices]
      refine hturn.fitsIn ?_ hafter ((imported_congr hdevices _ _).trans hcurrent)
      unfold Distinct
      rw [hdevices]
      exact hbefore

end Whole

/-- **An import keeps the names of an area apart** after every write, as long as what the owner
has fixed of a device fits it; and an import that returns does so in no other case. -/
theorem names_distinct (importer : Importer) (before : Registry) (discovered : List DiscoveredDevice)
    (h : Distinct before) :
    (Along importer.importOne importer.Fits { registry := before } discovered →
      ∀ r ∈ (importer.sync before discovered).written, Distinct r) ∧
    ((importer.sync before discovered).failure = none →
      (∀ r ∈ (importer.sync before discovered).written, Distinct r) →
        Along importer.importOne importer.Fits { registry := before } discovered) := by
  constructor
  · intro hfits
    have hnamed : (importer.importAll before discovered).Named :=
      run_inv_along (fun _ _ hnamed hfits => hnamed.importOne hfits) ⟨h, by simp⟩ hfits
    exact hnamed.orphanMissing.2
  · intro hreturns hnamed
    have hmid := (Importer.orphanMissing_orphans (fun _ hd => hd) hreturns).1
    have hfollows := run_follows (orphanOne_follows importer)
      (importer.importAll before discovered).registry.devices.rows (importer.importAll before discovered)
    exact fits_of_named discovered _ h hmid fun r hr => hnamed r (hfollows.1.subset hr)

/-! ### A name that the owner gave -/

namespace Sample

/-- Two lamps, in two rooms; the owner has called the second one like the first. -/
def lamps : Registry :=
  let pass := importer.sync empty [found "a" "Lamp" (some "Hall"), found "b" "Light" (some "Attic")]
  let registry := pass.registry
  match (registry.device "homeassistant:acc.b").bind fun d =>
      registry.updateDevice { d with name := "Lamp", overrides := [.name] } with
  | some registry => registry
  | none => registry

/-- The second one is carried to the room of the first. -/
def moved : List DiscoveredDevice := [found "a" "Lamp" (some "Hall"), found "b" "Light" (some "Hall")]

/-- It is carried to a room of its own. -/
def aside : List DiscoveredDevice := [found "a" "Lamp" (some "Hall"), found "b" "Light" (some "Porch")]

end Sample

theorem names_clash : Distinct Sample.lamps ∧
    ∃ r ∈ (Sample.importer.sync Sample.lamps Sample.moved).written, ¬Distinct r := by
  decide +kernel

/-- The second lamp keeps the name that its owner gave it, and goes where no other has that name. -/
theorem names_distinct_lamps :
    (Sample.importer.sync Sample.lamps Sample.aside).written ≠ [] ∧
      (∀ r ∈ (Sample.importer.sync Sample.lamps Sample.aside).written, Distinct r) ∧
      Along Sample.importer.importOne Sample.importer.Fits { registry := Sample.lamps } Sample.aside := by
  have hbefore : Distinct Sample.lamps := by decide +kernel
  have hfits : Along Sample.importer.importOne Sample.importer.Fits { registry := Sample.lamps } Sample.aside := by
    decide +kernel
  obtain ⟨hsufficient, hnecessary⟩ := names_distinct Sample.importer Sample.lamps Sample.aside hbefore
  exact ⟨by decide +kernel, hsufficient hfits, hnecessary (by decide +kernel) (hsufficient hfits)⟩

end EidolonHub.SmartHome.Import
