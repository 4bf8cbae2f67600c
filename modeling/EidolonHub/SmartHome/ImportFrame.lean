import EidolonHub.SmartHome.Importer

/-!
# EidolonHub.SmartHome.ImportFrame

**An import changes what it is about and nothing else.** The first loop writes to the devices
whose reference it comes across, each of them once; the second one marks the other devices of
the account. So a device at the end is told from what it was at the beginning by the list, and
the report names exactly those that differ (`import_respects`).
-/

namespace EidolonHub.SmartHome.Import

open EidolonHub.Library

/-- The value of a field that the owner can edit. -/
def Device.owned (device : Device) : OwnerField → String × List String × Option AreaId
  | .name => (device.name, [], none)
  | .aliases => ("", device.aliases, none)
  | .areaId => ("", [], device.areaId)

/-- A device that an import may have written to keeps what it is known by, and what is the
owner's. -/
structure Device.Kept (before after : Device) : Prop where
  deviceId : after.deviceId = before.deviceId
  provider : after.provider = before.provider
  providerRef : after.providerRef = before.providerRef
  aliases : after.aliases = before.aliases
  overrides : after.overrides = before.overrides
  owned : ∀ field ∈ before.overrides, after.owned field = before.owned field

/-- A device shows what was discovered. -/
structure Device.Shows (device : Device) (provider : String) (found : DiscoveredDevice) : Prop where
  provider : device.provider = provider
  providerRef : device.providerRef = some found.externalRef
  present : device.orphaned = false
  type : device.type = found.suggestedType
  traits : device.traits = found.traits
  limits : device.limits = found.limits

/-- The first entry with a reference. -/
def firstOf (discovered : List DiscoveredDevice) (ref : String) : Option DiscoveredDevice :=
  discovered.find? (·.externalRef = ref)

/-- **What an import may have done** to a registry, for a list of one account, and what its
report says of it. -/
structure Respects (provider : String) (discovered : List DiscoveredDevice) (before after : Registry)
    (report : SyncReport) : Prop where
  /-- No device is deleted, and what the owner fixed stays. -/
  kept : ∀ d ∈ before.devices, ∃ d' ∈ after.devices, d.Kept d'
  others : ∀ d : Device, d.provider ≠ provider → (d ∈ after.devices ↔ d ∈ before.devices)
  areas : ∀ a ∈ before.areas, a ∈ after.areas
  listed : ∀ ref found, firstOf discovered ref = some found →
    (∃ d ∈ after.devices, d.Shows provider found) ∨ ⟨ref, .limitExceeded⟩ ∈ report.skipped
  missing : ∀ d' ∈ after.devices, d'.provider = provider →
    (∀ found ∈ discovered, d'.providerRef ≠ some found.externalRef) →
      d'.orphaned = true ∧ ∃ d ∈ before.devices, d.Kept d' ∧ d'.name = d.name ∧ d'.areaId = d.areaId
  added : ∀ id, id ∈ report.added ↔ before.device id = none ∧ (after.device id).isSome
  updated : ∀ id, id ∈ report.updated ↔ ∃ d d', before.device id = some d ∧ after.device id = some d' ∧
    d'.facts ≠ d.facts ∧ d'.orphaned = false
  orphaned : ∀ id, id ∈ report.orphaned ↔ ∃ d d', before.device id = some d ∧
    after.device id = some d' ∧ d.orphaned = false ∧ d'.orphaned = true
  revision : report.revision = after.revision

/-! ### The first loop -/

/-- A turn that writes to no device. -/
structure AreasOnly (pass pass' : Pass) : Prop where
  devices : pass'.registry.devices = pass.registry.devices
  areas : pass.registry.areas.rows <+: pass'.registry.areas.rows
  seenRefs : pass'.seenRefs = pass.seenRefs
  report : ∃ more, pass'.report = { pass.report with skipped := pass.report.skipped ++ more }

theorem AreasOnly.refl (pass : Pass) : AreasOnly pass pass :=
  ⟨rfl, List.prefix_refl _, rfl, [], by rw [List.append_nil]⟩

theorem Pass.skip_areasOnly (pass : Pass) (ref : String) (reason : SkipReason) :
    AreasOnly pass (pass.skip ref reason) :=
  ⟨rfl, List.prefix_refl _, rfl, _, rfl⟩

theorem AreaTurn.areasOnly {importer : Importer} {pass pass' : Pass} {areaName : Option String}
    {areaId : Option AreaId} (h : AreaTurn importer pass areaName pass' areaId) : AreasOnly pass pass' := by
  cases h with
  | nowhere => exact .refl pass
  | existing => exact .refl pass
  | full => exact pass.skip_areasOnly _ _
  | created hname hmissing hroom harea hwrite =>
    obtain ⟨hdevices, hareas, -⟩ := Registry.createArea_spec hwrite
    exact ⟨hdevices, ⟨_, hareas.symm⟩, rfl, [], by rw [List.append_nil]⟩

theorem Device.Kept.refl (d : Device) : d.Kept d := ⟨rfl, rfl, rfl, rfl, rfl, fun _ _ => rfl⟩

/-- A proposal leaves alone what is the owner's. -/
theorem Importer.proposed_kept (importer : Importer) (found : DiscoveredDevice) (areaId : Option AreaId)
    (current : Device) (name : String) : current.Kept (importer.proposed found areaId current name) := by
  refine ⟨rfl, rfl, rfl, rfl, rfl, fun field hfield => ?_⟩
  cases field with
  | name => simp [Device.owned, proposed, hfield]
  | aliases => rfl
  | areaId => simp [Device.owned, proposed, hfield]

theorem Importer.proposed_shows {importer : Importer} {found : DiscoveredDevice} {areaId : Option AreaId}
    {current : Device} {name : String} (hprovider : current.provider = importer.provider)
    (href : current.providerRef = some found.externalRef) :
    (importer.proposed found areaId current name).Shows importer.provider found :=
  ⟨hprovider, href, rfl, rfl, rfl, rfl⟩

/-- Whoever has the facts of a device that shows something shows it. -/
theorem Device.Shows.of_facts {d d' : Device} {provider : String} {found : DiscoveredDevice}
    (h : d.Shows provider found) (hfacts : d.facts = d'.facts) : d'.Shows provider found := by
  simp only [Device.facts, Device.mk.injEq] at hfacts
  obtain ⟨-, -, -, htype, -, hprovider, href, htraits, hlimits, -, -, horphaned, -⟩ := hfacts
  exact ⟨hprovider ▸ h.provider, href ▸ h.providerRef, horphaned ▸ h.present, htype ▸ h.type,
    htraits ▸ h.traits, hlimits ▸ h.limits⟩

/-- What a device has become: it is as it was, or it was come across and written to. -/
def Touched (importer : Importer) (seenRefs : List String) (d d' : Device) : Prop :=
  d' = d ∨ d.provider = importer.provider ∧ (∃ ref ∈ seenRefs, d.providerRef = some ref) ∧
    d'.orphaned = false ∧ d.Kept d'

/-- How far the first loop has got. -/
structure Imports (importer : Importer) (before : Registry) (done : List DiscoveredDevice)
    (pass : Pass) : Prop where
  seen : ∀ ref, ref ∈ pass.seenRefs ↔ ∃ found ∈ done, found.externalRef = ref
  areas : ∀ a ∈ before.areas, a ∈ pass.registry.areas
  kept : ∀ id d, before.device id = some d →
    ∃ d', pass.registry.device id = some d' ∧ Touched importer pass.seenRefs d d'
  created : ∀ id d', before.device id = none → pass.registry.device id = some d' →
    d'.provider = importer.provider ∧ d'.orphaned = false ∧ ∃ ref ∈ pass.seenRefs, d'.providerRef = some ref
  listed : ∀ ref found, firstOf done ref = some found →
    (∃ id d, pass.registry.device id = some d ∧ d.Shows importer.provider found) ∨
      ⟨ref, .limitExceeded⟩ ∈ pass.report.skipped
  added : ∀ id, id ∈ pass.report.added ↔ before.device id = none ∧ (pass.registry.device id).isSome
  updated : ∀ id, id ∈ pass.report.updated ↔ ∃ d d', before.device id = some d ∧
    pass.registry.device id = some d' ∧ d'.facts ≠ d.facts
  orphaned : pass.report.orphaned = []

namespace Imports

variable {importer : Importer} {before : Registry} {done : List DiscoveredDevice} {pass pass' : Pass}
  {found : DiscoveredDevice} {areaId : Option AreaId}

/-- Of a turn that writes to no device the loop remembers the list. -/
theorem areasOnly (h : Imports importer before done pass) (hturn : AreasOnly pass pass') :
    Imports importer before done pass' := by
  obtain ⟨more, hreport⟩ := hturn.report
  have hdevice : ∀ id, pass'.registry.device id = pass.registry.device id := fun id => by
    unfold Registry.device
    rw [hturn.devices]
  refine ⟨?_, ?_, ?_, ?_, ?_, ?_, ?_, ?_⟩
  · rw [hturn.seenRefs]
    exact h.seen
  · exact fun a ha => hturn.areas.subset (h.areas a ha)
  · simp only [hdevice, hturn.seenRefs]
    exact h.kept
  · simp only [hdevice, hturn.seenRefs]
    exact h.created
  · intro ref f hf
    simp only [hdevice, hreport]
    exact (h.listed ref f hf).imp_right fun hskipped => List.mem_append_left more hskipped
  · simp only [hdevice, hreport]
    exact h.added
  · simp only [hdevice, hreport]
    exact h.updated
  · rw [hreport]
    exact h.orphaned

theorem firstOf_concat_of_mem {ref : String} (h : ∃ f ∈ done, f.externalRef = found.externalRef) :
    firstOf (done ++ [found]) ref = firstOf done ref := by
  unfold firstOf
  rw [List.find?_append]
  by_cases href : found.externalRef = ref
  · obtain ⟨f, hf, hfref⟩ := h
    have hsome : (done.find? (·.externalRef = ref)).isSome = true :=
      List.find?_isSome.mpr ⟨f, hf, decide_eq_true (hfref.trans href)⟩
    rw [Option.or_of_isSome hsome]
  · simp [href]

/-- A repetition. -/
theorem skipped (h : Imports importer before done pass) (hseen : found.externalRef ∈ pass.seenRefs) :
    Imports importer before (done ++ [found]) (pass.skip found.externalRef .duplicateRef) := by
  have hskip := h.areasOnly (pass.skip_areasOnly found.externalRef .duplicateRef)
  have hmem := (h.seen found.externalRef).mp hseen
  refine ⟨fun ref => ?_, hskip.areas, hskip.kept, hskip.created, fun ref f hf => ?_, hskip.added,
    hskip.updated, hskip.orphaned⟩
  · rw [hskip.seen]
    constructor
    · rintro ⟨f, hf, rfl⟩
      exact ⟨f, List.mem_append_left _ hf, rfl⟩
    · rintro ⟨f, hf, rfl⟩
      rcases List.mem_append.mp hf with hf | hf
      · exact ⟨f, hf, rfl⟩
      · rw [List.mem_singleton.mp hf]
        exact hmem
  · rw [firstOf_concat_of_mem hmem] at hf
    exact hskip.listed ref f hf

theorem firstOf_concat {ref : String} {f : DiscoveredDevice}
    (h : firstOf (done ++ [found]) ref = some f) :
    firstOf done ref = some f ∨ f = found ∧ found.externalRef = ref := by
  unfold firstOf at h ⊢
  rw [List.find?_append, Option.or_eq_some_iff] at h
  rcases h with h | ⟨-, h⟩
  · exact .inl h
  · have hf := List.mem_singleton.mp (List.mem_of_find?_eq_some h)
    have href := List.find?_some h
    subst hf
    exact .inr ⟨rfl, of_decide_eq_true href⟩

theorem firstOf_ref {ref : String} {f : DiscoveredDevice} (h : firstOf done ref = some f) :
    f ∈ done ∧ f.externalRef = ref := by
  have href := List.find?_some h
  exact ⟨List.mem_of_find?_eq_some h, of_decide_eq_true href⟩

theorem touched_mono {d d' : Device} {seenRefs seenRefs' : List String}
    (h : Touched importer seenRefs d d') (hsubset : ∀ ref ∈ seenRefs, ref ∈ seenRefs') :
    Touched importer seenRefs' d d' := by
  refine h.imp_right fun ⟨hprovider, ⟨ref, href, hdref⟩, horphaned, hkept⟩ => ?_
  exact ⟨hprovider, ⟨ref, hsubset ref href, hdref⟩, horphaned, hkept⟩

/-- A reference that was not come across before, and what a turn makes of it. -/
structure NewRef (pass : Pass) (found : DiscoveredDevice) (pass' : Pass) : Prop where
  unseen : found.externalRef ∉ pass.seenRefs
  seenRefs : pass'.seenRefs = pass.seenRefs ++ [found.externalRef]
  areas : pass.registry.areas.rows <+: pass'.registry.areas.rows
  orphaned : pass'.report.orphaned = pass.report.orphaned
  skipped : ∀ s ∈ pass.report.skipped, s ∈ pass'.report.skipped

/-- What the loop knows of all references follows from what it knows of the new one. -/
theorem concat (h : Imports importer before done pass) (hnew : NewRef pass found pass')
    (hkept : ∀ id d, before.device id = some d →
      ∃ d', pass'.registry.device id = some d' ∧ Touched importer pass'.seenRefs d d')
    (hcreated : ∀ id d', before.device id = none → pass'.registry.device id = some d' →
      d'.provider = importer.provider ∧ d'.orphaned = false ∧
        ∃ ref ∈ pass'.seenRefs, d'.providerRef = some ref)
    (hothers : ∀ id d, pass.registry.device id = some d → d.providerRef ≠ some found.externalRef →
      pass'.registry.device id = some d)
    (hfound : (∃ id d, pass'.registry.device id = some d ∧ d.Shows importer.provider found) ∨
      ⟨found.externalRef, .limitExceeded⟩ ∈ pass'.report.skipped)
    (hadded : ∀ id, id ∈ pass'.report.added ↔ before.device id = none ∧ (pass'.registry.device id).isSome)
    (hupdated : ∀ id, id ∈ pass'.report.updated ↔ ∃ d d', before.device id = some d ∧
      pass'.registry.device id = some d' ∧ d'.facts ≠ d.facts) :
    Imports importer before (done ++ [found]) pass' := by
  refine ⟨fun ref => ?_, fun a ha => hnew.areas.subset (h.areas a ha), hkept, hcreated,
    fun ref f hf => ?_, hadded, hupdated, hnew.orphaned.trans h.orphaned⟩
  · rw [hnew.seenRefs, List.mem_append, List.mem_singleton, h.seen]
    simp [or_and_right, exists_or, eq_comm]
  · rcases firstOf_concat hf with hf | ⟨rfl, rfl⟩
    · obtain ⟨hmem, href⟩ := firstOf_ref hf
      have hne : f.externalRef ≠ found.externalRef := fun heq =>
        hnew.unseen ((h.seen _).mpr ⟨f, hmem, heq⟩)
      rcases h.listed ref f hf with ⟨id, d, hd, hshows⟩ | hskipped
      · refine .inl ⟨id, d, hothers id d hd ?_, hshows⟩
        rw [hshows.providerRef]
        exact fun heq => hne (Option.some.inj heq)
      · exact .inr (hnew.skipped _ hskipped)
    · exact hfound

/-- A device that an import comes across under a new reference is as it was. -/
theorem before_of_unseen (h : Imports importer before done pass)
    (hunseen : found.externalRef ∉ pass.seenRefs) {d : Device} (hd : d ∈ pass.registry.devices)
    (href : d.providerRef = some found.externalRef) : before.device d.deviceId = some d := by
  have hget := Registry.device_of_mem hd
  cases hbefore : before.device d.deviceId with
  | none =>
    obtain ⟨-, -, ref, hseen, hdref⟩ := h.created d.deviceId d hbefore hget
    rw [href, Option.some.injEq] at hdref
    exact absurd (hdref ▸ hseen) hunseen
  | some d₀ =>
    obtain ⟨d', hd', htouched⟩ := h.kept d.deviceId d₀ hbefore
    rw [hget, Option.some.injEq] at hd'
    subst hd'
    rcases htouched with rfl | ⟨-, ⟨ref, hseen, hdref⟩, -, hkept⟩
    · rfl
    · rw [← hkept.providerRef, href, Option.some.injEq] at hdref
      exact absurd (hdref ▸ hseen) hunseen

/-- What is known when the area of a new reference is settled. -/
structure Entered (importer : Importer) (before : Registry) (pass : Pass) (found : DiscoveredDevice)
    (mid : Pass) : Prop where
  new : NewRef pass found mid
  device : ∀ id, mid.registry.device id = pass.registry.device id
  kept : ∀ id d, before.device id = some d →
    ∃ d', mid.registry.device id = some d' ∧ Touched importer mid.seenRefs d d'
  created : ∀ id d', before.device id = none → mid.registry.device id = some d' →
    d'.provider = importer.provider ∧ d'.orphaned = false ∧ ∃ ref ∈ mid.seenRefs, d'.providerRef = some ref
  seen : found.externalRef ∈ mid.seenRefs
  added : ∀ id, id ∈ mid.report.added ↔ before.device id = none ∧ (mid.registry.device id).isSome
  updated : ∀ id, id ∈ mid.report.updated ↔ ∃ d d', before.device id = some d ∧
    mid.registry.device id = some d' ∧ d'.facts ≠ d.facts

theorem enter (h : Imports importer before done pass) (hunseen : found.externalRef ∉ pass.seenRefs)
    {mid : Pass} (hareas : AreasOnly (pass.see found.externalRef) mid) :
    Entered importer before pass found mid := by
  obtain ⟨more, hreport⟩ := hareas.report
  have hdevice : ∀ id, mid.registry.device id = pass.registry.device id := fun id => by
    unfold Registry.device
    rw [hareas.devices]
    rfl
  have hseen : ∀ ref ∈ pass.seenRefs, ref ∈ mid.seenRefs := fun ref href => by
    rw [hareas.seenRefs]
    exact List.mem_append_left _ href
  refine ⟨⟨hunseen, hareas.seenRefs, hareas.areas, by rw [hreport]; rfl, fun s hs => ?_⟩, hdevice,
    fun id d hd => ?_, fun id d' hnone hd' => ?_, ?_, fun id => ?_, fun id => ?_⟩
  · rw [hreport]
    exact List.mem_append_left more hs
  · obtain ⟨d', hd', htouched⟩ := h.kept id d hd
    exact ⟨d', (hdevice id).trans hd', touched_mono htouched hseen⟩
  · obtain ⟨hprovider, hpresent, ref, href, hdref⟩ := h.created id d' hnone ((hdevice id).symm.trans hd')
    exact ⟨hprovider, hpresent, ref, hseen ref href, hdref⟩
  · rw [hareas.seenRefs]
    exact List.mem_append_right _ (List.mem_singleton_self _)
  · rw [hreport, hdevice]
    exact h.added id
  · rw [hreport, hdevice]
    exact h.updated id

/-- No device is written to. -/
theorem unwritten (h : Imports importer before done pass) {mid : Pass}
    (hmid : Entered importer before pass found mid) (hareas : AreasOnly mid pass')
    (hfound : (∃ id d, mid.registry.device id = some d ∧ d.Shows importer.provider found) ∨
      ⟨found.externalRef, .limitExceeded⟩ ∈ pass'.report.skipped) :
    Imports importer before (done ++ [found]) pass' := by
  obtain ⟨more, hreport⟩ := hareas.report
  have hdevice : ∀ id, pass'.registry.device id = mid.registry.device id := fun id => by
    unfold Registry.device
    rw [hareas.devices]
  refine h.concat ⟨hmid.new.unseen, ?_, ?_, ?_, fun s hs => ?_⟩ ?_ ?_ (fun id d hd _ => ?_) ?_ ?_ ?_
  · rw [hareas.seenRefs, hmid.new.seenRefs]
  · exact hmid.new.areas.trans hareas.areas
  · rw [hreport]
    exact hmid.new.orphaned
  · rw [hreport]
    exact List.mem_append_left more (hmid.new.skipped s hs)
  · simp only [hdevice, hareas.seenRefs]
    exact hmid.kept
  · simp only [hdevice, hareas.seenRefs]
    exact hmid.created
  · rw [hdevice, hmid.device, hd]
  · simpa only [hdevice] using hfound
  · simp only [hdevice, hreport]
    exact hmid.added
  · simp only [hdevice, hreport]
    exact hmid.updated

/-- A device is added that shows what was found. -/
theorem insert (h : Imports importer before done pass) {mid : Pass}
    (hmid : Entered importer before pass found mid) {device : Device} {registry : Registry}
    (hwrite : mid.registry.createDevice device = some registry)
    (hshows : device.Shows importer.provider found) {written : List Registry} :
    Imports importer before (done ++ [found]) { mid with
      registry
      report := { mid.report with added := mid.report.added ++ [device.deviceId] }
      written } := by
  have hwritten := Registry.device_createDevice hwrite
  have hfresh := Registry.createDevice_fresh hwrite
  -- whoever was there has another id
  have hother : ∀ id d, mid.registry.device id = some d → registry.device id = some d := fun id d hd => by
    rw [hwritten, if_neg, hd]
    rintro rfl
    rw [hfresh] at hd
    cases hd
  have hbefore : before.device device.deviceId = none := by
    cases hd : before.device device.deviceId with
    | none => rfl
    | some d =>
      obtain ⟨d', hd', -⟩ := hmid.kept _ d hd
      rw [hfresh] at hd'
      cases hd'
  refine h.concat ⟨hmid.new.unseen, hmid.new.seenRefs, ?_, hmid.new.orphaned, hmid.new.skipped⟩ ?_ ?_
    (fun id d hd _ => hother id d ((hmid.device id).trans hd))
    (.inl ⟨_, _, (hwritten _).trans (if_pos rfl), hshows⟩) ?_ ?_
  · rw [(Registry.createDevice_spec hwrite).1]
    exact hmid.new.areas
  · intro id d hd
    obtain ⟨d', hd', htouched⟩ := hmid.kept id d hd
    exact ⟨d', hother id d' hd', htouched⟩
  · intro id d' hnone hd'
    rw [hwritten] at hd'
    split at hd'
    · cases hd'
      exact ⟨hshows.provider, hshows.present, _, hmid.seen, hshows.providerRef⟩
    · exact hmid.created id d' hnone hd'
  · intro id
    rw [hwritten]
    simp only [List.mem_append, List.mem_singleton, hmid.added]
    by_cases hid : id = device.deviceId
    · simp [hid, hbefore]
    · simp [hid]
  · intro id
    simp only [hmid.updated id]
    constructor
    · rintro ⟨d, d', hd, hd', hfacts⟩
      exact ⟨d, d', hd, hother id d' hd', hfacts⟩
    · rintro ⟨d, d', hd, hd', hfacts⟩
      obtain ⟨d₁, hd₁, -⟩ := hmid.kept id d hd
      rw [hother id d₁ hd₁, Option.some.injEq] at hd'
      exact ⟨d, d', hd, hd' ▸ hd₁, hfacts⟩

/-- The device of the reference is written to. -/
theorem replace (h : Imports importer before done pass) {mid : Pass}
    (hmid : Entered importer before pass found mid) {current device : Device} {registry : Registry}
    (hcurrent : mid.registry.imported importer.provider found.externalRef = some current)
    (hwrite : mid.registry.updateDevice device = some registry) (hkept : current.Kept device)
    (hshows : device.Shows importer.provider found) (hfacts : device.facts ≠ current.facts)
    {written : List Registry} :
    Imports importer before (done ++ [found]) { mid with
      registry
      report := { mid.report with updated := mid.report.updated ++ [current.deviceId] }
      written } := by
  have hwritten := Registry.device_updateDevice hwrite
  rw [hkept.deviceId] at hwritten
  obtain ⟨hmem, hprovider, href⟩ := Registry.imported_spec hcurrent
  have hget := Registry.device_of_mem hmem
  have hmem' : current ∈ pass.registry.devices := Registry.device_mem ((hmid.device _).symm.trans hget)
  -- the reference is new to this import, so its row still is the one of `before`
  have hbefore : before.device current.deviceId = some current :=
    h.before_of_unseen hmid.new.unseen hmem' href
  have hself : registry.device current.deviceId = some device := (hwritten _).trans (if_pos rfl)
  have hother : ∀ id, id ≠ current.deviceId → registry.device id = mid.registry.device id :=
    fun id hid => (hwritten id).trans (if_neg hid)
  refine h.concat ⟨hmid.new.unseen, hmid.new.seenRefs, ?_, hmid.new.orphaned, hmid.new.skipped⟩ ?_ ?_ ?_
    (.inl ⟨_, _, hself, hshows⟩) ?_ ?_
  · rw [(Registry.updateDevice_spec hwrite).1]
    exact hmid.new.areas
  · intro id d hd
    by_cases hid : id = current.deviceId
    · subst hid
      rw [hbefore, Option.some.injEq] at hd
      subst hd
      exact ⟨_, hself, .inr ⟨hprovider, ⟨_, hmid.seen, href⟩, hshows.present, hkept⟩⟩
    · rw [hother id hid]
      exact hmid.kept id d hd
  · intro id d' hnone hd'
    have hid : id ≠ current.deviceId := by
      rintro rfl
      rw [hbefore] at hnone
      cases hnone
    rw [hother id hid] at hd'
    exact hmid.created id d' hnone hd'
  · intro id d hd hne
    have hid : id ≠ current.deviceId := by
      rintro rfl
      rw [← hmid.device, hget, Option.some.injEq] at hd
      exact hne (hd ▸ href)
    rw [hother id hid, hmid.device, hd]
  · intro id
    simp only [hmid.added]
    by_cases hid : id = current.deviceId
    · simp [hid, hbefore]
    · rw [hother id hid]
  · intro id
    simp only [List.mem_append, List.mem_singleton, hmid.updated]
    by_cases hid : id = current.deviceId
    · exact iff_of_true (.inr hid) ⟨current, device, hid ▸ hbefore, hid ▸ hself, hfacts⟩
    · rw [hother id hid]
      simp [hid]

/-- A new reference, its area settled. -/
theorem turn (h : Imports importer before done pass) {mid : Pass}
    (hmid : Entered importer before pass found mid) (hturn : Turn importer found areaId mid pass') :
    Imports importer before (done ++ [found]) pass' := by
  cases hturn with
  | full hmissing hfull =>
    refine h.unwritten hmid (Pass.skip_areasOnly _ _ _) (.inr ?_)
    exact List.mem_append_right _ (List.mem_singleton_self _)
  | added hmissing hroom hname hwrite => exact h.insert hmid hwrite ⟨rfl, rfl, rfl, rfl, rfl, rfl⟩
  | same hcurrent hname hfacts =>
    obtain ⟨hmem, hprovider, href⟩ := Registry.imported_spec hcurrent
    refine h.unwritten hmid (.refl _) (.inl ⟨_, _, Registry.device_of_mem hmem, ?_⟩)
    exact (Importer.proposed_shows hprovider href).of_facts hfacts
  | updated hcurrent hname hfacts hwrite =>
    obtain ⟨-, hprovider, href⟩ := Registry.imported_spec hcurrent
    exact h.replace hmid hcurrent hwrite (importer.proposed_kept found areaId _ _)
      (Importer.proposed_shows hprovider href) hfacts

theorem step (h : Imports importer before done pass)
    (hnext : (importer.importOne pass found).failure = none) :
    Imports importer before (done ++ [found]) (importer.importOne pass found) := by
  obtain ⟨-, ⟨hseen, heq⟩ | ⟨hunseen, hareas, hturn⟩⟩ := Importer.importOne_turn hnext
  · rw [heq]
    exact h.skipped hseen
  · exact h.turn (h.enter hunseen hareas.areasOnly) hturn

theorem start : Imports importer before [] { registry := before } where
  seen ref := by simp
  areas _ ha := ha
  kept id d hd := ⟨d, hd, .inl rfl⟩
  created id d' hnone hd' := by
    rw [hnone] at hd'
    cases hd'
  listed ref found hfound := nomatch hfound
  added id := by
    cases hd : before.device id <;> simp
  updated id := by
    simp only [List.not_mem_nil, false_iff, not_exists, not_and]
    intro d d' hd hd' hfacts
    rw [hd, Option.some.injEq] at hd'
    exact hfacts (by rw [hd'])
  orphaned := rfl

end Imports

theorem Importer.importAll_imports {importer : Importer} {before : Registry}
    {discovered : List DiscoveredDevice} (h : (importer.importAll before discovered).failure = none) :
    Imports importer before discovered (importer.importAll before discovered) := by
  induction discovered using List.reverseRec with
  | nil => exact .start
  | append_singleton discovered found ih =>
    unfold importAll at h ⊢
    rw [run_concat] at h ⊢
    exact (ih (importOne_turn h).1).step h

/-! ### The second loop -/

/-- A device of the account that the list does not name and that is not marked yet. -/
def Importer.Missing (importer : Importer) (seenRefs : List String) (device : Device) : Prop :=
  device.provider = importer.provider ∧ (∀ ref ∈ seenRefs, device.providerRef ≠ some ref) ∧
    device.orphaned = false

instance (importer : Importer) (seenRefs : List String) :
    DecidablePred (importer.Missing seenRefs) := fun _ => by
  unfold Importer.Missing
  infer_instance

/-- The device as the second loop writes it. -/
def Importer.orphan (importer : Importer) (device : Device) : Device :=
  { device with orphaned := true, syncedAtMs := some importer.nowMs }

/-- How far the second loop has got, among the devices there were after the first. -/
structure Orphans (importer : Importer) (mid : Pass) (done : List Device) (pass : Pass) : Prop where
  areas : pass.registry.areas = mid.registry.areas
  seenRefs : pass.seenRefs = mid.seenRefs
  report : pass.report = { mid.report with
    orphaned := mid.report.orphaned ++ (done.filter (importer.Missing mid.seenRefs)).map (·.deviceId) }
  device : ∀ id, pass.registry.device id = (mid.registry.device id).map fun d =>
    if d ∈ done ∧ importer.Missing mid.seenRefs d then importer.orphan d else d

theorem Orphans.start {importer : Importer} {mid : Pass} : Orphans importer mid [] mid where
  areas := rfl
  seenRefs := rfl
  report := by simp
  device id := by simp

theorem Orphans.step {importer : Importer} {mid pass : Pass} {done : List Device} {d : Device}
    (h : Orphans importer mid done pass) (hd : d ∈ mid.registry.devices)
    (hnext : (importer.orphanOne pass d).failure = none) :
    pass.failure = none ∧ Orphans importer mid (done ++ [d]) (importer.orphanOne pass d) := by
  have hpass : pass.failure = none := by
    by_contra hfailed
    have hsame : importer.orphanOne pass d = pass := if_pos (Option.isSome_iff_ne_none.mpr hfailed)
    rw [hsame] at hnext
    exact hfailed hnext
  refine ⟨hpass, ?_⟩
  unfold Importer.orphanOne at hnext ⊢
  simp only [hpass, Option.isSome_none, Bool.false_eq_true, if_false, h.seenRefs] at hnext ⊢
  -- the row is written if it is missing, and only then
  by_cases hmissing : importer.Missing mid.seenRefs d
  · have hcond := hmissing
    unfold Importer.Missing at hcond
    rw [if_pos hcond] at hnext ⊢
    obtain ⟨registry, hwrite, heq⟩ := Pass.write_eq hnext
    rw [heq]
    have hwritten := Registry.device_updateDevice hwrite
    refine ⟨?_, h.seenRefs, ?_, fun id => ?_⟩
    · exact (Registry.updateDevice_spec hwrite).1.trans h.areas
    · simp [h.report, List.filter_append, hmissing]
    · refine (hwritten id).trans ?_
      by_cases hid : id = d.deviceId
      · subst hid
        rw [if_pos rfl, Registry.device_of_mem hd, Option.map_some, if_pos ⟨by simp, hmissing⟩]
        rfl
      · rw [if_neg hid, h.device]
        refine Option.map_congr fun e he => ?_
        have hne : e ≠ d := fun heq => hid (by rw [← Registry.device_id he, heq])
        simp [hne]
  · have hcond := hmissing
    unfold Importer.Missing at hcond
    rw [if_neg hcond]
    refine ⟨h.areas, h.seenRefs, ?_, fun id => ?_⟩
    · simp [h.report, List.filter_append, hmissing]
    · rw [h.device]
      refine Option.map_congr fun e _ => ?_
      by_cases he : e = d
      · subst he
        simp [hmissing]
      · simp [he]

theorem Importer.orphanMissing_orphans {importer : Importer} {mid : Pass} {devices : List Device}
    (hdevices : ∀ d ∈ devices, d ∈ mid.registry.devices)
    (h : (run importer.orphanOne mid devices).failure = none) :
    mid.failure = none ∧ Orphans importer mid devices (run importer.orphanOne mid devices) := by
  induction devices using List.reverseRec with
  | nil => exact ⟨h, .start⟩
  | append_singleton devices d ih =>
    rw [run_concat] at h ⊢
    have hprefix := fun e he => hdevices e (List.mem_append_left _ he)
    have hd := hdevices d (List.mem_append_right _ (List.mem_singleton_self d))
    by_cases hfailed : (run importer.orphanOne mid devices).failure = none
    · obtain ⟨hmid, horphans⟩ := ih hprefix hfailed
      exact ⟨hmid, (horphans.step hd h).2⟩
    · have hsame : importer.orphanOne (run importer.orphanOne mid devices) d =
          run importer.orphanOne mid devices := if_pos (Option.isSome_iff_ne_none.mpr hfailed)
      rw [hsame] at h
      exact absurd h hfailed

/-! ### The whole import -/

/-- What the second loop makes of a device. -/
def Importer.settle (importer : Importer) (seenRefs : List String) (d : Device) : Device :=
  if importer.Missing seenRefs d then importer.orphan d else d

section Settle

variable {importer : Importer} {seenRefs : List String} {d d' : Device}

theorem settle_kept (importer : Importer) (seenRefs : List String) (d : Device) :
    d.Kept (importer.settle seenRefs d) := by
  unfold Importer.settle
  split
  · exact ⟨rfl, rfl, rfl, rfl, rfl, fun field _ => by cases field <;> rfl⟩
  · exact .refl d

theorem settle_of_not (h : ¬importer.Missing seenRefs d) : importer.settle seenRefs d = d := if_neg h

theorem not_missing_of_seen (importer : Importer) {ref : String} (hseen : ref ∈ seenRefs) (href : d.providerRef = some ref) :
    ¬importer.Missing seenRefs d := fun h => h.2.1 ref hseen href

theorem Device.Kept.trans {d d' d'' : Device} (h : d.Kept d') (h' : d'.Kept d'') : d.Kept d'' := by
  refine ⟨h'.deviceId.trans h.deviceId, h'.provider.trans h.provider, h'.providerRef.trans h.providerRef,
    h'.aliases.trans h.aliases, h'.overrides.trans h.overrides, fun field hfield => ?_⟩
  exact (h'.owned field (h.overrides ▸ hfield)).trans (h.owned field hfield)

theorem touched_kept (h : Touched importer seenRefs d d') : d.Kept d' := by
  rcases h with rfl | ⟨-, -, -, hkept⟩
  · exact .refl d'
  · exact hkept

/-- A device whose reference did not come up is as it was. -/
theorem eq_of_touched (h : Touched importer seenRefs d d')
    (hunseen : ∀ ref ∈ seenRefs, d'.providerRef ≠ some ref) : d' = d := by
  rcases h with heq | ⟨-, ⟨ref, hseen, href⟩, -, hkept⟩
  · exact heq
  · exact absurd (hkept.providerRef.trans href) (hunseen ref hseen)

end Settle

namespace Imports

variable {importer : Importer} {before : Registry} {discovered : List DiscoveredDevice} {mid : Pass}
  {id : DeviceId} {d : Device}

/-- Who is there after the first loop with a reference that did not come up was there before. -/
theorem before_of_unlisted (h : Imports importer before discovered mid)
    (hd : mid.registry.device id = some d) (hunseen : ∀ ref ∈ mid.seenRefs, d.providerRef ≠ some ref) :
    before.device id = some d := by
  cases hbefore : before.device id with
  | none =>
    obtain ⟨-, -, ref, hseen, href⟩ := h.created id d hbefore hd
    exact absurd href (hunseen ref hseen)
  | some d₀ =>
    obtain ⟨d', hd', htouched⟩ := h.kept id d₀ hbefore
    rw [hd, Option.some.injEq] at hd'
    subst hd'
    rw [eq_of_touched htouched hunseen]

theorem provider_of_ne (h : Imports importer before discovered mid) (hprovider : d.provider ≠ importer.provider) :
    mid.registry.device id = some d ↔ before.device id = some d := by
  constructor
  · intro hd
    cases hbefore : before.device id with
    | none => exact absurd (h.created id d hbefore hd).1 hprovider
    | some d₀ =>
      obtain ⟨d', hd', htouched⟩ := h.kept id d₀ hbefore
      rw [hd, Option.some.injEq] at hd'
      subst hd'
      rcases htouched with rfl | ⟨hprovider', -, -, hkept⟩
      · rfl
      · exact absurd (hkept.provider.trans hprovider') hprovider
  · intro hd
    obtain ⟨d', hd', rfl | ⟨hprovider', -⟩⟩ := h.kept id d hd
    · exact hd'
    · exact absurd hprovider' hprovider

end Imports

/-- The registry after both loops, device by device. -/
theorem Orphans.settled {importer : Importer} {mid pass : Pass}
    (h : Orphans importer mid mid.registry.devices.rows pass) (id : DeviceId) :
    pass.registry.device id = (mid.registry.device id).map (importer.settle mid.seenRefs) := by
  rw [h.device]
  refine Option.map_congr fun d hd => ?_
  have hmem : d ∈ mid.registry.devices.rows := Registry.device_mem hd
  simp [Importer.settle, hmem]

theorem respects_of_loops {importer : Importer} {before : Registry} {discovered : List DiscoveredDevice}
    {mid pass : Pass} (himports : Imports importer before discovered mid)
    (horphans : Orphans importer mid mid.registry.devices.rows pass) :
    Respects importer.provider discovered before pass.registry
      { pass.report with revision := pass.registry.revision } := by
  -- the orphan pass settles each row by itself, so every row after it is a settled row of `mid`
  have hdevice := horphans.settled
  have hbefore : ∀ {id d'}, pass.registry.device id = some d' → ∃ d, mid.registry.device id = some d ∧
      importer.settle mid.seenRefs d = d' := fun hd' => by
    rw [hdevice, Option.map_eq_some_iff] at hd'
    exact hd'
  have hunlisted : ∀ d : Device, (∀ found ∈ discovered, d.providerRef ≠ some found.externalRef) →
      ∀ ref ∈ mid.seenRefs, d.providerRef ≠ some ref := fun d hd ref href => by
    obtain ⟨found, hfound, rfl⟩ := (himports.seen ref).mp href
    exact hd found hfound
  refine ⟨?_, ?_, ?_, ?_, ?_, ?_, ?_, ?_, rfl⟩
  · intro d hd
    obtain ⟨d', hd', htouched⟩ := himports.kept _ d (Registry.device_of_mem hd)
    have hafter : pass.registry.device d.deviceId = some (importer.settle mid.seenRefs d') := by
      rw [hdevice, hd', Option.map_some]
    exact ⟨_, Registry.device_mem hafter, (touched_kept htouched).trans (settle_kept _ _ _)⟩
  · intro d hprovider
    have hsettle : importer.settle mid.seenRefs d = d := settle_of_not fun h => hprovider h.1
    constructor
    · intro hd
      obtain ⟨e, he, hsettled⟩ := hbefore (Registry.device_of_mem hd)
      have hne : e.provider ≠ importer.provider := by
        rw [← (settle_kept importer mid.seenRefs e).provider, hsettled]
        exact hprovider
      rw [settle_of_not fun h => hne h.1] at hsettled
      exact Registry.device_mem ((himports.provider_of_ne hprovider).mp (hsettled ▸ he))
    · intro hd
      have hmid := (himports.provider_of_ne hprovider).mpr (Registry.device_of_mem hd)
      have hget : pass.registry.device d.deviceId = some d := by
        rw [hdevice, hmid, Option.map_some, hsettle]
      exact Registry.device_mem hget
  · intro a ha
    rw [horphans.areas]
    exact himports.areas a ha
  · intro ref found hfound
    obtain ⟨hmem, href⟩ := Imports.firstOf_ref hfound
    rw [horphans.report]
    refine (himports.listed ref found hfound).imp_left fun ⟨id, d, hd, hshows⟩ => ?_
    have hseen : found.externalRef ∈ mid.seenRefs := (himports.seen _).mpr ⟨found, hmem, rfl⟩
    have hsettle := settle_of_not (not_missing_of_seen importer hseen hshows.providerRef)
    have hget : pass.registry.device id = some d := by
      rw [hdevice, hd, Option.map_some, hsettle]
    exact ⟨d, Registry.device_mem hget, hshows⟩
  -- a row the account no longer lists: it is a row of `before`, orphaned unless it already was
  · intro d' hd' hprovider hnames
    obtain ⟨d, hd, rfl⟩ := hbefore (Registry.device_of_mem hd')
    have hkept : d.Kept (importer.settle mid.seenRefs d) := settle_kept _ _ _
    have hunseen : ∀ ref ∈ mid.seenRefs, d.providerRef ≠ some ref :=
      hunlisted d fun found hfound => hkept.providerRef ▸ hnames found hfound
    have hd₀ := himports.before_of_unlisted hd hunseen
    refine ⟨?_, d, Registry.device_mem hd₀, hkept, ?_⟩
    · cases horphaned : d.orphaned with
      | true => rw [settle_of_not fun h => absurd (horphaned.symm.trans h.2.2) (by decide), horphaned]
      | false =>
        have hmissing : importer.Missing mid.seenRefs d := ⟨hkept.provider ▸ hprovider, hunseen, horphaned⟩
        simp [Importer.settle, hmissing, Importer.orphan]
    · unfold Importer.settle
      split <;> exact ⟨rfl, rfl⟩
  · intro id
    rw [horphans.report, hdevice, Option.isSome_map]
    exact himports.added id
  · intro id
    rw [horphans.report]
    refine (himports.updated id).trans ⟨?_, ?_⟩
    · rintro ⟨d, e, hd, he, hfacts⟩
      obtain ⟨e', he', htouched⟩ := himports.kept id d hd
      rw [he, Option.some.injEq] at he'
      subst he'
      rcases htouched with rfl | ⟨-, ⟨ref, hseen, href⟩, hpresent, hkept⟩
      · exact absurd rfl hfacts
      · have hsettle := settle_of_not
          (not_missing_of_seen importer hseen (hkept.providerRef.trans href))
        exact ⟨d, e, hd, by rw [hdevice, he, Option.map_some, hsettle], hfacts, hpresent⟩
    · rintro ⟨d, d', hd, hd', hfacts, hpresent⟩
      obtain ⟨e, he, rfl⟩ := hbefore hd'
      have hsettle : importer.settle mid.seenRefs e = e := by
        refine settle_of_not fun hmissing => ?_
        simp [Importer.settle, hmissing, Importer.orphan] at hpresent
      rw [hsettle] at hfacts
      exact ⟨d, e, hd, he, hfacts⟩
  · intro id
    rw [horphans.report, himports.orphaned]
    simp only [List.nil_append, List.mem_map, List.mem_filter, decide_eq_true_eq]
    constructor
    -- orphaned by the pass: it was missing in `mid`, so no import touched it
    · rintro ⟨e, ⟨he, hmissing⟩, rfl⟩
      have hget := Registry.device_of_mem he
      refine ⟨e, importer.orphan e, himports.before_of_unlisted hget hmissing.2.1, ?_, hmissing.2.2, rfl⟩
      rw [hdevice, hget, Option.map_some, Importer.settle, if_pos hmissing]
    -- present before and orphaned after: only the orphan pass can have done it, for an imported row
    -- is present
    · rintro ⟨d, d', hd, hd', hpresent, horphaned⟩
      obtain ⟨e, he, rfl⟩ := hbefore hd'
      refine ⟨e, ⟨Registry.device_mem he, ?_⟩, Registry.device_id he⟩
      by_contra hmissing
      rw [settle_of_not hmissing] at horphaned
      obtain ⟨e', he', htouched⟩ := himports.kept id d hd
      rw [he, Option.some.injEq] at he'
      subst he'
      rcases htouched with rfl | ⟨-, -, hpresent', -⟩
      · rw [hpresent] at horphaned
        cases horphaned
      · rw [hpresent'] at horphaned
        cases horphaned

/-- **An import respects the owner's registry**, if it returns. -/
theorem import_respects (importer : Importer) (before : Registry) (discovered : List DiscoveredDevice)
    (h : (importer.sync before discovered).failure = none) :
    Respects importer.provider discovered before (importer.sync before discovered).registry
      (importer.sync before discovered).report := by
  obtain ⟨hmid, horphans⟩ := Importer.orphanMissing_orphans (fun _ hd => hd) h
  have hrespects := respects_of_loops (Importer.importAll_imports hmid) horphans
  exact hrespects

/-- A lamp is renamed, another one is new, and a third is no longer there. -/
theorem import_respects_lamps : ∃ report, Respects "homeassistant:acc"
    [Sample.found "a" "Lamp" (some "Hall"), Sample.found "b" "Lamp" (some "Hall")]
    (Sample.importer.sync Sample.empty [Sample.found "a" "Light" none, Sample.found "c" "Light" none]).registry
    (Sample.importer.sync (Sample.importer.sync Sample.empty
      [Sample.found "a" "Light" none, Sample.found "c" "Light" none]).registry
      [Sample.found "a" "Lamp" (some "Hall"), Sample.found "b" "Lamp" (some "Hall")]).registry report :=
  ⟨_, import_respects Sample.importer _ _ (by decide +kernel)⟩

end EidolonHub.SmartHome.Import
