import EidolonHub.SmartHome.ImportNames

/-!
# EidolonHub.SmartHome.ImportRepeat

**The same import a second time.** What one import settles stays settled to its end: areas are
only added, a reference is come across once, and a bound that was reached stays reached. So a
second import finds every device as it would leave it, and every bound where it was.

Names are the exception. A name is compared with those the other devices have at that moment,
and a device that comes later may give one up: in the end a name may be free that was taken
(`import_renames_again`). A second import writes nothing, exactly if every device has the name
it would be given now (`import_idempotent`).
-/

namespace EidolonHub.SmartHome.Import

open EidolonHub.Library

/-! ### What is looked up -/

/-- The area something was found in. -/
def areaIdIn (registry : Registry) (areaName : Option String) : Option AreaId :=
  (areaWanted areaName).bind fun name => (registry.areaNamed (clipName name)).map (·.areaId)

/-- What the import of an area tells of an area that cannot be created. -/
def areaSkips (registry : Registry) (areaName : Option String) : List Skipped :=
  match areaWanted areaName with
  | none => []
  | some name =>
    match registry.areaNamed (clipName name) with
    | none => [⟨clipName name, .areaLimitExceeded⟩]
    | some _ => []

/-- What the import of a device tells of a device that cannot be created. -/
def deviceSkips (provider : String) (registry : Registry) (ref : String) : List Skipped :=
  match registry.imported provider ref with
  | none => [⟨ref, .limitExceeded⟩]
  | some _ => []

/-- What an entry of the list adds to the references and to what is skipped. -/
def skipStep (provider : String) (registry : Registry) (s : List String × List Skipped)
    (found : DiscoveredDevice) : List String × List Skipped :=
  if found.externalRef ∈ s.1 then (s.1, s.2 ++ [⟨found.externalRef, .duplicateRef⟩])
  else (s.1 ++ [found.externalRef],
    s.2 ++ (areaSkips registry found.areaName ++ deviceSkips provider registry found.externalRef))

/-- A registry that has nothing left to write for an entry, but for its name. -/
structure Settled (importer : Importer) (registry : Registry) (found : DiscoveredDevice) : Prop where
  area : ∀ name, areaWanted found.areaName = some name →
    registry.areaNamed (clipName name) = none → importer.maxAreas ≤ registry.areas.rows.length
  full : registry.imported importer.provider found.externalRef = none →
    importer.maxDevices ≤ registry.devices.rows.length
  shows : ∀ current, registry.imported importer.provider found.externalRef = some current →
    current.Shows importer.provider found ∧ current.source = "imported" ∧
      (.areaId ∉ current.overrides → current.areaId = areaIdIn registry found.areaName)

/-- A later registry: what was looked up under these references is what it was. -/
structure Later (importer : Importer) (refs : List String) (before after : Registry) : Prop where
  areas : before.areas.rows <+: after.areas.rows
  areasFull : importer.maxAreas ≤ before.areas.rows.length → after.areas.rows = before.areas.rows
  imported : ∀ ref ∈ refs, after.imported importer.provider ref = before.imported importer.provider ref
  devices : before.devices.rows.length ≤ after.devices.rows.length

section Later

variable {importer : Importer} {refs : List String} {before after : Registry} {found : DiscoveredDevice}

theorem Later.refl (registry : Registry) : Later importer refs registry registry :=
  ⟨List.prefix_refl _, fun _ => rfl, fun _ _ => rfl, Nat.le_refl _⟩

theorem Later.trans {after' : Registry} (h : Later importer refs before after)
    (h' : Later importer refs after after') : Later importer refs before after' := by
  refine ⟨h.areas.trans h'.areas, fun hfull => ?_, fun ref href => ?_, h.devices.trans h'.devices⟩
  · rw [h'.areasFull (hfull.trans h.areas.length_le), h.areasFull hfull]
  · rw [h'.imported ref href, h.imported ref href]

theorem areaNamed_of_prefix {name : String} {area : Area} (h : before.areas.rows <+: after.areas.rows)
    (harea : before.areaNamed name = some area) : after.areaNamed name = some area := by
  obtain ⟨more, hmore⟩ := h
  unfold Registry.areaNamed at harea ⊢
  rw [← hmore, List.find?_append, harea, Option.some_or]

/-- An area is looked up as before, once it is settled. -/
theorem Settled.areaNamed (h : Settled importer before found) (hlater : Later importer refs before after)
    {name : String} (hname : areaWanted found.areaName = some name) :
    after.areaNamed (clipName name) = before.areaNamed (clipName name) := by
  cases harea : before.areaNamed (clipName name) with
  | some area => exact areaNamed_of_prefix hlater.areas harea
  | none =>
    rw [← harea]
    unfold Registry.areaNamed
    rw [hlater.areasFull (h.area name hname harea)]

theorem Settled.areaIdIn (h : Settled importer before found) (hlater : Later importer refs before after) :
    areaIdIn after found.areaName = Import.areaIdIn before found.areaName := by
  unfold Import.areaIdIn
  refine Option.bind_congr fun name hname => ?_
  rw [h.areaNamed hlater hname]

theorem Settled.areaSkips (h : Settled importer before found) (hlater : Later importer refs before after) :
    areaSkips after found.areaName = Import.areaSkips before found.areaName := by
  unfold Import.areaSkips
  cases hname : areaWanted found.areaName with
  | none => rfl
  | some name => simp only [h.areaNamed hlater hname]

theorem Settled.later (h : Settled importer before found) (hlater : Later importer refs before after)
    (href : found.externalRef ∈ refs) : Settled importer after found := by
  have himported := hlater.imported _ href
  refine ⟨fun name hname hmissing => ?_, fun hmissing => ?_, fun current hcurrent => ?_⟩
  · rw [h.areaNamed hlater hname] at hmissing
    exact (h.area name hname hmissing).trans hlater.areas.length_le
  · exact (h.full (himported.symm.trans hmissing)).trans hlater.devices
  · rw [h.areaIdIn hlater]
    exact h.shows current (himported.symm.trans hcurrent)

end Later

/-! ### What writes leave -/

section Writes

variable {registry registry' : Registry} {device current : Device} {provider ref : String}

theorem imported_createDevice (hwrite : registry.createDevice device = some registry')
    (hother : device.providerRef ≠ some ref) :
    registry'.imported provider ref = registry.imported provider ref := by
  unfold Registry.imported
  rw [(Registry.createDevice_spec hwrite).2.1, List.find?_append]
  simp [hother]

/-- A device that is written to under its reference is found where it was. -/
theorem imported_updateDevice (hwrite : registry.updateDevice device = some registry')
    (hstored : current ∈ registry.devices) (hkept : current.Kept device) :
    registry'.imported provider ref = (registry.imported provider ref).map fun d =>
      if d.deviceId = device.deviceId then device else d := by
  unfold Registry.imported
  rw [(Registry.updateDevice_spec hwrite).2.1, List.find?_map]
  congr 1
  refine List.find?_congr fun d hd => ?_
  simp only [Function.comp]
  by_cases hid : d.deviceId = device.deviceId
  · have hsame : d = current := Table.eq_of_key device_isKey hd hstored (hid.trans hkept.deviceId)
    rw [hsame] at hid ⊢
    simp only [if_pos hid, hkept.provider, hkept.providerRef]
  · simp only [if_neg hid]

theorem imported_updateDevice_of_ne (hwrite : registry.updateDevice device = some registry')
    (hstored : current ∈ registry.devices) (hkept : current.Kept device)
    (hother : current.providerRef ≠ some ref) :
    registry'.imported provider ref = registry.imported provider ref := by
  rw [imported_updateDevice hwrite hstored hkept]
  cases hd : registry.imported provider ref with
  | none => rfl
  | some d =>
    obtain ⟨hmem, -, href⟩ := Registry.imported_spec hd
    have hid : d.deviceId ≠ device.deviceId := fun hid => by
      have hsame : d = current := Table.eq_of_key device_isKey hmem hstored (hid.trans hkept.deviceId)
      exact hother (hsame ▸ href)
    rw [Option.map_some, if_neg hid]

end Writes

section Turn

variable {importer : Importer} {pass pass' : Pass} {found : DiscoveredDevice} {areaId : Option AreaId}
  {areaName : Option String} {refs : List String}

/-- What was asked of an area, and what is left to say of it. -/
theorem AreaTurn.lookup (h : AreaTurn importer pass areaName pass' areaId) :
    areaIdIn pass'.registry areaName = areaId ∧
      pass'.report.skipped = pass.report.skipped ++ areaSkips pass'.registry areaName ∧
      ∀ name, areaWanted areaName = some name → pass'.registry.areaNamed (clipName name) = none →
        importer.maxAreas ≤ pass'.registry.areas.rows.length := by
  cases h with
  | nowhere hname =>
    refine ⟨by simp [areaIdIn, hname], by simp [areaSkips, hname], fun name hname' => ?_⟩
    exact nomatch hname.symm.trans hname'
  | @existing name area hname harea =>
    refine ⟨by simp [areaIdIn, hname, harea], by simp [areaSkips, hname, harea], fun name' hname' => ?_⟩
    obtain rfl := Option.some.inj (hname.symm.trans hname')
    exact fun hmissing => nomatch harea.symm.trans hmissing
  | @full name hname hmissing hfull =>
    exact ⟨by simp [areaIdIn, hname, hmissing], by simp [areaSkips, hname, hmissing], fun _ _ _ => hfull⟩
  | @created name area registry hname hmissing hroom harea hwrite =>
    have hnamed : registry.areaNamed (clipName name) = some area := by
      unfold Registry.areaNamed at hmissing ⊢
      rw [(Registry.createArea_spec hwrite).2.1, List.find?_append, hmissing]
      simp [harea]
    refine ⟨by simp [areaIdIn, hname, hnamed], by simp [areaSkips, hname, hnamed], fun name' hname' => ?_⟩
    obtain rfl := Option.some.inj (hname.symm.trans hname')
    exact fun hmissing => nomatch hnamed.symm.trans hmissing

theorem AreaTurn.later (h : AreaTurn importer pass areaName pass' areaId) :
    Later importer refs pass.registry pass'.registry := by
  have hareas := h.areasOnly
  refine ⟨hareas.areas, fun hfull => ?_, fun ref _ => ?_, ?_⟩
  · cases h with
    | created hname hmissing hroom => exact absurd hfull (Nat.not_le_of_lt hroom)
    | _ => rfl
  · unfold Registry.imported
    rw [hareas.devices]
  · rw [hareas.devices]

theorem Turn.areas (h : Turn importer found areaId pass pass') :
    pass'.registry.areas = pass.registry.areas := by
  cases h with
  | added hmissing hroom hname hwrite => exact (Registry.createDevice_spec hwrite).1
  | updated hcurrent hname hfacts hwrite => exact (Registry.updateDevice_spec hwrite).1
  | _ => rfl

theorem Turn.seenRefs (h : Turn importer found areaId pass pass') : pass'.seenRefs = pass.seenRefs := by
  cases h <;> rfl

theorem areaIdIn_congr {registry registry' : Registry} (h : registry'.areas = registry.areas) :
    areaIdIn registry' areaName = areaIdIn registry areaName := by
  unfold areaIdIn Registry.areaNamed
  rw [h]

theorem areaSkips_congr {registry registry' : Registry} (h : registry'.areas = registry.areas) :
    areaSkips registry' areaName = areaSkips registry areaName := by
  unfold areaSkips Registry.areaNamed
  rw [h]

theorem Turn.later (h : Turn importer found areaId pass pass') (hnew : found.externalRef ∉ refs) :
    Later importer refs pass.registry pass'.registry := by
  have hne : ∀ ref ∈ refs, (some found.externalRef : Option String) ≠ some ref := fun ref href heq =>
    hnew (Option.some.inj heq ▸ href)
  refine ⟨?_, fun _ => by rw [h.areas], fun ref href => ?_, ?_⟩
  · simp only [h.areas, List.prefix_refl]
  · cases h with
    | added hmissing hroom hname hwrite => exact imported_createDevice hwrite (hne ref href)
    | updated hcurrent hname hfacts hwrite =>
      obtain ⟨hmem, -, hcurrentRef⟩ := Registry.imported_spec hcurrent
      refine imported_updateDevice_of_ne hwrite hmem (importer.proposed_kept found areaId _ _) ?_
      rw [hcurrentRef]
      exact hne ref href
    | _ => rfl
  · cases h with
    | added hmissing hroom hname hwrite => simp [(Registry.createDevice_spec hwrite).2.1]
    | updated hcurrent hname hfacts hwrite => simp [(Registry.updateDevice_spec hwrite).2.1]
    | _ => exact Nat.le_refl _

/-- The device that a turn leaves. -/
theorem Turn.lookup (h : Turn importer found areaId pass pass') :
    pass'.report.skipped =
        pass.report.skipped ++ deviceSkips importer.provider pass'.registry found.externalRef ∧
      (pass'.registry.imported importer.provider found.externalRef = none →
        importer.maxDevices ≤ pass'.registry.devices.rows.length) ∧
      ∀ current, pass'.registry.imported importer.provider found.externalRef = some current →
        current.Shows importer.provider found ∧ current.source = "imported" ∧
          (.areaId ∉ current.overrides → current.areaId = areaId) := by
  cases h with
  | full hmissing hfull =>
    refine ⟨?_, fun _ => hfull, fun current hcurrent => ?_⟩
    · simp [deviceSkips, hmissing]
    · cases hmissing.symm.trans hcurrent
  | @added name registry hmissing hroom hname hwrite =>
    have hfound : registry.imported importer.provider found.externalRef =
        some (importer.created found areaId name) := by
      unfold Registry.imported at hmissing ⊢
      rw [(Registry.createDevice_spec hwrite).2.1, List.find?_append, hmissing]
      simp [Importer.created]
    refine ⟨by simp [deviceSkips, hfound], ?_, ?_⟩
    · intro hnone
      cases hfound.symm.trans hnone
    intro current hcurrent
    obtain rfl := Option.some.inj (hfound.symm.trans hcurrent)
    exact ⟨⟨rfl, rfl, rfl, rfl, rfl, rfl⟩, rfl, fun _ => rfl⟩
  | @same current name hcurrent hname hfacts =>
    refine ⟨by simp [deviceSkips, hcurrent], ?_, ?_⟩
    · intro hnone
      cases hcurrent.symm.trans hnone
    intro current' hcurrent'
    obtain rfl := Option.some.inj (hcurrent.symm.trans hcurrent')
    obtain ⟨-, hprovider, href⟩ := Registry.imported_spec hcurrent
    refine ⟨(Importer.proposed_shows hprovider href).of_facts hfacts, ?_, fun harea => ?_⟩
    · exact (congrArg Device.source hfacts).symm
    · have hsame := (congrArg Device.areaId hfacts).symm
      simpa [Device.facts, Importer.proposed, harea] using hsame
  | @updated current name registry hcurrent hname hfacts hwrite =>
    obtain ⟨hmem, hprovider, href⟩ := Registry.imported_spec hcurrent
    have hfound : registry.imported importer.provider found.externalRef =
        some (importer.proposed found areaId current name) := by
      rw [imported_updateDevice hwrite hmem (importer.proposed_kept found areaId current name), hcurrent]
      exact congrArg some (if_pos rfl)
    refine ⟨by simp [deviceSkips, hfound], ?_, ?_⟩
    · intro hnone
      cases hfound.symm.trans hnone
    intro current' hcurrent'
    obtain rfl := Option.some.inj (hfound.symm.trans hcurrent')
    exact ⟨Importer.proposed_shows hprovider href, rfl, fun harea => if_neg harea⟩

end Turn

/-! ### The first import -/

/-- Everything that was come across is settled, and was skipped as it would be now. -/
structure Repeats (importer : Importer) (done : List DiscoveredDevice) (registry : Registry)
    (seenRefs : List String) (skipped : List Skipped) : Prop where
  settled : ∀ ref found, firstOf done ref = some found → Settled importer registry found
  skips : run (skipStep importer.provider registry) ([], []) done = (seenRefs, skipped)

namespace Repeats

variable {importer : Importer} {done : List DiscoveredDevice} {registry registry' : Registry}
  {seenRefs : List String} {skipped : List Skipped}

theorem mem_of_firstOf_concat {found f : DiscoveredDevice} {ref : String}
    (h : firstOf done ref = some f) : firstOf (done ++ [found]) ref = some f := by
  unfold firstOf at h ⊢
  rw [List.find?_append, h, Option.some_or]

theorem firstOf_concat_self {found : DiscoveredDevice}
    (h : ∀ f ∈ done, f.externalRef ≠ found.externalRef) :
    firstOf (done ++ [found]) found.externalRef = some found := by
  unfold firstOf
  rw [List.find?_append, List.find?_eq_none.mpr, Option.none_or]
  · simp
  · exact fun f hf href => h f hf (of_decide_eq_true href)

theorem mem_skipStep {provider ref : String} {found : DiscoveredDevice} {s : List String × List Skipped} :
    ref ∈ (skipStep provider registry s found).1 ↔ ref ∈ s.1 ∨ found.externalRef = ref := by
  unfold skipStep
  split
  · next hold =>
    constructor
    · exact .inl
    · rintro (href | rfl)
      · exact href
      · exact hold
  · simp [eq_comm]

theorem mem_run_skipStep (provider : String) (registry : Registry) (done : List DiscoveredDevice) (ref : String) :
    ref ∈ (run (skipStep provider registry) ([], []) done).1 ↔ ∃ found ∈ done, found.externalRef = ref := by
  induction done using List.reverseRec with
  | nil => simp
  | append_singleton done found ih =>
    rw [run_concat, mem_skipStep, ih]
    simp [or_and_right, exists_or]

theorem skipStep_later {found : DiscoveredDevice} {s : List String × List Skipped}
    (hsettled : found.externalRef ∉ s.1 → Settled importer registry found)
    (hlater : Later importer seenRefs registry registry') (hseen : found.externalRef ∈ seenRefs) :
    skipStep importer.provider registry' s found = skipStep importer.provider registry s found := by
  unfold skipStep
  split
  · rfl
  · next hnew =>
    rw [(hsettled hnew).areaSkips hlater]
    simp only [deviceSkips, hlater.imported _ hseen]

/-- Entries that are settled are skipped as before. -/
theorem run_skipStep_later
    (hsettled : ∀ ref found, firstOf done ref = some found → Settled importer registry found)
    (hlater : Later importer seenRefs registry registry')
    (hseen : ∀ found ∈ done, found.externalRef ∈ seenRefs) :
    run (skipStep importer.provider registry') ([], []) done =
      run (skipStep importer.provider registry) ([], []) done := by
  induction done using List.reverseRec with
  | nil => rfl
  | append_singleton done found ih =>
    have hrun := ih (fun ref f hf => hsettled ref f (mem_of_firstOf_concat hf))
      (fun f hf => hseen f (List.mem_append_left _ hf))
    rw [run_concat, run_concat, hrun]
    refine skipStep_later (fun hnew => hsettled _ found (firstOf_concat_self fun f hf href => ?_)) hlater
      (hseen found (List.mem_append_right _ (List.mem_singleton_self _)))
    exact hnew ((mem_run_skipStep _ _ _ _).mpr ⟨f, hf, href⟩)

theorem seen (h : Repeats importer done registry seenRefs skipped) (ref : String) :
    ref ∈ seenRefs ↔ ∃ found ∈ done, found.externalRef = ref := by
  have hmem := mem_run_skipStep importer.provider registry done ref
  rwa [h.skips] at hmem

theorem later (h : Repeats importer done registry seenRefs skipped)
    (hlater : Later importer seenRefs registry registry') :
    Repeats importer done registry' seenRefs skipped := by
  have hmem : ∀ found ∈ done, found.externalRef ∈ seenRefs := fun found hfound =>
    (h.seen _).mpr ⟨found, hfound, rfl⟩
  refine ⟨fun ref found hfound => ?_, ?_⟩
  · exact (h.settled ref found hfound).later hlater (hmem found (Imports.firstOf_ref hfound).1)
  · rw [run_skipStep_later h.settled hlater hmem, h.skips]

/-- One turn more. -/
theorem step {pass : Pass} {found : DiscoveredDevice}
    (h : Repeats importer done pass.registry pass.seenRefs pass.report.skipped)
    (hnext : (importer.importOne pass found).failure = none) :
    Repeats importer (done ++ [found]) (importer.importOne pass found).registry
      (importer.importOne pass found).seenRefs (importer.importOne pass found).report.skipped := by
  obtain ⟨-, ⟨hold, heq⟩ | ⟨hnew, hareas, hturn⟩⟩ := Importer.importOne_turn hnext
  · rw [heq]
    have hmem := (h.seen _).mp hold
    refine ⟨fun ref f hf => ?_, ?_⟩
    · rw [Imports.firstOf_concat_of_mem hmem] at hf
      exact h.settled ref f hf
    · rw [run_concat, Pass.skip_registry, h.skips]
      exact if_pos hold
  · have hlater : Later importer pass.seenRefs pass.registry (importer.importOne pass found).registry :=
      hareas.later.trans (hturn.later hnew)
    have hbefore := h.later hlater
    obtain ⟨hareaId, hareaSkips, hareaFull⟩ := hareas.lookup
    obtain ⟨hdeviceSkips, hdeviceFull, hshows⟩ := hturn.lookup
    have hsettled : Settled importer (importer.importOne pass found).registry found := by
      refine ⟨fun name hname hmissing => ?_, hdeviceFull, fun current hcurrent => ?_⟩
      · unfold Registry.areaNamed at hmissing
        rw [hturn.areas] at hmissing ⊢
        exact hareaFull name hname hmissing
      · rw [areaIdIn_congr hturn.areas, hareaId]
        exact hshows current hcurrent
    refine ⟨fun ref f hf => ?_, ?_⟩
    · rcases Imports.firstOf_concat hf with hf | ⟨rfl, -⟩
      · exact hbefore.settled ref f hf
      · exact hsettled
    · rw [run_concat, hbefore.skips]
      unfold skipStep
      rw [if_neg hnew, hturn.seenRefs, hareas.areasOnly.seenRefs, hdeviceSkips, hareaSkips,
        areaSkips_congr hturn.areas, List.append_assoc]
      rfl

theorem start : Repeats importer [] registry [] [] := ⟨fun _ _ hfound => (nomatch hfound), rfl⟩

end Repeats

theorem Importer.importAll_repeats {importer : Importer} {before : Registry}
    {discovered : List DiscoveredDevice} (h : (importer.importAll before discovered).failure = none) :
    Repeats importer discovered (importer.importAll before discovered).registry
      (importer.importAll before discovered).seenRefs
      (importer.importAll before discovered).report.skipped := by
  induction discovered using List.reverseRec with
  | nil => exact .start
  | append_singleton discovered found ih =>
    unfold importAll at h ⊢
    rw [run_concat] at h ⊢
    exact (ih (importOne_turn h).1).step h

/-- A device that is marked is found as before under every reference that was come across. -/
theorem Orphans.orphanOne_later {importer : Importer} {mid pass : Pass} {done : List Device} {d : Device}
    (h : Orphans importer mid done pass) (hd : d ∈ mid.registry.devices)
    (hnext : (importer.orphanOne pass d).failure = none) :
    Later importer mid.seenRefs pass.registry (importer.orphanOne pass d).registry := by
  unfold Importer.orphanOne at hnext ⊢
  split
  · exact .refl _
  · next hpass =>
    rw [if_neg hpass] at hnext
    split
    · next hmissing =>
      rw [if_pos hmissing] at hnext
      obtain ⟨registry, hwrite, heq⟩ := Pass.write_eq hnext
      rw [heq]
      -- what is stored under its id differs from it by the mark at most
      have hget : ∃ e, pass.registry.device d.deviceId = some e ∧ (e = d ∨ e = importer.orphan d) := by
        rw [h.device, Registry.device_of_mem hd]
        refine ⟨_, rfl, ?_⟩
        dsimp only
        split
        · exact .inr rfl
        · exact .inl rfl
      obtain ⟨e, he, hsame⟩ := hget
      have hkept : e.Kept { d with orphaned := true, syncedAtMs := some importer.nowMs } := by
        rcases hsame with rfl | rfl
        · exact ⟨rfl, rfl, rfl, rfl, rfl, fun field _ => by cases field <;> rfl⟩
        · exact ⟨rfl, rfl, rfl, rfl, rfl, fun field _ => by cases field <;> rfl⟩
      obtain ⟨hareas, hrows, -⟩ := Registry.updateDevice_spec hwrite
      refine ⟨?_, fun _ => by rw [hareas], fun ref href => ?_, by rw [hrows, List.length_map]⟩
      · simp only [hareas, List.prefix_refl]
      refine imported_updateDevice_of_ne hwrite (Registry.device_mem he) hkept ?_
      rw [← hkept.providerRef]
      exact hmissing.2.1 ref (h.seenRefs ▸ href)
    · exact .refl _

theorem Orphans.later {importer : Importer} {mid : Pass} {devices : List Device}
    (hdevices : ∀ d ∈ devices, d ∈ mid.registry.devices)
    (h : (run importer.orphanOne mid devices).failure = none) :
    Later importer mid.seenRefs mid.registry (run importer.orphanOne mid devices).registry := by
  induction devices using List.reverseRec with
  | nil => exact .refl _
  | append_singleton devices d ih =>
    rw [run_concat] at h ⊢
    have hprefix := fun e he => hdevices e (List.mem_append_left _ he)
    have hd := hdevices d (List.mem_append_right _ (List.mem_singleton_self d))
    have hbefore : (run importer.orphanOne mid devices).failure = none := by
      by_contra hfailed
      have hsame : importer.orphanOne (run importer.orphanOne mid devices) d =
          run importer.orphanOne mid devices := if_pos (Option.isSome_iff_ne_none.mpr hfailed)
      rw [hsame] at h
      exact hfailed h
    have horphans := (Importer.orphanMissing_orphans hprefix hbefore).2
    exact (ih hprefix hbefore).trans (horphans.orphanOne_later hd h)

/-- An import that returns leaves everything settled. -/
theorem Importer.sync_repeats {importer : Importer} {before : Registry}
    {discovered : List DiscoveredDevice} (h : (importer.sync before discovered).failure = none) :
    ∃ seenRefs, Repeats importer discovered (importer.sync before discovered).registry seenRefs
      (importer.sync before discovered).report.skipped := by
  obtain ⟨hmid, horphans⟩ := orphanMissing_orphans (fun _ hd => hd) h
  have hrepeats := (importAll_repeats hmid).later (Orphans.later (fun _ hd => hd) h)
  refine ⟨(importer.importAll before discovered).seenRefs, ?_⟩
  have hskipped : (importer.sync before discovered).report.skipped =
      (importer.importAll before discovered).report.skipped := by
    show (run importer.orphanOne _ _).report.skipped = _
    rw [horphans.report]
  rw [hskipped]
  exact hrepeats

/-! ### The second import -/

/-- Every device that is come across has the name it would be given now, unless the owner gave
it one. -/
def NamesSettled (provider : String) (registry : Registry) (discovered : List DiscoveredDevice) : Prop :=
  ∀ ref found, firstOf discovered ref = some found →
    ∀ current, registry.imported provider found.externalRef = some current →
      .name ∉ current.overrides →
        uniqueName registry (areaIdIn registry found.areaName) (clipName found.name)
          (some current.deviceId) = some current.name

/-- A pass that has not written anything. -/
structure Idle (registry : Registry) (pass : Pass) : Prop where
  registry : pass.registry = registry
  written : pass.written = []
  failure : pass.failure = none
  added : pass.report.added = []
  updated : pass.report.updated = []
  orphaned : pass.report.orphaned = []

section Second

variable {importer : Importer} {registry : Registry} {discovered done : List DiscoveredDevice} {pass : Pass}
  {found : DiscoveredDevice}

theorem Idle.skip (h : Idle registry pass) (ref : String) (reason : SkipReason) :
    Idle registry (pass.skip ref reason) :=
  ⟨h.registry, h.written, h.failure, h.added, h.updated, h.orphaned⟩

theorem Idle.ensureArea (h : Idle registry pass) (hsettled : Settled importer registry found) :
    Idle registry (pass.ensureArea importer found.areaName).1 ∧
      (pass.ensureArea importer found.areaName).2 = areaIdIn registry found.areaName := by
  have harea := hsettled.area
  unfold Pass.ensureArea areaIdIn
  rw [h.registry]
  cases hname : areaWanted found.areaName with
  | none => exact ⟨h, rfl⟩
  | some name =>
    cases hnamed : registry.areaNamed (clipName name) with
    | some area => exact ⟨by simpa only [hnamed] using h, by simp [hnamed]⟩
    | none =>
      have hfull := harea name hname hnamed
      simp only [hnamed, if_pos hfull, Option.bind_some, Option.map_none, and_true]
      exact h.skip _ _

/-- What shows what was found has the facts that would be written. -/
theorem proposed_facts {areaId : Option AreaId} {current : Device} {name : String}
    (hshows : current.Shows importer.provider found) (hsource : current.source = "imported")
    (harea : .areaId ∉ current.overrides → current.areaId = areaId)
    (hname : .name ∉ current.overrides → current.name = name) :
    (importer.proposed found areaId current name).facts = current.facts := by
  have hareaId : (if .areaId ∈ current.overrides then current.areaId else areaId) = current.areaId := by
    split
    · rfl
    · next hfree => exact (harea hfree).symm
  have hnamed : (if .name ∈ current.overrides then current.name else name) = current.name := by
    split
    · rfl
    · next hfree => exact (hname hfree).symm
  simp only [Device.facts, Importer.proposed, hareaId, hnamed, ← hshows.type, ← hshows.traits,
    ← hshows.limits, ← hsource, ← hshows.present]

theorem Idle.importDevice (h : Idle registry pass) (hsettled : Settled importer registry found)
    (hnames : ∀ current, registry.imported importer.provider found.externalRef = some current →
      .name ∉ current.overrides →
        uniqueName registry (areaIdIn registry found.areaName) (clipName found.name)
          (some current.deviceId) = some current.name) :
    Idle registry (importer.importDevice found (areaIdIn registry found.areaName) pass) := by
  unfold Importer.importDevice
  rw [h.registry]
  cases hcurrent : registry.imported importer.provider found.externalRef with
  | none =>
    simp only [if_pos (hsettled.full hcurrent)]
    exact h.skip _ _
  | some current =>
    obtain ⟨hshows, hsource, harea⟩ := hsettled.shows current hcurrent
    have hname : nameFor registry found (areaIdIn registry found.areaName) current = some current.name := by
      unfold nameFor
      split
      · rfl
      · next hfree => exact hnames current hcurrent hfree
    simp only [hname, if_pos (proposed_facts hshows hsource harea fun _ => rfl)]
    exact h

/-- One turn more that finds nothing to write. -/
theorem Idle.importOne (h : Idle registry pass) (hsettled : Settled importer registry found)
    (hnames : ∀ current, registry.imported importer.provider found.externalRef = some current →
      .name ∉ current.overrides →
        uniqueName registry (areaIdIn registry found.areaName) (clipName found.name)
          (some current.deviceId) = some current.name)
    (hnew : found.externalRef ∉ pass.seenRefs) : Idle registry (importer.importOne pass found) := by
  have hsee : Idle registry (pass.see found.externalRef) :=
    ⟨h.registry, h.written, h.failure, h.added, h.updated, h.orphaned⟩
  obtain ⟨harea, hareaId⟩ := hsee.ensureArea hsettled
  have hpass : pass.failure.isSome ≠ true := by simp [h.failure]
  have hmid : ((pass.see found.externalRef).ensureArea importer found.areaName).1.failure.isSome ≠ true := by
    simp [harea.failure]
  unfold Importer.importOne Importer.importNew
  rw [if_neg hpass, if_neg hnew]
  dsimp only
  rw [if_neg hmid, hareaId]
  exact harea.importDevice hsettled hnames

theorem importAll_idle (hsettled : ∀ ref found, firstOf discovered ref = some found →
      Settled importer registry found) (hnames : NamesSettled importer.provider registry discovered) :
    Idle registry (importer.importAll registry discovered) := by
  induction discovered using List.reverseRec with
  | nil => exact ⟨rfl, rfl, rfl, rfl, rfl, rfl⟩
  | append_singleton discovered found ih =>
    have hidle := ih (fun ref f hf => hsettled ref f (Repeats.mem_of_firstOf_concat hf))
      (fun ref f hf => hnames ref f (Repeats.mem_of_firstOf_concat hf))
    have hseen := (Importer.importAll_repeats hidle.failure).seen
    unfold Importer.importAll at hidle hseen ⊢
    rw [run_concat]
    by_cases hold : found.externalRef ∈ (run importer.importOne { registry } discovered).seenRefs
    · rw [Importer.importOne_seen hidle.failure hold]
      exact hidle.skip _ _
    · have hfirst : firstOf (discovered ++ [found]) found.externalRef = some found :=
        Repeats.firstOf_concat_self fun f hf href => hold ((hseen _).mpr ⟨f, hf, href⟩)
      exact hidle.importOne (hsettled _ found hfirst) (hnames _ found hfirst) hold

theorem run_orphanOne_idle {devices : List Device}
    (hmissing : ∀ d ∈ devices, ¬importer.Missing pass.seenRefs d) : run importer.orphanOne pass devices = pass := by
  induction devices with
  | nil => rfl
  | cons d devices ih =>
    rw [List.forall_mem_cons] at hmissing
    have hnone : importer.orphanOne pass d = pass := by
      unfold Importer.orphanOne
      split
      · rfl
      · exact if_neg hmissing.1
    rw [run_cons, hnone]
    exact ih hmissing.2

/-- A turn that writes nothing leaves every name as it would be given. -/
theorem names_of_idle {areaId : Option AreaId} {mid next : Pass}
    (hareas : AreaTurn importer (pass.see found.externalRef) found.areaName mid areaId)
    (hturn : Turn importer found areaId mid next) (hwritten : next.written = []) {current : Device}
    (hcurrent : pass.registry.imported importer.provider found.externalRef = some current)
    (hfree : .name ∉ current.overrides) :
    uniqueName pass.registry (areaIdIn pass.registry found.areaName) (clipName found.name)
      (some current.deviceId) = some current.name := by
  have hmid : mid.registry = pass.registry := by
    cases hareas with
    | created hname hmissing hroom harea hwrite =>
      cases hturn <;> simp [Pass.skip] at hwritten
    | _ => rfl
  have hareaId := hareas.lookup.1
  rw [hmid] at hareaId
  rw [← hmid] at hcurrent
  cases hturn with
  | full hmissing => exact nomatch hmissing.symm.trans hcurrent
  | added => simp at hwritten
  | @same current' name hcurrent' hname hfacts =>
    obtain rfl := Option.some.inj (hcurrent'.symm.trans hcurrent)
    have hsame := congrArg Device.name hfacts
    simp only [Device.facts, Importer.proposed, if_neg hfree] at hsame
    unfold nameFor at hname
    rw [if_neg hfree, hmid, ← hareaId] at hname
    rw [hname, hsame]
  | updated => simp at hwritten

end Second

theorem importAll_failure {discovered : List DiscoveredDevice} {found : DiscoveredDevice} {pass : Pass}
    {importer : Importer} {rest : List DiscoveredDevice}
    (h : (run importer.importOne pass (discovered ++ found :: rest)).failure = none) :
    (importer.importOne (run importer.importOne pass discovered) found).failure = none := by
  by_contra hfailed
  rw [run_append, run_cons, Importer.run_importOne_failed hfailed] at h
  exact hfailed h

/-- An import that writes nothing finds every name as it would be given. -/
theorem namesSettled_of_idle {importer : Importer} {registry : Registry}
    {discovered : List DiscoveredDevice} (h : Idle registry (importer.sync registry discovered)) :
    NamesSettled importer.provider registry discovered := by
  intro ref found hfirst current hcurrent hfree
  obtain ⟨href, pre, post, rfl, hpre⟩ := List.find?_eq_some_iff_append.mp hfirst
  have hreturns := (Importer.orphanMissing_orphans (fun _ hd => hd) h.failure).1
  have hnext := importAll_failure hreturns
  set pass := run importer.importOne { registry } pre with hpass
  -- nothing was written on the way here, nor is anything now
  have hafter : Follows (importer.importOne pass found)
      (importer.sync registry (pre ++ found :: post)) := by
    have hrest := run_follows (importOne_follows importer) post (importer.importOne pass found)
    have horphans := run_follows (orphanOne_follows importer)
      (importer.importAll registry (pre ++ found :: post)).registry.devices.rows
      (importer.importAll registry (pre ++ found :: post))
    have hall : importer.importAll registry (pre ++ found :: post) =
        run importer.importOne (importer.importOne pass found) post := by
      unfold Importer.importAll
      rw [run_append, run_cons]
    rw [← hall] at hrest
    exact hrest.trans horphans
  have hwritten : (importer.importOne pass found).written = [] :=
    List.prefix_nil.mp (h.written ▸ hafter.1)
  have hbefore := run_follows (importOne_follows importer) pre { registry }
  have hstep := importOne_follows importer pass found
  have hregistry : pass.registry = registry := by
    rcases hbefore.2 with heq | hmem
    · exact heq
    · have hnone : pass.written = [] := List.prefix_nil.mp (hwritten ▸ hstep.1)
      rw [← hpass, hnone] at hmem
      exact absurd hmem List.not_mem_nil
  have hnew : found.externalRef ∉ pass.seenRefs := by
    intro hold
    obtain ⟨f, hf, heq⟩ :=
      ((Importer.importAll_repeats (Importer.importOne_turn hnext).1).seen found.externalRef).mp hold
    have hother := hpre f hf
    simp [heq, of_decide_eq_true href] at hother
  obtain ⟨-, ⟨hold, -⟩ | ⟨-, hareas, hturn⟩⟩ := Importer.importOne_turn hnext
  · exact absurd hold hnew
  · have hnames := names_of_idle hareas hturn hwritten (hregistry ▸ hcurrent) hfree
    rwa [hregistry] at hnames

/-- An import that finds everything settled writes nothing. -/
theorem idle_of_namesSettled {importer : Importer} {registry : Registry}
    {discovered : List DiscoveredDevice}
    (hsettled : ∀ ref found, firstOf discovered ref = some found → Settled importer registry found)
    (hmissing : ∀ d ∈ registry.devices, d.provider = importer.provider →
      (∀ found ∈ discovered, d.providerRef ≠ some found.externalRef) → d.orphaned = true)
    (hnames : NamesSettled importer.provider registry discovered) :
    Idle registry (importer.sync registry discovered) := by
  have hidle := importAll_idle hsettled hnames
  have hrest : importer.orphanMissing (importer.importAll registry discovered) =
      importer.importAll registry discovered := by
    refine run_orphanOne_idle fun d hd hd' => ?_
    rw [hidle.registry] at hd
    have horphaned := hmissing d hd hd'.1 fun found hfound =>
      hd'.2.1 _ (((Importer.importAll_repeats hidle.failure).seen _).mpr ⟨found, hfound, rfl⟩)
    rw [hd'.2.2] at horphaned
    cases horphaned
  unfold Importer.sync
  rw [hrest]
  exact ⟨hidle.registry, hidle.written, hidle.failure, hidle.added, hidle.updated, hidle.orphaned⟩

/-- **A second import writes nothing**, exactly if every device has the name it would be given
now. -/
theorem import_idempotent (importer : Importer) (before : Registry) (discovered : List DiscoveredDevice)
    (h : (importer.sync before discovered).failure = none) (later : Millis) (accepts : Registry → Bool) :
    let first := importer.sync before discovered
    let second := { importer with nowMs := later, accepts := accepts : Importer }.sync first.registry discovered
    (Idle first.registry second ∧ second.report.revision = first.registry.revision ∧
        second.report.skipped = first.report.skipped) ↔
      NamesSettled importer.provider first.registry discovered := by
  intro first second
  constructor
  · rintro ⟨hidle, -⟩
    have hnames := namesSettled_of_idle hidle
    exact hnames
  · intro hnames
    obtain ⟨seenRefs, hrepeats⟩ := Importer.sync_repeats h
    have hidle : Idle first.registry second := by
      refine idle_of_namesSettled (fun ref found hfound => ?_) ?_ hnames
      · have hsettled := hrepeats.settled ref found hfound
        exact ⟨hsettled.area, hsettled.full, hsettled.shows⟩
      · intro d hd hprovider hnew
        exact ((import_respects importer before discovered h).missing d hd hprovider hnew).1
    obtain ⟨seenRefs', hrepeats'⟩ := Importer.sync_repeats hidle.failure
    refine ⟨hidle, congrArg Registry.revision hidle.registry, ?_⟩
    have hskips := hrepeats'.skips
    rw [hidle.registry] at hskips
    exact congrArg Prod.snd (hskips.symm.trans hrepeats.skips)

/-! ### Names that are exchanged -/

namespace Sample

/-- Two lamps in one room. -/
def twins : Registry :=
  (importer.sync empty [found "a" "Light2" (some "Hall"), found "b" "Light" (some "Hall")]).registry

/-- Their names are exchanged. -/
def exchanged : List DiscoveredDevice :=
  [found "a" "Light" (some "Hall"), found "b" "Light2" (some "Hall")]

end Sample

theorem import_renames_again :
    let first := Sample.importer.sync Sample.twins Sample.exchanged
    let second := Sample.importer.sync first.registry Sample.exchanged
    first.failure = none ∧ second.report.updated = ["homeassistant:acc.a", "homeassistant:acc.b"] ∧
      second.registry.revision = first.registry.revision + 2 := by
  decide +kernel

theorem import_idempotent_twins :
    let first := Sample.importer.sync Sample.twins Sample.moved
    let second := { Sample.importer with nowMs := 1 }.sync first.registry Sample.moved
    (Idle first.registry second ∧ second.report.revision = first.registry.revision ∧
        second.report.skipped = first.report.skipped) ↔
      NamesSettled Sample.importer.provider first.registry Sample.moved :=
  import_idempotent Sample.importer Sample.twins Sample.moved (by decide +kernel) 1 _

end EidolonHub.SmartHome.Import
