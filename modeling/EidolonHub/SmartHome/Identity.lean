import EidolonHub.Library.Slug
import EidolonHub.SmartHome.ImportFrame
import EidolonHub.SmartHome.Zhoubian

/-!
# EidolonHub.SmartHome.Identity

**Which devices of a platform share an identity.** What the platform calls a device is joined,
brought into the identifier characters and cut, for the reference; account and reference are
joined, brought into those characters and cut again, for the id in the registry. Neither step
can be undone. Two devices keep apart where their texts differ in a place, or a mark, that is
kept; where they do not, an import skips the second one or its creation is refused.
-/

namespace EidolonHub.SmartHome.Zhoubian

open EidolonHub.Library EidolonHub.Library.Python EidolonHub.Library.Slug
open EidolonHub.SmartHome.Import

/-! ### When the texts differ -/

/-- A place within the length of a reference tells the two texts apart. -/
def RefsApart (letters : Letters) (id id' : PlatformId) : Prop :=
  ∃ i < refMax, ¬Blurred (outside letters) '-' id.text.toList[i]? id'.text.toList[i]?

/-- What `_IDENT` matches. -/
def notIdent (c : Char) : Bool := !isIdent c

/-- The marks within the length of an id tell the two texts apart. -/
def IdsApart (provider externalRef provider' externalRef' : String) : Prop :=
  ¬SameMarks notIdent '-' idMax (provider ++ "." ++ externalRef).toList (provider' ++ "." ++ externalRef').toList

theorem externalRef_ne_iff (letters : Letters) (id id' : PlatformId) :
    externalRef letters id ≠ externalRef letters id' ↔ RefsApart letters id id' := by
  unfold externalRef sliceTo RefsApart
  rw [Ne, String.ofList_inj, String.toList_ofList, String.toList_ofList,
    take_map_fillChar_eq_iff]
  simp only [not_forall, exists_prop]

theorem deviceId_ne_iff (provider ref provider' ref' : String) :
    deviceId provider ref ≠ deviceId provider' ref' ↔ IdsApart provider ref provider' ref' := by
  unfold deviceId ident sliceTo subRuns IdsApart
  rw [Ne, String.ofList_inj, String.toList_ofList, String.toList_ofList]
  exact (take_subRunsFrom_eq_iff (by decide)).not

/-! ### What an import makes of it -/

/-- A row is a duplicate where an earlier one has a reference that is not apart from its own. -/
theorem seen_iff {letters : Letters} {importer : Importer} {registry : Import.Registry} {rows : List PlatformRow}
    {row : PlatformRow}
    (h : (importer.importAll registry (discover letters rows).1).failure = none) :
    (row.found letters).externalRef ∈ (importer.importAll registry (discover letters rows).1).seenRefs ↔
      ∃ earlier ∈ rows, ¬RefsApart letters earlier.id row.id := by
  rw [(Importer.importAll_imports h).seen]
  have hsame : ∀ earlier : PlatformRow, (earlier.found letters).externalRef = (row.found letters).externalRef ↔
      ¬RefsApart letters earlier.id row.id := fun earlier => by
    rw [← externalRef_ne_iff, not_ne_iff]
    rfl
  simp [discover, hsame]

/-- Data refuses to create a device where another one has an id that is not apart from its own. -/
theorem createDevice_eq_none_iff {registry : Import.Registry} {importer : Importer} {found : DiscoveredDevice}
    {areaId : Option AreaId} {name : String}
    (h : ∀ d ∈ registry.devices, ∃ ref, d.providerRef = some ref ∧ d.deviceId = deviceId d.provider ref) :
    registry.createDevice (importer.created found areaId name) = none ↔
      ∃ d ∈ registry.devices, ∃ ref, d.providerRef = some ref ∧
        ¬IdsApart d.provider ref importer.provider found.externalRef := by
  have hid : ∀ d ∈ registry.devices, Keyed.clash d (importer.created found areaId name) = true ↔
      ∃ ref, d.providerRef = some ref ∧ ¬IdsApart d.provider ref importer.provider found.externalRef := by
    intro d hd
    obtain ⟨ref, href, hdevice⟩ := h d hd
    simp only [← deviceId_ne_iff, not_ne_iff, href, Option.some.injEq, exists_eq_left', ← hdevice]
    exact decide_eq_true_iff
  unfold Import.Registry.createDevice
  rw [Option.map_eq_none_iff]
  constructor
  · intro hnone
    by_contra hfree
    obtain ⟨devices, hdevices⟩ := Table.insert?_isSome fun d hd => by
      rw [← Bool.not_eq_true, hid d hd]
      exact fun hclash => hfree ⟨d, hd, hclash⟩
    exact nomatch hnone.symm.trans hdevices
  · intro ⟨d, hd, hclash⟩
    by_contra hsome
    obtain ⟨devices, hdevices⟩ := Option.ne_none_iff_exists'.mp hsome
    have hfree := (Table.insert?_eq_some_iff.mp hdevices).1 d hd
    rw [(hid d hd).mpr hclash] at hfree
    cases hfree

/-- **Two devices have identities of their own exactly where their texts differ in what is kept**:
two references of a platform, and two ids in the registry. An import skips a row whose reference
is not apart from an earlier one's, and is refused a device whose id is not apart from another's. -/
theorem identities_distinct (letters : Letters) :
    (∀ id id' : PlatformId, externalRef letters id ≠ externalRef letters id' ↔ RefsApart letters id id') ∧
    (∀ provider ref provider' ref' : String,
      deviceId provider ref ≠ deviceId provider' ref' ↔ IdsApart provider ref provider' ref') ∧
    (∀ (importer : Importer) (registry : Import.Registry) (rows : List PlatformRow) (row : PlatformRow),
      (importer.importAll registry (discover letters rows).1).failure = none →
        ((row.found letters).externalRef ∈ (importer.importAll registry (discover letters rows).1).seenRefs ↔
          ∃ earlier ∈ rows, ¬RefsApart letters earlier.id row.id)) ∧
    (∀ (importer : Importer) (registry : Import.Registry) (found : DiscoveredDevice) (areaId : Option AreaId)
        (name : String),
      (∀ d ∈ registry.devices, ∃ ref, d.providerRef = some ref ∧ d.deviceId = deviceId d.provider ref) →
        (registry.createDevice (importer.created found areaId name) = none ↔
          ∃ d ∈ registry.devices, ∃ ref, d.providerRef = some ref ∧
            ¬IdsApart d.provider ref importer.provider found.externalRef)) :=
  ⟨externalRef_ne_iff letters, deviceId_ne_iff, fun _ _ _ _ => seen_iff, fun _ _ _ _ _ => createDevice_eq_none_iff⟩

/-! ### Devices that share one -/

namespace Sample

/-- A table of letters that knows the ASCII ones. -/
def ascii : Letters := ⟨Char.isAlphanum, id⟩

/-- A lamp with a name in letters that no id keeps, and a switch with a resource. -/
def rows : List PlatformRow := [{ id := ⟨"灯", none⟩ }, { id := ⟨"lamp", some "1"⟩ }]

/-- An account of the platform, whose creations Data accepts. -/
def importer : Importer := { Import.Sample.importer with provider := "zhoubian:acc" }

/-- The home once they are imported. -/
def home : Import.Registry := (importer.sync Import.Sample.empty (discover ascii rows).1).registry

end Sample

/-- A third row that reads like the switch is skipped, and a device whose name reads like the lamp's is
refused. -/
theorem identities_distinct_lamps :
    ((PlatformRow.found Sample.ascii { id := ⟨"lamp.1", none⟩ }).externalRef ∈
        (Sample.importer.importAll Import.Sample.empty (discover Sample.ascii Sample.rows).1).seenRefs ↔
      ∃ earlier ∈ Sample.rows, ¬RefsApart Sample.ascii earlier.id ⟨"lamp.1", none⟩) ∧
    (Sample.home.createDevice (Sample.importer.created (Import.Sample.found "扇" "Fan" none) none "Fan") = none ↔
      ∃ d ∈ Sample.home.devices, ∃ ref, d.providerRef = some ref ∧
        ¬IdsApart d.provider ref Sample.importer.provider "扇") := by
  obtain ⟨-, -, hskips, hrefuses⟩ := identities_distinct Sample.ascii
  have hids : ∀ d ∈ Sample.home.devices.rows,
      d.providerRef.any (fun ref => d.deviceId = deviceId d.provider ref) = true := by decide +kernel
  refine ⟨hskips Sample.importer Import.Sample.empty Sample.rows _ (by decide +kernel),
    hrefuses Sample.importer Sample.home _ none "Fan" fun d hd => ?_⟩
  obtain ⟨ref, href, hid⟩ := (Option.any_eq_true _ _).mp (hids d hd)
  exact ⟨ref, href, of_decide_eq_true hid⟩

/-- A switch with a resource and a switch whose id reads the same; two devices named in letters
that no id keeps. -/
theorem identities_clash :
    ¬(∀ (letters : Letters) (id id' : PlatformId), id ≠ id' →
      externalRef letters id ≠ externalRef letters id') ∧
    ¬(∀ provider ref provider' ref' : String, (provider, ref) ≠ (provider', ref') →
      deviceId provider ref ≠ deviceId provider' ref') := by
  constructor
  · intro h
    exact h Sample.ascii ⟨"lamp", some "1"⟩ ⟨"lamp.1", none⟩ (by decide) (by decide +kernel)
  · intro h
    exact h "zhoubian:acc" "灯" "zhoubian:acc" "扇" (by decide) (by decide +kernel)

end EidolonHub.SmartHome.Zhoubian
