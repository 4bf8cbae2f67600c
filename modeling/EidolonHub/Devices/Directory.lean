import EidolonHub.Devices.Domain

/-!
# EidolonHub.Devices.Directory

**The public directory entry of a device**: what `ProjectDeviceDirectory` shows of the aggregate.
-/

namespace EidolonHub.Devices

open EidolonHub.Library.Python EidolonHub.Admission

/-- What `DeviceDirectoryEntry.__post_init__` raises, if it raises. -/
def entryProblem (deviceId : DeviceInstanceId) (ownerScope : String)
    (ownerDomainGeneration claimGeneration trustEpoch : Nat) : Option String :=
  if strip deviceId = "" ∨ strip ownerScope = "" then
    some "directory device_id and owner_scope are required"
  else if min ownerDomainGeneration (min claimGeneration trustEpoch) < 1 then
    some "directory Owner, claim and trust generations must be positive"
  else none

/-- `DeviceDirectoryEntry`. -/
structure DirectoryEntry (crypto : Crypto) where
  deviceId : DeviceInstanceId
  ownerScope : String
  displayName : String
  manifestId : String
  manifest : DeviceManifestDocument crypto
  lifecycleState : LifecycleState
  enrolledAt : Timestamp
  updatedAt : Timestamp
  ownerDomainGeneration : Nat
  ownerDomainId : OwnerDomainId
  claimGeneration : Nat
  trustEpoch : Nat
  valid : entryProblem deviceId ownerScope ownerDomainGeneration claimGeneration trustEpoch = none
  deriving DecidableEq

variable {crypto : Crypto} {presentation : Presentation}

/-- `device.owner_id or "unclaimed"`. -/
def ManagedDevice.ownerScope (device : ManagedDevice crypto presentation) : String :=
  if device.ownerId = "" then "unclaimed" else device.ownerId

/-- An aggregate passes the checks of its entry. -/
theorem ManagedDevice.entry_valid (device : ManagedDevice crypto presentation) :
    entryProblem device.deviceId device.ownerScope device.ownerDomainGeneration
      device.claimGeneration device.trustEpoch = none := by
  have hvalid := device.valid
  unfold deviceProblem at hvalid
  split_ifs at hvalid with hid _ howner hmin hnone
  have hscope : strip device.ownerScope ≠ "" := by
    unfold ManagedDevice.ownerScope
    split
    · decide +kernel
    · simpa using howner
  unfold entryProblem
  rw [if_neg (not_or.mpr ⟨hid, hscope⟩), if_neg (by omega)]

/-- The projection of `ProjectDeviceDirectory.execute`. -/
def ManagedDevice.entry (device : ManagedDevice crypto presentation) : DirectoryEntry crypto where
  deviceId := device.deviceId
  ownerScope := device.ownerScope
  displayName := device.displayName
  manifestId := device.manifestId
  manifest := device.manifest
  lifecycleState := device.lifecycleState
  enrolledAt := device.enrolledAt
  updatedAt := device.updatedAt
  ownerDomainGeneration := device.ownerDomainGeneration
  ownerDomainId := device.ownerDomainId
  claimGeneration := device.claimGeneration
  trustEpoch := device.trustEpoch
  valid := device.entry_valid

end EidolonHub.Devices
