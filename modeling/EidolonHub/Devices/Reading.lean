import EidolonHub.Devices.Coherence
import EidolonHub.Library.Query

/-!
# EidolonHub.Devices.Reading

**The read of one device**, as the Kernel makes it: the reader token, the entry in memory for the owner
scope it names, and what goes over the wire. In every order of the steps of all calls, what is answered is
the projection of a row the device has or had in this run, and goes only to the scope that had it then.
-/

namespace EidolonHub.Devices

open EidolonHub.Library EidolonHub.Library.Python EidolonHub.Library.Query EidolonHub.Admission

/-! ### The reader token -/

/-- `ManagementPermission` -/
inductive ManagementPermission where
  | deviceGet
  | claimEvents
deriving DecidableEq

/-- What a read is refused with, by the exception. -/
inductive ReadError where
  | permission (message : String)
  | key (deviceId : DeviceInstanceId)
  | value (message : String)
  /-- a `TypeError` of `hmac.compare_digest` -/
  | type
deriving DecidableEq

/-- `ManagementPrincipal` -/
structure ManagementPrincipal where
  subjectId : String
  ownerId : Option String
  roles : List String
deriving DecidableEq

/-- `str.lower()`, of a text that is compared with one of ASCII: no character outside of it has one of
the letters of that text as its lower case. -/
def lower (s : String) : String := String.ofList (s.toList.map Char.toLower)

/-- `str.isascii`. -/
def isAscii (s : String) : Bool := s.toList.all fun c => c.toNat < 128

/-- `hmac.compare_digest`; `none` where it raises. -/
def compareDigest (a b : String) : Option Bool :=
  if isAscii a && isAscii b then some (decide (a = b)) else none

/-- `DeviceRegistryReaderAuthorizer`, with a token of at least 32 bytes. -/
structure RegistryReader where
  token : String
  long : 32 ≤ token.utf8ByteSize

/-- `authorize` -/
def RegistryReader.authorize (reader : RegistryReader) (credential : String)
    (permission : ManagementPermission) (ownerScope deviceId : Option String) :
    Except ReadError ManagementPrincipal :=
  match partition ' ' credential with
  | (scheme, separator, token) =>
    if ¬ separator ∨ lower scheme ≠ "bearer" ∨ token = "" then
      .error (.permission "Bearer management credential required")
    else
      match compareDigest token reader.token with
      | none => .error .type
      | some false => .error (.permission "management credential is not recognized")
      | some true =>
        if ¬ (permission = .deviceGet ∧ ownerScope.isSome ∧ deviceId.isSome) ∧ permission ≠ .claimEvents then
          .error (.permission "device registry reader is limited to exact reads and Claim events")
        else .ok ⟨"eidolon-kernel/device-authority", none, ["device-registry-reader"]⟩

/-- A credential with the token of the reader. -/
def RegistryReader.Accepts (reader : RegistryReader) (credential : String) : Prop :=
  ∃ scheme, credential = scheme ++ " " ++ reader.token ∧ lower scheme = "bearer"

/-- Nothing is authorized without the token. -/
theorem RegistryReader.accepts_of_authorize {reader : RegistryReader} {credential : String}
    {permission : ManagementPermission} {ownerScope deviceId : Option String}
    {principal : ManagementPrincipal}
    (h : reader.authorize credential permission ownerScope deviceId = .ok principal) :
    reader.Accepts credential := by
  unfold authorize at h
  obtain ⟨⟨scheme, separator, token⟩, hparts⟩ : ∃ parts, partition ' ' credential = parts := ⟨_, rfl⟩
  rw [hparts] at h
  dsimp only at h
  by_cases hbearer : ¬ separator = true ∨ lower scheme ≠ "bearer" ∨ token = ""
  · rw [if_pos hbearer] at h
    cases h
  rw [if_neg hbearer] at h
  simp only [not_or, Bool.not_eq_true, Bool.not_eq_false, not_not] at hbearer
  obtain ⟨hseparator, hscheme, -⟩ := hbearer
  cases hcompare : compareDigest token reader.token with
  | none => simp [hcompare] at h
  | some same =>
    cases same with
    | false => simp [hcompare] at h
    | true =>
      unfold compareDigest at hcompare
      split_ifs at hcompare
      obtain rfl : token = reader.token := by simpa using hcompare
      rw [hseparator] at hparts
      exact ⟨scheme, partition_eq hparts, hscheme⟩

/-! ### What goes over the wire -/

/-- An entry of `ValidationError.errors()`. -/
structure Reason where
  loc : List String
  msg : String

/-- `_unreadable_because` -/
def unreadableBecause (errors : List Reason) : String :=
  let reasons := String.intercalate "; " ((errors.take 8).map fun item =>
    (if String.intercalate "." item.loc = "" then "document" else String.intercalate "." item.loc) ++
      ": " ++ item.msg)
  if reasons = "" then "the stored document does not match this vocabulary"
  else if reasons.length ≤ 512 then reasons
  else sliceTo 511 reasons ++ "…"

/-- The check of a text field of a contract model: `min_length` and `max_length`. -/
def fits (least most : Nat) (text : String) : Prop := least ≤ text.length ∧ text.length ≤ most

instance (least most : Nat) (text : String) : Decidable (fits least most text) :=
  inferInstanceAs (Decidable (_ ∧ _))

/-- **A reason can always be shown**: it passes the check of the field it is put in. -/
theorem fits_unreadableBecause (errors : List Reason) : fits 1 512 (unreadableBecause errors) := by
  unfold unreadableBecause
  dsimp only
  split_ifs with hempty hlength
  · decide
  · refine ⟨?_, hlength⟩
    by_contra hzero
    exact hempty (String.length_eq_zero_iff.mp (by omega))
  · have hslice (s : String) (hs : ¬ s.length ≤ 512) : (sliceTo 511 s ++ "…").length = 512 := by
      rw [String.length_append]
      unfold sliceTo
      rw [String.length_ofList, List.length_take, String.length_toList]
      have hmark : "…".length = 1 := by decide
      omega
    rw [fits, hslice _ hlength]
    omega

/-- How the directory reads a stored Manifest: with its own vocabulary, or as a foreign one. -/
inductive WireManifest (μ : Type) where
  | device (manifest : μ)
  | foreign (detail : String)

/-- `DeviceManifest.model_validate_json` -/
abbrev Vocabulary (μ : Type) : Type := String → Except (List Reason) μ

variable {crypto : Crypto} {μ : Type}

/-- `manifest_to_wire` -/
def manifestToWire (vocabulary : Vocabulary μ) (document : DeviceManifestDocument crypto) : WireManifest μ :=
  match vocabulary document.canonicalJson with
  | .ok manifest => .device manifest
  | .error errors => .foreign (unreadableBecause errors)

/-- `DeviceDirectoryEntry` of the contract. -/
structure WireEntry (μ : Type) where
  deviceId : String
  ownerScope : String
  displayName : String
  deviceKind : String
  manifest : WireManifest μ
  manifestRevision : String
  lifecycleState : LifecycleState
  enrolledAt : Timestamp
  updatedAt : Timestamp
  deviceRef : DeviceRef

/-- The fields of an entry pass the checks of the contract. -/
def WireEntry.Fits (entry : WireEntry μ) : Prop :=
  fits 1 128 entry.deviceId ∧ fits 1 64 entry.ownerScope ∧ fits 0 128 entry.displayName ∧
    fits 1 96 entry.deviceKind ∧ fits 1 128 entry.manifestRevision

instance (entry : WireEntry μ) : Decidable entry.Fits := inferInstanceAs (Decidable (_ ∧ _))

/-- `device_ref` of an entry. -/
def DirectoryEntry.deviceRef (entry : DirectoryEntry crypto) : DeviceRef where
  deviceInstanceId := entry.deviceId
  ownerDomainId := entry.ownerDomainId
  ownerDomainGeneration := entry.ownerDomainGeneration
  claimGeneration := entry.claimGeneration
  trustEpoch := entry.trustEpoch

/-- `directory_entry_to_wire`, before the checks. -/
def entryToWire (vocabulary : Vocabulary μ) (entry : DirectoryEntry crypto) : WireEntry μ where
  deviceId := entry.deviceId
  ownerScope := entry.ownerScope
  displayName := entry.displayName
  deviceKind := entry.manifestId
  manifest := manifestToWire vocabulary entry.manifest
  manifestRevision := entry.manifest.digest
  lifecycleState := entry.lifecycleState
  enrolledAt := entry.enrolledAt
  updatedAt := entry.updatedAt
  deviceRef := entry.deviceRef

/-! ### The route -/

/-- What a reader of the registry is answered with, by its status. -/
inductive ReadResponse (μ : Type) where
  | ok (entry : WireEntry μ)
  /-- 403 -/
  | forbidden (detail : String)
  /-- 404 -/
  | notFound
  /-- 500: a `ValueError`, a `TypeError`, or an entry that does not pass the checks of the contract -/
  | failed

/-- What the route answers. -/
def ReadResponse.of (vocabulary : Vocabulary μ) : Except ReadError (DirectoryEntry crypto) → ReadResponse μ
  | .ok entry => if (entryToWire vocabulary entry).Fits then .ok (entryToWire vocabulary entry) else .failed
  | .error (.key _) => .notFound
  | .error (.permission message) => .forbidden message
  | .error (.value _) | .error .type => .failed

/-- The entry is in the answer. -/
def ReadResponse.isOk : ReadResponse μ → Bool
  | .ok _ => true
  | _ => false

theorem ReadResponse.of_ok {vocabulary : Vocabulary μ} {answer : Except ReadError (DirectoryEntry crypto)}
    {wire : WireEntry μ} (h : ReadResponse.of vocabulary answer = .ok wire) :
    ∃ entry, answer = .ok entry ∧ entryToWire vocabulary entry = wire ∧ wire.Fits := by
  cases answer with
  | error e => cases e <;> cases h
  | ok entry =>
    unfold ReadResponse.of at h
    dsimp only at h
    split_ifs at h with hfits
    cases h
    exact ⟨entry, rfl, rfl, hfits⟩

namespace DeviceControl

variable {control : DeviceControl}

/-- `InMemoryDeviceDirectoryRepository.get` -/
def Directory.get (directory : control.Directory) (ownerScope : String) (deviceId : DeviceInstanceId) :
    Option (DirectoryEntry control.authority.crypto) :=
  (directory deviceId).filter (·.ownerScope = ownerScope)

/-- `GetDevice.execute` -/
def Directory.getDevice (directory : control.Directory) (ownerScope : String) (deviceId : DeviceInstanceId) :
    Except ReadError (DirectoryEntry control.authority.crypto) :=
  if strip ownerScope = "" ∨ strip deviceId = "" then
    .error (.value "owner_scope and device_id are required")
  else
    match directory.get ownerScope deviceId with
    | none => .error (.key deviceId)
    | some entry => .ok entry

/-- `get_directory_entry` -/
def getDirectoryEntry (reader : RegistryReader) (vocabulary : Vocabulary μ) (directory : control.Directory)
    (authorization ownerScope : String) (deviceId : DeviceInstanceId) : ReadResponse μ :=
  .of vocabulary do
    let _ ← reader.authorize authorization .deviceGet (some ownerScope) (some deviceId)
    directory.getDevice ownerScope deviceId

theorem Directory.getDevice_ok {directory : control.Directory} {ownerScope : String}
    {deviceId : DeviceInstanceId} {entry : DirectoryEntry control.authority.crypto}
    (h : directory.getDevice ownerScope deviceId = .ok entry) :
    directory deviceId = some entry ∧ entry.ownerScope = ownerScope := by
  unfold Directory.getDevice Directory.get at h
  split_ifs at h
  cases hentry : (directory deviceId).filter (·.ownerScope = ownerScope) with
  | none => simp [hentry] at h
  | some found =>
    obtain rfl : found = entry := by simpa [hentry] using h
    obtain ⟨hfound, hscope⟩ := Option.filter_eq_some_iff.mp hentry
    exact ⟨hfound, of_decide_eq_true hscope⟩

/-- What an answer is made of. -/
theorem getDirectoryEntry_ok {reader : RegistryReader} {vocabulary : Vocabulary μ}
    {directory : control.Directory} {authorization ownerScope : String} {deviceId : DeviceInstanceId}
    {wire : WireEntry μ}
    (h : getDirectoryEntry reader vocabulary directory authorization ownerScope deviceId = .ok wire) :
    reader.Accepts authorization ∧ ∃ entry, directory deviceId = some entry ∧
      entry.ownerScope = ownerScope ∧ entryToWire vocabulary entry = wire ∧ wire.Fits := by
  obtain ⟨entry, hanswer, hwire, hfits⟩ := ReadResponse.of_ok h
  obtain ⟨principal, hauthorize, hentry⟩ := except_bind_ok.mp hanswer
  obtain ⟨hfound, hscope⟩ := Directory.getDevice_ok hentry
  exact ⟨RegistryReader.accepts_of_authorize hauthorize, entry, hfound, hscope, hwire, hfits⟩

/-! ### Every order of steps -/

section Runs

variable {call : Nat → control.Call} {h : Hub} {directory : control.Directory} {turns : List (Turn LiveDraws)}
  {i : DeviceInstanceId} {entry : DirectoryEntry control.authority.crypto}

/-- The entry shows the row that the device has or had at some moment of the run. -/
def Shown (call : Nat → control.Call) (h : Hub) (directory : control.Directory) (turns : List (Turn LiveDraws))
    (i : DeviceInstanceId) (entry : DirectoryEntry control.authority.crypto) : Prop :=
  ∃ pre post, turns = pre ++ post ∧ ∃ device,
    control.getDevice (control.served call h directory pre).shared.hub i = .ok (some device) ∧
      device.entry = entry

theorem Shown.concat {turn : Turn LiveDraws} (hshown : Shown call h directory turns i entry) :
    Shown call h directory (turns ++ [turn]) i entry := by
  obtain ⟨pre, post, rfl, device, hread⟩ := hshown
  exact ⟨pre, post ++ [turn], by rw [List.append_assoc], device, hread⟩

/-- Only a projection reads a row for the directory, and only what it has read is stored. -/
theorem advance_other (call : Nat → control.Call) (c : Nat) (draws : LiveDraws) (s : control.Live)
    {stage : control.Stage}
    (hprojecting : ∀ i reply, stage ≠ .projecting i reply)
    (hupserting : ∀ device reply, stage ≠ .upserting device reply) :
    (control.advance call c draws s stage).1.directory = s.directory ∧
      ∀ device reply, (control.advance call c draws s stage).2 ≠ .upserting device reply := by
  cases stage with
  | fresh =>
    simp only [advance]
    split
    · exact ⟨rfl, fun _ _ => lookUp_stores⟩
    · exact ⟨rfl, by simp⟩
    · exact ⟨rfl, fun _ _ => afterControl_stores⟩
  | sweeping cmd fp =>
    simp only [advance]
    split <;> exact ⟨rfl, by simp⟩
  | acting cmd fp =>
    simp only [advance]
    split
    · exact ⟨rfl, by simp⟩
    · exact ⟨rfl, fun _ _ => afterCommand_stores⟩
  | controlling operation phase => exact ⟨rfl, fun _ _ => afterControl_stores⟩
  | projecting i reply => exact absurd rfl (hprojecting i reply)
  | upserting device reply => exact absurd rfl (hupserting device reply)
  | answered reply => exact ⟨rfl, by simp [advance]⟩

/-- What the directory shows, some row of the run was, and so was what a projection has read. -/
structure AllShown (call : Nat → control.Call) (h : Hub) (directory : control.Directory)
    (turns : List (Turn LiveDraws)) (p : Pool control.Live control.Stage) : Prop where
  entries : ∀ i entry, p.shared.directory i = some entry → Shown call h directory turns i entry
  reads : ∀ c device reply, p.phase c = .upserting device reply →
    Shown call h directory turns device.deviceId device.entry

theorem AllShown.step {p : Pool control.Live control.Stage} {turn : Turn LiveDraws}
    (hshown : AllShown call h directory turns p) (hp : p = control.served call h directory turns) :
    AllShown call h directory (turns ++ [turn]) (control.serve call p turn) := by
  have hothers {c : Nat} {device : control.Device} {reply : control.Reply} (hc : c ≠ turn.call)
      (hstage : (control.serve call p turn).phase c = .upserting device reply) :
      Shown call h directory (turns ++ [turn]) device.deviceId device.entry := by
    rw [Pool.step_phase_ne hc] at hstage
    exact (hshown.reads c device reply hstage).concat
  by_cases hprojecting : ∃ i reply, p.phase turn.call = .projecting i reply
  · -- a row is read
    obtain ⟨i, reply, hphase⟩ := hprojecting
    refine ⟨fun j entry hentry => ?_, fun c device reply' hstage => ?_⟩
    · rw [Pool.step_shared, hphase] at hentry
      simp only [advance] at hentry
      refine (hshown.entries j entry ?_).concat
      revert hentry
      split <;> exact id
    · by_cases hc : c = turn.call
      · subst hc
        rw [Pool.step_phase_self, hphase] at hstage
        simp only [advance] at hstage
        cases hread : control.getDevice p.shared.hub i with
        | error e => simp [hread] at hstage
        | ok found =>
          cases found with
          | none => simp [hread] at hstage
          | some found =>
            obtain ⟨rfl, -⟩ : found = device ∧ reply = reply' := by simpa [hread] using hstage
            obtain ⟨row, hrow, hdecode⟩ := getDevice_some.mp hread
            have hid : i = found.deviceId := (Table.get_key hrow).symm.trans (decode_deviceId hdecode)
            exact ⟨turns, [turn], rfl, found, hp ▸ hid ▸ hread, rfl⟩
      · exact hothers hc hstage
  by_cases hupserting : ∃ device reply, p.phase turn.call = .upserting device reply
  · -- what was read is stored
    obtain ⟨device, reply, hphase⟩ := hupserting
    refine ⟨fun j entry hentry => ?_, fun c device' reply' hstage => ?_⟩
    · rw [Pool.step_shared, hphase] at hentry
      simp only [advance, Directory.upsert] at hentry
      by_cases hj : j = device.deviceId
      · subst hj
        obtain rfl : device.entry = entry :=
          Option.some.inj ((Function.update_self device.entry.deviceId _ p.shared.directory).symm.trans hentry)
        exact (hshown.reads turn.call device reply hphase).concat
      · rw [Function.update_of_ne (show j ≠ device.entry.deviceId from hj)] at hentry
        exact (hshown.entries j entry hentry).concat
    · by_cases hc : c = turn.call
      · subst hc
        rw [Pool.step_phase_self, hphase] at hstage
        cases hstage
      · exact hothers hc hstage
  -- every other turn leaves the directory and reads no row
  · obtain ⟨hdirectory, hstores⟩ := advance_other call turn.call turn.draws p.shared
      (fun i reply hphase => hprojecting ⟨i, reply, hphase⟩)
      (fun device reply hphase => hupserting ⟨device, reply, hphase⟩)
    refine ⟨fun j entry hentry => ?_, fun c device reply hstage => ?_⟩
    · rw [Pool.step_shared, hdirectory] at hentry
      exact (hshown.entries j entry hentry).concat
    · by_cases hc : c = turn.call
      · subst hc
        rw [Pool.step_phase_self] at hstage
        exact absurd hstage (hstores device reply)
      · exact hothers hc hstage

theorem served_shown (call : Nat → control.Call) (hreach : control.Reachable h)
    (hhydrated : control.executeAll h (fun _ => none) = .ok directory) (turns : List (Turn LiveDraws)) :
    AllShown call h directory turns (control.served call h directory turns) := by
  have hstart : AllShown call h directory [] (control.opened h directory) := by
    refine ⟨fun i entry hentry => ?_, fun c device reply hphase => by cases hphase⟩
    obtain ⟨found, hread, hsame⟩ := (inv_opened hreach hhydrated).coherent (fun _ => trivial) i
    obtain ⟨device, rfl, rfl⟩ := Option.map_eq_some_iff.mp (hsame.symm.trans hentry)
    exact ⟨[], [], rfl, device, hread, rfl⟩
  exact run_history (I := fun turns p => p = control.served call h directory turns →
    AllShown call h directory turns p) (fun _ => hstart)
    (fun turns _ hbefore _ => (hbefore rfl).step rfl) turns rfl

/-- The scope of a claimed device is its owner. -/
theorem ownerScope_eq (device : control.Device) : device.ownerScope = device.ownerId := by
  have hvalid := device.valid
  unfold deviceProblem at hvalid
  split_ifs at hvalid with _ _ howner
  unfold ManagedDevice.ownerScope
  rw [if_neg]
  intro hempty
  rw [hempty] at howner
  exact howner (by decide +kernel)

/-- The row of a device, beside the Claim it belongs to. -/
theorem getDevice_claim {device : control.Device} (hsound : h.tables.registry.Sound control.authority)
    (hread : control.getDevice h i = .ok (some device)) :
    ∃ claim, h.tables.claims.get (·.deviceInstanceId) i = some claim ∧
      claim.businessOwnerId = device.ownerScope ∧ claim.claimGeneration = device.claimGeneration ∧
      (device.lifecycleState = .approved ↔ claim.state = .active) := by
  obtain ⟨row, hrow, hdecode⟩ := getDevice_some.mp hread
  obtain ⟨claim, hclaim, hshows⟩ := hsound.devices i row hrow
  have hcolumns := (decode_ok.mp hdecode).2.1
  have howner : some device.ownerId = some claim.businessOwnerId :=
    (congrArg DeviceRow.ownerId hcolumns).symm.trans hshows.owner
  have hgeneration : row.claimGeneration = device.claimGeneration :=
    congrArg DeviceRow.claimGeneration hcolumns
  have hstate : row.lifecycleState = device.lifecycleState := congrArg DeviceRow.lifecycleState hcolumns
  refine ⟨claim, hclaim, ?_, hshows.generation.2.1.symm.trans hgeneration, ?_⟩
  · rw [ownerScope_eq]
    exact (Option.some.inj howner).symm
  · rcases hshows.lifecycle with ⟨happroved, hactive⟩ | ⟨hrevoked, hclosed⟩
    · exact iff_of_true (hstate.symm.trans happroved) hactive
    · rw [← hstate, hrevoked, hclosed]
      decide

/-- **Every answer comes from the history of its scope.** In every order of the steps of all calls, what a
read is answered with is the projection of a row that the device had when the run started or at some moment
since, and at that moment the Claim of the device belonged to the scope the read names, in the generation
and in the state that the answer shows. Nothing is answered without the token of the reader. -/
theorem answered_from_history (control : DeviceControl) (call : Nat → control.Call) {h : Hub}
    {directory : control.Directory} (hreach : control.Reachable h)
    (hhydrated : control.executeAll h (fun _ => none) = .ok directory) (turns : List (Turn LiveDraws))
    (reader : RegistryReader) (vocabulary : Vocabulary μ) {authorization ownerScope : String}
    {i : DeviceInstanceId} {wire : WireEntry μ}
    (hanswer : getDirectoryEntry reader vocabulary (control.served call h directory turns).shared.directory
      authorization ownerScope i = .ok wire) :
    reader.Accepts authorization ∧ wire.Fits ∧ ∃ pre post, turns = pre ++ post ∧ ∃ device claim,
      control.getDevice (control.served call h directory pre).shared.hub i = .ok (some device) ∧
        entryToWire vocabulary device.entry = wire ∧
        (control.served call h directory pre).shared.hub.tables.claims.get
          (·.deviceInstanceId) i = some claim ∧
        claim.businessOwnerId = ownerScope ∧ claim.claimGeneration = wire.deviceRef.claimGeneration ∧
        (wire.lifecycleState = .approved ↔ claim.state = .active) := by
  obtain ⟨haccepts, entry, hentry, hscope, hwire, hfits⟩ := getDirectoryEntry_ok hanswer
  obtain ⟨pre, post, hturns, device, hread, rfl⟩ :=
    (served_shown call hreach hhydrated turns).entries i entry hentry
  obtain ⟨claim, hclaim, howner, hgeneration, hstate⟩ := getDevice_claim (served_sound hreach pre) hread
  subst hwire
  exact ⟨haccepts, hfits, pre, post, hturns, device, claim, hread, rfl, hclaim, howner.trans hscope,
    hgeneration, hstate⟩

end Runs

end DeviceControl

/-! ### The lamp, read after it has asserted its second Manifest -/

namespace Sample

open DeviceControl

/-- A reader with a token that is long enough. -/
def reader : RegistryReader where
  token := "0123456789abcdef0123456789abcdef"
  long := by decide +kernel

/-- A vocabulary that reads every document. -/
def readsAll : Vocabulary String := fun text => .ok text

/-- What the Kernel is answered. -/
def lampRead : ReadResponse String :=
  getDirectoryEntry reader readsAll
    (control.served reasserts lampHub lampDirectory reassertion).shared.directory
    "Bearer 0123456789abcdef0123456789abcdef" "alice" "device-k"

theorem lampRead_ok : ∃ wire, lampRead = .ok wire := by
  have hok : lampRead.isOk = true := by decide +kernel
  cases hread : lampRead with
  | ok wire => exact ⟨wire, rfl⟩
  | _ =>
    rw [hread] at hok
    cases hok

end Sample

theorem answered_from_history_lamp : Sample.reader.Accepts "Bearer 0123456789abcdef0123456789abcdef" ∧
    ∃ pre post, Sample.reassertion = pre ++ post ∧ ∃ claim : ClaimRow,
      (Sample.control.served Sample.reasserts Sample.lampHub Sample.lampDirectory
        pre).shared.hub.tables.claims.get (·.deviceInstanceId) "device-k" = some claim ∧
      claim.businessOwnerId = "alice" := by
  obtain ⟨wire, hread⟩ := Sample.lampRead_ok
  obtain ⟨haccepts, -, pre, post, hturns, device, claim, -, -, hclaim, howner, -⟩ :=
    DeviceControl.answered_from_history Sample.control Sample.reasserts Sample.lampHub_reachable
      Sample.lampDirectory_hydrated Sample.reassertion Sample.reader Sample.readsAll hread
  exact ⟨haccepts, pre, post, hturns, claim, hclaim, howner⟩

end EidolonHub.Devices
