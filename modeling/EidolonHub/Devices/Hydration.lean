import EidolonHub.Admission.Generations
import EidolonHub.Devices.Directory
import EidolonHub.Devices.Reassertion
import EidolonHub.Devices.Rehoming

/-!
# EidolonHub.Devices.Hydration

**Reading back what Admission committed.** At its start the Hub decodes every row of the device
directory and projects it into memory; every later change of a device decodes its row again. An
acknowledgement writes the row from what the Proposal declared, and the reader checks the
document once more by rules of its own.

A row is decoded exactly when its columns pass those rules (`decodes_iff`). Most of them follow
from what the writer has checked; what is left over is `Readable`.
-/

namespace EidolonHub.Devices

open EidolonHub.Library EidolonHub.Library.Tx EidolonHub.Library.Python EidolonHub.Admission

theorem deviceProblem_eq_none {deviceId manifestId : String} {ownerId : Option BusinessOwnerId}
    {generation claimGeneration trustEpoch revision : Nat} :
    deviceProblem deviceId manifestId ownerId generation claimGeneration trustEpoch revision = none ↔
      strip deviceId ≠ "" ∧ strip manifestId ≠ "" ∧ (∃ owner, ownerId = some owner ∧ strip owner ≠ "") ∧
        0 < generation ∧ 0 < claimGeneration ∧ 0 < trustEpoch ∧ 0 < revision := by
  unfold deviceProblem
  constructor
  · intro h
    split_ifs at h with hid hmanifest howner hmin hnone
    obtain ⟨owner, rfl⟩ := Option.ne_none_iff_exists'.mp hnone
    exact ⟨hid, hmanifest, ⟨owner, rfl, by simpa using howner⟩, by omega, by omega, by omega, by omega⟩
  · rintro ⟨hid, hmanifest, ⟨owner, rfl, howner⟩, hgeneration, hclaim, hepoch, hrevision⟩
    rw [if_neg hid, if_neg hmanifest, if_neg (by simpa using howner), if_neg (by omega),
      if_neg (Option.some_ne_none owner)]

/-- A device that enrolls declares a positive revision of its Manifest. -/
def HubRequest.DeclaresPositive {control : DeviceControl} : HubRequest control → Prop
  | .admission (.command (.createEnrollment _ _ payload) _) => 0 < payload.manifest.revision
  | _ => True

namespace DeviceControl

variable {control : DeviceControl} {h h' : Hub} {row : DeviceRow} {i : DeviceInstanceId}

/-! ### The rows that are read -/

/-- The device repository can read this row. -/
def Decodes (control : DeviceControl) (row : DeviceRow) : Prop :=
  ∃ device : control.Device,
    decode control.authority.crypto control.presentation control.authority.ownerDomainId row = .ok device

theorem decode_deviceId {device : control.Device} (hdecode : decode control.authority.crypto
    control.presentation control.authority.ownerDomainId row = .ok device) :
    row.deviceId = device.deviceId :=
  congrArg DeviceRow.deviceId (decode_ok.mp hdecode).2.1

/-- **A row decodes exactly when its columns pass the checks of the reader.** -/
theorem decodes_iff : control.Decodes row ↔ control.Legible row ∧
    manifestProblem control.authority.crypto row.manifestJson row.manifestRevision
      row.manifestDeclaredRevision = none ∧
    deviceProblem row.deviceId row.manifestId row.ownerId row.ownerDomainGeneration row.claimGeneration
      row.trustEpoch row.aggregateRevision = none := by
  constructor
  · rintro ⟨device, hdecode⟩
    obtain ⟨-, hcolumns, hpolicy⟩ := decode_ok.mp hdecode
    refine ⟨Option.isSome_iff_exists.mpr ⟨_, hpolicy⟩, ?_, ?_⟩
    · rw [hcolumns]
      exact device.manifest.valid
    · rw [hcolumns]
      exact device.valid
  · rintro ⟨hlegible, hmanifest, hdevice⟩
    obtain ⟨policy, hpolicy⟩ := Option.isSome_iff_exists.mp hlegible
    obtain ⟨-, -, ⟨owner, howner, -⟩, -⟩ := deviceProblem_eq_none.mp hdevice
    refine ⟨{
      deviceId := row.deviceId
      displayName := row.displayName
      manifestId := row.manifestId
      manifest := ⟨row.manifestJson, row.manifestRevision, row.manifestDeclaredRevision, hmanifest⟩
      enrolledAt := row.enrolledAt
      updatedAt := row.updatedAt
      ownerDomainId := control.authority.ownerDomainId
      ownerDomainGeneration := row.ownerDomainGeneration
      claimGeneration := row.claimGeneration
      trustEpoch := row.trustEpoch
      aggregateRevision := row.aggregateRevision
      ownerId := owner
      lifecycleState := row.lifecycleState
      lastManagementRequestId := row.lastManagementRequestId
      lastManagementFingerprint := row.lastManagementFingerprint
      outputPolicy := policy
      valid := by rw [← howner]; exact hdevice }, decode_ok.mpr ⟨rfl, ?_, hpolicy⟩⟩
    cases row
    simp only [ManagedDevice.values, DeviceRow.mk.injEq, and_self, and_true, true_and] at howner ⊢
    exact howner

/-- A revocation leaves a row that decodes. -/
theorem Decodes.revoke (deviceRef : DeviceRef) (now : Timestamp) (hdecodes : control.Decodes row) :
    control.Decodes (row.revoke deviceRef now) := by
  obtain ⟨device, hdecode⟩ := hdecodes
  have hreads : control.Reads device.deviceRef device.manifestId device.manifest row :=
    ⟨device, hdecode, rfl, rfl, rfl⟩
  obtain ⟨device', hdecode', -⟩ := hreads.revoke
  exact ⟨device', hdecode'⟩

theorem getDevice_some {device : control.Device} : control.getDevice h i = .ok (some device) ↔
    ∃ row, h.device i = some row ∧
      decode control.authority.crypto control.presentation control.authority.ownerDomainId row =
        .ok device := by
  rw [getDevice_ok]
  constructor
  · rintro (⟨-, hnone⟩ | ⟨row, device', hrow, heq, hdecode⟩)
    · cases hnone
    · cases heq
      exact ⟨row, hrow, hdecode⟩
  · rintro ⟨row, hrow, hdecode⟩
    exact .inr ⟨row, device, hrow, rfl, hdecode⟩

/-! ### Hydration -/

/-- `InMemoryDeviceDirectoryRepository`: the entries by their device. -/
abbrev Directory (control : DeviceControl) : Type :=
  DeviceInstanceId → Option (DirectoryEntry control.authority.crypto)

/-- `upsert`. -/
def Directory.upsert (directory : control.Directory) (entry : DirectoryEntry control.authority.crypto) :
    control.Directory :=
  Function.update directory entry.deviceId (some entry)

variable (control)

/-- `select(DeviceRow).order_by(DeviceRow.device_id)`. -/
def rowsById (h : Hub) : List DeviceRow := h.tables.devices.rows.insertionSort (·.deviceId ≤ ·.deviceId)

/-- `SqlDeviceRepository.list_all`. -/
def listAll (h : Hub) : Except ControlError (List control.Device) :=
  (rowsById h).mapM
    (decode control.authority.crypto control.presentation control.authority.ownerDomainId)

/-- `ProjectDeviceDirectory.execute`. -/
def project (h : Hub) (directory : control.Directory) (i : DeviceInstanceId) :
    Except ControlError control.Directory :=
  match control.getDevice h i with
  | .error e => .error e
  | .ok none => .error (.key i)
  | .ok (some device) => .ok (directory.upsert device.entry)

/-- `execute_all`. -/
def executeAll (h : Hub) (directory : control.Directory) : Except ControlError control.Directory := do
  (← control.listAll h).foldlM (fun directory device => control.project h directory device.deviceId)
    directory

variable {control}

theorem mem_rowsById : row ∈ rowsById h ↔ h.device row.deviceId = some row := by
  unfold rowsById
  rw [List.mem_insertionSort]
  exact ⟨fun hrow => Table.get_of_mem device_deviceId_isKey hrow, fun hrow => Table.get_mem hrow⟩

/-- Listing succeeds exactly when every row decodes. -/
theorem listAll_isOk : (∃ devices, control.listAll h = .ok devices) ↔
    ∀ i row, h.device i = some row → control.Decodes row := by
  unfold listAll
  rw [except_mapM_isOk]
  constructor
  · intro hall i row hrow
    obtain rfl : row.deviceId = i := Table.get_key hrow
    exact hall row (mem_rowsById.mpr hrow)
  · exact fun hall row hrow => hall _ row (mem_rowsById.mp hrow)

/-- What is listed is what is on file. -/
theorem mem_listAll {devices : List control.Device} (hlist : control.listAll h = .ok devices)
    {device : control.Device} :
    device ∈ devices ↔ control.getDevice h device.deviceId = .ok (some device) := by
  rw [mem_of_except_mapM hlist, getDevice_some]
  constructor
  · rintro ⟨row, hrow, hdecode⟩
    exact ⟨row, decode_deviceId hdecode ▸ mem_rowsById.mp hrow, hdecode⟩
  · rintro ⟨row, hrow, hdecode⟩
    have hid : row.deviceId = device.deviceId := Table.get_key hrow
    exact ⟨row, mem_rowsById.mpr (hid.symm ▸ hrow), hdecode⟩

/-- Projecting devices that are on file shows each of them. -/
theorem foldlM_project (directory : control.Directory) {devices : List control.Device}
    (hdevices : ∀ device ∈ devices, control.getDevice h device.deviceId = .ok (some device)) :
    ∃ directory', devices.foldlM (fun directory device => control.project h directory device.deviceId)
        directory = .ok directory' ∧
      ∀ i, directory' i = if ∃ device ∈ devices, device.deviceId = i then control.shown h i
        else directory i := by
  induction devices generalizing directory with
  | nil => exact ⟨directory, rfl, by simp⟩
  | cons device devices ih =>
    have hhead := hdevices device List.mem_cons_self
    obtain ⟨directory', hfold, hshows⟩ := ih (directory.upsert device.entry)
      fun d hd => hdevices d (List.mem_cons_of_mem _ hd)
    refine ⟨directory', ?_, fun i => ?_⟩
    · rw [List.foldlM_cons, project, hhead]
      exact hfold
    · rw [hshows i]
      by_cases hlater : ∃ device ∈ devices, device.deviceId = i
      · obtain ⟨d, hd, hi⟩ := hlater
        rw [if_pos ⟨d, hd, hi⟩, if_pos ⟨d, List.mem_cons_of_mem _ hd, hi⟩]
      · rw [if_neg hlater]
        by_cases hi : device.deviceId = i
        · subst hi
          rw [if_pos ⟨device, List.mem_cons_self, rfl⟩, shown, hhead]
          exact Function.update_self ..
        · rw [if_neg]
          · exact Function.update_of_ne (Ne.symm hi) ..
          · rintro ⟨d, hd, hd'⟩
            rcases List.mem_cons.mp hd with rfl | hd
            · exact hi hd'
            · exact hlater ⟨d, hd, hd'⟩

/-- **Where every row decodes, the directory is hydrated with all of them.** -/
theorem executeAll_ok (directory : control.Directory)
    (hall : ∀ i row, h.device i = some row → control.Decodes row) :
    ∃ directory', control.executeAll h directory = .ok directory' ∧
      ∀ i, directory' i = (control.shown h i).or (directory i) := by
  obtain ⟨devices, hlist⟩ := listAll_isOk.mpr hall
  obtain ⟨directory', hfold, hshows⟩ := foldlM_project directory
    fun device => (mem_listAll hlist).mp
  refine ⟨directory', except_bind_ok.mpr ⟨devices, hlist, hfold⟩, fun i => ?_⟩
  rw [hshows i]
  split
  · next hlisted =>
    obtain ⟨device, hdevice, rfl⟩ := hlisted
    rw [shown, (mem_listAll hlist).mp hdevice, Option.some_or]
  · next hunlisted =>
    have hnone : h.device i = none := by
      by_contra hsome
      obtain ⟨row, hrow⟩ := Option.ne_none_iff_exists'.mp hsome
      obtain ⟨device, hdecode⟩ := hall i row hrow
      have hi : device.deviceId = i := (decode_deviceId hdecode).symm.trans (Table.get_key hrow)
      exact hunlisted ⟨device, (mem_listAll hlist).mpr
        (getDevice_some.mpr ⟨row, hi ▸ hrow, hdecode⟩), hi⟩
    rw [shown, getDevice_ok.mpr (.inl ⟨hnone, rfl⟩), Option.none_or]

/-! ### A Hub that opens -/

/-- The Hub can start on this database, and change each of its devices: a row it holds is read, the
directory is hydrated, and a mutation made from the device that was read is refused on no ground
that lies in its row. -/
structure Opens (control : DeviceControl) (h : Hub) : Prop where
  decodes : ∀ i row, h.device i = some row → control.Decodes row
  hydrates : ∃ directory, control.executeAll h (fun _ => none) = .ok directory
  commits : ∀ i row, h.device i = some row → ∃ device, control.getDevice h i = .ok (some device) ∧
    ∀ mutation : control.Mutation, mutation.expected = some device → mutation.device.deviceId = i →
      mutation.event.subject = i → (∃ text, dataJson mutation.event = .ok text) →
      h.events.get (·.eventId) mutation.event.eventId = none →
      ∃ h', Commits (control.commit mutation) h () h'

theorem upsert_of_row {device : control.Device} (hrow : h.device device.deviceId = some row) :
    ∃ h', Commits (control.upsert device) h () h' := by
  unfold upsert
  simp only [commits_read_bind, hrow, commits_update, exists_eq]

/-- **A mutation made from the current device commits.** -/
theorem commit_of_current {mutation : control.Mutation} {device : control.Device}
    (hread : control.getDevice h mutation.device.deviceId = .ok (some device))
    (hexpected : mutation.expected = some device)
    (hsubject : mutation.event.subject = mutation.device.deviceId)
    (hdata : ∃ text, dataJson mutation.event = .ok text)
    (hfresh : h.events.get (·.eventId) mutation.event.eventId = none) :
    ∃ h', Commits (control.commit mutation) h () h' := by
  obtain ⟨text, htext⟩ := hdata
  obtain ⟨row, hrow, -⟩ := getDevice_some.mp hread
  obtain ⟨events, hinsert⟩ := Table.insert?_isSome (t := h.events) (r := eventRow mutation.event
      (if mutation.device.ownerId = "" then "unclaimed" else mutation.device.ownerId) text) (by
    intro s hs
    have hne := Table.get_eq_none_iff.mp hfresh s hs
    exact decide_eq_false hne)
  have hreads : Commits (control.readDevice mutation.device.deviceId) h (some device) h :=
    commits_read_bind.mpr (commits_lift.mpr ⟨hread, rfl⟩)
  obtain ⟨h₁, hupsert⟩ := upsert_of_row hrow
  have hevents := (upsert_commits hupsert).2.1
  refine ⟨{ h₁ with events }, commits_raiseIf_bind.mpr ⟨not_not.mpr hsubject,
    commits_lift_bind.mpr ⟨text, htext, commits_bind.mpr ⟨some device, h, hreads,
      commits_raiseIf_bind.mpr ⟨not_not.mpr hexpected.symm,
        commits_bind.mpr ⟨(), h₁, hupsert, commits_read_bind.mpr ?_⟩⟩⟩⟩⟩⟩
  rw [hevents, show (eventRow mutation.event _ text).eventId = mutation.event.eventId from rfl, hfresh]
  refine commits_update?.mpr ?_
  rw [hevents, hinsert]
  rfl

/-- **A Hub opens exactly when each of its rows decodes.** -/
theorem opens_iff_decodes :
    control.Opens h ↔ ∀ i row, h.device i = some row → control.Decodes row := by
  refine ⟨Opens.decodes, fun hall => ⟨hall, ?_, ?_⟩⟩
  · obtain ⟨directory, hexecute, -⟩ := executeAll_ok (fun _ => none) hall
    exact ⟨directory, hexecute⟩
  · intro i row hrow
    obtain ⟨device, hdecode⟩ := hall i row hrow
    have hread := getDevice_some.mpr ⟨row, hrow, hdecode⟩
    refine ⟨device, hread, ?_⟩
    rintro mutation hexpected rfl hsubject hdata hfresh
    exact commit_of_current hread hexpected hsubject hdata hfresh

/-! ### What an activation writes -/

/-- What the reader asks of an activated device beyond what the writer has checked: its document
names no schema version but 1, and neither its Manifest nor its Owner has a blank name. -/
structure Readable (crypto : Crypto) (p : ProposalRow) (d : DecisionRow) : Prop where
  schemaVersion : ∀ value, crypto.jsonLoads p.manifestJson = some value →
    (value.field "schema_version").all equalsOne = true
  manifestId : strip p.manifestId ≠ ""
  ownerId : strip d.targetBusinessOwnerId ≠ ""

/-- The request acknowledges a grant, not for the second time; it activates the device of this
Proposal for the Owner of this Decision. -/
inductive Activates (control : DeviceControl) (h : Hub) :
    HubRequest control → ProposalRow → DecisionRow → Prop where
  | ack {commandId : CommandId} {correlationId : CorrelationId} {operationalKeyProof : String}
      {storedClaimGeneration storedTrustEpoch : Nat} {draws : Draws} {result : CommandResult} {t : Tables}
      {p : ProposalRow} {g : GrantRow} {d : DecisionRow}
      (commits : Commits (Command.transaction control.authority (.ackClaimGrant commandId correlationId
        p.enrollmentId g.grantId operationalKeyProof storedClaimGeneration storedTrustEpoch) draws) h.tables
        result t)
      (committed : result.outcome = .committed) (proposal : p ∈ h.tables.proposals)
      (grant : g ∈ h.tables.grants) (decision : d ∈ h.tables.decisions)
      (decisionId : d.decisionId = g.decisionId) :
      Activates control h (.admission (.command (.ackClaimGrant commandId correlationId p.enrollmentId
        g.grantId operationalKeyProof storedClaimGeneration storedTrustEpoch) draws)) p d

section Acknowledging

variable {authority : AdmissionAuthority} {t t' : Tables} {commandId : CommandId}
  {correlationId : CorrelationId} {enrollmentId : EnrollmentId} {grantId : GrantId}
  {operationalKeyProof : String} {storedClaimGeneration storedTrustEpoch : Nat} {draws : Draws}
  {result : CommandResult} {fp : Fingerprint}

/-- An acknowledgement that is not a replay has loaded the document of its Proposal, and it is an
object. -/
theorem ack_document (hack : Commits (authority.ackClaimGrant commandId correlationId enrollmentId
    grantId operationalKeyProof storedClaimGeneration storedTrustEpoch fp draws) t result t')
    (hnew : result.outcome = .committed) :
    ∃ p ∈ t.proposals, p.enrollmentId = enrollmentId ∧
      ∃ document, authority.crypto.jsonLoads p.manifestJson = some document ∧ document.isObject = true := by
  rcases AdmissionAuthority.once_commits hack with ⟨-, row, -, -, rfl⟩ | ⟨-, hbody⟩
  · cases hnew
  simp only [commits_bind] at hbody
  obtain ⟨⟨p, g⟩, t₁, hchecks, _, t₂, -, hrest⟩ := hbody
  obtain ⟨-, hp, hid, -⟩ := AdmissionAuthority.acknowledgeable_commits hchecks
  obtain ⟨_, _, -, _, _, -, _, _, -, _, _, hproject, -⟩ := hrest
  simp only [projectActiveClaim, commits_demand_bind, commits_raiseIf_bind] at hproject
  obtain ⟨document, hdocument, hobject, -⟩ := hproject
  exact ⟨p, hp, hid, document, hdocument, not_not.mp hobject⟩

end Acknowledging

/-- **An activation** writes the row of its device from its Proposal and its Decision, and has seen
that the document is an object. -/
theorem Activates.writes {request : HubRequest control} {p : ProposalRow} {d : DecisionRow}
    (hactivates : Activates control h request p d) :
    ∃ g row now, g ∈ h.tables.grants ∧ g.enrollmentId = p.enrollmentId ∧
      (control.next h request).device g.deviceRef.deviceInstanceId = some row ∧
      row.ownerId = some d.targetBusinessOwnerId ∧
      ActivatedFrom p g now (h.device g.deviceRef.deviceInstanceId) row ∧
      (∀ i, i ≠ g.deviceRef.deviceInstanceId → (control.next h request).device i = h.device i) ∧
      ∃ document, control.authority.crypto.jsonLoads p.manifestJson = some document ∧
        document.isObject = true := by
  obtain @⟨commandId, correlationId, proof, generation, epoch, draws, result, t, p, g, d, hcommits, hnew, hp,
    hg, hd, hdecision⟩ := hactivates
  obtain ⟨fp, -, hsession⟩ := AdmissionAuthority.command_commits hcommits
  obtain ⟨q, hq, hqid, hdocument⟩ := ack_document hsession hnew
  obtain rfl := Table.eq_of_key proposal_enrollmentId_isKey hq hp hqid
  rcases AdmissionAuthority.ackClaimGrant_follows hsession with ⟨-, hreplayed⟩ |
    ⟨-, q', g', d', name, published, hqid', hid', ⟨⟨hproposal, -, hgrant, hge, -, -, hdecided, hdid, -⟩, -⟩,
      hrun⟩
  · rw [hnew] at hreplayed
    cases hreplayed
  · obtain rfl := Table.eq_of_key proposal_enrollmentId_isKey (Tables.hasProposal_iff.mp hproposal) hp hqid'
    obtain rfl := Table.eq_of_key grant_grantId_isKey (Tables.hasGrant_iff.mp hgrant) hg hid'
    obtain rfl := Table.eq_of_key decision_decisionId_isKey (Tables.hasDecision_iff.mp hdecided) hd
      (hdid.trans hdecision.symm)
    have hdevice : ∀ i, (control.next h (.admission (.command (.ackClaimGrant commandId correlationId
        q'.enrollmentId g'.grantId proof generation epoch) draws))).device i =
          if i = g'.deviceRef.deviceInstanceId then
            some (acknowledgedDevice h.tables.registry q' g' d' name draws.now) else h.device i := by
      intro i
      rw [next, Hub.device, AdmissionAuthority.next_command hcommits]
      have hrow := congrArg (fun s => s.device i) hrun
      change t.devices.get (·.deviceId) i = _ at hrow
      rw [hrow]
      by_cases hi : i = g'.deviceRef.deviceInstanceId
      · simp [Registry.apply, hi]
      · simp [Registry.apply, hi]
        rfl
    refine ⟨g', _, draws.now, hg, hge, (hdevice _).trans (if_pos rfl), ?_,
      acknowledgedDevice_from (s := h.tables.registry) (d := d') (n := name), fun i hi => (hdevice i).trans (if_neg hi), hdocument⟩
    unfold acknowledgedDevice
    split <;> rfl

/-- A request of Admission activates a device, or it leaves rows that decode. -/
theorem activates_or_decodes (request : Request) (hall : ∀ i row, h.device i = some row → control.Decodes row) :
    (∃ p d, Activates control h (.admission request) p d) ∨
      ∀ i row, (control.next h (.admission request)).device i = some row → control.Decodes row := by
  by_cases hack : ∃ commandId correlationId enrollmentId grantId proof generation epoch draws, request =
      .command (.ackClaimGrant commandId correlationId enrollmentId grantId proof generation epoch) draws
  · obtain ⟨commandId, correlationId, enrollmentId, grantId, proof, generation, epoch, draws, rfl⟩ := hack
    rcases AdmissionAuthority.next_command_cases control.authority h.tables (.ackClaimGrant commandId
      correlationId enrollmentId grantId proof generation epoch) draws with ⟨r, hcommit⟩ | hsame
    · obtain ⟨fp, -, hsession⟩ := AdmissionAuthority.command_commits hcommit
      rcases AdmissionAuthority.ackClaimGrant_follows hsession with ⟨hsame, -⟩ |
        ⟨hnew, p, g, d, name, published, rfl, rfl, ⟨⟨hp, -, hg, -, -, -, hd, hdecision, -⟩, -⟩, -⟩
      · right
        rw [next, hsame]
        exact hall
      · exact .inl ⟨p, d, .ack hcommit hnew (Tables.hasProposal_iff.mp hp) (Tables.hasGrant_iff.mp hg)
          (Tables.hasDecision_iff.mp hd) hdecision⟩
    · right
      rw [next, hsame]
      exact hall
  · right
    obtain ⟨moves, hmakes, hfollows⟩ := AdmissionAuthority.next_makes control.authority h.tables request
    refine hfollows.inv_of (I := fun s => ∀ i row, s.device i = some row → control.Decodes row)
      (Q := fun m => ∀ p g d a name published now, m ≠ .acknowledge p g d a name published now) ?_ ?_ hall
    · intro s m hall _ hother i row hrow
      rcases device_apply s m i with hsame | ⟨row', ref, now, hrow', hnext⟩ |
        ⟨p, g, d, a, name, published, now, hm, -⟩
      · exact hall i row (hsame ▸ hrow)
      · rw [hnext] at hrow
        cases hrow
        exact (hall i row' hrow').revoke ref now
      · exact absurd hm (hother p g d a name published now)
    · intro m hm p g d a name published now
      refine no_acknowledge (hmakes m hm) ?_ p g d a name published now
      intro commandId correlationId enrollmentId grantId proof generation epoch draws hrequest
      exact hack ⟨_, _, _, _, _, _, _, _, hrequest⟩

/-! ### Whole runs -/

/-- What the writer has checked of each Proposal and each grant. -/
structure Checked (control : DeviceControl) (h : Hub) : Prop where
  revision : ∀ p ∈ h.tables.proposals, 0 < p.manifestRevision
  digest : ∀ p ∈ h.tables.proposals, p.manifestDigest = control.authority.crypto.digest p.manifestJson
  instanceId : ∀ p ∈ h.tables.proposals,
    control.authority.crypto.deriveDeviceInstanceId p.operationalPublicKeySpki = .ok p.deviceInstanceId
  generation : ∀ g ∈ h.tables.grants, 0 < g.claimGeneration

theorem run_checked {requests : List (HubRequest control)}
    (hdeclares : ∀ request ∈ requests, request.DeclaresPositive) :
    control.Checked (run control.next .empty requests) := by
  have halike : (run control.next .empty requests).tables.Alike
      (run control.authority.next .empty (admissionOf requests)) := run_alike (.refl _) requests
  have hreach : Admission.Reachable control.authority
      (run control.authority.next .empty (admissionOf requests)) := ⟨_, rfl⟩
  have htables : (run control.next .empty requests).tables.proposals =
      (run control.authority.next .empty (admissionOf requests)).proposals ∧
      (run control.next .empty requests).tables.grants =
        (run control.authority.next .empty (admissionOf requests)).grants := by
    obtain ⟨t₀, devices, devices', ht, ht', -⟩ := halike
    rw [ht, ht']
    exact ⟨rfl, rfl⟩
  have hdeclared : ∀ p ∈ (run control.next .empty requests).tables.proposals, 0 < p.manifestRevision ∧
      p.manifestDigest = control.authority.crypto.digest p.manifestJson := by
    intro p hp
    obtain ⟨commandId, correlationId, payload, draws, hmem, -, ⟨href, -⟩, hdigest⟩ :=
      proposal_declares requests hp
    have hpositive : 0 < payload.manifest.revision := hdeclares _ hmem
    rw [show p.manifestRevision = payload.manifest.revision from congrArg ManifestRef.revision href,
      show p.manifestDigest = payload.manifest.digest from congrArg ManifestRef.digest href]
    exact ⟨hpositive, hdigest⟩
  refine ⟨fun p hp => (hdeclared p hp).1, fun p hp => (hdeclared p hp).2, ?_, ?_⟩
  · intro p hp
    rw [htables.1] at hp
    exact ((AdmissionAuthority.reachable_identified hreach).proposals p.enrollmentId p
      (Tables.hasProposal_iff.mpr hp)).instanceId
  · intro g hg
    rw [htables.2] at hg
    obtain ⟨n, hn⟩ := reachable_dense hreach g.ownerDomainId g.hardwareIdentityRef
    have hmem : g.claimGeneration ∈ (run control.authority.next .empty (admissionOf requests)).generations
        g.ownerDomainId g.hardwareIdentityRef :=
      List.mem_map_of_mem (List.mem_filter.mpr ⟨hg, by simp⟩)
    rw [hn, List.mem_range'_1] at hmem
    omega

/-- **An activated row decodes exactly when its Proposal is readable.** -/
theorem Activates.decodes_iff {request : HubRequest control} {p : ProposalRow} {d : DecisionRow}
    (hactivates : Activates control h request p d) (hreach : control.Reachable h)
    (hchecked : control.Checked h) (hgeneration : 0 < control.authority.ownerDomainGeneration)
    (hids : ∀ key i, control.authority.crypto.deriveDeviceInstanceId key = .ok i → strip i ≠ "")
    (hall : ∀ i row, h.device i = some row → control.Decodes row) :
    (∀ i row, (control.next h request).device i = some row → control.Decodes row) ↔
      Readable control.authority.crypto p d := by
  have hp : p ∈ h.tables.proposals := by
    cases hactivates
    assumption
  obtain ⟨g, row, now, hg, hge, hrow, howner, hfrom, hothers, document, hdocument, hobject⟩ :=
    hactivates.writes
  obtain ⟨q, d', hq, -, -, -, -, happroval⟩ := ((reachable_sound hreach).legal g.enrollmentId).granted
    (Tables.hasGrant_iff.mpr hg)
  -- the Grant's Proposal is the one that is activated
  obtain rfl : q = p := by
    have hhas : h.tables.registry.HasProposal p := Tables.hasProposal_iff.mpr hp
    unfold Registry.HasProposal at hhas
    rw [← hge, hq] at hhas
    exact Option.some.inj hhas
  -- all that hydration checks holds of the row but what `Readable` names
  have hreadable : Readable control.authority.crypto q d ↔ control.Decodes row := by
    have hid : row.deviceId = g.deviceRef.deviceInstanceId := Table.get_key hrow
    have hinstance : strip row.deviceId ≠ "" := by
      rw [hid, happroval.deviceRef]
      exact hids _ _ (hchecked.instanceId q hp)
    have hlegible : control.Legible row := reachable_legible (hreach.step request) hrow
    have hclaim := hchecked.generation g hg
    have hepoch : g.deviceRef.trustEpoch = 1 ∧ g.deviceRef.claimGeneration = g.claimGeneration ∧
        g.deviceRef.ownerDomainGeneration = control.authority.ownerDomainGeneration := by
      rw [happroval.deviceRef]
      exact ⟨rfl, rfl, rfl⟩
    rw [DeviceControl.decodes_iff, manifestProblem_eq_none, deviceProblem_eq_none, howner, hfrom.manifestJson,
      hfrom.manifestRevision, hfrom.manifestDeclaredRevision, hfrom.manifestId, hfrom.ownerDomainGeneration,
      hfrom.claimGeneration, hfrom.trustEpoch, hepoch.1, hepoch.2.1, hepoch.2.2, hdocument]
    constructor
    · intro hreadable
      refine ⟨hlegible, ⟨⟨document, rfl, hobject, hreadable.schemaVersion document hdocument⟩,
        hchecked.revision q hp, hchecked.digest q hp⟩, hinstance, hreadable.manifestId,
        ⟨_, rfl, hreadable.ownerId⟩, hgeneration, hclaim, Nat.one_pos, hfrom.aggregateRevision⟩
    · rintro ⟨-, ⟨⟨value, hvalue, -, hschema⟩, -⟩, -, hmanifestId, ⟨owner, hsame, howner⟩, -⟩
      cases hvalue
      cases hsame
      refine ⟨fun value hvalue => ?_, hmanifestId, howner⟩
      rw [hdocument] at hvalue
      cases hvalue
      exact hschema
  rw [hreadable]
  constructor
  · exact fun hnext => hnext _ row hrow
  · intro hdecodes i row' hrow'
    by_cases hi : i = g.deviceRef.deviceInstanceId
    · rw [hi, hrow] at hrow'
      cases hrow'
      exact hdecodes
    · exact hall i row' ((hothers i hi).symm.trans hrow')

/-- **What Admission commits, the Hub can read back** as long as each device it activates is
readable, and no longer: in a run in which devices declare positive revisions, the Hub opens in
every state on the way exactly when each Proposal that is activated along it is readable. -/
theorem opens_iff_readable (control : DeviceControl)
    (hgeneration : 0 < control.authority.ownerDomainGeneration)
    (hids : ∀ key i, control.authority.crypto.deriveDeviceInstanceId key = .ok i → strip i ≠ "")
    (requests : List (HubRequest control)) (hdeclares : ∀ request ∈ requests, request.DeclaresPositive) :
    (∀ pre post, requests = pre ++ post → control.Opens (run control.next .empty pre)) ↔
      Along control.next (fun h request => ∀ p d, Activates control h request p d →
        Readable control.authority.crypto p d) .empty requests := by
  refine (along_iff_forall_of (I := fun h => ∃ requests : List (HubRequest control),
      (∀ request ∈ requests, request.DeclaresPositive) ∧ h = run control.next .empty requests)
    (A := HubRequest.DeclaresPositive) ?_ ?_ ⟨[], by simp, rfl⟩ ?_ hdeclares).symm
  · rintro _ request ⟨requests, hpositive, rfl⟩ hrequest
    refine ⟨requests ++ [request], ?_, (run_concat control.next .empty requests request).symm⟩
    intro r hr
    rcases List.mem_append.mp hr with hr | hr
    · exact hpositive r hr
    · rw [List.mem_singleton.mp hr]
      exact hrequest
  · rintro _ request ⟨requests, hpositive, rfl⟩ hrequest hopens
    have hchecked := run_checked hpositive
    have hall := hopens.decodes
    rw [opens_iff_decodes]
    cases request with
    -- a change of a device writes back a device that was decoded
    | device operation draws =>
      refine iff_of_true ?_ (fun p d hactivates => by cases hactivates)
      intro i row hrow
      rcases execute_cases operation draws (run control.next .empty requests) with hsame |
        ⟨device, mutation, answer, -, hrevises, hcommitted⟩
      · rw [next, hsame] at hrow
        exact hall i row hrow
      · rw [next, hcommitted.device i] at hrow
        by_cases hi : i = mutation.device.deviceId
        · rw [if_pos hi] at hrow
          cases hrow
          obtain ⟨row, hrow, hdecode⟩ := hcommitted.row hrevises
          have hdomain : mutation.device.ownerDomainId = control.authority.ownerDomainId :=
            (congrArg DeviceRef.ownerDomainId hrevises.same.1).trans (decode_ok.mp hdecode).1
          exact ⟨mutation.device, hdomain ▸ decode_values⟩
        · rw [if_neg hi] at hrow
          exact hall i row hrow
    -- a request of Admission writes a row anew only where it activates a Proposal
    | admission request =>
      rcases activates_or_decodes request hall with ⟨p, d, hactivates⟩ | hnext
      · rw [hactivates.decodes_iff ⟨requests, rfl⟩ hchecked hgeneration hids hall]
        refine ⟨fun hreadable p' d' hactivates' => ?_, fun hreadable => hreadable p d hactivates⟩
        exact (hactivates'.decodes_iff ⟨requests, rfl⟩ hchecked hgeneration hids hall).mp
          ((hactivates.decodes_iff ⟨requests, rfl⟩ hchecked hgeneration hids hall).mpr hreadable)
      · refine iff_of_true hnext fun p d hactivates => ?_
        exact (hactivates.decodes_iff ⟨requests, rfl⟩ hchecked hgeneration hids hall).mp hnext
  · refine opens_iff_decodes.mpr fun i row hrow => ?_
    cases hrow

end DeviceControl

/-! ### A lamp with a document of another schema -/

namespace Sample

theorem instanceId_ne (key : Spki) (i : DeviceInstanceId)
    (h : Sample.crypto.deriveDeviceInstanceId key = .ok i) : strip i ≠ "" := by
  cases h
  refine strip_ne_empty (c := 'd') ?_ (by decide)
  rw [String.toList_append]
  exact List.mem_append_left _ (by decide)

/-- The lamp enrolls and is activated. -/
def lampClaimed : List (HubRequest control) :=
  (Sample.handoff "e" "k" ++ [Sample.ack "e" 1]).map .admission

theorem lampClaimed_declares : ∀ request ∈ lampClaimed, request.DeclaresPositive := by
  simp [lampClaimed, Sample.handoff, Sample.create, Sample.decide, Sample.collect, Sample.ack,
    HubRequest.DeclaresPositive, Sample.manifest]

/-- A document of a later schema version. -/
def versioned : Json := .obj [("schema_version", .int 2)]

/-- The primitives of the sample with the RFC 8785 text, and this document read back from it. -/
def versionedCrypto : Crypto :=
  { Sample.crypto with
    rfc8785Dumps := fun value => .ok (jcs value)
    jsonLoads := fun text => if text = jcs versioned then some versioned else some (.obj []) }

/-- Device control that reads that document back. -/
def versionedControl : DeviceControl :=
  { control with authority := { Sample.authority with crypto := versionedCrypto } }

/-- The declaration of that document. -/
def versionedManifest : ManifestDeclaration := ⟨"lamp", 1, versionedCrypto.digest (jcs versioned), versioned⟩

/-- The same request about this Manifest. -/
def declaring (manifest : ManifestDeclaration) : Request → Request
  | .command (.createEnrollment commandId correlationId payload) draws =>
    .command (.createEnrollment commandId correlationId { payload with manifest }) draws
  | .command (.decideEnrollment commandId correlationId enrollmentId payload context) draws =>
    .command (.decideEnrollment commandId correlationId enrollmentId
      { payload with reviewedManifestRef := manifest.ref } context) draws
  | request => request

/-- The lamp declares it and is claimed. -/
def versionedClaimed : List (HubRequest versionedControl) :=
  (Sample.handoff "e" "k" ++ [Sample.ack "e" 1]).map fun request => .admission (declaring versionedManifest request)

theorem versionedClaimed_declares : ∀ request ∈ versionedClaimed, request.DeclaresPositive := by
  simp [versionedClaimed, Sample.handoff, Sample.create, Sample.decide, Sample.collect, Sample.ack,
    declaring, HubRequest.DeclaresPositive, versionedManifest]

end Sample

theorem opens_iff_readable_lamp :
    (∀ pre post, Sample.lampClaimed = pre ++ post → Sample.control.Opens (run Sample.control.next .empty pre)) ↔
      Along Sample.control.next (fun h request => ∀ p d, DeviceControl.Activates Sample.control h request p d →
        DeviceControl.Readable Sample.control.authority.crypto p d) .empty Sample.lampClaimed :=
  DeviceControl.opens_iff_readable Sample.control (by decide) Sample.instanceId_ne Sample.lampClaimed
    Sample.lampClaimed_declares

/-- A document that names another schema version is accepted, and keeps the Hub from starting. -/
theorem accepted_document_is_unreadable : ¬ ∀ (control : DeviceControl),
    0 < control.authority.ownerDomainGeneration →
    (∀ key i, control.authority.crypto.deriveDeviceInstanceId key = .ok i → strip i ≠ "") →
    ∀ requests : List (HubRequest control), (∀ request ∈ requests, request.DeclaresPositive) →
    ∀ pre post, requests = pre ++ post → control.Opens (run control.next .empty pre) := by
  intro hclaim
  have hopens := hclaim Sample.versionedControl (by decide) Sample.instanceId_ne Sample.versionedClaimed
    Sample.versionedClaimed_declares Sample.versionedClaimed [] (List.append_nil _).symm
  have hrow : ((run Sample.versionedControl.next .empty Sample.versionedClaimed).device "device-k").isSome =
      true := by decide +kernel
  have hread : (Sample.versionedControl.getDevice (run Sample.versionedControl.next .empty
      Sample.versionedClaimed) "device-k").toOption.isSome = false := by decide +kernel
  obtain ⟨row, hrow⟩ := Option.isSome_iff_exists.mp hrow
  obtain ⟨device, hdevice, -⟩ := hopens.commits "device-k" row hrow
  rw [hdevice] at hread
  cases hread

end EidolonHub.Devices
