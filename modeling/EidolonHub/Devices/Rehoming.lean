import EidolonHub.Admission.Oblivious
import EidolonHub.Devices.Activation
import EidolonHub.Devices.Directory

/-!
# EidolonHub.Devices.Rehoming

**What the next Owner of a device sees of the last one.** Two runs are compared that ask the same
of Admission and anything of Device Control. Admission cannot tell them apart, so a device is
activated for its next Owner in both or in neither, and the activation writes the same columns in
both. The one column it does not write is the output policy, and there the settings of
the last Owner stay.
-/

namespace EidolonHub.Devices

open EidolonHub.Library EidolonHub.Library.Tx EidolonHub.Library.Python EidolonHub.Admission

section Comparison

variable {control : DeviceControl}

/-- The request, where it is one of the Admission. -/
def HubRequest.toAdmission : HubRequest control → Option Request
  | .admission request => some request
  | .device _ _ => none

/-- What a run asks of Admission. -/
def admissionOf (requests : List (HubRequest control)) : List Request :=
  requests.filterMap HubRequest.toAdmission

namespace DeviceControl

/-! ### Runs that ask the same of Admission -/

section Runs

variable {h h' : Hub} {operation : control.Operation} {draws : ControlDraws}
  {mutation : control.Mutation} {answer : control.Answer} {device : control.Device}

/-- A change of a device is none to Admission. -/
theorem Committed.alike (hcommitted : Committed control mutation h h')
    (hrevises : Revises control draws device operation mutation answer) :
    h'.tables.Alike h.tables := by
  obtain ⟨devices, htables⟩ := hcommitted.tables
  refine ⟨h.tables, devices, h.tables.devices, htables, rfl, ?_⟩
  intro i
  have hdevice := hcommitted.device i
  unfold Hub.device at hdevice
  rw [htables] at hdevice
  rw [hdevice]
  by_cases hi : i = mutation.device.deviceId
  · subst hi
    obtain ⟨row, hrow, hdecode⟩ := hcommitted.row hrevises
    obtain ⟨-, hcolumns, -⟩ := decode_ok.mp hdecode
    unfold Hub.device at hrow
    rw [if_pos rfl, hrow, hcolumns]
    cases hrevises <;> rfl
  · rw [if_neg hi]

theorem next_device_alike : (control.next h (.device operation draws)).tables.Alike h.tables := by
  rcases execute_cases operation draws h with hsame | ⟨device, mutation, answer, -, hrevises, hcommitted⟩
  · rw [next, hsame]
    exact .refl _
  · exact hcommitted.alike hrevises

/-- **A run of the Hub is to Admission the run of its own requests.** -/
theorem run_alike {t : Tables} (halike : h.tables.Alike t) (requests : List (HubRequest control)) :
    (run control.next h requests).tables.Alike (run control.authority.next t (admissionOf requests)) := by
  induction requests generalizing h t with
  | nil => exact halike
  | cons request requests ih =>
    cases request with
    | admission request => exact ih (AdmissionAuthority.next_alike halike)
    | device operation draws => exact ih (next_device_alike.trans halike)

theorem runs_alike {requests requests' : List (HubRequest control)}
    (hsame : admissionOf requests = admissionOf requests') :
    (run control.next .empty requests).tables.Alike (run control.next .empty requests').tables := by
  have hrun : (run control.next .empty requests).tables.Alike
      (run control.authority.next .empty (admissionOf requests)) := run_alike (.refl _) requests
  have hrun' : (run control.next .empty requests').tables.Alike
      (run control.authority.next .empty (admissionOf requests')) := run_alike (.refl _) requests'
  rw [hsame] at hrun
  exact hrun.trans hrun'.symm

end Runs

/-! ### What the directory shows -/

section Directory

variable {h h' : Hub} {i : DeviceInstanceId} {row row' : DeviceRow}

/-- What the policy of a row selects, whatever its revision. -/
def selection (control : DeviceControl) (row : DeviceRow) :
    Option (Option (control.presentation.Outputs × Option control.presentation.Inputs)) :=
  (decodePolicy control.presentation row.outputPolicyJson).map fun policy =>
    policy.map fun policy => (policy.allowed, policy.inputs)

/-- A row without its columns that count: its own revision and that of its policy. -/
def uncounted (control : DeviceControl) (row : DeviceRow) :
    DeviceRow × Option (Option (control.presentation.Outputs × Option control.presentation.Inputs)) :=
  ({ row with outputPolicyJson := none, aggregateRevision := 0 }, control.selection row)

/-- The directory entry a projection makes of a device now. -/
def shown (control : DeviceControl) (h : Hub) (i : DeviceInstanceId) :
    Option (DirectoryEntry control.authority.crypto) :=
  match control.getDevice h i with
  | .ok (some device) => some device.entry
  | _ => none

theorem shown_some {entry : DirectoryEntry control.authority.crypto} :
    control.shown h i = some entry ↔ ∃ row device, h.device i = some row ∧
      decode control.authority.crypto control.presentation control.authority.ownerDomainId row =
        .ok device ∧ device.entry = entry := by
  unfold shown
  constructor
  · intro hshown
    split at hshown
    · next device hget =>
      rcases getDevice_ok.mp hget with ⟨-, hnone⟩ | ⟨row, _, hrow, hsame, hdecode⟩
      · cases hnone
      · cases hsame
        exact ⟨row, device, hrow, hdecode, Option.some.inj hshown⟩
    · cases hshown
  · rintro ⟨row, device, hrow, hdecode, rfl⟩
    rw [getDevice_ok.mpr (.inr ⟨row, device, hrow, rfl, hdecode⟩)]

/-- The aggregate revision counts in no check but its own. -/
theorem deviceProblem_positive {deviceId manifestId : String} {ownerId : Option BusinessOwnerId}
    {generation claimGeneration trustEpoch revision revision' : Nat} (hpositive : 0 < revision')
    (h : deviceProblem deviceId manifestId ownerId generation claimGeneration trustEpoch revision =
      none) :
    deviceProblem deviceId manifestId ownerId generation claimGeneration trustEpoch revision' = none := by
  unfold deviceProblem at h ⊢
  split_ifs at h with hid hmanifest howner hmin hnone
  rw [if_neg hid, if_neg hmanifest, if_neg howner, if_neg (by omega), if_neg hnone]

/-- Rows that differ in their policies and their revisions are shown as one entry. -/
theorem decode_entry {ownerDomainId : OwnerDomainId} {device : control.Device}
    (hsame : { row with outputPolicyJson := none, aggregateRevision := 0 } =
      { row' with outputPolicyJson := none, aggregateRevision := 0 })
    (hlegible : control.Legible row') (hpositive : 0 < row'.aggregateRevision)
    (hdecode : decode control.authority.crypto control.presentation ownerDomainId row = .ok device) :
    ∃ device' : control.Device,
      decode control.authority.crypto control.presentation ownerDomainId row' = .ok device' ∧
        device'.entry = device.entry := by
  obtain ⟨hdomain, hcolumns, -⟩ := decode_ok.mp hdecode
  obtain ⟨policy, hpolicy⟩ := Option.isSome_iff_exists.mp hlegible
  refine ⟨{ device with
    outputPolicy := policy
    aggregateRevision := row'.aggregateRevision
    valid := deviceProblem_positive hpositive device.valid },
    decode_ok.mpr ⟨hdomain, ?_, hpolicy⟩, rfl⟩
  cases row
  cases row'
  simp only [DeviceRow.mk.injEq, ManagedDevice.values] at hsame hcolumns ⊢
  simp_all

end Directory

/-! ### Two runs and one activation -/

section TwoRuns

variable {found found' : Option DeviceRow} {row row' : DeviceRow} {p : ProposalRow} {g : GrantRow}
  {now : Timestamp}

/-- Rows of one Claim, activated from one Proposal, are the same but for the policies the
activations found. -/
theorem ActivatedFrom.same (hclaimed : row.claimed = row'.claimed)
    (hfrom : ActivatedFrom p g now found row) (hfrom' : ActivatedFrom p g now found' row') :
    ({ row with outputPolicyJson := none, aggregateRevision := 0 } : DeviceRow) =
      { row' with outputPolicyJson := none, aggregateRevision := 0 } := by
  have hjson := hfrom.manifestJson.trans hfrom'.manifestJson.symm
  have hrevision := hfrom.manifestRevision.trans hfrom'.manifestRevision.symm
  have hdeclared := hfrom.manifestDeclaredRevision.trans hfrom'.manifestDeclaredRevision.symm
  have hupdated := hfrom.updatedAt.trans hfrom'.updatedAt.symm
  cases row
  cases row'
  simp only at hjson hrevision hdeclared hupdated
  simp only [DeviceRow.claimed, DeviceRow.mk.injEq] at hclaimed ⊢
  simp_all

/-- An activation leaves the policy that it finds, and none where it finds no row. -/
theorem ActivatedFrom.selection (hfrom : ActivatedFrom p g now found row) :
    control.selection row = (found.map control.selection).getD (some none) := by
  unfold DeviceControl.selection
  rw [hfrom.outputPolicyJson]
  cases found <;> rfl

theorem map_selection_iff (hfound : found.isSome = found'.isSome) :
    (found.map control.selection).getD (some none) = (found'.map control.selection).getD (some none) ↔
      found.map control.selection = found'.map control.selection := by
  cases found with
  | none =>
    cases found' with
    | none => simp
    | some r => cases hfound
  | some r =>
    cases found' with
    | none => cases hfound
    | some r' => simp

theorem claimed_get {t t' : Tables} (halike : t.Alike t') (i : DeviceInstanceId) :
    (t.devices.get (·.deviceId) i).map DeviceRow.claimed =
      (t'.devices.get (·.deviceId) i).map DeviceRow.claimed := by
  obtain ⟨t₀, devices, devices', rfl, rfl, hsame⟩ := halike
  exact hsame i

/-- **A re-homed device carries its output policy over, and nothing else.** Two runs ask the same
of Admission, and of Device Control whatever their Owners like. When the device of a grant is
then activated, it is activated in both; the directory shows one entry; and the rows are equal
apart from their counters exactly when the policies selected the same before. -/
theorem rehomed_iff (control : DeviceControl) (requests requests' : List (HubRequest control))
    (hsame : admissionOf requests = admissionOf requests') {commandId : CommandId}
    {correlationId : CorrelationId} {enrollmentId : EnrollmentId} {grantId : GrantId}
    {operationalKeyProof : String} {storedClaimGeneration storedTrustEpoch : Nat} {draws : Draws}
    {result : CommandResult} {t : Tables} {g : GrantRow}
    (hack : Commits (Command.transaction control.authority (.ackClaimGrant commandId correlationId
      enrollmentId grantId operationalKeyProof storedClaimGeneration storedTrustEpoch) draws)
      (run control.next .empty requests).tables result t)
    (hnew : result.outcome = .committed) (hg : g ∈ (run control.next .empty requests).tables.grants)
    (hid : g.grantId = grantId) :
    let activate : HubRequest control := .admission (.command (.ackClaimGrant commandId correlationId
      enrollmentId grantId operationalKeyProof storedClaimGeneration storedTrustEpoch) draws)
    let i := g.deviceRef.deviceInstanceId;
    (((run control.next .empty (requests ++ [activate])).device i).map control.uncounted =
        ((run control.next .empty (requests' ++ [activate])).device i).map control.uncounted ↔
      ((run control.next .empty requests).device i).map control.selection =
        ((run control.next .empty requests').device i).map control.selection) ∧
    control.shown (run control.next .empty (requests ++ [activate])) i =
      control.shown (run control.next .empty (requests' ++ [activate])) i := by
  intro activate i
  have halike := runs_alike hsame
  obtain ⟨t', hack', halike'⟩ := Oblivious.command.commits halike hack
  -- the second run has the same Proposals and grants, so it activates the same device
  have htables : (run control.next .empty requests').tables.proposals =
      (run control.next .empty requests).tables.proposals ∧
      (run control.next .empty requests').tables.grants =
        (run control.next .empty requests).tables.grants := by
    obtain ⟨t₀, devices, devices', ht, ht', -⟩ := halike
    rw [ht, ht']
    exact ⟨rfl, rfl⟩
  obtain ⟨p, row, hp, hrow, hfrom⟩ := ack_activates hack hnew hg hid
  obtain ⟨p', row', hp', hrow', hfrom'⟩ := ack_activates hack' hnew (htables.2 ▸ hg) hid
  rw [htables.1, hp] at hp'
  cases hp'
  have hafter : (run control.next .empty (requests ++ [activate])).tables = t := by
    rw [run_concat]
    exact attempt_of_commits (commits_bind.mpr ⟨result, t, hack, commits_pure.mpr ⟨rfl, rfl⟩⟩)
  have hafter' : (run control.next .empty (requests' ++ [activate])).tables = t' := by
    rw [run_concat]
    exact attempt_of_commits (commits_bind.mpr ⟨result, t', hack', commits_pure.mpr ⟨rfl, rfl⟩⟩)
  have hdevice : (run control.next .empty (requests ++ [activate])).device i = some row := by
    rw [Hub.device, hafter]
    exact hrow
  have hdevice' : (run control.next .empty (requests' ++ [activate])).device i = some row' := by
    rw [Hub.device, hafter']
    exact hrow'
  have hclaimed : row.claimed = row'.claimed := by
    have hget := claimed_get halike' g.deviceRef.deviceInstanceId
    rw [hrow, hrow'] at hget
    exact Option.some.inj hget
  have hcolumns := hfrom.same hclaimed hfrom'
  constructor
  · have hfound : ((run control.next .empty requests).device i).isSome =
        ((run control.next .empty requests').device i).isSome := by
      have hget := congrArg Option.isSome (claimed_get halike i)
      rwa [Option.isSome_map, Option.isSome_map] at hget
    rw [hdevice, hdevice', Option.map_some, Option.map_some, Option.some.injEq, uncounted, uncounted,
      Prod.mk.injEq, hfrom.selection, hfrom'.selection, and_iff_right hcolumns]
    exact map_selection_iff hfound
  · have hlegible := reachable_legible ⟨_, rfl⟩ hdevice
    have hlegible' := reachable_legible ⟨_, rfl⟩ hdevice'
    ext1 entry
    rw [shown_some, shown_some]
    constructor
    · rintro ⟨_, device, hfound, hdecode, rfl⟩
      rw [hdevice] at hfound
      cases hfound
      obtain ⟨device', hdecode', hentry⟩ :=
        decode_entry hcolumns hlegible' hfrom'.aggregateRevision hdecode
      exact ⟨row', device', hdevice', hdecode', hentry⟩
    · rintro ⟨_, device, hfound, hdecode, rfl⟩
      rw [hdevice'] at hfound
      cases hfound
      obtain ⟨device', hdecode', hentry⟩ :=
        decode_entry hcolumns.symm hlegible hfrom.aggregateRevision hdecode
      exact ⟨row, device', hdevice, hdecode', hentry⟩

end TwoRuns

end DeviceControl

end Comparison

/-! ### A lamp that moves from one Owner to another -/

namespace Sample

/-- The first Owner claims the lamp. -/
def moveIn : List (HubRequest control) :=
  (Sample.handoff "e" "k" ++ [Sample.ack "e" 1]).map .admission

/-- Its first Owner allows the outputs. -/
def allowing : List (HubRequest control) := [.device (setPolicy "k" 1 0 true) (draws "allowed")]

/-- The first Owner gives it away. -/
def moveOut : List (HubRequest control) := [.admission (Sample.revoke "revoke" "k" 1)]

/-- The lamp enrolls again, for another Owner. -/
def enrollment : List (HubRequest control) :=
  [.admission (Sample.create "f" "k"), .admission (Sample.decide "f" .approve "bob"),
    .admission (Sample.collect "f")]

/-- The second Owner's Claim becomes active. -/
def activation : HubRequest control := .admission (Sample.ack "f" 2)

/-- The move, with what the first Owner asks in between. -/
def moved (asked : List (HubRequest control)) : List (HubRequest control) :=
  moveIn ++ asked ++ moveOut ++ enrollment

end Sample

theorem rehomed_iff_lamp :
    (((run Sample.control.next .empty (Sample.moved Sample.allowing ++ [Sample.activation])).device
          "device-k").map Sample.control.uncounted =
        ((run Sample.control.next .empty (Sample.moved [] ++ [Sample.activation])).device
          "device-k").map Sample.control.uncounted ↔
      ((run Sample.control.next .empty (Sample.moved Sample.allowing)).device "device-k").map
          Sample.control.selection =
        ((run Sample.control.next .empty (Sample.moved [])).device "device-k").map
          Sample.control.selection) ∧
    Sample.control.shown (run Sample.control.next .empty
        (Sample.moved Sample.allowing ++ [Sample.activation])) "device-k" =
      Sample.control.shown (run Sample.control.next .empty (Sample.moved [] ++ [Sample.activation]))
        "device-k" := by
  have hgrant : ∃ g ∈ (run Sample.control.next .empty (Sample.moved Sample.allowing)).tables.grants.rows,
      g.grantId = "grant-f" ∧ g.deviceRef = Sample.deviceRef "k" 2 := by decide +kernel
  obtain ⟨g, hg, hid, href⟩ := hgrant
  have hanswer : (answer (Command.transaction Sample.control.authority
      (.ackClaimGrant "ack-f" "f" "f" "grant-f" "signed" 2 1)
      { now := 3, eventId := "acknowledged-f", laterEventId := "activated-f" })
      (run Sample.control.next .empty (Sample.moved Sample.allowing)).tables).map (·.outcome) =
        some .committed := by decide +kernel
  obtain ⟨result, hresult, hnew⟩ := Option.map_eq_some_iff.mp hanswer
  have hmoved := DeviceControl.rehomed_iff Sample.control (Sample.moved Sample.allowing)
    (Sample.moved []) rfl (commits_of_answer hresult) hnew hg hid
  rw [href] at hmoved
  exact hmoved

/-- The device is this Owner's, or was. -/
def Hub.claim (h : Hub) (i : DeviceInstanceId) : Option (BusinessOwnerId × ClaimState) :=
  (h.tables.claims.get (·.deviceInstanceId) i).map fun c => (c.businessOwnerId, c.state)

/-- A request of Device Control about this device, in the name of this Owner. -/
def HubRequest.Configures {control : DeviceControl} (owner : BusinessOwnerId) (i : DeviceInstanceId) :
    HubRequest control → Prop
  | .admission _ => False
  | .device (.assertManifest assertion) _ => assertion.deviceRef.deviceInstanceId = i
  | .device (.setOutputPolicy command context) _ =>
    command.deviceRef.deviceInstanceId = i ∧ context.businessOwnerId = owner

/-- What the first Owner allowed the lamp is allowed still when it is the second Owner's. -/
theorem policy_is_carried_over : ¬ ∀ (control : DeviceControl)
    (before asked asked' revoking enrolling : List (HubRequest control)) (A B : BusinessOwnerId)
    (i : DeviceInstanceId), A ≠ B → (∀ r ∈ asked ++ asked', r.Configures A i) →
    (∀ during ∈ [asked, asked'],
      (run control.next .empty (before ++ during)).claim i = some (A, .active) ∧
      (run control.next .empty (before ++ during ++ revoking)).claim i = some (A, .revoked) ∧
      (run control.next .empty (before ++ during ++ revoking ++ enrolling)).claim i =
        some (B, .active)) →
    ((run control.next .empty (before ++ asked ++ revoking ++ enrolling)).device i).map
        control.uncounted =
      ((run control.next .empty (before ++ asked' ++ revoking ++ enrolling)).device i).map
        control.uncounted := by
  intro hclaim
  have hconfigures : ∀ r ∈ Sample.allowing ++ [], r.Configures "alice" "device-k" := by
    intro r hr
    rw [List.append_nil, Sample.allowing, List.mem_singleton] at hr
    subst hr
    exact ⟨rfl, rfl⟩
  have hheld : ∀ during ∈ [Sample.allowing, []],
      (run Sample.control.next .empty (Sample.moveIn ++ during)).claim "device-k" =
        some ("alice", .active) ∧
      (run Sample.control.next .empty (Sample.moveIn ++ during ++ Sample.moveOut)).claim "device-k" =
        some ("alice", .revoked) ∧
      (run Sample.control.next .empty (Sample.moveIn ++ during ++ Sample.moveOut ++
        (Sample.enrollment ++ [Sample.activation]))).claim "device-k" = some ("bob", .active) := by
    decide +kernel
  have hpolicies : ((run Sample.control.next .empty (Sample.moveIn ++ Sample.allowing ++ Sample.moveOut ++
      (Sample.enrollment ++ [Sample.activation]))).device "device-k").map (·.outputPolicyJson) =
        some (some "tn+") ∧
      ((run Sample.control.next .empty (Sample.moveIn ++ [] ++ Sample.moveOut ++
        (Sample.enrollment ++ [Sample.activation]))).device "device-k").map (·.outputPolicyJson) =
          some none := by
    decide +kernel
  have hsame := hclaim Sample.control Sample.moveIn Sample.allowing [] Sample.moveOut
    (Sample.enrollment ++ [Sample.activation]) "alice" "bob" "device-k" (by decide) hconfigures hheld
  obtain ⟨row, hrow, hpolicy⟩ := Option.map_eq_some_iff.mp hpolicies.1
  obtain ⟨row', hrow', hpolicy'⟩ := Option.map_eq_some_iff.mp hpolicies.2
  rw [hrow, hrow'] at hsame
  have hselection := congrArg Prod.snd (Option.some.inj hsame)
  simp only [DeviceControl.uncounted, DeviceControl.selection, hpolicy, hpolicy'] at hselection
  cases hselection

end EidolonHub.Devices
