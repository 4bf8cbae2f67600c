import EidolonHub.Admission.Identity
import EidolonHub.Devices.Activation

/-!
# EidolonHub.Devices.Reassertion

**Asserting an accepted Manifest again.** The Hub holds a Manifest as a text and the digest of
that text. Which text it is depends on who brought the Manifest: Admission keeps the RFC 8785
text whose digest the device declares, and an accepted assertion is written anew by
`json.dumps`. A device that asserts its Manifest again declares the digest of the first, so
the Hub recognises the second only where the two texts are one (`dumps_eq_jcs_iff`).

What is held for a generation of a device stays as it is through every request that accepts no
other Manifest for it (`holds_next`).
-/

namespace EidolonHub.Devices

open EidolonHub.Library EidolonHub.Library.Tx EidolonHub.Library.Python EidolonHub.Admission

namespace DeviceControl

variable {control : DeviceControl} {h h' : Hub} {ref : DeviceRef} {manifestId : String}
  {manifest : DeviceManifestDocument control.authority.crypto} {row : DeviceRow}
  {request : HubRequest control}

/-! ### What is held -/

/-- The row is of this generation of a device, and holds this Manifest. -/
def Reads (control : DeviceControl) (ref : DeviceRef) (manifestId : String)
    (manifest : DeviceManifestDocument control.authority.crypto) (row : DeviceRow) : Prop :=
  ∃ device : control.Device,
    decode control.authority.crypto control.presentation control.authority.ownerDomainId row = .ok device ∧
      device.deviceRef = ref ∧ device.manifestId = manifestId ∧ device.manifest = manifest

/-- The Hub holds this Manifest for this generation of a device. -/
def HoldsManifest (control : DeviceControl) (h : Hub) (ref : DeviceRef) (manifestId : String)
    (manifest : DeviceManifestDocument control.authority.crypto) : Prop :=
  ∃ row, h.device ref.deviceInstanceId = some row ∧ control.Reads ref manifestId manifest row

/-- A revoked row still holds its Manifest. -/
theorem Reads.revoke {deviceRef : DeviceRef} {now : Timestamp} (hreads : control.Reads ref manifestId manifest row) :
    control.Reads ref manifestId manifest (row.revoke deviceRef now) := by
  unfold DeviceRow.revoke
  split
  · obtain ⟨device, hdecode, href, hid, hmanifest⟩ := hreads
    obtain ⟨hdomain, hcolumns, hpolicy⟩ := decode_ok.mp hdecode
    refine ⟨{ device with
      lifecycleState := .revoked
      updatedAt := now
      aggregateRevision := device.aggregateRevision + 1
      valid := deviceProblem_succ device.valid }, decode_ok.mpr ⟨hdomain, ?_, hpolicy⟩, href, hid, hmanifest⟩
    rw [hcolumns]
    rfl
  · exact hreads

/-- A policy leaves the Manifest that is held. -/
theorem Revises.reads {draws : ControlDraws} {device : control.Device} {mutation : control.Mutation}
    {answer : control.Answer} {operation : control.Operation}
    (hrevises : Revises control draws device operation mutation answer)
    (hpolicy : ∀ assertion, operation ≠ .assertManifest assertion)
    (hreads : control.Reads ref manifestId manifest row)
    (hdecode : decode control.authority.crypto control.presentation control.authority.ownerDomainId row =
      .ok device) : control.Reads ref manifestId manifest mutation.device.values := by
  obtain ⟨device', hdecode', href, hid, hmanifest⟩ := hreads
  rw [hdecode] at hdecode'
  cases hdecode'
  have hdomain := (decode_ok.mp hdecode).1
  cases hrevises with
  | manifest => exact absurd rfl (hpolicy _)
  | @policy command =>
    refine ⟨control.withPolicy device (control.nextPolicy command device) draws.now, ?_, href, hid, hmanifest⟩
    rw [← hdomain]
    exact decode_values

/-! ### What takes its place -/

/-- A request that accepts another Manifest for a device: it changes the Hub, and it is an
assertion of the device or the acknowledgement of a grant of it. -/
def Supersedes (control : DeviceControl) (i : DeviceInstanceId) (h : Hub) (request : HubRequest control) :
    Prop :=
  control.next h request ≠ h ∧ match request with
    | .device (.assertManifest assertion) _ => assertion.deviceRef.deviceInstanceId = i
    | .admission (.command (.ackClaimGrant _ _ _ grantId _ _ _) _) =>
      ∃ g ∈ h.tables.grants, g.grantId = grantId ∧ g.deviceRef.deviceInstanceId = i
    | _ => False

/-- Moves that activate other devices leave what is held for this one. -/
theorem holds_follows {s s' : Registry} {moves : List Move}
    (hfollows : Registry.Follows control.authority s moves s')
    (hother : ∀ m ∈ moves, ∀ p g d a name published now, m = .acknowledge p g d a name published now →
      g.deviceRef.deviceInstanceId ≠ ref.deviceInstanceId)
    (hholds : ∃ row, s.device ref.deviceInstanceId = some row ∧ control.Reads ref manifestId manifest row) :
    ∃ row, s'.device ref.deviceInstanceId = some row ∧ control.Reads ref manifestId manifest row := by
  refine hfollows.inv_of (I := fun s => ∃ row, s.device ref.deviceInstanceId = some row ∧
    control.Reads ref manifestId manifest row) ?_ hother hholds
  intro s m hholds _ hother
  obtain ⟨row, hrow, hreads⟩ := hholds
  rcases device_apply s m ref.deviceInstanceId with hsame | ⟨row', deviceRef, now, hrow', hnext⟩ |
    ⟨p, g, d, a, name, published, now, hm, hi, -⟩
  · exact ⟨row, hsame.trans hrow, hreads⟩
  · rw [hrow] at hrow'
    cases hrow'
    exact ⟨_, hnext, hreads.revoke⟩
  · exact absurd hi (hother _ _ _ _ _ _ _ hm)

/-- A request of Admission that is no acknowledgement activates nothing. -/
theorem no_acknowledge {request : Request} {m : Move} (hmakes : request.makes m)
    (hack : ∀ commandId correlationId enrollmentId grantId proof generation epoch draws, request ≠
      .command (.ackClaimGrant commandId correlationId enrollmentId grantId proof generation epoch) draws)
    (p : ProposalRow) (g : GrantRow) (d : DecisionRow) (a : GrantAckRow) (name : String)
    (published : Event) (now : Timestamp) : m ≠ .acknowledge p g d a name published now := by
  rintro rfl
  cases request with
  | command cmd draws =>
    cases cmd with
    | ackClaimGrant => exact hack _ _ _ _ _ _ _ _ rfl
    | _ => simp [Request.makes] at hmakes
  | _ => simp [Request.makes] at hmakes

theorem holds_admission {request : Request}
    (hkept : ¬ control.Supersedes ref.deviceInstanceId h (.admission request))
    (hholds : control.HoldsManifest h ref manifestId manifest) :
    control.HoldsManifest (control.next h (.admission request)) ref manifestId manifest := by
  by_cases hack : ∃ commandId correlationId enrollmentId grantId proof generation epoch draws, request =
      .command (.ackClaimGrant commandId correlationId enrollmentId grantId proof generation epoch) draws
  · obtain ⟨commandId, correlationId, enrollmentId, grantId, proof, generation, epoch, draws, rfl⟩ := hack
    rcases AdmissionAuthority.next_command_cases control.authority h.tables (.ackClaimGrant commandId
      correlationId enrollmentId grantId proof generation epoch) draws with ⟨r, hcommit⟩ | hsame
    · obtain ⟨fp, -, hsession⟩ := AdmissionAuthority.command_commits hcommit
      rcases AdmissionAuthority.ackClaimGrant_follows hsession with ⟨hsame, -⟩ |
        ⟨-, p, g, d, name, published, -, hid, hfollows⟩
      · rw [next, hsame]
        exact hholds
      · by_cases hchange : control.next h (.admission (.command (.ackClaimGrant commandId correlationId
            enrollmentId grantId proof generation epoch) draws)) = h
        · rw [hchange]
          exact hholds
        · refine holds_follows hfollows ?_ hholds
          intro m hm p' g' d' a name' published' now hm'
          rw [List.mem_singleton.mp hm] at hm'
          cases hm'
          intro hi
          exact hkept ⟨hchange, g, Tables.hasGrant_iff.mp hfollows.1.1.2.2.1, hid, hi⟩
    · rw [next, hsame]
      exact hholds
  · obtain ⟨moves, hmakes, hfollows⟩ := AdmissionAuthority.next_makes control.authority h.tables request
    refine holds_follows hfollows ?_ hholds
    intro m hm p g d a name published now hm'
    refine absurd hm' (no_acknowledge (hmakes m hm) ?_ p g d a name published now)
    intro commandId correlationId enrollmentId grantId proof generation epoch draws hrequest
    exact hack ⟨_, _, _, _, _, _, _, _, hrequest⟩

/-- **What is held stays** through a request that accepts no other Manifest. -/
theorem holds_next (hkept : ¬ control.Supersedes ref.deviceInstanceId h request)
    (hholds : control.HoldsManifest h ref manifestId manifest) :
    control.HoldsManifest (control.next h request) ref manifestId manifest := by
  cases request with
  | admission request => exact holds_admission hkept hholds
  | device operation draws =>
    rcases execute_cases operation draws h with hsame | ⟨device, mutation, answer, -, hrevises, hcommitted⟩
    · rw [next, hsame]
      exact hholds
    · obtain ⟨row, hrow, hreads⟩ := hholds
      have hdevice := hcommitted.device ref.deviceInstanceId
      by_cases hi : ref.deviceInstanceId = mutation.device.deviceId
      · rw [if_pos hi] at hdevice
        refine ⟨_, hdevice, ?_⟩
        obtain ⟨row', hrow', hdecode⟩ := hcommitted.row hrevises
        rw [← hi, hrow] at hrow'
        cases hrow'
        refine hrevises.reads ?_ hreads hdecode
        rintro assertion rfl
        apply hkept
        refine ⟨fun hsame => ?_, hrevises.deviceId.symm.trans hi.symm⟩
        -- a commit leaves a row at a higher revision, so it changes the Hub
        rw [next] at hsame
        rw [hsame, hrow] at hdevice
        have hrevision := hrevises.same.2.2.2.2.2.2
        rw [Option.some.inj hdevice] at hdecode
        have hcolumns := congrArg DeviceRow.aggregateRevision (decode_ok.mp hdecode).2.1
        change mutation.device.aggregateRevision = device.aggregateRevision at hcolumns
        omega
      · rw [if_neg hi] at hdevice
        exact ⟨row, hdevice.trans hrow, hreads⟩

/-! ### Accepting a Manifest -/

/-- An assertion that changes nothing is answered as unchanged. -/
theorem planAssertion_settled {assertion : AssertDeviceManifest} {draws : ControlDraws}
    {current : Option control.Device} {answer : control.Answer} {followed : Bool}
    (hplan : control.planAssertion assertion draws current = .ok (.settled answer followed)) :
    ∃ acceptance, answer = .accepted acceptance ∧ acceptance.outcome = .unchanged := by
  cases current with
  | none => cases hplan
  | some device =>
    simp only [planAssertion] at hplan
    by_cases href : device.deviceRef ≠ assertion.deviceRef
    · rw [if_pos href] at hplan
      cases hplan
    · by_cases hname : assertion.manifest.manifestId ≠ device.manifestId
      · rw [if_neg href, if_pos hname] at hplan
        cases hplan
      · rw [if_neg href, if_neg hname] at hplan
        cases hdeclared : DeviceManifestDocument.fromDeclaration control.authority.crypto
            assertion.manifest.document assertion.manifest.revision with
        | error e =>
          rw [hdeclared] at hplan
          cases hplan
        | ok manifest =>
          simp only [hdeclared] at hplan
          split_ifs at hplan
          · cases hplan
            exact ⟨_, rfl, rfl⟩
          · cases (writes_ok.mp hplan).2

/-- An assertion that is answered as accepted has changed its device. -/
theorem execute_accepted {assertion : AssertDeviceManifest} {draws : ControlDraws}
    (hanswer : (control.execute (.assertManifest assertion) draws h).1 =
      .ok (.accepted ⟨assertion.deviceRef, assertion.nonce, assertion.manifest.ref, .accepted,
        draws.answeredAt⟩)) :
    ∃ device mutation answer, Revises control draws device (.assertManifest assertion) mutation answer ∧
      Committed control mutation h (control.execute (.assertManifest assertion) draws h).2 := by
  unfold execute at hanswer ⊢
  split at hanswer
  · cases hanswer
  next hauthorized =>
  split at hanswer
  · cases hanswer
  next current hread =>
  split at hanswer
  · cases hanswer
  · next answer followed hplan =>
    obtain ⟨acceptance, rfl, hunchanged⟩ := planAssertion_settled hplan
    unfold finish at hanswer
    split at hanswer
    · cases hanswer
    · cases hanswer
      cases hunchanged
  · next mutation answer hplan =>
    split at hanswer
    · cases hanswer
    · next u h' hcommit =>
      obtain ⟨device, -, hrevises⟩ := plan_write hplan
      exact ⟨device, mutation, answer, hrevises, commit_commits hcommit⟩

/-- **An accepted assertion** is held with the text `from_declaration` gives it. -/
theorem holds_of_assertion {assertion : AssertDeviceManifest} {draws : ControlDraws}
    (hanswer : (control.execute (.assertManifest assertion) draws h).1 =
      .ok (.accepted ⟨assertion.deviceRef, assertion.nonce, assertion.manifest.ref, .accepted,
        draws.answeredAt⟩)) :
    ∃ manifest, DeviceManifestDocument.fromDeclaration control.authority.crypto
        assertion.manifest.document assertion.manifest.revision = .ok manifest ∧
      control.HoldsManifest (control.next h (.device (.assertManifest assertion) draws))
        assertion.deviceRef assertion.manifest.manifestId manifest := by
  obtain ⟨device, mutation, answer, hrevises, hcommitted⟩ := execute_accepted hanswer
  obtain ⟨row, -, hdecode⟩ := hcommitted.row hrevises
  have hdomain := (decode_ok.mp hdecode).1
  have hdevice := hcommitted.device assertion.deviceRef.deviceInstanceId
  have hi : assertion.deviceRef.deviceInstanceId = mutation.device.deviceId := hrevises.deviceId.symm
  rw [if_pos hi] at hdevice
  cases hrevises with
  | @manifest _ manifest href hid hdeclared =>
    refine ⟨manifest, hdeclared, _, hdevice, control.withManifest device manifest draws.now, ?_, href,
      hid.symm, rfl⟩
    rw [← hdomain]
    exact decode_values

/-- The Manifest a Proposal was created with. -/
def Declares (crypto : Crypto) (p : ProposalRow) (declaration : ManifestDeclaration) : Prop :=
  p.manifestRef = declaration.ref ∧ crypto.rfc8785Dumps declaration.document = .ok p.manifestJson

/-- **An acknowledged Manifest** is held with the text of the Proposal, once the device can be read. -/
theorem holds_of_ack {commandId : CommandId} {correlationId : CorrelationId} {enrollmentId : EnrollmentId}
    {grantId : GrantId} {operationalKeyProof : String} {storedClaimGeneration storedTrustEpoch : Nat}
    {draws : Draws} {result : CommandResult} {t : Tables} {g : GrantRow} {p : ProposalRow}
    (hsound : h.tables.registry.Sound control.authority)
    (hack : Commits (Command.transaction control.authority (.ackClaimGrant commandId correlationId
      enrollmentId grantId operationalKeyProof storedClaimGeneration storedTrustEpoch) draws) h.tables
      result t)
    (hnew : result.outcome = .committed) (hg : g ∈ h.tables.grants) (hid : g.grantId = grantId)
    (hp : p ∈ h.tables.proposals) (he : p.enrollmentId = enrollmentId)
    (hread : ∃ device, control.getDevice (control.next h (.admission (.command (.ackClaimGrant commandId
      correlationId enrollmentId grantId operationalKeyProof storedClaimGeneration storedTrustEpoch)
      draws))) g.deviceRef.deviceInstanceId = .ok (some device)) :
    ∃ manifest, manifest.canonicalJson = p.manifestJson ∧ manifest.digest = p.manifestDigest ∧
      manifest.declaredRevision = p.manifestRevision ∧
      control.HoldsManifest (control.next h (.admission (.command (.ackClaimGrant commandId correlationId
        enrollmentId grantId operationalKeyProof storedClaimGeneration storedTrustEpoch) draws)))
        g.deviceRef p.manifestId manifest := by
  have hnext : (control.next h (.admission (.command (.ackClaimGrant commandId correlationId enrollmentId
      grantId operationalKeyProof storedClaimGeneration storedTrustEpoch) draws))).tables = t :=
    attempt_of_commits (commits_bind.mpr ⟨result, t, hack, commits_pure.mpr ⟨rfl, rfl⟩⟩)
  obtain ⟨p', row, hp', hrow, hfrom⟩ := ack_activates hack hnew hg hid
  rw [← he, Table.get_of_mem proposal_enrollmentId_isKey hp] at hp'
  cases hp'
  obtain ⟨device, hget⟩ := hread
  rcases getDevice_ok.mp hget with ⟨-, hnone⟩ | ⟨row', _, hrow', hsame, hdecode⟩
  · cases hnone
  cases hsame
  rw [Hub.device, hnext, hrow] at hrow'
  cases hrow'
  obtain ⟨hdomain, hcolumns, -⟩ := decode_ok.mp hdecode
  have hkey : row.deviceId = g.deviceRef.deviceInstanceId := Table.get_key hrow
  -- the grant was issued for this Owner Domain
  have hissued : g.deviceRef.ownerDomainId = control.authority.ownerDomainId := by
    have hdossier : (h.tables.registry.dossier g.enrollmentId).grant = some g :=
      Tables.hasGrant_iff.mpr hg
    obtain ⟨q, d, hq, -, -, -, -, happroval⟩ := (hsound.legal g.enrollmentId).granted hdossier
    rw [happroval.deviceRef]
    exact ((hsound.legal g.enrollmentId).proposal hq).2.1
  refine ⟨device.manifest, ?_, ?_, ?_, row, by rw [Hub.device, hnext, hrow], device, hdecode, ?_, ?_, rfl⟩
  · exact (congrArg DeviceRow.manifestJson hcolumns).symm.trans hfrom.manifestJson
  · exact (congrArg DeviceRow.manifestRevision hcolumns).symm.trans hfrom.manifestRevision
  · exact (congrArg DeviceRow.manifestDeclaredRevision hcolumns).symm.trans hfrom.manifestDeclaredRevision
  · have hdevice : device.deviceRef = ⟨row.deviceId, control.authority.ownerDomainId,
        row.ownerDomainGeneration, row.claimGeneration, row.trustEpoch⟩ := by
      rw [hcolumns, ← hdomain]
      rfl
    rw [hdevice, hkey, hfrom.ownerDomainGeneration, hfrom.claimGeneration, hfrom.trustEpoch, ← hissued]
  · exact (congrArg DeviceRow.manifestId hcolumns).symm.trans hfrom.manifestId

/-! ### Where a Proposal has its Manifest from -/

theorem verifyEnrollment_manifest {authority : AdmissionAuthority} {payload : CreateEnrollment}
    {enrolled : AdmissionAuthority.VerifiedEnrollment} {now : Timestamp}
    (h : authority.verifyEnrollment payload now = .ok enrolled) :
    authority.crypto.rfc8785Dumps payload.manifest.document = .ok enrolled.canonicalManifest ∧
      payload.manifest.digest = authority.crypto.digest enrolled.canonicalManifest := by
  unfold AdmissionAuthority.verifyEnrollment at h
  simp only at h
  split at h
  · cases h
  obtain ⟨_, -, h⟩ := except_bind_ok.mp h
  obtain ⟨_, -, h⟩ := except_bind_ok.mp h
  obtain ⟨_, -, h⟩ := except_bind_ok.mp h
  split at h
  · cases h
  obtain ⟨_, -, h⟩ := except_bind_ok.mp h
  obtain ⟨_, -, h⟩ := except_bind_ok.mp h
  split at h
  · cases h
  next canonicalManifest hdumps =>
  split at h
  · cases h
  next hdigest =>
  cases h
  exact ⟨hdumps, not_not.mp hdigest⟩

/-- **Every Proposal holds the RFC 8785 text of the Manifest it was created with**, and its digest. -/
theorem proposal_declares (requests : List (HubRequest control)) {p : ProposalRow}
    (hp : p ∈ (run control.next .empty requests).tables.proposals) :
    ∃ commandId correlationId payload draws,
      .admission (.command (.createEnrollment commandId correlationId payload) draws) ∈ requests ∧
      draws.enrollmentId = p.enrollmentId ∧ Declares control.authority.crypto p payload.manifest ∧
      payload.manifest.digest = control.authority.crypto.digest p.manifestJson := by
  refine @run_history _ _ control.next
    (fun requests (h : Hub) => ∀ p ∈ h.tables.proposals, ∃ commandId correlationId payload draws,
      .admission (.command (.createEnrollment commandId correlationId payload) draws) ∈ requests ∧
      draws.enrollmentId = p.enrollmentId ∧ Declares control.authority.crypto p payload.manifest ∧
      payload.manifest.digest = control.authority.crypto.digest p.manifestJson) .empty ?_ ?_ requests p hp
  · intro p hp
    cases hp
  · intro requests request hall p' hp'
    -- a Proposal on file is later the same Proposal
    have hkept : ∀ p, ((run control.next .empty requests).tables.registry.dossier p'.enrollmentId).proposal =
          some p → p.Later p' →
        ∃ commandId correlationId payload draws,
          .admission (.command (.createEnrollment commandId correlationId payload) draws) ∈
            requests ++ [request] ∧
          draws.enrollmentId = p'.enrollmentId ∧ Declares control.authority.crypto p' payload.manifest ∧
          payload.manifest.digest = control.authority.crypto.digest p'.manifestJson := by
      intro p hp hlater
      obtain ⟨commandId, correlationId, payload, draws, hmem, he, hdeclares, hdigest⟩ :=
        hall p (Table.get_mem hp)
      rw [hlater.same]
      exact ⟨commandId, correlationId, payload, draws, List.mem_append_left _ hmem, he, hdeclares, hdigest⟩
    cases request with
    | device operation draws =>
      rcases execute_cases operation draws (run control.next .empty requests) with hsame |
        ⟨device, mutation, answer, -, -, hcommitted⟩
      · rw [next, hsame] at hp'
        exact hkept p' (Tables.hasProposal_iff.mpr hp') (.refl p')
      · obtain ⟨devices, htables⟩ := hcommitted.tables
        rw [next, htables] at hp'
        exact hkept p' (Tables.hasProposal_iff.mpr hp') (.refl p')
    | admission request =>
      have hdossier := Tables.hasProposal_iff.mpr hp'
      rcases AdmissionAuthority.next_cases control.authority (run control.next .empty requests).tables
        request with ⟨payload, enrolled, draws, henrolls⟩ | ⟨-, -, hearlier⟩
      · obtain ⟨-, ⟨p, hp, hlater⟩, hearlier⟩ := henrolls.proposals
        by_cases he : p'.enrollmentId = draws.enrollmentId
        · unfold Registry.HasProposal at hdossier
          rw [he] at hdossier
          obtain rfl : p' = p := Option.some.inj (hdossier.symm.trans hp)
          obtain ⟨commandId, correlationId, fp, r, rfl, -, -⟩ := henrolls.commits
          obtain ⟨hdumps, hdigest⟩ := verifyEnrollment_manifest henrolls.verified
          rw [hlater.same]
          exact ⟨commandId, correlationId, payload, draws, by simp, rfl, ⟨rfl, hdumps⟩, hdigest⟩
        · obtain ⟨p, hp, hlater⟩ := hearlier _ _ he hdossier
          exact hkept p hp hlater
      · obtain ⟨p, hp, hlater⟩ := hearlier _ _ hdossier
        exact hkept p hp hlater

/-! ### Asserting it again -/

/-- Asserting what is held, with the same revision, changes nothing; it is answered as unchanged
where the digest is that of the text that is held. -/
theorem execute_held {assertion : AssertDeviceManifest} {again : DeviceManifestDocument control.authority.crypto}
    (draws : ControlDraws) (hholds : control.HoldsManifest h assertion.deviceRef assertion.manifest.manifestId manifest)
    (hauthorized : control.authorize h.tables (.assertManifest assertion) = .ok ())
    (hagain : DeviceManifestDocument.fromDeclaration control.authority.crypto assertion.manifest.document
      assertion.manifest.revision = .ok again)
    (hrevision : manifest.declaredRevision = assertion.manifest.revision) :
    control.execute (.assertManifest assertion) draws h =
      (if assertion.manifest.digest = manifest.digest then .ok (.accepted ⟨assertion.deviceRef,
          assertion.nonce, assertion.manifest.ref, .unchanged, draws.answeredAt⟩)
        else .error (.manifestRevision "manifest revision was reused for different content"), h) := by
  obtain ⟨row, hrow, device, hdecode, href, hid, rfl⟩ := hholds
  have hread : control.getDevice h assertion.deviceRef.deviceInstanceId = .ok (some device) :=
    getDevice_ok.mpr (.inr ⟨row, device, hrow, rfl, hdecode⟩)
  have hsame : assertion.manifest.ref = device.manifestRef ↔
      assertion.manifest.digest = device.manifest.digest := by
    simp [ManifestDeclaration.ref, ManagedDevice.manifestRef, hid, hrevision]
  simp only [execute, hauthorized, Operation.deviceRef, hread, plan, planAssertion, href, hid, hagain, hrevision, ne_eq,
    not_true_eq_false, Nat.lt_irrefl, if_false, if_true, hsame, ite_not]
  by_cases hdigest : assertion.manifest.digest = device.manifest.digest
  · simp only [hdigest, if_true, finish, Bool.false_and, Bool.false_eq_true, if_false]
    rw [← hsame.mpr hdigest]
  · simp only [hdigest, if_false]

/-- What is relied on of the texts of a document: RFC 8785 has a text for it and the library writes
that; `json.loads` reads an object with the same `schema_version` back from either text; SHA-256
tells the two texts apart. -/
structure Encodes (crypto : Crypto) (document : Json) : Prop where
  wellFormed : document.WellFormed
  rfc8785Dumps : crypto.rfc8785Dumps document = .ok (jcs document)
  jsonLoads : ∀ text ∈ [dumps document, jcs document], ∃ value, crypto.jsonLoads text = some value ∧
    value.isObject = document.isObject ∧ (value.field "schema_version").all equalsOne =
      (document.field "schema_version").all equalsOne
  sha256 : crypto.sha256 (dumps document) = crypto.sha256 (jcs document) → dumps document = jcs document

theorem Encodes.digest_iff {crypto : Crypto} {document : Json} (h : Encodes crypto document) :
    crypto.digest (jcs document) = crypto.digest (dumps document) ↔ document.Plain := by
  rw [← dumps_eq_jcs_iff h.wellFormed]
  constructor
  · intro hdigest
    refine h.sha256 ?_
    simpa [Crypto.digest] using hdigest.symm
  · intro htext
    rw [htext]

/-- A document that is valid as RFC 8785 writes it is valid as `json.dumps` writes it. -/
theorem Encodes.fromDeclaration {crypto : Crypto} {document : Json} (h : Encodes crypto document)
    (accepted : DeviceManifestDocument crypto) (htext : accepted.canonicalJson = jcs document) :
    ∃ again, DeviceManifestDocument.fromDeclaration crypto document accepted.declaredRevision =
      .ok again := by
  obtain ⟨⟨value, hread, hobject, hschema⟩, hrevision, -⟩ := manifestProblem_eq_none.mp accepted.valid
  obtain ⟨value', hread', hobject', hschema'⟩ := h.jsonLoads (jcs document) (by simp)
  rw [htext, hread'] at hread
  cases hread
  obtain ⟨value', hread', hobject'', hschema''⟩ := h.jsonLoads (dumps document) (by simp)
  have hvalid : manifestProblem crypto (dumps document) (crypto.digest (dumps document))
      accepted.declaredRevision = none :=
    manifestProblem_eq_none.mpr ⟨⟨value', hread', by rw [hobject'', ← hobject', hobject],
      by rw [hschema'', ← hschema', hschema]⟩, hrevision, rfl⟩
  refine ⟨⟨_, _, _, hvalid⟩, ?_⟩
  rw [DeviceManifestDocument.fromDeclaration, if_pos (hobject'.symm.trans hobject)]
  exact DeviceManifestDocument.make_ok.mpr ⟨rfl, rfl, rfl⟩

/-- What a Manifest is brought with. -/
inductive Carrier where
  | ack | assertion
  deriving DecidableEq

/-- The Hub answers a request by accepting a Manifest for a generation of a device: an assertion of
it, or the acknowledgement of a grant for a Proposal that was created with it, once the device
is projected. -/
inductive Accepts (control : DeviceControl) (h : Hub) :
    Carrier → HubRequest control → DeviceRef → ManifestDeclaration → Prop where
  | assertion {assertion : AssertDeviceManifest} {draws : ControlDraws}
      (answered : (control.execute (.assertManifest assertion) draws h).1 =
        .ok (.accepted ⟨assertion.deviceRef, assertion.nonce, assertion.manifest.ref, .accepted,
          draws.answeredAt⟩)) :
      Accepts control h .assertion (.device (.assertManifest assertion) draws) assertion.deviceRef
        assertion.manifest
  | ack {commandId : CommandId} {correlationId : CorrelationId} {enrollmentId : EnrollmentId}
      {grantId : GrantId} {operationalKeyProof : String} {storedClaimGeneration storedTrustEpoch : Nat}
      {draws : Draws} {result : CommandResult} {t : Tables} {g : GrantRow} {p : ProposalRow}
      {declaration : ManifestDeclaration}
      (committed : Commits (Command.transaction control.authority (.ackClaimGrant commandId
        correlationId enrollmentId grantId operationalKeyProof storedClaimGeneration storedTrustEpoch)
        draws) h.tables result t)
      (new : result.outcome = .committed) (grant : g ∈ h.tables.grants) (grant_grantId : g.grantId = grantId)
      (proposal : p ∈ h.tables.proposals) (proposal_enrollmentId : p.enrollmentId = enrollmentId)
      (declares : Declares control.authority.crypto p declaration)
      (projected : ∃ device, control.getDevice (control.next h (.admission (.command (.ackClaimGrant
        commandId correlationId enrollmentId grantId operationalKeyProof storedClaimGeneration
        storedTrustEpoch) draws))) g.deviceRef.deviceInstanceId = .ok (some device)) :
      Accepts control h .ack (.admission (.command (.ackClaimGrant commandId correlationId enrollmentId
        grantId operationalKeyProof storedClaimGeneration storedTrustEpoch) draws)) g.deviceRef declaration

/-- What is held after a Manifest is accepted: the RFC 8785 text after an acknowledgement, and the
text of `json.dumps` after an assertion. -/
theorem Accepts.holds {before : List (HubRequest control)} {carrier : Carrier}
    {declaration : ManifestDeclaration}
    (haccepts : Accepts control (run control.next .empty before) carrier request ref declaration)
    (hencodes : Encodes control.authority.crypto declaration.document)
    (hdigest : carrier = .assertion →
      declaration.digest = control.authority.crypto.digest (jcs declaration.document)) :
    declaration.digest = control.authority.crypto.digest (jcs declaration.document) ∧
    (∃ again, DeviceManifestDocument.fromDeclaration control.authority.crypto declaration.document
      declaration.revision = .ok again) ∧
    ∃ manifest, manifest.declaredRevision = declaration.revision ∧
      manifest.digest = control.authority.crypto.digest
        (if carrier = .ack then jcs declaration.document else dumps declaration.document) ∧
      control.HoldsManifest (control.next (run control.next .empty before) request) ref
        declaration.manifestId manifest := by
  cases haccepts with
  | assertion answered =>
    obtain ⟨manifest, hdeclared, hholds⟩ := holds_of_assertion answered
    obtain ⟨-, htext, hrevision⟩ := DeviceManifestDocument.fromDeclaration_ok hdeclared
    exact ⟨hdigest rfl, ⟨manifest, hdeclared⟩, manifest, hrevision, htext, hholds⟩
  | ack committed new grant grant_grantId proposal proposal_enrollmentId declares projected =>
    obtain ⟨manifest, hjson, hdigest, hrevision, hholds⟩ := holds_of_ack
      (reachable_sound ⟨before, rfl⟩) committed new grant grant_grantId proposal proposal_enrollmentId
      projected
    obtain ⟨hdeclares, hdumps⟩ := declares
    simp only [ProposalRow.manifestRef, ManifestDeclaration.ref, ManifestRef.mk.injEq] at hdeclares
    obtain ⟨hid, hrev, hdig⟩ := hdeclares
    rw [hencodes.rfc8785Dumps] at hdumps
    have htext : manifest.canonicalJson = jcs declaration.document :=
      hjson.trans (Except.ok.inj hdumps).symm
    have hheld := manifest.digest_eq
    rw [htext] at hheld
    refine ⟨by rw [← hdig, ← hdigest, hheld], ?_, manifest, hrevision.trans hrev, hheld, hid ▸ hholds⟩
    rw [← hrev, ← hrevision]
    exact hencodes.fromDeclaration manifest htext

/-- **Re-asserting an accepted Manifest is a no-op** for every Manifest that was acknowledged, and
for those accepted from an assertion exactly where the two canonical texts of the document are one:
as long as no other is accepted, the Hub stores the digest the device declared, answers the
assertion as unchanged, and writes nothing. -/
theorem reassertion_unchanged_iff (control : DeviceControl) (before after : List (HubRequest control))
    {request : HubRequest control} {carrier : Carrier} {ref : DeviceRef} {declaration : ManifestDeclaration}
    (haccepts : Accepts control (run control.next .empty before) carrier request ref declaration)
    (hencodes : Encodes control.authority.crypto declaration.document)
    (hdigest : carrier = .assertion →
      declaration.digest = control.authority.crypto.digest (jcs declaration.document))
    (hlatest : Along control.next (fun h r => ¬ control.Supersedes ref.deviceInstanceId h r)
      (run control.next .empty (before ++ [request])) after)
    (assertion : AssertDeviceManifest) (href : assertion.deviceRef = ref)
    (hmanifest : assertion.manifest = declaration)
    (hauthorized : control.authorize (run control.next .empty (before ++ request :: after)).tables
      (.assertManifest assertion) = .ok ()) (draws : ControlDraws) :
    let h := run control.next .empty (before ++ request :: after);
    ((h.device ref.deviceInstanceId).map (·.manifestRevision) = some declaration.digest ∧
      control.execute (.assertManifest assertion) draws h = (.ok (.accepted ⟨ref, assertion.nonce,
        declaration.ref, .unchanged, draws.answeredAt⟩), h)) ↔
    carrier = .ack ∨ declaration.document.Plain := by
  intro h
  obtain ⟨hdeclared, ⟨again, hagain⟩, manifest, hrevision, htext, hholds⟩ :=
    haccepts.holds hencodes hdigest
  have hholds : control.HoldsManifest h ref declaration.manifestId manifest := by
    rw [← run_concat control.next] at hholds
    have hrun := run_inv_along (I := fun h => control.HoldsManifest h ref declaration.manifestId manifest)
      (fun _ _ hholds hkept => holds_next hkept hholds) hholds hlatest
    rwa [← run_append, List.append_assoc] at hrun
  have hstored : (h.device ref.deviceInstanceId).map (·.manifestRevision) = some manifest.digest := by
    obtain ⟨row, hrow, device, hdecode, -, -, rfl⟩ := hholds
    rw [hrow, (decode_ok.mp hdecode).2.1]
    rfl
  subst href hmanifest
  rw [hstored, execute_held draws hholds hauthorized hagain hrevision, Option.some.injEq]
  -- an acknowledged document is stored with its declared digest, an asserted one with that of its
  -- text
  have hsame : assertion.manifest.digest = manifest.digest ↔
      carrier = .ack ∨ assertion.manifest.document.Plain := by
    rw [hdeclared, htext]
    cases carrier with
    | ack => simp
    | assertion => simpa using hencodes.digest_iff
  by_cases hequal : assertion.manifest.digest = manifest.digest
  · rw [if_pos hequal]
    exact iff_of_true ⟨hequal.symm, rfl⟩ (hsame.mp hequal)
  · exact iff_of_false (fun hboth => hequal hboth.1.symm) fun hplain => hequal (hsame.mpr hplain)

end DeviceControl

/-! ### A plain Manifest, and one with a whole number written as a float -/

open DeviceControl

namespace Sample

/-- A document with the number 1.0 in it. -/
def one : Json := .obj [("x", .float 0x3ff0000000000000)]

/-- A document with several keys and a number that is laid out alike. -/
def settings : Json :=
  .obj [("brightness", .float 0x3fe0000000000000), ("level", .int 80), ("name", .str "lamp")]

/-- What is read back from their texts; the first Manifest is empty. -/
def loads (text : String) : Option Json :=
  if text = dumps settings then some settings
  else if text = dumps one then some one
  else if text = jcs one then some (.obj [("x", .int 1)])
  else some (.obj [])

/-- The primitives of the sample with the RFC 8785 text. -/
def exactCrypto : Crypto :=
  { Sample.crypto with rfc8785Dumps := fun value => .ok (jcs value), jsonLoads := loads }

/-- Device control over these primitives. -/
def exact : DeviceControl :=
  { control with authority := { Sample.authority with crypto := exactCrypto } }

/-- The declaration of that document. -/
def oneDeclaration : ManifestDeclaration := ⟨"lamp", 2, exactCrypto.digest (jcs one), one⟩

/-- The device asserts it. -/
def oneAssertion : AssertDeviceManifest :=
  ⟨Sample.deviceRef "k" 1, oneDeclaration, "nonce", "k", "signed"⟩

/-- The device is claimed. -/
def exactlyClaimed : List (HubRequest exact) :=
  (Sample.handoff "e" "k" ++ [Sample.ack "e" 1]).map .admission

/-- The acceptance a call is answered with. -/
def acceptance : Except ControlError exact.Answer → Option Acceptance
  | .ok (.accepted acceptance) => some acceptance
  | _ => none

theorem eq_of_acceptance {answer : Except ControlError exact.Answer} {accepted : Acceptance}
    (h : acceptance answer = some accepted) : answer = .ok (.accepted accepted) := by
  unfold acceptance at h
  split at h
  · rw [Option.some.inj h]
  · cases h

/-- The declaration of the document with several keys. -/
def settingsDeclaration : ManifestDeclaration := ⟨"lamp", 2, exactCrypto.digest (jcs settings), settings⟩

theorem exact_loads : exact.authority.crypto.jsonLoads = loads := by
  simp only [exact, exactCrypto]

/-- The device asserts the document with several keys. -/
def settingsAssertion : AssertDeviceManifest :=
  ⟨Sample.deviceRef "k" 1, settingsDeclaration, "nonce", "k", "signed"⟩

/-- The Owner allows outputs in the meantime. -/
def allowed : HubRequest exact :=
  .device (.setOutputPolicy ⟨Sample.deviceRef "k" 1, 0, true, none⟩ (controller "alice")) (Sample.draws "allowed")

theorem settings_encodes : Encodes exact.authority.crypto settings where
  wellFormed := by
    refine ⟨by decide, ?_, trivial, trivial, trivial⟩
    show isFinite _ = true
    decide
  rfc8785Dumps := rfl
  jsonLoads := by
    have hsame : jcs settings = dumps settings := by decide +kernel
    have hdumps : loads (dumps settings) = some settings := by rw [loads, if_pos rfl]
    intro text htext
    rw [exact_loads]
    simp only [hsame, List.mem_cons, List.not_mem_nil, or_false, or_self] at htext
    subst htext
    exact ⟨settings, hdumps, rfl, rfl⟩
  sha256 := id

theorem one_encodes : Encodes exact.authority.crypto one where
  wellFormed := by
    refine ⟨by decide, ?_, trivial⟩
    show isFinite _ = true
    decide
  rfc8785Dumps := rfl
  jsonLoads := by
    have hother : dumps one ≠ dumps settings ∧ jcs one ≠ dumps settings ∧ jcs one ≠ dumps one := by
      decide +kernel
    obtain ⟨hdumps, hjcs, hne⟩ := hother
    replace hdumps : loads (dumps one) = some one := by rw [loads, if_neg hdumps, if_pos rfl]
    replace hjcs : loads (jcs one) = some (.obj [("x", .int 1)]) := by
      rw [loads, if_neg hjcs, if_neg hne, if_pos rfl]
    intro text htext
    rw [exact_loads]
    simp only [List.mem_cons, List.not_mem_nil, or_false] at htext
    rcases htext with rfl | rfl
    · exact ⟨_, hdumps, rfl, rfl⟩
    · exact ⟨_, hjcs, rfl, rfl⟩
  sha256 := id

end Sample

/-- An accepted document with several keys is found unchanged when it is asserted again. -/
theorem reassertion_unchanged_lamp :
    let h := run Sample.exact.next .empty (Sample.exactlyClaimed ++
      .device (.assertManifest Sample.settingsAssertion) (Sample.draws "settings") ::
        [Sample.allowed]);
    (h.device "device-k").map (·.manifestRevision) = some Sample.settingsDeclaration.digest ∧
      Sample.exact.execute (.assertManifest Sample.settingsAssertion) (Sample.draws "again") h =
        (.ok (.accepted ⟨Sample.deviceRef "k" 1, "nonce", Sample.settingsDeclaration.ref, .unchanged, 6⟩), h) := by
  have haccepted : Sample.acceptance (Sample.exact.execute (.assertManifest Sample.settingsAssertion)
      (Sample.draws "settings") (run Sample.exact.next .empty Sample.exactlyClaimed)).1 =
        some ⟨Sample.settingsAssertion.deviceRef, "nonce", Sample.settingsDeclaration.ref, .accepted, 6⟩ := by
    decide +kernel
  have hplain : Sample.settings.Plain := (dumps_eq_jcs_iff Sample.settings_encodes.wellFormed).mp (by decide +kernel)
  exact (reassertion_unchanged_iff Sample.exact Sample.exactlyClaimed [Sample.allowed]
    (.assertion (Sample.eq_of_acceptance haccepted)) Sample.settings_encodes (fun _ => rfl)
    ⟨fun hsuperseded => hsuperseded.2, trivial⟩ Sample.settingsAssertion rfl rfl (by decide +kernel)
    (Sample.draws "again")).mpr (.inr hplain)

/-- An accepted document with a whole number written as a float is stored under another digest than
the device declares, so the device that asserts it again is refused. -/
theorem reassertion_is_refused : ¬ ∀ (control : DeviceControl) (before after : List (HubRequest control))
    (request : HubRequest control) (carrier : Carrier) (ref : DeviceRef) (declaration : ManifestDeclaration),
    Accepts control (run control.next .empty before) carrier request ref declaration →
    Encodes control.authority.crypto declaration.document →
    declaration.digest = control.authority.crypto.digest (jcs declaration.document) →
    Along control.next (fun h r => ¬ control.Supersedes ref.deviceInstanceId h r)
      (run control.next .empty (before ++ [request])) after →
    ∀ assertion : AssertDeviceManifest, assertion.deviceRef = ref → assertion.manifest = declaration →
    control.authorize (run control.next .empty (before ++ request :: after)).tables
      (.assertManifest assertion) = .ok () → ∀ draws : ControlDraws,
    let h := run control.next .empty (before ++ request :: after);
    (h.device ref.deviceInstanceId).map (·.manifestRevision) = some declaration.digest ∧
      control.execute (.assertManifest assertion) draws h = (.ok (.accepted ⟨ref, assertion.nonce,
        declaration.ref, .unchanged, draws.answeredAt⟩), h) := by
  intro hclaim
  have haccepted : Sample.acceptance (Sample.exact.execute (.assertManifest Sample.oneAssertion)
      (Sample.draws "one") (run Sample.exact.next .empty Sample.exactlyClaimed)).1 =
        some ⟨Sample.oneAssertion.deviceRef, "nonce", Sample.oneDeclaration.ref, .accepted, 6⟩ := by
    decide +kernel
  have hstored : ((run Sample.exact.next .empty (Sample.exactlyClaimed ++
      [.device (.assertManifest Sample.oneAssertion) (Sample.draws "one")])).device "device-k").map
        (·.manifestRevision) = some (Sample.exactCrypto.digest (dumps Sample.one)) := by
    decide +kernel
  have hagain := hclaim Sample.exact Sample.exactlyClaimed []
    (.device (.assertManifest Sample.oneAssertion) (Sample.draws "one")) .assertion
    (Sample.deviceRef "k" 1) Sample.oneDeclaration (.assertion (Sample.eq_of_acceptance haccepted))
    Sample.one_encodes rfl trivial Sample.oneAssertion rfl rfl (by decide +kernel) (Sample.draws "again")
  have hdigest := hagain.1
  rw [show (Sample.deviceRef "k" 1).deviceInstanceId = "device-k" from rfl, hstored] at hdigest
  revert hdigest
  decide +kernel

end EidolonHub.Devices
