import EidolonHub.Admission.Calls
import EidolonHub.Devices.Hydration
import EidolonHub.Devices.Linear

/-!
# EidolonHub.Devices.Live

**The Hub while it runs**: the database, the public directory in memory, and the calls at work on
both. An acknowledgement and an accepted Manifest project their device once they are committed: they
read its row again, and store the entry in a step of its own. A revocation and an output policy change
the row and project nothing.
-/

namespace EidolonHub.Devices

open EidolonHub.Library EidolonHub.Library.Tx EidolonHub.Admission

/-- `result["device_ref"]`. -/
def resultDeviceRef : ResultBody → Option DeviceRef
  | .acknowledged deviceRef _ => some deviceRef
  | .revoked _ deviceRef _ _ _ _ => some deviceRef
  | _ => none

namespace DeviceControl

/-! ### Calls and their steps -/

/-- What calls of the running Hub do. -/
inductive Call (control : DeviceControl) where
  | admission (cmd : Command)
  | background (background : Background)
  | device (operation : control.Operation)

/-- What a call has got. -/
inductive Reply (control : DeviceControl) where
  | admission (answer : Except HubError CommandResult)
  | background
  | device (result : Except ControlError control.Answer)

/-- What is answered where the projection fails after the commit. -/
def Reply.unprojected {control : DeviceControl} (e : ControlError) : control.Reply → control.Reply
  | .admission _ => .admission (.error projectionUnavailable)
  | .background => .background
  | .device _ => .device (.error e)

/-- How far a call has come. -/
inductive Stage (control : DeviceControl) where
  | fresh
  /-- the lookup of a command found nothing; the expiry sweep is next -/
  | sweeping (cmd : Command) (fp : Fingerprint)
  /-- the transaction of a command is next -/
  | acting (cmd : Command) (fp : Fingerprint)
  | controlling (operation : control.Operation) (phase : control.Phase)
  /-- the change is committed, or found to be committed; the projection reads the row next -/
  | projecting (i : DeviceInstanceId) (reply : control.Reply)
  /-- the projection has read the device; the entry is stored next -/
  | upserting (device : control.Device) (reply : control.Reply)
  | answered (reply : control.Reply)

/-- What a step of a call draws. -/
structure LiveDraws where
  admission : Draws
  eventIds : EnrollmentId → EventId
  control : ControlDraws

/-- The database and the directory in memory. -/
structure Live (control : DeviceControl) where
  hub : Hub
  directory : control.Directory
  /-- The revision of the row each entry was made of. No step reads it. -/
  copied : DeviceInstanceId → Nat

variable (control : DeviceControl)

/-- The running Hub, with other tables. -/
def Live.withTables {control : DeviceControl} (s : control.Live) (t : Tables) : control.Live :=
  { s with hub := { s.hub with tables := t } }

/-- What is left of a command that has its result: an acknowledgement projects the device. -/
def afterCommand (cmd : Command) (result : CommandResult) : control.Stage :=
  match cmd with
  | .ackClaimGrant .. =>
    match resultDeviceRef result.body with
    | some deviceRef => .projecting deviceRef.deviceInstanceId (.admission (.ok result))
    | none => .answered (.admission (.error projectionUnavailable))
  | _ => .answered (.admission (.ok result))

/-- What is left of a call to Device Control: an accepted Manifest projects the device. -/
def afterControl (operation : control.Operation) (phase : control.Phase) : control.Stage :=
  match operation, phase with
  | .assertManifest assertion, .following answer true =>
    .projecting assertion.deviceRef.deviceInstanceId (.device (.ok answer))
  | _, .answered result => .answered (.device result)
  | operation, phase => .controlling operation phase

/-- The lookup of a command. -/
def lookUp (cmd : Command) (t : Tables) : control.Stage :=
  match cmd.authorized control.authority with
  | .error e => .answered (.admission (.error e))
  | .ok fp =>
    match replayInSession (cmd.key control.authority) fp t with
    | .error e => .answered (.admission (.error e))
    | .ok (some replay, _) => control.afterCommand cmd replay
    | .ok (none, _) => if cmd.sweeps then .sweeping cmd fp else .acting cmd fp

/-- A step of a call to Device Control. -/
def stepControl (operation : control.Operation) (c : Nat) (draws : ControlDraws) (s : control.Live)
    (phase : control.Phase) : control.Live × control.Stage :=
  ({ s with hub := (control.act (fun _ => operation) c draws s.hub phase).1 },
    control.afterControl operation (control.act (fun _ => operation) c draws s.hub phase).2)

/-- The next step of a call. -/
def advance (call : Nat → control.Call) (c : Nat) (draws : LiveDraws) (s : control.Live) :
    control.Stage → control.Live × control.Stage
  | .fresh =>
    match call c with
    | .admission cmd => (s, control.lookUp cmd s.hub.tables)
    | .background background =>
      (s.withTables (control.authority.next s.hub.tables background.request), .answered .background)
    | .device operation => control.stepControl operation c draws.control s .fresh
  | .sweeping cmd fp =>
    match AdmissionAuthority.expireDue draws.eventIds draws.admission.now s.hub.tables with
    | .error e => (s, .answered (.admission (.error e)))
    | .ok (_, t) => (s.withTables t, .acting cmd fp)
  | .acting cmd fp =>
    match cmd.session control.authority fp draws.admission s.hub.tables with
    | .error e => (s, .answered (.admission (.error e)))
    | .ok (result, t) => (s.withTables t, control.afterCommand cmd result)
  | .controlling operation phase => control.stepControl operation c draws.control s phase
  | .projecting i reply =>
    match control.getDevice s.hub i with
    | .error e => (s, .answered (reply.unprojected e))
    | .ok none => (s, .answered (reply.unprojected (.key i)))
    | .ok (some device) => (s, .upserting device reply)
  | .upserting device reply =>
    ({ s with
        directory := s.directory.upsert device.entry
        copied := Function.update s.copied device.deviceId device.aggregateRevision },
      .answered reply)
  | .answered reply => (s, .answered reply)

/-- The Hub and its calls after a turn. -/
abbrev serve (call : Nat → control.Call) :
    Pool control.Live control.Stage → Turn LiveDraws → Pool control.Live control.Stage :=
  Pool.step (control.advance call)

/-- The revision of a row; zero where there is none. -/
def revision (h : Hub) (i : DeviceInstanceId) : Nat := (h.device i).elim 0 (·.aggregateRevision)

/-- The Hub has hydrated its directory, and nobody has called yet. -/
def opened (h : Hub) (directory : control.Directory) : Pool control.Live control.Stage :=
  .start ⟨h, directory, revision h⟩ .fresh

/-- The Hub and its calls after a schedule. -/
def served (call : Nat → control.Call) (h : Hub) (directory : control.Directory)
    (turns : List (Turn LiveDraws)) : Pool control.Live control.Stage :=
  run (control.serve call) (control.opened h directory) turns

/-! ### What each step does to the rows -/

section Rows

variable {control} {h : Hub} {s s' : Registry} {t t' : Tables} {cmd : Command} {fp : Fingerprint}
  {draws : Draws} {result : CommandResult} {i : DeviceInstanceId}

/-- The requests that write a device row. -/
def writesRows : Request → Bool
  | .command (.ackClaimGrant ..) _ | .command (.revokeClaim ..) _ => true
  | _ => false

/-- A request of Admission that neither acknowledges nor revokes leaves the rows. -/
theorem makes_device {authority : AdmissionAuthority} {request : Request}
    (hmakes : AdmissionAuthority.Makes authority request s s') (hrows : writesRows request = false) :
    s'.device = s.device := by
  obtain ⟨moves, hmoves, hfollows⟩ := hmakes
  refine hfollows.inv_of (I := fun s' => s'.device = s.device)
    (Q := fun m => ∀ s : Registry, (s.apply m).device = s.device) ?_ ?_ rfl
  · intro s₁ m hs₁ _ hm
    exact (hm s₁).trans hs₁
  · intro m hm s₁
    have hmake := hmoves m hm
    cases request with
    | command cmd draws =>
      cases cmd with
      | createEnrollment =>
        rcases hmake with ⟨p, rfl⟩ | ⟨p, d, g, now, rfl⟩ <;> rfl
      | decideEnrollment =>
        rcases hmake with ⟨p, d, now, -, rfl⟩ | ⟨p, d, g, now, -, rfl⟩ <;> rfl
      | cancelEnrollment =>
        obtain ⟨p, now, -, rfl⟩ := hmake
        rfl
      | collectClaimGrant =>
        obtain ⟨p, g, envelope, now, -, rfl⟩ := hmake
        rfl
      | ackClaimGrant => cases hrows
      | revokeClaim => cases hrows
    | expireDue =>
      obtain ⟨p, now, rfl⟩ := hmake
      rfl
    | recordStanding => exact hmake.elim
    | withdrawController => exact hmake.elim

/-- The sweep of a command is the request it would be on its own. -/
theorem sweep_makes (authority : AdmissionAuthority) {eventIds : EnrollmentId → EventId} {now : Timestamp}
    {n : Nat} (hsweep : Commits (AdmissionAuthority.expireDue eventIds now) t n t') :
    AdmissionAuthority.Makes authority (.expireDue eventIds now) t.registry t'.registry :=
  AdmissionAuthority.transaction_makes (u := ()) (by
    simp only [Request.transaction, commits_bind, commits_pure]
    exact ⟨n, t', hsweep, trivial, rfl⟩)

/-- An acknowledgement that is not a replay answers with the device of its grant. -/
theorem ack_result {authority : AdmissionAuthority} {commandId : CommandId} {correlationId : CorrelationId}
    {enrollmentId : EnrollmentId} {grantId : GrantId} {operationalKeyProof : String}
    {storedClaimGeneration storedTrustEpoch : Nat}
    (hack : Commits (authority.ackClaimGrant commandId correlationId enrollmentId grantId
      operationalKeyProof storedClaimGeneration storedTrustEpoch fp draws) t result t')
    (hnew : result.outcome = .committed) :
    ∃ g ∈ t.grants, g.grantId = grantId ∧ resultDeviceRef result.body = some g.deviceRef := by
  rcases AdmissionAuthority.once_commits hack with ⟨-, row, -, -, rfl⟩ | ⟨-, hbody⟩
  · cases hnew
  obtain ⟨⟨p, g⟩, t₁, hchecks, hrest⟩ := commits_bind.mp hbody
  obtain ⟨-, -, -, -, hg, hid, -⟩ := AdmissionAuthority.acknowledgeable_commits hchecks
  simp only [commits_bind, commits_pure] at hrest
  obtain ⟨_, _, -, _, _, -, _, _, -, _, _, -, _, _, -, _, _, -, _, _, -, _, _, -, _, _, -, _, _, -,
    rfl, -⟩ := hrest
  exact ⟨g, hg, hid, rfl⟩

/-- The row of the device stands approved for this generation. -/
def StandsApproved (h : Hub) (deviceRef : DeviceRef) : Prop :=
  ∃ row, h.device deviceRef.deviceInstanceId = some row ∧ row.matches deviceRef ∧
    row.lifecycleState = .approved

/-- At most this row is another one, and then it is at a higher revision. -/
structure Moves (h h' : Hub) (i : DeviceInstanceId) : Prop where
  others : ∀ j, j ≠ i → h'.device j = h.device j
  higher : revision h i < revision h' i

/-- **An acknowledgement** writes the row of the device it answers with, or is a replay. -/
theorem ack_moves {authority : AdmissionAuthority} {commandId : CommandId} {correlationId : CorrelationId}
    {enrollmentId : EnrollmentId} {grantId : GrantId} {operationalKeyProof : String}
    {storedClaimGeneration storedTrustEpoch : Nat}
    (hack : Commits (authority.ackClaimGrant commandId correlationId enrollmentId grantId
      operationalKeyProof storedClaimGeneration storedTrustEpoch fp draws) h.tables result t') :
    t' = h.tables ∨ ∃ deviceRef, resultDeviceRef result.body = some deviceRef ∧
      Moves h { h with tables := t' } deviceRef.deviceInstanceId := by
  rcases AdmissionAuthority.ackClaimGrant_follows hack with ⟨hsame, -⟩ |
    ⟨hnew, p, g, d, name, published, -, hid, hfollows⟩
  · exact .inl hsame
  · right
    obtain ⟨g', hg', hid', hresult⟩ := ack_result hack hnew
    obtain rfl : g' = g := Table.eq_of_key grant_grantId_isKey hg'
      (Tables.hasGrant_iff.mp hfollows.1.1.2.2.1) (hid'.trans hid.symm)
    refine ⟨_, hresult, ?_⟩
    have hdevice : ∀ j, Hub.device { h with tables := t' } j = if j = g'.deviceRef.deviceInstanceId then
        some (acknowledgedDevice h.tables.registry p g' d name draws.now) else h.device j := by
      intro j
      have hrow := congrArg (fun s => s.device j) hfollows.2
      change t'.devices.get (·.deviceId) j = _ at hrow
      rw [Hub.device, hrow]
      by_cases hj : j = g'.deviceRef.deviceInstanceId
      · simp [Registry.apply, hj]
      · simp [Registry.apply, hj]
        rfl
    refine ⟨fun j hj => (hdevice j).trans (if_neg hj), ?_⟩
    unfold revision
    rw [hdevice, if_pos rfl]
    show (h.tables.registry.device g'.deviceRef.deviceInstanceId).elim 0 (·.aggregateRevision) <
      (acknowledgedDevice h.tables.registry p g' d name draws.now).aggregateRevision
    unfold acknowledgedDevice
    cases h.tables.registry.device g'.deviceRef.deviceInstanceId with
    | none => exact Nat.one_pos
    | some row => exact Nat.lt_succ_self _

theorem withDeviceRevoked_device (s : Registry) (deviceRef : DeviceRef) (now : Timestamp)
    (i : DeviceInstanceId) :
    (s.withDeviceRevoked deviceRef now).device i =
      if i = deviceRef.deviceInstanceId then (s.device i).map (.revoke deviceRef now) else s.device i := by
  unfold Registry.withDeviceRevoked
  rw [Registry.withDevice_device]
  split
  · next hi => rw [hi]
  · rfl

/-- **A revocation** leaves the rows, or goes through and takes the approved row it names. -/
theorem revoke_moves {authority : AdmissionAuthority} {commandId : CommandId} {correlationId : CorrelationId}
    {deviceRef : DeviceRef} {reason : String} {context : ActorContext}
    (hsound : h.tables.registry.Sound authority)
    (hrevoke : Commits (authority.revokeClaim commandId correlationId deviceRef reason context fp draws)
      h.tables result t') :
    t'.registry.device = h.tables.registry.device ∨
      result.outcome = .committed ∧ StandsApproved h deviceRef ∧
        Moves h { h with tables := t' } deviceRef.deviceInstanceId := by
  rcases AdmissionAuthority.revokeClaim_follows hrevoke with ⟨rfl, -⟩ | ⟨hnew, ⟨hsame, -⟩ |
    ⟨p, g, d, published, hg, -, hfollows⟩ | ⟨c, published, rfl, -, hfollows⟩⟩
  · exact .inl rfl
  · exact .inl (congrArg Registry.device hsame)
  · -- the device has no Claim, so it has no row
    left
    obtain ⟨-, -, -, -, -, -, hnone, -⟩ := hfollows.1.1
    funext i
    rw [hfollows.2]
    refine (withDeviceRevoked_device h.tables.registry g.deviceRef draws.now i).trans ?_
    split
    · next hi =>
      cases hrow : h.tables.registry.device i with
      | none => rfl
      | some row =>
        obtain ⟨c, hc, -⟩ := hsound.devices i row hrow
        rw [hi, hnone] at hc
        cases hc
    · rfl
  -- the Claim was active, so its row stood approved, and revoking it raises the revision
  · obtain ⟨hclaim, hactive, -⟩ := hfollows.1.1
    have hdevice (i : DeviceInstanceId) : t'.registry.device i = if i = c.deviceInstanceId then
        (h.tables.registry.device i).map (.revoke c.deviceRef draws.now)
        else h.tables.registry.device i := by
      rw [hfollows.2]
      exact withDeviceRevoked_device h.tables.registry c.deviceRef draws.now i
    cases hrow : h.tables.registry.device c.deviceInstanceId with
    | none =>
      left
      funext i
      rw [hdevice]
      split
      · next hi => rw [hi, hrow, Option.map_none]
      · rfl
    | some row =>
      obtain ⟨c', hc', hshows⟩ := hsound.devices _ row hrow
      obtain rfl : c = c' := Option.some.inj (hclaim.symm.trans hc')
      have happroved : row.lifecycleState = .approved :=
        (hshows.lifecycle.resolve_right fun hrevoked => hactive hrevoked.2).1
      refine .inr ⟨hnew, ⟨row, hrow, hshows.generation, happroved⟩, fun j hj => ?_, ?_⟩
      · exact (hdevice j).trans (if_neg hj)
      · have hafter : Hub.device { h with tables := t' } c.deviceInstanceId =
            some (row.revoke c.deviceRef draws.now) := by
          have hrow' := hdevice c.deviceInstanceId
          rw [if_pos rfl, hrow] at hrow'
          exact hrow'
        have hbefore : h.device c.deviceInstanceId = some row := hrow
        show revision h c.deviceInstanceId < revision { h with tables := t' } c.deviceInstanceId
        unfold revision DeviceRow.revoke at *
        rw [hafter, hbefore, if_pos hshows.generation]
        exact Nat.lt_succ_self _

/-- **A change of a device** takes its row to a higher revision. -/
theorem Committed.moves {h' : Hub} {mutation : control.Mutation} {answer : control.Answer}
    {operation : control.Operation} {draws : ControlDraws} {device : control.Device}
    (hcommitted : Committed control mutation h h')
    (hrevises : Revises control draws device operation mutation answer) :
    Moves h h' mutation.device.deviceId := by
  obtain ⟨row, hrow, hdecode⟩ := hcommitted.row hrevises
  obtain ⟨-, hcolumns, -⟩ := decode_ok.mp hdecode
  refine ⟨fun j hj => (hcommitted.device j).trans (if_neg hj), ?_⟩
  unfold revision
  rw [hcommitted.device, if_pos rfl, hrow, hcolumns]
  show device.aggregateRevision < mutation.device.aggregateRevision
  rw [hrevises.same.2.2.2.2.2.2]
  exact Nat.lt_succ_self _

end Rows

/-! ### What holds of every call -/

section Steps

variable {control} {call : Nat → control.Call} {s : control.Live} {stage : control.Stage} {h : Hub}
  {directory : control.Directory} {c : Nat} {draws : LiveDraws}

/-- What the steps of a call have found out. -/
def Stage.Valid : control.Stage → Prop
  | .sweeping cmd fp | .acting cmd fp => cmd.authorized control.authority = .ok fp
  | .controlling operation (.planned mutation answer) =>
    ∃ device draws, Revises control draws device operation mutation answer
  | _ => True

theorem afterCommand_valid {cmd : Command} {result : CommandResult} :
    (control.afterCommand cmd result).Valid := by
  unfold afterCommand
  split
  · split <;> trivial
  · trivial

theorem lookUp_valid {cmd : Command} {t : Tables} : (control.lookUp cmd t).Valid := by
  unfold lookUp
  split
  · trivial
  · next fp hfp =>
    split
    · trivial
    · exact afterCommand_valid
    · split <;> exact hfp

theorem stepControl_valid {operation : control.Operation} {phase : control.Phase} {draws : ControlDraws} :
    (control.stepControl operation c draws s phase).2.Valid := by
  simp only [stepControl]
  cases phase with
  | fresh =>
    simp only [act]
    split <;> cases operation <;> trivial
  | authorized =>
    simp only [act]
    split
    · cases operation <;> trivial
    · next current hread =>
      split
      · cases operation <;> trivial
      · next answer followed _ => cases operation <;> cases followed <;> trivial
      · next mutation answer hplan =>
        obtain ⟨device, -, hrevises⟩ := plan_write hplan
        cases operation <;> exact ⟨device, draws, hrevises⟩
  | planned mutation answer =>
    simp only [act]
    split <;> cases operation <;> trivial
  | following answer followed =>
    cases operation <;> trivial
  | answered result =>
    cases operation <;> trivial

theorem advance_valid (hvalid : stage.Valid) : (control.advance call c draws s stage).2.Valid := by
  cases stage with
  | fresh =>
    simp only [advance]
    split
    · exact lookUp_valid
    · trivial
    · exact stepControl_valid
  | sweeping cmd fp =>
    simp only [advance]
    split
    · trivial
    · exact hvalid
  | acting cmd fp =>
    simp only [advance]
    split
    · trivial
    · exact afterCommand_valid
  | controlling operation phase => exact stepControl_valid
  | projecting i reply =>
    simp only [advance]
    split <;> trivial
  | upserting device reply => trivial
  | answered reply => trivial

/-- Only a commit changes the database. -/
theorem act_hub {operation : Nat → control.Operation} {phase : control.Phase} {draws : ControlDraws}
    (hphase : ∀ mutation answer, phase ≠ .planned mutation answer) :
    (control.act operation c draws h phase).1 = h := by
  cases phase with
  | planned mutation answer => exact absurd rfl (hphase mutation answer)
  | fresh =>
    simp only [act]
    split <;> rfl
  | authorized => exact act_authorized
  | following answer followed => rfl
  | answered result => rfl

/-- The registry stays sound under every step of a call. -/
theorem advance_sound (hsound : s.hub.tables.registry.Sound control.authority) (hvalid : stage.Valid) :
    (control.advance call c draws s stage).1.hub.tables.registry.Sound control.authority := by
  -- of the device operations only a planned one commits, and it commits what it revised
  have hcontrol {operation : control.Operation} {phase : control.Phase}
      (hvalid : (Stage.controlling operation phase).Valid) :
      (control.stepControl operation c draws.control s phase).1.hub.tables.registry.Sound control.authority := by
    by_cases hplanned : ∃ mutation answer, phase = .planned mutation answer
    · obtain ⟨mutation, answer, rfl⟩ := hplanned
      obtain ⟨device, planned, hrevises⟩ := hvalid
      simp only [stepControl, act]
      split
      · exact hsound
      · next hcommit => exact (commit_commits hcommit).sound hrevises hsound
    · simp only [stepControl]
      rw [act_hub fun mutation answer heq => hplanned ⟨mutation, answer, heq⟩]
      exact hsound
  have hmakes {request : Request} {t : Tables}
      (hmakes : AdmissionAuthority.Makes control.authority request s.hub.tables.registry t.registry) :
      t.registry.Sound control.authority := by
    obtain ⟨moves, -, hfollows⟩ := hmakes
    exact hfollows.inv (I := fun r => r.Sound control.authority) (fun _ _ hs hm => hs.apply hm) hsound
  cases stage with
  | fresh =>
    simp only [advance]
    split
    · exact hsound
    · exact AdmissionAuthority.next_sound hsound
    · exact hcontrol trivial
  | sweeping cmd fp =>
    simp only [advance]
    split
    · exact hsound
    · next n t hsweep => exact hmakes (sweep_makes control.authority hsweep)
  | acting cmd fp =>
    simp only [advance]
    split
    · exact hsound
    · next hsession => exact hmakes (AdmissionAuthority.session_makes hvalid hsession)
  | controlling operation phase => exact hcontrol hvalid
  | projecting i reply =>
    simp only [advance]
    split <;> exact hsound
  | upserting device reply => exact hsound
  | answered reply => exact hsound

/-- The registry is sound in every run, whatever it projects. -/
theorem served_sound (hreach : control.Reachable h) (turns : List (Turn LiveDraws)) :
    (control.served call h directory turns).shared.hub.tables.registry.Sound control.authority :=
  (Pool.inv (I := fun s : control.Live => s.hub.tables.registry.Sound control.authority)
    (L := fun _ _ stage => stage.Valid) (fun _ _ _ _ hs hvalid => advance_sound hs hvalid)
    (fun _ _ _ _ _ hvalid => advance_valid hvalid) (fun _ _ _ _ _ _ _ _ _ hother => hother)
    ⟨reachable_sound hreach, fun _ => trivial⟩ turns).1

end Steps

end DeviceControl

end EidolonHub.Devices
