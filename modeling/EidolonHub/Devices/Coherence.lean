import EidolonHub.Devices.Live
import EidolonHub.Library.ReadModel

/-!
# EidolonHub.Devices.Coherence

**The public directory and the rows it is a projection of.** The directory is a read model of the
rows (`readModel`). At rest it shows each of them as long as no commit without a projection changes
an entry, each row that is projected can be read, and no projection is overtaken by one that read a
later row (`Meets`).
-/

namespace EidolonHub.Devices

open EidolonHub.Library EidolonHub.Library.Tx EidolonHub.Admission

namespace DeviceControl

variable (control : DeviceControl)

/-! ### Agreement -/

/-- The entry of the device is the projection of its row. -/
def Coherent {control : DeviceControl} (s : control.Live) (i : DeviceInstanceId) : Prop :=
  ∃ found, control.getDevice s.hub i = .ok found ∧ s.directory i = found.map (·.entry)

/-- The call is not running: it has not begun, or is answered. -/
def Stage.Rests {control : DeviceControl} : control.Stage → Prop
  | .fresh | .answered _ => True
  | _ => False

instance {control : DeviceControl} : DecidablePred (@Stage.Rests control)
  | .fresh | .answered _ => .isTrue trivial
  | .sweeping .. | .acting .. | .controlling .. | .projecting .. | .upserting .. => .isFalse id

/-- No call is running. -/
def AtRest {control : DeviceControl} (s : Pool control.Live control.Stage) : Prop :=
  ∀ c, (s.phase c).Rests

/-- Some projection has still to read the row of this device. -/
def Awaited {control : DeviceControl} (s : Pool control.Live control.Stage) (i : DeviceInstanceId) : Prop :=
  ∃ b reply, s.phase b = .projecting i reply

/-- The command goes through, and not as a replay. -/
def GoesThrough (cmd : Command) (fp : Fingerprint) (draws : Draws) (t : Tables) : Prop :=
  ∃ result t', cmd.session control.authority fp draws t = .ok (result, t') ∧ result.outcome = .committed

/-- What a step has to meet, where a projection has still to read the rows in `awaited`: a revocation
takes an approved device back, and a policy changes the reading of a row, only with such a projection to
come; a row that is projected can be read; an entry is stored over none that was made of a later row. -/
def Stage.Meets {control : DeviceControl} (awaited : DeviceInstanceId → Prop) (s : control.Live)
    (draws : LiveDraws) : control.Stage → Prop
  | .acting (.revokeClaim commandId correlationId deviceRef reason context) fp =>
    control.GoesThrough (.revokeClaim commandId correlationId deviceRef reason context) fp draws.admission
      s.hub.tables → StandsApproved s.hub deviceRef → awaited deviceRef.deviceInstanceId
  | .controlling (.setOutputPolicy ..) (.planned mutation _) =>
    (∃ h', Commits (control.commit mutation) s.hub () h') →
      ∀ device, mutation.expected = some device → mutation.device.updatedAt ≠ device.updatedAt →
        awaited mutation.device.deviceId
  | .projecting i _ => ∀ row, s.hub.device i = some row → control.Decodes row
  | .upserting device _ => s.copied device.deviceId ≤ device.aggregateRevision
  | _ => True

/-- What a turn has to meet. -/
def Meets {control : DeviceControl} (s : Pool control.Live control.Stage) (turn : Turn LiveDraws) : Prop :=
  (s.phase turn.call).Meets (Awaited s) s.shared turn.draws

/-! ### The directory as a read model -/

/-- The entry a projection makes of the row; `none` where the row cannot be read. -/
def entryAt (h : Hub) (i : DeviceInstanceId) : Option (Option (DirectoryEntry control.authority.crypto)) :=
  match control.getDevice h i with
  | .ok found => some (found.map (·.entry))
  | .error _ => none

/-- What a call still owes the directory. -/
def Stage.duty {control : DeviceControl} :
    control.Stage → Duty DeviceInstanceId (Option (DirectoryEntry control.authority.crypto))
  | .projecting i _ => .read i
  | .upserting device _ => .store device.deviceId device.aggregateRevision (some device.entry)
  | _ => .none

/-- **The directory copies the rows.** -/
def readModel {control : DeviceControl} (s : Pool control.Live control.Stage) :
    ReadModel DeviceInstanceId (Option (DirectoryEntry control.authority.crypto)) where
  version := revision s.shared.hub
  value := control.entryAt s.shared.hub
  copy := s.shared.directory
  copied := s.shared.copied
  duty c := (s.phase c).duty

section Steps

variable {control} {call : Nat → control.Call} {s s' : control.Live} {stage stage' : control.Stage}
  {h h' : Hub} {i : DeviceInstanceId} {c : Nat} {draws : LiveDraws} {A B : DeviceInstanceId → Prop}

theorem entryAt_congr (hrow : h'.device i = h.device i) : control.entryAt h' i = control.entryAt h i := by
  unfold entryAt getDevice
  rw [hrow]

/-- What a step that stores nothing makes of the rows: one that it changes goes up, and either its
entry stays, or a projection has still to read it. -/
structure Changes (A : DeviceInstanceId → Prop) (s s' : control.Live) (stage' : control.Stage) : Prop where
  directory : s'.directory = s.directory
  copied : s'.copied = s.copied
  stores : ∀ device reply, stage' ≠ .upserting device reply
  rows : ∀ i, s'.hub.device i = s.hub.device i ∨ revision s.hub i < revision s'.hub i ∧
    (control.entryAt s'.hub i = control.entryAt s.hub i ∨ (∃ reply, stage' = .projecting i reply) ∨ A i)

/-- A step of a command that leaves the rows. -/
theorem Changes.still {t : Tables} (hrows : t.registry.device = s.hub.tables.registry.device)
    (hstores : ∀ device reply, stage' ≠ .upserting device reply) :
    Changes A s (s.withTables t) stage' :=
  ⟨rfl, rfl, hstores, fun i => .inl (congrFun hrows i)⟩

theorem Changes.rest (hstores : ∀ device reply, stage' ≠ .upserting device reply) :
    Changes A s s stage' :=
  ⟨rfl, rfl, hstores, fun _ => .inl rfl⟩

/-- A step that moves one row. -/
theorem Changes.move (hmoves : Moves s.hub h' i)
    (hstores : ∀ device reply, stage' ≠ .upserting device reply)
    (hseen : control.entryAt h' i = control.entryAt s.hub i ∨ (∃ reply, stage' = .projecting i reply) ∨ A i) :
    Changes A s { s with hub := h' } stage' := by
  refine ⟨rfl, rfl, hstores, fun j => ?_⟩
  by_cases hj : j = i
  · subst hj
    exact .inr ⟨hmoves.higher, hseen⟩
  · exact .inl (hmoves.others j hj)

theorem afterCommand_stores {cmd : Command} {result : CommandResult} {device : control.Device}
    {reply : control.Reply} : control.afterCommand cmd result ≠ .upserting device reply := by
  unfold afterCommand
  split
  · split <;> simp
  · simp

theorem afterControl_stores {operation : control.Operation} {phase : control.Phase} {device : control.Device}
    {reply : control.Reply} : control.afterControl operation phase ≠ .upserting device reply := by
  unfold afterControl
  split <;> simp

theorem lookUp_stores {cmd : Command} {t : Tables} {device : control.Device} {reply : control.Reply} :
    control.lookUp cmd t ≠ .upserting device reply := by
  unfold lookUp
  split
  · simp
  · split
    · simp
    · exact afterCommand_stores
    · split <;> simp

/-- A policy that is set at the reading its row has shows nothing new. -/
theorem entry_withPolicy {device : control.Device} {policy : control.Policy} {now : Timestamp}
    (hnow : now = device.updatedAt) : (control.withPolicy device policy now).entry = device.entry := by
  subst hnow
  rfl

/-- A step of a call to Device Control. -/
theorem stepControl_changes {operation : control.Operation} {phase : control.Phase}
    (hvalid : (Stage.controlling operation phase).Valid)
    (hmeets : (Stage.controlling operation phase).Meets A s draws) :
    Changes A s (control.stepControl operation c draws.control s phase).1
      (control.stepControl operation c draws.control s phase).2 := by
  by_cases hplanned : ∃ mutation answer, phase = .planned mutation answer
  · obtain ⟨mutation, answer, rfl⟩ := hplanned
    obtain ⟨device, planned, hrevises⟩ := hvalid
    unfold stepControl
    cases hcommit : control.commit mutation s.hub with
    | error e =>
      simp only [act, hcommit]
      exact Changes.rest fun _ _ => afterControl_stores
    | ok done =>
      obtain ⟨u, h'⟩ := done
      simp only [act, hcommit]
      have hcommitted := commit_commits hcommit
      refine Changes.move (hcommitted.moves hrevises) (fun _ _ => afterControl_stores) ?_
      have hleaves := hcommitted.leaves hrevises
      have hexpected := hcommitted.expected
      cases hrevises with
      | manifest hdeviceRef =>
        right; left
        exact ⟨_, congrArg (Stage.projecting · _) (congrArg DeviceRef.deviceInstanceId hdeviceRef).symm⟩
      | policy hdeviceRef =>
        by_cases hreading : planned.now = device.updatedAt
        · left
          unfold entryAt
          rw [hleaves, hexpected]
          exact congrArg (fun entry => some (some entry)) (entry_withPolicy hreading)
        · right; right
          exact hmeets ⟨h', hcommit⟩ device rfl hreading
  · have hhub : (control.act (fun _ => operation) c draws.control s.hub phase).1 = s.hub :=
      act_hub fun mutation answer heq => hplanned ⟨mutation, answer, heq⟩
    refine ⟨rfl, rfl, fun _ _ => afterControl_stores, fun i => .inl ?_⟩
    show Hub.device (control.act _ c draws.control s.hub phase).1 i = _
    rw [hhub]

/-- A step of the transaction of a command. -/
theorem acting_changes {cmd : Command} {fp : Fingerprint}
    (hsound : s.hub.tables.registry.Sound control.authority)
    (hvalid : cmd.authorized control.authority = .ok fp) (hmeets : Stage.Meets A s draws (.acting cmd fp)) :
    Changes A s (control.advance call c draws s (.acting cmd fp)).1
      (control.advance call c draws s (.acting cmd fp)).2 := by
  simp only [advance]
  cases hsession : cmd.session control.authority fp draws.admission s.hub.tables with
  | error e => exact Changes.rest fun _ _ => by simp
  | ok done =>
    obtain ⟨result, t⟩ := done
    show Changes A s (s.withTables t) (control.afterCommand cmd result)
    cases cmd with
    | ackClaimGrant commandId correlationId enrollmentId grantId proof generation epoch =>
      rcases ack_moves hsession with rfl | ⟨deviceRef, hresult, hmoves⟩
      · exact Changes.still rfl fun _ _ => afterCommand_stores
      · refine Changes.move hmoves (fun _ _ => afterCommand_stores) (.inr (.inl ?_))
        refine ⟨.admission (.ok result), ?_⟩
        simp only [afterCommand, hresult]
    | revokeClaim commandId correlationId deviceRef reason context =>
      rcases revoke_moves hsound hsession with hsame | ⟨hnew, happroved, hmoves⟩
      · exact Changes.still hsame fun _ _ => afterCommand_stores
      · exact Changes.move hmoves (fun _ _ => afterCommand_stores)
          (.inr (.inr (hmeets ⟨result, t, hsession, hnew⟩ happroved)))
    | createEnrollment | decideEnrollment | cancelEnrollment | collectClaimGrant =>
      exact Changes.still (makes_device (AdmissionAuthority.session_makes hvalid hsession) rfl)
        fun _ _ => afterCommand_stores

/-- **A step before the projection**: no call stores an entry in it. -/
theorem advance_changes (hsound : s.hub.tables.registry.Sound control.authority) (hvalid : stage.Valid)
    (hmeets : stage.Meets A s draws) (hidle : stage.duty = .none) :
    Changes A s (control.advance call c draws s stage).1 (control.advance call c draws s stage).2 := by
  cases stage with
  | fresh =>
    simp only [advance]
    split
    · exact Changes.rest fun _ _ => lookUp_stores
    · next background _ =>
      refine Changes.still (makes_device (AdmissionAuthority.next_makes control.authority s.hub.tables
        background.request) ?_) fun _ _ => by simp
      cases background <;> rfl
    · next operation _ => exact stepControl_changes trivial (by cases operation <;> trivial)
  | sweeping cmd fp =>
    simp only [advance]
    split
    · exact Changes.rest fun _ _ => by simp
    · next n t hsweep =>
      exact Changes.still (makes_device (sweep_makes control.authority hsweep) rfl) fun _ _ => by simp
  | acting cmd fp => exact acting_changes hsound hvalid hmeets
  | controlling operation phase => exact stepControl_changes hvalid hmeets
  | projecting i reply => cases hidle
  | upserting device reply => cases hidle
  | answered reply => exact Changes.rest fun _ _ => by simp [advance]

/-! ### One turn -/

variable {p : Pool control.Live control.Stage} {turn : Turn LiveDraws}

/-- What holds of the Hub and its calls at every turn. -/
structure Inv (p : Pool control.Live control.Stage) : Prop where
  sound : p.shared.hub.tables.registry.Sound control.authority
  valid : ∀ c, (p.phase c).Valid
  kept : (readModel p).Kept

/-- A turn that changes rows writes the source of the directory. -/
theorem writes_of_changes (hidle : (p.phase turn.call).duty = .none)
    (hchanges : Changes (Awaited p) p.shared
      (control.advance call turn.call turn.draws p.shared (p.phase turn.call)).1
      (control.advance call turn.call turn.draws p.shared (p.phase turn.call)).2) :
    (readModel p).Writes (readModel (control.serve call p turn)) turn.call := by
  refine ⟨hidle, hchanges.directory, hchanges.copied, ?_, ?_, ?_⟩
  · intro b hb
    exact congrArg Stage.duty (Pool.step_phase_ne hb)
  · intro i v x hstore
    have hduty : Stage.duty (control.advance call turn.call turn.draws p.shared (p.phase turn.call)).2 =
        .store i v x := (congrArg Stage.duty Pool.step_phase_self).symm.trans hstore
    cases hstage : (control.advance call turn.call turn.draws p.shared (p.phase turn.call)).2 with
    | upserting device reply => exact hchanges.stores device reply hstage
    | _ =>
      rw [hstage] at hduty
      cases hduty
  · intro i
    rcases hchanges.rows i with hsame | ⟨hhigher, hseen⟩
    · left
      refine ⟨?_, entryAt_congr hsame⟩
      show revision _ i = revision _ i
      unfold revision
      rw [Pool.step_shared, hsame]
    · right
      refine ⟨hhigher, hseen.imp id fun hread => ?_⟩
      rcases hread with ⟨reply, hstage⟩ | ⟨b, reply, hstage⟩
      · exact ⟨turn.call, congrArg Stage.duty (Pool.step_phase_self.trans hstage)⟩
      · have hb : b ≠ turn.call := by
          rintro rfl
          rw [hstage] at hidle
          cases hidle
        exact ⟨b, congrArg Stage.duty ((Pool.step_phase_ne hb).trans hstage)⟩

/-- A turn of a call that only changes what it owes. -/
theorem readModel_withDuty (stage' : control.Stage) (hshared : (control.serve call p turn).shared = p.shared)
    (hstage : (control.serve call p turn).phase turn.call = stage') :
    readModel (control.serve call p turn) = (readModel p).withDuty turn.call stage'.duty := by
  unfold readModel ReadModel.withDuty
  rw [hshared]
  congr 1
  funext b
  by_cases hb : b = turn.call
  · subst hb
    rw [Function.update_self, hstage]
  · rw [Function.update_of_ne hb, Pool.step_phase_ne hb]

/-- What the repository reads is the row. -/
theorem getDevice_row {device : control.Device} (hread : control.getDevice h i = .ok (some device)) :
    device.deviceId = i ∧ revision h i = device.aggregateRevision := by
  obtain ⟨row, hrow, hdecode⟩ := getDevice_some.mp hread
  refine ⟨(decode_deviceId hdecode).symm.trans (Table.get_key hrow), ?_⟩
  unfold revision
  rw [hrow]
  exact congrArg DeviceRow.aggregateRevision (decode_ok.mp hdecode).2.1

/-- A projection reads a row that can be read. -/
theorem kept_projecting {reply : control.Reply} (hkept : (readModel p).Kept)
    (hphase : p.phase turn.call = .projecting i reply)
    (hdecodes : ∀ row, p.shared.hub.device i = some row → control.Decodes row) :
    (readModel (control.serve call p turn)).Kept := by
  have hduty : (readModel p).duty turn.call = .read i := congrArg Stage.duty hphase
  cases hread : control.getDevice p.shared.hub i with
  -- every row decodes, so reading one raises nothing
  | error e =>
    unfold getDevice at hread
    split at hread
    · cases hread
    · next row hrow =>
      obtain ⟨device, hdecode⟩ := hdecodes row hrow
      rw [hdecode] at hread
      cases hread
  | ok found =>
    cases found with
    | none =>
      have hnone : p.shared.hub.device i = none := by
        rcases getDevice_ok.mp hread with ⟨hnone, -⟩ | ⟨_, _, -, heq, -⟩
        · exact hnone
        · cases heq
      rw [readModel_withDuty (.answered (reply.unprojected (.key i)))
        (by rw [Pool.step_shared, hphase]; simp only [advance, hread])
        (by rw [Pool.step_phase_self, hphase]; simp only [advance, hread])]
      refine hkept.missing hduty ?_
      show revision p.shared.hub i = 0
      unfold revision
      rw [hnone]
      rfl
    | some device =>
      obtain ⟨rfl, hrevision⟩ := getDevice_row hread
      rw [readModel_withDuty (.upserting device reply)
        (by rw [Pool.step_shared, hphase]; simp only [advance, hread])
        (by rw [Pool.step_phase_self, hphase]; simp only [advance, hread])]
      have hvalue : (readModel p).value device.deviceId = some (some device.entry) := by
        show control.entryAt p.shared.hub device.deviceId = _
        unfold entryAt
        rw [hread]
        rfl
      have hstored := hkept.read hduty hvalue
      rw [show (readModel p).version device.deviceId = device.aggregateRevision from hrevision] at hstored
      exact hstored

/-- A projection stores its entry over none that was made of a later row. -/
theorem kept_upserting {device : control.Device} {reply : control.Reply} (hkept : (readModel p).Kept)
    (hphase : p.phase turn.call = .upserting device reply)
    (hlater : p.shared.copied device.deviceId ≤ device.aggregateRevision) :
    (readModel (control.serve call p turn)).Kept := by
  have hduty : (readModel p).duty turn.call =
      .store device.deviceId device.aggregateRevision (some device.entry) := congrArg Stage.duty hphase
  have hmodel : readModel (control.serve call p turn) = ((readModel p).stored device.deviceId
      device.aggregateRevision (some device.entry)).withDuty turn.call .none := by
    have hshared : (control.serve call p turn).shared = { p.shared with
        directory := p.shared.directory.upsert device.entry
        copied := Function.update p.shared.copied device.deviceId device.aggregateRevision } := by
      rw [Pool.step_shared, hphase]
      rfl
    ext1
    · show revision (control.serve call p turn).shared.hub = _
      rw [hshared]
      rfl
    · show control.entryAt (control.serve call p turn).shared.hub = _
      rw [hshared]
      rfl
    · show (control.serve call p turn).shared.directory = _
      rw [hshared]
      rfl
    · show (control.serve call p turn).shared.copied = _
      rw [hshared]
      rfl
    · funext b
      show Stage.duty ((control.serve call p turn).phase b) =
        Function.update (fun c => (p.phase c).duty) turn.call .none b
      by_cases hb : b = turn.call
      · subst hb
        rw [Function.update_self, Pool.step_phase_self, hphase]
        rfl
      · rw [Function.update_of_ne hb, Pool.step_phase_ne hb]
  rw [hmodel]
  exact hkept.store hduty hlater

/-- **A turn that meets its condition keeps the directory a copy in the making.** -/
theorem inv_serve (hinv : Inv p) (hmeets : Meets p turn) : Inv (control.serve call p turn) := by
  refine ⟨?_, ?_, ?_⟩
  · rw [Pool.step_shared]
    exact advance_sound hinv.sound (hinv.valid turn.call)
  · intro c
    by_cases hc : c = turn.call
    · rw [hc, Pool.step_phase_self]
      exact advance_valid (hinv.valid turn.call)
    · rw [Pool.step_phase_ne hc]
      exact hinv.valid c
  · unfold Meets at hmeets
    cases hphase : p.phase turn.call with
    | projecting i reply =>
      rw [hphase] at hmeets
      exact kept_projecting hinv.kept hphase hmeets
    | upserting device reply =>
      rw [hphase] at hmeets
      exact kept_upserting hinv.kept hphase hmeets
    | _ =>
      have hidle : (p.phase turn.call).duty = .none := by rw [hphase]; rfl
      exact hinv.kept.write (writes_of_changes hidle
        (advance_changes hinv.sound (hinv.valid turn.call) hmeets hidle))

end Steps

/-! ### Whole runs -/

section Runs

variable {control} {h : Hub} {directory : control.Directory} {p : Pool control.Live control.Stage}

theorem entryAt_some {found : Option (DirectoryEntry control.authority.crypto)} {i : DeviceInstanceId} :
    control.entryAt h i = some found ↔
      ∃ device, control.getDevice h i = .ok device ∧ found = device.map (·.entry) := by
  unfold entryAt
  cases control.getDevice h i with
  | error e => simp
  | ok device => simp [eq_comm]

/-- A Hub that has hydrated its directory shows its rows. -/
theorem inv_opened (hreach : control.Reachable h)
    (hhydrated : control.executeAll h (fun _ => none) = .ok directory) :
    Inv (control.opened h directory) := by
  refine ⟨reachable_sound hreach, fun _ => trivial, ReadModel.kept_of_current rfl ?_ fun _ => rfl⟩
  have hall : ∀ i row, h.device i = some row → control.Decodes row := by
    obtain ⟨devices, hlist, -⟩ := except_bind_ok.mp hhydrated
    exact listAll_isOk.mp ⟨devices, hlist⟩
  obtain ⟨directory', hexecute, hshows⟩ := executeAll_ok (fun _ => none) hall
  obtain rfl : directory' = directory := Except.ok.inj (hexecute.symm.trans hhydrated)
  intro i
  show control.entryAt h i = some (directory' i)
  rw [hshows i, Option.or_none, entryAt_some]
  unfold shown
  cases hrow : h.device i with
  | none =>
    have hread : control.getDevice h i = .ok none := getDevice_ok.mpr (.inl ⟨hrow, rfl⟩)
    exact ⟨none, hread, by rw [hread]; rfl⟩
  | some row =>
    obtain ⟨device, hdecode⟩ := hall i row hrow
    have hread : control.getDevice h i = .ok (some device) := getDevice_some.mpr ⟨row, hrow, hdecode⟩
    exact ⟨some device, hread, by rw [hread]; rfl⟩

theorem duty_of_rests {stage : control.Stage} (hrests : stage.Rests) : stage.duty = .none := by
  cases stage with
  | fresh | answered => rfl
  | _ => exact hrests.elim

/-- **At rest the directory is the projection of the rows.** -/
theorem Inv.coherent (hinv : Inv p) (hrest : AtRest p) (i : DeviceInstanceId) : Coherent p.shared i :=
  entryAt_some.mp (hinv.kept.agrees (fun c => duty_of_rests (hrest c)) i)

/-- The device of a revoked Claim is not approved. -/
theorem revoked_not_approved (hsound : h.tables.registry.Sound control.authority) {i : DeviceInstanceId}
    {device : control.Device} (hread : control.getDevice h i = .ok (some device)) {c : ClaimRow}
    (hclaim : h.tables.claims.get (·.deviceInstanceId) i = some c) (hrevoked : c.state = .revoked) :
    device.lifecycleState ≠ .approved := by
  obtain ⟨row, hrow, hdecode⟩ := getDevice_some.mp hread
  obtain ⟨c', hclaim', hshows⟩ := hsound.devices i row hrow
  obtain rfl : c' = c := Option.some.inj (hclaim'.symm.trans hclaim)
  have hstate : row.lifecycleState = device.lifecycleState :=
    congrArg DeviceRow.lifecycleState (decode_ok.mp hdecode).2.1
  rcases hshows.lifecycle with ⟨-, hactive⟩ | ⟨hrow, -⟩
  · rw [hrevoked] at hactive
    cases hactive
  · rw [← hstate, hrow]
    decide

/-- A device whose Claim is revoked is not shown approved. -/
theorem Inv.revoked (hinv : Inv p) (hrest : AtRest p) {i : DeviceInstanceId} {c : ClaimRow}
    (hclaim : p.shared.hub.tables.claims.get (·.deviceInstanceId) i = some c) (hrevoked : c.state = .revoked)
    {entry : DirectoryEntry control.authority.crypto} (hentry : p.shared.directory i = some entry) :
    entry.lifecycleState ≠ .approved := by
  obtain ⟨found, hread, hshown⟩ := hinv.coherent hrest i
  obtain ⟨device, rfl, rfl⟩ := Option.map_eq_some_iff.mp (hshown.symm.trans hentry)
  exact revoked_not_approved hinv.sound hread hclaim hrevoked

/-- No entry is stored over one that was made of a later row. -/
theorem copied_serve {call : Nat → control.Call} {turn : Turn LiveDraws} (hinv : Inv p)
    (hmeets : Meets p turn) (i : DeviceInstanceId) :
    p.shared.copied i ≤ (control.serve call p turn).shared.copied i := by
  rw [Pool.step_shared]
  unfold Meets at hmeets
  cases hphase : p.phase turn.call with
  | projecting j reply =>
    simp only [advance]
    split <;> exact Nat.le_refl _
  | upserting device reply =>
    rw [hphase] at hmeets
    simp only [advance]
    by_cases hi : i = device.deviceId
    · subst hi
      rw [Function.update_self]
      exact hmeets
    · rw [Function.update_of_ne hi]
  | _ =>
    have hidle : (p.phase turn.call).duty = .none := by rw [hphase]; rfl
    have hchanges : Changes (Awaited p) p.shared
        (control.advance call turn.call turn.draws p.shared (p.phase turn.call)).1 _ :=
      advance_changes hinv.sound (hinv.valid turn.call) hmeets hidle
    rw [hphase] at hchanges
    exact Nat.le_of_eq (congrFun hchanges.copied i).symm

/-- **The directory agrees with the database at rest.** In every run from a hydrated directory whose
turns meet their condition, whenever no call is running each entry is the projection of its row, and
no device with a revoked Claim is shown approved; and no turn puts an older projection in the place of
a newer one. -/
theorem directory_coherent (control : DeviceControl) (call : Nat → control.Call) {h : Hub}
    {directory : control.Directory} (hreach : control.Reachable h)
    (hhydrated : control.executeAll h (fun _ => none) = .ok directory) (turns : List (Turn LiveDraws))
    (hmeets : Along (control.serve call) Meets (control.opened h directory) turns) :
    (AtRest (control.served call h directory turns) →
      (∀ i, Coherent (control.served call h directory turns).shared i) ∧
      ∀ i c entry, (control.served call h directory turns).shared.hub.tables.claims.get
          (·.deviceInstanceId) i = some c → c.state = .revoked →
        (control.served call h directory turns).shared.directory i = some entry →
          entry.lifecycleState ≠ .approved) ∧
    ∀ pre turn post, turns = pre ++ turn :: post → ∀ i,
      (control.served call h directory pre).shared.copied i ≤
        (control.served call h directory (pre ++ [turn])).shared.copied i := by
  have hinv {turns : List (Turn LiveDraws)}
      (hmeets : Along (control.serve call) Meets (control.opened h directory) turns) :
      Inv (control.served call h directory turns) :=
    run_inv_along (fun _ _ => inv_serve) (inv_opened hreach hhydrated) hmeets
  refine ⟨fun hrest => ⟨(hinv hmeets).coherent hrest, fun i c entry hclaim hrevoked hentry =>
    (hinv hmeets).revoked hrest hclaim hrevoked hentry⟩, ?_⟩
  rintro pre turn post rfl i
  have hpre := (along_append.mp hmeets).1
  unfold served
  rw [run_concat]
  exact copied_serve (hinv hpre) (along_split hmeets) i

/-- A check of the condition, for calls that project whatever they change. -/
def Stage.checks (s : control.Live) : control.Stage → Bool
  | .acting (.revokeClaim ..) _ | .controlling (.setOutputPolicy ..) _ => false
  | .projecting i _ => (control.getDevice s.hub i).toOption.isSome
  | .upserting device _ => decide (s.copied device.deviceId ≤ device.aggregateRevision)
  | _ => true

theorem meets_of_checks {turn : Turn LiveDraws} (hchecks : (p.phase turn.call).checks p.shared = true) :
    Meets p turn := by
  unfold Meets
  cases hphase : p.phase turn.call with
  | acting cmd fp =>
    rw [hphase] at hchecks
    cases cmd with
    | revokeClaim => cases hchecks
    | _ => trivial
  | controlling operation phase =>
    rw [hphase] at hchecks
    cases operation with
    | setOutputPolicy => cases hchecks
    | assertManifest => trivial
  | projecting i reply =>
    rw [hphase] at hchecks
    intro row hrow
    cases hdecode : decode control.authority.crypto control.presentation control.authority.ownerDomainId row with
    | ok device => exact ⟨device, hdecode⟩
    | error e =>
      simp only [Stage.checks, getDevice, hrow, hdecode] at hchecks
      cases hchecks
  | upserting device reply =>
    rw [hphase] at hchecks
    show p.shared.copied device.deviceId ≤ device.aggregateRevision
    exact of_decide_eq_true hchecks
  | _ => trivial

/-! ### Calls that project nothing -/

/-- The commands that await a projection. -/
def projects : Command → Bool
  | .ackClaimGrant .. => true
  | _ => false

/-- This call projects no device, whatever it commits. -/
def Call.Silent : control.Call → Prop
  | .admission cmd => projects cmd = false
  | .background _ => True
  | .device (.assertManifest _) => False
  | .device (.setOutputPolicy ..) => True

/-- This is no stage of a call that projects a device. -/
def Stage.Silent : control.Stage → Prop
  | .sweeping cmd _ | .acting cmd _ => projects cmd = false
  | .controlling (.assertManifest _) _ => False
  | .projecting .. | .upserting .. => False
  | _ => True

variable {call : Nat → control.Call} {c : Nat} {s : control.Live} {draws : LiveDraws} {stage : control.Stage}

theorem afterCommand_silent {cmd : Command} {result : CommandResult} (hcmd : projects cmd = false) :
    (control.afterCommand cmd result).Silent := by
  cases cmd with
  | ackClaimGrant => cases hcmd
  | _ => trivial

theorem afterControl_silent {command : control.SetOutputPolicy} {context : ActorContext}
    {phase : control.Phase} : (control.afterControl (.setOutputPolicy command context) phase).Silent := by
  cases phase <;> trivial

theorem advance_silent (hcall : (call c).Silent) (hsilent : stage.Silent) :
    (control.advance call c draws s stage).1.directory = s.directory ∧
      (control.advance call c draws s stage).2.Silent := by
  cases stage with
  | fresh =>
    simp only [advance]
    split
    · next cmd hcmd =>
      rw [hcmd] at hcall
      refine ⟨rfl, ?_⟩
      unfold lookUp
      split
      · trivial
      · split
        · trivial
        · exact afterCommand_silent hcall
        · split <;> exact hcall
    · exact ⟨rfl, trivial⟩
    · next operation hoperation =>
      rw [hoperation] at hcall
      cases operation with
      | assertManifest => exact hcall.elim
      | setOutputPolicy => exact ⟨rfl, afterControl_silent⟩
  | sweeping cmd fp =>
    simp only [advance]
    split
    · exact ⟨rfl, trivial⟩
    · exact ⟨rfl, hsilent⟩
  | acting cmd fp =>
    simp only [advance]
    split
    · exact ⟨rfl, trivial⟩
    · exact ⟨rfl, afterCommand_silent hsilent⟩
  | controlling operation phase =>
    cases operation with
    | assertManifest => exact hsilent.elim
    | setOutputPolicy => exact ⟨rfl, afterControl_silent⟩
  | projecting i reply => exact hsilent.elim
  | upserting device reply => exact hsilent.elim
  | answered reply => exact ⟨rfl, trivial⟩

/-- **Where no call projects, the directory stays as it was hydrated.** -/
theorem served_directory (hcalls : ∀ c, (call c).Silent) (turns : List (Turn LiveDraws)) :
    (control.served call h directory turns).shared.directory = directory :=
  (Pool.inv (I := fun s : control.Live => s.directory = directory) (L := fun _ _ stage => stage.Silent)
    (fun c _ _ _ hs hsilent => (advance_silent (hcalls c) hsilent).1.trans hs)
    (fun c _ _ _ _ hsilent => (advance_silent (hcalls c) hsilent).2)
    (fun _ _ _ _ _ _ _ _ _ hother => hother) ⟨rfl, fun _ => trivial⟩ turns).1

/-- **A revocation is not seen.** In a run of calls of which none acknowledges a grant or asserts a
Manifest, a device that was approved when the directory was hydrated, and whose Claim is revoked since,
is shown approved in every state after. -/
theorem revoked_stays_shown (control : DeviceControl) (call : Nat → control.Call) {h : Hub}
    {directory : control.Directory} (hreach : control.Reachable h) (hcalls : ∀ c, (call c).Silent)
    (turns : List (Turn LiveDraws)) {i : DeviceInstanceId} {entry : DirectoryEntry control.authority.crypto}
    (hentry : directory i = some entry) (happroved : entry.lifecycleState = .approved) {claim : ClaimRow}
    (hclaim : (control.served call h directory turns).shared.hub.tables.claims.get
      (·.deviceInstanceId) i = some claim) (hrevoked : claim.state = .revoked) :
    (control.served call h directory turns).shared.directory i = some entry ∧
      ¬ Coherent (control.served call h directory turns).shared i := by
  have hshown : (control.served call h directory turns).shared.directory i = some entry := by
    rw [served_directory hcalls turns, hentry]
  refine ⟨hshown, ?_⟩
  rintro ⟨found, hread, hsame⟩
  obtain ⟨device, rfl, rfl⟩ := Option.map_eq_some_iff.mp (hsame.symm.trans hshown)
  exact revoked_not_approved (served_sound hreach turns) hread hclaim hrevoked happroved

end Runs

end DeviceControl

/-! ### A lamp whose Manifest changes, and that is revoked -/

namespace Sample

open DeviceControl

/-- The Hub once the lamp is claimed. -/
def lampHub : Hub := run control.next .empty lampClaimed

theorem lampHub_reachable : control.Reachable lampHub := ⟨lampClaimed, rfl⟩

/-- The directory once every row is copied. -/
def lampDirectory : control.Directory := (control.executeAll lampHub fun _ => none).toOption.getD fun _ => none

theorem lampDirectory_hydrated : control.executeAll lampHub (fun _ => none) = .ok lampDirectory := by
  have hok : (control.executeAll lampHub fun _ => none).toOption.isSome = true := by decide +kernel
  unfold lampDirectory
  cases hexecute : control.executeAll lampHub fun _ => none with
  | ok directory => rfl
  | error e =>
    rw [hexecute] at hok
    cases hok

/-- What the first call draws at a turn. -/
def firstTurn (eventId : EventId) : Turn LiveDraws :=
  ⟨0, ⟨{ now := 7, eventId }, id, draws eventId⟩⟩

/-- The lamp asserts its second Manifest. -/
def reasserts : Nat → control.Call := fun _ => .device (assertManifest "k" 1 2)

/-- From the check of its Claim to the entry of its row. -/
def reassertion : List (Turn LiveDraws) := List.replicate 5 (firstTurn "m")

theorem reassertion_meets :
    Along (control.serve reasserts) Meets (control.opened lampHub lampDirectory) reassertion := by
  have hchecks : Along (control.serve reasserts) (fun p turn => (p.phase turn.call).checks p.shared = true)
      (control.opened lampHub lampDirectory) reassertion := by
    decide +kernel
  exact Along.imp_of_inv (I := fun _ => True) (fun _ _ _ _ => trivial) (fun _ _ _ => meets_of_checks)
    trivial hchecks

/-- Its Owner revokes the lamp. -/
def revokes : Nat → control.Call :=
  fun _ => .admission (.revokeClaim "revoke" "revoke" (Sample.deviceRef "k" 1) "lost" (Sample.owner "alice"))

/-- From the lookup to the answer. -/
def revocation : List (Turn LiveDraws) := List.replicate 2 (firstTurn "revoke")

/-- A schedule of the first call rests where that call does. -/
theorem atRest_of_first {call : Nat → control.Call} {turns : List (Turn LiveDraws)}
    (hfirst : ∀ turn ∈ turns, turn.call = 0)
    (hrests : ((control.served call lampHub lampDirectory turns).phase 0).Rests) :
    AtRest (control.served call lampHub lampDirectory turns) := by
  intro c
  by_cases hc : c = 0
  · rw [hc]
    exact hrests
  · have hphase : (control.served call lampHub lampDirectory turns).phase c = .fresh :=
      Pool.run_phase_of_ne fun turn hturn heq => hc (heq.symm.trans (hfirst turn hturn))
    rw [hphase]
    trivial

end Sample

theorem directory_coherent_lamp :
    DeviceControl.Coherent (Sample.control.served Sample.reasserts Sample.lampHub Sample.lampDirectory
      Sample.reassertion).shared "device-k" := by
  have hrest : DeviceControl.AtRest (Sample.control.served Sample.reasserts Sample.lampHub
      Sample.lampDirectory Sample.reassertion) :=
    Sample.atRest_of_first (by decide) (by decide +kernel)
  exact ((DeviceControl.directory_coherent Sample.control Sample.reasserts Sample.lampHub_reachable
    Sample.lampDirectory_hydrated Sample.reassertion Sample.reassertion_meets).1 hrest).1 "device-k"

/-- The lamp is revoked, and the directory goes on showing it approved. -/
theorem revoked_stays_shown_lamp :
    ¬ DeviceControl.Coherent (Sample.control.served Sample.revokes Sample.lampHub Sample.lampDirectory
      Sample.revocation).shared "device-k" := by
  have hentry : (Sample.lampDirectory "device-k").any (·.lifecycleState = .approved) = true := by
    decide +kernel
  have hclaim : ((Sample.control.served Sample.revokes Sample.lampHub Sample.lampDirectory
      Sample.revocation).shared.hub.tables.claims.get (·.deviceInstanceId) "device-k").any
        (·.state = .revoked) = true := by
    decide +kernel
  obtain ⟨entry, hentry, happroved⟩ := (Option.any_eq_true _ _).mp hentry
  obtain ⟨claim, hclaim, hrevoked⟩ := (Option.any_eq_true _ _).mp hclaim
  exact (DeviceControl.revoked_stays_shown Sample.control Sample.revokes Sample.lampHub_reachable
    (fun _ => rfl) Sample.revocation hentry (of_decide_eq_true happroved) hclaim
    (of_decide_eq_true hrevoked)).2

end EidolonHub.Devices
