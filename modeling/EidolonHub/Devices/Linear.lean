import EidolonHub.Devices.Mirror
import EidolonHub.Library.Pool

/-!
# EidolonHub.Devices.Linear

**Manifests and policies form one history.** A command reads the device, plans its change,
and commits it, and between these steps any other command may take any number of its own.
The commit compares the device once more, so what is committed is a path: every change
revises exactly the device the change before it left.

The numbers a device carries follow from the path. A declared revision is accepted only
above the one before, a policy revision is the successor of the one before, and a command
that was accepted can be accepted no second time.
-/

namespace EidolonHub.Devices

open EidolonHub.Library EidolonHub.Library.Tx EidolonHub.Library.Python EidolonHub.Admission

namespace DeviceControl

/-! ### Calls and their steps -/

/-- How far a call has come. -/
inductive Phase (control : DeviceControl) where
  | fresh
  /-- the Claim or the scope was checked; the device is read next -/
  | authorized
  /-- the change is computed; the commit is next -/
  | planned (mutation : control.Mutation) (answer : control.Answer)
  /-- the change is made, or found to be made; what is awaited after it is next -/
  | following (answer : control.Answer) (followed : Bool)
  | answered (result : Except ControlError control.Answer)

variable (control : DeviceControl) (operation : Nat → control.Operation)

/-- The next step of a call. -/
def act (c : Nat) (draws : ControlDraws) (h : Hub) : control.Phase → Hub × control.Phase
  | .fresh =>
    match control.authorize h.tables (operation c) with
    | .error e => (h, .answered (.error e))
    | .ok () => (h, .authorized)
  | .authorized =>
    match control.getDevice h (operation c).deviceRef.deviceInstanceId with
    | .error e => (h, .answered (.error e))
    | .ok current =>
      match control.plan draws (operation c) current with
      | .error e => (h, .answered (.error e))
      | .ok (.settled answer followed) => (h, .following answer followed)
      | .ok (.write mutation answer) => (h, .planned mutation answer)
  | .planned mutation answer =>
    match control.commit mutation h with
    | .error e => (h, .answered (.error e))
    | .ok (_, h') => (h', .following answer true)
  | .following answer followed => (h, .answered (control.finish draws answer followed))
  | .answered result => (h, .answered result)

/-- The Hub and its calls after a turn. -/
abbrev turn : Pool Hub control.Phase → Turn ControlDraws → Pool Hub control.Phase :=
  Pool.step (control.act operation)

/-- One commit, with the answer of the call that made it. -/
structure Change where
  call : Nat
  mutation : control.Mutation
  answer : control.Answer

/-- What a turn commits, if it commits anything. -/
def changeOf (s : Pool Hub control.Phase) (turn : Turn ControlDraws) : Option control.Change :=
  match s.phase turn.call with
  | .planned mutation answer =>
    match control.commit mutation s.shared with
    | .error _ => none
    | .ok _ => some ⟨turn.call, mutation, answer⟩
  | _ => none

/-- The commits of a schedule, in order. -/
def changes (h : Hub) (turns : List (Turn ControlDraws)) : List control.Change :=
  outputs (control.turn operation) control.changeOf (.start h .fresh) turns

/-- The Hub and its calls after a schedule that starts with this database. -/
def scheduled (h : Hub) (turns : List (Turn ControlDraws)) : Pool Hub control.Phase :=
  run (control.turn operation) (.start h .fresh) turns

/-! ### The history -/

variable {control} in
/-- The change is what its command makes of this device. -/
def Computed (device : control.Device) (change : control.Change) : Prop :=
  ∃ draws, Revises control draws device (operation change.call) change.mutation change.answer

variable {control} in
/-- **A commit** of an authorized command: it is computed from the device that the database
holds, and changes that device and the audit log and nothing else. -/
structure Step (h : Hub) (change : control.Change) (h' : Hub) : Prop where
  authorized : control.authorize h.tables (operation change.call) = .ok ()
  computed : ∃ device, Computed operation device change
  committed : Committed control change.mutation h h'

variable {control operation} {h h' : Hub} {turns : List (Turn ControlDraws)} {i : DeviceInstanceId}
  {change : control.Change} {device device' : control.Device}

/-- A call past its first check is authorized. What it has planned was computed from the device
it expects, and the row of that device can be read. -/
def Sound (operation : Nat → control.Operation) (c : Nat) (h : Hub) : control.Phase → Prop
  | .authorized => control.authorize h.tables (operation c) = .ok ()
  | .planned mutation answer => control.authorize h.tables (operation c) = .ok () ∧
      (∃ device, Computed operation device ⟨c, mutation, answer⟩) ∧
      ∃ found, control.getDevice h mutation.device.deviceId = .ok found
  | _ => True

theorem Committed.leaves {mutation : control.Mutation} (hcommitted : Committed control mutation h h')
    {draws : ControlDraws} {op : control.Operation} {answer : control.Answer}
    (hrevises : Revises control draws device op mutation answer) :
    control.getDevice h' mutation.device.deviceId = .ok (some mutation.device) := by
  obtain ⟨row, -, hdecode⟩ := hcommitted.row hrevises
  have hdomain : mutation.device.ownerDomainId = control.authority.ownerDomainId :=
    (congrArg DeviceRef.ownerDomainId hrevises.same.1).trans (decode_ok.mp hdecode).1
  refine getDevice_ok.mpr (.inr ⟨mutation.device.values, mutation.device, ?_, rfl, ?_⟩)
  · rw [hcommitted.device, if_pos rfl]
  · rw [← hdomain]
    exact decode_values

/-- The first check reads the Claim table only. -/
theorem authorize_congr {t t' : Tables} (hclaims : t'.claims = t.claims) :
    control.authorize t' = control.authorize t := by
  funext op
  cases op <;> simp only [authorize, getClaim, hclaims]

theorem Committed.claims {mutation : control.Mutation} (hcommitted : Committed control mutation h h') :
    h'.tables.claims = h.tables.claims := by
  obtain ⟨devices, htables⟩ := hcommitted.tables
  rw [htables]

/-- Reading the device changes nothing. -/
theorem act_authorized {c : Nat} {draws : ControlDraws} :
    (control.act operation c draws h .authorized).1 = h := by
  simp only [act]
  split
  · rfl
  · split <;> rfl

theorem act_claims {c : Nat} {draws : ControlDraws} {p : control.Phase} :
    (control.act operation c draws h p).1.tables.claims = h.tables.claims := by
  cases p with
  | fresh =>
    simp only [act]
    split <;> rfl
  | authorized =>
    simp only [act]
    split
    · rfl
    · split <;> rfl
  | planned mutation answer =>
    simp only [act]
    split
    · rfl
    · next hcommit => exact (commit_commits hcommit).claims
  | following => rfl
  | answered => rfl

/-- A row that can be read can be read after any turn of a call. -/
theorem act_readable {c : Nat} {draws : ControlDraws} {p : control.Phase} (hs : Sound operation c h p)
    (hread : ∃ found, control.getDevice h i = .ok found) :
    ∃ found, control.getDevice (control.act operation c draws h p).1 i = .ok found := by
  cases p with
  | fresh =>
    simp only [act]
    split <;> exact hread
  | authorized =>
    simp only [act]
    split
    · exact hread
    · split <;> exact hread
  | planned mutation answer =>
    simp only [act]
    split
    · exact hread
    · next hcommit =>
      have hcommitted := commit_commits hcommit
      obtain ⟨-, ⟨device, draws, hrevises⟩, -⟩ := hs
      by_cases hi : i = mutation.device.deviceId
      · subst hi
        exact ⟨_, hcommitted.leaves hrevises⟩
      · unfold getDevice
        rw [hcommitted.device i, if_neg hi]
        exact hread
  | following => exact hread
  | answered => exact hread

/-- A turn of one call leaves what is said of another. -/
theorem sound_other {c b : Nat} {draws : ControlDraws} {p q : control.Phase}
    (hs : Sound operation c h p) (hother : Sound operation b h q) :
    Sound operation b (control.act operation c draws h p).1 q := by
  cases q with
  | authorized => exact (congrFun (authorize_congr act_claims) _).trans hother
  | planned mutation answer =>
    exact ⟨(congrFun (authorize_congr act_claims) _).trans hother.1, hother.2.1,
      act_readable hs hother.2.2⟩
  | _ => trivial

theorem act_sound {c : Nat} {draws : ControlDraws} {p : control.Phase} (hs : Sound operation c h p) :
    Sound operation c (control.act operation c draws h p).1 (control.act operation c draws h p).2 := by
  cases p with
  | fresh =>
    simp only [act]
    split
    · trivial
    · next hauthorized => exact hauthorized
  | authorized =>
    simp only [act]
    split
    · trivial
    · next current hread =>
      split
      · trivial
      · trivial
      · next hplan =>
        obtain ⟨device, -, hrevises⟩ := plan_write hplan
        refine ⟨hs, ⟨device, draws, hrevises⟩, current, ?_⟩
        rw [hrevises.deviceId]
        exact hread
  | planned =>
    simp only [act]
    split <;> trivial
  | following => trivial
  | answered => trivial

theorem turn_sound {s : Pool Hub control.Phase} {t : Turn ControlDraws}
    (hs : ∀ c, Sound operation c s.shared (s.phase c)) (c : Nat) :
    Sound operation c (control.turn operation s t).shared ((control.turn operation s t).phase c) :=
  (Pool.inv_step (I := fun _ => True) (L := Sound operation) (fun _ _ _ _ _ _ => trivial)
    (fun _ _ _ _ _ hL => act_sound hL) (fun _ _ _ _ _ _ _ _ hL hL' => sound_other hL hL')
    ⟨trivial, hs⟩).2 c

theorem scheduled_sound (control : DeviceControl) (operation : Nat → control.Operation) (h : Hub)
    (turns : List (Turn ControlDraws)) (c : Nat) :
    Sound operation c (control.scheduled operation h turns).shared
      ((control.scheduled operation h turns).phase c) := by
  refine @run_inv _ _ (control.turn operation) (fun s => ∀ c, Sound operation c s.shared (s.phase c))
    (fun _ _ => turn_sound) (.start h .fresh) ?_ turns c
  exact fun _ => trivial

theorem changeOf_some {s : Pool Hub control.Phase} {t : Turn ControlDraws} :
    control.changeOf s t = some change ↔ change.call = t.call ∧
      s.phase t.call = .planned change.mutation change.answer ∧
      Commits (control.commit change.mutation) s.shared () (s.step (control.act operation) t).shared := by
  obtain ⟨call, mutation, answer⟩ := change
  unfold changeOf
  cases hphase : s.phase t.call with
  | planned mutation' answer' =>
    simp only [Pool.step_shared, hphase, act, Commits]
    cases hcommit : control.commit mutation' s.shared with
    | error e =>
      simp only [reduceCtorEq, false_iff, Phase.planned.injEq, not_and]
      rintro rfl ⟨rfl, rfl⟩ hcommit'
      rw [hcommit] at hcommit'
      cases hcommit'
    | ok r =>
      simp only [Option.some.injEq, Change.mk.injEq, Phase.planned.injEq]
      constructor
      · rintro ⟨rfl, rfl, rfl⟩
        exact ⟨rfl, ⟨rfl, rfl⟩, hcommit⟩
      · rintro ⟨rfl, ⟨rfl, rfl⟩, -⟩
        exact ⟨rfl, rfl, rfl⟩
  | _ => simp

/-- A turn that commits nothing leaves the database. -/
theorem changeOf_none {s : Pool Hub control.Phase} {t : Turn ControlDraws}
    (hnone : control.changeOf s t = none) : (s.step (control.act operation) t).shared = s.shared := by
  rw [Pool.step_shared]
  unfold changeOf at hnone
  cases hphase : s.phase t.call with
  | planned mutation answer =>
    simp only [hphase, act] at hnone ⊢
    split at hnone
    · next e hcommit => rw [hcommit]
    · cases hnone
  | fresh =>
    simp only [act]
    split <;> rfl
  | authorized =>
    simp only [act]
    split
    · rfl
    · split <;> rfl
  | following => rfl
  | answered => rfl

/-- **What is committed is a path of commits**, from the database the calls started with to
the one they left. -/
theorem changes_path (control : DeviceControl) (operation : Nat → control.Operation) (h : Hub)
    (turns : List (Turn ControlDraws)) :
    Path (Step operation) h (control.changes operation h turns)
      (control.scheduled operation h turns).shared := by
  refine outputs_path (f := Pool.shared) (s := .start h .fresh)
    (I := fun s : Pool Hub control.Phase => ∀ c, Sound operation c s.shared (s.phase c)) ?_ ?_ ?_ ?_ turns
  · exact fun _ _ => turn_sound
  · intro s t change hs hchange
    obtain ⟨hcall, hphase, hcommit⟩ := changeOf_some.mp hchange
    have hsound := hs t.call
    rw [hphase, ← hcall] at hsound
    exact ⟨hsound.1, hsound.2.1, commit_commits hcommit⟩
  · intro s t _ hnone
    exact changeOf_none hnone
  · exact fun _ => trivial

/-! ### One device -/

/-- A change, seen at its device. -/
def Revised (operation : Nat → control.Operation) (found : Except ControlError (Option control.Device))
    (change : control.Change) (left : Except ControlError (Option control.Device)) : Prop :=
  ∃ device, found = .ok (some device) ∧ Computed operation device change ∧
    left = .ok (some change.mutation.device)

/-- The changes of one device. -/
def ofDevice (i : DeviceInstanceId) (log : List control.Change) : List control.Change :=
  log.filter fun change => change.mutation.device.deviceId = i

variable {log : List control.Change} {found left : Except ControlError (Option control.Device)}

/-- **The history of one device** is the path of its own changes. -/
theorem device_path (hpath : Path (Step operation) h log h') (i : DeviceInstanceId) :
    Path (Revised operation) (control.getDevice h i) (ofDevice i log) (control.getDevice h' i) := by
  apply hpath.project (f := (control.getDevice · i))
  · intro h h' change hi hstep
    obtain ⟨device, draws, hrevises⟩ := hstep.computed
    rw [← of_decide_eq_true hi]
    exact ⟨device, hstep.committed.expected.trans (congrArg _ hrevises.expected), ⟨draws, hrevises⟩,
      hstep.committed.leaves hrevises⟩
  · intro h h' change hi hstep
    have hne : i ≠ change.mutation.device.deviceId := fun heq => of_decide_eq_false hi heq.symm
    unfold getDevice
    rw [hstep.committed.device i, if_neg hne]

/-- The second is the first device at a later time. -/
def Same (device later : control.Device) : Prop :=
  later.deviceRef = device.deviceRef ∧ later.ownerId = device.ownerId ∧
    later.manifestId = device.manifestId ∧ later.lifecycleState = device.lifecycleState

theorem Same.trans {device'' : control.Device} (h : Same device device') (h' : Same device' device'') :
    Same device device'' :=
  ⟨h'.1.trans h.1, h'.2.1.trans h.2.1, h'.2.2.1.trans h.2.2.1, h'.2.2.2.trans h.2.2.2⟩

/-- Who the device is outlasts its changes. -/
theorem Computed.same (hcomputed : Computed operation device change) :
    Same device change.mutation.device := by
  obtain ⟨draws, hrevises⟩ := hcomputed
  obtain ⟨href, howner, hmanifest, hstate, -⟩ := hrevises.same
  exact ⟨href, howner, hmanifest, hstate⟩

/-! ### Its numbers -/

/-- The Manifest revision a command has accepted. -/
def Operation.asserts : control.Operation → Option Nat
  | .assertManifest assertion => some assertion.manifest.revision
  | .setOutputPolicy .. => none

/-- The policy revision a command leaves. -/
def Operation.sets : control.Operation → Option Nat
  | .assertManifest _ => none
  | .setOutputPolicy command _ => some (command.expectedRevision + 1)

/-- A number of the device that was found. -/
def measure (number : control.Device → Nat) : Except ControlError (Option control.Device) → Nat
  | .ok (some device) => number device
  | _ => 0

theorem Revised.declared (hrevised : Revised operation found change left) :
    match (operation change.call).asserts with
    | some r => measure (·.manifest.declaredRevision) found < r ∧
        measure (·.manifest.declaredRevision) left = r
    | none => measure (·.manifest.declaredRevision) left =
        measure (·.manifest.declaredRevision) found := by
  obtain ⟨device, rfl, ⟨draws, hrevises⟩, rfl⟩ := hrevised
  generalize operation change.call = op at hrevises
  obtain ⟨call, mutation, answer⟩ := change
  cases hrevises with
  | manifest _ _ hdeclared hnewer =>
    exact ⟨hnewer, (DeviceManifestDocument.fromDeclaration_ok hdeclared).2.2⟩
  | policy => rfl

theorem Revised.policy (hrevised : Revised operation found change left) :
    match (operation change.call).sets with
    | some r => r = measure control.policyRevision found + 1 ∧ measure control.policyRevision left = r
    | none => measure control.policyRevision left = measure control.policyRevision found := by
  obtain ⟨device, rfl, ⟨draws, hrevises⟩, rfl⟩ := hrevised
  generalize operation change.call = op at hrevises
  obtain ⟨call, mutation, answer⟩ := change
  cases hrevises with
  | manifest => rfl
  | policy _ _ _ _ hrevision =>
    refine ⟨congrArg (· + 1) hrevision.symm, ?_⟩
    show control.policyRevision device + 1 = _
    rw [hrevision]

/-- Accepted Manifest revisions are strictly increasing, and none is above the last. -/
theorem declared_increasing (hpath : Path (Revised operation) found log left) :
    (log.filterMap fun change => (operation change.call).asserts).Pairwise (· < ·) ∧
      ∀ r ∈ log.filterMap fun change => (operation change.call).asserts,
        measure (·.manifest.declaredRevision) found < r ∧
          r ≤ measure (·.manifest.declaredRevision) left := by
  refine (hpath.increasing (m := measure (·.manifest.declaredRevision)) ?_ ?_).2
  · intro found left change r hrevised hr
    simpa only [hr] using hrevised.declared
  · intro found left change hrevised hr
    simpa only [hr] using hrevised.declared

/-- Policy revisions follow one another. -/
theorem policies_consecutive (hpath : Path (Revised operation) found log left) :
    log.filterMap (fun change => (operation change.call).sets) =
        List.range' (measure control.policyRevision found + 1)
          (log.filterMap fun change => (operation change.call).sets).length ∧
      measure control.policyRevision left = measure control.policyRevision found +
        (log.filterMap fun change => (operation change.call).sets).length := by
  refine hpath.consecutive (m := measure control.policyRevision) ?_ ?_
  · intro found left change r hrevised hr
    simpa only [hr] using hrevised.policy
  · intro found left change hrevised hr
    simpa only [hr] using hrevised.policy

/-! ### A command that was accepted -/

theorem asserts_or_sets (op : control.Operation) : (∃ r, op.asserts = some r) ∨ ∃ r, op.sets = some r := by
  cases op with
  | assertManifest assertion => exact .inl ⟨_, rfl⟩
  | setOutputPolicy command context => exact .inr ⟨_, rfl⟩

/-- On one device no command is accepted twice. -/
theorem device_once (hpath : Path (Revised operation) found log left) :
    log.Pairwise fun change change' => operation change.call ≠ operation change'.call := by
  have hdeclared := List.pairwise_filterMap.mp (declared_increasing hpath).1
  have hpolicies : (log.filterMap fun change => (operation change.call).sets).Pairwise (· < ·) := by
    rw [(policies_consecutive hpath).1]
    exact List.pairwise_lt_range'
  refine (hdeclared.and (List.pairwise_filterMap.mp hpolicies)).imp ?_
  intro change change' hbefore heq
  -- the second acceptance would set the number to what the first has left behind
  rcases asserts_or_sets (operation change.call) with ⟨r, hr⟩ | ⟨r, hr⟩
  · exact absurd (hbefore.1 r hr r (heq ▸ hr)) (Nat.lt_irrefl r)
  · exact absurd (hbefore.2 r hr r (heq ▸ hr)) (Nat.lt_irrefl r)

/-- **No command is accepted twice.** -/
theorem path_once (hpath : Path (Step operation) h log h') :
    log.Pairwise fun change change' => operation change.call ≠ operation change'.call := by
  have hdevice : ∀ change ∈ log,
      change.mutation.device.deviceId = (operation change.call).deviceRef.deviceInstanceId := by
    intro change hmem
    obtain ⟨_, _, hstep⟩ := hpath.step_of_mem hmem
    obtain ⟨device, draws, hrevises⟩ := hstep.computed
    exact hrevises.deviceId
  rw [List.pairwise_iff_forall_sublist]
  intro change change' hsub heq
  have hsame : change.mutation.device.deviceId = change'.mutation.device.deviceId := by
    rw [hdevice change (hsub.subset (by simp)), hdevice change' (hsub.subset (by simp)), heq]
  have hfilter := hsub.filter fun e => e.mutation.device.deviceId = change'.mutation.device.deviceId
  simp only [List.filter_cons, hsame, decide_true, if_true, List.filter_nil] at hfilter
  exact List.pairwise_iff_forall_sublist.mp (device_once (device_path hpath _)) hfilter heq

/-- Both commands assert a Manifest, or both set a policy. -/
def SameKind (op op' : control.Operation) : Prop := op.asserts.isSome = op'.asserts.isSome

/-- The second device has what this command changes as the first has it. -/
def Holds : control.Operation → control.Device → control.Device → Prop
  | .assertManifest _, device, later => later.manifest = device.manifest
  | .setOutputPolicy .., device, later => later.outputPolicy = device.outputPolicy

/-- The second device has it at a higher revision. -/
def Outgrown : control.Operation → control.Device → control.Device → Prop
  | .assertManifest _, device, later =>
    device.manifest.declaredRevision < later.manifest.declaredRevision
  | .setOutputPolicy .., device, later => control.policyRevision device < control.policyRevision later

/-- The digest the Hub computes for an asserted Manifest is the one the device declared. -/
def Agrees : control.Operation → Prop
  | .assertManifest assertion =>
    control.authority.crypto.digest (dumps assertion.manifest.document) = assertion.manifest.digest
  | .setOutputPolicy .. => True

/-- What the repeat of a command is answered with, and whether a further step is awaited before. -/
def again (draws : ControlDraws) : control.Answer → control.Answer × Bool
  | .accepted acceptance =>
    (.accepted { acceptance with outcome := .unchanged, acceptedAt := draws.answeredAt }, false)
  | .policy policy => (.policy policy, true)

/-- What a command is refused with when a later one of its kind was accepted. -/
def Operation.conflict : control.Operation → ControlError
  | .assertManifest _ => .manifestRevision "manifest revision is older than the accepted declaration"
  | .setOutputPolicy .. => .outputPolicy "output policy revision changed"

section Repeats

variable {later : control.Device} {draws : ControlDraws}
  (hcomputed : Computed operation device change)
  (hsame : Same device later)
include hcomputed hsame

/-- While the device has what a command left, the command is answered as it was. -/
theorem plan_again (hholds : Holds (operation change.call) change.mutation.device later)
    (hagrees : Agrees (operation change.call)) :
    control.plan draws (operation change.call) (some later) =
      .ok (.settled (again draws change.answer).1 (again draws change.answer).2) := by
  obtain ⟨href, howner, hname, hstate⟩ := hsame
  obtain ⟨draws', hrevises⟩ := hcomputed
  generalize operation change.call = op at *
  obtain ⟨call, mutation, answer⟩ := change
  cases hrevises with
  | @manifest assertion manifest hdevice hmanifest hdeclared hnewer =>
    obtain ⟨-, hdigest, hrevision⟩ := DeviceManifestDocument.fromDeclaration_ok hdeclared
    have hmanifest' : later.manifest = manifest := hholds
    have hreference : assertion.manifest.ref = later.manifestRef := by
      simp only [ManifestDeclaration.ref, ManagedDevice.manifestRef, ManifestRef.mk.injEq]
      refine ⟨by rw [hname, hmanifest], by rw [hmanifest', hrevision], ?_⟩
      rw [hmanifest', hdigest]
      exact Eq.symm hagrees
    simp only [plan, planAssertion, href, hdevice, hname, hmanifest, hdeclared, hreference,
      hmanifest', hrevision, ne_eq, not_true_eq_false, if_false, Nat.lt_irrefl, if_true]
    rfl
  | @policy command context hdevice hdomain hid happroved hrevision =>
    have hpolicy : later.outputPolicy = some (control.nextPolicy command device) := hholds
    have howned : control.ownedDevice command.deviceRef context (some later) = .ok later :=
      ownedDevice_ok.mpr ⟨rfl, hstate.trans happroved,
        hdomain.trans (congrArg DeviceRef.ownerDomainId href).symm, hid.trans howner.symm,
        href.trans hdevice⟩
    have hnext : control.policyRevision later = command.expectedRevision + 1 := by
      rw [← hrevision, policyRevision, hpolicy]
      rfl
    -- the revision has moved on by the command's own change, so the plan looks whether it is in
    -- force
    have hmoved : control.policyRevision later ≠ command.expectedRevision := by omega
    have happlied : control.Applied command (control.nextPolicy command device) := by
      refine ⟨congrArg (· + 1) hrevision, rfl, ?_⟩
      cases command with
      | mk deviceRef expectedRevision allowed inputs =>
        cases inputs with
        | none => exact .inl rfl
        | some inputs => exact .inr rfl
    simp only [plan, planPolicy, howned, hmoved, hpolicy, happlied, ne_eq, not_false_eq_true,
      if_true, again]

/-- Once the device has moved on, the command is refused. -/
theorem plan_outgrown (hgrown : Outgrown (operation change.call) change.mutation.device later) :
    control.plan draws (operation change.call) (some later) =
      .error (operation change.call).conflict := by
  obtain ⟨href, howner, hname, hstate⟩ := hsame
  obtain ⟨draws', hrevises⟩ := hcomputed
  generalize operation change.call = op at *
  obtain ⟨call, mutation, answer⟩ := change
  cases hrevises with
  | @manifest assertion manifest hdevice hmanifest hdeclared hnewer =>
    have holder : assertion.manifest.revision < later.manifest.declaredRevision := by
      rw [← (DeviceManifestDocument.fromDeclaration_ok hdeclared).2.2]
      exact hgrown
    simp only [plan, planAssertion, href, hdevice, hname, hmanifest, hdeclared, holder, ne_eq,
      not_true_eq_false, if_false, if_true, Operation.conflict]
  | @policy command context hdevice hdomain hid happroved hrevision =>
    have howned : control.ownedDevice command.deviceRef context (some later) = .ok later :=
      ownedDevice_ok.mpr ⟨rfl, hstate.trans happroved,
        hdomain.trans (congrArg DeviceRef.ownerDomainId href).symm, hid.trans howner.symm,
        href.trans hdevice⟩
    have hlater : command.expectedRevision + 1 < control.policyRevision later := by
      rw [← hrevision]
      exact hgrown
    have hmoved : control.policyRevision later ≠ command.expectedRevision := by omega
    simp only [plan, planPolicy, howned, hmoved, ne_eq, not_false_eq_true, if_true,
      Operation.conflict]
    cases hpolicy : later.outputPolicy with
    | none => rfl
    | some policy =>
      have hnot : ¬ control.Applied command policy := by
        intro happlied
        simp only [policyRevision, hpolicy, Option.map_some, Option.getD_some] at hlater
        rw [happlied.1] at hlater
        exact Nat.lt_irrefl _ hlater
      simp only [hnot, if_false]

end Repeats

theorem Computed.holds {op : control.Operation} (hcomputed : Computed operation device change)
    (hkind : ¬ SameKind op (operation change.call)) : Holds op device change.mutation.device := by
  obtain ⟨draws, hrevises⟩ := hcomputed
  generalize operation change.call = op' at *
  obtain ⟨call, mutation, answer⟩ := change
  cases hrevises with
  | manifest =>
    cases op with
    | assertManifest => exact absurd rfl hkind
    | setOutputPolicy => rfl
  | policy =>
    cases op with
    | assertManifest => rfl
    | setOutputPolicy => exact absurd rfl hkind

/-- **A device after some changes**: it has what a command left as long as no later command of
that kind was accepted, and has it at a higher revision from then on. -/
theorem device_later (hpath : Path (Revised operation) (.ok (some device)) log left) :
    ∃ later, left = .ok (some later) ∧ Same device later ∧ ∀ op : control.Operation,
      ((∀ change ∈ log, ¬ SameKind op (operation change.call)) → Holds op device later) ∧
      ((∃ change ∈ log, SameKind op (operation change.call)) → Outgrown op device later) := by
  obtain ⟨later, rfl, hsame⟩ : ∃ later, left = .ok (some later) ∧ Same device later := by
    refine hpath.inv (I := fun found => ∃ later, found = .ok (some later) ∧ Same device later) ?_
      ⟨device, rfl, rfl, rfl, rfl, rfl⟩
    intro found left change hfound _ hrevised
    obtain ⟨device', hdevice, hcomputed, rfl⟩ := hrevised
    obtain ⟨later, rfl, hlater⟩ := hfound
    cases hdevice
    exact ⟨_, rfl, hlater.trans hcomputed.same⟩
  refine ⟨later, rfl, hsame, fun op => ⟨fun hnone => ?_, fun hsome => ?_⟩⟩
  · obtain ⟨later', heq, hholds⟩ :
        ∃ later', (.ok (some later) : Except ControlError (Option control.Device)) =
          .ok (some later') ∧ Holds op device later' := by
      refine hpath.inv
        (I := fun found => ∃ later, found = .ok (some later) ∧ Holds op device later) ?_
        ⟨device, rfl, by cases op <;> rfl⟩
      intro found left change hfound hmem hrevised
      obtain ⟨device', hdevice, hcomputed, rfl⟩ := hrevised
      obtain ⟨later', rfl, hlater⟩ := hfound
      cases hdevice
      have hnext := hcomputed.holds (hnone change hmem)
      refine ⟨_, rfl, ?_⟩
      cases op <;> exact Eq.trans hnext hlater
    cases heq
    exact hholds
  · obtain ⟨change, hmem, hkind⟩ := hsome
    cases op with
    -- a later assertion declares a higher revision
    | assertManifest assertion =>
      obtain ⟨r, hr⟩ := Option.isSome_iff_exists.mp (Eq.symm hkind)
      obtain ⟨hlt, hle⟩ := (declared_increasing hpath).2 r (List.mem_filterMap.mpr ⟨change, hmem, hr⟩)
      exact Nat.lt_of_lt_of_le hlt hle
    -- each policy set counts one up
    | setOutputPolicy command context =>
      have hr : ∃ r, (operation change.call).sets = some r := by
        cases hop : operation change.call with
        | assertManifest assertion =>
          rw [hop] at hkind
          cases hkind
        | setOutputPolicy => exact ⟨_, rfl⟩
      obtain ⟨r, hr⟩ := hr
      have hlast := (policies_consecutive hpath).2
      have hlength : 0 < (log.filterMap fun change => (operation change.call).sets).length :=
        List.length_pos_of_mem (List.mem_filterMap.mpr ⟨change, hmem, hr⟩)
      show measure control.policyRevision (.ok (some device)) <
        measure control.policyRevision (.ok (some later))
      omega

/-! ### The audit log -/

/-- The generator of event ids never repeats itself, nor an id that is on file. -/
def FreshIds (h : Hub) (turns : List (Turn ControlDraws)) : Prop :=
  (turns.map (·.draws.eventId)).Nodup ∧
    ∀ turn ∈ turns, ∀ row ∈ h.events, row.eventId ≠ turn.draws.eventId

theorem Computed.eventId {draws : ControlDraws} {op : control.Operation}
    {mutation : control.Mutation} {answer : control.Answer}
    (hrevises : Revises control draws device op mutation answer) :
    mutation.event.eventId = draws.eventId := by
  cases hrevises <;> rfl

/-- A call plans a change in the step in which it draws the id of its event. -/
theorem act_planned {c : Nat} {draws : ControlDraws} {p : control.Phase}
    {mutation : control.Mutation} {answer : control.Answer}
    (hplanned : (control.act operation c draws h p).2 = .planned mutation answer) :
    mutation.event.eventId = draws.eventId := by
  cases p with
  | fresh =>
    simp only [act] at hplanned
    split at hplanned <;> cases hplanned
  | authorized =>
    simp only [act] at hplanned
    split at hplanned
    · cases hplanned
    · split at hplanned
      · cases hplanned
      · cases hplanned
      · next hplan =>
        cases hplanned
        obtain ⟨device, -, hrevises⟩ := plan_write hplan
        exact Computed.eventId hrevises
  | planned =>
    simp only [act] at hplanned
    split at hplanned <;> cases hplanned
  | following => cases hplanned
  | answered => cases hplanned

/-- One audit event for each commit, and one id for each planned change. -/
structure Audited (h : Hub) (turns : List (Turn ControlDraws)) (log : List control.Change)
    (s : Pool Hub control.Phase) : Prop where
  rows : s.shared.events.rows = h.events.rows ++ log.map fun change => auditRow change.mutation
  known : ∀ row ∈ s.shared.events, row ∈ h.events ∨ row.eventId ∈ turns.map (·.draws.eventId)
  drawn : ∀ c mutation answer, s.phase c = .planned mutation answer →
    mutation.event.eventId ∈ turns.map (·.draws.eventId)
  unused : ∀ c mutation answer, s.phase c = .planned mutation answer →
    ∀ row ∈ s.shared.events, row.eventId ≠ mutation.event.eventId
  distinct : ∀ c c' mutation answer mutation' answer', c ≠ c' →
    s.phase c = .planned mutation answer → s.phase c' = .planned mutation' answer' →
    mutation.event.eventId ≠ mutation'.event.eventId

section Audit

variable {s : Pool Hub control.Phase} {t : Turn ControlDraws}
  (ha : Audited h turns log s) (hnew : t.draws.eventId ∉ turns.map (·.draws.eventId))
  (hunknown : ∀ row ∈ h.events, row.eventId ≠ t.draws.eventId)

include ha in
/-- The rows after a turn: those before, and that of the change it commits. -/
theorem Audited.turn_rows :
    (control.turn operation s t).shared.events.rows =
      s.shared.events.rows ++ ((control.changeOf s t).toList.map fun change => auditRow change.mutation) := by
  cases hchange : control.changeOf s t with
  | none =>
    rw [changeOf_none hchange]
    simp
  | some change =>
    obtain ⟨hcall, hphase, hcommit⟩ := changeOf_some.mp hchange
    rcases (commit_commits hcommit).audits with ⟨-, hrows⟩ | ⟨hmem, -⟩
    · simpa using hrows
    · exact absurd rfl (ha.unused _ _ _ hphase _ hmem)

include ha in
theorem Audited.turn_mem {row : ManagementEventRow}
    (hrow : row ∈ (control.turn operation s t).shared.events) :
    row ∈ s.shared.events ∨ ∃ mutation answer, s.phase t.call = .planned mutation answer ∧
      row = auditRow mutation := by
  have hrows : row ∈ (control.turn operation s t).shared.events.rows := hrow
  rw [ha.turn_rows, List.mem_append] at hrows
  rcases hrows with hold | hadded
  · exact .inl hold
  · right
    simp only [List.mem_map, Option.mem_toList] at hadded
    obtain ⟨change, hchange, rfl⟩ := hadded
    obtain ⟨-, hphase, -⟩ : _ ∧ _ ∧ Commits _ _ _ (control.turn operation s t).shared :=
      changeOf_some.mp hchange
    exact ⟨change.mutation, change.answer, hphase, rfl⟩

/-- A planned change was planned before, or in this turn. -/
theorem turn_planned {c : Nat} {mutation : control.Mutation} {answer : control.Answer}
    (hplanned : (control.turn operation s t).phase c = .planned mutation answer) :
    (c ≠ t.call ∧ s.phase c = .planned mutation answer) ∨
      (c = t.call ∧ mutation.event.eventId = t.draws.eventId) := by
  by_cases hc : c = t.call
  · right
    subst hc
    exact ⟨rfl, act_planned (hplanned ▸ Pool.step_phase_self).symm⟩
  · left
    exact ⟨hc, (Pool.step_phase_ne hc).symm.trans hplanned⟩

include ha hnew hunknown in
theorem Audited.turn :
    Audited h (turns ++ [t]) (log ++ (control.changeOf s t).toList) (control.turn operation s t) := by
  -- an event id is of the beginning, or was drawn in some turn so far
  have hknown : ∀ row ∈ (control.turn operation s t).shared.events,
      row ∈ h.events ∨ row.eventId ∈ turns.map (·.draws.eventId) := by
    intro row hrow
    rcases ha.turn_mem hrow with hold | ⟨mutation, answer, hplanned, rfl⟩
    · exact ha.known row hold
    · exact .inr (ha.drawn _ _ _ hplanned)
  -- so the id of this turn is new
  have hfresh : ∀ row ∈ (control.turn operation s t).shared.events, row.eventId ≠ t.draws.eventId := by
    intro row hrow heq
    rcases hknown row hrow with hold | hdrawn
    · exact hunknown row hold heq
    · exact hnew (heq ▸ hdrawn)
  refine ⟨?_, ?_, ?_, ?_, ?_⟩
  · rw [ha.turn_rows, ha.rows, List.append_assoc, List.map_append]
  · intro row hrow
    rcases hknown row hrow with hold | hdrawn
    · exact .inl hold
    · exact .inr (by simpa using Or.inl hdrawn)
  · intro c mutation answer hplanned
    rcases turn_planned hplanned with ⟨-, hold⟩ | ⟨-, hid⟩
    · simpa using Or.inl (by simpa using ha.drawn _ _ _ hold)
    · simp [hid]
  · intro c mutation answer hplanned row hrow
    rcases turn_planned hplanned with ⟨hc, hold⟩ | ⟨-, hid⟩
    · rcases ha.turn_mem hrow with hmem | ⟨mutation', answer', hother, rfl⟩
      · exact ha.unused _ _ _ hold row hmem
      · exact ha.distinct _ _ _ _ _ _ (Ne.symm hc) hother hold
    · rw [hid]
      exact hfresh row hrow
  · intro c c' mutation answer mutation' answer' hne hplanned hplanned'
    rcases turn_planned hplanned with ⟨hc, hold⟩ | ⟨hc, hid⟩ <;>
      rcases turn_planned hplanned' with ⟨hc', hold'⟩ | ⟨hc', hid'⟩
    · exact ha.distinct _ _ _ _ _ _ hne hold hold'
    · rw [hid']
      exact fun heq => hnew (heq ▸ ha.drawn _ _ _ hold)
    · rw [hid]
      exact fun heq => hnew (heq ▸ ha.drawn _ _ _ hold')
    · exact absurd (hc.trans hc'.symm) hne

end Audit

/-- **One audit event for each commit.** -/
theorem audits_once (hfresh : FreshIds h turns) :
    Audited h turns (control.changes operation h turns) (control.scheduled operation h turns) := by
  revert hfresh
  refine @run_history _ _ (control.turn operation)
    (fun turns s => FreshIds h turns → Audited h turns (control.changes operation h turns) s)
    (.start h .fresh) ?_ ?_ turns
  · intro _
    refine ⟨?_, fun row hrow => .inl hrow, ?_, ?_, ?_⟩
    · simp [changes, outputs, Pool.start]
    · intro _ _ _ hp
      cases hp
    · intro _ _ _ hp
      cases hp
    · intro _ _ _ _ _ _ _ hp
      cases hp
  · intro turns t ih hfresh
    obtain ⟨hnodup, hnone⟩ := hfresh
    rw [List.map_append, List.nodup_append] at hnodup
    have hearlier : FreshIds h turns :=
      ⟨hnodup.1, fun turn hturn => hnone turn (List.mem_append_left _ hturn)⟩
    rw [changes, outputs_concat]
    refine (ih hearlier).turn ?_ (hnone t (by simp))
    intro hmem
    exact hnodup.2.2 _ hmem _ (by simp) rfl

/-! ### The whole of it -/

/-- A commit that no longer finds the device it expects is refused. -/
theorem commit_stale (hcomputed : Computed operation device change)
    {found : Option control.Device}
    (hfound : control.getDevice h change.mutation.device.deviceId = .ok found)
    (hmoved : found ≠ change.mutation.expected) :
    ∃ e, control.commit change.mutation h = .error e ∧
      ∀ text, dataJson change.mutation.event = .ok text →
        e = .concurrent "device changed concurrently; reload and retry" := by
  have hsubject : change.mutation.event.subject = change.mutation.device.deviceId := by
    obtain ⟨draws, hrevises⟩ := hcomputed
    rw [hrevises.deviceId, ← hrevises.deviceRef]
    generalize operation change.call = op at *
    obtain ⟨call, mutation, answer⟩ := change
    cases hrevises with
    | manifest href => exact (congrArg DeviceRef.deviceInstanceId href).symm
    | policy => rfl
  cases hcommit : control.commit change.mutation h with
  | ok r =>
    have hexpected := (commit_commits (show Commits _ h r.1 r.2 from hcommit)).expected
    rw [hfound] at hexpected
    exact absurd (Except.ok.inj hexpected) hmoved
  | error e =>
    refine ⟨e, rfl, ?_⟩
    intro text hjson
    have hread : control.readDevice change.mutation.device.deviceId h = .ok (found, h) := by
      simp only [readDevice, run_bind, Tx.read, hfound, Tx.lift]
      rfl
    have hrefused : control.commit change.mutation h =
        .error (.concurrent "device changed concurrently; reload and retry") := by
      unfold commit
      rw [run_raiseIf_bind, if_neg (not_not.mpr hsubject), hjson]
      show (control.readDevice change.mutation.device.deviceId >>= _) h = _
      rw [run_bind, hread]
      show (Tx.raiseIf _ _ >>= _) h = _
      rw [run_raiseIf_bind, if_pos hmoved]
    exact Except.error.inj (hcommit.symm.trans hrefused)

/-- A later command of its kind was accepted for the same device. -/
def Superseded (operation : Nat → control.Operation) (change : control.Change)
    (post : List control.Change) : Prop :=
  ∃ change' ∈ post, change'.mutation.device.deviceId = change.mutation.device.deviceId ∧
    SameKind (operation change.call) (operation change'.call)

/-- The device a command was accepted for, when the command is read again. -/
theorem changed_later {pre post : List control.Change}
    (hpath : Path (Step operation) h (pre ++ change :: post) h') :
    ∃ device later, Computed operation device change ∧ Same device later ∧
      control.authorize h'.tables (operation change.call) = .ok () ∧
      control.getDevice h' change.mutation.device.deviceId = .ok (some later) ∧
      (¬ Superseded operation change post →
        Holds (operation change.call) change.mutation.device later) ∧
      (Superseded operation change post →
        Outgrown (operation change.call) change.mutation.device later) := by
  obtain ⟨h₁, -, hlast⟩ := Path.append_iff.mp hpath
  cases hlast with
  | cons hstep hpost =>
    obtain ⟨device, draws, hrevises⟩ := hstep.computed
    have hdevice := device_path hpost change.mutation.device.deviceId
    rw [hstep.committed.leaves hrevises] at hdevice
    obtain ⟨later, hlater, hsame, hkinds⟩ := device_later hdevice
    have hcomputed : Computed operation device change := ⟨draws, hrevises⟩
    refine ⟨device, later, hcomputed, hcomputed.same.trans hsame, ?_, hlater, ?_, ?_⟩
    · refine hpost.inv (I := fun h => control.authorize h.tables (operation change.call) = .ok ())
        ?_ ((congrFun (authorize_congr hstep.committed.claims) _).trans hstep.authorized)
      intro h h' change' hauthorized _ hstep'
      exact (congrFun (authorize_congr hstep'.committed.claims) _).trans hauthorized
    · intro hnot
      apply (hkinds _).1
      intro change' hmem hkind
      obtain ⟨hmem, hid⟩ := List.mem_filter.mp hmem
      exact hnot ⟨change', hmem, of_decide_eq_true hid, hkind⟩
    · rintro ⟨change', hmem, hid, hkind⟩
      exact (hkinds _).2 ⟨change', List.mem_filter.mpr ⟨hmem, decide_eq_true hid⟩, hkind⟩

/-- What is true of the commands on the devices of one Hub after any schedule of their steps. -/
structure LinearHistory (control : DeviceControl) (operation : Nat → control.Operation) (h : Hub)
    (turns : List (Turn ControlDraws)) : Prop where
  /-- every commit is computed from the row the commit before it left -/
  commits : Path (Step operation) h (control.changes operation h turns)
    (control.scheduled operation h turns).shared
  /-- a call whose device has changed since it was read is refused and changes nothing -/
  stale : ∀ c mutation answer draws,
    (control.scheduled operation h turns).phase c = .planned mutation answer →
    control.getDevice (control.scheduled operation h turns).shared mutation.device.deviceId ≠
      .ok mutation.expected →
    (control.scheduled operation h (turns ++ [⟨c, draws⟩])).shared =
        (control.scheduled operation h turns).shared ∧
      ∃ e, (control.scheduled operation h (turns ++ [⟨c, draws⟩])).phase c = .answered (.error e) ∧
        ∀ text, dataJson mutation.event = .ok text →
          e = .concurrent "device changed concurrently; reload and retry"
  /-- accepted Manifest revisions increase, and the device holds the last -/
  manifests : ∀ i,
    ((ofDevice i (control.changes operation h turns)).filterMap
      fun change => (operation change.call).asserts).Pairwise (· < ·) ∧
    ∀ device, control.getDevice (control.scheduled operation h turns).shared i = .ok (some device) →
      ∀ r ∈ (ofDevice i (control.changes operation h turns)).filterMap
        fun change => (operation change.call).asserts, r ≤ device.manifest.declaredRevision
  /-- policy revisions follow one another -/
  policies : ∀ i device, control.getDevice h i = .ok (some device) → ∃ n,
    (ofDevice i (control.changes operation h turns)).filterMap
      (fun change => (operation change.call).sets) =
      List.range' (control.policyRevision device + 1) n
  /-- one audit event is written for each commit -/
  audits : FreshIds h turns → (control.scheduled operation h turns).shared.events.rows =
    h.events.rows ++ (control.changes operation h turns).map fun change => auditRow change.mutation
  /-- no command is accepted twice, by whichever calls it is made -/
  once : (control.changes operation h turns).Pairwise
    fun change change' => operation change.call ≠ operation change'.call
  /-- a repeat of an accepted command changes nothing and is answered as the command was, until a
  later command of its kind is accepted; from then on it is refused -/
  repeats : ∀ pre change post, control.changes operation h turns = pre ++ change :: post →
    control.authorize (control.scheduled operation h turns).shared.tables (operation change.call) =
        .ok () ∧
      ∀ c draws, operation c = operation change.call →
        (control.scheduled operation h turns).phase c = .authorized →
        let s := control.scheduled operation h (turns ++ [⟨c, draws⟩]);
        s.shared = (control.scheduled operation h turns).shared ∧
        (¬ Superseded operation change post → Agrees (operation change.call) →
          s.phase c = .following (again draws change.answer).1 (again draws change.answer).2) ∧
        (Superseded operation change post →
          s.phase c = .answered (.error (operation change.call).conflict))

/-- **Manifests and policies form one linear history**, whatever calls are made and in whatever
order their steps are taken. -/
theorem linear_history (control : DeviceControl) (operation : Nat → control.Operation) (h : Hub)
    (turns : List (Turn ControlDraws)) : LinearHistory control operation h turns := by
  have hpath := changes_path control operation h turns
  have hnext : ∀ c draws, control.scheduled operation h (turns ++ [⟨c, draws⟩]) =
      control.turn operation (control.scheduled operation h turns) ⟨c, draws⟩ :=
    fun c draws => run_concat _ _ _ _
  refine ⟨hpath, ?_, ?_, ?_, fun hfresh => (audits_once hfresh).rows, path_once hpath, ?_⟩
  · intro c mutation answer draws hplanned hmoved
    have hsound := scheduled_sound control operation h turns c
    rw [hplanned] at hsound
    obtain ⟨-, ⟨device, hcomputed⟩, found, hfound⟩ := hsound
    -- the row moved on after the plan was made: the commit is refused
    obtain ⟨e, hrefused, hconflict⟩ := commit_stale hcomputed hfound fun heq => hmoved (heq ▸ hfound)
    rw [hnext]
    refine ⟨?_, e, ?_, hconflict⟩
    · rw [Pool.step_shared, hplanned]
      simp only [act, hrefused]
    · refine Pool.step_phase_self.trans ?_
      rw [hplanned]
      simp only [act, hrefused]
  · intro i
    obtain ⟨hpairwise, hbounds⟩ := declared_increasing (device_path hpath i)
    refine ⟨hpairwise, ?_⟩
    intro device hdevice r hr
    have hle := (hbounds r hr).2
    rwa [hdevice] at hle
  · intro i device hdevice
    have hrange := (policies_consecutive (device_path hpath i)).1
    rw [hdevice] at hrange
    exact ⟨_, hrange⟩
  -- a repeat finds its change in the log: unchanged while nothing of its kind followed, refused
  -- once something did
  · intro pre change post hsplit
    rw [hsplit] at hpath
    obtain ⟨device, later, hcomputed, hsame, hauthorized, hlater, hholds, houtgrown⟩ :=
      changed_later hpath
    refine ⟨hauthorized, ?_⟩
    intro c draws hop hphase
    have hid : (operation change.call).deviceRef.deviceInstanceId =
        change.mutation.device.deviceId := by
      obtain ⟨draws, hrevises⟩ := hcomputed
      exact hrevises.deviceId.symm
    rw [hnext]
    refine ⟨?_, ?_, ?_⟩
    · rw [Pool.step_shared, hphase]
      exact act_authorized
    · intro hnot hagrees
      refine Pool.step_phase_self.trans ?_
      rw [hphase]
      simp only [act, hop, hid, hlater, plan_again hcomputed hsame (hholds hnot) hagrees]
    · intro hsuperseded
      refine Pool.step_phase_self.trans ?_
      rw [hphase]
      simp only [act, hop, hid, hlater, plan_outgrown hcomputed hsame (houtgrown hsuperseded)]

end DeviceControl

/-! ### Two updates, and the first one again -/

namespace Sample

open DeviceControl

/-- The Owner allows the outputs, forbids them, and sends the first command once more. -/
def updates : Nat → control.Operation
  | 1 => setPolicy "k" 1 1 false
  | _ => setPolicy "k" 1 0 true

/-- The four steps of a call, with nothing between them. -/
def steps (c : Nat) (eventId : EventId) : List (Turn ControlDraws) :=
  List.replicate 4 ⟨c, draws eventId⟩

/-- The Hub once the lamp is claimed. -/
def claimed : Hub := hubAfter (Sample.handoff "e" "k" ++ [Sample.ack "e" 1])

/-- The calls of the example, one after the other. -/
def schedule : List (Turn ControlDraws) := steps 0 "first" ++ steps 1 "second" ++ steps 2 "again"

/-- The policy a call is answered with, or the error it ends with. -/
def result (c : Nat) : Option (Except ControlError control.Policy) :=
  match (control.scheduled updates claimed schedule).phase c with
  | .answered (.ok (.policy policy)) => some (.ok policy)
  | .answered (.error e) => some (.error e)
  | _ => none

theorem phase_of_result {c : Nat} {r : Except ControlError control.Policy} (h : result c = some r) :
    (control.scheduled updates claimed schedule).phase c = .answered (r.map .policy) := by
  unfold result at h
  split at h <;> cases h <;> assumption

end Sample

/-- An accepted update is not always answered as it was: once the next update is accepted, its
repeat is a conflict. -/
theorem repeat_is_refused : ¬ ∀ (control : DeviceControl) (operation : Nat → control.Operation)
    (h : Hub) (turns : List (Turn DeviceControl.ControlDraws)) (c c' : Nat)
    (answer : control.Answer) (result : Except ControlError control.Answer),
    operation c' = operation c → c ∈ (control.changes operation h turns).map (·.call) →
    (control.scheduled operation h turns).phase c = .answered (.ok answer) →
    (control.scheduled operation h turns).phase c' = .answered result → result = .ok answer := by
  intro hclaim
  have haccepted : Sample.result 0 = some (.ok ⟨1, true, none⟩) := by decide +kernel
  have hrefused : Sample.result 2 = some (.error (.outputPolicy "output policy revision changed")) := by
    decide +kernel
  have hcommitted : (Sample.control.changes Sample.updates Sample.claimed Sample.schedule).map (·.call) =
      [0, 1] := by decide +kernel
  have hsame := hclaim Sample.control Sample.updates Sample.claimed Sample.schedule 0 2 _ _ rfl
    (by rw [hcommitted]; simp) (Sample.phase_of_result haccepted) (Sample.phase_of_result hrefused)
  cases hsame

end EidolonHub.Devices
