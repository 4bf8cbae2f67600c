import EidolonHub.Channels.Refusals

/-!
# EidolonHub.Channels.SharedSelection

**Opening a shared session.** The selected devices are authorized one after the other and their
specifications made of the rows that were read; then the Channel of each device is reconciled from
its row as it is by that time, and last the Provider is asked to open the session with the
specifications. Rows change between any two of these steps, and the cache of refusals with the
other calls.

Nothing is asked of the Provider before the last device is authorized. The specifications are
those that the Channels were reconciled for as long as no selected device has its owner, Manifest
or policy changed in between.
-/

namespace EidolonHub.Channels

open EidolonHub.Admission EidolonHub.Devices EidolonHub.Library EidolonHub.Library.Python

variable {crypto : Crypto} {presentation : Presentation}

/-! ### A call of `open` -/

/-- `SharedSessionSelection`. -/
structure Selection where
  sessionId : String
  devices : List DeviceRef

/-- An entry of `specifications`, with the fields of `channel_device_payload`. -/
structure Specification (presentation : Presentation) where
  deviceRef : DeviceRef
  ownerId : BusinessOwnerId
  displayName : String
  deviceKind : String
  manifest : Json
  manifestRevision : String
  outputPolicy : Option presentation.Policy

/-- What `execute` specifies of a device, unless it raises. -/
def specification (device : ManagedDevice crypto presentation) : Option (Specification presentation) :=
  ((crypto.jsonLoads device.manifest.canonicalJson).filter (·.isObject)).map fun manifest =>
    { deviceRef := device.deviceRef
      ownerId := device.ownerId
      displayName := device.displayName
      deviceKind := device.manifestId
      manifest
      manifestRevision := device.manifest.digest
      outputPolicy := device.outputPolicy }

/-- The answer to `open_shared_session`. -/
structure SharedReady where
  sessionId : String
  deviceIds : List DeviceInstanceId
  deriving DecidableEq

/-- The scope that opens shared sessions. -/
def sharedSessionScope : String := "device.shared-session.control"

/-- How a call ends. -/
inductive Outcome where
  | opened (response : SharedReady)
  /-- a `PermissionError`, or the scope is missing -/
  | outside
  /-- a `ValueError` -/
  | manifest
  | notReady
  | raised (raised : Raised)
  deriving DecidableEq

/-- What a call waits for; `rest` are the devices that are left in its loop. -/
inductive Stage (presentation : Presentation) where
  | authorizing (rest : List DeviceRef)
  | reconciling (rest : List DeviceRef)
  | asking (asking : Asking presentation) (rest : List DeviceRef)
  | operating (asking : Asking presentation) (id : OperationId) (rest : List DeviceRef)
  | opening
  | finished (outcome : Outcome)

/-- What the Provider is asked by a call. -/
inductive Asked (presentation : Presentation) where
  | current (deviceRef : DeviceRef)
  | operation (operation : Operation) (id : OperationId) (values : Values presentation)
  | openSession (ownerId : BusinessOwnerId) (specifications : List (Specification presentation))

/-- The rows, the cache of refusals, and the call. -/
structure Opening (crypto : Crypto) (presentation : Presentation) where
  row : DeviceInstanceId → Option (ManagedDevice crypto presentation)
  refusals : Refusals := []
  stage : Stage presentation
  authorized : List (ManagedDevice crypto presentation) := []
  specifications : List (Specification presentation) := []
  /-- What the Channels were reconciled for. -/
  reconciled : List (Values presentation) := []
  asked : List (Asked presentation) := []

/-- A step of a call that opens a session, or a change beside it. -/
inductive OpenRequest (crypto : Crypto) (presentation : Presentation) where
  /-- A row changes, by whatever operation. -/
  | change (id : DeviceInstanceId) (device : Option (ManagedDevice crypto presentation))
  /-- Another call changes the cache. -/
  | remember (refusals : Refusals)
  /-- The row that the call waits for is read. -/
  | read (nowMs : Millis)
  | held (reply : Reply (CurrentResponse presentation))
  | operated (reply : Reply (ProvisionResponse presentation))
  | ready (reply : Reply SharedReady)

namespace Opening

variable (wire : Wire presentation) (selection : Selection) (context : ActorContext)
  (o : Opening crypto presentation)

/-- The call ends. -/
def finish (outcome : Outcome) : Opening crypto presentation := { o with stage := .finished outcome }

/-- The loop over the Channels goes on, or the session is opened. -/
def reconcileNext : List DeviceRef → Opening crypto presentation
  | [] =>
    { o with
      stage := .opening
      asked := o.asked ++ [.openSession context.businessOwnerId o.specifications] }
  | ref :: rest => { o with stage := .reconciling (ref :: rest) }

/-- The loop over the devices goes on, or their specifications are made. -/
def authorizeNext : List DeviceRef → Opening crypto presentation
  | [] =>
    match o.authorized.mapM specification with
    | none => o.finish .manifest
    | some specifications => { o with specifications }.reconcileNext context selection.devices
  | ref :: rest => { o with stage := .authorizing (ref :: rest) }

/-- `open`, up to where it first waits. -/
def start (row : DeviceInstanceId → Option (ManagedDevice crypto presentation)) (refusals : Refusals) :
    Opening crypto presentation :=
  let o : Opening crypto presentation := { row, refusals, stage := .finished .outside }
  match context.requireScope sharedSessionScope with
  | .error _ => o
  | .ok _ => o.authorizeNext selection context selection.devices

/-- The device is within the caller's lifecycle. -/
def Within (ref : DeviceRef) (device : ManagedDevice crypto presentation) : Prop :=
  device.ownerId = context.businessOwnerId ∧ device.ownerDomainId = context.ownerDomainId ∧
    device.lifecycleState = .approved ∧ device.deviceRef = ref

instance (ref : DeviceRef) (device : ManagedDevice crypto presentation) : Decidable (Within context ref device) :=
  inferInstanceAs (Decidable (_ ∧ _ ∧ _ ∧ _))

/-- A Channel is there for what was asked with. -/
def channelReady (values : Values presentation) (rest : List DeviceRef) : Opening crypto presentation :=
  { o with reconciled := o.reconciled ++ [values] }.reconcileNext context rest

/-- `resolve` has a problem, and no Channel. -/
def channelRefused (inputs : Inputs presentation) (raised : Raised) : Opening crypto presentation :=
  { o with
    refusals := Calls.remember wire o.refusals (.answered inputs (.ofProblem raised.problem))
    stage := .finished .notReady }

/-- The row of a selected device is read for the authorization. -/
def authorize (ref : DeviceRef) (rest : List DeviceRef) : Opening crypto presentation :=
  match (o.row ref.deviceInstanceId).filter fun device => Within context ref device with
  | none => o.finish .outside
  | some device => { o with authorized := o.authorized ++ [device] }.authorizeNext selection context rest

/-- The row of a selected device is read by `resolve`. -/
def beginChannel (nowMs : Millis) (ref : DeviceRef) (rest : List DeviceRef) : Opening crypto presentation :=
  match prepare wire ref "" nowMs (o.row ref.deviceInstanceId) with
  | .error _ => o.finish .notReady
  | .ok asking =>
    match Calls.remembered wire { refusals := o.refusals } asking.inputs with
    | some _ => o.finish .notReady
    | none =>
      { o with
        refusals := o.refusals.pop ref.deviceInstanceId
        stage := .asking asking rest
        asked := o.asked ++ [.current ref] }

/-- One step of the rows, the other calls, or the call. -/
def next (request : OpenRequest crypto presentation) : Opening crypto presentation :=
  match request, o.stage with
  | .change id device, _ => { o with row := Function.update o.row id device }
  | .remember refusals, _ => { o with refusals }
  | .read _, .authorizing (ref :: rest) => o.authorize selection context ref rest
  | .read nowMs, .reconciling (ref :: rest) => o.beginChannel wire nowMs ref rest
  | .held reply, .asking asking rest =>
    match current asking.inputs.deviceRef reply with
    | .error raised => o.channelRefused wire asking.inputs raised
    | .ok binding =>
      match asking.decide wire binding with
      | .serve _ => o.channelReady context asking.values rest
      | .operate operation id =>
        { o with
          stage := .operating asking id rest
          asked := o.asked ++ [.operation operation id asking.values] }
  | .operated reply, .operating asking id rest =>
    match asking.operated id reply with
    | .error raised => o.channelRefused wire asking.inputs raised
    | .ok _ => o.channelReady context asking.values rest
  | .ready reply, .opening =>
    match post "invalid shared admission response" reply with
    | .error raised => o.finish (.raised raised)
    | .ok response =>
      if response.sessionId = selection.sessionId ∧
          response.deviceIds = selection.devices.map (·.deviceInstanceId) then o.finish (.opened response)
      else o.finish (.raised (.provider (invalidResponse false "invalid shared admission response")))
  | _, _ => o

end Opening

/-! ### What changes in between -/

/-- Owner, Manifest and output policy. -/
def authority (device : ManagedDevice crypto presentation) :
    BusinessOwnerId × String × String × Option presentation.Policy :=
  (device.ownerId, device.manifest.canonicalJson, device.manifest.digest, device.outputPolicy)

/-- The specification of a device and what its Channel was reconciled for. -/
def SameAuthority (specification : Specification presentation) (values : Values presentation) : Prop :=
  specification.deviceRef = values.deviceRef ∧ specification.ownerId = values.ownerId ∧
    specification.manifest = values.manifest ∧ specification.manifestRevision = values.manifestRevision ∧
    specification.outputPolicy = values.outputPolicy

/-- The devices that are authorized, and whose rows are yet to be read for their Channels. -/
def Opening.pending (o : Opening crypto presentation) : List (ManagedDevice crypto presentation) :=
  match o.stage with
  | .authorizing _ => o.authorized
  | .reconciling _ => o.authorized.drop o.reconciled.length
  | .asking _ _ => o.authorized.drop (o.reconciled.length + 1)
  | .operating _ _ _ => o.authorized.drop (o.reconciled.length + 1)
  | _ => []

/-- A change that leaves a device which waits for its Channel approved under its DeviceRef leaves its
owner, its Manifest and its output policy as they were authorized. -/
def Undisturbed (o : Opening crypto presentation) : OpenRequest crypto presentation → Prop
  | .change id device => ∀ authorized ∈ o.pending, authorized.deviceRef.deviceInstanceId = id →
    ∀ row ∈ device, row.deviceRef = authorized.deviceRef → row.lifecycleState = .approved →
      authority row = authority authorized
  | _ => True

/-! ### What is known partway -/

/-- The Channel of a device was reconciled for what it was authorized with. -/
structure Reconciled (device : ManagedDevice crypto presentation) (values : Values presentation) : Prop where
  deviceRef : values.deviceRef = device.deviceRef
  ownerId : values.ownerId = device.ownerId
  manifest : crypto.jsonLoads device.manifest.canonicalJson = some values.manifest
  manifestRevision : values.manifestRevision = device.manifest.digest
  outputPolicy : values.outputPolicy = device.outputPolicy

/-- The row of a device, while it serves this selection, has what was authorized. -/
def Fresh (o : Opening crypto presentation) (device : ManagedDevice crypto presentation) : Prop :=
  ∀ row ∈ o.row device.deviceRef.deviceInstanceId, row.deviceRef = device.deviceRef →
    row.lifecycleState = .approved → authority row = authority device

/-- The rows of so many devices are read for their Channels, and the rest is left. -/
structure Partway (o : Opening crypto presentation) (count : Nat) (rest : List DeviceRef) : Prop where
  specified : o.authorized.mapM specification = some o.specifications
  reconciled : List.Forall₂ Reconciled (o.authorized.take o.reconciled.length) o.reconciled
  rest : (o.authorized.drop count).map (·.deviceRef) = rest
  fresh : ∀ device ∈ o.authorized.drop count, Fresh o device
  closed : ∀ ownerId specifications, .openSession ownerId specifications ∉ o.asked

/-- The next Channel is being reconciled for these values. -/
def Underway (o : Opening crypto presentation) (values : Values presentation) (rest : List DeviceRef) : Prop :=
  Partway o (o.reconciled.length + 1) rest ∧
    ∃ device, o.authorized[o.reconciled.length]? = some device ∧ Reconciled device values

/-- What is sent is what the Channels were reconciled for. -/
def Current (o : Opening crypto presentation) : Prop :=
  ∀ ownerId specifications, .openSession ownerId specifications ∈ o.asked →
    List.Forall₂ SameAuthority specifications o.reconciled

/-- What every undisturbed run keeps. -/
def Opening.Inv (selection : Selection) (o : Opening crypto presentation) : Prop :=
  match o.stage with
  | .authorizing rest => o.asked = [] ∧ o.reconciled = [] ∧
      o.authorized.map (·.deviceRef) ++ rest = selection.devices ∧ ∀ device ∈ o.authorized, Fresh o device
  | .reconciling rest => Partway o o.reconciled.length rest
  | .asking asking rest => Underway o asking.values rest
  | .operating asking _ rest => Underway o asking.values rest
  | .opening => Current o
  | .finished _ => Current o

section Lemmas

variable {o : Opening crypto presentation} {selection : Selection} {context : ActorContext} {wire : Wire presentation}

theorem sameAuthority_of_reconciled {device : ManagedDevice crypto presentation} {values : Values presentation}
    {specified : Specification presentation} (h : Reconciled device values)
    (hspecified : specification device = some specified) : SameAuthority specified values := by
  obtain ⟨manifest, hmanifest, rfl⟩ := Option.map_eq_some_iff.mp hspecified
  have hloaded := (Option.filter_eq_some_iff.mp hmanifest).1
  rw [h.manifest] at hloaded
  exact ⟨h.deviceRef.symm, h.ownerId.symm, (Option.some.inj hloaded).symm, h.manifestRevision.symm,
    h.outputPolicy.symm⟩

theorem forall₂_of_mapM {devices : List (ManagedDevice crypto presentation)} {values : List (Values presentation)}
    {specifications : List (Specification presentation)} (h : List.Forall₂ Reconciled devices values)
    (hspecified : devices.mapM specification = some specifications) :
    List.Forall₂ SameAuthority specifications values := by
  induction h generalizing specifications with
  | nil =>
    cases hspecified
    exact .nil
  | cons hfirst _ ih =>
    simp only [List.mapM_cons, Option.bind_eq_bind, Option.bind_eq_some_iff] at hspecified
    obtain ⟨first, hspecifies, others, hothers, heq⟩ := hspecified
    cases heq
    exact .cons (sameAuthority_of_reconciled hfirst hspecifies) (ih hothers)

theorem current_of_closed (h : ∀ ownerId specifications, .openSession ownerId specifications ∉ o.asked)
    (outcome : Outcome) : Opening.Inv selection (o.finish outcome) :=
  fun ownerId specifications hmem => absurd hmem (h ownerId specifications)

/-- The loop over the Channels: either it goes on, or all of them are reconciled. -/
theorem Partway.next {rest : List DeviceRef} (h : Partway o o.reconciled.length rest) :
    Opening.Inv selection (o.reconcileNext context rest) := by
  cases rest with
  | cons ref rest =>
    show Partway { o with stage := .reconciling (ref :: rest) } _ _
    exact ⟨h.specified, h.reconciled, h.rest, h.fresh, h.closed⟩
  | nil =>
    have hlength : o.authorized.length ≤ o.reconciled.length := by
      simpa using h.rest
    have hall := h.reconciled
    rw [List.take_of_length_le hlength] at hall
    intro ownerId specifications hmem
    rcases List.mem_append.mp hmem with hmem | hmem
    · exact absurd hmem (h.closed ownerId specifications)
    · cases List.mem_singleton.mp hmem
      exact forall₂_of_mapM hall h.specified

/-- A Channel is there. -/
theorem Underway.ready {values : Values presentation} {rest : List DeviceRef} (h : Underway o values rest) :
    Opening.Inv selection (o.channelReady context values rest) := by
  obtain ⟨hpartway, device, hdevice, hreconciled⟩ := h
  refine Partway.next ⟨hpartway.specified, ?_, ?_, ?_, hpartway.closed⟩
  · rw [List.length_append, List.length_singleton, List.take_add_one, hdevice]
    exact List.rel_append hpartway.reconciled (.cons hreconciled .nil)
  · rw [List.length_append]
    exact hpartway.rest
  · rw [List.length_append]
    exact hpartway.fresh

theorem Underway.refused {values : Values presentation} {rest : List DeviceRef} (h : Underway o values rest)
    (inputs : Inputs presentation) (raised : Raised) :
    Opening.Inv selection (o.channelRefused wire inputs raised) :=
  fun ownerId specifications hmem => absurd hmem (h.1.closed ownerId specifications)

/-- The loop over the devices: it goes on, or they are specified. -/
theorem authorizeNext_inv {rest : List DeviceRef} (hasked : o.asked = []) (hreconciled : o.reconciled = [])
    (hdevices : o.authorized.map (·.deviceRef) ++ rest = selection.devices)
    (hfresh : ∀ device ∈ o.authorized, Fresh o device) :
    Opening.Inv selection (o.authorizeNext selection context rest) := by
  cases rest with
  | cons ref rest => exact ⟨hasked, hreconciled, hdevices, hfresh⟩
  | nil =>
    have hclosed : ∀ ownerId specifications, .openSession ownerId specifications ∉ o.asked := by simp [hasked]
    rw [Opening.authorizeNext]
    cases hspecified : o.authorized.mapM specification with
    | none => exact current_of_closed hclosed _
    | some specifications =>
      refine Partway.next ⟨hspecified, ?_, ?_, ?_, hclosed⟩
      · simp [hreconciled]
      · simpa [hreconciled] using hdevices
      · exact fun device hmem => hfresh device (List.mem_of_mem_drop hmem)

/-- The row of a device is read for its authorization. -/
theorem authorize_inv {ref : DeviceRef} {rest : List DeviceRef}
    (h : o.asked = [] ∧ o.reconciled = [] ∧ o.authorized.map (·.deviceRef) ++ ref :: rest = selection.devices ∧
      ∀ device ∈ o.authorized, Fresh o device) :
    Opening.Inv selection (o.authorize selection context ref rest) := by
  obtain ⟨hasked, hreconciled, hdevices, hfresh⟩ := h
  unfold Opening.authorize
  split
  · exact current_of_closed (by simp [hasked]) _
  · next device hdevice =>
    obtain ⟨hrow, hwithin⟩ := Option.filter_eq_some_iff.mp hdevice
    have href : device.deviceRef = ref := (of_decide_eq_true hwithin).2.2.2
    refine authorizeNext_inv hasked hreconciled ?_ ?_
    · simpa [href] using hdevices
    · intro authorized hmem
      rcases List.mem_append.mp hmem with hmem | hmem
      · exact hfresh authorized hmem
      · obtain rfl := List.mem_singleton.mp hmem
        intro row hrow' _ _
        rw [href] at hrow'
        rw [Option.some.inj (Option.mem_def.mp hrow' |>.symm.trans hrow)]

/-- The row of a device is read for its Channel. -/
theorem beginChannel_inv {nowMs : Millis} {ref : DeviceRef} {rest : List DeviceRef}
    (h : Partway o o.reconciled.length (ref :: rest)) :
    Opening.Inv selection (o.beginChannel wire nowMs ref rest) := by
  obtain ⟨device, hdevice, href, hrest⟩ : ∃ device, o.authorized[o.reconciled.length]? = some device ∧
      device.deviceRef = ref ∧ (o.authorized.drop (o.reconciled.length + 1)).map (·.deviceRef) = rest := by
    have hmap := h.rest
    cases hdrop : o.authorized.drop o.reconciled.length with
    | nil => simp [hdrop] at hmap
    | cons device others =>
      rw [hdrop, List.map_cons, List.cons.injEq] at hmap
      refine ⟨device, ?_, hmap.1, ?_⟩
      · rw [← List.head?_drop, hdrop, List.head?_cons]
      · rw [← List.tail_drop, hdrop, List.tail_cons, hmap.2]
  unfold Opening.beginChannel
  split
  · exact current_of_closed h.closed _
  · next asking hprepare =>
    split
    · exact current_of_closed h.closed _
    · obtain ⟨row, hrow, hrowRef, happroved, -, hvaluesRef, howner, hrevision, hmanifest, hpolicy, -⟩ :=
        prepare_ok hprepare
      have hmem : device ∈ o.authorized.drop o.reconciled.length :=
        List.mem_of_getElem? (by rw [List.getElem?_drop, Nat.add_zero, hdevice])
      have hsame := h.fresh device hmem row (by rw [href]; exact hrow) (hrowRef.trans href.symm) happroved
      simp only [authority, Prod.mk.injEq] at hsame
      refine ⟨⟨h.specified, h.reconciled, hrest, fun d hd => ?_, ?_⟩, device, hdevice, ?_⟩
      · refine h.fresh d ?_
        rw [← List.tail_drop] at hd
        exact List.mem_of_mem_tail hd
      · intro ownerId specifications hasked
        rcases List.mem_append.mp hasked with hasked | hasked
        · exact h.closed ownerId specifications hasked
        · cases List.mem_singleton.mp hasked
      · exact ⟨hvaluesRef.trans href.symm, howner.trans hsame.1, hsame.2.1 ▸ hmanifest,
          hrevision.trans hsame.2.2.1, hpolicy.trans hsame.2.2.2⟩

/-- The rows and the cache may change around a call, as far as it keeps what it has authorized. -/
theorem Opening.Inv.around {row : DeviceInstanceId → Option (ManagedDevice crypto presentation)}
    {refusals : Refusals} (h : o.Inv selection)
    (hfresh : ∀ d ∈ o.pending, Fresh o d → Fresh { o with row, refusals } d) :
    Opening.Inv selection { o with row, refusals } := by
  unfold Opening.Inv Opening.pending at *
  cases hstage : o.stage with
  | authorizing rest =>
    simp only [hstage] at h hfresh ⊢
    exact ⟨h.1, h.2.1, h.2.2.1, fun d hd => hfresh d hd (h.2.2.2 d hd)⟩
  | reconciling rest =>
    simp only [hstage] at h hfresh ⊢
    exact ⟨h.specified, h.reconciled, h.rest, fun d hd => hfresh d hd (h.fresh d hd), h.closed⟩
  | asking asking rest =>
    simp only [hstage] at h hfresh ⊢
    exact ⟨⟨h.1.specified, h.1.reconciled, h.1.rest, fun d hd => hfresh d hd (h.1.fresh d hd), h.1.closed⟩, h.2⟩
  | operating asking id rest =>
    simp only [hstage] at h hfresh ⊢
    exact ⟨⟨h.1.specified, h.1.reconciled, h.1.rest, fun d hd => hfresh d hd (h.1.fresh d hd), h.1.closed⟩, h.2⟩
  | opening =>
    simp only [hstage] at h ⊢
    exact h
  | finished outcome =>
    simp only [hstage] at h ⊢
    exact h

theorem Opening.Inv.change {id : DeviceInstanceId} {device : Option (ManagedDevice crypto presentation)}
    (h : o.Inv selection) (hundisturbed : Undisturbed o (.change id device)) :
    Opening.Inv selection { o with row := Function.update o.row id device } := by
  refine h.around fun d hd hfresh row hrow href happroved => ?_
  dsimp only at hrow
  by_cases hid : d.deviceRef.deviceInstanceId = id
  · subst hid
    rw [Function.update_self] at hrow
    exact hundisturbed d hd rfl row hrow href happroved
  · rw [Function.update_of_ne hid] at hrow
    exact hfresh row hrow href happroved

theorem Opening.Inv.next (h : o.Inv selection) {request : OpenRequest crypto presentation}
    (hundisturbed : Undisturbed o request) : (o.next wire selection context request).Inv selection := by
  unfold Opening.next
  split
  · exact h.change hundisturbed
  · exact h.around fun _ _ hfresh => hfresh
  · next hstage =>
    unfold Opening.Inv at h
    rw [hstage] at h
    exact authorize_inv h
  · next hstage =>
    unfold Opening.Inv at h
    rw [hstage] at h
    exact beginChannel_inv h
  -- asking the Provider to open a session is the one step that adds to what was asked
  · next asking rest hstage =>
    unfold Opening.Inv at h
    rw [hstage] at h
    split
    · exact Underway.refused h _ _
    · split
      · exact Underway.ready h
      · refine ⟨⟨h.1.specified, h.1.reconciled, h.1.rest, h.1.fresh, fun ownerId specifications hasked => ?_⟩, h.2⟩
        rcases List.mem_append.mp hasked with hasked | hasked
        · exact h.1.closed ownerId specifications hasked
        · cases List.mem_singleton.mp hasked
  · next asking id rest hstage =>
    unfold Opening.Inv at h
    rw [hstage] at h
    split
    · exact Underway.refused h _ _
    · exact Underway.ready h
  · next hstage =>
    unfold Opening.Inv at h
    rw [hstage] at h
    split
    · exact h
    · split <;> exact h
  · exact h

/-- A session that is asked for is current. -/
theorem Opening.Inv.current (h : o.Inv selection) : Current o := by
  intro ownerId specifications hasked
  unfold Opening.Inv at h
  split at h
  · exact absurd hasked (by simp [h.1])
  · exact absurd hasked (h.closed ownerId specifications)
  · exact absurd hasked (h.1.closed ownerId specifications)
  · exact absurd hasked (h.1.closed ownerId specifications)
  · exact h ownerId specifications hasked
  · exact h ownerId specifications hasked

theorem start_inv (row : DeviceInstanceId → Option (ManagedDevice crypto presentation)) (refusals : Refusals) :
    (Opening.start selection context row refusals).Inv selection := by
  unfold Opening.start
  dsimp only
  split
  · exact fun _ _ hasked => absurd hasked List.not_mem_nil
  · exact authorizeNext_inv rfl rfl rfl (by simp)

/-! ### Before the last device is authorized -/

/-- Nothing has been asked of the Provider. -/
def Opening.Quiet (o : Opening crypto presentation) : Prop :=
  ∀ rest, o.stage = .authorizing rest → o.asked = []

theorem reconcileNext_quiet (rest : List DeviceRef) : (o.reconcileNext context rest).Quiet := by
  cases rest <;> exact fun _ hstage => (nomatch hstage)

theorem authorizeNext_quiet (h : o.asked = []) (rest : List DeviceRef) :
    (o.authorizeNext selection context rest).Quiet := by
  cases rest with
  | cons ref rest => exact fun _ _ => h
  | nil =>
    rw [Opening.authorizeNext]
    split
    · exact fun _ _ => h
    · exact reconcileNext_quiet _

theorem Opening.Quiet.next (h : o.Quiet) (request : OpenRequest crypto presentation) :
    (o.next wire selection context request).Quiet := by
  unfold Opening.next
  split
  · exact h
  · exact h
  · next hstage =>
    unfold Opening.authorize
    split
    · exact fun _ _ => h _ hstage
    · next device _ =>
      have hasked : ({ o with authorized := o.authorized ++ [device] } : Opening crypto presentation).asked = [] :=
        h _ hstage
      exact authorizeNext_quiet hasked _
  · unfold Opening.beginChannel
    split
    · exact fun _ hstage => (nomatch hstage)
    · split <;> exact fun _ hstage => (nomatch hstage)
  · split
    · exact fun _ hstage => (nomatch hstage)
    · split
      · exact reconcileNext_quiet _
      · exact fun _ hstage => (nomatch hstage)
  · split
    · exact fun _ hstage => (nomatch hstage)
    · exact reconcileNext_quiet _
  · split
    · exact fun _ hstage => (nomatch hstage)
    · split <;> exact fun _ hstage => (nomatch hstage)
  · exact h

theorem start_quiet (row : DeviceInstanceId → Option (ManagedDevice crypto presentation)) (refusals : Refusals) :
    (Opening.start selection context row refusals).Quiet := by
  unfold Opening.start
  dsimp only
  split
  · exact fun _ hstage => (nomatch hstage)
  · exact authorizeNext_quiet rfl _

/-- A call that has ended asks nothing more. -/
theorem run_finished {outcome : Outcome} (h : o.stage = .finished outcome)
    (requests : List (OpenRequest crypto presentation)) :
    (run (Opening.next wire selection context) o requests).asked = o.asked := by
  induction requests generalizing o with
  | nil => rfl
  | cons request requests ih =>
    have hnext : (o.next wire selection context request).stage = .finished outcome ∧
        (o.next wire selection context request).asked = o.asked := by
      unfold Opening.next
      cases request <;> simp [h]
    rw [run_cons, ih hnext.1, hnext.2]

end Lemmas

/-- **A shared session is opened with current authority.** Where a device is found outside the
caller's lifecycle, the Provider is not asked anything by the call; where the Provider is asked to
open the session, in a run that leaves alone what was authorized until it is used, each device is
specified as its Channel was reconciled. -/
theorem shared_session_authority (wire : Wire presentation) (selection : Selection) (context : ActorContext)
    (row : DeviceInstanceId → Option (ManagedDevice crypto presentation)) (refusals : Refusals) :
    (∀ before nowMs after ref rest,
      (run (Opening.next wire selection context)
        (Opening.start selection context row refusals) before).stage = .authorizing (ref :: rest) →
      (∀ device ∈ (run (Opening.next wire selection context)
        (Opening.start selection context row refusals) before).row ref.deviceInstanceId,
          ¬Opening.Within context ref device) →
      (run (Opening.next wire selection context)
        (Opening.start selection context row refusals) (before ++ .read nowMs :: after)).asked = []) ∧
    ∀ requests, Along (Opening.next wire selection context) Undisturbed
        (Opening.start selection context row refusals) requests →
      ∀ ownerId specifications,
        .openSession ownerId specifications ∈ (run (Opening.next wire selection context)
          (Opening.start selection context row refusals) requests).asked →
        List.Forall₂ SameAuthority specifications (run (Opening.next wire selection context)
          (Opening.start selection context row refusals) requests).reconciled := by
  constructor
  -- nothing was asked so far, and the read that finds the device outside ends the opening
  · intro before nowMs after ref rest hstage houtside
    have hquiet : Opening.Quiet (run (Opening.next wire selection context)
        (Opening.start selection context row refusals) before) :=
      run_inv (I := Opening.Quiet) (fun _ request h => h.next request) (start_quiet row refusals) before
    rw [run_append, run_cons]
    set o := run (Opening.next wire selection context) (Opening.start selection context row refusals) before
    have hnone : (o.row ref.deviceInstanceId).filter (fun device => Opening.Within context ref device) = none := by
      rw [Option.filter_eq_none_iff]
      simpa using houtside
    have hnext : o.next wire selection context (.read nowMs) = o.finish .outside := by
      unfold Opening.next
      rw [hstage]
      simp only [Opening.authorize, hnone]
    rw [hnext, run_finished rfl]
    exact hquiet _ hstage
  -- undisturbed, every device is still what it was when it was authorized
  · intro requests hundisturbed ownerId specifications hasked
    have hinv : Opening.Inv selection (run (Opening.next wire selection context)
        (Opening.start selection context row refusals) requests) :=
      run_inv_along (I := Opening.Inv selection) (fun _ _ h hundisturbed => h.next hundisturbed)
        (start_inv row refusals) hundisturbed
    exact hinv.current ownerId specifications hasked

/-! ### A policy that is narrowed in between -/

namespace Sample

/-- A Controller that opens sessions. -/
def sharer : ActorContext where
  actor := ⟨"phone", "home", [sharedSessionScope], "software"⟩
  ownerDomainId := "home"
  businessOwnerId := "alice"
  actor_ownerDomainId := rfl

/-- A session with one lamp. -/
def selection : Selection := ⟨"session", [(lamp none).deviceRef]⟩

/-- The lamp is authorized, then its Owner narrows its policy, and its Channel is begun. -/
def narrowed : List (OpenRequest Admission.Sample.crypto Devices.Sample.presentation) :=
  [.read 0, .change "device-k" (some (lamp (some closed))), .read 0, .held (.answered (some ⟨none, false⟩)),
    .operated (begun (some closed))]

end Sample

/-- The session is asked for with the policy that was wider. -/
theorem session_with_the_wider_policy : ¬∀ (requests : List (OpenRequest Admission.Sample.crypto
      Devices.Sample.presentation)) ownerId specifications,
    let o := run (Opening.next Sample.wire Sample.selection Sample.sharer)
      (Opening.start Sample.selection Sample.sharer (fun _ => some (Sample.lamp (some Sample.opened))) []) requests;
    .openSession ownerId specifications ∈ o.asked → List.Forall₂ SameAuthority specifications o.reconciled := by
  intro h
  have hsame := h Sample.narrowed "alice" _ (List.mem_of_getLast? rfl)
  have hpolicy := (List.forall₂_cons.mp hsame).1.2.2.2.2
  exact absurd hpolicy (by decide)

end EidolonHub.Channels
