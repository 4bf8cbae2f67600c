import EidolonHub.SmartHome.Effects
import EidolonHub.SmartHome.Ledger

/-!
# EidolonHub.SmartHome.Runtime

**Owner-scoped device execution**, one step for what is done between two awaits. A call
enters under the Owner's lock, where the ledger tells whether it carries the request out,
waits for the call that does, or is answered from the receipt. The one that carries it out
reads the registry under the same lock and then runs every command as a task of its own, one
at a time per device.

An observation is recorded first and settles what it answers later; the ledger answers at
once and is not a place where others get a turn.
-/

namespace EidolonHub.SmartHome

open EidolonHub.Library

/-- A call of `execute`. -/
abbrev CallId := Nat

/-- A scene of a home. -/
abbrev SceneId := String

/-! ### Requests -/

/-- `Origin`. -/
structure Origin where
  kind : String
  deviceRef : Option String
  deriving DecidableEq

/-- `ExecuteRequest`: commands, or a scene. -/
structure ExecuteRequest where
  requestId : RequestId
  commands : List Command := []
  sceneId : Option SceneId := none
  origin : Origin
  deadlineMs : Millis
  deriving DecidableEq

/-- Touches of different panels do not share their requests. -/
def ExecuteRequest.scope (request : ExecuteRequest) : Scope :=
  (if request.origin.kind = "touch" then request.origin.deviceRef else none).getD ""

/-- What the fingerprint of a request is made of. -/
def ExecuteRequest.contents (request : ExecuteRequest) : List Command × Option SceneId :=
  (request.commands, request.sceneId)

/-! ### The registry -/

/-- `Device`, with the kind of its Provider as `provider_binding` reads it. -/
structure Device where
  deviceId : DeviceId
  type : String
  providerKind : String
  orphaned : Bool
  deriving DecidableEq

/-- A scene, with the commands it stands for. -/
structure Scene where
  sceneId : SceneId
  actions : List Command
  deriving DecidableEq

/-- `Registry`. -/
structure Registry where
  devices : List Device
  scenes : List Scene
  deriving DecidableEq

/-- The device of this id. -/
def Registry.device (registry : Registry) (deviceId : DeviceId) : Option Device :=
  registry.devices.find? (·.deviceId = deviceId)

/-- The scene of this id. -/
def Registry.scene (registry : Registry) (sceneId : SceneId) : Option Scene :=
  registry.scenes.find? (·.sceneId = sceneId)

/-- What the runtime is built with: the texts and checks of the vocabulary, and the kinds it
has a Provider for. -/
structure Setup where
  dumps : List Command × Option SceneId → String
  validateDeviceCommand : Device → Command → Option SmartHomeError
  validateDeviceState : Device → DeviceState → Option SmartHomeError
  providers : List String

/-- `_fingerprint`. -/
def Setup.fingerprint (setup : Setup) (request : ExecuteRequest) : String :=
  setup.dumps request.contents

/-- How long an unknown outcome waits for an observation that settles it. -/
def reconcileWindowMs : Millis := 10 * 60000

/-! ### Calls and their commands -/

/-- `_failed`, `_unknown` and `_refused`. -/
def failed (command : Command) (code : String) : CommandResult :=
  { deviceId := command.deviceId, status := .failed, code := some code }

/-- An item whose outcome is not known. -/
def unknown (command : Command) (code : Option String) : CommandResult :=
  { deviceId := command.deviceId, status := .unknown, code }

/-- The result of a request that is refused as a whole. -/
def refused (request : ExecuteRequest) (code : String) : ExecuteResult :=
  { requestId := request.requestId, error := some code }

/-- Where one command of a call is. -/
inductive TaskPhase where
  /-- Not started, or waiting for the lock of the device. -/
  | queued
  /-- Its Provider has it. -/
  | executing
  /-- Its outcome is being observed. -/
  | observing (item : CommandResult)
  | done (item : CommandResult)
  deriving DecidableEq

/-- One command of a call, and how far it has come. -/
structure Task where
  command : Command
  phase : TaskPhase := .queued
  deriving DecidableEq

/-- `_Timing`. -/
structure Timing where
  submittedAtMs : Millis
  providerStartedAtMs : Option Millis := none
  providerReturnedAtMs : Option Millis := none
  confirmedAtMs : Option Millis := none
  deriving DecidableEq

/-- How a call ends. -/
inductive CallAnswer where
  | result (result : ExecuteResult)
  /-- `IdempotencyConflict`. -/
  | conflict
  | raised
  deriving DecidableEq

/-- Where a call of `execute` is. -/
inductive CallPhase where
  /-- Waiting for the lock of its Owner. -/
  | entering
  /-- Waiting for the call that carries the request out. -/
  | waiting (leader : CallId)
  /-- Carrying the request out: the future is there. -/
  | carrying
  /-- Waiting for the lock of its Owner, to read the registry. -/
  | admitted (timing : Timing)
  /-- Reading the registry under the lock. -/
  | reading (timing : Timing)
  | running (timing : Timing) (registry : Registry)
  | performed (timing : Timing) (result : ExecuteResult)
  /-- In the ledger, and nobody is told yet. -/
  | recorded (result : ExecuteResult)
  | answered (answer : CallAnswer)
  deriving DecidableEq

/-- A call of `execute`: whose it is, what it asks for, and how far it has come. -/
structure Call where
  ownerId : OwnerId
  request : ExecuteRequest
  phase : CallPhase := .entering
  tasks : List Task := []
  deriving DecidableEq

/-- The key of the receipt of a call. -/
def Call.key (call : Call) : ReceiptKey := ⟨call.ownerId, call.request.scope, call.request.requestId⟩

/-- `_Pending`, with the place of the command it is about. -/
structure Pending where
  scope : Scope
  requestId : RequestId
  command : Command
  before : Option DeviceState
  expiresAtMs : Millis
  call : CallId
  position : Nat
  deriving DecidableEq

/-- The receipt an Owner's pending command is recorded in. -/
def Pending.key (ownerId : OwnerId) (item : Pending) : ReceiptKey := ⟨ownerId, item.scope, item.requestId⟩

/-- The observation is in time and shows the effect of the command. -/
def Pending.settledBy (item : Pending) (state : Option DeviceState) (nowMs : Millis) : Bool :=
  nowMs < item.expiresAtMs ∧ state.any fun after => satisfied item.command.action item.before after

/-- An observation that is recorded, and has not settled anything yet. -/
structure Observing where
  ownerId : OwnerId
  deviceId : DeviceId
  state : Option DeviceState
  nowMs : Millis
  /-- The command it is the outcome of. -/
  reporter : Option (CallId × Nat)
  /-- The commands that had timed out and whose effect it showed when it arrived. -/
  due : List Pending
  deriving DecidableEq

/-- A command that reached its Provider. -/
structure Execution where
  call : CallId
  position : Nat
  key : ReceiptKey
  command : Command
  deriving DecidableEq

/-! ### The runtime -/

/-- All Owners' state. The last four say what happened and decide nothing. -/
structure Runtime where
  receipts : List Receipt := []
  calls : CallId → Option Call := fun _ => none
  /-- The holder of an Owner's lock, while the registry is read. -/
  locks : OwnerId → Option CallId := fun _ => none
  inflight : ReceiptKey → Option CallId := fun _ => none
  deviceLocks : OwnerId × DeviceId → Option (CallId × Nat) := fun _ => none
  pending : OwnerId × DeviceId → List Pending := fun _ => []
  observed : OwnerId × DeviceId → Option DeviceState := fun _ => none
  observing : List Observing := []
  /-- What reached a Provider. -/
  executed : List Execution := []
  /-- Every command that was ever pending. -/
  timeouts : OwnerId × DeviceId → List Pending := fun _ => []
  /-- The call whose result a receipt holds. -/
  recordedBy : ReceiptKey → Option CallId := fun _ => none
  /-- The commands whose effect a processed observation had shown in time. -/
  shown : List (CallId × Nat) := []

/-- How a Provider's `execute` ends. -/
inductive Outcome where
  | state (state : DeviceState)
  | delegated (answer : String)
  | refused (code : String)
  /-- The deadline passed first. -/
  | timeout
  | raised
  deriving DecidableEq

namespace Runtime

variable (setup : Setup)

/-- A call comes to another state. -/
def setCall (runtime : Runtime) (id : CallId) (call : Call) : Runtime :=
  { runtime with calls := Function.update runtime.calls id (some call) }

/-- A call comes to another phase. -/
def setPhase (runtime : Runtime) (id : CallId) (call : Call) (phase : CallPhase) : Runtime :=
  runtime.setCall id { call with phase }

/-- One task of a call moves on. -/
def setTask (runtime : Runtime) (id : CallId) (call : Call) (position : Nat) (task : Task)
    (phase : TaskPhase) : Runtime :=
  runtime.setCall id { call with tasks := call.tasks.set position { task with phase } }

/-- `execute` is called; without an Owner it raises at once. -/
def submit (runtime : Runtime) (id : CallId) (ownerId : OwnerId) (request : ExecuteRequest) :
    Runtime :=
  if ownerId = "" then runtime
  else match runtime.calls id with
    | some _ => runtime
    | none => runtime.setCall id { ownerId, request }

/-- Under the Owner's lock, which is free: `begin`, and what it leads to. -/
def enter (runtime : Runtime) (id : CallId) (call : Call) (nowMs : Millis) : Runtime :=
  match SqliteReceiptLedger.begin runtime.receipts call.key (setup.fingerprint call.request) nowMs with
  | (receipts, .error _) => { runtime with receipts }.setPhase id call (.answered .conflict)
  | (receipts, .ok existing) =>
    match existing.bind (·.result) with
    | some result => { runtime with receipts }.setPhase id call (.answered (.result result))
    | none =>
      match existing.bind fun _ => runtime.inflight call.key with
      | some leader => { runtime with receipts }.setPhase id call (.waiting leader)
      | none =>
        -- new, or recorded in flight by a process that died before completing
        { runtime with
          receipts
          inflight := Function.update runtime.inflight call.key (some id) }.setPhase id call .carrying

/-- The first part of `_perform`. -/
def perform (runtime : Runtime) (id : CallId) (call : Call) (submittedAtMs nowMs : Millis) : Runtime :=
  if call.request.deadlineMs ≤ nowMs then
    runtime.setPhase id call (.performed { submittedAtMs } (refused call.request errorDeadlineExceeded))
  else runtime.setPhase id call (.admitted { submittedAtMs })

/-- The Owner's lock is free, and the call takes it. -/
def lock (runtime : Runtime) (id : CallId) (call : Call) (timing : Timing) : Runtime :=
  { runtime with
    locks := Function.update runtime.locks call.ownerId (some id) }.setPhase id call (.reading timing)

/-- The lock of an Owner is free again. -/
def unlock (runtime : Runtime) (ownerId : OwnerId) : Runtime :=
  { runtime with locks := Function.update runtime.locks ownerId none }

/-- The registry is read: one task for each command. -/
def gather (runtime : Runtime) (id : CallId) (call : Call) (timing : Timing) (registry : Registry)
    (nowMs : Millis) : Runtime :=
  let start (commands : List Command) : Runtime :=
    (runtime.unlock call.ownerId).setCall id
      { call with
        phase := .running { timing with providerStartedAtMs := some nowMs } registry
        tasks := commands.map fun command => { command } }
  match call.request.sceneId with
  | none => start call.request.commands
  | some sceneId =>
    match registry.scene sceneId with
    | none => (runtime.unlock call.ownerId).setPhase id call
        (.performed timing (refused call.request errorUnknownScene))
    | some scene => start scene.actions

/-- The registry cannot be read: the call raises, and so do those that wait for it. -/
def raise (runtime : Runtime) (id : CallId) (call : Call) : Runtime :=
  { runtime.unlock call.ownerId with
    inflight := Function.update runtime.inflight call.key none }.setPhase id call (.answered .raised)

/-- `_run`, up to the Provider. -/
def begin (runtime : Runtime) (id : CallId) (call : Call) (registry : Registry) (position : Nat)
    (task : Task) (nowMs : Millis) : Runtime :=
  let done (code : String) : Runtime :=
    runtime.setTask id call position task (.done (failed task.command code))
  -- another Owner's device is simply not in this registry
  match registry.device task.command.deviceId with
  | none => done errorUnknownDevice
  | some device =>
    match setup.validateDeviceCommand device task.command with
    | some e => done e.code
    | none =>
      if device.providerKind ∉ setup.providers ∨ device.orphaned then done errorDeviceOffline
      else match runtime.deviceLocks (call.ownerId, device.deviceId) with
        | some _ => runtime
        | none =>
          if call.request.deadlineMs - nowMs ≤ 0 then done errorDeadlineExceeded
          else
            { runtime with
              deviceLocks := Function.update runtime.deviceLocks (call.ownerId, device.deviceId)
                (some (id, position))
              executed := runtime.executed ++ [Execution.mk id position call.key task.command] }.setTask
                id call position task .executing

/-- `_observed`, up to the end of `put`. -/
def observe (runtime : Runtime) (ownerId : OwnerId) (deviceId : DeviceId)
    (state : Option DeviceState) (nowMs : Millis) (reporter : Option (CallId × Nat)) : Runtime :=
  { runtime with
    observed := Function.update runtime.observed (ownerId, deviceId) state
    observing := runtime.observing ++ [{
      ownerId, deviceId, state, nowMs, reporter
      due := (runtime.timeouts (ownerId, deviceId)).filter (·.settledBy state nowMs) }] }

/-- The outcome of a command whose deadline passed is unknown, and waits for an observation. -/
def pendingOf (runtime : Runtime) (id : CallId) (call : Call) (position : Nat) (task : Task)
    (nowMs : Millis) : Pending where
  scope := call.request.scope
  requestId := call.request.requestId
  command := task.command
  before := runtime.observed (call.ownerId, task.command.deviceId)
  expiresAtMs := nowMs + reconcileWindowMs
  call := id
  position := position

/-- A command that timed out waits for an observation. -/
def addPending (runtime : Runtime) (home : OwnerId × DeviceId) (item : Pending) : Runtime :=
  { runtime with
    pending := Function.update runtime.pending home (runtime.pending home ++ [item])
    timeouts := Function.update runtime.timeouts home (runtime.timeouts home ++ [item]) }

/-- `_run`, from the end of the Provider's `execute`; the lock of the device is given back. -/
def finish (runtime : Runtime) (id : CallId) (call : Call) (registry : Registry) (position : Nat)
    (task : Task) (nowMs : Millis) (outcome : Outcome) : Runtime :=
  let deviceId := task.command.deviceId
  let released : Runtime :=
    { runtime with deviceLocks := Function.update runtime.deviceLocks (call.ownerId, deviceId) none }
  let done (item : CommandResult) : Runtime := released.setTask id call position task (.done item)
  let report (state : Option DeviceState) (item : CommandResult) : Runtime :=
    (released.setTask id call position task (.observing item)).observe call.ownerId deviceId state
      nowMs (some (id, position))
  match outcome with
  | .refused code => done (failed task.command code)
  | .raised => done (unknown task.command none)
  | .timeout =>
    -- the Provider may still act on it: reconcile, never resend
    (done (unknown task.command (some errorDeadlineExceeded))).addPending (call.ownerId, deviceId)
      (runtime.pendingOf id call position task nowMs)
  | .delegated answer =>
    report none { deviceId, status := .delegated
                  platformAnswer := some (String.ofList (answer.toList.take 200)) }
  | .state state =>
    match (registry.device deviceId).bind (setup.validateDeviceState · state) with
    | some e => done (failed task.command e.code)
    | none => report (some state) { deviceId, status := .succeeded, state := some state }

/-- The loop of `_observed`: the receipts, and what is still waiting. -/
def settleWaiting (ownerId : OwnerId) (deviceId : DeviceId) (state : Option DeviceState)
    (nowMs : Millis) : List Receipt → List Pending → List Receipt × List Pending
  | receipts, [] => (receipts, [])
  | receipts, item :: waiting =>
    if item.expiresAtMs ≤ nowMs then settleWaiting ownerId deviceId state nowMs receipts waiting
    else if item.settledBy state nowMs then
      let settled := { deviceId, status := .succeeded, state }
      let reconciled := SqliteReceiptLedger.reconcile receipts (item.key ownerId) deviceId settled nowMs
      settleWaiting ownerId deviceId state nowMs reconciled.1 waiting
    else
      let (receipts, remaining) := settleWaiting ownerId deviceId state nowMs receipts waiting
      (receipts, item :: remaining)

/-- The task whose outcome was observed is done. -/
def report (runtime : Runtime) (id : CallId) (position : Nat) : Runtime :=
  match runtime.calls id with
  | none => runtime
  | some call =>
    match call.tasks[position]? with
    | some task =>
      match task.phase with
      | .observing item => runtime.setTask id call position task (.done item)
      | _ => runtime
    | none => runtime

/-- `_observed`, from the end of `put`. -/
def settle (runtime : Runtime) (k : Nat) (seen : Observing) : Runtime :=
  let home := (seen.ownerId, seen.deviceId)
  let (receipts, remaining) :=
    settleWaiting seen.ownerId seen.deviceId seen.state seen.nowMs runtime.receipts (runtime.pending home)
  let settled : Runtime :=
    { runtime with
      receipts
      pending := Function.update runtime.pending home remaining
      observing := runtime.observing.eraseIdx k
      shown := runtime.shown ++ seen.due.map fun item => (item.call, item.position) }
  match seen.reporter with
  | none => settled
  | some (id, position) => settled.report id position

/-- All tasks are done: `gather` returns, and `_perform` with it. -/
def collect (runtime : Runtime) (id : CallId) (call : Call) (timing : Timing)
    (results : List CommandResult) (nowMs : Millis) : Runtime :=
  let timing := { timing with
    providerReturnedAtMs := some nowMs
    confirmedAtMs := if results.any (·.status = .succeeded) then some nowMs else none }
  runtime.setPhase id call (.performed timing { requestId := call.request.requestId, results })

/-- `complete`: recorded before anyone is told. -/
def record (runtime : Runtime) (id : CallId) (call : Call) (timing : Timing)
    (result : ExecuteResult) (nowMs : Millis) : Runtime :=
  { runtime with
    receipts := SqliteReceiptLedger.complete runtime.receipts call.key result {
      submittedAtMs := timing.submittedAtMs
      providerStartedAtMs := timing.providerStartedAtMs
      providerReturnedAtMs := timing.providerReturnedAtMs
      confirmedAtMs := timing.confirmedAtMs
      completedAtMs := some nowMs }
    recordedBy := Function.update runtime.recordedBy call.key (some id) }.setPhase
      id call (.recorded result)

/-- The future leaves `inflight`, and everyone is told. -/
def answer (runtime : Runtime) (id : CallId) (call : Call) (result : ExecuteResult) : Runtime :=
  { runtime with
    inflight := Function.update runtime.inflight call.key none }.setPhase id call
      (.answered (.result result))

/-- The results of the tasks, once all are done. -/
def results (tasks : List Task) : Option (List CommandResult) :=
  tasks.mapM fun task =>
    match task.phase with
    | .done item => some item
    | _ => none

/-- A step of the runtime: of a call, of one of its commands, or of an observation. -/
inductive Step where
  | submit (id : CallId) (ownerId : OwnerId) (request : ExecuteRequest)
  | enter (id : CallId) (nowMs : Millis)
  | perform (id : CallId) (submittedAtMs nowMs : Millis)
  | lock (id : CallId)
  | gather (id : CallId) (registry : Registry) (nowMs : Millis)
  | raise (id : CallId)
  | begin (id : CallId) (position : Nat) (nowMs : Millis)
  | finish (id : CallId) (position : Nat) (nowMs : Millis) (outcome : Outcome)
  | collect (id : CallId) (nowMs : Millis)
  | record (id : CallId) (nowMs : Millis)
  | answer (id : CallId)
  | wake (id : CallId)
  /-- A poll or a push. -/
  | observe (ownerId : OwnerId) (deviceId : DeviceId) (state : Option DeviceState) (nowMs : Millis)
  | settle (k : Nat)
  | forget (ownerId : OwnerId) (deviceId : DeviceId)

/-- The call that takes the step. -/
def Step.call : Step → Option CallId
  | .enter id _ | .perform id _ _ | .lock id | .gather id _ _ | .raise id | .begin id _ _
  | .finish id _ _ _ | .collect id _ | .record id _ | .answer id | .wake id => some id
  | .submit .. | .observe .. | .settle _ | .forget .. => none

/-- What a step does to its call in the phase the call is in. -/
def turn (runtime : Runtime) (id : CallId) (call : Call) : CallPhase → Step → Runtime
  | .entering, .enter _ nowMs =>
    if runtime.locks call.ownerId = none then enter setup runtime id call nowMs else runtime
  | .carrying, .perform _ submittedAtMs nowMs => runtime.perform id call submittedAtMs nowMs
  | .admitted timing, .lock _ =>
    if runtime.locks call.ownerId = none then runtime.lock id call timing else runtime
  | .reading timing, .gather _ registry nowMs => runtime.gather id call timing registry nowMs
  | .reading _, .raise _ => runtime.raise id call
  | .running _ registry, .begin _ position nowMs =>
    match call.tasks[position]? with
    | some task =>
      if task.phase = .queued then begin setup runtime id call registry position task nowMs else runtime
    | none => runtime
  | .running _ registry, .finish _ position nowMs outcome =>
    match call.tasks[position]? with
    | some task =>
      if task.phase = .executing then
        finish setup runtime id call registry position task nowMs outcome
      else runtime
    | none => runtime
  | .running timing _, .collect _ nowMs =>
    match results call.tasks with
    | some results => runtime.collect id call timing results nowMs
    | none => runtime
  | .performed timing result, .record _ nowMs => runtime.record id call timing result nowMs
  | .recorded result, .answer _ => runtime.answer id call result
  | .waiting leader, .wake _ =>
    match (runtime.calls leader).map Call.phase with
    | some (.answered answer) => runtime.setPhase id call (.answered answer)
    | _ => runtime
  | _, _ => runtime

/-- The runtime after a step; where it does not come next, nothing happens. -/
def step (runtime : Runtime) (a : Step) : Runtime :=
  match a with
  | .submit id ownerId request => runtime.submit id ownerId request
  | .observe ownerId deviceId state nowMs => runtime.observe ownerId deviceId state nowMs none
  | .settle k =>
    match runtime.observing[k]? with
    | none => runtime
    | some seen => runtime.settle k seen
  | .forget ownerId deviceId =>
    { runtime with observed := Function.update runtime.observed (ownerId, deviceId) none }
  | .enter id _ | .perform id _ _ | .lock id | .gather id _ _ | .raise id | .begin id _ _
  | .finish id _ _ _ | .collect id _ | .record id _ | .answer id | .wake id =>
    match runtime.calls id with
    | none => runtime
    | some call => turn setup runtime id call call.phase a

/-! ### What a step can do -/

variable {runtime : Runtime} {id : CallId} {call : Call}

/-- What a step does, where it does anything. -/
inductive Moves (runtime : Runtime) : Step → Runtime → Prop where
  | submit {id : CallId} {ownerId : OwnerId} {request : ExecuteRequest}
    (hnew : runtime.calls id = none) :
    Moves runtime (.submit id ownerId request) (runtime.setCall id { ownerId, request })
  | conflict {id : CallId} {call : Call} {nowMs : Millis} {receipts : List Receipt}
    {e : ReceiptConflict} (hcall : runtime.calls id = some call) (hphase : call.phase = .entering)
    (hbegin : SqliteReceiptLedger.begin runtime.receipts call.key (setup.fingerprint call.request)
      nowMs = (receipts, .error e)) :
    Moves runtime (.enter id nowMs) ({ runtime with receipts }.setPhase id call (.answered .conflict))
  | repeats {id : CallId} {call : Call} {nowMs : Millis} {receipts : List Receipt}
    {existing : Receipt} {result : ExecuteResult} (hcall : runtime.calls id = some call)
    (hphase : call.phase = .entering)
    (hbegin : SqliteReceiptLedger.begin runtime.receipts call.key (setup.fingerprint call.request)
      nowMs = (receipts, .ok (some existing))) (hresult : existing.result = some result) :
    Moves runtime (.enter id nowMs)
      ({ runtime with receipts }.setPhase id call (.answered (.result result)))
  | waits {id : CallId} {call : Call} {nowMs : Millis} {receipts : List Receipt}
    {existing : Receipt} {leader : CallId} (hcall : runtime.calls id = some call)
    (hphase : call.phase = .entering)
    (hbegin : SqliteReceiptLedger.begin runtime.receipts call.key (setup.fingerprint call.request)
      nowMs = (receipts, .ok (some existing))) (hresult : existing.result = none)
    (hinflight : runtime.inflight call.key = some leader) :
    Moves runtime (.enter id nowMs) ({ runtime with receipts }.setPhase id call (.waiting leader))
  | carries {id : CallId} {call : Call} {nowMs : Millis} {receipts : List Receipt}
    {existing : Option Receipt} (hcall : runtime.calls id = some call)
    (hphase : call.phase = .entering)
    (hbegin : SqliteReceiptLedger.begin runtime.receipts call.key (setup.fingerprint call.request)
      nowMs = (receipts, .ok existing))
    (hexisting : ∀ row, existing = some row → row.result = none ∧ runtime.inflight call.key = none) :
    Moves runtime (.enter id nowMs)
      ({ runtime with
        receipts
        inflight := Function.update runtime.inflight call.key (some id) }.setPhase id call .carrying)
  | late {id : CallId} {call : Call} {submittedAtMs nowMs : Millis}
    (hcall : runtime.calls id = some call) (hphase : call.phase = .carrying) :
    Moves runtime (.perform id submittedAtMs nowMs) (runtime.setPhase id call
      (.performed { submittedAtMs } (refused call.request errorDeadlineExceeded)))
  | inTime {id : CallId} {call : Call} {submittedAtMs nowMs : Millis}
    (hcall : runtime.calls id = some call) (hphase : call.phase = .carrying) :
    Moves runtime (.perform id submittedAtMs nowMs) (runtime.setPhase id call (.admitted { submittedAtMs }))
  | lock {id : CallId} {call : Call} {timing : Timing} (hcall : runtime.calls id = some call)
    (hphase : call.phase = .admitted timing) :
    Moves runtime (.lock id) (runtime.lock id call timing)
  | start {id : CallId} {call : Call} {timing : Timing} {registry : Registry} {nowMs : Millis}
    (commands : List Command) (hcall : runtime.calls id = some call)
    (hphase : call.phase = .reading timing) :
    Moves runtime (.gather id registry nowMs) ((runtime.unlock call.ownerId).setCall id
      { call with
        phase := .running { timing with providerStartedAtMs := some nowMs } registry
        tasks := commands.map fun command => { command } })
  | noScene {id : CallId} {call : Call} {timing : Timing} {registry : Registry} {nowMs : Millis}
    (hcall : runtime.calls id = some call) (hphase : call.phase = .reading timing) :
    Moves runtime (.gather id registry nowMs) ((runtime.unlock call.ownerId).setPhase id call
      (.performed timing (refused call.request errorUnknownScene)))
  | raise {id : CallId} {call : Call} {timing : Timing} (hcall : runtime.calls id = some call)
    (hphase : call.phase = .reading timing) : Moves runtime (.raise id) (runtime.raise id call)
  | decline {id : CallId} {call : Call} {timing : Timing} {registry : Registry} {position : Nat}
    {task : Task} {nowMs : Millis} (code : String) (hcall : runtime.calls id = some call)
    (hphase : call.phase = .running timing registry) (htask : call.tasks[position]? = some task)
    (hqueued : task.phase = .queued) :
    Moves runtime (.begin id position nowMs)
      (runtime.setTask id call position task (.done (failed task.command code)))
  | execute {id : CallId} {call : Call} {timing : Timing} {registry : Registry} {position : Nat}
    {task : Task} {nowMs : Millis} (deviceLocks : OwnerId × DeviceId → Option (CallId × Nat))
    (hcall : runtime.calls id = some call) (hphase : call.phase = .running timing registry)
    (htask : call.tasks[position]? = some task) (hqueued : task.phase = .queued) :
    Moves runtime (.begin id position nowMs)
      ({ runtime with
        deviceLocks
        executed := runtime.executed ++ [Execution.mk id position call.key task.command] }.setTask
          id call position task .executing)
  | close {id : CallId} {call : Call} {timing : Timing} {registry : Registry} {position : Nat}
    {task : Task} {nowMs : Millis} {outcome : Outcome}
    (deviceLocks : OwnerId × DeviceId → Option (CallId × Nat)) (item : CommandResult)
    (hcall : runtime.calls id = some call) (hphase : call.phase = .running timing registry)
    (htask : call.tasks[position]? = some task) (hexecuting : task.phase = .executing) :
    Moves runtime (.finish id position nowMs outcome)
      ({ runtime with deviceLocks }.setTask id call position task (.done item))
  | expire {id : CallId} {call : Call} {timing : Timing} {registry : Registry} {position : Nat}
    {task : Task} {nowMs : Millis} (deviceLocks : OwnerId × DeviceId → Option (CallId × Nat))
    (hcall : runtime.calls id = some call) (hphase : call.phase = .running timing registry)
    (htask : call.tasks[position]? = some task) (hexecuting : task.phase = .executing) :
    Moves runtime (.finish id position nowMs .timeout)
      (({ runtime with deviceLocks }.setTask id call position task
          (.done (unknown task.command (some errorDeadlineExceeded)))).addPending
        (call.ownerId, task.command.deviceId) (runtime.pendingOf id call position task nowMs))
  | report {id : CallId} {call : Call} {timing : Timing} {registry : Registry} {position : Nat}
    {task : Task} {nowMs : Millis} {outcome : Outcome}
    (deviceLocks : OwnerId × DeviceId → Option (CallId × Nat)) (item : CommandResult)
    (state : Option DeviceState) (hcall : runtime.calls id = some call)
    (hphase : call.phase = .running timing registry)
    (htask : call.tasks[position]? = some task) (hexecuting : task.phase = .executing) :
    Moves runtime (.finish id position nowMs outcome)
      (({ runtime with deviceLocks }.setTask id call position task (.observing item)).observe
        call.ownerId task.command.deviceId state nowMs (some (id, position)))
  | collect {id : CallId} {call : Call} {timing : Timing} {registry : Registry} {nowMs : Millis}
    {items : List CommandResult} (hcall : runtime.calls id = some call)
    (hphase : call.phase = .running timing registry) (hresults : results call.tasks = some items) :
    Moves runtime (.collect id nowMs) (runtime.collect id call timing items nowMs)
  | record {id : CallId} {call : Call} {timing : Timing} {result : ExecuteResult} {nowMs : Millis}
    (hcall : runtime.calls id = some call) (hphase : call.phase = .performed timing result) :
    Moves runtime (.record id nowMs) (runtime.record id call timing result nowMs)
  | answer {id : CallId} {call : Call} {result : ExecuteResult}
    (hcall : runtime.calls id = some call) (hphase : call.phase = .recorded result) :
    Moves runtime (.answer id) (runtime.answer id call result)
  | wake {id leader : CallId} {call first : Call} {answer : CallAnswer}
    (hcall : runtime.calls id = some call) (hphase : call.phase = .waiting leader)
    (hfirst : runtime.calls leader = some first) (hanswer : first.phase = .answered answer) :
    Moves runtime (.wake id) (runtime.setPhase id call (.answered answer))
  | observe {ownerId : OwnerId} {deviceId : DeviceId} {state : Option DeviceState}
    {nowMs : Millis} :
    Moves runtime (.observe ownerId deviceId state nowMs)
      (runtime.observe ownerId deviceId state nowMs none)
  | settle {k : Nat} {seen : Observing} (hseen : runtime.observing[k]? = some seen) :
    Moves runtime (.settle k) (runtime.settle k seen)
  | forget {ownerId : OwnerId} {deviceId : DeviceId} :
    Moves runtime (.forget ownerId deviceId)
      { runtime with observed := Function.update runtime.observed (ownerId, deviceId) none }

variable {setup}

theorem enter_moves {nowMs : Millis} (hcall : runtime.calls id = some call)
    (hphase : call.phase = .entering) :
    Moves setup runtime (.enter id nowMs) (enter setup runtime id call nowMs) := by
  unfold enter
  split
  · next hbegin => exact .conflict hcall hphase hbegin
  · next receipts existing hbegin =>
    split
    · next result hresult =>
      obtain ⟨row, rfl, hrow⟩ := Option.bind_eq_some_iff.mp hresult
      exact .repeats hcall hphase hbegin hrow
    · next hresult =>
      split
      · next leader hleader =>
        obtain ⟨row, rfl, hinflight⟩ := Option.bind_eq_some_iff.mp hleader
        exact .waits hcall hphase hbegin (by simpa using hresult) hinflight
      · next hfree =>
        refine .carries hcall hphase hbegin fun row hrow => ?_
        subst hrow
        exact ⟨by simpa using hresult, by simpa using hfree⟩

theorem gather_moves {timing : Timing} {registry : Registry} {nowMs : Millis}
    (hcall : runtime.calls id = some call) (hphase : call.phase = .reading timing) :
    Moves setup runtime (.gather id registry nowMs)
      (runtime.gather id call timing registry nowMs) := by
  unfold gather
  split
  · exact .start call.request.commands hcall hphase
  · split
    · exact .noScene hcall hphase
    · next scene _ => exact .start scene.actions hcall hphase

theorem begin_moves {timing : Timing} {registry : Registry} {position : Nat} {task : Task}
    {nowMs : Millis} (hcall : runtime.calls id = some call)
    (hphase : call.phase = .running timing registry) (htask : call.tasks[position]? = some task)
    (hqueued : task.phase = .queued) :
    begin setup runtime id call registry position task nowMs = runtime ∨
      Moves setup runtime (.begin id position nowMs)
        (begin setup runtime id call registry position task nowMs) := by
  have hdone : ∀ code, Moves setup runtime (.begin id position nowMs)
      (runtime.setTask id call position task (.done (failed task.command code))) :=
    fun code => .decline code hcall hphase htask hqueued
  unfold begin
  split
  · exact .inr (hdone _)
  · split
    · exact .inr (hdone _)
    · split
      · exact .inr (hdone _)
      · split
        · exact .inl rfl
        · split
          · exact .inr (hdone _)
          · exact .inr (.execute _ hcall hphase htask hqueued)

theorem finish_moves {timing : Timing} {registry : Registry} {position : Nat} {task : Task}
    {nowMs : Millis} {outcome : Outcome} (hcall : runtime.calls id = some call)
    (hphase : call.phase = .running timing registry) (htask : call.tasks[position]? = some task)
    (hexecuting : task.phase = .executing) :
    Moves setup runtime (.finish id position nowMs outcome)
      (finish setup runtime id call registry position task nowMs outcome) := by
  unfold finish
  cases outcome with
  | refused code => exact .close _ _ hcall hphase htask hexecuting
  | raised => exact .close _ _ hcall hphase htask hexecuting
  | timeout => exact .expire _ hcall hphase htask hexecuting
  | delegated answer => exact .report _ _ _ hcall hphase htask hexecuting
  | state state =>
    dsimp only
    split
    · exact .close _ _ hcall hphase htask hexecuting
    · exact .report _ _ _ hcall hphase htask hexecuting

/-- The steps of a call, by the phase the call is in. -/
theorem turn_moves {a : Step} (hcall : runtime.calls id = some call) (hstep : step setup runtime a =
      turn setup runtime id call call.phase a) (hid : a.call = some id) :
    step setup runtime a = runtime ∨ Moves setup runtime a (step setup runtime a) := by
  rw [hstep]
  cases a with
  | submit | observe | settle | forget => cases hid
  -- every other step takes its call from one phase only; in any other phase it does nothing
  | enter id' nowMs =>
    obtain rfl : id' = id := Option.some.inj hid
    cases hphase : call.phase with
    | entering =>
      dsimp only [turn]
      split
      · exact .inr (enter_moves hcall hphase)
      · exact .inl rfl
    | _ => exact .inl rfl
  | perform id' submittedAtMs nowMs =>
    obtain rfl : id' = id := Option.some.inj hid
    cases hphase : call.phase with
    | carrying =>
      dsimp only [turn, perform]
      split
      · exact .inr (.late hcall hphase)
      · exact .inr (.inTime hcall hphase)
    | _ => exact .inl rfl
  | lock id' =>
    obtain rfl : id' = id := Option.some.inj hid
    cases hphase : call.phase with
    | admitted timing =>
      dsimp only [turn]
      split
      · exact .inr (.lock hcall hphase)
      · exact .inl rfl
    | _ => exact .inl rfl
  | gather id' registry nowMs =>
    obtain rfl : id' = id := Option.some.inj hid
    cases hphase : call.phase with
    | reading timing => exact .inr (gather_moves hcall hphase)
    | _ => exact .inl rfl
  | raise id' =>
    obtain rfl : id' = id := Option.some.inj hid
    cases hphase : call.phase with
    | reading timing => exact .inr (.raise hcall hphase)
    | _ => exact .inl rfl
  | begin id' position nowMs =>
    obtain rfl : id' = id := Option.some.inj hid
    cases hphase : call.phase with
    | running timing registry =>
      dsimp only [turn]
      split
      · next task htask =>
        split
        · next hqueued => exact begin_moves hcall hphase htask hqueued
        · exact .inl rfl
      · exact .inl rfl
    | _ => exact .inl rfl
  | finish id' position nowMs outcome =>
    obtain rfl : id' = id := Option.some.inj hid
    cases hphase : call.phase with
    | running timing registry =>
      dsimp only [turn]
      split
      · next task htask =>
        split
        · next hexecuting => exact .inr (finish_moves hcall hphase htask hexecuting)
        · exact .inl rfl
      · exact .inl rfl
    | _ => exact .inl rfl
  | collect id' nowMs =>
    obtain rfl : id' = id := Option.some.inj hid
    cases hphase : call.phase with
    | running timing registry =>
      dsimp only [turn]
      split
      · next items hresults => exact .inr (.collect hcall hphase hresults)
      · exact .inl rfl
    | _ => exact .inl rfl
  | record id' nowMs =>
    obtain rfl : id' = id := Option.some.inj hid
    cases hphase : call.phase with
    | performed timing result => exact .inr (.record hcall hphase)
    | _ => exact .inl rfl
  | answer id' =>
    obtain rfl : id' = id := Option.some.inj hid
    cases hphase : call.phase with
    | recorded result => exact .inr (.answer hcall hphase)
    | _ => exact .inl rfl
  | wake id' =>
    obtain rfl : id' = id := Option.some.inj hid
    cases hphase : call.phase with
    | waiting leader =>
      dsimp only [turn]
      split
      · next answer hanswer =>
        obtain ⟨first, hfirst, hphase'⟩ := Option.map_eq_some_iff.mp hanswer
        exact .inr (.wake hcall hphase hfirst hphase')
      · exact .inl rfl
    | _ => exact .inl rfl

variable (setup) in
/-- A step does nothing, or what one of the moves says. -/
theorem step_moves (runtime : Runtime) (a : Step) :
    step setup runtime a = runtime ∨ Moves setup runtime a (step setup runtime a) := by
  cases hid : a.call with
  | some id =>
    cases hcall : runtime.calls id with
    | none =>
      refine .inl ?_
      cases a <;> cases hid <;> simp only [step, hcall]
    | some call =>
      refine turn_moves hcall ?_ hid
      cases a <;> cases hid <;> simp only [step, hcall]
  | none =>
    cases a with
    | submit id ownerId request =>
      show runtime.submit id ownerId request = runtime ∨ Moves setup runtime _ (runtime.submit id ownerId request)
      unfold submit
      split
      · exact .inl rfl
      · split
        · exact .inl rfl
        · next hnew => exact .inr (.submit hnew)
    | observe ownerId deviceId state nowMs => exact .inr .observe
    | settle k =>
      cases hseen : runtime.observing[k]? with
      | none => exact .inl (by simp only [step, hseen])
      | some seen =>
        have hstep : step setup runtime (.settle k) = runtime.settle k seen := by
          simp only [step, hseen]
        rw [hstep]
        exact .inr (.settle hseen)
    | forget ownerId deviceId => exact .inr .forget
    | _ => cases hid

end Runtime

end EidolonHub.SmartHome
