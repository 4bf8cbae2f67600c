import EidolonHub.Library.Run
import Mathlib.Logic.Function.Basic

/-!
# EidolonHub.SmartHome.Connection

**The state cache of one Home Assistant connection.** `open` asks for the configuration,
then for all states, then subscribes to their changes; a reader of its own hands it the
answers and applies the events.

What a subscribed connection has not read yet is exactly what its cache is behind
(`Shape`). The snapshot is older than the subscription: a change between them is on
neither, and nothing later makes up for it. Without such a change the cache converges
(`cache_converges`).
-/

namespace EidolonHub.SmartHome

open EidolonHub.Library

/-- An entity of the instance. -/
abbrev EntityId := String

/-- What is known of the entities; an entity that was removed has no state. -/
abbrev States (S : Type) := EntityId → Option S

/-! ### The connection -/

/-- The requests `open` makes, in their order. -/
inductive OpeningRequest where
  | getConfig | getStates | subscribeEvents
  deriving DecidableEq

/-- What the instance answers to a request. -/
inductive Answer (S : Type) where
  | config
  | states (snapshot : States S)
  | subscribed
  /-- `"success": false`. -/
  | refused

/-- What the instance sends. -/
inductive Message (S : Type) where
  | result (id : Nat) (answer : Answer S)
  | stateChanged (entityId : EntityId) (newState : Option S)

/-- Where `open` is: waiting for an answer, returned, or raised. -/
inductive Phase where
  | opening (request : OpeningRequest)
  | opened
  | failed
  deriving DecidableEq

/-- One WebSocket, with what is under way on it in both directions. -/
structure Link (S : Type) where
  phase : Phase
  /-- Sent and not answered yet. -/
  requests : List (Nat × OpeningRequest) := []
  /-- The instance sends the changes. -/
  subscribed : Bool := false
  /-- Sent by the instance and not read yet. -/
  messages : List (Message S) := []
  /-- The request in `_pending`, and what its future was set to. -/
  pending : Option Nat := none
  reply : Option (Answer S) := none

/-- The instance and an `HaConnection` to it. -/
structure HaConnection (S : Type) where
  instanceStates : States S
  states : States S := fun _ => none
  nextId : Nat := 1
  link : Option (Link S) := none

namespace HaConnection

variable {S : Type}

/-- `request`, up to the answer. -/
def request (connection : HaConnection S) (link : Link S) (request : OpeningRequest) :
    HaConnection S :=
  let id := connection.nextId
  { connection with
    nextId := id + 1
    link := some { link with
      phase := .opening request
      requests := link.requests ++ [(id, request)]
      pending := some id
      reply := none } }

/-- `open`, once the instance accepted the token. -/
def connect (connection : HaConnection S) : HaConnection S :=
  match connection.link with
  | none => connection.request { phase := .opening .getConfig } .getConfig
  | some _ => connection

/-- The instance answers the oldest request. -/
def answer (connection : HaConnection S) (link : Link S) : Link S :=
  match link.requests with
  | [] => link
  | (id, request) :: requests =>
    match request with
    | .getConfig => { link with requests, messages := link.messages ++ [.result id .config] }
    | .getStates =>
      { link with requests, messages := link.messages ++ [.result id (.states connection.instanceStates)] }
    | .subscribeEvents =>
      { link with requests, subscribed := true, messages := link.messages ++ [.result id .subscribed] }

/-- The instance refuses the request that has waited longest. -/
def refuse (link : Link S) : Link S :=
  match link.requests with
  | [] => link
  | (id, _) :: requests => { link with requests, messages := link.messages ++ [.result id .refused] }

/-- A state of the instance changes. -/
def change (connection : HaConnection S) (entityId : EntityId) (newState : Option S) :
    HaConnection S :=
  { connection with
    instanceStates := Function.update connection.instanceStates entityId newState
    link := connection.link.map fun link =>
      if link.subscribed then { link with messages := link.messages ++ [.stateChanged entityId newState] }
      else link }

/-- `_read`, one message. -/
def read (connection : HaConnection S) (link : Link S) : HaConnection S :=
  match link.messages with
  | [] => connection
  | .stateChanged entityId newState :: messages =>
    { connection with
      states := Function.update connection.states entityId newState
      link := some { link with messages } }
  | .result id answer :: messages =>
    if link.pending = some id then
      { connection with link := some { link with messages, pending := none, reply := some answer } }
    else { connection with link := some { link with messages } }

/-- `open` goes on with the answer it waited for. -/
def resume (connection : HaConnection S) (link : Link S) : HaConnection S :=
  match link.phase, link.reply with
  | .opening .getConfig, some .config => connection.request link .getStates
  | .opening .getStates, some (.states snapshot) =>
    { connection with states := snapshot }.request link .subscribeEvents
  | .opening .subscribeEvents, some .subscribed =>
    { connection with link := some { link with phase := .opened, reply := none } }
  | .opening _, some _ => { connection with link := some { link with phase := .failed } }
  | _, _ => connection

/-- The request that is waited for times out. -/
def expire (link : Link S) : Link S :=
  match link.pending with
  | none => link
  | some _ => { link with phase := .failed, pending := none }

/-- What happens at the instance, on the wire, or at the client. -/
inductive Step (S : Type) where
  | change (entityId : EntityId) (newState : Option S)
  | connect
  | answer
  | refuse
  | read
  | resume
  | expire
  /-- The WebSocket is closed; what is under way on it is lost. -/
  | lose

/-- The instance and the client after a step. -/
def step (connection : HaConnection S) : Step S → HaConnection S
  | .change entityId newState => connection.change entityId newState
  | .connect => connection.connect
  | .answer => { connection with link := connection.link.map connection.answer }
  | .refuse => { connection with link := connection.link.map refuse }
  | .read => connection.link.elim connection connection.read
  | .resume => connection.link.elim connection connection.resume
  | .expire => { connection with link := connection.link.map expire }
  | .lose => { connection with link := none }

/-- Nothing was ever connected. -/
def start (instanceStates : States S) : HaConnection S := { instanceStates }

/-! ### What a subscribed connection is behind -/

/-- The cache after the events under way are applied. -/
def replay (states : States S) (messages : List (Message S)) : States S :=
  messages.foldl (fun states message =>
    match message with
    | .stateChanged entityId newState => Function.update states entityId newState
    | .result _ _ => states) states

@[simp] theorem replay_nil (states : States S) : replay states [] = states := rfl

@[simp] theorem replay_result (states : States S) (id : Nat) (answer : Answer S)
    (messages : List (Message S)) : replay states (.result id answer :: messages) =
      replay states messages := rfl

@[simp] theorem replay_stateChanged (states : States S) (entityId : EntityId)
    (newState : Option S) (messages : List (Message S)) :
    replay states (.stateChanged entityId newState :: messages) =
      replay (Function.update states entityId newState) messages := rfl

/-- A change that is sent after what is under way already. -/
theorem replay_concat {states : States S} {messages : List (Message S)} {entityId : EntityId}
    {newState : Option S} : replay states (messages ++ [.stateChanged entityId newState]) =
      Function.update (replay states messages) entityId newState := by
  rw [replay, List.foldl_append]
  rfl

/-- An answer, whether the instance is subscribed to since, and the events behind it. -/
inductive Delivered (current cache : States S) :
    OpeningRequest → Answer S → Bool → List (Message S) → Prop where
  | config : Delivered current cache .getConfig .config false []
  | states : Delivered current cache .getStates (.states current) false []
  | subscribed {events : List (Message S)} (h : replay cache events = current) :
    Delivered current cache .subscribeEvents .subscribed true events
  | refused {request : OpeningRequest} : Delivered current cache request .refused false []

/-- The forms a connection has: one request is under way, or its answer, until the
subscription stands. -/
inductive Shape (current cache : States S) : Link S → Prop where
  | asked {request : OpeningRequest} {id : Nat}
    (h : request = .subscribeEvents → cache = current) : Shape current cache
      { phase := .opening request, requests := [(id, request)], pending := some id }
  | answered {request : OpeningRequest} {id : Nat} {answer : Answer S} {subscribed : Bool}
    {events : List (Message S)} (h : Delivered current cache request answer subscribed events) :
    Shape current cache
      { phase := .opening request, subscribed, messages := .result id answer :: events,
        pending := some id }
  | received {request : OpeningRequest} {answer : Answer S} {subscribed : Bool}
    {events : List (Message S)} (h : Delivered current cache request answer subscribed events) :
    Shape current cache
      { phase := .opening request, subscribed, messages := events, reply := some answer }
  | opened {events : List (Message S)} (h : replay cache events = current) :
    Shape current cache { phase := .opened, subscribed := true, messages := events }
  | failed {link : Link S} (h : link.phase = .failed) : Shape current cache link

/-- Every connection there is has one of the forms. -/
def Sound (connection : HaConnection S) : Prop :=
  ∀ link ∈ connection.link, Shape connection.instanceStates connection.states link

/-- The snapshot was taken, and the subscription is not accepted yet. -/
def gap (link : Link S) : Bool :=
  match link.phase with
  | .opening .getStates =>
    link.reply matches some (.states _) || link.messages.any (· matches .result _ (.states _))
  | .opening .subscribeEvents => !link.requests.isEmpty
  | _ => false

/-- No state changes in the gap between the snapshot and the subscription. -/
def Undisturbed (connection : HaConnection S) : Step S → Prop
  | .change _ _ => ∀ link ∈ connection.link, gap link = false
  | _ => True

instance (connection : HaConnection S) : ∀ a, Decidable (Undisturbed connection a)
  | .change _ _ => inferInstanceAs (Decidable (∀ link ∈ connection.link, gap link = false))
  | .connect | .answer | .refuse | .read | .resume | .expire | .lose => .isTrue trivial

/-- An open connection with nothing left to read has the states of the instance. -/
def Converged (connection : HaConnection S) : Prop :=
  ∀ link ∈ connection.link, link.phase = .opened → link.messages = [] →
    connection.states = connection.instanceStates

/-! ### Every step keeps the form -/

variable {connection : HaConnection S} {link : Link S}

theorem shape_change (h : Shape connection.instanceStates connection.states link)
    (hgap : gap link = false) (entityId : EntityId) (newState : Option S) :
    Shape (Function.update connection.instanceStates entityId newState) connection.states
      (if link.subscribed then
        { link with messages := link.messages ++ [.stateChanged entityId newState] } else link) := by
  cases h with
  | @asked request id h =>
    refine .asked fun heq => ?_
    subst heq
    simp [gap] at hgap
  | answered h =>
    cases h with
    | config => exact .answered .config
    | states => simp [gap] at hgap
    | subscribed h =>
      refine .answered (.subscribed ?_)
      exact replay_concat.trans (congrArg (Function.update · entityId newState) h)
    | refused => exact .answered .refused
  | received h =>
    cases h with
    | config => exact .received .config
    | states => simp [gap] at hgap
    | subscribed h =>
      refine .received (.subscribed ?_)
      rw [replay_concat, h]
    | refused => exact .received .refused
  | opened h =>
    refine .opened ?_
    rw [replay_concat, h]
  | failed h =>
    refine .failed ?_
    split <;> exact h

theorem shape_answer (h : Shape connection.instanceStates connection.states link) :
    Shape connection.instanceStates connection.states (connection.answer link) := by
  cases h with
  | @asked request id h =>
    cases request with
    | getConfig => exact .answered .config
    | getStates => exact .answered .states
    | subscribeEvents => exact .answered (.subscribed (h rfl))
  | answered h => exact .answered h
  | received h => exact .received h
  | opened h => exact .opened h
  | failed h =>
    refine .failed ?_
    unfold answer
    split
    · exact h
    · split <;> exact h

theorem shape_refuse (h : Shape connection.instanceStates connection.states link) :
    Shape connection.instanceStates connection.states (refuse link) := by
  cases h with
  | asked h => exact .answered .refused
  | answered h => exact .answered h
  | received h => exact .received h
  | opened h => exact .opened h
  | failed h =>
    refine .failed ?_
    unfold refuse
    split <;> exact h

theorem shape_expire (h : Shape connection.instanceStates connection.states link) :
    Shape connection.instanceStates connection.states (expire link) := by
  cases h with
  | asked h => exact .failed rfl
  | answered h => exact .failed rfl
  | received h => exact .received h
  | opened h => exact .opened h
  | failed h =>
    refine .failed ?_
    unfold expire
    split
    · exact h
    · rfl

theorem sound_request {request : OpeningRequest} (hrequests : link.requests = [])
    (hsubscribed : link.subscribed = false) (hmessages : link.messages = [])
    (h : request = .subscribeEvents → connection.states = connection.instanceStates) :
    Sound (connection.request link request) := by
  intro link' hlink'
  cases hlink'
  obtain ⟨phase, requests, subscribed, messages, pending, reply⟩ := link
  subst hrequests hsubscribed hmessages
  exact .asked h

theorem sound_of_shape (hlink : connection.link = some link)
    (h : Shape connection.instanceStates connection.states link) : Sound connection := by
  intro link' hlink'
  rw [Option.mem_def, hlink] at hlink'
  cases hlink'
  exact h

/-- A reader that no answer is due to. -/
theorem sound_read_events
    (hshape : ∀ {cache : States S} {events : List (Message S)},
      replay cache events = connection.instanceStates →
        Shape connection.instanceStates cache { link with messages := events })
    (hlink : connection.link = some link) (hpending : link.pending = none)
    (h : replay connection.states link.messages = connection.instanceStates) :
    Sound (connection.read link) := by
  unfold read
  split
  · exact sound_of_shape hlink (hshape h)
  · next entityId newState messages hmessages =>
    rw [hmessages, replay_stateChanged] at h
    exact sound_of_shape rfl (hshape h)
  · next id answer messages hmessages =>
    rw [hmessages, replay_result] at h
    rw [if_neg (by simp [hpending])]
    exact sound_of_shape rfl (hshape h)

theorem sound_read (h : Shape connection.instanceStates connection.states link)
    (hlink : connection.link = some link) : Sound (connection.read link) := by
  cases h with
  | asked h => exact sound_of_shape hlink (.asked h)
  | @answered request id answer subscribed events h =>
    simp only [read, if_true]
    exact sound_of_shape rfl (.received h)
  | received h =>
    cases h with
    | config => exact sound_of_shape hlink (.received .config)
    | states => exact sound_of_shape hlink (.received .states)
    | subscribed h => exact sound_read_events (fun h => .received (.subscribed h)) hlink rfl h
    | refused => exact sound_of_shape hlink (.received .refused)
  | opened h => exact sound_read_events .opened hlink rfl h
  | failed h =>
    unfold read
    split
    · exact sound_of_shape hlink (.failed h)
    · exact sound_of_shape rfl (.failed h)
    · split <;> exact sound_of_shape rfl (.failed h)

theorem sound_resume (h : Shape connection.instanceStates connection.states link)
    (hlink : connection.link = some link) : Sound (connection.resume link) := by
  cases h with
  | asked h =>
    simp only [resume]
    exact sound_of_shape hlink (.asked h)
  | answered h =>
    simp only [resume]
    exact sound_of_shape hlink (.answered h)
  | received h =>
    cases h with
    | config =>
      simp only [resume]
      exact sound_request rfl rfl rfl nofun
    | states =>
      simp only [resume]
      exact sound_request rfl rfl rfl fun _ => rfl
    | subscribed h =>
      simp only [resume]
      exact sound_of_shape rfl (.opened h)
    | refused =>
      simp only [resume]
      exact sound_of_shape rfl (.failed rfl)
  | opened h =>
    simp only [resume]
    exact sound_of_shape hlink (.opened h)
  | failed h =>
    simp only [resume, h]
    exact sound_of_shape hlink (.failed h)

theorem sound_step (h : Sound connection) {a : Step S} (hundisturbed : Undisturbed connection a) :
    Sound (connection.step a) := by
  cases a with
  -- undisturbed, a change falls before the snapshot is taken or after the link has subscribed
  | change entityId newState =>
    intro link hlink
    obtain ⟨link, hold, rfl⟩ := Option.map_eq_some_iff.mp hlink
    exact shape_change (h link hold) (hundisturbed link hold) entityId newState
  | connect =>
    show Sound connection.connect
    unfold connect
    split
    · exact sound_request rfl rfl rfl nofun
    · exact h
  | answer =>
    intro link hlink
    obtain ⟨link, hold, rfl⟩ := Option.map_eq_some_iff.mp hlink
    exact shape_answer (h link hold)
  | refuse =>
    intro link hlink
    obtain ⟨link, hold, rfl⟩ := Option.map_eq_some_iff.mp hlink
    exact shape_refuse (h link hold)
  | read =>
    show Sound (connection.link.elim connection connection.read)
    cases hlink : connection.link with
    | none => exact h
    | some link => exact sound_read (h link hlink) hlink
  | resume =>
    show Sound (connection.link.elim connection connection.resume)
    cases hlink : connection.link with
    | none => exact h
    | some link => exact sound_resume (h link hlink) hlink
  | expire =>
    intro link hlink
    obtain ⟨link, hold, rfl⟩ := Option.map_eq_some_iff.mp hlink
    exact shape_expire (h link hold)
  | lose => exact fun _ hlink => nomatch hlink

theorem Sound.converged (h : Sound connection) : Converged connection := by
  intro link hlink hphase hmessages
  cases h link hlink with
  | asked => cases hphase
  | answered => cases hphase
  | received => cases hphase
  | opened h =>
    replace hmessages : _ = [] := hmessages
    subst hmessages
    exact h
  | failed h => rw [h] at hphase; cases hphase

/-- Over every run of changes, connections, answers, refusals, timeouts and losses in which no
state changes between a snapshot and the subscription after it, an open connection with
nothing left to read has the states of the instance. -/
theorem cache_converges (instanceStates : States S) (steps : List (Step S))
    (h : Along step Undisturbed (start instanceStates) steps) :
    Converged (run step (start instanceStates) steps) := by
  have hstart : Sound (start instanceStates) := fun _ hlink => nomatch hlink
  exact (run_inv_along (I := Sound) (fun _ _ hs ha => sound_step hs ha) hstart h).converged

/-! ### A change in the gap -/

/-- `open`, from the connection to the subscription; the lamp is switched on where it says. -/
def opening (atGap atEnd : List (Step String)) : List (Step String) :=
  [.connect, .answer, .read, .resume, .answer] ++ atGap ++
    [.read, .resume, .answer, .read, .resume] ++ atEnd

/-- The lamp is switched on. -/
def lampOn : Step String := .change "light.lamp" (some "on")

/-- A snapshot in which the lamp is off. -/
def lampOff : States String := fun entityId => if entityId = "light.lamp" then some "off" else none

theorem cache_converges_lamp : Converged (run step (start lampOff) (opening [] [lampOn, .read])) :=
  cache_converges lampOff (opening [] [lampOn, .read]) (by decide +kernel)

/-- The connection is open, every message on it is read, and the lamp is off in the cache. -/
theorem cache_misses_change :
    let connection := run step (start lampOff) (opening [lampOn] []);
    connection.link.any (fun link => link.phase = .opened ∧ link.messages.isEmpty) = true ∧
      connection.states "light.lamp" = some "off" ∧
      connection.instanceStates "light.lamp" = some "on" ∧ ¬ Converged connection := by
  intro connection
  have hopen : connection.link.any (fun link => link.phase = .opened ∧ link.messages.isEmpty) = true := by
    decide +kernel
  have hcache : connection.states "light.lamp" = some "off" := by decide +kernel
  have hinstance : connection.instanceStates "light.lamp" = some "on" := by decide +kernel
  refine ⟨hopen, hcache, hinstance, fun hconverged => ?_⟩
  obtain ⟨link, hlink, hread⟩ := (Option.any_eq_true _ _).mp hopen
  obtain ⟨hphase, hmessages⟩ := of_decide_eq_true hread
  have hsame := hconverged link hlink hphase (List.isEmpty_iff.mp hmessages)
  rw [hsame, hinstance] at hcache
  exact absurd hcache (by decide)

end HaConnection

end EidolonHub.SmartHome
