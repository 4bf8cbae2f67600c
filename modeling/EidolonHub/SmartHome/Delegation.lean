import EidolonHub.Library.Pool
import EidolonHub.SmartHome.Platform
import EidolonHub.SmartHome.Runtime

/-!
# EidolonHub.SmartHome.Delegation

**Instructions that are delegated to the 周边好生活 platform.** Calls of the adapter share the session of an
account. Each asks for a token where it has none that is good, sends its request, and once more with a new
token where the platform does not let it in. Between any two messages other calls go on, a message or its
answer gets lost, the deadline of a call passes, and the platform restarts.
-/

namespace EidolonHub.SmartHome.Zhoubian

open EidolonHub.Library EidolonHub.Library.Python EidolonHub.Library.Query

/-! ### What is asked -/

/-- The code of an instruction that the platform has refused. -/
def errorPlatformRejected : String := "PLATFORM_REJECTED"

/-- The name of a trait, as commands carry it. -/
def traitText : DeviceTrait → String
  | .onOff => "on_off"
  | .level => "level"
  | .thermostat => "thermostat"
  | .fanSpeed => "fan_speed"
  | .position => "position"
  | .lock => "lock"
  | .operational => "operational"
  | .volume => "volume"
  | .measure => "measure"

/-- The name of a command, as requests carry it. -/
def commandText : Action → String
  | .on => "on"
  | .off => "off"
  | .toggle => "toggle"
  | .setLevel _ | .setSpeed _ | .setPosition _ | .setVolume _ => "set"
  | .stepLevel _ | .stepTarget _ | .stepSpeed _ | .stepVolume _ => "step"
  | .setMode _ => "set_mode"
  | .setTarget _ => "set_target"
  | .openCover => "open"
  | .closeCover => "close"
  | .stopCover | .stop => "stop"
  | .lock => "lock"
  | .unlock => "unlock"
  | .start => "start"
  | .pause => "pause"
  | .dock => "dock"
  | .mute _ => "mute"

/-- `_VERBS`: what stands before the name of the device. -/
def verbs : List ((String × String) × String) :=
  [(("on_off", "on"), "打开"), (("on_off", "off"), "关闭"), (("position", "open"), "打开"),
    (("position", "close"), "关闭"), (("lock", "lock"), "锁上")]

/-- The word of an instruction, where there is one for the command. -/
def verb (action : Action) : Option String := verbs.lookup (traitText action.trait, commandText action)

/-- `_Session` -/
structure Session where
  ownerId : OwnerId
  accountId : String
  appId : String
  appSecret : String
  userId : String
  userSecret : String
  homeId : Option String
  accessToken : String := ""
  refreshToken : String := ""
  /-- in milliseconds -/
  accessExpiresAt : Nat := 0

/-- How a call ends. -/
inductive Result where
  | data (data : Data)
  /-- a `BindError` -/
  | bindError (code message : String)
  | error (e : SmartHomeError)
  /-- the deadline of the call has passed -/
  | timeout
  /-- any other exception -/
  | raised

/-- The calls that use a session, and what happens at the platform beside them. -/
inductive Call where
  | execute (ownerId : OwnerId) (name : String) (action : Action)
  | discover (ownerId : OwnerId)
  | platform (change : MockTenant → MockTenant)

/-- `_session` -/
def Session.of (session : Session) (ownerId : OwnerId) : Except Result Unit :=
  if session.ownerId ≠ ownerId then
    .error (.error ⟨errorDeviceOffline, "account " ++ session.accountId ++ " is not bound"⟩)
  else .ok ()

/-- What a call asks of the platform, if it asks anything. -/
def Call.query (session : Session) : Call → Except Result Query
  | .execute ownerId name action => do
    session.of ownerId
    match verb action with
    | none => .error (.error ⟨errorPlatformRejected,
        traitText action.trait ++ "." ++ commandText action ++ " cannot be said to this platform"⟩)
    | some verb => .ok (.control (verb ++ name) (session.homeId.filter (· ≠ "")))
  | .discover ownerId => do
    session.of ownerId
    match session.homeId with
    | none => .error (.bindError "HOME_NOT_CHOSEN" "请先选择家庭")
    | some homeId => .ok (.devices homeId)
  | .platform _ => .error .raised

/-- What `execute` makes of the answer: an envelope without a status has status -1. -/
def Result.outcome : Result → Outcome
  | .data (.control status answer) =>
    if status = controlOk then .delegated (if answer = "" then "平台已受理" else answer)
    else if status = controlDeviceOffline ∨ status = controlSomeOffline then .refused errorDeviceOffline
    else if status = controlNoDevicesBound ∨ status = controlNoMatch then .refused errorUnknownDevice
    else .refused errorPlatformRejected
  | .data _ => .refused errorPlatformRejected
  | .bindError _ _ => .refused errorPlatformRejected
  | .error e => .refused e.code
  | .timeout => .timeout
  | .raised => .raised

/-! ### The steps of a call -/

/-- Whether the request is sent for the first time, or once more with a new token. -/
inductive Attempt where
  | first
  | second
  deriving DecidableEq

/-- What a call waits for: a token, for the attempt that follows, or the answer to its attempt. -/
inductive Ask where
  | token (attempt : Attempt)
  /-- a token for the refresh token -/
  | refresh (attempt : Attempt)
  | api (attempt : Attempt)

/-- An envelope, or the HTTP status of an answer that is not JSON. -/
abbrev Reply := Except Nat Envelope

/-- Where the message is. -/
inductive Flight where
  | sent (request : Request)
  | handled (reply : Reply)

/-- Where a call stands. It asks for a token, renews it, or makes its request, and waits for the answer.
-/
inductive Phase where
  | idle
  | awaiting (query : Query) (ask : Ask) (flight : Flight)
  /-- A request that is given up may arrive later. -/
  | ended (result : Result) (late : Option Request)

/-- What becomes of a message or of its answer. -/
inductive Event where
  | arrives
  /-- The connection fails. -/
  | fails
  /-- Something between the two answers with a text that is not JSON. -/
  | garbled (status : Nat)
  /-- The deadline of the call passes. -/
  | deadline

/-- What a step draws: what becomes of the message, and the clocks and tokens of the two sides. -/
structure ServiceDraws where
  event : Event
  /-- the clock of the Hub -/
  now : Clock
  platform : PlatformDraws

/-- The session, the platform, and what it has switched for which call. No step reads the last. -/
structure Service where
  session : Session
  tenant : MockTenant
  switches : List (Nat × MockTenant.Switch) := []

variable (signing : Signing) (unicode : Unicode)

/-- `basic_authorization` of the session -/
def Session.basic (session : Session) : String :=
  signing.basicAuthorization session.appId session.appSecret

/-- The form of `_token`; none where the user secret cannot be decoded. -/
def Session.tokenForm (session : Session) (now : Clock) : Option TokenForm :=
  (password signing session.userSecret session.appId now.timestamp session.userId).map fun password =>
    { grantType := some grantHmac
      username := some (username session.appId session.userId)
      password := some password
      scope := some scopeControl }

/-- The form of `_refresh` -/
def Session.refreshForm (session : Session) : TokenForm :=
  { grantType := some grantRefresh, refreshToken := some session.refreshToken, scope := some scopeControl }

/-- `_token`, up to the answer -/
def Session.token (session : Session) (now : Clock) (query : Query) (attempt : Attempt) : Phase :=
  match session.tokenForm signing now with
  | none => .ended .raised none
  | some form => .awaiting query (.token attempt) (.sent (.token form (session.basic signing)))

/-- `_refresh`, up to the first answer -/
def Session.renew (session : Session) (now : Clock) (query : Query) (attempt : Attempt) : Phase :=
  if session.refreshToken = "" then session.token signing now query attempt
  else .awaiting query (.refresh attempt) (.sent (.token session.refreshForm (session.basic signing)))

/-- An attempt of `_authed`, up to the answer -/
def Session.request (session : Session) (query : Query) (attempt : Attempt) : Phase :=
  .awaiting query (.api attempt) (.sent (.api query ("Bearer " ++ session.accessToken)))

/-- `_authed`, up to the first message -/
def Session.authed (session : Session) (now : Clock) (query : Query) : Phase :=
  if session.accessToken = "" ∨ session.accessExpiresAt ≤ now.val then
    session.renew signing now query .first
  else session.request query .first

/-- `_unwrap` of an envelope that is not the one of a grant -/
def unwrap (envelope : Envelope) : Result :=
  if envelope.code ≠ codeOk then
    .error ⟨errorPlatformRejected, strip (toString envelope.code ++ ": " ++ envelope.msg)⟩
  else .data envelope.data

/-- How `_grant` ends. -/
inductive Granted where
  | session (session : Session)
  | bindError (code message : String)
  /-- `data` has no access token in it. -/
  | raised

/-- `_grant`, from the answer on. A share of the time to live is kept as a margin. -/
def Session.grant (session : Session) (now : Clock) : Reply → Granted
  | .error status => .bindError "BAD_RESPONSE" ("HTTP " ++ toString status)
  | .ok envelope =>
    if envelope.code ≠ codeOk then
      .bindError "PLATFORM_REFUSED" (strip (toString envelope.code ++ ": " ++ envelope.msg))
    else
      match envelope.data with
      | .grant accessToken refreshToken expiresIn =>
        .session { session with accessToken, refreshToken, accessExpiresAt := now.val + expiresIn * 900 }
      | _ => .raised

/-- A call goes on with the answer it has waited for. -/
def Session.receive (session : Session) (now : Clock) (query : Query) :
    Ask → Reply → Session × Phase
  | .token attempt, reply =>
    match session.grant now reply with
    | .session session => (session, session.request query attempt)
    | .bindError code message => (session, .ended (.bindError code message) none)
    | .raised => (session, .ended .raised none)
  | .refresh attempt, reply =>
    match session.grant now reply with
    | .session session => (session, session.request query attempt)
    | .bindError _ _ => (session, session.token signing now query attempt)
    | .raised => (session, .ended .raised none)
  | .api attempt, .ok envelope =>
    if (envelope.code = codeUnauthorized ∨ envelope.code = codeInvalidToken) ∧ attempt = .first then
      (session, session.renew signing now query .second)
    else (session, .ended (unwrap envelope) none)
  | .api _, .error _ => (session, .ended .raised none)

namespace Service

/-- A request of the call arrives at the platform. -/
def handle (s : Service) (c : Nat) (draws : PlatformDraws) (request : Request) : Service :=
  let controlled := s.tenant.handle signing unicode draws request
  { s with
    tenant := controlled.tenant
    switches := s.switches ++ (controlled.switched.map fun switch => (c, switch)).toList }

/-- What the platform answers to a request that arrives; it raises with status 500. -/
def reply (s : Service) (draws : PlatformDraws) (request : Request) : Reply :=
  (s.tenant.handle signing unicode draws request).reply.elim (.error 500) .ok

/-- The next step of a call. -/
def act (call : Nat → Call) (c : Nat) (draws : ServiceDraws) (s : Service) : Phase → Service × Phase
  | .idle =>
    match call c with
    | .platform change => ({ s with tenant := change s.tenant }, .idle)
    | call =>
      match call.query s.session with
      | .error result => (s, .ended result none)
      | .ok query => (s, s.session.authed signing draws.now query)
  | .awaiting query ask (.sent request) =>
    match draws.event, ask with
    | .arrives, ask =>
      (s.handle signing unicode c draws.platform request,
        .awaiting query ask (.handled (s.reply signing unicode draws.platform request)))
    | .fails, _ | .garbled _, .api _ => (s, .ended .raised (some request))
    | .garbled status, ask =>
      let received := s.session.receive signing draws.now query ask (.error status)
      ({ s with session := received.1 }, received.2)
    | .deadline, _ => (s, .ended .timeout (some request))
  | .awaiting query ask (.handled reply) =>
    match draws.event with
    | .arrives =>
      let received := s.session.receive signing draws.now query ask reply
      ({ s with session := received.1 }, received.2)
    | .fails => (s, .ended .raised none)
    | .garbled status =>
      let received := s.session.receive signing draws.now query ask (.error status)
      ({ s with session := received.1 }, received.2)
    | .deadline => (s, .ended .timeout none)
  | .ended result (some request) =>
    match draws.event with
    | .arrives => (s.handle signing unicode c draws.platform request, .ended result none)
    | _ => (s, .ended result none)
  | .ended result none => (s, .ended result none)

/-- What the platform has switched for a call. -/
def switched (s : Service) (c : Nat) : List MockTenant.Switch :=
  (s.switches.filter (·.1 = c)).map (·.2)

end Service

/-- Nobody has called yet. -/
def opened (session : Session) (tenant : MockTenant) : Pool Service Phase := .start ⟨session, tenant, []⟩ .idle

/-- The session, the platform and the calls after a schedule. -/
def served (calls : Nat → Call) (session : Session)
    (tenant : MockTenant) (turns : List (Turn ServiceDraws)) : Pool Service Phase :=
  run (Pool.step (Service.act signing unicode calls)) (opened session tenant) turns

end EidolonHub.SmartHome.Zhoubian
