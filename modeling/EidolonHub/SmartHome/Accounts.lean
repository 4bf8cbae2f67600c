import EidolonHub.Library.Python
import EidolonHub.Library.Tenancy
import EidolonHub.SmartHome.Vocabulary
import Mathlib.Data.List.Sort

/-!
# EidolonHub.SmartHome.Accounts

**Accounts of the Providers**, as `AccountService` and the two account-backed Providers keep
them: a table of accounts, a vault of credentials, and in memory the connections, the sessions
and the tasks that observe. One step is what is done between two awaits.

Almost everything is kept under the account id alone, which the caller may choose. The
lookup at the entrance is made with the Owner and the account id, and finds no account of
anybody else.
-/

namespace EidolonHub.SmartHome.Accounts

open EidolonHub.Library EidolonHub.Library.Python

/-- An account of a Provider; the client chooses it, or the Hub draws it. -/
abbrev AccountId := String

/-- The kind of a Provider. -/
abbrev Kind := String

/-! ### What is kept -/

/-- `AccountRecord`. -/
structure AccountRecord where
  accountId : AccountId
  ownerId : OwnerId
  kind : Kind
  label : String
  status : String
  error : Option String := none
  /-- value and label of each -/
  choices : List (String × String) := []
  createdAtMs : Millis := 0
  lastSeenMs : Option Millis := none
  deriving DecidableEq

instance : Keyed AccountRecord where
  clash r s := r.accountId = s.accountId
  clash_symm r s := by simp only [eq_comm]

/-- A row of the vault. Whose account it was put for is not in the vault, and nothing reads it. -/
structure Credential where
  accountId : AccountId
  name : String
  secret : String
  ownerId : OwnerId
  deriving DecidableEq

/-- The account and the name, under which a credential is kept. -/
def Credential.key (credential : Credential) : AccountId × String :=
  (credential.accountId, credential.name)

instance : Keyed Credential where
  clash r s := r.key = s.key
  clash_symm r s := by simp only [eq_comm]

/-- An open `HaConnection`, and for whom it was opened. -/
structure Connection where
  url : String
  token : String
  locationName : String
  ownerId : OwnerId
  deriving DecidableEq

/-- The entities of `_registry_cache`, and from whose connection they were read. -/
structure RegistryCache (ε : Type) where
  entities : List ε
  ownerId : OwnerId
  deriving DecidableEq

/-- `_Session`, without the tokens that the platform hands out. -/
structure Session where
  ownerId : OwnerId
  accountId : AccountId
  baseUrl : String
  appId : String
  appSecret : String
  userSecret : String
  homeId : Option String
  deriving DecidableEq

/-- Which devices were connected when the platform last listed them, and for whom it did. -/
structure Known where
  connected : List (String × Bool)
  ownerId : OwnerId
  deriving DecidableEq

/-- The kinds of accounts there are integrations for. -/
inductive Integration where
  | homeassistant | zhoubian
  deriving DecidableEq

/-- The kind that the accounts of an integration have. -/
def Integration.kind : Integration → Kind
  | homeassistant => "homeassistant"
  | zhoubian => "zhoubian"

/-- A task of `_observe`. -/
structure Observer where
  ownerId : OwnerId
  integration : Integration
  /-- It has looked its account up. -/
  begun : Bool := false
  /-- It waits for an answer from outside. -/
  asking : Bool := false
  done : Bool := false
  deriving DecidableEq

/-- How a step fails, by the exception. -/
inductive Failure where
  | bindError (code message : String)
  | smartHome (e : SmartHomeError)
  | other (text : String)
  deriving DecidableEq

/-- `ProviderAccount`. -/
structure ProviderAccount where
  accountId : AccountId
  kind : Kind
  label : String
  status : String
  lastSeenMs : Option Millis
  error : Option String
  choices : List (String × String)
  deriving DecidableEq

/-- `_account`. -/
def AccountRecord.account (record : AccountRecord) : ProviderAccount :=
  ⟨record.accountId, record.kind, record.label, record.status, record.lastSeenMs, record.error,
    record.choices⟩

/-- `SyncReport`. -/
structure SyncReport where
  added : List String
  updated : List String
  orphaned : List String
  /-- reference and reason of each -/
  skipped : List (String × String)
  revision : Nat
  deriving DecidableEq

/-- What the calls of an Owner ask for. -/
inductive Request where
  | bind (kind : Kind) (accountId : Option AccountId) (fields : List (String × String))
  | unbind (accountId : AccountId)
  | sync (accountId : AccountId)

/-- What a call is answered with. -/
inductive Answer where
  | bound (account : ProviderAccount)
  /-- `BindRefused`. -/
  | refused (code message : String)
  | removed
  /-- Not an account of this Owner. -/
  | notFound
  | synced (report : SyncReport)
  | raised (failure : Failure)
  deriving DecidableEq

/-- How far a call has come. -/
inductive Phase where
  | waiting
  /-- `connection.open()` of a binding. -/
  | opening (accountId : AccountId) (url token : String)
  /-- `old.close()` of a binding. -/
  | replacing (accountId : AccountId) (url token locationName : String)
  /-- The calls to the platform of a binding. -/
  | activating (accountId : AccountId) (fields : List (String × String)) (stored : Option String)
  /-- `connection.close()` of an unbinding. -/
  | closing (accountId : AccountId)
  | discovering (accountId : AccountId) (integration : Integration)
  | importing (provider : String) (found : List DiscoveredDevice)
  | answered (answer : Answer)
  /-- The process ended. -/
  | lost
  deriving DecidableEq

/-- A call of an Owner. -/
structure Call where
  ownerId : OwnerId
  number : Nat
  deriving DecidableEq

/-- The store, the service and its calls; of Data, the registry of each Owner. -/
structure State (ε ρ : Type) where
  accounts : Table AccountRecord
  credentials : Table Credential
  connections : AccountId → Option Connection
  owners : AccountId → Option OwnerId
  registryCache : AccountId → Option (RegistryCache ε)
  sessions : AccountId → Option Session
  known : AccountId → Option Known
  observers : AccountId → Option Observer
  registries : OwnerId → ρ
  phases : Call → Phase

/-- What the service is built with. -/
structure Setup (ε : Type) where
  enabled : List Integration
  /-- `discover` of the mapping. -/
  discover : List ε → List DiscoveredDevice
  /-- the text of an exception of the vocabulary -/
  errorText : SmartHomeError → String
  /-- what Unicode says of the characters outside ASCII -/
  printable : Char → Bool

/-- A home of the platform. -/
structure Home where
  homeId : String
  name : String
  deriving DecidableEq

/-- What the platform answers to a binding. -/
structure PlatformAnswers where
  /-- `_token` with the secret in the vault. -/
  token : Except Failure Unit
  /-- `_activate`: the `userSecret` that comes back, if one does. -/
  activation : Except Failure (Option String)
  /-- `_token` after an activation. -/
  activated : Except Failure Unit
  homes : Except Failure (List Home)

/-- What a step draws from outside. -/
structure Draws (ε ρ : Type) where
  /-- `secrets.token_hex(4)`. -/
  tokenHex : String
  nowMs : Millis
  /-- `HaConnection.open`, up to the name of the location. A `ConnectionFailed` is a `BindError`
  to those who bind. -/
  opened : Except Failure String
  platform : PlatformAnswers
  /-- the entities of `_entities` -/
  entities : Except Failure (List ε)
  /-- the devices of `_devices`, as they are discovered -/
  devices : Except Failure (List DiscoveredDevice)
  /-- the importer and Data, on the registry of one Owner -/
  imported : String → List DiscoveredDevice → ρ → Except Failure SyncReport × ρ

/-- What a start draws, by account. -/
structure StartDraws where
  nowMs : Millis
  opened : AccountId → Except Failure String
  platform : AccountId → PlatformAnswers

variable {ε ρ : Type}

/-- Nothing is bound, and no call is made. -/
def State.empty (registries : OwnerId → ρ) : State ε ρ where
  accounts := .empty
  credentials := .empty
  connections := fun _ => none
  owners := fun _ => none
  registryCache := fun _ => none
  sessions := fun _ => none
  known := fun _ => none
  observers := fun _ => none
  registries
  phases := fun _ => .waiting

/-! ### The table of accounts and the vault -/

/-- What the ON CONFLICT of `upsert` sets. -/
def AccountRecord.overwrite (record stored : AccountRecord) : AccountRecord :=
  { stored with
    label := record.label
    status := record.status
    error := record.error
    choices := record.choices
    lastSeenMs := record.lastSeenMs }

/-- What `set_status` sets. -/
def AccountRecord.mark (status : String) (error : Option String) (seenMs : Option Millis)
    (stored : AccountRecord) : AccountRecord :=
  { stored with status, error, lastSeenMs := seenMs.or stored.lastSeenMs }

/-- What the ON CONFLICT of `put` sets. -/
def Credential.replace (secret : String) (ownerId : OwnerId) (stored : Credential) : Credential :=
  { stored with secret, ownerId }

theorem AccountRecord.keeps_overwrite (record : AccountRecord) : Table.Keeps record.overwrite :=
  fun _ _ => rfl

theorem AccountRecord.keeps_mark (status : String) (error : Option String) (seenMs : Option Millis) :
    Table.Keeps (AccountRecord.mark status error seenMs) :=
  fun _ _ => rfl

theorem Credential.keeps_replace (secret : String) (ownerId : OwnerId) :
    Table.Keeps (Credential.replace secret ownerId) :=
  fun _ _ => rfl

namespace State

/-- `ProviderAccountStore.get`. -/
def account (s : State ε ρ) (ownerId : OwnerId) (accountId : AccountId) : Option AccountRecord :=
  s.accounts.rows.find? fun r => r.ownerId = ownerId ∧ r.accountId = accountId

/-- `ProviderAccountStore.upsert`. -/
def upsert (s : State ε ρ) (record : AccountRecord) (nowMs : Millis) : State ε ρ :=
  let stored := { record with
    createdAtMs := if record.createdAtMs = 0 then nowMs else record.createdAtMs }
  { s with
    accounts := s.accounts.upsert (·.accountId) stored record.overwrite
      (AccountRecord.keeps_overwrite record) }

/-- `ProviderAccountStore.set_status`; `seenMs` where the account was seen. -/
def setStatus (s : State ε ρ) (accountId : AccountId) (status : String) (error : Option String)
    (seenMs : Option Millis) : State ε ρ :=
  { s with
    accounts := s.accounts.modify (·.accountId) accountId
      (AccountRecord.mark status error seenMs) (AccountRecord.keeps_mark status error seenMs) }

/-- `ProviderAccountStore.delete`. -/
def deleteAccount (s : State ε ρ) (ownerId : OwnerId) (accountId : AccountId) : State ε ρ :=
  { s with
    accounts := s.accounts.filter fun r => ¬ (r.ownerId = ownerId ∧ r.accountId = accountId) }

/-- `CredentialVault.get`. -/
def secret (s : State ε ρ) (accountId : AccountId) (name : String) : Option String :=
  (s.credentials.get (·.key) (accountId, name)).map (·.secret)

/-- `CredentialVault.put`. -/
def put (s : State ε ρ) (ownerId : OwnerId) (accountId : AccountId) (name secret : String) :
    State ε ρ :=
  { s with
    credentials := s.credentials.upsert (·.key) ⟨accountId, name, secret, ownerId⟩
      (Credential.replace secret ownerId) (Credential.keeps_replace secret ownerId) }

/-- `CredentialVault.delete_all`. -/
def deleteSecrets (s : State ε ρ) (accountId : AccountId) : State ε ρ :=
  { s with credentials := s.credentials.filter fun c => ¬ c.accountId = accountId }

/-! ### What is kept in memory -/

/-- `_connections[account_id]` of the Home Assistant Provider. -/
def setConnection (s : State ε ρ) (accountId : AccountId) (connection : Option Connection) :
    State ε ρ :=
  { s with connections := Function.update s.connections accountId connection }

/-- `_owners[account_id]` of the Home Assistant Provider. -/
def setOwner (s : State ε ρ) (accountId : AccountId) (ownerId : Option OwnerId) : State ε ρ :=
  { s with owners := Function.update s.owners accountId ownerId }

/-- What is cached of the registry of an account. -/
def setRegistryCache (s : State ε ρ) (accountId : AccountId) (cache : Option (RegistryCache ε)) :
    State ε ρ :=
  { s with registryCache := Function.update s.registryCache accountId cache }

/-- `_sessions[account_id]` of the 周边好生活 Provider. -/
def setSession (s : State ε ρ) (accountId : AccountId) (session : Option Session) : State ε ρ :=
  { s with sessions := Function.update s.sessions accountId session }

/-- What the 周边好生活 Provider remembers of the devices of an account. -/
def setKnown (s : State ε ρ) (accountId : AccountId) (known : Option Known) : State ε ρ :=
  { s with known := Function.update s.known accountId known }

/-- The task that observes an account. -/
def setObserver (s : State ε ρ) (accountId : AccountId) (observer : Option Observer) : State ε ρ :=
  { s with observers := Function.update s.observers accountId observer }

/-- `AccountService._observe`. -/
def observe (s : State ε ρ) (ownerId : OwnerId) (accountId : AccountId) (integration : Integration) :
    State ε ρ :=
  if (s.observers accountId).any fun task => ¬ task.done then s
  else s.setObserver accountId (some { ownerId, integration })

/-- `HomeAssistantProvider._connection`. -/
def connection (s : State ε ρ) (ownerId : OwnerId) (accountId : AccountId) :
    Except Failure Connection :=
  match s.connections accountId with
  | some connection =>
    if s.owners accountId = some ownerId then .ok connection
    else .error (.smartHome ⟨errorDeviceOffline, "account " ++ accountId ++ " is not bound"⟩)
  | none => .error (.smartHome ⟨errorDeviceOffline, "account " ++ accountId ++ " is not bound"⟩)

/-- `ZhoubianProvider._session`. -/
def session (s : State ε ρ) (ownerId : OwnerId) (accountId : AccountId) : Except Failure Session :=
  match s.sessions accountId with
  | some session =>
    if session.ownerId = ownerId then .ok session
    else .error (.smartHome ⟨errorDeviceOffline, "account " ++ accountId ++ " is not bound"⟩)
  | none => .error (.smartHome ⟨errorDeviceOffline, "account " ++ accountId ++ " is not bound"⟩)

end State

/-! ### Binding at Home Assistant -/

/-- `fields.get(name) or ""`. -/
def fieldOr (fields : List (String × String)) (name : String) : String :=
  ((fields.find? (·.1 = name)).map (·.2)).getD ""

/-- The checks of `HomeAssistantProvider.bind`. -/
def checkHomeAssistant (fields : List (String × String)) : Except (String × String) (String × String) :=
  let url := strip (fieldOr fields "url")
  let token := strip (fieldOr fields "token")
  if url = "" ∨ token = "" then .error ("MISSING_FIELDS", "需要地址和长效访问令牌")
  else if ¬ (startsWith "http://" url ∨ startsWith "https://" url) then
    .error ("INVALID_URL", "地址要以 http:// 或 https:// 开头")
  else .ok (url, token)

/-- The record of an account that was just connected. -/
def homeAssistantRecord (ownerId : OwnerId) (accountId : AccountId) (connection : Connection)
    (nowMs : Millis) : AccountRecord where
  accountId
  ownerId
  kind := Integration.homeassistant.kind
  label := sliceTo 64 connection.locationName
  status := "connected"
  lastSeenMs := some nowMs

/-- `HomeAssistantProvider.bind`, once no other connection is there. -/
def bindHomeAssistant (s : State ε ρ) (ownerId : OwnerId) (accountId : AccountId)
    (connection : Connection) (nowMs : Millis) : State ε ρ :=
  ((((s.setConnection accountId (some connection)).setOwner accountId (some ownerId)).put
    ownerId accountId "url" connection.url).put ownerId accountId "token" connection.token).upsert
    (homeAssistantRecord ownerId accountId connection nowMs) nowMs

/-! ### Binding at the platform -/

/-- The checks of `ZhoubianProvider.bind`. -/
def checkZhoubian (fields : List (String × String)) : Except (String × String) Unit :=
  let missing := ["base_url", "app_id", "app_secret", "phone"].filter (fieldOr fields · = "")
  if missing ≠ [] then .error ("MISSING_FIELDS", "缺少：" ++ "、".intercalate missing)
  else if ¬ isBase64 (fieldOr fields "app_secret") then
    .error ("INVALID_APP_SECRET", "appSecret 不是 base64")
  else .ok ()

/-- `_activate`, then `_token`. -/
def activate (answers : PlatformAnswers) : Except Failure String := do
  let userSecret := (← answers.activation).getD ""
  if userSecret = "" then throw (.bindError "ACTIVATE_FAILED" "平台未返回 userSecret")
  answers.activated
  return userSecret

/-- The secret the session goes on with: the one in the vault, unless the platform refuses it. -/
def userSecret (stored : Option String) (answers : PlatformAnswers) : Except Failure String :=
  match stored with
  | none => activate answers
  | some secret =>
    if secret = "" then activate answers
    else match answers.token with
      | .ok _ => .ok secret
      | .error (.bindError _ _) => activate answers
      | .error failure => .error failure

/-- `fields.get("home_id") or None`, or the only home there is. -/
def chosenHome (fields : List (String × String)) (homes : List Home) : Option String :=
  match fieldOr fields "home_id", homes with
  | "", [home] => some home.homeId
  | "", _ => none
  | homeId, _ => some homeId

/-- The session of a binding, and the homes of the account. -/
def openSession (ownerId : OwnerId) (accountId : AccountId) (fields : List (String × String))
    (stored : Option String) (answers : PlatformAnswers) : Except Failure (Session × List Home) := do
  let userSecret ← userSecret stored answers
  let homes ← answers.homes
  return ({
    ownerId
    accountId
    baseUrl := rstripChar '/' (fieldOr fields "base_url")
    appId := fieldOr fields "app_id"
    appSecret := fieldOr fields "app_secret"
    userSecret
    homeId := chosenHome fields homes }, homes)

/-- The record of a binding; pending until a home is chosen. -/
def zhoubianRecord (session : Session) (homes : List Home) (nowMs : Millis) : AccountRecord :=
  let record : AccountRecord := {
    accountId := session.accountId
    ownerId := session.ownerId
    kind := Integration.zhoubian.kind
    label := "周边好生活"
    status := "pending"
    choices := homes.map fun home => (home.homeId, home.name) }
  match session.homeId with
  | none => record
  | some homeId => { record with
      label := ((homes.find? (·.homeId = homeId)).map (·.name)).getD "周边好生活"
      status := "connected"
      choices := []
      lastSeenMs := some nowMs }

/-- What the vault keeps of a binding. -/
def zhoubianSecrets (session : Session) (phone : String) : List (String × String) :=
  [("base_url", session.baseUrl), ("app_id", session.appId), ("app_secret", session.appSecret),
    ("phone", phone), ("user_secret", session.userSecret), ("home_id", session.homeId.getD "")]

/-- `ZhoubianProvider.bind`, once the platform has answered. -/
def bindZhoubian (s : State ε ρ) (session : Session) (phone : String) (homes : List Home)
    (nowMs : Millis) : State ε ρ :=
  let kept := (zhoubianSecrets session phone).foldl
    (fun s (name, value) => s.put session.ownerId session.accountId name value) s
  (kept.setSession session.accountId (some session)).upsert (zhoubianRecord session homes nowMs) nowMs

/-! ### Calls of the service -/

variable (setup : Setup ε)

/-- The integration of an enabled kind. -/
def Setup.integration (kind : Kind) : Option Integration := setup.enabled.find? (·.kind = kind)

/-- `str(exc)`. -/
def Setup.text : Failure → String
  | .bindError code message => code ++ ": " ++ message
  | .smartHome e => setup.errorText e
  | .other text => text

/-- A `BindError` is refused, any other exception goes through. -/
def Failure.answer : Failure → Answer
  | bindError code message => .refused code message
  | failure => .raised failure

/-- `account_id or f"acc_{secrets.token_hex(4)}"`. -/
def namedOr (accountId : Option AccountId) (tokenHex : String) : AccountId :=
  match accountId with
  | none => "acc_" ++ tokenHex
  | some accountId => if accountId = "" then "acc_" ++ tokenHex else accountId

/-- `AccountService.bind`, up to the first answer from outside. -/
def beginBind (s : State ε ρ) (ownerId : OwnerId) (kind : Kind) (accountId : AccountId)
    (fields : List (String × String)) : Phase :=
  match setup.integration kind with
  | none =>
    .answered (.refused "UNKNOWN_PROVIDER"
      ("no provider of kind " ++ repr setup.printable kind ++ " is enabled"))
  | some integration =>
    if (s.account ownerId accountId).any (·.kind ≠ kind) then
      .answered (.refused "ACCOUNT_KIND_MISMATCH" "that account belongs to another provider")
    else match integration with
      | .homeassistant =>
        match checkHomeAssistant fields with
        | .error (code, message) => .answered (.refused code message)
        | .ok (url, token) => .opening accountId url token
      | .zhoubian =>
        match checkZhoubian fields with
        | .error (code, message) => .answered (.refused code message)
        | .ok () => .activating accountId fields (s.secret accountId "user_secret")

/-- What is left of `AccountService.bind` once the Provider has bound the account. -/
def bound (s : State ε ρ) (integration : Integration) (record : AccountRecord) : State ε ρ × Phase :=
  (if record.status = "connected" then s.observe record.ownerId record.accountId integration else s,
    .answered (.bound record.account))

/-- The end of a binding at Home Assistant. -/
def finishHomeAssistant (s : State ε ρ) (ownerId : OwnerId) (accountId : AccountId)
    (connection : Connection) (nowMs : Millis) : State ε ρ × Phase :=
  bound (bindHomeAssistant s ownerId accountId connection nowMs) .homeassistant
    (homeAssistantRecord ownerId accountId connection nowMs)

/-- A binding at Home Assistant, once the connection is open. -/
def openedHomeAssistant (s : State ε ρ) (ownerId : OwnerId) (accountId : AccountId)
    (connection : Connection) (nowMs : Millis) : State ε ρ × Phase :=
  match s.connections accountId with
  | none => finishHomeAssistant s ownerId accountId connection nowMs
  | some _ =>
    (s.setConnection accountId none,
      .replacing accountId connection.url connection.token connection.locationName)

/-- The end of a binding at the platform. -/
def finishZhoubian (s : State ε ρ) (session : Session) (phone : String) (homes : List Home)
    (nowMs : Millis) : State ε ρ × Phase :=
  bound (bindZhoubian s session phone homes nowMs) .zhoubian (zhoubianRecord session homes nowMs)

/-- `HomeAssistantProvider.unbind`, once the connection is closed. -/
def unbindHomeAssistant (s : State ε ρ) (ownerId : OwnerId) (accountId : AccountId) : State ε ρ :=
  (((s.setOwner accountId none).setRegistryCache accountId none).deleteSecrets accountId).deleteAccount
    ownerId accountId

/-- `ZhoubianProvider.unbind`. -/
def unbindZhoubian (s : State ε ρ) (ownerId : OwnerId) (accountId : AccountId) : State ε ρ :=
  (((s.setSession accountId none).setKnown accountId none).deleteSecrets accountId).deleteAccount
    ownerId accountId

/-- `AccountService.unbind` of an account that was found. -/
def unbindAccount (s : State ε ρ) (ownerId : OwnerId) (accountId : AccountId) (kind : Kind) :
    State ε ρ × Phase :=
  let s := s.setObserver accountId none
  match setup.integration kind with
  | none => (s.deleteAccount ownerId accountId, .answered .removed)
  | some .homeassistant =>
    match s.connections accountId with
    | none => (unbindHomeAssistant s ownerId accountId, .answered .removed)
    | some _ => (s.setConnection accountId none, .closing accountId)
  | some .zhoubian => (unbindZhoubian s ownerId accountId, .answered .removed)

/-- `AccountService.unbind`. -/
def beginUnbind (s : State ε ρ) (ownerId : OwnerId) (accountId : AccountId) : State ε ρ × Phase :=
  match s.account ownerId accountId with
  | none => (s, .answered .notFound)
  | some record => unbindAccount setup s ownerId accountId record.kind

/-- The beginning of `discover`. -/
def beginDiscover (s : State ε ρ) (ownerId : OwnerId) (accountId : AccountId) :
    Integration → Except Failure Unit
  | .homeassistant => (s.connection ownerId accountId).map fun _ => ()
  | .zhoubian => do
    let session ← s.session ownerId accountId
    if session.homeId = none then throw (.bindError "HOME_NOT_CHOSEN" "请先选择家庭")

/-- `AccountService.sync`, up to the first answer from outside. -/
def beginSync (s : State ε ρ) (ownerId : OwnerId) (accountId : AccountId) : Phase :=
  match s.account ownerId accountId with
  | none => .answered .notFound
  | some record =>
    match setup.integration record.kind with
    | none =>
      .answered (.refused "UNKNOWN_PROVIDER"
        ("provider " ++ repr setup.printable record.kind ++ " is not enabled"))
    | some integration =>
      match beginDiscover s ownerId accountId integration with
      | .error failure => .answered failure.answer
      | .ok () => .discovering accountId integration

/-- What `discover` remembers. -/
def State.discovered (s : State ε ρ) (ownerId : OwnerId) (accountId : AccountId)
    (found : List DiscoveredDevice) : State ε ρ :=
  s.setKnown accountId (some ⟨found.map fun device => (device.externalRef, device.reachable), ownerId⟩)

/-- `AccountService.sync`, once the account has listed what it has. -/
def finishDiscover (s : State ε ρ) (ownerId : OwnerId) (accountId : AccountId)
    (draws : Draws ε ρ) : Integration → State ε ρ × Phase
  | .homeassistant =>
    match draws.entities with
    | .error failure => (s, .answered failure.answer)
    | .ok entities =>
      (s.setRegistryCache accountId (some ⟨entities, ownerId⟩),
        .importing (Integration.homeassistant.kind ++ ":" ++ accountId) (setup.discover entities))
  | .zhoubian =>
    match draws.devices with
    | .error failure => (s, .answered failure.answer)
    | .ok found =>
      (s.discovered ownerId accountId found,
        .importing (Integration.zhoubian.kind ++ ":" ++ accountId) found)

/-- `RegistryImporter.sync`, on the registry of the Owner. -/
def finishImport (s : State ε ρ) (ownerId : OwnerId) (provider : String)
    (found : List DiscoveredDevice) (draws : Draws ε ρ) : State ε ρ × Phase :=
  let imported := draws.imported provider found (s.registries ownerId)
  ({ s with registries := Function.update s.registries ownerId imported.2 },
    .answered (match imported.1 with
      | .error failure => failure.answer
      | .ok report => .synced report))

/-- What a call does next. -/
def act (requests : Call → Request) (s : State ε ρ) (call : Call) (draws : Draws ε ρ) :
    State ε ρ × Phase :=
  match s.phases call with
  | .waiting =>
    match requests call with
    | .bind kind accountId fields =>
      (s, beginBind setup s call.ownerId kind (namedOr accountId draws.tokenHex) fields)
    | .unbind accountId => beginUnbind setup s call.ownerId accountId
    | .sync accountId => (s, beginSync setup s call.ownerId accountId)
  | .opening accountId url token =>
    match draws.opened with
    | .error failure => (s, .answered failure.answer)
    | .ok locationName =>
      openedHomeAssistant s call.ownerId accountId ⟨url, token, locationName, call.ownerId⟩ draws.nowMs
  | .replacing accountId url token locationName =>
    finishHomeAssistant s call.ownerId accountId ⟨url, token, locationName, call.ownerId⟩ draws.nowMs
  | .activating accountId fields stored =>
    match openSession call.ownerId accountId fields stored draws.platform with
    | .error failure => (s, .answered failure.answer)
    | .ok (session, homes) => finishZhoubian s session (fieldOr fields "phone") homes draws.nowMs
  | .closing accountId => (unbindHomeAssistant s call.ownerId accountId, .answered .removed)
  | .discovering accountId integration =>
    finishDiscover setup s call.ownerId accountId draws integration
  | .importing provider found => finishImport s call.ownerId provider found draws
  | .answered answer => (s, .answered answer)
  | .lost => (s, .lost)

/-! ### The tasks that observe -/

/-- An exception of a poll is logged and marks the account. -/
def pollFailed (s : State ε ρ) (accountId : AccountId) (failure : Failure) : State ε ρ :=
  s.setStatus accountId "degraded" (some (sliceTo 200 (setup.text failure))) none

/-- The loop of `observe`, up to the next answer from outside. -/
def beginPoll (s : State ε ρ) (accountId : AccountId) (task : Observer) : State ε ρ :=
  let ended := s.setObserver accountId (some { task with done := true })
  let asked := s.setObserver accountId (some { task with begun := true, asking := true })
  match task.integration with
  | .homeassistant =>
    if ¬ task.begun ∧ ¬ (s.connection task.ownerId accountId).isOk then ended
    else if s.connections accountId = none then ended
    else asked
  | .zhoubian =>
    if s.sessions accountId = none then ended
    else match beginDiscover s task.ownerId accountId .zhoubian with
      | .error failure => pollFailed setup s accountId failure
      | .ok () => asked

/-- The rest of a round of `observe`. -/
def finishPoll (s : State ε ρ) (accountId : AccountId) (task : Observer) (draws : Draws ε ρ) :
    State ε ρ :=
  let asked := s.setObserver accountId (some { task with asking := false })
  match task.integration with
  | .homeassistant =>
    match draws.opened with
    | .ok _ => asked.setStatus accountId "connected" none (some draws.nowMs)
    | .error (.bindError _ message) =>
      asked.setStatus accountId "degraded" (some (sliceTo 200 message)) none
    | .error _ => s.setObserver accountId (some { task with done := true })
  | .zhoubian =>
    match draws.devices with
    | .ok found =>
      (asked.discovered task.ownerId accountId found).setStatus accountId "connected" none
        (some draws.nowMs)
    | .error failure => pollFailed setup asked accountId failure

/-- The task of an account takes its next step. -/
def poll (s : State ε ρ) (accountId : AccountId) (draws : Draws ε ρ) : State ε ρ :=
  match s.observers accountId with
  | none => s
  | some task =>
    if task.done then s
    else if task.asking then finishPoll setup s accountId task draws
    else beginPoll setup s accountId task

/-! ### A new process -/

/-- What is left of a call when the process ends. -/
def Phase.afterRestart : Phase → Phase
  | waiting => .waiting
  | answered answer => .answered answer
  | _ => .lost

/-- The process ends; nothing in memory outlives it. -/
def restart (s : State ε ρ) : State ε ρ where
  accounts := s.accounts
  credentials := s.credentials
  connections := fun _ => none
  owners := fun _ => none
  registryCache := fun _ => none
  sessions := fun _ => none
  known := fun _ => none
  observers := fun _ => none
  registries := s.registries
  phases := fun call => (s.phases call).afterRestart

/-- `ORDER BY created_at_ms`. -/
def AccountRecord.NotLater (r r' : AccountRecord) : Prop := r.createdAtMs ≤ r'.createdAtMs

instance : DecidableRel AccountRecord.NotLater := fun r r' =>
  inferInstanceAs (Decidable (r.createdAtMs ≤ r'.createdAtMs))

instance : IsTrans AccountRecord AccountRecord.NotLater := ⟨fun _ _ _ => Int.le_trans⟩

instance : Std.Total AccountRecord.NotLater := ⟨fun r r' => Int.le_total r.createdAtMs r'.createdAtMs⟩

/-- `ProviderAccountStore.all`. -/
def State.all (s : State ε ρ) : List AccountRecord :=
  s.accounts.rows.insertionSort AccountRecord.NotLater

/-- The fields a Provider has kept. -/
def State.keptFields (s : State ε ρ) (accountId : AccountId) (names : List String) :
    List (String × String) :=
  names.map fun name => (name, (s.secret accountId name).getD "")

/-- One account of `HomeAssistantProvider.restore`; an exception other than a `BindError` ends it. -/
def restoreHomeAssistant (draws : StartDraws) (s : State ε ρ) (record : AccountRecord) :
    Option (State ε ρ) :=
  let degraded (message : String) :=
    some (s.setStatus record.accountId "degraded" (some (sliceTo 200 message)) none)
  match checkHomeAssistant (s.keptFields record.accountId ["url", "token"]) with
  | .error (_, message) => degraded message
  | .ok (url, token) =>
    match draws.opened record.accountId with
    | .error (.bindError _ message) => degraded message
    | .error _ => none
    | .ok locationName =>
      some (bindHomeAssistant s record.ownerId record.accountId ⟨url, token, locationName, record.ownerId⟩
        draws.nowMs)

/-- One account of `ZhoubianProvider.restore`. -/
def restoreZhoubian (draws : StartDraws) (s : State ε ρ) (record : AccountRecord) :
    Option (State ε ρ) :=
  let fields := s.keptFields record.accountId ["base_url", "app_id", "app_secret", "phone", "home_id"]
  match checkZhoubian fields with
  | .error (code, message) => some (pollFailed setup s record.accountId (.bindError code message))
  | .ok () =>
    match openSession record.ownerId record.accountId fields (s.secret record.accountId "user_secret")
      (draws.platform record.accountId) with
    | .error failure => some (pollFailed setup s record.accountId failure)
    | .ok (session, homes) => some (bindZhoubian s session (fieldOr fields "phone") homes draws.nowMs)

/-- What a start brings back of one account; none where the exception ends the loop of its Provider. -/
def restoreAccount (draws : StartDraws) : Integration → State ε ρ → AccountRecord → Option (State ε ρ)
  | .homeassistant => restoreHomeAssistant draws
  | .zhoubian => restoreZhoubian setup draws

/-- One after the other, until an exception. -/
def restoreEach (restore : State ε ρ → AccountRecord → Option (State ε ρ)) :
    State ε ρ → List AccountRecord → State ε ρ
  | s, [] => s
  | s, record :: records =>
    match restore s record with
    | none => s
    | some s' => restoreEach restore s' records

/-- The accounts a Provider brings back. -/
def State.toRestore (s : State ε ρ) (integration : Integration) : List AccountRecord :=
  s.all.filter fun r => r.kind = integration.kind ∧ r.status ≠ "revoked"

/-- `restore` of a Provider. -/
def restore (draws : StartDraws) (s : State ε ρ) (integration : Integration) : State ε ρ :=
  restoreEach (restoreAccount setup draws integration) s (s.toRestore integration)

/-- The account is observed again. -/
def resume (s : State ε ρ) (record : AccountRecord) : State ε ρ :=
  if record.status = "connected" ∨ record.status = "degraded" then
    match setup.integration record.kind with
    | none => s
    | some integration => s.observe record.ownerId record.accountId integration
  else s

/-- `AccountService.start`. -/
def start (s : State ε ρ) (draws : StartDraws) : State ε ρ :=
  let restored := run (restore setup draws) s setup.enabled
  run (resume setup) restored restored.all

/-! ### Steps -/

/-- A step of the service: of a call, of a task that observes an account, or of the process. -/
inductive Step (ε ρ : Type) where
  | turn (call : Call) (draws : Draws ε ρ)
  | poll (accountId : AccountId) (draws : Draws ε ρ)
  | restart
  | start (draws : StartDraws)

/-- Whose call takes the step. -/
def Step.ownerId : Step ε ρ → Option OwnerId
  | turn call _ => some call.ownerId
  | _ => none

/-- The service after a step. -/
def step (requests : Call → Request) (s : State ε ρ) : Step ε ρ → State ε ρ
  | .turn call draws =>
    let next := act setup requests s call draws
    { next.1 with phases := Function.update s.phases call next.2 }
  | .poll accountId draws => poll setup s accountId draws
  | .restart => restart s
  | .start draws => start setup s draws

end EidolonHub.SmartHome.Accounts
