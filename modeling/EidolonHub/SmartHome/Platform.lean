import EidolonHub.Library.Query
import EidolonHub.SmartHome.Zhoubian
import Mathlib.Data.Nat.Digits.Defs

/-!
# EidolonHub.SmartHome.Platform

**The 周边好生活 platform**, as its stand-in `cloud_mock` speaks protocol v1.0.5: who is given a token,
which token is let in, and what an instruction in words switches.
-/

namespace EidolonHub.SmartHome.Zhoubian

open EidolonHub.Library EidolonHub.Library.Python EidolonHub.Library.Query

/-! ### The protocol -/

/-- The request was let in and answered; what came of an instruction is in its status. -/
def codeOk : Int := 0

/-- The platform does not know the token. -/
def codeUnauthorized : Int := 401

/-- The token has expired, or is of no use any more. -/
def codeInvalidToken : Int := 30106

/-- The instruction was carried out. -/
def controlOk : Int := 0

/-- The words are no instruction. -/
def controlNoReply : Int := 1001

/-- The home has no devices. -/
def controlNoDevicesBound : Int := 1002

/-- No device fits the words. -/
def controlNoMatch : Int := 1003

/-- None of the devices that fit is connected. -/
def controlDeviceOffline : Int := 1005

/-- Some of the devices that fit are not connected. -/
def controlSomeOffline : Int := 1007

/-- The scope that instructions need. -/
def scopeControl : String := "cloud_write"

/-- The grant for a signature by the user secret. -/
def grantHmac : String := "hmac_sign"

/-- The grant for a refresh token. -/
def grantRefresh : String := "refresh_token"

/-- What the protocol signs with. -/
structure Signing where
  /-- `hmac_sign` of the joined fields; none where the secret cannot be decoded. -/
  hmacSign : String → String → Option String
  basicAuthorization : String → String → String
  sha256Hex : String → String
  /-- A signature is Base64. -/
  ascii : ∀ secret text sign, hmacSign secret text = some sign → ∀ c ∈ sign.toList, c.toNat < 128

/-- `time.time()` in milliseconds, of a clock that counts in 64 bits. -/
abbrev Clock := Fin (2 ^ 63)

/-- `int(time.time())` -/
def Clock.timestamp (now : Clock) : Int := (now.val / 1000 : Nat)

variable (signing : Signing)

/-- `sign_password` -/
def signPassword (userSecret appId : String) (timestamp : Int) (userId : String) : Option String :=
  signing.hmacSign userSecret (appId ++ grantHmac ++ toString timestamp ++ userId)

/-- `password` -/
def password (userSecret appId : String) (timestamp : Int) (userId : String) : Option String :=
  (signPassword signing userSecret appId timestamp userId).map fun sign =>
    "appId=" ++ appId ++ "&secureMode=" ++ grantHmac ++ "&timestamp=" ++ toString timestamp ++
      "&userId=" ++ userId ++ "&sign=" ++ quote sign

/-- `username` -/
def username (appId userId : String) : String := appId ++ "." ++ userId

/-- `derive_user_id` -/
def deriveUserId (hostIdentity : String) : String :=
  sliceTo 32 ("eid" ++ signing.sha256Hex hostIdentity)

/-! ### The password -/

section Password

variable {signing : Signing} {userSecret appId userId text : String} {now : Clock}

/-- The password, field by field. -/
theorem password_eq {timestamp : Int} (h : password signing userSecret appId timestamp userId = some text) :
    ∃ sign, signPassword signing userSecret appId timestamp userId = some sign ∧
      text = withField (withField (withField (withField ("appId=" ++ appId) "secureMode" grantHmac)
        "timestamp" (toString timestamp)) "userId" userId) "sign" (quote sign) := by
  obtain ⟨sign, hsign, rfl⟩ := Option.map_eq_some_iff.mp h
  refine ⟨sign, hsign, String.ext ?_⟩
  unfold withField
  simp [String.toList_append, List.append_assoc]

theorem not_mem_part {name value : String} (hname : '&' ∉ name.toList) (hvalue : '&' ∉ value.toList) :
    '&' ∉ (name ++ "=" ++ value).toList := by
  rw [String.toList_append, String.toList_append, List.mem_append, List.mem_append]
  rintro ((h | h) | h)
  · exact hname h
  · exact absurd h (by decide)
  · exact hvalue h

theorem not_mem_timestamp (now : Clock) : '&' ∉ (toString now.timestamp).toList := by
  have hchars : (toString now.timestamp).toList = Nat.toDigits 10 (now.val / 1000) := Nat.toList_repr
  rw [hchars]
  intro h
  exact absurd (Nat.isDigit_of_mem_toDigits (by decide) (by decide) h) (by decide)

/-- **What the adapter signs, the platform reads**, whatever the app id is. -/
theorem password_fields (unicode : Unicode) (huser : '&' ∉ userId.toList)
    (h : password signing userSecret appId now.timestamp userId = some text) :
    ∃ sign, signPassword signing userSecret appId now.timestamp userId = some sign ∧
      field "secureMode" text = some grantHmac ∧
      (field "timestamp" text).bind (intOfText unicode) = some now.timestamp ∧
      unquote ((field "sign" text).getD "") = some sign := by
  obtain ⟨sign, hsign, rfl⟩ := password_eq h
  have hquote : '&' ∉ (quote sign).toList := not_mem_quote (by decide) (by decide) (by decide) sign
  have hlength : (Nat.toDigits 10 (now.val / 1000)).length ≤ 4300 := by
    refine Nat.le_trans ((Nat.length_toDigits_le_iff (by decide) (by decide)).mpr ?_) (by decide : 19 ≤ 4300)
    have hlt := now.isLt
    omega
  refine ⟨sign, hsign, ?_, ?_, ?_⟩
  · rw [field_withField _ (by decide) (not_mem_part (by decide) hquote), if_neg (by decide),
      field_withField _ (by decide) (not_mem_part (by decide) huser), if_neg (by decide),
      field_withField _ (by decide) (not_mem_part (by decide) (not_mem_timestamp now)), if_neg (by decide),
      field_withField _ (by decide) (by decide), if_pos rfl]
  · rw [field_withField _ (by decide) (not_mem_part (by decide) hquote), if_neg (by decide),
      field_withField _ (by decide) (not_mem_part (by decide) huser), if_neg (by decide),
      field_withField _ (by decide) (not_mem_part (by decide) (not_mem_timestamp now)), if_pos rfl]
    rw [Option.bind_some, Clock.timestamp, intOfText_toString hlength]
  · rw [field_withField _ (by decide) (not_mem_part (by decide) hquote), if_pos rfl, Option.getD_some]
    exact unquote_quote (signing.ascii _ _ _ hsign)

end Password

/-! ### Requests and replies -/

/-- What is posted for a token. -/
structure TokenForm where
  grantType : Option String := none
  username : Option String := none
  password : Option String := none
  refreshToken : Option String := none
  scope : Option String := none
  deriving DecidableEq

/-- What is asked with a token. -/
inductive Query where
  | homes
  | devices (homeId : String)
  | control (query : String) (homeId : Option String)
  deriving DecidableEq

/-- A request of the Provider to the platform. -/
inductive Request where
  /-- `PATH_TOKEN` or `PATH_REFRESH`: one endpoint -/
  | token (form : TokenForm) (authorization : String)
  | api (query : Query) (authorization : String)
  deriving DecidableEq

/-- `data` of an envelope. -/
inductive Data where
  | none
  | grant (accessToken refreshToken : String) (expiresIn : Nat)
  | homes (homes : List (String × String))
  | devices (rows : List PlatformRow)
  | control (status : Int) (answer : String)

/-- What the platform answers with. -/
structure Envelope where
  code : Int
  msg : String := ""
  data : Data := .none

/-! ### The tenant -/

/-- A device of the platform. -/
structure MockDevice where
  deviceId : String
  resourceId : Option String
  productName : String
  deviceName : String
  place : String
  connected : Bool := true
  on : Bool := false
  deriving DecidableEq

/-- What the device list says of a device. -/
def MockDevice.row (device : MockDevice) : PlatformRow where
  id := ⟨device.deviceId, device.resourceId⟩
  deviceName := some device.deviceName
  productName := some device.productName
  place := some device.place
  connected := device.connected

/-- What the platform keeps of one app: its accounts, its homes and devices, and the tokens it has
issued. -/
structure MockTenant where
  appId : String
  appSecret : String
  /-- in the order of the iteration -/
  phones : List String
  userSecrets : String → Option String := fun _ => none
  /-- the user and the expiry of an access token -/
  tokens : String → Option (String × Nat) := fun _ => none
  refresh : String → Option String := fun _ => none
  /-- in the order of the dictionary -/
  homes : List (String × String) := []
  devices : String → Option (List MockDevice) := fun _ => none
  scopes : String → Option String := fun _ => none

/-- What the platform draws and reads while it answers. -/
structure PlatformDraws where
  now : Clock
  accessToken : String
  refreshToken : String

/-- `ACCESS_TTL_S`, in milliseconds -/
def accessTtlMs : Nat := 7199 * 1000

/-- An answer that refuses. -/
def refusal (code : Int) (msg : String) : Envelope := { code, msg }

namespace MockTenant

/-- `issue`; the envelope is absent where there is no phone to name in it. -/
def issue (tenant : MockTenant) (userId scope : String) (draws : PlatformDraws) :
    MockTenant × Option Envelope :=
  ({ tenant with
      tokens := Function.update tenant.tokens draws.accessToken (some (userId, draws.now.val + accessTtlMs))
      refresh := Function.update tenant.refresh draws.refreshToken (some userId)
      scopes := Function.update tenant.scopes draws.accessToken (some scope) },
    tenant.phones.head?.map fun _ =>
      { code := codeOk, data := .grant draws.accessToken draws.refreshToken 7199 })

/-- The `refresh_token` branch of `token_endpoint`. -/
def refreshGrant (tenant : MockTenant) (form : TokenForm) (draws : PlatformDraws) :
    MockTenant × Option Envelope :=
  match tenant.refresh (form.refreshToken.getD "") with
  | none => (tenant, some (refusal 401 "refresh_token 无效"))
  | some user =>
    { tenant with refresh := Function.update tenant.refresh (form.refreshToken.getD "") none }.issue
      user (form.scope.getD "") draws

/-- The `hmac_sign` branch of `token_endpoint`. -/
def hmacGrant (unicode : Unicode) (tenant : MockTenant) (form : TokenForm) (draws : PlatformDraws) :
    MockTenant × Option Envelope :=
  let named := partition '.' (form.username.getD "")
  match tenant.userSecrets named.2.2 with
  | none => (tenant, some (refusal 401 "账号未登录"))
  | some secret =>
    if named.1 ≠ tenant.appId then (tenant, some (refusal 401 "账号未登录"))
    else
      let fields := form.password.getD ""
      match (field "timestamp" fields).bind (intOfText unicode) with
      | none => (tenant, some (refusal 400 "password 格式错误"))
      | some timestamp =>
        match signPassword signing secret named.1 timestamp named.2.2 with
        | none => (tenant, none)
        | some expected =>
          if unquote ((field "sign" fields).getD "") ≠ some expected ∨
              field "secureMode" fields ≠ some grantHmac then
            (tenant, some (refusal 401 "签名错误"))
          else tenant.issue named.2.2 (form.scope.getD "") draws

/-- `token_endpoint` -/
def tokenEndpoint (unicode : Unicode) (tenant : MockTenant) (form : TokenForm) (authorization : String)
    (draws : PlatformDraws) : MockTenant × Option Envelope :=
  if authorization ≠ signing.basicAuthorization tenant.appId tenant.appSecret then
    (tenant, some (refusal 401 "账号未登录"))
  else if form.grantType = some grantRefresh then tenant.refreshGrant form draws
  else if form.grantType = some grantHmac then tenant.hmacGrant signing unicode form draws
  else (tenant, some (refusal 400 "grant_type 不支持"))

/-- `bearer`: the scope of the token, or the envelope that refuses it. -/
def bearer (tenant : MockTenant) (authorization : String) (now : Clock) : Except Envelope String :=
  let token := strip (removePrefix "Bearer " authorization)
  match tenant.tokens token with
  | none => .error (refusal codeUnauthorized "账号未登录")
  | some (_, expiry) =>
    if expiry < now.val then .error (refusal codeInvalidToken "无效 access_token")
    else .ok ((tenant.scopes token).getD "")

/-! ### An instruction in words -/

/-- The words that switch something on. -/
def onWords : List String := ["打开", "开启", "开一下", "开灯"]

/-- The words that switch something off. -/
def offWords : List String := ["关闭", "关掉", "关上", "关灯"]

/-- `turn_on` and `turn_off` -/
def turnOnOff (query : String) : Bool × Bool :=
  let turnOn := onWords.any (isIn · query)
  let turnOff := offWords.any (isIn · query)
  if ¬ (turnOn ∨ turnOff) ∧ (startsWith "开" query ∨ startsWith "关" query) then
    (startsWith "开" query, startsWith "关" query)
  else (turnOn, turnOff)

/-- A device that the words name. -/
def named (query : String) (device : MockDevice) : Bool :=
  device.deviceName ≠ "" && isIn device.deviceName query

/-- A device whose room and product the words name. -/
def placed (query : String) (device : MockDevice) : Bool :=
  isIn device.place query && isIn device.productName query

/-- Whether a device is one of `targets`. -/
def isTarget (devices : List MockDevice) (query : String) (device : MockDevice) : Bool :=
  if devices.any (named query) then named query device else placed query device

/-- What an instruction has switched. -/
structure Switch where
  on : Bool
  targets : List MockDevice
  deriving DecidableEq

/-- What the platform answers to an instruction, and what it has switched before it answers. -/
structure Controlled where
  tenant : MockTenant
  reply : Option Envelope
  switched : Option Switch := none

/-- The home an instruction is about: the one it names, or the first. -/
def home (tenant : MockTenant) (homeId : Option String) : Option String :=
  (homeId.filter (· ≠ "")).or (tenant.homes.head?.map (·.1))

/-- The devices of a home, and none where it is not known. -/
def devicesOf (tenant : MockTenant) (home : Option String) : List MockDevice :=
  (home.bind tenant.devices).getD []

/-- The answer to an instruction, with its status and what is said. -/
def answered (status : Int) (answer : String) : Envelope := { code := codeOk, data := .control status answer }

/-- The last part of `control`: some of the targets are connected, and are switched. -/
def switch (tenant : MockTenant) (home : Option String) (on : Bool) (isTarget : MockDevice → Bool) :
    Controlled :=
  let targets := (tenant.devicesOf home).filter isTarget
  let offline := targets.filter fun device => !device.connected
  let switched : List MockDevice := (tenant.devicesOf home).map fun device =>
    if isTarget device && device.connected then { device with on } else device
  { tenant := { tenant with
      devices := fun id => if some id = home then some switched else tenant.devices id }
    reply :=
      if offline ≠ [] then
        some (answered controlSomeOffline (toString offline.length ++ "台设备已离线"))
      else
        some (answered controlOk ("好的，为您" ++ (if on then "打开" else "关闭") ++
          String.intercalate "、" (targets.map (·.deviceName))))
    switched := some ⟨on, targets⟩ }

/-- `control`, with a token that is let in. -/
def control (tenant : MockTenant) (query : String) (homeId : Option String) : Controlled :=
  let devices := tenant.devicesOf (tenant.home homeId)
  let targets := devices.filter (isTarget devices query)
  if devices = [] then ⟨tenant, some (answered controlNoDevicesBound "抱歉，您目前还没有绑定设备"), none⟩
  else if targets = [] then
    ⟨tenant, tenant.phones.head?.map fun phone =>
      answered controlNoMatch ("账户" ++ phone ++ "没有匹配到设备"), none⟩
  else if ¬ ((turnOnOff query).1 ∨ (turnOnOff query).2) then ⟨tenant, some (answered controlNoReply ""), none⟩
  else if ∀ device ∈ targets, device.connected = false then
    ⟨tenant, some (answered controlDeviceOffline "设备已离线"), none⟩
  else tenant.switch (tenant.home homeId) (turnOnOff query).1 (isTarget devices query)

/-! ### The endpoints -/

/-- What an endpoint does for a request with a token that is let in, with `scope`. -/
def serve (tenant : MockTenant) (scope : String) : Query → Controlled
  | .homes => ⟨tenant, some { code := codeOk, data := .homes tenant.homes }, none⟩
  | .devices homeId =>
    match tenant.devices homeId with
    | none => ⟨tenant, some (refusal 404 "请求未找到"), none⟩
    | some devices => ⟨tenant, some { code := codeOk, data := .devices (devices.map MockDevice.row) }, none⟩
  | .control query homeId =>
    if scopeControl ∉ split ',' scope then ⟨tenant, some (refusal 403 "无操作权限"), none⟩
    else tenant.control query homeId

/-- A request arrives. -/
def handle (unicode : Unicode) (tenant : MockTenant) (draws : PlatformDraws) : Request → Controlled
  | .token form authorization =>
    let answer := tenant.tokenEndpoint signing unicode form authorization draws
    ⟨answer.1, answer.2, none⟩
  | .api query authorization =>
    match tenant.bearer authorization draws.now with
    | .error envelope => ⟨tenant, some envelope, none⟩
    | .ok scope => tenant.serve scope query

end MockTenant

end EidolonHub.SmartHome.Zhoubian
