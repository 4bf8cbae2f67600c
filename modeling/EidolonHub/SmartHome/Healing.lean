import EidolonHub.SmartHome.Truthful

/-!
# EidolonHub.SmartHome.Healing

**A session heals itself.** Whatever tokens a session holds, as long as the platform knows the user secret
every call that is not disturbed gets past the check of its token: a token that the platform has forgotten or
that has expired is refused at the first attempt, and the second attempt has one that was issued since. Other
calls that renew the token of the same session at the same time do not get in the way.
-/

namespace EidolonHub.SmartHome.Zhoubian

open EidolonHub.Library EidolonHub.Library.Python EidolonHub.Library.Query MockTenant

/-! ### Tokens -/

/-- A token without whitespace. -/
def Plain (token : String) : Prop := ∀ c ∈ token.toList, isSpace c = false

instance : DecidablePred Plain := fun _ => List.decidableBAll _ _

/-- If the platform knows the token, it is one for instructions. -/
def Scoped (tenant : MockTenant) (token : String) : Prop :=
  ∀ entry, tenant.tokens token = some entry → tenant.scopes token = some scopeControl

/-- The platform lets the token in until then. -/
def Good (till : Nat) (tenant : MockTenant) (token : String) : Prop :=
  ∃ user expiry, tenant.tokens token = some (user, expiry) ∧ till ≤ expiry ∧
    tenant.scopes token = some scopeControl

theorem Good.scoped {till : Nat} {tenant : MockTenant} {token : String} (h : Good till tenant token) :
    Scoped tenant token := by
  obtain ⟨user, expiry, -, -, hscope⟩ := h
  exact fun _ _ => hscope

section Bearer

variable {till : Nat} {tenant : MockTenant} {token : String} {now : Clock}

/-- The header names the token. -/
theorem bearer_token (hplain : Plain token) : strip (removePrefix "Bearer " ("Bearer " ++ token)) = token := by
  have hstarts : removePrefix "Bearer " ("Bearer " ++ token) = token := by
    unfold removePrefix
    rw [if_pos]
    · rw [String.toList_append, List.drop_left, String.ofList_toList]
    · unfold startsWith
      rw [String.toList_append]
      exact List.isPrefixOf_iff_prefix.mpr (List.prefix_append _ _)
  rw [hstarts]
  exact strip_eq hplain

theorem bearer_good (hplain : Plain token) (hgood : Good till tenant token) (hnow : now.val ≤ till) :
    tenant.bearer ("Bearer " ++ token) now = .ok scopeControl := by
  obtain ⟨user, expiry, htoken, hexpiry, hscope⟩ := hgood
  unfold bearer
  rw [bearer_token hplain]
  dsimp only
  rw [htoken]
  dsimp only
  rw [if_neg (by omega), hscope]
  rfl

/-- A token that is not let in is refused with one of the two codes that ask for a new one. -/
theorem bearer_scoped (now : Clock) (hplain : Plain token) (hscoped : Scoped tenant token) :
    tenant.bearer ("Bearer " ++ token) now = .ok scopeControl ∨
      ∃ envelope, tenant.bearer ("Bearer " ++ token) now = .error envelope ∧
        (envelope.code = codeUnauthorized ∨ envelope.code = codeInvalidToken) := by
  unfold bearer
  rw [bearer_token hplain]
  dsimp only
  cases htoken : tenant.tokens token with
  | none => exact .inr ⟨_, rfl, .inl rfl⟩
  | some entry =>
    rw [hscoped entry htoken]
    dsimp only
    split_ifs
    · exact .inr ⟨_, rfl, .inr rfl⟩
    · exact .inl rfl

end Bearer

/-! ### What the platform keeps -/

/-- The platform knows the session, and can name its user. -/
structure Knows (signing : Signing) (session : Session) (tenant : MockTenant) : Prop where
  appId : tenant.appId = session.appId
  appSecret : tenant.appSecret = session.appSecret
  phones : tenant.phones ≠ []
  userSecret : tenant.userSecrets session.userId = some session.userSecret
  decodes : ∀ text, (signing.hmacSign session.userSecret text).isSome
  appId_plain : '.' ∉ session.appId.toList
  userId_plain : '&' ∉ session.userId.toList

/-- Good tokens stay good, and no token gets another scope. -/
structure Keeps (till : Nat) (tenant tenant' : MockTenant) : Prop where
  good : ∀ token, Good till tenant token → Good till tenant' token
  scope : ∀ token, Scoped tenant token → Scoped tenant' token

theorem Keeps.refl {till : Nat} {tenant : MockTenant} : Keeps till tenant tenant :=
  ⟨fun _ h => h, fun _ h => h⟩

/-- The accounts of the tenant are as they were. -/
structure SameAccounts (tenant tenant' : MockTenant) : Prop where
  appId : tenant'.appId = tenant.appId
  appSecret : tenant'.appSecret = tenant.appSecret
  phones : tenant'.phones = tenant.phones
  userSecrets : tenant'.userSecrets = tenant.userSecrets

theorem Knows.of_same {signing : Signing} {session : Session} {tenant tenant' : MockTenant}
    (h : Knows signing session tenant) (hsame : SameAccounts tenant tenant') :
    Knows signing session tenant' where
  appId := hsame.appId.trans h.appId
  appSecret := hsame.appSecret.trans h.appSecret
  phones := hsame.phones ▸ h.phones
  userSecret := (congrFun hsame.userSecrets _).trans h.userSecret
  decodes := h.decodes
  appId_plain := h.appId_plain
  userId_plain := h.userId_plain

section Endpoints

variable {signing : Signing} {unicode : Unicode} {till : Nat} {tenant : MockTenant} {draws : PlatformDraws}
  {session : Session}

/-- The reply that grants the token that was drawn. -/
def Grants (draws : PlatformDraws) (reply : Option Envelope) : Prop :=
  ∃ refreshToken expiresIn, reply =
    some { code := codeOk, data := .grant draws.accessToken refreshToken expiresIn }

/-- **A token that is issued** is good for its whole time. -/
theorem issue_good (tenant : MockTenant) (user : String) (hphones : tenant.phones ≠ [])
    (htill : till ≤ draws.now.val + accessTtlMs) :
    Grants draws (tenant.issue user scopeControl draws).2 ∧
      Good till (tenant.issue user scopeControl draws).1 draws.accessToken ∧
      Keeps till tenant (tenant.issue user scopeControl draws).1 ∧
      SameAccounts tenant (tenant.issue user scopeControl draws).1 := by
  have hnew : Good till (tenant.issue user scopeControl draws).1 draws.accessToken :=
    ⟨user, _, Function.update_self .., htill, Function.update_self ..⟩
  refine ⟨?_, hnew, ⟨fun token hgood => ?_, fun token hscoped => ?_⟩, rfl, rfl, rfl, rfl⟩
  · obtain ⟨phone, phones, hphone⟩ := List.exists_cons_of_ne_nil hphones
    unfold issue
    dsimp only
    rw [hphone]
    exact ⟨draws.refreshToken, 7199, rfl⟩
  · by_cases htoken : token = draws.accessToken
    · exact htoken ▸ hnew
    · obtain ⟨user', expiry, hentry, hexpiry, hscope⟩ := hgood
      exact ⟨user', expiry, (Function.update_of_ne htoken ..).trans hentry, hexpiry,
        (Function.update_of_ne htoken ..).trans hscope⟩
  · by_cases htoken : token = draws.accessToken
    · exact htoken ▸ hnew.scoped
    · intro entry hentry
      have hold : tenant.tokens token = some entry := (Function.update_of_ne htoken ..).symm.trans hentry
      exact (Function.update_of_ne htoken ..).trans (hscoped entry hold)

/-- **The form of the session** is granted a token. -/
theorem hmacGrant_eq (hknows : Knows signing session tenant) {now : Clock} {form : TokenForm}
    (hform : session.tokenForm signing now = some form) :
    tenant.hmacGrant signing unicode form draws = tenant.issue session.userId scopeControl draws := by
  obtain ⟨text, hpassword, rfl⟩ := Option.map_eq_some_iff.mp hform
  obtain ⟨sign, hsign, hmode, htimestamp, hquoted⟩ := password_fields unicode hknows.userId_plain hpassword
  have hnamed : partition '.' (username session.appId session.userId) = (session.appId, true, session.userId) :=
    partition_append hknows.appId_plain
  unfold hmacGrant
  simp only [Option.getD_some, hnamed, hknows.userSecret, htimestamp, hsign, hquoted, hmode,
    hknows.appId, ne_eq, not_true_eq_false, or_self, if_false]

theorem tokenEndpoint_hmac (unicode : Unicode) (draws : PlatformDraws)
    (hknows : Knows signing session tenant) {now : Clock} {form : TokenForm}
    (hform : session.tokenForm signing now = some form) :
    tenant.tokenEndpoint signing unicode form (session.basic signing) draws =
      tenant.issue session.userId scopeControl draws := by
  have hgrant : form.grantType = some grantHmac := by
    obtain ⟨text, -, rfl⟩ := Option.map_eq_some_iff.mp hform
    rfl
  unfold tokenEndpoint Session.basic
  rw [hknows.appId, hknows.appSecret, if_neg (not_not.mpr rfl), hgrant, if_neg (by decide), if_pos rfl]
  exact hmacGrant_eq hknows hform

theorem tokenEndpoint_refresh (unicode : Unicode) (draws : PlatformDraws)
    (hknows : Knows signing session tenant)
    (refreshToken : String) :
    tenant.tokenEndpoint signing unicode (Session.refreshForm { session with refreshToken })
      (session.basic signing) draws =
      tenant.refreshGrant (Session.refreshForm { session with refreshToken }) draws := by
  unfold tokenEndpoint Session.basic
  rw [hknows.appId, hknows.appSecret, if_neg (not_not.mpr rfl)]
  exact if_pos rfl

/-- **A refresh token** is good for a token, or refused. -/
theorem refreshGrant_cases (form : TokenForm) (hscope : form.scope = some scopeControl)
    (hphones : tenant.phones ≠ []) (htill : till ≤ draws.now.val + accessTtlMs) :
    (Grants draws (tenant.refreshGrant form draws).2 ∧
        Good till (tenant.refreshGrant form draws).1 draws.accessToken ∨
      ∃ envelope, (tenant.refreshGrant form draws).2 = some envelope ∧ envelope.code ≠ codeOk) ∧
    Keeps till tenant (tenant.refreshGrant form draws).1 ∧
      SameAccounts tenant (tenant.refreshGrant form draws).1 := by
  unfold refreshGrant
  split
  · exact ⟨.inr ⟨_, rfl, by decide⟩, .refl, rfl, rfl, rfl, rfl⟩
  · next user _ =>
    rw [hscope, Option.getD_some]
    obtain ⟨hgrants, hgood, hkeeps, hsame⟩ := issue_good
      { tenant with refresh := Function.update tenant.refresh (form.refreshToken.getD "") none }
      user hphones htill
    exact ⟨.inl ⟨hgrants, hgood⟩, ⟨hkeeps.good, hkeeps.scope⟩, hsame.appId, hsame.appSecret, hsame.phones,
      hsame.userSecrets⟩

theorem control_reply (text : String) (homeId : Option String) (hphones : tenant.phones ≠ []) :
    ∃ status answer, (tenant.control text homeId).reply = some (answered status answer) := by
  obtain ⟨phone, phones, hphone⟩ := List.exists_cons_of_ne_nil hphones
  unfold MockTenant.control
  dsimp only
  split_ifs
  · exact ⟨_, _, rfl⟩
  · rw [hphone]
    exact ⟨_, _, rfl⟩
  · exact ⟨_, _, rfl⟩
  · obtain ⟨answer, hreply⟩ := tenant.switch_reply (tenant.home homeId) (turnOnOff text).1
      (isTarget (tenant.devicesOf (tenant.home homeId)) text)
    exact ⟨_, answer, hreply⟩
  · exact ⟨_, _, rfl⟩

/-- **A request that is let in** is answered, and not with a code that asks for a new token. -/
theorem serve_reply (query : Query) (hphones : tenant.phones ≠ []) :
    ∃ envelope, (tenant.serve scopeControl query).reply = some envelope ∧
      ¬ (envelope.code = codeUnauthorized ∨ envelope.code = codeInvalidToken) := by
  cases query with
  | homes => exact ⟨_, rfl, show ¬ (codeOk = codeUnauthorized ∨ codeOk = codeInvalidToken) by decide⟩
  | devices homeId =>
    unfold serve
    dsimp only
    split
    · exact ⟨_, rfl, show ¬ ((404 : Int) = codeUnauthorized ∨ (404 : Int) = codeInvalidToken) by decide⟩
    · exact ⟨_, rfl, show ¬ (codeOk = codeUnauthorized ∨ codeOk = codeInvalidToken) by decide⟩
  | control text homeId =>
    unfold serve
    dsimp only
    rw [if_neg (by decide)]
    obtain ⟨status, answer, hreply⟩ := control_reply text homeId hphones
    exact ⟨_, hreply, show ¬ (codeOk = codeUnauthorized ∨ codeOk = codeInvalidToken) by decide⟩

/-- No request with a token changes the tokens or the accounts. -/
theorem serve_keeps (till : Nat) (tenant : MockTenant) (query : Query) (scope : String) :
    Keeps till tenant (tenant.serve scope query).tenant ∧
      SameAccounts tenant (tenant.serve scope query).tenant := by
  have hsame : Keeps till tenant tenant ∧ SameAccounts tenant tenant := ⟨.refl, rfl, rfl, rfl, rfl⟩
  cases query with
  | homes => exact hsame
  | devices homeId =>
    unfold serve
    dsimp only
    split <;> exact hsame
  | control text homeId =>
    unfold serve
    dsimp only
    by_cases hscope : scopeControl ∉ split ',' scope
    · rw [if_pos hscope]
      exact hsame
    · rw [if_neg hscope]
      unfold MockTenant.control
      dsimp only
      split_ifs
      · exact hsame
      · exact hsame
      · exact hsame
      · exact ⟨⟨fun _ h => h, fun _ h => h⟩, rfl, rfl, rfl, rfl⟩
      · exact hsame

end Endpoints

/-! ### Calls that are not disturbed -/

/-- The session without its tokens. -/
def Session.base (session : Session) : Session :=
  { session with accessToken := "", refreshToken := "", accessExpiresAt := 0 }

theorem Call.query_base (call : Call) (session : Session) : call.query session.base = call.query session := by
  cases call <;> rfl

/-- The platform lets the token of a request in, and its handler answers with this. -/
structure LetsIn (signing : Signing) (unicode : Unicode) (tenant : MockTenant) (draws : PlatformDraws)
    (query : Query) (authorization : String) (envelope : Envelope) : Prop where
  bearer : tenant.bearer authorization draws.now = .ok scopeControl
  reply : (tenant.handle signing unicode draws (.api query authorization)).reply = some envelope

/-- What the platform has said to the request of a call: the request was on its way, it arrived at one of the
turns, and the platform as it was then let it in and answered with this. -/
def Told (signing : Signing) (unicode : Unicode) (calls : Nat → Call) (session : Session) (tenant : MockTenant)
    (turns : List (Turn ServiceDraws)) (c : Nat) (query : Query) (envelope : Envelope) : Prop :=
  ∃ before turn after attempt authorization, turns = before ++ turn :: after ∧ turn.call = c ∧
    turn.draws.event = .arrives ∧
    (served signing unicode calls session tenant before).phase c =
      .awaiting query (.api attempt) (.sent (.api query authorization)) ∧
    LetsIn signing unicode (served signing unicode calls session tenant before).shared.tenant turn.draws.platform
      query authorization envelope

/-- A call ends with what it was told, if it asks anything. -/
def Answered (told : Query → Envelope → Prop) (base : Session) (call : Call) (result : Result) : Prop :=
  match call.query base with
  | .error refused => result = refused
  | .ok query => ∃ envelope, told query envelope ∧ result = unwrap envelope

/-- A reply with a token that is good. -/
def Fresh (till : Nat) (tenant : MockTenant) (reply : Reply) : Prop :=
  ∃ accessToken refreshToken expiresIn,
    reply = .ok { code := codeOk, data := .grant accessToken refreshToken expiresIn } ∧
      Plain accessToken ∧ Good till tenant accessToken

/-- What is true of a call that is not disturbed, in each phase. -/
def Phase.Healthy (signing : Signing) (base : Session) (till : Nat) (told : Query → Envelope → Prop)
    (tenant : MockTenant) (call : Call) : Phase → Prop
  | .idle => True
  | .awaiting query (.token _) (.sent request) => call.query base = .ok query ∧
      ∃ now form, base.tokenForm signing now = some form ∧ request = .token form (base.basic signing)
  | .awaiting query (.refresh _) (.sent request) => call.query base = .ok query ∧
      ∃ refreshToken, request = .token (Session.refreshForm { base with refreshToken }) (base.basic signing)
  | .awaiting query (.api attempt) (.sent request) => call.query base = .ok query ∧
      ∃ token, request = .api query ("Bearer " ++ token) ∧ Plain token ∧ Scoped tenant token ∧
        (attempt = .second → Good till tenant token)
  | .awaiting query (.token _) (.handled reply) => call.query base = .ok query ∧ Fresh till tenant reply
  | .awaiting query (.refresh _) (.handled reply) => call.query base = .ok query ∧
      (Fresh till tenant reply ∨ ∃ envelope, reply = .ok envelope ∧ envelope.code ≠ codeOk)
  | .awaiting query (.api attempt) (.handled reply) => call.query base = .ok query ∧
      ∃ envelope, reply = .ok envelope ∧ (told query envelope ∨
        attempt = .first ∧ (envelope.code = codeUnauthorized ∨ envelope.code = codeInvalidToken))
  | .ended result late => late = none ∧ Answered told base call result

/-- What is true of the session and of the platform. -/
structure Service.Sound (signing : Signing) (base : Session) (s : Service) : Prop where
  session : s.session.base = base
  knows : Knows signing base s.tenant
  plain : Plain s.session.accessToken
  scope : Scoped s.tenant s.session.accessToken

section Phases

variable {signing : Signing} {base session : Session} {till : Nat} {tenant tenant' : MockTenant} {call : Call}
  {told told' : Query → Envelope → Prop} {query : Query} {now : Clock} {attempt : Attempt} {phase : Phase}

theorem Answered.mono {result : Result} (h : Answered told base call result)
    (htold : ∀ query envelope, told query envelope → told' query envelope) : Answered told' base call result := by
  unfold Answered at h ⊢
  split
  · next refused hrefused =>
    rw [hrefused] at h
    exact h
  · next query hquery =>
    rw [hquery] at h
    obtain ⟨envelope, henvelope, hresult⟩ := h
    exact ⟨envelope, htold query envelope henvelope, hresult⟩

theorem Fresh.mono {reply : Reply} (h : Fresh till tenant reply) (hkeeps : Keeps till tenant tenant') :
    Fresh till tenant' reply := by
  obtain ⟨accessToken, refreshToken, expiresIn, hreply, hplain, hgood⟩ := h
  exact ⟨accessToken, refreshToken, expiresIn, hreply, hplain, hkeeps.good _ hgood⟩

/-- What other calls do leaves it true. -/
theorem Phase.Healthy.mono (h : phase.Healthy signing base till told tenant call)
    (hkeeps : Keeps till tenant tenant') (htold : ∀ query envelope, told query envelope → told' query envelope) :
    phase.Healthy signing base till told' tenant' call := by
  cases phase with
  | idle => trivial
  | awaiting query ask flight =>
    cases flight with
    | sent request =>
      cases ask with
      | api attempt =>
        obtain ⟨hquery, token, hrequest, hplain, hscope, hgood⟩ := h
        exact ⟨hquery, token, hrequest, hplain, hkeeps.scope _ hscope, fun hattempt =>
          hkeeps.good _ (hgood hattempt)⟩
      | _ => exact h
    | handled reply =>
      cases ask with
      | token attempt => exact ⟨h.1, h.2.mono hkeeps⟩
      | refresh attempt => exact ⟨h.1, h.2.imp_left fun hfresh => hfresh.mono hkeeps⟩
      | api attempt =>
        obtain ⟨hquery, envelope, hreply, hanswer⟩ := h
        exact ⟨hquery, envelope, hreply, hanswer.imp_left (htold query envelope)⟩
  | ended result late => exact ⟨h.1, h.2.mono htold⟩

theorem Session.token_healthy (hbase : session.base = base) (hknows : Knows signing base tenant)
    (hquery : call.query base = .ok query) :
    (session.token signing now query attempt).Healthy signing base till told tenant call := by
  subst hbase
  unfold token
  split
  · next hform =>
    -- the secret can be decoded
    exfalso
    have hdecodes := hknows.decodes (session.appId ++ grantHmac ++ toString now.timestamp ++ session.userId)
    unfold tokenForm password signPassword at hform
    rw [Option.map_eq_none_iff, Option.map_eq_none_iff] at hform
    have hnone : signing.hmacSign session.userSecret
      (session.appId ++ grantHmac ++ toString now.timestamp ++ session.userId) = none := hform
    rw [show session.base.userSecret = session.userSecret from rfl, hnone] at hdecodes
    cases hdecodes
  · next form hform => exact ⟨hquery, now, form, hform, rfl⟩

theorem Session.renew_healthy (hbase : session.base = base) (hknows : Knows signing base tenant)
    (hquery : call.query base = .ok query) :
    (session.renew signing now query attempt).Healthy signing base till told tenant call := by
  unfold renew
  split_ifs
  · exact token_healthy hbase hknows hquery
  · subst hbase
    exact ⟨hquery, session.refreshToken, rfl⟩

theorem Session.request_healthy (hquery : call.query base = .ok query) (hplain : Plain session.accessToken)
    (hscope : Scoped tenant session.accessToken)
    (hgood : attempt = .second → Good till tenant session.accessToken) :
    (session.request query attempt).Healthy signing base till told tenant call :=
  ⟨hquery, session.accessToken, rfl, hplain, hscope, hgood⟩

variable {s : Service}

theorem Service.Sound.authed_healthy (hsound : s.Sound signing base) (hquery : call.query base = .ok query) :
    (s.session.authed signing now query).Healthy signing base till told s.tenant call := by
  unfold Session.authed
  split_ifs
  · exact Session.renew_healthy hsound.session hsound.knows hquery
  · exact Session.request_healthy hquery hsound.plain hsound.scope nofun

/-- **A call that goes on** with the answer it has waited for. -/
theorem Service.Sound.receive_healthy (now : Clock) (hsound : s.Sound signing base) {ask : Ask} {reply : Reply}
    (h : (Phase.awaiting query ask (.handled reply)).Healthy signing base till told s.tenant call) :
    Service.Sound signing base { s with session := (s.session.receive signing now query ask reply).1 } ∧
      (s.session.receive signing now query ask reply).2.Healthy signing base till told s.tenant call := by
  -- a fresh pair is good for the whole interval, so the call asks with it
  have hfresh (attempt : Attempt) (hquery : call.query base = .ok query) (hreply : Fresh till s.tenant reply) :
      ∃ granted, s.session.grant now reply = .session granted ∧
        Service.Sound signing base { s with session := granted } ∧
        (granted.request query attempt).Healthy signing base till told s.tenant call := by
    obtain ⟨accessToken, refreshToken, expiresIn, rfl, hplain, hgood⟩ := hreply
    refine ⟨_, rfl, ⟨hsound.session, hsound.knows, hplain, hgood.scoped⟩, ?_⟩
    exact Session.request_healthy hquery hplain hgood.scoped fun _ => hgood
  cases ask with
  | token attempt =>
    obtain ⟨hquery, hreply⟩ := h
    obtain ⟨granted, hgranted, hnew, hhealthy⟩ := hfresh attempt hquery hreply
    unfold Session.receive
    dsimp only
    rw [hgranted]
    exact ⟨hnew, hhealthy⟩
  | refresh attempt =>
    obtain ⟨hquery, hreply | ⟨envelope, rfl, hcode⟩⟩ := h
    · obtain ⟨granted, hgranted, hnew, hhealthy⟩ := hfresh attempt hquery hreply
      unfold Session.receive
      dsimp only
      rw [hgranted]
      exact ⟨hnew, hhealthy⟩
    · -- the refresh token is refused, and the secret is shown instead
      have hgrant : s.session.grant now (.ok envelope) = .bindError "PLATFORM_REFUSED"
          (strip (toString envelope.code ++ ": " ++ envelope.msg)) := if_pos hcode
      unfold Session.receive
      dsimp only
      rw [hgrant]
      exact ⟨hsound, Session.token_healthy hsound.session hsound.knows hquery⟩
  | api attempt =>
    obtain ⟨hquery, envelope, rfl, hanswer⟩ := h
    unfold Session.receive
    dsimp only
    -- an expired token on the first attempt is renewed; on the second it was issued in the interval
    split_ifs with hagain
    · exact ⟨hsound, Session.renew_healthy hsound.session hsound.knows hquery⟩
    · refine ⟨hsound, rfl, ?_⟩
      rcases hanswer with hplatform | ⟨hfirst, hcode⟩
      · unfold Answered
        rw [hquery]
        exact ⟨envelope, hplatform, rfl⟩
      · exact absurd ⟨hcode, hfirst⟩ hagain

variable {draws : PlatformDraws}

/-- **A request that arrives** is granted a token, or let in, or refused for a token that is not good. -/
theorem Service.Sound.handle_healthy (unicode : Unicode) (hsound : s.Sound signing base)
    (htill : till ≤ draws.now.val + accessTtlMs)
    (hnow : draws.now.val ≤ till) (hplain : Plain draws.accessToken) {ask : Ask} {request : Request}
    (htold : ∀ attempt authorization envelope, ask = .api attempt → request = .api query authorization →
      LetsIn signing unicode s.tenant draws query authorization envelope → told query envelope)
    (h : (Phase.awaiting query ask (.sent request)).Healthy signing base till told s.tenant call) :
    Keeps till s.tenant (s.tenant.handle signing unicode draws request).tenant ∧
      SameAccounts s.tenant (s.tenant.handle signing unicode draws request).tenant ∧
      (Phase.awaiting query ask (.handled (s.reply signing unicode draws request))).Healthy signing base till told
        (s.tenant.handle signing unicode draws request).tenant call := by
  have hphones := hsound.knows.phones
  cases ask with
  -- the platform knows the keys, so it issues a pair
  | token attempt =>
    obtain ⟨hquery, now, form, hform, rfl⟩ := h
    have hissue := tokenEndpoint_hmac unicode draws hsound.knows hform
    obtain ⟨⟨refreshToken, expiresIn, hgrants⟩, hgood, hkeeps, hsame⟩ :=
      issue_good s.tenant base.userId hphones htill
    unfold Service.reply
    simp only [MockTenant.handle, hissue, hgrants]
    exact ⟨hkeeps, hsame, hquery, draws.accessToken, refreshToken, expiresIn, rfl, hplain, hgood⟩
  -- a refresh token may have been used up; then the answer carries the code the session asks a new
  -- pair on
  | refresh attempt =>
    obtain ⟨hquery, refreshToken, rfl⟩ := h
    have hrefresh := tokenEndpoint_refresh unicode draws hsound.knows refreshToken
    obtain ⟨hanswer, hkeeps, hsame⟩ :=
      refreshGrant_cases (Session.refreshForm { base with refreshToken }) rfl hphones htill
    unfold Service.reply
    simp only [MockTenant.handle, hrefresh]
    refine ⟨hkeeps, hsame, hquery, ?_⟩
    rcases hanswer with ⟨⟨refreshToken', expiresIn, hgrants⟩, hgood⟩ | ⟨envelope, hreply, hcode⟩
    · rw [hgrants]
      exact .inl ⟨draws.accessToken, refreshToken', expiresIn, rfl, hplain, hgood⟩
    · rw [hreply]
      exact .inr ⟨envelope, rfl, hcode⟩
  -- a token let in is answered by the tenant of this turn; only a first attempt may be refused
  | api attempt =>
    obtain ⟨hquery, token, rfl, htoken, hscope, hgood⟩ := h
    have hserved (hbearer : s.tenant.bearer ("Bearer " ++ token) draws.now = .ok scopeControl) :
        s.tenant.handle signing unicode draws (.api query ("Bearer " ++ token)) =
          s.tenant.serve scopeControl query := by
      simp only [MockTenant.handle, hbearer]
    have hin (hbearer : s.tenant.bearer ("Bearer " ++ token) draws.now = .ok scopeControl) :
        Keeps till s.tenant (s.tenant.handle signing unicode draws (.api query ("Bearer " ++ token))).tenant ∧
          SameAccounts s.tenant (s.tenant.handle signing unicode draws (.api query ("Bearer " ++ token))).tenant ∧
          (Phase.awaiting query (.api attempt) (.handled (s.reply signing unicode draws
            (.api query ("Bearer " ++ token))))).Healthy signing base till told
              (s.tenant.handle signing unicode draws (.api query ("Bearer " ++ token))).tenant call := by
      obtain ⟨envelope, hreply, -⟩ := serve_reply query hphones
      obtain ⟨hkeeps, hsame⟩ := serve_keeps till s.tenant query scopeControl
      have hanswer := htold attempt _ envelope rfl rfl ⟨hbearer, by rw [hserved hbearer, hreply]⟩
      unfold Service.reply
      rw [hserved hbearer, hreply]
      exact ⟨hkeeps, hsame, hquery, envelope, rfl, .inl hanswer⟩
    cases attempt with
    | second => exact hin (bearer_good htoken (hgood rfl) hnow)
    | first =>
      rcases bearer_scoped draws.now htoken hscope with hbearer | ⟨envelope, hbearer, hcode⟩
      · exact hin hbearer
      · unfold Service.reply
        simp only [MockTenant.handle, hbearer]
        exact ⟨.refl, ⟨rfl, rfl, rfl, rfl⟩, hquery, envelope, rfl, .inr ⟨rfl, hcode⟩⟩

end Phases

/-! ### Every order of steps -/

/-- A turn in which nothing is lost, within the time to live of a token from `since` on. What happens at the
platform beside the calls leaves it the session, and good tokens good. -/
structure Undisturbed (signing : Signing) (calls : Nat → Call) (since : Nat) (s : Service)
    (turn : Turn ServiceDraws) : Prop where
  arrives : turn.draws.event = .arrives
  begun : since ≤ turn.draws.platform.now.val
  till : turn.draws.platform.now.val ≤ since + accessTtlMs
  plain : Plain turn.draws.platform.accessToken
  platform : ∀ change, calls turn.call = .platform change →
    Knows signing s.session.base (change s.tenant) ∧
      Keeps (since + accessTtlMs) s.tenant (change s.tenant)

/-- What is true of a schedule that is not disturbed. -/
structure Heals (signing : Signing) (unicode : Unicode) (calls : Nat → Call) (session : Session)
    (tenant : MockTenant) (till : Nat) (turns : List (Turn ServiceDraws)) : Prop where
  sound : (served signing unicode calls session tenant turns).shared.Sound signing session.base
  healthy : ∀ c, ((served signing unicode calls session tenant turns).phase c).Healthy signing session.base till
    (Told signing unicode calls session tenant turns c) (served signing unicode calls session tenant turns).shared.tenant
    (calls c)

section Runs

variable {signing : Signing} {unicode : Unicode} {base session : Session} {tenant : MockTenant}
  {calls : Nat → Call} {since : Nat} {s : Service} {turn : Turn ServiceDraws} {turns : List (Turn ServiceDraws)}
  {phase : Phase} {told told' : Query → Envelope → Prop} {c : Nat} {query : Query} {envelope : Envelope}

/-- What has been told stays told. -/
theorem Told.concat (h : Told signing unicode calls session tenant turns c query envelope)
    (turn : Turn ServiceDraws) :
    Told signing unicode calls session tenant (turns ++ [turn]) c query envelope := by
  obtain ⟨before, told, after, attempt, authorization, rfl, hrest⟩ := h
  exact ⟨before, told, after ++ [turn], attempt, authorization, by simp, hrest⟩

/-- **A step** of a call that is not disturbed. -/
theorem Service.Sound.act_healthy (unicode : Unicode) (hsound : s.Sound signing base)
    (hmeets : Undisturbed signing calls since s turn)
    (hold : ∀ query envelope, told query envelope → told' query envelope)
    (hnew : ∀ query attempt authorization envelope,
      phase = .awaiting query (.api attempt) (.sent (.api query authorization)) →
      LetsIn signing unicode s.tenant turn.draws.platform query authorization envelope → told' query envelope)
    (h : phase.Healthy signing base (since + accessTtlMs) told s.tenant (calls turn.call)) :
    Service.Sound signing base (Service.act signing unicode calls turn.call turn.draws s phase).1 ∧
      (Service.act signing unicode calls turn.call turn.draws s phase).2.Healthy signing base
        (since + accessTtlMs) told' (Service.act signing unicode calls turn.call turn.draws s phase).1.tenant
        (calls turn.call) ∧
      Keeps (since + accessTtlMs) s.tenant
        (Service.act signing unicode calls turn.call turn.draws s phase).1.tenant := by
  replace h := h.mono .refl hold
  cases phase with
  -- a change of the platform keeps the session, and a call asks for its token
  | idle =>
    simp only [Service.act]
    split
    · next change hchange =>
      obtain ⟨hknows, hkeeps⟩ := hmeets.platform change hchange
      rw [hsound.session] at hknows
      exact ⟨⟨hsound.session, hknows, hsound.plain, hkeeps.scope _ hsound.scope⟩, trivial, hkeeps⟩
    · have hquery := (calls turn.call).query_base s.session
      rw [hsound.session] at hquery
      split
      · next result hresult =>
        refine ⟨hsound, ⟨rfl, ?_⟩, .refl⟩
        unfold Answered
        rw [hquery, hresult]
      · next query hresult =>
        exact ⟨hsound, hsound.authed_healthy (hquery.trans hresult), .refl⟩
  | awaiting query ask flight =>
    cases flight with
    -- nothing is lost, so the platform handles the request
    | sent request =>
      have htill : since + accessTtlMs ≤ turn.draws.platform.now.val + accessTtlMs :=
        Nat.add_le_add_right hmeets.begun _
      have htold : ∀ attempt authorization envelope, ask = .api attempt → request = .api query authorization →
          LetsIn signing unicode s.tenant turn.draws.platform query authorization envelope →
            told' query envelope := by
        rintro attempt authorization envelope rfl rfl hlets
        exact hnew query attempt authorization envelope rfl hlets
      obtain ⟨hkeeps, hsame, hhealthy⟩ :=
        hsound.handle_healthy unicode htill hmeets.till hmeets.plain htold h
      simp only [Service.act, hmeets.arrives]
      exact ⟨⟨hsound.session, hsound.knows.of_same hsame, hsound.plain, hkeeps.scope _ hsound.scope⟩, hhealthy,
        hkeeps⟩
    -- nothing is lost, so the reply is received
    | handled reply =>
      obtain ⟨hsession, hhealthy⟩ := hsound.receive_healthy turn.draws.now h
      simp only [Service.act, hmeets.arrives]
      exact ⟨hsession, hhealthy, .refl⟩
  | ended result late =>
    obtain ⟨rfl, hanswered⟩ := h
    exact ⟨hsound, ⟨rfl, hanswered⟩, .refl⟩

/-- One more turn: what it lets in is told to the call that takes it. -/
theorem Heals.concat (h : Heals signing unicode calls session tenant (since + accessTtlMs) turns)
    (hmeets : Undisturbed signing calls since (served signing unicode calls session tenant turns).shared turn) :
    Heals signing unicode calls session tenant (since + accessTtlMs) (turns ++ [turn]) := by
  have hserved : served signing unicode calls session tenant (turns ++ [turn]) =
      (served signing unicode calls session tenant turns).step (Service.act signing unicode calls) turn :=
    run_concat ..
  have hold : ∀ c query envelope, Told signing unicode calls session tenant turns c query envelope →
      Told signing unicode calls session tenant (turns ++ [turn]) c query envelope :=
    fun _ _ _ htold => htold.concat turn
  obtain ⟨hsound, hhealthy, hkeeps⟩ := h.sound.act_healthy unicode hmeets (hold turn.call)
    (fun _ attempt authorization _ hphase hlets =>
      ⟨turns, turn, [], attempt, authorization, rfl, rfl, hmeets.arrives, hphase, hlets⟩)
    (h.healthy turn.call)
  constructor
  · rw [hserved]
    exact hsound
  · intro c
    rw [hserved]
    by_cases hc : c = turn.call
    · subst hc
      rw [Pool.step_phase_self]
      exact hhealthy
    · rw [Pool.step_phase_ne hc]
      exact (h.healthy c).mono hkeeps (hold c)

/-- A schedule that is not disturbed, from any token. -/
theorem heals (hknows : Knows signing session tenant) (hplain : Plain session.accessToken)
    (hscope : Scoped tenant session.accessToken)
    (hmeets : Along (Pool.step (Service.act signing unicode calls))
      (fun p turn => Undisturbed signing calls since p.shared turn) (opened session tenant) turns) :
    Heals signing unicode calls session tenant (since + accessTtlMs) turns := by
  induction turns using List.reverseRec with
  | nil =>
    exact ⟨⟨rfl, ⟨hknows.appId, hknows.appSecret, hknows.phones, hknows.userSecret, hknows.decodes,
      hknows.appId_plain, hknows.userId_plain⟩, hplain, hscope⟩, fun _ => trivial⟩
  | append_singleton turns turn ih =>
    obtain ⟨hbefore, hturn, -⟩ := along_append.mp hmeets
    exact (ih hbefore).concat hturn

end Runs

/-! ### Every call ends -/

/-- How many messages a call may still wait for. -/
def Ask.rank : Ask → Nat
  | .refresh .first => 11
  | .token .first => 9
  | .api .first => 7
  | .refresh .second => 5
  | .token .second => 3
  | .api .second => 1

/-- How many turns a call may still take. -/
def Phase.rank : Phase → Nat
  | .idle => 13
  | .awaiting _ ask (.sent _) => ask.rank + 1
  | .awaiting _ ask (.handled _) => ask.rank
  | .ended _ _ => 0

section Ends

variable {signing : Signing} {unicode : Unicode} {session : Session} {query : Query} {now : Clock}
  {attempt : Attempt} {calls : Nat → Call} {s : Service} {c : Nat} {draws : ServiceDraws}

theorem Session.token_rank : (session.token signing now query attempt).rank ≤ (Ask.token attempt).rank + 1 := by
  unfold token
  split
  · exact Nat.zero_le _
  · exact Nat.le_refl _

theorem Session.renew_rank : (session.renew signing now query attempt).rank ≤ (Ask.refresh attempt).rank + 1 := by
  unfold renew
  split_ifs
  · refine Nat.le_trans token_rank ?_
    cases attempt <;> decide
  · exact Nat.le_refl _

theorem Session.receive_rank (ask : Ask) (reply : Reply) :
    (session.receive signing now query ask reply).2.rank ≤ ask.rank - 1 := by
  cases ask with
  | token attempt =>
    unfold receive
    dsimp only
    split
    · cases attempt <;> exact Nat.le_refl _
    · exact Nat.zero_le _
    · exact Nat.zero_le _
  | refresh attempt =>
    unfold receive
    dsimp only
    split
    · cases attempt <;> exact Nat.le_of_ble_eq_true rfl
    · refine Nat.le_trans token_rank ?_
      cases attempt <;> decide
    · exact Nat.zero_le _
  | api attempt =>
    cases reply with
    | error status => exact Nat.zero_le _
    | ok envelope =>
      unfold receive
      dsimp only
      split_ifs with hagain
      · refine Nat.le_trans renew_rank ?_
        rw [hagain.2]
        decide
      · exact Nat.zero_le _

/-- Each turn brings a call closer to its end. -/
theorem Service.act_rank (hcall : ∀ change, calls c ≠ .platform change) (phase : Phase) :
    (Service.act signing unicode calls c draws s phase).2.rank ≤ phase.rank - 1 := by
  cases phase with
  | idle =>
    simp only [Service.act]
    split
    · exact Nat.zero_le _
    · unfold Session.authed
      split_ifs
      · exact Session.renew_rank
      · exact Nat.le_of_ble_eq_true rfl
  | awaiting query ask flight =>
    cases flight with
    | sent request =>
      cases hevent : draws.event with
      | arrives =>
        simp only [Service.act, hevent]
        exact Nat.le_refl _
      | fails =>
        simp only [Service.act, hevent]
        exact Nat.zero_le _
      | garbled status =>
        cases ask with
        | api attempt =>
          simp only [Service.act, hevent]
          exact Nat.zero_le _
        | _ =>
          simp only [Service.act, hevent]
          exact Nat.le_trans (Session.receive_rank _ _) (Nat.sub_le _ _)
      | deadline =>
        simp only [Service.act, hevent]
        exact Nat.zero_le _
    | handled reply =>
      cases hevent : draws.event with
      | arrives =>
        simp only [Service.act, hevent]
        exact Session.receive_rank _ _
      | garbled status =>
        simp only [Service.act, hevent]
        exact Session.receive_rank _ _
      | _ =>
        simp only [Service.act, hevent]
        exact Nat.zero_le _
  | ended result late =>
    cases late with
    | none => exact Nat.le_refl _
    | some request =>
      cases hevent : draws.event <;> simp only [Service.act, hevent] <;> exact Nat.le_refl _

/-- A call that takes 13 turns has ended. -/
theorem served_ends (session : Session) (tenant : MockTenant) (turns : List (Turn ServiceDraws))
    (hcall : ∀ change, calls c ≠ .platform change)
    (hturns : 13 ≤ turns.countP fun turn => decide (turn.call = c)) :
    ∃ result late, (served signing unicode calls session tenant turns).phase c = .ended result late := by
  have hrank : ((served signing unicode calls session tenant turns).phase c).rank ≤
      (Phase.idle).rank - turns.countP fun turn => decide (turn.call = c) :=
    Pool.rank_run (fun _ _ phase => Service.act_rank hcall phase) turns
  have hzero : ((served signing unicode calls session tenant turns).phase c).rank = 0 := by
    have hidle : (Phase.idle).rank = 13 := rfl
    omega
  cases hphase : (served signing unicode calls session tenant turns).phase c with
  | idle =>
    rw [hphase] at hzero
    cases hzero
  | awaiting query ask flight =>
    rw [hphase] at hzero
    cases flight with
    | sent request => cases hzero
    | handled reply =>
      have hpos : 0 < ask.rank := by
        rcases ask with attempt | attempt | attempt <;> cases attempt <;> decide
      exact absurd hzero (Nat.pos_iff_ne_zero.mp hpos)
  | ended result late => exact ⟨result, late, rfl⟩

end Ends

/-- **A session heals itself.** Let the platform know the session. Its token may be forgotten, expired, or none:
any without whitespace that the platform, if it knows it, gave for instructions. In every order of the steps of
calls that share the session, where no message is lost, no more time passes than a token lives, and changes beside
the calls keep the user, the good tokens and their scopes, every call that is given 13 turns ends. What it ends
with is what the platform's handler, as the platform was then, answered to the request of this call: no call is
refused for its token, and none for a token that another call has put in its place. -/
theorem undisturbed_calls_end (signing : Signing) (unicode : Unicode) (calls : Nat → Call) {session : Session}
    {tenant : MockTenant} (since : Nat) (hknows : Knows signing session tenant)
    (hplain : Plain session.accessToken) (hscope : Scoped tenant session.accessToken)
    (turns : List (Turn ServiceDraws))
    (hmeets : Along (Pool.step (Service.act signing unicode calls))
      (fun p turn => Undisturbed signing calls since p.shared turn) (opened session tenant) turns)
    (c : Nat) (hcall : ∀ change, calls c ≠ .platform change)
    (hturns : 13 ≤ turns.countP fun turn => decide (turn.call = c)) :
    ∃ result, (served signing unicode calls session tenant turns).phase c = .ended result none ∧
      Answered (Told signing unicode calls session tenant turns c) session.base (calls c) result := by
  obtain ⟨result, late, hphase⟩ := served_ends session tenant turns hcall hturns
  have hhealthy := (heals hknows hplain hscope hmeets).healthy c
  rw [hphase] at hhealthy
  obtain ⟨rfl, hanswered⟩ := hhealthy
  exact ⟨result, hphase, hanswered⟩

/-! ### Two calls with a token that the platform has forgotten -/

namespace Sample

/-- Primitives that sign everything alike. -/
def signing : Signing where
  hmacSign _ _ := some "c2lnbmVk"
  basicAuthorization appId _ := "Basic " ++ appId
  sha256Hex _ := "0123456789abcdef0123456789abcdef0123456789abcdef0123456789abcdef"
  ascii _ _ _ h c hc := by
    cases h
    have hall : "c2lnbmVk".toList.all (·.toNat < 128) = true := by decide
    exact of_decide_eq_true (List.all_eq_true.mp hall c hc)

/-- Texts without other whitespace or digits than the ASCII ones. -/
def unicode : Unicode := ⟨fun c => [c], fun _ => none⟩

/-- A session with tokens that the platform has forgotten. -/
def session : Session where
  ownerId := "owner-a"
  accountId := "acc_demo"
  appId := "pEOHuobHzgkkqVZQ"
  appSecret := "3LA3PK2OKdsi+MZoVuOew1ANkTqYBRjJ"
  userId := deriveUserId signing "host-test/acc_demo"
  userSecret := "c2VjcmV0"
  homeId := some "hxxx01"
  accessToken := "forgotten"
  refreshToken := "forgotten too"
  accessExpiresAt := 10 ^ 9

/-- A platform that knows the user of the session, and one lamp. -/
def tenant : MockTenant where
  appId := "pEOHuobHzgkkqVZQ"
  appSecret := "3LA3PK2OKdsi+MZoVuOew1ANkTqYBRjJ"
  phones := ["13800000000"]
  userSecrets := Function.update (fun _ => none) (deriveUserId signing "host-test/acc_demo") (some "c2VjcmV0")
  homes := [("hxxx01", "我的家")]
  devices := Function.update (fun _ => none) "hxxx01"
    (some [⟨"ATARS1Bj0001D83BDA303CD8", some "property.power1", "开关", "主卧吸顶灯", "主卧", true, false⟩])

/-- One call switches the lamp on, another one off. -/
def calls : Nat → Call
  | 0 => .execute "owner-a" "主卧吸顶灯" .on
  | _ => .execute "owner-a" "主卧吸顶灯" .off

/-- A call takes a turn, in which the platform would grant this token. -/
def turn (c : Nat) (accessToken : String) : Turn ServiceDraws := ⟨c, .arrives, 0, 0, accessToken, "refresh"⟩

/-- They take turns. -/
def turns : List (Turn ServiceDraws) := (List.replicate 13 [turn 0 "first", turn 1 "second"]).flatten

theorem turns_meet : Along (Pool.step (Service.act signing unicode calls))
    (fun p turn => Undisturbed signing calls 0 p.shared turn) (opened session tenant) turns := by
  have hturns : ∀ t ∈ turns, t = turn 0 "first" ∨ t = turn 1 "second" := by
    intro t ht
    obtain ⟨pair, hpair, hmem⟩ := List.mem_flatten.mp ht
    rw [List.eq_of_mem_replicate hpair] at hmem
    simpa using hmem
  refine Along.imp_of_inv (I := fun _ => True) (fun _ _ _ _ => trivial) ?_ trivial (along_of_forall hturns)
  rintro p _ - (rfl | rfl)
  · exact ⟨rfl, Nat.zero_le _, Nat.zero_le _, by decide, nofun⟩
  · exact ⟨rfl, Nat.zero_le _, Nat.zero_le _, by decide, nofun⟩

end Sample

theorem undisturbed_calls_end_lamp : ∃ result,
    (served Sample.signing Sample.unicode Sample.calls Sample.session Sample.tenant Sample.turns).phase 0 =
      .ended result none ∧
    Answered (Told Sample.signing Sample.unicode Sample.calls Sample.session Sample.tenant Sample.turns 0)
      Sample.session.base (Sample.calls 0) result :=
  undisturbed_calls_end Sample.signing Sample.unicode Sample.calls 0
    ⟨rfl, rfl, by decide, rfl, fun _ => rfl, by decide, by decide +kernel⟩ (by decide) (by intro _ h; cases h)
    Sample.turns Sample.turns_meet 0 nofun (by decide +kernel)

end EidolonHub.SmartHome.Zhoubian
