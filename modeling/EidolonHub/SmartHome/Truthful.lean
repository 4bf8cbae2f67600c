import EidolonHub.Library.Transaction
import EidolonHub.SmartHome.Delegation

/-!
# EidolonHub.SmartHome.Truthful

**An instruction is carried out at most once, and what its call says of it is true.** A request that the
platform has carried out is answered with code 0 and is not sent again; a request that is sent again was
refused for its token, before anything was switched.
-/

namespace EidolonHub.SmartHome.Zhoubian

open EidolonHub.Library EidolonHub.Library.Python EidolonHub.Library.Query

/-! ### What the platform switches -/

namespace MockTenant

/-- Every device it was about has been switched. -/
def Switch.complete (switch : Switch) : Bool := switch.targets.all (·.connected)

/-- The status an instruction is answered with that has switched something. -/
def Switch.status (switch : Switch) : Int := if switch.complete then controlOk else controlSomeOffline

/-- Some device has been switched. -/
def Switch.Reached (switch : Switch) : Prop := ∃ device ∈ switch.targets, device.connected = true

theorem switch_reply (tenant : MockTenant) (home : Option String) (on : Bool) (isTarget : MockDevice → Bool) :
    ∃ answer, (tenant.switch home on isTarget).reply = some (answered
      (Switch.mk on ((tenant.devicesOf home).filter isTarget)).status answer) := by
  have hoffline : ((tenant.devicesOf home).filter isTarget).filter (fun device => !device.connected) = [] ↔
      (Switch.mk on ((tenant.devicesOf home).filter isTarget)).complete = true := by
    rw [List.filter_eq_nil_iff, Switch.complete, List.all_eq_true]
    simp
  unfold switch Switch.status
  dsimp only
  by_cases hcomplete : (Switch.mk on ((tenant.devicesOf home).filter isTarget)).complete = true
  · rw [if_neg (not_not.mpr (hoffline.mpr hcomplete)), if_pos hcomplete]
    exact ⟨_, rfl⟩
  · rw [if_pos fun h => hcomplete (hoffline.mp h), if_neg hcomplete]
    exact ⟨_, rfl⟩

/-- **An instruction** switches and says so by its status, or it says something else. -/
theorem control_cases (tenant : MockTenant) (query : String) (homeId : Option String) :
    (∃ switch answer, (tenant.control query homeId).switched = some switch ∧
      switch.on = (turnOnOff query).1 ∧ switch.Reached ∧
      (tenant.control query homeId).reply = some (answered switch.status answer)) ∨
    (tenant.control query homeId).switched = none ∧
      ∀ envelope, (tenant.control query homeId).reply = some envelope →
        ∃ status answer, envelope = answered status answer ∧ status ≠ controlOk ∧ status ≠ controlSomeOffline := by
  have hidle {status : Int} {answer : String} (hstatus : status ≠ controlOk ∧ status ≠ controlSomeOffline) :
      ∀ envelope, some (answered status answer) = some envelope →
        ∃ status answer, envelope = answered status answer ∧ status ≠ controlOk ∧ status ≠ controlSomeOffline := by
    rintro _ ⟨⟩
    exact ⟨status, answer, rfl, hstatus⟩
  unfold control
  dsimp only
  split_ifs with hdevices htargets hwords hoffline
  · exact .inr ⟨rfl, hidle (by constructor <;> decide)⟩
  · right
    refine ⟨rfl, fun envelope henvelope => ?_⟩
    obtain ⟨phone, -, rfl⟩ := Option.map_eq_some_iff.mp henvelope
    exact ⟨_, _, rfl, by constructor <;> decide⟩
  · exact .inr ⟨rfl, hidle (by constructor <;> decide)⟩
  · -- some target is connected, and the targets are switched
    left
    obtain ⟨answer, hreply⟩ := tenant.switch_reply (tenant.home homeId) (turnOnOff query).1
      (isTarget (tenant.devicesOf (tenant.home homeId)) query)
    simp only [not_forall] at hoffline
    obtain ⟨device, hdevice, hconnected⟩ := hoffline
    exact ⟨_, answer, rfl, rfl, ⟨device, hdevice, by simpa using hconnected⟩, hreply⟩
  · exact .inr ⟨rfl, hidle (by constructor <;> decide)⟩

variable {signing : Signing} {unicode : Unicode} {tenant : MockTenant} {draws : PlatformDraws}
  {request : Request}

/-- What is answered to a request for a token is not the answer to an instruction. -/
theorem tokenEndpoint_data {form : TokenForm} {authorization : String} {envelope : Envelope}
    (h : (tenant.tokenEndpoint signing unicode form authorization draws).2 = some envelope) (status : Int)
    (answer : String) : envelope.data ≠ .control status answer := by
  have hrefusal (code : Int) (msg : String) (heq : some (refusal code msg) = some envelope) :
      envelope.data ≠ .control status answer := by
    cases heq
    nofun
  have hissue (tenant : MockTenant) (user scope : String)
      (heq : (tenant.issue user scope draws).2 = some envelope) : envelope.data ≠ .control status answer := by
    obtain ⟨phone, -, rfl⟩ := Option.map_eq_some_iff.mp heq
    nofun
  unfold tokenEndpoint at h
  split_ifs at h
  · exact hrefusal _ _ h
  · unfold refreshGrant at h
    split at h
    · exact hrefusal _ _ h
    · exact hissue _ _ _ h
  · unfold hmacGrant at h
    dsimp only at h
    split at h
    · exact hrefusal _ _ h
    split_ifs at h
    · exact hrefusal _ _ h
    split at h
    · exact hrefusal _ _ h
    split at h
    · cases h
    split_ifs at h
    · exact hrefusal _ _ h
    · exact hissue _ _ _ h
  · exact hrefusal _ _ h

theorem bearer_data {authorization : String} {now : Clock} {envelope : Envelope}
    (h : tenant.bearer authorization now = .error envelope) (status : Int) (answer : String) :
    envelope.data ≠ .control status answer := by
  unfold bearer at h
  dsimp only at h
  split at h
  · cases h
    nofun
  · split_ifs at h
    cases h
    nofun

/-- The platform has switched something, and the reply says so. -/
structure Switches (switch : Switch) (text : String) (envelope : Envelope) : Prop where
  on : switch.on = (turnOnOff text).1
  reached : switch.Reached
  envelope : ∃ answer, envelope = answered switch.status answer

/-- The reply does not say that anything has been switched. -/
def Idle (envelope : Envelope) : Prop :=
  ∀ status answer, envelope.data = .control status answer → status ≠ controlOk ∧ status ≠ controlSomeOffline

/-- **A request** switches and says so by its status, or it switches nothing and does not say so. -/
theorem handle_cases (signing : Signing) (unicode : Unicode) (tenant : MockTenant) (draws : PlatformDraws)
    (request : Request) :
    (∃ text homeId authorization switch envelope, request = .api (.control text homeId) authorization ∧
      (tenant.handle signing unicode draws request).switched = some switch ∧
      (tenant.handle signing unicode draws request).reply = some envelope ∧ Switches switch text envelope) ∨
    (tenant.handle signing unicode draws request).switched = none ∧
      ∀ envelope, (tenant.handle signing unicode draws request).reply = some envelope → Idle envelope := by
  have hidle {envelope : Envelope} (h : ∀ status answer, envelope.data ≠ .control status answer) :
      Idle envelope := fun status answer heq => absurd heq (h status answer)
  cases request with
  -- only a control request that is let in switches anything
  | token form authorization => exact .inr ⟨rfl, fun _ hreply => hidle (tokenEndpoint_data hreply)⟩
  | api query authorization =>
    unfold handle
    dsimp only
    cases hbearer : tenant.bearer authorization draws.now with
    | error envelope =>
      refine .inr ⟨rfl, fun _ hreply => ?_⟩
      cases hreply
      exact hidle (bearer_data hbearer)
    | ok scope =>
      have hother {envelope : Envelope} (h : ∀ status answer, envelope.data ≠ .control status answer) :
          ∀ envelope', some envelope = some envelope' → Idle envelope' := by
        rintro _ ⟨⟩
        exact hidle h
      dsimp only
      cases query with
      | homes => exact .inr ⟨rfl, hother nofun⟩
      | devices homeId =>
        unfold serve
        dsimp only
        split <;> exact .inr ⟨rfl, hother nofun⟩
      | control query homeId =>
        unfold serve
        dsimp only
        by_cases hscope : scopeControl ∉ split ',' scope
        · rw [if_pos hscope]
          exact .inr ⟨rfl, hother nofun⟩
        · rw [if_neg hscope]
          rcases tenant.control_cases query homeId with ⟨switch, answer, hswitched, hon, hreached, hreply⟩ |
            ⟨hswitched, hreply⟩
          · exact .inl ⟨query, homeId, authorization, switch, _, rfl, hswitched, hreply, hon, hreached, answer, rfl⟩
          · refine .inr ⟨hswitched, fun envelope henvelope status answer hanswer => ?_⟩
            obtain ⟨status', answer', rfl, hstatus⟩ := hreply envelope henvelope
            obtain ⟨rfl, -⟩ := Data.control.inj hanswer
            exact hstatus

/-! ### What the words say -/

/-- No word for switching on begins within a text of other characters. -/
theorem isIn_append {word pre name : String} (h : ∀ c ∈ pre.toList, word.toList.head? ≠ some c)
    (hword : word.toList ≠ []) : isIn word (pre ++ name) = isIn word name := by
  have hchars (cs : List Char) (hcs : ∀ c ∈ cs, word.toList.head? ≠ some c) :
      word.toList <:+: cs ++ name.toList ↔ word.toList <:+: name.toList := by
    induction cs with
    | nil => rw [List.nil_append]
    | cons c cs ih =>
      rw [List.cons_append, List.infix_cons_iff, ih fun d hd => hcs d (List.mem_cons_of_mem _ hd)]
      refine or_iff_right fun hstarts => hcs c List.mem_cons_self ?_
      obtain ⟨rest, hrest⟩ := hstarts
      cases hchars : word.toList with
      | nil => exact absurd hchars hword
      | cons d ds =>
        rw [hchars, List.cons_append] at hrest
        rw [(List.cons.inj hrest).1]
        rfl
  unfold isIn
  rw [String.toList_append]
  exact decide_eq_decide.mpr (hchars _ h)

/-- A text does not start with what another character starts. -/
theorem startsWith_append {pre text : String} (name : String) (h : pre.toList.head? ≠ text.toList.head?)
    (hpre : pre.toList ≠ []) (htext : text.toList ≠ []) : startsWith pre (text ++ name) = false := by
  unfold startsWith
  rw [String.toList_append]
  cases hchars : pre.toList with
  | nil => exact absurd hchars hpre
  | cons c cs =>
    cases htexts : text.toList with
    | nil => exact absurd htexts htext
    | cons d ds =>
      have hne : c ≠ d := by
        rintro rfl
        rw [hchars, htexts] at h
        exact h rfl
      simp [List.isPrefixOf, hne]

theorem isIn_self_append (word name : String) : isIn word (word ++ name) = true := by
  unfold isIn
  rw [String.toList_append]
  exact decide_eq_true (List.prefix_append _ _).isInfix

/-- Where the words say something, or begin otherwise, only the words for switching on count. -/
theorem turnOnOff_fst {query : String} (h : offWords.any (isIn · query) = true ∨
    startsWith "开" query = false ∧ startsWith "关" query = false) :
    (turnOnOff query).1 = onWords.any (isIn · query) := by
  unfold turnOnOff
  dsimp only
  rw [if_neg]
  rintro ⟨hnone, hstarts⟩
  rcases h with hoff | ⟨hon, hoff⟩
  · exact hnone (.inr hoff)
  · rw [hon, hoff] at hstarts
    simp at hstarts

end MockTenant

theorem verb_cases {action : Action} {v : String} (h : verb action = some v) :
    v = "打开" ∨ v = "关闭" ∨ v = "锁上" := by
  have hmem : ∀ entry ∈ verbs, entry.2 = "打开" ∨ entry.2 = "关闭" ∨ entry.2 = "锁上" := by decide
  obtain ⟨before, after, hverbs, -⟩ := List.lookup_eq_some_iff.mp h
  exact hmem _ (hverbs ▸ List.mem_append_right _ List.mem_cons_self)

/-- **Which way an instruction switches**: on if it says so, or if the name of the device does. -/
theorem turnOnOff_iff {action : Action} {v : String} (h : verb action = some v) (name : String) :
    (MockTenant.turnOnOff (v ++ name)).1 = true ↔
      v = "打开" ∨ ∃ word ∈ MockTenant.onWords, isIn word name = true := by
  have hany (hother : ∀ word ∈ MockTenant.onWords, v.toList.all (word.toList.head? ≠ some ·) = true) :
      MockTenant.onWords.any (isIn · (v ++ name)) = true ↔
        ∃ word ∈ MockTenant.onWords, isIn word name = true := by
    have hwords : ∀ word ∈ MockTenant.onWords, word.toList ≠ [] := by decide
    rw [List.any_eq_true]
    refine exists_congr fun word => and_congr_right fun hword => ?_
    have hchars : ∀ c ∈ v.toList, word.toList.head? ≠ some c := fun c hc =>
      of_decide_eq_true (List.all_eq_true.mp (hother word hword) c hc)
    rw [MockTenant.isIn_append hchars (hwords word hword)]
  rcases verb_cases h with rfl | rfl | rfl
  · refine iff_of_true ?_ (.inl rfl)
    unfold MockTenant.turnOnOff
    have hon : MockTenant.onWords.any (isIn · ("打开" ++ name)) = true :=
      List.any_eq_true.mpr ⟨"打开", by decide, MockTenant.isIn_self_append _ _⟩
    dsimp only
    rw [if_neg fun h => h.1 (.inl hon)]
    exact hon
  · have hoff : MockTenant.offWords.any (isIn · ("关闭" ++ name)) = true :=
      List.any_eq_true.mpr ⟨"关闭", by decide, MockTenant.isIn_self_append _ _⟩
    rw [MockTenant.turnOnOff_fst (.inl hoff), hany (by decide)]
    exact (or_iff_right (by decide)).symm
  · have hon : startsWith "开" ("锁上" ++ name) = false :=
      MockTenant.startsWith_append name (by decide) (by decide) (by decide)
    have hoff : startsWith "关" ("锁上" ++ name) = false :=
      MockTenant.startsWith_append name (by decide) (by decide) (by decide)
    rw [MockTenant.turnOnOff_fst (.inr ⟨hon, hoff⟩), hany (by decide)]
    exact (or_iff_right (by decide)).symm

/-! ### What a call says -/

open MockTenant

/-- What the outcome of a call says, the platform has done for it: it is delegated where every device that
the words name was switched, once; and where it is refused nothing was switched, unless some of several
devices were not connected. -/
def Truthful (call : Call) : Outcome → List Switch → Prop
  | .delegated _, switches => ∃ ownerId name action v switch, call = .execute ownerId name action ∧
      verb action = some v ∧ switches = [switch] ∧ switch.complete = true ∧ switch.Reached ∧
      (switch.on = true ↔ v = "打开" ∨ ∃ word ∈ onWords, isIn word name = true)
  | .refused code, switches => switches = [] ∨
      code = errorDeviceOffline ∧ ∃ switch, switches = [switch] ∧ switch.complete = false ∧ switch.Reached
  | .state _, _ => False
  | .timeout, switches | .raised, switches => switches.length ≤ 1

/-- An instruction of a call is its verb and the name of its device. -/
def Call.Speaks (call : Call) (query : Query) : Prop :=
  ∀ text homeId, query = .control text homeId → ∃ ownerId name action v,
    call = .execute ownerId name action ∧ verb action = some v ∧ text = v ++ name

theorem Call.query_speaks {call : Call} {session : Session} {query : Query}
    (h : call.query session = .ok query) : call.Speaks query := by
  rintro text homeId rfl
  cases call with
  | execute ownerId name action =>
    obtain ⟨-, -, hquery⟩ := except_bind_ok.mp h
    split at hquery
    · cases hquery
    · next v hverb =>
      cases hquery
      exact ⟨ownerId, name, action, v, rfl, hverb, rfl⟩
  | discover ownerId =>
    obtain ⟨-, -, hquery⟩ := except_bind_ok.mp h
    split at hquery <;> cases hquery
  | platform change => cases h

/-- A call that asks nothing of the platform is refused. -/
theorem Call.query_error {call : Call} {session : Session} {result : Result}
    (h : call.query session = .error result) : Truthful call result.outcome [] := by
  have hof {ownerId : OwnerId} (h : session.of ownerId = .error result) : Truthful call result.outcome [] := by
    unfold Session.of at h
    split_ifs at h
    cases h
    exact .inl rfl
  cases call with
  | execute ownerId name action =>
    rcases except_bind_error.mp h with hsession | ⟨-, -, hquery⟩
    · exact hof hsession
    · split at hquery
      · cases hquery
        exact .inl rfl
      · cases hquery
  | discover ownerId =>
    rcases except_bind_error.mp h with hsession | ⟨-, -, hquery⟩
    · exact hof hsession
    · split at hquery
      · cases hquery
        exact .inl rfl
      · cases hquery
  | platform change =>
    cases h
    exact Nat.zero_le 1

/-- What the platform has switched for a call that it has answered. -/
structure Replied (call : Call) (reply : Reply) (switches : List Switch) : Prop where
  once : switches.length ≤ 1
  tells : ∀ envelope, reply = .ok envelope →
    (∃ text homeId switch, call.Speaks (.control text homeId) ∧ switches = [switch] ∧
      Switches switch text envelope) ∨ switches = [] ∧ Idle envelope

/-- **An answer of the platform** is told as it is. -/
theorem Replied.truthful {call : Call} {envelope : Envelope} {switches : List Switch}
    (h : Replied call (.ok envelope) switches) : Truthful call (unwrap envelope).outcome switches := by
  rcases h.tells envelope rfl with ⟨text, homeId, switch, hspeaks, rfl, hswitch⟩ | ⟨rfl, hidle⟩
  · obtain ⟨answer, rfl⟩ := hswitch.envelope
    obtain ⟨ownerId, name, action, v, rfl, hverb, rfl⟩ := hspeaks text homeId rfl
    unfold unwrap answered
    dsimp only
    rw [if_neg (by decide)]
    unfold Result.outcome Switch.status
    dsimp only
    by_cases hcomplete : switch.complete = true
    · rw [if_pos hcomplete, if_pos rfl]
      refine ⟨ownerId, name, action, v, switch, rfl, hverb, rfl, hcomplete, hswitch.reached, ?_⟩
      rw [hswitch.on]
      exact turnOnOff_iff hverb name
    · rw [if_neg hcomplete, if_neg (by decide), if_pos (by decide)]
      exact .inr ⟨rfl, switch, rfl, by simpa using hcomplete, hswitch.reached⟩
  · unfold unwrap
    split_ifs with hcode
    · exact .inl rfl
    · cases hdata : envelope.data with
      | control status answer =>
        unfold Result.outcome
        dsimp only
        rw [if_neg (hidle status answer hdata).1]
        split_ifs <;> exact .inl rfl
      | _ => exact .inl rfl

/-! ### Every order of steps -/

/-- The message that a call waits for is the answer to this request. -/
def Ask.Sends (query : Query) (request : Request) : Ask → Prop
  | .api _ => ∃ authorization, request = .api query authorization
  | .token _ | .refresh _ => ∃ form authorization, request = .token form authorization

/-- What is true of a call in each phase. -/
def Phase.Fits (call : Call) (switches : List Switch) : Phase → Prop
  | .idle => switches = []
  | .awaiting query ask (.sent request) => switches = [] ∧ call.Speaks query ∧ ask.Sends query request
  | .awaiting query (.api _) (.handled reply) => call.Speaks query ∧ Replied call reply switches
  | .awaiting query _ (.handled _) => switches = [] ∧ call.Speaks query
  | .ended result (some request) => switches = [] ∧ (result = .timeout ∨ result = .raised) ∧
      ∃ query ask, call.Speaks query ∧ Ask.Sends query request ask
  | .ended result none => Truthful call result.outcome switches

variable {signing : Signing} {unicode : Unicode} {tenant : MockTenant} {draws : PlatformDraws} {call : Call}
  {session : Session} {query : Query} {now : Clock} {attempt : Attempt} {switches : List Switch}

theorem Session.token_fits (hspeaks : call.Speaks query) :
    (session.token signing now query attempt).Fits call [] := by
  unfold token
  split
  · exact Nat.zero_le 1
  · exact ⟨rfl, hspeaks, _, _, rfl⟩

theorem Session.renew_fits (hspeaks : call.Speaks query) :
    (session.renew signing now query attempt).Fits call [] := by
  unfold renew
  split_ifs
  · exact token_fits hspeaks
  · exact ⟨rfl, hspeaks, _, _, rfl⟩

theorem Session.authed_fits (hspeaks : call.Speaks query) :
    (session.authed signing now query).Fits call [] := by
  unfold authed
  split_ifs
  · exact renew_fits hspeaks
  · exact ⟨rfl, hspeaks, _, rfl⟩

/-- **A call that is answered** sends nothing again that was carried out. -/
theorem Session.receive_fits {ask : Ask} {reply : Reply}
    (hfits : (Phase.awaiting query ask (.handled reply)).Fits call switches) :
    (session.receive signing now query ask reply).2.Fits call switches := by
  cases ask with
  | token attempt =>
    obtain ⟨rfl, hspeaks⟩ := hfits
    unfold receive
    dsimp only
    split
    · exact ⟨rfl, hspeaks, _, rfl⟩
    · exact .inl rfl
    · exact Nat.zero_le 1
  | refresh attempt =>
    obtain ⟨rfl, hspeaks⟩ := hfits
    unfold receive
    dsimp only
    split
    · exact ⟨rfl, hspeaks, _, rfl⟩
    · exact token_fits hspeaks
    · exact Nat.zero_le 1
  | api attempt =>
    obtain ⟨hspeaks, hreplied⟩ := hfits
    cases reply with
    | error status => exact hreplied.once
    | ok envelope =>
      unfold receive
      dsimp only
      split_ifs with hagain
      · -- it is sent again, so it was not let in
        rcases hreplied.tells envelope rfl with ⟨text, homeId, switch, -, -, hswitch⟩ | ⟨rfl, -⟩
        · obtain ⟨answer, rfl⟩ := hswitch.envelope
          exact absurd hagain.1 (show ¬ (codeOk = codeUnauthorized ∨ codeOk = codeInvalidToken) by decide)
        · exact renew_fits hspeaks
      · exact hreplied.truthful

theorem Phase.Fits.once {ask : Ask} {reply : Reply}
    (hfits : (Phase.awaiting query ask (.handled reply)).Fits call switches) : switches.length ≤ 1 := by
  cases ask with
  | api attempt => exact hfits.2.once
  | _ =>
    obtain ⟨rfl, -⟩ := hfits
    exact Nat.zero_le 1

theorem Phase.Fits.garbled {ask : Ask} {reply : Reply} (status : Nat)
    (hfits : (Phase.awaiting query ask (.handled reply)).Fits call switches) :
    (Phase.awaiting query ask (.handled (.error status))).Fits call switches := by
  cases ask with
  | api attempt => exact ⟨hfits.1, hfits.2.once, nofun⟩
  | _ => exact hfits

/-- **A request that arrives** is carried out for its call, and what is answered says so. -/
theorem replied_of_handle (hspeaks : call.Speaks query) {authorization : String} :
    Replied call ((tenant.handle signing unicode draws (.api query authorization)).reply.elim (.error 500) .ok)
      (tenant.handle signing unicode draws (.api query authorization)).switched.toList := by
  rcases tenant.handle_cases signing unicode draws (.api query authorization) with
    ⟨text, homeId, authorization', switch, envelope, hrequest, hswitched, hreply, hswitch⟩ | ⟨hswitched, hreply⟩
  · cases hrequest
    rw [hswitched, hreply]
    refine ⟨Nat.le_refl 1, ?_⟩
    rintro _ ⟨⟩
    exact .inl ⟨text, homeId, switch, hspeaks, rfl, hswitch⟩
  · rw [hswitched]
    refine ⟨Nat.zero_le 1, fun envelope henvelope => .inr ⟨rfl, hreply envelope ?_⟩⟩
    cases hanswer : (tenant.handle signing unicode draws (.api query authorization)).reply with
    | none =>
      rw [hanswer] at henvelope
      cases henvelope
    | some envelope' =>
      rw [hanswer] at henvelope
      cases henvelope
      rfl

namespace Service

variable {s : Service} {calls : Nat → Call} {b c : Nat} {phase : Phase} {turn : ServiceDraws}
  {request : Request}

theorem switched_handle_self : (s.handle signing unicode c draws request).switched c =
    s.switched c ++ (s.tenant.handle signing unicode draws request).switched.toList := by
  unfold handle switched
  dsimp only
  rw [List.filter_append, List.map_append]
  cases (s.tenant.handle signing unicode draws request).switched <;> simp

theorem switched_handle_ne (h : b ≠ c) :
    (s.handle signing unicode c draws request).switched b = s.switched b := by
  unfold handle switched
  dsimp only
  rw [List.filter_append, List.map_append]
  cases (s.tenant.handle signing unicode draws request).switched <;> simp [Ne.symm h]

/-- A step switches for its own call only. -/
theorem act_switched_ne (h : b ≠ c) :
    (act signing unicode calls c turn s phase).1.switched b = s.switched b := by
  unfold act
  split
  · split
    · rfl
    · split <;> rfl
  · split
    · exact switched_handle_ne h
    all_goals rfl
  · split <;> rfl
  · split
    · exact switched_handle_ne h
    · rfl
  · rfl

/-- **A request that arrives** is carried out for its call. -/
theorem handle_fits (unicode : Unicode) {ask : Ask} (hnone : s.switched c = [])
    (hspeaks : (calls c).Speaks query)
    (hsends : ask.Sends query request) :
    (Phase.awaiting query ask (.handled (s.reply signing unicode draws request))).Fits (calls c)
      ((s.handle signing unicode c draws request).switched c) := by
  rw [switched_handle_self, hnone, List.nil_append]
  cases ask with
  | api attempt =>
    obtain ⟨authorization, rfl⟩ := hsends
    exact ⟨hspeaks, replied_of_handle hspeaks⟩
  | _ =>
    obtain ⟨form, authorization, rfl⟩ := hsends
    exact ⟨rfl, hspeaks⟩

/-- **A step** keeps what is true of its call. -/
theorem act_fits (hfits : phase.Fits (calls c) (s.switched c)) :
    (act signing unicode calls c turn s phase).2.Fits (calls c)
      ((act signing unicode calls c turn s phase).1.switched c) := by
  cases phase with
  | idle =>
    replace hfits : s.switched c = [] := hfits
    simp only [act]
    split
    · exact hfits
    · split
      · next result hquery =>
        show Truthful _ _ (s.switched c)
        rw [hfits]
        exact Call.query_error hquery
      · next query hquery =>
        show Phase.Fits _ (s.switched c) _
        rw [hfits]
        exact Session.authed_fits (Call.query_speaks hquery)
  | awaiting query ask flight =>
    cases flight with
    | sent request =>
      obtain ⟨hnone, hspeaks, hsends⟩ := hfits
      cases hevent : turn.event with
      | arrives =>
        simp only [act, hevent]
        exact handle_fits unicode hnone hspeaks hsends
      | fails =>
        simp only [act, hevent]
        exact ⟨hnone, .inr rfl, query, ask, hspeaks, hsends⟩
      | garbled status =>
        cases ask with
        | api attempt =>
          simp only [act, hevent]
          exact ⟨hnone, .inr rfl, query, .api attempt, hspeaks, hsends⟩
        | _ =>
          simp only [act, hevent]
          exact Session.receive_fits ⟨hnone, hspeaks⟩
      | deadline =>
        simp only [act, hevent]
        exact ⟨hnone, .inl rfl, query, ask, hspeaks, hsends⟩
    | handled reply =>
      cases hevent : turn.event with
      | arrives =>
        simp only [act, hevent]
        exact Session.receive_fits hfits
      | fails =>
        simp only [act, hevent]
        exact hfits.once
      | garbled status =>
        simp only [act, hevent]
        exact Session.receive_fits (hfits.garbled status)
      | deadline =>
        simp only [act, hevent]
        exact hfits.once
  | ended result late =>
    cases late with
    | none => exact hfits
    | some request =>
      obtain ⟨hnone, hresult, query, ask, hspeaks, hsends⟩ := hfits
      have htruthful {switches : List Switch} (hlength : switches.length ≤ 1) :
          Truthful (calls c) result.outcome switches := by
        rcases hresult with rfl | rfl <;> exact hlength
      cases hevent : turn.event with
      | arrives =>
        -- it is carried out although nobody waits for it
        simp only [act, hevent]
        exact htruthful (handle_fits unicode hnone hspeaks hsends).once
      | _ =>
        simp only [act, hevent]
        rw [hnone]
        exact htruthful (Nat.zero_le 1)

end Service

/-- What the platform has switched for a call, and what the call says of it, in each phase. -/
theorem Phase.Fits.told {phase : Phase} (hfits : phase.Fits call switches) :
    switches.length ≤ 1 ∧
      ∀ result late, phase = .ended result late → Truthful call result.outcome switches := by
  have htruthful {outcome : Outcome} (h : Truthful call outcome switches) : switches.length ≤ 1 := by
    cases outcome with
    | state state => exact h.elim
    | delegated answer =>
      obtain ⟨-, -, -, -, switch, -, -, rfl, -⟩ := h
      exact Nat.le_refl 1
    | refused code =>
      rcases h with rfl | ⟨-, switch, rfl, -⟩
      · exact Nat.zero_le 1
      · exact Nat.le_refl 1
    | timeout => exact h
    | raised => exact h
  cases phase with
  | idle =>
    obtain rfl : switches = [] := hfits
    exact ⟨Nat.zero_le 1, fun _ _ h => Phase.noConfusion h⟩
  | awaiting query ask flight =>
    refine ⟨?_, fun _ _ h => Phase.noConfusion h⟩
    cases flight with
    | sent request =>
      obtain ⟨rfl, -⟩ := hfits
      exact Nat.zero_le 1
    | handled reply => exact hfits.once
  | ended result late =>
    cases late with
    | none =>
      refine ⟨htruthful hfits, ?_⟩
      rintro _ _ ⟨⟩
      exact hfits
    | some request =>
      obtain ⟨rfl, hresult, -⟩ := hfits
      refine ⟨Nat.zero_le 1, ?_⟩
      rintro _ _ ⟨⟩
      rcases hresult with rfl | rfl <;> exact Nat.zero_le 1

/-- **No instruction is carried out twice, and every outcome is true.** In every order of the steps of all
calls, of what happens at the platform beside them, and of messages that get lost: the platform has carried
out the instruction of a call at most once. If the call is delegated, then exactly once, with every device
the words name connected, and it was switched on exactly if the verb or the name of the device says so. If
the call is refused, nothing was switched, unless it is refused as offline for some of several devices. -/
theorem delegated_truthfully (signing : Signing) (unicode : Unicode) (calls : Nat → Call) (session : Session)
    (tenant : MockTenant) (turns : List (Turn ServiceDraws)) (c : Nat) :
    ((served signing unicode calls session tenant turns).shared.switched c).length ≤ 1 ∧
      ∀ result late, (served signing unicode calls session tenant turns).phase c = .ended result late →
        Truthful (calls c) result.outcome
          ((served signing unicode calls session tenant turns).shared.switched c) := by
  have hfits : ((served signing unicode calls session tenant turns).phase c).Fits (calls c)
      ((served signing unicode calls session tenant turns).shared.switched c) := by
    refine (Pool.inv (s := opened session tenant) (I := fun _ => True)
      (L := fun c (s : Service) (phase : Phase) => phase.Fits (calls c) (s.switched c))
      (fun _ _ _ _ _ _ => trivial) (fun c turn s phase _ hfits => Service.act_fits hfits) ?_
      ⟨trivial, fun _ => rfl⟩ turns).2 c
    intro c turn s phase b other hne _ _ hother
    rw [Service.act_switched_ne hne]
    exact hother
  exact hfits.told

end EidolonHub.SmartHome.Zhoubian
