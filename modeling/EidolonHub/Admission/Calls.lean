import EidolonHub.Admission.Simulation
import EidolonHub.Admission.Writes

/-!
# EidolonHub.Admission.Calls

**Calls that interleave.** A call checks its actor, looks for a stored answer,
runs the expiry sweep if its command does, and then acts in one transaction, which
looks for a stored answer once more under the lock. Between these steps any other
call may take any number of its own.

An answer is stored in the transaction that commits the effects it tells of, under
the identity of the call, and is never replaced. Whatever the order of the steps,
a later call of that identity which passes the checks made before its lookup is
answered from it and changes nothing.
-/

namespace EidolonHub.Admission

open EidolonHub.Library EidolonHub.Library.Tx

/-! ### Calls and their steps -/

/-- How far a call has come. -/
inductive Phase where
  | fresh
  /-- the lookup found nothing; the expiry sweep is next -/
  | sweeping (fp : Fingerprint)
  /-- the transaction of the command is next -/
  | acting (fp : Fingerprint)
  | answered (answer : Except HubError CommandResult)

/-- The database and the calls at work on it. -/
structure Calls where
  tables : Tables
  phase : Nat → Phase

/-- Nobody has called yet. -/
def Calls.start (t : Tables) : Calls := ⟨t, fun _ => .fresh⟩

/-- The call stands in another phase. -/
def Calls.moved (s : Calls) (c : Nat) (phase : Phase) : Calls :=
  { s with phase := Function.update s.phase c phase }

/-- The call has its answer. -/
def Calls.answer (s : Calls) (c : Nat) (answer : Except HubError CommandResult) : Calls :=
  s.moved c (.answered answer)

/-- Transactions that are not calls of a command. -/
inductive Background where
  | expireDue (eventIds : EnrollmentId → EventId) (now : Timestamp)
  | recordStanding (jti : Jti) (operationalKeyId : KeyId) (context : ActorContext) (now : Timestamp)
  | withdrawController (principalId : PrincipalId) (context : ActorContext) (now : Timestamp)

/-- The request that the background work makes of the tables. -/
def Background.request : Background → Request
  | .expireDue eventIds now => .expireDue eventIds now
  | .recordStanding jti operationalKeyId context now =>
    .recordStanding jti operationalKeyId context now
  | .withdrawController principalId context now => .withdrawController principalId context now

/-- The next step of a call, with what it draws and whether the projection of the
Claim it tells of succeeds; or a transaction of someone else. -/
inductive Step where
  | call (c : Nat) (draws : Draws) (eventIds : EnrollmentId → EventId) (projected : Bool)
  | other (background : Background)

/-- The answer of an acknowledgement whose Claim is not in the directory yet. -/
def projectionUnavailable : HubError :=
  .problem
    { code := .authorityUnavailable
      detail := "Claim committed but public directory projection is unavailable"
      status := 503
      category := .unavailable
      retryable := true }

/-- `_project_committed_claim`, which only an acknowledgement awaits. -/
def Command.projectCommitted (cmd : Command) (projected : Bool) (r : CommandResult) :
    Except HubError CommandResult :=
  match cmd with
  | .ackClaimGrant .. => if projected then .ok r else .error projectionUnavailable
  | _ => .ok r

variable (authority : AdmissionAuthority) (cmd : Nat → Command)

/-- What is left of a call that has not looked for a stored answer yet. -/
def Calls.begin (s : Calls) (c : Nat) (projected : Bool) : Calls :=
  match (cmd c).authorized authority with
  | .error e => s.answer c (.error e)
  | .ok fp =>
    match replayInSession ((cmd c).key authority) fp s.tables with
    | .error e => s.answer c (.error e)
    | .ok (some replay, _) => s.answer c ((cmd c).projectCommitted projected replay)
    | .ok (none, _) => s.moved c (if (cmd c).sweeps then .sweeping fp else .acting fp)

/-- The expiry sweep of a call. -/
def Calls.sweep (s : Calls) (c : Nat) (fp : Fingerprint) (eventIds : EnrollmentId → EventId)
    (now : Timestamp) : Calls :=
  match AdmissionAuthority.expireDue eventIds now s.tables with
  | .error e => s.answer c (.error e)
  | .ok (_, t) => { s with tables := t }.moved c (.acting fp)

/-- The transaction of a call. -/
def Calls.act (s : Calls) (c : Nat) (fp : Fingerprint) (draws : Draws) (projected : Bool) : Calls :=
  match (cmd c).session authority fp draws s.tables with
  | .error e => s.answer c (.error e)
  | .ok (r, t) => { s with tables := t }.answer c ((cmd c).projectCommitted projected r)

/-- One step of one call, or of the work beside the calls. A call first sweeps what has expired, then
acts in a transaction of its own, and last is projected. -/
def Calls.step (s : Calls) : Step → Calls
  | .call c draws eventIds projected =>
    match s.phase c with
    | .fresh => s.begin authority cmd c projected
    | .sweeping fp => s.sweep c fp eventIds draws.now
    | .acting fp => s.act authority cmd c fp draws projected
    | .answered _ => s
  | .other background => { s with tables := authority.next s.tables background.request }

/-! ### Stored answers stay -/

/-- No stored answer is removed or replaced. -/
def Remembers (t t' : Tables) : Prop := ∀ row ∈ t.results, row ∈ t'.results

instance : Std.Refl Remembers := ⟨fun _ _ => id⟩

instance : IsTrans Tables Remembers := ⟨fun _ _ _ h h' row hrow => h' row (h row hrow)⟩

theorem storeWithin_remembers : StoreWithin Remembers :=
  .of_frames (fun _ _ _ => id) (fun _ _ _ => id) (fun _ _ _ => id) (fun _ _ _ => id)
    (fun _ _ _ => id) (fun _ _ _ => id) (fun _ _ _ => id) (fun _ _ _ => id)
    (fun _ _ _ _ => StoreWithin.within_add fun _ _ hx _ hrow => (Table.mem_insert hx).mpr (.inl hrow))
    fun _ _ _ => StoreWithin.within_addOutbox (fun _ _ _ => id) fun _ _ _ => id

theorem establishStanding_remembers (payload : CreateEnrollment)
    (enrolled : AdmissionAuthority.VerifiedEnrollment) (now : Timestamp) :
    Within Remembers (AdmissionAuthority.establishStanding payload enrolled now) :=
  StoreWithin.establishStanding (fun _ _ _ => id) fun _ _ _ => id

variable {authority cmd} {s s' : Calls} {t t' : Tables} {c : Nat} {fp : Fingerprint}
  {key : CommandKey} {r : CommandResult} {row : CommandResultRow}

theorem session_remembers {cmd : Command} {draws : Draws} :
    Within Remembers (cmd.session authority fp draws) := by
  by_cases hcreate : ∃ commandId correlationId payload,
      cmd = .createEnrollment commandId correlationId payload
  · obtain ⟨commandId, correlationId, payload, rfl⟩ := hcreate
    exact storeWithin_remembers.createEnrollment establishStanding_remembers
  · exact storeWithin_remembers.session fun _ _ _ heq => hcreate ⟨_, _, _, heq⟩

/-- The lookup of a call changes no table. -/
@[simp] theorem begin_tables {projected : Bool} :
    (s.begin authority cmd c projected).tables = s.tables := by
  unfold Calls.begin
  repeat' split
  all_goals rfl

/-- Whoever takes a step, what is stored stays stored. -/
theorem step_remembers (s : Calls) (step : Step) :
    Remembers s.tables (s.step authority cmd step).tables := by
  intro row hrow
  cases step with
  | other background =>
    exact storeWithin_remembers.next establishStanding_remembers s.tables background.request row hrow
  | call c draws eventIds projected =>
    unfold Calls.step
    cases hphase : s.phase c with
    | fresh =>
      simp only [hphase, begin_tables]
      exact hrow
    | sweeping fp =>
      simp only [hphase, Calls.sweep]
      split
      · exact hrow
      · next n t hsweep => exact storeWithin_remembers.expireDue authority hsweep row hrow
    | acting fp =>
      simp only [hphase, Calls.act]
      split
      · exact hrow
      · next r t hact => exact session_remembers hact row hrow
    | answered answer =>
      simp only [hphase]
      exact hrow

/-! ### What a call stores -/

/-- The body stores its answer under this identity and fingerprint. -/
def Saves (key : CommandKey) (fp : Fingerprint) (m : Session CommandResult) : Prop :=
  ∀ t r t', Commits m t r t' → ∃ occurredAt, ⟨key, fp, r, occurredAt⟩ ∈ t'.results

/-- The body ends with this answer and keeps what is stored. -/
def EndsWith (result : CommandResult) (m : Session CommandResult) : Prop :=
  ∀ t r t', Commits m t r t' → r = result ∧ Remembers t t'

theorem endsWith_pure {result : CommandResult} : EndsWith result (pure result) := by
  intro t r t' h
  rw [commits_pure] at h
  exact ⟨h.1, fun row hrow => h.2 ▸ hrow⟩

theorem EndsWith.bind {α : Type} {result : CommandResult} {m : Session α}
    {f : α → Session CommandResult} (hm : Within Remembers m) (hf : ∀ a, EndsWith result (f a)) :
    EndsWith result (m >>= f) := by
  intro t r t' h
  obtain ⟨a, t₁, hfirst, hrest⟩ := commits_bind.mp h
  obtain ⟨hr, hkept⟩ := hf a t₁ r t' hrest
  exact ⟨hr, fun row hrow => hkept row (hm hfirst row hrow)⟩

theorem Saves.bind {α : Type} {m : Session α} {f : α → Session CommandResult}
    (hf : ∀ a, Saves key fp (f a)) : Saves key fp (m >>= f) := by
  intro t r t' h
  obtain ⟨a, t₁, -, hrest⟩ := commits_bind.mp h
  exact hf a t₁ r t' hrest

/-- A body that stores its answer and then only ends with it. -/
theorem saves_save {result : CommandResult} {occurredAt : Timestamp}
    {k : Unit → Session CommandResult} (hk : EndsWith result (k ())) :
    Saves key fp (saveResult key fp result occurredAt >>= k) := by
  intro t r t' h
  obtain ⟨u, t₁, hsave, hrest⟩ := commits_bind.mp h
  obtain ⟨rfl, hkept⟩ := hk t₁ r t' hrest
  obtain ⟨x, hx, rfl⟩ := commits_add.mp hsave
  exact ⟨occurredAt, hkept _ ((Table.mem_insert hx).mpr (.inr rfl))⟩

section Commands

open AdmissionAuthority

/-- Deciding inside an enrollment, and every publication, keep what is stored. -/
theorem publish_remembers {eventId : EventId} {type : EventType} {aggregateId : String}
    {revision : Nat} {event : Event} {occurredAt : Timestamp} :
    Within Remembers (addOutbox eventId type aggregateId revision event occurredAt) :=
  StoreWithin.within_addOutbox (fun _ _ _ => id) fun _ _ _ => id

theorem createInSession_saves {commandId : CommandId} {correlationId : CorrelationId}
    {payload : CreateEnrollment} {enrolled : VerifiedEnrollment} {draws : Draws} :
    Saves (createKey commandId payload) fp
      (authority.createInSession commandId correlationId payload enrolled fp draws) := by
  refine Saves.bind fun _ => Saves.bind fun _ => saves_save (EndsWith.bind publish_remembers
    fun _ => EndsWith.bind StoreWithin.standingFor fun found => ?_)
  cases found with
  | none => exact endsWith_pure
  | some decider =>
    exact EndsWith.bind storeWithin_remembers.decideInSession fun _ => endsWith_pure

theorem finishRevocation_saves {commandId : CommandId} {correlationId : CorrelationId}
    {ref : DeviceRef} {reason : String} {context : ActorContext} {draws : Draws} {revision : Nat} :
    Saves (revokeKey commandId context) fp (authority.finishRevocation commandId correlationId ref
      reason context fp draws revision) :=
  Saves.bind fun _ => saves_save <| EndsWith.bind within_lift fun _ =>
    EndsWith.bind publish_remembers fun _ => endsWith_pure

/-- **A command that acts stores its answer**; otherwise it repeats one. -/
theorem session_saves {cmd : Command} {draws : Draws}
    (h : Commits (cmd.session authority fp draws) t r t') :
    t' = t ∨ t.results.get (·.key) (cmd.key authority) = none ∧
      ∃ occurredAt, ⟨cmd.key authority, fp, r, occurredAt⟩ ∈ t'.results := by
  have honce : ∀ {key body}, Saves key fp body → Commits (once key fp body) t r t' →
      t' = t ∨ t.results.get (·.key) key = none ∧
        ∃ occurredAt, ⟨key, fp, r, occurredAt⟩ ∈ t'.results := by
    intro key body hsaves honce
    rcases once_commits honce with ⟨hsame, -⟩ | ⟨hnone, hbody⟩
    · exact .inl hsame
    · exact .inr ⟨hnone, hsaves t r t' hbody⟩
  cases cmd with
  | createEnrollment commandId correlationId payload =>
    obtain ⟨enrolled, -, h⟩ := commits_lift_bind.mp h
    exact honce createInSession_saves h
  | decideEnrollment =>
    refine honce (Saves.bind fun _ => Saves.bind fun _ => Saves.bind fun _ => Saves.bind fun _ =>
      Saves.bind fun _ => Saves.bind fun _ => Saves.bind fun _ => Saves.bind fun _ =>
      saves_save endsWith_pure) h
  | cancelEnrollment =>
    refine honce (Saves.bind fun _ => Saves.bind fun _ => Saves.bind fun _ => Saves.bind fun _ =>
      Saves.bind fun _ => saves_save (EndsWith.bind publish_remembers fun _ => endsWith_pure)) h
  | collectClaimGrant =>
    refine honce (Saves.bind fun found => ?_) h
    obtain ⟨p, g⟩ := found
    simp only
    split
    · exact Saves.bind fun _ => saves_save endsWith_pure
    · exact Saves.bind fun _ => Saves.bind fun _ => Saves.bind fun _ =>
        saves_save (EndsWith.bind publish_remembers fun _ => endsWith_pure)
  | ackClaimGrant =>
    exact honce (Saves.bind fun _ => Saves.bind fun _ => Saves.bind fun _ => Saves.bind fun _ =>
      Saves.bind fun _ => Saves.bind fun _ => Saves.bind fun _ => saves_save
        (EndsWith.bind publish_remembers fun _ => EndsWith.bind within_lift fun _ =>
          EndsWith.bind publish_remembers fun _ => endsWith_pure)) h
  | revokeClaim =>
    refine honce (Saves.bind fun found => ?_) h
    cases found with
    | none =>
      exact Saves.bind fun _ => Saves.bind fun _ => Saves.bind fun _ => Saves.bind fun _ =>
        Saves.bind fun _ => Saves.bind fun _ => finishRevocation_saves
    | some claim =>
      refine Saves.bind fun _ => Saves.bind fun _ => ?_
      simp only
      split
      · exact saves_save endsWith_pure
      · exact Saves.bind fun _ => finishRevocation_saves

end Commands

/-! ### What a later call is answered -/

/-- What a stored answer says to a call of this fingerprint. -/
def replyTo (stored : Fingerprint) (r : CommandResult) (fp : Fingerprint) :
    Except HubError CommandResult :=
  if stored = fp then .ok r.replay
  else .error (conflict .idempotencyConflict
    "command_id was reused with different canonical payload")

/-- What a call verifies between its lookup and its transaction: an enrollment its proof,
the other commands nothing. -/
def Command.verified (authority : AdmissionAuthority) (now : Timestamp) :
    Command → Except HubError Unit
  | .createEnrollment _ _ payload => (authority.verifyEnrollment payload now).map fun _ => ()
  | _ => .ok ()

theorem replayInSession_of_stored (hrow : row ∈ t.results) :
    replayInSession row.key fp t = (replyTo row.fingerprint row.result fp).map (some ·, t) := by
  have hget : t.results.get (·.key) row.key = some row := Table.get_of_mem result_key_isKey hrow
  unfold replayInSession replyTo
  simp only [run_read_bind, hget, run_raiseIf_bind]
  by_cases hfp : row.fingerprint = fp
  · simp [hfp, pure, Except.map]
  · simp [hfp, Except.map]

theorem once_of_stored {body : Session CommandResult} (hrow : row ∈ t.results)
    (hkey : row.key = key) :
    once key fp body t = (replyTo row.fingerprint row.result fp).map (·, t) := by
  unfold once
  rw [run_bind, ← hkey, replayInSession_of_stored hrow]
  cases replyTo row.fingerprint row.result fp <;> rfl

/-- A transaction of a call whose identity has a stored answer repeats it. -/
theorem session_of_stored {cmd : Command} {draws : Draws} (hrow : row ∈ t.results)
    (hkey : row.key = cmd.key authority) : cmd.session authority fp draws t =
      (cmd.verified authority draws.now).bind fun _ =>
        (replyTo row.fingerprint row.result fp).map (·, t) := by
  cases cmd with
  | createEnrollment commandId correlationId payload =>
    simp only [Command.session, AdmissionAuthority.createEnrollment, run_lift_bind,
      Command.verified]
    cases authority.verifyEnrollment payload draws.now with
    | error e => rfl
    | ok enrolled => exact once_of_stored hrow hkey
  | _ => exact once_of_stored hrow hkey

/-- The answer of a call whose identity has a stored answer, once it looks it up. -/
theorem begin_of_stored {projected : Bool} (hrow : row ∈ s.tables.results)
    (hkey : row.key = (cmd c).key authority) :
    s.begin authority cmd c projected = s.answer c (do
      let fp ← (cmd c).authorized authority
      let r ← replyTo row.fingerprint row.result fp
      (cmd c).projectCommitted projected r) := by
  unfold Calls.begin
  cases (cmd c).authorized authority with
  | error e => rfl
  | ok fp =>
    simp only [← hkey, replayInSession_of_stored hrow]
    cases hreply : replyTo row.fingerprint row.result fp with
    | error e => simp [Except.map, bind, Except.bind, hreply]
    | ok r => simp [Except.map, bind, Except.bind, hreply]

/-- The answer of a call whose identity got a stored answer since it looked. -/
theorem act_of_stored {draws : Draws} {projected : Bool} (hrow : row ∈ s.tables.results)
    (hkey : row.key = (cmd c).key authority) :
    s.act authority cmd c fp draws projected = s.answer c (do
      (cmd c).verified authority draws.now
      let r ← replyTo row.fingerprint row.result fp
      (cmd c).projectCommitted projected r) := by
  unfold Calls.act
  rw [session_of_stored hrow hkey]
  cases (cmd c).verified authority draws.now with
  | error e => rfl
  | ok u =>
    cases replyTo row.fingerprint row.result fp with
    | error e => simp [Except.map, bind, Except.bind]
    | ok r => simp [Except.map, bind, Except.bind]

/-! ### Idempotence -/

/-- The step commits the effects of a call, which looked with this fingerprint and
commits with this answer. -/
structure Effect (authority : AdmissionAuthority) (cmd : Nat → Command) (s : Calls) (step : Step)
    (c : Nat) (fp : Fingerprint) (r : CommandResult) : Prop where
  phase : s.phase c = .acting fp
  commits : ∃ draws eventIds projected, step = .call c draws eventIds projected ∧
    Commits ((cmd c).session authority fp draws) s.tables r (s.step authority cmd step).tables
  changes : (s.step authority cmd step).tables ≠ s.tables

/-- What a step of a call does once effects of its identity were committed, with this
fingerprint and answer. -/
def Settled (authority : AdmissionAuthority) (cmd : Nat → Command) (stored : Fingerprint)
    (r : CommandResult) (s : Calls) (c : Nat) (draws : Draws)
    (eventIds : EnrollmentId → EventId) (projected : Bool) : Prop :=
  let s' := s.step authority cmd (.call c draws eventIds projected)
  match s.phase c with
  | .fresh => s' = s.answer c (do
      let fp ← (cmd c).authorized authority
      let r ← replyTo stored r fp
      (cmd c).projectCommitted projected r)
  | .sweeping _ => s'.tables = authority.next s.tables (.expireDue eventIds draws.now)
  | .acting fp => s' = s.answer c (do
      (cmd c).verified authority draws.now
      let r ← replyTo stored r fp
      (cmd c).projectCommitted projected r)
  | .answered _ => s' = s

/-- A step that raises changes no table, unless all it failed to do is to project
what it committed. -/
def RaisesCleanly (authority : AdmissionAuthority) (cmd : Nat → Command) : Prop :=
  ∀ (s : Calls) c draws eventIds projected e, (∀ a, s.phase c ≠ .answered a) →
    (s.step authority cmd (.call c draws eventIds projected)).phase c = .answered (.error e) →
    e ≠ projectionUnavailable →
    (s.step authority cmd (.call c draws eventIds projected)).tables = s.tables

/-- The answer a call was given. -/
theorem answer_phase {a : Except HubError CommandResult} : (s.answer c a).phase c = .answered a := by
  simp [Calls.answer, Calls.moved]

theorem moved_phase {phase : Phase} : (s.moved c phase).phase c = phase := by
  simp [Calls.moved]

/-- Only the projection of a Claim makes an error of a committed answer. -/
theorem projectCommitted_error {cmd : Command} {projected : Bool} {e : HubError}
    (h : cmd.projectCommitted projected r = .error e) : e = projectionUnavailable := by
  unfold Command.projectCommitted at h
  split at h
  · split at h
    · cases h
    · exact (Except.error.inj h).symm
  · cases h

/-- A step of one call leaves every other call where it is. -/
theorem step_phase_ne {c c' : Nat} {draws : Draws} {eventIds : EnrollmentId → EventId}
    {projected : Bool} (hne : c' ≠ c) :
    (s.step authority cmd (.call c draws eventIds projected)).phase c' = s.phase c' := by
  have hmoved : ∀ (t : Tables) (phase : Phase),
      (Calls.moved { s with tables := t } c phase).phase c' = s.phase c' := by
    intro t phase
    simp [Calls.moved, hne]
  simp only [Calls.step, Calls.begin, Calls.sweep, Calls.act]
  repeat' split
  all_goals first | rfl | exact hmoved _ _

theorem raisesCleanly (authority : AdmissionAuthority) (cmd : Nat → Command) :
    RaisesCleanly authority cmd := by
  intro s c draws eventIds projected e hopen hanswer hprojected
  simp only [Calls.step] at hanswer ⊢
  cases hphase : s.phase c with
  | fresh => simp only [begin_tables]
  | sweeping fp =>
    simp only [hphase, Calls.sweep] at hanswer ⊢
    split at hanswer
    · rfl
    · rw [moved_phase] at hanswer
      cases hanswer
  | acting fp =>
    simp only [hphase, Calls.act] at hanswer ⊢
    split at hanswer
    · rfl
    · rw [answer_phase, Phase.answered.injEq] at hanswer
      exact absurd (projectCommitted_error hanswer) hprojected
  | answered a => exact absurd hphase (hopen a)

/-- With a stored answer, every step of a call of that identity is settled. -/
theorem settled_of_stored {draws : Draws} {eventIds : EnrollmentId → EventId} {projected : Bool}
    (hrow : row ∈ s.tables.results) (hkey : row.key = (cmd c).key authority) :
    Settled authority cmd row.fingerprint row.result s c draws eventIds projected := by
  simp only [Settled, Calls.step]
  cases hphase : s.phase c with
  | fresh => exact begin_of_stored hrow hkey
  | sweeping fp =>
    show (s.sweep c fp eventIds draws.now).tables = _
    simp only [Calls.sweep, AdmissionAuthority.next, attempt, Request.transaction, run_bind]
    cases AdmissionAuthority.expireDue eventIds draws.now s.tables <;> rfl
  | acting fp => exact act_of_stored hrow hkey
  | answered a => rfl

/-- **Commands are idempotent by command id**, for calls that pass the checks made
before the lookup that answers them. -/
theorem calls_idempotent (authority : AdmissionAuthority) (cmd : Nat → Command) (t : Tables)
    (before between : List Step) {step : Step} {c : Nat} {fp : Fingerprint} {r : CommandResult}
    (heffect : Effect authority cmd (run (Calls.step authority cmd) (.start t) before) step c fp r) :
    let s := run (Calls.step authority cmd) (.start t) (before ++ step :: between)
    RaisesCleanly authority cmd ∧
    ∀ c' draws eventIds projected, (cmd c').key authority = (cmd c).key authority →
      Settled authority cmd fp r s c' draws eventIds projected ∧
      ∀ fp' r', ¬ Effect authority cmd s (.call c' draws eventIds projected) c' fp' r' := by
  intro s
  have hstored : ∃ row ∈ s.tables.results, row.key = (cmd c).key authority ∧
      row.fingerprint = fp ∧ row.result = r := by
    obtain ⟨draws, eventIds, projected, -, hcommit⟩ := heffect.commits
    obtain ⟨-, occurredAt, hrow⟩ := (session_saves hcommit).resolve_left heffect.changes
    refine ⟨⟨(cmd c).key authority, fp, r, occurredAt⟩, ?_, rfl, rfl, rfl⟩
    show _ ∈ (run (Calls.step authority cmd) (.start t) (before ++ step :: between)).tables.results
    rw [run_append]
    exact run_inv (I := fun s : Calls => _ ∈ s.tables.results)
      (fun s step hrow => step_remembers s step _ hrow) hrow between
  obtain ⟨row, hrow, hkey, rfl, rfl⟩ := hstored
  refine ⟨raisesCleanly authority cmd, ?_⟩
  intro c' draws eventIds projected hsame
  refine ⟨settled_of_stored hrow (hkey.trans hsame.symm), ?_⟩
  intro fp' r' heffect'
  refine heffect'.changes ?_
  simp only [Calls.step, heffect'.phase, act_of_stored hrow (hkey.trans hsame.symm)]
  rfl

/-! ### A call that commits -/

/-- A call that finds no stored answer goes on. -/
theorem begin_of_none {projected : Bool} (hfp : (cmd c).authorized authority = .ok fp)
    (hnone : s.tables.results.get (·.key) ((cmd c).key authority) = none) :
    s.begin authority cmd c projected =
      s.moved c (if (cmd c).sweeps then .sweeping fp else .acting fp) := by
  simp [Calls.begin, hfp, replayInSession, run_read_bind, hnone, pure]

/-- A call whose transaction commits a change has committed its effects. -/
theorem effect_of_commits {draws : Draws} {eventIds : EnrollmentId → EventId} {projected : Bool}
    (hphase : s.phase c = .acting fp)
    (hcommit : Commits ((cmd c).session authority fp draws) s.tables r t') (hchange : t' ≠ s.tables) :
    Effect authority cmd s (.call c draws eventIds projected) c fp r := by
  have htables : (s.step authority cmd (.call c draws eventIds projected)).tables = t' := by
    have hrun : (cmd c).session authority fp draws s.tables = .ok (r, t') := hcommit
    simp only [Calls.step, hphase, Calls.act, hrun]
    rfl
  refine ⟨hphase, ⟨draws, eventIds, projected, rfl, ?_⟩, ?_⟩
  · rw [htables]
    exact hcommit
  · rwa [htables]

namespace Sample

/-- A Controller without any scope. -/
def visitor : ActorContext where
  actor := ⟨"phone", "home", [], "software"⟩
  ownerDomainId := "home"
  businessOwnerId := "alice"
  actor_ownerDomainId := rfl

/-- The owner asks for a revocation, and so does the visitor under the same command id. -/
def revocations : Nat → Command
  | 0 => .revokeClaim "revoke" "revoke" (deviceRef "k" 1) "lost" (owner "alice")
  | _ => .revokeClaim "revoke" "revoke" (deviceRef "k" 1) "lost" visitor

/-- What the calls of the example draw. -/
def draws : Draws := { now := 4, eventId := "revoked" }

/-- A turn of a call of the example. -/
def turn (c : Nat) : Step := .call c draws (fun _ => "expired") true

theorem revocation_effect : ∃ r, Effect Sample.authority revocations
    (run (Calls.step Sample.authority revocations) (.start (after (handoff "e" "k"))) [turn 0]) (turn 0) 0
      "sha256:{}" r := by
  have hbegin : (Calls.start (after (handoff "e" "k"))).begin Sample.authority revocations 0 true =
      (Calls.start (after (handoff "e" "k"))).moved 0 (.acting "sha256:{}") :=
    begin_of_none (show (revocations 0).authorized Sample.authority = .ok "sha256:{}" by rfl)
      (show (after (handoff "e" "k")).results.get (·.key) ((revocations 0).key Sample.authority) =
        none by decide +kernel)
  have hcommit : (answer ((revocations 0).session Sample.authority "sha256:{}" draws)
      (after (handoff "e" "k"))).isSome = true := by decide +kernel
  obtain ⟨r, hr⟩ := Option.isSome_iff_exists.mp hcommit
  refine ⟨r, ?_⟩
  show Effect Sample.authority revocations ((Calls.start (after (handoff "e" "k"))).begin
    Sample.authority revocations 0 true) (turn 0) 0 "sha256:{}" r
  rw [hbegin]
  refine effect_of_commits moved_phase (commits_of_answer hr) ?_
  intro hsame
  have hcount : (attempt ((revocations 0).session Sample.authority "sha256:{}" draws)
      (after (handoff "e" "k"))).outbox.rows.length =
      (after (handoff "e" "k")).outbox.rows.length :=
    congrArg (fun t : Tables => t.outbox.rows.length) hsame
  revert hcount
  decide +kernel

end Sample

/-- Once the owner's revocation is committed, every step of a call under its command id
is settled, whatever happens in between. -/
theorem calls_idempotent_revoked : ∃ r, ∀ between,
    let s := run (Calls.step Sample.authority Sample.revocations)
      (.start (Sample.after (Sample.handoff "e" "k"))) ([Sample.turn 0] ++ Sample.turn 0 :: between)
    RaisesCleanly Sample.authority Sample.revocations ∧
    ∀ c' draws eventIds projected, (Sample.revocations c').key Sample.authority =
        (Sample.revocations 0).key Sample.authority →
      Settled Sample.authority Sample.revocations "sha256:{}" r s c' draws eventIds projected ∧
      ∀ fp' r', ¬ Effect Sample.authority Sample.revocations s
        (.call c' draws eventIds projected) c' fp' r' := by
  obtain ⟨r, heffect⟩ := Sample.revocation_effect
  exact ⟨r, fun between => calls_idempotent _ _ _ _ between heffect⟩

/-- The checks come before the lookup: the visitor, whose call has the same identity and
the same fingerprint, is refused and not given the stored answer. -/
theorem checks_come_first : ¬ ∀ (authority : AdmissionAuthority) (cmd : Nat → Command) (t : Tables)
    (before between : List Step) (step : Step) (c : Nat) (fp : Fingerprint) (r : CommandResult),
    Effect authority cmd (run (Calls.step authority cmd) (.start t) before) step c fp r →
    ∀ c' draws eventIds, (cmd c').key authority = (cmd c).key authority →
      (cmd c').fingerprint authority = .ok fp →
      let s := run (Calls.step authority cmd) (.start t) (before ++ step :: between)
      s.phase c' = .fresh →
      (s.step authority cmd (.call c' draws eventIds true)).phase c' = .answered (.ok r.replay) := by
  intro hclaim
  obtain ⟨r, heffect⟩ := Sample.revocation_effect
  -- the visitor has not called yet when the revocation is committed
  have hphase : (run (Calls.step Sample.authority Sample.revocations)
      (.start (Sample.after (Sample.handoff "e" "k"))) ([Sample.turn 0] ++ [Sample.turn 0])).phase 1 =
      .fresh := by
    have hne : (1 : Nat) ≠ 0 := by decide
    simp only [List.cons_append, List.nil_append, run_cons, run_nil, Sample.turn]
    rw [step_phase_ne hne, step_phase_ne hne]
    rfl
  obtain ⟨e, hrefused⟩ : ∃ e, (Sample.revocations 1).authorized Sample.authority = .error e := ⟨_, rfl⟩
  have hanswer := hclaim _ _ _ _ [] _ _ _ _ heffect 1 Sample.draws (fun _ => "expired") rfl rfl hphase
  simp only [Calls.step, hphase, Calls.begin, hrefused] at hanswer
  rw [answer_phase] at hanswer
  cases hanswer

end EidolonHub.Admission
