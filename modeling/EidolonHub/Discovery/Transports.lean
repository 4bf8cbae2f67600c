import EidolonHub.Discovery.Advertiser

/-!
# EidolonHub.Discovery.Transports

**What becomes of every transport.** In every order of the steps of every call, a transport that is open
is part of the advertisement, is held by the call that has the lock, or is one that a closing has missed
(`transports_accounted`). Once the advertiser is stopped, nothing is advertised until the next start
(`stopped_is_silent`). A refresh that nothing disturbs leaves what the interfaces say, whatever went
wrong before (`refresh_heals`).
-/

namespace EidolonHub.Discovery

open EidolonHub.Library

/-! ### Phases -/

namespace Phase

/-- The transports a call has still to see to. -/
def held : Phase → List Nat
  | .unregistering _ held | .closing _ held _ | .registering _ _ held | .withdrawing held
  | .discarding held | .dropping held _ => held
  | _ => []

/-- The call has the lock. -/
def Locks : Phase → Prop
  | .unregistering .. | .closing .. | .registering .. | .withdrawing _ | .discarding _ | .dropping .. => True
  | _ => False

/-- The call goes on to advertise. -/
def Reopens : Phase → Prop
  | .unregistering (.reopen _) _ | .closing (.reopen _) _ _ | .registering .. => True
  | _ => False

/-- The next step closes this transport, and it does not close. -/
def Misses (draws : Draws) (n : Nat) : Phase → Prop
  | .closing _ held _ | .dropping held _ => n ∈ held ∧ draws.reached n = false
  | _ => False

/-- What the steps of a call have found out. -/
def Valid (adv : Advertiser) : Phase → Prop
  | .registering snapshot info held => held ≠ [] ∧ adv.buildInfo snapshot.addresses = some info
  | _ => True

variable {p : Phase} {n : Nat} {call : Call} {raised : Option Raised}

theorem locks_of_held (h : n ∈ p.held) : p.Locks := by
  cases p <;> trivial

theorem Reopens.locks (h : p.Reopens) : p.Locks := by
  cases p <;> trivial

end Phase

section Answers

variable {adv : Advertiser} {call : Call} {raised : Option Raised}

theorem Call.answer_eq (call : Call) (raised : Option Raised) :
    ∃ raised', call.answer raised = .answered raised' := by
  unfold Call.answer
  split <;> exact ⟨_, rfl⟩

@[simp] theorem Call.answer_locks : ¬ (call.answer raised).Locks := by
  obtain ⟨_, h⟩ := Call.answer_eq call raised
  rw [h]
  exact id

@[simp] theorem Call.answer_held : (call.answer raised).held = [] := by
  obtain ⟨_, h⟩ := Call.answer_eq call raised
  rw [h]
  rfl

@[simp] theorem Call.answer_valid : (call.answer raised).Valid adv := by
  obtain ⟨_, h⟩ := Call.answer_eq call raised
  rw [h]
  trivial

@[simp] theorem Call.answer_reopens : ¬ (call.answer raised).Reopens := by
  obtain ⟨_, h⟩ := Call.answer_eq call raised
  rw [h]
  exact id

end Answers

/-- An await that raises nothing has reached all its transports. -/
theorem Draws.reached_of_raised (draws : Draws) {held : List Nat} (h : draws.raised held = none) :
    ∀ n ∈ held, draws.reached n = true := by
  unfold Draws.raised at h
  split at h
  · cases h
  · split_ifs at h with hall
    exact List.all_eq_true.mp hall

/-! ### States -/

namespace State

/-- A transport that is not closed. -/
def Open (s : State) (n : Nat) : Prop := s.transports n ≠ .closed

/-- Nothing is advertised. -/
structure Empty (s : State) : Prop where
  networks : s.networks = none
  info : s.info = none
  observation : s.observation = none

/-- This observation is advertised, by these transports. -/
structure Advertises (s : State) (adv : Advertiser) (held : List Nat) (service : ServiceInfo)
    (snapshot : Observed) : Prop where
  networks : s.networks = some held
  info : s.info = some service
  observation : s.observation = some snapshot
  nonempty : held ≠ []
  built : adv.buildInfo snapshot.addresses = some service
  transports : ∀ n ∈ held, s.transports n = .advertising service

variable {s : State} {held : List Nat} {reached : Nat → Bool} {t : Transport} {n : Nat}

theorem open_of_mark (h : (s.mark held reached t).Open n) : n ∈ held ∨ n ∉ held ∧ s.Open n := by
  by_cases hn : n ∈ held
  · exact .inl hn
  · refine .inr ⟨hn, ?_⟩
    simpa [Open, mark, hn] using h

theorem open_of_close (h : (s.mark held reached .closed).Open n) :
    s.Open n ∧ (n ∈ held → reached n = false) := by
  by_cases hn : n ∈ held ∧ reached n = true
  · exact absurd (if_pos hn) h
  · have hsame : (s.mark held reached .closed).transports n = s.transports n := if_neg hn
    unfold Open at h
    rw [hsame] at h
    exact ⟨h, fun hmem => Bool.eq_false_iff.mpr fun hreached => hn ⟨hmem, hreached⟩⟩

theorem open_of_create (h : s.create.Open n) : n = s.next ∨ s.Open n := by
  by_cases hn : n = s.next
  · exact .inl hn
  · right
    simpa [Open, create, hn] using h

theorem Empty.mark (h : s.Empty) : (s.mark held reached t).Empty := ⟨h.1, h.2, h.3⟩

theorem Empty.release (h : s.Empty) : s.release.Empty := ⟨h.1, h.2, h.3⟩

theorem Empty.create (h : s.Empty) : s.create.Empty := ⟨h.1, h.2, h.3⟩

end State

namespace Advertiser

/-! ### What a step does under the lock -/

section Steps

variable {adv : Advertiser} {call : Nat → Call} {c : Nat} {draws : Draws} {s s' : State} {held : List Nat}
  {p p' : Phase} {raised : Bool} {addresses : List String} {M : Nat → Prop}

/-- An address of which a service is built is of one family or the other. -/
theorem ofVersion_ne_nil {info : ServiceInfo} (hinfo : adv.buildInfo addresses = some info)
    (hv4 : adv.ofVersion .v4 addresses = []) : adv.ofVersion .v6 addresses ≠ [] := by
  unfold buildInfo at hinfo
  split at hinfo
  · cases hinfo
  next hne =>
  split at hinfo
  · cases hinfo
  next ips hips =>
  obtain ⟨address, rest, rfl⟩ := List.exists_cons_of_ne_nil hne
  rw [List.mapM_cons] at hips
  obtain ⟨ip, hip, -⟩ := Option.bind_eq_some_iff.mp hips
  intro hv6
  have h4 := List.filter_eq_nil_iff.mp hv4 address List.mem_cons_self
  have h6 := List.filter_eq_nil_iff.mp hv6 address List.mem_cons_self
  rw [hip] at h4 h6
  cases hversion : ip.version <;> simp_all

/-- What an opening leaves: the transports it made, and everything else as it was. -/
structure Opens (s s' : State) (held : List Nat) : Prop where
  lock : s'.lock = s.lock
  running : s'.running = s.running
  empty : s.Empty → s'.Empty
  accounted : ∀ n, s'.Open n → n ∈ held ∨ s.Open n

theorem Opens.none : Opens s s [] := ⟨rfl, rfl, id, fun _ h => .inr h⟩

theorem Opens.one : Opens s s.create [s.next] :=
  ⟨rfl, rfl, State.Empty.create, fun n h => (State.open_of_create h).imp_left fun hn => by simp [hn]⟩

theorem Opens.two : Opens s s.create.create [s.next, s.next + 1] := by
  refine ⟨rfl, rfl, fun h => h.create.create, fun n h => ?_⟩
  obtain rfl | h := State.open_of_create h
  · left
    simp [State.create]
  · exact (State.open_of_create h).imp_left fun hn => by simp [hn]

theorem openNetwork_opens (hopen : adv.openNetwork draws addresses s = (s', held, raised)) :
    Opens s s' held := by
  unfold openNetwork at hopen
  split_ifs at hopen
  · cases hopen
    exact .none
  · cases hopen
    exact .one
  · cases hopen
    exact .none
  · cases hopen
    exact .none
  · cases hopen
    exact .one
  · split at hopen <;> cases hopen
    · exact .two
    · exact .one
    · exact .one

/-- An opening that does not raise has made a transport. -/
theorem openNetwork_nonempty {info : ServiceInfo} (hinfo : adv.buildInfo addresses = some info)
    (hopen : adv.openNetwork draws addresses s = (s', held, false)) : held ≠ [] := by
  unfold openNetwork at hopen
  split_ifs at hopen with hv4 hv6
  · exact absurd hv6 (ofVersion_ne_nil hinfo hv4)
  · cases hopen
    simp
  · cases hopen
  · cases hopen
  · cases hopen
    simp
  · split at hopen <;> cases hopen <;> simp

/-- What a step of the call `c` leaves where it has the lock and the transports in `held`: it goes on
with the lock, or gives it up, and only then may something be advertised; it goes on with every
transport it has not closed, but for those in `M`. -/
structure Works (adv : Advertiser) (c : Nat) (draws : Draws) (M : Nat → Prop) (s : State) (held : List Nat)
    (s' : State) (p' : Phase) : Prop where
  lock : p'.Locks ∧ s'.lock = some c ∨ ¬ p'.Locks ∧ s'.lock = none
  running : s'.running = s.running
  adoption : s'.Empty ∨ ¬ p'.Locks ∧ ∃ held info snapshot, s'.Advertises adv held info snapshot ∧
    adv.observed draws.reading = some snapshot
  accounted : ∀ n, s'.Open n →
    n ∈ p'.held ∨ n ∈ s'.networks.getD [] ∨ M n ∨ n ∉ held ∧ s.Open n
  valid : p'.Valid adv

/-- The step gives up the lock. -/
theorem Works.release {kind : Call} {answer : Option Raised} (hempty : s.Empty) :
    Works adv c draws M s [] s.release (kind.answer answer) where
  lock := .inr ⟨Call.answer_locks, rfl⟩
  running := rfl
  adoption := .inl hempty.release
  accounted _ h := .inr (.inr (.inr ⟨List.not_mem_nil, h⟩))
  valid := Call.answer_valid

/-- What follows on a closing that may have missed some. -/
theorem Works.after_close {reached : Nat → Bool}
    (hworks : Works adv c draws M (s.mark held reached .closed) [] s' p')
    (hM : ∀ n ∈ held, reached n = false → M n) : Works adv c draws M s held s' p' where
  lock := hworks.lock
  running := hworks.running
  adoption := hworks.adoption
  accounted n hn := by
    obtain h | h | h | ⟨-, h⟩ := hworks.accounted n hn
    · exact .inl h
    · exact .inr (.inl h)
    · exact .inr (.inr (.inl h))
    · obtain ⟨hopen, hreached⟩ := State.open_of_close h
      by_cases hmem : n ∈ held
      · exact .inr (.inr (.inl (hM n hmem (hreached hmem))))
      · exact .inr (.inr (.inr ⟨hmem, hopen⟩))
  valid := hworks.valid

/-- The step tells its transports something, and keeps them. -/
theorem Works.keep {reached : Nat → Bool} {t : Transport} (hempty : s.Empty) (hlock : s.lock = some c)
    (hlocks : p'.Locks) (hheld : p'.held = held) (hvalid : p'.Valid adv) :
    Works adv c draws M s held (s.mark held reached t) p' where
  lock := .inl ⟨hlocks, hlock⟩
  running := rfl
  adoption := .inl hempty.mark
  accounted n hn := by
    rw [hheld]
    obtain h | h := State.open_of_mark hn
    · exact .inl h
    · exact .inr (.inr (.inr h))
  valid := hvalid

theorem follow_works {kind : Call} {after : Then} (hempty : s.Empty) (hlock : s.lock = some c) :
    Works adv c draws M s [] (adv.follow kind draws s after).1 (adv.follow kind draws s after).2 := by
  cases after with
  | stop => exact .release hempty
  | reopen snapshot =>
    unfold follow
    dsimp only
    split_ifs with haddresses
    · exact .release hempty
    cases hinfo : adv.buildInfo snapshot.addresses with
    | none => exact .release hempty
    | some info =>
      obtain ⟨⟨s₁, held, raised⟩, hopen⟩ : ∃ o, adv.openNetwork draws snapshot.addresses s = o := ⟨_, rfl⟩
      have hopens := openNetwork_opens hopen
      have haccounted (n : Nat) (hn : s₁.Open n) : n ∈ held ∨ n ∈ s₁.networks.getD [] ∨ M n ∨
          n ∉ ([] : List Nat) ∧ s.Open n :=
        (hopens.accounted n hn).imp_right fun h => .inr (.inr ⟨List.not_mem_nil, h⟩)
      dsimp only
      rw [hopen]
      cases raised with
      | false =>
        exact ⟨.inl ⟨trivial, hopens.lock.trans hlock⟩, hopens.running, .inl (hopens.empty hempty),
          haccounted, openNetwork_nonempty hinfo hopen, hinfo⟩
      | true =>
        cases held with
        | nil =>
          refine ⟨.inr ⟨Call.answer_locks, rfl⟩, hopens.running, .inl (hopens.empty hempty).release,
            fun n hn => ?_, Call.answer_valid⟩
          obtain h | h := haccounted n hn
          · cases h
          · exact .inr h
        | cons n rest =>
          exact ⟨.inl ⟨trivial, hopens.lock.trans hlock⟩, hopens.running, .inl (hopens.empty hempty),
            haccounted, trivial⟩

/-- **A step under the lock.** -/
theorem advance_works (hempty : s.Empty) (hlock : s.lock = some c) (hlocks : p.Locks) (hvalid : p.Valid adv) :
    Works adv c draws (p.Misses draws ·) s p.held (adv.advance call c draws s p).1
      (adv.advance call c draws s p).2 := by
  cases p with
  | fresh | waiting | abandoned | answered => exact hlocks.elim
  | unregistering after held => exact .keep hempty hlock trivial rfl trivial
  | closing after held raised =>
    simp only [advance]
    cases (draws.raised held).or raised with
    | none => exact (follow_works hempty.mark hlock).after_close fun n hmem hreached => ⟨hmem, hreached⟩
    | some raised => exact (Works.release hempty.mark).after_close fun n hmem hreached => ⟨hmem, hreached⟩
  -- registered and nothing changed meanwhile: what was held is adopted
  | registering snapshot info held =>
    simp only [advance]
    cases hraised : draws.raised held with
    | some raised => exact .keep hempty hlock trivial rfl trivial
    | none =>
      cases hobserved : adv.observed draws.reading with
      | none => exact .keep hempty hlock trivial rfl trivial
      | some current =>
        dsimp only
        split_ifs with hsame
        · subst hsame
          refine ⟨.inr ⟨Call.answer_locks, rfl⟩, rfl, .inr ⟨Call.answer_locks, held, info, current,
            ⟨rfl, rfl, rfl, hvalid.1, hvalid.2,
              fun n hn => if_pos ⟨hn, draws.reached_of_raised hraised n hn⟩⟩, hobserved⟩,
            fun n hn => ?_, Call.answer_valid⟩
          obtain h | h := State.open_of_mark (s := s) hn
          · exact .inr (.inl h)
          · exact .inr (.inr (.inr h))
        · exact .keep hempty hlock trivial rfl trivial
  | withdrawing held =>
    simp only [advance]
    cases draws.raised held with
    | some raised => exact .keep hempty hlock trivial rfl trivial
    | none => exact .keep hempty hlock trivial rfl trivial
  -- a transport that could not be reached is missed, and none that could
  | discarding held =>
    simp only [advance]
    cases hraised : draws.raised held with
    | some raised => exact .keep hempty hlock trivial rfl trivial
    | none =>
      refine (Works.release hempty.mark).after_close fun n hmem hmissed => ?_
      rw [draws.reached_of_raised hraised n hmem] at hmissed
      cases hmissed
  | dropping held raised =>
    exact (Works.release hempty.mark).after_close fun n hmem hreached => ⟨hmem, hreached⟩

/-- What the call with the lock takes out of the state, it goes on with. -/
theorem closeNetwork_works {kind : Call} {after : Then}
    (hadoption : s.Empty ∨ ∃ held info snapshot, s.Advertises adv held info snapshot) :
    Works adv c draws M s (s.networks.getD []) (adv.closeNetwork kind c draws after s).1
      (adv.closeNetwork kind c draws after s).2 := by
  unfold closeNetwork
  obtain hempty | ⟨held, info, snapshot, hadvertises⟩ := hadoption
  · rw [hempty.networks]
    let taken : State := { s with networks := none, info := none, observation := none, lock := some c }
    have hworks : Works adv c draws M taken [] (adv.follow kind draws taken after).1
        (adv.follow kind draws taken after).2 := follow_works ⟨rfl, rfl, rfl⟩ rfl
    exact ⟨hworks.lock, hworks.running, hworks.adoption, hworks.accounted, hworks.valid⟩
  · rw [hadvertises.networks, hadvertises.info]
    refine ⟨.inl ⟨trivial, rfl⟩, rfl, .inl ⟨rfl, rfl, rfl⟩, fun n hn => ?_, trivial⟩
    by_cases hmem : n ∈ held
    · exact .inl hmem
    · exact .inr (.inr (.inr ⟨hmem, hn⟩))

/-- A call that gets the lock is done at once, or closes what is advertised. -/
theorem enter_cases (adv : Advertiser) (kind : Call) (c : Nat) (draws : Draws) (s : State) :
    (∃ raised, adv.enter kind c draws s = (s, .answered raised)) ∧ kind ≠ .stop ∨
      ∃ after, (kind = .stop → after = .stop) ∧ (s.running = false → kind = .stop) ∧
        adv.enter kind c draws s = adv.closeNetwork kind c draws after s := by
  have hanswer (raised : Option Raised) : ∃ raised', (s, kind.answer raised) = (s, Phase.answered raised') :=
    (Call.answer_eq kind raised).imp fun _ h => by rw [h]
  by_cases hkind : kind = .stop
  · subst hkind
    exact .inr ⟨.stop, fun _ => rfl, fun _ => rfl, rfl⟩
  have henter : adv.enter kind c draws s = adv.refreshInterfaces kind c draws s := by
    cases kind with
    | stop => exact absurd rfl hkind
    | start | refresh => rfl
  rw [henter]
  unfold refreshInterfaces
  split_ifs with hrunning
  · exact .inl ⟨hanswer _, hkind⟩
  cases adv.observed draws.reading with
  | none => exact .inl ⟨hanswer _, hkind⟩
  | some snapshot =>
    dsimp only
    split_ifs
    · exact .inl ⟨hanswer _, hkind⟩
    · exact .inr ⟨_, fun h => absurd h hkind, fun h => absurd h hrunning, rfl⟩

end Steps

/-! ### Every order of steps -/

/-- One of the steps of the run was to close this transport, and did not. -/
def Missed (adv : Advertiser) (call : Nat → Call) (turns : List (Turn Draws)) (n : Nat) : Prop :=
  ∃ pre turn post, turns = pre ++ turn :: post ∧
    ((adv.served call pre).phase turn.call).Misses turn.draws n

/-- What holds after a schedule. -/
structure Inv (adv : Advertiser) (call : Nat → Call) (turns : List (Turn Draws)) (s : Pool State Phase) :
    Prop where
  locks : ∀ c, (s.phase c).Locks ↔ s.shared.lock = some c
  adoption : s.shared.Empty ∨ s.shared.lock = none ∧
    ∃ held info snapshot, s.shared.Advertises adv held info snapshot ∧
      ∃ turn ∈ turns, adv.observed turn.draws.reading = some snapshot
  accounted : ∀ n, s.shared.Open n →
    n ∈ s.shared.networks.getD [] ∨ (∃ c, n ∈ (s.phase c).held) ∨ adv.Missed call turns n
  valid : ∀ c, (s.phase c).Valid adv

section Runs

variable {adv : Advertiser} {call : Nat → Call} {turns : List (Turn Draws)} {turn : Turn Draws}
  {s : Pool State Phase} {s' : State} {p' : Phase} {held : List Nat}

theorem Missed.concat {n : Nat} (h : adv.Missed call turns n) : adv.Missed call (turns ++ [turn]) n := by
  obtain ⟨pre, t, post, rfl, hmisses⟩ := h
  exact ⟨pre, t, post ++ [turn], by simp, hmisses⟩

theorem Missed.of_append {later : List (Turn Draws)} {n : Nat} (h : adv.Missed call (turns ++ later) n)
    (hlater : ∀ turn ∈ later, turn.draws.reached n = true) : adv.Missed call turns n := by
  obtain ⟨pre, turn, post, heq, hmisses⟩ := h
  have hearlier : turn ∉ later := by
    intro hmem
    have hreached := hlater turn hmem
    revert hmisses
    cases (adv.served call pre).phase turn.call <;> simp [Phase.Misses, hreached]
  obtain ⟨rest, rfl, hrest⟩ | ⟨rest, hturns, hrest⟩ := List.append_eq_append_iff.mp heq
  · exact absurd (hrest ▸ by simp) hearlier
  · cases rest with
    | nil =>
      rw [List.nil_append] at hrest
      exact absurd (hrest ▸ List.mem_cons_self) hearlier
    | cons t rest =>
      obtain ⟨rfl, -⟩ := List.cons.inj hrest
      exact ⟨pre, turn, rest, hturns, hmisses⟩

/-- A turn that changes neither the lock nor what is advertised. -/
theorem Inv.idle (hinv : Inv adv call turns s) (hlock : s'.lock = s.shared.lock)
    (hsame : s'.networks = s.shared.networks ∧ s'.info = s.shared.info ∧
      s'.observation = s.shared.observation ∧ s'.transports = s.shared.transports)
    (hlocks : ¬ (s.phase turn.call).Locks) (hlocks' : ¬ p'.Locks) :
    Inv adv call (turns ++ [turn]) (s.set turn.call s' p') := by
  obtain ⟨hnetworks, hinfo, hobservation, htransports⟩ := hsame
  refine ⟨fun b => ?_, ?_, fun n hn => ?_, fun b => ?_⟩
  · by_cases hb : b = turn.call
    · subst hb
      rw [Pool.set_phase_self]
      have hnone := mt (hinv.locks turn.call).mpr hlocks
      exact iff_of_false hlocks' (hlock ▸ hnone)
    · rw [Pool.set_phase_ne hb, Pool.set_shared, hlock]
      exact hinv.locks b
  · obtain hempty | ⟨hfree, held, info, snapshot, hadvertises, t, ht, hread⟩ := hinv.adoption
    · exact .inl ⟨hnetworks.trans hempty.1, hinfo.trans hempty.2, hobservation.trans hempty.3⟩
    · refine .inr ⟨hlock.trans hfree, held, info, snapshot, ⟨hnetworks.trans hadvertises.networks,
        hinfo.trans hadvertises.info, hobservation.trans hadvertises.observation, hadvertises.nonempty,
        hadvertises.built, fun n hn => ?_⟩, t, List.mem_append_left _ ht, hread⟩
      show s'.transports n = _
      rw [htransports, hadvertises.transports n hn]
  · have hopen : s.shared.Open n := by
      unfold State.Open at hn ⊢
      exact htransports ▸ hn
    show n ∈ s'.networks.getD [] ∨ _
    rw [hnetworks]
    obtain h | ⟨b, h⟩ | h := hinv.accounted n hopen
    · exact .inl h
    · have hb : b ≠ turn.call := fun hb => hlocks (hb ▸ Phase.locks_of_held h)
      exact .inr (.inl ⟨b, by rwa [Pool.set_phase_ne hb]⟩)
    · exact .inr (.inr h.concat)
  · by_cases hb : b = turn.call
    · subst hb
      rw [Pool.set_phase_self]
      cases p' with
      | registering => exact absurd trivial hlocks'
      | _ => trivial
    · rw [Pool.set_phase_ne hb]
      exact hinv.valid b

/-- A turn of the call with the lock, or of one that gets it. -/
theorem Inv.works (hinv : Inv adv call turns s)
    (hlock : s.shared.lock = none ∨ s.shared.lock = some turn.call)
    (hworks : Works adv turn.call turn.draws ((s.phase turn.call).Misses turn.draws ·) s.shared held s' p')
    (hheld : ∀ n, n ∈ s.shared.networks.getD [] ∨ n ∈ (s.phase turn.call).held → n ∈ held)
    (hrun : s = adv.served call turns) :
    Inv adv call (turns ++ [turn]) (s.set turn.call s' p') := by
  -- nobody else has the lock
  have halone (b : Nat) (hb : b ≠ turn.call) : ¬ (s.phase b).Locks := by
    rw [hinv.locks b]
    obtain h | h := hlock
    · rw [h]
      simp
    · rw [h]
      exact fun heq => hb (Option.some.inj heq).symm
  refine ⟨fun b => ?_, ?_, fun n hn => ?_, fun b => ?_⟩
  · by_cases hb : b = turn.call
    · subst hb
      rw [Pool.set_phase_self]
      obtain ⟨h, hsome⟩ | ⟨h, hnone⟩ := hworks.lock
      · exact iff_of_true h hsome
      · refine iff_of_false h ?_
        show s'.lock ≠ _
        rw [hnone]
        simp
    · rw [Pool.set_phase_ne hb]
      refine iff_of_false (halone b hb) ?_
      show s'.lock ≠ _
      obtain ⟨-, hsome⟩ | ⟨-, hnone⟩ := hworks.lock
      · rw [hsome]
        exact fun heq => hb (Option.some.inj heq).symm
      · rw [hnone]
        simp
  · obtain hempty | ⟨hlocks, held, info, snapshot, hadvertises, hread⟩ := hworks.adoption
    · exact .inl hempty
    · refine .inr ⟨?_, held, info, snapshot, hadvertises, turn, by simp, hread⟩
      exact (hworks.lock.resolve_left fun h => hlocks h.1).2
  · obtain h | h | h | ⟨hnotin, hopen⟩ := hworks.accounted n hn
    · exact .inr (.inl ⟨turn.call, by rwa [Pool.set_phase_self]⟩)
    · exact .inl h
    · exact .inr (.inr ⟨turns, turn, [], rfl, hrun ▸ h⟩)
    · obtain h | ⟨b, h⟩ | h := hinv.accounted n hopen
      · exact absurd (hheld n (.inl h)) hnotin
      · have hb : b = turn.call := by
          by_contra hb
          exact halone b hb (Phase.locks_of_held h)
        exact absurd (hheld n (.inr (hb ▸ h))) hnotin
      · exact .inr (.inr h.concat)
  · by_cases hb : b = turn.call
    · subst hb
      rw [Pool.set_phase_self]
      exact hworks.valid
    · rw [Pool.set_phase_ne hb]
      exact hinv.valid b

/-- **One turn.** -/
theorem Inv.step (hinv : Inv adv call turns (adv.served call turns)) :
    Inv adv call (turns ++ [turn]) (adv.serve call (adv.served call turns) turn) := by
  obtain ⟨s, hs⟩ : ∃ s, s = adv.served call turns := ⟨_, rfl⟩
  rw [← hs] at hinv ⊢
  show Inv adv call (turns ++ [turn]) (s.set turn.call _ _)
  -- while a call has the lock nothing is advertised and it alone moves on; of the others one may
  -- take the lock
  by_cases hlocks : (s.phase turn.call).Locks
  · have hlock := (hinv.locks turn.call).mp hlocks
    have hempty : s.shared.Empty := hinv.adoption.resolve_right fun h => by
      rw [hlock] at h
      cases h.1
    refine hinv.works (.inr hlock) (advance_works hempty hlock hlocks (hinv.valid _)) ?_ hs
    intro n hn
    rw [hempty.networks] at hn
    exact hn.resolve_left List.not_mem_nil
  · cases hphase : s.phase turn.call with
    | unregistering | closing | registering | withdrawing | discarding | dropping =>
      rw [hphase] at hlocks
      exact absurd trivial hlocks
    | abandoned => exact hinv.idle rfl ⟨rfl, rfl, rfl, rfl⟩ hlocks id
    | answered raised => exact hinv.idle rfl ⟨rfl, rfl, rfl, rfl⟩ hlocks id
    | fresh =>
      simp only [advance]
      cases call turn.call with
      | start =>
        dsimp only
        split_ifs
        · exact hinv.idle rfl ⟨rfl, rfl, rfl, rfl⟩ hlocks id
        · exact hinv.idle rfl ⟨rfl, rfl, rfl, rfl⟩ hlocks id
      | stop => exact hinv.idle rfl ⟨rfl, rfl, rfl, rfl⟩ hlocks id
      | refresh => exact hinv.idle rfl ⟨rfl, rfl, rfl, rfl⟩ hlocks id
    -- the call that takes the lock holds what was advertised from here on
    | waiting =>
      simp only [advance]
      split_ifs
      · exact hinv.idle rfl ⟨rfl, rfl, rfl, rfl⟩ hlocks id
      cases hlock : s.shared.lock with
      | some b => exact hinv.idle rfl ⟨rfl, rfl, rfl, rfl⟩ hlocks id
      | none =>
        dsimp only
        obtain ⟨⟨raised, henter⟩, -⟩ | ⟨after, -, -, henter⟩ :=
          enter_cases adv (call turn.call) turn.call turn.draws s.shared
        · rw [henter]
          exact hinv.idle rfl ⟨rfl, rfl, rfl, rfl⟩ hlocks id
        · rw [henter]
          refine hinv.works (.inl hlock) (closeNetwork_works ?_) (fun n hn => hn.resolve_right ?_) hs
          · exact hinv.adoption.imp_right fun ⟨_, held, info, snapshot, h, _⟩ => ⟨held, info, snapshot, h⟩
          · rw [hphase]
            exact List.not_mem_nil

theorem served_inv (adv : Advertiser) (call : Nat → Call) (turns : List (Turn Draws)) :
    Inv adv call turns (adv.served call turns) := by
  refine run_history (I := fun turns s => s = adv.served call turns → Inv adv call turns s) ?_ ?_ turns rfl
  · intro _
    exact ⟨fun c => iff_of_false id (by simp [created, Pool.start]), .inl ⟨rfl, rfl, rfl⟩,
      fun n hn => absurd rfl hn, fun c => trivial⟩
  · intro turns turn hinv hstep
    exact (hinv rfl).step

/-- **No transport is lost.** In every order of the steps of every call, whatever fails and whatever is
cancelled: at most one call has the lock; each open transport is part of the advertisement, is held by
the call with the lock, or is one that a closing has missed; and what is advertised, is advertised by
each of its transports, while no call has the lock, and is what some step has read. -/
theorem transports_accounted (adv : Advertiser) (call : Nat → Call) (turns : List (Turn Draws)) :
    (∀ b c, ((adv.served call turns).phase b).Locks → ((adv.served call turns).phase c).Locks → b = c) ∧
    (∀ n, (adv.served call turns).shared.Open n →
      n ∈ (adv.served call turns).shared.networks.getD [] ∨
        (∃ c, n ∈ ((adv.served call turns).phase c).held) ∨ adv.Missed call turns n) ∧
    ∀ networks, (adv.served call turns).shared.networks = some networks →
      (∀ c, ¬ ((adv.served call turns).phase c).Locks) ∧
        ∃ service snapshot, (adv.served call turns).shared.Advertises adv networks service snapshot ∧
          ∃ turn ∈ turns, adv.observed turn.draws.reading = some snapshot := by
  have hinv := served_inv adv call turns
  refine ⟨fun b c hb hc => ?_, hinv.accounted, fun networks hnetworks => ?_⟩
  · have hlock := (hinv.locks b).mp hb
    rw [(hinv.locks c).mp hc] at hlock
    exact (Option.some.inj hlock).symm
  · obtain hempty | ⟨hfree, held, service, snapshot, hadvertises, hread⟩ := hinv.adoption
    · rw [hempty.networks] at hnetworks
      cases hnetworks
    · obtain rfl : held = networks := Option.some.inj (hadvertises.networks.symm.trans hnetworks)
      refine ⟨fun c hlocks => ?_, service, snapshot, hadvertises, hread⟩
      have hlock := (hinv.locks c).mp hlocks
      rw [hfree] at hlock
      cases hlock

/-- What a traversal yields, it has from one of the elements. -/
theorem exists_of_mem_mapM {α β : Type} {f : α → Option β} {xs : List α} {ys : List β} {y : β}
    (h : xs.mapM f = some ys) (hy : y ∈ ys) : ∃ x ∈ xs, f x = some y := by
  induction xs generalizing ys with
  | nil =>
    rw [List.mapM_nil] at h
    cases h
    cases hy
  | cons x xs ih =>
    rw [List.mapM_cons] at h
    obtain ⟨z, hz, h⟩ := Option.bind_eq_some_iff.mp h
    obtain ⟨zs, hzs, h⟩ := Option.bind_eq_some_iff.mp h
    cases h
    obtain rfl | hy := List.mem_cons.mp hy
    · exact ⟨x, List.mem_cons_self, hz⟩
    · obtain ⟨x', hx', hf⟩ := ih hzs hy
      exact ⟨x', List.mem_cons_of_mem _ hx', hf⟩

/-- The addresses of a service are those it was built of. -/
theorem packed_of_buildInfo {addresses : List String} {service : ServiceInfo} {packed : List UInt8}
    (hbuilt : adv.buildInfo addresses = some service) (hpacked : packed ∈ service.addresses) :
    ∃ address ∈ addresses, ∃ ip, adv.links.ipAddress address = some ip ∧ ip.packed = packed := by
  unfold buildInfo at hbuilt
  split at hbuilt
  · cases hbuilt
  split at hbuilt
  · cases hbuilt
  next ips hips =>
  cases hbuilt
  obtain ⟨ip, hip, rfl⟩ := List.mem_map.mp hpacked
  obtain ⟨address, haddress, hparse⟩ := exists_of_mem_mapM hips hip
  exact ⟨address, haddress, ip, hparse, rfl⟩

/-- **What is advertised is usable.** Where the interfaces are read, each address of the service, in
every state of every run, is one that the operating system listed at some step, on a link of the
product, and none that only this machine or this link can reach. -/
theorem advertised_usable (adv : Advertiser) (call : Nat → Call) (turns : List (Turn Draws))
    {service : ServiceInfo} {packed : List UInt8} (hread : adv.addresses = none)
    (hservice : (adv.served call turns).shared.info = some service) (hpacked : packed ∈ service.addresses) :
    ∃ turn ∈ turns, ∃ adapters, turn.draws.reading = some adapters ∧
      ∃ adapter ∈ adapters, ∃ item ∈ adapter.ips, ∃ ip, adv.links.ipAddress (unscoped item.raw) = some ip ∧
        usable adv.links ip = true ∧
        ∃ canonical, adv.links.ipAddress ip.text = some canonical ∧ canonical.packed = packed := by
  obtain hempty | ⟨-, held, service', snapshot, hadvertises, turn, hturn, hobserved⟩ :=
    (served_inv adv call turns).adoption
  · rw [hempty.info] at hservice
    cases hservice
  obtain rfl : service' = service := Option.some.inj (hadvertises.info.symm.trans hservice)
  obtain ⟨address, haddress, canonical, hcanonical, hpacked⟩ := packed_of_buildInfo hadvertises.built hpacked
  simp only [observed, hread] at hobserved
  obtain ⟨adapters, hreading, rfl⟩ := Option.map_eq_some_iff.mp hobserved
  obtain ⟨adapter, hadapter, item, hitem, ip, hip, husable, rfl⟩ := usable_of_mem haddress
  exact ⟨turn, hturn, adapters, hreading, adapter, hadapter, item, hitem, ip, hip, husable, canonical,
    hcanonical, hpacked⟩

/-! ### Stopped -/

/-- A start begins. -/
def Starts (call : Nat → Call) (s : Pool State Phase) (turn : Turn Draws) : Prop :=
  call turn.call = .start ∧ s.phase turn.call = .fresh

/-- Nothing is advertised, and no call goes on to advertise. -/
structure Silent (s : Pool State Phase) : Prop where
  networks : s.shared.networks = none
  phases : ∀ c, ¬ (s.phase c).Reopens

theorem closeNetwork_stop {kind : Call} {c : Nat} {draws : Draws} {s : State} :
    (adv.closeNetwork kind c draws .stop s).1.networks = none ∧
      ¬ (adv.closeNetwork kind c draws .stop s).2.Reopens := by
  unfold closeNetwork
  cases s.networks with
  | none => exact ⟨rfl, Call.answer_reopens⟩
  | some held =>
    cases s.info with
    | none => exact ⟨rfl, id⟩
    | some service => exact ⟨rfl, id⟩

/-- A stopped advertiser stays silent, whatever is left of other calls. -/
theorem advance_silent (adv : Advertiser) (call : Nat → Call) (c : Nat) (draws : Draws) {s : State}
    {p : Phase} (hstopped : s.running = false)
    (hnetworks : s.networks = none) (hphase : ¬ p.Reopens) (hstart : ¬ (call c = .start ∧ p = .fresh)) :
    (adv.advance call c draws s p).1.running = false ∧ (adv.advance call c draws s p).1.networks = none ∧
      ¬ (adv.advance call c draws s p).2.Reopens := by
  cases p with
  | fresh =>
    simp only [advance]
    cases hcall : call c with
    | start => exact absurd ⟨hcall, rfl⟩ hstart
    | stop => exact ⟨rfl, hnetworks, id⟩
    | refresh => exact ⟨hstopped, hnetworks, id⟩
  -- a call that enters a stopped advertiser opens nothing: it returns, or closes
  | waiting =>
    simp only [advance]
    split_ifs
    · exact ⟨hstopped, hnetworks, id⟩
    cases s.lock with
    | some b => exact ⟨hstopped, hnetworks, id⟩
    | none =>
      dsimp only
      obtain ⟨⟨raised, henter⟩, -⟩ | ⟨after, hafter, hkind, henter⟩ := enter_cases adv (call c) c draws s
      · rw [henter]
        exact ⟨hstopped, hnetworks, id⟩
      · obtain rfl := hafter (hkind hstopped)
        rw [henter]
        refine ⟨?_, closeNetwork_stop⟩
        unfold closeNetwork
        rw [hnetworks]
        exact hstopped
  -- a call that reopens is excluded by `hphase`; the others only take transports away
  | unregistering after held =>
    cases after with
    | stop => exact ⟨hstopped, hnetworks, id⟩
    | reopen snapshot => exact absurd trivial hphase
  | closing after held raised =>
    cases after with
    | stop =>
      simp only [advance]
      cases (draws.raised held).or raised with
      | none => exact ⟨hstopped, hnetworks, Call.answer_reopens⟩
      | some raised => exact ⟨hstopped, hnetworks, Call.answer_reopens⟩
    | reopen snapshot => exact absurd trivial hphase
  | registering => exact absurd trivial hphase
  | withdrawing held =>
    simp only [advance]
    cases draws.raised held with
    | none => exact ⟨hstopped, hnetworks, id⟩
    | some raised => exact ⟨hstopped, hnetworks, id⟩
  | discarding held =>
    simp only [advance]
    cases draws.raised held with
    | none => exact ⟨hstopped, hnetworks, Call.answer_reopens⟩
    | some raised => exact ⟨hstopped, hnetworks, id⟩
  | dropping held raised => exact ⟨hstopped, hnetworks, Call.answer_reopens⟩
  | abandoned => exact ⟨hstopped, hnetworks, id⟩
  | answered raised => exact ⟨hstopped, hnetworks, id⟩

theorem Silent.step (hstopped : s.shared.running = false) (hsilent : Silent s)
    (hstart : ¬ Starts call s turn) :
    (adv.serve call s turn).shared.running = false ∧ Silent (adv.serve call s turn) := by
  obtain ⟨hrunning, hnetworks, hphase⟩ := advance_silent adv call turn.call turn.draws
    hstopped hsilent.networks (hsilent.phases turn.call) hstart
  refine ⟨hrunning, hnetworks, fun b => ?_⟩
  by_cases hb : b = turn.call
  · subst hb
    rw [Pool.step_phase_self]
    exact hphase
  · rw [Pool.step_phase_ne hb]
    exact hsilent.phases b

/-- A stop has not got the lock yet, or never will. -/
def Pending (call : Nat → Call) (s : Pool State Phase) : Prop :=
  ∃ c, call c = .stop ∧ (s.phase c = .waiting ∨ s.phase c = .abandoned)

/-- Only a call that begins, starts or stops the advertiser. -/
theorem advance_running {c : Nat} {draws : Draws} (hinv : Inv adv call turns s) (hphase : s.phase c ≠ .fresh) :
    (adv.advance call c draws s.shared (s.phase c)).1.running = s.shared.running := by
  by_cases hlocks : (s.phase c).Locks
  · have hlock := (hinv.locks c).mp hlocks
    have hempty : s.shared.Empty := hinv.adoption.resolve_right fun h => by
      rw [hlock] at h
      cases h.1
    exact (advance_works hempty hlock hlocks (hinv.valid c)).running
  · cases hp : s.phase c with
    | unregistering | closing | registering | withdrawing | discarding | dropping =>
      rw [hp] at hlocks
      exact absurd trivial hlocks
    | fresh => exact absurd hp hphase
    | abandoned | answered => rfl
    | waiting =>
      simp only [advance]
      split_ifs
      · rfl
      cases s.shared.lock with
      | some b => rfl
      | none =>
        dsimp only
        obtain ⟨⟨raised, henter⟩, -⟩ | ⟨after, -, -, henter⟩ := enter_cases adv (call c) c draws s.shared
        · rw [henter]
        · rw [henter]
          refine (closeNetwork_works (M := fun _ => False) ?_).running
          exact hinv.adoption.imp_right fun ⟨_, held, info, snapshot, h, _⟩ => ⟨held, info, snapshot, h⟩

/-- The advertiser is running, or a stop is pending, or nothing is advertised. -/
def Settled (call : Nat → Call) (s : Pool State Phase) : Prop :=
  s.shared.running = true ∨ Pending call s ∨ Silent s

theorem Settled.step (hinv : Inv adv call turns s) (hstate : Settled call s) :
    Settled call (adv.serve call s turn) := by
  by_cases hrunning : (adv.serve call s turn).shared.running = true
  · exact .inl hrunning
  right
  by_cases hbefore : s.shared.running = true
  · -- the turn is the first of a stop, which waits for the lock next
    have hfresh : s.phase turn.call = .fresh := by
      by_contra hphase
      exact hrunning ((advance_running hinv hphase).trans hbefore)
    rw [Pool.step_shared, hfresh] at hrunning
    have hstop : call turn.call = .stop := by
      cases hcall : call turn.call with
      | stop => rfl
      | start => simp [advance, hcall, hbefore] at hrunning
      | refresh => simp [advance, hcall, hbefore] at hrunning
    refine .inl ⟨turn.call, hstop, .inl ?_⟩
    rw [Pool.step_phase_self, hfresh]
    simp [advance, hstop]
  · have hstopped : s.shared.running = false := Bool.eq_false_iff.mpr hbefore
    obtain ⟨b, hstop, hwaits⟩ | hsilent := hstate.resolve_left hbefore
    · by_cases hb : b = turn.call
      · subst hb
        obtain hwaiting | habandoned := hwaits
        · by_cases hcancelled : turn.draws.raises = some .cancelled
          · refine .inl ⟨turn.call, hstop, .inr ?_⟩
            rw [Pool.step_phase_self, hwaiting]
            simp [advance, hcancelled]
          cases hlock : s.shared.lock with
          | some b =>
            refine .inl ⟨turn.call, hstop, .inl ?_⟩
            rw [Pool.step_phase_self, hwaiting]
            simp [advance, hcancelled, hlock]
          | none =>
            -- the stop has got the lock, so no call is on its way to advertise
            have hstep : adv.advance call turn.call turn.draws s.shared (s.phase turn.call) =
                adv.closeNetwork .stop turn.call turn.draws .stop s.shared := by
              rw [hwaiting]
              simp [advance, hcancelled, hlock, hstop, enter]
            refine .inr ⟨?_, fun d => ?_⟩
            · rw [Pool.step_shared, hstep]
              exact closeNetwork_stop.1
            · by_cases hd : d = turn.call
              · subst hd
                rw [Pool.step_phase_self, hstep]
                exact closeNetwork_stop.2
              · rw [Pool.step_phase_ne hd]
                intro hreopens
                have hlocked := (hinv.locks d).mp hreopens.locks
                rw [hlock] at hlocked
                cases hlocked
        · refine .inl ⟨turn.call, hstop, .inr ?_⟩
          rw [Pool.step_phase_self, habandoned]
          rfl
      · exact .inl ⟨b, hstop, by rwa [Pool.step_phase_ne hb]⟩
    · refine .inr (hsilent.step hstopped fun ⟨hcall, hfresh⟩ => hrunning ?_).2
      rw [Pool.step_shared, hfresh]
      simp [advance, hcall, hstopped]

theorem served_settled (adv : Advertiser) (call : Nat → Call) (turns : List (Turn Draws)) :
    Settled call (adv.served call turns) :=
  run_history (I := fun turns s => s = adv.served call turns → Settled call s)
    (fun _ => .inr (.inr ⟨rfl, fun _ => id⟩))
    (fun turns _ hstate _ => (hstate rfl).step (served_inv adv call turns)) turns rfl

/-- **Stopped is silent.** Once the advertiser is stopped and no stop is pending, nothing is advertised
and no call goes on to advertise, and so it stays in every order of the steps that are left, until a
start begins: each transport that is still open is on its way to be closed, or one that a closing has
missed. -/
theorem stopped_is_silent (adv : Advertiser) (call : Nat → Call) (turns later : List (Turn Draws))
    (hstopped : (adv.served call turns).shared.running = false)
    (hstops : ¬ Pending call (adv.served call turns))
    (hlater : Along (adv.serve call) (fun s turn => ¬ Starts call s turn) (adv.served call turns) later) :
    Silent (adv.served call (turns ++ later)) ∧
      ∀ n, (adv.served call (turns ++ later)).shared.Open n →
        (∃ c, n ∈ ((adv.served call (turns ++ later)).phase c).held) ∨
          adv.Missed call (turns ++ later) n := by
  have hsilent : Silent (adv.served call turns) := by
    obtain hrunning | hpending | hsilent := served_settled adv call turns
    · rw [hstopped] at hrunning
      cases hrunning
    · exact absurd hpending hstops
    · exact hsilent
  have hstays : (adv.served call (turns ++ later)).shared.running = false ∧
      Silent (adv.served call (turns ++ later)) := by
    unfold served at hstopped hsilent hlater ⊢
    rw [run_append]
    exact run_inv_along (I := fun s => s.shared.running = false ∧ Silent s)
      (fun s turn hs hstart => hs.2.step hs.1 hstart) ⟨hstopped, hsilent⟩ hlater
  refine ⟨hstays.2, fun n hn => ?_⟩
  have haccounted := (transports_accounted adv call (turns ++ later)).2.1 n hn
  rw [hstays.2.networks] at haccounted
  exact haccounted.resolve_left List.not_mem_nil

/-! ### An undisturbed refresh -/

/-- Nothing is raised, every transport opens and does what it is told. -/
structure Undisturbed (draws : Draws) : Prop where
  v4 : draws.v4 = .opened
  v6 : draws.v6 = .opened
  reached : ∀ n, draws.reached n = true
  raises : draws.raises = none

theorem Undisturbed.raised {draws : Draws} (h : Undisturbed draws) (held : List Nat) :
    draws.raised held = none := by
  have hall : held.all draws.reached = true := List.all_eq_true.mpr fun n _ => h.reached n
  simp [Draws.raised, h.raises, hall]

theorem Undisturbed.opens {draws : Draws} (h : Undisturbed draws) (adv : Advertiser)
    (addresses : List String) (s : State) :
    ∃ s' held, adv.openNetwork draws addresses s = (s', held, false) := by
  unfold openNetwork
  rw [h.v4, h.v6]
  split_ifs <;> first | exact ⟨_, _, rfl⟩ | contradiction

/-- The call `c` has refreshed the advertisement: it is what is observed. -/
structure Refreshed (adv : Advertiser) (c : Nat) (snapshot : Observed) (s : Pool State Phase) : Prop where
  answered : s.phase c = .answered none
  free : s.shared.lock = none
  nothing : snapshot.addresses = [] → s.shared.networks = none
  everything : ∀ service, adv.buildInfo snapshot.addresses = some service →
    ∃ held, s.shared.Advertises adv held service snapshot

/-- The call has refreshed the advertisement after so many turns, and more change nothing. -/
def Refreshes (adv : Advertiser) (call : Nat → Call) (c : Nat) (draws : Draws) (snapshot : Observed) (k : Nat)
    (s : Pool State Phase) : Prop :=
  ∀ l, k ≤ l → Refreshed adv c snapshot (run (adv.serve call) s (List.replicate l ⟨c, draws⟩))

variable {c : Nat} {draws : Draws} {snapshot : Observed} {k : Nat}

/-- An answered call changes nothing. -/
theorem run_answered {raised : Option Raised} (h : s.phase c = .answered raised) (l : Nat) :
    run (adv.serve call) s (List.replicate l ⟨c, draws⟩) = s := by
  have hadvance : adv.advance call c draws s.shared (s.phase c) = (s.shared, s.phase c) := by
    rw [h]
    rfl
  have hstill : adv.serve call s ⟨c, draws⟩ = s :=
    (Pool.step_eq_set hadvance).trans (congrArg (Pool.mk s.shared) (Function.update_eq_self c s.phase))
  induction l with
  | zero => rfl
  | succ l ih => rw [List.replicate_succ, run_cons, hstill, ih]

theorem Refreshed.refreshes (h : Refreshed adv c snapshot s) (k : Nat) :
    Refreshes adv call c draws snapshot k s := by
  intro l _
  rwa [run_answered h.answered]

theorem Refreshes.step (h : Refreshes adv call c draws snapshot k (adv.serve call s ⟨c, draws⟩)) :
    Refreshes adv call c draws snapshot (k + 1) s := by
  intro l hl
  obtain ⟨l, rfl⟩ : ∃ l', l = l' + 1 := ⟨l - 1, by omega⟩
  exact h l (by omega)

theorem Refreshes.mono {j : Nat} (h : Refreshes adv call c draws snapshot j s) (hjk : j ≤ k) :
    Refreshes adv call c draws snapshot k s :=
  fun l hl => h l (hjk.trans hl)

variable (hcall : call c = .refresh) (hdraws : Undisturbed draws)
  (hobserved : adv.observed draws.reading = some snapshot)
include hcall hdraws hobserved

theorem refreshes_of_registering {service : ServiceInfo} (hheld : held ≠ [])
    (hservice : adv.buildInfo snapshot.addresses = some service)
    (hphase : s.phase c = .registering snapshot service held) : Refreshes adv call c draws snapshot 1 s := by
  refine (Refreshed.refreshes ?_ 0).step
  have hadvance : adv.advance call c draws s.shared (s.phase c) =
      ({ s.shared.mark held draws.reached (.advertising service) with
          networks := some held, info := some service, observation := some snapshot, lock := none },
        .answered none) := by
    rw [hphase]
    simp [advance, hdraws.raised, hobserved, hcall, Call.answer]
  rw [serve, Pool.step_eq_set hadvance]
  refine ⟨Pool.set_phase_self, rfl, fun hnone => ?_, fun service' hservice' => ⟨held, ?_⟩⟩
  · rw [hnone] at hservice
    cases hservice
  · obtain rfl := Option.some.inj (hservice.symm.trans hservice')
    exact ⟨rfl, rfl, rfl, hheld, hservice, fun n hn => if_pos ⟨hn, hdraws.reached n⟩⟩

/-- Once the old transports are closed. -/
theorem refreshes_of_follow {x : State} (hempty : x.Empty)
    (hbuilt : snapshot.addresses = [] ∨ ∃ service, adv.buildInfo snapshot.addresses = some service) :
    Refreshes adv call c draws snapshot 1 (s.set c (adv.follow .refresh draws x (.reopen snapshot)).1
      (adv.follow .refresh draws x (.reopen snapshot)).2) := by
  obtain hnone | ⟨service, hservice⟩ := hbuilt
  · have hfollow : adv.follow .refresh draws x (.reopen snapshot) = (x.release, .answered none) := by
      simp [follow, hnone, Call.answer]
    rw [hfollow]
    have hrefreshed : Refreshed adv c snapshot (s.set c x.release (.answered none)) := by
      refine ⟨Pool.set_phase_self, rfl, fun _ => hempty.networks, fun service hservice => ?_⟩
      rw [hnone] at hservice
      cases hservice
    exact hrefreshed.refreshes 1
  · obtain ⟨x', held, hopen⟩ := hdraws.opens adv snapshot.addresses x
    have hsome : snapshot.addresses ≠ [] := by
      rintro hnone
      rw [hnone] at hservice
      cases hservice
    have hfollow : adv.follow .refresh draws x (.reopen snapshot) =
        (x', .registering snapshot service held) := by
      simp [follow, hsome, hservice, hopen]
    rw [hfollow]
    exact refreshes_of_registering hcall hdraws hobserved (openNetwork_nonempty hservice hopen) hservice
      Pool.set_phase_self

theorem refreshes_of_closing (hempty : s.shared.Empty)
    (hbuilt : snapshot.addresses = [] ∨ ∃ service, adv.buildInfo snapshot.addresses = some service)
    (hphase : s.phase c = .closing (.reopen snapshot) held none) :
    Refreshes adv call c draws snapshot 2 s := by
  have hadvance : adv.advance call c draws s.shared (s.phase c) =
      adv.follow .refresh draws (s.shared.mark held draws.reached .closed) (.reopen snapshot) := by
    rw [hphase]
    simp [advance, hdraws.raised, hcall]
  refine Refreshes.step ?_
  rw [serve, Pool.step_eq_set (hadvance.trans Prod.mk.eta.symm)]
  exact refreshes_of_follow hcall hdraws hobserved hempty.mark hbuilt

theorem refreshes_of_unregistering (hempty : s.shared.Empty)
    (hbuilt : snapshot.addresses = [] ∨ ∃ service, adv.buildInfo snapshot.addresses = some service)
    (hphase : s.phase c = .unregistering (.reopen snapshot) held) :
    Refreshes adv call c draws snapshot 3 s := by
  have hadvance : adv.advance call c draws s.shared (s.phase c) =
      (s.shared.mark held draws.reached .silent, .closing (.reopen snapshot) held none) := by
    rw [hphase]
    simp [advance, hdraws.raised]
  refine Refreshes.step ?_
  rw [serve, Pool.step_eq_set hadvance]
  exact refreshes_of_closing hcall hdraws hobserved hempty.mark hbuilt Pool.set_phase_self

/-- The lock is free, and the call is next. -/
theorem refreshes_of_waiting (hinv : Inv adv call turns s) (hrunning : s.shared.running = true)
    (hfree : s.shared.lock = none)
    (hbuilt : snapshot.addresses = [] ∨ ∃ service, adv.buildInfo snapshot.addresses = some service)
    (hphase : s.phase c = .waiting) : Refreshes adv call c draws snapshot 4 s := by
  have henter : adv.advance call c draws s.shared (s.phase c) =
      if s.shared.networks.isSome ∧ s.shared.observation = some snapshot then (s.shared, .answered none)
      else adv.closeNetwork .refresh c draws (.reopen snapshot) s.shared := by
    rw [hphase]
    simp [advance, hdraws.raises, hfree, enter, refreshInterfaces, hcall, hrunning, hobserved, Call.answer]
  have hadoption := hinv.adoption.imp_right fun h => h.2
  refine Refreshes.step ?_
  by_cases hsame : s.shared.networks.isSome ∧ s.shared.observation = some snapshot
  · -- what is observed is advertised already
    rw [if_pos hsame] at henter
    rw [serve, Pool.step_eq_set henter]
    obtain hempty | ⟨networks, service, snapshot', hadvertises, -⟩ := hadoption
    · rw [hempty.networks] at hsame
      cases hsame.1
    obtain rfl : snapshot' = snapshot := Option.some.inj (hadvertises.observation.symm.trans hsame.2)
    refine Refreshed.refreshes ⟨Pool.set_phase_self, hfree, fun hnone => ?_, fun service' hservice => ?_⟩ 3
    · have hbuilt := hadvertises.built
      rw [hnone] at hbuilt
      cases hbuilt
    · obtain rfl := Option.some.inj (hadvertises.built.symm.trans hservice)
      exact ⟨networks, hadvertises⟩
  · rw [if_neg hsame] at henter
    rw [serve, Pool.step_eq_set (henter.trans Prod.mk.eta.symm)]
    unfold closeNetwork
    obtain hempty | ⟨networks, service, snapshot', hadvertises, -⟩ := hadoption
    · rw [hempty.networks]
      exact (refreshes_of_follow hcall hdraws hobserved ⟨rfl, rfl, rfl⟩ hbuilt).mono (by omega)
    · rw [hadvertises.networks, hadvertises.info]
      exact refreshes_of_unregistering hcall hdraws hobserved ⟨rfl, rfl, rfl⟩ hbuilt Pool.set_phase_self

omit hcall hdraws hobserved in
/-- **A refresh heals.** In every state of every run where the advertiser is running and no call has the
lock, a refresh that nothing disturbs is done in five turns: what the interfaces say is advertised then,
by each transport that is open but for those that a closing has missed before, and nothing else is. Where
it was advertised already, nothing is touched. -/
theorem refresh_heals (adv : Advertiser) (call : Nat → Call) (turns : List (Turn Draws)) {c : Nat}
    {draws : Draws} {snapshot : Observed} (hcall : call c = .refresh)
    (hfresh : (adv.served call turns).phase c = .fresh)
    (hrunning : (adv.served call turns).shared.running = true)
    (hfree : (adv.served call turns).shared.lock = none) (hdraws : Undisturbed draws)
    (hobserved : adv.observed draws.reading = some snapshot)
    (hbuilt : snapshot.addresses = [] ∨ ∃ service, adv.buildInfo snapshot.addresses = some service) :
    Refreshed adv c snapshot (adv.served call (turns ++ List.replicate 5 ⟨c, draws⟩)) ∧
      (∀ n, (adv.served call (turns ++ List.replicate 5 ⟨c, draws⟩)).shared.Open n →
        (∃ service, adv.buildInfo snapshot.addresses = some service ∧
          (adv.served call (turns ++ List.replicate 5 ⟨c, draws⟩)).shared.transports n =
            .advertising service) ∨
        adv.Missed call turns n) ∧
      ((adv.served call turns).shared.networks.isSome = true →
        (adv.served call turns).shared.observation = some snapshot →
        (adv.served call (turns ++ List.replicate 5 ⟨c, draws⟩)).shared = (adv.served call turns).shared) := by
  have hinv := served_inv adv call turns
  -- the first turn waits for the lock; from there `refreshes_of_waiting` counts the rest
  have hadvance : adv.advance call c draws (adv.served call turns).shared ((adv.served call turns).phase c) =
      ((adv.served call turns).shared, .waiting) := by
    rw [hfresh]
    simp [advance, hcall]
  have hwaits := Pool.step_eq_set hadvance
  have hwaiting : Inv adv call (turns ++ [⟨c, draws⟩])
      ((adv.served call turns).set c (adv.served call turns).shared .waiting) :=
    hwaits ▸ hinv.step
  have hrefreshes : Refreshes adv call c draws snapshot 5 (adv.served call turns) := by
    refine Refreshes.step ?_
    rw [serve, hwaits]
    exact refreshes_of_waiting hcall hdraws hobserved hwaiting hrunning hfree hbuilt Pool.set_phase_self
  have hserved : adv.served call (turns ++ List.replicate 5 ⟨c, draws⟩) =
      run (adv.serve call) (adv.served call turns) (List.replicate 5 ⟨c, draws⟩) := run_append ..
  have hrefreshed : Refreshed adv c snapshot (adv.served call (turns ++ List.replicate 5 ⟨c, draws⟩)) := by
    rw [hserved]
    exact hrefreshes 5 le_rfl
  refine ⟨hrefreshed, fun n hn => ?_, fun hsome hobservation => ?_⟩
  -- an open transport is advertised, held by a call that has the lock, or missed; the lock is free
  · obtain hmem | ⟨b, hheld⟩ | hmissed :=
      (served_inv adv call (turns ++ List.replicate 5 ⟨c, draws⟩)).accounted n hn
    · left
      obtain hnone | ⟨service, hservice⟩ := hbuilt
      · rw [hrefreshed.nothing hnone] at hmem
        cases hmem
      · obtain ⟨networks, hadvertises⟩ := hrefreshed.everything service hservice
        rw [hadvertises.networks] at hmem
        exact ⟨service, hservice, hadvertises.transports n hmem⟩
    · have hlock := ((served_inv adv call _).locks b).mp (Phase.locks_of_held hheld)
      rw [hrefreshed.free] at hlock
      cases hlock
    · refine .inr (hmissed.of_append fun turn hturn => ?_)
      rw [List.eq_of_mem_replicate hturn]
      exact hdraws.reached n
  -- the same interfaces as before: the second turn answers without touching a transport
  · have henter : adv.advance call c draws (adv.served call turns).shared .waiting =
        ((adv.served call turns).shared, .answered none) := by
      simp [advance, hdraws.raises, hfree, enter, refreshInterfaces, hcall, hrunning, hobserved, hsome,
        hobservation, Call.answer]
    rw [hserved, List.replicate_succ, run_cons, serve, hwaits, List.replicate_succ, run_cons,
      Pool.step_eq_set (x := (adv.served call turns).shared) (p := .answered none)]
    · rw [run_answered Pool.set_phase_self, Pool.set_shared]
    · rw [Pool.set_phase_self, Pool.set_shared, henter]

end Runs

end Advertiser

/-! ### One interface -/

/-- The address of the example. -/
def Sample.address : IpAddress where
  text := "192.168.1.7"
  version := .v4
  packed := [192, 168, 1, 7]
  isLoopback := false
  isUnspecified := false
  isMulticast := false
  isLinkLocal := false

/-- A network that knows this address. -/
def Sample.links : Links where
  ipAddress text := if text = "192.168.1.7" then some Sample.address else none
  onProductLink _ := true

/-- An advertiser on this network. -/
def Sample.advertiser : Advertiser where
  links := Sample.links
  serviceType := "_eidolon-hub._tcp.local."
  serviceName := "hub._eidolon-hub._tcp.local."
  hostname := "eidolon-hub"
  port := 8443
  ownerDomainId := "home"
  ownerDomainDescriptorUri := "https://eidolon-hub.local:8443/owner-domain"
  addresses := none

/-- One adapter with this address. -/
def Sample.adapters : List Adapter := [⟨"wlan0", 2, [⟨"192.168.1.7", 24⟩]⟩]

/-- Every step goes well. -/
def Sample.calm : Draws where
  reading := some Sample.adapters
  v4 := .opened
  v6 := .opened
  reached _ := true
  raises := none

theorem Sample.calm_undisturbed : Advertiser.Undisturbed Sample.calm := ⟨rfl, rfl, fun _ => rfl, rfl⟩

/-- A start, a refresh, and stops. -/
def Sample.calls : Nat → Call
  | 0 => .start
  | 1 => .refresh
  | _ => .stop

/-- The first call starts the advertiser. -/
def Sample.starting : List (Turn Draws) := List.replicate 3 ⟨0, Sample.calm⟩

/-- Another call stops it then. -/
def Sample.stopping : List (Turn Draws) := Sample.starting ++ List.replicate 4 ⟨2, Sample.calm⟩

/-- A call that refreshes goes on twice. -/
def Sample.refreshing : List (Turn Draws) := List.replicate 2 ⟨1, Sample.calm⟩

theorem Sample.stopping_settled : ¬ Advertiser.Pending Sample.calls
    (Sample.advertiser.served Sample.calls Sample.stopping) := by
  rintro ⟨c, hcall, hphase⟩
  have hturns : ∀ turn ∈ Sample.stopping, turn.call = 0 ∨ turn.call = 2 := by decide
  by_cases hc : c = 0 ∨ c = 2
  · obtain rfl | rfl := hc
    · cases hcall
    · have hanswered : (Sample.advertiser.served Sample.calls Sample.stopping).phase 2 = .answered none := by
        decide +kernel
      rw [hanswered] at hphase
      obtain h | h := hphase <;> cases h
  · have hfresh : (Sample.advertiser.served Sample.calls Sample.stopping).phase c = .fresh :=
      Pool.run_phase_of_ne fun turn hturn heq => hc (heq ▸ hturns turn hturn)
    rw [hfresh] at hphase
    obtain h | h := hphase <;> cases h

theorem advertised_usable_wlan : ∃ turn ∈ Sample.starting, ∃ adapters, turn.draws.reading = some adapters ∧
    ∃ adapter ∈ adapters, ∃ item ∈ adapter.ips, ∃ ip,
      Sample.links.ipAddress (unscoped item.raw) = some ip ∧ usable Sample.links ip = true ∧
        ∃ canonical, Sample.links.ipAddress ip.text = some canonical ∧ canonical.packed = [192, 168, 1, 7] := by
  have hinfo : (Sample.advertiser.served Sample.calls Sample.starting).shared.info.any
      (fun service => decide ([192, 168, 1, 7] ∈ service.addresses)) = true := by decide +kernel
  obtain ⟨service, hservice, hpacked⟩ := (Option.any_eq_true _ _).mp hinfo
  exact Advertiser.advertised_usable Sample.advertiser Sample.calls Sample.starting rfl hservice
    (of_decide_eq_true hpacked)

/-- The Hub has started, and is stopped; a refresh comes late. -/
theorem stopped_is_silent_wlan : Advertiser.Silent
    (Sample.advertiser.served Sample.calls (Sample.stopping ++ Sample.refreshing)) :=
  (Advertiser.stopped_is_silent Sample.advertiser Sample.calls Sample.stopping Sample.refreshing
    (by decide +kernel) Sample.stopping_settled
    ⟨fun h => Call.noConfusion h.1, fun h => Call.noConfusion h.1, trivial⟩).1

theorem refresh_heals_wlan : (Sample.advertiser.served Sample.calls
    (Sample.starting ++ List.replicate 5 ⟨1, Sample.calm⟩)).shared.networks =
      (Sample.advertiser.served Sample.calls Sample.starting).shared.networks := by
  have hbuilt : (Sample.advertiser.buildInfo ["192.168.1.7"]).isSome = true := by decide
  have hsnapshot : Sample.advertiser.observed Sample.calm.reading =
      some (.interfaces [entry "wlan0" 2 "192.168.1.7" 24]) := by decide +kernel
  have haddresses : (Observed.interfaces [entry "wlan0" 2 "192.168.1.7" 24]).addresses = ["192.168.1.7"] := by
    decide +kernel
  exact congrArg State.networks ((Advertiser.refresh_heals Sample.advertiser Sample.calls Sample.starting rfl
    rfl (by decide +kernel) (by decide +kernel) Sample.calm_undisturbed hsnapshot
    (.inr (haddresses ▸ Option.isSome_iff_exists.mp hbuilt))).2.2 (by decide +kernel) (by decide +kernel))

end EidolonHub.Discovery
