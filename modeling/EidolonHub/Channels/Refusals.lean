import EidolonHub.Channels.Confirmation
import EidolonHub.Library.Run
import Mathlib.Data.Countable.Basic
import Mathlib.Logic.Equiv.List

/-!
# EidolonHub.Channels.Refusals

**The cache of refusals is invisible.** A call that finds a refusal for what it would ask answers
with it; the same code without the cache would ask, and be refused again. Every entry is the
refusal that the Provider gave to some call for the values its fingerprint stands for, whatever
has been asked, dropped or evicted since, so the two codes keep step: they are in the same phase
of a call, or the cache has already given the answer that the other one is waiting for.

A refusal here is any answer that waiting will not change: the Provider's own verdict, and what its
client makes of a reply that it cannot read. Both are kept, so both have to be permanent; that the
Provider's own verdicts are is not enough.
-/

namespace EidolonHub.Channels

open EidolonHub.Admission EidolonHub.Devices EidolonHub.Library

/-- A call of `resolve`. -/
abbrev CallId := Nat

variable {crypto : Crypto} {presentation : Presentation} (wire : Wire presentation)

/-! ### Calls of `resolve` -/

/-- Where a call stands. -/
inductive Phase (presentation : Presentation) where
  | asking (asking : Asking presentation)
  | operating (asking : Asking presentation) (id : OperationId)
  /-- The Provider was asked about these inputs. -/
  | answered (inputs : Inputs presentation) (resolution : Resolution)
  /-- It was not asked. -/
  | settled (resolution : Resolution)

namespace Phase

/-- What a call asks about. -/
def inputs : Phase presentation → Option (Inputs presentation)
  | asking a => some a.inputs
  | operating a _ => some a.inputs
  | answered i _ => some i
  | settled _ => none

/-- The answer of a call that has one. -/
def answer : Phase presentation → Option Resolution
  | answered _ resolution => some resolution
  | settled resolution => some resolution
  | _ => none

/-- `current` returns. -/
def hold (reply : Reply (CurrentResponse presentation)) : Phase presentation → Option (Phase presentation)
  | asking a =>
    match current a.inputs.deviceRef reply with
    | .error raised => some (answered a.inputs (.ofProblem raised.problem))
    | .ok binding =>
      match a.decide wire binding with
      | .serve channel => some (answered a.inputs { channels := [channel] })
      | .operate _ id => some (operating a id)
  | _ => none

/-- `provision` or `refresh` returns. -/
def operate (reply : Reply (ProvisionResponse presentation)) : Phase presentation → Option (Phase presentation)
  | operating a id => some (answered a.inputs (conclude (a.operated id reply)))
  | _ => none

end Phase

/-- What the calls of one process share, and the calls. -/
structure Calls (presentation : Presentation) where
  refusals : Refusals := []
  phase : CallId → Option (Phase presentation) := fun _ => none

/-- A step of a call, with what it is given. -/
inductive Request (crypto : Crypto) (presentation : Presentation) where
  /-- A call has read its row; the clock is read where it goes on. -/
  | read (call : CallId) (deviceRef : DeviceRef) (observedHostAddress : String) (nowMs : Millis)
    (device : Option (ManagedDevice crypto presentation))
  | held (call : CallId) (reply : Reply (CurrentResponse presentation))
  | operated (call : CallId) (reply : Reply (ProvisionResponse presentation))

namespace Calls

variable (calls : Calls presentation)

/-- The problem that is kept for what a call would ask. -/
def remembered (inputs : Inputs presentation) : Option Problem :=
  ((calls.refusals.get inputs.deviceRef.deviceInstanceId).filter (·.1 = inputs.fingerprint wire)).map (·.2)

/-- What the handlers keep where a call ends. -/
def remember (refusals : Refusals) : Phase presentation → Refusals
  | .answered inputs ⟨_, some problem⟩ =>
    if problem.retryable then refusals
    else refusals.keep inputs.deviceRef.deviceInstanceId (inputs.fingerprint wire, problem)
  | _ => refusals

/-- A call comes to a phase, and what it ended with is kept. -/
def enter (call : CallId) (phase : Phase presentation) : Calls presentation where
  refusals := remember wire calls.refusals phase
  phase := Function.update calls.phase call (some phase)

/-- The first part of a call. -/
def begin (call : CallId) (prepared : Except Resolution (Asking presentation)) : Calls presentation :=
  match prepared with
  | .error resolution => { calls with phase := Function.update calls.phase call (some (.settled resolution)) }
  | .ok asking =>
    match calls.remembered wire asking.inputs with
    | some problem =>
      { calls with phase := Function.update calls.phase call (some (.settled (.ofProblem problem))) }
    | none =>
      { refusals := calls.refusals.pop asking.inputs.deviceRef.deviceInstanceId
        phase := Function.update calls.phase call (some (.asking asking)) }

/-- A call goes on, if it stands where it can. -/
def proceed (call : CallId) (go : Phase presentation → Option (Phase presentation)) : Calls presentation :=
  match (calls.phase call).bind go with
  | some phase => calls.enter wire call phase
  | none => calls

/-- One step of one call. -/
def next : Request crypto presentation → Calls presentation
  | .read call deviceRef observedHostAddress nowMs device =>
    if (calls.phase call).isSome then calls
    else calls.begin wire call (prepare wire deviceRef observedHostAddress nowMs device)
  | .held call reply => calls.proceed wire call (Phase.hold wire reply)
  | .operated call reply => calls.proceed wire call (Phase.operate reply)

/-- The same code without the cache. -/
def nextWithout (request : Request crypto presentation) : Calls presentation :=
  { calls.next wire request with refusals := [] }

/-- The answer of a call, once it has one. -/
def answer (call : CallId) : Option Resolution := (calls.phase call).bind Phase.answer

end Calls

/-- A call about these inputs has ended with a problem for good before another call about them
begins. The problem may be the Provider's own refusal, or what its client makes of an answer that
it cannot read: the handlers keep both. -/
def Foretold (requests : List (Request crypto presentation)) (call : CallId) (inputs : Inputs presentation)
    (problem : Problem) : Prop :=
  ∃ before deviceRef observedHostAddress nowMs device after asking earlier,
    requests = before ++ .read call deviceRef observedHostAddress nowMs device :: after ∧
    (run (Calls.nextWithout wire) {} before).phase call = none ∧
    prepare wire deviceRef observedHostAddress nowMs device = .ok asking ∧ asking.inputs = inputs ∧
    (run (Calls.nextWithout wire) {} before).phase earlier = some (.answered inputs (.ofProblem problem)) ∧
    problem.retryable = false

/-- The Provider is reachable, and what it answers for good it answers again: asked about the same
inputs, it gives the same refusal, or again an answer that its client cannot read. -/
def Permanent (requests : List (Request crypto presentation)) : Prop :=
  ∀ call inputs problem resolution, Foretold wire requests call inputs problem →
    (run (Calls.nextWithout wire) {} requests).phase call = some (.answered inputs resolution) →
      resolution = .ofProblem problem

/-! ### The refusals of the Provider alone -/

/-- The Provider's own refusal in a reply: one under its own authority. The other problems are made
by its client. -/
def Reply.verdict {Body : Type} : Reply Body → Option Problem
  | .refused _ (some document) =>
    if document.authority = "eidolon-channel-provider" then
      some (Raised.problem (.provider ⟨document.code, document.retryable, document.detail.getD document.code⟩))
    else none
  | _ => none

/-- The Provider's own refusal in what a call is given. -/
def Request.verdict : Request crypto presentation → Option Problem
  | .read _ _ _ _ _ => none
  | .held _ reply => reply.verdict
  | .operated _ reply => reply.verdict

/-- A call about these inputs has ended with a refusal for good of the Provider itself. -/
def Refused (requests : List (Request crypto presentation)) (call : CallId) (inputs : Inputs presentation)
    (problem : Problem) : Prop :=
  ∃ before request after phase, requests = before ++ request :: after ∧
    (run (Calls.nextWithout wire) {} before).phase call = some phase ∧ phase.answer = none ∧
    ((run (Calls.nextWithout wire) {} before).nextWithout wire request).phase call =
      some (.answered inputs (.ofProblem problem)) ∧
    request.verdict = some problem ∧ problem.retryable = false

/-- The Provider's own refusals are permanent; of answers that its client cannot read nothing is
said. -/
def PermanentVerdicts (requests : List (Request crypto presentation)) : Prop :=
  ∀ before call deviceRef observedHostAddress nowMs device after asking earlier problem resolution,
    requests = before ++ .read call deviceRef observedHostAddress nowMs device :: after →
    (run (Calls.nextWithout wire) {} before).phase call = none →
    prepare wire deviceRef observedHostAddress nowMs device = .ok asking →
    Refused wire before earlier asking.inputs problem →
    (run (Calls.nextWithout wire) {} requests).phase call = some (.answered asking.inputs resolution) →
      resolution = .ofProblem problem

variable {wire}

/-! ### The cache -/

namespace Refusals

variable {refusals : Refusals} {id : DeviceInstanceId} {entry : String × Problem}

theorem mem_of_get (h : refusals.get id = some entry) : (id, entry) ∈ refusals := by
  obtain ⟨held, hfind, rfl⟩ := Option.map_eq_some_iff.mp h
  have hid : held.1 = id := by simpa using List.find?_some hfind
  rw [← hid]
  exact List.mem_of_find?_eq_some hfind

theorem mem_set {held : DeviceInstanceId × String × Problem} (h : held ∈ refusals.set id entry) :
    held = (id, entry) ∨ held ∈ refusals := by
  unfold set at h
  split at h
  · obtain ⟨held', hmem, rfl⟩ := List.mem_map.mp h
    split
    · exact .inl rfl
    · exact .inr hmem
  · rcases List.mem_append.mp h with h | h
    · exact .inr h
    · exact .inl (List.mem_singleton.mp h)

theorem mem_keep {held : DeviceInstanceId × String × Problem} (h : held ∈ refusals.keep id entry) :
    held = (id, entry) ∨ held ∈ refusals := by
  unfold keep at h
  dsimp only at h
  split at h
  · exact mem_set (List.mem_of_mem_tail h)
  · exact mem_set h

theorem length_set_le (refusals : Refusals) (id : DeviceInstanceId) (entry : String × Problem) :
    (refusals.set id entry).length ≤ refusals.length + 1 := by
  unfold set
  split <;> simp

/-- The oldest entry makes room for a new one. -/
theorem length_keep_le (h : refusals.length ≤ maxRefusals) : (refusals.keep id entry).length ≤ maxRefusals := by
  have hset := length_set_le refusals id entry
  unfold keep
  dsimp only
  split
  · rw [List.length_tail]
    omega
  · omega

end Refusals

/-- The hash tells what it is given apart, so a fingerprint stands for one set of inputs. -/
theorem Inputs.fingerprint_inj (hdigest : Function.Injective wire.digest) {inputs inputs' : Inputs presentation}
    (h : inputs.fingerprint wire = inputs'.fingerprint wire) : inputs = inputs' := by
  unfold fingerprint operationId at h
  have hvalues := hdigest ((String.append_right_inj _).mp h)
  simp only [List.cons.injEq, Hashed.deviceRef.injEq, Hashed.text.injEq, Hashed.number.injEq, Int.natCast_inj,
    Hashed.outputPolicy.injEq, and_true] at hvalues
  cases inputs
  cases inputs'
  simpa only [Inputs.mk.injEq] using hvalues

/-! ### One step -/

/-- What a call can do when it goes on: it has not answered yet, keeps to its inputs, and has no
Channels beside a problem. -/
structure Goes (go : Phase presentation → Option (Phase presentation)) : Prop where
  waiting : ∀ {phase phase'}, go phase = some phase' → phase.answer = none
  inputs : ∀ {phase phase'}, go phase = some phase' → phase'.inputs = phase.inputs
  problem : ∀ {phase inputs channels problem}, go phase = some (.answered inputs ⟨channels, some problem⟩) →
    channels = []

theorem goes_hold (reply : Reply (CurrentResponse presentation)) : Goes (Phase.hold wire reply) := by
  constructor
  · intro phase phase' h
    cases phase with
    | asking => rfl
    | _ => cases h
  · intro phase phase' h
    cases phase with
    | asking a =>
      unfold Phase.hold at h
      dsimp only at h
      split at h
      · cases h
        rfl
      · split at h <;> cases h <;> rfl
    | _ => cases h
  · intro phase inputs channels problem h
    cases phase with
    | asking a =>
      unfold Phase.hold at h
      dsimp only at h
      split at h
      · cases h
        rfl
      · split at h <;> cases h
    | _ => cases h

theorem goes_operate (reply : Reply (ProvisionResponse presentation)) : Goes (Phase.operate reply) := by
  constructor
  · intro phase phase' h
    cases phase with
    | operating => rfl
    | _ => cases h
  · intro phase phase' h
    cases phase with
    | operating a id =>
      cases h
      rfl
    | _ => cases h
  · intro phase inputs channels problem h
    cases phase with
    | operating a id =>
      simp only [Phase.operate, Option.some.injEq, Phase.answered.injEq] at h
      cases houtcome : a.operated id reply with
      | error raised => exact (congrArg Resolution.channels h.2).symm.trans (by rw [houtcome]; rfl)
      | ok channel => simp [houtcome, conclude] at h
    | _ => cases h

namespace Calls

variable {calls : Calls presentation} {request : Request crypto presentation} {call c : CallId}
  {phase phase' : Phase presentation}

theorem proceed_eq (calls : Calls presentation) (call : CallId)
    (go : Phase presentation → Option (Phase presentation)) :
    calls.proceed wire call go = calls ∨
      ∃ phase phase', calls.phase call = some phase ∧ go phase = some phase' ∧
        calls.proceed wire call go = calls.enter wire call phase' := by
  unfold proceed
  split
  · next phase' hgo =>
    obtain ⟨phase, hphase, hphase'⟩ := Option.bind_eq_some_iff.mp hgo
    exact .inr ⟨phase, phase', hphase, hphase', rfl⟩
  · exact .inl rfl

theorem proceed_congr {go : Phase presentation → Option (Phase presentation)} {calls' : Calls presentation}
    (h : calls.phase call = calls'.phase call) :
    (calls.proceed wire call go).phase call = (calls'.proceed wire call go).phase call := by
  unfold proceed
  rw [h]
  split
  · simp [enter]
  · exact h

theorem proceed_other {go : Phase presentation → Option (Phase presentation)} (h : c ≠ call) :
    (calls.proceed wire call go).phase c = calls.phase c := by
  unfold proceed
  split
  · simp [enter, h]
  · rfl

theorem begin_other {prepared : Except Resolution (Asking presentation)} (h : c ≠ call) :
    (calls.begin wire call prepared).phase c = calls.phase c := by
  unfold begin
  split
  · simp [h]
  · split <;> simp [h]

theorem mem_remember {refusals : Refusals} {entry : DeviceInstanceId × String × Problem}
    (h : entry ∈ remember wire refusals phase) :
    (∃ inputs channels problem, phase = .answered inputs ⟨channels, some problem⟩ ∧
      problem.retryable = false ∧
      entry = (inputs.deviceRef.deviceInstanceId, inputs.fingerprint wire, problem)) ∨ entry ∈ refusals := by
  unfold remember at h
  split at h
  · next inputs channels problem =>
    split at h
    · exact .inr h
    · next hretryable =>
      exact (Refusals.mem_keep h).imp_left fun heq => ⟨inputs, channels, problem, rfl, by simpa using hretryable, heq⟩
  · exact .inr h

theorem mem_begin {prepared : Except Resolution (Asking presentation)}
    {entry : DeviceInstanceId × String × Problem} (h : entry ∈ (calls.begin wire call prepared).refusals) :
    entry ∈ calls.refusals := by
  unfold begin at h
  split at h
  · exact h
  · split at h
    · exact h
    · exact List.mem_of_mem_filter h

/-- A call that has answered is left alone. -/
theorem next_answered (h : calls.phase c = some phase) (hdone : phase.answer ≠ none) :
    (calls.next wire request).phase c = some phase := by
  have hgone : ∀ {call go}, Goes go → (calls.proceed wire call go).phase c = some phase := by
    intro call go hgoes
    by_cases hc : c = call
    · subst hc
      have hnone : go phase = none := by
        by_contra hsome
        obtain ⟨phase', hphase'⟩ := Option.ne_none_iff_exists'.mp hsome
        exact hdone (hgoes.waiting hphase')
      unfold proceed
      rw [h, Option.bind_some, hnone]
      exact h
    · rw [proceed_other hc, h]
  unfold next
  split
  · next call _ _ _ _ =>
    split
    · exact h
    · next hnone =>
      have hc : c ≠ call := fun heq => hnone (by rw [← heq, h]; rfl)
      rw [begin_other hc, h]
  · exact hgone (goes_hold _)
  · exact hgone (goes_operate _)

/-- An answer stays, whatever a step does to the cache. -/
theorem stays {step : Calls presentation → Request crypto presentation → Calls presentation}
    (hstep : ∀ calls request, (step calls request).phase = (calls.next wire request).phase)
    {start : Calls presentation} {requests : List (Request crypto presentation)}
    (more : List (Request crypto presentation)) (h : (run step start requests).phase c = some phase)
    (hdone : phase.answer ≠ none) : (run step start (requests ++ more)).phase c = some phase := by
  induction more using List.reverseRec with
  | nil => rwa [List.append_nil]
  | append_singleton more request ih =>
    rw [← List.append_assoc, run_concat, hstep]
    exact next_answered ih hdone

theorem run_answered {requests : List (Request crypto presentation)} {start : Calls presentation}
    (more : List (Request crypto presentation)) (h : (run (next wire) start requests).phase c = some phase)
    (hdone : phase.answer ≠ none) : (run (next wire) start (requests ++ more)).phase c = some phase := by
  have hstep : ∀ (calls : Calls presentation) (request : Request crypto presentation),
      (next wire calls request).phase = (calls.next wire request).phase := fun _ _ => rfl
  exact stays hstep more h hdone

theorem run_without_answered {requests : List (Request crypto presentation)} {start : Calls presentation}
    (more : List (Request crypto presentation))
    (h : (run (nextWithout wire) start requests).phase c = some phase) (hdone : phase.answer ≠ none) :
    (run (nextWithout wire) start (requests ++ more)).phase c = some phase := by
  have hstep : ∀ (calls : Calls presentation) (request : Request crypto presentation),
      (nextWithout wire calls request).phase = (calls.next wire request).phase := fun _ _ => rfl
  exact stays hstep more h hdone

end Calls

/-! ### Both codes on one schedule -/

variable (wire) in
/-- The cache has answered a call that the other code asks about, or has asked about. -/
def Replayed (requests : List (Request crypto presentation)) (calls without : Calls presentation)
    (call : CallId) : Prop :=
  ∃ problem phase inputs, calls.phase call = some (.settled (.ofProblem problem)) ∧
    without.phase call = some phase ∧ phase.inputs = some inputs ∧ Foretold wire requests call inputs problem

variable (wire) in
/-- An entry is the refusal that some call was given for what its fingerprint stands for. -/
def Recalled (without : Calls presentation) (entry : DeviceInstanceId × String × Problem) : Prop :=
  ∃ call inputs problem, without.phase call = some (.answered inputs (.ofProblem problem)) ∧
    problem.retryable = false ∧
    entry = (inputs.deviceRef.deviceInstanceId, inputs.fingerprint wire, problem)

variable (wire) in
/-- The two codes after one schedule. -/
structure InStep (requests : List (Request crypto presentation)) (calls without : Calls presentation) :
    Prop where
  phase : ∀ call, calls.phase call = without.phase call ∨ Replayed wire requests calls without call
  recalled : ∀ entry ∈ calls.refusals, Recalled wire without entry

section Schedule

variable {requests : List (Request crypto presentation)} {calls : Calls presentation}

theorem without_refusals (requests : List (Request crypto presentation)) :
    (run (Calls.nextWithout wire) {} requests).refusals = [] := by
  induction requests using List.reverseRec with
  | nil => rfl
  | append_singleton requests request _ =>
    rw [run_concat]
    rfl

theorem Foretold.concat {call : CallId} {inputs : Inputs presentation} {problem : Problem}
    (h : Foretold wire requests call inputs problem) (request : Request crypto presentation) :
    Foretold wire (requests ++ [request]) call inputs problem := by
  obtain ⟨before, deviceRef, observedHostAddress, nowMs, device, after, asking, earlier, rfl, hrest⟩ := h
  exact ⟨before, deviceRef, observedHostAddress, nowMs, device, after ++ [request], asking, earlier,
    by simp, hrest⟩

theorem Recalled.next {without : Calls presentation} {entry : DeviceInstanceId × String × Problem}
    (h : Recalled wire without entry) (request : Request crypto presentation) :
    Recalled wire (without.nextWithout wire request) entry := by
  obtain ⟨call, inputs, problem, hphase, hrest⟩ := h
  exact ⟨call, inputs, problem, Calls.next_answered hphase (by simp [Phase.answer]), hrest⟩

/-- A call that goes on does so in both codes, or has been answered by the cache in one. -/
theorem InStep.proceed {go : Phase presentation → Option (Phase presentation)} (hgoes : Goes go)
    {without : Calls presentation} {call : CallId} {request : Request crypto presentation}
    (h : InStep wire requests calls without)
    (hnext : without.nextWithout wire request = { without.proceed wire call go with refusals := [] }) :
    InStep wire (requests ++ [request]) (calls.proceed wire call go)
      (without.nextWithout wire request) := by
  constructor
  · intro c
    by_cases hc : c = call
    · subst hc
      rcases h.phase c with hsame | ⟨problem, phase, inputs, hsettled, hphase, hinputs, hforetold⟩
      · rw [hnext]
        exact .inl (Calls.proceed_congr hsame)
      · refine .inr ?_
        have hstays : (calls.proceed wire c go).phase c = calls.phase c := by
          rcases Calls.proceed_eq calls c go with heq | ⟨phase, phase', hcall, hgo, -⟩
          · rw [heq]
          · rw [hsettled] at hcall
            cases hcall
            exact nomatch hgoes.waiting hgo
        rcases Calls.proceed_eq without c go with heq | ⟨phase₀, phase', hcall, hgo, heq⟩
        · exact ⟨problem, phase, inputs, hstays.trans hsettled, by rw [hnext, heq]; exact hphase, hinputs,
            hforetold.concat request⟩
        -- the cache has answered this call already, while the code without it goes on
        · obtain rfl := Option.some.inj (hcall.symm.trans hphase)
          refine ⟨problem, phase', inputs, hstays.trans hsettled, ?_, (hgoes.inputs hgo).trans hinputs,
            hforetold.concat request⟩
          rw [hnext, heq]
          simp [Calls.enter]
    · have hcalls : (calls.proceed wire call go).phase c = calls.phase c := Calls.proceed_other hc
      have hwithout : (without.proceed wire call go).phase c = without.phase c := Calls.proceed_other hc
      rw [hnext]
      rcases h.phase c with hsame | ⟨problem, phase, inputs, hsettled, hphase, hinputs, hforetold⟩
      · exact .inl (hcalls.trans (hsame.trans hwithout.symm))
      · exact .inr ⟨problem, phase, inputs, hcalls.trans hsettled, hwithout.trans hphase, hinputs,
          hforetold.concat request⟩
  -- a refusal that is remembered now was the answer to this call in both codes
  · intro entry hentry
    rcases Calls.proceed_eq calls call go with heq | ⟨phase, phase', hcall, hgo, heq⟩
    · rw [heq] at hentry
      exact (h.recalled entry hentry).next request
    · rw [heq] at hentry
      rcases Calls.mem_remember hentry with ⟨inputs, channels, problem, rfl, hretryable, rfl⟩ | hentry
      · obtain rfl := hgoes.problem hgo
        have hwithout : without.phase call = some phase := by
          rcases h.phase call with hsame | ⟨_, _, _, hsettled, -⟩
          · rw [← hsame, hcall]
          · rw [hsettled] at hcall
            cases hcall
            exact nomatch hgoes.waiting hgo
        refine ⟨call, inputs, problem, ?_, hretryable, rfl⟩
        rw [hnext]
        unfold Calls.proceed
        rw [hwithout, Option.bind_some, hgo]
        simp [Calls.enter, Resolution.ofProblem]
      · exact (h.recalled entry hentry).next request

/-- A call begins in both codes, or is answered by the cache in one. -/
theorem InStep.begin (hdigest : Function.Injective wire.digest) {call : CallId} {deviceRef : DeviceRef}
    {observedHostAddress : String} {nowMs : Millis} {device : Option (ManagedDevice crypto presentation)}
    (h : InStep wire requests calls (run (Calls.nextWithout wire) {} requests))
    (hcalls : calls.phase call = none) (hwithout : (run (Calls.nextWithout wire) {} requests).phase call = none) :
    InStep wire (requests ++ [.read call deviceRef observedHostAddress nowMs device])
      (calls.begin wire call (prepare wire deviceRef observedHostAddress nowMs device))
      ((run (Calls.nextWithout wire) {} requests).nextWithout wire
        (.read call deviceRef observedHostAddress nowMs device)) := by
  set without := run (Calls.nextWithout wire) {} requests with hrun
  have hnext : without.nextWithout wire (.read call deviceRef observedHostAddress nowMs device) =
      { without.begin wire call (prepare wire deviceRef observedHostAddress nowMs device) with refusals := [] } := by
    unfold Calls.nextWithout Calls.next
    simp [hwithout]
  have hnothing : ∀ inputs, without.remembered wire inputs = none := fun inputs => by
    unfold Calls.remembered
    rw [hrun, without_refusals]
    rfl
  constructor
  · intro c
    by_cases hc : c = call
    · subst hc
      rw [hnext]
      cases hprepare : prepare wire deviceRef observedHostAddress nowMs device with
      | error resolution => exact .inl (by simp [Calls.begin])
      | ok asking =>
        have hasking : (without.begin wire c (.ok asking)).phase c = some (.asking asking) := by
          unfold Calls.begin
          simp [hnothing]
        -- a remembered refusal settles the call here; without the cache the call asks, as foretold
        cases hremembered : calls.remembered wire asking.inputs with
        | none => exact .inl (by rw [hasking]; simp [Calls.begin, hremembered])
        | some problem =>
          refine .inr ⟨problem, .asking asking, asking.inputs, by simp [Calls.begin, hremembered], hasking, rfl, ?_⟩
          obtain ⟨entry, hget, rfl⟩ := Option.map_eq_some_iff.mp hremembered
          obtain ⟨hget, hfingerprint⟩ := Option.filter_eq_some_iff.mp hget
          obtain ⟨earlier, inputs, problem, hphase, hretryable, hentry⟩ := h.recalled _ (Refusals.mem_of_get hget)
          simp only [Prod.mk.injEq] at hentry
          obtain ⟨-, rfl⟩ := hentry
          obtain rfl := Inputs.fingerprint_inj hdigest (by simpa using hfingerprint)
          exact ⟨requests, deviceRef, observedHostAddress, nowMs, device, [], asking, earlier, rfl, hwithout,
            hprepare, rfl, hphase, hretryable⟩
    · have hbegun : (calls.begin wire call (prepare wire deviceRef observedHostAddress nowMs device)).phase c =
          calls.phase c := Calls.begin_other hc
      have hbegun' : (without.begin wire call (prepare wire deviceRef observedHostAddress nowMs device)).phase c =
          without.phase c := Calls.begin_other hc
      rw [hnext]
      rcases h.phase c with hsame | ⟨problem, phase, inputs, hsettled, hphase, hinputs, hforetold⟩
      · exact .inl (hbegun.trans (hsame.trans hbegun'.symm))
      · exact .inr ⟨problem, phase, inputs, hbegun.trans hsettled, hbegun'.trans hphase, hinputs,
          hforetold.concat _⟩
  · intro entry hentry
    exact (h.recalled entry (Calls.mem_begin hentry)).next _

/-- The two codes keep step. -/
theorem inStep (hdigest : Function.Injective wire.digest) (requests : List (Request crypto presentation)) :
    InStep wire requests (run (Calls.next wire) {} requests)
      (run (Calls.nextWithout wire) {} requests) := by
  induction requests using List.reverseRec with
  | nil => exact ⟨fun _ => .inl rfl, by simp⟩
  | append_singleton requests request ih =>
    rw [run_concat, run_concat]
    cases request with
    | read call deviceRef observedHostAddress nowMs device =>
      have hsome : ((run (Calls.next wire) {} requests).phase call).isSome =
          ((run (Calls.nextWithout wire) {} requests).phase call).isSome := by
        rcases ih.phase call with hsame | ⟨_, _, _, hsettled, hphase, -⟩
        · rw [hsame]
        · rw [hsettled, hphase]
          rfl
      by_cases hbegun : ((run (Calls.next wire) {} requests).phase call).isSome
      · have hcalls : (run (Calls.next wire) {} requests).next wire
            (.read call deviceRef observedHostAddress nowMs device) = run (Calls.next wire) {} requests :=
          if_pos hbegun
        have hwithout : (run (Calls.nextWithout wire) {} requests).next wire
            (.read call deviceRef observedHostAddress nowMs device) = run (Calls.nextWithout wire) {} requests :=
          if_pos (hsome ▸ hbegun)
        rw [hcalls]
        unfold Calls.nextWithout at hwithout ⊢
        rw [hwithout]
        exact ⟨fun c => (ih.phase c).imp_right fun ⟨problem, phase, inputs, hsettled, hphase, hinputs, h⟩ =>
          ⟨problem, phase, inputs, hsettled, hphase, hinputs, h.concat _⟩, ih.recalled⟩
      · have hcalls : (run (Calls.next wire) {} requests).phase call = none := by
          simpa using hbegun
        have hwithout : (run (Calls.nextWithout wire) {} requests).phase call = none := by
          rw [hsome] at hbegun
          simpa using hbegun
        have hnext : (run (Calls.next wire) {} requests).next wire
            (.read call deviceRef observedHostAddress nowMs device) =
              (run (Calls.next wire) {} requests).begin wire call
                (prepare wire deviceRef observedHostAddress nowMs device) := if_neg hbegun
        rw [hnext]
        exact ih.begin hdigest hcalls hwithout
    | held call reply => exact ih.proceed (goes_hold reply) rfl
    | operated call reply => exact ih.proceed (goes_operate reply) rfl

theorem remember_le {refusals : Refusals} {phase : Phase presentation} (h : refusals.length ≤ maxRefusals) :
    (Calls.remember wire refusals phase).length ≤ maxRefusals := by
  unfold Calls.remember
  split
  · split
    · exact h
    · exact Refusals.length_keep_le h
  · exact h

theorem proceed_le {call : CallId} {go : Phase presentation → Option (Phase presentation)}
    (h : calls.refusals.length ≤ maxRefusals) : (calls.proceed wire call go).refusals.length ≤ maxRefusals := by
  unfold Calls.proceed
  split
  · exact remember_le h
  · exact h

theorem next_le (h : calls.refusals.length ≤ maxRefusals) (request : Request crypto presentation) :
    (calls.next wire request).refusals.length ≤ maxRefusals := by
  cases request with
  | read call deviceRef observedHostAddress nowMs device =>
    unfold Calls.next Calls.begin
    dsimp only
    split
    · exact h
    · split
      · exact h
      · split
        · exact h
        · exact (List.length_filter_le _ _).trans h
  | held call reply => exact proceed_le h
  | operated call reply => exact proceed_le h

/-- The oldest refusals make room for new ones. -/
theorem refusals_le (requests : List (Request crypto presentation)) :
    (run (Calls.next wire) {} requests).refusals.length ≤ maxRefusals :=
  run_inv (I := fun calls : Calls presentation => calls.refusals.length ≤ maxRefusals) (fun _ request h => next_le h request)
    (Nat.zero_le _) requests

end Schedule

/-- A refusal that the Provider itself has given is among what a call has ended with. -/
theorem Permanent.verdicts {requests : List (Request crypto presentation)} (h : Permanent wire requests) :
    PermanentVerdicts wire requests := by
  intro before call deviceRef observedHostAddress nowMs device after asking earlier problem resolution hsplit hnone
    hprepare hrefused hanswered
  obtain ⟨start, request, rest, phase, rfl, -, -, hphase, -, hretryable⟩ := hrefused
  have hended : (run (Calls.nextWithout wire) {} (start ++ request :: rest)).phase earlier =
      some (.answered asking.inputs (.ofProblem problem)) := by
    rw [← List.singleton_append, ← List.append_assoc]
    refine Calls.run_without_answered rest ?_ (by simp [Phase.answer])
    rw [run_concat]
    exact hphase
  exact h call asking.inputs problem resolution
    ⟨_, deviceRef, observedHostAddress, nowMs, device, after, asking, earlier, hsplit, hnone, hprepare, rfl, hended,
      hretryable⟩ hanswered

/-- **The cache of refusals is invisible.** Whatever order calls go on in and whatever becomes of the
rows, a call answers as the code without the cache does, if what is answered for good is answered
again; where the cache has answered before the other code has, the other code has the same answer when it has one. No
entry holds a refusal that may be asked about again, and there are at most 1024. -/
theorem refusals_invisible (wire : Wire presentation) (hdigest : Function.Injective wire.digest)
    (requests : List (Request crypto presentation)) :
    (Permanent wire requests → ∀ call resolution,
      (run (Calls.nextWithout wire) {} requests).answer call = some resolution →
        (run (Calls.next wire) {} requests).answer call = some resolution) ∧
    (∀ more, Permanent wire (requests ++ more) → ∀ call resolution resolution',
      (run (Calls.next wire) {} requests).answer call = some resolution →
      (run (Calls.nextWithout wire) {} (requests ++ more)).answer call = some resolution' →
        resolution' = resolution) ∧
    (∀ entry ∈ (run (Calls.next wire) {} requests).refusals, entry.2.2.retryable = false) ∧
    (run (Calls.next wire) {} requests).refusals.length ≤ maxRefusals := by
  have hanswers : ∀ requests : List (Request crypto presentation), Permanent wire requests →
      ∀ call resolution, (run (Calls.nextWithout wire) {} requests).answer call = some resolution →
        (run (Calls.next wire) {} requests).answer call = some resolution := by
    intro requests hpermanent call resolution hanswer
    rcases (inStep hdigest requests).phase call with hsame | ⟨problem, phase, inputs, hsettled, hphase, hinputs, hforetold⟩
    · unfold Calls.answer
      rwa [hsame]
    · unfold Calls.answer at hanswer ⊢
      rw [hphase, Option.bind_some] at hanswer
      rw [hsettled, Option.bind_some]
      -- the code without the cache has answered too, and with the refusal that was remembered
      cases phase with
      | answered inputs' resolution' =>
        obtain rfl := Option.some.inj hinputs
        rw [hpermanent call _ problem resolution' hforetold hphase] at hanswer
        exact hanswer
      | settled => cases hinputs
      | asking => cases hanswer
      | operating => cases hanswer
  refine ⟨hanswers requests, fun more hpermanent call resolution resolution' hanswer hlater => ?_, fun entry hentry => ?_,
    refusals_le requests⟩
  · obtain ⟨phase, hphase, hresolution⟩ := Option.bind_eq_some_iff.mp hanswer
    have hstays := Calls.run_answered more hphase (by simp [hresolution])
    have hcached := hanswers _ hpermanent call resolution' hlater
    unfold Calls.answer at hcached
    rw [hstays, Option.bind_some, hresolution] at hcached
    exact (Option.some.inj hcached).symm
  · obtain ⟨_, _, problem, -, hretryable, rfl⟩ := (inStep hdigest requests).recalled entry hentry
    exact hretryable

/-! ### A refusal that is given twice -/

namespace Sample

/-- A reference as a tuple, and what is hashed as a sum. -/
def tupled (ref : DeviceRef) : String × String × Nat × Nat × Nat :=
  (ref.deviceInstanceId, ref.ownerDomainId, ref.ownerDomainGeneration, ref.claimGeneration, ref.trustEpoch)

/-- What is hashed, as one of four kinds of countable values. -/
def summed : Hashed Devices.Sample.presentation →
    (String × String × Nat × Nat × Nat) ⊕ String ⊕ Int ⊕ Option (Nat × Bool × Option Bool)
  | .deviceRef ref => .inl (tupled ref)
  | .text value => .inr (.inl value)
  | .number value => .inr (.inr (.inl value))
  | .outputPolicy policy => .inr (.inr (.inr (policy.map fun p => (p.revision, p.allowed, p.inputs))))

theorem countable_string : Countable String := by
  have : Countable Char := Function.Injective.countable fun _ _ h => Char.toNat_inj.mp h
  exact Function.Injective.countable fun _ _ h => String.toList_inj.mp h

theorem countable_hashed : Countable (List (Hashed Devices.Sample.presentation)) := by
  have := countable_string
  have htupled : Function.Injective tupled := by
    rintro ⟨⟩ ⟨⟩ h
    simpa [tupled] using h
  have hsummed : Function.Injective summed := by
    intro a b h
    cases a <;> cases b <;> simp only [summed, Sum.inl.injEq, Sum.inr.injEq, reduceCtorEq] at h
    · rw [htupled h]
    · rw [h]
    · rw [h]
    · refine congrArg _ (Option.map_injective ?_ h)
      rintro ⟨⟩ ⟨⟩ hpolicy
      cases hpolicy
      rfl
  have := hsummed.countable
  infer_instance

/-- A hash that tells everything apart. -/
noncomputable def telling : Wire Devices.Sample.presentation where
  policyRequired _ := some false
  digest values := String.ofList (List.replicate (Classical.choose (@exists_injective_nat _ countable_hashed) values) '0')

theorem telling_injective : Function.Injective telling.digest := by
  intro values values' h
  have hlength := congrArg (fun s : String => s.toList.length) h
  simp only [telling, String.toList_ofList, List.length_replicate] at hlength
  exact Classical.choose_spec (@exists_injective_nat _ countable_hashed) hlength

/-- Two calls for the lamp, one after the other; the Provider refuses both for good. -/
def twice : List (Request Admission.Sample.crypto Devices.Sample.presentation) :=
  let refused := .refused 409 (some ⟨"SPENT_OPERATION", false, "eidolon-channel-provider", none⟩)
  [.read 0 (lamp none).deviceRef "" 0 (some (lamp none)), .held 0 refused,
    .read 1 (lamp none).deviceRef "" 1 (some (lamp none)), .held 1 refused]

/-- What a call makes of that refusal. -/
def spent : Resolution := .ofProblem ⟨"SPENT_OPERATION", false, "SPENT_OPERATION"⟩

theorem twice_answered (call : CallId) {phase : Phase Devices.Sample.presentation}
    (h : (run (Calls.nextWithout telling) {} twice).phase call = some phase) : phase.answer = some spent := by
  match call with
  | 0 =>
    cases h
    rfl
  | 1 =>
    cases h
    rfl
  | call + 2 => exact nomatch h

end Sample

theorem refusals_invisible_twice :
    (run (Calls.next Sample.telling) {} Sample.twice).answer 1 = some Sample.spent := by
  have hpermanent : Permanent Sample.telling Sample.twice := by
    rintro call inputs problem resolution ⟨before, _, _, _, _, _, _, earlier, hsplit, -, -, -, hphase, -⟩ hanswered
    have hwhole : (run (Calls.nextWithout Sample.telling) {} Sample.twice).phase earlier =
        some (.answered inputs (.ofProblem problem)) := by
      rw [hsplit]
      exact Calls.run_without_answered _ hphase (by simp [Phase.answer])
    have hearlier := Sample.twice_answered earlier hwhole
    have hcall := Sample.twice_answered call hanswered
    simp only [Phase.answer, Option.some.injEq] at hearlier hcall
    rw [hcall, hearlier]
  exact (refusals_invisible Sample.telling Sample.telling_injective Sample.twice).1 hpermanent 1 Sample.spent rfl

/-! ### An answer that cannot be read once -/

namespace Sample

/-- A reply without a readable body, and one with the binding that the Provider holds. -/
def garbled : Reply (CurrentResponse Devices.Sample.presentation) := .answered none

/-- A reply with the binding that the Provider holds. -/
def readable : Reply (CurrentResponse Devices.Sample.presentation) :=
  .answered (some ⟨some ⟨"held", (lamp none).deviceRef, "sha256:{}", none, ⟨60, "credentials"⟩⟩, false⟩)

/-- Two calls for the lamp; the first gets a reply that it cannot read, and the Provider refuses
nothing. -/
def garbledOnce : List (Request Admission.Sample.crypto Devices.Sample.presentation) :=
  [.read 0 (lamp none).deviceRef "" 0 (some (lamp none)), .held 0 garbled,
    .read 1 (lamp none).deviceRef "" 1 (some (lamp none)), .held 1 readable]

/-- What the client makes of the first reply. -/
def unreadable : Problem := ⟨"INVALID_PROVIDER_RESPONSE", false, "invalid current binding response"⟩

theorem garbledOnce_verdict {request : Request Admission.Sample.crypto Devices.Sample.presentation}
    (h : request ∈ garbledOnce) : request.verdict = none := by
  simp only [garbledOnce, List.mem_cons, List.not_mem_nil, or_false] at h
  rcases h with rfl | rfl | rfl | rfl <;> rfl

/-- The second call is answered from the cache. -/
theorem garbledOnce_remembered :
    (run (Calls.next telling) {} garbledOnce).answer 1 = some (.ofProblem unreadable) := by
  obtain ⟨asking, hprepare⟩ : ∃ asking, prepare telling (lamp none).deviceRef "" 1
      (some (lamp none : ManagedDevice Admission.Sample.crypto Devices.Sample.presentation)) = .ok asking := ⟨_, rfl⟩
  have hkept : run (Calls.next telling) {} (garbledOnce.take 2) =
      { refusals := [(asking.inputs.deviceRef.deviceInstanceId, asking.inputs.fingerprint telling, unreadable)]
        phase := Function.update (Function.update (fun _ => none) 0 (some (.asking { asking with nowMs := 0 }))) 0
          (some (.answered asking.inputs (.ofProblem unreadable))) } := by
    cases hprepare
    rfl
  have hbegun : (run (Calls.next telling) {} (garbledOnce.take 3)).phase 1 =
      some (.settled (.ofProblem unreadable)) := by
    show ((run (Calls.next telling) {} (garbledOnce.take 2)).next telling
      (.read 1 (lamp none).deviceRef "" 1 (some (lamp none)))).phase 1 = _
    rw [hkept]
    simp [Calls.next, hprepare, Calls.begin, Calls.remembered, Refusals.get, Option.filter]
  have hanswered : (run (Calls.next telling) {} garbledOnce).phase 1 = some (.settled (.ofProblem unreadable)) :=
    Calls.run_answered (garbledOnce.drop 3) hbegun (by simp [Phase.answer])
  unfold Calls.answer
  rw [hanswered]
  rfl

end Sample

/-- Permanence of the Provider's own refusals is not enough: an answer that its client cannot read is
remembered too, and hides the binding that the Provider would show when it is asked again. -/
theorem unreadable_is_remembered :
    ¬∀ wire : Wire Devices.Sample.presentation, Function.Injective wire.digest →
      ∀ requests : List (Request Admission.Sample.crypto Devices.Sample.presentation),
        PermanentVerdicts wire requests → ∀ call resolution,
          (run (Calls.nextWithout wire) {} requests).answer call = some resolution →
            (run (Calls.next wire) {} requests).answer call = some resolution := by
  intro h
  have hverdicts : PermanentVerdicts Sample.telling Sample.garbledOnce := by
    rintro before _ _ _ _ _ after _ _ _ _ hsplit - - ⟨start, request, rest, _, rfl, -, -, -, hverdict, -⟩ -
    have hmem : request ∈ Sample.garbledOnce := by simp [hsplit]
    rw [Sample.garbledOnce_verdict hmem] at hverdict
    cases hverdict
  have hasked : (run (Calls.nextWithout Sample.telling) {} Sample.garbledOnce).answer 1 =
      some { channels := [⟨60, "credentials"⟩] } := rfl
  have hcached := h Sample.telling Sample.telling_injective Sample.garbledOnce hverdicts 1 _ hasked
  rw [Sample.garbledOnce_remembered] at hcached
  cases hcached

end EidolonHub.Channels
