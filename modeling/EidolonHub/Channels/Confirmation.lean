import EidolonHub.Channels.Reconcile
import EidolonHub.Devices.Control

/-!
# EidolonHub.Channels.Confirmation

**What stands behind a Channel that is handed out**: an answer of the Provider that names the
device and the Manifest of the row and has not expired. It names the output policy of the row too
when the Channel was held already. The answer to a new operation is not asked for its policy.
-/

namespace EidolonHub.Channels

open EidolonHub.Admission EidolonHub.Devices EidolonHub.Library.Python

variable {crypto : Crypto} {presentation : Presentation}

/-- The binding that an answer of the Provider is about. -/
def heldIn : Reply (CurrentResponse presentation) → Option (ProvisionResponse presentation)
  | .answered (some response) => response.binding
  | _ => none

/-- The binding that a reply to an operation tells of. -/
def begunIn : Reply (ProvisionResponse presentation) → Option (ProvisionResponse presentation)
  | .answered (some response) => some response
  | _ => none

/-- The binding in the last answer that a call is given: in the one to the operation, if it comes
to one. -/
def lastAnswer (wire : Wire presentation) (deviceRef : DeviceRef) (observedHostAddress : String) (nowMs : Millis)
    (device : Option (ManagedDevice crypto presentation)) (held : Reply (CurrentResponse presentation))
    (answer : Reply (ProvisionResponse presentation)) : Option (ProvisionResponse presentation) :=
  match prepare wire deviceRef observedHostAddress nowMs device, current deviceRef held with
  | .ok asking, .ok binding =>
    match asking.decide wire binding with
    | .serve _ => heldIn held
    | .operate _ _ => begunIn answer
  | _, _ => none

/-- An answer names the device, the Manifest and the output policy of the row, and these are its
Channels, which have not expired. -/
def Confirms (device : ManagedDevice crypto presentation) (nowMs : Millis)
    (binding : ProvisionResponse presentation) (channels : List ChannelBinding) : Prop :=
  binding.deviceRef = device.deviceRef ∧ binding.manifestRevision = device.manifest.digest ∧
    binding.outputPolicy = device.outputPolicy ∧ channels = [binding.channel] ∧
    nowMs < binding.channel.expiresAtMs

/-- An answer that is taken for an operation names the output policy of the row. -/
def NamesPolicy (wire : Wire presentation) (deviceRef : DeviceRef) (observedHostAddress : String)
    (nowMs : Millis) (device : Option (ManagedDevice crypto presentation))
    (held : Reply (CurrentResponse presentation)) (answer : Reply (ProvisionResponse presentation)) : Prop :=
  ∀ asking binding operation id policy channel,
    prepare wire deviceRef observedHostAddress nowMs device = .ok asking →
    current deviceRef held = .ok binding → asking.decide wire binding = .operate operation id →
    answer = .answered (some ⟨id, deviceRef, asking.inputs.manifestDigest, policy, channel⟩) →
    nowMs < channel.expiresAtMs → policy = asking.inputs.outputPolicy

section Resolve

variable {wire : Wire presentation} {deviceRef : DeviceRef} {observedHostAddress : String} {nowMs : Millis}
  {device : Option (ManagedDevice crypto presentation)} {asking : Asking presentation}

/-- What a call asks with is read off the row. -/
theorem prepare_ok (h : prepare wire deviceRef observedHostAddress nowMs device = .ok asking) :
    ∃ row, device = some row ∧ row.deviceRef = deviceRef ∧ row.lifecycleState = .approved ∧
      asking.inputs = ⟨deviceRef, row.manifest.digest, row.manifest.declaredRevision, row.ownerId,
        row.outputPolicy, observedHostAddress⟩ ∧
      asking.values.deviceRef = deviceRef ∧ asking.values.ownerId = row.ownerId ∧
      asking.values.manifestRevision = row.manifest.digest ∧
      crypto.jsonLoads row.manifest.canonicalJson = some asking.values.manifest ∧
      asking.values.outputPolicy = row.outputPolicy ∧ asking.nowMs = nowMs := by
  unfold prepare at h
  split at h
  · cases h
  · next row =>
    split_ifs at h with hrow
    simp only [not_or, not_not] at hrow
    split at h
    · cases h
    · next manifest hmanifest =>
      split at h
      · cases h
      · cases h
      · cases h
        exact ⟨row, rfl, hrow.1, hrow.2, rfl, rfl, rfl, rfl, (Option.filter_eq_some_iff.mp hmanifest).1, rfl, rfl⟩

/-- A row that stops a call has no Channels to hand out. -/
theorem prepare_error {resolution : Resolution}
    (h : prepare wire deviceRef observedHostAddress nowMs device = .error resolution) :
    resolution.channels = [] := by
  unfold prepare at h
  split at h
  · cases h
    rfl
  · split_ifs at h
    · cases h
      rfl
    · split at h
      · cases h
        rfl
      · split at h <;> cases h <;> rfl

theorem unexpired_ok {channel channel' : ChannelBinding} :
    unexpired nowMs channel = .ok channel' ↔ channel' = channel ∧ nowMs < channel.expiresAtMs := by
  unfold unexpired
  split_ifs with h
  · simp only [false_iff, not_and]
    exact fun _ => not_lt.mpr h
  · simp only [Except.ok.injEq]
    constructor
    · rintro rfl
      exact ⟨rfl, Int.not_le.mp h⟩
    · exact fun h => h.1.symm

/-- An operation hands out the Channel of an answer that names it, the device and the Manifest. -/
theorem operated_ok {id : OperationId} {answer : Reply (ProvisionResponse presentation)}
    {channel : ChannelBinding} :
    asking.operated id answer = .ok channel ↔
      (∃ policy, answer = .answered (some ⟨id, asking.values.deviceRef, asking.values.manifestRevision, policy,
        channel⟩)) ∧ asking.nowMs < channel.expiresAtMs := by
  unfold Asking.operated
  constructor
  · intro h
    cases hanswer : provisioned id asking.values.deviceRef asking.values.manifestRevision answer with
    | error raised =>
      rw [hanswer] at h
      cases h
    | ok channel' =>
      rw [hanswer] at h
      obtain ⟨rfl, hnow⟩ := unexpired_ok.mp h
      exact ⟨provisioned_ok.mp hanswer, hnow⟩
  · intro ⟨hanswer, hnow⟩
    rw [provisioned_ok.mpr hanswer]
    exact unexpired_ok.mpr ⟨rfl, hnow⟩

theorem conclude_channels {outcome : Except Raised ChannelBinding} (h : (conclude outcome).channels ≠ []) :
    ∃ channel, outcome = .ok channel ∧ (conclude outcome).channels = [channel] := by
  cases outcome with
  | error raised => exact absurd rfl h
  | ok channel => exact ⟨channel, rfl, rfl⟩

/-- How the Channels of a call come about. -/
theorem resolve_channels {held : Reply (CurrentResponse presentation)}
    {answer : Reply (ProvisionResponse presentation)}
    (h : (resolve wire deviceRef observedHostAddress nowMs device held answer).channels ≠ []) :
    ∃ asking binding channel,
      prepare wire deviceRef observedHostAddress nowMs device = .ok asking ∧
      current deviceRef held = .ok binding ∧
      (resolve wire deviceRef observedHostAddress nowMs device held answer).channels = [channel] ∧
      (asking.decide wire binding = .serve channel ∨
        ∃ operation id, asking.decide wire binding = .operate operation id ∧
          asking.operated id answer = .ok channel) := by
  unfold resolve at h ⊢
  split at h
  · next resolution hprepare => exact absurd (prepare_error hprepare) h
  · next asking hprepare =>
    split at h
    · exact absurd rfl h
    · next binding hheld =>
      split at h
      · next channel hdecide => exact ⟨asking, binding, channel, hprepare, hheld, rfl, .inl hdecide⟩
      · next operation id hdecide =>
        obtain ⟨channel, houtcome, hchannels⟩ := conclude_channels h
        exact ⟨asking, binding, channel, hprepare, hheld, hchannels, .inr ⟨operation, id, hdecide, houtcome⟩⟩

/-- What is served is held, for the row as it is. -/
theorem decide_serve {binding : Option (CurrentBinding presentation)} {channel : ChannelBinding}
    (h : asking.decide wire binding = .serve channel) :
    ∃ held, binding = some held ∧ asking.serves held ∧ held.channel = channel := by
  unfold Asking.decide at h
  split at h
  · cases h
  · next held =>
    split_ifs at h with hserves
    exact ⟨held, rfl, hserves, Decision.serve.inj h⟩

end Resolve

/-- **The Channels that are handed out are confirmed for the row exactly where the answer to an
operation, if it is taken, names the output policy of the row.** -/
theorem channels_confirmed (wire : Wire presentation) (deviceRef : DeviceRef) (observedHostAddress : String)
    (nowMs : Millis) (device : Option (ManagedDevice crypto presentation))
    (held : Reply (CurrentResponse presentation)) (answer : Reply (ProvisionResponse presentation)) :
    ((resolve wire deviceRef observedHostAddress nowMs device held answer).channels ≠ [] →
      ∃ row binding, device = some row ∧
        lastAnswer wire deviceRef observedHostAddress nowMs device held answer = some binding ∧
        Confirms row nowMs binding
          (resolve wire deviceRef observedHostAddress nowMs device held answer).channels) ↔
    NamesPolicy wire deviceRef observedHostAddress nowMs device held answer := by
  constructor
  -- a provision that comes back with another policy would be served, so it names the one asked for
  · intro h asking binding operation id policy channel hprepare hheld hdecide hanswer hnow
    obtain ⟨row, rfl, href, -, hinputs, hvaluesRef, -, hrevision, -, -, hasking⟩ := prepare_ok hprepare
    have houtcome : asking.operated id answer = .ok channel := by
      refine operated_ok.mpr ⟨⟨policy, ?_⟩, hasking ▸ hnow⟩
      rw [hanswer, hvaluesRef, hrevision, hinputs]
    have hresolve : resolve wire deviceRef observedHostAddress nowMs (some row) held answer =
        { channels := [channel] } := by
      unfold resolve
      rw [hprepare]
      simp only [hheld, hdecide, houtcome, conclude]
    obtain ⟨row', last, hrow, hlast, -, -, hpolicy, -, -⟩ := h (by simp [hresolve])
    obtain rfl := Option.some.inj hrow
    have hbegun : lastAnswer wire deviceRef observedHostAddress nowMs (some row) held answer =
        some ⟨id, deviceRef, asking.inputs.manifestDigest, policy, channel⟩ := by
      unfold lastAnswer
      rw [hprepare, hheld]
      simp only [hdecide, hanswer, begunIn]
    obtain rfl := Option.some.inj (hlast.symm.trans hbegun)
    rw [hinputs]
    exact hpolicy
  -- what is served was held and compared with the row, or has just been made
  · intro h hchannels
    obtain ⟨asking, binding, channel, hprepare, hheld, hresolved, hfrom⟩ := resolve_channels hchannels
    obtain ⟨row, rfl, href, -, hinputs, hvaluesRef, -, hrevision, -, -, hasking⟩ := prepare_ok hprepare
    refine ⟨row, ?_⟩
    rw [hresolved]
    rcases hfrom with hserve | ⟨operation, id, hdecide, houtcome⟩
    · obtain ⟨served, rfl, ⟨-, hnow, hmanifest, hpolicy⟩, rfl⟩ := decide_serve hserve
      obtain ⟨response, hanswer, hresponseRef, -, hresponseManifest, hresponsePolicy, hchannel⟩ := current_ok hheld
      refine ⟨response, rfl, ?_, ?_⟩
      · unfold lastAnswer
        rw [hprepare, hheld]
        simp only [hserve, hanswer, heldIn]
      · rw [hinputs] at hmanifest hpolicy
        refine ⟨hresponseRef.trans href.symm, hresponseManifest.trans hmanifest, hresponsePolicy.trans hpolicy,
          by rw [hchannel], ?_⟩
        rw [hchannel, ← hasking]
        exact hnow
    · obtain ⟨⟨policy, hanswer⟩, hnow⟩ := operated_ok.mp houtcome
      rw [hvaluesRef, hrevision] at hanswer
      rw [hasking] at hnow
      have hpolicy := h asking binding operation id policy channel hprepare hheld hdecide
        (by rw [hanswer, hinputs]) hnow
      refine ⟨⟨id, deviceRef, row.manifest.digest, policy, channel⟩, rfl, ?_, href.symm, rfl, ?_, rfl, hnow⟩
      · unfold lastAnswer
        rw [hprepare, hheld]
        simp only [hdecide, hanswer, begunIn]
      · rw [hpolicy, hinputs]

/-! ### A Channel for another policy -/

namespace Sample

/-- A lamp that its Owner allows to present something, or not. -/
def lamp (policy : Option Devices.Sample.presentation.Policy) : ManagedDevice Admission.Sample.crypto Devices.Sample.presentation where
  deviceId := "device-k"
  displayName := "Lamp"
  manifestId := "lamp"
  manifest := ⟨"{}", "sha256:{}", 1, by decide⟩
  enrolledAt := 0
  updatedAt := 0
  ownerDomainId := "home"
  ownerDomainGeneration := 1
  claimGeneration := 1
  trustEpoch := 1
  aggregateRevision := 1
  ownerId := "alice"
  lifecycleState := .approved
  lastManagementRequestId := ""
  lastManagementFingerprint := ""
  outputPolicy := policy
  valid := by decide

/-- The lamp may present nothing. -/
def closed : Devices.Sample.presentation.Policy := ⟨2, false, none⟩

/-- The lamp may present something, by an earlier revision. -/
def opened : Devices.Sample.presentation.Policy := ⟨1, true, none⟩

/-- A contract under which no Manifest needs a policy, and a digest that says nothing. -/
def wire : Wire Devices.Sample.presentation := ⟨fun _ => some false, fun _ => "0"⟩

/-- The Provider begins a binding for this policy. -/
def begun (policy : Option Devices.Sample.presentation.Policy) : Reply (ProvisionResponse Devices.Sample.presentation) :=
  .answered (some ⟨"channel-provision-0", (lamp policy).deviceRef, "sha256:{}", policy, ⟨60, "credentials"⟩⟩)

end Sample

/-- A lamp that may present nothing is given a Channel that was begun for a policy that lets it. -/
theorem channel_for_another_policy : ¬∀ (wire : Wire Devices.Sample.presentation) (deviceRef : DeviceRef)
    (nowMs : Millis) (device : Option (ManagedDevice Admission.Sample.crypto Devices.Sample.presentation))
    (held : Reply (CurrentResponse Devices.Sample.presentation))
    (answer : Reply (ProvisionResponse Devices.Sample.presentation)),
    (resolve wire deviceRef "" nowMs device held answer).channels ≠ [] →
      ∃ row binding, device = some row ∧ lastAnswer wire deviceRef "" nowMs device held answer = some binding ∧
        Confirms row nowMs binding (resolve wire deviceRef "" nowMs device held answer).channels := by
  intro h
  obtain ⟨row, binding, hrow, hlast, -, -, hpolicy, -⟩ := h Sample.wire (Sample.lamp (some Sample.closed)).deviceRef 0
    (some (Sample.lamp (some Sample.closed))) (.answered (some ⟨none, false⟩)) (Sample.begun (some Sample.opened))
    (by decide)
  obtain rfl := Option.some.inj hrow
  have hbegun : lastAnswer Sample.wire (Sample.lamp (some Sample.closed)).deviceRef "" 0
      (some (Sample.lamp (some Sample.closed))) (.answered (some ⟨none, false⟩))
      (Sample.begun (some Sample.opened)) = some
        ⟨"channel-provision-0", (Sample.lamp none).deviceRef, "sha256:{}", some Sample.opened, ⟨60, "credentials"⟩⟩ := by
    decide
  obtain rfl := Option.some.inj (hlast.symm.trans hbegun)
  exact absurd hpolicy (by decide)

end EidolonHub.Channels
