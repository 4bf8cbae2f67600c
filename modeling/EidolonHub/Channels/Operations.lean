import EidolonHub.Channels.Refusals

/-!
# EidolonHub.Channels.Operations

**A device is never locked out by a spent operation id.** The ids are not stored: a provision is
named by the device, its Manifest and its policy, and a refresh by the operation that established
what is held. So the ids of a device form a chain, in which the Provider has superseded whatever
comes before the one that is held; the id of the next refresh would come after that one.
-/

namespace EidolonHub.Channels

open EidolonHub.Admission EidolonHub.Devices EidolonHub.Library

variable {crypto : Crypto} {presentation : Presentation} (wire : Wire presentation)

/-! ### The Hub and the Provider -/

/-- The rows, what the Provider holds and has superseded, and what was sent to it. -/
structure World (crypto : Crypto) (presentation : Presentation) where
  row : DeviceInstanceId → Option (ManagedDevice crypto presentation)
  held : DeviceRef → Option (CurrentBinding presentation) := fun _ => none
  superseded : List OperationId := []
  sent : List (DeviceRef × OperationId) := []

/-- What happens at the rows, at the Provider, or between the Hub and the Provider. -/
inductive Event (crypto : Crypto) (presentation : Presentation) where
  /-- A row changes: its Manifest, its policy, or anything else. -/
  | change (id : DeviceInstanceId) (device : Option (ManagedDevice crypto presentation))
  /-- The Provider finds the runtime inputs of what it holds stale. -/
  | stale (deviceRef : DeviceRef)
  /-- A call of `resolve`, up to the operation it sends. -/
  | resolve (deviceRef : DeviceRef) (observedHostAddress : String) (nowMs : Millis)
  /-- Something that was sent takes effect, if it does: at once or later, whether or not the reply
  gets back. -/
  | lands (deviceRef : DeviceRef) (id : OperationId) (binding : CurrentBinding presentation)

namespace World

variable (w : World crypto presentation)

/-- The answer of the Provider to `current`. -/
def current (deviceRef : DeviceRef) : Reply (CurrentResponse presentation) :=
  match w.held deviceRef with
  | none => .answered (some ⟨none, false⟩)
  | some held => .answered (some
    ⟨some ⟨held.operationId, deviceRef, held.manifestRevision, held.outputPolicy, held.channel⟩,
      held.refreshRequired⟩)

/-- What a call of `resolve` sends. -/
def operation (deviceRef : DeviceRef) (observedHostAddress : String) (nowMs : Millis) :
    Option (Operation × OperationId) :=
  match prepare wire deviceRef observedHostAddress nowMs (w.row deviceRef.deviceInstanceId) with
  | .error _ => none
  | .ok asking =>
    match Channels.current deviceRef (w.current deviceRef) with
    | .error _ => none
    | .ok binding =>
      match asking.decide wire binding with
      | .serve _ => none
      | .operate operation id => some (operation, id)

/-- What the Provider makes of an operation: it refuses one it has superseded, has nothing to do
for the one that is held, and begins any other. -/
def perform (deviceRef : DeviceRef) (id : OperationId) (binding : CurrentBinding presentation) :
    World crypto presentation :=
  if id ∈ w.superseded then w
  else
    match w.held deviceRef with
    | none => { w with held := Function.update w.held deviceRef (some { binding with operationId := id }) }
    | some held =>
      if held.operationId = id then w
      else { w with
        held := Function.update w.held deviceRef (some { binding with operationId := id })
        superseded := held.operationId :: w.superseded }

/-- What is held, once it is found stale. -/
def marked (deviceRef : DeviceRef) : DeviceRef → Option (CurrentBinding presentation) :=
  Function.update w.held deviceRef ((w.held deviceRef).map fun held => { held with refreshRequired := true })

/-- One event. What is sent lands only if it was sent, and as often as it may be on its way. -/
def next : Event crypto presentation → World crypto presentation
  | .change id device => { w with row := Function.update w.row id device }
  | .stale deviceRef => { w with held := w.marked deviceRef }
  | .resolve deviceRef observedHostAddress nowMs =>
    match w.operation wire deviceRef observedHostAddress nowMs with
    | none => w
    | some (_, id) => { w with sent := w.sent ++ [(deviceRef, id)] }
  | .lands deviceRef id binding => if (deviceRef, id) ∈ w.sent then w.perform deviceRef id binding else w

end World

variable {wire}

/-! ### How ids derive from each other -/

section Ids

variable {inputs inputs' : Inputs presentation} {held held' : CurrentBinding presentation}

theorem provisionId_inj (hdigest : Function.Injective wire.digest)
    (h : inputs.provisionId wire = inputs'.provisionId wire) : inputs.deviceRef = inputs'.deviceRef := by
  unfold Inputs.provisionId operationId at h
  have hvalues := hdigest ((String.append_right_inj _).mp h)
  simp only [List.cons.injEq, Hashed.deviceRef.injEq] at hvalues
  exact hvalues.1

theorem refreshId_inj (hdigest : Function.Injective wire.digest)
    (h : inputs.refreshId wire held = inputs'.refreshId wire held') : held.operationId = held'.operationId := by
  unfold Inputs.refreshId operationId at h
  have hvalues := hdigest ((String.append_right_inj _).mp h)
  simp only [List.cons.injEq, Hashed.text.injEq] at hvalues
  exact hvalues.1

/-- A provision and a refresh are told apart by how their ids begin. -/
theorem provisionId_ne_refreshId : inputs.provisionId wire ≠ inputs'.refreshId wire held := by
  intro h
  have hchar := congrArg (fun s : String => s.toList[8]?) h
  simp [Inputs.provisionId, Inputs.refreshId, operationId] at hchar

end Ids

variable (wire) in
/-- The ids that operations of a device can have. -/
inductive Derived (deviceRef : DeviceRef) : OperationId → Prop
  | provision {id : OperationId} (inputs : Inputs presentation) : inputs.deviceRef = deviceRef →
      id = inputs.provisionId wire → Derived deviceRef id
  | refresh {id : OperationId} (inputs : Inputs presentation) (held : CurrentBinding presentation) :
      Derived deviceRef held.operationId → id = inputs.refreshId wire held → Derived deviceRef id

/-- An id belongs to one device. -/
theorem Derived.unique (hdigest : Function.Injective wire.digest) {deviceRef deviceRef' : DeviceRef}
    {id : OperationId} (h : Derived wire deviceRef id) (h' : Derived wire deviceRef' id) :
    deviceRef = deviceRef' := by
  induction h with
  | provision inputs href hid =>
    cases h' with
    | provision inputs' href' hid' => rw [← href, ← href', provisionId_inj hdigest (hid.symm.trans hid')]
    | refresh inputs' held' _ hid' => exact absurd (hid.symm.trans hid') provisionId_ne_refreshId
  | refresh inputs held _ hid ih =>
    cases h' with
    | provision inputs' _ hid' => exact absurd (hid'.symm.trans hid) provisionId_ne_refreshId
    | refresh inputs' held' hheld' hid' =>
      rw [refreshId_inj hdigest (hid.symm.trans hid')] at ih
      exact ih hheld'

variable (wire) in
/-- What an id would have been derived from. -/
def Follows (id parent : OperationId) : Prop :=
  ∃ (inputs : Inputs presentation) (held : CurrentBinding presentation),
    id = inputs.refreshId wire held ∧ held.operationId = parent

theorem Follows.unique (hdigest : Function.Injective wire.digest) {id parent parent' : OperationId}
    (h : Follows wire id parent) (h' : Follows wire id parent') : parent = parent' := by
  obtain ⟨inputs, held, hid, rfl⟩ := h
  obtain ⟨inputs', held', hid', rfl⟩ := h'
  exact refreshId_inj hdigest (hid.symm.trans hid')

/-! ### The chains -/

namespace World

variable (wire) in
/-- What comes before the ids that are held and sent is superseded, or held. -/
structure Sound (w : World crypto presentation) : Prop where
  held : ∀ {deviceRef binding}, w.held deviceRef = some binding → Derived wire deviceRef binding.operationId
  fresh : ∀ {deviceRef binding}, w.held deviceRef = some binding → binding.operationId ∉ w.superseded
  follows : ∀ {deviceRef binding parent}, w.held deviceRef = some binding →
    Follows wire binding.operationId parent → parent ∈ w.superseded
  superseded : ∀ id ∈ w.superseded, ∃ deviceRef, Derived wire deviceRef id ∧ w.held deviceRef ≠ none
  closed : ∀ id ∈ w.superseded, ∀ parent, Follows wire id parent → parent ∈ w.superseded
  sent : ∀ {deviceRef id}, (deviceRef, id) ∈ w.sent → Derived wire deviceRef id
  sentFollows : ∀ {deviceRef id parent}, (deviceRef, id) ∈ w.sent → Follows wire id parent →
    parent ∈ w.superseded ∨ ∃ binding, w.held deviceRef = some binding ∧ binding.operationId = parent

theorem sound_start (row : DeviceInstanceId → Option (ManagedDevice crypto presentation)) :
    Sound wire { row := row } := by
  constructor <;> simp

section Step

variable {w : World crypto presentation} {deviceRef : DeviceRef} {id : OperationId}

theorem current_none (h : w.held deviceRef = none) :
    Channels.current deviceRef (w.current deviceRef) = .ok none := by
  unfold World.current
  rw [h]
  rfl

theorem current_some {held : CurrentBinding presentation} (h : w.held deviceRef = some held) :
    Channels.current deviceRef (w.current deviceRef) =
      if fits held.operationId ∧ fits held.manifestRevision then .ok (some held) else .error .unreadable := by
  unfold World.current
  rw [h]
  simp [Channels.current, post]

/-- What a call sends is a provision where nothing is held, and else follows what is held. -/
theorem operation_eq {observedHostAddress : String} {nowMs : Millis} {operation : Operation}
    (h : w.operation wire deviceRef observedHostAddress nowMs = some (operation, id)) :
    ∃ inputs : Inputs presentation, inputs.deviceRef = deviceRef ∧
      (w.held deviceRef = none ∧ id = inputs.provisionId wire ∨
        ∃ held, w.held deviceRef = some held ∧ id = inputs.refreshId wire held) := by
  unfold World.operation at h
  split at h
  · cases h
  · next asking hprepare =>
    obtain ⟨row, -, -, -, hinputs, -⟩ := prepare_ok hprepare
    refine ⟨asking.inputs, by rw [hinputs], ?_⟩
    cases hheld : w.held deviceRef with
    | none =>
      rw [current_none hheld] at h
      simp only [Asking.decide, Option.some.injEq, Prod.mk.injEq] at h
      exact .inl ⟨rfl, h.2.symm⟩
    | some held =>
      refine .inr ⟨held, rfl, ?_⟩
      rw [current_some hheld] at h
      by_cases hfits : fits held.operationId ∧ fits held.manifestRevision
      · rw [if_pos hfits] at h
        by_cases hserves : asking.serves held
        · simp [Asking.decide, hserves] at h
        · simp only [Asking.decide, if_neg hserves, Option.some.injEq, Prod.mk.injEq] at h
          exact h.2.symm
      · simp [if_neg hfits] at h

/-- What a sound state sends has not been superseded. -/
theorem Sound.operation (hdigest : Function.Injective wire.digest) (h : w.Sound wire)
    {observedHostAddress : String} {nowMs : Millis} {operation : Operation}
    (hsent : w.operation wire deviceRef observedHostAddress nowMs = some (operation, id)) :
    id ∉ w.superseded := by
  obtain ⟨inputs, href, ⟨hnone, rfl⟩ | ⟨held, hheld, rfl⟩⟩ := operation_eq hsent
  · intro hmem
    obtain ⟨deviceRef', hderived, hsome⟩ := h.superseded _ hmem
    have hsame := Derived.unique hdigest hderived (.provision inputs href rfl)
    exact hsome (hsame ▸ hnone)
  · intro hmem
    exact h.fresh hheld (h.closed _ hmem _ ⟨inputs, held, rfl, rfl⟩)

theorem Sound.resolve (hdigest : Function.Injective wire.digest) (h : w.Sound wire)
    {observedHostAddress : String} {nowMs : Millis} {operation : Operation}
    (hsent : w.operation wire deviceRef observedHostAddress nowMs = some (operation, id)) :
    Sound wire { w with sent := w.sent ++ [(deviceRef, id)] } := by
  obtain ⟨inputs, href, hcase⟩ := operation_eq hsent
  refine ⟨h.held, h.fresh, h.follows, h.superseded, h.closed, fun hmem => ?_, fun hmem hfollows => ?_⟩
  · rcases List.mem_append.mp hmem with hmem | hmem
    · exact h.sent hmem
    · cases List.mem_singleton.mp hmem
      rcases hcase with ⟨-, rfl⟩ | ⟨held, hheld, rfl⟩
      · exact .provision inputs href rfl
      · exact .refresh inputs held (h.held hheld) rfl
  · rcases List.mem_append.mp hmem with hmem | hmem
    · exact h.sentFollows hmem hfollows
    · cases List.mem_singleton.mp hmem
      rcases hcase with ⟨-, rfl⟩ | ⟨held, hheld, rfl⟩
      · obtain ⟨inputs', held', hid, -⟩ := hfollows
        exact absurd hid provisionId_ne_refreshId
      · exact .inr ⟨held, hheld, Follows.unique hdigest ⟨inputs, held, rfl, rfl⟩ hfollows⟩

/-- What is held is marked, and keeps its operation. -/
theorem Sound.stale (h : w.Sound wire) :
    Sound wire { w with held := w.marked deviceRef } := by
  have hkept : ∀ {ref binding}, w.marked deviceRef ref = some binding →
      ∃ held, w.held ref = some held ∧ held.operationId = binding.operationId := by
    intro ref binding hbinding
    unfold World.marked at hbinding
    by_cases href : ref = deviceRef
    · subst href
      rw [Function.update_self] at hbinding
      obtain ⟨held, hheld, rfl⟩ := Option.map_eq_some_iff.mp hbinding
      exact ⟨held, hheld, rfl⟩
    · rw [Function.update_of_ne href] at hbinding
      exact ⟨binding, hbinding, rfl⟩
  have hback : ∀ {ref held}, w.held ref = some held →
      ∃ binding, w.marked deviceRef ref = some binding ∧ binding.operationId = held.operationId := by
    intro ref held hheld
    unfold World.marked
    by_cases href : ref = deviceRef
    · subst href
      exact ⟨{ held with refreshRequired := true }, by rw [Function.update_self, hheld, Option.map_some], rfl⟩
    · exact ⟨held, by rw [Function.update_of_ne href, hheld], rfl⟩
  refine ⟨fun hbinding => ?_, fun hbinding => ?_, fun hbinding hfollows => ?_, fun id hid => ?_, h.closed, h.sent,
    fun hmem hfollows => ?_⟩
  · obtain ⟨held, hheld, hid⟩ := hkept hbinding
    exact hid ▸ h.held hheld
  · obtain ⟨held, hheld, hid⟩ := hkept hbinding
    exact hid ▸ h.fresh hheld
  · obtain ⟨held, hheld, hid⟩ := hkept hbinding
    exact h.follows hheld (hid ▸ hfollows)
  · obtain ⟨ref, hderived, hsome⟩ := h.superseded id hid
    obtain ⟨held, hheld⟩ := Option.ne_none_iff_exists'.mp hsome
    obtain ⟨binding, hbinding, -⟩ := hback hheld
    exact ⟨ref, hderived, by simp [hbinding]⟩
  · rcases h.sentFollows hmem hfollows with hsuperseded | ⟨held, hheld, hid⟩
    · exact .inl hsuperseded
    · obtain ⟨binding, hbinding, hsame⟩ := hback hheld
      exact .inr ⟨binding, hbinding, hsame.trans hid⟩

/-- What lands is refused, changes nothing, or takes the place of what was held. -/
theorem Sound.perform (hdigest : Function.Injective wire.digest) (h : w.Sound wire)
    (hsent : (deviceRef, id) ∈ w.sent) (binding : CurrentBinding presentation) :
    Sound wire (w.perform deviceRef id binding) := by
  unfold World.perform
  split
  · exact h
  · next hnew =>
    -- what is held afterwards is the new binding under the sent id, or an old one of another device
    have hself : ∀ {ref b}, Function.update w.held deviceRef (some { binding with operationId := id }) ref = some b →
        (ref = deviceRef ∧ b.operationId = id) ∨ (ref ≠ deviceRef ∧ w.held ref = some b) := by
      intro ref b hb
      by_cases href : ref = deviceRef
      · subst href
        rw [Function.update_self] at hb
        cases hb
        exact .inl ⟨rfl, rfl⟩
      · rw [Function.update_of_ne href] at hb
        exact .inr ⟨href, hb⟩
    split
    -- nothing was held for the device: no id is superseded
    · next hnone =>
      refine ⟨fun hb => ?_, fun hb => ?_, fun hb hfollows => ?_, fun id' hid' => ?_, h.closed, h.sent,
        fun hmem hfollows => ?_⟩
      · rcases hself hb with ⟨rfl, hid⟩ | ⟨-, hb⟩
        · exact hid ▸ h.sent hsent
        · exact h.held hb
      · rcases hself hb with ⟨rfl, hid⟩ | ⟨-, hb⟩
        · exact hid ▸ hnew
        · exact h.fresh hb
      · rcases hself hb with ⟨rfl, hid⟩ | ⟨-, hb⟩
        · rcases h.sentFollows hsent (hid ▸ hfollows) with hsuperseded | ⟨held, hheld, -⟩
          · exact hsuperseded
          · exact nomatch hnone.symm.trans hheld
        · exact h.follows hb hfollows
      · obtain ⟨ref, hderived, hsome⟩ := h.superseded id' hid'
        refine ⟨ref, hderived, ?_⟩
        by_cases href : ref = deviceRef
        · simp [href]
        · dsimp only
          rwa [Function.update_of_ne href]
      · rcases h.sentFollows hmem hfollows with hsuperseded | ⟨held, hheld, hid⟩
        · exact .inl hsuperseded
        · refine .inr ⟨held, ?_, hid⟩
          dsimp only
          rwa [Function.update_of_ne fun href => (nomatch (href ▸ hnone).symm.trans hheld)]
    -- something was held: the same id again changes nothing, another one supersedes it
    · next held hheld =>
      split
      · exact h
      · next hne =>
        -- two devices never hold one id, for the digest names the device
        have hsupersedes : ∀ {ref b}, Function.update w.held deviceRef
            (some { binding with operationId := id }) ref = some b →
              b.operationId ∉ held.operationId :: w.superseded := by
          intro ref b hb hmem
          rcases hself hb with ⟨rfl, rfl⟩ | ⟨href, hb⟩
          · rcases List.mem_cons.mp hmem with heq | hmem
            · exact hne heq.symm
            · exact hnew hmem
          · rcases List.mem_cons.mp hmem with heq | hmem
            · exact href (Derived.unique hdigest (heq ▸ h.held hb) (h.held hheld))
            · exact h.fresh hb hmem
        refine ⟨fun hb => ?_, hsupersedes, fun hb hfollows => ?_, fun id' hid' => ?_, fun id' hid' parent hfollows => ?_,
          h.sent, fun hmem hfollows => ?_⟩
        · rcases hself hb with ⟨rfl, hid⟩ | ⟨-, hb⟩
          · exact hid ▸ h.sent hsent
          · exact h.held hb
        · rcases hself hb with ⟨rfl, hid⟩ | ⟨-, hb⟩
          · rcases h.sentFollows hsent (hid ▸ hfollows) with hsuperseded | ⟨held', hheld', hid'⟩
            · exact List.mem_cons_of_mem _ hsuperseded
            · obtain rfl := Option.some.inj (hheld'.symm.trans hheld)
              exact hid' ▸ List.mem_cons_self
          · exact List.mem_cons_of_mem _ (h.follows hb hfollows)
        · have hstill : ∀ ref, w.held ref ≠ none →
              Function.update w.held deviceRef (some { binding with operationId := id }) ref ≠ none := by
            intro ref hsome
            by_cases href : ref = deviceRef
            · simp [href]
            · rwa [Function.update_of_ne href]
          rcases List.mem_cons.mp hid' with rfl | hid'
          · exact ⟨deviceRef, h.held hheld, hstill _ (by simp [hheld])⟩
          · obtain ⟨ref, hderived, hsome⟩ := h.superseded id' hid'
            exact ⟨ref, hderived, hstill ref hsome⟩
        · rcases List.mem_cons.mp hid' with rfl | hid'
          · exact List.mem_cons_of_mem _ (h.follows hheld hfollows)
          · exact List.mem_cons_of_mem _ (h.closed id' hid' parent hfollows)
        · rcases h.sentFollows hmem hfollows with hsuperseded | ⟨held', hheld', hid'⟩
          · exact .inl (List.mem_cons_of_mem _ hsuperseded)
          · next ref _ _ =>
            by_cases href : ref = deviceRef
            · subst href
              obtain rfl := Option.some.inj (hheld'.symm.trans hheld)
              exact .inl (hid' ▸ List.mem_cons_self)
            · refine .inr ⟨held', ?_, hid'⟩
              dsimp only
              rwa [Function.update_of_ne href]

theorem Sound.next (hdigest : Function.Injective wire.digest) (h : w.Sound wire)
    (event : Event crypto presentation) : Sound wire (w.next wire event) := by
  cases event with
  | change id device => exact ⟨h.held, h.fresh, h.follows, h.superseded, h.closed, h.sent, h.sentFollows⟩
  | stale deviceRef => exact h.stale
  | resolve deviceRef observedHostAddress nowMs =>
    unfold World.next
    dsimp only
    split
    · exact h
    · next operation id hsent => exact h.resolve hdigest hsent
  | lands deviceRef id binding =>
    unfold World.next
    dsimp only
    split
    · next hsent => exact h.perform hdigest hsent binding
    · exact h

end Step

end World

namespace Sample

/-- What the Provider holds of the lamp until then. -/
def binding (expiresAtMs : Millis) : CurrentBinding Devices.Sample.presentation :=
  ⟨"", "sha256:{}", ⟨expiresAtMs, "credentials"⟩, false, none⟩

/-- The first binding lands; it is found stale, and the refresh that is sent then is lost. -/
def lost : List (Event Admission.Sample.crypto Devices.Sample.presentation) :=
  [.resolve (lamp none).deviceRef "" 0, .lands (lamp none).deviceRef "channel-provision-p" (binding 60),
    .stale (lamp none).deviceRef, .resolve (lamp none).deviceRef "" 1]

end Sample

end EidolonHub.Channels
