import EidolonHub.Admission.Invariants
import EidolonHub.Admission.Writes

/-!
# EidolonHub.Admission.ClaimStream

**The recovery stream is a log of the Claims.** The events of one device carry
its revisions without a gap, every event is a copy of the one in the outbox, and
a consumer that folds the stream knows the state, the generation and the revision
of every Claim. It knows the Owner of a Claim from its activation on: the event of
a revocation names no Owner, so of a Claim that was withdrawn before it was ever
activated the stream does not say whose it was.
-/

namespace EidolonHub.Admission

open EidolonHub.Library EidolonHub.Library.Tx

/-! ### What a consumer makes of the stream -/

/-- The generation a Claim event is about. -/
def EventData.claimRef : EventData → Option DeviceRef
  | activated ref _ _ _ _ | revoked ref _ _ => some ref
  | _ => none

/-- What the stream says of one Claim. -/
structure ClaimView where
  state : ClaimState
  deviceRef : DeviceRef
  revision : Nat
  owner : Option BusinessOwnerId
  deriving DecidableEq

/-- What a consumer knows of every device's Claim. -/
abbrev ClaimViews := DeviceInstanceId → Option ClaimView

/-- A consumer reads the next event. -/
def ClaimViews.read (views : ClaimViews) (event : Event) : ClaimViews :=
  match event.data with
  | .activated ref owner _ _ _ =>
    Function.update views ref.deviceInstanceId (some ⟨.active, ref, event.aggregateRev, some owner⟩)
  | .revoked ref _ _ =>
    Function.update views ref.deviceInstanceId (some ⟨.revoked, ref, event.aggregateRev,
      (views ref.deviceInstanceId).bind (·.owner)⟩)
  | _ => views

/-- A consumer reads the stream from the start. -/
def rebuild (stream : List Event) : ClaimViews := stream.foldl ClaimViews.read fun _ => none

theorem rebuild_concat (stream : List Event) (event : Event) :
    rebuild (stream ++ [event]) = (rebuild stream).read event := by
  rw [rebuild, List.foldl_append]
  rfl

/-- An event says nothing of other devices. -/
theorem ClaimViews.read_of_ne {views : ClaimViews} {event : Event} {ref : DeviceRef}
    {i : DeviceInstanceId} (h : event.data.claimRef = some ref) (hi : i ≠ ref.deviceInstanceId) :
    views.read event i = views i := by
  unfold ClaimViews.read
  cases hdata : event.data <;> rw [hdata] at h <;> simp only [EventData.claimRef] at h
  all_goals
    cases h
    simp [hi]

/-- The revisions of one device's Claim events, in stream order. -/
def claimRevisions (stream : List Event) (i : DeviceInstanceId) : List Nat :=
  (stream.filter fun event => event.data.claimRef.any (·.deviceInstanceId = i)).map (·.aggregateRev)

theorem claimRevisions_concat {stream : List Event} {event : Event} {ref : DeviceRef}
    {i : DeviceInstanceId} (h : event.data.claimRef = some ref) :
    claimRevisions (stream ++ [event]) i = if i = ref.deviceInstanceId then
      claimRevisions stream i ++ [event.aggregateRev] else claimRevisions stream i := by
  unfold claimRevisions
  rw [List.filter_append, List.map_append]
  by_cases hi : i = ref.deviceInstanceId
  · simp [h, hi]
  · have hne : ¬ ref.deviceInstanceId = i := fun heq => hi heq.symm
    simp [h, hi, hne]

/-- What is known of a Claim agrees with its row; its Owner is known once it was
activated. -/
structure ClaimView.Agrees (view : ClaimView) (c : ClaimRow) : Prop where
  state : view.state = c.state
  deviceRef : view.deviceRef = c.deviceRef
  revision : view.revision = c.revision
  owner : view.owner = if c.activatedAt = none then none else some c.businessOwnerId

namespace Registry

/-- The stream says of every device what its Claim row says. -/
structure Logged (s : Registry) : Prop where
  revisions : ∀ i, claimRevisions s.stream i = List.range' 1 ((s.claim i).elim 0 (·.revision))
  views : ∀ i, match s.claim i with
    | none => rebuild s.stream i = none
    | some c => 0 < c.revision ∧ ∃ view, rebuild s.stream i = some view ∧ view.Agrees c

theorem logged_empty : Logged empty := ⟨fun _ => rfl, fun _ => rfl⟩

variable {authority : AdmissionAuthority} {s : Registry} {m : Move}

/-- A registry that published one event of the Claim it wrote. -/
theorem Logged.publish {s' : Registry} {ref : DeviceRef} (h : Logged s) (event : Event)
    (c : ClaimRow) (hstream : s'.stream = s.stream ++ [event])
    (href : event.data.claimRef = some ref)
    (hclaim : ∀ i, s'.claim i = if i = ref.deviceInstanceId then some c else s.claim i)
    (hrevision : event.aggregateRev = c.revision)
    (hnext : c.revision = (s.claim ref.deviceInstanceId).elim 0 (·.revision) + 1)
    (hview : ∃ view, (rebuild s.stream).read event ref.deviceInstanceId = some view ∧
      view.Agrees c) : Logged s' := by
  refine ⟨fun i => ?_, fun i => ?_⟩
  · rw [hstream, claimRevisions_concat href, hclaim, h.revisions]
    by_cases hi : i = ref.deviceInstanceId
    · subst hi
      rw [if_pos rfl, if_pos rfl, Option.elim_some, hrevision, hnext, List.range'_1_concat,
        Nat.add_comm 1]
    · simp [hi]
  · rw [hclaim, hstream, rebuild_concat]
    by_cases hi : i = ref.deviceInstanceId
    · subst hi
      rw [if_pos rfl]
      exact ⟨by omega, hview⟩
    · rw [if_neg hi, ClaimViews.read_of_ne href hi]
      exact h.views i

/-- What the stream says of a device before a move that writes its Claim. -/
theorem Logged.owner {i : DeviceInstanceId} (h : Logged s) {c : ClaimRow} (hc : s.claim i = some c) :
    (rebuild s.stream i).bind (·.owner) =
      if c.activatedAt = none then none else some c.businessOwnerId := by
  have hview := h.views i
  rw [hc] at hview
  obtain ⟨-, view, hrebuild, hagrees⟩ := hview
  rw [hrebuild, Option.bind_some, hagrees.owner]

theorem Logged.apply (hs : s.Sound authority) (h : Logged s) (hm : s.allows authority m) :
    Logged (s.apply m) := by
  cases m with
  | acknowledge p g d a name published now =>
    obtain ⟨-, -, -, -, -, -, -, -, -, -, -, -, hpub⟩ := hm
    have hi := acknowledgedClaim_deviceInstanceId p g d now hs
    refine h.publish published (acknowledgedClaim s p g d now) rfl
      (by rw [hpub.data]; rfl) (fun i => ?_) hpub.revision ?_ ?_
    · simp [Registry.apply, hi]
    · unfold acknowledgedClaim ClaimRow.over
      cases s.claim g.deviceRef.deviceInstanceId <;> rfl
    · refine ⟨⟨.active, g.deviceRef, published.aggregateRev, some d.targetBusinessOwnerId⟩, ?_,
        acknowledgedClaim_state.symm, (acknowledgedClaim_deviceRef p g d now hs).symm, hpub.revision, ?_⟩
      · simp [ClaimViews.read, hpub.data]
      · unfold acknowledgedClaim ClaimRow.over
        cases s.claim g.deviceRef.deviceInstanceId <;> rfl
  | withdraw p g d published now =>
    obtain ⟨-, -, -, -, -, -, hnone, reason, hpub⟩ := hm
    refine h.publish published (AdmissionAuthority.withdrawnClaim g.deviceRef p g
      d.targetBusinessOwnerId now) rfl (by rw [hpub.data]; rfl) (fun i => ?_) hpub.revision
      (by rw [hnone]; rfl) ?_
    · simp [Registry.apply, withDeviceRevoked, AdmissionAuthority.withdrawnClaim]
    · have hblank : rebuild s.stream g.deviceRef.deviceInstanceId = none := by
        have := h.views g.deviceRef.deviceInstanceId
        rwa [hnone] at this
      refine ⟨⟨.revoked, g.deviceRef, published.aggregateRev, none⟩, ?_, rfl, rfl, hpub.revision, rfl⟩
      simp [ClaimViews.read, hpub.data, hblank]
  | revoke c published now =>
    obtain ⟨hc, -, reason, hpub⟩ := hm
    have hdevice : c.deviceRef.deviceInstanceId = c.deviceInstanceId := rfl
    refine h.publish published (c.revoke now) rfl
      (by rw [hpub.data]; rfl) (fun i => ?_) hpub.revision (by rw [hdevice, hc]; rfl) ?_
    · by_cases hi : i = c.deviceInstanceId <;>
        simp [Registry.apply, withDeviceRevoked, revokeGrantsOf, ClaimRow.revoke,
          ClaimRow.deviceRef, hi]
    · refine ⟨⟨.revoked, c.deviceRef, published.aggregateRev,
        if c.activatedAt = none then none else some c.businessOwnerId⟩, ?_, rfl, rfl,
        hpub.revision, rfl⟩
      simp [ClaimViews.read, hpub.data, hdevice, h.owner hc]
  | _ => exact ⟨h.revisions, h.views⟩

end Registry

/-! ### The stream and the outbox -/

/-- Every stream row stands at its position and copies an outbox row. -/
structure Copied (t : Tables) : Prop where
  positions : t.stream.rows.map (·.streamPosition) = List.range' 1 t.stream.rows.length
  copies : ∀ r ∈ t.stream, r.eventId = r.event.id ∧ r.eventType = r.event.type ∧
    ∃ o ∈ t.outbox, o.eventId = r.eventId ∧ o.eventType = r.eventType ∧
      o.aggregateRevision = r.event.aggregateRev ∧ o.event = r.event

theorem copied_empty : Copied Tables.empty := ⟨rfl, by simp [Tables.empty]⟩

theorem addOutbox_copied {aggregateId : String} {event : Event} {occurredAt : Timestamp} :
    Within (Preserves Copied) (addOutbox event.id event.type aggregateId event.aggregateRev event
      occurredAt) := by
  intro t u t' h hcopied
  simp only [addOutbox, commits_bind, commits_add] at h
  obtain ⟨_, t₁, ⟨x, hx, rfl⟩, h⟩ := h
  -- the outbox has the new row in front of the stream
  have hmore : Copied { t with outbox := x } := by
    refine ⟨hcopied.positions, fun r hr => ?_⟩
    obtain ⟨hid, htype, o, ho, hcopy⟩ := hcopied.copies r hr
    exact ⟨hid, htype, o, (Table.mem_insert hx).mpr (.inl ho), hcopy⟩
  split at h
  · simp only [commits_read_bind, commits_add] at h
    obtain ⟨y, hy, rfl⟩ := h
    refine ⟨?_, fun r hr => ?_⟩
    · simp [Table.insert?_rows hy, hcopied.positions, List.range'_1_concat, Nat.add_comm]
    · rcases (Table.mem_insert hy).mp hr with hold | rfl
      · exact hmore.copies r hold
      · exact ⟨rfl, rfl, _, (Table.mem_insert hx).mpr (.inr rfl), rfl, rfl, rfl, rfl⟩
  · rw [commits_pure] at h
    exact h.2 ▸ hmore

/-- What leaves outbox and stream as they were leaves the copies. -/
theorem preserves_copied {t t' : Tables} (houtbox : t'.outbox = t.outbox)
    (hstream : t'.stream = t.stream) : Preserves Copied t t' :=
  fun h => ⟨hstream ▸ h.positions, by rw [hstream, houtbox]; exact h.copies⟩

theorem storeWithin_copied : StoreWithin (Preserves Copied) :=
  .of_frames (fun _ _ => preserves_copied rfl rfl) (fun _ _ => preserves_copied rfl rfl)
    (fun _ _ => preserves_copied rfl rfl) (fun _ _ => preserves_copied rfl rfl)
    (fun _ _ => preserves_copied rfl rfl) (fun _ _ => preserves_copied rfl rfl)
    (fun _ _ => preserves_copied rfl rfl) (fun _ _ => preserves_copied rfl rfl)
    (fun _ _ _ _ => StoreWithin.within_add fun _ _ _ => preserves_copied rfl rfl)
    fun _ _ _ => addOutbox_copied

namespace AdmissionAuthority

variable {authority : AdmissionAuthority} {t : Tables}

theorem reachable_copied (h : Reachable authority t) : Copied t :=
  h.inv (storeWithin_copied.next fun _ _ _ => StoreWithin.establishStanding
    (fun _ _ => preserves_copied rfl rfl) fun _ _ => preserves_copied rfl rfl) copied_empty

/-- In every reachable registry the stream says what the Claims say. -/
theorem reachable_logged (h : Reachable authority t) : t.registry.Logged :=
  (reachable_inv (I := fun s => s.Sound authority ∧ s.Logged)
    ⟨Registry.sound_empty, Registry.logged_empty⟩
    (fun _ _ hs hm => ⟨hs.1.apply hm, hs.2.apply hs.1 hm⟩) h).2

/-- The Claim event stream of the tables. -/
def claimEvents (t : Tables) : List Event := t.stream.rows.map (·.event)

/-- **The Claim event stream is a log of the Claim table**: for every device its
events carry the revisions 1, 2, 3, … up to the one of its Claim row, every event
is a copy of an outbox row, and folding the stream gives state, generation and
revision of every Claim, and the Owner of every Claim that was ever activated. -/
theorem stream_is_log (h : Reachable authority t) :
    Copied t ∧ ∀ i,
      claimRevisions (claimEvents t) i =
        List.range' 1 ((t.claims.get (·.deviceInstanceId) i).elim 0 (·.revision)) ∧
      match t.claims.get (·.deviceInstanceId) i with
      | none => rebuild (claimEvents t) i = none
      | some c => 0 < c.revision ∧ ∃ view, rebuild (claimEvents t) i = some view ∧ view.Agrees c :=
  ⟨reachable_copied h, fun i => ⟨(reachable_logged h).revisions i, (reachable_logged h).views i⟩⟩

/-- A Claim that was activated, revoked and activated again. -/
theorem stream_is_log_rejoined : claimRevisions (claimEvents (Sample.after (Sample.handoff "e" "k" ++
    [Sample.ack "e" 1, Sample.revoke "revoke" "k" 1] ++ Sample.handoff "f" "k" ++
    [Sample.ack "f" 2]))) "device-k" = [1, 2, 3] := by
  rw [((stream_is_log (Sample.after_reachable _)).2 "device-k").1]
  decide +kernel

/-- No reading of the stream knows the Owner of every Claim: a grant of Alice and a
grant of Bob, withdrawn before they were acknowledged, leave the same stream. -/
theorem stream_knows_no_owner : ¬ ∃ read : List Event → DeviceInstanceId →
    Option (ClaimState × DeviceRef × Nat × BusinessOwnerId),
    ∀ (authority : AdmissionAuthority) (t : Tables), Reachable authority t → ∀ i,
      read (claimEvents t) i = (t.claims.get (·.deviceInstanceId) i).map fun c =>
        (c.state, c.deviceRef, c.revision, c.businessOwnerId) := by
  rintro ⟨read, hread⟩
  have halice := hread Sample.authority _ (Sample.after_reachable [Sample.create "e" "k",
    Sample.decide "e" .approve, Sample.revoke "revoke" "k" 1]) "device-k"
  have hbob := hread Sample.authority _ (Sample.after_reachable [Sample.create "e" "k",
    Sample.decide "e" .approve "bob", Sample.revoke "revoke" "k" 1 "bob"]) "device-k"
  have hstream : claimEvents (Sample.after [Sample.create "e" "k", Sample.decide "e" .approve "bob",
      Sample.revoke "revoke" "k" 1 "bob"]) = claimEvents (Sample.after [Sample.create "e" "k",
      Sample.decide "e" .approve, Sample.revoke "revoke" "k" 1]) := by decide +kernel
  rw [hstream, halice] at hbob
  revert hbob
  decide +kernel

end AdmissionAuthority

end EidolonHub.Admission
