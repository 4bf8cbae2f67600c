import EidolonHub.Admission.ClaimStream
import Mathlib.Data.Prod.Lex

/-!
# EidolonHub.Admission.ClaimRevisionMigration

**The repair of lost Claim revisions.** A producer of the past wrote revision 1 into the
event of every activation, whatever the Claim's revision was. The repair reads the Claim
event stream device by device, infers the revision of every such event from its place
and its generation, checks what it infers against the Claim and the outbox, and rewrites
stream and outbox in the transaction the schema is opened in.

The repair is described by the revisions it decides on (`corrections`): what it writes is
`Tables.revised` with them. So an exact inference gives the exact store back, and a second
repair finds nothing.
-/

namespace EidolonHub.Admission

open EidolonHub.Library EidolonHub.Library.Tx

/-! ### The migration -/

/-- `(owner_domain_generation, claim_generation, trust_epoch)`, compared as a tuple. -/
abbrev Generation := Nat ×ₗ Nat ×ₗ Nat

/-- The generation of a reference. A new Owner Domain counts before a new Claim, and a new Claim before a
new epoch of trust. -/
def DeviceRef.generation (ref : DeviceRef) : Generation :=
  toLex (ref.ownerDomainGeneration, toLex (ref.claimGeneration, ref.trustEpoch))

/-- `event['data']['device_ref']`. -/
def EventData.deviceRef (data : EventData) : Except HubError DeviceRef :=
  match data.claimRef with
  | some ref => .ok ref
  | none => .error (.key "device_ref")

/-- The revision of an event, given what came before it. Evidence there is of one historical
producer bug only. -/
def candidate (previous : Nat) (previousGeneration : Option Generation) (event : Event)
    (generation : Generation) : Except HubError Nat :=
  if previous < event.aggregateRev then .ok event.aggregateRev
  else if event.type = .claimActivated ∧ event.aggregateRev = 1 ∧
      (previousGeneration.any fun g => decide (g < generation)) = true then
    .ok (previous + 1)
  else .error (.runtime "Claim revision history requires explicit recovery")

/-- An event and its revision. -/
abbrev Change := ClaimEventStreamRow × Nat

/-- The events of a device whose revision was lost, with it, and the revision of the last
event. -/
def corrections : Nat → Option Generation → List ClaimEventStreamRow →
    Except HubError (List Change × Nat)
  | previous, _, [] => .ok ([], previous)
  | previous, previousGeneration, row :: rows => do
    let ref ← row.event.data.deviceRef
    let revision ← candidate previous previousGeneration row.event ref.generation
    let rest ← corrections revision (some ref.generation) rows
    .ok (if revision ≠ row.event.aggregateRev then (row, revision) :: rest.1 else rest.1, rest.2)

/-- The event with another revision of its aggregate. -/
def Event.withRevision (event : Event) (revision : Nat) : Event :=
  { event with aggregateRev := revision }

/-- `update(Stream).values(event_json=encoded)`. -/
def ClaimEventStreamRow.withEvent (event : Event) (row : ClaimEventStreamRow) :
    ClaimEventStreamRow := { row with event }

/-- `update(Outbox).values(event_json=encoded, aggregate_revision=revision)`. -/
def OutboxRow.withEvent (event : Event) (revision : Nat) (row : OutboxRow) : OutboxRow :=
  { row with event, aggregateRevision := revision }

theorem ClaimEventStreamRow.withEvent_keeps (event : Event) :
    Table.Keeps (ClaimEventStreamRow.withEvent event) := fun _ _ => rfl

theorem OutboxRow.withEvent_keeps (event : Event) (revision : Nat) :
    Table.Keeps (OutboxRow.withEvent event revision) := fun _ _ => rfl

/-- One lost revision is written, in the stream and in the outbox. -/
def repairEvent (change : Change) : Session Unit := do
  let found ← Tx.read fun t => t.outbox.get (·.eventId) change.1.eventId
  let outbox ← Tx.demand found .noResult
  Tx.raiseIf (outbox.event ≠ change.1.event)
    (.runtime "Claim outbox and stream disagree; refusing repair")
  let event := change.1.event.withRevision change.2
  Tx.update fun t => { t with
    stream := t.stream.modify (·.eventId) change.1.eventId (.withEvent event)
      (ClaimEventStreamRow.withEvent_keeps event)
    outbox := t.outbox.modify (·.eventId) change.1.eventId (.withEvent event change.2)
      (OutboxRow.withEvent_keeps event change.2) }

/-- The history of one device. -/
def repairHistory (history : List ClaimEventStreamRow) : Session Nat := do
  let found ← Tx.lift (corrections 0 none history)
  if found.1.isEmpty then return 0
  else
    let ref ← Tx.demand (history.getLast?.bind (·.event.data.claimRef)) (.key "device_ref")
    let stored ← getClaim ref.deviceInstanceId
    let claim ← Tx.demand stored .noResult
    Tx.raiseIf (claim.revision ≠ found.2)
      (.runtime "Claim revision and event history disagree; refusing repair")
    Tx.forEach repairEvent found.1
    return found.1.length

/-- The histories are repaired one after the other; the number of rows that were changed. -/
def repairHistories : List (List ClaimEventStreamRow) → Session Nat
  | [] => return 0
  | history :: histories => do
    let repaired ← repairHistory history
    let rest ← repairHistories histories
    return repaired + rest

/-- `(event['ownerdomainid'], event['subject'])`. -/
def ClaimEventStreamRow.aggregate (row : ClaimEventStreamRow) : OwnerDomainId × String :=
  (row.event.ownerDomainId, row.event.subject)

/-- The stream in the order of its positions. -/
def Tables.claimEventRows (t : Tables) : List ClaimEventStreamRow :=
  t.stream.rows.insertionSort fun r s => r.streamPosition ≤ s.streamPosition

/-- The rows of the stream, by the Claim they are about. -/
def Tables.histories (t : Tables) : List (List ClaimEventStreamRow) :=
  groups (·.aggregate) t.claimEventRows

/-- `repair_claim_revisions`: every history of the stream is repaired in one transaction. -/
def repairClaimRevisions : Session Nat := do
  let histories ← Tx.read Tables.histories
  repairHistories histories

/-! ### Rewriting revisions -/

section Revised

variable (f : EventId → Option Nat)

/-- The row with the revision `f` gives its event, if it gives one. -/
def ClaimEventStreamRow.revised (row : ClaimEventStreamRow) : ClaimEventStreamRow :=
  (f row.eventId).elim row fun revision => row.withEvent (row.event.withRevision revision)

/-- A row of the outbox, with the revision that is found for its event. -/
def OutboxRow.revised (row : OutboxRow) : OutboxRow :=
  (f row.eventId).elim row fun revision => row.withEvent (row.event.withRevision revision) revision

variable {f} {g : EventId → Option Nat} {row : ClaimEventStreamRow} {o : OutboxRow}

@[simp] theorem ClaimEventStreamRow.revised_eventId : (row.revised f).eventId = row.eventId := by
  unfold revised
  cases f row.eventId <;> rfl

@[simp] theorem ClaimEventStreamRow.revised_streamPosition :
    (row.revised f).streamPosition = row.streamPosition := by
  unfold revised
  cases f row.eventId <;> rfl

@[simp] theorem ClaimEventStreamRow.revised_aggregate : (row.revised f).aggregate = row.aggregate := by
  unfold revised
  cases f row.eventId <;> rfl

@[simp] theorem ClaimEventStreamRow.revised_data :
    (row.revised f).event.data = row.event.data := by
  unfold revised
  cases f row.eventId <;> rfl

@[simp] theorem ClaimEventStreamRow.revised_type :
    (row.revised f).event.type = row.event.type := by
  unfold revised
  cases f row.eventId <;> rfl

theorem ClaimEventStreamRow.revised_event :
    (row.revised f).event = (f row.eventId).elim row.event row.event.withRevision := by
  unfold revised
  cases f row.eventId <;> rfl

theorem ClaimEventStreamRow.revised_aggregateRev :
    (row.revised f).event.aggregateRev = (f row.eventId).getD row.event.aggregateRev := by
  unfold revised
  cases f row.eventId <;> rfl

theorem ClaimEventStreamRow.revised_of_none (h : f row.eventId = none) : row.revised f = row := by
  rw [revised, h]
  rfl

theorem ClaimEventStreamRow.revised_self (h : ∀ r, f row.eventId = some r → r = row.event.aggregateRev) :
    row.revised f = row := by
  unfold revised
  cases hf : f row.eventId with
  | none => rfl
  | some r => rw [h r hf]; rfl

theorem ClaimEventStreamRow.revised_revised :
    (row.revised f).revised g = row.revised fun x => (g x).or (f x) := by
  unfold revised
  cases hf : f row.eventId <;> cases hg : g row.eventId <;> simp [withEvent, Event.withRevision, hf, hg]

@[simp] theorem OutboxRow.revised_eventId : (o.revised f).eventId = o.eventId := by
  unfold revised
  cases f o.eventId <;> rfl

theorem OutboxRow.revised_event :
    (o.revised f).event = (f o.eventId).elim o.event o.event.withRevision := by
  unfold revised
  cases f o.eventId <;> rfl

theorem OutboxRow.revised_of_none (h : f o.eventId = none) : o.revised f = o := by
  rw [revised, h]
  rfl

theorem OutboxRow.revised_self (h : ∀ r, f o.eventId = some r →
    r = o.event.aggregateRev ∧ r = o.aggregateRevision) : o.revised f = o := by
  unfold revised
  cases hf : f o.eventId with
  | none => rfl
  | some r =>
    obtain ⟨hevent, rfl⟩ := h r hf
    have hsame : o.event.withRevision o.aggregateRevision = o.event := by rw [hevent]; rfl
    rw [Option.elim_some, hsame]
    rfl

theorem OutboxRow.revised_revised :
    (o.revised f).revised g = o.revised fun x => (g x).or (f x) := by
  unfold revised
  cases hf : f o.eventId <;> cases hg : g o.eventId <;> simp [withEvent, Event.withRevision, hf, hg]

theorem ClaimEventStreamRow.revised_keeps (f : EventId → Option Nat) :
    Table.Keeps (ClaimEventStreamRow.revised f) := fun _ _ => by
  simp [Keyed.clash]

theorem OutboxRow.revised_keeps (f : EventId → Option Nat) : Table.Keeps (OutboxRow.revised f) :=
  fun _ _ => by simp [Keyed.clash]

/-- The tables with the revisions `f` gives, in the stream and in the outbox. -/
def Tables.revised (f : EventId → Option Nat) (t : Tables) : Tables :=
  { t with
    stream := t.stream.map (ClaimEventStreamRow.revised f) (ClaimEventStreamRow.revised_keeps f)
    outbox := t.outbox.map (OutboxRow.revised f) (OutboxRow.revised_keeps f) }

variable {t : Tables}

/-- Revisions that are there already change nothing. -/
theorem Tables.revised_self (hstream : ∀ row ∈ t.stream, row.revised f = row)
    (houtbox : ∀ o ∈ t.outbox, o.revised f = o) : t.revised f = t := by
  have hs : t.stream.map _ (ClaimEventStreamRow.revised_keeps f) = t.stream :=
    Table.ext ((List.map_congr_left hstream).trans (List.map_id _))
  have ho : t.outbox.map _ (OutboxRow.revised_keeps f) = t.outbox :=
    Table.ext ((List.map_congr_left houtbox).trans (List.map_id _))
  unfold Tables.revised
  rw [hs, ho]

theorem Tables.revised_none : t.revised (fun _ => none) = t :=
  t.revised_self (fun _ _ => ClaimEventStreamRow.revised_of_none rfl)
    fun _ _ => OutboxRow.revised_of_none rfl

theorem Tables.revised_revised :
    (t.revised f).revised g = t.revised fun x => (g x).or (f x) := by
  unfold Tables.revised
  congr 1
  · apply Table.ext
    simp only [Table.map_rows, List.map_map]
    exact List.map_congr_left fun _ _ => OutboxRow.revised_revised
  · apply Table.ext
    simp only [Table.map_rows, List.map_map]
    exact List.map_congr_left fun _ _ => ClaimEventStreamRow.revised_revised

theorem Tables.histories_revised :
    (t.revised f).histories = t.histories.map (List.map (ClaimEventStreamRow.revised f)) := by
  unfold Tables.histories Tables.claimEventRows
  rw [← groups_map fun _ => ClaimEventStreamRow.revised_aggregate]
  congr 1
  refine (List.map_insertionSort _ _ _ _ fun r _ r' _ => ?_).symm
  simp

end Revised

/-! ### What the repair writes -/

/-- Revisions, with those of some changes put in their place. -/
def assign (f : EventId → Option Nat) (changes : List Change) : EventId → Option Nat :=
  changes.foldl (fun f change => Function.update f change.1.eventId (some change.2)) f

theorem assign_append {f : EventId → Option Nat} {changes changes' : List Change} :
    assign f (changes ++ changes') = assign (assign f changes) changes' := List.foldl_append

theorem assign_of_not_mem {f : EventId → Option Nat} {changes : List Change} {x : EventId}
    (h : ∀ change ∈ changes, change.1.eventId ≠ x) : assign f changes x = f x := by
  induction changes generalizing f with
  | nil => rfl
  | cons change changes ih =>
    rw [List.forall_mem_cons] at h
    show assign (Function.update f change.1.eventId (some change.2)) changes x = f x
    rw [ih h.2, Function.update_of_ne h.1.symm]

theorem assign_eq_some {f : EventId → Option Nat} {changes : List Change} {x : EventId} {r : Nat}
    (h : assign f changes x = some r) :
    (∃ change ∈ changes, change.1.eventId = x ∧ change.2 = r) ∨ f x = some r := by
  induction changes generalizing f with
  | nil => exact .inr h
  | cons change changes ih =>
    rcases ih h with ⟨c, hc, hassigned⟩ | hupdate
    · exact .inl ⟨c, List.mem_cons_of_mem _ hc, hassigned⟩
    · dsimp only at hupdate
      by_cases hx : x = change.1.eventId
      · subst hx
        rw [Function.update_self] at hupdate
        exact .inl ⟨change, List.mem_cons_self, rfl, Option.some.inj hupdate⟩
      · rw [Function.update_of_ne hx] at hupdate
        exact .inr hupdate

/-- The changes are of different events. -/
def Distinct (changes : List Change) : Prop :=
  changes.Pairwise fun c c' => c.1.eventId ≠ c'.1.eventId

theorem assign_of_mem {f : EventId → Option Nat} {changes : List Change} {change : Change}
    (hdistinct : Distinct changes) (h : change ∈ changes) :
    assign f changes change.1.eventId = some change.2 := by
  induction changes generalizing f with
  | nil => cases h
  | cons c changes ih =>
    obtain ⟨hne, hdistinct⟩ := List.pairwise_cons.mp hdistinct
    show assign (Function.update f c.1.eventId (some c.2)) changes change.1.eventId = _
    rcases List.mem_cons.mp h with rfl | h
    · rw [assign_of_not_mem fun c' hc' heq => hne c' hc' heq.symm, Function.update_self]
    · exact ih hdistinct h

variable {t t' : Tables} {f : EventId → Option Nat} {change : Change} {changes : List Change}
  {history : List ClaimEventStreamRow}

/-- The outbox has a copy of the event that is changed. -/
def Change.Copied (change : Change) (t : Tables) : Prop :=
  ∃ o, t.outbox.get (·.eventId) change.1.eventId = some o ∧ o.event = change.1.event

theorem get_revised {x : EventId} (h : f x = none) :
    (t.revised f).outbox.get (·.eventId) x = t.outbox.get (·.eventId) x := by
  show (t.outbox.map _ (OutboxRow.revised_keeps f)).get _ _ = _
  rw [Table.get_map fun _ => OutboxRow.revised_eventId]
  cases ho : t.outbox.get (·.eventId) x with
  | none => rfl
  | some o =>
    have hid : o.eventId = x := Table.get_key ho
    rw [Option.map_some, OutboxRow.revised_of_none (hid ▸ h)]

/-- What `repairEvent` writes. -/
def writeRevision (change : Change) (t : Tables) : Tables :=
  let event := change.1.event.withRevision change.2
  { t with
    stream := t.stream.modify (·.eventId) change.1.eventId (.withEvent event)
      (ClaimEventStreamRow.withEvent_keeps event)
    outbox := t.outbox.modify (·.eventId) change.1.eventId (.withEvent event change.2)
      (OutboxRow.withEvent_keeps event change.2) }

/-- Writing one revision adds it to the revisions there are. -/
theorem writeRevision_revised (hrow : change.1 ∈ t.stream) (hf : f change.1.eventId = none)
    (hcopied : change.Copied t) :
    writeRevision change (t.revised f) = t.revised (assign f [change]) := by
  obtain ⟨o, ho, hevent⟩ := hcopied
  obtain ⟨homem, hoid⟩ := (Table.get_eq_some_iff outbox_eventId_isKey).mp ho
  have hassign : ∀ x, assign f [change] x = if x = change.1.eventId then some change.2 else f x :=
    fun x => Function.update_apply f _ _ x
  unfold writeRevision Tables.revised
  dsimp only
  congr 1
  · apply Table.ext
    simp only [Table.map_rows, Table.modify_rows, List.map_map]
    refine List.map_congr_left fun o' ho' => ?_
    rw [Function.comp, OutboxRow.revised_eventId]
    by_cases hid : o'.eventId = change.1.eventId
    · have hsame : o' = o := Table.eq_of_key outbox_eventId_isKey ho' homem (hid.trans hoid.symm)
      subst hsame
      rw [if_pos hid, OutboxRow.revised_of_none (hid ▸ hf), OutboxRow.revised, hassign, if_pos hid,
        ← hevent]
      rfl
    · rw [if_neg hid, OutboxRow.revised, OutboxRow.revised, hassign, if_neg hid]
  · apply Table.ext
    simp only [Table.map_rows, Table.modify_rows, List.map_map]
    refine List.map_congr_left fun row hrow' => ?_
    rw [Function.comp, ClaimEventStreamRow.revised_eventId]
    by_cases hid : row.eventId = change.1.eventId
    · have hsame : row = change.1 := Table.eq_of_key stream_eventId_isKey hrow' hrow hid
      subst hsame
      rw [if_pos rfl, ClaimEventStreamRow.revised_of_none hf, ClaimEventStreamRow.revised, hassign,
        if_pos rfl]
      rfl
    · rw [if_neg hid, ClaimEventStreamRow.revised, ClaimEventStreamRow.revised, hassign, if_neg hid]

theorem commits_repairEvent {u : Unit} (hrow : change.1 ∈ t.stream) (hf : f change.1.eventId = none) :
    Commits (repairEvent change) (t.revised f) u t' ↔
      change.Copied t ∧ t' = t.revised (assign f [change]) := by
  simp only [repairEvent, commits_read_bind, commits_demand_bind, commits_raiseIf_bind,
    commits_update, get_revised hf, ne_eq, not_not]
  constructor
  · rintro ⟨o, ho, hevent, rfl⟩
    exact ⟨⟨o, ho, hevent⟩, writeRevision_revised hrow hf ⟨o, ho, hevent⟩⟩
  · rintro ⟨hcopied, rfl⟩
    have hwrites := writeRevision_revised hrow hf hcopied
    obtain ⟨o, ho, hevent⟩ := hcopied
    exact ⟨o, ho, hevent, hwrites.symm⟩

theorem commits_repairEvents {u : Unit} (hrows : ∀ change ∈ changes, change.1 ∈ t.stream)
    (hdistinct : Distinct changes) (hf : ∀ change ∈ changes, f change.1.eventId = none) :
    Commits (forEach repairEvent changes) (t.revised f) u t' ↔
      (∀ change ∈ changes, change.Copied t) ∧ t' = t.revised (assign f changes) := by
  induction changes generalizing f with
  | nil => simp [assign]
  | cons change changes ih =>
    obtain ⟨hne, hdistinct⟩ := List.pairwise_cons.mp hdistinct
    rw [List.forall_mem_cons] at hrows hf
    -- the later events are none of those written so far
    have hlater : ∀ c ∈ changes, assign f [change] c.1.eventId = none := by
      intro c hc
      rw [assign_of_not_mem, hf.2 c hc]
      intro c' hc'
      rw [List.mem_singleton.mp hc']
      exact hne c hc
    rw [commits_forEach_cons, List.forall_mem_cons]
    constructor
    · rintro ⟨t₁, hfirst, hrest⟩
      obtain ⟨hcopied, rfl⟩ := (commits_repairEvent hrows.1 hf.1).mp hfirst
      obtain ⟨hcopies, rfl⟩ := (ih hrows.2 hdistinct hlater).mp hrest
      exact ⟨⟨hcopied, hcopies⟩, rfl⟩
    · rintro ⟨⟨hcopied, hcopies⟩, rfl⟩
      exact ⟨_, (commits_repairEvent hrows.1 hf.1).mpr ⟨hcopied, rfl⟩,
        (ih hrows.2 hdistinct hlater).mpr ⟨hcopies, rfl⟩⟩

/-! ### What the repair infers -/

/-- The revisions of a history rise, above a revision before it. -/
def Ascends : Nat → List ClaimEventStreamRow → Prop
  | _, [] => True
  | previous, row :: rows => (∃ ref, row.event.data.claimRef = some ref) ∧
      previous < row.event.aggregateRev ∧ Ascends row.event.aggregateRev rows

theorem deviceRef_ok {data : EventData} {ref : DeviceRef} :
    data.deviceRef = .ok ref ↔ data.claimRef = some ref := by
  unfold EventData.deviceRef
  cases data.claimRef <;> simp

section Corrections

variable {previous last revision : Nat} {before : Option Generation} {row : ClaimEventStreamRow}
  {rows : List ClaimEventStreamRow} {generation : Generation}

theorem candidate_ok {event : Event} (h : candidate previous before event generation = .ok revision) :
    previous < revision ∧ (revision ≠ event.aggregateRev → event.aggregateRev ≤ previous) := by
  unfold candidate at h
  split_ifs at h with hlt
  · cases h
    exact ⟨hlt, fun hne => absurd rfl hne⟩
  · cases h
    exact ⟨by omega, fun _ => by omega⟩

theorem candidate_of_lt {event : Event} (h : previous < event.aggregateRev) :
    candidate previous before event generation = .ok event.aggregateRev := if_pos h

/-- What the head of a history is given, and what the rest is. -/
theorem corrections_cons :
    corrections previous before (row :: rows) = .ok (changes, last) ↔
      ∃ ref revision rest, row.event.data.claimRef = some ref ∧
        candidate previous before row.event ref.generation = .ok revision ∧
        corrections revision (some ref.generation) rows = .ok (rest, last) ∧
        changes = if revision ≠ row.event.aggregateRev then (row, revision) :: rest else rest := by
  simp only [corrections, except_bind_ok, deviceRef_ok, Except.ok.injEq, Prod.mk.injEq]
  constructor
  · rintro ⟨ref, href, revision, hcandidate, ⟨rest, last'⟩, hrest, hchanges, rfl⟩
    exact ⟨ref, revision, rest, href, hcandidate, hrest, hchanges.symm⟩
  · rintro ⟨ref, revision, rest, href, hcandidate, hrest, hchanges⟩
    exact ⟨ref, href, revision, hcandidate, (rest, last), hrest, hchanges.symm, rfl⟩

/-- Only events of the history are changed, each at most once. -/
theorem corrections_sublist (h : corrections previous before rows = .ok (changes, last)) :
    (changes.map (·.1)).Sublist rows := by
  induction rows generalizing previous before changes with
  | nil =>
    cases h
    exact List.Sublist.refl _
  | cons row rows ih =>
    obtain ⟨ref, revision, rest, -, -, hrest, rfl⟩ := corrections_cons.mp h
    split_ifs
    · exact (ih hrest).cons_cons row
    · exact (ih hrest).cons row

/-- A history that rises is left as it is. -/
theorem corrections_of_ascends (h : Ascends previous rows) :
    ∃ last, corrections previous before rows = .ok ([], last) := by
  induction rows generalizing previous before with
  | nil => exact ⟨previous, rfl⟩
  | cons row rows ih =>
    obtain ⟨⟨ref, href⟩, hlt, hrest⟩ := h
    obtain ⟨last, hlast⟩ : ∃ last, corrections row.event.aggregateRev (some ref.generation) rows =
        .ok ([], last) := ih hrest
    exact ⟨last, corrections_cons.mpr ⟨ref, _, [], href, candidate_of_lt hlt, hlast, by simp⟩⟩

/-- A history rises once it has the revisions it was found to have. -/
theorem ascends_of_corrections (h : corrections previous before rows = .ok (changes, last))
    (hunique : rows.Pairwise fun r s => r.eventId ≠ s.eventId)
    (hchanged : ∀ change ∈ changes, f change.1.eventId = some change.2)
    (hother : ∀ row ∈ rows, (∀ change ∈ changes, change.1.eventId ≠ row.eventId) →
      f row.eventId = none) : Ascends previous (rows.map (ClaimEventStreamRow.revised f)) := by
  induction rows generalizing previous before changes with
  | nil => trivial
  | cons row rows ih =>
    obtain ⟨ref, revision, rest, href, hcandidate, hrest, rfl⟩ := corrections_cons.mp h
    obtain ⟨hne, hunique⟩ := List.pairwise_cons.mp hunique
    obtain ⟨hlt, -⟩ := candidate_ok hcandidate
    have hrests : ∀ change ∈ rest, change.1 ∈ rows := fun change hmem =>
      (corrections_sublist hrest).subset (List.mem_map_of_mem hmem)
    -- the event has the revision it was found to have
    have hrevision : (row.revised f).event.aggregateRev = revision := by
      rw [ClaimEventStreamRow.revised_aggregateRev]
      by_cases heq : revision = row.event.aggregateRev
      · rw [hother row List.mem_cons_self, heq]
        · rfl
        · intro change hmem
          rw [if_neg (not_not.mpr heq)] at hmem
          exact (hne change.1 (hrests change hmem)).symm
      · rw [hchanged (row, revision) (by simp [heq])]
        rfl
    refine ⟨⟨ref, by simpa using href⟩, by omega, ?_⟩
    rw [hrevision]
    refine ih hrest hunique ?_ ?_
    · intro change hmem
      apply hchanged
      split_ifs
      · exact List.mem_cons_of_mem _ hmem
      · exact hmem
    · intro row' hrow' hnot
      apply hother row' (List.mem_cons_of_mem _ hrow')
      split_ifs
      · rw [List.forall_mem_cons]
        exact ⟨hne row' hrow', hnot⟩
      · exact hnot

end Corrections

/-! ### What a committed repair did -/

/-- The Claim of the device and the outbox confirm what was found. -/
def Confirmed (t : Tables) (history : List ClaimEventStreamRow) (changes : List Change) (last : Nat) :
    Prop :=
  (∃ ref claim, history.getLast?.bind (·.event.data.claimRef) = some ref ∧
    t.claims.get (·.deviceInstanceId) ref.deviceInstanceId = some claim ∧ claim.revision = last) ∧
  ∀ change ∈ changes, change.Copied t

/-- The repair accepts the history. -/
def Repairable (t : Tables) (history : List ClaimEventStreamRow) : Prop :=
  ∃ changes last, corrections 0 none history = .ok (changes, last) ∧
    (changes ≠ [] → Confirmed t history changes last)

/-- The changes the repair makes to a history. -/
def changesOf (history : List ClaimEventStreamRow) : List Change :=
  match corrections 0 none history with
  | .ok found => found.1
  | .error _ => []

theorem changesOf_eq {last : Nat} (h : corrections 0 none history = .ok (changes, last)) :
    changesOf history = changes := by
  rw [changesOf, h]

theorem changesOf_sublist : ((changesOf history).map (·.1)).Sublist history := by
  cases h : corrections 0 none history with
  | error e =>
    rw [changesOf, h]
    exact List.nil_sublist _
  | ok found =>
    rw [changesOf, h]
    exact corrections_sublist h

theorem changesOf_mem (h : change ∈ changesOf history) : change.1 ∈ history :=
  changesOf_sublist.subset (List.mem_map_of_mem h)

/-- A list of events of the stream, each once. -/
def Unique (rows : List ClaimEventStreamRow) : Prop :=
  rows.Pairwise fun r s => r.eventId ≠ s.eventId

theorem distinct_changesOf (h : Unique history) : Distinct (changesOf history) := by
  have hrows : Unique ((changesOf history).map (·.1)) := h.sublist changesOf_sublist
  rwa [Unique, List.pairwise_map] at hrows

section Commits

variable {n : Nat} {histories : List (List ClaimEventStreamRow)}

theorem commits_repairHistory (hrows : ∀ row ∈ history, row ∈ t.stream) (hunique : Unique history)
    (hf : ∀ row ∈ history, f row.eventId = none) :
    Commits (repairHistory history) (t.revised f) n t' ↔
      Repairable t history ∧ n = (changesOf history).length ∧
        t' = t.revised (assign f (changesOf history)) := by
  simp only [repairHistory, commits_lift_bind]
  constructor
  · rintro ⟨⟨changes, last⟩, hfound, h⟩
    have hmem : ∀ change ∈ changes, change.1 ∈ history := by
      intro change hchange
      exact (corrections_sublist hfound).subset (List.mem_map_of_mem hchange)
    rw [changesOf_eq hfound]
    -- a history with nothing to correct asks for no Claim
    split_ifs at h with hempty
    · rw [List.isEmpty_iff] at hempty
      subst hempty
      obtain ⟨rfl, rfl⟩ := commits_pure.mp h
      exact ⟨⟨[], last, hfound, fun hne => absurd rfl hne⟩, rfl, rfl⟩
    · simp only [getClaim, commits_demand_bind, commits_read_bind, commits_raiseIf_bind, ne_eq,
        not_not] at h
      simp only [commits_bind, commits_pure] at h
      obtain ⟨ref, href, claim, hclaim, hrevision, u, t₁, hevents, rfl, rfl⟩ := h
      obtain ⟨hcopies, rfl⟩ := (commits_repairEvents (fun change hc => hrows _ (hmem change hc))
        (changesOf_eq hfound ▸ distinct_changesOf hunique) fun change hc => hf _ (hmem change hc)).mp
          hevents
      exact ⟨⟨changes, last, hfound, fun _ => ⟨⟨ref, claim, href, hclaim, hrevision⟩, hcopies⟩⟩, rfl, rfl⟩
  · rintro ⟨⟨changes, last, hfound, hconfirmed⟩, rfl, rfl⟩
    rw [changesOf_eq hfound]
    refine ⟨(changes, last), hfound, ?_⟩
    by_cases hempty : changes = []
    · subst hempty
      exact commits_pure.mpr ⟨rfl, rfl⟩
    · obtain ⟨⟨ref, claim, href, hclaim, hrevision⟩, hcopies⟩ := hconfirmed hempty
      have hmem : ∀ change ∈ changes, change.1 ∈ history := by
        intro change hchange
        exact (corrections_sublist hfound).subset (List.mem_map_of_mem hchange)
      have hevents : Commits (forEach repairEvent changes) (t.revised f) ()
          (t.revised (assign f changes)) :=
        (commits_repairEvents (fun change hc => hrows _ (hmem change hc))
          (changesOf_eq hfound ▸ distinct_changesOf hunique) fun change hc => hf _ (hmem change hc)).mpr
            ⟨hcopies, rfl⟩
      rw [if_neg (by simpa using hempty)]
      simp only [getClaim, commits_demand_bind, commits_read_bind, commits_raiseIf_bind, ne_eq, not_not]
      simp only [commits_bind, commits_pure]
      exact ⟨ref, href, claim, hclaim, hrevision, (), _, hevents, trivial, rfl⟩

theorem commits_repairHistories (hrows : ∀ history ∈ histories, ∀ row ∈ history, row ∈ t.stream)
    (hunique : Unique histories.flatten)
    (hf : ∀ history ∈ histories, ∀ row ∈ history, f row.eventId = none) :
    Commits (repairHistories histories) (t.revised f) n t' ↔
      (∀ history ∈ histories, Repairable t history) ∧
        n = (histories.flatMap changesOf).length ∧
        t' = t.revised (assign f (histories.flatMap changesOf)) := by
  induction histories generalizing f n t' with
  | nil =>
    rw [repairHistories, commits_pure]
    simp [assign]
  | cons history histories ih =>
    rw [List.forall_mem_cons] at hrows hf
    rw [List.flatten_cons] at hunique
    obtain ⟨hhead, htail, hacross⟩ := List.pairwise_append.mp hunique
    -- what was written for this device is of none of the events behind it
    have hlater : ∀ history' ∈ histories, ∀ row ∈ history',
        assign f (changesOf history) row.eventId = none := by
      intro history' hhistory' row hrow
      rw [assign_of_not_mem, hf.2 history' hhistory' row hrow]
      intro change hchange
      exact hacross _ (changesOf_mem hchange) row (List.mem_flatten.mpr ⟨history', hhistory', hrow⟩)
    simp only [repairHistories, commits_bind, commits_pure, commits_repairHistory hrows.1 hhead hf.1,
      List.forall_mem_cons, List.flatMap_cons, List.length_append, assign_append]
    constructor
    · rintro ⟨_, _, ⟨hrepairable, rfl, rfl⟩, _, _, hrest, rfl, rfl⟩
      obtain ⟨hrepairables, rfl, rfl⟩ := (ih hrows.2 htail hlater).mp hrest
      exact ⟨⟨hrepairable, hrepairables⟩, rfl, rfl⟩
    · rintro ⟨⟨hrepairable, hrepairables⟩, rfl, rfl⟩
      exact ⟨_, _, ⟨hrepairable, rfl, rfl⟩, _, _,
        (ih hrows.2 htail hlater).mpr ⟨hrepairables, rfl, rfl⟩, rfl, rfl⟩

end Commits

namespace Tables

theorem mem_claimEventRows {row : ClaimEventStreamRow} : row ∈ t.claimEventRows ↔ row ∈ t.stream :=
  List.mem_insertionSort _

theorem mem_histories {history : List ClaimEventStreamRow} : history ∈ t.histories ↔
    ∃ row ∈ t.stream, t.claimEventRows.filter (·.aggregate = row.aggregate) = history := by
  simp only [histories, mem_groups, mem_claimEventRows]

theorem mem_of_histories {row : ClaimEventStreamRow} (hhistory : history ∈ t.histories)
    (hrow : row ∈ history) : row ∈ t.stream := by
  obtain ⟨row', -, rfl⟩ := mem_histories.mp hhistory
  exact mem_claimEventRows.mp (List.mem_filter.mp hrow).1

theorem claimEventRows_nodup : t.claimEventRows.Nodup :=
  (List.perm_insertionSort _ _).nodup_iff.mpr
    (Table.nodup fun r => by simp [Keyed.clash])

/-- Two events of the stream with one id are one event. -/
theorem unique_of_nodup {rows : List ClaimEventStreamRow} (hrows : ∀ row ∈ rows, row ∈ t.stream)
    (hnodup : rows.Nodup) : Unique rows := by
  refine hnodup.imp_of_mem fun {r s} hr hs hne heq => hne ?_
  exact Table.eq_of_key stream_eventId_isKey (hrows r hr) (hrows s hs) heq

theorem histories_unique : Unique t.histories.flatten := by
  refine unique_of_nodup (t := t) ?_ ?_
  · intro row hrow
    obtain ⟨history, hhistory, hrow⟩ := List.mem_flatten.mp hrow
    exact mem_of_histories hhistory hrow
  · rw [List.nodup_flatten]
    refine ⟨fun history hhistory => ?_, groups_disjoint⟩
    obtain ⟨row, -, rfl⟩ := mem_histories.mp hhistory
    exact claimEventRows_nodup.filter _

theorem history_unique (h : history ∈ t.histories) : Unique history :=
  histories_unique.sublist (List.sublist_flatten_of_mem h)

/-- The changes the repair makes. -/
def lostRevisions (t : Tables) : List Change := t.histories.flatMap changesOf

end Tables

/-- **A repair that commits has written the revisions it found, and nothing else.** -/
theorem commits_repairClaimRevisions {n : Nat} : Commits repairClaimRevisions t n t' ↔
    (∀ history ∈ t.histories, Repairable t history) ∧ n = t.lostRevisions.length ∧
      t' = t.revised (assign (fun _ => none) t.lostRevisions) := by
  have h : Commits (repairHistories t.histories) (t.revised fun _ => none) n t' ↔ _ :=
    commits_repairHistories (fun history hhistory row hrow => Tables.mem_of_histories hhistory hrow)
      Tables.histories_unique fun _ _ _ _ => rfl
  rw [Tables.revised_none] at h
  simp only [repairClaimRevisions, commits_read_bind]
  exact h

/-! ### A second repair -/

namespace Tables

theorem history_eq {row : ClaimEventStreamRow} (hhistory : history ∈ t.histories)
    (hrow : row ∈ history) : t.claimEventRows.filter (·.aggregate = row.aggregate) = history := by
  obtain ⟨row', -, rfl⟩ := mem_histories.mp hhistory
  rw [of_decide_eq_true (List.mem_filter.mp hrow).2]

theorem mem_lostRevisions : change ∈ t.lostRevisions ↔
    ∃ history ∈ t.histories, change ∈ changesOf history := List.mem_flatMap

theorem distinct_lostRevisions : Distinct t.lostRevisions := by
  have hsub : ∀ histories : List (List ClaimEventStreamRow),
      ((histories.flatMap changesOf).map (·.1)).Sublist histories.flatten := by
    intro histories
    induction histories with
    | nil => exact List.Sublist.refl _
    | cons history histories ih =>
      rw [List.flatMap_cons, List.map_append, List.flatten_cons]
      exact changesOf_sublist.append ih
  have hrows : Unique (t.lostRevisions.map (·.1)) := histories_unique.sublist (hsub _)
  rwa [Unique, List.pairwise_map] at hrows

end Tables

/-- **Histories that rise are left as they are.** -/
theorem commits_of_ascends (h : ∀ history ∈ t.histories, Ascends 0 history) :
    Commits repairClaimRevisions t 0 t := by
  have hnone : ∀ history ∈ t.histories, ∃ last, corrections 0 none history = .ok ([], last) :=
    fun history hhistory => corrections_of_ascends (h history hhistory)
  have hlost : t.lostRevisions = [] := by
    refine List.flatMap_eq_nil_iff.mpr fun history hhistory => ?_
    obtain ⟨last, hlast⟩ := hnone history hhistory
    exact changesOf_eq hlast
  refine commits_repairClaimRevisions.mpr ⟨fun history hhistory => ?_, ?_, ?_⟩
  · obtain ⟨last, hlast⟩ := hnone history hhistory
    exact ⟨[], last, hlast, fun hne => absurd rfl hne⟩
  · rw [hlost]
    rfl
  · rw [hlost]
    exact Tables.revised_none.symm

/-- A fresh store has no histories. -/
theorem repair_empty : Commits repairClaimRevisions Tables.empty 0 Tables.empty := rfl

/-- After a repair every history rises. -/
theorem repaired_ascends {n : Nat} (h : Commits repairClaimRevisions t n t') :
    ∀ history ∈ t'.histories, Ascends 0 history := by
  obtain ⟨hrepairable, -, rfl⟩ := commits_repairClaimRevisions.mp h
  intro history hhistory
  rw [Tables.histories_revised, List.mem_map] at hhistory
  obtain ⟨history, hhistory, rfl⟩ := hhistory
  obtain ⟨changes, last, hfound, -⟩ := hrepairable history hhistory
  refine ascends_of_corrections hfound (Tables.history_unique hhistory) ?_ ?_
  · intro change hchange
    rw [← changesOf_eq hfound] at hchange
    exact assign_of_mem Tables.distinct_lostRevisions
      (Tables.mem_lostRevisions.mpr ⟨history, hhistory, hchange⟩)
  · intro row hrow hnot
    refine assign_of_not_mem fun change hchange heq => ?_
    obtain ⟨history', hhistory', hchange⟩ := Tables.mem_lostRevisions.mp hchange
    -- a change of this event is a change of its history
    have hsame : change.1 = row := Table.eq_of_key stream_eventId_isKey
      (Tables.mem_of_histories hhistory' (changesOf_mem hchange))
      (Tables.mem_of_histories hhistory hrow) heq
    have hhistories : history' = history := by
      rw [← Tables.history_eq hhistory' (changesOf_mem hchange), hsame,
        Tables.history_eq hhistory hrow]
    subst hhistories
    rw [changesOf_eq hfound] at hchange
    exact hnot change hchange heq

/-- **A second repair finds nothing.** -/
theorem repair_idempotent {n : Nat} (h : Commits repairClaimRevisions t n t') :
    Commits repairClaimRevisions t' 0 t' :=
  commits_of_ascends (repaired_ascends h)

/-! ### A store the repair leaves alone -/

theorem ascends_of_pairwise {previous : Nat} {rows : List ClaimEventStreamRow}
    (hrefs : ∀ row ∈ rows, ∃ ref, row.event.data.claimRef = some ref)
    (habove : ∀ row ∈ rows, previous < row.event.aggregateRev)
    (h : rows.Pairwise fun r s => r.event.aggregateRev < s.event.aggregateRev) :
    Ascends previous rows := by
  induction rows generalizing previous with
  | nil => trivial
  | cons row rows ih =>
    rw [List.forall_mem_cons] at hrefs habove
    rw [List.pairwise_cons] at h
    exact ⟨hrefs.1, habove.1, ih hrefs.2 h.1 h.2⟩

/-- Every Claim event is published under the device it is about. -/
def Registry.Addressed (s : Registry) : Prop :=
  ∀ event ∈ s.stream, ∃ ref, event.data.claimRef = some ref ∧
    event.subject = deviceSubject ref.deviceInstanceId

theorem Registry.Addressed.apply {authority : AdmissionAuthority} {s : Registry} {m : Move}
    (h : s.Addressed) (hm : s.allows authority m) : (s.apply m).Addressed := by
  have hpublish : ∀ {published : Event} {type : EventType} {ref : DeviceRef} {revision : Nat}
      {data : EventData}, Publishes published type ref revision data → data.claimRef = some ref →
      ∀ event ∈ s.stream ++ [published], ∃ ref, event.data.claimRef = some ref ∧
        event.subject = deviceSubject ref.deviceInstanceId := by
    intro published type ref revision data hpub hdata event hevent
    rcases List.mem_append.mp hevent with hold | hnew
    · exact h event hold
    · rw [List.mem_singleton.mp hnew]
      exact ⟨ref, hpub.data ▸ hdata, hpub.subject⟩
  cases m with
  | acknowledge =>
    obtain ⟨-, -, -, -, -, -, -, -, -, -, -, -, hpub⟩ := hm
    exact hpublish hpub rfl
  | withdraw =>
    obtain ⟨-, -, -, -, -, -, -, reason, hpub⟩ := hm
    exact hpublish hpub rfl
  | revoke =>
    obtain ⟨-, -, reason, hpub⟩ := hm
    exact hpublish hpub rfl
  | _ => exact h

namespace AdmissionAuthority

variable {authority : AdmissionAuthority}

/-- In a store that Admission wrote, the revisions of every history rise. -/
theorem reachable_ascends (h : Reachable authority t) :
    ∀ history ∈ t.histories, Ascends 0 history := by
  have haddressed : t.registry.Addressed :=
    reachable_inv (fun event hevent => absurd hevent List.not_mem_nil)
      (fun s m hs hm => hs.apply hm) h
  have hrows : t.claimEventRows = t.stream.rows := by
    apply List.Pairwise.insertionSort_eq
    have hpositions : (t.stream.rows.map (·.streamPosition)).Pairwise (· ≤ ·) := by
      rw [(reachable_copied h).positions]
      exact List.pairwise_le_range'
    rwa [List.pairwise_map] at hpositions
  intro history hhistory
  obtain ⟨row, hrow, rfl⟩ := Tables.mem_histories.mp hhistory
  rw [hrows]
  obtain ⟨ref, href, hsubject⟩ := haddressed row.event (List.mem_map_of_mem hrow)
  -- all of the history is about one device
  have hdevice : ∀ r ∈ t.stream.rows.filter (·.aggregate = row.aggregate),
      r.event.data.claimRef.any (·.deviceInstanceId = ref.deviceInstanceId) = true := by
    intro r hr
    obtain ⟨hmem, haggregate⟩ := List.mem_filter.mp hr
    obtain ⟨ref', href', hsubject'⟩ := haddressed r.event (List.mem_map_of_mem hmem)
    have hsame : deviceSubject ref'.deviceInstanceId = deviceSubject ref.deviceInstanceId := by
      rw [← hsubject', ← hsubject]
      exact (Prod.mk.inj (of_decide_eq_true haggregate)).2
    have hid : ref'.deviceInstanceId = ref.deviceInstanceId := by
      simpa [deviceSubject] using hsame
    simp [href', hid]
  have hfilter := List.filter_eq_self.mpr hdevice
  have hsub : ((t.stream.rows.filter (·.aggregate = row.aggregate)).map
      (·.event.aggregateRev)).Sublist (claimRevisions t.registry.stream ref.deviceInstanceId) := by
    rw [← hfilter, claimRevisions, Tables.registry, List.filter_map, List.map_map]
    exact (List.filter_sublist.filter _).map _
  rw [(reachable_logged h).revisions] at hsub
  refine ascends_of_pairwise ?_ ?_ ?_
  · intro r hr
    obtain ⟨ref', href', -⟩ := haddressed r.event (List.mem_map_of_mem (List.mem_filter.mp hr).1)
    exact ⟨ref', href'⟩
  · intro r hr
    have := List.mem_range'_1.mp (hsub.subset (List.mem_map_of_mem hr))
    omega
  · have hrange : (List.range' 1 ((t.registry.claim ref.deviceInstanceId).elim 0
        (·.revision))).Pairwise (· < ·) := List.pairwise_lt_range'
    have hpairwise := hrange.sublist hsub
    rwa [List.pairwise_map] at hpairwise

end AdmissionAuthority

/-! ### A store with lost revisions -/

/-- The revision the fault left an event with: 1, where it is an activation that was written
by a producer with the fault. -/
def legacyRevision (lost : EventId → Bool) (t : Tables) (x : EventId) : Option Nat :=
  if lost x = true ∧ ∃ row ∈ t.stream.rows, row.eventId = x ∧ row.event.type = .claimActivated then
    some 1
  else none

/-- The store a producer with the fault would have left. -/
def Tables.legacy (lost : EventId → Bool) (t : Tables) : Tables := t.revised (legacyRevision lost t)

/-- A legal history of one device: revisions without a gap, and every activation of a later
generation than the event before it. -/
def Proceeds : Nat → Option Generation → List ClaimEventStreamRow → Prop
  | _, _, [] => True
  | revision, before, row :: rows => ∃ ref ∈ row.event.data.claimRef,
      row.event.aggregateRev = revision + 1 ∧
      (row.event.type = .claimActivated → ∀ g ∈ before, g < ref.generation) ∧
      Proceeds (revision + 1) (some ref.generation) rows

instance decidableProceeds : ∀ revision before rows, Decidable (Proceeds revision before rows)
  | _, _, [] => .isTrue trivial
  | revision, before, row :: rows =>
    have := fun ref : DeviceRef => decidableProceeds (revision + 1) (some ref.generation) rows
    inferInstanceAs (Decidable (∃ ref ∈ row.event.data.claimRef, row.event.aggregateRev = revision + 1 ∧
      (row.event.type = .claimActivated → ∀ g ∈ before, g < ref.generation) ∧
      Proceeds (revision + 1) (some ref.generation) rows))

/-- A legal history of every device, its Claim row at the last revision, and its events
copied in the outbox. -/
structure Legal (t : Tables) : Prop where
  proceeds : ∀ history ∈ t.histories, Proceeds 0 none history
  claim : ∀ history ∈ t.histories, ∃ ref ∈ history.getLast?.bind (·.event.data.claimRef),
    ∃ claim ∈ t.claims.get (·.deviceInstanceId) ref.deviceInstanceId, claim.revision = history.length
  copied : ∀ row ∈ t.stream.rows, ∃ o ∈ t.outbox.get (·.eventId) row.eventId,
    o.event = row.event ∧ o.aggregateRevision = row.event.aggregateRev

section Legacy

variable {lost : EventId → Bool}

/-- The changes that give a history its revisions back. -/
def restored (f : EventId → Option Nat) (history : List ClaimEventStreamRow) : List Change :=
  (history.filter fun row => (f row.eventId).isSome && row.event.aggregateRev != 1).map fun row =>
    (row.revised f, row.event.aggregateRev)

/-- **The inference is exact**: of a legal history in which activations lost their revision,
the lost revisions are found. -/
theorem corrections_of_proceeds {revision : Nat} {before : Option Generation}
    (h : Proceeds revision before history) (hbefore : revision ≠ 0 → before ≠ none)
    (hf : ∀ row ∈ history, f row.eventId = none ∨
      f row.eventId = some 1 ∧ row.event.type = .claimActivated) :
    corrections revision before (history.map (ClaimEventStreamRow.revised f)) =
      .ok (restored f history, revision + history.length) := by
  induction history generalizing revision before with
  | nil => rfl
  | cons row rows ih =>
    obtain ⟨ref, href, hrevision, hgeneration, hrest⟩ := h
    rw [List.forall_mem_cons] at hf
    have hcorrections := ih hrest (fun _ => by simp) hf.2
    have hlength : revision + (row :: rows).length = revision + 1 + rows.length := by
      rw [List.length_cons]
      omega
    rw [List.map_cons, hlength]
    refine corrections_cons.mpr ⟨ref, revision + 1, restored f rows, by simpa using href, ?_,
      hcorrections, ?_⟩
    · rcases hf.1 with hnone | ⟨hone, htype⟩
      · rw [ClaimEventStreamRow.revised_of_none hnone, candidate_of_lt (by omega), hrevision]
      · have hrev : (row.revised f).event.aggregateRev = 1 := by
          rw [ClaimEventStreamRow.revised_aggregateRev, hone]
          rfl
        by_cases hzero : revision = 0
        · subst hzero
          rw [candidate_of_lt (by omega), hrev]
        · -- a later event was an activation of a later generation
          obtain ⟨g, hg⟩ := Option.ne_none_iff_exists'.mp (hbefore hzero)
          rw [candidate, if_neg (by omega), if_pos]
          refine ⟨by simpa using htype, hrev, ?_⟩
          simpa [hg] using hgeneration htype g hg
    · unfold restored
      rcases hf.1 with hnone | ⟨hone, htype⟩
      · simp [hnone, ClaimEventStreamRow.revised_of_none, hrevision]
      · by_cases hzero : revision = 0
        · simp [hone, hzero, hrevision, ClaimEventStreamRow.revised_aggregateRev]
        · simp [hone, hzero, hrevision, ClaimEventStreamRow.revised_aggregateRev]

theorem legacyRevision_cases {row : ClaimEventStreamRow} (hrow : row ∈ t.stream) :
    legacyRevision lost t row.eventId = none ∨
      legacyRevision lost t row.eventId = some 1 ∧ row.event.type = .claimActivated := by
  unfold legacyRevision
  split_ifs with h
  · obtain ⟨-, row', hrow', hid, htype⟩ := h
    rw [Table.eq_of_key stream_eventId_isKey hrow' hrow hid] at htype
    exact .inr ⟨rfl, htype⟩
  · exact .inl rfl

/-- What the repair finds in a history that lost revisions. -/
theorem Legal.corrections (h : Legal t) (hhistory : history ∈ t.histories) :
    corrections 0 none (history.map (ClaimEventStreamRow.revised (legacyRevision lost t))) =
      .ok (restored (legacyRevision lost t) history, history.length) := by
  have hcases : ∀ row ∈ history, legacyRevision lost t row.eventId = none ∨
      legacyRevision lost t row.eventId = some 1 ∧ row.event.type = .claimActivated :=
    fun row hrow => legacyRevision_cases (Tables.mem_of_histories hhistory hrow)
  have hcorrections := corrections_of_proceeds (h.proceeds history hhistory)
    (fun hne => absurd rfl hne) hcases
  rwa [Nat.zero_add] at hcorrections

theorem mem_legacy_histories {rows : List ClaimEventStreamRow} : rows ∈ (t.legacy lost).histories ↔
    ∃ history ∈ t.histories,
      history.map (ClaimEventStreamRow.revised (legacyRevision lost t)) = rows := by
  rw [Tables.legacy, Tables.histories_revised, List.mem_map]

/-- A change the repair makes gives an event the revision it had. -/
theorem Legal.lostRevisions (h : Legal t) : change ∈ (t.legacy lost).lostRevisions ↔
    ∃ row ∈ t.stream, ((legacyRevision lost t row.eventId).isSome && row.event.aggregateRev != 1) =
      true ∧ (row.revised (legacyRevision lost t), row.event.aggregateRev) = change := by
  simp only [Tables.mem_lostRevisions, mem_legacy_histories]
  constructor
  · rintro ⟨_, ⟨history, hhistory, rfl⟩, hchange⟩
    rw [changesOf_eq (h.corrections hhistory), restored, List.mem_map] at hchange
    obtain ⟨row, hrow, rfl⟩ := hchange
    obtain ⟨hrow, hlost⟩ := List.mem_filter.mp hrow
    exact ⟨row, Tables.mem_of_histories hhistory hrow, hlost, rfl⟩
  · rintro ⟨row, hrow, hlost, rfl⟩
    have hhistory : t.claimEventRows.filter (·.aggregate = row.aggregate) ∈ t.histories :=
      Tables.mem_histories.mpr ⟨row, hrow, rfl⟩
    refine ⟨_, ⟨_, hhistory, rfl⟩, ?_⟩
    rw [changesOf_eq (h.corrections hhistory), restored]
    refine List.mem_map_of_mem (List.mem_filter.mpr ⟨?_, hlost⟩)
    exact List.mem_filter.mpr ⟨Tables.mem_claimEventRows.mpr hrow, by simp⟩

/-- The revisions there are after the repair are those there were before the fault. -/
theorem Legal.revisions {x : EventId} {r : Nat} (h : Legal t)
    (hr : (assign (fun _ => none) (t.legacy lost).lostRevisions x).or (legacyRevision lost t x) =
      some r) : ∃ row ∈ t.stream, row.eventId = x ∧ r = row.event.aggregateRev := by
  cases hassigned : assign (fun _ => none) (t.legacy lost).lostRevisions x with
  | some r' =>
    rw [hassigned, Option.some_or] at hr
    rcases assign_eq_some hassigned with ⟨change, hchange, hid, hrevision⟩ | hnone
    · obtain ⟨row, hrow, -, rfl⟩ := h.lostRevisions.mp hchange
      exact ⟨row, hrow, by simpa using hid, by rw [← Option.some.inj hr, ← hrevision]⟩
    · cases hnone
  | none =>
    rw [hassigned, Option.none_or] at hr
    -- the fault left 1, and the repair did not have to change it
    have hlost := hr
    unfold legacyRevision at hlost
    split_ifs at hlost with hcond
    obtain ⟨-, row, hrow, rfl, -⟩ := hcond
    refine ⟨row, hrow, rfl, ?_⟩
    by_contra hne
    have hchange : (row.revised (legacyRevision lost t), row.event.aggregateRev) ∈
        (t.legacy lost).lostRevisions := by
      refine h.lostRevisions.mpr ⟨row, hrow, ?_, rfl⟩
      have hone := Option.some.inj hlost
      simp only [hr, Option.isSome_some, Bool.true_and, bne_iff_ne, ne_eq]
      omega
    have hfound := assign_of_mem (f := fun _ => none) Tables.distinct_lostRevisions hchange
    rw [ClaimEventStreamRow.revised_eventId, hassigned] at hfound
    cases hfound

/-- **The repair gives a legal store that lost revisions back as it was.** -/
theorem Legal.repaired (h : Legal t) (lost : EventId → Bool) :
    Commits repairClaimRevisions (t.legacy lost) (t.legacy lost).lostRevisions.length t := by
  refine commits_repairClaimRevisions.mpr ⟨fun rows hrows => ?_, rfl, ?_⟩
  · obtain ⟨history, hhistory, rfl⟩ := mem_legacy_histories.mp hrows
    refine ⟨_, _, h.corrections hhistory, fun _ => ⟨?_, fun change hchange => ?_⟩⟩
    · obtain ⟨ref, href, claim, hclaim, hrevision⟩ := h.claim history hhistory
      refine ⟨ref, claim, ?_, hclaim, hrevision⟩
      rw [List.getLast?_map, Option.bind_map]
      simpa [Function.comp_def] using href
    · obtain ⟨row, hrow, rfl⟩ := List.mem_map.mp hchange
      obtain ⟨o, ho, hevent, -⟩ := h.copied row
        (Tables.mem_of_histories hhistory (List.mem_filter.mp hrow).1)
      have hid : o.eventId = row.eventId := Table.get_key ho
      refine ⟨o.revised (legacyRevision lost t), ?_, ?_⟩
      · show (t.outbox.map _ (OutboxRow.revised_keeps (legacyRevision lost t))).get _ _ = _
        rw [Table.get_map fun _ => OutboxRow.revised_eventId]
        simp only [ClaimEventStreamRow.revised_eventId]
        rw [Option.mem_def.mp ho, Option.map_some]
      · rw [OutboxRow.revised_event, ClaimEventStreamRow.revised_event, hid, hevent]
  · rw [Tables.legacy, Tables.revised_revised]
    refine (Tables.revised_self (fun row hrow => ?_) fun o ho => ?_).symm
    · refine ClaimEventStreamRow.revised_self fun r hr => ?_
      obtain ⟨row', hrow', hid, rfl⟩ := h.revisions hr
      rw [Table.eq_of_key stream_eventId_isKey hrow' hrow hid]
    · refine OutboxRow.revised_self fun r hr => ?_
      obtain ⟨row, hrow, hid, rfl⟩ := h.revisions hr
      obtain ⟨o', ho', hevent, hrevision⟩ := h.copied row hrow
      obtain ⟨homem, hoid⟩ := (Table.get_eq_some_iff outbox_eventId_isKey).mp ho'
      have hsame : o' = o := Table.eq_of_key outbox_eventId_isKey homem ho (hoid.trans hid)
      subst hsame
      exact ⟨by rw [hevent], hrevision.symm⟩

end Legacy

/-- **The repair restores exactly what was lost.** A store that Admission wrote is left as it
is. A store with legal histories, in which any of the activations lost their revision (where
`lost` is always true, all of them), is given back as it was before. A second repair does
nothing, and a repair that raises leaves the store as it was. -/
theorem repair_restores :
    (∀ authority t, Reachable authority t → Commits repairClaimRevisions t 0 t) ∧
    (∀ t lost, Legal t → ∃ n, Commits repairClaimRevisions (t.legacy lost) n t) ∧
    (∀ t n t', Commits repairClaimRevisions t n t' → Commits repairClaimRevisions t' 0 t') ∧
    ∀ t e, repairClaimRevisions t = .error e → attempt repairClaimRevisions t = t := by
  refine ⟨fun authority t h => commits_of_ascends (AdmissionAuthority.reachable_ascends h),
    fun t lost h => ⟨_, h.repaired lost⟩, fun t n t' h => repair_idempotent h, fun t e h => ?_⟩
  rw [attempt, h]

/-- A device that was activated, revoked and activated again. -/
def Sample.rejoined : Tables := Sample.after (Sample.handoff "e" "k" ++
  [Sample.ack "e" 1, Sample.revoke "revoke" "k" 1] ++ Sample.handoff "f" "k" ++ [Sample.ack "f" 2])

theorem Sample.rejoined_legal : Legal Sample.rejoined where
  proceeds := by decide +kernel
  claim := by decide +kernel
  copied := by decide +kernel

/-- The second activation of the device had lost its revision 3. -/
theorem repair_restores_rejoined :
    Sample.rejoined.legacy (fun _ => true) ≠ Sample.rejoined ∧
    (∃ n, Commits repairClaimRevisions (Sample.rejoined.legacy fun _ => true) n Sample.rejoined) ∧
    Commits repairClaimRevisions Sample.rejoined 0 Sample.rejoined := by
  refine ⟨fun h => ?_, repair_restores.2.1 _ _ Sample.rejoined_legal,
    repair_restores.1 _ _ (Sample.after_reachable _)⟩
  have hrevisions := congrArg (fun t => t.stream.rows.map (·.event.aggregateRev)) h
  revert hrevisions
  decide +kernel

end EidolonHub.Admission
