import EidolonHub.Admission.Application
import EidolonHub.Library.Keyset
import Mathlib.Data.Prod.Lex
import Mathlib.Data.String.Basic

/-!
# EidolonHub.Admission.Listings

**The lists of Proposals and Claims, page by page.** A page holds the rows after a cursor, by
time and then by id. A Claim moves up whenever it is updated; a Proposal stays where it was
created.

Time and id are one key, and no two rows share it. So the pages are those of
`Library.Keyset`, and a row that stays as it is comes back exactly once, whatever happens to
the others (`listings_complete`).
-/

namespace EidolonHub.Admission

open EidolonHub.Library EidolonHub.Library.Tx

/-! ### The queries of the store -/

/-- `or_(column > sort_key, and_(column == sort_key, id > resource_id))`, and no condition
without a cursor. -/
def afterCursor (cursor : Option (Timestamp × String)) (sortKey : Timestamp) (resourceId : String) : Bool :=
  match cursor with
  | none => true
  | some (key, id) => key < sortKey ∨ sortKey = key ∧ id < resourceId

/-- The rows of one page: those the query selects, after the cursor, by time and id. -/
def listRows {ρ : Type} (sortKey : ρ → Timestamp) (resourceId : ρ → String) (rows : List ρ)
    (selected : ρ → Bool) (cursor : Option (Timestamp × String)) (limit : Nat) : List ρ :=
  ((rows.filter fun r => selected r && afterCursor cursor (sortKey r) (resourceId r)).insertionSort
    fun r s => sortKey r < sortKey s ∨ sortKey r = sortKey s ∧ resourceId r ≤ resourceId s).take limit

namespace Tables

variable (t : Tables)

/-- `list_proposals`: the Proposals of an Owner Domain in these states, by the time they were made. -/
def listProposals (ownerDomainId : OwnerDomainId) (states : List ProposalState)
    (cursor : Option (Timestamp × String)) (limit : Nat) : List ProposalRow :=
  listRows (·.createdAt) (·.enrollmentId) t.proposals.rows
    (fun r => r.requestedOwnerDomainId = ownerDomainId ∧ r.state ∈ states) cursor limit

/-- `list_claims`: the Claims of an Owner in these states, by the time of their last change. -/
def listClaims (ownerDomainId : OwnerDomainId) (businessOwnerId : BusinessOwnerId)
    (states : List ClaimState) (cursor : Option (Timestamp × String)) (limit : Nat) : List ClaimRow :=
  listRows (·.updatedAt) (·.deviceInstanceId) t.claims.rows
    (fun r => r.ownerDomainId = ownerDomainId ∧ r.businessOwnerId = businessOwnerId ∧ r.state ∈ states)
    cursor limit

end Tables

/-! ### The pages -/

/-- `AdmissionListCursor`. -/
structure AdmissionListCursor where
  ownerDomainId : OwnerDomainId
  sortKey : Timestamp
  resourceId : String
  deriving DecidableEq

/-- The place in a listing that a cursor stands for. -/
def AdmissionListCursor.position (cursor : AdmissionListCursor) : Timestamp × String :=
  (cursor.sortKey, cursor.resourceId)

/-- `EnrollmentProposalPage` and `ClaimPage`. -/
structure ListPage (ι : Type) where
  ownerDomainId : OwnerDomainId
  items : List ι
  nextCursor : Option AdmissionListCursor
  observedAt : Timestamp

/-- Whose Proposals are listed, in which states, from where on, and how many. -/
structure EnrollmentProposalQuery where
  ownerDomainId : OwnerDomainId
  states : List ProposalState
  cursor : Option AdmissionListCursor
  limit : Nat

/-- Whose Claims are listed, in which states, from where on, and how many. -/
structure ClaimQuery where
  ownerDomainId : OwnerDomainId
  states : List ClaimState
  cursor : Option AdmissionListCursor
  limit : Nat

/-- `EnrollmentProposal`. -/
structure EnrollmentProposal where
  enrollmentId : EnrollmentId
  proposalRevision : Nat
  state : ProposalState
  deviceInstanceCandidateId : DeviceInstanceId
  requestedOwnerDomainId : OwnerDomainId
  hardwareEvidenceDigest : String
  manifestRef : ManifestRef
  handoffKeyId : KeyId
  createdAt : Timestamp
  expiresAt : Timestamp
  deriving DecidableEq

/-- `ClaimRecord`. -/
structure ClaimRecord where
  deviceRef : DeviceRef
  businessOwnerId : BusinessOwnerId
  manifestRef : ManifestRef
  state : ClaimState
  revision : Nat
  updatedAt : Timestamp
  deriving DecidableEq

/-- `GrantDeliveryRecord`, acknowledged where it has a time for that. -/
structure GrantDeliveryRecord where
  grantId : GrantId
  approvalDecisionId : DecisionId
  deliveredAt : Timestamp
  acknowledgedAt : Option Timestamp
  deriving DecidableEq

/-- `EnrollmentRecoveryProjection`. -/
structure EnrollmentRecoveryProjection where
  commissioningProofDigest : String
  proposal : EnrollmentProposal
  approvalDecision : Option ApprovalDecision
  grantDelivery : Option GrantDeliveryRecord
  claim : Option ClaimRecord
  sourceRevision : Nat
  observedAt : Timestamp

/-- `_proposal`. -/
def ProposalRow.proposal (row : ProposalRow) (contentRevision : Nat) : EnrollmentProposal where
  enrollmentId := row.enrollmentId
  proposalRevision := contentRevision
  state := row.state
  deviceInstanceCandidateId := row.deviceInstanceId
  requestedOwnerDomainId := row.requestedOwnerDomainId
  hardwareEvidenceDigest := row.hardwareEvidenceDigest
  manifestRef := ⟨row.manifestId, row.manifestRevision, row.manifestDigest⟩
  handoffKeyId := row.handoffKeyId
  createdAt := row.createdAt
  expiresAt := row.expiresAt

/-- `_claim`. -/
def ClaimRow.record (row : ClaimRow) : ClaimRecord where
  deviceRef := row.deviceRef
  businessOwnerId := row.businessOwnerId
  manifestRef := row.manifestRef
  state := row.state
  revision := row.revision
  updatedAt := row.updatedAt

/-- The Claim of an enrollment: of its decision, generation and domain. -/
def Tables.claimOf (t : Tables) (proposal : ProposalRow) (grant : GrantRow) : Option ClaimRow :=
  (t.claims.get (·.deviceInstanceId) proposal.deviceInstanceId).filter fun claim =>
    claim.approvalDecisionId = grant.decisionId ∧ claim.claimGeneration = grant.claimGeneration ∧
      claim.ownerDomainId = grant.ownerDomainId

/-- `_recovery_projection`. -/
def Tables.recoveryProjection (t : Tables) (now : Timestamp) (proposal : ProposalRow) :
    EnrollmentRecoveryProjection :=
  let decision := t.decisions.get (·.enrollmentId) proposal.enrollmentId
  let grant := t.grants.get (·.enrollmentId) proposal.enrollmentId
  let ack := t.acks.get (·.enrollmentId) proposal.enrollmentId
  { commissioningProofDigest := proposal.commissioningProofDigest
    proposal := proposal.proposal ((decision.map (·.expectedProposalRevision)).getD 1)
    approvalDecision := decision.map AdmissionAuthority.approvalDecision
    grantDelivery := grant.bind fun grant => grant.deliveredAt.map fun deliveredAt => {
      grantId := grant.grantId
      approvalDecisionId := grant.decisionId
      deliveredAt
      acknowledgedAt := ack.map (·.acknowledgedAt) }
    claim := (grant.bind (t.claimOf proposal)).map ClaimRow.record
    sourceRevision := proposal.revision
    observedAt := now }

/-- The cursor after a page: the position of the last row of a full one. -/
def pageCursor {ρ : Type} (ownerDomainId : OwnerDomainId) (sortKey : ρ → Timestamp)
    (resourceId : ρ → String) (limit : Nat) (rows : List ρ) : Option AdmissionListCursor :=
  if rows.length = limit then
    rows.getLast?.map fun last => ⟨ownerDomainId, sortKey last, resourceId last⟩
  else none

/-- `list_enrollment_recovery`, once the due Proposals have expired. -/
def listEnrollmentRecovery (query : EnrollmentProposalQuery) (context : ActorContext)
    (now : Timestamp) (t : Tables) : Except HubError (ListPage EnrollmentRecoveryProjection) := do
  context.requireScope approveScope
  if query.ownerDomainId ≠ context.ownerDomainId then throw (missing "enrollments not found")
  let rows := t.listProposals context.ownerDomainId query.states
    (query.cursor.map AdmissionListCursor.position) query.limit
  return {
    ownerDomainId := context.ownerDomainId
    items := rows.map (t.recoveryProjection now)
    nextCursor := pageCursor context.ownerDomainId (·.createdAt) (·.enrollmentId) query.limit rows
    observedAt := now }

/-- The scope that reads listings. -/
def readScope : String := "device.read"

/-- `list_claims`. -/
def listClaims (query : ClaimQuery) (context : ActorContext) (now : Timestamp) (t : Tables) :
    Except HubError (ListPage ClaimRecord) := do
  context.requireScope readScope
  if query.ownerDomainId ≠ context.ownerDomainId then
    return { ownerDomainId := context.ownerDomainId, items := [], nextCursor := none, observedAt := now }
  let rows := t.listClaims context.ownerDomainId context.businessOwnerId query.states
    (query.cursor.map AdmissionListCursor.position) query.limit
  return {
    ownerDomainId := context.ownerDomainId
    items := rows.map ClaimRow.record
    nextCursor := pageCursor context.ownerDomainId (·.updatedAt) (·.deviceInstanceId) query.limit rows
    observedAt := now }

/-! ### Following the cursor -/

/-- A caller that asks for one page after the other. -/
structure Reader (ι : Type) where
  items : List ι := []
  cursor : Option AdmissionListCursor := none
  ended : Bool := false
  failure : Option HubError := none

/-- The next page, from the tables as they are when it is read. -/
def Reader.step {ι : Type}
    (fetch : Option AdmissionListCursor → Timestamp → Tables → Except HubError (ListPage ι))
    (reader : Reader ι) (read : Tables × Timestamp) : Reader ι :=
  if reader.ended then reader
  else
    match fetch reader.cursor read.2 read.1 with
    | .error failure => { reader with ended := true, failure := some failure }
    | .ok page => { reader with
        items := reader.items ++ page.items
        cursor := page.nextCursor
        ended := page.nextCursor.isNone }

/-- What comes back when the pages are read from these tables, in this order. -/
def EnrollmentProposalQuery.follow (query : EnrollmentProposalQuery) (context : ActorContext)
    (reads : List (Tables × Timestamp)) : Reader EnrollmentRecoveryProjection :=
  run (Reader.step fun cursor => listEnrollmentRecovery { query with cursor } context) {} reads

/-- A reader that asks page after page, each time at the tables as they are then. -/
def ClaimQuery.follow (query : ClaimQuery) (context : ActorContext) (reads : List (Tables × Timestamp)) :
    Reader ClaimRecord :=
  run (Reader.step fun cursor => listClaims { query with cursor } context) {} reads

/-! ### Pages as pages of keys -/

/-- Time and id as one key. -/
abbrev ListKey := Lex (Timestamp × String)

/-- The place of a cursor, in the order of the listing. -/
def AdmissionListCursor.key (cursor : AdmissionListCursor) : ListKey := toLex cursor.position

section Keys

variable {ρ ι : Type} {sortKey : ρ → Timestamp} {resourceId : ρ → String} {rows : List ρ}
  {selected : ρ → Bool} {limit : Nat}

theorem afterCursor_eq (cursor : Option (Timestamp × String)) (sortKey : Timestamp) (resourceId : String) :
    afterCursor cursor sortKey resourceId =
      Keyset.after (cursor.map toLex) (toLex (sortKey, resourceId)) := by
  cases cursor with
  | none => rfl
  | some position =>
    simp only [afterCursor, Keyset.after, Option.map_some, Prod.Lex.toLex_lt_toLex, eq_comm]

/-- The rows by time and id are the keys in order. -/
theorem map_insertionSort_key (rows : List ρ) :
    (rows.insertionSort fun r s => sortKey r < sortKey s ∨
        sortKey r = sortKey s ∧ resourceId r ≤ resourceId s).map
          (fun r => (toLex (sortKey r, resourceId r) : ListKey)) =
      (rows.map fun r => (toLex (sortKey r, resourceId r) : ListKey)).insertionSort (· ≤ ·) := by
  refine List.map_insertionSort _ _ _ _ fun r _ s _ => ?_
  rw [Prod.Lex.toLex_le_toLex]

/-- The keys of a page are the page of the keys. -/
theorem listRows_keys (cursor : Option (Timestamp × String)) :
    (listRows sortKey resourceId rows selected cursor limit).map
        (fun r => (toLex (sortKey r, resourceId r) : ListKey)) =
      Keyset.page ((rows.filter selected).map fun r => toLex (sortKey r, resourceId r))
        (cursor.map toLex) limit := by
  unfold listRows Keyset.page
  rw [List.map_take, map_insertionSort_key, List.filter_map, List.filter_filter]
  simp only [Function.comp_def, afterCursor_eq, Bool.and_comm]

theorem pageCursor_key (ownerDomainId : OwnerDomainId) :
    (pageCursor ownerDomainId sortKey resourceId limit rows).map AdmissionListCursor.key =
      Keyset.nextCursor limit (rows.map fun r => (toLex (sortKey r, resourceId r) : ListKey)) := by
  unfold pageCursor Keyset.nextCursor
  rw [List.length_map, List.getLast?_map]
  split
  · rw [Option.map_map]
    rfl
  · rfl

theorem eq_singleton_of_strict {key : ι → ListKey} {items : List ι}
    (hstrict : items.Pairwise fun x y => key x < key y) {item : ι} (hitem : item ∈ items)
    (hkey : ∀ other ∈ items, key other = key item) : items = [item] := by
  cases hstrict with
  | nil => exact absurd hitem List.not_mem_nil
  | @cons x xs hx _ =>
    have hxs : xs = [] := by
      refine List.eq_nil_iff_forall_not_mem.mpr fun y hy => ?_
      have hlt := hx y hy
      rw [hkey x List.mem_cons_self, hkey y (List.mem_cons_of_mem x hy)] at hlt
      exact lt_irrefl _ hlt
    subst hxs
    rw [List.mem_singleton.mp hitem]

end Keys

/-! ### A listing -/

/-- A list that is read by pages: the rows it is about, and what a caller is handed of one. -/
structure Listing (ρ ι : Type) where
  rows : Tables → List ρ
  selected : ρ → Bool
  sortKey : ρ → Timestamp
  resourceId : ρ → String
  item : Tables × Timestamp → ρ → ι
  itemKey : ι → ListKey
  limit : Nat
  fetch : Option AdmissionListCursor → Timestamp → Tables → Except HubError (ListPage ι)

namespace Listing

variable {ρ ι : Type} (listing : Listing ρ ι)

/-- The place of a row, in the order of the listing: the time first, then the resource. -/
def key (r : ρ) : ListKey := toLex (listing.sortKey r, listing.resourceId r)

/-- The keys of the selected rows. -/
def keys (t : Tables) : List ListKey := ((listing.rows t).filter listing.selected).map listing.key

/-- The rows of a page. -/
def page (cursor : Option AdmissionListCursor) (t : Tables) : List ρ :=
  listRows listing.sortKey listing.resourceId (listing.rows t) listing.selected
    (cursor.map AdmissionListCursor.position) listing.limit

/-- A page is what the query selects, and its cursor is the position of its last row. -/
structure Faithful : Prop where
  /-- No two rows have an id in common. -/
  ids : ∀ t, ((listing.rows t).map listing.resourceId).Nodup
  itemKey : ∀ read r, listing.itemKey (listing.item read r) = listing.key r
  fetch : ∀ cursor now t, ∃ ownerDomainId observedAt, listing.fetch cursor now t = .ok {
    ownerDomainId
    items := (listing.page cursor t).map (listing.item (t, now))
    nextCursor := pageCursor ownerDomainId listing.sortKey listing.resourceId listing.limit
      (listing.page cursor t)
    observedAt }

/-- A reader of the listing that asks page after page. -/
def follow (reads : List (Tables × Timestamp)) : Reader ι := run (Reader.step listing.fetch) {} reads

theorem follow_concat (reads : List (Tables × Timestamp)) (read : Tables × Timestamp) :
    listing.follow (reads ++ [read]) = (listing.follow reads).step listing.fetch read :=
  run_concat ..

/-- What was handed out under an id. -/
def handedOut (reader : Reader ι) (resourceId : String) : List ι :=
  reader.items.filter fun item => (ofLex (listing.itemKey item)).2 = resourceId

/-- **What it is to list by pages completely**, for every sequence of table contents. -/
structure Complete : Prop where
  /-- The items come by time and id, and none comes twice. -/
  ordered : ∀ reads, ((listing.follow reads).items.map listing.itemKey).Pairwise (· < ·)
  /-- Nothing comes that is not a selected row. -/
  selected : ∀ reads, ∀ item ∈ (listing.follow reads).items, ∃ read ∈ reads, ∃ r ∈ listing.rows read.1,
    listing.selected r = true ∧ item = listing.item read r
  /-- A row that stays as it is has come exactly once when the listing has ended. -/
  once : ∀ reads r, (∀ read ∈ reads, r ∈ listing.rows read.1) → listing.selected r = true →
    (listing.follow reads).ended = true →
      ∃ read ∈ reads, listing.handedOut (listing.follow reads) (listing.resourceId r) =
        [listing.item read r]
  /-- It ends, once nothing changes any more. -/
  ends : ∀ reads t (nows : List Timestamp), (listing.rows t).length < nows.length →
    (listing.follow (reads ++ nows.map (t, ·))).ended = true

variable {listing}

theorem Faithful.keys_nodup (h : listing.Faithful) (t : Tables) : (listing.keys t).Nodup := by
  have hsublist : ((listing.rows t).filter listing.selected).Sublist (listing.rows t) :=
    List.filter_sublist
  have hids := (hsublist.map listing.resourceId).nodup (h.ids t)
  refine List.Nodup.of_map (fun k : ListKey => (ofLex k).2) ?_
  rwa [keys, List.map_map]

/-- The caller's pages are the pages of the keys. -/
structure Lists (listing : Listing ρ ι) (reader : Reader ι) (lister : Keyset.Lister ListKey) : Prop where
  items : reader.items.map listing.itemKey = lister.returned
  cursor : reader.cursor.map AdmissionListCursor.key = lister.cursor
  ended : reader.ended = lister.ended

theorem Faithful.lists_step (h : listing.Faithful) {reader : Reader ι}
    {lister : Keyset.Lister ListKey} (hlists : listing.Lists reader lister) (read : Tables × Timestamp) :
    listing.Lists (reader.step listing.fetch read) (lister.step listing.limit (listing.keys read.1)) := by
  unfold Reader.step Keyset.Lister.step
  rw [hlists.ended]
  split
  · exact hlists
  · obtain ⟨ownerDomainId, observedAt, hfetch⟩ := h.fetch reader.cursor read.2 read.1
    have hkeys : (listing.page reader.cursor read.1).map listing.key =
        Keyset.page (listing.keys read.1) lister.cursor listing.limit := by
      rw [← hlists.cursor]
      refine (listRows_keys _).trans ?_
      rw [Option.map_map]
      rfl
    have hnext : (pageCursor ownerDomainId listing.sortKey listing.resourceId listing.limit
        (listing.page reader.cursor read.1)).map AdmissionListCursor.key =
          Keyset.nextCursor listing.limit
            (Keyset.page (listing.keys read.1) lister.cursor listing.limit) := by
      rw [← hkeys]
      exact pageCursor_key ownerDomainId
    simp only [hfetch]
    refine ⟨?_, hnext, ?_⟩
    · simp only [List.map_append, hlists.items, List.map_map, ← hkeys]
      refine congrArg _ (List.map_congr_left fun r _ => h.itemKey _ r)
    · rw [← hnext, Option.isNone_map]

theorem Faithful.lists (h : listing.Faithful) (reads : List (Tables × Timestamp)) :
    listing.Lists (listing.follow reads)
      (run (Keyset.Lister.step listing.limit) {} (reads.map fun read => listing.keys read.1)) := by
  induction reads using List.reverseRec with
  | nil => exact ⟨rfl, rfl, rfl⟩
  | append_singleton reads read ih =>
    rw [follow_concat, List.map_append, List.map_singleton, run_concat]
    exact h.lists_step ih read

theorem Faithful.selected (h : listing.Faithful) (reads : List (Tables × Timestamp)) :
    ∀ item ∈ (listing.follow reads).items, ∃ read ∈ reads, ∃ r ∈ listing.rows read.1,
      listing.selected r = true ∧ item = listing.item read r := by
  induction reads using List.reverseRec with
  | nil => exact fun _ hitem => absurd hitem List.not_mem_nil
  | append_singleton reads read ih =>
    have hbefore : ∀ item ∈ (listing.follow reads).items, ∃ read' ∈ reads ++ [read],
        ∃ r ∈ listing.rows read'.1, listing.selected r = true ∧ item = listing.item read' r := by
      intro item hitem
      obtain ⟨read', hread', hrow⟩ := ih item hitem
      exact ⟨read', List.mem_append_left _ hread', hrow⟩
    intro item hitem
    rw [follow_concat] at hitem
    unfold Reader.step at hitem
    split at hitem
    · exact hbefore item hitem
    · obtain ⟨ownerDomainId, observedAt, hfetch⟩ :=
        h.fetch (listing.follow reads).cursor read.2 read.1
      simp only [hfetch] at hitem
      rcases List.mem_append.mp hitem with hitem | hitem
      · exact hbefore item hitem
      · obtain ⟨r, hr, rfl⟩ := List.mem_map.mp hitem
        have hrow := List.mem_filter.mp ((List.mem_insertionSort ..).mp (List.mem_of_mem_take hr))
        rw [Bool.and_eq_true] at hrow
        exact ⟨read, List.mem_append_right _ (List.mem_singleton_self read), r, hrow.1, hrow.2.1, rfl⟩

/-- Whatever came under the id of a row that stays as it is, is that row. -/
theorem Faithful.of_id (h : listing.Faithful) {reads : List (Tables × Timestamp)} {r : ρ}
    (hr : ∀ read ∈ reads, r ∈ listing.rows read.1) {item : ι}
    (hitem : item ∈ (listing.follow reads).items)
    (hid : (ofLex (listing.itemKey item)).2 = listing.resourceId r) :
    ∃ read ∈ reads, item = listing.item read r := by
  obtain ⟨read, hread, r', hr', -, rfl⟩ := h.selected reads item hitem
  rw [h.itemKey] at hid
  have heq : r' = r := List.inj_on_of_nodup_map (h.ids read.1) hr' (hr read hread) hid
  exact ⟨read, hread, by rw [heq]⟩

theorem Faithful.handedOut_once (h : listing.Faithful) {reads : List (Tables × Timestamp)} {r : ρ}
    (hsound : (run (Keyset.Lister.step listing.limit) ({} : Keyset.Lister ListKey)
      (reads.map fun read => listing.keys read.1)).Sound (reads.map fun read => listing.keys read.1))
    (hr : ∀ read ∈ reads, r ∈ listing.rows read.1) (hselected : listing.selected r = true)
    (hended : (listing.follow reads).ended = true) :
    ∃ read ∈ reads, listing.handedOut (listing.follow reads) (listing.resourceId r) =
      [listing.item read r] := by
  have hlists := h.lists reads
  have hkey : listing.key r ∈ (listing.follow reads).items.map listing.itemKey := by
    rw [hlists.items]
    refine hsound.complete _ ?_ (.inl (hlists.ended.symm.trans hended))
    intro ks hks
    obtain ⟨read, hread, rfl⟩ := List.mem_map.mp hks
    exact List.mem_map.mpr ⟨r, List.mem_filter.mpr ⟨hr read hread, hselected⟩, rfl⟩
  obtain ⟨item, hitem, hitemKey⟩ := List.mem_map.mp hkey
  have hid : (ofLex (listing.itemKey item)).2 = listing.resourceId r := by
    rw [hitemKey]
    rfl
  obtain ⟨read, hread, rfl⟩ := h.of_id hr hitem hid
  refine ⟨read, hread, ?_⟩
  -- all that came under this id has one key, and no key comes twice
  have hstrict : ((listing.follow reads).items.map listing.itemKey).Pairwise (· < ·) := by
    rw [hlists.items]
    exact hsound.strict
  have hmem : listing.item read r ∈ listing.handedOut (listing.follow reads) (listing.resourceId r) :=
    List.mem_filter.mpr ⟨hitem, decide_eq_true hid⟩
  refine eq_singleton_of_strict ((List.pairwise_map.mp hstrict).filter _) hmem ?_
  intro other hother
  obtain ⟨hother, hotherId⟩ := List.mem_filter.mp hother
  obtain ⟨read', -, rfl⟩ := h.of_id hr hother (of_decide_eq_true hotherId)
  rw [h.itemKey, h.itemKey]

/-- **A faithful listing is complete.** -/
theorem Faithful.complete (h : listing.Faithful) (hlimit : 0 < listing.limit) : listing.Complete := by
  have hsound : ∀ reads : List (Tables × Timestamp), (run (Keyset.Lister.step listing.limit)
      ({} : Keyset.Lister ListKey) (reads.map fun read => listing.keys read.1)).Sound
        (reads.map fun read => listing.keys read.1) := by
    intro reads
    refine Keyset.sound_run hlimit fun ks hks => ?_
    obtain ⟨read, -, rfl⟩ := List.mem_map.mp hks
    exact h.keys_nodup read.1
  refine ⟨?_, h.selected, ?_, ?_⟩
  · intro reads
    rw [(h.lists reads).items]
    exact (hsound reads).strict
  · intro reads r hr hselected hended
    exact h.handedOut_once (hsound reads) hr hselected hended
  · intro reads t nows hnows
    rw [(h.lists _).ended, List.map_append, run_append, List.map_map]
    have hreplicate : nows.map (fun _ => listing.keys t) = List.replicate nows.length (listing.keys t) :=
      List.map_const' ..
    have hcontents : nows.map ((fun read : Tables × Timestamp => listing.keys read.1) ∘ (t, ·)) =
        List.replicate nows.length (listing.keys t) := hreplicate
    rw [hcontents]
    refine Keyset.Lister.ends (Nat.le_trans Keyset.Lister.left_le ?_)
    have hlength : (listing.keys t).length ≤ (listing.rows t).length := by
      rw [keys, List.length_map]
      exact List.length_filter_le ..
    omega

/-! ### Proposals and Claims -/

/-- The Proposals of a domain, for who may approve them. -/
def proposals (query : EnrollmentProposalQuery) (context : ActorContext) :
    Listing ProposalRow EnrollmentRecoveryProjection where
  rows t := t.proposals.rows
  selected r := r.requestedOwnerDomainId = context.ownerDomainId ∧ r.state ∈ query.states
  sortKey := (·.createdAt)
  resourceId := (·.enrollmentId)
  item read := read.1.recoveryProjection read.2
  itemKey item := toLex (item.proposal.createdAt, item.proposal.enrollmentId)
  limit := query.limit
  fetch cursor := listEnrollmentRecovery { query with cursor } context

/-- The Claims of an owner; none where another domain is asked about. -/
def claims (query : ClaimQuery) (context : ActorContext) : Listing ClaimRow ClaimRecord where
  rows t := t.claims.rows
  selected r := query.ownerDomainId = context.ownerDomainId ∧ r.ownerDomainId = context.ownerDomainId ∧
    r.businessOwnerId = context.businessOwnerId ∧ r.state ∈ query.states
  sortKey := (·.updatedAt)
  resourceId := (·.deviceInstanceId)
  item _ := ClaimRow.record
  itemKey item := toLex (item.updatedAt, item.deviceRef.deviceInstanceId)
  limit := query.limit
  fetch cursor := listClaims { query with cursor } context

theorem proposals_faithful {query : EnrollmentProposalQuery} {context : ActorContext}
    (hscope : approveScope ∈ context.actor.grantedScopes)
    (hdomain : query.ownerDomainId = context.ownerDomainId) : (proposals query context).Faithful where
  ids t := t.proposals.keys_nodup proposal_enrollmentId_isKey
  itemKey _ _ := rfl
  fetch cursor now t := by
    have hallowed : context.requireScope approveScope = .ok () := if_pos hscope
    have hasked : ¬query.ownerDomainId ≠ context.ownerDomainId := not_not_intro hdomain
    refine ⟨context.ownerDomainId, now, ?_⟩
    simp only [proposals, listEnrollmentRecovery, hallowed, if_neg hasked]
    rfl

theorem claims_faithful {query : ClaimQuery} {context : ActorContext}
    (hscope : readScope ∈ context.actor.grantedScopes) (hlimit : 0 < query.limit) :
    (claims query context).Faithful where
  ids t := t.claims.keys_nodup claim_deviceInstanceId_isKey
  itemKey _ _ := rfl
  fetch cursor now t := by
    have hallowed : context.requireScope readScope = .ok () := if_pos hscope
    refine ⟨context.ownerDomainId, now, ?_⟩
    by_cases hdomain : query.ownerDomainId = context.ownerDomainId
    · have hasked : ¬query.ownerDomainId ≠ context.ownerDomainId := not_not_intro hdomain
      have hpage : (claims query context).page cursor t = t.listClaims context.ownerDomainId
          context.businessOwnerId query.states (cursor.map AdmissionListCursor.position) query.limit := by
        simp only [claims, page, Tables.listClaims, hdomain, true_and]
      rw [hpage]
      simp only [claims, listClaims, hallowed, if_neg hasked]
      rfl
    · -- the domain of someone else has no rows for this caller
      have hnone : (claims query context).page cursor t = [] := by
        simp [claims, page, listRows, hdomain]
      have hlast : pageCursor context.ownerDomainId (claims query context).sortKey
          (claims query context).resourceId (claims query context).limit [] = none :=
        if_neg (Nat.ne_of_lt hlimit)
      rw [hnone, hlast]
      simp only [claims, listClaims, hallowed, if_pos hdomain]
      rfl

end Listing

/-- **Proposals and Claims are listed completely**: whatever the tables hold when each page is
read, by time and id, exactly once. -/
theorem listings_complete :
    (∀ query context, 0 < query.limit → approveScope ∈ context.actor.grantedScopes →
      query.ownerDomainId = context.ownerDomainId → (Listing.proposals query context).Complete) ∧
    ∀ query context, 0 < query.limit → readScope ∈ context.actor.grantedScopes →
      (Listing.claims query context).Complete := by
  constructor
  · intro query context hlimit hscope hdomain
    exact (Listing.proposals_faithful hscope hdomain).complete hlimit
  · intro query context hlimit hscope
    exact (Listing.claims_faithful hscope hlimit).complete hlimit

namespace Sample

/-- A Controller that may read and approve what is asked of its owner. -/
def reviewer : ActorContext where
  actor := ⟨"phone", "home", [approveScope, readScope], "software"⟩
  ownerDomainId := "home"
  businessOwnerId := "alice"
  actor_ownerDomainId := rfl

end Sample

theorem listings_complete_reviewer :
    (Listing.proposals ⟨"home", [.pendingReview], none, 1⟩ Sample.reviewer).Complete ∧
      (Listing.claims ⟨"home", [.active], none, 1⟩ Sample.reviewer).Complete :=
  ⟨listings_complete.1 _ _ Nat.one_pos (by decide) rfl, listings_complete.2 _ _ Nat.one_pos (by decide)⟩

end EidolonHub.Admission
