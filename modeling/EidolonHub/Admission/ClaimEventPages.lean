import EidolonHub.Admission.ClaimStream
import EidolonHub.Library.Pool
import Mathlib.Data.List.Sort

/-!
# EidolonHub.Admission.ClaimEventPages

**Following the Claim event stream page by page.** A page is put together from three
reads that share no transaction: the watermark, the row at the cursor, the rows after it.
Between them any other transaction may append.

Since rows are only appended, at the next position, a cursor that was handed out stays
inside the stream, and the rows after it are the next ones. The watermark is the older of
the two ends a page knows: a page that was read after an append may run past it.
-/

namespace EidolonHub.Admission

open EidolonHub.Library EidolonHub.Library.Tx

/-! ### The three reads -/

/-- `ClaimEventStreamItem`. -/
structure ClaimEventStreamItem where
  streamPosition : Nat
  event : Event
  deriving DecidableEq

/-- `ClaimEventPage`; a cursor is its stream position. -/
structure ClaimEventPage where
  requestedAfter : Nat
  events : List ClaimEventStreamItem
  nextCursor : Nat
  highWatermark : Nat
  observedAt : Timestamp
  deriving DecidableEq

/-- The arguments of `claim_event_page`. -/
structure PageRequest where
  cursor : Nat
  limit : Nat
  ownerDomainId : OwnerDomainId

/-- What a page shows of a row of the stream. -/
def ClaimEventStreamRow.item (row : ClaimEventStreamRow) : ClaimEventStreamItem :=
  ⟨row.streamPosition, row.event⟩

namespace Tables

variable (t : Tables)

/-- The greatest stream position, and `0` where there is none. -/
def highWatermark : Nat := (t.stream.rows.map (·.streamPosition)).max?.getD 0

/-- The first rows after a position, by position. -/
def rowsAfter (after limit : Nat) : List ClaimEventStreamRow :=
  ((t.stream.rows.filter fun r => after < r.streamPosition).insertionSort
    fun r s => r.streamPosition ≤ s.streamPosition).take limit

end Tables

/-- How far a `claim_event_page` call has come. -/
inductive PageCall where
  | called
  /-- the watermark is read; the row at the cursor is next -/
  | watermarked (highWatermark : Nat)
  /-- the cursor is good; the rows after it are next -/
  | retained (highWatermark : Nat)
  | answered (answer : Except HubError ClaimEventPage)
  deriving DecidableEq

/-- The page of a call that was answered with one. -/
def PageCall.page : PageCall → Option ClaimEventPage
  | .answered (.ok page) => some page
  | _ => none

theorem PageCall.page_eq_some {call : PageCall} {page : ClaimEventPage} :
    call.page = some page ↔ call = .answered (.ok page) := by
  constructor
  · intro h
    unfold PageCall.page at h
    split at h
    · next answer => rw [Option.some.inj h]
    · cases h
  · rintro rfl
    rfl

/-- The page of the rows that were found. -/
def pageOf (request : PageRequest) (highWatermark : Nat) (now : Timestamp)
    (rows : List ClaimEventStreamRow) : Except HubError ClaimEventPage :=
  if rows.map (·.streamPosition) ≠ List.range' (request.cursor + 1) rows.length then
    .error (conflict .cursorGap "Claim event stream contains a durable gap")
  else
    let items := rows.map ClaimEventStreamRow.item
    .ok {
      requestedAfter := request.cursor
      events := items
      nextCursor := (items.getLast?.map (·.streamPosition)).getD request.cursor
      highWatermark
      observedAt := now }

/-- The next read of a `claim_event_page` call. -/
def AdmissionAuthority.claimEventPage (authority : AdmissionAuthority) (request : PageRequest)
    (now : Timestamp) (t : Tables) : PageCall → PageCall
  | .called =>
    if request.ownerDomainId ≠ authority.ownerDomainId then
      .answered (.error (missing "Claim event stream not found"))
    else if t.highWatermark < request.cursor then
      .answered (.error (conflict .cursorGap "Claim event cursor is ahead of the stream"))
    -- the start of the stream is no row to look up
    else if request.cursor = 0 then .retained t.highWatermark
    else .watermarked t.highWatermark
  | .watermarked highWatermark =>
    match t.stream.get (·.streamPosition) request.cursor with
    | none => .answered (.error (conflict .cursorGap "Claim event cursor is no longer retained"))
    | some _ => .retained highWatermark
  | .retained highWatermark =>
    .answered (pageOf request highWatermark now (t.rowsAfter request.cursor request.limit))
  | .answered answer => .answered answer

/-! ### What a read finds in a stream without gaps -/

/-- The items of the stream. -/
def claimItems (t : Tables) : List ClaimEventStreamItem :=
  t.stream.rows.map ClaimEventStreamRow.item

@[simp] theorem claimItems_length (t : Tables) :
    (claimItems t).length = t.stream.rows.length := List.length_map ..

/-- Rows at consecutive places from `start` on: those after a place are the later ones. -/
theorem filter_after {ρ : Type} {place : ρ → Nat} {rows : List ρ} {start : Nat}
    (h : rows.map place = List.range' (start + 1) rows.length) (after : Nat) :
    rows.filter (fun r => after < place r) = rows.drop (after - start) := by
  induction rows generalizing start with
  | nil => simp
  | cons row rows ih =>
    rw [List.map_cons, List.length_cons, List.range'_succ, List.cons.injEq] at h
    obtain ⟨hrow, hrows⟩ := h
    rw [List.filter_cons, ih hrows]
    by_cases hafter : after < place row
    · have hstart : after - start = 0 := by omega
      have hnext : after - (start + 1) = 0 := by omega
      simp [hafter, hstart, hnext]
    · have hstart : after - start = after - (start + 1) + 1 := by omega
      simp [hafter, hstart]

namespace Copied

variable {t : Tables} (h : Copied t)
include h

theorem positions_pairwise :
    t.stream.rows.Pairwise fun r s => r.streamPosition ≤ s.streamPosition := by
  have hrange : (t.stream.rows.map (·.streamPosition)).Pairwise (· ≤ ·) := by
    rw [h.positions]
    exact List.pairwise_le_range'
  exact List.pairwise_map.mp hrange

/-- The watermark is the length of the stream. -/
theorem highWatermark : t.highWatermark = t.stream.rows.length := by
  unfold Tables.highWatermark
  rw [h.positions]
  cases hlength : t.stream.rows.length with
  | zero => rfl
  | succ n =>
    have hmax : (List.range' 1 (n + 1)).max? = some (n + 1) := by
      rw [List.max?_eq_some_iff]
      constructor
      · rw [List.mem_range'_1]
        omega
      · intro k hk
        rw [List.mem_range'_1] at hk
        omega
    rw [hmax, Option.getD_some]

/-- The rows after a cursor are the next ones of the stream. -/
theorem rowsAfter (after limit : Nat) :
    t.rowsAfter after limit = (t.stream.rows.drop after).take limit := by
  have hfilter : t.stream.rows.filter (fun r => after < r.streamPosition) =
      t.stream.rows.drop (after - 0) := filter_after h.positions after
  rw [Nat.sub_zero] at hfilter
  unfold Tables.rowsAfter
  rw [hfilter, (h.positions_pairwise.drop).insertionSort_eq]

/-- Every place of the stream has its row. -/
theorem get_position {k : Nat} (hpos : k ≠ 0) (hk : k ≤ t.stream.rows.length) :
    ∃ row, t.stream.get (·.streamPosition) k = some row := by
  have hmem : k ∈ t.stream.rows.map (·.streamPosition) := by
    rw [h.positions, List.mem_range'_1]
    omega
  obtain ⟨row, hrow, hrow_k⟩ := List.mem_map.mp hmem
  cases hget : t.stream.get (·.streamPosition) k with
  | none => exact absurd hrow_k (Table.get_eq_none_iff.mp hget row hrow)
  | some found => exact ⟨found, rfl⟩

theorem map_position (after limit : Nat) :
    ((t.stream.rows.drop after).take limit).map (·.streamPosition) =
      List.range' (after + 1) ((t.stream.rows.drop after).take limit).length := by
  rw [List.map_take, List.map_drop, h.positions]
  apply List.ext_getElem
  · simp
  · intro k hk _
    simp
    omega

/-- A page brings the next events, and ends at the last of them. -/
theorem pageOf_rowsAfter (request : PageRequest) (high : Nat) (now : Timestamp) :
    pageOf request high now (t.rowsAfter request.cursor request.limit) = .ok {
      requestedAfter := request.cursor
      events := ((claimItems t).drop request.cursor).take request.limit
      nextCursor :=
        request.cursor + (((claimItems t).drop request.cursor).take request.limit).length
      highWatermark := high
      observedAt := now } := by
  have hpositions := h.map_position request.cursor request.limit
  have hitems : ((t.stream.rows.drop request.cursor).take request.limit).map
      ClaimEventStreamRow.item = ((claimItems t).drop request.cursor).take request.limit := by
    rw [List.map_take, List.map_drop]
    rfl
  unfold pageOf
  rw [h.rowsAfter, if_neg (not_not_intro hpositions)]
  dsimp only
  rw [← hitems, List.length_map, ← List.getLast?_map, List.map_map]
  have hlast : (((t.stream.rows.drop request.cursor).take request.limit).map
      ((·.streamPosition) ∘ ClaimEventStreamRow.item)).getLast?.getD request.cursor =
      request.cursor + ((t.stream.rows.drop request.cursor).take request.limit).length := by
    show (((t.stream.rows.drop request.cursor).take request.limit).map
      (·.streamPosition)).getLast?.getD request.cursor = _
    rw [hpositions, List.getLast?_range']
    split
    · next hnone => simp [hnone]
    · next hsome =>
      rw [Option.getD_some]
      omega
  rw [hlast]

end Copied

/-! ### A consumer that follows the stream -/

/-- A consumer: the pages it has worked off, the cursor it continues from, and its call. -/
structure Follower where
  received : List ClaimEventStreamItem := []
  cursor : Nat := 0
  limit : Nat := 0
  call : PageCall := .called
  deriving DecidableEq

namespace Follower

/-- The consumer asks for the next page, waits for it, and continues from its cursor. -/
def step (authority : AdmissionAuthority) (limit : Nat) (now : Timestamp) (t : Tables)
    (f : Follower) : Follower :=
  match f.call with
  | .called =>
    { f with
      limit
      call := authority.claimEventPage ⟨f.cursor, limit, authority.ownerDomainId⟩ now t .called }
  | .answered (.ok page) =>
    { f with received := f.received ++ page.events, cursor := page.nextCursor, call := .called }
  | .answered (.error _) => f
  | call =>
    { f with
      call := authority.claimEventPage ⟨f.cursor, f.limit, authority.ownerDomainId⟩ now t call }

/-- The events the consumer was handed so far, the page it just got included. -/
def seen (f : Follower) : List ClaimEventStreamItem :=
  match f.call with
  | .answered (.ok page) => f.received ++ page.events
  | _ => f.received

end Follower

/-- What may happen next: a transaction of the Authority, or a read of the consumer; a call
it begins has this limit. -/
inductive StreamDraw where
  | commit (request : Request)
  | read (limit : Nat) (now : Timestamp)

namespace AdmissionAuthority

variable (authority : AdmissionAuthority)

/-- One turn: a request commits, or a follower reads the next page. -/
def streamAct (_ : Nat) (draw : StreamDraw) (t : Tables) (f : Follower) : Tables × Follower :=
  match draw with
  | .commit request => (authority.next t request, f)
  | .read limit now => (t, f.step authority limit now t)

/-- The database and its consumers after a turn. -/
abbrev streamTurn : Pool Tables Follower → Turn StreamDraw → Pool Tables Follower :=
  Pool.step authority.streamAct

/-- A fresh database and consumers that have read nothing. -/
def unread : Pool Tables Follower := .start .empty {}

/-- The database and its consumers after a schedule. -/
def followed (turns : List (Turn StreamDraw)) : Pool Tables Follower :=
  run authority.streamTurn unread turns

end AdmissionAuthority

/-! ### The stream only grows -/

/-- Whatever was in the stream stays where it was. -/
def Lengthens (t t' : Tables) : Prop := t.stream.rows <+: t'.stream.rows

instance : Std.Refl Lengthens := ⟨fun _ => List.prefix_rfl⟩

instance : IsTrans Tables Lengthens := ⟨fun _ _ _ => List.IsPrefix.trans⟩

/-- What leaves the stream as it was does not shorten it. -/
theorem lengthens_of_eq {t t' : Tables} (h : t'.stream = t.stream) : Lengthens t t' :=
  ⟨[], by rw [List.append_nil, h]⟩

theorem addOutbox_lengthens {eventId : EventId} {type : EventType} {aggregateId : String}
    {revision : Nat} {event : Event} {occurredAt : Timestamp} :
    Within Lengthens (addOutbox eventId type aggregateId revision event occurredAt) := by
  intro t u t' h
  simp only [addOutbox, commits_bind, commits_add] at h
  obtain ⟨_, t₁, ⟨x, -, rfl⟩, h⟩ := h
  split at h
  · simp only [commits_read_bind, commits_add] at h
    obtain ⟨y, hy, rfl⟩ := h
    show t.stream.rows <+: y.rows
    rw [Table.insert?_rows hy]
    exact List.prefix_append ..
  · rw [commits_pure] at h
    obtain ⟨-, rfl⟩ := h
    exact lengthens_of_eq rfl

theorem storeWithin_lengthens : StoreWithin Lengthens :=
  .of_frames (fun _ _ => lengthens_of_eq rfl) (fun _ _ => lengthens_of_eq rfl)
    (fun _ _ => lengthens_of_eq rfl) (fun _ _ => lengthens_of_eq rfl)
    (fun _ _ => lengthens_of_eq rfl) (fun _ _ => lengthens_of_eq rfl)
    (fun _ _ => lengthens_of_eq rfl) (fun _ _ => lengthens_of_eq rfl)
    (fun _ _ _ _ => StoreWithin.within_add fun _ _ _ => lengthens_of_eq rfl)
    fun _ _ _ => addOutbox_lengthens

theorem next_lengthens (authority : AdmissionAuthority) (t : Tables) (request : Request) :
    Lengthens t (authority.next t request) :=
  storeWithin_lengthens.next (fun _ _ _ => StoreWithin.establishStanding
    (fun _ _ => lengthens_of_eq rfl) fun _ _ => lengthens_of_eq rfl) t request

theorem next_copied (authority : AdmissionAuthority) {t : Tables} (h : Copied t)
    (request : Request) : Copied (authority.next t request) :=
  storeWithin_copied.next (fun _ _ _ => StoreWithin.establishStanding
    (fun _ _ => preserves_copied rfl rfl) fun _ _ => preserves_copied rfl rfl) t request h

/-! ### Where a consumer stands -/

/-- What a call has found out, of a stream that has grown since. -/
def PageCall.Sound (t : Tables) (cursor : Nat) : PageCall → Prop
  | .called => True
  | .watermarked high => cursor ≠ 0 ∧ cursor ≤ high ∧ high ≤ t.stream.rows.length
  | .retained high => cursor ≤ high ∧ high ≤ t.stream.rows.length
  | .answered answer =>
    ∃ page, answer = .ok page ∧ page.nextCursor = cursor + page.events.length

/-- What the consumer was handed is the beginning of the stream, and its cursor is the end of
what it has worked off. -/
structure Follower.Sound (t : Tables) (f : Follower) : Prop where
  seen : f.seen <+: claimItems t
  received : f.received.length = f.cursor
  call : f.call.Sound t f.cursor

theorem Lengthens.claimItems {t t' : Tables} (h : Lengthens t t') :
    claimItems t <+: claimItems t' := h.map _

theorem Follower.Sound.grow {t t' : Tables} {f : Follower} (h : f.Sound t) (hgrow : Lengthens t t') :
    f.Sound t' := by
  have hlength : t.stream.rows.length ≤ t'.stream.rows.length := hgrow.length_le
  refine ⟨h.seen.trans hgrow.claimItems, h.received, ?_⟩
  have hcall := h.call
  cases hf : f.call with
  | called => trivial
  | watermarked high =>
    rw [hf] at hcall
    exact ⟨hcall.1, hcall.2.1, hcall.2.2.trans hlength⟩
  | retained high =>
    rw [hf] at hcall
    exact ⟨hcall.1, hcall.2.trans hlength⟩
  | answered answer =>
    rw [hf] at hcall
    exact hcall

section Follower

variable {authority : AdmissionAuthority} {limit : Nat} {now : Timestamp} {t : Tables} {f : Follower}

/-- A consumer inside the stream passes the watermark. -/
theorem Follower.Sound.step_called (h : f.Sound t) (ht : Copied t) (hcall : f.call = .called) :
    f.step authority limit now t = { f with
      limit
      call := if f.cursor = 0 then .retained t.stream.rows.length
        else .watermarked t.stream.rows.length } := by
  have hseen := h.seen.length_le
  have hcursor : f.cursor ≤ t.stream.rows.length := by
    rw [Follower.seen, hcall, h.received, claimItems_length] at hseen
    exact hseen
  unfold Follower.step
  rw [hcall]
  simp only [AdmissionAuthority.claimEventPage, ht.highWatermark, ne_eq, not_true_eq_false, if_false,
    if_neg (Nat.not_lt.mpr hcursor)]

/-- The row at its cursor is found. -/
theorem Follower.Sound.step_watermarked (h : f.Sound t) (ht : Copied t) {high : Nat}
    (hcall : f.call = .watermarked high) :
    f.step authority limit now t = { f with call := .retained high } := by
  have hsound := h.call
  rw [hcall] at hsound
  obtain ⟨hpos, hcursor, hhigh⟩ := hsound
  obtain ⟨row, hrow⟩ := ht.get_position hpos (hcursor.trans hhigh)
  unfold Follower.step
  rw [hcall]
  simp only [AdmissionAuthority.claimEventPage, hrow]

/-- The page brings what comes next. -/
theorem Follower.step_retained (ht : Copied t) {high : Nat} (hcall : f.call = .retained high) :
    f.step authority limit now t = { f with call := .answered (.ok {
      requestedAfter := f.cursor
      events := ((claimItems t).drop f.cursor).take f.limit
      nextCursor := f.cursor + (((claimItems t).drop f.cursor).take f.limit).length
      highWatermark := high
      observedAt := now }) } := by
  unfold Follower.step
  rw [hcall]
  simp only [AdmissionAuthority.claimEventPage,
    ht.pageOf_rowsAfter ⟨f.cursor, f.limit, authority.ownerDomainId⟩]

theorem Follower.step_answered {page : ClaimEventPage} (hcall : f.call = .answered (.ok page)) :
    f.step authority limit now t =
      { f with received := f.received ++ page.events, cursor := page.nextCursor, call := .called } := by
  unfold Follower.step
  rw [hcall]

/-- The next read of a consumer leaves it at the beginning of the stream that it has seen. -/
theorem Follower.Sound.step (h : f.Sound t) (ht : Copied t) :
    (f.step authority limit now t).Sound t := by
  have hseen := h.seen
  have hreceived := h.received
  have hsound := h.call
  unfold Follower.seen at hseen
  cases hcall : f.call with
  | called =>
    rw [hcall] at hseen
    have hcursor : f.cursor ≤ t.stream.rows.length := by
      have := hseen.length_le
      rwa [hreceived, claimItems_length] at this
    rw [h.step_called ht hcall]
    by_cases hzero : f.cursor = 0
    · rw [if_pos hzero]
      exact ⟨hseen, hreceived, hcursor, le_rfl⟩
    · rw [if_neg hzero]
      exact ⟨hseen, hreceived, hzero, hcursor, le_rfl⟩
  | watermarked high =>
    rw [hcall] at hseen hsound
    rw [h.step_watermarked ht hcall]
    exact ⟨hseen, hreceived, hsound.2⟩
  -- the page is the next stretch of the stream after what was received
  | retained high =>
    rw [hcall] at hseen hsound
    rw [Follower.step_retained ht hcall]
    refine ⟨?_, hreceived, _, rfl, rfl⟩
    show f.received ++ ((claimItems t).drop f.cursor).take f.limit <+: claimItems t
    have htake : f.received = (claimItems t).take f.cursor := by
      rw [← hreceived]
      exact List.prefix_iff_eq_take.mp hseen
    rw [htake, ← List.take_add]
    exact List.take_prefix ..
  | answered answer =>
    rw [hcall] at hseen hsound
    obtain ⟨page, rfl, hnext⟩ := hsound
    rw [Follower.step_answered hcall]
    refine ⟨hseen, ?_, trivial⟩
    show (f.received ++ page.events).length = page.nextCursor
    rw [List.length_append, hreceived, hnext]

/-! ### How far it comes -/

/-- The reads a call has behind it, as its next page counts. -/
def PageCall.stage : PageCall → Nat
  | .called => 1
  | .watermarked _ => 2
  | .retained _ => 3
  | .answered _ => 0

/-- A consumer that takes turns moves up in this number while it is behind. -/
def Follower.progress (f : Follower) : Nat := 4 * f.seen.length + f.call.stage

theorem Follower.progress_lt_seen (f : Follower) : f.progress < 4 * (f.seen.length + 1) := by
  unfold Follower.progress
  cases f.call <;> simp [PageCall.stage] <;> omega

/-- A call under way asked for at least one event. -/
def Follower.Asks (f : Follower) : Prop := f.call = .called ∨ 0 < f.limit

theorem Follower.Asks.step (h : f.Asks) (hlimit : 0 < limit) :
    (f.step authority limit now t).Asks := by
  unfold Follower.step
  cases hcall : f.call with
  | called => exact .inr hlimit
  | watermarked high => exact .inr (h.resolve_left (by simp [hcall]))
  | retained high => exact .inr (h.resolve_left (by simp [hcall]))
  | answered answer =>
    cases answer with
    | ok page => exact .inl rfl
    | error e => exact h

/-- A read of a consumer that has not seen the whole stream is progress. -/
theorem Follower.Sound.progress_lt (h : f.Sound t) (ht : Copied t) (hasks : f.Asks)
    (hbehind : f.seen.length < t.stream.rows.length) :
    f.progress < (f.step authority limit now t).progress := by
  have hreceived := h.received
  have hsound := h.call
  unfold Follower.seen at hbehind
  unfold Follower.progress Follower.seen
  cases hcall : f.call with
  | called =>
    rw [h.step_called ht hcall]
    by_cases hzero : f.cursor = 0 <;> simp [hzero, PageCall.stage]
  | watermarked high =>
    rw [h.step_watermarked ht hcall]
    simp [PageCall.stage]
  | retained high =>
    rw [hcall, hreceived] at hbehind
    have hlimit : 0 < f.limit := hasks.resolve_left (by simp [hcall])
    rw [Follower.step_retained ht hcall]
    simp only [PageCall.stage, List.length_append, List.length_take, List.length_drop,
      claimItems_length]
    omega
  | answered answer =>
    rw [hcall] at hsound
    obtain ⟨page, rfl, -⟩ := hsound
    rw [Follower.step_answered hcall]
    simp [PageCall.stage]

/-- What was seen stays seen. -/
theorem Follower.Sound.seen_le (h : f.Sound t) (ht : Copied t) :
    f.seen.length ≤ (f.step authority limit now t).seen.length := by
  have hsound := h.call
  unfold Follower.seen
  cases hcall : f.call with
  | called =>
    rw [h.step_called ht hcall]
    by_cases hzero : f.cursor = 0 <;> simp [hzero]
  | watermarked high =>
    rw [h.step_watermarked ht hcall]
  | retained high =>
    rw [Follower.step_retained ht hcall]
    simp
  | answered answer =>
    rw [hcall] at hsound
    obtain ⟨page, rfl, -⟩ := hsound
    rw [Follower.step_answered hcall]

/-! ### The watermark of a page -/

/-- A page names no position above its watermark. -/
def ClaimEventPage.WithinWatermark (page : ClaimEventPage) : Prop :=
  ∀ item ∈ page.events, item.streamPosition ≤ page.highWatermark

/-- Where a page is read next, nothing was appended since its watermark was read, or its
limit ends it at the watermark. -/
def Follower.Timely (t : Tables) (f : Follower) : Prop :=
  ∀ high, f.call = .retained high → t.highWatermark = high ∨ f.cursor + f.limit ≤ high

/-- The page that is read next is within its watermark exactly when it is read in time. -/
theorem Follower.Sound.withinWatermark_iff (h : f.Sound t) (ht : Copied t) {high : Nat}
    (hcall : f.call = .retained high) :
    (∀ item ∈ ((claimItems t).drop f.cursor).take f.limit, item.streamPosition ≤ high) ↔
      t.highWatermark = high ∨ f.cursor + f.limit ≤ high := by
  have hsound := h.call
  rw [hcall] at hsound
  obtain ⟨hcursor, hhigh⟩ := hsound
  have hpositions : (((claimItems t).drop f.cursor).take f.limit).map (·.streamPosition) =
      List.range' (f.cursor + 1) (min f.limit (t.stream.rows.length - f.cursor)) := by
    have hrows := ht.map_position f.cursor f.limit
    rw [List.length_take, List.length_drop] at hrows
    rw [← hrows]
    unfold claimItems
    rw [← List.map_drop, ← List.map_take, List.map_map]
    rfl
  rw [← List.forall_mem_map (P := fun k => k ≤ high), hpositions, ht.highWatermark]
  simp only [List.mem_range'_1]
  constructor
  · intro hall
    have hlast := hall (f.cursor + min f.limit (t.stream.rows.length - f.cursor))
    omega
  · intro htimely k hk
    omega

end Follower

namespace AdmissionAuthority

variable (authority : AdmissionAuthority)

/-- The stream has no gaps, and every consumer is where it should be in it. -/
def Followed (s : Pool Tables Follower) : Prop :=
  Copied s.shared ∧ ∀ c, (s.phase c).Sound s.shared

theorem followed_unread : Followed unread :=
  ⟨copied_empty, fun _ => ⟨List.nil_prefix, rfl, trivial⟩⟩

theorem Followed.turn {s : Pool Tables Follower} (h : Followed s) (turn : Turn StreamDraw) :
    Followed (authority.streamTurn s turn) := by
  refine Pool.inv_step (L := fun _ t f => Follower.Sound t f) ?_ ?_ ?_ h
  · intro c draw t f ht _
    cases draw with
    | commit request => exact next_copied authority ht request
    | read limit now => exact ht
  · intro c draw t f ht hf
    cases draw with
    | commit request => exact hf.grow (next_lengthens authority t request)
    | read limit now => exact hf.step ht
  · intro c draw t f b g _ ht _ hg
    cases draw with
    | commit request => exact hg.grow (next_lengthens authority t request)
    | read limit now => exact hg

theorem followed_sound (turns : List (Turn StreamDraw)) : Followed (authority.followed turns) :=
  run_inv (fun _ turn h => h.turn authority turn) followed_unread turns

/-- The schedule asks for events, never for none. -/
def AsksAlways (turns : List (Turn StreamDraw)) : Prop :=
  ∀ turn ∈ turns, ∀ limit now, turn.draws = .read limit now → 0 < limit

/-- How often a consumer gets to read. -/
def readsOf (c : Nat) (turns : List (Turn StreamDraw)) : Nat :=
  turns.countP fun turn => turn.call = c && match turn.draws with
    | .commit _ => false
    | .read _ _ => true

/-- Every page that was handed out is within its watermark. -/
def WatermarksHold (s : Pool Tables Follower) : Prop :=
  ∀ c page, (s.phase c).call = .answered (.ok page) → page.WithinWatermark

/-- The page this turn reads, if it reads one, is read in time. -/
def TimelyTurn (s : Pool Tables Follower) (turn : Turn StreamDraw) : Prop :=
  ∀ limit now, turn.draws = .read limit now → (s.phase turn.call).Timely s.shared

variable {authority} {s : Pool Tables Follower} {turn : Turn StreamDraw} {c : Nat}

/-- A turn that is no read of this consumer leaves it as it is. -/
theorem streamTurn_phase (h : ¬ (turn.call = c ∧ ∃ limit now, turn.draws = .read limit now)) :
    (authority.streamTurn s turn).phase c = s.phase c := by
  by_cases hc : c = turn.call
  · subst hc
    rw [Pool.step_phase_self]
    cases hdraws : turn.draws with
    | commit request => rfl
    | read limit now => exact absurd ⟨rfl, limit, now, hdraws⟩ h
  · exact Pool.step_phase_ne hc

theorem streamTurn_read {limit : Nat} {now : Timestamp} (h : turn.draws = .read limit now) :
    (authority.streamTurn s turn).phase turn.call =
      (s.phase turn.call).step authority limit now s.shared := by
  rw [Pool.step_phase_self, h]
  rfl

theorem streamTurn_lengthens : Lengthens s.shared (authority.streamTurn s turn).shared := by
  rw [Pool.step_shared]
  cases turn.draws with
  | commit request => exact next_lengthens authority s.shared request
  | read limit now => exact lengthens_of_eq rfl

/-- No consumer loses what it has seen. -/
theorem Followed.seen_le (h : Followed s) :
    (s.phase c).seen.length ≤ ((authority.streamTurn s turn).phase c).seen.length := by
  by_cases hread : turn.call = c ∧ ∃ limit now, turn.draws = .read limit now
  · obtain ⟨rfl, limit, now, hdraws⟩ := hread
    rw [streamTurn_read hdraws]
    exact (h.2 turn.call).seen_le h.1
  · rw [streamTurn_phase hread]

theorem Followed.seen_run (h : Followed s) (later : List (Turn StreamDraw)) :
    (s.phase c).seen.length ≤ ((run authority.streamTurn s later).phase c).seen.length := by
  induction later generalizing s with
  | nil => exact le_rfl
  | cons turn later ih => exact h.seen_le.trans (ih (h.turn authority turn))

/-- A consumer that is behind a place of the stream has moved up with each of its reads. -/
theorem Followed.progress_run {n : Nat} {later : List (Turn StreamDraw)} (h : Followed s)
    (hasks : (s.phase c).Asks) (hlater : AsksAlways later) (hn : n ≤ s.shared.stream.rows.length) :
    n ≤ ((run authority.streamTurn s later).phase c).seen.length ∨
      (s.phase c).progress + readsOf c later ≤
        ((run authority.streamTurn s later).phase c).progress := by
  induction later generalizing s with
  | nil => exact .inr le_rfl
  | cons turn later ih =>
    have hnext := h.turn authority turn
    have hlonger : s.shared.stream.rows.length ≤
        (authority.streamTurn s turn).shared.stream.rows.length := streamTurn_lengthens.length_le
    have hrest : AsksAlways later := fun a ha => hlater a (List.mem_cons_of_mem _ ha)
    by_cases hread : turn.call = c ∧ ∃ limit now, turn.draws = .read limit now
    · obtain ⟨rfl, limit, now, hdraws⟩ := hread
      have hphase : (authority.streamTurn s turn).phase turn.call =
          (s.phase turn.call).step authority limit now s.shared := streamTurn_read hdraws
      have hcount : readsOf turn.call (turn :: later) = readsOf turn.call later + 1 := by
        simp [readsOf, hdraws]
      -- a read of a follower that is behind gets it on; one that has seen `n` rows has them for
      -- good
      by_cases hbehind : (s.phase turn.call).seen.length < n
      · have hstep : (s.phase turn.call).progress <
            ((s.phase turn.call).step authority limit now s.shared).progress :=
          (h.2 turn.call).progress_lt h.1 hasks (hbehind.trans_le hn)
        have hasks' : ((authority.streamTurn s turn).phase turn.call).Asks := by
          rw [hphase]
          exact hasks.step (hlater turn List.mem_cons_self limit now hdraws)
        rw [← hphase] at hstep
        rcases ih hnext hasks' hrest (hn.trans hlonger) with hall | hmoved
        · exact .inl hall
        · right
          rw [hcount]
          exact le_trans (by omega) hmoved
      · exact .inl ((Nat.not_lt.mp hbehind).trans (h.seen_run (turn :: later)))
    -- any other turn leaves the follower where it is
    · have hphase : (authority.streamTurn s turn).phase c = s.phase c := streamTurn_phase hread
      have hcount : readsOf c (turn :: later) = readsOf c later := by
        unfold readsOf
        rw [List.countP_cons, if_neg, Nat.add_zero]
        intro hcounted
        simp only [Bool.and_eq_true, decide_eq_true_eq] at hcounted
        refine hread ⟨hcounted.1, ?_⟩
        cases hdraws : turn.draws with
        | commit request => simp [hdraws] at hcounted
        | read limit now => exact ⟨limit, now, rfl⟩
      have hmoved := ih hnext (hphase ▸ hasks) hrest (hn.trans hlonger)
      rw [hphase] at hmoved
      rw [hcount]
      exact hmoved

/-- A turn keeps every page within its watermark exactly when the page it reads is read in
time. -/
theorem Followed.watermarks_iff (h : Followed s) (hs : WatermarksHold s) :
    WatermarksHold (authority.streamTurn s turn) ↔ TimelyTurn s turn := by
  constructor
  · intro hnext limit now hdraws high hcall
    have hphase : (authority.streamTurn s turn).phase turn.call =
        (s.phase turn.call).step authority limit now s.shared := streamTurn_read hdraws
    rw [Follower.step_retained h.1 hcall] at hphase
    have hpage := hnext turn.call _ (congrArg Follower.call hphase)
    exact ((h.2 turn.call).withinWatermark_iff h.1 hcall).mp hpage
  · intro htimely c page hpage
    by_cases hread : turn.call = c ∧ ∃ limit now, turn.draws = .read limit now
    · obtain ⟨rfl, limit, now, hdraws⟩ := hread
      rw [streamTurn_read hdraws] at hpage
      have hsound := (h.2 turn.call).call
      cases hcall : (s.phase turn.call).call with
      | called =>
        rw [(h.2 turn.call).step_called h.1 hcall] at hpage
        by_cases hzero : (s.phase turn.call).cursor = 0 <;> simp [hzero] at hpage
      | watermarked high =>
        rw [(h.2 turn.call).step_watermarked h.1 hcall] at hpage
        cases hpage
      | retained high =>
        rw [Follower.step_retained h.1 hcall] at hpage
        cases hpage
        exact ((h.2 turn.call).withinWatermark_iff h.1 hcall).mpr (htimely limit now hdraws high hcall)
      | answered answer =>
        rw [hcall] at hsound
        obtain ⟨old, rfl, -⟩ := hsound
        rw [Follower.step_answered hcall] at hpage
        cases hpage
    · rw [streamTurn_phase hread] at hpage
      exact hs c page hpage

/-- A consumer that had read nothing has, at the end of a schedule, a beginning of the stream,
each place once, and no read of it was refused. -/
def FollowsStream (s : Pool Tables Follower) (c : Nat) : Prop :=
  (s.phase c).seen <+: claimItems s.shared ∧
    (s.phase c).seen.map (·.streamPosition) = List.range' 1 (s.phase c).seen.length ∧
    ∀ e, (s.phase c).call ≠ .answered (.error e)

theorem Followed.follows (h : Followed s) (c : Nat) : FollowsStream s c := by
  have hseen := (h.2 c).seen
  refine ⟨hseen, ?_, ?_⟩
  · have hpositions : (claimItems s.shared).map (·.streamPosition) =
        List.range' 1 s.shared.stream.rows.length := by
      rw [← h.1.positions]
      unfold claimItems
      rw [List.map_map]
      rfl
    have hmap := hseen.map (·.streamPosition)
    rw [hpositions] at hmap
    have htake := List.prefix_iff_eq_take.mp hmap
    have hlength := hseen.length_le
    rw [claimItems_length] at hlength
    rw [htake, List.length_map]
    apply List.ext_getElem
    · simp
      omega
    · intro k hk _
      simp
  · intro e hcall
    have hsound := (h.2 c).call
    rw [hcall] at hsound
    obtain ⟨page, hpage, -⟩ := hsound
    cases hpage

theorem followed_asks {turns : List (Turn StreamDraw)} (h : AsksAlways turns) :
    ((authority.followed turns).phase c).Asks := by
  refine run_inv_along (I := fun s : Pool Tables Follower => (s.phase c).Asks)
    (P := fun _ turn => ∀ limit now, turn.draws = .read limit now → 0 < limit) ?_ (.inl rfl)
    (along_of_forall h)
  intro s turn hasks hlimit
  by_cases hread : turn.call = c ∧ ∃ limit now, turn.draws = .read limit now
  · obtain ⟨rfl, limit, now, hdraws⟩ := hread
    rw [streamTurn_read hdraws]
    exact hasks.step (hlimit limit now hdraws)
  · rw [streamTurn_phase hread]
    exact hasks

theorem followed_lengthens (turns later : List (Turn StreamDraw)) :
    Lengthens (authority.followed turns).shared (authority.followed (turns ++ later)).shared := by
  unfold followed
  rw [run_append]
  exact run_inv (I := fun s : Pool Tables Follower =>
      Lengthens (run authority.streamTurn unread turns).shared s.shared)
    (fun _ _ h => h.trans streamTurn_lengthens) List.prefix_rfl later

/-- **Consumers of the Claim event stream.** Whatever commits between the reads of their calls,
every consumer has a beginning of the stream, each event once and in order, and is never refused;
after four reads for each event it has what was there; a cursor beyond the stream is refused. The
pages stay within their watermarks exactly when every page is read in time. -/
theorem stream_followed (authority : AdmissionAuthority) (turns : List (Turn StreamDraw)) :
    (∀ c, FollowsStream (authority.followed turns) c) ∧
    (∀ c later, AsksAlways (turns ++ later) →
      4 * (claimItems (authority.followed turns).shared).length ≤ readsOf c later →
      claimItems (authority.followed turns).shared <+:
        ((authority.followed (turns ++ later)).phase c).seen) ∧
    (∀ request now, request.ownerDomainId = authority.ownerDomainId →
      (claimItems (authority.followed turns).shared).length < request.cursor →
      authority.claimEventPage request now (authority.followed turns).shared .called =
        .answered (.error (conflict .cursorGap "Claim event cursor is ahead of the stream"))) ∧
    (Along authority.streamTurn TimelyTurn unread turns ↔
      ∀ pre post, turns = pre ++ post → WatermarksHold (authority.followed pre)) := by
  have hsound := followed_sound authority turns
  refine ⟨hsound.follows, ?_, ?_, ?_⟩
  · intro c later hasks hreads
    have hlater : AsksAlways later := fun a ha => hasks a (List.mem_append_right _ ha)
    have hstart : ((authority.followed turns).phase c).Asks :=
      followed_asks fun a ha => hasks a (List.mem_append_left _ ha)
    have hend := followed_sound authority (turns ++ later)
    have hlength : (claimItems (authority.followed turns).shared).length ≤
        ((authority.followed (turns ++ later)).phase c).seen.length := by
      unfold followed at hreads ⊢
      rw [claimItems_length] at hreads ⊢
      rw [run_append]
      rcases hsound.progress_run hstart hlater le_rfl with hall | hmoved
      · exact hall
      · have hstage := Follower.progress_lt_seen ((run authority.streamTurn
          (run authority.streamTurn unread turns) later).phase c)
        unfold followed at hmoved
        omega
    exact List.prefix_of_prefix_length_le (followed_lengthens turns later).claimItems
      (hend.2 c).seen hlength
  · intro request now hdomain hbeyond
    rw [claimItems_length, ← hsound.1.highWatermark] at hbeyond
    simp only [claimEventPage, hdomain, ne_eq, not_true_eq_false, if_false, if_pos hbeyond]
  · exact along_iff_forall (fun _ turn hs => hs.turn authority turn)
      (fun _ _ hs hwatermarks => hs.watermarks_iff hwatermarks) followed_unread
      (fun _ _ hpage => by cases hpage)

/-- The Claim of a device is activated between the first and the last read of a page. -/
def overtaken : List (Turn StreamDraw) :=
  [⟨0, .read 100 0⟩] ++ (Sample.handoff "e" "k" ++ [Sample.ack "e" 1]).map (⟨1, .commit ·⟩) ++
    [⟨0, .read 100 5⟩]

/-- A page with an event at position `1` and the watermark `0`. -/
theorem watermark_is_overtaken : ¬ ∀ (authority : AdmissionAuthority) (turns : List (Turn StreamDraw)),
    WatermarksHold (authority.followed turns) := by
  intro h
  have hpage : ((Sample.authority.followed overtaken).phase 0).call.page.map
      (fun page => (page.events.map (·.streamPosition), page.highWatermark)) = some ([1], 0) := by
    decide +kernel
  obtain ⟨page, hcall, hview⟩ := Option.map_eq_some_iff.mp hpage
  obtain ⟨hevents, hhigh⟩ := Prod.mk.inj hview
  have hone : 1 ∈ page.events.map (·.streamPosition) := hevents ▸ List.mem_singleton_self 1
  obtain ⟨item, hitem, hposition⟩ := List.mem_map.mp hone
  have := h Sample.authority overtaken 0 page (PageCall.page_eq_some.mp hcall) item hitem
  omega

end AdmissionAuthority

end EidolonHub.Admission
