import EidolonHub.Library.ChangeLog
import EidolonHub.Library.Run
import EidolonHub.SmartHome.Vocabulary

/-!
# EidolonHub.SmartHome.Observation

**The last observed fact per target, and a stream of changes.** A change takes the next
number of its Owner, and a reader asks for everything after the number it has.

What a reader should be told next is a list of its own (`unread`): a change moves its
target to the end of it, a target that is forgotten leaves it, a poll empties it. The
cache in memory answers every poll with that list. The cache in SQLite takes its next
number from the rows that are left, and answers with that list as long as the row with the
last number stays: what is given a number a second time is not told to a reader that has it.
-/

namespace EidolonHub.SmartHome

open EidolonHub.Library

/-- What is observed: a device. -/
abbrev Target := String

/-! ### The two caches -/

/-- `Observed`. -/
structure Observed (S : Type) where
  target : Target
  reachable : Bool
  state : Option S
  observedAtMs : Millis
  seq : Nat
  deriving DecidableEq

/-- `ObservationCache`; what a call that waits for changes is answered is read when it returns. -/
structure ObservationCache (C S : Type) where
  put : C → OwnerId → Target → Bool → Option S → Millis → C × Option (Observed S)
  forget : C → OwnerId → List Target → C
  changesSince : C → OwnerId → Nat → List (Observed S)
  latestSeq : C → OwnerId → Nat

/-- A row of `observations`. -/
structure ObservationRow where
  ownerId : OwnerId
  target : Target
  reachable : Bool
  stateJson : Option String
  observedAtMs : Millis
  seq : Nat
  deriving DecidableEq

/-- `json.dumps` with sorted keys and `json.loads`. -/
structure StateText (S : Type) where
  dumps : S → String
  loads : String → S

/-- The greatest number of a list, and `0` of an empty one. -/
def highest (numbers : List Nat) : Nat := numbers.max?.getD 0

namespace SqliteObservationCache

/-- The rows of one Owner. -/
def rowsOf (ownerId : OwnerId) (rows : List ObservationRow) : List ObservationRow :=
  rows.filter (·.ownerId = ownerId)

/-- `SELECT MAX(seq)`. -/
def latestSeq (rows : List ObservationRow) (ownerId : OwnerId) : Nat :=
  highest ((rowsOf ownerId rows).map (·.seq))

/-- The row of a target. -/
def find (rows : List ObservationRow) (ownerId : OwnerId) (target : Target) :
    Option ObservationRow :=
  (rowsOf ownerId rows).find? (·.target = target)

variable {S : Type} (text : StateText S)

/-- The stored row says what was observed. -/
def unchanged (rows : List ObservationRow) (ownerId : OwnerId) (target : Target) (reachable : Bool)
    (state : Option S) : Bool :=
  match find rows ownerId target with
  | none => false
  | some row => row.reachable = reachable ∧ row.stateJson = state.map text.dumps

/-- `put`: an observation that changes nothing only gets a later time; any other one takes the place of
the row, with the next number of its Owner. -/
def put (rows : List ObservationRow) (ownerId : OwnerId) (target : Target) (reachable : Bool)
    (state : Option S) (observedAtMs : Millis) : List ObservationRow × Option (Observed S) :=
  if unchanged text rows ownerId target reachable state then
    (rows.map fun r => if r.ownerId = ownerId ∧ r.target = target then { r with observedAtMs } else r,
      none)
  else
    let seq := latestSeq rows ownerId + 1
    let row := { ownerId, target, reachable, stateJson := state.map text.dumps, observedAtMs, seq }
    (place (fun r : ObservationRow => (r.ownerId, r.target)) row rows,
      some { target, reachable, state, observedAtMs, seq })

/-- `forget`: the rows of these targets are deleted. -/
def forget (rows : List ObservationRow) (ownerId : OwnerId) (targets : List Target) :
    List ObservationRow :=
  rows.filter fun r => ¬ (r.ownerId = ownerId ∧ r.target ∈ targets)

/-- `_observed`. -/
def observed (row : ObservationRow) : Observed S :=
  ⟨row.target, row.reachable, row.stateJson.map text.loads, row.observedAtMs, row.seq⟩

/-- `_after`. -/
def after (rows : List ObservationRow) (ownerId : OwnerId) (seq : Nat) : List (Observed S) :=
  (changedAfter ObservationRow.seq seq (rowsOf ownerId rows)).map (observed text)

end SqliteObservationCache

/-- `SqliteObservationCache`. -/
def sqliteObservationCache {S : Type} (text : StateText S) :
    ObservationCache (List ObservationRow) S where
  put := SqliteObservationCache.put text
  forget := SqliteObservationCache.forget
  changesSince := SqliteObservationCache.after text
  latestSeq := SqliteObservationCache.latestSeq

/-- `_rows` and `_seq` of a `MemoryObservationCache`. -/
structure MemoryRows (S : Type) where
  rows : OwnerId → List (Observed S)
  seq : OwnerId → Nat

namespace MemoryObservationCache

variable {S : Type} (same : S → S → Bool)

/-- `current.state == state`. -/
def sameState : Option S → Option S → Bool
  | none, none => true
  | some a, some b => same a b
  | _, _ => false

/-- `put` of the cache in memory, which keeps a counter for each Owner. -/
def put (cache : MemoryRows S) (ownerId : OwnerId) (target : Target) (reachable : Bool)
    (state : Option S) (observedAtMs : Millis) : MemoryRows S × Option (Observed S) :=
  let keep (observed : Observed S) :=
    Function.update cache.rows ownerId (place Observed.target observed (cache.rows ownerId))
  let next :=
    let seq := cache.seq ownerId + 1
    let observed := { target, reachable, state, observedAtMs, seq }
    (⟨keep observed, Function.update cache.seq ownerId seq⟩, some observed)
  match (cache.rows ownerId).find? (·.target = target) with
  | none => next
  | some current =>
    if current.reachable = reachable ∧ sameState same current.state state then
      ({ cache with rows := keep { target, reachable, state, observedAtMs, seq := current.seq } }, none)
    else next

/-- `forget` of the cache in memory. The counter stays. -/
def forget (cache : MemoryRows S) (ownerId : OwnerId) (targets : List Target) : MemoryRows S :=
  { cache with
    rows := Function.update cache.rows ownerId
      ((cache.rows ownerId).filter fun o => o.target ∉ targets) }

end MemoryObservationCache

/-- `MemoryObservationCache`. -/
def memoryObservationCache {S : Type} (same : S → S → Bool) : ObservationCache (MemoryRows S) S where
  put := MemoryObservationCache.put same
  forget := MemoryObservationCache.forget
  changesSince cache ownerId seq := changedAfter Observed.seq seq (cache.rows ownerId)
  latestSeq cache ownerId := cache.seq ownerId

/-! ### Readers -/

/-- A call of a cache, or the next poll of a reader. -/
inductive CacheCall (S : Type) where
  | put (ownerId : OwnerId) (target : Target) (reachable : Bool) (state : Option S)
      (observedAtMs : Millis)
  | forget (ownerId : OwnerId) (targets : List Target)
  | poll (reader : Nat)

/-- A cache and the cursors of its readers; and what is kept of the history to compare it with:
the numbers each Owner was given, and what each reader is to be told next. -/
structure Watched (C : Type) where
  cache : C
  cursor : Nat → Nat
  given : OwnerId → List Nat
  unread : Nat → List Target

variable {C S : Type} (cache : ObservationCache C S) (ownerOf : Nat → OwnerId)

/-- The route `changes`: what is answered, and the cursor to go on from. -/
def changes (c : C) (ownerId : OwnerId) (since : Nat) : List (Observed S) × Nat :=
  let observed := cache.changesSince c ownerId since
  (observed, (observed.getLast?.map (·.seq)).getD (cache.latestSeq c ownerId))

/-- Nothing was observed, and every reader starts at `0`. -/
def Watched.start (c : C) : Watched C := ⟨c, fun _ => 0, fun _ => [], fun _ => []⟩

/-- A recorded change: it has its number, and its target is what readers are told last. -/
def Watched.record (s : Watched C) (ownerId : OwnerId) (target : Target) (c : C) (seq : Nat) :
    Watched C where
  cache := c
  cursor := s.cursor
  given := Function.update s.given ownerId (s.given ownerId ++ [seq])
  unread r := if ownerOf r = ownerId then (s.unread r).filter (· ≠ target) ++ [target] else s.unread r

/-- One call of a cache, whose numbers are written down. -/
def Watched.next (s : Watched C) : CacheCall S → Watched C
  | .put ownerId target reachable state observedAtMs =>
    match cache.put s.cache ownerId target reachable state observedAtMs with
    | (c, none) => { s with cache := c }
    | (c, some observed) => s.record ownerOf ownerId target c observed.seq
  | .forget ownerId targets =>
    { s with
      cache := cache.forget s.cache ownerId targets
      unread := fun r =>
        if ownerOf r = ownerId then (s.unread r).filter (· ∉ targets) else s.unread r }
  | .poll reader =>
    { s with
      cursor := Function.update s.cursor reader
        (changes cache s.cache (ownerOf reader) (s.cursor reader)).2
      unread := Function.update s.unread reader [] }

/-- No number of an Owner is given twice, and the next poll of every reader is answered with what
it is to be told. -/
structure Watched.Told (s : Watched C) : Prop where
  ascending : ∀ ownerId, (s.given ownerId).Pairwise (· < ·)
  told : ∀ r, (cache.changesSince s.cache (ownerOf r) (s.cursor r)).map (·.target) = s.unread r

/-! ### What a cache keeps of its targets -/

theorem le_highest {numbers : List Nat} {n : Nat} (h : n ∈ numbers) : n ≤ highest numbers := by
  unfold highest
  cases hmax : numbers.max? with
  | none =>
    rw [List.max?_eq_none_iff] at hmax
    rw [hmax] at h
    cases h
  | some m => exact (List.max?_eq_some_iff.mp hmax).2 n h

theorem highest_le {numbers : List Nat} {n : Nat} (h : ∀ m ∈ numbers, m ≤ n) : highest numbers ≤ n := by
  unfold highest
  cases hmax : numbers.max? with
  | none => exact Nat.zero_le n
  | some m => exact h m (List.max?_eq_some_iff.mp hmax).1

/-- A number above all others is the highest. -/
theorem highest_concat {numbers : List Nat} {n : Nat} (h : ∀ m ∈ numbers, m ≤ n) :
    highest (numbers ++ [n]) = n := by
  apply Nat.le_antisymm
  · refine highest_le fun m hm => ?_
    rcases List.mem_append.mp hm with hm | hm
    · exact h m hm
    · exact (List.mem_singleton.mp hm).le
  · exact le_highest (List.mem_append_right _ (List.mem_singleton_self n))

theorem highest_le_concat {numbers : List Nat} {n : Nat} : highest numbers ≤ highest (numbers ++ [n]) :=
  highest_le fun _ hm => le_highest (List.mem_append_left _ hm)

/-- The targets a cache keeps for an Owner, with their numbers, and how its calls change them. -/
structure Marked (marks : C → OwnerId → List (Target × Nat)) : Prop where
  put_none : ∀ {c ownerId target reachable state observedAtMs},
    (∀ o, Numbered Prod.fst Prod.snd (marks c o)) →
    (cache.put c ownerId target reachable state observedAtMs).2 = none →
    marks (cache.put c ownerId target reachable state observedAtMs).1 = marks c ∧
      cache.latestSeq (cache.put c ownerId target reachable state observedAtMs).1 = cache.latestSeq c
  put_some : ∀ {c ownerId target reachable state observedAtMs observed},
    (∀ o, Numbered Prod.fst Prod.snd (marks c o)) →
    (∀ o, ∀ p ∈ marks c o, p.2 ≤ cache.latestSeq c o) →
    (cache.put c ownerId target reachable state observedAtMs).2 = some observed →
    observed.seq = cache.latestSeq c ownerId + 1 ∧
      marks (cache.put c ownerId target reachable state observedAtMs).1 =
        Function.update (marks c) ownerId (place Prod.fst (target, observed.seq) (marks c ownerId)) ∧
      cache.latestSeq (cache.put c ownerId target reachable state observedAtMs).1 =
        Function.update (cache.latestSeq c) ownerId observed.seq
  forget : ∀ {c ownerId targets}, marks (cache.forget c ownerId targets) =
    Function.update (marks c) ownerId ((marks c ownerId).filter fun p => p.1 ∉ targets)
  forget_latest : ∀ {c ownerId targets}, (∀ o, ∀ p ∈ marks c o, p.2 ≤ cache.latestSeq c o) → ∀ o,
    cache.latestSeq (cache.forget c ownerId targets) o ≤ cache.latestSeq c o ∧
      ∀ p ∈ marks (cache.forget c ownerId targets) o,
        p.2 ≤ cache.latestSeq (cache.forget c ownerId targets) o
  read : ∀ {c ownerId n}, (cache.changesSince c ownerId n).map (fun o => (o.target, o.seq)) =
    changedAfter Prod.snd n (marks c ownerId)

/-- Numbers are distinct, and none is above the last one that was given. -/
structure Watched.Sound (marks : C → OwnerId → List (Target × Nat)) (s : Watched C) : Prop where
  numbered : ∀ o, Numbered Prod.fst Prod.snd (marks s.cache o)
  bounded : ∀ o, ∀ p ∈ marks s.cache o, p.2 ≤ cache.latestSeq s.cache o
  latest : ∀ o, cache.latestSeq s.cache o ≤ highest (s.given o)
  cursor : ∀ r, s.cursor r ≤ highest (s.given (ownerOf r))

section Step

variable {cache ownerOf} {marks : C → OwnerId → List (Target × Nat)} {s : Watched C}
  {ownerId : OwnerId} {target : Target} {reachable : Bool} {state : Option S} {observedAtMs : Millis}
  {targets : List Target}

/-- The targets a poll names are those marked after its cursor. -/
theorem Marked.told_iff (hmarks : Marked cache marks) :
    (∀ r, (cache.changesSince s.cache (ownerOf r) (s.cursor r)).map (·.target) = s.unread r) ↔
      ∀ r, (changedAfter Prod.snd (s.cursor r) (marks s.cache (ownerOf r))).map Prod.fst =
        s.unread r := by
  refine forall_congr' fun r => ?_
  rw [← hmarks.read, List.map_map]
  rfl

variable (cache ownerOf) in
/-- How the put of a change or of a fact already known ends. -/
theorem Watched.next_put (s : Watched C) (ownerId : OwnerId) (target : Target) (reachable : Bool)
    (state : Option S) (observedAtMs : Millis) :
    (∃ c, cache.put s.cache ownerId target reachable state observedAtMs = (c, none) ∧
      s.next cache ownerOf (.put ownerId target reachable state observedAtMs) =
        { s with cache := c }) ∨
    (∃ c observed, cache.put s.cache ownerId target reachable state observedAtMs = (c, some observed) ∧
      s.next cache ownerOf (.put ownerId target reachable state observedAtMs) =
        s.record ownerOf ownerId target c observed.seq) := by
  unfold Watched.next
  cases hput : cache.put s.cache ownerId target reachable state observedAtMs with
  | mk c answer =>
    cases answer with
    | none => exact .inl ⟨c, rfl, by simp only [hput]⟩
    | some observed => exact .inr ⟨c, observed, rfl, by simp only [hput]⟩

theorem Watched.Sound.next (hmarks : Marked cache marks) (h : s.Sound cache ownerOf marks)
    (call : CacheCall S) : (s.next cache ownerOf call).Sound cache ownerOf marks := by
  cases call with
  | put ownerId target reachable state observedAtMs =>
    rcases s.next_put cache ownerOf ownerId target reachable state observedAtMs with
      ⟨c, hput, hnext⟩ | ⟨c, observed, hput, hnext⟩
    -- a put that changes nothing gives no number
    · obtain ⟨hsame, hlatest⟩ := hmarks.put_none h.numbered (congrArg Prod.snd hput)
      rw [hput] at hsame hlatest
      rw [hnext]
      refine ⟨?_, ?_, ?_, h.cursor⟩
      · show ∀ o, Numbered Prod.fst Prod.snd (marks c o)
        rw [hsame]
        exact h.numbered
      · show ∀ o, ∀ p ∈ marks c o, p.2 ≤ cache.latestSeq c o
        rw [hsame, hlatest]
        exact h.bounded
      · show ∀ o, cache.latestSeq c o ≤ highest (s.given o)
        rw [hlatest]
        exact h.latest
    -- a put that changes something takes the number above all that the Owner has been given
    · obtain ⟨hseq, hplaced, hlatest⟩ := hmarks.put_some h.numbered h.bounded (congrArg Prod.snd hput)
      rw [hput] at hplaced hlatest
      have hbelow : ∀ p ∈ marks s.cache ownerId, p.2 < observed.seq := by
        intro p hp
        rw [hseq]
        exact Nat.lt_succ_of_le (h.bounded ownerId p hp)
      rw [hnext]
      refine ⟨?_, ?_, ?_, ?_⟩
      · intro o
        show Numbered Prod.fst Prod.snd (marks c o)
        rw [hplaced]
        by_cases ho : o = ownerId
        · subst ho
          rw [Function.update_self]
          exact (h.numbered o).place fun p hp _ => Nat.ne_of_lt (hbelow p hp)
        · rw [Function.update_of_ne ho]
          exact h.numbered o
      · intro o p hp
        change p ∈ marks c o at hp
        show p.2 ≤ cache.latestSeq c o
        rw [hplaced] at hp
        rw [hlatest]
        by_cases ho : o = ownerId
        · subst ho
          rw [Function.update_self] at hp ⊢
          rcases mem_place.mp hp with rfl | ⟨hold, -⟩
          · exact le_rfl
          · exact Nat.le_of_lt (hbelow p hold)
        · rw [Function.update_of_ne ho] at hp ⊢
          exact h.bounded o p hp
      · intro o
        show cache.latestSeq c o ≤ highest (Function.update s.given ownerId _ o)
        rw [hlatest]
        by_cases ho : o = ownerId
        · subst ho
          rw [Function.update_self, Function.update_self]
          exact le_highest (List.mem_append_right _ (List.mem_singleton_self _))
        · rw [Function.update_of_ne ho, Function.update_of_ne ho]
          exact h.latest o
      · intro r
        show s.cursor r ≤ highest (Function.update s.given ownerId _ (ownerOf r))
        by_cases ho : ownerOf r = ownerId
        · rw [ho, Function.update_self, ← ho]
          exact (h.cursor r).trans highest_le_concat
        · rw [Function.update_of_ne ho]
          exact h.cursor r
  -- forgetting takes marks away and never lowers what was given
  | forget ownerId targets =>
    refine ⟨?_, fun o => (hmarks.forget_latest h.bounded o).2,
      fun o => (hmarks.forget_latest h.bounded o).1.trans (h.latest o), h.cursor⟩
    intro o
    show Numbered Prod.fst Prod.snd (marks (cache.forget s.cache ownerId targets) o)
    rw [hmarks.forget]
    by_cases ho : o = ownerId
    · subst ho
      rw [Function.update_self]
      exact (h.numbered o).filter _
    · rw [Function.update_of_ne ho]
      exact h.numbered o
  -- a poll returns the number of its last row, or the latest of the Owner when there is none
  | poll reader =>
    refine ⟨h.numbered, h.bounded, h.latest, ?_⟩
    intro r
    show Function.update s.cursor reader _ r ≤ highest (s.given (ownerOf r))
    by_cases hr : r = reader
    · subst hr
      rw [Function.update_self]
      cases hlast : (cache.changesSince s.cache (ownerOf r) (s.cursor r)).getLast? with
      | none =>
        simp only [changes, hlast, Option.map_none, Option.getD_none]
        exact h.latest (ownerOf r)
      | some last =>
        simp only [changes, hlast, Option.map_some, Option.getD_some]
        have hmem : (last.target, last.seq) ∈
            (cache.changesSince s.cache (ownerOf r) (s.cursor r)).map fun o => (o.target, o.seq) :=
          List.mem_map_of_mem (List.mem_of_getLast? hlast)
        rw [hmarks.read, mem_changedAfter] at hmem
        exact (h.bounded (ownerOf r) _ hmem.1).trans (h.latest (ownerOf r))
    · rw [Function.update_of_ne hr]
      exact h.cursor r

/-- The cursor a poll returns is above all that the cache has of its Owner. -/
theorem Watched.Sound.le_cursor (h : s.Sound cache ownerOf marks) (hmarks : Marked cache marks)
    {n : Nat} {p : Target × Nat} (hp : p ∈ marks s.cache ownerId) :
    p.2 ≤ (changes cache s.cache ownerId n).2 := by
  have hread : (changedAfter Prod.snd n (marks s.cache ownerId)).getLast? =
      (cache.changesSince s.cache ownerId n).getLast?.map fun o => (o.target, o.seq) := by
    rw [← hmarks.read, List.getLast?_map]
  cases hlast : (cache.changesSince s.cache ownerId n).getLast? with
  | none =>
    simp only [changes, hlast, Option.map_none, Option.getD_none]
    exact h.bounded ownerId p hp
  | some last =>
    rw [hlast] at hread
    simp only [changes, hlast, Option.map_some, Option.getD_some]
    exact (h.numbered ownerId).le_getLast hread hp

variable (cache) in
/-- A change is recorded while the last number of its Owner is still in the cache. -/
def Watched.Kept (s : Watched C) : CacheCall S → Prop
  | .put ownerId target reachable state observedAtMs =>
    (cache.put s.cache ownerId target reachable state observedAtMs).2 = none ∨
      cache.latestSeq s.cache ownerId = highest (s.given ownerId)
  | _ => True

/-- A recorded change is the last thing its Owner's readers are told, and nothing else of what they
are told is different. -/
theorem Watched.Sound.told_record (h : s.Sound cache ownerOf marks) (hmarks : Marked cache marks)
    (htold : s.Told cache ownerOf) {c : C} {observed : Observed S}
    (hput : cache.put s.cache ownerId target reachable state observedAtMs = (c, some observed))
    (hlatest : cache.latestSeq s.cache ownerId = highest (s.given ownerId)) :
    (s.record ownerOf ownerId target c observed.seq).Told cache ownerOf := by
  obtain ⟨hseq, hplaced, -⟩ := hmarks.put_some h.numbered h.bounded (congrArg Prod.snd hput)
  rw [hput] at hplaced
  constructor
  · intro o
    show (Function.update s.given ownerId _ o).Pairwise (· < ·)
    by_cases ho : o = ownerId
    · subst ho
      rw [Function.update_self, List.pairwise_append]
      refine ⟨htold.ascending o, List.pairwise_singleton _ _, ?_⟩
      intro a ha b hb
      rw [List.mem_singleton.mp hb, hseq, hlatest]
      exact Nat.lt_succ_of_le (le_highest ha)
    · rw [Function.update_of_ne ho]
      exact htold.ascending o
  · refine hmarks.told_iff.mpr fun r => ?_
    have hbefore := hmarks.told_iff.mp htold.told r
    show (changedAfter Prod.snd (s.cursor r) (marks c (ownerOf r))).map Prod.fst =
      if ownerOf r = ownerId then (s.unread r).filter (· ≠ target) ++ [target] else s.unread r
    rw [hplaced]
    by_cases ho : ownerOf r = ownerId
    · subst ho
      have hbelow : ∀ p ∈ marks s.cache (ownerOf r), p.2 < observed.seq := by
        intro p hp
        rw [hseq]
        exact Nat.lt_succ_of_le (h.bounded (ownerOf r) p hp)
      have hcursor : s.cursor r < observed.seq := by
        rw [hseq, hlatest]
        exact Nat.lt_succ_of_le (h.cursor r)
      rw [Function.update_self, if_pos rfl, (h.numbered (ownerOf r)).changedAfter_place hbelow hcursor,
        List.map_append, ← hbefore, List.filter_map]
      rfl
    · rw [Function.update_of_ne ho, if_neg ho, hbefore]

/-- A call keeps readers told exactly when it records no change, or records one while the last
number of its Owner is still in the cache. -/
theorem Watched.Sound.told_next_iff (h : s.Sound cache ownerOf marks) (hmarks : Marked cache marks)
    (htold : s.Told cache ownerOf) (call : CacheCall S) :
    (s.next cache ownerOf call).Told cache ownerOf ↔ s.Kept cache call := by
  cases call with
  | put ownerId target reachable state observedAtMs =>
    rcases s.next_put cache ownerOf ownerId target reachable state observedAtMs with
      ⟨c, hput, hnext⟩ | ⟨c, observed, hput, hnext⟩
    · obtain ⟨hsame, -⟩ := hmarks.put_none h.numbered (congrArg Prod.snd hput)
      rw [hput] at hsame
      rw [hnext]
      refine iff_of_true ⟨htold.ascending, hmarks.told_iff.mpr fun r => ?_⟩
        (.inl (congrArg Prod.snd hput))
      show (changedAfter Prod.snd (s.cursor r) (marks c (ownerOf r))).map Prod.fst = s.unread r
      rw [hsame]
      exact hmarks.told_iff.mp htold.told r
    · rw [hnext]
      -- the change reaches every reader exactly when the latest number the cache knows is the
      -- highest given
      constructor
      · intro hafter
        right
        obtain ⟨hseq, -, -⟩ := hmarks.put_some h.numbered h.bounded (congrArg Prod.snd hput)
        have hascending : (Function.update s.given ownerId (s.given ownerId ++ [observed.seq])
          ownerId).Pairwise (· < ·) := hafter.ascending ownerId
        rw [Function.update_self, List.pairwise_append, hseq] at hascending
        refine Nat.le_antisymm (h.latest ownerId) (highest_le fun m hm => ?_)
        exact Nat.le_of_lt_succ (hascending.2.2 m hm _ (List.mem_singleton_self _))
      · rintro (hnone | hlatest)
        · rw [hput] at hnone
          cases hnone
        · exact h.told_record hmarks htold hput hlatest
  -- what is forgotten is no longer owed to any reader
  | forget ownerId targets =>
    refine iff_of_true ⟨htold.ascending, hmarks.told_iff.mpr fun r => ?_⟩ trivial
    have hbefore := hmarks.told_iff.mp htold.told r
    show (changedAfter Prod.snd (s.cursor r) (marks (cache.forget s.cache ownerId targets)
      (ownerOf r))).map Prod.fst =
        if ownerOf r = ownerId then (s.unread r).filter (· ∉ targets) else s.unread r
    rw [hmarks.forget]
    by_cases ho : ownerOf r = ownerId
    · subst ho
      rw [Function.update_self, if_pos rfl, (h.numbered (ownerOf r)).changedAfter_filter, ← hbefore,
        List.filter_map]
      rfl
    · rw [Function.update_of_ne ho, if_neg ho, hbefore]
  -- a poll returns all that was unread and leaves nothing
  | poll reader =>
    refine iff_of_true ⟨htold.ascending, hmarks.told_iff.mpr fun r => ?_⟩ trivial
    show (changedAfter Prod.snd (Function.update s.cursor reader _ r)
      (marks s.cache (ownerOf r))).map Prod.fst = Function.update s.unread reader [] r
    by_cases hr : r = reader
    · subst hr
      rw [Function.update_self, Function.update_self]
      rw [changedAfter_eq_nil fun p hp => h.le_cursor hmarks hp, List.map_nil]
    · rw [Function.update_of_ne hr, Function.update_of_ne hr]
      exact hmarks.told_iff.mp htold.told r

end Step

/-! ### The cache in SQLite -/

namespace SqliteObservationCache

variable {S : Type} {text : StateText S} {rows : List ObservationRow} {ownerId : OwnerId}

/-- The targets of an Owner with their numbers, in SQLite. -/
def marks (rows : List ObservationRow) (ownerId : OwnerId) : List (Target × Nat) :=
  (rowsOf ownerId rows).map fun r => (r.target, r.seq)

theorem latestSeq_eq : latestSeq rows ownerId = highest ((marks rows ownerId).map Prod.snd) := by
  unfold latestSeq marks
  rw [List.map_map]
  rfl

theorem le_latestSeq {p : Target × Nat} (h : p ∈ marks rows ownerId) : p.2 ≤ latestSeq rows ownerId := by
  rw [latestSeq_eq]
  exact le_highest (List.mem_map_of_mem h)

/-- A stored row replaces that of its Owner and target. -/
theorem marks_place {row : ObservationRow} :
    marks (place (fun r : ObservationRow => (r.ownerId, r.target)) row rows) =
      Function.update (marks rows) row.ownerId
        (place Prod.fst (row.target, row.seq) (marks rows row.ownerId)) := by
  funext o
  unfold marks rowsOf
  by_cases ho : o = row.ownerId
  · subst ho
    have hkey : ∀ r ∈ rows.filter (·.ownerId = row.ownerId),
        (r.ownerId, r.target) = (row.ownerId, row.target) ↔ r.target = row.target := by
      intro r hr
      have howner : r.ownerId = row.ownerId := by simpa using List.of_mem_filter hr
      simp [howner]
    rw [Function.update_self, filter_place (by simp +contextual), place_congr hkey]
    exact map_place fun _ => rfl
  · rw [Function.update_of_ne ho, filter_place_of_not]
    intro r hr
    have howner := (Prod.mk.inj hr).1
    simp [howner, Ne.symm ho]

/-- What keeps Owner, target and number of every row keeps the marks. -/
theorem marks_map {f : ObservationRow → ObservationRow}
    (hf : ∀ r, (f r).ownerId = r.ownerId ∧ (f r).target = r.target ∧ (f r).seq = r.seq) :
    marks (rows.map f) = marks rows := by
  funext o
  unfold marks rowsOf
  rw [List.filter_map, List.map_map]
  have hfilter : rows.filter ((fun r => decide (r.ownerId = o)) ∘ f) =
      rows.filter fun r => r.ownerId = o :=
    List.filter_congr fun r _ => by simp [(hf r).1]
  rw [hfilter]
  exact List.map_congr_left fun r _ => by simp [(hf r).2.1, (hf r).2.2]

theorem latestSeq_congr {rows' : List ObservationRow} (h : marks rows' = marks rows) :
    latestSeq rows' = latestSeq rows := by
  funext o
  rw [latestSeq_eq, latestSeq_eq, h]

variable (text) in
theorem put_cases (rows : List ObservationRow) (ownerId : OwnerId) (target : Target)
    (reachable : Bool) (state : Option S) (observedAtMs : Millis) :
    ((put text rows ownerId target reachable state observedAtMs).2 = none ∧
      marks (put text rows ownerId target reachable state observedAtMs).1 = marks rows) ∨
    (∃ observed, (put text rows ownerId target reachable state observedAtMs).2 = some observed ∧
      observed.seq = latestSeq rows ownerId + 1 ∧
      marks (put text rows ownerId target reachable state observedAtMs).1 =
        Function.update (marks rows) ownerId
          (place Prod.fst (target, observed.seq) (marks rows ownerId))) := by
  unfold put
  split
  · left
    refine ⟨rfl, marks_map fun r => ?_⟩
    by_cases hr : r.ownerId = ownerId ∧ r.target = target <;> simp [hr]
  · right
    exact ⟨_, rfl, rfl, marks_place⟩

/-- The last number of an Owner after a change is the one it was given. -/
theorem latestSeq_of_place {rows' : List ObservationRow} {target : Target} {seq : Nat}
    (hseq : seq = latestSeq rows ownerId + 1) (hmarks : marks rows' =
      Function.update (marks rows) ownerId (place Prod.fst (target, seq) (marks rows ownerId))) :
    latestSeq rows' = Function.update (latestSeq rows) ownerId seq := by
  funext o
  rw [latestSeq_eq, hmarks]
  by_cases ho : o = ownerId
  · subst ho
    rw [Function.update_self, Function.update_self]
    apply Nat.le_antisymm
    · refine highest_le fun m hm => ?_
      obtain ⟨p, hp, rfl⟩ := List.mem_map.mp hm
      rcases mem_place.mp hp with rfl | ⟨hold, -⟩
      · exact le_rfl
      · have := le_latestSeq hold
        omega
    · exact le_highest (List.mem_map.mpr ⟨(target, seq), mem_place.mpr (.inl rfl), rfl⟩)
  · rw [Function.update_of_ne ho, Function.update_of_ne ho, latestSeq_eq]

theorem marks_forget {targets : List Target} : marks (forget rows ownerId targets) =
    Function.update (marks rows) ownerId ((marks rows ownerId).filter fun p => p.1 ∉ targets) := by
  funext o
  unfold marks rowsOf forget
  rw [List.filter_filter]
  by_cases ho : o = ownerId
  · subst ho
    rw [Function.update_self, List.filter_map, List.filter_filter]
    congr 1
    refine List.filter_congr fun r _ => ?_
    by_cases hr : r.ownerId = o <;> simp [hr]
  · rw [Function.update_of_ne ho]
    congr 1
    refine List.filter_congr fun r _ => ?_
    by_cases hr : r.ownerId = o
    · have hne : ¬ r.ownerId = ownerId := fun heq => ho (hr.symm.trans heq)
      simp [hr, ho]
    · simp [hr]

theorem marked : Marked (sqliteObservationCache text) marks where
  put_none := by
    intro c ownerId target reachable state observedAtMs _ hnone
    rcases put_cases text c ownerId target reachable state observedAtMs with
      ⟨-, hmarks⟩ | ⟨observed, hsome, -⟩
    · exact ⟨hmarks, latestSeq_congr hmarks⟩
    · exact absurd (hsome.symm.trans hnone) (by simp)
  put_some := by
    intro c ownerId target reachable state observedAtMs observed _ _ hsome
    rcases put_cases text c ownerId target reachable state observedAtMs with
      ⟨hnone, -⟩ | ⟨found, hfound, hseq, hmarks⟩
    · exact absurd (hnone.symm.trans hsome) (by simp)
    · obtain rfl : found = observed := Option.some.inj (hfound.symm.trans hsome)
      exact ⟨hseq, hmarks, latestSeq_of_place hseq hmarks⟩
  forget := marks_forget
  forget_latest := by
    intro c ownerId targets hbounded o
    refine ⟨?_, fun p hp => le_latestSeq hp⟩
    show latestSeq (forget c ownerId targets) o ≤ latestSeq c o
    rw [latestSeq_eq, marks_forget]
    refine highest_le fun m hm => ?_
    obtain ⟨p, hp, rfl⟩ := List.mem_map.mp hm
    by_cases ho : o = ownerId
    · subst ho
      rw [Function.update_self] at hp
      exact le_latestSeq (List.mem_of_mem_filter hp)
    · rw [Function.update_of_ne ho] at hp
      exact le_latestSeq hp
  read := by
    intro c ownerId n
    show ((changedAfter ObservationRow.seq n (rowsOf ownerId c)).map (observed text)).map
      (fun o => (o.target, o.seq)) = _
    rw [List.map_map]
    exact map_changedAfter fun _ => rfl

end SqliteObservationCache

/-! ### The cache in memory -/

namespace MemoryObservationCache

variable {S : Type} {same : S → S → Bool} {cache : MemoryRows S} {ownerId : OwnerId}

/-- The targets of an Owner with their numbers, in memory. -/
def marks (cache : MemoryRows S) (ownerId : OwnerId) : List (Target × Nat) :=
  (cache.rows ownerId).map fun o => (o.target, o.seq)

variable (same) in
theorem put_cases (cache : MemoryRows S) (ownerId : OwnerId) (target : Target) (reachable : Bool)
    (state : Option S) (observedAtMs : Millis)
    (hnumbered : Numbered Prod.fst Prod.snd (marks cache ownerId)) :
    ((put same cache ownerId target reachable state observedAtMs).2 = none ∧
      marks (put same cache ownerId target reachable state observedAtMs).1 = marks cache ∧
      (put same cache ownerId target reachable state observedAtMs).1.seq = cache.seq) ∨
    (∃ observed, (put same cache ownerId target reachable state observedAtMs).2 = some observed ∧
      observed.seq = cache.seq ownerId + 1 ∧
      marks (put same cache ownerId target reachable state observedAtMs).1 =
        Function.update (marks cache) ownerId
          (place Prod.fst (target, observed.seq) (marks cache ownerId)) ∧
      (put same cache ownerId target reachable state observedAtMs).1.seq =
        Function.update cache.seq ownerId observed.seq) := by
  -- the rows of one Owner with one row stored
  have hkeep : ∀ (o : Observed S) (seqs : OwnerId → Nat), marks ⟨Function.update cache.rows ownerId
      (place Observed.target o (cache.rows ownerId)), seqs⟩ =
      Function.update (marks cache) ownerId
        ((place Observed.target o (cache.rows ownerId)).map fun o => (o.target, o.seq)) := by
    intro o seqs
    funext owner
    unfold marks
    by_cases ho : owner = ownerId
    · subst ho
      simp only [Function.update_self]
    · simp only [Function.update_of_ne ho]
  have hchanged : ∀ o : Observed S,
      (place Observed.target o (cache.rows ownerId)).map (fun o => (o.target, o.seq)) =
        place Prod.fst (o.target, o.seq) (marks cache ownerId) := fun _ => map_place fun _ => rfl
  unfold put
  cases hfind : (cache.rows ownerId).find? (·.target = target) with
  | none =>
    right
    refine ⟨_, rfl, rfl, ?_, rfl⟩
    rw [hkeep, hchanged]
  | some current =>
    dsimp only
    split
    · left
      refine ⟨rfl, ?_, rfl⟩
      have hkeys : ((cache.rows ownerId).map Observed.target).Nodup := by
        have hnodup := hnumbered.keys
        unfold marks at hnodup
        rwa [List.map_map] at hnodup
      have htarget : current.target = target := by simpa using List.find?_some hfind
      rw [hkeep, map_place_eq hkeys (List.mem_of_find?_eq_some hfind) htarget (by simp [htarget])]
      exact Function.update_eq_self ..
    · right
      refine ⟨_, rfl, rfl, ?_, rfl⟩
      rw [hkeep, hchanged]

theorem marked : Marked (memoryObservationCache same) marks where
  put_none := by
    intro c ownerId target reachable state observedAtMs hnumbered hnone
    rcases put_cases same c ownerId target reachable state observedAtMs
      (hnumbered ownerId) with ⟨-, hmarks, hseq⟩ | ⟨observed, hsome, -⟩
    · exact ⟨hmarks, hseq⟩
    · exact absurd (hsome.symm.trans hnone) (by simp)
  put_some := by
    intro c ownerId target reachable state observedAtMs observed hnumbered hbounded hsome
    rcases put_cases same c ownerId target reachable state observedAtMs
      (hnumbered ownerId) with ⟨hnone, -⟩ | ⟨found, hfound, hseq, hmarks, hlatest⟩
    · exact absurd (hnone.symm.trans hsome) (by simp)
    · obtain rfl : found = observed := Option.some.inj (hfound.symm.trans hsome)
      exact ⟨hseq, hmarks, hlatest⟩
  forget := by
    intro c ownerId targets
    funext o
    show ((Function.update c.rows ownerId _) o).map (fun o => (o.target, o.seq)) = _
    by_cases ho : o = ownerId
    · subst ho
      rw [Function.update_self, Function.update_self]
      unfold marks
      rw [List.filter_map]
      rfl
    · rw [Function.update_of_ne ho, Function.update_of_ne ho]
      rfl
  forget_latest := by
    intro c ownerId targets hbounded o
    refine ⟨le_rfl, fun p hp => hbounded o p ?_⟩
    change p ∈ ((Function.update c.rows ownerId _) o).map (fun o => (o.target, o.seq)) at hp
    by_cases ho : o = ownerId
    · subst ho
      rw [Function.update_self] at hp
      exact (List.filter_sublist.map _).subset hp
    · rw [Function.update_of_ne ho] at hp
      exact hp
  read := by
    intro c ownerId n
    exact map_changedAfter fun _ => rfl

end MemoryObservationCache

/-! ### What readers are told -/

/-- A cache that never lost its last number. -/
def Watched.Exact {C S : Type} (cache : ObservationCache C S) (s : Watched C) : Prop :=
  ∀ o, cache.latestSeq s.cache o = highest (s.given o)

namespace MemoryObservationCache

variable {S : Type} {same : S → S → Bool} {ownerOf : Nat → OwnerId}

/-- No memory of an observation. -/
def empty : MemoryRows S := ⟨fun _ => [], fun _ => 0⟩

/-- The counter is kept apart from the rows, so forgetting a row does not turn it back. -/
theorem exact_next {s : Watched (MemoryRows S)}
    (hs : s.Sound (memoryObservationCache same) ownerOf marks) (h : s.Exact (memoryObservationCache same))
    (call : CacheCall S) :
    (s.next (memoryObservationCache same) ownerOf call).Exact (memoryObservationCache same) := by
  cases call with
  | put ownerId target reachable state observedAtMs =>
    rcases s.next_put (memoryObservationCache same) ownerOf ownerId target reachable state
      observedAtMs with ⟨c, hput, hnext⟩ | ⟨c, observed, hput, hnext⟩
    · obtain ⟨-, hlatest⟩ := marked.put_none hs.numbered (congrArg Prod.snd hput)
      rw [hput] at hlatest
      rw [hnext]
      intro o
      exact (congrFun hlatest o).trans (h o)
    · obtain ⟨hseq, -, hlatest⟩ := marked.put_some hs.numbered hs.bounded (congrArg Prod.snd hput)
      rw [hput] at hlatest
      rw [hnext]
      intro o
      show (memoryObservationCache same).latestSeq c o =
        highest (Function.update s.given ownerId (s.given ownerId ++ [observed.seq]) o)
      rw [hlatest]
      by_cases ho : o = ownerId
      · subst ho
        rw [Function.update_self, Function.update_self, highest_concat]
        intro m hm
        rw [hseq, h o]
        exact (le_highest hm).trans (Nat.le_succ _)
      · rw [Function.update_of_ne ho, Function.update_of_ne ho]
        exact h o
  | forget ownerId targets => exact h
  | poll reader => exact h

end MemoryObservationCache

theorem Watched.told_start {C S : Type} {cache : ObservationCache C S} {ownerOf : Nat → OwnerId} {c : C}
    {marks : C → OwnerId → List (Target × Nat)} (hmarks : Marked cache marks)
    (hempty : ∀ o, marks c o = []) : (Watched.start c).Told cache ownerOf := by
  refine ⟨fun _ => List.Pairwise.nil, hmarks.told_iff.mpr fun r => ?_⟩
  show (changedAfter Prod.snd 0 (marks c (ownerOf r))).map Prod.fst = []
  rw [hempty]
  rfl

theorem Watched.sound_start {C S : Type} {cache : ObservationCache C S} {ownerOf : Nat → OwnerId} {c : C}
    {marks : C → OwnerId → List (Target × Nat)} (hempty : ∀ o, marks c o = [])
    (hlatest : ∀ o, cache.latestSeq c o = 0) : (Watched.start c).Sound cache ownerOf marks := by
  refine ⟨?_, ?_, ?_, fun _ => Nat.zero_le _⟩
  · intro o
    show Numbered Prod.fst Prod.snd (marks c o)
    rw [hempty]
    exact numbered_nil
  · intro o p hp
    change p ∈ marks c o at hp
    rw [hempty] at hp
    cases hp
  · intro o
    exact (hlatest o).le

/-- **The observation stream.** Whatever is put, forgotten and polled, the cache in memory gives
every Owner ascending numbers and answers each poll with the targets that changed since the
reader's cursor was issued and were not forgotten since, in the order of the changes. The cache in
SQLite does so along a run exactly when every change is recorded while the row with the Owner's
last number is still there. -/
theorem observation_stream (ownerOf : Nat → OwnerId) :
    (∀ (S : Type) (same : S → S → Bool) (calls : List (CacheCall S)),
      (run (Watched.next (memoryObservationCache same) ownerOf)
        (.start MemoryObservationCache.empty) calls).Told (memoryObservationCache same) ownerOf) ∧
    (∀ (S : Type) (text : StateText S) (calls : List (CacheCall S)),
      Along (Watched.next (sqliteObservationCache text) ownerOf)
        (Watched.Kept (sqliteObservationCache text)) (.start []) calls ↔
      ∀ pre post, calls = pre ++ post →
        (run (Watched.next (sqliteObservationCache text) ownerOf) (.start []) pre).Told
          (sqliteObservationCache text) ownerOf) := by
  constructor
  · intro S same calls
    have hmarks : Marked (memoryObservationCache same) MemoryObservationCache.marks :=
      MemoryObservationCache.marked
    have hstart : (Watched.start MemoryObservationCache.empty).Sound (memoryObservationCache same) ownerOf
        MemoryObservationCache.marks := Watched.sound_start (fun _ => rfl) fun _ => rfl
    have hrun := run_inv (I := fun s : Watched (MemoryRows S) =>
        s.Sound (memoryObservationCache same) ownerOf MemoryObservationCache.marks ∧
        s.Exact (memoryObservationCache same) ∧ s.Told (memoryObservationCache same) ownerOf)
      (fun s call hs => ⟨hs.1.next hmarks call, MemoryObservationCache.exact_next hs.1 hs.2.1 call,
        (hs.1.told_next_iff hmarks hs.2.2 call).mpr (by
          cases call with
          | put ownerId target reachable state observedAtMs => exact .inr (hs.2.1 ownerId)
          | forget ownerId targets => trivial
          | poll reader => trivial)⟩)
      ⟨hstart, fun _ => rfl, Watched.told_start hmarks fun _ => rfl⟩ calls
    exact hrun.2.2
  · intro S text calls
    have hmarks : Marked (sqliteObservationCache text) SqliteObservationCache.marks :=
      SqliteObservationCache.marked
    exact along_iff_forall (I := fun s => s.Sound (sqliteObservationCache text) ownerOf
        SqliteObservationCache.marks)
      (fun _ call hs => hs.next hmarks call)
      (fun _ call hs htold => hs.told_next_iff hmarks htold call)
      (Watched.sound_start (fun _ => rfl) fun _ => rfl) (Watched.told_start hmarks fun _ => rfl)

/-- A lamp is seen and the reader told; the lamp is forgotten and a fan is seen. -/
def replacedLamp : List (CacheCall Unit) :=
  [.put "alice" "lamp" true none 1, .poll 0, .forget "alice" ["lamp"], .put "alice" "fan" true none 2]

/-- The fan has the number of the lamp, and the reader that has it is not told of the fan. -/
theorem change_is_hidden : ¬ ∀ (text : StateText Unit) (calls : List (CacheCall Unit)),
    (run (Watched.next (sqliteObservationCache text) fun _ => "alice") (.start []) calls).Told
      (sqliteObservationCache text) fun _ => "alice" := by
  intro h
  have htold := (h ⟨fun _ => "", fun _ => ()⟩ replacedLamp).told 0
  revert htold
  decide +kernel

end EidolonHub.SmartHome
