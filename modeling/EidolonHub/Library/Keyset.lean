import EidolonHub.Library.Run
import Mathlib.Data.List.Sort

/-!
# EidolonHub.Library.Keyset

**Listing by pages, from a key.** Every row has a key of its own in a linear order. A page holds
the first keys after a cursor; a full page hands out its last key as the next cursor, and any
other page is the last one.

What is listed may change between the pages. The cursor only ever moves up, and every key below
it that was there all along has been handed out: the pages partition the keys, whatever comes
and goes between them.
-/

namespace EidolonHub.Library.Keyset

variable {κ : Type} [LinearOrder κ]

/-- The keys after a cursor; all of them where there is none. -/
def after (cursor : Option κ) (k : κ) : Bool :=
  match cursor with
  | none => true
  | some c => c < k

/-- The first keys after the cursor. -/
def page (ks : List κ) (cursor : Option κ) (limit : Nat) : List κ :=
  ((ks.filter (after cursor)).insertionSort (· ≤ ·)).take limit

/-- The cursor a page hands out. -/
def nextCursor (limit : Nat) (p : List κ) : Option κ :=
  if p.length = limit then p.getLast? else none

/-- Who lists the pages: what came back so far, and where to go on. -/
structure Lister (κ : Type) where
  returned : List κ := []
  cursor : Option κ := none
  ended : Bool := false

/-- The next page is read from the keys that are there by then. -/
def Lister.step (limit : Nat) (l : Lister κ) (ks : List κ) : Lister κ :=
  if l.ended then l
  else
    let p := page ks l.cursor limit
    let next := nextCursor limit p
    { returned := l.returned ++ p, cursor := next, ended := next.isNone }

/-! ### One page -/

section Page

variable {ks : List κ} {cursor : Option κ} {limit : Nat} {k : κ}

theorem mem_sorted : k ∈ (ks.filter (after cursor)).insertionSort (· ≤ ·) ↔ k ∈ ks ∧ after cursor k = true := by
  rw [List.mem_insertionSort, List.mem_filter]

theorem mem_page (h : k ∈ page ks cursor limit) : k ∈ ks ∧ after cursor k = true :=
  mem_sorted.mp (List.mem_of_mem_take h)

/-- Keys that are all there once come strictly ascending. -/
theorem sorted_strict (hks : ks.Nodup) :
    ((ks.filter (after cursor)).insertionSort (· ≤ ·)).Pairwise (· < ·) := by
  have hsorted := List.pairwise_insertionSort (· ≤ ·) (ks.filter (after cursor))
  have hnodup : ((ks.filter (after cursor)).insertionSort (· ≤ ·)).Nodup :=
    (List.perm_insertionSort _ _).nodup_iff.mpr (hks.filter _)
  exact hsorted.imp₂ (fun _ _ hle hne => lt_of_le_of_ne hle hne) hnodup

theorem page_strict (hks : ks.Nodup) : (page ks cursor limit).Pairwise (· < ·) :=
  (sorted_strict hks).take

/-- A key that a page leaves out comes after all of it, and the page is full. -/
theorem page_complete (hks : ks.Nodup) (hk : k ∈ ks) (hafter : after cursor k = true)
    (hpage : k ∉ page ks cursor limit) :
    (page ks cursor limit).length = limit ∧ ∀ x ∈ page ks cursor limit, x < k := by
  have hmem := mem_sorted.mpr ⟨hk, hafter⟩
  rw [← List.take_append_drop limit ((ks.filter (after cursor)).insertionSort (· ≤ ·)),
    List.mem_append] at hmem
  have hdrop := hmem.resolve_left hpage
  constructor
  · unfold page
    rw [List.length_take]
    have hpos := List.length_pos_of_mem hdrop
    rw [List.length_drop] at hpos
    omega
  · intro x hx
    have hstrict : ((ks.filter (after cursor)).insertionSort (· ≤ ·)).Pairwise (· < ·) := sorted_strict hks
    rw [← List.take_append_drop limit ((ks.filter (after cursor)).insertionSort (· ≤ ·)),
      List.pairwise_append] at hstrict
    exact hstrict.2.2 x hx k hdrop

/-- The cursor of a full page is its greatest key. -/
theorem le_nextCursor {c : κ} (hks : ks.Nodup) (hc : c ∈ nextCursor limit (page ks cursor limit))
    (hk : k ∈ page ks cursor limit) : k ≤ c := by
  unfold nextCursor at hc
  split at hc
  · have hsorted : (page ks cursor limit).Pairwise (· ≤ ·) := (page_strict hks).imp le_of_lt
    obtain ⟨init, hinit⟩ := List.getLast?_eq_some_iff.mp hc
    rw [hinit] at hsorted hk
    rcases List.mem_append.mp hk with hk | hk
    · exact (List.pairwise_append.mp hsorted).2.2 k hk c (List.mem_singleton_self c)
    · exact le_of_eq (List.mem_singleton.mp hk)
  · cases hc

theorem nextCursor_mem {c : κ} (hc : c ∈ nextCursor limit (page ks cursor limit)) :
    c ∈ page ks cursor limit := by
  unfold nextCursor at hc
  split at hc
  · exact List.mem_of_getLast? hc
  · cases hc

theorem nextCursor_isSome (hlimit : 0 < limit) (hfull : (page ks cursor limit).length = limit) :
    (nextCursor limit (page ks cursor limit)).isSome := by
  unfold nextCursor
  rw [if_pos hfull, List.getLast?_isSome, ← List.length_pos_iff]
  omega

end Page

/-! ### All pages -/

/-- What is known of a listing, of keys that are in all the contents it has read. -/
structure Lister.Sound (l : Lister κ) (contents : List (List κ)) : Prop where
  strict : l.returned.Pairwise (· < ·)
  mem : ∀ k ∈ l.returned, ∃ ks ∈ contents, k ∈ ks
  /-- While the listing goes on, the cursor is its greatest key. -/
  below : l.ended = false → ∀ k ∈ l.returned, after l.cursor k = false
  /-- What is not after the cursor has been handed out. -/
  complete : ∀ k, (∀ ks ∈ contents, k ∈ ks) → l.ended = true ∨ after l.cursor k = false →
    k ∈ l.returned

section Lister

variable {l : Lister κ} {contents : List (List κ)} {ks : List κ} {limit : Nat}

theorem Lister.sound_start : ({} : Lister κ).Sound [] where
  strict := .nil
  mem _ h := absurd h List.not_mem_nil
  below _ _ h := absurd h List.not_mem_nil
  complete _ _ h := by simp [after] at h

theorem not_after_of_le {cursor : Option κ} {c k : κ} (hc : c ∈ cursor) (h : k ≤ c) :
    after cursor k = false := by
  rw [Option.mem_def] at hc
  subst hc
  simpa [after] using h

theorem after_of_not_after {cursor : Option κ} {k k' : κ} (hk : after cursor k = false)
    (hk' : after cursor k' = true) : k < k' := by
  cases cursor with
  | none => simp [after] at hk
  | some c =>
    simp only [after, decide_eq_false_iff_not, not_lt, decide_eq_true_eq] at hk hk'
    exact lt_of_le_of_lt hk hk'

/-- One more page, of the keys that are there by then. -/
theorem Lister.Sound.step (h : l.Sound contents) (hks : ks.Nodup) (hlimit : 0 < limit) :
    (l.step limit ks).Sound (contents ++ [ks]) := by
  unfold Lister.step
  split
  · next hended =>
    refine ⟨h.strict, ?_, fun hgoes => ?_, ?_⟩
    · intro k hk
      obtain ⟨ks', hks', hmem⟩ := h.mem k hk
      exact ⟨ks', List.mem_append_left _ hks', hmem⟩
    · rw [hended] at hgoes
      cases hgoes
    · intro k hk _
      exact h.complete k (fun ks' hks' => hk ks' (List.mem_append_left _ hks')) (.inl hended)
  · next hended =>
    have hgoes : l.ended = false := by simpa using hended
    refine ⟨?_, ?_, ?_, ?_⟩
    · refine List.pairwise_append.mpr ⟨h.strict, page_strict hks, ?_⟩
      intro k hk k' hk'
      exact after_of_not_after (h.below hgoes k hk) (mem_page hk').2
    · intro k hk
      rcases List.mem_append.mp hk with hk | hk
      · obtain ⟨ks', hks', hmem⟩ := h.mem k hk
        exact ⟨ks', List.mem_append_left _ hks', hmem⟩
      · exact ⟨ks, List.mem_append_right _ (List.mem_singleton_self ks), (mem_page hk).1⟩
    · intro hnext k hk
      obtain ⟨c, hc⟩ := Option.isSome_iff_exists.mp (Option.isNone_eq_false_iff.mp hnext)
      have hcmem : c ∈ nextCursor limit (page ks l.cursor limit) := hc
      rcases List.mem_append.mp hk with hk | hk
      · -- the new cursor comes after what was handed out before
        have hlt := after_of_not_after (h.below hgoes k hk) (mem_page (nextCursor_mem hcmem)).2
        exact not_after_of_le hcmem (le_of_lt hlt)
      · exact not_after_of_le hcmem (le_nextCursor hks hcmem hk)
    · intro k hk hreached
      have hthroughout : ∀ ks' ∈ contents, k ∈ ks' := fun ks' hks' => hk ks' (List.mem_append_left _ hks')
      have hmem : k ∈ ks := hk ks (List.mem_append_right _ (List.mem_singleton_self ks))
      cases hafter : after l.cursor k with
      | false => exact List.mem_append_left _ (h.complete k hthroughout (.inr hafter))
      | true =>
        refine List.mem_append_right _ ?_
        by_contra hpage
        obtain ⟨hfull, hgreater⟩ := page_complete hks hmem hafter hpage
        obtain ⟨c, hc⟩ := Option.isSome_iff_exists.mp (nextCursor_isSome hlimit hfull)
        have hlt : c < k := hgreater c (nextCursor_mem hc)
        rcases hreached with hnone | hreached
        · simp only [hc] at hnone
          cases hnone
        · simp only [hc, after, decide_eq_false_iff_not] at hreached
          exact hreached hlt

/-- **Paging is complete**, whatever changes between the pages. -/
theorem sound_run (hlimit : 0 < limit) (hcontents : ∀ ks ∈ contents, ks.Nodup) :
    (run (Lister.step limit) ({} : Lister κ) contents).Sound contents := by
  induction contents using List.reverseRec with
  | nil => exact Lister.sound_start
  | append_singleton contents ks ih =>
    rw [run_concat]
    refine (ih fun ks' hks' => hcontents ks' (List.mem_append_left _ hks')).step ?_ hlimit
    exact hcontents ks (List.mem_append_right _ (List.mem_singleton_self ks))

/-- What is left to hand out. -/
def Lister.left (l : Lister κ) (ks : List κ) : Nat :=
  if l.ended then 0 else (ks.filter (after l.cursor)).length + 1

theorem Lister.left_step (hgoes : l.ended = false) : (l.step limit ks).left ks < l.left ks := by
  unfold Lister.step
  simp only [hgoes, Bool.false_eq_true, if_false]
  cases hnext : nextCursor limit (page ks l.cursor limit) with
  | none => simp [Lister.left, hgoes]
  | some c =>
    have hc := mem_page (nextCursor_mem (Option.mem_def.mpr hnext))
    -- what comes after the new cursor came after the old one, and the new cursor itself is gone
    have hfilter : ks.filter (after (some c)) = (ks.filter (after l.cursor)).filter (after (some c)) := by
      rw [List.filter_filter]
      refine List.filter_congr fun k _ => ?_
      cases hk : after (some c) k with
      | false => rfl
      | true =>
        cases hcursor : l.cursor with
        | none => rfl
        | some c' =>
          simp only [hcursor, after, decide_eq_true_eq] at hk hc ⊢
          exact (decide_eq_true (lt_trans hc.2 hk)).symm
    have hlt : (ks.filter (after (some c))).length < (ks.filter (after l.cursor)).length := by
      rw [hfilter, List.length_filter_lt_length_iff_exists]
      exact ⟨c, List.mem_filter.mpr hc, by simp [after]⟩
    simpa [Lister.left, hgoes] using hlt

/-- Paging ends once nothing changes any more. -/
theorem Lister.ends {n : Nat} (hn : l.left ks ≤ n) :
    (run (Lister.step limit) l (List.replicate n ks)).ended = true := by
  induction n generalizing l with
  | zero =>
    cases hended : l.ended with
    | true => exact hended
    | false => simp [Lister.left, hended] at hn
  | succ n ih =>
    rw [List.replicate_succ, run_cons]
    refine ih ?_
    cases hended : l.ended with
    | true =>
      have hstep : l.step limit ks = l := if_pos hended
      rw [hstep]
      simp [Lister.left, hended]
    | false =>
      have hlt : (l.step limit ks).left ks < l.left ks := l.left_step hended
      omega

theorem Lister.left_le : l.left ks ≤ ks.length + 1 := by
  unfold Lister.left
  split
  · exact Nat.zero_le _
  · exact Nat.succ_le_succ (List.length_filter_le _ ks)

end Lister

end EidolonHub.Library.Keyset
