import Mathlib.Data.List.Basic
import Mathlib.Data.List.Sort

/-!
# EidolonHub.Library.ChangeLog

**Rows that carry the number of their last change.** A row is stored under its key, and a
changed row takes a number above all others. What changed after a number is read off the
rows that are left, in the order of the changes.

As long as numbers are distinct, the rows after a number are a strictly ascending list, and
such a list is determined by its members; so every law of `changedAfter` is a fact about
membership.
-/

namespace EidolonHub.Library

variable {ρ κ : Type} (key : ρ → κ) (seq : ρ → Nat)

/-- The rows that changed after a number, in the order of their changes. -/
def changedAfter (n : Nat) (rows : List ρ) : List ρ :=
  (rows.filter fun r => n < seq r).insertionSort fun r s => seq r ≤ seq s

/-- Every key and every number is taken once. -/
structure Numbered (rows : List ρ) : Prop where
  keys : (rows.map key).Nodup
  seqs : (rows.map seq).Nodup

variable {key seq} {row r : ρ} {rows : List ρ} {n : Nat}

theorem Numbered.filter (h : Numbered key seq rows) (p : ρ → Bool) :
    Numbered key seq (rows.filter p) :=
  ⟨h.keys.sublist (List.filter_sublist.map key), h.seqs.sublist (List.filter_sublist.map seq)⟩

theorem numbered_nil : Numbered key seq [] := ⟨List.nodup_nil, List.nodup_nil⟩

/-! ### Reading -/

@[simp] theorem mem_changedAfter : r ∈ changedAfter seq n rows ↔ r ∈ rows ∧ n < seq r := by
  simp [changedAfter]

/-- What is read is strictly ascending. -/
theorem Numbered.changedAfter_pairwise (h : Numbered key seq rows) :
    (changedAfter seq n rows).Pairwise fun r s => seq r < seq s := by
  have htotal : Std.Total fun r s : ρ => seq r ≤ seq s := ⟨fun r s => Nat.le_total _ _⟩
  have htrans : IsTrans ρ fun r s => seq r ≤ seq s := ⟨fun _ _ _ => Nat.le_trans⟩
  have hsorted := List.pairwise_insertionSort (fun r s : ρ => seq r ≤ seq s)
    (rows.filter fun r => n < seq r)
  have hnodup : ((changedAfter seq n rows).map seq).Nodup :=
    ((List.perm_insertionSort _ _).map seq).nodup_iff.mpr
      ((h.filter fun r => n < seq r).seqs)
  have hne : (changedAfter seq n rows).Pairwise fun r s => seq r ≠ seq s := List.pairwise_map.mp hnodup
  exact hsorted.imp₂ (fun _ _ hle hlt => Nat.lt_of_le_of_ne hle hlt) hne

/-- A strictly ascending list with the members that changed is what is read. -/
theorem Numbered.changedAfter_eq (h : Numbered key seq rows) {found : List ρ}
    (hfound : found.Pairwise fun r s => seq r < seq s)
    (hmem : ∀ r, r ∈ found ↔ r ∈ rows ∧ n < seq r) : changedAfter seq n rows = found := by
  have hirrefl : Std.Irrefl fun r s : ρ => seq r < seq s := ⟨fun _ => Nat.lt_irrefl _⟩
  have hantisymm : Std.Antisymm fun r s : ρ => seq r < seq s :=
    ⟨fun _ _ hrs hsr => absurd (Nat.lt_trans hrs hsr) (Nat.lt_irrefl _)⟩
  exact h.changedAfter_pairwise.eq_of_mem_iff hfound fun r => mem_changedAfter.trans (hmem r).symm

/-- Rows that are dropped are not read, and the others are read as before. -/
theorem Numbered.changedAfter_filter (h : Numbered key seq rows) (p : ρ → Bool) :
    changedAfter seq n (rows.filter p) = (changedAfter seq n rows).filter p := by
  apply (h.filter p).changedAfter_eq
  · exact h.changedAfter_pairwise.filter p
  · intro r
    simp only [List.mem_filter, mem_changedAfter]
    exact and_right_comm

/-- Nothing changed after a number that no row exceeds. -/
theorem changedAfter_eq_nil (h : ∀ r ∈ rows, seq r ≤ n) : changedAfter seq n rows = [] := by
  rw [List.eq_nil_iff_forall_not_mem]
  intro r hr
  rw [mem_changedAfter] at hr
  exact absurd hr.2 (Nat.not_lt.mpr (h r hr.1))

/-- What is read of the rows is read of anything that keeps their numbers. -/
theorem map_changedAfter {τ : Type} {f : ρ → τ} {seq' : τ → Nat} (hf : ∀ r, seq' (f r) = seq r) :
    (changedAfter seq n rows).map f = changedAfter seq' n (rows.map f) := by
  unfold changedAfter
  rw [List.map_insertionSort (fun r s => seq r ≤ seq s) (fun p q => seq' p ≤ seq' q) f _
    fun r _ s _ => by rw [hf, hf], List.filter_map]
  congr 3
  funext r
  simp [hf]

/-- The number a reader goes on from: that of the last row it was given. -/
theorem Numbered.le_getLast (h : Numbered key seq rows) {last : ρ}
    (hlast : (changedAfter seq n rows).getLast? = some last) (hr : r ∈ rows) : seq r ≤ seq last := by
  by_cases hlt : n < seq r
  · have hmem : r ∈ changedAfter seq n rows := mem_changedAfter.mpr ⟨hr, hlt⟩
    obtain ⟨init, hinit⟩ := List.getLast?_eq_some_iff.mp hlast
    have hsorted := h.changedAfter_pairwise (n := n)
    rw [hinit] at hmem hsorted
    rcases List.mem_append.mp hmem with hr' | hr'
    · exact Nat.le_of_lt ((List.pairwise_append.mp hsorted).2.2 r hr' last (List.mem_singleton_self _))
    · rw [List.mem_singleton.mp hr']
  · have hmem := List.mem_of_getLast? hlast
    exact (Nat.not_lt.mp hlt).trans (Nat.le_of_lt (mem_changedAfter.mp hmem).2)

/-! ### Storing -/

variable [DecidableEq κ]

/-- Store a row under its key, in the place of the row that was there. -/
def place (key : ρ → κ) (row : ρ) (rows : List ρ) : List ρ :=
  if rows.any fun r => key r = key row then rows.map fun r => if key r = key row then row else r
  else rows ++ [row]

theorem mem_place : r ∈ place key row rows ↔ r = row ∨ (r ∈ rows ∧ key r ≠ key row) := by
  unfold place
  split
  · next hany =>
    rw [List.any_eq_true] at hany
    obtain ⟨old, hold, hkey⟩ := hany
    rw [List.mem_map]
    constructor
    · rintro ⟨s, hs, rfl⟩
      by_cases hs' : key s = key row
      · exact .inl (if_pos hs')
      · rw [if_neg hs']
        exact .inr ⟨hs, hs'⟩
    · rintro (rfl | ⟨hr, hne⟩)
      · exact ⟨old, hold, if_pos (of_decide_eq_true hkey)⟩
      · exact ⟨r, hr, if_neg hne⟩
  · next hnone =>
    have hnew : ∀ s ∈ rows, key s ≠ key row := by
      intro s hs heq
      exact hnone (List.any_eq_true.mpr ⟨s, hs, decide_eq_true heq⟩)
    rw [List.mem_append, List.mem_singleton]
    constructor
    · rintro (hr | rfl)
      · exact .inr ⟨hr, hnew r hr⟩
      · exact .inl rfl
    · rintro (rfl | ⟨hr, -⟩)
      · exact .inr rfl
      · exact .inl hr

/-- What keeps the keys may be applied before a row is stored or after. -/
theorem map_place {τ : Type} {f : ρ → τ} {key' : τ → κ} (hf : ∀ r, key' (f r) = key r) :
    (place key row rows).map f = place key' (f row) (rows.map f) := by
  have hany : (rows.map f).any (fun r => key' r = key' (f row)) =
      rows.any fun r => key r = key row := by
    rw [List.any_map]
    congr 1
    funext r
    simp [hf]
  unfold place
  rw [hany]
  split
  · rw [List.map_map, List.map_map]
    refine List.map_congr_left fun r _ => ?_
    by_cases hr : key r = key row <;> simp [hf, hr]
  · rw [List.map_append, List.map_singleton]

/-- A row that is stored in the place of one that agrees with it on `f` changes nothing of `f`. -/
theorem map_place_eq {τ : Type} {f : ρ → τ} (hkeys : (rows.map key).Nodup) (hr : r ∈ rows)
    (hkey : key r = key row) (hf : f row = f r) : (place key row rows).map f = rows.map f := by
  have hany : (rows.any fun r => key r = key row) = true :=
    List.any_eq_true.mpr ⟨r, hr, decide_eq_true hkey⟩
  unfold place
  rw [if_pos hany, List.map_map]
  refine List.map_congr_left fun s hs => ?_
  by_cases hs' : key s = key row
  · have hsame : s = r := List.inj_on_of_nodup_map hkeys hs hr (hs'.trans hkey.symm)
    subst hsame
    simp [hs', hf]
  · simp [hs']

/-- Which column is the key does not matter where both tell the row from the others. -/
theorem place_congr {κ' : Type} [DecidableEq κ'] {key' : ρ → κ'}
    (h : ∀ r ∈ rows, key r = key row ↔ key' r = key' row) : place key row rows = place key' row rows := by
  have hany : (rows.any fun r => key r = key row) = rows.any fun r => key' r = key' row := by
    rw [Bool.eq_iff_iff, List.any_eq_true, List.any_eq_true]
    exact exists_congr fun r => and_congr_right fun hr => by simp [h r hr]
  unfold place
  rw [hany]
  split
  · exact List.map_congr_left fun r hr => if_congr (h r hr) rfl rfl
  · rfl

/-- A selection by key that takes the row. -/
theorem filter_place {p : ρ → Bool} (hp : ∀ r, key r = key row → p r = true) :
    (place key row rows).filter p = place key row (rows.filter p) := by
  have hany : (rows.filter p).any (fun r => key r = key row) = rows.any fun r => key r = key row := by
    rw [List.any_filter]
    congr 1
    funext r
    by_cases hr : key r = key row <;> simp [hr, hp]
  unfold place
  rw [hany]
  split
  · rw [List.filter_map]
    congr 1
    refine List.filter_congr fun r _ => ?_
    by_cases hr : key r = key row <;> simp [hr, hp]
  · rw [List.filter_append, List.filter_singleton, hp row rfl]
    rfl

/-- A selection by key that leaves the row out. -/
theorem filter_place_of_not {p : ρ → Bool} (hp : ∀ r, key r = key row → p r = false) :
    (place key row rows).filter p = rows.filter p := by
  unfold place
  split
  · rw [List.filter_map]
    have hfilter : rows.filter (p ∘ fun r => if key r = key row then row else r) = rows.filter p := by
      refine List.filter_congr fun r _ => ?_
      by_cases hr : key r = key row <;> simp [hr, hp]
    rw [hfilter]
    conv_rhs => rw [← List.map_id (rows.filter p)]
    refine List.map_congr_left fun r hr => ?_
    by_cases hkey : key r = key row
    · have hpr := List.of_mem_filter hr
      rw [hp r hkey] at hpr
      cases hpr
    · simp [hkey]
  · rw [List.filter_append, List.filter_singleton, hp row rfl]
    simp

/-- What is found under a key after a row is stored. -/
theorem find?_place {k : κ} : (place key row rows).find? (fun r => key r = k) =
    if key row = k then some row else rows.find? fun r => key r = k := by
  unfold place
  split
  · next hany =>
    rw [List.find?_map]
    have hcomp : ((fun r => decide (key r = k)) ∘ fun r => if key r = key row then row else r) =
        fun r => decide (key r = k) := by
      funext r
      by_cases hr : key r = key row <;> simp [hr]
    rw [hcomp]
    split
    · next hrow =>
      subst hrow
      obtain ⟨old, hold⟩ := Option.isSome_iff_exists.mp (List.find?_isSome.mpr (List.any_eq_true.mp hany))
      have hkey : key old = key row := by simpa using List.find?_some hold
      simp [hold, hkey]
    · next hrow =>
      cases hfind : rows.find? fun r => key r = k with
      | none => rfl
      | some found =>
        have hkey : key found = k := by simpa using List.find?_some hfind
        have hne : key found ≠ key row := fun heq => hrow (heq.symm.trans hkey)
        simp [hne]
  · next hnone =>
    rw [List.find?_append, List.find?_singleton]
    by_cases hrow : key row = k
    · subst hrow
      have hold : rows.find? (fun r => key r = key row) = none := by
        rw [List.find?_eq_none]
        intro r hr heq
        exact hnone (List.any_eq_true.mpr ⟨r, hr, heq⟩)
      simp [hold]
    · simp [hrow]

/-- Every key is taken once. -/
theorem nodup_place (h : (rows.map key).Nodup) : ((place key row rows).map key).Nodup := by
  unfold place
  split
  · have hsame : (rows.map fun r => if key r = key row then row else r).map key = rows.map key := by
      rw [List.map_map]
      refine List.map_congr_left fun r _ => ?_
      by_cases hr : key r = key row <;> simp [hr]
    rw [hsame]
    exact h
  · next hnone =>
    rw [List.map_append, List.map_singleton]
    refine List.nodup_append.mpr ⟨h, List.nodup_singleton _, ?_⟩
    intro a ha b hb heq
    obtain ⟨s, hs, rfl⟩ := List.mem_map.mp ha
    exact hnone (List.any_eq_true.mpr ⟨s, hs, decide_eq_true (heq.trans (List.mem_singleton.mp hb))⟩)

/-- A row with a number of its own can be stored. -/
theorem Numbered.place (h : Numbered key seq rows)
    (hseq : ∀ r ∈ rows, key r ≠ key row → seq r ≠ seq row) : Numbered key seq (place key row rows) := by
  have hkeys := List.pairwise_map.mp h.keys
  have hseqs := List.pairwise_map.mp h.seqs
  refine ⟨nodup_place h.keys, ?_⟩
  unfold Library.place
  split
  · refine List.pairwise_map.mpr (List.pairwise_map.mpr ?_)
    refine (hkeys.and hseqs).imp_of_mem fun {r s} hr hs hne => ?_
    obtain ⟨hkey, hseq_ne⟩ := hne
    by_cases hr' : key r = key row
    · have hs' : key s ≠ key row := fun heq => hkey (hr'.trans heq.symm)
      simp only [if_pos hr', if_neg hs']
      exact (hseq s hs hs').symm
    · by_cases hs' : key s = key row
      · simp only [if_neg hr', if_pos hs']
        exact hseq r hr hr'
      · simp only [if_neg hr', if_neg hs']
        exact hseq_ne
  · next hnone =>
    rw [List.map_append, List.map_singleton]
    refine List.nodup_append.mpr ⟨h.seqs, List.nodup_singleton _, ?_⟩
    intro a ha b hb
    obtain ⟨s, hs, rfl⟩ := List.mem_map.mp ha
    rw [List.mem_singleton.mp hb]
    refine hseq s hs fun heq => ?_
    exact hnone (List.any_eq_true.mpr ⟨s, hs, decide_eq_true heq⟩)

/-- The last change is read last, and what its key had before is not read any more. -/
theorem Numbered.changedAfter_place (h : Numbered key seq rows) (hlast : ∀ r ∈ rows, seq r < seq row)
    (hn : n < seq row) : changedAfter seq n (Library.place key row rows) =
      (changedAfter seq n rows).filter (fun r => key r ≠ key row) ++ [row] := by
  have hplaced : Numbered key seq (Library.place key row rows) :=
    h.place fun r hr _ => Nat.ne_of_lt (hlast r hr)
  apply hplaced.changedAfter_eq
  · rw [List.pairwise_append]
    refine ⟨h.changedAfter_pairwise.filter _, List.pairwise_singleton _ _, ?_⟩
    intro r hr s hs
    rw [List.mem_singleton.mp hs]
    exact hlast r (mem_changedAfter.mp (List.mem_of_mem_filter hr)).1
  · intro r
    simp only [List.mem_append, List.mem_filter, mem_changedAfter, List.mem_singleton, mem_place,
      ne_eq, decide_eq_true_eq]
    constructor
    · rintro (⟨⟨hr, hlt⟩, hne⟩ | rfl)
      · exact ⟨.inr ⟨hr, hne⟩, hlt⟩
      · exact ⟨.inl rfl, hn⟩
    · rintro ⟨rfl | ⟨hr, hne⟩, hlt⟩
      · exact .inr rfl
      · exact .inl ⟨⟨hr, hlt⟩, hne⟩

end EidolonHub.Library
