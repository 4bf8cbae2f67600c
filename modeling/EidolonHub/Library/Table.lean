import Mathlib.Data.List.Find
import Mathlib.Data.List.Pairwise

/-!
# EidolonHub.Library.Table

**Relational tables with unique columns**, as lists in insertion order.

A row type says once, through `Keyed.clash`, when two of its rows may not be
stored together (equal primary keys, or equal values in a unique column). A
`Table` carries the proof that no two of its rows clash, so an insertion
either respects every unique constraint or has no result (`insert?`), and
rewriting a row (`modify`) takes a proof that the constraints survive it.

Lookups go through a column (`get`); for a unique column, membership and
lookup say the same thing (`get_eq_some_iff`).
-/

namespace EidolonHub.Library

/-- A row type with its uniqueness constraints. -/
class Keyed (ρ : Type) where
  /-- The two rows violate a uniqueness constraint when stored together. -/
  clash : ρ → ρ → Bool
  clash_symm : ∀ r s, clash r s = clash s r

/-- A table: rows in insertion order, no two of which clash. -/
structure Table (ρ : Type) [Keyed ρ] where
  rows : List ρ
  unique : rows.Pairwise fun r s => Keyed.clash r s = false

namespace Table

variable {ρ κ : Type} [Keyed ρ]

instance : Membership ρ (Table ρ) := ⟨fun t r => r ∈ t.rows⟩

theorem mem_def {t : Table ρ} {r : ρ} : r ∈ t ↔ r ∈ t.rows := Iff.rfl

/-- The table without rows. -/
def empty : Table ρ := ⟨[], List.Pairwise.nil⟩

@[simp] theorem not_mem_empty {r : ρ} : ¬ r ∈ (empty : Table ρ) := List.not_mem_nil

@[simp] theorem empty_rows : (empty : Table ρ).rows = [] := rfl

/-- Equal rows are all that two clashing members can be. -/
theorem eq_of_clash {t : Table ρ} {r s : ρ} (hr : r ∈ t) (hs : s ∈ t)
    (h : Keyed.clash r s = true) : r = s := by
  by_contra hne
  have hsymm : Std.Symm fun r s : ρ => Keyed.clash r s = false :=
    ⟨fun a b hab => by rw [Keyed.clash_symm]; exact hab⟩
  have := t.unique.forall hr hs hne
  simp [h] at this

/-- A row of a table is stored once, when it clashes with itself. -/
theorem nodup {t : Table ρ} (hself : ∀ r : ρ, Keyed.clash r r = true) : t.rows.Nodup :=
  t.unique.imp fun {r s} h heq => by
    subst heq
    simp [hself] at h

/-! ### Unique columns and lookups -/

/-- The column `k` is unique: rows that agree on it clash. -/
def IsKey (k : ρ → κ) : Prop := ∀ r s, k r = k s → Keyed.clash r s = true

/-- Two members with the same value in a unique column are one row. -/
theorem eq_of_key {t : Table ρ} {k : ρ → κ} {r s : ρ} (hk : IsKey k) (hr : r ∈ t) (hs : s ∈ t)
    (h : k r = k s) : r = s :=
  eq_of_clash hr hs (hk r s h)

/-- No value stands twice in a unique column. -/
theorem keys_nodup (t : Table ρ) {k : ρ → κ} (hk : IsKey k) : (t.rows.map k).Nodup := by
  refine List.pairwise_map.mpr (t.unique.imp fun {r s} h heq => ?_)
  rw [hk r s heq] at h
  cases h

/-- The first row whose column `k` holds `x`. -/
def get [DecidableEq κ] (t : Table ρ) (k : ρ → κ) (x : κ) : Option ρ :=
  t.rows.find? fun r => k r = x

variable [DecidableEq κ] {t t' : Table ρ} {k : ρ → κ} {x : κ} {r s : ρ}

@[simp] theorem get_empty : (empty : Table ρ).get k x = none := rfl

theorem get_mem (h : t.get k x = some r) : r ∈ t := List.mem_of_find?_eq_some h

theorem get_key (h : t.get k x = some r) : k r = x := by
  simpa using List.find?_some h

theorem get_eq_none_iff : t.get k x = none ↔ ∀ r ∈ t, k r ≠ x := by
  simp [get, List.find?_eq_none, mem_def]

/-- In a unique column, a lookup finds exactly the member with that value. -/
theorem get_eq_some_iff (hk : IsKey k) : t.get k x = some r ↔ r ∈ t ∧ k r = x := by
  constructor
  · intro h
    exact ⟨get_mem h, get_key h⟩
  · rintro ⟨hr, rfl⟩
    cases hg : t.get k (k r) with
    | none => exact absurd rfl (get_eq_none_iff.mp hg r hr)
    | some s => rw [eq_of_clash (get_mem hg) hr (hk s r (get_key hg))]

theorem get_of_mem (hk : IsKey k) (hr : r ∈ t) : t.get k (k r) = some r :=
  (get_eq_some_iff hk).mpr ⟨hr, rfl⟩

/-! ### Insertion -/

/-- Append a row; no result when it clashes with a stored one. -/
def insert? (t : Table ρ) (r : ρ) : Option (Table ρ) :=
  if h : ∀ s ∈ t.rows, Keyed.clash s r = false then
    some ⟨t.rows ++ [r], by
      rw [List.pairwise_append]
      exact ⟨t.unique, List.pairwise_singleton _ _, by simpa using h⟩⟩
  else none

theorem insert?_eq_some_iff :
    t.insert? r = some t' ↔
      (∀ s ∈ t, Keyed.clash s r = false) ∧ t'.rows = t.rows ++ [r] := by
  unfold insert?
  split
  · next h =>
    rw [Option.some.injEq]
    constructor
    · rintro rfl
      exact ⟨h, rfl⟩
    · rintro ⟨-, hrows⟩
      cases t'
      simp_all
  · next h =>
    simp only [reduceCtorEq, false_iff, not_and]
    exact fun h' => absurd h' h

theorem insert?_rows (h : t.insert? r = some t') : t'.rows = t.rows ++ [r] :=
  (insert?_eq_some_iff.mp h).2

/-- An insertion that clashes with nothing succeeds. -/
theorem insert?_isSome (h : ∀ s ∈ t, Keyed.clash s r = false) : ∃ t', t.insert? r = some t' := by
  unfold insert?
  exact ⟨_, dif_pos h⟩

/-- Whether a row can be inserted depends on what it clashes with only. -/
theorem insert?_of_clash_eq (r' : ρ) (h : t.insert? r = some t')
    (hclash : ∀ s, Keyed.clash s r' = Keyed.clash s r) : ∃ t'', t.insert? r' = some t'' :=
  insert?_isSome fun s hs => by
    rw [hclash]
    exact (insert?_eq_some_iff.mp h).1 s hs

theorem mem_insert (h : t.insert? r = some t') : s ∈ t' ↔ s ∈ t ∨ s = r := by
  rw [mem_def, insert?_rows h]
  simp [mem_def]

/-- An inserted row's value in a unique column is new. -/
theorem fresh_of_insert (h : t.insert? r = some t') (hk : IsKey k) : t.get k (k r) = none := by
  rw [get_eq_none_iff]
  intro s hs heq
  have := (insert?_eq_some_iff.mp h).1 s hs
  rw [hk s r heq] at this
  simp at this

theorem get_insert (h : t.insert? r = some t') (hk : IsKey k) :
    t'.get k x = if x = k r then some r else t.get k x := by
  unfold get
  rw [insert?_rows h, List.find?_append]
  by_cases hx : x = k r
  · subst hx
    have hfresh := fresh_of_insert h hk
    unfold get at hfresh
    simp [hfresh]
  · have hne : ¬ k r = x := fun heq => hx heq.symm
    simp [hx, hne]

/-! ### Rewriting rows -/

/-- `f` leaves every uniqueness constraint of a row as it was. -/
def Keeps (f : ρ → ρ) : Prop := ∀ r s, Keyed.clash (f r) s = Keyed.clash r s

theorem Keeps.right {f : ρ → ρ} (hf : Keeps f) (r s : ρ) :
    Keyed.clash r (f s) = Keyed.clash r s := by
  rw [Keyed.clash_symm, hf, Keyed.clash_symm]

/-- Apply `f` to the rows whose column `k` holds `x`. -/
def modify (t : Table ρ) (k : ρ → κ) (x : κ) (f : ρ → ρ) (hf : Keeps f) : Table ρ where
  rows := t.rows.map fun r => if k r = x then f r else r
  unique := by
    rw [List.pairwise_map]
    refine t.unique.imp ?_
    intro r s hrs
    split <;> split <;> simp only [hf r, hf.right, hrs]

variable {f : ρ → ρ}

theorem mem_modify {hf : Keeps f} : s ∈ t.modify k x f hf ↔ ∃ r ∈ t, s = if k r = x then f r else r := by
  simp [mem_def, modify, eq_comm]

theorem modify_mem (hf : Keeps f) (hr : r ∈ t) (h : k r = x) : f r ∈ t.modify k x f hf :=
  mem_modify.mpr ⟨r, hr, (if_pos h).symm⟩

@[simp] theorem modify_rows {hf : Keeps f} :
    (t.modify k x f hf).rows = t.rows.map fun r => if k r = x then f r else r := rfl

/-- A lookup after a rewrite that keeps the looked-up column. -/
theorem get_modify {hf : Keeps f} {κ' : Type} [DecidableEq κ'] {k' : ρ → κ'} {y : κ'}
    (hk' : ∀ r, k' (f r) = k' r) :
    (t.modify k x f hf).get k' y = (t.get k' y).map fun r => if k r = x then f r else r := by
  unfold get
  rw [modify_rows, List.find?_map]
  congr 2
  funext r
  simp only [Function.comp]
  split <;> simp [hk']

/-- `get_modify` in the column that selects the rewritten row. -/
theorem get_modify_self (hf : Keeps f) (hk : ∀ r, k (f r) = k r) {y : κ} :
    (t.modify k x f hf).get k y = if y = x then (t.get k y).map f else t.get k y := by
  rw [get_modify hk]
  by_cases hy : y = x
  · subst hy
    cases hg : t.get k y with
    | none => simp
    | some r => simp [get_key hg]
  · cases hg : t.get k y with
    | none => simp [hy]
    | some r =>
      have hr : ¬ k r = x := fun h => hy ((get_key hg).symm.trans h)
      simp [hy, hr]

/-- Rewriting one member, seen through a unique column that the rewrite keeps. -/
theorem get_modify_mem {κ' : Type} [DecidableEq κ'] {k' : ρ → κ'} {y : κ'} (hf : Keeps f)
    (hk : IsKey k) (hk' : IsKey k') (hf' : ∀ r, k' (f r) = k' r) (hr : r ∈ t) :
    (t.modify k (k r) f hf).get k' y = if y = k' r then some (f r) else t.get k' y := by
  rw [get_modify hf']
  by_cases hy : y = k' r
  · subst hy
    simp [get_of_mem hk' hr]
  · cases hg : t.get k' y with
    | none => simp [hy]
    | some s =>
      have hs : ¬ k s = k r := by
        intro h
        rw [eq_of_key hk (get_mem hg) hr h] at hg
        exact hy (get_key hg).symm
      simp [hy, hs]

/-! ### Rewriting every row -/

@[ext] theorem ext {t t' : Table ρ} (h : t.rows = t'.rows) : t = t' := by
  cases t
  cases t'
  simpa using h

/-- Apply `f` to every row. -/
def map (t : Table ρ) (f : ρ → ρ) (hf : Keeps f) : Table ρ where
  rows := t.rows.map f
  unique := by
    rw [List.pairwise_map]
    refine t.unique.imp ?_
    intro r s hrs
    rw [hf r, hf.right, hrs]

@[simp] theorem map_rows {hf : Keeps f} : (t.map f hf).rows = t.rows.map f := rfl

theorem mem_map {hf : Keeps f} : s ∈ t.map f hf ↔ ∃ r ∈ t, f r = s := List.mem_map

theorem get_map {hf : Keeps f} (hk : ∀ r, k (f r) = k r) :
    (t.map f hf).get k x = (t.get k x).map f := by
  unfold get
  rw [map_rows, List.find?_map]
  congr 2
  funext r
  simp only [Function.comp, hk]

/-! ### Removing rows -/

/-- The rows that meet a condition. -/
def filter (t : Table ρ) (p : ρ → Bool) : Table ρ where
  rows := t.rows.filter p
  unique := t.unique.filter p

@[simp] theorem filter_rows {p : ρ → Bool} : (t.filter p).rows = t.rows.filter p := rfl

theorem mem_filter {p : ρ → Bool} : r ∈ t.filter p ↔ r ∈ t ∧ p r = true := List.mem_filter

theorem filter_filter_comm (t : Table ρ) (p q : ρ → Bool) :
    (t.filter q).filter p = (t.filter p).filter q := by
  refine ext ?_
  simp only [filter_rows, List.filter_filter, Bool.and_comm]

/-- Removing rows is not seen among rows that all stay. -/
theorem filter_filter_of_imp {p q : ρ → Bool} (h : ∀ r ∈ t, p r = true → q r = true) :
    (t.filter q).filter p = t.filter p := by
  refine ext ?_
  simp only [filter_rows, List.filter_filter]
  refine List.filter_congr fun r hr => ?_
  cases hp : p r with
  | false => rfl
  | true => exact h r hr hp

/-- A rewrite that does not change which rows meet a condition. -/
theorem filter_modify {p : ρ → Bool} {hf : Keeps f} (hp : ∀ r ∈ t, k r = x → p (f r) = p r) :
    (t.modify k x f hf).filter p = (t.filter p).modify k x f hf := by
  refine ext ?_
  simp only [filter_rows, modify_rows, List.filter_map]
  refine congrArg _ (List.filter_congr fun r hr => ?_)
  simp only [Function.comp]
  split
  · next h => exact hp r hr h
  · rfl

/-- A rewrite of rows that do not meet a condition, before or after. -/
theorem filter_modify_of_not {p : ρ → Bool} {hf : Keeps f}
    (hp : ∀ r ∈ t, k r = x → p r = false ∧ p (f r) = false) :
    (t.modify k x f hf).filter p = t.filter p := by
  rw [filter_modify fun r hr hx => by rw [(hp r hr hx).1, (hp r hr hx).2]]
  refine ext ?_
  rw [modify_rows]
  refine (List.map_congr_left (g := id) fun r hr => ?_).trans (List.map_id _)
  have hr' := mem_filter.mp (show r ∈ t.filter p from hr)
  refine if_neg fun hx => ?_
  rw [(hp r hr'.1 hx).1] at hr'
  exact absurd hr'.2 Bool.false_ne_true

theorem get_filter {p : ρ → Bool} (hp : ∀ r ∈ t, k r = x → p r = true) :
    (t.filter p).get k x = t.get k x := by
  unfold get
  rw [filter_rows, List.find?_filter]
  refine List.find?_congr fun r hr => ?_
  by_cases hx : k r = x
  · simp [hx, hp r hr hx]
  · simp [hx]

/-! ### Inserting or rewriting -/

/-- Append a row, or rewrite the one that is stored under its key. -/
def upsert (t : Table ρ) (k : ρ → κ) (r : ρ) (f : ρ → ρ) (hf : Keeps f) : Table ρ :=
  match t.insert? r with
  | some t' => t'
  | none => t.modify k (k r) f hf

/-- The column is the only constraint. -/
def IsOnlyKey (k : ρ → κ) : Prop := ∀ r s, Keyed.clash r s = true ↔ k r = k s

theorem upsert_rows {hf : Keeps f} (hk : IsOnlyKey k) :
    (t.upsert k r f hf).rows =
      if ∃ s ∈ t.rows, k s = k r then t.rows.map fun s => if k s = k r then f s else s
      else t.rows ++ [r] := by
  unfold upsert
  split
  · next t' h =>
    rw [insert?_rows h, if_neg]
    rintro ⟨s, hs, hsr⟩
    have hclash := (insert?_eq_some_iff.mp h).1 s hs
    rw [(hk s r).mpr hsr] at hclash
    cases hclash
  · next h =>
    rw [if_pos]
    · rfl
    · by_contra hnone
      obtain ⟨t', ht'⟩ := insert?_isSome (t := t) (r := r) fun s hs => by
        rw [← Bool.not_eq_true, hk s r]
        exact fun hsr => hnone ⟨s, hs, hsr⟩
      rw [h] at ht'
      cases ht'

theorem filter_upsert {p : ρ → Bool} {hf : Keeps f} (hk : IsOnlyKey k) (hr : p r = true)
    (hp : ∀ s ∈ t, k s = k r → p s = true ∧ p (f s) = true) :
    (t.upsert k r f hf).filter p = (t.filter p).upsert k r f hf := by
  refine ext ?_
  rw [filter_rows, upsert_rows hk, upsert_rows hk, filter_rows]
  by_cases hs : ∃ s ∈ t.rows, k s = k r
  · have hs' : ∃ s ∈ t.rows.filter p, k s = k r := by
      obtain ⟨s, hs, hsr⟩ := hs
      exact ⟨s, List.mem_filter.mpr ⟨hs, (hp s hs hsr).1⟩, hsr⟩
    rw [if_pos hs, if_pos hs', List.filter_map]
    refine congrArg _ (List.filter_congr fun s hs => ?_)
    simp only [Function.comp]
    split
    · next h => rw [(hp s hs h).1, (hp s hs h).2]
    · rfl
  · have hs' : ¬ ∃ s ∈ t.rows.filter p, k s = k r := by
      rintro ⟨s, hs', hsr⟩
      exact hs ⟨s, (List.mem_filter.mp hs').1, hsr⟩
    rw [if_neg hs, if_neg hs', List.filter_append, List.filter_cons_of_pos hr, List.filter_nil]

theorem filter_upsert_of_not {p : ρ → Bool} {hf : Keeps f} (hk : IsOnlyKey k) (hr : p r = false)
    (hp : ∀ s ∈ t, k s = k r → p s = false ∧ p (f s) = false) :
    (t.upsert k r f hf).filter p = t.filter p := by
  refine ext ?_
  rw [filter_rows, upsert_rows hk, filter_rows]
  split
  · have hmodify : (t.modify k (k r) f hf).filter p = t.filter p := filter_modify_of_not hp
    exact congrArg rows hmodify
  · rw [List.filter_append, List.filter_cons_of_neg (by simp [hr]), List.filter_nil, List.append_nil]

theorem mem_upsert {hf : Keeps f} (hk : IsOnlyKey k) (h : s ∈ t.upsert k r f hf) :
    s = r ∨ ∃ s' ∈ t, s = if k s' = k r then f s' else s' := by
  rw [mem_def, upsert_rows hk] at h
  split at h
  · obtain ⟨s', hs', rfl⟩ := List.mem_map.mp h
    exact .inr ⟨s', hs', rfl⟩
  · next hnone =>
    rcases List.mem_append.mp h with hs | hs
    · exact .inr ⟨s, hs, (if_neg fun hsr => hnone ⟨s, hs, hsr⟩).symm⟩
    · exact .inl (List.mem_singleton.mp hs)

end Table

/-! ### Grouping -/

section Groups

variable {ρ κ : Type} [DecidableEq κ] {k : ρ → κ} {rows : List ρ}

/-- The rows by the value of a column, each group in order, as a `dict` of lists has them. -/
def groups (k : ρ → κ) (rows : List ρ) : List (List ρ) :=
  (rows.map k).eraseDups.map fun x => rows.filter (k · = x)

theorem mem_groups {group : List ρ} :
    group ∈ groups k rows ↔ ∃ r ∈ rows, rows.filter (k · = k r) = group := by
  simp [groups, List.mem_eraseDups]

/-- Rewriting rows within their groups. -/
theorem groups_map {f : ρ → ρ} (hk : ∀ r, k (f r) = k r) :
    groups k (rows.map f) = (groups k rows).map (List.map f) := by
  unfold groups
  rw [List.map_map, List.map_map, show k ∘ f = k from funext hk]
  refine List.map_congr_left fun x _ => ?_
  rw [Function.comp, List.filter_map]
  simp only [Function.comp_def, hk]

theorem nodup_eraseDups (xs : List κ) : xs.eraseDups.Nodup := by
  induction hn : xs.length using Nat.strongRecOn generalizing xs with
  | _ n ih =>
    cases xs with
    | nil => simp
    | cons x xs =>
      rw [List.eraseDups_cons, List.nodup_cons, List.mem_eraseDups]
      refine ⟨by simp, ih _ ?_ _ rfl⟩
      have := List.length_filter_le (fun y => !y == x) xs
      rw [List.length_cons] at hn
      omega

/-- Two groups share no row. -/
theorem groups_disjoint : (groups k rows).Pairwise fun g g' => ∀ r ∈ g, r ∉ g' := by
  unfold groups
  rw [List.pairwise_map]
  refine (nodup_eraseDups _).imp fun {x y} hne r hr hr' => ?_
  simp only [List.mem_filter, decide_eq_true_eq] at hr hr'
  exact hne (hr.2.symm.trans hr'.2)

end Groups

end EidolonHub.Library
