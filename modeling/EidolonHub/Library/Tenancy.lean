import EidolonHub.Library.Run
import EidolonHub.Library.Table
import Mathlib.Data.List.Sort
import Mathlib.Logic.Function.Basic

/-!
# EidolonHub.Library.Tenancy

**A state that several tenants share.** Maps hold entries of all of them, under keys that the
tenants choose. A change under a key that holds entries of one tenant only is the same change
where the entries of another are taken out, and no change at all where that tenant's are.

A system whose steps behave so does not let its tenants interfere: without the requests of
one, it goes through the states that are left when the entries of that one are taken out.
-/

namespace EidolonHub.Library

/-! ### Maps -/

section Maps

variable {κ α : Type}

/-- The entries of a map that meet a condition. -/
def keep (p : α → Bool) (m : κ → Option α) : κ → Option α := fun k => (m k).filter p

variable {p : α → Bool} {m : κ → Option α} {k : κ}

theorem keep_apply (h : ∀ x ∈ m k, p x = true) : keep p m k = m k := by
  unfold keep
  cases hx : m k with
  | none => rfl
  | some x => exact Option.filter_some_pos (h x hx)

theorem keep_apply_of_not (h : ∀ x ∈ m k, p x = false) : keep p m k = none := by
  unfold keep
  cases hx : m k with
  | none => rfl
  | some x => exact Option.filter_some_neg (h x hx)

variable [DecidableEq κ]

theorem keep_update {v : Option α} (hv : ∀ x ∈ v, p x = true) :
    keep p (Function.update m k v) = Function.update (keep p m) k v := by
  funext i
  by_cases hi : i = k
  · subst hi
    rw [keep_apply (by rwa [Function.update_self]), Function.update_self, Function.update_self]
  · simp only [keep, Function.update_of_ne hi]

theorem keep_update_of_not {v : Option α} (hv : ∀ x ∈ v, p x = false)
    (hm : ∀ x ∈ m k, p x = false) : keep p (Function.update m k v) = keep p m := by
  funext i
  by_cases hi : i = k
  · subst hi
    rw [keep_apply_of_not (by rwa [Function.update_self]), keep_apply_of_not hm]
  · simp only [keep, Function.update_of_ne hi]

end Maps

/-! ### Rows in order -/

section Order

variable {α : Type} (r : α → α → Prop) [DecidableRel r] (p : α → Bool) {a : α} {xs : List α}

theorem orderedInsert_of_forall (h : ∀ x ∈ xs, r a x) : xs.orderedInsert r a = a :: xs := by
  cases xs with
  | nil => rfl
  | cons x xs => rw [List.orderedInsert_cons, if_pos (h x List.mem_cons_self)]

theorem filter_orderedInsert [IsTrans α r] (hxs : xs.Pairwise r) :
    (xs.orderedInsert r a).filter p =
      if p a then (xs.filter p).orderedInsert r a else xs.filter p := by
  induction xs with
  | nil => cases hp : p a <;> simp [hp]
  | cons x xs ih =>
    rw [List.pairwise_cons] at hxs
    by_cases hax : r a x
    · have hfirst : ∀ y ∈ (x :: xs).filter p, r a y := by
        intro y hy
        rcases List.mem_cons.mp (List.mem_filter.mp hy).1 with rfl | hy
        · exact hax
        · exact Trans.trans hax (hxs.1 y hy)
      rw [List.orderedInsert_cons, if_pos hax, orderedInsert_of_forall r hfirst, List.filter_cons]
    · rw [List.orderedInsert_cons, if_neg hax, List.filter_cons, ih hxs.2]
      cases hx : p x with
      | false => simp [hx]
      | true => cases hp : p a <;> simp [hx, hax]

/-- Sorting and taking some of the rows can be done in either order. -/
theorem filter_insertionSort [IsTrans α r] [Std.Total r] (xs : List α) :
    (xs.insertionSort r).filter p = (xs.filter p).insertionSort r := by
  induction xs with
  | nil => rfl
  | cons x xs ih =>
    rw [List.insertionSort_cons, filter_orderedInsert r p (List.pairwise_insertionSort r xs), ih]
    cases hx : p x <;> simp [hx]

end Order

/-! ### Runs -/

section Runs

variable {σ α ω : Type} [DecidableEq ω] {next : σ → α → σ} {tenant : α → Option ω} {without : σ → σ}
  {b : ω} {I : σ → Prop} {P : σ → α → Prop}

/-- **Noninterference**: where a request of the tenant is no change to the others, and any
other request is the same change without that tenant's entries, the run without the tenant's
requests goes through what is left of the run when the tenant's entries are taken out. -/
theorem run_without (hI : ∀ s a, I s → P s a → I (next s a))
    (hown : ∀ s a, I s → P s a → tenant a = some b → without (next s a) = without s)
    (hother : ∀ s a, I s → P s a → tenant a ≠ some b → next (without s) a = without (next s a))
    {s : σ} (h0 : I s) {as : List α} (hP : Along next P s as) :
    run next (without s) (as.filter (tenant · ≠ some b)) = without (run next s as) := by
  induction as generalizing s with
  | nil => rfl
  | cons a as ih =>
    rw [run_cons, ← ih (hI s a h0 hP.1) hP.2]
    by_cases ha : tenant a = some b
    · rw [List.filter_cons_of_neg (by simp [ha]), hown s a h0 hP.1 ha]
    · rw [List.filter_cons_of_pos (by simp [ha]), run_cons, hother s a h0 hP.1 ha]

end Runs

end EidolonHub.Library
