import Mathlib.Algebra.GroupWithZero.Nat
import Mathlib.Data.List.Basic
import Mathlib.Data.List.Induction
import Mathlib.Order.Defs.Unbundled

/-!
# EidolonHub.Library.Run

**Runs of a system that takes one step for each request.** What a step leaves
open (clocks, generated names, answers from outside) is part of the request, so
a run is determined by its start and its list of requests, and a statement about
every list is a statement about every order of steps.

`Along` states a condition on every request of a run, at the state the run has
reached when it is made; the rules lift what one step preserves to whole runs.
-/

namespace EidolonHub.Library

variable {σ α : Type} (next : σ → α → σ)

/-- The state after a list of requests. -/
def run : σ → List α → σ
  | s, [] => s
  | s, a :: as => run (next s a) as

@[simp] theorem run_nil (s : σ) : run next s [] = s := rfl

@[simp] theorem run_cons (s : σ) (a : α) (as : List α) :
    run next s (a :: as) = run next (next s a) as := rfl

theorem run_append (s : σ) (as bs : List α) :
    run next s (as ++ bs) = run next (run next s as) bs := by
  induction as generalizing s with
  | nil => rfl
  | cons a as ih => exact ih (next s a)

theorem run_concat (s : σ) (as : List α) (a : α) :
    run next s (as ++ [a]) = next (run next s as) a := by
  rw [run_append]; rfl

/-- Every request of the run is made in a state where `P` allows it. -/
def Along (P : σ → α → Prop) : σ → List α → Prop
  | _, [] => True
  | s, a :: as => P s a ∧ Along P (next s a) as

variable {next} {P : σ → α → Prop}

instance decidableAlong [∀ s a, Decidable (P s a)] : ∀ s as, Decidable (Along next P s as)
  | _, [] => .isTrue trivial
  | s, _ :: as => @instDecidableAnd _ _ _ (decidableAlong (next s _) as)

theorem along_append {s : σ} {as bs : List α} :
    Along next P s (as ++ bs) ↔ Along next P s as ∧ Along next P (run next s as) bs := by
  induction as generalizing s with
  | nil => simp [Along]
  | cons a as ih => simp [Along, ih, and_assoc]

/-! ### Reachable states -/

/-- Some list of requests leads from `s` to `s'`. -/
def Reaches (next : σ → α → σ) (s s' : σ) : Prop := ∃ as, s' = run next s as

theorem Reaches.refl (s : σ) : Reaches next s s := ⟨[], rfl⟩

theorem Reaches.step {s s' : σ} (h : Reaches next s s') (a : α) : Reaches next s (next s' a) := by
  obtain ⟨as, rfl⟩ := h
  exact ⟨as ++ [a], (run_concat next s as a).symm⟩

theorem Reaches.run {s s' : σ} (h : Reaches next s s') (as : List α) :
    Reaches next s (run next s' as) := by
  obtain ⟨bs, rfl⟩ := h
  exact ⟨bs ++ as, (run_append next s bs as).symm⟩

/-! ### From one step to a run -/

/-- What every allowed step preserves holds after every allowed run. -/
theorem run_inv_along {I : σ → Prop} (hstep : ∀ s a, I s → P s a → I (next s a)) {s : σ}
    (h0 : I s) {as : List α} (hP : Along next P s as) : I (run next s as) := by
  induction as generalizing s with
  | nil => exact h0
  | cons a as ih => exact ih (hstep s a h0 hP.1) hP.2

/-- What every step preserves holds after every run. -/
theorem run_inv {I : σ → Prop} (hstep : ∀ s a, I s → I (next s a)) {s : σ} (h0 : I s)
    (as : List α) : I (run next s as) := by
  induction as generalizing s with
  | nil => exact h0
  | cons a as ih => exact ih (hstep s a h0)

/-- Where every allowed step from a state with the invariant meets `Q`, every allowed
run meets `Q` along the way. -/
theorem Along.imp_of_inv {Q : σ → α → Prop} {I : σ → Prop}
    (hstep : ∀ s a, I s → P s a → I (next s a)) (hQ : ∀ s a, I s → P s a → Q s a) {s : σ} (h0 : I s)
    {as : List α} (hP : Along next P s as) : Along next Q s as := by
  induction as generalizing s with
  | nil => trivial
  | cons a as ih => exact ⟨hQ s a h0 hP.1, ih (hstep s a h0 hP.1) hP.2⟩

/-- Where an allowed step from a state with `P` keeps `P` exactly when it meets `Q`, an allowed run
meets `Q` along the way exactly when `P` holds at each of its states. -/
theorem along_iff_forall_along {Q A : σ → α → Prop} {I P : σ → Prop}
    (hI : ∀ s a, I s → A s a → I (next s a))
    (hstep : ∀ s a, I s → A s a → P s → (P (next s a) ↔ Q s a)) {s : σ} (h0 : I s) (hP : P s)
    {as : List α} (hA : Along next A s as) :
    Along next Q s as ↔ ∀ pre post, as = pre ++ post → P (run next s pre) := by
  constructor
  · intro halong pre post heq
    subst heq
    replace halong := (along_append.mp halong).1
    replace hA := (along_append.mp hA).1
    induction pre generalizing s with
    | nil => exact hP
    | cons a pre ih =>
      exact ih (hI s a h0 hA.1) ((hstep s a h0 hA.1 hP).mpr halong.1) halong.2 hA.2
  · intro hall
    induction as generalizing s with
    | nil => trivial
    | cons a as ih =>
      have hnext : P (next s a) := hall [a] as rfl
      refine ⟨(hstep s a h0 hA.1 hP).mp hnext, ih (hI s a h0 hA.1) hnext hA.2 ?_⟩
      intro pre post heq
      exact hall (a :: pre) post (by rw [heq, List.cons_append])

/-- A condition on the requests alone. -/
theorem along_of_forall {Q : α → Prop} {s : σ} {as : List α} (h : ∀ a ∈ as, Q a) :
    Along next (fun _ a => Q a) s as := by
  induction as generalizing s with
  | nil => trivial
  | cons a as ih =>
    exact ⟨h a List.mem_cons_self, ih fun b hb => h b (List.mem_cons_of_mem _ hb)⟩

theorem along_true {s : σ} {as : List α} : Along next (fun _ _ => True) s as :=
  along_of_forall fun _ _ => trivial

/-- The same for the runs of requests in `A`. -/
theorem along_iff_forall_of {Q : σ → α → Prop} {I P : σ → Prop} {A : α → Prop}
    (hI : ∀ s a, I s → A a → I (next s a)) (hstep : ∀ s a, I s → A a → P s → (P (next s a) ↔ Q s a))
    {s : σ} (h0 : I s) (hP : P s) {as : List α} (hA : ∀ a ∈ as, A a) :
    Along next Q s as ↔ ∀ pre post, as = pre ++ post → P (run next s pre) :=
  along_iff_forall_along hI hstep h0 hP (along_of_forall hA)

theorem along_iff_forall {Q : σ → α → Prop} {I P : σ → Prop}
    (hI : ∀ s a, I s → I (next s a)) (hstep : ∀ s a, I s → P s → (P (next s a) ↔ Q s a)) {s : σ}
    (h0 : I s) (hP : P s) {as : List α} :
    Along next Q s as ↔ ∀ pre post, as = pre ++ post → P (run next s pre) :=
  along_iff_forall_of (A := fun _ => True) (fun s a hs _ => hI s a hs) (fun s a hs _ => hstep s a hs)
    h0 hP fun _ _ => trivial

/-- What holds before any request, and is kept when one more is made, holds of every
history and the state it leads to. -/
theorem run_history {I : List α → σ → Prop} {s : σ} (h0 : I [] s)
    (hstep : ∀ as a, I as (run next s as) → I (as ++ [a]) (next (run next s as) a)) (as : List α) :
    I as (run next s as) := by
  induction as using List.reverseRec with
  | nil => exact h0
  | append_singleton as a ih =>
    rw [run_concat]
    exact hstep as a ih

theorem Reaches.inv {I : σ → Prop} {s s' : σ} (h : Reaches next s s')
    (hstep : ∀ s a, I s → I (next s a)) (h0 : I s) : I s' := by
  obtain ⟨as, rfl⟩ := h
  exact run_inv hstep h0 as

/-- Steps that move along a preorder, from states with an invariant, add up to
runs that do. -/
theorem run_rel {R : σ → σ → Prop} [Std.Refl R] [IsTrans σ R] {I : σ → Prop}
    (hI : ∀ s a, I s → P s a → I (next s a)) (hR : ∀ s a, I s → P s a → R s (next s a)) {s : σ}
    (h0 : I s) {as : List α} (hP : Along next P s as) : R s (run next s as) := by
  induction as generalizing s with
  | nil => exact Std.Refl.refl s
  | cons a as ih =>
    exact IsTrans.trans _ _ _ (hR s a h0 hP.1) (ih (hI s a h0 hP.1) hP.2)

/-- A condition on all requests of a run holds of the request at any split of it. -/
theorem along_split {s : σ} {pre post : List α} {a : α} (h : Along next P s (pre ++ a :: post)) :
    P (run next s pre) a :=
  (along_append.mp h).2.1

/-- What holds at the end of a run and not at its start came about at one of its requests. -/
theorem exists_turn {P : σ → Prop} {s : σ} {as : List α} (h0 : ¬ P s) (h : P (run next s as)) :
    ∃ k a, as[k]? = some a ∧ ¬ P (run next s (as.take k)) ∧ P (next (run next s (as.take k)) a) := by
  induction as generalizing s with
  | nil => exact absurd h h0
  | cons a as ih =>
    by_cases ha : P (next s a)
    · exact ⟨0, a, rfl, h0, ha⟩
    · obtain ⟨k, b, hb, hbefore, hafter⟩ := ih ha h
      exact ⟨k + 1, b, hb, hbefore, hafter⟩

/-- What no step takes back comes about once. -/
theorem turn_unique {P : σ → Prop} (hstep : ∀ s a, P s → P (next s a)) {s : σ} {as : List α}
    {j k : Nat} {a b : α} (ha : as[j]? = some a) (hb : as[k]? = some b)
    (hj : ¬ P (run next s (as.take j))) (hj' : P (next (run next s (as.take j)) a))
    (hk : ¬ P (run next s (as.take k))) (hk' : P (next (run next s (as.take k)) b)) : j = k := by
  -- at a later place than the first, the run has been through the turn
  have hlater : ∀ {i l : Nat} {c : α}, as[i]? = some c → i < l →
      P (next (run next s (as.take i)) c) → P (run next s (as.take l)) := by
    intro i l c hc hil hP
    have hsplit : as.take l = as.take i ++ c :: (as.take l).drop (i + 1) := by
      have hi : i < (as.take l).length := by
        have := (List.getElem?_eq_some_iff.mp hc).1
        simp only [List.length_take]
        omega
      have hget : (as.take l)[i] = c := by
        simpa using (List.getElem?_eq_some_iff.mp hc).2
      conv_lhs => rw [← List.take_append_drop i (as.take l)]
      rw [List.take_take, Nat.min_eq_left (Nat.le_of_lt hil), List.drop_eq_getElem_cons hi, hget]
    rw [hsplit, run_append]
    exact run_inv hstep hP _
  rcases Nat.lt_trichotomy j k with h | h | h
  · exact absurd (hlater ha h hj') hk
  · exact h
  · exact absurd (hlater hb h hk') hj

/-! ### What a run puts out -/

/-- What the steps of a run put out, in order. -/
def outputs {β : Type} (next : σ → α → σ) (out : σ → α → Option β) : σ → List α → List β
  | _, [] => []
  | s, a :: as => (out s a).toList ++ outputs next out (next s a) as

theorem outputs_concat {β : Type} {out : σ → α → Option β} {s : σ} {as : List α} {a : α} :
    outputs next out s (as ++ [a]) = outputs next out s as ++ (out (run next s as) a).toList := by
  induction as generalizing s with
  | nil => simp [outputs]
  | cons b as ih => rw [List.cons_append, outputs, outputs, ih, List.append_assoc, run_cons]

/-! ### Labelled paths -/

/-- Steps that may be taken one after the other. -/
inductive Path (R : σ → α → σ → Prop) : σ → List α → σ → Prop where
  | nil (s : σ) : Path R s [] s
  | cons {s s' s'' : σ} {a : α} {as : List α} : R s a s' → Path R s' as s'' → Path R s (a :: as) s''

namespace Path

variable {R : σ → α → σ → Prop} {s s' : σ} {as bs : List α} {a : α}

theorem append_iff : Path R s (as ++ bs) s' ↔ ∃ t, Path R s as t ∧ Path R t bs s' := by
  constructor
  · intro h
    induction as generalizing s with
    | nil => exact ⟨s, .nil s, h⟩
    | cons a as ih =>
      cases h with
      | cons hstep hrest =>
        obtain ⟨t, hfirst, hlast⟩ := ih hrest
        exact ⟨t, .cons hstep hfirst, hlast⟩
  · rintro ⟨t, hfirst, hlast⟩
    induction hfirst with
    | nil => exact hlast
    | cons hstep _ ih => exact .cons hstep (ih hlast)

theorem concat {t : σ} (h : Path R s as t) (hstep : R t a s') : Path R s (as ++ [a]) s' :=
  append_iff.mpr ⟨t, h, .cons hstep (.nil s')⟩

/-- Every label of a path is that of one of its steps. -/
theorem step_of_mem (h : Path R s as s') (ha : a ∈ as) : ∃ t t', R t a t' := by
  induction h with
  | nil => cases ha
  | cons hstep _ ih =>
    rcases List.mem_cons.mp ha with rfl | ha
    · exact ⟨_, _, hstep⟩
    · exact ih ha

/-- What each step of a path keeps, the path keeps. -/
theorem inv {I : σ → Prop} (h : Path R s as s')
    (hstep : ∀ {s s' a}, I s → a ∈ as → R s a s' → I s') (h0 : I s) : I s' := by
  induction h with
  | nil => exact h0
  | cons ha _ ih =>
    exact ih (fun hI hmem hR => hstep hI (List.mem_cons_of_mem _ hmem) hR)
      (hstep h0 List.mem_cons_self ha)

/-- A path seen through a projection, from which some of its steps cannot be told from rest. -/
theorem project {τ : Type} {S : τ → α → τ → Prop} {f : σ → τ} {p : α → Bool} (h : Path R s as s')
    (hseen : ∀ {s s' a}, p a = true → R s a s' → S (f s) a (f s'))
    (hrest : ∀ {s s' a}, p a = false → R s a s' → f s' = f s) :
    Path S (f s) (as.filter p) (f s') := by
  induction h with
  | nil => exact .nil _
  | @cons s s' s'' a as ha _ ih =>
    by_cases hp : p a
    · rw [List.filter_cons_of_pos hp]
      exact .cons (hseen hp ha) ih
    · rw [List.filter_cons_of_neg hp, ← hrest (by simpa using hp) ha]
      exact ih

end Path

/-- Steps that put nothing out leave what is looked at, so a run is the path of its outputs. -/
theorem outputs_path_along {β τ : Type} {out : σ → α → Option β} {I : σ → Prop} {f : σ → τ}
    {R : τ → β → τ → Prop} (hI : ∀ s a, I s → I (next s a))
    (hout : ∀ s a b, I s → P s a → out s a = some b → R (f s) b (f (next s a)))
    (hrest : ∀ s a, I s → out s a = none → f (next s a) = f s) {s : σ} (h0 : I s) {as : List α}
    (hP : Along next P s as) : Path R (f s) (outputs next out s as) (f (run next s as)) := by
  induction as generalizing s with
  | nil => exact .nil _
  | cons a as ih =>
    rw [outputs, run_cons]
    cases hb : out s a with
    | none =>
      rw [Option.toList_none, List.nil_append, ← hrest s a h0 hb]
      exact ih (hI s a h0) hP.2
    | some b => exact .cons (hout s a b h0 hP.1 hb) (ih (hI s a h0) hP.2)

/-- The same where every step is allowed. -/
theorem outputs_path {β τ : Type} {out : σ → α → Option β} {I : σ → Prop} {f : σ → τ}
    {R : τ → β → τ → Prop} (hI : ∀ s a, I s → I (next s a))
    (hout : ∀ s a b, I s → out s a = some b → R (f s) b (f (next s a)))
    (hrest : ∀ s a, I s → out s a = none → f (next s a) = f s) {s : σ} (h0 : I s) (as : List α) :
    Path R (f s) (outputs next out s as) (f (run next s as)) :=
  outputs_path_along hI (fun s a b hs _ => hout s a b hs) hrest h0 along_true

/-! ### A number that some steps set -/

namespace Path

variable {R : σ → α → σ → Prop} {s s' : σ} {as : List α} {m : σ → Nat} {sets : α → Option Nat}

/-- Where every step adds to the number what its label says, the path adds their sum. -/
theorem adds {n : α → Nat} (h : Path R s as s') (hadds : ∀ {s s' a}, R s a s' → m s' = m s + n a) :
    m s' = m s + (as.map n).sum := by
  induction h with
  | nil => simp
  | cons ha _ ih =>
    rw [ih, hadds ha, List.map_cons, List.sum_cons]
    omega

/-- Where every step that sets the number raises it, the numbers set are strictly increasing. -/
theorem increasing (h : Path R s as s')
    (hset : ∀ {s s' a r}, R s a s' → sets a = some r → m s < r ∧ m s' = r)
    (hrest : ∀ {s s' a}, R s a s' → sets a = none → m s' = m s) :
    m s ≤ m s' ∧ (as.filterMap sets).Pairwise (· < ·) ∧
      ∀ r ∈ as.filterMap sets, m s < r ∧ r ≤ m s' := by
  induction h with
  | nil => simp
  | @cons s s₁ s' a as ha _ ih =>
    obtain ⟨hle, hpairwise, hbetween⟩ := ih
    cases hr : sets a with
    | none =>
      rw [List.filterMap_cons_none hr, ← hrest ha hr]
      exact ⟨hle, hpairwise, hbetween⟩
    | some r =>
      obtain ⟨hlt, rfl⟩ := hset ha hr
      rw [List.filterMap_cons_some hr, List.pairwise_cons]
      refine ⟨by omega, ⟨fun r' hr' => (hbetween r' hr').1, hpairwise⟩, ?_⟩
      intro r' hr'
      rcases List.mem_cons.mp hr' with rfl | hr'
      · exact ⟨hlt, hle⟩
      · exact ⟨Nat.lt_trans hlt (hbetween r' hr').1, (hbetween r' hr').2⟩

/-- Where every step that sets the number raises it by one, the numbers set follow one another. -/
theorem consecutive (h : Path R s as s')
    (hset : ∀ {s s' a r}, R s a s' → sets a = some r → r = m s + 1 ∧ m s' = r)
    (hrest : ∀ {s s' a}, R s a s' → sets a = none → m s' = m s) :
    as.filterMap sets = List.range' (m s + 1) (as.filterMap sets).length ∧
      m s' = m s + (as.filterMap sets).length := by
  induction h with
  | nil => simp
  | @cons s s₁ s' a as ha _ ih =>
    obtain ⟨hrange, hlast⟩ := ih
    cases hr : sets a with
    | none =>
      rw [List.filterMap_cons_none hr, ← hrest ha hr]
      exact ⟨hrange, hlast⟩
    | some r =>
      obtain ⟨rfl, hnext⟩ := hset ha hr
      rw [List.filterMap_cons_some hr, List.length_cons, List.range'_succ, ← hnext]
      exact ⟨congrArg _ hrange, by omega⟩

end Path

end EidolonHub.Library
