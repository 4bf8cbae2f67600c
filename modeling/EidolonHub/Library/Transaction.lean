import EidolonHub.Library.Table

/-!
# EidolonHub.Library.Transaction

**Transactions that commit or roll back.** A transaction body `Tx σ ε α` reads
and rewrites a state; it ends with a value and the new state, or it raises. A
body that raises has no new state at all, so rolling back is not an operation
that could be forgotten: `Tx.attempt` falls back to the state it started from.

Three ways to reason about a body:

* `Commits m s a s'` says that `m` ends with `a` in `s'`; its simp lemmas turn a
  body into the conjunction of what it checked and what it wrote, in order;
* `Within R m` says that every commit of `m` relates the states before and after
  by the preorder `R`; its rules follow the syntax of the body, so facts of the
  form "this table only grows" need no case analysis;
* `Alike R m` says that `m` cannot tell two related states apart, and leaves them
  related.
-/

namespace EidolonHub.Library

/-- A computation that may raise ends well when each of its steps does. -/
theorem except_bind_ok {ε α β : Type} {x : Except ε α} {f : α → Except ε β} {b : β} :
    (x >>= f) = .ok b ↔ ∃ a, x = .ok a ∧ f a = .ok b := by
  cases x <;> simp [bind, Except.bind]

theorem except_bind_error {ε α β : Type} {x : Except ε α} {f : α → Except ε β} {e : ε} :
    (x >>= f) = .error e ↔ x = .error e ∨ ∃ a, x = .ok a ∧ f a = .error e := by
  cases x <;> simp [bind, Except.bind]

section Comprehension

variable {ε α β : Type} {f : α → Except ε β} {x : α} {xs : List α} {y : β} {ys : List β}

theorem except_mapM_cons : (x :: xs).mapM f = .ok ys ↔
    ∃ y ys', f x = .ok y ∧ xs.mapM f = .ok ys' ∧ ys = y :: ys' := by
  rw [List.mapM_cons]
  simp only [except_bind_ok, pure, Except.pure, Except.ok.injEq, eq_comm (b := ys)]
  exact ⟨fun ⟨y, hy, ys', hys, h⟩ => ⟨y, ys', hy, hys, h⟩, fun ⟨y, ys', hy, hys, h⟩ => ⟨y, hy, ys', hys, h⟩⟩

/-- A computation over a list ends well when it does for each entry. -/
theorem except_mapM_isOk : (∃ ys, xs.mapM f = .ok ys) ↔ ∀ x ∈ xs, ∃ y, f x = .ok y := by
  induction xs with
  | nil => simp [pure, Except.pure]
  | cons x xs ih =>
    rw [List.forall_mem_cons, ← ih]
    constructor
    · rintro ⟨ys, h⟩
      obtain ⟨y, ys', hy, hys, -⟩ := except_mapM_cons.mp h
      exact ⟨⟨y, hy⟩, ys', hys⟩
    · rintro ⟨⟨y, hy⟩, ys', hys⟩
      exact ⟨y :: ys', except_mapM_cons.mpr ⟨y, ys', hy, hys, rfl⟩⟩

theorem mem_of_except_mapM (h : xs.mapM f = .ok ys) : y ∈ ys ↔ ∃ x ∈ xs, f x = .ok y := by
  induction xs generalizing ys with
  | nil =>
    cases Except.ok.inj h
    simp
  | cons x xs ih =>
    obtain ⟨y', ys', hy', hys', rfl⟩ := except_mapM_cons.mp h
    simp only [List.mem_cons, ih hys', exists_eq_or_imp, hy', Except.ok.injEq]
    rw [eq_comm]

end Comprehension

/-- A transaction body over the state `σ`: it raises an `ε` or ends with an `α`. -/
def Tx (σ ε α : Type) : Type := σ → Except ε (α × σ)

namespace Tx

variable {σ ε α β : Type}

instance : Monad (Tx σ ε) where
  pure a := fun s => .ok (a, s)
  bind m f := fun s =>
    match m s with
    | .ok (a, s') => f a s'
    | .error e => .error e

/-- Abandon the transaction. -/
def raise (e : ε) : Tx σ ε α := fun _ => .error e

/-- Look at the state. -/
def read (f : σ → α) : Tx σ ε α := fun s => .ok (f s, s)

/-- Rewrite the state. -/
def update (f : σ → σ) : Tx σ ε Unit := fun s => .ok ((), f s)

/-- Rewrite the state if that is possible, raise otherwise. -/
def update? (f : σ → Option σ) (e : ε) : Tx σ ε Unit := fun s =>
  match f s with
  | some s' => .ok ((), s')
  | none => .error e

/-- Abandon the transaction when the condition holds. -/
def raiseIf (c : Prop) [Decidable c] (e : ε) : Tx σ ε Unit := if c then raise e else pure ()

/-- The value of an option, which must not be absent. -/
def demand (o : Option α) (e : ε) : Tx σ ε α :=
  match o with
  | some a => pure a
  | none => raise e

/-- A computation without state, raising what it raises. -/
def lift (x : Except ε α) : Tx σ ε α :=
  match x with
  | .ok a => pure a
  | .error e => raise e

/-- One body after another, for every element of a list. -/
def forEach (f : α → Tx σ ε Unit) : List α → Tx σ ε Unit
  | [] => pure ()
  | a :: as => do
    f a
    forEach f as

/-- The state a transaction leaves behind: the new one if it commits, the old
one if it raises. -/
def attempt (m : Tx σ ε α) (s : σ) : σ :=
  match m s with
  | .ok (_, s') => s'
  | .error _ => s

/-! ### Running a transaction -/

theorem run_bind {m : Tx σ ε α} {f : α → Tx σ ε β} {s : σ} :
    (m >>= f) s = (m s).bind fun p => f p.1 p.2 := by
  show (match m s with | .ok (a, s') => f a s' | .error e => .error e) = _
  cases m s <;> rfl

theorem run_read_bind {g : σ → α} {f : α → Tx σ ε β} {s : σ} :
    (read g >>= f) s = f (g s) s := rfl

theorem run_lift_bind {x : Except ε α} {f : α → Tx σ ε β} {s : σ} :
    (lift x >>= f) s = x.bind fun a => f a s := by
  cases x <;> rfl

theorem run_raiseIf_bind {c : Prop} [Decidable c] {e : ε} {f : Unit → Tx σ ε β} {s : σ} :
    (raiseIf c e >>= f) s = if c then .error e else f () s := by
  unfold raiseIf
  split <;> rfl

/-! ### What a committed transaction did -/

/-- Started in `s`, the body ends with `a` in `s'`. -/
def Commits (m : Tx σ ε α) (s : σ) (a : α) (s' : σ) : Prop := m s = .ok (a, s')

variable {m : Tx σ ε α} {f : α → Tx σ ε β} {s s' : σ} {a : α} {b : β} {e : ε}

@[simp] theorem commits_pure {x : α} :
    Commits (pure x : Tx σ ε α) s a s' ↔ a = x ∧ s' = s := by
  simp [Commits, pure, eq_comm]

@[simp] theorem commits_bind :
    Commits (m >>= f) s b s' ↔ ∃ a s₁, Commits m s a s₁ ∧ Commits (f a) s₁ b s' := by
  simp only [Commits, bind]
  cases hm : m s with
  | ok p => cases p; simp [and_assoc]
  | error e => simp

@[simp] theorem commits_raise : Commits (raise e : Tx σ ε α) s a s' ↔ False := by
  simp [Commits, raise]

@[simp] theorem commits_read {g : σ → α} :
    Commits (read g : Tx σ ε α) s a s' ↔ a = g s ∧ s' = s := by
  simp [Commits, read, eq_comm]

@[simp] theorem commits_update {g : σ → σ} {u : Unit} :
    Commits (update g : Tx σ ε Unit) s u s' ↔ s' = g s := by
  simp [Commits, update, eq_comm]

@[simp] theorem commits_update? {g : σ → Option σ} {u : Unit} :
    Commits (update? g e : Tx σ ε Unit) s u s' ↔ g s = some s' := by
  unfold Commits update?
  cases g s <;> simp

@[simp] theorem commits_raiseIf {c : Prop} [Decidable c] {u : Unit} :
    Commits (raiseIf c e : Tx σ ε Unit) s u s' ↔ ¬ c ∧ s' = s := by
  unfold raiseIf
  split <;> simp [*]

@[simp] theorem commits_demand {o : Option α} :
    Commits (demand o e : Tx σ ε α) s a s' ↔ o = some a ∧ s' = s := by
  unfold demand
  split <;> simp [eq_comm]

@[simp] theorem commits_lift {x : Except ε α} :
    Commits (lift x : Tx σ ε α) s a s' ↔ x = .ok a ∧ s' = s := by
  unfold lift
  split <;> simp [eq_comm]

@[simp] theorem commits_forEach_nil {g : α → Tx σ ε Unit} {u : Unit} :
    Commits (forEach g []) s u s' ↔ s' = s := by
  simp [forEach]

/-- A body that answers nothing has one answer. -/
theorem exists_unit {p : Unit → Prop} : (∃ u, p u) ↔ p () :=
  ⟨fun ⟨_, h⟩ => h, fun h => ⟨(), h⟩⟩

@[simp] theorem commits_forEach_cons {g : α → Tx σ ε Unit} {x : α} {xs : List α} {u : Unit} :
    Commits (forEach g (x :: xs)) s u s' ↔
      ∃ s₁, Commits (g x) s () s₁ ∧ Commits (forEach g xs) s₁ () s' := by
  simp [forEach, exists_unit]

/-! Steps at the head of a body: what they checked or wrote, then the rest. -/

@[simp high] theorem commits_pure_bind {x : α} :
    Commits (pure x >>= f : Tx σ ε β) s b s' ↔ Commits (f x) s b s' := by
  simp [and_assoc]

@[simp high] theorem commits_read_bind {g : σ → α} :
    Commits (read g >>= f : Tx σ ε β) s b s' ↔ Commits (f (g s)) s b s' := by
  simp [and_assoc]

@[simp high] theorem commits_raise_bind :
    Commits (raise e >>= f : Tx σ ε β) s b s' ↔ False := by
  simp

@[simp high] theorem commits_raiseIf_bind {c : Prop} [Decidable c] {k : Unit → Tx σ ε β} :
    Commits (raiseIf c e >>= k) s b s' ↔ ¬ c ∧ Commits (k ()) s b s' := by
  simp [and_assoc, exists_unit]

@[simp high] theorem commits_demand_bind {o : Option α} :
    Commits (demand o e >>= f) s b s' ↔ ∃ a, o = some a ∧ Commits (f a) s b s' := by
  simp [and_assoc]

@[simp high] theorem commits_lift_bind {x : Except ε α} :
    Commits (lift x >>= f) s b s' ↔ ∃ a, x = .ok a ∧ Commits (f a) s b s' := by
  simp [and_assoc]

@[simp high] theorem commits_update_bind {g : σ → σ} {k : Unit → Tx σ ε β} :
    Commits (update g >>= k) s b s' ↔ Commits (k ()) (g s) b s' := by
  simp [exists_unit]

@[simp high] theorem commits_update?_bind {g : σ → Option σ} {k : Unit → Tx σ ε β} :
    Commits (update? g e >>= k) s b s' ↔ ∃ s₁, g s = some s₁ ∧ Commits (k ()) s₁ b s' := by
  simp [exists_unit]

/-- A body either commits to one answer in one state, or raises. -/
theorem Commits.unique {a' : α} {s'' : σ} (h : Commits m s a s') (h' : Commits m s a' s'') :
    a = a' ∧ s' = s'' := by
  unfold Commits at h h'
  rw [h] at h'
  simpa using h'

theorem attempt_of_commits (h : Commits m s a s') : attempt m s = s' := by
  unfold Commits at h
  simp [attempt, h]

/-- A transaction that leaves another state than it found has committed. -/
theorem attempt_cases (m : Tx σ ε α) (s : σ) :
    (∃ a, Commits m s a (attempt m s)) ∨ ((∃ e, m s = .error e) ∧ attempt m s = s) := by
  unfold attempt Commits
  cases m s with
  | ok p => exact .inl ⟨p.1, rfl⟩
  | error e => exact .inr ⟨⟨e, rfl⟩, rfl⟩

/-- What a transaction answers, if it commits. -/
def answer (m : Tx σ ε α) (s : σ) : Option α :=
  match m s with
  | .ok (a, _) => some a
  | .error _ => none

@[simp] theorem answer_read {g : σ → α} : answer (read g : Tx σ ε α) s = some (g s) := rfl

theorem commits_of_answer (h : answer m s = some a) : Commits m s a (attempt m s) := by
  unfold answer at h
  unfold Commits attempt
  cases hm : m s with
  | ok p =>
    obtain ⟨x, s'⟩ := p
    simpa [hm] using h
  | error e => simp [hm] at h

theorem answer_of_commits (h : Commits m s a s') : answer m s = some a := by
  unfold Commits at h
  simp [answer, h]

/-! ### Rules for preorders on states -/

/-- Every commit of the body stays within the relation `R`. -/
def Within (R : σ → σ → Prop) (m : Tx σ ε α) : Prop :=
  ∀ ⦃s a s'⦄, Commits m s a s' → R s s'

variable {R : σ → σ → Prop}

theorem within_update {g : σ → σ} (h : ∀ s, R s (g s)) : Within R (update g : Tx σ ε Unit) := by
  intro s a s' hc
  rw [commits_update] at hc
  exact hc ▸ h s

theorem within_update? {g : σ → Option σ} (h : ∀ s s', g s = some s' → R s s') :
    Within R (update? g e : Tx σ ε Unit) := by
  intro s a s' hc
  exact h s s' (commits_update?.mp hc)

theorem Within.mono {R' : σ → σ → Prop} (hm : Within R m) (h : ∀ s s', R s s' → R' s s') :
    Within R' m := fun _ _ _ hc => h _ _ (hm hc)

/-- The state an attempt leaves is related to the state it found. -/
theorem Within.attempt (hm : Within R m) (hrefl : ∀ s, R s s) (s : σ) : R s (attempt m s) := by
  rcases attempt_cases m s with ⟨a, hc⟩ | ⟨-, he⟩
  · exact hm hc
  · rw [he]; exact hrefl s

section Reflexive

variable [Std.Refl R]

theorem within_pure {x : α} : Within R (pure x : Tx σ ε α) := by
  intro s a s' h
  rw [(commits_pure.mp h).2]
  exact Std.Refl.refl s

theorem within_read {g : σ → α} : Within R (read g : Tx σ ε α) := by
  intro s a s' h
  rw [(commits_read.mp h).2]
  exact Std.Refl.refl s

theorem within_raiseIf {c : Prop} [Decidable c] : Within R (raiseIf c e : Tx σ ε Unit) := by
  intro s a s' h
  rw [(commits_raiseIf.mp h).2]
  exact Std.Refl.refl s

theorem within_demand {o : Option α} : Within R (demand o e : Tx σ ε α) := by
  intro s a s' h
  rw [(commits_demand.mp h).2]
  exact Std.Refl.refl s

theorem within_lift {x : Except ε α} : Within R (lift x : Tx σ ε α) := by
  intro s a s' h
  rw [(commits_lift.mp h).2]
  exact Std.Refl.refl s

end Reflexive

theorem Within.bind [IsTrans σ R] (hm : Within R m) (hf : ∀ a, Within R (f a)) :
    Within R (m >>= f) := by
  intro s b s' h
  obtain ⟨a, s₁, h₁, h₂⟩ := commits_bind.mp h
  exact IsTrans.trans _ _ _ (hm h₁) (hf a h₂)

/-- A loop stays within what every round stays within. -/
theorem within_forEach [Std.Refl R] [IsTrans σ R] {g : α → Tx σ ε Unit} {xs : List α}
    (h : ∀ x ∈ xs, Within R (g x)) : Within R (forEach g xs) := by
  induction xs with
  | nil => exact within_pure
  | cons x xs ih =>
    exact (h x (by simp)).bind fun _ => ih fun y hy => h y (by simp [hy])

/-- `Within.bind` behind a computation without state, knowing what it computed. -/
theorem within_lift_bind [Std.Refl R] [IsTrans σ R] {x : Except ε α}
    (h : ∀ a, x = .ok a → Within R (f a)) : Within R (lift x >>= f) := by
  intro s b s' hc
  obtain ⟨a, hx, hc⟩ := commits_lift_bind.mp hc
  exact h a hx hc

/-! ### What a transaction may raise -/

/-- Every problem the body raises is of this kind. -/
def RaisesOnly (E : ε → Prop) (m : Tx σ ε α) : Prop := ∀ ⦃s e⦄, m s = .error e → E e

variable {E : ε → Prop}

theorem raisesOnly_pure {x : α} : RaisesOnly E (pure x : Tx σ ε α) := by
  intro s e h
  cases h

theorem raisesOnly_read {g : σ → α} : RaisesOnly E (read g : Tx σ ε α) := by
  intro s e h
  cases h

theorem raisesOnly_update {g : σ → σ} : RaisesOnly E (update g : Tx σ ε Unit) := by
  intro s e h
  cases h

theorem raisesOnly_update? {g : σ → Option σ} (he : E e) :
    RaisesOnly E (update? g e : Tx σ ε Unit) := by
  intro s e' h
  unfold update? at h
  split at h
  · cases h
  · cases h
    exact he

theorem RaisesOnly.bind (hm : RaisesOnly E m) (hf : ∀ a, RaisesOnly E (f a)) :
    RaisesOnly E (m >>= f) := by
  intro s e h
  rw [run_bind] at h
  cases hfirst : m s with
  | error e' =>
    rw [hfirst] at h
    cases h
    exact hm hfirst
  | ok p =>
    rw [hfirst] at h
    exact hf p.1 h

/-! ### Two runs of one transaction -/

/-- From related states the body ends alike: with one answer in related states, or with one
problem. -/
def Alike (R : σ → σ → Prop) (m : Tx σ ε α) : Prop :=
  ∀ ⦃s s'⦄, R s s' → Except.map Prod.fst (m s) = Except.map Prod.fst (m s') ∧
    ∀ ⦃a a' t t'⦄, m s = .ok (a, t) → m s' = .ok (a', t') → R t t'

theorem alike_pure {x : α} : Alike R (pure x : Tx σ ε α) := by
  intro s s' hR
  refine ⟨rfl, ?_⟩
  intro a a' t t' h h'
  cases h
  cases h'
  exact hR

theorem alike_read {g : σ → α} (h : ∀ s s', R s s' → g s = g s') : Alike R (read g : Tx σ ε α) := by
  intro s s' hR
  refine ⟨congrArg Except.ok (h s s' hR), ?_⟩
  intro a a' t t' hs hs'
  cases hs
  cases hs'
  exact hR

theorem alike_update {g : σ → σ} (h : ∀ s s', R s s' → R (g s) (g s')) :
    Alike R (update g : Tx σ ε Unit) := by
  intro s s' hR
  refine ⟨rfl, ?_⟩
  intro a a' t t' hs hs'
  cases hs
  cases hs'
  exact h s s' hR

theorem alike_update? {g : σ → Option σ} (h : ∀ s s', R s s' → Option.Rel R (g s) (g s')) :
    Alike R (update? g e : Tx σ ε Unit) := by
  intro s s' hR
  have hnext := h s s' hR
  unfold update?
  generalize g s = x at *
  generalize g s' = y at *
  cases hnext with
  | none => exact ⟨rfl, fun _ _ _ _ hs => by cases hs⟩
  | some hnext =>
    refine ⟨rfl, ?_⟩
    intro a a' t t' hs hs'
    cases hs
    cases hs'
    exact hnext

theorem alike_raise : Alike R (raise e : Tx σ ε α) :=
  fun _ _ _ => ⟨rfl, fun _ _ _ _ hs => by cases hs⟩

theorem alike_raiseIf {c : Prop} [Decidable c] : Alike R (raiseIf c e : Tx σ ε Unit) := by
  unfold raiseIf
  split
  · exact alike_raise
  · exact alike_pure

theorem alike_demand {o : Option α} : Alike R (demand o e : Tx σ ε α) := by
  cases o with
  | none => exact alike_raise
  | some a => exact alike_pure

theorem alike_lift {x : Except ε α} : Alike R (lift x : Tx σ ε α) := by
  cases x with
  | error e => exact alike_raise
  | ok a => exact alike_pure

theorem Alike.bind (hm : Alike R m) (hf : ∀ a, Alike R (f a)) : Alike R (m >>= f) := by
  intro s s' hR
  obtain ⟨hsame, hrel⟩ := hm hR
  rw [run_bind, run_bind]
  cases hs : m s with
  | error e =>
    cases hs' : m s' with
    | error e' =>
      rw [hs, hs'] at hsame
      cases hsame
      exact ⟨rfl, fun _ _ _ _ h => by cases h⟩
    | ok p' =>
      rw [hs, hs'] at hsame
      cases hsame
  | ok p =>
    cases hs' : m s' with
    | error e' =>
      rw [hs, hs'] at hsame
      cases hsame
    | ok p' =>
      obtain ⟨a, t⟩ := p
      obtain ⟨a', t'⟩ := p'
      rw [hs, hs'] at hsame
      cases hsame
      exact hf a (hrel hs hs')

/-- A read whose answers need not be the same, as long as they are gone on from in one way. -/
theorem alike_read_bind {g : σ → α} (hsame : ∀ s s', R s s' → f (g s) = f (g s'))
    (hf : ∀ a, Alike R (f a)) : Alike R (read g >>= f) := by
  intro s s' hR
  rw [run_read_bind, run_read_bind, hsame s s' hR]
  exact hf (g s') hR

theorem alike_forEach {g : α → Tx σ ε Unit} {xs : List α} (h : ∀ x ∈ xs, Alike R (g x)) :
    Alike R (forEach g xs) := by
  induction xs with
  | nil => exact alike_pure
  | cons x xs ih =>
    exact (h x (by simp)).bind fun _ => ih fun y hy => h y (by simp [hy])

/-- The states that two attempts leave are related. -/
theorem Alike.attempt (hm : Alike R m) {s s' : σ} (hR : R s s') :
    R (attempt m s) (attempt m s') := by
  obtain ⟨hsame, hrel⟩ := hm hR
  unfold Tx.attempt
  cases hs : m s with
  | error e =>
    cases hs' : m s' with
    | error e' => exact hR
    | ok p' =>
      rw [hs, hs'] at hsame
      cases hsame
  | ok p =>
    cases hs' : m s' with
    | error e' =>
      rw [hs, hs'] at hsame
      cases hsame
    | ok p' => exact hrel hs hs'

/-- What commits from one state commits from a related one, with the same answer. -/
theorem Alike.commits (hm : Alike R m) {s s' t : σ} {a : α} (hR : R s s') (hcommit : Commits m s a t) :
    ∃ t', Commits m s' a t' ∧ R t t' := by
  obtain ⟨hsame, hrel⟩ := hm hR
  rw [hcommit] at hsame
  cases hs' : m s' with
  | error e' =>
    rw [hs'] at hsame
    cases hsame
  | ok p' =>
    obtain ⟨a', t'⟩ := p'
    rw [hs'] at hsame
    cases hsame
    exact ⟨t', hs', hrel hcommit hs'⟩

/-! ### Frames and invariants -/

/-- The property of the first state holds of the second as well. -/
def Preserves (I : σ → Prop) (s s' : σ) : Prop := I s → I s'

instance (I : σ → Prop) : Std.Refl (Preserves I) := ⟨fun _ => id⟩

instance (I : σ → Prop) : IsTrans σ (Preserves I) := ⟨fun _ _ _ h h' => h' ∘ h⟩

/-- The part `f` of the state is the same in both states. -/
def SameOn {τ : Type} (f : σ → τ) (s s' : σ) : Prop := f s' = f s

instance {τ : Type} (f : σ → τ) : Std.Refl (SameOn f) := ⟨fun _ => rfl⟩

instance {τ : Type} (f : σ → τ) : IsTrans σ (SameOn f) := ⟨fun _ _ _ h h' => h'.trans h⟩

end Tx

end EidolonHub.Library
