import EidolonHub.Library.Run
import Mathlib.Logic.Function.Basic

/-!
# EidolonHub.Library.Pool

**Calls that run side by side.** Every call has a phase of its own, and all of them share
one state; a turn lets one call take its next step, which reads and writes the shared
state and its own phase and nothing else. A list of turns is a schedule.

What holds of the shared state and of each call after every schedule is shown by three
facts about one step: it keeps what is said of the shared state, it keeps what is said of
the call that takes it, and it leaves what is said of any other call.
-/

namespace EidolonHub.Library

/-- A shared state and the calls at work on it. -/
structure Pool (σ π : Type) where
  shared : σ
  phase : Nat → π

/-- One call takes its next step, with what the step draws. -/
structure Turn (δ : Type) where
  call : Nat
  draws : δ

variable {σ π δ : Type} (act : Nat → δ → σ → π → σ × π)

/-- The pool after a turn. -/
def Pool.step (s : Pool σ π) (turn : Turn δ) : Pool σ π where
  shared := (act turn.call turn.draws s.shared (s.phase turn.call)).1
  phase := Function.update s.phase turn.call
    (act turn.call turn.draws s.shared (s.phase turn.call)).2

/-- No call has taken a step. -/
def Pool.start (s : σ) (p : π) : Pool σ π := ⟨s, fun _ => p⟩

variable {act} {s : Pool σ π} {turn : Turn δ} {c : Nat}

@[simp] theorem Pool.step_shared :
    (s.step act turn).shared = (act turn.call turn.draws s.shared (s.phase turn.call)).1 := rfl

theorem Pool.step_phase_self :
    (s.step act turn).phase turn.call = (act turn.call turn.draws s.shared (s.phase turn.call)).2 :=
  Function.update_self ..

theorem Pool.step_phase_ne (h : c ≠ turn.call) : (s.step act turn).phase c = s.phase c :=
  Function.update_of_ne h ..

/-- The pool where the call `c` has come to `p`, and has left the shared state as `x`. -/
def Pool.set (s : Pool σ π) (c : Nat) (x : σ) (p : π) : Pool σ π := ⟨x, Function.update s.phase c p⟩

/-- A turn, where it is known what its step makes. -/
theorem Pool.step_eq_set {d : δ} {x : σ} {p : π} (h : act c d s.shared (s.phase c) = (x, p)) :
    s.step act ⟨c, d⟩ = s.set c x p := by
  unfold Pool.step
  rw [h]
  rfl

section Set

variable {x : σ} {p : π} {b : Nat}

@[simp] theorem Pool.set_shared : (s.set c x p).shared = x := rfl

@[simp] theorem Pool.set_phase_self : (s.set c x p).phase c = p := Function.update_self ..

theorem Pool.set_phase_ne (h : b ≠ c) : (s.set c x p).phase b = s.phase b := Function.update_of_ne h ..

end Set

/-- A call that takes no turn stays where it is. -/
theorem Pool.run_phase_of_ne {turns : List (Turn δ)} (h : ∀ turn ∈ turns, turn.call ≠ c) :
    (run (Pool.step act) s turns).phase c = s.phase c := by
  induction turns generalizing s with
  | nil => rfl
  | cons turn turns ih =>
    rw [run_cons, ih fun t ht => h t (List.mem_cons_of_mem _ ht)]
    exact Pool.step_phase_ne (Ne.symm (h turn List.mem_cons_self))

/-- What every turn of a call brings down is down by the number of its turns. -/
theorem Pool.rank_run {rank : π → Nat} (h : ∀ d x p, rank (act c d x p).2 ≤ rank p - 1)
    (turns : List (Turn δ)) : rank ((run (Pool.step act) s turns).phase c) ≤
      rank (s.phase c) - turns.countP fun turn => decide (turn.call = c) := by
  induction turns generalizing s with
  | nil => exact Nat.le_refl _
  | cons turn turns ih =>
    rw [run_cons, List.countP_cons]
    refine Nat.le_trans (ih (s := s.step act turn)) ?_
    by_cases hc : turn.call = c
    · subst hc
      rw [Pool.step_phase_self, if_pos (decide_eq_true rfl)]
      have hstep := h turn.draws s.shared (s.phase turn.call)
      omega
    · rw [Pool.step_phase_ne (Ne.symm hc), if_neg (by simpa using hc)]
      omega

section Invariants

variable {I : σ → Prop} {L : Nat → σ → π → Prop}
  (hshared : ∀ c d x p, I x → L c x p → I (act c d x p).1)
  (hown : ∀ c d x p, I x → L c x p → L c (act c d x p).1 (act c d x p).2)
  (hother : ∀ c d x p b q, b ≠ c → I x → L c x p → L b x q → L b (act c d x p).1 q)
include hshared hown hother

/-- What is said of the shared state and of every call is kept by a turn. -/
theorem Pool.inv_step (hs : I s.shared ∧ ∀ c, L c s.shared (s.phase c)) :
    I (s.step act turn).shared ∧ ∀ c, L c (s.step act turn).shared ((s.step act turn).phase c) := by
  obtain ⟨hI, hL⟩ := hs
  refine ⟨hshared _ _ _ _ hI (hL turn.call), ?_⟩
  intro c
  by_cases hc : c = turn.call
  · subst hc
    rw [Pool.step_phase_self]
    exact hown _ _ _ _ hI (hL turn.call)
  · rw [Pool.step_phase_ne hc]
    exact hother _ _ _ _ _ _ hc hI (hL turn.call) (hL c)

/-- It holds after every schedule. -/
theorem Pool.inv (h0 : I s.shared ∧ ∀ c, L c s.shared (s.phase c)) (turns : List (Turn δ)) :
    I (run (Pool.step act) s turns).shared ∧
      ∀ c, L c (run (Pool.step act) s turns).shared ((run (Pool.step act) s turns).phase c) :=
  run_inv (I := fun s : Pool σ π => I s.shared ∧ ∀ c, L c s.shared (s.phase c))
    (fun _ _ => Pool.inv_step hshared hown hother) h0 turns

end Invariants

end EidolonHub.Library
