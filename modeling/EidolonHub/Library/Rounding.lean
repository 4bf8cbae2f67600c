import Mathlib.Algebra.Order.Round
import Mathlib.Data.Int.Log
import Mathlib.Data.Rat.Floor
import Mathlib.Tactic.Linarith
import Mathlib.Tactic.NormNum

/-!
# EidolonHub.Library.Rounding

**Rounding of rationals**: to the nearest integer, ties to even (`round`), and to the
nearest binary64, ties to even (the result of one floating-point operation). Both are
computed, so a sample can be evaluated.
-/

namespace EidolonHub.Library

/-- `round(q)`: the nearest integer, and the even one of two that are equally near. -/
def roundHalfEven (q : ℚ) : Int :=
  if Int.fract q < 1 / 2 then ⌊q⌋
  else if 1 / 2 < Int.fract q then ⌊q⌋ + 1
  else if ⌊q⌋ % 2 = 0 then ⌊q⌋
  else ⌊q⌋ + 1

/-- The distance of two neighbouring binary64 numbers where `q` lies. -/
def ulp (q : ℚ) : ℚ := (2 : ℚ) ^ max (Int.log 2 |q| - 52) (-1074)

/-- The binary64 nearest to a number below the overflow threshold. -/
def binary64 (q : ℚ) : ℚ := roundHalfEven (q / ulp q) * ulp q

@[simp] theorem roundHalfEven_intCast (n : Int) : roundHalfEven n = n := by
  simp [roundHalfEven]

@[simp] theorem binary64_zero : binary64 0 = 0 := by
  have h : roundHalfEven 0 = 0 := roundHalfEven_intCast 0
  simp [binary64, h]

/-- A number is at most a half away from what it is rounded to. -/
theorem abs_sub_roundHalfEven_le (q : ℚ) : |q - roundHalfEven q| ≤ 1 / 2 := by
  have hfract := Int.floor_add_fract q
  have hnonneg := Int.fract_nonneg q
  have hlt := Int.fract_lt_one q
  rw [abs_le]
  unfold roundHalfEven
  split
  · constructor <;> linarith
  · split
    · push_cast
      constructor <;> linarith
    · split
      · constructor <;> linarith
      · push_cast
        constructor <;> linarith

/-- A larger number is not rounded to a smaller one. -/
theorem roundHalfEven_mono {p q : ℚ} (h : p ≤ q) : roundHalfEven p ≤ roundHalfEven q := by
  by_contra hlt
  have hgap : (roundHalfEven q : ℚ) + 1 ≤ roundHalfEven p := by exact_mod_cast not_le.mp hlt
  have hp := abs_le.mp (abs_sub_roundHalfEven_le p)
  have hq := abs_le.mp (abs_sub_roundHalfEven_le q)
  -- the two are a whole apart, so the numbers meet half way
  have heq : p = q := by linarith
  exact hlt (heq ▸ le_refl _)

/-- An integer closer than a half is what a number is rounded to. -/
theorem roundHalfEven_eq {q : ℚ} {n : Int} (h : |q - n| < 1 / 2) : roundHalfEven q = n := by
  have hround := abs_sub_roundHalfEven_le q
  rw [abs_lt] at h
  rw [abs_le] at hround
  have hlow : (-1 : ℚ) < (roundHalfEven q : ℚ) - n := by linarith
  have hhigh : (roundHalfEven q : ℚ) - n < 1 := by linarith
  have hlow' : -1 < roundHalfEven q - n := by exact_mod_cast hlow
  have hhigh' : roundHalfEven q - n < 1 := by exact_mod_cast hhigh
  omega

end EidolonHub.Library
