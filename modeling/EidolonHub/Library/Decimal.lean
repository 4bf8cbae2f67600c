import Mathlib.Algebra.GroupWithZero.Nat
import Mathlib.Data.List.Basic

/-!
# EidolonHub.Library.Decimal

**How a binary64 is written.** Python's `float.__repr__` and ECMAScript's
`Number::toString`, which RFC 8785 prescribes for JSON, write the same digits: the
shortest ones that read back as the number. They part on where they put the point, on
the width of an exponent and on what they make of a whole number, and
`reprDecimal_eq_esDecimal_iff` says exactly where.
-/

namespace EidolonHub.Library.Python

/-- The number `±coefficient * 10 ^ exponent`. -/
structure Decimal where
  negative : Bool
  coefficient : Nat
  exponent : Int
  deriving DecidableEq, Repr

namespace Decimal

/-- The digits of the coefficient. -/
def digits (d : Decimal) : List Char := Nat.toDigits 10 d.coefficient

/-- How many of the digits stand before the point; negative where zeros follow the point. -/
def point (d : Decimal) : Int := d.digits.length + d.exponent

end Decimal

/-! ### The shortest decimal of a binary64 -/

/-- The multiples of `10 ^ q` among the numbers that read back as `center / 4 * 2 ^ e`, as their
least and greatest factor; where the center is. -/
def factors (low center high : Nat) (closed : Bool) (e q : Int) : Nat × Nat × Nat :=
  let up := 2 ^ (e - 2).toNat * 10 ^ (-q).toNat
  let down := 2 ^ (2 - e).toNat * 10 ^ q.toNat
  let least := if closed then (low * up + down - 1) / down else low * up / down + 1
  let greatest := if closed then high * up / down else (high * up - 1) / down
  -- the factor next to the center, an even one where two are as near
  let nearest := (2 * center * up + down) / (2 * down)
  let nearest := if (2 * center * up + down) % (2 * down) = 0 ∧ nearest % 2 = 1 then nearest - 1
    else nearest
  (least, greatest, min (max nearest least) greatest)

/-- The first power of ten, going down from `10 ^ q`, that has such a multiple. -/
def shortestFrom (low center high : Nat) (closed : Bool) (e : Int) : (fuel : Nat) → (q : Int) →
    Nat × Int
  | 0, q => (0, q)
  | fuel + 1, q =>
    let (least, greatest, nearest) := factors low center high closed e q
    if least ≤ greatest ∧ 0 < greatest then (nearest, q)
    else shortestFrom low center high closed e fuel (q - 1)

/-- The shortest decimal that reads back as a finite binary64, and the nearest of these. -/
def shortest (bits : UInt64) : Decimal :=
  let exponent := (bits.toNat >>> 52) % 2048
  let fraction := bits.toNat % (1 <<< 52)
  let mantissa := if exponent = 0 then fraction else fraction + (1 <<< 52)
  let e : Int := Int.ofNat (Nat.max exponent 1) - 1075
  -- below a power of two the next binary64 is only half as far away
  let low := if fraction = 0 ∧ 1 < exponent then 4 * mantissa - 1 else 4 * mantissa - 2
  let (coefficient, q) :=
    if mantissa = 0 then (0, 0)
    else shortestFrom low (4 * mantissa) (4 * mantissa + 2) (mantissa % 2 = 0) e 640 308
  { negative := bits.toNat >>> 63 = 1, coefficient, exponent := q }

/-! ### Two layouts -/

/-- Digits around a point, with zeros where digits are missing. -/
def positional (digits : List Char) (point : Int) (whole : List Char) : List Char :=
  if point ≤ 0 then '0' :: '.' :: (List.replicate (-point).toNat '0' ++ digits)
  else if point < digits.length then
    digits.take point.toNat ++ '.' :: digits.drop point.toNat
  else digits ++ List.replicate (point - digits.length).toNat '0' ++ whole

/-- One digit before the point, and an exponent. -/
def scientific (digits : List Char) (point : Int) (exponentDigits : Nat → List Char) : List Char :=
  digits.take 1 ++ (if digits.length ≤ 1 then [] else '.' :: digits.drop 1) ++
    'e' :: (if point - 1 < 0 then '-' else '+') :: exponentDigits (point - 1).natAbs

/-- An exponent of two digits at least. -/
def twoDigits (n : Nat) : List Char :=
  if n < 10 then '0' :: Nat.toDigits 10 n else Nat.toDigits 10 n

/-- The sign that is written. -/
def sign (negative : Bool) : List Char := if negative then ['-'] else []

/-- `float.__repr__`. -/
def reprDecimal (d : Decimal) : List Char :=
  sign d.negative ++
    if d.coefficient = 0 then ['0', '.', '0']
    else if -4 < d.point ∧ d.point ≤ 16 then positional d.digits d.point ['.', '0']
    else scientific d.digits d.point twoDigits

/-- `Number::toString`, with the digits RFC 8785 asks for. -/
def esDecimal (d : Decimal) : List Char :=
  if d.coefficient = 0 then ['0']
  else sign d.negative ++
    if -6 < d.point ∧ d.point ≤ 21 then positional d.digits d.point []
    else scientific d.digits d.point (Nat.toDigits 10)

/-- Both layouts are the same: the number has a fraction and is neither small nor large, or
its exponent has two digits in either. -/
def Decimal.Plain (d : Decimal) : Prop :=
  d.coefficient ≠ 0 ∧
    (-4 < d.point ∧ d.point ≤ 16 ∧ d.point < d.digits.length ∨ 21 < d.point ∨ d.point ≤ -9)

instance (d : Decimal) : Decidable d.Plain := inferInstanceAs (Decidable (_ ∧ _))

/-! ### Where the layouts agree -/

theorem mem_positional {digits : List Char} {point : Int} {whole : List Char} {c : Char}
    (h : c ∈ positional digits point whole) : c ∈ digits ∨ c = '0' ∨ c = '.' ∨ c ∈ whole := by
  unfold positional at h
  split at h
  · simp only [List.mem_cons, List.mem_append, List.mem_replicate] at h
    tauto
  · split at h
    · simp only [List.mem_append, List.mem_cons] at h
      rcases h with h | h | h
      · exact .inl (List.mem_of_mem_take h)
      · exact .inr (.inr (.inl h))
      · exact .inl (List.mem_of_mem_drop h)
    · simp only [List.mem_append, List.mem_replicate] at h
      tauto

theorem mem_scientific {digits : List Char} {point : Int} {exponentDigits : Nat → List Char} {c : Char}
    (h : c ∈ scientific digits point exponentDigits) :
    c ∈ digits ∨ c = '.' ∨ c = 'e' ∨ c = '-' ∨ c = '+' ∨ ∃ n, c ∈ exponentDigits n := by
  unfold scientific at h
  simp only [List.mem_append, List.mem_cons] at h
  rcases h with (h | h) | h | h | h
  · exact .inl (List.mem_of_mem_take h)
  · split at h
    · cases h
    · rcases List.mem_cons.mp h with h | h
      · exact .inr (.inl h)
      · exact .inl (List.mem_of_mem_drop h)
  · exact .inr (.inr (.inl h))
  · split at h <;> tauto
  · exact .inr (.inr (.inr (.inr (.inr ⟨_, h⟩))))

theorem e_mem_scientific {digits : List Char} {point : Int} {exponentDigits : Nat → List Char} :
    'e' ∈ scientific digits point exponentDigits := by
  simp [scientific]

/-- A number with an exponent in one layout and none in the other is written in two ways. -/
theorem scientific_ne_positional {n : Nat} {point : Int} {exponentDigits : Nat → List Char} :
    scientific (Nat.toDigits 10 n) point exponentDigits ≠ positional (Nat.toDigits 10 n) point [] := by
  intro h
  have he : 'e' ∈ scientific (Nat.toDigits 10 n) point exponentDigits := e_mem_scientific
  rw [h] at he
  rcases mem_positional he with hdigit | hzero | hpoint | hwhole
  · have := Nat.isDigit_of_mem_toDigits (by decide) (by decide) hdigit
    revert this
    decide
  · revert hzero
    decide
  · revert hpoint
    decide
  · cases hwhole

theorem positional_whole_iff {digits : List Char} {point : Int} :
    positional digits point ['.', '0'] = positional digits point [] ↔
      point ≤ 0 ∨ point < digits.length := by
  unfold positional
  by_cases hsmall : point ≤ 0
  · simp [hsmall]
  · by_cases hsplit : point < digits.length
    · simp [hsmall, hsplit]
    · simp [hsmall, hsplit]

theorem scientific_twoDigits_iff {digits : List Char} {point : Int} :
    scientific digits point twoDigits = scientific digits point (Nat.toDigits 10) ↔
      10 ≤ (point - 1).natAbs := by
  simp only [scientific, List.append_cancel_left_eq, List.cons.injEq, true_and]
  unfold twoDigits
  by_cases h : (point - 1).natAbs < 10
  · simp [h]
  · simp only [h, if_false, true_iff]
    omega

/-- **Where the two layouts agree.** -/
theorem reprDecimal_eq_esDecimal_iff {d : Decimal} : reprDecimal d = esDecimal d ↔ d.Plain := by
  unfold reprDecimal esDecimal Decimal.Plain
  by_cases hzero : d.coefficient = 0
  · cases hneg : d.negative <;> simp [hzero, sign]
  · have hpos : 0 < d.digits.length := Nat.length_toDigits_pos
    simp only [hzero, if_false, List.append_cancel_left_eq, ne_eq, not_false_eq_true, true_and]
    by_cases hpython : -4 < d.point ∧ d.point ≤ 16
    · have hes : -6 < d.point ∧ d.point ≤ 21 := by omega
      rw [if_pos hpython, if_pos hes, positional_whole_iff]
      omega
    · rw [if_neg hpython]
      by_cases hes : -6 < d.point ∧ d.point ≤ 21
      · rw [if_pos hes]
        refine iff_of_false scientific_ne_positional ?_
        omega
      · rw [if_neg hes, scientific_twoDigits_iff]
        omega

/-! ### The characters of a number -/

/-- A character of a number in either layout. -/
def isNumeric (c : Char) : Bool := c.isDigit || c ∈ ['.', 'e', '+', '-']

theorem isNumeric_of_digits {n : Nat} {c : Char} (h : c ∈ Nat.toDigits 10 n) : isNumeric c = true := by
  simp [isNumeric, Nat.isDigit_of_mem_toDigits (by decide) (by decide) h]

theorem isNumeric_of_twoDigits {n : Nat} {c : Char} (h : c ∈ twoDigits n) : isNumeric c = true := by
  unfold twoDigits at h
  split at h
  · rcases List.mem_cons.mp h with rfl | h
    · rfl
    · exact isNumeric_of_digits h
  · exact isNumeric_of_digits h

theorem isNumeric_of_positional {n : Nat} {point : Int} {whole : List Char} {c : Char}
    (hwhole : ∀ c ∈ whole, isNumeric c = true) (h : c ∈ positional (Nat.toDigits 10 n) point whole) :
    isNumeric c = true := by
  rcases mem_positional h with h | rfl | rfl | h
  · exact isNumeric_of_digits h
  · rfl
  · rfl
  · exact hwhole c h

theorem isNumeric_of_scientific {n : Nat} {point : Int} {exponentDigits : Nat → List Char} {c : Char}
    (hexponent : ∀ n, ∀ c ∈ exponentDigits n, isNumeric c = true)
    (h : c ∈ scientific (Nat.toDigits 10 n) point exponentDigits) : isNumeric c = true := by
  rcases mem_scientific h with h | rfl | rfl | rfl | rfl | ⟨m, h⟩
  · exact isNumeric_of_digits h
  · rfl
  · rfl
  · rfl
  · rfl
  · exact hexponent m c h

theorem isNumeric_of_sign {negative : Bool} {c : Char} (h : c ∈ sign negative) : isNumeric c = true := by
  unfold sign at h
  split at h
  · rw [List.mem_singleton.mp h]
    rfl
  · cases h

theorem isNumeric_of_reprDecimal {d : Decimal} {c : Char} (h : c ∈ reprDecimal d) :
    isNumeric c = true := by
  unfold reprDecimal at h
  rcases List.mem_append.mp h with h | h
  · exact isNumeric_of_sign h
  · split at h
    · simp only [List.mem_cons, List.not_mem_nil, or_false] at h
      rcases h with rfl | rfl | rfl <;> rfl
    · split at h
      · refine isNumeric_of_positional ?_ h
        intro c hc
        rcases List.mem_pair.mp hc with rfl | rfl <;> rfl
      · exact isNumeric_of_scientific (fun _ _ => isNumeric_of_twoDigits) h

theorem isNumeric_of_esDecimal {d : Decimal} {c : Char} (h : c ∈ esDecimal d) :
    isNumeric c = true := by
  unfold esDecimal at h
  split at h
  · rw [List.mem_singleton.mp h]
    rfl
  · rcases List.mem_append.mp h with h | h
    · exact isNumeric_of_sign h
    · split at h
      · exact isNumeric_of_positional (by simp) h
      · exact isNumeric_of_scientific (fun _ _ => isNumeric_of_digits) h

end EidolonHub.Library.Python
