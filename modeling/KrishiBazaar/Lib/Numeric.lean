import Mathlib.Algebra.Order.Floor.Ring
import Mathlib.Tactic.Linarith
import Mathlib.Tactic.Positivity
/-!
# Numeric — the decimal columns of a database

A column `numeric(p, s)` takes a number that, rounded to `s` decimals, has at most `p` digits, and keeps it so rounded
(`stored`).  Rounding keeps order (`units_mono`), so what lies between zero and a number that fits, fits (`Fits.of_le`).
-/
namespace Lib.Numeric

variable {K : Type} [Field K] [LinearOrder K] [IsStrictOrderedRing K] [FloorRing K] {p s : Nat} {x y : K}

/-- A number to `s` decimals, halves away from zero, in units of the last. -/
def units (s : Nat) (x : K) : Int := if 0 ≤ x then ⌊x * 10 ^ s + 1 / 2⌋ else -⌊-x * 10 ^ s + 1 / 2⌋

/-- What a column with `s` decimals keeps of a number. -/
def stored (s : Nat) (x : K) : K := units s x / 10 ^ s

/-- `numeric(p, s)` takes the number. -/
def Fits (p s : Nat) (x : K) : Prop := |units s x| < 10 ^ p

instance (p s : Nat) (x : K) : Decidable (Fits p s x) := inferInstanceAs (Decidable (_ < _))

theorem units_nonneg (h : 0 ≤ x) : 0 ≤ units s x := by
  unfold units
  rw [if_pos h]
  exact Int.floor_nonneg.2 (by positivity)

theorem stored_nonneg (h : 0 ≤ x) : 0 ≤ stored s x :=
  div_nonneg (Int.cast_nonneg (units_nonneg h)) (by positivity)

theorem units_mono (s : Nat) (h : x ≤ y) : units s x ≤ units s y := by
  have hscale : (0 : K) < 10 ^ s := by positivity
  by_cases hx : 0 ≤ x
  · unfold units
    rw [if_pos hx, if_pos (hx.trans h)]
    exact Int.floor_le_floor (by have := mul_le_mul_of_nonneg_right h hscale.le; linarith)
  by_cases hy : 0 ≤ y
  · have hneg : units s x ≤ 0 := by
      unfold units
      rw [if_neg hx, neg_nonpos]
      exact Int.floor_nonneg.2 (by have := mul_pos (neg_pos.2 (not_le.1 hx)) hscale; linarith)
    exact hneg.trans (units_nonneg hy)
  · unfold units
    rw [if_neg hx, if_neg hy, neg_le_neg_iff]
    exact Int.floor_le_floor (by have := mul_le_mul_of_nonneg_right (neg_le_neg h) hscale.le; linarith)

/-- **What lies between zero and a number that fits, fits.** -/
theorem Fits.of_le (h : Fits p s y) (hx : 0 ≤ x) (hxy : x ≤ y) : Fits p s x := by
  unfold Fits at h ⊢
  rw [abs_of_nonneg (units_nonneg hx)]
  rw [abs_of_nonneg (units_nonneg (hx.trans hxy))] at h
  exact (units_mono s hxy).trans_lt h

end Lib.Numeric
