import Mathlib.Algebra.Order.BigOperators.Group.List
import Mathlib.Algebra.Order.Field.Basic
import Mathlib.Algebra.BigOperators.Ring.List
import Mathlib.Tactic.LinearCombination
import Mathlib.Tactic.Linarith
import Mathlib.Tactic.Ring
/-!
# LeastSquares — the line through points of a plane

The line `a + b * x` leaves at a point a residual, and fits best if no line has a smaller sum of squared residuals.  A
line that solves the two normal equations fits best (`Normal.bestFit`), and if two points have different abscissas no
other does (`BestFit.eq`).  The closed form (`slopeOf`, `interceptOf`) solves them whenever its denominator is not
zero, and that is whenever two abscissas differ (`spread_pos`).
-/
namespace Lib

variable {K : Type} [Field K]

/-- How far a point lies above the line `a + b * x`. -/
def residual (a b : K) (p : K × K) : K := p.2 - (a + b * p.1)

/-- The sum of the squared residuals of a line. -/
def sse (pts : List (K × K)) (a b : K) : K := (pts.map (fun p => residual a b p ^ 2)).sum

/-- The points `(0, y₀), (1, y₁), …`. -/
def indexed (ys : List K) : List (K × K) := ((List.range ys.length).map (fun i : Nat => (i : K))).zip ys

/-- The normal equations of a line. -/
structure Normal (pts : List (K × K)) (a b : K) : Prop where
  sum : (pts.map (residual a b)).sum = 0
  moment : (pts.map (fun p => p.1 * residual a b p)).sum = 0

/-- Two of the points are not one above the other. -/
def Spreads (pts : List (K × K)) : Prop := ∃ p ∈ pts, ∃ q ∈ pts, p.1 ≠ q.1

section Sums

variable (pts : List (K × K))

def sumX : K := (pts.map (·.1)).sum
def sumY : K := (pts.map (·.2)).sum
def sumXY : K := (pts.map (fun p => p.1 * p.2)).sum
def sumXX : K := (pts.map (fun p => p.1 * p.1)).sum

/-- The denominator of the closed form. -/
def spread : K := pts.length * sumXX pts - sumX pts ^ 2

def slopeOf : K := (pts.length * sumXY pts - sumX pts * sumY pts) / spread pts

def interceptOf : K := (sumY pts - slopeOf pts * sumX pts) / pts.length

theorem sum_residual (a b : K) :
    (pts.map (residual a b)).sum = sumY pts - a * pts.length - b * sumX pts := by
  induction pts with
  | nil => simp [sumX, sumY]
  | cons p pts ih =>
    simp only [sumX, sumY, List.map_cons, List.sum_cons, List.length_cons, residual, Nat.cast_add, Nat.cast_one] at ih ⊢
    linear_combination ih

theorem sum_moment (a b : K) :
    (pts.map (fun p => p.1 * residual a b p)).sum = sumXY pts - a * sumX pts - b * sumXX pts := by
  induction pts with
  | nil => simp [sumX, sumXX, sumXY]
  | cons p pts ih =>
    simp only [sumX, sumXX, sumXY, List.map_cons, List.sum_cons, residual] at ih ⊢
    linear_combination ih

/-- The squares of another line's residuals, from those of this one. -/
theorem sse_eq (a b a' b' : K) : sse pts a' b' = sse pts a b
    - 2 * ((a' - a) * (pts.map (residual a b)).sum + (b' - b) * (pts.map (fun p => p.1 * residual a b p)).sum)
    + (pts.map (fun p => ((a' - a) + (b' - b) * p.1) ^ 2)).sum := by
  induction pts with
  | nil => simp [sse]
  | cons p pts ih =>
    simp only [sse, List.map_cons, List.sum_cons, residual] at ih ⊢
    linear_combination ih

theorem sum_sq_affine (c d : K) : (pts.map (fun p => (c * p.1 - d) ^ 2)).sum
    = c ^ 2 * sumXX pts - 2 * c * d * sumX pts + d ^ 2 * pts.length := by
  induction pts with
  | nil => simp [sumX, sumXX]
  | cons p pts ih =>
    simp only [sumX, sumXX, List.map_cons, List.sum_cons, List.length_cons, Nat.cast_add, Nat.cast_one] at ih ⊢
    linear_combination ih

end Sums

theorem Normal.sse_eq {pts : List (K × K)} {a b : K} (h : Normal pts a b) (a' b' : K) :
    sse pts a' b' = sse pts a b + (pts.map (fun p => ((a' - a) + (b' - b) * p.1) ^ 2)).sum := by
  rw [Lib.sse_eq pts a b, h.sum, h.moment]
  ring

/-- A line that goes through all the points. -/
theorem Normal.of_line {pts : List (K × K)} {a b : K} (h : ∀ p ∈ pts, p.2 = a + b * p.1) : Normal pts a b := by
  have hzero : ∀ p ∈ pts, residual a b p = 0 := fun p hp => sub_eq_zero.2 (h p hp)
  refine ⟨List.sum_eq_zero ?_, List.sum_eq_zero ?_⟩
  · intro y hy
    obtain ⟨p, hp, rfl⟩ := List.mem_map.1 hy
    exact hzero p hp
  · intro y hy
    obtain ⟨p, hp, rfl⟩ := List.mem_map.1 hy
    rw [hzero p hp, mul_zero]

section Order

variable [LinearOrder K] [IsStrictOrderedRing K] {pts : List (K × K)} {a b a' b' : K}

/-- No line has a smaller sum of squared residuals. -/
def BestFit (pts : List (K × K)) (a b : K) : Prop := ∀ a' b', sse pts a b ≤ sse pts a' b'

theorem eq_zero_of_sum_sq (f : K × K → K) (h : (pts.map (fun p => f p ^ 2)).sum ≤ 0) : ∀ p ∈ pts, f p = 0 := by
  intro p hp
  have hle : f p ^ 2 ≤ (pts.map (fun p => f p ^ 2)).sum := by
    refine List.single_le_sum ?_ _ (List.mem_map.2 ⟨p, hp, rfl⟩)
    intro y hy
    obtain ⟨q, -, rfl⟩ := List.mem_map.1 hy
    exact sq_nonneg _
  exact pow_eq_zero_iff two_ne_zero |>.1 (le_antisymm (hle.trans h) (sq_nonneg _))

/-- **The denominator is positive** once two abscissas differ. -/
theorem spread_pos (h : Spreads pts) : 0 < spread pts := by
  obtain ⟨p, hp, q, hq, hne⟩ := h
  have hn : (0 : K) < pts.length := Nat.cast_pos.2 (List.length_pos_of_mem hp)
  have hsum : (pts.map (fun r => ((pts.length : K) * r.1 - sumX pts) ^ 2)).sum = pts.length * spread pts := by
    rw [sum_sq_affine, spread]
    ring
  by_contra hle
  have hzero := eq_zero_of_sum_sq (fun r => (pts.length : K) * r.1 - sumX pts)
    (hsum.trans_le (mul_nonpos_of_nonneg_of_nonpos hn.le (not_lt.1 hle)))
  have hpq : (pts.length : K) * p.1 = pts.length * q.1 := by
    rw [sub_eq_zero.1 (hzero p hp), sub_eq_zero.1 (hzero q hq)]
  exact hne (mul_left_cancel₀ hn.ne' hpq)

/-- **A line that solves the normal equations fits best.** -/
theorem Normal.bestFit (h : Normal pts a b) : BestFit pts a b := by
  intro a' b'
  rw [h.sse_eq a' b']
  refine le_add_of_nonneg_right (List.sum_nonneg ?_)
  intro y hy
  obtain ⟨p, -, rfl⟩ := List.mem_map.1 hy
  exact sq_nonneg _

/-- **Only that line does**, if the points spread. -/
theorem Normal.eq_of_sse_le (h : Normal pts a b) (hs : Spreads pts) (hle : sse pts a' b' ≤ sse pts a b) :
    a' = a ∧ b' = b := by
  obtain ⟨p, hp, q, hq, hne⟩ := hs
  have hsum : (pts.map (fun p => ((a' - a) + (b' - b) * p.1) ^ 2)).sum ≤ 0 := by
    rw [h.sse_eq a' b'] at hle
    linarith
  have hzero := eq_zero_of_sum_sq (fun p => (a' - a) + (b' - b) * p.1) hsum
  have hb : (b' - b) * (p.1 - q.1) = 0 := by
    linear_combination hzero p hp - hzero q hq
  have hb' : b' - b = 0 := (mul_eq_zero.1 hb).resolve_right (sub_ne_zero.2 hne)
  have ha := hzero p hp
  rw [hb', zero_mul, add_zero] at ha
  exact ⟨sub_eq_zero.1 ha, sub_eq_zero.1 hb'⟩

theorem Normal.bestFit_iff (h : Normal pts a b) (hs : Spreads pts) : BestFit pts a' b' ↔ a' = a ∧ b' = b := by
  constructor
  · exact fun hbest => h.eq_of_sse_le hs (hbest a b)
  · rintro ⟨rfl, rfl⟩
    exact h.bestFit

/-- **The closed form solves the normal equations.** -/
theorem normal_closedForm (hs : Spreads pts) : Normal pts (interceptOf pts) (slopeOf pts) := by
  have hd : spread pts ≠ 0 := (spread_pos hs).ne'
  obtain ⟨p, hp, -⟩ := hs
  have hn : (pts.length : K) ≠ 0 := Nat.cast_ne_zero.2 (List.length_pos_of_mem hp).ne'
  have hslope : slopeOf pts * spread pts = pts.length * sumXY pts - sumX pts * sumY pts := div_mul_cancel₀ _ hd
  have hint : interceptOf pts * pts.length = sumY pts - slopeOf pts * sumX pts := div_mul_cancel₀ _ hn
  constructor
  · rw [sum_residual]
    linear_combination -hint
  · rw [sum_moment]
    refine mul_left_cancel₀ hn ?_
    rw [spread] at hslope
    linear_combination -hslope - sumX pts * hint

end Order

/-! ## Points at the indices of a list -/

theorem spreads_indexed [CharZero K] {ys : List K} (h : 2 ≤ ys.length) : Spreads (indexed ys) := by
  have hlen : (indexed ys).length = ys.length := by simp [indexed]
  have hget : ∀ (i : Nat) (hi : i < (indexed ys).length), (indexed ys)[i].1 = i := by
    intro i hi
    simp [indexed]
  refine ⟨(indexed ys)[0], List.getElem_mem (by omega), (indexed ys)[1], List.getElem_mem (by omega), ?_⟩
  rw [hget, hget]
  simp

end Lib
