import KrishiBazaar.Horizon
import KrishiBazaar.Lib.LeastSquares
/-!
# Regression — the line that the trend model fits

`LinearRegressionModel` takes the last thirty prices at the indices from zero on and computes a slope and an intercept
from five sums.  From two prices on they are the closed form of the least-squares line (`fit_closedForm`).
-/
namespace Krishi

open Lib

namespace LinearRegressionModel

/-- What `fit` divides by, unless it is zero (`fit_slope`). -/
def denom (prices : List ℚ) : ℚ :=
  let window := lastPrices olsFitWindow prices
  let n : ℚ := window.length
  let xs := (List.range window.length).map (fun x : Nat => (x : ℚ))
  n * (xs.map (fun x => x * x)).sum - xs.sum ^ 2

/-- The prices that are fitted, at their indices. -/
def points (prices : List ℚ) : List (ℚ × ℚ) := indexed (lastPrices olsFitWindow prices)

section Fit

variable (cfg : ForecastConfig) (prices : List ℚ)

theorem fit_n : (fit cfg prices).n = min olsFitWindow prices.length := by
  show (prices.drop (prices.length - olsFitWindow)).length = _
  rw [List.length_drop]
  omega

theorem map_fst_points : (points prices).map (·.1)
    = (List.range (lastPrices olsFitWindow prices).length).map (fun x : Nat => (x : ℚ)) := by
  unfold points indexed
  rw [List.map_fst_zip]
  simp

theorem map_snd_points : (points prices).map (·.2) = lastPrices olsFitWindow prices := by
  unfold points indexed
  rw [List.map_snd_zip]
  simp

theorem length_points : (points prices).length = (lastPrices olsFitWindow prices).length := by
  rw [← map_snd_points, List.length_map]

theorem sumXY_points : sumXY (points prices)
    = (((List.range (lastPrices olsFitWindow prices).length).map (fun x : Nat => (x : ℚ))).zipWith (· * ·)
        (lastPrices olsFitWindow prices)).sum := by
  unfold sumXY points indexed
  rw [List.map_zip_eq_zipWith]
  rfl

theorem sumXX_points : sumXX (points prices) = (((List.range (lastPrices olsFitWindow prices).length).map
    (fun x : Nat => (x : ℚ))).map (fun x => x * x)).sum := by
  rw [← map_fst_points, List.map_map]
  rfl

theorem spread_points : spread (points prices) = denom prices := by
  unfold spread denom sumX
  rw [sumXX_points, map_fst_points, length_points]

theorem points_spread (h : 2 ≤ prices.length) : Spreads (points prices) := by
  refine spreads_indexed ?_
  show 2 ≤ (prices.drop (prices.length - olsFitWindow)).length
  rw [List.length_drop]
  unfold olsFitWindow
  omega

theorem indices_eq (n : Nat) : (do let x ← List.range n; pure (x : ℚ)).map (fun x => x)
    = (List.range n).map (fun x : Nat => (x : ℚ)) := by
  rw [List.map_id', bind_pure_comp, List.map_eq_map]

theorem fit_slope : (fit cfg prices).slope = if denom prices = 0 then 0 else slopeOf (points prices) := by
  unfold slopeOf
  rw [spread_points, sumXY_points, sumX, sumY, map_fst_points, map_snd_points, length_points]
  unfold fit denom
  simp only [indices_eq]

theorem fit_intercept (hd : denom prices ≠ 0) : (fit cfg prices).intercept
    = (sumY (points prices) - (fit cfg prices).slope * sumX (points prices)) / (points prices).length := by
  rw [sumX, sumY, map_fst_points, map_snd_points, length_points]
  unfold denom at hd
  unfold fit
  simp only [indices_eq, if_neg hd]

/-- **From two prices on the fit is the closed form.** -/
theorem fit_closedForm (h : 2 ≤ prices.length) :
    (fit cfg prices).slope = slopeOf (points prices) ∧ (fit cfg prices).intercept = interceptOf (points prices) := by
  have hd : denom prices ≠ 0 := by
    rw [← spread_points]
    exact (spread_pos (points_spread prices h)).ne'
  have hslope : (fit cfg prices).slope = slopeOf (points prices) := by
    rw [fit_slope, if_neg hd]
  exact ⟨hslope, by rw [fit_intercept cfg prices hd, hslope, interceptOf]⟩

theorem fit_normal (h : 2 ≤ prices.length) :
    Normal (points prices) (fit cfg prices).intercept (fit cfg prices).slope := by
  obtain ⟨hslope, hintercept⟩ := fit_closedForm cfg prices h
  rw [hslope, hintercept]
  exact normal_closedForm (points_spread prices h)

theorem fit_slope_mul (hd : denom prices ≠ 0) : (fit cfg prices).slope * denom prices
    = (points prices).length * sumXY (points prices) - sumX (points prices) * sumY (points prices) := by
  rw [fit_slope, if_neg hd, slopeOf, spread_points, div_mul_cancel₀ _ hd]

end Fit

theorem predict_predicted (m : LinearRegressionModel) : m.predict.map (·.predicted)
    = (List.range horizonDays).map (fun i : Nat => roundTo 2 (m.intercept + m.slope * (m.n + i : Nat))) := by
  rw [predict, List.map_map]
  rfl

/-- **The fit is the least-squares line of the last thirty prices, and no other line is as good.**  What its slope is
divided by is not zero, and prices on a line are fitted without residuals and projected along it, which the predictions
of the week round. -/
theorem fit_leastSquares (cfg : ForecastConfig) (prices : List ℚ) (h : 2 ≤ prices.length) :
    let m := fit cfg prices
    let pts := points prices
    (denom prices ≠ 0 ∧ m.slope * denom prices = pts.length * sumXY pts - sumX pts * sumY pts) ∧
    (∀ a b, sse pts m.intercept m.slope ≤ sse pts a b) ∧
    (∀ a b, sse pts a b ≤ sse pts m.intercept m.slope → a = m.intercept ∧ b = m.slope) ∧
    ∀ a b, (∀ p ∈ pts, p.2 = a + b * p.1) → (∀ p ∈ pts, residual m.intercept m.slope p = 0) ∧
      (∀ i : Nat, m.intercept + m.slope * (m.n + i : Nat) = a + b * (min 30 prices.length + i : Nat)) ∧
      m.predict.map (·.predicted)
        = (List.range 7).map (fun i : Nat => roundTo 2 (a + b * (min 30 prices.length + i : Nat))) := by
  intro m pts
  have hs : Spreads pts := points_spread prices h
  have hn : Normal pts m.intercept m.slope := fit_normal cfg prices h
  have hd : denom prices ≠ 0 := by
    rw [← spread_points]
    exact (spread_pos hs).ne'
  refine ⟨⟨hd, fit_slope_mul cfg prices hd⟩, hn.bestFit, fun a b hle => hn.eq_of_sse_le hs hle, fun a b hline => ?_⟩
  obtain ⟨ha, hb⟩ := (hn.bestFit_iff hs).1 (Normal.of_line hline).bestFit
  subst ha hb
  have hproject : ∀ i : Nat, m.intercept + m.slope * (m.n + i : Nat)
      = m.intercept + m.slope * (min 30 prices.length + i : Nat) := fun i => by
    rw [show m.n = min 30 prices.length from fit_n cfg prices]
  refine ⟨fun p hp => sub_eq_zero.2 (hline p hp), hproject, ?_⟩
  rw [predict_predicted]
  exact List.map_congr_left (fun i _ => congrArg (roundTo 2) (hproject i))

/-- Three prices ten apart are projected onwards by ten. -/
theorem fit_leastSquares_threePrices :
    let m := fit flatConfig [2000, 2010, 2020]
    (∀ i : Nat, m.intercept + m.slope * (m.n + i : Nat) = 2000 + 10 * (3 + i : Nat)) ∧
      m.predict.map (·.predicted) = (List.range 7).map (fun i : Nat => roundTo 2 (2000 + 10 * (3 + i : Nat))) :=
  ((fit_leastSquares flatConfig [2000, 2010, 2020] (by decide)).2.2.2 2000 10 (by decide +kernel)).2

end LinearRegressionModel
end Krishi
