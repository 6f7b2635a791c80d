import KrishiBazaar.Regression
/-!
# Bands — the interval around a prediction

`_make_forecast_rows` rounds each number, widens the interval with the day, clamps it into the commodity's sanity band,
floors the lower bound at zero and then repairs the order.  Within a valid band the three numbers of a row are in order
and in the band (`forecast_bands_sane`).  Without one the prediction itself is not floored, and a series that falls below
zero within the week gets a lower bound above its prediction (`forecast_bands_ordered`).
-/
namespace Krishi

open Lib

/-! ## Rounding -/

theorem roundTo_two_nonneg_iff {x : ℚ} : 0 ≤ roundTo 2 x ↔ -(1 / 200) ≤ x := by
  have hpow : (0 : ℚ) < 10 ^ 2 := by positivity
  unfold roundTo
  rw [le_div_iff₀ hpow, zero_mul, Int.cast_nonneg_iff, pyRound_nonneg_iff]
  constructor
  · intro h
    linarith
  · intro h
    linarith

/-! ## One row -/

/-- The numbers of a row that has them. -/
def Forecast.prediction (r : Forecast) : Option Prediction :=
  match r.predictedPrice, r.lowerBound, r.upperBound with
  | some predicted, some lower, some upper => some ⟨predicted, lower, upper⟩
  | _, _, _ => none

section

variable {cfg : ForecastConfig} {i : Nat} {p : Prediction} {lo hi v : ℚ} {sanity : Option (ℚ × ℚ)}

theorem clamp_rounded : Rounded 2 (clamp v lo hi) := by
  unfold clamp
  split <;> exact rounded_roundTo 2 _

theorem clamp_mem (hle : lo ≤ hi) (hlo : Rounded 2 lo) (hhi : Rounded 2 hi) :
    lo ≤ clamp v lo hi ∧ clamp v lo hi ≤ hi := by
  unfold clamp
  rw [if_neg (not_lt.2 hle)]
  exact ⟨hlo.le_roundTo (le_max_left _ _), hhi.roundTo_le (max_le hle (min_le_left _ _))⟩

/-- **Within a valid band a row is in order and in the band**, whatever was predicted. -/
theorem bounded_sane (h0 : 0 ≤ lo) (hle : lo ≤ hi) (hlo : Rounded 2 lo) (hhi : Rounded 2 hi) :
    lo ≤ (bounded cfg (some (lo, hi)) i p).lower ∧
    (bounded cfg (some (lo, hi)) i p).lower ≤ (bounded cfg (some (lo, hi)) i p).predicted ∧
    (bounded cfg (some (lo, hi)) i p).predicted ≤ (bounded cfg (some (lo, hi)) i p).upper ∧
    (bounded cfg (some (lo, hi)) i p).upper ≤ hi := by
  unfold bounded
  dsimp only
  generalize hm : (p.upper - p.predicted) * cfg.sqrtDays i = margin
  generalize hq : clamp p.predicted lo hi = predicted
  have hpred : lo ≤ predicted ∧ predicted ≤ hi := hq ▸ clamp_mem hle hlo hhi
  have hround : Rounded 2 predicted := hq ▸ clamp_rounded
  -- the repaired lower bound is not below the band, so that the floor at zero and the last rounding leave it
  have hlow := (clamp_mem (v := max 0 (predicted - margin)) hle hlo hhi).1
  have hlow' : lo ≤ min (clamp (max 0 (predicted - margin)) lo hi) predicted := le_min hlow hpred.1
  have hhigh := (clamp_mem (v := predicted + margin) hle hlo hhi).2
  have hhigh' : max (clamp (predicted + margin) lo hi) predicted ≤ hi := max_le hhigh hpred.2
  rw [max_eq_right (h0.trans hlow'), (clamp_rounded.min hround).roundTo, (clamp_rounded.max hround).roundTo]
  exact ⟨hlow', min_le_right _ _, le_max_right _ _, hhigh'⟩

/-- Without a band, or with a reversed one, nothing is clamped. -/
def Unusable (sanity : Option (ℚ × ℚ)) : Prop := ∀ s ∈ sanity, s.2 < s.1

/-- **Without a usable band a row is in order if its prediction is not below zero.** -/
theorem bounded_ordered_iff (hs : Unusable sanity) (hp : Rounded 2 p.predicted) (hup : p.predicted ≤ p.upper)
    (hd : 0 ≤ cfg.sqrtDays i) :
    (0 ≤ (bounded cfg sanity i p).lower ∧ (bounded cfg sanity i p).lower ≤ (bounded cfg sanity i p).predicted ∧
      (bounded cfg sanity i p).predicted ≤ (bounded cfg sanity i p).upper) ↔ 0 ≤ p.predicted := by
  have hm : 0 ≤ (p.upper - p.predicted) * cfg.sqrtDays i := mul_nonneg (sub_nonneg.2 hup) hd
  have hlow : 0 ≤ p.predicted → max 0 (p.predicted - (p.upper - p.predicted) * cfg.sqrtDays i) ≤ p.predicted :=
    fun h => max_le h (by linarith)
  have hhigh : p.predicted ≤ p.predicted + (p.upper - p.predicted) * cfg.sqrtDays i := by linarith
  cases sanity with
  | none =>
    unfold bounded
    dsimp only
    refine ⟨fun h => h.1.trans h.2.1, fun h => ⟨?_, hp.roundTo_le (hlow h), hp.le_roundTo hhigh⟩⟩
    exact (Rounded.zero 2).le_roundTo (le_max_left _ _)
  | some s =>
    obtain ⟨lo, hi⟩ := s
    have hrev : hi < lo := hs (lo, hi) rfl
    unfold bounded clamp
    dsimp only
    rw [if_pos hrev, if_pos hrev, if_pos hrev, hp.roundTo]
    refine ⟨fun h => h.1.trans h.2.1, fun h => ⟨?_, ?_, ?_⟩⟩
    · exact (Rounded.zero 2).le_roundTo (le_max_left _ _)
    · exact hp.roundTo_le (max_le h (min_le_right _ _))
    · exact hp.le_roundTo (le_max_right _ _)

end

/-! ## What is predicted -/

section

variable {cfg : ForecastConfig} {prices : List ℚ}

theorem sigma_nonneg (hsqrt : ∀ v, 0 ≤ cfg.sqrt v) : 0 ≤ (MovingAverageModel.fit cfg prices).sigma := by
  unfold MovingAverageModel.fit
  dsimp only
  split
  · exact hsqrt _
  · exact le_rfl

theorem tier_rounded (hsqrt : ∀ v, 0 ≤ cfg.sqrt v) : ∀ p ∈ (tier cfg prices).1,
    Rounded 2 p.predicted ∧ p.predicted ≤ p.upper := by
  have hsigma : 0 ≤ (MovingAverageModel.fit cfg prices).sigma := sigma_nonneg hsqrt
  have hz : 0 ≤ confidenceZ := by decide +kernel
  intro p hp
  unfold tier at hp
  split at hp
  · obtain ⟨i, -, rfl⟩ := List.mem_map.1 hp
    refine ⟨rounded_roundTo 2 _, (rounded_roundTo 2 _).le_roundTo ?_⟩
    exact le_add_of_nonneg_right (mul_nonneg hz (le_max_of_le_left hsigma))
  · obtain rfl := List.eq_of_mem_replicate hp
    refine ⟨rounded_roundTo 2 _, roundTo_mono 2 ?_⟩
    exact le_add_of_nonneg_right (mul_nonneg hz hsigma)

theorem mean_nonneg {l : List ℚ} (h : ∀ v ∈ l, 0 ≤ v) : 0 ≤ mean l :=
  div_nonneg (List.sum_nonneg h) (Nat.cast_nonneg _)

/-- The blend of the week's mean and the line that fits the month best is not below zero on any day ahead. -/
def StaysUp (prices : List ℚ) : Prop :=
  ∀ a b, BestFit (LinearRegressionModel.points prices) a b → ∀ i < 7,
    -(1 / 200) ≤ 4 / 10 * mean (lastPrices 7 prices) + 6 / 10 * (a + b * (min 30 prices.length + i : Nat))

theorem staysUp_iff (h : 2 ≤ prices.length) : StaysUp prices ↔ ∀ i < 7, -(1 / 200) ≤
    4 / 10 * (MovingAverageModel.fit cfg prices).level + 6 / 10 * ((LinearRegressionModel.fit cfg prices).intercept
      + (LinearRegressionModel.fit cfg prices).slope * ((LinearRegressionModel.fit cfg prices).n + i : Nat)) := by
  have hn := LinearRegressionModel.fit_normal cfg prices h
  have hlevel : (MovingAverageModel.fit cfg prices).level = mean (lastPrices 7 prices) := rfl
  rw [LinearRegressionModel.fit_n, hlevel]
  constructor
  · exact fun hup => hup _ _ hn.bestFit
  · intro hup a b hbest
    obtain ⟨rfl, rfl⟩ := (hn.bestFit_iff (LinearRegressionModel.points_spread prices h)).1 hbest
    exact hup

/-- **No prediction is below zero if there are too few prices for a trend, or the trend stays up.** -/
theorem tier_nonneg_iff (cfg : ForecastConfig) (h : 2 ≤ prices.length) (hpos : ∀ v ∈ prices, 0 ≤ v) :
    (∀ p ∈ (tier cfg prices).1, 0 ≤ p.predicted) ↔ prices.length < 15 ∨ StaysUp prices := by
  unfold tier
  split
  · rename_i hblend
    have hlong : ¬ prices.length < 15 := not_lt.2 hblend
    rw [or_iff_right hlong, staysUp_iff h]
    constructor
    · intro hp i hi
      exact roundTo_two_nonneg_iff.1 (hp _ (List.mem_map.2 ⟨i, List.mem_range.2 hi, rfl⟩))
    · intro hup p hp
      obtain ⟨i, hi, rfl⟩ := List.mem_map.1 hp
      exact roundTo_two_nonneg_iff.2 (hup i (List.mem_range.1 hi))
  · rename_i hblend
    refine ⟨fun _ => Or.inl (not_le.1 hblend), fun _ p hp => ?_⟩
    obtain rfl := List.eq_of_mem_replicate hp
    refine (Rounded.zero 2).le_roundTo (mean_nonneg (fun v hv => hpos v ?_))
    exact List.mem_of_mem_drop hv

end

/-! ## The rows of a series -/

section

variable {cfg : ForecastConfig} {x : Conditions} {b : Board} {marketId commodityId : Uuid} {series : DailySeries}
  {sanity : Option (ℚ × ℚ)} {asOf : Option Date}

/-- A row in order, and from zero on. -/
def Forecast.Ordered (r : Forecast) : Prop :=
  ∃ q, r.prediction = some q ∧ 0 ≤ q.lower ∧ q.lower ≤ q.predicted ∧ q.predicted ≤ q.upper

/-- A row in order, and in a band. -/
def Forecast.Within (lo hi : ℚ) (r : Forecast) : Prop :=
  ∃ q, r.prediction = some q ∧ lo ≤ q.lower ∧ q.lower ≤ q.predicted ∧ q.predicted ≤ q.upper ∧ q.upper ≤ hi

/-- **The rows of ten observations or more are the seven days of their tier, each bounded.** -/
theorem run_makeForecastRows (h : 10 ≤ series.length) : ∃ rows b',
    (makeForecastRows cfg marketId commodityId series sanity asOf).run x.exec b = (.ok rows, b') ∧ rows.length = 7 ∧
    rows.map Forecast.prediction
      = (tier cfg (series.map (·.2))).1.mapIdx (fun i p => some (bounded cfg sanity i p)) := by
  obtain ⟨d, hd⟩ : ∃ d, (makeForecastRows cfg marketId commodityId series sanity asOf).run x.exec b
      = Prog.run x.exec (stampRows (forecastDrafts cfg marketId commodityId series sanity d)) b := by
    cases asOf with
    | none => exact ⟨x.today, rfl⟩
    | some d => exact ⟨d, rfl⟩
  rw [hd, run_stampRows]
  refine ⟨_, _, rfl, ?_⟩
  have hmin : ¬ series.length < minObservations := not_lt.2 h
  obtain ⟨last, hlast⟩ : ∃ last, series.getLast? = some last := by
    cases hl : series.getLast? with
    | none =>
      rw [List.getLast?_eq_none_iff.1 hl] at h
      exact absurd h (by decide)
    | some last => exact ⟨last, rfl⟩
  unfold forecastDrafts stamped
  rw [hlast]
  dsimp only
  rw [if_neg hmin]
  refine ⟨?_, List.ext_getElem ?_ (fun i hi hi' => ?_)⟩
  · rw [List.length_mapIdx, List.length_mapIdx, length_tier]
  · rw [List.length_map, List.length_mapIdx, List.length_mapIdx, List.length_mapIdx]
  · simp [predictedRow, Forecast.prediction]

/-- What holds of the prediction of every row holds of every bounded day. -/
theorem forall_rows_iff {rows : List Forecast} {f : Nat → Prediction → Prediction} {preds : List Prediction}
    {P : Prediction → Prop} (h : rows.map Forecast.prediction = preds.mapIdx (fun i p => some (f i p))) :
    (∀ r ∈ rows, ∃ q, r.prediction = some q ∧ P q) ↔ ∀ (i : Nat) (hi : i < preds.length), P (f i preds[i]) := by
  have hlen : rows.length = preds.length := by simpa using congrArg List.length h
  have hget : ∀ (i : Nat) (hi : i < rows.length) (hi' : i < preds.length),
      rows[i].prediction = some (f i preds[i]) := by
    intro i hi hi'
    have := congrArg (fun l => l[i]?) h
    simpa [hi, hi'] using this
  constructor
  · intro hrows i hi
    have hi' : i < rows.length := hlen ▸ hi
    obtain ⟨q, hq, hP⟩ := hrows rows[i] (List.getElem_mem hi')
    rw [hget i hi' hi] at hq
    rwa [Option.some.inj hq]
  · intro hall r hr
    obtain ⟨i, hi, rfl⟩ := List.getElem_of_mem hr
    exact ⟨_, hget i hi (hlen ▸ hi), hall i (hlen ▸ hi)⟩

end

/-- **Within a valid sanity band every forecast is in order and in the band**, whatever the series. -/
theorem forecast_bands_sane (cfg : ForecastConfig) (x : Conditions) (b : Board) (marketId commodityId : Uuid)
    (series : DailySeries) (asOf : Option Date) (lo hi : ℚ) (h : 10 ≤ series.length) (h0 : 0 ≤ lo) (hle : lo ≤ hi)
    (hlo : Rounded 2 lo) (hhi : Rounded 2 hi) : ∃ rows b',
      (makeForecastRows cfg marketId commodityId series (some (lo, hi)) asOf).run x.exec b = (.ok rows, b') ∧
      rows.length = 7 ∧ ∀ r ∈ rows, r.Within lo hi := by
  obtain ⟨rows, b', hrun, hlen, hpred⟩ := run_makeForecastRows h
  exact ⟨rows, b', hrun, hlen, (forall_rows_iff hpred).2 (fun _ _ => bounded_sane h0 hle hlo hhi)⟩

/-- **Without a usable band the forecasts are in order just if the series has no trend or its trend stays up.** -/
theorem forecast_bands_ordered (cfg : ForecastConfig) (x : Conditions) (b : Board) (marketId commodityId : Uuid)
    (series : DailySeries) (sanity : Option (ℚ × ℚ)) (asOf : Option Date) (hsqrt : ∀ v, 0 ≤ cfg.sqrt v)
    (hdays : ∀ i, 0 ≤ cfg.sqrtDays i) (h : 10 ≤ series.length) (hpos : ∀ d ∈ series, 0 ≤ d.2)
    (hs : Unusable sanity) : ∃ rows b',
      (makeForecastRows cfg marketId commodityId series sanity asOf).run x.exec b = (.ok rows, b') ∧ rows.length = 7 ∧
      ((∀ r ∈ rows, r.Ordered) ↔ series.length < 15 ∨ StaysUp (series.map (·.2))) := by
  obtain ⟨rows, b', hrun, hlen, hpred⟩ := run_makeForecastRows h
  refine ⟨rows, b', hrun, hlen, ?_⟩
  have hprices : 2 ≤ (series.map (·.2)).length := by
    rw [List.length_map]
    omega
  have hpos' : ∀ v ∈ series.map (·.2), 0 ≤ v := List.forall_mem_map.2 hpos
  have htier := tier_nonneg_iff cfg hprices hpos'
  rw [List.length_map] at htier
  rw [← htier]
  refine (forall_rows_iff hpred).trans (Iff.trans ?_ List.forall_mem_iff_forall_getElem.symm)
  refine forall_congr' (fun i => forall_congr' (fun hi => ?_))
  obtain ⟨hround, hup⟩ := tier_rounded hsqrt _ (List.getElem_mem hi)
  exact bounded_ordered_iff hs hround hup (hdays i)

/-! ## A month of falling prices -/

/-- Square roots rounded down: to whole numbers, and of the days to two decimals. -/
def squareRoots : ForecastConfig where
  sqrt v := (((List.range 1000).find? (fun r : Nat => v < ((r + 1 : Nat) : ℚ) ^ 2)).getD 1000 : Nat)
  sqrtDays i := (([100, 141, 173, 200, 223, 244, 264] : List Nat).getD i 300 : Nat) / 100

/-- Fifteen days on which a price falls from 1400 to nothing. -/
def fallingPrices : DailySeries := (List.range 15).map (fun i : Nat => ((i : Int), 1400 - 100 * (i : ℚ)))

theorem squareRoots_nonneg : (∀ v, 0 ≤ squareRoots.sqrt v) ∧ ∀ i, 0 ≤ squareRoots.sqrtDays i :=
  ⟨fun _ => Nat.cast_nonneg _, fun _ => div_nonneg (Nat.cast_nonneg _) (by norm_num)⟩

/-- Between 500 and 1000 they are forecast in order. -/
theorem fallingPrices_within : ∃ rows b',
    (makeForecastRows squareRoots 1 1 fallingPrices (some (500, 1000)) none).run (quietDay 14).exec ⟨DB.empty, 0, []⟩
      = (.ok rows, b') ∧ rows.length = 7 ∧ ∀ r ∈ rows, r.Within 500 1000 :=
  forecast_bands_sane squareRoots (quietDay 14) ⟨DB.empty, 0, []⟩ 1 1 fallingPrices none 500 1000 (by decide)
    (by norm_num) (by norm_num) ⟨50000, by norm_num⟩ ⟨100000, by norm_num⟩

theorem fallingPrices_ordered : ∃ rows b',
    (makeForecastRows squareRoots 1 1 fallingPrices (some (1000, 500)) none).run (quietDay 14).exec ⟨DB.empty, 0, []⟩
      = (.ok rows, b') ∧ rows.length = 7 ∧
        ((∀ r ∈ rows, r.Ordered) ↔ fallingPrices.length < 15 ∨ StaysUp (fallingPrices.map (·.2))) :=
  forecast_bands_ordered squareRoots (quietDay 14) ⟨DB.empty, 0, []⟩ 1 1 fallingPrices (some (1000, 500)) none
    squareRoots_nonneg.1 squareRoots_nonneg.2 (by decide) (by decide +kernel) (by simp [Unusable]; norm_num)

/-- A week later the prediction is 300 below zero, and the lower bound at zero. -/
theorem forecast_bands_crossed :
    10 ≤ fallingPrices.length ∧ (∀ d ∈ fallingPrices, 0 ≤ d.2) ∧ Unusable none ∧
    ¬ ∃ rows b', (makeForecastRows squareRoots 1 1 fallingPrices none none).run (quietDay 14).exec ⟨DB.empty, 0, []⟩
      = (.ok rows, b') ∧ ∀ r ∈ rows, r.Ordered := by
  refine ⟨by decide, by decide +kernel, by simp [Unusable], ?_⟩
  rintro ⟨rows, b', hrun, hrows⟩
  have hlast : ((makeForecastRows squareRoots 1 1 fallingPrices none none).run (quietDay 14).exec
      ⟨DB.empty, 0, []⟩).1.map (fun rows => rows.getLast?.bind Forecast.prediction)
        = .ok (some ⟨-300, 0, 73488 / 100⟩) := by
    decide +kernel
  rw [hrun] at hlast
  obtain ⟨r, hr, hq⟩ := Option.bind_eq_some_iff.1 (Except.ok.inj hlast)
  obtain ⟨q, hq', h0, hle, -⟩ := hrows r (List.mem_of_getLast? hr)
  rw [hq] at hq'
  obtain rfl := Option.some.inj hq'
  exact absurd hle (by decide +kernel)

end Krishi
