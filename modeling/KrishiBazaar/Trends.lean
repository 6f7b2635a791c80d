import KrishiBazaar.Lib.PageEnds
import KrishiBazaar.TrueAdvice
/-!
# Trends — whether a trend is one in time

The trend compares the first with the last of seven forecasts sorted by date.  For one market they are its next days; for
all markets they may be of different markets on one day, so markets with different prices that do not change look like a
rise or a fall (`trend_flat_iff`).
-/
namespace Krishi

open Lib

/-- The forecasts of a commodity that are still to come. -/
def comingRows (db : DB) (commodityId : Uuid) (today : Date) : List Forecast :=
  db.forecasts.rows.filter (fun f => f.commodityId = commodityId ∧ f.status = .ok ∧ today ≤ f.forecastDate)

/-- **Each market's forecasts do not change in time**, and are positive. -/
def ConstantEach (rows : List Forecast) : Prop :=
  (∀ f ∈ rows, ∃ p ∈ f.predictedPrice, 0 < p) ∧
    ∀ f ∈ rows, ∀ g ∈ rows, f.marketId = g.marketId → f.predictedPrice = g.predictedPrice

/-- There is a price row to make a window of. -/
def HasPrice (db : DB) (commodityId : Uuid) (today : Date) : Prop :=
  ∃ r ∈ db.prices.rows, r.commodityId = commodityId ∧ today - historyDays ≤ r.arrivalDate

/-- The one price is within 3 % of the other, in floats. -/
def LevelPrices (ar : Arith) (p q : ℚ) : Prop := ar.mul p (ar.round 0.97) ≤ q ∧ q ≤ ar.mul p (ar.round 1.03)

/-- Of two forecasts that may be the first and the last of the seven, the last is within 3 % of the first. -/
def LevelEnds (ar : Arith) (rows : List Forecast) : Prop :=
  ∀ f g, Leads (·.forecastDate) rows f → Closes (·.forecastDate) 7 rows g →
    ∀ p ∈ f.predictedPrice, ∀ q ∈ g.predictedPrice, LevelPrices ar (ar.round p) (ar.round q)

theorem forecastTrend_flat {ar : Arith} {p q : ℚ} : forecastTrend ar (some p) (some q) = some .flat ↔
    LevelPrices ar p q := by
  unfold forecastTrend LevelPrices
  dsimp only
  split
  · rename_i h
    simp [not_le.2 h]
  · rename_i h
    split
    · rename_i h'
      simp [not_le.2 h']
    · rename_i h'
      simp [not_lt.1 h, not_lt.1 h']

/-- A price is within 3 % of itself. -/
theorem levelPrices_self (ar : Arith) {p : ℚ} (h : 0 ≤ p) : LevelPrices ar (ar.round p) (ar.round p) := by
  have hpos : 0 ≤ ar.round p := ar.round_nonneg h
  have hlow : ar.round 0.97 ≤ 1 := (ar.round_mono (by norm_num)).trans_eq ar.round_one
  have hhigh : 1 ≤ ar.round 1.03 := ar.round_one.symm.trans_le (ar.round_mono (by norm_num))
  constructor
  · calc ar.mul (ar.round p) (ar.round 0.97) ≤ ar.round (ar.round p * 1) :=
          ar.round_mono (mul_le_mul_of_nonneg_left hlow hpos)
      _ = ar.round p := by rw [mul_one, ar.round_round]
  · calc ar.round p = ar.round (ar.round p * 1) := by rw [mul_one, ar.round_round]
      _ ≤ ar.mul (ar.round p) (ar.round 1.03) := ar.round_mono (mul_le_mul_of_nonneg_left hhigh hpos)

section Window

variable {cfg : ReplyConfig} {x : Daytime} {db : DB} {commodityId : Uuid} {marketId : Option Uuid}
  {originLat originLng : Option ℚ} {w : SaleWindow}

/-- The seven forecasts of the window. -/
def Daytime.sevenForecasts (x : Daytime) (db : DB) (commodityId : Uuid) (marketId : Option Uuid) : List Forecast :=
  x.order.page (fun a b => a.forecastDate ≤ b.forecastDate) (some 7)
    ((comingRows db commodityId x.today).filter (fun f => marketId.all (f.marketId = ·)))

theorem windowRows_forecasts :
    (x.windowRows cfg.arith db commodityId marketId).forecasts
      = (x.sevenForecasts db commodityId marketId).map (Forecast.read cfg.arith) := by
  have hfilter : (comingRows db commodityId x.today).filter (fun f => marketId.all (f.marketId = ·))
      = db.forecasts.rows.filter (fun f => f.commodityId = commodityId ∧ f.status = .ok ∧ x.today ≤ f.forecastDate ∧
        marketId.all (f.marketId = ·)) := by
    unfold comingRows
    rw [List.filter_filter]
    refine List.filter_congr (fun f _ => ?_)
    simp only [Bool.decide_and, Bool.decide_eq_true]
    grind
  unfold Daytime.sevenForecasts
  rw [hfilter]
  rfl

theorem window_trend (h : ((computeSaleWindow cfg commodityId marketId originLat originLng).run x.exec db).1
    = .ok (some w)) : w.forecastTrend = forecastTrend cfg.arith
      ((x.sevenForecasts db commodityId marketId).head?.bind (fun f => f.predictedPrice.map cfg.arith.round))
      ((x.sevenForecasts db commodityId marketId).getLast?.bind (fun f => f.predictedPrice.map cfg.arith.round)) := by
  have hread : ∀ f : Option Forecast, (f.map (Forecast.read cfg.arith)).bind (·.predictedPrice)
      = f.bind (fun f => f.predictedPrice.map cfg.arith.round) := by
    intro f
    cases f <;> rfl
  rw [run_computeSaleWindow] at h
  have hwindow := Except.ok.inj h
  unfold Daytime.window at hwindow
  split at hwindow
  · cases hwindow
  · obtain rfl := Option.some.inj hwindow
    rw [← hread, ← hread, ← List.head?_map, ← List.getLast?_map, ← windowRows_forecasts]
    rfl

/-- **Without a market there is a window exactly if there is a price.** -/
theorem window_exists_iff : (∃ w, ((computeSaleWindow cfg commodityId none originLat originLng).run x.exec db).1
    = .ok (some w)) ↔ HasPrice db commodityId x.today := by
  have hnewest : x.newest cfg.arith db commodityId (fun r => (none : Option Uuid).all (r.marketId = ·)) 30 ≠ [] ↔
      HasPrice db commodityId x.today := by
    unfold Daytime.newest HasPrice
    rw [Ne, List.map_eq_nil_iff]
    constructor
    · intro h
      obtain ⟨r, hr⟩ := List.exists_mem_of_ne_nil _ h
      have hmem := List.mem_filter.1 (x.order.mem_page.1 (List.mem_of_mem_take hr))
      exact ⟨r, hmem.1, by simpa using hmem.2⟩
    · rintro ⟨r, hr, hc⟩
      exact x.order.page_ne_nil (by decide) (List.ne_nil_of_mem (List.mem_filter.2 ⟨hr, by simpa using hc⟩))
  rw [← hnewest, run_computeSaleWindow]
  unfold Daytime.window
  cases x.newest cfg.arith db commodityId (fun r => (none : Option Uuid).all (r.marketId = ·)) 30 with
  | nil => simp
  | cons latest rest => simp

end Window

/-- The prices of one market are one. -/
theorem trend_same (ar : Arith) {rows : List Forecast} (h : ConstantEach rows) {f g : Forecast} (hf : f ∈ rows)
    (hsame : f.predictedPrice = g.predictedPrice) :
    forecastTrend ar (f.predictedPrice.map ar.round) (g.predictedPrice.map ar.round) = some .flat := by
  obtain ⟨p, hp, hpos⟩ := h.1 f hf
  rw [← hsame, Option.mem_def.1 hp, Option.map_some, forecastTrend_flat]
  exact levelPrices_self ar hpos.le

/-- **The trend is flat or none, with a market or without, however the rows are ordered, exactly when there is no price or
the ends of the seven forecasts of all markets are level.** -/
theorem trend_flat_iff (cfg : ReplyConfig) (db : DB) (commodityId : Uuid) (today : Date)
    (hconst : ConstantEach (comingRows db commodityId today)) :
    (∀ (order : RowOrder) marketId originLat originLng w,
      ((computeSaleWindow cfg commodityId marketId originLat originLng).run (Daytime.mk today order).exec db).1
        = .ok (some w) → w.forecastTrend = none ∨ w.forecastTrend = some .flat) ↔
      (HasPrice db commodityId today → LevelEnds cfg.arith (comingRows db commodityId today)) := by
  have hall : (comingRows db commodityId today).filter (fun f => (none : Option Uuid).all (f.marketId = ·))
      = comingRows db commodityId today := List.filter_eq_self.2 (fun _ _ => rfl)
  constructor
  · intro h hprice f g hf hg p hp q hq
    by_cases hfg : f = g
    · subst hfg
      have htrend := trend_same cfg.arith hconst hf.1 rfl
      rw [Option.mem_def.1 hp] at htrend hq
      obtain rfl := Option.some.inj hq
      exact forecastTrend_flat.1 htrend
    · obtain ⟨order, hhead, hlast⟩ := RowOrder.exists_page_ends (by decide) hf hg hfg
      obtain ⟨w, hw⟩ : ∃ w, ((computeSaleWindow cfg commodityId none none none).run (Daytime.mk today order).exec db).1
          = .ok (some w) := window_exists_iff.2 hprice
      have htrend := window_trend hw
      unfold Daytime.sevenForecasts at htrend
      rw [hall, hhead, hlast, Option.bind_some, Option.bind_some, Option.mem_def.1 hp, Option.mem_def.1 hq] at htrend
      rcases h order none none none w hw with hnone | hflat
      · rw [htrend] at hnone
        cases hnone
      · exact forecastTrend_flat.1 (htrend.symm.trans hflat)
  · intro h order marketId originLat originLng w hw
    rw [window_trend hw]
    cases hseven : (Daytime.mk today order).sevenForecasts db commodityId marketId with
    | nil => exact Or.inl rfl
    | cons f rest =>
      right
      obtain ⟨g, hlast⟩ : ∃ g, (f :: rest).getLast? = some g := ⟨_, List.getLast?_eq_some_getLast (List.cons_ne_nil f rest)⟩
      rw [List.head?_cons, hlast, Option.bind_some, Option.bind_some]
      have hhead : ((Daytime.mk today order).sevenForecasts db commodityId marketId).head? = some f := by
        rw [hseven, List.head?_cons]
      obtain ⟨hf, hg⟩ := order.page_ends (n := 7) hhead (by rw [← hlast, ← hseven]; rfl)
      obtain ⟨hfrow, hfm⟩ := List.mem_filter.1 hf.1
      obtain ⟨hgrow, hgm⟩ := List.mem_filter.1 hg.1
      cases marketId with
      | some m =>
        have hmarket : f.marketId = g.marketId := (of_decide_eq_true hfm).trans (of_decide_eq_true hgm).symm
        exact trend_same cfg.arith hconst hfrow (hconst.2 f hfrow g hgrow hmarket)
      | none =>
        obtain ⟨p, hp, -⟩ := hconst.1 f hfrow
        obtain ⟨q, hq, -⟩ := hconst.1 g hgrow
        rw [hall] at hf hg
        rw [Option.mem_def.1 hp, Option.mem_def.1 hq]
        exact forecastTrend_flat.2 (h (window_exists_iff.1 ⟨w, hw⟩) f g hf hg p hp q hq)

/-! ## Two markets with one price each -/

/-- Onions at 2000 in Lasalgaon and at 2400 in Pimpalgaon, today and tomorrow. -/
def constantOnions : DB :=
  { (nashikPrices 2000).db with
    forecasts := ⟨[okForecast 1 20 2000, okForecast 2 20 2400, okForecast 1 21 2000, okForecast 2 21 2400],
      by simp [okForecast, Forecast.key], fun _ _ => rfl⟩ }

theorem constantOnions_constant : ConstantEach (comingRows constantOnions 1 20) := by
  unfold ConstantEach
  decide +kernel

/-- Without a market the trend is up. -/
theorem constant_trend_up : ConstantEach (comingRows constantOnions 1 20) ∧
    ((computeSaleWindow plainReplies 1 none none none).run onDay20.day.exec constantOnions).1.map
      (fun w => w.map (·.forecastTrend)) = .ok (some (some .up)) :=
  ⟨constantOnions_constant, by decide +kernel⟩

/-- Forecasts of one market at one price have level ends. -/
theorem level_trend_flat : ConstantEach (comingRows (forecastOnions 2000 2000) 1 20) ∧
    ((∀ (order : RowOrder) marketId originLat originLng w,
      ((computeSaleWindow plainReplies 1 marketId originLat originLng).run (Daytime.mk 20 order).exec
        (forecastOnions 2000 2000)).1 = .ok (some w) → w.forecastTrend = none ∨ w.forecastTrend = some .flat) ↔
      (HasPrice (forecastOnions 2000 2000) 1 20 →
        LevelEnds plainReplies.arith (comingRows (forecastOnions 2000 2000) 1 20))) := by
  have hconst : ConstantEach (comingRows (forecastOnions 2000 2000) 1 20) := by
    unfold ConstantEach
    decide +kernel
  exact ⟨hconst, trend_flat_iff plainReplies (forecastOnions 2000 2000) 1 20 hconst⟩

end Krishi
