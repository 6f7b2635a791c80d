import KrishiBazaar.Alerts
import KrishiBazaar.Lib.FirstSeen
/-!
# Forecasting — the engine that writes forecasts and the endpoints that read them

`forecasting/engine.py` in exact arithmetic, with the square roots as parameters, and `app/routers/forecasts.py`.  A run
pages through the recent prices for the pairs of market and commodity, and for each pair fits its series and upserts one
row that says there is too little data, or seven predictions from the day after the last observation or today, whichever
is later.  Each row is stamped with the clock as it is made.

A failing call ends the pair it was made for, and nothing else.  The loop over the pages takes fuel, one for each page.
The duration in a run's summary is left out.
-/
namespace Krishi

open Lib

/-! ## The models -/

structure ForecastConfig where
  /-- The square root that `pstdev` takes. -/
  sqrt : ℚ → ℚ
  /-- `(i + 1) ** 0.5`. -/
  sqrtDays : Nat → ℚ

def minObservations : Nat := 10
def blendThreshold : Nat := 15
def highConfidenceThreshold : Nat := 20
def maWindow : Nat := 7
def olsFitWindow : Nat := 30
def horizonDays : Nat := 7
def confidenceZ : ℚ := 196 / 100

/-- The last `n` prices, or all if there are fewer. -/
def lastPrices (n : Nat) (prices : List ℚ) : List ℚ := prices.drop (prices.length - n)

def mean (vals : List ℚ) : ℚ := vals.sum / vals.length

def pstdev (cfg : ForecastConfig) (vals : List ℚ) : ℚ :=
  cfg.sqrt ((vals.map (fun v => (v - mean vals) ^ 2)).sum / vals.length)

structure Prediction where
  predicted : ℚ
  lower : ℚ
  upper : ℚ
  deriving DecidableEq, Repr

structure MovingAverageModel where
  level : ℚ
  sigma : ℚ

def MovingAverageModel.fit (cfg : ForecastConfig) (prices : List ℚ) : MovingAverageModel :=
  let window := lastPrices maWindow prices
  ⟨mean window, if 1 < window.length then pstdev cfg window else 0⟩

def MovingAverageModel.predict (m : MovingAverageModel) : List Prediction :=
  let margin := confidenceZ * m.sigma
  List.replicate horizonDays
    ⟨roundTo 2 m.level, roundTo 2 (max 0 (m.level - margin)), roundTo 2 (m.level + margin)⟩

structure LinearRegressionModel where
  slope : ℚ
  intercept : ℚ
  sigma : ℚ
  n : Nat

/-- Ordinary least squares on the day's index. -/
def LinearRegressionModel.fit (cfg : ForecastConfig) (prices : List ℚ) : LinearRegressionModel :=
  let window := lastPrices olsFitWindow prices
  let n : ℚ := window.length
  let xs : List ℚ := (List.range window.length).map (fun x => (x : ℚ))
  let sumX := xs.sum
  let sumY := window.sum
  let sumXY := (xs.zipWith (· * ·) window).sum
  let sumX2 := (xs.map (fun x => x * x)).sum
  let denom := n * sumX2 - sumX ^ 2
  let slope := if denom = 0 then 0 else (n * sumXY - sumX * sumY) / denom
  let intercept := if denom = 0 then if n = 0 then 0 else sumY / n else (sumY - slope * sumX) / n
  let residuals := window.zipWith (· - ·) (xs.map (fun x => intercept + slope * x))
  ⟨slope, intercept, if 1 < residuals.length then pstdev cfg residuals else 0, window.length⟩

def LinearRegressionModel.predict (m : LinearRegressionModel) : List Prediction :=
  let margin := confidenceZ * m.sigma
  (List.range horizonDays).map (fun i =>
    let p := m.intercept + m.slope * (m.n + i : Nat)
    ⟨roundTo 2 p, roundTo 2 (max 0 (p - margin)), roundTo 2 (p + margin)⟩)

def blendPredictions (ma : MovingAverageModel) (lr : LinearRegressionModel) : List Prediction :=
  let margin := confidenceZ * max ma.sigma lr.sigma
  (List.range horizonDays).map (fun i =>
    let p := roundTo 2 (4 / 10 * ma.level + 6 / 10 * (lr.intercept + lr.slope * (lr.n + i : Nat)))
    ⟨p, roundTo 2 (max 0 (p - margin)), roundTo 2 (p + margin)⟩)

/-! ## Forecast rows -/

/-- A reversed band clamps nothing. -/
def clamp (value lo hi : ℚ) : ℚ := if hi < lo then roundTo 2 value else roundTo 2 (max lo (min hi value))

/-- The band of the `i`-th prediction, widened with the horizon and clamped. -/
def bounded (cfg : ForecastConfig) (sanity : Option (ℚ × ℚ)) (i : Nat) (p : Prediction) : Prediction :=
  let margin := (p.upper - p.predicted) * cfg.sqrtDays i
  match sanity with
  | none => ⟨p.predicted, roundTo 2 (max 0 (p.predicted - margin)), roundTo 2 (p.predicted + margin)⟩
  | some (lo, hi) =>
    let predicted := clamp p.predicted lo hi
    let lower := min (clamp (max 0 (predicted - margin)) lo hi) predicted
    let upper := max (clamp (predicted + margin) lo hi) predicted
    ⟨predicted, roundTo 2 (max 0 lower), roundTo 2 upper⟩

/-- The tier of a series: what its days predict, by which method, how confidently. -/
def tier (cfg : ForecastConfig) (prices : List ℚ) : List Prediction × String × Confidence :=
  if blendThreshold ≤ prices.length then
    (blendPredictions (.fit cfg prices) (.fit cfg prices), "blend",
      if highConfidenceThreshold ≤ prices.length then .high else .medium)
  else ((MovingAverageModel.fit cfg prices).predict, "moving_avg", .medium)

def insufficientRow (marketId commodityId : Uuid) (horizonStart : Date) (n : Nat) (now : Time) : Forecast :=
  { marketId := marketId, commodityId := commodityId, forecastDate := horizonStart + 1, predictedPrice := none,
    lowerBound := none, upperBound := none, confidence := none, method := "none", observations := some n,
    status := .insufficientData, generatedAt := now }

def predictedRow (marketId commodityId : Uuid) (horizonStart : Date) (n : Nat) (method : String)
    (confidence : Confidence) (i : Nat) (p : Prediction) (now : Time) : Forecast :=
  { marketId := marketId, commodityId := commodityId, forecastDate := horizonStart + (i + 1),
    predictedPrice := some p.predicted, lowerBound := some p.lower, upperBound := some p.upper,
    confidence := some confidence, method := method, observations := some n, status := .ok, generatedAt := now }

/-- The rows of a pair, each but for its stamp. -/
def forecastDrafts (cfg : ForecastConfig) (marketId commodityId : Uuid) (series : DailySeries)
    (sanity : Option (ℚ × ℚ)) (asOf : Date) : List (Time → Forecast) :=
  match series.getLast? with
  | none => []
  | some (lastDate, _) =>
    let horizonStart := max lastDate asOf
    if series.length < minObservations then [insufficientRow marketId commodityId horizonStart series.length]
    else
      let (preds, method, confidence) := tier cfg (series.map (·.2))
      preds.mapIdx (fun i p => predictedRow marketId commodityId horizonStart series.length method confidence i
        (bounded cfg sanity i p))

/-! ## The calls -/

abbrev Pair := Uuid × Uuid

inductive ForecastError
  | api (e : DbError)
  | outOfFuel
  deriving DecidableEq, Repr

inductive ForecastOp : Type → Type 1
  | db {ρ : Type} (op : Op DB ρ) : ForecastOp ρ
  /-- `table("forecasts").upsert(rows, on_conflict="market_id, commodity_id, forecast_date")`. -/
  | upsert (rows : List Forecast) : ForecastOp Unit
  | today : ForecastOp Date
  | utcNow : ForecastOp Time
  /-- `list(pairs)`, of a set. -/
  | listOf (pairs : List Pair) : ForecastOp (List Pair)

abbrev Forecasting := Prog ForecastOp ForecastError

def onStore {ρ : Type} (op : Op DB ρ) : Forecasting ρ := .perform (.db op)

/-- Each row is stamped when it is made. -/
def stampRows : List (Time → Forecast) → Forecasting (List Forecast)
  | [] => pure []
  | draft :: drafts => do
    let now ← .perform .utcNow
    let rows ← stampRows drafts
    pure (draft now :: rows)

def makeForecastRows (cfg : ForecastConfig) (marketId commodityId : Uuid) (series : DailySeries)
    (sanity : Option (ℚ × ℚ)) (asOf : Option Date) : Forecasting (List Forecast) := do
  let asOf ← match asOf with
    | some asOf => pure asOf
    | none => .perform .today
  stampRows (forecastDrafts cfg marketId commodityId series sanity asOf)

/-! ## The engine -/

def pageSize : Nat := 500

def forecastHistoryDays : Int := 60

def loadSanityBands : Forecasting (Uuid → Option (ℚ × ℚ)) := do
  let rows ← onStore (.select commodities (fun _ => true))
  pure (fun commodityId => (rows.find? (fun c => c.id = commodityId)).map (fun c => (c.sanityMin, c.sanityMax)))

/-- The pages from an offset on: `.range(offset, offset + PAGE_SIZE - 1)`, each page in the order of its own request. -/
def pairPages (cutoff : Date) : Nat → Nat → List Pair → Forecasting (List Pair)
  | 0, _, _ => throw .outOfFuel
  | fuel + 1, offset, pairs => do
    let rows ← onStore (.select prices (fun p => cutoff ≤ p.arrivalDate))
    let page := (rows.drop offset).take pageSize
    let pairs := pairs ++ page.map (fun p => (p.marketId, p.commodityId))
    if page.length < pageSize then pure pairs else pairPages cutoff fuel (offset + pageSize) pairs

def distinctPairs (fuel : Nat) : Forecasting (List Pair) := do
  let today ← .perform .today
  let pairs ← pairPages (today - forecastHistoryDays) fuel 0 []
  .perform (.listOf pairs.dedup)

def fetchHistory (pair : Pair) : Forecasting (List SeriesRow) := do
  let today ← .perform .today
  onStore (.view prices (fun p => p.marketId = pair.1 ∧ p.commodityId = pair.2 ∧ today - forecastHistoryDays ≤ p.arrivalDate)
    (fun a b => a.arrivalDate ≤ b.arrivalDate) none (fun _ p => p.seriesRow))

structure RunSummary where
  pairsOk : Nat
  pairsInsufficient : Nat
  pairsSkipped : Nat
  rowsWritten : Nat
  deriving DecidableEq, Repr

/-- What is counted of a pair's rows. -/
def RunSummary.count (s : RunSummary) (rows : List Forecast) : RunSummary :=
  let s := { s with rowsWritten := s.rowsWritten + rows.length }
  if rows.head?.any (fun r => r.status = .insufficientData) then
    { s with pairsInsufficient := s.pairsInsufficient + 1 }
  else { s with pairsOk := s.pairsOk + 1 }

def RunSummary.skip (s : RunSummary) : RunSummary := { s with pairsSkipped := s.pairsSkipped + 1 }

/-- One pair, the failure of a call counted as a skip. -/
def forecastPair (cfg : ForecastConfig) (bands : Uuid → Option (ℚ × ℚ)) (s : RunSummary) (pair : Pair) :
    Forecasting RunSummary :=
  tryCatch (do
    let history ← fetchHistory pair
    let rows ← makeForecastRows cfg pair.1 pair.2 (buildDailySeries history) (bands pair.2) none
    if rows = [] then pure s.skip else do
      let _ ← .perform (.upsert rows)
      pure (s.count rows)) (fun _ => pure s.skip)

/-- `ForecastEngine.run`. -/
def ForecastEngine.run (cfg : ForecastConfig) (fuel : Nat) : Forecasting RunSummary := do
  let bands ← loadSanityBands
  let pairs ← distinctPairs fuel
  pairs.foldlM (forecastPair cfg bands) ⟨0, 0, 0, 0⟩

/-! ## The endpoints -/

/-- A forecast with the names that the endpoints add. -/
structure ForecastView where
  forecast : Forecast
  marketName : Option String
  district : Option String
  commodityNameEn : Option String
  commodityNameMr : Option String
  commodityNameHi : Option String
  deriving DecidableEq, Repr

def flattenForecast (db : DB) (f : Forecast) : ForecastView :=
  let market := db.markets.get? f.marketId
  let commodity := db.commodities.get? f.commodityId
  ⟨f, market.map (·.name), market.map (·.district), commodity.map (·.nameEn), commodity.map (·.nameMr),
    commodity.map (·.nameHi)⟩

/-- The rows of status `ok` from today to the day `days - 1` later. -/
def getForecasts (pair : Pair) (days : Nat) : Forecasting (List ForecastView) := do
  let today ← .perform .today
  onStore (.view forecasts (fun f => f.marketId = pair.1 ∧ f.commodityId = pair.2 ∧ f.status = .ok ∧
      today ≤ f.forecastDate ∧ f.forecastDate ≤ today + (days - 1))
    (fun a b => a.forecastDate ≤ b.forecastDate) none flattenForecast)

def Forecast.pair (f : Forecast) : Pair := (f.marketId, f.commodityId)

/-- The first row of each pair, by the newest stamp and then the earliest date.  The texts of stamps and dates order as
they do. -/
def summarizeForecasts (rows : List ForecastView) : List ForecastView :=
  let rows := rows.insertionSort (fun a b => a.forecast.forecastDate ≤ b.forecast.forecastDate)
  let rows := rows.insertionSort (fun a b => b.forecast.generatedAt ≤ a.forecast.generatedAt)
  firstSeen (fun v => v.forecast.pair) rows

def getForecastsSummary : Forecasting (List ForecastView) := do
  let now ← .perform .utcNow
  let rows ← onStore (.view forecasts (fun f => (f.status = .ok ∨ f.status = .insufficientData) ∧
    now - hours 48 ≤ f.generatedAt) (fun _ _ => true) (some 2000) flattenForecast)
  pure (summarizeForecasts rows)

/-! ## A run of calls -/

/-- The database, the number of calls so far, and the forecasts upserted so far. -/
structure Board where
  db : DB
  calls : Nat
  written : List Forecast

/-- What a run meets: the local date, and by the number of the call the clock, the order of the rows, the order of a
set, and whether the call fails. -/
structure Conditions where
  today : Date
  clock : Nat → Time
  order : Nat → RowOrder
  fails : Nat → Bool

def Conditions.exec (x : Conditions) : {ρ : Type} → ForecastOp ρ → Board → Except ForecastError ρ × Board
  | _, .db op, b =>
    if x.fails b.calls then (.error (.api .unavailable), { b with calls := b.calls + 1 })
    else ((Lib.exec (x.order b.calls) .api op b.db).1,
      { b with db := (Lib.exec (x.order b.calls) (.api : DbError → ForecastError) op b.db).2, calls := b.calls + 1 })
  | _, .upsert rows, b =>
    if x.fails b.calls then (.error (.api .unavailable), { b with calls := b.calls + 1 })
    else
      match forecasts.upsert? b.db rows with
      | .ok db => (.ok (), ⟨db, b.calls + 1, b.written ++ rows⟩)
      | .error e => (.error (.api e), { b with calls := b.calls + 1 })
  | _, .today, b => (.ok x.today, b)
  | _, .utcNow, b => (.ok (x.clock b.calls), { b with calls := b.calls + 1 })
  | _, .listOf pairs, b => (.ok ((x.order b.calls).order pairs), { b with calls := b.calls + 1 })

theorem Conditions.exec_db (x : Conditions) {ρ : Type} (op : Op DB ρ) (b : Board) : x.exec (.db op) b =
    if x.fails b.calls then (.error (.api .unavailable), { b with calls := b.calls + 1 })
    else ((Lib.exec (x.order b.calls) .api op b.db).1,
      { b with db := (Lib.exec (x.order b.calls) (.api : DbError → ForecastError) op b.db).2, calls := b.calls + 1 }) := rfl

theorem Conditions.exec_upsert (x : Conditions) (rows : List Forecast) (b : Board) : x.exec (.upsert rows) b =
    if x.fails b.calls then (.error (.api .unavailable), { b with calls := b.calls + 1 })
    else match forecasts.upsert? b.db rows with
      | .ok db => (.ok (), ⟨db, b.calls + 1, b.written ++ rows⟩)
      | .error e => (.error (.api e), { b with calls := b.calls + 1 }) := rfl

end Krishi
