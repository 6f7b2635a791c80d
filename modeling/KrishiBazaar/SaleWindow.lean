import KrishiBazaar.Lib.FirstSeen
import KrishiBazaar.Logistics
import KrishiBazaar.Matching
/-!
# SaleWindow — sell, hold or wait

`notifications/sale_window.py`: the recommendation for a commodity, from the newest price rows, the coming forecasts and
the storage nearby, and the message that gives it.  What it reads are floats, and so are the bounds it compares with.  The
latest price is that of the row the prices query lists first, whatever its market and source are.
-/
namespace Krishi

open Lib

/-! ## Supply -/

inductive SupplyPressure
  | high | low | unknown | normal
  deriving DecidableEq, Repr

/-- `statistics.median`, of a sample that is not empty. -/
def median (ar : Arith) (sample : List ℚ) : ℚ :=
  let sorted := sample.insertionSort (· ≤ ·)
  let half := sorted.length / 2
  if sorted.length % 2 = 1 then sorted.getD half 0 else
    ar.div (ar.add (sorted.getD (half - 1) 0) (sorted.getD half 0)) 2

def supplyPressure (ar : Arith) (arrivals : Option ℚ) (recentArrivals : List (Option ℚ)) (districtArrivals : Option ℚ) :
    SupplyPressure :=
  if arrivals.any (fun a => 1000 < a) then .high
  else if districtArrivals.any (fun a => 2500 < a) then .high
  else
    let sample := recentArrivals.filterMap id
    let mid := median ar sample
    match arrivals with
    | none => .unknown
    | some arrivals =>
      if 3 ≤ sample.length ∧ mid ≠ 0 ∧ ar.mul (ar.round 1.3) mid < arrivals then .high
      else if 3 ≤ sample.length ∧ arrivals < ar.mul (ar.round 0.6) mid then .low
      else if arrivals < 200 then .low
      else .normal

/-! ## The rows it reads -/

/-- A price row with its market. -/
structure SupplyRow where
  modalPrice : ℚ
  arrivalQty : Option ℚ
  arrivalDate : Date
  marketId : Uuid
  market : Option Market
  deriving DecidableEq, Repr

def Price.supplyRow (ar : Arith) (db : DB) (p : Price) : SupplyRow :=
  ⟨ar.round p.modalPrice, p.arrivalQty.map ar.round, p.arrivalDate, p.marketId, db.markets.get? p.marketId⟩

/-- The newest price rows of a commodity since the cutoff. -/
def newestPrices (ar : Arith) (commodityId : Uuid) (cutoff : Date) (p : Price → Bool) (limit : Nat) :
    Day (List SupplyRow) :=
  onTables (.view prices (fun r => r.commodityId = commodityId ∧ cutoff ≤ r.arrivalDate ∧ p r)
    (fun a b => b.arrivalDate ≤ a.arrivalDate) (some limit) (Price.supplyRow ar))

def Forecast.read (ar : Arith) (f : Forecast) : Forecast := { f with predictedPrice := f.predictedPrice.map ar.round }

/-- The coming forecasts of a commodity, the first seven. -/
def comingForecasts (ar : Arith) (commodityId : Uuid) (today : Date) (marketId : Option Uuid) : Day (List Forecast) :=
  onTables (.view forecasts (fun f => f.commodityId = commodityId ∧ f.status = .ok ∧ today ≤ f.forecastDate ∧
    marketId.all (f.marketId = ·)) (fun a b => a.forecastDate ≤ b.forecastDate) (some 7) (fun _ f => f.read ar))

/-- The row of the market asked for, if one is. -/
def marketRows (marketId : Option Uuid) : Day (List Market) :=
  match marketId with
  | some marketId => onTables (.select markets (fun m => m.id = marketId))
  | none => pure []

def storageOptions : Day (List LogisticsOption) :=
  onTables (.selectLimit logisticsOptions (fun s => s.kind = .storage ∧ s.isActive) 20)

/-! ## What it makes of them -/

inductive Trend
  | up | down | flat
  deriving DecidableEq, Repr

def forecastTrend (ar : Arith) (day1 last : Option ℚ) : Option Trend :=
  match day1, last with
  | some day1, some last =>
    some (if ar.mul day1 (ar.round 1.03) < last then .up
      else if last < ar.mul day1 (ar.round 0.97) then .down else .flat)
  | _, _ => none

structure NearbyMarket where
  market : Option String
  modalPrice : ℚ
  arrivalQty : Option ℚ
  deriving DecidableEq, Repr

/-- One row for each other market, four at most. -/
def nearbyMarkets (marketId : Option Uuid) (others : List SupplyRow) : List NearbyMarket :=
  ((firstSeen (·.marketId) (others.filter (fun r => some r.marketId ≠ marketId))).take 4).map
    (fun r => ⟨r.market.map (·.name), r.modalPrice, r.arrivalQty⟩)

/-- Where the produce is taken to be. -/
structure Place where
  lat : Option ℚ
  lng : Option ℚ
  district : String

def placeOf (nested : Option Market) (originLat originLng : Option ℚ) (mrows : List Market) : Place :=
  let lat := originLat.or (nested.map (·.lat))
  let lng := originLng.or (nested.map (·.lng))
  let district := ((nested.map (·.district)).filter (· ≠ "")).getD "Nashik"
  match mrows with
  | [] => ⟨lat, lng, district⟩
  | m :: _ =>
    ⟨if originLat = none then some m.lat else lat, if originLat = none then some m.lng else lng,
      if m.district ≠ "" then m.district else district⟩

structure StorageRow where
  option : LogisticsOption
  distanceKm : Option ℚ
  deriving DecidableEq, Repr

/-- Storage within 40 km or in the district, the nearest five. -/
def nearbyStorage (cfg : ReplyConfig) (place : Place) (rows : List LogisticsOption) : List StorageRow :=
  let kept := rows.filterMap (fun s =>
    match haversineKm cfg place.lat place.lng s.lat s.lng with
    | some dist => if 40 < dist ∧ s.district ≠ place.district then none else some ⟨s, some dist⟩
    | none => if s.district ≠ place.district then none else some ⟨s, none⟩)
  (kept.insertionSort (fun a b => a.distanceKm.getD 1000000000 ≤ b.distanceKm.getD 1000000000)).take 5

structure BetterMarket where
  market : Option String
  modalPrice : ℚ
  premiumRs : ℚ
  arrivalQty : Option ℚ
  deriving DecidableEq, Repr

/-- The first of the dearest markets that are at least 5 % dearer. -/
def betterMarket (ar : Arith) (latestPrice : ℚ) (nearby : List NearbyMarket) : Option BetterMarket :=
  nearby.foldl (fun best n =>
    if n.modalPrice < ar.mul latestPrice (ar.round 1.05) then best
    else if best.all (fun b => b.modalPrice < n.modalPrice) then
      some ⟨n.market, n.modalPrice, ar.round (roundTo 2 (ar.sub n.modalPrice latestPrice)), n.arrivalQty⟩
    else best) none

/-! ## The recommendation -/

inductive Recommendation
  | sell | hold | wait
  deriving DecidableEq, Repr

def Recommendation.text : Recommendation → String
  | .sell => "sell"
  | .hold => "hold"
  | .wait => "wait"

def Recommendation.action : Recommendation → String
  | .sell => "SELL_NOW"
  | .hold => "HOLD"
  | .wait => "WAIT"

def Recommendation.actionLabel : Recommendation → String
  | .sell => "Sell Now"
  | .hold => "Hold"
  | .wait => "Wait"

inductive ReasonCode
  | sellNoStorage | hold | sellArrivals | sellForecast | wait
  deriving DecidableEq, Repr

structure Advice where
  recommendation : Recommendation
  reasonCode : ReasonCode
  reason : String
  deriving DecidableEq, Repr

/-- Supply and nearby storage first; the forecast only as a tie-breaker. -/
def advise (ar : Arith) (supply : SupplyPressure) (storage : List StorageRow) (arrivals : Option ℚ) (latestPrice : ℚ)
    (day1 : Option ℚ) (trend : Option Trend) : Advice :=
  let forecastUp := day1.any (fun d => ar.mul latestPrice (ar.round 1.05) ≤ d) ∧ trend ≠ some .down
  let forecastDown := day1.any (fun d => d ≤ ar.mul latestPrice (ar.round 0.97)) ∨ (day1 ≠ none ∧ trend = some .down)
  let storageAvailable := storage ≠ []
  let names := ", ".intercalate ((storage.take 2).map (fun s => if s.option.name ≠ "" then s.option.name else "godown"))
  let forecast := "forecast ₹" ++ day1.elim "" fixed0
  let today := "today's ₹" ++ fixed0 latestPrice
  if supply = .high ∧ ¬ storageAvailable then
    ⟨.sell, .sellNoStorage, match arrivals with
      | some arrivals => "Sell now: arrivals are high (" ++ fixed0 arrivals ++ " qtl) and no nearby godown "
          ++ "is listed. Holding at the farm gate risks a further fall."
      | none => "Sell now: market supply is high and no nearby storage is listed."⟩
  else if supply = .high ∧ storageAvailable ∧ forecastUp then
    ⟨.hold, .hold, "Hold: arrivals are high but " ++ names ++ " is nearby and the " ++ forecast ++ " is above " ++ today
      ++ "."⟩
  else if supply = .high then
    ⟨.sell, .sellArrivals, match arrivals with
      | some arrivals => "Sell now: arrivals are high (" ++ fixed0 arrivals ++ " qtl) which typically "
          ++ "pressures mandi prices."
      | none => "Sell now: current market supply is high."⟩
  else if storageAvailable ∧ forecastUp then
    ⟨.hold, .hold, "Hold: " ++ forecast ++ " is above " ++ today ++ " and nearby storage is listed (" ++ names ++ ")."⟩
  else if forecastDown then
    ⟨.sell, .sellForecast, "Sell now: " ++ forecast ++ " is at or below " ++ today ++ "; waiting reduces realisation."⟩
  else if ¬ storageAvailable ∧ forecastUp then
    ⟨.sell, .sellNoStorage, "Sell now: forecast is higher but no nearby storage is listed; "
      ++ "do not hold at the farm gate."⟩
  else ⟨.wait, .wait, "Wait: supply is not elevated and the forecast is near today's price."⟩

/-- A better market is named in the reason to sell. -/
def Advice.withBetter (a : Advice) (better : Option BetterMarket) : Advice :=
  match better, a.recommendation with
  | some ⟨some market, modalPrice, premiumRs, _⟩, .sell =>
    if market = "" then a
    else { a with reason := a.reason ++ " Nearby " ++ market ++ " is ₹" ++ fixed0 modalPrice ++ " (₹" ++ fixed0 premiumRs
      ++ " above here)." }
  | _, _ => a

structure SaleWindow where
  commodityId : Uuid
  marketId : Option Uuid
  recommendation : Recommendation
  reason : String
  reasonCode : ReasonCode
  latestPrice : ℚ
  forecastDay1 : Option ℚ
  forecastTrend : Option Trend
  arrivalsQty : Option ℚ
  districtArrivalsQty : Option ℚ
  supplyPressure : SupplyPressure
  nearby : List NearbyMarket
  marketName : Option String
  storage : List StorageRow
  storageAvailable : Bool
  district : String
  betterMarket : Option BetterMarket
  lang : Lang
  deriving DecidableEq

def SaleWindow.action (w : SaleWindow) : String := w.recommendation.action

def SaleWindow.actionLabel (w : SaleWindow) : String := w.recommendation.actionLabel

/-- The rows a window is made of, beside the price rows. -/
structure WindowRows where
  mrows : List Market
  forecasts : List Forecast
  others : List SupplyRow
  storage : List LogisticsOption

/-- What the window says, of the price rows with the latest first. -/
def windowOf (cfg : ReplyConfig) (commodityId : Uuid) (marketId : Option Uuid) (originLat originLng : Option ℚ)
    (latest : SupplyRow) (rest : List SupplyRow) (rows : WindowRows) : SaleWindow :=
  let prices := latest :: rest
  let place := placeOf latest.market originLat originLng rows.mrows
  let marketArrivals := (firstSeen (·.marketId) prices).filterMap (·.arrivalQty)
  let districtArrivals := if marketArrivals = [] then none else some (cfg.arith.total marketArrivals)
  let supply := supplyPressure cfg.arith latest.arrivalQty (prices.map (·.arrivalQty)) districtArrivals
  let day1 := rows.forecasts.head?.bind (·.predictedPrice)
  let trend := forecastTrend cfg.arith day1 (rows.forecasts.getLast?.bind (·.predictedPrice))
  let nearby := nearbyMarkets marketId rows.others
  let storage := nearbyStorage cfg place rows.storage
  let better := betterMarket cfg.arith latest.modalPrice nearby
  let advice := (advise cfg.arith supply storage latest.arrivalQty latest.modalPrice day1 trend).withBetter better
  { commodityId := commodityId, marketId := marketId, recommendation := advice.recommendation, reason := advice.reason,
    reasonCode := advice.reasonCode, latestPrice := latest.modalPrice, forecastDay1 := day1, forecastTrend := trend,
    arrivalsQty := latest.arrivalQty, districtArrivalsQty := districtArrivals, supplyPressure := supply,
    nearby := nearby, marketName := latest.market.map (·.name), storage := storage, storageAvailable := storage ≠ [],
    district := place.district, betterMarket := better, lang := .en }

/-- The window, or nothing when there is no recent price. -/
def computeSaleWindow (cfg : ReplyConfig) (commodityId : Uuid) (marketId : Option Uuid) (originLat originLng : Option ℚ) :
    Day (Option SaleWindow) := do
  let today ← .perform .today
  let cutoff := today - historyDays
  match ← newestPrices cfg.arith commodityId cutoff (fun r => marketId.all (r.marketId = ·)) 30 with
  | [] => pure none
  | latest :: rest => do
    let mrows ← marketRows marketId
    let forecasts ← comingForecasts cfg.arith commodityId today marketId
    let others ← newestPrices cfg.arith commodityId cutoff (fun _ => true) 20
    let storage ← storageOptions
    pure (some (windowOf cfg commodityId marketId originLat originLng latest rest ⟨mrows, forecasts, others, storage⟩))

/-! ## The message -/

/-- `text.split()[0]`. -/
def firstWord (cfg : ReplyConfig) (text : String) : Except Fault String :=
  match (text.toList.dropWhile cfg.isSpace).takeWhile (fun c => ¬ cfg.isSpace c) with
  | [] => .error .indexError
  | word => .ok (String.ofList word)

/-- `msg.rstrip(".")`. -/
def stripDots (msg : String) : String := String.ofList (msg.toList.reverse.dropWhile (· = '.')).reverse

def saleVerb (lang action : String) : String :=
  if lang = "mr" then if action = "sell" then "आज विका" else if action = "hold" then "थोडे थांबा" else "थांबा"
  else if lang = "hi" then if action = "sell" then "आज बेचें" else if action = "hold" then "थोड़ा रुकें" else "रुकें"
  else if action = "sell" then "SELL NOW" else if action = "hold" then "HOLD" else "WAIT"

def formatSaleSms (cfg : ReplyConfig) (lang name : String) (price : Option ℚ) (market : Option String)
    (recommendation : String) (buyer : Option String) : Except Fault String := do
  let action := cfg.lower (if recommendation = "" then "wait" else recommendation)
  let action := if action = "sell_now" ∨ action = "sell-now" then "sell" else action
  let p := toString ((price.map pyRound).getD 0)
  let mkt ← match market.filter (· ≠ "") with
    | some market => firstWord cfg market
    | none => pure ""
  let verb := saleVerb lang action
  let msg :=
    if lang = "mr" ∨ lang = "hi" ∨ mkt = "" then "KB: " ++ name ++ " ₹" ++ p ++ ". " ++ verb ++ "."
    else "KB: " ++ name ++ " ₹" ++ p ++ " " ++ mkt ++ ". " ++ verb ++ "."
  match buyer.filter (· ≠ "") with
  | none => pure msg
  | some buyer => do
    let short := String.ofList ((← firstWord cfg buyer).toList.take 12)
    let candidate := stripDots msg ++ ". " ++ short ++ "."
    pure (if short ≠ "" ∧ candidate.length ≤ 70 then candidate else msg)

/-! ## On one day's tables -/

/-- The price rows the window is made of. -/
def Daytime.newest (x : Daytime) (ar : Arith) (db : DB) (commodityId : Uuid) (p : Price → Bool) (limit : Nat) :
    List SupplyRow :=
  (x.order.page (fun a b => b.arrivalDate ≤ a.arrivalDate) (some limit) (db.prices.rows.filter (fun r =>
    r.commodityId = commodityId ∧ x.today - historyDays ≤ r.arrivalDate ∧ p r))).map (Price.supplyRow ar db)

/-- The other rows. -/
def Daytime.windowRows (x : Daytime) (ar : Arith) (db : DB) (commodityId : Uuid) (marketId : Option Uuid) : WindowRows where
  mrows := marketId.elim [] (fun marketId => x.order.order (db.markets.rows.filter (fun m => m.id = marketId)))
  forecasts := (x.order.page (fun a b => a.forecastDate ≤ b.forecastDate) (some 7) (db.forecasts.rows.filter (fun f =>
    f.commodityId = commodityId ∧ f.status = .ok ∧ x.today ≤ f.forecastDate ∧ marketId.all (f.marketId = ·)))).map
      (Forecast.read ar)
  others := x.newest ar db commodityId (fun _ => true) 20
  storage := (x.order.order (db.logisticsOptions.rows.filter (fun s => s.kind = .storage ∧ s.isActive))).take 20

/-- The window that the tables give. -/
def Daytime.window (x : Daytime) (cfg : ReplyConfig) (db : DB) (commodityId : Uuid) (marketId : Option Uuid)
    (originLat originLng : Option ℚ) : Option SaleWindow :=
  match x.newest cfg.arith db commodityId (fun r => marketId.all (r.marketId = ·)) 30 with
  | [] => none
  | latest :: rest => some (windowOf cfg commodityId marketId originLat originLng latest rest
      (x.windowRows cfg.arith db commodityId marketId))

section Run

variable {x : Daytime} {cfg : ReplyConfig} {db : DB} {commodityId : Uuid} {marketId : Option Uuid}
  {originLat originLng : Option ℚ}

/-- **The sale window returns what the tables give, and leaves them.** -/
theorem run_computeSaleWindow : (computeSaleWindow cfg commodityId marketId originLat originLng).run x.exec db
    = (.ok (x.window cfg db commodityId marketId originLat originLng), db) := by
  have hstart : (computeSaleWindow cfg commodityId marketId originLat originLng).run x.exec db
      = Prog.run x.exec (match x.newest cfg.arith db commodityId (fun r => marketId.all (r.marketId = ·)) 30 with
        | [] => pure none
        | latest :: rest => do
          let mrows ← marketRows marketId
          let forecasts ← comingForecasts cfg.arith commodityId x.today marketId
          let others ← newestPrices cfg.arith commodityId (x.today - historyDays) (fun _ => true) 20
          let storage ← storageOptions
          pure (some (windowOf cfg commodityId marketId originLat originLng latest rest
            ⟨mrows, forecasts, others, storage⟩))) db := rfl
  rw [hstart]
  unfold Daytime.window
  cases x.newest cfg.arith db commodityId (fun r => marketId.all (r.marketId = ·)) 30 with
  | nil => rfl
  | cons latest rest => cases marketId <;> rfl

/-- **Its latest price is that of the row listed first.** -/
theorem window_latestPrice {w : SaleWindow} (h : x.window cfg db commodityId marketId originLat originLng = some w) :
    ∃ latest rest, x.newest cfg.arith db commodityId (fun r => marketId.all (r.marketId = ·)) 30 = latest :: rest ∧
      w.latestPrice = latest.modalPrice := by
  unfold Daytime.window at h
  split at h
  · cases h
  · rename_i latest rest hrows
    obtain rfl := Option.some.inj h
    exact ⟨latest, rest, hrows, rfl⟩

end Run

end Krishi
