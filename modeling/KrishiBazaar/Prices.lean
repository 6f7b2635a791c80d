import KrishiBazaar.Alerts
/-!
# Prices — the price an SMS quotes

`latest_price_for_user` of `notifications/prices.py`: the nearest market within 50 km if there is one, else the mean over
the active markets of the user's district.  It reads the tables and the local date and writes nothing, so a run on one
day's tables is a value (`run_latestPriceForUser`).
-/
namespace Krishi

open Lib

/-! ## Programs of a day -/

/-- What a call or a Python expression can raise. -/
inductive Fault
  | api (e : DbError)
  | indexError
  | attributeError
  deriving DecidableEq, Repr

inductive DayOp : Type → Type 1
  | db {ρ : Type} (op : Op DB ρ) : DayOp ρ
  | today : DayOp Date

abbrev Day := Prog DayOp Fault

def onTables {ρ : Type} (op : Op DB ρ) : Day ρ := .perform (.db op)

/-- One day's date, and the order the rows come in. -/
structure Daytime where
  today : Date
  order : RowOrder

def Daytime.exec (x : Daytime) : {ρ : Type} → DayOp ρ → DB → Except Fault ρ × DB
  | _, .db op, db => Lib.exec x.order .api op db
  | _, .today, db => (.ok x.today, db)

/-! ## The resolution -/

/-- A row of `lookup_profile_by_phone`, or the empty dict of an unknown number. -/
structure ProfileRow where
  id : Option Uuid
  preferredLanguage : Option Lang
  lat : Option ℚ
  lng : Option ℚ
  district : Option String
  name : Option String
  deriving DecidableEq, Repr

def UserProfile.row (u : UserProfile) : ProfileRow :=
  ⟨some u.id, some u.preferredLanguage, u.lat, u.lng, some u.district, u.name⟩

/-- `user.get("district", "Nashik")`. -/
def ProfileRow.home (user : ProfileRow) : String := user.district.getD "Nashik"

/-- The columns of a price row that a reply reads, its market's name embedded. -/
structure HistoryRow where
  row : SeriesRow
  marketName : Option String
  deriving DecidableEq, Repr

def Price.marketRow (ar : Arith) (p : Price) : SeriesRow := { p.seriesRow.read ar with marketId := some p.marketId }

def Price.historyRow (ar : Arith) (db : DB) (p : Price) : HistoryRow :=
  ⟨p.marketRow ar, (db.markets.get? p.marketId).map (·.name)⟩

/-- The prices of a commodity since the cutoff, oldest first. -/
def priceHistory (ar : Arith) (p : Price → Bool) : Day (List HistoryRow) :=
  onTables (.view prices p (fun a b => a.arrivalDate ≤ b.arrivalDate) none (Price.historyRow ar))

/-- The nearest market and its name, if it is within 50 km. -/
def reach (res : List (Uuid × String × ℚ)) : Option (Uuid × String) :=
  match res with
  | (marketId, name, distanceKm) :: _ => if distanceKm ≤ 50 then some (marketId, name) else none
  | [] => none

/-- A failing call is logged and passed over. -/
def nearestWithin (cfg : CheckConfig) (user : ProfileRow) : Day (Option (Uuid × String)) :=
  match user.lat, user.lng with
  | some lat, some lng =>
    tryCatch (do
      let res ← onTables (nearestMarket cfg lat lng)
      pure (reach res)) (fun _ => pure none)
  | _, _ => pure none

/-- `market_name or history[-1]["markets"]["name"]`. -/
def nameNear (marketName : String) (history : List HistoryRow) : Option String :=
  if marketName ≠ "" then some marketName else history.getLast?.bind (·.marketName)

/-- The one market of the history, or the district. -/
def nameAround (district : String) (history : List HistoryRow) : Option String :=
  match (history.filterMap (fun r => r.marketName.filter (· ≠ ""))).dedup with
  | [name] => some name
  | _ => some (district ++ " (avg)")

/-- The last price of a series, with the name, or nothing. -/
def lastPrice (series : DailySeries) (name : Option String) : Option ℚ × Option String :=
  match series.getLast? with
  | some (_, price) => (some price, name)
  | none => (none, none)

def latestPriceForUser (cfg : CheckConfig) (commodityId : Uuid) (user : ProfileRow) :
    Day (Option ℚ × Option String) := do
  let today ← .perform .today
  let cutoff := today - historyDays
  match ← nearestWithin cfg user with
  | some (marketId, marketName) =>
    let history ← priceHistory cfg.arith (fun p =>
      p.commodityId = commodityId ∧ cutoff ≤ p.arrivalDate ∧ p.marketId = marketId)
    pure (lastPrice (buildDailySeries (history.map (·.row))) (nameNear marketName history))
  | none => do
    let marketRows ← onTables (.select markets (fun m => m.district = user.home ∧ m.isActive))
    if marketRows = [] then pure (none, none) else do
      let history ← priceHistory cfg.arith (fun p =>
        p.commodityId = commodityId ∧ cutoff ≤ p.arrivalDate ∧ p.marketId ∈ marketRows.map (·.id))
      pure (lastPrice (buildDistrictDailySeries cfg.arith (history.map (·.row))) (nameAround user.home history))

/-! ## On one day's tables -/

/-- The market taken for the near one: the first active market in the order of the rows. -/
def Daytime.near (x : Daytime) (db : DB) (user : ProfileRow) : Option (Uuid × String) :=
  if user.lat.isSome ∧ user.lng.isSome then (db.firstActive x.order).map (fun m => (m.id, m.name)) else none

def Daytime.history (x : Daytime) (ar : Arith) (db : DB) (commodityId : Uuid) (p : Price → Prop) [DecidablePred p] :
    List HistoryRow :=
  (x.order.page (fun a b => a.arrivalDate ≤ b.arrivalDate) none (db.prices.rows.filter (fun r =>
    r.commodityId = commodityId ∧ x.today - historyDays ≤ r.arrivalDate ∧ p r))).map (Price.historyRow ar db)

/-- The active markets of the user's district. -/
def Daytime.district (x : Daytime) (db : DB) (user : ProfileRow) : List Market :=
  x.order.order (db.markets.rows.filter (fun m => m.district = user.home ∧ m.isActive))

/-- The price and the name that the tables give for a user. -/
def Daytime.price (x : Daytime) (cfg : CheckConfig) (db : DB) (commodityId : Uuid) (user : ProfileRow) :
    Option ℚ × Option String :=
  match x.near db user with
  | some (marketId, marketName) =>
    let history := x.history cfg.arith db commodityId (fun r => r.marketId = marketId)
    lastPrice (buildDailySeries (history.map (·.row))) (nameNear marketName history)
  | none =>
    let history := x.history cfg.arith db commodityId (fun r => r.marketId ∈ (x.district db user).map (·.id))
    if x.district db user = [] then (none, none)
    else lastPrice (buildDistrictDailySeries cfg.arith (history.map (·.row))) (nameAround user.home history)

section Run

variable {x : Daytime} {cfg : CheckConfig} {db : DB} {user : ProfileRow}

theorem run_nearestWithin : (nearestWithin cfg user).run x.exec db = (.ok (x.near db user), db) := by
  have hrows := nearestRows_eq cfg x.order db
  unfold nearestWithin Daytime.near
  cases user.lat with
  | none => cases user.lng <;> rfl
  | some lat =>
    cases user.lng with
    | none => rfl
    | some lng =>
      show (Except.ok (reach (nearestRows cfg x.order db)), db) = _
      rw [hrows]
      cases db.firstActive x.order <;> rfl

/-- **A resolution returns what the tables give, and leaves them.** -/
theorem run_latestPriceForUser (commodityId : Uuid) :
    (latestPriceForUser cfg commodityId user).run x.exec db = (.ok (x.price cfg db commodityId user), db) := by
  unfold latestPriceForUser Daytime.price
  rw [Prog.run_bind, Prog.run_perform]
  show Prog.run x.exec (nearestWithin cfg user >>= _) db = _
  rw [Prog.run_bind, run_nearestWithin, Prog.onOk_ok]
  cases x.near db user with
  | some m => rfl
  | none =>
    show Prog.run x.exec (onTables _ >>= _) db = _
    rw [Prog.run_bind, onTables, Prog.run_perform]
    show Prog.run x.exec (if x.district db user = [] then _ else _) db = _
    rw [Prog.run_ite]
    by_cases h : x.district db user = []
    · rw [if_pos h]
      simp only [h, if_true]
      rfl
    · rw [if_neg h]
      simp only [h, if_false]
      rfl

end Run

end Krishi
