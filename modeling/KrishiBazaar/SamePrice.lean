import KrishiBazaar.Prices
import KrishiBazaar.Crossing
/-!
# SamePrice — the price of an alert and the price of a reply

`_check_crossing` and `latest_price_for_user` resolve the same market and read the same rows, but the alert's query names
no `market_id`.  So a district's rows come to it as if from one market: its price is that of the one row chosen among all
of them, where a reply has the mean of the markets' chosen rows, a float.  The two are the same exactly when that mean is the
row's price, as it is where the user has a location and both see the rows in one order (`quoted_price_iff`).
-/
namespace Krishi

open Lib

/-! ## Rows without their market -/

def SeriesRow.anywhere (r : SeriesRow) : SeriesRow := { r with marketId := none }

section Anywhere

variable {rows rows' : List SeriesRow}

theorem candidates_anywhere : candidates (rows.map SeriesRow.anywhere) = (candidates rows).map SeriesRow.anywhere := by
  unfold candidates
  rw [List.map_map, List.filter_map]
  rfl

/-- The choice of a row does not read its market. -/
theorem chosen_anywhere : chosen (rows.map SeriesRow.anywhere) = (chosen rows).map SeriesRow.anywhere := by
  unfold chosen
  rw [candidates_anywhere, List.find?_map, List.head?_map]
  have hgeneral : (fun r : SeriesRow => r.isGeneral) ∘ SeriesRow.anywhere = fun r => r.isGeneral := rfl
  rw [hgeneral]
  cases (candidates rows).find? (fun r => r.isGeneral) <;> rfl

/-- **A series depends on the rows of each day, in their order, and not on their markets.** -/
theorem buildDailySeries_congr (h : ∀ d, (rows.filter (fun r => r.arrivalDate = d)).map SeriesRow.anywhere
    = (rows'.filter (fun r => r.arrivalDate = d)).map SeriesRow.anywhere) :
    buildDailySeries rows = buildDailySeries rows' := by
  have hprice : ∀ d, (chosen (rows.filter (fun r => r.arrivalDate = d))).map (fun r => (d, r.modalPrice))
      = (chosen (rows'.filter (fun r => r.arrivalDate = d))).map (fun r => (d, r.modalPrice)) := by
    intro d
    have hc := congrArg chosen (h d)
    rw [chosen_anywhere, chosen_anywhere] at hc
    have hm := congrArg (Option.map (fun r : SeriesRow => (d, r.modalPrice))) hc
    rw [Option.map_map, Option.map_map] at hm
    exact hm
  have hmem : ∀ d, d ∈ rows.map (·.arrivalDate) ↔ d ∈ rows'.map (·.arrivalDate) := by
    have hnil : ∀ rows : List SeriesRow, ∀ d, d ∈ rows.map (·.arrivalDate) ↔
        (rows.filter (fun r => r.arrivalDate = d)).map SeriesRow.anywhere ≠ [] := by
      intro rows d
      simp [List.filter_eq_nil_iff]
    intro d
    rw [hnil, hnil, h d]
  unfold buildDailySeries
  rw [sortedDates_congr hmem]
  exact List.filterMap_congr (fun d _ => hprice d)

end Anywhere

/-! ## The last point -/

section Last

variable {rows : List SeriesRow} {d : Date} {price : ℚ}

def lastDay (rows : List SeriesRow) : Option Date := (sortedDates (rows.map (·.arrivalDate))).getLast?

theorem getLast_buildDailySeries (h : (buildDailySeries rows).getLast? = some (d, price)) :
    lastDay rows = some d ∧ ∃ r ∈ rows.filter (fun r => r.arrivalDate = d),
      chosen (rows.filter (fun r => r.arrivalDate = d)) = some r ∧ r.modalPrice = price := by
  constructor
  · have hmap := congrArg (Option.map Prod.fst) h
    rw [← List.getLast?_map, buildDailySeries_dates] at hmap
    exact hmap
  · obtain ⟨d', -, hd'⟩ := List.mem_filterMap.1 (List.mem_of_getLast? h)
    obtain ⟨r, hr, he⟩ := Option.map_eq_some_iff.1 hd'
    obtain ⟨rfl, rfl⟩ := Prod.mk.inj he
    have hne : rows.filter (fun r => r.arrivalDate = d') ≠ [] := by
      intro hnil
      rw [hnil] at hr
      cases hr
    obtain ⟨c, hmem, hc⟩ := exists_chosen hne
    obtain rfl := Option.some.inj (hc.symm.trans hr)
    exact ⟨c, hmem, hr, rfl⟩

theorem getLast_buildDistrictDailySeries (ar : Arith) (rows : List SeriesRow) :
    (buildDistrictDailySeries ar rows).getLast? = (lastDay rows).map (fun d => (d, ar.mean (marketPrices rows d))) := by
  rw [buildDistrictDailySeries_eq, List.getLast?_map]
  rfl

/-- The rows of one market give its chosen price, be the market known or not. -/
theorem marketPrices_single {m : Option Uuid} (h : ∀ r ∈ rows, r.marketId = m) (d : Date) :
    marketPrices rows d = ((chosen (rows.filter (fun r => r.arrivalDate = d))).map (·.modalPrice)).toList := by
  have hall : rows.filter (fun r => r.marketId = m) = rows :=
    List.filter_eq_self.2 (fun r hr => by simp [h r hr])
  unfold marketPrices
  cases rows with
  | nil => rfl
  | cons r rows =>
    have hids : ((r :: rows).map (·.marketId)).dedup = [m] := by
      have hrep : (r :: rows).map (·.marketId) = List.replicate (rows.length + 1) m :=
        List.eq_replicate_iff.2 ⟨by simp, by simpa using h⟩
      rw [hrep, List.replicate_dedup (Nat.succ_ne_zero _)]
    rw [hids, List.flatMap_cons, List.flatMap_nil, List.append_nil, hall]

/-- The row's price is a float. -/
def SeriesRow.IsRead (ar : Arith) (r : SeriesRow) : Prop := ar.round r.modalPrice = r.modalPrice

theorem isRead_read (ar : Arith) (r : SeriesRow) : (r.read ar).IsRead ar := ar.round_round r.modalPrice

theorem mem_of_chosen {c : SeriesRow} (h : chosen rows = some c) : c ∈ rows :=
  (mem_candidates.1 (chosen_mem_candidates h)).1

/-- **The rows of one market are priced as that market's series.** -/
theorem buildDistrictDailySeries_single {ar : Arith} {m : Option Uuid} (h : ∀ r ∈ rows, r.marketId = m)
    (hread : ∀ r ∈ rows, r.IsRead ar) : buildDistrictDailySeries ar rows = buildDailySeries rows := by
  rw [buildDistrictDailySeries_eq, buildDailySeries, ← List.filterMap_eq_map]
  refine List.filterMap_congr (fun d hd => ?_)
  obtain ⟨c, hc⟩ := exists_chosen_day hd
  have hprice := ar.mean_singleton (hread c (List.mem_filter.1 (mem_of_chosen hc)).1)
  rw [Function.comp, marketPrices_single h, hc]
  simp [hprice]

theorem lastDay_eq_none : lastDay rows = none ↔ rows = [] := by
  have hnil : sortedDates (rows.map (·.arrivalDate)) = [] ↔ rows = [] := by
    constructor
    · intro h
      refine List.eq_nil_iff_forall_not_mem.2 (fun r hr => ?_)
      have hmem := mem_sortedDates.2 (List.mem_map_of_mem (f := (·.arrivalDate)) hr)
      rw [h] at hmem
      exact List.not_mem_nil hmem
    · rintro rfl
      rfl
  rw [lastDay, List.getLast?_eq_none_iff, hnil]

theorem exists_lastDay (h : lastDay rows = some d) : ∃ r ∈ rows.filter (fun r => r.arrivalDate = d), r.arrivalDate = d := by
  have hmem := mem_sortedDates.1 (List.mem_of_getLast? h)
  obtain ⟨r, hr, hd⟩ := List.mem_map.1 hmem
  exact ⟨r, List.mem_filter.2 ⟨hr, by simpa using hd⟩, hd⟩

end Last

/-! ## The two resolutions -/

def Session.day (x : Session) : Daytime := ⟨x.today, x.order⟩

/-- The prices that `rows` give for the markets on their last day add up to a float whose share for each of them is, as a
float, the price of the row chosen among all of `rows'` on theirs. -/
def Level (ar : Arith) (rows rows' : List SeriesRow) : Prop :=
  ∀ d' ∈ lastDay rows', ∀ top ∈ chosen (rows'.filter (fun r => r.arrivalDate = d')), ∃ d ∈ lastDay rows,
    ar.round (ar.sum (marketPrices rows d) / (marketPrices rows d).length) = top.modalPrice

theorem level_single {ar : Arith} {rows : List SeriesRow} {m : Option Uuid} (h : ∀ r ∈ rows, r.marketId = m)
    (hread : ∀ r ∈ rows, r.IsRead ar) : Level ar rows rows := by
  intro d hd top htop
  refine ⟨d, hd, ?_⟩
  rw [marketPrices_single h, Option.mem_def.1 htop]
  exact ar.mean_singleton (hread top (List.mem_filter.1 (mem_of_chosen htop)).1)

/-- The rows of a user's district, as a reply reads them. -/
def Daytime.districtRows (x : Daytime) (ar : Arith) (db : DB) (commodityId : Uuid) (user : ProfileRow) : List SeriesRow :=
  (x.history ar db commodityId (fun r => r.marketId ∈ (x.district db user).map (·.id))).map (·.row)

/-- The rows behind a reply's price: those of the market taken for the near one, or of the district. -/
def Daytime.quotedRows (x : Daytime) (cfg : CheckConfig) (db : DB) (commodityId : Uuid) (user : ProfileRow) :
    List SeriesRow :=
  match x.near db user with
  | some m => (x.history cfg.arith db commodityId (fun r => r.marketId = m.1)).map (·.row)
  | none => x.districtRows cfg.arith db commodityId user

theorem mem_historyRows {x : Daytime} {ar : Arith} {db : DB} {commodityId : Uuid} {p : Price → Prop} [DecidablePred p]
    {r : SeriesRow} : r ∈ (x.history ar db commodityId p).map (·.row) ↔ ∃ q ∈ db.prices.rows,
      (q.commodityId = commodityId ∧ x.today - historyDays ≤ q.arrivalDate ∧ p q) ∧ q.marketRow ar = r := by
  unfold Daytime.history
  rw [List.map_map, List.mem_map]
  simp only [x.order.mem_page, List.mem_filter, decide_eq_true_eq, and_assoc]
  rfl

theorem districtRows_nil {x : Daytime} {ar : Arith} {db : DB} {commodityId : Uuid} {user : ProfileRow}
    (h : x.district db user = []) : x.districtRows ar db commodityId user = [] := by
  refine List.eq_nil_iff_forall_not_mem.2 (fun r hr => ?_)
  unfold Daytime.districtRows at hr
  obtain ⟨q, -, ⟨-, -, hq⟩, -⟩ := mem_historyRows.1 hr
  rw [h] at hq
  cases hq

theorem near_rows {x : Daytime} {cfg : CheckConfig} {db : DB} {commodityId : Uuid} {user : ProfileRow} {m : Uuid × String}
    (h : x.near db user = some m) : ∀ r ∈ x.quotedRows cfg db commodityId user, r.marketId = some m.1 := by
  intro r hr
  unfold Daytime.quotedRows at hr
  rw [h] at hr
  obtain ⟨q, -, ⟨-, -, hq⟩, rfl⟩ := mem_historyRows.1 hr
  exact congrArg some hq

theorem quotedRows_isRead {x : Daytime} {cfg : CheckConfig} {db : DB} {commodityId : Uuid} {user : ProfileRow} :
    ∀ r ∈ x.quotedRows cfg db commodityId user, r.IsRead cfg.arith := by
  intro r hr
  have hread : ∀ q : Price, (q.marketRow cfg.arith).IsRead cfg.arith := fun q => isRead_read cfg.arith q.seriesRow
  unfold Daytime.quotedRows Daytime.districtRows at hr
  split at hr
  · obtain ⟨q, -, -, rfl⟩ := mem_historyRows.1 hr
    exact hread q
  · obtain ⟨q, -, -, rfl⟩ := mem_historyRows.1 hr
    exact hread q

theorem lastPrice_fst (series : DailySeries) (name : Option String) :
    (lastPrice series name).1 = series.getLast?.map Prod.snd := by
  unfold lastPrice
  cases series.getLast? <;> rfl

/-- **A reply's price is the mean of the markets' chosen prices on the last day**, the near market being one. -/
theorem price_eq_mean (x : Daytime) (cfg : CheckConfig) (db : DB) (commodityId : Uuid) (user : ProfileRow) :
    (x.price cfg db commodityId user).1 = (lastDay (x.quotedRows cfg db commodityId user)).map
      (fun d => cfg.arith.mean (marketPrices (x.quotedRows cfg db commodityId user) d)) := by
  have hseries : (x.price cfg db commodityId user).1
      = (buildDistrictDailySeries cfg.arith (x.quotedRows cfg db commodityId user)).getLast?.map Prod.snd := by
    cases hnear : x.near db user with
    | some m =>
      rw [buildDistrictDailySeries_single (near_rows hnear) quotedRows_isRead]
      unfold Daytime.price Daytime.quotedRows
      rw [hnear, lastPrice_fst]
    | none =>
      unfold Daytime.price Daytime.quotedRows
      rw [hnear]
      dsimp only
      split
      · rename_i hnil
        rw [districtRows_nil hnil]
        rfl
      · rw [lastPrice_fst]
        rfl
  rw [hseries, getLast_buildDistrictDailySeries, Option.map_map]
  rfl

section Resolve

variable {cfg : CheckConfig} {x : Session} {db : DB} {alert : Alert} {user : UserProfile}

theorem withinReach_fst (res : List (Uuid × String × ℚ)) : (withinReach res).1 = (reach res).map Prod.fst := by
  unfold withinReach reach
  rcases res with _ | ⟨⟨marketId, name, distanceKm⟩, res⟩
  · rfl
  · by_cases hd : distanceKm ≤ 50 <;> simp [hd]

theorem marketOf_eq (hm : alert.marketId = none) : (marketOf cfg x.order db alert user).1
    = (x.day.near db user.row).map Prod.fst := by
  obtain ⟨_, _, _, _, _, _, lat, lng⟩ := user
  unfold marketOf Daytime.near
  rw [hm]
  cases lat with
  | none => rfl
  | some lat =>
    cases lng with
    | none => rfl
    | some lng =>
      show (withinReach (nearestRows cfg x.order db)).1 = Option.map Prod.fst ((db.firstActive x.order).map _)
      rw [withinReach_fst, nearestRows_eq]
      cases db.firstActive x.order <;> rfl

/-- **Both read the same rows**, the checker without their markets. -/
theorem series_history (p : Price → Prop) [DecidablePred p] : buildDailySeries (historyOf cfg x db alert p)
    = buildDailySeries ((x.day.history cfg.arith db alert.commodityId p).map (·.row)) := by
  refine buildDailySeries_congr (fun d => ?_)
  unfold historyOf Daytime.history
  rw [List.map_map, List.filter_map, List.filter_map, List.map_map, List.map_map]
  have hpage := x.order.filter_page Price.arrivalDate d (db.prices.rows.filter (fun r =>
    r.commodityId = alert.commodityId ∧ x.today - historyDays ≤ r.arrivalDate ∧ p r))
  exact congrArg (List.map fun r : Price => r.seriesRow.read cfg.arith) hpage.symm

/-- The district's rows come to the checker without their markets. -/
theorem district_series (p : Price → Prop) [DecidablePred p] :
    buildDistrictDailySeries cfg.arith (historyOf cfg x db alert p) = buildDailySeries (historyOf cfg x db alert p) := by
  refine buildDistrictDailySeries_single (m := none) (fun r hr => ?_) (fun r hr => ?_)
  · obtain ⟨q, -, rfl⟩ := List.mem_map.1 hr
    rfl
  · obtain ⟨q, -, rfl⟩ := List.mem_map.1 hr
    exact isRead_read cfg.arith q.seriesRow

theorem lastTwo_latest {series : DailySeries} (h : 2 ≤ series.length) :
    ∃ prev latest, lastTwo series = some (prev, latest) ∧ series.getLast? = some latest := by
  have hlen : 2 ≤ series.reverse.length := by simpa using h
  unfold lastTwo
  rw [← List.head?_reverse]
  rcases hs : series.reverse with _ | ⟨latest, _ | ⟨prev, rest⟩⟩
  · rw [hs] at hlen
    cases hlen
  · rw [hs] at hlen
    cases hlen with
    | step h => cases h
  · exact ⟨prev, latest, rfl, rfl⟩

theorem run_checkCrossing {s : World × Nat} (h : 2 ≤ (seriesOf cfg x s.1.db alert user).2.length) :
    ∃ crossing latest, (checkCrossing cfg alert user).run x.exec s
        = (.ok (crossing, (seriesOf cfg x s.1.db alert user).1, latest.2), s) ∧
      (seriesOf cfg x s.1.db alert user).2.getLast? = some latest := by
  obtain ⟨prev, latest, hlast, hget⟩ := lastTwo_latest h
  refine ⟨isCrossing alert.condition (cfg.arith.round alert.thresholdPrice) prev.2 latest.2, latest, ?_, hget⟩
  unfold checkCrossing
  rw [Prog.run_bind, run_resolvedSeries, Prog.onOk_ok]
  dsimp only
  rw [hlast]
  rfl

/-- **The series of an alert without a market is made of the rows behind a reply's price.** -/
theorem seriesOf_eq (hm : alert.marketId = none) : (seriesOf cfg x db alert user).2
    = buildDailySeries (x.day.quotedRows cfg db alert.commodityId user.row) := by
  have hmarket : (marketOf cfg x.order db alert user).1 = (x.day.near db user.row).map Prod.fst := marketOf_eq hm
  unfold seriesOf Daytime.quotedRows
  rcases hof : marketOf cfg x.order db alert user with ⟨marketId, scopeNote⟩
  rw [hof] at hmarket
  cases hnear : x.day.near db user.row with
  | some m =>
    rw [hnear] at hmarket
    obtain rfl : marketId = some m.1 := hmarket
    exact series_history _
  | none =>
    rw [hnear] at hmarket
    obtain rfl : marketId = none := hmarket
    show (if x.day.district db user.row = [] then (Scope.districtMean, []) else (Scope.districtMean,
      buildDistrictDailySeries cfg.arith (historyOf cfg x db alert (fun r =>
        r.marketId ∈ (x.day.district db user.row).map (·.id))))).2 = _
    split
    · rename_i hnil
      rw [districtRows_nil hnil]
      rfl
    · rw [district_series]
      exact series_history _

/-- **The alert's price is the reply's exactly when the prices behind the reply are level with it.**  Those of the market
taken for the near one are, if both see the rows in the same order. -/
theorem quoted_price_iff (cfg : CheckConfig) (x : Session) (y : Daytime) (s : World × Nat) (alert : Alert)
    (user : UserProfile) (hday : y.today = x.today) (hm : alert.marketId = none)
    (hdays : 2 ≤ (seriesOf cfg x s.1.db alert user).2.length) :
    ∃ crossing scope price, (checkCrossing cfg alert user).run x.exec s = (.ok (crossing, scope, price), s) ∧
      (((latestPriceForUser cfg alert.commodityId user.row).run y.exec s.1.db).1.map Prod.fst = .ok (some price) ↔
        Level cfg.arith (y.quotedRows cfg s.1.db alert.commodityId user.row)
          (x.day.quotedRows cfg s.1.db alert.commodityId user.row)) ∧
      ((y.near s.1.db user.row).isSome → y.order = x.order →
        Level cfg.arith (y.quotedRows cfg s.1.db alert.commodityId user.row)
          (x.day.quotedRows cfg s.1.db alert.commodityId user.row)) := by
  obtain ⟨crossing, latest, hrun, hlast⟩ := run_checkCrossing hdays
  rw [seriesOf_eq hm] at hlast
  obtain ⟨hx, top, -, htop, hprice⟩ := getLast_buildDailySeries hlast
  refine ⟨crossing, _, latest.2, hrun, ?_, ?_⟩
  · have hlevel : Level cfg.arith (y.quotedRows cfg s.1.db alert.commodityId user.row)
        (x.day.quotedRows cfg s.1.db alert.commodityId user.row) ↔
        ∃ d, lastDay (y.quotedRows cfg s.1.db alert.commodityId user.row) = some d ∧
          cfg.arith.mean (marketPrices (y.quotedRows cfg s.1.db alert.commodityId user.row) d) = latest.2 := by
      simp [Level, hx, htop, hprice, Arith.mean, Arith.div]
    rw [hlevel, run_latestPriceForUser, ← Option.map_eq_some_iff]
    show Except.ok (y.price cfg s.1.db alert.commodityId user.row).1 = .ok (some latest.2) ↔ _
    rw [price_eq_mean]
    exact Except.ok.injEq _ _ |>.to_iff
  · intro hnear horder
    obtain ⟨m, hnear⟩ := Option.isSome_iff_exists.1 hnear
    have hsame : y = x.day := by
      rcases y with ⟨today, order⟩
      exact congrArg₂ Daytime.mk hday horder
    rw [← hsame]
    exact level_single (near_rows hnear) quotedRows_isRead

end Resolve

/-! ## Two markets -/

/-- A farmer of Nashik, and an alert on onions anywhere. -/
def nashikFarmer : UserProfile := ⟨1, none, some "9876543210", .farmer, .mr, "Nashik", none, none⟩

def anyMarketAlert : Alert := { onionAlert with marketId := none }

/-- Onions in Lasalgaon on days 18 and 19, and in Pimpalgaon on day 19 at the price given. -/
def nashikPrices (pimpalgaon : ℚ) : World where
  db :=
    let price (id marketId : Uuid) (day : Date) (modal : ℚ) : Price :=
      ⟨id, marketId, 1, day, none, none, modal, none, "General", "General", "data_gov_in"⟩
    { DB.empty with
      userProfiles := ⟨[nashikFarmer], by decide, by decide⟩
      markets := ⟨[⟨1, "Lasalgaon", "Nashik", none, 20, 74, true⟩, ⟨2, "Pimpalgaon", "Nashik", none, 20, 74, true⟩],
        by decide, by decide⟩
      commodities := onionsOnly
      prices := ⟨[price 1 1 18 2000, price 2 1 19 2000, price 3 2 19 pimpalgaon], by simp [price], fun _ _ => rfl⟩ }
  clock := hours (20 * 24)
  sent := []

/-- At 2400 there, the alert says 2000 and the reply 2200. -/
theorem quoted_price_differs :
    ((checkCrossing plainConfig anyMarketAlert nashikFarmer).run (checkOn 20).exec (nashikPrices 2400, 0)).1
      = .ok (false, .districtMean, 2000) ∧
    ((latestPriceForUser plainConfig 1 nashikFarmer.row).run (checkOn 20).day.exec (nashikPrices 2400).db).1
      = .ok (some 2200, some "Nashik (avg)") := by
  decide +kernel

/-- At 2000 there, both say 2000. -/
theorem quoted_price_level : ∃ crossing scope price,
    (checkCrossing plainConfig anyMarketAlert nashikFarmer).run (checkOn 20).exec (nashikPrices 2000, 0)
      = (.ok (crossing, scope, price), (nashikPrices 2000, 0)) ∧
    ((latestPriceForUser plainConfig 1 nashikFarmer.row).run (checkOn 20).day.exec (nashikPrices 2000).db).1.map Prod.fst
      = .ok (some price) := by
  obtain ⟨crossing, scope, price, hrun, hiff, -⟩ := quoted_price_iff plainConfig (checkOn 20) (checkOn 20).day
    (nashikPrices 2000, 0) anyMarketAlert nashikFarmer rfl rfl (by decide +kernel)
  refine ⟨crossing, scope, price, hrun, hiff.2 ?_⟩
  unfold Level
  decide +kernel

end Krishi
