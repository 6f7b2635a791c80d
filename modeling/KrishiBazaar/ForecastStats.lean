import KrishiBazaar.Pages
/-!
# ForecastStats — which price a prediction is held against

`get_forecast_stats` of `app/routers/dashboard.py` holds the fifty latest forecasts against the prices.  It reads two
thousand price rows, in no order, and takes for each forecast the first price of the pair from its day on.  So a day
without a price is judged by a later one, a day with several by any of them, and once there are more rows than it reads a
later price may stand in, or none (`forecast_actual_iff` has exactly which).
-/
namespace Krishi

open Lib

/-- A forecast beside what came of it.  The key stands for the id of the row. -/
structure ForecastStat where
  id : Uuid × Uuid × Date
  date : Date
  market : Option String
  commodity : Option String
  predicted : Option ℚ
  lower : Option ℚ
  upper : Option ℚ
  confidence : Option Confidence
  actual : Option ℚ
  hit : Option Bool
  deriving DecidableEq, Repr

/-- The prices of the pair by their days, from the forecast's day on. -/
def statCandidates (priceRows : List Price) (f : Forecast) : List Price :=
  ((priceRows.filter (fun p => p.pair = f.pair)).insertionSort (fun a b => a.arrivalDate ≤ b.arrivalDate)).filter
    (fun p => f.forecastDate ≤ p.arrivalDate)

def actualPrice (priceRows : List Price) (f : Forecast) : Option ℚ :=
  (statCandidates priceRows f).head?.map (·.modalPrice)

def Forecast.withinBounds (f : Forecast) (actual : Option ℚ) : Option Bool :=
  match actual, f.lowerBound, f.upperBound with
  | some actual, some lower, some upper => some (lower ≤ actual ∧ actual ≤ upper)
  | _, _, _ => none

def forecastStat (priceRows : List Price) (v : ForecastView) : ForecastStat :=
  let f := v.forecast
  { id := f.key, date := f.forecastDate, market := v.marketName, commodity := v.commodityNameEn,
    predicted := f.predictedPrice, lower := f.lowerBound, upper := f.upperBound, confidence := f.confidence,
    actual := actualPrice priceRows f, hit := f.withinBounds (actualPrice priceRows f) }

def getForecastStats : Forecasting (List ForecastStat) := do
  let rows ← onStore (.view forecasts (fun _ => true) (fun a b => b.forecastDate ≤ a.forecastDate) (some 50)
    flattenForecast)
  let priceRows ← onStore (.selectLimit prices (fun _ => true) 2000)
  pure (rows.map (forecastStat priceRows))

/-! ## The first price from a day on -/

/-- A price of the pair, from the forecast's day on. -/
def Forecast.Judges (f : Forecast) (p : Price) : Prop := p.pair = f.pair ∧ f.forecastDate ≤ p.arrivalDate

instance (f : Forecast) (p : Price) : Decidable (f.Judges p) := inferInstanceAs (Decidable (_ ∧ _))

section Candidates

variable {priceRows : List Price} {f : Forecast} {p : Price}

theorem mem_statCandidates : p ∈ statCandidates priceRows f ↔ p ∈ priceRows ∧ f.Judges p := by
  unfold statCandidates Forecast.Judges
  rw [List.mem_filter, List.mem_insertionSort, List.mem_filter, decide_eq_true_iff, decide_eq_true_iff, and_assoc]

theorem statCandidates_sorted : (statCandidates priceRows f).Pairwise (fun a b => a.arrivalDate ≤ b.arrivalDate) :=
  (List.pairwise_insertionSort _ _).filter _

/-- **The first is of the earliest day.** -/
theorem statCandidates_head (h : (statCandidates priceRows f).head? = some p) :
    p ∈ priceRows ∧ f.Judges p ∧ ∀ q ∈ priceRows, f.Judges q → p.arrivalDate ≤ q.arrivalDate := by
  obtain ⟨rest, hrest⟩ := List.head?_eq_some_iff.1 h
  obtain ⟨hp, hjudges⟩ := mem_statCandidates.1 (List.mem_of_mem_head? h)
  refine ⟨hp, hjudges, fun q hq hq' => ?_⟩
  have hmem : q ∈ statCandidates priceRows f := mem_statCandidates.2 ⟨hq, hq'⟩
  have hsorted : (statCandidates priceRows f).Pairwise (fun a b => a.arrivalDate ≤ b.arrivalDate) := statCandidates_sorted
  rw [hrest] at hmem hsorted
  rcases List.mem_cons.1 hmem with rfl | hmem
  · exact le_rfl
  · exact List.rel_of_pairwise_cons hsorted hmem

/-- Of the rows of one day the first that was read comes first. -/
theorem statCandidates_cons (hjudges : f.Judges p)
    (hfirst : ∀ q ∈ priceRows, f.Judges q → p.arrivalDate ≤ q.arrivalDate) :
    (statCandidates (p :: priceRows) f).head? = some p := by
  obtain ⟨q, rest, hrest⟩ := List.exists_cons_of_ne_nil
    (List.ne_nil_of_mem (mem_statCandidates.2 ⟨List.mem_cons_self, hjudges⟩ : p ∈ statCandidates (p :: priceRows) f))
  have hhead : (statCandidates (p :: priceRows) f).head? = some q := by rw [hrest, List.head?_cons]
  obtain ⟨hq, hq', hle⟩ := statCandidates_head hhead
  have hday : q.arrivalDate = p.arrivalDate := by
    refine le_antisymm (hle p List.mem_cons_self hjudges) ?_
    rcases List.mem_cons.1 hq with rfl | hq
    · exact le_rfl
    · exact hfirst q hq hq'
  have hsame : (statCandidates (p :: priceRows) f).filter (fun r => r.arrivalDate = p.arrivalDate)
      = p :: ((priceRows.filter (fun r => r.pair = f.pair)).filter (fun r => r.arrivalDate = p.arrivalDate)).filter
        (fun r => f.forecastDate ≤ r.arrivalDate) := by
    unfold statCandidates
    rw [List.filter_comm, filter_insertionSort (fun r : Price => r.arrivalDate),
      List.filter_cons_of_pos (by simp [hjudges.1]), List.filter_cons_of_pos (by simp),
      List.filter_cons_of_pos (by simp [hjudges.2])]
  rw [hrest, List.filter_cons_of_pos (by simp [hday])] at hsame
  rw [hhead, (List.cons.inj hsame).1]

theorem actualPrice_eq_none : actualPrice priceRows f = none ↔ ∀ p ∈ priceRows, ¬ f.Judges p := by
  unfold actualPrice
  rw [Option.map_eq_none_iff, List.head?_eq_none_iff, List.eq_nil_iff_forall_not_mem]
  simp only [mem_statCandidates, not_and]

end Candidates

/-! ## Rows that are not read -/

/-- How many prices are beyond the limit of the read. -/
def unread (db : DB) : Nat := db.prices.rows.length - 2000

/-- The price may stand for the forecast: all that would come before it may be beyond the limit. -/
def MayStand (db : DB) (f : Forecast) (p : Price) : Prop :=
  p ∈ db.prices.rows ∧ f.Judges p ∧
    (db.prices.rows.filter (fun q => f.Judges q ∧ q.arrivalDate < p.arrivalDate)).length ≤ unread db

/-- All prices that the forecast could be held against may be beyond the limit. -/
def MayLack (db : DB) (f : Forecast) : Prop := (db.prices.rows.filter (fun q => f.Judges q)).length ≤ unread db

section Unread

variable {db : DB} {f : Forecast}

/-- Of the rows that are read none is of a kind only if no more are of it than are not read. -/
theorem length_filter_le_unread {rows : List Price} {k : Price → Bool} (hperm : rows.Perm db.prices.rows)
    (h : ∀ p ∈ rows.take 2000, k p = false) : (db.prices.rows.filter k).length ≤ unread db := by
  have hsplit : (rows.filter k).length = ((rows.drop 2000).filter k).length := by
    conv_lhs => rw [← List.take_append_drop 2000 rows]
    rw [List.filter_append, List.filter_eq_nil_iff.2 (fun p hp => by simp [h p hp]), List.nil_append]
  calc (db.prices.rows.filter k).length = ((rows.drop 2000).filter k).length := by
        rw [← (hperm.filter k).length_eq, hsplit]
    _ ≤ (rows.drop 2000).length := List.length_filter_le _ _
    _ = unread db := by rw [List.length_drop, hperm.length_eq]; rfl

/-- If no more are of a kind than are not read, they may be those. -/
theorem exists_order_without {first : List Price} {k : Price → Bool} (h : (db.prices.rows.filter k).length ≤ unread db)
    (hfirst : (first ++ db.prices.rows.filter k).Perm db.prices.rows) :
    ∃ o : RowOrder, (o.order db.prices.rows).take 2000 = first.take 2000 := by
  obtain ⟨o, ho⟩ := RowOrder.exists_order_eq hfirst
  refine ⟨o, ?_⟩
  have hlen := hfirst.length_eq
  rw [List.length_append] at hlen
  rw [ho]
  rcases Nat.eq_zero_or_pos (unread db) with hzero | hpos
  · have hnil : db.prices.rows.filter k = [] := List.eq_nil_of_length_eq_zero (by omega)
    rw [hnil, List.append_nil]
  · refine List.take_append_of_le_length ?_
    unfold unread at h hpos
    omega

/-- **Which prices a forecast may be held against**: one of those that may stand for it, or none, if it may lack them. -/
theorem exists_actualPrice_iff {a : Option ℚ} :
    (∃ o : RowOrder, actualPrice ((o.order db.prices.rows).take 2000) f = a) ↔
      (∃ p, MayStand db f p ∧ a = some p.modalPrice) ∨ (MayLack db f ∧ a = none) := by
  constructor
  · rintro ⟨o, rfl⟩
    cases hhead : (statCandidates ((o.order db.prices.rows).take 2000) f).head? with
    | none =>
      have hnone : actualPrice ((o.order db.prices.rows).take 2000) f = none := by
        unfold actualPrice
        rw [hhead, Option.map_none]
      refine Or.inr ⟨length_filter_le_unread (o.perm _) (fun p hp => ?_), hnone⟩
      exact decide_eq_false (actualPrice_eq_none.1 hnone p hp)
    | some p =>
      obtain ⟨hp, hjudges, hle⟩ := statCandidates_head hhead
      refine Or.inl ⟨p, ⟨o.mem_order.1 (List.mem_of_mem_take hp), hjudges, ?_⟩, ?_⟩
      · refine length_filter_le_unread (o.perm _) (fun q hq => decide_eq_false ?_)
        rintro ⟨hq', hlt⟩
        exact absurd hlt (not_lt.2 (hle q hq hq'))
      · unfold actualPrice
        rw [hhead, Option.map_some]
  · have hsplit : ∀ k : Price → Bool, (db.prices.rows.filter (fun q => !k q) ++ db.prices.rows.filter k).Perm
        db.prices.rows := fun k => List.perm_append_comm.trans (List.filter_append_perm k _)
    rintro (⟨p, ⟨hp, hjudges, hcount⟩, rfl⟩ | ⟨hcount, rfl⟩)
    · -- the price first, and those that would come before it last
      have hkept : p ∈ db.prices.rows.filter (fun q => !decide (f.Judges q ∧ q.arrivalDate < p.arrivalDate)) := by
        refine List.mem_filter.2 ⟨hp, ?_⟩
        simp
      obtain ⟨o, ho⟩ := exists_order_without hcount
        (((List.perm_cons_erase hkept).symm.append_right _).trans (hsplit _))
      refine ⟨o, ?_⟩
      rw [ho, List.take_succ_cons, actualPrice, statCandidates_cons hjudges (fun q hq hq' => ?_), Option.map_some]
      have hmem := (List.mem_filter.1 (List.mem_of_mem_erase (List.mem_of_mem_take hq))).2
      simpa [hq'] using hmem
    · obtain ⟨o, ho⟩ := exists_order_without hcount (hsplit _)
      refine ⟨o, ?_⟩
      rw [ho, actualPrice_eq_none]
      intro p hp hjudges
      have hmem := (List.mem_filter.1 (List.mem_of_mem_take hp)).2
      simp [hjudges] at hmem

end Unread
/-! ## What is shown -/

section Shown

variable {db : DB} {f : Forecast}

/-- The fifty latest forecasts. -/
def latestForecasts (o : RowOrder) (db : DB) : List Forecast :=
  o.page (fun a b => b.forecastDate ≤ a.forecastDate) (some 50) db.forecasts.rows

/-- A forecast is among them if no more than fifty are of its day or later. -/
theorem mem_latestForecasts (o : RowOrder) (hf : f ∈ db.forecasts.rows)
    (hlast : (db.forecasts.rows.filter (fun g => f.forecastDate ≤ g.forecastDate)).length ≤ 50) :
    f ∈ latestForecasts o db := by
  obtain ⟨sorted, hpage, hperm, hsort⟩ : ∃ sorted : List Forecast, latestForecasts o db = sorted.take 50 ∧
      sorted.Perm db.forecasts.rows ∧ sorted.Pairwise (fun a b => b.forecastDate ≤ a.forecastDate) := by
    refine ⟨(o.order db.forecasts.rows).insertionSort (fun a b => decide (b.forecastDate ≤ a.forecastDate)), rfl,
      (List.perm_insertionSort _ _).trans (o.perm _), ?_⟩
    have hpair := List.pairwise_insertionSort (fun a b : Forecast => b.forecastDate ≤ a.forecastDate)
      (o.order db.forecasts.rows)
    simpa using hpair
  obtain ⟨before, after, rfl⟩ := List.append_of_mem (hperm.mem_iff.2 hf)
  have hfront : ∀ g ∈ before ++ [f], f.forecastDate ≤ g.forecastDate := by
    intro g hg
    rcases List.mem_append.1 hg with hg | hg
    · exact (List.pairwise_append.1 hsort).2.2 g hg f List.mem_cons_self
    · rw [List.mem_singleton.1 hg]
  have hcount : (before ++ [f]).length ≤ 50 := by
    calc (before ++ [f]).length = ((before ++ [f]).filter (fun g => f.forecastDate ≤ g.forecastDate)).length := by
          rw [List.filter_eq_self.2 (fun g hg => decide_eq_true (hfront g hg))]
      _ ≤ ((before ++ [f] ++ after).filter (fun g => f.forecastDate ≤ g.forecastDate)).length := by
          rw [List.filter_append (before ++ [f]), List.length_append]
          exact Nat.le_add_right _ _
      _ ≤ 50 := by
          rw [List.append_assoc, List.singleton_append, (hperm.filter _).length_eq]
          exact hlast
  have hprefix : before ++ [f] <+: (before ++ f :: after).take 50 :=
    List.prefix_take_iff.2 ⟨⟨after, by rw [List.append_assoc, List.singleton_append]⟩, hcount⟩
  rw [hpage]
  exact hprefix.subset (List.mem_append_right _ List.mem_cons_self)

theorem run_getForecastStats (x : Conditions) (db : DB) : (getForecastStats.run x.exec ⟨db, 0, []⟩).1
    = if x.fails 0 then .error (.api .unavailable) else if x.fails 1 then .error (.api .unavailable)
      else .ok (((latestForecasts (x.order 0) db).map (flattenForecast db)).map
        (forecastStat (((x.order 1).order db.prices.rows).take 2000))) := by
  have hrows : db.forecasts.rows.filter (fun _ => true) = db.forecasts.rows := List.filter_eq_self.2 (fun _ _ => rfl)
  have hprices : db.prices.rows.filter (fun _ => true) = db.prices.rows := List.filter_eq_self.2 (fun _ _ => rfl)
  have hfirst : (onStore (.view forecasts (fun _ => true) (fun a b => b.forecastDate ≤ a.forecastDate) (some 50)
      flattenForecast)).run x.exec ⟨db, 0, []⟩ = if x.fails 0 then (.error (.api .unavailable), ⟨db, 1, []⟩)
        else (.ok ((latestForecasts (x.order 0) db).map (flattenForecast db)), ⟨db, 1, []⟩) := by
    unfold latestForecasts
    rw [← hrows]
    exact Prog.run_perform _ _ _
  have hsecond : (onStore (.selectLimit prices (fun _ => true) 2000)).run x.exec ⟨db, 1, []⟩
      = if x.fails 1 then (.error (.api .unavailable), ⟨db, 2, []⟩)
        else (.ok (((x.order 1).order db.prices.rows).take 2000), ⟨db, 2, []⟩) := by
    rw [← hprices]
    exact Prog.run_perform _ _ _
  unfold getForecastStats
  rw [Prog.run_bind, hfirst]
  split
  · rfl
  · rw [Prog.onOk_ok, Prog.run_bind, hsecond]
    split
    · rfl
    · rfl

end Shown

/-! ## Two onions on one day -/

/-- A forecast of 1900 to 2100 rupees for day 21, when red onions came to 2600 and the rest to 2000. -/
def onionsOn21 : DB :=
  let price (id : Uuid) (variety : String) (modalPrice : ℚ) : Price :=
    ⟨id, 1, 1, 21, none, none, modalPrice, none, variety, "General", "data_gov_in"⟩
  { DB.empty with
    markets := lasalgaonOnly
    commodities := onionsOnly
    prices := ⟨[price 1 "General" 2000, price 2 "Red" 2600], by decide, by decide⟩
    forecasts := ⟨[⟨1, 1, 21, some 2000, some 1900, some 2100, some .medium, "moving_avg", some 10, .ok, 0⟩], by decide,
      by decide⟩ }

end Krishi
