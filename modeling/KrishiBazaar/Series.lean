import KrishiBazaar.Schema
import KrishiBazaar.Lib.Floats
import KrishiBazaar.Lib.Table
import Mathlib.Data.List.Dedup
import Mathlib.Data.List.Sort
/-!
# Series — the daily prices of a market and of a district

The series builders of `forecasting/engine.py`.  A date with several rows is one point: the rows of the best source, and
of these the first of variety `General`, else the first.  Nothing is averaged but, for a district, over its markets.
-/
namespace Krishi

open Lib

/-- The columns of a price row that a series reads; a query may leave the market out. -/
structure SeriesRow where
  marketId : Option Uuid
  arrivalDate : Date
  modalPrice : ℚ
  source : String
  variety : String
  deriving DecidableEq, Repr

abbrev DailySeries := List (Date × ℚ)

/-- Lower is better; unknown sources rank last. -/
def sourceRank (source : String) : Nat :=
  if source = "data_gov_in" then 1
  else if source = "agmarknet" then 2
  else if source = "manual" then 3
  else if source = "manual_seed" then 4
  else 99

def SeriesRow.isGeneral (r : SeriesRow) : Bool := r.variety = "" ∨ r.variety = "General"

/-- The rows of the best source. -/
def candidates (dayRows : List SeriesRow) : List SeriesRow :=
  let bestRank := (dayRows.map (fun r => sourceRank r.source)).min?
  dayRows.filter (fun r => some (sourceRank r.source) = bestRank)

/-- The row that stands for a day. -/
def chosen (dayRows : List SeriesRow) : Option SeriesRow :=
  ((candidates dayRows).find? (·.isGeneral)).or (candidates dayRows).head?

def sortedDates (dates : List Date) : List Date := dates.dedup.insertionSort (· ≤ ·)

def buildDailySeries (rows : List SeriesRow) : DailySeries :=
  (sortedDates (rows.map (·.arrivalDate))).filterMap (fun d =>
    (chosen (rows.filter (fun r => r.arrivalDate = d))).map (fun r => (d, r.modalPrice)))

/-- The average over the markets of a day's chosen prices.  Rows without a market count as one market. -/
def buildDistrictDailySeries (ar : Arith) (rows : List SeriesRow) : DailySeries :=
  let points := (rows.map (·.marketId)).dedup.flatMap (fun m => buildDailySeries (rows.filter (fun r => r.marketId = m)))
  (sortedDates (points.map (·.1))).map (fun d => (d, ar.mean ((points.filter (fun p => p.1 = d)).map (·.2))))

/-! ## The dates of a series -/

theorem mem_sortedDates {dates : List Date} {d : Date} : d ∈ sortedDates dates ↔ d ∈ dates := by
  rw [sortedDates, List.mem_insertionSort, List.mem_dedup]

theorem sortedDates_pairwise (dates : List Date) : (sortedDates dates).Pairwise (· < ·) := by
  have hle : (sortedDates dates).Pairwise (· ≤ ·) := List.pairwise_insertionSort _ _
  have hne : (sortedDates dates).Nodup := (List.perm_insertionSort _ _).nodup_iff.2 (List.nodup_dedup _)
  exact hle.imp₂ (fun _ _ => lt_of_le_of_ne) hne

theorem mem_candidates {dayRows : List SeriesRow} {c : SeriesRow} : c ∈ candidates dayRows ↔
    c ∈ dayRows ∧ some (sourceRank c.source) = (dayRows.map (fun r => sourceRank r.source)).min? := by
  unfold candidates
  rw [List.mem_filter, decide_eq_true_iff]

theorem candidates_ne_nil {dayRows : List SeriesRow} (h : dayRows ≠ []) : candidates dayRows ≠ [] := by
  have hne : dayRows.map (fun r => sourceRank r.source) ≠ [] := by simpa using h
  obtain ⟨m, hm⟩ := Option.ne_none_iff_exists'.1 (mt List.min?_eq_none_iff.1 hne)
  obtain ⟨c, hc, hrank⟩ := List.mem_map.1 (List.min?_mem hm)
  exact List.ne_nil_of_mem (mem_candidates.2 ⟨hc, by rw [hm, hrank]⟩)

theorem exists_chosen {dayRows : List SeriesRow} (h : dayRows ≠ []) : ∃ c ∈ dayRows, chosen dayRows = some c := by
  unfold chosen
  cases hg : (candidates dayRows).find? (·.isGeneral) with
  | some g => exact ⟨g, (mem_candidates.1 (List.mem_of_find?_eq_some hg)).1, rfl⟩
  | none =>
    obtain ⟨c, l, hl⟩ := List.exists_cons_of_ne_nil (candidates_ne_nil h)
    rw [hl, List.head?_cons]
    exact ⟨c, (mem_candidates.1 (hl ▸ List.mem_cons_self)).1, rfl⟩

theorem exists_chosen_day {rows : List SeriesRow} {d : Date} (hd : d ∈ sortedDates (rows.map (·.arrivalDate))) :
    ∃ c, chosen (rows.filter (fun r => r.arrivalDate = d)) = some c := by
  obtain ⟨r, hr, rfl⟩ := List.mem_map.1 (mem_sortedDates.1 hd)
  have hne : rows.filter (fun r' => r'.arrivalDate = r.arrivalDate) ≠ [] :=
    List.ne_nil_of_mem (List.mem_filter.2 ⟨hr, by simp⟩)
  obtain ⟨c, -, hc⟩ := exists_chosen hne
  exact ⟨c, hc⟩

/-- **A series has one point for each date with a row**, in order of date. -/
theorem buildDailySeries_dates (rows : List SeriesRow) :
    (buildDailySeries rows).map (·.1) = sortedDates (rows.map (·.arrivalDate)) := by
  unfold buildDailySeries
  rw [List.map_filterMap]
  refine (List.filterMap_congr (fun d hd => ?_)).trans List.filterMap_some
  obtain ⟨c, hc⟩ := exists_chosen_day hd
  rw [hc]
  rfl

theorem sortedDates_congr {l l' : List Date} (h : ∀ d, d ∈ l ↔ d ∈ l') : sortedDates l = sortedDates l' := by
  have hperm : (sortedDates l).Perm (sortedDates l') := by
    refine (List.perm_ext_iff_of_nodup ?_ ?_).2 (fun d => by rw [mem_sortedDates, mem_sortedDates, h])
    · exact (sortedDates_pairwise l).imp ne_of_lt
    · exact (sortedDates_pairwise l').imp ne_of_lt
  exact hperm.eq_of_pairwise (fun a b _ _ hab hba => absurd hab (not_lt.2 hba.le)) (sortedDates_pairwise l)
    (sortedDates_pairwise l')

/-- **So has the series of a district**, whatever the markets its rows come from. -/
theorem buildDistrictDailySeries_dates (ar : Arith) (rows : List SeriesRow) :
    (buildDistrictDailySeries ar rows).map (·.1) = sortedDates (rows.map (·.arrivalDate)) := by
  unfold buildDistrictDailySeries
  rw [List.map_map]
  refine (List.map_id _).trans (sortedDates_congr (fun d => ?_))
  rw [List.map_flatMap, List.mem_flatMap, List.mem_map]
  simp only [buildDailySeries_dates, mem_sortedDates, List.mem_dedup, List.mem_map, List.mem_filter,
    decide_eq_true_eq]
  constructor
  · rintro ⟨m, -, r, ⟨hr, -⟩, hd⟩
    exact ⟨r, hr, hd⟩
  · rintro ⟨r, hr, hd⟩
    exact ⟨r.marketId, ⟨r, hr, rfl⟩, r, ⟨hr, rfl⟩, hd⟩

/-! ## The prices of a series -/

theorem chosen_nil : chosen [] = none := rfl

theorem filterMap_at {α β : Type} [DecidableEq α] (g : α → Option β) (a : α) : ∀ {l : List α}, l.Nodup →
    l.filterMap (fun x => if x = a then g x else none) = if a ∈ l then (g a).toList else []
  | [], _ => rfl
  | x :: l, h => by
    rw [List.nodup_cons] at h
    rw [List.filterMap_cons, filterMap_at g a h.2]
    by_cases hx : x = a
    · subst hx
      rw [if_pos rfl, if_neg h.1, if_pos List.mem_cons_self]
      cases g x <;> rfl
    · rw [if_neg hx]
      have hmem : a ∈ x :: l ↔ a ∈ l := by simp [Ne.symm hx]
      simp only [hmem]

theorem buildDailySeries_at (rows : List SeriesRow) (d : Date) :
    ((buildDailySeries rows).filter (fun p => p.1 = d)).map (·.2)
      = ((chosen (rows.filter (fun r => r.arrivalDate = d))).map (·.modalPrice)).toList := by
  have hfun : (fun d' => ((((chosen (rows.filter (fun r => r.arrivalDate = d'))).map (fun r => (d', r.modalPrice))).filter
      (fun p => p.1 = d))).map (·.2)) = fun d' => if d' = d then
        (chosen (rows.filter (fun r => r.arrivalDate = d'))).map (·.modalPrice) else none := by
    funext d'
    by_cases hd : d' = d
    · cases chosen (rows.filter (fun r => r.arrivalDate = d')) <;> simp [hd]
    · cases chosen (rows.filter (fun r => r.arrivalDate = d')) <;> simp [hd]
  unfold buildDailySeries
  rw [List.filter_filterMap, List.map_filterMap, hfun, filterMap_at _ d ((sortedDates_pairwise _).imp ne_of_lt)]
  split
  · rfl
  · rename_i hd
    have hnil : rows.filter (fun r => r.arrivalDate = d) = [] := by
      refine List.filter_eq_nil_iff.2 (fun r hr hrd => hd ?_)
      exact mem_sortedDates.2 (List.mem_map.2 ⟨r, hr, by simpa using hrd⟩)
    rw [hnil, chosen_nil]
    rfl

/-- The chosen prices of a day, one for each market with a row on it. -/
def marketPrices (rows : List SeriesRow) (d : Date) : List ℚ :=
  (rows.map (·.marketId)).dedup.flatMap (fun m =>
    ((chosen ((rows.filter (fun r => r.marketId = m)).filter (fun r => r.arrivalDate = d))).map (·.modalPrice)).toList)

/-- **A district's series has the mean of the markets' chosen prices at each date with a row.** -/
theorem buildDistrictDailySeries_eq (ar : Arith) (rows : List SeriesRow) : buildDistrictDailySeries ar rows
    = (sortedDates (rows.map (·.arrivalDate))).map (fun d => (d, ar.mean (marketPrices rows d))) := by
  have hdates : (buildDistrictDailySeries ar rows).map (·.1) = sortedDates (rows.map (·.arrivalDate)) :=
    buildDistrictDailySeries_dates ar rows
  unfold buildDistrictDailySeries at hdates ⊢
  rw [List.map_map] at hdates
  rw [← hdates, List.map_map]
  refine List.map_congr_left (fun d _ => ?_)
  have hprices : ((((rows.map (·.marketId)).dedup.flatMap (fun m => buildDailySeries
      (rows.filter (fun r => r.marketId = m)))).filter (fun p => p.1 = d)).map (·.2)) = marketPrices rows d := by
    rw [List.filter_flatMap, List.map_flatMap]
    exact List.flatMap_congr (fun m _ => buildDailySeries_at _ d)
  simp only [Function.comp, hprices]

/-! ## Where the prices come from -/

/-- The rows of `d` have a row with price `q` from the best source of the day, one of variety `General` if that source
has one. -/
def PricePicked (rows : List SeriesRow) (d : Date) (q : ℚ) : Prop :=
  ∃ r ∈ rows, r.arrivalDate = d ∧ r.modalPrice = q ∧
    (∀ r' ∈ rows, r'.arrivalDate = d → sourceRank r.source ≤ sourceRank r'.source) ∧
    ((∃ r' ∈ rows, r'.arrivalDate = d ∧ sourceRank r'.source = sourceRank r.source ∧ r'.isGeneral) → r.isGeneral)

theorem sourceRank_le_of_mem_candidates {dayRows : List SeriesRow} {c : SeriesRow} (h : c ∈ candidates dayRows) :
    ∀ r ∈ dayRows, sourceRank c.source ≤ sourceRank r.source := by
  intro r hr
  have hmin := (mem_candidates.1 h).2
  exact (List.min?_eq_some_iff.1 hmin.symm).2 _ (List.mem_map_of_mem hr)

theorem mem_candidates_of_sourceRank_eq {dayRows : List SeriesRow} {c r : SeriesRow} (hc : c ∈ candidates dayRows)
    (hr : r ∈ dayRows) (heq : sourceRank r.source = sourceRank c.source) : r ∈ candidates dayRows :=
  mem_candidates.2 ⟨hr, by rw [heq]; exact (mem_candidates.1 hc).2⟩

theorem chosen_mem_candidates {dayRows : List SeriesRow} {c : SeriesRow} (h : chosen dayRows = some c) :
    c ∈ candidates dayRows := by
  unfold chosen at h
  cases hg : (candidates dayRows).find? (·.isGeneral) with
  | some g =>
    rw [hg, Option.some_or, Option.some.injEq] at h
    exact h ▸ List.mem_of_find?_eq_some hg
  | none =>
    rw [hg, Option.none_or] at h
    exact List.mem_of_mem_head? h

theorem chosen_isGeneral {dayRows : List SeriesRow} {c r : SeriesRow} (h : chosen dayRows = some c)
    (hr : r ∈ candidates dayRows) (hgen : r.isGeneral) : c.isGeneral := by
  unfold chosen at h
  cases hg : (candidates dayRows).find? (·.isGeneral) with
  | some g =>
    rw [hg, Option.some_or, Option.some.injEq] at h
    exact h ▸ List.find?_some hg
  | none => exact absurd hgen (List.find?_eq_none.1 hg r hr)

theorem mem_buildDailySeries {rows : List SeriesRow} {d : Date} {q : ℚ} : (d, q) ∈ buildDailySeries rows ↔
    ∃ c, chosen (rows.filter (fun r => r.arrivalDate = d)) = some c ∧ c.modalPrice = q := by
  have hat := buildDailySeries_at rows d
  have hmem : (d, q) ∈ buildDailySeries rows ↔
      q ∈ ((buildDailySeries rows).filter (fun p => p.1 = d)).map (·.2) := by
    simp
  rw [hmem, hat, Option.mem_toList, Option.map_eq_some_iff]

theorem pricePicked_of_mem {rows : List SeriesRow} {d : Date} {q : ℚ} (h : (d, q) ∈ buildDailySeries rows) :
    PricePicked rows d q := by
  obtain ⟨c, hc, rfl⟩ := mem_buildDailySeries.1 h
  have hcand := chosen_mem_candidates hc
  have hday : ∀ r, r ∈ rows.filter (fun r => r.arrivalDate = d) ↔ r ∈ rows ∧ r.arrivalDate = d := fun r => by simp
  obtain ⟨hmem, hd⟩ := (hday c).1 (mem_candidates.1 hcand).1
  refine ⟨c, hmem, hd, rfl, fun r hr hrd => ?_, ?_⟩
  · exact sourceRank_le_of_mem_candidates hcand r ((hday r).2 ⟨hr, hrd⟩)
  · rintro ⟨r, hr, hrd, heq, hgen⟩
    exact chosen_isGeneral hc (mem_candidates_of_sourceRank_eq hcand ((hday r).2 ⟨hr, hrd⟩) heq) hgen

/-! ## Whose prices a district averages -/

/-- The price of each market with a row on `d`, beside the market. -/
def pricesByMarket (rows : List SeriesRow) (d : Date) : List (Option Uuid × ℚ) :=
  (rows.map (·.marketId)).dedup.filterMap (fun m =>
    (chosen ((rows.filter (fun r => r.marketId = m)).filter (fun r => r.arrivalDate = d))).map
      (fun r => (m, r.modalPrice)))

theorem marketPrices_eq (rows : List SeriesRow) (d : Date) :
    marketPrices rows d = (pricesByMarket rows d).map (·.2) := by
  unfold marketPrices pricesByMarket
  rw [List.map_filterMap, List.filterMap_eq_flatMap_toList]
  refine List.flatMap_congr (fun m _ => ?_)
  cases chosen ((rows.filter (fun r => r.marketId = m)).filter (fun r => r.arrivalDate = d)) <;> rfl

theorem mem_pricesByMarket {rows : List SeriesRow} {d : Date} {m : Option Uuid} {q : ℚ} :
    (m, q) ∈ pricesByMarket rows d ↔ (d, q) ∈ buildDailySeries (rows.filter (fun r => r.marketId = m)) := by
  rw [mem_buildDailySeries]
  unfold pricesByMarket
  simp only [List.mem_filterMap, Option.map_eq_some_iff, Prod.mk.injEq, List.mem_dedup]
  constructor
  · rintro ⟨_, -, c, hc, rfl, rfl⟩
    exact ⟨c, hc, rfl⟩
  · rintro ⟨c, hc, hq⟩
    refine ⟨m, ?_, c, hc, rfl, hq⟩
    have hmem := (mem_candidates.1 (chosen_mem_candidates hc)).1
    simp only [List.mem_filter, decide_eq_true_eq] at hmem
    exact List.mem_map.2 ⟨c, hmem.1.1, hmem.1.2⟩

theorem pricesByMarket_markets (rows : List SeriesRow) (d : Date) (m : Option Uuid) :
    m ∈ (pricesByMarket rows d).map (·.1) ↔ ∃ r ∈ rows, r.marketId = m ∧ r.arrivalDate = d := by
  have hfst : m ∈ (pricesByMarket rows d).map (·.1) ↔
      d ∈ (buildDailySeries (rows.filter (fun r => r.marketId = m))).map (·.1) := by
    simp [mem_pricesByMarket]
  rw [hfst, buildDailySeries_dates, mem_sortedDates]
  simp [and_assoc]

theorem pricesByMarket_nodup (rows : List SeriesRow) (d : Date) : ((pricesByMarket rows d).map (·.1)).Nodup := by
  unfold pricesByMarket
  rw [List.map_filterMap]
  refine (Lib.Table.nodup_filterMap_iff (List.nodup_dedup _)).2 (fun m _ m' _ b hb hb' => ?_)
  simp only [Option.map_map, Option.map_eq_some_iff] at hb hb'
  obtain ⟨_, -, rfl⟩ := hb
  obtain ⟨_, -, rfl⟩ := hb'
  rfl

/-- **The series pick real prices.**  One point for each date with a row, ascending; at each the price of a row of the
best source, `General` when there is one; and for a district the mean over the markets with a row on the date of the
prices picked for them, in the arithmetic of the code: their sum by their number, which is a float. -/
theorem series_pick_real_prices (ar : Arith) (rows : List SeriesRow) :
    ((buildDailySeries rows).map (·.1)).Pairwise (· < ·) ∧
    (∀ d, d ∈ (buildDailySeries rows).map (·.1) ↔ ∃ r ∈ rows, r.arrivalDate = d) ∧
    (∀ d q, (d, q) ∈ buildDailySeries rows → PricePicked rows d q) ∧
    (buildDistrictDailySeries ar rows).map (·.1) = (buildDailySeries rows).map (·.1) ∧
    ∀ d q, (d, q) ∈ buildDistrictDailySeries ar rows → ∃ prices : List (Option Uuid × ℚ),
      (prices.map (·.1)).Nodup ∧
      (∀ m, m ∈ prices.map (·.1) ↔ ∃ r ∈ rows, r.marketId = m ∧ r.arrivalDate = d) ∧
      (∀ m p, (m, p) ∈ prices → (d, p) ∈ buildDailySeries (rows.filter (fun r => r.marketId = m))) ∧
      q = ar.round (ar.sum (prices.map (·.2)) / prices.length) := by
  refine ⟨?_, fun d => ?_, fun d q h => pricePicked_of_mem h, ?_, fun d q h => ?_⟩
  · rw [buildDailySeries_dates]
    exact sortedDates_pairwise _
  · rw [buildDailySeries_dates, mem_sortedDates, List.mem_map]
  · rw [buildDistrictDailySeries_dates, buildDailySeries_dates]
  · rw [buildDistrictDailySeries_eq] at h
    obtain ⟨_, -, heq⟩ := List.mem_map.1 h
    obtain ⟨rfl, rfl⟩ := Prod.mk.inj heq
    exact ⟨pricesByMarket rows _, pricesByMarket_nodup rows _, pricesByMarket_markets rows _,
      fun m p hp => mem_pricesByMarket.1 hp, by rw [marketPrices_eq, Arith.mean, Arith.div, List.length_map]⟩

end Krishi
