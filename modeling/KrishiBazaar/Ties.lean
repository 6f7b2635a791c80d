import KrishiBazaar.Prices
/-!
# Ties — a series and the order of its rows

`build_daily_series` chooses a day's row by source, then by variety, then by where it stands in the list; its callers ask
for their rows by date alone, so the order within a day is the database's.  The unique key of `prices` has the grade as
well, and rows that differ in it tie on the first two.  A row *stands for its day* if no other row of the day is before it in
the first two: these rows are what an order can put first, and the series is the same for all orders exactly when those
of one day have one price (`buildDailySeries_perm_iff`).
-/
namespace Krishi

open Lib

namespace SeriesRow

/-- No row of its day has a better source, and none of its source is `General` unless it is. -/
def StandsFor (rows : List SeriesRow) (r : SeriesRow) : Prop :=
  (∀ r' ∈ rows, r'.arrivalDate = r.arrivalDate → sourceRank r.source ≤ sourceRank r'.source) ∧
    (r.isGeneral = true ∨ ∀ r' ∈ rows, r'.arrivalDate = r.arrivalDate → sourceRank r'.source = sourceRank r.source →
      r'.isGeneral = false)

end SeriesRow

/-- **Any two rows that stand for one day have one price.** -/
def OnePriceADay (rows : List SeriesRow) : Prop :=
  ∀ r ∈ rows, ∀ r' ∈ rows, r.arrivalDate = r'.arrivalDate → r.StandsFor rows → r'.StandsFor rows →
    r.modalPrice = r'.modalPrice

section Days

variable {rows rows' : List SeriesRow} {r : SeriesRow}

theorem standsFor_perm (h : rows.Perm rows') : r.StandsFor rows ↔ r.StandsFor rows' := by
  unfold SeriesRow.StandsFor
  simp only [h.mem_iff]

theorem mem_day {d : Date} : r ∈ rows.filter (fun r => r.arrivalDate = d) ↔ r ∈ rows ∧ r.arrivalDate = d := by
  rw [List.mem_filter, decide_eq_true_iff]

theorem mem_candidates_day {c : SeriesRow} : c ∈ candidates (rows.filter (fun r => r.arrivalDate = c.arrivalDate)) ↔
    c ∈ rows ∧ ∀ r' ∈ rows, r'.arrivalDate = c.arrivalDate → sourceRank c.source ≤ sourceRank r'.source := by
  rw [mem_candidates, mem_day, @eq_comm (Option Nat), List.min?_eq_some_iff]
  simp only [List.mem_map, mem_day, forall_exists_index, and_imp, and_true]
  constructor
  · rintro ⟨hc, -, hle⟩
    exact ⟨hc, fun r' hr' hd => hle _ r' hr' hd rfl⟩
  · rintro ⟨hc, hle⟩
    exact ⟨hc, ⟨c, ⟨hc, rfl⟩, rfl⟩, fun _ r' hr' hd hrank => hrank ▸ hle r' hr' hd⟩

theorem chosen_standsFor {c : SeriesRow} {d : Date} (h : chosen (rows.filter (fun r => r.arrivalDate = d)) = some c) :
    c ∈ rows ∧ c.arrivalDate = d ∧ c.StandsFor rows := by
  have hcand : ∀ c', c' ∈ candidates (rows.filter (fun r => r.arrivalDate = d)) → c'.arrivalDate = d :=
    fun c' hc' => (mem_day.1 (mem_candidates.1 hc').1).2
  unfold chosen at h
  rcases Option.or_eq_some_iff.1 h with hg | ⟨hg, hc⟩
  · have hmem := List.mem_of_find?_eq_some hg
    obtain rfl := hcand c hmem
    obtain ⟨hc, hle⟩ := mem_candidates_day.1 hmem
    exact ⟨hc, rfl, hle, Or.inl (by simpa using List.find?_some hg)⟩
  · have hmem := List.mem_of_head? hc
    obtain rfl := hcand c hmem
    obtain ⟨hc, hle⟩ := mem_candidates_day.1 hmem
    refine ⟨hc, rfl, hle, Or.inr (fun r' hr' hd hrank => ?_)⟩
    -- a row of the same rank is a candidate too, and none of them is `General`
    have hr : r' ∈ candidates (rows.filter (fun r => r.arrivalDate = c.arrivalDate)) := by
      rw [← hd]
      refine mem_candidates_day.2 ⟨hr', fun r'' hr'' hd'' => ?_⟩
      rw [hrank]
      exact hle r'' hr'' (hd''.trans hd)
    simpa using List.find?_eq_none.1 hg r' hr

theorem chosen_first (h : r.StandsFor (r :: rows)) :
    chosen ((r :: rows).filter (fun r' => r'.arrivalDate = r.arrivalDate)) = some r := by
  have hmem : r ∈ candidates ((r :: rows).filter (fun r' => r'.arrivalDate = r.arrivalDate)) :=
    mem_candidates_day.2 ⟨List.mem_cons_self, h.1⟩
  obtain ⟨l, hl⟩ : ∃ l, candidates ((r :: rows).filter (fun r' => r'.arrivalDate = r.arrivalDate)) = r :: l := by
    have hrank := (mem_candidates.1 hmem).2
    have hday := List.filter_cons_of_pos (a := r) (l := rows) (p := fun r' => r'.arrivalDate = r.arrivalDate) (by simp)
    rw [hday] at hrank ⊢
    unfold candidates
    exact ⟨_, List.filter_cons_of_pos (by simpa using hrank)⟩
  unfold chosen
  rw [hl, List.head?_cons]
  by_cases hg : r.isGeneral = true
  · rw [List.find?_cons_of_pos hg]
    rfl
  · have hnone : (r :: l).find? (·.isGeneral) = none := by
      refine List.find?_eq_none.2 (fun r' hr' => ?_)
      rw [← hl] at hr'
      obtain ⟨hr, hd⟩ := mem_day.1 (mem_candidates.1 hr').1
      have hle := (mem_candidates_day.1 (hd ▸ hr')).2 r List.mem_cons_self hd.symm
      have hrank := Nat.le_antisymm hle (h.1 r' hr hd)
      simpa using h.2.resolve_left hg r' hr hd hrank
    rw [hnone]
    rfl

theorem buildDailySeries_perm (hperm : rows'.Perm rows) (h : OnePriceADay rows) :
    buildDailySeries rows' = buildDailySeries rows := by
  have hdates : sortedDates (rows'.map (·.arrivalDate)) = sortedDates (rows.map (·.arrivalDate)) :=
    sortedDates_congr (fun d => (hperm.map _).mem_iff)
  unfold buildDailySeries
  rw [hdates]
  refine List.filterMap_congr (fun d hd => ?_)
  obtain ⟨c, hc⟩ := exists_chosen_day hd
  obtain ⟨c', hc'⟩ := exists_chosen_day (hdates.symm ▸ hd)
  obtain ⟨hmem, hdate, hstands⟩ := chosen_standsFor hc
  obtain ⟨hmem', hdate', hstands'⟩ := chosen_standsFor hc'
  have hprice : c'.modalPrice = c.modalPrice :=
    h c' (hperm.mem_iff.1 hmem') c hmem (hdate'.trans hdate.symm) ((standsFor_perm hperm).1 hstands') hstands
  rw [hc, hc', Option.map_some, Option.map_some, hprice]

end Days

/-- The price of the series at the day of the row that comes first, if that row stands for it. -/
theorem buildDailySeries_first {r : SeriesRow} {rows : List SeriesRow} (h : r.StandsFor (r :: rows)) :
    ((buildDailySeries (r :: rows)).filter (fun p => p.1 = r.arrivalDate)).map (·.2) = [r.modalPrice] := by
  rw [buildDailySeries_at, chosen_first h]
  rfl

/-- **Same data, same price**: the series of every order of the rows is one series exactly when any two rows that stand for
one day have one price. -/
theorem buildDailySeries_perm_iff (rows : List Price) :
    (∀ rows' : List Price, rows'.Perm rows →
        buildDailySeries (rows'.map Price.seriesRow) = buildDailySeries (rows.map Price.seriesRow))
      ↔ OnePriceADay (rows.map Price.seriesRow) := by
  constructor
  · intro h r hr r' hr' hd hstands hstands'
    have hfirst : ∀ p ∈ rows, p.seriesRow.StandsFor (rows.map Price.seriesRow) →
        ((buildDailySeries (rows.map Price.seriesRow)).filter (fun q => q.1 = p.arrivalDate)).map (·.2)
          = [p.modalPrice] := by
      intro p hp hstandsp
      have hperm : (p :: rows.erase p).Perm rows := (List.perm_cons_erase hp).symm
      rw [← h _ hperm, List.map_cons]
      exact buildDailySeries_first ((standsFor_perm (hperm.map Price.seriesRow)).2 hstandsp)
    obtain ⟨p, hp, rfl⟩ := List.mem_map.1 hr
    obtain ⟨p', hp', rfl⟩ := List.mem_map.1 hr'
    have hdate : p.arrivalDate = p'.arrivalDate := hd
    have hprice := hfirst p hp hstands
    rw [hdate, hfirst p' hp' hstands'] at hprice
    exact (List.singleton_inj.1 hprice).symm
  · intro h rows' hperm
    exact buildDailySeries_perm (hperm.map Price.seriesRow) h

/-- Two grades of one day, of one variety and source. -/
def twoGrades : List Price :=
  [⟨1, 1, 1, 20000, none, none, 2100, none, "General", "FAQ", "data_gov_in"⟩,
    ⟨2, 1, 1, 20000, none, none, 1800, none, "General", "Local", "data_gov_in"⟩]

/-- The key of `prices` takes the two grades, and the one that comes first is the day's price. -/
theorem buildDailySeries_twoGrades : (twoGrades.map Price.uqPriceRecord).Nodup ∧ twoGrades.reverse.Perm twoGrades ∧
    buildDailySeries (twoGrades.map Price.seriesRow) = [(20000, 2100)] ∧
      buildDailySeries (twoGrades.reverse.map Price.seriesRow) = [(20000, 1800)] := by
  refine ⟨by decide, List.reverse_perm _, ?_, ?_⟩
  · decide +kernel
  · decide +kernel

end Krishi
