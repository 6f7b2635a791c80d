import KrishiBazaar.ForecastRuns
/-!
# Pages — which pairs a run finds

`_distinct_pairs` reads the prices of the window in pages of 500, each with a request of its own, and no request names
an order.  So a page is 500 of the rows and the next page any others or the same again (`mem_pairPages`).  A pair is sure
to be found just if fewer than 500 rows of the window belong to other pairs: its rows then reach the first page, and
otherwise they may miss every page (`distinctPairs_complete_iff`).
-/
namespace Krishi

open Lib

/-- The prices that `_distinct_pairs` asks for. -/
def windowRows (today : Date) (db : DB) : List Price :=
  db.prices.rows.filter (fun p => today - forecastHistoryDays ≤ p.arrivalDate)

def Price.pair (p : Price) : Pair := (p.marketId, p.commodityId)

/-- The page at an offset, of a request answered in the order. -/
def pageAt (o : RowOrder) (rows : List Price) (offset : Nat) : List Price := ((o.order rows).drop offset).take pageSize

section

variable {o : RowOrder} {rows : List Price} {r : Price} {offset : Nat}

theorem mem_of_mem_pageAt (h : r ∈ pageAt o rows offset) : r ∈ rows :=
  o.mem_order.1 (List.mem_of_mem_drop (List.mem_of_mem_take h))

theorem length_pageAt : (pageAt o rows offset).length = min pageSize (rows.length - offset) := by
  unfold pageAt
  rw [List.length_take, List.length_drop, (o.perm rows).length_eq]

theorem pageAt_eq_nil (h : rows.length ≤ offset) : pageAt o rows offset = [] := by
  rw [← List.length_eq_zero_iff, length_pageAt, Nat.sub_eq_zero_of_le h, Nat.min_zero]

end

section Calls

variable {x : Conditions} (hfails : ∀ n, x.fails n = false)

include hfails

theorem run_windowRows (b : Board) :
    (onStore (.select prices (fun p => x.today - forecastHistoryDays ≤ p.arrivalDate))).run x.exec b
      = (.ok ((x.order b.calls).order (windowRows x.today b.db)), { b with calls := b.calls + 1 }) := by
  unfold onStore
  rw [Prog.run_perform, x.exec_db, hfails, if_neg Bool.false_ne_true]
  rfl

/-- **What the pages hold**: with the pages from the offset on, each in the order of its own request. -/
theorem mem_pairPages : ∀ (fuel offset : Nat) (pairs : List Pair) (b : Board),
    ((windowRows x.today b.db).length - offset) / pageSize < fuel →
      ∃ found n, (pairPages (x.today - forecastHistoryDays) fuel offset pairs).run x.exec b
          = (.ok found, { b with calls := n }) ∧
        ∀ p, p ∈ found ↔ p ∈ pairs ∨ ∃ i, ∃ r ∈ pageAt (x.order (b.calls + i)) (windowRows x.today b.db)
          (offset + i * pageSize), r.pair = p
  | 0, _, _, _, h => absurd h (Nat.not_lt_zero _)
  | fuel + 1, offset, pairs, b, h => by
    have hpage : ∀ p, p ∈ (pageAt (x.order b.calls) (windowRows x.today b.db) offset).map Price.pair ↔
        ∃ r ∈ pageAt (x.order (b.calls + 0)) (windowRows x.today b.db) (offset + 0 * pageSize), r.pair = p := by
      intro p
      rw [Nat.zero_mul, Nat.add_zero, Nat.add_zero, List.mem_map]
    have hstep : (pairPages (x.today - forecastHistoryDays) (fuel + 1) offset pairs).run x.exec b
        = Prog.run x.exec (if (pageAt (x.order b.calls) (windowRows x.today b.db) offset).length < pageSize
            then pure (pairs ++ (pageAt (x.order b.calls) (windowRows x.today b.db) offset).map Price.pair)
            else pairPages (x.today - forecastHistoryDays) fuel (offset + pageSize)
              (pairs ++ (pageAt (x.order b.calls) (windowRows x.today b.db) offset).map Price.pair))
          { b with calls := b.calls + 1 } := by
      rw [pairPages, Prog.run_bind, run_windowRows hfails, Prog.onOk_ok]
      rfl
    rw [hstep]
    split
    · -- a short page is the last: the pages after it would be empty
      rename_i hshort
      rw [length_pageAt] at hshort
      refine ⟨_, _, rfl, fun p => ?_⟩
      rw [List.mem_append, hpage]
      refine or_congr_right ⟨fun hp => ⟨0, hp⟩, ?_⟩
      rintro ⟨i, r, hr, hp⟩
      rcases i with _ | i
      · exact ⟨r, hr, hp⟩
      · have hend : (windowRows x.today b.db).length ≤ offset + (i + 1) * pageSize := by
          rw [Nat.succ_mul]
          omega
        rw [pageAt_eq_nil hend] at hr
        simp at hr
    · rename_i hfull
      rw [length_pageAt] at hfull
      have hfuel : ((windowRows x.today b.db).length - (offset + pageSize)) / pageSize < fuel := by
        unfold pageSize at *
        omega
      obtain ⟨found, n, hrun, hmem⟩ := mem_pairPages fuel (offset + pageSize)
        (pairs ++ (pageAt (x.order b.calls) (windowRows x.today b.db) offset).map Price.pair)
        { b with calls := b.calls + 1 } hfuel
      refine ⟨found, n, hrun, fun p => ?_⟩
      have hnext : ∀ i, pageAt (x.order (b.calls + 1 + i)) (windowRows x.today b.db) (offset + pageSize + i * pageSize)
          = pageAt (x.order (b.calls + (i + 1))) (windowRows x.today b.db) (offset + (i + 1) * pageSize) := by
        intro i
        rw [Nat.succ_mul, Nat.add_assoc b.calls, Nat.add_comm 1 i, Nat.add_assoc offset, Nat.add_comm pageSize]
      rw [hmem, List.mem_append, hpage, or_assoc]
      simp only [hnext]
      exact or_congr_right (Nat.or_exists_add_one (p := fun i => ∃ r ∈ pageAt (x.order (b.calls + i))
        (windowRows x.today b.db) (offset + i * pageSize), r.pair = p))

/-- **A run without failing calls finds the pairs on its pages.** -/
theorem mem_distinctPairs (fuel : Nat) (b : Board) (hfuel : (windowRows x.today b.db).length / pageSize < fuel) :
    ∃ pairs n, (distinctPairs fuel).run x.exec b = (.ok pairs, { b with calls := n }) ∧ pairs.Nodup ∧
      ∀ p, p ∈ pairs ↔
        ∃ i, ∃ r ∈ pageAt (x.order (b.calls + i)) (windowRows x.today b.db) (i * pageSize), r.pair = p := by
  obtain ⟨found, n, hrun, hmem⟩ := mem_pairPages hfails fuel 0 [] b hfuel
  refine ⟨(x.order n).order found.dedup, n + 1, ?_, ?_, fun p => ?_⟩
  · rw [run_distinctPairs_eq, Prog.run_bind, hrun]
    rfl
  · exact ((x.order n).perm _).nodup_iff.2 (List.nodup_dedup found)
  · rw [(x.order n).mem_order, List.mem_dedup, hmem]
    simp

end Calls

/-- **The pages hold every pair of the window, in whatever orders they are answered, just if no pair has 500 rows of
others beside it.** -/
theorem distinctPairs_complete_iff (today : Date) (clock : Nat → Time) (b : Board) :
    (∀ (order : Nat → RowOrder) (fuel : Nat), (windowRows today b.db).length / pageSize < fuel → ∃ pairs n,
      (distinctPairs fuel).run (Conditions.exec ⟨today, clock, order, fun _ => false⟩) b
        = (.ok pairs, { b with calls := n }) ∧
      pairs.Nodup ∧ ∀ p, p ∈ pairs ↔ ∃ r ∈ windowRows today b.db, r.pair = p) ↔
    ∀ r ∈ windowRows today b.db, ((windowRows today b.db).filter (fun r' => r'.pair ≠ r.pair)).length < pageSize := by
  constructor
  · intro hall r hr
    by_contra hmany
    rw [Nat.not_lt] at hmany
    -- every page shows rows of other pairs only
    choose o ho using fun offset : Nat => RowOrder.exists_page offset hmany
    let x : Conditions := ⟨today, clock, fun n => o ((n - b.calls) * pageSize), fun _ => false⟩
    obtain ⟨pairs, n, hrun, -, hmem⟩ := hall x.order ((windowRows today b.db).length / pageSize + 1) (Nat.lt_succ_self _)
    obtain ⟨pairs', n', hrun', -, hmem'⟩ := mem_distinctPairs (x := x) (fun _ => rfl)
      ((windowRows today b.db).length / pageSize + 1) b (Nat.lt_succ_self _)
    obtain rfl : pairs = pairs' := Except.ok.inj (Prod.mk.inj (hrun.symm.trans hrun')).1
    obtain ⟨i, r', hr', hp⟩ := (hmem' r.pair).1 ((hmem r.pair).2 ⟨r, hr, rfl⟩)
    have hother := ho ((b.calls + i - b.calls) * pageSize) r' (by simpa [pageAt, x] using hr')
    simp [hp] at hother
  · intro hfew order fuel hfuel
    obtain ⟨pairs, n, hrun, hnd, hmem⟩ := mem_distinctPairs (x := ⟨today, clock, order, fun _ => false⟩) (fun _ => rfl)
      fuel b hfuel
    refine ⟨pairs, n, hrun, hnd, fun p => ?_⟩
    rw [hmem]
    constructor
    · rintro ⟨i, r, hr, rfl⟩
      exact ⟨r, mem_of_mem_pageAt hr, rfl⟩
    · rintro ⟨r, hr, rfl⟩
      obtain ⟨r', hr', hp⟩ := (order b.calls).exists_mem_take (hfew r hr) hr (by simp)
      exact ⟨0, r', by simpa [pageAt] using hr', by simpa using hp⟩

/-- Onion prices, 60 days of each mandi before the next. -/
def mandiPrices (n : Nat) : Table Price.id noCheck :=
  ⟨(List.range n).map (fun i : Nat => ⟨i, i / 60, 1, ((i % 60 : Nat) : Int), none, none, 2000, none, "General", "General",
      "data_gov_in"⟩),
    by simpa [Function.comp_def] using List.nodup_range, fun _ _ => rfl⟩

theorem nodup_mandiPrices (n : Nat) : ((mandiPrices n).rows.map Price.uqPriceRecord).Nodup := by
  unfold mandiPrices
  rw [List.map_map]
  refine List.Nodup.map (fun (i j : Nat) h => ?_) List.nodup_range
  have hmarket : i / 60 = j / 60 := congrArg (fun k => k.1) h
  have hday : ((i % 60 : Nat) : Int) = ((j % 60 : Nat) : Int) := congrArg (fun k => k.2.2.1) h
  omega

/-- The prices of 60 days in nine mandis, and of one day in a tenth. -/
def tenMandis : DB :=
  { DB.empty with
    markets := ⟨(List.range 10).map (fun i => ⟨i, "Mandi", "Nashik", none, 20, 74, true⟩),
      by simpa [Function.comp_def] using List.nodup_range, fun _ _ => rfl⟩
    commodities := onionsOnly
    prices := mandiPrices 541 }

/-- **The tenth mandi is not found** if the second page begins with the rows of the first: no forecast is made for it. -/
theorem tenth_mandi_missed :
    let x : Conditions := ⟨60, fun n => n, fun n => ⟨fun l => l.rotate (41 * n), fun l => l.rotate_perm (41 * n)⟩,
      fun _ => false⟩
    let run := (distinctPairs 2).run x.exec ⟨tenMandis, 0, []⟩
    (tenMandis.prices.rows.map Price.uqPriceRecord).Nodup ∧ (∃ r ∈ windowRows 60 tenMandis, r.pair = (9, 1)) ∧
      run.1 = .ok [(2, 1), (3, 1), (4, 1), (5, 1), (6, 1), (7, 1), (8, 1), (0, 1), (1, 1)] :=
  ⟨nodup_mandiPrices 541, by decide +kernel, by decide +kernel⟩

end Krishi
