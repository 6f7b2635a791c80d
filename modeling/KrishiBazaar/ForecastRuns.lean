import KrishiBazaar.Forecasting
import Mathlib.Data.Int.ConditionallyCompleteOrder
/-!
# ForecastRuns — what a run of the engine leaves in the forecasts table

A run reads the tables until it has its pairs, and then handles them one after the other.  Of each pair it upserts nothing,
one row without a prediction, or a week of predictions, stamped one after the other (`Batch`).  As it handles no pair
twice, nothing it wrote is written over in the run, and the table is what it was but for the rows written (`Written`).
-/
namespace Krishi

open Lib

/-! ## The rows of a pair -/

/-- Seven predictions for the days after `start`, stamped by calls one after the other. -/
structure Week (clock : Nat → Time) (pair : Pair) (start : Date) (rows : List Forecast) : Prop where
  keys : rows.map Forecast.key = (List.range 7).map (fun i : Nat => (pair.1, pair.2, start + (i + 1)))
  predicted : ∀ r ∈ rows, r.status = .ok ∧ r.predictedPrice ≠ none
  stamps : ∃ n, rows.map (·.generatedAt) = (List.range 7).map (fun i => clock (n + i))

namespace Week

variable {clock : Nat → Time} {pair : Pair} {start : Date} {rows : List Forecast} {f : Forecast}

theorem length (h : Week clock pair start rows) : rows.length = 7 := by
  have hlen := congrArg List.length h.keys
  simpa using hlen

theorem key_get (h : Week clock pair start rows) {i : Nat} (hi : i < rows.length) :
    rows[i].key = (pair.1, pair.2, start + (i + 1)) := by
  have hkey : (rows.map Forecast.key)[i]? = some rows[i].key := by
    rw [List.getElem?_map, List.getElem?_eq_getElem hi, Option.map_some]
  rw [h.keys, List.getElem?_map, List.getElem?_range (h.length ▸ hi), Option.map_some] at hkey
  exact (Option.some.inj hkey).symm

theorem date_get (h : Week clock pair start rows) {i : Nat} (hi : i < rows.length) :
    rows[i].forecastDate = start + (i + 1) := (Prod.mk.inj (Prod.mk.inj (h.key_get hi)).2).2

theorem dates_lt (h : Week clock pair start rows) : rows.Pairwise (fun a b => a.forecastDate < b.forecastDate) := by
  refine List.pairwise_iff_getElem.2 (fun i j hi hj hij => ?_)
  rw [h.date_get hi, h.date_get hj]
  exact Int.add_lt_add_left (by omega) start

/-- On a clock that goes forward the later dates have the newer stamps. -/
theorem stamps_lt (h : Week clock pair start rows) (hclock : StrictMono clock) :
    rows.Pairwise (fun a b => a.generatedAt < b.generatedAt) := by
  obtain ⟨n, hstamps⟩ := h.stamps
  have hmap : (rows.map (·.generatedAt)).Pairwise (· < ·) := by
    rw [hstamps, List.pairwise_map]
    exact List.pairwise_lt_range.imp (fun hlt => hclock (Nat.add_lt_add_left hlt n))
  exact List.pairwise_map.1 hmap

theorem mem_take (h : Week clock pair start rows) {n : Nat} :
    f ∈ rows.take n ↔ f ∈ rows ∧ f.forecastDate ≤ start + n := by
  constructor
  · intro hf
    obtain ⟨i, hi, rfl⟩ := List.mem_take_iff_getElem.1 hf
    refine ⟨List.getElem_mem _, ?_⟩
    rw [h.date_get]
    exact Int.add_le_add_left (by omega) start
  · rintro ⟨hf, hle⟩
    obtain ⟨i, hi, rfl⟩ := List.getElem_of_mem hf
    rw [h.date_get] at hle
    have hin : (i : Int) + 1 ≤ n := Int.le_of_add_le_add_left hle
    exact List.mem_take_iff_getElem.2 ⟨i, by omega, rfl⟩

theorem lt_date (h : Week clock pair start rows) (hf : f ∈ rows) : start < f.forecastDate := by
  obtain ⟨i, hi, rfl⟩ := List.getElem_of_mem hf
  rw [h.date_get]
  have hpos : (0 : Int) < i + 1 := by omega
  exact Int.lt_add_of_pos_right start hpos

theorem exists_key (h : Week clock pair start rows) {date : Date} (hlt : start < date) (hle : date ≤ start + 7) :
    ∃ r ∈ rows, r.key = (pair.1, pair.2, date) := by
  obtain ⟨i, hi⟩ : ∃ i : Nat, date = start + ((i : Int) + 1) := by
    refine ⟨(date - start - 1).toNat, ?_⟩
    have hpos : 0 ≤ date - start - 1 := by
      unfold Date at *
      omega
    rw [Int.toNat_of_nonneg hpos]
    unfold Date at *
    omega
  subst hi
  have hi : (i : Int) + 1 ≤ 7 := Int.le_of_add_le_add_left hle
  have hlen : i < rows.length := by
    rw [h.length]
    omega
  exact ⟨rows[i], List.getElem_mem hlen, h.key_get hlen⟩

end Week

/-- What a run may write for a pair: a week that begins today or, if that is later, on the day of the last price. -/
def Batch (db : DB) (x : Conditions) (pair : Pair) (rows : List Forecast) : Prop :=
  (∃ r, rows = [r] ∧ r.pair = pair ∧ r.status = .insufficientData ∧ r.predictedPrice = none) ∨
    ∃ start, (start = x.today ∨ x.today < start ∧ ∃ p ∈ db.prices.rows, p.marketId = pair.1 ∧ p.commodityId = pair.2 ∧
      p.arrivalDate = start) ∧ Week x.clock pair start rows

theorem length_tier (cfg : ForecastConfig) (prices : List ℚ) : (tier cfg prices).1.length = 7 := by
  unfold tier
  split
  · simp [blendPredictions, horizonDays]
  · simp [MovingAverageModel.predict, horizonDays]

/-- The drafts of a pair, stamped from the `n`-th call on. -/
def stamped (x : Conditions) (n : Nat) (drafts : List (Time → Forecast)) : List Forecast :=
  drafts.mapIdx (fun i draft => draft (x.clock (n + i)))

theorem run_stampRows (x : Conditions) : ∀ (drafts : List (Time → Forecast)) (b : Board),
    (stampRows drafts).run x.exec b = (.ok (stamped x b.calls drafts), { b with calls := b.calls + drafts.length })
  | [], b => rfl
  | draft :: drafts, b => by
    have htail := run_stampRows x drafts { b with calls := b.calls + 1 }
    show Prog.run x.exec (stampRows drafts >>= fun rows => pure (draft (x.clock b.calls) :: rows))
      { b with calls := b.calls + 1 } = _
    have hcalls : b.calls + 1 + drafts.length = b.calls + (draft :: drafts).length := by
      simp only [List.length_cons]
      omega
    have hrows : draft (x.clock b.calls) :: stamped x (b.calls + 1) drafts = stamped x b.calls (draft :: drafts) := by
      unfold stamped
      rw [List.mapIdx_cons]
      congr 1
      simp [Nat.add_assoc, Nat.add_comm 1]
    rw [Prog.run_bind, htail, Prog.onOk_ok, Prog.run_pure, hrows, hcalls]

theorem stamped_week {x : Conditions} {pair : Pair} {start : Date} {n k : Nat} {method : String} {confidence : Confidence}
    {preds : List Prediction} {f : Nat → Prediction → Prediction} (hlen : preds.length = 7) :
    Week x.clock pair start (stamped x n (preds.mapIdx (fun i p =>
      predictedRow pair.1 pair.2 start k method confidence i (f i p)))) where
  keys := by
    refine List.ext_getElem (by simp [stamped, hlen]) (fun i h h' => ?_)
    simp [stamped, predictedRow, Forecast.key]
  predicted := by
    intro r hr
    obtain ⟨i, hi, rfl⟩ := List.getElem_of_mem hr
    simp [stamped, predictedRow]
  stamps := by
    refine ⟨n, List.ext_getElem (by simp [stamped, hlen]) (fun i h h' => ?_)⟩
    simp [stamped, predictedRow]

/-- **The stamped drafts of a series of the pair are a batch of the pair.** -/
theorem stamped_batch {cfg : ForecastConfig} {x : Conditions} {db : DB} {pair : Pair} {series : DailySeries}
    {sanity : Option (ℚ × ℚ)} {n : Nat}
    (hseries : ∀ d ∈ series.map (·.1), ∃ p ∈ db.prices.rows, p.marketId = pair.1 ∧ p.commodityId = pair.2 ∧
      p.arrivalDate = d)
    (hne : stamped x n (forecastDrafts cfg pair.1 pair.2 series sanity x.today) ≠ []) :
    Batch db x pair (stamped x n (forecastDrafts cfg pair.1 pair.2 series sanity x.today)) := by
  unfold forecastDrafts at hne ⊢
  cases hlast : series.getLast? with
  | none =>
    rw [hlast] at hne
    exact absurd rfl hne
  | some last =>
    obtain ⟨lastDate, price⟩ := last
    dsimp only
    split
    · exact Or.inl ⟨_, rfl, rfl, rfl, rfl⟩
    · refine Or.inr ⟨max lastDate x.today, ?_, ?_⟩
      · rcases le_or_gt lastDate x.today with hle | hlt
        · exact Or.inl (max_eq_right hle)
        · refine Or.inr ⟨lt_max_of_lt_left hlt, ?_⟩
          rw [max_eq_left hlt.le]
          exact hseries lastDate (List.mem_map.2 ⟨_, List.mem_of_getLast? hlast, rfl⟩)
      · exact stamped_week (length_tier cfg _)

/-! ## One pair -/

section Pair

variable {cfg : ForecastConfig} {x : Conditions} {b : Board} {pair : Pair}

/-- The rows of the pair in the window by their dates, those of one date as the store has them. -/
def pairHistory (o : RowOrder) (today : Date) (prices : Table Price.id noCheck) (pair : Pair) : List SeriesRow :=
  (o.page (fun a b => a.arrivalDate ≤ b.arrivalDate) none (prices.rows.filter (fun p => p.marketId = pair.1 ∧
    p.commodityId = pair.2 ∧ today - forecastHistoryDays ≤ p.arrivalDate))).map (·.seriesRow)

theorem mem_pairHistory {o : RowOrder} {today : Date} {prices : Table Price.id noCheck} {row : SeriesRow}
    (h : row ∈ pairHistory o today prices pair) :
    ∃ p ∈ prices.rows, p.marketId = pair.1 ∧ p.commodityId = pair.2 ∧ p.arrivalDate = row.arrivalDate := by
  obtain ⟨p, hp, rfl⟩ := List.mem_map.1 h
  obtain ⟨hmem, hsel⟩ := List.mem_filter.1 (o.mem_page.1 hp)
  obtain ⟨hm, hc, -⟩ := decide_eq_true_iff.1 hsel
  exact ⟨p, hmem, hm, hc, rfl⟩

theorem run_fetchHistory (x : Conditions) (b : Board) (pair : Pair) : (fetchHistory pair).run x.exec b =
    if x.fails b.calls then (.error (.api .unavailable), { b with calls := b.calls + 1 })
    else (.ok (pairHistory (x.order b.calls) x.today b.db.prices pair), { b with calls := b.calls + 1 }) := by
  have hstart : (fetchHistory pair).run x.exec b = x.exec (.db (.view prices (fun p => p.marketId = pair.1 ∧
      p.commodityId = pair.2 ∧ x.today - forecastHistoryDays ≤ p.arrivalDate)
      (fun a b => a.arrivalDate ≤ b.arrivalDate) none (fun _ p => p.seriesRow))) b := Prog.run_perform _ _ _
  rw [hstart, x.exec_db]
  rfl

/-- What is fetched is the pair's history. -/
theorem eq_pairHistory {history : List SeriesRow} (h : ((fetchHistory pair).run x.exec b).1 = .ok history) :
    history = pairHistory (x.order b.calls) x.today b.db.prices pair := by
  rw [run_fetchHistory] at h
  split at h
  · cases h
  · exact (Except.ok.inj h).symm

theorem run_upsert (x : Conditions) (b : Board) (rows : List Forecast) :
    (∃ e, (Prog.perform (.upsert rows) : Forecasting Unit).run x.exec b = (.error e, { b with calls := b.calls + 1 })) ∨
    ∃ db, forecasts.upsert? b.db rows = .ok db ∧ (Prog.perform (.upsert rows) : Forecasting Unit).run x.exec b
      = (.ok (), ⟨db, b.calls + 1, b.written ++ rows⟩) := by
  rw [Prog.run_perform, x.exec_upsert]
  by_cases hf : x.fails b.calls = true
  · rw [if_pos hf]
    exact Or.inl ⟨_, rfl⟩
  · rw [if_neg hf]
    cases forecasts.upsert? b.db rows with
    | ok db => exact Or.inr ⟨db, rfl, rfl⟩
    | error e => exact Or.inl ⟨_, rfl⟩

/-- What handling a pair did: nothing, or one upsert of a batch of the pair. -/
def Handled (x : Conditions) (b : Board) (pair : Pair) (b' : Board) : Prop :=
  (b'.db = b.db ∧ b'.written = b.written) ∨
    ∃ rows, Batch b.db x pair rows ∧ b'.written = b.written ++ rows ∧ forecasts.upsert? b.db rows = .ok b'.db

/-- The calls made for a pair, before a failure is caught. -/
def pairCalls (cfg : ForecastConfig) (bands : Uuid → Option (ℚ × ℚ)) (s : RunSummary) (pair : Pair) :
    Forecasting RunSummary := do
  let history ← fetchHistory pair
  let rows ← makeForecastRows cfg pair.1 pair.2 (buildDailySeries history) (bands pair.2) none
  if rows = [] then pure s.skip else do
    let _ ← .perform (.upsert rows)
    pure (s.count rows)

/-- **What the calls for a pair come to**: one of them fails and nothing is written, or the rows of the history that was
fetched are upserted, if there are any. -/
theorem pairCalls_cases (cfg : ForecastConfig) (x : Conditions) (b : Board) (pair : Pair)
    (bands : Uuid → Option (ℚ × ℚ)) :
    (∃ e n, ∀ s, (pairCalls cfg bands s pair).run x.exec b = (.error e, { b with calls := n })) ∨
    ∃ history rows, ((fetchHistory pair).run x.exec b).1 = .ok history ∧
      rows = stamped x (b.calls + 1)
        (forecastDrafts cfg pair.1 pair.2 (buildDailySeries history) (bands pair.2) x.today) ∧
      ((rows = [] ∧ ∃ n, ∀ s, (pairCalls cfg bands s pair).run x.exec b = (.ok s.skip, { b with calls := n })) ∨
        (rows ≠ [] ∧ ∃ db n, forecasts.upsert? b.db rows = .ok db ∧
          ∀ s, (pairCalls cfg bands s pair).run x.exec b = (.ok (s.count rows), ⟨db, n, b.written ++ rows⟩))) := by
  obtain ⟨r, hfetch⟩ : ∃ r, (fetchHistory pair).run x.exec b = (r, { b with calls := b.calls + 1 }) := by
    rw [run_fetchHistory]
    split
    · exact ⟨_, rfl⟩
    · exact ⟨_, rfl⟩
  have hcalls : ∀ s, (pairCalls cfg bands s pair).run x.exec b = Prog.onOk (r, { b with calls := b.calls + 1 })
      (fun history => Prog.run x.exec
        (makeForecastRows cfg pair.1 pair.2 (buildDailySeries history) (bands pair.2) none >>= fun rows =>
          if rows = [] then pure s.skip else (.perform (.upsert rows) >>= fun _ => pure (s.count rows)))) := by
    intro s
    unfold pairCalls
    rw [Prog.run_bind, hfetch]
  cases r with
  | error e => exact Or.inl ⟨e, b.calls + 1, hcalls⟩
  | ok history =>
    generalize hd : forecastDrafts cfg pair.1 pair.2 (buildDailySeries history) (bands pair.2) x.today = drafts
    have hmake : (makeForecastRows cfg pair.1 pair.2 (buildDailySeries history) (bands pair.2) none).run x.exec
        { b with calls := b.calls + 1 } = (.ok (stamped x (b.calls + 1) drafts),
          { b with calls := b.calls + 1 + drafts.length }) := hd ▸ run_stampRows x _ { b with calls := b.calls + 1 }
    have hrows := fun s => (hcalls s).trans (Prog.onOk_ok _ _ _)
    simp only [Prog.run_bind, hmake, Prog.onOk_ok, Prog.run_ite] at hrows
    have hok : ((fetchHistory pair).run x.exec b).1 = .ok history := congrArg Prod.fst hfetch
    have hmade : stamped x (b.calls + 1) drafts = stamped x (b.calls + 1)
        (forecastDrafts cfg pair.1 pair.2 (buildDailySeries history) (bands pair.2) x.today) := by rw [hd]
    by_cases hnil : stamped x (b.calls + 1) drafts = []
    · exact Or.inr ⟨history, _, hok, hmade, Or.inl ⟨hnil, _, fun s => (hrows s).trans (if_pos hnil)⟩⟩
    · simp only [if_neg hnil] at hrows
      rcases run_upsert x ⟨b.db, b.calls + 1 + drafts.length, b.written⟩ (stamped x (b.calls + 1) drafts)
        with ⟨e, hup⟩ | ⟨db, hdb, hup⟩
      · simp only [hup, Prog.onOk_error] at hrows
        exact Or.inl ⟨e, _, hrows⟩
      · simp only [hup, Prog.onOk_ok] at hrows
        exact Or.inr ⟨history, _, hok, hmade, Or.inr ⟨hnil, db, _, hdb, hrows⟩⟩

theorem run_pairCalls (bands : Uuid → Option (ℚ × ℚ)) (s : RunSummary) :
    Handled x b pair ((pairCalls cfg bands s pair).run x.exec b).2 := by
  rcases pairCalls_cases cfg x b pair bands with ⟨e, n, hrun⟩ | ⟨history, rows, hfetch, hrows, hcase⟩
  · rw [hrun]
    exact Or.inl ⟨rfl, rfl⟩
  · rcases hcase with ⟨-, n, hrun⟩ | ⟨hne, db, n, hup, hrun⟩
    · rw [hrun]
      exact Or.inl ⟨rfl, rfl⟩
    · have hseries : ∀ d ∈ (buildDailySeries history).map (·.1), ∃ p ∈ b.db.prices.rows, p.marketId = pair.1 ∧
          p.commodityId = pair.2 ∧ p.arrivalDate = d := by
        intro d hd
        rw [buildDailySeries_dates, mem_sortedDates] at hd
        obtain ⟨row, hrow, rfl⟩ := List.mem_map.1 hd
        exact mem_pairHistory (eq_pairHistory hfetch ▸ hrow)
      rw [hrun]
      rw [hrows] at hne
      exact Or.inr ⟨rows, hrows ▸ stamped_batch hseries hne, rfl, hup⟩

/-- **A pair is handled whatever fails, and never ends the run.** -/
theorem run_forecastPair (bands : Uuid → Option (ℚ × ℚ)) (s : RunSummary) (b : Board) (pair : Pair) :
    ∃ s' b', (forecastPair cfg bands s pair).run x.exec b = (.ok s', b') ∧ Handled x b pair b' := by
  have hcalls : Handled x b pair ((pairCalls cfg bands s pair).run x.exec b).2 := run_pairCalls bands s
  show ∃ s' b', Prog.run x.exec (Prog.tryCatch (pairCalls cfg bands s pair) (fun _ => pure s.skip)) b = _ ∧ _
  rw [Prog.run_tryCatch]
  rcases hr : (pairCalls cfg bands s pair).run x.exec b with ⟨_ | s', b'⟩
  · rw [hr] at hcalls
    exact ⟨s.skip, b', rfl, hcalls⟩
  · rw [hr] at hcalls
    exact ⟨s', b', rfl, hcalls⟩

end Pair

/-! ## A whole run -/

/-- What a run started on `db` has done once the pairs `done` are handled. -/
structure Written (db : DB) (x : Conditions) (done : List Pair) (b : Board) : Prop where
  frame : b.db = { db with forecasts := b.db.forecasts }
  pairs : ∀ r ∈ b.written, r.pair ∈ done
  nodup : (b.written.map Forecast.key).Nodup
  row : ∀ k, b.db.forecasts.get? k = (b.written.find? (fun r => r.key = k)).or (db.forecasts.get? k)
  batch : ∀ p, b.written.filter (fun r => r.pair = p) = [] ∨
    Batch db x p (b.written.filter (fun r => r.pair = p))

theorem pair_of_keys {pair : Pair} {start : Date} {rows : List Forecast}
    (hkeys : rows.map Forecast.key = (List.range 7).map (fun i : Nat => (pair.1, pair.2, start + (i + 1)))) :
    ∀ r ∈ rows, r.pair = pair := by
  intro r hr
  have hkey := List.mem_map_of_mem (f := Forecast.key) hr
  rw [hkeys] at hkey
  obtain ⟨i, -, hi⟩ := List.mem_map.1 hkey
  obtain ⟨hm, hc⟩ := Prod.mk.inj hi
  exact Prod.ext hm.symm (Prod.mk.inj hc).1.symm

theorem Batch.pair {db : DB} {x : Conditions} {pair : Pair} {rows : List Forecast} (h : Batch db x pair rows) :
    ∀ r ∈ rows, r.pair = pair := by
  rcases h with ⟨r', rfl, hpair, -, -⟩ | ⟨start, -, hweek⟩
  · intro r hr
    rwa [List.mem_singleton.1 hr]
  · exact pair_of_keys hweek.keys

theorem Forecast.pair_eq_of_key {r r' : Forecast} (h : r.key = r'.key) : r.pair = r'.pair := by
  obtain ⟨hm, hc⟩ := Prod.mk.inj h
  exact Prod.ext hm (Prod.mk.inj hc).1

namespace Written

variable {db : DB} {x : Conditions} {done : List Pair} {b : Board}

theorem start (db : DB) (x : Conditions) (calls : Nat) : Written db x [] ⟨db, calls, []⟩ where
  frame := rfl
  pairs := by simp
  nodup := by simp
  row := fun k => rfl
  batch := fun p => Or.inl rfl

theorem same {b' : Board} (h : Written db x done b) (pair : Pair) (hdb : b'.db = b.db) (hw : b'.written = b.written) :
    Written db x (pair :: done) b' := by
  refine ⟨?_, ?_, ?_, ?_, ?_⟩
  · rw [hdb]
    exact h.frame
  · rw [hw]
    exact fun r hr => List.mem_cons_of_mem _ (h.pairs r hr)
  · rw [hw]
    exact h.nodup
  · rw [hw, hdb]
    exact h.row
  · rw [hw]
    exact h.batch

/-- The rows of a pair not handled before have keys that none of the others has. -/
theorem keys_ne {pair : Pair} {rows : List Forecast} (h : Written db x done b) (hnew : pair ∉ done)
    (hbatch : Batch db x pair rows) : ∀ r ∈ b.written, ∀ r' ∈ rows, r.key ≠ r'.key := by
  intro r hr r' hr' he
  have hp : r.pair = pair := (Forecast.pair_eq_of_key he).trans (hbatch.pair r' hr')
  exact hnew (hp ▸ h.pairs r hr)

theorem upserted {b' : Board} {pair : Pair} {rows : List Forecast} (h : Written db x done b) (hnew : pair ∉ done)
    (hbatch : Batch db x pair rows) (hw : b'.written = b.written ++ rows)
    (hup : forecasts.upsert? b.db rows = .ok b'.db) : Written db x (pair :: done) b' := by
  obtain ⟨hnd, tbl, hset, hget⟩ := Tab.upsert?_ok hup
  have hkeys := h.keys_ne hnew hbatch
  have hother : ∀ r ∈ b.written, r.pair ≠ pair := fun r hr he => hnew (he ▸ h.pairs r hr)
  refine ⟨?_, ?_, ?_, ?_, ?_⟩
  · rw [hset, h.frame]
    rfl
  · intro r hr
    rw [hw] at hr
    rcases List.mem_append.1 hr with hr | hr
    · exact List.mem_cons_of_mem _ (h.pairs r hr)
    · rw [hbatch.pair r hr]
      exact List.mem_cons_self
  · rw [hw, List.map_append, List.nodup_append]
    refine ⟨h.nodup, hnd, ?_⟩
    intro k hk k' hk' he
    obtain ⟨r, hr, rfl⟩ := List.mem_map.1 hk
    obtain ⟨r', hr', rfl⟩ := List.mem_map.1 hk'
    exact hkeys r hr r' hr' he
  · intro k
    have hk : b'.db.forecasts.get? k = tbl.get? k := by rw [hset]; rfl
    have hold : (forecasts.get b.db).get? k = (b.written.find? (fun r => r.key = k)).or (db.forecasts.get? k) := h.row k
    rw [hk, hget, hw, List.find?_append, Option.or_assoc, hold]
    cases hf : b.written.find? (fun r => r.key = k) with
    | none => rfl
    | some r =>
      have hnone : rows.find? (fun r => r.key = k) = none := by
        refine List.find?_eq_none.2 (fun r' hr' he => hkeys r (List.mem_of_find?_eq_some hf) r' hr' ?_)
        have hr : r.key = k := by simpa using List.find?_some hf
        exact hr.trans (of_decide_eq_true he).symm
      rw [hnone]
      rfl
  · intro p
    rw [hw, List.filter_append]
    by_cases hp : p = pair
    · subst hp
      have hnil : b.written.filter (fun r => r.pair = p) = [] :=
        List.filter_eq_nil_iff.2 (fun r hr he => hother r hr (of_decide_eq_true he))
      have hall : rows.filter (fun r => r.pair = p) = rows :=
        List.filter_eq_self.2 (fun r hr => decide_eq_true (hbatch.pair r hr))
      rw [hnil, hall, List.nil_append]
      exact Or.inr hbatch
    · have hnil : rows.filter (fun r => r.pair = p) = [] :=
        List.filter_eq_nil_iff.2 (fun r hr he => hp ((of_decide_eq_true he).symm.trans (hbatch.pair r hr)))
      rw [hnil, List.append_nil]
      exact h.batch p

theorem handled {b' : Board} {pair : Pair} (h : Written db x done b) (hnew : pair ∉ done) (hh : Handled x b pair b') :
    Written db x (pair :: done) b' := by
  rcases hh with ⟨hdb, hw⟩ | ⟨rows, hbatch, hw, hup⟩
  · exact h.same pair hdb hw
  · have hprices : b.db.prices = db.prices := by rw [h.frame]
    have hbatch' : Batch db x pair rows := by
      unfold Batch at hbatch ⊢
      rwa [hprices] at hbatch
    exact h.upserted hnew hbatch' hw hup

/-- **Pairs handled one after the other add a batch each.** -/
theorem foldlM {cfg : ForecastConfig} (bands : Uuid → Option (ℚ × ℚ)) :
    ∀ (pairs : List Pair) (done : List Pair) (s : RunSummary) (b : Board), pairs.Nodup → (∀ p ∈ pairs, p ∉ done) →
      Written db x done b → ∃ done', Written db x done' ((pairs.foldlM (forecastPair cfg bands) s).run x.exec b).2
  | [], done, _, _, _, _, h => ⟨done, h⟩
  | pair :: pairs, done, s, b, hnd, hnew, h => by
    rw [List.nodup_cons] at hnd
    obtain ⟨s', b', hrun, hh⟩ := run_forecastPair (x := x) bands s b pair
    rw [List.foldlM_cons, Prog.run_bind, hrun, Prog.onOk_ok]
    refine foldlM bands pairs (pair :: done) s' b' hnd.2 ?_ (h.handled (hnew pair List.mem_cons_self) hh)
    intro p hp hmem
    rcases List.mem_cons.1 hmem with rfl | hmem
    · exact hnd.1 hp
    · exact hnew p (List.mem_cons_of_mem _ hp) hmem

end Written

/-- The program leaves the tables, and writes nothing. -/
def Reads {α : Type} (x : Conditions) (p : Forecasting α) : Prop :=
  ∀ b, ∃ r n, p.run x.exec b = (r, { b with calls := n })

section Run

variable {α β : Type} {x : Conditions}

theorem Reads.bind {p : Forecasting α} {f : α → Forecasting β} (hp : Reads x p) (hf : ∀ a, Reads x (f a)) :
    Reads x (p >>= f) := by
  intro b
  obtain ⟨r, n, hrun⟩ := hp b
  rw [Prog.run_bind, hrun]
  cases r with
  | error e => exact ⟨_, _, rfl⟩
  | ok a => exact hf a _

theorem reads_select {ρ κ : Type} {key : ρ → κ} {check : ρ → Bool} (t : Tab DB key check) (p : ρ → Bool) :
    Reads x (onStore (.select t p)) := by
  intro b
  unfold onStore
  rw [Prog.run_perform, x.exec_db]
  by_cases hf : x.fails b.calls = true
  · rw [if_pos hf]
    exact ⟨_, _, rfl⟩
  · rw [if_neg hf]
    exact ⟨_, _, rfl⟩

theorem reads_pairPages (cutoff : Date) : ∀ (fuel offset : Nat) (pairs : List Pair),
    Reads x (pairPages cutoff fuel offset pairs)
  | 0, _, _ => fun b => ⟨_, b.calls, rfl⟩
  | fuel + 1, offset, pairs => by
    refine (reads_select _ _).bind (fun rows => ?_)
    dsimp only
    split
    · exact fun b => ⟨_, b.calls, rfl⟩
    · exact reads_pairPages cutoff fuel _ _

theorem run_distinctPairs_eq (x : Conditions) (fuel : Nat) (b : Board) : (distinctPairs fuel).run x.exec b
    = Prog.run x.exec (pairPages (x.today - forecastHistoryDays) fuel 0 [] >>= fun pairs =>
        .perform (.listOf pairs.dedup)) b := rfl

/-- The pairs of a run are distinct. -/
theorem run_distinctPairs (x : Conditions) (fuel : Nat) (b : Board) : ∃ r n,
    (distinctPairs fuel).run x.exec b = (r, { b with calls := n }) ∧ ∀ pairs, r = .ok pairs → pairs.Nodup := by
  obtain ⟨r, n, hrun⟩ := reads_pairPages (x := x) (x.today - forecastHistoryDays) fuel 0 [] b
  rw [run_distinctPairs_eq, Prog.run_bind, hrun]
  cases r with
  | error e => exact ⟨_, _, rfl, fun pairs h => by cases h⟩
  | ok pairs =>
    refine ⟨.ok ((x.order n).order pairs.dedup), n + 1, rfl, fun pairs' h => ?_⟩
    obtain rfl := Except.ok.inj h
    exact ((x.order n).perm _).nodup_iff.2 (List.nodup_dedup pairs)

/-- **A run handles the pairs it found**, if it found them. -/
theorem run_visits (cfg : ForecastConfig) (fuel : Nat) (x : Conditions) (db : DB) :
    (∃ e n, (ForecastEngine.run cfg fuel).run x.exec ⟨db, 0, []⟩ = (.error e, ⟨db, n, []⟩)) ∨
    ∃ (bands : Uuid → Option (ℚ × ℚ)) (pairs : List Pair) (n : Nat), pairs.Nodup ∧
      (ForecastEngine.run cfg fuel).run x.exec ⟨db, 0, []⟩
        = (pairs.foldlM (forecastPair cfg bands) ⟨0, 0, 0, 0⟩).run x.exec ⟨db, n, []⟩ := by
  have hbands : Reads x loadSanityBands := (reads_select _ _).bind (fun rows b => ⟨_, b.calls, rfl⟩)
  obtain ⟨r, n, hrun⟩ := hbands ⟨db, 0, []⟩
  unfold ForecastEngine.run
  rw [Prog.run_bind, hrun]
  cases r with
  | error e => exact Or.inl ⟨e, n, rfl⟩
  | ok bands =>
    obtain ⟨r, n', hpairs, hnd⟩ := run_distinctPairs x fuel ⟨db, n, []⟩
    rw [Prog.onOk_ok, Prog.run_bind, hpairs]
    cases r with
    | error e => exact Or.inl ⟨e, n', rfl⟩
    | ok pairs => exact Or.inr ⟨bands, pairs, n', hnd pairs rfl, Prog.onOk_ok _ _ _⟩

/-- **A run, completed or not, has written a batch for each of the pairs it handled.** -/
theorem run_written (cfg : ForecastConfig) (fuel : Nat) (x : Conditions) (db : DB) :
    ∃ done, Written db x done ((ForecastEngine.run cfg fuel).run x.exec ⟨db, 0, []⟩).2 := by
  rcases run_visits cfg fuel x db with ⟨e, n, hrun⟩ | ⟨bands, pairs, n, hnd, hrun⟩
  · rw [hrun]
    exact ⟨[], .start db x n⟩
  · rw [hrun]
    exact Written.foldlM bands pairs [] _ _ hnd (by simp) (.start db x n)

end Run

/-! ## What is in the table afterwards -/

/-- What the run wrote for a pair. -/
def Board.of (b : Board) (p : Pair) : List Forecast := b.written.filter (fun r => r.pair = p)

theorem Board.mem_of {b : Board} {p : Pair} {r : Forecast} : r ∈ b.of p ↔ r ∈ b.written ∧ r.pair = p := by
  unfold Board.of
  rw [List.mem_filter, decide_eq_true_iff]

/-- **The table has what was written, and of the old rows those whose key was not.** -/
theorem Written.mem {db : DB} {x : Conditions} {done : List Pair} {b : Board} (h : Written db x done b) {f : Forecast} :
    f ∈ b.db.forecasts.rows ↔ f ∈ b.written ∨ (f ∈ db.forecasts.rows ∧ ∀ r ∈ b.written, r.key ≠ f.key) := by
  have hget : f ∈ b.db.forecasts.rows ↔ b.db.forecasts.get? f.key = some f := by
    rw [Table.get?_eq_some, and_iff_left rfl]
  have hold : f ∈ db.forecasts.rows ↔ db.forecasts.get? f.key = some f := by
    rw [Table.get?_eq_some, and_iff_left rfl]
  rw [hget, hold, h.row]
  cases hf : b.written.find? (fun r => r.key = f.key) with
  | none =>
    have hno : ∀ r ∈ b.written, r.key ≠ f.key := fun r hr => by simpa using List.find?_eq_none.1 hf r hr
    have hnot : f ∉ b.written := fun hm => hno f hm rfl
    simpa [hnot] using fun _ => hno
  | some r =>
    have hr := List.mem_of_find?_eq_some hf
    have hkey : r.key = f.key := by simpa using List.find?_some hf
    have hsame : r = f ↔ f ∈ b.written :=
      ⟨fun he => he ▸ hr, fun hm => List.inj_on_of_nodup_map h.nodup hr hm hkey⟩
    have hex : ¬ ∀ r ∈ b.written, r.key ≠ f.key := fun hno => hno r hr hkey
    simp [hsame, hex]

end Krishi
