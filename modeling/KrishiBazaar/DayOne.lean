import KrishiBazaar.Horizon
import KrishiBazaar.Lib.Run
/-!
# DayOne — which prediction stands for a pair in the summary

The summary keeps of each pair the row with the newest stamp.  The rows of a run are stamped one after the other in the
order of their dates, so where the newest run of a pair wrote predictions its last day stands for the pair, not its first
(`summary_day1_iff`).

An archive is the database and, of each pair, what its newest run wrote.  Between two runs the other tables may change,
and old predictions may be marked stale.
-/
namespace Krishi

open Lib

/-! ## Runs one after another -/

def Forecast.expire : Patch Forecast.key noCheck := ⟨fun f => { f with status := .stale }, fun _ => rfl, fun _ h => h⟩

/-- `mark_stale_forecasts(hours_old)`: the number of rows marked, and the database. -/
def markStaleForecasts (now : Time) (hoursOld : Int) (db : DB) : Nat × DB :=
  let old (f : Forecast) : Bool := f.status = .ok ∧ f.generatedAt < now - hours hoursOld
  ((db.forecasts.rows.filter old).length, { db with forecasts := db.forecasts.update old Forecast.expire })

structure Archive where
  db : DB
  latest : Pair → List Forecast

inductive ForecastEvent
  | run (cfg : ForecastConfig) (fuel : Nat) (x : Conditions) (hclock : StrictMono x.clock)
  /-- The tables other than `forecasts` become those of `db`. -/
  | elsewhere (db : DB)
  | markStale (now : Time) (hoursOld : Int)

/-- What a run left and wrote. -/
def Archive.record (s : Archive) (b : Board) : Archive := ⟨b.db, fun p => if b.of p = [] then s.latest p else b.of p⟩

def Archive.step (s : Archive) : ForecastEvent → Archive
  | .run cfg fuel x _ => s.record ((ForecastEngine.run cfg fuel).run x.exec ⟨s.db, 0, []⟩).2
  | .elsewhere db => { s with db := { db with forecasts := s.db.forecasts } }
  | .markStale now hoursOld => { s with db := (markStaleForecasts now hoursOld s.db).2 }

/-- The archive after the events, of a database that no run was noted of. -/
def Archive.after (db : DB) (events : List ForecastEvent) : Archive := Lib.after Archive.step ⟨db, fun _ => []⟩ events

/-- What is known of the newest rows of a pair: they are a batch, and one that is still in the table as it was written has
all that were stamped after it beside it. -/
structure KeptNewest (s : Archive) (p : Pair) : Prop where
  batch : s.latest p = [] ∨ ∃ db x, StrictMono x.clock ∧ Batch db x p (s.latest p)
  newer : ∀ r ∈ s.latest p, ∀ r' ∈ s.latest p, r.generatedAt ≤ r'.generatedAt →
    r ∈ s.db.forecasts.rows → r' ∈ s.db.forecasts.rows

theorem Batch.rows {db : DB} {x : Conditions} {p : Pair} {rows : List Forecast} (h : Batch db x p rows) :
    (∃ r, rows = [r] ∧ r.status = .insufficientData) ∨ ∀ r ∈ rows, r.status = .ok := by
  rcases h with ⟨r, hr, -, hstatus, -⟩ | ⟨start, -, hweek⟩
  · exact Or.inl ⟨r, hr, hstatus⟩
  · exact Or.inr (fun r hr => (hweek.predicted r hr).1)

theorem not_expired {now : Time} {hoursOld : Int} {db : DB} {f : Forecast} (hf : f.status ≠ .stale) :
    f ∈ (markStaleForecasts now hoursOld db).2.forecasts.rows ↔
      f ∈ db.forecasts.rows ∧ ¬ (f.status = .ok ∧ f.generatedAt < now - hours hoursOld) := by
  unfold markStaleForecasts
  dsimp only
  rw [Table.mem_update]
  constructor
  · rintro ⟨g, hg, rfl⟩
    split at hf
    · exact absurd rfl hf
    · rename_i hold
      rw [if_neg hold]
      exact ⟨hg, by simpa using hold⟩
  · rintro ⟨hmem, hold⟩
    exact ⟨f, hmem, if_neg (by simpa using hold)⟩

namespace KeptNewest

variable {s : Archive} {p : Pair}

/-- A run puts all it wrote for a pair in the table, and leaves the rows of a pair it wrote nothing for. -/
theorem record {x : Conditions} {done : List Pair} {b : Board} (h : KeptNewest s p) (hclock : StrictMono x.clock)
    (hw : Written s.db x done b) : KeptNewest (s.record b) p := by
  by_cases hnil : b.of p = []
  · have hlatest : (s.record b).latest p = s.latest p := if_pos hnil
    have hsame : ∀ f ∈ s.latest p, (f ∈ b.db.forecasts.rows ↔ f ∈ s.db.forecasts.rows) := by
      intro f hf
      have hfp : f.pair = p := by
        rcases h.batch with hempty | ⟨db, x', -, hbatch⟩
        · rw [hempty] at hf
          cases hf
        · exact hbatch.pair f hf
      have hother : ∀ r ∈ b.written, r.pair ≠ p := by
        intro r hr hp
        have hmem := Board.mem_of.2 ⟨hr, hp⟩
        rw [hnil] at hmem
        cases hmem
      have hnot : f ∉ b.written := fun hf' => hother f hf' hfp
      have hkey : ∀ r ∈ b.written, r.key ≠ f.key := fun r hr he =>
        hother r hr ((Forecast.pair_eq_of_key he).trans hfp)
      rw [hw.mem]
      simp only [hnot, false_or, and_iff_left hkey]
    refine ⟨?_, ?_⟩
    · rw [hlatest]
      exact h.batch
    · rw [hlatest]
      intro r hr r' hr' hle hmem
      exact (hsame r' hr').2 (h.newer r hr r' hr' hle ((hsame r hr).1 hmem))
  · have hlatest : (s.record b).latest p = b.of p := if_neg hnil
    refine ⟨?_, ?_⟩
    · rw [hlatest]
      exact Or.inr ⟨s.db, x, hclock, (hw.batch p).resolve_left hnil⟩
    · rw [hlatest]
      exact fun r _ r' hr' _ _ => hw.mem.2 (Or.inl (Board.mem_of.1 hr').1)

theorem markStale (h : KeptNewest s p) (now : Time) (hoursOld : Int) : KeptNewest (s.step (.markStale now hoursOld)) p := by
  refine ⟨h.batch, fun r (hr : r ∈ s.latest p) r' (hr' : r' ∈ s.latest p) hle hmem => ?_⟩
  rcases h.batch with hempty | ⟨db, x, -, hbatch⟩
  · rw [hempty] at hr
    cases hr
  · rcases hbatch.rows with ⟨r₀, hrows, -⟩ | hok
    · rw [hrows] at hr hr'
      rwa [List.mem_singleton.1 hr', ← List.mem_singleton.1 hr]
    · have hlive : ∀ f ∈ s.latest p, f.status ≠ .stale := fun f hf he => by
        rw [hok f hf] at he
        cases he
      obtain ⟨hin, hnew⟩ := (not_expired (hlive r hr)).1 hmem
      refine (not_expired (hlive r' hr')).2 ⟨h.newer r hr r' hr' hle hin, ?_⟩
      rintro ⟨-, hold⟩
      exact hnew ⟨hok r hr, hle.trans_lt hold⟩

theorem step (h : KeptNewest s p) : ∀ e : ForecastEvent, KeptNewest (s.step e) p
  | .run cfg fuel x hclock => by
    obtain ⟨done, hw⟩ := run_written cfg fuel x s.db
    exact h.record hclock hw
  | .elsewhere _ => ⟨h.batch, h.newer⟩
  | .markStale now hoursOld => h.markStale now hoursOld

end KeptNewest

/-- **Whatever runs there were, what the newest of a pair wrote is kept newest first.** -/
theorem kept_after (db : DB) (events : List ForecastEvent) (p : Pair) : KeptNewest (Archive.after db events) p := by
  refine inv_after (fun s => KeptNewest s p) (fun s e h => h.step e) events _ ⟨Or.inl rfl, fun r hr => ?_⟩
  cases hr

/-! ## The summary -/

/-- The forecasts that are not stale and were made in the two days before `now`. -/
def recent (db : DB) (now : Time) : List Forecast :=
  db.forecasts.rows.filter (fun f => (f.status = .ok ∨ f.status = .insufficientData) ∧ now - hours 48 ≤ f.generatedAt)

theorem mem_recent {db : DB} {now : Time} {f : Forecast} : f ∈ recent db now ↔
    f ∈ db.forecasts.rows ∧ (f.status = .ok ∨ f.status = .insufficientData) ∧ now - hours 48 ≤ f.generatedAt := by
  unfold recent
  rw [List.mem_filter, decide_eq_true_iff]

theorem mem_sorted_twice {rows : List ForecastView} {v : ForecastView} :
    v ∈ (rows.insertionSort (fun a b => a.forecast.forecastDate ≤ b.forecast.forecastDate)).insertionSort
      (fun a b => b.forecast.generatedAt ≤ a.forecast.generatedAt) ↔ v ∈ rows := by
  rw [List.mem_insertionSort, List.mem_insertionSort]

/-- **The row of a pair has the newest stamp of the pair's rows.** -/
theorem summarize_newest {rows : List ForecastView} {v w : ForecastView} (hv : v ∈ summarizeForecasts rows) (hw : w ∈ rows)
    (hp : w.forecast.pair = v.forecast.pair) : w.forecast.generatedAt ≤ v.forecast.generatedAt := by
  have hsort := List.pairwise_insertionSort (fun a b : ForecastView => b.forecast.generatedAt ≤ a.forecast.generatedAt)
    (rows.insertionSort (fun a b => a.forecast.forecastDate ≤ b.forecast.forecastDate))
  rcases firstSeen_le hsort hv (mem_sorted_twice.2 hw) hp with rfl | hle
  · exact le_rfl
  · exact hle

theorem mem_of_summarize {rows : List ForecastView} {v : ForecastView} (hv : v ∈ summarizeForecasts rows) : v ∈ rows :=
  mem_sorted_twice.1 (List.mem_of_find?_eq_some (mem_firstSeen.1 hv))

theorem length_summarize (rows : List ForecastView) (p : Pair) :
    ((summarizeForecasts rows).filter (fun v => v.forecast.pair = p)).length
      = if p ∈ rows.map (fun v => v.forecast.pair) then 1 else 0 := by
  unfold summarizeForecasts
  rw [length_filter_firstSeen (fun v : ForecastView => v.forecast.pair)]
  simp only [List.mem_map, mem_sorted_twice]

/-- What the endpoint summarises, if it is below the limit: each recent forecast once. -/
theorem run_getForecastsSummary {x : Conditions} {b b' : Board} {views : List ForecastView}
    (hlimit : (recent b.db (x.clock b.calls)).length < 2000)
    (h : getForecastsSummary.run x.exec b = (.ok views, b')) : ∃ rows, views = summarizeForecasts rows ∧
      ∀ v, v ∈ rows ↔ ∃ f ∈ recent b.db (x.clock b.calls), flattenForecast b.db f = v := by
  have hstart : getForecastsSummary.run x.exec b = Prog.run x.exec (onStore (.view forecasts (fun f =>
      (f.status = .ok ∨ f.status = .insufficientData) ∧ x.clock b.calls - hours 48 ≤ f.generatedAt) (fun _ _ => true)
      (some 2000) flattenForecast) >>= fun rows => pure (summarizeForecasts rows)) { b with calls := b.calls + 1 } := rfl
  rw [hstart, Prog.run_bind] at h
  unfold onStore at h
  rw [Prog.run_perform, x.exec_db] at h
  split at h
  · cases h
  · obtain rfl := Except.ok.inj (congrArg Prod.fst h)
    refine ⟨_, rfl, fun v => ?_⟩
    have hpage : ∀ f, f ∈ (x.order (b.calls + 1)).page (fun _ _ => true) (some 2000) (recent b.db (x.clock b.calls)) ↔
        f ∈ recent b.db (x.clock b.calls) := fun f => RowOrder.mem_page_of_length _ hlimit.le
    rw [List.mem_map]
    exact exists_congr (fun f => and_congr_left' (hpage f))

/-! ## Day 1 -/

/-- The rows hold predictions. -/
def Predicts (rows : List Forecast) : Prop := ∃ r ∈ rows, r.status = .ok

instance (rows : List Forecast) : Decidable (Predicts rows) := inferInstanceAs (Decidable (∃ r ∈ rows, r.status = .ok))

/-- The row is the one of `rows` with the earliest date. -/
def Earliest (rows : List Forecast) (f : Forecast) : Prop := f ∈ rows ∧ ∀ r ∈ rows, f.forecastDate ≤ r.forecastDate

instance (rows : List Forecast) (f : Forecast) : Decidable (Earliest rows f) :=
  inferInstanceAs (Decidable (f ∈ rows ∧ ∀ r ∈ rows, f.forecastDate ≤ r.forecastDate))

/-- After the earliest prediction of a batch another was stamped. -/
theorem Batch.exists_newer {db : DB} {x : Conditions} {p : Pair} {rows : List Forecast} {f : Forecast}
    (hclock : StrictMono x.clock) (h : Batch db x p rows) (hpred : Predicts rows) (hf : Earliest rows f) :
    ∃ r ∈ rows, r.status = .ok ∧ r.pair = f.pair ∧ f.generatedAt < r.generatedAt := by
  have hpair : ∀ r ∈ rows, r.pair = f.pair := fun r hr => (h.pair r hr).trans (h.pair f hf.1).symm
  rcases h with ⟨r, rfl, -, hstatus, -⟩ | ⟨start, -, hweek⟩
  · obtain ⟨r', hr', hok⟩ := hpred
    rw [List.mem_singleton.1 hr', hstatus] at hok
    cases hok
  · have hlen := hweek.length
    obtain ⟨i, hi, hget⟩ := List.getElem_of_mem hf.1
    have hfirst : i = 0 := by
      have hle : f.forecastDate ≤ rows[0].forecastDate := hf.2 _ (List.getElem_mem (by omega))
      rw [← hget, hweek.date_get hi, hweek.date_get (by omega)] at hle
      have hi0 : (i : Int) + 1 ≤ (0 : Nat) + 1 := Int.le_of_add_le_add_left hle
      omega
    subst hfirst
    have hlast : rows[6] ∈ rows := List.getElem_mem (by omega)
    refine ⟨rows[6], hlast, (hweek.predicted _ hlast).1, hpair _ hlast, ?_⟩
    rw [← hget]
    exact List.pairwise_iff_getElem.1 (hweek.stamps_lt hclock) 0 6 hi (by omega) (by decide)

/-- **The earliest of a run's predictions is never the newest of its pair**: as long as it is shown, one stamped later is in
the table and is recent. -/
theorem KeptNewest.exists_newer {s : Archive} {now : Time} {f : Forecast} (h : KeptNewest s f.pair)
    (hf : f ∈ recent s.db now) (hpred : Predicts (s.latest f.pair)) (hearly : Earliest (s.latest f.pair) f) :
    ∃ r ∈ recent s.db now, r.pair = f.pair ∧ f.generatedAt < r.generatedAt := by
  obtain ⟨hmem, -, hnew⟩ := mem_recent.1 hf
  rcases h.batch with hempty | ⟨db, x, hclock, hbatch⟩
  · obtain ⟨r, hr, -⟩ := hpred
    rw [hempty] at hr
    cases hr
  · obtain ⟨r, hr, hok, hrp, hlt⟩ := hbatch.exists_newer hclock hpred hearly
    have hrmem := h.newer f hearly.1 r hr hlt.le hmem
    exact ⟨r, mem_recent.2 ⟨hrmem, Or.inl hok, hnew.trans hlt.le⟩, hrp, hlt⟩

/-- **The summary has one row for each pair with a recent forecast, and shows day 1 of its newest run only where that run
wrote no predictions.** -/
theorem summary_day1_iff (db : DB) (events : List ForecastEvent) (x : Conditions) {views : List ForecastView} {b : Board}
    (hlimit : (recent (Archive.after db events).db (x.clock 0)).length < 2000)
    (hread : getForecastsSummary.run x.exec ⟨(Archive.after db events).db, 0, []⟩ = (.ok views, b)) :
    let s := Archive.after db events
    (∀ p, (views.filter (fun v => v.forecast.pair = p)).length
      = if p ∈ (recent s.db (x.clock 0)).map Forecast.pair then 1 else 0) ∧
    ((∀ v ∈ views, Predicts (s.latest v.forecast.pair) → Earliest (s.latest v.forecast.pair) v.forecast) ↔
      ∀ f ∈ recent s.db (x.clock 0), ¬ Predicts (s.latest f.pair)) := by
  intro s
  have hkept : ∀ p, KeptNewest s p := kept_after db events
  obtain ⟨rows, rfl, hrows⟩ := run_getForecastsSummary hlimit hread
  dsimp only at hrows
  have hpairs : ∀ p, p ∈ rows.map (fun v => v.forecast.pair) ↔ p ∈ (recent s.db (x.clock 0)).map Forecast.pair := by
    intro p
    simp only [List.mem_map, hrows]
    constructor
    · rintro ⟨_, ⟨f, hf, rfl⟩, hp⟩
      exact ⟨f, hf, hp⟩
    · rintro ⟨f, hf, hp⟩
      exact ⟨_, ⟨f, hf, rfl⟩, hp⟩
  have hlen : ∀ p, ((summarizeForecasts rows).filter (fun v => v.forecast.pair = p)).length
      = if p ∈ (recent s.db (x.clock 0)).map Forecast.pair then 1 else 0 := by
    intro p
    rw [length_summarize]
    simp only [hpairs]
  refine ⟨hlen, ?_, ?_⟩
  · intro hday1 f hf hpred
    obtain ⟨v, hv⟩ : ∃ v, v ∈ (summarizeForecasts rows).filter (fun v => v.forecast.pair = f.pair) := by
      have hone := hlen f.pair
      rw [if_pos (List.mem_map_of_mem hf)] at hone
      exact List.exists_mem_of_length_pos (hone ▸ Nat.one_pos)
    obtain ⟨hv, hp⟩ := List.mem_filter.1 hv
    rw [← of_decide_eq_true hp] at hpred
    have hearly := hday1 v hv hpred
    obtain ⟨g, hg, rfl⟩ := (hrows v).1 (mem_of_summarize hv)
    obtain ⟨r, hr, hrp, hlt⟩ := (hkept g.pair).exists_newer hg hpred hearly
    have hle := summarize_newest hv ((hrows _).2 ⟨r, hr, rfl⟩) hrp
    exact absurd hlt (not_lt.2 hle)
  · intro hno v hv hpred
    obtain ⟨f, hf, rfl⟩ := (hrows v).1 (mem_of_summarize hv)
    exact absurd hpred (hno f hf)

/-! ## Onions, forecast on day 20 and summarised on day 21 -/

theorem quietDay_clock (day : Date) : StrictMono (quietDay day).clock := by
  intro n n' hlt
  show hours (day * 24) + (n : Int) < hours (day * 24) + (n' : Int)
  exact Int.add_lt_add_left (by omega) _

def forecastOn20 : List ForecastEvent := [.run flatConfig 1 (quietDay 20) (quietDay_clock 20)]

/-- With ten days of prices the prediction for day 27 stands for the pair, not the one for day 21. -/
theorem day1_passed_over :
    let s := Archive.after (onionDays 10) forecastOn20
    (s.latest (1, 1)).map (·.forecastDate) = [21, 22, 23, 24, 25, 26, 27] ∧ Predicts (s.latest (1, 1)) ∧
    (recent s.db ((quietDay 21).clock 0)).length = 7 ∧
    (getForecastsSummary.run (quietDay 21).exec ⟨s.db, 0, []⟩).1.map
      (fun views => views.map (fun v => (v.forecast.pair, v.forecast.forecastDate))) = .ok [((1, 1), 27)] := by
  decide +kernel

/-- With two days of prices no run has predicted anything, and the summary says so in one row. -/
theorem day1_degraded :
    let s := Archive.after (onionDays 2) forecastOn20
    ∃ views b, getForecastsSummary.run (quietDay 21).exec ⟨s.db, 0, []⟩ = (.ok views, b) ∧
      (views.filter (fun v => v.forecast.pair = (1, 1))).length = 1 ∧
      ∀ v ∈ views, Predicts (s.latest v.forecast.pair) → Earliest (s.latest v.forecast.pair) v.forecast := by
  intro s
  have hread : (getForecastsSummary.run (quietDay 21).exec ⟨s.db, 0, []⟩).1 = .ok
      [⟨⟨1, 1, 21, none, none, none, none, "none", some 2, .insufficientData, hours 480 + 4⟩,
        some "Lasalgaon", some "Nashik", some "Onion", some "Kanda", some "Pyaz"⟩] := by decide +kernel
  have hlimit : (recent s.db ((quietDay 21).clock 0)).length = 1 := by decide +kernel
  rcases hrun : getForecastsSummary.run (quietDay 21).exec ⟨s.db, 0, []⟩ with ⟨r, b⟩
  obtain rfl : r = _ := (congrArg Prod.fst hrun).symm.trans hread
  have h := summary_day1_iff (onionDays 2) forecastOn20 (quietDay 21) (hlimit.trans_lt (by decide)) hrun
  exact ⟨_, b, rfl, by decide +kernel, h.2.2 (by decide +kernel)⟩

end Krishi
