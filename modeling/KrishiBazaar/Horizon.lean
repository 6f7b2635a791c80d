import KrishiBazaar.ForecastRuns
/-!
# Horizon — the days a run predicts and the days an endpoint shows

A run on day `T` predicts the seven days after `T`.  `get_forecasts` shows the `days` days that begin with `T` itself, so
on the day of the run it shows one prediction less than it was asked for, after what an earlier run left for `T`
(`horizon_never`).
-/
namespace Krishi

open Lib

/-- The forecasts that the endpoint shows. -/
def shown (o : RowOrder) (db : DB) (pair : Pair) (today : Date) (d : Nat) : List Forecast :=
  o.page (fun a b => a.forecastDate ≤ b.forecastDate) none (db.forecasts.rows.filter (fun f =>
    f.marketId = pair.1 ∧ f.commodityId = pair.2 ∧ f.status = .ok ∧ today ≤ f.forecastDate ∧
      f.forecastDate ≤ today + (d - 1)))

section Shown

variable {o : RowOrder} {x : Conditions} {db : DB} {pair : Pair} {today : Date} {d : Nat} {b : Board}

theorem run_getForecasts {views : List ForecastView} {b' : Board}
    (h : (getForecasts pair d).run x.exec b = (.ok views, b')) :
    views.map (·.forecast) = shown (x.order b.calls) b.db pair x.today d := by
  have hstart : (getForecasts pair d).run x.exec b = x.exec (.db (.view forecasts (fun f => f.marketId = pair.1 ∧
      f.commodityId = pair.2 ∧ f.status = .ok ∧ x.today ≤ f.forecastDate ∧ f.forecastDate ≤ x.today + (d - 1))
      (fun a b => a.forecastDate ≤ b.forecastDate) none flattenForecast)) b := Prog.run_perform _ _ _
  rw [hstart, x.exec_db] at h
  split at h
  · cases h
  · obtain rfl := Except.ok.inj (congrArg Prod.fst h)
    exact (List.map_map ..).trans (List.map_id' _)

theorem mem_shown {f : Forecast} : f ∈ shown o db pair today d ↔ f ∈ db.forecasts.rows ∧ f.pair = pair ∧
    f.status = .ok ∧ today ≤ f.forecastDate ∧ f.forecastDate ≤ today + (d - 1) := by
  unfold shown
  rw [o.mem_page, List.mem_filter, decide_eq_true_iff, Forecast.pair, Prod.ext_iff, and_assoc]

theorem shown_sorted : (shown o db pair today d).Pairwise (fun a b => a.forecastDate < b.forecastDate) := by
  have hle : (shown o db pair today d).Pairwise (fun a b => a.forecastDate ≤ b.forecastDate) := by
    have hsort := List.pairwise_insertionSort (fun a b : Forecast => a.forecastDate ≤ b.forecastDate)
      (o.order (db.forecasts.rows.filter (fun f => f.marketId = pair.1 ∧ f.commodityId = pair.2 ∧ f.status = .ok ∧
        today ≤ f.forecastDate ∧ f.forecastDate ≤ today + (d - 1))))
    simpa [shown, RowOrder.page] using hsort
  have hnd : (shown o db pair today d).Nodup := by
    have hrows : (db.forecasts.rows.filter (fun f => f.marketId = pair.1 ∧ f.commodityId = pair.2 ∧ f.status = .ok ∧
        today ≤ f.forecastDate ∧ f.forecastDate ≤ today + (d - 1))).Nodup :=
      List.Nodup.filter _ (List.Nodup.of_map _ db.forecasts.nodup)
    exact (List.perm_insertionSort _ _).nodup_iff.2 ((o.perm _).nodup_iff.2 hrows)
  refine (hle.and hnd).imp_of_mem (fun {f f'} hf hf' h => lt_of_le_of_ne h.1 (fun he => h.2 ?_))
  obtain ⟨hf, hp, -⟩ := mem_shown.1 hf
  obtain ⟨hf', hp', -⟩ := mem_shown.1 hf'
  obtain ⟨hm, hc⟩ := Prod.mk.inj (hp.trans hp'.symm)
  exact db.forecasts.eq_of_key hf hf' (Prod.ext hm (Prod.ext hc he))

end Shown

section Horizon

variable {o : RowOrder} {x : Conditions} {db : DB} {today : Date} {done : List Pair} {pair : Pair} {b : Board} {d : Nat}

/-- What an earlier run left for today. -/
def leftover (db : DB) (pair : Pair) (today : Date) : Option Forecast :=
  (db.forecasts.get? (pair.1, pair.2, today)).filter (fun f => f.status = .ok)

theorem mem_leftover {f : Forecast} : f ∈ leftover db pair today ↔
    f ∈ db.forecasts.rows ∧ f.pair = pair ∧ f.forecastDate = today ∧ f.status = .ok := by
  unfold leftover
  rw [Option.mem_def, Option.filter_eq_some_iff, Table.get?_eq_some, decide_eq_true_iff, Forecast.key, Forecast.pair,
    Prod.ext_iff, Prod.ext_iff, Prod.ext_iff]
  simp only [and_assoc]

/-! ## The day of a run -/

/-- **On the day of a run whose week begins there, one prediction less is shown**, after what was left for the day. -/
theorem shown_after (h : Written db x done b) (hweek : Week x.clock pair x.today (b.of pair)) (hd : 1 ≤ d)
    (hd' : d ≤ 7) : shown o b.db pair x.today d = (leftover db pair x.today).toList ++ (b.of pair).take (d - 1) := by
  have hend : x.today + (d - 1) = x.today + ((d - 1 : Nat) : Int) := by
    rw [Nat.cast_sub hd]
    rfl
  have hsorted : ((leftover db pair x.today).toList ++ (b.of pair).take (d - 1)).Pairwise
      (fun a b => a.forecastDate < b.forecastDate) := by
    refine List.pairwise_append.2 ⟨?_, hweek.dates_lt.sublist (List.take_sublist _ _), ?_⟩
    · cases leftover db pair x.today <;> simp
    · intro f hf f' hf'
      obtain ⟨-, -, hf, -⟩ := mem_leftover.1 (Option.mem_toList.1 hf)
      rw [hf]
      exact hweek.lt_date (List.mem_of_mem_take hf')
  refine eq_of_sorted (fun f : Forecast => f.forecastDate) shown_sorted hsorted (fun f => ?_)
  rw [mem_shown, h.mem, List.mem_append, Option.mem_toList, ← Option.mem_def, mem_leftover, hweek.mem_take, Board.mem_of,
    hend]
  constructor
  · rintro ⟨hf | ⟨hf, hno⟩, hp, hok, hge, hle⟩
    · exact Or.inr ⟨⟨hf, hp⟩, hle⟩
    · refine Or.inl ⟨hf, hp, ?_, hok⟩
      by_contra hne
      have hlt : x.today < f.forecastDate := lt_of_le_of_ne hge (Ne.symm hne)
      have hseven : f.forecastDate ≤ x.today + 7 := hle.trans (Int.add_le_add_left (by omega) x.today)
      obtain ⟨r, hr, hkey⟩ := hweek.exists_key hlt hseven
      subst hp
      exact hno r (Board.mem_of.1 hr).1 hkey
  · rintro (⟨hf, hp, hdate, hok⟩ | ⟨hf, hle⟩)
    · refine ⟨Or.inr ⟨hf, fun r hr hkey => ?_⟩, hp, hok, hdate.ge, ?_⟩
      · have hrp : r.pair = pair := (Forecast.pair_eq_of_key hkey).trans hp
        have hlt := hweek.lt_date (Board.mem_of.2 ⟨hr, hrp⟩)
        have hrd : r.forecastDate = f.forecastDate := (Prod.mk.inj (Prod.mk.inj hkey).2).2
        exact hlt.ne (hdate.symm.trans hrd.symm)
      · rw [hdate]
        exact Int.le_add_of_nonneg_right (by omega)
    · have hmem := Board.mem_of.2 hf
      exact ⟨Or.inl hf.1, hf.2, (hweek.predicted f hmem).1, (hweek.lt_date hmem).le, hle⟩

/-- A batch that holds predictions is a week, and begins today unless a price is from a later day. -/
theorem Batch.week {rows : List Forecast} {r : Forecast} (h : Batch db x pair rows) (hr : r ∈ rows) (hok : r.status = .ok)
    (hpast : ∀ p ∈ db.prices.rows, p.marketId = pair.1 → p.commodityId = pair.2 → p.arrivalDate ≤ x.today) :
    Week x.clock pair x.today rows := by
  rcases h with ⟨r', rfl, -, hstatus, -⟩ | ⟨start, hstart, hweek⟩
  · rw [List.mem_singleton.1 hr, hstatus] at hok
    cases hok
  · rcases hstart with rfl | ⟨hlt, p, hp, hm, hc, rfl⟩
    · exact hweek
    · exact absurd (hpast p hp hm hc) (not_le.2 hlt)

/-- The first days of a batch are never what is shown: the last of them is beyond the window, or is no prediction. -/
theorem Batch.not_shown {rows : List Forecast} {db' : DB} (h : Batch db x pair rows) (hd : 1 ≤ d)
    (hlen : (rows.take d).length = d) : shown o db' pair x.today d ≠ rows.take d := by
  have hlt : d - 1 < rows.length := by
    rw [List.length_take] at hlen
    omega
  have hlast : rows[d - 1] ∈ rows.take d := List.mem_take_iff_getElem.2 ⟨d - 1, by omega, rfl⟩
  intro heq
  rw [← heq, mem_shown] at hlast
  obtain ⟨-, -, hok, -, hle⟩ := hlast
  rcases h with ⟨r, rfl, -, hstatus, -⟩ | ⟨start, hstart, hweek⟩
  · have hr : [r][d - 1] = r := List.mem_singleton.1 (List.getElem_mem hlt)
    rw [hr, hstatus] at hok
    cases hok
  · have hge : x.today ≤ start := by
      rcases hstart with rfl | ⟨hlt, -⟩
      · exact le_rfl
      · exact hlt.le
    rw [hweek.date_get hlt] at hle
    have hcast : ((d - 1 : Nat) : Int) + 1 = d := by omega
    rw [hcast] at hle
    unfold Date at *
    omega

/-- **On the day of a run the endpoint never shows the first `d` predictions of the run.**  Of a pair without prices from
the future it shows the first `d - 1`, after what an earlier run left for today. -/
theorem horizon_never (cfg : ForecastConfig) (fuel : Nat) (x x' : Conditions) (db : DB) (pair : Pair) (d : Nat)
    {summary : RunSummary} {b b' : Board} {views : List ForecastView} (hday : x'.today = x.today) (hd : 1 ≤ d) (hd' : d ≤ 7)
    (hrun : (ForecastEngine.run cfg fuel).run x.exec ⟨db, 0, []⟩ = (.ok summary, b))
    (hread : (getForecasts pair d).run x'.exec ⟨b.db, 0, []⟩ = (.ok views, b')) :
    ¬ (views.length = d ∧ views.map (·.forecast) = (b.of pair).take d) ∧
    ((∃ r ∈ b.of pair, r.status = .ok) →
      (∀ p ∈ db.prices.rows, p.marketId = pair.1 → p.commodityId = pair.2 → p.arrivalDate ≤ x.today) →
        views.map (·.forecast) = (leftover db pair x.today).toList ++ (b.of pair).take (d - 1)) := by
  obtain ⟨done, h⟩ := run_written cfg fuel x db
  rw [hrun] at h
  have hviews := run_getForecasts hread
  rw [hday] at hviews
  constructor
  · rintro ⟨hlen, heq⟩
    have hlen' : ((b.of pair).take d).length = d := by
      rw [← heq, List.length_map, hlen]
    rcases h.batch pair with hnil | hbatch
    · have hzero : b.of pair = [] := hnil
      rw [hzero, List.take_nil] at hlen'
      exact absurd hd (hlen' ▸ by decide)
    · exact Batch.not_shown hbatch hd hlen' (hviews.symm.trans heq)
  · rintro ⟨r, hr, hok⟩ hpast
    rcases h.batch pair with hnil | hbatch
    · have hzero : b.of pair = [] := hnil
      rw [hzero] at hr
      cases hr
    · rw [hviews]
      exact shown_after h (hbatch.week hr hok hpast) hd hd'

end Horizon

/-! ## Ten days of onions -/

/-- Onions at 2000 in Lasalgaon on each of the days from 11 on. -/
def onionDays (days : Nat) : DB :=
  { DB.empty with
    markets := lasalgaonOnly
    commodities := onionsOnly
    prices := ⟨(List.range days).map (fun i => ⟨i, 1, 1, i + 11, none, none, 2000, none, "General", "General", "data_gov_in"⟩),
      by simpa [Function.comp_def] using List.nodup_range, fun _ _ => rfl⟩ }

/-- Constant prices ask for no square root but that of zero. -/
def flatConfig : ForecastConfig := ⟨id, fun _ => 1⟩

def quietDay (day : Date) : Conditions := ⟨day, fun n => hours (day * 24) + n, fun _ => .asStored, fun _ => false⟩

/-- With ten days of prices a run on day 20 predicts days 21 to 27, and asked for two days the endpoint shows day 21. -/
theorem horizon_short :
    let run := (ForecastEngine.run flatConfig 1).run (quietDay 20).exec ⟨onionDays 10, 0, []⟩
    (onionDays 10).prices.rows.map (fun p => (p.marketId, p.commodityId, p.arrivalDate))
      = [(1, 1, 11), (1, 1, 12), (1, 1, 13), (1, 1, 14), (1, 1, 15), (1, 1, 16), (1, 1, 17), (1, 1, 18), (1, 1, 19), (1, 1, 20)] ∧
    run.1 = .ok ⟨1, 0, 0, 7⟩ ∧ ((run.2.of (1, 1)).take 2).map (·.forecastDate) = [21, 22] ∧
    ((getForecasts (1, 1) 2).run (quietDay 20).exec ⟨run.2.db, 0, []⟩).1.map
      (fun views => views.map (fun v => v.forecast.forecastDate)) = .ok [21] := by
  decide +kernel

/-- What is shown then is the first prediction alone, as there is no row for day 20. -/
theorem horizon_shown :
    let b := ((ForecastEngine.run flatConfig 1).run (quietDay 20).exec ⟨onionDays 10, 0, []⟩).2
    ∃ views b', (getForecasts (1, 1) 2).run (quietDay 20).exec ⟨b.db, 0, []⟩ = (.ok views, b') ∧
      ¬ (views.length = 2 ∧ views.map (·.forecast) = (b.of (1, 1)).take 2) ∧
      views.map (·.forecast) = (leftover (onionDays 10) (1, 1) 20).toList ++ (b.of (1, 1)).take 1 := by
  intro b
  have hrun : ((ForecastEngine.run flatConfig 1).run (quietDay 20).exec ⟨onionDays 10, 0, []⟩).1 = .ok ⟨1, 0, 0, 7⟩ := by
    decide +kernel
  have hread : ((getForecasts (1, 1) 2).run (quietDay 20).exec ⟨b.db, 0, []⟩).1 = .ok
      [⟨⟨1, 1, 21, some 2000, some 2000, some 2000, some .medium, "moving_avg", some 10, .ok, hours 480 + 4⟩,
        some "Lasalgaon", some "Nashik", some "Onion", some "Kanda", some "Pyaz"⟩] := by decide +kernel
  have h := horizon_never flatConfig 1 (quietDay 20) (quietDay 20) (onionDays 10) (1, 1) 2 rfl (by decide) (by decide)
    (Prod.ext hrun rfl) (Prod.ext hread rfl)
  exact ⟨_, _, Prod.ext hread rfl, h.1, h.2 (by decide +kernel) (by decide +kernel)⟩

end Krishi
