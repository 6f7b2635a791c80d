import KrishiBazaar.DayOne
import KrishiBazaar.Lib.Upserts
/-!
# LiveForecasts — which predictions are shown

Runs write over what earlier runs wrote for a day, each as far as it gets, and now and then what is too old is marked
stale.  What the endpoint shows is told by the history alone: for each day of the pair that was asked for the prediction
last written for it, as it was written, if no marking since then found it too old (`forecasts_shown_iff`).
-/
namespace Krishi

open Lib

/-! ## What was written -/

/-- What an event writes to the table. -/
def Archive.wrote (s : Archive) : ForecastEvent → List Forecast
  | .run cfg fuel x _ => ((ForecastEngine.run cfg fuel).run x.exec ⟨s.db, 0, []⟩).2.written
  | .elsewhere _ => []
  | .markStale _ _ => []

/-- What a series of events writes, in order. -/
def Archive.written : Archive → List ForecastEvent → List Forecast
  | _, [] => []
  | s, e :: es => s.wrote e ++ (s.step e).written es

theorem Archive.written_append : ∀ (es es' : List ForecastEvent) (s : Archive),
    s.written (es ++ es') = s.written es ++ (Lib.after Archive.step s es).written es'
  | [], _, _ => rfl
  | e :: es, es', s => by
    rw [List.cons_append, Archive.written, Archive.written_append es es' (s.step e), Archive.written, List.append_assoc,
      after_cons]

/-- The archive before any event. -/
def Archive.start (db : DB) : Archive := ⟨db, fun _ => []⟩

theorem Archive.after_append (db : DB) (es es' : List ForecastEvent) :
    Archive.after db (es ++ es') = Lib.after Archive.step (Archive.after db es) es' := Lib.after_append _ es es'

theorem Archive.written_concat (s : Archive) (es : List ForecastEvent) (e : ForecastEvent) :
    s.written (es ++ [e]) = s.written es ++ (Lib.after Archive.step s es).wrote e := by
  rw [Archive.written_append, Archive.written, Archive.written, List.append_nil]

/-- The row last written for a key, or the one that was there. -/
def lastWritten (db : DB) (es : List ForecastEvent) (k : Uuid × Uuid × Date) : Option Forecast :=
  (lastOf Forecast.key k ((Archive.start db).written es)).or (db.forecasts.get? k)

theorem lastWritten_concat (db : DB) (es : List ForecastEvent) (e : ForecastEvent) (k : Uuid × Uuid × Date) :
    lastWritten db (es ++ [e]) k
      = (lastOf Forecast.key k ((Archive.after db es).wrote e)).or (lastWritten db es k) := by
  unfold lastWritten
  rw [Archive.written_concat, lastOf_append, Option.or_assoc]
  rfl

/-- A marking at `now` of what is older than `hoursOld` hours passes over the row. -/
def Forecast.Passed (f : Forecast) (now : Time) (hoursOld : Int) : Prop :=
  f.status = .ok → now - hours hoursOld ≤ f.generatedAt

/-- **No marking found the row too old** since it was written: each that did came before its key was written again. -/
def Spared (db : DB) (es : List ForecastEvent) (f : Forecast) : Prop :=
  ∀ pre now hoursOld post, es = pre ++ .markStale now hoursOld :: post →
    f.key ∉ ((Archive.after db (pre ++ [.markStale now hoursOld])).written post).map Forecast.key →
    f.Passed now hoursOld

/-! ## One event -/

section Step

variable {db : DB} {es : List ForecastEvent} {e : ForecastEvent} {f : Forecast}

/-- The event is no marking that finds the row too old. -/
def ForecastEvent.Spares (e : ForecastEvent) (f : Forecast) : Prop :=
  ∀ now hoursOld, e = .markStale now hoursOld → f.Passed now hoursOld

theorem spared_concat : Spared db (es ++ [e]) f ↔
    f.key ∈ ((Archive.after db es).wrote e).map Forecast.key ∨ (Spared db es f ∧ e.Spares f) := by
  constructor
  · intro h
    by_cases hk : f.key ∈ ((Archive.after db es).wrote e).map Forecast.key
    · exact Or.inl hk
    · refine Or.inr ⟨?_, ?_⟩
      · rintro pre now hoursOld post rfl hnot
        refine h pre now hoursOld (post ++ [e]) (by simp) (fun hmem => ?_)
        rw [Archive.written_concat, List.map_append, ← Archive.after_append, List.append_assoc] at hmem
        exact (List.mem_append.1 hmem).elim hnot hk
      · rintro now hoursOld rfl
        exact h es now hoursOld [] rfl List.not_mem_nil
  · intro h pre now hoursOld post hes hnot
    rcases List.eq_nil_or_concat post with rfl | ⟨post, e', rfl⟩
    · obtain ⟨rfl, he⟩ := List.append_inj' hes rfl
      obtain rfl := List.singleton_inj.1 he
      rcases h with hk | ⟨-, hmark⟩
      · cases hk
      · exact hmark now hoursOld rfl
    · rw [List.concat_eq_append, ← List.cons_append, ← List.append_assoc] at hes
      obtain ⟨rfl, he⟩ := List.append_inj' hes rfl
      obtain rfl := List.singleton_inj.1 he
      rw [List.concat_eq_append, Archive.written_concat, List.map_append, List.mem_append, not_or,
        ← Archive.after_append, List.append_assoc] at hnot
      rcases h with hk | ⟨hspared, -⟩
      · exact absurd hk hnot.2
      · exact hspared pre now hoursOld post rfl hnot.1

/-- An event writes no key twice. -/
theorem Archive.nodup_wrote (s : Archive) (e : ForecastEvent) : ((s.wrote e).map Forecast.key).Nodup := by
  cases e with
  | run cfg fuel x hclock =>
    obtain ⟨done, h⟩ := run_written cfg fuel x s.db
    exact h.nodup
  | elsewhere db => exact List.nodup_nil
  | markStale now hoursOld => exact List.nodup_nil

/-- **What an event leaves that is not stale**: what it wrote, and of the other keys what it does not find too old. -/
theorem Archive.mem_step {s : Archive} (hf : f.status ≠ .stale) : f ∈ (s.step e).db.forecasts.rows ↔
    f ∈ s.wrote e ∨ (f.key ∉ (s.wrote e).map Forecast.key ∧ f ∈ s.db.forecasts.rows ∧ e.Spares f) := by
  cases e with
  | run cfg fuel x hclock =>
    obtain ⟨done, h⟩ := run_written cfg fuel x s.db
    have hspares : (ForecastEvent.run cfg fuel x hclock).Spares f := fun now hoursOld he => by cases he
    have hkey : f.key ∉ (s.wrote (.run cfg fuel x hclock)).map Forecast.key ↔
        ∀ r ∈ ((ForecastEngine.run cfg fuel).run x.exec ⟨s.db, 0, []⟩).2.written, r.key ≠ f.key := by
      simp [Archive.wrote]
    rw [hkey, and_iff_left hspares, and_comm (a := ∀ r ∈ _, _)]
    exact h.mem
  | elsewhere db =>
    have hspares : (ForecastEvent.elsewhere db).Spares f := fun now hoursOld he => by cases he
    simp [Archive.step, Archive.wrote, hspares]
  | markStale now hoursOld =>
    have hspares : (ForecastEvent.markStale now hoursOld).Spares f ↔ f.Passed now hoursOld := by
      constructor
      · exact fun h => h now hoursOld rfl
      · rintro h _ _ ⟨⟩
        exact h
    have hpassed : ¬ (f.status = .ok ∧ f.generatedAt < now - hours hoursOld) ↔ f.Passed now hoursOld := by
      rw [not_and, not_lt]
      rfl
    rw [hspares, ← hpassed]
    show f ∈ (markStaleForecasts now hoursOld s.db).2.forecasts.rows ↔ _
    simp [Archive.wrote, not_expired hf]

end Step

/-! ## A series of events -/

/-- **What is in the table and not stale is what was last written for its key and spared since.** -/
theorem live_iff (db : DB) {f : Forecast} (hf : f.status ≠ .stale) (es : List ForecastEvent) :
    f ∈ (Archive.after db es).db.forecasts.rows ↔ lastWritten db es f.key = some f ∧ Spared db es f := by
  induction es using List.reverseRecOn with
  | nil =>
    have hspared : Spared db [] f := fun pre now hoursOld post he => absurd he (by simp)
    rw [and_iff_left hspared]
    show f ∈ db.forecasts.rows ↔ db.forecasts.get? f.key = some f
    rw [Table.get?_eq_some, and_iff_left rfl]
  | append_singleton es e ih =>
    rw [Archive.after_append, spared_concat, lastWritten_concat]
    show f ∈ ((Archive.after db es).step e).db.forecasts.rows ↔ _
    rw [Archive.mem_step hf, ih]
    by_cases hk : f.key ∈ ((Archive.after db es).wrote e).map Forecast.key
    · obtain ⟨r, hr, hkey⟩ := List.mem_map.1 hk
      have hlast : lastOf Forecast.key f.key ((Archive.after db es).wrote e) = some r := by
        rw [lastOf_of_nodup (Archive.nodup_wrote _ e), Table.find?_key_eq_some (Archive.nodup_wrote _ e)]
        exact ⟨hr, hkey⟩
      rw [hlast, Option.some_or]
      simp only [hk, not_true, false_and, or_false, true_or, and_true, Option.some.injEq]
      constructor
      · exact fun hm => List.inj_on_of_nodup_map (Archive.nodup_wrote _ e) hr hm hkey
      · rintro rfl
        exact hr
    · have hnot : f ∉ (Archive.after db es).wrote e := fun hm => hk (List.mem_map_of_mem hm)
      rw [lastOf_eq_none.2 hk, Option.none_or]
      simp only [hk, hnot, not_false_iff, false_or, true_and, and_assoc]

/-! ## What is shown -/

/-- **The endpoint shows for each day asked for the prediction last written for it, if no marking since found it too
old**, by their days. -/
theorem forecasts_shown_iff (db : DB) (events : List ForecastEvent) (x : Conditions) (pair : Pair) (days : Nat)
    {views : List ForecastView} {b : Board}
    (hread : (getForecasts pair days).run x.exec ⟨(Archive.after db events).db, 0, []⟩ = (.ok views, b)) :
    (views.map (·.forecast)).Pairwise (fun f f' => f.forecastDate < f'.forecastDate) ∧
    ∀ f, f ∈ views.map (·.forecast) ↔ f.pair = pair ∧ f.status = .ok ∧ x.today ≤ f.forecastDate ∧
      f.forecastDate ≤ x.today + (days - 1) ∧ lastWritten db events f.key = some f ∧ Spared db events f := by
  rw [run_getForecasts hread]
  refine ⟨shown_sorted, fun f => ?_⟩
  rw [mem_shown]
  constructor
  · rintro ⟨hf, hp, hok, hdates⟩
    have hlive : f.status ≠ .stale := fun he => by
      rw [hok] at he
      cases he
    exact ⟨hp, hok, hdates.1, hdates.2, (live_iff db hlive events).1 hf⟩
  · rintro ⟨hp, hok, hge, hle, hlast⟩
    have hlive : f.status ≠ .stale := fun he => by
      rw [hok] at he
      cases he
    exact ⟨(live_iff db hlive events).2 hlast, hp, hok, hge, hle⟩

/-! ## Onions, forecast on day 20 -/

/-- Twenty hours after the run nothing is too old, and the next day the endpoint shows that day and the one after it. -/
theorem forecasts_shown_onions :
    let events := forecastOn20 ++ [.markStale (hours 500) 24]
    ∃ views b, (getForecasts (1, 1) 2).run (quietDay 21).exec ⟨(Archive.after (onionDays 10) events).db, 0, []⟩
        = (.ok views, b) ∧ views.map (·.forecast.forecastDate) = [21, 22] ∧
      (views.map (·.forecast)).Pairwise (fun f f' => f.forecastDate < f'.forecastDate) ∧
      ∀ f, f ∈ views.map (·.forecast) ↔ f.pair = (1, 1) ∧ f.status = .ok ∧ 21 ≤ f.forecastDate ∧
        f.forecastDate ≤ 22 ∧ lastWritten (onionDays 10) events f.key = some f ∧ Spared (onionDays 10) events f := by
  intro events
  rcases hrun : (getForecasts (1, 1) 2).run (quietDay 21).exec ⟨(Archive.after (onionDays 10) events).db, 0, []⟩
    with ⟨r, b⟩
  have hshown : r.map (fun views => views.map (·.forecast.forecastDate)) = .ok [21, 22] := by
    have hdates : ((getForecasts (1, 1) 2).run (quietDay 21).exec ⟨(Archive.after (onionDays 10) events).db, 0, []⟩).1.map
        (fun views => views.map (·.forecast.forecastDate)) = .ok [21, 22] := by decide +kernel
    rwa [hrun] at hdates
  cases r with
  | error e => cases hshown
  | ok views =>
    exact ⟨views, b, rfl, Except.ok.inj hshown, forecasts_shown_iff (onionDays 10) events (quietDay 21) (1, 1) 2 hrun⟩

end Krishi
