import KrishiBazaar.Horizon
/-!
# RunOrder — a run is as good in one order of its pairs as in another

The pairs of a run come from a set, and each is handled for itself: a call that fails costs its own pair and no other.
What comes of a pair is the history fetched for it, or nothing if a call for it failed (`outcome`), and the outcomes of
the pairs, in any order, say what the table is afterwards but for the stamps (`run_isolated`).
-/
namespace Krishi

open Lib

def Forecast.unstamped (f : Forecast) : Forecast := { f with generatedAt := 0 }

/-- The rows made of a pair's history, but for their stamps. -/
def rowsOf (cfg : ForecastConfig) (bands : Uuid → Option (ℚ × ℚ)) (today : Date) (pair : Pair)
    (history : List SeriesRow) : List Forecast :=
  (forecastDrafts cfg pair.1 pair.2 (buildDailySeries history) (bands pair.2) today).map (fun draft => draft 0)

/-- What came of a pair that is handled on the board: its history, or none if a call for it failed. -/
def outcome (cfg : ForecastConfig) (bands : Uuid → Option (ℚ × ℚ)) (x : Conditions) (b : Board) (pair : Pair) :
    Option (List SeriesRow) :=
  ((pairCalls cfg bands ⟨0, 0, 0, 0⟩ pair).run x.exec b).1.toOption.bind
    (fun _ => ((fetchHistory pair).run x.exec b).1.toOption)

/-- What came of the pairs, handled one after the other. -/
def outcomes (cfg : ForecastConfig) (bands : Uuid → Option (ℚ × ℚ)) (x : Conditions) : List Pair → Board →
    List (Pair × Option (List SeriesRow))
  | [], _ => []
  | pair :: pairs, b => (pair, outcome cfg bands x b pair) ::
      outcomes cfg bands x pairs ((forecastPair cfg bands ⟨0, 0, 0, 0⟩ pair).run x.exec b).2

/-- The rows of the pairs that did not fail. -/
def rowsMade (cfg : ForecastConfig) (bands : Uuid → Option (ℚ × ℚ)) (today : Date)
    (l : List (Pair × Option (List SeriesRow))) : List Forecast :=
  l.flatMap (fun o => o.2.elim [] (rowsOf cfg bands today o.1))

/-- What a pair with these rows adds to the counts. -/
def RunSummary.tally (s : RunSummary) (rows : List Forecast) : RunSummary := if rows = [] then s.skip else s.count rows

/-! ## The rows of a pair -/

section

variable {cfg : ForecastConfig} {bands : Uuid → Option (ℚ × ℚ)} {today : Date} {pair : Pair} {history : List SeriesRow}
  {x : Conditions} {b : Board}

theorem find?_unstamped (k : Uuid × Uuid × Date) (rows : List Forecast) :
    (rows.map Forecast.unstamped).find? (fun r => r.key = k)
      = (rows.find? (fun r => r.key = k)).map Forecast.unstamped := by
  rw [List.find?_map]
  rfl

theorem unstamped_stamped (n : Nat) :
    (stamped x n (forecastDrafts cfg pair.1 pair.2 (buildDailySeries history) (bands pair.2) x.today)).map
      Forecast.unstamped = rowsOf cfg bands x.today pair history := by
  unfold rowsOf forecastDrafts
  cases (buildDailySeries history).getLast? with
  | none => rfl
  | some last =>
    dsimp only
    split
    · rfl
    · refine List.ext_getElem (by simp [stamped]) (fun i h h' => ?_)
      simp [stamped, predictedRow, Forecast.unstamped]

/-- The rows of a pair: none, one that says its data is insufficient, or a week of predictions. -/
inductive RowsShape (pair : Pair) : List Forecast → Prop
  | none : RowsShape pair []
  | insufficient (r : Forecast) (hpair : r.pair = pair) (hstatus : r.status = .insufficientData) : RowsShape pair [r]
  | week (rows : List Forecast) (start : Date)
      (hkeys : rows.map Forecast.key = (List.range 7).map (fun i : Nat => (pair.1, pair.2, start + (i + 1))))
      (hstatus : ∀ r ∈ rows, r.status = .ok) : RowsShape pair rows

theorem rowsOf_shape : RowsShape pair (rowsOf cfg bands today pair history) := by
  unfold rowsOf forecastDrafts
  cases (buildDailySeries history).getLast? with
  | none => exact .none
  | some last =>
    dsimp only
    split
    · exact .insufficient _ rfl rfl
    · refine .week _ (max last.1 today) ?_ ?_
      · refine List.ext_getElem (by simp [length_tier]) (fun i h h' => ?_)
        simp [predictedRow, Forecast.key]
      · intro r hr
        obtain ⟨i, hi, rfl⟩ := List.getElem_of_mem hr
        simp [predictedRow]

end

namespace RowsShape

variable {pair : Pair} {rows : List Forecast}

theorem pair_eq (h : RowsShape pair rows) : ∀ r ∈ rows, r.pair = pair := by
  cases h with
  | none => simp
  | insufficient r' hpair hstatus =>
    intro r hr
    rwa [List.mem_singleton.1 hr]
  | week _ start hkeys hstatus => exact pair_of_keys hkeys

theorem nodup (h : RowsShape pair rows) : (rows.map Forecast.key).Nodup := by
  cases h with
  | none => simp
  | insufficient r hpair hstatus => simp
  | week _ start hkeys hstatus =>
    rw [hkeys]
    refine List.Nodup.map (fun i j hij => ?_) List.nodup_range
    have hdate : start + ((i : Int) + 1) = start + ((j : Int) + 1) := (Prod.mk.inj (Prod.mk.inj hij).2).2
    have hnat := Int.add_left_cancel hdate
    omega

/-- **Each pair is counted once, and its rows with it.** -/
theorem tally (h : RowsShape pair rows) (s : RunSummary) :
    (s.tally rows).pairsOk + (s.tally rows).pairsInsufficient + (s.tally rows).pairsSkipped
      = s.pairsOk + s.pairsInsufficient + s.pairsSkipped + 1 ∧
    (s.rowsWritten = 7 * s.pairsOk + s.pairsInsufficient →
      (s.tally rows).rowsWritten = 7 * (s.tally rows).pairsOk + (s.tally rows).pairsInsufficient) := by
  cases h with
  | none =>
    simp only [RunSummary.tally, RunSummary.skip, if_true]
    exact ⟨rfl, id⟩
  | insufficient r hpair hstatus =>
    simp only [RunSummary.tally, RunSummary.count, List.cons_ne_nil, if_false, List.head?_cons, Option.any_some, hstatus,
      decide_true, if_true, List.length_singleton]
    omega
  | week _ start hkeys hstatus =>
    have hlen : rows.length = 7 := by
      have hl := congrArg List.length hkeys
      simpa using hl
    cases rows with
    | nil => simp at hlen
    | cons r rest =>
      have hok : r.status = .ok := hstatus r List.mem_cons_self
      simp only [RunSummary.tally, RunSummary.count, List.cons_ne_nil, if_false, List.head?_cons, Option.any_some, hok,
        hlen]
      simp only [reduceCtorEq, decide_false, Bool.false_eq_true, if_false]
      omega

end RowsShape

theorem RunSummary.tally_map_unstamped (s : RunSummary) (rows : List Forecast) :
    s.tally (rows.map Forecast.unstamped) = s.tally rows := by
  cases rows with
  | nil => rfl
  | cons r rest => simp [RunSummary.tally, RunSummary.count, Forecast.unstamped]

/-! ## Upserts -/

/-- The rows upserted by their keys, but for the stamps. -/
structure Upserts (db : DB) (rows : List Forecast) (db' : DB) : Prop where
  frame : db' = { db with forecasts := db'.forecasts }
  row : ∀ k, (db'.forecasts.get? k).map Forecast.unstamped
    = (rows.find? (fun r => r.key = k)).or ((db.forecasts.get? k).map Forecast.unstamped)

namespace Upserts

variable {db db' db'' : DB} {rows rows' : List Forecast}

theorem refl (db : DB) : Upserts db [] db := ⟨rfl, fun _ => rfl⟩

theorem of_upsert? (h : forecasts.upsert? db rows = .ok db') : Upserts db (rows.map Forecast.unstamped) db' := by
  obtain ⟨-, tbl, rfl, hget⟩ := Tab.upsert?_ok h
  refine ⟨rfl, fun k => ?_⟩
  have hk : (forecasts.set db tbl).forecasts.get? k
    = (rows.find? (fun r => r.key = k)).or (db.forecasts.get? k) := hget k
  rw [hk, find?_unstamped, Option.map_or]

theorem trans (h : Upserts db rows db') (h' : Upserts db' rows' db'') : Upserts db (rows' ++ rows) db'' where
  frame := by rw [h'.frame, h.frame]
  row k := by rw [h'.row, h.row, List.find?_append, Option.or_assoc]

theorem perm (h : Upserts db rows db') (hnd : (rows.map Forecast.key).Nodup) (hp : rows'.Perm rows) :
    Upserts db rows' db' := by
  refine ⟨h.frame, fun k => ?_⟩
  rw [h.row, Table.find?_key_perm hnd hp]

end Upserts

/-! ## The outcomes -/

section

variable (cfg : ForecastConfig) (bands : Uuid → Option (ℚ × ℚ)) (x : Conditions)

theorem map_fst_outcomes : ∀ (pairs : List Pair) (b : Board), (outcomes cfg bands x pairs b).map (·.1) = pairs
  | [], _ => rfl
  | pair :: pairs, b => by
    rw [outcomes, List.map_cons, map_fst_outcomes pairs]

theorem rowsMade_cons (today : Date) (pair : Pair) (o : Option (List SeriesRow))
    (l : List (Pair × Option (List SeriesRow))) : rowsMade cfg bands today ((pair, o) :: l)
      = o.elim [] (rowsOf cfg bands today pair) ++ rowsMade cfg bands today l := List.flatMap_cons

theorem elim_shape (today : Date) (pair : Pair) (o : Option (List SeriesRow)) :
    RowsShape pair (o.elim [] (rowsOf cfg bands today pair)) := by
  cases o with
  | none => exact .none
  | some history => exact rowsOf_shape

theorem pair_mem_of_rowsMade {today : Date} {l : List (Pair × Option (List SeriesRow))} {r : Forecast}
    (hr : r ∈ rowsMade cfg bands today l) : r.pair ∈ l.map (·.1) := by
  obtain ⟨o, ho, hmem⟩ := List.mem_flatMap.1 hr
  rw [(elim_shape cfg bands today o.1 o.2).pair_eq r hmem]
  exact List.mem_map_of_mem ho

/-- **No two of the rows of different pairs have one key.** -/
theorem nodup_rowsMade (today : Date) : ∀ {l : List (Pair × Option (List SeriesRow))}, (l.map (·.1)).Nodup →
    ((rowsMade cfg bands today l).map Forecast.key).Nodup
  | [], _ => List.nodup_nil
  | (pair, o) :: l, hnd => by
    rw [List.map_cons, List.nodup_cons] at hnd
    rw [rowsMade_cons, List.map_append, List.nodup_append]
    refine ⟨(elim_shape cfg bands today pair o).nodup, nodup_rowsMade today hnd.2, ?_⟩
    intro k hk k' hk' he
    obtain ⟨r, hr, rfl⟩ := List.mem_map.1 hk
    obtain ⟨r', hr', rfl⟩ := List.mem_map.1 hk'
    have hpair : r'.pair = pair :=
      (Forecast.pair_eq_of_key he).symm.trans ((elim_shape cfg bands today pair o).pair_eq r hr)
    exact hnd.1 (hpair ▸ pair_mem_of_rowsMade cfg bands hr')

theorem outcome_eq_some {b : Board} {pair : Pair} {history : List SeriesRow}
    (h : outcome cfg bands x b pair = some history) :
    history = pairHistory (x.order b.calls) x.today b.db.prices pair := by
  obtain ⟨-, -, hfetch⟩ := Option.bind_eq_some_iff.1 h
  cases hr : ((fetchHistory pair).run x.exec b).1 with
  | error e =>
    rw [hr] at hfetch
    cases hfetch
  | ok rows =>
    rw [hr] at hfetch
    obtain rfl := Option.some.inj hfetch
    exact eq_pairHistory hr

theorem outcome_of_ok {b : Board} {pair : Pair} {s : RunSummary} {history : List SeriesRow}
    (h : ((pairCalls cfg bands ⟨0, 0, 0, 0⟩ pair).run x.exec b).1 = .ok s)
    (hfetch : ((fetchHistory pair).run x.exec b).1 = .ok history) : outcome cfg bands x b pair = some history := by
  unfold outcome
  rw [h, hfetch]
  rfl

/-- **What handling a pair does** is said by its outcome. -/
theorem run_outcome (b : Board) (pair : Pair) : ∃ b',
    (∀ s : RunSummary, (forecastPair cfg bands s pair).run x.exec b
      = (.ok (s.tally ((outcome cfg bands x b pair).elim [] (rowsOf cfg bands x.today pair))), b')) ∧
    Upserts b.db ((outcome cfg bands x b pair).elim [] (rowsOf cfg bands x.today pair)) b'.db := by
  have hcatch : ∀ s, (forecastPair cfg bands s pair).run x.exec b
      = Prog.run x.exec (Prog.tryCatch (pairCalls cfg bands s pair) (fun _ => pure s.skip)) b := fun _ => rfl
  rcases pairCalls_cases cfg x b pair bands with ⟨e, n, hrun⟩ | ⟨history, rows, hfetch, hrows, hcase⟩
  · have ho : outcome cfg bands x b pair = none := by
      unfold outcome
      rw [hrun]
      rfl
    refine ⟨{ b with calls := n }, fun s => ?_, ?_⟩
    · rw [hcatch, Prog.run_tryCatch, hrun, ho]
      rfl
    · rw [ho]
      exact .refl b.db
  · have hmade : rows.map Forecast.unstamped = rowsOf cfg bands x.today pair history :=
      (congrArg _ hrows).trans (unstamped_stamped (b.calls + 1))
    rcases hcase with ⟨hnil, n, hrun⟩ | ⟨hne, db, n, hup, hrun⟩
    · have ho := outcome_of_ok cfg bands x (congrArg Prod.fst (hrun _)) hfetch
      rw [hnil] at hmade
      refine ⟨{ b with calls := n }, fun s => ?_, ?_⟩
      · rw [hcatch, Prog.run_tryCatch, hrun, ho, Option.elim, ← hmade]
        rfl
      · rw [ho, Option.elim, ← hmade]
        exact .refl b.db
    · have ho := outcome_of_ok cfg bands x (congrArg Prod.fst (hrun _)) hfetch
      refine ⟨⟨db, n, b.written ++ rows⟩, fun s => ?_, ?_⟩
      · rw [hcatch, Prog.run_tryCatch, hrun, ho, Option.elim, ← hmade, RunSummary.tally_map_unstamped]
        simp [RunSummary.tally, hne]
      · rw [ho, Option.elim, ← hmade]
        exact .of_upsert? hup

/-- **The history of a pair that did not fail is its rows of the window**, whichever pairs were handled before it. -/
theorem history_of_outcomes : ∀ (pairs : List Pair) (b : Board), ∀ o ∈ outcomes cfg bands x pairs b, ∀ history ∈ o.2,
    ∃ n, history = pairHistory (x.order n) x.today b.db.prices o.1
  | [], _, o, ho => by cases ho
  | pair :: pairs, b, o, ho => by
    intro history hhistory
    obtain ⟨b₁, hpair, hups⟩ := run_outcome cfg bands x b pair
    rcases List.mem_cons.1 ho with rfl | ho
    · exact ⟨b.calls, outcome_eq_some cfg bands x hhistory⟩
    · rw [hpair] at ho
      have hprices : b₁.db.prices = b.db.prices := by rw [hups.frame]
      exact hprices ▸ history_of_outcomes pairs b₁ o ho history hhistory

/-- **What handling the pairs does**, from any counts on. -/
theorem run_outcomes : ∀ (pairs : List Pair) (s : RunSummary) (b : Board), pairs.Nodup → ∃ s' b',
    (pairs.foldlM (forecastPair cfg bands) s).run x.exec b = (.ok s', b') ∧
    Upserts b.db (rowsMade cfg bands x.today (outcomes cfg bands x pairs b)) b'.db ∧
    s'.pairsOk + s'.pairsInsufficient + s'.pairsSkipped
      = s.pairsOk + s.pairsInsufficient + s.pairsSkipped + pairs.length ∧
    (s.rowsWritten = 7 * s.pairsOk + s.pairsInsufficient → s'.rowsWritten = 7 * s'.pairsOk + s'.pairsInsufficient)
  | [], s, b, _ => ⟨s, b, rfl, .refl b.db, rfl, id⟩
  | pair :: pairs, s, b, hnd => by
    obtain ⟨b₁, hpair, hups⟩ := run_outcome cfg bands x b pair
    have hshape := elim_shape cfg bands x.today pair (outcome cfg bands x b pair)
    obtain ⟨s', b', hrest, hups', hcount, hrows⟩ := run_outcomes pairs
      (s.tally ((outcome cfg bands x b pair).elim [] (rowsOf cfg bands x.today pair))) b₁ (List.nodup_cons.1 hnd).2
    have hout : outcomes cfg bands x (pair :: pairs) b
        = (pair, outcome cfg bands x b pair) :: outcomes cfg bands x pairs b₁ := by rw [outcomes, hpair]
    refine ⟨s', b', ?_, ?_, ?_, fun h => hrows ((hshape.tally s).2 h)⟩
    · rw [List.foldlM_cons, Prog.run_bind, hpair, Prog.onOk_ok, hrest]
    · -- the rows of the other pairs have other keys, so they may come first
      have hkeys : ((rowsMade cfg bands x.today (outcomes cfg bands x (pair :: pairs) b)).map Forecast.key).Nodup :=
        nodup_rowsMade cfg bands x.today (by rwa [map_fst_outcomes])
      rw [hout, rowsMade_cons] at hkeys ⊢
      have hrows' := hups.trans hups'
      exact hrows'.perm ((List.perm_append_comm.map _).nodup_iff.2 hkeys) List.perm_append_comm
    · rw [hcount, (hshape.tally s).1, List.length_cons]
      omega

end

/-- What handling the pairs one after the other, from a board on, leaves: the rows of the histories of the pairs that did
not fail are upserted, which any other order of the pairs with the same outcomes does too, and the counts agree with
them. -/
structure PairsApart (cfg : ForecastConfig) (bands : Uuid → Option (ℚ × ℚ)) (x : Conditions) (b : Board)
    (pairs : List Pair) (s : RunSummary) (b' : Board) : Prop where
  upserts : Upserts b.db (rowsMade cfg bands x.today (outcomes cfg bands x pairs b)) b'.db
  history : ∀ o ∈ outcomes cfg bands x pairs b, ∀ history ∈ o.2,
    ∃ n, history = pairHistory (x.order n) x.today b.db.prices o.1
  counted : s.pairsOk + s.pairsInsufficient + s.pairsSkipped = pairs.length
  written : s.rowsWritten = 7 * s.pairsOk + s.pairsInsufficient
  unordered : ∀ (x₂ : Conditions) (b₂ : Board) (pairs₂ : List Pair), x₂.today = x.today → b₂.db = b.db →
    (outcomes cfg bands x₂ pairs₂ b₂).Perm (outcomes cfg bands x pairs b) → ∃ s₂ b₂',
      (pairs₂.foldlM (forecastPair cfg bands) ⟨0, 0, 0, 0⟩).run x₂.exec b₂ = (.ok s₂, b₂') ∧
      ∀ k, (b₂'.db.forecasts.get? k).map Forecast.unstamped = (b'.db.forecasts.get? k).map Forecast.unstamped

theorem loop_apart (cfg : ForecastConfig) (bands : Uuid → Option (ℚ × ℚ)) (x : Conditions) (b : Board)
    (pairs : List Pair) (hnd : pairs.Nodup) : ∃ s b',
      (pairs.foldlM (forecastPair cfg bands) ⟨0, 0, 0, 0⟩).run x.exec b = (.ok s, b') ∧
      PairsApart cfg bands x b pairs s b' := by
  obtain ⟨s, b', hrun, hups, hcount, hrows⟩ := run_outcomes cfg bands x pairs ⟨0, 0, 0, 0⟩ b hnd
  refine ⟨s, b', hrun, hups, history_of_outcomes cfg bands x pairs b, by simpa using hcount, hrows rfl, ?_⟩
  intro x₂ b₂ pairs₂ htoday hdb hperm
  have hpairs : pairs₂.Perm pairs := by
    simpa only [map_fst_outcomes] using hperm.map (·.1)
  obtain ⟨s₂, b₂', hrun₂, hups₂, -, -⟩ := run_outcomes cfg bands x₂ pairs₂ ⟨0, 0, 0, 0⟩ b₂
    (hpairs.nodup_iff.2 hnd)
  refine ⟨s₂, b₂', hrun₂, fun k => ?_⟩
  have hmade : (rowsMade cfg bands x₂.today (outcomes cfg bands x₂ pairs₂ b₂)).Perm
      (rowsMade cfg bands x.today (outcomes cfg bands x pairs b)) := htoday ▸ hperm.flatMap_right _
  have hkeys : ((rowsMade cfg bands x.today (outcomes cfg bands x pairs b)).map Forecast.key).Nodup :=
    nodup_rowsMade cfg bands x.today (by rwa [map_fst_outcomes])
  rw [hups₂.row, hups.row, hdb, Table.find?_key_perm hkeys hmade]

/-- **A run handles each of its pairs for itself, in whatever order.**  Its loop does so with any distinct pairs, and a
run as a whole, if it found the pairs, is its loop over them; else it leaves the tables as they are. -/
theorem run_isolated (cfg : ForecastConfig) (x : Conditions) :
    (∀ (bands : Uuid → Option (ℚ × ℚ)) (b : Board) (pairs : List Pair), pairs.Nodup → ∃ s b',
      (pairs.foldlM (forecastPair cfg bands) ⟨0, 0, 0, 0⟩).run x.exec b = (.ok s, b') ∧
      PairsApart cfg bands x b pairs s b') ∧
    ∀ (fuel : Nat) (db : DB),
      (∃ e n, (ForecastEngine.run cfg fuel).run x.exec ⟨db, 0, []⟩ = (.error e, ⟨db, n, []⟩)) ∨
      ∃ (bands : Uuid → Option (ℚ × ℚ)) (pairs : List Pair) (n : Nat) (s : RunSummary) (b' : Board), pairs.Nodup ∧
        (ForecastEngine.run cfg fuel).run x.exec ⟨db, 0, []⟩ = (.ok s, b') ∧
        PairsApart cfg bands x ⟨db, n, []⟩ pairs s b' := by
  refine ⟨fun bands b pairs hnd => loop_apart cfg bands x b pairs hnd, fun fuel db => ?_⟩
  rcases run_visits cfg fuel x db with hfailed | ⟨bands, pairs, n, hnd, hrun⟩
  · exact Or.inl hfailed
  · obtain ⟨s, b', hloop, happart⟩ := loop_apart cfg bands x ⟨db, n, []⟩ pairs hnd
    exact Or.inr ⟨bands, pairs, n, s, b', hnd, hrun.trans hloop, happart⟩

/-- The fetch for a pair without prices fails, and the onions are forecast all the same. -/
theorem onions_isolated :
    let x : Conditions := { quietDay 20 with fails := fun n => n = 0 }
    ∃ s b', ([(2, 1), (1, 1)].foldlM (forecastPair flatConfig (fun _ => none)) ⟨0, 0, 0, 0⟩).run x.exec
        ⟨onionDays 10, 0, []⟩ = (.ok s, b') ∧
      s.pairsOk + s.pairsInsufficient + s.pairsSkipped = 2 ∧ s.rowsWritten = 7 * s.pairsOk + s.pairsInsufficient ∧
      s = ⟨1, 0, 1, 7⟩ := by
  intro x
  obtain ⟨s, b', hrun, happart⟩ := (run_isolated flatConfig x).1 (fun _ => none) ⟨onionDays 10, 0, []⟩
    [(2, 1), (1, 1)] (by decide)
  have hs : (([(2, 1), (1, 1)].foldlM (forecastPair flatConfig (fun _ => none)) ⟨0, 0, 0, 0⟩).run x.exec
      ⟨onionDays 10, 0, []⟩).1 = .ok ⟨1, 0, 1, 7⟩ := by decide +kernel
  rw [hrun] at hs
  exact ⟨s, b', hrun, happart.counted, happart.written, Except.ok.inj hs⟩

end Krishi
