import KrishiBazaar.Locality
import KrishiBazaar.Lib.StableSort
import Mathlib.Order.WithBot
/-!
# Nearest — where a buyer next door is ranked

The ranking sorts by score and then by `distance_km or 10**9`, and `0.0 or 10**9` is `10**9`: a buyer at the farmer's own
place is put after every buyer of its score whose distance is known, and in no order with those whose distance is not.
Nothing else is wrong with the ranking, so it is the one that is wanted exactly when the limit leaves out whoever would
stand before such a buyer (`rankBuyers_nearest_iff`).
-/
namespace Krishi

open Lib

/-- A row that has to come before another: a higher score, or the same and a distance known to be smaller. -/
def MatchRow.Precedes (a b : MatchRow) : Prop :=
  b.score < a.score ∨ (b.score = a.score ∧ ∃ d ∈ a.distanceKm, ∀ d' ∈ b.distanceKm, d < d')

instance (a b : MatchRow) : Decidable (a.Precedes b) := inferInstanceAs (Decidable (_ ∨ _))

/-- The ranking is the beginning of an order of the candidates in which none follows one that it has to precede. -/
def NearestFirst (cfg : ReplyConfig) (lot : Lot) (profile : ProfileRow) (buyers : List Buyer) (limit : Nat) : Prop :=
  ∃ ordering : List Buyer, ordering.Perm (buyers.filter (fun b => Candidate lot b)) ∧
    (ordering.filterMap (scoreBuyer cfg lot profile)).Pairwise (fun a b => ¬ b.Precedes a) ∧
    rankBuyers cfg lot profile buyers limit = (ordering.filterMap (scoreBuyer cfg lot profile)).take limit

/-- Whoever would stand before a candidate at distance zero with the same score is left out: one whose distance is known
by the higher scores alone, one whose distance is not by these and the candidates of its score listed before it. -/
def ZerosFirst (rows : List MatchRow) (limit : Nat) : Prop :=
  ∀ pre x post, rows = pre ++ x :: post → x.distanceKm ≠ some 0 →
    (x.distanceKm ≠ none → (∃ z ∈ rows, z.score = x.score ∧ z.distanceKm = some 0) →
      limit ≤ rows.countP (fun r => x.score < r.score)) ∧
    ((∃ z ∈ post, z.score = x.score ∧ z.distanceKm = some 0) →
      limit ≤ rows.countP (fun r => x.score < r.score) + pre.countP (fun r => r.score = x.score))

/-- No two places are farther apart than half the way around the globe. -/
def OnGlobe (cfg : ReplyConfig) : Prop :=
  ∀ lat1 lng1 lat2 lng2, 0 ≤ cfg.greatCircle lat1 lng1 lat2 lng2 ∧ cfg.greatCircle lat1 lng1 lat2 lng2 ≤ 20016

/-! ## The two keys -/

/-- The distance as the ranking has it. -/
def MatchRow.far (r : MatchRow) : ℚ := (r.distanceKm.filter (· ≠ 0)).getD 1000000000

/-- Score and distance, the lower the better. -/
def MatchRow.wanted (r : MatchRow) : ℚᵒᵈ ×ₗ WithTop ℚ :=
  toLex (OrderDual.toDual r.score, r.distanceKm.elim ⊤ (fun d => (d : WithTop ℚ)))

def MatchRow.InRange (r : MatchRow) : Prop := ∀ d ∈ r.distanceKm, 0 ≤ d ∧ d < 1000000000

section Keys

variable {x y : MatchRow}

theorem wanted_lt_iff : x.wanted < y.wanted ↔ x.Precedes y := by
  unfold MatchRow.wanted MatchRow.Precedes
  rw [Prod.Lex.toLex_lt_toLex]
  simp only [OrderDual.toDual_lt_toDual, OrderDual.toDual_inj]
  refine or_congr_right (and_congr eq_comm ?_)
  cases x.distanceKm with
  | none => simp
  | some d => cases y.distanceKm <;> simp

theorem rank_lt_iff : x.rank < y.rank ↔ x.score < y.score ∨ (x.score = y.score ∧ y.far < x.far) := by
  unfold MatchRow.rank
  rw [Prod.Lex.toLex_lt_toLex]
  exact or_congr_right (and_congr_right' neg_lt_neg_iff)

theorem rank_eq_iff : x.rank = y.rank ↔ x.score = y.score ∧ x.far = y.far := by
  unfold MatchRow.rank
  rw [EmbeddingLike.apply_eq_iff_eq, Prod.mk.injEq]
  exact and_congr_right' neg_inj

/-- The ranking knows a distance that is not zero, and takes it for what it is. -/
theorem far_cases (h : x.InRange) :
    (∃ d, x.distanceKm = some d ∧ 0 < d ∧ d < 1000000000 ∧ x.far = d) ∨
      (x.distanceKm = none ∨ x.distanceKm = some 0) := by
  unfold MatchRow.far
  cases hx : x.distanceKm with
  | none => exact Or.inr (Or.inl rfl)
  | some d =>
    by_cases hd : d = 0
    · subst hd
      exact Or.inr (Or.inr rfl)
    · obtain ⟨hpos, hlt⟩ := h d hx
      refine Or.inl ⟨d, rfl, lt_of_le_of_ne hpos (Ne.symm hd), hlt, ?_⟩
      simp [Option.filter, hd]

theorem far_of_unknown (h : x.distanceKm = none ∨ x.distanceKm = some 0) : x.far = 1000000000 := by
  unfold MatchRow.far
  rcases h with h | h <;> simp [h, Option.filter]

/-- What is ranked no higher than another has to precede it only from distance zero, at the same score. -/
theorem precedes_iff (hx : x.InRange) (hy : y.InRange) (h : y.rank ≤ x.rank) :
    y.Precedes x ↔ y.score = x.score ∧ y.distanceKm = some 0 ∧ x.distanceKm ≠ some 0 := by
  have hle : y.score < x.score ∨ (y.score = x.score ∧ x.far ≤ y.far) := by
    rcases h.lt_or_eq with hlt | heq
    · exact (rank_lt_iff.1 hlt).imp_right (And.imp_right le_of_lt)
    · exact Or.inr ((rank_eq_iff.1 heq).imp_right ge_of_eq)
  rcases hle with hlt | ⟨hs, hfar⟩
  · refine iff_of_false ?_ (fun h => hlt.ne h.1)
    rintro (hlt' | ⟨heq, -⟩)
    · exact lt_asymm hlt hlt'
    · exact hlt.ne heq.symm
  · constructor
    · rintro (hlt | ⟨-, d, hd, hnear⟩)
      · exact absurd hs hlt.ne'
      · have hne : x.distanceKm ≠ some d := fun hxd => lt_irrefl _ (hnear d hxd)
        rcases far_cases hy with ⟨e, he, -, hlt, hey⟩ | hnone | hzero
        · obtain rfl := Option.some.inj (hd.symm.trans he)
          rcases far_cases hx with ⟨e, he, -, -, hex⟩ | hunknown
          · exact absurd (hnear e he) (not_lt.2 (hex ▸ hey ▸ hfar))
          · exact absurd hlt (not_lt.2 (far_of_unknown hunknown ▸ hey ▸ hfar))
        · rw [hnone] at hd
          cases hd
        · obtain rfl := Option.some.inj (hd.symm.trans hzero)
          exact ⟨hs, hzero, hne⟩
    · rintro ⟨-, hzero, hne⟩
      refine Or.inr ⟨hs.symm, 0, hzero, fun d hd => lt_of_le_of_ne (hx d hd).1 (fun h0 => hne ?_)⟩
      rw [h0]
      exact hd

theorem rank_lt_of_zero (hx : x.InRange) (hs : y.score = x.score) (hzero : y.distanceKm = some 0)
    (hne : x.distanceKm ≠ some 0) (hknown : x.distanceKm ≠ none) : y.rank < x.rank := by
  obtain ⟨d, -, -, hlt, hd⟩ := (far_cases hx).resolve_right (fun h => h.elim hknown hne)
  refine rank_lt_iff.2 (Or.inr ⟨hs, ?_⟩)
  rw [hd, far_of_unknown (Or.inr hzero)]
  exact hlt

theorem rank_eq_of_zero (hs : y.score = x.score) (hzero : y.distanceKm = some 0) (hnone : x.distanceKm = none) :
    y.rank = x.rank := by
  refine rank_eq_iff.2 ⟨hs, ?_⟩
  rw [far_of_unknown (Or.inr hzero), far_of_unknown (Or.inl hnone)]

end Keys

/-! ## How far the ranking is the wanted one -/

section Ranked

variable {rows : List MatchRow} {limit : Nat}

/-- The rows put before `x`, as the sort has them. -/
def placeOfRow (rows pre : List MatchRow) (x : MatchRow) : Nat :=
  rows.countP (fun r => x.rank < r.rank) + pre.countP (fun r => r.rank = x.rank)

/-- The condition on each row left in, said with the ranking's own key. -/
theorem kept_rows_iff (hrange : ∀ r ∈ rows, r.InRange) {pre post : List MatchRow} {x : MatchRow}
    (hrows : rows = pre ++ x :: post) :
    ((∀ y ∈ rows, y.rank < x.rank → ¬ y.Precedes x) ∧ (∀ y ∈ post, y.rank = x.rank → ¬ y.Precedes x)) ↔
      (x.distanceKm ≠ some 0 → (x.distanceKm ≠ none → ∀ z ∈ rows, z.score = x.score → z.distanceKm ≠ some 0) ∧
        ∀ z ∈ post, z.score = x.score → z.distanceKm ≠ some 0) := by
  have hx : x.InRange := hrange x (by simp [hrows])
  have hpost : ∀ z ∈ post, z ∈ rows := fun z hz => by simp [hrows, hz]
  constructor
  · rintro ⟨hlow, htie⟩ hne
    have hknown : x.distanceKm ≠ none → ∀ z ∈ rows, z.score = x.score → z.distanceKm ≠ some 0 := by
      intro hknown z hz hs hzero
      have hlt := rank_lt_of_zero hx hs hzero hne hknown
      exact hlow z hz hlt ((precedes_iff hx (hrange z hz) hlt.le).2 ⟨hs, hzero, hne⟩)
    refine ⟨hknown, fun z hz hs hzero => ?_⟩
    by_cases hnone : x.distanceKm = none
    · have heq := rank_eq_of_zero hs hzero hnone
      exact htie z hz heq ((precedes_iff hx (hrange z (hpost z hz)) heq.le).2 ⟨hs, hzero, hne⟩)
    · exact hknown hnone z (hpost z hz) hs hzero
  · intro h
    constructor
    · intro y hy hlt hprec
      obtain ⟨hs, hzero, hne⟩ := (precedes_iff hx (hrange y hy) hlt.le).1 hprec
      refine (h hne).1 (fun hnone => ?_) y hy hs hzero
      exact hlt.ne (rank_eq_of_zero hs hzero hnone)
    · intro y hy heq hprec
      obtain ⟨hs, hzero, hne⟩ := (precedes_iff hx (hrange y (hpost y hy)) heq.le).1 hprec
      exact (h hne).2 y hy hs hzero

theorem countP_score_le (x : MatchRow) (l : List MatchRow) :
    l.countP (fun r => x.score < r.score) ≤ l.countP (fun r => x.rank < r.rank) :=
  List.countP_mono_left (fun _ _ hr => decide_eq_true (rank_lt_iff.2 (Or.inl (of_decide_eq_true hr))))

theorem le_placeOfRow (rows pre : List MatchRow) (x : MatchRow) :
    rows.countP (fun r => x.score < r.score) ≤ placeOfRow rows pre x :=
  Nat.le_add_right_of_le (countP_score_le x rows)

/-- Before a row whose distance is unknown are all of its score that were listed before it. -/
theorem le_placeOfRow_unknown (hrange : ∀ r ∈ rows, r.InRange) {pre post : List MatchRow} {x : MatchRow}
    (hrows : rows = pre ++ x :: post) (hnone : x.distanceKm = none) :
    rows.countP (fun r => x.score < r.score) + pre.countP (fun r => r.score = x.score) ≤ placeOfRow rows pre x := by
  have hfar : ∀ r ∈ rows, r.far ≤ x.far := by
    have hx := far_of_unknown (Or.inl hnone)
    intro r hr
    rcases far_cases (hrange r hr) with ⟨d, -, -, hlt, hd⟩ | hunknown
    · rw [hd, hx]
      exact hlt.le
    · rw [far_of_unknown hunknown, hx]
  have hpre : pre.countP (fun r => x.score ≤ r.score) ≤ pre.countP (fun r => x.rank ≤ r.rank) := by
    refine List.countP_mono_left (fun r hr hle => decide_eq_true ?_)
    rcases (of_decide_eq_true hle).lt_or_eq with hlt | heq
    · exact (rank_lt_iff.2 (Or.inl hlt)).le
    · rcases (hfar r (by simp [hrows, hr])).lt_or_eq with hlt | hsame
      · exact (rank_lt_iff.2 (Or.inr ⟨heq, hlt⟩)).le
      · exact (rank_eq_iff.2 ⟨heq, hsame.symm⟩).le
  have hpost := countP_score_le x (x :: post)
  have hscores := countP_lt_add_countP_eq MatchRow.score x.score pre
  have hranks := countP_lt_add_countP_eq MatchRow.rank x.rank pre
  unfold placeOfRow
  subst hrows
  rw [List.countP_append, List.countP_append]
  omega

/-- The row that leads those of a score has only the higher scores before it, and its distance is known if one of them
is. -/
theorem exists_leader (hrange : ∀ r ∈ rows, r.InRange) {x : MatchRow} (hx : x ∈ rows) (hne : x.distanceKm ≠ some 0)
    (hknown : x.distanceKm ≠ none) : ∃ pre w post, rows = pre ++ w :: post ∧ w.score = x.score ∧
      w.distanceKm ≠ some 0 ∧ w.distanceKm ≠ none ∧ placeOfRow rows pre w ≤ rows.countP (fun r => x.score < r.score) := by
  have hgroup : x ∈ rows.filter (fun r => r.score = x.score) := List.mem_filter.2 ⟨hx, decide_eq_true rfl⟩
  obtain ⟨first, w, rest, hfilter, hmax, hfirst⟩ := exists_first_max MatchRow.rank (List.ne_nil_of_mem hgroup)
  obtain ⟨pre, post, hrows, hpre, -⟩ := exists_of_filter_eq hfilter
  have hw : w ∈ rows.filter (fun r => r.score = x.score) := hfilter ▸ by simp
  obtain ⟨hwmem, hws⟩ := List.mem_filter.1 hw
  have hws : w.score = x.score := of_decide_eq_true hws
  have hlead : ∀ r ∈ rows, r.score = w.score → r.rank ≤ w.rank := fun r hr hs =>
    hmax r (List.mem_filter.2 ⟨hr, decide_eq_true (hs.trans hws)⟩)
  refine ⟨pre, w, post, hrows, hws, ?_, ?_, ?_⟩
  · intro hzero
    exact absurd (rank_lt_of_zero (hrange x hx) hws hzero hne hknown) (not_lt.2 (hlead x hx hws.symm))
  · intro hnone
    obtain ⟨d, -, -, hlt, hd⟩ := (far_cases (hrange x hx)).resolve_right (fun h => h.elim hknown hne)
    refine absurd (rank_lt_iff.2 (Or.inr ⟨hws, ?_⟩)) (not_lt.2 (hlead x hx hws.symm))
    rw [hd, far_of_unknown (Or.inl hnone)]
    exact hlt
  · have hnone : pre.countP (fun r => r.rank = w.rank) = 0 := by
      refine List.countP_eq_zero.2 (fun r hr heq => ?_)
      have heq : r.rank = w.rank := of_decide_eq_true heq
      have hmem : r ∈ first := by
        rw [← hpre]
        exact List.mem_filter.2 ⟨hr, decide_eq_true ((rank_eq_iff.1 heq).1.trans hws)⟩
      exact (hfirst r hmem).ne heq
    unfold placeOfRow
    rw [hnone, Nat.add_zero]
    refine List.countP_mono_left (fun r hr hlt => decide_eq_true ?_)
    rcases rank_lt_iff.1 (of_decide_eq_true hlt) with hs | ⟨hs, -⟩
    · exact hws ▸ hs
    · exact absurd (of_decide_eq_true hlt) (not_lt.2 (hlead r hr hs.symm))

/-- Where no distance of its score is known, only the higher scores and what was listed before it stand before a row. -/
theorem placeOfRow_le {pre : List MatchRow} {x : MatchRow} (hnone : x.distanceKm = none)
    (hall : ∀ r ∈ rows, r.score = x.score → r.distanceKm = none ∨ r.distanceKm = some 0) :
    placeOfRow rows pre x ≤ rows.countP (fun r => x.score < r.score) + pre.countP (fun r => r.score = x.score) := by
  refine Nat.add_le_add (List.countP_mono_left (fun r hr hlt => decide_eq_true ?_))
    (List.countP_mono_left (fun r _ heq => decide_eq_true (rank_eq_iff.1 (of_decide_eq_true heq)).1))
  rcases rank_lt_iff.1 (of_decide_eq_true hlt) with hs | ⟨hs, hfar⟩
  · exact hs
  · rw [far_of_unknown (Or.inl hnone), far_of_unknown (hall r hr hs.symm)] at hfar
    exact absurd hfar (lt_irrefl _)

theorem zerosFirst_iff (hrange : ∀ r ∈ rows, r.InRange) :
    (∀ pre x post, rows = pre ++ x :: post → placeOfRow rows pre x < limit → x.distanceKm ≠ some 0 →
      (x.distanceKm ≠ none → ∀ z ∈ rows, z.score = x.score → z.distanceKm ≠ some 0) ∧
        ∀ z ∈ post, z.score = x.score → z.distanceKm ≠ some 0) ↔ ZerosFirst rows limit := by
  constructor
  · intro h pre x post hrows hne
    have hx : x ∈ rows := by simp [hrows]
    have hclear : ∀ r ∈ rows, r.distanceKm ≠ some 0 → r.distanceKm ≠ none →
        (∃ z ∈ rows, z.score = r.score ∧ z.distanceKm = some 0) →
        limit ≤ rows.countP (fun r' => r.score < r'.score) := by
      rintro r hr hr0 hknown ⟨z, hz, hs, hzero⟩
      by_contra hlt
      obtain ⟨pre', w, post', hrows', hws, hw0, hwknown, hplace⟩ := exists_leader hrange hr hr0 hknown
      exact (h pre' w post' hrows' (by omega) hw0).1 hwknown z hz (hs.trans hws.symm) hzero
    refine ⟨fun hknown => hclear x hx hne hknown, ?_⟩
    rintro ⟨z, hz, hs, hzero⟩
    have hzrows : z ∈ rows := by simp [hrows, hz]
    by_contra hlt
    -- a known distance in the score would settle it already
    have hall : ∀ r ∈ rows, r.score = x.score → r.distanceKm = none ∨ r.distanceKm = some 0 := by
      intro r hr hrs
      by_contra hknown
      rw [not_or] at hknown
      have hle := hclear r hr hknown.2 hknown.1 ⟨z, hzrows, hs.trans hrs.symm, hzero⟩
      rw [hrs] at hle
      omega
    have hnone : x.distanceKm = none := (hall x hx rfl).resolve_right hne
    have hplace : placeOfRow rows pre x ≤ _ := placeOfRow_le hnone hall
    exact (h pre x post hrows (by omega) hne).2 z hz hs hzero
  · intro h pre x post hrows hplace hne
    obtain ⟨hall, hpost⟩ := h pre x post hrows hne
    have hhigher := le_placeOfRow rows pre x
    refine ⟨fun hknown z hz hs hzero => ?_, fun z hz hs hzero => ?_⟩
    · have := hall hknown ⟨z, hz, hs, hzero⟩
      omega
    · have hle := hpost ⟨z, hz, hs, hzero⟩
      by_cases hnone : x.distanceKm = none
      · have := le_placeOfRow_unknown hrange hrows hnone
        omega
      · have := hall hnone ⟨z, by simp [hrows, hz], hs, hzero⟩
        omega

end Ranked

section Ranking

variable {cfg : ReplyConfig} {lot : Lot} {profile : ProfileRow} {buyers : List Buyer} {limit : Nat}

theorem inRange_of_onGlobe (h : OnGlobe cfg) {row : MatchRow}
    (hrow : row ∈ buyers.filterMap (scoreBuyer cfg lot profile)) : row.InRange := by
  obtain ⟨buyer, -, hb⟩ := List.mem_filterMap.1 hrow
  intro d hd
  rw [(scoreBuyer_score hb).2] at hd
  have hbound : Rounded 1 20016 := ⟨200160, by norm_num⟩
  unfold haversineKm at hd
  split at hd
  · rename_i lat1 lng1 lat2 lng2 _ _ _ _
    obtain rfl := Option.some.inj hd
    obtain ⟨hpos, hle⟩ := h lat1 lng1 lat2 lng2
    have hlow := cfg.arith.round_nonneg ((Rounded.zero 1).le_roundTo hpos)
    have hhigh := cfg.arith.round_mono (hbound.roundTo_le hle)
    rw [cfg.arith.round_ofNat 20016 (by norm_num)] at hhigh
    exact ⟨hlow, by linarith⟩
  · cases hd

theorem filterMap_candidates : (buyers.filter (fun b => Candidate lot b)).filterMap (scoreBuyer cfg lot profile)
    = buyers.filterMap (scoreBuyer cfg lot profile) := by
  rw [List.filterMap_filter]
  refine List.filterMap_congr (fun b _ => ?_)
  by_cases hb : Candidate lot b
  · simp [hb]
  · have hnone : scoreBuyer cfg lot profile b = none :=
      Option.eq_none_iff_forall_ne_some.2 (fun row hrow => hb (scoreBuyer_eq_some_iff.1 ⟨row, hrow⟩))
    simp [hb, hnone]

/-- An order of the candidates is an order of their rows. -/
theorem nearestFirst_iff_rows : NearestFirst cfg lot profile buyers limit ↔
    ∃ o : List MatchRow, o.Perm (buyers.filterMap (scoreBuyer cfg lot profile)) ∧
      o.Pairwise (fun a b => a.wanted ≤ b.wanted) ∧ o.take limit = rankBuyers cfg lot profile buyers limit := by
  have hpair : ∀ o : List MatchRow,
      o.Pairwise (fun a b => ¬ b.Precedes a) ↔ o.Pairwise (fun a b => a.wanted ≤ b.wanted) :=
    fun o => ⟨fun h => h.imp (fun hab => not_lt.1 (mt wanted_lt_iff.1 hab)),
      fun h => h.imp (fun hab => mt wanted_lt_iff.2 (not_lt.2 hab))⟩
  unfold NearestFirst
  constructor
  · rintro ⟨ordering, hperm, hsort, htake⟩
    refine ⟨_, ?_, (hpair _).1 hsort, htake.symm⟩
    have hrows := hperm.filterMap (scoreBuyer cfg lot profile)
    rwa [filterMap_candidates] at hrows
  · rintro ⟨o, hperm, hsort, htake⟩
    rw [← filterMap_candidates] at hperm
    obtain ⟨ordering, hordering, rfl⟩ := exists_perm_filterMap hperm
    exact ⟨ordering, hordering, (hpair _).2 hsort, htake.symm⟩

theorem NearestFirst.pairwise (h : NearestFirst cfg lot profile buyers limit) :
    (rankBuyers cfg lot profile buyers limit).Pairwise (fun a b => ¬ b.Precedes a) := by
  obtain ⟨ordering, -, hsort, htake⟩ := h
  rw [htake]
  exact hsort.sublist (List.take_sublist _ _)

end Ranking

/-- **The ranking is the nearest-first one exactly when nobody is seen before a tied buyer at distance zero.** -/
theorem rankBuyers_nearest_iff (cfg : ReplyConfig) (h : OnGlobe cfg) (lot : Lot) (profile : ProfileRow)
    (buyers : List Buyer) (limit : Nat) : NearestFirst cfg lot profile buyers limit ↔
      ZerosFirst (buyers.filterMap (scoreBuyer cfg lot profile)) limit := by
  have hrange : ∀ r ∈ buyers.filterMap (scoreBuyer cfg lot profile), r.InRange := fun r hr => inRange_of_onGlobe h hr
  rw [nearestFirst_iff_rows, ← zerosFirst_iff hrange]
  have hstable := stableSort_take_iff (fun r : MatchRow => OrderDual.toDual r.rank) MatchRow.wanted
    (buyers.filterMap (scoreBuyer cfg lot profile)) limit
  simp only [OrderDual.toDual_le_toDual, OrderDual.toDual_lt_toDual, OrderDual.toDual_inj] at hstable
  refine hstable.trans ?_
  refine forall_congr' (fun pre => forall_congr' (fun x => forall_congr' (fun post => ?_)))
  refine forall_congr' (fun hrows => imp_congr_right (fun _ => ?_))
  rw [← kept_rows_iff hrange hrows]
  simp only [← wanted_lt_iff, not_lt]

theorem fromNashik_onGlobe : OnGlobe fromNashik := by
  intro lat1 lng1 lat2 lng2
  unfold fromNashik
  dsimp only
  split_ifs <;> norm_num

/-- The trader next door scores 35 for being there. -/
def gateTrader : Buyer :=
  ⟨3, "Local buyer", .trader, true, some "Nashik", some 20, some 74, some 1, some 80, some 2100, none, some .medium⟩

/-- The mill scores 25 for its distance and 10 for paying reliably. -/
def onionMill : Buyer :=
  ⟨4, "Local processor", .processor, true, some "Nashik", some 20.257, some 74, some 1, some 80, some 2100, none, some .high⟩

/-- **A tied buyer 28.6 km away is the best buyer, before the one next door.** -/
theorem gate_trader_second : ¬ NearestFirst fromNashik askedLot lotFarmer [gateTrader, onionMill] 10 := by
  intro h
  have hpair := h.pairwise
  revert hpair
  decide +kernel

theorem gate_trader_nearest_iff : NearestFirst fromNashik askedLot lotFarmer [gateTrader, localTrader] 10 ↔
    ZerosFirst ([gateTrader, localTrader].filterMap (scoreBuyer fromNashik askedLot lotFarmer)) 10 :=
  rankBuyers_nearest_iff fromNashik fromNashik_onGlobe askedLot lotFarmer [gateTrader, localTrader] 10

end Krishi
