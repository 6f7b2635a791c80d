import KrishiBazaar.Nearest
/-!
# BetterTerms — a buyer who betters its terms is never ranked lower

A buyer bids more, takes more, pays more reliably or comes nearer, and all else of it stays.  Then in the ranking for a
lot it passes some buyers or none, and no other buyer moves (`better_never_lower`).

Two ways of bettering oneself are not among these, since the score holds them against the buyer: a bid below the ask costs
15 points where no bid costs none, and a distance that rounds to zero counts as none given.
-/
namespace Krishi

open Lib

/-- How a buyer's standing counts; one that was not graded is as good as a medium one. -/
def standing : Option Reliability → Int
  | some .high => 1
  | some .low => -1
  | _ => 0

/-- The distance that the ranking compares. -/
def buyerDistance (cfg : ReplyConfig) (profile : ProfileRow) (buyer : Buyer) : Option ℚ :=
  haversineKm cfg profile.lat profile.lng buyer.lat buyer.lng

/-- **The terms of `new` are no worse than those of `old`** for a lot and a farmer, in each that is scored. -/
structure Better (cfg : ReplyConfig) (lot : Lot) (profile : ProfileRow) (old new : Buyer) : Prop where
  candidate : Candidate lot new
  district : new.district = old.district
  distance : buyerDistance cfg profile new = buyerDistance cfg profile old ∨
    ∃ d ∈ buyerDistance cfg profile old, ∃ d' ∈ buyerDistance cfg profile new, d' ≤ d ∧ d' ≠ 0
  bid : new.maxPrice = old.maxPrice ∨ ∃ p ∈ old.maxPrice, ∃ p' ∈ new.maxPrice, p ≤ p'
  demand : ∀ q ∈ old.demandQtyQtl, ∃ q' ∈ new.demandQtyQtl, q ≤ q'
  reliability : standing old.paymentReliability ≤ standing new.paymentReliability
  quality : new.qualityRequirements = old.qualityRequirements

/-! ## The criteria one by one -/

theorem distancePoints_le (ar : Arith) {d d' : ℚ} (h : d' ≤ d) :
    (distancePoints ar (some d)).1 ≤ (distancePoints ar (some d')).1 := by
  rcases lt_or_ge 100 d with hfar | hnear
  · rw [distancePoints_far ar hfar]
    rcases lt_or_ge 100 d' with hfar' | hnear'
    · rw [distancePoints_far ar hfar']
    · linarith [distancePoints_near ar hnear']
  · have hpoints : ∀ {d : ℚ}, d ≤ 100 → (distancePoints ar (some d)).1
        = ar.round (roundTo 1 (ar.mul 35 (ar.sub 1 (ar.div d 100)))) := by
      intro d hd
      simp only [distancePoints, if_pos hd, if_neg (not_lt.2 hd), apply_ite Prod.fst, ite_self]
    have hshare : ar.div d' 100 ≤ ar.div d 100 := ar.round_mono (by linarith)
    have hrest : ar.sub 1 (ar.div d 100) ≤ ar.sub 1 (ar.div d' 100) := ar.round_mono (by linarith)
    have hprod : ar.mul 35 (ar.sub 1 (ar.div d 100)) ≤ ar.mul 35 (ar.sub 1 (ar.div d' 100)) := ar.round_mono (by linarith)
    rw [hpoints hnear, hpoints (h.trans hnear)]
    exact ar.round_mono (roundTo_mono 1 hprod)

theorem askPoints_bid_le (asking : Option ℚ) {p p' : ℚ} (h : p ≤ p') :
    (askPoints asking (some p)).1 ≤ (askPoints asking (some p')).1 := by
  cases asking with
  | none => exact le_rfl
  | some asking =>
    unfold askPoints
    dsimp only
    split
    · rename_i hcovers
      rw [if_pos (hcovers.trans h)]
    · split <;> norm_num

theorem volumePoints_le {demand demand' : Option ℚ} (qty : ℚ) (h : ∀ q ∈ demand, ∃ q' ∈ demand', q ≤ q') :
    (volumePoints demand qty).1 ≤ (volumePoints demand' qty).1 := by
  unfold volumePoints
  split
  · rename_i hfit
    obtain ⟨q, hq, hle⟩ := (Option.any_eq_true _ _).1 hfit
    obtain ⟨q', hq', hle'⟩ := h q hq
    rw [if_pos ((Option.any_eq_true _ _).2 ⟨q', hq', decide_eq_true ((of_decide_eq_true hle).trans hle')⟩)]
  · split <;> norm_num

theorem reliabilityPoints_le {r r' : Option Reliability} (h : standing r ≤ standing r') :
    (reliabilityPoints r).1 ≤ (reliabilityPoints r').1 := by
  revert h
  rcases r with _ | _ | _ | _ <;> rcases r' with _ | _ | _ | _ <;> decide +kernel

/-- A distance that is known and not zero counts as less than a greater one, and than one that is not known. -/
theorem far_le {row row' : MatchRow} {d d' : ℚ} (hd : row.distanceKm = some d) (hd' : row'.distanceKm = some d')
    (h : d' ≤ d) (hne : d' ≠ 0) : row'.far ≤ row.far := by
  have hfar' : row'.far = d' := by
    simp [MatchRow.far, hd', Option.filter_some, hne]
  rw [hfar']
  by_cases hzero : d = 0
  · have hfar : row.far = 1000000000 := by
      simp [MatchRow.far, hd, Option.filter_some, hzero]
    rw [hfar]
    exact (h.trans hzero.le).trans (by norm_num)
  · have hfar : row.far = d := by
      simp [MatchRow.far, hd, Option.filter_some, hzero]
    rw [hfar]
    exact h

section Better

variable {cfg : ReplyConfig} {lot : Lot} {profile : ProfileRow} {old new : Buyer}

theorem Better.points (h : Better cfg lot profile old new) (hold : Candidate lot old) :
    buyerPoints cfg lot profile old ≤ buyerPoints cfg lot profile new := by
  have hdistrict : ∀ home, districtPoints home new = districtPoints home old := fun home => by
    unfold districtPoints
    rw [h.district]
  have hdistance : (distancePoints cfg.arith (haversineKm cfg profile.lat profile.lng old.lat old.lng)).1
      ≤ (distancePoints cfg.arith (haversineKm cfg profile.lat profile.lng new.lat new.lng)).1 := by
    rcases h.distance with heq | ⟨d, hd, d', hd', hle, -⟩
    · exact (congrArg (fun d => (distancePoints cfg.arith d).1) heq).ge
    · rw [show haversineKm _ _ _ _ _ = some d from hd, show haversineKm _ _ _ _ _ = some d' from hd']
      exact distancePoints_le cfg.arith hle
  have hverified : verifiedPoints new = verifiedPoints old := by
    unfold verifiedPoints
    rw [h.candidate.1, hold.1]
  have hbid : (askPoints lot.askingPrice old.maxPrice).1 ≤ (askPoints lot.askingPrice new.maxPrice).1 := by
    rcases h.bid with heq | ⟨p, hp, p', hp', hle⟩
    · rw [heq]
    · rw [Option.mem_def.1 hp, Option.mem_def.1 hp']
      exact askPoints_bid_le _ hle
  have hvolume := volumePoints_le lot.quantityQtl h.demand
  have hreliability := reliabilityPoints_le h.reliability
  have hgrade : gradePoints cfg lot new = gradePoints cfg lot old := by
    unfold gradePoints
    rw [h.quality]
  unfold buyerPoints
  refine cfg.arith.total_mono ?_
  simp only [List.map_cons, List.map_nil, hdistrict, hverified, hgrade]
  simp [hdistance, hbid, hvolume, hreliability]

/-- **Better terms are ranked no lower**: by the score, and at one score by the distance. -/
theorem Better.rank_le (h : Better cfg lot profile old new) (hold : Candidate lot old) {row row' : MatchRow}
    (hrow : scoreBuyer cfg lot profile old = some row) (hrow' : scoreBuyer cfg lot profile new = some row') :
    row.rank ≤ row'.rank := by
  obtain ⟨hscore, hdist⟩ := scoreBuyer_score hrow
  obtain ⟨hscore', hdist'⟩ := scoreBuyer_score hrow'
  have hle : row.score ≤ row'.score := by
    rw [hscore, hscore']
    exact cfg.arith.round_mono (roundTo_mono 1 (h.points hold))
  have hfar : row'.far ≤ row.far := by
    rcases h.distance with heq | ⟨d, hd, d', hd', hle', hne⟩
    · unfold MatchRow.far
      rw [show row'.distanceKm = row.distanceKm from hdist'.trans (heq.trans hdist.symm)]
    · exact far_le (hdist.trans hd) (hdist'.trans hd') hle' hne
  unfold MatchRow.rank
  rw [Prod.Lex.toLex_le_toLex]
  rcases hle.lt_or_eq with hlt | heq
  · exact Or.inl hlt
  · exact Or.inr ⟨heq, neg_le_neg hfar⟩

end Better

/-- **A buyer who betters its terms passes some of those ranked before it, or none, and no other moves**, wherever the
ranking is cut off. -/
theorem better_never_lower (cfg : ReplyConfig) (lot : Lot) (profile : ProfileRow) (pre post : List Buyer)
    {old new : Buyer} (hold : Candidate lot old) (h : Better cfg lot profile old new) :
    ∃ row row' before after before' after', scoreBuyer cfg lot profile old = some row ∧
      scoreBuyer cfg lot profile new = some row' ∧
      (∀ limit, rankBuyers cfg lot profile (pre ++ old :: post) limit = (before ++ row :: after).take limit) ∧
      (∀ limit, rankBuyers cfg lot profile (pre ++ new :: post) limit = (before' ++ row' :: after').take limit) ∧
      before ++ after = before' ++ after' ∧ before' <+: before := by
  obtain ⟨row, hrow⟩ : ∃ row, scoreBuyer cfg lot profile old = some row := scoreBuyer_eq_some_iff.2 hold
  obtain ⟨row', hrow'⟩ : ∃ row, scoreBuyer cfg lot profile new = some row := scoreBuyer_eq_some_iff.2 h.candidate
  obtain ⟨before, after, before', after', hsort, hsort', hrest, hbefore⟩ :=
    insertionSort_replace (fun r : MatchRow => OrderDual.toDual r.rank) (pre.filterMap (scoreBuyer cfg lot profile))
      (post.filterMap (scoreBuyer cfg lot profile)) (x := row) (y := row')
      (OrderDual.toDual_le_toDual.2 (h.rank_le hold hrow hrow'))
  have hfilter : ∀ {buyer row}, scoreBuyer cfg lot profile buyer = some row →
      (pre ++ buyer :: post).filterMap (scoreBuyer cfg lot profile) = pre.filterMap (scoreBuyer cfg lot profile)
        ++ row :: post.filterMap (scoreBuyer cfg lot profile) := fun hs => by
    rw [List.filterMap_append, List.filterMap_cons_some hs]
  refine ⟨row, row', before, after, before', after', hrow, hrow', fun limit => ?_, fun limit => ?_, hrest, hbefore⟩
  · unfold rankBuyers
    rw [hfilter hrow]
    exact congrArg (List.take limit) hsort
  · unfold rankBuyers
    rw [hfilter hrow']
    exact congrArg (List.take limit) hsort'

/-- A mill that names no price. -/
def quietMill : Buyer :=
  ⟨3, "Nashik mill", .processor, true, some "Nashik", some 20.257, some 74, some 1, some 80, none, none, some .medium⟩

/-- The trader covers the ask. -/
def raisedTrader : Buyer := { localTrader with maxPrice := some 2100 }

theorem better_raisedTrader : Better fromNashik askedLot lotFarmer localTrader raisedTrader where
  candidate := by decide
  district := rfl
  distance := Or.inl rfl
  bid := Or.inr ⟨1900, rfl, 2100, rfl, by norm_num⟩
  demand := fun q hq => ⟨q, hq, le_rfl⟩
  reliability := le_rfl
  quality := rfl

/-- With 1900 rupees the trader was behind the mill, and with 2100 it is before it. -/
theorem trader_passes_mill :
    (rankBuyers fromNashik askedLot lotFarmer [quietMill, localTrader] 10).map (·.buyerId) = [3, 1] ∧
    (rankBuyers fromNashik askedLot lotFarmer [quietMill, raisedTrader] 10).map (·.buyerId) = [1, 3] ∧
    ∃ row row' before after before' after', scoreBuyer fromNashik askedLot lotFarmer localTrader = some row ∧
      scoreBuyer fromNashik askedLot lotFarmer raisedTrader = some row' ∧
      (∀ limit, rankBuyers fromNashik askedLot lotFarmer [quietMill, localTrader] limit
        = (before ++ row :: after).take limit) ∧
      (∀ limit, rankBuyers fromNashik askedLot lotFarmer [quietMill, raisedTrader] limit
        = (before' ++ row' :: after').take limit) ∧
      before ++ after = before' ++ after' ∧ before' <+: before :=
  ⟨by decide +kernel, by decide +kernel,
    better_never_lower fromNashik askedLot lotFarmer [quietMill] [] (by decide) better_raisedTrader⟩

end Krishi
