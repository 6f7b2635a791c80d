import KrishiBazaar.Unregistered
import KrishiBazaar.Bands
/-!
# Locality — a bid does not make up for distance

Of two buyers on the same terms, one in the farmer's district within 100 km and one outside it beyond 100 km, the first
has 40 points for where it is and the second 15 against it.  A bid is worth 35 points at most, from below the ask to above
it, so five are left whatever is bid, and rounding does not take them: the second's points are integers and add up
exactly, and the first's are no fewer than integers five above (`local_buyer_first`).
-/
namespace Krishi

open Lib

/-- A verified buyer who takes the lot's commodity or any. -/
def Candidate (lot : Lot) (buyer : Buyer) : Prop :=
  buyer.verified = true ∧ ∀ c ∈ buyer.commodityId, c = lot.commodityId

instance (lot : Lot) (buyer : Buyer) : Decidable (Candidate lot buyer) := inferInstanceAs (Decidable (_ ∧ _))

/-- The buyer's points before they are rounded. -/
def buyerPoints (cfg : ReplyConfig) (lot : Lot) (profile : ProfileRow) (buyer : Buyer) : ℚ :=
  cfg.arith.total ([districtPoints ((profile.district.filter (· ≠ "")).getD "Nashik") buyer,
    distancePoints cfg.arith (haversineKm cfg profile.lat profile.lng buyer.lat buyer.lng), verifiedPoints buyer,
    askPoints lot.askingPrice buyer.maxPrice, volumePoints buyer.demandQtyQtl lot.quantityQtl,
    reliabilityPoints buyer.paymentReliability, gradePoints cfg lot buyer].map Prod.fst)

/-- Equal in all that is scored apart from the place and the bid. -/
def SameTerms (a b : Buyer) : Prop :=
  a.demandQtyQtl = b.demandQtyQtl ∧ a.paymentReliability = b.paymentReliability ∧
    a.qualityRequirements = b.qualityRequirements

section Score

variable {cfg : ReplyConfig} {lot : Lot} {profile : ProfileRow} {buyer : Buyer} {row : MatchRow}

/-- **A candidate, and no one else, is scored**, by its points and with its distance. -/
theorem scoreBuyer_eq_some_iff : (∃ row, scoreBuyer cfg lot profile buyer = some row) ↔ Candidate lot buyer := by
  constructor
  · rintro ⟨row, h⟩
    exact ⟨(scoreBuyer_some h).1, (scoreBuyer_some h).2.1⟩
  · rintro ⟨hv, hc⟩
    have hany : ¬ buyer.commodityId.any (· ≠ lot.commodityId) = true := by
      rw [Option.any_eq_true]
      rintro ⟨c, hb, hne⟩
      exact of_decide_eq_true hne (hc c hb)
    unfold scoreBuyer
    rw [if_neg (not_not_intro hv), if_neg hany]
    exact ⟨_, rfl⟩

theorem scoreBuyer_score (h : scoreBuyer cfg lot profile buyer = some row) :
    row.score = cfg.arith.round (roundTo 1 (buyerPoints cfg lot profile buyer)) ∧
      row.distanceKm = haversineKm cfg profile.lat profile.lng buyer.lat buyer.lng := by
  unfold scoreBuyer at h
  split at h
  · cases h
  · split at h
    · cases h
    · obtain rfl := Option.some.inj h
      exact ⟨rfl, rfl⟩

end Score

theorem distancePoints_near (ar : Arith) {d : ℚ} (h : d ≤ 100) : 0 ≤ (distancePoints ar (some d)).1 := by
  have hshare : ar.div d 100 ≤ 1 := by
    rw [← ar.round_one]
    exact ar.round_mono (by linarith)
  have hpoints : 0 ≤ ar.round (roundTo 1 (ar.mul 35 (ar.sub 1 (ar.div d 100)))) := by
    have hrest : 0 ≤ ar.sub 1 (ar.div d 100) := ar.round_nonneg (sub_nonneg.2 hshare)
    exact ar.round_nonneg ((Rounded.zero 1).le_roundTo (ar.round_nonneg (by positivity)))
  unfold distancePoints
  simp only [if_pos h]
  split
  · exact hpoints
  · split
    · exact hpoints
    · rw [if_neg (not_lt.2 h)]
      exact hpoints

theorem distancePoints_far (ar : Arith) {d : ℚ} (h : 100 < d) : (distancePoints ar (some d)).1 = -15 := by
  have h25 : ¬ d ≤ 25 := by linarith
  have h80 : ¬ d ≤ 80 := by linarith
  have h100 : ¬ d ≤ 100 := by linarith
  simp [distancePoints, h, h25, h80, h100]

/-- The points of a criterion are a small integer. -/
def Points.Whole (p : Points) : Prop := ∃ k : Int, |k| ≤ 20 ∧ p.1 = k

section Whole

theorem verifiedPoints_whole (buyer : Buyer) : (verifiedPoints buyer).Whole := by
  unfold verifiedPoints
  split
  · exact ⟨15, by decide, by norm_num⟩
  · exact ⟨0, by decide, by norm_num⟩

theorem askPoints_whole (asking bid : Option ℚ) :
    ∃ k : Int, -15 ≤ k ∧ k ≤ 20 ∧ (askPoints asking bid).1 = k := by
  unfold askPoints
  split
  · split
    · exact ⟨20, by decide, by decide, by norm_num⟩
    · exact ⟨-15, by decide, by decide, by norm_num⟩
  · exact ⟨0, by decide, by decide, by norm_num⟩

theorem volumePoints_whole (demand : Option ℚ) (qty : ℚ) : (volumePoints demand qty).Whole := by
  unfold volumePoints
  split
  · exact ⟨15, by decide, by norm_num⟩
  · exact ⟨0, by decide, by norm_num⟩

theorem reliabilityPoints_whole (rel : Option Reliability) : (reliabilityPoints rel).Whole := by
  unfold reliabilityPoints
  split
  · exact ⟨10, by decide, by norm_num⟩
  · exact ⟨-15, by decide, by norm_num⟩
  · exact ⟨0, by decide, by norm_num⟩

theorem gradePoints_whole (cfg : ReplyConfig) (lot : Lot) (buyer : Buyer) : (gradePoints cfg lot buyer).Whole := by
  unfold gradePoints
  dsimp only
  split
  · exact ⟨10, by decide, by norm_num⟩
  · exact ⟨0, by decide, by norm_num⟩

end Whole

section Local

variable {cfg : ReplyConfig} {lot : Lot} {profile : ProfileRow} {near far : Buyer} {d d' : ℚ}

/-- The far buyer has a whole number of points, and the near one at least five more. -/
theorem buyerPoints_local (hnear : near.verified = far.verified) (hterms : SameTerms near far)
    (hdistrict : near.district = some ((profile.district.filter (· ≠ "")).getD "Nashik"))
    (hother : far.district ≠ near.district)
    (hd : haversineKm cfg profile.lat profile.lng near.lat near.lng = some d) (hnear100 : d ≤ 100)
    (hd' : haversineKm cfg profile.lat profile.lng far.lat far.lng = some d') (hfar100 : 100 < d') :
    ∃ n : Int, |n| ≤ 1000 ∧ buyerPoints cfg lot profile far = n ∧
      ((n + 5 : Int) : ℚ) ≤ buyerPoints cfg lot profile near := by
  obtain ⟨hdemand, hrel, hquality⟩ := hterms
  have hhome : (profile.district.filter (· ≠ "")).getD "Nashik" ≠ "" := by
    cases hp : profile.district.filter (· ≠ "") with
    | none => simp
    | some home => simpa using (Option.filter_eq_some_iff.1 hp).2
  have hin : (districtPoints ((profile.district.filter (· ≠ "")).getD "Nashik") near).1 = 25 := by
    unfold districtPoints
    rw [hdistrict, Option.any_some, if_pos (decide_eq_true ⟨hhome, rfl⟩)]
  have hout : (districtPoints ((profile.district.filter (· ≠ "")).getD "Nashik") far).1 = 0 := by
    unfold districtPoints
    rw [if_neg]
    rw [Option.any_eq_true]
    rintro ⟨district, hfar, hsame⟩
    rw [hdistrict, hfar] at hother
    exact hother (congrArg some (of_decide_eq_true hsame).2)
  have hverified : verifiedPoints near = verifiedPoints far := by
    unfold verifiedPoints
    rw [hnear]
  have hgrade : gradePoints cfg lot near = gradePoints cfg lot far := by
    unfold gradePoints
    rw [hquality]
  obtain ⟨v, hv, hv'⟩ := verifiedPoints_whole far
  obtain ⟨q, hq, hq'⟩ := volumePoints_whole far.demandQtyQtl lot.quantityQtl
  obtain ⟨r, hr, hr'⟩ := reliabilityPoints_whole far.paymentReliability
  obtain ⟨g, hg, hg'⟩ := gradePoints_whole cfg lot far
  obtain ⟨b, hb, -, hb'⟩ := askPoints_whole lot.askingPrice near.maxPrice
  obtain ⟨b₁, hb₁, hb₁', hb₁''⟩ := askPoints_whole lot.askingPrice far.maxPrice
  have hsmall : |b₁| ≤ 20 := abs_le.2 ⟨by omega, hb₁'⟩
  have hfarSum : buyerPoints cfg lot profile far = ([0, -15, v, b₁, q, r, g].sum : Int) := by
    rw [← cfg.arith.total_intCast]
    · simp only [buyerPoints, List.map_cons, List.map_nil, hout, hd', distancePoints_far cfg.arith hfar100, hv', hb₁'',
        hq', hr', hg']
      norm_num
    · simp only [List.map_cons, List.map_nil, List.sum_cons, List.sum_nil, abs_neg, abs_zero, Nat.abs_ofNat]
      omega
  have hnearSum : (([25, 0, v, -15, q, r, g].sum : Int) : ℚ) ≤ buyerPoints cfg lot profile near := by
    have hclose := distancePoints_near cfg.arith hnear100
    have hbid : (-15 : ℚ) ≤ b := by exact_mod_cast hb
    rw [← cfg.arith.total_intCast]
    · refine cfg.arith.total_mono ?_
      simp only [List.map_cons, List.map_nil, hin, hd, hverified, hdemand, hrel, hgrade, hv', hb', hq', hr', hg']
      simp [hclose, hbid]
    · simp only [List.map_cons, List.map_nil, List.sum_cons, List.sum_nil, abs_neg, abs_zero, Nat.abs_ofNat]
      omega
  rw [abs_le] at hv hq hr hg
  refine ⟨_, ?_, hfarSum, le_trans ?_ hnearSum⟩
  · simp only [List.sum_cons, List.sum_nil, abs_le]
    omega
  · rw [Int.cast_le]
    simp only [List.sum_cons, List.sum_nil]
    omega

end Local

section Before

variable {cfg : ReplyConfig} {lot : Lot} {profile : ProfileRow} {buyers : List Buyer} {near far : Buyer} {a b : MatchRow}

/-- The candidates' rows as they are ranked, before the limit. -/
def rankedRows (cfg : ReplyConfig) (lot : Lot) (profile : ProfileRow) (buyers : List Buyer) : List MatchRow :=
  (buyers.filterMap (scoreBuyer cfg lot profile)).insertionSort (fun a b => b.rank ≤ a.rank)

theorem rankedRows_perm (cfg : ReplyConfig) (lot : Lot) (profile : ProfileRow) (buyers : List Buyer) :
    (rankedRows cfg lot profile buyers).Perm (buyers.filterMap (scoreBuyer cfg lot profile)) := List.perm_insertionSort _ _

theorem mem_rankedRows (hbuyer : near ∈ buyers) (ha : scoreBuyer cfg lot profile near = some a) :
    a ∈ rankedRows cfg lot profile buyers :=
  (rankedRows_perm cfg lot profile buyers).mem_iff.2 (List.mem_filterMap.2 ⟨near, hbuyer, ha⟩)

/-- Whoever scores less is ranked after. -/
theorem rankedRows_before (hnear : near ∈ buyers) (ha : scoreBuyer cfg lot profile near = some a) (hlt : b.score < a.score)
    {pre post : List MatchRow} (h : rankedRows cfg lot profile buyers = pre ++ b :: post) : a ∈ pre ∧ a ∉ post := by
  have hrank : ¬ a.rank ≤ b.rank := fun hle => absurd (Prod.Lex.monotone_fst a.rank b.rank hle) (not_le.2 hlt)
  have hsorted : (rankedRows cfg lot profile buyers).Pairwise (fun a b => b.rank ≤ a.rank) :=
    List.pairwise_insertionSort _ _
  have hmem := mem_rankedRows hnear ha
  rw [h] at hsorted hmem
  have hafter : a ∉ post := fun hpost =>
    hrank (List.rel_of_pairwise_cons (List.pairwise_append.1 hsorted).2.1 hpost)
  refine ⟨?_, hafter⟩
  rcases List.mem_append.1 hmem with hpre | hrest
  · exact hpre
  · rcases List.mem_cons.1 hrest with rfl | hpost
    · exact absurd hlt (lt_irrefl _)
    · exact absurd hpost hafter

end Before

/-- **Bids cannot buy locality.**  Of two candidates on the same terms the one in the farmer's district within 100 km
outscores the one outside it beyond 100 km whatever they bid.  Both stand in one order of all candidates of a list that
has them, of which each ranking is the beginning, and the first before the second. -/
theorem local_buyer_first (cfg : ReplyConfig) (lot : Lot) (profile : ProfileRow) {near far : Buyer} {d d' : ℚ}
    (hnear : Candidate lot near) (hfar : Candidate lot far) (hterms : SameTerms near far)
    (hdistrict : near.district = some ((profile.district.filter (· ≠ "")).getD "Nashik"))
    (hother : far.district ≠ near.district)
    (hd : haversineKm cfg profile.lat profile.lng near.lat near.lng = some d) (hnear100 : d ≤ 100)
    (hd' : haversineKm cfg profile.lat profile.lng far.lat far.lng = some d') (hfar100 : 100 < d') :
    ∃ a b, scoreBuyer cfg lot profile near = some a ∧ scoreBuyer cfg lot profile far = some b ∧ b.score < a.score ∧
      ∀ buyers, near ∈ buyers → far ∈ buyers → ∃ whole : List MatchRow,
        whole.Perm (buyers.filterMap (scoreBuyer cfg lot profile)) ∧
        (∀ limit, rankBuyers cfg lot profile buyers limit = whole.take limit) ∧
        (∃ pre mid post, whole = pre ++ a :: (mid ++ b :: post)) ∧
        ∀ pre post, whole = pre ++ b :: post → a ∈ pre ∧ a ∉ post := by
  obtain ⟨a, ha⟩ : ∃ a, scoreBuyer cfg lot profile near = some a := scoreBuyer_eq_some_iff.2 hnear
  obtain ⟨b, hb⟩ : ∃ b, scoreBuyer cfg lot profile far = some b := scoreBuyer_eq_some_iff.2 hfar
  obtain ⟨n, hn, hfarPoints, hnearPoints⟩ := buyerPoints_local (hnear.1.trans hfar.1.symm) hterms hdistrict
    hother hd hnear100 hd' hfar100
  have hround : ∀ k : Int, |k| ≤ 1005 → cfg.arith.round (roundTo 1 k) = k := fun k hk => by
    rw [(Rounded.intCast 1 k).roundTo]
    exact cfg.arith.round_intCast k (by omega)
  have hlt : b.score < a.score := by
    rw [(scoreBuyer_score ha).1, (scoreBuyer_score hb).1, hfarPoints, hround n (by omega)]
    calc (n : ℚ) < ((n + 5 : Int) : ℚ) := by push_cast; linarith
      _ = cfg.arith.round (roundTo 1 ((n + 5 : Int) : ℚ)) := (hround _ (by rw [abs_le] at hn ⊢; omega)).symm
      _ ≤ _ := cfg.arith.round_mono (roundTo_mono 1 hnearPoints)
  refine ⟨a, b, ha, hb, hlt, fun buyers hmem hmem' => ⟨rankedRows cfg lot profile buyers,
    rankedRows_perm cfg lot profile buyers, fun _ => rfl, ?_, fun pre post h => rankedRows_before hmem ha hlt h⟩⟩
  obtain ⟨before, post, hsplit⟩ := List.append_of_mem (mem_rankedRows hmem' hb)
  obtain ⟨pre, mid, hbefore⟩ := List.append_of_mem (rankedRows_before hmem ha hlt hsplit).1
  exact ⟨pre, mid, post, by rw [hsplit, hbefore, List.append_assoc, List.cons_append]⟩

/-- The farmer lives at (20, 74), 28.6 km from the mill, 37 km from the trader and 165.3 km from the desk in Pune. -/
def fromNashik : ReplyConfig :=
  { plainReplies with
    greatCircle := fun _ _ lat _ =>
      if lat = 20 then 0 else if lat = 20.257 then 28.58 else if lat = 20.12 then 36.96 else 165.32 }

def lotFarmer : ProfileRow := ⟨some 1, some .mr, some 20, some 74, some "Nashik", none⟩

def askedLot : Lot := ⟨1, 1, none, 1, none, 50, .faq, none, none, some 2000, .open, 0⟩

def localTrader : Buyer :=
  ⟨1, "Lasalgaon Onion Traders", .trader, true, some "Nashik", some 20.12, some 74.33, some 1, some 80, some 1900,
    none, some .medium⟩

def puneDesk : Buyer :=
  ⟨2, "Pune Export Desk", .processor, true, some "Pune", some 18.52, some 73.85, some 1, some 80, some 3500, none,
    some .medium⟩

/-- Listed after the desk, the trader is ranked before it. -/
theorem pune_desk_second :
    (rankBuyers fromNashik askedLot lotFarmer [puneDesk, localTrader] 10).map (·.buyerId) = [1, 2] ∧
    ∃ a b, scoreBuyer fromNashik askedLot lotFarmer localTrader = some a ∧
    scoreBuyer fromNashik askedLot lotFarmer puneDesk = some b ∧ b.score < a.score ∧
    ∀ buyers, localTrader ∈ buyers → puneDesk ∈ buyers → ∃ whole : List MatchRow,
      whole.Perm (buyers.filterMap (scoreBuyer fromNashik askedLot lotFarmer)) ∧
      (∀ limit, rankBuyers fromNashik askedLot lotFarmer buyers limit = whole.take limit) ∧
      (∃ pre mid post, whole = pre ++ a :: (mid ++ b :: post)) ∧
      ∀ pre post, whole = pre ++ b :: post → a ∈ pre ∧ a ∉ post := by
  have hnear : haversineKm fromNashik (some 20) (some 74) (some 20.12) (some 74.33) = some 37 := by decide +kernel
  have hfar : haversineKm fromNashik (some 20) (some 74) (some 18.52) (some 73.85) = some (binary64.round 165.3) := by
    decide +kernel
  exact ⟨by decide +kernel, local_buyer_first fromNashik askedLot lotFarmer (by decide) (by decide) ⟨rfl, rfl, rfl⟩
    (by decide) (by decide) hnear (by norm_num) hfar (by decide +kernel)⟩

end Krishi
