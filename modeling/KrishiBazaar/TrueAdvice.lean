import KrishiBazaar.SupplyOrder
/-!
# TrueAdvice — whether the reason of a recommendation is true

The reason is chosen by supply, storage and two tests of the forecast.  Its text compares the first forecast with the
latest price, or gives the latest quantity as high; but the tests also look at the trend and at the district's quantity.
So the text is false where the forecast falls from above the price, and where the quantity is high only for the district
(`advice_true_iff`).  The bounds are products of floats, and a forecast or a quantity is on the side of them that the
floats say; whether a quantity is high may be asked in floats or exactly.
-/
namespace Krishi

open Lib

/-! ## What the reason says -/

def arrivalsHigh : String := "Sell now: arrivals are high ("

def SaysHigh (reason : String) : Prop := arrivalsHigh.toList <+: reason.toList

/-- It gives the quantity. -/
def Quotes (reason : String) (a : ℚ) : Prop := (arrivalsHigh ++ fixed0 a ++ " qtl)").toList <+: reason.toList

/-- Whatever is added to it. -/
def NeverSaysHigh (reason : String) : Prop := ∀ t, ¬ SaysHigh (reason ++ t)

theorem neverSaysHigh (p : String) {reason : String} (hreason : p.toList <+: reason.toList)
    (h : ¬ arrivalsHigh.toList <+: p.toList) (h' : ¬ p.toList <+: arrivalsHigh.toList) : NeverSaysHigh reason := by
  intro t hp
  unfold SaysHigh at hp
  rw [String.toList_append] at hp
  rcases List.prefix_or_prefix_of_prefix hp (hreason.trans (List.prefix_append _ _)) with hl | hl
  · exact h hl
  · exact h' hl

theorem Quotes.saysHigh {reason : String} {a : ℚ} (h : Quotes reason a) : SaysHigh reason := by
  unfold Quotes at h
  rw [String.toList_append, String.toList_append, List.append_assoc] at h
  exact (List.prefix_append _ _).trans h

theorem Quotes.append {reason : String} {a : ℚ} (h : Quotes reason a) (t : String) : Quotes (reason ++ t) a := by
  have htext : (reason ++ t).toList = reason.toList ++ t.toList := String.toList_append
  unfold Quotes at h ⊢
  rw [htext]
  exact h.trans (List.prefix_append _ _)

theorem quotes_of_toList (p : String) {reason : String} {a : ℚ}
    (hreason : arrivalsHigh.toList ++ ((fixed0 a).toList ++ p.toList) <+: reason.toList)
    (hp : " qtl)".toList <+: p.toList) : Quotes reason a := by
  obtain ⟨t, ht⟩ := hp
  refine List.IsPrefix.trans ?_ hreason
  rw [String.toList_append, String.toList_append, List.append_assoc, ← ht, ← List.append_assoc, ← List.append_assoc,
    ← List.append_assoc]
  exact List.prefix_append _ _

/-! ## The cascade -/

section Cascade

variable (ar : Arith) (supply : SupplyPressure) (storage : List StorageRow) (arrivals : Option ℚ) (latestPrice : ℚ)
  (day1 : Option ℚ) (trend : Option Trend)

def ForecastUp : Prop := day1.any (fun d => ar.mul latestPrice (ar.round 1.05) ≤ d) ∧ trend ≠ some .down

def ForecastDown : Prop :=
  day1.any (fun d => d ≤ ar.mul latestPrice (ar.round 0.97)) ∨ (day1 ≠ none ∧ trend = some .down)

/-- The ways through the cascade: why each is taken, its code, and whether its text gives the arrivals as high. -/
inductive Outcome (a : Advice) : Prop
  | glut (high : supply = .high) (notHeld : ¬ (storage ≠ [] ∧ ForecastUp ar latestPrice day1 trend))
      (code : a.reasonCode ≠ .hold ∧ a.reasonCode ≠ .sellForecast) (quoted : ∀ q ∈ arrivals, Quotes a.reason q)
      (silent : arrivals = none → NeverSaysHigh a.reason)
  | held (stored : storage ≠ []) (up : ForecastUp ar latestPrice day1 trend) (code : a.reasonCode = .hold)
      (silent : NeverSaysHigh a.reason)
  | falling (notHigh : supply ≠ .high) (notHeld : ¬ (storage ≠ [] ∧ ForecastUp ar latestPrice day1 trend))
      (down : ForecastDown ar latestPrice day1 trend) (code : a.reasonCode = .sellForecast) (silent : NeverSaysHigh a.reason)
  | other (notHigh : supply ≠ .high) (notHeld : ¬ (storage ≠ [] ∧ ForecastUp ar latestPrice day1 trend))
      (notDown : ¬ ForecastDown ar latestPrice day1 trend) (code : a.reasonCode ≠ .hold ∧ a.reasonCode ≠ .sellForecast)
      (silent : NeverSaysHigh a.reason)

variable {ar supply storage arrivals latestPrice day1 trend}

/-- **Every recommendation came one of these ways.** -/
theorem advise_outcome : Outcome ar supply storage arrivals latestPrice day1 trend
    (advise ar supply storage arrivals latestPrice day1 trend) := by
  unfold advise
  dsimp only
  split
  · rename_i h
    refine .glut h.1 (fun hheld => h.2 hheld.1) ⟨nofun, nofun⟩ ?_ ?_
    · rintro q hq
      obtain rfl := Option.mem_def.1 hq
      refine quotes_of_toList " qtl) and no nearby godown " ?_ (by decide)
      simp only [String.toList_append, ← List.append_assoc]
      exact List.prefix_append _ _
    · rintro rfl
      exact neverSaysHigh "Sell now: market supply is high and no nearby storage is listed." (List.prefix_refl _) (by decide)
        (by decide)
  split
  · rename_i h
    refine .held h.2.1 h.2.2 rfl (neverSaysHigh "Hold: arrivals are high but " ?_ (by decide) (by decide))
    simp only [String.toList_append, List.append_assoc]
    exact List.prefix_append _ _
  rename_i hnoHold
  split
  · rename_i h
    refine .glut h (fun hheld => hnoHold ⟨h, hheld⟩) ⟨nofun, nofun⟩ ?_ ?_
    · rintro q hq
      obtain rfl := Option.mem_def.1 hq
      refine quotes_of_toList " qtl) which typically " ?_ (by decide)
      simp only [String.toList_append, ← List.append_assoc]
      exact List.prefix_append _ _
    · rintro rfl
      exact neverSaysHigh "Sell now: current market supply is high." (List.prefix_refl _) (by decide) (by decide)
  rename_i hhigh
  split
  · rename_i h
    refine .held h.1 h.2 rfl (neverSaysHigh "Hold: " ?_ (by decide) (by decide))
    simp only [String.toList_append, List.append_assoc]
    exact List.prefix_append _ _
  rename_i hnotHeld
  split
  · rename_i h
    refine .falling hhigh hnotHeld h rfl (neverSaysHigh "Sell now: forecast ₹" ?_ (by decide) (by decide))
    simp only [String.toList_append, List.append_assoc]
    exact List.prefix_append _ _
  rename_i hdown
  split
  · refine .other hhigh hnotHeld hdown ⟨nofun, nofun⟩ ?_
    exact neverSaysHigh "Sell now: forecast is higher but no nearby storage is listed; "
      (String.toList_append ▸ List.prefix_append _ _) (by decide) (by decide)
  · refine .other hhigh hnotHeld hdown ⟨nofun, nofun⟩ ?_
    exact neverSaysHigh "Wait: supply is not elevated and the forecast is near today's price."
      (List.prefix_refl _) (by decide) (by decide)

section Outcome

variable {a : Advice}

theorem Outcome.sellForecast_iff (h : Outcome ar supply storage arrivals latestPrice day1 trend a) :
    a.reasonCode = .sellForecast ↔ supply ≠ .high ∧ ¬ (storage ≠ [] ∧ ForecastUp ar latestPrice day1 trend) ∧
      ForecastDown ar latestPrice day1 trend := by
  cases h with
  | glut high notHeld code => exact ⟨fun hc => absurd hc code.2, fun hc => absurd high hc.1⟩
  | held stored up code => exact ⟨fun hc => absurd (code.symm.trans hc) (by decide), fun hc => absurd ⟨stored, up⟩ hc.2.1⟩
  | falling notHigh notHeld down code => exact ⟨fun _ => ⟨notHigh, notHeld, down⟩, fun _ => code⟩
  | other notHigh notHeld notDown code => exact ⟨fun hc => absurd hc code.2, fun hc => absurd hc.2.2 notDown⟩

theorem Outcome.hold_iff (h : Outcome ar supply storage arrivals latestPrice day1 trend a) :
    a.reasonCode = .hold ↔ storage ≠ [] ∧ ForecastUp ar latestPrice day1 trend := by
  cases h with
  | glut high notHeld code => exact ⟨fun hc => absurd hc code.1, fun hc => absurd hc notHeld⟩
  | held stored up code => exact ⟨fun _ => ⟨stored, up⟩, fun _ => code⟩
  | falling notHigh notHeld down code =>
    exact ⟨fun hc => absurd (code.symm.trans hc) (by decide), fun hc => absurd hc notHeld⟩
  | other notHigh notHeld notDown code => exact ⟨fun hc => absurd hc code.1, fun hc => absurd hc notHeld⟩

/-- A glut quotes the arrivals. -/
theorem Outcome.quotes (h : Outcome ar supply storage arrivals latestPrice day1 trend a) (high : supply = .high)
    (notHeld : ¬ (storage ≠ [] ∧ ForecastUp ar latestPrice day1 trend)) : ∀ q ∈ arrivals, Quotes a.reason q := by
  cases h with
  | glut _ _ _ quoted => exact quoted
  | held stored up => exact absurd ⟨stored, up⟩ notHeld
  | falling notHigh => exact absurd high notHigh
  | other notHigh => exact absurd high notHigh

/-- Only a glut says that the arrivals are high. -/
theorem Outcome.of_saysHigh (h : Outcome ar supply storage arrivals latestPrice day1 trend a) {t : String}
    (hsaid : SaysHigh (a.reason ++ t)) :
    supply = .high ∧ ¬ (storage ≠ [] ∧ ForecastUp ar latestPrice day1 trend) ∧ ∃ q, q ∈ arrivals := by
  cases h with
  | glut high notHeld code quoted silent =>
    cases harr : arrivals with
    | none => exact absurd hsaid (silent harr t)
    | some q => exact ⟨high, notHeld, q, rfl⟩
  | held stored up code silent => exact absurd hsaid (silent t)
  | falling notHigh notHeld down code silent => exact absurd hsaid (silent t)
  | other notHigh notHeld notDown code silent => exact absurd hsaid (silent t)

end Outcome

end Cascade

/-! ## What it is read from -/

/-- The last forecast is below 97 % of the first. -/
def Falls (ar : Arith) (first last : Option ℚ) : Prop :=
  ∃ d ∈ first, ∃ l ∈ last, l < ar.mul d (ar.round 0.97) ∧ l ≤ ar.mul d (ar.round 1.03)

theorem forecastTrend_down {ar : Arith} {first last : Option ℚ} :
    forecastTrend ar first last = some .down ↔ Falls ar first last := by
  unfold forecastTrend Falls
  cases first with
  | none => simp
  | some d =>
    cases last with
    | none => simp
    | some l =>
      dsimp only
      split
      · rename_i h
        simp [h]
      · rename_i h
        simp [not_lt.1 h]

/-- A godown is listed within 40 km of the place, or in its district. -/
def Stored (cfg : ReplyConfig) (place : Place) (options : List LogisticsOption) : Prop :=
  ∃ s ∈ options, s.district = place.district ∨ ∃ dist ∈ haversineKm cfg place.lat place.lng s.lat s.lng, dist ≤ 40

theorem nearbyStorage_ne_nil {cfg : ReplyConfig} {place : Place} {options : List LogisticsOption} :
    nearbyStorage cfg place options ≠ [] ↔ Stored cfg place options := by
  unfold nearbyStorage Stored
  dsimp only
  rw [Ne, List.take_eq_nil_iff, not_or, ← List.length_eq_zero_iff, List.length_insertionSort, List.length_eq_zero_iff,
    List.filterMap_eq_nil_iff]
  simp only [OfNat.ofNat_ne_zero, not_false_eq_true, true_and, not_forall]
  refine exists_congr (fun s => ?_)
  rw [exists_prop]
  refine and_congr_right (fun _ => ?_)
  cases haversineKm cfg place.lat place.lng s.lat s.lng with
  | none => by_cases hd : s.district = place.district <;> simp [hd]
  | some dist => by_cases hd : s.district = place.district <;> simp [hd]

/-! ## Whether it is true -/

/-- The quantities given, of the price rows the window is made of. -/
def recentArrivals (prices : List SupplyRow) : List ℚ := prices.filterMap (·.arrivalQty)

/-- The latest quantity is above 1000, or above 1.3 times the median of the recent ones. -/
def Bulky (ar : Arith) (prices : List SupplyRow) : Prop :=
  ∃ latest ∈ prices.head?, ∃ q ∈ latest.arrivalQty,
    1000 < q ∨ ar.mul (ar.round 1.3) (median ar (recentArrivals prices)) < q

/-- **The advice states true facts**: the forecast is where the reason code says, with a godown to hold in, and a quantity
given as high is. -/
structure AdviceTrue (ar : Arith) (prices : List SupplyRow) (w : SaleWindow) : Prop where
  sellForecast : w.reasonCode = .sellForecast → ∃ d ∈ w.forecastDay1, d ≤ w.latestPrice
  hold : w.reasonCode = .hold → (∃ d ∈ w.forecastDay1, w.latestPrice < d) ∧ w.storage ≠ []
  quantity : SaysHigh w.reason → (∃ q ∈ w.arrivalsQty, Quotes w.reason q) ∧ Bulky ar prices

/-- When it does.  The second and third are of prices that are not positive only. -/
structure Grounded (ar : Arith) (supply : SupplyPressure) (stored : Prop) (arrivals : Option ℚ) (bulky : Prop)
    (latestPrice : ℚ) (first last : Option ℚ) : Prop where
  falling : supply ≠ .high → Falls ar first last → ∀ d ∈ first, d ≤ latestPrice
  rising : stored → ¬ Falls ar first last → ∀ d ∈ first, ar.mul latestPrice (ar.round 1.05) ≤ d → latestPrice < d
  near : supply ≠ .high → ¬ stored → ∀ d ∈ first, d ≤ ar.mul latestPrice (ar.round 0.97) → d ≤ latestPrice
  quantity : (stored → ¬ Falls ar first last → ∀ d ∈ first, d < ar.mul latestPrice (ar.round 1.05)) →
    ¬ bulky → ∀ q ∈ arrivals, supply ≠ .high

theorem withBetter_reason (a : Advice) (better : Option BetterMarket) :
    (a.withBetter better).reasonCode = a.reasonCode ∧ ∃ t, (a.withBetter better).reason = a.reason ++ t := by
  have hsame : a.reasonCode = a.reasonCode ∧ ∃ t, a.reason = a.reason ++ t := ⟨rfl, "", String.append_empty.symm⟩
  unfold Advice.withBetter
  split
  · split
    · exact hsame
    · rename_i market modalPrice premiumRs _ _ _
      exact ⟨rfl, " Nearby " ++ market ++ " is ₹" ++ fixed0 modalPrice ++ " (₹" ++ fixed0 premiumRs ++ " above here).",
        by simp only [String.append_assoc]⟩
  · exact hsame

section Window

variable {ar : Arith} {supply : SupplyPressure} {storage : List StorageRow} {arrivals first last : Option ℚ}
  {latestPrice : ℚ} {stored : Prop}

/-- No price is above 105 % of it and below 97 % of it at once: the one or the other is at most the price. -/
theorem le_of_between (hread : ar.round latestPrice = latestPrice) {d : ℚ} (hup : d < ar.mul latestPrice (ar.round 1.05))
    (hdown : d ≤ ar.mul latestPrice (ar.round 0.97)) : d ≤ latestPrice := by
  rcases le_total 0 latestPrice with hpos | hneg
  · have hfactor : ar.round 0.97 ≤ 1 := (ar.round_mono (by norm_num)).trans_eq ar.round_one
    calc d ≤ ar.mul latestPrice (ar.round 0.97) := hdown
      _ ≤ ar.round (latestPrice * 1) := ar.round_mono (mul_le_mul_of_nonneg_left hfactor hpos)
      _ = latestPrice := by rw [mul_one, hread]
  · have hfactor : 1 ≤ ar.round 1.05 := ar.round_one.symm.trans_le (ar.round_mono (by norm_num))
    calc d ≤ ar.mul latestPrice (ar.round 1.05) := hup.le
      _ ≤ ar.round (latestPrice * 1) := ar.round_mono (mul_le_mul_of_nonpos_left hfactor hneg)
      _ = latestPrice := by rw [mul_one, hread]

theorem forecastUp_iff : ForecastUp ar latestPrice first (forecastTrend ar first last) ↔
    (∃ d ∈ first, ar.mul latestPrice (ar.round 1.05) ≤ d) ∧ ¬ Falls ar first last := by
  unfold ForecastUp
  rw [Ne, forecastTrend_down]
  cases first <;> simp

theorem forecastDown_iff : ForecastDown ar latestPrice first (forecastTrend ar first last) ↔
    (∃ d ∈ first, d ≤ ar.mul latestPrice (ar.round 0.97)) ∨ Falls ar first last := by
  unfold ForecastDown
  rw [forecastTrend_down]
  cases first with
  | none => simp [Falls]
  | some d => simp

/-- A forecast is said to be below the price where the cascade comes to it. -/
theorem sellForecast_true_iff {a : Advice} (hread : ar.round latestPrice = latestPrice) (hstored : storage ≠ [] ↔ stored)
    (h : Outcome ar supply storage arrivals latestPrice first (forecastTrend ar first last) a) :
    (a.reasonCode = .sellForecast → ∃ d ∈ first, d ≤ latestPrice) ↔
      (supply ≠ .high → Falls ar first last → ∀ d ∈ first, d ≤ latestPrice) ∧
        (supply ≠ .high → ¬ stored → ∀ d ∈ first, d ≤ ar.mul latestPrice (ar.round 0.97) → d ≤ latestPrice) := by
  rw [h.sellForecast_iff, forecastUp_iff, forecastDown_iff, hstored]
  constructor
  · intro hsell
    refine ⟨fun hnot hfalls d hd => ?_, fun hnot hst d hd hdown => ?_⟩
    · obtain ⟨d', hd', hle⟩ := hsell ⟨hnot, fun hheld => hheld.2.2 hfalls, Or.inr hfalls⟩
      rwa [Option.mem_unique hd hd']
    · obtain ⟨d', hd', hle⟩ := hsell ⟨hnot, fun hheld => hst hheld.1, Or.inl ⟨d, hd, hdown⟩⟩
      rwa [Option.mem_unique hd hd']
  · rintro ⟨hfalling, hnear⟩ ⟨hnot, hnotHeld, hdown⟩
    by_cases hfalls : Falls ar first last
    · obtain ⟨d, hd, -⟩ := id hfalls
      exact ⟨d, hd, hfalling hnot hfalls d hd⟩
    · obtain ⟨d, hd, hle⟩ := hdown.resolve_right hfalls
      refine ⟨d, hd, ?_⟩
      by_cases hst : stored
      · -- It is not held, so the forecast is below 105 % of the price as well.
        have hlt : d < ar.mul latestPrice (ar.round 1.05) :=
          not_le.1 (fun hup => hnotHeld ⟨hst, ⟨d, hd, hup⟩, hfalls⟩)
        exact le_of_between hread hlt hle
      · exact hnear hnot hst d hd hle

theorem hold_true_iff {a : Advice} (hstored : storage ≠ [] ↔ stored)
    (h : Outcome ar supply storage arrivals latestPrice first (forecastTrend ar first last) a) :
    (a.reasonCode = .hold → (∃ d ∈ first, latestPrice < d) ∧ storage ≠ []) ↔
      (stored → ¬ Falls ar first last → ∀ d ∈ first, ar.mul latestPrice (ar.round 1.05) ≤ d → latestPrice < d) := by
  rw [h.hold_iff, forecastUp_iff, hstored]
  constructor
  · intro hhold hst hfalls d hd hup
    obtain ⟨⟨d', hd', hlt⟩, -⟩ := hhold ⟨hst, ⟨d, hd, hup⟩, hfalls⟩
    rwa [Option.mem_unique hd hd']
  · rintro hrising ⟨hst, ⟨d, hd, hup⟩, hfalls⟩
    exact ⟨⟨d, hd, hrising hst hfalls d hd hup⟩, hst⟩

/-- A quantity is said to be high where the supply is, and nothing is held. -/
theorem quantity_true_iff {a : Advice} {t : String} (bulky : Prop) (hstored : storage ≠ [] ↔ stored)
    (h : Outcome ar supply storage arrivals latestPrice first (forecastTrend ar first last) a) :
    (SaysHigh (a.reason ++ t) → (∃ q ∈ arrivals, Quotes (a.reason ++ t) q) ∧ bulky) ↔
      ((stored → ¬ Falls ar first last → ∀ d ∈ first, d < ar.mul latestPrice (ar.round 1.05)) →
        ¬ bulky → ∀ q ∈ arrivals, supply ≠ .high) := by
  have hnotHeld : ¬ (storage ≠ [] ∧ ForecastUp ar latestPrice first (forecastTrend ar first last)) ↔
      (stored → ¬ Falls ar first last → ∀ d ∈ first, d < ar.mul latestPrice (ar.round 1.05)) := by
    rw [forecastUp_iff, hstored]
    constructor
    · exact fun hnot hst hfalls d hd => not_le.1 (fun hup => hnot ⟨hst, ⟨d, hd, hup⟩, hfalls⟩)
    · rintro hnot ⟨hst, ⟨d, hd, hup⟩, hfalls⟩
      exact absurd hup (not_le.2 (hnot hst hfalls d hd))
  rw [← hnotHeld]
  constructor
  · intro hquantity hnot hsmall q hq hhigh
    have hquotes := h.quotes hhigh hnot q hq
    exact hsmall (hquantity (hquotes.append t).saysHigh).2
  · intro hquantity hsaid
    obtain ⟨hhigh, hnot, q, hq⟩ := h.of_saysHigh hsaid
    refine ⟨⟨q, hq, (h.quotes hhigh hnot q hq).append t⟩, ?_⟩
    by_contra hsmall
    exact hquantity hnot hsmall q hq hhigh

/-- A window is as true as the outcome of the cascade. -/
theorem adviceTrue_iff {claimed : Arith} {prices : List SupplyRow} {w : SaleWindow} {a : Advice}
    (hcode : w.reasonCode = a.reasonCode) (hreason : ∃ t, w.reason = a.reason ++ t) (hfirst : w.forecastDay1 = first)
    (hlatest : w.latestPrice = latestPrice) (hread : ar.round latestPrice = latestPrice)
    (harrivals : w.arrivalsQty = arrivals) (hstorage : w.storage = storage) (hstored : storage ≠ [] ↔ stored)
    (h : Outcome ar supply storage arrivals latestPrice first (forecastTrend ar first last) a) :
    AdviceTrue claimed prices w ↔
      Grounded ar supply stored arrivals (Bulky claimed prices) latestPrice first last := by
  obtain ⟨t, hreason⟩ := hreason
  subst hfirst hlatest harrivals hstorage
  have hsell := sellForecast_true_iff hread hstored h
  have hhold := hold_true_iff hstored h
  have hquantity := quantity_true_iff (t := t) (Bulky claimed prices) hstored h
  rw [← hcode] at hsell hhold
  rw [← hreason] at hquantity
  constructor
  · intro htrue
    obtain ⟨hfalling, hnear⟩ := hsell.1 htrue.sellForecast
    exact ⟨hfalling, hhold.1 htrue.hold, hnear, hquantity.1 htrue.quantity⟩
  · intro hgrounded
    exact ⟨hsell.2 ⟨hgrounded.falling, hgrounded.near⟩, hhold.2 hgrounded.rising, hquantity.2 hgrounded.quantity⟩

end Window

/-! ## On one day's tables -/

/-- The latest quantities of the markets together. -/
def districtArrivals (ar : Arith) (prices : List SupplyRow) : Option ℚ :=
  let quantities := (firstSeen (·.marketId) prices).filterMap (·.arrivalQty)
  if quantities = [] then none else some (ar.total quantities)

/-- What the pressure is taken from. -/
def pressureOf (ar : Arith) (latest : SupplyRow) (prices : List SupplyRow) : SupplyPressure :=
  supplyPressure ar latest.arrivalQty (prices.map (·.arrivalQty)) (districtArrivals ar prices)

/-- **A quantity that is not high of itself makes the supply high only with those of the other markets.** -/
theorem pressureOf_high {ar : Arith} {latest : SupplyRow} {rest : List SupplyRow} {q : ℚ} (hq : latest.arrivalQty = some q)
    (hsmall : ¬ Bulky ar (latest :: rest)) : pressureOf ar latest (latest :: rest) = .high ↔
      ∃ total ∈ districtArrivals ar (latest :: rest), 2500 < total := by
  unfold pressureOf
  rw [hq, supplyPressure_high, List.filterMap_map]
  constructor
  · rintro (h | h | ⟨-, -, h⟩)
    · exact absurd ⟨latest, rfl, q, hq, Or.inl h⟩ hsmall
    · exact h
    · exact absurd ⟨latest, rfl, q, hq, Or.inr h⟩ hsmall
  · exact fun h => Or.inr (Or.inl h)

/-- The rows that a day's tables give do not mislead the window. -/
def Daytime.Grounded (x : Daytime) (cfg : ReplyConfig) (db : DB) (commodityId : Uuid) (marketId : Option Uuid)
    (originLat originLng : Option ℚ) (latest : SupplyRow) (prices : List SupplyRow) (bulky : Prop) : Prop :=
  let rows := x.windowRows cfg.arith db commodityId marketId
  Krishi.Grounded cfg.arith (pressureOf cfg.arith latest prices)
    (Stored cfg (placeOf latest.market originLat originLng rows.mrows) rows.storage) latest.arrivalQty bulky
    latest.modalPrice (rows.forecasts.head?.bind (·.predictedPrice)) (rows.forecasts.getLast?.bind (·.predictedPrice))

theorem windowOf_true_iff (cfg : ReplyConfig) (commodityId : Uuid) (marketId : Option Uuid) (originLat originLng : Option ℚ)
    (latest : SupplyRow) (rest : List SupplyRow) (rows : WindowRows) (claimed : Arith) (prices : List SupplyRow)
    (hread : cfg.arith.round latest.modalPrice = latest.modalPrice) :
    AdviceTrue claimed prices (windowOf cfg commodityId marketId originLat originLng latest rest rows) ↔
      Grounded cfg.arith (pressureOf cfg.arith latest (latest :: rest))
        (Stored cfg (placeOf latest.market originLat originLng rows.mrows) rows.storage) latest.arrivalQty
        (Bulky claimed prices) latest.modalPrice (rows.forecasts.head?.bind (·.predictedPrice))
        (rows.forecasts.getLast?.bind (·.predictedPrice)) := by
  have hbetter := withBetter_reason
    (advise cfg.arith (pressureOf cfg.arith latest (latest :: rest))
      (nearbyStorage cfg (placeOf latest.market originLat originLng rows.mrows) rows.storage) latest.arrivalQty
      latest.modalPrice (rows.forecasts.head?.bind (·.predictedPrice)) (forecastTrend cfg.arith
        (rows.forecasts.head?.bind (·.predictedPrice)) (rows.forecasts.getLast?.bind (·.predictedPrice))))
    (betterMarket cfg.arith latest.modalPrice (nearbyMarkets marketId rows.others))
  exact adviceTrue_iff hbetter.1 hbetter.2 rfl rfl hread rfl rfl nearbyStorage_ne_nil advise_outcome

/-- What the tables give has been read. -/
theorem Daytime.newest_round {x : Daytime} {ar : Arith} {db : DB} {commodityId : Uuid} {p : Price → Bool} {limit : Nat}
    {r : SupplyRow} (h : r ∈ x.newest ar db commodityId p limit) : ar.round r.modalPrice = r.modalPrice := by
  obtain ⟨price, -, rfl⟩ := List.mem_map.1 h
  exact ar.round_round price.modalPrice

/-- **The advice states true facts exactly when the rows do not mislead it.**  The quantities of the claim are read in one
arithmetic and multiplied in one, exactly or as the code does; in the code's a quantity that is not high of itself is
given as high just for those of the other markets. -/
theorem advice_true_iff (cfg : ReplyConfig) (x : Daytime) (db : DB) (commodityId : Uuid) (marketId : Option Uuid)
    (originLat originLng : Option ℚ) {w : SaleWindow}
    (h : ((computeSaleWindow cfg commodityId marketId originLat originLng).run x.exec db).1 = .ok (some w)) :
    ∃ latest rest,
      x.newest cfg.arith db commodityId (fun r => marketId.all (r.marketId = ·)) 30 = latest :: rest ∧
      (∀ read claimed : Arith,
        AdviceTrue claimed (x.newest read db commodityId (fun r => marketId.all (r.marketId = ·)) 30) w ↔
          x.Grounded cfg db commodityId marketId originLat originLng latest (latest :: rest)
            (Bulky claimed (x.newest read db commodityId (fun r => marketId.all (r.marketId = ·)) 30))) ∧
      (∀ q ∈ latest.arrivalQty, ¬ Bulky cfg.arith (latest :: rest) →
        (pressureOf cfg.arith latest (latest :: rest) = .high ↔
          ∃ total ∈ districtArrivals cfg.arith (latest :: rest), 2500 < total)) := by
  rw [run_computeSaleWindow] at h
  have hwindow := Except.ok.inj h
  unfold Daytime.window at hwindow
  split at hwindow
  · cases hwindow
  · rename_i latest rest hrows
    obtain rfl := Option.some.inj hwindow
    have hread : cfg.arith.round latest.modalPrice = latest.modalPrice :=
      x.newest_round (hrows ▸ List.mem_cons_self)
    refine ⟨latest, rest, hrows, fun read claimed => ?_, fun q hq hsmall => pressureOf_high (Option.mem_def.1 hq) hsmall⟩
    exact windowOf_true_iff cfg commodityId marketId originLat originLng latest rest _ claimed _ hread

/-- 7.28 is above 1.3 times 5.6 in floats, and not exactly. -/
example : binary64.mul (binary64.round 1.3) (binary64.round 5.6) < binary64.round 7.28 ∧
    ¬ exact.mul (exact.round 1.3) 5.6 < 7.28 := by decide +kernel

theorem run_of_window {cfg : ReplyConfig} {x : Daytime} {db : DB} {commodityId : Uuid} {marketId : Option Uuid}
    {originLat originLng : Option ℚ} {α : Type} {f : SaleWindow → α} {v : α}
    (h : (x.window cfg db commodityId marketId originLat originLng).map f = some v) :
    ∃ w, (computeSaleWindow cfg commodityId marketId originLat originLng).run x.exec db = (.ok (some w), db) ∧ f w = v := by
  obtain ⟨w, hw, hv⟩ := Option.map_eq_some_iff.1 h
  exact ⟨w, by rw [run_computeSaleWindow, hw], hv⟩

/-! ## Onions at 2000 -/

def okForecast (marketId : Uuid) (forecastDate : Date) (predictedPrice : ℚ) : Forecast :=
  ⟨marketId, 1, forecastDate, some predictedPrice, none, none, none, "linear_regression", none, .ok, 0⟩

/-- Onions in Lasalgaon, with forecasts for the days 20 and 21. -/
def forecastOnions (day20 day21 : ℚ) : DB :=
  { (nashikPrices 2000).db with
    forecasts := ⟨[okForecast 1 20 day20, okForecast 1 21 day21], by simp [okForecast, Forecast.key], fun _ _ => rfl⟩ }

/-- 600 quintals in Lasalgaon on both days, and 2000 in Pimpalgaon. -/
def onionsArrived : DB :=
  let price (id marketId : Uuid) (day : Date) (qty : ℚ) : Price :=
    ⟨id, marketId, 1, day, none, none, 2000, some qty, "General", "General", "data_gov_in"⟩
  { (nashikPrices 2000).db with
    prices := ⟨[price 1 1 18 600, price 2 1 19 600, price 3 2 19 2000], by simp [price], fun _ _ => rfl⟩ }

/-- A forecast of 2500 is "at or below" 2000, because it falls to 2300; and 600 quintals are high, because 2000 arrived
elsewhere. -/
theorem advice_false :
    (∃ w, (computeSaleWindow plainReplies 1 (some 1) none none).run onDay20.day.exec (forecastOnions 2500 2300)
        = (.ok (some w), forecastOnions 2500 2300) ∧ w.latestPrice = 2000 ∧
      w.reason = "Sell now: forecast ₹2500 is at or below today's ₹2000; waiting reduces realisation." ∧
      ∀ ar prices, ¬ AdviceTrue ar prices w) ∧
    (∃ w, (computeSaleWindow plainReplies 1 none none none).run onDay20.day.exec onionsArrived
        = (.ok (some w), onionsArrived) ∧
      w.reason = "Sell now: arrivals are high (600 qtl) and no nearby godown is listed. "
        ++ "Holding at the farm gate risks a further fall." ∧
      ¬ AdviceTrue exact (onDay20.day.newest exact onionsArrived 1 (fun _ => true) 30) w ∧
      ¬ AdviceTrue binary64 (onDay20.day.newest binary64 onionsArrived 1 (fun _ => true) 30) w) := by
  constructor
  · have hfields : (onDay20.day.window plainReplies (forecastOnions 2500 2300) 1 (some 1) none none).map
        (fun w => (w.latestPrice, w.reason, w.reasonCode, w.forecastDay1)) = some (2000,
          "Sell now: forecast ₹2500 is at or below today's ₹2000; waiting reduces realisation.", .sellForecast,
          some 2500) := by
      decide +kernel
    obtain ⟨w, hrun, hw⟩ := run_of_window hfields
    simp only [Prod.mk.injEq] at hw
    obtain ⟨hlatest, hreason, hcode, hday1⟩ := hw
    refine ⟨w, hrun, hlatest, hreason, fun ar prices h => ?_⟩
    obtain ⟨d, hd, hle⟩ := h.sellForecast hcode
    rw [hday1] at hd
    obtain rfl := Option.some.inj hd
    rw [hlatest] at hle
    norm_num at hle
  · have hreason : (onDay20.day.window plainReplies onionsArrived 1 none none none).map (·.reason)
        = some ("Sell now: arrivals are high (600 qtl) and no nearby godown is listed. "
          ++ "Holding at the farm gate risks a further fall.") := by
      decide +kernel
    obtain ⟨w, hrun, hw⟩ := run_of_window hreason
    have hsaid : SaysHigh w.reason := by
      rw [hw]
      unfold SaysHigh
      decide +kernel
    refine ⟨w, hrun, hw, fun h => ?_, fun h => ?_⟩
    · exact absurd (h.quantity hsaid).2 (by unfold Bulky; decide +kernel)
    · exact absurd (h.quantity hsaid).2 (by unfold Bulky; decide +kernel)

/-- Forecasts of 1990 and 1980 are near the price. -/
theorem advice_true_level : ∃ w latest rest,
    (computeSaleWindow plainReplies 1 (some 1) none none).run onDay20.day.exec (forecastOnions 1990 1980)
      = (.ok (some w), forecastOnions 1990 1980) ∧ w.reasonCode = .wait ∧
    (AdviceTrue exact (onDay20.day.newest exact (forecastOnions 1990 1980) 1
        (fun r => (some 1 : Option Uuid).all (r.marketId = ·)) 30) w ↔
      onDay20.day.Grounded plainReplies (forecastOnions 1990 1980) 1 (some 1) none none latest (latest :: rest)
        (Bulky exact (onDay20.day.newest exact (forecastOnions 1990 1980) 1
          (fun r => (some 1 : Option Uuid).all (r.marketId = ·)) 30))) := by
  have hwait : (onDay20.day.window plainReplies (forecastOnions 1990 1980) 1 (some 1) none none).map (·.reasonCode)
      = some .wait := by
    decide +kernel
  obtain ⟨w, hrun, hw⟩ := run_of_window hwait
  obtain ⟨latest, rest, -, hiff, -⟩ := advice_true_iff plainReplies onDay20.day (forecastOnions 1990 1980) 1 (some 1) none
    none (congrArg Prod.fst hrun)
  exact ⟨w, latest, rest, hrun, hw, hiff exact exact⟩

end Krishi
