import KrishiBazaar.Conflicts
import KrishiBazaar.Lib.Numeric
import Mathlib.Data.Rat.Floor
/-!
# Columns — whether an accepted record fits the columns of `prices`

The validator wants prices that are finite and positive, in order, and the modal price in its commodity's band.  So the
modal price fits its column, and the lowest as well; but nothing bounds the highest price, and nothing looks at the
quantity (`accepted_fits_iff`).
-/
namespace Krishi

open Lib

/-- A row is sent as JSON, which has neither infinities nor `nan`. -/
def Double.Fits (p s : Nat) : Double → Prop
  | .finite x => Numeric.Fits p s x
  | _ => False

/-- **The row fits the table**: each number its column, and the prices `chk_price_order`. -/
structure ValidPrice.FitsTable (row : ValidPrice) : Prop where
  minPrice : ∀ p ∈ row.minPrice, Numeric.Fits 10 2 p
  modalPrice : Numeric.Fits 10 2 row.modalPrice
  maxPrice : ∀ p ∈ row.maxPrice, Numeric.Fits 10 2 p
  arrivalQty : ∀ q ∈ row.arrivalQty, q.Fits 12 2
  minOrder : ∀ p ∈ row.minPrice, p ≤ row.modalPrice
  maxOrder : ∀ p ∈ row.maxPrice, row.modalPrice ≤ p

/-- Every commodity has a band of positive prices that fit the column. -/
def PriceValidator.Banded (v : PriceValidator) : Prop :=
  ∀ key commodityId, dictGet v.commodityIdMap key = some commodityId → ∃ sanityMin sanityMax,
    dictGet v.sanityBands commodityId = some (.finite sanityMin, .finite sanityMax) ∧ 0 < sanityMin ∧
      sanityMin < sanityMax ∧ Numeric.Fits 10 2 sanityMin ∧ Numeric.Fits 10 2 sanityMax

/-- What is not checked: the highest price in Rs/quintal, and the quantity, fit their columns. -/
def RawPriceRecord.UncheckedFit (cfg : IngestConfig) (record : RawPriceRecord) : Prop :=
  (∀ p ∈ record.maxPrice, ∀ q, normalizeUnit cfg p record.unit = .ok (.finite q) → Numeric.Fits 10 2 q) ∧
    ∀ q ∈ record.arrivalQty, q.Fits 12 2

section Accepted

variable {cfg : IngestConfig} {v : PriceValidator} {record : RawPriceRecord} {row : ValidPrice}

theorem normalizePrice_ok {which unit : String} {price : Double} {q : ℚ} :
    normalizePrice cfg which price unit = .ok q ↔ normalizeUnit cfg price unit = .ok (.finite q) ∧ 0 < q := by
  unfold normalizePrice
  rw [bind_ok]
  constructor
  · rintro ⟨norm, hnorm, h⟩
    cases norm with
    | finite q' =>
      dsimp only at h
      split at h
      · cases h
      · rename_i hpos
        obtain rfl := Except.ok.inj h
        exact ⟨hnorm, not_le.1 hpos⟩
    | inf negative => cases h
    | nan => cases h
  · rintro ⟨hnorm, hpos⟩
    refine ⟨_, hnorm, ?_⟩
    dsimp only
    rw [if_neg (not_le.2 hpos)]

theorem normalizeOptional_ok {which unit : String} {price : Option Double} {q : Option ℚ}
    (h : normalizeOptional cfg which price unit = .ok q) :
    (∀ x ∈ q, 0 < x) ∧ ∀ P : ℚ → Prop, (∀ x ∈ q, P x) ↔
      ∀ p ∈ price, ∀ x, normalizeUnit cfg p unit = .ok (.finite x) → P x := by
  unfold normalizeOptional at h
  cases price with
  | none =>
    obtain rfl := Except.ok.inj h
    exact ⟨by simp, by simp⟩
  | some p =>
    obtain ⟨x, hx, rfl⟩ : ∃ x, normalizePrice cfg which p unit = .ok x ∧ q = some x := by
      dsimp only at h
      cases hx : normalizePrice cfg which p unit with
      | error e =>
        rw [hx] at h
        cases h
      | ok x =>
        rw [hx] at h
        exact ⟨x, rfl, (Except.ok.inj h).symm⟩
    obtain ⟨hunit, hpos⟩ := normalizePrice_ok.1 hx
    refine ⟨by simpa using hpos, fun P => ?_⟩
    simp [hunit]

theorem checkOrder_ok {modal : ℚ} {min max : Option ℚ} (h : checkOrder modal min max = .ok ()) :
    (∀ p ∈ min, p ≤ modal) ∧ ∀ p ∈ max, modal ≤ p := by
  unfold checkOrder at h
  split at h
  · cases h
  · cases h
  · rename_i hmin hmax
    rw [Option.filter_eq_none_iff] at hmin hmax
    exact ⟨fun p hp => not_lt.1 (by simpa using hmin p hp), fun p hp => not_lt.1 (by simpa using hmax p hp)⟩

theorem checkBand_ok {commodityId : Uuid} {modal sanityMin sanityMax : ℚ}
    (hband : dictGet v.sanityBands commodityId = some (.finite sanityMin, .finite sanityMax))
    (h : v.checkBand commodityId modal = .ok ()) : sanityMin ≤ modal ∧ modal ≤ sanityMax := by
  unfold PriceValidator.checkBand at h
  rw [hband] at h
  dsimp only at h
  split at h
  · cases h
  · rename_i hin
    simpa [Double.lt] using hin

/-- **An accepted record fits the table exactly when what is not checked does.** -/
theorem accepted_fits_iff (cfg : IngestConfig) (v : PriceValidator) (hv : v.Banded) (record : RawPriceRecord)
    {row : ValidPrice} (h : v.validateAndNormalize cfg record = .ok row) :
    row.FitsTable ↔ record.UncheckedFit cfg := by
  have hpassed := PriceValidator.passed_of_ok h
  obtain ⟨sanityMin, sanityMax, hbands, hpos, -, -, hfits⟩ := hv _ _ hpassed.commodityId
  obtain ⟨hminOrder, hmaxOrder⟩ := checkOrder_ok hpassed.order
  have hmodalFits : Numeric.Fits 10 2 row.modalPrice :=
    hfits.of_le (normalizePrice_ok.1 hpassed.modalPrice).2.le (checkBand_ok hbands hpassed.band).2
  have hmaxIff := (normalizeOptional_ok hpassed.maxPrice).2 (Numeric.Fits 10 2)
  unfold RawPriceRecord.UncheckedFit
  rw [← hmaxIff, ← hpassed.arrivalQty]
  constructor
  · exact fun hrow => ⟨hrow.maxPrice, hrow.arrivalQty⟩
  · rintro ⟨hmaxFits, hqtyFits⟩
    refine ⟨fun p hp => ?_, hmodalFits, hmaxFits, hqtyFits, hminOrder, hmaxOrder⟩
    exact hmodalFits.of_le ((normalizeOptional_ok hpassed.minPrice).1 p hp).le (hminOrder p hp)

end Accepted

/-! ## Onions at 1800, of a highest price that is not one -/

def onionValidator : PriceValidator := ⟨[("data_gov_in|onion", 1)], [(1, .finite 100, .finite 10000)]⟩

theorem onionValidator_banded : onionValidator.Banded := by
  intro key commodityId h
  have hone : commodityId = 1 := by
    obtain ⟨e, he, rfl⟩ := Option.map_eq_some_iff.1 h
    have hmem := List.mem_reverse.1 (List.mem_of_find?_eq_some he)
    rw [List.mem_singleton.1 hmem]
  subst hone
  exact ⟨100, 10000, by decide +kernel, by norm_num, by norm_num, by decide +kernel, by decide +kernel⟩

def pricedUpTo (maxPrice arrivalQty : Double) : RawPriceRecord :=
  { onionRecord "Lasalgaon" "Onion" 1800 with maxPrice := some maxPrice, arrivalQty := some arrivalQty }

theorem accepted_of_map {α : Type} {f : ValidPrice → α} {x : α} {r : RawPriceRecord}
    (h : (onionValidator.validateAndNormalize plainIngest r).toOption.map f = some x) :
    ∃ row, onionValidator.validateAndNormalize plainIngest r = .ok row ∧ f row = x := by
  cases hrow : onionValidator.validateAndNormalize plainIngest r with
  | error e =>
    rw [hrow] at h
    cases h
  | ok row =>
    rw [hrow] at h
    exact ⟨row, rfl, Option.some.inj h⟩

/-- A highest price of a thousand million is accepted, and so is an infinite quantity. -/
theorem accepted_too_large :
    (∃ row, onionValidator.validateAndNormalize plainIngest (pricedUpTo (.finite 1000000000) (.finite 50)) = .ok row ∧
      row.maxPrice = some 1000000000 ∧ ¬ row.FitsTable) ∧
    ∃ row, onionValidator.validateAndNormalize plainIngest (pricedUpTo (.finite 2000) (.inf false)) = .ok row ∧
      row.arrivalQty = some (.inf false) ∧ ¬ row.FitsTable := by
  constructor
  · obtain ⟨row, hrow, hmax⟩ := accepted_of_map (f := ValidPrice.maxPrice) (x := some 1000000000)
      (r := pricedUpTo (.finite 1000000000) (.finite 50)) (by decide +kernel)
    refine ⟨row, hrow, hmax, fun h => ?_⟩
    have hfits : Numeric.Fits 10 2 (1000000000 : ℚ) := h.maxPrice _ hmax
    revert hfits
    decide +kernel
  · obtain ⟨row, hrow, hqty⟩ := accepted_of_map (f := ValidPrice.arrivalQty) (x := some (.inf false))
      (r := pricedUpTo (.finite 2000) (.inf false)) (by decide +kernel)
    exact ⟨row, hrow, hqty, fun h => h.arrivalQty _ hqty⟩

/-- At 2000 and 50 quintals the row fits. -/
theorem accepted_fits : ∃ row,
    onionValidator.validateAndNormalize plainIngest (pricedUpTo (.finite 2000) (.finite 50)) = .ok row ∧ row.FitsTable := by
  obtain ⟨row, hrow, -⟩ := accepted_of_map (f := fun _ => ()) (x := ()) (r := pricedUpTo (.finite 2000) (.finite 50))
    (by decide +kernel)
  refine ⟨row, hrow, (accepted_fits_iff plainIngest onionValidator onionValidator_banded _ hrow).2 ⟨?_, ?_⟩⟩
  · intro p hp q hq
    obtain rfl := Option.some.inj hp
    have hsame : normalizeUnit plainIngest (.finite 2000) "quintal" = .ok (.finite 2000) := by decide +kernel
    have hq2000 := Double.finite.inj (Except.ok.inj (hsame.symm.trans hq))
    rw [← hq2000]
    decide +kernel
  · intro q hq
    obtain rfl := Option.some.inj hq
    show Numeric.Fits 12 2 (50 : ℚ)
    decide +kernel

end Krishi
