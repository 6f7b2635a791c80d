import KrishiBazaar.Unregistered
import KrishiBazaar.Lib.OrderStat
/-!
# SupplyOrder — more arrivals are not less supply

The latest quantity is compared with fixed bounds, is a summand of the district's, and is compared with the median of a
sample that it is in.  The median does not go down when it goes up.  Where the quantity is above the median, the median
goes up by half as much at most, since no more than one of the two middle values moves with it (`median_growth`), and so
the quantity stays above any multiple up to twice of the median; likewise below it.

In floats a quantity at 1.3 times the median exactly is on either side of the product.  What the column holds is at such
a tie or farther from it than the floats err (`median_test_near`), and growing leaves the tie for good.
-/
namespace Krishi

open Lib

/-! ## The median -/

theorem median_le (ar : Arith) {l l' : List ℚ} (h : List.Forall₂ (· ≤ ·) l l') : median ar l ≤ median ar l' := by
  have hlen : l.length = l'.length := h.length_eq
  unfold median
  simp only [List.length_insertionSort, hlen]
  split
  · exact getD_insertionSort_le h _ 0
  · have hlow := getD_insertionSort_le h (l'.length / 2 - 1) 0
    have hhigh := getD_insertionSort_le h (l'.length / 2) 0
    have hadd : ar.add ((l.insertionSort (· ≤ ·)).getD (l'.length / 2 - 1) 0)
          ((l.insertionSort (· ≤ ·)).getD (l'.length / 2) 0)
        ≤ ar.add ((l'.insertionSort (· ≤ ·)).getD (l'.length / 2 - 1) 0)
          ((l'.insertionSort (· ≤ ·)).getD (l'.length / 2) 0) :=
      ar.round_mono (add_le_add hlow hhigh)
    exact ar.round_mono (div_le_div_of_nonneg_right hadd two_pos.le)

theorem median_cons_le (ar : Arith) {a a' : ℚ} (haa' : a ≤ a') (l : List ℚ) : median ar (a :: l) ≤ median ar (a' :: l) :=
  median_le ar (.cons haa' (List.forall₂_same.2 fun _ _ => le_rfl))

theorem median_replicate_zero (ar : Arith) (n : Nat) : median ar (List.replicate n 0) = 0 := by
  have hsort : (List.replicate n (0 : ℚ)).insertionSort (· ≤ ·) = List.replicate n 0 :=
    List.eq_replicate_iff.2 ⟨by simp, fun b hb => List.eq_of_mem_replicate ((List.mem_insertionSort _).1 hb)⟩
  have hget : ∀ k, (List.replicate n (0 : ℚ)).getD k 0 = 0 := fun k => by
    rw [List.getD_eq_getElem?_getD, List.getElem?_replicate]
    split <;> rfl
  unfold median
  simp only [hsort, hget]
  split
  · rfl
  · unfold Arith.div Arith.add
    rw [add_zero, ar.round_zero, zero_div, ar.round_zero]

theorem median_nonneg (ar : Arith) {l : List ℚ} (h : ∀ a ∈ l, 0 ≤ a) : 0 ≤ median ar l := by
  have hle : List.Forall₂ (· ≤ ·) (l.map (fun _ => (0 : ℚ))) l := by
    rw [List.forall₂_map_left_iff, List.forall₂_same]
    exact h
  have hmid := median_le ar hle
  rwa [List.map_const', median_replicate_zero] at hmid

/-- **Above the median a value takes it along by half at most**, and so below it. -/
theorem median_growth {a a' : ℚ} {l : List ℚ} (haa' : a ≤ a')
    (h : median exact (a :: l) < a ∨ a' < median exact (a' :: l)) :
    median exact (a' :: l) - median exact (a :: l) ≤ (a' - a) / 2 := by
  have hhalf : (a :: l).length / 2 < (a :: l).length := Nat.div_lt_self (Nat.succ_pos _) one_lt_two
  have hlen : (a' :: l).length = (a :: l).length := rfl
  have hstep : 0 ≤ (a' - a) / 2 := by linarith
  unfold median at h ⊢
  simp only [List.length_insertionSort, hlen] at h ⊢
  split
  · rename_i hodd
    simp only [if_pos hodd] at h
    rcases h with h | h
    · rw [getD_insertionSort_cons_of_lt haa' hhalf h, sub_self]
      exact hstep
    · rw [getD_insertionSort_cons_of_gt haa' hhalf h, sub_self]
      exact hstep
  · rename_i heven
    simp only [if_neg heven] at h
    have hbefore : (a :: l).length / 2 - 1 < (a :: l).length := (Nat.sub_le _ _).trans_lt hhalf
    have hlow := getD_insertionSort_cons_le (d := (0 : ℚ)) haa' hbefore
    have hhigh := getD_insertionSort_cons_le (d := (0 : ℚ)) haa' hhalf
    have hrank := getD_insertionSort_rank_le (d := (0 : ℚ)) (Nat.sub_le _ 1) hhalf
    have hrank' := getD_insertionSort_rank_le (l := a' :: l) (d := (0 : ℚ)) (Nat.sub_le _ 1) hhalf
    have hmid : ∀ x y : ℚ, exact.div (exact.add x y) 2 = (x + y) / 2 := fun _ _ => rfl
    simp only [hmid] at h ⊢
    rcases h with h | h
    · have hsame := getD_insertionSort_cons_of_lt (d := (0 : ℚ)) haa' hbefore (by linarith)
      rw [hsame]
      linarith
    · have hsame := getD_insertionSort_cons_of_gt (d := (0 : ℚ)) haa' hhalf (by linarith)
      rw [hsame]
      linarith

/-- Above 1.3 times the median, or at it, a positive value that grows is above. -/
theorem above_median_mono {a a' : ℚ} {l : List ℚ} (ha : 0 < a) (haa' : a < a') (h : 13 / 10 * median exact (a :: l) ≤ a) :
    13 / 10 * median exact (a' :: l) < a' := by
  have hgrow := median_growth (l := l) haa'.le (Or.inl (by linarith))
  linarith

/-- Below 0.6 times the median, or at it, a value is below before it grows. -/
theorem below_median_mono {a a' : ℚ} {l : List ℚ} (ha : 0 ≤ a) (haa' : a < a') (h : a' ≤ 6 / 10 * median exact (a' :: l)) :
    a < 6 / 10 * median exact (a :: l) := by
  have hgrow := median_growth (l := l) haa'.le (Or.inr (by linarith))
  linarith

/-! ## What the column holds -/

/-- A number that the column `arrival_qty numeric(12, 2)` can hold and that is not negative. -/
def Hundredths (x : ℚ) : Prop := ∃ n : Nat, n < 10 ^ 12 ∧ x = n / 100

/-- Such a number as it is read. -/
def ReadQuantity (ar : Arith) (q : ℚ) : Prop := ∃ x, Hundredths x ∧ q = ar.round x

section Hundredths

variable {ar : Arith} {x : ℚ} {l : List ℚ}

theorem Hundredths.nonneg (h : Hundredths x) : 0 ≤ x := by
  obtain ⟨n, -, rfl⟩ := h
  positivity

theorem Hundredths.abs_le (h : Hundredths x) : |x| ≤ 10 ^ 10 := by
  rw [abs_of_nonneg h.nonneg]
  obtain ⟨n, hn, rfl⟩ := h
  have hn' : (n : ℚ) ≤ 10 ^ 12 := by exact_mod_cast hn.le
  linarith

theorem hundredths_zero : Hundredths 0 := ⟨0, by norm_num, by norm_num⟩

/-- A value by rank is one of the values, or zero past the end. -/
theorem hundredths_getD (h : ∀ x ∈ l, Hundredths x) (k : Nat) : Hundredths ((l.insertionSort (· ≤ ·)).getD k 0) := by
  rw [List.getD_eq_getElem?_getD]
  cases hk : (l.insertionSort (· ≤ ·))[k]? with
  | none => exact hundredths_zero
  | some x => exact h x ((List.mem_insertionSort _).1 (List.mem_of_getElem? hk))

theorem exists_hundredths (h : ∀ q ∈ l, ReadQuantity ar q) :
    ∃ xs : List ℚ, (∀ x ∈ xs, Hundredths x) ∧ l = xs.map ar.round := by
  induction l with
  | nil => exact ⟨[], fun _ hx => absurd hx List.not_mem_nil, rfl⟩
  | cons q l ih =>
    obtain ⟨⟨x, hx, rfl⟩, hl⟩ := List.forall_mem_cons.1 h
    obtain ⟨xs, hxs, rfl⟩ := ih hl
    exact ⟨x :: xs, List.forall_mem_cons.2 ⟨hx, hxs⟩, rfl⟩

theorem median_grid (h : ∀ x ∈ l, Hundredths x) : ∃ k : Int, median exact l = k / 200 := by
  unfold median
  dsimp only
  obtain ⟨n, -, hn⟩ := hundredths_getD h ((l.insertionSort (· ≤ ·)).length / 2)
  split
  · exact ⟨2 * n, by rw [hn]; push_cast; ring⟩
  · obtain ⟨m, -, hm⟩ := hundredths_getD h ((l.insertionSort (· ≤ ·)).length / 2 - 1)
    refine ⟨m + n, ?_⟩
    show ((l.insertionSort (· ≤ ·)).getD _ 0 + (l.insertionSort (· ≤ ·)).getD _ 0) / 2 = _
    rw [hn, hm]
    push_cast
    ring

/-- The float median is close to the exact one. -/
theorem median_near (ar : Arith) (h : ∀ x ∈ l, Hundredths x) :
    Near (10 ^ 10) (1 / 10 ^ 5) (median exact l) (median ar (l.map ar.round)) := by
  have hrank : ∀ k, Near (10 ^ 10) (2 / 10 ^ 6) ((l.insertionSort (· ≤ ·)).getD k 0)
      (((l.map ar.round).insertionSort (· ≤ ·)).getD k 0) := by
    intro k
    have hmap := getD_insertionSort_map ar.round_mono l k 0
    rw [ar.round_zero] at hmap
    rw [hmap]
    exact ((Near.refl (hundredths_getD h k).abs_le).round ar).mono le_rfl (by norm_num)
  unfold median
  simp only [List.length_insertionSort, List.length_map]
  split
  · exact (hrank _).mono le_rfl (by norm_num)
  · exact (((hrank _).add ar (hrank _)).div ar two_pos).mono (by norm_num) (by norm_num)

/-- **The float test of a quantity against a multiple of the median is the exact one, but at a tie.** -/
theorem median_test_near (ar : Arith) {j : Nat} (hj : j ≤ 13) (hx : Hundredths x) (hl : ∀ y ∈ l, Hundredths y) :
    (ar.mul (ar.round (j / 10)) (median ar (l.map ar.round)) < ar.round x → j / 10 * median exact l ≤ x) ∧
    (j / 10 * median exact l < x → ar.mul (ar.round (j / 10)) (median ar (l.map ar.round)) < ar.round x) ∧
    (ar.round x < ar.mul (ar.round (j / 10)) (median ar (l.map ar.round)) → x ≤ j / 10 * median exact l) ∧
    (x < j / 10 * median exact l → ar.round x < ar.mul (ar.round (j / 10)) (median ar (l.map ar.round))) := by
  have hjb : |(j : ℚ) / 10| ≤ 13 / 10 := by
    have hj' : (j : ℚ) ≤ 13 := by exact_mod_cast hj
    rw [abs_of_nonneg (by positivity)]
    linarith
  have hround := ((Near.refl hx.abs_le).round ar).2
  have hprod := (((Near.refl hjb).round ar).mul ar (median_near ar hl)).2
  -- the two sides differ by a multiple of 1/2000
  obtain ⟨n, -, hn⟩ := hx
  obtain ⟨k, hk⟩ := median_grid hl
  have hgrid : x - j / 10 * median exact l = ((20 * n - j * k : Int) : ℚ) / 2000 := by
    rw [hn, hk]
    push_cast
    ring
  have hgap : ∀ z : Int, 0 < (z : ℚ) / 2000 → 1 / 2000 ≤ (z : ℚ) / 2000 := by
    intro z hz
    have hz' : 0 < z := by
      have : (0 : ℚ) < z := by linarith
      exact_mod_cast this
    have : (1 : ℚ) ≤ z := by exact_mod_cast hz'
    linarith
  have hpos := hgap (20 * n - j * k)
  have hneg := hgap (-(20 * n - j * k))
  rw [Int.cast_neg, neg_div, ← hgrid] at hneg
  rw [← hgrid] at hpos
  norm_num at hround hprod
  rw [abs_le] at hround hprod
  refine ⟨fun h => ?_, fun h => ?_, fun h => ?_, fun h => ?_⟩
  · by_contra hlt
    have := hneg (by linarith [not_le.1 hlt])
    linarith
  · have := hpos (by linarith)
    linarith
  · by_contra hlt
    have := hpos (by linarith [not_le.1 hlt])
    linarith
  · have := hneg (by linarith)
    linarith

end Hundredths

/-! ## Supply pressure -/

/-- The order in which more is supplied; an unknown pressure has no place in it. -/
def SupplyPressure.level : SupplyPressure → Option Nat
  | .low => some 0
  | .normal => some 1
  | .high => some 2
  | .unknown => none

section Pressure

variable {ar : Arith} {a : ℚ} {recent : List (Option ℚ)} {district : Option ℚ}

theorem supplyPressure_high : supplyPressure ar (some a) recent district = .high ↔
    1000 < a ∨ (∃ d ∈ district, 2500 < d) ∨ (3 ≤ (recent.filterMap id).length ∧ median ar (recent.filterMap id) ≠ 0 ∧
      ar.mul (ar.round 1.3) (median ar (recent.filterMap id)) < a) := by
  have hdistrict : (district.any fun d => decide (2500 < d)) = true ↔ ∃ d ∈ district, 2500 < d := by
    cases district <;> simp
  unfold supplyPressure
  dsimp only
  rw [← hdistrict]
  split
  · rename_i h
    simp [show 1000 < a by simpa using h]
  · rename_i h
    have hle : ¬ 1000 < a := by simpa using h
    split
    · rename_i hd
      simp [hd]
    · rename_i hd
      split
      · rename_i hm
        exact iff_of_true rfl (Or.inr (Or.inr hm))
      · rename_i hm
        have hnone : ¬ (1000 < a ∨ (district.any fun d => decide (2500 < d)) = true ∨
            (3 ≤ (recent.filterMap id).length ∧ median ar (recent.filterMap id) ≠ 0 ∧
              ar.mul (ar.round 1.3) (median ar (recent.filterMap id)) < a)) := by
          rintro (h | h | h)
          exacts [hle h, hd h, hm h]
        simp only [hnone, iff_false]
        split
        · simp
        · split <;> simp

theorem supplyPressure_low : supplyPressure ar (some a) recent district = .low ↔
    supplyPressure ar (some a) recent district ≠ .high ∧
      (3 ≤ (recent.filterMap id).length ∧ a < ar.mul (ar.round 0.6) (median ar (recent.filterMap id)) ∨ a < 200) := by
  unfold supplyPressure
  dsimp only
  split
  · simp
  · split
    · simp
    · split
      · simp
      · split
        · simp_all
        · split <;> simp_all

theorem supplyPressure_present : supplyPressure ar (some a) recent district ≠ .unknown := by
  unfold supplyPressure
  dsimp only
  repeat' split
  all_goals simp

end Pressure

section Grow

variable {ar : Arith} {a a' d d' : ℚ} {l : List ℚ} {recent : List (Option ℚ)}

/-- **Above 1.3 times the median a quantity that grows stays**, in exact arithmetic and in floats that were read. -/
theorem above_test_mono (ha : 0 ≤ a) (haa' : a < a') (hl : ∀ q ∈ l, 0 ≤ q)
    (hq : ar = exact ∨ ∀ q ∈ a :: a' :: l, ReadQuantity ar q) (h : ar.mul (ar.round 1.3) (median ar (a :: l)) < a) :
    ar.mul (ar.round 1.3) (median ar (a' :: l)) < a' := by
  have hpos : 0 < a := by
    have hround : 0 ≤ ar.round 1.3 := ar.round_nonneg (by norm_num)
    have hmid := median_nonneg ar (List.forall_mem_cons.2 ⟨ha, hl⟩)
    exact (ar.round_nonneg (mul_nonneg hround hmid)).trans_lt h
  rcases hq with rfl | hq
  · have hexact : 13 / 10 * median exact (a :: l) < a := by
      have h' : (1.3 : ℚ) * median exact (a :: l) < a := h
      linarith
    have habove := above_median_mono hpos haa' hexact.le
    show (1.3 : ℚ) * median exact (a' :: l) < a'
    linarith
  · obtain ⟨⟨x, hx, rfl⟩, ⟨x', hx', rfl⟩, hread⟩ := by simpa only [List.forall_mem_cons] using hq
    obtain ⟨xs, hxs, rfl⟩ := exists_hundredths hread
    have hlt : x < x' := lt_of_not_ge fun hle => absurd haa' (not_lt.2 (ar.round_mono hle))
    have hxpos : 0 < x := by
      refine hx.nonneg.lt_of_ne (fun h0 => ?_)
      rw [← h0, ar.round_zero] at hpos
      exact lt_irrefl _ hpos
    have hnear := median_test_near ar (le_refl 13) hx (List.forall_mem_cons.2 ⟨hx, hxs⟩)
    have hnear' := median_test_near ar (le_refl 13) hx' (List.forall_mem_cons.2 ⟨hx', hxs⟩)
    norm_num at hnear hnear' h ⊢
    exact hnear'.2.1 (above_median_mono hxpos hlt (hnear.1 h))

/-- **Below 0.6 times the median it was so before it grew.** -/
theorem below_test_mono (ha : 0 ≤ a) (haa' : a < a') (hq : ar = exact ∨ ∀ q ∈ a :: a' :: l, ReadQuantity ar q)
    (h : a' < ar.mul (ar.round 0.6) (median ar (a' :: l))) : a < ar.mul (ar.round 0.6) (median ar (a :: l)) := by
  rcases hq with rfl | hq
  · have hexact : a' < 6 / 10 * median exact (a' :: l) := by
      have h' : a' < (0.6 : ℚ) * median exact (a' :: l) := h
      linarith
    have hbelow := below_median_mono ha haa' hexact.le
    show a < (0.6 : ℚ) * median exact (a :: l)
    linarith
  · obtain ⟨⟨x, hx, rfl⟩, ⟨x', hx', rfl⟩, hread⟩ := by simpa only [List.forall_mem_cons] using hq
    obtain ⟨xs, hxs, rfl⟩ := exists_hundredths hread
    have hlt : x < x' := lt_of_not_ge fun hle => absurd haa' (not_lt.2 (ar.round_mono hle))
    have hnear := median_test_near ar (show 6 ≤ 13 by decide) hx (List.forall_mem_cons.2 ⟨hx, hxs⟩)
    have hnear' := median_test_near ar (show 6 ≤ 13 by decide) hx' (List.forall_mem_cons.2 ⟨hx', hxs⟩)
    have hbelow := below_median_mono (l := xs) hx.nonneg hlt
    norm_num at hnear hnear' hbelow h ⊢
    exact hnear.2.2.2 (hbelow (hnear'.2.2.1 h))

/-- The quantities of a sample beside the first are not negative, and the arithmetic is exact or they were all read. -/
structure Sampled (ar : Arith) (a a' : ℚ) (recent : List (Option ℚ)) : Prop where
  nonneg : ∀ q ∈ recent.filterMap id, 0 ≤ q
  read : ar = exact ∨ ∀ q ∈ a :: a' :: recent.filterMap id, ReadQuantity ar q

theorem supplyPressure_high_mono (ha : 0 ≤ a) (haa' : a ≤ a') (hdd' : d ≤ d') (hrecent : Sampled ar a a' recent)
    (h : supplyPressure ar (some a) (some a :: recent) (some d) = .high) :
    supplyPressure ar (some a') (some a' :: recent) (some d') = .high := by
  have hmid : ∀ x : ℚ, (some x :: recent).filterMap id = x :: recent.filterMap id := fun x => rfl
  have hlen : ∀ x : ℚ, (x :: recent.filterMap id).length = (recent.filterMap id).length + 1 := fun x => rfl
  rw [supplyPressure_high, hmid, hlen] at h ⊢
  rcases h with h | ⟨d₀, hd₀, h⟩ | ⟨hn, hne, h⟩
  · exact Or.inl (h.trans_le haa')
  · obtain rfl := Option.mem_some.1 hd₀
    exact Or.inr (Or.inl ⟨d', rfl, h.trans_le hdd'⟩)
  · rcases haa'.eq_or_lt with rfl | hlt
    · exact Or.inr (Or.inr ⟨hn, hne, h⟩)
    · have hpos : 0 < median ar (a :: recent.filterMap id) :=
        (median_nonneg ar (List.forall_mem_cons.2 ⟨ha, hrecent.nonneg⟩)).lt_of_ne hne.symm
      have hgrow := median_cons_le ar haa' (recent.filterMap id)
      exact Or.inr (Or.inr ⟨hn, (hpos.trans_le hgrow).ne', above_test_mono ha hlt hrecent.nonneg hrecent.read h⟩)

theorem supplyPressure_low_mono (ha : 0 ≤ a) (haa' : a ≤ a') (hdd' : d ≤ d') (hrecent : Sampled ar a a' recent)
    (h : supplyPressure ar (some a') (some a' :: recent) (some d') = .low) :
    supplyPressure ar (some a) (some a :: recent) (some d) = .low := by
  have hmid : ∀ x : ℚ, (some x :: recent).filterMap id = x :: recent.filterMap id := fun x => rfl
  have hlen : ∀ x : ℚ, (x :: recent.filterMap id).length = (recent.filterMap id).length + 1 := fun x => rfl
  rw [supplyPressure_low, hmid, hlen] at h ⊢
  obtain ⟨hnot, h⟩ := h
  refine ⟨fun h' => hnot (supplyPressure_high_mono ha haa' hdd' hrecent h'), ?_⟩
  rcases h with ⟨hn, h⟩ | h
  · rcases haa'.eq_or_lt with rfl | hlt
    · exact Or.inl ⟨hn, h⟩
    · exact Or.inl ⟨hn, below_test_mono ha hlt hrecent.read h⟩
  · exact Or.inr (haa'.trans_lt h)

/-- **More of the latest quantity does not lower the pressure.** -/
theorem supplyPressure_mono (ha : 0 ≤ a) (haa' : a ≤ a') (hdd' : d ≤ d') (hrecent : Sampled ar a a' recent) :
    ∃ i j, (supplyPressure ar (some a) (some a :: recent) (some d)).level = some i ∧
      (supplyPressure ar (some a') (some a' :: recent) (some d')).level = some j ∧ i ≤ j := by
  have hhigh := supplyPressure_high_mono ha haa' hdd' hrecent
  have hlow := supplyPressure_low_mono ha haa' hdd' hrecent
  have hpresent : supplyPressure ar (some a) (some a :: recent) (some d) ≠ .unknown := supplyPressure_present
  have hpresent' : supplyPressure ar (some a') (some a' :: recent) (some d') ≠ .unknown := supplyPressure_present
  revert hhigh hlow hpresent hpresent'
  generalize supplyPressure ar (some a) (some a :: recent) (some d) = p
  generalize supplyPressure ar (some a') (some a' :: recent) (some d') = p'
  cases p <;> cases p' <;> simp [SupplyPressure.level]

end Grow

/-! ## The window -/

section Window

variable {cfg : ReplyConfig} {commodityId : Uuid} {marketId : Option Uuid} {originLat originLng : Option ℚ}
  {latest : SupplyRow} {rest : List SupplyRow} {a a' : ℚ}

/-- The window's pressure is read off the price rows, whatever the other rows are. -/
theorem windowOf_mono (ha : 0 ≤ a) (haa' : a ≤ a') (hrest : ∀ r ∈ rest, ∀ q ∈ r.arrivalQty, 0 ≤ q)
    (hq : cfg.arith = exact ∨ ReadQuantity cfg.arith a ∧ ReadQuantity cfg.arith a' ∧
      ∀ r ∈ rest, ∀ q ∈ r.arrivalQty, ReadQuantity cfg.arith q) (rows rows' : WindowRows) :
    ∃ i j,
      (windowOf cfg commodityId marketId originLat originLng { latest with arrivalQty := some a } rest
        rows).supplyPressure.level = some i ∧
      (windowOf cfg commodityId marketId originLat originLng { latest with arrivalQty := some a' } rest
        rows').supplyPressure.level = some j ∧ i ≤ j := by
  have hrecent : ∀ {P : ℚ → Prop}, (∀ r ∈ rest, ∀ q ∈ r.arrivalQty, P q) →
      ∀ q ∈ (rest.map (·.arrivalQty)).filterMap id, P q := by
    intro P h q hmem
    rw [List.filterMap_map] at hmem
    obtain ⟨r, hr, hqr⟩ := List.mem_filterMap.1 hmem
    exact h r hr q hqr
  have hsampled : Sampled cfg.arith a a' (rest.map (·.arrivalQty)) := by
    refine ⟨hrecent hrest, hq.imp_right ?_⟩
    rintro ⟨hqa, hqa', hqrest⟩
    exact List.forall_mem_cons.2 ⟨hqa, List.forall_mem_cons.2 ⟨hqa', hrecent hqrest⟩⟩
  have hsum := cfg.arith.total_mono (.cons haa' (List.forall₂_same.2 fun _ _ => le_rfl) :
    List.Forall₂ (· ≤ ·)
      (a :: ((firstSeen (·.marketId) rest).filter (fun r => r.marketId ≠ latest.marketId)).filterMap (·.arrivalQty))
      (a' :: ((firstSeen (·.marketId) rest).filter (fun r => r.marketId ≠ latest.marketId)).filterMap (·.arrivalQty)))
  exact supplyPressure_mono ha haa' hsum hsampled

end Window

/-- **More arrivals never look like less supply**: when the latest row's quantity goes up, the pressure does not go down in
the order low, normal, high.  So it is of two runs of `compute_sale_window` on tables whose newest rows are these. -/
theorem more_arrivals_mono (cfg : ReplyConfig) (commodityId : Uuid) (marketId : Option Uuid) (originLat originLng : Option ℚ)
    (latest : SupplyRow) (rest : List SupplyRow) (rows : WindowRows) {a a' : ℚ} (ha : 0 ≤ a) (haa' : a ≤ a')
    (hrest : ∀ r ∈ rest, ∀ q ∈ r.arrivalQty, 0 ≤ q)
    (hq : cfg.arith = exact ∨ ReadQuantity cfg.arith a ∧ ReadQuantity cfg.arith a' ∧
      ∀ r ∈ rest, ∀ q ∈ r.arrivalQty, ReadQuantity cfg.arith q) :
    (∃ i j,
      (windowOf cfg commodityId marketId originLat originLng { latest with arrivalQty := some a } rest
        rows).supplyPressure.level = some i ∧
      (windowOf cfg commodityId marketId originLat originLng { latest with arrivalQty := some a' } rest
        rows).supplyPressure.level = some j ∧ i ≤ j) ∧
    ∀ (x y : Daytime) (db db' : DB),
      x.newest cfg.arith db commodityId (fun r => marketId.all (r.marketId = ·)) 30
        = { latest with arrivalQty := some a } :: rest →
      y.newest cfg.arith db' commodityId (fun r => marketId.all (r.marketId = ·)) 30
        = { latest with arrivalQty := some a' } :: rest →
      ∃ w w' i j, (computeSaleWindow cfg commodityId marketId originLat originLng).run x.exec db = (.ok (some w), db) ∧
        (computeSaleWindow cfg commodityId marketId originLat originLng).run y.exec db' = (.ok (some w'), db') ∧
        w.supplyPressure.level = some i ∧ w'.supplyPressure.level = some j ∧ i ≤ j := by
  refine ⟨windowOf_mono ha haa' hrest hq rows rows, fun x y db db' hx hy => ?_⟩
  obtain ⟨i, j, hi, hj, hle⟩ := @windowOf_mono cfg commodityId marketId originLat originLng latest rest a a' ha haa'
    hrest hq (x.windowRows cfg.arith db commodityId marketId) (y.windowRows cfg.arith db' commodityId marketId)
  refine ⟨_, _, i, j, ?_, ?_, hi, hj, hle⟩
  · rw [run_computeSaleWindow, Daytime.window, hx]
  · rw [run_computeSaleWindow, Daytime.window, hy]

/-- 300 and 500 quintals on the days before. -/
def daysBefore : List SupplyRow := [⟨2000, some 300, 19, 1, none⟩, ⟨2000, some 500, 18, 1, none⟩]

/-- From 100 to 700 quintals the pressure goes from low to high. -/
theorem more_arrivals_daysBefore :
    (windowOf plainReplies 1 none none none ⟨2000, some 100, 20, 1, none⟩ daysBefore ⟨[], [], [], []⟩).supplyPressure = .low ∧
    (windowOf plainReplies 1 none none none ⟨2000, some 700, 20, 1, none⟩ daysBefore ⟨[], [], [], []⟩).supplyPressure
      = .high ∧
    ∃ i j,
      (windowOf plainReplies 1 none none none ⟨2000, some 100, 20, 1, none⟩ daysBefore
        ⟨[], [], [], []⟩).supplyPressure.level = some i ∧
      (windowOf plainReplies 1 none none none ⟨2000, some 700, 20, 1, none⟩ daysBefore
        ⟨[], [], [], []⟩).supplyPressure.level = some j ∧ i ≤ j := by
  have hread : ∀ n : Nat, n < 10 ^ 10 → ReadQuantity binary64 n := fun n hn =>
    ⟨n, ⟨100 * n, by omega, by push_cast; ring⟩, (binary64.round_intCast n (by rw [abs_of_nonneg] <;> omega)).symm⟩
  refine ⟨by decide +kernel, by decide +kernel, (more_arrivals_mono plainReplies 1 none none none ⟨2000, none, 20, 1, none⟩
    daysBefore ⟨[], [], [], []⟩ (by norm_num) (by norm_num) (by decide +kernel) (Or.inr ⟨?_, ?_, ?_⟩)).1⟩
  · exact hread 100 (by norm_num)
  · exact hread 700 (by norm_num)
  · intro r hr q hq
    rcases List.mem_cons.1 hr with rfl | hr
    · obtain rfl := Option.mem_some.1 hq
      exact hread 300 (by norm_num)
    · obtain rfl := List.mem_singleton.1 hr
      obtain rfl := Option.mem_some.1 hq
      exact hread 500 (by norm_num)

end Krishi
