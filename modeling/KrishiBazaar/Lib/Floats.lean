import Mathlib.Data.Int.Log
import Mathlib.Data.Rat.Floor
import Mathlib.Tactic.FieldSimp
import Mathlib.Tactic.Linarith
import Mathlib.Tactic.Positivity
import Mathlib.Tactic.Ring
/-!
# Floats — arithmetic that rounds

Python's `round` on exact numbers, and arithmetics whose operations give the rounded exact result.  What holds in every
`Arith` holds of exact arithmetic and of doubles alike: rounding keeps order, moves a number by at most one part in
2^53, and leaves the integers up to 2^53 (`Arith`).  `binary64` rounds to the nearest double, ties to the even one; its
exponents are not bounded, so nothing overflows.  Its `sum` is that of Python 3.12 and later, which carries what the
additions round off.
-/
namespace Lib

/-! ## Halves to even -/

/-- `int(round(x))`: halves go to the even neighbour. -/
def pyRound (x : ℚ) : Int :=
  if x - ⌊x⌋ < 1 / 2 then ⌊x⌋
  else if 1 / 2 < x - ⌊x⌋ then ⌊x⌋ + 1
  else if ⌊x⌋ % 2 = 0 then ⌊x⌋
  else ⌊x⌋ + 1

/-- `round(x, n)`. -/
def roundTo (n : Nat) (x : ℚ) : ℚ := pyRound (x * 10 ^ n) / 10 ^ n

/-- A number of at most `n` decimals. -/
def Rounded (n : Nat) (x : ℚ) : Prop := ∃ k : Int, x = k / 10 ^ n

theorem pyRound_le (x : ℚ) : (pyRound x : ℚ) ≤ x + 1 / 2 := by
  have hfloor := Int.floor_le x
  unfold pyRound
  split
  · linarith
  · split
    · rename_i h
      push_cast
      linarith
    · split
      · linarith
      · push_cast
        linarith

theorem le_pyRound (x : ℚ) : x - 1 / 2 ≤ pyRound x := by
  have hfloor := Int.lt_floor_add_one x
  unfold pyRound
  split
  · linarith
  · split
    · push_cast
      linarith
    · split
      · linarith
      · push_cast
        linarith

/-- Between rounded values there is a whole one, so only equal numbers could be rounded out of order. -/
theorem pyRound_mono {x y : ℚ} (h : x ≤ y) : pyRound x ≤ pyRound y := by
  by_contra hlt
  have hstep : (pyRound y : ℚ) + 1 ≤ pyRound x := by
    exact_mod_cast not_le.1 hlt
  have hx := pyRound_le x
  have hy := le_pyRound y
  have heq : x = y := by linarith
  rw [heq] at hlt
  exact hlt le_rfl

theorem pyRound_intCast (k : Int) : pyRound k = k := by
  unfold pyRound
  rw [Int.floor_intCast, sub_self, if_pos (by norm_num)]

theorem pyRound_le_of_le {x : ℚ} {k : Int} (h : x ≤ k) : pyRound x ≤ k := by
  rw [← pyRound_intCast k]
  exact pyRound_mono h

theorem le_pyRound_of_le {x : ℚ} {k : Int} (h : k ≤ x) : k ≤ pyRound x := by
  rw [← pyRound_intCast k]
  exact pyRound_mono h

/-- A half below zero is rounded to zero, and what is less to less. -/
theorem pyRound_nonneg_iff {x : ℚ} : 0 ≤ pyRound x ↔ -(1 / 2) ≤ x := by
  constructor
  · intro h
    have hle := pyRound_le x
    have h' : (0 : ℚ) ≤ pyRound x := by exact_mod_cast h
    linarith
  · intro h
    have hhalf : pyRound (-(1 / 2)) = 0 := by decide +kernel
    rw [← hhalf]
    exact pyRound_mono h

theorem pyRound_neg (x : ℚ) : pyRound (-x) = -pyRound x := by
  by_cases hint : x = ⌊x⌋
  · rw [hint, ← Int.cast_neg, pyRound_intCast, pyRound_intCast]
  have hlow : 0 < x - ⌊x⌋ := sub_pos.2 (lt_of_le_of_ne (Int.floor_le x) (Ne.symm hint))
  have hhigh : x - ⌊x⌋ < 1 := by linarith [Int.lt_floor_add_one x]
  have hfloor : ⌊-x⌋ = -⌊x⌋ - 1 := by
    rw [Int.floor_eq_iff]
    push_cast
    exact ⟨by linarith, by linarith⟩
  have hrest : -x - (⌊-x⌋ : ℚ) = 1 - (x - ⌊x⌋) := by
    rw [hfloor]
    push_cast
    ring
  unfold pyRound
  rw [hrest, hfloor]
  rcases lt_trichotomy (x - ⌊x⌋) (1 / 2) with hlt | heq | hgt
  · rw [if_neg (by linarith), if_pos (by linarith), if_pos hlt]
    ring
  · have hhalf : ¬ (1 - 1 / 2 : ℚ) < 1 / 2 ∧ ¬ (1 / 2 : ℚ) < 1 - 1 / 2 ∧ ¬ (1 / 2 : ℚ) < 1 / 2 := by norm_num
    simp only [heq, if_neg hhalf.1, if_neg hhalf.2.1, if_neg hhalf.2.2]
    split <;> split <;> omega
  · rw [if_pos (by linarith), if_neg (by linarith), if_pos hgt]
    ring

section

variable {n : Nat} {x y : ℚ}

theorem roundTo_mono (n : Nat) (h : x ≤ y) : roundTo n x ≤ roundTo n y := by
  unfold roundTo
  have hpow : (0 : ℚ) < 10 ^ n := by positivity
  have hround : (pyRound (x * 10 ^ n) : ℚ) ≤ pyRound (y * 10 ^ n) := by
    exact_mod_cast pyRound_mono (mul_le_mul_of_nonneg_right h hpow.le)
  exact div_le_div_of_nonneg_right hround hpow.le

theorem rounded_roundTo (n : Nat) (x : ℚ) : Rounded n (roundTo n x) := ⟨pyRound (x * 10 ^ n), rfl⟩

theorem Rounded.roundTo (h : Rounded n x) : roundTo n x = x := by
  obtain ⟨k, rfl⟩ := h
  have hpow : (10 : ℚ) ^ n ≠ 0 := by positivity
  unfold Lib.roundTo
  rw [div_mul_cancel₀ _ hpow, pyRound_intCast]

theorem Rounded.zero (n : Nat) : Rounded n 0 := ⟨0, by simp⟩

theorem Rounded.intCast (n : Nat) (k : Int) : Rounded n k := ⟨k * 10 ^ n, by push_cast; field_simp⟩

theorem Rounded.min (hx : Rounded n x) (hy : Rounded n y) : Rounded n (min x y) := by
  rcases min_choice x y with h | h <;> rwa [h]

theorem Rounded.max (hx : Rounded n x) (hy : Rounded n y) : Rounded n (max x y) := by
  rcases max_choice x y with h | h <;> rwa [h]

theorem Rounded.le_roundTo (hx : Rounded n x) (h : x ≤ y) : x ≤ Lib.roundTo n y := by
  rw [← hx.roundTo]
  exact roundTo_mono n h

theorem Rounded.roundTo_le (hy : Rounded n y) (h : x ≤ y) : Lib.roundTo n x ≤ y := by
  rw [← hy.roundTo]
  exact roundTo_mono n h

end

/-! ## Arithmetics -/

/-- **An arithmetic at least as precise as doubles**: what an exact result is rounded to, and what a list adds up to. -/
structure Arith where
  round : ℚ → ℚ
  round_mono : Monotone round
  round_round : ∀ x, round (round x) = round x
  round_error : ∀ x, |round x - x| ≤ |x| / 2 ^ 53
  round_intCast : ∀ n : Int, |n| ≤ 2 ^ 53 → round n = n
  sum : List ℚ → ℚ
  sum_singleton : ∀ x, sum [x] = x

namespace Arith

variable (ar : Arith) {x y : ℚ}

def add (x y : ℚ) : ℚ := ar.round (x + y)

def sub (x y : ℚ) : ℚ := ar.round (x - y)

def mul (x y : ℚ) : ℚ := ar.round (x * y)

def div (x y : ℚ) : ℚ := ar.round (x / y)

/-- `sum(vals) / len(vals)`. -/
def mean (vals : List ℚ) : ℚ := ar.div (ar.sum vals) vals.length

/-- A list added up in turn, from zero. -/
def total (vals : List ℚ) : ℚ := vals.foldl ar.add 0

theorem round_zero : ar.round 0 = 0 := by
  simpa using ar.round_intCast 0 (by norm_num)

theorem round_one : ar.round 1 = 1 := by
  simpa using ar.round_intCast 1 (by norm_num)

theorem round_ofNat (n : Nat) [n.AtLeastTwo] (h : n ≤ 2 ^ 53) : ar.round (OfNat.ofNat n) = OfNat.ofNat n := by
  have hn := ar.round_intCast (n : Int) (by rw [abs_of_nonneg (Int.natCast_nonneg n)]; exact_mod_cast h)
  rwa [Int.cast_natCast] at hn

theorem round_nonneg (h : 0 ≤ x) : 0 ≤ ar.round x := by
  rw [← ar.round_zero]
  exact ar.round_mono h

theorem foldl_add_mono {xs ys : List ℚ} (h : List.Forall₂ (· ≤ ·) xs ys) (hxy : x ≤ y) :
    xs.foldl ar.add x ≤ ys.foldl ar.add y := by
  induction h generalizing x y with
  | nil => exact hxy
  | cons hle _ ih => exact ih (ar.round_mono (add_le_add hxy hle))

/-- A greater number anywhere makes no list add up to less. -/
theorem total_mono {xs ys : List ℚ} (h : List.Forall₂ (· ≤ ·) xs ys) : ar.total xs ≤ ar.total ys :=
  ar.foldl_add_mono h le_rfl

theorem foldl_add_intCast : ∀ (ks : List Int) (n : Int), |n| + (ks.map (|·|)).sum ≤ 2 ^ 53 →
    (ks.map (fun k : Int => (k : ℚ))).foldl ar.add n = ((n + ks.sum : Int) : ℚ)
  | [], n, _ => by simp
  | k :: ks, n, h => by
    have habs := abs_add_le n k
    have hrest : 0 ≤ (ks.map (|·|)).sum := List.sum_nonneg fun i hi => by
      obtain ⟨j, -, rfl⟩ := List.mem_map.1 hi
      exact abs_nonneg j
    simp only [List.map_cons, List.sum_cons] at h
    have hround : ar.add n k = ((n + k : Int) : ℚ) := by
      unfold add
      rw [← Int.cast_add]
      exact ar.round_intCast _ (by omega)
    rw [List.map_cons, List.foldl_cons, hround, foldl_add_intCast ks (n + k) (by omega), List.sum_cons, add_assoc]

/-- **Integers add up exactly**, as long as they stay small. -/
theorem total_intCast (ks : List Int) (h : (ks.map (|·|)).sum ≤ 2 ^ 53) :
    ar.total (ks.map (fun k : Int => (k : ℚ))) = (ks.sum : Int) := by
  have hfold := ar.foldl_add_intCast ks 0 (by simpa using h)
  simpa [total] using hfold

theorem mean_singleton (h : ar.round x = x) : ar.mean [x] = x := by
  unfold mean div
  rw [ar.sum_singleton, List.length_singleton, Nat.cast_one, div_one, h]

end Arith

/-! ## Error budgets -/

/-- `x'` stands for `x`, which is of size at most `b`, with an error of at most `e`. -/
def Near (b e x x' : ℚ) : Prop := |x| ≤ b ∧ |x' - x| ≤ e

namespace Near

variable (ar : Arith) {b b' c e e' x x' y y' : ℚ}

theorem mono (h : Near b e x x') (hb : b ≤ b') (he : e ≤ e') : Near b' e' x x' := ⟨h.1.trans hb, h.2.trans he⟩

theorem refl (h : |x| ≤ b) : Near b 0 x x := ⟨h, by simp⟩

theorem abs_le (h : Near b e x x') : |x'| ≤ b + e := by
  calc |x'| = |x + (x' - x)| := by rw [add_sub_cancel]
    _ ≤ |x| + |x' - x| := abs_add_le _ _
    _ ≤ b + e := add_le_add h.1 h.2

theorem round (h : Near b e x x') : Near b (e + (b + e) / 2 ^ 53) x (ar.round x') := by
  refine ⟨h.1, ?_⟩
  have hround : |ar.round x' - x'| ≤ (b + e) / 2 ^ 53 :=
    (ar.round_error x').trans (div_le_div_of_nonneg_right h.abs_le (by positivity))
  calc |ar.round x' - x| = |(x' - x) + (ar.round x' - x')| := by ring_nf
    _ ≤ |x' - x| + |ar.round x' - x'| := abs_add_le _ _
    _ ≤ e + (b + e) / 2 ^ 53 := add_le_add h.2 hround

theorem add (h : Near b e x x') (h' : Near b' e' y y') :
    Near (b + b') (e + e' + (b + b' + (e + e')) / 2 ^ 53) (x + y) (ar.add x' y') := by
  refine round ar ⟨(abs_add_le x y).trans (add_le_add h.1 h'.1), ?_⟩
  calc |x' + y' - (x + y)| = |(x' - x) + (y' - y)| := by ring_nf
    _ ≤ |x' - x| + |y' - y| := abs_add_le _ _
    _ ≤ e + e' := add_le_add h.2 h'.2

theorem mul (h : Near b e x x') (h' : Near b' e' y y') :
    Near (b * b') ((b + e) * e' + b' * e + (b * b' + ((b + e) * e' + b' * e)) / 2 ^ 53) (x * y) (ar.mul x' y') := by
  have hb : 0 ≤ b := (abs_nonneg x).trans h.1
  have hb' : 0 ≤ b' := (abs_nonneg y).trans h'.1
  refine round ar ⟨?_, ?_⟩
  · rw [abs_mul]
    exact mul_le_mul h.1 h'.1 (abs_nonneg y) hb
  · have hleft : |x'| * |y' - y| ≤ (b + e) * e' :=
      mul_le_mul h.abs_le h'.2 (abs_nonneg _) ((abs_nonneg x').trans h.abs_le)
    have hright : |y| * |x' - x| ≤ b' * e := mul_le_mul h'.1 h.2 (abs_nonneg _) hb'
    calc |x' * y' - x * y| = |x' * (y' - y) + y * (x' - x)| := by ring_nf
      _ ≤ |x' * (y' - y)| + |y * (x' - x)| := abs_add_le _ _
      _ ≤ (b + e) * e' + b' * e := by
        rw [abs_mul, abs_mul]
        exact add_le_add hleft hright

theorem div (h : Near b e x x') (hc : 0 < c) :
    Near (b / c) (e / c + (b / c + e / c) / 2 ^ 53) (x / c) (ar.div x' c) := by
  have hscale : ∀ z : ℚ, |z / c| = |z| / c := fun z => by rw [abs_div, abs_of_pos hc]
  refine round ar ⟨?_, ?_⟩
  · rw [hscale]
    exact div_le_div_of_nonneg_right h.1 hc.le
  · rw [← sub_div, hscale]
    exact div_le_div_of_nonneg_right h.2 hc.le

end Near

/-- No rounding. -/
def exact : Arith where
  round x := x
  round_mono := monotone_id
  round_round _ := rfl
  round_error x := by
    rw [sub_self, abs_zero]
    positivity
  round_intCast _ _ := rfl
  sum := List.sum
  sum_singleton x := List.sum_singleton

/-! ## Doubles -/

/-- The distance of the doubles of a number's size. -/
def ulp (x : ℚ) : ℚ := 2 ^ (Int.log 2 |x| - 52)

/-- The nearest double, ties to the even one. -/
def toDouble (x : ℚ) : ℚ := pyRound (x / ulp x) * ulp x

section Double

variable {x y : ℚ}

theorem ulp_pos (x : ℚ) : 0 < ulp x := zpow_pos two_pos _

theorem toDouble_zero : toDouble 0 = 0 := by
  unfold toDouble
  rw [zero_div, show pyRound 0 = 0 by decide +kernel, Int.cast_zero, zero_mul]

/-- A number has 53 binary digits before its last place. -/
theorem le_abs_div_ulp (h : x ≠ 0) : 2 ^ 52 ≤ |x| / ulp x := by
  have hlow : ((2 : Nat) : ℚ) ^ Int.log 2 |x| ≤ |x| := Int.zpow_log_le_self one_lt_two (abs_pos.2 h)
  unfold ulp
  rw [le_div_iff₀ (zpow_pos two_pos _), ← zpow_natCast, ← zpow_add₀ two_ne_zero]
  simpa using hlow

theorem abs_div_ulp_lt (x : ℚ) : |x| / ulp x < 2 ^ 53 := by
  have hhigh : |x| < ((2 : Nat) : ℚ) ^ (Int.log 2 |x| + 1) := Int.lt_zpow_succ_log_self one_lt_two _
  have hexp : Int.log 2 |x| + 1 = (53 : Nat) + (Int.log 2 |x| - 52) := by
    push_cast
    ring
  unfold ulp
  rw [div_lt_iff₀ (zpow_pos two_pos _), ← zpow_natCast, ← zpow_add₀ two_ne_zero, ← hexp]
  simpa using hhigh

theorem abs_toDouble_sub_le (x : ℚ) : |toDouble x - x| ≤ |x| / 2 ^ 53 := by
  by_cases h : x = 0
  · rw [h, toDouble_zero]
    norm_num
  have hu := ulp_pos x
  have hnear : |(pyRound (x / ulp x) : ℚ) - x / ulp x| ≤ 1 / 2 := by
    have hle := pyRound_le (x / ulp x)
    have hge := le_pyRound (x / ulp x)
    exact abs_le.2 ⟨by linarith, by linarith⟩
  have hsize : 2 ^ 52 * ulp x ≤ |x| := (le_div_iff₀ hu).1 (le_abs_div_ulp h)
  calc |toDouble x - x| = |(pyRound (x / ulp x) : ℚ) - x / ulp x| * ulp x := by
        unfold toDouble
        rw [← abs_of_pos hu, ← abs_mul, abs_of_pos hu, sub_mul, div_mul_cancel₀ x hu.ne']
    _ ≤ 1 / 2 * ulp x := mul_le_mul_of_nonneg_right hnear hu.le
    _ ≤ |x| / 2 ^ 53 := by
        rw [le_div_iff₀ (by positivity)]
        linarith

theorem log_abs_mul_zpow (h : x ≠ 0) (e : Int) : Int.log 2 |x * 2 ^ e| = Int.log 2 |x| + e := by
  have htwo : (0 : ℚ) < 2 ^ e := zpow_pos two_pos e
  have hpos : 0 < |x| := abs_pos.2 h
  have hpos' : 0 < |x| * 2 ^ e := mul_pos hpos htwo
  rw [abs_mul, abs_of_pos htwo]
  refine le_antisymm ?_ ?_
  · have hlt : |x| < ((2 : Nat) : ℚ) ^ (Int.log 2 |x| + 1) := Int.lt_zpow_succ_log_self one_lt_two _
    refine Int.lt_add_one_iff.1 ((Int.lt_zpow_iff_log_lt one_lt_two hpos').1 ?_)
    rw [show Int.log 2 |x| + e + 1 = Int.log 2 |x| + 1 + e by ring, zpow_add₀ (by norm_num)]
    exact mul_lt_mul_of_pos_right hlt htwo
  · have hle : ((2 : Nat) : ℚ) ^ Int.log 2 |x| ≤ |x| := Int.zpow_log_le_self one_lt_two hpos
    refine (Int.zpow_le_iff_le_log one_lt_two hpos').1 ?_
    rw [zpow_add₀ (by norm_num)]
    exact mul_le_mul_of_nonneg_right hle htwo.le

/-- What is a whole number of its last places is a double. -/
theorem toDouble_of_int {k : Int} (h : x / ulp x = k) : toDouble x = x := by
  unfold toDouble
  rw [h, pyRound_intCast, ← h, div_mul_cancel₀ x (ulp_pos x).ne']

/-- **Every number of 53 binary digits is a double.** -/
theorem toDouble_mul_zpow (m : Int) (e : Int) (h : |m| ≤ 2 ^ 53) : toDouble (m * 2 ^ e) = m * 2 ^ e := by
  by_cases hm : m = 0
  · rw [hm, Int.cast_zero, zero_mul, toDouble_zero]
  have hm' : (m : ℚ) ≠ 0 := by exact_mod_cast hm
  have hpos : (0 : ℚ) < |(m : ℚ)| := abs_pos.2 hm'
  have hlog := log_abs_mul_zpow hm' e
  have hquot : (m : ℚ) * 2 ^ e / ulp ((m : ℚ) * 2 ^ e) = m * 2 ^ (52 - Int.log 2 |(m : ℚ)|) := by
    unfold ulp
    rw [hlog, mul_div_assoc, ← zpow_sub₀ two_ne_zero]
    congr 2
    ring
  have habs : |(m : ℚ)| ≤ 2 ^ 53 := by exact_mod_cast h
  have hlog53 : Int.log 2 |(m : ℚ)| ≤ 53 := by
    have hmono := Int.log_mono_right (b := 2) hpos habs
    have h53 : Int.log 2 ((2 : ℚ) ^ 53) = 53 := by
      have := Int.log_zpow (R := ℚ) one_lt_two 53
      exact_mod_cast this
    rwa [h53] at hmono
  rcases lt_or_eq_of_le hlog53 with hlt | heq
  · obtain ⟨j, hj⟩ := Int.eq_ofNat_of_zero_le (show 0 ≤ 52 - Int.log 2 |(m : ℚ)| by omega)
    refine toDouble_of_int (k := m * 2 ^ j) ?_
    rw [hquot, hj, zpow_natCast]
    push_cast
    rfl
  · -- only the ends of the range are of this size
    have hge : (2 : ℚ) ^ 53 ≤ |(m : ℚ)| := by
      have := Int.zpow_log_le_self (R := ℚ) one_lt_two hpos
      rw [heq] at this
      exact_mod_cast this
    rcases abs_eq (by positivity) |>.1 (le_antisymm habs hge) with hm | hm
    · refine toDouble_of_int (k := 2 ^ 52) ?_
      rw [hquot, heq, hm]
      norm_num
    · refine toDouble_of_int (k := -2 ^ 52) ?_
      rw [hquot, heq, hm]
      norm_num

theorem toDouble_toDouble (x : ℚ) : toDouble (toDouble x) = toDouble x := by
  refine toDouble_mul_zpow _ _ ?_
  have hlt := abs_div_ulp_lt x
  rw [← abs_of_pos (ulp_pos x), ← abs_div, abs_lt] at hlt
  refine abs_le.2 ⟨le_pyRound_of_le ?_, pyRound_le_of_le ?_⟩
  · push_cast
    exact hlt.1.le
  · push_cast
    exact hlt.2.le

theorem toDouble_intCast (n : Int) (h : |n| ≤ 2 ^ 53) : toDouble n = n := by
  simpa using toDouble_mul_zpow n 0 h

theorem toDouble_nonneg (h : 0 ≤ x) : 0 ≤ toDouble x := by
  have hround : 0 ≤ pyRound (x / ulp x) := by
    refine le_pyRound_of_le ?_
    push_cast
    exact div_nonneg h (ulp_pos x).le
  exact mul_nonneg (by exact_mod_cast hround) (ulp_pos x).le

theorem toDouble_neg (x : ℚ) : toDouble (-x) = -toDouble x := by
  unfold toDouble ulp
  rw [abs_neg, neg_div, pyRound_neg, Int.cast_neg, neg_mul]

/-- A double is at least the power of two that its number is. -/
theorem zpow_log_le_toDouble (h : 0 < x) : 2 ^ Int.log 2 x ≤ toDouble x := by
  have hquot := le_abs_div_ulp h.ne'
  rw [abs_of_pos h] at hquot
  have hround : (2 : Int) ^ 52 ≤ pyRound (x / ulp x) := by
    refine le_pyRound_of_le ?_
    push_cast
    exact hquot
  have hround' : (2 : ℚ) ^ 52 ≤ pyRound (x / ulp x) := by exact_mod_cast hround
  calc (2 : ℚ) ^ Int.log 2 x = 2 ^ 52 * ulp x := by
        unfold ulp
        rw [abs_of_pos h, ← zpow_natCast, ← zpow_add₀ two_ne_zero]
        congr 1
        push_cast
        ring
    _ ≤ toDouble x := mul_le_mul_of_nonneg_right hround' (ulp_pos x).le

theorem toDouble_le_zpow_log (h : 0 < x) : toDouble x ≤ 2 ^ (Int.log 2 x + 1) := by
  have hquot := (abs_div_ulp_lt x).le
  rw [abs_of_pos h] at hquot
  have hround : pyRound (x / ulp x) ≤ (2 : Int) ^ 53 := by
    refine pyRound_le_of_le ?_
    push_cast
    exact hquot
  have hround' : (pyRound (x / ulp x) : ℚ) ≤ 2 ^ 53 := by exact_mod_cast hround
  calc toDouble x ≤ 2 ^ 53 * ulp x := mul_le_mul_of_nonneg_right hround' (ulp_pos x).le
    _ = 2 ^ (Int.log 2 x + 1) := by
        unfold ulp
        rw [abs_of_pos h, ← zpow_natCast, ← zpow_add₀ two_ne_zero]
        congr 1
        push_cast
        ring

/-- Numbers of one size are rounded to the same place, and between two of different sizes there is a power of two. -/
theorem toDouble_le_of_pos (h : 0 < x) (hle : x ≤ y) : toDouble x ≤ toDouble y := by
  have hy : 0 < y := h.trans_le hle
  rcases (Int.log_mono_right (b := 2) h hle).lt_or_eq with hlt | heq
  · calc toDouble x ≤ 2 ^ (Int.log 2 x + 1) := toDouble_le_zpow_log h
      _ ≤ 2 ^ Int.log 2 y := zpow_le_zpow_right₀ one_le_two hlt
      _ ≤ toDouble y := zpow_log_le_toDouble hy
  · have hulp : ulp x = ulp y := by
      unfold ulp
      rw [abs_of_pos h, abs_of_pos hy, heq]
    have hround : (pyRound (x / ulp y) : ℚ) ≤ pyRound (y / ulp y) := by
      exact_mod_cast pyRound_mono (div_le_div_of_nonneg_right hle (ulp_pos y).le)
    unfold toDouble
    rw [hulp]
    exact mul_le_mul_of_nonneg_right hround (ulp_pos y).le

theorem toDouble_mono : Monotone toDouble := by
  intro x y hle
  rcases lt_or_ge 0 x with hx | hx
  · exact toDouble_le_of_pos hx hle
  have hneg : toDouble x = -toDouble (-x) := by rw [toDouble_neg, neg_neg]
  rcases lt_or_ge y 0 with hy | hy
  · rw [hneg, show toDouble y = -toDouble (-y) by rw [toDouble_neg, neg_neg]]
    exact neg_le_neg (toDouble_le_of_pos (neg_pos.2 hy) (neg_le_neg hle))
  · rw [hneg]
    exact (neg_nonpos.2 (toDouble_nonneg (neg_nonneg.2 hx))).trans (toDouble_nonneg hy)

end Double

/-! ## The sum of Python 3.12 -/

/-- A number added to a sum, and what the addition rounds off to what was rounded off before. -/
def addCompensated (s : ℚ × ℚ) (x : ℚ) : ℚ × ℚ :=
  let t := toDouble (s.1 + x)
  let lost := if |x| ≤ |s.1| then toDouble (toDouble (s.1 - t) + x) else toDouble (toDouble (x - t) + s.1)
  (t, toDouble (s.2 + lost))

def compensatedSum : List ℚ → ℚ
  | [] => 0
  | x :: vals =>
    let s := vals.foldl addCompensated (x, 0)
    if s.2 = 0 then s.1 else toDouble (s.1 + s.2)

/-- **Doubles.** -/
def binary64 : Arith where
  round := toDouble
  round_mono := toDouble_mono
  round_round := toDouble_toDouble
  round_error := abs_toDouble_sub_le
  round_intCast := toDouble_intCast
  sum := compensatedSum
  sum_singleton _ := rfl

/-- Ten tenths are one, and added in turn less. -/
example : binary64.sum (List.replicate 10 (toDouble 0.1)) = 1 ∧ binary64.total (List.replicate 10 (toDouble 0.1)) < 1 := by
  decide +kernel

/-- Three times 1000.01 has not the mean 1000.01. -/
example : binary64.mean (List.replicate 3 (toDouble 1000.01)) < toDouble 1000.01 := by decide +kernel

end Lib
