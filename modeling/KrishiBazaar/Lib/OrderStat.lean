import Mathlib.Algebra.Order.Group.Unbundled.Basic
import Mathlib.Algebra.Order.Group.Defs
import Mathlib.Data.List.Forall2
import Mathlib.Data.List.GetD
import Mathlib.Order.Monotone.Basic
import Mathlib.Data.List.Sort
/-!
# OrderStat — the values of a sample by rank

The `k`-th smallest value of a sample does not go down when values go up, whichever they are
(`getD_insertionSort_le`), and a monotone function of the values takes it to the `k`-th smallest of the images
(`getD_insertionSort_map`).  It is told by counting the values up to a bound (`getD_insertionSort_le_iff`), so one value
that moves without crossing it leaves it where it is (`getD_insertionSort_cons_of_lt`), and it never moves farther than
the value (`getD_insertionSort_cons_le`).
-/
namespace Lib

variable {α β : Type} [LinearOrder α] [LinearOrder β]

/-- Inserting a greater value into greater values. -/
theorem forall₂_orderedInsert : ∀ {l l' : List α} {a a' : α}, List.Forall₂ (· ≤ ·) l l' → l.Pairwise (· ≤ ·) →
    l'.Pairwise (· ≤ ·) → a ≤ a' →
      List.Forall₂ (· ≤ ·) (l.orderedInsert (· ≤ ·) a) (l'.orderedInsert (· ≤ ·) a')
  | [], [], a, a', _, _, _, ha => List.Forall₂.cons ha List.Forall₂.nil
  | b :: l, b' :: l', a, a', h, hs, hs', ha => by
    obtain ⟨hb, hl⟩ := List.forall₂_cons.1 h
    obtain ⟨hbl, hs⟩ := List.pairwise_cons.1 hs
    obtain ⟨hbl', hs'⟩ := List.pairwise_cons.1 hs'
    rw [List.orderedInsert_cons, List.orderedInsert_cons]
    split
    · rename_i hab
      split
      · exact List.Forall₂.cons ha h
      · -- The greater value goes further back: `b` takes its place before it.
        rename_i hab'
        have hba' : b ≤ a' := hb.trans (not_le.1 hab').le
        have hinsert : l.orderedInsert (· ≤ ·) b = b :: l := by
          cases l with
          | nil => rfl
          | cons c l => rw [List.orderedInsert_cons, if_pos (hbl c List.mem_cons_self)]
        rw [← hinsert]
        exact List.Forall₂.cons (hab.trans hb) (forall₂_orderedInsert hl hs hs' hba')
    · rename_i hab
      have hba : b < a := not_le.1 hab
      split
      · rename_i hab'
        have hinsert : l'.orderedInsert (· ≤ ·) b' = b' :: l' := by
          cases l' with
          | nil => rfl
          | cons c l' => rw [List.orderedInsert_cons, if_pos (hbl' c List.mem_cons_self)]
        rw [← hinsert]
        exact List.Forall₂.cons (hba.le.trans ha) (forall₂_orderedInsert hl hs hs' (ha.trans hab'))
      · exact List.Forall₂.cons hb (forall₂_orderedInsert hl hs hs' ha)

/-- **Sorting keeps the order of samples.** -/
theorem forall₂_insertionSort : ∀ {l l' : List α}, List.Forall₂ (· ≤ ·) l l' →
    List.Forall₂ (· ≤ ·) (l.insertionSort (· ≤ ·)) (l'.insertionSort (· ≤ ·))
  | [], [], _ => List.Forall₂.nil
  | a :: l, a' :: l', h => by
    obtain ⟨ha, hl⟩ := List.forall₂_cons.1 h
    rw [List.insertionSort_cons, List.insertionSort_cons]
    exact forall₂_orderedInsert (forall₂_insertionSort hl) (List.pairwise_insertionSort _ l)
      (List.pairwise_insertionSort _ l') ha

omit [LinearOrder α] [LinearOrder β] in
theorem forall₂_getD {R : α → β → Prop} : ∀ {l : List α} {l' : List β} {d : α} {d' : β} (k : Nat), List.Forall₂ R l l' →
    R d d' → R (l.getD k d) (l'.getD k d')
  | [], [], _, _, _, _, hd => hd
  | _ :: _, _ :: _, _, _, 0, h, _ => (List.forall₂_cons.1 h).1
  | _ :: _, _ :: _, _, _, k + 1, h, hd => forall₂_getD k (List.forall₂_cons.1 h).2 hd

/-- **The `k`-th smallest value does not go down when values go up.** -/
theorem getD_insertionSort_le {l l' : List α} (h : List.Forall₂ (· ≤ ·) l l') (k : Nat) (d : α) :
    (l.insertionSort (· ≤ ·)).getD k d ≤ (l'.insertionSort (· ≤ ·)).getD k d :=
  forall₂_getD k (forall₂_insertionSort h) le_rfl

theorem getD_insertionSort_map {f : α → β} (hf : Monotone f) (l : List α) (k : Nat) (d : α) :
    ((l.map f).insertionSort (· ≤ ·)).getD k (f d) = f ((l.insertionSort (· ≤ ·)).getD k d) := by
  have hsorted : ((l.insertionSort (· ≤ ·)).map f).Pairwise (· ≤ ·) :=
    (List.pairwise_insertionSort (· ≤ ·) l).map f (fun _ _ h => hf h)
  have hperm : ((l.map f).insertionSort (· ≤ ·)).Perm ((l.insertionSort (· ≤ ·)).map f) :=
    (List.perm_insertionSort _ _).trans ((List.perm_insertionSort (· ≤ ·) l).symm.map f)
  have hmap : (l.map f).insertionSort (· ≤ ·) = (l.insertionSort (· ≤ ·)).map f :=
    hperm.eq_of_pairwise (fun _ _ _ _ => le_antisymm) (List.pairwise_insertionSort _ _) hsorted
  rw [hmap, List.getD_eq_getElem?_getD, List.getElem?_map, Option.getD_map, List.getD_eq_getElem?_getD]

/-! ## Counting -/

/-- In a sorted list the values up to a bound come first. -/
theorem getD_le_iff_of_sorted : ∀ {l : List α} {k : Nat} {x d : α}, l.Pairwise (· ≤ ·) → k < l.length →
    (l.getD k d ≤ x ↔ k < l.countP (· ≤ x))
  | a :: l, 0, x, d, hs, _ => by
    obtain ⟨hal, -⟩ := List.pairwise_cons.1 hs
    show a ≤ x ↔ _
    rw [List.countP_pos_iff]
    constructor
    · exact fun h => ⟨a, List.mem_cons_self, decide_eq_true h⟩
    · rintro ⟨b, hb, hbx⟩
      rcases List.mem_cons.1 hb with rfl | hb
      · exact of_decide_eq_true hbx
      · exact (hal b hb).trans (of_decide_eq_true hbx)
  | a :: l, k + 1, x, d, hs, hk => by
    obtain ⟨hal, hs⟩ := List.pairwise_cons.1 hs
    have hk : k < l.length := Nat.lt_of_succ_lt_succ hk
    have ih : l.getD k d ≤ x ↔ k < l.countP (· ≤ x) := getD_le_iff_of_sorted hs hk
    show l.getD k d ≤ x ↔ _
    rw [ih, List.countP_cons]
    by_cases hax : a ≤ x
    · simp [hax]
    · -- what comes after a value above the bound is above it too
      have hnone : l.countP (· ≤ x) = 0 :=
        List.countP_eq_zero.2 (fun b hb => by simpa using (not_le.1 hax).trans_le (hal b hb))
      simp [hax, hnone]

section Rank

variable {l : List α} {k : Nat} {x a a' d : α}

theorem getD_insertionSort_le_iff (hk : k < l.length) :
    (l.insertionSort (· ≤ ·)).getD k d ≤ x ↔ k < l.countP (· ≤ x) := by
  rw [getD_le_iff_of_sorted (List.pairwise_insertionSort _ l) (by rwa [List.length_insertionSort]),
    (List.perm_insertionSort (· ≤ ·) l).countP_eq]

theorem getD_insertionSort_rank_le {j : Nat} (hjk : j ≤ k) (hk : k < l.length) :
    (l.insertionSort (· ≤ ·)).getD j d ≤ (l.insertionSort (· ≤ ·)).getD k d := by
  have hcount := (getD_insertionSort_le_iff (d := d) hk).1 le_rfl
  exact (getD_insertionSort_le_iff (hjk.trans_lt hk)).2 (hjk.trans_lt hcount)

/-- **A value above the `k`-th that goes up leaves it where it is.** -/
theorem getD_insertionSort_cons_of_lt (haa' : a ≤ a') (hk : k < (a :: l).length)
    (h : ((a :: l).insertionSort (· ≤ ·)).getD k d < a) :
    ((a' :: l).insertionSort (· ≤ ·)).getD k d = ((a :: l).insertionSort (· ≤ ·)).getD k d := by
  refine le_antisymm ?_ (getD_insertionSort_le (.cons haa' (List.forall₂_same.2 fun _ _ => le_rfl)) k d)
  have hcount := (getD_insertionSort_le_iff (d := d) hk).1 le_rfl
  rw [List.countP_cons_of_neg (by simpa using h)] at hcount
  rw [getD_insertionSort_le_iff (by simpa using hk), List.countP_cons_of_neg (by simpa using h.trans_le haa')]
  exact hcount

/-- **A value below the `k`-th that comes up to it from further below leaves it where it is.** -/
theorem getD_insertionSort_cons_of_gt (haa' : a ≤ a') (hk : k < (a :: l).length)
    (h : a' < ((a' :: l).insertionSort (· ≤ ·)).getD k d) :
    ((a :: l).insertionSort (· ≤ ·)).getD k d = ((a' :: l).insertionSort (· ≤ ·)).getD k d := by
  refine le_antisymm (getD_insertionSort_le (.cons haa' (List.forall₂_same.2 fun _ _ => le_rfl)) k d) ?_
  -- a smaller `k`-th value would have as many values up to it beside `a'` as beside `a`
  by_contra hlt
  have hcount := (getD_insertionSort_le_iff (d := d) hk).1 le_rfl
  have hmax : max a' (((a :: l).insertionSort (· ≤ ·)).getD k d) < ((a' :: l).insertionSort (· ≤ ·)).getD k d :=
    max_lt h (not_le.1 hlt)
  refine absurd hmax (not_lt.2 ((getD_insertionSort_le_iff (by simpa using hk)).2 ?_))
  rw [List.countP_cons_of_pos (by simp)]
  refine hcount.trans_le ?_
  rw [List.countP_cons]
  refine Nat.add_le_add (List.countP_mono_left (fun y _ hy => ?_)) (by split <;> simp)
  exact decide_eq_true ((of_decide_eq_true hy).trans (le_max_right _ _))

end Rank

/-- **No value by rank moves farther than the value that moves.** -/
theorem getD_insertionSort_cons_le [AddCommGroup α] [IsOrderedAddMonoid α] {l : List α} {k : Nat} {a a' d : α}
    (haa' : a ≤ a') (hk : k < (a :: l).length) : ((a' :: l).insertionSort (· ≤ ·)).getD k d
      ≤ ((a :: l).insertionSort (· ≤ ·)).getD k d + (a' - a) := by
  have hcount := (getD_insertionSort_le_iff (d := d) hk).1 le_rfl
  refine (getD_insertionSort_le_iff (by simpa using hk)).2 (hcount.trans_le ?_)
  rw [List.countP_cons, List.countP_cons]
  refine Nat.add_le_add (List.countP_mono_left (fun y _ hy => ?_)) ?_
  · exact decide_eq_true ((of_decide_eq_true hy).trans (le_add_of_nonneg_right (sub_nonneg.2 haa')))
  · split
    · rename_i ha
      have hmoved : a' ≤ ((a :: l).insertionSort (· ≤ ·)).getD k d + (a' - a) := by
        have h := add_le_add_left (of_decide_eq_true ha) (a' - a)
        rwa [add_sub_cancel] at h
      rw [if_pos (decide_eq_true hmoved)]
    · exact Nat.zero_le _

end Lib
