import KrishiBazaar.Lib.Rest
import Mathlib.Algebra.BigOperators.Group.List.Basic
import Mathlib.Data.List.Dedup
import Mathlib.Algebra.Order.BigOperators.Group.List
/-!
# Total — a sum over the rows of a table

The sum of a weight over all rows, and how the writes move it: an insert adds the new row's weight, and an update
exchanges the weights of the rows it selects (`total_update`).  The same rules on lists count each element of a list
once or as often as it is listed (`sum_dedup_iff`).
-/
namespace Lib

variable {ρ κ M : Type} {key : ρ → κ} {check : ρ → Bool}

namespace Table

section Monoid

variable [AddCommMonoid M]

def total (t : Table key check) (w : ρ → M) : M := (t.rows.map w).sum

theorem total_insert [DecidableEq κ] {t : Table key check} {r : ρ} {hk : t.get? (key r) = none} {hc : check r = true}
    (w : ρ → M) : (t.insert r hk hc).total w = t.total w + w r := by
  simp [total, insert]

theorem total_insert? [DecidableEq κ] {DB : Type} {tab : Tab DB key check} {db db' : DB} {r : ρ}
    (h : tab.insert? db r = .ok db') (w : ρ → M) : (tab.get db').total w = (tab.get db).total w + w r := by
  obtain ⟨hk, hc, -, rfl⟩ := Tab.insert?_ok h
  rw [tab.get_set, total_insert]

theorem sum_update (p : ρ → Bool) (f : ρ → ρ) (w : ρ → M) : ∀ l : List ρ,
    ((l.map (fun r => if p r then f r else r)).map w).sum + ((l.filter p).map w).sum
      = (l.map w).sum + ((l.filter p).map (fun r => w (f r))).sum
  | [] => by simp
  | a :: l => by
    have ih := sum_update p f w l
    cases hp : p a with
    | false =>
      simp only [List.map_cons, List.sum_cons, hp, Bool.false_eq_true, if_false, List.filter_cons_of_neg,
        not_false_eq_true]
      rw [add_assoc, ih, add_assoc]
    | true =>
      simp only [List.map_cons, List.sum_cons, hp, if_true, List.filter_cons_of_pos]
      rw [add_add_add_comm, ih, add_comm (w (f a)) (w a), add_add_add_comm]

/-- **An update exchanges the weights of the rows it selects.** -/
theorem total_update (t : Table key check) (p : ρ → Bool) (f : Patch key check) (w : ρ → M) :
    (t.update p f).total w + ((t.rows.filter p).map w).sum
      = t.total w + ((t.rows.filter p).map (fun r => w (f.apply r))).sum := sum_update p f.apply w t.rows

theorem total_update_key [DecidableEq κ] {t : Table key check} {k : κ} {r : ρ} (h : t.get? k = some r)
    (f : Patch key check) (w : ρ → M) :
    (t.update (fun r => key r = k) f).total w + w r = t.total w + w (f.apply r) := by
  have := t.total_update (fun r => key r = k) f w
  rw [t.filter_key, h] at this
  simpa using this

theorem total_filter (t : Table key check) (p : ρ → Bool) (w : ρ → M) :
    ((t.rows.filter p).map w).sum = t.total (fun r => if p r then w r else 0) := by
  unfold total
  induction t.rows with
  | nil => rfl
  | cons a l ih => cases hp : p a <;> simp [hp, ih]

theorem total_without [DecidableEq κ] {t : Table key check} {k : κ} {r : ρ} (h : t.get? k = some r) (w : ρ → M) :
    t.total (fun r => if key r = k then 0 else w r) + w r = t.total w := by
  have hk : w r = t.total (fun r => if key r = k then w r else 0) := by
    have := t.total_filter (fun r => key r = k) w
    rw [t.filter_key, h] at this
    simpa using this
  rw [hk]
  unfold total
  induction t.rows with
  | nil => simp
  | cons a l ih => by_cases ha : key a = k <;> simp [ha, ← ih, add_assoc, add_left_comm]

end Monoid

section Order

variable [AddCommMonoid M] [PartialOrder M] [IsOrderedAddMonoid M]

theorem total_update_le {t : Table key check} {p : ρ → Bool} {f : Patch key check} {w : ρ → M}
    (h : ∀ r ∈ t.rows, p r = true → w (f.apply r) ≤ w r) : (t.update p f).total w ≤ t.total w := by
  unfold total update
  rw [List.map_map]
  refine List.sum_le_sum (fun r hr => ?_)
  show w (if p r then f.apply r else r) ≤ w r
  cases hp : p r with
  | false => simp
  | true => simpa using h r hr hp

end Order

end Table

/-! ## Lists with repeated elements -/

section Dedup

variable [DecidableEq ρ] [AddCommGroup M] [LinearOrder M] [IsOrderedAddMonoid M]

theorem sum_dedup_le {w : ρ → M} : ∀ {l : List ρ}, (∀ a ∈ l, 0 < w a) → (l.dedup.map w).sum ≤ (l.map w).sum
  | [], _ => by simp
  | a :: l, h => by
    have ih : (l.dedup.map w).sum ≤ (l.map w).sum := sum_dedup_le (fun b hb => h b (List.mem_cons_of_mem a hb))
    by_cases ha : a ∈ l
    · rw [List.dedup_cons_of_mem ha, List.map_cons, List.sum_cons]
      exact ih.trans (le_add_of_nonneg_left (h a List.mem_cons_self).le)
    · rw [List.dedup_cons_of_notMem ha, List.map_cons, List.sum_cons, List.map_cons, List.sum_cons]
      exact add_le_add_right ih _

/-- **Positive weights count the same once as often as listed exactly when nothing is listed twice.** -/
theorem sum_dedup_iff {w : ρ → M} : ∀ {l : List ρ}, (∀ a ∈ l, 0 < w a) →
    ((l.dedup.map w).sum = (l.map w).sum ↔ l.Nodup)
  | [], _ => by simp
  | a :: l, h => by
    have hl : ∀ b ∈ l, 0 < w b := fun b hb => h b (List.mem_cons_of_mem a hb)
    by_cases ha : a ∈ l
    · have hlt : (l.dedup.map w).sum < ((a :: l).map w).sum := by
        rw [List.map_cons, List.sum_cons]
        exact lt_of_le_of_lt (sum_dedup_le hl) (lt_add_of_pos_left _ (h a List.mem_cons_self))
      rw [List.dedup_cons_of_mem ha]
      exact ⟨fun he => absurd he hlt.ne, fun hn => absurd ha (List.nodup_cons.1 hn).1⟩
    · rw [List.dedup_cons_of_notMem ha, List.map_cons, List.sum_cons, List.map_cons, List.sum_cons, List.nodup_cons,
        add_right_inj, sum_dedup_iff hl]
      exact ⟨fun hn => ⟨ha, hn⟩, And.right⟩

end Dedup

end Lib
