import Mathlib.Data.List.Basic
/-!
# Chunk — a list cut into pieces of one length

`for i in range(0, len(l), n): l[i:i + n]`: the pieces in order, the last of them the rest.  Put together again they
are the list (`flatten_chunks`), and cutting commutes with a map (`chunks_map`).
-/
namespace Lib

variable {α β : Type}

def chunks (n : Nat) (l : List α) : List (List α) :=
  (List.range ((l.length + n - 1) / n)).map (fun i => (l.drop (n * i)).take n)

/-- A list that is not empty has its first piece, and then the pieces of the rest. -/
theorem chunks_of_ne_nil {n : Nat} (hn : 0 < n) {l : List α} (h : l ≠ []) :
    chunks n l = l.take n :: chunks n (l.drop n) := by
  have hlen : 0 < l.length := List.length_pos_iff.2 h
  have hcount : (l.length + n - 1) / n = ((l.drop n).length + n - 1) / n + 1 := by
    rw [List.length_drop]
    rcases Nat.le_total l.length n with hle | hle
    · have hlast : l.length - n + n - 1 < n := by omega
      have hfirst : l.length + n - 1 = l.length - 1 + n := by omega
      rw [Nat.div_eq_of_lt hlast, hfirst, Nat.add_div_right _ hn, Nat.div_eq_of_lt (by omega)]
    · have hsum : l.length + n - 1 = l.length - n + n - 1 + n := by omega
      rw [hsum, Nat.add_div_right _ hn]
  unfold chunks
  rw [hcount, List.range_succ_eq_map, List.map_cons, List.map_map, Nat.mul_zero, List.drop_zero]
  congr 1
  refine List.map_congr_left (fun i _ => ?_)
  rw [Function.comp, Nat.mul_succ, List.drop_drop, Nat.add_comm]

theorem chunks_nil {n : Nat} (hn : 0 < n) : chunks n ([] : List α) = [] := by
  have hcount : (0 + n - 1) / n = 0 := Nat.div_eq_of_lt (by omega)
  unfold chunks
  rw [List.length_nil, hcount, List.range_zero, List.map_nil]

/-- **The pieces together are the list.** -/
theorem flatten_chunks {n : Nat} (hn : 0 < n) : ∀ l : List α, (chunks n l).flatten = l
  | [] => by rw [chunks_nil hn, List.flatten_nil]
  | a :: l => by
    rw [chunks_of_ne_nil hn (List.cons_ne_nil a l), List.flatten_cons, flatten_chunks hn ((a :: l).drop n),
      List.take_append_drop]
termination_by l => l.length
decreasing_by
  simp only [List.length_drop, List.length_cons]
  omega

theorem chunks_map (f : α → β) (n : Nat) (l : List α) : chunks n (l.map f) = (chunks n l).map (List.map f) := by
  unfold chunks
  rw [List.length_map, List.map_map]
  refine List.map_congr_left (fun i _ => ?_)
  rw [Function.comp, List.map_take, List.map_drop]

end Lib
