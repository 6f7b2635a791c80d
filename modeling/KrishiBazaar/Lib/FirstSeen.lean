import Mathlib.Data.List.Nodup
/-!
# FirstSeen — the first element of each key

`for a in l: if key(a) not in seen: keep a`.  Of each key the first element is kept (`filter_firstSeen`), in the order
of the list, so the kept elements have distinct keys, and every key of the list.  Of a sorted list it is the least of its
key (`firstSeen_le`).
-/
namespace Lib

variable {α κ : Type} [DecidableEq κ] {key : α → κ}

def firstSeen (key : α → κ) : List α → List α
  | [] => []
  | a :: l => a :: (firstSeen key l).filter (fun b => key b ≠ key a)

/-- **Of a key the first element is kept, and no other.** -/
theorem filter_firstSeen (k : κ) : ∀ l : List α,
    (firstSeen key l).filter (fun a => key a = k) = (l.find? (fun a => key a = k)).toList
  | [] => rfl
  | a :: l => by
    rw [firstSeen, List.filter_cons, List.filter_filter]
    by_cases ha : key a = k
    · have hnil : (firstSeen key l).filter (fun b => decide (key b = k) && decide (key b ≠ key a)) = [] :=
        List.filter_eq_nil_iff.2 (fun b _ => by simp [ha])
      rw [hnil, if_pos (by simpa using ha), List.find?_cons_of_pos (by simpa using ha)]
      rfl
    · have hne : (fun b => decide (key b = k) && decide (key b ≠ key a)) = fun b => decide (key b = k) := by
        funext b
        by_cases hb : key b = k
        · simp [hb, Ne.symm ha]
        · simp [hb]
      rw [hne, if_neg (by simpa using ha), List.find?_cons_of_neg (by simpa using ha), filter_firstSeen k l]

theorem mem_firstSeen {l : List α} {a : α} : a ∈ firstSeen key l ↔ l.find? (fun b => key b = key a) = some a := by
  have hself : a ∈ firstSeen key l ↔ a ∈ (firstSeen key l).filter (fun b => key b = key a) := by
    simp [List.mem_filter]
  rw [hself, filter_firstSeen, Option.mem_toList]

/-- One element for each key of the list, and none for another. -/
theorem length_filter_firstSeen (key : α → κ) (k : κ) (l : List α) :
    ((firstSeen key l).filter (fun a => key a = k)).length = if k ∈ l.map key then 1 else 0 := by
  rw [filter_firstSeen]
  cases h : l.find? (fun a => key a = k) with
  | none =>
    have hmem : k ∉ l.map key := by
      intro hk
      obtain ⟨a, ha, rfl⟩ := List.mem_map.1 hk
      exact absurd (List.find?_eq_none.1 h a ha) (by simp)
    rw [if_neg hmem]
    rfl
  | some a =>
    have hmem : k ∈ l.map key :=
      List.mem_map.2 ⟨a, List.mem_of_find?_eq_some h, by simpa using List.find?_some h⟩
    rw [if_pos hmem]
    rfl

/-- **Of a sorted list the element kept of a key is before the others of the key.** -/
theorem firstSeen_le {r : α → α → Prop} {l : List α} (hsort : l.Pairwise r) {a b : α} (ha : a ∈ firstSeen key l) (hb : b ∈ l)
    (hkey : key b = key a) : b = a ∨ r a b := by
  obtain ⟨-, pre, post, rfl, hpre⟩ := List.find?_eq_some_iff_append.1 (mem_firstSeen.1 ha)
  rcases List.mem_append.1 hb with hb | hb
  · exact absurd hkey (by simpa using hpre b hb)
  · rcases List.mem_cons.1 hb with rfl | hb
    · exact Or.inl rfl
    · exact Or.inr (List.rel_of_pairwise_cons (List.pairwise_append.1 hsort).2.1 hb)

end Lib
