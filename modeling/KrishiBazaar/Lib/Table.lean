import Mathlib.Data.List.Nodup
import Mathlib.Data.List.Perm.Basic
/-!
# Table — a keyed table that cannot hold a bad row

A table is the list of its rows with its two constraints as fields: no two rows have one key, and every row passes the
table's check.  An insert that would break either has no table to return, and an update carries the proof that it
keeps the key and the check (`Patch`), so every state built from tables satisfies its constraints by construction.

Everything later is said through `get?`, the row of a key: `get?_insert` and `get?_update` are the two facts a proof
about a write needs, and `filter_key` is what makes a lookup by key independent of the order of the rows.
-/
namespace Lib

structure Table {ρ κ : Type} (key : ρ → κ) (check : ρ → Bool) where
  rows : List ρ
  nodup : (rows.map key).Nodup
  checked : ∀ r ∈ rows, check r = true

/-- A change to a row that keeps its key and its check. -/
structure Patch {ρ κ : Type} (key : ρ → κ) (check : ρ → Bool) where
  apply : ρ → ρ
  key_apply : ∀ r, key (apply r) = key r
  check_apply : ∀ r, check r = true → check (apply r) = true

namespace Table

variable {ρ κ : Type} {key : ρ → κ} {check : ρ → Bool}

def empty : Table key check := ⟨[], by simp, by simp⟩

theorem eq_of_key (t : Table key check) {r r' : ρ} (h : r ∈ t.rows) (h' : r' ∈ t.rows) (hk : key r = key r') :
    r = r' := List.inj_on_of_nodup_map t.nodup h h' hk

/-- An index of rows has no duplicate just if no two rows have one entry. -/
theorem nodup_filterMap_iff {β : Type} {f : ρ → Option β} : ∀ {l : List ρ}, l.Nodup →
    ((l.filterMap f).Nodup ↔ ∀ r ∈ l, ∀ r' ∈ l, ∀ b, f r = some b → f r' = some b → r = r')
  | [], _ => by simp
  | a :: l, hnd => by
    rw [List.nodup_cons] at hnd
    cases ha : f a with
    | none =>
      rw [List.filterMap_cons_none ha, nodup_filterMap_iff hnd.2]
      simp [ha]
    | some b =>
      rw [List.filterMap_cons_some ha, List.nodup_cons, nodup_filterMap_iff hnd.2, List.mem_filterMap]
      constructor
      · rintro ⟨hnew, hrest⟩ r hr r' hr' c hc hc'
        rcases List.mem_cons.1 hr with rfl | hmem
        · rcases List.mem_cons.1 hr' with rfl | hmem'
          · rfl
          · obtain rfl := Option.some.inj (ha.symm.trans hc)
            exact absurd ⟨r', hmem', hc'⟩ hnew
        · rcases List.mem_cons.1 hr' with rfl | hmem'
          · obtain rfl := Option.some.inj (ha.symm.trans hc')
            exact absurd ⟨r, hmem, hc⟩ hnew
          · exact hrest r hmem r' hmem' c hc hc'
      · intro hall
        refine ⟨?_, fun r hr r' hr' => hall r (List.mem_cons_of_mem a hr) r' (List.mem_cons_of_mem a hr')⟩
        rintro ⟨r, hr, hb⟩
        exact hnd.1 (hall a List.mem_cons_self r (List.mem_cons_of_mem a hr) b ha hb ▸ hr)

/-! ## The row of a key -/

section Key

variable [DecidableEq κ]

def get? (t : Table key check) (k : κ) : Option ρ := t.rows.find? (fun r => key r = k)

/-- In rows of different keys the row found at a key is the one that has it. -/
theorem find?_key_eq_some {l : List ρ} (hnd : (l.map key).Nodup) {k : κ} {r : ρ} :
    l.find? (fun r => key r = k) = some r ↔ r ∈ l ∧ key r = k := by
  constructor
  · intro h
    exact ⟨List.mem_of_find?_eq_some h, by simpa using List.find?_some h⟩
  · rintro ⟨hm, rfl⟩
    cases hf : l.find? (fun x => key x = key r) with
    | none => exact absurd (List.find?_eq_none.1 hf r hm) (by simp)
    | some r' =>
      have hk : key r' = key r := by simpa using List.find?_some hf
      rw [List.inj_on_of_nodup_map hnd (List.mem_of_find?_eq_some hf) hm hk]

theorem find?_key_perm {l l' : List ρ} (hnd : (l.map key).Nodup) (h : l'.Perm l) (k : κ) :
    l'.find? (fun r => key r = k) = l.find? (fun r => key r = k) := by
  refine Option.ext (fun r => ?_)
  rw [find?_key_eq_some hnd, find?_key_eq_some ((h.map key).nodup_iff.2 hnd), h.mem_iff]

theorem get?_eq_some {t : Table key check} {k : κ} {r : ρ} : t.get? k = some r ↔ r ∈ t.rows ∧ key r = k :=
  find?_key_eq_some t.nodup

theorem get?_eq_none {t : Table key check} {k : κ} : t.get? k = none ↔ ∀ r ∈ t.rows, key r ≠ k := by
  simp [get?, List.find?_eq_none]

theorem get?_of_mem {t : Table key check} {r : ρ} (h : r ∈ t.rows) : t.get? (key r) = some r :=
  get?_eq_some.2 ⟨h, rfl⟩

theorem key_of_get? {t : Table key check} {k : κ} {r : ρ} (h : t.get? k = some r) : key r = k := (get?_eq_some.1 h).2

theorem mem_of_get? {t : Table key check} {k : κ} {r : ρ} (h : t.get? k = some r) : r ∈ t.rows := (get?_eq_some.1 h).1

theorem eq_of_get? {t : Table key check} {k : κ} {r r' : ρ} (h : t.get? k = some r) (h' : r' ∈ t.rows) (hk : key r' = k) :
    r' = r := t.eq_of_key h' (mem_of_get? h) (hk.trans (key_of_get? h).symm)

theorem check_of_get? {t : Table key check} {k : κ} {r : ρ} (h : t.get? k = some r) : check r = true :=
  t.checked r (mem_of_get? h)

theorem filter_of_nodup (k : κ) (q : ρ → Bool) : ∀ (l : List ρ), (l.map key).Nodup →
    l.filter (fun r => key r = k && q r) = ((l.find? (fun r => key r = k)).filter q).toList
  | [], _ => rfl
  | a :: l, hnd => by
    rw [List.map_cons, List.nodup_cons] at hnd
    by_cases ha : key a = k
    · have hl : l.filter (fun r => key r = k && q r) = [] := List.filter_eq_nil_iff.2 (fun r hr hk => by
        simp only [Bool.and_eq_true, decide_eq_true_eq] at hk
        exact hnd.1 (List.mem_map.2 ⟨r, hr, hk.1.trans ha.symm⟩))
      rw [List.filter_cons, hl, List.find?_cons_of_pos (by simpa using ha)]
      cases hq : q a <;> simp [ha, hq, Option.filter]
    · rw [List.filter_cons_of_neg (by simp [ha]), List.find?_cons_of_neg (by simp [ha]), filter_of_nodup k q l hnd.2]

/-- **A selection by key is the row of that key**, if it passes the rest of the condition. -/
theorem filter_key_and (t : Table key check) (k : κ) (q : ρ → Bool) :
    t.rows.filter (fun r => key r = k && q r) = ((t.get? k).filter q).toList := filter_of_nodup k q t.rows t.nodup

theorem filter_key (t : Table key check) (k : κ) : t.rows.filter (fun r => key r = k) = (t.get? k).toList := by
  have h := t.filter_key_and k (fun _ => true)
  cases hk : t.get? k <;> simpa [hk, Option.filter] using h

/-! ## Writes -/

def insert (t : Table key check) (r : ρ) (hk : t.get? (key r) = none) (hc : check r = true) : Table key check where
  rows := t.rows ++ [r]
  nodup := by
    rw [List.map_append, List.nodup_append]
    refine ⟨t.nodup, by simp, ?_⟩
    simp only [List.mem_map, List.map_cons, List.map_nil, List.mem_singleton]
    rintro a ⟨r', hr', rfl⟩ b rfl
    exact get?_eq_none.1 hk r' hr'
  checked := by
    intro r' hr'
    rcases List.mem_append.1 hr' with h | h
    · exact t.checked r' h
    · rw [List.mem_singleton] at h
      rw [h, hc]

theorem mem_insert {t : Table key check} {r r' : ρ} {hk : t.get? (key r) = none} {hc : check r = true} :
    r' ∈ (t.insert r hk hc).rows ↔ r' ∈ t.rows ∨ r' = r := by
  simp [insert]

theorem filter_insert {t : Table key check} (r : ρ) (hk : t.get? (key r) = none) (hc : check r = true) {p : ρ → Bool} :
    (t.insert r hk hc).rows.filter p = t.rows.filter p ↔ p r = false := by
  rw [insert, List.filter_append, List.append_right_eq_self, List.filter_eq_nil_iff]
  simp

theorem get?_insert {t : Table key check} {r : ρ} {hk : t.get? (key r) = none} {hc : check r = true} (k : κ) :
    (t.insert r hk hc).get? k = if key r = k then some r else t.get? k := by
  split
  · rename_i h
    subst h
    exact get?_of_mem (mem_insert.2 (Or.inr rfl))
  · rename_i h
    show (t.rows ++ [r]).find? _ = _
    rw [List.find?_append, List.find?_singleton]
    simp [h, get?]

end Key

/-- `f` applied to the rows that `p` selects. -/
def update (t : Table key check) (p : ρ → Bool) (f : Patch key check) : Table key check where
  rows := t.rows.map (fun r => if p r then f.apply r else r)
  nodup := by
    have h : key ∘ (fun r => if p r then f.apply r else r) = key := by
      funext r
      show key (if p r then f.apply r else r) = key r
      split
      · exact f.key_apply r
      · rfl
    rw [List.map_map, h]
    exact t.nodup
  checked := by
    intro r' hr'
    obtain ⟨r, hr, rfl⟩ := List.mem_map.1 hr'
    split
    · exact f.check_apply r (t.checked r hr)
    · exact t.checked r hr

theorem mem_update {t : Table key check} {p : ρ → Bool} {f : Patch key check} {r' : ρ} :
    r' ∈ (t.update p f).rows ↔ ∃ r ∈ t.rows, (if p r then f.apply r else r) = r' := List.mem_map

theorem get?_update [DecidableEq κ] (t : Table key check) (p : ρ → Bool) (f : Patch key check) (k : κ) :
    (t.update p f).get? k = (t.get? k).map (fun r => if p r then f.apply r else r) := by
  show (t.rows.map _).find? _ = _
  rw [List.find?_map]
  congr 1
  have h : ∀ r, key (if p r then f.apply r else r) = key r := by
    intro r
    split
    · exact f.key_apply r
    · rfl
  unfold get?
  congr 1
  funext r
  simp [h r]

/-- An update that selects no row of the table changes nothing. -/
theorem update_eq_self {t : Table key check} {p : ρ → Bool} {f : Patch key check} (h : ∀ r ∈ t.rows, p r = false) :
    t.update p f = t := by
  have hr : t.rows.map (fun r => if p r then f.apply r else r) = t.rows := by
    refine (List.map_congr_left (fun r hr => ?_)).trans (List.map_id' _)
    rw [h r hr]
    rfl
  rcases t with ⟨rows, hn, hc⟩
  simp only [update]
  congr 1

theorem update_congr {t : Table key check} {p q : ρ → Bool} {f : Patch key check} (h : ∀ r ∈ t.rows, p r = q r) :
    t.update p f = t.update q f := by
  have hr : t.rows.map (fun r => if p r then f.apply r else r) = t.rows.map (fun r => if q r then f.apply r else r) :=
    List.map_congr_left (fun r hr => by rw [h r hr])
  simp only [update]
  congr 1

/-- An update of rows that a filter leaves out, before and after, is not seen by it. -/
theorem filter_update {t : Table key check} {p q : ρ → Bool} {f : Patch key check}
    (h : ∀ r ∈ t.rows, p r = true → q r = false ∧ q (f.apply r) = false) :
    (t.update p f).rows.filter q = t.rows.filter q := by
  have hrows : ∀ l : List ρ, (∀ r ∈ l, p r = true → q r = false ∧ q (f.apply r) = false) →
      (l.map (fun r => if p r then f.apply r else r)).filter q = l.filter q := by
    intro l
    induction l with
    | nil => exact fun _ => rfl
    | cons r l ih =>
      intro hl
      have ih := ih (fun r' hr' => hl r' (List.mem_cons_of_mem _ hr'))
      by_cases hp : p r = true
      · obtain ⟨hq, hq'⟩ := hl r List.mem_cons_self hp
        simp only [List.map_cons, List.filter_cons, hp, hq, hq', if_true, ih]
        rfl
      · simp only [List.map_cons, List.filter_cons, hp, ih]
        rfl
  exact hrows t.rows h

/-- **An update of a key under a condition updates the key**, if its row meets the condition. -/
theorem update_key_and [DecidableEq κ] (t : Table key check) (k : κ) (q : ρ → Bool) (f : Patch key check) :
    t.update (fun r => key r = k && q r) f
      = if (t.get? k).any q then t.update (fun r => key r = k) f else t := by
  split
  · rename_i h
    refine update_congr (fun r hr => ?_)
    by_cases hk : key r = k
    · rw [← hk, get?_of_mem hr] at h
      simpa [hk] using h
    · simp [hk]
  · rename_i h
    refine update_eq_self (fun r hr => ?_)
    by_cases hk : key r = k
    · rw [← hk, get?_of_mem hr] at h
      simpa [hk] using h
    · simp [hk]

/-- A row in the place of its key's row, or after the others. -/
def put [DecidableEq κ] (t : Table key check) (r : ρ) (hc : check r = true) : Table key check :=
  if hk : t.get? (key r) = none then t.insert r hk hc
  else t.update (fun r' => key r' = key r) ⟨fun r' => if key r' = key r then r else r', by
    intro r'
    split
    · rename_i h
      exact h.symm
    · rfl, by
    intro r' hc'
    split
    · exact hc
    · exact hc'⟩

theorem get?_put [DecidableEq κ] (t : Table key check) (r : ρ) (hc : check r = true) (k : κ) :
    (t.put r hc).get? k = if key r = k then some r else t.get? k := by
  unfold put
  split
  · exact get?_insert k
  · rename_i hk
    rw [get?_update]
    by_cases h : key r = k
    · subst h
      obtain ⟨r', hr'⟩ := Option.ne_none_iff_exists'.1 hk
      have hkey : key r' = key r := key_of_get? hr'
      simp [hr', hkey]
    · rw [if_neg h]
      cases hr : t.get? k with
      | none => rfl
      | some r' =>
        have hkey : key r' ≠ key r := fun he => h (he.symm.trans (key_of_get? hr))
        simp [hkey]

/-- The rows that `p` selects taken away. -/
def delete (t : Table key check) (p : ρ → Bool) : Table key check where
  rows := t.rows.filter (fun r => !p r)
  nodup := t.nodup.sublist (List.filter_sublist.map key)
  checked r hr := t.checked r (List.mem_filter.1 hr).1

theorem get?_delete [DecidableEq κ] (t : Table key check) (p : ρ → Bool) (k : κ) :
    (t.delete p).get? k = (t.get? k).filter (fun r => !p r) := by
  have hrow : ∀ r, (t.delete p).get? k = some r ↔ (t.get? k).filter (fun r => !p r) = some r := by
    intro r
    rw [get?_eq_some, Option.filter_eq_some_iff, get?_eq_some]
    show r ∈ t.rows.filter _ ∧ key r = k ↔ _
    rw [List.mem_filter, and_right_comm]
  exact Option.ext hrow

theorem ext_rows {t t' : Table key check} (h : t.rows = t'.rows) : t = t' := by
  rcases t with ⟨rows, hn, hc⟩
  rcases t' with ⟨rows', hn', hc'⟩
  cases h
  rfl

/-- **Two updates with one patch are one**, if doing it twice is doing it once and it does not change the selection. -/
theorem update_update {t : Table key check} {p q : ρ → Bool} {f : Patch key check}
    (hf : ∀ r, f.apply (f.apply r) = f.apply r) (hq : ∀ r, q (f.apply r) = q r) :
    (t.update p f).update q f = t.update (fun r => p r || q r) f := by
  refine ext_rows ((List.map_map ..).trans (List.map_congr_left (fun r _ => ?_)))
  cases hp : p r <;> cases hqr : q r <;> simp [hp, hq, hqr, hf]

/-- The rows that one of two conditions selects, counted. -/
theorem length_filter_or {p q : ρ → Bool} : ∀ {l : List ρ}, (∀ r ∈ l, q r = true → p r = false) →
    (l.filter (fun r => p r || q r)).length = (l.filter p).length + (l.filter q).length
  | [], _ => rfl
  | a :: l, h => by
    have ih := length_filter_or (fun r hr => h r (List.mem_cons_of_mem a hr))
    cases hq : q a with
    | true =>
      have hp := h a List.mem_cons_self hq
      simp only [List.filter_cons, hp, hq, Bool.false_or, if_true, List.length_cons, ih]
      rfl
    | false => cases hp : p a <;> simp [hp, hq, ih, Nat.add_right_comm]

/-- **Updating one key after the other is one update of all of them**, if doing it twice is doing it once. -/
theorem foldl_update [DecidableEq κ] (f : Patch key check) (hf : ∀ r, f.apply (f.apply r) = f.apply r) :
    ∀ (ks : List κ) (t : Table key check),
      ks.foldl (fun t k => t.update (fun r => key r = k) f) t = t.update (fun r => key r ∈ ks) f
  | [], t => by
    rw [List.foldl_nil, update_eq_self]
    simp
  | k :: ks, t => by
    rw [List.foldl_cons, foldl_update f hf ks]
    refine ext_rows ((List.map_map ..).trans (List.map_congr_left (fun r _ => ?_)))
    by_cases hk : key r = k <;> by_cases hks : key r ∈ ks <;> simp [hk, hks, hf, f.key_apply]

end Table
end Lib
