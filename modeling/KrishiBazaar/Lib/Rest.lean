import KrishiBazaar.Lib.Prog
import KrishiBazaar.Lib.Table
import Mathlib.Data.List.Rotate
import Mathlib.Data.List.Sort
/-!
# Rest — the calls of a table store

The calls a handler makes on a database of keyed tables: select the rows that pass a condition, insert a row, change
the rows that pass a condition, view rows with what other tables embed in them, or call a stored function.  A table is
named by a `Tab`: where the database keeps it, which references a new row of it must meet, and whether it has the columns
that a row is inserted with.  `exec` answers one call, atomically; an insert that would break a constraint, or that names
a column the table lacks, is refused with an error and changes nothing.

A store promises nothing about the order of the rows it returns, so `exec` is given one: a `RowOrder` is any
permutation, chosen anew for each request.  A lookup by key does not depend on it (`order_filter_key`).
-/
namespace Lib

/-- The constraint a write broke, a column that it named and is not there, or that there was no answer. -/
inductive DbError
  | undefinedColumn
  | uniqueViolation
  | foreignKeyViolation
  | checkViolation
  | cardinalityViolation
  | unavailable
  deriving DecidableEq, Repr

/-- The order in which a store hands rows back. -/
structure RowOrder where
  order : {ρ : Type} → List ρ → List ρ
  perm : ∀ {ρ : Type} (l : List ρ), (order l).Perm l

/-- A table of a database: where it is kept, which references of a new row must exist, and whether the columns of an
insert are there. -/
structure Tab (DB : Type) {ρ κ : Type} (key : ρ → κ) (check : ρ → Bool) where
  get : DB → Table key check
  set : DB → Table key check → DB
  get_set : ∀ db x, get (set db x) = x
  refs : DB → ρ → Bool
  columns : DB → Bool

inductive Op (DB : Type) : Type → Type 1
  | select {ρ κ : Type} {key : ρ → κ} {check : ρ → Bool} (t : Tab DB key check) (p : ρ → Bool) : Op DB (List ρ)
  | selectLimit {ρ κ : Type} {key : ρ → κ} {check : ρ → Bool} (t : Tab DB key check) (p : ρ → Bool) (n : Nat) :
      Op DB (List ρ)
  /-- The selected rows sorted by `le`, at most `n` of them, each with what `g` embeds in it. -/
  | view {ρ σ κ : Type} {key : ρ → κ} {check : ρ → Bool} (t : Tab DB key check) (p : ρ → Bool) (le : ρ → ρ → Bool)
      (n : Option Nat) (g : DB → ρ → σ) : Op DB (List σ)
  | insert {ρ κ : Type} {key : ρ → κ} {check : ρ → Bool} [DecidableEq κ] (t : Tab DB key check) (r : ρ) : Op DB (List ρ)
  | update {ρ κ : Type} {key : ρ → κ} {check : ρ → Bool} (t : Tab DB key check) (p : ρ → Bool) (f : Patch key check) :
      Op DB (List ρ)
  | rpc {ρ : Type} (f : DB → ρ × DB) : Op DB ρ

namespace RowOrder

variable {ρ σ κ : Type} {key : ρ → κ} {check : ρ → Bool} [DecidableEq κ] (o : RowOrder)

/-- Rows as they lie in the table. -/
def asStored : RowOrder := ⟨fun l => l, fun _ => List.Perm.refl _⟩

theorem mem_order {l : List ρ} {r : ρ} : r ∈ o.order l ↔ r ∈ l := (o.perm l).mem_iff

@[simp] theorem order_nil : o.order ([] : List ρ) = [] := List.perm_nil.1 (o.perm [])

@[simp] theorem order_eq_nil {l : List ρ} : o.order l = [] ↔ l = [] := by
  constructor
  · intro h
    have := o.perm l
    rw [h] at this
    exact List.perm_nil.1 this.symm
  · rintro rfl
    exact o.order_nil

@[simp] theorem order_toList (x : Option ρ) : o.order x.toList = x.toList := by
  cases x with
  | none => exact o.order_nil
  | some r => exact List.perm_singleton.1 (o.perm [r])

@[simp] theorem order_filter_key (t : Table key check) (k : κ) :
    o.order (t.rows.filter (fun r => key r = k)) = (t.get? k).toList := by
  rw [t.filter_key, o.order_toList]

@[simp] theorem order_filter_key_and (t : Table key check) (k : κ) (q : ρ → Bool) :
    o.order (t.rows.filter (fun r => key r = k && q r)) = ((t.get? k).filter q).toList := by
  rw [t.filter_key_and, o.order_toList]

@[simp] theorem order_map_filter_key (t : Table key check) (k : κ) (g : ρ → σ) :
    o.order ((t.rows.filter (fun r => key r = k)).map g) = ((t.get? k).map g).toList := by
  rw [t.filter_key, ← Option.toList_map, o.order_toList]

@[simp] theorem order_map_filter_key_and (t : Table key check) (k : κ) (q : ρ → Bool) (g : ρ → σ) :
    o.order ((t.rows.filter (fun r => key r = k && q r)).map g) = (((t.get? k).filter q).map g).toList := by
  rw [t.filter_key_and, ← Option.toList_map, o.order_toList]

theorem mem_keys_filter {β : Type} [DecidableEq β] {t : Table key check} {f : ρ → β} {b : β} {k : κ} :
    k ∈ (o.order (t.rows.filter (fun r => f r = b))).map key ↔ (t.get? k).map f = some b := by
  simp only [List.mem_map, o.mem_order, List.mem_filter, decide_eq_true_eq, Option.map_eq_some_iff, Table.get?_eq_some]
  constructor
  · rintro ⟨r, ⟨hr, hb⟩, hk⟩
    exact ⟨r, ⟨hr, hk⟩, hb⟩
  · rintro ⟨r, ⟨hr, hk⟩, hb⟩
    exact ⟨r, ⟨hr, hb⟩, hk⟩

/-- A dict of the selected rows has at a selected key the row of that key. -/
theorem find?_order_filter (t : Table key check) (p : ρ → Bool) (k : κ) (hp : ∀ r, key r = k → p r = true) :
    (o.order (t.rows.filter p)).find? (fun r => key r = k) = t.get? k := by
  cases h : t.get? k with
  | none =>
    refine List.find?_eq_none.2 (fun r hr => ?_)
    simpa using Table.get?_eq_none.1 h r (List.mem_filter.1 (o.mem_order.1 hr)).1
  | some r =>
    cases hf : (o.order (t.rows.filter p)).find? (fun r => key r = k) with
    | none =>
      have hm : r ∈ o.order (t.rows.filter p) :=
        o.mem_order.2 (List.mem_filter.2 ⟨Table.mem_of_get? h, hp r (Table.key_of_get? h)⟩)
      exact absurd (List.find?_eq_none.1 hf r hm) (by simp [Table.key_of_get? h])
    | some r' =>
      have hm : r' ∈ t.rows := (List.mem_filter.1 (o.mem_order.1 (List.mem_of_find?_eq_some hf))).1
      rw [t.eq_of_key hm (Table.mem_of_get? h) (by simpa [Table.key_of_get? h] using List.find?_some hf)]

open Classical in
/-- Some order hands the rows of one list back as another. -/
theorem exists_order_eq {l l' : List ρ} (h : l'.Perm l) : ∃ o : RowOrder, o.order l = l' := by
  let o : RowOrder := {
    order := fun {σ} (m : List σ) =>
      if hm : (⟨ρ, l⟩ : (σ : Type) × List σ) = ⟨σ, m⟩ then cast (congrArg (fun x => List x.1) hm) l' else m
    perm := by
      intro σ m
      split
      · rename_i hm
        cases hm
        exact h
      · exact List.Perm.refl m }
  exact ⟨o, dif_pos rfl⟩

/-- **The page at any offset may hold rows of one kind only**, if there are enough of the kind to fill it. -/
theorem exists_page {l : List ρ} {p : ρ → Bool} {n : Nat} (offset : Nat) (h : n ≤ (l.filter p).length) :
    ∃ o : RowOrder, ∀ r ∈ ((o.order l).drop offset).take n, p r = true := by
  have hperm : (l.filter p ++ l.filter (fun r => !p r)).Perm l := List.filter_append_perm p l
  rcases le_or_gt offset l.length with hle | hlt
  · obtain ⟨o, ho⟩ := exists_order_eq ((List.rotate_perm _ (l.length - offset)).trans hperm)
    refine ⟨o, fun r hr => ?_⟩
    have hlen : (l.filter p ++ l.filter (fun r => !p r)).length = l.length := hperm.length_eq
    have hdrop : offset = ((l.filter p ++ l.filter (fun r => !p r)).drop (l.length - offset)).length := by
      rw [List.length_drop, hlen]
      omega
    rw [ho, List.rotate_eq_drop_append_take (by omega), List.drop_left' hdrop.symm, List.take_take] at hr
    have hmem : r ∈ (l.filter p ++ l.filter (fun r => !p r)).take n :=
      (List.take_subset_take_left _ (min_le_left _ _)) hr
    rw [List.take_append_of_le_length h] at hmem
    exact (List.mem_filter.1 (List.mem_of_mem_take hmem)).2
  · refine ⟨asStored, fun r hr => ?_⟩
    rw [List.drop_eq_nil_of_le ((asStored.perm l).length_eq.trans_le hlt.le)] at hr
    simp at hr

/-- **A limit below the number of rows may leave out any of them.** -/
theorem exists_not_mem_take [DecidableEq ρ] {l : List ρ} {r : ρ} {n : Nat} (hnd : l.Nodup) (hr : r ∈ l)
    (hn : n < l.length) : ∃ o : RowOrder, r ∉ (o.order l).take n := by
  have hlen : n ≤ (l.filter (fun x => x != r)).length := by
    rw [← hnd.erase_eq_filter, List.length_erase_of_mem hr]
    omega
  obtain ⟨o, ho⟩ := exists_page 0 hlen
  refine ⟨o, fun hmem => ?_⟩
  have hne := ho r hmem
  simp at hne

/-- **The first page holds a row that is not of the kind**, if there is one and too few of the kind to fill it. -/
theorem exists_mem_take {l : List ρ} {p : ρ → Bool} {r : ρ} {n : Nat} (h : (l.filter p).length < n) (hr : r ∈ l)
    (hp : ¬ p r = true) : ∃ r' ∈ (o.order l).take n, ¬ p r' = true := by
  by_contra hall
  push Not at hall
  rcases le_or_gt l.length n with hle | hlt
  · have hmem : r ∈ (o.order l).take n := by
      rwa [List.take_of_length_le ((o.perm l).length_eq.trans_le hle), o.mem_order]
    exact hp (hall r hmem)
  · have hsub : ((o.order l).take n).length ≤ ((o.order l).filter p).length := by
      rw [← List.filter_eq_self.2 hall]
      exact ((List.take_sublist n (o.order l)).filter p).length_le
    rw [List.length_take, (o.perm l).length_eq, min_eq_left hlt.le, ((o.perm l).filter p).length_eq] at hsub
    omega

end RowOrder

variable {DB E ρ κ : Type} {key : ρ → κ} {check : ρ → Bool}

/-- An insert, with its constraints: the columns, the check, then the key, then the references. -/
def Tab.insert? [DecidableEq κ] (t : Tab DB key check) (db : DB) (r : ρ) : Except DbError DB :=
  if t.columns db = true then
    if hc : check r = true then
      if hk : (t.get db).get? (key r) = none then
        if t.refs db r = true then .ok (t.set db ((t.get db).insert r hk hc)) else .error .foreignKeyViolation
      else .error .uniqueViolation
    else .error .checkViolation
  else .error .undefinedColumn

theorem Tab.insert?_of [DecidableEq κ] {t : Tab DB key check} {db : DB} {r : ρ} (hcol : t.columns db = true)
    (hc : check r = true) (hk : (t.get db).get? (key r) = none) (hr : t.refs db r = true) :
    t.insert? db r = .ok (t.set db ((t.get db).insert r hk hc)) := by
  unfold Tab.insert?
  rw [if_pos hcol, dif_pos hc, dif_pos hk, if_pos hr]

theorem Tab.insert?_ok [DecidableEq κ] {t : Tab DB key check} {db db' : DB} {r : ρ} (h : t.insert? db r = .ok db') :
    ∃ (hk : (t.get db).get? (key r) = none) (hc : check r = true),
      t.refs db r = true ∧ db' = t.set db ((t.get db).insert r hk hc) := by
  unfold Tab.insert? at h
  split at h
  · split at h
    · rename_i hc
      split at h
      · rename_i hk
        split at h
        · rename_i hr
          exact ⟨hk, hc, hr, by simpa using h.symm⟩
        · cases h
      · cases h
    · cases h
  · cases h

theorem Tab.columns_of_insert? [DecidableEq κ] {t : Tab DB key check} {db db' : DB} {r : ρ}
    (h : t.insert? db r = .ok db') : t.columns db = true := by
  unfold Tab.insert? at h
  split at h
  · assumption
  · cases h

theorem Tab.get?_insert? [DecidableEq κ] {t : Tab DB key check} {db db' : DB} {r : ρ} (h : t.insert? db r = .ok db')
    (k : κ) : (t.get db').get? k = if key r = k then some r else (t.get db).get? k := by
  obtain ⟨hk, hc, -, rfl⟩ := Tab.insert?_ok h
  rw [t.get_set, Table.get?_insert]

/-- One row put into a table of `db`, with its constraints. -/
def Tab.put? [DecidableEq κ] (t : Tab DB key check) (db : DB) (tbl : Table key check) (r : ρ) :
    Except DbError (Table key check) :=
  if hc : check r = true then
    if t.refs db r = true then .ok (tbl.put r hc) else .error .foreignKeyViolation
  else .error .checkViolation

/-- An upsert of several rows: none of them if two have one key, or one breaks a constraint. -/
def Tab.upsert? [DecidableEq κ] (t : Tab DB key check) (db : DB) (rows : List ρ) : Except DbError DB :=
  if (rows.map key).Nodup then (rows.foldlM (t.put? db) (t.get db)).map (t.set db) else .error .cardinalityViolation

theorem Tab.put?_ok [DecidableEq κ] {t : Tab DB key check} {db : DB} {tbl tbl' : Table key check} {r : ρ}
    (h : t.put? db tbl r = .ok tbl') (k : κ) : tbl'.get? k = if key r = k then some r else tbl.get? k := by
  unfold Tab.put? at h
  split at h
  · split at h
    · obtain rfl := Except.ok.inj h
      exact Table.get?_put _ _ _ _
    · cases h
  · cases h

theorem Tab.foldlM_put? [DecidableEq κ] {t : Tab DB key check} {db : DB} : ∀ {rows : List ρ} {tbl tbl' : Table key check},
    (rows.map key).Nodup → rows.foldlM (t.put? db) tbl = .ok tbl' →
      ∀ k, tbl'.get? k = (rows.find? (fun r => key r = k)).or (tbl.get? k)
  | [], tbl, tbl', _, h, k => by
    obtain rfl := Except.ok.inj h
    rfl
  | r :: rows, tbl, tbl', hnd, h, k => by
    rw [List.map_cons, List.nodup_cons] at hnd
    rw [List.foldlM_cons, bind_ok] at h
    obtain ⟨tbl₁, hput, hrun⟩ := h
    rw [Tab.foldlM_put? hnd.2 hrun k, Tab.put?_ok hput k]
    by_cases hk : key r = k
    · have hnone : rows.find? (fun r => key r = k) = none :=
        List.find?_eq_none.2 (fun r' hr' he => hnd.1 (List.mem_map.2 ⟨r', hr', (of_decide_eq_true he).trans hk.symm⟩))
      rw [hnone, if_pos hk, List.find?_cons_of_pos (by simpa using hk)]
      rfl
    · rw [if_neg hk, List.find?_cons_of_neg (by simpa using hk)]

/-- **After an upsert the new rows are there, and the others as before.** -/
theorem Tab.upsert?_ok [DecidableEq κ] {t : Tab DB key check} {db db' : DB} {rows : List ρ}
    (h : t.upsert? db rows = .ok db') : (rows.map key).Nodup ∧ ∃ tbl, db' = t.set db tbl ∧
      ∀ k, tbl.get? k = (rows.find? (fun r => key r = k)).or ((t.get db).get? k) := by
  unfold Tab.upsert? at h
  split at h
  · rename_i hnd
    cases hrun : rows.foldlM (t.put? db) (t.get db) with
    | error e =>
      rw [hrun] at h
      cases h
    | ok tbl =>
      rw [hrun] at h
      exact ⟨hnd, tbl, (Except.ok.inj h).symm, Tab.foldlM_put? hnd hrun⟩
  · cases h

/-- An insert's answer: the row it stored, or the constraint it broke and nothing changed. -/
def insertAnswer (api : DbError → E) (db : DB) (r : ρ) : Except DbError DB → Except E (List ρ) × DB
  | .ok db' => (.ok [r], db')
  | .error e => (.error (api e), db)

@[simp] theorem insertAnswer_ok (api : DbError → E) (db db' : DB) (r : ρ) :
    insertAnswer api db r (.ok db') = (.ok [r], db') := rfl

@[simp] theorem insertAnswer_error (api : DbError → E) (db : DB) (r : ρ) (e : DbError) :
    insertAnswer api db r (.error e) = (.error (api e), db) := rfl

/-- Rows in the order of `le`, those it does not tell apart as `o` has them, and at most `n`. -/
def RowOrder.page {ρ : Type} (o : RowOrder) (le : ρ → ρ → Bool) (n : Option Nat) (rows : List ρ) : List ρ :=
  let sorted := (o.order rows).insertionSort (fun a b => le a b)
  n.elim sorted (fun n => sorted.take n)

/-- Rows that `le` does not tell apart stay in the order of `o`. -/
theorem RowOrder.page_of_le {ρ : Type} (o : RowOrder) (n : Nat) (rows : List ρ) :
    o.page (fun _ _ => true) (some n) rows = (o.order rows).take n := by
  unfold RowOrder.page
  rw [List.Pairwise.insertionSort_eq (List.pairwise_of_forall fun _ _ => rfl)]
  rfl

/-- **Sorting by a key leaves the rows of one key in their order.** -/
theorem filter_insertionSort {ρ κ : Type} [LinearOrder κ] (key : ρ → κ) (k : κ) : ∀ l : List ρ,
    (l.insertionSort (fun a b => key a ≤ key b)).filter (fun r => key r = k) = l.filter (fun r => key r = k)
  | [] => rfl
  | a :: l => by
    have hinsert : ∀ l : List ρ, (l.orderedInsert (fun a b => key a ≤ key b) a).filter (fun r => key r = k)
        = (a :: l).filter (fun r => key r = k) := by
      intro l
      induction l with
      | nil => rfl
      | cons b l ih =>
        rw [List.orderedInsert_cons]
        split
        · rfl
        · rename_i hlt
          have hba : key b < key a := not_le.1 hlt
          by_cases hb : key b = k
          · have ha : key a ≠ k := fun ha => absurd (hb.trans ha.symm) hba.ne
            simp only [List.filter_cons, hb, ha, decide_true, decide_false, if_true] at ih ⊢
            simp [ih]
          · simp only [List.filter_cons, hb, decide_false] at ih ⊢
            simpa using ih
    rw [List.insertionSort_cons, hinsert, List.filter_cons, List.filter_cons, filter_insertionSort key k l]

/-- Two lists in the strict order of a key are one list if they have the same elements. -/
theorem eq_of_sorted {ρ κ : Type} [LinearOrder κ] (key : ρ → κ) {l l' : List ρ}
    (h : l.Pairwise (fun a b => key a < key b)) (h' : l'.Pairwise (fun a b => key a < key b))
    (hmem : ∀ a, a ∈ l ↔ a ∈ l') : l = l' := by
  have hne : ∀ {l : List ρ}, l.Pairwise (fun a b => key a < key b) → l.Nodup := fun hl =>
    hl.imp (fun hlt he => hlt.ne (congrArg key he))
  have hperm : l.Perm l' := (List.perm_ext_iff_of_nodup (hne h) (hne h')).2 hmem
  exact hperm.eq_of_pairwise (fun a b _ _ hab hba => absurd hab hba.asymm) h h'

theorem RowOrder.filter_page {ρ κ : Type} [LinearOrder κ] (o : RowOrder) (key : ρ → κ) (k : κ) (rows : List ρ) :
    (o.page (fun a b => key a ≤ key b) none rows).filter (fun r => key r = k)
      = (o.order rows).filter (fun r => key r = k) := by
  have hle : (fun a b => decide (key a ≤ key b) = true) = fun a b => key a ≤ key b := by
    funext a b
    simp
  rw [← filter_insertionSort key k (o.order rows)]
  unfold RowOrder.page
  simp only [decide_eq_true_eq, Option.elim]

theorem RowOrder.mem_page {ρ : Type} (o : RowOrder) {le : ρ → ρ → Bool} {rows : List ρ} {r : ρ} :
    r ∈ o.page le none rows ↔ r ∈ rows := by
  show r ∈ (o.order rows).insertionSort (fun a b => le a b) ↔ r ∈ rows
  rw [List.mem_insertionSort, o.mem_order]

/-- A page that all the rows fit on has them all. -/
theorem RowOrder.mem_page_of_length {ρ : Type} (o : RowOrder) {le : ρ → ρ → Bool} {rows : List ρ} {n : Nat} {r : ρ}
    (h : rows.length ≤ n) : r ∈ o.page le (some n) rows ↔ r ∈ rows := by
  have hlen : ((o.order rows).insertionSort (fun a b => le a b)).length ≤ n := by
    rw [List.length_insertionSort, (o.perm rows).length_eq]
    exact h
  show r ∈ ((o.order rows).insertionSort (fun a b => le a b)).take n ↔ r ∈ rows
  rw [List.take_of_length_le hlen, List.mem_insertionSort, o.mem_order]

/-- A page that may hold a row is not empty if there is one. -/
theorem RowOrder.page_ne_nil {ρ : Type} (o : RowOrder) {le : ρ → ρ → Bool} {rows : List ρ} {n : Nat} (hn : 0 < n)
    (h : rows ≠ []) : o.page le (some n) rows ≠ [] := by
  obtain ⟨r, hr⟩ := List.exists_mem_of_ne_nil rows h
  have hmem : r ∈ (o.order rows).insertionSort (fun a b => le a b) := o.mem_page.2 hr
  show ((o.order rows).insertionSort (fun a b => le a b)).take n ≠ []
  rw [Ne, List.take_eq_nil_iff, not_or]
  exact ⟨hn.ne', List.ne_nil_of_mem hmem⟩

/-- **One call, answered**, with the rows in the order `o` and a broken constraint reported as `api` says. -/
def exec (o : RowOrder) (api : DbError → E) {ρ : Type} : Op DB ρ → DB → Except E ρ × DB
  | .select t p, db => (.ok (o.order ((t.get db).rows.filter p)), db)
  | .selectLimit t p n, db => (.ok ((o.order ((t.get db).rows.filter p)).take n), db)
  | .view t p le n g, db => (.ok ((o.page le n ((t.get db).rows.filter p)).map (g db)), db)
  | @Op.insert _ _ _ _ _ _ t r, db => insertAnswer api db r (t.insert? db r)
  | .update t p f, db =>
    (.ok (o.order (((t.get db).rows.filter p).map f.apply)), t.set db ((t.get db).update p f))
  | .rpc f, db => (.ok (f db).1, (f db).2)

/-! ## The calls as programs, and what each does to a sequential run -/

section Calls

variable (t : Tab DB key check)

def select (p : ρ → Bool) : Prog (Op DB) E (List ρ) := .perform (.select t p)

def selectLimit (p : ρ → Bool) (n : Nat) : Prog (Op DB) E (List ρ) := .perform (.selectLimit t p n)

def insert [DecidableEq κ] (r : ρ) : Prog (Op DB) E (List ρ) := .perform (.insert t r)

def update (p : ρ → Bool) (f : Patch key check) : Prog (Op DB) E (List ρ) := .perform (.update t p f)

variable (o : RowOrder) (api : DbError → E) (db : DB)

theorem run_select (p : ρ → Bool) :
    (select t p).run (exec o api) db = (.ok (o.order ((t.get db).rows.filter p)), db) := Prog.run_perform _ _ _

theorem run_selectLimit (p : ρ → Bool) (n : Nat) :
    (selectLimit t p n).run (exec o api) db = (.ok ((o.order ((t.get db).rows.filter p)).take n), db) :=
  Prog.run_perform _ _ _

theorem run_insert [DecidableEq κ] (r : ρ) :
    (insert t r).run (exec o api) db = insertAnswer api db r (t.insert? db r) := Prog.run_perform _ _ _

theorem run_update (p : ρ → Bool) (f : Patch key check) :
    (update t p f).run (exec o api) db
      = (.ok (o.order (((t.get db).rows.filter p).map f.apply)), t.set db ((t.get db).update p f)) :=
  Prog.run_perform _ _ _

end Calls
end Lib
