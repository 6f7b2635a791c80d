import KrishiBazaar.Lib.Rest
/-!
# Evolve — what a change does to the rows of a table

No call of a table store takes a row away: a row is added under a new key or changed in place.  `Evolves R N t t'` says
that every row of `t` is still there and stands to what it was as `R` allows, and that the rows `t` did not have are as
`N` allows.  An insert and an update evolve a table by rules of their own, and a property of single rows is carried over
a request by choosing `R` and `N`.
-/
namespace Lib

variable {ρ κ : Type}

/-- What can have become of the row of one key. -/
inductive RowStep (R : ρ → ρ → Prop) (N : ρ → Prop) : Option ρ → Option ρ → Prop
  | absent : RowStep R N none none
  | added {r : ρ} (h : N r) : RowStep R N none (some r)
  | kept {r r' : ρ} (h : R r r') : RowStep R N (some r) (some r')

namespace RowStep

variable {R : ρ → ρ → Prop} {N : ρ → Prop} {x y z : Option ρ}

theorem mono {R' : ρ → ρ → Prop} {N' : ρ → Prop} (hR : ∀ r r', R r r' → R' r r') (hN : ∀ r, N r → N' r)
    (h : RowStep R N x y) : RowStep R' N' x y := by
  cases h with
  | absent => exact .absent
  | added h => exact .added (hN _ h)
  | kept h => exact .kept (hR _ _ h)

theorem trans (hR : ∀ r r' r'', R r r' → R r' r'' → R r r'') (hN : ∀ r r', N r → R r r' → N r')
    (h : RowStep R N x y) (h' : RowStep R N y z) : RowStep R N x z := by
  cases h with
  | absent => exact h'
  | added h =>
    cases h' with
    | kept h' => exact .added (hN _ _ h h')
  | kept h =>
    cases h' with
    | kept h' => exact .kept (hR _ _ _ h h')

/-- On the rows of an owner, who stays theirs, none is added. -/
theorem filter {R' : ρ → ρ → Prop} {own : ρ → Bool} (hown : ∀ r r', R r r' → own r' = own r)
    (hN : ∀ r, N r → own r = false) (hR : ∀ r r', own r = true → R r r' → R' r r') (h : RowStep R N x y) :
    RowStep R' (fun _ => False) (x.filter own) (y.filter own) := by
  cases h with
  | absent => exact .absent
  | @added r h =>
    rw [Option.filter_some, hN r h]
    exact .absent
  | @kept r r' h =>
    rw [Option.filter_some, Option.filter_some, hown r r' h]
    cases hr : own r with
    | true => exact .kept (hR r r' hr h)
    | false => exact .absent

theorem eq_of_same (h : RowStep (fun r r' => r' = r) (fun _ => False) x y) : y = x := by
  cases h with
  | absent => rfl
  | added h => exact h.elim
  | kept h => exact congrArg some h

end RowStep

variable {key : ρ → κ} {check : ρ → Bool} [DecidableEq κ]

def Evolves (R : ρ → ρ → Prop) (N : ρ → Prop) (t t' : Table key check) : Prop :=
  ∀ k, RowStep R N (t.get? k) (t'.get? k)

namespace Evolves

variable {R : ρ → ρ → Prop} {N : ρ → Prop} {t t' t'' : Table key check}

theorem refl (hR : ∀ r, R r r) (t : Table key check) : Evolves R N t t := by
  intro k
  cases t.get? k with
  | none => exact .absent
  | some r => exact .kept (hR r)

theorem insert {DB : Type} {tab : Tab DB key check} {db db' : DB} {r : ρ} (h : tab.insert? db r = .ok db')
    (hR : ∀ r, R r r) (hN : N r) : Evolves R N (tab.get db) (tab.get db') := by
  intro k
  rw [Tab.get?_insert? h]
  split
  · rename_i hk
    obtain ⟨hn, -⟩ := Tab.insert?_ok h
    rw [← hk, hn]
    exact .added hN
  · exact refl hR _ k

theorem update {p : ρ → Bool} {f : Patch key check} (h : ∀ r ∈ t.rows, R r (if p r then f.apply r else r)) :
    Evolves R N t (t.update p f) := by
  intro k
  rw [Table.get?_update]
  cases hg : t.get? k with
  | none => exact .absent
  | some r => exact .kept (h r (Table.mem_of_get? hg))

theorem update_of {p : ρ → Bool} {f : Patch key check} (hR : ∀ r, R r r) (h : ∀ r, p r = true → R r (f.apply r)) :
    Evolves R N t (t.update p f) := by
  refine update (fun r _ => ?_)
  split
  · exact h r ‹_›
  · exact hR r

theorem update_key {k : κ} {f : Patch key check} (hR : ∀ r, R r r) (h : ∀ r, t.get? k = some r → R r (f.apply r)) :
    Evolves R N t (t.update (fun r => key r = k) f) := by
  refine update (fun r hr => ?_)
  by_cases hk : key r = k
  · simpa [hk] using h r (Table.get?_eq_some.2 ⟨hr, hk⟩)
  · simpa [hk] using hR r

theorem old (h : Evolves R N t t') {k : κ} {r : ρ} (hr : t.get? k = some r) : ∃ r', t'.get? k = some r' ∧ R r r' := by
  have hk := h k
  rw [hr] at hk
  cases ht : t'.get? k with
  | none => rw [ht] at hk; cases hk
  | some r' =>
    rw [ht] at hk
    cases hk with
    | kept hR => exact ⟨r', rfl, hR⟩

theorem new (h : Evolves R N t t') {k : κ} {r' : ρ} (hr : t'.get? k = some r') :
    (∃ r, t.get? k = some r ∧ R r r') ∨ (t.get? k = none ∧ N r') := by
  have hk := h k
  rw [hr] at hk
  cases ht : t.get? k with
  | none =>
    rw [ht] at hk
    cases hk with
    | added hN => exact Or.inr ⟨rfl, hN⟩
  | some r =>
    rw [ht] at hk
    cases hk with
    | kept hR => exact Or.inl ⟨r, rfl, hR⟩

theorem mono {R' : ρ → ρ → Prop} {N' : ρ → Prop} (hR : ∀ r r', R r r' → R' r r') (hN : ∀ r, N r → N' r)
    (h : Evolves R N t t') : Evolves R' N' t t' := fun k => (h k).mono hR hN

theorem trans (hR : ∀ r r' r'', R r r' → R r' r'' → R r r'') (hN : ∀ r r', N r → R r r' → N r')
    (h : Evolves R N t t') (h' : Evolves R N t' t'') : Evolves R N t t'' := fun k => (h k).trans hR hN (h' k)

end Evolves
end Lib
