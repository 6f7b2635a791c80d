import Mathlib.Data.List.Basic
/-!
# Tx — transactions of a connection

A transaction runs its statements one after the other on a store and keeps all that they did or, at the first error,
nothing.  A setting of the connection may be given a value for the rest of the transaction or for the connection; the
former ends with the transaction (`Conn.transact_setting`).
-/
namespace Lib

universe u v w

/-- A connection between two transactions. -/
structure Conn (S : Type u) (V : Type v) where
  store : S
  setting : V

/-- A transaction that is open: what it would leave, and the setting's value in it. -/
structure Tx (S : Type u) (V : Type v) where
  store : S
  setting : V
  current : V

namespace Tx

variable {S : Type u} {V : Type v} {E : Type w} {α : Type u}

/-- The setting with a new value, for the transaction only if `isLocal`. -/
def setConfig (t : Tx S V) (value : V) (isLocal : Bool) : Tx S V :=
  { t with setting := if isLocal then t.setting else value, current := value }

/-- **What every statement keeps, the transaction keeps.** -/
theorem foldlM_inv {exec : Tx S V → α → Except E (Tx S V)} {I : Tx S V → Prop} : ∀ {l : List α} {t t' : Tx S V},
    (∀ a ∈ l, ∀ t t', I t → exec t a = .ok t' → I t') → I t → l.foldlM exec t = .ok t' → I t'
  | [], t, t', _, ht, h => by
    obtain rfl := Except.ok.inj h
    exact ht
  | a :: l, t, t', hexec, ht, h => by
    rw [List.foldlM_cons] at h
    cases ha : exec t a with
    | error e =>
      rw [ha] at h
      cases h
    | ok t₁ =>
      rw [ha] at h
      exact foldlM_inv (fun b hb => hexec b (List.mem_cons_of_mem a hb)) (hexec a List.mem_cons_self t t₁ ht ha) h

end Tx

namespace Conn

variable {S : Type u} {V : Type v} {E : Type w} {α : Type u}

def begin (c : Conn S V) : Tx S V := ⟨c.store, c.setting, c.setting⟩

/-- **One transaction**, committed or rolled back. -/
def transact (exec : Tx S V → α → Except E (Tx S V)) (c : Conn S V) (l : List α) : Conn S V :=
  match l.foldlM exec c.begin with
  | .ok t => ⟨t.store, t.setting⟩
  | .error _ => c

section

variable (exec : Tx S V → α → Except E (Tx S V)) (c : Conn S V) (l : List α)

theorem transact_cases : c.transact exec l = c ∨
    ∃ t, l.foldlM exec c.begin = .ok t ∧ c.transact exec l = ⟨t.store, t.setting⟩ := by
  unfold transact
  cases l.foldlM exec c.begin with
  | error e => exact Or.inl rfl
  | ok t => exact Or.inr ⟨t, rfl, rfl⟩

/-! A transaction of one statement. -/

variable {exec c} {a : α}

theorem transact_single_ok {t : Tx S V} (h : exec c.begin a = .ok t) : c.transact exec [a] = ⟨t.store, t.setting⟩ := by
  unfold transact
  rw [List.foldlM_cons, h]
  rfl

theorem transact_single_error {e : E} (h : exec c.begin a = .error e) : c.transact exec [a] = c := by
  unfold transact
  rw [List.foldlM_cons, h]
  rfl

end

/-- Statements that set it for the transaction only leave the connection's setting. -/
theorem transact_setting {exec : Tx S V → α → Except E (Tx S V)} {c : Conn S V} {l : List α}
    (h : ∀ a ∈ l, ∀ t t', exec t a = .ok t' → t'.setting = t.setting) :
    (c.transact exec l).setting = c.setting := by
  rcases transact_cases exec c l with hc | ⟨t, ht, hc⟩
  · rw [hc]
  · rw [hc]
    exact Tx.foldlM_inv (I := fun t => t.setting = c.setting) (fun a ha t t' hs he => (h a ha t t' he).trans hs) rfl ht

end Conn
end Lib
