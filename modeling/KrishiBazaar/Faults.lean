import KrishiBazaar.Requests
import KrishiBazaar.Lib.Fault
/-!
# Faults — requests in which one call fails

A handler makes its writes one call after the other and without a transaction.  Here one call of a request is refused by
the store, or answered with no rows, and the others are answered as ever.
-/
namespace Krishi

open Lib

/-- One request in which the call after `n` others fails. -/
def handleBut {α : Type} (o : RowOrder) (fault : Fault) (n : Nat) (p : Handler α) (db : DB) :
    Except HTTPException α × DB := p.runBut (exec o jsonForApiError) (fault.exec jsonForApiError) n db

section

variable {α ρ κ : Type} {key : ρ → κ} {check : ρ → Bool} (o : RowOrder) (fault : Fault) (n : Nat) (db : DB)
  (t : Tab DB key check) (p : ρ → Bool) (f : List ρ → Handler α)

@[simp] theorem handleBut_throw (e : HTTPException) : handleBut o fault n (throw e : Handler α) db = (.error e, db) :=
  Prog.runBut_throw _ _ _ _ _

theorem handleBut_select_raises (e : DbError) :
    handleBut o (.raises e) 0 (select t p >>= f) db = (.error (jsonForApiError e), db) := Prog.runBut_perform_zero _ _ _ _ _

theorem handleBut_select_noRows : handleBut o .noRows 0 (select t p >>= f) db = handle o (f []) db :=
  Prog.runBut_perform_zero _ _ _ _ _

theorem handleBut_select_succ : handleBut o fault (n + 1) (select t p >>= f) db
    = handleBut o fault n (f (o.order ((t.get db).rows.filter p))) db := Prog.runBut_perform_succ _ _ _ _ _ rfl

variable (g : Patch key check)

theorem handleBut_update_raises (e : DbError) :
    handleBut o (.raises e) 0 (update t p g >>= f) db = (.error (jsonForApiError e), db) :=
  Prog.runBut_perform_zero _ _ _ _ _

theorem handleBut_update_noRows : handleBut o .noRows 0 (update t p g >>= f) db = handle o (f []) db :=
  Prog.runBut_perform_zero _ _ _ _ _

theorem handleBut_update_succ : handleBut o fault (n + 1) (update t p g >>= f) db
    = handleBut o fault n (f (o.order (((t.get db).rows.filter p).map g.apply))) (t.set db ((t.get db).update p g)) :=
  Prog.runBut_perform_succ _ _ _ _ _ rfl

variable [DecidableEq κ] (r : ρ)

theorem handleBut_insert_raises (e : DbError) :
    handleBut o (.raises e) 0 (insert t r >>= f) db = (.error (jsonForApiError e), db) :=
  Prog.runBut_perform_zero _ _ _ _ _

theorem handleBut_insert_noRows : handleBut o .noRows 0 (insert t r >>= f) db = handle o (f []) db :=
  Prog.runBut_perform_zero _ _ _ _ _

theorem handleBut_insert_ok {db' : DB} (h : t.insert? db r = .ok db') :
    handleBut o fault (n + 1) (insert t r >>= f) db = handleBut o fault n (f [r]) db' := by
  refine Prog.runBut_perform_succ _ _ _ _ _ ?_
  show insertAnswer jsonForApiError db r (t.insert? db r) = _
  rw [h]
  rfl

theorem handleBut_insert_error {e : DbError} (h : t.insert? db r = .error e) :
    handleBut o fault (n + 1) (insert t r >>= f) db = (.error (jsonForApiError e), db) := by
  refine Prog.runBut_perform_error _ _ _ _ _ ?_
  show insertAnswer jsonForApiError db r (t.insert? db r) = _
  rw [h]
  rfl

omit [DecidableEq κ] in
theorem calls_select_bind : (select t p >>= f).calls (exec o jsonForApiError) db
    = (f (o.order ((t.get db).rows.filter p))).calls (exec o jsonForApiError) db + 1 := by
  have hrun := run_select (E := HTTPException) t o jsonForApiError db p
  rw [Prog.calls_bind_ok _ _ _ hrun, select, Prog.calls_perform, Nat.add_comm]

end

/-! ## A request that only calls -/

section

variable {α : Type} {p : Handler α} {C : ∀ {ρ : Type}, Op DB ρ → Prop} (h : p.Plain C) (o : RowOrder) (fault : Fault)
  (n : Nat) (db : DB)

include h

theorem handleBut_inv {I : DB → Prop} (hI : ∀ {ρ : Type} (op : Op DB ρ) (db : DB), C op → I db →
    I (exec o jsonForApiError op db).2) (hdb : I db) : I (handleBut o fault n p db).2 := by
  refine Prog.Plain.inv_runBut _ _ hI ?_ p n db h hdb
  intro ρ op s hop hs
  rcases fault.exec_snd o jsonForApiError op s with hsame | hexec
  · rwa [hsame]
  · rw [hexec]
    exact hI op s hop hs

variable (hok : ∀ {ρ : Type} (op : Op DB ρ) (db : DB), C op → ∃ r, (exec o jsonForApiError op db).1 = .ok r)

include hok

theorem handle_ok : ∃ a, (handle o p db).1 = .ok a := Prog.Plain.run_ok (exec o jsonForApiError) hok p db h

/-- **It fails just if one of its calls is refused.** -/
theorem handleBut_ok_iff : (∃ a, (handleBut o fault n p db).1 = .ok a) ↔
    fault = .noRows ∨ p.calls (exec o jsonForApiError) db ≤ n := by
  cases fault with
  | noRows =>
    have hnoRows := Prog.Plain.runBut_ok (exec o jsonForApiError) (Fault.noRows.exec jsonForApiError) hok
      (fun op s => Fault.noRows_ok jsonForApiError op s) p n db h
    exact iff_of_true hnoRows (Or.inl rfl)
  | raises e =>
    rw [or_iff_right (by simp)]
    constructor
    · rintro ⟨a, ha⟩
      by_contra hn
      obtain ⟨e', he⟩ := Prog.Plain.runBut_error (exec o jsonForApiError) ((Fault.raises e).exec jsonForApiError) hok
        (fun op s => ⟨jsonForApiError e, rfl⟩) p n db h (not_le.1 hn)
      cases ha.symm.trans he
    · intro hn
      unfold handleBut
      rw [Prog.runBut_of_calls_le _ _ p n db hn]
      exact Prog.Plain.run_ok _ hok p db h

end

end Krishi
