import KrishiBazaar.Lib.Rest
/-!
# Fault — a run in which one call goes wrong

A run of a program whose calls are answered by one interpreter, except for a single one, which another answers
(`Prog.runBut`).  The call is counted from zero; a run that makes fewer calls is the plain one (`runBut_of_calls_le`).
At a bind the count goes through the calls of the first part to those of the second (`runBut_bind_lt`,
`runBut_bind_ok`).

The other interpreter of a table store refuses the call or answers it with no rows, and either way changes nothing
(`Fault.exec`).
-/
namespace Lib
namespace Prog

variable {Op : Type → Type 1} {E S α β ρ : Type} (exec bad : ∀ {ρ : Type}, Op ρ → S → Except E ρ × S)

/-- A run whose call after `n` others is answered by `bad`. -/
def runBut : Nat → Prog Op E α → S → Except E α × S
  | _, ret a, s => (.ok a, s)
  | _, raise e, s => (.error e, s)
  | 0, call op k, s => (k (bad op s).1).run exec (bad op s).2
  | n + 1, call op k, s => runBut n (k (exec op s).1) (exec op s).2

theorem runBut_call_zero (op : Op ρ) (k : Except E ρ → Prog Op E α) (s : S) :
    (call op k).runBut exec bad 0 s = (k (bad op s).1).run exec (bad op s).2 := rfl

theorem runBut_call_succ (op : Op ρ) (k : Except E ρ → Prog Op E α) (n : Nat) (s : S) :
    (call op k).runBut exec bad (n + 1) s = (k (exec op s).1).runBut exec bad n (exec op s).2 := rfl

/-- The number of calls of a run. -/
def calls : Prog Op E α → S → Nat
  | ret _, _ => 0
  | raise _, _ => 0
  | call op k, s => (k (exec op s).1).calls (exec op s).2 + 1

theorem runBut_of_calls_le : ∀ (p : Prog Op E α) (n : Nat) (s : S), p.calls exec s ≤ n →
    p.runBut exec bad n s = p.run exec s
  | ret _, n, _, _ => by cases n <;> rfl
  | raise _, n, _, _ => by cases n <;> rfl
  | call _ _, 0, _, h => absurd h (Nat.not_succ_le_zero _)
  | call op k, n + 1, s, h => runBut_of_calls_le (k (exec op s).1) n (exec op s).2 (Nat.le_of_succ_le_succ h)

theorem runBut_throw (e : E) (n : Nat) (s : S) : (throw e : Prog Op E α).runBut exec bad n s = (.error e, s) := by
  cases n <;> rfl

/-! ## The count through a bind -/

theorem runBut_bind_lt (f : α → Prog Op E β) : ∀ (p : Prog Op E α) (n : Nat) (s : S), n < p.calls exec s →
    (p >>= f).runBut exec bad n s = onOk (p.runBut exec bad n s) (fun a s' => (f a).run exec s')
  | ret _, _, _, h => absurd h (Nat.not_lt_zero _)
  | raise _, _, _, h => absurd h (Nat.not_lt_zero _)
  | call op k, 0, s, _ => run_bind exec (k (bad op s).1) f (bad op s).2
  | call op k, n + 1, s, h => runBut_bind_lt f (k (exec op s).1) n (exec op s).2 (Nat.lt_of_succ_lt_succ h)

theorem runBut_bind_ok (f : α → Prog Op E β) (n : Nat) : ∀ (p : Prog Op E α) {a : α} {s s' : S},
    p.run exec s = (.ok a, s') → (p >>= f).runBut exec bad (p.calls exec s + n) s = (f a).runBut exec bad n s'
  | ret a, _, s, _, h => by
    cases h
    show (f a).runBut exec bad (0 + n) s = _
    rw [Nat.zero_add]
  | raise _, _, _, _, h => by cases h
  | call op k, a, s, s', h => by
    show (call op k >>= f).runBut exec bad ((k (exec op s).1).calls exec (exec op s).2 + 1 + n) s = _
    rw [Nat.add_right_comm]
    exact runBut_bind_ok f n (k (exec op s).1) h

theorem calls_bind_ok (f : α → Prog Op E β) : ∀ (p : Prog Op E α) {a : α} {s s' : S}, p.run exec s = (.ok a, s') →
    (p >>= f).calls exec s = p.calls exec s + (f a).calls exec s'
  | ret a, _, s, _, h => by
    cases h
    exact (Nat.zero_add _).symm
  | raise _, _, _, _, h => by cases h
  | call op k, a, s, s', h => by
    show (k (exec op s).1 >>= f).calls exec (exec op s).2 + 1 = (k (exec op s).1).calls exec (exec op s).2 + 1 + _
    rw [calls_bind_ok f (k (exec op s).1) h, Nat.add_right_comm]

theorem calls_perform (op : Op ρ) (s : S) : (perform op : Prog Op E ρ).calls exec s = 1 := by
  show (ofAnswer (exec op s).1 : Prog Op E ρ).calls exec _ + 1 = 1
  cases (exec op s).1 <;> rfl

theorem runBut_perform_zero (op : Op ρ) (f : ρ → Prog Op E β) (s : S) :
    (perform op >>= f).runBut exec bad 0 s = onOk (bad op s) (fun a s' => (f a).run exec s') := by
  rw [runBut_bind_lt exec bad f (perform op) 0 s (by rw [calls_perform]; exact Nat.one_pos)]
  show onOk ((ofAnswer (bad op s).1 : Prog Op E ρ).run exec (bad op s).2) _ = _
  rw [run_ofAnswer]

theorem runBut_perform_succ (op : Op ρ) (f : ρ → Prog Op E β) (n : Nat) {a : ρ} {s s' : S} (h : exec op s = (.ok a, s')) :
    (perform op >>= f).runBut exec bad (n + 1) s = (f a).runBut exec bad n s' := by
  have hrun : (perform op : Prog Op E ρ).run exec s = (.ok a, s') := (run_perform exec op s).trans h
  rw [Nat.add_comm, ← calls_perform exec (E := E) op s]
  exact runBut_bind_ok exec bad f n (perform op) hrun

/-- A call that fails in its turn ends the run. -/
theorem runBut_perform_error (op : Op ρ) (f : ρ → Prog Op E β) (n : Nat) {e : E} {s s' : S}
    (h : exec op s = (.error e, s')) : (perform op >>= f).runBut exec bad (n + 1) s = (.error e, s') := by
  show (((ofAnswer (exec op s).1 : Prog Op E ρ)).bind f).runBut exec bad n (exec op s).2 = _
  rw [h]
  cases n <;> rfl

/-! ## Programs that only call -/

/-- The program's calls are all `C`; it raises nothing of its own, and catches no refusal. -/
def Plain (C : ∀ {ρ : Type}, Op ρ → Prop) : Prog Op E α → Prop
  | ret _ => True
  | raise _ => False
  | call op k => C op ∧ (∀ e, k (.error e) = raise e) ∧ ∀ r, (k (.ok r)).Plain C

namespace Plain

variable {C : ∀ {ρ : Type}, Op ρ → Prop}

theorem pure (a : α) : (Pure.pure a : Prog Op E α).Plain C := trivial

theorem perform {op : Op ρ} (h : C op) : (perform op : Prog Op E ρ).Plain C := ⟨h, fun _ => rfl, fun _ => trivial⟩

theorem bind {f : α → Prog Op E β} : ∀ {p : Prog Op E α}, p.Plain C → (∀ a, (f a).Plain C) → (p >>= f).Plain C
  | ret a, _, hf => hf a
  | raise _, h, _ => h.elim
  | call op k, h, hf => by
    refine ⟨h.1, fun e => ?_, fun r => bind (h.2.2 r) hf⟩
    show (k (.error e)).bind f = _
    rw [h.2.1 e]
    rfl

theorem forEach {f : α → Prog Op E Unit} (hf : ∀ a, (f a).Plain C) : ∀ l : List α, (forEach l f).Plain C
  | [] => trivial
  | a :: l => bind (hf a) (fun _ => forEach hf l)

section Inv

variable {I : S → Prop} (hexec : ∀ {ρ : Type} (op : Op ρ) (s : S), C op → I s → I (exec op s).2)

include hexec

theorem inv : ∀ (p : Prog Op E α) (s : S), p.Plain C → I s → I (p.run exec s).2
  | ret _, _, _, hs => hs
  | raise _, _, h, _ => h.elim
  | call op k, s, h, hs => by
    have hs' := hexec op s h.1 hs
    show I ((k (exec op s).1).run exec (exec op s).2).2
    cases hr : (exec op s).1 with
    | ok r => exact inv (k (.ok r)) (exec op s).2 (h.2.2 r) hs'
    | error e =>
      rw [h.2.1 e]
      exact hs'

/-- **An invariant that every call keeps, also the one that goes wrong, is kept by the run.** -/
theorem inv_runBut (hbad : ∀ {ρ : Type} (op : Op ρ) (s : S), C op → I s → I (bad op s).2) :
    ∀ (p : Prog Op E α) (n : Nat) (s : S), p.Plain C → I s → I (p.runBut exec bad n s).2
  | ret _, n, _, _, hs => by cases n <;> exact hs
  | raise _, _, _, h, _ => h.elim
  | call op k, 0, s, h, hs => by
    have hs' := hbad op s h.1 hs
    rw [runBut_call_zero]
    cases hr : (bad op s).1 with
    | ok r => exact inv exec hexec (k (.ok r)) (bad op s).2 (h.2.2 r) hs'
    | error e =>
      rw [h.2.1 e]
      exact hs'
  | call op k, n + 1, s, h, hs => by
    have hs' := hexec op s h.1 hs
    rw [runBut_call_succ]
    cases hr : (exec op s).1 with
    | ok r => exact inv_runBut hbad (k (.ok r)) n (exec op s).2 (h.2.2 r) hs'
    | error e =>
      have hstop : (raise e : Prog Op E α).runBut exec bad n (exec op s).2 = (.error e, (exec op s).2) :=
        runBut_throw exec bad e n _
      rw [h.2.1 e, hstop]
      exact hs'

end Inv

section Answered

variable (hexec : ∀ {ρ : Type} (op : Op ρ) (s : S), C op → ∃ r, (exec op s).1 = .ok r)

include hexec

theorem run_ok : ∀ (p : Prog Op E α) (s : S), p.Plain C → ∃ a, (p.run exec s).1 = .ok a
  | ret a, _, _ => ⟨a, rfl⟩
  | raise _, _, h => h.elim
  | call op k, s, h => by
    obtain ⟨r, hr⟩ := hexec op s h.1
    show ∃ a, ((k (exec op s).1).run exec (exec op s).2).1 = .ok a
    rw [hr]
    exact run_ok (k (.ok r)) (exec op s).2 (h.2.2 r)

/-- **A run whose odd call is answered returns.** -/
theorem runBut_ok (hbad : ∀ {ρ : Type} (op : Op ρ) (s : S), ∃ r, (bad op s).1 = .ok r) :
    ∀ (p : Prog Op E α) (n : Nat) (s : S), p.Plain C → ∃ a, (p.runBut exec bad n s).1 = .ok a
  | ret a, n, _, _ => ⟨a, by cases n <;> rfl⟩
  | raise _, _, _, h => h.elim
  | call op k, 0, s, h => by
    obtain ⟨r, hr⟩ := hbad op s
    rw [runBut_call_zero, hr]
    exact run_ok exec hexec (k (.ok r)) (bad op s).2 (h.2.2 r)
  | call op k, n + 1, s, h => by
    obtain ⟨r, hr⟩ := hexec op s h.1
    rw [runBut_call_succ, hr]
    exact runBut_ok hbad (k (.ok r)) n (exec op s).2 (h.2.2 r)

/-- **A run whose odd call is refused fails**, if it gets to that call. -/
theorem runBut_error (hbad : ∀ {ρ : Type} (op : Op ρ) (s : S), ∃ e, (bad op s).1 = .error e) :
    ∀ (p : Prog Op E α) (n : Nat) (s : S), p.Plain C → n < p.calls exec s → ∃ e, (p.runBut exec bad n s).1 = .error e
  | ret _, _, _, _, hn => absurd hn (Nat.not_lt_zero _)
  | raise _, _, _, h, _ => h.elim
  | call op k, 0, s, h, _ => by
    obtain ⟨e, he⟩ := hbad op s
    refine ⟨e, ?_⟩
    rw [runBut_call_zero, he, h.2.1 e]
    rfl
  | call op k, n + 1, s, h, hn => by
    obtain ⟨r, hr⟩ := hexec op s h.1
    have hn' : n < (k (exec op s).1).calls exec (exec op s).2 := Nat.lt_of_succ_lt_succ hn
    rw [runBut_call_succ]
    rw [hr] at hn' ⊢
    exact runBut_error hbad (k (.ok r)) n (exec op s).2 (h.2.2 r) hn'

end Answered
end Plain

/-- A loop whose rounds make a call each. -/
theorem calls_forEach (f : α → Prog Op E Unit) (hf : ∀ a s, (f a).calls exec s = 1)
    (hrun : ∀ a s, ∃ s', (f a).run exec s = (.ok (), s')) : ∀ (l : List α) (s : S),
    (forEach l f).calls exec s = l.length
  | [], _ => rfl
  | a :: l, s => by
    obtain ⟨s', hs⟩ := hrun a s
    rw [forEach, calls_bind_ok _ _ _ hs, hf, calls_forEach f hf hrun l s', List.length_cons, Nat.add_comm]

end Prog

/-! ## A table store that fails a call -/

/-- The call is refused, or answered with no rows. -/
inductive Fault
  | raises (e : DbError)
  | noRows
  deriving DecidableEq, Repr

variable {DB E : Type}

/-- A call that fails.  A stored function returns no rows, and is answered as ever unless it is refused. -/
def Fault.exec (fault : Fault) (api : DbError → E) {ρ : Type} (op : Op DB ρ) (db : DB) : Except E ρ × DB :=
  match fault with
  | .raises e => (.error (api e), db)
  | .noRows =>
    match op with
    | .select _ _ => (.ok [], db)
    | .selectLimit _ _ _ => (.ok [], db)
    | .view _ _ _ _ _ => (.ok [], db)
    | @Op.insert _ _ _ _ _ _ _ _ => (.ok [], db)
    | .update _ _ _ => (.ok [], db)
    | .rpc f => (.ok (f db).1, (f db).2)

section

variable (fault : Fault) (o : RowOrder) (api : DbError → E) {ρ : Type} (op : Op DB ρ) (db : DB)

/-- A failed call changes nothing, or is none. -/
theorem Fault.exec_snd : (fault.exec api op db).2 = db ∨ fault.exec api op db = Lib.exec o api op db := by
  cases fault with
  | raises e => exact Or.inl rfl
  | noRows => cases op <;> first | exact Or.inl rfl | exact Or.inr rfl

theorem Fault.noRows_ok : ∃ r, (Fault.noRows.exec api op db).1 = .ok r := by
  cases op <;> exact ⟨_, rfl⟩

end
end Lib
