import Mathlib.Data.Nat.Basic
/-!
# Loop — `while` loops that may break

`while cond: body`, where the body goes on with one state or breaks with another.  `Ends` says that a loop ends, after how
many rounds and in which state.  A loop ends once at most (`Ends.unique`), and does end if a measure is positive in each
round and goes down to the next, in at most as many rounds (`exists_ends`); what an invariant keeps holds at the end
(`Ends.inv`).
-/
namespace Lib.Loop

variable {σ : Type} (cond : σ → Prop) (body : σ → σ ⊕ σ)

/-- The loop ends after so many rounds. -/
inductive Ends : σ → Nat → σ → Prop
  | exit {s : σ} (h : ¬ cond s) : Ends s 0 s
  | broke {s t : σ} (h : cond s) (hb : body s = .inr t) : Ends s 1 t
  | next {s s' t : σ} {n : Nat} (h : cond s) (hb : body s = .inl s') (he : Ends s' n t) : Ends s (n + 1) t

variable {cond body}

theorem Ends.unique {s t t' : σ} {n n' : Nat} (h : Ends cond body s n t) (h' : Ends cond body s n' t') :
    n = n' ∧ t = t' := by
  induction h generalizing n' t' with
  | exit hc =>
    cases h' with
    | exit => exact ⟨rfl, rfl⟩
    | broke hc' => exact absurd hc' hc
    | next hc' => exact absurd hc' hc
  | broke hc hb =>
    cases h' with
    | exit hc' => exact absurd hc hc'
    | broke _ hb' => exact ⟨rfl, Sum.inr.inj (hb.symm.trans hb')⟩
    | next _ hb' => cases hb.symm.trans hb'
  | next hc hb he ih =>
    cases h' with
    | exit hc' => exact absurd hc hc'
    | broke _ hb' => cases hb.symm.trans hb'
    | next _ hb' he' =>
      obtain rfl := Sum.inl.inj (hb.symm.trans hb')
      obtain ⟨rfl, rfl⟩ := ih he'
      exact ⟨rfl, rfl⟩

/-- **A loop with a measure ends**, in at most as many rounds. -/
theorem exists_ends (m : σ → Nat) (hpos : ∀ s, cond s → 0 < m s)
    (hdec : ∀ s s', cond s → body s = .inl s' → m s' < m s) (s : σ) : ∃ n t, Ends cond body s n t ∧ n ≤ m s := by
  by_cases hc : cond s
  · cases hb : body s with
    | inr t => exact ⟨1, t, .broke hc hb, hpos s hc⟩
    | inl s' =>
      have hlt := hdec s s' hc hb
      obtain ⟨n, t, he, hn⟩ := exists_ends m hpos hdec s'
      exact ⟨n + 1, t, .next hc hb he, by omega⟩
  · exact ⟨0, s, .exit hc, Nat.zero_le _⟩
termination_by m s

/-- **An invariant that lets no round break** holds at the end, where the condition does not. -/
theorem Ends.inv {I : σ → Prop} (hI : ∀ s, I s → cond s → ∃ s', body s = .inl s' ∧ I s') {s t : σ} {n : Nat}
    (h : Ends cond body s n t) (hs : I s) : I t ∧ ¬ cond t := by
  induction h with
  | exit hc => exact ⟨hs, hc⟩
  | broke hc hb =>
    obtain ⟨s', hb', -⟩ := hI _ hs hc
    cases hb.symm.trans hb'
  | next hc hb he ih =>
    obtain ⟨s', hb', hs'⟩ := hI _ hs hc
    obtain rfl := Sum.inl.inj (hb.symm.trans hb')
    exact ih hs'

end Lib.Loop
