import KrishiBazaar.Lib.Pool
import KrishiBazaar.Lib.Run
/-!
# Duo — two programs at once, by a schedule

A `Pool` holds any number of programs and its runs are a relation; here there are two, and what happens is a list of
moves: one of the programs makes its next call.  A run is then the `after` of a schedule, so it can be computed, and a
condition on its calls is an `Along`.

The proof rules are those of a pool: the programs have standings, each follows its own turns (`Follows`), and an
invariant of the state and the two standings that every call keeps holds after every schedule (`Duo.after_holds`).  Where
a call keeps it only under a condition, a schedule either meets the condition all along and keeps the invariant, or
breaches it and falls to what a breach leaves (`Duo.after_breach`).
-/
namespace Lib

universe u

variable {Op : Type → Type 1} {E S L M α β γ ρ : Type} {X : Type u}

/-! ## One call after the other -/

namespace Prog

/-- The program after its next call, and the state the call leaves. -/
def next (exec : ∀ {ρ : Type}, Op ρ → S → Except E ρ × S) : Prog Op E α → S → Prog Op E α × S
  | ret a, s => (ret a, s)
  | raise e, s => (raise e, s)
  | call op k, s => (k (exec op s).1, (exec op s).2)

variable (exec : ∀ {ρ : Type}, Op ρ → S → Except E ρ × S)

def nexts : Nat → Prog Op E α × S → Prog Op E α × S
  | 0, c => c
  | n + 1, c => nexts n (c.1.next exec c.2)

/-- A program that is run to its end gets there call by call. -/
theorem exists_nexts_ended : ∀ (p : Prog Op E α) (s : S), ∃ n q, nexts exec n (p, s) = (q, (p.run exec s).2) ∧ q.Ended
  | ret a, _ => ⟨0, ret a, rfl, trivial⟩
  | raise e, _ => ⟨0, raise e, rfl, trivial⟩
  | call op k, s => by
    obtain ⟨n, q, hq, hend⟩ := exists_nexts_ended (k (exec op s).1) (exec op s).2
    exact ⟨n + 1, q, hq, hend⟩

/-- A program whose first part is run to its end gets to the rest call by call. -/
theorem exists_nexts_bind (f : α → Prog Op E β) : ∀ (p : Prog Op E α) (s : S) {a : α} {s' : S},
    p.run exec s = (.ok a, s') → ∃ n, nexts exec n (p >>= f, s) = (f a, s')
  | ret a, s, _, _, h => by
    cases h
    exact ⟨0, rfl⟩
  | raise e, s, _, _, h => by cases h
  | call op k, s, a, s', h => by
    obtain ⟨n, hn⟩ := exists_nexts_bind f (k (exec op s).1) (exec op s).2 h
    exact ⟨n + 1, hn⟩

/-- The next call, if there is one, is made in a state that meets `C`. -/
def Asks (C : ∀ {ρ : Type}, Op ρ → S → Prop) : Prog Op E α → S → Prop
  | call op _, s => C op s
  | _, _ => True

end Prog

/-! ## Two programs -/

structure Duo (Op : Type → Type 1) (E S α β : Type) where
  state : S
  left : Prog Op E α
  right : Prog Op E β

/-- One of the programs makes its next call, answered as `x` says. -/
inductive Move (X : Type u)
  | left (x : X)
  | right (x : X)

namespace Duo

section Schedules

variable (exec : X → ∀ {ρ : Type}, Op ρ → S → Except E ρ × S)

def step (d : Duo Op E S α β) : Move X → Duo Op E S α β
  | .left x => ⟨(d.left.next (exec x) d.state).2, (d.left.next (exec x) d.state).1, d.right⟩
  | .right x => ⟨(d.right.next (exec x) d.state).2, d.left, (d.right.next (exec x) d.state).1⟩

/-- Both programs have ended. -/
def Ended (d : Duo Op E S α β) : Prop := d.left.Ended ∧ d.right.Ended

instance (d : Duo Op E S α β) : Decidable d.Ended := inferInstanceAs (Decidable (_ ∧ _))

/-- The call that a move makes meets what is asked of it. -/
def Asks (KL KR : ∀ {ρ : Type}, Op ρ → S → Prop) (d : Duo Op E S α β) : Move X → Prop
  | .left _ => d.left.Asks KL d.state
  | .right _ => d.right.Asks KR d.state

theorem after_lefts (x : X) : ∀ (n : Nat) (s : S) (p : Prog Op E α) (q : Prog Op E β),
    after (step exec) ⟨s, p, q⟩ (List.replicate n (.left x)) =
      ⟨(Prog.nexts (exec x) n (p, s)).2, (Prog.nexts (exec x) n (p, s)).1, q⟩
  | 0, _, _, _ => rfl
  | n + 1, s, p, q => by
    rw [List.replicate_succ, after_cons]
    exact after_lefts x n _ _ q

theorem after_rights (x : X) : ∀ (n : Nat) (s : S) (p : Prog Op E α) (q : Prog Op E β),
    after (step exec) ⟨s, p, q⟩ (List.replicate n (.right x)) =
      ⟨(Prog.nexts (exec x) n (q, s)).2, p, (Prog.nexts (exec x) n (q, s)).1⟩
  | 0, _, _, _ => rfl
  | n + 1, s, p, q => by
    rw [List.replicate_succ, after_cons]
    exact after_rights x n _ p _

/-- **Both programs up to where their first parts end, then both to the end**: a schedule on which neither sees the
other's last calls. -/
theorem exists_overlap (x : X) {p : Prog Op E γ} {f : γ → Prog Op E α} {q : Prog Op E ρ} {g : ρ → Prog Op E β} {s : S}
    {a : γ} {b : ρ} (hp : p.run (exec x) s = (.ok a, s)) (hq : q.run (exec x) s = (.ok b, s)) :
    ∃ ms, (after (step exec) ⟨s, p >>= f, q >>= g⟩ ms).Ended ∧ (after (step exec) ⟨s, p >>= f, q >>= g⟩ ms).state
      = ((g b).run (exec x) ((f a).run (exec x) s).2).2 := by
  obtain ⟨n₁, h₁⟩ := Prog.exists_nexts_bind (exec x) f p s hp
  obtain ⟨n₂, h₂⟩ := Prog.exists_nexts_bind (exec x) g q s hq
  obtain ⟨n₃, p', h₃, hend₃⟩ := Prog.exists_nexts_ended (exec x) (f a) s
  obtain ⟨n₄, q', h₄, hend₄⟩ := Prog.exists_nexts_ended (exec x) (g b) ((f a).run (exec x) s).2
  refine ⟨List.replicate n₁ (.left x) ++ (List.replicate n₂ (.right x) ++ (List.replicate n₃ (.left x) ++
    List.replicate n₄ (.right x))), ?_⟩
  rw [after_append, after_lefts, h₁, after_append, after_rights, h₂, after_append, after_lefts, h₃, after_rights, h₄]
  exact ⟨⟨hend₃, hend₄⟩, rfl⟩

end Schedules

/-! ## Standings -/

section Standings

/-- A call that can be answered so in a state the invariant allows. -/
def Possible (exec : X → ∀ {ρ : Type}, Op ρ → S → Except E ρ × S) (inv : S → L → M → Prop) (op : Op ρ)
    (r : Except E ρ) : Prop :=
  ∃ x s l m, inv s l m ∧ r = (exec x op s).1

/-- The two programs follow their turns, whatever the invariant `known` lets their calls answer, and their standings are
as `inv` says in the state. -/
def Holds (exec : X → ∀ {ρ : Type}, Op ρ → S → Except E ρ × S) (known : S → L → M → Prop)
    (turnL : L → ∀ {ρ : Type}, Op ρ → Except E ρ → L → Prop) (turnR : M → ∀ {ρ : Type}, Op ρ → Except E ρ → M → Prop)
    (QL : Except E α → L → Prop) (QR : Except E β → M → Prop) (inv : S → L → M → Prop) (d : Duo Op E S α β) : Prop :=
  ∃ l m, Follows (Possible exec known) turnL QL d.left l ∧ Follows (Possible exec known) turnR QR d.right m ∧
    inv d.state l m

/-- From `inv`, a call that meets its condition leaves `inv'`. -/
structure Leads (exec : X → ∀ {ρ : Type}, Op ρ → S → Except E ρ × S)
    (turnL : L → ∀ {ρ : Type}, Op ρ → Except E ρ → L → Prop) (turnR : M → ∀ {ρ : Type}, Op ρ → Except E ρ → M → Prop)
    (inv : S → L → M → Prop) (KL KR : ∀ {ρ : Type}, Op ρ → S → Prop) (inv' : S → L → M → Prop) : Prop where
  left : ∀ {s l l' m x} {ρ : Type} {op : Op ρ}, turnL l op (exec x op s).1 l' → inv s l m → KL op s →
    inv' (exec x op s).2 l' m
  right : ∀ {s l m m' x} {ρ : Type} {op : Op ρ}, turnR m op (exec x op s).1 m' → inv s l m → KR op s →
    inv' (exec x op s).2 l m'

variable {exec : X → ∀ {ρ : Type}, Op ρ → S → Except E ρ × S} {known good lost : S → L → M → Prop}
  {turnL : L → ∀ {ρ : Type}, Op ρ → Except E ρ → L → Prop} {turnR : M → ∀ {ρ : Type}, Op ρ → Except E ρ → M → Prop}
  {QL : Except E α → L → Prop} {QR : Except E β → M → Prop} {KL KR : ∀ {ρ : Type}, Op ρ → S → Prop}

/-- **One move**: a call that meets its condition keeps `good`, and one that does not leaves `lost`. -/
theorem Holds.step (hknown : ∀ s l m, good s l m → known s l m) (hkeep : Leads exec turnL turnR good KL KR good)
    (hbreach : Leads exec turnL turnR good (fun op s => ¬ KL op s) (fun op s => ¬ KR op s) lost)
    {d : Duo Op E S α β} (mv : Move X) (h : Holds exec known turnL turnR QL QR good d) :
    d.Asks KL KR mv ∧ Holds exec known turnL turnR QL QR good (Duo.step exec d mv) ∨
      ¬ d.Asks KL KR mv ∧ Holds exec known turnL turnR QL QR lost (Duo.step exec d mv) := by
  obtain ⟨l, m, hl, hm, hinv⟩ := h
  rcases d with ⟨s, p, q⟩
  cases mv with
  | left x =>
    cases p with
    | ret a => exact Or.inl ⟨trivial, l, m, hl, hm, hinv⟩
    | raise e => exact Or.inl ⟨trivial, l, m, hl, hm, hinv⟩
    | call op k =>
      obtain ⟨l', hturn, hf⟩ := hl (exec x op s).1 ⟨x, s, l, m, hknown s l m hinv, rfl⟩
      by_cases hK : KL op s
      · exact Or.inl ⟨hK, l', m, hf, hm, hkeep.left hturn hinv hK⟩
      · exact Or.inr ⟨hK, l', m, hf, hm, hbreach.left hturn hinv hK⟩
  | right x =>
    cases q with
    | ret a => exact Or.inl ⟨trivial, l, m, hl, hm, hinv⟩
    | raise e => exact Or.inl ⟨trivial, l, m, hl, hm, hinv⟩
    | call op k =>
      obtain ⟨m', hturn, hf⟩ := hm (exec x op s).1 ⟨x, s, l, m, hknown s l m hinv, rfl⟩
      by_cases hK : KR op s
      · exact Or.inl ⟨hK, l, m', hl, hf, hkeep.right hturn hinv hK⟩
      · exact Or.inr ⟨hK, l, m', hl, hf, hbreach.right hturn hinv hK⟩

/-- **The protocol rule for two.** -/
theorem after_holds (hknown : ∀ s l m, good s l m → known s l m)
    (hkeep : Leads exec turnL turnR good (fun _ _ => True) (fun _ _ => True) good) :
    ∀ (ms : List (Move X)) (d : Duo Op E S α β), Holds exec known turnL turnR QL QR good d →
      Holds exec known turnL turnR QL QR good (after (Duo.step exec) d ms)
  | [], _, h => h
  | mv :: ms, d, h => by
    have hnone : Leads exec turnL turnR good (fun _ _ => ¬ True) (fun _ _ => ¬ True) good :=
      ⟨fun _ _ hn => absurd trivial hn, fun _ _ hn => absurd trivial hn⟩
    refine after_holds hknown hkeep ms _ ?_
    rcases h.step hknown hkeep hnone mv with hstep | hstep
    · exact hstep.2
    · exact hstep.2

/-- **A schedule that meets the condition all along keeps the invariant; one that does not ends where a breach leaves
it.** -/
theorem after_breach (hgood : ∀ s l m, good s l m → known s l m) (hlost : ∀ s l m, lost s l m → known s l m)
    (hkeep : Leads exec turnL turnR good KL KR good)
    (hbreach : Leads exec turnL turnR good (fun op s => ¬ KL op s) (fun op s => ¬ KR op s) lost)
    (hstay : Leads exec turnL turnR lost (fun _ _ => True) (fun _ _ => True) lost) :
    ∀ (ms : List (Move X)) (d : Duo Op E S α β), Holds exec known turnL turnR QL QR good d →
      Along (Duo.step exec) (Asks KL KR) d ms ∧ Holds exec known turnL turnR QL QR good (after (Duo.step exec) d ms) ∨
        ¬ Along (Duo.step exec) (Asks KL KR) d ms ∧
          Holds exec known turnL turnR QL QR lost (after (Duo.step exec) d ms)
  | [], _, h => Or.inl ⟨trivial, h⟩
  | mv :: ms, d, h => by
    rcases h.step hgood hkeep hbreach mv with ⟨hK, hnext⟩ | ⟨hK, hnext⟩
    · rcases after_breach hgood hlost hkeep hbreach hstay ms _ hnext with ⟨halong, hend⟩ | ⟨hnot, hend⟩
      · exact Or.inl ⟨⟨hK, halong⟩, hend⟩
      · exact Or.inr ⟨fun halong => hnot halong.2, hend⟩
    · exact Or.inr ⟨fun halong => hK halong.1, after_holds hlost hstay ms _ hnext⟩

end Standings
end Duo
end Lib
