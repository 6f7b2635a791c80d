import KrishiBazaar.Lib.Prog
import Mathlib.Data.Multiset.MapFold
import Mathlib.Data.Multiset.ZeroCons
import Mathlib.Logic.Relation
/-!
# Pool — programs that run at once, call by call

A pool is a shared state and the programs in flight on it.  A step starts a program, lets one of them make its next
call, takes one that has ended out of the pool, or changes the state from outside; any order of steps is a run.

The proof rule is by standing.  Each program in flight is given a local state, its standing, which its own calls move
(`Turn`); `Follows` says that a program only makes calls its standing allows, and one walk through the code proves it.
What the calls do to the shared state is then a matter of the standings alone: an invariant of the state and the
multiset of standings that every allowed call keeps holds in every state of every run (`Protocol.reach`).
-/
namespace Lib

variable {Op : Type → Type 1} {E S ι L α β ρ : Type}

def Prog.Ended : Prog Op E α → Prop
  | .call _ _ => False
  | _ => True

instance : ∀ p : Prog Op E α, Decidable p.Ended
  | .ret _ => isTrue trivial
  | .raise _ => isTrue trivial
  | .call _ _ => isFalse id

/-- What a pool runs: how calls are answered, when a program may start and which, and what else may happen to the
state while programs are in flight. -/
structure Pool (Op : Type → Type 1) (E S ι α : Type) where
  answers : ∀ {ρ : Type}, Op ρ → S → Except E ρ → S → Prop
  starts : S → ι → Prop
  code : ι → Prog Op E α
  outside : S → Multiset ι → S → Prop

/-- The programs in flight, each with what it was started with. -/
abbrev Pool.Threads (_ : Pool Op E S ι α) := Multiset (ι × Prog Op E α)

inductive Pool.Step (P : Pool Op E S ι α) : S × P.Threads → S × P.Threads → Prop
  | start {s : S} {i : ι} {ts : P.Threads} (h : P.starts s i) : Pool.Step P (s, ts) (s, (i, P.code i) ::ₘ ts)
  | call {s s' : S} {i : ι} {ρ : Type} {op : Op ρ} {k : Except E ρ → Prog Op E α} {r : Except E ρ} {ts : P.Threads}
      (h : P.answers op s r s') : Pool.Step P (s, (i, .call op k) ::ₘ ts) (s', (i, k r) ::ₘ ts)
  | finish {s : S} {i : ι} {p : Prog Op E α} {ts : P.Threads} (h : p.Ended) : Pool.Step P (s, (i, p) ::ₘ ts) (s, ts)
  | outside {s s' : S} {ts : P.Threads} (h : P.outside s (ts.map Prod.fst) s') : Pool.Step P (s, ts) (s', ts)

/-- **Any interleaving.** -/
def Pool.Run (P : Pool Op E S ι α) : S × P.Threads → S × P.Threads → Prop := Relation.ReflTransGen P.Step

namespace Pool.Run

variable {P : Pool Op E S ι α} {c : S × P.Threads} {s s' : S} {i : ι} {ts : P.Threads}

theorem start (hrun : P.Run c (s, ts)) (h : P.starts s i) : P.Run c (s, (i, P.code i) ::ₘ ts) := hrun.tail (.start h)

theorem call {op : Op ρ} {k : Except E ρ → Prog Op E α} {r : Except E ρ} (hrun : P.Run c (s, (i, .call op k) ::ₘ ts))
    (h : P.answers op s r s') : P.Run c (s', (i, k r) ::ₘ ts) := hrun.tail (.call h)

theorem finish {p : Prog Op E α} (hrun : P.Run c (s, (i, p) ::ₘ ts)) (h : p.Ended) : P.Run c (s, ts) :=
  hrun.tail (.finish h)

end Pool.Run

/-! ## Standings -/

/-- A call that can be answered so. -/
def Pool.Possible (P : Pool Op E S ι α) (op : Op ρ) (r : Except E ρ) : Prop := ∃ s s', P.answers op s r s'

/-- From standing `l` every call of the program is one the standing allows, and `Q` holds where it ends. -/
def Follows (possible : ∀ {ρ : Type}, Op ρ → Except E ρ → Prop)
    (turn : L → ∀ {ρ : Type}, Op ρ → Except E ρ → L → Prop) (Q : Except E α → L → Prop) : Prog Op E α → L → Prop
  | .ret a, l => Q (.ok a) l
  | .raise e, l => Q (.error e) l
  | .call op k, l => ∀ r, possible op r → ∃ l', turn l op r l' ∧ Follows possible turn Q (k r) l'

/-- An assertion on a standing for each way a program can end. -/
def upTo {β : Type} (I F : L → Prop) : Except E β → L → Prop
  | .ok _ => I
  | .error _ => F

/-- The program does not fail, and `I` holds of its value and the standing. -/
def returns {β : Type} (I : β → L → Prop) : Except E β → L → Prop
  | .ok b, l => I b l
  | .error _, _ => False

namespace Follows

variable {possible : ∀ {ρ : Type}, Op ρ → Except E ρ → Prop} {turn : L → ∀ {ρ : Type}, Op ρ → Except E ρ → L → Prop}
  {Q Q' : Except E α → L → Prop}

theorem ret {a : α} {l : L} (h : Q (.ok a) l) : Follows possible turn Q (pure a) l := h

theorem raise {e : E} {l : L} (h : Q (.error e) l) : Follows possible turn Q (.raise e) l := h

theorem mono (hQ : ∀ r l, Q r l → Q' r l) : ∀ {p : Prog Op E α} {l : L},
    Follows possible turn Q p l → Follows possible turn Q' p l
  | .ret _, _, h => hQ _ _ h
  | .raise _, _, h => hQ _ _ h
  | .call _ _, _, h => fun r hr => (h r hr).imp (fun _ hl => ⟨hl.1, mono hQ hl.2⟩)

/-- The standing where `p` ends is the standing where what follows it starts. -/
theorem bind {R : Except E β → L → Prop} {f : α → Prog Op E β}
    (hok : ∀ a l, Q (.ok a) l → Follows possible turn R (f a) l)
    (herr : ∀ e l, Q (.error e) l → R (.error e) l) : ∀ {p : Prog Op E α} {l : L},
      Follows possible turn Q p l → Follows possible turn R (p >>= f) l
  | .ret a, l, h => hok a l h
  | .raise e, l, h => herr e l h
  | .call _ _, _, h => fun r hr => (h r hr).imp (fun _ hl => ⟨hl.1, bind hok herr hl.2⟩)

theorem bind_returns {R : Except E β → L → Prop} {f : α → Prog Op E β} {I : α → L → Prop} {p : Prog Op E α} {l : L}
    (hp : Follows possible turn (returns I) p l) (hf : ∀ a l, I a l → Follows possible turn R (f a) l) :
    Follows possible turn R (p >>= f) l := bind hf (fun _ _ h => h.elim) hp

theorem tryCatch {R : Except E α → L → Prop} {h : E → Prog Op E α} (hok : ∀ a l, Q (.ok a) l → R (.ok a) l)
    (herr : ∀ e l, Q (.error e) l → Follows possible turn R (h e) l) : ∀ {p : Prog Op E α} {l : L},
      Follows possible turn Q p l → Follows possible turn R (p.tryCatch h) l
  | .ret a, l, hp => hok a l hp
  | .raise e, l, hp => herr e l hp
  | .call _ _, _, hp => fun r hr => (hp r hr).imp (fun _ hl => ⟨hl.1, tryCatch hok herr hl.2⟩)

/-- **What is done finally is done on every way out**: `I` holds where the program ends, and `F` after what is done. -/
theorem finallyDo {I F : L → Prop} {p : Prog Op E α} {q : Prog Op E Unit} {l : L}
    (hp : Follows possible turn (fun _ => I) p l) (hq : ∀ l, I l → Follows possible turn (fun _ => F) q l) :
    Follows possible turn (fun _ => F) (p.finallyDo q) l := by
  have hdone : ∀ {δ : Type} (r : Prog Op E δ) (R : Except E δ → L → Prop), (∀ l, F l → Follows possible turn R r l) →
      (∀ e l, F l → R (.error e) l) → ∀ l, I l → Follows possible turn R (q >>= fun _ => r) l :=
    fun r R hr he l h => bind (Q := fun _ => F) (fun _ l' h' => hr l' h') he (hq l h)
  have hcaught : Follows possible turn (upTo I F) (p.tryCatch fun e => q >>= fun _ => Prog.raise e) l :=
    tryCatch (Q := fun _ => I) (fun _ _ h => h) (fun e => hdone (.raise e) (upTo I F) (fun _ h => h) (fun _ _ h => h)) hp
  exact bind (Q := upTo I F) (fun a => hdone (.ret a) (fun _ => F) (fun _ h => h) (fun _ _ h => h))
    (fun _ _ h => h) hcaught

theorem perform {Q : Except E ρ → L → Prop} {op : Op ρ} {l : L}
    (h : ∀ r, possible op r → ∃ l', turn l op r l' ∧ Q r l') : Follows possible turn Q (.perform op) l := by
  intro r hr
  obtain ⟨l', ht, hQ⟩ := h r hr
  refine ⟨l', ht, ?_⟩
  cases r with
  | ok a => exact hQ
  | error e => exact hQ

/-- A program whose calls leave the standing as it is. -/
theorem of_all {C : ∀ {ρ : Type}, Op ρ → Prop} {R : α → Prop} {l : L}
    (hC : ∀ {ρ : Type} (op : Op ρ) (r : Except E ρ), C op → turn l op r l) (hok : ∀ a, R a → Q (.ok a) l)
    (herr : ∀ e, Q (.error e) l) : ∀ {p : Prog Op E α}, p.All C R → Follows possible turn Q p l
  | .ret a, h => hok a h
  | .raise e, _ => herr e
  | .call op _, h => fun r _ => ⟨l, hC op r h.1, of_all hC hok herr (h.2 r)⟩

/-- A loop, by an assertion on the standing before the rounds to come; a round that fails ends in `F`. -/
theorem foldlM {f : β → α → Prog Op E β} {I : List α → L → Prop} {F : L → Prop}
    (hround : ∀ a as b l, I (a :: as) l → Follows possible turn (upTo (I as) F) (f b a) l) :
    ∀ (as : List α) (b : β) (l : L), I as l → Follows possible turn (upTo (I []) F) (as.foldlM f b) l
  | [], _, _, h => h
  | a :: as, b, l, h => by
    rw [List.foldlM_cons]
    exact bind (Q := upTo (I as) F) (fun b' l' h' => foldlM hround as b' l' h') (fun _ _ h' => h') (hround a as b l h)

/-- **A sequential run, seen through its standing**: what relates the standing to the state, and is kept by each allowed
call, holds where the run ends. -/
theorem run (exec : ∀ {ρ : Type}, Op ρ → S → Except E ρ × S) {R : L → S → Prop}
    (hposs : ∀ {ρ : Type} (op : Op ρ) s, possible op (exec op s).1)
    (hcall : ∀ {ρ : Type} (op : Op ρ) s l l', R l s → turn l op (exec op s).1 l' → R l' (exec op s).2) :
    ∀ {p : Prog Op E α} {l : L} {s : S}, Follows possible turn Q p l → R l s →
      ∃ l', R l' (p.run exec s).2 ∧ Q (p.run exec s).1 l'
  | .ret _, l, _, h, hs => ⟨l, hs, h⟩
  | .raise _, l, _, h, hs => ⟨l, hs, h⟩
  | .call op k, l, s, h, hs => by
    obtain ⟨l', hturn, hrest⟩ := h (exec op s).1 (hposs op s)
    exact run exec (p := k (exec op s).1) hposs hcall hrest (hcall op s l l' hs hturn)

end Follows

/-- Standings for the programs of a pool, and an invariant of the shared state and the standings that every allowed
call, every start, every end and everything from outside keeps. -/
structure Protocol (P : Pool Op E S ι α) (L : Type) where
  fresh : L
  turn : ι → L → ∀ {ρ : Type}, Op ρ → Except E ρ → L → Prop
  free : L → Prop
  inv : S → Multiset (ι × L) → Prop
  start : ∀ {s i ls}, P.starts s i → inv s ls → inv s ((i, fresh) ::ₘ ls)
  call : ∀ {s s' : S} {i : ι} {l l' : L} {ρ : Type} {op : Op ρ} {r : Except E ρ} {ls : Multiset (ι × L)},
    turn i l op r l' → P.answers op s r s' → inv s ((i, l) ::ₘ ls) → inv s' ((i, l') ::ₘ ls)
  finish : ∀ {s i l ls}, free l → inv s ((i, l) ::ₘ ls) → inv s ls
  outside : ∀ {s s' : S} {ls : Multiset (ι × L)}, P.outside s (ls.map Prod.fst) s' → inv s ls → inv s' ls

namespace Protocol

variable {P : Pool Op E S ι α} (G : Protocol P L)

/-- A program in flight, seen through its standing: what is left of it follows the protocol and ends free. -/
def Seen (t : ι × Prog Op E α) (l : ι × L) : Prop :=
  t.1 = l.1 ∧ Follows P.Possible (G.turn t.1) (fun _ l => G.free l) t.2 l.2

theorem map_fst_of_rel {ts : P.Threads} {ls : Multiset (ι × L)} (h : Multiset.Rel G.Seen ts ls) :
    ts.map Prod.fst = ls.map Prod.fst := by
  induction h with
  | zero => rfl
  | cons hd _ ih => rw [Multiset.map_cons, Multiset.map_cons, hd.1, ih]

/-- **The protocol rule.** Programs that follow the protocol keep its invariant, in any interleaving. -/
theorem reach (hcode : ∀ i, Follows P.Possible (G.turn i) (fun _ l => G.free l) (P.code i) G.fresh) {s : S}
    (hs : G.inv s 0) {c : S × P.Threads} (hrun : P.Run (s, 0) c) :
    ∃ ls, G.inv c.1 ls ∧ Multiset.Rel G.Seen c.2 ls := by
  induction hrun with
  | refl => exact ⟨0, hs, Multiset.Rel.zero⟩
  | tail _ hstep ih =>
    obtain ⟨ls, hinv, hrel⟩ := ih
    cases hstep with
    | @start s i ts h => exact ⟨(i, G.fresh) ::ₘ ls, G.start h hinv, Multiset.Rel.cons ⟨rfl, hcode i⟩ hrel⟩
    | @call s s' i ρ op k r ts h =>
      obtain ⟨⟨j, l⟩, ls', ⟨hj, hf⟩, hrel', rfl⟩ := Multiset.rel_cons_left.1 hrel
      obtain rfl : i = j := hj
      obtain ⟨l', hturn, hf'⟩ := hf r ⟨s, s', h⟩
      exact ⟨(i, l') ::ₘ ls', G.call hturn h hinv, Multiset.Rel.cons ⟨rfl, hf'⟩ hrel'⟩
    | @finish s i p ts h =>
      obtain ⟨⟨j, l⟩, ls', ⟨hj, hf⟩, hrel', rfl⟩ := Multiset.rel_cons_left.1 hrel
      have hfree : G.free l := by
        cases p with
        | ret a => exact hf
        | raise e => exact hf
        | call op k => exact h.elim
      exact ⟨ls', G.finish hfree hinv, hrel'⟩
    | @outside s s' ts h =>
      rw [G.map_fst_of_rel hrel] at h
      exact ⟨ls, G.outside h hinv, hrel⟩

end Protocol

/-! ## One program at a time -/

/-- A program cut off after some calls: what is left of it, and the state. -/
def Prog.advance {T : Type} (exec : ∀ {ρ : Type}, Op ρ → T → Except E ρ × T) : Nat → Prog Op E α → T → Prog Op E α × T
  | n + 1, .call op k, t => advance exec n (k (exec op t).1) (exec op t).2
  | _, p, t => (p, t)

theorem Pool.run_of_advance {T : Type} (P : Pool Op E S ι α) (exec : ∀ {ρ : Type}, Op ρ → T → Except E ρ × T)
    (view : T → S) (hexec : ∀ {ρ : Type} (op : Op ρ) (t : T), P.answers op (view t) (exec op t).1 (view (exec op t).2))
    (i : ι) : ∀ (n : Nat) (p : Prog Op E α) (t : T) (ts : P.Threads),
      P.Run (view t, (i, p) ::ₘ ts) (view (p.advance exec n t).2, (i, (p.advance exec n t).1) ::ₘ ts)
  | n + 1, .call op k, t, ts =>
    (Relation.ReflTransGen.single (Pool.Step.call (hexec op t))).trans
      (Pool.run_of_advance P exec view hexec i n (k (exec op t).1) (exec op t).2 ts)
  | _ + 1, .ret _, _, _ => .refl
  | _ + 1, .raise _, _, _ => .refl
  | 0, _, _, _ => .refl

/-- **A sequential run is one of the interleavings.**  `view` is the shared state as the sequential interpreter, which
may keep more, sees it. -/
theorem Pool.run_of_exec {T : Type} (P : Pool Op E S ι α) (exec : ∀ {ρ : Type}, Op ρ → T → Except E ρ × T) (view : T → S)
    (hexec : ∀ {ρ : Type} (op : Op ρ) (t : T), P.answers op (view t) (exec op t).1 (view (exec op t).2)) (i : ι) :
    ∀ (p : Prog Op E α) (t : T) (ts : P.Threads), P.Run (view t, (i, p) ::ₘ ts) (view (p.run exec t).2, ts)
  | .ret _, _, _ => .single (.finish trivial)
  | .raise _, _, _ => .single (.finish trivial)
  | .call op k, t, ts =>
    (Relation.ReflTransGen.single (Pool.Step.call (hexec op t))).trans
      (Pool.run_of_exec P exec view hexec i (k (exec op t).1) (exec op t).2 ts)

end Lib
