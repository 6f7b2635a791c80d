import Mathlib.Data.List.Basic
import Mathlib.Data.List.Forall2
/-!
# Prog — a request handler as a tree of atomic calls

A handler talks to its store through single calls, each of which the store answers atomically; between two calls
anything may happen.  `Prog Op E α` is the handler with nothing but its calls left: it returns a value, raises an
error, or makes one call and goes on with the answer.  The tree says nothing about what a call does, so one definition
of a handler has a sequential meaning (`Prog.run`, every call answered by one interpreter) and an interleaved one
(`Pool`), and both read the same source.

The interpreter may refuse a call: its answer is an `Except`, and `perform` turns a refusal into the handler's error.
-/
namespace Lib

/-- A program over the calls `Op`: a call of type `Op ρ` is answered with a `ρ`, or refused with an `E`. -/
inductive Prog (Op : Type → Type 1) (E α : Type) : Type 1
  | ret (a : α)
  | raise (e : E)
  | call {ρ : Type} (op : Op ρ) (k : Except E ρ → Prog Op E α)

namespace Prog

variable {Op : Type → Type 1} {E S α β γ ρ : Type}

def bind : Prog Op E α → (α → Prog Op E β) → Prog Op E β
  | ret a, f => f a
  | raise e, _ => raise e
  | call op k, f => call op (fun r => (k r).bind f)

def tryCatch : Prog Op E α → (E → Prog Op E α) → Prog Op E α
  | ret a, _ => ret a
  | raise e, h => h e
  | call op k, h => call op (fun r => (k r).tryCatch h)

instance : Monad (Prog Op E) where
  pure := ret
  bind := bind

instance : MonadExceptOf E (Prog Op E) where
  throw := raise
  tryCatch := tryCatch

/-- What a program does with the answer to a call: go on with it, or fail as the call failed. -/
def ofAnswer : Except E ρ → Prog Op E ρ
  | .ok r => ret r
  | .error e => raise e

/-- The value that a program has come to. -/
def returned : Prog Op E α → Option α
  | ret a => some a
  | _ => none

theorem returned_eq_some {p : Prog Op E α} {a : α} : p.returned = some a ↔ p = ret a := by
  cases p <;> simp [returned]

/-- One call, its refusal raised. -/
def perform (op : Op ρ) : Prog Op E ρ := call op ofAnswer

/-- What happens next to an outcome: the rest of the program on its value, or nothing more. -/
def onOk (x : Except E α × S) (f : α → S → Except E β × S) : Except E β × S :=
  match x with
  | (.ok a, s) => f a s
  | (.error e, s) => (.error e, s)

@[simp] theorem onOk_ok (a : α) (s : S) (f : α → S → Except E β × S) : onOk (.ok a, s) f = f a s := rfl

@[simp] theorem onOk_error (e : E) (s : S) (f : α → S → Except E β × S) : onOk (.error e, s) f = (.error e, s) := rfl

/-- **The sequential meaning**: every call is answered by `exec`, one after the other. -/
def run (exec : ∀ {ρ : Type}, Op ρ → S → Except E ρ × S) : Prog Op E α → S → Except E α × S
  | ret a, s => (.ok a, s)
  | raise e, s => (.error e, s)
  | call op k, s => (k (exec op s).1).run exec (exec op s).2

variable (exec : ∀ {ρ : Type}, Op ρ → S → Except E ρ × S)

theorem run_pure (a : α) (s : S) : (pure a : Prog Op E α).run exec s = (.ok a, s) := rfl

theorem run_bind (p : Prog Op E α) (f : α → Prog Op E β) (s : S) :
    (p >>= f).run exec s = onOk (p.run exec s) (fun a s' => (f a).run exec s') := by
  show (p.bind f).run exec s = _
  induction p generalizing s with
  | ret a => rfl
  | raise e => rfl
  | call op k ih => exact ih (exec op s).1 (exec op s).2

theorem bind_assoc (f : α → Prog Op E β) (g : β → Prog Op E γ) : ∀ p : Prog Op E α,
    p >>= f >>= g = p >>= fun a => f a >>= g
  | ret _ => rfl
  | raise _ => rfl
  | call op k => congrArg (call op) (funext fun r => bind_assoc f g (k r))

theorem run_ofAnswer (x : Except E α) (s : S) : (ofAnswer x : Prog Op E α).run exec s = (x, s) := by
  cases x <;> rfl

/-- A call goes on with its answer, or fails with its refusal, in the state the call left. -/
theorem run_perform (op : Op ρ) (s : S) : (perform op : Prog Op E ρ).run exec s = exec op s := by
  show (ofAnswer (exec op s).1 : Prog Op E ρ).run exec (exec op s).2 = exec op s
  cases h : exec op s with
  | mk r s' => cases r <;> rfl

theorem run_ite (c : Prop) [Decidable c] (p q : Prog Op E α) (s : S) :
    (if c then p else q).run exec s = if c then p.run exec s else q.run exec s := by
  split <;> rfl

/-- A caught failure goes on with its handler, in the state the failure left. -/
theorem run_tryCatch (h : E → Prog Op E α) : ∀ (p : Prog Op E α) (s : S),
    (p.tryCatch h).run exec s = match p.run exec s with
      | (.ok a, s') => (.ok a, s')
      | (.error e, s') => (h e).run exec s'
  | ret _, _ => rfl
  | raise _, _ => rfl
  | call op k, s => run_tryCatch h (k (exec op s).1) (exec op s).2

/-- `try: p finally: q`. -/
def finallyDo (p : Prog Op E α) (q : Prog Op E Unit) : Prog Op E α :=
  p.tryCatch (fun e => q >>= fun _ => raise e) >>= fun a => q >>= fun _ => pure a

/-! ## A program within a larger one -/

/-- The program with its calls made as calls of another kind. -/
def lift {Op' : Type → Type 1} (f : ∀ {ρ : Type}, Op ρ → Op' ρ) : Prog Op E α → Prog Op' E α
  | ret a => ret a
  | raise e => raise e
  | call op k => call (f op) (fun r => (k r).lift f)

/-- **On a part of a larger state a program does what it does alone.** -/
theorem run_lift {Op' : Type → Type 1} {T : Type} (f : ∀ {ρ : Type}, Op ρ → Op' ρ)
    (exec' : ∀ {ρ : Type}, Op' ρ → T → Except E ρ × T) (get : T → S) (set : T → S → T)
    (get_set : ∀ t s, get (set t s) = s) (set_get : ∀ t, set t (get t) = t)
    (set_set : ∀ t s s', set (set t s) s' = set t s')
    (hexec : ∀ {ρ : Type} (op : Op ρ) t, exec' (f op) t = ((exec op (get t)).1, set t (exec op (get t)).2)) :
    ∀ (p : Prog Op E α) (t : T), (p.lift f).run exec' t = ((p.run exec (get t)).1, set t (p.run exec (get t)).2)
  | ret a, t => congrArg (Prod.mk (Except.ok a)) (set_get t).symm
  | raise e, t => congrArg (Prod.mk (Except.error e)) (set_get t).symm
  | call op k, t => by
    show ((k (exec' (f op) t).1).lift f).run exec' (exec' (f op) t).2 = _
    rw [hexec, run_lift f exec' get set get_set set_get set_set hexec, get_set, set_set]
    rfl

/-! ## Loops -/

/-- `for a in l: f a`. -/
def forEach (l : List α) (f : α → Prog Op E Unit) : Prog Op E Unit :=
  match l with
  | [] => pure ()
  | a :: l => f a >>= fun _ => forEach l f

/-- **A loop whose rounds all succeed folds what the rounds do.** -/
theorem run_forEach (f : α → Prog Op E Unit) (g : S → α → S) (hf : ∀ a s, (f a).run exec s = (.ok (), g s a)) :
    ∀ (l : List α) (s : S), (forEach l f).run exec s = (.ok (), l.foldl g s)
  | [], _ => rfl
  | a :: l, s => by
    rw [forEach, run_bind, hf, onOk_ok]
    exact run_forEach f g hf l (g s a)

/-- A loop with an accumulator, whose rounds all succeed. -/
theorem run_foldlM (f : β → α → Prog Op E β) (g : β × S → α → β × S)
    (hf : ∀ b a s, (f b a).run exec s = (.ok (g (b, s) a).1, (g (b, s) a).2)) :
    ∀ (l : List α) (b : β) (s : S), (l.foldlM f b).run exec s = (.ok (l.foldl g (b, s)).1, (l.foldl g (b, s)).2)
  | [], _, _ => rfl
  | a :: l, b, s => by
    rw [List.foldlM_cons, run_bind, hf, onOk_ok, run_foldlM f g hf l]
    rfl

/-- `[b for a in l if (b := f(a)) is not None]`. -/
def filterMap (f : α → Prog Op E (Option β)) : List α → Prog Op E (List β)
  | [] => pure []
  | a :: l => f a >>= fun b => filterMap f l >>= fun bs => pure (b.toList ++ bs)

/-- A filtering loop whose rounds only compute: what it keeps was computed from elements of the list. -/
theorem run_filterMap {f : α → Prog Op E (Option β)} {P : α → β → Prop} {s : S} :
    ∀ {l : List α}, (∀ a ∈ l, ∃ x, (f a).run exec s = (.ok x, s) ∧ ∀ b ∈ x, P a b) →
      ∃ bs, (filterMap f l).run exec s = (.ok bs, s) ∧ ∀ b ∈ bs, ∃ a ∈ l, P a b
  | [], _ => ⟨[], rfl, fun _ hb => absurd hb List.not_mem_nil⟩
  | a :: l, hf => by
    obtain ⟨x, hx, hP⟩ := hf a List.mem_cons_self
    obtain ⟨bs, hbs, hPs⟩ := run_filterMap (fun a' ha' => hf a' (List.mem_cons_of_mem a ha'))
    refine ⟨x.toList ++ bs, ?_, fun b hb => ?_⟩
    · rw [filterMap, run_bind, hx, onOk_ok, run_bind, hbs, onOk_ok, run_pure]
    · rcases List.mem_append.1 hb with hb | hb
      · exact ⟨a, List.mem_cons_self, hP b (Option.mem_toList.1 hb)⟩
      · exact (hPs b hb).imp (fun a' ha' => ⟨List.mem_cons_of_mem a ha'.1, ha'.2⟩)

/-- A filtering loop whose rounds only compute, each by a known function. -/
theorem run_filterMap_eq {f : α → Prog Op E (Option β)} {g : α → Option β} {s : S}
    (hf : ∀ a, (f a).run exec s = (.ok (g a), s)) : ∀ l : List α, (filterMap f l).run exec s = (.ok (l.filterMap g), s)
  | [] => rfl
  | a :: l => by
    rw [filterMap, run_bind, hf a, onOk_ok, run_bind, run_filterMap_eq hf l, onOk_ok, run_pure]
    cases hg : g a with
    | none => rw [List.filterMap_cons_none hg]; rfl
    | some b => rw [List.filterMap_cons_some hg]; rfl

/-! ## One program on two states -/

/-- The program ends alike on both states, and leaves them as they are. -/
def Agree (s s' : S) (p : Prog Op E α) : Prop := ∃ r, p.run exec s = (r, s) ∧ p.run exec s' = (r, s')

section Agree

variable {exec : ∀ {ρ : Type}, Op ρ → S → Except E ρ × S} {s s' : S}

theorem Agree.pure {a : α} : Agree exec s s' (Pure.pure a : Prog Op E α) := ⟨.ok a, rfl, rfl⟩

theorem Agree.throw {e : E} : Agree exec s s' (MonadExceptOf.throw e : Prog Op E α) := ⟨.error e, rfl, rfl⟩

theorem Agree.perform {op : Op ρ} {r : Except E ρ} (h : exec op s = (r, s)) (h' : exec op s' = (r, s')) :
    Agree exec s s' (.perform op) := ⟨r, (run_perform exec op s).trans h, (run_perform exec op s').trans h'⟩

/-- **What follows need only agree on a value that is returned.** -/
theorem Agree.bind {p : Prog Op E α} {f : α → Prog Op E β} (hp : Agree exec s s' p)
    (hf : ∀ a, p.run exec s = (.ok a, s) → Agree exec s s' (f a)) : Agree exec s s' (p >>= f) := by
  obtain ⟨r, h, h'⟩ := hp
  cases r with
  | error e => exact ⟨.error e, by rw [run_bind, h, onOk_error], by rw [run_bind, h', onOk_error]⟩
  | ok a =>
    obtain ⟨r, hr, hr'⟩ := hf a h
    exact ⟨r, by rw [run_bind, h, onOk_ok, hr], by rw [run_bind, h', onOk_ok, hr']⟩

theorem Agree.ite {c : Prop} [Decidable c] {p q : Prog Op E α} (hp : c → Agree exec s s' p)
    (hq : ¬ c → Agree exec s s' q) : Agree exec s s' (if c then p else q) := by
  split
  · exact hp ‹_›
  · exact hq ‹_›

end Agree

/-! ## What a program calls and returns, whatever it is answered -/

/-- Every call the program makes is a `C`, and every value it returns an `R`, however its calls are answered. -/
def All (C : ∀ {ρ : Type}, Op ρ → Prop) (R : α → Prop) : Prog Op E α → Prop
  | ret a => R a
  | raise _ => True
  | call op k => C op ∧ ∀ r, (k r).All C R

section All

variable {C : ∀ {ρ : Type}, Op ρ → Prop} {R : α → Prop} {R' : β → Prop}

theorem All.pure {a : α} (h : R a) : (Pure.pure a : Prog Op E α).All C R := h

theorem All.bind {f : α → Prog Op E β} : ∀ {p : Prog Op E α}, p.All C R → (∀ a, R a → (f a).All C R') →
    (p >>= f).All C R'
  | ret a, h, hf => hf a h
  | raise _, _, _ => trivial
  | call _ _, h, hf => ⟨h.1, fun r => All.bind (h.2 r) hf⟩

theorem All.imp {C' : ∀ {ρ : Type}, Op ρ → Prop} (hC : ∀ {ρ : Type} (op : Op ρ), C op → C' op) :
    ∀ {p : Prog Op E α}, p.All C R → p.All C' R
  | ret _, h => h
  | raise _, _ => trivial
  | call op _, h => ⟨hC op h.1, fun r => All.imp hC (h.2 r)⟩

theorem All.mono {Q : α → Prop} (hR : ∀ a, R a → Q a) : ∀ {p : Prog Op E α}, p.All C R → p.All C Q
  | ret a, h => hR a h
  | raise _, _ => trivial
  | call _ _, h => ⟨h.1, fun r => All.mono hR (h.2 r)⟩

theorem All.perform {op : Op ρ} (h : C op) : (perform op : Prog Op E ρ).All C (fun _ => True) := by
  refine ⟨h, fun r => ?_⟩
  cases r <;> exact trivial

theorem All.foldlM {f : β → α → Prog Op E β} {I : β → Prop} : ∀ {l : List α} {b : β}, I b →
    (∀ a ∈ l, ∀ b, I b → (f b a).All C I) → (l.foldlM f b).All C I
  | [], _, hb, _ => hb
  | a :: l, _, hb, hf => by
    rw [List.foldlM_cons]
    exact All.bind (hf a List.mem_cons_self _ hb)
      (fun b' hb' => All.foldlM hb' (fun a' ha' => hf a' (List.mem_cons_of_mem a ha')))

/-- **What a filtering loop keeps comes from its list, in its order.** -/
theorem All.filterMap {f : α → Prog Op E (Option β)} {g : β → α} : ∀ {l : List α},
    (∀ a ∈ l, (f a).All C (fun x => ∀ b ∈ x, g b = a ∧ R' b)) →
      (filterMap f l).All C (fun bs => (bs.map g).Sublist l ∧ ∀ b ∈ bs, R' b)
  | [], _ => ⟨List.Sublist.refl _, fun _ hb => absurd hb List.not_mem_nil⟩
  | a :: l, hf => by
    refine All.bind (hf a List.mem_cons_self) (fun x hx => ?_)
    refine All.bind (All.filterMap (fun a' ha' => hf a' (List.mem_cons_of_mem a ha'))) (fun bs hbs => ?_)
    refine All.pure ?_
    cases x with
    | none => exact ⟨hbs.1.cons a, hbs.2⟩
    | some b =>
      obtain ⟨rfl, hb⟩ := hx b rfl
      refine ⟨hbs.1.cons_cons (g b), fun b' hb' => ?_⟩
      rcases List.mem_cons.1 hb' with rfl | hb'
      · exact hb
      · exact hbs.2 b' hb'

/-- **An invariant that every call of a program keeps is kept by the program.** -/
theorem All.inv {I : S → Prop} (hI : ∀ {ρ : Type} (op : Op ρ) (s : S), C op → I s → I (exec op s).2) :
    ∀ (p : Prog Op E α) (s : S), p.All C R → I s → I (p.run exec s).2
  | ret _, _, _, hs => hs
  | raise _, _, _, hs => hs
  | call op k, s, h, hs => All.inv hI (k (exec op s).1) (exec op s).2 (h.2 _) (hI op s h.1 hs)

end All
end Prog

/-! ## Loops that only compute -/

theorem ok_bind {ε α β : Type} (a : α) (f : α → Except ε β) : (Except.ok a >>= f) = f a := rfl

theorem bind_ok {ε α β : Type} {x : Except ε α} {f : α → Except ε β} {b : β} :
    x >>= f = .ok b ↔ ∃ a, x = .ok a ∧ f a = .ok b := by
  cases x with
  | error e => simp [bind, Except.bind]
  | ok a => simp [bind, Except.bind]

/-- A walk for its effects succeeds if each step does. -/
theorem forM_ok {ε α : Type} {f : α → Except ε Unit} : ∀ {l : List α}, l.forM f = .ok () ↔ ∀ a ∈ l, f a = .ok ()
  | [] => by simp [pure, Except.pure]
  | a :: l => by
    show (f a >>= fun _ => l.forM f) = .ok () ↔ _
    rw [bind_ok, List.forall_mem_cons, ← forM_ok (l := l)]
    constructor
    · rintro ⟨⟨⟩, ha, hl⟩
      exact ⟨ha, hl⟩
    · rintro ⟨ha, hl⟩
      exact ⟨(), ha, hl⟩

/-- A walk that succeeds has a value for each element. -/
theorem mapM_ok {ε α β : Type} {f : α → Except ε β} : ∀ {l : List α} {bs : List β},
    l.mapM f = .ok bs ↔ List.Forall₂ (fun a b => f a = .ok b) l bs
  | [], bs => by
    rw [List.mapM_nil, List.forall₂_nil_left_iff]
    exact ⟨fun h => (Except.ok.inj h).symm, fun h => congrArg Except.ok h.symm⟩
  | a :: l, bs => by
    rw [List.mapM_cons, bind_ok, List.forall₂_cons_left_iff]
    refine exists_congr fun b => ?_
    rw [bind_ok]
    constructor
    · rintro ⟨hb, bs', hbs, h⟩
      exact ⟨bs', hb, mapM_ok.1 hbs, (Except.ok.inj h).symm⟩
    · rintro ⟨bs', hb, hbs, rfl⟩
      exact ⟨hb, bs', mapM_ok.2 hbs, rfl⟩

theorem forall₂_congr_left {α β : Type} {R S : α → β → Prop} : ∀ {l : List α} {bs : List β},
    (∀ a ∈ l, ∀ b, R a b ↔ S a b) → (List.Forall₂ R l bs ↔ List.Forall₂ S l bs)
  | [], bs, _ => by rw [List.forall₂_nil_left_iff, List.forall₂_nil_left_iff]
  | a :: l, bs, h => by
    rw [List.forall₂_cons_left_iff, List.forall₂_cons_left_iff]
    refine exists_congr fun b => exists_congr fun bs' => ?_
    rw [h a List.mem_cons_self b, forall₂_congr_left (fun a' ha' => h a' (List.mem_cons_of_mem a ha'))]

end Lib
