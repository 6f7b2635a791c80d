import KrishiBazaar.Lib.Pool
/-!
# Rely — programs that run at once, each sure of what it was told

Between two calls of a program the others may change whatever it was told.  What it can go on is a fact that nothing they
do makes false (`Fact`).  A program is guarded if each of its calls moves the state as `R` allows wherever the facts hold
that it was told by then (`Guarded`); one walk through its code proves that, and may use what each call tells.

If all programs that may start are guarded, nothing but `R` happens to the state in any interleaving, with any of them
stopped at any call (`Guarded.reach`).
-/
namespace Lib

/-- What stays true whatever of `R` happens. -/
structure Fact {S : Type} (R : S → S → Prop) where
  holds : S → Prop
  stable : ∀ s s', R s s' → holds s → holds s'

namespace Fact

variable {S : Type} {R : S → S → Prop}

/-- Nothing is known. -/
def none : Fact R := ⟨fun _ => True, fun _ _ _ h => h⟩

def and (K K' : Fact R) : Fact R :=
  ⟨fun s => K.holds s ∧ K'.holds s, fun s s' h hk => ⟨K.stable s s' h hk.1, K'.stable s s' h hk.2⟩⟩

end Fact

variable {Op : Type → Type 1} {E S ι α β ρ : Type}

/-- Wherever `K` holds the call moves the state as `R` allows, and `K'` holds after this answer. -/
def Relies (P : Pool Op E S ι α) {R : S → S → Prop} (K : Fact R) {ρ : Type} (op : Op ρ) (r : Except E ρ)
    (K' : Fact R) : Prop := ∀ s s', P.answers op s r s' → K.holds s → R s s' ∧ K'.holds s'

/-- What is returned is as `post` says, by the facts known. -/
def told {R : S → S → Prop} (post : β → S → Prop) : Except E β → Fact R → Prop
  | .ok b, K => ∀ s, K.holds s → post b s
  | .error _, _ => True

/-- **Every call of the program does what `R` allows**, and its value is as `post` says, from what is known on. -/
def Guarded (P : Pool Op E S ι α) {R : S → S → Prop} (post : β → S → Prop) (p : Prog Op E β) (K : Fact R) : Prop :=
  Follows P.Possible (Relies P) (told post) p K

/-- Whatever the state, the call does what `R` allows. -/
def Harmless (P : Pool Op E S ι α) (R : S → S → Prop) {ρ : Type} (op : Op ρ) : Prop :=
  ∀ s r s', P.answers op s r s' → R s s'

namespace Guarded

variable {P : Pool Op E S ι α} {R : S → S → Prop} {K K' : Fact R} {γ δ : Type} {post : γ → S → Prop}
  {post' : δ → S → Prop}

theorem ret {c : γ} (h : ∀ s, K.holds s → post c s) : Guarded P post (pure c : Prog Op E γ) K := h

/-- Who knows more is guarded too. -/
theorem weaken (hK : ∀ s, K'.holds s → K.holds s) : ∀ {p : Prog Op E γ}, Guarded P post p K → Guarded P post p K'
  | .ret _, h => fun s hs => h s (hK s hs)
  | .raise _, _ => trivial
  | .call _ _, h => fun r hr => by
    obtain ⟨L, hturn, hrest⟩ := h r hr
    exact ⟨L, fun s s' ha hs => hturn s s' ha (hK s hs), hrest⟩

/-- What was known at the start is known at the end. -/
theorem keep (K' : Fact R) : ∀ {p : Prog Op E γ} {K : Fact R}, Guarded P post p K →
    Guarded P (fun c s => post c s ∧ K'.holds s) p (K.and K')
  | .ret _, _, h => fun s hs => ⟨h s hs.1, hs.2⟩
  | .raise _, _, _ => trivial
  | .call _ _, _, h => fun r hr => by
    obtain ⟨L, hturn, hrest⟩ := h r hr
    refine ⟨L.and K', fun s s' ha hs => ?_, keep K' hrest⟩
    obtain ⟨hR, hL⟩ := hturn s s' ha hs.1
    exact ⟨hR, hL, K'.stable s s' hR hs.2⟩

/-- **What a part of a program was told, and what was known before it, the rest can go on.** -/
theorem bind {p : Prog Op E γ} {f : γ → Prog Op E δ} (hp : Guarded P post p K)
    (hf : ∀ c (K' : Fact R), (∀ s, K'.holds s → post c s ∧ K.holds s) → Guarded P post' (f c) K') :
    Guarded P post' (p >>= f) K :=
  Follows.bind (fun c K' h => hf c K' h) (fun _ _ _ => trivial)
    (weaken (K := K.and K) (fun _ hs => ⟨hs, hs⟩) (keep K hp))

/-- A call, from what it does wherever the facts hold and what its answer tells. -/
theorem perform {op : Op ρ} {post : ρ → Fact R} (h : ∀ s r s', P.answers op s r s' → K.holds s →
    R s s' ∧ ∀ a, r = .ok a → (post a).holds s') :
    Guarded P (fun a s => (post a).holds s) (Prog.perform op : Prog Op E ρ) K := by
  refine Follows.perform (fun r _ => ?_)
  cases r with
  | ok a =>
    refine ⟨post a, fun s s' ha hs => ?_, fun _ hs => hs⟩
    obtain ⟨hR, htold⟩ := h s (.ok a) s' ha hs
    exact ⟨hR, htold a rfl⟩
  | error e => exact ⟨.none, fun s s' ha hs => ⟨(h s (.error e) s' ha hs).1, trivial⟩, trivial⟩

/-- A call whose answer need tell nothing. -/
theorem performed {op : Op ρ} (h : ∀ s r s', P.answers op s r s' → K.holds s → R s s') :
    Guarded P (fun _ _ => True) (Prog.perform op : Prog Op E ρ) K := by
  have hnone : Guarded P (fun a s => ((fun _ => .none : ρ → Fact R) a).holds s) (Prog.perform op : Prog Op E ρ) K :=
    perform (fun s r s' ha hs => ⟨h s r s' ha hs, fun _ _ => trivial⟩)
  exact hnone

theorem ite {c : Prop} [Decidable c] {p q : Prog Op E γ} (hp : c → Guarded P post p K)
    (hq : ¬ c → Guarded P post q K) : Guarded P post (if c then p else q) K := by
  split
  · exact hp ‹_›
  · exact hq ‹_›

/-- A program that makes only harmless calls needs to know nothing. -/
theorem of_harmless {p : Prog Op E γ} (h : p.All (Harmless P R) (fun _ => True)) :
    Guarded P (fun _ _ => True) p K :=
  Follows.of_all (fun _ r hop s s' ha hs => ⟨hop s r s' ha, K.stable s s' (hop s r s' ha) hs⟩) (fun _ _ _ _ => trivial)
    (fun _ => trivial) h

end Guarded

/-! ## Any interleaving -/

section Reach

variable {P : Pool Op E S ι α} {R : S → S → Prop} {allowed : ι → Prop}

/-- What follows a protocol follows one that allows more. -/
theorem Follows.mono_turn {L : Type} {possible : ∀ {ρ : Type}, Op ρ → Except E ρ → Prop}
    {turn turn' : L → ∀ {ρ : Type}, Op ρ → Except E ρ → L → Prop} {Q : Except E α → L → Prop}
    (hturn : ∀ l {ρ : Type} (op : Op ρ) r l', turn l op r l' → turn' l op r l') :
    ∀ {p : Prog Op E α} {l : L}, Follows possible turn Q p l → Follows possible turn' Q p l
  | .ret _, _, h => h
  | .raise _, _, h => h
  | .call op _, l, h => fun r hr => (h r hr).imp (fun l' hl => ⟨hturn l op r l' hl.1, mono_turn hturn hl.2⟩)

/-- A program whose standing need not mind its calls. -/
theorem Follows.of_idle {L : Type} {possible : ∀ {ρ : Type}, Op ρ → Except E ρ → Prop}
    {turn : L → ∀ {ρ : Type}, Op ρ → Except E ρ → L → Prop} {Q : Except E α → L → Prop}
    (hturn : ∀ l {ρ : Type} (op : Op ρ) r, turn l op r l) (hQ : ∀ r l, Q r l) :
    ∀ (p : Prog Op E α) (l : L), Follows possible turn Q p l
  | .ret a, l => hQ (.ok a) l
  | .raise e, l => hQ (.error e) l
  | .call op k, l => fun r _ => ⟨l, hturn l op r, of_idle hturn hQ (k r) l⟩

/-- The standing of a program is what it can go on. -/
def relying (P : Pool Op E S ι α) (R : S → S → Prop) (s₀ : S) (allowed : ι → Prop)
    (hstarts : ∀ s i, P.starts s i → allowed i)
    (houtside : ∀ s (is : Multiset ι) s', (∀ i ∈ is, allowed i) → P.outside s is s' → R s s') : Protocol P (Fact R) where
  fresh := .none
  turn i K _ op r K' := allowed i → Relies P K op r K'
  free _ := True
  inv s ls := Relation.ReflTransGen R s₀ s ∧ ∀ x ∈ ls, allowed x.1 ∧ x.2.holds s
  start h hinv := ⟨hinv.1, fun x hx => by
    rcases Multiset.mem_cons.1 hx with rfl | hx
    · exact ⟨hstarts _ _ h, trivial⟩
    · exact hinv.2 x hx⟩
  call {s s' i l l' ρ op r ls} hturn h hinv := by
    obtain ⟨hi, hl⟩ := hinv.2 (i, l) (Multiset.mem_cons_self _ _)
    obtain ⟨hR, hl'⟩ := hturn hi s s' h hl
    refine ⟨hinv.1.tail hR, fun x hx => ?_⟩
    rcases Multiset.mem_cons.1 hx with rfl | hx
    · exact ⟨hi, hl'⟩
    · obtain ⟨hx, hholds⟩ := hinv.2 x (Multiset.mem_cons_of_mem hx)
      exact ⟨hx, x.2.stable s s' hR hholds⟩
  finish _ hinv := ⟨hinv.1, fun x hx => hinv.2 x (Multiset.mem_cons_of_mem hx)⟩
  outside {s s' ls} h hinv := by
    have hallowed : ∀ i ∈ ls.map Prod.fst, allowed i := by
      intro i hi
      obtain ⟨x, hx, rfl⟩ := Multiset.mem_map.1 hi
      exact (hinv.2 x hx).1
    have hR := houtside s _ s' hallowed h
    exact ⟨hinv.1.tail hR, fun x hx => ⟨(hinv.2 x hx).1, x.2.stable s s' hR (hinv.2 x hx).2⟩⟩

/-- **If all that may start is guarded, nothing but `R` happens**, in any interleaving and at any point of it. -/
theorem Guarded.reach (hcode : ∀ i, allowed i → Guarded P (R := R) (fun _ _ => True) (P.code i) .none)
    (hstarts : ∀ s i, P.starts s i → allowed i)
    (houtside : ∀ s (is : Multiset ι) s', (∀ i ∈ is, allowed i) → P.outside s is s' → R s s') {s : S}
    {c : S × P.Threads} (hrun : P.Run (s, 0) c) : Relation.ReflTransGen R s c.1 := by
  let G := relying P R s allowed hstarts houtside
  have hfollows : ∀ i, Follows P.Possible (G.turn i) (fun _ l => G.free l) (P.code i) G.fresh := by
    intro i
    by_cases hi : allowed i
    · exact Follows.mono (fun _ _ _ => trivial) (Follows.mono_turn (fun _ _ _ _ _ h _ => h) (hcode i hi))
    · exact Follows.of_idle (fun _ _ _ _ h => absurd h hi) (fun _ _ => trivial) _ _
  obtain ⟨ls, hinv, -⟩ := G.reach hfollows (s := s) ⟨.refl, fun x hx => absurd hx (Multiset.notMem_zero x)⟩ hrun
  exact hinv.1

end Reach
end Lib
