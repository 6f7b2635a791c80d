import Mathlib.Data.List.Basic
/-!
# Run — runs of requests, one after another

A service that completes one request before it takes the next is a `step` on its state, and a run is the list of the
requests it was given.  `Along C` says every request of a run met `C` in the state it was made in; `along_inv_iff` is the
induction that turns a fact about one request into one about runs, and `along_iff` reads `Along` back as a statement
about every position of the run.
-/
namespace Lib

universe u v

variable {S : Type u} {R : Type v} (step : S → R → S)

/-- The state a run leaves. -/
def after (s : S) (rs : List R) : S := rs.foldl step s

/-- **Every request of the run met `C`** in the state it was made in. -/
def Along (C : S → R → Prop) : S → List R → Prop
  | _, [] => True
  | s, r :: rs => C s r ∧ Along C (step s r) rs

variable {step} {C : S → R → Prop}

theorem after_cons (s : S) (r : R) (rs : List R) : after step s (r :: rs) = after step (step s r) rs := rfl

theorem after_append (s : S) (pre post : List R) :
    after step s (pre ++ post) = after step (after step s pre) post := List.foldl_append

theorem along_append : ∀ (s : S) (pre post : List R),
    Along step C s (pre ++ post) ↔ Along step C s pre ∧ Along step C (after step s pre) post
  | _, [], _ => by simp [Along, after]
  | s, r :: pre, post => by
    rw [List.cons_append, Along, Along, along_append (step s r) pre post, after_cons, and_assoc]

theorem along_iff : ∀ (s : S) (rs : List R),
    Along step C s rs ↔ ∀ pre r post, rs = pre ++ r :: post → C (after step s pre) r
  | s, [] => by simp [Along]
  | s, r :: rs => by
    rw [Along, along_iff (step s r) rs]
    constructor
    · rintro ⟨h0, h⟩ pre r' post hs
      cases pre with
      | nil =>
        simp only [List.nil_append, List.cons.injEq] at hs
        obtain ⟨rfl, rfl⟩ := hs
        exact h0
      | cons x pre =>
        simp only [List.cons_append, List.cons.injEq] at hs
        obtain ⟨rfl, hs⟩ := hs
        exact h pre r' post hs
    · intro h
      refine ⟨h [] r rs rfl, fun pre r' post hs => ?_⟩
      exact h (r :: pre) r' post (by rw [hs]; rfl)

/-- An invariant that every request keeps holds after every run. -/
theorem inv_after (I : S → Prop) (hI : ∀ s r, I s → I (step s r)) (rs : List R) (s : S) (h : I s) :
    I (after step s rs) :=
  match rs with
  | [] => h
  | r :: rs => inv_after I hI rs (step s r) (hI s r h)

/-- **An invariant that every request meeting `C` keeps** holds in every state of a run of such requests. -/
theorem Along.inv {I : S → Prop} (hI : ∀ s r, I s → C s r → I (step s r)) : ∀ {rs : List R} {s : S}, Along step C s rs →
    I s → ∀ pre post, rs = pre ++ post → I (after step s pre)
  | [], _, _, hs, pre, post, h => by
    obtain ⟨rfl, -⟩ := List.append_eq_nil_iff.1 h.symm
    exact hs
  | r :: rs, s, hc, hs, pre, post, h => by
    cases pre with
    | nil => exact hs
    | cons x pre =>
      simp only [List.cons_append, List.cons.injEq] at h
      obtain ⟨rfl, h⟩ := h
      exact Along.inv hI hc.2 (hI s r hs hc.1) pre post h

theorem Along.mono {D : S → R → Prop} (h : ∀ s r, C s r → D s r) : ∀ (rs : List R) (s : S),
    Along step C s rs → Along step D s rs
  | [], _, _ => trivial
  | r :: rs, s, hc => ⟨h s r hc.1, Along.mono h rs (step s r) hc.2⟩

/-- **A relation kept by each request is kept over any stretch of the run.** -/
theorem along_stays {Rel : S → S → Prop} (hrefl : ∀ s, Rel s s) (htrans : ∀ s s' s'', Rel s s' → Rel s' s'' → Rel s s'') :
    ∀ (rs : List R) (s : S), Along step (fun s r => Rel s (step s r)) s rs ↔
      ∀ pre mid post, rs = pre ++ (mid ++ post) → Rel (after step s pre) (after step s (pre ++ mid)) := by
  have hmid : ∀ (mid : List R) (s : S), Along step (fun s r => Rel s (step s r)) s mid → Rel s (after step s mid) := by
    intro mid
    induction mid with
    | nil => exact fun s _ => hrefl s
    | cons r mid ih => exact fun s h => htrans _ _ _ h.1 (ih _ h.2)
  intro rs s
  constructor
  · rintro h pre mid post rfl
    rw [after_append]
    exact hmid mid _ ((along_append _ mid post).1 ((along_append s pre _).1 h).2).1
  · intro h
    rw [along_iff]
    rintro pre r post rfl
    have := h pre [r] post rfl
    rwa [after_append] at this

/-- **A property that each request keeps exactly when it meets `C`** holds in every state of a run exactly when every
request of the run meets `C`.  `J` is what is known of every state anyway. -/
theorem along_inv_iff {I J : S → Prop} (hJ : ∀ s r, J s → J (step s r))
    (hI : ∀ s r, J s → I s → (I (step s r) ↔ C s r)) : ∀ (rs : List R) (s : S), J s → I s →
      ((∀ pre post, rs = pre ++ post → I (after step s pre)) ↔ Along step C s rs)
  | [], s, _, hs => by
    constructor
    · exact fun _ => trivial
    · intro _ pre post h
      obtain ⟨rfl, -⟩ := List.append_eq_nil_iff.1 h.symm
      exact hs
  | r :: rs, s, hj, hs => by
    rw [Along, ← hI s r hj hs]
    constructor
    · intro h
      have h1 : I (step s r) := h [r] rs rfl
      refine ⟨h1, (along_inv_iff hJ hI rs _ (hJ s r hj) h1).1 (fun pre post hp => ?_)⟩
      exact h (r :: pre) post (by rw [hp]; rfl)
    · rintro ⟨h1, h2⟩ pre post hp
      cases pre with
      | nil => exact hs
      | cons x pre =>
        simp only [List.cons_append, List.cons.injEq] at hp
        obtain ⟨rfl, hp⟩ := hp
        exact (along_inv_iff hJ hI rs _ (hJ s r hj) h1).2 h2 pre post hp

end Lib
