import KrishiBazaar.Lib.Evolve
import KrishiBazaar.Lib.Run
/-!
# History — what a run makes of the rows of a table

A relation that every request keeps between a row and what becomes of it is kept by a run, if it is reflexive and
transitive (`evolves_after`).  So is a condition that bars rows of a kind from being added, as long as it lasts
(`barred_after`).
-/
namespace Lib

universe u

variable {S ρ κ : Type} {Q : Type u} {key : ρ → κ} {check : ρ → Bool} [DecidableEq κ]
variable {step : S → Q → S} {get : S → Table key check}

/-- **What each request may make of a row, a run may**; `N` is so of the rows that are added. -/
theorem evolves_after {R : ρ → ρ → Prop} {N : ρ → Prop} (hrefl : ∀ r, R r r)
    (htrans : ∀ r r' r'', R r r' → R r' r'' → R r r'') (hN : ∀ r r', N r → R r r' → N r')
    (hstep : ∀ s q, Evolves R N (get s) (get (step s q))) : ∀ (qs : List Q) (s : S),
      Evolves R N (get s) (get (after step s qs))
  | [], s => Evolves.refl hrefl (get s)
  | q :: qs, s => (hstep s q).trans htrans hN (evolves_after hrefl htrans hN hstep qs (step s q))

/-- **No row of a kind is added while a condition lasts that bars it**: each row of the kind that a run leaves is what
became of one that was there. -/
theorem barred_after {R : ρ → ρ → Prop} {K : ρ → Prop} {I : S → Prop} (hrefl : ∀ r, R r r)
    (htrans : ∀ r r' r'', R r r' → R r' r'' → R r r'') (hK : ∀ r r', R r r' → K r' → K r) (hI : ∀ s q, I s → I (step s q))
    (hstep : ∀ s q, I s → Evolves R (fun r => ¬ K r) (get s) (get (step s q))) :
    ∀ (qs : List Q) (s : S), I s → ∀ r' ∈ (get (after step s qs)).rows, K r' → ∃ r ∈ (get s).rows, R r r'
  | [], _, _, r', hr', _ => ⟨r', hr', hrefl r'⟩
  | q :: qs, s, hs, r'', hr'', hk => by
    obtain ⟨r', hr', hR⟩ := barred_after hrefl htrans hK hI hstep qs (step s q) (hI s q hs) r'' hr'' hk
    rcases (hstep s q hs).new (Table.get?_of_mem hr') with ⟨r, hr, hR'⟩ | ⟨-, hnot⟩
    · exact ⟨r, Table.mem_of_get? hr, htrans r r' r'' hR' hR⟩
    · exact absurd (hK r' r'' hR hk) hnot

end Lib
