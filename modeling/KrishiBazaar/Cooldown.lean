import KrishiBazaar.Alerts
import Mathlib.Data.Multiset.Count
/-!
# Cooldown — what the runs in flight know of one alert

Of one alert only three things matter: the clock, the alert's two notification columns and the claims its successful
messages were sent for (`View`); of a run in flight only how it stands to the alert (`Standing`).  At most one run
holds the alert.  While none does, the columns are what the messages so far make them (`settled`), and this is what a run
that will claim has read; a run that read anything else read a claim younger than its own cutoff and cannot claim.

`Held` is that invariant, and there is one lemma for each thing a run can do to it.
-/
namespace Krishi

/-- How a run stands to one alert.  A reader and a holder carry the columns as they were read. -/
inductive Standing
  | unread
  | reader (lastNotifiedAt : Option Time) (notifiedCount : Nat)
  | holder (lastNotifiedAt : Option Time) (notifiedCount : Nat)
  | out
  deriving DecidableEq, Repr

def Standing.holds : Standing → Bool
  | .holder _ _ => true
  | _ => false

def Alert.mark (a : Alert) : Option Time × Nat := (a.lastNotifiedAt, a.notifiedCount)

structure View where
  clock : Time
  mark : Option (Option Time × Nat)
  /-- The claims of the successful messages, in the order they were sent. -/
  times : List Time

/-- The columns after successful messages for the claims `times`, from `start`. -/
def settled (start : Option Time × Nat) (times : List Time) : Option Time × Nat :=
  (times.getLast?.or start.1, start.2 + times.length)

/-- Every claim is more than 24 hours after the one before it. -/
def Spaced (times : List Time) : Prop := times.Pairwise (fun s t => s + cooldown < t)

def Standing.Fits (start : Option Time × Nat) (v : View) (now : Time) : Standing → Prop
  | .reader last count => (last, count) = settled start v.times ∨ cooling now (settled start v.times).1 = true
  | .holder last count =>
    (last, count) = settled start v.times ∧ v.mark = some (some now, count + 1) ∧ cooling now last = false
  | _ => True

/-- A run in flight started no more than 24 hours ago. -/
def InTime (v : View) (now : Time) : Prop := now ≤ v.clock ∧ v.clock ≤ now + cooldown

structure Held (start : Option Time × Nat) (v : View) (ls : Multiset (Time × Standing)) : Prop where
  spaced : Spaced v.times
  inTime : ∀ x ∈ ls, InTime v x.1
  fits : ∀ x ∈ ls, x.2.Fits start v x.1
  one : ls.countP (fun x => x.2.holds) ≤ 1
  settled : ls.countP (fun x => x.2.holds) = 0 → v.mark = some (settled start v.times)

theorem settled_snoc (start : Option Time × Nat) (times : List Time) (t : Time) :
    settled start (times ++ [t]) = (some t, (settled start times).2 + 1) := by
  simp only [settled, List.getLast?_append, List.getLast?_singleton, Option.some_or, List.length_append,
    List.length_singleton, Nat.add_assoc]

theorem exists_snoc_of_mem {α : Type} {l : List α} {x : α} (h : x ∈ l) : ∃ pre last, l = pre ++ [last] := by
  rcases List.eq_nil_or_concat l with rfl | ⟨pre, last, rfl⟩
  · exact absurd h List.not_mem_nil
  · exact ⟨pre, last, List.concat_eq_append⟩

theorem Spaced.le_getLast {times : List Time} {s t : Time} (h : Spaced times) (hs : s ∈ times)
    (ht : times.getLast? = some t) : s ≤ t := by
  obtain ⟨pre, last, rfl⟩ := exists_snoc_of_mem hs
  obtain rfl : last = t := by simpa using ht
  rcases List.mem_append.1 hs with hs | hs
  · have hgap : s + cooldown < last := (List.pairwise_append.1 h).2.2 s hs last (List.mem_singleton_self last)
    unfold cooldown hours Time at *
    omega
  · exact (List.mem_singleton.1 hs).le

/-- A claim more than 24 hours after the last is so after every one. -/
theorem Spaced.snoc {start : Option Time × Nat} {times : List Time} (h : Spaced times) {now : Time}
    (hnow : cooling now (Krishi.settled start times).1 = false) : Spaced (times ++ [now]) := by
  refine List.pairwise_append.2 ⟨h, List.pairwise_singleton _ _, fun s hs t ht => ?_⟩
  obtain rfl := List.mem_singleton.1 ht
  obtain ⟨pre, last, rfl⟩ := exists_snoc_of_mem hs
  have hlast : last < t - cooldown := by
    rw [settled_snoc] at hnow
    exact not_le.1 (of_decide_eq_false hnow)
  have hle : s ≤ last := h.le_getLast hs (by rw [List.getLast?_append]; rfl)
  exact lt_sub_iff_add_lt.1 (hle.trans_lt hlast)

/-- A time is spaced from itself by nothing, so a check sends an alert one message at most. -/
theorem Spaced.replicate_le {times : List Time} {t : Time} {k : Nat} (h : Spaced (times ++ List.replicate k t)) :
    k ≤ 1 := by
  match k with
  | 0 => exact Nat.zero_le 1
  | 1 => exact le_rfl
  | k + 2 =>
    have hgap : t + cooldown < t := (List.pairwise_cons.1 (List.pairwise_append.1 h).2.1).1 t List.mem_cons_self
    unfold cooldown hours Time at hgap
    omega

namespace Held

variable {start : Option Time × Nat} {v : View} {now : Time} {ls : Multiset (Time × Standing)} {σ : Standing}
  {last : Option Time} {count : Nat}

/-! ## Who holds the alert -/

/-- Somebody's claim is too recent for every run in flight, so a run that may claim knows that nobody holds the alert. -/
theorem free_of_not_cooling {m : Option Time × Nat} (h : Held start v ls) (hnow : now ≤ v.clock)
    (hmark : v.mark = some m) (hcool : cooling now m.1 = false) : ls.countP (fun x => x.2.holds) = 0 := by
  by_contra hne
  obtain ⟨⟨claimed, σ⟩, hx, hσ⟩ := Multiset.countP_pos.1 (Nat.pos_of_ne_zero hne)
  cases σ with
  | holder last count =>
    obtain ⟨-, hclaim, -⟩ := h.fits _ hx
    obtain rfl := Option.some.inj (hmark.symm.trans hclaim)
    have hold : claimed < now - cooldown := not_le.1 (of_decide_eq_false hcool)
    have hin : v.clock ≤ claimed + cooldown := (h.inTime _ hx).2
    exact absurd (hnow.trans hin) (not_le.2 (lt_sub_iff_add_lt.1 hold))
  | _ => cases hσ

theorem countP_tail (h : Held start v ((now, σ) ::ₘ ls)) : ls.countP (fun x => x.2.holds) ≤ 1 :=
  (Multiset.countP_le_of_le _ (Multiset.le_cons_self _ _)).trans h.one

/-- Nobody else holds an alert that one run holds. -/
theorem others_free (h : Held start v ((now, .holder last count) ::ₘ ls)) : ls.countP (fun x => x.2.holds) = 0 := by
  have := h.one
  rw [Multiset.countP_cons_of_pos _ (by rfl)] at this
  omega

/-- What a run that does not hold the alert knows does not depend on the columns. -/
theorem fits_of_free {v' : View} (hfits : ∀ x ∈ ls, x.2.Fits start v x.1)
    (hfree : ls.countP (fun x => x.2.holds) = 0) (htimes : v'.times = v.times) : ∀ x ∈ ls, x.2.Fits start v' x.1 := by
  intro x hx
  have hfit := hfits x hx
  have hσ := Multiset.countP_eq_zero.1 hfree x hx
  cases hx2 : x.2 with
  | holder last count => exact absurd (by rw [hx2]; rfl) hσ
  | reader last count =>
    rw [hx2] at hfit
    simpa only [Standing.Fits, htimes] using hfit
  | _ => trivial

theorem exists_mark (h : Held start v ls) : ∃ m, v.mark = some m := by
  by_cases h0 : ls.countP (fun x => x.2.holds) = 0
  · exact ⟨_, h.settled h0⟩
  · obtain ⟨⟨claimed, σ⟩, hx, hσ⟩ := Multiset.countP_pos.1 (Nat.pos_of_ne_zero h0)
    cases σ with
    | holder last count => exact ⟨_, (h.fits _ hx).2.1⟩
    | _ => cases hσ

/-! ## What a run does -/

/-- One run changes its standing, and with it the columns or the messages. -/
theorem change {v' : View} {σ' : Standing} (h : Held start v ((now, σ) ::ₘ ls)) (hspaced : Spaced v'.times)
    (hclock : v'.clock = v.clock) (hfit : σ'.Fits start v' now) (hfits : ∀ x ∈ ls, x.2.Fits start v' x.1)
    (hone : ((now, σ') ::ₘ ls).countP (fun x => x.2.holds) ≤ 1)
    (hsettled : ((now, σ') ::ₘ ls).countP (fun x => x.2.holds) = 0 →
      v'.mark = some (Krishi.settled start v'.times)) : Held start v' ((now, σ') ::ₘ ls) where
  spaced := hspaced
  inTime := by
    intro x hx
    rw [InTime, hclock]
    rcases Multiset.mem_cons.1 hx with rfl | hx
    · exact h.inTime (now, σ) (Multiset.mem_cons_self _ _)
    · exact h.inTime x (Multiset.mem_cons_of_mem hx)
  fits := by
    intro x hx
    rcases Multiset.mem_cons.1 hx with rfl | hx
    · exact hfit
    · exact hfits x hx
  one := hone
  settled := hsettled

theorem countP_cons_free (hσ : σ.holds = false) :
    ((now, σ) ::ₘ ls).countP (fun x => x.2.holds) = ls.countP (fun x => x.2.holds) :=
  Multiset.countP_cons_of_neg _ (by simp [hσ])

theorem start_run (h : Held start v ls) (hnow : now = v.clock) : Held start v ((now, .unread) ::ₘ ls) where
  spaced := h.spaced
  inTime := by
    intro x hx
    rcases Multiset.mem_cons.1 hx with rfl | hx
    · subst hnow
      refine ⟨le_rfl, ?_⟩
      unfold cooldown hours Time
      omega
    · exact h.inTime x hx
  fits := by
    intro x hx
    rcases Multiset.mem_cons.1 hx with rfl | hx
    · trivial
    · exact h.fits x hx
  one := by
    rw [countP_cons_free rfl]
    exact h.one
  settled := by
    rw [countP_cons_free rfl]
    exact h.settled

theorem finish (h : Held start v ((now, σ) ::ₘ ls)) (hσ : σ.holds = false) : Held start v ls where
  spaced := h.spaced
  inTime := fun x hx => h.inTime x (Multiset.mem_cons_of_mem hx)
  fits := fun x hx => h.fits x (Multiset.mem_cons_of_mem hx)
  one := h.countP_tail
  settled := fun h0 => h.settled (by rwa [countP_cons_free hσ])

/-- The clock goes on, but not past the time a run in flight has. -/
theorem tick {clock : Time} (h : Held start v ls) (hclock : v.clock ≤ clock)
    (hin : ∀ x ∈ ls, clock ≤ x.1 + cooldown) : Held start { v with clock := clock } ls where
  spaced := h.spaced
  inTime := fun x hx => ⟨(h.inTime x hx).1.trans hclock, hin x hx⟩
  fits := h.fits
  one := h.one
  settled := h.settled

/-- A run gives the alert up, having done nothing to it. -/
theorem leave (h : Held start v ((now, σ) ::ₘ ls)) (hσ : σ.holds = false) : Held start v ((now, .out) ::ₘ ls) := by
  have htail := h.finish hσ
  exact h.change h.spaced rfl trivial htail.fits (by rw [countP_cons_free rfl]; exact htail.one)
    (by rw [countP_cons_free rfl]; exact htail.settled)

/-- A run that reads columns it may claim over reads the settled ones. -/
theorem read (h : Held start v ((now, .unread) ::ₘ ls)) (hmark : v.mark = some (last, count))
    (hcool : cooling now last = false) : Held start v ((now, .reader last count) ::ₘ ls) := by
  have htail := h.finish rfl
  have hfree := htail.free_of_not_cooling (h.inTime _ (Multiset.mem_cons_self _ _)).1 hmark hcool
  have hsettled := htail.settled hfree
  refine h.change h.spaced rfl (Or.inl ?_) htail.fits ?_ (fun _ => hsettled)
  · exact Option.some.inj (hmark.symm.trans hsettled)
  · rw [countP_cons_free rfl]
    exact htail.one

/-- **A run that claims the alert had read its settled columns**, and nobody else holds it. -/
theorem claim {m : Option Time × Nat} (h : Held start v ((now, .reader last count) ::ₘ ls)) (hmark : v.mark = some m)
    (hcool : cooling now m.1 = false) :
    Held start { v with mark := some (some now, count + 1) } ((now, .holder last count) ::ₘ ls) := by
  have htail := h.finish rfl
  have hfree := htail.free_of_not_cooling (h.inTime _ (Multiset.mem_cons_self _ _)).1 hmark hcool
  obtain rfl : m = Krishi.settled start v.times := Option.some.inj (hmark.symm.trans (htail.settled hfree))
  have hread : (last, count) = Krishi.settled start v.times := by
    rcases h.fits _ (Multiset.mem_cons_self _ _) with heq | hrecent
    · exact heq
    · exact absurd hrecent (by simp [hcool])
  have hone : ((now, Standing.holder last count) ::ₘ ls).countP (fun x => x.2.holds) = 1 := by
    rw [Multiset.countP_cons_of_pos _ (by rfl), hfree]
  refine h.change h.spaced rfl ⟨hread, rfl, ?_⟩ (fits_of_free htail.fits hfree rfl) hone.le (fun h0 => by omega)
  rwa [← hread] at hcool

/-- **A successful message settles its claim.** Every other reader is out of time for it. -/
theorem sent (h : Held start v ((now, .holder last count) ::ₘ ls)) :
    Held start { v with times := v.times ++ [now] } ((now, .out) ::ₘ ls) := by
  obtain ⟨hread, hmark, hcool⟩ := h.fits _ (Multiset.mem_cons_self _ _)
  have hin := h.inTime _ (Multiset.mem_cons_self _ _)
  have hfree := h.others_free
  have hspaced : Spaced (v.times ++ [now]) := h.spaced.snoc (by rwa [← hread])
  refine h.change hspaced rfl trivial (fun x hx => ?_) ?_ (fun _ => ?_)
  · have hσ := Multiset.countP_eq_zero.1 hfree x hx
    have hx' := h.inTime x (Multiset.mem_cons_of_mem hx)
    cases hx2 : x.2 with
    | holder last count => exact absurd (by rw [hx2]; rfl) hσ
    | reader last count =>
      refine Or.inr ?_
      rw [settled_snoc]
      exact decide_eq_true (sub_le_iff_le_add.2 (hx'.1.trans hin.2))
    | _ => trivial
  · rw [countP_cons_free rfl, hfree]
    exact Nat.zero_le 1
  · rw [settled_snoc, ← hread]
    exact hmark

/-- **A claim taken back leaves the settled columns.** -/
theorem rollback (h : Held start v ((now, .holder last count) ::ₘ ls)) :
    Held start { v with mark := some (last, count) } ((now, .out) ::ₘ ls) := by
  obtain ⟨hread, -, -⟩ := h.fits _ (Multiset.mem_cons_self _ _)
  have hfree := h.others_free
  have hfits := fits_of_free (fun x hx => h.fits x (Multiset.mem_cons_of_mem hx)) hfree
    (rfl : ({ v with mark := some (last, count) } : View).times = v.times)
  refine h.change h.spaced rfl trivial hfits ?_ (fun _ => congrArg some hread)
  rw [countP_cons_free rfl, hfree]
  exact Nat.zero_le 1

end Held
end Krishi
