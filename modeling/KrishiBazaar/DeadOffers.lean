import KrishiBazaar.Moves
/-!
# DeadOffers — what an accepted offer has been through

An offer that was rejected or has expired is dead.  `update_offer` accepts only a pending offer that is at most 48 hours
old, but it also sets a dead offer back to pending (`Revives`).  The age holds of every acceptance; that the offer was
never dead holds along the runs in which no request revives one (`accepted_never_dead`).
-/
namespace Krishi

open Lib

def Offer.isDead (x : Offer) : Prop := x.status = .rejected ∨ x.status = .expired

/-- The request puts a dead offer back to pending. -/
def Revives (db : DB) (e : Event) : Prop :=
  ∃ x body, e.req = .updateOffer x.id body ∧ body.status = .pending ∧ db.offers.get? x.id = some x ∧
    x.userId = e.user ∧ x.isDead

/-- The request turns the offer of the id accepted. -/
def TurnsAccepted (db : DB) (e : Event) (k : Uuid) (x : Offer) : Prop :=
  db.offers.get? k = some x ∧ x.status ≠ .accepted ∧
    ∃ x', (step db e).offers.get? k = some x' ∧ x'.status = .accepted

/-- Every dead offer of the one database is dead in the other. -/
def StaysDead (db db' : DB) : Prop :=
  ∀ k x, db.offers.get? k = some x → x.isDead → ∃ x', db'.offers.get? k = some x' ∧ x'.isDead

theorem StaysDead.refl (db : DB) : StaysDead db db := fun _ x hx hd => ⟨x, hx, hd⟩

theorem StaysDead.trans (db db' db'' : DB) (h : StaysDead db db') (h' : StaysDead db' db'') : StaysDead db db'' := by
  intro k x hx hd
  obtain ⟨x', hx', hd'⟩ := h k x hx hd
  exact h' k x' hx' hd'

section Step

variable {db : DB} {e : Event}

theorem OfferMove.dead {x x' : Offer} (h : OfferMove e x x') (hx : db.offers.get? x.id = some x) (hd : x.isDead)
    (hr : ¬ Revives db e) : x'.isDead := by
  cases h with
  | same => exact hd
  | @patched body req hu hst hacc =>
    cases hb : body.status with
    | pending => exact absurd ⟨x, body, req, hb, hx, hu, hd⟩ hr
    | accepted =>
      have hp := hacc hb
      rcases hd with h | h <;> rw [h] at hp <;> cases hp
    | rejected => exact Or.inl rfl
    | expired => exact Or.inr rfl
  | timedOut _ _ => exact Or.inr rfl

theorem step_staysDead (h : ¬ Revives db e) : StaysDead db (step db e) := by
  intro k x hx hd
  obtain ⟨x', hx', hm⟩ := (step_change db e).offers.old hx
  obtain rfl := Table.key_of_get? hx
  exact ⟨x', hx', hm.dead hx hd h⟩

/-- **Only a pending offer of at most 48 hours is turned accepted.** -/
theorem TurnsAccepted.live {k : Uuid} {x : Offer} (h : TurnsAccepted db e k x) :
    x.status = .pending ∧ e.now ≤ x.createdAt + hours offerTtlHours := by
  obtain ⟨hx, hn, x', hx', ha⟩ := h
  obtain ⟨x'', hx'', hm⟩ := (step_change db e).offers.old hx
  rw [hx'] at hx''
  obtain rfl := Option.some.inj hx''
  cases hm with
  | same => exact absurd ha hn
  | patched req hu hst hacc =>
    have hp := hacc ha
    have hlt : ¬ (x.status = .pending ∧ hours offerTtlHours < e.now - x.createdAt) := by
      rw [← offerIsStale_iff, hst]
      simp
    refine ⟨hp, ?_⟩
    exact sub_le_iff_le_add'.1 (not_lt.1 (fun h => hlt ⟨hp, h⟩))
  | timedOut _ _ => cases ha

end Step

/-- **An offer is turned accepted within 48 hours of being made and has never been dead**, in a run in which no dead
offer is revived. -/
theorem accepted_never_dead (db : DB) (es : List Event) (h : Along step (fun db e => ¬ Revives db e) db es)
    (pre post : List Event) (e : Event) (hes : es = pre ++ e :: post) (k : Uuid) (x : Offer)
    (ha : TurnsAccepted (after step db pre) e k x) :
    e.now ≤ x.createdAt + hours 48 ∧
      ∀ pre' mid y, pre = pre' ++ mid → (after step db pre').offers.get? k = some y → ¬ y.isDead := by
  obtain ⟨hp, hage⟩ := ha.live
  refine ⟨hage, fun pre' mid y hpre hy hd => ?_⟩
  have hstay := (along_stays StaysDead.refl StaysDead.trans es db).1
    (Along.mono (fun db e => step_staysDead) es db h) pre' mid (e :: post) (by rw [hes, hpre, List.append_assoc])
  rw [← hpre] at hstay
  obtain ⟨x', hx', hd'⟩ := hstay k y hy hd
  rw [ha.1] at hx'
  obtain rfl := Option.some.inj hx'
  rcases hd' with h | h <;> rw [h] at hp <;> cases hp

/-- An offer made and accepted at once. -/
theorem firstOffer_accepted_never_dead :
    (0 : Time) ≤ 0 + hours 48 ∧ ∀ pre' mid y, firstOffer = pre' ++ mid →
      (after step firstDay pre').offers.get? 21 = some y → ¬ y.isDead := by
  refine accepted_never_dead firstDay (firstOffer ++ [.of 1 0 0 (.updateOffer 21 ⟨.accepted⟩)]) ?_ firstOffer []
    (.of 1 0 0 (.updateOffer 21 ⟨.accepted⟩)) rfl 21 ⟨21, 11, 1, 1, 20, 10, .pending, 0, 0⟩
    ⟨by decide +kernel, by decide, ⟨21, 11, 1, 1, 20, 10, .accepted, 0, 0⟩, by decide +kernel, rfl⟩
  refine ⟨?_, ?_, ?_, trivial⟩
  · rintro ⟨x, body, req, -⟩
    cases req
  · rintro ⟨x, body, req, -⟩
    cases req
  · rintro ⟨x, body, req, hb, -⟩
    obtain ⟨-, rfl⟩ := Request.updateOffer.inj req
    cases hb

/-- Rejected, set back to pending, accepted. -/
def revived : List Event :=
  firstOffer ++ [.of 1 0 0 (.updateOffer 21 ⟨.rejected⟩), .of 1 0 0 (.updateOffer 21 ⟨.pending⟩)]

theorem revived_accepted :
    ((after step firstDay (revived.take 3)).offers.get? 21).map (·.status) = some .rejected ∧
      ((after step firstDay revived).offers.get? 21).map (·.status) = some .pending ∧
      ((step (after step firstDay revived) (.of 1 0 0 (.updateOffer 21 ⟨.accepted⟩))).offers.get? 21).map (·.status)
        = some .accepted := by
  decide +kernel

end Krishi
