import KrishiBazaar.Moves
/-!
# Settlement — paid payments, their offers and their lots

A paid payment should stand on an accepted offer whose lot is sold.  `mark_paid` sells the lot but does not look at the
offer, and later requests can still patch the offer or the lot of a paid payment.  Four kinds of request break it
(`Unsettles`), and in every state a run reaches it holds exactly as long as none of them is made
(`settled_along_iff`).
-/
namespace Krishi

open Lib

def Settled (db : DB) : Prop :=
  ∀ k p, db.payments.get? k = some p → p.status = .paid →
    ∃ x l, db.offers.get? p.offerId = some x ∧ x.status = .accepted ∧ db.lots.get? x.lotId = some l ∧ l.status = .sold

/-- The offer has a paid payment. -/
def HasPaid (db : DB) (offerId : Uuid) : Prop :=
  ∃ k p, db.payments.get? k = some p ∧ p.offerId = offerId ∧ p.status = .paid

/-- The requests that take a paid payment's offer or lot from under it. -/
inductive Unsettles (db : DB) (e : Event) : Prop
  | payUnaccepted {p : Payment} {x : Offer} (pays : Pays db e p) (hx : db.offers.get? p.offerId = some x)
      (unaccepted : x.status ≠ .accepted)
  | moveOffer {x : Offer} {body : OfferUpdate} (req : e.req = .updateOffer x.id body)
      (hx : db.offers.get? x.id = some x) (user : x.userId = e.user) (accepted : x.status = .accepted)
      (away : body.status ≠ .accepted) (paid : HasPaid db x.id)
  | withdrawLot {l : Lot} {x : Offer} (req : e.req = .withdrawLot l.id) (hl : db.lots.get? l.id = some l)
      (user : l.userId = e.user) (hx : db.offers.get? x.id = some x) (lot : x.lotId = l.id) (paid : HasPaid db x.id)
  | acceptOther {x y : Offer} (accepts : Accepts db e y) (hx : db.offers.get? x.id = some x) (lot : x.lotId = y.lotId)
      (paid : HasPaid db x.id)

section Step

variable {db : DB} {e : Event}

theorem OfferMove.settled {x x' : Offer} (h : OfferMove e x x') (hx : db.offers.get? x.id = some x)
    (ha : x.status = .accepted) (hp : HasPaid db x.id) (hu : ¬ Unsettles db e) : x'.status = .accepted := by
  cases h with
  | same => exact ha
  | @patched body hr hxu hst hacc =>
    by_cases hb : body.status = .accepted
    · exact hb
    · exact absurd (.moveOffer hr hx hxu ha hb hp) hu
  | timedOut hpend _ =>
    rw [ha] at hpend
    cases hpend

theorem LotMove.settled {l l' : Lot} {x : Offer} (h : LotMove db e l l') (hl : db.lots.get? l.id = some l)
    (hs : l.status = .sold) (hx : db.offers.get? x.id = some x) (hxl : x.lotId = l.id) (hp : HasPaid db x.id)
    (hu : ¬ Unsettles db e) : l'.status = .sold := by
  cases h with
  | same => exact hs
  | pooled hr hpl ho => rw [hs] at ho; cases ho
  | graded body hlu => exact hs
  | withdrawn hr hlu => exact absurd (.withdrawLot hr hl hlu hx hxl hp) hu
  | offered hlu ho => simp [hs] at ho
  | matched hy hyl => exact absurd (.acceptOther hy hx (hxl.trans hyl.symm) hp) hu
  | reopened ho _ => rw [hs] at ho; cases ho
  | sold => rfl

theorem settled_step (hi : Linked db) (hs : Settled db) (hu : ¬ Unsettles db e) : Settled (step db e) := by
  have hc := step_change db e
  intro k p' hp' hpaid
  rcases hc.payments.new hp' with ⟨p, hp, hm⟩ | ⟨-, -, -, hpend, -⟩
  · obtain rfl := Table.key_of_get? hp
    -- the offer and the lot of a payment that was paid before
    have hkept : p.status = .paid → p'.offerId = p.offerId → ∃ x l, (step db e).offers.get? p'.offerId = some x ∧
        x.status = .accepted ∧ (step db e).lots.get? x.lotId = some l ∧ l.status = .sold := by
      intro hpd hpo
      obtain ⟨x, l, hx, ha, hl, hsold⟩ := hs _ p hp hpd
      obtain ⟨x', hx', hxm⟩ := hc.offers.old hx
      obtain ⟨l', hl', hlm⟩ := hc.lots.old hl
      have hxid := Table.key_of_get? hx
      have hlid := Table.key_of_get? hl
      have hpx : HasPaid db x.id := ⟨_, p, hp, hxid.symm, hpd⟩
      rw [← hxid] at hx
      refine ⟨x', l', by rw [hpo, hx'], hxm.settled hx ha hpx hu, ?_, ?_⟩
      · rw [hxm.sameOffer.keeps.1, hl']
      · exact hlm.settled (hlid ▸ hl) hsold hx hlid.symm hpx hu
    cases hm with
    | same => exact hkept hpaid rfl
    | paid hpays hsold =>
      obtain ⟨x, hx, -⟩ := hi.paymentOffer _ p hp
      have ha : x.status = .accepted := by
        by_contra hn
        exact hu (.payUnaccepted hpays hx hn)
      obtain ⟨l, hl, -⟩ := hi.offerLot _ x hx
      obtain ⟨x', hx', hxm⟩ := hc.offers.old hx
      obtain ⟨l', hl', -⟩ := hc.lots.old hl
      have hsame : x' = x := by
        cases hxm with
        | same => rfl
        | patched hr' => rw [hpays.req] at hr'; cases hr'
        | timedOut _ hcause =>
          rw [hpays.req] at hcause
          rcases hcause with h | ⟨_, h, _⟩ <;> cases h
      subst hsame
      exact ⟨x', l', hx', ha, hl', hsold x' l' hx hl'⟩
    | failed _ _ => cases hpaid
    | disputed _ => cases hpaid
  · rw [hpaid] at hpend
    cases hpend

/-- The offer of a paid payment keeps its lot, so a request that leaves the lot unsold unsettles the payment. -/
theorem not_settled_of_lot {x : Offer} (hx : db.offers.get? x.id = some x) (hp : HasPaid db x.id)
    (hpay : (step db e).payments = db.payments)
    (hl : ∀ l', (step db e).lots.get? x.lotId = some l' → l'.status ≠ .sold) : ¬ Settled (step db e) := by
  intro hs
  obtain ⟨k, p, hp, hpo, hpd⟩ := hp
  obtain ⟨x', l', hx', -, hl', hsold⟩ := hs k p (hpay ▸ hp) hpd
  obtain ⟨x'', hx'', hm⟩ := (step_change db e).offers.old hx
  rw [hpo, hx''] at hx'
  obtain rfl := Option.some.inj hx'
  rw [hm.sameOffer.keeps.1] at hl'
  exact hl l' hl' hsold

theorem Unsettles.breaks (h : Unsettles db e) (hi : Linked db) : ¬ Settled (step db e) := by
  cases h with
  | @payUnaccepted p x hp hx hn =>
    intro hs
    obtain ⟨l, hl, -⟩ := hi.offerLot _ x hx
    obtain ⟨y, hy⟩ := step_markPaid hp hx hl
    rw [hy] at hs
    obtain ⟨x', -, hx', ha, -⟩ := hs p.id ((Payment.setPaid e.now).apply p) (by simp [hp.hp]) rfl
    rw [DB.rescored_offers, DB.setLotStatus_offers, DB.setPayment_offers] at hx'
    obtain rfl := Option.some.inj (hx.symm.trans hx')
    exact hn ha
  | @moveOffer x body hr hx hu ha hb hp =>
    intro hs
    obtain ⟨k, p, hp, hpo, hpd⟩ := hp
    have hst : offerIsStale x e.now offerTtlHours = false := by simp [offerIsStale, ha]
    rw [step_updateOffer hr hx hu] at hs
    obtain ⟨x', -, hx', ha', -⟩ := hs k p (by rw [patched_payments]; exact hp) hpd
    rw [hpo] at hx'
    simp only [patched, hst, Bool.false_eq_true, if_false, hb, false_and, patchOffer_offers, DB.get?_setOfferStatus, hx,
      Option.map_some, if_true, Option.some.injEq] at hx'
    subst hx'
    exact hb ha'
  | @withdrawLot l x hr hl hu hx hxl hp =>
    refine not_settled_of_lot hx hp (by rw [step_withdrawLot hr hl hu]; rfl) (fun l' hl' => ?_)
    rw [step_withdrawLot hr hl hu, DB.get?_setLotStatus, hxl, hl] at hl'
    obtain rfl : { l with status := .withdrawn } = l' := by simpa using hl'
    simp
  | @acceptOther x y hy hx hxl hp =>
    have hstep := step_accept hy
    refine not_settled_of_lot hx hp (by rw [hstep]; rfl) (fun l' hl' => ?_)
    rw [hstep, DB.get?_setLotStatus, hxl] at hl'
    obtain ⟨l, -, rfl⟩ := Option.map_eq_some_iff.1 hl'
    simp

theorem settled_step_iff (hi : Linked db) (hs : Settled db) : Settled (step db e) ↔ ¬ Unsettles db e :=
  ⟨fun h hu => hu.breaks hi h, settled_step hi hs⟩

end Step

theorem Start.settled {db : DB} (h : Start db) : Settled db := by
  intro k p hp
  rw [h.payments] at hp
  cases hp

/-- **In every state of a run every paid payment has an accepted offer and a sold lot exactly when no request of the
run unsettles one.** -/
theorem settled_along_iff (db : DB) (h : Start db) (es : List Event) :
    (∀ pre post, es = pre ++ post → Settled (after step db pre)) ↔ Along step (fun db e => ¬ Unsettles db e) db es :=
  along_inv_iff step_linked (fun _ _ => settled_step_iff) es db h.linked h.settled

theorem settled_along_firstSale :
    (∀ pre post, firstSale = pre ++ post → Settled (after step firstDay pre)) ↔
      Along step (fun db e => ¬ Unsettles db e) firstDay firstSale :=
  settled_along_iff firstDay start_firstDay firstSale

/-- The payment is made while the offer is accepted, and marked paid after the offer was rejected. -/
def rejectedThenPaid : List Event :=
  firstOffer ++
    [.of 1 0 0 (.updateOffer 21 ⟨.accepted⟩), .of 1 31 0 (.createPayment (onionPayment none)),
     .of 1 0 0 (.updateOffer 21 ⟨.rejected⟩), .of 1 0 0 (.markPaid 31)]

theorem rejectedThenPaid_not_settled : ¬ Settled (after step firstDay rejectedThenPaid) := by
  intro h
  obtain ⟨x, l, hx, ha, -⟩ := h 31 ⟨31, 21, 1, 200, .paid, none, some 0, 0⟩ (by decide +kernel) rfl
  have hr : (after step firstDay rejectedThenPaid).offers.get? 21 = some ⟨21, 11, 1, 1, 20, 10, .rejected, 0, 0⟩ := by
    decide +kernel
  rw [hr] at hx
  obtain rfl := Option.some.inj hx
  cases ha

end Krishi
