import KrishiBazaar.Lib.Total
import KrishiBazaar.Moves
/-!
# Oversell — the accepted quantity of a lot

An offer is bounded by its lot when it is made, and offers on one lot may be made side by side; accepting one looks at
that offer alone.  The accepted quantity of a lot is a sum over all its offers, and accepting is the only request that
raises it (`Change.acceptedQuantity_le`), so no lot is oversold in a run exactly when every acceptance found room for
its offer (`notOversold_along_iff`).
-/
namespace Krishi

open Lib

/-- What an offer takes from a lot. -/
def Offer.takes (lotId : Uuid) (x : Offer) : ℚ := if x.status = .accepted ∧ x.lotId = lotId then x.quantityQtl else 0

def acceptedQuantity (db : DB) (lotId : Uuid) : ℚ := db.offers.total (Offer.takes lotId)

def NotOversold (db : DB) : Prop := ∀ k l, db.lots.get? k = some l → acceptedQuantity db k ≤ l.quantityQtl

/-- The request accepts an offer for more than its lot has left beside the offers accepted before. -/
def Overfills (db : DB) (e : Event) : Prop :=
  ∃ x l, Accepts db e x ∧ db.lots.get? x.lotId = some l ∧
    l.quantityQtl < acceptedQuantity db x.lotId + x.quantityQtl

section Step

variable {db db' : DB} {e : Event}

theorem Offer.takes_nonneg {x : Offer} (h : x.check = true) (k : Uuid) : 0 ≤ x.takes k := by
  simp only [Offer.check, decide_eq_true_eq] at h
  unfold Offer.takes
  split
  · exact h.2.le
  · exact le_rfl

theorem Offer.takes_of_ne {x : Offer} (h : x.status ≠ .accepted) (k : Uuid) : x.takes k = 0 := by
  simp [Offer.takes, h]

/-- Taking an offer out of the accepted ones lowers the sum. -/
theorem patchOffer_acceptedQuantity_le (x : Offer) {s : OfferStatus} (hs : s ≠ .accepted) (now : Time) (k : Uuid) :
    acceptedQuantity (db.patchOffer x s now) k ≤ acceptedQuantity db k := by
  unfold acceptedQuantity
  rw [patchOffer_offers]
  refine Table.total_update_le (fun y hy _ => ?_)
  rw [Offer.takes_of_ne (x := (Offer.setStatus s now).apply y) hs]
  exact Offer.takes_nonneg (db.offers.checked y hy) k

theorem accept_acceptedQuantity {x : Offer} (hx : db.offers.get? x.id = some x) (hp : x.status = .pending) (now : Time)
    (k : Uuid) : acceptedQuantity (db.patchOffer x .accepted now) k
      = acceptedQuantity db k + if x.lotId = k then x.quantityQtl else 0 := by
  unfold acceptedQuantity
  rw [patchOffer_offers]
  have h := Table.total_update_key hx (Offer.setStatus .accepted now) (Offer.takes k)
  rw [Offer.takes_of_ne (by simp [hp]), add_zero] at h
  refine h.trans ?_
  simp [Offer.takes, Offer.setStatus]

theorem patched_acceptedQuantity_le {x : Offer} {body : OfferUpdate} (req : e.req = .updateOffer x.id body)
    (hx : db.offers.get? x.id = some x) (user : x.userId = e.user) {k : Uuid}
    (hn : ∀ x, Accepts db e x → x.lotId ≠ k) :
    acceptedQuantity (patched db x body.status e.now) k ≤ acceptedQuantity db k := by
  unfold patched
  split
  · exact patchOffer_acceptedQuantity_le x (by simp) e.now k
  · rename_i hst
    split
    · exact le_rfl
    · rename_i hacc
      by_cases hb : body.status = .accepted
      · have hp : x.status = .pending := by
          by_contra h
          exact hacc ⟨hb, h⟩
        have hne : x.lotId ≠ k := hn x ⟨⟨body, req, hb⟩, hx, user, hp, by simpa using hst⟩
        rw [hb, accept_acceptedQuantity hx hp, if_neg hne, add_zero]
      · exact patchOffer_acceptedQuantity_le x hb e.now k

/-- **Only accepting an offer on a lot raises the lot's accepted quantity.** -/
theorem Change.acceptedQuantity_le (h : Change db e db') {k : Uuid} (hn : ∀ x, Accepts db e x → x.lotId ≠ k) :
    acceptedQuantity db' k ≤ acceptedQuantity db k := by
  have hsame : ∀ {db' : DB}, db'.offers = db.offers → acceptedQuantity db' k ≤ acceptedQuantity db k := by
    intro db' h
    rw [acceptedQuantity, h]
    exact le_rfl
  cases h with
  | nothing => exact le_rfl
  | lotCreated hu ho hi => obtain ⟨hk, hc, -, rfl⟩ := Tab.insert?_ok hi; exact hsame rfl
  | lotsPooled hr hp => obtain ⟨hk, hc, -, rfl⟩ := Tab.insert?_ok hp.inserted; exact hsame rfl
  | lotGraded hl hu => exact hsame rfl
  | lotWithdrawn hr hl hu => exact hsame rfl
  | @offerCreated lot offer db' hl hu hs hq hou hp hi =>
    have ht : acceptedQuantity (db'.setLotStatus offer.lotId .offered) k = acceptedQuantity db k + offer.takes k :=
      Table.total_insert? hi _
    rw [ht, Offer.takes_of_ne (by simp [hp]), add_zero]
  | offerPatched hr hx hu => exact patched_acceptedQuantity_le hr hx hu hn
  | paymentCreated hx hu ha hpu hp hid hs hi => obtain ⟨hk, hc, -, rfl⟩ := Tab.insert?_ok hi; exact hsame rfl
  | paid hp => exact hsame (by simp)
  | failed hp hu hs => exact hsame (by simp)
  | disputed hp hu => exact hsame (by simp)
  | bookingCreated hx hu hf hi => obtain ⟨hk, hc, -, rfl⟩ := Tab.insert?_ok hi; exact hsame rfl
  | bookingUpdated hb hu hf => exact hsame rfl
  | offersExpired hr =>
    refine swept_inv (I := fun db' => acceptedQuantity db' k ≤ acceptedQuantity db k) (fun db' x h _ _ => ?_) le_rfl
    exact (patchOffer_acceptedQuantity_le x (by simp) e.now k).trans h

theorem Accepts.acceptedQuantity {x : Offer} (h : Accepts db e x) (k : Uuid) :
    acceptedQuantity (step db e) k = acceptedQuantity db k + if x.lotId = k then x.quantityQtl else 0 := by
  rw [step_accept h]
  exact accept_acceptedQuantity h.hx h.pending e.now k

theorem acceptedQuantity_of_no_offer {k : Uuid} (h : ∀ x ∈ db.offers.rows, x.lotId ≠ k) : acceptedQuantity db k = 0 := by
  unfold acceptedQuantity Table.total
  rw [List.sum_eq_zero]
  intro q hq
  obtain ⟨x, hx, rfl⟩ := List.mem_map.1 hq
  simp [Offer.takes, h x hx]

theorem notOversold_step (hi : Linked db) (hs : NotOversold db) (ho : ¬ Overfills db e) : NotOversold (step db e) := by
  intro k l' hl'
  have hc := step_change db e
  rcases hc.lots.new hl' with ⟨l, hl, hm⟩ | ⟨hnone, -⟩
  · rw [hm.sameLot.keeps.2]
    by_cases hn : ∀ x, Accepts db e x → x.lotId ≠ k
    · exact (hc.acceptedQuantity_le hn).trans (hs k l hl)
    · obtain ⟨x, hx, hxk⟩ : ∃ x, Accepts db e x ∧ x.lotId = k := by simpa using hn
      rw [hx.acceptedQuantity, if_pos hxk]
      subst hxk
      exact not_lt.1 (fun h => ho ⟨x, l, hx, hl, h⟩)
  · have hno : ∀ x ∈ db.offers.rows, x.lotId ≠ k := by
      rintro x hx rfl
      obtain ⟨l, hl, -⟩ := hi.offerLot x.id x (Table.get?_of_mem hx)
      rw [hnone] at hl
      cases hl
    have hle := hc.acceptedQuantity_le (k := k) (fun x hx => hno x (Table.mem_of_get? hx.hx))
    rw [acceptedQuantity_of_no_offer hno] at hle
    have hpos := Table.check_of_get? hl'
    simp only [Lot.check, decide_eq_true_eq] at hpos
    exact hle.trans hpos.1.le

theorem Overfills.oversells (h : Overfills db e) : ¬ NotOversold (step db e) := by
  obtain ⟨x, l, hx, hl, hlt⟩ := h
  intro hs
  obtain ⟨l', hl', hm⟩ := (step_change db e).lots.old hl
  have := hs x.lotId l' hl'
  rw [hx.acceptedQuantity, if_pos rfl, hm.sameLot.keeps.2] at this
  exact absurd hlt (not_lt.2 this)

theorem notOversold_step_iff (hi : Linked db) (hs : NotOversold db) : NotOversold (step db e) ↔ ¬ Overfills db e :=
  ⟨fun h ho => ho.oversells h, notOversold_step hi hs⟩

end Step

theorem Start.notOversold {db : DB} (h : Start db) : NotOversold db := by
  intro k l hl
  rw [h.lots] at hl
  cases hl

/-- **No lot is oversold in any state of a run exactly when every offer accepted in the run found room in its lot.** -/
theorem notOversold_along_iff (db : DB) (h : Start db) (es : List Event) :
    (∀ pre post, es = pre ++ post → NotOversold (after step db pre)) ↔
      Along step (fun db e => ¬ Overfills db e) db es :=
  along_inv_iff step_linked (fun _ _ => notOversold_step_iff) es db h.linked h.notOversold

theorem notOversold_along_firstSale :
    (∀ pre post, firstSale = pre ++ post → NotOversold (after step firstDay pre)) ↔
      Along step (fun db e => ¬ Overfills db e) firstDay firstSale :=
  notOversold_along_iff firstDay start_firstDay firstSale

/-- Two offers of the whole lot, both accepted. -/
def soldTwice : List Event :=
  firstOffer ++
    [.of 1 22 0 (.createOffer wholeOffer), .of 1 0 0 (.updateOffer 21 ⟨.accepted⟩),
     .of 1 0 0 (.updateOffer 22 ⟨.accepted⟩)]

/-- A lot of 10 quintals with 20 accepted. -/
theorem soldTwice_oversold :
    ((after step firstDay soldTwice).lots.get? 11).map (·.quantityQtl) = some 10 ∧
      acceptedQuantity (after step firstDay soldTwice) 11 = 20 := by
  decide +kernel

end Krishi
