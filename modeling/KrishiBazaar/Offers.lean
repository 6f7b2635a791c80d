import KrishiBazaar.Marketplace
/-!
# Offers — a farmer's digital offer to a buyer

`app/routers/offers.py`.  The bound on the quantity is checked when the offer is made, its status and its age when it
is patched; `handle_updateOffer` lists the five things a patch does to the database.
-/
namespace Krishi

open Lib

def createOffer (body : OfferCreate) (userId id : Uuid) (now : Time) : Handler OfferOut := do
  let rows ← select lots fun l => l.id = body.lotId
  match rows with
  | [] => throw ⟨404, "lot not found"⟩
  | lot :: _ =>
    if lot.userId ≠ userId then throw ⟨404, "lot not found"⟩
    else if lot.status ≠ .open ∧ lot.status ≠ .offered then throw ⟨409, "lot is not open for offers"⟩
    else if lot.quantityQtl < body.quantityQtl then throw ⟨400, "offer quantity exceeds lot quantity"⟩
    else
      let res ← insert offers
        { id := id
          lotId := body.lotId
          buyerId := body.buyerId
          userId := userId
          pricePerQtl := body.pricePerQtl
          quantityQtl := body.quantityQtl
          status := .pending
          createdAt := now
          updatedAt := now }
      match res with
      | [] => throw ⟨400, "could not create offer"⟩
      | offer :: _ =>
        let _ ← update lots (fun l => l.id = body.lotId) (Lot.setStatus .offered)
        pure (withExpiry offer offerTtlHours)

/-- **What making an offer does**: nothing, or it stores a pending offer on a lot of the caller's that is open or
offered, for no more than the lot holds, and marks the lot offered. -/
theorem createOffer_cases (o : RowOrder) (body : OfferCreate) (userId id : Uuid) (now : Time) (db : DB) :
    (handle o (createOffer body userId id now) db).2 = db ∨
      ∃ lot offer db', db.lots.get? offer.lotId = some lot ∧ lot.userId = userId ∧
        (lot.status = .open ∨ lot.status = .offered) ∧ offer.quantityQtl ≤ lot.quantityQtl ∧ offer.id = id ∧
        offer.userId = userId ∧ offer.status = .pending ∧ offer.createdAt = now ∧
        offers.insert? db offer = .ok db' ∧
        (handle o (createOffer body userId id now) db).2 = db'.setLotStatus offer.lotId .offered := by
  unfold createOffer
  cases hl : db.lots.get? body.lotId with
  | none => simp [lots, hl]
  | some lot =>
    by_cases hu : lot.userId = userId
    · by_cases hs : lot.status ≠ .open ∧ lot.status ≠ .offered
      · simp [lots, hl, hu, hs]
      · by_cases hq : lot.quantityQtl < body.quantityQtl
        · simp [lots, hl, hu, hs, hq]
        · generalize ho : ({ id := id, lotId := body.lotId, .. } : Offer) = offer
          cases hi : offers.insert? db offer with
          | error e =>
            refine Or.inl ?_
            simp [lots, hl, hu, hs, hq, hi]
          | ok db' =>
            refine Or.inr ⟨lot, offer, db', ?_⟩
            subst ho
            refine ⟨hl, hu, ?_, not_lt.1 hq, rfl, rfl, rfl, rfl, hi, ?_⟩
            · by_contra hn
              exact hs (not_or.1 hn)
            · simp [lots, hl, hu, hs, hq, hi, DB.setLotStatus]
    · simp [lots, hl, hu]

/-- What a patched offer means for its lot. -/
def patchLot (offer : Offer) : OfferStatus → Handler Unit
  | .accepted => do
    let _ ← update lots (fun l => l.id = offer.lotId) (Lot.setStatus .matched)
    pure ()
  | .rejected | .expired => do
    let _ ← reopenLotIfIdle offer.lotId
    pure ()
  | .pending => pure ()

def updateOffer (offerId : Uuid) (body : OfferUpdate) (userId : Uuid) (now : Time) : Handler OfferOut := do
  let rows ← select offers fun x => x.id = offerId ∧ x.userId = userId
  match rows with
  | [] => throw ⟨404, "offer not found or access denied"⟩
  | current :: _ =>
    if current.status = .pending ∧ offerIsStale current now offerTtlHours then
      let _ ← update offers (fun x => x.id = offerId) (Offer.setStatus .expired now)
      let _ ← reopenLotIfIdle current.lotId
      throw ⟨409, "offer expired"⟩
    else if body.status = .accepted ∧ current.status ≠ .pending then
      throw ⟨409, s!"cannot accept a {current.status.text} offer"⟩
    else
      let res ← update offers (fun x => x.id = offerId ∧ x.userId = userId) (Offer.setStatus body.status now)
      match res with
      | [] => throw ⟨404, "offer not found or access denied"⟩
      | offer :: _ =>
        patchLot offer body.status
        pure (withExpiry offer offerTtlHours)

namespace DB

/-- An offer of the lot put in a status, and the lot with it. -/
def patchOffer (db : DB) (offer : Offer) (s : OfferStatus) (now : Time) : DB :=
  match s with
  | .accepted => (db.setOfferStatus offer.id .accepted now).setLotStatus offer.lotId .matched
  | .rejected => reopened (db.setOfferStatus offer.id .rejected now) offer.lotId
  | .expired => reopened (db.setOfferStatus offer.id .expired now) offer.lotId
  | .pending => db.setOfferStatus offer.id .pending now

end DB

theorem handle_patchLot (o : RowOrder) (offer : Offer) (s : OfferStatus) (now : Time) (db : DB) :
    handle o (patchLot ((Offer.setStatus s now).apply offer) s) (db.setOfferStatus offer.id s now)
      = (.ok (), db.patchOffer offer s now) := by
  cases s with
  | accepted => rw [patchLot, handle_bind, handle_update]; rfl
  | rejected => rw [patchLot, handle_bind, handle_reopenLotIfIdle]; rfl
  | expired => rw [patchLot, handle_bind, handle_reopenLotIfIdle]; rfl
  | pending => rfl

/-- What a patch of the caller's offer leaves: a stale offer is expired instead, and only a pending one is accepted. -/
def patched (db : DB) (offer : Offer) (s : OfferStatus) (now : Time) : DB :=
  if offerIsStale offer now offerTtlHours then db.patchOffer offer .expired now
  else if s = .accepted ∧ offer.status ≠ .pending then db
  else db.patchOffer offer s now

theorem handle_updateOffer_own {o : RowOrder} {offerId : Uuid} {body : OfferUpdate} {userId : Uuid} {now : Time}
    {db : DB} {offer : Offer} (hx : db.offers.get? offerId = some offer) (hu : offer.userId = userId) :
    (handle o (updateOffer offerId body userId now) db).2 = patched db offer body.status now := by
  obtain rfl := Table.key_of_get? hx
  unfold updateOffer patched
  rw [handle_bind, handle_select_own (t := offers) hx hu]
  by_cases hst : offerIsStale offer now offerTtlHours = true
  · have hp := ((offerIsStale_iff _ _ _).1 hst).1
    simp only [Prog.onOk_ok, hp, hst, and_self, if_true, handle_bind, handle_update, handle_reopenLotIfIdle,
      handle_throw]
    rfl
  · by_cases hacc : body.status = .accepted ∧ offer.status ≠ .pending
    · simp [hst, hacc]
    · have hg : ¬ (offer.status = .pending ∧ offerIsStale offer now offerTtlHours = true) := fun h => hst h.2
      have hp : handle o (update offers (fun x => x.id = offer.id ∧ x.userId = userId)
          (Offer.setStatus body.status now)) db
            = (.ok [(Offer.setStatus body.status now).apply offer], db.setOfferStatus offer.id body.status now) :=
        handle_update_own hx hu
      simp only [Prog.onOk_ok, if_neg hg, if_neg hacc, if_neg hst, handle_bind, hp, handle_patchLot, handle_pure]

theorem handle_updateOffer_other {o : RowOrder} {offerId : Uuid} {body : OfferUpdate} {userId : Uuid} {now : Time}
    {db : DB} (h : ∀ x ∈ db.offers.get? offerId, x.userId ≠ userId) :
    (handle o (updateOffer offerId body userId now) db).2 = db := by
  unfold updateOffer
  rw [handle_bind, handle_select_other (t := offers) h]
  rfl

end Krishi
