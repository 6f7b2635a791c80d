import KrishiBazaar.Marketplace
/-!
# Payments — settling an accepted offer

`app/routers/payments.py`.  A payment is made under an accepted offer, but `mark_paid` reads only the payment; it closes
the offer's lot, and puts the payment back if there is no lot to close (`handle_closeLot_missing`).
-/
namespace Krishi

open Lib

/-! ## Writes -/

def Payment.setStatus (s : PaymentStatus) : Patch Payment.id Payment.check :=
  ⟨fun p => { p with status := s }, fun _ => rfl, fun _ h => h⟩

def Payment.setPaid (now : Time) : Patch Payment.id Payment.check :=
  ⟨fun p => { p with status := .paid, paidAt := some now }, fun _ => rfl, fun _ h => h⟩

/-- The status and the time a payment had before. -/
def Payment.putBack (current : Payment) : Patch Payment.id Payment.check :=
  ⟨fun p => { p with status := current.status, paidAt := current.paidAt }, fun _ => rfl, fun _ h => h⟩

namespace DB

def setPayment (db : DB) (paymentId : Uuid) (f : Patch Payment.id Payment.check) : DB :=
  { db with payments := db.payments.update (fun p => p.id = paymentId) f }

/-- A buyer's new grade, if there is one. -/
def rescored (db : DB) : Option (Uuid × Reliability) → DB
  | none => db
  | some x => db.setReliability x.1 x.2

/-- The buyer of an offer rescored. -/
def offerRegraded (db : DB) (offerId : Uuid) : DB := (db.offerBuyer offerId).elim db db.regraded

/-- The lot of an offer, sold. -/
def closeLot (db : DB) (offerId : Uuid) : DB :=
  match db.offers.get? offerId with
  | none => db
  | some offer => db.setLotStatus offer.lotId .sold

variable (db : DB)

@[simp] theorem setPayment_lots (paymentId f) : (db.setPayment paymentId f).lots = db.lots := rfl
@[simp] theorem setPayment_offers (paymentId f) : (db.setPayment paymentId f).offers = db.offers := rfl
@[simp] theorem setPayment_bookings (paymentId f) :
    (db.setPayment paymentId f).logisticsBookings = db.logisticsBookings := rfl

@[simp] theorem rescored_lots (x) : (db.rescored x).lots = db.lots := by cases x <;> rfl
@[simp] theorem rescored_offers (x) : (db.rescored x).offers = db.offers := by cases x <;> rfl
@[simp] theorem rescored_payments (x) : (db.rescored x).payments = db.payments := by cases x <;> rfl
@[simp] theorem rescored_bookings (x) : (db.rescored x).logisticsBookings = db.logisticsBookings := by cases x <;> rfl

theorem offerRegraded_eq (offerId : Uuid) : ∃ x, db.offerRegraded offerId = db.rescored x := by
  unfold offerRegraded regraded
  cases db.offerBuyer offerId with
  | none => exact ⟨none, rfl⟩
  | some buyerId =>
    show ∃ x, (db.score buyerId 0).elim db (db.setReliability buyerId) = db.rescored x
    cases db.score buyerId 0 with
    | none => exact ⟨none, rfl⟩
    | some g => exact ⟨some (buyerId, g), rfl⟩

@[simp] theorem closeLot_offers (offerId) : (db.closeLot offerId).offers = db.offers := by
  unfold closeLot; split <;> rfl
@[simp] theorem closeLot_payments (offerId) : (db.closeLot offerId).payments = db.payments := by
  unfold closeLot; split <;> rfl
@[simp] theorem closeLot_bookings (offerId) : (db.closeLot offerId).logisticsBookings = db.logisticsBookings := by
  unfold closeLot; split <;> rfl

@[simp] theorem get?_setPayment (paymentId : Uuid) (f : Patch Payment.id Payment.check) (k : Uuid) :
    (db.setPayment paymentId f).payments.get? k
      = (db.payments.get? k).map (fun p => if k = paymentId then f.apply p else p) := by
  show (db.payments.update _ _).get? k = _
  rw [Table.get?_update]
  cases h : db.payments.get? k with
  | none => rfl
  | some p => simp [Table.key_of_get? h]

/-- Putting a payment back undoes marking it paid. -/
theorem setPayment_putBack {paymentId : Uuid} {current : Payment} (h : db.payments.get? paymentId = some current)
    (now : Time) : (db.setPayment paymentId (Payment.setPaid now)).setPayment paymentId (Payment.putBack current)
      = db := by
  have ht : (db.payments.update (fun p => p.id = paymentId) (Payment.setPaid now)).update
      (fun p => p.id = paymentId) (Payment.putBack current) = db.payments := by
    refine Table.ext_rows ((List.map_map ..).trans ((List.map_congr_left (fun p hp => ?_)).trans (List.map_id' _)))
    by_cases hk : p.id = paymentId
    · have : p = current := Table.eq_of_get? h hp hk
      subst this hk
      simp [Payment.setPaid, Payment.putBack]
    · simp [hk]
  show ({ db with payments := (db.payments.update _ _).update _ _ } : DB) = db
  rw [ht]

end DB

/-- A payment that is neither failed nor disputed. -/
def Payment.isOpen (p : Payment) : Prop := p.status = .pending ∨ p.status = .paid

instance (p : Payment) : Decidable p.isOpen := inferInstanceAs (Decidable (_ ∨ _))

/-! ## The handlers -/

def ownPayment (paymentId userId : Uuid) : Handler Payment := do
  let rows ← select payments fun p => p.id = paymentId ∧ p.userId = userId
  match rows with
  | [] => throw ⟨404, "payment not found"⟩
  | row :: _ => pure row

def rescoreOfferBuyer (offerId : Uuid) : Handler Unit := do
  let offerRows ← select offers fun x => x.id = offerId
  match offerRows with
  | [] => pure ()
  | offer :: _ =>
    let _ ← recomputeBuyerReliability offer.buyerId
    pure ()

def createPayment (body : PaymentCreate) (userId id : Uuid) (now : Time) : Handler Payment := do
  let offerRows ← select offers fun x => x.id = body.offerId
  match offerRows with
  | [] => throw ⟨404, "offer not found"⟩
  | offer :: _ =>
    if offer.userId ≠ userId then throw ⟨404, "offer not found"⟩
    else if offer.status ≠ .accepted then throw ⟨409, "payments require an accepted offer"⟩
    else
      let existing ← select payments fun p => p.offerId = body.offerId ∧ p.userId = userId
      -- the loop returns or raises at the first row that is pending or paid
      match existing.find? (fun p => p.status = .pending ∨ p.status = .paid) with
      | some row =>
        if (∃ r ∈ body.reference, r ≠ "") ∧ row.reference = body.reference then pure row
        else if row.status = .paid then throw ⟨409, "offer already has a paid payment"⟩
        else pure row
      | none =>
        let res ← insert payments
          { id := id
            offerId := body.offerId
            userId := userId
            amount := body.amount
            status := .pending
            reference := body.reference
            paidAt := none
            createdAt := now }
        match res with
        | [] => throw ⟨400, "could not create payment"⟩
        | payment :: _ => pure payment

/-- `mark_paid` from the paid row on: the lot is closed, or the payment put back. -/
def closeLot (current payment : Payment) (paymentId userId : Uuid) : Handler Payment := do
  let offerRows ← select offers fun x => x.id = payment.offerId
  match offerRows with
  | [] =>
    rescoreOfferBuyer payment.offerId
    pure payment
  | offer :: _ =>
    let lotRes ← update lots (fun l => l.id = offer.lotId) (Lot.setStatus .sold)
    if lotRes = [] then
      let _ ← update payments (fun p => p.id = paymentId ∧ p.userId = userId) (Payment.putBack current)
      throw ⟨503, "could not close lot; payment not marked paid"⟩
    else
      rescoreOfferBuyer payment.offerId
      pure payment

def markPaid (paymentId userId : Uuid) (now : Time) : Handler Payment := do
  let current ← ownPayment paymentId userId
  if current.status = .failed ∨ current.status = .disputed then
    throw ⟨409, s!"cannot mark a {current.status.text} payment as paid"⟩
  else
    let res ← update payments (fun p => p.id = paymentId ∧ p.userId = userId) (Payment.setPaid now)
    match res with
    | [] => throw ⟨404, "payment not found"⟩
    | payment :: _ => closeLot current payment paymentId userId

def markFailed (paymentId userId : Uuid) : Handler Payment := do
  let current ← ownPayment paymentId userId
  if current.status = .paid then throw ⟨409, "cannot fail a paid payment"⟩
  else
    let res ← update payments (fun p => p.id = paymentId ∧ p.userId = userId) (Payment.setStatus .failed)
    match res with
    | [] => throw ⟨404, "payment not found"⟩
    | payment :: _ =>
      rescoreOfferBuyer payment.offerId
      pure payment

def markDisputed (paymentId userId : Uuid) : Handler Payment := do
  let _ ← ownPayment paymentId userId
  let res ← update payments (fun p => p.id = paymentId ∧ p.userId = userId) (Payment.setStatus .disputed)
  match res with
  | [] => throw ⟨404, "payment not found"⟩
  | payment :: _ =>
    rescoreOfferBuyer payment.offerId
    pure payment

/-! ## What they do -/

theorem handle_rescoreOfferBuyer (o : RowOrder) (offerId : Uuid) (db : DB) :
    handle o (rescoreOfferBuyer offerId) db = (.ok (), db.offerRegraded offerId) := by
  unfold rescoreOfferBuyer DB.offerRegraded DB.offerBuyer
  rw [handle_bind, handle_select_key, Prog.onOk_ok, show (offers.get db).get? offerId = db.offers.get? offerId from rfl]
  cases db.offers.get? offerId with
  | none => rfl
  | some offer =>
    simp only [Option.toList_some, handle_bind, handle_recomputeBuyerReliability, Prog.onOk_ok, handle_pure]
    rfl

section

variable {o : RowOrder} {paymentId userId : Uuid} {db : DB} {p : Payment}

theorem handle_ownPayment (hp : db.payments.get? paymentId = some p) (hu : p.userId = userId) :
    handle o (ownPayment paymentId userId) db = (.ok p, db) := by
  unfold ownPayment
  rw [handle_bind, handle_select_own (t := payments) hp hu]
  rfl

theorem handle_ownPayment_other (h : ∀ p ∈ db.payments.get? paymentId, p.userId ≠ userId) :
    handle o (ownPayment paymentId userId) db = (.error ⟨404, "payment not found"⟩, db) := by
  unfold ownPayment
  rw [handle_bind, handle_select_other (t := payments) h]
  rfl

theorem handle_update_ownPayment (hp : db.payments.get? paymentId = some p) (hu : p.userId = userId)
    (f : Patch Payment.id Payment.check) :
    handle o (update payments (fun p => p.id = paymentId ∧ p.userId = userId) f) db
      = (.ok [f.apply p], db.setPayment paymentId f) := handle_update_own hp hu

theorem own_or_other (db : DB) (paymentId userId : Uuid) :
    (∃ p, db.payments.get? paymentId = some p ∧ p.userId = userId) ∨
      ∀ p ∈ db.payments.get? paymentId, p.userId ≠ userId := by
  by_cases h : ∃ p, db.payments.get? paymentId = some p ∧ p.userId = userId
  · exact Or.inl h
  · refine Or.inr (fun p hp hu => h ⟨p, hp, hu⟩)

end

/-- **What making a payment does**: nothing, or it stores a pending payment under an accepted offer of the caller's. -/
theorem createPayment_cases (o : RowOrder) (body : PaymentCreate) (userId id : Uuid) (now : Time) (db : DB) :
    (handle o (createPayment body userId id now) db).2 = db ∨
      ∃ offer payment, db.offers.get? payment.offerId = some offer ∧ offer.userId = userId ∧
        offer.status = .accepted ∧ payment.offerId = body.offerId ∧ payment.id = id ∧ payment.userId = userId ∧
        payment.status = .pending ∧
        (∀ p ∈ db.payments.rows, p.offerId = payment.offerId → p.userId = userId → ¬ p.isOpen) ∧
        payments.insert? db payment = .ok (handle o (createPayment body userId id now) db).2 := by
  unfold createPayment
  rw [handle_bind, handle_select_key, Prog.onOk_ok]
  cases hx : (offers.get db).get? body.offerId with
  | none => exact Or.inl rfl
  | some offer =>
    simp only [Option.toList_some, handle_ite, handle_throw]
    split
    · exact Or.inl rfl
    · rename_i hu
      split
      · exact Or.inl rfl
      · rename_i hs
        rw [handle_bind, handle_select, Prog.onOk_ok]
        split
        · simp only [handle_ite, handle_pure, handle_throw]
          split
          · exact Or.inl rfl
          · split <;> exact Or.inl rfl
        · rename_i hnone
          rw [handle_bind, handle_insert]
          generalize hp : ({ id := id, offerId := body.offerId, .. } : Payment) = payment
          cases hi : payments.insert? db payment with
          | error e => exact Or.inl rfl
          | ok db' =>
            refine Or.inr ⟨offer, payment, ?_⟩
            subst hp
            refine ⟨hx, not_not.1 hu, not_not.1 hs, rfl, rfl, rfl, rfl, fun p hm ho hpu hopen => ?_, hi⟩
            have hmem : p ∈ o.order (db.payments.rows.filter (fun p => p.offerId = body.offerId ∧ p.userId = userId)) :=
              o.mem_order.2 (List.mem_filter.2 ⟨hm, by simp [ho, hpu]⟩)
            exact List.find?_eq_none.1 hnone p hmem (by simpa [Payment.isOpen] using hopen)

/-- The row `create_payment` inserts. -/
def PaymentCreate.row (body : PaymentCreate) (userId id : Uuid) (now : Time) : Payment :=
  { id := id
    offerId := body.offerId
    userId := userId
    amount := body.amount
    status := .pending
    reference := body.reference
    paidAt := none
    createdAt := now }

/-- **A payment is stored**: under an accepted offer of the caller's without an open payment of the caller's. -/
structure Bills (db : DB) (body : PaymentCreate) (userId id : Uuid) (offer : Offer) : Prop where
  hx : db.offers.get? body.offerId = some offer
  user : offer.userId = userId
  accepted : offer.status = .accepted
  single : ∀ p ∈ db.payments.rows, p.offerId = body.offerId → p.userId = userId → ¬ p.isOpen
  fresh : db.payments.get? id = none
  profile : (db.userProfiles.get? userId).isSome

section

variable {db : DB} {body : PaymentCreate} {userId id : Uuid} {offer : Offer}

/-- The database with the payment stored. -/
def Bills.stored (h : Bills db body userId id offer) (now : Time) : DB :=
  { db with payments := db.payments.insert (body.row userId id now) h.fresh (decide_eq_true body.amount_gt) }

theorem handle_createPayment (o : RowOrder) (h : Bills db body userId id offer) (now : Time) :
    (handle o (createPayment body userId id now) db).2 = h.stored now := by
  have hrefs : payments.refs db (body.row userId id now) = true := by
    show ((db.offers.get? body.offerId).isSome && (db.userProfiles.get? userId).isSome) = true
    rw [h.hx, h.profile]
    rfl
  have hi : payments.insert? db (body.row userId id now) = .ok (h.stored now) :=
    Tab.insert?_of (t := payments) (r := body.row userId id now) rfl (decide_eq_true body.amount_gt) h.fresh hrefs
  have hfind : (o.order (db.payments.rows.filter (fun p => p.offerId = body.offerId ∧ p.userId = userId))).find?
      (fun p => p.status = .pending ∨ p.status = .paid) = none := by
    refine List.find?_eq_none.2 (fun p hp hopen => ?_)
    obtain ⟨hm, hq⟩ := List.mem_filter.1 (o.mem_order.1 hp)
    obtain ⟨hoffer, huser⟩ := of_decide_eq_true hq
    exact h.single p hm hoffer huser (of_decide_eq_true hopen)
  unfold createPayment
  rw [handle_bind, handle_select_key, Prog.onOk_ok, show (offers.get db).get? body.offerId = some offer from h.hx]
  simp only [Option.toList_some, h.user, h.accepted, ne_eq, not_true, if_false]
  rw [handle_bind, handle_select, Prog.onOk_ok, show (payments.get db).rows = db.payments.rows from rfl, hfind]
  show (handle o (insert payments (body.row userId id now) >>= _) db).2 = _
  rw [handle_bind, handle_insert, hi]
  rfl

theorem handle_createPayment_refused (o : RowOrder) (h : ¬ ∃ offer, Bills db body userId id offer) (now : Time) :
    (handle o (createPayment body userId id now) db).2 = db := by
  rcases createPayment_cases o body userId id now db with hdb | ⟨offer, payment, hx, hu, ha, ho, hid, hpu, -, hs, hi⟩
  · exact hdb
  · obtain ⟨hk, -, hr, -⟩ := Tab.insert?_ok hi
    have hrefs : ((db.offers.get? payment.offerId).isSome && (db.userProfiles.get? payment.userId).isSome) = true := hr
    rw [Bool.and_eq_true] at hrefs
    refine absurd ⟨offer, ho ▸ hx, hu, ha, fun p hp he => hs p hp (he.trans ho.symm), hid ▸ hk, hpu ▸ hrefs.2⟩ h

end

/-- **A payment whose lot is gone is put back**, and the request fails. -/
theorem handle_closeLot_missing (o : RowOrder) {paymentId userId : Uuid} (now : Time) {db : DB} {p : Payment}
    (hp : db.payments.get? paymentId = some p) (hu : p.userId = userId) {offer : Offer}
    (hx : db.offers.get? p.offerId = some offer) (hl : db.lots.get? offer.lotId = none) :
    handle o (closeLot p ((Payment.setPaid now).apply p) paymentId userId) (db.setPayment paymentId (Payment.setPaid now))
      = (.error ⟨503, "could not close lot; payment not marked paid"⟩, db) := by
  have hp' : (db.setPayment paymentId (Payment.setPaid now)).payments.get? paymentId
      = some ((Payment.setPaid now).apply p) := by simp [hp]
  have hn : db.lots.update (fun l => l.id = offer.lotId) (Lot.setStatus .sold) = db.lots :=
    Table.update_eq_self (fun l hm => by simpa using Table.get?_eq_none.1 hl l hm)
  have hb := handle_update_ownPayment (o := o) hp' hu (Payment.putBack p)
  unfold closeLot
  rw [handle_bind, handle_select_key, Prog.onOk_ok]
  have hx' : (offers.get (db.setPayment paymentId (Payment.setPaid now))).get? ((Payment.setPaid now).apply p).offerId
      = some offer := hx
  have hs : lots.set (db.setPayment paymentId (Payment.setPaid now)) db.lots
      = db.setPayment paymentId (Payment.setPaid now) := rfl
  have hl' : (lots.get (db.setPayment paymentId (Payment.setPaid now))) = db.lots := rfl
  simp only [hx', Option.toList_some, handle_bind, handle_update_key, hl', hl, hn, hs, Option.map_none,
    Option.toList_none, Prog.onOk_ok, handle_ite, if_true, hb, handle_throw, DB.setPayment_putBack db hp now]

theorem handle_closeLot {o : RowOrder} {paymentId userId : Uuid} {db : DB} {current payment : Payment}
    (hl : ∀ offer ∈ db.offers.get? payment.offerId, db.lots.get? offer.lotId ≠ none) :
    handle o (closeLot current payment paymentId userId) db
      = (.ok payment, (db.closeLot payment.offerId).offerRegraded payment.offerId) := by
  unfold closeLot DB.closeLot
  rw [handle_bind, handle_select_key, Prog.onOk_ok]
  cases hx : db.offers.get? payment.offerId with
  | none => simp [offers, hx, handle_rescoreOfferBuyer]
  | some offer =>
    obtain ⟨lot, hlot⟩ := Option.ne_none_iff_exists'.1 (hl offer hx)
    simp [offers, lots, hx, hlot, handle_rescoreOfferBuyer, DB.setLotStatus]

theorem handle_markPaid (o : RowOrder) {paymentId userId : Uuid} (now : Time) {db : DB} {p : Payment}
    (hp : db.payments.get? paymentId = some p) (hu : p.userId = userId) (hs : p.status = .pending ∨ p.status = .paid)
    (hl : ∀ offer ∈ db.offers.get? p.offerId, db.lots.get? offer.lotId ≠ none) :
    (handle o (markPaid paymentId userId now) db).2
      = ((db.setPayment paymentId (Payment.setPaid now)).closeLot p.offerId).offerRegraded p.offerId := by
  have hs' : ¬ (p.status = .failed ∨ p.status = .disputed) := by
    rcases hs with h | h <;> simp [h]
  have hx : handle o (closeLot p ((Payment.setPaid now).apply p) paymentId userId)
      (db.setPayment paymentId (Payment.setPaid now)) = (.ok ((Payment.setPaid now).apply p),
        ((db.setPayment paymentId (Payment.setPaid now)).closeLot p.offerId).offerRegraded p.offerId) := handle_closeLot hl
  unfold markPaid
  simp only [handle_bind, handle_ownPayment hp hu, Prog.onOk_ok, handle_ite, if_neg hs', handle_update_ownPayment hp hu, hx]

/-- **What marking paid does**: nothing, or it marks a payment of the caller's that has not failed and is not
disputed, and sells the lot of its offer. -/
theorem markPaid_cases (o : RowOrder) (paymentId userId : Uuid) (now : Time) (db : DB) :
    (handle o (markPaid paymentId userId now) db).2 = db ∨
      ∃ p, db.payments.get? paymentId = some p ∧ p.userId = userId ∧ (p.status = .pending ∨ p.status = .paid) ∧
        (handle o (markPaid paymentId userId now) db).2
          = ((db.setPayment paymentId (Payment.setPaid now)).closeLot p.offerId).offerRegraded p.offerId := by
  rcases own_or_other db paymentId userId with ⟨p, hp, hu⟩ | h
  · by_cases hs : p.status = .failed ∨ p.status = .disputed
    · unfold markPaid
      simp [handle_ownPayment hp hu, hs]
    · have hs' : p.status = .pending ∨ p.status = .paid := by
        cases hps : p.status <;> simp [hps] at hs ⊢
      by_cases hl : ∀ offer ∈ db.offers.get? p.offerId, db.lots.get? offer.lotId ≠ none
      · exact Or.inr ⟨p, hp, hu, hs', handle_markPaid o now hp hu hs' hl⟩
      · obtain ⟨offer, hx, hl⟩ : ∃ offer, db.offers.get? p.offerId = some offer ∧ db.lots.get? offer.lotId = none := by
          simpa using hl
        have hm := handle_closeLot_missing o now hp hu hx hl
        refine Or.inl ?_
        unfold markPaid
        simp only [handle_bind, handle_ownPayment hp hu, Prog.onOk_ok, handle_ite, if_neg hs,
          handle_update_ownPayment hp hu, hm]
  · unfold markPaid
    rw [handle_bind, handle_ownPayment_other h]
    exact Or.inl rfl

theorem markFailed_cases (o : RowOrder) (paymentId userId : Uuid) (db : DB) :
    (handle o (markFailed paymentId userId) db).2 = db ∨
      ∃ p, db.payments.get? paymentId = some p ∧ p.userId = userId ∧ p.status ≠ .paid ∧
        (handle o (markFailed paymentId userId) db).2
          = (db.setPayment paymentId (Payment.setStatus .failed)).offerRegraded p.offerId := by
  unfold markFailed
  rcases own_or_other db paymentId userId with ⟨p, hp, hu⟩ | h
  · rw [handle_bind, handle_ownPayment hp hu, Prog.onOk_ok, handle_ite]
    split
    · exact Or.inl rfl
    · rename_i hs
      refine Or.inr ⟨p, hp, hu, hs, ?_⟩
      simp only [handle_bind, handle_update_ownPayment hp hu, Prog.onOk_ok, handle_rescoreOfferBuyer, handle_pure]
      rfl
  · rw [handle_bind, handle_ownPayment_other h]
    exact Or.inl rfl

/-- A paid payment may still be disputed. -/
theorem markDisputed_cases (o : RowOrder) (paymentId userId : Uuid) (db : DB) :
    (handle o (markDisputed paymentId userId) db).2 = db ∨
      ∃ p, db.payments.get? paymentId = some p ∧ p.userId = userId ∧
        (handle o (markDisputed paymentId userId) db).2
          = (db.setPayment paymentId (Payment.setStatus .disputed)).offerRegraded p.offerId := by
  unfold markDisputed
  rcases own_or_other db paymentId userId with ⟨p, hp, hu⟩ | h
  · refine Or.inr ⟨p, hp, hu, ?_⟩
    simp only [handle_bind, handle_ownPayment hp hu, handle_update_ownPayment hp hu, Prog.onOk_ok,
      handle_rescoreOfferBuyer, handle_pure]
    rfl
  · rw [handle_bind, handle_ownPayment_other h]
    exact Or.inl rfl

end Krishi
