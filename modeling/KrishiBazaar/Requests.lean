import KrishiBazaar.Lib.Evolve
import KrishiBazaar.Lib.Run
import KrishiBazaar.Logistics
import KrishiBazaar.Offers
import KrishiBazaar.Payments
/-!
# Requests — the marketplace as a state machine

One completed request takes the database from one state to the next (`step`).  `Change` is everything a request can do,
in fourteen cases, each with what the handler had checked; every property of whole runs is proved from `step_change`
and never opens a handler.
-/
namespace Krishi

open Lib

inductive Request
  | createLot (body : LotCreate)
  | aggregateLots (body : LotAggregate)
  | gradeLot (lotId : Uuid) (body : LotGradeUpdate)
  | withdrawLot (lotId : Uuid)
  | createOffer (body : OfferCreate)
  | updateOffer (offerId : Uuid) (body : OfferUpdate)
  | createPayment (body : PaymentCreate)
  | markPaid (paymentId : Uuid)
  | markFailed (paymentId : Uuid)
  | markDisputed (paymentId : Uuid)
  | createBooking (body : LogisticsBookCreate)
  | updateBooking (bookingId : Uuid) (body : LogisticsBookUpdate)
  | expireStaleOffers

/-- A request with what it meets: its user, the id `uuid4` draws for it, the clock and the order of the rows. -/
structure Event where
  user : Uuid
  uuid : Uuid
  now : Time
  order : RowOrder
  req : Request

/-- **One completed request.** -/
def step (db : DB) (e : Event) : DB :=
  match e.req with
  | .createLot body => (handle e.order (createLot body e.user e.uuid e.now) db).2
  | .aggregateLots body => (handle e.order (aggregateLots body e.user e.uuid e.now) db).2
  | .gradeLot lotId body => (handle e.order (gradeLot lotId body e.user) db).2
  | .withdrawLot lotId => (handle e.order (withdrawLot lotId e.user) db).2
  | .createOffer body => (handle e.order (createOffer body e.user e.uuid e.now) db).2
  | .updateOffer offerId body => (handle e.order (updateOffer offerId body e.user e.now) db).2
  | .createPayment body => (handle e.order (createPayment body e.user e.uuid e.now) db).2
  | .markPaid paymentId => (handle e.order (markPaid paymentId e.user e.now) db).2
  | .markFailed paymentId => (handle e.order (markFailed paymentId e.user) db).2
  | .markDisputed paymentId => (handle e.order (markDisputed paymentId e.user) db).2
  | .createBooking body => (handle e.order (createBooking body e.user e.uuid e.now) db).2
  | .updateBooking bookingId body => (handle e.order (updateBooking bookingId body e.user e.now) db).2
  | .expireStaleOffers => (handle e.order (expireStaleOffers offerTtlHours e.now) db).2

/-- The database before its first marketplace request: no lots, offers, payments or bookings yet. -/
structure Start (db : DB) : Prop where
  lots : db.lots = .empty
  offers : db.offers = .empty
  payments : db.payments = .empty
  bookings : db.logisticsBookings = .empty

/-- A bazaar on its first day: two farmers, an FPO, a buyer, a godown of 100 quintals, and no lots yet. -/
def firstDay : DB :=
  let farmer (id : Uuid) (role : Role) : UserProfile := ⟨id, none, none, role, .mr, "Nashik", none, none⟩
  { DB.empty with
    userProfiles := ⟨[farmer 1 .farmer, farmer 2 .farmer, farmer 3 .fpo], by decide, by decide⟩
    commodities := onionsOnly
    buyers := ⟨[⟨1, "Local buyer", .trader, true, none, none, none, none, none, none, none, none⟩], by decide, by decide⟩
    logisticsOptions := ⟨[⟨1, "Nashik", .storage, "Godown", some 100, none, none, none, true⟩], by decide, by decide⟩ }

theorem start_firstDay : Start firstDay := ⟨rfl, rfl, rfl, rfl⟩

/-- A request made through `asStored` rows. -/
def Event.of (user uuid : Uuid) (now : Time) (req : Request) : Event := ⟨user, uuid, now, .asStored, req⟩

def onionLot (quantityQtl : ℚ) (h : 0 < quantityQtl) (h' : quantityQtl ≤ 1000000) : LotCreate :=
  ⟨1, none, quantityQtl, h, h', .general, none, none, none, by simp, by simp, none⟩

def onionOffer (lotId : Uuid) (quantityQtl : ℚ) (h : 0 < quantityQtl) (h' : quantityQtl ≤ 1000000) : OfferCreate :=
  ⟨lotId, 1, 20, by decide, by decide, quantityQtl, h, h'⟩

/-- All of lot 11. -/
def wholeOffer : OfferCreate := onionOffer 11 10 (by decide) (by decide)

/-- Paying offer 21 with 200 rupees. -/
def onionPayment (reference : Option String) : PaymentCreate := ⟨21, 200, by decide, by decide, reference⟩

def godownFor (lotId : Uuid) : LogisticsBookCreate := ⟨lotId, 1, none, by simp, none, none, by simp⟩

/-- Farmer 1 lists 10 quintals as lot 11 and offers all of them to the buyer, as offer 21. -/
def firstOffer : List Event :=
  [.of 1 11 0 (.createLot (onionLot 10 (by decide) (by decide))), .of 1 21 0 (.createOffer wholeOffer)]

/-- The offer is accepted, and paid as payment 31. -/
def firstSale : List Event :=
  firstOffer ++
    [.of 1 0 0 (.updateOffer 21 ⟨.accepted⟩), .of 1 31 0 (.createPayment (onionPayment none)),
     .of 1 0 0 (.markPaid 31)]

/-- Farmer 1 lists 10 quintals as lot 11, farmer 2 four quintals as lot 12. -/
def twoLots : List Event :=
  [.of 1 11 0 (.createLot (onionLot 10 (by decide) (by decide))),
   .of 2 12 0 (.createLot (onionLot 4 (by decide) (by decide)))]

def pooling (lotIds : List Uuid) (h : 2 ≤ lotIds.length) (h' : lotIds.length ≤ 50) : LotAggregate :=
  ⟨lotIds, h, h', none, by simp, none⟩

/-- A database that some run of requests leaves. -/
def Reachable (db : DB) : Prop := ∃ db₀ es, Start db₀ ∧ db = after step db₀ es

/-- The request accepts the offer: it is the caller's, pending and young enough. -/
structure Accepts (db : DB) (e : Event) (x : Offer) : Prop where
  req : ∃ body, e.req = .updateOffer x.id body ∧ body.status = .accepted
  hx : db.offers.get? x.id = some x
  user : x.userId = e.user
  pending : x.status = .pending
  live : offerIsStale x e.now offerTtlHours = false

/-- The request marks the payment paid: it is the caller's and has neither failed nor is it disputed. -/
structure Pays (db : DB) (e : Event) (p : Payment) : Prop where
  req : e.req = .markPaid p.id
  hp : db.payments.get? p.id = some p
  user : p.userId = e.user
  status : p.status = .pending ∨ p.status = .paid

/-- What `step` can do, with what its handler had found. -/
inductive Change (db : DB) (e : Event) : DB → Prop
  | nothing : Change db e db
  | lotCreated {lot : Lot} {db' : DB} (user : lot.userId = e.user) (isOpen : lot.status = .open)
      (hi : lots.insert? db lot = .ok db') : Change db e db'
  | lotsPooled {body : LotAggregate} {first : Lot} {members : List Lot} {db' : DB} (req : e.req = .aggregateLots body)
      (pools : Pools db body e.user e.uuid e.now first members db') : Change db e (db'.poolLots e.user body.lotIds)
  | lotGraded {lotId : Uuid} {body : LotGradeUpdate} {lot : Lot} (hl : db.lots.get? lotId = some lot)
      (user : lot.isOf e.user) : Change db e (db.regradeLot lotId body)
  | lotWithdrawn {lotId : Uuid} {lot : Lot} (req : e.req = .withdrawLot lotId) (hl : db.lots.get? lotId = some lot)
      (user : lot.userId = e.user) : Change db e (db.setLotStatus lotId .withdrawn)
  | offerCreated {lot : Lot} {offer : Offer} {db' : DB} (hl : db.lots.get? offer.lotId = some lot)
      (user : lot.userId = e.user) (status : lot.status = .open ∨ lot.status = .offered)
      (quantity : offer.quantityQtl ≤ lot.quantityQtl) (offerUser : offer.userId = e.user)
      (pending : offer.status = .pending) (hi : offers.insert? db offer = .ok db') :
      Change db e (db'.setLotStatus offer.lotId .offered)
  | offerPatched {offer : Offer} {body : OfferUpdate} (req : e.req = .updateOffer offer.id body)
      (hx : db.offers.get? offer.id = some offer) (user : offer.userId = e.user) :
      Change db e (patched db offer body.status e.now)
  | paymentCreated {offer : Offer} {payment : Payment} {db' : DB} (hx : db.offers.get? payment.offerId = some offer)
      (user : offer.userId = e.user) (accepted : offer.status = .accepted) (paymentUser : payment.userId = e.user)
      (pending : payment.status = .pending) (id : payment.id = e.uuid)
      (single : ∀ p ∈ db.payments.rows, p.offerId = payment.offerId → p.userId = e.user → ¬ p.isOpen)
      (hi : payments.insert? db payment = .ok db') : Change db e db'
  | paid {p : Payment} {x : Option (Uuid × Reliability)} (pays : Pays db e p) :
      Change db e (((db.setPayment p.id (Payment.setPaid e.now)).closeLot p.offerId).rescored x)
  | failed {paymentId : Uuid} {p : Payment} {x : Option (Uuid × Reliability)}
      (hp : db.payments.get? paymentId = some p) (user : p.userId = e.user) (status : p.status ≠ .paid) :
      Change db e ((db.setPayment paymentId (Payment.setStatus .failed)).rescored x)
  | disputed {paymentId : Uuid} {p : Payment} {x : Option (Uuid × Reliability)}
      (hp : db.payments.get? paymentId = some p) (user : p.userId = e.user) :
      Change db e ((db.setPayment paymentId (Payment.setStatus .disputed)).rescored x)
  | bookingCreated {option : LogisticsOption} {booking : LogisticsBooking} {db' : DB}
      (hx : db.logisticsOptions.get? booking.logisticsId = some option) (user : booking.userId = e.user)
      (fits : Fits db option booking.quantityQtl none) (hi : logisticsBookings.insert? db booking = .ok db') :
      Change db e db'
  | bookingUpdated {booking : LogisticsBooking} {s : BookingStatus} (hb : db.logisticsBookings.get? booking.id = some booking)
      (user : booking.userId = e.user)
      (fits : s.isActive = true → ∃ option, db.logisticsOptions.get? booking.logisticsId = some option ∧
        Fits db option booking.quantityQtl (some booking.id)) :
      Change db e (db.setBookingStatus booking.id s e.now)
  | offersExpired (req : e.req = .expireStaleOffers) :
      Change db e ((swept e.order db).foldl (expireOne offerTtlHours e.now) db)

theorem Change.of_eq {db db' : DB} {e : Event} (h : db' = db) : Change db e db' := h ▸ .nothing

/-- **A completed request does one of the changes.** -/
theorem step_change (db : DB) (e : Event) : Change db e (step db e) := by
  obtain ⟨user, uuid, now, order, req⟩ := e
  unfold step
  cases req with
  | createLot body =>
    rcases createLot_cases order body user uuid now db with h | ⟨lot, -, hu, ho, hi⟩
    · exact .of_eq h
    · exact .lotCreated hu ho hi
  | aggregateLots body =>
    by_cases h : ∃ first members db', Pools db body user uuid now first members db'
    · obtain ⟨first, members, db', h⟩ := h
      simp only [handle_aggregateLots h]
      exact .lotsPooled rfl h
    · obtain ⟨x, hx⟩ := handle_aggregateLots_error (o := order) h
      exact .of_eq (congrArg Prod.snd hx)
  | gradeLot lotId body =>
    rcases gradeLot_cases order lotId body user db with h | ⟨lot, hl, hu, h⟩
    · exact .of_eq h
    · simp only [h]
      exact .lotGraded hl hu
  | withdrawLot lotId =>
    simp only [handle_withdrawLot]
    split
    · rename_i h
      obtain ⟨lot, hl, hu⟩ := (Option.any_eq_true _ _).1 h
      exact .lotWithdrawn rfl hl (of_decide_eq_true hu)
    · exact .nothing
  | createOffer body =>
    rcases createOffer_cases order body user uuid now db with
      h | ⟨lot, offer, db', hl, hu, hs, hq, -, hou, hp, -, hi, h⟩
    · exact .of_eq h
    · simp only [h]
      exact .offerCreated hl hu hs hq hou hp hi
  | updateOffer offerId body =>
    by_cases h : ∃ offer, db.offers.get? offerId = some offer ∧ offer.userId = user
    · obtain ⟨offer, hx, hu⟩ := h
      obtain rfl := Table.key_of_get? hx
      simp only [handle_updateOffer_own hx hu]
      exact .offerPatched rfl hx hu
    · exact .of_eq (handle_updateOffer_other (fun x hx hu => h ⟨x, hx, hu⟩))
  | createPayment body =>
    rcases createPayment_cases order body user uuid now db with
      h | ⟨offer, payment, hx, hu, ha, -, hid, hpu, hp, hs, hi⟩
    · exact .of_eq h
    · exact .paymentCreated hx hu ha hpu hp hid hs hi
  | markPaid paymentId =>
    rcases markPaid_cases order paymentId user now db with h | ⟨p, hp, hu, hs, h⟩
    · exact .of_eq h
    · obtain rfl := Table.key_of_get? hp
      obtain ⟨x, hx⟩ := DB.offerRegraded_eq ((db.setPayment p.id (Payment.setPaid now)).closeLot p.offerId) p.offerId
      simp only [h, hx]
      exact .paid ⟨rfl, hp, hu, hs⟩
  | markFailed paymentId =>
    rcases markFailed_cases order paymentId user db with h | ⟨p, hp, hu, hs, h⟩
    · exact .of_eq h
    · obtain ⟨x, hx⟩ := DB.offerRegraded_eq (db.setPayment paymentId (Payment.setStatus .failed)) p.offerId
      simp only [h, hx]
      exact .failed hp hu hs
  | markDisputed paymentId =>
    rcases markDisputed_cases order paymentId user db with h | ⟨p, hp, hu, h⟩
    · exact .of_eq h
    · obtain ⟨x, hx⟩ := DB.offerRegraded_eq (db.setPayment paymentId (Payment.setStatus .disputed)) p.offerId
      simp only [h, hx]
      exact .disputed hp hu
  | createBooking body =>
    rcases createBooking_cases order body user uuid now db with h | ⟨option, booking, hx, -, hu, hf, -, hi⟩
    · exact .of_eq h
    · exact .bookingCreated hx hu hf hi
  | updateBooking bookingId body =>
    rcases updateBooking_cases order bookingId body user now db with h | ⟨booking, hb, hu, hf, h⟩
    · exact .of_eq h
    · obtain rfl := Table.key_of_get? hb
      simp only [h]
      exact .bookingUpdated hb hu hf
  | expireStaleOffers =>
    simp only [handle_expireStaleOffers]
    exact .offersExpired rfl

/-! ## Requests that do what they ask for -/

section

variable {db : DB} {e : Event}

theorem step_withdrawLot {lotId : Uuid} {l : Lot} (req : e.req = .withdrawLot lotId)
    (hl : db.lots.get? lotId = some l) (user : l.userId = e.user) : step db e = db.setLotStatus lotId .withdrawn := by
  unfold step
  rw [req]
  simp only [handle_withdrawLot]
  rw [if_pos (by simpa [hl] using user)]

theorem step_updateOffer {x : Offer} {body : OfferUpdate} (req : e.req = .updateOffer x.id body)
    (hx : db.offers.get? x.id = some x) (user : x.userId = e.user) :
    step db e = patched db x body.status e.now := by
  unfold step
  rw [req]
  exact handle_updateOffer_own hx user

theorem step_accept {x : Offer} (h : Accepts db e x) :
    step db e = (db.setOfferStatus x.id .accepted e.now).setLotStatus x.lotId .matched := by
  obtain ⟨body, req, accept⟩ := h.req
  rw [step_updateOffer req h.hx h.user, accept]
  simp [patched, h.live, h.pending, DB.patchOffer]

theorem step_markPaid {p : Payment} {x : Offer} {l : Lot} (h : Pays db e p) (hx : db.offers.get? p.offerId = some x)
    (hl : db.lots.get? x.lotId = some l) :
    ∃ y, step db e = ((db.setPayment p.id (Payment.setPaid e.now)).setLotStatus x.lotId .sold).rescored y := by
  have hs : ∀ offer ∈ db.offers.get? p.offerId, db.lots.get? offer.lotId ≠ none := by
    intro offer ho
    obtain rfl := Option.some.inj (hx.symm.trans ho)
    simp [hl]
  have hclose : (db.setPayment p.id (Payment.setPaid e.now)).closeLot p.offerId
      = (db.setPayment p.id (Payment.setPaid e.now)).setLotStatus x.lotId .sold := by
    unfold DB.closeLot
    rw [DB.setPayment_offers, hx]
  obtain ⟨y, hy⟩ := DB.offerRegraded_eq ((db.setPayment p.id (Payment.setPaid e.now)).setLotStatus x.lotId .sold) p.offerId
  refine ⟨y, ?_⟩
  unfold step
  rw [h.req, ← hy, ← hclose]
  exact handle_markPaid e.order e.now h.hp h.user h.status hs

end

end Krishi
