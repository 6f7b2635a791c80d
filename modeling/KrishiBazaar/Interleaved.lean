import KrishiBazaar.Lib.Rely
import KrishiBazaar.Isolation
/-!
# Interleaved — requests that run at once

No request is a transaction: each of its PostgREST calls is answered by itself, and between two of them other requests,
sweeps and the rest of the system may do whatever they do.  A call may also fail, with its effect or without, and a
request may be cut off after any of its calls.

What a request has read of a lot or an offer stays true but for what may change of the row, and that is all that its
inserts go on.  So in any interleaving of any number of requests no row is lost, none changes but in its status, and every
offer, payment and booking is on a lot or an offer that it fits (`interleaved_fitting`).  And whatever the others do, a
user's payments and bookings stay as they are, and the user's offers but for those that are expired
(`interleaved_apart`).
-/
namespace Krishi

open Lib

/-! ## Requests, call by call -/

section Code

variable {α : Type}

def withoutValue (p : Handler α) : Handler Unit := p >>= fun _ => pure ()

theorem handle_withoutValue (o : RowOrder) (p : Handler α) (db : DB) :
    (handle o (withoutValue p) db).2 = (handle o p db).2 := by
  unfold withoutValue
  rw [handle_bind]
  cases handle o p db with
  | mk r db' => cases r <;> rfl

end Code

/-- A request as it is sent: an event but for the order of the rows, which each call draws anew. -/
structure Sent where
  user : Uuid
  uuid : Uuid
  now : Time
  req : Request

def Event.sent (e : Event) : Sent := ⟨e.user, e.uuid, e.now, e.req⟩

/-- The handler of a request. -/
def Sent.code (e : Sent) : Handler Unit :=
  match e.req with
  | .createLot body => withoutValue (createLot body e.user e.uuid e.now)
  | .aggregateLots body => withoutValue (aggregateLots body e.user e.uuid e.now)
  | .gradeLot lotId body => withoutValue (gradeLot lotId body e.user)
  | .withdrawLot lotId => withoutValue (withdrawLot lotId e.user)
  | .createOffer body => withoutValue (createOffer body e.user e.uuid e.now)
  | .updateOffer offerId body => withoutValue (updateOffer offerId body e.user e.now)
  | .createPayment body => withoutValue (createPayment body e.user e.uuid e.now)
  | .markPaid paymentId => withoutValue (markPaid paymentId e.user e.now)
  | .markFailed paymentId => withoutValue (markFailed paymentId e.user)
  | .markDisputed paymentId => withoutValue (markDisputed paymentId e.user)
  | .createBooking body => withoutValue (createBooking body e.user e.uuid e.now)
  | .updateBooking bookingId body => withoutValue (updateBooking bookingId body e.user e.now)
  | .expireStaleOffers => withoutValue (expireStaleOffers offerTtlHours e.now)

theorem handle_code (db : DB) (e : Event) : (handle e.order e.sent.code db).2 = step db e := by
  obtain ⟨user, uuid, now, order, req⟩ := e
  cases req <;> exact handle_withoutValue _ _ _

/-- A call is answered, or the answer is lost, or the call is. -/
inductive CallOutcome {ρ : Type} (op : Op DB ρ) (db : DB) : Except HTTPException ρ → DB → Prop
  | answered (o : RowOrder) : CallOutcome op db (answers o op db).1 (answers o op db).2
  | answerLost (o : RowOrder) (e : HTTPException) : CallOutcome op db (.error e) (answers o op db).2
  | callLost (e : HTTPException) : CallOutcome op db (.error e) db

/-- The bazaar serving requests of some users at once; the other tables change as they like. -/
def bazaar (who : Uuid → Prop) : Pool (Op DB) HTTPException DB Sent Unit where
  answers := CallOutcome
  starts _ e := who e.user
  code := Sent.code
  outside db _ db' := db'.lots = db.lots ∧ db'.offers = db.offers ∧ db'.payments = db.payments ∧
    db'.logisticsBookings = db.logisticsBookings

/-- **Requests one after the other are an interleaving.** -/
theorem run_requests (who : Uuid → Prop) : ∀ (es : List Event) (db : DB), (∀ e ∈ es, who e.user) →
    (bazaar who).Run (db, 0) (after step db es, 0)
  | [], _, _ => .refl
  | e :: es, db, h => by
    have hstart : (bazaar who).Run (db, 0) (db, (e.sent, e.sent.code) ::ₘ 0) :=
      Pool.Run.start .refl (h e List.mem_cons_self)
    have hrun : (bazaar who).Run (db, (e.sent, e.sent.code) ::ₘ 0) ((handle e.order e.sent.code db).2, 0) :=
      Pool.run_of_exec (bazaar who) (answers e.order) id (fun _ _ => .answered e.order) e.sent e.sent.code db 0
    rw [handle_code] at hrun
    exact (hstart.trans hrun).trans (run_requests who es (step db e) (fun e' he' => h e' (List.mem_cons_of_mem _ he')))

/-! ## What one call does -/

def BookingKept (b b' : LogisticsBooking) : Prop := b' = { b with status := b'.status, updatedAt := b'.updatedAt }

/-- The offer is on a lot of its own user, and within it. -/
def OnOwnLot (db : DB) (x : Offer) : Prop :=
  ∃ l, db.lots.get? x.lotId = some l ∧ l.userId = x.userId ∧ x.quantityQtl ≤ l.quantityQtl

/-- The payment is on an offer of its own user. -/
def ForOwnOffer (db : DB) (p : Payment) : Prop := ∃ x, db.offers.get? p.offerId = some x ∧ x.userId = p.userId

/-- The booking is within its lot. -/
def WithinLot (db : DB) (b : LogisticsBooking) : Prop :=
  ∃ l, db.lots.get? b.lotId = some l ∧ b.quantityQtl ≤ l.quantityQtl + capacitySlack

section Rows

variable (u : Option Uuid)

/-- What may happen to an offer, but if it is `u`'s only that it expires. -/
def OfferApart (x x' : Offer) : Prop := SameOffer x x' ∧ (x.userId ∈ u → x' = x ∨ x'.status = .expired)

def PaymentApart (p p' : Payment) : Prop := SamePayment p p' ∧ (p.userId ∈ u → p' = p)

def BookingApart (b b' : LogisticsBooking) : Prop := BookingKept b b' ∧ (b.userId ∈ u → b' = b)

theorem OfferApart.refl (x : Offer) : OfferApart u x x := ⟨rfl, fun _ => Or.inl rfl⟩

theorem PaymentApart.refl (p : Payment) : PaymentApart u p p := ⟨rfl, fun _ => rfl⟩

theorem BookingApart.refl (b : LogisticsBooking) : BookingApart u b b := ⟨rfl, fun _ => rfl⟩

end Rows

/-- **What one call may do**, where `u` makes none: rows are added that fit, and what of a row may change does, but not in
what is `u`'s. -/
structure Apart (u : Option Uuid) (db db' : DB) : Prop where
  lots : Evolves SameLot (fun _ => True) db.lots db'.lots
  offers : Evolves (OfferApart u) (fun x => OnOwnLot db x ∧ x.userId ∉ u) db.offers db'.offers
  payments : Evolves (PaymentApart u) (fun p => ForOwnOffer db p ∧ p.userId ∉ u) db.payments db'.payments
  bookings : Evolves (BookingApart u) (fun b => WithinLot db b ∧ b.userId ∉ u) db.logisticsBookings db'.logisticsBookings

section Apart

variable {u : Option Uuid} {db db' : DB}

theorem SameLot.refl (l : Lot) : SameLot l l := rfl

theorem Apart.refl (u : Option Uuid) (db : DB) : Apart u db db where
  lots := Evolves.refl SameLot.refl _
  offers := Evolves.refl (OfferApart.refl u) _
  payments := Evolves.refl (PaymentApart.refl u) _
  bookings := Evolves.refl (BookingApart.refl u) _

theorem Apart.elsewhere (hl : db'.lots = db.lots) (ho : db'.offers = db.offers) (hp : db'.payments = db.payments)
    (hb : db'.logisticsBookings = db.logisticsBookings) : Apart u db db' where
  lots := by
    rw [hl]
    exact Evolves.refl SameLot.refl _
  offers := by
    rw [ho]
    exact Evolves.refl (OfferApart.refl u) _
  payments := by
    rw [hp]
    exact Evolves.refl (PaymentApart.refl u) _
  bookings := by
    rw [hb]
    exact Evolves.refl (BookingApart.refl u) _

end Apart

/-! ## Calls that need no knowledge -/

section Harmless

variable {who : Uuid → Prop} {u : Option Uuid}

/-- A call that does what may happen to the rows in any state. -/
abbrev Plain (who : Uuid → Prop) (u : Option Uuid) {ρ : Type} (op : Op DB ρ) : Prop :=
  Harmless (bazaar who) (Apart u) op

/-- A call does what it does however it is answered. -/
theorem plain_of {ρ : Type} {op : Op DB ρ} (h : ∀ s o, Apart u s (answers o op s).2) : Plain who u op := by
  intro s r s' ha
  cases ha with
  | answered o => exact h s o
  | answerLost o e => exact h s o
  | callLost e => exact .refl u s

theorem plain_select {ρ κ : Type} {key : ρ → κ} {check : ρ → Bool} {t : Tab DB key check} {p : ρ → Bool} :
    Plain who u (.select t p) := plain_of (fun s _ => .refl u s)

theorem plain_selectLimit {ρ κ : Type} {key : ρ → κ} {check : ρ → Bool} {t : Tab DB key check} {p : ρ → Bool} {n : Nat} :
    Plain who u (.selectLimit t p n) := plain_of (fun s _ => .refl u s)

theorem plain_lots {p : Lot → Bool} {f : Patch Lot.id Lot.check} (hf : ∀ l, SameLot l (f.apply l)) :
    Plain who u (.update lots p f) := by
  refine plain_of (fun s _ => ?_)
  have hrows : Evolves SameLot (fun _ => True) s.lots (s.lots.update p f) :=
    Evolves.update_of SameLot.refl (fun l _ => hf l)
  exact { Apart.refl u s with lots := hrows }

theorem plain_offers {p : Offer → Bool} {f : Patch Offer.id Offer.check}
    (hf : ∀ x, p x = true → OfferApart u x (f.apply x)) : Plain who u (.update offers p f) := by
  refine plain_of (fun s _ => ?_)
  have hrows : Evolves (OfferApart u) (fun x => OnOwnLot s x ∧ x.userId ∉ u) s.offers (s.offers.update p f) :=
    Evolves.update_of (OfferApart.refl u) hf
  exact { Apart.refl u s with offers := hrows }

theorem plain_payments {p : Payment → Bool} {f : Patch Payment.id Payment.check}
    (hf : ∀ x, p x = true → PaymentApart u x (f.apply x)) : Plain who u (.update payments p f) := by
  refine plain_of (fun s _ => ?_)
  have hrows : Evolves (PaymentApart u) (fun x => ForOwnOffer s x ∧ x.userId ∉ u) s.payments (s.payments.update p f) :=
    Evolves.update_of (PaymentApart.refl u) hf
  exact { Apart.refl u s with payments := hrows }

theorem plain_bookings {p : LogisticsBooking → Bool} {f : Patch LogisticsBooking.id LogisticsBooking.check}
    (hf : ∀ x, p x = true → BookingApart u x (f.apply x)) : Plain who u (.update logisticsBookings p f) := by
  refine plain_of (fun s _ => ?_)
  have hrows : Evolves (BookingApart u) (fun x => WithinLot s x ∧ x.userId ∉ u) s.logisticsBookings
      (s.logisticsBookings.update p f) := Evolves.update_of (BookingApart.refl u) hf
  exact { Apart.refl u s with bookings := hrows }

theorem plain_buyers {p : Buyer → Bool} {f : Patch Buyer.id noCheck} : Plain who u (.update buyers p f) :=
  plain_of (fun _ _ => .elsewhere rfl rfl rfl rfl)

theorem plain_setLotStatus {p : Lot → Bool} {s : LotStatus} : Plain who u (.update lots p (Lot.setStatus s)) :=
  plain_lots (fun _ => rfl)

/-- The status of the caller's own offer. -/
theorem plain_ownOffer {userId offerId : Uuid} (hu : userId ∉ u) {s : OfferStatus} {now : Time} :
    Plain who u (.update offers (fun x => x.id = offerId ∧ x.userId = userId) (Offer.setStatus s now)) := by
  refine plain_offers (fun x hx => ⟨rfl, fun hmine => absurd ?_ hu⟩)
  rwa [← (of_decide_eq_true hx).2]

theorem plain_ownPayment {userId paymentId : Uuid} (hu : userId ∉ u) {f : Patch Payment.id Payment.check}
    (hf : ∀ p, SamePayment p (f.apply p)) :
    Plain who u (.update payments (fun p => p.id = paymentId ∧ p.userId = userId) f) := by
  refine plain_payments (fun p hp => ⟨hf p, fun hmine => absurd ?_ hu⟩)
  rwa [← (of_decide_eq_true hp).2]

theorem plain_expire {offerId : Uuid} {now : Time} :
    Plain who u (.update offers (fun x => x.id = offerId) (Offer.setStatus .expired now)) :=
  plain_offers (fun _ _ => ⟨rfl, fun _ => Or.inr rfl⟩)

/-! ## Handlers that need none -/

theorem reopenLotIfIdle_plain (lotId : Uuid) : (reopenLotIfIdle lotId).All (Plain who u) (fun _ => True) := by
  refine Prog.All.bind (Prog.All.perform plain_select) (fun pending _ => ?_)
  show Prog.All _ _ (if pending ≠ [] then pure false else _)
  split
  · exact Prog.All.pure trivial
  · refine Prog.All.bind (Prog.All.perform plain_select) (fun lotRows _ => ?_)
    cases lotRows with
    | nil => exact Prog.All.pure trivial
    | cons lot rest =>
      show Prog.All _ _ (if lot.status ≠ .offered then pure false else _)
      split
      · exact Prog.All.pure trivial
      · exact Prog.All.bind (Prog.All.perform plain_setLotStatus) (fun _ _ => Prog.All.pure trivial)

theorem recomputeBuyerReliability_plain (buyerId : Uuid) :
    (recomputeBuyerReliability buyerId).All (Plain who u) (fun _ => True) := by
  have hevidence : ∀ offerIds, (buyerEvidence offerIds).All (Plain who u) (fun _ => True) := by
    intro offerIds
    unfold buyerEvidence
    split
    · exact Prog.All.pure trivial
    · exact Prog.All.bind (Prog.All.perform plain_select) (fun _ _ =>
        Prog.All.bind (Prog.All.perform plain_select) (fun _ _ => Prog.All.pure trivial))
  refine Prog.All.bind (Prog.All.perform plain_select) (fun rows _ => ?_)
  refine Prog.All.bind (hevidence _) (fun evidence _ => ?_)
  split
  · exact Prog.All.pure trivial
  · exact Prog.All.bind (Prog.All.perform plain_buyers) (fun _ _ => Prog.All.pure trivial)

theorem rescoreOfferBuyer_plain (offerId : Uuid) :
    (rescoreOfferBuyer offerId).All (Plain who u) (fun _ => True) := by
  refine Prog.All.bind (Prog.All.perform plain_select) (fun rows _ => ?_)
  cases rows with
  | nil => exact Prog.All.pure trivial
  | cons offer rest =>
    exact Prog.All.bind (recomputeBuyerReliability_plain offer.buyerId) (fun _ _ => Prog.All.pure trivial)

theorem ownPayment_plain (paymentId userId : Uuid) :
    (ownPayment paymentId userId).All (Plain who u) (fun _ => True) := by
  refine Prog.All.bind (Prog.All.perform plain_select) (fun rows _ => ?_)
  cases rows with
  | nil => trivial
  | cons row rest => exact Prog.All.pure trivial

theorem closeLot_plain {userId : Uuid} (hu : userId ∉ u) (current payment : Payment) (paymentId : Uuid) :
    (closeLot current payment paymentId userId).All (Plain who u) (fun _ => True) := by
  refine Prog.All.bind (Prog.All.perform plain_select) (fun rows _ => ?_)
  have hrescored : (rescoreOfferBuyer payment.offerId >>= fun _ => pure payment).All (Plain who u) (fun _ => True) :=
    Prog.All.bind (rescoreOfferBuyer_plain payment.offerId) (fun _ _ => Prog.All.pure trivial)
  cases rows with
  | nil => exact hrescored
  | cons offer rest =>
    refine Prog.All.bind (Prog.All.perform plain_setLotStatus) (fun lotRes _ => ?_)
    split
    · exact Prog.All.bind (Prog.All.perform (plain_ownPayment hu (fun _ => rfl))) (fun _ _ => trivial)
    · exact hrescored

theorem markPaid_plain {userId : Uuid} (hu : userId ∉ u) (paymentId : Uuid) (now : Time) :
    (markPaid paymentId userId now).All (Plain who u) (fun _ => True) := by
  refine Prog.All.bind (ownPayment_plain paymentId userId) (fun current _ => ?_)
  split
  · trivial
  · refine Prog.All.bind (Prog.All.perform (plain_ownPayment hu (fun _ => rfl))) (fun res _ => ?_)
    cases res with
    | nil => trivial
    | cons payment rest => exact closeLot_plain hu current payment paymentId

/-- The payment put in a status, and the buyer rescored. -/
theorem setStatus_plain {userId : Uuid} (hu : userId ∉ u) (paymentId : Uuid) (s : PaymentStatus) :
    (do
      let res ← update payments (fun p => p.id = paymentId ∧ p.userId = userId) (Payment.setStatus s)
      match res with
      | [] => throw ⟨404, "payment not found"⟩
      | payment :: _ =>
        rescoreOfferBuyer payment.offerId
        pure payment : Handler Payment).All (Plain who u) (fun _ => True) := by
  refine Prog.All.bind (Prog.All.perform (plain_ownPayment hu (fun _ => rfl))) (fun res _ => ?_)
  cases res with
  | nil => trivial
  | cons payment rest =>
    exact Prog.All.bind (rescoreOfferBuyer_plain payment.offerId) (fun _ _ => Prog.All.pure trivial)

theorem markFailed_plain {userId : Uuid} (hu : userId ∉ u) (paymentId : Uuid) :
    (markFailed paymentId userId).All (Plain who u) (fun _ => True) := by
  refine Prog.All.bind (ownPayment_plain paymentId userId) (fun current _ => ?_)
  split
  · trivial
  · exact setStatus_plain hu paymentId .failed

theorem markDisputed_plain {userId : Uuid} (hu : userId ∉ u) (paymentId : Uuid) :
    (markDisputed paymentId userId).All (Plain who u) (fun _ => True) :=
  Prog.All.bind (ownPayment_plain paymentId userId) (fun _ _ => setStatus_plain hu paymentId .disputed)

theorem patchLot_plain (offer : Offer) (s : OfferStatus) : (patchLot offer s).All (Plain who u) (fun _ => True) := by
  cases s with
  | pending => exact Prog.All.pure trivial
  | accepted => exact Prog.All.bind (Prog.All.perform plain_setLotStatus) (fun _ _ => Prog.All.pure trivial)
  | rejected => exact Prog.All.bind (reopenLotIfIdle_plain offer.lotId) (fun _ _ => Prog.All.pure trivial)
  | expired => exact Prog.All.bind (reopenLotIfIdle_plain offer.lotId) (fun _ _ => Prog.All.pure trivial)

theorem updateOffer_plain {userId : Uuid} (hu : userId ∉ u) (offerId : Uuid) (body : OfferUpdate) (now : Time) :
    (updateOffer offerId body userId now).All (Plain who u) (fun _ => True) := by
  refine Prog.All.bind (Prog.All.perform plain_select) (fun rows _ => ?_)
  cases rows with
  | nil => trivial
  | cons current rest =>
    show Prog.All _ _ (if current.status = .pending ∧ offerIsStale current now offerTtlHours then _ else _)
    split
    · exact Prog.All.bind (Prog.All.perform plain_expire) (fun _ _ =>
        Prog.All.bind (reopenLotIfIdle_plain current.lotId) (fun _ _ => trivial))
    · split
      · trivial
      · refine Prog.All.bind (Prog.All.perform (plain_ownOffer hu)) (fun res _ => ?_)
        cases res with
        | nil => trivial
        | cons offer rest =>
          exact Prog.All.bind (patchLot_plain offer body.status) (fun _ _ => Prog.All.pure trivial)

theorem expireStaleOffers_plain (ttlHours : Int) (now : Time) :
    (expireStaleOffers ttlHours now).All (Plain who u) (fun _ => True) := by
  refine Prog.All.bind (Prog.All.perform plain_selectLimit) (fun rows _ => ?_)
  refine Prog.All.bind (R := fun _ => True) (Prog.All.foldlM trivial (fun offer _ acc _ => ?_))
    (fun _ _ => Prog.All.pure trivial)
  unfold expireOffer
  split
  · exact Prog.All.pure trivial
  · exact Prog.All.bind (Prog.All.perform plain_expire) (fun _ _ =>
      Prog.All.bind (reopenLotIfIdle_plain offer.lotId) (fun _ _ => Prog.All.pure trivial))

theorem gradeLot_plain (lotId : Uuid) (body : LotGradeUpdate) (userId : Uuid) :
    (gradeLot lotId body userId).All (Plain who u) (fun _ => True) := by
  refine Prog.All.bind (Prog.All.perform plain_select) (fun rows _ => ?_)
  cases rows with
  | nil => trivial
  | cons lot rest =>
    show Prog.All _ _ (if ¬ lot.isOf userId then _ else _)
    split
    · trivial
    · split
      · trivial
      · refine Prog.All.bind (Prog.All.perform (plain_lots (fun _ => rfl))) (fun res _ => ?_)
        cases res with
        | nil => trivial
        | cons lot rest => exact Prog.All.pure trivial

theorem withdrawLot_plain (lotId userId : Uuid) :
    (withdrawLot lotId userId).All (Plain who u) (fun _ => True) := by
  refine Prog.All.bind (Prog.All.perform plain_setLotStatus) (fun res _ => ?_)
  cases res with
  | nil => trivial
  | cons lot rest => exact Prog.All.pure trivial

theorem insert_effect {ρ κ : Type} {key : ρ → κ} {check : ρ → Bool} [DecidableEq κ] (t : Tab DB key check) (r : ρ)
    (o : RowOrder) (s : DB) :
    (answers o (.insert t r) s).2 = s ∨ t.insert? s r = .ok (answers o (.insert t r) s).2 := by
  show (insertAnswer jsonForApiError s r (t.insert? s r)).2 = s ∨ _
  cases h : t.insert? s r with
  | error e => exact Or.inl rfl
  | ok s' => exact Or.inr (by show _ = Except.ok (insertAnswer jsonForApiError s r (t.insert? s r)).2; rw [h]; rfl)

theorem plain_insertLot {l : Lot} : Plain who u (.insert lots l) := by
  refine plain_of (fun s o => ?_)
  rcases insert_effect lots l o s with h | h
  · rw [h]
    exact .refl u s
  · obtain ⟨hk, hc, -, hs⟩ := Tab.insert?_ok h
    have hrows := Evolves.insert (N := fun _ => True) h SameLot.refl trivial
    rw [hs] at hrows ⊢
    exact { Apart.refl u s with lots := hrows }

theorem createLot_plain (body : LotCreate) (userId id : Uuid) (now : Time) :
    (createLot body userId id now).All (Plain who u) (fun _ => True) := by
  refine Prog.All.bind (Prog.All.perform plain_insertLot) (fun res _ => ?_)
  cases res with
  | nil => trivial
  | cons lot rest => exact Prog.All.pure trivial

theorem poolMembers_plain (userId : Uuid) : ∀ members : List Lot,
    (Prog.forEach members (poolMember userId)).All (Plain who u) (fun _ => True)
  | [] => trivial
  | _ :: members => Prog.All.bind (R := fun _ => True)
      (Prog.All.bind (Prog.All.perform (plain_lots (fun _ => rfl))) (fun _ _ => Prog.All.pure trivial))
      (fun _ _ => poolMembers_plain userId members)

theorem aggregateLots_plain (body : LotAggregate) (userId id : Uuid) (now : Time) :
    (aggregateLots body userId id now).All (Plain who u) (fun _ => True) := by
  refine Prog.All.bind (Prog.All.perform plain_select) (fun profile _ => ?_)
  split
  · trivial
  · refine Prog.All.bind (Prog.All.perform plain_select) (fun rows _ => ?_)
    cases membersOf (fun lid => rows.find? (fun l => l.id = lid)) body.lotIds with
    | error e => trivial
    | ok members =>
      show (storePooled body userId id now members).All _ _
      cases members with
      | nil => trivial
      | cons first members =>
        show Prog.All _ _ (if ((first :: members).map (·.commodityId)).dedup.length ≠ 1 then _ else _)
        split
        · trivial
        · refine Prog.All.bind (Prog.All.perform plain_insertLot) (fun res _ => ?_)
          cases res with
          | nil => trivial
          | cons pooled rest =>
            exact Prog.All.bind (poolMembers_plain userId (first :: members)) (fun _ _ => Prog.All.pure trivial)

theorem activeOption_plain (logisticsId : Uuid) : (activeOption logisticsId).All (Plain who u) (fun _ => True) := by
  refine Prog.All.bind (Prog.All.perform plain_select) (fun rows _ => ?_)
  cases rows with
  | nil => trivial
  | cons option rest => exact Prog.All.pure trivial

theorem assertCapacity_plain (option : LogisticsOption) (extraQty : ℚ) (excludeId : Option Uuid) :
    (assertCapacity option extraQty excludeId).All (Plain who u) (fun _ => True) := by
  unfold assertCapacity
  cases option.capacityQtl with
  | none => exact Prog.All.pure trivial
  | some cap =>
    refine Prog.All.bind (R := fun _ => True)
      (Prog.All.bind (Prog.All.perform plain_select) (fun _ _ => Prog.All.pure trivial)) (fun used _ => ?_)
    dsimp only
    split
    · trivial
    · exact Prog.All.pure trivial

theorem updateBooking_plain {userId : Uuid} (hu : userId ∉ u) (bookingId : Uuid) (body : LogisticsBookUpdate)
    (now : Time) : (updateBooking bookingId body userId now).All (Plain who u) (fun _ => True) := by
  have hassert : ∀ current s, (assertReactivation current s).All (Plain who u) (fun _ => True) := by
    intro current s
    unfold assertReactivation
    split
    · exact Prog.All.bind (activeOption_plain current.logisticsId)
        (fun option _ => assertCapacity_plain option current.quantityQtl (some current.id))
    · exact Prog.All.pure trivial
  have hown : Plain who u (.update logisticsBookings (fun b => b.id = bookingId ∧ b.userId = userId)
      (LogisticsBooking.setStatus body.status now)) := by
    refine plain_bookings (fun b hb => ⟨rfl, fun hmine => absurd ?_ hu⟩)
    rwa [← (of_decide_eq_true hb).2]
  refine Prog.All.bind (Prog.All.perform plain_select) (fun rows _ => ?_)
  cases rows with
  | nil => trivial
  | cons current rest =>
    show Prog.All _ _ (if current.status = .completed ∧ body.status ≠ .completed then _ else _)
    split
    · trivial
    · refine Prog.All.bind (hassert current body.status) (fun _ _ => ?_)
      refine Prog.All.bind (Prog.All.perform hown) (fun res _ => ?_)
      cases res with
      | nil => trivial
      | cons booking rest => exact Prog.All.pure trivial

end Harmless

/-! ## What a request goes on -/

section Guarded

variable {who : Uuid → Prop} {u : Option Uuid} {K : Fact (Apart u)}

theorem SameLot.trans {l l' l'' : Lot} (h : SameLot l l') (h' : SameLot l' l'') : SameLot l l'' := by
  unfold SameLot at *
  rw [h', h]

theorem SameOffer.trans {x x' x'' : Offer} (h : SameOffer x x') (h' : SameOffer x' x'') : SameOffer x x'' := by
  unfold SameOffer at *
  rw [h', h]

/-- The lots read are there, but for what may change of them. -/
def lotsRead (u : Option Uuid) (p : Lot → Bool) (rows : List Lot) : Fact (Apart u) where
  holds s := ∀ l ∈ rows, p l = true ∧ ∃ l', s.lots.get? l.id = some l' ∧ SameLot l l'
  stable s s' h hs l hl := by
    obtain ⟨hp, l', hl', hsame⟩ := hs l hl
    obtain ⟨l'', hl'', hsame'⟩ := h.lots.old hl'
    exact ⟨hp, l'', hl'', hsame.trans hsame'⟩

def offersRead (u : Option Uuid) (p : Offer → Bool) (rows : List Offer) : Fact (Apart u) where
  holds s := ∀ x ∈ rows, p x = true ∧ ∃ x', s.offers.get? x.id = some x' ∧ SameOffer x x'
  stable s s' h hs x hx := by
    obtain ⟨hp, x', hx', hsame⟩ := hs x hx
    obtain ⟨x'', hx'', hsame'⟩ := h.offers.old hx'
    exact ⟨hp, x'', hx'', hsame.trans hsame'.1⟩

/-- A select tells what is so of rows that are in the table and selected. -/
theorem guarded_select {ρ κ : Type} {key : ρ → κ} {check : ρ → Bool} {t : Tab DB key check} {p : ρ → Bool}
    {told : List ρ → Fact (Apart u)}
    (h : ∀ s rows, (∀ r ∈ rows, r ∈ (t.get s).rows ∧ p r = true) → (told rows).holds s) :
    Guarded (bazaar who) (fun rows s => (told rows).holds s) (select t p) K := by
  refine Guarded.perform (fun s r s' ha _ => ⟨plain_select s r s' ha, fun rows hr => ?_⟩)
  cases ha with
  | answerLost o e => cases hr
  | callLost e => cases hr
  | answered o =>
    obtain rfl : o.order ((t.get s).rows.filter p) = rows := Except.ok.inj hr
    exact h s _ (fun r hr => List.mem_filter.1 (o.mem_order.1 hr))

theorem guarded_selectLots (p : Lot → Bool) :
    Guarded (bazaar who) (fun rows s => (lotsRead u p rows).holds s) (select lots p) K :=
  guarded_select (fun _ _ h l hl => ⟨(h l hl).2, l, Table.get?_of_mem (h l hl).1, .refl l⟩)

theorem guarded_selectOffers (p : Offer → Bool) :
    Guarded (bazaar who) (fun rows s => (offersRead u p rows).holds s) (select offers p) K :=
  guarded_select (fun _ _ h x hx => ⟨(h x hx).2, x, Table.get?_of_mem (h x hx).1, rfl⟩)

/-- A call that does what may happen wherever the facts hold. -/
theorem guarded_of {ρ : Type} {op : Op DB ρ} (h : ∀ s o, K.holds s → Apart u s (answers o op s).2) :
    Guarded (bazaar who) (R := Apart u) (fun _ _ => True) (.perform op) K := by
  refine Guarded.performed (fun s r s' ha hs => ?_)
  cases ha with
  | answered o => exact h s o hs
  | answerLost o e => exact h s o hs
  | callLost e => exact .refl u s

/-- An insert that may happen wherever it succeeds. -/
theorem guarded_insert {ρ κ : Type} {key : ρ → κ} {check : ρ → Bool} [DecidableEq κ] {t : Tab DB key check} {r : ρ}
    (h : ∀ s s', K.holds s → t.insert? s r = .ok s' → Apart u s s') :
    Guarded (bazaar who) (R := Apart u) (fun _ _ => True) (insert t r) K := by
  refine guarded_of (fun s o hs => ?_)
  rcases insert_effect t r o s with he | hi
  · rw [he]
    exact .refl u s
  · exact h s _ hs hi

theorem guarded_insertOffer {x : Offer} (h : ∀ s, K.holds s → OnOwnLot s x) (hu : x.userId ∉ u) :
    Guarded (bazaar who) (R := Apart u) (fun _ _ => True) (insert offers x) K := by
  refine guarded_insert (fun s s' hs hi => ?_)
  have hrows := Evolves.insert (N := fun x => OnOwnLot s x ∧ x.userId ∉ u) hi (OfferApart.refl u) ⟨h s hs, hu⟩
  obtain ⟨hk, hc, -, rfl⟩ := Tab.insert?_ok hi
  exact { Apart.refl u s with offers := hrows }

theorem guarded_insertPayment {p : Payment} (h : ∀ s, K.holds s → ForOwnOffer s p) (hu : p.userId ∉ u) :
    Guarded (bazaar who) (R := Apart u) (fun _ _ => True) (insert payments p) K := by
  refine guarded_insert (fun s s' hs hi => ?_)
  have hrows := Evolves.insert (N := fun p => ForOwnOffer s p ∧ p.userId ∉ u) hi (PaymentApart.refl u) ⟨h s hs, hu⟩
  obtain ⟨hk, hc, -, rfl⟩ := Tab.insert?_ok hi
  exact { Apart.refl u s with payments := hrows }

theorem guarded_insertBooking {b : LogisticsBooking} (h : ∀ s, K.holds s → WithinLot s b) (hu : b.userId ∉ u) :
    Guarded (bazaar who) (R := Apart u) (fun _ _ => True) (insert logisticsBookings b) K := by
  refine guarded_insert (fun s s' hs hi => ?_)
  have hrows := Evolves.insert (N := fun b => WithinLot s b ∧ b.userId ∉ u) hi (BookingApart.refl u) ⟨h s hs, hu⟩
  obtain ⟨hk, hc, -, rfl⟩ := Tab.insert?_ok hi
  exact { Apart.refl u s with bookings := hrows }

/-- **An offer is made on the lot that was read**, which is still the caller's and holds as much. -/
theorem createOffer_guarded {userId : Uuid} (hu : userId ∉ u) (body : OfferCreate) (id : Uuid) (now : Time) :
    Guarded (bazaar who) (R := Apart u) (fun _ _ => True) (createOffer body userId id now) K := by
  refine Guarded.bind (guarded_selectLots _) (fun rows K' hread => ?_)
  cases rows with
  | nil => trivial
  | cons lot rest =>
    refine Guarded.ite (fun _ => trivial) (fun hown => ?_)
    refine Guarded.ite (fun _ => trivial) (fun _ => ?_)
    refine Guarded.ite (fun _ => trivial) (fun hqty => ?_)
    refine Guarded.bind (guarded_insertOffer (fun s hs => ?_) hu) (fun res _ _ => ?_)
    · obtain ⟨hid, l, hl, hsame⟩ := (hread s hs).1 lot List.mem_cons_self
      rw [of_decide_eq_true hid] at hl
      refine ⟨l, hl, hsame.keeps.1.trans (not_not.1 hown), ?_⟩
      rw [hsame.keeps.2]
      exact not_lt.1 hqty
    · cases res with
      | nil => trivial
      | cons offer rest =>
        exact Guarded.of_harmless (Prog.All.bind (Prog.All.perform plain_setLotStatus) (fun _ _ => Prog.All.pure trivial))

/-- **A payment is made on the offer that was read**, which is still the caller's. -/
theorem createPayment_guarded {userId : Uuid} (hu : userId ∉ u) (body : PaymentCreate) (id : Uuid) (now : Time) :
    Guarded (bazaar who) (R := Apart u) (fun _ _ => True) (createPayment body userId id now) K := by
  refine Guarded.bind (guarded_selectOffers _) (fun rows K' hread => ?_)
  cases rows with
  | nil => trivial
  | cons offer rest =>
    refine Guarded.ite (fun _ => trivial) (fun hown => ?_)
    refine Guarded.ite (fun _ => trivial) (fun _ => ?_)
    refine Guarded.bind (Guarded.of_harmless (Prog.All.perform plain_select)) (fun existing K'' hkeep => ?_)
    cases existing.find? (fun p => p.status = .pending ∨ p.status = .paid) with
    | some row =>
      refine Guarded.ite (fun _ => Guarded.ret (fun _ _ => trivial)) (fun _ => ?_)
      exact Guarded.ite (fun _ => trivial) (fun _ => Guarded.ret (fun _ _ => trivial))
    | none =>
      refine Guarded.bind (guarded_insertPayment (fun s hs => ?_) hu) (fun res _ _ => ?_)
      · obtain ⟨hid, x, hx, hsame⟩ := (hread s (hkeep s hs).2).1 offer List.mem_cons_self
        rw [of_decide_eq_true hid] at hx
        exact ⟨x, hx, hsame.keeps.2.1.trans (not_not.1 hown)⟩
      · cases res with
        | nil => trivial
        | cons payment rest => exact Guarded.ret (fun _ _ => trivial)

/-- **A booking is made for the lot that was read**, which still holds as much. -/
theorem createBooking_guarded {userId : Uuid} (hu : userId ∉ u) (body : LogisticsBookCreate) (id : Uuid) (now : Time) :
    Guarded (bazaar who) (R := Apart u) (fun _ _ => True) (createBooking body userId id now) K := by
  have hlot : Guarded (bazaar who) (fun lot s => (lotsRead u (fun l => l.id = body.lotId) [lot]).holds s)
      (ownLot body.lotId userId) K := by
    refine Guarded.bind (guarded_selectLots _) (fun rows K' hread => ?_)
    cases rows with
    | nil => trivial
    | cons lot rest =>
      refine Guarded.ite (fun _ => trivial) (fun _ => Guarded.ite (fun _ => trivial) (fun _ => ?_))
      exact Guarded.ret (fun s hs l hl => (hread s hs).1 l (List.mem_singleton.1 hl ▸ List.mem_cons_self))
  refine Guarded.bind hlot (fun lot K₁ hread => ?_)
  refine Guarded.bind (Guarded.of_harmless (activeOption_plain body.logisticsId)) (fun option K₂ hkeep₂ => ?_)
  refine Guarded.ite (fun _ => trivial) (fun hqty => ?_)
  refine Guarded.bind (Guarded.of_harmless (assertCapacity_plain option _ none)) (fun _ K₃ hkeep₃ => ?_)
  refine Guarded.bind (guarded_insertBooking (fun s hs => ?_) hu) (fun res _ _ => ?_)
  · obtain ⟨hid, l, hl, hsame⟩ := (hread s (hkeep₂ s (hkeep₃ s hs).2).2).1 lot (List.mem_singleton_self lot)
    rw [of_decide_eq_true hid] at hl
    refine ⟨l, hl, ?_⟩
    rw [hsame.keeps.2]
    exact not_lt.1 hqty
  · cases res with
    | nil => trivial
    | cons booking rest => exact Guarded.ret (fun _ _ => trivial)

theorem guarded_withoutValue {α : Type} {p : Handler α}
    (h : Guarded (bazaar who) (R := Apart u) (fun _ _ => True) p K) :
    Guarded (bazaar who) (R := Apart u) (fun _ _ => True) (withoutValue p) K :=
  Guarded.bind h (fun _ _ _ => Guarded.ret (fun _ _ => trivial))

/-- **Every request of another user's is guarded**, and where there is none to mind, every request. -/
theorem code_guarded (e : Sent) (hu : e.user ∉ u) :
    Guarded (bazaar who) (R := Apart u) (fun _ _ => True) e.code K := by
  obtain ⟨user, uuid, now, req⟩ := e
  cases req with
  | createLot body => exact guarded_withoutValue (.of_harmless (createLot_plain body user uuid now))
  | aggregateLots body => exact guarded_withoutValue (.of_harmless (aggregateLots_plain body user uuid now))
  | gradeLot lotId body => exact guarded_withoutValue (.of_harmless (gradeLot_plain lotId body user))
  | withdrawLot lotId => exact guarded_withoutValue (.of_harmless (withdrawLot_plain lotId user))
  | createOffer body => exact guarded_withoutValue (createOffer_guarded hu body uuid now)
  | updateOffer offerId body => exact guarded_withoutValue (.of_harmless (updateOffer_plain hu offerId body now))
  | createPayment body => exact guarded_withoutValue (createPayment_guarded hu body uuid now)
  | markPaid paymentId => exact guarded_withoutValue (.of_harmless (markPaid_plain hu paymentId now))
  | markFailed paymentId => exact guarded_withoutValue (.of_harmless (markFailed_plain hu paymentId))
  | markDisputed paymentId => exact guarded_withoutValue (.of_harmless (markDisputed_plain hu paymentId))
  | createBooking body => exact guarded_withoutValue (createBooking_guarded hu body uuid now)
  | updateBooking bookingId body => exact guarded_withoutValue (.of_harmless (updateBooking_plain hu bookingId body now))
  | expireStaleOffers => exact guarded_withoutValue (.of_harmless (expireStaleOffers_plain offerTtlHours now))

/-- **Nothing else happens**, whatever is interleaved and wherever requests are cut off. -/
theorem reach_apart (hwho : ∀ v, who v → v ∉ u) {db : DB} {c : DB × (bazaar who).Threads}
    (hrun : (bazaar who).Run (db, 0) c) : Relation.ReflTransGen (Apart u) db c.1 :=
  have hcode : ∀ e : Sent, e.user ∉ u → Guarded (bazaar who) (R := Apart u) (fun _ _ => True) e.code .none :=
    fun e he => code_guarded e he
  Guarded.reach hcode (fun _ e he => hwho e.user he) (fun _ _ _ _ h => .elsewhere h.1 h.2.1 h.2.2.1 h.2.2.2) hrun

end Guarded

/-! ## Any interleaving -/

/-- **Every offer, payment and booking is on what it is for, and fits.** -/
structure Fitting (db : DB) : Prop where
  linked : Linked db
  within : ∀ k b, db.logisticsBookings.get? k = some b → WithinLot db b

/-- **No row is lost, and none changes but in what may**; what is `u`'s does not, but for offers that expire. -/
structure Lasting (u : Option Uuid) (db db' : DB) : Prop where
  lots : Evolves SameLot (fun _ => True) db.lots db'.lots
  offers : Evolves (OfferApart u) (fun x => x.userId ∉ u) db.offers db'.offers
  payments : Evolves (PaymentApart u) (fun p => p.userId ∉ u) db.payments db'.payments
  bookings : Evolves (BookingApart u) (fun b => b.userId ∉ u) db.logisticsBookings db'.logisticsBookings

section Runs

variable {u : Option Uuid} {db db' db'' : DB}

theorem OfferApart.trans {x x' x'' : Offer} (h : OfferApart u x x') (h' : OfferApart u x' x'') : OfferApart u x x'' := by
  refine ⟨h.1.trans h'.1, fun hmine => ?_⟩
  rcases h'.2 (h.1.keeps.2.1 ▸ hmine) with rfl | hexpired
  · exact h.2 hmine
  · exact Or.inr hexpired

theorem PaymentApart.trans {p p' p'' : Payment} (h : PaymentApart u p p') (h' : PaymentApart u p' p'') :
    PaymentApart u p p'' := by
  refine ⟨?_, fun hmine => (h'.2 (h.1.keeps.2 ▸ hmine)).trans (h.2 hmine)⟩
  obtain ⟨hsame, -⟩ := h
  obtain ⟨hsame', -⟩ := h'
  unfold SamePayment at *
  rw [hsame', hsame]

theorem BookingKept.keeps {b b' : LogisticsBooking} (h : BookingKept b b') :
    b'.lotId = b.lotId ∧ b'.userId = b.userId ∧ b'.quantityQtl = b.quantityQtl := by
  rw [h]
  exact ⟨rfl, rfl, rfl⟩

theorem BookingApart.trans {b b' b'' : LogisticsBooking} (h : BookingApart u b b') (h' : BookingApart u b' b'') :
    BookingApart u b b'' := by
  refine ⟨?_, fun hmine => (h'.2 (h.1.keeps.2.1 ▸ hmine)).trans (h.2 hmine)⟩
  obtain ⟨hsame, -⟩ := h
  obtain ⟨hsame', -⟩ := h'
  unfold BookingKept at *
  rw [hsame', hsame]

theorem Apart.lasting (h : Apart u db db') : Lasting u db db' where
  lots := h.lots
  offers := h.offers.mono (fun _ _ hx => hx) (fun _ hx => hx.2)
  payments := h.payments.mono (fun _ _ hp => hp) (fun _ hp => hp.2)
  bookings := h.bookings.mono (fun _ _ hb => hb) (fun _ hb => hb.2)

theorem Lasting.trans (h : Lasting u db db') (h' : Lasting u db' db'') : Lasting u db db'' where
  lots := h.lots.trans (fun _ _ _ => SameLot.trans) (fun _ _ _ _ => trivial) h'.lots
  offers := h.offers.trans (fun _ _ _ => OfferApart.trans)
    (fun _ _ hx hxx' => by rw [hxx'.1.keeps.2.1]; exact hx) h'.offers
  payments := h.payments.trans (fun _ _ _ => PaymentApart.trans)
    (fun _ _ hp hpp' => by rw [hpp'.1.keeps.2]; exact hp) h'.payments
  bookings := h.bookings.trans (fun _ _ _ => BookingApart.trans)
    (fun _ _ hb hbb' => by rw [hbb'.1.keeps.2.1]; exact hb) h'.bookings

/-- **What fits still fits after a call**: the lots and offers it is on are there, and as they were. -/
theorem Apart.fitting (h : Apart u db db') (hf : Fitting db) : Fitting db' := by
  have hlot : ∀ k l, db.lots.get? k = some l →
      ∃ l', db'.lots.get? k = some l' ∧ l'.userId = l.userId ∧ l'.quantityQtl = l.quantityQtl := by
    intro k l hl
    obtain ⟨l', hl', hsame⟩ := h.lots.old hl
    exact ⟨l', hl', hsame.keeps⟩
  refine ⟨⟨fun k x' hx' => ?_, fun k p' hp' => ?_⟩, fun k b' hb' => ?_⟩
  · obtain ⟨l, hl, hu, hq⟩ : OnOwnLot db x' := by
      rcases h.offers.new hx' with ⟨x, hx, hsame, -⟩ | ⟨-, hfits, -⟩
      · obtain ⟨l, hl, hu, hq⟩ := hf.linked.offerLot k x hx
        obtain ⟨hlot, huser, hqty, -⟩ := hsame.keeps
        exact ⟨l, hlot ▸ hl, by rw [huser, hu], by rw [hqty]; exact hq⟩
      · exact hfits
    obtain ⟨l', hl', hu', hq'⟩ := hlot _ l hl
    exact ⟨l', hl', hu'.trans hu, hq'.symm ▸ hq⟩
  · obtain ⟨x, hx, hu⟩ : ForOwnOffer db p' := by
      rcases h.payments.new hp' with ⟨p, hp, hsame, -⟩ | ⟨-, hfits, -⟩
      · obtain ⟨x, hx, hu⟩ := hf.linked.paymentOffer k p hp
        obtain ⟨hoffer, huser⟩ := hsame.keeps
        exact ⟨x, hoffer ▸ hx, by rw [huser, hu]⟩
      · exact hfits
    obtain ⟨x', hx', hsame⟩ := h.offers.old hx
    exact ⟨x', hx', hsame.1.keeps.2.1.trans hu⟩
  · obtain ⟨l, hl, hq⟩ : WithinLot db b' := by
      rcases h.bookings.new hb' with ⟨b, hb, hsame, -⟩ | ⟨-, hfits, -⟩
      · obtain ⟨l, hl, hq⟩ := hf.within k b hb
        obtain ⟨hlot, -, hqty⟩ := hsame.keeps
        exact ⟨l, hlot ▸ hl, by rw [hqty]; exact hq⟩
      · exact hfits
    obtain ⟨l', hl', -, hq'⟩ := hlot _ l hl
    exact ⟨l', hl', hq'.symm ▸ hq⟩

theorem lasting_of_reach (h : Relation.ReflTransGen (Apart u) db db') : Lasting u db db' := by
  induction h with
  | refl => exact (Apart.refl u db).lasting
  | tail _ hstep ih => exact ih.trans hstep.lasting

theorem fitting_of_reach (h : Relation.ReflTransGen (Apart u) db db') (hf : Fitting db) : Fitting db' := by
  induction h with
  | refl => exact hf
  | tail _ hstep ih => exact hstep.fitting ih

end Runs

/-- **In any interleaving of any requests, every offer, payment and booking is on a lot or an offer that it fits**, no row
is lost, and of a row nothing changes but its status and what goes with it. -/
theorem interleaved_fitting (db : DB) (h : Fitting db) (c : DB × (bazaar (fun _ => True)).Threads)
    (hrun : (bazaar (fun _ => True)).Run (db, 0) c) : Fitting c.1 ∧ Lasting none db c.1 := by
  have hreach : Relation.ReflTransGen (Apart none) db c.1 := reach_apart (fun v _ => Option.not_mem_none v) hrun
  exact ⟨fitting_of_reach hreach h, lasting_of_reach hreach⟩

theorem Start.fitting {db : DB} (h : Start db) : Fitting db := by
  refine ⟨h.linked, fun k b hb => ?_⟩
  rw [h.bookings] at hb
  cases hb

/-- Farmer 1 offers all of lot 11. -/
def wholeOfferAs (uuid : Uuid) : Sent := ⟨1, uuid, 0, .createOffer wholeOffer⟩

/-- Offer 21 is held up after its lot was read, and offer 22 is made meanwhile; both fit the lot. -/
theorem interleaved_fitting_both : ∃ c, (bazaar (fun _ => True)).Run (firstDay, 0) c ∧ Fitting c.1 ∧
    c.1.offers.rows.map (·.id) = [22, 21] := by
  have hlot : (bazaar (fun _ => True)).Run (firstDay, 0) (after step firstDay (firstOffer.take 1), 0) :=
    run_requests _ _ _ (fun _ _ => trivial)
  have hread := Pool.Run.call (Pool.Run.start (i := wholeOfferAs 21) hlot trivial) (.answered .asStored)
  have hboth := Pool.Run.start (i := wholeOfferAs 22) hread trivial
  have hsecond := hboth.trans (Pool.run_of_exec (bazaar (fun _ => True)) (answers .asStored) id
    (fun _ _ => .answered .asStored) (wholeOfferAs 22) (wholeOfferAs 22).code _ _)
  have hfirst := hsecond.trans (Pool.run_of_exec (bazaar (fun _ => True)) (answers .asStored) id
    (fun _ _ => .answered .asStored) (wholeOfferAs 21) _ _ _)
  exact ⟨_, hfirst, (interleaved_fitting firstDay start_firstDay.fitting _ hfirst).1, by decide +kernel⟩

/-- **Whatever the others do at once, a user's payments and bookings stay as they are**, and the user's offers but for
those that are expired. -/
theorem interleaved_apart (u : Uuid) (db : DB) (c : DB × (bazaar (fun v => v ≠ u)).Threads)
    (hrun : (bazaar (fun v => v ≠ u)).Run (db, 0) c) :
    (∀ k, (c.1.payments.get? k).filter (fun p => p.userId = u) = (db.payments.get? k).filter (fun p => p.userId = u)) ∧
    (∀ k, (c.1.logisticsBookings.get? k).filter (fun b => b.userId = u)
      = (db.logisticsBookings.get? k).filter (fun b => b.userId = u)) ∧
    ∀ k, RowStep (fun x x' => x' = x ∨ SameOffer x x' ∧ x'.status = .expired) (fun _ => False)
      ((db.offers.get? k).filter (fun x => x.userId = u)) ((c.1.offers.get? k).filter (fun x => x.userId = u)) := by
  have hwho : ∀ v, v ≠ u → v ∉ some u := fun v hv hu => hv (Option.mem_some.1 hu).symm
  have h : Lasting (some u) db c.1 := lasting_of_reach (reach_apart hwho hrun)
  have hmine : ∀ {v : Uuid}, decide (v = u) = true → v ∈ some u := fun hv => Option.mem_some.2 (of_decide_eq_true hv).symm
  have hother : ∀ {v : Uuid}, v ∉ some u → decide (v = u) = false := fun hv =>
    decide_eq_false (fun he => hv (Option.mem_some.2 he.symm))
  refine ⟨fun k => ((h.payments k).filter ?_ ?_ ?_).eq_of_same, fun k => ((h.bookings k).filter ?_ ?_ ?_).eq_of_same,
    fun k => (h.offers k).filter ?_ ?_ ?_⟩
  · exact fun p p' hp => by rw [hp.1.keeps.2]
  · exact fun _ hp => hother hp
  · exact fun p p' hu hp => hp.2 (hmine hu)
  · exact fun b b' hb => by rw [hb.1.keeps.2.1]
  · exact fun _ hb => hother hb
  · exact fun b b' hu hb => hb.2 (hmine hu)
  · exact fun x x' hx => by rw [hx.1.keeps.2.1]
  · exact fun _ hx => hother hx
  · exact fun x x' hu hx => (hx.2 (hmine hu)).imp_right (fun he => ⟨hx.1, he⟩)

/-- Farmer 2 has sold lot 12, booked the godown for it, and offered lot 14. -/
def neighbourWaits : DB :=
  after step { firstDay with bookingColumns := createdBookingKeys } (neighbourSells ++
    [.of 2 14 0 (.createLot (onionLot 3 (by decide) (by decide))),
     .of 2 24 0 (.createOffer (onionOffer 14 3 (by decide) (by decide)))])

/-- A sweep two days on, and an offer of farmer 1's that comes while the sweep has read the pending offers. -/
def lateSweep : Sent := ⟨3, 0, hours 49, .expireStaleOffers⟩
def lateOffer : Sent := ⟨1, 21, hours 49, .createOffer wholeOffer⟩

/-- Farmer 2's offer 24 expires; offer 22, which is accepted, payment 32 and booking 42 stay. -/
theorem interleaved_apart_neighbour : ∃ c, (bazaar (fun v => v ≠ 2)).Run (neighbourWaits, 0) c ∧
    c.1.offers.rows.map (fun x => (x.id, x.userId, x.status))
      = [(22, 2, .accepted), (24, 2, .expired), (21, 1, .pending)] ∧
    neighbourWaits.payments.rows.map (fun p => (p.id, p.userId)) = [(32, 2)] ∧
    neighbourWaits.logisticsBookings.rows.map (fun b => (b.id, b.userId)) = [(42, 2)] ∧
    (∀ k, (c.1.payments.get? k).filter (fun p => p.userId = 2)
      = (neighbourWaits.payments.get? k).filter (fun p => p.userId = 2)) ∧
    ∀ k, (c.1.logisticsBookings.get? k).filter (fun b => b.userId = 2)
      = (neighbourWaits.logisticsBookings.get? k).filter (fun b => b.userId = 2) := by
  have hsweep : (bazaar (fun v => v ≠ 2)).Run (neighbourWaits, 0) (neighbourWaits, (lateSweep, lateSweep.code) ::ₘ 0) :=
    Pool.Run.start .refl (show (3 : Uuid) ≠ 2 by decide)
  have hread := hsweep.trans (Pool.run_of_advance (bazaar (fun v => v ≠ 2)) (answers .asStored) id
    (fun _ _ => .answered .asStored) lateSweep 1 lateSweep.code neighbourWaits 0)
  have hboth := Pool.Run.start (i := lateOffer) hread (show (1 : Uuid) ≠ 2 by decide)
  have hoffer := hboth.trans (Pool.run_of_exec (bazaar (fun v => v ≠ 2)) (answers .asStored) id
    (fun _ _ => .answered .asStored) lateOffer lateOffer.code _ _)
  have hend := hoffer.trans (Pool.run_of_exec (bazaar (fun v => v ≠ 2)) (answers .asStored) id
    (fun _ _ => .answered .asStored) lateSweep _ _ _)
  obtain ⟨hpayments, hbookings, -⟩ := interleaved_apart 2 neighbourWaits _ hend
  exact ⟨_, hend, by decide +kernel, by decide +kernel, by decide +kernel, hpayments, hbookings⟩

end Krishi
