import KrishiBazaar.Schema
/-!
# Marketplace — offer expiry, idle lots and buyer reliability

`app/services/marketplace.py`: what the routers share.  Each function of the database is followed by its spec, the
response and the database it leaves, so that no handler's proof opens it again.
-/
namespace Krishi

open Lib

def offerTtlHours : Int := 48

def offerExpiresAt (offer : Offer) (ttlHours : Int) : Time := offer.createdAt + hours ttlHours

def offerIsStale (offer : Offer) (now : Time) (ttlHours : Int) : Bool :=
  if offer.status ≠ .pending then false
  else hours ttlHours < now - offer.createdAt

/-- An offer as the API returns it. -/
structure OfferOut where
  offer : Offer
  expiresAt : Time
  deriving DecidableEq, Repr

def withExpiry (offer : Offer) (ttlHours : Int) : OfferOut := ⟨offer, offerExpiresAt offer ttlHours⟩

theorem offerIsStale_iff (offer : Offer) (now : Time) (ttlHours : Int) :
    offerIsStale offer now ttlHours = true ↔ offer.status = .pending ∧ hours ttlHours < now - offer.createdAt := by
  unfold offerIsStale
  split
  · rename_i h
    simp [h]
  · rename_i h
    simp [not_not.1 h]

/-! ## Writes -/

def Lot.setStatus (s : LotStatus) : Patch Lot.id Lot.check :=
  ⟨fun l => { l with status := s }, fun _ => rfl, fun _ h => h⟩

/-- The `updated_at` trigger stamps the row. -/
def Offer.setStatus (s : OfferStatus) (now : Time) : Patch Offer.id Offer.check :=
  ⟨fun o => { o with status := s, updatedAt := now }, fun _ => rfl, fun _ h => h⟩

def Buyer.setReliability (g : Reliability) : Patch Buyer.id noCheck :=
  ⟨fun b => { b with paymentReliability := some g }, fun _ => rfl, fun _ h => h⟩

namespace DB

def setLotStatus (db : DB) (lotId : Uuid) (s : LotStatus) : DB :=
  { db with lots := db.lots.update (fun l => l.id = lotId) (Lot.setStatus s) }

def setOfferStatus (db : DB) (offerId : Uuid) (s : OfferStatus) (now : Time) : DB :=
  { db with offers := db.offers.update (fun o => o.id = offerId) (Offer.setStatus s now) }

def setReliability (db : DB) (buyerId : Uuid) (g : Reliability) : DB :=
  { db with buyers := db.buyers.update (fun b => b.id = buyerId) (Buyer.setReliability g) }

variable (db : DB)

@[simp] theorem setLotStatus_offers (lotId s) : (db.setLotStatus lotId s).offers = db.offers := rfl
@[simp] theorem setLotStatus_payments (lotId s) : (db.setLotStatus lotId s).payments = db.payments := rfl
@[simp] theorem setLotStatus_bookings (lotId s) :
    (db.setLotStatus lotId s).logisticsBookings = db.logisticsBookings := rfl
@[simp] theorem setOfferStatus_lots (offerId s now) : (db.setOfferStatus offerId s now).lots = db.lots := rfl
@[simp] theorem setOfferStatus_payments (offerId s now) : (db.setOfferStatus offerId s now).payments = db.payments := rfl
@[simp] theorem setOfferStatus_bookings (offerId s now) :
    (db.setOfferStatus offerId s now).logisticsBookings = db.logisticsBookings := rfl

@[simp] theorem get?_setLotStatus (lotId : Uuid) (s : LotStatus) (k : Uuid) :
    (db.setLotStatus lotId s).lots.get? k
      = (db.lots.get? k).map (fun l => if k = lotId then { l with status := s } else l) := by
  show (db.lots.update _ _).get? k = _
  rw [Table.get?_update]
  cases h : db.lots.get? k with
  | none => rfl
  | some l => simp [Table.key_of_get? h, Lot.setStatus]

@[simp] theorem get?_setOfferStatus (offerId : Uuid) (s : OfferStatus) (now : Time) (k : Uuid) :
    (db.setOfferStatus offerId s now).offers.get? k
      = (db.offers.get? k).map (fun o => if k = offerId then { o with status := s, updatedAt := now } else o) := by
  show (db.offers.update _ _).get? k = _
  rw [Table.get?_update]
  cases h : db.offers.get? k with
  | none => rfl
  | some o => simp [Table.key_of_get? h, Offer.setStatus]

end DB

/-! ## Reopening a lot nobody bids on -/

def reopenLotIfIdle (lotId : Uuid) : Handler Bool := do
  let pending ← select offers fun o => o.lotId = lotId ∧ o.status = .pending
  if pending ≠ [] then pure false
  else
    let lotRows ← select lots fun l => l.id = lotId
    match lotRows with
    | [] => pure false
    | lot :: _ =>
      if lot.status ≠ .offered then pure false
      else
        let _ ← update lots (fun l => l.id = lotId) (Lot.setStatus .open)
        pure true

/-- An offered lot without a pending offer. -/
def idle (db : DB) (lotId : Uuid) : Bool :=
  (∀ o ∈ db.offers.rows, o.lotId = lotId → ¬ o.status = .pending) ∧ ∃ l ∈ db.lots.get? lotId, l.status = .offered

def reopened (db : DB) (lotId : Uuid) : DB := if idle db lotId then db.setLotStatus lotId .open else db

theorem handle_reopenLotIfIdle (o : RowOrder) (lotId : Uuid) (db : DB) :
    handle o (reopenLotIfIdle lotId) db = (.ok (idle db lotId), reopened db lotId) := by
  unfold reopenLotIfIdle reopened idle
  by_cases hp : ∀ o ∈ db.offers.rows, o.lotId = lotId → ¬ o.status = .pending
  · cases hl : db.lots.get? lotId with
    | none => simp [offers, lots, hl]
    | some l =>
      by_cases hs : l.status = .offered
      · simp [offers, lots, eq_true hp, hl, hs, DB.setLotStatus]
      · simp [offers, lots, hl, hs]
  · simp [offers, eq_false hp]

/-! ## Expiring stale offers -/

/-- One round of `expire_stale_offers`: the ids expired so far and the number of lots reopened. -/
def expireOffer (ttlHours : Int) (now : Time) (acc : List Uuid × Nat) (offer : Offer) : Handler (List Uuid × Nat) := do
  if ¬ offerIsStale offer now ttlHours then pure acc
  else
    let _ ← update offers (fun o => o.id = offer.id) (Offer.setStatus .expired now)
    let isReopened ← reopenLotIfIdle offer.lotId
    pure (acc.1 ++ [offer.id], if isReopened then acc.2 + 1 else acc.2)

structure ExpireSummary where
  expired : Nat
  lotsReopened : Nat
  offerIds : List Uuid
  deriving DecidableEq, Repr

def expireStaleOffers (ttlHours : Int) (now : Time) : Handler ExpireSummary := do
  let pending ← selectLimit offers (fun o => o.status = .pending) 500
  let acc ← pending.foldlM (expireOffer ttlHours now) ([], 0)
  pure ⟨acc.1.length, acc.2, acc.1⟩

/-- What a round of the sweep leaves. -/
def expireOne (ttlHours : Int) (now : Time) (db : DB) (offer : Offer) : DB :=
  if offerIsStale offer now ttlHours then reopened (db.setOfferStatus offer.id .expired now) offer.lotId else db

def expireRound (ttlHours : Int) (now : Time) (x : (List Uuid × Nat) × DB) (offer : Offer) : (List Uuid × Nat) × DB :=
  if offerIsStale offer now ttlHours then
    ((x.1.1 ++ [offer.id], if idle (x.2.setOfferStatus offer.id .expired now) offer.lotId then x.1.2 + 1 else x.1.2),
      expireOne ttlHours now x.2 offer)
  else x

theorem handle_expireOffer (o : RowOrder) (ttlHours : Int) (now : Time) (acc : List Uuid × Nat) (offer : Offer)
    (db : DB) : handle o (expireOffer ttlHours now acc offer) db
      = (.ok (expireRound ttlHours now (acc, db) offer).1, (expireRound ttlHours now (acc, db) offer).2) := by
  unfold expireOffer expireRound expireOne
  by_cases h : offerIsStale offer now ttlHours = true
  · simp only [h, not_true, if_false, if_true, handle_bind, handle_update, Prog.onOk_ok, handle_reopenLotIfIdle,
      handle_pure]
    rfl
  · simp [h]

theorem expireRound_snd (ttlHours : Int) (now : Time) (x : (List Uuid × Nat) × DB) (offer : Offer) :
    (expireRound ttlHours now x offer).2 = expireOne ttlHours now x.2 offer := by
  unfold expireRound
  split
  · rfl
  · rename_i h
    simp [expireOne, h]

/-- The pending offers a sweep looks at. -/
def swept (o : RowOrder) (db : DB) : List Offer :=
  (o.order (db.offers.rows.filter (fun x => x.status = .pending))).take 500

theorem mem_swept {o : RowOrder} {db : DB} {x : Offer} (h : x ∈ swept o db) :
    x ∈ db.offers.rows ∧ x.status = .pending := by
  have := o.mem_order.1 (List.mem_of_mem_take h)
  simpa using this

theorem foldl_expireRound_snd (ttlHours : Int) (now : Time) : ∀ (l : List Offer) (x : (List Uuid × Nat) × DB),
    (l.foldl (expireRound ttlHours now) x).2 = l.foldl (expireOne ttlHours now) x.2
  | [], _ => rfl
  | a :: l, x => by
    rw [List.foldl_cons, List.foldl_cons, foldl_expireRound_snd ttlHours now l, expireRound_snd]

/-- **A sweep expires the stale offers it looks at, one after the other.** -/
theorem handle_expireStaleOffers (o : RowOrder) (ttlHours : Int) (now : Time) (db : DB) :
    (handle o (expireStaleOffers ttlHours now) db).2 = (swept o db).foldl (expireOne ttlHours now) db := by
  unfold expireStaleOffers
  rw [handle_bind, handle_selectLimit, Prog.onOk_ok, handle_bind,
    handle_foldlM o db _ (expireRound ttlHours now) (fun b a db => handle_expireOffer o ttlHours now b a db),
    Prog.onOk_ok, handle_pure]
  exact foldl_expireRound_snd ttlHours now _ _

/-! ## Buyer reliability -/

def scorePaymentReliability (paid failed disputed openPaymentGrievances : Nat) : Option Reliability :=
  if paid + failed + disputed + openPaymentGrievances = 0 then none
  else
    let score : Int := 50 + 15 * paid - 20 * failed - 30 * disputed - 15 * openPaymentGrievances
    if 70 ≤ score then some .high
    else if 40 ≤ score then some .medium
    else some .low

def countStatus (rows : List Payment) (s : PaymentStatus) : Nat := (rows.filter (fun p => p.status = s)).length

def countOpen (rows : List Grievance) : Nat :=
  (rows.filter (fun g => g.status = .open ∨ g.status = .inProgress)).length

/-- Payments and payment grievances on the buyer's offers. -/
def buyerEvidence (offerIds : List Uuid) : Handler (List Payment × List Grievance) :=
  if offerIds = [] then pure ([], [])
  else do
    let paid ← select payments fun p => p.offerId ∈ offerIds
    let grief ← select grievances fun g => (∃ i ∈ g.offerId, i ∈ offerIds) ∧ g.category = .payment
    pure (paid, grief)

def recomputeBuyerReliability (buyerId : Uuid) : Handler (Option Reliability) := do
  let offerRows ← select offers fun o => o.buyerId = buyerId
  let evidence ← buyerEvidence (offerRows.map (·.id))
  match scorePaymentReliability (countStatus evidence.1 .paid) (countStatus evidence.1 .failed)
      (countStatus evidence.1 .disputed) (countOpen evidence.2) with
  | none => pure none
  | some grade =>
    let _ ← update buyers (fun b => b.id = buyerId) (Buyer.setReliability grade)
    pure (some grade)

/-! ## What the tables hold on a buyer -/

namespace DB

def offerBuyer (db : DB) (offerId : Uuid) : Option Uuid := (db.offers.get? offerId).map (·.buyerId)

def buyerPayments (db : DB) (buyerId : Uuid) : List Payment :=
  db.payments.rows.filter (fun p => db.offerBuyer p.offerId = some buyerId)

def buyerGrievances (db : DB) (buyerId : Uuid) : List Grievance :=
  db.grievances.rows.filter (fun g => g.offerId.bind db.offerBuyer = some buyerId ∧ g.category = .payment)

/-- The score of the counts in the tables, and of `filed` more open grievances. -/
def score (db : DB) (buyerId : Uuid) (filed : Nat) : Option Reliability :=
  scorePaymentReliability (countStatus (db.buyerPayments buyerId) .paid) (countStatus (db.buyerPayments buyerId) .failed)
    (countStatus (db.buyerPayments buyerId) .disputed) (countOpen (db.buyerGrievances buyerId) + filed)

/-- A buyer rescored: without evidence the grade stays. -/
def regraded (db : DB) (buyerId : Uuid) : DB := (db.score buyerId 0).elim db (db.setReliability buyerId)

end DB

theorem countStatus_perm {l l' : List Payment} (h : l.Perm l') (s : PaymentStatus) : countStatus l s = countStatus l' s :=
  (h.filter _).length_eq

theorem countOpen_perm {l l' : List Grievance} (h : l.Perm l') : countOpen l = countOpen l' := (h.filter _).length_eq

/-- The evidence read is what the tables hold on the buyer, in some order. -/
theorem handle_buyerEvidence (o : RowOrder) (db : DB) (buyerId : Uuid) {offerIds : List Uuid}
    (h : ∀ i, i ∈ offerIds ↔ db.offerBuyer i = some buyerId) :
    ∃ e, handle o (buyerEvidence offerIds) db = (.ok e, db) ∧ e.1.Perm (db.buyerPayments buyerId) ∧
      e.2.Perm (db.buyerGrievances buyerId) := by
  have hp : db.payments.rows.filter (fun p => p.offerId ∈ offerIds) = db.buyerPayments buyerId :=
    List.filter_congr (fun p _ => by simp [h])
  have hg : db.grievances.rows.filter (fun g => (∃ i ∈ g.offerId, i ∈ offerIds) ∧ g.category = .payment)
      = db.buyerGrievances buyerId :=
    List.filter_congr (fun g _ => by cases g.offerId <;> simp [h])
  unfold buyerEvidence
  split
  · rename_i hnil
    subst hnil
    refine ⟨([], []), rfl, ?_, ?_⟩
    · rw [← hp]
      simp
    · rw [← hg]
      simp
  · refine ⟨(o.order (db.buyerPayments buyerId), o.order (db.buyerGrievances buyerId)), ?_, o.perm _, o.perm _⟩
    rw [handle_bind, handle_select, Prog.onOk_ok, handle_bind, handle_select, Prog.onOk_ok, handle_pure, ← hp, ← hg]
    rfl

/-- **Rescoring a buyer writes the score of what the tables hold**, if they hold any evidence. -/
theorem handle_recomputeBuyerReliability (o : RowOrder) (buyerId : Uuid) (db : DB) :
    handle o (recomputeBuyerReliability buyerId) db = (.ok (db.score buyerId 0), db.regraded buyerId) := by
  obtain ⟨e, he, hp, hg⟩ := handle_buyerEvidence o db buyerId (fun _ => o.mem_keys_filter)
  have hscore : scorePaymentReliability (countStatus e.1 .paid) (countStatus e.1 .failed) (countStatus e.1 .disputed)
      (countOpen e.2) = db.score buyerId 0 := by
    unfold DB.score
    rw [countStatus_perm hp, countStatus_perm hp, countStatus_perm hp, countOpen_perm hg, Nat.add_zero]
  unfold recomputeBuyerReliability DB.regraded
  rw [handle_bind, handle_select, Prog.onOk_ok, handle_bind]
  refine (congrArg (fun x => Prog.onOk x _) he).trans ?_
  rw [Prog.onOk_ok, hscore]
  cases db.score buyerId 0 with
  | none => rfl
  | some g => simp [buyers, DB.setReliability]

end Krishi
