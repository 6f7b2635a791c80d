import KrishiBazaar.Grievances
import KrishiBazaar.Requests
import Mathlib.Data.String.Basic
/-!
# Ledger — the timeline of a lot

`lot_ledger` of `app/services/marketplace.py`: the lot, its offers, their payments, its complaints and its bookings as one
list of events, sorted by the text of their times (`text` is how the database writes a time).  It finds a payment by its
offer but a complaint only by its lot, and `create_grievance` takes a complaint that names the offer alone.
-/
namespace Krishi

open Lib

def GrievanceStatus.text : GrievanceStatus → String
  | .open => "open"
  | .inProgress => "in_progress"
  | .resolved => "resolved"
  | .rejected => "rejected"

def BookingStatus.text : BookingStatus → String
  | .requested => "requested"
  | .confirmed => "confirmed"
  | .cancelled => "cancelled"
  | .completed => "completed"

inductive LedgerDetail
  | lot (status : LotStatus) (quantityQtl : ℚ) (grade : Grade) (askingPrice : Option ℚ)
  | offer (offerId buyerId : Uuid) (pricePerQtl quantityQtl : ℚ)
  | payment (paymentId offerId : Uuid) (amount : ℚ) (reference : Option String)
  | grievance (grievanceId : Uuid) (category : GrievanceCategory) (description : String)
  | booking (bookingId logisticsId : Uuid) (kind : LogisticsKind) (quantityQtl : ℚ)
  deriving DecidableEq, Repr

structure LedgerEvent where
  atText : String
  type : String
  detail : LedgerDetail
  deriving DecidableEq, Repr

structure Ledger where
  lot : Lot
  offers : List Offer
  payments : List Payment
  grievances : List Grievance
  bookings : List LogisticsBooking
  events : List LedgerEvent
  deriving DecidableEq

section Events

variable (text : Time → String)

/-- The first of two times that has a text. -/
def firstText (t : Option Time) (t' : Time) : String :=
  ((t.map text).filter (fun s => s ≠ "")).getD (text t')

def lotEvent (lot : Lot) : LedgerEvent :=
  ⟨text lot.createdAt, "lot_created", .lot lot.status lot.quantityQtl lot.grade lot.askingPrice⟩

def offerEvent (o : Offer) : LedgerEvent :=
  ⟨firstText text (some o.updatedAt) o.createdAt, s!"offer_{o.status.text}",
    .offer o.id o.buyerId o.pricePerQtl o.quantityQtl⟩

def paymentEvent (p : Payment) : LedgerEvent :=
  ⟨firstText text p.paidAt p.createdAt, s!"payment_{p.status.text}", .payment p.id p.offerId p.amount p.reference⟩

def grievanceEvent (g : Grievance) : LedgerEvent :=
  ⟨firstText text (some g.updatedAt) g.createdAt, s!"grievance_{g.status.text}", .grievance g.id g.category g.description⟩

def bookingEvent (b : LogisticsBooking) : LedgerEvent :=
  ⟨firstText text (some b.updatedAt) b.createdAt, s!"booking_{b.status.text}",
    .booking b.id b.logisticsId b.kind b.quantityQtl⟩

/-- The payments of the offers found, without a request if there are none. -/
def ledgerPayments (offerIds : List Uuid) : Handler (List Payment) :=
  if offerIds = [] then pure []
  else select payments fun p => p.offerId ∈ offerIds

/-- The answer of `lot_ledger` on the rows it read; the sort is stable. -/
def ledgerOf (lot : Lot) (offerRows : List Offer) (paymentRows : List Payment) (grievanceRows : List Grievance)
    (bookingRows : List LogisticsBooking) : Ledger :=
  let created := if text lot.createdAt ≠ "" then [lotEvent text lot] else []
  let events := created ++ offerRows.map (offerEvent text) ++ paymentRows.map (paymentEvent text) ++
    grievanceRows.map (grievanceEvent text) ++ bookingRows.map (bookingEvent text)
  { lot := lot
    offers := offerRows
    payments := paymentRows
    grievances := grievanceRows
    bookings := bookingRows
    events := events.insertionSort (fun a b => a.atText ≤ b.atText) }

def lotLedger (lot : Lot) : Handler Ledger := do
  let offerRows ← select offers fun o => o.lotId = lot.id
  let paymentRows ← ledgerPayments (offerRows.map (·.id))
  let grievanceRows ← select grievances fun g => g.lotId = some lot.id
  let bookingRows ← select logisticsBookings fun b => b.lotId = lot.id
  pure (ledgerOf text lot offerRows paymentRows grievanceRows bookingRows)

def getLotLedger (lotId userId : Uuid) : Handler Ledger := do
  let rows ← select lots fun l => l.id = lotId
  match rows with
  | [] => throw ⟨404, "lot not found"⟩
  | lot :: _ => if ¬ lot.isOf userId then throw ⟨404, "lot not found"⟩ else lotLedger text lot

/-! ## What belongs on the ledger -/

/-- The lot of an offer. -/
def DB.offerLot (db : DB) (offerId : Uuid) : Option Uuid := (db.offers.get? offerId).map (·.lotId)

/-- One event for the lot, each offer on it, each payment on one of these, each complaint selected by `about`, and
each booking of the lot. -/
def trail (db : DB) (lot : Lot) (about : Grievance → Bool) : List LedgerEvent :=
  [lotEvent text lot] ++ (db.offers.rows.filter (fun o => o.lotId = lot.id)).map (offerEvent text) ++
    (db.payments.rows.filter (fun p => db.offerLot p.offerId = some lot.id)).map (paymentEvent text) ++
    (db.grievances.rows.filter about).map (grievanceEvent text) ++
    (db.logisticsBookings.rows.filter (fun b => b.lotId = lot.id)).map (bookingEvent text)

/-- A complaint about the lot, or about an offer on it. -/
def aboutLot (db : DB) (lotId : Uuid) (g : Grievance) : Bool :=
  g.lotId = some lotId ∨ g.offerId.bind db.offerLot = some lotId

/-- **The ledger is complete**: one event for each of them and no other, in the order of their times as text. -/
structure Complete (db : DB) (lot : Lot) (events : List LedgerEvent) : Prop where
  exact : events.Perm (trail text db lot (aboutLot db lot.id))
  sorted : events.Pairwise (fun a b => a.atText ≤ b.atText)

/-! ## What the ledger has -/

variable (o : RowOrder) (db : DB) (lot : Lot)

theorem handle_ledgerPayments {offerIds : List Uuid} (h : ∀ i, i ∈ offerIds ↔ db.offerLot i = some lot.id) :
    ∃ rows, handle o (ledgerPayments offerIds) db = (.ok rows, db) ∧
      rows.Perm (db.payments.rows.filter (fun p => db.offerLot p.offerId = some lot.id)) := by
  have hp : db.payments.rows.filter (fun p => p.offerId ∈ offerIds)
      = db.payments.rows.filter (fun p => db.offerLot p.offerId = some lot.id) :=
    List.filter_congr (fun p _ => by simp [h])
  unfold ledgerPayments
  rw [← hp]
  split
  · rename_i hnil
    subst hnil
    exact ⟨[], rfl, by simp⟩
  · exact ⟨_, handle_select o db payments _, o.perm _⟩

/-- **The events are those of the lot's own complaints**, sorted. -/
theorem handle_lotLedger (h : text lot.createdAt ≠ "") : ∃ ledger, handle o (lotLedger text lot) db = (.ok ledger, db) ∧
    ledger.events.Perm (trail text db lot (fun g => g.lotId = some lot.id)) ∧
    ledger.events.Pairwise (fun a b => a.atText ≤ b.atText) := by
  obtain ⟨paymentRows, hpay, hperm⟩ := handle_ledgerPayments o db lot (fun _ => o.mem_keys_filter)
  refine ⟨ledgerOf text lot (o.order (db.offers.rows.filter (fun x => x.lotId = lot.id))) paymentRows
    (o.order (db.grievances.rows.filter (fun g => g.lotId = some lot.id)))
    (o.order (db.logisticsBookings.rows.filter (fun b => b.lotId = lot.id))), ?_, ?_, List.pairwise_insertionSort _ _⟩
  · unfold lotLedger
    rw [handle_bind, handle_select, Prog.onOk_ok, handle_bind]
    refine (congrArg (fun x => Prog.onOk x _) hpay).trans ?_
    rw [Prog.onOk_ok, handle_bind, handle_select, Prog.onOk_ok, handle_bind, handle_select, Prog.onOk_ok, handle_pure]
    rfl
  · refine (List.perm_insertionSort _ _).trans ?_
    rw [if_pos h]
    unfold trail
    refine List.Perm.append (List.Perm.append (List.Perm.append (List.Perm.append (List.Perm.refl _) ?_) ?_) ?_) ?_
    · exact (o.perm _).map _
    · exact hperm.map _
    · exact (o.perm _).map _
    · exact (o.perm _).map _

/-- **The ledger is complete** exactly when every complaint about an offer on the lot names the lot as well. -/
theorem lotLedger_complete_iff (h : text lot.createdAt ≠ "") :
    ∃ ledger, handle o (lotLedger text lot) db = (.ok ledger, db) ∧ (Complete text db lot ledger.events ↔
      ∀ g ∈ db.grievances.rows, g.offerId.bind db.offerLot = some lot.id → g.lotId = some lot.id) := by
  obtain ⟨ledger, hledger, hperm, hsorted⟩ := handle_lotLedger text o db lot h
  have hsub : ∀ g : Grievance, decide (g.lotId = some lot.id) = true → aboutLot db lot.id g = true := by
    intro g hg
    exact decide_eq_true (Or.inl (of_decide_eq_true hg))
  have hfilter : (db.grievances.rows.filter (aboutLot db lot.id)).filter (fun g => g.lotId = some lot.id)
      = db.grievances.rows.filter (fun g => g.lotId = some lot.id) := by
    rw [List.filter_filter]
    refine List.filter_congr (fun g _ => ?_)
    by_cases hg : g.lotId = some lot.id
    · simp [hg, hsub g (decide_eq_true hg)]
    · simp [hg]
  refine ⟨ledger, hledger, fun hc g hg hoffer => ?_, fun hall => ⟨?_, hsorted⟩⟩
  · -- as many complaints are about the lot as name it, so the ones that name it are all
    have hlen := (hperm.symm.trans hc.exact).length_eq
    simp only [trail, List.length_append, List.length_map] at hlen
    have heq : db.grievances.rows.filter (fun g => g.lotId = some lot.id)
        = db.grievances.rows.filter (aboutLot db lot.id) := by
      rw [← hfilter]
      refine List.filter_sublist.eq_of_length ?_
      rw [hfilter]
      omega
    have hmem : g ∈ db.grievances.rows.filter (aboutLot db lot.id) :=
      List.mem_filter.2 ⟨hg, decide_eq_true (Or.inr hoffer)⟩
    rw [← heq] at hmem
    exact of_decide_eq_true (List.mem_filter.1 hmem).2
  · have heq : trail text db lot (fun g => g.lotId = some lot.id) = trail text db lot (aboutLot db lot.id) := by
      unfold trail
      rw [List.filter_congr (p := fun g : Grievance => decide (g.lotId = some lot.id)) (q := aboutLot db lot.id)
        (fun g hg => ?_)]
      by_cases hl : g.lotId = some lot.id
      · rw [hsub g (decide_eq_true hl), decide_eq_true hl]
      · rw [decide_eq_false hl]
        exact (decide_eq_false (fun hor => hor.elim hl (fun hoffer => hl (hall g hg hoffer)))).symm
    rw [← heq]
    exact hperm

/-- The ledger of a lot is its owner's and its FPO's to read. -/
theorem handle_getLotLedger (lotId userId : Uuid) : handle o (getLotLedger text lotId userId) db
    = ((db.lots.get? lotId).filter (fun lot => lot.isOf userId)).elim (.error ⟨404, "lot not found"⟩, db)
        (fun lot => handle o (lotLedger text lot) db) := by
  unfold getLotLedger
  rw [handle_bind, handle_select_key, Prog.onOk_ok, show (lots.get db).get? lotId = db.lots.get? lotId from rfl]
  cases db.lots.get? lotId with
  | none => rfl
  | some lot =>
    by_cases hu : lot.isOf userId
    · simp [hu, Option.filter]
    · simp [hu, Option.filter]

end Events

/-- The first moment of the clock, as the database writes it. -/
def epochText : Time → String := fun _ => "1970-01-01T00:00:00+00:00"

/-- The lot of `firstOffer`. -/
def offeredLot : Lot := ⟨11, 1, none, 1, none, 10, .general, none, none, none, .offered, 0⟩

/-- The first offer, and farmer 1's complaint about it as complaint 41. -/
def complained (lotId : Option Uuid) : DB :=
  (handle .asStored (createGrievance (latePayment lotId) 1 41 0) (after step firstDay firstOffer)).2

/-- Named with its lot, the complaint is on the ledger. -/
theorem ledger_complete_lotNamed : ∃ ledger,
    handle .asStored (lotLedger epochText offeredLot) (complained (some 11)) = (.ok ledger, complained (some 11)) ∧
      Complete epochText (complained (some 11)) offeredLot ledger.events := by
  obtain ⟨ledger, hledger, hiff⟩ := lotLedger_complete_iff epochText .asStored (complained (some 11)) offeredLot (by decide)
  refine ⟨ledger, hledger, hiff.2 (fun g hg _ => ?_)⟩
  exact of_decide_eq_true (p := ∀ g ∈ (complained (some 11)).grievances.rows, g.lotId = some 11) (by decide +kernel) g hg

/-- **Named by the offer alone, it is not**, though the offer is on the lot. -/
theorem ledger_misses_complaint : (complained none).lots.get? 11 = some offeredLot ∧ ∃ ledger,
    handle .asStored (lotLedger epochText offeredLot) (complained none) = (.ok ledger, complained none) ∧
      ¬ Complete epochText (complained none) offeredLot ledger.events := by
  obtain ⟨ledger, hledger, hperm, -⟩ := handle_lotLedger epochText .asStored (complained none) offeredLot (by decide)
  refine ⟨by decide +kernel, ledger, hledger, fun hc => ?_⟩
  exact absurd (hperm.symm.trans hc.exact).length_eq (by decide +kernel)

end Krishi
