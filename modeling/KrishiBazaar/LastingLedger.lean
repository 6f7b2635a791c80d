import KrishiBazaar.Interleaved
import KrishiBazaar.Ledger
/-!
# LastingLedger — what was once on a lot's ledger

No table keeps the ledger: it is read off the offers, payments and bookings each time it is asked for.  None of these is
lost, whatever is interleaved and cut off, so its owner always finds the ledger again with all that was on it, each the
same but for its status and its time (`ledger_lasts`).
-/
namespace Krishi

open Lib

section Rows

variable (text : Time → String)

/-- The ledger has the lot's offers, their payments and the lot's bookings, and an event for each. -/
structure LedgerHas (db : DB) (lot : Lot) (L : Ledger) : Prop where
  isLot : L.lot = lot
  offers : ∀ x, x ∈ L.offers ↔ x ∈ db.offers.rows ∧ x.lotId = lot.id
  payments : ∀ p, p ∈ L.payments ↔ p ∈ db.payments.rows ∧ db.offerLot p.offerId = some lot.id
  bookings : ∀ b, b ∈ L.bookings ↔ b ∈ db.logisticsBookings.rows ∧ b.lotId = lot.id
  events : (∀ x ∈ L.offers, offerEvent text x ∈ L.events) ∧ (∀ p ∈ L.payments, paymentEvent text p ∈ L.events) ∧
    ∀ b ∈ L.bookings, bookingEvent text b ∈ L.events

theorem shows_ledgerOf (lot : Lot) (offerRows : List Offer) (paymentRows : List Payment) (grievanceRows : List Grievance)
    (bookingRows : List LogisticsBooking) :
    let L := ledgerOf text lot offerRows paymentRows grievanceRows bookingRows
    (∀ x ∈ L.offers, offerEvent text x ∈ L.events) ∧ (∀ p ∈ L.payments, paymentEvent text p ∈ L.events) ∧
      ∀ b ∈ L.bookings, bookingEvent text b ∈ L.events := by
  refine ⟨fun x (hx : x ∈ offerRows) => ?_, fun p (hp : p ∈ paymentRows) => ?_, fun b (hb : b ∈ bookingRows) => ?_⟩
  · refine (List.mem_insertionSort _).2 ?_
    simp only [List.mem_append]
    exact Or.inl (Or.inl (Or.inl (Or.inr (List.mem_map_of_mem hx))))
  · refine (List.mem_insertionSort _).2 ?_
    simp only [List.mem_append]
    exact Or.inl (Or.inl (Or.inr (List.mem_map_of_mem hp)))
  · refine (List.mem_insertionSort _).2 ?_
    simp only [List.mem_append]
    exact Or.inr (List.mem_map_of_mem hb)

theorem handle_lotLedger_shows (o : RowOrder) (db : DB) (lot : Lot) :
    ∃ L, handle o (lotLedger text lot) db = (.ok L, db) ∧ LedgerHas text db lot L := by
  obtain ⟨paymentRows, hpay, hperm⟩ := handle_ledgerPayments o db lot (fun _ => o.mem_keys_filter)
  refine ⟨ledgerOf text lot (o.order (db.offers.rows.filter (fun x => x.lotId = lot.id))) paymentRows
    (o.order (db.grievances.rows.filter (fun g => g.lotId = some lot.id)))
    (o.order (db.logisticsBookings.rows.filter (fun b => b.lotId = lot.id))), ?_, rfl, fun x => ?_, fun p => ?_,
    fun b => ?_, shows_ledgerOf text lot _ _ _ _⟩
  · unfold lotLedger
    rw [handle_bind, handle_select, Prog.onOk_ok, handle_bind]
    refine (congrArg (fun x => Prog.onOk x _) hpay).trans ?_
    rw [Prog.onOk_ok, handle_bind, handle_select, Prog.onOk_ok, handle_bind, handle_select, Prog.onOk_ok, handle_pure]
    rfl
  · show x ∈ o.order _ ↔ _
    rw [o.mem_order, List.mem_filter, decide_eq_true_iff]
  · show p ∈ paymentRows ↔ _
    rw [hperm.mem_iff, List.mem_filter, decide_eq_true_iff]
  · show b ∈ o.order _ ↔ _
    rw [o.mem_order, List.mem_filter, decide_eq_true_iff]

end Rows

/-- **What is on the ledger stays on it**, each entry the same but for its status and its time. -/
structure Continues (text : Time → String) (L L' : Ledger) : Prop where
  lot : SameLot L.lot L'.lot
  offers : ∀ x ∈ L.offers, ∃ x' ∈ L'.offers, SameOffer x x' ∧ offerEvent text x' ∈ L'.events
  payments : ∀ p ∈ L.payments, ∃ p' ∈ L'.payments, SamePayment p p' ∧ paymentEvent text p' ∈ L'.events
  bookings : ∀ b ∈ L.bookings, ∃ b' ∈ L'.bookings, BookingKept b b' ∧ bookingEvent text b' ∈ L'.events

theorem LedgerHas.continues {text : Time → String} {db db' : DB} {lot lot' : Lot} {L L' : Ledger}
    (h : LedgerHas text db lot L) (h' : LedgerHas text db' lot' L') (hlot : SameLot lot lot') (hid : lot'.id = lot.id)
    (hlast : Lasting none db db') : Continues text L L' := by
  have hoffer : ∀ x ∈ db.offers.rows, ∃ x', db'.offers.get? x.id = some x' ∧ SameOffer x x' := by
    intro x hx
    obtain ⟨x', hx', hsame, -⟩ := hlast.offers.old (Table.get?_of_mem hx)
    exact ⟨x', hx', hsame⟩
  refine ⟨?_, fun x hx => ?_, fun p hp => ?_, fun b hb => ?_⟩
  · rw [h.isLot, h'.isLot]
    exact hlot
  · obtain ⟨hrow, hon⟩ := (h.offers x).1 hx
    obtain ⟨x', hx', hsame⟩ := hoffer x hrow
    have hmem : x' ∈ L'.offers := (h'.offers x').2 ⟨Table.mem_of_get? hx', by rw [hsame.keeps.1, hon, hid]⟩
    exact ⟨x', hmem, hsame, h'.events.1 x' hmem⟩
  · obtain ⟨hrow, hon⟩ := (h.payments p).1 hp
    obtain ⟨p', hp', hsame, -⟩ := hlast.payments.old (Table.get?_of_mem hrow)
    have hon' : db'.offerLot p'.offerId = some lot'.id := by
      obtain ⟨x, hx, hxlot⟩ := Option.map_eq_some_iff.1 hon
      obtain ⟨x', hx', hsame'⟩ := hoffer x (Table.mem_of_get? hx)
      rw [Table.key_of_get? hx] at hx'
      rw [hsame.keeps.1, hid, ← hxlot, ← hsame'.keeps.1]
      exact congrArg (Option.map (·.lotId)) hx'
    have hmem : p' ∈ L'.payments := (h'.payments p').2 ⟨Table.mem_of_get? hp', hon'⟩
    exact ⟨p', hmem, hsame, h'.events.2.1 p' hmem⟩
  · obtain ⟨hrow, hon⟩ := (h.bookings b).1 hb
    obtain ⟨b', hb', hsame, -⟩ := hlast.bookings.old (Table.get?_of_mem hrow)
    have hmem : b' ∈ L'.bookings :=
      (h'.bookings b').2 ⟨Table.mem_of_get? hb', by rw [hsame.keeps.1, hon, hid]⟩
    exact ⟨b', hmem, hsame, h'.events.2.2 b' hmem⟩

/-- **Whatever requests are interleaved, and wherever they are cut off, the owner of a lot finds its ledger again** with
all that was on it. -/
theorem ledger_lasts (text : Time → String) (db : DB) (c : DB × (bazaar (fun _ => True)).Threads)
    (hrun : (bazaar (fun _ => True)).Run (db, 0) c) (o o' : RowOrder) (lotId userId : Uuid) {lot : Lot} {L : Ledger}
    (hlot : db.lots.get? lotId = some lot) (howner : lot.userId = userId)
    (hread : handle o (getLotLedger text lotId userId) db = (.ok L, db)) :
    ∃ L', handle o' (getLotLedger text lotId userId) c.1 = (.ok L', c.1) ∧ Continues text L L' := by
  have hlast : Lasting none db c.1 := lasting_of_reach (reach_apart (fun v _ => Option.not_mem_none v) hrun)
  obtain ⟨lot', hlot', hsame⟩ := hlast.lots.old hlot
  have hfilter : ∀ {l : Lot}, l.userId = userId → (some l).filter (fun lot => lot.isOf userId) = some l := fun hu => by
    simp [Option.filter_some, Lot.isOf, hu]
  obtain ⟨L₀, hL₀, hshows⟩ := handle_lotLedger_shows text o db lot
  obtain ⟨L', hL', hshows'⟩ := handle_lotLedger_shows text o' c.1 lot'
  rw [handle_getLotLedger, hlot, hfilter howner, Option.elim, hL₀] at hread
  obtain rfl := Except.ok.inj (congrArg Prod.fst hread)
  refine ⟨L', ?_, hshows.continues hshows' hsame ?_ hlast⟩
  · rw [handle_getLotLedger, hlot', hfilter (hsame.keeps.1.trans howner), Option.elim, hL']
  · rw [Table.key_of_get? hlot, Table.key_of_get? hlot']

theorem handle_getLotLedger_snd (text : Time → String) (o : RowOrder) (lotId userId : Uuid) (db : DB) :
    (handle o (getLotLedger text lotId userId) db).2 = db := by
  rw [handle_getLotLedger]
  cases (db.lots.get? lotId).filter (fun lot => lot.isOf userId) with
  | none => rfl
  | some lot =>
    obtain ⟨L, hL, -⟩ := handle_lotLedger_shows text o db lot
    rw [Option.elim_some, hL]

/-- Offer 21 as it was made. -/
def firstOfferRow : Offer := ⟨21, 11, 1, 1, 20, 10, .pending, 0, 0⟩

/-- Farmer 1's ledger of lot 11 once it is offered. -/
def offeredLedger : Ledger := ledgerOf epochText offeredLot [firstOfferRow] [] [] []

/-- The offer is still on the ledger once the lot is sold, as an accepted one. -/
theorem ledger_lasts_firstSale : offeredLedger.events.map (·.type) = ["lot_created", "offer_pending"] ∧
    ∃ L', handle .asStored (getLotLedger epochText 11 1) (after step firstDay firstSale)
      = (.ok L', after step firstDay firstSale) ∧ Continues epochText offeredLedger L' := by
  refine ⟨by decide +kernel, ?_⟩
  have hrun : (bazaar (fun _ => True)).Run (after step firstDay firstOffer, 0)
      (after step (after step firstDay firstOffer) (firstSale.drop 2), 0) :=
    run_requests _ _ _ (fun _ _ => trivial)
  have hlot : (after step firstDay firstOffer).lots.get? 11 = some offeredLot := by decide +kernel
  have hread : handle .asStored (getLotLedger epochText 11 1) (after step firstDay firstOffer)
      = (.ok offeredLedger, after step firstDay firstOffer) :=
    Prod.ext (by decide +kernel) (handle_getLotLedger_snd epochText .asStored 11 1 _)
  exact ledger_lasts epochText _ _ hrun .asStored .asStored 11 1 hlot rfl hread

end Krishi
