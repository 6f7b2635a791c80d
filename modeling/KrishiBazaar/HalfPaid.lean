import KrishiBazaar.Faults
/-!
# HalfPaid — a payment marked when a call fails

`mark_paid` marks the payment, closes its lot and rescores the buyer, in nine calls.  A lot whose update answers with no
rows has the payment put back, but a call that is refused after the payment was marked leaves it paid
(`markPaid_atomic`).
-/
namespace Krishi

open Lib

/-! ## Rescoring -/

/-- A call that the store answers, and that leaves the payments and the lots. -/
def Rescores (o : RowOrder) {ρ : Type} (op : Op DB ρ) : Prop :=
  ∀ db, (∃ r, (exec o jsonForApiError op db).1 = .ok r) ∧ (exec o jsonForApiError op db).2.payments = db.payments ∧
    (exec o jsonForApiError op db).2.lots = db.lots

section Rescoring

variable {o : RowOrder}

theorem rescores_select {ρ κ : Type} {key : ρ → κ} {check : ρ → Bool} (t : Tab DB key check) (p : ρ → Bool) :
    Rescores o (.select t p) := fun _ => ⟨⟨_, rfl⟩, rfl, rfl⟩

theorem rescores_update (p : Buyer → Bool) (f : Patch Buyer.id noCheck) : Rescores o (.update buyers p f) :=
  fun _ => ⟨⟨_, rfl⟩, rfl, rfl⟩

theorem plain_buyerEvidence (offerIds : List Uuid) : (buyerEvidence offerIds).Plain (Rescores o) := by
  unfold buyerEvidence
  split
  · exact Prog.Plain.pure _
  · exact Prog.Plain.bind (Prog.Plain.perform (rescores_select _ _)) (fun _ => Prog.Plain.bind
      (Prog.Plain.perform (rescores_select _ _)) (fun _ => Prog.Plain.pure _))

theorem plain_recomputeBuyerReliability (buyerId : Uuid) : (recomputeBuyerReliability buyerId).Plain (Rescores o) := by
  refine Prog.Plain.bind (Prog.Plain.perform (rescores_select _ _)) (fun rows => ?_)
  refine Prog.Plain.bind (plain_buyerEvidence _) (fun evidence => ?_)
  split
  · exact Prog.Plain.pure _
  · exact Prog.Plain.bind (Prog.Plain.perform (rescores_update _ _)) (fun _ => Prog.Plain.pure _)

/-- The rest of the request once the lot is closed. -/
theorem plain_rescoreOfferBuyer (offerId : Uuid) (payment : Payment) :
    (rescoreOfferBuyer offerId >>= fun _ => pure payment : Handler Payment).Plain (Rescores o) := by
  refine Prog.Plain.bind (Prog.Plain.bind (Prog.Plain.perform (rescores_select _ _)) (fun rows => ?_))
    (fun _ => Prog.Plain.pure payment)
  split
  · exact Prog.Plain.pure _
  · exact Prog.Plain.bind (plain_recomputeBuyerReliability _) (fun _ => Prog.Plain.pure _)

theorem calls_buyerEvidence {offerIds : List Uuid} (h : offerIds ≠ []) (db : DB) :
    (buyerEvidence offerIds).calls (exec o jsonForApiError) db = 2 := by
  unfold buyerEvidence
  rw [if_neg h, calls_select_bind, calls_select_bind]
  rfl

theorem scorePaymentReliability_paid {paid : Nat} (h : 0 < paid) (failed disputed grievances : Nat) :
    ∃ grade, scorePaymentReliability paid failed disputed grievances = some grade := by
  unfold scorePaymentReliability
  rw [if_neg (by omega)]
  dsimp only
  split
  · exact ⟨_, rfl⟩
  · split <;> exact ⟨_, rfl⟩

/-- Rescoring the buyer of an offer that has a paid payment takes five calls, the last of which writes the grade. -/
theorem calls_rescoreOfferBuyer {db : DB} {offer : Offer} {p : Payment} (hx : db.offers.get? p.offerId = some offer)
    (hp : p ∈ db.payments.rows) (hpaid : p.status = .paid) :
    (rescoreOfferBuyer p.offerId).calls (exec o jsonForApiError) db = 5 := by
  have hmem : offer.id ∈ (o.order (db.offers.rows.filter (fun x => x.buyerId = offer.buyerId))).map (·.id) :=
    List.mem_map_of_mem (o.mem_order.2 (List.mem_filter.2 ⟨Table.mem_of_get? hx, by simp⟩))
  have hrecompute := handle_recomputeBuyerReliability o offer.buyerId db
  unfold rescoreOfferBuyer
  rw [calls_select_bind, o.order_filter_key, show (offers.get db).get? p.offerId = some offer from hx]
  dsimp only [Option.toList]
  rw [Prog.calls_bind_ok _ _ _ hrecompute]
  unfold recomputeBuyerReliability
  rw [calls_select_bind, show (offers.get db).rows = db.offers.rows from rfl]
  obtain ⟨e, he, hperm, -⟩ := handle_buyerEvidence o db offer.buyerId (fun _ => o.mem_keys_filter)
  have hcount : 0 < countStatus e.1 .paid := by
    have hbuyer : db.offerBuyer p.offerId = some offer.buyerId := by
      unfold DB.offerBuyer
      rw [hx]
      rfl
    have hpe : p ∈ e.1 := hperm.mem_iff.2 (List.mem_filter.2 ⟨hp, by simpa using hbuyer⟩)
    exact List.length_pos_of_mem (List.mem_filter.2 ⟨hpe, by simpa using hpaid⟩)
  obtain ⟨grade, hgrade⟩ := scorePaymentReliability_paid hcount (countStatus e.1 .failed) (countStatus e.1 .disputed)
    (countOpen e.2)
  rw [Prog.calls_bind_ok _ _ _ he, calls_buyerEvidence (List.ne_nil_of_mem hmem), hgrade]
  have hupdate := run_update (E := HTTPException) buyers o jsonForApiError db (fun b => b.id = offer.buyerId)
    (Buyer.setReliability grade)
  dsimp only
  rw [Prog.calls_bind_ok _ _ _ hupdate, update, Prog.calls_perform]
  rfl

end Rescoring

/-! ## Marking a payment paid -/

/-- The payment's status and time, and the status of every lot, are as they were. -/
def SameSettlement (db db' : DB) (paymentId : Uuid) : Prop :=
  (db'.payments.get? paymentId).map (fun p => (p.status, p.paidAt))
    = (db.payments.get? paymentId).map (fun p => (p.status, p.paidAt)) ∧
  ∀ lotId, (db'.lots.get? lotId).map (·.status) = (db.lots.get? lotId).map (·.status)

section MarkPaid

variable {o : RowOrder} {paymentId userId : Uuid} {now : Time} {db : DB} {p : Payment} {offer : Offer} {lot : Lot}

/-- The payment marked and its lot not yet closed. -/
def markedPaid (db : DB) (paymentId : Uuid) (now : Time) : DB := db.setPayment paymentId (Payment.setPaid now)

theorem same_markedPaid_iff (hp : db.payments.get? paymentId = some p) :
    SameSettlement db (markedPaid db paymentId now) paymentId ↔ p.status = .paid ∧ p.paidAt = some now := by
  unfold SameSettlement markedPaid
  rw [DB.get?_setPayment, hp]
  simp only [DB.setPayment_lots, implies_true, and_true, Option.map_some, if_true, Option.some.injEq, Prod.mk.injEq,
    Payment.setPaid]
  exact and_congr eq_comm eq_comm

theorem same_closed_iff (hp : db.payments.get? paymentId = some p) (hl : db.lots.get? offer.lotId = some lot) :
    SameSettlement db ((markedPaid db paymentId now).setLotStatus offer.lotId .sold) paymentId ↔
      (p.status = .paid ∧ p.paidAt = some now) ∧ lot.status = .sold := by
  rw [← same_markedPaid_iff hp]
  unfold SameSettlement
  rw [and_assoc]
  refine and_congr Iff.rfl ?_
  have hlots : (markedPaid db paymentId now).lots = db.lots := rfl
  simp only [DB.get?_setLotStatus, hlots, implies_true, true_and]
  constructor
  · intro h
    have hlot := h offer.lotId
    rw [hl] at hlot
    simpa using hlot.symm
  · intro h k
    by_cases hk : k = offer.lotId
    · subst hk
      rw [hl]
      simp [h]
    · simp [hk]

theorem same_self : SameSettlement db db paymentId := ⟨rfl, fun _ => rfl⟩

theorem same_congr {db₁ db₂ : DB} (hp : db₂.payments = db₁.payments) (hl : db₂.lots = db₁.lots) :
    SameSettlement db db₂ paymentId ↔ SameSettlement db db₁ paymentId := by
  unfold SameSettlement
  rw [hp, hl]

variable (fault : Fault) (n : Nat)

/-- A failure before the payment is marked, or of a payment that is not marked, changes nothing. -/
theorem markPaid_zero : (handleBut o fault 0 (markPaid paymentId userId now) db).2 = db := by
  unfold markPaid ownPayment
  rw [Prog.bind_assoc]
  cases fault with
  | raises e => rw [handleBut_select_raises]
  | noRows =>
    rw [handleBut_select_noRows]
    rfl

theorem markPaid_other (h : ∀ p ∈ db.payments.get? paymentId, p.userId ≠ userId) :
    (handleBut o fault (n + 1) (markPaid paymentId userId now) db).2 = db := by
  have hrows := (handle_select_other (o := o) (t := payments) h)
  rw [handle_select] at hrows
  unfold markPaid ownPayment
  rw [Prog.bind_assoc, handleBut_select_succ, Except.ok.inj (congrArg Prod.fst hrows)]
  exact congrArg Prod.snd (handleBut_throw o fault n db _)

section Own

variable (hp : db.payments.get? paymentId = some p) (hu : p.userId = userId)

include hp hu

theorem rows_ownPayment :
    o.order ((payments.get db).rows.filter (fun p => p.id = paymentId ∧ p.userId = userId)) = [p] := by
  have hrows := handle_select_own (o := o) (t := payments) (q := fun p => p.userId = userId) hp hu
  rw [handle_select] at hrows
  exact Except.ok.inj (congrArg Prod.fst hrows)

theorem markPaid_closed (hs : p.status = .failed ∨ p.status = .disputed) :
    (handleBut o fault (n + 1) (markPaid paymentId userId now) db).2 = db := by
  unfold markPaid ownPayment
  rw [Prog.bind_assoc, handleBut_select_succ, rows_ownPayment hp hu]
  have hthrow : ∀ e : HTTPException, (handleBut o fault n (throw e : Handler Payment) db).2 = db :=
    fun e => congrArg Prod.snd (handleBut_throw o fault n db e)
  refine Eq.trans ?_ (hthrow ⟨409, s!"cannot mark a {p.status.text} payment as paid"⟩)
  show (handleBut o fault n (if p.status = .failed ∨ p.status = .disputed then _ else _) db).2 = _
  rw [if_pos hs]

section Open

variable (hs : ¬ (p.status = .failed ∨ p.status = .disputed))

include hs

theorem markPaid_one : (handleBut o fault 1 (markPaid paymentId userId now) db).2 = db := by
  unfold markPaid ownPayment
  rw [Prog.bind_assoc, handleBut_select_succ, rows_ownPayment hp hu]
  show (handleBut o fault 0 (if p.status = .failed ∨ p.status = .disputed then _ else _) db).2 = _
  rw [if_neg hs]
  cases fault with
  | raises e => rw [handleBut_update_raises]
  | noRows =>
    rw [handleBut_update_noRows]
    rfl

/-- From the marked payment on, the request closes the lot. -/
theorem markPaid_marked : handleBut o fault (n + 2) (markPaid paymentId userId now) db
    = handleBut o fault n (closeLot p ((Payment.setPaid now).apply p) paymentId userId) (markedPaid db paymentId now) := by
  have hupdate := handle_update_ownPayment (o := o) hp hu (Payment.setPaid now)
  rw [handle_update] at hupdate
  obtain ⟨hres, hdb⟩ := Prod.mk.inj hupdate
  unfold markPaid ownPayment
  rw [Prog.bind_assoc, handleBut_select_succ, rows_ownPayment hp hu]
  show handleBut o fault (n + 1) (if p.status = .failed ∨ p.status = .disputed then _ else _) db = _
  rw [if_neg hs, handleBut_update_succ, Except.ok.inj hres, hdb]
  rfl

end Open
end Own

section Close

variable {marked : DB} {current payment : Payment}

/-- No offer read: the lot is not closed, and the request goes on. -/
theorem closeLot_zero_noRows :
    handleBut o .noRows 0 (closeLot current payment paymentId userId) marked
      = handle o (rescoreOfferBuyer payment.offerId >>= fun _ => pure payment) marked :=
  handleBut_select_noRows o marked offers _ _

theorem closeLot_zero_raises (e : DbError) :
    handleBut o (.raises e) 0 (closeLot current payment paymentId userId) marked
      = (.error (jsonForApiError e), marked) := handleBut_select_raises o marked offers _ _ e

variable (hx : marked.offers.get? payment.offerId = some offer)

include hx

theorem rows_offer : o.order ((offers.get marked).rows.filter (fun x => x.id = payment.offerId)) = [offer] := by
  rw [o.order_filter_key, show (offers.get marked).get? payment.offerId = some offer from hx]
  rfl

theorem closeLot_one_raises (e : DbError) :
    handleBut o (.raises e) 1 (closeLot current payment paymentId userId) marked
      = (.error (jsonForApiError e), marked) := by
  unfold closeLot
  rw [handleBut_select_succ, rows_offer hx]
  exact handleBut_update_raises o marked lots _ _ _ e

/-- The lot's update answered with no rows: the payment is put back. -/
theorem closeLot_one_noRows (hp : marked.payments.get? paymentId = some payment) (hu : payment.userId = userId) :
    handleBut o .noRows 1 (closeLot current payment paymentId userId) marked
      = (.error ⟨503, "could not close lot; payment not marked paid"⟩,
        marked.setPayment paymentId (Payment.putBack current)) := by
  have hback := handle_update_ownPayment (o := o) hp hu (Payment.putBack current)
  unfold closeLot
  rw [handleBut_select_succ, rows_offer hx]
  dsimp only
  rw [handleBut_update_noRows, if_pos rfl, handle_bind, hback]
  rfl

/-- **Once the lot is closed the rest is rescoring.** -/
theorem closeLot_closed (hl : marked.lots.get? offer.lotId = some lot) :
    handleBut o fault (n + 2) (closeLot current payment paymentId userId) marked
      = handleBut o fault n (rescoreOfferBuyer payment.offerId >>= fun _ => pure payment)
        (marked.setLotStatus offer.lotId .sold) := by
  unfold closeLot
  rw [handleBut_select_succ, rows_offer hx]
  dsimp only
  rw [handleBut_update_succ, o.order_map_filter_key, show (lots.get marked).get? offer.lotId = some lot from hl]
  rw [if_neg (by simp)]
  rfl

end Close

/-- Marking the payment would write what is there already; from the fourth call on, its lot included. -/
def AlreadySettled (db : DB) (p : Payment) (now : Time) (n : Nat) : Prop :=
  (p.status = .paid ∧ p.paidAt = some now) ∧
    (n ≤ 3 ∨ ∀ offer ∈ db.offers.get? p.offerId, ∀ lot ∈ db.lots.get? offer.lotId, lot.status = .sold)

/-- The references of a payment, as the schema keeps them. -/
def PaymentReferences (db : DB) (paymentId : Uuid) : Prop :=
  ∀ p ∈ db.payments.get? paymentId, ∃ offer, db.offers.get? p.offerId = some offer ∧
    ∃ lot, db.lots.get? offer.lotId = some lot

/-- The request returns, or has left the settlement. -/
def PaidAtomically (o : RowOrder) (fault : Fault) (n : Nat) (paymentId userId : Uuid) (now : Time) (db : DB) : Prop :=
  (∃ payment, (handleBut o fault n (markPaid paymentId userId now) db).1 = .ok payment) ∨
    SameSettlement db (handleBut o fault n (markPaid paymentId userId now) db).2 paymentId

theorem PaidAtomically.of_same (h : (handleBut o fault n (markPaid paymentId userId now) db).2 = db) :
    PaidAtomically o fault n paymentId userId now db := by
  refine Or.inr ?_
  rw [h]
  exact same_self

section Own

variable (hp : db.payments.get? paymentId = some p) (hu : p.userId = userId)
  (hs : ¬ (p.status = .failed ∨ p.status = .disputed)) (hx : db.offers.get? p.offerId = some offer)
  (hl : db.lots.get? offer.lotId = some lot)

include hp hu hs hx

/-- The offer's read, or the lot's update, fails. -/
theorem paidAtomically_marked (hn : n = 0 ∨ n = 1) : PaidAtomically o fault (n + 2) paymentId userId now db ↔
    fault = .noRows ∨ p.status = .paid ∧ p.paidAt = some now := by
  have hx' : (markedPaid db paymentId now).offers.get? ((Payment.setPaid now).apply p).offerId = some offer := hx
  have hp' : (markedPaid db paymentId now).payments.get? paymentId = some ((Payment.setPaid now).apply p) := by
    simp [markedPaid, hp]
  unfold PaidAtomically
  rw [markPaid_marked fault n hp hu hs]
  cases fault with
  | raises e =>
    have hrun : handleBut o (.raises e) n (closeLot p ((Payment.setPaid now).apply p) paymentId userId)
        (markedPaid db paymentId now) = (.error (jsonForApiError e), markedPaid db paymentId now) := by
      rcases hn with rfl | rfl
      · exact closeLot_zero_raises e
      · exact closeLot_one_raises hx' e
    rw [hrun, same_markedPaid_iff hp]
    simp
  | noRows =>
    rcases hn with rfl | rfl
    · obtain ⟨a, ha⟩ := handle_ok (plain_rescoreOfferBuyer ((Payment.setPaid now).apply p).offerId
        ((Payment.setPaid now).apply p)) o (markedPaid db paymentId now) (fun op s hop => (hop s).1)
      rw [closeLot_zero_noRows]
      exact iff_of_true (Or.inl ⟨a, ha⟩) (Or.inl rfl)
    · rw [closeLot_one_noRows hx' hp' hu]
      refine iff_of_true (Or.inr ?_) (Or.inl rfl)
      show SameSettlement db ((db.setPayment paymentId (Payment.setPaid now)).setPayment paymentId _) paymentId
      rw [DB.setPayment_putBack db hp now]
      exact same_self

include hl

/-- A call of the rescoring fails. -/
theorem paidAtomically_closed : PaidAtomically o fault (n + 4) paymentId userId now db ↔
    (fault = .noRows ∨ 5 ≤ n) ∨ (p.status = .paid ∧ p.paidAt = some now) ∧ lot.status = .sold := by
  have hx' : (markedPaid db paymentId now).offers.get? ((Payment.setPaid now).apply p).offerId = some offer := hx
  have hl' : (markedPaid db paymentId now).lots.get? offer.lotId = some lot := hl
  have hrest := plain_rescoreOfferBuyer (o := o) ((Payment.setPaid now).apply p).offerId ((Payment.setPaid now).apply p)
  have hp' : ((markedPaid db paymentId now).setLotStatus offer.lotId .sold).payments.get? paymentId
      = some ((Payment.setPaid now).apply p) := by
    simp [markedPaid, hp]
  have hcalls : (rescoreOfferBuyer ((Payment.setPaid now).apply p).offerId >>=
      fun _ => pure ((Payment.setPaid now).apply p)).calls (exec o jsonForApiError)
        ((markedPaid db paymentId now).setLotStatus offer.lotId .sold) = 5 := by
    have hrun := handle_rescoreOfferBuyer o ((Payment.setPaid now).apply p).offerId
      ((markedPaid db paymentId now).setLotStatus offer.lotId .sold)
    rw [Prog.calls_bind_ok _ _ _ hrun]
    exact calls_rescoreOfferBuyer (p := (Payment.setPaid now).apply p) hx' (Table.mem_of_get? hp') rfl
  obtain ⟨hpay, hlots⟩ := handleBut_inv hrest o fault n ((markedPaid db paymentId now).setLotStatus offer.lotId .sold)
    (I := fun db' => db'.payments = ((markedPaid db paymentId now).setLotStatus offer.lotId .sold).payments ∧
      db'.lots = ((markedPaid db paymentId now).setLotStatus offer.lotId .sold).lots)
    (fun op s hop hs => ⟨(hop s).2.1.trans hs.1, (hop s).2.2.trans hs.2⟩) ⟨rfl, rfl⟩
  unfold PaidAtomically
  rw [markPaid_marked fault (n + 2) hp hu hs, closeLot_closed fault n hx' hl', same_congr hpay hlots,
    same_closed_iff hp hl]
  refine or_congr ?_ Iff.rfl
  have hok := handleBut_ok_iff hrest o fault n ((markedPaid db paymentId now).setLotStatus offer.lotId .sold)
    (fun op s hop => (hop s).1)
  rw [hcalls] at hok
  exact hok

end Own

/-- **One failing call leaves a payment half marked just if it is refused after the payment was marked**, and before the
ninth and last call, unless there was nothing left to write. -/
theorem markPaid_atomic (o : RowOrder) (fault : Fault) (n : Nat) (paymentId userId : Uuid) (now : Time) (db : DB)
    (href : PaymentReferences db paymentId) : PaidAtomically o fault n paymentId userId now db ↔
      fault = .noRows ∨ n ≤ 1 ∨ 9 ≤ n ∨ ∀ p ∈ db.payments.get? paymentId, p.userId = userId →
        (p.status = .failed ∨ p.status = .disputed) ∨ AlreadySettled db p now n := by
  rcases own_or_other db paymentId userId with ⟨p, hp, hu⟩ | hother
  · have hforall : (∀ p ∈ db.payments.get? paymentId, p.userId = userId →
        (p.status = .failed ∨ p.status = .disputed) ∨ AlreadySettled db p now n) ↔
          (p.status = .failed ∨ p.status = .disputed) ∨ AlreadySettled db p now n := by
      rw [hp]
      simp [hu]
    rw [hforall]
    rcases n with _ | n
    · exact iff_of_true (PaidAtomically.of_same fault 0 (markPaid_zero fault)) (Or.inr (Or.inl (by decide)))
    · by_cases hs : p.status = .failed ∨ p.status = .disputed
      · have hsame : PaidAtomically o fault (n + 1) paymentId userId now db :=
          PaidAtomically.of_same fault (n + 1) (markPaid_closed fault n hp hu hs)
        exact iff_of_true hsame (Or.inr (Or.inr (Or.inr (Or.inl hs))))
      · obtain ⟨offer, hx, lot, hl⟩ := href p hp
        have hsold : (∀ offer ∈ db.offers.get? p.offerId, ∀ lot ∈ db.lots.get? offer.lotId, lot.status = .sold) ↔
            lot.status = .sold := by
          rw [hx]
          simp [hl]
        rw [or_iff_right hs, AlreadySettled, hsold]
        rcases n with _ | _ | _ | n
        · exact iff_of_true (PaidAtomically.of_same fault 1 (markPaid_one fault hp hu hs)) (Or.inr (Or.inl le_rfl))
        · rw [paidAtomically_marked fault 0 hp hu hs hx (Or.inl rfl)]
          simp
        · rw [paidAtomically_marked fault 1 hp hu hs hx (Or.inr rfl)]
          simp
        · rw [paidAtomically_closed fault n hp hu hs hx hl]
          have h1 : ¬ n + 3 + 1 ≤ 1 := by omega
          have h3 : ¬ n + 3 + 1 ≤ 3 := by omega
          have h9 : 9 ≤ n + 3 + 1 ↔ 5 ≤ n := by omega
          simp only [h1, h3, h9, false_or, or_assoc]
  · refine iff_of_true (PaidAtomically.of_same fault n ?_) (Or.inr (Or.inr (Or.inr ?_)))
    · rcases n with _ | n
      · exact markPaid_zero fault
      · exact markPaid_other fault n hother
    · exact fun p hp hu => absurd hu (hother p hp)

/-- Offer 21 of ten quintals is accepted, and payment 31 is pending. -/
def salePending : DB := after step firstDay firstSale.dropLast

theorem salePending_references : PaymentReferences salePending 31 := by
  intro p hp
  have hoffer : (salePending.payments.get? 31).map (fun p => (salePending.offers.get? p.offerId).map (·.lotId))
      = some (some 11) := by decide +kernel
  rw [hp, Option.map_some, Option.some.injEq] at hoffer
  obtain ⟨offer, hx, hlot⟩ := Option.map_eq_some_iff.1 hoffer
  refine ⟨offer, hx, ?_⟩
  rw [hlot]
  exact Option.isSome_iff_exists.1 (by decide +kernel)

/-- A refusal of the rescoring's first read leaves payment 31 paid and lot 11 sold, and the request has failed. -/
theorem markPaid_halfway :
    let r := handleBut .asStored (.raises .unavailable) 4 (markPaid 31 1 5) salePending
    r.1 = .error ⟨503, "data store temporarily unavailable"⟩ ∧
      (salePending.payments.get? 31).map (fun p => (p.status, p.paidAt)) = some (.pending, none) ∧
      (r.2.payments.get? 31).map (fun p => (p.status, p.paidAt)) = some (.paid, some 5) ∧
      (salePending.lots.get? 11).map (·.status) = some .matched ∧ (r.2.lots.get? 11).map (·.status) = some .sold ∧
      ¬ PaidAtomically .asStored (.raises .unavailable) 4 31 1 5 salePending := by
  intro r
  have herr : r.1 = .error ⟨503, "data store temporarily unavailable"⟩ := by decide +kernel
  have hbefore : (salePending.payments.get? 31).map (fun p => (p.status, p.paidAt)) = some (.pending, none) := by
    decide +kernel
  have hafter : (r.2.payments.get? 31).map (fun p => (p.status, p.paidAt)) = some (.paid, some 5) := by decide +kernel
  refine ⟨herr, hbefore, hafter, by decide +kernel, by decide +kernel, ?_⟩
  rintro (⟨payment, hok⟩ | ⟨hsame, -⟩)
  · cases herr.symm.trans hok
  · rw [hbefore] at hsame
    cases hafter.symm.trans hsame

/-- A refusal of the payment's own update changes nothing. -/
theorem markPaid_refused : PaidAtomically .asStored (.raises .unavailable) 1 31 1 5 salePending :=
  (markPaid_atomic .asStored (.raises .unavailable) 1 31 1 5 salePending salePending_references).2
    (Or.inr (Or.inl le_rfl))

end MarkPaid

end Krishi
