import KrishiBazaar.Moves
/-!
# OpenPayments — one open payment for each offer

A payment is open while it is pending or paid.  `create_payment` stores a payment only under an offer of the caller's
without an open one of the caller's, a payment keeps its offer and its user, and no request opens a closed payment
again; so an offer has at most one open payment in every state of a run, without a constraint of the table
(`one_open_payment`).  The loop over the existing payments then answers with that one, if the offer is the caller's and
still accepted; an offer that was paid and taken back is refused before the loop (`paid_then_rejected_refused`).
-/
namespace Krishi

open Lib

/-- No offer has two open payments. -/
def OneOpen (db : DB) : Prop :=
  ∀ p ∈ db.payments.rows, ∀ q ∈ db.payments.rows, p.isOpen → q.isOpen → p.offerId = q.offerId → p = q

/-- Payments are on offers of their own user, and one is open at most. -/
structure Billed (db : DB) : Prop where
  paymentOffer : ∀ k p, db.payments.get? k = some p → ∃ x, db.offers.get? p.offerId = some x ∧ x.userId = p.userId
  oneOpen : OneOpen db

variable {db db' : DB} {e : Event}

theorem billed_of_empty (h : db.payments = .empty) : Billed db := by
  refine ⟨fun k p hp => ?_, fun p hp => ?_⟩
  · rw [h] at hp
    cases hp
  · rw [h] at hp
    cases hp

theorem PaymentMove.isOpen {p p' : Payment} (h : PaymentMove db e db' p p') (ho : p'.isOpen) : p.isOpen := by
  cases h with
  | same => exact ho
  | paid pays sold => exact pays.status
  | failed user status => rcases ho with ho | ho <;> cases ho
  | disputed user => rcases ho with ho | ho <;> cases ho

/-- **A request leaves each offer at most one open payment.** -/
theorem Change.oneOpen (h : Change db e db') (hi : Billed db) : OneOpen db' := by
  -- a new payment has no open one beside it
  have hnew : ∀ p' q q', PaymentMade db e p' → q ∈ db.payments.rows → PaymentMove db e db' q q' → q'.isOpen →
      p'.offerId ≠ q'.offerId := by
    rintro p' q q' ⟨-, -, -, ⟨x, hx, hxu, -⟩, hsingle⟩ hq hm ho heq
    have hoffer : q.offerId = p'.offerId := hm.samePayment.keeps.1.symm.trans heq.symm
    obtain ⟨y, hy, hyu⟩ := hi.paymentOffer q.id q (Table.get?_of_mem hq)
    obtain rfl : x = y := Option.some.inj (hx.symm.trans (hoffer ▸ hy))
    exact hsingle q hq hoffer (hyu.symm.trans hxu) (hm.isOpen ho)
  intro p' hp' q' hq' hop hoq heq
  rcases h.payments.new (Table.get?_of_mem hp') with ⟨p, hp, hmp⟩ | ⟨-, hmade⟩
  · rcases h.payments.new (Table.get?_of_mem hq') with ⟨q, hq, hmq⟩ | ⟨-, hmade⟩
    · have hoffer : p.offerId = q.offerId :=
        hmp.samePayment.keeps.1.symm.trans (heq.trans hmq.samePayment.keeps.1)
      have hpq : p = q := hi.oneOpen p (Table.mem_of_get? hp) q (Table.mem_of_get? hq) (hmp.isOpen hop)
        (hmq.isOpen hoq) hoffer
      refine db'.payments.eq_of_key hp' hq' ?_
      rw [← Table.key_of_get? hp, ← Table.key_of_get? hq, hpq]
    · exact absurd heq.symm (hnew q' p p' hmade (Table.mem_of_get? hp) hmp hop)
  · rcases h.payments.new (Table.get?_of_mem hq') with ⟨q, hq, hmq⟩ | ⟨-, hmade'⟩
    · exact absurd heq (hnew p' q q' hmade (Table.mem_of_get? hq) hmq hoq)
    · exact db'.payments.eq_of_key hp' hq' (hmade.1.trans hmade'.1.symm)

theorem billed_step (db : DB) (e : Event) (hi : Billed db) : Billed (step db e) :=
  ⟨(step_change db e).paymentOffer hi.paymentOffer, (step_change db e).oneOpen hi⟩

/-! ## Paying an offer that has an open payment -/

/-- No reference, an empty one, or another one than the payment's. -/
def OtherReference (body : PaymentCreate) (p : Payment) : Prop :=
  body.reference = none ∨ body.reference = some "" ∨ p.reference ≠ body.reference

instance (body : PaymentCreate) (p : Payment) : Decidable (OtherReference body p) :=
  inferInstanceAs (Decidable (_ ∨ _ ∨ _))

theorem not_otherReference {body : PaymentCreate} {p : Payment} :
    ¬ OtherReference body p ↔ (∃ r ∈ body.reference, r ≠ "") ∧ p.reference = body.reference := by
  unfold OtherReference
  cases body.reference with
  | none => simp
  | some r => simp

/-- What `create_payment` answers on an offer with an open payment. -/
def openReply (offer : Offer) (p : Payment) (body : PaymentCreate) (userId : Uuid) : Except HTTPException Payment :=
  if offer.userId ≠ userId then .error ⟨404, "offer not found"⟩
  else if offer.status ≠ .accepted then .error ⟨409, "payments require an accepted offer"⟩
  else if p.status = .paid ∧ OtherReference body p then .error ⟨409, "offer already has a paid payment"⟩
  else .ok p

/-- **The loop over the existing payments answers with the open one**, wherever it stands among the closed ones. -/
theorem handle_createPayment_open (hi : Billed db) {p : Payment} {offer : Offer} {body : PaymentCreate}
    (hp : p ∈ db.payments.rows) (hopen : p.isOpen) (hbody : body.offerId = p.offerId)
    (hx : db.offers.get? p.offerId = some offer) (o : RowOrder) (userId id : Uuid) (now : Time) :
    handle o (createPayment body userId id now) db = (openReply offer p body userId, db) := by
  unfold createPayment openReply
  rw [handle_bind, handle_select_key, Prog.onOk_ok, hbody, show (offers.get db).get? p.offerId = some offer from hx]
  simp only [Option.toList_some, handle_ite, handle_throw]
  split
  · rfl
  · rename_i hu
    split
    · rfl
    · obtain ⟨y, hy, hyu⟩ := hi.paymentOffer p.id p (Table.get?_of_mem hp)
      obtain rfl : offer = y := Option.some.inj (hx.symm.trans hy)
      have huser : p.userId = userId := hyu.symm.trans (not_not.1 hu)
      have hfind : (o.order (db.payments.rows.filter (fun q => q.offerId = p.offerId ∧ q.userId = userId))).find?
          (fun q => q.status = .pending ∨ q.status = .paid) = some p := by
        have hmem : p ∈ o.order (db.payments.rows.filter (fun q => q.offerId = p.offerId ∧ q.userId = userId)) :=
          o.mem_order.2 (List.mem_filter.2 ⟨hp, by simp [huser]⟩)
        cases hf : List.find? _ _ with
        | none => exact absurd (List.find?_eq_none.1 hf p hmem) (by simpa [Payment.isOpen, or_iff_not_imp_left] using hopen)
        | some q =>
          have hq := List.mem_filter.1 (o.mem_order.1 (List.mem_of_find?_eq_some hf))
          have hqopen : q.isOpen := by simpa [Payment.isOpen] using List.find?_some hf
          have hqp := of_decide_eq_true hq.2
          exact congrArg some (hi.oneOpen q hq.1 p hp hqopen hopen hqp.1)
      rw [handle_bind, handle_select, Prog.onOk_ok]
      simp only [payments, hfind, handle_ite, handle_pure, handle_throw, ← not_otherReference]
      by_cases href : OtherReference body p <;> by_cases hpaid : p.status = .paid <;> simp [href, hpaid]

/-- **One open payment for each offer, in every state of a run from an empty payments table**; paying an offer that has
one stores nothing.  The caller whose accepted offer it is gets that payment, or a 409 if it is paid and the reference is
missing or another. -/
theorem one_open_payment (db : DB) (h : db.payments = .empty) (es : List Event) :
    OneOpen (after step db es) ∧
      ∀ p ∈ (after step db es).payments.rows, p.isOpen →
        ∃ offer, (after step db es).offers.get? p.offerId = some offer ∧
          ∀ (o : RowOrder) (body : PaymentCreate) (userId id : Uuid) (now : Time), body.offerId = p.offerId →
            handle o (createPayment body userId id now) (after step db es)
              = (openReply offer p body userId, after step db es) := by
  have hi : Billed (after step db es) := inv_after Billed billed_step es db (billed_of_empty h)
  refine ⟨hi.oneOpen, fun p hp hopen => ?_⟩
  obtain ⟨offer, hx, -⟩ := hi.paymentOffer p.id p (Table.get?_of_mem hp)
  exact ⟨offer, hx, fun o body userId id now hbody => handle_createPayment_open hi hp hopen hbody hx o userId id now⟩

theorem firstSale_one_open : OneOpen (after step firstDay firstSale) := (one_open_payment firstDay rfl firstSale).1

/-- The accepted offer's payment is pending; then the offer is rejected. -/
def paidThenRejected : List Event :=
  firstOffer ++
    [.of 1 0 0 (.updateOffer 21 ⟨.accepted⟩), .of 1 31 0 (.createPayment (onionPayment none)),
     .of 1 0 0 (.updateOffer 21 ⟨.rejected⟩)]

/-- **A pending payment, and a 409 all the same**: the offer is no longer accepted. -/
theorem paid_then_rejected_refused :
    ((after step firstDay paidThenRejected).payments.rows.map (fun p => (p.offerId, p.status))) = [(21, .pending)] ∧
      (handle .asStored (createPayment (onionPayment none) 1 32 0) (after step firstDay paidThenRejected)).1
        = .error ⟨409, "payments require an accepted offer"⟩ := by
  decide +kernel

end Krishi
