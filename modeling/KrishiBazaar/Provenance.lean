import KrishiBazaar.Lib.History
import KrishiBazaar.Moves
/-!
# Provenance — what stands behind a sold lot, and what is over for good

Two things hold of every run, whatever its requests are.  A lot is sold only for a payment that was marked paid, on an
offer by its own farmer for no more than it holds (`sold_paid`).  And nothing goes back: a payment comes from pending to
paid to failed or disputed in one direction only, though a failed one may still be disputed and a disputed one failed
(`payments_onward`), and a lot that was matched, sold or withdrawn is never listed again and takes no new offer
(`taken_for_good`).
-/
namespace Krishi

open Lib

variable {db : DB} {e : Event}

/-! ## Payments go forward -/

/-- How far a payment has come; `mark_failed` takes a disputed one and `mark_disputed` a failed one. -/
def PaymentStatus.stage : PaymentStatus → Nat
  | .pending => 0
  | .paid => 1
  | .failed | .disputed => 2

/-- The same payment, no less far, still with a time if it had one, and with that very time once it failed or was
disputed. -/
structure Payment.Onward (p p' : Payment) : Prop where
  same : SamePayment p p'
  stage : p.status.stage ≤ p'.status.stage
  paidAt : p.paidAt ≠ none → p'.paidAt ≠ none
  ended : 2 ≤ p.status.stage → p'.paidAt = p.paidAt

theorem Payment.Onward.refl (p : Payment) : p.Onward p := ⟨rfl, le_rfl, fun h => h, fun _ => rfl⟩

theorem Payment.Onward.trans (p p' p'' : Payment) (h : p.Onward p') (h' : p'.Onward p'') : p.Onward p'' := by
  refine ⟨?_, h.stage.trans h'.stage, h'.paidAt ∘ h.paidAt, fun h2 => ?_⟩
  · have hs := h'.same
    rw [h.same] at hs
    exact hs
  · exact (h'.ended (h2.trans h.stage)).trans (h.ended h2)

theorem PaymentMove.onward {db' : DB} {p p' : Payment} (h : PaymentMove db e db' p p') : p.Onward p' := by
  cases h with
  | same => exact .refl p
  | paid hpays _ =>
    refine ⟨rfl, ?_, fun _ => by simp, fun h2 => ?_⟩
    · rcases hpays.status with hs | hs <;> simp [hs, PaymentStatus.stage]
    · rcases hpays.status with hs | hs <;> simp [hs, PaymentStatus.stage] at h2
  | failed _ hs =>
    refine ⟨rfl, ?_, fun h => h, fun _ => rfl⟩
    show p.status.stage ≤ 2
    cases p.status <;> decide
  | disputed _ =>
    refine ⟨rfl, ?_, fun h => h, fun _ => rfl⟩
    show p.status.stage ≤ 2
    cases p.status <;> decide

/-- **Over any stretch of a run a payment goes forward only**: a failed or disputed one is never pending or paid again, a
paid one never pending, and its offer, user, amount and reference are what they were; once it failed or was disputed,
so is the time it was paid at. -/
theorem payments_onward (db : DB) (es : List Event) (p : Payment) (hp : p ∈ db.payments.rows) :
    ∃ p', (after step db es).payments.get? p.id = some p' ∧ p.Onward p' := by
  have hrun : Evolves Payment.Onward (fun _ => True) db.payments (after step db es).payments :=
    evolves_after Payment.Onward.refl Payment.Onward.trans (fun _ _ _ _ => trivial)
      (fun db e => (step_change db e).payments.mono (fun _ _ h => h.onward) (fun _ _ => trivial)) es db
  exact hrun.old (Table.get?_of_mem hp)

/-- The first sale's payment, paid and then disputed. -/
theorem payments_onward_disputed :
    ∃ p', (after step (after step firstDay firstSale) [.of 1 0 5 (.markDisputed 31)]).payments.get? 31 = some p' ∧
      Payment.Onward ⟨31, 21, 1, 200, .paid, none, some 0, 0⟩ p' :=
  payments_onward (after step firstDay firstSale) [.of 1 0 5 (.markDisputed 31)] ⟨31, 21, 1, 200, .paid, none, some 0, 0⟩
    (by decide +kernel)

/-! ## A sold lot -/

/-- A payment that was marked paid at some time, on an offer for the lot. -/
def PaidFor (db : DB) (l : Lot) : Prop :=
  ∃ x ∈ db.offers.rows, ∃ p ∈ db.payments.rows,
    x.lotId = l.id ∧ x.userId = l.userId ∧ x.quantityQtl ≤ l.quantityQtl ∧ p.offerId = x.id ∧ p.userId = l.userId ∧
      p.paidAt ≠ none

/-- Every sold lot is paid for. -/
def SoldPaid (db : DB) : Prop := ∀ l ∈ db.lots.rows, l.status = .sold → PaidFor db l

/-- What stands behind a lot stays behind what becomes of it. -/
theorem PaidFor.kept {l l' : Lot} (h : PaidFor db l) (hl : SameLot l l') : PaidFor (step db e) l' := by
  obtain ⟨x, hx, p, hp, hxl, hxu, hq, hpx, hpu, hat⟩ := h
  have hc := step_change db e
  obtain ⟨x', hx', hxm⟩ := hc.offers.old (Table.get?_of_mem hx)
  obtain ⟨p', hp', hpm⟩ := hc.payments.old (Table.get?_of_mem hp)
  obtain ⟨hml, hmu, hmq, -⟩ := hxm.sameOffer.keeps
  obtain ⟨hmo, hmp⟩ := hpm.samePayment.keeps
  obtain ⟨hlu, hlq⟩ := hl.keeps
  have hlid : l'.id = l.id := by rw [hl]
  have hxid : x'.id = x.id := Table.key_of_get? hx'
  refine ⟨x', Table.mem_of_get? hx', p', Table.mem_of_get? hp', ?_, ?_, ?_, ?_, ?_, hpm.onward.paidAt hat⟩
  · rw [hml, hxl, hlid]
  · rw [hmu, hxu, hlu]
  · rw [hmq, hlq]
    exact hq
  · rw [hmo, hpx, hxid]
  · rw [hmp, hpu, hlu]

/-- Marking a payment paid puts it behind the lot it sells. -/
theorem Pays.paidFor {p : Payment} {x : Offer} {l : Lot} (h : Pays db e p) (hi : Linked db)
    (hx : db.offers.get? p.offerId = some x) (hl : db.lots.get? x.lotId = some l) :
    PaidFor (step db e) { l with status := .sold } := by
  obtain ⟨y, hy⟩ := step_markPaid h hx hl
  obtain ⟨l', hl', hlu, hq⟩ := hi.offerLot _ x hx
  obtain rfl := Option.some.inj (hl.symm.trans hl')
  obtain ⟨x', hx', hxu⟩ := hi.paymentOffer _ p h.hp
  obtain rfl := Option.some.inj (hx.symm.trans hx')
  rw [hy]
  refine ⟨x, ?_, (Payment.setPaid e.now).apply p, ?_, (Table.key_of_get? hl).symm, hlu.symm, hq,
    (Table.key_of_get? hx).symm, hxu.symm.trans hlu.symm, by simp [Payment.setPaid]⟩
  · simpa using Table.mem_of_get? hx
  · refine Table.mem_of_get? (k := p.id) ?_
    simp [h.hp]

theorem step_soldPaid (db : DB) (e : Event) (h : Linked db ∧ SoldPaid db) :
    Linked (step db e) ∧ SoldPaid (step db e) := by
  obtain ⟨hi, hs⟩ := h
  refine ⟨step_linked db e hi, fun l' hl' hsold => ?_⟩
  rcases (step_change db e).lots.new (Table.get?_of_mem hl') with ⟨l, hl, hm⟩ | ⟨-, -, hopen⟩
  · have hid := Table.key_of_get? hl
    have hkept : l.status = .sold → PaidFor (step db e) l' := fun h =>
      (hs l (Table.mem_of_get? hl) h).kept hm.sameLot
    cases hm with
    | same => exact hkept hsold
    | pooled _ _ _ => cases hsold
    | graded _ _ => exact hkept hsold
    | withdrawn _ _ => cases hsold
    | offered _ _ => cases hsold
    | matched _ _ => cases hsold
    | reopened _ _ => cases hsold
    | sold hpays hx hxl =>
      rw [← hid] at hl
      exact hpays.paidFor hi hx (hxl ▸ hl)
  · rw [hopen] at hsold
    cases hsold

/-- **In every state a run reaches each sold lot is paid for**: there is an offer on it, by its own farmer and within its
quantity, and under the offer a payment of the same farmer that has been marked paid. -/
theorem sold_paid (db : DB) (h : Reachable db) (l : Lot) (hl : l ∈ db.lots.rows) (hs : l.status = .sold) :
    PaidFor db l := by
  obtain ⟨db₀, es, hstart, rfl⟩ := h
  have hsold : SoldPaid db₀ := by
    intro l hl
    rw [hstart.lots] at hl
    cases hl
  exact (inv_after (fun db => Linked db ∧ SoldPaid db) step_soldPaid es db₀ ⟨hstart.linked, hsold⟩).2 l hl hs

theorem sold_paid_firstSale : PaidFor (after step firstDay firstSale)
    ⟨11, 1, none, 1, none, 10, .general, none, none, none, .sold, 0⟩ :=
  sold_paid _ ⟨firstDay, firstSale, start_firstDay, rfl⟩ ⟨11, 1, none, 1, none, 10, .general, none, none, none, .sold, 0⟩
    (by decide +kernel) rfl

/-! ## A lot that is taken -/

/-- Matched, sold or withdrawn. -/
def Lot.isTaken (l : Lot) : Prop := l.status = .matched ∨ l.status = .sold ∨ l.status = .withdrawn

theorem LotMove.taken {l l' : Lot} (h : LotMove db e l l') (ht : l.isTaken) : l'.isTaken := by
  cases h with
  | same => exact ht
  | pooled _ _ _ => exact Or.inl rfl
  | graded _ _ => exact ht
  | withdrawn _ _ => exact Or.inr (Or.inr rfl)
  | offered _ hs => rcases ht with h | h | h <;> simp [h] at hs
  | matched _ _ => exact Or.inl rfl
  | reopened hs _ => rcases ht with h | h | h <;> simp [h] at hs
  | sold _ _ _ => exact Or.inr (Or.inl rfl)

def IsTaken (k : Uuid) (db : DB) : Prop := ∃ l, db.lots.get? k = some l ∧ l.isTaken

theorem step_isTaken (k : Uuid) (db : DB) (e : Event) (h : IsTaken k db) : IsTaken k (step db e) := by
  obtain ⟨l, hl, ht⟩ := h
  obtain ⟨l', hl', hm⟩ := (step_change db e).lots.old hl
  exact ⟨l', hl', hm.taken ht⟩

/-- `create_offer` looks at the lot's status: a taken lot gets no offer. -/
theorem offers_of_taken {k : Uuid} (h : IsTaken k db) :
    Evolves SameOffer (fun x => ¬ x.lotId = k) db.offers (step db e).offers := by
  obtain ⟨l, hl, ht⟩ := h
  refine (step_change db e).offers.mono (fun _ _ hm => hm.sameOffer) ?_
  rintro x ⟨-, -, l', hl', -, hs, -⟩ rfl
  obtain rfl := Option.some.inj (hl.symm.trans hl')
  rcases ht with h | h | h <;> simp [h] at hs

/-- **A lot that was matched, sold or withdrawn is so in every later state** (one of the three, if not the same), and
every offer on it in a later state was there already. -/
theorem taken_for_good (db : DB) (es : List Event) (k : Uuid) (h : IsTaken k db) :
    IsTaken k (after step db es) ∧
      ∀ x' ∈ (after step db es).offers.rows, x'.lotId = k → ∃ x ∈ db.offers.rows, SameOffer x x' := by
  refine ⟨inv_after (IsTaken k) (step_isTaken k) es db h, ?_⟩
  refine barred_after (R := SameOffer) (I := IsTaken k) (fun _ => rfl) ?_ ?_ (step_isTaken k)
    (fun _ _ => offers_of_taken) es db h
  · intro x x' x'' h h'
    unfold SameOffer at h'
    rw [h] at h'
    exact h'
  · intro x x' hsame hk
    exact hsame.keeps.1.symm.trans hk

/-- After the first sale the farmer asks again for an offer on the sold lot. -/
theorem taken_for_good_firstSale :
    IsTaken 11 (after step (after step firstDay firstSale) [.of 1 22 5 (.createOffer wholeOffer)]) ∧
      ∀ x' ∈ (after step (after step firstDay firstSale) [.of 1 22 5 (.createOffer wholeOffer)]).offers.rows,
        x'.lotId = 11 → ∃ x ∈ (after step firstDay firstSale).offers.rows, SameOffer x x' :=
  taken_for_good (after step firstDay firstSale) [.of 1 22 5 (.createOffer wholeOffer)] 11
    ⟨⟨11, 1, none, 1, none, 10, .general, none, none, none, .sold, 0⟩, by decide +kernel, Or.inr (Or.inl rfl)⟩

end Krishi
