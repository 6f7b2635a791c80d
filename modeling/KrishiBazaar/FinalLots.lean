import KrishiBazaar.Moves
/-!
# FinalLots — sold and withdrawn lots over a run

A lot that is sold or withdrawn is closed.  Three requests can move it all the same, because they write the status of
a lot without reading it: withdrawing a sold lot, accepting an offer that was still pending when its lot was closed,
and marking a payment paid after the lot was withdrawn (`Disturbs`).  Every other request leaves closed lots alone, so
they stay closed along a run exactly when none of the three is made (`closed_stays_iff`).
-/
namespace Krishi

open Lib

def Lot.isClosed (l : Lot) : Prop := l.status = .sold ∨ l.status = .withdrawn

/-- The requests that move a closed lot. -/
inductive Disturbs (db : DB) (e : Event) : Prop
  | withdrawSold {lotId : Uuid} {l : Lot} (req : e.req = .withdrawLot lotId) (hl : db.lots.get? lotId = some l)
      (user : l.userId = e.user) (sold : l.status = .sold)
  | acceptClosed {x : Offer} {l : Lot} (accepts : Accepts db e x) (hl : db.lots.get? x.lotId = some l)
      (closed : l.isClosed)
  | payWithdrawn {p : Payment} {x : Offer} {l : Lot} (pays : Pays db e p) (hx : db.offers.get? p.offerId = some x)
      (hl : db.lots.get? x.lotId = some l) (withdrawn : l.status = .withdrawn)

/-- Every closed lot of the one database is closed the same way in the other. -/
def StaysClosed (db db' : DB) : Prop :=
  ∀ k l, db.lots.get? k = some l → l.isClosed → ∃ l', db'.lots.get? k = some l' ∧ l'.status = l.status

theorem StaysClosed.refl (db : DB) : StaysClosed db db := fun _ l hl _ => ⟨l, hl, rfl⟩

theorem StaysClosed.trans (db db' db'' : DB) (h : StaysClosed db db') (h' : StaysClosed db' db'') :
    StaysClosed db db'' := by
  intro k l hl hc
  obtain ⟨l', hl', hs⟩ := h k l hl hc
  have hc' : l'.isClosed := by
    unfold Lot.isClosed at *
    rwa [hs]
  obtain ⟨l'', hl'', hs'⟩ := h' k l' hl' hc'
  exact ⟨l'', hl'', hs'.trans hs⟩

theorem LotMove.closed {db : DB} {e : Event} {l l' : Lot} (h : LotMove db e l l') (hl : db.lots.get? l.id = some l)
    (hc : l.isClosed) (hd : ¬ Disturbs db e) : l'.status = l.status := by
  cases h with
  | same => rfl
  | pooled hr hp ho => rcases hc with h | h <;> rw [h] at ho <;> cases ho
  | graded body hu => rfl
  | withdrawn hr hu =>
    rcases hc with h | h
    · exact absurd (.withdrawSold hr hl hu h) hd
    · exact h.symm
  | offered hu hs => rcases hc with h | h <;> rw [h] at hs <;> simp at hs
  | matched ha hxl => exact absurd (.acceptClosed ha (hxl ▸ hl) hc) hd
  | reopened ho _ => rcases hc with h | h <;> rw [h] at ho <;> cases ho
  | sold hp hx hxl =>
    rcases hc with h | h
    · exact h.symm
    · exact absurd (.payWithdrawn hp hx (hxl ▸ hl) h) hd

theorem Disturbs.moves {db : DB} {e : Event} (h : Disturbs db e) :
    ∃ k l l', db.lots.get? k = some l ∧ l.isClosed ∧ (step db e).lots.get? k = some l' ∧ l'.status ≠ l.status := by
  cases h with
  | @withdrawSold lotId l hr hl hu hs =>
    refine ⟨lotId, l, { l with status := .withdrawn }, hl, Or.inl hs, ?_, by simp [hs]⟩
    rw [step_withdrawLot hr hl hu, DB.get?_setLotStatus, hl]
    simp
  | @acceptClosed x l ha hl hc =>
    refine ⟨x.lotId, l, { l with status := .matched }, hl, hc, ?_, ?_⟩
    · rw [step_accept ha, DB.get?_setLotStatus, DB.setOfferStatus_lots, hl]
      simp
    · rcases hc with h | h <;> simp [h]
  | @payWithdrawn p x l hp hx hl hw =>
    obtain ⟨y, hy⟩ := step_markPaid hp hx hl
    refine ⟨x.lotId, l, { l with status := .sold }, hl, Or.inr hw, ?_, by simp [hw]⟩
    rw [hy, DB.rescored_lots, DB.get?_setLotStatus, DB.setPayment_lots, hl]
    simp

/-- **One request**: closed lots stay as they are unless it is one of the three. -/
theorem step_staysClosed_iff (db : DB) (e : Event) : StaysClosed db (step db e) ↔ ¬ Disturbs db e := by
  constructor
  · intro h hd
    obtain ⟨k, l, l', hl, hc, hl', hne⟩ := hd.moves
    obtain ⟨l'', hl'', hs⟩ := h k l hl hc
    rw [hl'] at hl''
    obtain rfl := Option.some.inj hl''
    exact hne hs
  · intro hd k l hl hc
    obtain ⟨l', hl', hm⟩ := (step_change db e).lots.old hl
    obtain rfl := Table.key_of_get? hl
    exact ⟨l', hl', hm.closed hl hc hd⟩

/-- **Closed lots stay closed over a run exactly when no request of the run disturbs one.** -/
theorem closed_stays_iff (db : DB) (es : List Event) :
    (∀ pre mid post, es = pre ++ (mid ++ post) → StaysClosed (after step db pre) (after step db (pre ++ mid))) ↔
      Along step (fun db e => ¬ Disturbs db e) db es := by
  rw [← along_stays StaysClosed.refl StaysClosed.trans]
  simp only [step_staysClosed_iff]

/-- Once its lot is sold, the farmer can still withdraw it. -/
theorem sold_then_withdrawn :
    ((after step firstDay firstSale).lots.get? 11).map (·.status) = some .sold ∧
      ((after step firstDay (firstSale ++ [.of 1 0 0 (.withdrawLot 11)])).lots.get? 11).map (·.status)
        = some .withdrawn := by
  decide +kernel

end Krishi
