import KrishiBazaar.Requests
import KrishiBazaar.Lib.Duo
/-!
# Acceptance — an offer accepted while the sweep expires stale ones

`update_offer` and `expire_stale_offers` both read an offer, decide on its age and then write by id, so the sweep can
expire an offer that was accepted after the sweep had read it, and can reopen a lot that was matched after it had read
that.  Over any interleaving of the calls of the two, an acceptance that was returned is lost exactly when one of the
sweep's writes meets something else than the sweep had read (`acceptance_kept_iff`): `Meets` is what a conditional update
would check.

Each of the two takes its own reading of the clock and nothing is asked of the readings, so a clock that goes on between
them is among the cases.  The acceptance is followed by how far it has come (`Accepting`), the sweep by the offers it has
yet to look at and by the lot it has just seen offered (`Sweeping`).
-/
namespace Krishi

open Lib

/-! ## What the writes meet -/

def OfferIs (db : DB) (k : Uuid) (s : OfferStatus) : Prop := ∃ x, db.offers.get? k = some x ∧ x.status = s

def LotIs (db : DB) (k : Uuid) (s : LotStatus) : Prop := ∃ l, db.lots.get? k = some l ∧ l.status = s

/-- The offer is accepted and its lot matched. -/
def AcceptanceKept (db : DB) (k : Uuid) : Prop :=
  ∃ x, db.offers.get? k = some x ∧ x.status = .accepted ∧ LotIs db x.lotId .matched

/-- The call changes no offer that is not pending and no lot that is not offered. -/
def Meets {ρ : Type} (op : Op DB ρ) (db : DB) : Prop :=
  let db' := (answers .asStored op db).2
  (∀ k x, db.offers.get? k = some x → x.status ≠ .pending → db'.offers.get? k = some x) ∧
    ∀ k l, db.lots.get? k = some l → l.status ≠ .offered → db'.lots.get? k = some l

section Writes

variable {db : DB} {k L : Uuid} {s s' : OfferStatus} {t t' : LotStatus} {now : Time}

theorem offerIs_set (h : ∃ x, db.offers.get? k = some x) : OfferIs (db.setOfferStatus k s now) k s := by
  obtain ⟨x, hx⟩ := h
  exact ⟨{ x with status := s, updatedAt := now }, by simp [hx], rfl⟩

theorem offerIs_set_ne {k' : Uuid} (hne : k ≠ k') : OfferIs (db.setOfferStatus k' s' now) k s ↔ OfferIs db k s := by
  unfold OfferIs
  cases hg : db.offers.get? k <;> simp [hg, hne]

theorem offerIs_setLot : OfferIs (db.setLotStatus L t) k s ↔ OfferIs db k s := Iff.rfl

theorem lotIs_set (h : ∃ l, db.lots.get? L = some l) : LotIs (db.setLotStatus L t) L t := by
  obtain ⟨l, hl⟩ := h
  exact ⟨{ l with status := t }, by simp [hl], rfl⟩

theorem lotIs_set_ne {L' : Uuid} (hne : L ≠ L') : LotIs (db.setLotStatus L' t') L t ↔ LotIs db L t := by
  unfold LotIs
  cases hg : db.lots.get? L <;> simp [hg, hne]

theorem OfferIs.unique (h : OfferIs db k s) (h' : OfferIs db k s') : s = s' := by
  obtain ⟨x, hx, rfl⟩ := h
  obtain ⟨x', hx', rfl⟩ := h'
  rw [Option.some.inj (hx.symm.trans hx')]

theorem LotIs.unique (h : LotIs db L t) (h' : LotIs db L t') : t = t' := by
  obtain ⟨l, hl, rfl⟩ := h
  obtain ⟨l', hl', rfl⟩ := h'
  rw [Option.some.inj (hl.symm.trans hl')]

end Writes

/-- The state a call leaves does not depend on the order of its rows. -/
theorem answers_snd (o : RowOrder) {ρ : Type} (op : Op DB ρ) (db : DB) :
    (answers o op db).2 = (answers .asStored op db).2 := by
  cases op <;> rfl

section Meets

variable {db db' : DB} {ρ : Type} {op : Op DB ρ} {o : RowOrder}

theorem meets_of_eq (h : (answers o op db).2 = db) : Meets op db := by
  unfold Meets
  rw [← answers_snd o, h]
  exact ⟨fun _ _ hx _ => hx, fun _ _ hl _ => hl⟩

theorem meets_setOffer {k : Uuid} {s : OfferStatus} {now : Time} (h : (answers o op db).2 = db.setOfferStatus k s now)
    (hp : OfferIs db k .pending) : Meets op db := by
  unfold Meets
  rw [← answers_snd o, h]
  refine ⟨fun k' x hx hn => ?_, fun _ _ hl _ => hl⟩
  have hne : k' ≠ k := by
    rintro rfl
    exact hn (OfferIs.unique ⟨x, hx, rfl⟩ hp)
  simp [hx, hne]

theorem meets_setLot {L : Uuid} {t : LotStatus} (h : (answers o op db).2 = db.setLotStatus L t)
    (hp : LotIs db L .offered) : Meets op db := by
  unfold Meets
  rw [← answers_snd o, h]
  refine ⟨fun _ _ hx _ => hx, fun L' l hl hn => ?_⟩
  have hne : L' ≠ L := by
    rintro rfl
    exact hn (LotIs.unique ⟨l, hl, rfl⟩ hp)
  simp [hl, hne]

theorem Meets.offer {k : Uuid} {s : OfferStatus} (h : Meets op db) (hx : OfferIs db k s) (hs : s ≠ .pending) :
    OfferIs (answers o op db).2 k s := by
  obtain ⟨x, hx, rfl⟩ := hx
  rw [answers_snd]
  exact ⟨x, h.1 k x hx hs, rfl⟩

theorem Meets.lot {L : Uuid} {t : LotStatus} (h : Meets op db) (hl : LotIs db L t) (ht : t ≠ .offered) :
    LotIs (answers o op db).2 L t := by
  obtain ⟨l, hl, rfl⟩ := hl
  rw [answers_snd]
  exact ⟨l, h.2 L l hl ht, rfl⟩

end Meets

/-! ## The standings -/

/-- How far the acceptance has come; it may end without one. -/
inductive Accepting
  | fresh
  | accepted
  | matched
  | dropped
  deriving DecidableEq

/-- The offers the sweep has yet to look at; `beside` also a lot it has just seen offered. -/
inductive Sweeping
  | before
  | among (rest : List Offer)
  | beside (lotId : Uuid) (rest : List Offer)

/-- The offer is on the lot, which exists. -/
def OnLot (k L : Uuid) (db : DB) : Prop :=
  ∀ x, db.offers.get? k = some x → x.lotId = L ∧ ∃ l, db.lots.get? L = some l

/-- What the acceptance has written is there. -/
def Kept (k L : Uuid) (db : DB) : Accepting → Prop
  | .accepted => OfferIs db k .accepted
  | .matched => OfferIs db k .accepted ∧ LotIs db L .matched
  | _ => True

/-- The offers to come are pending, but for the accepted one. -/
structure StillPending (k : Uuid) (db : DB) (l : Accepting) (rest : List Offer) : Prop where
  nodup : (rest.map (·.id)).Nodup
  pending : ∀ y ∈ rest, OfferIs db y.id .pending ∨ y.id = k ∧ (l = .accepted ∨ l = .matched)

/-- What the sweep has read is there, but for the acceptance. -/
def AsRead (k L : Uuid) (db : DB) (l : Accepting) : Sweeping → Prop
  | .before => True
  | .among rest => StillPending k db l rest
  | .beside lotId rest => StillPending k db l rest ∧ (LotIs db lotId .offered ∨ lotId = L ∧ l = .matched)

/-- Nothing has been lost. -/
def Intact (k L : Uuid) (db : DB) (l : Accepting) (m : Sweeping) : Prop :=
  OnLot k L db ∧ (l = .dropped ∨ Kept k L db l ∧ AsRead k L db l m)

/-- The acceptance has been lost, if it was made. -/
def Lost (k L : Uuid) (db : DB) (l : Accepting) (_ : Sweeping) : Prop :=
  OnLot k L db ∧ (l = .dropped ∨ (l = .accepted ∨ l = .matched) ∧ ¬ OfferIs db k .accepted ∨
    l = .matched ∧ ¬ LotIs db L .matched)

/-- The calls of the acceptance. -/
inductive AcceptTurn (k L : Uuid) : Accepting → ∀ {ρ : Type}, Op DB ρ → Except HTTPException ρ → Accepting → Prop
  | look {l : Accepting} {ρ : Type} {op : Op DB ρ} {ans : Except HTTPException ρ}
      (h : ∀ (o : RowOrder) db, (answers o op db).2 = db) : AcceptTurn k L l op ans l
  | drop {l : Accepting} {ρ : Type} {op : Op DB ρ} {ans : Except HTTPException ρ} (hl : l = .fresh ∨ l = .dropped)
      (h : ∀ (o : RowOrder) db, OnLot k L db → OnLot k L (answers o op db).2) : AcceptTurn k L l op ans .dropped
  | accept {ρ : Type} {op : Op DB ρ} {ans : Except HTTPException ρ} {now : Time}
      (h : ∀ (o : RowOrder) db, (answers o op db).1 = ans → (∃ x, db.offers.get? k = some x) ∧
        (answers o op db).2 = db.setOfferStatus k .accepted now) : AcceptTurn k L .fresh op ans .accepted
  | matchLot {ρ : Type} {op : Op DB ρ} {ans : Except HTTPException ρ}
      (h : ∀ (o : RowOrder) db, (answers o op db).2 = db.setLotStatus L .matched) :
      AcceptTurn k L .accepted op ans .matched

/-- The calls of the sweep. -/
inductive SweepTurn (now : Time) : Sweeping → ∀ {ρ : Type}, Op DB ρ → Except HTTPException ρ → Sweeping → Prop
  | look {m : Sweeping} {ρ : Type} {op : Op DB ρ} {ans : Except HTTPException ρ}
      (h : ∀ (o : RowOrder) db, (answers o op db).2 = db) : SweepTurn now m op ans m
  | read {ρ : Type} {op : Op DB ρ} {ans : Except HTTPException ρ} {rows : List Offer}
      (h : ∀ (o : RowOrder) db, (answers o op db).2 = db ∧ ((answers o op db).1 = ans →
        (rows.map (·.id)).Nodup ∧ ∀ y ∈ rows, OfferIs db y.id .pending)) : SweepTurn now .before op ans (.among rows)
  | expire {ρ : Type} {op : Op DB ρ} {ans : Except HTTPException ρ} {y : Offer} {rest rest' : List Offer}
      (hsub : (y :: rest').Sublist rest)
      (h : ∀ (o : RowOrder) db, (answers o op db).2 = db.setOfferStatus y.id .expired now) :
      SweepTurn now (.among rest) op ans (.among rest')
  | see {ρ : Type} {op : Op DB ρ} {ans : Except HTTPException ρ} {lotId : Uuid} {rest : List Offer}
      (h : ∀ (o : RowOrder) db, (answers o op db).2 = db ∧ ((answers o op db).1 = ans → LotIs db lotId .offered)) :
      SweepTurn now (.among rest) op ans (.beside lotId rest)
  | reopen {ρ : Type} {op : Op DB ρ} {ans : Except HTTPException ρ} {lotId : Uuid} {rest : List Offer}
      (h : ∀ (o : RowOrder) db, (answers o op db).2 = db.setLotStatus lotId .open) :
      SweepTurn now (.beside lotId rest) op ans (.among rest)

/-! ## One call -/

section Step

variable {k L : Uuid} {db : DB} {l l' : Accepting} {m m' : Sweeping} {ρ : Type} {op : Op DB ρ} {o : RowOrder} {now : Time}

theorem onLot_offers {p : Offer → Bool} {s : OfferStatus} (h : OnLot k L db) :
    OnLot k L { db with offers := db.offers.update p (Offer.setStatus s now) } := by
  intro x hx
  rw [show _ = Option.map _ _ from Table.get?_update db.offers p (Offer.setStatus s now) k, Option.map_eq_some_iff] at hx
  obtain ⟨x', hx', rfl⟩ := hx
  obtain ⟨hlot, hl⟩ := h x' hx'
  refine ⟨?_, hl⟩
  split <;> exact hlot

theorem onLot_setOffer {y : Uuid} {s : OfferStatus} (h : OnLot k L db) : OnLot k L (db.setOfferStatus y s now) :=
  onLot_offers h

theorem onLot_setLot {y : Uuid} {t : LotStatus} (h : OnLot k L db) : OnLot k L (db.setLotStatus y t) := by
  intro x hx
  obtain ⟨hlot, l, hl⟩ := h x hx
  exact ⟨hlot, _, by rw [DB.get?_setLotStatus, hl]; rfl⟩

theorem OnLot.lot {s : OfferStatus} (h : OnLot k L db) (hx : OfferIs db k s) : ∃ l, db.lots.get? L = some l := by
  obtain ⟨x, hx, -⟩ := hx
  exact (h x hx).2

theorem AcceptTurn.onLot (h : AcceptTurn k L l op (answers o op db).1 l') (hl : OnLot k L db) :
    OnLot k L (answers o op db).2 := by
  generalize hans : (answers o op db).1 = ans at h
  cases h with
  | look h => exact (h o db).symm ▸ hl
  | drop _ h => exact h o db hl
  | accept h => exact (h o db hans).2.symm ▸ onLot_setOffer hl
  | matchLot h => exact (h o db).symm ▸ onLot_setLot hl

theorem SweepTurn.onLot (h : SweepTurn now m op (answers o op db).1 m') (hl : OnLot k L db) :
    OnLot k L (answers o op db).2 := by
  generalize hans : (answers o op db).1 = ans at h
  cases h with
  | look h => exact (h o db).symm ▸ hl
  | read h => exact (h o db).1.symm ▸ hl
  | expire _ h => exact (h o db).symm ▸ onLot_setOffer hl
  | see h => exact (h o db).1.symm ▸ hl
  | reopen h => exact (h o db).symm ▸ onLot_setLot hl

theorem StillPending.accept {rest : List Offer} (h : StillPending k db .fresh rest) :
    StillPending k (db.setOfferStatus k .accepted now) .accepted rest := by
  refine ⟨h.nodup, fun y hy => ?_⟩
  by_cases hk : y.id = k
  · exact Or.inr ⟨hk, Or.inl rfl⟩
  · rcases h.pending y hy with hp | ⟨hk', -⟩
    · exact Or.inl ((offerIs_set_ne hk).2 hp)
    · exact absurd hk' hk

theorem StillPending.matchLot {rest : List Offer} (h : StillPending k db .accepted rest) :
    StillPending k (db.setLotStatus L .matched) .matched rest :=
  ⟨h.nodup, fun y hy => (h.pending y hy).imp offerIs_setLot.2 (fun hk => ⟨hk.1, Or.inr rfl⟩)⟩

theorem StillPending.expire {y : Offer} {rest rest' : List Offer} (h : StillPending k db l rest)
    (hsub : (y :: rest').Sublist rest) : StillPending k (db.setOfferStatus y.id .expired now) l rest' := by
  have hnd : ((y :: rest').map (·.id)).Nodup := h.nodup.sublist (hsub.map _)
  rw [List.map_cons, List.nodup_cons] at hnd
  refine ⟨hnd.2, fun z hz => ?_⟩
  have hne : z.id ≠ y.id := fun he => hnd.1 (he ▸ List.mem_map_of_mem hz)
  exact (h.pending z (hsub.subset (List.mem_cons_of_mem y hz))).imp (offerIs_set_ne hne).2 id

/-- **The acceptance's calls keep what has not been lost.** -/
theorem intact_left (h : AcceptTurn k L l op (answers o op db).1 l') (hi : Intact k L db l m) :
    Intact k L (answers o op db).2 l' m := by
  refine ⟨h.onLot hi.1, ?_⟩
  obtain ⟨hon, hi⟩ := hi
  generalize hans : (answers o op db).1 = ans at h
  cases h with
  | look h => exact (h o db).symm ▸ hi
  | drop _ _ => exact Or.inl rfl
  | accept h =>
    obtain ⟨hx, he⟩ := h o db hans
    obtain ⟨-, hread⟩ := hi.resolve_left (by decide)
    rw [he]
    refine Or.inr ⟨offerIs_set hx, ?_⟩
    cases m with
    | before => trivial
    | among rest => exact StillPending.accept hread
    | beside lotId rest => exact ⟨hread.1.accept, hread.2.imp id (fun hn => absurd hn.2 (by decide))⟩
  | matchLot h =>
    obtain ⟨hkept, hread⟩ := hi.resolve_left (by decide)
    rw [h o db]
    refine Or.inr ⟨⟨hkept, lotIs_set (hon.lot hkept)⟩, ?_⟩
    cases m with
    | before => trivial
    | among rest => exact StillPending.matchLot hread
    | beside lotId rest =>
      refine ⟨hread.1.matchLot, ?_⟩
      by_cases hL : lotId = L
      · exact Or.inr ⟨hL, rfl⟩
      · exact Or.inl ((lotIs_set_ne hL).2 (hread.2.resolve_right (fun hn => hL hn.1)))

/-- **The sweep's calls keep what has not been lost, as long as they meet what it has read.** -/
theorem intact_right (h : SweepTurn now m op (answers o op db).1 m') (hi : Intact k L db l m) (hmeets : Meets op db) :
    Intact k L (answers o op db).2 l m' := by
  refine ⟨h.onLot hi.1, hi.2.imp id (fun hks => ?_)⟩
  obtain ⟨hkept, hread⟩ := hks
  refine ⟨?_, ?_⟩
  · cases l with
    | fresh => trivial
    | accepted => exact hmeets.offer hkept (by decide)
    | matched => exact ⟨hmeets.offer hkept.1 (by decide), hmeets.lot hkept.2 (by decide)⟩
    | dropped => trivial
  · generalize hans : (answers o op db).1 = ans at h
    cases h with
    | look h => exact (h o db).symm ▸ hread
    | read h =>
      obtain ⟨hnd, hp⟩ := (h o db).2 hans
      rw [(h o db).1]
      exact ⟨hnd, fun y hy => Or.inl (hp y hy)⟩
    | expire hsub h =>
      rw [h o db]
      exact StillPending.expire hread hsub
    | see h =>
      rw [(h o db).1]
      exact ⟨hread, Or.inl ((h o db).2 hans)⟩
    | reopen h =>
      rw [h o db]
      exact ⟨hread.1.nodup, hread.1.pending⟩

/-- **A write of the sweep that does not meet what it has read undoes the acceptance.** -/
theorem breach_right (h : SweepTurn now m op (answers o op db).1 m') (hi : Intact k L db l m) (hmeets : ¬ Meets op db) :
    Lost k L (answers o op db).2 l m' := by
  refine ⟨h.onLot hi.1, hi.2.imp id (fun hks => ?_)⟩
  obtain ⟨hkept, hread⟩ := hks
  cases h with
  | look h => exact absurd (meets_of_eq (h o db)) hmeets
  | read h => exact absurd (meets_of_eq (h o db).1) hmeets
  | see h => exact absurd (meets_of_eq (h o db).1) hmeets
  | @expire _ _ _ y rest rest' hsub h =>
    rcases hread.pending y (hsub.subset List.mem_cons_self) with hp | ⟨rfl, hl⟩
    · exact absurd (meets_setOffer (h o db) hp) hmeets
    · refine Or.inl ⟨hl, fun hacc => ?_⟩
      have hx : ∃ x, db.offers.get? y.id = some x := by
        rcases hl with rfl | rfl
        · exact hkept.imp (fun _ hx => hx.1)
        · exact hkept.1.imp (fun _ hx => hx.1)
      rw [h o db] at hacc
      exact absurd (hacc.unique (offerIs_set hx)) (by decide)
  | reopen h =>
    rcases hread.2 with hp | ⟨rfl, rfl⟩
    · exact absurd (meets_setLot (h o db) hp) hmeets
    · refine Or.inr ⟨rfl, fun hm => ?_⟩
      rw [h o db] at hm
      exact absurd (hm.unique (lotIs_set (hi.1.lot hkept.1))) (by decide)

/-- What is lost stays lost: nothing sets the offer accepted or the lot matched again. -/
theorem lost_left (h : AcceptTurn k L l op (answers o op db).1 l') (hi : Lost k L db l m) :
    Lost k L (answers o op db).2 l' m := by
  refine ⟨h.onLot hi.1, ?_⟩
  obtain ⟨hon, hi⟩ := hi
  cases h with
  | look h => exact (h o db).symm ▸ hi
  | drop _ _ => exact Or.inl rfl
  | accept h => simp at hi
  | matchLot h =>
    rw [h o db]
    simp only [reduceCtorEq, false_and, or_false, true_and, false_or] at hi
    exact Or.inr (Or.inl ⟨Or.inr rfl, hi⟩)

theorem lost_right (h : SweepTurn now m op (answers o op db).1 m') (hi : Lost k L db l m) :
    Lost k L (answers o op db).2 l m' := by
  refine ⟨h.onLot hi.1, ?_⟩
  obtain ⟨hon, hi⟩ := hi
  cases h with
  | look h => exact (h o db).symm ▸ hi
  | read h => exact (h o db).1.symm ▸ hi
  | see h => exact (h o db).1.symm ▸ hi
  | @expire _ _ _ y rest rest' hsub h =>
    rw [h o db]
    refine hi.imp id (Or.imp (fun hn => ⟨hn.1, fun hacc => hn.2 ?_⟩) id)
    by_cases hk : k = y.id
    · obtain ⟨x, hx, hs⟩ := hacc
      rw [DB.get?_setOfferStatus, Option.map_eq_some_iff] at hx
      obtain ⟨x', -, rfl⟩ := hx
      simp [hk] at hs
    · exact (offerIs_set_ne hk).1 hacc
  | @reopen _ _ _ lotId rest h =>
    rw [h o db]
    refine hi.imp id (Or.imp id (fun hn => ⟨hn.1, fun hm => hn.2 ?_⟩))
    by_cases hL : L = lotId
    · obtain ⟨x, hx, hs⟩ := hm
      rw [DB.get?_setLotStatus, Option.map_eq_some_iff] at hx
      obtain ⟨x', -, rfl⟩ := hx
      simp [hL] at hs
    · exact (lotIs_set_ne hL).1 hm

end Step

/-! ## The code -/

section Walk

variable {known : DB → Accepting → Sweeping → Prop} {k L : Uuid} {now : Time}

/-- Reopening a lot makes no call that takes the offer off its lot. -/
theorem reopenLotIfIdle_onLot (lotId : Uuid) :
    (reopenLotIfIdle lotId).All (fun op => ∀ (o : RowOrder) db, OnLot k L db → OnLot k L (answers o op db).2)
      (fun _ => True) := by
  refine Prog.All.bind (Prog.All.perform fun _ _ h => h) (fun pending _ => ?_)
  show Prog.All _ _ (if pending ≠ [] then pure false else _)
  split
  · exact Prog.All.pure trivial
  · refine Prog.All.bind (Prog.All.perform fun _ _ h => h) (fun lotRows _ => ?_)
    cases lotRows with
    | nil => exact Prog.All.pure trivial
    | cons lot rest =>
      show Prog.All _ _ (if lot.status ≠ .offered then pure false else _)
      split
      · exact Prog.All.pure trivial
      · exact Prog.All.bind (Prog.All.perform fun _ db h => onLot_setLot h) (fun _ _ => Prog.All.pure trivial)

/-- An update that answers with the offer has set it, and nothing else. -/
theorem accept_answer {o : RowOrder} {db : DB} {userId : Uuid} {x : Offer} {xs : List Offer}
    (h : (answers o (.update offers (fun x => x.id = k ∧ x.userId = userId) (Offer.setStatus .accepted now)) db).1
      = .ok (x :: xs)) : (∃ x, db.offers.get? k = some x) ∧
    (answers o (.update offers (fun x => x.id = k ∧ x.userId = userId) (Offer.setStatus .accepted now)) db).2
      = db.setOfferStatus k .accepted now := by
  have hmem : x ∈ (db.offers.rows.filter (fun x => x.id = k ∧ x.userId = userId)).map
      (Offer.setStatus .accepted now).apply := o.mem_order.1 ((Except.ok.inj h).symm ▸ List.mem_cons_self)
  obtain ⟨y, hy, -⟩ := List.mem_map.1 hmem
  obtain ⟨hin, hp⟩ := List.mem_filter.1 hy
  obtain ⟨rfl, hu⟩ : y.id = k ∧ y.userId = userId := of_decide_eq_true hp
  have hget : db.offers.get? y.id = some y := Table.get?_of_mem hin
  have hown := congrArg Prod.snd (handle_update_own (o := o) (t := offers) (f := Offer.setStatus .accepted now)
    (q := fun x => x.userId = userId) hget hu)
  rw [handle_update] at hown
  exact ⟨⟨y, hget⟩, hown⟩

/-- **An acceptance that is returned has written the offer and its lot.** -/
theorem updateOffer_walk (hknown : ∀ s l m, known s l m → OnLot k L s) (userId : Uuid) :
    Follows (Duo.Possible answers known) (AcceptTurn k L) (upTo (· = .matched) (fun _ => True))
      (updateOffer k ⟨.accepted⟩ userId now) .fresh := by
  refine Follows.bind_returns (I := fun _ l => l = .fresh) (Follows.perform fun ans hans => ?_) ?_
  · obtain ⟨o, s, l, m, -, rfl⟩ := hans
    exact ⟨.fresh, .look (fun _ _ => rfl), rfl⟩
  · rintro rows _ rfl
    cases rows with
    | nil => trivial
    | cons current rest =>
      show Follows _ _ _ (if current.status = .pending ∧ offerIsStale current now offerTtlHours then _ else
        if OfferStatus.accepted = .accepted ∧ current.status ≠ .pending then _ else _) _
      split
      · refine Follows.bind (Q := fun _ l => l = .dropped) ?_ (fun _ _ _ => trivial) (Follows.perform fun ans _ => ?_)
        · rintro _ _ rfl
          show Follows _ _ _ (reopenLotIfIdle current.lotId >>= fun _ => throw _) _
          refine Follows.bind (Q := fun _ l => l = .dropped) (fun _ _ _ => ?_) (fun _ _ _ => trivial) ?_
          · trivial
          · exact Follows.of_all (fun _ _ h => .drop (Or.inr rfl) h) (fun _ _ => rfl) (fun _ => rfl)
              (reopenLotIfIdle_onLot current.lotId)
        · exact ⟨.dropped, .drop (Or.inl rfl) (fun _ _ h => onLot_setOffer h), rfl⟩
      · split
        · trivial
        · intro ans hans
          obtain ⟨o, s, l, m, hs, rfl⟩ := hans
          have hon := hknown s l m hs
          let p : Offer → Bool := fun x => x.id = k ∧ x.userId = userId
          show ∃ l', AcceptTurn k L .fresh (.update offers p (Offer.setStatus .accepted now))
            (.ok (o.order ((s.offers.rows.filter p).map (Offer.setStatus .accepted now).apply))) l' ∧ Follows _ _ _
              ((Prog.ofAnswer (.ok (o.order ((s.offers.rows.filter p).map (Offer.setStatus .accepted now).apply)))).bind _) l'
          generalize hres : o.order ((s.offers.rows.filter p).map (Offer.setStatus .accepted now).apply) = res
          cases res with
          | nil => exact ⟨.dropped, .drop (Or.inl rfl) (fun _ _ h => onLot_offers h), trivial⟩
          | cons offer rest =>
            refine ⟨.accepted, .accept (fun o db hans => accept_answer hans), ?_⟩
            have hmem : offer ∈ (s.offers.rows.filter p).map (Offer.setStatus .accepted now).apply :=
              o.mem_order.1 (hres ▸ List.mem_cons_self)
            obtain ⟨y, hy, rfl⟩ := List.mem_map.1 hmem
            obtain ⟨hin, hp⟩ := List.mem_filter.1 hy
            obtain ⟨rfl, -⟩ : y.id = k ∧ y.userId = userId := of_decide_eq_true hp
            obtain ⟨rfl, -⟩ := hon y (Table.get?_of_mem hin)
            show Follows _ _ _ (patchLot _ .accepted >>= fun _ => _) _
            refine Follows.bind (Q := fun _ l => l = .matched) (fun _ _ hl => ?_) (fun _ _ _ => trivial) ?_
            · exact hl
            · refine Follows.bind (Q := fun _ l => l = .matched) (fun _ _ hl => ?_) (fun _ _ hl => hl)
                (Follows.perform fun ans _ => ?_)
              · exact hl
              · exact ⟨.matched, .matchLot (fun _ _ => rfl), rfl⟩

theorem reopenLotIfIdle_walk (lotId : Uuid) (rest : List Offer) :
    Follows (Duo.Possible answers known) (SweepTurn now) (upTo (· = .among rest) (fun _ => True))
      (reopenLotIfIdle lotId) (.among rest) := by
  refine Follows.bind_returns (I := fun _ m => m = .among rest) (Follows.perform fun ans hans => ?_) ?_
  · obtain ⟨o, s, l, m, -, rfl⟩ := hans
    exact ⟨.among rest, .look (fun _ _ => rfl), rfl⟩
  · rintro pending _ rfl
    show Follows _ _ _ (if pending ≠ [] then pure false else _) _
    split
    · rfl
    · intro ans hans
      obtain ⟨o, s, l, m, -, rfl⟩ := hans
      let p : Lot → Bool := fun l => l.id = lotId
      show ∃ m', SweepTurn now (.among rest) (.select lots p) (.ok (o.order (s.lots.rows.filter p))) m' ∧
        Follows _ _ _ ((Prog.ofAnswer (.ok (o.order (s.lots.rows.filter p)))).bind _) m'
      generalize o.order (s.lots.rows.filter p) = rows
      cases rows with
      | nil => exact ⟨.among rest, .look (fun _ _ => rfl), rfl⟩
      | cons lot others =>
        by_cases hs : lot.status ≠ .offered
        · refine ⟨.among rest, .look (fun _ _ => rfl), ?_⟩
          show Follows _ _ _ (if lot.status ≠ .offered then pure false else _) _
          rw [if_pos hs]
          rfl
        · refine ⟨.beside lotId rest, .see (fun o db => ⟨rfl, fun hrows => ?_⟩), ?_⟩
          · have hmem : lot ∈ db.lots.rows.filter p := o.mem_order.1 ((Except.ok.inj hrows).symm ▸ List.mem_cons_self)
            obtain ⟨hin, hid⟩ := List.mem_filter.1 hmem
            obtain rfl : lot.id = lotId := of_decide_eq_true hid
            exact ⟨lot, Table.get?_of_mem hin, not_not.1 hs⟩
          · show Follows _ _ _ (if lot.status ≠ .offered then pure false else _) _
            rw [if_neg hs]
            refine Follows.bind_returns (I := fun _ m => m = .among rest) (Follows.perform fun ans hans => ?_) ?_
            · obtain ⟨o, s, l, m, -, rfl⟩ := hans
              exact ⟨.among rest, .reopen (fun _ _ => rfl), rfl⟩
            · rintro _ _ rfl
              rfl

/-- The sweep has the offers to come before it. -/
def Ahead (as : List Offer) (m : Sweeping) : Prop := ∃ rest, m = .among rest ∧ as.Sublist rest

theorem expireOffer_walk (ttlHours : Int) (y : Offer) (as : List Offer) (acc : List Uuid × Nat) (m : Sweeping)
    (hm : Ahead (y :: as) m) :
    Follows (Duo.Possible answers known) (SweepTurn now) (upTo (Ahead as) (fun _ => True))
      (expireOffer ttlHours now acc y) m := by
  obtain ⟨rest, rfl, hsub⟩ := hm
  unfold expireOffer
  split
  · exact ⟨rest, rfl, (List.sublist_cons_self y as).trans hsub⟩
  · refine Follows.bind_returns (I := fun _ m => m = .among as) (Follows.perform fun ans hans => ?_) ?_
    · obtain ⟨o, s, l, m, -, rfl⟩ := hans
      exact ⟨.among as, .expire hsub (fun _ _ => rfl), rfl⟩
    · rintro _ _ rfl
      refine Follows.bind (Q := upTo (· = .among as) (fun _ => True)) (fun _ m hm => ?_) (fun _ _ _ => trivial)
        (reopenLotIfIdle_walk y.lotId as)
      exact ⟨as, hm, List.Sublist.refl as⟩

/-- **The sweep looks at offers it has read as pending, one after the other.** -/
theorem expireStaleOffers_walk (ttlHours : Int) :
    Follows (Duo.Possible answers known) (SweepTurn now) (fun _ _ => True) (expireStaleOffers ttlHours now) .before := by
  intro ans hans
  obtain ⟨o, s, l, m, -, rfl⟩ := hans
  let p : Offer → Bool := fun x => x.status = .pending
  let rows := (o.order (s.offers.rows.filter p)).take 500
  refine ⟨.among rows, .read (fun o' db => ⟨rfl, fun hrows => ?_⟩), ?_⟩
  · have hr : (o'.order (db.offers.rows.filter p)).take 500 = rows := Except.ok.inj hrows
    have hsub : rows.Sublist (o'.order (db.offers.rows.filter p)) := hr ▸ List.take_sublist _ _
    refine ⟨?_, fun y hy => ?_⟩
    · refine List.Nodup.sublist (hsub.map _) (((o'.perm _).map _).nodup_iff.2 ?_)
      exact db.offers.nodup.sublist (List.filter_sublist.map _)
    · obtain ⟨hin, hp⟩ := List.mem_filter.1 (o'.mem_order.1 (hsub.subset hy))
      exact ⟨y, Table.get?_of_mem hin, of_decide_eq_true hp⟩
  · show Follows _ _ _ (rows.foldlM (expireOffer ttlHours now) ([], 0) >>= fun acc => pure _) _
    refine Follows.bind (Q := upTo (Ahead []) (fun _ => True)) (fun _ _ _ => ?_) (fun _ _ _ => trivial)
      (Follows.foldlM (I := Ahead) (fun y as acc m hm => expireOffer_walk ttlHours y as acc m hm) rows _ _
        ⟨rows, rfl, List.Sublist.refl rows⟩)
    trivial

end Walk

/-! ## The acceptance and the sweep at once -/

/-- **An acceptance that was returned is kept**, whatever the order of the calls, **exactly when every write of the sweep
meets what the sweep has read.** -/
theorem acceptance_kept_iff (db : DB) (k userId : Uuid) (now now' : Time) (ttlHours : Int)
    (hfk : ∀ x, db.offers.get? k = some x → ∃ l, db.lots.get? x.lotId = some l) (ms : List (Move RowOrder))
    (out : OfferOut) :
    let both : Duo (Op DB) HTTPException DB OfferOut ExpireSummary :=
      ⟨db, updateOffer k ⟨.accepted⟩ userId now, expireStaleOffers ttlHours now'⟩
    (after (Duo.step answers) both ms).left = .ret out →
      (AcceptanceKept (after (Duo.step answers) both ms).state k ↔
        Along (Duo.step answers) (Duo.Asks (fun _ _ => True) Meets) both ms) := by
  intro both hret
  obtain ⟨L, hL⟩ : ∃ L, OnLot k L db := by
    cases hx : db.offers.get? k with
    | none => exact ⟨0, fun x hx' => by rw [hx] at hx'; cases hx'⟩
    | some x => exact ⟨x.lotId, fun x' hx' => by obtain rfl := Option.some.inj (hx.symm.trans hx'); exact ⟨rfl, hfk x hx⟩⟩
  have hkeep : Duo.Leads answers (AcceptTurn k L) (SweepTurn now') (Intact k L) (fun _ _ => True) Meets (Intact k L) :=
    ⟨fun h hi _ => intact_left h hi, fun h hi hmeets => intact_right h hi hmeets⟩
  have hbreach : Duo.Leads answers (AcceptTurn k L) (SweepTurn now') (Intact k L) (fun _ _ => ¬ True)
      (fun op s => ¬ Meets op s) (Lost k L) :=
    ⟨fun _ _ hn => absurd trivial hn, fun h hi hmeets => breach_right h hi hmeets⟩
  have hstay : Duo.Leads answers (AcceptTurn k L) (SweepTurn now') (Lost k L) (fun _ _ => True) (fun _ _ => True)
      (Lost k L) :=
    ⟨fun h hi _ => lost_left h hi, fun h hi _ => lost_right h hi⟩
  have hstart : Duo.Holds answers (fun s _ _ => OnLot k L s) (AcceptTurn k L) (SweepTurn now')
      (upTo (· = .matched) (fun _ => True)) (fun _ _ => True) (Intact k L) both :=
    ⟨.fresh, .before, updateOffer_walk (fun _ _ _ h => h) userId, expireStaleOffers_walk ttlHours, hL,
      Or.inr ⟨trivial, trivial⟩⟩
  rcases Duo.after_breach (fun _ _ _ h => h.1) (fun _ _ _ h => h.1) hkeep hbreach hstay ms both hstart with
    ⟨halong, l, m, hl, -, hi⟩ | ⟨hnot, l, m, hl, -, hi⟩
  · rw [hret] at hl
    obtain rfl : l = .matched := hl
    refine ⟨fun _ => halong, fun _ => ?_⟩
    obtain ⟨⟨x, hx, hs⟩, hlot⟩ := (hi.2.resolve_left (by decide)).1
    exact ⟨x, hx, hs, (hi.1 x hx).1.symm ▸ hlot⟩
  · rw [hret] at hl
    obtain rfl : l = .matched := hl
    refine ⟨fun hkept => ?_, fun halong => absurd halong hnot⟩
    obtain ⟨x, hx, hs, hlot⟩ := hkept
    obtain ⟨hon, hlost⟩ := hi
    rcases hlost with h | ⟨-, h⟩ | ⟨-, h⟩
    · cases h
    · exact absurd ⟨x, hx, hs⟩ h
    · exact absurd ((hon x hx).1 ▸ hlot) h

/-- Offer 21 on lot 11, made at time 0. -/
def offerMade : DB := after step firstDay firstOffer

/-- The farmer accepts at 48 hours to the microsecond, and the sweep takes its reading one microsecond later. -/
def lastMoment : Duo (Op DB) HTTPException DB OfferOut ExpireSummary :=
  ⟨offerMade, updateOffer 21 ⟨.accepted⟩ 1 (hours 48), expireStaleOffers offerTtlHours (hours 48 + 1)⟩

/-- The sweep reads between the acceptance's reads and its writes, and writes after it has returned. -/
def readBetween : List (Move RowOrder) :=
  [.left .asStored, .right .asStored, .left .asStored, .left .asStored] ++ List.replicate 3 (.right .asStored)

theorem offerMade_onLot (x : Offer) (hx : offerMade.offers.get? 21 = some x) :
    ∃ l, offerMade.lots.get? x.lotId = some l := by
  have hlot : (offerMade.offers.get? 21).map (·.lotId) = some 11 := by decide +kernel
  rw [hx] at hlot
  have h11 : x.lotId = 11 := Option.some.inj hlot
  rw [h11]
  exact Option.isSome_iff_exists.1 (by decide +kernel)

/-- The acceptance makes its three calls after the sweep has read. -/
theorem acceptance_kept_first :
    let ms : List (Move RowOrder) := .right .asStored :: List.replicate 3 (.left .asStored)
    AcceptanceKept (after (Duo.step answers) lastMoment ms).state 21 ↔
      Along (Duo.step answers) (Duo.Asks (fun _ _ => True) Meets) lastMoment ms := by
  intro ms
  obtain ⟨out, hout⟩ := Option.isSome_iff_exists.1
    (by decide +kernel : (after (Duo.step answers) lastMoment ms).left.returned.isSome = true)
  exact acceptance_kept_iff offerMade 21 1 (hours 48) (hours 48 + 1) offerTtlHours offerMade_onLot ms out
    (Prog.returned_eq_some.1 hout)

theorem acceptance_lost :
    let end_ := after (Duo.step answers) lastMoment readBetween
    end_.Ended ∧ (∃ out, end_.left = .ret out ∧ out.offer.status = .accepted) ∧
      (end_.state.offers.get? 21).map (·.status) = some .expired ∧ ¬ AcceptanceKept end_.state 21 := by
  intro end_
  have hexp : (end_.state.offers.get? 21).map (·.status) = some .expired := by decide +kernel
  obtain ⟨out, hout, hstatus⟩ := Option.map_eq_some_iff.1
    (by decide +kernel : end_.left.returned.map (fun out => out.offer.status) = some .accepted)
  refine ⟨by decide +kernel, ⟨out, Prog.returned_eq_some.1 hout, hstatus⟩, hexp, ?_⟩
  rintro ⟨x, hx, hs, -⟩
  rw [hx] at hexp
  exact absurd (hs.symm.trans (Option.some.inj hexp)) (by decide)

end Krishi
