import KrishiBazaar.Requests
/-!
# Moves — what a request does to one row

`Change` says what a request does to the database; here it is read off row by row.  A lot moves in eight ways, an offer
in three and a payment in four (`LotMove`, `OfferMove`, `PaymentMove`), each with what had been checked, and every other
row stays.  Offers stay on lots of their own user and within the lot's quantity, and payments on offers of their own
user, in every state a run reaches (`Linked`).
-/
namespace Krishi

open Lib

/-! ## What a change does to the offers and their lots -/

section Rows

variable {db : DB}

theorem offered_of_idle {lotId : Uuid} (h : idle db lotId = true) :
    ∃ l, db.lots.get? lotId = some l ∧ l.status = .offered := by
  simp only [idle, Option.mem_def, decide_eq_true_eq] at h
  exact h.2

@[simp] theorem reopened_offers (lotId : Uuid) : (reopened db lotId).offers = db.offers := by
  unfold reopened; split <;> rfl

@[simp] theorem reopened_payments (lotId : Uuid) : (reopened db lotId).payments = db.payments := by
  unfold reopened; split <;> rfl

@[simp] theorem reopened_bookings (lotId : Uuid) : (reopened db lotId).logisticsBookings = db.logisticsBookings := by
  unfold reopened; split <;> rfl

@[simp] theorem patchOffer_payments (offer : Offer) (s : OfferStatus) (now : Time) :
    (db.patchOffer offer s now).payments = db.payments := by
  cases s <;> simp [DB.patchOffer]

@[simp] theorem patchOffer_bookings (offer : Offer) (s : OfferStatus) (now : Time) :
    (db.patchOffer offer s now).logisticsBookings = db.logisticsBookings := by
  cases s <;> simp [DB.patchOffer]

@[simp] theorem patchOffer_offers (offer : Offer) (s : OfferStatus) (now : Time) :
    (db.patchOffer offer s now).offers = (db.setOfferStatus offer.id s now).offers := by
  cases s <;> simp [DB.patchOffer]

/-- A patch to a dead or pending status reopens the lot or leaves it; accepting marks it matched. -/
theorem patchOffer_lots (offer : Offer) (s : OfferStatus) (now : Time) {R : Lot → Lot → Prop} (hR : ∀ l, R l l)
    (hm : s = .accepted → ∀ l, db.lots.get? offer.lotId = some l → R l { l with status := .matched })
    (hr : ∀ l, db.lots.get? offer.lotId = some l → l.status = .offered → R l { l with status := .open })
    (N : Lot → Prop) : Evolves R N db.lots (db.patchOffer offer s now).lots := by
  have hre : Evolves R N db.lots (reopened (db.setOfferStatus offer.id s now) offer.lotId).lots := by
    unfold reopened
    split
    · rename_i h
      obtain ⟨l, hl, hs⟩ := offered_of_idle h
      exact Evolves.update_key hR (fun l' hl' => by
        obtain rfl := Option.some.inj (hl.symm.trans hl')
        exact hr l hl hs)
    · exact Evolves.refl hR _
  cases s with
  | accepted => exact Evolves.update_key hR (hm rfl)
  | rejected => exact hre
  | expired => exact hre
  | pending => exact Evolves.refl hR _

@[simp] theorem patched_payments (offer : Offer) (s : OfferStatus) (now : Time) :
    (patched db offer s now).payments = db.payments := by
  unfold patched
  split
  · simp
  · split <;> simp

@[simp] theorem patched_bookings (offer : Offer) (s : OfferStatus) (now : Time) :
    (patched db offer s now).logisticsBookings = db.logisticsBookings := by
  unfold patched
  split
  · simp
  · split <;> simp

theorem patchOffer_evolves (offer : Offer) (s : OfferStatus) (now : Time) {R : Offer → Offer → Prop}
    (hR : ∀ x, R x x) (h : ∀ x, db.offers.get? offer.id = some x → R x { x with status := s, updatedAt := now })
    (N : Offer → Prop) : Evolves R N db.offers (db.patchOffer offer s now).offers := by
  rw [patchOffer_offers]
  exact Evolves.update_key hR h

theorem pooled_evolves {db' : DB} {body : LotAggregate} {userId id : Uuid} {now : Time} {first : Lot}
    {members : List Lot} (h : Pools db body userId id now first members db') {R : Lot → Lot → Prop} (hR : ∀ l, R l l)
    (hm : ∀ m ∈ members, R m { m with status := .matched, fpoId := some userId }) {N : Lot → Prop}
    (hN : N (pooledLot body userId id now first members)) :
    Evolves R N db.lots (db'.poolLots userId body.lotIds).lots := by
  intro k
  rw [h.get?]
  split
  · rename_i hk
    rw [hk, h.id_not_mem.1]
    exact .added hN
  · cases hl : db.lots.get? k with
    | none => exact .absent
    | some l =>
      refine .kept ?_
      split
      · rename_i hk
        rw [← h.named.map_id] at hk
        obtain ⟨m, hmm, rfl⟩ := List.mem_map.1 hk
        obtain rfl := Option.some.inj ((h.named.get? m hmm).1.symm.trans hl)
        exact hm m hmm
      · exact hR l

/-! ## The sweep, one offer at a time -/

/-- **The rule for a sweep**: what expiring a pending offer keeps, the sweep keeps. -/
theorem foldl_expireOne_inv {ttlHours : Int} {now : Time} {I : DB → Prop}
    (hI : ∀ db x, I db → db.offers.get? x.id = some x → x.status = .pending → I (db.patchOffer x .expired now)) :
    ∀ (l : List Offer) (db : DB), I db → (l.map (·.id)).Nodup →
      (∀ x ∈ l, db.offers.get? x.id = some x ∧ x.status = .pending) → I (l.foldl (expireOne ttlHours now) db)
  | [], _, h, _, _ => h
  | a :: l, db, h, hnd, hl => by
    rw [List.map_cons, List.nodup_cons] at hnd
    obtain ⟨ha, hp⟩ := hl a List.mem_cons_self
    rw [List.foldl_cons]
    refine foldl_expireOne_inv hI l _ ?_ hnd.2 (fun x hx => ?_)
    · unfold expireOne
      split
      · exact hI db a h ha hp
      · exact h
    · have hne : x.id ≠ a.id := fun he => hnd.1 (List.mem_map.2 ⟨x, hx, he⟩)
      refine ⟨?_, (hl x (List.mem_cons_of_mem a hx)).2⟩
      have hx' := (hl x (List.mem_cons_of_mem a hx)).1
      unfold expireOne
      split
      · simp [hx', hne]
      · exact hx'

theorem nodup_swept (o : RowOrder) (db : DB) : ((swept o db).map (·.id)).Nodup := by
  have hf : ((db.offers.rows.filter (fun x => x.status = .pending)).map (·.id)).Nodup :=
    db.offers.nodup.sublist ((List.filter_sublist).map _)
  exact (((o.perm _).map Offer.id).nodup_iff.2 hf).sublist ((List.take_sublist 500 _).map _)

theorem swept_inv {o : RowOrder} {ttlHours : Int} {now : Time} {I : DB → Prop}
    (hI : ∀ db x, I db → db.offers.get? x.id = some x → x.status = .pending → I (db.patchOffer x .expired now))
    (h : I db) : I ((swept o db).foldl (expireOne ttlHours now) db) := by
  refine foldl_expireOne_inv hI _ db h (nodup_swept o db) (fun x hx => ?_)
  obtain ⟨hm, hp⟩ := mem_swept hx
  exact ⟨Table.get?_of_mem hm, hp⟩

end Rows

/-! ## Lots -/

inductive LotMove (db : DB) (e : Event) : Lot → Lot → Prop
  | same (l : Lot) : LotMove db e l l
  | pooled {l : Lot} {body : LotAggregate} (req : e.req = .aggregateLots body)
      (pools : ∃ first members db', Pools db body e.user e.uuid e.now first members db' ∧ l ∈ members)
      (isOpen : l.status = .open) : LotMove db e l { l with status := .matched, fpoId := some e.user }
  | graded {l : Lot} (body : LotGradeUpdate) (user : l.isOf e.user) :
      LotMove db e l { l with grade := body.grade, qualityNotes := body.qualityNotes.or l.qualityNotes }
  | withdrawn {l : Lot} (req : e.req = .withdrawLot l.id) (user : l.userId = e.user) :
      LotMove db e l { l with status := .withdrawn }
  | offered {l : Lot} (user : l.userId = e.user) (status : l.status = .open ∨ l.status = .offered) :
      LotMove db e l { l with status := .offered }
  | matched {l : Lot} {x : Offer} (accepts : Accepts db e x) (hl : x.lotId = l.id) :
      LotMove db e l { l with status := .matched }
  | reopened {l : Lot} (offered : l.status = .offered)
      (cause : e.req = .expireStaleOffers ∨
        ∃ x, db.offers.get? x.id = some x ∧ x.lotId = l.id ∧ x.userId = e.user) :
      LotMove db e l { l with status := .open }
  | sold {l : Lot} {p : Payment} {x : Offer} (pays : Pays db e p) (hx : db.offers.get? p.offerId = some x)
      (hl : x.lotId = l.id) : LotMove db e l { l with status := .sold }

/-- A reopened lot had been offered. -/
def Reopens (l l' : Lot) : Prop := l' = l ∨ (l.status = .offered ∧ l' = { l with status := .open })

theorem Reopens.refl (l : Lot) : Reopens l l := Or.inl rfl

theorem Reopens.trans {l l' l'' : Lot} (h : Reopens l l') (h' : Reopens l' l'') : Reopens l l'' := by
  rcases h with rfl | ⟨hs, rfl⟩
  · exact h'
  · rcases h' with rfl | ⟨hs', rfl⟩
    · exact Or.inr ⟨hs, rfl⟩
    · exact absurd hs' (by simp)

theorem patched_lots {db : DB} {e : Event} {x : Offer} {body : OfferUpdate} (req : e.req = .updateOffer x.id body)
    (hx : db.offers.get? x.id = some x) (user : x.userId = e.user) (N : Lot → Prop) :
    Evolves (LotMove db e) N db.lots (patched db x body.status e.now).lots := by
  have hr : ∀ l, db.lots.get? x.lotId = some l → l.status = .offered →
      LotMove db e l { l with status := .open } := fun l hl hs =>
    .reopened hs (Or.inr ⟨x, hx, (Table.key_of_get? hl).symm, user⟩)
  unfold patched
  split
  · exact patchOffer_lots x .expired e.now LotMove.same (fun h => by cases h) hr N
  · rename_i hst
    split
    · exact Evolves.refl LotMove.same _
    · rename_i hacc
      refine patchOffer_lots x body.status e.now LotMove.same (fun ha l hl => ?_) hr N
      have hp : x.status = .pending := by
        by_contra hn
        exact hacc ⟨ha, hn⟩
      exact .matched ⟨⟨body, req, ha⟩, hx, user, hp, by simpa using hst⟩ (Table.key_of_get? hl).symm

/-- What is so of a new lot, a farmer's or a pooled one. -/
def LotMade (e : Event) (l : Lot) : Prop := l.userId = e.user ∧ l.status = .open

/-- **What a request does to a lot.** -/
theorem Change.lots {db db' : DB} {e : Event} (h : Change db e db') :
    Evolves (LotMove db e) (LotMade e) db.lots db'.lots := by
  cases h with
  | nothing => exact Evolves.refl LotMove.same _
  | lotCreated hu ho hi => exact Evolves.insert hi LotMove.same ⟨hu, ho⟩
  | lotsPooled hr hp =>
    exact pooled_evolves hp LotMove.same
      (fun m hm => .pooled hr ⟨_, _, _, hp, hm⟩ (hp.named.get? m hm).2) ⟨rfl, rfl⟩
  | lotGraded hl hu =>
    refine Evolves.update_key LotMove.same (fun l hl' => ?_)
    obtain rfl := Option.some.inj (hl.symm.trans hl')
    exact .graded _ hu
  | lotWithdrawn hr hl hu =>
    refine Evolves.update_key LotMove.same (fun l hl' => ?_)
    obtain rfl := Option.some.inj (hl.symm.trans hl')
    obtain rfl := Table.key_of_get? hl
    exact .withdrawn hr hu
  | offerCreated hl hu hs hq hou hp hi =>
    obtain ⟨hk, hc, -, rfl⟩ := Tab.insert?_ok hi
    refine Evolves.update_key LotMove.same (fun l hl' => ?_)
    obtain rfl := Option.some.inj (hl.symm.trans hl')
    exact .offered hu hs
  | offerPatched hr hx hu => exact patched_lots hr hx hu _
  | paymentCreated hx hu ha hpu hp hid hs hi =>
    obtain ⟨hk, hc, -, rfl⟩ := Tab.insert?_ok hi
    exact Evolves.refl LotMove.same _
  | paid hp =>
    rw [DB.rescored_lots]
    unfold DB.closeLot
    split
    · exact Evolves.refl LotMove.same _
    · rename_i x hx
      exact Evolves.update_key LotMove.same (fun l hl => .sold hp hx (Table.key_of_get? hl).symm)
  | failed hp hu hs => rw [DB.rescored_lots]; exact Evolves.refl LotMove.same _
  | disputed hp hu => rw [DB.rescored_lots]; exact Evolves.refl LotMove.same _
  | bookingCreated hx hu hf hi =>
    obtain ⟨hk, hc, -, rfl⟩ := Tab.insert?_ok hi
    exact Evolves.refl LotMove.same _
  | bookingUpdated hb hu hf => exact Evolves.refl LotMove.same _
  | offersExpired hr =>
    have h : Evolves Reopens (fun _ => False) db.lots
        ((swept e.order db).foldl (expireOne offerTtlHours e.now) db).lots := by
      refine swept_inv (I := fun db' => Evolves Reopens (fun _ => False) db.lots db'.lots) (fun db' x h _ _ => ?_)
        (Evolves.refl Reopens.refl _)
      refine h.trans (fun _ _ _ => Reopens.trans) (fun _ _ h _ => h.elim) ?_
      exact patchOffer_lots x .expired e.now Reopens.refl (fun h => by cases h)
        (fun l _ hs => Or.inr ⟨hs, rfl⟩) _
    refine h.mono (fun l l' hm => ?_) (fun _ h => h.elim)
    rcases hm with rfl | ⟨hs, rfl⟩
    · exact .same _
    · exact .reopened hs (Or.inl hr)

/-! ## Offers -/

inductive OfferMove (e : Event) : Offer → Offer → Prop
  | same (x : Offer) : OfferMove e x x
  | patched {x : Offer} {body : OfferUpdate} (req : e.req = .updateOffer x.id body) (user : x.userId = e.user)
      (live : offerIsStale x e.now offerTtlHours = false) (accept : body.status = .accepted → x.status = .pending) :
      OfferMove e x { x with status := body.status, updatedAt := e.now }
  | timedOut {x : Offer} (pending : x.status = .pending)
      (cause : e.req = .expireStaleOffers ∨ ∃ body, e.req = .updateOffer x.id body ∧ x.userId = e.user) :
      OfferMove e x { x with status := .expired, updatedAt := e.now }

/-- What `create_offer` had checked of a new offer. -/
def OfferMade (db : DB) (e : Event) (x : Offer) : Prop :=
  x.userId = e.user ∧ x.status = .pending ∧ ∃ l, db.lots.get? x.lotId = some l ∧ l.userId = e.user ∧
    (l.status = .open ∨ l.status = .offered) ∧ x.quantityQtl ≤ l.quantityQtl

theorem patched_offers {db : DB} {e : Event} {x : Offer} {body : OfferUpdate} (req : e.req = .updateOffer x.id body)
    (hx : db.offers.get? x.id = some x) (user : x.userId = e.user) (N : Offer → Prop) :
    Evolves (OfferMove e) N db.offers (patched db x body.status e.now).offers := by
  unfold patched
  split
  · rename_i hst
    refine patchOffer_evolves x .expired e.now OfferMove.same (fun y hy => ?_) N
    obtain rfl := Option.some.inj (hx.symm.trans hy)
    exact .timedOut ((offerIsStale_iff _ _ _).1 hst).1 (Or.inr ⟨body, req, user⟩)
  · rename_i hst
    split
    · exact Evolves.refl OfferMove.same _
    · rename_i hacc
      refine patchOffer_evolves x body.status e.now OfferMove.same (fun y hy => ?_) N
      obtain rfl := Option.some.inj (hx.symm.trans hy)
      exact .patched req user (by simpa using hst) (fun ha => by
        by_contra hn
        exact hacc ⟨ha, hn⟩)

def TimedOut (e : Event) (x x' : Offer) : Prop :=
  x' = x ∨ (x.status = .pending ∧ x' = { x with status := .expired, updatedAt := e.now })

theorem TimedOut.refl (e : Event) (x : Offer) : TimedOut e x x := Or.inl rfl

theorem TimedOut.trans {e : Event} {x x' x'' : Offer} (h : TimedOut e x x') (h' : TimedOut e x' x'') :
    TimedOut e x x'' := by
  rcases h with rfl | ⟨hs, rfl⟩
  · exact h'
  · rcases h' with rfl | ⟨hs', rfl⟩
    · exact Or.inr ⟨hs, rfl⟩
    · exact absurd hs' (by simp)

/-- **What a request does to an offer.** -/
theorem Change.offers {db db' : DB} {e : Event} (h : Change db e db') :
    Evolves (OfferMove e) (OfferMade db e) db.offers db'.offers := by
  have hsame : Evolves (OfferMove e) (OfferMade db e) db.offers db.offers := Evolves.refl OfferMove.same _
  cases h with
  | nothing => exact hsame
  | lotCreated hu ho hi => obtain ⟨hk, hc, -, rfl⟩ := Tab.insert?_ok hi; exact hsame
  | lotsPooled hr hp => obtain ⟨hk, hc, -, rfl⟩ := Tab.insert?_ok hp.inserted; exact hsame
  | lotGraded hl hu => exact hsame
  | lotWithdrawn hr hl hu => exact hsame
  | offerCreated hl hu hs hq hou hp hi => exact Evolves.insert hi OfferMove.same ⟨hou, hp, _, hl, hu, hs, hq⟩
  | offerPatched hr hx hu => exact patched_offers hr hx hu _
  | paymentCreated hx hu ha hpu hp hid hs hi => obtain ⟨hk, hc, -, rfl⟩ := Tab.insert?_ok hi; exact hsame
  | paid hp => simpa using hsame
  | failed hp hu hs => simpa using hsame
  | disputed hp hu => simpa using hsame
  | bookingCreated hx hu hf hi => obtain ⟨hk, hc, -, rfl⟩ := Tab.insert?_ok hi; exact hsame
  | bookingUpdated hb hu hf => exact hsame
  | offersExpired hr =>
    have h : Evolves (TimedOut e) (fun _ => False) db.offers
        ((swept e.order db).foldl (expireOne offerTtlHours e.now) db).offers := by
      refine swept_inv (I := fun db' => Evolves (TimedOut e) (fun _ => False) db.offers db'.offers)
        (fun db' x h hx hp => ?_) (Evolves.refl (TimedOut.refl e) _)
      refine h.trans (fun _ _ _ => TimedOut.trans) (fun _ _ h _ => h.elim) ?_
      refine patchOffer_evolves x .expired e.now (TimedOut.refl e) (fun y hy => ?_) _
      obtain rfl := Option.some.inj (hx.symm.trans hy)
      exact Or.inr ⟨hp, rfl⟩
    refine h.mono (fun x x' hm => ?_) (fun _ h => h.elim)
    rcases hm with rfl | ⟨hs, rfl⟩
    · exact .same _
    · exact .timedOut hs (Or.inl hr)

/-! ## Payments -/

/-- A payment marked paid sells the lot of its offer. -/
inductive PaymentMove (db : DB) (e : Event) (db' : DB) : Payment → Payment → Prop
  | same (p : Payment) : PaymentMove db e db' p p
  | paid {p : Payment} (pays : Pays db e p)
      (sold : ∀ x l', db.offers.get? p.offerId = some x → db'.lots.get? x.lotId = some l' → l'.status = .sold) :
      PaymentMove db e db' p { p with status := .paid, paidAt := some e.now }
  | failed {p : Payment} (user : p.userId = e.user) (status : p.status ≠ .paid) :
      PaymentMove db e db' p { p with status := .failed }
  | disputed {p : Payment} (user : p.userId = e.user) : PaymentMove db e db' p { p with status := .disputed }

/-- What `create_payment` had checked of a new payment. -/
def PaymentMade (db : DB) (e : Event) (p : Payment) : Prop :=
  p.id = e.uuid ∧ p.userId = e.user ∧ p.status = .pending ∧
    (∃ x, db.offers.get? p.offerId = some x ∧ x.userId = e.user ∧ x.status = .accepted) ∧
    ∀ q ∈ db.payments.rows, q.offerId = p.offerId → q.userId = e.user → ¬ q.isOpen

theorem closeLot_sold (db : DB) {offerId : Uuid} {x : Offer} {l' : Lot} (hx : db.offers.get? offerId = some x)
    (hl : (db.closeLot offerId).lots.get? x.lotId = some l') : l'.status = .sold := by
  unfold DB.closeLot at hl
  rw [hx] at hl
  simp only [DB.get?_setLotStatus, if_true, Option.map_eq_some_iff] at hl
  obtain ⟨l, -, rfl⟩ := hl
  rfl

/-- **What a request does to a payment.** -/
theorem Change.payments {db db' : DB} {e : Event} (h : Change db e db') :
    Evolves (PaymentMove db e db') (PaymentMade db e) db.payments db'.payments := by
  have hsame : Evolves (PaymentMove db e db') (PaymentMade db e) db.payments db.payments :=
    Evolves.refl PaymentMove.same _
  cases h with
  | nothing => exact hsame
  | lotCreated hu ho hi => obtain ⟨hk, hc, -, rfl⟩ := Tab.insert?_ok hi; exact hsame
  | lotsPooled hr hp => obtain ⟨hk, hc, -, rfl⟩ := Tab.insert?_ok hp.inserted; exact hsame
  | lotGraded hl hu => exact hsame
  | lotWithdrawn hr hl hu => exact hsame
  | offerCreated hl hu hs hq hou hp hi => obtain ⟨hk, hc, -, rfl⟩ := Tab.insert?_ok hi; exact hsame
  | offerPatched hr hx hu => rw [patched_payments]; exact hsame
  | paymentCreated hx hu ha hpu hp hid hs hi => exact Evolves.insert hi PaymentMove.same ⟨hid, hpu, hp, ⟨_, hx, hu, ha⟩, hs⟩
  | paid hp =>
    rw [DB.rescored_payments, DB.closeLot_payments]
    refine Evolves.update_key PaymentMove.same (fun p hp' => ?_)
    obtain rfl := Option.some.inj (hp.hp.symm.trans hp')
    refine .paid hp (fun x l' hx hl => ?_)
    rw [DB.rescored_lots] at hl
    exact closeLot_sold (db.setPayment _ _) hx hl
  | failed hp hu hs =>
    rw [DB.rescored_payments]
    refine Evolves.update_key PaymentMove.same (fun p hp' => ?_)
    obtain rfl := Option.some.inj (hp.symm.trans hp')
    exact .failed hu hs
  | disputed hp hu =>
    rw [DB.rescored_payments]
    refine Evolves.update_key PaymentMove.same (fun p hp' => ?_)
    obtain rfl := Option.some.inj (hp.symm.trans hp')
    exact .disputed hu
  | bookingCreated hx hu hf hi => obtain ⟨hk, hc, -, rfl⟩ := Tab.insert?_ok hi; exact hsame
  | bookingUpdated hb hu hf => exact hsame
  | offersExpired hr =>
    have h : ((swept e.order db).foldl (expireOne offerTtlHours e.now) db).payments = db.payments :=
      swept_inv (I := fun db' => db'.payments = db.payments) (fun db' x h _ _ => by simpa using h) rfl
    rw [h]
    exact hsame

/-! ## Bookings -/

inductive BookingMove (e : Event) : LogisticsBooking → LogisticsBooking → Prop
  | same (b : LogisticsBooking) : BookingMove e b b
  | updated {b : LogisticsBooking} (user : b.userId = e.user) (s : BookingStatus) :
      BookingMove e b { b with status := s, updatedAt := e.now }

/-- The bookings stay, or one that fits is made, or one is put in a status that fits. -/
theorem Change.bookings_cases {db db' : DB} {e : Event} (h : Change db e db') :
    db'.logisticsBookings = db.logisticsBookings ∨
      (∃ option booking, booking.userId = e.user ∧ db.logisticsOptions.get? booking.logisticsId = some option ∧
        Fits db option booking.quantityQtl none ∧ logisticsBookings.insert? db booking = .ok db') ∨
      ∃ booking s, db.logisticsBookings.get? booking.id = some booking ∧ booking.userId = e.user ∧
        (s.isActive = true → ∃ option, db.logisticsOptions.get? booking.logisticsId = some option ∧
          Fits db option booking.quantityQtl (some booking.id)) ∧
        db' = db.setBookingStatus booking.id s e.now := by
  cases h with
  | nothing => exact Or.inl rfl
  | lotCreated hu ho hi => obtain ⟨hk, hc, -, rfl⟩ := Tab.insert?_ok hi; exact Or.inl rfl
  | lotsPooled hr hp => obtain ⟨hk, hc, -, rfl⟩ := Tab.insert?_ok hp.inserted; exact Or.inl rfl
  | lotGraded hl hu => exact Or.inl rfl
  | lotWithdrawn hr hl hu => exact Or.inl rfl
  | offerCreated hl hu hs hq hou hp hi => obtain ⟨hk, hc, -, rfl⟩ := Tab.insert?_ok hi; exact Or.inl rfl
  | offerPatched hr hx hu => exact Or.inl (by simp)
  | paymentCreated hx hu ha hpu hp hid hs hi => obtain ⟨hk, hc, -, rfl⟩ := Tab.insert?_ok hi; exact Or.inl rfl
  | paid hp => exact Or.inl (by simp)
  | failed hp hu hs => exact Or.inl (by simp)
  | disputed hp hu => exact Or.inl (by simp)
  | bookingCreated hx hu hf hi => exact Or.inr (Or.inl ⟨_, _, hu, hx, hf, hi⟩)
  | bookingUpdated hb hu hf => exact Or.inr (Or.inr ⟨_, _, hb, hu, hf, rfl⟩)
  | offersExpired hr =>
    exact Or.inl (swept_inv (I := fun db' => db'.logisticsBookings = db.logisticsBookings)
      (fun db' x h _ _ => by simpa using h) rfl)

/-- **What a request does to a booking.** -/
theorem Change.bookings {db db' : DB} {e : Event} (h : Change db e db') :
    Evolves (BookingMove e) (fun b => b.userId = e.user) db.logisticsBookings db'.logisticsBookings := by
  rcases h.bookings_cases with h | ⟨option, booking, hu, -, -, hi⟩ | ⟨booking, s, hb, hu, -, rfl⟩
  · rw [h]
    exact Evolves.refl BookingMove.same _
  · exact Evolves.insert hi BookingMove.same hu
  · refine Evolves.update_key BookingMove.same (fun b hb' => ?_)
    obtain rfl := Option.some.inj (hb.symm.trans hb')
    exact .updated hu s

/-! ## What never changes -/

/-- A lot keeps everything but its status, its FPO and its grading. -/
def SameLot (l l' : Lot) : Prop :=
  l' = { l with status := l'.status, fpoId := l'.fpoId, grade := l'.grade, qualityNotes := l'.qualityNotes }

/-- An offer keeps everything but its status. -/
def SameOffer (x x' : Offer) : Prop := x' = { x with status := x'.status, updatedAt := x'.updatedAt }

def SamePayment (p p' : Payment) : Prop := p' = { p with status := p'.status, paidAt := p'.paidAt }

theorem LotMove.sameLot {db : DB} {e : Event} {l l' : Lot} (h : LotMove db e l l') : SameLot l l' := by
  cases h <;> rfl

theorem OfferMove.sameOffer {e : Event} {x x' : Offer} (h : OfferMove e x x') : SameOffer x x' := by
  cases h <;> rfl

theorem PaymentMove.samePayment {db db' : DB} {e : Event} {p p' : Payment} (h : PaymentMove db e db' p p') :
    SamePayment p p' := by
  cases h <;> rfl

theorem SameLot.keeps {l l' : Lot} (h : SameLot l l') : l'.userId = l.userId ∧ l'.quantityQtl = l.quantityQtl := by
  rw [h]
  exact ⟨rfl, rfl⟩

theorem SameOffer.keeps {x x' : Offer} (h : SameOffer x x') :
    x'.lotId = x.lotId ∧ x'.userId = x.userId ∧ x'.quantityQtl = x.quantityQtl ∧ x'.createdAt = x.createdAt := by
  rw [h]
  exact ⟨rfl, rfl, rfl, rfl⟩

theorem SamePayment.keeps {p p' : Payment} (h : SamePayment p p') : p'.offerId = p.offerId ∧ p'.userId = p.userId := by
  rw [h]
  exact ⟨rfl, rfl⟩

/-- **Offers are on lots of their own user, within the lot's quantity, and payments on offers of their own user.** -/
structure Linked (db : DB) : Prop where
  offerLot : ∀ k x, db.offers.get? k = some x →
    ∃ l, db.lots.get? x.lotId = some l ∧ l.userId = x.userId ∧ x.quantityQtl ≤ l.quantityQtl
  paymentOffer : ∀ k p, db.payments.get? k = some p → ∃ x, db.offers.get? p.offerId = some x ∧ x.userId = p.userId

theorem Start.linked {db : DB} (h : Start db) : Linked db := by
  refine ⟨fun k x hx => ?_, fun k p hp => ?_⟩
  · rw [h.offers] at hx
    cases hx
  · rw [h.payments] at hp
    cases hp

/-- Payments stay on offers of their own user, whatever else the database holds. -/
theorem Change.paymentOffer {db db' : DB} {e : Event} (h : Change db e db')
    (hi : ∀ k p, db.payments.get? k = some p → ∃ x, db.offers.get? p.offerId = some x ∧ x.userId = p.userId) (k : Uuid)
    (p' : Payment) (hp' : db'.payments.get? k = some p') :
    ∃ x, db'.offers.get? p'.offerId = some x ∧ x.userId = p'.userId := by
  have hof : ∀ x, db.offers.get? p'.offerId = some x → x.userId = p'.userId →
      ∃ x', db'.offers.get? p'.offerId = some x' ∧ x'.userId = p'.userId := by
    intro x hx hu
    obtain ⟨x', hx', hm⟩ := h.offers.old hx
    exact ⟨x', hx', hm.sameOffer.keeps.2.1.trans hu⟩
  rcases h.payments.new hp' with ⟨p, hp, hm⟩ | ⟨-, -, hu, -, ⟨x, hx, hxu, -⟩, -⟩
  · obtain ⟨hmo, hmu⟩ := hm.samePayment.keeps
    obtain ⟨x, hx, hxu⟩ := hi k p hp
    exact hof x (hmo ▸ hx) (by rw [hxu, hmu])
  · exact hof x hx (by rw [hxu, hu])

theorem Change.linked {db db' : DB} {e : Event} (h : Change db e db') (hi : Linked db) : Linked db' := by
  have hlot : ∀ k l, db.lots.get? k = some l →
      ∃ l', db'.lots.get? k = some l' ∧ l'.userId = l.userId ∧ l'.quantityQtl = l.quantityQtl := by
    intro k l hl
    obtain ⟨l', hl', hm⟩ := h.lots.old hl
    exact ⟨l', hl', hm.sameLot.keeps⟩
  refine ⟨fun k x' hx' => ?_, h.paymentOffer hi.paymentOffer⟩
  rcases h.offers.new hx' with ⟨x, hx, hm⟩ | ⟨-, hu, -, l, hl, hlu, -, hq⟩
  · obtain ⟨hml, hmu, hmq, -⟩ := hm.sameOffer.keeps
    obtain ⟨l, hl, hlu, hq⟩ := hi.offerLot k x hx
    obtain ⟨l', hl', hu', hq'⟩ := hlot _ l hl
    exact ⟨l', hml ▸ hl', by rw [hu', hmu, hlu], by rw [hq', hmq]; exact hq⟩
  · obtain ⟨l', hl', hu', hq'⟩ := hlot _ l hl
    exact ⟨l', hl', by rw [hu', hlu, hu], hq' ▸ hq⟩

theorem Reachable.linked {db : DB} (h : Reachable db) : Linked db := by
  obtain ⟨db₀, es, hs, rfl⟩ := h
  exact inv_after Linked (fun _ _ hi => (step_change _ _).linked hi) es db₀ hs.linked

theorem step_linked (db : DB) (e : Event) (h : Linked db) : Linked (step db e) := (step_change db e).linked h

end Krishi
