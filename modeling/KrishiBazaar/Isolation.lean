import KrishiBazaar.Moves
/-!
# Isolation — what a request does to other users' rows

The handlers run on the service-role client, so a row of another user is safe only because each query is scoped by hand.
A lot belongs to its user and to the FPO that pooled it, an offer or a payment also to whoever the lot behind it belongs
to.  Every request but one leaves the rows of other users as they are: an aggregation takes any open lot that is named,
whoever's it is (`isolated_iff`).
-/
namespace Krishi

open Lib

def Offer.isOf (db : DB) (x : Offer) (userId : Uuid) : Prop :=
  x.userId = userId ∨ ∃ l, db.lots.get? x.lotId = some l ∧ l.isOf userId

def Payment.isOf (db : DB) (p : Payment) (userId : Uuid) : Prop :=
  p.userId = userId ∨ ∃ x l, db.offers.get? p.offerId = some x ∧ db.lots.get? x.lotId = some l ∧ l.isOf userId

/-- Every row of the one database that is not the user's is a row of the other. -/
structure Isolated (userId : Uuid) (db db' : DB) : Prop where
  lots : ∀ k l, db.lots.get? k = some l → ¬ l.isOf userId → db'.lots.get? k = some l
  offers : ∀ k x, db.offers.get? k = some x → ¬ x.isOf db userId → db'.offers.get? k = some x
  payments : ∀ k p, db.payments.get? k = some p → ¬ p.isOf db userId → db'.payments.get? k = some p
  bookings : ∀ k b, db.logisticsBookings.get? k = some b → b.userId ≠ userId → db'.logisticsBookings.get? k = some b

/-- An aggregation that passes its checks names a lot that is not the caller's. -/
def PoolsForeign (db : DB) (e : Event) : Prop :=
  ∃ body lid l, e.req = .aggregateLots body ∧ (∃ first members db', Pools db body e.user e.uuid e.now first members db') ∧
    lid ∈ body.lotIds ∧ db.lots.get? lid = some l ∧ ¬ l.isOf e.user

section Step

variable {db : DB} {e : Event}

theorem LotMove.isolated {l l' : Lot} (h : LotMove db e l l') (hi : Linked db) (hl : db.lots.get? l.id = some l)
    (hx : e.req ≠ .expireStaleOffers) (hp : ¬ PoolsForeign db e) (hu : ¬ l.isOf e.user) : l' = l := by
  -- an offer of the caller's is on a lot of the caller's
  have hown : ∀ k x, db.offers.get? k = some x → x.lotId = l.id → x.userId ≠ e.user := by
    intro k x hk hxl hxu
    obtain ⟨l₁, hl₁, hlu, -⟩ := hi.offerLot k x hk
    rw [hxl, hl] at hl₁
    obtain rfl := Option.some.inj hl₁
    exact hu (Or.inl (hlu.trans hxu))
  cases h with
  | same => rfl
  | @pooled body req pools isOpen =>
    obtain ⟨first, members, db', hpl, hm⟩ := pools
    refine absurd ⟨body, l.id, l, req, ⟨first, members, db', hpl⟩, ?_, hl, hu⟩ hp
    rw [← hpl.named.map_id]
    exact List.mem_map.2 ⟨l, hm, rfl⟩
  | graded _ hlu => exact absurd hlu hu
  | withdrawn _ hlu => exact absurd (Or.inl hlu) hu
  | offered hlu _ => exact absurd (Or.inl hlu) hu
  | matched hx hxl => exact absurd hx.user (hown _ _ hx.hx hxl)
  | reopened _ hc =>
    rcases hc with h | ⟨x, hxk, hxl, hxu⟩
    · exact absurd h hx
    · exact absurd hxu (hown _ x hxk hxl)
  | sold hpay hxk hxl =>
    obtain ⟨x', hx', hxu⟩ := hi.paymentOffer _ _ hpay.hp
    obtain rfl := Option.some.inj (hxk.symm.trans hx')
    exact absurd (hxu.trans hpay.user) (hown _ _ hxk hxl)

theorem OfferMove.isolated {x x' : Offer} (h : OfferMove e x x') (hx : e.req ≠ .expireStaleOffers)
    (hu : x.userId ≠ e.user) : x' = x := by
  cases h with
  | same => rfl
  | patched _ hxu => exact absurd hxu hu
  | timedOut _ hc =>
    rcases hc with h | ⟨_, _, hxu⟩
    · exact absurd h hx
    · exact absurd hxu hu

theorem PaymentMove.isolated {db' : DB} {p p' : Payment} (h : PaymentMove db e db' p p') (hu : p.userId ≠ e.user) :
    p' = p := by
  cases h with
  | same => rfl
  | paid hp => exact absurd hp.user hu
  | failed hpu => exact absurd hpu hu
  | disputed hpu => exact absurd hpu hu

theorem BookingMove.isolated {b b' : LogisticsBooking} (h : BookingMove e b b') (hu : b.userId ≠ e.user) : b' = b := by
  cases h with
  | same => rfl
  | updated hbu => exact absurd hbu hu

theorem step_isolated (hi : Linked db) (hx : e.req ≠ .expireStaleOffers) (hp : ¬ PoolsForeign db e) :
    Isolated e.user db (step db e) := by
  have hc := step_change db e
  refine ⟨fun k l hl hu => ?_, fun k x hk hu => ?_, fun k p hk hu => ?_, fun k b hk hu => ?_⟩
  · obtain ⟨l', hl', hm⟩ := hc.lots.old hl
    obtain rfl := Table.key_of_get? hl
    rw [hl', hm.isolated hi hl hx hp hu]
  · obtain ⟨x', hx', hm⟩ := hc.offers.old hk
    rw [hx', hm.isolated hx (fun h => hu (Or.inl h))]
  · obtain ⟨p', hp', hm⟩ := hc.payments.old hk
    rw [hp', hm.isolated (fun h => hu (Or.inl h))]
  · obtain ⟨b', hb', hm⟩ := hc.bookings.old hk
    rw [hb', hm.isolated hu]

theorem PoolsForeign.not_isolated (h : PoolsForeign db e) : ¬ Isolated e.user db (step db e) := by
  obtain ⟨body, lid, l, req, ⟨first, members, db', hp⟩, hlid, hl, hu⟩ := h
  intro hs
  have hstep : step db e = db'.poolLots e.user body.lotIds := by
    unfold step
    rw [req]
    simp only [handle_aggregateLots hp]
  have hg := hs.lots lid l hl hu
  have hne : lid ≠ e.uuid := fun h => hp.id_not_mem.2 (h ▸ hlid)
  rw [hstep, hp.get?, if_neg hne, hl, Option.map_some, if_pos hlid] at hg
  exact hu (Or.inr (by rw [← Option.some.inj hg]))

end Step

/-- **In every reachable state a user's request leaves every row of other users as it is, unless it pools a lot that is
not the user's.** -/
theorem isolated_iff (db : DB) (h : Reachable db) (e : Event) (hx : e.req ≠ .expireStaleOffers) :
    Isolated e.user db (step db e) ↔ ¬ PoolsForeign db e :=
  ⟨fun hs hp => hp.not_isolated hs, step_isolated h.linked hx⟩

/-- Both farmers list; farmer 2 sells lot 12 for a payment still to come, and books the godown for it. -/
def neighbourSells : List Event :=
  twoLots ++
    [.of 2 22 0 (.createOffer (onionOffer 12 2 (by decide) (by decide))), .of 2 0 0 (.updateOffer 22 ⟨.accepted⟩),
     .of 2 32 0 (.createPayment ⟨22, 80, by decide, by decide, none⟩), .of 2 42 0 (.createBooking (godownFor 12))]

/-- Farmer 1 withdraws lot 11; lot 12, its offer, its payment and its booking are farmer 2's. -/
theorem isolated_neighbour :
    let db := after step { firstDay with bookingColumns := createdBookingKeys } neighbourSells
    db.lots.rows.map (fun l => (l.id, l.userId)) = [(11, 1), (12, 2)] ∧
      db.offers.rows.map (fun x => (x.id, x.userId)) = [(22, 2)] ∧
      db.payments.rows.map (fun p => (p.id, p.userId)) = [(32, 2)] ∧
      db.logisticsBookings.rows.map (fun b => (b.id, b.userId)) = [(42, 2)] ∧
      Isolated 1 db (step db (.of 1 0 0 (.withdrawLot 11))) := by
  intro db
  refine ⟨by decide +kernel, by decide +kernel, by decide +kernel, by decide +kernel, ?_⟩
  refine (isolated_iff db ⟨_, neighbourSells, ⟨rfl, rfl, rfl, rfl⟩, rfl⟩ (.of 1 0 0 (.withdrawLot 11))
    (by simp [Event.of])).2 ?_
  rintro ⟨body, lid, l, req, -⟩
  cases req

/-- The FPO pools two farmers' lots: both are marked as its own. -/
theorem pooling_takes_lots :
    ((after step firstDay twoLots).lots.get? 11).map (fun l => (l.userId, l.fpoId, l.status)) = some (1, none, .open) ∧
      ((step (after step firstDay twoLots)
        (.of 3 13 0 (.aggregateLots (pooling [11, 12] (by decide) (by decide))))).lots.get? 11).map
          (fun l => (l.userId, l.fpoId, l.status)) = some (1, some 3, .matched) := by
  decide +kernel

end Krishi
