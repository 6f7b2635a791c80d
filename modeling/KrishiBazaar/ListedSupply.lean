import KrishiBazaar.Moves
import KrishiBazaar.Pooling
/-!
# ListedSupply — what is on the market was listed

The supply of a commodity is what its open and offered lots hold.  Only `create_lot` brings any: an aggregation puts in
what it takes out, as long as it names no lot twice, and a reopened lot had been offered.  So over any run the supply of a
commodity grows by no more than what was listed, each listing counted to the two decimals that its lot keeps
(`supply_listed`).
-/
namespace Krishi

open Lib

/-- What the lot holds of the commodity, if it is open or offered. -/
def Lot.supplyOf (c : Uuid) (l : Lot) : ℚ := if l.commodityId = c then l.supply else 0

def supplyOf (c : Uuid) (db : DB) : ℚ := db.lots.total (Lot.supplyOf c)

/-- What the request lists of the commodity, in hundredths of a quintal as the column keeps it. -/
def Request.listed (c : Uuid) : Request → ℚ
  | .createLot body => if body.commodityId = c then Numeric.stored 2 body.quantityQtl else 0
  | _ => 0

/-- The request is no aggregation that names a lot twice. -/
def Request.NamesOnce : Request → Prop
  | .aggregateLots body => body.lotIds.Nodup
  | _ => True

instance : DecidablePred Request.NamesOnce := fun req => by
  cases req <;> unfold Request.NamesOnce <;> infer_instance

section Writes

variable {c : Uuid} {db : DB}

theorem Lot.supply_nonneg {l : Lot} (h : l ∈ db.lots.rows) : 0 ≤ l.supply := by
  have hpos : 0 < l.quantityQtl := (of_decide_eq_true (db.lots.checked l h)).1
  unfold Lot.supply
  split
  · exact hpos.le
  · exact le_rfl

theorem Lot.supplyOf_le {l l' : Lot} (hc : l'.commodityId = l.commodityId) (h : l'.supply ≤ l.supply) :
    l'.supplyOf c ≤ l.supplyOf c := by
  unfold Lot.supplyOf
  rw [hc]
  split
  · exact h
  · exact le_rfl

/-- **A status brings no supply**, if a lot is put on the market only from there. -/
theorem supplyOf_setLotStatus_le {lotId : Uuid} {s : LotStatus} (h : s = .open ∨ s = .offered →
    ∀ l, db.lots.get? lotId = some l → l.status = .open ∨ l.status = .offered) :
    supplyOf c (db.setLotStatus lotId s) ≤ supplyOf c db := by
  refine Table.total_update_le (fun l hl hid => Lot.supplyOf_le rfl ?_)
  have hget : db.lots.get? lotId = some l := Table.get?_eq_some.2 ⟨hl, of_decide_eq_true hid⟩
  by_cases hs : s = .open ∨ s = .offered
  · have hout : ((Lot.setStatus s).apply l).supply = l.quantityQtl := if_pos hs
    rw [hout, Lot.supply, if_pos (h hs l hget)]
  · have hout : ((Lot.setStatus s).apply l).supply = 0 := if_neg hs
    rw [hout]
    exact Lot.supply_nonneg hl

theorem supplyOf_reopened_le (lotId : Uuid) : supplyOf c (reopened db lotId) ≤ supplyOf c db := by
  unfold reopened
  split
  · rename_i hidle
    obtain ⟨l, hl, hs⟩ := offered_of_idle hidle
    refine supplyOf_setLotStatus_le (fun _ l' hl' => ?_)
    obtain rfl := Option.some.inj (hl.symm.trans hl')
    exact Or.inr hs
  · exact le_rfl

theorem supplyOf_patchOffer_le (x : Offer) (s : OfferStatus) (now : Time) :
    supplyOf c (db.patchOffer x s now) ≤ supplyOf c db := by
  cases s with
  | accepted => exact @supplyOf_setLotStatus_le c (db.setOfferStatus x.id .accepted now) _ _ (fun hs => by simp at hs)
  | rejected => exact @supplyOf_reopened_le c (db.setOfferStatus x.id .rejected now) x.lotId
  | expired => exact @supplyOf_reopened_le c (db.setOfferStatus x.id .expired now) x.lotId
  | pending => exact le_rfl

theorem supplyOf_patched_le (x : Offer) (s : OfferStatus) (now : Time) :
    supplyOf c (patched db x s now) ≤ supplyOf c db := by
  unfold patched
  split
  · exact supplyOf_patchOffer_le x _ now
  · split
    · exact le_rfl
    · exact supplyOf_patchOffer_le x s now

theorem supplyOf_closeLot_le (offerId : Uuid) : supplyOf c (db.closeLot offerId) ≤ supplyOf c db := by
  unfold DB.closeLot
  split
  · exact le_rfl
  · exact supplyOf_setLotStatus_le (fun hs => by simp at hs)

end Writes

/-! ## One request -/

section Step

variable {c : Uuid} {db db' : DB} {body : LotAggregate} {userId id : Uuid} {now : Time} {first : Lot} {members : List Lot}

theorem Pools.commodity (h : Pools db body userId id now first members db') :
    ∀ l ∈ members, l.commodityId = first.commodityId := by
  obtain ⟨a, ha⟩ := List.length_eq_one_iff.1 h.oneCommodity
  have hall : ∀ l ∈ members, l.commodityId = a := fun l hl => by
    have hmem : l.commodityId ∈ (members.map (·.commodityId)).dedup := List.mem_dedup.2 (List.mem_map_of_mem hl)
    rw [ha] at hmem
    exact List.mem_singleton.1 hmem
  intro l hl
  rw [hall l hl, hall first (List.mem_of_mem_head? h.head)]

/-- Pooling exchanges the weights of the named lots, which a pooled one has not, for the pooled lot's. -/
theorem Pools.total (h : Pools db body userId id now first members db') {w : Lot → ℚ}
    (hw : ∀ l, w ((Lot.pool userId).apply l) = 0) :
    (db'.poolLots userId body.lotIds).lots.total w + ((namedLots db body.lotIds).map w).sum
      = db.lots.total w + w (pooledLot body userId id now first members) := by
  have hrows : db'.lots.rows.filter (fun l => l.id ∈ body.lotIds) = namedLots db body.lotIds := by
    have hid : (pooledLot body userId id now first members).id ∉ body.lotIds := h.id_not_mem.2
    obtain ⟨-, -, -, rfl⟩ := Tab.insert?_ok h.inserted
    show (db.lots.rows ++ [pooledLot body userId id now first members]).filter _ = _
    simp [namedLots, List.filter_append, hid]
  have hinsert : db'.lots.total w = db.lots.total w + w (pooledLot body userId id now first members) :=
    Table.total_insert? h.inserted w
  have hupdate := db'.lots.total_update (fun l => l.id ∈ body.lotIds) (Lot.pool userId) w
  rw [hrows, hinsert] at hupdate
  simp only [hw, List.map_const', List.sum_replicate, nsmul_zero, add_zero] at hupdate
  exact hupdate

/-- The distinct members hold of each commodity what the pooled lot does. -/
theorem Pools.members_supplyOf (h : Pools db body userId id now first members db') (hnd : body.lotIds.Nodup) (c : Uuid) :
    ((namedLots db body.lotIds).map (Lot.supplyOf c)).sum
      = (pooledLot body userId id now first members).supplyOf c := by
  have hperm := h.named_perm
  rw [(h.nodup_iff.2 hnd).dedup] at hperm
  rw [(hperm.map (Lot.supplyOf c)).sum_eq]
  have hpooled : (pooledLot body userId id now first members).supplyOf c
      = if first.commodityId = c then totalQuantity members else 0 := rfl
  have hmember : ∀ l ∈ members, l.supplyOf c = if first.commodityId = c then l.quantityQtl else 0 := by
    intro l hl
    have hopen : l.status = .open := (h.named.get? l hl).2
    rw [Lot.supplyOf, h.commodity l hl, Lot.supply, if_pos (Or.inl hopen)]
  rw [hpooled, List.map_congr_left hmember]
  split
  · rfl
  · simp

/-- **Pooling distinct lots puts in what it takes out**, of each commodity. -/
theorem Pools.supplyOf_eq (h : Pools db body userId id now first members db') (hnd : body.lotIds.Nodup) (c : Uuid) :
    supplyOf c (db'.poolLots userId body.lotIds) = supplyOf c db := by
  have htotal := h.total (w := Lot.supplyOf c) (fun l => by simp [Lot.supplyOf, Lot.supply, Lot.pool])
  rw [h.members_supplyOf hnd c] at htotal
  exact add_right_cancel htotal

theorem Request.listed_nonneg (req : Request) (c : Uuid) : 0 ≤ req.listed c := by
  cases req with
  | createLot body =>
    show 0 ≤ if body.commodityId = c then Numeric.stored 2 body.quantityQtl else 0
    split
    · exact Numeric.stored_nonneg body.quantityQtl_gt.le
    · exact le_rfl
  | _ => exact le_rfl

/-- **A new lot brings what was listed.** -/
theorem supplyOf_createLot_le (o : RowOrder) (body : LotCreate) (userId id : Uuid) (now : Time) (db : DB) (c : Uuid) :
    supplyOf c (handle o (createLot body userId id now) db).2 ≤ supplyOf c db + (Request.createLot body).listed c := by
  unfold createLot
  rw [handle_bind, handle_insert]
  cases h : lots.insert? db _ with
  | error e => exact le_add_of_nonneg_right (Request.listed_nonneg _ c)
  | ok db' => exact (Table.total_insert? h (Lot.supplyOf c)).le

/-- **A request brings no more supply than it lists**, if it names no lot twice. -/
theorem supplyOf_step_le (c : Uuid) (db : DB) (e : Event) (h : e.req.NamesOnce) :
    supplyOf c (step db e) ≤ supplyOf c db + e.req.listed c := by
  obtain ⟨user, uuid, now, order, req⟩ := e
  have hlots : ∀ {db'}, db'.lots = db.lots → supplyOf c db' ≤ supplyOf c db := fun hl => by
    unfold supplyOf
    rw [hl]
  cases req with
  | createLot body => exact supplyOf_createLot_le order body user uuid now db c
  | aggregateLots body =>
    refine le_add_of_le_of_nonneg ?_ le_rfl
    by_cases hp : ∃ first members db', Pools db body user uuid now first members db'
    · obtain ⟨first, members, db', hp⟩ := hp
      simp only [step, handle_aggregateLots hp]
      exact (hp.supplyOf_eq h c).le
    · obtain ⟨x, hx⟩ := handle_aggregateLots_error (o := order) hp
      exact hlots (congrArg (fun r => r.2.lots) hx)
  | gradeLot lotId body =>
    refine le_add_of_le_of_nonneg ?_ le_rfl
    rcases gradeLot_cases order lotId body user db with hr | ⟨lot, -, -, hr⟩
    · exact hlots (congrArg DB.lots hr)
    · simp only [step, hr]
      exact Table.total_update_le (fun l _ _ => le_rfl)
  | withdrawLot lotId =>
    refine le_add_of_le_of_nonneg ?_ le_rfl
    simp only [step, handle_withdrawLot]
    split
    · exact supplyOf_setLotStatus_le (fun hs => by simp at hs)
    · exact le_rfl
  | createOffer body =>
    refine le_add_of_le_of_nonneg ?_ le_rfl
    rcases createOffer_cases order body user uuid now db with
      hr | ⟨lot, offer, db', hl, -, hs, -, -, -, -, -, hi, hr⟩
    · exact hlots (congrArg DB.lots hr)
    · obtain ⟨hk, hc, -, hset⟩ := Tab.insert?_ok hi
      have hsame : db'.lots = db.lots := (congrArg DB.lots hset).trans rfl
      simp only [step, hr]
      refine (supplyOf_setLotStatus_le (fun _ l hl' => ?_)).trans (hlots hsame)
      rw [hsame] at hl'
      obtain rfl := Option.some.inj (hl.symm.trans hl')
      exact hs
  | updateOffer offerId body =>
    refine le_add_of_le_of_nonneg ?_ le_rfl
    by_cases hx : ∃ offer, db.offers.get? offerId = some offer ∧ offer.userId = user
    · obtain ⟨offer, hx, hu⟩ := hx
      simp only [step, handle_updateOffer_own hx hu]
      exact supplyOf_patched_le offer body.status now
    · exact hlots (congrArg DB.lots (handle_updateOffer_other (fun x hx' hu => hx ⟨x, hx', hu⟩)))
  | createPayment body =>
    refine le_add_of_le_of_nonneg (hlots ?_) le_rfl
    rcases createPayment_cases order body user uuid now db with hr | ⟨offer, payment, -, -, -, -, -, -, -, -, hi⟩
    · exact congrArg DB.lots hr
    · obtain ⟨hk, hc, -, hr⟩ := Tab.insert?_ok hi
      exact (congrArg DB.lots hr).trans rfl
  | markPaid paymentId =>
    refine le_add_of_le_of_nonneg ?_ le_rfl
    rcases markPaid_cases order paymentId user now db with hr | ⟨p, -, -, -, hr⟩
    · exact hlots (congrArg DB.lots hr)
    · obtain ⟨x, hx⟩ := DB.offerRegraded_eq ((db.setPayment paymentId (Payment.setPaid now)).closeLot p.offerId) p.offerId
      simp only [step, hr, hx]
      unfold supplyOf
      rw [DB.rescored_lots]
      exact @supplyOf_closeLot_le c (db.setPayment paymentId (Payment.setPaid now)) p.offerId
  | markFailed paymentId =>
    refine le_add_of_le_of_nonneg (hlots ?_) le_rfl
    rcases markFailed_cases order paymentId user db with hr | ⟨p, -, -, -, hr⟩
    · exact congrArg DB.lots hr
    · obtain ⟨x, hx⟩ := DB.offerRegraded_eq (db.setPayment paymentId (Payment.setStatus .failed)) p.offerId
      simp [step, hr, hx]
  | markDisputed paymentId =>
    refine le_add_of_le_of_nonneg (hlots ?_) le_rfl
    rcases markDisputed_cases order paymentId user db with hr | ⟨p, -, -, hr⟩
    · exact congrArg DB.lots hr
    · obtain ⟨x, hx⟩ := DB.offerRegraded_eq (db.setPayment paymentId (Payment.setStatus .disputed)) p.offerId
      simp [step, hr, hx]
  | createBooking body =>
    refine le_add_of_le_of_nonneg (hlots ?_) le_rfl
    rcases createBooking_cases order body user uuid now db with hr | ⟨option, booking, -, -, -, -, -, hi⟩
    · exact congrArg DB.lots hr
    · obtain ⟨hk, hc, -, hr⟩ := Tab.insert?_ok hi
      exact (congrArg DB.lots hr).trans rfl
  | updateBooking bookingId body =>
    refine le_add_of_le_of_nonneg (hlots ?_) le_rfl
    rcases updateBooking_cases order bookingId body user now db with hr | ⟨booking, -, -, -, hr⟩
    · exact congrArg DB.lots hr
    · exact (congrArg DB.lots hr).trans rfl
  | expireStaleOffers =>
    refine le_add_of_le_of_nonneg ?_ le_rfl
    simp only [step, handle_expireStaleOffers]
    exact swept_inv (I := fun db' => supplyOf c db' ≤ supplyOf c db)
      (fun db' x hle _ _ => (supplyOf_patchOffer_le x .expired now).trans hle) le_rfl

end Step

/-! ## A run -/

/-- **Over any run whose aggregations name no lot twice, the supply of a commodity grows by no more than what was
listed.** -/
theorem supply_listed (c : Uuid) : ∀ (es : List Event) (db : DB), (∀ e ∈ es, e.req.NamesOnce) →
    supplyOf c (after step db es) ≤ supplyOf c db + (es.map (fun e => e.req.listed c)).sum
  | [], db, _ => by
    show supplyOf c db ≤ supplyOf c db + 0
    rw [add_zero]
  | e :: es, db, h => by
    obtain ⟨he, hes⟩ := List.forall_mem_cons.1 h
    calc supplyOf c (after step db (e :: es)) = supplyOf c (after step (step db e) es) := rfl
      _ ≤ supplyOf c (step db e) + (es.map (fun e => e.req.listed c)).sum := supply_listed c es (step db e) hes
      _ ≤ supplyOf c db + e.req.listed c + (es.map (fun e => e.req.listed c)).sum :=
        add_le_add_left (supplyOf_step_le c db e he) _
      _ = supplyOf c db + ((e :: es).map (fun e => e.req.listed c)).sum := by
        rw [add_assoc, List.map_cons, List.sum_cons]

/-- Two lots of 14 quintals are listed and pooled, and 14 quintals are on the market. -/
theorem supply_listed_pooled :
    let es := twoLots ++ [.of 3 13 0 (.aggregateLots (pooling [11, 12] (by decide) (by decide)))]
    supplyOf 1 (after step firstDay es) = 14 ∧ supplyOf 1 (after step firstDay es) ≤ supplyOf 1 firstDay + 14 := by
  intro es
  have hlisted : (es.map (fun e => e.req.listed 1)).sum = 14 := by decide +kernel
  have h := supply_listed 1 es firstDay (by decide)
  rw [hlisted] at h
  exact ⟨by decide +kernel, h⟩

end Krishi
