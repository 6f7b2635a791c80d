import KrishiBazaar.Lib.Total
import KrishiBazaar.Requests
/-!
# Pooling — what an aggregation does to the supply

The quantity on offer is the sum over the lots that are open or offered.  Pooling takes the members out of it and puts
the pooled lot in; the pooled lot's quantity is a sum over the *names*, so the two agree exactly when no lot is named
twice (`aggregateLots_conserves_iff`).
-/
namespace Krishi

open Lib

/-- The quantity of a lot that is open or offered. -/
def Lot.supply (l : Lot) : ℚ := if l.status = .open ∨ l.status = .offered then l.quantityQtl else 0

def openSupply (db : DB) : ℚ := db.lots.total Lot.supply

/-- The distinct lots the ids name. -/
def namedLots (db : DB) (lotIds : List Uuid) : List Lot := db.lots.rows.filter (fun l => l.id ∈ lotIds)

section Pools

variable {db db' : DB} {body : LotAggregate} {userId id : Uuid} {now : Time} {first : Lot} {members : List Lot}
  (h : Pools db body userId id now first members db')

include h

theorem Pools.mem_named {l : Lot} : l ∈ namedLots db body.lotIds ↔ l ∈ members := by
  unfold namedLots
  rw [List.mem_filter, decide_eq_true_eq, ← h.named.map_id]
  constructor
  · rintro ⟨hl, hm⟩
    obtain ⟨m, hm, hid⟩ := List.mem_map.1 hm
    rw [db.lots.eq_of_key hl (Table.mem_of_get? (h.named.get? m hm).1) hid.symm]
    exact hm
  · intro hm
    exact ⟨Table.mem_of_get? (h.named.get? l hm).1, List.mem_map.2 ⟨l, hm, rfl⟩⟩

theorem Pools.named_perm : (namedLots db body.lotIds).Perm members.dedup := by
  refine (List.perm_ext_iff_of_nodup ?_ (List.nodup_dedup members)).2 (fun l => ?_)
  · exact (List.Nodup.of_map _ db.lots.nodup).filter _
  · rw [h.mem_named, List.mem_dedup]

theorem Pools.nodup_iff : members.Nodup ↔ body.lotIds.Nodup := by
  rw [← h.named.map_id]
  refine ⟨fun hn => hn.map_on (fun l hl m hm hid => ?_), List.Nodup.of_map _⟩
  exact db.lots.eq_of_key (Table.mem_of_get? (h.named.get? l hl).1) (Table.mem_of_get? (h.named.get? m hm).1) hid

/-- **Pooling takes the distinct members out of the supply and puts the pooled lot in.** -/
theorem Pools.supply : openSupply (db'.poolLots userId body.lotIds)
    + ((namedLots db body.lotIds).map (·.quantityQtl)).sum = openSupply db + totalQuantity members := by
  obtain ⟨hk, hc, -, rfl⟩ := Tab.insert?_ok h.inserted
  let pooled := pooledLot body userId id now first members
  have hk' : db.lots.get? pooled.id = none := hk
  have hrows : (db.lots.rows ++ [pooled]).filter (fun l => l.id ∈ body.lotIds) = namedLots db body.lotIds := by
    have hid : pooled.id ∉ body.lotIds := h.id_not_mem.2
    simp [namedLots, List.filter_append, hid]
  have hopen : (namedLots db body.lotIds).map Lot.supply = (namedLots db body.lotIds).map (·.quantityQtl) := by
    refine List.map_congr_left (fun l hl => ?_)
    rw [Lot.supply, if_pos (Or.inl (h.named.get? l (h.mem_named.1 hl)).2)]
  have hu := (db.lots.insert pooled hk' hc).total_update (fun l => l.id ∈ body.lotIds) (Lot.pool userId) Lot.supply
  have hi : (db.lots.insert pooled hk' hc).total Lot.supply = openSupply db + totalQuantity members := by
    rw [Table.total_insert]
    rfl
  have hz : ∀ l, Lot.supply ((Lot.pool userId).apply l) = 0 := by
    intro l
    simp [Lot.supply, Lot.pool]
  rw [hi, show (db.lots.insert pooled hk' hc).rows = db.lots.rows ++ [pooled] from rfl, hrows, hopen] at hu
  simp only [hz, List.map_const', List.sum_replicate, nsmul_zero, add_zero] at hu
  exact hu

theorem Pools.conserves_iff :
    (openSupply (db'.poolLots userId body.lotIds) = openSupply db ∧
      totalQuantity members = ((namedLots db body.lotIds).map (·.quantityQtl)).sum) ↔ body.lotIds.Nodup := by
  have hs := h.supply
  have hpos : ∀ l ∈ members, 0 < l.quantityQtl := by
    intro l hl
    have := Table.check_of_get? (h.named.get? l hl).1
    simp only [Lot.check, decide_eq_true_eq] at this
    exact this.1
  have hd := sum_dedup_iff hpos
  rw [← h.nodup_iff, ← hd, ← (h.named_perm.map (·.quantityQtl)).sum_eq]
  constructor
  · rintro ⟨-, hq⟩
    exact hq.symm
  · intro hq
    rw [hq] at hs
    exact ⟨add_right_cancel hs, hq.symm⟩

end Pools

/-- **A successful aggregation conserves the supply and pools the sum of its distinct members exactly when no lot is
named twice.** -/
theorem aggregateLots_conserves_iff (o : RowOrder) (body : LotAggregate) (userId id : Uuid) (now : Time) (db : DB)
    (pooled : Lot) (h : (handle o (aggregateLots body userId id now) db).1 = .ok pooled) :
    (openSupply (handle o (aggregateLots body userId id now) db).2 = openSupply db ∧
      pooled.quantityQtl = ((namedLots db body.lotIds).map (·.quantityQtl)).sum) ↔ body.lotIds.Nodup := by
  by_cases hp : ∃ first members db', Pools db body userId id now first members db'
  · obtain ⟨first, members, db', hp⟩ := hp
    rw [handle_aggregateLots hp] at h ⊢
    obtain rfl := Except.ok.inj h
    exact hp.conserves_iff
  · obtain ⟨e, he⟩ := handle_aggregateLots_error (o := o) hp
    rw [he] at h
    cases h

/-- Naming one lot of 10 quintals twice pools 20 quintals and takes 10 out of the supply. -/
theorem aggregateLots_repeated :
    let r := handle .asStored (aggregateLots (pooling [11, 11] (by decide) (by decide)) 3 13 0)
      (after step firstDay twoLots)
    r.1.toOption.map (·.quantityQtl) = some 20 ∧ openSupply (after step firstDay twoLots) = 14 ∧ openSupply r.2 = 24 ∧
      ((namedLots (after step firstDay twoLots) [11, 11]).map (·.quantityQtl)).sum = 10 := by
  decide +kernel

/-- Naming the two lots once each pools their 14 quintals. -/
theorem aggregateLots_distinct :
    let r := handle .asStored (aggregateLots (pooling [11, 12] (by decide) (by decide)) 3 13 0)
      (after step firstDay twoLots)
    openSupply r.2 = openSupply (after step firstDay twoLots) ∧
      (14 : ℚ) = ((namedLots (after step firstDay twoLots) [11, 12]).map (·.quantityQtl)).sum :=
  (aggregateLots_conserves_iff .asStored (pooling [11, 12] (by decide) (by decide)) 3 13 0 (after step firstDay twoLots)
    ⟨13, 3, some 3, 1, none, 14, .general, some "FPO aggregate of 2 lots", none, none, .open, 0⟩
    (by decide +kernel)).2 (by decide)

end Krishi
