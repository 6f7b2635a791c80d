import KrishiBazaar.Faults
import Mathlib.Data.List.Dedup
import Mathlib.Algebra.Order.BigOperators.Group.List
/-!
# HalfPooled — a pooled lot stored when a call fails

`aggregate_lots` reads the caller's role and the lots, stores the pooled lot and then marks each member by a call of its
own.  A call that is refused among the last leaves the pooled lot in the table beside members that are still open
(`aggregateLots_clean`).
-/
namespace Krishi

open Lib

/-! ## What an aggregation needs -/

/-- The caller is an FPO, the new id and the market named are good, and the lots named are open and of one commodity. -/
structure Poolable (db : DB) (body : LotAggregate) (userId id : Uuid) : Prop where
  fpo : (db.userProfiles.get? userId).map (·.role) = some .fpo
  fresh : db.lots.get? id = none
  market : ∀ marketId ∈ body.marketId, (db.markets.get? marketId).isSome
  named : ∃ commodityId, ∀ lid ∈ body.lotIds, ∃ l, db.lots.get? lid = some l ∧ l.status = .open ∧
    l.commodityId = commodityId

/-- The references of the lots, as the schema keeps them. -/
def LotReferences (db : DB) : Prop := ∀ l ∈ db.lots.rows, lots.refs db l = true

section

variable {db db' : DB} {body : LotAggregate} {userId id : Uuid} {now : Time} {first : Lot} {members : List Lot}

theorem exists_members {commodityId : Uuid} : ∀ {lotIds : List Uuid},
    (∀ lid ∈ lotIds, ∃ l, db.lots.get? lid = some l ∧ l.status = .open ∧ l.commodityId = commodityId) →
      ∃ members, Members db lotIds members ∧ ∀ m ∈ members, m.commodityId = commodityId
  | [], _ => ⟨[], .nil, by simp⟩
  | lid :: lotIds, h => by
    obtain ⟨l, hl, hs, hc⟩ := h lid List.mem_cons_self
    obtain ⟨members, hm, hall⟩ := exists_members (fun lid' hlid => h lid' (List.mem_cons_of_mem lid hlid))
    exact ⟨l :: members, .cons ⟨hl, hs⟩ hm, List.forall_mem_cons.2 ⟨hc, hall⟩⟩

theorem Members.exists_of_mem : ∀ {lotIds : List Uuid} {members : List Lot}, Members db lotIds members →
    ∀ lid ∈ lotIds, ∃ m ∈ members, db.lots.get? lid = some m ∧ m.status = .open
  | [], _, .nil, _, hl => absurd hl List.not_mem_nil
  | lid :: _, m :: _, .cons h hs, lid', hl => by
    rcases List.mem_cons.1 hl with rfl | hl
    · exact ⟨m, List.mem_cons_self, h⟩
    · obtain ⟨m', hm', h'⟩ := Members.exists_of_mem hs lid' hl
      exact ⟨m', List.mem_cons_of_mem m hm', h'⟩

theorem Pools.poolable (h : Pools db body userId id now first members db') : Poolable db body userId id := by
  obtain ⟨hfresh, -, hrefs, -⟩ := Tab.insert?_ok h.inserted
  refine ⟨h.fpo, hfresh, fun marketId hm => ?_, first.commodityId, fun lid hl => ?_⟩
  · have hmarket : (hasOpt db.markets (body.marketId.or first.marketId)) = true :=
      (Bool.and_eq_true _ _ ▸ hrefs).2
    rw [Option.mem_def.1 hm] at hmarket
    exact hmarket
  · obtain ⟨m, hm, hget, hs⟩ := h.named.exists_of_mem lid hl
    refine ⟨m, hget, hs, ?_⟩
    obtain ⟨c, hc⟩ := List.length_eq_one_iff.1 h.oneCommodity
    have hall : ∀ l ∈ members, l.commodityId = c := by
      intro l hl
      have : l.commodityId ∈ (members.map (·.commodityId)).dedup := List.mem_dedup.2 (List.mem_map_of_mem hl)
      rw [hc] at this
      exact List.mem_singleton.1 this
    rw [hall m hm, hall first (List.mem_of_head? h.head)]

theorem totalQuantity_pos (hne : members ≠ []) (hpos : ∀ m ∈ members, 0 < m.quantityQtl) : 0 < totalQuantity members := by
  refine List.sum_pos _ ?_ (by simpa using hne)
  intro q hq
  obtain ⟨m, hm, rfl⟩ := List.mem_map.1 hq
  exact hpos m hm

theorem meanAsking_pos (hpos : ∀ m ∈ members, ∀ p ∈ m.askingPrice, 0 < p) : ∀ p ∈ meanAsking members, 0 < p := by
  intro p hp
  unfold meanAsking at hp
  dsimp only at hp
  split at hp
  · cases hp
  · rename_i hne
    obtain rfl := Option.some.inj hp
    have hall : ∀ q ∈ members.filterMap (·.askingPrice), 0 < q := by
      intro q hq
      obtain ⟨m, hm, ha⟩ := List.mem_filterMap.1 hq
      exact hpos m hm q ha
    exact div_pos (List.sum_pos _ hall hne) (Nat.cast_pos.2 (List.length_pos_iff.2 hne))

/-- **An aggregation that has what it needs stores a pooled lot.** -/
theorem Poolable.pools (h : Poolable db body userId id) (hrefs : LotReferences db) (now : Time) :
    ∃ first members db', Pools db body userId id now first members db' := by
  obtain ⟨commodityId, hnamed⟩ := h.named
  obtain ⟨members, hm, hall⟩ := exists_members hnamed
  have hne : members ≠ [] := by
    intro hnil
    have hlen := congrArg List.length hm.map_id
    rw [hnil, List.map_nil, List.length_nil] at hlen
    have := body.lotIds_min
    omega
  obtain ⟨first, hfirst⟩ : ∃ first, members.head? = some first := Option.isSome_iff_exists.1 (by simpa using hne)
  have hmem : ∀ m ∈ members, m ∈ db.lots.rows := fun m hm' => Table.mem_of_get? (hm.get? m hm').1
  have hcheck : ∀ m ∈ members, 0 < m.quantityQtl ∧ ∀ p ∈ m.askingPrice, 0 < p := by
    intro m hm'
    have := Table.check_of_get? (hm.get? m hm').1
    rwa [Lot.check, decide_eq_true_iff] at this
  have hone : (members.map (·.commodityId)).dedup.length = 1 := by
    have hrep : members.map (·.commodityId) = List.replicate members.length commodityId :=
      List.eq_replicate_iff.2 ⟨List.length_map .., fun c hc => by
        obtain ⟨m, hm', rfl⟩ := List.mem_map.1 hc
        exact hall m hm'⟩
    rw [hrep, List.replicate_dedup (by simpa using hne)]
    rfl
  have hlot : (pooledLot body userId id now first members).check = true := by
    have hasking : ∀ p ∈ body.askingPrice.or (meanAsking members), 0 < p := by
      intro p hp
      cases ha : body.askingPrice with
      | some q =>
        rw [ha] at hp
        exact body.askingPrice_gt p (ha.trans hp)
      | none =>
        rw [ha] at hp
        exact meanAsking_pos (fun m hm' => (hcheck m hm').2) p hp
    exact decide_eq_true ⟨totalQuantity_pos hne (fun m hm' => (hcheck m hm').1), hasking⟩
  have huser : (db.userProfiles.get? userId).isSome = true := by
    obtain ⟨p, hp, -⟩ := Option.map_eq_some_iff.1 h.fpo
    rw [hp]
    rfl
  have hfirstRefs : lots.refs db first = true := hrefs first (hmem first (List.mem_of_head? hfirst))
  simp only [lots, Bool.and_eq_true] at hfirstRefs
  have hmarket : hasOpt db.markets (body.marketId.or first.marketId) = true := by
    cases hb : body.marketId with
    | some marketId => exact h.market marketId hb
    | none => exact hfirstRefs.2
  have hstore : lots.refs db (pooledLot body userId id now first members) = true := by
    simp only [lots, pooledLot, Bool.and_eq_true]
    exact ⟨⟨⟨huser, huser⟩, hfirstRefs.1.2⟩, hmarket⟩
  exact ⟨first, members, _, h.fpo, hm, hfirst, hone, Tab.insert?_of rfl hlot h.fresh hstore⟩

end

/-! ## One call fails -/

section

variable {o : RowOrder} {body : LotAggregate} {userId id : Uuid} {now : Time} {db db' : DB} {first : Lot}
  {members : List Lot} (fault : Fault) (n : Nat)

theorem aggregateLots_zero : (handleBut o fault 0 (aggregateLots body userId id now) db).2 = db := by
  unfold aggregateLots
  cases fault with
  | raises e => rw [handleBut_select_raises]
  | noRows =>
    rw [handleBut_select_noRows, handle_ite, if_pos (by simp)]
    rfl

theorem aggregateLots_other (hf : (db.userProfiles.get? userId).map (·.role) ≠ some .fpo) :
    (handleBut o fault (n + 1) (aggregateLots body userId id now) db).2 = db := by
  have hhead : (db.userProfiles.get? userId).toList.head?.map (·.role) ≠ some .fpo := by
    rwa [Option.head?_toList]
  unfold aggregateLots
  rw [handleBut_select_succ, o.order_filter_key, show (userProfiles.get db) = db.userProfiles from rfl, if_pos hhead]
  exact congrArg Prod.snd (handleBut_throw o fault n db _)

section Fpo

variable (hf : (db.userProfiles.get? userId).map (·.role) = some .fpo)

include hf

theorem aggregateLots_one : (handleBut o fault 1 (aggregateLots body userId id now) db).2 = db := by
  have hhead : (db.userProfiles.get? userId).toList.head?.map (·.role) = some .fpo := by
    rwa [Option.head?_toList]
  unfold aggregateLots
  rw [handleBut_select_succ, o.order_filter_key, show (userProfiles.get db) = db.userProfiles from rfl,
    if_neg (not_not.2 hhead)]
  cases fault with
  | raises e => rw [handleBut_select_raises]
  | noRows =>
    rw [handleBut_select_noRows, handle_bind, handle_ofAnswer]
    obtain ⟨lid, lotIds, hids⟩ : ∃ lid lotIds, body.lotIds = lid :: lotIds := by
      cases hb : body.lotIds with
      | nil =>
        have := body.lotIds_min
        rw [hb] at this
        exact absurd this (by decide)
      | cons lid lotIds => exact ⟨lid, lotIds, rfl⟩
    rw [hids]
    rfl

/-- From the lots on. -/
theorem aggregateLots_members : handleBut o fault (n + 2) (aggregateLots body userId id now) db
    = handleBut o fault n (Prog.ofAnswer (membersOf (fun lid =>
        (o.order (db.lots.rows.filter (fun l => l.id ∈ body.lotIds))).find? (fun l => l.id = lid)) body.lotIds) >>=
        storePooled body userId id now) db := by
  have hhead : (db.userProfiles.get? userId).toList.head?.map (·.role) = some .fpo := by
    rwa [Option.head?_toList]
  unfold aggregateLots
  rw [handleBut_select_succ, o.order_filter_key, show (userProfiles.get db) = db.userProfiles from rfl,
    if_neg (not_not.2 hhead), handleBut_select_succ]
  rfl

end Fpo

theorem storePooled_zero : (handleBut o fault 0 (storePooled body userId id now members) db).2 = db := by
  unfold storePooled
  cases members with
  | nil => rfl
  | cons m ms =>
    dsimp only
    split
    · rfl
    · cases fault with
      | raises e => rw [handleBut_insert_raises]
      | noRows =>
        rw [handleBut_insert_noRows]
        rfl

/-- A pooled lot that the table refuses, or that is not put to it, changes nothing. -/
theorem storePooled_refused (h : ∀ first, members.head? = some first →
    (members.map (·.commodityId)).dedup.length = 1 → ∀ db', lots.insert? db (pooledLot body userId id now first members)
      ≠ .ok db') : (handleBut o fault (n + 1) (storePooled body userId id now members) db).2 = db := by
  unfold storePooled
  cases members with
  | nil => exact congrArg Prod.snd (handleBut_throw o fault (n + 1) db _)
  | cons m ms =>
    dsimp only
    split
    · exact congrArg Prod.snd (handleBut_throw o fault (n + 1) db _)
    · rename_i hone
      cases hi : lots.insert? db (pooledLot body userId id now m (m :: ms)) with
      | ok db' => exact absurd hi (h m rfl (not_not.1 hone) db')
      | error e => rw [handleBut_insert_error _ _ _ _ _ _ _ hi]

/-- Once the pooled lot is stored the rest is a call for each member. -/
theorem storePooled_stored (hh : members.head? = some first) (hone : (members.map (·.commodityId)).dedup.length = 1)
    (hi : lots.insert? db (pooledLot body userId id now first members) = .ok db') :
    handleBut o fault (n + 1) (storePooled body userId id now members) db
      = handleBut o fault n (Prog.forEach members (poolMember userId) >>=
        fun _ => pure (pooledLot body userId id now first members)) db' := by
  obtain ⟨rest, rfl⟩ : ∃ rest, members = first :: rest := by
    cases members with
    | nil => cases hh
    | cons m ms => exact ⟨ms, by rw [Option.some.inj hh]⟩
  unfold storePooled
  dsimp only
  rw [if_neg (not_not.2 hone), handleBut_insert_ok _ _ _ _ _ _ _ hi]

/-- A call that the store answers, and that keeps the lot of an id. -/
def KeepsLot (o : RowOrder) (id : Uuid) {ρ : Type} (op : Op DB ρ) : Prop :=
  ∀ db, (∃ r, (exec o jsonForApiError op db).1 = .ok r) ∧
    ((db.lots.get? id).isSome → ((exec o jsonForApiError op db).2.lots.get? id).isSome)

theorem plain_poolMembers (id : Uuid) (pooled : Lot) :
    (Prog.forEach members (poolMember userId) >>= fun _ => pure pooled : Handler Lot).Plain (KeepsLot o id) := by
  refine Prog.Plain.bind (Prog.Plain.forEach (fun m => ?_) members) (fun _ => Prog.Plain.pure pooled)
  refine Prog.Plain.bind (Prog.Plain.perform (fun db => ⟨⟨_, rfl⟩, fun hid => ?_⟩)) (fun _ => Prog.Plain.pure ())
  show ((db.lots.update (fun l => l.id = m.id) (Lot.pool userId)).get? id).isSome
  rw [Table.get?_update, Option.isSome_map]
  exact hid

theorem calls_poolMembers (pooled : Lot) : (Prog.forEach members (poolMember userId) >>= fun _ => pure pooled).calls
    (exec o jsonForApiError) db = members.length := by
  have hrun : ∀ (m : Lot) (db : DB), handle o (poolMember userId m) db = (.ok (), db.poolLots userId [m.id]) := by
    intro m db
    simp [poolMember, DB.poolLots, lots]
  have hcalls : ∀ (m : Lot) (db : DB), (poolMember userId m).calls (exec o jsonForApiError) db = 1 := by
    intro m db
    have hupdate := run_update (E := HTTPException) lots o jsonForApiError db (fun l => l.id = m.id) (Lot.pool userId)
    unfold poolMember
    rw [Prog.calls_bind_ok _ _ _ hupdate, update, Prog.calls_perform]
    rfl
  rw [Prog.calls_bind_ok _ _ _ (handle_poolMembers o userId members db),
    Prog.calls_forEach _ _ hcalls (fun m db => ⟨_, hrun m db⟩)]
  rfl

/-- The request returns, or has left the lots. -/
def PoolsCleanly (o : RowOrder) (fault : Fault) (n : Nat) (body : LotAggregate) (userId id : Uuid) (now : Time)
    (db : DB) : Prop :=
  (∃ pooled, (handleBut o fault n (aggregateLots body userId id now) db).1 = .ok pooled) ∨
    (handleBut o fault n (aggregateLots body userId id now) db).2.lots = db.lots

theorem PoolsCleanly.of_same (h : (handleBut o fault n (aggregateLots body userId id now) db).2 = db) :
    PoolsCleanly o fault n body userId id now db := Or.inr (congrArg DB.lots h)

/-- **With the pooled lot stored a refused call leaves it there.** -/
theorem poolsCleanly_stored (h : Pools db body userId id now first members db') :
    PoolsCleanly o fault (n + 3) body userId id now db ↔ fault = .noRows ∨ body.lotIds.length ≤ n := by
  have hplain : (Prog.forEach members (poolMember userId) >>= fun _ => pure
      (pooledLot body userId id now first members) : Handler Lot).Plain (KeepsLot o id) := plain_poolMembers id _
  have hok := handleBut_ok_iff hplain o fault n db' (fun op db hop => (hop db).1)
  have hstored : (db'.lots.get? id).isSome := by
    have hget : db'.lots.get? id = some (pooledLot body userId id now first members) :=
      (Tab.get?_insert? h.inserted id).trans (if_pos rfl)
    rw [hget]
    rfl
  have hkept := handleBut_inv hplain o fault n db' (I := fun db => (db.lots.get? id).isSome)
    (fun op db hop hdb => (hop db).2 hdb) hstored
  rw [calls_poolMembers, show members.length = body.lotIds.length by rw [← h.named.map_id, List.length_map]] at hok
  unfold PoolsCleanly
  rw [aggregateLots_members fault (n + 1) h.fpo, (membersOf_fetched o db body.lotIds members).2 h.named]
  show (∃ pooled, (handleBut o fault (n + 1) (storePooled body userId id now members) db).1 = .ok pooled) ∨
    (handleBut o fault (n + 1) (storePooled body userId id now members) db).2.lots = db.lots ↔ _
  rw [storePooled_stored fault n h.head h.oneCommodity h.inserted, hok, or_iff_left]
  intro hsame
  rw [hsame, h.id_not_mem.1] at hkept
  cases hkept

/-- What does not get to storing a pooled lot changes nothing. -/
theorem aggregateLots_refused (h : ¬ ∃ first members db', Pools db body userId id now first members db') :
    (handleBut o fault n (aggregateLots body userId id now) db).2 = db := by
  by_cases hf : (db.userProfiles.get? userId).map (·.role) = some .fpo
  · rcases n with _ | _ | n
    · exact aggregateLots_zero fault
    · exact aggregateLots_one fault hf
    · rw [aggregateLots_members fault n hf]
      cases hm : membersOf _ body.lotIds with
      | error e => exact congrArg Prod.snd (handleBut_throw o fault n db e)
      | ok members =>
        rw [membersOf_fetched] at hm
        show (handleBut o fault n (storePooled body userId id now members) db).2 = db
        rcases n with _ | n
        · exact storePooled_zero fault
        · exact storePooled_refused fault n (fun first hh hone db' hi => h ⟨first, members, db', hf, hm, hh, hone, hi⟩)
  · rcases n with _ | n
    · exact aggregateLots_zero fault
    · exact aggregateLots_other fault n hf

/-- **One failing call leaves lots half pooled just if it is refused among the members' calls** of an aggregation that
stores its pooled lot. -/
theorem aggregateLots_clean (o : RowOrder) (fault : Fault) (n : Nat) (body : LotAggregate) (userId id : Uuid)
    (now : Time) (db : DB) (href : LotReferences db) : PoolsCleanly o fault n body userId id now db ↔
      fault = .noRows ∨ n < 3 ∨ 3 + body.lotIds.length ≤ n ∨ ¬ Poolable db body userId id := by
  by_cases h : ∃ first members db', Pools db body userId id now first members db'
  · obtain ⟨first, members, db', h⟩ := h
    rw [iff_false_intro (not_not_intro h.poolable), or_false]
    rcases n with _ | _ | _ | n
    · exact iff_of_true (PoolsCleanly.of_same fault 0 (aggregateLots_zero fault)) (Or.inr (Or.inl (by decide)))
    · exact iff_of_true (PoolsCleanly.of_same fault 1 (aggregateLots_one fault h.fpo)) (Or.inr (Or.inl (by decide)))
    · refine iff_of_true (PoolsCleanly.of_same fault 2 ?_) (Or.inr (Or.inl (by decide)))
      rw [aggregateLots_members fault 0 h.fpo, (membersOf_fetched o db body.lotIds members).2 h.named]
      exact storePooled_zero fault
    · rw [poolsCleanly_stored fault n h]
      have h3 : ¬ n + 3 < 3 := by omega
      have hlen : 3 + body.lotIds.length ≤ n + 3 ↔ body.lotIds.length ≤ n := by omega
      rw [hlen, or_iff_right h3]
  · have hno : ¬ Poolable db body userId id := fun hpool => h (hpool.pools href now)
    exact iff_of_true (PoolsCleanly.of_same fault n (aggregateLots_refused fault n h)) (Or.inr (Or.inr (Or.inr hno)))

end

/-! ## Two lots of onions -/

theorem twoLots_references : LotReferences (after step firstDay twoLots) := by
  unfold LotReferences
  decide +kernel

/-- A refusal of the first member's update leaves lot 13 of fourteen quintals, and both members open. -/
theorem aggregateLots_halfway :
    let db := after step firstDay twoLots
    let body := pooling [11, 12] (by decide) (by decide)
    let r := handleBut .asStored (.raises .unavailable) 3 (aggregateLots body 3 13 0) db
    r.1 = .error ⟨503, "data store temporarily unavailable"⟩ ∧ db.lots.get? 13 = none ∧
      [11, 12, 13].map (fun k => (r.2.lots.get? k).map (fun l => (l.status, l.quantityQtl)))
        = [some (.open, 10), some (.open, 4), some (.open, 14)] ∧
      ¬ PoolsCleanly .asStored (.raises .unavailable) 3 body 3 13 0 db := by
  intro db body r
  have herr : r.1 = .error ⟨503, "data store temporarily unavailable"⟩ := by decide +kernel
  have hlot : db.lots.get? 13 = none := by decide +kernel
  have hleft : (r.2.lots.get? 13).isSome := by decide +kernel
  refine ⟨herr, hlot, by decide +kernel, ?_⟩
  rintro (⟨pooled, hok⟩ | hsame)
  · cases herr.symm.trans hok
  · rw [hsame, hlot] at hleft
    cases hleft

/-- A refusal of the insert changes nothing. -/
theorem aggregateLots_notStored : PoolsCleanly .asStored (.raises .unavailable) 2
    (pooling [11, 12] (by decide) (by decide)) 3 13 0 (after step firstDay twoLots) :=
  (aggregateLots_clean .asStored (.raises .unavailable) 2 (pooling [11, 12] (by decide) (by decide)) 3 13 0
    (after step firstDay twoLots) twoLots_references).2 (Or.inr (Or.inl (by decide)))

end Krishi
