import KrishiBazaar.Marketplace
import KrishiBazaar.Lib.Numeric
import Mathlib.Algebra.BigOperators.Group.List.Basic
import Mathlib.Data.Rat.Floor
/-!
# Lots — creating, pooling, grading and withdrawing

`app/routers/lots.py`.  Pooling is the long one: an FPO names lots, the handler fetches them, walks the *names* to
collect the members, inserts the pooled lot and then marks each member (`aggregateLots_cases` says what a call that
succeeds has found and written).
-/
namespace Krishi

open Lib

/-! ## Creating -/

/-- The columns keep the quantity and the price to two decimals. -/
def createLot (body : LotCreate) (userId id : Uuid) (now : Time) : Handler Lot := do
  let res ← insert lots
    { id := id
      userId := userId
      fpoId := body.fpoId
      commodityId := body.commodityId
      marketId := body.marketId
      quantityQtl := Numeric.stored 2 body.quantityQtl
      grade := body.grade
      qualityNotes := body.qualityNotes
      harvestDate := body.harvestDate
      askingPrice := body.askingPrice.map (Numeric.stored 2)
      status := .open
      createdAt := now }
  match res with
  | [] => throw ⟨400, "could not create lot"⟩
  | lot :: _ => pure lot

theorem createLot_cases (o : RowOrder) (body : LotCreate) (userId id : Uuid) (now : Time) (db : DB) :
    (handle o (createLot body userId id now) db).2 = db ∨
      ∃ lot : Lot, lot.id = id ∧ lot.userId = userId ∧ lot.status = .open ∧
        lots.insert? db lot = .ok (handle o (createLot body userId id now) db).2 := by
  unfold createLot
  rw [handle_bind, handle_insert]
  generalize hl : ({ id := id, userId := userId, .. } : Lot) = lot
  cases h : lots.insert? db lot with
  | error e => exact Or.inl rfl
  | ok db' =>
    refine Or.inr ⟨lot, ?_⟩
    subst hl
    exact ⟨rfl, rfl, rfl, h⟩

/-! ## Pooling -/

def Lot.pool (fpo : Uuid) : Patch Lot.id Lot.check :=
  ⟨fun l => { l with status := .matched, fpoId := some fpo }, fun _ => rfl, fun _ h => h⟩

namespace DB

/-- The lots of the ids, pooled under the FPO. -/
def poolLots (db : DB) (fpo : Uuid) (ids : List Uuid) : DB :=
  { db with lots := db.lots.update (fun l => l.id ∈ ids) (Lot.pool fpo) }

variable (db : DB) (fpo : Uuid) (ids : List Uuid)


@[simp] theorem get?_poolLots (k : Uuid) : (db.poolLots fpo ids).lots.get? k
    = (db.lots.get? k).map (fun l => if k ∈ ids then { l with status := .matched, fpoId := some fpo } else l) := by
  show (db.lots.update _ _).get? k = _
  rw [Table.get?_update]
  cases h : db.lots.get? k with
  | none => rfl
  | some l => simp [Table.key_of_get? h, Lot.pool]

end DB

def openLot (byId : Uuid → Option Lot) (lid : Uuid) : Except HTTPException Lot :=
  match byId lid with
  | none => .error ⟨404, s!"lot not found: {lid}"⟩
  | some lot => if lot.status ≠ .open then .error ⟨409, s!"lot {lid} is not open"⟩ else .ok lot

/-- The members, in the order of the ids they were named by. -/
def membersOf (byId : Uuid → Option Lot) (lotIds : List Uuid) : Except HTTPException (List Lot) :=
  lotIds.mapM (openLot byId)

def meanAsking (members : List Lot) : Option ℚ :=
  let priced := members.filterMap (·.askingPrice)
  if priced = [] then none else some (priced.sum / priced.length)

def totalQuantity (members : List Lot) : ℚ := (members.map (·.quantityQtl)).sum

def pooledLot (body : LotAggregate) (userId id : Uuid) (now : Time) (first : Lot) (members : List Lot) : Lot where
  id := id
  userId := userId
  fpoId := some userId
  commodityId := first.commodityId
  marketId := body.marketId.or first.marketId
  quantityQtl := totalQuantity members
  grade := first.grade
  qualityNotes := some s!"FPO aggregate of {members.length} lots"
  harvestDate := none
  askingPrice := body.askingPrice.or (meanAsking members)
  status := .open
  createdAt := now

/-- `supabase.table("lots").update({"status": "matched", "fpo_id": user_id}).eq("id", m["id"])` -/
def poolMember (userId : Uuid) (m : Lot) : Handler Unit := do
  let _ ← update lots (fun l => l.id = m.id) (Lot.pool userId)
  pure ()

/-- `aggregate_lots` from the members on; the set of their commodities has one element. -/
def storePooled (body : LotAggregate) (userId id : Uuid) (now : Time) (members : List Lot) : Handler Lot :=
  match members with
  | [] => throw ⟨400, "all lots must share the same commodity"⟩
  | first :: _ =>
    if (members.map (·.commodityId)).dedup.length ≠ 1 then throw ⟨400, "all lots must share the same commodity"⟩
    else do
      let res ← insert lots (pooledLot body userId id now first members)
      match res with
      | [] => throw ⟨400, "could not create pooled lot"⟩
      | pooled :: _ =>
        Prog.forEach members (poolMember userId)
        pure pooled

def aggregateLots (body : LotAggregate) (userId id : Uuid) (now : Time) : Handler Lot := do
  let profile ← select userProfiles fun p => p.id = userId
  if profile.head?.map (·.role) ≠ some .fpo then throw ⟨403, "requires fpo role"⟩
  else
    let rows ← select lots fun l => l.id ∈ body.lotIds
    let members ← Prog.ofAnswer (membersOf (fun lid => rows.find? (fun l => l.id = lid)) body.lotIds)
    storePooled body userId id now members

theorem openLot_ok {byId : Uuid → Option Lot} {lid : Uuid} {lot : Lot} :
    openLot byId lid = .ok lot ↔ byId lid = some lot ∧ lot.status = .open := by
  unfold openLot
  cases byId lid with
  | none => simp
  | some l =>
    by_cases hs : l.status = .open
    · simp only [hs, ne_eq, not_true, if_false, Except.ok.injEq, Option.some.injEq]
      constructor
      · rintro rfl
        exact ⟨rfl, hs⟩
      · exact And.left
    · simp only [hs, ne_eq, not_false_iff, if_true, reduceCtorEq, Option.some.injEq, false_iff, not_and]
      rintro rfl
      exact hs

/-- The lots of the table that the ids name, each open: what the walk over the ids collects. -/
def Members (db : DB) (lotIds : List Uuid) (members : List Lot) : Prop :=
  List.Forall₂ (fun lid m => db.lots.get? lid = some m ∧ m.status = .open) lotIds members

theorem membersOf_ok {byId : Uuid → Option Lot} {db : DB} {lotIds : List Uuid} {members : List Lot}
    (hb : ∀ lid ∈ lotIds, byId lid = db.lots.get? lid) :
    membersOf byId lotIds = .ok members ↔ Members db lotIds members := by
  rw [membersOf, mapM_ok]
  refine forall₂_congr_left (fun lid hl m => ?_)
  rw [openLot_ok, hb lid hl]

theorem Members.map_id {db : DB} : ∀ {lotIds : List Uuid} {members : List Lot},
    Members db lotIds members → members.map (·.id) = lotIds
  | [], _, .nil => rfl
  | _ :: _, _ :: _, .cons h hs => by
    rw [List.map_cons, Table.key_of_get? h.1, Members.map_id hs]

theorem Members.get? {db : DB} : ∀ {lotIds : List Uuid} {members : List Lot},
    Members db lotIds members → ∀ m ∈ members, db.lots.get? m.id = some m ∧ m.status = .open
  | [], _, .nil, _, hm => absurd hm List.not_mem_nil
  | _ :: _, m :: _, .cons h hs, m', hm => by
    rcases List.mem_cons.1 hm with rfl | hm
    · rw [Table.key_of_get? h.1]
      exact h
    · exact Members.get? hs m' hm

/-- The checks of the handler pass, and the pooled lot can be stored. -/
structure Pools (db : DB) (body : LotAggregate) (userId id : Uuid) (now : Time) (first : Lot) (members : List Lot)
    (db' : DB) : Prop where
  fpo : (db.userProfiles.get? userId).map (·.role) = some .fpo
  named : Members db body.lotIds members
  head : members.head? = some first
  oneCommodity : (members.map (·.commodityId)).dedup.length = 1
  inserted : lots.insert? db (pooledLot body userId id now first members) = .ok db'

theorem foldl_poolMember (userId : Uuid) (members : List Lot) (db : DB) :
    members.foldl (fun db m => db.poolLots userId [m.id]) db = db.poolLots userId (members.map (·.id)) := by
  have h := Table.foldl_update (Lot.pool userId) (fun _ => rfl) (members.map (·.id)) db.lots
  unfold DB.poolLots
  rw [← h, List.foldl_map]
  clear h
  induction members generalizing db with
  | nil => rfl
  | cons m ms ih =>
    rw [List.foldl_cons, List.foldl_cons, ih]
    simp

theorem handle_poolMembers (o : RowOrder) (userId : Uuid) (members : List Lot) (db : DB) :
    handle o (Prog.forEach members (poolMember userId)) db
      = (.ok (), db.poolLots userId (members.map (·.id))) := by
  rw [handle_forEach o db (poolMember userId) (fun db m => db.poolLots userId [m.id]), foldl_poolMember]
  intro m db
  simp [poolMember, DB.poolLots, lots]

theorem membersOf_fetched (o : RowOrder) (db : DB) (lotIds : List Uuid) (members : List Lot) :
    membersOf (fun lid => (o.order (db.lots.rows.filter (fun l => l.id ∈ lotIds))).find? (fun l => l.id = lid)) lotIds
      = .ok members ↔ Members db lotIds members := by
  refine membersOf_ok (fun lid hl => o.find?_order_filter db.lots _ lid ?_)
  rintro l rfl
  simpa using hl

theorem handle_storePooled {o : RowOrder} {body : LotAggregate} {userId id : Uuid} {now : Time} {db : DB}
    {first : Lot} {members : List Lot} (hh : members.head? = some first) :
    handle o (storePooled body userId id now members) db =
      if (members.map (·.commodityId)).dedup.length ≠ 1 then
        (.error ⟨400, "all lots must share the same commodity"⟩, db)
      else match lots.insert? db (pooledLot body userId id now first members) with
        | .ok db' => (.ok (pooledLot body userId id now first members), db'.poolLots userId (members.map (·.id)))
        | .error e => (.error (jsonForApiError e), db) := by
  obtain ⟨rest, rfl⟩ : ∃ rest, members = first :: rest := by
    cases members with
    | nil => cases hh
    | cons m ms => exact ⟨ms, by rw [Option.some.inj hh]⟩
  unfold storePooled
  simp only [handle_ite, handle_throw, handle_bind, handle_insert]
  congr 1
  cases lots.insert? db (pooledLot body userId id now first (first :: rest)) with
  | error e => rfl
  | ok db' =>
    simp only [insertAnswer_ok, Prog.onOk_ok, handle_bind, handle_poolMembers, handle_pure]

/-- An aggregation gets to its members, and goes on with them, if the caller is an FPO and every lot named is open. -/
theorem handle_aggregateLots_members {o : RowOrder} {body : LotAggregate} {userId id : Uuid} {now : Time} {db : DB}
    (hf : (db.userProfiles.get? userId).map (·.role) = some .fpo) :
    handle o (aggregateLots body userId id now) db =
      Prog.onOk (membersOf (fun lid => (o.order (db.lots.rows.filter (fun l => l.id ∈ body.lotIds))).find?
        (fun l => l.id = lid)) body.lotIds, db) (fun ms db => handle o (storePooled body userId id now ms) db) := by
  obtain ⟨p, hp, hr⟩ := Option.map_eq_some_iff.1 hf
  unfold aggregateLots
  simp [userProfiles, lots, hp, hr]

theorem handle_aggregateLots {o : RowOrder} {body : LotAggregate} {userId id : Uuid} {now : Time} {db : DB}
    {first : Lot} {members : List Lot} {db' : DB} (h : Pools db body userId id now first members db') :
    handle o (aggregateLots body userId id now) db
      = (.ok (pooledLot body userId id now first members), db'.poolLots userId body.lotIds) := by
  rw [handle_aggregateLots_members h.fpo, (membersOf_fetched o db body.lotIds members).2 h.named, Prog.onOk_ok,
    handle_storePooled h.head, if_neg (not_not.2 h.oneCommodity), h.inserted, h.named.map_id]

/-- **What pooling does otherwise**: nothing. -/
theorem handle_aggregateLots_error {o : RowOrder} {body : LotAggregate} {userId id : Uuid} {now : Time} {db : DB}
    (h : ¬ ∃ first members db', Pools db body userId id now first members db') :
    ∃ e, handle o (aggregateLots body userId id now) db = (.error e, db) := by
  by_cases hf : (db.userProfiles.get? userId).map (·.role) = some .fpo
  · rw [handle_aggregateLots_members hf]
    cases hm : membersOf _ body.lotIds with
    | error e => exact ⟨e, rfl⟩
    | ok members =>
      rw [membersOf_fetched] at hm
      rw [Prog.onOk_ok]
      cases hh : members.head? with
      | none =>
        obtain rfl := List.head?_eq_none_iff.1 hh
        exact ⟨_, rfl⟩
      | some first =>
        rw [handle_storePooled hh]
        split
        · exact ⟨_, rfl⟩
        · rename_i hc
          cases hi : lots.insert? db (pooledLot body userId id now first members) with
          | error e => exact ⟨_, rfl⟩
          | ok db' => exact absurd ⟨first, members, db', hf, hm, hh, not_not.1 hc, hi⟩ h
  · refine ⟨⟨403, "requires fpo role"⟩, ?_⟩
    unfold aggregateLots
    cases hp : db.userProfiles.get? userId with
    | none => simp [userProfiles, hp]
    | some p =>
      rw [hp, Option.map_some, Option.some.injEq] at hf
      simp [userProfiles, hp, hf]

section Pools

variable {db db' : DB} {body : LotAggregate} {userId id : Uuid} {now : Time} {first : Lot} {members : List Lot}
  (h : Pools db body userId id now first members db')

include h

theorem Pools.id_not_mem : db.lots.get? id = none ∧ id ∉ body.lotIds := by
  obtain ⟨hk, -⟩ := Tab.insert?_ok h.inserted
  refine ⟨hk, fun hm => ?_⟩
  rw [← h.named.map_id] at hm
  obtain ⟨m, hm, hmid⟩ := List.mem_map.1 hm
  have := (h.named.get? m hm).1
  rw [hmid] at this
  exact absurd (hk.symm.trans this) (by simp)

/-- **The lots after pooling**: the new lot, the members marked, the others as they were. -/
theorem Pools.get? (k : Uuid) : (db'.poolLots userId body.lotIds).lots.get? k =
    if k = id then some (pooledLot body userId id now first members)
    else (db.lots.get? k).map (fun l =>
      if k ∈ body.lotIds then { l with status := .matched, fpoId := some userId } else l) := by
  have hg := Tab.get?_insert? h.inserted k
  rw [DB.get?_poolLots, show db'.lots.get? k = _ from hg]
  by_cases hid : k = id
  · subst hid
    simp [h.id_not_mem.2, pooledLot]
  · rw [if_neg hid, if_neg (fun he => hid he.symm)]
    rfl

end Pools

/-! ## Grading -/

def Lot.regrade (body : LotGradeUpdate) : Patch Lot.id Lot.check :=
  ⟨fun l => { l with grade := body.grade, qualityNotes := body.qualityNotes.or l.qualityNotes }, fun _ => rfl,
    fun _ h => h⟩

/-- `lot.get("user_id") == user_id or lot.get("fpo_id") == user_id` -/
def Lot.isOf (lot : Lot) (userId : Uuid) : Prop := lot.userId = userId ∨ lot.fpoId = some userId

instance (lot : Lot) (userId : Uuid) : Decidable (lot.isOf userId) := inferInstanceAs (Decidable (_ ∨ _))

def gradeLot (lotId : Uuid) (body : LotGradeUpdate) (userId : Uuid) : Handler Lot := do
  let rows ← select lots fun l => l.id = lotId
  match rows with
  | [] => throw ⟨404, "lot not found"⟩
  | lot :: _ =>
    if ¬ lot.isOf userId then throw ⟨404, "lot not found"⟩
    else if lot.status = .sold ∨ lot.status = .withdrawn then
      throw ⟨409, "cannot regrade a sold or withdrawn lot"⟩
    else
      let res ← update lots (fun l => l.id = lotId) (Lot.regrade body)
      match res with
      | [] => throw ⟨404, "lot not found"⟩
      | lot :: _ => pure lot

def DB.regradeLot (db : DB) (lotId : Uuid) (body : LotGradeUpdate) : DB :=
  { db with lots := db.lots.update (fun l => l.id = lotId) (Lot.regrade body) }

theorem gradeLot_cases (o : RowOrder) (lotId : Uuid) (body : LotGradeUpdate) (userId : Uuid) (db : DB) :
    (handle o (gradeLot lotId body userId) db).2 = db ∨
      ∃ lot, db.lots.get? lotId = some lot ∧ lot.isOf userId ∧
        (handle o (gradeLot lotId body userId) db).2 = db.regradeLot lotId body := by
  unfold gradeLot
  cases hl : db.lots.get? lotId with
  | none => simp [lots, hl]
  | some lot =>
    by_cases hu : lot.isOf userId
    · by_cases hs : lot.status = .sold ∨ lot.status = .withdrawn
      · simp [lots, hl, hu, hs]
      · refine Or.inr ⟨lot, rfl, hu, ?_⟩
        simp [lots, hl, hu, hs, DB.regradeLot]
    · simp [lots, hl, hu]

/-! ## Withdrawing -/

def withdrawLot (lotId userId : Uuid) : Handler Lot := do
  let res ← update lots (fun l => l.id = lotId ∧ l.userId = userId) (Lot.setStatus .withdrawn)
  match res with
  | [] => throw ⟨404, "lot not found or access denied"⟩
  | lot :: _ => pure lot

/-- A lot is withdrawn if it is the caller's, whatever its status. -/
theorem handle_withdrawLot (o : RowOrder) (lotId userId : Uuid) (db : DB) :
    (handle o (withdrawLot lotId userId) db).2
      = if (db.lots.get? lotId).any (fun l => l.userId = userId) then db.setLotStatus lotId .withdrawn else db := by
  unfold withdrawLot
  simp only [handle_bind, handle_update, Prog.onOk_ok]
  have h : ∀ (rows : List Lot) (db : DB), (handle o (match rows with
      | [] => throw ⟨404, "lot not found or access denied"⟩
      | lot :: _ => pure lot : Handler Lot) db).2 = db := by
    intro rows db
    cases rows <;> rfl
  rw [h]
  simp only [lots, Bool.decide_and, Table.update_key_and]
  split <;> rfl

end Krishi
