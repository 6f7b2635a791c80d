import KrishiBazaar.Lots
import KrishiBazaar.Payments
/-!
# Grievances — filing a complaint, deciding it, and rescoring the buyers

`app/routers/grievances.py`, and what `app/routers/admin.py` does with grievances and grades.  Filing stores a row and
reads nothing but the lot and the offer it names; only the administrator's requests rescore a buyer.
-/
namespace Krishi

open Lib

/-! ## The handlers -/

def Grievance.setStatus (s : GrievanceStatus) (now : Time) : Patch Grievance.id noCheck :=
  ⟨fun g => { g with status := s, updatedAt := now }, fun _ => rfl, fun _ h => h⟩

def DB.setGrievance (db : DB) (grievanceId : Uuid) (s : GrievanceStatus) (now : Time) : DB :=
  { db with grievances := db.grievances.update (fun g => g.id = grievanceId) (Grievance.setStatus s now) }

/-- A lot named in a complaint is the caller's, or pooled under the caller. -/
def ownGrievanceLot (lotId : Option Uuid) (userId : Uuid) : Handler Unit :=
  match lotId with
  | none => pure ()
  | some lotId => do
    let lotRows ← select lots fun l => l.id = lotId
    match lotRows with
    | [] => throw ⟨404, "lot not found"⟩
    | lot :: _ => if ¬ lot.isOf userId then throw ⟨404, "lot not found"⟩ else pure ()

def ownGrievanceOffer (offerId : Option Uuid) (userId : Uuid) : Handler Unit :=
  match offerId with
  | none => pure ()
  | some offerId => do
    let offerRows ← select offers fun x => x.id = offerId
    match offerRows with
    | [] => throw ⟨404, "offer not found"⟩
    | offer :: _ => if offer.userId ≠ userId then throw ⟨404, "offer not found"⟩ else pure ()

/-- The row `create_grievance` inserts. -/
def GrievanceCreate.row (body : GrievanceCreate) (userId id : Uuid) (now : Time) : Grievance :=
  { id := id
    userId := userId
    offerId := body.offerId
    lotId := body.lotId
    category := body.category
    description := body.description
    status := .open
    createdAt := now
    updatedAt := now }

def createGrievance (body : GrievanceCreate) (userId id : Uuid) (now : Time) : Handler Grievance := do
  ownGrievanceLot body.lotId userId
  ownGrievanceOffer body.offerId userId
  let res ← insert grievances (body.row userId id now)
  match res with
  | [] => throw ⟨400, "could not create grievance"⟩
  | grievance :: _ => pure grievance

/-- `admin_update_grievance` from the updated row on; the source writes the two calls of `_rescore_offer_buyer` out. -/
def rescoreAccused (row : Grievance) : Handler Unit :=
  if row.category = .payment then
    match row.offerId with
    | none => pure ()
    | some offerId => rescoreOfferBuyer offerId
  else pure ()

def adminUpdateGrievance (grievanceId : Uuid) (body : GrievanceUpdate) (now : Time) : Handler Grievance := do
  let res ← update grievances (fun g => g.id = grievanceId) (Grievance.setStatus body.status now)
  match res with
  | [] => throw ⟨404, "grievance not found"⟩
  | row :: _ =>
    rescoreAccused row
    pure row

/-- One round of `admin_rescore_buyers`: the grades written so far. -/
def rescoreBuyer (updated : List (Uuid × Reliability)) (b : Buyer) : Handler (List (Uuid × Reliability)) := do
  let grade ← recomputeBuyerReliability b.id
  match grade with
  | none => pure updated
  | some g => pure (updated ++ [(b.id, g)])

def adminRescoreBuyers : Handler (List (Uuid × Reliability)) := do
  let buyerRows ← selectLimit buyers (fun _ => true) 500
  buyerRows.foldlM rescoreBuyer []

/-! ## Filing -/

/-- **The complaint is stored**: its lot and its offer are the caller's, and its row meets the table's constraints. -/
structure Files (db : DB) (body : GrievanceCreate) (userId id : Uuid) : Prop where
  lot : ∀ lotId ∈ body.lotId, ∃ lot ∈ db.lots.get? lotId, lot.isOf userId
  offer : ∀ offerId ∈ body.offerId, ∃ offer ∈ db.offers.get? offerId, offer.userId = userId
  fresh : db.grievances.get? id = none
  profile : (db.userProfiles.get? userId).isSome

section

variable (o : RowOrder) (db : DB) (body : GrievanceCreate) (userId id : Uuid) (now : Time)

theorem handle_ownGrievanceLot (lotId : Option Uuid) :
    handle o (ownGrievanceLot lotId userId) db
      = (if ∀ l ∈ lotId, ∃ lot ∈ db.lots.get? l, lot.isOf userId then .ok () else .error ⟨404, "lot not found"⟩, db) := by
  unfold ownGrievanceLot
  cases lotId with
  | none => simp
  | some l =>
    cases hl : db.lots.get? l with
    | none => simp [lots, hl]
    | some lot =>
      by_cases hu : lot.isOf userId
      · simp [lots, hl, hu]
      · simp [lots, hl, hu]

theorem handle_ownGrievanceOffer (offerId : Option Uuid) :
    handle o (ownGrievanceOffer offerId userId) db
      = (if ∀ i ∈ offerId, ∃ offer ∈ db.offers.get? i, offer.userId = userId then .ok ()
          else .error ⟨404, "offer not found"⟩, db) := by
  unfold ownGrievanceOffer
  cases offerId with
  | none => simp
  | some i =>
    cases hx : db.offers.get? i with
    | none => simp [offers, hx]
    | some offer =>
      by_cases hu : offer.userId = userId
      · simp [offers, hx, hu]
      · simp [offers, hx, hu]

variable {db body userId id}

theorem Files.refs (h : Files db body userId id) : grievances.refs db (body.row userId id now) = true := by
  have hlot : hasOpt db.lots body.lotId = true := by
    refine (Option.all_eq_true _ _).2 (fun l hl => ?_)
    obtain ⟨lot, hlot, -⟩ := h.lot l hl
    rw [Option.mem_def.1 hlot]
    rfl
  have hoffer : hasOpt db.offers body.offerId = true := by
    refine (Option.all_eq_true _ _).2 (fun i hi => ?_)
    obtain ⟨offer, hoffer, -⟩ := h.offer i hi
    rw [Option.mem_def.1 hoffer]
    rfl
  show ((db.userProfiles.get? userId).isSome && hasOpt db.offers body.offerId && hasOpt db.lots body.lotId) = true
  rw [h.profile, hoffer, hlot]
  rfl

/-- The database with the complaint stored. -/
def Files.stored (h : Files db body userId id) : DB :=
  { db with grievances := db.grievances.insert (body.row userId id now) h.fresh (noCheck_true _) }

theorem handle_insert_grievance (h : Files db body userId id) :
    handle o (insert grievances (body.row userId id now)) db = (.ok [body.row userId id now], h.stored now) := by
  have hi : grievances.insert? db (body.row userId id now) = .ok (h.stored now) :=
    Tab.insert?_of (t := grievances) (r := body.row userId id now) rfl rfl h.fresh (h.refs now)
  rw [handle_insert, hi]
  rfl

theorem handle_createGrievance (h : Files db body userId id) :
    handle o (createGrievance body userId id now) db = (.ok (body.row userId id now), h.stored now) := by
  unfold createGrievance
  rw [handle_bind, handle_ownGrievanceLot, if_pos h.lot, Prog.onOk_ok, handle_bind, handle_ownGrievanceOffer,
    if_pos h.offer, Prog.onOk_ok, handle_bind, handle_insert_grievance o now h]
  rfl

theorem handle_createGrievance_refused (h : ¬ Files db body userId id) :
    (handle o (createGrievance body userId id now) db).2 = db := by
  unfold createGrievance
  rw [handle_bind, handle_ownGrievanceLot]
  split
  · rename_i hlot
    rw [Prog.onOk_ok, handle_bind, handle_ownGrievanceOffer]
    split
    · rename_i hoffer
      rw [Prog.onOk_ok, handle_bind, handle_insert]
      cases hi : grievances.insert? db (body.row userId id now) with
      | error e => rfl
      | ok db' =>
        obtain ⟨hk, -, hr, -⟩ := Tab.insert?_ok hi
        refine absurd ⟨hlot, hoffer, hk, ?_⟩ h
        have hrefs : ((db.userProfiles.get? userId).isSome && hasOpt db.offers body.offerId
            && hasOpt db.lots body.lotId) = true := hr
        simp only [Bool.and_eq_true] at hrefs
        exact hrefs.1.1
    · rfl
  · rfl

end

/-! ## Deciding and rescoring -/

/-- The buyer a decision on a complaint rescores. -/
def Grievance.accused (db : DB) (g : Grievance) : Option Uuid :=
  if g.category = .payment then g.offerId.bind db.offerBuyer else none

theorem handle_rescoreAccused (o : RowOrder) (row : Grievance) (db : DB) :
    handle o (rescoreAccused row) db = (.ok (), (row.accused db).elim db db.regraded) := by
  unfold rescoreAccused Grievance.accused
  split
  · cases row.offerId with
    | none => rfl
    | some offerId => exact handle_rescoreOfferBuyer o offerId db
  · rfl

theorem DB.setGrievance_missing {db : DB} {grievanceId : Uuid} (h : db.grievances.get? grievanceId = none)
    (s : GrievanceStatus) (now : Time) : db.setGrievance grievanceId s now = db := by
  have hn : db.grievances.update (fun g => g.id = grievanceId) (Grievance.setStatus s now) = db.grievances :=
    Table.update_eq_self (fun g hm => by simpa using Table.get?_eq_none.1 h g hm)
  unfold DB.setGrievance
  rw [hn]

/-- What a decision leaves. -/
def decided (db : DB) (grievanceId : Uuid) (s : GrievanceStatus) (now : Time) : DB :=
  ((db.grievances.get? grievanceId).bind (Grievance.accused db)).elim (db.setGrievance grievanceId s now)
    (db.setGrievance grievanceId s now).regraded

theorem handle_adminUpdateGrievance (o : RowOrder) (grievanceId : Uuid) (body : GrievanceUpdate) (now : Time) (db : DB) :
    (handle o (adminUpdateGrievance grievanceId body now) db).2 = decided db grievanceId body.status now := by
  unfold adminUpdateGrievance decided
  rw [handle_bind, handle_update_key, Prog.onOk_ok, show (grievances.get db).get? grievanceId
    = db.grievances.get? grievanceId from rfl]
  cases hg : db.grievances.get? grievanceId with
  | none => rfl
  | some g =>
    simp only [Option.map_some, Option.toList_some, handle_bind, handle_rescoreAccused, Prog.onOk_ok, handle_pure]
    rfl

/-- The buyers `admin_rescore_buyers` looks at. -/
def rescoredPage (o : RowOrder) (db : DB) : List Uuid := ((o.order db.buyers.rows).take 500).map (·.id)

theorem handle_foldlM_rescoreBuyer (o : RowOrder) : ∀ (l : List Buyer) (updated : List (Uuid × Reliability)) (db : DB),
    (handle o (l.foldlM rescoreBuyer updated) db).2 = (l.map (·.id)).foldl DB.regraded db
  | [], _, _ => rfl
  | b :: l, updated, db => by
    rw [List.foldlM_cons, handle_bind, List.map_cons, List.foldl_cons]
    have hround : ∃ updated', handle o (rescoreBuyer updated b) db = (.ok updated', db.regraded b.id) := by
      unfold rescoreBuyer
      rw [handle_bind, handle_recomputeBuyerReliability, Prog.onOk_ok]
      cases db.score b.id 0 with
      | none => exact ⟨updated, rfl⟩
      | some g => exact ⟨updated ++ [(b.id, g)], rfl⟩
    obtain ⟨updated', hround⟩ := hround
    rw [hround, Prog.onOk_ok]
    exact handle_foldlM_rescoreBuyer o l updated' (db.regraded b.id)

theorem handle_adminRescoreBuyers (o : RowOrder) (db : DB) :
    (handle o adminRescoreBuyers db).2 = (rescoredPage o db).foldl DB.regraded db := by
  unfold adminRescoreBuyers
  rw [handle_bind, handle_selectLimit, Prog.onOk_ok, handle_foldlM_rescoreBuyer]
  have hall : (buyers.get db).rows.filter (fun _ => true) = db.buyers.rows := List.filter_true _
  rw [hall]
  rfl

/-- A complaint about a payment under offer 21. -/
def latePayment (lotId : Option Uuid) : GrievanceCreate :=
  ⟨.payment, "paid too late", by decide, by decide, some 21, lotId⟩

end Krishi
