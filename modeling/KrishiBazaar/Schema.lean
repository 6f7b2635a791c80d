import KrishiBazaar.Lib.Rest
import Mathlib.Algebra.Order.Field.Rat
/-!
# Schema — the tables, their rows and the request bodies

The rows of `db/migrations` and the bodies of `app/schemas`, as far as the handlers read or write them.  A column with
a list of values is an inductive type, a `numeric` column an exact rational, a timestamp a number of microseconds, a date a
number of days, a `uuid` a number.  The `CHECK`s of a table are its `check` and its foreign keys the `refs` of its
`Tab`; a body carries the bounds its schema declares as fields.
-/
namespace Krishi

open Lib

abbrev Uuid := Nat
/-- Microseconds. -/
abbrev Time := Int
/-- Days. -/
abbrev Date := Int

def hours (h : Int) : Time := h * 3600000000

/-! ## Rows -/

inductive Role
  | farmer | admin | buyer | fpo
  deriving DecidableEq, Repr

inductive Lang
  | en | mr | hi
  deriving DecidableEq, Repr

structure UserProfile where
  id : Uuid
  name : Option String
  phone : Option String
  role : Role
  preferredLanguage : Lang
  district : String
  lat : Option ℚ
  lng : Option ℚ
  deriving DecidableEq, Repr

structure Market where
  id : Uuid
  name : String
  district : String
  sourceCode : Option String
  lat : ℚ
  lng : ℚ
  isActive : Bool
  deriving DecidableEq, Repr

structure Commodity where
  id : Uuid
  nameEn : String
  nameMr : String
  nameHi : String
  sanityMin : ℚ
  sanityMax : ℚ
  deriving DecidableEq, Repr

inductive Reliability
  | high | medium | low
  deriving DecidableEq, Repr

inductive BuyerType
  | trader | processor | institutional | fpo | digital
  deriving DecidableEq, Repr

structure Buyer where
  id : Uuid
  name : String
  type : BuyerType
  verified : Bool
  district : Option String
  lat : Option ℚ
  lng : Option ℚ
  commodityId : Option Uuid
  demandQtyQtl : Option ℚ
  maxPrice : Option ℚ
  qualityRequirements : Option String
  paymentReliability : Option Reliability
  deriving DecidableEq, Repr

inductive Grade
  | faq | general | special
  deriving DecidableEq, Repr

inductive LotStatus
  | open | offered | matched | sold | withdrawn
  deriving DecidableEq, Repr

structure Lot where
  id : Uuid
  userId : Uuid
  fpoId : Option Uuid
  commodityId : Uuid
  marketId : Option Uuid
  quantityQtl : ℚ
  grade : Grade
  qualityNotes : Option String
  harvestDate : Option Date
  askingPrice : Option ℚ
  status : LotStatus
  createdAt : Time
  deriving DecidableEq, Repr

def Lot.check (l : Lot) : Bool := 0 < l.quantityQtl ∧ ∀ p ∈ l.askingPrice, 0 < p

inductive OfferStatus
  | pending | accepted | rejected | expired
  deriving DecidableEq, Repr

def OfferStatus.text : OfferStatus → String
  | .pending => "pending"
  | .accepted => "accepted"
  | .rejected => "rejected"
  | .expired => "expired"

structure Offer where
  id : Uuid
  lotId : Uuid
  buyerId : Uuid
  userId : Uuid
  pricePerQtl : ℚ
  quantityQtl : ℚ
  status : OfferStatus
  createdAt : Time
  updatedAt : Time
  deriving DecidableEq, Repr

def Offer.check (o : Offer) : Bool := 0 < o.pricePerQtl ∧ 0 < o.quantityQtl

inductive PaymentStatus
  | pending | paid | failed | disputed
  deriving DecidableEq, Repr

def PaymentStatus.text : PaymentStatus → String
  | .pending => "pending"
  | .paid => "paid"
  | .failed => "failed"
  | .disputed => "disputed"

structure Payment where
  id : Uuid
  offerId : Uuid
  userId : Uuid
  amount : ℚ
  status : PaymentStatus
  reference : Option String
  paidAt : Option Time
  createdAt : Time
  deriving DecidableEq, Repr

def Payment.check (p : Payment) : Bool := 0 < p.amount

inductive GrievanceCategory
  | payment | quality | logistics | buyer | other
  deriving DecidableEq, Repr

inductive GrievanceStatus
  | open | inProgress | resolved | rejected
  deriving DecidableEq, Repr

structure Grievance where
  id : Uuid
  userId : Uuid
  offerId : Option Uuid
  lotId : Option Uuid
  category : GrievanceCategory
  description : String
  status : GrievanceStatus
  createdAt : Time
  updatedAt : Time
  deriving DecidableEq, Repr

inductive LogisticsKind
  | transport | storage
  deriving DecidableEq, Repr

structure LogisticsOption where
  id : Uuid
  district : String
  kind : LogisticsKind
  name : String
  capacityQtl : Option ℚ
  ratePerQtl : Option ℚ
  lat : Option ℚ
  lng : Option ℚ
  isActive : Bool
  deriving DecidableEq, Repr

inductive BookingStatus
  | requested | confirmed | cancelled | completed
  deriving DecidableEq, Repr

structure LogisticsBooking where
  id : Uuid
  userId : Uuid
  lotId : Uuid
  logisticsId : Uuid
  kind : LogisticsKind
  quantityQtl : ℚ
  status : BookingStatus
  scheduledDate : Option Date
  notes : Option String
  createdAt : Time
  updatedAt : Time
  deriving DecidableEq, Repr

def LogisticsBooking.check (b : LogisticsBooking) : Bool := 0 < b.quantityQtl

/-- The columns that migration 009 gives the table. -/
def bookingColumns009 : List String :=
  ["id", "user_id", "lot_id", "logistics_id", "kind", "quantity_qtl", "status", "scheduled_date", "notes", "created_at",
    "updated_at"]

/-- The keys of the row that `create_booking` inserts: two that migration 009 does not have. -/
def createdBookingKeys : List String := bookingColumns009 ++ ["option_name", "rate_per_qtl"]

structure Price where
  id : Uuid
  marketId : Uuid
  commodityId : Uuid
  arrivalDate : Date
  minPrice : Option ℚ
  maxPrice : Option ℚ
  modalPrice : ℚ
  arrivalQty : Option ℚ
  variety : String
  grade : String
  source : String
  deriving DecidableEq, Repr

def Price.uqPriceRecord (p : Price) : Uuid × Uuid × Date × String × String × String :=
  (p.marketId, p.commodityId, p.arrivalDate, p.variety, p.grade, p.source)

structure CommodityAlias where
  source : String
  sourceKey : String
  commodityId : Uuid
  deriving DecidableEq, Repr

def CommodityAlias.key (a : CommodityAlias) : String × String := (a.source, a.sourceKey)

inductive Confidence
  | high | medium | low
  deriving DecidableEq, Repr

inductive ForecastStatus
  | ok | insufficientData | stale
  deriving DecidableEq, Repr

structure Forecast where
  marketId : Uuid
  commodityId : Uuid
  forecastDate : Date
  predictedPrice : Option ℚ
  lowerBound : Option ℚ
  upperBound : Option ℚ
  confidence : Option Confidence
  method : String
  observations : Option Nat
  status : ForecastStatus
  generatedAt : Time
  deriving DecidableEq, Repr

def Forecast.key (f : Forecast) : Uuid × Uuid × Date := (f.marketId, f.commodityId, f.forecastDate)

inductive Condition
  | gte | lte
  deriving DecidableEq, Repr

structure Alert where
  id : Uuid
  userId : Uuid
  commodityId : Uuid
  marketId : Option Uuid
  thresholdPrice : ℚ
  condition : Condition
  active : Bool
  expiresAt : Option Time
  lastNotifiedAt : Option Time
  notifiedCount : Nat
  deriving DecidableEq, Repr

def Alert.check (a : Alert) : Bool := 0 < a.thresholdPrice

structure NotificationLog where
  id : Uuid
  /-- Null once the alert is deleted. -/
  alertId : Option Uuid
  userId : Uuid
  recipient : String
  message : String
  language : Lang
  status : String
  providerRef : Option String
  deriving DecidableEq, Repr

def NotificationLog.check (n : NotificationLog) : Bool := n.status = "sent" ∨ n.status = "failed" ∨ n.status = "mock"

/-! ## The database -/

def noCheck {ρ : Type} : ρ → Bool := fun _ => true

theorem noCheck_true {ρ : Type} (r : ρ) : noCheck r = true := rfl

structure DB where
  userProfiles : Table UserProfile.id noCheck
  markets : Table Market.id noCheck
  commodities : Table Commodity.id noCheck
  buyers : Table Buyer.id noCheck
  lots : Table Lot.id Lot.check
  offers : Table Offer.id Offer.check
  payments : Table Payment.id Payment.check
  grievances : Table Grievance.id noCheck
  logisticsOptions : Table LogisticsOption.id noCheck
  logisticsBookings : Table LogisticsBooking.id LogisticsBooking.check
  commodityAlias : Table CommodityAlias.key noCheck
  prices : Table Price.id noCheck
  forecasts : Table Forecast.key noCheck
  alerts : Table Alert.id Alert.check
  notificationLog : Table NotificationLog.id NotificationLog.check
  /-- The columns of `logistics_bookings`. -/
  bookingColumns : List String

/-- The tables as the migrations leave them. -/
def DB.empty : DB :=
  ⟨.empty, .empty, .empty, .empty, .empty, .empty, .empty, .empty, .empty, .empty, .empty, .empty, .empty, .empty, .empty,
    bookingColumns009⟩

/-- Onions alone, and Lasalgaon alone: tables of the sample databases. -/
def onionsOnly : Table Commodity.id noCheck := ⟨[⟨1, "Onion", "Kanda", "Pyaz", 100, 10000⟩], by decide, by decide⟩

def lasalgaonOnly : Table Market.id noCheck := ⟨[⟨1, "Lasalgaon", "Nashik", none, 20, 74, true⟩], by decide, by decide⟩

/-- A reference that may be null. -/
def hasOpt {ρ κ : Type} {key : ρ → κ} {check : ρ → Bool} [DecidableEq κ] (t : Table key check) (k : Option κ) : Bool :=
  k.all (fun k => (t.get? k).isSome)

def userProfiles : Tab DB UserProfile.id noCheck :=
  ⟨DB.userProfiles, fun db t => { db with userProfiles := t }, fun _ _ => rfl, fun _ _ => true, fun _ => true⟩

def markets : Tab DB Market.id noCheck :=
  ⟨DB.markets, fun db t => { db with markets := t }, fun _ _ => rfl, fun _ _ => true, fun _ => true⟩

def commodities : Tab DB Commodity.id noCheck :=
  ⟨DB.commodities, fun db t => { db with commodities := t }, fun _ _ => rfl, fun _ _ => true, fun _ => true⟩

def lots : Tab DB Lot.id Lot.check :=
  ⟨DB.lots, fun db t => { db with lots := t }, fun _ _ => rfl, fun db l =>
    (db.userProfiles.get? l.userId).isSome && hasOpt db.userProfiles l.fpoId &&
      (db.commodities.get? l.commodityId).isSome && hasOpt db.markets l.marketId, fun _ => true⟩

def offers : Tab DB Offer.id Offer.check :=
  ⟨DB.offers, fun db t => { db with offers := t }, fun _ _ => rfl, fun db o =>
    (db.lots.get? o.lotId).isSome && (db.buyers.get? o.buyerId).isSome && (db.userProfiles.get? o.userId).isSome,
    fun _ => true⟩

def payments : Tab DB Payment.id Payment.check :=
  ⟨DB.payments, fun db t => { db with payments := t }, fun _ _ => rfl, fun db p =>
    (db.offers.get? p.offerId).isSome && (db.userProfiles.get? p.userId).isSome, fun _ => true⟩

def buyers : Tab DB Buyer.id noCheck :=
  ⟨DB.buyers, fun db t => { db with buyers := t }, fun _ _ => rfl, fun db b => hasOpt db.commodities b.commodityId,
    fun _ => true⟩

def grievances : Tab DB Grievance.id noCheck :=
  ⟨DB.grievances, fun db t => { db with grievances := t }, fun _ _ => rfl, fun db g =>
    (db.userProfiles.get? g.userId).isSome && hasOpt db.offers g.offerId && hasOpt db.lots g.lotId, fun _ => true⟩

def logisticsOptions : Tab DB LogisticsOption.id noCheck :=
  ⟨DB.logisticsOptions, fun db t => { db with logisticsOptions := t }, fun _ _ => rfl, fun _ _ => true, fun _ => true⟩

def logisticsBookings : Tab DB LogisticsBooking.id LogisticsBooking.check :=
  ⟨DB.logisticsBookings, fun db t => { db with logisticsBookings := t }, fun _ _ => rfl, fun db b =>
    (db.userProfiles.get? b.userId).isSome && (db.lots.get? b.lotId).isSome &&
      (db.logisticsOptions.get? b.logisticsId).isSome,
    fun db => createdBookingKeys.all (· ∈ db.bookingColumns)⟩

def prices : Tab DB Price.id noCheck :=
  ⟨DB.prices, fun db t => { db with prices := t }, fun _ _ => rfl, fun db p =>
    (db.markets.get? p.marketId).isSome && (db.commodities.get? p.commodityId).isSome, fun _ => true⟩

def commodityAlias : Tab DB CommodityAlias.key noCheck :=
  ⟨DB.commodityAlias, fun db t => { db with commodityAlias := t }, fun _ _ => rfl, fun db a =>
    (db.commodities.get? a.commodityId).isSome, fun _ => true⟩

def forecasts : Tab DB Forecast.key noCheck :=
  ⟨DB.forecasts, fun db t => { db with forecasts := t }, fun _ _ => rfl, fun db f =>
    (db.markets.get? f.marketId).isSome && (db.commodities.get? f.commodityId).isSome, fun _ => true⟩

def alerts : Tab DB Alert.id Alert.check :=
  ⟨DB.alerts, fun db t => { db with alerts := t }, fun _ _ => rfl, fun db a =>
    (db.userProfiles.get? a.userId).isSome && (db.commodities.get? a.commodityId).isSome && hasOpt db.markets a.marketId,
    fun _ => true⟩

def notificationLog : Tab DB NotificationLog.id NotificationLog.check :=
  ⟨DB.notificationLog, fun db t => { db with notificationLog := t }, fun _ _ => rfl, fun db n =>
    hasOpt db.alerts n.alertId && (db.userProfiles.get? n.userId).isSome, fun _ => true⟩

/-- `on delete set null`: the messages of the alerts that are gone. -/
def NotificationLog.unlinked : Patch NotificationLog.id NotificationLog.check where
  apply n := { n with alertId := none }
  key_apply _ := rfl
  check_apply _ h := h

def DB.unlinkAlerts (db : DB) (gone : List Alert) : DB :=
  { db with notificationLog :=
      db.notificationLog.update (fun n => gone.any (fun a => n.alertId = some a.id)) NotificationLog.unlinked }

/-! ## Request bodies -/

structure LotCreate where
  commodityId : Uuid
  marketId : Option Uuid
  quantityQtl : ℚ
  quantityQtl_gt : 0 < quantityQtl
  quantityQtl_le : quantityQtl ≤ 1000000
  grade : Grade
  qualityNotes : Option String
  harvestDate : Option Date
  askingPrice : Option ℚ
  askingPrice_gt : ∀ p ∈ askingPrice, 0 < p
  askingPrice_le : ∀ p ∈ askingPrice, p ≤ 10000000
  fpoId : Option Uuid

structure LotGradeUpdate where
  grade : Grade
  qualityNotes : Option String
  qualityNotes_max : ∀ n ∈ qualityNotes, n.length ≤ 2000

structure LotAggregate where
  lotIds : List Uuid
  lotIds_min : 2 ≤ lotIds.length
  lotIds_max : lotIds.length ≤ 50
  askingPrice : Option ℚ
  askingPrice_gt : ∀ p ∈ askingPrice, 0 < p
  marketId : Option Uuid

structure OfferCreate where
  lotId : Uuid
  buyerId : Uuid
  pricePerQtl : ℚ
  pricePerQtl_gt : 0 < pricePerQtl
  pricePerQtl_le : pricePerQtl ≤ 10000000
  quantityQtl : ℚ
  quantityQtl_gt : 0 < quantityQtl
  quantityQtl_le : quantityQtl ≤ 1000000

structure OfferUpdate where
  status : OfferStatus

structure PaymentCreate where
  offerId : Uuid
  amount : ℚ
  amount_gt : 0 < amount
  amount_le : amount ≤ 10000000
  reference : Option String

structure LogisticsBookCreate where
  lotId : Uuid
  logisticsId : Uuid
  quantityQtl : Option ℚ
  quantityQtl_gt : ∀ q ∈ quantityQtl, 0 < q
  scheduledDate : Option Date
  notes : Option String
  notes_max : ∀ n ∈ notes, n.length ≤ 500

structure LogisticsBookUpdate where
  status : BookingStatus

structure GrievanceCreate where
  category : GrievanceCategory
  description : String
  description_min : 5 ≤ description.length
  description_max : description.length ≤ 2000
  offerId : Option Uuid
  lotId : Option Uuid

structure GrievanceUpdate where
  status : GrievanceStatus

/-! ## Errors -/

structure HTTPException where
  statusCode : Nat
  detail : String
  deriving DecidableEq, Repr

/-- `json_for_api_error`, on the errors a table can report. -/
def jsonForApiError : DbError → HTTPException
  | .foreignKeyViolation => ⟨400, "referenced record not found"⟩
  | .uniqueViolation => ⟨409, "already exists"⟩
  | .checkViolation => ⟨422, "failed a data check"⟩
  | .undefinedColumn | .cardinalityViolation | .unavailable => ⟨503, "data store temporarily unavailable"⟩

/-- A handler: calls on the database, and the HTTP error it may raise. -/
abbrev Handler := Prog (Op DB) HTTPException

/-- A call of a handler, answered. -/
def answers (o : RowOrder) {ρ : Type} : Op DB ρ → DB → Except HTTPException ρ × DB := exec o jsonForApiError

/-- One completed request, every call answered in turn: its response and the database it leaves. -/
def handle {α : Type} (o : RowOrder) (p : Handler α) (db : DB) : Except HTTPException α × DB :=
  p.run (exec o jsonForApiError) db

section

variable {α β ρ κ : Type} {key : ρ → κ} {check : ρ → Bool} (o : RowOrder) (db : DB) (t : Tab DB key check)

@[simp] theorem handle_pure (a : α) : handle o (pure a) db = (.ok a, db) := rfl

@[simp] theorem handle_throw (e : HTTPException) : handle o (throw e : Handler α) db = (.error e, db) := rfl

@[simp] theorem handle_ofAnswer (x : Except HTTPException α) : handle o (Prog.ofAnswer x) db = (x, db) :=
  Prog.run_ofAnswer _ _ _

@[simp] theorem handle_bind (p : Handler α) (f : α → Handler β) :
    handle o (p >>= f) db = Prog.onOk (handle o p db) (fun a db' => handle o (f a) db') := Prog.run_bind _ _ _ _

@[simp] theorem handle_ite (c : Prop) [Decidable c] (p q : Handler α) :
    handle o (if c then p else q) db = if c then handle o p db else handle o q db := Prog.run_ite _ _ _ _ _

@[simp] theorem handle_select (p : ρ → Bool) :
    handle o (select t p) db = (.ok (o.order ((t.get db).rows.filter p)), db) := run_select _ _ _ _ _

@[simp] theorem handle_selectLimit (p : ρ → Bool) (n : Nat) :
    handle o (selectLimit t p n) db = (.ok ((o.order ((t.get db).rows.filter p)).take n), db) :=
  run_selectLimit _ _ _ _ _ _

@[simp] theorem handle_insert [DecidableEq κ] (r : ρ) :
    handle o (insert t r) db = insertAnswer jsonForApiError db r (t.insert? db r) := run_insert _ _ _ _ _

@[simp] theorem handle_update (p : ρ → Bool) (f : Patch key check) :
    handle o (update t p f) db
      = (.ok (o.order (((t.get db).rows.filter p).map f.apply)), t.set db ((t.get db).update p f)) :=
  run_update _ _ _ _ _ _

section Key

variable [DecidableEq κ] {k : κ} {q : ρ → Prop} [DecidablePred q] {r : ρ} {f : Patch key check}

theorem handle_select_key : handle o (select t (fun r => key r = k)) db = (.ok ((t.get db).get? k).toList, db) := by
  rw [handle_select, o.order_filter_key]

theorem handle_update_key : handle o (update t (fun r => key r = k) f) db
    = (.ok (((t.get db).get? k).map f.apply).toList, t.set db ((t.get db).update (fun r => key r = k) f)) := by
  rw [handle_update, o.order_map_filter_key]

variable {o db t}

/-- A selection of a row by its key and a condition, when the row is there and meets it. -/
theorem handle_select_own (hr : (t.get db).get? k = some r) (hq : q r) :
    handle o (select t (fun r => key r = k ∧ q r)) db = (.ok [r], db) := by
  simp [hr, hq]

theorem handle_select_other (hq : ∀ r ∈ (t.get db).get? k, ¬ q r) :
    handle o (select t (fun r => key r = k ∧ q r)) db = (.ok [], db) := by
  simpa using hq

theorem handle_update_own (hr : (t.get db).get? k = some r) (hq : q r) :
    handle o (update t (fun r => key r = k ∧ q r) f) db
      = (.ok [f.apply r], t.set db ((t.get db).update (fun r => key r = k) f)) := by
  have hu : (t.get db).update (fun r => key r = k ∧ q r) f = (t.get db).update (fun r => key r = k) f := by
    simp only [Bool.decide_and, Table.update_key_and, hr, Option.any_some, hq, decide_true, if_true]
  rw [handle_update, hu]
  simp [hr, hq]

end Key

theorem handle_forEach (f : α → Handler Unit) (g : DB → α → DB) (hf : ∀ a db, handle o (f a) db = (.ok (), g db a))
    (l : List α) : handle o (Prog.forEach l f) db = (.ok (), l.foldl g db) := Prog.run_forEach _ f g hf l db

theorem handle_foldlM (f : β → α → Handler β) (g : β × DB → α → β × DB)
    (hf : ∀ b a db, handle o (f b a) db = (.ok (g (b, db) a).1, (g (b, db) a).2)) (l : List α) (b : β) :
    handle o (l.foldlM f b) db = (.ok (l.foldl g (b, db)).1, (l.foldl g (b, db)).2) := Prog.run_foldlM _ f g hf l b db

end

end Krishi
