import KrishiBazaar.Ledger
import KrishiBazaar.Replies
/-!
# Reads — what a user is shown

The endpoints that show a user the marketplace: lots, offers, payments, bookings, complaints, the profile, and for a lot
its ledger, its buyers and what to do with it.  Their client is the service role's, which no policy binds, and most select
by the user; but a lot is looked up by its id alone, and its ledger and its advice read whatever names the lot.

What a user is shown is what there would be to show if nobody else had a row (`reads_blind`).
-/
namespace Krishi

open Lib

/-! ## The endpoints -/

/-- `.order("created_at", desc=True).limit(100)` -/
def newestHundred {ρ κ : Type} {key : ρ → κ} {check : ρ → Bool} (t : Tab DB key check) (p : ρ → Bool)
    (createdAt : ρ → Time) : Handler (List ρ) :=
  .perform (.view t p (fun a b => createdAt b ≤ createdAt a) (some 100) (fun _ r => r))

def LotStatus.ofText : String → Option LotStatus
  | "open" => some .open
  | "offered" => some .offered
  | "matched" => some .matched
  | "sold" => some .sold
  | "withdrawn" => some .withdrawn
  | _ => none

/-- `by_id[row["id"]] = row`: a row where its id came first, as it came last. -/
def lotsById (rows : List Lot) : List Lot :=
  (firstSeen (·.id) rows).map (fun r => (rows.filter (fun r' => r'.id = r.id)).getLast?.getD r)

/-- The user's lots and those pooled under the user, of one status if one is asked for. -/
def ownAndPooled (status : Option LotStatus) (userId : Uuid) : Handler (List Lot) := do
  let own ← newestHundred lots (fun l => l.userId = userId ∧ status.all (l.status = ·)) (·.createdAt)
  let asFpo ← newestHundred lots (fun l => l.fpoId = some userId ∧ status.all (l.status = ·)) (·.createdAt)
  pure ((lotsById (own ++ asFpo)).take 100)

def listLots (status : Option String) (userId : Uuid) : Handler (List Lot) :=
  match status.filter (· ≠ "") with
  | none => ownAndPooled none userId
  | some text =>
    match LotStatus.ofText text with
    | none => throw ⟨422, "invalid status"⟩
    | some status => ownAndPooled (some status) userId

def getLot (lotId userId : Uuid) : Handler Lot := do
  let rows ← select lots fun l => l.id = lotId
  match rows with
  | [] => throw ⟨404, "lot not found"⟩
  | lot :: _ => if ¬ lot.isOf userId then throw ⟨404, "lot not found"⟩ else pure lot

def listOffers (userId : Uuid) : Handler (List OfferOut) := do
  let rows ← newestHundred offers (fun o => o.userId = userId) (·.createdAt)
  pure (rows.map (fun o => withExpiry o offerTtlHours))

def listPayments (userId : Uuid) : Handler (List Payment) :=
  newestHundred payments (fun p => p.userId = userId) (·.createdAt)

def listBookings (lotId : Option Uuid) (userId : Uuid) : Handler (List LogisticsBooking) :=
  newestHundred logisticsBookings (fun b => b.userId = userId ∧ lotId.all (b.lotId = ·)) (·.createdAt)

def listGrievances (userId : Uuid) : Handler (List Grievance) :=
  newestHundred grievances (fun g => g.userId = userId) (·.createdAt)

def getMe (userId : Uuid) : Handler UserProfile := do
  let rows ← select userProfiles fun u => u.id = userId
  match rows with
  | [] => throw ⟨404, "profile not found"⟩
  | profile :: _ => pure profile

/-! ## Buyers and advice for a lot -/

/-- The columns of a profile that the ranking and the window read. -/
def UserProfile.placeRow (u : UserProfile) : ProfileRow :=
  ⟨none, some u.preferredLanguage, u.lat, u.lng, some u.district, none⟩

/-- The lot, if it is the user's or pooled under the user, and the user's profile; a refusal is a value here. -/
def loadLotAndProfile (lotId userId : Uuid) : Day (Except HTTPException (Lot × ProfileRow)) := do
  let lotRows ← onTables (.select lots (fun l => l.id = lotId))
  match lotRows with
  | [] => pure (.error ⟨404, "lot not found"⟩)
  | lot :: _ =>
    if ¬ lot.isOf userId then pure (.error ⟨404, "lot not found"⟩)
    else do
      let profiles ← onTables (.select userProfiles (fun u => u.id = userId))
      pure (.ok (lot, (profiles.head?.map (·.placeRow)).getD .unknown))

def verifiedBuyers : Day (List Buyer) := onTables (.select buyers (fun b => b.verified))

structure LotMatches where
  lotId : Uuid
  bestBuyer : Option MatchRow
  rows : List MatchRow
  advice : String
  deriving DecidableEq

def matchBuyers (cfg : ReplyConfig) (lotId userId : Uuid) : Day (Except HTTPException LotMatches) := do
  match ← loadLotAndProfile lotId userId with
  | .error e => pure (.error e)
  | .ok (lot, profile) => do
    let buyerRows ← verifiedBuyers
    let ranked := rankBuyers cfg lot profile buyerRows 10
    pure (.ok ⟨lotId, ranked.head?, ranked.take 10, (ranked.head?.map (·.summary)).getD
      "No verified local buyer fits this lot yet. Keep the lot open or pool it via an FPO."⟩)

def saleLabel : Lang → Recommendation → String
  | .en, recommendation => recommendation.actionLabel
  | .mr, .sell => "आज विका"
  | .mr, .hold => "थोडे थांबा"
  | .mr, .wait => "थांबा"
  | .hi, .sell => "आज बेचें"
  | .hi, .hold => "थोड़ा रुकें"
  | .hi, .wait => "रुकें"

/-- `int(round(x))` -/
def wholeText (x : ℚ) : String := toString (pyRound x)

def marathiReason (w : SaleWindow) : String :=
  let godown := ((w.storage.head?.map (·.option.name)).filter (· ≠ "")).getD "गोदाम"
  match w.reasonCode with
  | .wait => "आवक सामान्य; घाई नको."
  | .hold => (w.forecastDay1.elim "" (fun d => "अंदाज ₹" ++ wholeText d ++ " आज ₹" ++ wholeText w.latestPrice
      ++ " पेक्षा जास्त. ")) ++ "जवळचे गोदाम: " ++ godown ++ ". थोडे थांबा."
  | .sellForecast => (w.forecastDay1.elim "" (fun d => "अंदाज ₹" ++ wholeText d ++ " आज ₹" ++ wholeText w.latestPrice
      ++ " पेक्षा कमी; ")) ++ "आज विका."
  | .sellArrivals => (w.arrivalsQty.elim "" (fun a => "आवक जास्त (" ++ wholeText a ++ " क्विंटल); ")) ++ "आज विका."
  | .sellNoStorage => "आवक/अंदाज जास्त पण जवळ गोदाम नाही; आज विका."

def hindiReason (w : SaleWindow) : String :=
  let godown := ((w.storage.head?.map (·.option.name)).filter (· ≠ "")).getD "गोदाम"
  match w.reasonCode with
  | .wait => "आवक सामान्य; जल्दबाजी न करें."
  | .hold => (w.forecastDay1.elim "" (fun d => "अनुमान ₹" ++ wholeText d ++ " आज ₹" ++ wholeText w.latestPrice
      ++ " से ऊपर. ")) ++ "नज़दीकी गोदाम: " ++ godown ++ ". थोड़ा रुकें."
  | .sellForecast => (w.forecastDay1.elim "" (fun d => "अनुमान ₹" ++ wholeText d ++ " आज ₹" ++ wholeText w.latestPrice
      ++ " से कम; ")) ++ "आज बेचें."
  | .sellArrivals => (w.arrivalsQty.elim "" (fun a => "आवक ज्यादा (" ++ wholeText a ++ " क्विंटल); ")) ++ "आज बेचें."
  | .sellNoStorage => "आवक/अनुमान ऊँचा है पर नज़दीकी गोदाम नहीं; आज बेचें."

/-- The window with its reason in the language; English keeps the one it has. -/
def applySaleLanguage (w : SaleWindow) : Lang → SaleWindow
  | .en => { w with lang := .en }
  | .mr => { w with lang := .mr, reason := marathiReason w }
  | .hi => { w with lang := .hi, reason := hindiReason w }

/-- Storage to hold, or a truck to sell. -/
def logisticsNextStep (action : String) (window : Option SaleWindow) (bookings : List LogisticsBooking)
    (transport : List LogisticsOption) : Option String :=
  let active := bookings.filter (·.status.isActive)
  let hasStorage := active.any (fun b => b.kind = .storage)
  let hasTransport := active.any (fun b => b.kind = .transport)
  if action = "HOLD" ∧ hasStorage = false then
    let name := (((window.bind (·.storage.head?)).map (·.option.name)).filter (· ≠ "")).getD "a nearby godown"
    some ("Book storage at " ++ name ++ " to hold through the glut.")
  else if action = "SELL_NOW" ∧ hasTransport = false then
    let name := ((transport.head?.map (·.name)).filter (· ≠ "")).getD "a local truck / tempo"
    some ("Book transport (" ++ name ++ ") and offer to the best local buyer.")
  else if hasStorage ∧ action = "HOLD" then
    some "Storage is booked. Hold the lot until the sale window turns to Sell Now."
  else if hasTransport ∧ action = "SELL_NOW" then
    some "Transport is booked. Confirm the digital offer with the matched buyer."
  else none

structure LotAdvice where
  lotId : Uuid
  action : String
  actionLabel : String
  reason : String
  nextStep : Option String
  saleWindow : Option SaleWindow
  bestBuyer : Option MatchRow
  rows : List MatchRow
  bookings : List LogisticsBooking
  suggestedTransport : List LogisticsOption
  deriving DecidableEq

def transportIn (district : String) : Day (List LogisticsOption) :=
  onTables (.selectLimit logisticsOptions (fun s => s.kind = .transport ∧ s.isActive ∧ s.district = district) 5)

def lotAdvice (cfg : ReplyConfig) (lotId : Uuid) (lang : Option Lang) (userId : Uuid) :
    Day (Except HTTPException LotAdvice) := do
  match ← loadLotAndProfile lotId userId with
  | .error e => pure (.error e)
  | .ok (lot, profile) => do
    let lang := (lang.or profile.preferredLanguage).getD .en
    let found ← computeSaleWindow cfg lot.commodityId lot.marketId profile.lat profile.lng
    let window := found.map (fun w => applySaleLanguage w lang)
    let buyerRows ← verifiedBuyers
    let ranked := rankBuyers cfg lot profile buyerRows 10
    let best := ranked.head?
    let action := (window.map (·.action)).getD "WAIT"
    let reason := ((window.map (·.reason)).filter (· ≠ "")).getD "No recent mandi price; wait for today's arrival."
    let reason := match best with
      | some best => if action = "SELL_NOW" then reason ++ " " ++ best.summary else reason
      | none => reason
    let bookings ← onTables (.select logisticsBookings (fun b => b.lotId = lotId))
    let district := ((profile.district.filter (· ≠ "")).or ((window.map (·.district)).filter (· ≠ ""))).getD "Nashik"
    let transport ← transportIn district
    pure (.ok {
      lotId := lotId
      action := action
      actionLabel := (window.map (fun w => saleLabel lang w.recommendation)).getD "Wait"
      reason := reason
      nextStep := logisticsNextStep action window bookings transport
      saleWindow := window
      bestBuyer := best
      rows := ranked.take 5
      bookings := bookings
      suggestedTransport := transport.take 3 })

/-! ## All of them -/

inductive Read
  | listLots (status : Option String)
  | getLot (lotId : Uuid)
  | getLotLedger (lotId : Uuid)
  | listOffers
  | listPayments
  | listBookings (lotId : Option Uuid)
  | listGrievances
  | getMe
  | matchBuyers (lotId : Uuid)
  | lotAdvice (lotId : Uuid) (lang : Option Lang)
  deriving DecidableEq, Repr

inductive ReadReply
  | lots (r : Except HTTPException (List Lot))
  | lot (r : Except HTTPException Lot)
  | ledger (r : Except HTTPException Ledger)
  | offers (r : Except HTTPException (List OfferOut))
  | payments (r : Except HTTPException (List Payment))
  | bookings (r : Except HTTPException (List LogisticsBooking))
  | grievances (r : Except HTTPException (List Grievance))
  | profile (r : Except HTTPException UserProfile)
  | buyers (r : Except Fault (Except HTTPException LotMatches))
  | advice (r : Except Fault (Except HTTPException LotAdvice))

/-- A reply, and the database it leaves. -/
def Read.serve (cfg : ReplyConfig) (text : Time → String) (x : Daytime) (userId : Uuid) (db : DB) : Read → ReadReply × DB
  | .listLots status => (handle x.order (Krishi.listLots status userId) db).map .lots id
  | .getLot lotId => (handle x.order (Krishi.getLot lotId userId) db).map .lot id
  | .getLotLedger lotId => (handle x.order (Krishi.getLotLedger text lotId userId) db).map .ledger id
  | .listOffers => (handle x.order (Krishi.listOffers userId) db).map .offers id
  | .listPayments => (handle x.order (Krishi.listPayments userId) db).map .payments id
  | .listBookings lotId => (handle x.order (Krishi.listBookings lotId userId) db).map .bookings id
  | .listGrievances => (handle x.order (Krishi.listGrievances userId) db).map .grievances id
  | .getMe => (handle x.order (Krishi.getMe userId) db).map .profile id
  | .matchBuyers lotId => ((Krishi.matchBuyers cfg lotId userId).run x.exec db).map .buyers id
  | .lotAdvice lotId lang => ((Krishi.lotAdvice cfg lotId lang userId).run x.exec db).map .advice id

/-! ## What is a user's -/

def DB.ownsLot (db : DB) (userId lotId : Uuid) : Bool := (db.lots.get? lotId).any (fun l => l.isOf userId)

def DB.ownsOffer (db : DB) (userId offerId : Uuid) : Bool :=
  (db.offers.get? offerId).any (fun o => o.userId = userId ∨ db.ownsLot userId o.lotId)

/-- **The database without the rows of other users.**  A lot is its user's and its FPO's; what is about a lot is also
theirs, whoever wrote it. -/
def DB.seenBy (db : DB) (userId : Uuid) : DB :=
  { db with
    userProfiles := db.userProfiles.delete (fun u => u.id ≠ userId)
    lots := db.lots.delete (fun l => ¬ l.isOf userId)
    offers := db.offers.delete (fun o => ¬ (o.userId = userId ∨ db.ownsLot userId o.lotId))
    payments := db.payments.delete (fun p => ¬ (p.userId = userId ∨ db.ownsOffer userId p.offerId))
    grievances := db.grievances.delete (fun g => ¬ (g.userId = userId ∨ g.lotId.any (db.ownsLot userId)))
    logisticsBookings := db.logisticsBookings.delete (fun b => ¬ (b.userId = userId ∨ db.ownsLot userId b.lotId))
    alerts := db.alerts.delete (fun a => a.userId ≠ userId)
    notificationLog := db.notificationLog.delete (fun n => n.userId ≠ userId) }

section Blind

variable {cfg : ReplyConfig} {text : Time → String} {x : Daytime} {o : RowOrder} {userId lotId : Uuid} {db : DB}

/-- What a selection does not leave out is there without the deleted rows. -/
theorem filter_delete {ρ κ : Type} {key : ρ → κ} {check : ρ → Bool} {t : Table key check} {p q : ρ → Bool}
    (h : ∀ r ∈ t.rows, p r = true → q r = false) : (t.delete q).rows.filter p = t.rows.filter p := by
  show (t.rows.filter (fun r => !q r)).filter p = _
  rw [List.filter_filter]
  refine List.filter_congr (fun r hr => ?_)
  by_cases hp : p r = true
  · rw [hp, h r hr hp]
    rfl
  · rw [Bool.not_eq_true] at hp
    rw [hp]
    rfl

theorem seen_lots {p : Lot → Bool} (h : ∀ l, p l = true → l.isOf userId) :
    (db.seenBy userId).lots.rows.filter p = db.lots.rows.filter p :=
  filter_delete (fun l _ hp => by simpa using h l hp)

/-- **A lot that is the user's is seen, and no other.** -/
theorem seen_lot : (db.seenBy userId).lots.get? lotId = (db.lots.get? lotId).filter (fun l => l.isOf userId) := by
  have hget : (db.seenBy userId).lots.get? lotId
      = (db.lots.get? lotId).filter (fun l => !decide (¬ l.isOf userId)) := Table.get?_delete _ _ _
  simpa using hget

theorem filter_seen_lot : ((db.seenBy userId).lots.get? lotId).filter (fun l => l.isOf userId)
    = (db.lots.get? lotId).filter (fun l => l.isOf userId) := by
  rw [seen_lot]
  cases db.lots.get? lotId with
  | none => rfl
  | some lot => by_cases hu : lot.isOf userId <;> simp [hu, Option.filter]

theorem seen_profile : (db.seenBy userId).userProfiles.get? userId = db.userProfiles.get? userId := by
  have hget : (db.seenBy userId).userProfiles.get? userId
      = (db.userProfiles.get? userId).filter (fun u => !decide (u.id ≠ userId)) := Table.get?_delete _ _ _
  rw [hget]
  cases hu : db.userProfiles.get? userId with
  | none => rfl
  | some u => simp [Option.filter, Table.key_of_get? hu]

/-! ### The requests -/

/-- A request of the user's, on the whole database and on what is seen of it. -/
abbrev SameAnswer (o : RowOrder) (userId : Uuid) (db : DB) {α : Type} (p : Handler α) : Prop :=
  p.Agree (answers o) db (db.seenBy userId)

theorem select_same {ρ κ : Type} {key : ρ → κ} {check : ρ → Bool} {t : Tab DB key check} {p : ρ → Bool}
    (h : (t.get (db.seenBy userId)).rows.filter p = (t.get db).rows.filter p) :
    SameAnswer o userId db (select t p) :=
  Prog.Agree.perform rfl (congrArg (fun l => (Except.ok (o.order l), db.seenBy userId)) h)

theorem newestHundred_same {ρ κ : Type} {key : ρ → κ} {check : ρ → Bool} {t : Tab DB key check} {p : ρ → Bool}
    {createdAt : ρ → Time} (h : (t.get (db.seenBy userId)).rows.filter p = (t.get db).rows.filter p) :
    SameAnswer o userId db (newestHundred t p createdAt) :=
  Prog.Agree.perform rfl (congrArg (fun l => (Except.ok ((o.page _ (some 100) l).map (fun r => r)), db.seenBy userId)) h)

theorem ownAndPooled_same (status : Option LotStatus) : SameAnswer o userId db (ownAndPooled status userId) := by
  refine Prog.Agree.bind (newestHundred_same (seen_lots (fun l hl => ?_))) (fun own _ => ?_)
  · exact Or.inl (of_decide_eq_true hl).1
  refine Prog.Agree.bind (newestHundred_same (seen_lots (fun l hl => ?_))) (fun asFpo _ => Prog.Agree.pure)
  exact Or.inr (of_decide_eq_true hl).1

theorem listLots_same (status : Option String) : SameAnswer o userId db (listLots status userId) := by
  unfold listLots
  split
  · exact ownAndPooled_same none
  · split
    · exact Prog.Agree.throw
    · exact ownAndPooled_same _

/-- A lot is looked up by its id alone, but a lot of another user's is answered as if there were none. -/
theorem handle_getLot : handle o (getLot lotId userId) db
    = (((db.lots.get? lotId).filter (fun l => l.isOf userId)).elim (.error ⟨404, "lot not found"⟩) .ok, db) := by
  unfold getLot
  rw [handle_bind, handle_select_key, Prog.onOk_ok, show (lots.get db).get? lotId = db.lots.get? lotId from rfl]
  cases db.lots.get? lotId with
  | none => rfl
  | some lot => by_cases hu : lot.isOf userId <;> simp [hu, Option.filter]

theorem getLot_same : SameAnswer o userId db (getLot lotId userId) := by
  refine ⟨_, handle_getLot, ?_⟩
  rw [← filter_seen_lot]
  exact handle_getLot

/-- Everything about a lot of the user's is seen. -/
theorem lotLedger_same {lot : Lot} (h : db.ownsLot userId lot.id = true) :
    SameAnswer o userId db (lotLedger text lot) := by
  refine Prog.Agree.bind (select_same (filter_delete (fun x _ hx => ?_))) (fun offerRows hrun => ?_)
  · rw [of_decide_eq_true hx]
    simp [h]
  have hids : ∀ i ∈ offerRows.map (·.id), db.ownsOffer userId i = true := by
    obtain rfl : o.order (db.offers.rows.filter (fun x => decide (x.lotId = lot.id))) = offerRows :=
      Except.ok.inj (Prod.mk.inj ((handle_select o db offers _).symm.trans hrun)).1
    intro i hi
    obtain ⟨x, hx, rfl⟩ := List.mem_map.1 hi
    obtain ⟨hmem, hlot⟩ := List.mem_filter.1 (o.mem_order.1 hx)
    have hget : db.offers.get? x.id = some x := Table.get?_of_mem hmem
    unfold DB.ownsOffer
    rw [hget, Option.any_some, of_decide_eq_true hlot, h]
    simp
  refine Prog.Agree.bind ?_ (fun paymentRows _ => ?_)
  · refine Prog.Agree.ite (fun _ => Prog.Agree.pure) (fun _ => select_same (filter_delete (fun p _ hp => ?_)))
    simp [hids p.offerId (of_decide_eq_true hp)]
  refine Prog.Agree.bind (select_same (filter_delete (fun g _ hg => ?_))) (fun grievanceRows _ => ?_)
  · rw [of_decide_eq_true hg]
    simp [h]
  refine Prog.Agree.bind (select_same (filter_delete (fun b _ hb => ?_))) (fun bookingRows _ => Prog.Agree.pure)
  rw [of_decide_eq_true hb]
  simp [h]

theorem ownsLot_of_filter {lot : Lot} (h : (db.lots.get? lotId).filter (fun l => l.isOf userId) = some lot) :
    lot.id = lotId ∧ db.ownsLot userId lotId = true := by
  obtain ⟨hget, hu⟩ := Option.mem_filter_iff.1 h
  refine ⟨Table.key_of_get? hget, ?_⟩
  unfold DB.ownsLot
  rw [hget]
  exact hu

theorem getLotLedger_same : SameAnswer o userId db (getLotLedger text lotId userId) := by
  have hrun : ∀ db, (getLotLedger text lotId userId).run (answers o) db = _ := fun db =>
    handle_getLotLedger text o db lotId userId
  cases hl : (db.lots.get? lotId).filter (fun l => l.isOf userId) with
  | none => exact ⟨_, by rw [hrun, hl]; rfl, by rw [hrun, filter_seen_lot, hl]; rfl⟩
  | some lot =>
    obtain ⟨rfl, hown⟩ := ownsLot_of_filter hl
    obtain ⟨r, h, h'⟩ : SameAnswer o userId db (lotLedger text lot) := lotLedger_same hown
    exact ⟨r, by rw [hrun, hl]; exact h, by rw [hrun, filter_seen_lot, hl]; exact h'⟩

theorem getMe_same : SameAnswer o userId db (getMe userId) := by
  have hprofile : (userProfiles.get (db.seenBy userId)).rows.filter (fun u => decide (u.id = userId))
      = (userProfiles.get db).rows.filter (fun u => decide (u.id = userId)) :=
    filter_delete (fun u _ hu => by simpa using hu)
  refine Prog.Agree.bind (select_same hprofile) (fun rows _ => ?_)
  cases rows with
  | nil => exact Prog.Agree.throw
  | cons profile rows => exact Prog.Agree.pure

/-! ### Buyers and advice -/

/-- A program of a day, on the whole database and on what is seen of it. -/
abbrev SameDay (x : Daytime) (userId : Uuid) (db : DB) {α : Type} (p : Day α) : Prop :=
  p.Agree x.exec db (db.seenBy userId)

/-- The lot and the profile that the tables give. -/
def DB.lotAndProfile (db : DB) (lotId userId : Uuid) : Except HTTPException (Lot × ProfileRow) :=
  ((db.lots.get? lotId).filter (fun l => l.isOf userId)).elim (.error ⟨404, "lot not found"⟩)
    (fun l => .ok (l, ((db.userProfiles.get? userId).map (·.placeRow)).getD .unknown))

theorem run_loadLotAndProfile (db : DB) :
    (loadLotAndProfile lotId userId).run x.exec db = (.ok (db.lotAndProfile lotId userId), db) := by
  have hlots : x.exec (.db (.select lots (fun l => l.id = lotId))) db = (.ok (db.lots.get? lotId).toList, db) :=
    congrArg (fun l => (Except.ok l, db)) (x.order.order_filter_key db.lots lotId)
  have hprofiles : x.exec (.db (.select userProfiles (fun u => u.id = userId))) db
      = (.ok (db.userProfiles.get? userId).toList, db) :=
    congrArg (fun l => (Except.ok l, db)) (x.order.order_filter_key db.userProfiles userId)
  unfold loadLotAndProfile DB.lotAndProfile
  rw [Prog.run_bind, onTables, Prog.run_perform, hlots, Prog.onOk_ok]
  cases db.lots.get? lotId with
  | none => rfl
  | some lot =>
    show Prog.run x.exec (if ¬ lot.isOf userId then _ else _) db = _
    rw [Prog.run_ite]
    by_cases hu : lot.isOf userId
    · rw [if_neg (not_not.2 hu), Prog.run_bind, onTables, Prog.run_perform, hprofiles, Prog.onOk_ok, Option.filter_some,
        if_pos (decide_eq_true hu)]
      cases db.userProfiles.get? userId <;> rfl
    · rw [if_pos hu, Option.filter_some, if_neg (by simpa using hu)]
      rfl

theorem loadLotAndProfile_same : SameDay x userId db (loadLotAndProfile lotId userId) := by
  have hseen : (db.seenBy userId).lotAndProfile lotId userId = db.lotAndProfile lotId userId := by
    unfold DB.lotAndProfile
    rw [filter_seen_lot, seen_profile]
  exact ⟨_, run_loadLotAndProfile db, by rw [← hseen]; exact run_loadLotAndProfile _⟩

/-- A lot that is loaded is the user's. -/
theorem ownsLot_of_loaded {lot : Lot} {profile : ProfileRow}
    (h : (loadLotAndProfile lotId userId).run x.exec db = (.ok (.ok (lot, profile)), db)) :
    db.ownsLot userId lotId = true := by
  rw [run_loadLotAndProfile] at h
  have hload : db.lotAndProfile lotId userId = .ok (lot, profile) := Except.ok.inj (Prod.mk.inj h).1
  unfold DB.lotAndProfile at hload
  cases hl : (db.lots.get? lotId).filter (fun l => l.isOf userId) with
  | none =>
    rw [hl] at hload
    cases hload
  | some lot' => exact (ownsLot_of_filter hl).2

/-- What reads no private table. -/
theorem verifiedBuyers_same : SameDay x userId db verifiedBuyers := Prog.Agree.perform rfl rfl

theorem transportIn_same (district : String) : SameDay x userId db (transportIn district) := Prog.Agree.perform rfl rfl

theorem computeSaleWindow_same {commodityId : Uuid} {marketId : Option Uuid} {originLat originLng : Option ℚ} :
    SameDay x userId db (computeSaleWindow cfg commodityId marketId originLat originLng) :=
  ⟨_, run_computeSaleWindow, run_computeSaleWindow⟩

theorem matchBuyers_same : SameDay x userId db (matchBuyers cfg lotId userId) := by
  refine Prog.Agree.bind loadLotAndProfile_same (fun loaded _ => ?_)
  cases loaded with
  | error e => exact Prog.Agree.pure
  | ok loaded => exact Prog.Agree.bind verifiedBuyers_same (fun buyerRows _ => Prog.Agree.pure)

theorem lotAdvice_same (lang : Option Lang) : SameDay x userId db (lotAdvice cfg lotId lang userId) := by
  refine Prog.Agree.bind loadLotAndProfile_same (fun loaded hrun => ?_)
  cases loaded with
  | error e => exact Prog.Agree.pure
  | ok loaded =>
    have hown := ownsLot_of_loaded hrun
    have hbookings : (logisticsBookings.get (db.seenBy userId)).rows.filter (fun b => decide (b.lotId = lotId))
        = (logisticsBookings.get db).rows.filter (fun b => decide (b.lotId = lotId)) := by
      refine filter_delete (fun b _ hb => ?_)
      rw [of_decide_eq_true hb]
      simp [hown]
    refine Prog.Agree.bind computeSaleWindow_same (fun found _ => ?_)
    refine Prog.Agree.bind verifiedBuyers_same (fun buyerRows _ => ?_)
    refine Prog.Agree.bind (Prog.Agree.perform rfl
      (congrArg (fun l => (Except.ok (x.order.order l), db.seenBy userId)) hbookings)) (fun bookings _ => ?_)
    exact Prog.Agree.bind (transportIn_same _) (fun transport _ => Prog.Agree.pure)

end Blind

/-- **Reads are blind to other users' rows**: what a user is shown, in any state, is what the database without them would
show, and nothing is changed by it. -/
theorem reads_blind (cfg : ReplyConfig) (text : Time → String) (x : Daytime) (userId : Uuid) (db : DB) (r : Read) :
    r.serve cfg text x userId db = ((r.serve cfg text x userId (db.seenBy userId)).1, db) := by
  have hsame : ∀ {α : Type} {p : Handler α}, SameAnswer x.order userId db p → ∀ f : Except HTTPException α → ReadReply,
      (handle x.order p db).map f id = (((handle x.order p (db.seenBy userId)).map f id).1, db) := by
    rintro α p ⟨a, h, h'⟩ f
    rw [show handle x.order p db = (a, db) from h, show handle x.order p (db.seenBy userId) = (a, _) from h']
    rfl
  have hday : ∀ {α : Type} {p : Day α}, SameDay x userId db p → ∀ f : Except Fault α → ReadReply,
      (p.run x.exec db).map f id = (((p.run x.exec (db.seenBy userId)).map f id).1, db) := by
    rintro α p ⟨a, h, h'⟩ f
    rw [h, h']
    rfl
  cases r with
  | listLots status => exact hsame (listLots_same status) _
  | getLot lotId => exact hsame getLot_same _
  | getLotLedger lotId => exact hsame getLotLedger_same _
  | listOffers =>
    refine hsame (Prog.Agree.bind (newestHundred_same (filter_delete (fun o _ ho => ?_))) (fun _ _ => Prog.Agree.pure)) _
    simpa using fun h => absurd (of_decide_eq_true ho) h
  | listPayments =>
    refine hsame (newestHundred_same (filter_delete (fun p _ hp => ?_))) _
    simpa using fun h => absurd (of_decide_eq_true hp) h
  | listBookings lotId =>
    refine hsame (newestHundred_same (filter_delete (fun b _ hb => ?_))) _
    simpa using fun h => absurd (of_decide_eq_true hb).1 h
  | listGrievances =>
    refine hsame (newestHundred_same (filter_delete (fun g _ hg => ?_))) _
    simpa using fun h => absurd (of_decide_eq_true hg) h
  | getMe => exact hsame getMe_same _
  | matchBuyers lotId => exact hday matchBuyers_same _
  | lotAdvice lotId lang => exact hday (lotAdvice_same lang) _

end Krishi
