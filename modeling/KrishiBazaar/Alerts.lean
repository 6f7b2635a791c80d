import KrishiBazaar.Series
/-!
# Alerts — one run of the alert checker

`AlertChecker.run` of `notifications/alert_checker.py`, as the calls it makes: on the database, to the local date, to
the SMS gateway.  A run reads the clock once, deactivates what has expired, finds the alerts whose threshold the last two
prices cross, and for each of them claims the alert, sends the message and takes the claim back if the gateway refused.
The claim is a conditional update and the only lock there is.

A message carries the alert and the claim it was sent for, which the gateway does not see; `World` keeps of these the
successful ones.
-/
namespace Krishi

open Lib

/-! ## The calls -/

/-- The variables of a message template; the gateway gets the prices as text. -/
structure SmsVars where
  commodity : String
  price : ℚ
  threshold : ℚ
  deriving DecidableEq

structure Sms where
  alertId : Uuid
  claimedAt : Time
  phone : String
  message : String
  templateId : Option String
  /-- The second try passes none. -/
  vars : Option SmsVars
  deriving DecidableEq

/-- What a gateway returns for a status: a string, or something else. -/
inductive SmsStatus
  | text (s : String)
  | other (truthy : Bool)
  deriving DecidableEq, Repr

inductive SmsAnswer
  | returned (status : SmsStatus) (success : Bool)
  | typeError
  | exception
  deriving DecidableEq, Repr

inductive CheckOp : Type → Type 1
  | db {ρ : Type} (op : Op DB ρ) : CheckOp ρ
  | today : CheckOp Date
  | genRandomUuid : CheckOp Uuid
  | sendSms (sms : Sms) : CheckOp SmsAnswer
  | lastProviderRef : CheckOp (Option String)

abbrev Check := Prog CheckOp DbError

def onDb {ρ : Type} (op : Op DB ρ) : Check ρ := .perform (.db op)

/-! ## Messages -/

/-- What a deployment sets, and what the language and the database's extensions provide. -/
structure CheckConfig where
  /-- `str.isdigit` on one character. -/
  isDigit : Char → Bool
  resolveTemplate : Lang → Option String
  /-- `earth_distance`, in kilometres. -/
  earthDistance : ℚ → ℚ → ℚ → ℚ → ℚ
  earthDistance_self : ∀ lat lng, earthDistance lat lng lat lng = 0
  /-- The arithmetic of a `float`. -/
  arith : Arith

def normalizePhone (cfg : CheckConfig) (phone : Option String) : Option String :=
  match phone with
  | none => none
  | some phone =>
    let digits := phone.toList.filter cfg.isDigit
    if digits.length = 10 ∧ digits.head? ≠ some '0' then some ("+91" ++ String.ofList digits)
    else if digits.length = 11 ∧ digits.head? = some '0' then some ("+91" ++ String.ofList digits.tail)
    else if digits.length = 12 ∧ digits.take 2 = ['9', '1'] then some ("+" ++ String.ofList digits)
    else none

inductive Scope
  | direct | nearestMarket | districtMean
  deriving DecidableEq, Repr

def Scope.text : Scope → String
  | .direct => "direct"
  | .nearestMarket => "nearest_market"
  | .districtMean => "district_mean"

def formatAlertSms (lang : Lang) (commName : String) (price threshold : ℚ) (scope : Scope) : String :=
  let p := toString (pyRound price)
  let t := toString (pyRound threshold)
  let name := if commName = "" then "crop" else commName
  match lang with
  | .mr => "KB: " ++ name ++ " ₹" ++ p ++ ". मर्यादा ₹" ++ t ++ " ओलांडली."
  | .hi => "KB: " ++ name ++ " ₹" ++ p ++ ". सीमा ₹" ++ t ++ " पार."
  | .en => "KrishiBazaar Alert: " ++ name ++ " is ₹" ++ p ++ " (" ++ scope.text ++ "). Threshold ₹" ++ t ++ "."

def Commodity.nameIn (c : Commodity) (lang : Lang) : String :=
  let name := match lang with
    | .en => c.nameEn
    | .mr => c.nameMr
    | .hi => c.nameHi
  if name = "" then c.nameEn else name

/-! ## Crossing detection -/

def historyDays : Int := 15

/-- `nearest_market`.  In its body `lat` and `lng` are columns of the market, which take precedence over the parameters
of the name: the distance is from each market to itself. -/
def nearestMarket (cfg : CheckConfig) (_lat _lng : ℚ) : Op DB (List (Uuid × String × ℚ)) :=
  let distanceKm (m : Market) := cfg.earthDistance m.lat m.lng m.lat m.lng
  .view markets (·.isActive) (fun a b => distanceKm a ≤ distanceKm b) (some 1) (fun _ m => (m.id, m.name, distanceKm m))

/-- What it returns where the rows come in some order. -/
def nearestRows (cfg : CheckConfig) (o : RowOrder) (db : DB) : List (Uuid × String × ℚ) :=
  let distanceKm (m : Market) := cfg.earthDistance m.lat m.lng m.lat m.lng
  (o.page (fun a b => distanceKm a ≤ distanceKm b) (some 1) (db.markets.rows.filter (·.isActive))).map
    (fun m => (m.id, m.name, distanceKm m))

/-- The active market that comes first. -/
def DB.firstActive (db : DB) (o : RowOrder) : Option Market := (o.order (db.markets.rows.filter (·.isActive))).head?

/-- **It returns any active market**, at distance zero. -/
theorem nearestRows_eq (cfg : CheckConfig) (o : RowOrder) (db : DB) :
    nearestRows cfg o db = ((db.firstActive o).map (fun m => (m.id, m.name, (0 : ℚ)))).toList := by
  unfold nearestRows DB.firstActive
  simp only [cfg.earthDistance_self, le_refl, decide_true, o.page_of_le]
  cases o.order (db.markets.rows.filter (·.isActive)) <;> rfl

/-- The nearest market, if it is within 50 km. -/
def withinReach (res : List (Uuid × String × ℚ)) : Option Uuid × Scope :=
  match res with
  | (marketId, _, distanceKm) :: _ => if distanceKm ≤ 50 then (some marketId, .nearestMarket) else (none, .direct)
  | [] => (none, .direct)

def resolveMarket (cfg : CheckConfig) (alert : Alert) (user : UserProfile) : Check (Option Uuid × Scope) :=
  match alert.marketId, user.lat, user.lng with
  | some marketId, _, _ => pure (some marketId, .direct)
  | none, some lat, some lng => do
    let res ← onDb (nearestMarket cfg lat lng)
    pure (withinReach res)
  | none, _, _ => pure (none, .direct)

/-- The query selects no market, so every row of a district comes back without one. -/
def Price.seriesRow (p : Price) : SeriesRow :=
  ⟨none, p.arrivalDate, p.modalPrice, p.source, p.variety⟩

/-- A row as Python has it, its price a float. -/
def SeriesRow.read (ar : Arith) (r : SeriesRow) : SeriesRow := { r with modalPrice := ar.round r.modalPrice }

/-- The series an alert watches, and how it was chosen. -/
def resolvedSeries (cfg : CheckConfig) (alert : Alert) (user : UserProfile) : Check (Scope × DailySeries) := do
  let today ← .perform .today
  let cutoff := today - historyDays
  let (marketId, scopeNote) ← resolveMarket cfg alert user
  match marketId with
  | some marketId =>
    let history ← onDb (.select prices (fun p =>
      p.commodityId = alert.commodityId ∧ cutoff ≤ p.arrivalDate ∧ p.marketId = marketId))
    pure (scopeNote, buildDailySeries (history.map (fun p => p.seriesRow.read cfg.arith)))
  | none => do
    let marketRows ← onDb (.select markets (fun m => m.district = user.district ∧ m.isActive))
    if marketRows = [] then pure (.districtMean, []) else do
      let history ← onDb (.select prices (fun p =>
        p.commodityId = alert.commodityId ∧ cutoff ≤ p.arrivalDate ∧ p.marketId ∈ marketRows.map (·.id)))
      pure (.districtMean, buildDistrictDailySeries cfg.arith (history.map (fun p => p.seriesRow.read cfg.arith)))

/-- `series[-2]` and `series[-1]`. -/
def lastTwo (series : DailySeries) : Option ((Date × ℚ) × (Date × ℚ)) :=
  match series.reverse with
  | latest :: prev :: _ => some (prev, latest)
  | _ => none

def isCrossing (condition : Condition) (threshold prevPrice latestPrice : ℚ) : Bool :=
  match condition with
  | .gte => prevPrice < threshold ∧ threshold ≤ latestPrice
  | .lte => threshold < prevPrice ∧ latestPrice ≤ threshold

def checkCrossing (cfg : CheckConfig) (alert : Alert) (user : UserProfile) : Check (Bool × Scope × ℚ) := do
  let threshold := cfg.arith.round alert.thresholdPrice
  let (scopeNote, series) ← resolvedSeries cfg alert user
  match lastTwo series with
  | none => pure (false, scopeNote, 0)
  | some (prev, latest) =>
    pure (isCrossing alert.condition threshold prev.2 latest.2, scopeNote, latest.2)

/-! ## A run -/

structure DueAlert where
  alert : Alert
  user : UserProfile
  commodity : Commodity
  scopeNote : Scope
  currentPrice : ℚ

def cooldown : Time := hours 24

/-- The last notification is no more than 24 hours before `now`. -/
def cooling (now : Time) (lastNotifiedAt : Option Time) : Bool := lastNotifiedAt.any (fun t => now - cooldown ≤ t)

/-- The alert, if it is due. -/
def dueAlert (cfg : CheckConfig) (now : Time) (users : List UserProfile) (comms : List Commodity) (alert : Alert) :
    Check (Option DueAlert) :=
  if cooling now alert.lastNotifiedAt then pure none
  else
    match users.find? (fun u => u.id = alert.userId), comms.find? (fun c => c.id = alert.commodityId) with
    | some user, some commodity => do
      let (crossing, scopeNote, currentPrice) ← checkCrossing cfg alert user
      pure (if crossing then some ⟨alert, user, commodity, scopeNote, currentPrice⟩ else none)
    | _, _ => pure none

def deactivate : Patch Alert.id Alert.check := ⟨fun a => { a with active := false }, fun _ => rfl, fun _ h => h⟩

def setNotified (lastNotifiedAt : Option Time) (notifiedCount : Nat) : Patch Alert.id Alert.check :=
  ⟨fun a => { a with lastNotifiedAt := lastNotifiedAt, notifiedCount := notifiedCount }, fun _ => rfl, fun _ h => h⟩

/-- `last_notified_at < cooldown_cutoff`, which a null is not. -/
def lapsed (now : Time) (lastNotifiedAt : Option Time) : Bool := lastNotifiedAt.any (fun t => t < now - cooldown)

/-- Whether the alert could be claimed. -/
def claim (now : Time) (alert : Alert) : Check Bool := do
  let claimRes ← onDb (.update alerts (fun a => a.id = alert.id ∧ a.active ∧ lapsed now a.lastNotifiedAt)
    (setNotified (some now) (alert.notifiedCount + 1)))
  if claimRes ≠ [] then pure true else do
    let claimRes2 ← onDb (.update alerts (fun a => a.id = alert.id ∧ a.active ∧ a.lastNotifiedAt = none)
      (setNotified (some now) (alert.notifiedCount + 1)))
    pure (claimRes2 ≠ [])

def rollback (now : Time) (alert : Alert) : Check (List Alert) :=
  onDb (.update alerts (fun a => a.id = alert.id ∧ a.lastNotifiedAt = some now)
    (setNotified alert.lastNotifiedAt alert.notifiedCount))

/-- A status as it is logged; what is not a string is logged as its JSON text, which is no status the log takes. -/
def SmsStatus.logged : SmsStatus → String
  | .text s => s
  | .other truthy => toString truthy

/-- The status to log and whether the message was taken. A `TypeError` is answered by a second try without variables. -/
def sendAlert (sms : Sms) : Check (String × Bool) := do
  let sent ← .perform (.sendSms sms)
  match sent with
  | .returned status success => pure (status.logged, success)
  | .typeError => do
    let sent ← .perform (.sendSms { sms with vars := none })
    match sent with
    | .returned (.text status) success => pure (status, success)
    | .returned (.other truthy) _ => pure (if truthy then "mock" else "failed", truthy)
    | _ => pure ("failed", false)
  | .exception => pure ("failed", false)

def maxSmsPerUser : Nat := 3

/-- The messages a run has sent, to each user and in all. -/
structure Tally where
  userSmsCount : Uuid → Nat
  firedCount : Nat

def Tally.add (t : Tally) (user : Uuid) : Tally :=
  ⟨fun u => if u = user then t.userSmsCount u + 1 else t.userSmsCount u, t.firedCount + 1⟩

def DueAlert.sms (cfg : CheckConfig) (now : Time) (phone : String) (d : DueAlert) : Sms :=
  let lang := d.user.preferredLanguage
  let commName := d.commodity.nameIn lang
  { alertId := d.alert.id
    claimedAt := now
    phone := phone
    message := formatAlertSms lang commName d.currentPrice d.alert.thresholdPrice d.scopeNote
    templateId := cfg.resolveTemplate lang
    vars := some ⟨commName, d.currentPrice, d.alert.thresholdPrice⟩ }

/-- `if not success:` the claim is taken back. -/
def rollbackUnless (success : Bool) (now : Time) (alert : Alert) : Check (List Alert) :=
  if success then pure [] else rollback now alert

def logNotification (d : DueAlert) (sms : Sms) (smsStatus : String) : Check (List NotificationLog) := do
  let providerRef ← .perform .lastProviderRef
  let id ← .perform .genRandomUuid
  onDb (.insert notificationLog
    { id := id, alertId := some d.alert.id, userId := d.user.id, recipient := sms.phone, message := sms.message,
      language := d.user.preferredLanguage, status := smsStatus, providerRef := providerRef })

/-- What is done with a claimed alert: send, take the claim back if that failed, log. -/
def notify (now : Time) (d : DueAlert) (sms : Sms) : Check Bool := do
  let (smsStatus, success) ← sendAlert sms
  let _ ← rollbackUnless success now d.alert
  let _ ← logNotification d sms smsStatus
  pure success

def fireAlert (cfg : CheckConfig) (now : Time) (t : Tally) (d : DueAlert) : Check Tally :=
  if maxSmsPerUser ≤ t.userSmsCount d.user.id then pure t
  else
    match normalizePhone cfg d.user.phone with
    | none => pure t
    | some phone => do
      if ← claim now d.alert then do
        let success ← notify now d (d.sms cfg now phone)
        pure (if success then t.add d.user.id else t)
      else pure t

structure CheckSummary where
  status : String
  fired : Nat
  deriving DecidableEq, Repr

/-- The alerts that are due: active, out of their cooldown, and crossing. -/
def dueAlerts (cfg : CheckConfig) (now : Time) : Check (List DueAlert) := do
  let _ ← onDb (.update alerts (fun a => a.active ∧ a.expiresAt.any (fun t => t < now)) deactivate)
  let rows ← onDb (.select alerts (fun a => a.active))
  if rows = [] then pure [] else do
    let users ← onDb (.select userProfiles (fun u => u.id ∈ rows.map (·.userId)))
    let comms ← onDb (.select commodities (fun c => c.id ∈ rows.map (·.commodityId)))
    Prog.filterMap (dueAlert cfg now users comms) rows

/-- `AlertChecker.run`, with the clock it read. -/
def AlertChecker.run (cfg : CheckConfig) (now : Time) : Check CheckSummary := do
  let due ← dueAlerts cfg now
  if due = [] then pure ⟨"ok", 0⟩ else do
    let t ← due.foldlM (fireAlert cfg now) ⟨fun _ => 0, 0⟩
    pure ⟨"ok", t.firedCount⟩

/-! ## What the calls do -/

/-- The database, the clock, and the successful messages so far, each as its alert and the claim it was sent for. -/
structure World where
  db : DB
  clock : Time
  sent : List (Uuid × Time)

/-- The run takes the message for sent. -/
def SmsAnswer.success (sms : Sms) : SmsAnswer → Bool
  | .returned (.text _) success => success
  | .returned (.other truthy) success => if sms.vars.isSome then success else truthy
  | _ => false

def World.hear (w : World) (sms : Sms) (ans : SmsAnswer) : World :=
  if ans.success sms then { w with sent := w.sent ++ [(sms.alertId, sms.claimedAt)] } else w

def World.withDb (w : World) (db : DB) : World := { w with db := db }

/-- **What a call may be answered**, and the world it leaves: the database in some order of its rows, the rest
anything. -/
def Answers : {ρ : Type} → CheckOp ρ → World → Except DbError ρ → World → Prop
  | _, .db op, w, r, w' => ∃ o : RowOrder, r = (exec o id op w.db).1 ∧ w' = w.withDb (exec o id op w.db).2
  | _, .today, w, r, w' => ∃ d, r = .ok d ∧ w' = w
  | _, .genRandomUuid, w, r, w' => ∃ i, r = .ok i ∧ w' = w
  | _, .sendSms sms, w, r, w' => ∃ ans, r = .ok ans ∧ w' = w.hear sms ans
  | _, .lastProviderRef, w, r, w' => ∃ ref, r = .ok ref ∧ w' = w

/-! ## A run alone -/

/-- What one run meets: the local date, the order of the rows, and by the number of the call what it is answered. -/
structure Session where
  today : Date
  order : RowOrder
  uuid : Nat → Uuid
  gateway : Nat → SmsAnswer
  providerRef : Nat → Option String

/-- A call answered as the session says; the number counts the calls on the gateway and the ids. -/
def Session.exec (x : Session) : {ρ : Type} → CheckOp ρ → World × Nat → Except DbError ρ × (World × Nat)
  | _, .db op, s => ((Lib.exec x.order id op s.1.db).1, s.1.withDb (Lib.exec x.order id op s.1.db).2, s.2)
  | _, .today, s => (.ok x.today, s)
  | _, .genRandomUuid, s => (.ok (x.uuid s.2), s.1, s.2 + 1)
  | _, .sendSms sms, s => (.ok (x.gateway s.2), s.1.hear sms (x.gateway s.2), s.2 + 1)
  | _, .lastProviderRef, s => (.ok (x.providerRef s.2), s.1, s.2 + 1)

theorem Session.answers (x : Session) {ρ : Type} (op : CheckOp ρ) (s : World × Nat) :
    Answers op s.1 (x.exec op s).1 (x.exec op s).2.1 := by
  cases op with
  | db op => exact ⟨x.order, rfl, rfl⟩
  | today => exact ⟨x.today, rfl, rfl⟩
  | genRandomUuid => exact ⟨x.uuid s.2, rfl, rfl⟩
  | sendSms sms => exact ⟨x.gateway s.2, rfl, rfl⟩
  | lastProviderRef => exact ⟨x.providerRef s.2, rfl, rfl⟩

/-- **One run of the checker, from its first call to its last.** -/
def checkOnce (cfg : CheckConfig) (x : Session) (w : World) : World :=
  ((AlertChecker.run cfg w.clock).run x.exec (w, 0)).2.1

end Krishi
