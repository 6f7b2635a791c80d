import KrishiBazaar.SaleWindow
/-!
# Replies — what is texted back to an inbound message

`_process_inbound` of `app/routers/sms.py`: the sender's profile, the crop its first word names, the price and the
advice for it, and one message back if the sender's outbound cap leaves room.  A gateway that refuses or raises is logged
and passed over, so its answer is not looked at.

Two of the three messages are kept from unknown numbers by a test of `registered`; the reply with a price is not
(`unknown_not_texted_iff`).
-/
namespace Krishi

open Lib

/-! ## The calls -/

structure ReplyVars where
  commodity : String
  price : ℚ
  action : String
  deriving DecidableEq, Repr

structure Reply where
  recipient : String
  message : String
  templateId : Option String
  vars : Option ReplyVars
  deriving DecidableEq, Repr

inductive InboundOp : Type → Type 1
  | day {ρ : Type} (op : DayOp ρ) : InboundOp ρ
  | allowOutbound (sender : String) : InboundOp Bool
  | sendSms (sms : Reply) : InboundOp Unit

abbrev Inbound := Prog InboundOp Fault

def onDay {α : Type} (p : Day α) : Inbound α := p.lift .day

def outboundMax : Nat := 5

def outboundWindowSec : ℚ := 3600

/-- The times of the messages each number was sent. -/
abbrev Outbound := String → List ℚ

def allowOutbound (now : ℚ) (sender : String) (outbound : Outbound) : Bool × Outbound :=
  let times := (outbound sender).filter (fun t => now - t < outboundWindowSec)
  if outboundMax ≤ times.length then (false, fun s => if s = sender then times else outbound s)
  else (true, fun s => if s = sender then times ++ [now] else outbound s)

/-! ## The payload -/

/-- A JSON value that is not `null`; of those that are no string, its `str` and its truth. -/
inductive JsonValue
  | str (s : String)
  | other (text : String) (truthy : Bool)
  deriving DecidableEq, Repr

def JsonValue.text : JsonValue → String
  | .str s => s
  | .other text _ => text

structure Payload where
  sender : Option JsonValue
  message : Option JsonValue

def strip (cfg : ReplyConfig) (s : String) : String :=
  String.ofList ((s.toList.dropWhile cfg.isSpace).reverse.dropWhile cfg.isSpace).reverse

/-- `(payload.get("message") or "").strip()`. -/
def rawMessage (cfg : ReplyConfig) (message : Option JsonValue) : Except Fault String :=
  match message with
  | none => .ok ""
  | some (.str s) => .ok (strip cfg s)
  | some (.other _ truthy) => if truthy then .error .attributeError else .ok ""

/-- The first word, in capitals and as it is. -/
def aliasKeys (cfg : ReplyConfig) (message : String) : List String :=
  match firstWord cfg message with
  | .error _ => []
  | .ok token => if token = cfg.upper token then [token] else [cfg.upper token, token]

/-! ## What it looks up -/

/-- `right(regexp_replace(phone, '[^0-9]', '', 'g'), 10)`. -/
def lastTen (phone : String) : List Char :=
  let digits := phone.toList.filter Char.isDigit
  digits.drop (digits.length - 10)

/-- The condition of `lookup_profile_by_phone`. -/
def phoneMatches (phone : String) (u : UserProfile) : Bool :=
  u.phone = some phone ∨
    (10 ≤ (phone.toList.filter Char.isDigit).length ∧ lastTen (u.phone.getD "") = lastTen phone)

/-- The empty dict of an unknown number. -/
def ProfileRow.unknown : ProfileRow := ⟨none, none, none, none, none, none⟩

def lookupProfile (sender : String) : Day ProfileRow := do
  let rows ← onTables (.selectLimit userProfiles (phoneMatches sender) 1)
  pure ((rows.head?.map (·.row)).getD .unknown)

structure AliasRow where
  commodityId : Uuid
  commodity : Option Commodity
  deriving DecidableEq, Repr

def CommodityAlias.row (db : DB) (a : CommodityAlias) : AliasRow := ⟨a.commodityId, db.commodities.get? a.commodityId⟩

/-- The crop of the first key that is an alias. -/
def aliasRow : List String → Day (Option AliasRow)
  | [] => pure none
  | key :: keys => do
    let rows ← onTables (.view commodityAlias (fun a => a.source = "sms" ∧ a.sourceKey = key) (fun _ _ => true) none
      CommodityAlias.row)
    match rows with
    | row :: _ => pure (some row)
    | [] => aliasRow keys

/-- `max(open_lots, key=quantity)`: the first of the largest. -/
def largest (lots : List Lot) : Option Lot :=
  lots.foldl (fun best l => if best.all (fun b => b.quantityQtl < l.quantityQtl) then some l else best) none

def LotStatus.isOpen (s : LotStatus) : Bool := s = .open ∨ s = .offered

/-- The largest lot that is open, or of all if none is. -/
def lotToSell (rows : List Lot) : Option Lot :=
  let openLots := rows.filter (fun l => l.status.isOpen)
  largest (if openLots = [] then rows else openLots)

/-- The best buyer for the lot a registered user has to sell. -/
def buyerName (cfg : ReplyConfig) (user : ProfileRow) : Day (Option String) :=
  match user.id with
  | none => pure none
  | some uid => do
    -- `open_lots_for_user`
    let rows ← onTables (.select lots (fun l => l.userId = uid ∧ l.status.isOpen))
    match lotToSell rows with
    | none => pure none
    | some lot => do
      let rows ← onTables (.select buyers (fun b => b.verified))
      pure ((rankBuyers cfg lot user rows 10).head?.map (·.buyerName))

/-! ## Processing -/

inductive InboundResponse
  | ignored | rateLimited | helpSent | noData
  | replied (recommendation : Recommendation) (message : String)
  deriving DecidableEq, Repr

def Lang.code : Lang → String
  | .en => "en"
  | .mr => "mr"
  | .hi => "hi"

def helpText : Lang → String
  | .en => "KrishiBazaar keywords: ONION TOMATO SOYBEAN MAIZE PYAJ कांदा टोमॅटो सोयाबीन मका प्याज"
  | .mr => "KB शब्द: ONION TOMATO SOYBEAN MAIZE PYAJ कांदा टोमॅटो सोयाबीन मका प्याज"
  | .hi => "KB शब्द: ONION TOMATO SOYBEAN MAIZE PYAJ कांदा टोमॅटो सोयाबीन मका प्याज"

def noDataText : Lang → String
  | .en => "KrishiBazaar: no recent mandi price for that crop. Try again tomorrow."
  | .mr => "KB: या पिकाची अलीकडील भाव माहिती नाही."
  | .hi => "KB: इस फसल का हालिया भाव उपलब्ध नहीं है."

/-- The message goes out if the sender's cap leaves room. -/
def respond (sms : Reply) (response : InboundResponse) : Inbound InboundResponse := do
  if ← .perform (.allowOutbound sms.recipient) then do
    let _ ← .perform (.sendSms sms)
    pure response
  else pure .rateLimited

def answer (cfg : ReplyConfig) (sender rawMsg : String) : Inbound InboundResponse := do
  let user ← onDay (lookupProfile sender)
  let lang := user.preferredLanguage.getD .mr
  match ← onDay (aliasRow (aliasKeys cfg rawMsg)) with
  | none =>
    if user.id = none then pure .ignored
    else respond ⟨sender, helpText lang, cfg.resolveTemplate lang, none⟩ .helpSent
  | some row => do
    let (price, marketName) ← onDay (latestPriceForUser cfg.toCheckConfig row.commodityId user)
    match price with
    | none =>
      if user.id = none then pure .noData
      else respond ⟨sender, noDataText lang, cfg.resolveTemplate lang, none⟩ .noData
    | some price => do
      let name := (row.commodity.map (·.nameIn lang)).getD ""
      let advice ← onDay (computeSaleWindow cfg row.commodityId none user.lat user.lng)
      let recommendation := (advice.map (·.recommendation)).getD .wait
      let buyer ← onDay (buyerName cfg user)
      let reply ← Prog.ofAnswer (formatSaleSms cfg lang.code name (some price) marketName recommendation.text buyer)
      respond ⟨sender, reply, cfg.resolveTemplate lang, some ⟨name, price, recommendation.text⟩⟩
        (.replied recommendation reply)

def processInbound (cfg : ReplyConfig) (payload : Payload) : Inbound InboundResponse := do
  let sender := normalizePhone cfg.toCheckConfig (payload.sender.map (·.text))
  let rawMsg ← Prog.ofAnswer (rawMessage cfg payload.message)
  match sender with
  | none => pure .ignored
  | some sender => if rawMsg = "" then pure .ignored else answer cfg sender rawMsg

/-! ## One message processed -/

/-- The tables, the outbound cap and the messages sent so far. -/
structure Phone where
  db : DB
  outbound : Outbound
  sent : List Reply

/-- What one message meets: the day, and the clock of the outbound cap. -/
structure Exchange where
  day : Daytime
  now : ℚ

def Exchange.exec (x : Exchange) : {ρ : Type} → InboundOp ρ → Phone → Except Fault ρ × Phone
  | _, .day op, w => ((x.day.exec op w.db).1, { w with db := (x.day.exec op w.db).2 })
  | _, .allowOutbound sender, w =>
    (.ok (allowOutbound x.now sender w.outbound).1, { w with outbound := (allowOutbound x.now sender w.outbound).2 })
  | _, .sendSms sms, w => (.ok (), { w with sent := w.sent ++ [sms] })

/-- The first profile that matches, or the empty one. -/
def Daytime.profile (x : Daytime) (db : DB) (sender : String) : ProfileRow :=
  (((x.order.order (db.userProfiles.rows.filter (phoneMatches sender))).take 1).head?.map (·.row)).getD .unknown

/-- The crop that a message names. -/
def Daytime.crop (x : Daytime) (db : DB) (keys : List String) : Option AliasRow :=
  keys.findSome? (fun key => ((x.order.page (fun _ _ => true) none (db.commodityAlias.rows.filter (fun a =>
    a.source = "sms" ∧ a.sourceKey = key))).map (CommodityAlias.row db)).head?)

def Daytime.buyer (x : Daytime) (cfg : ReplyConfig) (db : DB) (user : ProfileRow) : Option String :=
  user.id.bind (fun uid =>
    (lotToSell (x.order.order (db.lots.rows.filter (fun l => l.userId = uid ∧ l.status.isOpen)))).bind (fun lot =>
      (rankBuyers cfg lot user (x.order.order (db.buyers.rows.filter (fun b => b.verified))) 10).head?.map (·.buyerName)))

/-- The recommendation of the sale window over all markets. -/
def Daytime.recommendation (x : Daytime) (cfg : ReplyConfig) (db : DB) (commodityId : Uuid) (user : ProfileRow) :
    Recommendation :=
  ((x.window cfg db commodityId none user.lat user.lng).map (·.recommendation)).getD .wait

/-- The reply with a price, as text. -/
def Daytime.saleSms (x : Daytime) (cfg : ReplyConfig) (db : DB) (user : ProfileRow) (row : AliasRow) (price : ℚ)
    (marketName : Option String) : Except Fault String :=
  formatSaleSms cfg (user.preferredLanguage.getD .mr).code
    ((row.commodity.map (·.nameIn (user.preferredLanguage.getD .mr))).getD "") (some price) marketName
    (x.recommendation cfg db row.commodityId user).text (x.buyer cfg db user)

/-- What a message is answered with: the response, and the text to send first if there is one. -/
def Daytime.draft (x : Daytime) (cfg : ReplyConfig) (db : DB) (sender rawMsg : String) :
    Except Fault (InboundResponse × Option Reply) :=
  let user := x.profile db sender
  let lang := user.preferredLanguage.getD .mr
  match x.crop db (aliasKeys cfg rawMsg) with
  | none =>
    if user.id = none then .ok (.ignored, none)
    else .ok (.helpSent, some ⟨sender, helpText lang, cfg.resolveTemplate lang, none⟩)
  | some row =>
    match x.price cfg.toCheckConfig db row.commodityId user with
    | (none, _) =>
      if user.id = none then .ok (.noData, none)
      else .ok (.noData, some ⟨sender, noDataText lang, cfg.resolveTemplate lang, none⟩)
    | (some price, marketName) =>
      (x.saleSms cfg db user row price marketName).map (fun reply =>
        (.replied (x.recommendation cfg db row.commodityId user) reply,
          some ⟨sender, reply, cfg.resolveTemplate lang,
            some ⟨(row.commodity.map (·.nameIn lang)).getD "", price,
              (x.recommendation cfg db row.commodityId user).text⟩⟩))

/-- A text goes out if the cap leaves room; else the response is that it does not. -/
def Exchange.deliver (x : Exchange) (w : Phone) (r : InboundResponse) (sms : Option Reply) : InboundResponse × Phone :=
  match sms with
  | none => (r, w)
  | some sms =>
    let cap := allowOutbound x.now sms.recipient w.outbound
    if cap.1 then (r, { w with outbound := cap.2, sent := w.sent ++ [sms] })
    else (.rateLimited, { w with outbound := cap.2 })

section Run

variable {x : Exchange} {cfg : ReplyConfig} {w : Phone}

theorem run_onDay {α : Type} {p : Day α} {r : Except Fault α} (h : p.run x.day.exec w.db = (r, w.db)) :
    (onDay p).run x.exec w = (r, w) := by
  unfold onDay
  rw [Prog.run_lift x.day.exec _ x.exec Phone.db (fun w db => { w with db := db }) (fun _ _ => rfl) (fun _ => rfl)
    (fun _ _ _ => rfl) (fun _ _ => rfl), h]

theorem run_lookupProfile {x : Daytime} {db : DB} (sender : String) :
    (lookupProfile sender).run x.exec db = (.ok (x.profile db sender), db) := rfl

theorem run_aliasRow {x : Daytime} {db : DB} : ∀ keys : List String,
    (aliasRow keys).run x.exec db = (.ok (x.crop db keys), db)
  | [] => rfl
  | key :: keys => by
    have hstart : (aliasRow (key :: keys)).run x.exec db = Prog.run x.exec
        (match ((x.order.page (fun _ _ => true) none (db.commodityAlias.rows.filter (fun a =>
            a.source = "sms" ∧ a.sourceKey = key))).map (CommodityAlias.row db)) with
          | row :: _ => pure (some row)
          | [] => aliasRow keys) db := rfl
    rw [hstart]
    unfold Daytime.crop
    rw [List.findSome?_cons]
    cases (x.order.page (fun _ _ => true) none (db.commodityAlias.rows.filter (fun a =>
      a.source = "sms" ∧ a.sourceKey = key))).map (CommodityAlias.row db) with
    | nil => exact run_aliasRow keys
    | cons row rows => rfl

theorem run_buyerName {x : Daytime} {db : DB} (user : ProfileRow) :
    (buyerName cfg user).run x.exec db = (.ok (x.buyer cfg db user), db) := by
  unfold buyerName Daytime.buyer
  cases user.id with
  | none => rfl
  | some uid =>
    show Prog.run x.exec (match lotToSell (x.order.order (db.lots.rows.filter (fun l =>
        l.userId = uid ∧ l.status.isOpen))) with
      | none => _
      | some lot => _) db = _
    rw [Option.bind_some]
    cases lotToSell (x.order.order (db.lots.rows.filter (fun l => l.userId = uid ∧ l.status.isOpen))) <;> rfl

theorem run_respond (sms : Reply) (r : InboundResponse) : (respond sms r).run x.exec w
    = (.ok (x.deliver w r (some sms)).1, (x.deliver w r (some sms)).2) := by
  unfold respond Exchange.deliver
  rw [Prog.run_bind, Prog.run_perform]
  show Prog.run x.exec (if (allowOutbound x.now sms.recipient w.outbound).1 = true then _ else _) _ = _
  rw [Prog.run_ite]
  by_cases h : (allowOutbound x.now sms.recipient w.outbound).1 = true
  · simp only [h, if_true]
    rfl
  · simp only [h]
    rfl

/-- **An answer is its draft, delivered.** -/
theorem run_answer (sender rawMsg : String) : (answer cfg sender rawMsg).run x.exec w
    = match x.day.draft cfg w.db sender rawMsg with
      | .error e => (.error e, w)
      | .ok (r, sms) => (.ok (x.deliver w r sms).1, (x.deliver w r sms).2) := by
  unfold answer Daytime.draft
  rw [Prog.run_bind, run_onDay (run_lookupProfile sender), Prog.onOk_ok]
  generalize x.day.profile w.db sender = user
  show Prog.run x.exec (onDay (aliasRow (aliasKeys cfg rawMsg)) >>= _) w = _
  rw [Prog.run_bind, run_onDay (run_aliasRow _), Prog.onOk_ok]
  cases x.day.crop w.db (aliasKeys cfg rawMsg) with
  | none =>
    dsimp only
    rw [Prog.run_ite]
    by_cases hid : user.id = none
    · simp only [hid, if_true]
      rfl
    · simp only [hid, if_false]
      exact run_respond _ _
  | some row =>
    show Prog.run x.exec (onDay (latestPriceForUser cfg.toCheckConfig row.commodityId user) >>= _) w = _
    rw [Prog.run_bind, run_onDay (run_latestPriceForUser _), Prog.onOk_ok]
    dsimp only
    rcases x.day.price cfg.toCheckConfig w.db row.commodityId user with ⟨_ | price, marketName⟩
    · dsimp only
      rw [Prog.run_ite]
      by_cases hid : user.id = none
      · simp only [hid, if_true]
        rfl
      · simp only [hid, if_false]
        exact run_respond _ _
    · dsimp only
      show Prog.run x.exec (onDay (computeSaleWindow cfg row.commodityId none user.lat user.lng) >>= _) w = _
      rw [Prog.run_bind, run_onDay run_computeSaleWindow, Prog.onOk_ok]
      show Prog.run x.exec (onDay (buyerName cfg user) >>= _) w = _
      rw [Prog.run_bind, run_onDay (run_buyerName user), Prog.onOk_ok]
      show Prog.run x.exec (Prog.ofAnswer (x.day.saleSms cfg w.db user row price marketName) >>= _) w = _
      rw [Prog.run_bind, Prog.run_ofAnswer]
      cases x.day.saleSms cfg w.db user row price marketName with
      | error e => rfl
      | ok reply => exact run_respond _ _

end Run

end Krishi
