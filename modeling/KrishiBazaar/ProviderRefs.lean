import KrishiBazaar.Checkers
import KrishiBazaar.DataGovIn
/-!
# ProviderRefs — whose id a logged message has

`MSG91Gateway` keeps the provider's id of the last message that was taken, and the checker reads it from there for each
row of the log, also of a message that failed.  So a row has the id of its own message just if the message was taken, or
the gateway had no id when it failed (`provider_refs_iff`).
-/
namespace Krishi

open Lib

/-! ## The gateway of MSG91 -/

/-- What comes of a request to the provider: a response, with its body if that is JSON, or an exception. -/
inductive PostOutcome
  | response (isSuccess : Bool) (body : Option Json)
  | requestError
  | typeError
  | exception

structure MSG91Gateway where
  authKey : String
  /-- Null at first. -/
  lastProviderRef : Json

/-- The id in a response: its `request_id`, or else its `message`. -/
def responseRef (body : Option Json) : Json :=
  match body with
  | some (.obj fields) =>
    let requestId := (dictGet fields "request_id").getD .null
    if requestId.truthy then requestId else (dictGet fields "message").getD .null
  | _ => .null

def MSG91Gateway.sendSms (g : MSG91Gateway) (templateId : Option String) (post : PostOutcome) : SmsAnswer × MSG91Gateway :=
  if templateId.getD "" = "" then (.returned (.text "failed") false, g)
  else if g.authKey = "" then (.returned (.text "failed") false, g)
  else
    match post with
    | .response true body => (.returned (.text "sent") true, { g with lastProviderRef := responseRef body })
    | .response false _ => (.returned (.text "failed") false, g)
    | .requestError => (.returned (.text "failed") false, g)
    | .typeError => (.typeError, g)
    | .exception => (.exception, g)

/-- A message given to the gateway, as the gateway was, and what came of the request if there was one. -/
structure Sending where
  sms : Sms
  before : MSG91Gateway
  post : PostOutcome

namespace Sending

variable (s : Sending)

def answer : SmsAnswer := (s.before.sendSms s.sms.templateId s.post).1

def after : MSG91Gateway := (s.before.sendSms s.sms.templateId s.post).2

def taken : Bool :=
  match s.answer with
  | .returned _ success => success
  | _ => false

/-- The id the provider returned for the message; null if it was not taken. -/
def id : Json :=
  match s.taken, s.post with
  | true, .response _ body => responseRef body
  | _, _ => .null

/-- **A message that is not taken leaves the gateway's id.** -/
theorem after_ref : s.after.lastProviderRef = if s.taken then s.id else s.before.lastProviderRef := by
  unfold id taken answer after MSG91Gateway.sendSms
  split
  · rfl
  · split
    · rfl
    · cases s.post with
      | response isSuccess body => cases isSuccess <;> rfl
      | requestError => rfl
      | typeError => rfl
      | exception => rfl

theorem id_of_not_taken (h : s.taken = false) : s.id = .null := by
  unfold id
  rw [h]

end Sending

/-- A value as a text column keeps it. -/
def Json.stored (jsonText : Json → String) : Json → Option String
  | .null => none
  | .str s => some s
  | v => some (jsonText v)

theorem Json.stored_eq_none {jsonText : Json → String} {v : Json} : v.stored jsonText = none ↔ v = .null := by
  cases v <;> simp [Json.stored]

/-! ## A run with the gateway -/

/-- What a run meets, by the number of the call: the date, new ids, what comes of a request to the provider, and what others
do to the database before the call is answered. -/
structure Traffic where
  today : Nat → Date
  order : RowOrder
  uuid : Nat → Uuid
  post : Nat → PostOutcome
  meanwhile : Nat → DB → DB
  jsonText : Json → String

/-- A state of the run: the messages given to the gateway, and the rows put into the log, each with the last of these. -/
structure Outbox where
  world : World
  calls : Nat
  gateway : MSG91Gateway
  sendings : List Sending
  logged : List (NotificationLog × Option Sending)

def newRows (db db' : DB) : List NotificationLog :=
  db'.notificationLog.rows.filter (fun row => (db.notificationLog.get? row.id).isNone)

def Traffic.exec (x : Traffic) : {ρ : Type} → CheckOp ρ → Outbox → Except DbError ρ × Outbox
  | _, .db op, b =>
    let db := x.meanwhile b.calls b.world.db
    let (r, db') := Lib.exec x.order id op db
    (r, { b with
      world := b.world.withDb db'
      calls := b.calls + 1
      logged := b.logged ++ (newRows db db').map (fun row => (row, b.sendings.getLast?)) })
  | _, .today, b => (.ok (x.today b.calls), { b with calls := b.calls + 1 })
  | _, .genRandomUuid, b => (.ok (x.uuid b.calls), { b with calls := b.calls + 1 })
  | _, .sendSms sms, b =>
    let s : Sending := ⟨sms, b.gateway, x.post b.calls⟩
    (.ok s.answer, { b with
      world := b.world.hear sms s.answer
      calls := b.calls + 1
      gateway := s.after
      sendings := b.sendings ++ [s] })
  | _, .lastProviderRef, b => (.ok (b.gateway.lastProviderRef.stored x.jsonText), b)

/-- **One run of the checker through MSG91.** -/
def checkVia (cfg : CheckConfig) (x : Traffic) (w : World) (g : MSG91Gateway) : Outbox :=
  ((AlertChecker.run cfg w.clock).run x.exec ⟨w, 0, g, [], []⟩).2

/-! ## Rows -/

/-- The row is the message's. -/
def Reports (row : NotificationLog) (sms : Sms) : Prop :=
  row.alertId = sms.alertId ∧ row.recipient = sms.phone ∧ row.message = sms.message

instance (row : NotificationLog) (sms : Sms) : Decidable (Reports row sms) := inferInstanceAs (Decidable (_ ∧ _ ∧ _))

/-- **The row is of the message that was sent last, with the id the provider returned for it.** -/
def Belongs (jsonText : Json → String) : NotificationLog × Option Sending → Prop
  | (row, some s) => Reports row s.sms ∧ row.providerRef = s.id.stored jsonText
  | (_, none) => False

instance (jsonText : Json → String) : DecidablePred (Belongs jsonText)
  | (row, some s) => inferInstanceAs (Decidable (Reports row s.sms ∧ row.providerRef = s.id.stored jsonText))
  | (_, none) => inferInstanceAs (Decidable False)

/-- **If the message failed, the gateway had no id before it.** -/
def Bare (e : NotificationLog × Option Sending) : Prop :=
  ∀ s ∈ e.2, s.taken = false → s.before.lastProviderRef = .null

/-- What the code writes: the id the gateway has after the message. -/
def FromGateway (jsonText : Json → String) (e : NotificationLog × Option Sending) : Prop :=
  ∃ s, e.2 = some s ∧ Reports e.1 s.sms ∧ e.1.providerRef = s.after.lastProviderRef.stored jsonText

theorem FromGateway.belongs_iff {jsonText : Json → String} {e : NotificationLog × Option Sending}
    (h : FromGateway jsonText e) : Belongs jsonText e ↔ Bare e := by
  obtain ⟨row, last⟩ := e
  obtain ⟨s, hlast, hreports, href⟩ := h
  dsimp only at hlast hreports href
  subst hlast
  show Reports row s.sms ∧ row.providerRef = s.id.stored jsonText ↔ ∀ s' ∈ some s, _
  rw [and_iff_right hreports, href, s.after_ref]
  cases ht : s.taken with
  | true => simp [ht]
  | false =>
    have hid : s.id.stored jsonText = none := by
      rw [s.id_of_not_taken ht]
      rfl
    simp [ht, hid, Json.stored_eq_none]

/-! ## A run, followed from message to row -/

/-- Where a run is with its messages: between two of them, after one was given to the gateway, or with the id read. -/
inductive SmsStage
  | idle
  | sent (sms : Sms)
  | read (sms : Sms) (ref : Option String)

/-- A call that neither sends, nor reads the id, nor writes to the log. -/
def Unlogged : {ρ : Type} → CheckOp ρ → Prop
  | _, .db op => ∀ (o : RowOrder) db, (exec o (id : DbError → DbError) op db).2.notificationLog = db.notificationLog
  | _, .sendSms _ => False
  | _, .lastProviderRef => False
  | _, _ => True

/-- The calls of a run, and where they leave it. -/
inductive SmsTurn : SmsStage → ∀ {ρ : Type}, CheckOp ρ → Except DbError ρ → SmsStage → Prop
  | unlogged {σ : SmsStage} {ρ : Type} {op : CheckOp ρ} {r : Except DbError ρ} (h : Unlogged op) : SmsTurn σ op r σ
  | send {σ : SmsStage} {sms : Sms} {r : Except DbError SmsAnswer} : SmsTurn σ (.sendSms sms) r (.sent sms)
  | read {sms : Sms} {ref : Option String} : SmsTurn (.sent sms) .lastProviderRef (.ok ref) (.read sms ref)
  | log {sms : Sms} {ref : Option String} {row : NotificationLog} {r : Except DbError (List NotificationLog)}
      (h : Reports row sms) (href : row.providerRef = ref) :
      SmsTurn (.read sms ref) (.db (.insert notificationLog row)) r .idle

def SmsStage.sms : SmsStage → Option Sms
  | .idle => none
  | .sent sms => some sms
  | .read sms _ => some sms

def SmsStage.ref : SmsStage → Option (Option String)
  | .read _ ref => some ref
  | _ => none

/-- What the state of a run is known to be. -/
structure Tracks (jsonText : Json → String) (σ : SmsStage) (b : Outbox) : Prop where
  logged : ∀ e ∈ b.logged, FromGateway jsonText e
  last : ∀ sms ∈ σ.sms, ∃ s, b.sendings.getLast? = some s ∧ s.sms = sms ∧ s.after = b.gateway
  ref : ∀ ref ∈ σ.ref, ref = b.gateway.lastProviderRef.stored jsonText

theorem newRows_eq_nil {db db' : DB} (h : db'.notificationLog = db.notificationLog) : newRows db db' = [] := by
  unfold newRows
  rw [h, List.filter_eq_nil_iff]
  intro row hrow
  rw [Table.get?_of_mem hrow]
  exact Bool.false_ne_true

/-- An insert puts in its row, or nothing. -/
theorem newRows_insert {o : RowOrder} {db : DB} {n row : NotificationLog}
    (h : row ∈ newRows db (exec o (id : DbError → DbError) (.insert notificationLog n) db).2) : row = n := by
  have hanswer : (exec o (id : DbError → DbError) (.insert notificationLog n) db).2
      = (insertAnswer (id : DbError → DbError) db n (notificationLog.insert? db n)).2 := rfl
  rw [hanswer] at h
  cases hins : notificationLog.insert? db n with
  | error e =>
    rw [hins, insertAnswer_error, newRows_eq_nil rfl] at h
    exact absurd h List.not_mem_nil
  | ok db' =>
    rw [hins, insertAnswer_ok] at h
    obtain ⟨hmem, hnew⟩ := List.mem_filter.1 h
    obtain ⟨hk, hc, -, rfl⟩ := Tab.insert?_ok hins
    have hrows : row ∈ ((notificationLog.get db).insert n hk hc).rows := hmem
    rcases Table.mem_insert.1 hrows with hold | rfl
    · rw [Table.get?_of_mem (show row ∈ db.notificationLog.rows from hold)] at hnew
      exact absurd hnew Bool.false_ne_true
    · rfl

section Run

variable {cfg : CheckConfig} {x : Traffic}

theorem logged_db {ρ : Type} (op : Op DB ρ) (b : Outbox) : (x.exec (.db op) b).2.logged = b.logged ++
    (newRows (x.meanwhile b.calls b.world.db)
      (exec x.order (id : DbError → DbError) op (x.meanwhile b.calls b.world.db)).2).map
        (fun row => (row, b.sendings.getLast?)) := rfl

/-- **Each call of a run keeps `Tracks`.** -/
theorem tracks_exec {ρ : Type} (op : CheckOp ρ) (b : Outbox) (σ σ' : SmsStage) (h : Tracks x.jsonText σ b)
    (hturn : SmsTurn σ op (x.exec op b).1 σ') : Tracks x.jsonText σ' (x.exec op b).2 := by
  cases hturn with
  | unlogged hop =>
    cases op with
    | db op =>
      have hnil := newRows_eq_nil (hop x.order (x.meanwhile b.calls b.world.db))
      refine ⟨fun e he => h.logged e ?_, h.last, h.ref⟩
      rwa [logged_db, hnil, List.map_nil, List.append_nil] at he
    | today => exact ⟨h.logged, h.last, h.ref⟩
    | genRandomUuid => exact ⟨h.logged, h.last, h.ref⟩
    | sendSms sms => exact hop.elim
    | lastProviderRef => exact hop.elim
  | @send _ sms =>
    refine ⟨h.logged, fun sms' hsms => ?_, fun ref href => by cases href⟩
    obtain rfl := Option.some.inj hsms
    exact ⟨⟨sms, b.gateway, x.post b.calls⟩, List.getLast?_concat, rfl, rfl⟩
  | @read sms ref =>
    refine ⟨h.logged, h.last, fun ref href => ?_⟩
    obtain rfl := Option.some.inj href
    rfl
  | @log sms ref row r hrow href =>
    refine ⟨fun e he => ?_, fun sms hsms => (by cases hsms), fun ref href => by cases href⟩
    rw [logged_db] at he
    rcases List.mem_append.1 he with he | he
    · exact h.logged e he
    · obtain ⟨row', hrow', rfl⟩ := List.mem_map.1 he
      obtain rfl := newRows_insert hrow'
      obtain ⟨s, hlast, rfl, hafter⟩ := h.last sms rfl
      refine ⟨s, hlast, hrow, ?_⟩
      rw [href, hafter]
      exact h.ref ref rfl

/-- What the calls of a run can be answered. -/
abbrev Traffic.Possible (x : Traffic) {ρ : Type} (op : CheckOp ρ) (r : Except DbError ρ) : Prop :=
  ∃ b, (x.exec op b).1 = r

/-- A program of a run, followed through its stages. -/
abbrev SmsWalk (x : Traffic) {α : Type} (p : Check α) (σ : SmsStage) (Q : Except DbError α → SmsStage → Prop) : Prop :=
  Follows x.Possible SmsTurn Q p σ

theorem smsWalk_unlogged {α : Type} {p : Check α} {σ : SmsStage} {R : α → Prop} (h : p.All Unlogged R) :
    SmsWalk x p σ (fun _ σ' => σ' = σ) :=
  Follows.of_all (fun _ _ hop => SmsTurn.unlogged hop) (fun _ _ => rfl) (fun _ => rfl) h

theorem ReadCall.unlogged {ρ : Type} {op : CheckOp ρ} (h : ReadCall op) : Unlogged op := by
  cases h with
  | today => trivial
  | select t p => exact fun _ _ => rfl
  | view t p le n g => exact fun _ _ => rfl

theorem unlogged_alerts (p : Alert → Bool) (f : Patch Alert.id Alert.check) : Unlogged (.db (.update alerts p f)) :=
  fun _ _ => rfl

theorem dueAlerts_unlogged (now : Time) : (dueAlerts cfg now).All Unlogged (fun _ => True) := by
  refine Prog.All.bind (Prog.All.perform (unlogged_alerts _ _)) (fun _ _ => ?_)
  refine Prog.All.bind (Prog.All.perform (ReadCall.select _ _).unlogged) (fun rows _ => ?_)
  split
  · exact Prog.All.pure trivial
  · refine Prog.All.bind (Prog.All.perform (ReadCall.select _ _).unlogged) (fun users _ => ?_)
    refine Prog.All.bind (Prog.All.perform (ReadCall.select _ _).unlogged) (fun comms _ => ?_)
    exact Prog.All.mono (fun _ _ => trivial) (Prog.All.filterMap (fun alert _ =>
      Prog.All.imp (fun _ hop => hop.unlogged) (dueAlert_reads cfg now users comms alert)))

/-- After a try or two the message given to the gateway last is the alert's. -/
theorem sendAlert_smsWalk (sms : Sms) (σ : SmsStage) : SmsWalk x (sendAlert sms) σ
    (fun _ σ' => ∃ vars, σ' = .sent { sms with vars := vars }) := by
  have htry : ∀ (sms : Sms) (σ : SmsStage), SmsWalk x (.perform (.sendSms sms)) σ (fun _ σ' => σ' = .sent sms) :=
    fun sms σ => Follows.perform (fun r _ => ⟨.sent sms, SmsTurn.send, rfl⟩)
  refine Follows.bind ?_ ?_ (htry sms σ)
  · rintro ans _ rfl
    cases ans with
    | returned status success => exact ⟨sms.vars, rfl⟩
    | exception => exact ⟨sms.vars, rfl⟩
    | typeError =>
      refine Follows.bind ?_ ?_ (htry { sms with vars := none } (.sent sms))
      · rintro ans _ rfl
        cases ans with
        | returned status success => cases status <;> exact ⟨none, rfl⟩
        | typeError => exact ⟨none, rfl⟩
        | exception => exact ⟨none, rfl⟩
      · rintro e _ rfl
        exact ⟨none, rfl⟩
  · rintro e _ rfl
    exact ⟨sms.vars, rfl⟩

theorem logNotification_smsWalk {d : DueAlert} {sms last : Sms} (smsStatus : String) (hid : sms.alertId = d.alert.id)
    (hlast : ∃ vars, last = { sms with vars := vars }) :
    SmsWalk x (logNotification d sms smsStatus) (.sent last) (upTo (fun σ => σ = .idle) (fun _ => True)) := by
  obtain ⟨vars, rfl⟩ := hlast
  refine Follows.bind (Q := returns fun ref σ => σ = .read { sms with vars := vars } ref) ?_ (fun _ _ h => h.elim) ?_
  · rintro ref _ rfl
    refine Follows.bind (Q := fun _ σ => σ = .read { sms with vars := vars } ref) ?_ (fun _ _ _ => trivial) ?_
    · rintro i _ rfl
      exact Follows.perform (fun r _ => ⟨.idle, SmsTurn.log ⟨congrArg some hid.symm, rfl, rfl⟩ rfl, by cases r <;> trivial⟩)
    · exact Follows.perform (fun r _ => ⟨_, SmsTurn.unlogged trivial, rfl⟩)
  · refine Follows.perform (fun r hr => ?_)
    obtain ⟨b, rfl⟩ := hr
    exact ⟨_, SmsTurn.read, rfl⟩

theorem fireAlert_smsWalk (now : Time) (t : Tally) (d : DueAlert) :
    SmsWalk x (fireAlert cfg now t d) .idle (upTo (fun σ => σ = .idle) (fun _ => True)) := by
  have hclaim : (claim now d.alert).All Unlogged (fun _ => True) := by
    refine Prog.All.bind (Prog.All.perform (unlogged_alerts _ _)) (fun rows _ => ?_)
    split
    · exact Prog.All.pure trivial
    · exact Prog.All.bind (Prog.All.perform (unlogged_alerts _ _)) (fun _ _ => Prog.All.pure trivial)
  have hroll : ∀ success, (rollbackUnless success now d.alert).All Unlogged (fun _ => True) := by
    intro success
    cases success with
    | true => exact Prog.All.pure trivial
    | false => exact Prog.All.perform (unlogged_alerts _ _)
  have hnotify : ∀ phone, SmsWalk x (notify now d (d.sms cfg now phone)) .idle
      (upTo (fun σ => σ = .idle) (fun _ => True)) := by
    intro phone
    refine Follows.bind ?_ (fun _ _ _ => trivial) (sendAlert_smsWalk (d.sms cfg now phone) .idle)
    rintro ⟨smsStatus, success⟩ _ ⟨vars, rfl⟩
    refine Follows.bind ?_ (fun _ _ _ => trivial) (smsWalk_unlogged (hroll success))
    rintro _ _ rfl
    have hid : (d.sms cfg now phone).alertId = d.alert.id := rfl
    refine Follows.bind ?_ (fun _ _ _ => trivial) (logNotification_smsWalk smsStatus hid ⟨vars, rfl⟩)
    exact fun _ _ h => h
  unfold fireAlert
  split
  · rfl
  · split
    · rfl
    · refine Follows.bind ?_ (fun _ _ _ => trivial) (smsWalk_unlogged hclaim)
      rintro claimed _ rfl
      cases claimed with
      | false => rfl
      | true =>
        refine Follows.bind ?_ (fun _ _ _ => trivial) (hnotify _)
        exact fun _ _ h => h

theorem run_smsWalk (cfg : CheckConfig) (x : Traffic) (now : Time) :
    SmsWalk x (AlertChecker.run cfg now) .idle (fun _ _ => True) := by
  refine Follows.bind ?_ (fun _ _ _ => trivial) (smsWalk_unlogged (dueAlerts_unlogged now))
  rintro due _ rfl
  show SmsWalk x (if due = [] then pure (CheckSummary.mk "ok" 0) else _) _ _
  split
  · trivial
  · have hloop : SmsWalk x (due.foldlM (fireAlert cfg now) ⟨fun _ => 0, 0⟩) .idle
        (upTo (fun σ => σ = .idle) (fun _ => True)) :=
      Follows.foldlM (I := fun _ σ => σ = SmsStage.idle)
        (fun d _ t σ hσ => by rw [show σ = SmsStage.idle from hσ]; exact fireAlert_smsWalk now t d) due _ .idle rfl
    refine Follows.bind ?_ (fun _ _ _ => trivial) hloop
    exact fun _ _ _ => trivial

/-- **Each row of a run is of the message before it, with the id that the gateway had then.** -/
theorem fromGateway_of_run (cfg : CheckConfig) (x : Traffic) (w : World) (g : MSG91Gateway) :
    ∀ e ∈ (checkVia cfg x w g).logged, FromGateway x.jsonText e := by
  have hstart : Tracks x.jsonText .idle ⟨w, 0, g, [], []⟩ :=
    ⟨fun e he => absurd he List.not_mem_nil, (fun sms hsms => by cases hsms), (fun ref href => by cases href)⟩
  obtain ⟨σ, hσ, -⟩ := (run_smsWalk cfg x w.clock).run x.exec (fun op b => ⟨b, rfl⟩)
    (fun op b σ σ' => tracks_exec op b σ σ') hstart
  exact hσ.logged

end Run

/-- **Provider references belong to their message** in a run exactly when each logged message that failed found a gateway
without an id. -/
theorem provider_refs_iff (cfg : CheckConfig) (x : Traffic) (w : World) (g : MSG91Gateway) :
    (∀ e ∈ (checkVia cfg x w g).logged, Belongs x.jsonText e) ↔ ∀ e ∈ (checkVia cfg x w g).logged, Bare e :=
  forall₂_congr (fun e he => (fromGateway_of_run cfg x w g e he).belongs_iff)

/-! Two alerts of one farmer, the first message taken and the second not. -/

def twoAlerts : World where
  __ := breach
  db :=
    let dearerAlert : Alert := { onionAlert with id := 2, thresholdPrice := 2250 }
    { breach.db with alerts := ⟨[onionAlert, dearerAlert], by decide, by decide⟩ }

/-- The provider takes the first message, and then cannot be reached. -/
def takesOne : Traffic where
  today _ := 20
  order := .asStored
  uuid := id
  post n := if n = 10 then .response true (some (.obj [("request_id", .str "r1")])) else .requestError
  meanwhile _ db := db
  jsonText _ := ""

def templated : CheckConfig := { plainConfig with resolveTemplate := fun _ => some "t1" }

/-- Both rows have the id of the first message. -/
theorem failed_row_has_id :
    ((checkVia templated takesOne twoAlerts ⟨"key", .null⟩).logged.map
        (fun e => (e.1.alertId, e.1.status, e.1.providerRef)) =
      [(some 1, "sent", some "r1"), (some 2, "failed", some "r1")]) ∧
    ¬ ∀ e ∈ (checkVia templated takesOne twoAlerts ⟨"key", .null⟩).logged, Belongs takesOne.jsonText e :=
  ⟨by decide +kernel, by decide +kernel⟩

end Krishi
