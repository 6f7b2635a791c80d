import KrishiBazaar.Checks
import KrishiBazaar.Checkers
/-!
# OwnAlerts — an alert is its owner's, and silent while it is off

`app/routers/alerts.py` beside the checker: alerts are created, changed and deleted by requests, and every so often a
check goes over them.  The requests run on the service-role client, so an alert is safe from other users only because
each statement names the caller.

`AlertMove` is what one event may do to an alert.  Over any run of events an alert whose owner asks for nothing keeps its
terms; it goes off only by expiring, it never comes on, and it counts its texts (`alerts_private`).  An alert that is
off, or gone, gets no text before its owner switches it on (`silent_while_off`).
-/
namespace Krishi

open Lib

/-! ## The requests -/

structure AlertCreate where
  commodityId : Uuid
  marketId : Option Uuid
  thresholdPrice : ℚ
  thresholdPrice_gt : 0 < thresholdPrice
  condition : Condition
  expiresAt : Option Time

/-- A field is left out, null, or a value. -/
structure AlertUpdate where
  thresholdPrice : Option (Option ℚ)
  thresholdPrice_gt : ∀ p, thresholdPrice = some (some p) → 0 < p
  condition : Option (Option Condition)
  active : Option (Option Bool)
  expiresAt : Option (Option Time)

/-- The row inserted, with the columns' defaults. -/
def AlertCreate.row (alert : AlertCreate) (userId id : Uuid) : Alert :=
  { id := id, userId := userId, commodityId := alert.commodityId, marketId := alert.marketId,
    thresholdPrice := alert.thresholdPrice, condition := alert.condition, active := true, expiresAt := alert.expiresAt,
    lastNotifiedAt := none, notifiedCount := 0 }

/-- No field was sent. -/
def AlertUpdate.isUnset (u : AlertUpdate) : Bool :=
  u.thresholdPrice.isNone && u.condition.isNone && u.active.isNone && u.expiresAt.isNone

/-- A null for a column that is `not null`. -/
def AlertUpdate.nulls (u : AlertUpdate) : Bool :=
  u.thresholdPrice = some none || u.condition = some none || u.active = some none

def AlertUpdate.patch (u : AlertUpdate) : Patch Alert.id Alert.check where
  apply a := { a with
    thresholdPrice := u.thresholdPrice.join.getD a.thresholdPrice
    condition := u.condition.join.getD a.condition
    active := u.active.join.getD a.active
    expiresAt := u.expiresAt.getD a.expiresAt }
  key_apply _ := rfl
  check_apply a h := by
    refine decide_eq_true ?_
    cases hp : u.thresholdPrice with
    | none => exact of_decide_eq_true h
    | some p =>
      cases p with
      | none => exact of_decide_eq_true h
      | some p => exact u.thresholdPrice_gt p hp

/-- What an update answers. -/
inductive AlertReply
  | ok
  | row (alert : Alert)
  deriving DecidableEq, Repr

def createAlert (alert : AlertCreate) (userId uuid : Uuid) : Handler Alert := do
  let res ← insert alerts (alert.row userId uuid)
  match res with
  | [] => throw ⟨400, "could not create alert"⟩
  | row :: _ => pure row

def alertNotFound : HTTPException := ⟨404, "Alert not found or access denied"⟩

/-- The update statement.  A null the column does not take fails it, if it finds a row, and leaves the row as it was. -/
def updateOwnAlert (alertId userId : Uuid) (updates : AlertUpdate) : Handler (List Alert) := do
  if updates.nulls then
    let res ← select alerts (fun a => a.id = alertId ∧ a.userId = userId)
    if res = [] then pure [] else throw ⟨503, "data store temporarily unavailable"⟩
  else update alerts (fun a => a.id = alertId ∧ a.userId = userId) updates.patch

def updateAlert (alertId : Uuid) (alertUpdate : AlertUpdate) (userId : Uuid) : Handler AlertReply :=
  if alertUpdate.thresholdPrice.any (fun p => p.any (fun p => p ≤ 0)) then throw ⟨400, "Threshold must be > 0"⟩
  else if alertUpdate.isUnset then pure .ok
  else do
    let res ← updateOwnAlert alertId userId alertUpdate
    match res with
    | [] => throw alertNotFound
    | row :: _ => pure (.row row)

def deleteAlert (alertId userId : Uuid) : Handler String := do
  let res ← .perform (.rpc (fun db =>
    let gone := db.alerts.rows.filter (fun a => a.id = alertId ∧ a.userId = userId)
    (gone, (alerts.set db (db.alerts.delete (fun a => a.id = alertId ∧ a.userId = userId))).unlinkAlerts gone)))
  if res = [] then throw alertNotFound else pure "deleted"

/-! ## Events -/

inductive AlertRequest
  | createAlert (alert : AlertCreate)
  | updateAlert (alertId : Uuid) (alertUpdate : AlertUpdate)
  | deleteAlert (alertId : Uuid)

/-- The database a request leaves. -/
def serveAlert (order : RowOrder) (user uuid : Uuid) (req : AlertRequest) (db : DB) : DB :=
  match req with
  | .createAlert alert => (handle order (createAlert alert user uuid) db).2
  | .updateAlert alertId alertUpdate => (handle order (updateAlert alertId alertUpdate user) db).2
  | .deleteAlert alertId => (handle order (deleteAlert alertId user) db).2

/-- A request of `user`, for which the database draws `uuid`; a check; or whatever else goes on. -/
inductive AlertEvent
  | request (user uuid : Uuid) (order : RowOrder) (req : AlertRequest)
  | check (x : Session)
  | elsewhere (clock : Time) (db : DB)

def alertStep (cfg : CheckConfig) (w : World) : AlertEvent → World
  | .request user uuid order req => w.withDb (serveAlert order user uuid req w.db)
  | .check x => checkOnce cfg x w
  | .elsewhere clock db => { w with clock := clock, db := db }

/-- Elsewhere the clock goes on and the alerts stay. -/
def LeavesAlerts (w : World) : AlertEvent → Prop
  | .elsewhere clock db => w.clock ≤ clock ∧ db.alerts = w.db.alerts
  | _ => True

/-- **What an event may do to the alert `k`**, and the texts it sends for it. -/
inductive AlertMove (w : World) (k : Uuid) : AlertEvent → Option Alert → Option Alert → List Time → Prop
  | same {e : AlertEvent} {a : Option Alert} : AlertMove w k e a a []
  | created {user : Uuid} {order : RowOrder} {alert : AlertCreate} :
      AlertMove w k (.request user k order (.createAlert alert)) none (some (alert.row user k)) []
  | updated {a : Alert} {uuid : Uuid} {order : RowOrder} {alertUpdate : AlertUpdate} :
      AlertMove w k (.request a.userId uuid order (.updateAlert k alertUpdate)) (some a)
        (some (alertUpdate.patch.apply a)) []
  | deleted {a : Alert} {uuid : Uuid} {order : RowOrder} :
      AlertMove w k (.request a.userId uuid order (.deleteAlert k)) (some a) none []
  | swept {a : Alert} {x : Session} (expired : a.expired w.clock = true) :
      AlertMove w k (.check x) (some a) (some { a with active := false }) []
  | notified {a : Alert} {x : Session} (active : a.active = true) :
      AlertMove w k (.check x) (some a) (some (a.notified w.clock)) [w.clock]

section Step

variable {cfg : CheckConfig} {w : World} {e : AlertEvent} {u k : Uuid}

theorem handle_createAlert (o : RowOrder) (db : DB) (alert : AlertCreate) (user uuid : Uuid) :
    (handle o (createAlert alert user uuid) db).2 = (insertAnswer jsonForApiError db (alert.row user uuid)
      (alerts.insert? db (alert.row user uuid))).2 := by
  unfold createAlert
  rw [handle_bind, handle_insert]
  cases alerts.insert? db (alert.row user uuid) <;> rfl

/-- An update of an alert, if it is the caller's, or nothing. -/
theorem handle_updateAlert (o : RowOrder) (db : DB) (alertId : Uuid) (alertUpdate : AlertUpdate) (user : Uuid) :
    (handle o (updateAlert alertId alertUpdate user) db).2 = db ∨ (handle o (updateAlert alertId alertUpdate user) db).2
      = alerts.set db (db.alerts.update (fun a => a.id = alertId ∧ a.userId = user) alertUpdate.patch) := by
  unfold updateAlert updateOwnAlert
  rw [handle_ite, handle_ite, handle_bind, handle_ite, handle_bind, handle_select, handle_update]
  split
  · exact Or.inl rfl
  · split
    · exact Or.inl rfl
    · split
      · rw [Prog.onOk_ok, handle_ite]
        split <;> exact Or.inl rfl
      · refine Or.inr ?_
        rw [Prog.onOk_ok]
        split <;> rfl

theorem handle_deleteAlert (o : RowOrder) (db : DB) (alertId user : Uuid) : (handle o (deleteAlert alertId user) db).2
    = (alerts.set db (db.alerts.delete (fun a => a.id = alertId ∧ a.userId = user))).unlinkAlerts
      (db.alerts.rows.filter (fun a => a.id = alertId ∧ a.userId = user)) := by
  unfold deleteAlert
  rw [handle_bind]
  show (Prog.onOk (.ok _, _) _).2 = _
  rw [Prog.onOk_ok, handle_ite]
  split <;> rfl

/-- A request moves an alert as its own user may. -/
theorem serveAlert_move (o : RowOrder) (user uuid : Uuid) (req : AlertRequest) (k : Uuid) :
    AlertMove w k (.request user uuid o req) (w.db.alerts.get? k)
      ((serveAlert o user uuid req w.db).alerts.get? k) [] := by
  cases req with
  | createAlert alert =>
    show AlertMove w k _ _ ((handle o (createAlert alert user uuid) w.db).2.alerts.get? k) _
    rw [handle_createAlert]
    cases hins : alerts.insert? w.db (alert.row user uuid) with
    | error e => exact .same
    | ok db' =>
      rw [insertAnswer_ok]
      have hget := Tab.get?_insert? hins k
      have hnew : w.db.alerts.get? uuid = none := (Tab.insert?_ok hins).1
      show AlertMove w k _ _ ((alerts.get db').get? k) _
      rw [hget]
      show AlertMove w k _ _ (if uuid = k then _ else w.db.alerts.get? k) _
      by_cases hk : uuid = k
      · subst hk
        rw [if_pos rfl, hnew]
        exact .created
      · rw [if_neg hk]
        exact .same
  | updateAlert alertId alertUpdate =>
    show AlertMove w k _ _ ((handle o (updateAlert alertId alertUpdate user) w.db).2.alerts.get? k) _
    rcases handle_updateAlert o w.db alertId alertUpdate user with h | h
    · rw [h]
      exact .same
    · rw [h]
      show AlertMove w k _ _ ((w.db.alerts.update _ _).get? k) _
      rw [Table.get?_update]
      cases ha : w.db.alerts.get? k with
      | none => exact .same
      | some a =>
        rw [Option.map_some]
        split
        · rename_i hp
          obtain ⟨hid, rfl⟩ := of_decide_eq_true hp
          obtain rfl : k = alertId := (Table.key_of_get? ha).symm.trans hid
          exact .updated
        · exact .same
  | deleteAlert alertId =>
    show AlertMove w k _ _ ((handle o (deleteAlert alertId user) w.db).2.alerts.get? k) _
    rw [handle_deleteAlert]
    show AlertMove w k _ _ ((w.db.alerts.delete _).get? k) _
    rw [Table.get?_delete]
    cases ha : w.db.alerts.get? k with
    | none => exact .same
    | some a =>
      rw [Option.filter_some]
      split
      · exact .same
      · rename_i hp
        obtain ⟨hid, rfl⟩ : a.id = alertId ∧ a.userId = user := by simpa using hp
        obtain rfl : k = alertId := (Table.key_of_get? ha).symm.trans hid
        exact .deleted

/-- **A check texts the alert, switches it off or leaves it.** -/
theorem check_move (cfg : CheckConfig) (x : Session) (w : World) (k : Uuid) :
    ∃ ts, AlertMove w k (.check x) (w.db.alerts.get? k) ((checkOnce cfg x w).db.alerts.get? k) ts ∧
      (checkOnce cfg x w).sentTo k = w.sentTo k ++ ts := by
  obtain ⟨texts, heffect⟩ := checkOnce_effect cfg x w
  have hsent : (checkOnce cfg x w).sentTo k
      = w.sentTo k ++ ((texts.map (·.1.id)).filter (fun j => j = k)).map (fun _ => w.clock) := by
    unfold World.sentTo
    rw [heffect.sent, List.filter_append, List.map_append, List.filter_map, List.filter_map, List.map_map, List.map_map]
    rfl
  rw [hsent, heffect.alerts, List.filter_eq, List.map_replicate]
  by_cases hk : k ∈ texts.map (·.1.id)
  · obtain ⟨d, hd, rfl⟩ := List.mem_map.1 hk
    rw [(heffect.due d hd).alert, Option.map_some, if_pos hk, List.count_eq_one_of_mem heffect.once hk]
    exact ⟨[w.clock], .notified (heffect.due d hd).active, rfl⟩
  · refine ⟨[], ?_, ?_⟩
    · cases w.db.alerts.get? k with
      | none => exact .same
      | some a =>
        rw [Option.map_some, if_neg hk, Alert.swept]
        split
        · rename_i hexp
          exact .swept hexp
        · exact .same
    · rw [List.count_eq_zero_of_not_mem hk]
      rfl

/-- **One event, as alert `k` sees it.** -/
theorem alertStep_move (cfg : CheckConfig) {w : World} {e : AlertEvent} (h : LeavesAlerts w e) (k : Uuid) :
    ∃ ts, AlertMove w k e (w.db.alerts.get? k) ((alertStep cfg w e).db.alerts.get? k) ts ∧
      (alertStep cfg w e).sentTo k = w.sentTo k ++ ts := by
  cases e with
  | request user uuid order req => exact ⟨[], serveAlert_move order user uuid req k, (List.append_nil _).symm⟩
  | check x => exact check_move cfg x w k
  | elsewhere clock db =>
    refine ⟨[], ?_, (List.append_nil _).symm⟩
    show AlertMove w k _ _ (db.alerts.get? k) _
    rw [h.2]
    exact .same

theorem le_clock_alertStep (cfg : CheckConfig) (h : LeavesAlerts w e) : w.clock ≤ (alertStep cfg w e).clock := by
  cases e with
  | request user uuid order req => exact le_refl _
  | check x =>
    obtain ⟨texts, heffect⟩ := checkOnce_effect cfg x w
    exact heffect.clock.ge
  | elsewhere clock db => exact h.1

/-! ## Alerts that are off -/

/-- The alert is switched off, or there is none. -/
def Off (w : World) (k : Uuid) : Prop := ∀ a, w.db.alerts.get? k = some a → a.active = false

/-- Its owner switches the alert on, or the database draws its id. -/
def SwitchesOn (k : Uuid) (w : World) : AlertEvent → Prop
  | .request _ uuid _ (.createAlert _) => uuid = k
  | .request user _ _ (.updateAlert alertId alertUpdate) =>
    alertId = k ∧ alertUpdate.active = some (some true) ∧ ∃ a, w.db.alerts.get? k = some a ∧ a.userId = user
  | _ => False

theorem step_off (cfg : CheckConfig) (h : LeavesAlerts w e) (hon : ¬ SwitchesOn k w e) (hoff : Off w k) :
    Off (alertStep cfg w e) k ∧ (alertStep cfg w e).sentTo k = w.sentTo k := by
  obtain ⟨ts, hmove, hsent⟩ := alertStep_move cfg h k
  unfold Off at hoff ⊢
  rw [hsent]
  generalize hb : w.db.alerts.get? k = before at hmove hoff
  generalize (alertStep cfg w e).db.alerts.get? k = now at hmove ⊢
  cases hmove with
  | same => exact ⟨hoff, List.append_nil _⟩
  | created => exact absurd rfl hon
  | @updated a uuid order alertUpdate =>
    refine ⟨fun a' ha' => ?_, List.append_nil _⟩
    obtain rfl := Option.some.inj ha'
    show alertUpdate.active.join.getD a.active = false
    have hstays : alertUpdate.active.join ≠ some true := by
      intro hjoin
      exact hon ⟨rfl, Option.join_eq_some_iff.1 hjoin, a, hb, rfl⟩
    cases hj : alertUpdate.active.join with
    | none => exact hoff a rfl
    | some on =>
      cases on with
      | true => exact absurd hj hstays
      | false => rfl
  | deleted => exact ⟨fun a' ha' => (by cases ha'), List.append_nil _⟩
  | swept _ =>
    refine ⟨fun a' ha' => ?_, List.append_nil _⟩
    obtain rfl := Option.some.inj ha'
    rfl
  | notified hactive => exact absurd hactive (by rw [hoff _ rfl]; exact Bool.false_ne_true)

/-- **An alert that is off gets no text** in any run in which its owner does not switch it on; nor does an alert that is
deleted. -/
theorem silent_while_off (cfg : CheckConfig) {w : World} {es : List AlertEvent} (k : Uuid) (hoff : Off w k)
    (h : Along (alertStep cfg) (fun w e => LeavesAlerts w e ∧ ¬ SwitchesOn k w e) w es) :
    Off (after (alertStep cfg) w es) k ∧ (after (alertStep cfg) w es).sentTo k = w.sentTo k := by
  refine Along.inv (I := fun w' => Off w' k ∧ w'.sentTo k = w.sentTo k) (fun w' e hi hc => ?_) h ⟨hoff, rfl⟩ es []
    (List.append_nil es).symm
  obtain ⟨hoff', hsent⟩ := step_off cfg hc.1 hc.2 hi.1
  exact ⟨hoff', hsent.trans hi.2⟩

/-! ## Alerts whose owner asks for nothing -/

/-- What became of the alert `a` of a user who asked for nothing since `w`. -/
structure Unasked (k : Uuid) (w w' : World) (a a' : Alert) : Prop where
  terms : { a' with active := a.active, lastNotifiedAt := a.lastNotifiedAt, notifiedCount := a.notifiedCount } = a
  stays_off : a'.active = true → a.active = true
  expiry : a.active = true → a'.active = false → ∃ t, a.expiresAt = some t ∧ t < w'.clock
  texts : ∃ ts, w'.sentTo k = w.sentTo k ++ ts ∧ a'.notifiedCount = a.notifiedCount + ts.length ∧
    a'.lastNotifiedAt = ts.getLast?.or a.lastNotifiedAt

/-- The event is a request of the user's. -/
def AsksFor (u : Uuid) : AlertEvent → Prop
  | .request user _ _ _ => user = u
  | _ => False

theorem Unasked.step {w' : World} {a a' : Alert} (hi : Unasked k w w' a a') (hrow : w'.db.alerts.get? k = some a')
    (h : LeavesAlerts w' e) (hu : ¬ AsksFor a.userId e) :
    ∃ a'', (alertStep cfg w' e).db.alerts.get? k = some a'' ∧ Unasked k w (alertStep cfg w' e) a a'' := by
  obtain ⟨ts, hmove, hsent⟩ := alertStep_move cfg h k
  have hclock := le_clock_alertStep cfg h
  obtain ⟨hterms, hstays, hexpiry, texts, htexts, hcount, hlast⟩ := hi
  have huser : a'.userId = a.userId := by rw [← hterms]
  have hexpires : a'.expiresAt = a.expiresAt := by rw [← hterms]
  have hlater : a.active = true → a'.active = false → ∃ t, a.expiresAt = some t ∧ t < (alertStep cfg w' e).clock :=
    fun hon hoff => (hexpiry hon hoff).imp fun t ht => ⟨ht.1, ht.2.trans_le hclock⟩
  rw [hrow] at hmove
  generalize (alertStep cfg w' e).db.alerts.get? k = now at hmove ⊢
  cases hmove with
  | same =>
    exact ⟨a', rfl, hterms, hstays, hlater, texts, by rw [hsent, htexts, List.append_nil], hcount, hlast⟩
  | updated => exact absurd huser hu
  | deleted => exact absurd huser hu
  | swept expired =>
    refine ⟨_, rfl, hterms, fun hon => (by cases hon), fun _ _ => ?_, texts, by rw [hsent, htexts, List.append_nil],
      hcount, hlast⟩
    obtain ⟨t, ht, hlt⟩ := (Option.any_eq_true _ _).1 (Bool.and_eq_true_iff.1 expired).2
    exact ⟨t, hexpires.symm.trans ht, (of_decide_eq_true hlt).trans_le hclock⟩
  | notified hactive =>
    refine ⟨_, rfl, hterms, hstays, hlater, texts ++ [w'.clock], by rw [hsent, htexts, List.append_assoc], ?_, ?_⟩
    · show a'.notifiedCount + 1 = _
      rw [hcount, List.length_append, List.length_singleton, Nat.add_assoc]
    · rw [List.getLast?_concat]
      rfl

/-- **Whoever asks for nothing keeps his alerts.**  Over any run without a request of the user's, each of his alerts keeps
its terms, does not come on, goes off only past its day, and counts its texts; and no alert becomes his. -/
theorem alerts_private (cfg : CheckConfig) {w : World} {es : List AlertEvent} (u : Uuid)
    (h : Along (alertStep cfg) (fun w e => LeavesAlerts w e ∧ ¬ AsksFor u e) w es) (k : Uuid) :
    (∀ a, w.db.alerts.get? k = some a → a.userId = u → ∃ a', (after (alertStep cfg) w es).db.alerts.get? k = some a' ∧
      Unasked k w (after (alertStep cfg) w es) a a') ∧
    ∀ a', (after (alertStep cfg) w es).db.alerts.get? k = some a' → a'.userId = u →
      ∃ a, w.db.alerts.get? k = some a ∧ a.userId = u := by
  refine ⟨fun a ha hu => ?_, ?_⟩
  · have hstart : Unasked k w w a a := by
      refine ⟨rfl, fun hon => hon, fun hon hoff => ?_, [], (List.append_nil _).symm, rfl, rfl⟩
      rw [hon] at hoff
      cases hoff
    refine Along.inv (I := fun w' => ∃ a', w'.db.alerts.get? k = some a' ∧ Unasked k w w' a a') (fun w' e hi hc => ?_) h
      ⟨a, ha, hstart⟩ es [] (List.append_nil es).symm
    obtain ⟨a', hrow, hkept⟩ := hi
    exact hkept.step hrow hc.1 (hu ▸ hc.2)
  · refine Along.inv (I := fun w' => ∀ a', w'.db.alerts.get? k = some a' → a'.userId = u →
      ∃ a, w.db.alerts.get? k = some a ∧ a.userId = u) (fun w' e hi hc => ?_) h (fun a' ha' hu => ⟨a', ha', hu⟩) es []
        (List.append_nil es).symm
    obtain ⟨ts, hmove, -⟩ := alertStep_move cfg hc.1 k
    generalize hb : w'.db.alerts.get? k = before at hmove hi
    generalize (alertStep cfg w' e).db.alerts.get? k = now at hmove ⊢
    intro a' ha' hu
    subst ha'
    cases hmove with
    | same => exact hi a' rfl hu
    | created => exact absurd hu hc.2
    | updated => exact hi _ rfl hu
    | swept _ => exact hi _ rfl hu
    | notified _ => exact hi _ rfl hu

end Step

/-! ## On the onion alert -/

/-- Nothing but `active`. -/
def setActive (active : Bool) : AlertUpdate := ⟨none, by simp, none, some (some active), none⟩

/-- Farmer 1 switches the onion alert off. -/
def muted : World := alertStep plainConfig breach (.request 1 0 .asStored (.updateAlert 1 (setActive false)))

/-- A stranger asks to switch the alert on, and a check goes by. -/
def strangerThenCheck : List AlertEvent :=
  [.request 2 0 .asStored (.updateAlert 1 (setActive true)), .check (checkOn 20)]

/-- The check that would have texted the farmer (`breach_cooldown_kept`) does not. -/
theorem silent_muted : (after (alertStep plainConfig) muted strangerThenCheck).sentTo 1 = muted.sentTo 1 ∧
    muted.sentTo 1 = [] := by
  have hrow : muted.db.alerts.get? 1 = some { onionAlert with active := false } := by decide +kernel
  have hoff : Off muted 1 := fun a ha => by
    rw [hrow] at ha
    rw [← Option.some.inj ha]
  have halong : Along (alertStep plainConfig) (fun w e => LeavesAlerts w e ∧ ¬ SwitchesOn 1 w e) muted
      strangerThenCheck := by
    refine ⟨⟨trivial, ?_⟩, ⟨trivial, fun h => h⟩, trivial⟩
    rintro ⟨-, -, a, ha, hu⟩
    rw [hrow] at ha
    rw [← Option.some.inj ha] at hu
    exact absurd hu (by decide)
  exact ⟨(silent_while_off plainConfig 1 hoff halong).2, by decide +kernel⟩

/-- The stranger changes nothing, and the check texts the owner. -/
theorem private_breach : ∃ a', (after (alertStep plainConfig) breach strangerThenCheck).db.alerts.get? 1 = some a' ∧
    a'.thresholdPrice = 2200 := by
  have halong : Along (alertStep plainConfig) (fun w e => LeavesAlerts w e ∧ ¬ AsksFor 1 e) breach strangerThenCheck :=
    ⟨⟨trivial, fun h : (2 : Uuid) = 1 => absurd h (by decide)⟩, ⟨trivial, fun h => h⟩, trivial⟩
  obtain ⟨a', ha', hkept⟩ := (alerts_private plainConfig 1 halong 1).1 onionAlert (by decide +kernel) rfl
  exact ⟨a', ha', congrArg Alert.thresholdPrice hkept.terms⟩

end Krishi
