import KrishiBazaar.Cooldown
import KrishiBazaar.Lib.Pool
/-!
# Checkers — any number of alert checkers at once

Runs of the checker start at any time, each with its own reading of the clock, and their calls interleave in any order.
Between the calls the clock may go on, as long as no run in flight is older than 24 hours, and other requests may change
the database; of the alert that is looked at they keep the notification columns, which only the checker writes.

`Turn` says which calls move a run's standing to an alert; a walk through `AlertChecker.run` shows that it makes no
others (`run_follows`), and each call does to the view what `Held` allows (`turn_held`).
-/
namespace Krishi

open Lib

/-- The notification columns of an alert. -/
def mark (db : DB) (a : Uuid) : Option (Option Time × Nat) := (db.alerts.get? a).map Alert.mark

/-- The claims of an alert's successful messages. -/
def World.sentTo (w : World) (a : Uuid) : List Time := (w.sent.filter (fun s => s.1 = a)).map (·.2)

def World.view (w : World) (a : Uuid) : View := ⟨w.clock, mark w.db a, w.sentTo a⟩

/-- What happens outside the runs in flight, as alert `a` goes. -/
structure Elsewhere (a : Uuid) (w : World) (started : Multiset Time) (w' : World) : Prop where
  clock_le : w.clock ≤ w'.clock
  in_time : ∀ now ∈ started, w'.clock ≤ now + cooldown
  sent : w'.sent = w.sent
  kept : ∀ m, mark w.db a = some m → mark w'.db a = some m

def checkers (cfg : CheckConfig) (a : Uuid) : Pool CheckOp DbError World Time CheckSummary where
  answers := Answers
  starts w now := now = w.clock
  code := AlertChecker.run cfg
  outside := Elsewhere a

/-! ## Calls that leave an alert alone -/

def Quiet (a : Uuid) : {ρ : Type} → CheckOp ρ → Prop
  | _, .db op => ∀ (o : RowOrder) db, mark (exec o (id : DbError → DbError) op db).2 a = mark db a
  | _, .sendSms sms => sms.alertId ≠ a
  | _, _ => True

section Calls

variable {ρ κ : Type} {key : ρ → κ} {check : ρ → Bool} {a : Uuid}

theorem mark_congr {db db' : DB} (h : db'.alerts = db.alerts) : mark db' a = mark db a := by
  unfold mark
  rw [h]

theorem quiet_select (t : Tab DB key check) (p : ρ → Bool) : Quiet a (.db (.select t p)) := fun _ _ => rfl

theorem mark_update (db : DB) (p : Alert → Bool) (f : Patch Alert.id Alert.check) :
    mark (alerts.set db (db.alerts.update p f)) a
      = (db.alerts.get? a).map (fun r => (if p r then f.apply r else r).mark) := by
  show ((db.alerts.update p f).get? a).map Alert.mark = _
  rw [Table.get?_update, Option.map_map]
  rfl

/-- An update of alerts that does not select this one, or does not touch the columns. -/
theorem quiet_update {p : Alert → Bool} {f : Patch Alert.id Alert.check}
    (h : ∀ r, r.id = a → p r = true → (f.apply r).mark = r.mark) : Quiet a (.db (.update alerts p f)) := by
  intro o db
  show mark (alerts.set db (db.alerts.update p f)) a = mark db a
  rw [mark_update, mark]
  refine Option.map_congr (fun r hr => ?_)
  split
  · rename_i hp
    exact h r (Table.key_of_get? hr) hp
  · rfl

theorem quiet_insert_log (n : NotificationLog) : Quiet a (.db (.insert notificationLog n)) := by
  intro o db
  refine mark_congr ?_
  show (insertAnswer _ db n (notificationLog.insert? db n)).2.alerts = db.alerts
  cases h : notificationLog.insert? db n with
  | error e => rfl
  | ok db' =>
    obtain ⟨hk, hc, -, rfl⟩ := Tab.insert?_ok h
    rfl

end Calls

/-- A call that only reads. -/
inductive ReadCall : ∀ {ρ : Type}, CheckOp ρ → Prop
  | today : ReadCall .today
  | select {ρ κ : Type} {key : ρ → κ} {check : ρ → Bool} (t : Tab DB key check) (p : ρ → Bool) : ReadCall (.db (.select t p))
  | view {ρ σ κ : Type} {key : ρ → κ} {check : ρ → Bool} (t : Tab DB key check) (p : ρ → Bool) (le : ρ → ρ → Bool)
      (n : Option Nat) (g : DB → ρ → σ) : ReadCall (.db (.view t p le n g))

theorem ReadCall.quiet {ρ : Type} {op : CheckOp ρ} {a : Uuid} (h : ReadCall op) : Quiet a op := by
  cases h with
  | today => trivial
  | select t p => exact quiet_select t p
  | view t p le n g => exact fun _ _ => rfl

theorem resolveMarket_reads (cfg : CheckConfig) (alert : Alert) (user : UserProfile) :
    (resolveMarket cfg alert user).All ReadCall (fun _ => True) := by
  unfold resolveMarket
  split
  · exact Prog.All.pure trivial
  · exact Prog.All.bind (Prog.All.perform (.view _ _ _ _ _)) (fun res _ => Prog.All.pure trivial)
  · exact Prog.All.pure trivial

theorem checkCrossing_reads (cfg : CheckConfig) (alert : Alert) (user : UserProfile) :
    (checkCrossing cfg alert user).All ReadCall (fun _ => True) := by
  have hseries : (resolvedSeries cfg alert user).All ReadCall (fun _ => True) := by
    refine Prog.All.bind (Prog.All.perform .today) (fun today _ => ?_)
    refine Prog.All.bind (resolveMarket_reads cfg alert user) (fun x _ => ?_)
    obtain ⟨marketId, scopeNote⟩ := x
    cases marketId with
    | some marketId => exact Prog.All.bind (Prog.All.perform (.select _ _)) (fun _ _ => Prog.All.pure trivial)
    | none =>
      refine Prog.All.bind (Prog.All.perform (.select _ _)) (fun marketRows _ => ?_)
      split
      · exact Prog.All.pure trivial
      · exact Prog.All.bind (Prog.All.perform (.select _ _)) (fun _ _ => Prog.All.pure trivial)
  refine Prog.All.bind hseries (fun x _ => ?_)
  obtain ⟨scopeNote, series⟩ := x
  dsimp only
  cases lastTwo series <;> exact Prog.All.pure trivial

/-- What is due is the alert that was looked at, out of its cooldown. -/
theorem dueAlert_reads (cfg : CheckConfig) (now : Time) (users : List UserProfile) (comms : List Commodity) (alert : Alert) :
    (dueAlert cfg now users comms alert).All ReadCall
      (fun x => ∀ d ∈ x, d.alert = alert ∧ cooling now d.alert.lastNotifiedAt = false) := by
  unfold dueAlert
  split
  · exact Prog.All.pure (fun d hd => by cases hd)
  · rename_i hcool
    split
    · refine Prog.All.bind (checkCrossing_reads cfg alert _) (fun x _ => Prog.All.pure (fun d hd => ?_))
      split at hd
      · obtain rfl := Option.some.inj hd
        exact ⟨rfl, by simpa using hcool⟩
      · cases hd
    · exact Prog.All.pure (fun d hd => by cases hd)

/-! ## The protocol -/

/-- The standing of a run that has read the active alerts. -/
def afterRead (a : Uuid) (now : Time) (rows : List Alert) : Standing :=
  match rows.find? (fun r => r.id = a) with
  | some r => if cooling now r.lastNotifiedAt then .out else .reader r.lastNotifiedAt r.notifiedCount
  | none => .out

/-- The calls of a run that started at `now`, and how they move its standing to alert `a`. -/
inductive Turn (a : Uuid) (now : Time) : Standing → ∀ {ρ : Type}, CheckOp ρ → Except DbError ρ → Standing → Prop
  | quiet {σ : Standing} {ρ : Type} {op : CheckOp ρ} {r : Except DbError ρ} (h : Quiet a op) : Turn a now σ op r σ
  | read {p : Alert → Bool} {rows : List Alert} :
      Turn a now .unread (.db (.select alerts p)) (.ok rows) (afterRead a now rows)
  | claim {last : Option Time} {count : Nat} {p : Alert → Bool} {rows : List Alert}
      (hp : ∀ r, p r = true → r.id = a ∧ cooling now r.lastNotifiedAt = false) (hrows : rows ≠ []) :
      Turn a now (.reader last count) (.db (.update alerts p (setNotified (some now) (count + 1)))) (.ok rows)
        (.holder last count)
  | miss {σ : Standing} {p : Alert → Bool} {f : Patch Alert.id Alert.check} :
      Turn a now σ (.db (.update alerts p f)) (.ok []) σ
  | sent {last : Option Time} {count : Nat} {sms : Sms} {ans : SmsAnswer} (ha : sms.alertId = a)
      (hnow : sms.claimedAt = now) (h : ans.success sms = true) :
      Turn a now (.holder last count) (.sendSms sms) (.ok ans) .out
  | unsent {σ : Standing} {sms : Sms} {ans : SmsAnswer} (h : ans.success sms = false) :
      Turn a now σ (.sendSms sms) (.ok ans) σ
  | rollback {last : Option Time} {count : Nat} {rows : List Alert} :
      Turn a now (.holder last count) (.db (.update alerts (fun r => r.id = a ∧ r.lastNotifiedAt = some now)
        (setNotified last count))) (.ok rows) .out

variable {a : Uuid} {start : Option Time × Nat} {w w' : World} {now : Time} {ls : Multiset (Time × Standing)}

theorem view_withDb (w : World) (db : DB) (a : Uuid) : (w.withDb db).view a = { w.view a with mark := mark db a } := rfl

theorem sentTo_hear (w : World) (sms : Sms) (ans : SmsAnswer) (a : Uuid) : (w.hear sms ans).sentTo a =
    if ans.success sms = true ∧ sms.alertId = a then w.sentTo a ++ [sms.claimedAt] else w.sentTo a := by
  unfold World.hear World.sentTo
  by_cases hs : ans.success sms = true <;> by_cases ha : sms.alertId = a <;> simp [hs, ha]

theorem view_hear (w : World) (sms : Sms) (ans : SmsAnswer) (a : Uuid) :
    (w.hear sms ans).view a = { w.view a with times := (w.hear sms ans).sentTo a } := by
  unfold World.hear
  split <;> rfl

/-- A quiet call changes nothing of the view. -/
theorem view_of_quiet {ρ : Type} {op : CheckOp ρ} {r : Except DbError ρ} (h : Quiet a op) (hans : Answers op w r w') :
    w'.view a = w.view a := by
  cases op with
  | db op =>
    obtain ⟨o, -, rfl⟩ := hans
    rw [view_withDb, h o w.db]
    rfl
  | today =>
    obtain ⟨_, -, rfl⟩ := hans
    rfl
  | genRandomUuid =>
    obtain ⟨_, -, rfl⟩ := hans
    rfl
  | lastProviderRef =>
    obtain ⟨_, -, rfl⟩ := hans
    rfl
  | sendSms sms =>
    obtain ⟨ans, -, rfl⟩ := hans
    rw [view_hear, sentTo_hear, if_neg (fun hs => h hs.2)]
    rfl

/-- The rows an update of alerts answers with, and what it does to the columns. -/
theorem answers_update {p : Alert → Bool} {f : Patch Alert.id Alert.check} {r : Except DbError (List Alert)}
    (hans : Answers (.db (.update alerts p f)) w r w') :
    (∃ rows, r = .ok rows ∧ (rows = [] ↔ ∀ r ∈ w.db.alerts.rows, p r = false)) ∧
      w'.view a = { w.view a with mark := (w.db.alerts.get? a).map (fun r => (if p r then f.apply r else r).mark) } := by
  obtain ⟨o, hr, rfl⟩ := hans
  refine ⟨⟨_, hr, ?_⟩, ?_⟩
  · rw [o.order_eq_nil, List.map_eq_nil_iff, List.filter_eq_nil_iff]
    exact forall₂_congr fun r _ => by simp
  · rw [view_withDb, ← mark_update]
    rfl

/-- **Every call of a run keeps `Held`.** -/
theorem turn_held {σ σ' : Standing} {ρ : Type} {op : CheckOp ρ} {r : Except DbError ρ} (hturn : Turn a now σ op r σ')
    (hans : Answers op w r w') (h : Held start (w.view a) ((now, σ) ::ₘ ls)) :
    Held start (w'.view a) ((now, σ') ::ₘ ls) := by
  cases hturn with
  | quiet hq => rwa [view_of_quiet hq hans]
  | @read p rows =>
    obtain ⟨o, hr, rfl⟩ := hans
    have hview : (w.withDb (exec o (id : DbError → DbError) (.select alerts p) w.db).2).view a = w.view a := rfl
    rw [hview, afterRead]
    cases hf : rows.find? (fun r => r.id = a) with
    | none => exact h.leave rfl
    | some row =>
      have hmem : row ∈ w.db.alerts.rows := by
        have hm := List.mem_of_find?_eq_some hf
        rw [Except.ok.inj hr] at hm
        exact (List.mem_filter.1 (o.mem_order.1 hm)).1
      have hid : row.id = a := by simpa using List.find?_some hf
      have hmark : (w.view a).mark = some (row.lastNotifiedAt, row.notifiedCount) := by
        show (w.db.alerts.get? a).map Alert.mark = _
        rw [← hid, Table.get?_of_mem hmem]
        rfl
      show Held start _ ((now, if cooling now row.lastNotifiedAt then .out else _) ::ₘ ls)
      by_cases hcool : cooling now row.lastNotifiedAt = true
      · rw [if_pos hcool]
        exact h.leave rfl
      · rw [if_neg hcool]
        exact h.read hmark (by simpa using hcool)
  | @claim last count p rows hp hrows =>
    obtain ⟨⟨rows', hr, hnil⟩, hview⟩ := answers_update (a := a) hans
    obtain rfl := Except.ok.inj hr
    obtain ⟨row, hmem, hpr⟩ : ∃ r ∈ w.db.alerts.rows, p r = true := by simpa using mt hnil.2 hrows
    obtain ⟨rfl, hcool⟩ := hp row hpr
    have hget := Table.get?_of_mem hmem
    have hmark : (w.view row.id).mark = some row.mark := by
      show (w.db.alerts.get? row.id).map Alert.mark = _
      rw [hget]
      rfl
    rw [hview, hget, Option.map_some, if_pos hpr]
    exact h.claim hmark hcool
  | @miss _ p f =>
    obtain ⟨⟨rows', hr, hnil⟩, hview⟩ := answers_update (a := a) hans
    have hnone := hnil.1 (Except.ok.inj hr).symm
    have hsame : (w.db.alerts.get? a).map (fun r => (if p r then f.apply r else r).mark) = mark w.db a := by
      refine Option.map_congr (fun r hr => ?_)
      rw [hnone r (Table.mem_of_get? hr)]
      rfl
    rw [hview, hsame]
    exact h
  | @sent last count sms ans ha hnow hs =>
    obtain ⟨ans', hr, rfl⟩ := hans
    obtain rfl := Except.ok.inj hr
    rw [view_hear, sentTo_hear, if_pos ⟨hs, ha⟩, hnow]
    exact h.sent
  | @unsent _ sms ans hs =>
    obtain ⟨ans', hr, rfl⟩ := hans
    obtain rfl := Except.ok.inj hr
    rw [view_hear, sentTo_hear, if_neg (by simp [hs])]
    exact h
  | @rollback last count rows =>
    obtain ⟨-, hview⟩ := answers_update (a := a) hans
    obtain ⟨-, hmark, -⟩ := h.fits _ (Multiset.mem_cons_self _ _)
    obtain ⟨row, hget, hrow⟩ := Option.map_eq_some_iff.1 hmark
    have hsel : row.id = a ∧ row.lastNotifiedAt = some now := ⟨Table.key_of_get? hget, congrArg Prod.fst hrow⟩
    rw [hview, hget, Option.map_some, if_pos (decide_eq_true hsel)]
    exact h.rollback

/-- **The protocol of one alert.** -/
def protocol (cfg : CheckConfig) (a : Uuid) (start : Option Time × Nat) : Protocol (checkers cfg a) Standing where
  fresh := .unread
  turn := Turn a
  free σ := σ.holds = false
  inv w ls := Held start (w.view a) ls
  start hnow h := h.start_run hnow
  call hturn hans h := turn_held hturn hans h
  finish hσ h := h.finish hσ
  outside := by
    intro w w' ls hout h
    obtain ⟨m, hm⟩ := h.exists_mark
    have hview : w'.view a = { w.view a with clock := w'.clock } := by
      show View.mk w'.clock (mark w'.db a) (w'.sentTo a) = View.mk w'.clock (mark w.db a) (w.sentTo a)
      rw [hout.kept m hm, World.sentTo, hout.sent]
      exact congrArg (fun x => View.mk w'.clock x _) hm.symm
    rw [hview]
    exact h.tick hout.clock_le (fun x hx => hout.in_time x.1 (Multiset.mem_map_of_mem _ hx))

/-! ## A run follows the protocol -/

section Follows

variable {cfg : CheckConfig} {alert : Alert} {last : Option Time} {count : Nat}

theorem possible_update {ρ κ : Type} {key : ρ → κ} {check : ρ → Bool} {t : Tab DB key check} {p : ρ → Bool}
    {f : Patch key check} {r : Except DbError (List ρ)} (h : (checkers cfg a).Possible (.db (.update t p f)) r) :
    ∃ rows, r = .ok rows := by
  obtain ⟨w, w', o, hr, -⟩ := h
  exact ⟨_, hr⟩

theorem possible_select {ρ κ : Type} {key : ρ → κ} {check : ρ → Bool} {t : Tab DB key check} {p : ρ → Bool}
    {r : Except DbError (List ρ)} (h : (checkers cfg a).Possible (.db (.select t p)) r) :
    ∃ rows, r = .ok rows ∧ (rows.map key).Nodup := by
  obtain ⟨w, w', o, hr, -⟩ := h
  refine ⟨_, hr, ?_⟩
  rw [((o.perm _).map key).nodup_iff]
  exact (t.get w.db).nodup.sublist (List.filter_sublist.map key)

theorem possible_sendSms {sms : Sms} {r : Except DbError SmsAnswer} (h : (checkers cfg a).Possible (.sendSms sms) r) :
    ∃ ans, r = .ok ans := by
  obtain ⟨w, w', ans, hr, -⟩ := h
  exact ⟨ans, hr⟩

/-- A program of a run, followed from a standing to an assertion on what it returns and where it leaves the standing. -/
abbrev Walk (cfg : CheckConfig) (a : Uuid) (now : Time) {α : Type} (p : Check α) (σ : Standing)
    (Q : Except DbError α → Standing → Prop) : Prop := Follows (checkers cfg a).Possible (Turn a now) Q p σ

/-- A program that leaves the alert alone. -/
theorem walk_quiet {α : Type} {p : Check α} {σ : Standing} {R : α → Prop} (h : p.All (Quiet a) R)
    (hσ : σ.holds = false) :
    Walk cfg a now p σ (fun r σ' => σ' = σ ∧ σ'.holds = false ∧ ∀ x, r = .ok x → R x) :=
  Follows.of_all (fun _ _ hq => Turn.quiet hq) (fun x hx => ⟨rfl, hσ, fun _ h => Except.ok.inj h ▸ hx⟩)
    (fun _ => ⟨rfl, hσ, fun _ h => by cases h⟩) h

/-! ### Before the claims -/

/-- What the claims to come need: the run has read the alert as it is in the list, which has it only once. -/
structure Ready (a : Uuid) (due : List DueAlert) (σ : Standing) : Prop where
  free : σ.holds = false
  once : (due.map (·.alert.id)).Nodup
  read : ∀ d ∈ due, d.alert.id = a → σ = .reader d.alert.lastNotifiedAt d.alert.notifiedCount

theorem afterRead_free (a : Uuid) (now : Time) (rows : List Alert) : (afterRead a now rows).holds = false := by
  unfold afterRead
  split
  · split <;> rfl
  · rfl

theorem ready_of_rows {rows : List Alert} {due : List DueAlert} (hnd : (rows.map Alert.id).Nodup)
    (hsub : (due.map (·.alert)).Sublist rows) (hcool : ∀ d ∈ due, cooling now d.alert.lastNotifiedAt = false) :
    Ready a due (afterRead a now rows) where
  free := afterRead_free a now rows
  once := by
    have hids := hnd.sublist (hsub.map Alert.id)
    rwa [List.map_map] at hids
  read := by
    intro d hd hid
    have hmem : d.alert ∈ rows := hsub.subset (List.mem_map_of_mem hd)
    have hf : rows.find? (fun r => r.id = a) = some d.alert := by
      cases hf : rows.find? (fun r => r.id = a) with
      | none => exact absurd hid (by simpa using List.find?_eq_none.1 hf _ hmem)
      | some r =>
        have hr : r.id = d.alert.id := by
          rw [hid]
          simpa using List.find?_some hf
        rw [List.inj_on_of_nodup_map hnd (List.mem_of_find?_eq_some hf) hmem hr]
    rw [afterRead, hf]
    exact if_neg (by simp [hcool d hd])

theorem dueAlerts_walk : Walk cfg a now (dueAlerts cfg now) .unread
    (fun r σ => σ.holds = false ∧ ∀ due, r = .ok due → Ready a due σ) := by
  have hdeact : Walk cfg a now
      (onDb (.update alerts (fun r => r.active ∧ r.expiresAt.any (fun t => t < now)) deactivate)) .unread
      (returns fun _ σ => σ = .unread) := by
    refine Follows.perform fun r hr => ?_
    obtain ⟨rows, rfl⟩ := possible_update hr
    exact ⟨.unread, Turn.quiet (quiet_update fun _ _ _ => rfl), rfl⟩
  have hread : Walk cfg a now (onDb (.select alerts (fun r => r.active))) .unread
      (returns fun rows σ => (rows.map Alert.id).Nodup ∧ σ = afterRead a now rows) := by
    refine Follows.perform fun r hr => ?_
    obtain ⟨rows, rfl, hnd⟩ := possible_select hr
    exact ⟨afterRead a now rows, Turn.read, hnd, rfl⟩
  refine Follows.bind_returns hdeact ?_
  rintro - _ rfl
  refine Follows.bind_returns hread ?_
  rintro rows _ ⟨hnd, rfl⟩
  show Walk cfg a now (if rows = [] then pure [] else _) _ _
  split
  · exact ⟨afterRead_free a now rows, fun due hdue => by
      obtain rfl := Except.ok.inj hdue
      exact ready_of_rows hnd (List.nil_sublist rows) (fun d hd => absurd hd List.not_mem_nil)⟩
  · have hrest : ∀ users comms, (Prog.filterMap (dueAlert cfg now users comms) rows).All (Quiet a)
        (fun due => (due.map (·.alert)).Sublist rows ∧ ∀ d ∈ due, cooling now d.alert.lastNotifiedAt = false) :=
      fun users comms => Prog.All.filterMap (fun alert _ =>
        Prog.All.imp (fun _ hop => hop.quiet) (dueAlert_reads cfg now users comms alert))
    have hquiet := Prog.All.bind (Prog.All.perform (quiet_select (a := a) userProfiles
      (fun u => u.id ∈ rows.map (·.userId)))) (fun users _ => Prog.All.bind (Prog.All.perform (quiet_select (a := a)
        commodities (fun c => c.id ∈ rows.map (·.commodityId)))) (fun comms _ => hrest users comms))
    refine Follows.mono ?_ (walk_quiet hquiet (afterRead_free a now rows))
    rintro r σ ⟨rfl, hfree, hr⟩
    exact ⟨hfree, fun due hdue => ready_of_rows hnd (hr due hdue).1 (hr due hdue).2⟩

/-! ### The claims -/

/-- The calls a run makes for an alert that is due. -/
inductive FireCall (now : Time) (d : DueAlert) : ∀ {ρ : Type}, CheckOp ρ → Prop
  | update (q : Alert → Prop) [DecidablePred q] (f : Patch Alert.id Alert.check) :
      FireCall now d (.db (.update alerts (fun r => r.id = d.alert.id ∧ q r) f))
  | log (n : NotificationLog) : FireCall now d (.db (.insert notificationLog n))
  | send {sms : Sms} (ha : sms.alertId = d.alert.id) (hnow : sms.claimedAt = now) : FireCall now d (.sendSms sms)
  | lastProviderRef : FireCall now d .lastProviderRef
  | genRandomUuid : FireCall now d .genRandomUuid

theorem logNotification_all {C : ∀ {ρ : Type}, CheckOp ρ → Prop} (href : C .lastProviderRef) (huuid : C .genRandomUuid)
    (hlog : ∀ n, C (.db (.insert notificationLog n))) (d : DueAlert) (sms : Sms) (smsStatus : String) :
    (logNotification d sms smsStatus).All C (fun _ => True) := by
  refine Prog.All.bind (Prog.All.perform href) (fun providerRef _ => ?_)
  exact Prog.All.bind (Prog.All.perform huuid) (fun i _ => Prog.All.perform (hlog _))

theorem sendAlert_calls {d : DueAlert} {sms : Sms} (ha : sms.alertId = d.alert.id) (hnow : sms.claimedAt = now) :
    (sendAlert sms).All (FireCall now d) (fun _ => True) := by
  refine Prog.All.bind (Prog.All.perform (.send ha hnow)) (fun ans _ => ?_)
  cases ans with
  | typeError =>
    refine Prog.All.bind (Prog.All.perform (.send ha hnow)) (fun ans _ => ?_)
    cases ans with
    | returned status success => cases status <;> exact Prog.All.pure trivial
    | _ => exact Prog.All.pure trivial
  | _ => exact Prog.All.pure trivial

theorem fireAlert_calls (cfg : CheckConfig) (now : Time) (t : Tally) (d : DueAlert) :
    (fireAlert cfg now t d).All (FireCall now d) (fun _ => True) := by
  have hclaim : (claim now d.alert).All (FireCall now d) (fun _ => True) := by
    refine Prog.All.bind (Prog.All.perform (.update _ _)) (fun rows _ => ?_)
    split
    · exact Prog.All.pure trivial
    · exact Prog.All.bind (Prog.All.perform (.update _ _)) (fun _ _ => Prog.All.pure trivial)
  have hroll : ∀ success, (rollbackUnless success now d.alert).All (FireCall now d) (fun _ => True) := by
    intro success
    cases success with
    | true => exact Prog.All.pure trivial
    | false => exact Prog.All.perform (.update _ _)
  have hlog : ∀ sms smsStatus, (logNotification d sms smsStatus).All (FireCall now d) (fun _ => True) :=
    logNotification_all (C := FireCall now d) .lastProviderRef .genRandomUuid .log d
  have hnotify : ∀ phone, (notify now d (d.sms cfg now phone)).All (FireCall now d) (fun _ => True) := by
    refine fun phone => Prog.All.bind (sendAlert_calls rfl rfl) (fun x _ => ?_)
    obtain ⟨smsStatus, success⟩ := x
    exact Prog.All.bind (hroll success) (fun _ _ => Prog.All.bind (hlog _ _) (fun _ _ => Prog.All.pure trivial))
  unfold fireAlert
  split
  · exact Prog.All.pure trivial
  · split
    · exact Prog.All.pure trivial
    · refine Prog.All.bind hclaim (fun b _ => ?_)
      split
      · exact Prog.All.bind (hnotify _) (fun _ _ => Prog.All.pure trivial)
      · exact Prog.All.pure trivial

theorem cooling_of_lapsed (h : lapsed now last = true) : cooling now last = false := by
  cases last with
  | none => rfl
  | some t => exact decide_eq_false (not_le.2 (of_decide_eq_true h))

theorem claim_walk (hid : alert.id = a) : Walk cfg a now (claim now alert)
    (.reader alert.lastNotifiedAt alert.notifiedCount) (returns fun b σ =>
      σ = if b then .holder alert.lastNotifiedAt alert.notifiedCount
        else .reader alert.lastNotifiedAt alert.notifiedCount) := by
  -- either update claims the alert if it answers with a row, and does nothing if it does not
  have htry : ∀ p : Alert → Bool, (∀ r, p r = true → r.id = a ∧ cooling now r.lastNotifiedAt = false) →
      Walk cfg a now (onDb (.update alerts p (setNotified (some now) (alert.notifiedCount + 1))))
        (.reader alert.lastNotifiedAt alert.notifiedCount) (returns fun rows σ =>
          σ = if rows ≠ [] then .holder alert.lastNotifiedAt alert.notifiedCount
            else .reader alert.lastNotifiedAt alert.notifiedCount) := by
    refine fun p hp => Follows.perform fun r hr => ?_
    obtain ⟨rows, rfl⟩ := possible_update hr
    by_cases hrows : rows = []
    · subst hrows
      exact ⟨_, Turn.miss, rfl⟩
    · exact ⟨_, Turn.claim hp hrows, (if_pos hrows).symm⟩
  refine Follows.bind_returns (htry _ fun r hr => ?_) ?_
  · obtain ⟨hr, -, hlapsed⟩ := of_decide_eq_true hr
    exact ⟨hr.trans hid, cooling_of_lapsed hlapsed⟩
  · rintro rows _ rfl
    split
    · rfl
    · refine Follows.bind_returns (htry _ fun r hr => ?_) ?_
      · obtain ⟨hr, -, hlast⟩ := of_decide_eq_true hr
        exact ⟨hr.trans hid, by rw [hlast]; rfl⟩
      · rintro rows _ rfl
        show (if rows ≠ [] then Standing.holder _ _ else _) = if decide (rows ≠ []) = true then _ else _
        simp only [decide_eq_true_eq]

/-- The message of a claim is sent once at most: a try that succeeds is the last. -/
theorem sendAlert_walk {sms : Sms} (ha : sms.alertId = a) (hnow : sms.claimedAt = now) (hvars : sms.vars.isSome = true) :
    Walk cfg a now (sendAlert sms) (.holder last count)
      (returns fun x σ => σ = if x.2 then .out else .holder last count) := by
  have htry : ∀ sms : Sms, sms.alertId = a → sms.claimedAt = now →
      Walk cfg a now (.perform (.sendSms sms)) (.holder last count)
        (returns fun ans σ => σ = if ans.success sms then .out else .holder last count) := by
    refine fun sms ha hnow => Follows.perform fun r hr => ?_
    obtain ⟨ans, rfl⟩ := possible_sendSms hr
    by_cases hs : ans.success sms = true
    · exact ⟨.out, Turn.sent ha hnow hs, (if_pos hs).symm⟩
    · exact ⟨.holder last count, Turn.unsent (by simpa using hs), (if_neg hs).symm⟩
  refine Follows.bind_returns (htry sms ha hnow) ?_
  rintro ans _ rfl
  cases ans with
  | returned status success =>
    cases status with
    | text s => rfl
    | other truthy =>
      show (if (if sms.vars.isSome = true then success else truthy) = true then _ else _) = _
      rw [if_pos hvars]
  | exception => rfl
  | typeError =>
    refine Follows.bind_returns (htry { sms with vars := none } ha hnow) ?_
    rintro ans _ rfl
    cases ans with
    | returned status success => cases status <;> rfl
    | _ => rfl

/-- A run that has claimed the alert is done with it before it logs. -/
theorem notify_walk {d : DueAlert} {sms : Sms} (hid : d.alert.id = a) (ha : sms.alertId = a)
    (hnow : sms.claimedAt = now) (hvars : sms.vars.isSome = true) :
    Walk cfg a now (notify now d sms) (.holder d.alert.lastNotifiedAt d.alert.notifiedCount)
      (fun _ σ => σ = .out) := by
  have hroll : ∀ success, Walk cfg a now (rollbackUnless success now d.alert)
      (if success then .out else .holder d.alert.lastNotifiedAt d.alert.notifiedCount)
      (returns fun _ σ => σ = .out) := by
    intro success
    cases success with
    | true => rfl
    | false =>
      refine Follows.perform fun r hr => ?_
      obtain ⟨rows, rfl⟩ := possible_update hr
      subst hid
      exact ⟨.out, Turn.rollback, rfl⟩
  have hlog : ∀ smsStatus, (logNotification d sms smsStatus).All (Quiet a) (fun _ => True) :=
    fun smsStatus => logNotification_all (C := Quiet a) trivial trivial quiet_insert_log d sms smsStatus
  refine Follows.bind_returns (sendAlert_walk ha hnow hvars) ?_
  rintro ⟨smsStatus, success⟩ _ rfl
  refine Follows.bind_returns (hroll success) ?_
  rintro - _ rfl
  refine Follows.bind ?_ (fun _ _ h => h.1) (walk_quiet (hlog smsStatus) rfl)
  exact fun _ _ h => h.1

theorem fireAlert_walk {d : DueAlert} (t : Tally) (hid : d.alert.id = a) :
    Walk cfg a now (fireAlert cfg now t d) (.reader d.alert.lastNotifiedAt d.alert.notifiedCount)
      (fun _ σ => σ.holds = false) := by
  unfold fireAlert
  split
  · rfl
  · split
    · rfl
    · refine Follows.bind_returns (claim_walk hid) ?_
      rintro b _ rfl
      cases b with
      | false => rfl
      | true =>
        refine Follows.bind (Q := fun _ σ => σ = .out) ?_ (fun _ _ h => by rw [h]; rfl) (notify_walk hid hid rfl rfl)
        rintro _ _ rfl
        rfl

theorem fireAlert_quiet {d : DueAlert} (t : Tally) (hid : d.alert.id ≠ a) :
    (fireAlert cfg now t d).All (Quiet a) (fun _ => True) := by
  refine Prog.All.imp (fun op hop => ?_) (fireAlert_calls cfg now t d)
  cases hop with
  | update q f => exact quiet_update fun r hr hp => absurd ((of_decide_eq_true hp).1.symm.trans hr) hid
  | log n => exact quiet_insert_log n
  | send ha _ => exact fun hsms => hid (ha.symm.trans hsms)
  | lastProviderRef => exact trivial
  | genRandomUuid => exact trivial

/-- **A run follows the protocol of every alert.** -/
theorem run_follows (cfg : CheckConfig) (a : Uuid) (now : Time) :
    Walk cfg a now (AlertChecker.run cfg now) .unread (fun _ σ => σ.holds = false) := by
  refine Follows.bind ?_ (fun _ _ h => h.1) dueAlerts_walk
  rintro due σ ⟨hfree, hready⟩
  have hready := hready due rfl
  show Walk cfg a now (if due = [] then pure (CheckSummary.mk "ok" 0) else _) σ _
  split
  · exact hfree
  · refine Follows.bind (Q := upTo (Ready a []) (fun σ => σ.holds = false)) ?_ ?_
      (Follows.foldlM (I := Ready a) (fun d due t σ h => ?_) due _ σ hready)
    · exact fun t σ h => h.free
    · exact fun e σ h => h
    have honce := List.nodup_cons.1 h.once
    by_cases hid : d.alert.id = a
    · rw [h.read d List.mem_cons_self hid]
      have hrest : ∀ d' ∈ due, d'.alert.id ≠ a := fun d' hd' hid' =>
        honce.1 (List.mem_map.2 ⟨d', hd', hid'.trans hid.symm⟩)
      refine Follows.mono (fun r σ' hσ' => ?_) (fireAlert_walk t hid)
      cases r with
      | ok t' => exact ⟨hσ', honce.2, fun d' hd' hid' => absurd hid' (hrest d' hd')⟩
      | error e => exact hσ'
    · refine Follows.mono ?_ (walk_quiet (fireAlert_quiet t hid) h.free)
      rintro r σ' ⟨rfl, hfree', -⟩
      cases r with
      | ok t' => exact ⟨hfree', honce.2, fun d' hd' => h.read d' (List.mem_cons_of_mem d hd')⟩
      | error e => exact hfree'

end Follows

/-! ## The cooldown -/

theorem held_start {w : World} {a : Uuid} {alert : Alert} (halert : w.db.alerts.get? a = some alert)
    (hsent : w.sent = []) : Held alert.mark (w.view a) 0 where
  spaced := by
    show Spaced (w.sentTo a)
    rw [World.sentTo, hsent]
    exact List.Pairwise.nil
  inTime := fun x hx => absurd hx (Multiset.notMem_zero x)
  fits := fun x hx => absurd hx (Multiset.notMem_zero x)
  one := Nat.zero_le 1
  settled := by
    intro _
    show mark w.db a = some (settled alert.mark (w.sentTo a))
    rw [mark, halert, World.sentTo, hsent]
    rfl

/-- Every state of every interleaving is one that `Held` describes. -/
theorem held_of_run {cfg : CheckConfig} {w w' : World} {a : Uuid} {alert : Alert} {inFlight : (checkers cfg a).Threads}
    (halert : w.db.alerts.get? a = some alert) (hsent : w.sent = [])
    (hrun : (checkers cfg a).Run (w, 0) (w', inFlight)) :
    ∃ ls, Held alert.mark (w'.view a) ls ∧ (inFlight = 0 → ls = 0) := by
  have hstart : (protocol cfg a alert.mark).inv w 0 := held_start halert hsent
  obtain ⟨ls, hheld, hrel⟩ := (protocol cfg a alert.mark).reach (run_follows cfg a) hstart hrun
  refine ⟨ls, hheld, fun h0 => ?_⟩
  obtain rfl : inFlight = 0 := h0
  exact Multiset.rel_zero_left.1 hrel

/-- **Alert cooldown, in any interleaving.**  The claims of an alert's successful messages are more than 24 hours apart,
and with no run in flight the alert says when the last one was and how many there were. -/
theorem cooldown_kept (cfg : CheckConfig) {w w' : World} {a : Uuid} {alert : Alert} {inFlight : (checkers cfg a).Threads}
    (halert : w.db.alerts.get? a = some alert) (hsent : w.sent = [])
    (hrun : (checkers cfg a).Run (w, 0) (w', inFlight)) :
    (w'.sentTo a).Pairwise (fun s t => s + cooldown < t) ∧
    (inFlight = 0 → ∃ alert', w'.db.alerts.get? a = some alert' ∧
      alert'.lastNotifiedAt = (w'.sentTo a).getLast?.or alert.lastNotifiedAt ∧
      alert'.notifiedCount = alert.notifiedCount + (w'.sentTo a).length) := by
  obtain ⟨ls, hheld, hquiet⟩ := held_of_run halert hsent hrun
  refine ⟨hheld.spaced, fun h0 => ?_⟩
  obtain rfl := hquiet h0
  have hmark : mark w'.db a = some (settled alert.mark (w'.sentTo a)) := hheld.settled (Multiset.countP_zero _)
  obtain ⟨alert', hget, hcols⟩ := Option.map_eq_some_iff.1 hmark
  exact ⟨alert', hget, congrArg Prod.fst hcols, congrArg Prod.snd hcols⟩

theorem run_checkOnce (cfg : CheckConfig) (a : Uuid) (x : Session) (w : World) :
    (checkers cfg a).Run (w, 0) (checkOnce cfg x w, 0) := by
  have hrun := (checkers cfg a).run_of_exec x.exec Prod.fst (fun op s => x.answers op s) w.clock
    (AlertChecker.run cfg w.clock) (w, 0) 0
  exact (Relation.ReflTransGen.single (Pool.Step.start rfl)).trans hrun

/-! ## A breach -/

def plainConfig : CheckConfig := ⟨Char.isDigit, fun _ => none, fun _ _ _ _ => 0, fun _ _ => rfl, binary64⟩

/-- Alert 1 of farmer 1: onions at 2200 or more in market 1. -/
def onionAlert : Alert := ⟨1, 1, 1, some 1, 2200, .gte, true, none, none, 0⟩

/-- Onions were 2100 on day 18 and 2300 on day 19. -/
def breach : World where
  db :=
    let price (id : Uuid) (day : Date) (modal : ℚ) : Price :=
      ⟨id, 1, 1, day, none, none, modal, none, "General", "General", "data_gov_in"⟩
    { DB.empty with
      userProfiles := ⟨[⟨1, none, some "9876543210", .farmer, .mr, "Nashik", none, none⟩], by decide, by decide⟩
      markets := lasalgaonOnly
      commodities := onionsOnly
      prices := ⟨[price 1 18 2100, price 2 19 2300], by decide, by decide⟩
      alerts := ⟨[onionAlert], by decide, by decide⟩ }
  clock := hours (20 * 24)
  sent := []

/-- A check on the given day, through a gateway that takes every message. -/
def checkOn (today : Date) : Session := ⟨today, .asStored, id, fun _ => .returned (.text "sent") true, fun _ => none⟩

/-- Two checks at once: the first has read everything when the second runs from its first call to its last, and then goes
on to its claim. -/
def twoChecks : World :=
  let exec {ρ : Type} (op : CheckOp ρ) (s : World × Nat) := (checkOn 20).exec op s
  let code := AlertChecker.run plainConfig breach.clock
  let first := code.advance exec 6 (breach, 0)
  let second := code.run exec (first.2.1, 0)
  (first.1.run exec (second.2.1, 0)).2.1

theorem run_twoChecks : (checkers plainConfig 1).Run (breach, 0) (twoChecks, 0) := by
  let P := checkers plainConfig 1
  have hexec := fun {ρ : Type} (op : CheckOp ρ) (s : World × Nat) => (checkOn 20).answers op s
  have hclock : ((AlertChecker.run plainConfig breach.clock).advance (checkOn 20).exec 6 (breach, 0)).2.1.clock
      = breach.clock := by decide +kernel
  have hstart : P.Run (breach, 0) (breach, {(breach.clock, AlertChecker.run plainConfig breach.clock)}) :=
    .single (.start rfl)
  have hread := hstart.trans (P.run_of_advance (checkOn 20).exec Prod.fst hexec breach.clock 6 _ (breach, 0) 0)
  have hboth := Pool.Run.start hread hclock.symm
  have hsecond := hboth.trans (P.run_of_exec (checkOn 20).exec Prod.fst hexec breach.clock
    (AlertChecker.run plainConfig breach.clock) (_, 0) _)
  exact hsecond.trans (P.run_of_exec (checkOn 20).exec Prod.fst hexec breach.clock _ (_, 0) 0)

/-- Both find the alert due, and one of them sends: the alert says so. -/
theorem breach_cooldown_kept : twoChecks.sentTo 1 = [hours (20 * 24)] ∧
    ∃ alert, twoChecks.db.alerts.get? 1 = some alert ∧ alert.lastNotifiedAt = (twoChecks.sentTo 1).getLast?.or none ∧
      alert.notifiedCount = 0 + (twoChecks.sentTo 1).length :=
  ⟨by decide +kernel, (cooldown_kept plainConfig (by decide +kernel : breach.db.alerts.get? 1 = some onionAlert) rfl
    run_twoChecks).2 rfl⟩

end Krishi
