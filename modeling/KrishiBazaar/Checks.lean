import KrishiBazaar.Crossing
/-!
# Checks — what one run of the alert checker does, exactly

A run alone, from its first call to its last, whatever the gateway answers and whatever the log of notifications refuses.
Some alerts get a text, at most three for each user, and each of them is due: it is active, unexpired and out of its
cooldown, it has a user who can be reached and a commodity, and its series crosses its threshold.  These and no others
are marked as notified, the expired ones are switched off, and nothing else changes but the log.  If the run ends, every
text is logged; and if the gateway takes what it gets, every due alert has its text, unless its user has three
(`check_done`).

The loop is followed alert by alert: `Texted` is what a stretch of it does, one round is such a stretch
(`run_fireAlert`), and so is a stretch after a stretch (`Texted.cons`).
-/
namespace Krishi

open Lib

/-! ## What is due -/

/-- Past its day, and not yet switched off. -/
def Alert.expired (now : Time) (a : Alert) : Bool := a.active && a.expiresAt.any (fun t => t < now)

/-- The alert after the sweep a run begins with. -/
def Alert.swept (now : Time) (a : Alert) : Alert := if a.expired now then { a with active := false } else a

/-- The alert after a text. -/
def Alert.notified (now : Time) (a : Alert) : Alert :=
  { a with lastNotifiedAt := some now, notifiedCount := a.notifiedCount + 1 }

/-- **The alert is due for a text.** -/
structure Due (cfg : CheckConfig) (x : Session) (w : World) (a : Alert) (user : UserProfile) : Prop where
  alert : w.db.alerts.get? a.id = some a
  active : a.active = true
  unexpired : a.expired w.clock = false
  warm : cooling w.clock a.lastNotifiedAt = false
  owner : w.db.userProfiles.get? a.userId = some user
  phone : (normalizePhone cfg user.phone).isSome = true
  commodity : (w.db.commodities.get? a.commodityId).isSome = true
  crossing : crossing cfg.arith a (seriesOf cfg x w.db a user).2 ≠ none

section Check

variable {cfg : CheckConfig} {x : Session} {now : Time}

/-- `dueAlert` in a database that does not change. -/
def dueOf (cfg : CheckConfig) (x : Session) (db : DB) (now : Time) (users : List UserProfile) (comms : List Commodity)
    (alert : Alert) : Option DueAlert :=
  if cooling now alert.lastNotifiedAt then none
  else
    match users.find? (fun u => u.id = alert.userId), comms.find? (fun c => c.id = alert.commodityId) with
    | some user, some commodity =>
      (lastTwo (seriesOf cfg x db alert user).2).bind (fun pts =>
        if isCrossing alert.condition (cfg.arith.round alert.thresholdPrice) pts.1.2 pts.2.2 then
          some ⟨alert, user, commodity, (seriesOf cfg x db alert user).1, pts.2.2⟩
        else none)
    | _, _ => none

theorem run_checkCrossing_eq (alert : Alert) (user : UserProfile) (s : World × Nat) :
    (checkCrossing cfg alert user).run x.exec s =
      (.ok ((lastTwo (seriesOf cfg x s.1.db alert user).2).elim (false, (seriesOf cfg x s.1.db alert user).1, 0)
        (fun pts => (isCrossing alert.condition (cfg.arith.round alert.thresholdPrice) pts.1.2 pts.2.2,
          (seriesOf cfg x s.1.db alert user).1, pts.2.2))), s) := by
  unfold checkCrossing
  rw [Prog.run_bind, run_resolvedSeries, Prog.onOk_ok]
  dsimp only
  cases lastTwo (seriesOf cfg x s.1.db alert user).2 <;> rfl

theorem run_dueAlert_eq (users : List UserProfile) (comms : List Commodity) (s : World × Nat) (alert : Alert) :
    (dueAlert cfg now users comms alert).run x.exec s = (.ok (dueOf cfg x s.1.db now users comms alert), s) := by
  unfold dueAlert dueOf
  rw [Prog.run_ite]
  by_cases hcool : cooling now alert.lastNotifiedAt = true
  · rw [if_pos hcool, if_pos hcool]
    rfl
  · rw [if_neg hcool, if_neg hcool]
    cases users.find? (fun u => u.id = alert.userId) with
    | none => rfl
    | some user =>
      cases comms.find? (fun c => c.id = alert.commodityId) with
      | none => rfl
      | some commodity =>
        dsimp only
        rw [Prog.run_bind, run_checkCrossing_eq, Prog.onOk_ok]
        cases lastTwo (seriesOf cfg x s.1.db alert user).2 <;> rfl

theorem crossing_ne_none {ar : Arith} {alert : Alert} {series : DailySeries} : crossing ar alert series ≠ none ↔
    ∃ pts, lastTwo series = some pts ∧
      isCrossing alert.condition (ar.round alert.thresholdPrice) pts.1.2 pts.2.2 = true := by
  unfold crossing
  cases h : lastTwo series with
  | none => simp
  | some pts => simp

/-- What is due is the alert with its user and its commodity, as they are listed. -/
theorem dueOf_eq_some {db : DB} {users : List UserProfile} {comms : List Commodity} {alert : Alert} {d : DueAlert}
    (h : dueOf cfg x db now users comms alert = some d) : d.alert = alert ∧ cooling now alert.lastNotifiedAt = false ∧
      users.find? (fun u => u.id = alert.userId) = some d.user ∧
      comms.find? (fun c => c.id = alert.commodityId) = some d.commodity ∧
      Krishi.crossing cfg.arith alert (seriesOf cfg x db alert d.user).2 ≠ none := by
  unfold dueOf at h
  split at h
  · cases h
  · rename_i hcool
    split at h
    · rename_i user commodity huser hcomm
      obtain ⟨pts, hpts, hd⟩ := Option.bind_eq_some_iff.1 h
      split at hd
      · rename_i hcross
        obtain rfl := Option.some.inj hd
        exact ⟨rfl, by simpa using hcool, huser, hcomm, crossing_ne_none.2 ⟨pts, hpts, hcross⟩⟩
      · cases hd
    · cases h

theorem exists_dueOf (db : DB) (users : List UserProfile) (comms : List Commodity) {alert : Alert} {user : UserProfile}
    {commodity : Commodity} (hcool : cooling now alert.lastNotifiedAt = false)
    (huser : users.find? (fun u => u.id = alert.userId) = some user)
    (hcomm : comms.find? (fun c => c.id = alert.commodityId) = some commodity)
    (hcross : Krishi.crossing cfg.arith alert (seriesOf cfg x db alert user).2 ≠ none) :
    ∃ d, dueOf cfg x db now users comms alert = some d ∧ d.alert = alert ∧ d.user = user := by
  obtain ⟨pts, hpts, hc⟩ := crossing_ne_none.1 hcross
  refine ⟨⟨alert, user, commodity, (seriesOf cfg x db alert user).1, pts.2.2⟩, ?_, rfl, rfl⟩
  unfold dueOf
  rw [if_neg (by simp [hcool]), huser, hcomm]
  simp [hpts, hc]

/-! ## A stretch of the loop -/

/-- The database but for what a run may change. -/
def DB.besidesAlerts (db : DB) : DB := { db with alerts := .empty, notificationLog := .empty }

/-- **What a stretch of the loop over `due` does**, starting with the tally `t` in the state `s`: it sends the texts
`fired` and ends in `out`, or stops there. -/
structure Texted (cfg : CheckConfig) (x : Session) (now : Time) (t : Tally) (due : List DueAlert) (s : World × Nat)
    (fired : List DueAlert) (out : Except DbError Tally × (World × Nat)) : Prop where
  sublist : fired.Sublist due
  sent : out.2.1.sent = s.1.sent ++ fired.map (fun d => (d.alert.id, now))
  alerts : ∀ k, out.2.1.db.alerts.get? k
    = (s.1.db.alerts.get? k).map (fun a => if k ∈ fired.map (·.alert.id) then a.notified now else a)
  clock : out.2.1.clock = s.1.clock
  rest : out.2.1.db.besidesAlerts = s.1.db.besidesAlerts
  kept : ∀ n ∈ s.1.db.notificationLog.rows, n ∈ out.2.1.db.notificationLog.rows
  phone : ∀ d ∈ fired, (normalizePhone cfg d.user.phone).isSome = true
  capped : ∀ u, t.userSmsCount u ≤ maxSmsPerUser →
    t.userSmsCount u + fired.countP (fun d => d.user.id = u) ≤ maxSmsPerUser
  tally : ∀ t', out.1 = .ok t' → t'.firedCount = t.firedCount + fired.length ∧
    ∀ u, t'.userSmsCount u = t.userSmsCount u + fired.countP (fun d => d.user.id = u)
  logged : ∀ t', out.1 = .ok t' → ∀ d ∈ fired, ∃ n ∈ out.2.1.db.notificationLog.rows,
    n.alertId = d.alert.id ∧ n.userId = d.user.id ∧ n ∉ s.1.db.notificationLog.rows
  complete : (∀ n sms, (x.gateway n).success sms = true) → ∀ t', out.1 = .ok t' →
    ∀ d ∈ due, (normalizePhone cfg d.user.phone).isSome = true → d ∈ fired ∨ maxSmsPerUser ≤ t'.userSmsCount d.user.id

namespace Texted

variable {t t' : Tally} {d : DueAlert} {due fired fired' : List DueAlert} {s s' : World × Nat}
    {out : Except DbError Tally × (World × Nat)}

/-- A round that lets the alert pass. -/
theorem skip (h : (normalizePhone cfg d.user.phone).isSome = true → maxSmsPerUser ≤ t.userSmsCount d.user.id) :
    Texted cfg x now t [d] s [] (.ok t, s) where
  sublist := List.nil_sublist _
  sent := (List.append_nil _).symm
  alerts k := by simp
  clock := rfl
  rest := rfl
  kept _ hn := hn
  phone d' hd' := absurd hd' List.not_mem_nil
  capped u hu := hu
  tally t' ht' := by
    obtain rfl := Except.ok.inj ht'
    exact ⟨rfl, fun _ => rfl⟩
  logged t' _ d' hd' := absurd hd' List.not_mem_nil
  complete _ t' ht' d' hd' hphone := by
    obtain rfl := Except.ok.inj ht'
    obtain rfl := List.mem_singleton.1 hd'
    exact Or.inr (h hphone)

/-- A round that stops the loop stops it for the rest. -/
theorem stop {e : DbError} (h : Texted cfg x now t [d] s fired (.error e, s')) :
    Texted cfg x now t (d :: due) s fired (.error e, s') where
  sublist := h.sublist.trans (List.cons_sublist_cons.2 (List.nil_sublist _))
  sent := h.sent
  alerts := h.alerts
  clock := h.clock
  rest := h.rest
  kept := h.kept
  phone := h.phone
  capped := h.capped
  tally t' ht' := by cases ht'
  logged t' ht' := by cases ht'
  complete _ t' ht' := by cases ht'

/-- **A stretch after a round.** -/
theorem cons (h : Texted cfg x now t [d] s fired (.ok t', s')) (h' : Texted cfg x now t' due s' fired' out)
    (hdue : ∀ d' ∈ due, d'.alert.id ≠ d.alert.id) : Texted cfg x now t (d :: due) s (fired ++ fired') out where
  sublist := h.sublist.append h'.sublist
  sent := by rw [h'.sent, h.sent, List.map_append, List.append_assoc]
  alerts k := by
    rw [h'.alerts, h.alerts, Option.map_map]
    congr 1
    funext a
    have hapart : k ∈ fired.map (·.alert.id) → k ∉ fired'.map (·.alert.id) := by
      intro hk hk'
      obtain ⟨d₁, hd₁, rfl⟩ := List.mem_map.1 hk
      obtain ⟨d₂, hd₂, heq⟩ := List.mem_map.1 hk'
      obtain rfl := List.mem_singleton.1 (h.sublist.subset hd₁)
      exact hdue d₂ (h'.sublist.subset hd₂) heq
    by_cases hk : k ∈ fired.map (·.alert.id)
    · simp [hk, hapart hk]
    · by_cases hk' : k ∈ fired'.map (·.alert.id) <;> simp [hk, hk']
  clock := h'.clock.trans h.clock
  rest := h'.rest.trans h.rest
  kept n hn := h'.kept n (h.kept n hn)
  phone d' hd' := (List.mem_append.1 hd').elim (h.phone d') (h'.phone d')
  capped u hu := by
    have hfirst := h.capped u hu
    rw [← (h.tally t' rfl).2 u] at hfirst
    have hsecond := h'.capped u hfirst
    rw [(h.tally t' rfl).2 u] at hsecond
    rw [List.countP_append, ← Nat.add_assoc]
    exact hsecond
  tally t'' ht'' := by
    obtain ⟨hcount, husers⟩ := h.tally t' rfl
    obtain ⟨hcount', husers'⟩ := h'.tally t'' ht''
    refine ⟨?_, fun u => ?_⟩
    · rw [hcount', hcount, List.length_append, Nat.add_assoc]
    · rw [husers', husers, List.countP_append, Nat.add_assoc]
  logged t'' ht'' d' hd' := by
    rcases List.mem_append.1 hd' with hd' | hd'
    · obtain ⟨n, hn, ha, hu, hnew⟩ := h.logged t' rfl d' hd'
      exact ⟨n, h'.kept n hn, ha, hu, hnew⟩
    · obtain ⟨n, hn, ha, hu, hnew⟩ := h'.logged t'' ht'' d' hd'
      exact ⟨n, hn, ha, hu, fun hold => hnew (h.kept n hold)⟩
  complete htakes t'' ht'' d' hd' hphone := by
    rcases List.mem_cons.1 hd' with rfl | hd'
    · refine (h.complete htakes t' rfl d' (List.mem_singleton_self d') hphone).imp (fun hf => ?_) (fun hfull => ?_)
      · exact List.mem_append_left _ hf
      · rw [(h'.tally t'' ht'').2]
        exact Nat.le_add_right_of_le hfull
    · exact (h'.complete htakes t'' ht'' d' hd' hphone).imp_left (List.mem_append_right _)

end Texted

/-! ## The calls of a round -/

variable {t : Tally} {d : DueAlert} {s : World × Nat}

/-- The alert of a key, changed. -/
def changeAlert (db : DB) (k : Uuid) (f : Patch Alert.id Alert.check) : DB :=
  alerts.set db (db.alerts.update (fun a => a.id = k) f)

theorem get?_changeAlert (db : DB) (k : Uuid) (f : Patch Alert.id Alert.check) (j : Uuid) :
    (changeAlert db k f).alerts.get? j = (db.alerts.get? j).map (fun a => if j = k then f.apply a else a) := by
  show (db.alerts.update _ f).get? j = _
  rw [Table.get?_update]
  refine Option.map_congr (fun a ha => ?_)
  rw [Table.key_of_get? ha]
  by_cases hj : j = k <;> simp [hj]

/-- An update of one alert under a condition. -/
theorem run_updateAlert {alert : Alert} (hrow : s.1.db.alerts.get? alert.id = some alert) {p : Alert → Bool}
    (q : Alert → Bool) (hp : ∀ a, p a = (decide (a.id = alert.id) && q a)) (f : Patch Alert.id Alert.check) :
    (onDb (.update alerts p f)).run x.exec s = if q alert = true then
      (.ok [f.apply alert], (s.1.withDb (changeAlert s.1.db alert.id f), s.2)) else (.ok [], s) := by
  obtain rfl : p = fun a => decide (a.id = alert.id) && q a := funext hp
  have hanswer : exec x.order (id : DbError → DbError)
      (.update alerts (fun a => decide (a.id = alert.id) && q a) f) s.1.db
      = (.ok (x.order.order (((s.1.db.alerts.rows.filter (fun a => decide (a.id = alert.id) && q a))).map f.apply)),
        alerts.set s.1.db (s.1.db.alerts.update (fun a => decide (a.id = alert.id) && q a) f)) := rfl
  rw [run_onDb, hanswer, x.order.order_map_filter_key_and, Table.update_key_and, hrow, Option.any_some]
  by_cases hq : q alert = true
  · rw [if_pos hq, if_pos hq, Option.filter_some, if_pos hq]
    rfl
  · rw [if_neg hq, if_neg hq, Option.filter_some, if_neg hq]
    rfl

/-- **A claim of an alert that is active and out of its cooldown succeeds.** -/
theorem run_claim {alert : Alert} (hrow : s.1.db.alerts.get? alert.id = some alert) (hactive : alert.active = true)
    (hcool : cooling now alert.lastNotifiedAt = false) : (claim now alert).run x.exec s = (.ok true,
      (s.1.withDb (changeAlert s.1.db alert.id (setNotified (some now) (alert.notifiedCount + 1))), s.2)) := by
  unfold claim
  rw [Prog.run_bind, run_updateAlert hrow (fun a => a.active && lapsed now a.lastNotifiedAt) (fun a => by simp)]
  cases hlast : alert.lastNotifiedAt with
  | some last =>
    have hlapsed : lapsed now (some last) = true := by
      rw [hlast] at hcool
      exact decide_eq_true (not_le.1 (of_decide_eq_false hcool))
    rw [if_pos (by rw [hactive, hlapsed]; rfl)]
    rfl
  | none =>
    rw [if_neg (by simp [lapsed]), Prog.onOk_ok, Prog.run_ite, if_neg (by simp), Prog.run_bind,
      run_updateAlert hrow (fun a => a.active && decide (a.lastNotifiedAt = none)) (fun a => by simp),
      if_pos (by rw [hactive, hlast]; rfl)]
    rfl

/-- The world after a message that was taken, or was not. -/
def World.heard (w : World) (sms : Sms) (success : Bool) : World :=
  if success then { w with sent := w.sent ++ [(sms.alertId, sms.claimedAt)] } else w

theorem hear_eq_heard {sms sms' : Sms} {ans : SmsAnswer} {success : Bool} (w : World) (h : ans.success sms = success)
    (ha : sms.alertId = sms'.alertId) (hc : sms.claimedAt = sms'.claimedAt) : w.hear sms ans = w.heard sms' success := by
  unfold World.hear World.heard
  rw [h, ha, hc]

/-- **What the gateway may do with a message.** -/
theorem run_sendAlert (sms : Sms) (hvars : sms.vars.isSome = true) (s : World × Nat) : ∃ status success n,
    (sendAlert sms).run x.exec s = (.ok (status, success), (s.1.heard sms success, n)) ∧
      ((∀ n sms, (x.gateway n).success sms = true) → success = true) := by
  unfold sendAlert
  rw [Prog.run_bind, Prog.run_perform]
  simp only [Session.exec, Prog.onOk_ok]
  cases hans : x.gateway s.2 with
  | returned status success =>
    have hsuccess : (SmsAnswer.returned status success).success sms = success := by
      cases status with
      | text _ => rfl
      | other _ => exact if_pos hvars
    refine ⟨status.logged, success, s.2 + 1, ?_, fun htakes => ?_⟩
    · rw [hear_eq_heard s.1 hsuccess rfl rfl]
      rfl
    · rw [← hsuccess, ← hans]
      exact htakes s.2 sms
  | typeError =>
    have hfirst : s.1.hear sms .typeError = s.1 := rfl
    rw [hfirst, Prog.run_bind, Prog.run_perform]
    simp only [Session.exec, Prog.onOk_ok]
    have hretry : ∀ ans : SmsAnswer, s.1.hear { sms with vars := none } ans
        = s.1.heard sms (ans.success { sms with vars := none }) := fun ans => hear_eq_heard s.1 rfl rfl rfl
    have htaken : (∀ n sms, (x.gateway n).success sms = true) →
        (x.gateway (s.2 + 1)).success { sms with vars := none } = true := fun htakes => htakes _ _
    rw [hretry]
    revert htaken
    cases x.gateway (s.2 + 1) with
    | returned status success =>
      cases status with
      | text str => exact fun htaken => ⟨str, success, s.2 + 2, rfl, htaken⟩
      | other truthy => exact fun htaken => ⟨if truthy then "mock" else "failed", truthy, s.2 + 2, rfl, htaken⟩
    | typeError => exact fun htaken => ⟨"failed", false, s.2 + 2, rfl, htaken⟩
    | exception => exact fun htaken => ⟨"failed", false, s.2 + 2, rfl, htaken⟩
  | exception =>
    refine ⟨"failed", false, s.2 + 1, rfl, fun htakes => ?_⟩
    have hsuccess := htakes s.2 sms
    rw [hans] at hsuccess
    cases hsuccess

/-- **Logging a message**: it is logged, or the run stops with the log as it was. -/
theorem run_logNotification (d : DueAlert) (sms : Sms) (smsStatus : String) (s : World × Nat) : ∃ r db n,
    (logNotification d sms smsStatus).run x.exec s = (r, (s.1.withDb db, n)) ∧ db.alerts = s.1.db.alerts ∧
      db.besidesAlerts = s.1.db.besidesAlerts ∧
      (∀ n ∈ s.1.db.notificationLog.rows, n ∈ db.notificationLog.rows) ∧
      ∀ rows, r = .ok rows → ∃ n ∈ db.notificationLog.rows,
        n.alertId = d.alert.id ∧ n.userId = d.user.id ∧ n ∉ s.1.db.notificationLog.rows := by
  unfold logNotification
  rw [Prog.run_bind, Prog.run_perform]
  simp only [Session.exec, Prog.onOk_ok]
  rw [Prog.run_bind, Prog.run_perform]
  simp only [Session.exec, Prog.onOk_ok]
  rw [run_onDb]
  simp only [exec]
  generalize hn : NotificationLog.mk _ _ _ _ _ _ _ _ = n
  cases hins : notificationLog.insert? s.1.db n with
  | error e => exact ⟨_, s.1.db, s.2 + 1 + 1, rfl, rfl, rfl, fun _ h => h, fun rows hr => by cases hr⟩
  | ok db' =>
    obtain ⟨hk, hc, -, rfl⟩ := Tab.insert?_ok hins
    refine ⟨_, _, s.2 + 1 + 1, rfl, rfl, rfl, fun m hm => ?_, fun _ _ => ⟨n, ?_, ?_⟩⟩
    · exact (@Table.mem_insert _ _ _ _ _ _ _ _ hk hc).2 (Or.inl hm)
    · exact (@Table.mem_insert _ _ _ _ _ _ _ _ hk hc).2 (Or.inr rfl)
    · subst hn
      exact ⟨rfl, rfl, fun hold => Table.get?_eq_none.1 hk _ hold rfl⟩

/-! ## A round -/

/-- A claim that is taken back leaves the alerts as they were. -/
theorem get?_rollback {db : DB} {alert : Alert} (hrow : db.alerts.get? alert.id = some alert) (k : Uuid) :
    (changeAlert (changeAlert db alert.id (setNotified (some now) (alert.notifiedCount + 1))) alert.id
      (setNotified alert.lastNotifiedAt alert.notifiedCount)).alerts.get? k = db.alerts.get? k := by
  rw [get?_changeAlert, get?_changeAlert, Option.map_map]
  refine (Option.map_congr (fun a ha => ?_)).trans Option.map_id'
  by_cases hk : k = alert.id
  · subst hk
    obtain rfl := Option.some.inj (hrow.symm.trans ha)
    simp [setNotified]
  · simp [hk]

/-- **What is done with an alert that is claimed**, as it was in the state `s` before the claim. -/
structure Told (x : Session) (now : Time) (d : DueAlert) (s : World × Nat) (success : Bool)
    (out : Except DbError Bool × (World × Nat)) : Prop where
  answer : ∀ b, out.1 = .ok b → b = success
  sent : out.2.1.sent = s.1.sent ++ if success then [(d.alert.id, now)] else []
  alerts : ∀ k, out.2.1.db.alerts.get? k
    = (s.1.db.alerts.get? k).map (fun a => if success = true ∧ k = d.alert.id then a.notified now else a)
  clock : out.2.1.clock = s.1.clock
  rest : out.2.1.db.besidesAlerts = s.1.db.besidesAlerts
  kept : ∀ n ∈ s.1.db.notificationLog.rows, n ∈ out.2.1.db.notificationLog.rows
  logged : ∀ b, out.1 = .ok b → ∃ n ∈ out.2.1.db.notificationLog.rows,
    n.alertId = d.alert.id ∧ n.userId = d.user.id ∧ n ∉ s.1.db.notificationLog.rows
  takes : (∀ n sms, (x.gateway n).success sms = true) → success = true

theorem heard_db (w : World) (sms : Sms) (success : Bool) : (w.heard sms success).db = w.db := by
  cases success <;> rfl

/-- The world in which an alert is claimed and told, or the claim is taken back. -/
theorem run_rollbackUnless (x : Session) (now : Time) (hrow : s.1.db.alerts.get? d.alert.id = some d.alert) (sms : Sms)
    (hid : sms.alertId = d.alert.id) (hnow : sms.claimedAt = now) (success : Bool) (n : Nat) : ∃ rows w,
    (rollbackUnless success now d.alert).run x.exec ((s.1.withDb (changeAlert s.1.db d.alert.id
        (setNotified (some now) (d.alert.notifiedCount + 1)))).heard sms success, n) = (.ok rows, (w, n)) ∧
      w.sent = s.1.sent ++ (if success then [(d.alert.id, now)] else []) ∧
      (∀ k, w.db.alerts.get? k
        = (s.1.db.alerts.get? k).map (fun a => if success = true ∧ k = d.alert.id then a.notified now else a)) ∧
      w.clock = s.1.clock ∧ w.db.besidesAlerts = s.1.db.besidesAlerts ∧
      w.db.notificationLog = s.1.db.notificationLog := by
  unfold rollbackUnless
  cases success with
  | true =>
    refine ⟨[], _, rfl, ?_, fun k => ?_, rfl, rfl, rfl⟩
    · show s.1.sent ++ [(sms.alertId, sms.claimedAt)] = _
      rw [hid, hnow]
      rfl
    · rw [heard_db]
      show (changeAlert s.1.db _ _).alerts.get? k = _
      rw [get?_changeAlert]
      refine Option.map_congr (fun a ha => ?_)
      by_cases hk : k = d.alert.id
      · subst hk
        obtain rfl := Option.some.inj (hrow.symm.trans ha)
        simp [setNotified, Alert.notified]
      · simp [hk]
  | false =>
    let claimed := (setNotified (some now) (d.alert.notifiedCount + 1)).apply d.alert
    have hclaimed : (changeAlert s.1.db d.alert.id (setNotified (some now) (d.alert.notifiedCount + 1))).alerts.get?
        claimed.id = some claimed := by
      rw [get?_changeAlert]
      show (s.1.db.alerts.get? d.alert.id).map _ = _
      rw [hrow]
      simp [claimed, setNotified]
    have hback := run_updateAlert (x := x) (s := ((s.1.withDb (changeAlert s.1.db d.alert.id
      (setNotified (some now) (d.alert.notifiedCount + 1)))), n)) hclaimed (fun a => decide (a.lastNotifiedAt = some now))
      (fun a => Bool.decide_and (a.id = claimed.id) (a.lastNotifiedAt = some now))
      (setNotified d.alert.lastNotifiedAt d.alert.notifiedCount)
    rw [if_pos (by simp [claimed, setNotified])] at hback
    refine ⟨_, _, hback, (List.append_nil _).symm, fun k => ?_, rfl, rfl, rfl⟩
    refine (get?_rollback hrow k).trans ?_
    simp

theorem run_notify (cfg : CheckConfig) (x : Session) (now : Time) (hrow : s.1.db.alerts.get? d.alert.id = some d.alert)
    (phone : String) :
    ∃ success, Told x now d s success ((notify now d (d.sms cfg now phone)).run x.exec (s.1.withDb
      (changeAlert s.1.db d.alert.id (setNotified (some now) (d.alert.notifiedCount + 1))), s.2)) := by
  obtain ⟨status, success, n, hsend, htakes⟩ := run_sendAlert (x := x) (d.sms cfg now phone) rfl (s.1.withDb
    (changeAlert s.1.db d.alert.id (setNotified (some now) (d.alert.notifiedCount + 1))), s.2)
  obtain ⟨rows, w, hback, hsent, halerts, hclock, hrest, hlog⟩ := run_rollbackUnless x now hrow
    (d.sms cfg now phone) rfl rfl success n
  obtain ⟨r, db, m, hrun, hrows, hbesides, hkept, hlogged⟩ := run_logNotification (x := x) d (d.sms cfg now phone) status
    (w, n)
  have hwhole : (notify now d (d.sms cfg now phone)).run x.exec (s.1.withDb (changeAlert s.1.db d.alert.id
      (setNotified (some now) (d.alert.notifiedCount + 1))), s.2) = (r.map (fun _ => success), (w.withDb db, m)) := by
    unfold notify
    rw [Prog.run_bind, hsend, Prog.onOk_ok]
    dsimp only
    rw [Prog.run_bind, hback, Prog.onOk_ok, Prog.run_bind, hrun]
    cases r <;> rfl
  rw [hwhole]
  refine ⟨success, ?_, hsent, ?_, hclock, hbesides.trans hrest, ?_, ?_, htakes⟩
  · intro b hb
    cases r with
    | ok _ => exact (Except.ok.inj hb).symm
    | error _ => cases hb
  · intro k
    show db.alerts.get? k = _
    rw [hrows]
    exact halerts k
  · intro e he
    exact hkept e (by rw [hlog]; exact he)
  · intro b hb
    rw [← hlog]
    cases r with
    | ok _ => exact hlogged _ rfl
    | error _ => cases hb

/-- What the loop goes on with, or stops with. -/
def Tally.next (t : Tally) (user : Uuid) (out : Except DbError Bool × (World × Nat)) :
    Except DbError Tally × (World × Nat) :=
  (out.1.map (fun success => if success then t.add user else t), out.2)

/-- The texts of a round. -/
theorem Told.texted {success : Bool} {out : Except DbError Bool × (World × Nat)} (h : Told x now d s success out)
    (hfull : t.userSmsCount d.user.id < maxSmsPerUser) (hphone : (normalizePhone cfg d.user.phone).isSome = true) :
    Texted cfg x now t [d] s (if success then [d] else []) (t.next d.user.id out) := by
  have hnext : ∀ t', (t.next d.user.id out).1 = .ok t' → t' = if success then t.add d.user.id else t := by
    intro t' ht'
    unfold Tally.next at ht'
    cases hout : out.1 with
    | error e =>
      rw [hout] at ht'
      cases ht'
    | ok b =>
      rw [hout] at ht'
      rw [← h.answer b hout]
      exact (Except.ok.inj ht').symm
  have hok : ∀ t', (t.next d.user.id out).1 = .ok t' → ∃ b, out.1 = .ok b := by
    intro t' ht'
    unfold Tally.next at ht'
    cases hout : out.1 with
    | error e =>
      rw [hout] at ht'
      cases ht'
    | ok b => exact ⟨b, rfl⟩
  have hone : ∀ d' ∈ (if success then [d] else []), d' = d := by
    intro d' hd'
    cases success with
    | false => exact absurd hd' List.not_mem_nil
    | true => exact List.mem_singleton.1 hd'
  refine ⟨?_, ?_, fun k => ?_, h.clock, h.rest, h.kept, fun d' hd' => ?_, fun u hu => ?_, fun t' ht' => ?_,
    fun t' ht' d' hd' => ?_, fun htakes t' _ d' hd' _ => ?_⟩
  · cases success <;> simp
  · refine h.sent.trans ?_
    cases success <;> rfl
  · refine (h.alerts k).trans ?_
    cases success <;> simp
  · rw [hone d' hd']
    exact hphone
  · cases success with
    | false => exact hu
    | true =>
      by_cases huser : d.user.id = u
      · subst huser
        rw [if_pos rfl, List.countP_singleton, if_pos (by simp)]
        exact hfull
      · rw [if_pos rfl, List.countP_singleton, if_neg (by simpa using huser)]
        exact hu
  · rw [hnext t' ht']
    cases success with
    | false => exact ⟨rfl, fun _ => rfl⟩
    | true =>
      refine ⟨rfl, fun u => ?_⟩
      rw [if_pos rfl, if_pos rfl, List.countP_singleton]
      show (if u = d.user.id then t.userSmsCount u + 1 else t.userSmsCount u) = _
      by_cases huser : d.user.id = u
      · rw [if_pos huser.symm, if_pos (decide_eq_true huser)]
      · rw [if_neg (Ne.symm huser), if_neg (by simpa using huser)]
        rfl
  · obtain ⟨b, hb⟩ := hok t' ht'
    rw [hone d' hd']
    exact h.logged b hb
  · obtain rfl := List.mem_singleton.1 hd'
    rw [h.takes htakes]
    exact Or.inl (List.mem_singleton_self d')

/-- **One alert of the loop.** -/
theorem run_fireAlert (cfg : CheckConfig) (x : Session) (t : Tally)
    (hrow : s.1.db.alerts.get? d.alert.id = some d.alert) (hactive : d.alert.active = true)
    (hcool : cooling now d.alert.lastNotifiedAt = false) :
    ∃ fired, Texted cfg x now t [d] s fired ((fireAlert cfg now t d).run x.exec s) := by
  unfold fireAlert
  by_cases hfull : maxSmsPerUser ≤ t.userSmsCount d.user.id
  · rw [if_pos hfull]
    exact ⟨[], .skip fun _ => hfull⟩
  rw [if_neg hfull]
  cases hphone : normalizePhone cfg d.user.phone with
  | none => exact ⟨[], .skip fun h => by rw [hphone] at h; cases h⟩
  | some phone =>
    dsimp only
    rw [Prog.run_bind, run_claim hrow hactive hcool, Prog.onOk_ok, Prog.run_ite, if_pos rfl, Prog.run_bind]
    obtain ⟨success, htold⟩ := run_notify cfg x now hrow phone
    generalize (notify now d (d.sms cfg now phone)).run x.exec _ = out at htold
    have hnext : (Prog.onOk out fun success s' => Prog.run x.exec (pure (if success then t.add d.user.id else t)) s')
        = t.next d.user.id out := by
      obtain ⟨r, s'⟩ := out
      cases r <;> rfl
    rw [hnext]
    exact ⟨_, htold.texted (not_le.1 hfull) (by rw [hphone]; rfl)⟩

/-- **The loop over alerts that are each as it is stored.** -/
theorem run_fireAlerts (cfg : CheckConfig) (x : Session) (now : Time) : ∀ (due : List DueAlert) (t : Tally)
    (s : World × Nat), (due.map (·.alert.id)).Nodup →
    (∀ d ∈ due, s.1.db.alerts.get? d.alert.id = some d.alert ∧ d.alert.active = true ∧
      cooling now d.alert.lastNotifiedAt = false) →
    ∃ fired, Texted cfg x now t due s fired ((due.foldlM (fireAlert cfg now) t : Check Tally).run x.exec s)
  | [], t, s, _, _ => ⟨[], {
      sublist := List.Sublist.refl _
      sent := (List.append_nil _).symm
      alerts := fun k => by simp [Prog.run_pure]
      clock := rfl
      rest := rfl
      kept := fun _ hn => hn
      phone := fun d' hd' => absurd hd' List.not_mem_nil
      capped := fun _ hu => hu
      tally := fun t' ht' => by
        obtain rfl := Except.ok.inj ht'
        exact ⟨rfl, fun _ => rfl⟩
      logged := fun _ _ d' hd' => absurd hd' List.not_mem_nil
      complete := fun _ _ _ d' hd' => absurd hd' List.not_mem_nil }⟩
  | d :: due, t, s, hnd, hrows => by
    obtain ⟨hrow, hactive, hcool⟩ := hrows d List.mem_cons_self
    obtain ⟨fired, hfirst⟩ := run_fireAlert cfg x t hrow hactive hcool
    rw [List.map_cons, List.nodup_cons] at hnd
    have hapart : ∀ d' ∈ due, d'.alert.id ≠ d.alert.id := fun d' hd' heq => hnd.1 (List.mem_map.2 ⟨d', hd', heq⟩)
    rw [List.foldlM_cons, Prog.run_bind]
    generalize (fireAlert cfg now t d).run x.exec s = out at hfirst
    obtain ⟨r, s'⟩ := out
    cases r with
    | error e => exact ⟨fired, hfirst.stop⟩
    | ok t' =>
      rw [Prog.onOk_ok]
      have hrows' : ∀ d' ∈ due, s'.1.db.alerts.get? d'.alert.id = some d'.alert ∧ d'.alert.active = true ∧
          cooling now d'.alert.lastNotifiedAt = false := by
        intro d' hd'
        obtain ⟨hrow', hrest⟩ := hrows d' (List.mem_cons_of_mem d hd')
        refine ⟨?_, hrest⟩
        rw [hfirst.alerts, hrow', Option.map_some, if_neg]
        intro hmem
        obtain ⟨d₁, hd₁, heq⟩ := List.mem_map.1 hmem
        obtain rfl := List.mem_singleton.1 (hfirst.sublist.subset hd₁)
        exact hapart d' hd' heq.symm
      obtain ⟨fired', hlater⟩ := run_fireAlerts cfg x now due t' s' hnd.2 hrows'
      exact ⟨fired ++ fired', hfirst.cons hlater hapart⟩

/-! ## A run -/

/-- The database after the sweep. -/
def sweptDb (now : Time) (db : DB) : DB :=
  alerts.set db (db.alerts.update (fun a => a.active ∧ a.expiresAt.any (fun t => t < now)) deactivate)

theorem get?_sweptDb (db : DB) (now : Time) (k : Uuid) :
    (sweptDb now db).alerts.get? k = (db.alerts.get? k).map (Alert.swept now) := by
  show (db.alerts.update _ deactivate).get? k = _
  rw [Table.get?_update]
  refine Option.map_congr (fun a _ => ?_)
  unfold Alert.swept Alert.expired
  by_cases h : a.active = true ∧ a.expiresAt.any (fun t => decide (t < now)) = true
  · rw [if_pos (decide_eq_true h), if_pos (by rw [h.1, h.2]; rfl)]
    rfl
  · rw [if_neg (by simpa using h), if_neg (by simpa using h)]

/-- **The alerts a run finds due** are those that are, as they are stored. -/
theorem run_dueAlerts_eq (cfg : CheckConfig) (x : Session) (w : World) (n : Nat) : ∃ due,
    (dueAlerts cfg w.clock).run x.exec (w, n) = (.ok due, (w.withDb (sweptDb w.clock w.db), n)) ∧
      (due.map (·.alert.id)).Nodup ∧
      (∀ d ∈ due, (sweptDb w.clock w.db).alerts.get? d.alert.id = some d.alert ∧ d.alert.active = true ∧
        cooling w.clock d.alert.lastNotifiedAt = false ∧
        ((normalizePhone cfg d.user.phone).isSome = true → Due cfg x w d.alert d.user)) ∧
      ∀ a user, Due cfg x w a user → ∃ d ∈ due, d.alert = a ∧ d.user = user := by
  let db := sweptDb w.clock w.db
  let rows := x.order.order (db.alerts.rows.filter (fun a => a.active))
  let users := x.order.order (db.userProfiles.rows.filter (fun u => u.id ∈ rows.map (·.userId)))
  let comms := x.order.order (db.commodities.rows.filter (fun c => c.id ∈ rows.map (·.commodityId)))
  have hrun : (dueAlerts cfg w.clock).run x.exec (w, n)
      = (.ok (rows.filterMap (dueOf cfg x db w.clock users comms)), (w.withDb db, n)) := by
    unfold dueAlerts
    rw [Prog.run_bind, run_onDb]
    show Prog.run x.exec (onDb _ >>= _) (w.withDb db, n) = _
    rw [Prog.run_bind, run_onDb]
    show Prog.run x.exec (if rows = [] then _ else _) (w.withDb db, n) = _
    rw [Prog.run_ite]
    split
    · rename_i hnil
      rw [hnil]
      rfl
    · exact Prog.run_filterMap_eq x.exec (fun alert => run_dueAlert_eq users comms (w.withDb db, n) alert) rows
  have hmem : ∀ a, a ∈ rows ↔ a ∈ db.alerts.rows ∧ a.active = true := fun a => x.order.mem_order.trans List.mem_filter
  have hget : ∀ a, a ∈ rows → w.db.alerts.get? a.id = some a ∧ a.expired w.clock = false := by
    intro a ha
    obtain ⟨hrow, hactive⟩ := (hmem a).1 ha
    have hstored : w.db.alerts.get? a.id = some a := Table.get?_of_mem (mem_of_active hrow hactive).1
    have hswept := get?_sweptDb w.db w.clock a.id
    rw [show (sweptDb w.clock w.db).alerts.get? a.id = some a from Table.get?_of_mem hrow, hstored,
      Option.map_some] at hswept
    refine ⟨hstored, ?_⟩
    unfold Alert.swept at hswept
    split at hswept
    · rw [Option.some.inj hswept] at hactive
      cases hactive
    · simp_all
  have huser : ∀ a ∈ rows, users.find? (fun u => u.id = a.userId) = w.db.userProfiles.get? a.userId := fun a ha =>
    RowOrder.find?_order_filter x.order db.userProfiles _ a.userId
      (fun u hu => decide_eq_true (List.mem_map.2 ⟨a, ha, hu.symm⟩))
  have hcomm : ∀ a ∈ rows, comms.find? (fun c => c.id = a.commodityId) = w.db.commodities.get? a.commodityId :=
    fun a ha => RowOrder.find?_order_filter x.order db.commodities _ a.commodityId
      (fun c hc => decide_eq_true (List.mem_map.2 ⟨a, ha, hc.symm⟩))
  refine ⟨_, hrun, ?_, fun d hd => ?_, fun a user hdue => ?_⟩
  · have hrows : rows.Pairwise (fun a a' => a.id ≠ a'.id) := by
      refine List.pairwise_map.1 ?_
      exact (((x.order.perm _).map Alert.id).nodup_iff).2 (db.alerts.nodup.sublist (List.filter_sublist.map Alert.id))
    refine List.pairwise_map.2 (List.pairwise_filterMap.2 (hrows.imp (fun hne d hd d' hd' => ?_)))
    rw [(dueOf_eq_some hd).1, (dueOf_eq_some hd').1]
    exact hne
  · obtain ⟨a, ha, hda⟩ := List.mem_filterMap.1 hd
    obtain ⟨rfl, hcool, hu, hc, hcross⟩ := dueOf_eq_some hda
    obtain ⟨hrow, hactive⟩ := (hmem _).1 ha
    obtain ⟨hstored, hunexpired⟩ := hget _ ha
    rw [huser _ ha] at hu
    rw [hcomm _ ha] at hc
    exact ⟨Table.get?_of_mem hrow, hactive, hcool, fun hphone =>
      ⟨hstored, hactive, hunexpired, hcool, hu, hphone, by rw [hc]; rfl, hcross⟩⟩
  · have ha : a ∈ rows := by
      refine (hmem a).2 ⟨?_, hdue.active⟩
      refine Table.mem_of_get? (k := a.id) ?_
      show (sweptDb w.clock w.db).alerts.get? a.id = some a
      rw [get?_sweptDb, hdue.alert, Option.map_some, Alert.swept, if_neg (by simp [hdue.unexpired])]
    obtain ⟨commodity, hcommodity⟩ := Option.isSome_iff_exists.1 hdue.commodity
    obtain ⟨d, hd, rfl, rfl⟩ := exists_dueOf db users comms hdue.warm
      ((huser a ha).trans hdue.owner) ((hcomm a ha).trans hcommodity) hdue.crossing
    exact ⟨d, List.mem_filterMap.2 ⟨_, ha, hd⟩, rfl, rfl⟩

/-- What the run answers, once the loop ended with its tally or stopped. -/
def summed (out : Except DbError Tally × (World × Nat)) : Except DbError CheckSummary × (World × Nat) :=
  Prog.onOk out (fun t s => (.ok ⟨"ok", t.firedCount⟩, s))

theorem summed_snd (out : Except DbError Tally × (World × Nat)) : (summed out).2 = out.2 := by
  obtain ⟨r, s⟩ := out
  cases r <;> rfl

theorem summed_ok {out : Except DbError Tally × (World × Nat)} {summary : CheckSummary}
    (h : (summed out).1 = .ok summary) : ∃ t, out.1 = .ok t ∧ summary = ⟨"ok", t.firedCount⟩ := by
  obtain ⟨r, s⟩ := out
  cases r with
  | error e => cases h
  | ok t => exact ⟨t, rfl, (Except.ok.inj h).symm⟩

/-- A run is the loop over what is due. -/
theorem run_fired (cfg : CheckConfig) (x : Session) (w : World) : ∃ due fired out,
    (AlertChecker.run cfg w.clock).run x.exec (w, 0) = summed out ∧
      Texted cfg x w.clock ⟨fun _ => 0, 0⟩ due (w.withDb (sweptDb w.clock w.db), 0) fired out ∧
      (due.map (·.alert.id)).Nodup ∧ (∀ d ∈ fired, Due cfg x w d.alert d.user) ∧
      ∀ a user, Due cfg x w a user → ∃ d ∈ due, d.alert = a ∧ d.user = user := by
  obtain ⟨due, hrun, hnd, hdue, hall⟩ := run_dueAlerts_eq cfg x w 0
  obtain ⟨fired, hfired⟩ := run_fireAlerts cfg x w.clock due ⟨fun _ => 0, 0⟩
    (w.withDb (sweptDb w.clock w.db), 0) hnd (fun d hd => ⟨(hdue d hd).1, (hdue d hd).2.1, (hdue d hd).2.2.1⟩)
  refine ⟨due, fired, _, ?_, hfired, hnd, fun d hd => ?_, hall⟩
  · unfold AlertChecker.run
    rw [Prog.run_bind, hrun, Prog.onOk_ok, Prog.run_ite]
    split
    · rename_i hnil
      rw [hnil]
      rfl
    · rw [Prog.run_bind]
      rfl
  · exact (hdue d (hfired.sublist.subset hd)).2.2.2 (hfired.phone d hd)

/-- **What a run changes**, that texts the alerts `texts` in this order. -/
structure CheckEffect (cfg : CheckConfig) (x : Session) (w : World) (texts : List (Alert × UserProfile)) (w' : World) :
    Prop where
  due : ∀ d ∈ texts, Due cfg x w d.1 d.2
  once : (texts.map (·.1.id)).Nodup
  sent : w'.sent = w.sent ++ texts.map (fun d => (d.1.id, w.clock))
  alerts : ∀ k, w'.db.alerts.get? k = (w.db.alerts.get? k).map (fun a =>
    if k ∈ texts.map (·.1.id) then a.notified w.clock else a.swept w.clock)
  rest : w'.db.besidesAlerts = w.db.besidesAlerts
  clock : w'.clock = w.clock

def DueAlert.text (d : DueAlert) : Alert × UserProfile := (d.alert, d.user)

theorem effect_of_fired {w : World} {due fired : List DueAlert} {out : Except DbError Tally × (World × Nat)}
    (hfired : Texted cfg x w.clock ⟨fun _ => 0, 0⟩ due (w.withDb (sweptDb w.clock w.db), 0) fired out)
    (hnd : (due.map (·.alert.id)).Nodup) (hof : ∀ d ∈ fired, Due cfg x w d.alert d.user) :
    CheckEffect cfg x w (fired.map DueAlert.text) out.2.1 := by
  have hids : (fired.map DueAlert.text).map (·.1.id) = fired.map (·.alert.id) := List.map_map
  refine ⟨?_, ?_, ?_, fun k => ?_, hfired.rest, hfired.clock⟩
  · intro d hd
    obtain ⟨d', hd', rfl⟩ := List.mem_map.1 hd
    exact hof d' hd'
  · rw [hids]
    exact hnd.sublist (hfired.sublist.map _)
  · rw [hfired.sent, List.map_map]
    rfl
  · rw [hfired.alerts, hids]
    show ((sweptDb w.clock w.db).alerts.get? k).map _ = _
    rw [get?_sweptDb, Option.map_map]
    refine Option.map_congr (fun a ha => ?_)
    by_cases hk : k ∈ fired.map (·.alert.id)
    · obtain ⟨d, hd, rfl⟩ := List.mem_map.1 hk
      obtain rfl := Option.some.inj ((hof d hd).alert.symm.trans ha)
      rw [Function.comp_apply, if_pos hk, if_pos hk, Alert.swept, if_neg (by simp [(hof d hd).unexpired])]
    · rw [Function.comp_apply, if_neg hk, if_neg hk]

theorem checkOnce_effect (cfg : CheckConfig) (x : Session) (w : World) :
    ∃ texts, CheckEffect cfg x w texts (checkOnce cfg x w) := by
  obtain ⟨due, fired, out, hrun, hfired, hnd, hof, -⟩ := run_fired cfg x w
  refine ⟨fired.map DueAlert.text, ?_⟩
  unfold checkOnce
  rw [hrun, summed_snd]
  exact effect_of_fired hfired hnd hof

/-- **What a run does, to its end**, with what it answers: it texts a user three times at most; if it ends, it has logged
its texts and counted them; and if the gateway took all it got, no alert that was due is left without a text but those of
users who got three. -/
structure CheckDone (cfg : CheckConfig) (x : Session) (w : World) (texts : List (Alert × UserProfile))
    (out : Except DbError CheckSummary × (World × Nat)) : Prop extends CheckEffect cfg x w texts out.2.1 where
  capped : ∀ u, texts.countP (fun d => d.2.id = u) ≤ maxSmsPerUser
  kept : ∀ n ∈ w.db.notificationLog.rows, n ∈ out.2.1.db.notificationLog.rows
  logged : ∀ summary, out.1 = .ok summary → ∀ d ∈ texts, ∃ n ∈ out.2.1.db.notificationLog.rows,
    n.alertId = d.1.id ∧ n.userId = d.2.id ∧ n ∉ w.db.notificationLog.rows
  fired : ∀ summary, out.1 = .ok summary → summary = ⟨"ok", texts.length⟩
  complete : (∀ n sms, (x.gateway n).success sms = true) → ∀ summary, out.1 = .ok summary → ∀ a user, Due cfg x w a user →
    (a, user) ∈ texts ∨ texts.countP (fun d => d.2.id = user.id) = maxSmsPerUser

/-- **One run of the checker, exactly.** -/
theorem check_done (cfg : CheckConfig) (x : Session) (w : World) :
    ∃ texts, CheckDone cfg x w texts ((AlertChecker.run cfg w.clock).run x.exec (w, 0)) := by
  obtain ⟨due, fired, out, hrun, hfired, hnd, hof, hall⟩ := run_fired cfg x w
  have heffect := effect_of_fired hfired hnd hof
  have hcount : ∀ u, (fired.map DueAlert.text).countP (fun d => d.2.id = u) = fired.countP (fun d => d.user.id = u) :=
    fun u => List.countP_map
  have hcapped : ∀ u, fired.countP (fun d => d.user.id = u) ≤ maxSmsPerUser := fun u => by
    simpa using hfired.capped u (Nat.zero_le _)
  rw [hrun]
  rw [← summed_snd out] at heffect
  refine ⟨fired.map DueAlert.text, heffect, fun u => ?_, ?_, fun summary hs d hd => ?_, fun summary hs => ?_,
    fun htakes summary hs a user ha => ?_⟩
  · rw [hcount]
    exact hcapped u
  · rw [summed_snd]
    exact hfired.kept
  · obtain ⟨t, ht, -⟩ := summed_ok hs
    obtain ⟨d', hd', rfl⟩ := List.mem_map.1 hd
    rw [summed_snd]
    exact hfired.logged t ht d' hd'
  · obtain ⟨t, ht, rfl⟩ := summed_ok hs
    rw [(hfired.tally t ht).1, Nat.zero_add, List.length_map]
  · obtain ⟨t, ht, -⟩ := summed_ok hs
    obtain ⟨d, hd, rfl, rfl⟩ := hall a user ha
    refine (hfired.complete htakes t ht d hd ha.phone).imp (fun hmem => ?_) (fun hfull => ?_)
    · exact List.mem_map.2 ⟨d, hmem, rfl⟩
    · rw [(hfired.tally t ht).2, Nat.zero_add] at hfull
      rw [hcount]
      exact le_antisymm (hcapped d.user.id) hfull

end Check
end Krishi
