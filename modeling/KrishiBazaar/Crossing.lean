import KrishiBazaar.Checkers
import KrishiBazaar.Lib.Run
import Mathlib.Data.List.Induction
/-!
# Crossing — one message for each crossing, and when there are two

Checks one after the other.  Which crossing a check finds is read off the last two points of the alert's series, each
time anew; all that is remembered of a message is when its claim was made.  So a crossing that the series still ends with
more than 24 hours after its message is sent again (`breach_sent_twice`).  There is no other way: a run in which every
crossing found more than 24 hours after the last notification is new since then sends each crossing at most once
(`sent_once`).
-/
namespace Krishi

open Lib

/-- The dates of the last two points, if the prices between them cross the alert's threshold. -/
def crossing (ar : Arith) (alert : Alert) (series : DailySeries) : Option (Date × Date) :=
  match lastTwo series with
  | none => none
  | some (prev, latest) =>
    if isCrossing alert.condition (ar.round alert.thresholdPrice) prev.2 latest.2 then some (prev.1, latest.1) else none

/-! ## What a check finds -/

def marketOf (cfg : CheckConfig) (o : RowOrder) (db : DB) (alert : Alert) (user : UserProfile) : Option Uuid × Scope :=
  match alert.marketId, user.lat, user.lng with
  | some marketId, _, _ => (some marketId, .direct)
  | none, some _, some _ => withinReach (nearestRows cfg o db)
  | none, _, _ => (none, .direct)

def historyOf (cfg : CheckConfig) (x : Session) (db : DB) (alert : Alert) (p : Price → Prop) [DecidablePred p] :
    List SeriesRow :=
  (x.order.order (db.prices.rows.filter (fun r =>
    r.commodityId = alert.commodityId ∧ x.today - historyDays ≤ r.arrivalDate ∧ p r))).map
    (fun r => r.seriesRow.read cfg.arith)

/-- The series an alert watches, in a database that does not change while it is read. -/
def seriesOf (cfg : CheckConfig) (x : Session) (db : DB) (alert : Alert) (user : UserProfile) : Scope × DailySeries :=
  match marketOf cfg x.order db alert user with
  | (some marketId, scopeNote) => (scopeNote, buildDailySeries (historyOf cfg x db alert (fun r => r.marketId = marketId)))
  | (none, _) =>
    let marketRows := x.order.order (db.markets.rows.filter (fun m => m.district = user.district ∧ m.isActive))
    if marketRows = [] then (.districtMean, [])
    else (.districtMean, buildDistrictDailySeries cfg.arith
      (historyOf cfg x db alert (fun r => r.marketId ∈ marketRows.map (·.id))))

/-- A check looks at the alert: it is on, and has not expired. -/
def Alert.watched (now : Time) (alert : Alert) : Bool := alert.active ∧ ¬ alert.expiresAt.any (fun t => t < now)

/-- **The crossing a check finds for an alert that it looks at**: the last two dates of its series. -/
def found (cfg : CheckConfig) (x : Session) (w : World) (a : Uuid) : Option (Date × Date) :=
  ((w.db.alerts.get? a).filter (·.watched w.clock)).bind (fun alert =>
    (w.db.userProfiles.get? alert.userId).bind (fun user =>
      crossing cfg.arith alert (seriesOf cfg x w.db alert user).2))

section Check

variable {cfg : CheckConfig} {x : Session} {w : World} {n : Nat} {a : Uuid} {now : Time}

theorem run_onDb {ρ : Type} (op : Op DB ρ) (s : World × Nat) : (onDb op).run x.exec s =
    ((exec x.order (id : DbError → DbError) op s.1.db).1, s.1.withDb (exec x.order (id : DbError → DbError) op s.1.db).2,
      s.2) := Prog.run_perform _ _ _

theorem run_resolveMarket (alert : Alert) (user : UserProfile) (s : World × Nat) :
    (resolveMarket cfg alert user).run x.exec s = (.ok (marketOf cfg x.order s.1.db alert user), s) := by
  unfold resolveMarket marketOf
  cases alert.marketId with
  | some marketId => rfl
  | none => cases user.lat <;> cases user.lng <;> rfl

theorem run_resolvedSeries (alert : Alert) (user : UserProfile) (s : World × Nat) :
    (resolvedSeries cfg alert user).run x.exec s = (.ok (seriesOf cfg x s.1.db alert user), s) := by
  unfold resolvedSeries seriesOf
  rw [Prog.run_bind, Prog.run_perform]
  show Prog.run x.exec (resolveMarket cfg alert user >>= _) s = _
  rw [Prog.run_bind, run_resolveMarket, Prog.onOk_ok]
  rcases marketOf cfg x.order s.1.db alert user with ⟨marketId, scopeNote⟩
  cases marketId with
  | some marketId => rfl
  | none =>
    show Prog.run x.exec (onDb _ >>= _) s = _
    rw [Prog.run_bind, run_onDb]
    show Prog.run x.exec (if _ then _ else _) s = _
    rw [Prog.run_ite]
    split
    · rw [if_pos (by assumption)]
      rfl
    · rw [if_neg (by assumption)]
      rfl

theorem run_dueAlert (cfg : CheckConfig) (x : Session) (now : Time) (users : List UserProfile) (comms : List Commodity)
    (alert : Alert) (s : World × Nat) :
    ∃ r, (dueAlert cfg now users comms alert).run x.exec s = (.ok r, s) ∧ ∀ d ∈ r, d.alert = alert ∧
      d.user ∈ users ∧ d.user.id = alert.userId ∧
        crossing cfg.arith alert (seriesOf cfg x s.1.db alert d.user).2 ≠ none := by
  unfold dueAlert
  split
  · exact ⟨none, rfl, fun d hd => by cases hd⟩
  · split
    · rename_i user commodity huser hcomm
      have hcheck : (checkCrossing cfg alert user).run x.exec s =
          (.ok (match lastTwo (seriesOf cfg x s.1.db alert user).2 with
            | none => (false, (seriesOf cfg x s.1.db alert user).1, 0)
            | some (prev, latest) => (isCrossing alert.condition (cfg.arith.round alert.thresholdPrice) prev.2 latest.2,
              (seriesOf cfg x s.1.db alert user).1, latest.2)), s) := by
        unfold checkCrossing
        rw [Prog.run_bind, run_resolvedSeries, Prog.onOk_ok]
        show Prog.run x.exec (match lastTwo (seriesOf cfg x s.1.db alert user).2 with
          | none => _
          | some (prev, latest) => _) s = _
        cases lastTwo (seriesOf cfg x s.1.db alert user).2 <;> rfl
      rw [Prog.run_bind, hcheck, Prog.onOk_ok]
      refine ⟨_, rfl, fun d hd => ?_⟩
      unfold crossing
      cases hlast : lastTwo (seriesOf cfg x s.1.db alert user).2 with
      | none =>
        simp only [hlast] at hd
        cases hd
      | some pts =>
        simp only [hlast] at hd
        split at hd
        · rename_i hcross
          obtain rfl := Option.some.inj hd
          refine ⟨rfl, List.mem_of_find?_eq_some huser, by simpa using List.find?_some huser, ?_⟩
          simp [hlast, hcross]
        · cases hd
    · exact ⟨none, rfl, fun d hd => by cases hd⟩

/-- An active alert was not deactivated: it is as it was before. -/
theorem mem_of_active {p : Alert → Bool} {t : Table Alert.id Alert.check} {alert : Alert}
    (h : alert ∈ (t.update p deactivate).rows) (hactive : alert.active = true) :
    alert ∈ t.rows ∧ ¬ p alert = true := by
  obtain ⟨r, hr, rfl⟩ := Table.mem_update.1 h
  split at hactive
  · cases hactive
  · rename_i hp
    rw [if_neg hp]
    exact ⟨hr, hp⟩

/-- **A check finds a crossing for every alert that is due**, and has sent nothing yet. -/
theorem run_dueAlerts (cfg : CheckConfig) (x : Session) (w : World) (n : Nat) :
    ∃ due db, (dueAlerts cfg w.clock).run x.exec (w, n) = (.ok due, (w.withDb db, n)) ∧
      ∀ d ∈ due, found cfg x w d.alert.id ≠ none := by
  let db := alerts.set w.db (w.db.alerts.update (fun a => a.active ∧ a.expiresAt.any (fun t => t < w.clock)) deactivate)
  let rows := x.order.order (db.alerts.rows.filter (fun a => a.active))
  let users := x.order.order (db.userProfiles.rows.filter (fun u => u.id ∈ rows.map (·.userId)))
  let comms := x.order.order (db.commodities.rows.filter (fun c => c.id ∈ rows.map (·.commodityId)))
  have hrun : (dueAlerts cfg w.clock).run x.exec (w, n) = if rows = [] then (.ok [], (w.withDb db, n)) else
      (Prog.filterMap (dueAlert cfg w.clock users comms) rows).run x.exec (w.withDb db, n) := by
    unfold dueAlerts
    rw [Prog.run_bind, run_onDb]
    show Prog.run x.exec (onDb _ >>= _) (w.withDb db, n) = _
    rw [Prog.run_bind, run_onDb]
    exact Prog.run_ite x.exec (rows = []) _ _ _
  obtain ⟨due, hdue, hfrom⟩ := Prog.run_filterMap x.exec (l := rows)
    (fun alert _ => run_dueAlert cfg x w.clock users comms alert (w.withDb db, n))
  rw [hrun]
  by_cases hnil : rows = []
  · rw [if_pos hnil]
    exact ⟨[], db, rfl, fun d hd => absurd hd List.not_mem_nil⟩
  · rw [if_neg hnil]
    refine ⟨due, db, hdue, fun d hd => ?_⟩
    obtain ⟨alert, halert, rfl, huser, hid, hcross⟩ := hfrom d hd
    have hactive := List.mem_filter.1 (x.order.mem_order.1 halert)
    obtain ⟨hmem, hlive⟩ := mem_of_active hactive.1 hactive.2
    have hget : w.db.alerts.get? d.alert.id = some d.alert := Table.get?_of_mem hmem
    have hwatched : d.alert.watched w.clock = true := by
      simp only [hactive.2, decide_eq_true_eq, true_and] at hlive
      simpa [Alert.watched, hactive.2] using hlive
    have hprofile : w.db.userProfiles.get? d.alert.userId = some d.user := by
      rw [← hid]
      exact Table.get?_of_mem (List.mem_filter.1 (x.order.mem_order.1 huser)).1
    rw [found, hget, Option.filter_some, if_pos hwatched, Option.bind_some, hprofile, Option.bind_some]
    exact hcross

/-- **What a check adds to an alert's messages**: claims of its own time, and none if it finds no crossing. -/
theorem sentTo_checkOnce (cfg : CheckConfig) (x : Session) (w : World) (a : Uuid) :
    ∃ k, (checkOnce cfg x w).sentTo a = w.sentTo a ++ List.replicate k w.clock ∧ (k ≠ 0 → found cfg x w a ≠ none) := by
  obtain ⟨due, db, hrun, hfound⟩ := run_dueAlerts cfg x w 0
  let C : ∀ {ρ : Type}, CheckOp ρ → Prop := fun op => ∃ d ∈ due, FireCall w.clock d op
  let I : World × Nat → Prop := fun s =>
    ∃ k, s.1.sentTo a = w.sentTo a ++ List.replicate k w.clock ∧ (k ≠ 0 → found cfg x w a ≠ none)
  have hstep : ∀ {ρ : Type} (op : CheckOp ρ) (s : World × Nat), C op → I s → I (x.exec op s).2 := by
    rintro ρ op s ⟨d, hd, hop⟩ ⟨k, hk, hcross⟩
    cases hop with
    | @send sms ha hnow =>
      show ∃ k, (s.1.hear sms (x.gateway s.2)).sentTo a = _ ∧ _
      rw [sentTo_hear]
      split
      · rename_i hsent
        refine ⟨k + 1, ?_, fun _ => ?_⟩
        · rw [hk, hnow, List.append_assoc, List.replicate_succ']
        · rw [← hsent.2, ha]
          exact hfound d hd
      · exact ⟨k, hk, hcross⟩
    | _ => exact ⟨k, hk, hcross⟩
  have hfire : ((due.foldlM (fireAlert cfg w.clock) ⟨fun _ => 0, 0⟩ : Check Tally) >>= fun t =>
      pure (CheckSummary.mk "ok" t.firedCount)).All C (fun _ => True) := by
    refine Prog.All.bind (Prog.All.foldlM (I := fun _ => True) trivial (fun d hd t _ => ?_))
      (fun _ _ => Prog.All.pure trivial)
    exact Prog.All.imp (fun op hop => ⟨d, hd, hop⟩) (fireAlert_calls cfg w.clock t d)
  have hI : I (w.withDb db, 0) := ⟨0, (List.append_nil _).symm, fun h => absurd rfl h⟩
  unfold checkOnce AlertChecker.run
  rw [Prog.run_bind, hrun, Prog.onOk_ok, Prog.run_ite]
  split
  · exact hI
  · exact Prog.All.inv x.exec hstep _ _ hfire hI

end Check

/-! ## Checks over time -/

/-- A check, or anything else that leaves the given world. -/
inductive Moment
  | check (x : Session)
  | meanwhile (w : World)

def pass (cfg : CheckConfig) (w : World) : Moment → World
  | .check x => checkOnce cfg x w
  | .meanwhile w' => w'

/-- What may happen between two checks, as alert `a` goes: time passes, prices of later dates arrive, and the alert keeps
its threshold and its condition. -/
structure Meanwhile (a : Uuid) (w w' : World) : Prop where
  clock_le : w.clock ≤ w'.clock
  sent : w'.sent = w.sent
  kept : ∀ m, mark w.db a = some m → mark w'.db a = some m
  prices : ∃ rows, w'.db.prices.rows = w.db.prices.rows ++ rows ∧ ∀ new ∈ rows, ∀ old ∈ w.db.prices.rows,
    new.marketId = old.marketId → new.commodityId = old.commodityId → old.arrivalDate < new.arrivalDate
  threshold : ∀ alert, w.db.alerts.get? a = some alert → ∃ alert', w'.db.alerts.get? a = some alert' ∧
    alert'.thresholdPrice = alert.thresholdPrice ∧ alert'.condition = alert.condition

def Allowed (a : Uuid) (w : World) : Moment → Prop
  | .check _ => True
  | .meanwhile w' => Meanwhile a w w'

/-- When each check ran, and the crossing it found. -/
def checksOf (cfg : CheckConfig) (a : Uuid) : World → List Moment → List (Time × Option (Date × Date))
  | _, [] => []
  | w, .check x :: ms => (w.clock, found cfg x w a) :: checksOf cfg a (checkOnce cfg x w) ms
  | _, .meanwhile w' :: ms => checksOf cfg a w' ms

/-- For each successful message, when the check that sent it ran and the crossing that check found. -/
def messagesOf (cfg : CheckConfig) (a : Uuid) : World → List Moment → List (Time × Option (Date × Date))
  | _, [] => []
  | w, .check x :: ms => List.replicate (((checkOnce cfg x w).sentTo a).length - (w.sentTo a).length)
      (w.clock, found cfg x w a) ++ messagesOf cfg a (checkOnce cfg x w) ms
  | _, .meanwhile w' :: ms => messagesOf cfg a w' ms

variable {cfg : CheckConfig} {a : Uuid}

theorem run_after : ∀ (ms : List Moment) (w : World), Along (pass cfg) (Allowed a) w ms →
    (checkers cfg a).Run (w, 0) (after (pass cfg) w ms, 0)
  | [], _, _ => Relation.ReflTransGen.refl
  | .check x :: ms, w, h => (run_checkOnce cfg a x w).trans (run_after ms _ h.2)
  | .meanwhile w' :: ms, w, h => by
    have hout : Elsewhere a w 0 w' := ⟨h.1.clock_le, fun _ hx => absurd hx (Multiset.notMem_zero _), h.1.sent, h.1.kept⟩
    exact (Relation.ReflTransGen.single (Pool.Step.outside hout)).trans (run_after ms w' h.2)

/-- The messages of a run are the claims it adds. -/
theorem sentTo_after : ∀ (ms : List Moment) (w : World), Along (pass cfg) (Allowed a) w ms →
    (after (pass cfg) w ms).sentTo a = w.sentTo a ++ (messagesOf cfg a w ms).map (·.1)
  | [], w, _ => (List.append_nil _).symm
  | .check x :: ms, w, h => by
    obtain ⟨k, hk, -⟩ := sentTo_checkOnce cfg x w a
    have hlen : ((checkOnce cfg x w).sentTo a).length - (w.sentTo a).length = k := by
      rw [hk, List.length_append, List.length_replicate]
      omega
    rw [messagesOf, hlen, List.map_append, List.map_replicate, ← List.append_assoc, ← hk]
    exact sentTo_after ms _ h.2
  | .meanwhile w' :: ms, w, h => by
    have hsent : w'.sentTo a = w.sentTo a := by rw [World.sentTo, h.1.sent, World.sentTo]
    rw [messagesOf, ← hsent]
    exact sentTo_after ms w' h.2

/-- Every message was sent by a check that found a crossing. -/
theorem mem_checksOf : ∀ (ms : List Moment) (w : World), ∀ m ∈ messagesOf cfg a w ms,
    m ∈ checksOf cfg a w ms ∧ m.2 ≠ none
  | [], _, m, hm => absurd hm List.not_mem_nil
  | .check x :: ms, w, m, hm => by
    rcases List.mem_append.1 hm with hm | hm
    · obtain ⟨k, hk, hcross⟩ := sentTo_checkOnce cfg x w a
      obtain ⟨hpos, rfl⟩ := List.mem_replicate.1 hm
      refine ⟨List.mem_cons_self, hcross ?_⟩
      rintro rfl
      rw [hk] at hpos
      simp at hpos
    · exact (mem_checksOf ms _ m hm).imp_left (List.mem_cons_of_mem _)
  | .meanwhile w' :: ms, w, m, hm => mem_checksOf ms w' m hm

theorem messagesOf_append (cfg : CheckConfig) (a : Uuid) : ∀ (w : World) (pre post : List Moment),
    messagesOf cfg a w (pre ++ post) = messagesOf cfg a w pre ++ messagesOf cfg a (after (pass cfg) w pre) post
  | _, [], _ => rfl
  | w, .check x :: pre, post => by
    rw [List.cons_append, messagesOf, messagesOf, messagesOf_append cfg a _ pre post, List.append_assoc]
    rfl
  | _, .meanwhile w' :: pre, post => messagesOf_append cfg a w' pre post

/-- **The crossings are fresh**: a check that finds a crossing which a check up to the alert's last notification had
found runs within 24 hours of that notification. -/
def Fresh (cfg : CheckConfig) (a : Uuid) (w : World) (ms : List Moment) : Prop :=
  ∀ pre x post, ms = pre ++ .check x :: post → ∀ c ∈ checksOf cfg a w pre, c.2 ≠ none →
    c.2 = found cfg x (after (pass cfg) w pre) a →
      ∀ alert ∈ (after (pass cfg) w pre).db.alerts.get? a, ∀ t ∈ alert.lastNotifiedAt, c.1 ≤ t →
        (after (pass cfg) w pre).clock ≤ t + cooldown

theorem Fresh.init {w : World} {ms : List Moment} {m : Moment} (h : Fresh cfg a w (ms ++ [m])) : Fresh cfg a w ms := by
  intro pre x post hms
  exact h pre x (post ++ [m]) (by rw [hms, List.append_assoc, List.cons_append])

/-- **A check sends no crossing that was sent before**, if it is fresh. -/
theorem not_sent_before {w : World} {ms : List Moment} {alert : Alert} {x : Session} {k : Nat}
    (halert : w.db.alerts.get? a = some alert) (hsent : w.sent = []) (hms : Along (pass cfg) (Allowed a) w ms)
    (hfresh : Fresh cfg a w (ms ++ [.check x])) (hspaced : Spaced ((after (pass cfg) w ms).sentTo a ++
      List.replicate (k + 1) (after (pass cfg) w ms).clock)) :
    found cfg x (after (pass cfg) w ms) a ∉ (messagesOf cfg a w ms).map (·.2) := by
  intro hmem
  obtain ⟨m, hm, heq⟩ := List.mem_map.1 hmem
  obtain ⟨hcheck, hcross⟩ := mem_checksOf ms w m hm
  have htimes : (after (pass cfg) w ms).sentTo a = (messagesOf cfg a w ms).map (·.1) := by
    rw [sentTo_after ms w hms, World.sentTo, hsent]
    rfl
  have hmt : m.1 ∈ (after (pass cfg) w ms).sentTo a := htimes ▸ List.mem_map_of_mem hm
  obtain ⟨ls, hheld, hquiet⟩ := held_of_run halert hsent (run_after ms w hms)
  obtain rfl := hquiet rfl
  -- the alert remembers the last message
  obtain ⟨pre, t, hlast⟩ := exists_snoc_of_mem hmt
  have hget : ((after (pass cfg) w ms).sentTo a).getLast? = some t := by rw [hlast, List.getLast?_append]; rfl
  have hmark : mark (after (pass cfg) w ms).db a = some (settled alert.mark ((after (pass cfg) w ms).sentTo a)) :=
    hheld.settled (Multiset.countP_zero _)
  obtain ⟨alert', halert', hcols⟩ := Option.map_eq_some_iff.1 hmark
  have hnotified : alert'.lastNotifiedAt = some t := by
    have hfst : alert'.lastNotifiedAt = _ := congrArg Prod.fst hcols
    rw [hfst, settled, hget, Option.some_or]
  have hle : m.1 ≤ t := hheld.spaced.le_getLast hmt hget
  have hnear := hfresh ms x [] rfl m hcheck hcross heq alert' halert' t hnotified hle
  have hfar : t + cooldown < (after (pass cfg) w ms).clock :=
    (List.pairwise_append.1 hspaced).2.2 t (List.mem_of_getLast? hget) _ List.mem_cons_self
  exact absurd hnear (not_le.2 hfar)

/-- **One message for each crossing**, in every run whose crossings are fresh. -/
theorem sent_once (cfg : CheckConfig) {a : Uuid} {alert : Alert} {w : World} {ms : List Moment}
    (halert : w.db.alerts.get? a = some alert) (hsent : w.sent = []) (hms : Along (pass cfg) (Allowed a) w ms)
    (hfresh : Fresh cfg a w ms) : ((messagesOf cfg a w ms).map (·.2)).Nodup := by
  induction ms using List.reverseRecOn with
  | nil => exact List.nodup_nil
  | append_singleton ms m ih =>
    have hpre := ((along_append _ _ _).1 hms).1
    have ih := ih hpre hfresh.init
    rw [messagesOf_append, List.map_append]
    cases m with
    | meanwhile w' => exact (List.append_nil _).symm ▸ ih
    | check x =>
      obtain ⟨k, hk, -⟩ := sentTo_checkOnce cfg x (after (pass cfg) w ms) a
      obtain ⟨ls, hheld, -⟩ := held_of_run halert hsent ((run_after ms w hpre).trans (run_checkOnce cfg a x _))
      have hspaced : Spaced ((after (pass cfg) w ms).sentTo a ++ List.replicate k (after (pass cfg) w ms).clock) :=
        hk ▸ hheld.spaced
      have hnew : messagesOf cfg a (after (pass cfg) w ms) [.check x] =
          List.replicate k ((after (pass cfg) w ms).clock, found cfg x (after (pass cfg) w ms) a) := by
        rw [messagesOf, messagesOf, List.append_nil, hk, List.length_append, List.length_replicate,
          Nat.add_sub_cancel_left]
      rw [hnew, List.map_replicate, List.nodup_append']
      have hone := hspaced.replicate_le
      refine ⟨ih, ?_, ?_⟩
      · exact List.nodup_replicate.2 hone
      · cases k with
        | zero => exact List.disjoint_nil_right _
        | succ k =>
          intro c hc hc'
          rw [(List.mem_replicate.1 hc').2] at hc
          exact not_sent_before halert hsent hpre hfresh hspaced hc

/-! ## A breach that lasts -/

/-- A check, then as many hours without a new price, then another check. -/
def checkedAgain (pause : Int) (today : Date) : List Moment :=
  let w := checkOnce plainConfig (checkOn 20) breach
  [.check (checkOn 20), .meanwhile { w with clock := w.clock + hours pause }, .check (checkOn today)]

theorem checkedAgain_allowed {pause : Int} (h : 0 ≤ pause) (today : Date) :
    Along (pass plainConfig) (Allowed 1) breach (checkedAgain pause today) := by
  refine ⟨trivial, ⟨?_, rfl, fun _ h => h, ⟨[], (List.append_nil _).symm, ?_⟩, fun alert h => ⟨alert, h, rfl, rfl⟩⟩,
    trivial, trivial⟩
  · refine le_add_of_nonneg_right ?_
    unfold hours Time
    omega
  · exact fun _ hnew => absurd hnew List.not_mem_nil

/-- **The onions crossed 2200 between day 18 and day 19.**  The check on day 20 sends that crossing, and so does the
check 25 hours later, with no new price in between. -/
theorem breach_sent_twice : Along (pass plainConfig) (Allowed 1) breach (checkedAgain 25 21) ∧
    (messagesOf plainConfig 1 breach (checkedAgain 25 21)).map (·.2) = [some (18, 19), some (18, 19)] ∧
    ¬ ((messagesOf plainConfig 1 breach (checkedAgain 25 21)).map (·.2)).Nodup :=
  ⟨checkedAgain_allowed (by decide) 21, by decide +kernel, by decide +kernel⟩

theorem checkedAgain_fresh : Fresh plainConfig 1 breach (checkedAgain 2 20) := by
  intro pre x post hms c hc _ _ alert halert t ht _
  have hshape : pre = [] ∨ pre = (checkedAgain 2 20).take 2 := by
    rcases pre with _ | ⟨m₁, _ | ⟨m₂, _ | ⟨m₃, pre⟩⟩⟩
    · exact Or.inl rfl
    · exact absurd (List.cons.inj (List.cons.inj hms).2).1 (by simp)
    · exact Or.inr (by rw [hms]; rfl)
    · exact absurd (congrArg List.length hms) (by simp [checkedAgain])
  rcases hshape with rfl | rfl
  · exact absurd hc List.not_mem_nil
  · have hlast : ((after (pass plainConfig) breach ((checkedAgain 2 20).take 2)).db.alerts.get? 1).map
        (·.lastNotifiedAt) = some (some (hours (20 * 24))) := by decide +kernel
    rw [show (after (pass plainConfig) breach ((checkedAgain 2 20).take 2)).db.alerts.get? 1 = some alert from halert,
      Option.map_some, show alert.lastNotifiedAt = some t from ht] at hlast
    obtain rfl := Option.some.inj (Option.some.inj hlast)
    decide +kernel

theorem breach_sent_once : ((messagesOf plainConfig 1 breach (checkedAgain 2 20)).map (·.2)).Nodup :=
  sent_once plainConfig (by decide +kernel : breach.db.alerts.get? 1 = some onionAlert) rfl
    (checkedAgain_allowed (by decide) 20) checkedAgain_fresh

end Krishi
