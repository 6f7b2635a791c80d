import KrishiBazaar.Inbound
import KrishiBazaar.OutboundCap
import KrishiBazaar.Unregistered
/-!
# Webhook — from a signed request to a text message

`handle_sms_webhook` and `simulate_inbound` of `app/routers/sms.py`: the rate limit of the address, the verifier, the body
as JSON, and the reply.  A run is any sequence of their requests, with the tables changed by others in between.  The
limiter is SlowAPI's and a parameter; it counts a request before its signature is looked at.  The default limit in front
of the simulator, which counts for itself, only keeps requests away.

Each text of a run answers a request of its own, by what the message says and the tables hold, and the request was signed
or made by an administrator (`textsOf_asked`).  Two texts for one signature are at least 330 seconds apart
(`textsOf_spaced`), and no number is sent more than five texts in an hour, whatever comes in (`textsOf_capped`).  Unsigned
requests only use up the limit of the addresses they come from (`unsigned_traceless`).
-/
namespace Krishi

open Lib

/-! ## The endpoints -/

/-- What a limiter keeps for an address, and whether it lets a request through at a limit of so many a minute. -/
structure RateLimiter where
  Hits : Type
  start : Hits
  hit : Nat → ℚ → Hits → Bool × Hits

structure WebhookConfig where
  verifier : Verifier
  replies : ReplyConfig
  /-- `request.json()`, an object if the body is one; `none` where it raises or the value is no `dict`. -/
  json : List UInt8 → Option Payload
  limiter : RateLimiter
  rateLimitEnabled : Bool

/-- `"30/minute"`, or `"10000/minute"`. -/
def WebhookConfig.webhookLimit (cfg : WebhookConfig) : Nat := if cfg.rateLimitEnabled then 30 else 10000

inductive WebhookError
  | rateLimitExceeded
  | refused (e : VerifyError)
  | http (e : HTTPException)
  | failed (f : Fault)

/-- What the process keeps: the tables, the outbound cap, the texts it sent, the replay cache and the limiter's counts. -/
structure Desk (cfg : WebhookConfig) where
  phone : Phone
  seen : Seen
  hits : String → cfg.limiter.Hits

/-- Where a request comes from, and when it reaches the limiter. -/
structure Arrival where
  address : String
  now : ℚ

variable (cfg : WebhookConfig)

def answerPayload (payload : Payload) (x : Exchange) (d : Desk cfg) : Except WebhookError InboundResponse × Desk cfg :=
  let r := (processInbound cfg.replies payload).run x.exec d.phone
  (r.1.mapError .failed, { d with phone := r.2 })

/-- `limiter.limit(webhook_limit())`, by `get_remote_address`. -/
def limitWebhook (r : Arrival) (d : Desk cfg) : Bool × Desk cfg :=
  let hit := cfg.limiter.hit cfg.webhookLimit r.now (d.hits r.address)
  (hit.1, { d with hits := fun a => if a = r.address then hit.2 else d.hits a })

def answerRequest (c : Call) (x : Exchange) (d : Desk cfg) : Except WebhookError InboundResponse × Desk cfg :=
  match verify cfg.verifier c d.seen with
  | (.error e, seen) => (.error (.refused e), { d with seen := seen })
  | (.ok (), seen) =>
    match cfg.json c.request.body with
    | none => (.error (.http ⟨400, "invalid json"⟩), { d with seen := seen })
    | some payload => answerPayload cfg payload x { d with seen := seen }

def handleSmsWebhook (r : Arrival) (c : Call) (x : Exchange) (d : Desk cfg) :
    Except WebhookError InboundResponse × Desk cfg :=
  if (limitWebhook cfg r d).1 then answerRequest cfg c x (limitWebhook cfg r d).2
  else (.error .rateLimitExceeded, (limitWebhook cfg r d).2)

/-- Behind `require_role("admin")`. -/
def simulateInbound (payload : Payload) (x : Exchange) (d : Desk cfg) :
    Except WebhookError InboundResponse × Desk cfg := answerPayload cfg payload x d

/-! ## Runs -/

inductive DeskEvent
  | webhook (r : Arrival) (c : Call) (x : Exchange)
  | simulate (payload : Payload) (x : Exchange)
  /-- Another part of the program writes to the tables. -/
  | tables (db : DB)

def deskStep (d : Desk cfg) : DeskEvent → Desk cfg
  | .webhook r c x => (handleSmsWebhook cfg r c x d).2
  | .simulate payload x => (simulateInbound cfg payload x d).2
  | .tables db => { d with phone := { d.phone with db := db } }

/-- The desk of a process that just started. -/
def Desk.opened (db : DB) : Desk cfg := ⟨⟨db, fun _ => [], []⟩, [], fun _ => cfg.limiter.start⟩

/-- The texts a run sends, each with the event it was sent in. -/
def textsOf : Desk cfg → List DeskEvent → List (DeskEvent × Reply)
  | _, [] => []
  | d, e :: es =>
    ((deskStep cfg d e).phone.sent.drop d.phone.sent.length).map (fun sms => (e, sms)) ++ textsOf (deskStep cfg d e) es

def DeskEvent.call : DeskEvent → Option Call
  | .webhook _ c _ => some c
  | .simulate _ _ | .tables _ => none

def DeskEvent.payload : DeskEvent → Option Payload
  | .webhook _ c _ => cfg.json c.request.body
  | .simulate payload _ => some payload
  | .tables _ => none

def DeskEvent.exchange : DeskEvent → Option Exchange
  | .webhook _ _ x | .simulate _ x => some x
  | .tables _ => none

/-- The clock the outbound cap reads in an event; no event that sends is without one. -/
def DeskEvent.now (e : DeskEvent) : ℚ := (e.exchange.map (·.now)).getD 0

/-- The language of the sender's profile, or Marathi. -/
def Daytime.langOf (x : Daytime) (db : DB) (sender : String) : Lang := (x.profile db sender).preferredLanguage.getD .mr

/-- **The text answers the message**: the help goes to a known sender whose message names no crop, the word that there is
no price to one who asks for a crop that has none, and the price of the crop that the message names to anyone. -/
inductive RepliesTo (cfg : ReplyConfig) (x : Daytime) (db : DB) (sender rawMsg : String) (sms : Reply) : Prop
  | help (known : Registered db sender) (unnamed : x.crop db (aliasKeys cfg rawMsg) = none)
      (text : sms = ⟨sender, helpText (x.langOf db sender), cfg.resolveTemplate (x.langOf db sender), none⟩)
  | noData {row : AliasRow} (known : Registered db sender) (named : x.crop db (aliasKeys cfg rawMsg) = some row)
      (unpriced : (x.price cfg.toCheckConfig db row.commodityId (x.profile db sender)).1 = none)
      (text : sms = ⟨sender, noDataText (x.langOf db sender), cfg.resolveTemplate (x.langOf db sender), none⟩)
  | priced {row : AliasRow} {price : ℚ} {marketName : Option String} {reply : String}
      (named : x.crop db (aliasKeys cfg rawMsg) = some row)
      (priced : x.price cfg.toCheckConfig db row.commodityId (x.profile db sender) = (some price, marketName))
      (written : x.saleSms cfg db (x.profile db sender) row price marketName = .ok reply)
      (text : sms = ⟨sender, reply, cfg.resolveTemplate (x.langOf db sender),
        some ⟨(row.commodity.map (·.nameIn (x.langOf db sender))).getD "", price,
          (x.recommendation cfg db row.commodityId (x.profile db sender)).text⟩⟩)

/-- The event asks for the text, of these tables: a signed request or an administrator's, with a sender and a message that
the text answers. -/
def DeskEvent.Asks (db : DB) (e : DeskEvent) (sms : Reply) : Prop :=
  (∀ c ∈ e.call, c.signed cfg.verifier = true) ∧ ∃ payload ∈ e.payload cfg, ∃ x ∈ e.exchange, ∃ sender rawMsg,
    payload.parts cfg.replies = some (sender, rawMsg) ∧ RepliesTo cfg.replies x.day db sender rawMsg sms

/-- The calls of the outbound cap do not run backwards. -/
def OnTime (es : List DeskEvent) : Prop := (es.filterMap DeskEvent.exchange).Pairwise (fun x y => x.now ≤ y.now)

/-- The calls of the verifier. -/
def verified (es : List DeskEvent) : List Call := es.filterMap DeskEvent.call

/-! ## One event -/

/-- What an event does with the cap and the texts: it leaves both, or it asks the cap for its sender and sends one text to
that number if it may. -/
inductive Texting (e : DeskEvent) (w w' : Phone) : Prop
  | silent (outbound : w'.outbound = w.outbound) (sent : w'.sent = w.sent)
  | asked {x : Exchange} {sms : Reply} (asks : e.Asks cfg w.db sms) (exchange : e.exchange = some x)
      (outbound : w'.outbound = (allowOutbound x.now sms.recipient w.outbound).2)
      (sent : w'.sent = w.sent ++ if (allowOutbound x.now sms.recipient w.outbound).1 then [sms] else [])

variable {cfg} {d : Desk cfg}

theorem repliesTo_of_draft {cfg : ReplyConfig} {x : Daytime} {db : DB} {sender rawMsg : String} {r : InboundResponse}
    {sms : Reply} (h : x.draft cfg db sender rawMsg = .ok (r, some sms)) : RepliesTo cfg x db sender rawMsg sms := by
  unfold Daytime.draft at h
  dsimp only at h
  split at h
  · rename_i hcrop
    split at h
    · cases h
    · rename_i hknown
      cases h
      exact .help (not_not.1 (fun hreg => hknown (profile_id.2 hreg))) hcrop rfl
  · rename_i row hcrop
    split at h
    · rename_i hprice
      split at h
      · cases h
      · rename_i hknown
        cases h
        exact .noData (not_not.1 (fun hreg => hknown (profile_id.2 hreg))) hcrop (by rw [hprice]) rfl
    · rename_i price marketName hprice
      cases hs : x.saleSms cfg db (x.profile db sender) row price marketName with
      | error e => rw [hs] at h; cases h
      | ok reply =>
        rw [hs] at h
        cases h
        exact .priced hcrop hprice hs rfl

theorem texting_payload {e : DeskEvent} {payload : Payload} {x : Exchange} {w : Phone} (hx : e.exchange = some x)
    (hsigned : ∀ c ∈ e.call, c.signed cfg.verifier = true) (hp : e.payload cfg = some payload) :
    Texting cfg e w ((processInbound cfg.replies payload).run x.exec w).2 := by
  cases hparts : payload.parts cfg.replies with
  | none =>
    obtain ⟨r, hrun, -⟩ := run_ignored (x := x) (w := w) hparts
    rw [hrun]
    exact .silent rfl rfl
  | some parts =>
    obtain ⟨sender, rawMsg⟩ := parts
    rw [run_processInbound hparts, run_answer]
    cases hdraft : x.day.draft cfg.replies w.db sender rawMsg with
    | error e => exact .silent rfl rfl
    | ok draft =>
      obtain ⟨r, _ | sms⟩ := draft
      · exact .silent rfl rfl
      · refine .asked ⟨hsigned, payload, hp, x, hx, sender, rawMsg, hparts, repliesTo_of_draft hdraft⟩ hx ?_ ?_
        · unfold Exchange.deliver
          dsimp only
          split <;> rfl
        · unfold Exchange.deliver
          dsimp only
          split <;> simp_all

/-- What the limiter refuses, or the verifier, is not answered. -/
theorem handleSmsWebhook_cases (r : Arrival) (c : Call) (x : Exchange) (d : Desk cfg) :
    ((limitWebhook cfg r d).1 = false ∧ (handleSmsWebhook cfg r c x d).2 = (limitWebhook cfg r d).2) ∨
      ((limitWebhook cfg r d).1 = true ∧
        (handleSmsWebhook cfg r c x d).2 = (answerRequest cfg c x (limitWebhook cfg r d).2).2) := by
  unfold handleSmsWebhook
  cases (limitWebhook cfg r d).1 with
  | false => exact Or.inl ⟨rfl, rfl⟩
  | true => exact Or.inr ⟨rfl, rfl⟩

/-- A request that the verifier takes is answered if its body is an object. -/
theorem answerRequest_phone (c : Call) (x : Exchange) (d : Desk cfg) :
    (answerRequest cfg c x d).2.phone = d.phone ∨ ((verify cfg.verifier c d.seen).1 = .ok () ∧
      ∃ payload, cfg.json c.request.body = some payload ∧
        (answerRequest cfg c x d).2.phone = ((processInbound cfg.replies payload).run x.exec d.phone).2) := by
  unfold answerRequest
  split
  · exact Or.inl rfl
  · rename_i seen hv
    split
    · exact Or.inl rfl
    · rename_i payload hbody
      exact Or.inr ⟨by rw [hv], payload, hbody, rfl⟩

theorem answerRequest_seen (c : Call) (x : Exchange) (d : Desk cfg) :
    (answerRequest cfg c x d).2.seen = (verify cfg.verifier c d.seen).2 := by
  unfold answerRequest
  split
  · rename_i hv
    rw [hv]
  · rename_i hv
    rw [hv]
    split <;> rfl

/-- **A text is sent for a request that asks for it, within the cap.** -/
theorem texting_step (cfg : WebhookConfig) (d : Desk cfg) (e : DeskEvent) :
    Texting cfg e d.phone (deskStep cfg d e).phone := by
  cases e with
  | webhook r c x =>
    show Texting cfg _ d.phone (handleSmsWebhook cfg r c x d).2.phone
    rcases handleSmsWebhook_cases r c x d with ⟨-, h⟩ | ⟨-, h⟩
    · rw [h]
      exact .silent rfl rfl
    · rw [h]
      rcases answerRequest_phone c x (limitWebhook cfg r d).2 with hsame | ⟨hok, payload, hbody, hrun⟩
      · rw [hsame]
        exact .silent rfl rfl
      · rw [hrun]
        refine texting_payload rfl (fun c' hc' => ?_) hbody
        obtain rfl := Option.some.inj hc'
        exact signed_of_verify hok
  | simulate payload x => exact texting_payload rfl (fun c hc => by cases hc) rfl
  | tables db => exact .silent rfl rfl

/-- The texts of an event: none, or the one it asks for. -/
theorem newTexts (cfg : WebhookConfig) (d : Desk cfg) (e : DeskEvent) :
    (deskStep cfg d e).phone.sent.drop d.phone.sent.length = [] ∨
      ∃ sms, e.Asks cfg d.phone.db sms ∧ (deskStep cfg d e).phone.sent.drop d.phone.sent.length = [sms] := by
  cases texting_step cfg d e with
  | silent _ hs =>
    rw [hs]
    exact Or.inl (List.drop_length ..)
  | asked hasks _ _ hs =>
    rw [hs, List.drop_left]
    split
    · exact Or.inr ⟨_, hasks, rfl⟩
    · exact Or.inl rfl

theorem sent_step (d : Desk cfg) (e : DeskEvent) : (deskStep cfg d e).phone.sent
    = d.phone.sent ++ (deskStep cfg d e).phone.sent.drop d.phone.sent.length := by
  cases texting_step cfg d e with
  | silent _ hs => rw [hs, List.drop_length, List.append_nil]
  | asked _ _ _ hs => rw [hs, List.drop_left]

theorem sent_after : ∀ (es : List DeskEvent) (d : Desk cfg),
    (after (deskStep cfg) d es).phone.sent = d.phone.sent ++ (textsOf cfg d es).map (·.2)
  | [], d => (List.append_nil _).symm
  | e :: es, d => by
    rw [after_cons, sent_after es, sent_step, textsOf, List.map_append, List.map_map, List.append_assoc]
    congr 2
    exact (List.map_id _).symm

theorem textsOf_sublist : ∀ (es : List DeskEvent) (d : Desk cfg), ((textsOf cfg d es).map (·.1)).Sublist es
  | [], _ => List.Sublist.refl _
  | e :: es, d => by
    have ih := textsOf_sublist es (deskStep cfg d e)
    rw [textsOf, List.map_append, List.map_map]
    rcases newTexts cfg d e with h | ⟨sms, -, h⟩
    · rw [h]
      exact ih.cons e
    · rw [h]
      exact ih.cons_cons e

/-- **Every text of a run answers an event of its own, which asks for it**: each event has at most one text, which answers
the event's message by the tables as they are then, and a webhook request with a text was signed. -/
theorem textsOf_asked (cfg : WebhookConfig) (d : Desk cfg) (es : List DeskEvent) :
    (after (deskStep cfg) d es).phone.sent = d.phone.sent ++ (textsOf cfg d es).map (·.2) ∧
      ((textsOf cfg d es).map (·.1)).Sublist es ∧
      ∀ pre e post, es = pre ++ e :: post → ∃ new : List Reply,
        (after (deskStep cfg) d (pre ++ [e])).phone.sent = (after (deskStep cfg) d pre).phone.sent ++ new ∧
        new.length ≤ 1 ∧ ∀ sms ∈ new, e.Asks cfg (after (deskStep cfg) d pre).phone.db sms := by
  refine ⟨sent_after es d, textsOf_sublist es d, fun pre e post _ => ?_⟩
  rw [after_append]
  refine ⟨_, sent_step (after (deskStep cfg) d pre) e, ?_⟩
  rcases newTexts cfg (after (deskStep cfg) d pre) e with h | ⟨sms, hasks, h⟩
  · rw [h]
    exact ⟨Nat.zero_le _, fun sms hsms => absurd hsms List.not_mem_nil⟩
  · rw [h]
    refine ⟨le_rfl, fun sms' hsms => ?_⟩
    obtain rfl := List.mem_singleton.1 hsms
    exact hasks

/-! ## The cap -/

/-- **What a run sends is what the cap let through** of the calls it made. -/
theorem textsOf_answers (cfg : WebhookConfig) : ∀ (es : List DeskEvent) (d : Desk cfg), ∃ calls : List (String × ℚ),
    (calls.map (·.2)).Sublist ((es.filterMap DeskEvent.exchange).map (·.now)) ∧
      (textsOf cfg d es).map (fun t => (t.2.recipient, t.1.now))
        = ((outboundAnswers d.phone.outbound calls).filter (·.allowed)).map (fun a => (a.sender, a.now))
  | [], _ => ⟨[], List.Sublist.refl _, rfl⟩
  | e :: es, d => by
    obtain ⟨calls, hcalls, htexts⟩ := textsOf_answers cfg es (deskStep cfg d e)
    rw [textsOf, List.map_append, htexts]
    cases texting_step cfg d e with
    | silent hout hs =>
      refine ⟨calls, ?_, ?_⟩
      · rw [List.filterMap_cons]
        cases e.exchange with
        | none => exact hcalls
        | some x => exact hcalls.cons x.now
      · rw [hs, hout, List.drop_length]
        rfl
    | @asked x sms hasks hx hout hs =>
      have hnow : e.now = x.now := by
        unfold DeskEvent.now
        rw [hx]
        rfl
      refine ⟨(sms.recipient, x.now) :: calls, ?_, ?_⟩
      · rw [List.filterMap_cons, hx]
        exact hcalls.cons_cons x.now
      · rw [hs, hout, List.drop_left, outboundAnswers]
        by_cases hok : (allowOutbound x.now sms.recipient d.phone.outbound).1 = true
        · simp [hok, hnow]
        · simp [hok]

theorem answers_window {calls : List (String × ℚ)} (h : (calls.map (·.2)).Pairwise (· ≤ ·)) (sender : String) (t : ℚ) :
    ((outboundAnswers (fun _ => []) calls).filter (fun a =>
      a.sender = sender ∧ a.allowed ∧ t - outboundWindowSec < a.now ∧ a.now ≤ t)).length ≤ outboundMax := by
  have hone : (Limiter.callsOf sender calls).Pairwise (· ≤ ·) :=
    h.sublist ((List.filter_sublist (p := fun c : String × ℚ => c.1 = sender)).map _)
  have hwindow := Limiter.allowed_window outboundMax outboundWindowSec t hone
  rw [← Limiter.answersByKey_filter sender (fun _ => []) calls, ← map_keyed] at hwindow
  exact (length_filter_keyed sender (fun c => t - outboundWindowSec < c ∧ c ≤ t) _).trans_le hwindow

/-- **No number is sent more than five texts in an hour**, whatever requests come in and whatever the tables hold, if the
clock does not run backwards. -/
theorem textsOf_capped (cfg : WebhookConfig) (db : DB) (es : List DeskEvent) (h : OnTime es) (number : String) (t : ℚ) :
    ((textsOf cfg (.opened cfg db) es).filter (fun u =>
      u.2.recipient = number ∧ t - 3600 < u.1.now ∧ u.1.now ≤ t)).length ≤ 5 := by
  obtain ⟨calls, hcalls, htexts⟩ := textsOf_answers cfg es (.opened cfg db)
  have hclock : (calls.map (·.2)).Pairwise (· ≤ ·) := (List.pairwise_map.2 h).sublist hcalls
  let window : String × ℚ → Bool := fun u => u.1 = number ∧ t - 3600 < u.2 ∧ u.2 ≤ t
  calc ((textsOf cfg (.opened cfg db) es).filter (fun u =>
        u.2.recipient = number ∧ t - 3600 < u.1.now ∧ u.1.now ≤ t)).length
      = (((textsOf cfg (.opened cfg db) es).map (fun u => (u.2.recipient, u.1.now))).filter window).length := by
        rw [List.filter_map, List.length_map]
        rfl
    _ = ((outboundAnswers (fun _ => []) calls).filter (fun a =>
          a.sender = number ∧ a.allowed ∧ t - outboundWindowSec < a.now ∧ a.now ≤ t)).length := by
        rw [htexts, List.filter_map, List.length_map, List.filter_filter]
        refine congrArg List.length (List.filter_congr (fun a _ => ?_))
        cases a.allowed <;> simp [window, outboundWindowSec]
    _ ≤ 5 := answers_window hclock number t

/-! ## The replay cache -/

/-- The calls taken from a state of the cache on. -/
def acceptedFrom (v : Verifier) : Seen → List Call → List Call
  | _, [] => []
  | seen, c :: calls => (if (verify v c seen).1 = .ok () then [c] else []) ++ acceptedFrom v (verify v c seen).2 calls

theorem foldl_verify (v : Verifier) : ∀ (calls : List Call) (taken : List Call) (seen : Seen),
    (calls.foldl (fun x c => (if (verify v c x.2).1 = .ok () then x.1 ++ [c] else x.1, (verify v c x.2).2))
      (taken, seen)).1 = taken ++ acceptedFrom v seen calls
  | [], taken, seen => (List.append_nil taken).symm
  | c :: calls, taken, seen => by
    rw [List.foldl_cons, foldl_verify v calls, acceptedFrom, ← List.append_assoc]
    split <;> simp

theorem acceptedFrom_nil (v : Verifier) (calls : List Call) : acceptedFrom v [] calls = accepted v calls := by
  unfold accepted verifyAll
  rw [foldl_verify, List.nil_append]

/-- One signature is taken again only 330 seconds later. -/
theorem accepted_spaced (v : Verifier) {calls : List Call} (hclock : Clocked calls) :
    (accepted v calls).Pairwise (fun c d => c.signature v = d.signature v → c.now + replayTtlSec ≤ d.now) := by
  induction calls using List.reverseRecOn with
  | nil => exact List.Pairwise.nil
  | append_singleton calls c ih =>
    obtain ⟨hclock, hc⟩ := clocked_snoc.1 hclock
    rw [accepted_snoc]
    split
    · rename_i hok
      refine List.pairwise_append.2 ⟨ih hclock, List.pairwise_singleton _ _, fun a ha b hb => ?_⟩
      obtain rfl := List.mem_singleton.1 hb
      exact ((verify_ok_iff hc).1 hok).2 a ha
    · exact ih hclock

/-- The calls of a run that the limiter lets through to the verifier. -/
def admitted (cfg : WebhookConfig) : Desk cfg → List DeskEvent → List Call
  | _, [] => []
  | d, .webhook r c x :: es =>
    (if (limitWebhook cfg r d).1 then [c] else []) ++ admitted cfg (deskStep cfg d (.webhook r c x)) es
  | d, e :: es => admitted cfg (deskStep cfg d e) es

theorem admitted_sublist (cfg : WebhookConfig) : ∀ (es : List DeskEvent) (d : Desk cfg),
    (admitted cfg d es).Sublist (verified es)
  | [], _ => List.Sublist.refl _
  | .webhook r c x :: es, d => by
    have ih := admitted_sublist cfg es (deskStep cfg d (.webhook r c x))
    have hcalls : verified (.webhook r c x :: es) = c :: verified es := rfl
    rw [admitted, hcalls]
    split
    · exact ih.cons_cons c
    · exact ih.cons c
  | .simulate payload x :: es, d => admitted_sublist cfg es (deskStep cfg d (.simulate payload x))
  | .tables db :: es, d => admitted_sublist cfg es (deskStep cfg d (.tables db))

/-- A text is sent only for a request that was taken. -/
theorem texts_taken (cfg : WebhookConfig) : ∀ (es : List DeskEvent) (d : Desk cfg),
    ((textsOf cfg d es).filterMap (fun t => t.1.call)).Sublist (acceptedFrom cfg.verifier d.seen (admitted cfg d es))
  | [], _ => List.Sublist.refl _
  | e :: es, d => by
    have ih := texts_taken cfg es (deskStep cfg d e)
    rw [textsOf, List.filterMap_append, List.filterMap_map]
    cases e with
    | webhook r c x =>
      rw [admitted]
      have hstep : deskStep cfg d (.webhook r c x) = (handleSmsWebhook cfg r c x d).2 := rfl
      rcases handleSmsWebhook_cases r c x d with ⟨hno, h⟩ | ⟨hyes, h⟩
      · rw [hstep, h] at ih ⊢
        have hsent : (limitWebhook cfg r d).2.phone.sent.drop d.phone.sent.length = [] := List.drop_length ..
        rw [hsent, hno]
        exact ih
      · rw [hstep, h, answerRequest_seen] at ih
        rw [hyes, if_pos rfl, List.singleton_append, acceptedFrom]
        refine List.Sublist.append ?_ (by rw [hstep, h]; exact ih)
        have hphone := answerRequest_phone c x (limitWebhook cfg r d).2
        split
        · rcases newTexts cfg d (.webhook r c x) with h' | ⟨sms, -, h'⟩
          · rw [h']
            exact List.nil_sublist _
          · rw [h']
            exact List.Sublist.refl _
        · rename_i hrefused
          have hsent : (deskStep cfg d (.webhook r c x)).phone.sent.drop d.phone.sent.length = [] := by
            rw [hstep, h, hphone.resolve_right (fun hok => hrefused hok.1)]
            exact List.drop_length ..
          rw [hsent]
          exact List.Sublist.refl _
    | simulate payload x =>
      have hnone : ∀ l : List Reply, l.filterMap ((fun t : DeskEvent × Reply => t.1.call) ∘ fun sms =>
          (DeskEvent.simulate payload x, sms)) = [] := fun l => List.filterMap_eq_nil_iff.2 (fun _ _ => rfl)
      rw [hnone]
      exact ih
    | tables db =>
      have hsent : (deskStep cfg d (.tables db)).phone.sent.drop d.phone.sent.length = [] := List.drop_length ..
      rw [hsent]
      exact ih

/-- **Two texts for one signature are at least 330 seconds apart**: a request that is presented again before that is
answered with nothing. -/
theorem textsOf_spaced (cfg : WebhookConfig) (db : DB) (es : List DeskEvent) (h : Clocked (verified es)) :
    ((textsOf cfg (.opened cfg db) es).filterMap (fun t => t.1.call)).Pairwise (fun c d =>
      c.signature cfg.verifier = d.signature cfg.verifier → c.now + replayTtlSec ≤ d.now) := by
  have htaken := texts_taken cfg es (.opened cfg db)
  have hseen : (Desk.opened cfg db).seen = [] := rfl
  rw [hseen, acceptedFrom_nil] at htaken
  exact (accepted_spaced cfg.verifier (h.sublist (admitted_sublist cfg es _))).sublist htaken

/-! ## Unsigned requests -/

/-- A request to the webhook that does not pass the checks of its headers, its timestamp and its signature. -/
def DeskEvent.unsigned (v : Verifier) : DeskEvent → Bool
  | .webhook _ c _ => !c.signed v
  | .simulate _ _ | .tables _ => false

def DeskEvent.address : DeskEvent → Option String
  | .webhook r _ _ => some r.address
  | .simulate _ _ | .tables _ => none

/-- The desks agree but for what the limiter keeps for the addresses of `p`. -/
structure SameBut (p : String → Bool) (d d' : Desk cfg) : Prop where
  phone : d.phone = d'.phone
  seen : d.seen = d'.seen
  hits : ∀ a, p a = false → d.hits a = d'.hits a

section SameBut

variable {d d' : Desk cfg} {p : String → Bool} {e : DeskEvent}

theorem SameBut.refl : SameBut p d d := ⟨rfl, rfl, fun _ _ => rfl⟩

theorem SameBut.eq (h : SameBut p d d') : { d with hits := d'.hits } = d' := by
  obtain ⟨phone, seen, hits⟩ := d
  obtain ⟨rfl, rfl, -⟩ := h
  rfl

/-- What the limiter keeps is not looked at beyond it. -/
theorem answerRequest_hits (c : Call) (x : Exchange) (d : Desk cfg) (hits : String → cfg.limiter.Hits) :
    (answerRequest cfg c x { d with hits := hits }).2 = { (answerRequest cfg c x d).2 with hits := hits } ∧
      (answerRequest cfg c x d).2.hits = d.hits := by
  unfold answerRequest
  dsimp only
  split
  · exact ⟨rfl, rfl⟩
  · split
    · exact ⟨rfl, rfl⟩
    · exact ⟨rfl, rfl⟩

theorem SameBut.answerRequest (h : SameBut p d d') (c : Call) (x : Exchange) :
    SameBut p (answerRequest cfg c x d).2 (answerRequest cfg c x d').2 := by
  obtain ⟨hsame, hhits⟩ := answerRequest_hits c x d d'.hits
  rw [h.eq] at hsame
  have hhits' := (answerRequest_hits c x d' d'.hits).2
  refine ⟨by rw [hsame], by rw [hsame], fun a ha => ?_⟩
  rw [hhits, hhits']
  exact h.hits a ha

/-- An event that is not from those addresses does the same to both. -/
theorem SameBut.step (h : SameBut p d d') (he : e.address.any p = false) :
    SameBut p (deskStep cfg d e) (deskStep cfg d' e) := by
  cases e with
  | webhook r c x =>
    have hr : p r.address = false := he
    have hhit := h.hits r.address hr
    have hone : (limitWebhook cfg r d).1 = (limitWebhook cfg r d').1 := by
      unfold limitWebhook
      dsimp only
      rw [hhit]
    have hlimit : SameBut p (limitWebhook cfg r d).2 (limitWebhook cfg r d').2 := by
      refine ⟨h.phone, h.seen, fun a ha => ?_⟩
      unfold limitWebhook
      dsimp only
      rw [hhit, h.hits a ha]
    show SameBut p (handleSmsWebhook cfg r c x d).2 (handleSmsWebhook cfg r c x d').2
    unfold handleSmsWebhook
    rw [hone]
    split
    · exact hlimit.answerRequest c x
    · exact hlimit
  | simulate payload x =>
    refine ⟨?_, h.seen, h.hits⟩
    show ((processInbound cfg.replies payload).run x.exec d.phone).2 = _
    rw [h.phone]
    rfl
  | tables db =>
    refine ⟨?_, h.seen, h.hits⟩
    show ({ d.phone with db := db } : Phone) = _
    rw [h.phone]
    rfl

/-- An unsigned request is counted, and that is all. -/
theorem SameBut.unsigned (h : SameBut p d d') (hu : e.unsigned cfg.verifier = true) (he : e.address.any p = true) :
    SameBut p (deskStep cfg d e) d' := by
  cases e with
  | webhook r c x =>
    have hr : p r.address = true := he
    have hlimit : SameBut p (limitWebhook cfg r d).2 d' := by
      refine ⟨h.phone, h.seen, fun a ha => ?_⟩
      have hne : a ≠ r.address := by
        rintro rfl
        rw [hr] at ha
        cases ha
      unfold limitWebhook
      dsimp only
      rw [if_neg hne]
      exact h.hits a ha
    have hs : c.signed cfg.verifier = false := by simpa [DeskEvent.unsigned] using hu
    have hstay : (Krishi.answerRequest cfg c x (limitWebhook cfg r d).2).2 = (limitWebhook cfg r d).2 := by
      unfold Call.signed at hs
      unfold Krishi.answerRequest verify
      cases hcheck : checkSigned cfg.verifier c.request c.checkedAt with
      | error err => rfl
      | ok signature =>
        rw [hcheck] at hs
        cases hs
    show SameBut p (handleSmsWebhook cfg r c x d).2 d'
    rcases handleSmsWebhook_cases r c x d with ⟨-, hstep⟩ | ⟨-, hstep⟩
    · rw [hstep]
      exact hlimit
    · rw [hstep, hstay]
      exact hlimit
  | simulate payload x => cases hu
  | tables db => cases hu

theorem SameBut.run : ∀ {es : List DeskEvent} {d d' : Desk cfg},
    (∀ e ∈ es, e.address.any p = true → e.unsigned cfg.verifier = true) → SameBut p d d' →
      SameBut p (after (deskStep cfg) d es) (after (deskStep cfg) d' (es.filter (fun e => !e.address.any p)))
  | [], _, _, _, h => h
  | e :: es, d, d', hes, h => by
    have hrest := fun e' he' => hes e' (List.mem_cons_of_mem e he')
    by_cases he : e.address.any p = true
    · rw [List.filter_cons_of_neg (by simp [he]), after_cons]
      exact SameBut.run hrest (h.unsigned (hes e List.mem_cons_self he) he)
    · rw [Bool.not_eq_true] at he
      rw [List.filter_cons_of_pos (by simp [he]), after_cons, after_cons]
      exact SameBut.run hrest (h.step he)

end SameBut

/-- Nothing from the address is signed. -/
def signsNothing (v : Verifier) (es : List DeskEvent) (address : String) : Bool :=
  es.all (fun e => e.address ≠ some address || e.unsigned v)

/-- **Unsigned requests leave no trace** but in the limit of the addresses they come from: without the requests of all the
addresses that sign nothing, in any places of a run, the process is afterwards as it is with them, and so is what it
keeps for every other address. -/
theorem unsigned_traceless (cfg : WebhookConfig) (d : Desk cfg) (es : List DeskEvent) :
    let whole := after (deskStep cfg) d es
    let without := after (deskStep cfg) d (es.filter (fun e => !e.address.any (signsNothing cfg.verifier es)))
    whole.phone = without.phone ∧ whole.seen = without.seen ∧
      ∀ address, signsNothing cfg.verifier es address = false → whole.hits address = without.hits address := by
  have hes : ∀ e ∈ es, e.address.any (signsNothing cfg.verifier es) = true → e.unsigned cfg.verifier = true := by
    intro e he hany
    obtain ⟨address, haddress, hnothing⟩ := (Option.any_eq_true _ _).1 hany
    have hone := List.all_eq_true.1 hnothing e he
    simpa [haddress] using hone
  have hrun := SameBut.run hes (SameBut.refl (d := d))
  exact ⟨hrun.phone, hrun.seen, hrun.hits⟩

/-! ## A farmer asks for onions -/

/-- A count of the requests since the first of a minute. -/
def fixedWindow : RateLimiter where
  Hits := Option (ℚ × Nat)
  start := none
  hit limit now hits :=
    match hits with
    | some (expires, n) =>
      if now < expires then (n + 1 ≤ limit, some (expires, n + 1)) else (1 ≤ limit, some (now + 60, 1))
    | none => (1 ≤ limit, some (now + 60, 1))

/-- A body of one byte, which the sample's JSON reads as a question for onions. -/
def plainWebhook : WebhookConfig where
  verifier := plainVerifier
  replies := plainReplies
  json := fun body => if body = [120] then some (asksForOnions "9000000000") else none
  limiter := fixedWindow
  rateLimitEnabled := true

def fromProvider (now : ℚ) : Arrival := ⟨"203.0.113.7", now⟩

/-- The request is presented twice, the second time ten seconds later, once without its signature, and again after 330
seconds. -/
def askedTwice : List DeskEvent :=
  [.webhook (fromProvider 1000) ⟨aheadRequest, 1000, 1000⟩ onDay20,
   .webhook (fromProvider 1005) ⟨{ aheadRequest with headers := fun _ => none }, 1005, 1005⟩ { onDay20 with now := 5 },
   .webhook (fromProvider 1010) ⟨aheadRequest, 1010, 1010⟩ { onDay20 with now := 10 },
   .webhook (fromProvider 1330) ⟨aheadRequest, 1330, 1330⟩ { onDay20 with now := 330 }]

/-- It is answered at once and after 330 seconds. -/
theorem textsOf_spaced_askedTwice :
    (textsOf plainWebhook (.opened plainWebhook (onionsNamed 2000).db) askedTwice).map (fun t => (t.2.recipient, t.1.now))
      = [("+919000000000", 0), ("+919000000000", 330)] ∧
    ((textsOf plainWebhook (.opened plainWebhook (onionsNamed 2000).db) askedTwice).filterMap
      (fun t => t.1.call)).Pairwise (fun c d =>
        c.signature plainVerifier = d.signature plainVerifier → c.now + replayTtlSec ≤ d.now) :=
  ⟨by decide +kernel, textsOf_spaced plainWebhook (onionsNamed 2000).db askedTwice
    (by unfold Clocked verified askedTwice; decide +kernel)⟩

/-- An administrator asks for onions six times, a second apart. -/
def askedSixTimes : List DeskEvent :=
  (List.range 6).map (fun n => .simulate (asksForOnions "9000000000") { onDay20 with now := n })

/-- The sixth time there is no text. -/
theorem textsOf_capped_askedSixTimes :
    (textsOf plainWebhook (.opened plainWebhook (onionsNamed 2000).db) askedSixTimes).map (fun t => t.1.now)
      = [0, 1, 2, 3, 4] ∧
    ((textsOf plainWebhook (.opened plainWebhook (onionsNamed 2000).db) askedSixTimes).filter (fun u =>
      u.2.recipient = "+919000000000" ∧ 100 - 3600 < u.1.now ∧ u.1.now ≤ 100)).length ≤ 5 :=
  ⟨by decide +kernel, textsOf_capped plainWebhook (onionsNamed 2000).db askedSixTimes
    (by unfold OnTime askedSixTimes; decide +kernel) "+919000000000" 100⟩

end Krishi
