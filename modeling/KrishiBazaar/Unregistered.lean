import KrishiBazaar.Replies
import KrishiBazaar.SamePrice
/-!
# Unregistered — when an unknown number is texted

The help text and the text that there is no price go out only to a registered sender.  The reply with a price goes out
to anyone, priced for Nashik.  So a run keeps to registered senders exactly when the sender is registered, or the message
does not get as far as that reply, or the sender's cap is used up (`unknown_not_texted_iff`).
-/
namespace Krishi

open Lib

/-- `lookup_profile_by_phone` has a row for the number. -/
def Registered (db : DB) (sender : String) : Prop := ∃ u ∈ db.userProfiles.rows, phoneMatches sender u = true

instance (db : DB) (sender : String) : Decidable (Registered db sender) :=
  inferInstanceAs (Decidable (∃ u ∈ db.userProfiles.rows, phoneMatches sender u = true))

/-- The sender and the message of a payload that is not ignored. -/
def Payload.parts (cfg : ReplyConfig) (payload : Payload) : Option (String × String) :=
  match normalizePhone cfg.toCheckConfig (payload.sender.map (·.text)), rawMessage cfg payload.message with
  | some sender, .ok rawMsg => if rawMsg = "" then none else some (sender, rawMsg)
  | _, _ => none

/-- A commodity has a recent price in an active market of Nashik. -/
def Daytime.Priced (x : Daytime) (db : DB) (commodityId : Uuid) : Prop :=
  ∃ p ∈ db.prices.rows, p.commodityId = commodityId ∧ x.today - historyDays ≤ p.arrivalDate ∧
    ∃ m ∈ db.markets.rows, m.district = "Nashik" ∧ m.isActive = true ∧ m.id = p.marketId

/-- The message names a crop with a price in Nashik, and the market's name has a word to show. -/
def Daytime.Quotes (x : Daytime) (cfg : ReplyConfig) (db : DB) (rawMsg : String) : Prop :=
  ∃ row, x.crop db (aliasKeys cfg rawMsg) = some row ∧ x.Priced db row.commodityId ∧
    ∀ name ∈ (x.price cfg.toCheckConfig db row.commodityId .unknown).2, name = "" ∨ (firstWord cfg name).isOk = true

section Unknown

variable {x : Daytime} {cfg : ReplyConfig} {db : DB} {sender rawMsg : String}

theorem profile_id : (x.profile db sender).id = none ↔ ¬ Registered db sender := by
  unfold Daytime.profile Registered
  cases h : ((x.order.order (db.userProfiles.rows.filter (phoneMatches sender))).take 1).head? with
  | none =>
    have hnil : db.userProfiles.rows.filter (phoneMatches sender) = [] := by
      simpa [List.head?_take] using h
    refine iff_of_true rfl ?_
    rintro ⟨u, hu, hm⟩
    exact List.not_mem_nil (hnil ▸ List.mem_filter.2 ⟨hu, hm⟩)
  | some u =>
    have hmem : u ∈ db.userProfiles.rows.filter (phoneMatches sender) :=
      x.order.mem_order.1 (List.mem_of_mem_take (List.mem_of_mem_head? h))
    refine iff_of_false (by simp [UserProfile.row]) (not_not_intro ?_)
    exact ⟨u, (List.mem_filter.1 hmem).1, (List.mem_filter.1 hmem).2⟩

theorem profile_unknown (h : ¬ Registered db sender) : x.profile db sender = .unknown := by
  have hid := profile_id (x := x).2 h
  unfold Daytime.profile at hid ⊢
  cases hr : ((x.order.order (db.userProfiles.rows.filter (phoneMatches sender))).take 1).head? with
  | none => rfl
  | some u =>
    rw [hr] at hid
    cases hid

/-- **An unknown number is quoted a price exactly of what Nashik has.** -/
theorem price_unknown (x : Daytime) (cfg : ReplyConfig) (db : DB) (commodityId : Uuid) :
    (x.price cfg.toCheckConfig db commodityId .unknown).1 ≠ none ↔ x.Priced db commodityId := by
  rw [price_eq_mean]
  have hrows : x.quotedRows cfg.toCheckConfig db commodityId .unknown = x.districtRows cfg.arith db commodityId .unknown :=
    rfl
  have hnone : (lastDay (x.quotedRows cfg.toCheckConfig db commodityId .unknown)).map (fun d =>
      cfg.arith.mean (marketPrices (x.quotedRows cfg.toCheckConfig db commodityId .unknown) d)) ≠ none ↔
      x.districtRows cfg.arith db commodityId .unknown ≠ [] := by
    rw [Ne, Option.map_eq_none_iff, lastDay_eq_none, hrows]
  rw [hnone]
  unfold Daytime.districtRows Daytime.Priced
  constructor
  · intro hne
    obtain ⟨r, hr⟩ := List.exists_mem_of_ne_nil _ hne
    obtain ⟨p, hmem, ⟨hc, hd, hmarket⟩, -⟩ := mem_historyRows.1 hr
    obtain ⟨m, hm, hid⟩ := List.mem_map.1 hmarket
    obtain ⟨hm, hsel⟩ := List.mem_filter.1 (x.order.mem_order.1 hm)
    obtain ⟨hdistrict, hactive⟩ := decide_eq_true_iff.1 hsel
    exact ⟨p, hmem, hc, hd, m, hm, hdistrict, hactive, hid⟩
  · rintro ⟨p, hmem, hc, hd, m, hm, hdistrict, hactive, hid⟩
    have hmarket : p.marketId ∈ (x.district db .unknown).map (·.id) :=
      List.mem_map.2 ⟨m, x.order.mem_order.2 (List.mem_filter.2 ⟨hm, decide_eq_true ⟨hdistrict, hactive⟩⟩), hid⟩
    exact List.ne_nil_of_mem (mem_historyRows.2 ⟨p, hmem, ⟨hc, hd, hmarket⟩, rfl⟩)

/-- Without a buyer, only the market's name can fail to have a first word. -/
theorem formatSaleSms_isOk (cfg : ReplyConfig) (lang name : String) (price : Option ℚ) (market : Option String)
    (recommendation : String) :
    (formatSaleSms cfg lang name price market recommendation none).isOk = true ↔
      ∀ name ∈ market, name = "" ∨ (firstWord cfg name).isOk = true := by
  unfold formatSaleSms
  cases market with
  | none => simp [bind, Except.bind, pure, Except.pure, Except.isOk, Except.toBool]
  | some market =>
    by_cases hm : market = ""
    · simp [hm, Option.filter, bind, Except.bind, pure, Except.pure, Except.isOk, Except.toBool]
    · cases hw : firstWord cfg market <;>
        simp [hm, hw, Option.filter, bind, Except.bind, pure, Except.pure, Except.isOk, Except.toBool]

/-- **To an unknown number a text is drafted exactly when there is a price to quote.** -/
theorem draft_unknown (x : Daytime) (cfg : ReplyConfig) (rawMsg : String) (h : ¬ Registered db sender) :
    (∃ r sms, x.draft cfg db sender rawMsg = .ok (r, some sms)) ↔ x.Quotes cfg db rawMsg := by
  unfold Daytime.draft Daytime.Quotes
  rw [profile_unknown h]
  dsimp only
  cases hcrop : x.crop db (aliasKeys cfg rawMsg) with
  | none => simp [ProfileRow.unknown]
  | some row =>
    have hpriced := price_unknown x cfg db row.commodityId
    dsimp only
    rcases hprice : x.price cfg.toCheckConfig db row.commodityId .unknown with ⟨_ | price, marketName⟩
    · rw [hprice] at hpriced
      have hno : ¬ x.Priced db row.commodityId := fun hp => hpriced.2 hp rfl
      simp [ProfileRow.unknown, hno]
    · rw [hprice] at hpriced
      have hyes : x.Priced db row.commodityId := hpriced.1 (by simp)
      have hok := formatSaleSms_isOk cfg (ProfileRow.unknown.preferredLanguage.getD .mr).code
        ((row.commodity.map (·.nameIn (ProfileRow.unknown.preferredLanguage.getD .mr))).getD "") (some price) marketName
        (x.recommendation cfg db row.commodityId .unknown).text
      dsimp only
      unfold Daytime.saleSms
      have hbuyer : x.buyer cfg db .unknown = none := rfl
      rw [hbuyer]
      constructor
      · rintro ⟨r, sms, hsms⟩
        refine ⟨row, rfl, hyes, ?_⟩
        rw [hprice]
        refine hok.1 ?_
        cases hmsg : formatSaleSms cfg _ _ (some price) marketName _ none with
        | error e => rw [hmsg] at hsms; cases hsms
        | ok reply => rfl
      · rintro ⟨row', hrow, -, hname⟩
        obtain rfl := Option.some.inj hrow
        rw [hprice] at hname
        have hmsg := hok.2 hname
        cases hm : formatSaleSms cfg _ _ (some price) marketName _ none with
        | error e => rw [hm] at hmsg; cases hmsg
        | ok reply => exact ⟨_, _, rfl⟩

end Unknown

/-! ## Every message -/

section Texted

variable {x : Exchange} {cfg : ReplyConfig} {w : Phone}

theorem run_processInbound {payload : Payload} {sender rawMsg : String} (h : payload.parts cfg = some (sender, rawMsg)) :
    (processInbound cfg payload).run x.exec w = (answer cfg sender rawMsg).run x.exec w := by
  unfold Payload.parts at h
  unfold processInbound
  rw [Prog.run_bind, Prog.run_ofAnswer]
  split at h
  · rename_i hs hm
    split at h
    · cases h
    · rename_i hne
      cases h
      rw [hs, hm, Prog.onOk_ok]
      exact (Prog.run_ite _ _ _ _ _).trans (if_neg hne)
  · cases h

/-- Only the normalised sender is answered. -/
theorem parts_sender {payload : Payload} {sender rawMsg : String} (h : payload.parts cfg = some (sender, rawMsg)) :
    normalizePhone cfg.toCheckConfig (payload.sender.map (·.text)) = some sender := by
  unfold Payload.parts at h
  split at h
  · rename_i hs hm
    split at h
    · cases h
    · cases h
      exact hs
  · cases h

theorem run_ignored {payload : Payload} (h : payload.parts cfg = none) :
    ∃ r, (processInbound cfg payload).run x.exec w = (r, w) ∧ (r = .ok .ignored ∨ ∃ e, r = .error e) := by
  unfold Payload.parts at h
  unfold processInbound
  rw [Prog.run_bind, Prog.run_ofAnswer]
  cases hm : rawMessage cfg payload.message with
  | error e => exact ⟨.error e, rfl, Or.inr ⟨e, rfl⟩⟩
  | ok rawMsg =>
    rw [Prog.onOk_ok]
    cases hs : normalizePhone cfg.toCheckConfig (payload.sender.map (·.text)) with
    | none => exact ⟨_, rfl, Or.inl rfl⟩
    | some sender =>
      rw [hs, hm] at h
      dsimp only at h
      by_cases he : rawMsg = ""
      · exact ⟨_, (Prog.run_ite _ _ _ _ _).trans (if_pos he), Or.inl rfl⟩
      · rw [if_neg he] at h
        cases h

theorem draft_recipient {x : Daytime} {db : DB} {sender rawMsg : String} {r : InboundResponse} {sms : Reply}
    (h : x.draft cfg db sender rawMsg = .ok (r, some sms)) : sms.recipient = sender := by
  unfold Daytime.draft at h
  dsimp only at h
  split at h
  · split at h
    · cases h
    · cases h
      rfl
  · split at h
    · split at h
      · cases h
      · cases h
        rfl
    · cases hs : x.saleSms cfg db (x.profile db sender) _ _ _ with
      | error e => rw [hs] at h; cases h
      | ok reply =>
        rw [hs] at h
        cases h
        rfl

/-- What an answer sends: its draft's text, if the cap leaves room. -/
theorem sent_answer (x : Exchange) (cfg : ReplyConfig) (w : Phone) (sender rawMsg : String) :
    ∃ new, ((answer cfg sender rawMsg).run x.exec w).2.sent = w.sent ++ new ∧
    (new ≠ [] ↔ (∃ r sms, x.day.draft cfg w.db sender rawMsg = .ok (r, some sms)) ∧
      (allowOutbound x.now sender w.outbound).1 = true) := by
  rw [run_answer]
  cases hdraft : x.day.draft cfg w.db sender rawMsg with
  | error e => exact ⟨[], (List.append_nil _).symm, by simp⟩
  | ok draft =>
    obtain ⟨r, _ | sms⟩ := draft
    · exact ⟨[], (List.append_nil _).symm, by simp⟩
    · have hto := draft_recipient hdraft
      by_cases hcap : (allowOutbound x.now sender w.outbound).1 = true
      · refine ⟨[sms], ?_, iff_of_true (List.cons_ne_nil _ _) ⟨⟨r, sms, rfl⟩, hcap⟩⟩
        simp [Exchange.deliver, hto, hcap]
      · refine ⟨[], ?_, iff_of_false (not_not_intro rfl) (fun h => hcap h.2)⟩
        simp [Exchange.deliver, hto, hcap]

/-- **Unknown numbers are never texted, exactly as long as none is quoted a price.** -/
theorem unknown_not_texted_iff (cfg : ReplyConfig) (x : Exchange) (w : Phone) (payload : Payload) :
    ∃ new, ((processInbound cfg payload).run x.exec w).2.sent = w.sent ++ new ∧
      ((new ≠ [] → ∃ sender ∈ normalizePhone cfg.toCheckConfig (payload.sender.map (·.text)), Registered w.db sender) ↔
        ∀ sender rawMsg, payload.parts cfg = some (sender, rawMsg) →
          Registered w.db sender ∨ ¬ x.day.Quotes cfg w.db rawMsg ∨ (allowOutbound x.now sender w.outbound).1 = false) := by
  cases hparts : payload.parts cfg with
  | none =>
    obtain ⟨r, hrun, -⟩ := run_ignored (x := x) (w := w) hparts
    rw [hrun]
    refine ⟨[], (List.append_nil _).symm, iff_of_true (fun h => absurd rfl h) ?_⟩
    intro sender rawMsg h
    cases h
  | some parts =>
    obtain ⟨sender, rawMsg⟩ := parts
    rw [run_processInbound hparts]
    obtain ⟨new, hnew, hiff⟩ := sent_answer x cfg w sender rawMsg
    refine ⟨new, hnew, ?_⟩
    rw [parts_sender hparts]
    by_cases hreg : Registered w.db sender
    · refine iff_of_true (fun _ => ⟨sender, rfl, hreg⟩) ?_
      intro sender' rawMsg' h
      cases h
      exact Or.inl hreg
    · have hdraft := draft_unknown x.day cfg rawMsg hreg
      rw [hdraft] at hiff
      constructor
      · intro hkept sender' rawMsg' h
        cases h
        by_cases hquotes : x.day.Quotes cfg w.db rawMsg
        · refine Or.inr (Or.inr ?_)
          by_contra hcap
          obtain ⟨s, hs, hs'⟩ := hkept (hiff.2 ⟨hquotes, by simpa using hcap⟩)
          cases hs
          exact hreg hs'
        · exact Or.inr (Or.inl hquotes)
      · intro hcond hne
        obtain ⟨hquotes, hcap⟩ := hiff.1 hne
        rcases hcond sender rawMsg rfl with h | h | h
        · exact absurd h hreg
        · exact absurd hquotes h
        · rw [hcap] at h
          cases h

end Texted

/-! ## A stranger asks for onions -/

def plainReplies : ReplyConfig :=
  { plainConfig with
    isSpace := Char.isWhitespace
    upper := fun s => String.ofList (s.toList.map Char.toUpper)
    lower := fun s => String.ofList (s.toList.map Char.toLower)
    greatCircle := fun _ _ _ _ => 0 }

/-- The onion prices of Nashik, with the word for them. -/
def onionsNamed (pimpalgaon : ℚ) : Phone where
  db := { (nashikPrices pimpalgaon).db with commodityAlias := ⟨[⟨"sms", "ONION", 1⟩], by decide, by decide⟩ }
  outbound := fun _ => []
  sent := []

def onDay20 : Exchange := ⟨⟨20, .asStored⟩, 0⟩

def asksForOnions (sender : String) : Payload := ⟨some (.str sender), some (.str "onion today")⟩

/-- **A number nobody registered is texted the price.** -/
theorem unknown_texted :
    ((processInbound plainReplies (asksForOnions "9000000000")).run onDay20.exec (onionsNamed 2000)).2.sent.map
      (·.recipient) = ["+919000000000"] ∧
    normalizePhone plainReplies.toCheckConfig (some "9000000000") = some "+919000000000" ∧
    ¬ Registered (onionsNamed 2000).db "+919000000000" := by
  decide +kernel

end Krishi
