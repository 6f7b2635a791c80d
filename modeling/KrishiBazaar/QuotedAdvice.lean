import KrishiBazaar.Unregistered
/-!
# QuotedAdvice — the price of a reply and the price its advice is about

The price comes from the near market or the district, by precedence of source; the advice from the row that a query over
all markets and sources lists first.  They are one price exactly when the mean of the prices behind the quoted one is, as
a float, that row's price (`advice_price_iff`).
-/
namespace Krishi

open Lib

/-- The markets' prices on the last day of the rows behind the quoted price add up to a float whose share for each of them
is, as a float, the price of the row that the sale window lists first. -/
def Daytime.NewestLevel (x : Daytime) (cfg : CheckConfig) (db : DB) (commodityId : Uuid) (user : ProfileRow) : Prop :=
  ∀ d ∈ lastDay (x.quotedRows cfg db commodityId user),
    ∀ top ∈ (x.newest cfg.arith db commodityId (fun _ => true) 30).head?,
      cfg.arith.round (cfg.arith.sum (marketPrices (x.quotedRows cfg db commodityId user) d)
        / (marketPrices (x.quotedRows cfg db commodityId user) d).length) = top.modalPrice

section Advice

variable {x : Daytime} {cfg : ReplyConfig} {db : DB} {commodityId : Uuid} {user : ProfileRow} {price : ℚ}

theorem newest_ne_nil {r : SeriesRow} (h : r ∈ x.quotedRows cfg.toCheckConfig db commodityId user) :
    x.newest cfg.arith db commodityId (fun _ => true) 30 ≠ [] := by
  have hrow : ∃ q ∈ db.prices.rows, q.commodityId = commodityId ∧ x.today - historyDays ≤ q.arrivalDate := by
    unfold Daytime.quotedRows Daytime.districtRows at h
    split at h <;>
    · obtain ⟨q, hq, ⟨hc, hd, -⟩, -⟩ := mem_historyRows.1 h
      exact ⟨q, hq, hc, hd⟩
  obtain ⟨q, hq, hc, hd⟩ := hrow
  have hsel : q ∈ db.prices.rows.filter (fun r => r.commodityId = commodityId ∧ x.today - historyDays ≤ r.arrivalDate ∧
      true = true) := List.mem_filter.2 ⟨hq, by simp [hc, hd]⟩
  unfold Daytime.newest
  rw [Ne, List.map_eq_nil_iff]
  exact x.order.page_ne_nil (by decide) (List.ne_nil_of_mem hsel)

/-- **The quoted price and the latest price of the window**, and when they are the same. -/
theorem window_price_iff (h : (x.price cfg.toCheckConfig db commodityId user).1 = some price) :
    ∃ window, x.window cfg db commodityId none user.lat user.lng = some window ∧
      (price = window.latestPrice ↔ x.NewestLevel cfg.toCheckConfig db commodityId user) := by
  rw [price_eq_mean] at h
  obtain ⟨d, hday, hmean⟩ := Option.map_eq_some_iff.1 h
  obtain ⟨r, hr, -⟩ := exists_lastDay hday
  obtain ⟨window, hwindow⟩ : ∃ window, x.window cfg db commodityId none user.lat user.lng = some window := by
    obtain ⟨top, rest, htop⟩ := List.exists_cons_of_ne_nil (newest_ne_nil (List.mem_filter.1 hr).1)
    unfold Daytime.window
    have hrows : x.newest cfg.arith db commodityId (fun r => (none : Option Uuid).all (r.marketId = ·)) 30 = top :: rest :=
      htop
    exact ⟨_, by rw [hrows]⟩
  refine ⟨window, hwindow, ?_⟩
  obtain ⟨top, rest, hrows, hlatest⟩ := window_latestPrice hwindow
  have htop : x.newest cfg.arith db commodityId (fun _ => true) 30 = top :: rest := hrows
  have hlevel : x.NewestLevel cfg.toCheckConfig db commodityId user ↔
      cfg.arith.mean (marketPrices (x.quotedRows cfg.toCheckConfig db commodityId user) d) = top.modalPrice := by
    unfold Daytime.NewestLevel
    rw [hday, htop]
    simp [Arith.mean, Arith.div]
  rw [hlevel, hmean, hlatest]

/-- A reply with a price was drafted from the price and the window. -/
theorem draft_replied {sender rawMsg message : String} {recommendation : Recommendation} {sms : Option Reply}
    (h : x.draft cfg db sender rawMsg = .ok (.replied recommendation message, sms)) :
    ∃ row price vars, x.crop db (aliasKeys cfg rawMsg) = some row ∧
      (x.price cfg.toCheckConfig db row.commodityId (x.profile db sender)).1 = some price ∧
      x.recommendation cfg db row.commodityId (x.profile db sender) = recommendation ∧
      sms.map (·.vars) = some (some vars) ∧ vars.price = price ∧ vars.action = recommendation.text := by
  unfold Daytime.draft at h
  dsimp only at h
  split at h
  · split at h <;> cases h
  · rename_i row hcrop
    split at h
    · split at h <;> cases h
    · rename_i price marketName hprice
      cases hs : x.saleSms cfg db (x.profile db sender) row price marketName with
      | error e =>
        rw [hs] at h
        cases h
      | ok reply =>
        rw [hs] at h
        cases h
        exact ⟨row, price, _, hcrop, congrArg Prod.fst hprice, rfl, rfl, rfl, rfl⟩

end Advice

theorem deliver_replied {x : Exchange} {w : Phone} {r : InboundResponse} {sms : Option Reply}
    {recommendation : Recommendation} {message : String}
    (h : (x.deliver w r sms).1 = .replied recommendation message) :
    r = .replied recommendation message ∧ (x.deliver w r sms).2.sent = w.sent ++ sms.toList := by
  unfold Exchange.deliver at h ⊢
  cases sms with
  | none => exact ⟨h, (List.append_nil _).symm⟩
  | some sms =>
    dsimp only at h ⊢
    split at h
    · rename_i hcap
      rw [if_pos hcap]
      exact ⟨h, rfl⟩
    · cases h

/-- **A reply's advice is about the price it quotes exactly when the newest row has it.** -/
theorem advice_price_iff (cfg : ReplyConfig) (x : Exchange) (w : Phone) (payload : Payload)
    {recommendation : Recommendation} {message : String}
    (h : ((processInbound cfg payload).run x.exec w).1 = .ok (.replied recommendation message)) :
    ∃ sender rawMsg row, payload.parts cfg = some (sender, rawMsg) ∧
      x.day.crop w.db (aliasKeys cfg rawMsg) = some row ∧ ∃ sms vars window,
        ((processInbound cfg payload).run x.exec w).2.sent = w.sent ++ [sms] ∧ sms.vars = some vars ∧
        (computeSaleWindow cfg row.commodityId none (x.day.profile w.db sender).lat (x.day.profile w.db sender).lng).run
          x.day.exec w.db = (.ok (some window), w.db) ∧
        window.recommendation = recommendation ∧ vars.action = recommendation.text ∧
        (vars.price = window.latestPrice ↔
          x.day.NewestLevel cfg.toCheckConfig w.db row.commodityId (x.day.profile w.db sender)) := by
  cases hparts : payload.parts cfg with
  | none =>
    obtain ⟨r, hrun, hr⟩ := run_ignored (x := x) (w := w) hparts
    rw [hrun] at h
    rcases hr with rfl | ⟨e, rfl⟩ <;> cases h
  | some parts =>
    obtain ⟨sender, rawMsg⟩ := parts
    rw [run_processInbound hparts, run_answer] at h ⊢
    cases hdraft : x.day.draft cfg w.db sender rawMsg with
    | error e =>
      rw [hdraft] at h
      cases h
    | ok draft =>
      obtain ⟨r, sms⟩ := draft
      rw [hdraft] at h
      obtain ⟨rfl, hsent⟩ := deliver_replied (Except.ok.inj h)
      obtain ⟨row, price, vars, hcrop, hprice, hrec, hvars, rfl, haction⟩ := draft_replied hdraft
      obtain ⟨sms, rfl, hv⟩ := Option.map_eq_some_iff.1 hvars
      obtain ⟨window, hwindow, hiff⟩ := window_price_iff hprice
      refine ⟨sender, rawMsg, row, rfl, hcrop, sms, vars, window, hsent, hv, ?_, ?_, haction, hiff⟩
      · rw [run_computeSaleWindow, hwindow]
      · rw [← hrec, Daytime.recommendation, hwindow]
        rfl

/-! ## A farmer asks for onions -/

/-- Onions are 2000 in Lasalgaon and 2400 in Pimpalgaon: a farmer is quoted 2200, and advised on 2000. -/
theorem advice_price_differs : Registered (onionsNamed 2400).db "+919876543210" ∧
    (((processInbound plainReplies (asksForOnions "9876543210")).run onDay20.exec (onionsNamed 2400)).2.sent.map
      (fun sms => sms.vars.map (·.price))) = [some 2200] ∧
    ((computeSaleWindow plainReplies 1 none none none).run onDay20.day.exec (onionsNamed 2400).db).1.map
      (fun window => window.map (·.latestPrice)) = .ok (some 2000) := by
  decide +kernel

/-- At 2000 in both, the farmer is quoted 2000 and advised on 2000. -/
theorem advice_price_level : ∃ sms vars window,
    ((processInbound plainReplies (asksForOnions "9876543210")).run onDay20.exec (onionsNamed 2000)).2.sent = [sms] ∧
    sms.vars = some vars ∧
    ((computeSaleWindow plainReplies 1 none none none).run onDay20.day.exec (onionsNamed 2000).db).1 = .ok (some window) ∧
    vars.price = window.latestPrice := by
  have hreplied : ((processInbound plainReplies (asksForOnions "9876543210")).run onDay20.exec (onionsNamed 2000)).1
      = .ok (.replied .wait "KB: Kanda ₹2000. थांबा.") := by decide +kernel
  obtain ⟨sender, rawMsg, row, hparts, hcrop, sms, vars, window, hsent, hvars, hwindow, -, -, hiff⟩ :=
    advice_price_iff plainReplies onDay20 (onionsNamed 2000) (asksForOnions "9876543210") hreplied
  have hparts' : (asksForOnions "9876543210").parts plainReplies = some ("+919876543210", "onion today") := by
    decide +kernel
  obtain ⟨rfl, rfl⟩ := Prod.mk.inj (Option.some.inj (hparts.symm.trans hparts'))
  have hcrop' : onDay20.day.crop (onionsNamed 2000).db (aliasKeys plainReplies "onion today")
      = some ⟨1, some ⟨1, "Onion", "Kanda", "Pyaz", 100, 10000⟩⟩ := by decide +kernel
  obtain rfl := Option.some.inj (hcrop.symm.trans hcrop')
  have hprofile : onDay20.day.profile (onionsNamed 2000).db "+919876543210" = nashikFarmer.row := by decide +kernel
  rw [hprofile] at hwindow hiff
  have hlevel : onDay20.day.NewestLevel plainReplies.toCheckConfig (onionsNamed 2000).db 1 nashikFarmer.row := by
    unfold Daytime.NewestLevel
    decide +kernel
  exact ⟨sms, vars, window, hsent, hvars, congrArg Prod.fst hwindow, hiff.2 hlevel⟩

end Krishi
