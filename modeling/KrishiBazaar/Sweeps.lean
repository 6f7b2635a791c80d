import KrishiBazaar.Moves
/-!
# Sweeps — which offers expire, and which lots reopen

`expire_stale_offers` reads at most 500 pending offers, expires the stale ones among them one by one, and after each asks
again whether the offer's lot is left without a pending offer.  What it leaves depends only on which offers it expired
(`handle_expireStaleOffers_swept`): with at most 500 pending offers these are all that are stale (`sweep_exact`), with
more a stale one may be left out (`sweep_misses_iff`).
-/
namespace Krishi

open Lib

/-! ## The state after some of the offers are expired -/

/-- The lot was offered, one of the offers expired was on it, and no other offer on it is pending. -/
def LetGo (db : DB) (expired : List Uuid) (l : Lot) : Bool :=
  l.status = .offered ∧ (∃ x ∈ db.offers.rows, x.lotId = l.id ∧ x.id ∈ expired) ∧
    ∀ x ∈ db.offers.rows, x.lotId = l.id → x.status = .pending → x.id ∈ expired

/-- The database with the offers expired, and the lots they let go reopened. -/
def sweptOf (db : DB) (now : Time) (expired : List Uuid) : DB :=
  { db with
    offers := db.offers.update (fun x => x.id ∈ expired) (Offer.setStatus .expired now)
    lots := db.lots.update (LetGo db expired) (Lot.setStatus .open) }

/-- What the loop carries once the offers are expired. -/
def sweepState (db : DB) (now : Time) (expired : List Uuid) : (List Uuid × Nat) × DB :=
  ((expired, (db.lots.rows.filter (LetGo db expired)).length), sweptOf db now expired)

section

variable {db : DB} {now : Time} {expired : List Uuid} {a : Offer} {l : Lot}

theorem letGo_iff : LetGo db expired l = true ↔ l.status = .offered ∧
    (∃ x ∈ db.offers.rows, x.lotId = l.id ∧ x.id ∈ expired) ∧
    ∀ x ∈ db.offers.rows, x.lotId = l.id → x.status = .pending → x.id ∈ expired := decide_eq_true_iff

/-- What the expired offers are on the lot decides whether it is let go. -/
theorem letGo_iff_of {P : Offer → Prop} (h : ∀ x ∈ db.offers.rows, x.lotId = l.id → (x.id ∈ expired ↔ P x)) :
    LetGo db expired l = true ↔ l.status = .offered ∧ (∃ x ∈ db.offers.rows, x.lotId = l.id ∧ P x) ∧
      ∀ x ∈ db.offers.rows, x.lotId = l.id → x.status = .pending → P x := by
  rw [letGo_iff]
  refine and_congr Iff.rfl (and_congr ?_ ?_)
  · exact exists_congr (fun x => and_congr_right (fun hx => and_congr_right (fun hlot => h x hx hlot)))
  · exact forall_congr' (fun x => forall_congr' (fun hx => forall_congr' (fun hlot => imp_congr_right
      (fun _ => h x hx hlot))))

theorem sweepState_nil (db : DB) (now : Time) : sweepState db now [] = (([], 0), db) := by
  have hlets : ∀ l, LetGo db [] l = false := by
    intro l
    simp [LetGo]
  have hoffers : db.offers.update (fun x => x.id ∈ ([] : List Uuid)) (Offer.setStatus .expired now) = db.offers :=
    Table.update_eq_self (by simp)
  have hlots : db.lots.update (LetGo db []) (Lot.setStatus .open) = db.lots :=
    Table.update_eq_self (fun l _ => hlets l)
  unfold sweepState sweptOf
  rw [hoffers, hlots, List.filter_eq_nil_iff.2 (by simp [hlets])]
  rfl

section Round

variable (ha : a ∈ db.offers.rows) (hpending : a.status = .pending) (hnew : a.id ∉ expired)

include ha

/-- Another lot is let go as before. -/
theorem letGo_other (hl : l.id ≠ a.lotId) : LetGo db (expired ++ [a.id]) l = LetGo db expired l := by
  have hmem : ∀ x ∈ db.offers.rows, x.lotId = l.id → (x.id ∈ expired ++ [a.id] ↔ x.id ∈ expired) := by
    intro x hx hlot
    rw [List.mem_append, List.mem_singleton, or_iff_left]
    intro hid
    exact hl (hlot ▸ (db.offers.eq_of_key hx ha hid) ▸ rfl)
  rw [Bool.eq_iff_iff, letGo_iff_of hmem, letGo_iff]

include hpending hnew

/-- The lot of an offer that is still pending is not let go. -/
theorem not_letGo (hl : l.id = a.lotId) : LetGo db expired l = false := by
  rw [← Bool.not_eq_true, letGo_iff]
  rintro ⟨-, -, hall⟩
  exact hnew (hall a ha hl.symm hpending)

omit ha hpending hnew in
theorem offers_expired : ((sweptOf db now expired).setOfferStatus a.id .expired now).offers
    = db.offers.update (fun x => x.id ∈ expired ++ [a.id]) (Offer.setStatus .expired now) :=
  (Table.update_update (fun _ => rfl) (fun _ => rfl)).trans (Table.update_congr (fun x _ => by simp))

/-- **After an offer is expired its lot is idle just if it is let go.** -/
theorem idle_expired : idle ((sweptOf db now expired).setOfferStatus a.id .expired now) a.lotId
    = (db.lots.get? a.lotId).any (LetGo db (expired ++ [a.id])) := by
  have hpend : (∀ x ∈ ((sweptOf db now expired).setOfferStatus a.id .expired now).offers.rows,
      x.lotId = a.lotId → ¬ x.status = .pending) ↔
        ∀ x ∈ db.offers.rows, x.lotId = a.lotId → x.status = .pending → x.id ∈ expired ++ [a.id] := by
    rw [offers_expired]
    simp only [Table.mem_update, forall_exists_index, and_imp, forall_apply_eq_imp_iff₂]
    refine forall_congr' (fun x => forall_congr' (fun hx => ?_))
    by_cases hid : x.id ∈ expired ++ [a.id]
    · simp [hid, Offer.setStatus]
    · simp [hid]
  have hlot : ((sweptOf db now expired).setOfferStatus a.id .expired now).lots.get? a.lotId = db.lots.get? a.lotId := by
    show (db.lots.update (LetGo db expired) (Lot.setStatus .open)).get? a.lotId = _
    rw [Table.get?_update]
    cases hl : db.lots.get? a.lotId with
    | none => rfl
    | some l => simp [not_letGo ha hpending hnew (Table.key_of_get? hl)]
  rw [Bool.eq_iff_iff, idle, decide_eq_true_iff, hpend, hlot]
  cases hl : db.lots.get? a.lotId with
  | none => simp
  | some l =>
    have hid : l.id = a.lotId := Table.key_of_get? hl
    rw [Option.any_some, letGo_iff, hid]
    have hmem : ∃ x ∈ db.offers.rows, x.lotId = a.lotId ∧ x.id ∈ expired ++ [a.id] := ⟨a, ha, rfl, by simp⟩
    simp only [Option.mem_def, Option.some.injEq, exists_eq_left', hmem, true_and]
    exact and_comm

/-- A lot is let go after the offer if it was before, or is the offer's lot and is now. -/
theorem letGo_snoc (hl : l ∈ db.lots.rows) : LetGo db (expired ++ [a.id]) l = (LetGo db expired l ||
    (l.id = a.lotId && (db.lots.get? a.lotId).any (LetGo db (expired ++ [a.id])))) := by
  by_cases hid : l.id = a.lotId
  · have hget : db.lots.get? a.lotId = some l := hid ▸ Table.get?_of_mem hl
    simp [not_letGo ha hpending hnew hid, hid, hget]
  · simp [letGo_other ha hid, hid]

theorem sweptOf_snoc : reopened ((sweptOf db now expired).setOfferStatus a.id .expired now) a.lotId
    = sweptOf db now (expired ++ [a.id]) := by
  have hlots : (reopened ((sweptOf db now expired).setOfferStatus a.id .expired now) a.lotId).lots
      = db.lots.update (LetGo db (expired ++ [a.id])) (Lot.setStatus .open) := by
    have hsnoc := Table.update_congr (f := Lot.setStatus .open) (fun l hl => letGo_snoc ha hpending hnew hl)
    rw [reopened, idle_expired ha hpending hnew, hsnoc]
    cases hc : (db.lots.get? a.lotId).any (LetGo db (expired ++ [a.id])) with
    | false =>
      simp only [Bool.and_false, Bool.or_false]
      rfl
    | true =>
      simp only [Bool.and_true]
      exact Table.update_update (fun _ => rfl) (fun _ => rfl)
  have hoffers : (reopened ((sweptOf db now expired).setOfferStatus a.id .expired now) a.lotId).offers
      = db.offers.update (fun x => x.id ∈ expired ++ [a.id]) (Offer.setStatus .expired now) := by
    rw [← offers_expired]
    unfold reopened
    split <;> rfl
  have hframe : reopened ((sweptOf db now expired).setOfferStatus a.id .expired now) a.lotId
      = { db with
          offers := (reopened ((sweptOf db now expired).setOfferStatus a.id .expired now) a.lotId).offers
          lots := (reopened ((sweptOf db now expired).setOfferStatus a.id .expired now) a.lotId).lots } := by
    unfold reopened
    split <;> rfl
  rw [hframe, hlots, hoffers]
  rfl

/-- The lots let go after the offer are those let go before, and the offer's lot if it is let go now. -/
theorem length_letGo_snoc : (db.lots.rows.filter (LetGo db (expired ++ [a.id]))).length
    = (db.lots.rows.filter (LetGo db expired)).length
      + if (db.lots.get? a.lotId).any (LetGo db (expired ++ [a.id])) then 1 else 0 := by
  rw [List.filter_congr (fun l hl => letGo_snoc ha hpending hnew hl), Table.length_filter_or]
  · congr 1
    cases hc : (db.lots.get? a.lotId).any (LetGo db (expired ++ [a.id])) with
    | false => simp
    | true =>
      obtain ⟨l, hl, -⟩ := (Option.any_eq_true _ _).1 hc
      simp only [Bool.and_true, if_true, db.lots.filter_key, Option.mem_def.1 hl]
      rfl
  · intro l hl hid
    exact not_letGo ha hpending hnew (of_decide_eq_true (Bool.and_eq_true _ _ ▸ hid).1)

/-- **One round expires its offer, if it is stale, and lets the offer's lot go, if it can.** -/
theorem expireRound_sweepState (ttlHours : Int) : expireRound ttlHours now (sweepState db now expired) a
    = sweepState db now (if offerIsStale a now ttlHours then expired ++ [a.id] else expired) := by
  unfold expireRound expireOne sweepState
  by_cases hs : offerIsStale a now ttlHours = true
  · simp only [if_pos hs]
    rw [sweptOf_snoc ha hpending hnew, length_letGo_snoc ha hpending hnew, idle_expired ha hpending hnew]
    refine Prod.ext (Prod.ext rfl ?_) rfl
    dsimp only
    split <;> rfl
  · simp only [if_neg hs]

end Round

/-- **A sweep of offers that are pending leaves the stale ones among them expired.** -/
theorem foldl_expireRound (ttlHours : Int) : ∀ (l : List Offer) (expired : List Uuid), (l.map (·.id)).Nodup →
    (∀ a ∈ l, a ∈ db.offers.rows ∧ a.status = .pending ∧ a.id ∉ expired) →
      l.foldl (expireRound ttlHours now) (sweepState db now expired)
        = sweepState db now (expired ++ (l.filter (fun a => offerIsStale a now ttlHours)).map (·.id))
  | [], expired, _, _ => by simp
  | a :: l, expired, hnd, hl => by
    obtain ⟨ha, hpending, hnew⟩ := hl a List.mem_cons_self
    rw [List.map_cons, List.nodup_cons] at hnd
    have hrest : ∀ b ∈ l, b ∈ db.offers.rows ∧ b.status = .pending ∧
        b.id ∉ (if offerIsStale a now ttlHours then expired ++ [a.id] else expired) := by
      intro b hb
      obtain ⟨hmem, hpend, hnot⟩ := hl b (List.mem_cons_of_mem a hb)
      have hne : b.id ≠ a.id := fun he => hnd.1 (he ▸ List.mem_map_of_mem hb)
      refine ⟨hmem, hpend, ?_⟩
      split
      · simp [hnot, hne]
      · exact hnot
    rw [List.foldl_cons, expireRound_sweepState ha hpending hnew, foldl_expireRound ttlHours l _ hnd.2 hrest]
    by_cases hs : offerIsStale a now ttlHours = true
    · simp [hs]
    · simp [hs]

end

/-- The ids of the stale offers that a sweep looks at. -/
def staleIds (o : RowOrder) (ttlHours : Int) (now : Time) (db : DB) : List Uuid :=
  ((swept o db).filter (fun a => offerIsStale a now ttlHours)).map (·.id)

/-- **What a sweep does** depends only on the offers it expires. -/
theorem handle_expireStaleOffers_swept (o : RowOrder) (ttlHours : Int) (now : Time) (db : DB) :
    handle o (expireStaleOffers ttlHours now) db
      = (.ok ⟨(staleIds o ttlHours now db).length,
          (db.lots.rows.filter (LetGo db (staleIds o ttlHours now db))).length, staleIds o ttlHours now db⟩,
        sweptOf db now (staleIds o ttlHours now db)) := by
  have hfold : (swept o db).foldl (expireRound ttlHours now) (sweepState db now []) = _ := foldl_expireRound ttlHours
    (swept o db) [] (nodup_swept o db) (fun a ha => ⟨(mem_swept ha).1, (mem_swept ha).2, by simp⟩)
  rw [sweepState_nil, List.nil_append] at hfold
  unfold expireStaleOffers
  rw [handle_bind, handle_selectLimit, Prog.onOk_ok, handle_bind,
    handle_foldlM o db _ (expireRound ttlHours now) (fun b a db => handle_expireOffer o ttlHours now b a db),
    Prog.onOk_ok, handle_pure]
  exact congrArg (fun x : (List Uuid × Nat) × DB => (Except.ok (⟨x.1.1.length, x.1.2, x.1.1⟩ : ExpireSummary), x.2)) hfold

/-! ## At most 500 pending offers -/

/-- The offers with those expired that are pending and older than the limit. -/
def expiredOffers (ttlHours : Int) (now : Time) (db : DB) : Table Offer.id Offer.check :=
  db.offers.update (fun x => offerIsStale x now ttlHours) (Offer.setStatus .expired now)

/-- The lot was offered, an offer on it expired, and no offer on it is pending any more. -/
def LeftIdle (ttlHours : Int) (now : Time) (db : DB) (l : Lot) : Bool :=
  l.status = .offered ∧ (∃ x ∈ db.offers.rows, x.lotId = l.id ∧ offerIsStale x now ttlHours) ∧
    ∀ x ∈ (expiredOffers ttlHours now db).rows, x.lotId = l.id → ¬ x.status = .pending

section

variable {o : RowOrder} {ttlHours : Int} {now : Time} {db : DB} {x : Offer}

theorem mem_staleIds (hx : x ∈ db.offers.rows) :
    x.id ∈ staleIds o ttlHours now db ↔ x ∈ swept o db ∧ offerIsStale x now ttlHours = true := by
  unfold staleIds
  rw [List.mem_map]
  constructor
  · rintro ⟨y, hy, hid⟩
    obtain ⟨hmem, hs⟩ := List.mem_filter.1 hy
    obtain rfl := db.offers.eq_of_key (mem_swept hmem).1 hx hid
    exact ⟨hmem, hs⟩
  · rintro ⟨hmem, hs⟩
    exact ⟨x, List.mem_filter.2 ⟨hmem, hs⟩, rfl⟩

section Few

variable (h : (db.offers.rows.filter (fun x => x.status = .pending)).length ≤ 500)

include h

theorem swept_all : swept o db = o.order (db.offers.rows.filter (fun x => x.status = .pending)) := by
  refine List.take_of_length_le ?_
  rwa [(o.perm _).length_eq]

theorem mem_staleIds_all (hx : x ∈ db.offers.rows) :
    x.id ∈ staleIds o ttlHours now db ↔ offerIsStale x now ttlHours = true := by
  rw [mem_staleIds hx, and_iff_right_iff_imp, swept_all h]
  intro hs
  exact o.mem_order.2 (List.mem_filter.2 ⟨hx, by simpa using ((offerIsStale_iff x now ttlHours).1 hs).1⟩)

theorem staleIds_perm : (staleIds o ttlHours now db).Perm
    ((db.offers.rows.filter (fun x => offerIsStale x now ttlHours)).map (·.id)) := by
  unfold staleIds
  rw [swept_all h]
  refine ((o.perm _).filter _).map _ |>.trans ?_
  rw [List.filter_filter]
  refine List.Perm.of_eq (congrArg (List.map Offer.id) (List.filter_congr (fun x _ => ?_)))
  rw [Bool.and_eq_left_iff_imp]
  intro hs
  simpa using ((offerIsStale_iff x now ttlHours).1 hs).1

theorem letGo_staleIds (l : Lot) : LetGo db (staleIds o ttlHours now db) l = LeftIdle ttlHours now db l := by
  have hstale : ∀ x ∈ db.offers.rows, (x.id ∈ staleIds o ttlHours now db ↔ offerIsStale x now ttlHours = true) :=
    fun x hx => mem_staleIds_all h hx
  have hleft : (∀ x ∈ (expiredOffers ttlHours now db).rows, x.lotId = l.id → ¬ x.status = .pending) ↔
      ∀ x ∈ db.offers.rows, x.lotId = l.id → x.status = .pending → offerIsStale x now ttlHours = true := by
    unfold expiredOffers
    simp only [Table.mem_update, forall_exists_index, and_imp, forall_apply_eq_imp_iff₂]
    refine forall_congr' (fun x => forall_congr' (fun hx => ?_))
    by_cases hs : offerIsStale x now ttlHours = true
    · simp [hs, Offer.setStatus]
    · simp [hs]
  rw [Bool.eq_iff_iff, letGo_iff_of (fun x hx _ => hstale x hx), LeftIdle, decide_eq_true_iff, hleft]

end Few
end

/-- With at most 500 pending offers a sweep leaves the stale ones expired, and open the lots they leave idle. -/
theorem sweep_tables (o : RowOrder) (ttlHours : Int) (now : Time) (db : DB)
    (h : (db.offers.rows.filter (fun x => x.status = .pending)).length ≤ 500) : ∃ summary,
      handle o (expireStaleOffers ttlHours now) db = (.ok summary, { db with
        offers := expiredOffers ttlHours now db
        lots := db.lots.update (LeftIdle ttlHours now db) (Lot.setStatus .open) }) ∧
      summary.expired = (db.offers.rows.filter (fun x => offerIsStale x now ttlHours)).length ∧
      summary.lotsReopened = (db.lots.rows.filter (LeftIdle ttlHours now db)).length ∧
      summary.offerIds.Perm ((db.offers.rows.filter (fun x => offerIsStale x now ttlHours)).map (·.id)) := by
  have hperm : (staleIds o ttlHours now db).Perm
      ((db.offers.rows.filter (fun x => offerIsStale x now ttlHours)).map (·.id)) := staleIds_perm h
  have hletGo : LetGo db (staleIds o ttlHours now db) = LeftIdle ttlHours now db := funext (letGo_staleIds h)
  refine ⟨_, (handle_expireStaleOffers_swept o ttlHours now db).trans (Prod.ext rfl ?_), ?_, ?_, hperm⟩
  · have hoffers : db.offers.update (fun x => x.id ∈ staleIds o ttlHours now db) (Offer.setStatus .expired now)
        = expiredOffers ttlHours now db := by
      refine Table.update_congr (fun x hx => ?_)
      rw [Bool.eq_iff_iff, decide_eq_true_iff, mem_staleIds_all h hx]
    unfold sweptOf
    rw [hoffers, hletGo]
  · rw [hperm.length_eq, List.length_map]
  · rw [hletGo]

/-- A pending offer older than the limit. -/
def Overdue (ttlHours : Int) (now : Time) (x : Offer) : Prop := x.status = .pending ∧ hours ttlHours < now - x.createdAt

instance {ttlHours : Int} {now : Time} {x : Offer} : Decidable (Overdue ttlHours now x) :=
  inferInstanceAs (Decidable (_ ∧ _))

/-- The lot was offered, an offer on it was overdue, and no offer on it is pending among those left. -/
def LetGoBy (ttlHours : Int) (now : Time) (before left : List Offer) (l : Lot) : Prop :=
  l.status = .offered ∧ (∃ x ∈ before, x.lotId = l.id ∧ Overdue ttlHours now x) ∧
    ∀ x ∈ left, x.lotId = l.id → x.status ≠ .pending

instance {ttlHours : Int} {now : Time} {before left : List Offer} {l : Lot} :
    Decidable (LetGoBy ttlHours now before left l) := inferInstanceAs (Decidable (_ ∧ _ ∧ _))

/-- **With at most 500 pending offers a sweep expires the overdue ones and reopens the lots they leave without a pending
offer**, changes nothing else and counts what it did. -/
theorem sweep_exact (o : RowOrder) (ttlHours : Int) (now : Time) (db : DB)
    (h : (db.offers.rows.filter (fun x => x.status = .pending)).length ≤ 500) : ∃ summary db',
      handle o (expireStaleOffers ttlHours now) db = (.ok summary, db') ∧
      db' = { db with offers := db'.offers, lots := db'.lots } ∧
      db'.offers.rows = db.offers.rows.map (fun x =>
        if Overdue ttlHours now x then { x with status := .expired, updatedAt := now } else x) ∧
      db'.lots.rows = db.lots.rows.map (fun l =>
        if LetGoBy ttlHours now db.offers.rows db'.offers.rows l then { l with status := .open } else l) ∧
      summary.expired = (db.offers.rows.filter (fun x => Overdue ttlHours now x)).length ∧
      summary.lotsReopened = (db.lots.rows.filter (fun l =>
        LetGoBy ttlHours now db.offers.rows db'.offers.rows l)).length ∧
      summary.offerIds.Perm ((db.offers.rows.filter (fun x => Overdue ttlHours now x)).map (·.id)) := by
  obtain ⟨summary, hrun, hexpired, hreopened, hids⟩ := sweep_tables o ttlHours now db h
  have hstale : (fun x => offerIsStale x now ttlHours) = fun x => decide (Overdue ttlHours now x) := by
    funext x
    rw [Bool.eq_iff_iff, decide_eq_true_iff]
    exact offerIsStale_iff x now ttlHours
  have hidle : LeftIdle ttlHours now db
      = fun l => decide (LetGoBy ttlHours now db.offers.rows (expiredOffers ttlHours now db).rows l) := by
    funext l
    rw [Bool.eq_iff_iff, LeftIdle, decide_eq_true_iff, decide_eq_true_iff]
    exact and_congr_right (fun _ => and_congr_left (fun _ => exists_congr (fun x => and_congr_right (fun _ =>
      and_congr_right (fun _ => offerIsStale_iff x now ttlHours)))))
  rw [hstale] at hexpired hids
  rw [hidle] at hreopened
  refine ⟨summary, _, hrun, rfl, ?_, ?_, hexpired, hreopened, hids⟩
  · unfold expiredOffers
    rw [hstale]
    simp [Table.update, Offer.setStatus]
  · rw [hidle]
    simp [Table.update, Lot.setStatus]

/-- Two days on, the offer of the first day and no other expires, and its lot is open again. -/
theorem firstOffer_swept : ∃ summary db',
    handle .asStored (expireStaleOffers offerTtlHours (hours 49)) (after step firstDay firstOffer) = (.ok summary, db') ∧
      db'.offers.rows.map (fun x => (x.id, x.status)) = [(21, .expired)] ∧
      db'.lots.rows.map (fun l => (l.id, l.status)) = [(11, .open)] ∧
      summary.expired = 1 ∧ summary.lotsReopened = 1 ∧ summary.offerIds.Perm [21] := by
  obtain ⟨summary, db', hrun, -, hoffers, hlots, hexpired, hreopened, hids⟩ :=
    sweep_exact .asStored offerTtlHours (hours 49) (after step firstDay firstOffer) (by decide +kernel)
  rw [hoffers] at hlots hreopened
  refine ⟨summary, db', hrun, ?_, ?_, ?_, ?_, ?_⟩
  · rw [hoffers]
    decide +kernel
  · rw [hlots]
    decide +kernel
  · rw [hexpired]
    decide +kernel
  · rw [hreopened]
    decide +kernel
  · refine hids.trans (List.Perm.of_eq ?_)
    decide +kernel

/-! ## More than 500 pending offers -/

section

variable {o : RowOrder} {ttlHours : Int} {now : Time} {db : DB} {x : Offer}

/-- An offer is stale after a sweep just if it was stale and the sweep did not look at it. -/
theorem stale_after_iff : (x ∈ (handle o (expireStaleOffers ttlHours now) db).2.offers.rows ∧
      offerIsStale x now ttlHours = true) ↔
    x ∈ db.offers.rows ∧ offerIsStale x now ttlHours = true ∧ x ∉ swept o db := by
  rw [handle_expireStaleOffers_swept]
  simp only [sweptOf, Table.mem_update]
  constructor
  · rintro ⟨⟨y, hy, rfl⟩, hs⟩
    by_cases hid : y.id ∈ staleIds o ttlHours now db
    · simp [hid, Offer.setStatus, offerIsStale] at hs
    · simp only [hid, decide_false, Bool.false_eq_true, if_false] at hs ⊢
      exact ⟨hy, hs, fun hmem => hid ((mem_staleIds hy).2 ⟨hmem, hs⟩)⟩
  · rintro ⟨hx, hs, hnot⟩
    have hid : x.id ∉ staleIds o ttlHours now db := fun hid => hnot ((mem_staleIds hx).1 hid).1
    exact ⟨⟨x, hx, by simp [hid]⟩, hs⟩

end

/-- **No order of the rows lets a stale offer survive just if at most 500 offers are pending or none of them is
stale.** -/
theorem sweep_misses_iff (ttlHours : Int) (now : Time) (db : DB) :
    (∀ o : RowOrder, ∀ x ∈ (handle o (expireStaleOffers ttlHours now) db).2.offers.rows, x.status = .pending →
      ¬ hours ttlHours < now - x.createdAt) ↔
    (db.offers.rows.filter (fun x => x.status = .pending)).length ≤ 500 ∨
      ∀ x ∈ db.offers.rows, x.status = .pending → ¬ hours ttlHours < now - x.createdAt := by
  constructor
  · intro hnone
    by_contra hfail
    rw [not_or, Nat.not_le] at hfail
    obtain ⟨hmany, hstale⟩ := hfail
    push Not at hstale
    obtain ⟨x, hx, hpending, hlate⟩ := hstale
    have hmem : x ∈ db.offers.rows.filter (fun x => x.status = .pending) := by simp [hx, hpending]
    have hnd : (db.offers.rows.filter (fun x => x.status = .pending)).Nodup := db.offers.nodup.of_map.filter _
    -- the 500 rows of the page may be all the others
    obtain ⟨o, ho⟩ : ∃ o : RowOrder, x ∉ swept o db := RowOrder.exists_not_mem_take hnd hmem hmany
    have hafter := stale_after_iff.2 ⟨hx, (offerIsStale_iff x now ttlHours).2 ⟨hpending, hlate⟩, ho⟩
    exact hnone o x hafter.1 hpending hlate
  · intro hcond o x hx hpending hlate
    obtain ⟨hmem, -, hnot⟩ := stale_after_iff.1 ⟨hx, (offerIsStale_iff _ _ _).2 ⟨hpending, hlate⟩⟩
    rcases hcond with hfew | hnone
    · rw [swept_all hfew, o.mem_order] at hnot
      exact hnot (by simp [hmem, hpending])
    · exact hnone x hmem hpending hlate

/-- The first day with 501 offers pending on the lot, the last of them a day older than the rest. -/
def crowdedLot : DB :=
  { after step firstDay firstOffer with
    offers := ⟨(List.range 501).map (fun n => ⟨n, 11, 1, 1, 20, 10, .pending, if n = 500 then 0 else hours 24, 0⟩),
      by simpa [List.map_map, Function.comp_def] using List.nodup_range, by
        intro x hx
        obtain ⟨n, -, rfl⟩ := List.mem_map.1 hx
        rfl⟩ }

/-- **Of 501 pending offers the stale one survives**: the page is full of offers that are not. -/
theorem stale_offer_survives :
    let r := handle .asStored (expireStaleOffers offerTtlHours (hours 49)) crowdedLot
    r.1 = .ok ⟨0, 0, []⟩ ∧ ∃ x ∈ r.2.offers.rows, x.id = 500 ∧ x.status = .pending ∧
      hours offerTtlHours < hours 49 - x.createdAt := by
  decide +kernel

end Krishi
