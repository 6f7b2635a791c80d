import KrishiBazaar.Moves
import Mathlib.Data.Set.Basic
/-!
# Backing — the offers behind a lot's status

A lot is offered while somebody bids on it and matched once a bid is accepted.  The first holds in every state of a run:
whatever takes an offer out of pending moves the lot on or reopens it (`offered_backed`).  The second does not, because
`_reopen_lot_if_idle` looks at offered lots only: an accepted offer that is patched to another status leaves its lot
matched, with nothing behind it and closed to new offers.  That is the only way (`matched_backed_iff`); lots absorbed by
an aggregation are matched without an offer and are left out.
-/
namespace Krishi

open Lib

def HasOffer (db : DB) (lotId : Uuid) (os : OfferStatus) : Prop := ∃ x ∈ db.offers.rows, x.lotId = lotId ∧ x.status = os

/-- Every lot in the one status, but for those in `A`, has an offer in the other. -/
def Backed (A : Set Uuid) (ls : LotStatus) (os : OfferStatus) (db : DB) : Prop :=
  ∀ l ∈ db.lots.rows, l.status = ls → l.id ∉ A → HasOffer db l.id os

variable {db db' : DB} {e : Event} {A A' : Set Uuid} {ls : LotStatus} {os : OfferStatus}

/-- A lot needs an offer now only if it did before, or it has one. -/
def Needs (A A' : Set Uuid) (ls : LotStatus) (os : OfferStatus) (db' : DB) (l l' : Lot) : Prop :=
  l'.status = ls → l'.id ∉ A' → (l.status = ls ∧ l.id ∉ A) ∨ HasOffer db' l'.id os

theorem Needs.refl (hA : A ⊆ A') (l : Lot) : Needs A A' ls os db' l l := fun hs hl => Or.inl ⟨hs, fun h => hl (hA h)⟩

theorem Needs.of_ne {l l' : Lot} (h : l'.status ≠ ls) : Needs A A' ls os db' l l' := fun hs => absurd hs h

/-- **Backing is carried over** where no lot needs an offer anew and no lot that needs one loses its last. -/
theorem Backed.carry (hi : Backed A ls os db)
    (hl : Evolves (Needs A A' ls os db') (fun l => l.status ≠ ls) db.lots db'.lots)
    (hx : ∀ l' ∈ db'.lots.rows, l'.status = ls → l'.id ∉ A' → HasOffer db l'.id os → HasOffer db' l'.id os) :
    Backed A' ls os db' := by
  intro l' hl' hs hA'
  rcases hl.new (Table.get?_of_mem hl') with ⟨l, hlold, hneeds⟩ | ⟨-, hne⟩
  · rcases hneeds hs hA' with ⟨hsold, hA⟩ | hoffer
    · have hid : l.id = l'.id := Table.key_of_get? hlold
      exact hx l' hl' hs hA' (hid ▸ hi l (Table.mem_of_get? hlold) hsold hA)
    · exact hoffer
  · exact absurd hs hne

theorem Backed.carry_lots (hi : Backed A ls os db)
    (hl : Evolves (Needs A A' ls os db') (fun l => l.status ≠ ls) db.lots db'.lots) (ho : db'.offers = db.offers) :
    Backed A' ls os db' := by
  refine hi.carry hl (fun l' _ _ _ h => ?_)
  unfold HasOffer at h ⊢
  rwa [ho]

/-! ## A patched offer -/

theorem hasOffer_patch {x y : Offer} {s : OfferStatus} {now : Time} (hy : y ∈ db.offers.rows) (hne : y.id ≠ x.id) :
    y ∈ (db.patchOffer x s now).offers.rows := by
  rw [patchOffer_offers]
  exact Table.mem_update.2 ⟨y, hy, by simp [hne]⟩

theorem mem_patchOffer {x y : Offer} {s : OfferStatus} {now : Time} (h : y ∈ (db.patchOffer x s now).offers.rows) :
    (y ∈ db.offers.rows ∧ y.id ≠ x.id) ∨ (y.id = x.id ∧ y.status = s) := by
  rw [patchOffer_offers] at h
  obtain ⟨z, hz, rfl⟩ := Table.mem_update.1 h
  by_cases hid : z.id = x.id
  · exact Or.inr (by simp [hid, Offer.setStatus])
  · exact Or.inl (by simp [hid, hz])

theorem hasOffer_patched {x : Offer} {s : OfferStatus} {now : Time} (hx : db.offers.get? x.id = some x) :
    HasOffer (db.patchOffer x s now) x.lotId s := by
  refine ⟨(Offer.setStatus s now).apply x, ?_, rfl, rfl⟩
  rw [patchOffer_offers]
  exact Table.mem_update.2 ⟨x, Table.mem_of_get? hx, by simp⟩

/-- A patch keeps the backing if the patched offer's own lot is not left without. -/
theorem Backed.patchOffer {x : Offer} {s : OfferStatus} {now : Time} (hi : Backed A ls os db)
    (hx : db.offers.get? x.id = some x) (hopen : ls ≠ .open) (hmatched : ls = .matched → os = .accepted)
    (hkeep : x.status = os → ∀ l' ∈ (db.patchOffer x s now).lots.rows, l'.id = x.lotId → l'.status = ls → l'.id ∉ A →
      HasOffer (db.patchOffer x s now) x.lotId os) : Backed A ls os (db.patchOffer x s now) := by
  refine hi.carry (patchOffer_lots x s now (Needs.refl subset_rfl) (fun hs l hl => ?_) (fun l _ _ => ?_) _) ?_
  · intro hm hA
    refine Or.inr ?_
    have hid : l.id = x.lotId := Table.key_of_get? hl
    rw [hmatched hm.symm, ← hs]
    exact hid ▸ hasOffer_patched hx
  · exact Needs.of_ne (Ne.symm hopen)
  · rintro l' hl' hs hA ⟨y, hy, hlot, hst⟩
    by_cases hid : y.id = x.id
    · obtain rfl : y = x := db.offers.eq_of_key hy (Table.mem_of_get? hx) hid
      rw [← hlot]
      exact hkeep hst l' hl' hlot.symm hs hA
    · exact ⟨y, hasOffer_patch hy hid, hlot, hst⟩

/-! ## A request -/

/-- **What a request has to see to**: the lots it pools, the offer it patches and the offers it expires. -/
theorem Change.backed (h : Change db e db') (hi : Backed A ls os db) (hA : A ⊆ A')
    (hls : ls = .offered ∧ os = .pending ∨ ls = .matched ∧ os = .accepted)
    (hpool : ∀ body first members db', e.req = .aggregateLots body →
      Pools db body e.user e.uuid e.now first members db' → ls = .matched → ∀ k ∈ body.lotIds, k ∈ A')
    (hpatch : ∀ (x : Offer) (body : OfferUpdate), e.req = .updateOffer x.id body → db.offers.get? x.id = some x →
      x.userId = e.user → Backed A' ls os (patched db x body.status e.now))
    (hexpire : ∀ db x, Backed A ls os db → db.offers.get? x.id = some x → x.status = .pending →
      Backed A ls os (db.patchOffer x .expired e.now)) : Backed A' ls os db' := by
  have hopen : ls ≠ .open := by rcases hls with ⟨rfl, -⟩ | ⟨rfl, -⟩ <;> decide
  have hwithdrawn : ls ≠ .withdrawn := by rcases hls with ⟨rfl, -⟩ | ⟨rfl, -⟩ <;> decide
  have hsold : ls ≠ .sold := by rcases hls with ⟨rfl, -⟩ | ⟨rfl, -⟩ <;> decide
  have hsame : ∀ {db' : DB}, db'.lots = db.lots → db'.offers = db.offers → Backed A' ls os db' := by
    intro db' hl ho
    refine hi.carry_lots ?_ ho
    rw [hl]
    exact Evolves.refl (Needs.refl hA) _
  cases h with
  | nothing => exact hsame rfl rfl
  | lotCreated hu ho hi' =>
    refine hi.carry_lots (Evolves.insert hi' (Needs.refl hA) (by rw [ho]; exact hopen.symm)) ?_
    obtain ⟨hk, hc, -, rfl⟩ := Tab.insert?_ok hi'
    rfl
  | @lotsPooled body first members db' hr hp =>
    refine hi.carry_lots (pooled_evolves hp (Needs.refl hA) (fun m hm hs hnot => ?_) hopen.symm) ?_
    · refine absurd (hpool body first members db' hr hp hs.symm m.id ?_) hnot
      rw [← hp.named.map_id]
      exact List.mem_map.2 ⟨m, hm, rfl⟩
    · obtain ⟨hk, hc, -, rfl⟩ := Tab.insert?_ok hp.inserted
      rfl
  | lotGraded hl hu =>
    exact hi.carry_lots (Evolves.update_key (Needs.refl hA) (fun l _ hs hnot => Or.inl ⟨hs, fun h => hnot (hA h)⟩)) rfl
  | lotWithdrawn hr hl hu =>
    exact hi.carry_lots (Evolves.update_key (Needs.refl hA) (fun l _ => Needs.of_ne hwithdrawn.symm)) rfl
  | @offerCreated lot offer db₁ hl hu hs hq hou hp hi' =>
    obtain ⟨hk, hc, -, rfl⟩ := Tab.insert?_ok hi'
    have hnew : offer ∈ (db.offers.insert offer hk hc).rows := Table.mem_insert.2 (Or.inr rfl)
    refine hi.carry (Evolves.update_key (Needs.refl hA) (fun l hl' hs' hnot => ?_)) (fun l' _ _ _ h => ?_)
    · rcases hls with ⟨rfl, rfl⟩ | ⟨rfl, -⟩
      · exact Or.inr ⟨offer, hnew, (Table.key_of_get? hl').symm, hp⟩
      · cases hs'
    · obtain ⟨x, hx, hlot, hst⟩ := h
      have hold : x ∈ (db.offers.insert offer hk hc).rows := Table.mem_insert.2 (Or.inl hx)
      exact ⟨x, hold, hlot, hst⟩
  | offerPatched hr hx hu => exact hpatch _ _ hr hx hu
  | paymentCreated hx hu ha hpu hp hid hs hi' =>
    obtain ⟨hk, hc, -, rfl⟩ := Tab.insert?_ok hi'
    exact hsame rfl rfl
  | paid hp =>
    refine hi.carry_lots ?_ (by simp)
    rw [DB.rescored_lots]
    unfold DB.closeLot
    split
    · exact Evolves.refl (Needs.refl hA) _
    · exact Evolves.update_key (Needs.refl hA) (fun l _ => Needs.of_ne hsold.symm)
  | failed hp hu hs => exact hsame (by simp) (by simp)
  | disputed hp hu => exact hsame (by simp) (by simp)
  | bookingCreated hx hu hf hi' =>
    obtain ⟨hk, hc, -, rfl⟩ := Tab.insert?_ok hi'
    exact hsame rfl rfl
  | bookingUpdated hb hu hf => exact hsame rfl rfl
  | offersExpired hr =>
    have hswept : Backed A ls os ((swept e.order db).foldl (expireOne offerTtlHours e.now) db) :=
      swept_inv (fun db x => hexpire db x) hi
    exact fun l hl hs hnot => hswept l hl hs (fun h => hnot (hA h))

/-! ## Offered lots -/

/-- A lot that is still offered after its pending offer was taken was not idle. -/
theorem offered_patchOffer {x : Offer} {s : OfferStatus} {now : Time} {l' : Lot}
    (hl' : l' ∈ (db.patchOffer x s now).lots.rows) (hid : l'.id = x.lotId) (hs : l'.status = .offered)
    (hx : db.offers.get? x.id = some x) : HasOffer (db.patchOffer x s now) x.lotId .pending := by
  have hget : (db.patchOffer x s now).lots.get? x.lotId = some l' := hid ▸ Table.get?_of_mem hl'
  have hreopened : ∀ db₁ : DB, (reopened db₁ x.lotId).lots.get? x.lotId = some l' →
      HasOffer (reopened db₁ x.lotId) x.lotId .pending := by
    intro db₁ hg
    unfold HasOffer
    rw [reopened_offers]
    unfold reopened at hg
    split at hg
    · simp only [DB.get?_setLotStatus, if_true, Option.map_eq_some_iff] at hg
      obtain ⟨l, -, rfl⟩ := hg
      cases hs
    · rename_i hidle
      by_contra hnone
      refine hidle ?_
      unfold idle
      rw [decide_eq_true_eq]
      exact ⟨fun y hy hlot hst => hnone ⟨y, hy, hlot, hst⟩, l', hg, hs⟩
  cases s with
  | accepted =>
    simp only [DB.patchOffer, DB.get?_setLotStatus, if_true, Option.map_eq_some_iff] at hget
    obtain ⟨l, -, rfl⟩ := hget
    cases hs
  | rejected => exact hreopened _ hget
  | expired => exact hreopened _ hget
  | pending => exact hasOffer_patched hx

theorem offered_patch {x : Offer} {s : OfferStatus} {now : Time} (hi : Backed A .offered .pending db)
    (hx : db.offers.get? x.id = some x) : Backed A .offered .pending (db.patchOffer x s now) :=
  hi.patchOffer hx (by decide) (fun h => by cases h) (fun _ _ hl' hid hs _ => offered_patchOffer hl' hid hs hx)

theorem offered_step (db : DB) (e : Event) (hi : Backed ∅ .offered .pending db) :
    Backed ∅ .offered .pending (step db e) := by
  refine (step_change db e).backed hi subset_rfl (Or.inl ⟨rfl, rfl⟩) (fun _ _ _ _ _ _ h => by cases h)
    (fun x body _ hx _ => ?_) (fun db x hi hx _ => offered_patch hi hx)
  unfold patched
  split
  · exact offered_patch hi hx
  · split
    · exact hi
    · exact offered_patch hi hx

theorem Start.backed (h : Start db) : Backed A ls os db := by
  intro l hl
  rw [h.lots] at hl
  cases hl

/-- **An offered lot has a pending offer, in every state of a run from empty tables.** -/
theorem offered_backed (db : DB) (h : Start db) (es : List Event) :
    ∀ l ∈ (after step db es).lots.rows, l.status = .offered →
      ∃ x ∈ (after step db es).offers.rows, x.lotId = l.id ∧ x.status = .pending :=
  fun l hl hs => inv_after (Backed ∅ .offered .pending) offered_step es db h.backed l hl hs (Set.notMem_empty _)

/-- Lot 11 is offered, so offer 21 is pending on it. -/
theorem firstOffer_backed :
    ∃ x ∈ (after step firstDay firstOffer).offers.rows, x.lotId = 11 ∧ x.status = .pending := by
  obtain ⟨l, hl⟩ := Option.isSome_iff_exists.1
    (show ((after step firstDay firstOffer).lots.get? 11).isSome = true by decide +kernel)
  have hs : ((after step firstDay firstOffer).lots.get? 11).map (·.status) = some .offered := by decide +kernel
  rw [hl] at hs
  have h := offered_backed firstDay start_firstDay firstOffer l (Table.mem_of_get? hl) (Option.some.inj hs)
  rwa [Table.key_of_get? hl] at h

/-! ## Matched lots -/

/-- The request is an aggregation that succeeds and names the lot. -/
def Absorbs (db : DB) (e : Event) (lotId : Uuid) : Prop :=
  ∃ body first members db', e.req = .aggregateLots body ∧ Pools db body e.user e.uuid e.now first members db' ∧
    lotId ∈ body.lotIds

/-- The lots that the aggregations of a run absorb. -/
def absorbed : DB → List Event → Set Uuid
  | _, [] => ∅
  | db, e :: es => {k | Absorbs db e k} ∪ absorbed (step db e) es

/-- The request takes the only accepted offer from a matched lot that is not in `A`. -/
structure Strands (db : DB) (A : Set Uuid) (e : Event) (x : Offer) : Prop where
  req : ∃ body, e.req = .updateOffer x.id body ∧ body.status ≠ .accepted
  hx : db.offers.get? x.id = some x
  user : x.userId = e.user
  accepted : x.status = .accepted
  only : ∀ y ∈ db.offers.rows, y.lotId = x.lotId → y.status = .accepted → y.id = x.id
  matched : ∃ l, db.lots.get? x.lotId = some l ∧ l.status = .matched
  notIn : x.lotId ∉ A

/-- A database with the lots absorbed so far. -/
def track (s : DB × Set Uuid) (e : Event) : DB × Set Uuid := (step s.1 e, s.2 ∪ {k | Absorbs s.1 e k})

theorem after_track : ∀ (es : List Event) (db : DB) (A : Set Uuid),
    after track (db, A) es = (after step db es, A ∪ absorbed db es)
  | [], db, A => by rw [absorbed, Set.union_empty]; rfl
  | e :: es, db, A => by
    rw [after_cons, after_cons, track, after_track es, absorbed, Set.union_assoc]

/-- A patch that strands nothing leaves every matched lot its accepted offer. -/
theorem matched_patched {x : Offer} {body : OfferUpdate} (hi : Backed A .matched .accepted db)
    (req : e.req = .updateOffer x.id body) (hx : db.offers.get? x.id = some x) (user : x.userId = e.user)
    (hs : ¬ ∃ x, Strands db A e x) : Backed A .matched .accepted (patched db x body.status e.now) := by
  unfold patched
  split
  · rename_i hst
    have hp := ((offerIsStale_iff _ _ _).1 hst).1
    exact hi.patchOffer hx (by decide) (fun _ => rfl) (fun ha => by rw [hp] at ha; cases ha)
  · split
    · exact hi
    · rename_i hacc
      refine hi.patchOffer hx (by decide) (fun _ => rfl) (fun ha l' hl' hid hm hA => ?_)
      have hne : body.status ≠ .accepted := fun h => hacc ⟨h, by rw [ha]; decide⟩
      -- the lot was matched before, and the offer was not its only accepted one
      have hlots : Evolves (fun l l' => l'.status = .matched → l.status = .matched) (fun _ => False) db.lots
          (db.patchOffer x body.status e.now).lots :=
        patchOffer_lots x body.status e.now (fun _ h => h) (fun h => absurd h hne) (fun _ _ _ h => by cases h) _
      rcases hlots.new (Table.get?_of_mem hl') with ⟨l, hl, hml⟩ | ⟨-, hfalse⟩
      · by_contra hnone
        refine hs ⟨x, ⟨body, req, hne⟩, hx, user, ha, fun y hy hlot hst => ?_, ⟨l, hid ▸ hl, hml hm⟩, hid ▸ hA⟩
        by_contra hid'
        exact hnone ⟨y, hasOffer_patch hy hid', hlot, hst⟩
      · exact hfalse.elim

theorem Strands.not_backed {x : Offer} (h : Strands db A e x) : ¬ Backed A .matched .accepted (step db e) := by
  obtain ⟨body, req, hne⟩ := h.req
  obtain ⟨l, hl, hm⟩ := h.matched
  have hstep : step db e = db.patchOffer x body.status e.now := by
    rw [step_updateOffer req h.hx h.user, patched, if_neg (by simp [offerIsStale_iff, h.accepted]),
      if_neg (fun hc => hne hc.1)]
  have hlots : Evolves (fun l l' => l.status = .matched → l'.status = .matched) (fun _ => True) db.lots
      (db.patchOffer x body.status e.now).lots :=
    patchOffer_lots x body.status e.now (fun _ h => h) (fun h => absurd h hne)
      (fun l _ ho hm => by rw [hm] at ho; cases ho) _
  obtain ⟨l', hl', hm'⟩ := hlots.old hl
  intro hb
  rw [hstep] at hb
  obtain ⟨y, hy, hlot, hst⟩ := hb l' (Table.mem_of_get? hl') (hm' hm) (by rw [Table.key_of_get? hl']; exact h.notIn)
  rw [Table.key_of_get? hl'] at hlot
  rcases mem_patchOffer hy with ⟨hyold, hid⟩ | ⟨-, hs⟩
  · exact hid (h.only y hyold hlot hst)
  · exact hne (hs.symm.trans hst)

theorem matched_step (s : DB × Set Uuid) (e : Event) (hi : Backed s.2 .matched .accepted s.1) :
    Backed (track s e).2 .matched .accepted (track s e).1 ↔ ¬ ∃ x, Strands s.1 s.2 e x := by
  have hsub : s.2 ⊆ (track s e).2 := Set.subset_union_left
  constructor
  · rintro hb ⟨x, hx⟩
    -- a patch absorbs nothing
    have hnone : (track s e).2 = s.2 := by
      obtain ⟨body, req, -⟩ := hx.req
      refine Set.union_eq_self_of_subset_right (fun k hk => ?_)
      obtain ⟨body', -, -, -, req', -⟩ := hk
      rw [req] at req'
      cases req'
    rw [hnone] at hb
    exact hx.not_backed hb
  · intro hs
    refine (step_change s.1 e).backed hi hsub (Or.inr ⟨rfl, rfl⟩) (fun body first members db' req pools _ k hk => ?_)
      (fun x body req hx user => ?_) (fun db x hi hx hp => ?_)
    · exact Or.inr ⟨body, first, members, db', req, pools, hk⟩
    · exact fun l hl hm hnot => matched_patched hi req hx user hs l hl hm (fun h => hnot (hsub h))
    · exact hi.patchOffer hx (by decide) (fun _ => rfl) (fun ha => by rw [hp] at ha; cases ha)

/-- **Every matched lot that was not absorbed has an accepted offer, in every state of a run, exactly when no request of
the run strands one.** -/
theorem matched_backed_iff (db : DB) (h : Start db) (es : List Event) :
    (∀ pre post, es = pre ++ post → ∀ l ∈ (after step db pre).lots.rows, l.status = .matched → l.id ∉ absorbed db pre →
      ∃ x ∈ (after step db pre).offers.rows, x.lotId = l.id ∧ x.status = .accepted) ↔
    ∀ pre e post, es = pre ++ e :: post → ¬ ∃ x, Strands (after step db pre) (absorbed db pre) e x := by
  have hiff : (∀ pre post, es = pre ++ post → Backed (after track (db, ∅) pre).2 .matched .accepted
      (after track (db, ∅) pre).1) ↔ Along track (fun s e => ¬ ∃ x, Strands s.1 s.2 e x) (db, ∅) es :=
    along_inv_iff (J := fun _ => True) (I := fun s => Backed s.2 .matched .accepted s.1) (fun _ _ _ => trivial)
      (fun s e _ => matched_step s e) es (db, ∅) trivial h.backed
  rw [along_iff] at hiff
  simp only [after_track, Set.empty_union] at hiff
  exact hiff

theorem absorbed_eq_empty : ∀ (es : List Event) (db : DB), (∀ e ∈ es, ∀ body, e.req ≠ .aggregateLots body) →
    absorbed db es = ∅
  | [], _, _ => rfl
  | e :: es, db, h => by
    rw [absorbed, absorbed_eq_empty es _ (fun e' he' => h e' (List.mem_cons_of_mem e he')), Set.union_empty]
    refine Set.eq_empty_of_forall_notMem (fun k hk => ?_)
    obtain ⟨body, -, -, -, req, -⟩ := hk
    exact h e List.mem_cons_self body req

/-- The sale goes through as accepted: lot 11 is matched, and offer 21 is the accepted one. -/
theorem firstSale_matched_backed :
    ∃ x ∈ (after step firstDay (firstSale.take 4)).offers.rows, x.lotId = 11 ∧ x.status = .accepted := by
  obtain ⟨l, hl⟩ := Option.isSome_iff_exists.1
    (show ((after step firstDay (firstSale.take 4)).lots.get? 11).isSome = true by decide +kernel)
  have hs : ((after step firstDay (firstSale.take 4)).lots.get? 11).map (·.status) = some .matched := by decide +kernel
  rw [hl] at hs
  have hpatches : ∀ e ∈ firstSale, ∀ k body, e.req = .updateOffer k body → body.status = .accepted := by
    intro e he k body hreq
    simp only [firstSale, firstOffer, List.cons_append, List.nil_append, List.mem_cons, List.not_mem_nil,
      or_false] at he
    rcases he with rfl | rfl | rfl | rfl | rfl
    · cases hreq
    · cases hreq
    · obtain ⟨-, rfl⟩ := Request.updateOffer.inj hreq
      rfl
    · cases hreq
    · cases hreq
  have hnone : ∀ pre e post, firstSale = pre ++ e :: post →
      ¬ ∃ x, Strands (after step firstDay pre) (absorbed firstDay pre) e x := by
    rintro pre e post hes ⟨x, ⟨body, req, hne⟩, -⟩
    exact hne (hpatches e (by rw [hes]; exact List.mem_append_right _ List.mem_cons_self) _ _ req)
  have hnot : l.id ∉ absorbed firstDay (firstSale.take 4) := by
    rw [absorbed_eq_empty]
    · exact Set.notMem_empty _
    · simp [firstSale, firstOffer, Event.of]
  have h := (matched_backed_iff firstDay start_firstDay firstSale).2 hnone (firstSale.take 4) (firstSale.drop 4)
    (List.take_append_drop 4 firstSale).symm l (Table.mem_of_get? hl) (Option.some.inj hs) hnot
  rwa [Table.key_of_get? hl] at h

/-- The accepted offer is rejected after all. -/
def acceptedThenRejected : List Event :=
  firstOffer ++ [.of 1 0 0 (.updateOffer 21 ⟨.accepted⟩), .of 1 0 0 (.updateOffer 21 ⟨.rejected⟩)]

/-- **Lot 11 is matched, was never absorbed, and its only offer is rejected.** -/
theorem rejected_leaves_matched : Start firstDay ∧
    (after step firstDay acceptedThenRejected).lots.rows.map (fun l => (l.id, l.status)) = [(11, .matched)] ∧
    11 ∉ absorbed firstDay acceptedThenRejected ∧
    (after step firstDay acceptedThenRejected).offers.rows.map (fun x => (x.lotId, x.status)) = [(11, .rejected)] := by
  refine ⟨start_firstDay, by decide +kernel, ?_, by decide +kernel⟩
  rw [absorbed_eq_empty]
  · exact Set.notMem_empty _
  · simp [acceptedThenRejected, firstOffer, Event.of]

end Krishi
