import KrishiBazaar.Locality
import KrishiBazaar.Lib.PageEnds
import KrishiBazaar.Lib.StableSort
/-!
# BuyerSupply — the lots a buyer is shown

`GET /buyers/{id}/supply` reads 200 lots, whatever their status, keeps those that are open and of the buyer's commodity,
and ranks them.  The 200 may be old lots.  What the buyer is shown is the best of the supply exactly when each fitting lot
that is not among the 200 is one of more than twenty, and no lot that it outscores is shown (`buyerSupply_best_iff`).
Which tables are safe, however they are ordered, is said by `unread_any_order_iff`.
-/
namespace Krishi

open Lib

/-! ## The ranking -/

/-- The reasons of a match, and that the lot is more than the buyer asks for. -/
inductive SupplyReason
  | matched (reason : MatchReason)
  | overDemand
  deriving DecidableEq, Repr

/-- A lot as the buyer sees it. -/
structure SupplyLot where
  id : Uuid
  commodityId : Uuid
  marketId : Option Uuid
  quantityQtl : ℚ
  grade : Grade
  askingPrice : Option ℚ
  status : LotStatus
  harvestDate : Option Date
  fpoId : Option Uuid
  score : ℚ
  reasons : List SupplyReason
  marketName : Option String
  marketDistrict : Option String
  deriving DecidableEq

abbrev SupplyPoints := ℚ × List SupplyReason

def Points.supply (points : Points) : SupplyPoints := (points.1, points.2.map .matched)

def supplyDistrictPoints (buyer : Buyer) (market : Option Market) : SupplyPoints :=
  if buyer.district.any (fun d => d ≠ "" ∧ market.map (·.district) = some d) then (25, [.matched .sameDistrict])
  else (0, [])

def supplyVolumePoints (demand : Option ℚ) (qty : ℚ) : SupplyPoints :=
  match demand with
  | none => (0, [])
  | some demand => if qty ≤ demand then (15, [.matched .volumeFit]) else (0, [.overDemand])

def supplyCriteria (cfg : ReplyConfig) (buyer : Buyer) (lot : Lot) (market : Option Market) : List SupplyPoints :=
  [supplyDistrictPoints buyer market, (askPoints lot.askingPrice buyer.maxPrice).supply,
    supplyVolumePoints buyer.demandQtyQtl lot.quantityQtl, (gradePoints cfg lot buyer).supply]

def lotScore (cfg : ReplyConfig) (buyer : Buyer) (lot : Lot) (market : Option Market) : ℚ :=
  roundTo 1 ((supplyCriteria cfg buyer lot market).map Prod.fst).sum

def supplyRow (cfg : ReplyConfig) (buyer : Buyer) (lot : Lot) (market : Option Market) : SupplyLot where
  id := lot.id
  commodityId := lot.commodityId
  marketId := lot.marketId
  quantityQtl := lot.quantityQtl
  grade := lot.grade
  askingPrice := lot.askingPrice
  status := lot.status
  harvestDate := lot.harvestDate
  fpoId := lot.fpoId
  score := lotScore cfg buyer lot market
  reasons := (supplyCriteria cfg buyer lot market).flatMap Prod.snd
  marketName := market.map (·.name)
  marketDistrict := market.map (·.district)

/-- A row for a lot on sale that fits the buyer, or none. -/
def scoreLotForBuyer (cfg : ReplyConfig) (buyer : Buyer) (lot : Lot) (market : Option Market) : Option SupplyLot :=
  if ¬ (lot.status = .open ∨ lot.status = .offered) then none
  else if buyer.commodityId.any (lot.commodityId ≠ ·) then none
  else some (supplyRow cfg buyer lot market)

def rankLotsForBuyer (cfg : ReplyConfig) (buyer : Buyer) (lots : List Lot) (marketsById : Uuid → Option Market)
    (limit : Nat) : List SupplyLot :=
  ((lots.filterMap (fun lot => scoreLotForBuyer cfg buyer lot (lot.marketId.bind marketsById))).insertionSort
    (fun a b => b.score ≤ a.score)).take limit

/-! ## The request -/

structure SupplyOut where
  buyerId : Uuid
  buyerName : String
  lots : List SupplyLot
  deriving DecidableEq

def buyerSupply (cfg : ReplyConfig) (buyerId : Uuid) : Handler SupplyOut := do
  let rows ← select buyers fun b => b.id = buyerId ∧ b.verified
  match rows with
  | [] => throw ⟨404, "buyer not found"⟩
  | buyer :: _ =>
    let lotRows ← selectLimit lots (fun _ => true) 200
    let onSale := lotRows.filter (fun l => l.status = .open ∨ l.status = .offered)
    let wanted := if buyer.commodityId = none then onSale
      else onSale.filter (fun l => some l.commodityId = buyer.commodityId)
    let marketRows ← select markets (fun _ => true)
    pure ⟨buyerId, buyer.name, rankLotsForBuyer cfg buyer wanted (fun id => marketRows.find? (fun m => m.id = id)) 20⟩

/-- On sale, and of the commodity the buyer takes, if it takes one only. -/
def FitsDemand (buyer : Buyer) (lot : Lot) : Prop :=
  (lot.status = .open ∨ lot.status = .offered) ∧ ∀ c ∈ buyer.commodityId, lot.commodityId = c

instance (buyer : Buyer) (lot : Lot) : Decidable (FitsDemand buyer lot) := inferInstanceAs (Decidable (_ ∧ _))

def fittingLots (buyer : Buyer) (lots : List Lot) : List Lot := lots.filter (fun l => FitsDemand buyer l)

/-- The row of a lot, with the market that the tables have for it. -/
def DB.supplyRow (db : DB) (cfg : ReplyConfig) (buyer : Buyer) (lot : Lot) : SupplyLot :=
  Krishi.supplyRow cfg buyer lot (lot.marketId.bind db.markets.get?)

/-- The lots shown of those read. -/
def DB.shownLots (db : DB) (cfg : ReplyConfig) (buyer : Buyer) (lots : List Lot) : List SupplyLot :=
  (((fittingLots buyer lots).map (db.supplyRow cfg buyer)).insertionSort (fun a b => b.score ≤ a.score)).take 20

section Request

variable {cfg : ReplyConfig} {db : DB} {buyer : Buyer}

theorem scoreLotForBuyer_eq (cfg : ReplyConfig) (buyer : Buyer) (lot : Lot) (market : Option Market) :
    scoreLotForBuyer cfg buyer lot market
      = if FitsDemand buyer lot then some (supplyRow cfg buyer lot market) else none := by
  have hany : buyer.commodityId.any (lot.commodityId ≠ ·) = true ↔ ¬ ∀ c ∈ buyer.commodityId, lot.commodityId = c := by
    simp [Option.any_eq_true]
  unfold scoreLotForBuyer
  by_cases hf : FitsDemand buyer lot
  · rw [if_pos hf, if_neg (not_not_intro hf.1), if_neg (fun h => hany.1 h hf.2)]
  · rw [if_neg hf]
    split
    · rfl
    · rename_i hs
      exact if_pos (hany.2 (fun hc => hf ⟨not_not.1 hs, hc⟩))

/-- The filters of the handler are those of the ranking. -/
theorem rankLotsForBuyer_filtered (lotRows : List Lot) : rankLotsForBuyer cfg buyer
    (if buyer.commodityId = none then lotRows.filter (fun l => l.status = .open ∨ l.status = .offered)
      else (lotRows.filter (fun l => l.status = .open ∨ l.status = .offered)).filter
        (fun l => some l.commodityId = buyer.commodityId)) db.markets.get? 20 = db.shownLots cfg buyer lotRows := by
  have hwanted : (if buyer.commodityId = none then lotRows.filter (fun l => l.status = .open ∨ l.status = .offered)
      else (lotRows.filter (fun l => l.status = .open ∨ l.status = .offered)).filter
        (fun l => some l.commodityId = buyer.commodityId)) = fittingLots buyer lotRows := by
    unfold fittingLots
    split
    · rename_i hc
      refine List.filter_congr (fun l _ => decide_eq_decide.2 ⟨fun h => ⟨h, ?_⟩, And.left⟩)
      simp [hc]
    · rw [List.filter_filter]
      refine List.filter_congr (fun l _ => ?_)
      obtain ⟨c, hc⟩ := Option.ne_none_iff_exists'.1 ‹_›
      rw [← Bool.decide_and, decide_eq_decide, and_comm]
      exact and_congr_right' (by simp [hc])
  rw [hwanted]
  unfold rankLotsForBuyer DB.shownLots
  congr 2
  rw [← List.filterMap_eq_map]
  refine List.filterMap_congr (fun l hl => ?_)
  have hfits : FitsDemand buyer l := of_decide_eq_true (List.mem_filter.1 hl).2
  rw [scoreLotForBuyer_eq, if_pos hfits]
  rfl

/-- **A verified buyer is shown the best twenty of the 200 lots read**, and nothing changes. -/
theorem handle_buyerSupply (o : RowOrder) (cfg : ReplyConfig) (buyerId : Uuid) (db : DB) :
    handle o (buyerSupply cfg buyerId) db = (((db.buyers.get? buyerId).filter (·.verified)).elim
      (.error ⟨404, "buyer not found"⟩)
      (fun buyer => .ok ⟨buyerId, buyer.name, db.shownLots cfg buyer ((o.order db.lots.rows).take 200)⟩), db) := by
  have hselect : handle o (select buyers fun b => b.id = buyerId ∧ b.verified) db
      = (.ok ((db.buyers.get? buyerId).filter (·.verified)).toList, db) := by
    rw [handle_select]
    simp only [Bool.decide_and, Bool.decide_eq_true, o.order_filter_key_and]
    rfl
  unfold buyerSupply
  rw [handle_bind, hselect, Prog.onOk_ok]
  cases (db.buyers.get? buyerId).filter (·.verified) with
  | none => rfl
  | some buyer =>
    have hmarkets : (fun id => (o.order ((markets.get db).rows.filter (fun _ => true))).find? (fun m => m.id = id))
        = db.markets.get? := by
      funext id
      exact o.find?_order_filter db.markets (fun _ => true) id (fun _ _ => rfl)
    have hall : (lots.get db).rows.filter (fun _ => true) = db.lots.rows := List.filter_eq_self.2 (fun _ _ => rfl)
    simp only [Option.toList, handle_bind, handle_selectLimit, handle_select, Prog.onOk_ok, handle_pure, hmarkets, hall,
      rankLotsForBuyer_filtered, Option.elim]

end Request

/-! ## The best of the supply -/

/-- The best of the supply: twenty rows at most, of fitting lots and each once, all of them if there are no more, best
first, and no lot left out that outscores one shown. -/
structure BestSupply (cfg : ReplyConfig) (db : DB) (buyer : Buyer) (rows : List SupplyLot) : Prop where
  fitting : ∀ r ∈ rows, ∃ l ∈ fittingLots buyer db.lots.rows, db.supplyRow cfg buyer l = r
  once : (rows.map (·.id)).Nodup
  few : rows.length ≤ 20
  all : (fittingLots buyer db.lots.rows).length ≤ 20 →
    ∀ l ∈ fittingLots buyer db.lots.rows, db.supplyRow cfg buyer l ∈ rows
  descending : rows.Pairwise (fun a b => b.score ≤ a.score)
  best : ∀ l ∈ fittingLots buyer db.lots.rows, db.supplyRow cfg buyer l ∉ rows →
    ∀ r ∈ rows, (db.supplyRow cfg buyer l).score ≤ r.score

/-- Each fitting lot that is not read is one of more than twenty, and twenty of the fitting lots that are, or all of them,
score as high. -/
def UnreadOutscored (cfg : ReplyConfig) (db : DB) (buyer : Buyer) (read : List Lot) : Prop :=
  ∀ l ∈ fittingLots buyer db.lots.rows, l ∉ read → 20 < (fittingLots buyer db.lots.rows).length ∧
    (20 ≤ (fittingLots buyer read).countP (fun m => (db.supplyRow cfg buyer l).score ≤ (db.supplyRow cfg buyer m).score) ∨
      ∀ m ∈ fittingLots buyer read, (db.supplyRow cfg buyer l).score ≤ (db.supplyRow cfg buyer m).score)

section Best

variable {cfg : ReplyConfig} {db : DB} {buyer : Buyer} {read : List Lot} {l : Lot} {r : SupplyLot}

/-- The rows of the fitting lots read, best first. -/
def DB.rankedLots (db : DB) (cfg : ReplyConfig) (buyer : Buyer) (read : List Lot) : List SupplyLot :=
  ((fittingLots buyer read).map (db.supplyRow cfg buyer)).insertionSort (fun a b => b.score ≤ a.score)

theorem mem_fittingLots : l ∈ fittingLots buyer read ↔ l ∈ read ∧ FitsDemand buyer l := by
  unfold fittingLots
  rw [List.mem_filter, decide_eq_true_iff]

theorem mem_rankedLots :
    r ∈ db.rankedLots cfg buyer read ↔ ∃ l ∈ fittingLots buyer read, db.supplyRow cfg buyer l = r := by
  unfold DB.rankedLots
  rw [List.mem_insertionSort, List.mem_map]

variable (cfg db buyer read)

theorem rankedLots_descending : (db.rankedLots cfg buyer read).Pairwise (fun a b => b.score ≤ a.score) :=
  List.pairwise_insertionSort _ _

theorem rankedLots_perm :
    (db.rankedLots cfg buyer read).Perm ((fittingLots buyer read).map (db.supplyRow cfg buyer)) :=
  List.perm_insertionSort _ _

theorem length_rankedLots : (db.rankedLots cfg buyer read).length = (fittingLots buyer read).length := by
  rw [(rankedLots_perm cfg db buyer read).length_eq, List.length_map]

variable {cfg db buyer read}

/-- The twenty score at least `c` exactly if twenty of the lots read do, or all. -/
theorem le_shownLots_iff {c : ℚ} : (∀ r ∈ db.shownLots cfg buyer read, c ≤ r.score) ↔
    20 ≤ (fittingLots buyer read).countP (fun m => c ≤ (db.supplyRow cfg buyer m).score) ∨
      ∀ m ∈ fittingLots buyer read, c ≤ (db.supplyRow cfg buyer m).score := by
  have hdual : (db.rankedLots cfg buyer read).Pairwise (fun a b => OrderDual.toDual a.score ≤ OrderDual.toDual b.score) :=
    rankedLots_descending cfg db buyer read
  have htake := le_of_mem_take_iff (c := OrderDual.toDual c) (k := 20) hdual
  simp only [OrderDual.toDual_le_toDual] at htake
  have hcount : ((db.rankedLots cfg buyer read).filter (fun r => c ≤ r.score)).length
      = (fittingLots buyer read).countP (fun m => c ≤ (db.supplyRow cfg buyer m).score) := by
    rw [← List.countP_eq_length_filter, (rankedLots_perm cfg db buyer read).countP_eq, List.countP_map]
    rfl
  rw [← hcount]
  refine htake.trans (or_congr_right ?_)
  simp only [mem_rankedLots, forall_exists_index, and_imp, forall_apply_eq_imp_iff₂]

/-- Two lots with one row are one lot. -/
theorem supplyRow_inj {l' : Lot} (h : l ∈ db.lots.rows) (h' : l' ∈ db.lots.rows)
    (heq : db.supplyRow cfg buyer l = db.supplyRow cfg buyer l') : l = l' :=
  db.lots.eq_of_key h h' (congrArg SupplyLot.id heq)

/-- **What is shown of the lots read is the best of the supply exactly when no other lot belongs there.** -/
theorem bestSupply_iff (hread : read.Subperm db.lots.rows) :
    BestSupply cfg db buyer (db.shownLots cfg buyer read) ↔ UnreadOutscored cfg db buyer read := by
  have hshown : ∀ r ∈ db.shownLots cfg buyer read, ∃ l ∈ fittingLots buyer read, db.supplyRow cfg buyer l = r :=
    fun r hr => mem_rankedLots.1 (List.mem_of_mem_take hr)
  have hfit : ∀ l ∈ fittingLots buyer read, l ∈ fittingLots buyer db.lots.rows := fun l hl =>
    mem_fittingLots.2 ⟨hread.subset (mem_fittingLots.1 hl).1, (mem_fittingLots.1 hl).2⟩
  constructor
  · intro h l hl hunread
    have hout : db.supplyRow cfg buyer l ∉ db.shownLots cfg buyer read := by
      intro hmem
      obtain ⟨l', hl', heq⟩ := hshown _ hmem
      have hsame := supplyRow_inj (mem_fittingLots.1 (hfit l' hl')).1 (mem_fittingLots.1 hl).1 heq
      exact hunread (hsame ▸ (mem_fittingLots.1 hl').1)
    refine ⟨?_, le_shownLots_iff.1 (h.best l hl hout)⟩
    by_contra hfew
    exact hout (h.all (not_lt.1 hfew) l hl)
  · intro h
    refine ⟨fun r hr => ?_, ?_, List.length_take_le 20 _, fun hfew l hl => ?_, ?_, fun l hl hout => ?_⟩
    · obtain ⟨l, hl, rfl⟩ := hshown r hr
      exact ⟨l, hfit l hl, rfl⟩
    · have hids : ((fittingLots buyer read).map Lot.id).Nodup := by
        obtain ⟨l', hperm, hsub⟩ := hread
        have hnd : (read.map Lot.id).Nodup := (hperm.map _).nodup_iff.1 (db.lots.nodup.sublist (hsub.map _))
        exact hnd.sublist (List.filter_sublist.map _)
      have hperm : ((db.rankedLots cfg buyer read).map (·.id)).Perm ((fittingLots buyer read).map Lot.id) := by
        have hmap := (rankedLots_perm cfg db buyer read).map SupplyLot.id
        rwa [List.map_map] at hmap
      exact (hperm.nodup_iff.2 hids).sublist ((List.take_sublist _ _).map _)
    · have hall : l ∈ read := by
        by_contra hunread
        exact absurd (h l hl hunread).1 (not_lt.2 hfew)
      have hlen : (db.rankedLots cfg buyer read).length ≤ 20 := by
        rw [length_rankedLots]
        exact (hread.filter _).length_le.trans hfew
      have hshow : db.shownLots cfg buyer read = db.rankedLots cfg buyer read := List.take_of_length_le hlen
      rw [hshow]
      exact mem_rankedLots.2 ⟨l, mem_fittingLots.2 ⟨hall, (mem_fittingLots.1 hl).2⟩, rfl⟩
    · exact (rankedLots_descending cfg db buyer read).sublist (List.take_sublist _ _)
    · by_cases hmem : l ∈ read
      · have hranked : db.supplyRow cfg buyer l ∈ db.rankedLots cfg buyer read :=
          mem_rankedLots.2 ⟨l, mem_fittingLots.2 ⟨hmem, (mem_fittingLots.1 hl).2⟩, rfl⟩
        have hsorted := rankedLots_descending cfg db buyer read
        rw [← List.take_append_drop 20 (db.rankedLots cfg buyer read)] at hranked hsorted
        have hrest := (List.mem_append.1 hranked).resolve_left hout
        exact fun r hr => (List.pairwise_append.1 hsorted).2.2 r hr _ hrest
      · exact le_shownLots_iff.2 (h l hl hmem).2

end Best

/-- **A verified buyer is shown the best of the supply exactly when every fitting lot that is not among the 200 read is
outscored.** -/
theorem buyerSupply_best_iff (o : RowOrder) (cfg : ReplyConfig) (db : DB) (buyer : Buyer)
    (hbuyer : db.buyers.get? buyer.id = some buyer) (hverified : buyer.verified = true) :
    (∃ out, handle o (buyerSupply cfg buyer.id) db = (.ok out, db) ∧ out.buyerId = buyer.id ∧
      BestSupply cfg db buyer out.lots) ↔ UnreadOutscored cfg db buyer ((o.order db.lots.rows).take 200) := by
  have hread : ((o.order db.lots.rows).take 200).Subperm db.lots.rows :=
    (List.take_sublist _ _).subperm.trans (o.perm db.lots.rows).subperm
  rw [handle_buyerSupply, hbuyer, Option.filter_some, if_pos hverified, ← bestSupply_iff hread]
  simp

/-! ## In every order -/

/-- A fitting lot that no other outscores. -/
def TopLot (cfg : ReplyConfig) (db : DB) (buyer : Buyer) (l : Lot) : Prop :=
  FitsDemand buyer l ∧
    ∀ m ∈ fittingLots buyer db.lots.rows, (db.supplyRow cfg buyer m).score ≤ (db.supplyRow cfg buyer l).score

instance (cfg : ReplyConfig) (db : DB) (buyer : Buyer) (l : Lot) : Decidable (TopLot cfg db buyer l) :=
  inferInstanceAs (Decidable (_ ∧ _))

section AnyOrder

variable {cfg : ReplyConfig} {db : DB} {buyer : Buyer} {read : List Lot}

/-- Twenty top lots among those read settle it. -/
theorem countP_top_le {l : Lot} (hl : l ∈ fittingLots buyer db.lots.rows) :
    read.countP (fun m => TopLot cfg db buyer m) ≤ (fittingLots buyer read).countP
      (fun m => (db.supplyRow cfg buyer l).score ≤ (db.supplyRow cfg buyer m).score) := by
  unfold fittingLots
  rw [List.countP_filter]
  refine List.countP_mono_left (fun m _ hm => ?_)
  obtain ⟨hfits, htop⟩ := of_decide_eq_true hm
  simp only [Bool.and_eq_true, decide_eq_true_eq]
  exact ⟨htop l hl, hfits⟩

/-- Where a top lot is not read, only top lots score as high. -/
theorem countP_le_top {b : Lot} (hb : TopLot cfg db buyer b) :
    (fittingLots buyer read).countP (fun m => (db.supplyRow cfg buyer b).score ≤ (db.supplyRow cfg buyer m).score)
      ≤ read.countP (fun m => TopLot cfg db buyer m) := by
  unfold fittingLots
  rw [List.countP_filter]
  refine List.countP_mono_left (fun m _ hle => ?_)
  simp only [Bool.and_eq_true, decide_eq_true_eq] at hle ⊢
  exact ⟨hle.2, fun m' hm' => (hb.2 m' hm').trans hle.1⟩

theorem exists_top (h : fittingLots buyer db.lots.rows ≠ []) :
    ∃ b ∈ fittingLots buyer db.lots.rows, TopLot cfg db buyer b := by
  obtain ⟨pre, b, post, heq, hmax, -⟩ := exists_first_max (fun l => (db.supplyRow cfg buyer l).score) h
  have hb : b ∈ fittingLots buyer db.lots.rows := by simp [heq]
  exact ⟨b, hb, (mem_fittingLots.1 hb).2, hmax⟩

/-- An order that puts a lot which is not top first, the other such after it, and a top lot last. -/
theorem exists_bad_order {b g : Lot} (hb : b ∈ db.lots.rows) (htop : TopLot cfg db buyer b) (hg : g ∈ db.lots.rows)
    (hng : ¬ TopLot cfg db buyer g) : ∃ o : RowOrder, ∃ others tops,
      o.order db.lots.rows = g :: (others ++ (tops ++ [b])) ∧
      (∀ l ∈ others, ¬ TopLot cfg db buyer l) ∧
      others.length + 1 = (db.lots.rows.filter (fun l => ¬ TopLot cfg db buyer l)).length := by
  have hgmem : g ∈ db.lots.rows.filter (fun l => ¬ TopLot cfg db buyer l) := List.mem_filter.2 ⟨hg, decide_eq_true hng⟩
  have hbmem : b ∈ db.lots.rows.filter (fun l => TopLot cfg db buyer l) := List.mem_filter.2 ⟨hb, decide_eq_true htop⟩
  have hnot := List.perm_cons_erase hgmem
  have htops := List.perm_cons_erase hbmem
  have hperm : (g :: ((db.lots.rows.filter (fun l => ¬ TopLot cfg db buyer l)).erase g
      ++ ((db.lots.rows.filter (fun l => TopLot cfg db buyer l)).erase b ++ [b]))).Perm db.lots.rows := by
    have hlast : ((db.lots.rows.filter (fun l => TopLot cfg db buyer l)).erase b ++ [b]).Perm
        (db.lots.rows.filter (fun l => TopLot cfg db buyer l)) :=
      (List.perm_append_singleton b _).trans htops.symm
    have hall : (db.lots.rows.filter (fun l => ¬ TopLot cfg db buyer l) ++
        db.lots.rows.filter (fun l => TopLot cfg db buyer l)).Perm db.lots.rows := by
      refine List.perm_append_comm.trans ?_
      have hsplit := List.filter_append_perm (fun l => decide (TopLot cfg db buyer l)) db.lots.rows
      simpa using hsplit
    rw [← List.cons_append]
    exact (hnot.symm.append hlast).trans hall
  obtain ⟨o, ho⟩ := RowOrder.exists_order_eq hperm
  refine ⟨o, _, _, ho, fun l hl => ?_, ?_⟩
  · exact of_decide_eq_true (List.mem_filter.1 (List.mem_of_mem_erase hl)).2
  · rw [hnot.length_eq, List.length_cons]

end AnyOrder

/-- **The supply is the best in every order exactly when** there are at most 200 lots, or none fits, or more than twenty
fit and all of these score alike or at most 180 lots are not among the top ones. -/
theorem unread_any_order_iff (cfg : ReplyConfig) (db : DB) (buyer : Buyer) :
    (∀ o : RowOrder, UnreadOutscored cfg db buyer ((o.order db.lots.rows).take 200)) ↔
      (200 < db.lots.rows.length → fittingLots buyer db.lots.rows ≠ [] → 20 < (fittingLots buyer db.lots.rows).length ∧
        ((∀ l ∈ fittingLots buyer db.lots.rows, TopLot cfg db buyer l) ∨
          (db.lots.rows.filter (fun l => ¬ TopLot cfg db buyer l)).length ≤ 180)) := by
  have hnodup : db.lots.rows.Nodup := db.lots.nodup.of_map
  constructor
  · intro h hmany hfit
    obtain ⟨b, hb, htop⟩ : ∃ b ∈ fittingLots buyer db.lots.rows, TopLot cfg db buyer b := exists_top hfit
    have hbrows := (mem_fittingLots.1 hb).1
    obtain ⟨o, ho⟩ := RowOrder.exists_not_mem_take hnodup hbrows hmany
    refine ⟨(h o b hb ho).1, ?_⟩
    by_contra hbad
    rw [not_or, not_le] at hbad
    push Not at hbad
    obtain ⟨⟨g, hg, hng⟩, hothers⟩ := hbad
    obtain ⟨o, others, tops, horder, hnot, hlen⟩ := exists_bad_order hbrows htop (mem_fittingLots.1 hg).1 hng
    have hperm := o.perm db.lots.rows
    rw [horder] at hperm
    have hsize := hperm.length_eq
    simp only [List.length_cons, List.length_append, List.length_nil] at hsize
    have hunread : b ∉ (o.order db.lots.rows).take 200 := by
      have hnd := hperm.nodup_iff.2 hnodup
      rw [← List.append_assoc, ← List.cons_append] at hnd
      rw [horder, ← List.append_assoc, ← List.cons_append, List.take_append_of_le_length (by simp; omega)]
      exact fun hmem => (List.nodup_append.1 hnd).2.2 b (List.mem_of_mem_take hmem) b List.mem_cons_self rfl
    rcases (h o b hb hunread).2 with hcount | hall
    · have hle := hcount.trans (countP_le_top htop)
      rw [horder, ← List.cons_append, List.take_append, List.countP_append] at hle
      have hnone : ((g :: others).take 200).countP (fun m => TopLot cfg db buyer m) = 0 := by
        refine List.countP_eq_zero.2 (fun m hm hmtop => ?_)
        rcases List.mem_cons.1 (List.mem_of_mem_take hm) with rfl | hm
        · exact hng (of_decide_eq_true hmtop)
        · exact hnot m hm (of_decide_eq_true hmtop)
      have hrest := List.countP_le_length (p := fun m => decide (TopLot cfg db buyer m))
        (l := (tops ++ [b]).take (200 - (g :: others).length))
      rw [List.length_take] at hrest
      simp only [List.length_cons] at hrest hle
      omega
    · refine hng ⟨(mem_fittingLots.1 hg).2, fun m hm => (htop.2 m hm).trans (hall g ?_)⟩
      refine mem_fittingLots.2 ⟨?_, (mem_fittingLots.1 hg).2⟩
      rw [horder, List.take_succ_cons]
      exact List.mem_cons_self
  · intro h o l hl hunread
    have hmany : 200 < db.lots.rows.length := by
      by_contra hfew
      rw [← (o.perm db.lots.rows).length_eq, not_lt] at hfew
      rw [List.take_of_length_le hfew] at hunread
      exact hunread (o.mem_order.2 (mem_fittingLots.1 hl).1)
    obtain ⟨hlen, hscores⟩ := h hmany (List.ne_nil_of_mem hl)
    refine ⟨hlen, ?_⟩
    rcases hscores with htop | hfew
    · right
      intro m hm
      have hmfit := mem_fittingLots.1 hm
      exact (htop m (mem_fittingLots.2 ⟨o.mem_order.1 (List.mem_of_mem_take hmfit.1), hmfit.2⟩)).2 l hl
    · left
      refine le_trans ?_ (countP_top_le hl)
      have hsplit := List.length_eq_countP_add_countP (fun m => decide (TopLot cfg db buyer m))
        (l := (o.order db.lots.rows).take 200)
      have hnot : ((o.order db.lots.rows).take 200).countP (fun m => ¬ decide (TopLot cfg db buyer m) = true)
          ≤ (db.lots.rows.filter (fun m => ¬ TopLot cfg db buyer m)).length := by
        rw [← List.countP_eq_length_filter, ← (o.perm db.lots.rows).countP_eq]
        refine ((List.take_sublist _ _).countP_le).trans (le_of_eq (List.countP_congr (fun m _ => ?_)))
        simp
      rw [List.length_take_of_le (by rw [(o.perm db.lots.rows).length_eq]; omega)] at hsplit
      omega

/-! ## After two hundred sales -/

/-- The lots listed, the last still on sale. -/
def lotAfter (sold id : Nat) : Lot := { askedLot with id := id, status := if id < sold then .sold else .open }

def afterSales (sold : Nat) : DB :=
  { (nashikPrices 2000).db with
    buyers := ⟨[localTrader], by decide, by decide⟩
    lots := ⟨(List.range (sold + 1)).map (lotAfter sold), by
      rw [List.map_map]
      exact List.nodup_range.map (fun _ _ h => h), by simp [lotAfter, askedLot, Lot.check]⟩ }

/-- **After two hundred sales the trader is shown nothing**, with a lot that fits on sale. -/
theorem open_lot_unseen : ¬ ∃ out, handle .asStored (buyerSupply plainReplies localTrader.id) (afterSales 200)
    = (.ok out, afterSales 200) ∧ out.buyerId = localTrader.id ∧
      BestSupply plainReplies (afterSales 200) localTrader out.lots := by
  rintro ⟨out, h, -, hbest⟩
  have hnone : (handle .asStored (buyerSupply plainReplies localTrader.id) (afterSales 200)).1.map (·.lots) = .ok [] := by
    decide +kernel
  rw [h] at hnone
  have hshown := hbest.all (by decide +kernel) (lotAfter 200 200) (by decide +kernel)
  rw [show out.lots = [] from Except.ok.inj hnone] at hshown
  cases hshown

theorem after_one_sale : (∃ out, handle .asStored (buyerSupply plainReplies localTrader.id) (afterSales 1)
    = (.ok out, afterSales 1) ∧ out.buyerId = localTrader.id ∧
      BestSupply plainReplies (afterSales 1) localTrader out.lots) ↔
    UnreadOutscored plainReplies (afterSales 1) localTrader
      ((RowOrder.asStored.order (afterSales 1).lots.rows).take 200) :=
  buyerSupply_best_iff .asStored plainReplies (afterSales 1) localTrader (by decide +kernel) rfl

end Krishi
