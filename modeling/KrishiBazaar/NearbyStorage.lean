import KrishiBazaar.TrueAdvice
/-!
# NearbyStorage — the godown that is not among the first twenty

The sale window asks for twenty active storage options and keeps those near the place.  The twenty are any twenty, so with
twenty far ones in the table a near one may not be seen.  The window is right about storage exactly when a near one is
among the twenty it is handed, if there is one (`window_storage_iff`); it is bound to be when fewer than twenty are far
(`stored_any_order_iff`).
-/
namespace Krishi

open Lib

def activeStorage (db : DB) : List LogisticsOption :=
  db.logisticsOptions.rows.filter (fun s => s.kind = .storage ∧ s.isActive)

/-- The place of the window, if there is a window. -/
def Daytime.place (x : Daytime) (cfg : ReplyConfig) (db : DB) (commodityId : Uuid) (marketId : Option Uuid)
    (originLat originLng : Option ℚ) : Option Place :=
  (x.newest cfg.arith db commodityId (fun r => marketId.all (r.marketId = ·)) 30).head?.map (fun latest =>
    placeOf latest.market originLat originLng (x.windowRows cfg.arith db commodityId marketId).mrows)

/-- The window has storage available exactly when an active option is near its place. -/
def StorageFound (x : Daytime) (cfg : ReplyConfig) (db : DB) (commodityId : Uuid) (marketId : Option Uuid)
    (originLat originLng : Option ℚ) : Prop :=
  ∀ w, ((computeSaleWindow cfg commodityId marketId originLat originLng).run x.exec db).1 = .ok (some w) →
    ∃ place ∈ x.place cfg db commodityId marketId originLat originLng, w.district = place.district ∧
      (w.storageAvailable = true ↔ Stored cfg place (activeStorage db))

section Window

variable {x : Daytime} {cfg : ReplyConfig} {db : DB} {commodityId : Uuid} {marketId : Option Uuid}
  {originLat originLng : Option ℚ} {w : SaleWindow}

/-- **The window looks for storage among the first twenty options.** -/
theorem window_storage (h : ((computeSaleWindow cfg commodityId marketId originLat originLng).run x.exec db).1
    = .ok (some w)) : ∃ place, x.place cfg db commodityId marketId originLat originLng = some place ∧
      w.district = place.district ∧
      (w.storageAvailable = true ↔ Stored cfg place ((x.order.order (activeStorage db)).take 20)) := by
  rw [run_computeSaleWindow] at h
  have hwindow := Except.ok.inj h
  unfold Daytime.window at hwindow
  unfold Daytime.place
  split at hwindow
  · cases hwindow
  · rename_i latest rest hrows
    obtain rfl := Option.some.inj hwindow
    rw [hrows]
    exact ⟨_, rfl, rfl, decide_eq_true_iff.trans nearbyStorage_ne_nil⟩

theorem window_of_place {place : Place} (h : x.place cfg db commodityId marketId originLat originLng = some place) :
    ∃ w, ((computeSaleWindow cfg commodityId marketId originLat originLng).run x.exec db).1 = .ok (some w) := by
  unfold Daytime.place at h
  rw [run_computeSaleWindow]
  unfold Daytime.window
  cases hrows : x.newest cfg.arith db commodityId (fun r => marketId.all (r.marketId = ·)) 30 with
  | nil =>
    rw [hrows] at h
    cases h
  | cons latest rest => exact ⟨_, rfl⟩

end Window

/-- **The window is right about storage exactly when a near option, if there is one, is among the first twenty.** -/
theorem window_storage_iff (x : Daytime) (cfg : ReplyConfig) (db : DB) (commodityId : Uuid) (marketId : Option Uuid)
    (originLat originLng : Option ℚ) : StorageFound x cfg db commodityId marketId originLat originLng ↔
      ∀ place ∈ x.place cfg db commodityId marketId originLat originLng, Stored cfg place (activeStorage db) →
        Stored cfg place ((x.order.order (activeStorage db)).take 20) := by
  constructor
  · intro h place hplace hnear
    obtain ⟨w, hw⟩ : ∃ w, ((computeSaleWindow cfg commodityId marketId originLat originLng).run x.exec db).1
        = .ok (some w) := window_of_place hplace
    obtain ⟨place', hplace', -, hfound⟩ := window_storage hw
    obtain ⟨place'', hplace'', -, hright⟩ := h w hw
    obtain rfl := Option.some.inj (hplace'.symm.trans hplace)
    obtain rfl := Option.some.inj (hplace''.symm.trans hplace)
    exact hfound.1 (hright.2 hnear)
  · intro h w hw
    obtain ⟨place, hplace, hdistrict, hfound⟩ := window_storage hw
    refine ⟨place, hplace, hdistrict, hfound.trans ⟨?_, h place hplace⟩⟩
    rintro ⟨s, hs, hnear⟩
    exact ⟨s, x.order.mem_order.1 (List.mem_of_mem_take hs), hnear⟩

/-- Within 40 km of the place, or in its district. -/
def NearPlace (cfg : ReplyConfig) (place : Place) (s : LogisticsOption) : Prop :=
  s.district = place.district ∨ ∃ dist ∈ haversineKm cfg place.lat place.lng s.lat s.lng, dist ≤ 40

instance (cfg : ReplyConfig) (place : Place) (s : LogisticsOption) : Decidable (NearPlace cfg place s) :=
  inferInstanceAs (Decidable (_ ∨ _))

/-- **Some order of the options hides the near ones from the window exactly when twenty are far.** -/
theorem stored_any_order_iff (cfg : ReplyConfig) (place : Place) (options : List LogisticsOption) :
    (∀ o : RowOrder, Stored cfg place options → Stored cfg place ((o.order options).take 20)) ↔
      (Stored cfg place options → (options.filter (fun s => ¬ NearPlace cfg place s)).length < 20) := by
  constructor
  · intro h hnear
    by_contra hmany
    obtain ⟨o, ho⟩ := RowOrder.exists_page 0 (not_lt.1 hmany)
    obtain ⟨s, hs, hs'⟩ := h o hnear
    exact of_decide_eq_true (ho s hs) hs'
  · rintro h o ⟨s, hs, hnear⟩
    obtain ⟨s', hs', hnear'⟩ := RowOrder.exists_mem_take (o := o) (h ⟨s, hs, hnear⟩) hs
      (by simpa using (show NearPlace cfg place s from hnear))
    have hnear' : NearPlace cfg place s' := by simpa using hnear'
    exact ⟨s', hs', hnear'⟩

/-! ## Twenty godowns in Pune -/

def godown (district : String) (id : Uuid) : LogisticsOption :=
  ⟨id, district, .storage, "Godown", none, none, none, none, true⟩

/-- The onions of Nashik, with twenty godowns in Pune and then one in Nashik. -/
def puneGodowns : DB :=
  { (nashikPrices 2000).db with
    logisticsOptions := ⟨(List.range 20).map (godown "Pune") ++ [godown "Nashik" 20], by decide +kernel, by decide⟩ }

/-- **The godown in Nashik is not found.** -/
theorem nashik_godown_hidden : ¬ StorageFound onDay20.day plainReplies puneGodowns 1 (some 1) none none := by
  intro h
  have hrun : ((computeSaleWindow plainReplies 1 (some 1) none none).run onDay20.day.exec puneGodowns).1.map
      (fun w => w.map (fun w => (w.storageAvailable, w.district))) = .ok (some (false, "Nashik")) := by decide +kernel
  cases hwindow : ((computeSaleWindow plainReplies 1 (some 1) none none).run onDay20.day.exec puneGodowns).1 with
  | error e =>
    rw [hwindow] at hrun
    cases hrun
  | ok window =>
    rw [hwindow] at hrun
    obtain ⟨w, rfl, hw⟩ := Option.map_eq_some_iff.1 (Except.ok.inj hrun)
    obtain ⟨hnone, hnashik⟩ := Prod.mk.inj hw
    obtain ⟨place, -, hdistrict, hfound⟩ := h w hwindow
    have hnear : Stored plainReplies place (activeStorage puneGodowns) :=
      ⟨godown "Nashik" 20, by decide +kernel, Or.inl (hnashik.symm.trans hdistrict)⟩
    rw [hfound.2 hnear] at hnone
    cases hnone

end Krishi
