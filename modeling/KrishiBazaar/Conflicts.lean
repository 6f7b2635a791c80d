import KrishiBazaar.Accounting
/-!
# Conflicts — the chunks an upsert can take

PostgreSQL refuses an upsert two of whose rows have one conflict key.  The rows of a chunk are consecutive accepted records
of one adapter, and nothing between the adapter and the upsert compares them: their keys are what the aliases and the
markets make of the records (`conflict_row`).  So a run sends distinct rows exactly when the records were distinct, block by
block (`upserts_distinct_iff`).
-/
namespace Krishi

open Lib

/-- The chunks a run sent to the upsert. -/
def upsertedChunks (run : List IngestCall) : List (List UpsertRow) :=
  run.filterMap (fun c => match c with
    | .upserted chunk _ => some chunk
    | _ => none)

/-- **What an accepted record passed, and what its row has.** -/
structure PriceValidator.Passed (cfg : IngestConfig) (v : PriceValidator) (record : RawPriceRecord) (row : ValidPrice) :
    Prop where
  commodityId : v.commodityId cfg record = some row.commodityId
  modalPrice : normalizePrice cfg "modal" record.modalPrice record.unit = .ok row.modalPrice
  minPrice : normalizeOptional cfg "min" record.minPrice record.unit = .ok row.minPrice
  maxPrice : normalizeOptional cfg "max" record.maxPrice record.unit = .ok row.maxPrice
  order : checkOrder row.modalPrice row.minPrice row.maxPrice = .ok ()
  band : v.checkBand row.commodityId row.modalPrice = .ok ()
  arrivalDate : row.arrivalDate = record.arrivalDate
  arrivalQty : row.arrivalQty = record.arrivalQty
  variety : row.variety = orGeneral record.variety
  grade : row.grade = orGeneral record.grade
  source : row.source = record.source

theorem PriceValidator.passed_of_ok {cfg : IngestConfig} {v : PriceValidator} {record : RawPriceRecord} {row : ValidPrice}
    (h : v.validateAndNormalize cfg record = .ok row) : v.Passed cfg record row := by
  unfold PriceValidator.validateAndNormalize at h
  split at h
  · cases h
  · rename_i commodityId hid
    simp only [bind_ok] at h
    obtain ⟨normModal, hmodal, normMin, hmin, normMax, hmax, ⟨⟩, horder, ⟨⟩, hband, h⟩ := h
    obtain rfl := Except.ok.inj h
    exact ⟨hid, hmodal, hmin, hmax, horder, hband, rfl, rfl, rfl, rfl, rfl⟩

section Records

variable (cfg : IngestConfig) (md : Metadata)

/-- The record passes the validator, and its market is known. -/
def Metadata.accepts (raw : RawPriceRecord) : Bool := (md.resolve cfg raw).toOption.isSome

/-- The conflict key of a record: what the markets and the aliases have for its names, its date, its variety and grade, or
`General` for none, and its source. -/
def Metadata.conflict (raw : RawPriceRecord) : Option Uuid × Option Uuid × Date × String × String × String :=
  (md.marketId cfg raw, md.commodityId cfg raw, raw.arrivalDate, orGeneral raw.variety, orGeneral raw.grade, raw.source)

/-- **The records of one chunk have distinct keys**: of the accepted records, in each block of two hundred. -/
def Metadata.DistinctBlocks (raws : List RawPriceRecord) : Prop :=
  ∀ block ∈ chunks upsertChunk (raws.filter (md.accepts cfg)), (block.map (md.conflict cfg)).Nodup

variable {cfg md}

theorem conflict_row {raw : RawPriceRecord} {row : UpsertRow} (h : md.resolve cfg raw = .ok row) :
    md.conflict cfg raw = (some row.conflict.1, some row.conflict.2.1, row.conflict.2.2) := by
  unfold Metadata.resolve at h
  rw [bind_ok] at h
  obtain ⟨p, hp, h⟩ := h
  have hpassed := PriceValidator.passed_of_ok hp
  split at h
  · cases h
  · rename_i marketId hmarket
    obtain rfl := Except.ok.inj h
    simp only [Metadata.conflict, UpsertRow.conflict, hmarket, hpassed.commodityId, hpassed.arrivalDate, hpassed.variety,
      hpassed.grade, hpassed.source]

theorem conflict_rows (raws : List RawPriceRecord) : (md.rows cfg raws).map (fun row =>
      (some row.conflict.1, some row.conflict.2.1, row.conflict.2.2))
    = (raws.filter (md.accepts cfg)).map (md.conflict cfg) := by
  induction raws with
  | nil => rfl
  | cons raw raws ih =>
    unfold Metadata.rows at ih ⊢
    cases h : md.resolve cfg raw with
    | error e =>
      rw [List.filterMap_cons_none (by rw [h]; rfl), List.filter_cons_of_neg (by simp [Metadata.accepts, h, Except.toOption]),
        ih]
    | ok row =>
      rw [List.filterMap_cons_some (by rw [h]; rfl), List.filter_cons_of_pos (by simp [Metadata.accepts, h, Except.toOption]),
        List.map_cons, List.map_cons, ih, conflict_row h]

/-- **The chunks of the rows have distinct keys when the blocks of the records have.** -/
theorem chunks_rows_iff (raws : List RawPriceRecord) :
    (∀ chunk ∈ chunks upsertChunk (md.rows cfg raws), (chunk.map UpsertRow.conflict).Nodup) ↔
      md.DistinctBlocks cfg raws := by
  let wrap : Uuid × Uuid × Date × String × String × String → Option Uuid × Option Uuid × Date × String × String × String :=
    fun k => (some k.1, some k.2.1, k.2.2)
  have hwrap : Function.Injective wrap := by
    rintro ⟨m, c, rest⟩ ⟨m', c', rest'⟩ h
    simpa [wrap] using h
  have hkeys : (chunks upsertChunk (md.rows cfg raws)).map (List.map (wrap ∘ UpsertRow.conflict))
      = (chunks upsertChunk (raws.filter (md.accepts cfg))).map (List.map (md.conflict cfg)) := by
    rw [← chunks_map, ← chunks_map, ← conflict_rows]
    rfl
  have hleft : (∀ chunk ∈ chunks upsertChunk (md.rows cfg raws), (chunk.map UpsertRow.conflict).Nodup) ↔
      ∀ keys ∈ (chunks upsertChunk (md.rows cfg raws)).map (List.map (wrap ∘ UpsertRow.conflict)), keys.Nodup := by
    rw [List.forall_mem_map]
    refine forall₂_congr (fun chunk _ => ?_)
    rw [← List.map_map, List.nodup_map_iff hwrap]
  rw [hleft, hkeys, List.forall_mem_map]
  rfl

end Records

/-! ## A run -/

section Run

variable {cfg : IngestConfig} {out : Outside} {md : Metadata} {district state : String} {n : Nat}

theorem upsertedChunks_append (l l' : List IngestCall) :
    upsertedChunks (l ++ l') = upsertedChunks l ++ upsertedChunks l' := List.filterMap_append

theorem upsertedChunks_fetched (fetch : String → Except FetchError (List RawPriceRecord)) (keys : List String) :
    upsertedChunks (keys.map (fun key => .fetched key (fetch key))) = [] := by
  refine List.filterMap_eq_nil_iff.2 (fun c hc => ?_)
  obtain ⟨key, -, rfl⟩ := List.mem_map.1 hc
  rfl

theorem upsertedChunks_upsertCalls (answer : Nat → Except String Unit) (rows : List UpsertRow) :
    upsertedChunks (upsertCalls answer rows) = chunks upsertChunk rows := by
  unfold upsertedChunks upsertCalls
  rw [List.filterMap_map]
  refine (List.filterMap_eq_map (f := Prod.fst) ▸ ?_ : _ = (numbered rows).map Prod.fst).trans (List.zipIdx_map_fst ..)
  rfl

/-- A turn sends the rows of what it received, unless a stray exception ended it. -/
theorem upsertedChunks_runAdapter (a : Adapter) (hstray : ∀ key ∈ md.fetchKeys a.sourceName,
    stray (a.fetchPrices district key state) = none) :
    upsertedChunks (runAdapter cfg out md district state n a) = chunks upsertChunk
      (md.rows cfg (received (fun key => a.fetchPrices district key state) (md.fetchKeys a.sourceName))) := by
  by_cases hkeys : md.fetchKeys a.sourceName = []
  · unfold runAdapter
    dsimp only
    rw [if_pos hkeys, hkeys]
    exact (chunks_nil (by decide)).symm
  · have hlog : ∀ row, upsertedChunks [out.logRun n row] = [] := fun _ => rfl
    rw [runAdapter_completed hkeys hstray, upsertedChunks_append, completed_calls, upsertedChunks_append,
      upsertedChunks_fetched (fun key => a.fetchPrices district key state), upsertedChunks_upsertCalls, hlog,
      List.nil_append, List.append_nil]

theorem upsertedChunks_stray (a : Adapter) {key : String} (hkey : key ∈ md.fetchKeys a.sourceName)
    (hstray : stray (a.fetchPrices district key state) ≠ none) :
    upsertedChunks (runAdapter cfg out md district state n a) = [] := by
  obtain ⟨keys, row, hturn, -⟩ := runAdapter_stray cfg out n hkey hstray
  rw [hturn, upsertedChunks_append, upsertedChunks_fetched (fun key => a.fetchPrices district key state)]
  rfl

variable (cfg out md district state n) in
theorem distinct_runAdapter (a : Adapter) :
    (∀ chunk ∈ upsertedChunks (runAdapter cfg out md district state n a), (chunk.map UpsertRow.conflict).Nodup) ↔
      ((∀ key ∈ md.fetchKeys a.sourceName, stray (a.fetchPrices district key state) = none) →
        md.DistinctBlocks cfg (received (fun key => a.fetchPrices district key state) (md.fetchKeys a.sourceName))) := by
  by_cases hstray : ∀ key ∈ md.fetchKeys a.sourceName, stray (a.fetchPrices district key state) = none
  · rw [upsertedChunks_runAdapter a hstray, chunks_rows_iff]
    exact ⟨fun h _ => h, fun h => h hstray⟩
  · obtain ⟨key, hkey, hne⟩ : ∃ key ∈ md.fetchKeys a.sourceName, stray (a.fetchPrices district key state) ≠ none := by
      simpa using hstray
    rw [upsertedChunks_stray a hkey hne]
    exact ⟨fun _ h => absurd h hstray, fun _ chunk hc => absurd hc List.not_mem_nil⟩

end Run

/-- **Ingest batches are upsertable** exactly when the accepted records of each adapter whose poll runs through have distinct
keys, block by block. -/
theorem upserts_distinct_iff (cfg : IngestConfig) (out : Outside) (adapters : List Adapter) (district state : String) :
    (∀ chunk ∈ upsertedChunks (IngestionRunner.run cfg out adapters district state),
        (chunk.map UpsertRow.conflict).Nodup) ↔
      ∀ md, metadata cfg out (adapters.map (·.sourceName)) district = .ok md → ∀ a ∈ adapters,
        (∀ key ∈ md.fetchKeys a.sourceName, stray (a.fetchPrices district key state) = none) →
          md.DistinctBlocks cfg
            (received (fun key => a.fetchPrices district key state) (md.fetchKeys a.sourceName)) := by
  unfold IngestionRunner.run
  cases hmd : metadata cfg out (adapters.map (·.sourceName)) district with
  | error e =>
    constructor
    · intro _ md' hmd'
      cases hmd'
    · intro _ chunk hc
      exact absurd hc List.not_mem_nil
  | ok md =>
    dsimp only
    have hturns : upsertedChunks (adapters.mapIdx (runAdapter cfg out md district state)).flatten
        = (adapters.mapIdx (fun n a => upsertedChunks (runAdapter cfg out md district state n a))).flatten := by
      unfold upsertedChunks
      rw [List.filterMap_flatten, List.mapIdx_eq_zipIdx_map, List.mapIdx_eq_zipIdx_map, List.map_map]
      rfl
    constructor
    · rintro h md' hmd' a ha
      obtain rfl := Except.ok.inj hmd'
      obtain ⟨n, hn, rfl⟩ := List.mem_iff_getElem.1 ha
      refine (distinct_runAdapter cfg out md district state n adapters[n]).1 (fun chunk hc => h chunk ?_)
      rw [hturns]
      exact List.mem_flatten.2 ⟨_, List.mem_mapIdx.2 ⟨n, hn, rfl⟩, hc⟩
    · intro h chunk hc
      rw [hturns] at hc
      obtain ⟨l, hl, hc⟩ := List.mem_flatten.1 hc
      obtain ⟨n, hn, rfl⟩ := List.mem_mapIdx.1 hl
      exact (distinct_runAdapter cfg out md district state n adapters[n]).2 (h md rfl adapters[n] (List.getElem_mem hn))
        chunk hc

/-- Onion of one day, under its two spellings. -/
def twoSpellings : Adapter := ⟨"data_gov_in", fun _ key _ => .ok [onionRecord "Lasalgaon" key 1800]⟩

/-- The two aliases of a commodity bring one record twice, and both are in one chunk. -/
theorem upserts_twoSpellings : ∃ chunk ∈ upsertedChunks (IngestionRunner.run plainIngest
      (answering onionTables fun _ _ => .ok ()) [twoSpellings] "Nashik" "Maharashtra"),
    ¬ (chunk.map UpsertRow.conflict).Nodup := by
  have hany : (upsertedChunks (IngestionRunner.run plainIngest (answering onionTables fun _ _ => .ok ()) [twoSpellings]
      "Nashik" "Maharashtra")).any (fun chunk => ¬ (chunk.map UpsertRow.conflict).Nodup) = true := by
    decide +kernel
  obtain ⟨chunk, hc, hdup⟩ := List.any_eq_true.1 hany
  exact ⟨chunk, hc, of_decide_eq_true hdup⟩

end Krishi
