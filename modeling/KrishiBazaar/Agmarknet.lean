import KrishiBazaar.PriceStore
import KrishiBazaar.Truncation
/-!
# Agmarknet — the scraper beside data.gov.in

`AgmarknetAdapter.fetch_prices` asks a scraper for one mandi after the other.  A mandi that fails is passed over, and the
fetch raises only if no record came of any.  The ingestion job runs it after the adapter of data.gov.in, in one run.

Neither is to stand in the other's way, and neither does: whatever the servers and the line do, the run does to the prices
of each source just what a run of its adapter alone would have done (`sources_apart`).
-/
namespace Krishi

open Lib

/-! ## The adapter -/

section Fetch

variable (cfg : DataGovConfig)

def nashikMarkets : List String := ["Lasalgaon", "Pimpalgaon", "Yeola", "Nashik", "Manmad"]

def marketsFor (district : String) : List String :=
  if cfg.lower district = "nashik" ∨ cfg.lower district = "nasik" then nashikMarkets else [district]

/-- `script` of the cloned repository by state, commodity and market, or none if it cannot be imported.  A call may raise,
and one that takes too long does. -/
abbrev Scraper := Option (String → String → String → Except String Json)

/-- `item.get(k, "").strip()`; `none` where it raises. -/
def strippedText (item : Json) (k : String) : Option String := do
  match (← item.get k).getD (.str "") with
  | .str s => some (cfg.strip s)
  | _ => none

/-- `float(v)`; an integer out of range raises. -/
def numberOf : Json → Option Double
  | .str s => cfg.float s
  | .float x => some x
  | .int n =>
    match cfg.round n with
    | .finite q => some (.finite q)
    | _ => none
  | .bool b => some (.finite (if b then 1 else 0))
  | _ => none

/-- A price that may be missing. -/
def optionalNumber (item : Json) (k : String) : Option (Option Double) := do
  match (← item.get k).filter Json.truthy with
  | none => some none
  | some v => (numberOf cfg v).map some

/-- A record, or none for an item that is skipped. -/
def mandiRecord (marketToQuery : String) (item : Json) : Option RawPriceRecord := do
  let dateStr ← strippedText cfg item "Date"
  if dateStr = "" then none else do
    let arrivalDate ← cfg.strptime "%d %b %Y" dateStr
    let modal ← numberOf cfg ((← item.get "Model Prize").getD (.int 0))
    if modal.le (.finite 0) then none else do
      let minPrice ← optionalNumber cfg item "Min Prize"
      let maxPrice ← optionalNumber cfg item "Max Prize"
      let city ← strippedText cfg item "City"
      let commodityName ← strippedText cfg item "Commodity"
      some {
        marketName := nonEmpty city marketToQuery
        commodityName := commodityName
        arrivalDate := arrivalDate
        minPrice := minPrice
        maxPrice := maxPrice
        modalPrice := modal
        unit := "quintal"
        arrivalQty := none
        variety := "General"
        grade := "General"
        source := "agmarknet"
        sourceRef := none
        rawPayload := item }

/-- The mandis in turn: the records so far, and the last exception. -/
def scrapeMandis (ask : String → Except String Json) :
    List String → List RawPriceRecord → Option String → Except FetchError (List RawPriceRecord × Option String)
  | [], records, lastErr => .ok (records, lastErr)
  | market :: rest, records, lastErr =>
    match ask market with
    | .error e => scrapeMandis ask rest records (some e)
    | .ok rawData =>
      match if rawData.truthy then rawData.items else some [] with
      | none => .error (.exception (cfg.errorText (.notIterable rawData)))
      | some items => scrapeMandis ask rest (records ++ items.filterMap (mandiRecord cfg market)) lastErr

def agmarknetAdapter (scraper : Scraper) : Adapter where
  sourceName := "agmarknet"
  fetchPrices district commodity state :=
    match scraper with
    | none => .error (.sourceFetchError "agmarknetAPI script import failed")
    | some script => do
      let (records, lastErr) ← scrapeMandis cfg (script state commodity) (marketsFor cfg district) [] none
      if records.isEmpty then .error (.sourceFetchError ("agmarknet scraper failed: " ++ lastErr.getD "None"))
      else .ok records

end Fetch

/-! ## What the adapters record -/

/-- **All records bear the adapter's name.** -/
def Adapter.Signs (a : Adapter) : Prop :=
  ∀ district commodity state raws, a.fetchPrices district commodity state = .ok raws →
    ∀ raw ∈ raws, raw.source = a.sourceName

section Signs

variable {cfg : DataGovConfig}

theorem parseRecord_source {commodity : String} {item : Json} {raw : RawPriceRecord}
    (h : parseRecord cfg commodity item = some raw) : raw.source = "data_gov_in" := by
  unfold parseRecord at h
  simp only [Option.bind_eq_bind, Option.bind_eq_some_iff] at h
  obtain ⟨dateStr, -, h⟩ := h
  split at h
  · cases h
  · simp only [Option.bind_eq_some_iff] at h
    obtain ⟨arrivalDate, -, modal, -, h⟩ := h
    split at h
    · cases h
    · simp only [Option.bind_eq_some_iff] at h
      obtain ⟨variety, -, market, -, commodityName, -, grade, -, h⟩ := h
      obtain rfl := Option.some.inj h
      rfl

theorem mandiRecord_source {market : String} {item : Json} {raw : RawPriceRecord}
    (h : mandiRecord cfg market item = some raw) : raw.source = "agmarknet" := by
  unfold mandiRecord at h
  simp only [Option.bind_eq_bind, Option.bind_eq_some_iff] at h
  obtain ⟨dateStr, -, h⟩ := h
  split at h
  · cases h
  · simp only [Option.bind_eq_some_iff] at h
    obtain ⟨arrivalDate, -, price, -, modal, -, h⟩ := h
    split at h
    · cases h
    · simp only [Option.bind_eq_some_iff] at h
      obtain ⟨minPrice, -, maxPrice, -, city, -, commodityName, -, h⟩ := h
      obtain rfl := Option.some.inj h
      rfl

theorem dataGovInAdapter_signs (server : Server) : (dataGovInAdapter cfg server).Signs := by
  intro district commodity state raws h raw hraw
  change (download cfg server ⟨district, commodity, state⟩).map _ = _ at h
  cases hd : download cfg server ⟨district, commodity, state⟩ with
  | error e =>
    rw [hd] at h
    cases h
  | ok d =>
    rw [hd] at h
    obtain rfl := Except.ok.inj h
    obtain ⟨item, -, hitem⟩ := List.mem_filterMap.1 hraw
    exact parseRecord_source hitem

/-- What a mandi's records are. -/
theorem scrapeMandis_signs {ask : String → Except String Json} : ∀ {markets : List String} {records : List RawPriceRecord}
    {lastErr : Option String} {result : List RawPriceRecord × Option String},
    scrapeMandis cfg ask markets records lastErr = .ok result → (∀ raw ∈ records, raw.source = "agmarknet") →
      ∀ raw ∈ result.1, raw.source = "agmarknet"
  | [], records, lastErr, result, h, hrecords => by
    obtain rfl := Except.ok.inj h
    exact hrecords
  | market :: rest, records, lastErr, result, h, hrecords => by
    unfold scrapeMandis at h
    split at h
    · exact scrapeMandis_signs h hrecords
    · split at h
      · cases h
      · refine scrapeMandis_signs h (fun raw hraw => ?_)
        rcases List.mem_append.1 hraw with hraw | hraw
        · exact hrecords raw hraw
        · obtain ⟨item, -, hitem⟩ := List.mem_filterMap.1 hraw
          exact mandiRecord_source hitem

theorem agmarknetAdapter_signs (scraper : Scraper) : (agmarknetAdapter cfg scraper).Signs := by
  intro district commodity state raws h
  cases scraper with
  | none => cases h
  | some script =>
    change (scrapeMandis cfg (script state commodity) (marketsFor cfg district) [] none >>= _) = _ at h
    rw [bind_ok] at h
    obtain ⟨⟨records, lastErr⟩, hrecords, h⟩ := h
    have hsigns := scrapeMandis_signs hrecords (fun raw hraw => absurd hraw List.not_mem_nil)
    dsimp only at h
    split at h
    · cases h
    · obtain rfl := Except.ok.inj h
      exact hsigns

end Signs

/-! ## The job's run -/

structure IngestionSettings where
  dataGovInApiKey : String
  enableAgmarknet : Bool
  targetDistrict : String
  targetState : String

/-- The adapters the job is configured with. -/
def IngestionSettings.adapters (s : IngestionSettings) (cfg : DataGovConfig) (server : Server) (scraper : Scraper) :
    List Adapter :=
  (if s.dataGovInApiKey ≠ "" ∧ ¬ "your-data-gov-in-key".toList <:+: s.dataGovInApiKey.toList then
    [dataGovInAdapter cfg server]
  else []) ++ if s.enableAgmarknet then [agmarknetAdapter cfg scraper] else []

/-- What the job calls once it has its lock; without an adapter there is no run. -/
def ingestionCalls (s : IngestionSettings) (cfg : DataGovConfig) (out : Outside) (server : Server) (scraper : Scraper) :
    List IngestCall :=
  let adapters := s.adapters cfg server scraper
  if adapters.isEmpty then []
  else IngestionRunner.run cfg.toIngestConfig out adapters s.targetDistrict s.targetState

/-! ## One source among others -/

/-- The outside as the `n`-th adapter of a run meets it. -/
def Outside.only (out : Outside) (n : Nat) : Outside :=
  ⟨out.read, fun _ => out.upsert n, fun _ => out.log n, fun _ => out.elapsedMs n⟩

section Turns

variable {cfg : IngestConfig} {out : Outside} {md md' : Metadata} {district state : String}

theorem sentChunks_append (calls calls' : List IngestCall) :
    sentChunks (calls ++ calls') = sentChunks calls ++ sentChunks calls' :=
  List.filterMap_append

/-- The rows of an adapter's turn are of its source. -/
theorem source_runAdapter {a : Adapter} (hsigns : a.Signs) (n : Nat) {row : UpsertRow}
    (hrow : row ∈ ((sentChunks (runAdapter cfg out md district state n a)).map (·.1)).flatten) :
    row.source = a.sourceName := by
  rw [map_sentChunks, flatten_runAdapter] at hrow
  unfold Metadata.accepted at hrow
  split at hrow
  · obtain ⟨raw, hraw, hrow⟩ := List.mem_filterMap.1 hrow
    obtain ⟨key, -, raws, hfetch, hmem⟩ := mem_received.1 hraw
    have hresolve : md.resolve cfg raw = .ok row := by
      cases hr : md.resolve cfg raw with
      | error e =>
        rw [hr] at hrow
        cases hrow
      | ok row' =>
        rw [hr] at hrow
        rw [Option.some.inj hrow]
    have hsource : raw.source = row.source := congrArg (·.2.2.2.2.2) (conflict_row hresolve)
    exact hsource.symm.trans (hsigns _ _ _ _ hfetch _ hmem)
  · cases hrow

/-- The rows of adapters' turns are of their sources. -/
theorem source_turns {f : Nat → Nat} {adapters : List Adapter} (hsigns : ∀ a ∈ adapters, a.Signs) {row : UpsertRow}
    (hrow : row ∈ ((sentChunks (adapters.mapIdx
      (fun i a => runAdapter cfg out md district state (f i) a)).flatten).map (·.1)).flatten) :
    ∃ a ∈ adapters, row.source = a.sourceName := by
  rw [map_sentChunks, flatten_upsertedChunks] at hrow
  obtain ⟨rows, hrows, hrow⟩ := List.mem_flatten.1 hrow
  obtain ⟨turn, hturn, rfl⟩ := List.mem_map.1 hrows
  obtain ⟨i, hi, rfl⟩ := List.mem_mapIdx.1 hturn
  have ha : adapters[i] ∈ adapters := List.getElem_mem hi
  rw [← map_sentChunks] at hrow
  exact ⟨_, ha, source_runAdapter (hsigns _ ha) (f i) hrow⟩

theorem pollKeys_congr {fetch : String → Except FetchError (List RawPriceRecord)}
    (h : ∀ raw, md'.resolve cfg raw = md.resolve cfg raw) : ∀ (keys : List String) (t : Intake),
    pollKeys cfg md' fetch keys t = pollKeys cfg md fetch keys t
  | [], _ => rfl
  | key :: keys, t => by
    have hrecord : Intake.record cfg md' = Intake.record cfg md := by
      funext t raw
      unfold Intake.record
      rw [h]
    unfold pollKeys
    simp only [pollKeys_congr h keys, hrecord]

/-- **An adapter's turn is the same in a run of its own.** -/
theorem runAdapter_only {a : Adapter} {n : Nat} (hresolve : ∀ raw, md'.resolve cfg raw = md.resolve cfg raw)
    (hkeys : md'.fetchKeys a.sourceName = md.fetchKeys a.sourceName) :
    runAdapter cfg (out.only n) md' district state 0 a = runAdapter cfg out md district state n a := by
  unfold runAdapter
  rw [hkeys]
  simp only [pollKeys_congr hresolve]
  rfl

/-- What a run of one of the adapters reads of the tables. -/
theorem metadata_only {names : List String} {name : String} (hname : name ∈ names) (n : Nat) :
    metadata cfg (out.only n) [name] district = (metadata cfg out names district).map
      (fun md => { md with sourceFetchKeys := md.sourceFetchKeys.filter (fun e => e.1 = name) }) := by
  have hfilter : ∀ aliases : List CommodityAlias, (aliases.filter (fun c => c.source ∈ [name])).map
        (fun c => (c.source, c.sourceKey))
      = ((aliases.filter (fun c => c.source ∈ names)).map (fun c => (c.source, c.sourceKey))).filter
        (fun e => e.1 = name) := by
    intro aliases
    rw [List.filter_map, List.filter_filter]
    refine congrArg _ (List.filter_congr (fun c _ => ?_))
    by_cases hc : c.source = name
    · simp [hc, hname]
    · simp [hc]
  unfold metadata
  rw [show (out.only n).read = out.read from rfl]
  cases out.read 0 with
  | error e => rfl
  | ok db₀ =>
    cases out.read 1 with
    | error e => rfl
    | ok db₁ =>
      cases out.read 2 with
      | error e => rfl
      | ok db₂ =>
        cases out.read 3 with
        | error e => rfl
        | ok db₃ => exact congrArg (fun keys => Except.ok (Metadata.mk _ _ keys)) (hfilter db₃.commodityAlias.rows)

theorem fetchKeys_filter (md : Metadata) (name : String) :
    Metadata.fetchKeys { md with sourceFetchKeys := md.sourceFetchKeys.filter (fun e => e.1 = name) } name
      = md.fetchKeys name := by
  unfold Metadata.fetchKeys
  rw [List.filter_filter]
  simp only [Bool.and_self]

/-- **An adapter among others**: the run does to the prices of its source what a run of it alone does. -/
theorem run_alone {refs : UpsertRow → Bool} {prices prices' : PriceTable} {pre post : List Adapter} {a : Adapter}
    (hsigns : ∀ b ∈ pre ++ post, b.Signs) (hnames : ∀ b ∈ pre ++ post, b.sourceName ≠ a.sourceName)
    (h : Sends (priceTable refs) prices (sentChunks (IngestionRunner.run cfg out (pre ++ a :: post) district state))
      prices') :
    ∃ prices'', Sends (priceTable refs) prices
        (sentChunks (IngestionRunner.run cfg (out.only pre.length) [a] district state)) prices'' ∧
      ∀ k, k.2.2.2.2.2 = a.sourceName → prices'.get? k = prices''.get? k := by
  have hmem : a.sourceName ∈ (pre ++ a :: post).map (·.sourceName) :=
    List.mem_map_of_mem (List.mem_append_right _ List.mem_cons_self)
  have honly : metadata cfg (out.only pre.length) [a.sourceName] district = _ := metadata_only hmem pre.length
  unfold IngestionRunner.run at h ⊢
  rw [show [a].map (·.sourceName) = [a.sourceName] from rfl, honly]
  cases hmd : metadata cfg out ((pre ++ a :: post).map (·.sourceName)) district with
  | error e =>
    rw [hmd] at h
    -- the run ends with its row of the log
    exact ⟨prices', h, fun _ _ => rfl⟩
  | ok md =>
    rw [hmd] at h
    have hturn : runAdapter cfg (out.only pre.length)
          { md with sourceFetchKeys := md.sourceFetchKeys.filter (fun e => e.1 = a.sourceName) } district state 0 a
        = runAdapter cfg out md district state pre.length a :=
      runAdapter_only (fun _ => rfl) (fetchKeys_filter md a.sourceName)
    dsimp only [Except.map] at h ⊢
    rw [List.mapIdx_append, List.mapIdx_cons, List.flatten_append, List.flatten_cons, sentChunks_append,
      sentChunks_append] at h
    rw [List.mapIdx_cons, List.mapIdx_nil, List.flatten_cons, List.flatten_nil, List.append_nil, hturn]
    rw [Nat.zero_add] at h
    refine h.alone (fun _ _ _ => rfl) (fun k => k.2.2.2.2.2 = a.sourceName) (fun row hrow hmine => ?_)
      (fun row hrow hmine => ?_)
    · obtain ⟨b, hb, hsource⟩ := source_turns (f := fun i => i) (fun b hb => hsigns b (List.mem_append_left _ hb)) hrow
      exact hnames b (List.mem_append_left _ hb) (hsource.symm.trans hmine)
    · obtain ⟨b, hb, hsource⟩ := source_turns (f := fun i => i + 1 + pre.length)
        (fun b hb => hsigns b (List.mem_append_right _ hb)) hrow
      exact hnames b (List.mem_append_right _ hb) (hsource.symm.trans hmine)

/-- Prices of other sources stay. -/
theorem run_others {refs : UpsertRow → Bool} {prices prices' : PriceTable} {adapters : List Adapter}
    (hsigns : ∀ a ∈ adapters, a.Signs)
    (h : Sends (priceTable refs) prices (sentChunks (IngestionRunner.run cfg out adapters district state)) prices')
    {k : Uuid × Uuid × Date × String × String × String} (hk : k.2.2.2.2.2 ∉ adapters.map (·.sourceName)) :
    prices'.get? k = prices.get? k := by
  refine h.get?_other (fun hmem => hk ?_)
  obtain ⟨row, hrow, rfl⟩ := List.mem_map.1 hmem
  unfold IngestionRunner.run at hrow
  split at hrow
  · cases hrow
  · obtain ⟨a, ha, hsource⟩ := source_turns (f := fun i => i) hsigns hrow
    exact List.mem_map.2 ⟨a, ha, hsource.symm⟩

end Turns

section Job

variable {s : IngestionSettings} {cfg : DataGovConfig} {server : Server} {scraper : Scraper}

theorem adapters_sign {a : Adapter} (ha : a ∈ s.adapters cfg server scraper) : a.Signs := by
  unfold IngestionSettings.adapters at ha
  rcases List.mem_append.1 ha with ha | ha
  · split at ha
    · rw [List.mem_singleton.1 ha]
      exact dataGovInAdapter_signs server
    · cases ha
  · split at ha
    · rw [List.mem_singleton.1 ha]
      exact agmarknetAdapter_signs scraper
    · cases ha

theorem adapters_nodup : ((s.adapters cfg server scraper).map (·.sourceName)).Nodup := by
  unfold IngestionSettings.adapters
  split <;> split <;> simp [dataGovInAdapter, agmarknetAdapter]

end Job

/-- **The sources of a run do not meet.**  Whatever data.gov.in, the scraper and the line to the database do, the job's run
does to the prices of each source what a run of its adapter alone would have done, and to other prices nothing. -/
theorem sources_apart (s : IngestionSettings) (cfg : DataGovConfig) (out : Outside) (server : Server) (scraper : Scraper)
    (refs : UpsertRow → Bool) {prices prices' : PriceTable}
    (h : Sends (priceTable refs) prices (sentChunks (ingestionCalls s cfg out server scraper)) prices') :
    (∀ pre a post, s.adapters cfg server scraper = pre ++ a :: post → ∃ prices'',
      Sends (priceTable refs) prices (sentChunks (IngestionRunner.run cfg.toIngestConfig (out.only pre.length) [a]
        s.targetDistrict s.targetState)) prices'' ∧
      ∀ k, k.2.2.2.2.2 = a.sourceName → prices'.get? k = prices''.get? k) ∧
    ∀ k, k.2.2.2.2.2 ∉ (s.adapters cfg server scraper).map (·.sourceName) → prices'.get? k = prices.get? k := by
  have hsigns : ∀ a ∈ s.adapters cfg server scraper, a.Signs := fun a => adapters_sign
  have hnodup : ((s.adapters cfg server scraper).map (·.sourceName)).Nodup := adapters_nodup
  unfold ingestionCalls at h
  dsimp only at h
  generalize s.adapters cfg server scraper = adapters at *
  by_cases hempty : adapters.isEmpty
  · rw [if_pos hempty] at h
    cases h
    obtain rfl := List.isEmpty_iff.1 hempty
    exact ⟨fun pre a post hsplit => absurd hsplit (by simp), fun _ _ => rfl⟩
  · rw [if_neg hempty] at h
    refine ⟨fun pre a post hsplit => ?_, fun k hk => run_others hsigns h hk⟩
    rw [hsplit] at h hsigns hnodup
    have hothers : ∀ b ∈ pre ++ post, b ∈ pre ++ a :: post := fun b hb => by
      rcases List.mem_append.1 hb with hb | hb
      · exact List.mem_append_left _ hb
      · exact List.mem_append_right _ (List.mem_cons_of_mem _ hb)
    refine run_alone (fun b hb => hsigns b (hothers b hb)) (fun b hb hname => ?_) h
    rw [List.map_append, List.map_cons, List.nodup_middle, List.nodup_cons, ← List.map_append] at hnodup
    exact hnodup.1 (hname ▸ List.mem_map_of_mem hb)

/-! Data.gov.in has one record, and the scraper another, of the one mandi it can read. -/

def bothSources : IngestionSettings := ⟨"key", true, "Nashik", "Maharashtra"⟩

def bothAliases : DB where
  __ := onionTables
  commodityAlias := ⟨[⟨"data_gov_in", "Onion", 1⟩, ⟨"agmarknet", "Onion", 1⟩], by decide, by decide⟩

def oneMandi : Scraper := some fun _ _ market =>
  if market = "Lasalgaon" then
    .ok (.arr [.obj [("Date", .str "01 Sep 2024"), ("City", .str "Lasalgaon"), ("Commodity", .str "Onion"),
      ("Model Prize", .str "1800")]])
  else .error "timeout"

/-- Each source has a chunk of its own, and what data.gov.in's does is what a run without the scraper does. -/
theorem sources_apart_lasalgaon :
    let out := answering bothAliases fun _ _ => .ok ()
    let sent := sentChunks (ingestionCalls bothSources plainDataGov out firstPageOnly oneMandi)
    sent.map (fun c => c.1.map (·.source)) = [["data_gov_in"], ["agmarknet"]] ∧
      ∃ prices' prices'', Sends (priceTable fun _ => true) .empty sent prices' ∧
        Sends (priceTable fun _ => true) .empty (sentChunks (IngestionRunner.run plainIngest (out.only 0)
          [dataGovInAdapter plainDataGov firstPageOnly] "Nashik" "Maharashtra")) prices'' ∧
        ∀ k, k.2.2.2.2.2 = "data_gov_in" → prices'.get? k = prices''.get? k := by
  intro out sent
  have htakable : Takable sent := by decide +kernel
  obtain ⟨prices', h⟩ := htakable.exists_sends .empty
  obtain ⟨prices'', halone, hsame⟩ := (sources_apart bothSources plainDataGov out firstPageOnly oneMandi
    (fun _ => true) h).1 [] (dataGovInAdapter plainDataGov firstPageOnly) [agmarknetAdapter plainDataGov oneMandi]
    (by rfl)
  exact ⟨by decide +kernel, prices', prices'', h, halone, hsame⟩

end Krishi
