import KrishiBazaar.Schema
import KrishiBazaar.Lib.Chunk
import KrishiBazaar.Lib.FirstSeen
/-!
# Ingestion — one run of the price ingestion

`IngestionRunner.run` and `PriceValidator` of `ingestion/`.  A run reads the aliases, bands and markets, then polls each
adapter for each alias of its source, validates what comes back, upserts it in chunks and writes one row of
`ingestion_log`.  The run is the list of its calls on the outside with their answers: an adapter may fail for a key, in
its own way or in another, and so may each chunk and each row of the log.

Prices are doubles until they are validated.  What Python and the clock provide is a parameter.
-/
namespace Krishi

open Lib

/-! ## Numbers and text -/

inductive Double
  | finite (q : ℚ)
  | inf (negative : Bool)
  | nan
  deriving DecidableEq, Repr

namespace Double

/-- `<`, which a `nan` never meets. -/
def lt : Double → Double → Bool
  | finite a, finite b => a < b
  | finite _, inf negative => !negative
  | inf negative, finite _ => negative
  | inf negative, inf negative' => negative && !negative'
  | _, _ => false

def le (a b : Double) : Bool := a.lt b || (a = b && a ≠ nan)

/-- The product with a positive number, rounded. -/
def times (round : ℚ → Double) : Double → ℚ → Double
  | finite a, m => round (a * m)
  | x, _ => x

end Double

/-- Python's text functions, and its floating point. -/
structure IngestConfig where
  /-- `str.isspace` on one character. -/
  isSpace : Char → Bool
  lower : String → String
  /-- `str` of a date. -/
  isoformat : Date → String
  /-- The double nearest a number. -/
  round : ℚ → Double

def IngestConfig.strip (cfg : IngestConfig) (s : String) : String :=
  String.ofList ((s.toList.dropWhile cfg.isSpace).reverse.dropWhile cfg.isSpace).reverse

def normKey (cfg : IngestConfig) (s : String) : String :=
  let words := ((cfg.lower (cfg.strip s)).toList.splitOnP cfg.isSpace).filter (· ≠ [])
  " ".intercalate (words.map String.ofList)

/-- `d.get(k)`: a later entry of a key replaces an earlier one. -/
def dictGet {κ ν : Type} [DecidableEq κ] (d : List (κ × ν)) (k : κ) : Option ν :=
  (d.reverse.find? (fun e => e.1 = k)).map (·.2)

/-- `s or "General"`. -/
def orGeneral (s : String) : String := if s = "" then "General" else s

inductive Json
  | null
  | bool (b : Bool)
  | int (n : Int)
  | float (x : Double)
  | str (s : String)
  | arr (items : List Json)
  | obj (fields : List (String × Json))

/-! ## The validator -/

structure RawPriceRecord where
  marketName : String
  commodityName : String
  arrivalDate : Date
  minPrice : Option Double
  maxPrice : Option Double
  modalPrice : Double
  unit : String
  arrivalQty : Option Double
  variety : String
  grade : String
  source : String
  sourceRef : Option String
  rawPayload : Json

/-- Why a record was refused, with what its reason shows. -/
inductive Rejection
  | unknownCommodity (source commodityName : String)
  | unknownUnit (unit : String)
  | invalidPrice (which : String) (price : Double)
  | modalBelowMin (modal min : ℚ)
  | modalAboveMax (modal max : ℚ)
  | sanityBand (modal : ℚ) (sanityMin sanityMax : Double) (commodityId : Uuid)
  | unknownMarket (marketName : String)
  deriving DecidableEq, Repr

/-- What `validate_and_normalize` returns of a valid record. -/
structure ValidPrice where
  commodityId : Uuid
  arrivalDate : Date
  minPrice : Option ℚ
  maxPrice : Option ℚ
  modalPrice : ℚ
  unit : String
  arrivalQty : Option Double
  variety : String
  grade : String
  source : String
  sourceRef : String
  rawPayload : Json

/-- The double written `0.1`. -/
def tenth : ℚ := 3602879701896397 / 36028797018963968

/-- The factor to Rs/quintal. -/
def unitConversions : List (String × ℚ) :=
  [("quintal", 1), ("qtl", 1), ("100 kg", 1), ("kg", 100), ("kilogram", 100), ("ton", tenth), ("tonne", tenth), ("mt", tenth)]

structure PriceValidator where
  commodityIdMap : List (String × Uuid)
  sanityBands : List (Uuid × Double × Double)

section Validate

variable (cfg : IngestConfig)

def normalizeUnit (price : Double) (unit : String) : Except Rejection Double :=
  match dictGet unitConversions (cfg.strip (cfg.lower unit)) with
  | none => .error (.unknownUnit unit)
  | some multiplier => .ok (price.times cfg.round multiplier)

/-- A price in Rs/quintal, if it is a positive number. -/
def normalizePrice (which : String) (price : Double) (unit : String) : Except Rejection ℚ := do
  let norm ← normalizeUnit cfg price unit
  match norm with
  | .finite q => if q ≤ 0 then .error (.invalidPrice which norm) else .ok q
  | _ => .error (.invalidPrice which norm)

def normalizeOptional (which : String) (price : Option Double) (unit : String) : Except Rejection (Option ℚ) :=
  match price with
  | none => .ok none
  | some price => (normalizePrice cfg which price unit).map some

def PriceValidator.commodityId (v : PriceValidator) (record : RawPriceRecord) : Option Uuid :=
  dictGet v.commodityIdMap (record.source ++ "|" ++ normKey cfg record.commodityName)

def checkOrder (modal : ℚ) (min max : Option ℚ) : Except Rejection Unit :=
  match min.filter (modal < ·), max.filter (· < modal) with
  | some min, _ => .error (.modalBelowMin modal min)
  | none, some max => .error (.modalAboveMax modal max)
  | none, none => .ok ()

def PriceValidator.checkBand (v : PriceValidator) (commodityId : Uuid) (modal : ℚ) : Except Rejection Unit :=
  match dictGet v.sanityBands commodityId with
  | none => .ok ()
  | some (sMin, sMax) =>
    if (Double.finite modal).lt sMin ∨ sMax.lt (.finite modal) then .error (.sanityBand modal sMin sMax commodityId)
    else .ok ()

def PriceValidator.validateAndNormalize (v : PriceValidator) (record : RawPriceRecord) : Except Rejection ValidPrice :=
  match v.commodityId cfg record with
  | none => .error (.unknownCommodity record.source record.commodityName)
  | some commodityId => do
    let normModal ← normalizePrice cfg "modal" record.modalPrice record.unit
    let normMin ← normalizeOptional cfg "min" record.minPrice record.unit
    let normMax ← normalizeOptional cfg "max" record.maxPrice record.unit
    checkOrder normModal normMin normMax
    v.checkBand commodityId normModal
    let sourceRef := record.marketName ++ "|" ++ record.commodityName ++ "|" ++ cfg.isoformat record.arrivalDate ++ "|"
      ++ orGeneral record.variety
    .ok {
      commodityId := commodityId
      arrivalDate := record.arrivalDate
      minPrice := normMin
      maxPrice := normMax
      modalPrice := normModal
      unit := "quintal"
      arrivalQty := record.arrivalQty
      variety := orGeneral record.variety
      grade := orGeneral record.grade
      source := record.source
      sourceRef := (record.sourceRef.filter (· ≠ "")).getD sourceRef
      rawPayload := record.rawPayload }

end Validate

/-! ## What a run calls -/

/-- What `fetch_prices` raises: its own error, or any other. -/
inductive FetchError
  | sourceFetchError (message : String)
  | exception (message : String)
  deriving DecidableEq, Repr

structure Adapter where
  sourceName : String
  /-- By district, commodity and state. -/
  fetchPrices : String → String → String → Except FetchError (List RawPriceRecord)

/-- A row for the upsert. -/
structure UpsertRow extends ValidPrice where
  marketId : Uuid

/-- `on_conflict`. -/
def UpsertRow.conflict (r : UpsertRow) : Uuid × Uuid × Date × String × String × String :=
  (r.marketId, r.commodityId, r.arrivalDate, r.variety, r.grade, r.source)

inductive IngestionStatus
  | success | partially | failed | rejected
  deriving DecidableEq, Repr

structure IngestionLog where
  source : String
  status : IngestionStatus
  recordsSeen : Nat
  recordsWritten : Nat
  recordsRejected : Nat
  errorMessage : Option String
  /-- The district and the state. -/
  filters : Option (String × String)
  durationMs : Option Int
  deriving DecidableEq, Repr

inductive IngestCall
  | fetched (key : String) (answer : Except FetchError (List RawPriceRecord))
  | upserted (chunk : List UpsertRow) (answer : Except String Unit)
  | logged (row : IngestionLog) (answer : Except String Unit)

/-- How the outside answers: the tables each of the four reads sees, each chunk of each adapter, the row of the log of each
adapter, or of the run. -/
structure Outside where
  read : Nat → Except String DB
  upsert : Nat → Nat → Except String Unit
  log : Nat → Except String Unit
  elapsedMs : Nat → Int

/-- One audit row, as `_log_run` sends it. -/
def Outside.logRun (out : Outside) (n : Nat) (row : IngestionLog) : IngestCall := .logged row (out.log n)

/-! ## The reference tables -/

structure Metadata extends PriceValidator where
  marketMap : List (String × Uuid)
  sourceFetchKeys : List (String × String)

/-- The alias spellings of a source, each once. -/
def Metadata.fetchKeys (md : Metadata) (sourceName : String) : List String :=
  firstSeen (fun key => key) ((md.sourceFetchKeys.filter (fun e => e.1 = sourceName)).map (·.2))

/-- The keys of a market, by its code and by its name. -/
def marketKeys (cfg : IngestConfig) (m : Market) : List (String × Uuid) :=
  (([m.sourceCode.getD "", m.name].map (normKey cfg)).filter (· ≠ "")).map (fun k => (k, m.id))

def metadata (cfg : IngestConfig) (out : Outside) (adapterNames : List String) (district : String) :
    Except String Metadata := do
  let db ← out.read 0
  let commodityIdMap := db.commodityAlias.rows.map (fun a => (a.source ++ "|" ++ normKey cfg a.sourceKey, a.commodityId))
  let db ← out.read 1
  let sanityBands := db.commodities.rows.map (fun c => (c.id, cfg.round c.sanityMin, cfg.round c.sanityMax))
  let db ← out.read 2
  let marketMap := (db.markets.rows.filter (fun m => m.district = district)).flatMap (marketKeys cfg)
  let db ← out.read 3
  let aliases := db.commodityAlias.rows.filter (fun a => a.source ∈ adapterNames)
  pure ⟨⟨commodityIdMap, sanityBands⟩, marketMap, aliases.map (fun a => (a.source, a.sourceKey))⟩

def Metadata.marketId (md : Metadata) (cfg : IngestConfig) (raw : RawPriceRecord) : Option Uuid :=
  dictGet md.marketMap (normKey cfg raw.marketName)

/-- A record as a row for the upsert, or why it is refused. -/
def Metadata.resolve (md : Metadata) (cfg : IngestConfig) (raw : RawPriceRecord) : Except Rejection UpsertRow := do
  let valid ← md.validateAndNormalize cfg raw
  match md.marketId cfg raw with
  | none => .error (.unknownMarket raw.marketName)
  | some marketId => .ok { valid with marketId := marketId }

/-! ## One adapter -/

/-- The variables of an adapter's turn, and the calls it has made. -/
structure Intake where
  seen : Nat
  written : Nat
  rejected : Nat
  allValid : List UpsertRow
  fetchErrors : List String
  chunkErrors : Nat
  calls : List IngestCall

def Intake.start : Intake := ⟨0, 0, 0, [], [], 0, []⟩

def Intake.record (cfg : IngestConfig) (md : Metadata) (t : Intake) (raw : RawPriceRecord) : Intake :=
  match md.resolve cfg raw with
  | .error _ => { t with rejected := t.rejected + 1 }
  | .ok row => { t with allValid := t.allValid ++ [row] }

/-- The fetch keys in turn.  An exception that is no `SourceFetchError` ends the loop, the counters as they stand. -/
def pollKeys (cfg : IngestConfig) (md : Metadata) (fetch : String → Except FetchError (List RawPriceRecord)) :
    List String → Intake → Intake × Option String
  | [], t => (t, none)
  | key :: keys, t =>
    let t := { t with calls := t.calls ++ [.fetched key (fetch key)] }
    match fetch key with
    | .error (.sourceFetchError e) => pollKeys cfg md fetch keys { t with fetchErrors := t.fetchErrors ++ [e] }
    | .error (.exception e) => (t, some e)
    | .ok raws => pollKeys cfg md fetch keys (raws.foldl (Intake.record cfg md) { t with seen := t.seen + raws.length })

def upsertChunk : Nat := 200

def Intake.upsert (answer : Nat → Except String Unit) (t : Intake) (chunk : List UpsertRow × Nat) : Intake :=
  let t := { t with calls := t.calls ++ [IngestCall.upserted chunk.1 (answer chunk.2)] }
  match answer chunk.2 with
  | .ok () => { t with written := t.written + chunk.1.length }
  | .error _ => { t with chunkErrors := t.chunkErrors + 1 }

def Intake.upsertAll (answer : Nat → Except String Unit) (t : Intake) : Intake :=
  let t := (chunks upsertChunk t.allValid).zipIdx.foldl (Intake.upsert answer) t
  if t.chunkErrors = 0 then t
  else { t with fetchErrors := t.fetchErrors ++ ["upsert_chunks_failed=" ++ toString t.chunkErrors] }

def Intake.status (t : Intake) : IngestionStatus :=
  if t.fetchErrors ≠ [] ∧ t.seen = 0 then .failed
  else if t.rejected = 0 ∧ t.fetchErrors = [] then .success
  else .partially

def Intake.errorMessage (t : Intake) : Option String :=
  if t.fetchErrors = [] then none else some ("; ".intercalate t.fetchErrors)

/-- The calls of the `n`-th adapter's turn. -/
def runAdapter (cfg : IngestConfig) (out : Outside) (md : Metadata) (district state : String) (n : Nat) (a : Adapter) :
    List IngestCall :=
  let fetchKeys := md.fetchKeys a.sourceName
  if fetchKeys = [] then
    [out.logRun n {
      source := a.sourceName
      status := .failed
      recordsSeen := 0
      recordsWritten := 0
      recordsRejected := 0
      errorMessage := some ("no_aliases_for_source: add commodity_alias rows for source '" ++ a.sourceName
        ++ "' before enabling it")
      filters := some (district, state)
      durationMs := none }]
  else
    match pollKeys cfg md (fun key => a.fetchPrices district key state) fetchKeys .start with
    | (t, some e) =>
      t.calls ++ [out.logRun n {
        source := a.sourceName
        status := .failed
        recordsSeen := t.seen
        recordsWritten := t.written
        recordsRejected := t.rejected
        errorMessage := some e
        filters := none
        durationMs := some (out.elapsedMs n) }]
    | (t, none) =>
      let t := t.upsertAll (out.upsert n)
      t.calls ++ [out.logRun n {
        source := a.sourceName
        status := t.status
        recordsSeen := t.seen
        recordsWritten := t.written
        recordsRejected := t.rejected
        errorMessage := t.errorMessage
        filters := some (district, state)
        durationMs := some (out.elapsedMs n) }]

/-- **A run**, as the calls it makes. -/
def IngestionRunner.run (cfg : IngestConfig) (out : Outside) (adapters : List Adapter) (district state : String) :
    List IngestCall :=
  match metadata cfg out (adapters.map (·.sourceName)) district with
  | .error e => [out.logRun 0 ⟨"system", .failed, 0, 0, 0, some e, none, none⟩]
  | .ok md => (adapters.mapIdx (runAdapter cfg out md district state)).flatten

end Krishi
