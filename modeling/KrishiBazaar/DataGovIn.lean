import KrishiBazaar.Ingestion
/-!
# DataGovIn — the adapter of data.gov.in

`DataGovInAdapter.fetch_prices`.  It asks for the first page under each spelling of the district until one has records,
then for the pages after it until the announced total is reached, and parses what it got.  A server answers the requests
of a fetch as it likes, each of them anew, also when one is retried.  The first page must come, or the fetch raises; a
later one that does not come, or comes empty, ends the loop.
-/
namespace Krishi

/-! ## JSON as Python has it -/

def Json.truthy : Json → Bool
  | .null => false
  | .bool b => b
  | .int n => n ≠ 0
  | .float x => x ≠ .finite 0
  | .str s => s ≠ ""
  | .arr items => !items.isEmpty
  | .obj fields => !fields.isEmpty

/-- What iterating a value yields; numbers and `None` are not iterable. -/
def Json.items : Json → Option (List Json)
  | .str s => some (s.toList.map (fun c => .str (String.ofList [c])))
  | .arr items => some items
  | .obj fields => some (fields.map (fun f => .str f.1))
  | _ => none

/-- `v.get(k)`, which only a dict has. -/
def Json.get (v : Json) (k : String) : Option (Option Json) :=
  match v with
  | .obj fields => some (dictGet fields k)
  | _ => none

/-- An operation on a value that has none. -/
inductive PyError
  | noGet (value : Json)
  | notIterable (value : Json)
  | noInt (value : Json)

/-- What the adapter takes from Python. -/
structure DataGovConfig extends IngestConfig where
  /-- `str` of a value. -/
  str : Json → String
  /-- `float` of a text. -/
  float : String → Option Double
  /-- `int` of a value. -/
  int : Json → Option Int
  /-- `strptime`, by format and text. -/
  strptime : String → String → Option Date
  /-- `str` of a list of keys. -/
  strKeys : List String → String
  errorText : PyError → String

/-! ## Requests -/

def dataGovPageSize : Nat := 100

structure PageParams where
  state : String
  district : String
  commodity : String
  limit : Nat
  offset : Nat
  deriving DecidableEq, Repr

inductive HttpError
  | statusError (code : Nat)
  | transportError (message : String)
  /-- A request error of another kind. -/
  | requestError (message : String)
  /-- Any other exception, as for a body that is no JSON. -/
  | other (message : String)
  deriving DecidableEq, Repr

/-- Network errors, rate limits and 5xx are retried. -/
def HttpError.isTransient : HttpError → Bool
  | .transportError _ => true
  | .statusError code => code = 429 ∨ 500 ≤ code
  | _ => false

/-- The answer to each request of a fetch, by its number. -/
abbrev Server := Nat → PageParams → Except HttpError Json

/-- `_get_json` with so many retries left: its answer, and the number of the next request. -/
def retryJson (server : Server) (params : PageParams) : Nat → Nat → Except HttpError Json × Nat
  | 0, n => (server n params, n + 1)
  | retries + 1, n =>
    match server n params with
    | .ok data => (.ok data, n + 1)
    | .error e => if e.isTransient then retryJson server params retries (n + 1) else (.error e, n + 1)

def getJson (server : Server) (params : PageParams) (n : Nat) : Except HttpError Json × Nat := retryJson server params 2 n

/-! ## The download -/

/-- What identifies a fetch. -/
structure FetchKey where
  district : String
  commodity : String
  state : String

def FetchKey.params (k : FetchKey) (spelling : String) (offset : Nat) : PageParams :=
  ⟨k.state, spelling, k.commodity, dataGovPageSize, offset⟩

def districtSpellings (district : String) : List String :=
  if district = "Nashik" then ["Nasik"] else if district = "Nasik" then ["Nashik"] else []

def FetchKey.spellings (k : FetchKey) : List String :=
  k.district :: (districtSpellings k.district).filter (· ≠ k.district)

def FetchKey.firstError (k : FetchKey) (spelling : String) : HttpError → FetchError
  | .statusError code => .sourceFetchError
      ("data.gov.in HTTP " ++ toString code ++ " for district=" ++ spelling ++ ", commodity=" ++ k.commodity)
  | .transportError e | .requestError e => .sourceFetchError ("data.gov.in request failed: " ++ e)
  | .other e => .exception e

section Download

variable (cfg : DataGovConfig) (server : Server) (k : FetchKey)

/-- The spellings in turn, until one has records: the last answer, and the spelling it was for if it had some. -/
def firstData : List String → Option Json → Nat → Except FetchError (Option Json × String × Nat)
  | [], data, n => .ok (data, k.district, n)
  | spelling :: rest, _, n =>
    match getJson server (k.params spelling 0) n with
    | (.error e, _) => .error (k.firstError spelling e)
    | (.ok data, n) =>
      match data.get "records" with
      | none => .error (.exception (cfg.errorText (.noGet data)))
      | some records => if records.any Json.truthy then .ok (some data, spelling, n) else firstData rest (some data) n

/-- The first page: its records, the total it announces, the spelling to go on with and the number of the next request. -/
structure FirstPage where
  records : List Json
  total : Int
  spelling : String
  next : Nat

def firstPage : Except FetchError FirstPage := do
  let (data, spelling, next) ← firstData cfg server k k.spellings none 0
  match data with
  | none => .error (.sourceFetchError "data.gov.in: no response obtained")
  | some data =>
    match (data.get "records").join with
    | none =>
      let keys := match data with
        | .obj fields => fields.map (·.1)
        | _ => []
      .error (.sourceFetchError ("data.gov.in: unexpected response shape — keys=" ++ cfg.strKeys keys))
    | some records =>
      match records.items with
      | none => .error (.exception (cfg.errorText (.notIterable records)))
      | some allRaw =>
        match (data.get "total").join with
        | none => .ok ⟨allRaw, allRaw.length, spelling, next⟩
        | some total =>
          match cfg.int total with
          | none => .error (.exception (cfg.errorText (.noInt total)))
          | some total => .ok ⟨allRaw, total, spelling, next⟩

/-- The records of a further page, if it came and has some. -/
def pageRecords (answer : Except HttpError Json) : Option (List Json) :=
  match answer with
  | .error _ => none
  | .ok data => ((data.get "records").join.filter Json.truthy).bind Json.items

/-- `while offset < total`: the records so far, and whether a `break` ended the loop.  A page that is taken has a record,
so `total - offset` rounds are enough. -/
def paginate (spelling : String) (total : Int) : Nat → List Json → Nat → List Json × Bool
  | 0, allRaw, _ => (allRaw, false)
  | rounds + 1, allRaw, n =>
    if (allRaw.length : Int) < total then
      let (answer, next) := getJson server (k.params spelling allRaw.length) n
      match pageRecords answer with
      | none => (allRaw, true)
      | some records => paginate spelling total rounds (allRaw ++ records) next
    else (allRaw, false)

structure Download where
  allRaw : List Json
  total : Int
  /-- A page after the first failed, or came empty, before the total was reached. -/
  truncated : Bool

def download : Except FetchError Download := do
  let first ← firstPage cfg server k
  let (allRaw, truncated) :=
    paginate server k first.spelling first.total (first.total - first.records.length).toNat first.records first.next
  .ok ⟨allRaw, first.total, truncated⟩

end Download

/-! ## Records -/

section Parse

variable (cfg : DataGovConfig)

/-- `(item.get(k) or default).strip()`; `none` where it raises. -/
def textField (item : Json) (k default : String) : Option String :=
  match item.get k with
  | none => none
  | some v =>
    match v.filter Json.truthy with
    | none => some (cfg.strip default)
    | some (.str s) => some (cfg.strip s)
    | some _ => none

/-- `float(str(v).strip())`. -/
def floatOf (v : Json) : Option Double := cfg.float (cfg.strip (cfg.str v))

def safePrice (v : Option Json) : Option Double :=
  (floatOf cfg (v.getD .null)).filter (fun f => (Double.finite 0).lt f)

/-- The modal price, none where it raises; an absent or empty one is zero. -/
def modalPrice (item : Json) : Option Double :=
  match ((item.get "modal_price").join.filter Json.truthy) with
  | none => some (.finite 0)
  | some raw =>
    let text := cfg.strip (cfg.str raw)
    if text = "" then some (.finite 0) else cfg.float text

/-- The first of the quantity fields with a number that is not negative. -/
def arrivalQty (item : Json) : Option Double :=
  ["arrivals", "arrival", "arrival_quantity", "qty"].findSome? (fun key =>
    match (item.get key).join with
    | none | some .null | some (.str "") => none
    | some raw => (floatOf cfg raw).filter (fun q => (Double.finite 0).le q))

def parseDate (dateStr : String) : Option Date :=
  ["%d/%m/%Y", "%Y-%m-%d", "%d-%m-%Y"].findSome? (fun fmt => cfg.strptime fmt dateStr)

def nonEmpty (s default : String) : String := if s = "" then default else s

/-- A record, or none for an item that is skipped. -/
def parseRecord (commodity : String) (item : Json) : Option RawPriceRecord := do
  let dateStr ← textField cfg item "arrival_date" ""
  if dateStr = "" then none else do
    let arrivalDate ← parseDate cfg dateStr
    let modal ← modalPrice cfg item
    if modal.le (.finite 0) then none else do
      let variety := nonEmpty (← textField cfg item "variety" "General") "General"
      let market ← textField cfg item "market" ""
      let commodityName ← textField cfg item "commodity" ""
      let grade := nonEmpty (← textField cfg item "grade" "General") "General"
      some {
        marketName := market
        commodityName := commodityName
        arrivalDate := arrivalDate
        minPrice := safePrice cfg (item.get "min_price").join
        maxPrice := safePrice cfg (item.get "max_price").join
        modalPrice := modal
        unit := "quintal"
        arrivalQty := arrivalQty cfg item
        variety := variety
        grade := grade
        source := "data_gov_in"
        sourceRef := some (market ++ "|" ++ commodity ++ "|" ++ dateStr ++ "|" ++ variety)
        rawPayload := item }

/-- The records of a download. -/
def Download.records (d : Download) (commodity : String) : List RawPriceRecord :=
  d.allRaw.filterMap (parseRecord cfg commodity)

end Parse

/-- **The adapter**: a fetch's records, however its download ended. -/
def dataGovInAdapter (cfg : DataGovConfig) (server : Server) : Adapter where
  sourceName := "data_gov_in"
  fetchPrices district commodity state :=
    (download cfg server ⟨district, commodity, state⟩).map (fun d => d.records cfg commodity)

end Krishi
