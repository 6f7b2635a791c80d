import KrishiBazaar.Conflicts
import KrishiBazaar.DataGovIn
/-!
# Truncation — what the log says of a download that stopped early

The adapter of data.gov.in leaves its loop when a page does not come and hands on what it has, with no sign that it is not
all (`paginate_truncated`).  So the runner counts it as it counts any poll, and the log has a success unless something
else went wrong: a fetch without a first page, a record refused, a chunk not taken (`truncated_noticed_iff`).
-/
namespace Krishi

open Lib

/-! ## Pages -/

section Pages

variable {server : Server} {k : FetchKey} {spelling : String} {total : Int}

theorem pageRecords_ne_nil {answer : Except HttpError Json} {records : List Json}
    (h : pageRecords answer = some records) : records ≠ [] := by
  unfold pageRecords at h
  cases answer with
  | error e => cases h
  | ok data =>
    obtain ⟨v, hv, hitems⟩ := Option.bind_eq_some_iff.1 h
    have htruthy : v.truthy = true := (Option.filter_eq_some_iff.1 hv).2
    cases v with
    | null | bool _ | int _ | float _ => cases hitems
    | str s =>
      obtain rfl := Option.some.inj hitems
      simpa [Json.truthy] using htruthy
    | arr items =>
      obtain rfl := Option.some.inj hitems
      simpa [Json.truthy] using htruthy
    | obj fields =>
      obtain rfl := Option.some.inj hitems
      simpa [Json.truthy] using htruthy

/-- **A `break` ends the loop exactly when it stops before the total.** -/
theorem paginate_truncated : ∀ (rounds : Nat) (allRaw : List Json) (n : Nat), (total - allRaw.length).toNat ≤ rounds →
    ((paginate server k spelling total rounds allRaw n).2 = true ↔
      ((paginate server k spelling total rounds allRaw n).1.length : Int) < total)
  | 0, allRaw, n, h => by
    have hle : total ≤ allRaw.length := by omega
    simp only [paginate, Bool.false_eq_true, false_iff]
    omega
  | rounds + 1, allRaw, n, h => by
    unfold paginate
    split
    · rename_i hlt
      cases hp : pageRecords (getJson server (k.params spelling allRaw.length) n).1 with
      | none => simpa [hp] using hlt
      | some records =>
        have hpos : 0 < records.length := List.length_pos_iff.2 (pageRecords_ne_nil hp)
        have ih := paginate_truncated rounds (allRaw ++ records)
          (getJson server (k.params spelling allRaw.length) n).2 (by rw [List.length_append]; omega)
        simpa only [hp] using ih
    · rename_i hge
      simp only [Bool.false_eq_true, false_iff]
      exact hge

end Pages

theorem download_error_iff {cfg : DataGovConfig} {server : Server} {k : FetchKey} {e : FetchError} :
    download cfg server k = .error e ↔ firstPage cfg server k = .error e := by
  unfold download
  cases firstPage cfg server k with
  | error e' =>
    constructor
    · intro h
      obtain rfl := Except.error.inj h
      rfl
    · intro h
      obtain rfl := Except.error.inj h
      rfl
  | ok first =>
    constructor
    · intro h
      cases h
    · intro h
      cases h

theorem truncated_iff_short {cfg : DataGovConfig} {server : Server} {k : FetchKey} {d : Download}
    (h : download cfg server k = .ok d) : d.truncated = true ↔ (d.allRaw.length : Int) < d.total := by
  unfold download at h
  rw [bind_ok] at h
  obtain ⟨first, -, h⟩ := h
  obtain rfl := Except.ok.inj h
  exact paginate_truncated _ _ _ le_rfl

/-! ## The row of an adapter -/

/-- The rows of turns that write one each. -/
theorem getElem?_flatten_filterMap {α β : Type} {f : α → Option β} : ∀ {turns : List (List α)},
    (∀ t ∈ turns, ∃ r, t.filterMap f = [r]) → ∀ i : Nat,
      (turns.flatten.filterMap f)[i]? = (turns[i]?).bind (fun t => (t.filterMap f).head?)
  | [], _, i => by simp
  | t :: turns, h, i => by
    obtain ⟨r, hr⟩ := h t List.mem_cons_self
    rw [List.flatten_cons, List.filterMap_append, hr, List.singleton_append]
    cases i with
    | zero =>
      rw [List.getElem?_cons_zero, List.getElem?_cons_zero, Option.bind_some, hr]
      rfl
    | succ i =>
      rw [List.getElem?_cons_succ, List.getElem?_cons_succ]
      exact getElem?_flatten_filterMap (fun t' ht' => h t' (List.mem_cons_of_mem t ht')) i

section Row

variable {cfg : IngestConfig} {out : Outside} {md : Metadata} {district state : String}

/-- The row of the log at an adapter's place is the one its turn wrote. -/
theorem logRow_run {pre post : List Adapter} {a : Adapter}
    (hmd : metadata cfg out ((pre ++ a :: post).map (·.sourceName)) district = .ok md) (hlog : ∀ n, out.log n = .ok ()) :
    ((IngestionRunner.run cfg out (pre ++ a :: post) district state).filterMap IngestCall.logRow)[pre.length]?
      = ((runAdapter cfg out md district state pre.length a).filterMap IngestCall.logRow).head? := by
  have hrun : IngestionRunner.run cfg out (pre ++ a :: post) district state
      = ((pre ++ a :: post).mapIdx (runAdapter cfg out md district state)).flatten := by
    rw [IngestionRunner.run, hmd]
  have hrows : ∀ t ∈ (pre ++ a :: post).mapIdx (runAdapter cfg out md district state),
      ∃ r, t.filterMap IngestCall.logRow = [r] := by
    intro t ht
    obtain ⟨n, hn, rfl⟩ := List.mem_mapIdx.1 ht
    have hturn : Honest cfg out md district state n (pre ++ a :: post)[n]
        (runAdapter cfg out md district state n (pre ++ a :: post)[n]) := runAdapter_honest (hlog n)
    obtain ⟨row, -, hrow, -⟩ := hturn
    exact ⟨row, hrow⟩
  rw [hrun, getElem?_flatten_filterMap hrows, List.getElem?_mapIdx, List.getElem?_append_right le_rfl, Nat.sub_self,
    List.getElem?_cons_zero]
  rfl

end Row

/-! ## What else goes wrong -/

theorem lt_length_chunks {α : Type} {i : Nat} {l : List α} :
    i < (chunks upsertChunk l).length ↔ upsertChunk * i < l.length := by
  unfold chunks upsertChunk
  rw [List.length_map, List.length_range]
  omega

theorem upsertCalls_taken {answer : Nat → Except String Unit} {rows : List UpsertRow} :
    (upsertCalls answer rows).countP IngestCall.failed = 0 ↔
      ¬ ∃ i e, upsertChunk * i < rows.length ∧ answer i = .error e := by
  rw [List.countP_eq_zero]
  constructor
  · rintro h ⟨i, e, hi, he⟩
    have hlen := lt_length_chunks.2 hi
    have hmem : ((chunks upsertChunk rows)[i], i) ∈ numbered rows :=
      List.mk_mem_zipIdx_iff_getElem?.2 (List.getElem?_eq_getElem hlen)
    have hfailed := h _ (List.mem_map_of_mem hmem)
    rw [upsertCall, he] at hfailed
    exact hfailed rfl
  · intro h c hc
    obtain ⟨⟨chunk, i⟩, hmem, rfl⟩ := List.mem_map.1 hc
    have hget : (chunks upsertChunk rows)[i]? = some chunk := List.mk_mem_zipIdx_iff_getElem?.1 hmem
    have hi : upsertChunk * i < rows.length := lt_length_chunks.1 (List.getElem?_eq_some_iff.1 hget).1
    unfold upsertCall
    cases he : answer i with
    | ok u => simp [IngestCall.failed]
    | error e => exact absurd ⟨i, e, hi, he⟩ h

section Status

variable (cfg : DataGovConfig) (server : Server) (out : Outside) (md : Metadata) (district state : String)

/-- **Some page after the first failed, or came empty, before the announced total was reached.** -/
def Truncated : Prop :=
  ∃ commodity ∈ md.fetchKeys "data_gov_in", ∃ d, download cfg server ⟨district, commodity, state⟩ = .ok d ∧
    d.truncated = true

/-- The records of all the adapter's downloads. -/
def downloaded : List RawPriceRecord :=
  received (fun commodity => (dataGovInAdapter cfg server).fetchPrices district commodity state)
    (md.fetchKeys "data_gov_in")

/-- **Something else went wrong**: a fetch had no first page, a record was refused, or a chunk of the `n`-th adapter was not
taken. -/
def Noticed (n : Nat) : Prop :=
  (∃ commodity ∈ md.fetchKeys "data_gov_in", ∃ e, firstPage cfg server ⟨district, commodity, state⟩ = .error e) ∨
    (∃ raw ∈ downloaded cfg server md district state, md.refuses cfg.toIngestConfig raw = true) ∨
    ∃ i e, upsertChunk * i < ((downloaded cfg server md district state).filter (md.accepts cfg.toIngestConfig)).length ∧
      out.upsert n i = .error e

variable {cfg server out md district state}

theorem fetchPrices_error_iff {commodity : String} {e : FetchError} :
    (dataGovInAdapter cfg server).fetchPrices district commodity state = .error e ↔
      firstPage cfg server ⟨district, commodity, state⟩ = .error e := by
  rw [← download_error_iff]
  show (download cfg server ⟨district, commodity, state⟩).map _ = .error e ↔ _
  cases download cfg server ⟨district, commodity, state⟩ with
  | error e' =>
    constructor
    · intro h
      obtain rfl := Except.error.inj h
      rfl
    · intro h
      obtain rfl := Except.error.inj h
      rfl
  | ok d =>
    constructor
    · intro h
      cases h
    · intro h
      cases h

/-- A key that did not raise a stray exception failed if it has a message. -/
theorem failures_eq_nil {fetch : String → Except FetchError (List RawPriceRecord)} {keys : List String}
    (hstray : ∀ key ∈ keys, stray (fetch key) = none) :
    failures fetch keys = [] ↔ ¬ ∃ key ∈ keys, ∃ e, fetch key = .error e := by
  unfold failures
  rw [List.filterMap_eq_nil_iff]
  constructor
  · rintro h ⟨key, hkey, e, he⟩
    have hk := h key hkey
    have hs := hstray key hkey
    rw [he] at hk hs
    cases e with
    | sourceFetchError e => cases hk
    | exception e => cases hs
  · intro h key hkey
    cases he : fetch key with
    | ok raws => rfl
    | error e => exact absurd ⟨key, hkey, e, he⟩ h

theorem length_rows (raws : List RawPriceRecord) {cfg : IngestConfig} :
    (md.rows cfg raws).length = (raws.filter (md.accepts cfg)).length := by
  rw [← List.length_map, conflict_rows, List.length_map]

variable (out) in
theorem completed_success (n : Nat) (hstray : ∀ key ∈ md.fetchKeys "data_gov_in",
      stray ((dataGovInAdapter cfg server).fetchPrices district key state) = none) :
    (completed cfg.toIngestConfig md (out.upsert n)
        (fun key => (dataGovInAdapter cfg server).fetchPrices district key state) (md.fetchKeys "data_gov_in")).status
        = .success ↔ ¬ Noticed cfg server out md district state n := by
  have hkeys : (∃ key ∈ md.fetchKeys "data_gov_in", ∃ e,
      (dataGovInAdapter cfg server).fetchPrices district key state = .error e) ↔
      ∃ key ∈ md.fetchKeys "data_gov_in", ∃ e, firstPage cfg server ⟨district, key, state⟩ = .error e :=
    exists_congr (fun key => and_congr_right (fun _ => exists_congr (fun _ => fetchPrices_error_iff)))
  rw [status_success, completed_rejected, completed_fetchErrors, failures_eq_nil hstray, hkeys, upsertCalls_taken,
    List.countP_eq_zero, length_rows]
  unfold Noticed downloaded
  simp only [not_or, not_exists, not_and]
  constructor
  · rintro ⟨hrefused, hfirst, htaken⟩
    exact ⟨hfirst, hrefused, htaken⟩
  · rintro ⟨hfirst, hrefused, htaken⟩
    exact ⟨hrefused, hfirst, htaken⟩

/-- A stray exception is one of a fetch without a first page. -/
theorem noticed_of_stray (n : Nat) {key : String} (hkey : key ∈ md.fetchKeys "data_gov_in")
    (hne : stray ((dataGovInAdapter cfg server).fetchPrices district key state) ≠ none) :
    Noticed cfg server out md district state n := by
  cases he : (dataGovInAdapter cfg server).fetchPrices district key state with
  | error e => exact Or.inl ⟨key, hkey, e, fetchPrices_error_iff.1 he⟩
  | ok raws =>
    rw [he] at hne
    exact absurd rfl hne

end Status

/-- **Truncated downloads are not logged as success** exactly when something else went wrong with them: the status does not
depend on the truncation. -/
theorem truncated_noticed_iff (cfg : DataGovConfig) (server : Server) (out : Outside) (pre post : List Adapter)
    (district state : String) (md : Metadata)
    (hmd : metadata cfg.toIngestConfig out ((pre ++ dataGovInAdapter cfg server :: post).map (·.sourceName)) district
      = .ok md) (hlog : ∀ n, out.log n = .ok ()) :
    ∃ row, ((IngestionRunner.run cfg.toIngestConfig out (pre ++ dataGovInAdapter cfg server :: post) district
        state).filterMap IngestCall.logRow)[pre.length]? = some row ∧
      ((Truncated cfg server md district state → row.status ≠ .success) ↔
        (Truncated cfg server md district state → Noticed cfg server out md district state pre.length)) := by
  rw [logRow_run hmd hlog]
  by_cases hkeys : md.fetchKeys "data_gov_in" = []
  · have hnot : ¬ Truncated cfg server md district state := by
      rintro ⟨commodity, hc, -⟩
      rw [hkeys] at hc
      exact absurd hc List.not_mem_nil
    unfold runAdapter
    dsimp only
    rw [if_pos (show md.fetchKeys (dataGovInAdapter cfg server).sourceName = [] from hkeys)]
    rw [← List.nil_append [_], filterMap_logRow_append _ (hlog _) rfl]
    exact ⟨_, rfl, ⟨fun _ h => absurd h hnot, fun _ h => absurd h hnot⟩⟩
  by_cases hstray : ∀ key ∈ md.fetchKeys "data_gov_in",
      stray ((dataGovInAdapter cfg server).fetchPrices district key state) = none
  · have hsuccess := completed_success out pre.length hstray
    rw [runAdapter_completed (a := dataGovInAdapter cfg server) hkeys hstray,
      filterMap_logRow_append _ (hlog _) completed_logRow]
    exact ⟨_, rfl, imp_congr_right (fun _ => not_iff_comm.1 hsuccess.symm)⟩
  · obtain ⟨key, hkey, hne⟩ : ∃ key ∈ md.fetchKeys "data_gov_in",
        stray ((dataGovInAdapter cfg server).fetchPrices district key state) ≠ none := by
      simpa using hstray
    obtain ⟨keys, row, hturn, -, -, hstatus, -⟩ :=
      runAdapter_stray (a := dataGovInAdapter cfg server) cfg.toIngestConfig out pre.length hkey hne
    rw [hturn, filterMap_logRow_append _ (hlog _)
      (filterMap_logRow_fetched (fun key => (dataGovInAdapter cfg server).fetchPrices district key state) keys)]
    refine ⟨row, rfl, fun _ _ => noticed_of_stray pre.length hkey hne, fun _ _ => ?_⟩
    rw [hstatus]
    decide

/-! One page of one record, of two that are announced, and then a request that is refused. -/

def plainDataGov : DataGovConfig where
  __ := plainIngest
  str v := match v with
    | .str s => s
    | _ => ""
  float text := if text = "1800" then some (.finite 1800) else none
  int v := match v with
    | .int n => some n
    | _ => none
  strptime _ _ := some 19967
  strKeys := ", ".intercalate
  errorText _ := "TypeError"

def onionItem : Json :=
  .obj [("arrival_date", .str "01/09/2024"), ("market", .str "Lasalgaon"), ("commodity", .str "Onion"),
    ("modal_price", .str "1800")]

def firstPageOnly : Server := fun n _ =>
  if n = 0 then .ok (.obj [("records", .arr [onionItem]), ("total", .int 2)]) else .error (.statusError 403)

def oneAlias : DB where
  __ := onionTables
  commodityAlias := ⟨[⟨"data_gov_in", "Onion", 1⟩], by decide, by decide⟩

/-- The second page is refused, and the row of the log is a success. -/
theorem truncated_success : ∃ md,
    metadata plainIngest (answering oneAlias fun _ _ => .ok ()) ["data_gov_in"] "Nashik" = .ok md ∧
      Truncated plainDataGov firstPageOnly md "Nashik" "Maharashtra" ∧
      ((IngestionRunner.run plainIngest (answering oneAlias fun _ _ => .ok ()) [dataGovInAdapter plainDataGov firstPageOnly]
        "Nashik" "Maharashtra").filterMap IngestCall.logRow).map (·.status) = [.success] := by
  refine ⟨_, rfl, ⟨"Onion", by decide +kernel, ?_⟩, by decide +kernel⟩
  have hcut : (download plainDataGov firstPageOnly ⟨"Nashik", "Onion", "Maharashtra"⟩).toOption.any (·.truncated)
      = true := by
    decide +kernel
  cases hd : download plainDataGov firstPageOnly ⟨"Nashik", "Onion", "Maharashtra"⟩ with
  | error e =>
    rw [hd] at hcut
    cases hcut
  | ok d =>
    rw [hd] at hcut
    exact ⟨d, rfl, hcut⟩

theorem truncated_noticed_firstPageOnly : ∃ md row,
    ((IngestionRunner.run plainIngest (answering oneAlias fun _ _ => .ok ()) [dataGovInAdapter plainDataGov firstPageOnly]
        "Nashik" "Maharashtra").filterMap IngestCall.logRow)[0]? = some row ∧
      ((Truncated plainDataGov firstPageOnly md "Nashik" "Maharashtra" → row.status ≠ .success) ↔
        (Truncated plainDataGov firstPageOnly md "Nashik" "Maharashtra" →
          Noticed plainDataGov firstPageOnly (answering oneAlias fun _ _ => .ok ()) md "Nashik" "Maharashtra" 0)) :=
  ⟨_, truncated_noticed_iff plainDataGov firstPageOnly (answering oneAlias fun _ _ => .ok ()) [] [] "Nashik" "Maharashtra" _
    rfl (fun _ => rfl)⟩

end Krishi
