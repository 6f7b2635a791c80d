import KrishiBazaar.Columns
import KrishiBazaar.Lib.Upserts
/-!
# PriceStore — what ingestion leaves in the table of prices

The upsert on `uq_price_record`, chunk by chunk, over a line that may fail.  After a run of which every chunk was answered
each price is the one of the last accepted record of its key, and a price whose key no record had is as it was
(`last_record_wins`).  A retry is safe: attempts in which fetches fail, chunks are lost or refused and the process dies
leave no trace once a run gets through (`retries_safe`).
-/
namespace Krishi

open Lib

/-! ## The table -/

/-- Each number fits its column, and the prices as stored are in order. -/
def ValidPrice.storable (row : ValidPrice) : Bool :=
  row.minPrice.all (Numeric.Fits 10 2 ·) && Numeric.Fits 10 2 row.modalPrice && row.maxPrice.all (Numeric.Fits 10 2 ·) &&
    row.arrivalQty.all (fun q => match q with
      | .finite q => Numeric.Fits 12 2 q
      | _ => false) &&
    row.minPrice.all (Numeric.units 2 · ≤ Numeric.units 2 row.modalPrice) &&
    row.maxPrice.all (Numeric.units 2 row.modalPrice ≤ Numeric.units 2 ·)

/-- The rows of `prices`, each as it was sent; its numbers are read to two decimals. -/
abbrev PriceTable := Table UpsertRow.conflict (fun row => row.storable)

/-- `refs` are the references to markets and commodities. -/
def priceTable (refs : UpsertRow → Bool) : Tab PriceTable UpsertRow.conflict (fun row => row.storable) :=
  ⟨fun t => t, fun _ t => t, fun _ _ => rfl, fun _ row => refs row, fun _ => true⟩

/-- The chunks among the calls, with whether they were answered. -/
def sentChunks (calls : List IngestCall) : List (List UpsertRow × Bool) :=
  calls.filterMap (fun c => match c with
    | .upserted chunk (.ok _) => some (chunk, true)
    | .upserted chunk (.error _) => some (chunk, false)
    | _ => none)

theorem map_sentChunks (calls : List IngestCall) : (sentChunks calls).map (·.1) = upsertedChunks calls := by
  unfold sentChunks upsertedChunks
  rw [List.map_filterMap]
  refine List.filterMap_congr (fun c _ => ?_)
  cases c with
  | fetched key answer => rfl
  | upserted chunk answer => cases answer <;> rfl
  | logged row answer => rfl

/-! ## The rows of a run -/

section Run

variable {cfg : IngestConfig} {out : Outside} {md : Metadata} {district state : String}

theorem flatten_runAdapter (n : Nat) (a : Adapter) :
    (upsertedChunks (runAdapter cfg out md district state n a)).flatten = md.accepted cfg district state a := by
  by_cases h : ∀ key ∈ md.fetchKeys a.sourceName, stray (a.fetchPrices district key state) = none
  · rw [accepted_of_ran h, upsertedChunks_runAdapter a h, flatten_chunks (by decide)]
  · obtain ⟨key, hkey, hne⟩ : ∃ key ∈ md.fetchKeys a.sourceName, stray (a.fetchPrices district key state) ≠ none := by
      simpa using h
    rw [accepted_of_stray hkey hne, upsertedChunks_stray a hkey hne]
    rfl

theorem flatten_upsertedChunks : ∀ (turns : List (List IngestCall)),
    (upsertedChunks turns.flatten).flatten = (turns.map (fun turn => (upsertedChunks turn).flatten)).flatten
  | [] => rfl
  | turn :: turns => by
    rw [List.flatten_cons, upsertedChunks_append, List.flatten_append, flatten_upsertedChunks turns]
    rfl

/-- **The rows a run sends** are the accepted ones of its adapters in turn. -/
theorem flatten_run {adapters : List Adapter} (hmd : metadata cfg out (adapters.map (·.sourceName)) district = .ok md) :
    (upsertedChunks (IngestionRunner.run cfg out adapters district state)).flatten
      = adapters.flatMap (md.accepted cfg district state) := by
  unfold IngestionRunner.run
  rw [hmd]
  dsimp only
  rw [flatten_upsertedChunks, List.mapIdx_eq_zipIdx_map, List.map_map, List.flatMap_def]
  congr 1
  calc adapters.zipIdx.map _ = adapters.zipIdx.map (fun a => md.accepted cfg district state a.1) := by
        refine List.map_congr_left (fun a _ => ?_)
        exact flatten_runAdapter a.2 a.1
    _ = (adapters.zipIdx.map Prod.fst).map (md.accepted cfg district state) := by rw [List.map_map]; rfl
    _ = adapters.map (md.accepted cfg district state) := by rw [List.zipIdx_map_fst]

end Run

/-- **The last record wins.**  If every chunk of a run is answered, each key has the last row that was accepted for it, of
all adapters, and a key without one has what it had. -/
theorem last_record_wins (cfg : IngestConfig) (out : Outside) (adapters : List Adapter) (district state : String)
    (md : Metadata) (refs : UpsertRow → Bool) {prices prices' : PriceTable}
    (hmd : metadata cfg out (adapters.map (·.sourceName)) district = .ok md)
    (hall : ∀ c ∈ sentChunks (IngestionRunner.run cfg out adapters district state), c.2 = true)
    (h : Sends (priceTable refs) prices (sentChunks (IngestionRunner.run cfg out adapters district state)) prices')
    (k : Uuid × Uuid × Date × String × String × String) :
    prices'.get? k = (lastOf UpsertRow.conflict k (adapters.flatMap (md.accepted cfg district state))).or
      (prices.get? k) := by
  have hget := h.get?_all hall k
  rw [map_sentChunks, flatten_run hmd] at hget
  exact hget

/-! One onion record gets through, the other names an unknown market. -/

def halfRun (upsert : Nat → Nat → Except String Unit) : List IngestCall :=
  IngestionRunner.run plainIngest (answering onionTables upsert) [halfAnswering] "Nashik" "Maharashtra"

/-- A table can take the chunks. -/
def Takable (sent : List (List UpsertRow × Bool)) : Prop :=
  sent.all (fun c => decide (c.1.map UpsertRow.conflict).Nodup && c.1.all (·.storable)) = true

instance (sent : List (List UpsertRow × Bool)) : Decidable (Takable sent) := inferInstanceAs (Decidable (_ = true))

theorem Takable.exists_sends {sent : List (List UpsertRow × Bool)} (h : Takable sent) (prices : PriceTable) :
    ∃ prices', Sends (priceTable fun _ => true) prices sent prices' := by
  refine Lib.exists_sends (fun _ => (rfl : _ = fun _ => true)) sent (fun c hc => ?_) prices
  have hchunk := List.all_eq_true.1 h c hc
  rw [Bool.and_eq_true, decide_eq_true_eq, List.all_eq_true] at hchunk
  exact ⟨hchunk.1, fun row hrow => ⟨hchunk.2 row hrow, rfl⟩⟩

theorem half_last_record : ∃ prices',
    Sends (priceTable fun _ => true) .empty (sentChunks (halfRun fun _ _ => .ok ())) prices' ∧
    (prices'.get? (7, 1, 19967, "General", "General", "data_gov_in")).map (·.modalPrice) = some 1800 := by
  have htakable : Takable (sentChunks (halfRun fun _ _ => .ok ())) := by decide +kernel
  have hall : (sentChunks (halfRun fun _ _ => .ok ())).all (·.2) = true := by decide +kernel
  obtain ⟨prices', h⟩ := htakable.exists_sends .empty
  refine ⟨prices', h, ?_⟩
  rw [last_record_wins plainIngest _ [halfAnswering] "Nashik" "Maharashtra" _ _ rfl (List.all_eq_true.1 hall) h]
  decide +kernel

/-! ## Retries -/

section Retry

variable {cfg : IngestConfig} {out : Outside} {md : Metadata} {district state : String}

/-- The adapter `a`, some of whose fetches fail. -/
def Falters (district state : String) (a' a : Adapter) : Prop :=
  a'.sourceName = a.sourceName ∧ ∀ key, a'.fetchPrices district key state = a.fetchPrices district key state ∨
    ∃ e, a'.fetchPrices district key state = .error e

/-- **An attempt at a run**: it reads the same tables and stops anywhere, its fetches may fail, and its chunks may be
answered as ever. -/
def Attempt (cfg : IngestConfig) (out : Outside) (adapters : List Adapter) (district state : String)
    (calls : List IngestCall) : Prop :=
  ∃ out' adapters', out'.read = out.read ∧ List.Forall₂ (Falters district state) adapters' adapters ∧
    calls <+: IngestionRunner.run cfg out' adapters' district state

theorem mem_received {fetch : String → Except FetchError (List RawPriceRecord)} {keys : List String}
    {raw : RawPriceRecord} : raw ∈ received fetch keys ↔ ∃ key ∈ keys, ∃ raws, fetch key = .ok raws ∧ raw ∈ raws := by
  unfold received
  rw [List.mem_flatMap]
  refine exists_congr fun key => and_congr_right fun _ => ?_
  cases fetch key <;> simp

/-- No fetch of the adapter raises a stray exception. -/
def Metadata.Clean (md : Metadata) (district state : String) (a : Adapter) : Prop :=
  ∀ key ∈ md.fetchKeys a.sourceName, stray (a.fetchPrices district key state) = none

theorem Falters.accepted_subset {a' a : Adapter} (h : Falters district state a' a) (hclean : md.Clean district state a) :
    md.accepted cfg district state a' ⊆ md.accepted cfg district state a := by
  unfold Metadata.accepted
  rw [if_pos (c := (md.fetchKeys a.sourceName).all _ = true) (by simpa [Metadata.Clean] using hclean)]
  split
  · intro row hrow
    obtain ⟨raw, hraw, hrow⟩ := List.mem_filterMap.1 hrow
    refine List.mem_filterMap.2 ⟨raw, ?_, hrow⟩
    obtain ⟨key, hkey, raws, hfetch, hmem⟩ := mem_received.1 hraw
    rw [h.1] at hkey
    refine mem_received.2 ⟨key, hkey, raws, ?_, hmem⟩
    rcases h.2 key with hsame | ⟨e, herror⟩
    · rw [← hsame, hfetch]
    · rw [herror] at hfetch
      cases hfetch
  · exact List.nil_subset _

theorem accepted_flatMap_subset : ∀ {adapters' adapters : List Adapter},
    List.Forall₂ (Falters district state) adapters' adapters → (∀ a ∈ adapters, md.Clean district state a) →
      adapters'.flatMap (md.accepted cfg district state) ⊆ adapters.flatMap (md.accepted cfg district state)
  | [], [], .nil, _ => List.Subset.refl _
  | a' :: adapters', a :: adapters, .cons h hrest, hclean => by
    rw [List.flatMap_cons, List.flatMap_cons]
    refine List.append_subset.2 ⟨?_, ?_⟩
    · exact List.Subset.trans (h.accepted_subset (hclean a List.mem_cons_self)) (List.subset_append_left _ _)
    · exact List.Subset.trans (accepted_flatMap_subset hrest (fun b hb => hclean b (List.mem_cons_of_mem a hb)))
        (List.subset_append_right _ _)

theorem names_of_falters : ∀ {adapters' adapters : List Adapter},
    List.Forall₂ (Falters district state) adapters' adapters → adapters'.map (·.sourceName) = adapters.map (·.sourceName)
  | [], [], .nil => rfl
  | a' :: adapters', a :: adapters, .cons h hrest => by
    rw [List.map_cons, List.map_cons, h.1, names_of_falters hrest]

/-- The rows an attempt sends are among those of the run. -/
theorem Attempt.rows_subset {adapters : List Adapter} {calls : List IngestCall}
    (h : Attempt cfg out adapters district state calls)
    (hmd : metadata cfg out (adapters.map (·.sourceName)) district = .ok md)
    (hclean : ∀ a ∈ adapters, md.Clean district state a) :
    (upsertedChunks calls).flatten ⊆ (upsertedChunks (IngestionRunner.run cfg out adapters district state)).flatten := by
  obtain ⟨out', adapters', hread, hfalters, rest, hrun⟩ := h
  have hmd' : metadata cfg out' (adapters'.map (·.sourceName)) district = .ok md := by
    rw [names_of_falters hfalters, ← hmd]
    unfold metadata
    rw [hread]
  rw [flatten_run hmd]
  refine List.Subset.trans ?_ (accepted_flatMap_subset hfalters hclean)
  rw [← flatten_run hmd', ← hrun, upsertedChunks_append, List.flatten_append]
  exact List.subset_append_left _ _

end Retry

/-- **Retries are safe.**  After any number of attempts, of whatever chunks the table took, a run whose fetches and chunks
are all answered still gets through, and leaves the table it would have left without them. -/
theorem retries_safe (cfg : IngestConfig) (out : Outside) (adapters : List Adapter) (district state : String)
    (md : Metadata) (refs : UpsertRow → Bool) {attempts : List (List IngestCall)} {prices prices₁ prices₃ : PriceTable}
    (hmd : metadata cfg out (adapters.map (·.sourceName)) district = .ok md)
    (hclean : ∀ a ∈ adapters, md.Clean district state a)
    (hall : ∀ c ∈ sentChunks (IngestionRunner.run cfg out adapters district state), c.2 = true)
    (hattempts : ∀ calls ∈ attempts, Attempt cfg out adapters district state calls)
    (h : Sends (priceTable refs) prices (attempts.flatMap sentChunks) prices₁)
    (honce : Sends (priceTable refs) prices (sentChunks (IngestionRunner.run cfg out adapters district state)) prices₃) :
    ∃ prices₂,
      Sends (priceTable refs) prices₁ (sentChunks (IngestionRunner.run cfg out adapters district state)) prices₂ ∧
      ∀ k, prices₂.get? k = prices₃.get? k := by
  refine h.again (fun _ _ _ => rfl) (fun row hrow => ?_) hall honce
  rw [map_sentChunks]
  obtain ⟨chunk, hchunk, hrow⟩ := List.mem_flatten.1 hrow
  obtain ⟨sent, hsent, rfl⟩ := List.mem_map.1 hchunk
  obtain ⟨calls, hcalls, hsent⟩ := List.mem_flatMap.1 hsent
  refine List.mem_map_of_mem ((hattempts calls hcalls).rows_subset hmd hclean (List.mem_flatten.2 ⟨sent.1, ?_, hrow⟩))
  rw [← map_sentChunks]
  exact List.mem_map_of_mem hsent

/-- The chunk is refused twice, and the process dies before it at another time. -/
theorem half_retried : ∃ prices₁ prices₂ prices₃ : PriceTable,
    Sends (priceTable fun _ => true) prices₁ (sentChunks (halfRun fun _ _ => .ok ())) prices₂ ∧
      ∀ k, prices₂.get? k = prices₃.get? k := by
  let refused := halfRun fun _ _ => .error "timeout"
  have htakable : Takable (sentChunks (halfRun fun _ _ => .ok ())) := by decide +kernel
  have hall : (sentChunks (halfRun fun _ _ => .ok ())).all (·.2) = true := by decide +kernel
  have hattempts : ∀ calls ∈ [refused, refused, refused.take 1],
      Attempt plainIngest (answering onionTables fun _ _ => .ok ()) [halfAnswering] "Nashik" "Maharashtra" calls := by
    have hsame : List.Forall₂ (Falters "Nashik" "Maharashtra") [halfAnswering] [halfAnswering] :=
      .cons ⟨rfl, fun _ => Or.inl rfl⟩ .nil
    intro calls hcalls
    refine ⟨answering onionTables fun _ _ => .error "timeout", [halfAnswering], rfl, hsame, ?_⟩
    rcases List.mem_cons.1 hcalls with rfl | hcalls
    · exact List.prefix_refl _
    rcases List.mem_cons.1 hcalls with rfl | hcalls
    · exact List.prefix_refl _
    · rw [List.mem_singleton.1 hcalls]
      exact List.take_prefix _ _
  have hclean : ∀ md : Metadata, ∀ a ∈ [halfAnswering], md.Clean "Nashik" "Maharashtra" a := by
    intro md a ha key _
    rw [List.mem_singleton.1 ha]
    show stray (if key = "Onion" then _ else _) = none
    split <;> rfl
  have hmany : Takable ([refused, refused, refused.take 1].flatMap sentChunks) := by decide +kernel
  obtain ⟨prices₁, h⟩ := hmany.exists_sends .empty
  obtain ⟨prices₃, honce⟩ := htakable.exists_sends .empty
  obtain ⟨prices₂, h₂, hsame⟩ := retries_safe plainIngest (answering onionTables fun _ _ => .ok ()) [halfAnswering]
    "Nashik" "Maharashtra" _ _ rfl (hclean _) (List.all_eq_true.1 hall) hattempts h honce
  exact ⟨prices₁, prices₂, prices₃, h₂, hsame⟩

end Krishi
