import KrishiBazaar.Ingestion
import Mathlib.Algebra.Order.BigOperators.Group.List
/-!
# Accounting — what a row of the ingestion log says

An adapter's turn counts as it goes, in two loops with three ways to fail.  Here the counters are read back from what the
adapter was answered: a poll without a stray exception has seen what it received, refused what it could not resolve and
kept the rest (`pollKeys_eq`), and the upserts have written the rows of the chunks that were taken (`upsertAll_eq`).  So
every turn polls its keys, upserts what it accepted and ends in one row of the log, and the row is honest (`run_honest`).
-/
namespace Krishi

open Lib

/-! ## What a turn was answered -/

namespace IngestCall

/-- The row of the log it stored. -/
def logRow : IngestCall → Option IngestionLog
  | logged row (.ok _) => some row
  | _ => none

/-- The rows of a chunk that was taken. -/
def writtenRows : IngestCall → Nat
  | upserted chunk (.ok _) => chunk.length
  | _ => 0

/-- A fetch or a chunk that failed. -/
def failed : IngestCall → Bool
  | fetched _ (.error _) => true
  | upserted _ (.error _) => true
  | _ => false

end IngestCall

/-! ## The poll -/

section Poll

variable (cfg : IngestConfig) (md : Metadata) (fetch : String → Except FetchError (List RawPriceRecord))

/-- The records of the keys that were answered. -/
def received (keys : List String) : List RawPriceRecord :=
  keys.flatMap (fun key => match fetch key with
    | .ok raws => raws
    | .error _ => [])

/-- An exception that is no `SourceFetchError`. -/
def stray (answer : Except FetchError (List RawPriceRecord)) : Option String :=
  match answer with
  | .error (.exception e) => some e
  | _ => none

/-- The messages of the keys that failed. -/
def failures (keys : List String) : List String :=
  keys.filterMap (fun key => match fetch key with
    | .error (.sourceFetchError e) => some e
    | _ => none)

/-- The keys of a poll: in turn, up to the first that raises a stray exception. -/
def polledKeys : List String → List String
  | [] => []
  | key :: keys => key :: if (stray (fetch key)).isSome then [] else polledKeys keys

def Metadata.refuses (raw : RawPriceRecord) : Bool := (md.resolve cfg raw).toOption.isNone

def Metadata.rows (raws : List RawPriceRecord) : List UpsertRow := raws.filterMap (fun raw => (md.resolve cfg raw).toOption)

/-- The variables after a poll that ran through. -/
def Intake.polled (t : Intake) (keys : List String) : Intake :=
  { t with
    seen := t.seen + (received fetch keys).length
    rejected := t.rejected + (received fetch keys).countP (md.refuses cfg)
    allValid := t.allValid ++ md.rows cfg (received fetch keys)
    fetchErrors := t.fetchErrors ++ failures fetch keys
    calls := t.calls ++ keys.map (fun key => .fetched key (fetch key)) }

variable {cfg md fetch}

theorem polledKeys_append {pre : List String} (h : ∀ key ∈ pre, stray (fetch key) = none) (rest : List String) :
    polledKeys fetch (pre ++ rest) = pre ++ polledKeys fetch rest := by
  induction pre with
  | nil => rfl
  | cons key pre ih =>
    rw [List.cons_append, polledKeys, h key List.mem_cons_self,
      ih (fun key' hkey' => h key' (List.mem_cons_of_mem key hkey'))]
    rfl

theorem polledKeys_eq {keys : List String} (h : ∀ key ∈ keys, stray (fetch key) = none) :
    polledKeys fetch keys = keys := by
  have happ := polledKeys_append h []
  rwa [List.append_nil, polledKeys, List.append_nil] at happ

theorem foldl_record : ∀ (raws : List RawPriceRecord) (t : Intake), raws.foldl (Intake.record cfg md) t
    = { t with rejected := t.rejected + raws.countP (md.refuses cfg), allValid := t.allValid ++ md.rows cfg raws }
  | [], t => by simp [Metadata.rows]
  | raw :: raws, t => by
    rw [List.foldl_cons, foldl_record raws]
    unfold Intake.record Metadata.rows
    cases h : md.resolve cfg raw with
    | error e =>
      have hrefused : md.refuses cfg raw = true := by
        rw [Metadata.refuses, h]
        rfl
      rw [List.countP_cons_of_pos hrefused, List.filterMap_cons_none (by rw [h]; rfl)]
      simp only [Intake.mk.injEq, and_true, true_and]
      omega
    | ok row =>
      have hkept : ¬ md.refuses cfg raw = true := by
        rw [Metadata.refuses, h]
        simp [Except.toOption]
      rw [List.countP_cons_of_neg hkept, List.filterMap_cons_some (by rw [h]; rfl)]
      simp

variable (cfg md) in
/-- **The keys up to a stray exception** leave the variables of their poll to the rest. -/
theorem pollKeys_append (rest : List String) : ∀ {keys : List String}, (∀ key ∈ keys, stray (fetch key) = none) →
    ∀ t : Intake, pollKeys cfg md fetch (keys ++ rest) t = pollKeys cfg md fetch rest (t.polled cfg md fetch keys)
  | [], _, t => by simp [Intake.polled, received, failures, Metadata.rows]
  | key :: keys, h, t => by
    have ih := pollKeys_append rest (fun key' hkey' => h key' (List.mem_cons_of_mem key hkey'))
    rw [List.cons_append, pollKeys]
    cases hf : fetch key with
    | error e =>
      cases e with
      | sourceFetchError e =>
        simp only [ih]
        simp [Intake.polled, received, failures, hf]
      | exception e =>
        have hkey := h key List.mem_cons_self
        rw [hf] at hkey
        cases hkey
    | ok raws =>
      simp only [ih, foldl_record]
      simp [Intake.polled, received, failures, hf, Metadata.rows, Nat.add_assoc]

theorem pollKeys_eq {keys : List String} (h : ∀ key ∈ keys, stray (fetch key) = none) (t : Intake) :
    pollKeys cfg md fetch keys t = (t.polled cfg md fetch keys, none) := by
  have happ := pollKeys_append cfg md [] h t
  rwa [List.append_nil] at happ

variable (cfg md fetch) in
/-- A poll runs through, or up to the first key that raises a stray exception. -/
theorem pollKeys_cases (keys : List String) (t : Intake) :
    (∀ key ∈ keys, stray (fetch key) = none) ∨
      ∃ pre key e, polledKeys fetch keys = pre ++ [key] ∧ fetch key = .error (.exception e) ∧
        pollKeys cfg md fetch keys t = ({ t.polled cfg md fetch pre with
          calls := (t.polled cfg md fetch pre).calls ++ [.fetched key (fetch key)] }, some e) := by
  cases hfind : keys.find? (fun key => (stray (fetch key)).isSome) with
  | none =>
    left
    intro key hkey
    simpa using List.find?_eq_none.1 hfind key hkey
  | some key =>
    right
    obtain ⟨hstray, pre, post, rfl, hpre⟩ := List.find?_eq_some_iff_append.1 hfind
    have hpre' : ∀ key ∈ pre, stray (fetch key) = none := fun key hkey => by simpa using hpre key hkey
    obtain ⟨e, he⟩ : ∃ e, fetch key = .error (.exception e) := by
      unfold stray at hstray
      split at hstray
      · rename_i e he
        exact ⟨e, he⟩
      · cases hstray
    refine ⟨pre, key, e, ?_, he, ?_⟩
    · rw [polledKeys_append hpre', polledKeys, if_pos hstray]
    · rw [pollKeys_append cfg md _ hpre', pollKeys, he]

variable (cfg md) in
/-- What is received is refused or becomes a row. -/
theorem countP_refuses (raws : List RawPriceRecord) :
    raws.countP (md.refuses cfg) + (md.rows cfg raws).length = raws.length := by
  have hrows : (md.rows cfg raws).length = raws.countP (fun raw => (md.resolve cfg raw).toOption.isSome) := by
    rw [Metadata.rows, List.length_filterMap_eq_countP]
  have hnot : md.refuses cfg = fun raw => ¬ (md.resolve cfg raw).toOption.isSome := by
    funext raw
    cases h : (md.resolve cfg raw).toOption <;> simp [Metadata.refuses, h]
  rw [hrows, hnot, Nat.add_comm, ← List.length_eq_countP_add_countP]

end Poll

/-! ## The upserts -/

section Upsert

variable (answer : Nat → Except String Unit)

def upsertCall (chunk : List UpsertRow × Nat) : IngestCall := .upserted chunk.1 (answer chunk.2)

/-- The chunks of an adapter's rows, numbered. -/
def numbered (rows : List UpsertRow) : List (List UpsertRow × Nat) := (chunks upsertChunk rows).zipIdx

variable {answer}

variable (answer) in
theorem foldl_upsert : ∀ (cs : List (List UpsertRow × Nat)) (t : Intake), cs.foldl (Intake.upsert answer) t = { t with
    written := t.written + ((cs.map (upsertCall answer)).map IngestCall.writtenRows).sum
    chunkErrors := t.chunkErrors + (cs.map (upsertCall answer)).countP IngestCall.failed
    calls := t.calls ++ cs.map (upsertCall answer) }
  | [], t => by simp
  | c :: cs, t => by
    rw [List.foldl_cons, foldl_upsert cs]
    unfold Intake.upsert
    cases h : answer c.2 with
    | ok u => simp [upsertCall, IngestCall.writtenRows, IngestCall.failed, h, Nat.add_assoc]
    | error e =>
      have hfailed : (upsertCall answer c).failed = true := by
        rw [upsertCall, h]
        rfl
      rw [List.map_cons, List.countP_cons_of_pos hfailed]
      simp [upsertCall, IngestCall.writtenRows, h, Nat.add_assoc, Nat.add_comm 1]

/-- What the upserts of some rows were answered. -/
def upsertCalls (answer : Nat → Except String Unit) (rows : List UpsertRow) : List IngestCall :=
  (numbered rows).map (upsertCall answer)

/-- **The variables after the upserts.** -/
theorem upsertAll_eq (t : Intake) (h : t.chunkErrors = 0) : t.upsertAll answer = { t with
    written := t.written + ((upsertCalls answer t.allValid).map IngestCall.writtenRows).sum
    chunkErrors := (upsertCalls answer t.allValid).countP IngestCall.failed
    fetchErrors := t.fetchErrors ++ (if (upsertCalls answer t.allValid).countP IngestCall.failed = 0 then []
      else ["upsert_chunks_failed=" ++ toString ((upsertCalls answer t.allValid).countP IngestCall.failed)])
    calls := t.calls ++ upsertCalls answer t.allValid } := by
  have hfold := foldl_upsert answer (numbered t.allValid) t
  rw [h, Nat.zero_add] at hfold
  unfold Intake.upsertAll
  rw [← numbered, hfold]
  dsimp only
  rw [← upsertCalls]
  split <;> simp

theorem writtenRows_upsertCall_le (c : List UpsertRow × Nat) : (upsertCall answer c).writtenRows ≤ c.1.length := by
  unfold upsertCall
  cases answer c.2 with
  | ok u => exact le_rfl
  | error e => exact Nat.zero_le _

theorem writtenRows_upsertCall {c : List UpsertRow × Nat} (h : (upsertCall answer c).failed = false) :
    (upsertCall answer c).writtenRows = c.1.length := by
  unfold upsertCall at h ⊢
  cases ha : answer c.2 with
  | ok u => rfl
  | error e =>
    rw [ha] at h
    cases h

theorem sum_numbered (rows : List UpsertRow) : ((numbered rows).map (fun c => c.1.length)).sum = rows.length := by
  have hlen : (numbered rows).map (fun c => c.1.length) = (chunks upsertChunk rows).map List.length := by
    have hfst : (fun c : List UpsertRow × Nat => c.1.length) = List.length ∘ Prod.fst := rfl
    rw [numbered, hfst, ← List.map_map, List.zipIdx_map_fst]
  rw [hlen, ← List.length_flatten, flatten_chunks (by decide)]

variable (answer) in
theorem written_le (rows : List UpsertRow) :
    ((upsertCalls answer rows).map IngestCall.writtenRows).sum ≤ rows.length := by
  rw [← sum_numbered rows, upsertCalls, List.map_map]
  exact List.sum_le_sum (fun c _ => writtenRows_upsertCall_le c)

theorem written_eq {rows : List UpsertRow} (h : (upsertCalls answer rows).countP IngestCall.failed = 0) :
    ((upsertCalls answer rows).map IngestCall.writtenRows).sum = rows.length := by
  rw [← sum_numbered rows, upsertCalls, List.map_map]
  refine congrArg List.sum (List.map_congr_left (fun c hc => ?_))
  rw [List.countP_eq_zero] at h
  have hc' := h (upsertCall answer c) (List.mem_map_of_mem hc)
  exact writtenRows_upsertCall (by simpa using hc')

end Upsert

/-! ## A turn -/

/-- The rows an adapter's turn sends: those of what it received, unless a stray exception ended it. -/
def Metadata.accepted (cfg : IngestConfig) (md : Metadata) (district state : String) (a : Adapter) : List UpsertRow :=
  if (md.fetchKeys a.sourceName).all (fun key => (stray (a.fetchPrices district key state)).isNone) then
    md.rows cfg (received (fun key => a.fetchPrices district key state) (md.fetchKeys a.sourceName))
  else []

/-- **The turn is its adapter's and the row of the log says what happened**: the fetch keys are polled in order, up to a stray
exception, and then the accepted rows are upserted in chunks; there is one row, of the adapter, its seen and its rejected
are what was received and refused, its written rows are those of the chunks that were taken, they and the rejected are
among the seen, success means that all was written and nothing failed, and failure that nothing was written. -/
def Honest (cfg : IngestConfig) (out : Outside) (md : Metadata) (district state : String) (n : Nat) (a : Adapter)
    (turn : List IngestCall) : Prop :=
  let fetch := fun key => a.fetchPrices district key state
  let polled := polledKeys fetch (md.fetchKeys a.sourceName)
  ∃ row, turn = polled.map (fun key => .fetched key (fetch key))
      ++ upsertCalls (out.upsert n) (md.accepted cfg district state a) ++ [.logged row (.ok ())] ∧
    turn.filterMap IngestCall.logRow = [row] ∧ row.source = a.sourceName ∧
    row.recordsSeen = (received fetch polled).length ∧
    row.recordsRejected = (received fetch polled).countP (md.refuses cfg) ∧
    row.recordsWritten = (turn.map IngestCall.writtenRows).sum ∧
    row.recordsWritten + row.recordsRejected ≤ row.recordsSeen ∧
    (row.status = .success → row.recordsWritten = row.recordsSeen ∧ ∀ c ∈ turn, c.failed = false) ∧
    (row.status = .failed → row.recordsWritten = 0)

section Turn

variable {cfg : IngestConfig} {out : Outside} {md : Metadata} {district state : String} {n : Nat} {a : Adapter}

/-- The fetches and upserts of a turn write no row of the log, and the fetches write no price. -/
theorem filterMap_logRow_fetched (fetch : String → Except FetchError (List RawPriceRecord)) (keys : List String) :
    (keys.map (fun key => IngestCall.fetched key (fetch key))).filterMap IngestCall.logRow = [] := by
  refine List.filterMap_eq_nil_iff.2 (fun c hc => ?_)
  obtain ⟨key, -, rfl⟩ := List.mem_map.1 hc
  rfl

theorem filterMap_logRow_upsertCalls (answer : Nat → Except String Unit) (rows : List UpsertRow) :
    (upsertCalls answer rows).filterMap IngestCall.logRow = [] := by
  refine List.filterMap_eq_nil_iff.2 (fun c hc => ?_)
  obtain ⟨chunk, -, rfl⟩ := List.mem_map.1 hc
  rfl

theorem sum_writtenRows_fetched (fetch : String → Except FetchError (List RawPriceRecord)) (keys : List String) :
    ((keys.map (fun key => IngestCall.fetched key (fetch key))).map IngestCall.writtenRows).sum = 0 := by
  rw [List.map_map]
  exact List.sum_eq_zero (fun x hx => by
    obtain ⟨key, -, rfl⟩ := List.mem_map.1 hx
    rfl)

theorem failed_fetched {fetch : String → Except FetchError (List RawPriceRecord)} {keys : List String}
    (hstray : ∀ key ∈ keys, stray (fetch key) = none) (hfail : failures fetch keys = []) :
    ∀ key ∈ keys, (IngestCall.fetched key (fetch key)).failed = false := by
  intro key hkey
  have hk := List.filterMap_eq_nil_iff.1 hfail key hkey
  have hs := hstray key hkey
  cases hf : fetch key with
  | ok raws => rfl
  | error e =>
    rw [hf] at hk hs
    cases e with
    | sourceFetchError e => cases hk
    | exception e => cases hs

/-- The row of a turn whose last call is its only write to the log. -/
theorem filterMap_logRow_append {calls : List IngestCall} (row : IngestionLog) (hlog : out.log n = .ok ())
    (hcalls : calls.filterMap IngestCall.logRow = []) :
    (calls ++ [out.logRun n row]).filterMap IngestCall.logRow = [row] := by
  rw [List.filterMap_append, hcalls, Outside.logRun, hlog]
  rfl

/-- A turn of fetches and upserts that counts what they did is honest. -/
theorem honest_append {row : IngestionLog} {polled : List String} {accepted : List UpsertRow} (hlog : out.log n = .ok ())
    (hpolled : polledKeys (fun key => a.fetchPrices district key state) (md.fetchKeys a.sourceName) = polled)
    (haccepted : md.accepted cfg district state a = accepted) (hsource : row.source = a.sourceName)
    (hseen : row.recordsSeen = (received (fun key => a.fetchPrices district key state) polled).length)
    (hrejected : row.recordsRejected
      = (received (fun key => a.fetchPrices district key state) polled).countP (md.refuses cfg))
    (hwritten : row.recordsWritten = ((upsertCalls (out.upsert n) accepted).map IngestCall.writtenRows).sum)
    (hle : row.recordsWritten + row.recordsRejected ≤ row.recordsSeen)
    (hsuccess : row.status = .success → row.recordsWritten = row.recordsSeen ∧
      (∀ key ∈ polled, (IngestCall.fetched key (a.fetchPrices district key state)).failed = false) ∧
      (upsertCalls (out.upsert n) accepted).countP IngestCall.failed = 0)
    (hfailed : row.status = .failed → row.recordsWritten = 0) :
    Honest cfg out md district state n a (polled.map (fun key => .fetched key (a.fetchPrices district key state))
      ++ upsertCalls (out.upsert n) accepted ++ [out.logRun n row]) := by
  subst hpolled haccepted
  have hrow : out.logRun n row = .logged row (.ok ()) := by rw [Outside.logRun, hlog]
  refine ⟨row, by rw [hrow], filterMap_logRow_append row hlog ?_, hsource, hseen, hrejected, ?_, hle, fun hs => ?_, hfailed⟩
  · rw [List.filterMap_append, filterMap_logRow_fetched (fun key => a.fetchPrices district key state),
      filterMap_logRow_upsertCalls]
    rfl
  · rw [List.map_append, List.sum_append, List.map_append, List.sum_append,
      sum_writtenRows_fetched (fun key => a.fetchPrices district key state), Nat.zero_add, hrow, hwritten]
    rfl
  · obtain ⟨hall, hfetch, hchunk⟩ := hsuccess hs
    refine ⟨hall, fun c hc => ?_⟩
    rcases List.mem_append.1 hc with hc | hc
    · rcases List.mem_append.1 hc with hc | hc
      · obtain ⟨key, hkey, rfl⟩ := List.mem_map.1 hc
        exact hfetch key hkey
      · simpa using List.countP_eq_zero.1 hchunk c hc
    · rw [List.mem_singleton.1 hc, hrow]
      rfl

theorem status_success {t : Intake} : t.status = .success ↔ t.rejected = 0 ∧ t.fetchErrors = [] := by
  unfold Intake.status
  by_cases he : t.fetchErrors = [] <;> by_cases hr : t.rejected = 0 <;> by_cases hs : t.seen = 0 <;> simp [he, hr, hs]

theorem status_failed {t : Intake} : t.status = .failed ↔ t.fetchErrors ≠ [] ∧ t.seen = 0 := by
  unfold Intake.status
  by_cases he : t.fetchErrors = [] <;> by_cases hr : t.rejected = 0 <;> by_cases hs : t.seen = 0 <;> simp [he, hr, hs]

/-- The row of a turn that ran through. -/
def Intake.row (t : Intake) (out : Outside) (n : Nat) (sourceName district state : String) : IngestionLog where
  source := sourceName
  status := t.status
  recordsSeen := t.seen
  recordsWritten := t.written
  recordsRejected := t.rejected
  errorMessage := t.errorMessage
  filters := some (district, state)
  durationMs := some (out.elapsedMs n)

/-- The variables of a turn whose poll ran through. -/
def completed (cfg : IngestConfig) (md : Metadata) (answer : Nat → Except String Unit)
    (fetch : String → Except FetchError (List RawPriceRecord)) (keys : List String) : Intake :=
  (Intake.start.polled cfg md fetch keys).upsertAll answer

section Completed

variable {fetch : String → Except FetchError (List RawPriceRecord)} {keys : List String} {answer : Nat → Except String Unit}

theorem completed_eq : completed cfg md answer fetch keys
    = { Intake.start.polled cfg md fetch keys with
      written := ((upsertCalls answer (md.rows cfg (received fetch keys))).map IngestCall.writtenRows).sum
      chunkErrors := (completed cfg md answer fetch keys).chunkErrors
      fetchErrors := (completed cfg md answer fetch keys).fetchErrors
      calls := keys.map (fun key => .fetched key (fetch key)) ++ upsertCalls answer (md.rows cfg (received fetch keys)) } := by
  unfold completed
  rw [upsertAll_eq _ rfl]
  simp [Intake.polled, Intake.start]

theorem completed_calls : (completed cfg md answer fetch keys).calls
    = keys.map (fun key => .fetched key (fetch key)) ++ upsertCalls answer (md.rows cfg (received fetch keys)) := by
  rw [completed_eq]

theorem completed_logRow : (completed cfg md answer fetch keys).calls.filterMap IngestCall.logRow = [] := by
  rw [completed_calls, List.filterMap_append, filterMap_logRow_fetched, filterMap_logRow_upsertCalls]
  rfl

theorem completed_written : (completed cfg md answer fetch keys).written
    = ((upsertCalls answer (md.rows cfg (received fetch keys))).map IngestCall.writtenRows).sum := by
  rw [completed_eq]

theorem completed_seen : (completed cfg md answer fetch keys).seen = (received fetch keys).length := by
  rw [completed_eq]
  exact Nat.zero_add _

theorem completed_rejected :
    (completed cfg md answer fetch keys).rejected = (received fetch keys).countP (md.refuses cfg) := by
  rw [completed_eq]
  exact Nat.zero_add _

theorem completed_fetchErrors : (completed cfg md answer fetch keys).fetchErrors = [] ↔
    failures fetch keys = [] ∧
      (upsertCalls answer (md.rows cfg (received fetch keys))).countP IngestCall.failed = 0 := by
  unfold completed
  rw [upsertAll_eq _ rfl]
  simp only [Intake.polled, Intake.start, List.nil_append, List.append_eq_nil_iff]
  refine and_congr_right (fun _ => ?_)
  by_cases hzero : (upsertCalls answer (md.rows cfg (received fetch keys))).countP IngestCall.failed = 0
  · simp [hzero]
  · simp [hzero]

/-- **A turn whose poll ran through.** -/
theorem runAdapter_completed (hkeys : md.fetchKeys a.sourceName ≠ [])
    (hstray : ∀ key ∈ md.fetchKeys a.sourceName, stray (a.fetchPrices district key state) = none) :
    runAdapter cfg out md district state n a
      = (completed cfg md (out.upsert n) (fun key => a.fetchPrices district key state) (md.fetchKeys a.sourceName)).calls
        ++ [out.logRun n ((completed cfg md (out.upsert n) (fun key => a.fetchPrices district key state)
          (md.fetchKeys a.sourceName)).row out n a.sourceName district state)] := by
  unfold runAdapter
  dsimp only
  rw [if_neg hkeys, pollKeys_eq hstray]
  rfl

variable (cfg out n) in
/-- A turn that a stray exception ended has fetched up to it. -/
theorem runAdapter_stray {key : String} (hkey : key ∈ md.fetchKeys a.sourceName)
    (hstray : stray (a.fetchPrices district key state) ≠ none) :
    ∃ (keys : List String) (row : IngestionLog), runAdapter cfg out md district state n a
        = keys.map (fun key => .fetched key (a.fetchPrices district key state)) ++ [out.logRun n row] ∧
      polledKeys (fun key => a.fetchPrices district key state) (md.fetchKeys a.sourceName) = keys ∧
      row.source = a.sourceName ∧ row.status = .failed ∧ row.recordsWritten = 0 ∧
      row.recordsSeen = (received (fun key => a.fetchPrices district key state) keys).length ∧
      row.recordsRejected = (received (fun key => a.fetchPrices district key state) keys).countP (md.refuses cfg) := by
  have hkeys : md.fetchKeys a.sourceName ≠ [] := List.ne_nil_of_mem hkey
  rcases pollKeys_cases cfg md (fun key => a.fetchPrices district key state)
    (md.fetchKeys a.sourceName) .start with hnone | ⟨pre, key', e, hpolled, he, hpoll⟩
  · exact absurd (hnone key hkey) hstray
  · -- the key that raised has brought nothing
    have hreceived : received (fun key => a.fetchPrices district key state) (pre ++ [key'])
        = received (fun key => a.fetchPrices district key state) pre := by
      simp [received, he]
    unfold runAdapter
    dsimp only
    rw [if_neg hkeys, hpoll]
    refine ⟨pre ++ [key'], ?_⟩
    rw [List.map_append, hreceived]
    refine ⟨_, rfl, hpolled, rfl, rfl, rfl, ?_, ?_⟩
    · simp [Intake.polled, Intake.start]
    · simp [Intake.polled, Intake.start]

theorem accepted_of_ran (h : ∀ key ∈ md.fetchKeys a.sourceName, stray (a.fetchPrices district key state) = none) :
    md.accepted cfg district state a
      = md.rows cfg (received (fun key => a.fetchPrices district key state) (md.fetchKeys a.sourceName)) :=
  if_pos (by simpa using h)

theorem accepted_of_stray {key : String} (hkey : key ∈ md.fetchKeys a.sourceName)
    (hstray : stray (a.fetchPrices district key state) ≠ none) : md.accepted cfg district state a = [] :=
  if_neg (fun hall => hstray (by simpa using List.all_eq_true.1 hall key hkey))

theorem completed_honest (hlog : out.log n = .ok ()) (hkeys : md.fetchKeys a.sourceName = keys)
    (hstray : ∀ key ∈ keys, stray (a.fetchPrices district key state) = none) :
    Honest cfg out md district state n a
      ((completed cfg md (out.upsert n) (fun key => a.fetchPrices district key state) keys).calls
        ++ [out.logRun n ((completed cfg md (out.upsert n) (fun key => a.fetchPrices district key state) keys).row out n
          a.sourceName district state)]) := by
  subst hkeys
  have hsum := countP_refuses cfg md
    (received (fun key => a.fetchPrices district key state) (md.fetchKeys a.sourceName))
  have hle := written_le (out.upsert n)
    (md.rows cfg (received (fun key => a.fetchPrices district key state) (md.fetchKeys a.sourceName)))
  rw [completed_calls]
  refine honest_append hlog (polledKeys_eq hstray) (accepted_of_ran hstray) rfl completed_seen completed_rejected
    completed_written ?_ (fun hs => ?_) (fun hs => ?_)
  · simp only [Intake.row, completed_written, completed_rejected, completed_seen]
    omega
  · obtain ⟨hrejected, herrors⟩ := status_success.1 hs
    obtain ⟨hfetch, hchunk⟩ := completed_fetchErrors.1 herrors
    have hall := written_eq hchunk
    rw [completed_rejected] at hrejected
    refine ⟨?_, failed_fetched hstray hfetch, hchunk⟩
    simp only [Intake.row, completed_written, completed_seen]
    omega
  · have hnone := (status_failed.1 hs).2
    rw [completed_seen] at hnone
    simp only [Intake.row, completed_written]
    omega

end Completed

/-- **Every turn is that of its adapter, and writes one row of the log, an honest one.** -/
theorem runAdapter_honest (hlog : out.log n = .ok ()) :
    Honest cfg out md district state n a (runAdapter cfg out md district state n a) := by
  by_cases hkeys : md.fetchKeys a.sourceName = []
  · have hpolled : polledKeys (fun key => a.fetchPrices district key state) (md.fetchKeys a.sourceName) = [] := by
      rw [hkeys, polledKeys]
    have haccepted : md.accepted cfg district state a = [] := by
      rw [accepted_of_ran (by simp [hkeys]), hkeys]
      rfl
    unfold runAdapter
    dsimp only
    rw [if_pos hkeys]
    exact honest_append hlog hpolled haccepted rfl rfl rfl rfl le_rfl (fun h => by cases h) (fun _ => rfl)
  by_cases hstray : ∀ key ∈ md.fetchKeys a.sourceName, stray (a.fetchPrices district key state) = none
  · rw [runAdapter_completed hkeys hstray]
    exact completed_honest hlog rfl hstray
  · obtain ⟨key, hkey, hne⟩ : ∃ key ∈ md.fetchKeys a.sourceName, stray (a.fetchPrices district key state) ≠ none := by
      simpa using hstray
    obtain ⟨keys, row, hturn, hpolled, hsource, hstatus, hwritten, hseen, hrejected⟩ := runAdapter_stray cfg out n hkey hne
    have hcount := List.countP_le_length (p := md.refuses cfg)
      (l := received (fun key => a.fetchPrices district key state) keys)
    rw [hturn, ← List.append_nil (keys.map _)]
    refine honest_append hlog hpolled (accepted_of_stray hkey hne) hsource hseen hrejected hwritten (by omega)
      (fun h => ?_) (fun _ => hwritten)
    rw [hstatus] at h
    cases h

end Turn

/-! ## A run -/

section Run

variable {cfg : IngestConfig} {out : Outside} {md : Metadata} {district state : String}

/-- The turns write one row each, of their adapters. -/
theorem sources_of_honest {adapters : List (Adapter × Nat)} {turns : List (List IngestCall)}
    (h : List.Forall₂ (fun a turn => Honest cfg out md district state a.2 a.1 turn) adapters turns) :
    (turns.flatten.filterMap IngestCall.logRow).map (·.source) = adapters.map (·.1.sourceName) := by
  induction h with
  | nil => rfl
  | cons hturn _ ih =>
    obtain ⟨row, -, hrow, hsource, -⟩ := hturn
    rw [List.flatten_cons, List.filterMap_append, hrow, List.map_append, ih, List.map_cons, List.map_nil, List.map_cons,
      hsource]
    rfl

end Run

/-- **Honest ingestion accounting**: a run that has read its tables polls the adapters in their order and writes one row of
the log for each, and each is honest about its adapter's turn. -/
theorem run_honest (cfg : IngestConfig) (out : Outside) (adapters : List Adapter) (district state : String) (md : Metadata)
    (hmd : metadata cfg out (adapters.map (·.sourceName)) district = .ok md) (hlog : ∀ n, out.log n = .ok ()) :
    ((IngestionRunner.run cfg out adapters district state).filterMap IngestCall.logRow).map (·.source)
        = adapters.map (·.sourceName) ∧
      ∃ turns, IngestionRunner.run cfg out adapters district state = turns.flatten ∧
        List.Forall₂ (fun a turn => Honest cfg out md district state a.2 a.1 turn) adapters.zipIdx turns := by
  have hrun : IngestionRunner.run cfg out adapters district state
      = (adapters.zipIdx.map (fun a => runAdapter cfg out md district state a.2 a.1)).flatten := by
    rw [IngestionRunner.run, hmd, ← List.mapIdx_eq_zipIdx_map]
  have hturns : List.Forall₂ (fun a turn => Honest cfg out md district state a.2 a.1 turn) adapters.zipIdx
      (adapters.zipIdx.map (fun a => runAdapter cfg out md district state a.2 a.1)) := by
    rw [List.forall₂_map_right_iff, List.forall₂_same]
    exact fun a _ => runAdapter_honest (hlog a.2)
  have hnames : adapters.zipIdx.map (·.1.sourceName) = adapters.map (·.sourceName) := by
    have hfst : adapters.zipIdx.map (·.1.sourceName) = (adapters.zipIdx.map Prod.fst).map (·.sourceName) := by
      rw [List.map_map]
      rfl
    rw [hfst, List.zipIdx_map_fst]
  rw [hrun]
  exact ⟨(sources_of_honest hturns).trans hnames, _, rfl, hturns⟩

/-! Onion at Lasalgaon, under two spellings, from a source that answers. -/

def plainIngest : IngestConfig where
  isSpace := Char.isWhitespace
  lower s := String.ofList (s.toList.map Char.toLower)
  isoformat _ := "2024-09-01"
  round := .finite

def onionTables : DB where
  __ := DB.empty
  commodityAlias := ⟨[⟨"data_gov_in", "Onion", 1⟩, ⟨"data_gov_in", "Pyaj", 1⟩], by decide, by decide⟩
  commodities := ⟨[⟨1, "Onion", "कांदा", "प्याज", 100, 10000⟩], by decide, by decide⟩
  markets := ⟨[⟨7, "Lasalgaon", "Nashik", some "LSL", 20, 74, true⟩], by decide, by decide⟩

/-- The outside with the tables at every read, and the log always written. -/
def answering (db : DB) (upsert : Nat → Nat → Except String Unit) : Outside :=
  ⟨fun _ => .ok db, upsert, fun _ => .ok (), fun _ => 40⟩

def onionRecord (marketName commodityName : String) (modal : ℚ) : RawPriceRecord :=
  ⟨marketName, commodityName, 19967, none, none, .finite modal, "quintal", none, "", "", "data_gov_in", none, .null⟩

/-- Two records for one key, one of an unknown market, and a failure for the other key. -/
def halfAnswering : Adapter := ⟨"data_gov_in", fun _ key _ =>
  if key = "Onion" then .ok [onionRecord "Lasalgaon" "Onion" 1800, onionRecord "Pune" "Onion" 1700]
  else .error (.sourceFetchError "HTTP 503")⟩

def neverAnswering : Adapter := ⟨"agmarknet", fun _ _ _ => .error (.exception "boom")⟩

theorem run_honest_half :
    let out := answering onionTables fun _ _ => .ok ()
    let run := IngestionRunner.run plainIngest out [halfAnswering, neverAnswering] "Nashik" "Maharashtra"
    (run.filterMap IngestCall.logRow).map (·.source) = ["data_gov_in", "agmarknet"] ∧
      ∃ md, metadata plainIngest out ["data_gov_in", "agmarknet"] "Nashik" = .ok md ∧
        md.fetchKeys "data_gov_in" = ["Onion", "Pyaj"] ∧ ∃ turns, run = turns.flatten ∧
        List.Forall₂ (fun a turn => Honest plainIngest out md "Nashik" "Maharashtra" a.2 a.1 turn)
          [(halfAnswering, 0), (neverAnswering, 1)] turns := by
  obtain ⟨hsources, hturns⟩ := run_honest plainIngest (answering onionTables fun _ _ => .ok ())
    [halfAnswering, neverAnswering] "Nashik" "Maharashtra" _ rfl (fun _ => rfl)
  exact ⟨hsources, _, rfl, by decide +kernel, hturns⟩

end Krishi
