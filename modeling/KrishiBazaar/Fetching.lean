import KrishiBazaar.Lib.Loop
import KrishiBazaar.Truncation
/-!
# Fetching — what a fetch raises, and what its loop collects

Only the request for a first page is in a `try`, and only the two kinds of request errors are caught; what is done with
the answer is not.  So a first page that is no JSON, no dict, or has records or a total of another kind raises something
else (`fetchPrices_raises_iff`).  The loop over the later pages catches everything; each page that is taken brings it
nearer to the total (`page_loop`).
-/
namespace Krishi

open Lib

/-! ## The first pages -/

/-- The request came back with a dict, or with an error that is caught. -/
def Answered : Except HttpError Json → Prop
  | .error (.other _) => False
  | .error _ => True
  | .ok (.obj _) => True
  | .ok _ => False

/-- What is there to read is of its kind: records that can be listed, and a total that is a number. -/
def Readable (cfg : DataGovConfig) (data : Json) : Prop :=
  ∀ records, data.get "records" = some (some records) → records.items ≠ none ∧
    ∀ total, data.get "total" = some (some total) → cfg.int total ≠ none

/-- No other spelling is tried after it. -/
def endsSearch : Except HttpError Json → Bool
  | .error _ => true
  | .ok data => ((data.get "records").all (fun records => records.any Json.truthy))

/-- The answers to the requests for a first page, up to the one that ends the search. -/
def firstAnswers (server : Server) (k : FetchKey) : List String → Nat → List (Except HttpError Json)
  | [], _ => []
  | spelling :: rest, n =>
    let (answer, next) := getJson server (k.params spelling 0) n
    if endsSearch answer then [answer] else answer :: firstAnswers server k rest next

/-- **Each first page was answered, and the one gone on with is readable.** -/
def WellShaped (cfg : DataGovConfig) (answers : List (Except HttpError Json)) : Prop :=
  (∀ answer ∈ answers, Answered answer) ∧ ∀ data, answers.getLast? = some (.ok data) → Readable cfg data

/-- How a search of first pages ends, by the answers it got: with a page, or an error of the one kind or the other. -/
inductive SearchEnd (answers : List (Except HttpError Json)) : Except FetchError (Option Json × String × Nat) → Prop
  | strayed {answer : Except HttpError Json} (m : String) (h : answer ∈ answers) (hno : ¬ Answered answer) :
      SearchEnd answers (.error (.exception m))
  | failed {e : HttpError} (m : String) (hall : ∀ answer ∈ answers, Answered answer)
      (hlast : answers.getLast? = some (.error e)) : SearchEnd answers (.error (.sourceFetchError m))
  | found {fields : List (String × Json)} (spelling : String) (next : Nat) (hall : ∀ answer ∈ answers, Answered answer)
      (hlast : answers.getLast? = some (.ok (.obj fields))) : SearchEnd answers (.ok (some (.obj fields), spelling, next))

section First

variable {cfg : DataGovConfig} {server : Server} {k : FetchKey}

theorem SearchEnd.cons {fields : List (String × Json)} {answers : List (Except HttpError Json)}
    {r : Except FetchError (Option Json × String × Nat)} (h : SearchEnd answers r) :
    SearchEnd (.ok (.obj fields) :: answers) r := by
  cases h with
  | strayed m h hno => exact .strayed m (List.mem_cons_of_mem _ h) hno
  | @failed e m hall hlast =>
    have hlast' : (.ok (.obj fields) :: answers : List (Except HttpError Json)).getLast? = some (.error e) := by
      rw [List.getLast?_cons, hlast, Option.getD_some]
    exact .failed m (List.forall_mem_cons.2 ⟨trivial, hall⟩) hlast'
  | @found fields' spelling next hall hlast =>
    have hlast' : (.ok (.obj fields) :: answers : List (Except HttpError Json)).getLast? = some (.ok (.obj fields')) := by
      rw [List.getLast?_cons, hlast, Option.getD_some]
    exact .found spelling next (List.forall_mem_cons.2 ⟨trivial, hall⟩) hlast'

variable (cfg server k) in
theorem firstData_end : ∀ (spelling : String) (rest : List String) (data : Option Json) (n : Nat),
    SearchEnd (firstAnswers server k (spelling :: rest) n) (firstData cfg server k (spelling :: rest) data n) := by
  intro spelling rest data n
  unfold firstData firstAnswers
  obtain ⟨answer, next⟩ := getJson server (k.params spelling 0) n
  cases answer with
  | error e =>
    cases e with
    | other m => exact .strayed m (List.mem_singleton_self _) id
    | statusError _ | transportError _ | requestError _ => exact .failed _ (List.forall_mem_singleton.2 trivial) rfl
  | ok v =>
    cases v with
    | null | bool _ | int _ | float _ | str _ | arr _ => exact .strayed _ (List.mem_singleton_self _) id
    | obj fields =>
      have hget : (Json.obj fields).get "records" = some (dictGet fields "records") := rfl
      dsimp only
      rw [hget]
      by_cases hr : (dictGet fields "records").any Json.truthy = true
      · have hends : endsSearch (.ok (.obj fields)) = true := hr
        rw [if_pos hends]
        dsimp only
        rw [if_pos hr]
        exact .found spelling next (List.forall_mem_singleton.2 trivial) rfl
      · have hgo : ¬ endsSearch (.ok (.obj fields)) = true := hr
        rw [if_neg hgo]
        dsimp only
        rw [if_neg hr]
        cases rest with
        | nil => exact .found k.district next (List.forall_mem_singleton.2 trivial) rfl
        | cons spelling' rest => exact (firstData_end spelling' rest (some (.obj fields)) next).cons
termination_by _ rest => rest.length

/-- Of a page that came, only what is not of its kind raises something else. -/
theorem firstPage_readable {fields : List (String × Json)} {spelling : String} {next : Nat}
    (h : firstData cfg server k k.spellings none 0 = .ok (some (.obj fields), spelling, next)) :
    (∀ e, firstPage cfg server k = .error e → ∃ m, e = .sourceFetchError m) ↔ Readable cfg (.obj fields) := by
  have hget : ∀ key, (Json.obj fields).get key = some (dictGet fields key) := fun _ => rfl
  unfold Readable firstPage
  rw [h, ok_bind]
  simp only [hget, Option.some.injEq]
  cases dictGet fields "records" with
  | none => simp
  | some records =>
    cases hi : records.items with
    | none => simp [hi]
    | some allRaw =>
      cases dictGet fields "total" with
      | none => simp [hi]
      | some total =>
        cases ht : cfg.int total with
        | none => simp [hi, ht]
        | some _ => simp [hi, ht]

theorem firstPage_raises_iff : (∀ e, firstPage cfg server k = .error e → ∃ m, e = .sourceFetchError m) ↔
    WellShaped cfg (firstAnswers server k k.spellings 0) := by
  have hraised : ∀ {e}, firstData cfg server k k.spellings none 0 = .error e → firstPage cfg server k = .error e := by
    intro e he
    unfold firstPage
    rw [he]
    rfl
  have hend : SearchEnd (firstAnswers server k k.spellings 0) (firstData cfg server k k.spellings none 0) :=
    firstData_end cfg server k k.district _ none 0
  cases hd : firstData cfg server k k.spellings none 0 with
  | error e =>
    rw [hd] at hend
    have hpage := hraised hd
    cases hend with
    | strayed m ha hno =>
      constructor
      · intro h
        obtain ⟨m', hm'⟩ := h _ hpage
        cases hm'
      · intro h
        exact absurd (h.1 _ ha) hno
    | failed m hall hlast =>
      constructor
      · refine fun _ => ⟨hall, fun data hdata => ?_⟩
        rw [hlast] at hdata
        cases hdata
      · intro _ e' he'
        exact ⟨m, (Except.error.inj (hpage.symm.trans he')).symm⟩
  | ok found =>
    rw [hd] at hend
    cases hend with
    | found spelling next hall hlast =>
      rw [firstPage_readable hd]
      constructor
      · refine fun h => ⟨hall, fun data hdata => ?_⟩
        rw [hlast] at hdata
        obtain rfl := Except.ok.inj (Option.some.inj hdata)
        exact h
      · intro h
        exact h.2 _ hlast

end First

/-- **A fetch raises nothing but `SourceFetchError`** exactly when its first pages are well shaped; the later pages do not
matter. -/
theorem fetchPrices_raises_iff (cfg : DataGovConfig) (server : Server) (district commodity state : String) :
    (∀ e, (dataGovInAdapter cfg server).fetchPrices district commodity state = .error e → ∃ m, e = .sourceFetchError m) ↔
      WellShaped cfg
        (firstAnswers server ⟨district, commodity, state⟩ (FetchKey.spellings ⟨district, commodity, state⟩) 0) := by
  rw [← firstPage_raises_iff]
  exact forall_congr' (fun e => imp_congr_left fetchPrices_error_iff)

/-- A list in the place of the dict, and a total that is a word. -/
theorem fetchPrices_strays :
    (∃ m, (dataGovInAdapter plainDataGov fun _ _ => .ok (.arr [])).fetchPrices "Nashik" "Onion" "Maharashtra"
      = .error (.exception m)) ∧
    ∃ m, (dataGovInAdapter plainDataGov fun _ _ =>
        .ok (.obj [("records", .arr [onionItem]), ("total", .str "one")])).fetchPrices "Nashik" "Onion" "Maharashtra"
      = .error (.exception m) :=
  ⟨⟨_, rfl⟩, ⟨_, rfl⟩⟩

/-! ## The loop over the later pages -/

/-- The state of the loop: the records so far, the offset to ask for, and the number of the next request. -/
structure PageState where
  allRaw : List Json
  offset : Nat
  next : Nat

def FirstPage.start (first : FirstPage) : PageState := ⟨first.records, first.records.length, first.next⟩

section Loop

variable (server : Server) (k : FetchKey) (spelling : String) (total : Int)

def PageState.more (s : PageState) : Prop := (s.offset : Int) < total

/-- One round: a page is fetched, and taken or not. -/
def pageRound (s : PageState) : PageState ⊕ PageState :=
  let (answer, next) := getJson server (k.params spelling s.offset) s.next
  match pageRecords answer with
  | none => .inr { s with next := next }
  | some records => .inl ⟨s.allRaw ++ records, s.offset + records.length, next⟩

variable {server k spelling total}

theorem pageRound_none {s : PageState}
    (h : pageRecords (getJson server (k.params spelling s.offset) s.next).1 = none) :
    pageRound server k spelling s = .inr { s with next := (getJson server (k.params spelling s.offset) s.next).2 } := by
  simp only [pageRound, h]

theorem pageRound_some {s : PageState} {records : List Json}
    (h : pageRecords (getJson server (k.params spelling s.offset) s.next).1 = some records) :
    pageRound server k spelling s = .inl ⟨s.allRaw ++ records, s.offset + records.length,
      (getJson server (k.params spelling s.offset) s.next).2⟩ := by
  simp only [pageRound, h]

/-- A page that is taken has records, so the offset goes up. -/
theorem pageRound_offset {s s' : PageState} (h : pageRound server k spelling s = .inl s') : s.offset < s'.offset := by
  cases hp : pageRecords (getJson server (k.params spelling s.offset) s.next).1 with
  | none =>
    rw [pageRound_none hp] at h
    cases h
  | some records =>
    rw [pageRound_some hp] at h
    obtain rfl := Sum.inl.inj h
    have hpos : 0 < records.length := List.length_pos_iff.2 (pageRecords_ne_nil hp)
    dsimp only
    omega

variable (server k spelling total) in
/-- **The loop ends**, whatever the server answers. -/
theorem pages_end (s : PageState) : ∃ rounds t,
    Loop.Ends (PageState.more total) (pageRound server k spelling) s rounds t ∧ rounds ≤ (total - s.offset).toNat := by
  refine Loop.exists_ends (fun s => (total - s.offset).toNat) (fun s h => ?_) (fun s s' h hs => ?_) s
  · have hlt : (s.offset : Int) < total := h
    omega
  · have hlt : (s.offset : Int) < total := h
    have hup := pageRound_offset hs
    omega

/-- What the download has is what the loop has at its end. -/
theorem paginate_of_ends {s t : PageState} {rounds : Nat}
    (h : Loop.Ends (PageState.more total) (pageRound server k spelling) s rounds t) (hs : s.offset = s.allRaw.length) :
    ∀ fuel : Nat, (total - s.offset).toNat ≤ fuel →
      (paginate server k spelling total fuel s.allRaw s.next).1 = t.allRaw := by
  induction h with
  | @exit s hdone =>
    intro fuel _
    cases fuel with
    | zero => rfl
    | succ fuel =>
      have hge : ¬ (s.allRaw.length : Int) < total := by rwa [← hs]
      rw [paginate, if_neg hge]
  | @broke s t hmore hround =>
    intro fuel hfuel
    have hlt : (s.offset : Int) < total := hmore
    obtain ⟨fuel, rfl⟩ : ∃ f, fuel = f + 1 := ⟨fuel - 1, by omega⟩
    cases hp : pageRecords (getJson server (k.params spelling s.offset) s.next).1 with
    | none =>
      rw [pageRound_none hp] at hround
      obtain rfl := Sum.inr.inj hround
      rw [paginate, if_pos (by rwa [← hs]), ← hs]
      simp only [hp]
    | some records =>
      rw [pageRound_some hp] at hround
      cases hround
  | @next s s' t rounds hmore hround _ ih =>
    intro fuel hfuel
    have hlt : (s.offset : Int) < total := hmore
    obtain ⟨fuel, rfl⟩ : ∃ f, fuel = f + 1 := ⟨fuel - 1, by omega⟩
    have hup := pageRound_offset hround
    cases hp : pageRecords (getJson server (k.params spelling s.offset) s.next).1 with
    | none =>
      rw [pageRound_none hp] at hround
      cases hround
    | some records =>
      rw [pageRound_some hp] at hround
      obtain rfl := Sum.inl.inj hround
      rw [paginate, if_pos (by rwa [← hs]), ← hs]
      simp only [hp]
      exact ih (by rw [hs, List.length_append]) fuel (by omega)

end Loop

section Collect

variable {cfg : DataGovConfig} {server : Server} {k : FetchKey}

/-- The download is the first page and the loop after it. -/
theorem download_of_ends {first : FirstPage} (hfirst : firstPage cfg server k = .ok first) {t : PageState} {rounds : Nat}
    (h : Loop.Ends (PageState.more first.total) (pageRound server k first.spelling) first.start rounds t) :
    ∃ d, download cfg server k = .ok d ∧ d.allRaw = t.allRaw ∧ d.total = first.total := by
  unfold download
  rw [hfirst]
  exact ⟨_, rfl, paginate_of_ends h rfl _ le_rfl, rfl⟩

/-- **The server holds these records** for the district as it is spelled first: at each position it gives some of those
from there on, no more than a page and at least one, and it announces how many there are. -/
structure ServesPrefixes (cfg : DataGovConfig) (server : Server) (k : FetchKey) (held : List Json) : Prop where
  page : ∀ n o, o = 0 ∨ o < held.length → ∃ data records,
    (getJson server (k.params k.district o) n).1 = .ok data ∧ data.get "records" = some (some (.arr records)) ∧
      records ≠ [] ∧ records.length ≤ dataGovPageSize ∧ records <+: held.drop o
  total : ∀ n data, (getJson server (k.params k.district 0) n).1 = .ok data →
    ∃ v, data.get "total" = some (some v) ∧ cfg.int v = some (held.length : Int)

variable {held : List Json}

theorem truthy_arr {records : List Json} (hne : records ≠ []) : (Json.arr records).truthy = true := by
  cases records with
  | nil => exact absurd rfl hne
  | cons r rs => rfl

theorem pageRecords_arr {data : Json} {records : List Json} (h : data.get "records" = some (some (.arr records)))
    (hne : records ≠ []) : pageRecords (.ok data) = some records := by
  simp only [pageRecords, h, Option.join_some, Option.filter_some, truthy_arr hne, if_true, Option.bind_some, Json.items]

/-- The first page is the first of the records. -/
theorem ServesPrefixes.firstPage (h : ServesPrefixes cfg server k held) : ∃ first,
    firstPage cfg server k = .ok first ∧ first.records <+: held ∧ first.total = held.length ∧
      first.spelling = k.district := by
  obtain ⟨data, records, hget, hrecords, hne, -, hpre⟩ := h.page 0 0 (Or.inl rfl)
  obtain ⟨v, hv, hint⟩ := h.total 0 data hget
  have hfirst : firstData cfg server k k.spellings none 0
      = .ok (some data, k.district, (getJson server (k.params k.district 0) 0).2) := by
    have hpair : getJson server (k.params k.district 0) 0 = (.ok data, (getJson server (k.params k.district 0) 0).2) :=
      Prod.ext hget rfl
    unfold FetchKey.spellings firstData
    rw [hpair]
    simp only [hrecords, Option.any_some, truthy_arr hne, if_true]
  refine ⟨⟨records, held.length, k.district, (getJson server (k.params k.district 0) 0).2⟩, ?_, ?_, rfl, rfl⟩
  · unfold Krishi.firstPage
    rw [hfirst, ok_bind]
    simp only [hrecords, hv, hint, Option.join_some, Json.items]
  · rwa [List.drop_zero] at hpre

theorem ServesPrefixes.collects (h : ServesPrefixes cfg server k held) {s t : PageState} {rounds : Nat}
    (he : Loop.Ends (PageState.more held.length) (pageRound server k k.district) s rounds t) (hs : s.allRaw <+: held)
    (hoff : s.offset = s.allRaw.length) : t.allRaw = held := by
  have hinv : ∀ s : PageState, s.allRaw <+: held ∧ s.offset = s.allRaw.length → s.more held.length →
      ∃ s', pageRound server k k.district s = .inl s' ∧ s'.allRaw <+: held ∧ s'.offset = s'.allRaw.length := by
    rintro s ⟨⟨rest, rfl⟩, hoff⟩ hmore
    have hlt : s.offset < (s.allRaw ++ rest).length := Int.ofNat_lt.1 hmore
    obtain ⟨data, records, hget, hrecords, hne, -, hpre⟩ := h.page s.next s.offset (Or.inr hlt)
    have hp : pageRecords (getJson server (k.params k.district s.offset) s.next).1 = some records := by
      rw [hget]
      exact pageRecords_arr hrecords hne
    rw [hoff, List.drop_left] at hpre
    refine ⟨_, pageRound_some hp, (List.prefix_append_right_inj _).2 hpre, ?_⟩
    rw [hoff, List.length_append]
  obtain ⟨⟨hpre, hlen⟩, hdone⟩ := he.inv hinv ⟨hs, hoff⟩
  have hle : held.length ≤ t.allRaw.length := by
    have hge : ¬ (t.offset : Int) < held.length := hdone
    omega
  exact hpre.eq_of_length_le hle

/-- **The loop over the pages** ends after no more rounds than the total announced, with each server; and if the server
holds some records and gives them out piece by piece, the download is these records. -/
theorem page_loop (cfg : DataGovConfig) (server : Server) (k : FetchKey) :
    (∀ first, firstPage cfg server k = .ok first → ∃ rounds t,
      Loop.Ends (PageState.more first.total) (pageRound server k first.spelling) first.start rounds t ∧
        (rounds : Int) ≤ max first.total 0 ∧
        ∃ d, download cfg server k = .ok d ∧ d.allRaw = t.allRaw) ∧
    ∀ held, ServesPrefixes cfg server k held → ∃ first rounds t, firstPage cfg server k = .ok first ∧
      Loop.Ends (PageState.more first.total) (pageRound server k first.spelling) first.start rounds t ∧
        t.allRaw = held ∧ download cfg server k = .ok ⟨held, held.length, false⟩ := by
  constructor
  · intro first hfirst
    obtain ⟨rounds, t, he, hle⟩ := pages_end server k first.spelling first.total first.start
    obtain ⟨d, hd, hraw, -⟩ := download_of_ends hfirst he
    exact ⟨rounds, t, he, by omega, d, hd, hraw⟩
  · intro held h
    obtain ⟨first, hfirst, hpre, htotal, hspelling⟩ := h.firstPage
    obtain ⟨rounds, t, he, -⟩ := pages_end server k first.spelling first.total first.start
    obtain ⟨⟨allRaw, total, truncated⟩, hd, hraw, htot⟩ := download_of_ends hfirst he
    have hall : t.allRaw = held := by
      rw [htotal, hspelling] at he
      exact h.collects he hpre rfl
    have hcut : truncated = true ↔ (allRaw.length : Int) < total := truncated_iff_short hd
    dsimp only at hraw htot
    subst hraw htot hall
    have hwhole : truncated = false := by
      rw [htotal] at hcut
      simpa using hcut
    rw [hwhole, htotal] at hd
    exact ⟨first, rounds, t, hfirst, he, rfl, hd⟩

end Collect

/-! Three records, one on each page. -/

def threeItems : List Json := [onionItem, onionItem, onionItem]

def oneByOne : Server := fun _ params =>
  .ok (.obj [("records", .arr ((threeItems.drop params.offset).take 1)), ("total", .int 3)])

theorem oneByOne_serves (k : FetchKey) : ServesPrefixes plainDataGov oneByOne k threeItems where
  page n o ho := by
    have hlt : o < threeItems.length := ho.elim (fun h => h ▸ by decide) id
    refine ⟨_, (threeItems.drop o).take 1, rfl, rfl, fun hnil => ?_, ?_, List.take_prefix 1 _⟩
    · have hlen := congrArg List.length hnil
      rw [List.length_take, List.length_drop, List.length_nil] at hlen
      omega
    · rw [List.length_take]
      unfold dataGovPageSize
      omega
  total n data hdata := by
    obtain rfl := Except.ok.inj hdata
    exact ⟨.int 3, rfl, rfl⟩

theorem page_loop_oneByOne : ∃ first rounds t,
    firstPage plainDataGov oneByOne ⟨"Nashik", "Onion", "Maharashtra"⟩ = .ok first ∧
    Loop.Ends (PageState.more first.total) (pageRound oneByOne ⟨"Nashik", "Onion", "Maharashtra"⟩ first.spelling)
      first.start rounds t ∧ (rounds : Int) ≤ max first.total 0 ∧ t.allRaw = threeItems ∧
    download plainDataGov oneByOne ⟨"Nashik", "Onion", "Maharashtra"⟩ = .ok ⟨threeItems, 3, false⟩ := by
  have hloop := page_loop plainDataGov oneByOne ⟨"Nashik", "Onion", "Maharashtra"⟩
  obtain ⟨first, rounds, t, hfirst, he, hall, hd⟩ := hloop.2 threeItems (oneByOne_serves _)
  obtain ⟨rounds', t', he', hle, -⟩ := hloop.1 first hfirst
  obtain ⟨rfl, rfl⟩ := he.unique he'
  exact ⟨first, rounds, t, hfirst, he, hle, hall, hd⟩

end Krishi
