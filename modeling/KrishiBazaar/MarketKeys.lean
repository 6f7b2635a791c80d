import KrishiBazaar.Conflicts
/-!
# MarketKeys — which market a name is resolved to

Codes and names of all markets of the district are keys of one dictionary, filled in the order of the rows, and a later
key replaces an earlier one.  So a name is resolved to the last market that has it as code or name, which need not be
the one that has it as its code (`marketId_prefers_iff`).
-/
namespace Krishi

open Lib

section Keys

variable (cfg : IngestConfig) (markets : List Market) (key : String)

/-- The market's code as a key; an empty key is none. -/
def Market.HasCode (m : Market) : Prop := key ≠ "" ∧ normKey cfg (m.sourceCode.getD "") = key

def Market.HasName (m : Market) : Prop := key ≠ "" ∧ normKey cfg m.name = key

instance (m : Market) : Decidable (m.HasCode cfg key) := inferInstanceAs (Decidable (_ ∧ _))

instance (m : Market) : Decidable (m.HasName cfg key) := inferInstanceAs (Decidable (_ ∧ _))

/-- No two markets have one code. -/
def CodesDistinct : Prop :=
  ∀ m ∈ markets, ∀ m' ∈ markets, ∀ key, m.HasCode cfg key → m'.HasCode cfg key → m = m'

/-- **The market is the one with the code, and only if there is none one with the name.** -/
def PrefersCode (marketId : Option Uuid) : Prop :=
  (∀ m ∈ markets, m.HasCode cfg key → marketId = some m.id) ∧
    ((∀ m ∈ markets, ¬ m.HasCode cfg key) →
      (∀ i, marketId = some i → ∃ m ∈ markets, m.HasName cfg key ∧ m.id = i) ∧
        (marketId = none → ∀ m ∈ markets, ¬ m.HasName cfg key))

/-- After the market with the code no market has the name. -/
def NotOverwritten : Prop :=
  ∀ pre m post, markets = pre ++ m :: post → m.HasCode cfg key → ∀ m' ∈ post, ¬ m'.HasName cfg key

variable {cfg markets key}

theorem dictGet_append {κ ν : Type} [DecidableEq κ] (d d' : List (κ × ν)) (k : κ) :
    dictGet (d ++ d') k = (dictGet d' k).or (dictGet d k) := by
  unfold dictGet
  rw [List.reverse_append, List.find?_append]
  cases d'.reverse.find? (fun e => e.1 = k) <;> rfl

theorem dictGet_marketKeys (m : Market) :
    dictGet (marketKeys cfg m) key = if m.HasCode cfg key ∨ m.HasName cfg key then some m.id else none := by
  have hfind : ∀ l : List String, dictGet (l.map (fun k => (k, m.id))) key
      = if key ∈ l then some m.id else none := by
    intro l
    unfold dictGet
    rw [← List.map_reverse, List.find?_map, Option.map_map]
    split
    · rename_i hmem
      cases hf : l.reverse.find? ((fun e : String × Uuid => decide (e.1 = key)) ∘ fun k => (k, m.id)) with
      | none => exact absurd (List.find?_eq_none.1 hf key (List.mem_reverse.2 hmem)) (by simp)
      | some k => rfl
    · rename_i hmem
      have hnone : l.reverse.find? ((fun e : String × Uuid => decide (e.1 = key)) ∘ fun k => (k, m.id)) = none := by
        refine List.find?_eq_none.2 (fun k hk hkey => hmem ?_)
        have heq : k = key := by simpa using hkey
        exact heq ▸ List.mem_reverse.1 hk
      rw [hnone]
      rfl
  have hiff : key ∈ ([m.sourceCode.getD "", m.name].map (normKey cfg)).filter (· ≠ "") ↔
      m.HasCode cfg key ∨ m.HasName cfg key := by
    unfold Market.HasCode Market.HasName
    simp only [List.mem_filter, List.map_cons, List.map_nil, List.mem_cons, List.not_mem_nil, or_false,
      decide_eq_true_eq]
    grind
  unfold marketKeys
  rw [hfind]
  exact if_congr hiff rfl rfl

/-- The last market with the key. -/
theorem dictGet_marketMap : ∀ markets : List Market, dictGet (markets.flatMap (marketKeys cfg)) key
    = (markets.reverse.find? (fun m => m.HasCode cfg key ∨ m.HasName cfg key)).map (·.id)
  | [] => rfl
  | m :: markets => by
    rw [List.flatMap_cons, dictGet_append, dictGet_marketMap markets, dictGet_marketKeys, List.reverse_cons,
      List.find?_append]
    cases markets.reverse.find? (fun m => m.HasCode cfg key ∨ m.HasName cfg key) with
    | some m' => rfl
    | none =>
      by_cases h : m.HasCode cfg key ∨ m.HasName cfg key <;> simp [h]

/-- **Codes come first exactly where no later market has the code for a name.** -/
theorem prefersCode_iff (hnd : (markets.map (·.id)).Nodup) (hcodes : CodesDistinct cfg markets) :
    PrefersCode cfg markets key (dictGet (markets.flatMap (marketKeys cfg)) key) ↔ NotOverwritten cfg markets key := by
  rw [dictGet_marketMap]
  constructor
  · rintro ⟨hcode, -⟩ pre m post rfl hm m' hm' hname
    have hpick := hcode m (by simp) hm
    obtain ⟨last, hlast, hid⟩ := Option.map_eq_some_iff.1 hpick
    -- The last market with the key is among those after `m`.
    have hmem : last ∈ post := by
      rw [List.reverse_append, List.reverse_cons, List.append_assoc, List.find?_append] at hlast
      cases hf : post.reverse.find? (fun m => m.HasCode cfg key ∨ m.HasName cfg key) with
      | none => exact absurd (Or.inr hname) (by simpa using List.find?_eq_none.1 hf m' (List.mem_reverse.2 hm'))
      | some m'' =>
        rw [hf] at hlast
        obtain rfl := Option.some.inj hlast
        exact List.mem_reverse.1 (List.mem_of_find?_eq_some hf)
    rw [List.map_append, List.map_cons, List.nodup_append] at hnd
    exact (List.nodup_cons.1 hnd.2.1).1 (hid ▸ List.mem_map_of_mem hmem)
  · intro h
    refine ⟨fun m hm hcode => ?_, fun hnone => ⟨fun i hi => ?_, fun hi m hm hname => ?_⟩⟩
    · obtain ⟨pre, post, rfl⟩ := List.append_of_mem hm
      have hpost : post.reverse.find? (fun m => m.HasCode cfg key ∨ m.HasName cfg key) = none := by
        refine List.find?_eq_none.2 (fun m' hm' hkey => ?_)
        rw [List.mem_reverse] at hm'
        rcases of_decide_eq_true hkey with hc | hn
        · obtain rfl := hcodes m (by simp) m' (by simp [hm']) key hcode hc
          rw [List.map_append, List.map_cons, List.nodup_append] at hnd
          exact (List.nodup_cons.1 hnd.2.1).1 (List.mem_map_of_mem hm')
        · exact h pre m post rfl hcode m' hm' hn
      rw [List.reverse_append, List.reverse_cons, List.append_assoc, List.find?_append, hpost]
      simp [hcode]
    · obtain ⟨m, hm, hid⟩ := Option.map_eq_some_iff.1 hi
      have hmem := List.mem_reverse.1 (List.mem_of_find?_eq_some hm)
      have hkey := List.find?_some hm
      exact ⟨m, hmem, (of_decide_eq_true hkey).resolve_left (hnone m hmem), hid⟩
    · have hfind := List.find?_eq_none.1 (Option.map_eq_none_iff.1 hi) m (List.mem_reverse.2 hm)
      exact hfind (decide_eq_true (Or.inr hname))

end Keys

/-- **The runner resolves a name by its code first exactly where no later market of the district has the code for a
name.** -/
theorem marketId_prefers_iff (cfg : IngestConfig) (out : Outside) (adapterNames : List String) (district : String)
    {md : Metadata} {db : DB} (hmd : metadata cfg out adapterNames district = .ok md) (hdb : out.read 2 = .ok db)
    (hcodes : CodesDistinct cfg (db.markets.rows.filter (fun m => m.district = district))) (raw : RawPriceRecord) :
    PrefersCode cfg (db.markets.rows.filter (fun m => m.district = district)) (normKey cfg raw.marketName)
        (md.marketId cfg raw) ↔
      NotOverwritten cfg (db.markets.rows.filter (fun m => m.district = district)) (normKey cfg raw.marketName) := by
  have hmap : md.marketMap = (db.markets.rows.filter (fun m => m.district = district)).flatMap (marketKeys cfg) := by
    unfold metadata at hmd
    simp only [bind_ok] at hmd
    obtain ⟨db0, -, db1, -, db2, h2, db3, -, hmd⟩ := hmd
    obtain rfl := Except.ok.inj (hdb.symm.trans h2)
    obtain rfl := Except.ok.inj hmd
    rfl
  have hnd : ((db.markets.rows.filter (fun m => m.district = district)).map (·.id)).Nodup :=
    db.markets.nodup.sublist (List.filter_sublist.map _)
  unfold Metadata.marketId
  rw [hmap]
  exact prefersCode_iff hnd hcodes

/-! ## A market named like another's code -/

/-- Lasalgaon has the code `LSL`, and another market that name; it comes after Lasalgaon, or before. -/
def twoMarkets (lasalgaonFirst : Bool) : DB :=
  let lasalgaon : Market := ⟨7, "Lasalgaon", "Nashik", some "LSL", 20, 74, true⟩
  let lsl : Market := ⟨8, "LSL", "Nashik", none, 20, 74, true⟩
  { onionTables with
    markets := ⟨if lasalgaonFirst then [lasalgaon, lsl] else [lsl, lasalgaon], by cases lasalgaonFirst <;> decide,
      by cases lasalgaonFirst <;> decide⟩ }

theorem twoMarkets_codes (lasalgaonFirst : Bool) : CodesDistinct plainIngest
    ((twoMarkets lasalgaonFirst).markets.rows.filter (fun m => m.district = "Nashik")) := by
  have hone : ∀ m ∈ (twoMarkets lasalgaonFirst).markets.rows, m.sourceCode = none ∨ m.id = 7 := by
    cases lasalgaonFirst <;> decide
  have hblank : normKey plainIngest "" = "" := by decide +kernel
  have hseven : ∀ m ∈ (twoMarkets lasalgaonFirst).markets.rows, ∀ key, m.HasCode plainIngest key → m.id = 7 := by
    rintro m hm key ⟨hne, hcode⟩
    refine (hone m hm).resolve_left (fun hnone => hne ?_)
    rw [← hcode, hnone]
    exact hblank
  intro m hm m' hm' key h h'
  have hmem := (List.mem_filter.1 hm).1
  have hmem' := (List.mem_filter.1 hm').1
  exact Table.eq_of_key _ hmem hmem' ((hseven m hmem key h).trans (hseven m' hmem' key h').symm)

/-- Records of `LSL` go to the other market, although it is the code of Lasalgaon. -/
theorem lsl_misfiled : ∃ md, metadata plainIngest (answering (twoMarkets true) fun _ _ => .ok ()) ["data_gov_in"] "Nashik"
      = .ok md ∧ md.marketId plainIngest (onionRecord "LSL" "Onion" 1800) = some 8 ∧
    ¬ PrefersCode plainIngest ((twoMarkets true).markets.rows.filter (fun m => m.district = "Nashik"))
      (normKey plainIngest "LSL") (md.marketId plainIngest (onionRecord "LSL" "Onion" 1800)) := by
  refine ⟨_, rfl, by decide +kernel, fun h => ?_⟩
  have hcode := h.1 ⟨7, "Lasalgaon", "Nashik", some "LSL", 20, 74, true⟩ (by decide +kernel) (by decide +kernel)
  revert hcode
  decide +kernel

/-- In the other order they go to Lasalgaon. -/
theorem lsl_filed : ∃ md, metadata plainIngest (answering (twoMarkets false) fun _ _ => .ok ()) ["data_gov_in"] "Nashik"
      = .ok md ∧ md.marketId plainIngest (onionRecord "LSL" "Onion" 1800) = some 7 ∧
    (PrefersCode plainIngest ((twoMarkets false).markets.rows.filter (fun m => m.district = "Nashik"))
        (normKey plainIngest "LSL") (md.marketId plainIngest (onionRecord "LSL" "Onion" 1800)) ↔
      NotOverwritten plainIngest ((twoMarkets false).markets.rows.filter (fun m => m.district = "Nashik"))
        (normKey plainIngest "LSL")) :=
  ⟨_, rfl, by decide +kernel, marketId_prefers_iff plainIngest (answering (twoMarkets false) fun _ _ => .ok ())
    ["data_gov_in"] "Nashik" rfl rfl (twoMarkets_codes false) (onionRecord "LSL" "Onion" 1800)⟩

end Krishi
