import KrishiBazaar.Lib.Rest
/-!
# PageEnds — which rows may stand first and last on a page

A page has the first `n` of the rows sorted by a key, and the store orders the rows of one key.  So any row of the least
key may come first (`Leads`), and any that fewer than `n` rows are below, and as many as the page has are not above, may
come last (`Closes`): these are the pairs that some order puts there (`exists_page_ends`), and no others (`page_ends`).
-/
namespace Lib

variable {ρ κ : Type} [LinearOrder κ] (key : ρ → κ)

def Leads (rows : List ρ) (f : ρ) : Prop := f ∈ rows ∧ ∀ r ∈ rows, key f ≤ key r

def Closes (n : Nat) (rows : List ρ) (g : ρ) : Prop :=
  g ∈ rows ∧ (rows.filter (fun r => key r < key g)).length < n ∧
    min n rows.length ≤ (rows.filter (fun r => key r ≤ key g)).length

variable {key} {c : κ}

/-! ## Positions in a sorted list -/

theorem le_of_mem_take : ∀ {l : List ρ} {k : Nat}, l.Pairwise (fun a b => key a ≤ key b) →
    k ≤ (l.filter (fun r => key r ≤ c)).length → ∀ r ∈ l.take k, key r ≤ c
  | [], _, _, _, _, hr => absurd (List.mem_of_mem_take hr) List.not_mem_nil
  | _ :: _, 0, _, _, _, hr => absurd hr (by simp)
  | a :: l, k + 1, hs, hk, r, hr => by
    obtain ⟨ha, hs⟩ := List.pairwise_cons.1 hs
    by_cases hac : key a ≤ c
    · rw [List.filter_cons_of_pos (by simpa using hac), List.length_cons] at hk
      rw [List.take_succ_cons, List.mem_cons] at hr
      rcases hr with rfl | hr
      · exact hac
      · exact le_of_mem_take hs (Nat.le_of_succ_le_succ hk) r hr
    · have hnil : l.filter (fun r => key r ≤ c) = [] := List.filter_eq_nil_iff.2 (fun b hb hbc =>
        hac ((ha b hb).trans (by simpa using hbc)))
      rw [List.filter_cons_of_neg (by simpa using hac), hnil, List.length_nil] at hk
      omega

/-- The first `k` are all below a bound exactly if `k` of the list are, or all of it is. -/
theorem le_of_mem_take_iff {l : List ρ} {k : Nat} (hs : l.Pairwise (fun a b => key a ≤ key b)) :
    (∀ r ∈ l.take k, key r ≤ c) ↔ k ≤ (l.filter (fun r => key r ≤ c)).length ∨ ∀ r ∈ l, key r ≤ c := by
  constructor
  · intro h
    rcases le_total k l.length with hk | hk
    · left
      have hall : (l.take k).filter (fun r => key r ≤ c) = l.take k :=
        List.filter_eq_self.2 (fun r hr => decide_eq_true (h r hr))
      calc k = ((l.take k).filter (fun r => key r ≤ c)).length := by rw [hall, List.length_take_of_le hk]
        _ ≤ (l.filter (fun r => key r ≤ c)).length := ((List.take_sublist k l).filter _).length_le
    · right
      rwa [List.take_of_length_le hk] at h
  · rintro (h | h) r hr
    · exact le_of_mem_take hs h r hr
    · exact h r (List.mem_of_mem_take hr)

theorem le_of_mem_drop : ∀ {l : List ρ} {k : Nat}, l.Pairwise (fun a b => key a ≤ key b) →
    (l.filter (fun r => key r < c)).length ≤ k → ∀ r ∈ l.drop k, c ≤ key r
  | [], _, _, _, _, hr => absurd (List.mem_of_mem_drop hr) List.not_mem_nil
  | a :: l, k, hs, hk, r, hr => by
    obtain ⟨ha, hs⟩ := List.pairwise_cons.1 hs
    by_cases hac : key a < c
    · rw [List.filter_cons_of_pos (by simpa using hac), List.length_cons] at hk
      obtain ⟨k, rfl⟩ : ∃ k', k = k' + 1 := ⟨k - 1, by omega⟩
      exact le_of_mem_drop hs (Nat.le_of_succ_le_succ hk) r hr
    · rcases List.mem_cons.1 (List.mem_of_mem_drop hr) with rfl | hr
      · exact not_lt.1 hac
      · exact (not_lt.1 hac).trans (ha r hr)

/-! ## The ends -/

namespace RowOrder

variable {n : Nat} {rows : List ρ} {f g : ρ}

variable (key) in
theorem pairwise_sorted (o : RowOrder) (rows : List ρ) :
    ((o.order rows).insertionSort (fun a b => key a ≤ key b)).Pairwise (fun a b => key a ≤ key b) := by
  have : Std.Total (fun a b : ρ => key a ≤ key b) := ⟨fun a b => le_total _ _⟩
  have : IsTrans ρ (fun a b => key a ≤ key b) := ⟨fun _ _ _ => le_trans⟩
  exact List.pairwise_insertionSort _ _

theorem page_eq (o : RowOrder) (n : Nat) (rows : List ρ) : o.page (fun a b => key a ≤ key b) (some n) rows
    = ((o.order rows).insertionSort (fun a b => key a ≤ key b)).take n := by
  unfold page
  simp only [decide_eq_true_eq, Option.elim]

variable (key) in
theorem length_filter_sorted (o : RowOrder) (rows : List ρ) (p : ρ → Bool) :
    (((o.order rows).insertionSort (fun a b => key a ≤ key b)).filter p).length = (rows.filter p).length :=
  (((List.perm_insertionSort _ _).trans (o.perm rows)).filter p).length_eq

theorem mem_sorted (o : RowOrder) {r : ρ} :
    r ∈ (o.order rows).insertionSort (fun a b => key a ≤ key b) ↔ r ∈ rows := by
  rw [List.mem_insertionSort, o.mem_order]

/-- **The first row of a page leads, and the last closes.** -/
theorem page_ends (o : RowOrder) (hf : (o.page (fun a b => key a ≤ key b) (some n) rows).head? = some f)
    (hg : (o.page (fun a b => key a ≤ key b) (some n) rows).getLast? = some g) : Leads key rows f ∧ Closes key n rows g := by
  have hsorted := o.pairwise_sorted key rows
  have hmem : ∀ r, r ∈ (o.order rows).insertionSort (fun a b => key a ≤ key b) ↔ r ∈ rows := fun r => o.mem_sorted
  have hcount := o.length_filter_sorted key rows
  have hlen : ((o.order rows).insertionSort (fun a b => key a ≤ key b)).length = rows.length := by
    rw [List.length_insertionSort, (o.perm rows).length_eq]
  rw [page_eq] at hf hg
  revert hsorted hmem hcount hlen hf hg
  generalize (o.order rows).insertionSort (fun a b => key a ≤ key b) = sorted
  intro hf hg hsorted hmem hcount hlen
  constructor
  · obtain ⟨rest, hrest⟩ := List.head?_eq_some_iff.1 hf
    have hfirst : f ∈ sorted := List.mem_of_mem_take (by rw [hrest]; exact List.mem_cons_self)
    refine ⟨(hmem f).1 hfirst, fun r hr => ?_⟩
    rw [← List.take_append_drop n sorted, hrest, List.cons_append] at hsorted hmem
    rcases List.mem_cons.1 ((hmem r).2 hr) with rfl | hr
    · exact le_rfl
    · exact (List.pairwise_cons.1 hsorted).1 r hr
  · obtain ⟨init, hinit⟩ := List.getLast?_eq_some_iff.1 hg
    have hsize : init.length + 1 = min n rows.length := by
      rw [← hlen, ← List.length_take, hinit, List.length_append, List.length_singleton]
    rw [← List.take_append_drop n sorted, hinit] at hsorted hmem hcount
    obtain ⟨htaken, -, hrest⟩ := List.pairwise_append.1 hsorted
    have hbefore : ∀ r ∈ init, key r ≤ key g := fun r hr =>
      (List.pairwise_append.1 htaken).2.2 r hr g List.mem_cons_self
    have hafter : ∀ r ∈ sorted.drop n, key g ≤ key r := fun r hr => hrest g (by simp) r hr
    refine ⟨(hmem g).1 (by simp), ?_, ?_⟩
    · have hnil : (sorted.drop n).filter (fun r => key r < key g) = [] :=
        List.filter_eq_nil_iff.2 (fun r hr => by simpa using hafter r hr)
      have hle := List.length_filter_le (fun r => decide (key r < key g)) init
      rw [← hcount, List.filter_append, List.filter_append, hnil]
      simp only [List.filter_cons, lt_irrefl, decide_false, Bool.false_eq_true, if_false, List.filter_nil,
        List.append_nil]
      omega
    · have hall : init.filter (fun r => key r ≤ key g) = init :=
        List.filter_eq_self.2 (fun r hr => by simpa using hbefore r hr)
      rw [← hcount, List.filter_append, List.filter_append, hall]
      simp only [List.filter_cons, le_refl, decide_true, if_true, List.filter_nil, List.length_append,
        List.length_singleton]
      omega

/-- **Any two rows, one that leads and one that closes, are the ends of some page.** -/
theorem exists_page_ends [DecidableEq ρ] (hn : 2 ≤ n) (hf : Leads key rows f) (hg : Closes key n rows g) (hne : f ≠ g) :
    ∃ o : RowOrder, (o.page (fun a b => key a ≤ key b) (some n) rows).head? = some f ∧
      (o.page (fun a b => key a ≤ key b) (some n) rows).getLast? = some g := by
  obtain ⟨hfmem, hfirst⟩ := hf
  obtain ⟨hgmem, hbelow, hupto⟩ := hg
  -- The other rows sorted, with `f` first; `g` goes in where the page ends.
  have hfg : f ∈ rows.erase g := (List.mem_erase_of_ne hne).2 hfmem
  have hperm : (f :: (rows.erase g).erase f).Perm (rows.erase g) := (List.perm_cons_erase hfg).symm
  obtain ⟨others, hothers, hsorted, hhead⟩ : ∃ others : List ρ, others.Perm (rows.erase g) ∧
      others.Pairwise (fun a b => key a ≤ key b) ∧ ∃ rest, others = f :: rest := by
    refine ⟨f :: ((rows.erase g).erase f).insertionSort (fun a b => key a ≤ key b),
      ((List.perm_insertionSort _ _).cons f).trans hperm, ?_, _, rfl⟩
    refine List.pairwise_cons.2 ⟨fun r hr => ?_, ?_⟩
    · rw [List.mem_insertionSort] at hr
      exact hfirst r (List.mem_of_mem_erase (List.mem_of_mem_erase hr))
    · exact asStored.pairwise_sorted _ _
  obtain ⟨rest, rfl⟩ := hhead
  have hrows : rows.Perm (g :: f :: rest) := (List.perm_cons_erase hgmem).trans (hothers.symm.cons g)
  have hlen : rows.length = rest.length + 2 := hrows.length_eq
  obtain ⟨k, hk⟩ : ∃ k, min n rows.length = k + 2 := ⟨min n rows.length - 2, by omega⟩
  have hlow : ((f :: rest).filter (fun r => key r < key g)).length ≤ k + 1 := by
    have hle := List.length_filter_le (fun r => decide (key r < key g)) (f :: rest)
    rw [(hrows.filter _).length_eq, List.filter_cons_of_neg (by simp)] at hbelow
    rw [List.length_cons] at hle
    omega
  have hhigh : k + 1 ≤ ((f :: rest).filter (fun r => key r ≤ key g)).length := by
    rw [(hrows.filter _).length_eq, List.filter_cons_of_pos (by simp), List.length_cons] at hupto
    omega
  have hbefore := le_of_mem_take hsorted hhigh
  have hafter := le_of_mem_drop hsorted hlow
  have hpage : ((f :: rest).take (k + 1) ++ g :: (f :: rest).drop (k + 1)).Pairwise (fun a b => key a ≤ key b) := by
    refine List.pairwise_append.2 ⟨hsorted.sublist (List.take_sublist _ _),
      List.pairwise_cons.2 ⟨hafter, hsorted.sublist (List.drop_sublist _ _)⟩, fun r hr r' hr' => ?_⟩
    rcases List.mem_cons.1 hr' with rfl | hr'
    · exact hbefore r hr
    · exact (hbefore r hr).trans (hafter r' hr')
  have hall : ((f :: rest).take (k + 1) ++ g :: (f :: rest).drop (k + 1)).Perm rows := by
    refine List.perm_middle.trans ?_
    rw [List.take_append_drop]
    exact hrows.symm
  obtain ⟨o, ho⟩ := exists_order_eq hall
  have hlast : (g :: (f :: rest).drop (k + 1)).take (n - (k + 1)) = [g] := by
    obtain ⟨j, hj⟩ : ∃ j, n - (k + 1) = j + 1 := ⟨n - (k + 1) - 1, by omega⟩
    rw [hj, List.take_succ_cons, List.cons_inj_right, List.take_eq_nil_iff]
    rcases Nat.eq_zero_or_pos j with hj0 | hj0
    · exact Or.inl hj0
    · exact Or.inr (List.drop_eq_nil_of_le (by rw [List.length_cons]; omega))
  have hends : o.page (fun a b => key a ≤ key b) (some n) rows = (f :: rest).take (k + 1) ++ [g] := by
    rw [page_eq, ho, hpage.insertionSort_eq, List.take_append, List.take_take, List.length_take, List.length_cons,
      min_eq_right (by omega : k + 1 ≤ n), min_eq_left (by omega : k + 1 ≤ rest.length + 1), hlast]
  exact ⟨o, by rw [hends]; rfl, by rw [hends]; exact List.getLast?_concat⟩

end RowOrder
end Lib
