import KrishiBazaar.Lib.Rest
/-!
# StableSort — the first entries of a stable sort, judged by another key

A list is sorted by one key, ties left as they were, and cut off after `k` entries, where another key was meant.  What is
left is the beginning of a list sorted by the second key exactly when no entry that is left in has one before it, in the
second key, among those that come after it (`exists_sorted_take_iff`).  Which entries are left in, and which come after,
can be said of the list before it was sorted (`sorted_place`), so the agreement can be too (`stableSort_take_iff`).
-/
namespace Lib

variable {ρ κ τ : Type} [LinearOrder κ] [LinearOrder τ]

theorem countP_lt_add_countP_eq (key : ρ → κ) (c : κ) : ∀ l : List ρ,
    l.countP (fun r => c < key r) + l.countP (fun r => key r = c) = l.countP (fun r => c ≤ key r)
  | [] => rfl
  | a :: l => by
    have ih := countP_lt_add_countP_eq key c l
    simp only [List.countP_cons, decide_eq_true_eq]
    rcases lt_trichotomy c (key a) with h | h | h
    · simp only [h, h.ne', h.le, if_true, if_false]
      omega
    · simp only [← h, lt_irrefl, le_refl, if_true, if_false]
      omega
    · simp only [not_lt.2 h.le, h.ne, not_le.2 h, if_false]
      omega

/-- Where an entry of a filtered list stands in the list. -/
theorem exists_of_filter_eq {p : ρ → Bool} {l a b : List ρ} {x : ρ} (h : l.filter p = a ++ x :: b) :
    ∃ pre post, l = pre ++ x :: post ∧ pre.filter p = a ∧ post.filter p = b := by
  obtain ⟨l₁, l₂, rfl, rfl, h₂⟩ := List.filter_eq_append_iff.1 h
  obtain ⟨m₁, m₂, rfl, hm₁, -, rfl⟩ := List.filter_eq_cons_iff.1 h₂
  have hnil : m₁.filter p = [] := List.filter_eq_nil_iff.2 hm₁
  exact ⟨l₁ ++ m₁, m₂, by rw [List.append_assoc], by rw [List.filter_append, hnil, List.append_nil], rfl⟩

/-- **The place of an entry in a sorted list**, said of a list of the same entries that has those of its key in the same
order: before it are the entries of a lower key and the earlier ones of its own. -/
theorem sorted_place {key : ρ → κ} {pre post pre' post' : List ρ} {x : ρ}
    (hsort : (pre ++ x :: post).Pairwise (fun a b => key a ≤ key b))
    (hperm : (pre ++ x :: post).Perm (pre' ++ x :: post'))
    (hpre : pre.filter (fun r => key r = key x) = pre'.filter (fun r => key r = key x))
    (hpost : post.filter (fun r => key r = key x) = post'.filter (fun r => key r = key x)) :
    pre.length = (pre' ++ x :: post').countP (fun r => key r < key x) + pre'.countP (fun r => key r = key x) ∧
      ∀ y, y ∈ post ↔ (y ∈ pre' ++ x :: post' ∧ key x < key y) ∨ (y ∈ post' ∧ key y = key x) := by
  obtain ⟨-, hrest, hcross⟩ := List.pairwise_append.1 hsort
  have hbefore : ∀ y ∈ pre, key y ≤ key x := fun y hy => hcross y hy x List.mem_cons_self
  have hafter : ∀ y ∈ post, key x ≤ key y := fun y hy => List.rel_of_pairwise_cons hrest hy
  constructor
  · have hlow : (x :: post).countP (fun r => key r < key x) = 0 := by
      refine List.countP_eq_zero.2 (fun y hy hlt => ?_)
      rcases List.mem_cons.1 hy with rfl | hy
      · exact absurd (of_decide_eq_true hlt) (lt_irrefl _)
      · exact absurd (of_decide_eq_true hlt) (not_lt.2 (hafter y hy))
    have hsplit : pre.length = pre.countP (fun r => key r < key x) + pre.countP (fun r => key r = key x) := by
      rw [List.length_eq_countP_add_countP (fun r => decide (key r < key x))]
      congr 1
      refine List.countP_congr (fun y hy => ?_)
      simp only [decide_eq_true_eq, not_lt]
      exact ⟨fun hge => le_antisymm (hbefore y hy) hge, fun heq => heq.ge⟩
    rw [hsplit, ← hperm.countP_eq, List.countP_append, hlow, Nat.add_zero, List.countP_eq_length_filter,
      List.countP_eq_length_filter, List.countP_eq_length_filter, hpre]
  · intro y
    have hequal : y ∈ post ∧ key y = key x ↔ y ∈ post' ∧ key y = key x := by
      have hmem : y ∈ post.filter (fun r => key r = key x) ↔ y ∈ post'.filter (fun r => key r = key x) := by rw [hpost]
      simpa only [List.mem_filter, decide_eq_true_eq] using hmem
    rw [← hequal]
    constructor
    · intro hy
      rcases (hafter y hy).lt_or_eq with hlt | heq
      · exact Or.inl ⟨hperm.mem_iff.1 (by simp [hy]), hlt⟩
      · exact Or.inr ⟨hy, heq.symm⟩
    · rintro (⟨hy, hlt⟩ | ⟨hy, -⟩)
      · rcases List.mem_append.1 (hperm.mem_iff.2 hy) with hmem | hmem
        · exact absurd hlt (not_lt.2 (hbefore y hmem))
        · rcases List.mem_cons.1 hmem with rfl | hmem
          · exact absurd hlt (lt_irrefl _)
          · exact hmem
      · exact hy

theorem pairwise_iff_splits {R : ρ → ρ → Prop} : ∀ {l : List ρ},
    l.Pairwise R ↔ ∀ pre x post, l = pre ++ x :: post → ∀ y ∈ post, R x y
  | [] => by simp
  | a :: l => by
    rw [List.pairwise_cons, pairwise_iff_splits]
    constructor
    · rintro ⟨ha, hl⟩ pre x post heq y hy
      cases pre with
      | nil =>
        obtain ⟨rfl, rfl⟩ := List.cons.inj heq
        exact ha y hy
      | cons b pre => exact hl pre x post (List.cons.inj heq).2 y hy
    · intro h
      exact ⟨h [] a l rfl, fun pre x post heq => h (a :: pre) x post (by rw [heq, List.cons_append])⟩

/-- **A cut-off list begins some sorted list of its entries** exactly when nothing it leaves in has to come after what
follows. -/
theorem exists_sorted_take_iff (key : ρ → τ) (l : List ρ) (k : Nat) :
    (∃ o : List ρ, o.Perm l ∧ o.Pairwise (fun a b => key a ≤ key b) ∧ o.take k = l.take k) ↔
      ∀ pre x post, l = pre ++ x :: post → pre.length < k → ∀ y ∈ post, key x ≤ key y := by
  constructor
  · rintro ⟨o, hperm, hsort, htake⟩ pre x post hl hk y hy
    have hdrop : (o.drop k).Perm (l.drop k) := by
      have h := hperm
      rw [← List.take_append_drop k o, ← List.take_append_drop k l, htake] at h
      exact (List.perm_append_left_iff _).1 h
    obtain ⟨n, rfl⟩ : ∃ n, k = pre.length + (n + 1) := ⟨k - pre.length - 1, by omega⟩
    have hin : l.take (pre.length + (n + 1)) = pre ++ x :: post.take n := by
      rw [hl, List.take_length_add_append, List.take_succ_cons]
    have hout : l.drop (pre.length + (n + 1)) = post.drop n := by
      rw [hl, List.drop_length_add_append, List.drop_succ_cons]
    rw [← List.take_append_drop (pre.length + (n + 1)) o, htake, hin, List.append_assoc, List.cons_append] at hsort
    refine List.rel_of_pairwise_cons (List.pairwise_append.1 hsort).2.1 ?_
    rw [hout] at hdrop
    rw [List.mem_append, hdrop.mem_iff, ← List.mem_append, List.take_append_drop]
    exact hy
  · intro h
    refine ⟨l.take k ++ (l.drop k).insertionSort (fun a b => key a ≤ key b), ?_, ?_, ?_⟩
    · conv_rhs => rw [← List.take_append_drop k l]
      exact (List.perm_insertionSort _ _).append_left _
    · have hcut : ∀ pre x post, l.take k = pre ++ x :: post → ∀ y ∈ post ++ l.drop k, key x ≤ key y := by
        intro pre x post htake
        refine h pre x _ ?_ ?_
        · conv_lhs => rw [← List.take_append_drop k l, htake]
          rw [List.append_assoc, List.cons_append]
        · have hlen := congrArg List.length htake
          simp only [List.length_take, List.length_append, List.length_cons] at hlen
          omega
      refine List.pairwise_append.2 ⟨?_, List.pairwise_insertionSort _ _, ?_⟩
      · exact pairwise_iff_splits.2 (fun pre x post htake y hy => hcut pre x post htake y (List.mem_append_left _ hy))
      · intro x hx y hy
        obtain ⟨pre, post, htake⟩ := List.append_of_mem hx
        exact hcut pre x post htake y (List.mem_append_right _ ((List.mem_insertionSort _).1 hy))
    · rcases Nat.le_total k l.length with hle | hle
      · exact List.take_left' (List.length_take_of_le hle)
      · rw [List.drop_eq_nil_of_le hle, List.insertionSort_nil, List.append_nil, List.take_take, Nat.min_self]

/-- **A stable sort by one key, cut off, begins a list sorted by another** exactly when each entry it leaves in is
before, in the other key, all that are above it in the first and those of its own that came after it. -/
theorem stableSort_take_iff (key : ρ → κ) (wanted : ρ → τ) (l : List ρ) (k : Nat) :
    (∃ o : List ρ, o.Perm l ∧ o.Pairwise (fun a b => wanted a ≤ wanted b) ∧
      o.take k = (l.insertionSort (fun a b => key a ≤ key b)).take k) ↔
      ∀ pre x post, l = pre ++ x :: post →
        l.countP (fun r => key r < key x) + pre.countP (fun r => key r = key x) < k →
        (∀ y ∈ l, key x < key y → wanted x ≤ wanted y) ∧ (∀ y ∈ post, key y = key x → wanted x ≤ wanted y) := by
  have hperm := List.perm_insertionSort (fun a b => key a ≤ key b) l
  have hsort := List.pairwise_insertionSort (fun a b => key a ≤ key b) l
  have hstable := filter_insertionSort key (l := l)
  generalize l.insertionSort (fun a b => key a ≤ key b) = sorted at hperm hsort hstable
  have hfirst : (∃ o : List ρ, o.Perm l ∧ o.Pairwise (fun a b => wanted a ≤ wanted b) ∧ o.take k = sorted.take k) ↔
      ∃ o : List ρ, o.Perm sorted ∧ o.Pairwise (fun a b => wanted a ≤ wanted b) ∧ o.take k = sorted.take k :=
    exists_congr (fun o => and_congr_left' ⟨fun h => h.trans hperm.symm, fun h => h.trans hperm⟩)
  rw [hfirst, exists_sorted_take_iff]
  constructor
  · rintro h pre' x post' rfl hk
    have hfilter := hstable (key x)
    rw [List.filter_append, List.filter_cons_of_pos (by simp)] at hfilter
    obtain ⟨pre, post, rfl, hpre, hpost⟩ := exists_of_filter_eq hfilter
    obtain ⟨hlen, hmem⟩ := sorted_place hsort hperm hpre hpost
    have hafter := h pre x post rfl (hlen ▸ hk)
    exact ⟨fun y hy hlt => hafter y ((hmem y).2 (Or.inl ⟨hy, hlt⟩)),
      fun y hy heq => hafter y ((hmem y).2 (Or.inr ⟨hy, heq⟩))⟩
  · rintro h pre x post rfl hk y hy
    have hfilter := (hstable (key x)).symm
    rw [List.filter_append, List.filter_cons_of_pos (by simp)] at hfilter
    obtain ⟨pre', post', rfl, hpre, hpost⟩ := exists_of_filter_eq hfilter
    obtain ⟨hlen, hmem⟩ := sorted_place hsort hperm hpre.symm hpost.symm
    obtain ⟨habove, hequal⟩ := h pre' x post' rfl (hlen ▸ hk)
    rcases (hmem y).1 hy with ⟨hin, hlt⟩ | ⟨hin, heq⟩
    · exact habove y hin hlt
    · exact hequal y hin heq

/-! ## One entry among others -/

/-- Two lists in the order of a key are one list if they have the same entries of each key. -/
theorem eq_of_filter_key {key : ρ → κ} : ∀ {l l' : List ρ}, l.Pairwise (fun a b => key a ≤ key b) →
    l'.Pairwise (fun a b => key a ≤ key b) →
    (∀ c, l.filter (fun r => key r = c) = l'.filter (fun r => key r = c)) → l = l'
  | [], [], _, _, _ => rfl
  | [], b :: l', _, _, h => by
    have hb := h (key b)
    simp at hb
  | a :: l, [], _, _, h => by
    have ha := h (key a)
    simp at ha
  | a :: l, b :: l', hl, hl', h => by
    have hnone : ∀ {x y : ρ} {xs ys : List ρ}, (y :: ys).Pairwise (fun a b => key a ≤ key b) →
        (x :: xs).filter (fun r => key r = key x) = (y :: ys).filter (fun r => key r = key x) → key y ≤ key x := by
      intro x y xs ys hys hx
      have hmem : x ∈ (y :: ys).filter (fun r => key r = key x) := hx ▸ List.mem_filter.2 ⟨List.mem_cons_self, by simp⟩
      rcases List.mem_cons.1 (List.mem_filter.1 hmem).1 with rfl | hin
      · exact le_rfl
      · exact List.rel_of_pairwise_cons hys hin
    have hkey : key a = key b := le_antisymm (hnone hl (h (key b)).symm) (hnone hl' (h (key a)))
    obtain rfl : a = b := by
      have ha := h (key a)
      rw [List.filter_cons_of_pos (by simp), List.filter_cons_of_pos (by simp [hkey])] at ha
      exact (List.cons.inj ha).1
    have htail : ∀ c, l.filter (fun r => key r = c) = l'.filter (fun r => key r = c) := by
      intro c
      have hc := h c
      by_cases hac : key a = c
      · rw [List.filter_cons_of_pos (by simp [hac]), List.filter_cons_of_pos (by simp [hac])] at hc
        exact (List.cons.inj hc).2
      · rwa [List.filter_cons_of_neg (by simp [hac]), List.filter_cons_of_neg (by simp [hac])] at hc
    rw [eq_of_filter_key hl.of_cons hl'.of_cons htail]

/-- **The place of an entry among the others**, which are sorted without it as with it. -/
theorem insertionSort_place (key : ρ → κ) (pre post : List ρ) (x : ρ) : ∃ before after,
    (pre ++ x :: post).insertionSort (fun a b => key a ≤ key b) = before ++ x :: after ∧
    before ++ after = (pre ++ post).insertionSort (fun a b => key a ≤ key b) ∧
    before.length = (pre ++ post).countP (fun r => key r < key x) + pre.countP (fun r => key r = key x) := by
  have hperm := List.perm_insertionSort (fun a b => key a ≤ key b) (pre ++ x :: post)
  have hsort := List.pairwise_insertionSort (fun a b => key a ≤ key b) (pre ++ x :: post)
  have hstable := fun c => filter_insertionSort key c (pre ++ x :: post)
  generalize (pre ++ x :: post).insertionSort (fun a b => key a ≤ key b) = sorted at hperm hsort hstable
  have hx := hstable (key x)
  rw [List.filter_append, List.filter_cons_of_pos (by simp)] at hx
  obtain ⟨before, after, rfl, hbefore, hafter⟩ := exists_of_filter_eq hx
  obtain ⟨hlen, -⟩ := sorted_place hsort hperm hbefore hafter
  refine ⟨before, after, rfl, ?_, ?_⟩
  · refine eq_of_filter_key (hsort.sublist ((List.sublist_cons_self x after).append_left before))
      (List.pairwise_insertionSort _ _) (fun c => ?_)
    rw [filter_insertionSort, List.filter_append, List.filter_append]
    by_cases hc : key x = c
    · subst hc
      rw [hbefore, hafter]
    · have hrest := hstable c
      rw [List.filter_append, List.filter_append, List.filter_cons_of_neg (by simp [hc]),
        List.filter_cons_of_neg (by simp [hc])] at hrest
      exact hrest
  · rw [hlen, List.countP_append, List.countP_cons_of_neg (by simp), ← List.countP_append]

/-- **An entry whose key falls moves forward past others, and nothing else moves.** -/
theorem insertionSort_replace (key : ρ → κ) (pre post : List ρ) {x y : ρ} (h : key y ≤ key x) :
    ∃ before after before' after',
      (pre ++ x :: post).insertionSort (fun a b => key a ≤ key b) = before ++ x :: after ∧
      (pre ++ y :: post).insertionSort (fun a b => key a ≤ key b) = before' ++ y :: after' ∧
      before ++ after = before' ++ after' ∧ before' <+: before := by
  obtain ⟨before, after, hx, hrest, hlen⟩ := insertionSort_place key pre post x
  obtain ⟨before', after', hy, hrest', hlen'⟩ := insertionSort_place key pre post y
  have hle : before'.length ≤ before.length := by
    rw [hlen, hlen']
    rcases h.lt_or_eq with hlt | heq
    · have hequal : pre.countP (fun r => key r = key y) ≤ (pre ++ post).countP (fun r => key r = key y) := by
        rw [List.countP_append]
        exact Nat.le_add_right _ _
      have hbelow : (pre ++ post).countP (fun r => key r ≤ key y) ≤ (pre ++ post).countP (fun r => key r < key x) :=
        List.countP_mono_left (fun r _ hr => decide_eq_true ((of_decide_eq_true hr).trans_lt hlt))
      have hsplit : (pre ++ post).countP (fun r => key r < key y) + (pre ++ post).countP (fun r => key r = key y)
          = (pre ++ post).countP (fun r => key r ≤ key y) :=
        @countP_lt_add_countP_eq ρ κᵒᵈ _ (fun r => OrderDual.toDual (key r)) (OrderDual.toDual (key y)) _
      omega
    · rw [heq]
  refine ⟨before, after, before', after', hx, hy, hrest.trans hrest'.symm, ?_⟩
  exact List.prefix_of_prefix_length_le ⟨after', rfl⟩ ⟨after, hrest.trans hrest'.symm⟩ hle

/-- The first of the entries whose key is the greatest. -/
theorem exists_first_max (key : ρ → κ) : ∀ {l : List ρ}, l ≠ [] →
    ∃ pre x post, l = pre ++ x :: post ∧ (∀ y ∈ l, key y ≤ key x) ∧ ∀ y ∈ pre, key y < key x
  | [], h => absurd rfl h
  | [a], _ => ⟨[], a, [], rfl, by simp, by simp⟩
  | a :: b :: l, _ => by
    obtain ⟨pre, x, post, hl, hmax, hpre⟩ := exists_first_max key (List.cons_ne_nil b l)
    rcases le_or_gt (key x) (key a) with hle | hlt
    · refine ⟨[], a, b :: l, rfl, fun y hy => ?_, by simp⟩
      rcases List.mem_cons.1 hy with rfl | hy
      · exact le_rfl
      · exact (hmax y hy).trans hle
    · refine ⟨a :: pre, x, post, by rw [hl, List.cons_append], fun y hy => ?_, fun y hy => ?_⟩
      · rcases List.mem_cons.1 hy with rfl | hy
        · exact hlt.le
        · exact hmax y hy
      · rcases List.mem_cons.1 hy with rfl | hy
        · exact hlt
        · exact hpre y hy

/-- An order of what a list is mapped to, entries left out, comes from an order of the list. -/
theorem exists_perm_filterMap {α β : Type} {f : α → Option β} : ∀ {o : List β} {l : List α}, o.Perm (l.filterMap f) →
    ∃ l' : List α, l'.Perm l ∧ l'.filterMap f = o
  | [], l, h => ⟨l, List.Perm.refl l, h.symm.eq_nil⟩
  | b :: o, l, h => by
    obtain ⟨a, ha, hb⟩ := List.mem_filterMap.1 (h.subset List.mem_cons_self)
    obtain ⟨pre, post, rfl⟩ := List.append_of_mem ha
    have hrest : o.Perm ((pre ++ post).filterMap f) := by
      have hmid : (pre ++ a :: post).Perm (a :: (pre ++ post)) := List.perm_middle
      have hall := h.trans (hmid.filterMap f)
      rw [List.filterMap_cons_some hb] at hall
      exact hall.cons_inv
    obtain ⟨l', hperm, hmap⟩ := exists_perm_filterMap hrest
    exact ⟨a :: l', (hperm.cons a).trans List.perm_middle.symm, by rw [List.filterMap_cons_some hb, hmap]⟩

end Lib
