import KrishiBazaar.Lib.Rest
import Mathlib.Data.List.Flatten
/-!
# Upserts — batches sent to a keyed table, over a line that may fail

A client upserts batches one after the other.  A batch that is answered was taken as a whole; one that is not was taken
as a whole or not at all, and the client cannot tell.  Whatever is lost, each key ends with the last row that was taken
for it (`Sends.exists_taken`).  So batches may be sent again: if some arrive, and later all of a set of batches that has
their keys, the table is as if only the latter had been sent (`Sends.again`).  And batches that come between others do to
the rows of their kind what they do alone (`Sends.alone`).
-/
namespace Lib

section LastOf

variable {ρ κ : Type} [DecidableEq κ] {key : ρ → κ} {k : κ} {l l' : List ρ}

/-- The last row of a key. -/
def lastOf (key : ρ → κ) (k : κ) (l : List ρ) : Option ρ := l.reverse.find? (fun r => key r = k)

theorem lastOf_append : lastOf key k (l ++ l') = (lastOf key k l').or (lastOf key k l) := by
  unfold lastOf
  rw [List.reverse_append, List.find?_append]

theorem lastOf_eq_none : lastOf key k l = none ↔ k ∉ l.map key := by
  unfold lastOf
  rw [List.find?_eq_none]
  simp

/-- Rows of different keys are each the last of its key. -/
theorem lastOf_of_nodup (hnd : (l.map key).Nodup) : lastOf key k l = l.find? (fun r => key r = k) :=
  Table.find?_key_perm hnd l.reverse_perm k

end LastOf

section Sends

variable {DB ρ κ : Type} {key : ρ → κ} {check : ρ → Bool} [DecidableEq κ] (t : Tab DB key check)

/-- **Batches on their way**: each with whether it was answered. -/
inductive Sends : DB → List (List ρ × Bool) → DB → Prop
  | nil {db : DB} : Sends db [] db
  | answered {db db' db'' : DB} {rows : List ρ} {rest : List (List ρ × Bool)} (h : t.upsert? db rows = .ok db')
      (hrest : Sends db' rest db'') : Sends db ((rows, true) :: rest) db''
  | unanswered {db db' db'' : DB} {rows : List ρ} {rest : List (List ρ × Bool)}
      (h : db' = db ∨ t.upsert? db rows = .ok db') (hrest : Sends db' rest db'') :
      Sends db ((rows, false) :: rest) db''

variable {t} {db db' db'' : DB}

theorem get?_upsert? {rows : List ρ} (h : t.upsert? db rows = .ok db') (k : κ) :
    (t.get db').get? k = (lastOf key k rows).or ((t.get db).get? k) := by
  obtain ⟨hnd, tbl, rfl, hget⟩ := Tab.upsert?_ok h
  rw [t.get_set, hget, lastOf_of_nodup hnd]

/-- **What is taken of what is sent**: some of the batches, the answered ones among them, and of each key the last row. -/
theorem Sends.exists_taken : ∀ {sent : List (List ρ × Bool)} {db db' : DB}, Sends t db sent db' →
    ∃ taken, taken.Sublist (sent.map (·.1)) ∧ (((sent.filter (·.2)).map (·.1)).Sublist taken) ∧
      ∀ k, (t.get db').get? k = (lastOf key k taken.flatten).or ((t.get db).get? k)
  | [], db, _, .nil => ⟨[], .refl _, .refl _, fun _ => rfl⟩
  | (rows, true) :: sent, db, db'', .answered h hrest => by
    obtain ⟨taken, hsub, hall, hget⟩ := hrest.exists_taken
    refine ⟨rows :: taken, hsub.cons_cons rows, hall.cons_cons rows, fun k => ?_⟩
    rw [hget, get?_upsert? h, List.flatten_cons, lastOf_append, Option.or_assoc]
  | (rows, false) :: sent, db, db'', .unanswered h hrest => by
    obtain ⟨taken, hsub, hall, hget⟩ := hrest.exists_taken
    rcases h with rfl | h
    · exact ⟨taken, hsub.cons rows, hall, hget⟩
    · refine ⟨rows :: taken, hsub.cons_cons rows, hall.cons rows, fun k => ?_⟩
      rw [hget, get?_upsert? h, List.flatten_cons, lastOf_append, Option.or_assoc]

/-- If all is answered, all is taken. -/
theorem Sends.get?_all {sent : List (List ρ × Bool)} (h : Sends t db sent db') (hall : ∀ b ∈ sent, b.2 = true) (k : κ) :
    (t.get db').get? k = (lastOf key k (sent.map (·.1)).flatten).or ((t.get db).get? k) := by
  obtain ⟨taken, hsub, htaken, hget⟩ := h.exists_taken
  rw [List.filter_eq_self.2 hall] at htaken
  rw [hget, hsub.antisymm htaken]

theorem put?_total (tbl : Table key check) {r : ρ} :
    (∃ tbl', t.put? db tbl r = .ok tbl') ↔ check r = true ∧ t.refs db r = true := by
  unfold Tab.put?
  constructor
  · rintro ⟨tbl', h⟩
    split at h
    · rename_i hc
      split at h
      · rename_i hr
        exact ⟨hc, hr⟩
      · cases h
    · cases h
  · rintro ⟨hc, hr⟩
    rw [dif_pos hc, if_pos hr]
    exact ⟨_, rfl⟩

theorem foldlM_put?_total : ∀ {rows : List ρ} (tbl : Table key check),
    (∃ tbl', rows.foldlM (t.put? db) tbl = .ok tbl') ↔ ∀ r ∈ rows, check r = true ∧ t.refs db r = true
  | [], tbl => ⟨fun _ r hr => absurd hr List.not_mem_nil, fun _ => ⟨tbl, rfl⟩⟩
  | r :: rows, tbl => by
    rw [List.forall_mem_cons, ← put?_total tbl]
    constructor
    · rintro ⟨tbl', h⟩
      rw [List.foldlM_cons, bind_ok] at h
      obtain ⟨tbl₁, hput, hrun⟩ := h
      exact ⟨⟨tbl₁, hput⟩, (foldlM_put?_total _).1 ⟨tbl', hrun⟩⟩
    · rintro ⟨⟨tbl₁, hput⟩, hrest⟩
      obtain ⟨tbl', hrun⟩ := (foldlM_put?_total tbl₁).2 hrest
      exact ⟨tbl', by rw [List.foldlM_cons, hput]; exact hrun⟩

/-- **Which batches are taken**, whatever rows are there. -/
theorem upsert?_total {rows : List ρ} : (∃ db', t.upsert? db rows = .ok db') ↔
    (rows.map key).Nodup ∧ ∀ r ∈ rows, check r = true ∧ t.refs db r = true := by
  unfold Tab.upsert?
  by_cases hnd : (rows.map key).Nodup
  · rw [if_pos hnd, ← foldlM_put?_total (t.get db)]
    constructor
    · rintro ⟨db', h⟩
      cases hrun : rows.foldlM (t.put? db) (t.get db) with
      | error e =>
        rw [hrun] at h
        cases h
      | ok tbl => exact ⟨hnd, tbl, rfl⟩
    · rintro ⟨-, tbl, hrun⟩
      rw [hrun]
      exact ⟨_, rfl⟩
  · rw [if_neg hnd]
    constructor
    · rintro ⟨db', h⟩
      cases h
    · exact fun h => absurd h.1 hnd

/-- Batches that can all be taken are. -/
theorem exists_sends {refs : ρ → Bool} (hrefs : ∀ db, t.refs db = refs) : ∀ (sent : List (List ρ × Bool)),
    (∀ b ∈ sent, (b.1.map key).Nodup ∧ ∀ r ∈ b.1, check r = true ∧ refs r = true) → ∀ db, ∃ db', Sends t db sent db'
  | [], _, db => ⟨db, .nil⟩
  | (rows, b) :: sent, h, db => by
    obtain ⟨⟨hnd, hrows⟩, hsent⟩ := List.forall_mem_cons.1 h
    obtain ⟨db₁, h₁⟩ := upsert?_total.2 ⟨hnd, fun r hr => ⟨(hrows r hr).1, (congrFun (hrefs db) r).trans (hrows r hr).2⟩⟩
    obtain ⟨db₂, h₂⟩ := exists_sends hrefs sent hsent db₁
    cases b with
    | true => exact ⟨db₂, .answered h₁ h₂⟩
    | false => exact ⟨db₂, .unanswered (Or.inr h₁) h₂⟩

theorem upsert?_follow (hrefs : ∀ db db' r, t.refs db r = t.refs db' r) {P : κ → Prop} {rows : List ρ} {db₁ : DB}
    (h : t.upsert? db rows = .ok db') (hsame : ∀ k, P k → (t.get db).get? k = (t.get db₁).get? k) :
    ∃ db₁', t.upsert? db₁ rows = .ok db₁' ∧ ∀ k, P k → (t.get db').get? k = (t.get db₁').get? k := by
  obtain ⟨hnd, hrows⟩ := upsert?_total.1 ⟨_, h⟩
  obtain ⟨db₁', h₁⟩ := upsert?_total.2 ⟨hnd, fun r hr => ⟨(hrows r hr).1, hrefs db db₁ r ▸ (hrows r hr).2⟩⟩
  exact ⟨db₁', h₁, fun k hk => by rw [get?_upsert? h, get?_upsert? h₁, hsame k hk]⟩

/-- **Batches do to a kind of row what they do elsewhere**, if there are the same of the kind there. -/
theorem Sends.follow (hrefs : ∀ db db' r, t.refs db r = t.refs db' r) (P : κ → Prop) :
    ∀ {sent : List (List ρ × Bool)} {db db' : DB}, Sends t db sent db' →
      ∀ db₁, (∀ k, P k → (t.get db).get? k = (t.get db₁).get? k) →
        ∃ db₁', Sends t db₁ sent db₁' ∧ ∀ k, P k → (t.get db').get? k = (t.get db₁').get? k
  | [], _, _, .nil, db₁, hsame => ⟨db₁, .nil, hsame⟩
  | (rows, true) :: sent, db, db'', .answered h hrest, db₁, hsame => by
    obtain ⟨db₂, h₂, hsame₂⟩ := upsert?_follow hrefs h hsame
    obtain ⟨db₃, h₃, hsame₃⟩ := hrest.follow hrefs P db₂ hsame₂
    exact ⟨db₃, .answered h₂ h₃, hsame₃⟩
  | (rows, false) :: sent, db, db'', .unanswered h hrest, db₁, hsame => by
    rcases h with rfl | h
    · obtain ⟨db₂, h₂, hsame₂⟩ := hrest.follow hrefs P db₁ hsame
      exact ⟨db₂, .unanswered (Or.inl rfl) h₂, hsame₂⟩
    · obtain ⟨db₂, h₂, hsame₂⟩ := upsert?_follow hrefs h hsame
      obtain ⟨db₃, h₃, hsame₃⟩ := hrest.follow hrefs P db₂ hsame₂
      exact ⟨db₃, .unanswered (Or.inr h₂) h₃, hsame₃⟩

/-- Batches without a row of a kind leave the kind alone. -/
theorem Sends.get?_other {sent : List (List ρ × Bool)} (h : Sends t db sent db') {k : κ}
    (hk : k ∉ (sent.map (·.1)).flatten.map key) : (t.get db').get? k = (t.get db).get? k := by
  obtain ⟨taken, hsub, -, hget⟩ := h.exists_taken
  have hnone : lastOf key k taken.flatten = none :=
    lastOf_eq_none.2 (fun hmem => hk ((hsub.flatten.map key).subset hmem))
  rw [hget, hnone, Option.none_or]

theorem Sends.split : ∀ {sent sent' : List (List ρ × Bool)} {db db' : DB}, Sends t db (sent ++ sent') db' →
    ∃ db₁, Sends t db sent db₁ ∧ Sends t db₁ sent' db'
  | [], _, db, _, h => ⟨db, .nil, h⟩
  | (_, true) :: _, _, _, _, .answered h hrest => by
    obtain ⟨db₁, h₁, h₂⟩ := hrest.split
    exact ⟨db₁, .answered h h₁, h₂⟩
  | (_, false) :: _, _, _, _, .unanswered h hrest => by
    obtain ⟨db₁, h₁, h₂⟩ := hrest.split
    exact ⟨db₁, .unanswered h h₁, h₂⟩

/-- **Of many batches, those of a kind do what they do alone** to what is of the kind. -/
theorem Sends.alone (hrefs : ∀ db db' r, t.refs db r = t.refs db' r) (P : κ → Prop)
    {before mine after : List (List ρ × Bool)} (h : Sends t db (before ++ (mine ++ after)) db')
    (hbefore : ∀ r ∈ (before.map (·.1)).flatten, ¬ P (key r)) (hafter : ∀ r ∈ (after.map (·.1)).flatten, ¬ P (key r)) :
    ∃ db'', Sends t db mine db'' ∧ ∀ k, P k → (t.get db').get? k = (t.get db'').get? k := by
  have hnot : ∀ {rows : List ρ} {k : κ}, (∀ r ∈ rows, ¬ P (key r)) → P k → k ∉ rows.map key := by
    intro rows k hrows hk hmem
    obtain ⟨r, hr, rfl⟩ := List.mem_map.1 hmem
    exact hrows r hr hk
  obtain ⟨db₁, h₁, h⟩ := h.split
  obtain ⟨db₂, h₂, h₃⟩ := h.split
  obtain ⟨db'', h'', hsame⟩ := h₂.follow hrefs P db (fun k hk => h₁.get?_other (hnot hbefore hk))
  exact ⟨db'', h'', fun k hk => (h₃.get?_other (hnot hafter hk)).trans (hsame k hk)⟩

/-- **Sending again is safe.**  Batches arrive or not, and then others that have all their keys: the latter are taken just
as if they were the first, and leave the same rows. -/
theorem Sends.again (hrefs : ∀ db db' r, t.refs db r = t.refs db' r) {sent resent : List (List ρ × Bool)}
    {db₁ db₃ : DB} (h : Sends t db sent db₁)
    (hkeys : ∀ r ∈ (sent.map (·.1)).flatten, key r ∈ (resent.map (·.1)).flatten.map key)
    (hall : ∀ b ∈ resent, b.2 = true) (honce : Sends t db resent db₃) :
    ∃ db₂, Sends t db₁ resent db₂ ∧ ∀ k, (t.get db₂).get? k = (t.get db₃).get? k := by
  obtain ⟨db₂, h₂, -⟩ := honce.follow hrefs (fun _ => False) db₁ (fun _ hk => hk.elim)
  refine ⟨db₂, h₂, fun k => ?_⟩
  rw [h₂.get?_all hall, honce.get?_all hall]
  cases hlast : lastOf key k (resent.map (·.1)).flatten with
  | some r => rfl
  | none =>
    -- no row of the key was sent before either
    rw [Option.none_or, Option.none_or]
    refine h.get?_other (fun hmem => lastOf_eq_none.1 hlast ?_)
    obtain ⟨r, hr, rfl⟩ := List.mem_map.1 hmem
    exact hkeys r hr

end Sends
end Lib
