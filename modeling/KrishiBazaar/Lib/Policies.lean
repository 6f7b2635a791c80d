import KrishiBazaar.Lib.Rest
/-!
# Policies — tables with row security

A client that speaks to the store itself may do to a row what some policy of its table lets it.  A policy names a command,
the rows the command may touch (`usingExpr`) and the rows it may leave (`withCheck`, or the former when there is none); a
table without a policy for a command refuses it.  A statement that reads a row, in a condition or to return it, needs a
policy for that too.

The proof rule is by foreign rows.  Rows that no policy lets a client write (`Foreign`) are after each of its statements
as they were before (`exec_keeps`), and rows that no policy lets it read are in no answer (`mem_shown`).
-/
namespace Lib

inductive PolicyCmd
  | select | insert | update | delete | all
  deriving DecidableEq, Repr

/-- A permissive policy, of what a `Who` may do. -/
structure Policy (Who ρ : Type) where
  cmd : PolicyCmd
  usingExpr : Option (Who → ρ → Bool)
  withCheck : Option (Who → ρ → Bool)

section Policies

variable {Who ρ : Type}

/-- Some policy lets the command touch the row. -/
def touches (ps : List (Policy Who ρ)) (cmd : PolicyCmd) (who : Who) (r : ρ) : Bool :=
  ps.any (fun p => (p.cmd = cmd ∨ p.cmd = .all) && p.usingExpr.any (fun e => e who r))

/-- Some policy lets the command leave the row. -/
def leaves (ps : List (Policy Who ρ)) (cmd : PolicyCmd) (who : Who) (r : ρ) : Bool :=
  ps.any (fun p => (p.cmd = cmd ∨ p.cmd = .all) && (p.withCheck.or p.usingExpr).any (fun e => e who r))

end Policies

/-- A table of a database with its policies, and what else a write must pass. -/
structure Secured (DB Who : Type) where
  Row : Type
  Key : Type
  key : Row → Key
  check : Row → Bool
  decEq : DecidableEq Key
  tab : Tab DB key check
  policies : List (Policy Who Row)
  /-- The trigger of an update lets the old row become the new one. -/
  trigger : Who → Row → Row → Bool
  /-- The constraints on several rows at once. -/
  constraint : List Row → Bool
  /-- Some row refers to this one, so that its key stays. -/
  pinsKey : DB → Row → Bool
  /-- Some row refers to this one, so that it stays. -/
  pinsRow : DB → Row → Bool
  /-- What becomes of the rows of other tables that referred to rows that are gone. -/
  onDelete : DB → List Row → DB
  get_onDelete : ∀ db gone, tab.get (onDelete db gone) = tab.get db

namespace Secured

variable {DB Who : Type} (T : Secured DB Who)

instance : DecidableEq T.Key := T.decEq

def rows (db : DB) : List T.Row := (T.tab.get db).rows

/-- A statement; `reading` says whether it reads the rows it writes. -/
inductive Call
  | select (p : T.Row → Bool)
  | insert (reading : Bool) (r : T.Row)
  | update (reading : Bool) (p : T.Row → Bool) (f : T.Row → T.Row)
  | delete (reading : Bool) (p : T.Row → Bool)

/-- The row may be read, if the statement reads. -/
def readable (who : Who) (reading : Bool) (r : T.Row) : Bool := !reading || touches T.policies .select who r

/-- The rows a statement selects among those its command may touch. -/
def hits (who : Who) (cmd : PolicyCmd) (reading : Bool) (p : T.Row → Bool) (r : T.Row) : Bool :=
  p r && touches T.policies cmd who r && T.readable who reading r

/-- Whether an update may make of the row what it makes of it. -/
def rewrites (who : Who) (db : DB) (reading : Bool) (f : T.Row → T.Row) (r : T.Row) : Bool :=
  T.trigger who r (f r) && leaves T.policies .update who (f r) && T.readable who reading (f r) && T.check (f r) &&
    T.tab.refs db (f r) && (T.key (f r) = T.key r || !T.pinsKey db r)

/-- A table of the given rows, if they meet the constraints. -/
def table? (l : List T.Row) : Option (Table T.key T.check) :=
  if h : (l.map T.key).Nodup ∧ (∀ r ∈ l, T.check r = true) ∧ T.constraint l = true then some ⟨l, h.1, h.2.1⟩ else none

/-- What a statement leaves, unless it is refused. -/
def exec (who : Who) (db : DB) : T.Call → Option DB
  | .select _ => some db
  | .insert reading r =>
    if leaves T.policies .insert who r && T.readable who reading r && T.tab.refs db r then
      (T.table? (T.rows db ++ [r])).map (T.tab.set db)
    else none
  | .update reading p f =>
    if ∀ r ∈ T.rows db, T.hits who .update reading p r = true → T.rewrites who db reading f r = true then
      (T.table? ((T.rows db).map (fun r => if T.hits who .update reading p r then f r else r))).map (T.tab.set db)
    else none
  | .delete reading p =>
    if ∀ r ∈ T.rows db, T.hits who .delete reading p r = true → T.pinsRow db r = false then
      (T.table? ((T.rows db).filter (fun r => !T.hits who .delete reading p r))).map
        (fun t => T.onDelete (T.tab.set db t) ((T.rows db).filter (T.hits who .delete reading p)))
    else none

/-- The rows an answer holds, if the statement is not refused. -/
def shown (who : Who) (db : DB) : T.Call → List T.Row
  | .select p => (T.rows db).filter (fun r => p r && touches T.policies .select who r)
  | .insert reading r => if reading then [r] else []
  | .update reading p f =>
    if reading then ((T.rows db).filter (T.hits who .update reading p)).map f else []
  | .delete reading p => if reading then (T.rows db).filter (T.hits who .delete reading p) else []

/-- No policy lets `who` write a row like this, or make one. -/
structure Foreign (who : Who) (own : T.Row → Bool) : Prop where
  insert : ∀ r, leaves T.policies .insert who r = true → own r = false
  touched : ∀ r, touches T.policies .update who r = true → own r = false
  left : ∀ r, leaves T.policies .update who r = true → own r = false
  delete : ∀ r, touches T.policies .delete who r = true → own r = false

variable {T} {who : Who} {db db' : DB} {own : T.Row → Bool} {c : T.Call}

theorem table?_rows {l : List T.Row} {t : Table T.key T.check} (h : T.table? l = some t) : t.rows = l := by
  unfold table? at h
  split at h
  · obtain rfl := Option.some.inj h
    rfl
  · cases h

/-- A write is a table of the rows it leaves, put in place. -/
theorem set_of_map {l : List T.Row} (h : (T.table? l).map (T.tab.set db) = some db') :
    ∃ t, db' = T.tab.set db t ∧ t.rows = l := by
  obtain ⟨t, ht, rfl⟩ := Option.map_eq_some_iff.1 h
  exact ⟨t, rfl, table?_rows ht⟩

theorem touches_of_hits {cmd : PolicyCmd} {reading : Bool} {p : T.Row → Bool} {r : T.Row}
    (h : T.hits who cmd reading p r = true) : touches T.policies cmd who r = true := by
  unfold hits at h
  simp only [Bool.and_eq_true] at h
  exact h.1.2

/-- **What a statement does**: nothing, or a new list of rows, each of which was there before or is one it may make, and
what follows where rows are gone. -/
inductive Writes (T : Secured DB Who) (who : Who) (db : DB) : DB → Prop
  | nothing : Writes T who db db
  | inserts {t : Table T.key T.check} {r : T.Row} (ht : t.rows = T.rows db ++ [r])
      (hr : leaves T.policies .insert who r = true) : Writes T who db (T.tab.set db t)
  | updates {t : Table T.key T.check} {hit : T.Row → Bool} {f : T.Row → T.Row}
      (ht : t.rows = (T.rows db).map (fun r => if hit r then f r else r))
      (hr : ∀ r ∈ T.rows db, hit r = true → touches T.policies .update who r = true ∧
        leaves T.policies .update who (f r) = true ∧ T.trigger who r (f r) = true) : Writes T who db (T.tab.set db t)
  | deletes {t : Table T.key T.check} {hit : T.Row → Bool} (ht : t.rows = (T.rows db).filter (fun r => !hit r))
      (hr : ∀ r, hit r = true → touches T.policies .delete who r = true) :
      Writes T who db (T.onDelete (T.tab.set db t) ((T.rows db).filter hit))

theorem writes_of_exec (h : T.exec who db c = some db') : Writes T who db db' := by
  cases c with
  | select p =>
    obtain rfl := Option.some.inj h
    exact .nothing
  | insert reading r =>
    rw [exec] at h
    split at h
    · rename_i hr
      simp only [Bool.and_eq_true] at hr
      obtain ⟨t, rfl, ht⟩ := set_of_map h
      exact .inserts ht hr.1.1
    · cases h
  | update reading p f =>
    rw [exec] at h
    split at h
    · rename_i hall
      obtain ⟨t, rfl, ht⟩ := set_of_map h
      refine .updates ht (fun r hr hhit => ?_)
      have hrew := hall r hr hhit
      unfold rewrites at hrew
      simp only [Bool.and_eq_true] at hrew
      exact ⟨touches_of_hits hhit, hrew.1.1.1.1.2, hrew.1.1.1.1.1⟩
    · cases h
  | delete reading p =>
    rw [exec] at h
    split at h
    · obtain ⟨t, ht, rfl⟩ := Option.map_eq_some_iff.1 h
      exact .deletes (table?_rows ht) (fun r hhit => touches_of_hits hhit)
    · cases h

/-- **Foreign rows are as they were.** -/
theorem exec_keeps (hf : T.Foreign who own) (h : T.exec who db c = some db') :
    (T.rows db').filter own = (T.rows db).filter own := by
  cases writes_of_exec h with
  | nothing => rfl
  | @inserts t r ht hr =>
    rw [rows, T.tab.get_set, ht, List.filter_append, List.filter_cons, hf.insert r hr]
    simp
  | @updates t hit f ht hr =>
    rw [rows, T.tab.get_set, ht]
    have hrows : ∀ l : List T.Row, (∀ r ∈ l, r ∈ T.rows db) →
        (l.map (fun r => if hit r then f r else r)).filter own = l.filter own := by
      intro l
      induction l with
      | nil => exact fun _ => rfl
      | cons r l ih =>
        intro hl
        have ih := ih (fun r' hr' => hl r' (List.mem_cons_of_mem _ hr'))
        rw [List.map_cons, List.filter_cons, List.filter_cons, ih]
        by_cases hhit : hit r = true
        · obtain ⟨htouched, hleft, -⟩ := hr r (hl r List.mem_cons_self) hhit
          rw [if_pos hhit, hf.left _ hleft, hf.touched _ htouched]
          rfl
        · rw [if_neg hhit]
    exact hrows _ (fun _ h => h)
  | @deletes t hit ht hr =>
    rw [rows, T.get_onDelete, T.tab.get_set, ht, List.filter_filter]
    refine List.filter_congr (fun r _ => ?_)
    by_cases hhit : hit r = true
    · rw [hf.delete r (hr r hhit)]
      rfl
    · rw [Bool.not_eq_true] at hhit
      rw [hhit]
      simp

/-- **A row that is shown is one that may be read.** -/
theorem mem_shown (h : T.exec who db c = some db') {r : T.Row} (hr : r ∈ T.shown who db c) :
    touches T.policies .select who r = true := by
  have hread : ∀ {r : T.Row}, T.readable who true r = true → touches T.policies .select who r = true := fun h => h
  cases c with
  | select p =>
    have hp := (List.mem_filter.1 hr).2
    rw [Bool.and_eq_true] at hp
    exact hp.2
  | insert reading r' =>
    cases reading with
    | false => cases hr
    | true =>
      obtain rfl := List.mem_singleton.1 hr
      rw [exec] at h
      split at h
      · rename_i hr'
        simp only [Bool.and_eq_true] at hr'
        exact hread hr'.1.2
      · cases h
  | update reading p f =>
    cases reading with
    | false => cases hr
    | true =>
      obtain ⟨r', hr', rfl⟩ := List.mem_map.1 hr
      obtain ⟨hmem, hhit⟩ := List.mem_filter.1 hr'
      rw [exec] at h
      split at h
      · rename_i hall
        have hrew := hall r' hmem hhit
        unfold rewrites at hrew
        simp only [Bool.and_eq_true] at hrew
        exact hread hrew.1.1.1.2
      · cases h
  | delete reading p =>
    cases reading with
    | false => cases hr
    | true =>
      have hhit := (List.mem_filter.1 hr).2
      unfold hits at hhit
      simp only [Bool.and_eq_true] at hhit
      exact hread hhit.2

end Secured
end Lib
