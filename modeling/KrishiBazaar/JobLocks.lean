import KrishiBazaar.Schema
import KrishiBazaar.Lib.Run
/-!
# JobLocks — the locks of the background jobs

`claim_job_lock` and `release_job_lock` of migration 006, and the executions of jobs that call them.  A claim inserts the row
of the job or steals it when it has expired; a release deletes the row of the job if it has the caller's holder name.
Executions are numbered as they get their locks, and beside each row stands the execution that acquired it, which the
database does not know.

If every execution ends within its own time to live, the row of a running one is its own, and no two run at once
(`exclusive`).  An execution that overruns may be stolen from, and then its release goes by a name that the thief may have
too: it frees only its own lock exactly as long as no lock is taken while an execution of that job and name still runs
(`freesOwn_iff`).
-/
namespace Krishi

open Lib

structure JobLock where
  jobKey : String
  holder : String
  acquiredAt : Time
  expiresAt : Time
  deriving DecidableEq, Repr

abbrev JobLockTable := Table JobLock.jobKey noCheck

def minutes (n : Int) : Time := n * 60000000

/-- The insert, or the steal of an expired row; `true` if it found one. -/
def claimJobLock (now : Time) (jobKey holder : String) (ttlMinutes : Int) (t : JobLockTable) : Bool × JobLockTable :=
  if (t.get? jobKey).all (fun row => row.expiresAt < now) then
    (true, t.put ⟨jobKey, holder, now, now + minutes ttlMinutes⟩ rfl)
  else (false, t)

/-- `true` if it deleted a row. -/
def releaseJobLock (jobKey holder : String) (t : JobLockTable) : Bool × JobLockTable :=
  ((t.get? jobKey).any (fun row => row.holder = holder), t.delete (fun row => row.jobKey = jobKey ∧ row.holder = holder))

/-! ## The callers -/

/-- The jobs of the scheduler and the triggers of the admin. -/
inductive JobRunner
  | runAlertJob | runStaleForecastsJob | runExpireOffersJob | runIngestionJob | runForecastJob | triggerForecast
  | triggerAlertCheck
  deriving DecidableEq, Repr

def JobRunner.jobKey : JobRunner → String
  | .runAlertJob | .triggerAlertCheck => "alert_check"
  | .runStaleForecastsJob => "mark_stale"
  | .runExpireOffersJob => "expire_offers"
  | .runIngestionJob => "ingestion"
  | .runForecastJob | .triggerForecast => "forecast"

def JobRunner.holder : JobRunner → String
  | .triggerForecast | .triggerAlertCheck => "admin_trigger"
  | _ => "scheduler"

/-- The scheduler's forecast job passes none, and gets the default of the function. -/
def JobRunner.ttlMinutes : JobRunner → Int
  | .runForecastJob => 15
  | _ => 45

/-! ## Executions -/

structure JobExecution where
  id : Nat
  jobKey : String
  holder : String
  claimedAt : Time
  ttlMinutes : Int
  deriving DecidableEq, Repr

def JobExecution.deadline (e : JobExecution) : Time := e.claimedAt + minutes e.ttlMinutes

/-- The locks, the executions that got theirs and have not ended, and who acquired each row. -/
structure Jobs where
  locks : JobLockTable
  running : List JobExecution
  acquiredBy : String → Option Nat
  claims : Nat

/-- Nothing runs; rows may be left from before. -/
def Jobs.start (locks : JobLockTable) : Jobs := ⟨locks, [], fun _ => none, 0⟩

/-- An execution claims, or one that runs releases its lock or crashes. -/
inductive JobCall
  | claim (jobKey holder : String) (ttlMinutes : Int)
  | release (id : Nat)
  | crash (id : Nat)
  deriving DecidableEq, Repr

def JobRunner.claim (r : JobRunner) : JobCall := .claim r.jobKey r.holder r.ttlMinutes

structure JobEvent where
  now : Time
  call : JobCall
  deriving DecidableEq, Repr

def Jobs.ended (s : Jobs) (id : Nat) : List JobExecution := s.running.filter (fun e => e.id ≠ id)

/-- A claim that fails starts nothing, and only what runs can release. -/
def jobStep (s : Jobs) (ev : JobEvent) : Jobs :=
  match ev.call with
  | .claim jobKey holder ttlMinutes =>
    match claimJobLock ev.now jobKey holder ttlMinutes s.locks with
    | (true, locks) => {
        locks := locks
        running := ⟨s.claims, jobKey, holder, ev.now, ttlMinutes⟩ :: s.running
        acquiredBy := fun k => if k = jobKey then some s.claims else s.acquiredBy k
        claims := s.claims + 1 }
    | (false, locks) => { s with locks := locks }
  | .release id =>
    match s.running.find? (fun e => e.id = id) with
    | none => s
    | some e => { s with locks := (releaseJobLock e.jobKey e.holder s.locks).2, running := s.ended id }
  | .crash id => { s with running := s.ended id }

/-! ## What a step does -/

theorem claimJobLock_cases (now : Time) (jobKey holder : String) (ttlMinutes : Int) (t : JobLockTable) :
    ((∀ row ∈ t.get? jobKey, row.expiresAt < now) ∧ claimJobLock now jobKey holder ttlMinutes t
        = (true, t.put ⟨jobKey, holder, now, now + minutes ttlMinutes⟩ rfl)) ∨
      ((∃ row ∈ t.get? jobKey, now ≤ row.expiresAt) ∧ claimJobLock now jobKey holder ttlMinutes t = (false, t)) := by
  unfold claimJobLock
  split
  · rename_i h
    left
    exact ⟨by simpa [Option.all_eq_true] using h, rfl⟩
  · rename_i h
    right
    exact ⟨by simpa [Option.all_eq_true] using h, rfl⟩

/-- A release takes the row of its job away if it has its name, and no other row. -/
theorem get?_releaseJobLock (jobKey holder : String) (t : JobLockTable) (k : String) :
    (releaseJobLock jobKey holder t).2.get? k
      = (t.get? k).filter (fun row => ¬ (k = jobKey ∧ row.holder = holder)) := by
  have hdelete := t.get?_delete (fun row => row.jobKey = jobKey ∧ row.holder = holder) k
  refine hdelete.trans ?_
  cases h : t.get? k with
  | none => rfl
  | some row =>
    have hk : row.jobKey = k := Table.key_of_get? h
    subst hk
    simp [Option.filter]

/-- The state after a claim that got the lock. -/
def Jobs.claimed (s : Jobs) (jobKey holder : String) (now : Time) (ttlMinutes : Int) : Jobs where
  locks := s.locks.put ⟨jobKey, holder, now, now + minutes ttlMinutes⟩ rfl
  running := ⟨s.claims, jobKey, holder, now, ttlMinutes⟩ :: s.running
  acquiredBy := fun k => if k = jobKey then some s.claims else s.acquiredBy k
  claims := s.claims + 1

theorem get?_claimed (s : Jobs) (jobKey holder : String) (now : Time) (ttlMinutes : Int) (k : String) :
    (s.claimed jobKey holder now ttlMinutes).locks.get? k
      = if jobKey = k then some ⟨jobKey, holder, now, now + minutes ttlMinutes⟩ else s.locks.get? k :=
  Table.get?_put _ _ _ _

/-- **A step gets a lock that was free or expired, releases one, ends an execution, or does nothing.** -/
theorem jobStep_cases (s : Jobs) (ev : JobEvent) :
    (∃ jobKey holder ttlMinutes, ev.call = .claim jobKey holder ttlMinutes ∧
      (∀ row ∈ s.locks.get? jobKey, row.expiresAt < ev.now) ∧
      jobStep s ev = Jobs.claimed s jobKey holder ev.now ttlMinutes) ∨
    (∃ e ∈ s.running, ev.call = .release e.id ∧
      jobStep s ev = { s with locks := (releaseJobLock e.jobKey e.holder s.locks).2, running := s.ended e.id }) ∨
    (∃ id, ev.call = .crash id ∧ jobStep s ev = { s with running := s.ended id }) ∨
    (jobStep s ev = s ∧ ∀ jobKey holder ttlMinutes, ev.call = .claim jobKey holder ttlMinutes →
      ∃ row ∈ s.locks.get? jobKey, ev.now ≤ row.expiresAt) := by
  obtain ⟨now, call⟩ := ev
  cases call with
  | claim jobKey holder ttlMinutes =>
    rcases claimJobLock_cases now jobKey holder ttlMinutes s.locks with ⟨hfree, hclaim⟩ | ⟨hheld, hclaim⟩
    · refine Or.inl ⟨jobKey, holder, ttlMinutes, rfl, hfree, ?_⟩
      simp only [jobStep, hclaim]
      rfl
    · refine Or.inr (Or.inr (Or.inr ⟨by simp only [jobStep, hclaim], ?_⟩))
      intro jobKey' holder' ttlMinutes' h
      obtain ⟨rfl, -, -⟩ := JobCall.claim.inj h
      exact hheld
  | release id =>
    right
    cases hfind : s.running.find? (fun e => e.id = id) with
    | none =>
      refine Or.inr (Or.inr ⟨by simp only [jobStep, hfind], ?_⟩)
      intro jobKey' holder' ttlMinutes' h
      cases h
    | some e =>
      have hid : e.id = id := by simpa using List.find?_some hfind
      subst hid
      exact Or.inl ⟨e, List.mem_of_find?_eq_some hfind, rfl, by simp only [jobStep, hfind]⟩
  | crash id => exact Or.inr (Or.inr (Or.inl ⟨id, rfl, rfl⟩))

theorem mem_ended {s : Jobs} {id : Nat} {e : JobExecution} : e ∈ s.ended id ↔ e ∈ s.running ∧ e.id ≠ id := by
  unfold Jobs.ended
  rw [List.mem_filter, decide_eq_true_iff]

/-! ## Executions that end in time -/

/-- No running execution has outlived its time to live when the call is made. -/
def Timely (s : Jobs) (ev : JobEvent) : Prop := ∀ e ∈ s.running, ev.now ≤ e.deadline

/-- Each running execution has its row, and no other runs for its job. -/
structure Exclusive (s : Jobs) : Prop where
  row : ∀ e ∈ s.running, s.locks.get? e.jobKey = some ⟨e.jobKey, e.holder, e.claimedAt, e.deadline⟩
  distinct : (s.running.map (·.jobKey)).Nodup

theorem exclusive_ended {s : Jobs} (h : Exclusive s) (id : Nat) : Exclusive { s with running := s.ended id } where
  row e he := h.row e (mem_ended.1 he).1
  distinct := h.distinct.sublist (List.filter_sublist.map _)

theorem exclusive_claimed {s : Jobs} {jobKey holder : String} {now : Time} {ttlMinutes : Int} (h : Exclusive s)
    (hnone : ∀ e ∈ s.running, e.jobKey ≠ jobKey) : Exclusive (s.claimed jobKey holder now ttlMinutes) := by
  refine ⟨fun e he => ?_, ?_⟩
  · rw [get?_claimed]
    rcases List.mem_cons.1 he with rfl | he
    · exact if_pos rfl
    · rw [if_neg (fun hk => hnone e he hk.symm)]
      exact h.row e he
  · refine List.nodup_cons.2 ⟨fun hmem => ?_, h.distinct⟩
    obtain ⟨e, he, hk⟩ := List.mem_map.1 hmem
    exact hnone e he hk

theorem exclusive_released {s : Jobs} {e : JobExecution} (h : Exclusive s) (he : e ∈ s.running) :
    Exclusive { s with locks := (releaseJobLock e.jobKey e.holder s.locks).2, running := s.ended e.id } := by
  refine ⟨fun e' he' => ?_, (exclusive_ended h e.id).distinct⟩
  obtain ⟨hmem, hid⟩ := mem_ended.1 he'
  have hkey : e'.jobKey ≠ e.jobKey := by
    intro hk
    obtain rfl := List.inj_on_of_nodup_map h.distinct hmem he hk
    exact hid rfl
  show (releaseJobLock e.jobKey e.holder s.locks).2.get? e'.jobKey = _
  rw [get?_releaseJobLock, h.row e' hmem]
  simp [Option.filter, hkey]

theorem exclusive_step (s : Jobs) (ev : JobEvent) (h : Exclusive s) (ht : Timely s ev) : Exclusive (jobStep s ev) := by
  rcases jobStep_cases s ev with ⟨jobKey, holder, ttlMinutes, -, hfree, hs⟩ | ⟨e, he, -, hs⟩ | ⟨id, -, hs⟩ | ⟨hs, -⟩
  · rw [hs]
    refine exclusive_claimed h ?_
    -- a running execution of the job would have a row that has not expired
    rintro e he rfl
    have hexpired := hfree _ (h.row e he)
    have hlive := ht e he
    exact absurd hlive (not_le.2 hexpired)
  · rw [hs]
    exact exclusive_released h he
  · rw [hs]
    exact exclusive_ended h id
  · rw [hs]
    exact h

/-- **Job mutual exclusion**: while every execution ends within its time to live, at most one runs for a job. -/
theorem exclusive (locks : JobLockTable) (rs : List JobEvent) (h : Along jobStep Timely (Jobs.start locks) rs) :
    ∀ pre post, rs = pre ++ post → ((after jobStep (Jobs.start locks) pre).running.map (·.jobKey)).Nodup := by
  have hstart : Exclusive (Jobs.start locks) := ⟨fun e he => absurd he List.not_mem_nil, List.nodup_nil⟩
  intro pre post hrs
  exact (h.inv exclusive_step hstart pre post hrs).distinct

instance (s : Jobs) (ev : JobEvent) : Decidable (Timely s ev) :=
  inferInstanceAs (Decidable (∀ e ∈ s.running, ev.now ≤ e.deadline))

/-- The scheduler's check ends after twenty minutes; the admin's claim fails while it runs, and then gets the lock. -/
def twoCheckers : List JobEvent :=
  [⟨0, JobRunner.runAlertJob.claim⟩, ⟨minutes 10, JobRunner.triggerAlertCheck.claim⟩, ⟨minutes 20, .release 0⟩,
    ⟨minutes 30, JobRunner.triggerAlertCheck.claim⟩]

theorem exclusive_twoCheckers : (after jobStep (Jobs.start .empty) twoCheckers).running.length = 1 ∧
    ((after jobStep (Jobs.start .empty) twoCheckers).running.map (·.jobKey)).Nodup := by
  refine ⟨by decide, exclusive .empty twoCheckers ?_ twoCheckers [] (List.append_nil _).symm⟩
  exact ⟨by decide, by decide, by decide, by decide, trivial⟩

/-! ## Executions that overrun -/

/-- **A release by any execution that runs would delete only a row it acquired itself.** -/
def FreesOwn (s : Jobs) : Prop :=
  ∀ e ∈ s.running, ∀ row ∈ s.locks.get? e.jobKey, row.holder = e.holder → s.acquiredBy e.jobKey = some e.id

/-- No execution gets a lock while another of its job and holder name still runs. -/
def Untwinned (s : Jobs) (ev : JobEvent) : Prop :=
  ∀ jobKey holder ttlMinutes, ev.call = .claim jobKey holder ttlMinutes →
    (∀ row ∈ s.locks.get? jobKey, row.expiresAt < ev.now) → ∀ e ∈ s.running, ¬ (e.jobKey = jobKey ∧ e.holder = holder)

/-- The running executions were numbered before the next. -/
def Numbered (s : Jobs) : Prop := ∀ e ∈ s.running, e.id < s.claims

theorem numbered_step (s : Jobs) (ev : JobEvent) (h : Numbered s) : Numbered (jobStep s ev) := by
  rcases jobStep_cases s ev with ⟨jobKey, holder, ttlMinutes, -, -, hs⟩ | ⟨e, -, -, hs⟩ | ⟨id, -, hs⟩ | ⟨hs, -⟩
  · rw [hs]
    intro e he
    rcases List.mem_cons.1 he with rfl | he
    · exact Nat.lt_succ_self _
    · exact Nat.lt_succ_of_lt (h e he)
  · rw [hs]
    exact fun e' he' => h e' (mem_ended.1 he').1
  · rw [hs]
    exact fun e' he' => h e' (mem_ended.1 he').1
  · rw [hs]
    exact h

theorem untwinned_iff_of_claim {s : Jobs} {ev : JobEvent} {jobKey holder : String} {ttlMinutes : Int}
    (hcall : ev.call = .claim jobKey holder ttlMinutes) (hfree : ∀ row ∈ s.locks.get? jobKey, row.expiresAt < ev.now) :
    Untwinned s ev ↔ ∀ e ∈ s.running, ¬ (e.jobKey = jobKey ∧ e.holder = holder) := by
  constructor
  · exact fun h => h jobKey holder ttlMinutes hcall hfree
  · intro h jobKey' holder' ttlMinutes' hcall' _
    obtain ⟨rfl, rfl, rfl⟩ := JobCall.claim.inj (hcall.symm.trans hcall')
    exact h

/-- Only a claim of a lock that is free or expired can have twins. -/
theorem untwinned_of_not_claim {s : Jobs} {ev : JobEvent}
    (h : ∀ jobKey holder ttlMinutes, ev.call = .claim jobKey holder ttlMinutes →
      ∃ row ∈ s.locks.get? jobKey, ev.now ≤ row.expiresAt) : Untwinned s ev := by
  intro jobKey holder ttlMinutes hcall hfree
  obtain ⟨row, hrow, hle⟩ := h jobKey holder ttlMinutes hcall
  exact absurd (hfree row hrow) (not_lt.2 hle)

theorem untwinned_of_ne {s : Jobs} {ev : JobEvent}
    (h : ∀ jobKey holder ttlMinutes, ev.call ≠ .claim jobKey holder ttlMinutes) : Untwinned s ev :=
  untwinned_of_not_claim (fun jobKey holder ttlMinutes hcall => absurd hcall (h jobKey holder ttlMinutes))

theorem freesOwn_claimed {s : Jobs} (hn : Numbered s) (h : FreesOwn s) {jobKey holder : String} {now : Time}
    {ttlMinutes : Int} : FreesOwn (s.claimed jobKey holder now ttlMinutes) ↔
      ∀ e ∈ s.running, ¬ (e.jobKey = jobKey ∧ e.holder = holder) := by
  constructor
  · -- the new row has the number of the new execution, so no older one has its name
    rintro hown e he ⟨rfl, rfl⟩
    have hrow := hown e (List.mem_cons_of_mem _ he) _ (by rw [get?_claimed, if_pos rfl]; rfl) rfl
    have hid : s.claims = e.id := Option.some.inj ((if_pos rfl).symm.trans hrow)
    exact absurd (hn e he) (not_lt.2 hid.le)
  · intro huntwinned e he row hrow hholder
    rw [get?_claimed] at hrow
    show (if e.jobKey = jobKey then some s.claims else s.acquiredBy e.jobKey) = some e.id
    by_cases hk : jobKey = e.jobKey
    · rw [if_pos hk] at hrow
      obtain rfl := Option.some.inj hrow
      rw [if_pos hk.symm]
      rcases List.mem_cons.1 he with rfl | he
      · rfl
      · exact absurd ⟨hk.symm, hholder.symm⟩ (huntwinned e he)
    · rw [if_neg hk] at hrow
      rw [if_neg (fun h => hk h.symm)]
      rcases List.mem_cons.1 he with rfl | he
      · exact absurd rfl hk
      · exact h e he row hrow hholder

theorem freesOwn_step (s : Jobs) (ev : JobEvent) (hn : Numbered s) (h : FreesOwn s) :
    FreesOwn (jobStep s ev) ↔ Untwinned s ev := by
  rcases jobStep_cases s ev with ⟨jobKey, holder, ttlMinutes, hcall, hfree, hs⟩ | ⟨e, -, hcall, hs⟩ | ⟨id, hcall, hs⟩ |
    ⟨hs, hheld⟩
  · rw [hs]
    exact (freesOwn_claimed hn h).trans (untwinned_iff_of_claim hcall hfree).symm
  · rw [hs]
    refine ⟨fun _ => untwinned_of_ne (by simp [hcall]), fun _ e' he' row hrow hholder => ?_⟩
    rw [get?_releaseJobLock] at hrow
    exact h e' (mem_ended.1 he').1 row (Option.mem_filter_iff.1 hrow).1 hholder
  · rw [hs]
    exact ⟨fun _ => untwinned_of_ne (by simp [hcall]), fun _ e' he' => h e' (mem_ended.1 he').1⟩
  · rw [hs]
    exact ⟨fun _ => untwinned_of_not_claim hheld, fun _ => h⟩

/-- **A release frees only its own lock**, at every point of a run, exactly when no lock is taken over while an execution of
that job and holder name still runs. -/
theorem freesOwn_iff (locks : JobLockTable) (rs : List JobEvent) :
    (∀ pre post, rs = pre ++ post → FreesOwn (after jobStep (Jobs.start locks) pre)) ↔
      Along jobStep Untwinned (Jobs.start locks) rs :=
  along_inv_iff numbered_step freesOwn_step rs _ (fun _ he => absurd he List.not_mem_nil)
    (fun _ he => absurd he List.not_mem_nil)

/-- Two checks of the scheduler, the second after the first overran its forty-five minutes; then the first ends. -/
def overrun : List JobEvent :=
  [⟨0, JobRunner.runAlertJob.claim⟩, ⟨minutes 46, JobRunner.runAlertJob.claim⟩, ⟨minutes 47, .release 0⟩]

/-- The first one's release deletes the row that the second one acquired and needs. -/
theorem release_overrun : (after jobStep (Jobs.start .empty) (overrun.take 2)).acquiredBy "alert_check" = some 1 ∧
    (after jobStep (Jobs.start .empty) overrun).locks.get? "alert_check" = none ∧
    (after jobStep (Jobs.start .empty) overrun).running.map (·.id) = [1] := by
  refine ⟨by decide, by decide, by decide⟩

end Krishi
