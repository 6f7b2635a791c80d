import KrishiBazaar.JobLocks
import KrishiBazaar.Lib.Pool
import Mathlib.Data.Multiset.Filter
/-!
# JobRunners — the jobs around their locks

The jobs of `app/services/jobs.py`, the forecast job of `forecasting/runner.py` and the two triggers of the admin, with
whatever they do under their lock left open: any program, which may fail at any call.  Any number of them run at once, and
their calls interleave in any order.

A job may go on after its lock has expired, and what it then releases may be another's row; the world notes such a
release, which the database does not.  For a job that none has released so, no two are at work at a time under locks that
have not expired (`bodies_exclusive`).  And whatever they raise and however long they take, they leave no lock behind
(`locks_freed`), as long as the answers of the lock functions get through.
-/
namespace Krishi

open Lib

/-- What a job may raise: an HTTP error, or any other exception. -/
inductive JobError
  | http (e : HTTPException)
  | exception (message : String)
  deriving DecidableEq, Repr

/-- The calls of a job: on its lock, of which a claim that succeeds returns the row, the others carry it, and the database
sees neither; at its work, under its lock; and others. -/
inductive JobOp (W : Type → Type 1) : Type → Type 1
  | claimJobLock (jobKey holder : String) (ttlMinutes : Int) : JobOp W (Option JobLock)
  | releaseJobLock (lock : JobLock) (jobKey holder : String) : JobOp W Bool
  | work {ρ : Type} (lock : JobLock) (op : W ρ) : JobOp W ρ
  | other {ρ : Type} (op : W ρ) : JobOp W ρ

section Jobs

variable {W : Type → Type 1} {α β : Type}

abbrev JobProg (W : Type → Type 1) (α : Type) := Prog (JobOp W) JobError α

/-! ## The jobs -/

/-- What a job returns. -/
inductive JobReply (α : Type)
  /-- `{"status": "locked"}`, the admin's with a message. -/
  | locked (message : Option String)
  | none
  | summary (a : α)
  /-- `{"status": "success", "summary": ..}` -/
  | success (a : α)
  deriving DecidableEq, Repr

def JobRunner.claimLock (r : JobRunner) : JobProg W (Option JobLock) :=
  .perform (.claimJobLock r.jobKey r.holder r.ttlMinutes)

def JobRunner.releaseLock (r : JobRunner) (lock : JobLock) : JobProg W Unit := do
  let _ ← .perform (.releaseJobLock lock r.jobKey r.holder)
  pure ()

/-- A program at work under a lock. -/
def underLock (lock : JobLock) (p : Prog W JobError α) : JobProg W α := p.lift (fun op => .work lock op)

/-- A job of the scheduler. -/
def scheduledJob (r : JobRunner) (locked : JobReply α) (done : β → JobReply α) (body : Prog W JobError β) :
    JobProg W (JobReply α) := do
  let lockRes ← r.claimLock
  match lockRes with
  | none => pure locked
  | some lock => Prog.finallyDo (underLock lock body >>= fun b => pure (done b)) (r.releaseLock lock)

def runAlertJob (checker : Prog W JobError α) : JobProg W (JobReply α) :=
  scheduledJob .runAlertJob (.locked none) .summary checker

def runStaleForecastsJob (markStaleForecasts : Prog W JobError Nat) : JobProg W (JobReply α) :=
  scheduledJob .runStaleForecastsJob .none (fun _ => .none) markStaleForecasts

def runExpireOffersJob (expireStaleOffers : Prog W JobError α) : JobProg W (JobReply α) :=
  scheduledJob .runExpireOffersJob (.locked none) .summary expireStaleOffers

def runIngestionJob (ingest : Prog W JobError Unit) : JobProg W (JobReply α) :=
  scheduledJob .runIngestionJob (.locked none) (fun _ => .none) ingest

def runForecastJob (engine : Prog W JobError α) : JobProg W (JobReply α) :=
  scheduledJob .runForecastJob (.locked none) .summary engine

/-- A trigger of the admin: what is no HTTP error becomes one, and a release that fails is passed over. -/
def triggeredJob (r : JobRunner) (failed : String) (body : Prog W JobError α) : JobProg W (JobReply α) := do
  let lockRes ← r.claimLock
  match lockRes with
  | none => pure (.locked (some "Job is currently running"))
  | some lock =>
    Prog.finallyDo
      ((underLock lock body >>= fun a => pure (.success a)).tryCatch (fun e => match e with
        | .http e => .raise (.http e)
        | .exception _ => .raise (.http ⟨503, failed⟩)))
      ((r.releaseLock lock).tryCatch (fun _ => pure ()))

def triggerForecast (engine : Prog W JobError α) : JobProg W (JobReply α) :=
  triggeredJob .triggerForecast "forecast job failed" engine

def triggerAlertCheck (checker : Prog W JobError α) : JobProg W (JobReply α) :=
  triggeredJob .triggerAlertCheck "alert check failed" checker

/-- At startup: unless the last success is recent, ingestion and then the forecasts; whatever fails is passed over. -/
def runCatchupTask (lastSuccess : W (Option Time)) (nowDt : W Time) (ingestionIntervalHours : Int)
    (ingest : Prog W JobError Unit) (engine : Prog W JobError α) : JobProg W (JobReply α) :=
  let catchUp : JobProg W (JobReply α) := do
    let _ ← runIngestionJob (α := α) ingest
    let _ ← runForecastJob engine
    pure .none
  Prog.tryCatch (do
    match ← .perform (.other lastSuccess) with
    | none => catchUp
    | some lastRun =>
      let now ← .perform (.other nowDt)
      if now - hours ingestionIntervalHours < lastRun then pure .none else catchUp) (fun _ => pure .none)

/-- What a process may be at. -/
inductive JobTask (W : Type → Type 1) (α : Type) : Type 1
  | alerts (checker : Prog W JobError α)
  | staleForecasts (markStaleForecasts : Prog W JobError Nat)
  | expireOffers (expireStaleOffers : Prog W JobError α)
  | ingestion (ingest : Prog W JobError Unit)
  | forecast (engine : Prog W JobError α)
  | adminForecast (engine : Prog W JobError α)
  | adminAlertCheck (checker : Prog W JobError α)
  | catchup (lastSuccess : W (Option Time)) (nowDt : W Time) (ingestionIntervalHours : Int)
      (ingest : Prog W JobError Unit) (engine : Prog W JobError α)

def JobTask.code : JobTask W α → JobProg W (JobReply α)
  | .alerts checker => runAlertJob checker
  | .staleForecasts markStaleForecasts => runStaleForecastsJob markStaleForecasts
  | .expireOffers expireStaleOffers => runExpireOffersJob expireStaleOffers
  | .ingestion ingest => runIngestionJob ingest
  | .forecast engine => runForecastJob engine
  | .adminForecast engine => triggerForecast engine
  | .adminAlertCheck checker => triggerAlertCheck checker
  | .catchup lastSuccess nowDt interval ingest engine => runCatchupTask lastSuccess nowDt interval ingest engine

/-! ## Any number of them -/

/-- The locks, and the jobs of which a lock was released after it had expired. -/
structure JobWorld where
  locks : JobLockTable
  clock : Time
  overrun : List String

/-- The row a claim stores. -/
def claimedLock (now : Time) (jobKey holder : String) (ttlMinutes : Int) : JobLock :=
  ⟨jobKey, holder, now, now + minutes ttlMinutes⟩

def JobWorld.claim (w : JobWorld) (jobKey holder : String) (ttlMinutes : Int) : JobWorld :=
  { w with locks := (claimJobLock w.clock jobKey holder ttlMinutes w.locks).2 }

/-- The release of a lock, which goes by the job and the holder's name. -/
def JobWorld.release (w : JobWorld) (lock : JobLock) (jobKey holder : String) : JobWorld where
  locks := (releaseJobLock jobKey holder w.locks).2
  clock := w.clock
  overrun := if w.clock ≤ lock.expiresAt then w.overrun else jobKey :: w.overrun

/-- **What a call may be answered.**  A call on a lock that fails has done nothing or, if answers may be `lost`, what it
would have done. -/
def JobAnswers (lost : Prop) : {ρ : Type} → JobOp W ρ → JobWorld → Except JobError ρ → JobWorld → Prop
  | _, .claimJobLock jobKey holder ttlMinutes, w, r, w' =>
    (r = .ok (if (claimJobLock w.clock jobKey holder ttlMinutes w.locks).1 then
        some (claimedLock w.clock jobKey holder ttlMinutes) else none) ∧ w' = w.claim jobKey holder ttlMinutes) ∨
    ∃ e, r = .error e ∧ (w' = w ∨ lost ∧ w' = w.claim jobKey holder ttlMinutes)
  | _, .releaseJobLock lock jobKey holder, w, r, w' =>
    (r = .ok (releaseJobLock jobKey holder w.locks).1 ∧ w' = w.release lock jobKey holder) ∨
      lost ∧ ∃ e, r = .error e ∧ (w' = w ∨ w' = w.release lock jobKey holder)
  | _, .work _ _, w, _, w' => w' = w
  | _, .other _, w, _, w' => w' = w

/-- Processes at any of the tasks; the clock goes on. -/
def jobPool {ι : Type} (lost : Prop) (tasks : ι → JobTask W α) : Pool (JobOp W) JobError JobWorld ι (JobReply α) where
  answers := JobAnswers lost
  starts _ _ := True
  code i := (tasks i).code
  outside w _ w' := w.clock ≤ w'.clock ∧ w'.locks = w.locks ∧ w'.overrun = w.overrun

/-! ## The protocol -/

/-- The lock a process has. -/
abbrev JobStanding := Option JobLock

inductive JobTurn : JobStanding → ∀ {ρ : Type}, JobOp W ρ → Except JobError ρ → JobStanding → Prop
  | got (lock : JobLock) {ttlMinutes : Int} :
      JobTurn none (.claimJobLock lock.jobKey lock.holder ttlMinutes) (.ok (some lock)) (some lock)
  | refused {jobKey holder : String} {ttlMinutes : Int} :
      JobTurn none (.claimJobLock jobKey holder ttlMinutes) (.ok none) none
  | failed {jobKey holder : String} {ttlMinutes : Int} {e : JobError} :
      JobTurn none (.claimJobLock jobKey holder ttlMinutes) (.error e) none
  | works {lock : JobLock} {ρ : Type} {op : W ρ} {r : Except JobError ρ} :
      JobTurn (some lock) (.work lock op) r (some lock)
  | released {lock : JobLock} {r : Except JobError Bool} :
      JobTurn (some lock) (.releaseJobLock lock lock.jobKey lock.holder) r none
  | other {l : JobStanding} {ρ : Type} {op : W ρ} {r : Except JobError ρ} : JobTurn l (.other op) r l

/-- A lock that has not expired, of a job that no release has overrun. -/
def JobWorld.Live (w : JobWorld) (lock : JobLock) : Prop := w.clock ≤ lock.expiresAt ∧ lock.jobKey ∉ w.overrun

instance (w : JobWorld) (lock : JobLock) : Decidable (w.Live lock) := inferInstanceAs (Decidable (_ ∧ _))

/-- The jobs of the processes with a live lock. -/
def liveKeys {ι : Type} (w : JobWorld) (ls : Multiset (ι × JobStanding)) : Multiset String :=
  ls.filterMap (fun x => (x.2.filter (fun lock => w.Live lock)).map (·.jobKey))

/-- **The locks and who has them**, since the table was `before`: a live lock is its process's row, no two of them are for
one job, and unless answers may be lost every new row is a process's. -/
structure LocksHeld {ι : Type} (lost : Prop) (before : JobLockTable) (w : JobWorld) (ls : Multiset (ι × JobStanding)) :
    Prop where
  row : ∀ x ∈ ls, ∀ lock, x.2 = some lock → w.Live lock → w.locks.get? lock.jobKey = some lock
  apart : (liveKeys w ls).Nodup
  left : ¬ lost → ∀ k row, w.locks.get? k = some row → before.get? k = some row ∨ ∃ x ∈ ls, x.2 = some row

section Held

variable {ι : Type} {lost : Prop} {before : JobLockTable} {w w' : JobWorld} {ls : Multiset (ι × JobStanding)} {i : ι}
variable {lock : JobLock}

theorem liveKeys_cons (w : JobWorld) (i : ι) (l : JobStanding) (ls : Multiset (ι × JobStanding)) :
    liveKeys w ((i, l) ::ₘ ls) = (match (l.filter (fun lock => w.Live lock)).map (·.jobKey) with
      | none => liveKeys w ls
      | some k => k ::ₘ liveKeys w ls) := by
  unfold liveKeys
  cases h : (l.filter (fun lock => w.Live lock)).map (·.jobKey) with
  | none => exact Multiset.filterMap_cons_none _ _ h
  | some k => exact Multiset.filterMap_cons_some _ _ _ h

theorem mem_liveKeys {k : String} : k ∈ liveKeys w ls ↔
    ∃ x ∈ ls, ∃ lock, x.2 = some lock ∧ w.Live lock ∧ lock.jobKey = k := by
  unfold liveKeys
  rw [Multiset.mem_filterMap]
  refine exists_congr fun x => and_congr_right fun _ => ?_
  cases x.2 <;> simp [Option.filter_some]

/-- Nothing comes alive. -/
theorem liveKeys_le (h : ∀ lock, w'.Live lock → w.Live lock) : liveKeys w' ls ≤ liveKeys w ls := by
  induction ls using Multiset.induction_on with
  | empty => exact le_refl _
  | cons x ls ih =>
    obtain ⟨i, l⟩ := x
    rw [liveKeys_cons, liveKeys_cons]
    cases l with
    | none => exact ih
    | some lock =>
      by_cases h' : w'.Live lock
      · simp only [Option.filter_some, h', h lock h', decide_true, if_true, Option.map_some]
        exact (Multiset.cons_le_cons_iff _).2 ih
      · by_cases h'' : w.Live lock
        · simp only [Option.filter_some, h', h'', decide_true, decide_false, if_true, Option.map_some]
          exact ih.trans (Multiset.le_cons_self _ _)
        · simp only [Option.filter_some, h', h'', decide_false]
          exact ih

theorem liveKeys_cons_le (w : JobWorld) (i : ι) (l : JobStanding) (ls : Multiset (ι × JobStanding)) :
    liveKeys w ls ≤ liveKeys w ((i, l) ::ₘ ls) := by
  rw [liveKeys_cons]
  split
  · exact le_refl _
  · exact Multiset.le_cons_self _ _

namespace LocksHeld

theorem start {clock : Time} : LocksHeld lost before ⟨before, clock, []⟩ (0 : Multiset (ι × JobStanding)) where
  row x hx := absurd hx (Multiset.notMem_zero x)
  apart := Multiset.nodup_zero
  left _ _ _ h := Or.inl h

theorem enter (h : LocksHeld lost before w ls) (i : ι) : LocksHeld lost before w ((i, none) ::ₘ ls) where
  row x hx lock hl hc := by
    rcases Multiset.mem_cons.1 hx with rfl | hx
    · cases hl
    · exact h.row x hx lock hl hc
  apart := by
    rw [liveKeys_cons]
    exact h.apart
  left hlost k row hrow := (h.left hlost k row hrow).imp_right
    (fun ⟨x, hx, hl⟩ => ⟨x, Multiset.mem_cons_of_mem hx, hl⟩)

theorem tick (h : LocksHeld lost before w ls) (hclock : w.clock ≤ w'.clock) (hlocks : w'.locks = w.locks)
    (hoverrun : w'.overrun = w.overrun) : LocksHeld lost before w' ls := by
  have hlive : ∀ lock, w'.Live lock → w.Live lock := fun lock hl => ⟨hclock.trans hl.1, hoverrun ▸ hl.2⟩
  refine ⟨fun x hx lock hl hc => ?_, Multiset.nodup_of_le (liveKeys_le hlive) h.apart, ?_⟩
  · rw [hlocks]
    exact h.row x hx lock hl (hlive lock hc)
  · rw [hlocks]
    exact h.left

/-- A process without a lock leaves. -/
theorem leave (h : LocksHeld lost before w ((i, none) ::ₘ ls)) : LocksHeld lost before w ls where
  row x hx := h.row x (Multiset.mem_cons_of_mem hx)
  apart := Multiset.nodup_of_le (liveKeys_cons_le w i none ls) h.apart
  left hlost k row hrow := by
    refine (h.left hlost k row hrow).imp_right (fun ⟨x, hx, hl⟩ => ?_)
    rcases Multiset.mem_cons.1 hx with rfl | hx
    · cases hl
    · exact ⟨x, hx, hl⟩

/-- **A claim that succeeds**: no live lock of the job is another's. -/
theorem claim (h : LocksHeld lost before w ((i, none) ::ₘ ls)) {jobKey holder : String} {ttlMinutes : Int}
    (hfree : ∀ row ∈ w.locks.get? jobKey, row.expiresAt < w.clock) :
    LocksHeld lost before { w with locks := w.locks.put (claimedLock w.clock jobKey holder ttlMinutes) rfl }
      ((i, some (claimedLock w.clock jobKey holder ttlMinutes)) ::ₘ ls) := by
  have hother : ∀ x ∈ ls, ∀ lock, x.2 = some lock → w.Live lock → jobKey ≠ lock.jobKey := by
    rintro x hx lock hl hc rfl
    exact absurd (hfree lock (h.row x (Multiset.mem_cons_of_mem hx) lock hl hc)) (not_lt.2 hc.1)
  have hget : ∀ k, (w.locks.put (claimedLock w.clock jobKey holder ttlMinutes) rfl).get? k
      = if jobKey = k then some (claimedLock w.clock jobKey holder ttlMinutes) else w.locks.get? k := Table.get?_put _ _ _
  have hrest := h.leave
  refine ⟨fun x hx lock hl hc => ?_, ?_, fun hlost k row hrow => ?_⟩
  · show Table.get? _ lock.jobKey = _
    rw [hget]
    rcases Multiset.mem_cons.1 hx with rfl | hx
    · obtain rfl := Option.some.inj hl
      exact if_pos rfl
    · rw [if_neg (hother x hx lock hl hc)]
      exact hrest.row x hx lock hl hc
  · show (liveKeys w _).Nodup
    rw [liveKeys_cons, Option.filter_some]
    split
    · exact hrest.apart
    · rename_i k hk
      split at hk
      · obtain rfl : jobKey = k := Option.some.inj hk
        refine Multiset.nodup_cons.2 ⟨fun hmem => ?_, hrest.apart⟩
        obtain ⟨x, hx, lock, hl, hc, heq⟩ := mem_liveKeys.1 hmem
        exact hother x hx lock hl hc heq.symm
      · cases hk
  · rw [hget] at hrow
    by_cases hk : jobKey = k
    · rw [if_pos hk] at hrow
      exact Or.inr ⟨_, Multiset.mem_cons_self _ _, hrow⟩
    · rw [if_neg hk] at hrow
      exact (hrest.left hlost k row hrow).imp_right (fun ⟨x, hx, hl⟩ => ⟨x, Multiset.mem_cons_of_mem hx, hl⟩)

/-- **A release takes away no row of another's that stays live**: the lock was live, and then the row is its own; or the
job is overrun, if it was not already. -/
theorem release (h : LocksHeld lost before w ((i, some lock) ::ₘ ls)) :
    LocksHeld lost before (w.release lock lock.jobKey lock.holder) ((i, none) ::ₘ ls) := by
  have hlive : ∀ lock', (w.release lock lock.jobKey lock.holder).Live lock' → w.Live lock' := by
    rintro lock' ⟨hclock, hoverrun⟩
    unfold JobWorld.release at hclock hoverrun
    dsimp only at hclock hoverrun
    split at hoverrun
    · exact ⟨hclock, hoverrun⟩
    · exact ⟨hclock, fun hmem => hoverrun (List.mem_cons_of_mem _ hmem)⟩
  have hother : ∀ x ∈ ls, ∀ lock', x.2 = some lock' → (w.release lock lock.jobKey lock.holder).Live lock' →
      lock'.jobKey ≠ lock.jobKey := by
    intro x hx lock' hl hc heq
    have hc' := hlive lock' hc
    by_cases hexpired : w.clock ≤ lock.expiresAt
    · -- both locks are live, and for one job
      have hown : w.Live lock := ⟨hexpired, heq ▸ hc'.2⟩
      have hapart := h.apart
      rw [liveKeys_cons, Option.filter_some, if_pos (decide_eq_true hown)] at hapart
      exact (Multiset.nodup_cons.1 hapart).1 (mem_liveKeys.2 ⟨x, hx, lock', hl, hc', heq⟩)
    · have hoverrun := hc.2
      unfold JobWorld.release at hoverrun
      rw [if_neg hexpired, heq] at hoverrun
      exact hoverrun List.mem_cons_self
  refine ⟨fun x hx lock' hl hc => ?_, ?_, fun hlost k row hrow => ?_⟩
  · rcases Multiset.mem_cons.1 hx with rfl | hx
    · cases hl
    · show (releaseJobLock lock.jobKey lock.holder w.locks).2.get? lock'.jobKey = _
      rw [get?_releaseJobLock, h.row x (Multiset.mem_cons_of_mem hx) lock' hl (hlive lock' hc)]
      simp [Option.filter, hother x hx lock' hl hc]
  · rw [liveKeys_cons]
    exact Multiset.nodup_of_le ((liveKeys_le hlive).trans (liveKeys_cons_le w i (some lock) ls)) h.apart
  · have hrow : (releaseJobLock lock.jobKey lock.holder w.locks).2.get? k = some row := hrow
    rw [get?_releaseJobLock] at hrow
    obtain ⟨hrow, hnot⟩ := Option.mem_filter_iff.1 hrow
    refine (h.left hlost k row hrow).imp_right (fun ⟨x, hx, hl⟩ => ?_)
    rcases Multiset.mem_cons.1 hx with rfl | hx
    · obtain rfl := Option.some.inj hl
      exact absurd ⟨(Table.key_of_get? hrow).symm, rfl⟩ (of_decide_eq_true hnot)
    · exact ⟨x, Multiset.mem_cons_of_mem hx, hl⟩

/-- The lock is given up with its row left in place. -/
theorem giveUp (hlost : lost) (h : LocksHeld lost before w ((i, some lock) ::ₘ ls)) :
    LocksHeld lost before w ((i, none) ::ₘ ls) := by
  refine ⟨fun x hx lock' hl => ?_, ?_, fun h => absurd hlost h⟩
  · rcases Multiset.mem_cons.1 hx with rfl | hx
    · cases hl
    · exact h.row x (Multiset.mem_cons_of_mem hx) lock' hl
  · rw [liveKeys_cons]
    exact Multiset.nodup_of_le (liveKeys_cons_le w i (some lock) ls) h.apart

end LocksHeld

/-- A claim whose answer is lost: the row stands, and no process has it. -/
theorem LocksHeld.lostClaim (hlost : lost) (h : LocksHeld lost before w ((i, none) ::ₘ ls)) {jobKey holder : String}
    {ttlMinutes : Int} : LocksHeld lost before (w.claim jobKey holder ttlMinutes) ((i, none) ::ₘ ls) := by
  unfold JobWorld.claim
  rcases claimJobLock_cases w.clock jobKey holder ttlMinutes w.locks with ⟨hfree, hclaim⟩ | ⟨-, hclaim⟩
  · rw [hclaim]
    exact (h.claim hfree).giveUp hlost
  · rw [hclaim]
    exact h

/-- The answers of a claim: it got the lock, which was free or expired, or did not, or failed. -/
theorem jobAnswers_claim {jobKey holder : String} {ttlMinutes : Int} {r : Except JobError (Option JobLock)}
    (hans : JobAnswers (W := W) lost (.claimJobLock jobKey holder ttlMinutes) w r w') :
    ((∀ row ∈ w.locks.get? jobKey, row.expiresAt < w.clock) ∧
      r = .ok (some (claimedLock w.clock jobKey holder ttlMinutes)) ∧
      w' = { w with locks := w.locks.put (claimedLock w.clock jobKey holder ttlMinutes) rfl }) ∨
    (r = .ok none ∧ w' = w) ∨
    ∃ e, r = .error e ∧ (w' = w ∨ lost ∧ w' = w.claim jobKey holder ttlMinutes) := by
  rcases hans with ⟨hr, hw⟩ | h
  · unfold JobWorld.claim at hw
    rcases claimJobLock_cases w.clock jobKey holder ttlMinutes w.locks with ⟨hfree, hclaim⟩ | ⟨-, hclaim⟩
    · rw [hclaim] at hr hw
      exact Or.inl ⟨hfree, hr, hw⟩
    · rw [hclaim] at hr hw
      exact Or.inr (Or.inl ⟨hr, hw⟩)
  · exact Or.inr (Or.inr h)

/-- **Every call of a job keeps the locks held.** -/
theorem jobTurn_held {l l' : JobStanding} {ρ : Type} {op : JobOp W ρ} {r : Except JobError ρ}
    (hturn : JobTurn l op r l') (hans : JobAnswers lost op w r w') (h : LocksHeld lost before w ((i, l) ::ₘ ls)) :
    LocksHeld lost before w' ((i, l') ::ₘ ls) := by
  cases hturn with
  | @got lock ttlMinutes =>
    rcases jobAnswers_claim hans with ⟨hfree, hr, hw⟩ | ⟨hr, -⟩ | ⟨e, hr, -⟩
    · have hlock : some lock = some (claimedLock w.clock lock.jobKey lock.holder ttlMinutes) := Except.ok.inj hr
      rw [hw, hlock]
      exact h.claim hfree
    · cases hr
    · cases hr
  | refused =>
    rcases jobAnswers_claim hans with ⟨-, hr, -⟩ | ⟨-, rfl⟩ | ⟨e, hr, -⟩
    · cases hr
    · exact h
    · cases hr
  | failed =>
    rcases jobAnswers_claim hans with ⟨-, hr, -⟩ | ⟨hr, -⟩ | ⟨e, -, rfl | ⟨hlost, rfl⟩⟩
    · cases hr
    · cases hr
    · exact h
    · exact h.lostClaim hlost
  | works =>
    obtain rfl := hans
    exact h
  | @released lock r =>
    obtain ⟨-, rfl⟩ | ⟨hlost, e, -, rfl | rfl⟩ := hans
    · exact h.release
    · exact h.giveUp hlost
    · exact h.release
  | other =>
    obtain rfl := hans
    exact h

/-- **The protocol of the job locks.** -/
def jobProtocol (lost : Prop) (before : JobLockTable) (tasks : ι → JobTask W α) :
    Protocol (jobPool lost tasks) JobStanding where
  fresh := none
  turn _ := JobTurn
  free l := l = none
  inv := LocksHeld lost before
  start {_ i _} _ h := h.enter i
  call hturn hans h := jobTurn_held hturn hans h
  finish hfree h := by
    subst hfree
    exact h.leave
  outside hout h := h.tick hout.1 hout.2.1 hout.2.2

/-! ## The jobs follow it -/

variable {tasks : ι → JobTask W α}

/-- A program of a job, from having no lock to having none. -/
abbrev Unlocked (lost : Prop) (tasks : ι → JobTask W α) (p : JobProg W β) : Prop :=
  Follows (jobPool lost tasks).Possible JobTurn (fun _ l => l = none) p none

theorem underLock_follows (lock : JobLock) : ∀ p : Prog W JobError β,
    Follows (jobPool lost tasks).Possible JobTurn (fun _ l => l = some lock) (underLock lock p) (some lock)
  | .ret _ => rfl
  | .raise _ => rfl
  | .call _ k => fun r _ => ⟨some lock, .works, underLock_follows lock (k r)⟩

theorem releaseLock_follows (r : JobRunner) (lock : JobLock) (hkey : lock.jobKey = r.jobKey)
    (hholder : lock.holder = r.holder) :
    Follows (jobPool lost tasks).Possible JobTurn (fun _ l => l = none) (r.releaseLock (W := W) lock) (some lock) := by
  unfold JobRunner.releaseLock
  rw [← hkey, ← hholder]
  have hrelease : Follows (jobPool lost tasks).Possible JobTurn (fun _ l => l = none)
      (.perform (.releaseJobLock lock lock.jobKey lock.holder) : JobProg W Bool) (some lock) :=
    Follows.perform (fun answer _ => ⟨none, .released, rfl⟩)
  exact Follows.bind (R := fun _ l => l = none) (fun _ _ hl => Follows.ret hl) (fun _ _ hl => hl) hrelease

/-- The standing after a claim. -/
def JobRunner.Claimed (r : JobRunner) : Except JobError (Option JobLock) → JobStanding → Prop
  | .ok (some lock), l => l = some lock ∧ lock.jobKey = r.jobKey ∧ lock.holder = r.holder
  | .ok none, l => l = none
  | .error _, l => l = none

/-- A claim, and what is done with the lock or without. -/
theorem claimLock_follows (r : JobRunner) {f : Option JobLock → JobProg W β} (hnone : Unlocked lost tasks (f none))
    (hsome : ∀ lock : JobLock, lock.jobKey = r.jobKey → lock.holder = r.holder →
      Follows (jobPool lost tasks).Possible JobTurn (fun _ l => l = none) (f (some lock)) (some lock)) :
    Unlocked lost tasks (r.claimLock >>= f) := by
  have hclaim : Follows (jobPool lost tasks).Possible JobTurn r.Claimed (r.claimLock : JobProg W (Option JobLock))
      none := by
    refine Follows.perform (fun answer hposs => ?_)
    obtain ⟨w, w', hans⟩ := hposs
    have hans : JobAnswers (W := W) lost (.claimJobLock r.jobKey r.holder r.ttlMinutes) w answer w' := hans
    rcases jobAnswers_claim hans with ⟨-, rfl, -⟩ | ⟨rfl, -⟩ | ⟨e, rfl, -⟩
    · have hgot : JobTurn (W := W) none (.claimJobLock r.jobKey r.holder r.ttlMinutes)
          (.ok (some (claimedLock w.clock r.jobKey r.holder r.ttlMinutes))) _ :=
        JobTurn.got (claimedLock w.clock r.jobKey r.holder r.ttlMinutes)
      exact ⟨_, hgot, rfl, rfl, rfl⟩
    · exact ⟨none, .refused, rfl⟩
    · exact ⟨none, .failed, rfl⟩
  refine Follows.bind (Q := r.Claimed) (R := fun _ l => l = none) (fun answer l hl => ?_) (fun e l hl => hl) hclaim
  cases answer with
  | none =>
    obtain rfl : l = none := hl
    exact hnone
  | some lock =>
    obtain ⟨rfl, hkey, hholder⟩ := hl
    exact hsome lock hkey hholder

/-- A job of the scheduler or of the admin: a claim, and with the lock a body whose lock is released finally. -/
theorem lockedJob_follows (r : JobRunner) {f : Option JobLock → JobProg W β} {p : JobLock → JobProg W β}
    {q : JobLock → JobProg W Unit} (hnone : ∃ b, f none = pure b)
    (hsome : ∀ lock, f (some lock) = Prog.finallyDo (p lock) (q lock))
    (hp : ∀ lock, Follows (jobPool lost tasks).Possible JobTurn (fun _ l => l = some lock) (p lock) (some lock))
    (hq : ∀ lock : JobLock, lock.jobKey = r.jobKey → lock.holder = r.holder →
      Follows (jobPool lost tasks).Possible JobTurn (fun _ l => l = none) (q lock) (some lock)) :
    Unlocked lost tasks (r.claimLock >>= f) := by
  refine claimLock_follows r ?_ (fun lock hkey hholder => ?_)
  · obtain ⟨b, hb⟩ := hnone
    rw [hb]
    exact rfl
  · rw [hsome]
    refine Follows.finallyDo (I := fun l => l = some lock) (hp lock) (fun l hl => ?_)
    subst hl
    exact hq lock hkey hholder

theorem scheduledJob_unlocked (r : JobRunner) (locked : JobReply α) (done : β → JobReply α) (body : Prog W JobError β) :
    Unlocked lost tasks (scheduledJob r locked done body) := by
  refine lockedJob_follows r (p := fun lock => underLock lock body >>= fun b => pure (done b)) (q := r.releaseLock)
    ⟨locked, rfl⟩ (fun _ => rfl) (fun lock => ?_) (releaseLock_follows r)
  exact Follows.bind (Q := fun _ l => l = some lock) (R := fun _ l => l = some lock) (fun _ _ hl => Follows.ret hl)
    (fun _ _ hl => hl) (underLock_follows lock body)

theorem triggeredJob_unlocked (r : JobRunner) (failed : String) (body : Prog W JobError α) :
    Unlocked lost tasks (triggeredJob r failed body) := by
  refine lockedJob_follows r (q := fun lock => (r.releaseLock lock).tryCatch (fun _ => pure ())) ⟨_, rfl⟩ (fun _ => rfl)
    (fun lock => ?_) (fun lock hkey hholder => ?_)
  · refine Follows.tryCatch (Q := fun _ l => l = some lock) (fun _ _ hl => hl) (fun e l hl => ?_) ?_
    · cases e with
      | http e => exact Follows.raise hl
      | exception message => exact Follows.raise hl
    · exact Follows.bind (Q := fun _ l => l = some lock) (fun _ _ hl => Follows.ret hl) (fun _ _ hl => hl)
        (underLock_follows lock body)
  · exact Follows.tryCatch (Q := fun _ l => l = none) (fun _ _ hl => hl) (fun _ _ hl => Follows.ret hl)
      (releaseLock_follows r lock hkey hholder)

/-- One job after another. -/
theorem unlocked_bind {γ : Type} {p : JobProg W β} {f : β → JobProg W γ} (hp : Unlocked lost tasks p)
    (hf : ∀ b, Unlocked lost tasks (f b)) : Unlocked lost tasks (p >>= f) := by
  refine Follows.bind (Q := fun _ l => l = none) (fun b l hl => ?_) (fun _ _ hl => hl) hp
  subst hl
  exact hf b

theorem other_unlocked {ρ : Type} (op : W ρ) : Unlocked lost tasks (.perform (.other op) : JobProg W ρ) :=
  Follows.perform (fun _ _ => ⟨none, .other, rfl⟩)

theorem runCatchupTask_unlocked (lastSuccess : W (Option Time)) (nowDt : W Time) (interval : Int)
    (ingest : Prog W JobError Unit) (engine : Prog W JobError α) :
    Unlocked lost tasks (runCatchupTask lastSuccess nowDt interval ingest engine) := by
  have hcatchUp : Unlocked lost tasks (runIngestionJob (α := α) ingest >>= fun _ =>
      runForecastJob engine >>= fun _ => (pure .none : JobProg W (JobReply α))) :=
    unlocked_bind (scheduledJob_unlocked _ _ _ ingest) (fun _ =>
      unlocked_bind (scheduledJob_unlocked _ _ _ engine) (fun _ => rfl))
  refine Follows.tryCatch (Q := fun _ l => l = none) (fun _ _ hl => hl) (fun _ _ hl => Follows.ret hl) ?_
  refine unlocked_bind (other_unlocked lastSuccess) (fun lastRun => ?_)
  cases lastRun with
  | none => exact hcatchUp
  | some lastRun =>
    refine unlocked_bind (other_unlocked nowDt) (fun now => ?_)
    show Unlocked lost tasks (if _ then _ else _)
    split
    · exact rfl
    · exact hcatchUp

/-- **Every job follows the protocol.** -/
theorem code_unlocked (task : JobTask W α) : Unlocked lost tasks task.code := by
  cases task with
  | alerts checker => exact scheduledJob_unlocked _ _ _ checker
  | staleForecasts markStaleForecasts => exact scheduledJob_unlocked _ _ _ markStaleForecasts
  | expireOffers expireStaleOffers => exact scheduledJob_unlocked _ _ _ expireStaleOffers
  | ingestion ingest => exact scheduledJob_unlocked _ _ _ ingest
  | forecast engine => exact scheduledJob_unlocked _ _ _ engine
  | adminForecast engine => exact triggeredJob_unlocked _ _ engine
  | adminAlertCheck checker => exact triggeredJob_unlocked _ _ checker
  | catchup lastSuccess nowDt interval ingest engine =>
    exact runCatchupTask_unlocked lastSuccess nowDt interval ingest engine

/-! ## What holds in any interleaving -/

/-- The locks are held as the protocol has it, and each job in flight has its standing. -/
theorem jobs_reach {locks : JobLockTable} {clock : Time} {c : JobWorld × (jobPool lost tasks).Threads}
    (hrun : (jobPool lost tasks).Run (⟨locks, clock, []⟩, 0) c) : ∃ ls, LocksHeld lost locks c.1 ls ∧
      Multiset.Rel (jobProtocol lost locks tasks).Seen c.2 ls :=
  (jobProtocol lost locks tasks).reach (fun i => code_unlocked (tasks i)) LocksHeld.start hrun

/-- A job about to work under a lock has it. -/
theorem has_lock {t : JobProg W (JobReply α)} {x : ι × JobStanding} {before : JobLockTable} {ρ : Type} {op : W ρ}
    {k : Except JobError ρ → JobProg W (JobReply α)} (hx : (jobProtocol lost before tasks).Seen (i, t) x)
    (ht : t = .call (.work lock op) k) : x.2 = some lock := by
  subst ht
  have hworld : JobAnswers lost (.work lock op) ⟨before, 0, []⟩ (.error (.exception "")) ⟨before, 0, []⟩ := rfl
  obtain ⟨j, l⟩ := x
  obtain ⟨l', hturn, -⟩ := hx.2 _ ⟨_, _, hworld⟩
  have hturn : JobTurn l (.work lock op) (.error (.exception "")) l' := hturn
  cases hturn with
  | works => rfl

/-- **No two jobs are at work for one job key at a time**, whatever they do and in whatever order, while neither's lock
has expired, if no lock of that job was released after it had expired. -/
theorem bodies_exclusive (lost : Prop) (tasks : ι → JobTask W α) (locks : JobLockTable) (clock : Time) {w : JobWorld}
    {i j : ι} {lock lock' : JobLock} {ρ ρ' : Type} {op : W ρ} {op' : W ρ'}
    {k : Except JobError ρ → JobProg W (JobReply α)} {k' : Except JobError ρ' → JobProg W (JobReply α)}
    {ts : (jobPool lost tasks).Threads}
    (hrun : (jobPool lost tasks).Run (⟨locks, clock, []⟩, 0)
      (w, (i, .call (.work lock op) k) ::ₘ (j, .call (.work lock' op') k') ::ₘ ts))
    (hlive : w.clock ≤ lock.expiresAt) (hlive' : w.clock ≤ lock'.expiresAt) (hreleased : lock.jobKey ∉ w.overrun) :
    lock.jobKey ≠ lock'.jobKey := by
  obtain ⟨ls, hheld, hrel⟩ := jobs_reach hrun
  obtain ⟨x, ls₁, hx, hrel₁, rfl⟩ := Multiset.rel_cons_left.1 hrel
  obtain ⟨x', ls₂, hx', -, rfl⟩ := Multiset.rel_cons_left.1 hrel₁
  have hlock := has_lock hx rfl
  have hlock' := has_lock hx' rfl
  obtain ⟨i, l⟩ := x
  obtain ⟨j, l'⟩ := x'
  subst hlock hlock'
  have hapart := hheld.apart
  rw [liveKeys_cons, Option.filter_some, if_pos (decide_eq_true ⟨hlive, hreleased⟩)] at hapart
  intro heq
  refine (Multiset.nodup_cons.1 hapart).1 (mem_liveKeys.2 ⟨_, Multiset.mem_cons_self _ _, lock', rfl, ?_, heq.symm⟩)
  exact ⟨hlive', heq ▸ hreleased⟩

/-- A body of one call. -/
inductive OneCall : Type → Type 1
  | callOnce : OneCall Unit

/-- The scheduler's check and its forecasts. -/
def checkAndForecast : Bool → JobTask OneCall Unit
  | true => .alerts (.perform .callOnce)
  | false => .forecast (.perform .callOnce)

def nothingClaimed : JobWorld := ⟨.empty, 0, []⟩

def checkClaimed : JobWorld := nothingClaimed.claim "alert_check" "scheduler" 45

/-- Both are at work. -/
theorem bodies_exclusive_both : (claimedLock 0 "forecast" "scheduler" 15).jobKey
    ≠ (claimedLock 0 "alert_check" "scheduler" 45).jobKey := by
  have hcheck : JobAnswers (W := OneCall) False (.claimJobLock "alert_check" "scheduler" 45) nothingClaimed
      (.ok (some (claimedLock 0 "alert_check" "scheduler" 45))) checkClaimed := Or.inl ⟨by decide, rfl⟩
  have hforecast : JobAnswers (W := OneCall) False (.claimJobLock "forecast" "scheduler" 15) checkClaimed
      (.ok (some (claimedLock 0 "forecast" "scheduler" 15))) (checkClaimed.claim "forecast" "scheduler" 15) :=
    Or.inl ⟨by decide, rfl⟩
  have hstart : (jobPool False checkAndForecast).Run (nothingClaimed, 0) (nothingClaimed, _) :=
    Pool.Run.start (i := true) Relation.ReflTransGen.refl trivial
  have hrun := Pool.Run.call hstart hcheck
  have hboth := Pool.Run.call (Pool.Run.start (i := false) hrun trivial) hforecast
  exact bodies_exclusive False checkAndForecast .empty 0 hboth (by decide) (by decide) (by decide)

/-- **Jobs leave no lock behind**: when every one of them has ended, however late, the only locks are from before. -/
theorem locks_freed (tasks : ι → JobTask W α) (locks : JobLockTable) (clock : Time) {w : JobWorld}
    (hrun : (jobPool False tasks).Run (⟨locks, clock, []⟩, 0) (w, 0)) (k : String) (row : JobLock)
    (hrow : w.locks.get? k = some row) : locks.get? k = some row := by
  obtain ⟨ls, hheld, hrel⟩ := jobs_reach hrun
  obtain rfl : ls = 0 := Multiset.rel_zero_left.1 hrel
  rcases hheld.left (fun h => h) k row hrow with h | ⟨x, hx, -⟩
  · exact h
  · exact absurd hx (Multiset.notMem_zero x)

/-- A row that a crashed process left. -/
def leftLock : JobLock := claimedLock 0 "mark_stale" "scheduler" 45

def leftBehind : JobWorld := ⟨Table.put .empty leftLock rfl, 0, []⟩

/-- The check runs for an hour and fails; its own row is gone, and the other is still there. -/
theorem locks_freed_failed : leftBehind.locks.get? "mark_stale" = some leftLock := by
  have hclaim : JobAnswers (W := OneCall) False (.claimJobLock "alert_check" "scheduler" 45) leftBehind
      (.ok (some (claimedLock 0 "alert_check" "scheduler" 45))) (leftBehind.claim "alert_check" "scheduler" 45) :=
    Or.inl ⟨by decide, rfl⟩
  have hstart : (jobPool False checkAndForecast).Run (leftBehind, 0) (leftBehind, _) :=
    Pool.Run.start (i := true) Relation.ReflTransGen.refl trivial
  have hhour : ∀ ts, (jobPool False checkAndForecast).outside (leftBehind.claim "alert_check" "scheduler" 45) ts
      { leftBehind.claim "alert_check" "scheduler" 45 with clock := minutes 60 } := fun _ => ⟨by decide, rfl, rfl⟩
  have hlate := (Pool.Run.call hstart hclaim).tail (.outside (hhour _))
  have hfailed := Pool.Run.call (r := .error (.exception "timeout")) hlate rfl
  have hfreed := Pool.Run.finish (Pool.Run.call hfailed (Or.inl ⟨rfl, rfl⟩)) trivial
  exact locks_freed checkAndForecast leftBehind.locks 0 hfreed "mark_stale" leftLock (by decide)

end Held
end Jobs
end Krishi
