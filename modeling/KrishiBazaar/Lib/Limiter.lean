import Mathlib.Algebra.Order.Group.Defs
import Mathlib.Algebra.Order.Sub.Basic
import Mathlib.Data.List.Induction
import Mathlib.Data.List.Basic
/-!
# Limiter — a sliding log of the calls let through

A limiter keeps the times of the calls it let through, drops those that are `width` or more in the past, and lets a call
through while fewer than `max` are left.  If time does not run backwards the log always holds what still counts of the
calls let through (`live_logAfter`), so any window of that width has at most `max` of them (`allowed_window`), and a
call is refused only where `max` of them still count (`answered_iff`).  With a log for each key, the answers for a key
are those that its calls get alone (`answersByKey_filter`).
-/
namespace Lib.Limiter

variable {τ : Type} [AddCommGroup τ] [LinearOrder τ] (max : Nat) (width : τ)

/-- The times that still count at `now`. -/
def live (now : τ) (times : List τ) : List τ := times.filter (fun t => now - t < width)

/-- One call: whether it is let through, and the log it leaves. -/
def allow (now : τ) (times : List τ) : Bool × List τ :=
  if max ≤ (live width now times).length then (false, live width now times) else (true, live width now times ++ [now])

/-- The calls in turn, each with its answer. -/
def answers : List τ → List τ → List (τ × Bool)
  | _, [] => []
  | times, now :: calls => (now, (allow max width now times).1) :: answers (allow max width now times).2 calls

/-- The log that calls leave. -/
def logAfter (times calls : List τ) : List τ := calls.foldl (fun times now => (allow max width now times).2) times

/-- The times of the calls let through. -/
def allowed (calls : List (τ × Bool)) : List τ := (calls.filter (·.2)).map (·.1)

variable {max width}

theorem live_append (now : τ) (l l' : List τ) : live width now (l ++ l') = live width now l ++ live width now l' :=
  List.filter_append ..

omit [AddCommGroup τ] [LinearOrder τ] in
theorem allowed_cons (c : τ × Bool) (l : List (τ × Bool)) :
    allowed (c :: l) = (if c.2 then [c.1] else []) ++ allowed l := by
  obtain ⟨t, ok⟩ := c
  cases ok <;> rfl

omit [AddCommGroup τ] [LinearOrder τ] in
theorem allowed_append (l l' : List (τ × Bool)) : allowed (l ++ l') = allowed l ++ allowed l' := by
  unfold allowed
  rw [List.filter_append, List.map_append]

theorem answers_append : ∀ (times pre post : List τ),
    answers max width times (pre ++ post)
      = answers max width times pre ++ answers max width (logAfter max width times pre) post
  | _, [], _ => rfl
  | times, now :: pre, post => by
    rw [List.cons_append, answers, answers_append (allow max width now times).2 pre post]
    rfl

/-- A place among the answers is a place among the calls. -/
theorem answers_eq_append : ∀ {times calls : List τ} {pre post : List (τ × Bool)} {c : τ × Bool},
    answers max width times calls = pre ++ c :: post → ∃ calls' rest, calls = calls' ++ c.1 :: rest ∧
      pre = answers max width times calls' ∧ c.2 = (allow max width c.1 (logAfter max width times calls')).1
  | _, [], pre, post, c, h => absurd h.symm (by simp [answers])
  | times, now :: calls, pre, post, c, h => by
    rw [answers] at h
    cases pre with
    | nil =>
      obtain ⟨rfl, -⟩ := List.cons.inj h
      exact ⟨[], calls, rfl, rfl, rfl⟩
    | cons p pre =>
      obtain ⟨rfl, htail⟩ := List.cons.inj h
      obtain ⟨calls', rest, rfl, rfl, hc⟩ := answers_eq_append htail
      exact ⟨now :: calls', rest, rfl, rfl, hc⟩

section Ordered

variable [IsOrderedAddMonoid τ]

/-- What counts later counted before. -/
theorem live_live {now then' : τ} (h : now ≤ then') (times : List τ) :
    live width then' (live width now times) = live width then' times := by
  unfold live
  rw [List.filter_filter]
  refine List.filter_congr (fun t _ => ?_)
  by_cases ht : then' - t < width
  · have hnow : now - t < width := (sub_le_sub_right h t).trans_lt ht
    simp [ht, hnow]
  · simp [ht]

theorem live_allow {now then' : τ} (h : now ≤ then') (times : List τ) :
    live width then' (allow max width now times).2
      = live width then' (times ++ if (allow max width now times).1 then [now] else []) := by
  unfold allow
  split
  · rw [live_live h, if_neg Bool.false_ne_true, List.append_nil]
  · rw [live_append, live_live h, if_pos rfl, live_append]

variable (max width) in
/-- **The log holds what still counts of the calls let through.** -/
theorem live_logAfter : ∀ (times calls : List τ) (now : τ), (∀ c ∈ calls, c ≤ now) →
    live width now (logAfter max width times calls) = live width now (times ++ allowed (answers max width times calls))
  | times, [], now, _ => by
    show live width now times = live width now (times ++ [])
    rw [List.append_nil]
  | times, c :: calls, now, h => by
    have hc : c ≤ now := h c List.mem_cons_self
    have ih := live_logAfter (allow max width c times).2 calls now (fun c' hc' => h c' (List.mem_cons_of_mem c hc'))
    show live width now (logAfter max width (allow max width c times).2 calls) = _
    rw [ih, answers, allowed_cons, live_append, live_allow hc, ← live_append, List.append_assoc]

variable (max width) in
/-- **A call is let through exactly while fewer than `max` of the calls before it, let through, still count.** -/
theorem answered_iff {pre : List τ} {now : τ} (h : ∀ c ∈ pre, c ≤ now) :
    (allow max width now (logAfter max width [] pre)).1 = true ↔
      (live width now (allowed (answers max width [] pre))).length < max := by
  have hlog := live_logAfter max width [] pre now h
  rw [List.nil_append] at hlog
  unfold allow
  rw [hlog]
  split
  · rename_i hfull
    simpa using hfull
  · rename_i hroom
    simpa using hroom

/-- **A call is refused only where `max` of the calls before it, let through, still count.** -/
theorem refused {calls : List τ} (h : calls.Pairwise (· ≤ ·)) {pre post : List (τ × Bool)} {now : τ}
    (hans : answers max width [] calls = pre ++ (now, false) :: post) : max ≤ (live width now (allowed pre)).length := by
  obtain ⟨calls', rest, rfl, rfl, hno⟩ := answers_eq_append hans
  have hle : ∀ c ∈ calls', c ≤ now := fun c hc => (List.pairwise_append.1 h).2.2 c hc now List.mem_cons_self
  by_contra hlt
  have hyes := (answered_iff max width hle).2 (not_le.1 hlt)
  rw [← hno] at hyes
  cases hyes

/-- Before a call in the window, what is in the window still counts at the call. -/
theorem length_window_le {now t : τ} (hin : t - width < now ∧ now ≤ t) (l : List τ) :
    (l.filter (fun c => t - width < c ∧ c ≤ t)).length ≤ (live width now l).length := by
  refine (List.monotone_filter_right l (fun c hc => ?_)).length_le
  simp only [decide_eq_true_eq] at hc ⊢
  calc now - c ≤ t - c := sub_le_sub_right hin.2 c
    _ < width := sub_lt_comm.1 hc.1

variable (max width) in
/-- **No window of the width has more than `max` of the calls let through**, wherever it ends. -/
theorem allowed_window (t : τ) {calls : List τ} (h : calls.Pairwise (· ≤ ·)) :
    ((allowed (answers max width [] calls)).filter (fun c => t - width < c ∧ c ≤ t)).length ≤ max := by
  induction calls using List.reverseRecOn with
  | nil => exact Nat.zero_le max
  | append_singleton calls now ih =>
    obtain ⟨hcalls, -, hlast⟩ := List.pairwise_append.1 h
    specialize ih hcalls
    have hroom := answered_iff max width (fun c hc => hlast c hc now List.mem_cons_self)
    have hsnoc : allowed (answers max width [] (calls ++ [now])) = allowed (answers max width [] calls)
        ++ if (allow max width now (logAfter max width [] calls)).1 then [now] else [] := by
      rw [answers_append, allowed_append, answers, allowed_cons]
      exact congrArg _ (List.append_nil _)
    rw [hsnoc]
    by_cases hin : t - width < now ∧ now ≤ t
    · have hle := length_window_le hin (allowed (answers max width [] calls))
      split
      · have hlt := hroom.1 ‹_›
        simp only [List.filter_append, List.length_append, List.filter_cons, hin, and_self, decide_true, if_true,
          List.filter_nil, List.length_singleton]
        omega
      · rwa [List.append_nil]
    · have hout : (if (allow max width now (logAfter max width [] calls)).1 then [now] else []).filter
          (fun c => t - width < c ∧ c ≤ t) = [] := by
        split <;> simp_all
      rwa [List.filter_append, hout, List.append_nil]

end Ordered

/-! ## A log for each key -/

section Keyed

variable {κ : Type} [DecidableEq κ]

def allowKey (max : Nat) (width : τ) (now : τ) (k : κ) (log : κ → List τ) : Bool × (κ → List τ) :=
  ((allow max width now (log k)).1, fun k' => if k' = k then (allow max width now (log k)).2 else log k')

def answersByKey (max : Nat) (width : τ) : (κ → List τ) → List (κ × τ) → List (κ × τ × Bool)
  | _, [] => []
  | log, (k, now) :: calls =>
    (k, now, (allowKey max width now k log).1) :: answersByKey max width (allowKey max width now k log).2 calls

/-- The calls of one key. -/
def callsOf {α : Type} (k : κ) (calls : List (κ × α)) : List α := (calls.filter (fun c => c.1 = k)).map (·.2)

omit [AddCommGroup τ] [LinearOrder τ] in
theorem callsOf_cons {α : Type} (k k' : κ) (a : α) (calls : List (κ × α)) :
    callsOf k ((k', a) :: calls) = if k' = k then a :: callsOf k calls else callsOf k calls := by
  unfold callsOf
  by_cases h : k' = k <;> simp [h]

omit [AddCommGroup τ] [LinearOrder τ] in
theorem callsOf_append {α : Type} (k : κ) (l l' : List (κ × α)) : callsOf k (l ++ l') = callsOf k l ++ callsOf k l' := by
  unfold callsOf
  rw [List.filter_append, List.map_append]

/-- **The answers for a key are those that its calls get alone.** -/
theorem answersByKey_filter (k : κ) : ∀ (log : κ → List τ) (calls : List (κ × τ)),
    callsOf k (answersByKey max width log calls) = answers max width (log k) (callsOf k calls)
  | _, [] => rfl
  | log, (k', now) :: calls => by
    rw [answersByKey, callsOf_cons, callsOf_cons, answersByKey_filter k (allowKey max width now k' log).2 calls]
    by_cases h : k' = k
    · subst h
      rw [if_pos rfl, if_pos rfl, answers]
      simp [allowKey]
    · rw [if_neg h, if_neg h]
      simp [allowKey, Ne.symm h]

end Keyed
end Lib.Limiter
