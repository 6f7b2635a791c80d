import KrishiBazaar.Replies
import KrishiBazaar.Lib.Limiter
/-!
# OutboundCap — how many messages a number is sent

`_allow_outbound` is the limiter of five in an hour, with a log for each number.  Times are exact: the doubles of
`time.time()` lie on a grid that their differences lie on too.
-/
namespace Krishi

open Lib

/-- A call of `_allow_outbound`, with its answer. -/
structure OutboundAnswer where
  sender : String
  now : ℚ
  allowed : Bool
  deriving DecidableEq, Repr

/-- The calls in turn, each by its sender and the clock it read. -/
def outboundAnswers : Outbound → List (String × ℚ) → List OutboundAnswer
  | _, [] => []
  | outbound, (sender, now) :: calls =>
    ⟨sender, now, (allowOutbound now sender outbound).1⟩ :: outboundAnswers (allowOutbound now sender outbound).2 calls

def OutboundAnswer.keyed (a : OutboundAnswer) : String × ℚ × Bool := (a.sender, a.now, a.allowed)

theorem allowOutbound_eq (now : ℚ) (sender : String) (outbound : Outbound) :
    allowOutbound now sender outbound = Limiter.allowKey outboundMax outboundWindowSec now sender outbound := by
  unfold allowOutbound Limiter.allowKey Limiter.allow Limiter.live
  dsimp only
  split <;> rfl

theorem map_keyed : ∀ (outbound : Outbound) (calls : List (String × ℚ)),
    (outboundAnswers outbound calls).map OutboundAnswer.keyed
      = Limiter.answersByKey outboundMax outboundWindowSec outbound calls
  | _, [] => rfl
  | outbound, (sender, now) :: calls => by
    rw [outboundAnswers, List.map_cons, map_keyed (allowOutbound now sender outbound).2 calls, Limiter.answersByKey,
      allowOutbound_eq]
    rfl

theorem map_sender : ∀ (outbound : Outbound) (calls : List (String × ℚ)),
    (outboundAnswers outbound calls).map (·.sender) = calls.map (·.1)
  | _, [] => rfl
  | outbound, (sender, now) :: calls => by
    rw [outboundAnswers, List.map_cons, map_sender (allowOutbound now sender outbound).2 calls, List.map_cons]

theorem length_filter_keyed (sender : String) (q : ℚ → Prop) [DecidablePred q] : ∀ l : List OutboundAnswer,
    (l.filter (fun a => a.sender = sender ∧ a.allowed ∧ q a.now)).length
      = ((Limiter.allowed (Limiter.callsOf sender (l.map OutboundAnswer.keyed))).filter (fun c => q c)).length
  | [] => rfl
  | ⟨s, now, ok⟩ :: l => by
    have ih := length_filter_keyed sender q l
    rw [List.map_cons, OutboundAnswer.keyed, Limiter.callsOf_cons]
    by_cases hs : s = sender
    · rw [if_pos hs, Limiter.allowed_cons, List.filter_append, List.length_append, ← ih]
      cases ok <;> by_cases hq : q now <;> simp [hs, hq, Nat.add_comm]
    · rw [if_neg hs, ← ih]
      simp [hs]

theorem filter_sender (sender : String) : ∀ (outbound : Outbound) (calls : List (String × ℚ)),
    (outboundAnswers outbound calls).filter (fun a => a.sender = sender)
      = (Limiter.callsOf sender ((outboundAnswers outbound calls).map OutboundAnswer.keyed)).map
          (fun c => ⟨sender, c.1, c.2⟩) := by
  intro outbound calls
  induction outboundAnswers outbound calls with
  | nil => rfl
  | cons a l ih =>
    rw [List.map_cons, OutboundAnswer.keyed, Limiter.callsOf_cons]
    by_cases hs : a.sender = sender
    · obtain ⟨s, now, ok⟩ := a
      obtain rfl : s = sender := hs
      simp [ih]
    · simp [hs, ih]

theorem callsOf_callsOf (sender : String) (calls : List (String × ℚ)) :
    Limiter.callsOf sender (calls.filter (fun c => c.1 = sender)) = Limiter.callsOf sender calls := by
  unfold Limiter.callsOf
  rw [List.filter_filter]
  simp

/-- **The cap is exact**: no window of an hour has more than five messages to a number, a call is refused only where five
calls of the last hour were let through, and what one number is answered does not depend on the others. -/
theorem outbound_cap (calls : List (String × ℚ)) (h : (calls.map (·.2)).Pairwise (· ≤ ·)) :
    (∀ sender t, ((outboundAnswers (fun _ => []) calls).filter (fun a =>
        a.sender = sender ∧ a.allowed ∧ t - 3600 < a.now ∧ a.now ≤ t)).length ≤ 5) ∧
      (∀ pre a post, outboundAnswers (fun _ => []) calls = pre ++ a :: post → a.allowed = false →
        5 ≤ (pre.filter (fun b => b.sender = a.sender ∧ b.allowed ∧ a.now - b.now < 3600)).length) ∧
      ∀ sender, (outboundAnswers (fun _ => []) calls).filter (fun a => a.sender = sender)
        = outboundAnswers (fun _ => []) (calls.filter (fun c => c.1 = sender)) := by
  have hone : ∀ sender, (Limiter.callsOf sender calls).Pairwise (· ≤ ·) := fun sender =>
    h.sublist ((List.filter_sublist (p := fun c : String × ℚ => c.1 = sender)).map _)
  have hkeyed : ∀ sender calls, Limiter.callsOf sender ((outboundAnswers (fun _ => []) calls).map OutboundAnswer.keyed)
      = Limiter.answers outboundMax outboundWindowSec [] (Limiter.callsOf sender calls) := by
    intro sender calls
    rw [map_keyed, Limiter.answersByKey_filter]
  refine ⟨fun sender t => ?_, fun pre a post hans hno => ?_, fun sender => ?_⟩
  · have hwindow := Limiter.allowed_window outboundMax outboundWindowSec t (hone sender)
    rw [← hkeyed] at hwindow
    exact (length_filter_keyed sender (fun c => t - 3600 < c ∧ c ≤ t) _).trans_le hwindow
  · obtain ⟨sender, now, allowed⟩ := a
    obtain rfl : allowed = false := hno
    have hplace := hkeyed sender calls
    rw [hans, List.map_append, List.map_cons, Limiter.callsOf_append, OutboundAnswer.keyed, Limiter.callsOf_cons,
      if_pos rfl] at hplace
    have hfull := Limiter.refused (hone sender) hplace.symm
    exact hfull.trans_eq (length_filter_keyed sender (fun c => now - c < 3600) pre).symm
  · rw [filter_sender, hkeyed, ← callsOf_callsOf, ← hkeyed, ← filter_sender, List.filter_eq_self]
    intro a ha
    have hmem := List.mem_map_of_mem (f := OutboundAnswer.sender) ha
    rw [map_sender] at hmem
    obtain ⟨c, hc, hsender⟩ := List.mem_map.1 hmem
    rw [← hsender]
    exact (List.mem_filter.1 hc).2

/-- Seven messages to one number, the last an hour after the first, and one to another. -/
def eightMessages : List (String × ℚ) :=
  [("+919876543210", 0), ("+919876543210", 10), ("+919876543210", 20), ("+919876543210", 30), ("+919876543210", 40),
    ("+919123456780", 45), ("+919876543210", 50), ("+919876543210", 3600)]

theorem eightMessages_capped :
    (outboundAnswers (fun _ => []) eightMessages).map (·.allowed) = [true, true, true, true, true, true, false, true] ∧
      ∀ sender t, ((outboundAnswers (fun _ => []) eightMessages).filter (fun a =>
        a.sender = sender ∧ a.allowed ∧ t - 3600 < a.now ∧ a.now ≤ t)).length ≤ 5 :=
  ⟨by decide +kernel, (outbound_cap eightMessages (by decide +kernel)).1⟩

end Krishi
