import KrishiBazaar.Unregistered
import Mathlib.Data.List.TakeWhile
/-!
# SaleSms — the reply that a blank name loses

`format_sale_sms` shows the first word of the market and of the buyer, and asks `split()[0]` for it of every text that is
not empty.  A text of blanks is not empty and has no words.  Apart from these two the reply is always made, says the price
and what to do, and a buyer never makes it longer than a message may be (`saleSms_sound_iff`).
-/
namespace Krishi

open Lib

/-- A text with characters but no word. -/
def BlankText (cfg : ReplyConfig) (text : Option String) : Prop :=
  ∃ t ∈ text, t ≠ "" ∧ ∀ c ∈ t.toList, cfg.isSpace c = true

/-- What a recommendation asks for. -/
def saleAction (cfg : ReplyConfig) (recommendation : String) : String :=
  let action := cfg.lower (if recommendation = "" then "wait" else recommendation)
  if action = "sell_now" ∨ action = "sell-now" then "sell" else action

/-- The word shown of a text that may be missing. -/
def shownWord (cfg : ReplyConfig) (text : Option String) : Except Fault String :=
  match text.filter (· ≠ "") with
  | some text => firstWord cfg text
  | none => pure ""

/-- The reply as far as the action word, its last full stop left out. -/
def saleStem (lang name p mkt verb : String) : String :=
  if lang = "mr" ∨ lang = "hi" ∨ mkt = "" then "KB: " ++ name ++ " ₹" ++ p ++ ". " ++ verb
  else "KB: " ++ name ++ " ₹" ++ p ++ " " ++ mkt ++ ". " ++ verb

def withBuyer (msg word : String) : String :=
  let short := String.ofList (word.toList.take 12)
  let candidate := stripDots msg ++ ". " ++ short ++ "."
  if short ≠ "" ∧ candidate.length ≤ 70 then candidate else msg

section Reply

variable (cfg : ReplyConfig) (lang name : String) (price : Option ℚ) (market : Option String) (recommendation : String)
  (buyer : Option String)

/-- The reply is made of the two words shown, and of nothing else that can fail. -/
theorem formatSaleSms_eq : formatSaleSms cfg lang name price market recommendation buyer = (do
    let mkt ← shownWord cfg market
    let word ← shownWord cfg buyer
    pure (withBuyer (saleStem lang name (toString ((price.map pyRound).getD 0)) mkt
      (saleVerb lang (saleAction cfg recommendation)) ++ ".") word)) := by
  have hstem : ∀ p mkt verb : String, (if lang = "mr" ∨ lang = "hi" ∨ mkt = "" then
      "KB: " ++ name ++ " ₹" ++ p ++ ". " ++ verb ++ "."
      else "KB: " ++ name ++ " ₹" ++ p ++ " " ++ mkt ++ ". " ++ verb ++ ".") = saleStem lang name p mkt verb ++ "." := by
    intro p mkt verb
    unfold saleStem
    split <;> rfl
  unfold formatSaleSms shownWord
  simp only [hstem]
  cases market.filter (· ≠ "") with
  | none => cases buyer.filter (· ≠ "") <;> simp [withBuyer, saleAction]
  | some market => cases buyer.filter (· ≠ "") <;> simp [withBuyer, saleAction]

end Reply

theorem firstWord_ok_iff {cfg : ReplyConfig} {text : String} :
    (∃ word, firstWord cfg text = .ok word) ↔ ∃ c ∈ text.toList, cfg.isSpace c = false := by
  unfold firstWord
  cases hrest : text.toList.dropWhile cfg.isSpace with
  | nil =>
    refine iff_of_false (by simp) ?_
    rintro ⟨c, hc, hspace⟩
    have := List.dropWhile_eq_nil_iff.1 hrest c hc
    rw [hspace] at this
    cases this
  | cons c l =>
    have hc : cfg.isSpace c = false := by
      have hhead := List.head?_dropWhile_not cfg.isSpace text.toList
      rw [hrest] at hhead
      simpa using hhead
    refine iff_of_true ?_ ⟨c, ?_, hc⟩
    · exact ⟨_, by rw [List.takeWhile_cons_of_pos (by simp [hc])]⟩
    · exact (List.dropWhile_suffix _).subset (hrest ▸ List.mem_cons_self)

theorem shownWord_ok_iff {cfg : ReplyConfig} {text : Option String} :
    (∃ word, shownWord cfg text = .ok word) ↔ ¬ BlankText cfg text := by
  unfold shownWord BlankText
  cases text with
  | none => simp [pure, Except.pure]
  | some t =>
    by_cases ht : t = ""
    · simp [ht, Option.filter, pure, Except.pure]
    · simp [ht, Option.filter, firstWord_ok_iff]

theorem stripDots_dot {s : String} {l : List Char} {c : Char} (h : s.toList = l ++ [c]) (hc : c ≠ '.') :
    stripDots (s ++ ".") = s := by
  unfold stripDots
  have hdrop : (s ++ ".").toList.reverse.dropWhile (· = '.') = s.toList.reverse := by
    simp [h, hc]
  rw [hdrop, List.reverse_reverse, String.ofList_toList]

/-- No action word ends in a full stop. -/
theorem saleVerb_last (lang action : String) : ∃ l c, (saleVerb lang action).toList = l ++ [c] ∧ c ≠ '.' := by
  have hlast : ∀ verb : String, verb ≠ "" → verb.toList.getLast? ≠ some '.' →
      ∃ l c, verb.toList = l ++ [c] ∧ c ≠ '.' := by
    intro verb hne hdot
    rcases List.eq_nil_or_concat verb.toList with hnil | ⟨l, c, hl⟩
    · exact absurd (String.toList_eq_nil_iff.1 hnil) hne
    · exact ⟨l, c, by simpa using hl, by simpa [hl] using hdot⟩
  unfold saleVerb
  split_ifs <;> exact hlast _ (by decide) (by decide)

theorem stripDots_stem (lang name p mkt action : String) :
    stripDots (saleStem lang name p mkt (saleVerb lang action) ++ ".")
      = saleStem lang name p mkt (saleVerb lang action) := by
  obtain ⟨l, c, hl, hc⟩ := saleVerb_last lang action
  have hstem : ∃ start : String, saleStem lang name p mkt (saleVerb lang action) = start ++ saleVerb lang action := by
    unfold saleStem
    split
    · exact ⟨_, rfl⟩
    · exact ⟨_, rfl⟩
  obtain ⟨start, hstart⟩ := hstem
  have hend : (saleStem lang name p mkt (saleVerb lang action)).toList = (start.toList ++ l) ++ [c] := by
    rw [hstart, String.toList_append, hl, List.append_assoc]
  exact stripDots_dot hend hc

/-- A message contains a text. -/
def Shows (msg text : String) : Prop := text.toList <:+: msg.toList

theorem Shows.append {msg text : String} (h : Shows msg text) (more : String) : Shows (msg ++ more) text := by
  unfold Shows at h ⊢
  rw [String.toList_append]
  exact h.trans (List.prefix_append _ _).isInfix

theorem saleStem_shows (lang name p mkt verb : String) :
    Shows (saleStem lang name p mkt verb) p ∧ Shows (saleStem lang name p mkt verb) verb := by
  have hmid : ∀ a b c : String, Shows (a ++ b ++ c) b := fun a b c => ⟨a.toList, c.toList, by simp⟩
  have hend : ∀ a b : String, Shows (a ++ b) b := fun a b => ⟨a.toList, [], by simp⟩
  unfold saleStem
  split
  · exact ⟨(hmid _ _ _).append _, hend _ _⟩
  · exact ⟨(((hmid _ _ _).append _).append _).append _, hend _ _⟩

/-- A buyer is added only where the message stays within 70 characters, and takes nothing away. -/
theorem withBuyer_sound (lang name p mkt action word : String) :
    Shows (withBuyer (saleStem lang name p mkt (saleVerb lang action) ++ ".") word) p ∧
    Shows (withBuyer (saleStem lang name p mkt (saleVerb lang action) ++ ".") word) (saleVerb lang action) ∧
    (withBuyer (saleStem lang name p mkt (saleVerb lang action) ++ ".") word).length
      ≤ max 70 (saleStem lang name p mkt (saleVerb lang action) ++ ".").length := by
  obtain ⟨hp, hverb⟩ := saleStem_shows lang name p mkt (saleVerb lang action)
  unfold withBuyer
  rw [stripDots_stem]
  dsimp only
  split
  · rename_i h
    exact ⟨((hp.append _).append _).append _, ((hverb.append _).append _).append _, le_max_of_le_left h.2⟩
  · exact ⟨hp.append _, hverb.append _, le_max_right _ _⟩

theorem withBuyer_empty (msg : String) : withBuyer msg "" = msg := by simp [withBuyer]

/-- **The reply is made exactly when neither name is blank**, and then it says the price and the action, and is no longer
than 70 characters or the reply without a buyer. -/
theorem saleSms_sound_iff (cfg : ReplyConfig) (lang name : String) (price : Option ℚ) (market : Option String)
    (recommendation : String) (buyer : Option String) :
    (∃ msg bare, formatSaleSms cfg lang name price market recommendation buyer = .ok msg ∧
      formatSaleSms cfg lang name price market recommendation none = .ok bare ∧
      Shows msg (toString ((price.map pyRound).getD 0)) ∧ Shows msg (saleVerb lang (saleAction cfg recommendation)) ∧
      msg.length ≤ max 70 bare.length) ↔
      ¬ BlankText cfg market ∧ ¬ BlankText cfg buyer := by
  have hnone : shownWord cfg none = .ok "" := rfl
  rw [← shownWord_ok_iff, ← shownWord_ok_iff]
  simp only [formatSaleSms_eq, hnone]
  constructor
  · rintro ⟨msg, bare, hmsg, -⟩
    cases hm : shownWord cfg market with
    | error e =>
      rw [hm] at hmsg
      cases hmsg
    | ok mkt =>
      cases hb : shownWord cfg buyer with
      | error e =>
        rw [hm, hb] at hmsg
        cases hmsg
      | ok word => exact ⟨⟨mkt, rfl⟩, word, rfl⟩
  · rintro ⟨⟨mkt, hm⟩, word, hb⟩
    obtain ⟨hp, hverb, hlen⟩ := withBuyer_sound lang name (toString ((price.map pyRound).getD 0)) mkt
      (saleAction cfg recommendation) word
    rw [hm, hb]
    exact ⟨_, _, rfl, rfl, hp, hverb, by rw [withBuyer_empty]; exact hlen⟩

/-- A buyer whose name is a space. -/
theorem blank_buyer_no_sms : ¬ ∃ msg, formatSaleSms plainReplies "mr" "कांदा" (some 1800) (some "Lasalgaon") "SELL_NOW"
    (some " ") = .ok msg := by
  have hfail : (formatSaleSms plainReplies "mr" "कांदा" (some 1800) (some "Lasalgaon") "SELL_NOW" (some " ")).isOk
      = false := by decide +kernel
  rintro ⟨msg, hmsg⟩
  rw [hmsg] at hfail
  cases hfail

end Krishi
