import KrishiBazaar.Checkers
/-!
# Subscribers — which texts `normalize_phone` turns into the wrong number

All but the digits of a text is thrown away, and the digits are read by their number: ten, eleven with a trunk zero, or
twelve with the country code.  A digit is what `str.isdigit` takes for one, in any script; and of the three cases only
the first looks at the digit that the subscriber's number begins with, and none at a `+`.
-/
namespace Krishi

section Subscriber

variable (cfg : CheckConfig)

def phoneDigits (s : String) : List Char := s.toList.filter cfg.isDigit

/-- `+91` and ten ASCII digits, the first of them not zero. -/
def IsSubscriber (p : String) : Prop :=
  ∃ number : List Char, p = "+91" ++ String.ofList number ∧ number.length = 10 ∧ (∀ c ∈ number, c.isDigit = true) ∧
    number.head? ≠ some '0'

/-- **No subscriber is invented**: what is returned for the text is a subscriber, is returned for itself, and has the
country code that the text has if it has one. -/
def InventsNone (s : String) : Prop :=
  ∀ p, normalizePhone cfg (some s) = some p →
    IsSubscriber p ∧ normalizePhone cfg (some p) = some p ∧
      (s.toList.head? = some '+' → (phoneDigits cfg s).take 2 = ['9', '1'])

/-- The digits are ASCII, and where they are one of the three cases the subscriber's number does not begin with zero and
a `+` is that of the country code. -/
def WellSpelled (s : String) : Prop :=
  let digits := phoneDigits cfg s
  (digits.length = 10 → digits.head? ≠ some '0' → (∀ c ∈ digits, c.isDigit = true) ∧
    (s.toList.head? = some '+' → digits.take 2 = ['9', '1'])) ∧
  (digits.length = 11 → digits.head? = some '0' → (∀ c ∈ digits, c.isDigit = true) ∧ digits[1]? ≠ some '0' ∧
    s.toList.head? ≠ some '+') ∧
  (digits.length = 12 → digits.take 2 = ['9', '1'] → (∀ c ∈ digits, c.isDigit = true) ∧ digits[2]? ≠ some '0')

variable {cfg}

theorem length_twelve {digits : List Char} : digits.length = 12 ∧ digits.take 2 = ['9', '1'] ↔
    ∃ number, number.length = 10 ∧ digits = '9' :: '1' :: number := by
  constructor
  · rintro ⟨hlen, htwo⟩
    refine ⟨digits.drop 2, by rw [List.length_drop]; omega, ?_⟩
    rw [← List.take_append_drop 2 digits, htwo]
    rfl
  · rintro ⟨number, hlen, rfl⟩
    exact ⟨by rw [List.length_cons, List.length_cons, hlen], rfl⟩

theorem length_eleven {digits : List Char} : digits.length = 11 ∧ digits.head? = some '0' ↔
    ∃ number, number.length = 10 ∧ digits = '0' :: number := by
  constructor
  · rintro ⟨hlen, hhead⟩
    obtain ⟨number, rfl⟩ := List.head?_eq_some_iff.1 hhead
    exact ⟨number, by simpa using hlen, rfl⟩
  · rintro ⟨number, hlen, rfl⟩
    exact ⟨by rw [List.length_cons, hlen], rfl⟩

/-- The three spellings of a number that is returned. -/
theorem normalizePhone_eq_some {s p : String} : normalizePhone cfg (some s) = some p ↔
    ∃ number, p = "+91" ++ String.ofList number ∧ number.length = 10 ∧
      (phoneDigits cfg s = number ∧ number.head? ≠ some '0' ∨ phoneDigits cfg s = '0' :: number ∨
        phoneDigits cfg s = '9' :: '1' :: number) := by
  unfold normalizePhone phoneDigits
  dsimp only
  generalize s.toList.filter cfg.isDigit = digits
  split
  · rename_i h
    constructor
    · intro hp
      exact ⟨digits, (Option.some.inj hp).symm, h.1, Or.inl ⟨rfl, h.2⟩⟩
    · rintro ⟨number, rfl, hlen, ⟨rfl, -⟩ | rfl | rfl⟩
      · rfl
      · exact absurd rfl h.2
      · simp [hlen] at h
  rename_i hten
  split
  · rename_i h
    obtain ⟨number, hlen, rfl⟩ := length_eleven.1 h
    constructor
    · intro hp
      exact ⟨number, (Option.some.inj hp).symm, hlen, Or.inr (Or.inl rfl)⟩
    · rintro ⟨number', rfl, hlen', ⟨hd, -⟩ | hd | hd⟩
      · simp [← hd, hlen] at hlen'
      · rw [(List.cons.inj hd).2]
        rfl
      · simp at hd
  rename_i heleven
  split
  · rename_i h
    obtain ⟨number, hlen, rfl⟩ := length_twelve.1 h
    have htext : "+" ++ String.ofList ('9' :: '1' :: number) = "+91" ++ String.ofList number := by
      rw [← String.toList_inj]
      simp
    rw [htext]
    constructor
    · intro hp
      exact ⟨number, (Option.some.inj hp).symm, hlen, Or.inr (Or.inr rfl)⟩
    · rintro ⟨number', rfl, hlen', ⟨hd, -⟩ | hd | hd⟩
      · simp [← hd, hlen] at hlen'
      · simp at hd
      · rw [(List.cons.inj (List.cons.inj hd).2).2]
  · rename_i htwelve
    constructor
    · intro hp
      cases hp
    · rintro ⟨number, -, hlen, ⟨rfl, hhead⟩ | hd | hd⟩
      · exact absurd ⟨hlen, hhead⟩ hten
      · exact absurd (length_eleven.2 ⟨number, hlen, hd⟩) heleven
      · exact absurd (length_twelve.2 ⟨number, hlen, hd⟩) htwelve

theorem subscriber_iff {number : List Char} (hlen : number.length = 10) :
    IsSubscriber ("+91" ++ String.ofList number) ↔ (∀ c ∈ number, c.isDigit = true) ∧ number.head? ≠ some '0' := by
  constructor
  · rintro ⟨number', hp, -, hdigits, hhead⟩
    have heq : number = number' := by
      have htext := congrArg String.toList hp
      simpa using htext
    rw [heq]
    exact ⟨hdigits, hhead⟩
  · rintro ⟨hdigits, hhead⟩
    exact ⟨number, rfl, hlen, hdigits, hhead⟩

/-- What is returned is returned for itself. -/
theorem normalizePhone_normalized (hascii : ∀ c : Char, c.isDigit = true → cfg.isDigit c = true)
    (hplus : cfg.isDigit '+' = false) {s p : String} (h : normalizePhone cfg (some s) = some p) :
    normalizePhone cfg (some p) = some p := by
  obtain ⟨number, rfl, hlen, hd⟩ := normalizePhone_eq_some.1 h
  have hmem : ∀ c ∈ number, c ∈ phoneDigits cfg s := by
    rcases hd with ⟨hd, -⟩ | hd | hd <;>
    · rw [hd]
      intro c hc
      simp [hc]
  have hdigits : phoneDigits cfg ("+91" ++ String.ofList number) = '9' :: '1' :: number := by
    have h9 : cfg.isDigit '9' = true := hascii '9' (by decide)
    have h1 : cfg.isDigit '1' = true := hascii '1' (by decide)
    have hself : number.filter cfg.isDigit = number :=
      List.filter_eq_self.2 (fun c hc => (List.mem_filter.1 (hmem c hc)).2)
    unfold phoneDigits
    simp [hplus, h9, h1, hself]
  exact normalizePhone_eq_some.2 ⟨number, rfl, hlen, Or.inr (Or.inr hdigits)⟩

/-- **No subscriber is invented exactly for the texts that are well spelled.** -/
theorem inventsNone_iff (cfg : CheckConfig) (hascii : ∀ c : Char, c.isDigit = true → cfg.isDigit c = true)
    (hplus : cfg.isDigit '+' = false) (s : String) : InventsNone cfg s ↔ WellSpelled cfg s := by
  constructor
  · intro h
    refine ⟨fun hlen hhead => ?_, fun hlen hhead => ?_, fun hlen htwo => ?_⟩
    · obtain ⟨hsub, -, hcode⟩ := h _ (normalizePhone_eq_some.2 ⟨_, rfl, hlen, Or.inl ⟨rfl, hhead⟩⟩)
      exact ⟨((subscriber_iff hlen).1 hsub).1, hcode⟩
    · obtain ⟨number, hten, hd⟩ := length_eleven.1 ⟨hlen, hhead⟩
      obtain ⟨hsub, -, hcode⟩ := h _ (normalizePhone_eq_some.2 ⟨number, rfl, hten, Or.inr (Or.inl hd)⟩)
      obtain ⟨hdigits, hfirst⟩ := (subscriber_iff hten).1 hsub
      rw [hd] at hcode ⊢
      refine ⟨?_, ?_, fun hp => absurd (hcode hp) (by simp)⟩
      · rw [List.forall_mem_cons]
        exact ⟨by decide, hdigits⟩
      · simpa [List.head?_eq_getElem?] using hfirst
    · obtain ⟨number, hten, hd⟩ := length_twelve.1 ⟨hlen, htwo⟩
      obtain ⟨hsub, -⟩ := h _ (normalizePhone_eq_some.2 ⟨number, rfl, hten, Or.inr (Or.inr hd)⟩)
      obtain ⟨hdigits, hfirst⟩ := (subscriber_iff hten).1 hsub
      rw [hd]
      refine ⟨?_, ?_⟩
      · rw [List.forall_mem_cons, List.forall_mem_cons]
        exact ⟨by decide, by decide, hdigits⟩
      · simpa [List.head?_eq_getElem?] using hfirst
  · rintro ⟨hten, heleven, htwelve⟩ p hp
    refine ⟨?_, normalizePhone_normalized hascii hplus hp, ?_⟩
    · obtain ⟨number, rfl, hlen, ⟨hd, hhead⟩ | hd | hd⟩ := normalizePhone_eq_some.1 hp
      · rw [hd] at hten
        exact (subscriber_iff hlen).2 ⟨(hten hlen hhead).1, hhead⟩
      · obtain ⟨hdigits, hfirst, -⟩ := heleven (length_eleven.2 ⟨number, hlen, hd⟩).1 (length_eleven.2 ⟨number, hlen, hd⟩).2
        rw [hd] at hdigits hfirst
        refine (subscriber_iff hlen).2 ⟨fun c hc => hdigits c (List.mem_cons_of_mem _ hc), ?_⟩
        simpa [List.head?_eq_getElem?] using hfirst
      · obtain ⟨hdigits, hfirst⟩ := htwelve (length_twelve.2 ⟨number, hlen, hd⟩).1 (length_twelve.2 ⟨number, hlen, hd⟩).2
        rw [hd] at hdigits hfirst
        refine (subscriber_iff hlen).2 ⟨fun c hc => hdigits c (by simp [hc]), ?_⟩
        simpa [List.head?_eq_getElem?] using hfirst
    · intro hplus'
      obtain ⟨number, rfl, hlen, ⟨hd, hhead⟩ | hd | hd⟩ := normalizePhone_eq_some.1 hp
      · rw [← hd] at hlen hhead
        exact (hten hlen hhead).2 hplus'
      · obtain ⟨-, -, hno⟩ := heleven (length_eleven.2 ⟨number, hlen, hd⟩).1 (length_eleven.2 ⟨number, hlen, hd⟩).2
        exact absurd hplus' hno
      · rw [hd]
        rfl

end Subscriber

/-! ## A number of another country, and an international prefix -/

/-- A number of Singapore becomes an Indian one, and a prefix of two zeros one that begins with zero. -/
theorem singapore_invented : normalizePhone plainConfig (some "+65 9123 4567") = some "+916591234567" ∧
    ¬ InventsNone plainConfig "+65 9123 4567" ∧
    normalizePhone plainConfig (some "00 98765 4321") = some "+910987654321" ∧
    ¬ InventsNone plainConfig "00 98765 4321" := by
  have hsingapore : normalizePhone plainConfig (some "+65 9123 4567") = some "+916591234567" := by decide +kernel
  have hzeros : normalizePhone plainConfig (some "00 98765 4321") = some "+910987654321" := by decide +kernel
  refine ⟨hsingapore, fun h => ?_, hzeros, fun h => ?_⟩
  · have hcode := (h _ hsingapore).2.2 (by decide +kernel)
    revert hcode
    decide +kernel
  · obtain ⟨number, hp, -, -, hhead⟩ := (h _ hzeros).1
    have hnumber : number = ['0', '9', '8', '7', '6', '5', '4', '3', '2', '1'] := by
      have htext := congrArg String.toList hp
      simpa using htext.symm
    exact hhead (by rw [hnumber]; rfl)

theorem trunk_zero_kept : WellSpelled plainConfig "098765 43210" ∧ InventsNone plainConfig "098765 43210" := by
  have hspelled : WellSpelled plainConfig "098765 43210" := by
    have hdigits : phoneDigits plainConfig "098765 43210" = ['0', '9', '8', '7', '6', '5', '4', '3', '2', '1', '0'] := by
      decide +kernel
    unfold WellSpelled
    rw [hdigits]
    refine ⟨fun hlen => ?_, fun _ _ => ⟨by simp, by decide, by decide +kernel⟩, fun hlen => ?_⟩ <;> cases hlen
  exact ⟨hspelled, (inventsNone_iff plainConfig (fun _ h => h) (by decide) _).2 hspelled⟩

end Krishi
