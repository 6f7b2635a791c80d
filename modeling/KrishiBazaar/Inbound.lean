import Mathlib.Algebra.Order.Field.Rat
import Mathlib.Algebra.Order.Group.Unbundled.Abs
import Mathlib.Data.List.Induction
import Mathlib.Data.List.Nodup
/-!
# Inbound — signed webhooks and the replay cache

`notifications/inbound_verifier.py`.  A request carries a timestamp and an HMAC of its body and that timestamp; it is
taken if the timestamp is within 300 seconds of the clock *on either side*, the HMAC is right and the signature is not in
the cache.  A signature stays in the cache for 330 seconds from its arrival, which is less than the 600 seconds in which
its timestamp is near the clock.  So a signature is taken once exactly when it is not presented again 330 seconds or
more after it was presented (`accepted_once_iff`).

The HMAC and the parsing of a float are parameters of the verifier.
-/
namespace Krishi

/-- A parsed `float`. -/
inductive PyFloat
  | finite (x : ℚ)
  | inf
  | negInf
  | nan
  deriving DecidableEq

structure Verifier where
  secret : List UInt8
  headerName : String
  tsHeaderName : String
  /-- `hmac.new(key, msg, hashlib.sha256).hexdigest()` -/
  hmac : List UInt8 → List UInt8 → String
  /-- `float(text)`, or its `ValueError`. -/
  float : String → Option PyFloat

structure WebhookRequest where
  headers : String → Option String
  body : List UInt8

/-- One call of `verify`: the clock when the timestamp is checked, and when the cache is. -/
structure Call where
  request : WebhookRequest
  checkedAt : ℚ
  now : ℚ

inductive VerifyError
  | http (statusCode : Nat) (detail : String)
  /-- `compare_digest` takes only ASCII strings. -/
  | typeError
  deriving DecidableEq

/-- Replay cache: signature and expiry epoch. -/
abbrev Seen := List (String × ℚ)

def replayTtlSec : ℚ := 330

def purgeExpired (now : ℚ) (seen : Seen) : Seen := seen.filter (fun x => ¬ x.2 ≤ now)

/-- `abs(time.time() - ts_float) > 300`; a comparison with `nan` is false. -/
def driftTooHigh (now : ℚ) : PyFloat → Bool
  | .finite ts => 300 < |now - ts|
  | .inf | .negInf => true
  | .nan => false

/-- `headers.get(name)`, an empty value counting as none. -/
def header (r : WebhookRequest) (name : String) : Option String := (r.headers name).filter (· ≠ "")

/-- `verify` up to the cache: the signature, if the request is signed and its timestamp near. -/
def checkSigned (v : Verifier) (r : WebhookRequest) (checkedAt : ℚ) : Except VerifyError String :=
  match header r v.headerName, header r v.tsHeaderName with
  | some signature, some timestamp =>
    match v.float timestamp with
    | none => .error (.http 403 "Invalid timestamp format")
    | some ts =>
      if driftTooHigh checkedAt ts then .error (.http 403 "Request expired or drift too high")
      else if ¬ signature.toList.all (fun c => c.toNat < 128) then .error .typeError
      else if v.hmac v.secret (r.body ++ timestamp.toUTF8.toList) ≠ signature then
        .error (.http 403 "Invalid signature")
      else .ok signature
  | _, _ => .error (.http 403 "Missing signature or timestamp")

def verify (v : Verifier) (c : Call) (seen : Seen) : Except VerifyError Unit × Seen :=
  match checkSigned v c.request c.checkedAt with
  | .error e => (.error e, seen)
  | .ok signature =>
    if signature ∈ (purgeExpired c.now seen).map (·.1) then
      (.error (.http 403 "Replay detected"), purgeExpired c.now seen)
    else (.ok (), purgeExpired c.now seen ++ [(signature, c.now + replayTtlSec)])

/-! ## Runs of calls -/

/-- The calls of a run that were taken, and the cache they leave. -/
def verifyAll (v : Verifier) (calls : List Call) : List Call × Seen :=
  calls.foldl (fun x c => (if (verify v c x.2).1 = .ok () then x.1 ++ [c] else x.1, (verify v c x.2).2)) ([], [])

def accepted (v : Verifier) (calls : List Call) : List Call := (verifyAll v calls).1

/-- The signature header of a call. -/
def Call.signature (v : Verifier) (c : Call) : Option String := c.request.headers v.headerName

/-- The call passes every check but the cache's. -/
def Call.signed (v : Verifier) (c : Call) : Bool := (checkSigned v c.request c.checkedAt).isOk

/-- The clock of the calls does not go back. -/
def Clocked (calls : List Call) : Prop := calls.Pairwise (fun c d => c.now ≤ d.now)

theorem checkSigned_ok {v : Verifier} {r : WebhookRequest} {t : ℚ} {s : String} (h : checkSigned v r t = .ok s) :
    r.headers v.headerName = some s := by
  unfold checkSigned at h
  split at h
  · rename_i signature timestamp hs ht
    split at h
    · cases h
    · split at h
      · cases h
      · split at h
        · cases h
        · split at h
          · cases h
          · obtain rfl := Except.ok.inj h
            exact (Option.filter_eq_some_iff.1 hs).1
  · cases h

theorem signature_eq {v : Verifier} {c : Call} {s : String} (h : checkSigned v c.request c.checkedAt = .ok s) :
    c.signature v = some s := checkSigned_ok h

theorem verifyAll_snoc (v : Verifier) (calls : List Call) (c : Call) : verifyAll v (calls ++ [c]) =
    (if (verify v c (verifyAll v calls).2).1 = .ok () then accepted v calls ++ [c] else accepted v calls,
      (verify v c (verifyAll v calls).2).2) := by
  unfold accepted verifyAll
  rw [List.foldl_append]
  rfl

theorem purgeExpired_purgeExpired {t t' : ℚ} (h : t ≤ t') (seen : Seen) :
    purgeExpired t' (purgeExpired t seen) = purgeExpired t' seen := by
  unfold purgeExpired
  rw [List.filter_filter]
  refine List.filter_congr (fun x _ => ?_)
  by_cases hx : x.2 ≤ t
  · simp [hx, hx.trans h]
  · simp [hx]

theorem mem_purgeExpired {t : ℚ} {seen : Seen} {x : String × ℚ} : x ∈ purgeExpired t seen ↔ x ∈ seen ∧ t < x.2 := by
  simp [purgeExpired]

/-- **The cache at a time** holds the signatures taken in the last 330 seconds. -/
theorem mem_seen (v : Verifier) (calls : List Call) : ∀ (t : ℚ), (∀ c ∈ calls, c.now ≤ t) → ∀ s e,
    ((s, e) ∈ purgeExpired t (verifyAll v calls).2 ↔
      ∃ a ∈ accepted v calls, a.signature v = some s ∧ e = a.now + replayTtlSec ∧ t < e) := by
  induction calls using List.reverseRecOn with
  | nil =>
    intro t _ s e
    simp [verifyAll, accepted, purgeExpired]
  | append_singleton calls c ih =>
    intro t ht s e
    have hc : c.now ≤ t := ht c (by simp)
    have ih := ih t (fun d hd => ht d (by simp [hd])) s e
    rw [accepted, verifyAll_snoc]
    unfold verify
    cases hs : checkSigned v c.request c.checkedAt with
    | error err => simpa using ih
    | ok sig =>
      by_cases hr : sig ∈ (purgeExpired c.now (verifyAll v calls).2).map (·.1)
      · simp only [hr, if_true, reduceCtorEq, if_false, purgeExpired_purgeExpired hc]
        exact ih
      · simp only [hr, if_false, if_true]
        rw [mem_purgeExpired, List.mem_append, or_and_right, ← mem_purgeExpired, purgeExpired_purgeExpired hc, ih]
        simp only [List.mem_singleton, Prod.mk.injEq, List.mem_append, or_and_right, exists_or, exists_eq_left,
          signature_eq hs, Option.some.injEq, and_assoc]
        refine or_congr_right ?_
        exact and_congr_left' eq_comm

/-- **A signed call is taken** exactly when its signature was not taken less than 330 seconds before. -/
theorem verify_ok_iff {v : Verifier} {calls : List Call} {c : Call} (hc : ∀ d ∈ calls, d.now ≤ c.now) :
    (verify v c (verifyAll v calls).2).1 = .ok () ↔
      c.signed v = true ∧ ∀ a ∈ accepted v calls, a.signature v = c.signature v → a.now + replayTtlSec ≤ c.now := by
  unfold verify Call.signed
  cases hs : checkSigned v c.request c.checkedAt with
  | error e => simp [Except.isOk, Except.toBool]
  | ok sig =>
    have hm : sig ∈ (purgeExpired c.now (verifyAll v calls).2).map (·.1) ↔
        ∃ a ∈ accepted v calls, a.signature v = c.signature v ∧ c.now < a.now + replayTtlSec := by
      rw [signature_eq hs]
      constructor
      · intro h
        obtain ⟨⟨s, e⟩, hx, rfl⟩ := List.mem_map.1 h
        obtain ⟨a, ha, hsig, rfl, hlt⟩ := (mem_seen v calls c.now hc s e).1 hx
        exact ⟨a, ha, hsig, hlt⟩
      · rintro ⟨a, ha, hsig, hlt⟩
        exact List.mem_map.2 ⟨_, (mem_seen v calls c.now hc sig _).2 ⟨a, ha, hsig, rfl, hlt⟩, rfl⟩
    by_cases hr : sig ∈ (purgeExpired c.now (verifyAll v calls).2).map (·.1)
    · obtain ⟨a, ha, hsig, hlt⟩ := hm.1 hr
      simp only [hr, if_true, reduceCtorEq, false_iff, not_and, not_forall]
      exact fun _ => ⟨a, ha, hsig, not_le.2 hlt⟩
    · simp only [hr, if_false, true_iff]
      refine ⟨rfl, fun a ha hsig => not_lt.1 (fun hlt => hr (hm.2 ⟨a, ha, hsig, hlt⟩))⟩

theorem clocked_snoc {calls : List Call} {c : Call} :
    Clocked (calls ++ [c]) ↔ Clocked calls ∧ ∀ d ∈ calls, d.now ≤ c.now := by
  unfold Clocked
  rw [List.pairwise_append]
  simp

theorem accepted_snoc (v : Verifier) (calls : List Call) (c : Call) : accepted v (calls ++ [c]) =
    if (verify v c (verifyAll v calls).2).1 = .ok () then accepted v calls ++ [c] else accepted v calls := by
  rw [accepted, verifyAll_snoc]

theorem filter_snoc (v : Verifier) (calls : List Call) (c : Call) : (calls ++ [c]).filter (·.signed v) =
    if c.signed v = true then calls.filter (·.signed v) ++ [c] else calls.filter (·.signed v) := by
  rw [List.filter_append, List.filter_singleton]
  cases c.signed v <;> simp

theorem signed_of_verify {v : Verifier} {c : Call} {seen : Seen} (h : (verify v c seen).1 = .ok ()) :
    c.signed v = true := by
  unfold verify at h
  unfold Call.signed
  cases hs : checkSigned v c.request c.checkedAt with
  | error e =>
    rw [hs] at h
    cases h
  | ok sig => rfl

theorem accepted_signed (v : Verifier) (calls : List Call) :
    ∀ a ∈ accepted v calls, a ∈ calls.filter (·.signed v) := by
  induction calls using List.reverseRecOn with
  | nil => exact fun a ha => absurd ha List.not_mem_nil
  | append_singleton calls c ih =>
    rw [accepted_snoc, filter_snoc]
    intro a ha
    split at ha
    · rename_i hv
      rw [if_pos (signed_of_verify hv)]
      rcases List.mem_append.1 ha with ha | ha
      · exact List.mem_append_left _ (ih a ha)
      · exact List.mem_append_right _ ha
    · split
      · exact List.mem_append_left _ (ih a ha)
      · exact ih a ha

/-- Every signed call of a run has had its signature taken, by itself or before. -/
theorem exists_accepted {v : Verifier} {calls : List Call} (hclock : Clocked calls) : ∀ p ∈ calls, p.signed v = true →
    ∃ a ∈ accepted v calls, a.signature v = p.signature v ∧ a.now ≤ p.now := by
  induction calls using List.reverseRecOn with
  | nil => exact fun p hp => absurd hp List.not_mem_nil
  | append_singleton calls c ih =>
    obtain ⟨hclock, hc⟩ := clocked_snoc.1 hclock
    rw [accepted_snoc]
    have hmono : ∀ a ∈ accepted v calls, a ∈ (if (verify v c (verifyAll v calls).2).1 = .ok () then
        accepted v calls ++ [c] else accepted v calls) := by
      intro a ha
      split
      · exact List.mem_append_left _ ha
      · exact ha
    intro p hp hsp
    rcases List.mem_append.1 hp with hp | hp
    · obtain ⟨a, ha, h⟩ := ih hclock p hp hsp
      exact ⟨a, hmono a ha, h⟩
    · obtain rfl := List.mem_singleton.1 hp
      by_cases hv : (verify v p (verifyAll v calls).2).1 = .ok ()
      · exact ⟨p, by rw [if_pos hv]; simp, rfl, le_rfl⟩
      · rw [verify_ok_iff hc] at hv
        obtain ⟨a, ha, hsig, hlt⟩ : ∃ a ∈ accepted v calls, a.signature v = p.signature v ∧
            p.now < a.now + replayTtlSec := by simpa [hsp] using hv
        exact ⟨a, hmono a ha, hsig, hc a (List.mem_filter.1 (accepted_signed v calls a ha)).1⟩

/-- **No two calls with one signature are taken exactly when none is presented again 330 seconds or more later.** -/
theorem accepted_once_iff (v : Verifier) (calls : List Call) (hclock : Clocked calls) :
    ((accepted v calls).map (·.signature v)).Nodup ↔
      (calls.filter (·.signed v)).Pairwise (fun c d => c.signature v = d.signature v → d.now < c.now + replayTtlSec) := by
  induction calls using List.reverseRecOn with
  | nil => simp [accepted, verifyAll]
  | append_singleton calls c ih =>
    obtain ⟨hclock, hc⟩ := clocked_snoc.1 hclock
    rw [accepted_snoc, filter_snoc]
    by_cases hs : c.signed v = true
    · rw [if_pos hs, List.pairwise_append, ← ih hclock]
      simp only [List.pairwise_singleton, List.mem_singleton, forall_eq, true_and]
      by_cases hv : (verify v c (verifyAll v calls).2).1 = .ok ()
      · -- taken: every earlier call with its signature is 330 seconds old, so there must be none
        rw [if_pos hv, List.map_append, List.nodup_append]
        have hold := ((verify_ok_iff hc).1 hv).2
        simp only [List.map_cons, List.map_nil, List.nodup_singleton, List.mem_singleton, true_and, forall_eq]
        refine and_congr_right fun _ => ⟨fun hnew p hp hsig => ?_, fun hnear b hb hsig => ?_⟩
        · obtain ⟨hp, hps⟩ := List.mem_filter.1 hp
          obtain ⟨a, ha, hap, -⟩ := exists_accepted hclock p hp hps
          exact absurd (hap.trans hsig) (hnew _ (List.mem_map.2 ⟨a, ha, rfl⟩))
        · obtain ⟨a, ha, rfl⟩ := List.mem_map.1 hb
          exact absurd (hnear a (accepted_signed v calls a ha) hsig) (not_lt.2 (hold a ha hsig))
      · -- refused: its signature was taken less than 330 seconds before, and by one call only
        rw [if_neg hv]
        rw [verify_ok_iff hc] at hv
        obtain ⟨a, ha, hsig, hlt⟩ : ∃ a ∈ accepted v calls, a.signature v = c.signature v ∧
            c.now < a.now + replayTtlSec := by simpa [hs] using hv
        refine ⟨fun hn => ⟨hn, fun p hp hps => ?_⟩, And.left⟩
        obtain ⟨hp, hpsig⟩ := List.mem_filter.1 hp
        obtain ⟨b, hb, hbp, hle⟩ := exists_accepted hclock p hp hpsig
        obtain rfl : a = b := List.inj_on_of_nodup_map hn ha hb (hsig.trans (hps.symm.trans hbp.symm))
        exact hlt.trans_le (add_le_add_left hle _)
    · have hv : ¬ (verify v c (verifyAll v calls).2).1 = .ok () := fun h => hs (signed_of_verify h)
      rw [if_neg hs, if_neg hv, ih hclock]

/-! ## A request signed ahead of the clock -/

def hexDigit (n : Nat) : Char := Char.ofNat (if n < 10 then 48 + n else 87 + n)

/-- A keyed digest that is plainly injective: the key and the message, in hex. -/
def plainDigest (key msg : List UInt8) : String :=
  String.ofList ((key ++ msg).flatMap (fun b => [hexDigit (b.toNat / 16), hexDigit (b.toNat % 16)]))

/-- `float` on a string of decimal digits. -/
def floatOfDigits (text : String) : Option PyFloat :=
  (text.toList.foldl (fun n c => n.bind (fun n => if c.isDigit then some (10 * n + (c.toNat - 48)) else none))
    (some 0)).map (fun n => .finite (n : Nat))

def plainVerifier : Verifier where
  secret := [115]
  headerName := "X-Signature"
  tsHeaderName := "X-Timestamp"
  hmac := plainDigest
  float := floatOfDigits

/-- A body of one byte, signed with the timestamp 1300. -/
def aheadRequest : WebhookRequest where
  headers := fun name =>
    if name = "X-Signature" then some (plainDigest [115] ([120] ++ "1300".toUTF8.toList))
    else if name = "X-Timestamp" then some "1300" else none
  body := [120]

/-- The request is taken at 1000, when its timestamp is 300 seconds ahead, and again at 1330, when it is 30 behind. -/
theorem ahead_accepted_twice :
    (accepted plainVerifier [⟨aheadRequest, 1000, 1000⟩, ⟨aheadRequest, 1330, 1330⟩]).map (·.signature plainVerifier)
      = [aheadRequest.headers "X-Signature", aheadRequest.headers "X-Signature"] := by
  decide +kernel

/-- Presented again at 1329 it is refused. -/
theorem ahead_accepted_once :
    ((accepted plainVerifier [⟨aheadRequest, 1000, 1000⟩, ⟨aheadRequest, 1329, 1329⟩]).map
      (·.signature plainVerifier)).Nodup :=
  (accepted_once_iff plainVerifier [⟨aheadRequest, 1000, 1000⟩, ⟨aheadRequest, 1329, 1329⟩]
    (by unfold Clocked; decide +kernel)).2 (by decide +kernel)

end Krishi
