import KrishiBazaar.Checkers
import KrishiBazaar.Replies
import KrishiBazaar.Roles
/-!
# Phones — whose number a sender's is

A profile's phone is stored as the sign-up sent it, or as `update_me` normalised it, and the unique index compares the
texts; `lookup_profile_by_phone` compares the last ten digits.  So a sender may be two farmers, and is just if a request
stores a number that another profile has in another spelling (`phone_identifies_iff`).
-/
namespace Krishi

open Lib

/-! ## The requests -/

/-- The body of `PATCH /api/v1/me`: a field that was sent is `some`, and `some none` if it was `null`. -/
structure ProfileUpdate where
  name : Option (Option String)
  phone : Option (Option String)
  preferredLanguage : Option (Option Lang)
  district : Option (Option String)
  lat : Option (Option ℚ)
  lng : Option (Option ℚ)
  lat_range : ∀ v, lat = some (some v) → -90 ≤ v ∧ v ≤ 90
  lng_range : ∀ v, lng = some (some v) → -180 ≤ v ∧ v ≤ 180

namespace ProfileUpdate

def isEmpty (body : ProfileUpdate) : Bool :=
  body.name.isNone && body.phone.isNone && body.preferredLanguage.isNone && body.district.isNone && body.lat.isNone &&
    body.lng.isNone

/-- The phone sent, if it is truthy. -/
def newPhone (body : ProfileUpdate) : Option String := body.phone.join.filter (fun s => s ≠ "")

def normalised (cfg : CheckConfig) (body : ProfileUpdate) : Except HTTPException ProfileUpdate :=
  match body.newPhone with
  | none => .ok body
  | some phone =>
    match normalizePhone cfg (some phone) with
    | none => .error ⟨400, "invalid phone; expected 10-digit Indian mobile"⟩
    | some normalised => .ok { body with phone := some (some normalised) }

/-- A `null` for a column that is `not null`. -/
def breaksNotNull (body : ProfileUpdate) : Bool := body.preferredLanguage = some none ∨ body.district = some none

def patch (body : ProfileUpdate) : Patch UserProfile.id noCheck where
  apply p := { p with
    name := body.name.getD p.name
    phone := body.phone.getD p.phone
    preferredLanguage := body.preferredLanguage.join.getD p.preferredLanguage
    district := body.district.join.getD p.district
    lat := body.lat.getD p.lat
    lng := body.lng.getD p.lng }
  key_apply _ := rfl
  check_apply _ h := h

end ProfileUpdate

/-- `json_for_api_error`, on what a statement may raise. -/
def PgError.http : PgError → HTTPException
  | .violates e => jsonForApiError e
  | .permissionDenied => ⟨403, "not allowed"⟩
  | .raise _ => ⟨503, "data store temporarily unavailable"⟩

/-- `update_me`: the row it answers with, if it wrote any. -/
def updateMe (cfg : CheckConfig) (a : Accounts) (userId : Uuid) (body : ProfileUpdate) :
    Except HTTPException (Option UserProfile × Accounts) := do
  let updates ← body.normalised cfg
  if updates.isEmpty then pure (none, a)
  else
    match a.userProfiles.get? userId with
    | none => throw ⟨404, "profile not found"⟩
    | some _ =>
      if updates.breaksNotNull then throw ⟨503, "data store temporarily unavailable"⟩
      else
        match execStatement (.authenticated userId) (Conn.begin ⟨a, none⟩)
          (.updateProfiles (fun p => p.id = userId) updates.patch) with
        | .ok t => pure (t.store.userProfiles.get? userId, t.store)
        | .error e => throw e.http

inductive AccountRequest
  | signUp (newId : Uuid) (rawUserMetaData : String → Option String)
  | updateMe (userId : Uuid) (body : ProfileUpdate)

/-- One request; one that fails leaves the accounts as they were. -/
def accountStep (cfg : CheckConfig) (a : Accounts) : AccountRequest → Accounts
  | .signUp newId rawUserMetaData => (signUp a newId rawUserMetaData).toOption.getD a
  | .updateMe userId body => ((updateMe cfg a userId body).toOption.map (·.2)).getD a

/-- The profile that the request gives a phone, and the phone, as it is stored. -/
def AccountRequest.claim (cfg : CheckConfig) (a : Accounts) : AccountRequest → Option (Uuid × String)
  | .signUp newId rawUserMetaData =>
    if newId ∈ a.authUsers ∨ Lang.ofText ((rawUserMetaData "preferred_language").getD "mr") = none ∨
        a.userProfiles.get? newId ≠ none then none
    else (rawUserMetaData "phone").map (fun phone => (newId, phone))
  | .updateMe userId body =>
    if a.userProfiles.get? userId = none ∨ body.breaksNotNull then none
    else (body.newPhone.bind (fun phone => normalizePhone cfg (some phone))).map (fun phone => (userId, phone))

/-! ## Phones that are one -/

/-- The texts are one to the index. -/
def SameText (p q : Option String) : Prop := p = q ∧ p ≠ none ∧ p ≠ some ""

/-- The last ten digits are one to the lookup. -/
def SameNumber (p q : Option String) : Prop :=
  (lastTen (p.getD "")).length = 10 ∧ lastTen (p.getD "") = lastTen (q.getD "")

/-- No two profiles have phones that are one. -/
def Distinct (R : Option String → Option String → Prop) (t : Table UserProfile.id noCheck) : Prop :=
  ∀ u ∈ t.rows, ∀ v ∈ t.rows, R u.phone v.phone → u = v

/-- **At most one profile answers to a sender.** -/
def OneSender (cfg : CheckConfig) (a : Accounts) : Prop := ∀ raw sender, normalizePhone cfg raw = some sender →
  ∀ u ∈ a.userProfiles.rows, ∀ v ∈ a.userProfiles.rows, phoneMatches sender u = true → phoneMatches sender v = true →
    u = v

/-- Another profile has the number in another spelling. -/
def Respelled (a : Accounts) (id : Uuid) (phone : String) : Prop :=
  ∃ u ∈ a.userProfiles.rows, u.id ≠ id ∧ u.phone ≠ some phone ∧ SameNumber (some phone) u.phone

/-- The request stores no number that another profile has in another spelling. -/
def KeepsNumbers (cfg : CheckConfig) (a : Accounts) (r : AccountRequest) : Prop :=
  ∀ id phone, r.claim cfg a = some (id, phone) → ¬ Respelled a id phone

/-! ## Senders -/

section Sender

variable {cfg : CheckConfig} {a : Accounts} {sender : String} {u v : UserProfile}

theorem lastTen_length (phone : String) :
    (lastTen phone).length = min 10 (phone.toList.filter Char.isDigit).length := by
  unfold lastTen
  rw [List.length_drop]
  omega

/-- A sender of ten digits is looked up by the last ten. -/
theorem phoneMatches_iff (h : (lastTen sender).length = 10) :
    phoneMatches sender u = true ↔ lastTen (u.phone.getD "") = lastTen sender := by
  have hlen : 10 ≤ (sender.toList.filter Char.isDigit).length := by
    rw [lastTen_length] at h
    omega
  unfold phoneMatches
  rw [decide_eq_true_iff]
  constructor
  · rintro (hp | ⟨-, hp⟩)
    · rw [hp, Option.getD_some]
    · exact hp
  · exact fun hp => Or.inr ⟨hlen, hp⟩

/-- A shorter one is looked up by its text. -/
theorem phoneMatches_short (h : (lastTen sender).length ≠ 10) :
    phoneMatches sender u = true ↔ u.phone = some sender := by
  have hlen : ¬ 10 ≤ (sender.toList.filter Char.isDigit).length := by
    rw [lastTen_length] at h
    omega
  unfold phoneMatches
  rw [decide_eq_true_iff, or_iff_left]
  exact fun hp => hlen hp.1

theorem normalizePhone_ne_empty {raw : Option String} (h : normalizePhone cfg raw = some sender) : sender ≠ "" := by
  rintro rfl
  have hne : ∀ s t : String, s ≠ "" → s ++ t ≠ "" := fun s t hs he => hs (String.append_eq_empty_iff.1 he).1
  unfold normalizePhone at h
  cases raw with
  | none => cases h
  | some phone =>
    dsimp only at h
    split at h
    · exact hne _ _ (by decide) (Option.some.inj h)
    · split at h
      · exact hne _ _ (by decide) (Option.some.inj h)
      · split at h
        · exact hne _ _ (by decide) (Option.some.inj h)
        · cases h

/-- **Any ten digits are the last ten of a sender**: a leading zero is dropped, whatever follows it. -/
theorem exists_sender (hdigit : ∀ c : Char, c.isDigit = true → cfg.isDigit c = true) {d : List Char}
    (hd : ∀ c ∈ d, c.isDigit = true) (hlen : d.length = 10) :
    ∃ raw sender, normalizePhone cfg raw = some sender ∧ lastTen sender = d := by
  have hall : ('0' :: d).filter cfg.isDigit = '0' :: d := by
    refine List.filter_eq_self.2 (fun c hc => hdigit c ?_)
    rcases List.mem_cons.1 hc with rfl | hc
    · decide
    · exact hd c hc
  refine ⟨some (String.ofList ('0' :: d)), "+91" ++ String.ofList d, ?_, ?_⟩
  · unfold normalizePhone
    simp only [String.toList_ofList, hall, List.length_cons, hlen, List.head?_cons, List.tail_cons]
    simp
  · have hdigits : ("+91" ++ String.ofList d).toList.filter Char.isDigit = '9' :: '1' :: d := by
      rw [String.toList_append, List.filter_append, String.toList_ofList (l := d), List.filter_eq_self.2 hd]
      rfl
    unfold lastTen
    simp only [hdigits, List.length_cons, hlen]
    rfl

theorem uqPhone_iff {t : Table UserProfile.id noCheck} : (indexedPhones t).Nodup ↔ Distinct SameText t := by
  unfold indexedPhones
  rw [Table.nodup_filterMap_iff t.nodup.of_map]
  refine forall_congr' (fun u => forall_congr' (fun _ => forall_congr' (fun v => forall_congr' (fun _ => ?_))))
  simp only [Option.filter_eq_some_iff, SameText]
  constructor
  · rintro h ⟨hp, hnone, hempty⟩
    obtain ⟨s, hs⟩ := Option.ne_none_iff_exists'.1 hnone
    have hne : s ≠ "" := fun he => hempty (he ▸ hs)
    exact h s ⟨hs, by simpa using hne⟩ ⟨hp ▸ hs, by simpa using hne⟩
  · rintro h s ⟨hs, hne⟩ ⟨hs', -⟩
    exact h ⟨hs.trans hs'.symm, by simp [hs], by simpa [hs] using hne⟩

/-- **A sender is one profile just if no two phones have the same last ten digits.** -/
theorem oneSender_iff (hdigit : ∀ c : Char, c.isDigit = true → cfg.isDigit c = true) :
    OneSender cfg a ↔ Distinct SameNumber a.userProfiles := by
  constructor
  · rintro h u hu v hv ⟨hlen, hsame⟩
    have hdigits : ∀ c ∈ lastTen (u.phone.getD ""), c.isDigit = true := fun c hc =>
      (List.mem_filter.1 (List.mem_of_mem_drop hc)).2
    obtain ⟨raw, sender, hnorm, hlast⟩ := exists_sender hdigit hdigits hlen
    have hten : (lastTen sender).length = 10 := hlast ▸ hlen
    exact h raw sender hnorm u hu v hv ((phoneMatches_iff hten).2 hlast.symm)
      ((phoneMatches_iff hten).2 (hsame.symm.trans hlast.symm))
  · intro h raw sender hnorm u hu v hv hmu hmv
    by_cases hten : (lastTen sender).length = 10
    · have hlu := (phoneMatches_iff hten).1 hmu
      have hlv := (phoneMatches_iff hten).1 hmv
      exact h u hu v hv ⟨hlu ▸ hten, hlu.trans hlv.symm⟩
    · have hpu := (phoneMatches_short hten).1 hmu
      have hpv := (phoneMatches_short hten).1 hmv
      refine uqPhone_iff.1 a.uqPhone u hu v hv ⟨hpu.trans hpv.symm, by simp [hpu], ?_⟩
      simpa [hpu] using normalizePhone_ne_empty hnorm

end Sender

/-! ## What a request stores -/

/-- The table with a phone in the row of `id`, and the other rows as they were. -/
structure Stores (t t' : Table UserProfile.id noCheck) (id : Uuid) (phone : Option String) : Prop where
  others : ∀ u, u.id ≠ id → (u ∈ t'.rows ↔ u ∈ t.rows)
  own : ∃ u ∈ t'.rows, u.id = id ∧ u.phone = phone

section Store

variable {t t' : Table UserProfile.id noCheck} {a a' : Accounts} {id : Uuid} {phone : Option String}

/-- **Phones stay distinct just if the phone stored is none of the others'.** -/
theorem Stores.distinct_iff {R : Option String → Option String → Prop} (h : Stores t t' id phone)
    (hsymm : ∀ {p q}, R p q → R q p) (ht : Distinct R t) :
    Distinct R t' ↔ ∀ u ∈ t.rows, u.id ≠ id → ¬ R phone u.phone := by
  obtain ⟨p, hp, hid, hphone⟩ := h.own
  have hown : ∀ u ∈ t'.rows, u.id = id → u = p := fun u hu he => t'.eq_of_key hu hp (he.trans hid.symm)
  constructor
  · intro hd u hu hne hR
    have he := hd p hp u ((h.others u hne).2 hu) (hphone ▸ hR)
    exact hne (he ▸ hid)
  · intro hnone u hu v hv hR
    by_cases hui : u.id = id
    · by_cases hvi : v.id = id
      · exact (hown u hu hui).trans (hown v hv hvi).symm
      · rw [hown u hu hui, hphone] at hR
        exact absurd hR (hnone v ((h.others v hvi).1 hv) hvi)
    · by_cases hvi : v.id = id
      · rw [hown v hv hvi, hphone] at hR
        exact absurd (hsymm hR) (hnone u ((h.others u hui).1 hu) hui)
      · exact ht u ((h.others u hui).1 hu) v ((h.others v hvi).1 hv) hR

theorem SameText.symm {p q : Option String} (h : SameText p q) : SameText q p := ⟨h.1.symm, h.1 ▸ h.2.1, h.1 ▸ h.2.2⟩

theorem SameNumber.symm {p q : Option String} (h : SameNumber p q) : SameNumber q p := ⟨h.2 ▸ h.1, h.2.symm⟩

/-- **The index refuses a phone just if another profile has its text.** -/
theorem write_stores (h : Stores a.userProfiles t' id phone) (hr : ∀ p ∈ t'.rows, p.inRange = true) :
    (∃ a', a.write t' = .ok a' ∧ a'.userProfiles = t' ∧
      ∀ u ∈ a.userProfiles.rows, u.id ≠ id → ¬ SameText phone u.phone) ∨
    (∃ e, a.write t' = .error e ∧ ∃ u ∈ a.userProfiles.rows, u.id ≠ id ∧ SameText phone u.phone) := by
  have hiff := h.distinct_iff SameText.symm (uqPhone_iff.1 a.uqPhone)
  unfold Accounts.write
  rw [dif_pos hr]
  by_cases hp : (indexedPhones t').Nodup
  · rw [dif_pos hp]
    exact Or.inl ⟨_, rfl, rfl, hiff.1 (uqPhone_iff.1 hp)⟩
  · rw [dif_neg hp]
    rw [uqPhone_iff, hiff] at hp
    push Not at hp
    exact Or.inr ⟨_, rfl, hp⟩

theorem stores_insert {p : UserProfile} (h : t.get? p.id = none) :
    Stores t (t.insert p h (noCheck_true _)) p.id p.phone where
  others u hne := by
    rw [Table.mem_insert, or_iff_left]
    rintro rfl
    exact hne rfl
  own := ⟨p, Table.mem_insert.2 (Or.inr rfl), rfl, rfl⟩

theorem stores_update {p : UserProfile} (f : Patch UserProfile.id noCheck) (h : t.get? id = some p) :
    Stores t (t.update (fun r => r.id = id) f) id (f.apply p).phone where
  others u hne := by
    rw [Table.mem_update]
    constructor
    · rintro ⟨r, hr, rfl⟩
      by_cases hid : r.id = id
      · simp only [hid, decide_true, if_true] at hne
        exact absurd ((f.key_apply r).trans hid) hne
      · simpa [hid] using hr
    · exact fun hu => ⟨u, hu, by simp [hne]⟩
  own := by
    have hid : p.id = id := Table.key_of_get? h
    refine ⟨f.apply p, Table.mem_update.2 ⟨p, Table.mem_of_get? h, by simp [hid]⟩, (f.key_apply p).trans hid, rfl⟩

end Store

/-- The profiles after a table is written, or refused. -/
def written (a : Accounts) (t : Table UserProfile.id noCheck) : Table UserProfile.id noCheck :=
  ((a.write t).toOption.getD a).userProfiles

/-- A phone with no digits, or the one that is there. -/
def Harmless (a : Accounts) (id : Uuid) (phone : Option String) : Prop :=
  phone.getD "" = "" ∨ ∃ p ∈ a.userProfiles.rows, p.id = id ∧ p.phone = phone

/-- **What a request does to the profiles**, by what it claims: nothing, or it writes one row. -/
inductive Does (a : Accounts) : Option (Uuid × String) → Table UserProfile.id noCheck → Prop
  | nothing : Does a none a.userProfiles
  | claims (id : Uuid) (phone : String) (t : Table UserProfile.id noCheck) (h : Stores a.userProfiles t id (some phone))
      (hr : ∀ p ∈ t.rows, p.inRange = true) : Does a (some (id, phone)) (written a t)
  | writes (id : Uuid) (phone : Option String) (t : Table UserProfile.id noCheck) (h : Stores a.userProfiles t id phone)
      (hr : ∀ p ∈ t.rows, p.inRange = true) (hp : Harmless a id phone) : Does a none (written a t)

section Step

variable {cfg : CheckConfig} {a : Accounts}

/-- What is written does not depend on who signed up. -/
theorem written_authUsers (a : Accounts) (authUsers : List Uuid) (t : Table UserProfile.id noCheck) :
    ((Accounts.write { a with authUsers := authUsers } t).toOption.getD a).userProfiles = written a t := by
  unfold written Accounts.write
  by_cases hr : ∀ p ∈ t.rows, p.inRange = true
  · rw [dif_pos hr, dif_pos hr]
    by_cases hp : (indexedPhones t).Nodup
    · rw [dif_pos hp, dif_pos hp]
      rfl
    · rw [dif_neg hp, dif_neg hp]
  · rw [dif_neg hr, dif_neg hr]

theorem Does.of_stores {id : Uuid} {phone : Option String} {t : Table UserProfile.id noCheck}
    (h : Stores a.userProfiles t id phone) (hr : ∀ p ∈ t.rows, p.inRange = true) :
    Does a (phone.map (fun phone => (id, phone))) (written a t) := by
  cases phone with
  | none => exact .writes id none t h hr (Or.inl rfl)
  | some phone => exact .claims id phone t h hr

theorem does_signUp (newId : Uuid) (rawUserMetaData : String → Option String) :
    Does a ((AccountRequest.signUp newId rawUserMetaData).claim cfg a)
      (accountStep cfg a (.signUp newId rawUserMetaData)).userProfiles := by
  have hstep : accountStep cfg a (.signUp newId rawUserMetaData)
      = (signUp a newId rawUserMetaData).toOption.getD a := rfl
  rw [hstep]
  unfold AccountRequest.claim signUp handleNewUser
  dsimp only
  by_cases hnew : newId ∈ a.authUsers
  · rw [if_pos (Or.inl hnew), if_pos hnew]
    exact .nothing
  · rw [if_neg hnew]
    cases hlang : Lang.ofText ((rawUserMetaData "preferred_language").getD "mr") with
    | none =>
      rw [if_pos (Or.inr (Or.inl rfl))]
      exact .nothing
    | some lang =>
      dsimp only
      by_cases hget : a.userProfiles.get? newId = none
      · rw [if_neg (by simp [hnew, hget]), dif_pos hget]
        let p : UserProfile :=
          ⟨newId, rawUserMetaData "name", rawUserMetaData "phone", .farmer, lang, "Nashik", none, none⟩
        have hrange : ∀ u ∈ (a.userProfiles.insert p hget (noCheck_true _)).rows, u.inRange = true := by
          intro u hu
          rcases Table.mem_insert.1 hu with hu | rfl
          · exact a.inRange u hu
          · rfl
        have hstores : Stores a.userProfiles _ newId (rawUserMetaData "phone") := stores_insert (p := p) hget
        rw [written_authUsers]
        exact .of_stores hstores hrange
      · rw [if_pos (Or.inr (Or.inr hget)), dif_neg hget]
        exact .nothing

/-- An update of the own profile that leaves the role passes the guard, and the policy shows it the row. -/
theorem execStatement_own (a : Accounts) (userId : Uuid) {f : Patch UserProfile.id noCheck}
    (hrole : ∀ p, (f.apply p).role = p.role) :
    execStatement (.authenticated userId) (Conn.begin ⟨a, none⟩) (.updateProfiles (fun p => p.id = userId) f)
      = (a.write (a.userProfiles.update (fun p => p.id = userId) f)).map (fun a' => ⟨a', none, none⟩) := by
  have hguard : ∀ (t : RoleTx) (uid : Option Uuid) (old : UserProfile),
      guardProfileRole t uid old (f.apply old) = .ok () := by
    intro t uid old
    unfold guardProfileRole
    rw [if_neg (by simp [hrole old])]
  have hsel : (fun r : UserProfile => decide ((decide (r.id = userId) = true) ∧
      ((Caller.authenticated userId).bypassesRls ∨ (Caller.authenticated userId).uid = some r.id)))
        = fun r => decide (r.id = userId) := by
    funext r
    rw [decide_eq_decide]
    exact ⟨fun h => of_decide_eq_true h.1, fun h => ⟨decide_eq_true h, Or.inr (congrArg some h.symm)⟩⟩
  have hall : ∀ (t : RoleTx) (uid : Option Uuid) (l : List UserProfile),
      l.forM (fun old => guardProfileRole t uid old (f.apply old)) = .ok () := fun t uid l =>
    forM_ok.2 (fun old _ => hguard t uid old)
  show updateProfiles ⟨a, none, none⟩ (some userId) _ f = _
  unfold updateProfiles
  rw [hall, hsel]
  cases a.write (a.userProfiles.update (fun p => p.id = userId) f) <;> rfl

theorem inRange_patch (body : ProfileUpdate) {p : UserProfile} (h : p.inRange = true) :
    (body.patch.apply p).inRange = true := by
  unfold UserProfile.inRange at h ⊢
  rw [decide_eq_true_iff] at h ⊢
  refine ⟨fun v hv => ?_, fun v hv => ?_⟩
  · cases hlat : body.lat with
    | none => exact h.1 v (by simpa [ProfileUpdate.patch, hlat] using hv)
    | some lat => exact body.lat_range v (hlat.trans (congrArg some (by simpa [ProfileUpdate.patch, hlat] using hv)))
  · cases hlng : body.lng with
    | none => exact h.2 v (by simpa [ProfileUpdate.patch, hlng] using hv)
    | some lng => exact body.lng_range v (hlng.trans (congrArg some (by simpa [ProfileUpdate.patch, hlng] using hv)))

/-- A body without a phone leaves the one that is there, or an empty one. -/
theorem harmless_patch {body : ProfileUpdate} (h : body.newPhone = none) {id : Uuid} {p : UserProfile}
    (hp : a.userProfiles.get? id = some p) : Harmless a id (body.patch.apply p).phone := by
  have hphone : (body.patch.apply p).phone = body.phone.getD p.phone := rfl
  rw [hphone]
  unfold ProfileUpdate.newPhone at h
  cases hb : body.phone with
  | none => exact Or.inr ⟨p, Table.mem_of_get? hp, Table.key_of_get? hp, rfl⟩
  | some phone =>
    cases phone with
    | none => exact Or.inl rfl
    | some s =>
      rw [hb] at h
      exact Or.inl (by simpa using h)

/-- The profiles after the write of `update_me`. -/
theorem updateMe_of_normalised {userId : Uuid} {body updates : ProfileUpdate} (h : body.normalised cfg = .ok updates) :
    (accountStep cfg a (.updateMe userId body)).userProfiles =
      if updates.isEmpty ∨ a.userProfiles.get? userId = none ∨ updates.breaksNotNull then a.userProfiles
      else written a (a.userProfiles.update (fun p => p.id = userId) updates.patch) := by
  have hstep : accountStep cfg a (.updateMe userId body)
      = ((updateMe cfg a userId body).toOption.map (·.2)).getD a := rfl
  have hexec := execStatement_own a userId (f := updates.patch) (fun _ => rfl)
  rw [hstep]
  unfold updateMe
  rw [h]
  change (Option.getD (Option.map _ (Except.toOption (if updates.isEmpty = true then _ else _))) a).userProfiles = _
  by_cases hempty : updates.isEmpty = true
  · rw [if_pos hempty, if_pos (Or.inl hempty)]
    rfl
  · rw [if_neg hempty]
    cases hget : a.userProfiles.get? userId with
    | none =>
      rw [if_pos (Or.inr (Or.inl rfl))]
      rfl
    | some p =>
      dsimp only
      by_cases hnull : updates.breaksNotNull = true
      · rw [if_pos hnull, if_pos (Or.inr (Or.inr hnull))]
        rfl
      · rw [if_neg hnull, if_neg (by simp [hempty, hnull]), hexec]
        unfold written
        cases a.write (a.userProfiles.update (fun p => p.id = userId) updates.patch) <;> rfl

/-- A body is written as it is sent, refused, or written with its phone normalised. -/
theorem normalised_cases (cfg : CheckConfig) (body : ProfileUpdate) :
    (body.newPhone = none ∧ body.normalised cfg = .ok body) ∨
    (body.newPhone.bind (fun phone => normalizePhone cfg (some phone)) = none ∧ ∃ e, body.normalised cfg = .error e) ∨
    ∃ phone, body.newPhone.bind (fun phone => normalizePhone cfg (some phone)) = some phone ∧
      body.normalised cfg = .ok { body with phone := some (some phone) } := by
  unfold ProfileUpdate.normalised
  cases body.newPhone with
  | none => exact Or.inl ⟨rfl, rfl⟩
  | some phone =>
    dsimp only [Option.bind_some]
    cases normalizePhone cfg (some phone) with
    | none => exact Or.inr (Or.inl ⟨rfl, _, rfl⟩)
    | some normalised => exact Or.inr (Or.inr ⟨normalised, rfl, rfl⟩)

theorem does_updateMe (userId : Uuid) (body : ProfileUpdate) :
    Does a ((AccountRequest.updateMe userId body).claim cfg a)
      (accountStep cfg a (.updateMe userId body)).userProfiles := by
  have hrange : ∀ updates : ProfileUpdate,
      ∀ p ∈ (a.userProfiles.update (fun p => p.id = userId) updates.patch).rows, p.inRange = true := by
    intro updates p hp
    obtain ⟨q, hq, rfl⟩ := Table.mem_update.1 hp
    split
    · exact inRange_patch updates (a.inRange q hq)
    · exact a.inRange q hq
  have hclaim : (AccountRequest.updateMe userId body).claim cfg a =
      if a.userProfiles.get? userId = none ∨ body.breaksNotNull then none
      else (body.newPhone.bind (fun phone => normalizePhone cfg (some phone))).map (fun phone => (userId, phone)) := rfl
  rw [hclaim]
  rcases normalised_cases cfg body with ⟨hnew, hnorm⟩ | ⟨hphone, e, hnorm⟩ | ⟨phone, hphone, hnorm⟩
  · rw [updateMe_of_normalised hnorm, hnew, Option.bind_none, Option.map_none, ite_self]
    split
    · exact .nothing
    · rename_i hwrite
      push Not at hwrite
      obtain ⟨p, hp⟩ := Option.ne_none_iff_exists'.1 hwrite.2.1
      exact .writes userId _ _ (stores_update body.patch hp) (hrange body) (harmless_patch hnew hp)
  · have hstep : accountStep cfg a (.updateMe userId body) = a := by
      show ((updateMe cfg a userId body).toOption.map (·.2)).getD a = a
      unfold updateMe
      rw [hnorm]
      rfl
    rw [hstep, hphone, Option.map_none, ite_self]
    exact .nothing
  · have hempty : ({ body with phone := some (some phone) } : ProfileUpdate).isEmpty = false := by
      simp [ProfileUpdate.isEmpty]
    have hnull : ({ body with phone := some (some phone) } : ProfileUpdate).breaksNotNull = body.breaksNotNull := rfl
    rw [updateMe_of_normalised hnorm, hphone, hempty, hnull]
    by_cases hrefused : a.userProfiles.get? userId = none ∨ body.breaksNotNull = true
    · rw [if_pos hrefused, if_pos (Or.inr hrefused)]
      exact .nothing
    · rw [if_neg hrefused, if_neg (by simpa using hrefused)]
      push Not at hrefused
      obtain ⟨p, hp⟩ := Option.ne_none_iff_exists'.1 hrefused.1
      exact .claims userId phone _ (stores_update _ hp) (hrange _)

theorem accountStep_does (cfg : CheckConfig) (a : Accounts) (r : AccountRequest) :
    Does a (r.claim cfg a) (accountStep cfg a r).userProfiles := by
  cases r with
  | signUp newId rawUserMetaData => exact does_signUp newId rawUserMetaData
  | updateMe userId body => exact does_updateMe userId body

/-! ## One request -/

/-- A phone that claims nothing is none of the others'. -/
theorem not_sameNumber_of_harmless {id : Uuid} {phone : Option String} (hd : Distinct SameNumber a.userProfiles)
    (h : Harmless a id phone) : ∀ u ∈ a.userProfiles.rows, u.id ≠ id → ¬ SameNumber phone u.phone := by
  intro u hu hne hsame
  rcases h with hempty | ⟨p, hp, hid, rfl⟩
  · have hlen := hsame.1
    rw [hempty] at hlen
    exact absurd hlen (by decide)
  · exact hne (hd p hp u hu hsame ▸ hid)

/-- **A request keeps the numbers of the profiles distinct just if it respells none.** -/
theorem distinct_step_iff (r : AccountRequest) (hd : Distinct SameNumber a.userProfiles) :
    Distinct SameNumber (accountStep cfg a r).userProfiles ↔ KeepsNumbers cfg a r := by
  have hdoes := accountStep_does cfg a r
  unfold KeepsNumbers
  generalize r.claim cfg a = claim at hdoes
  generalize (accountStep cfg a r).userProfiles = t at hdoes
  cases hdoes with
  | nothing => exact iff_of_true hd (fun _ _ h => by cases h)
  | writes id phone t h hr hp =>
    refine iff_of_true ?_ (fun _ _ h => by cases h)
    rcases write_stores h hr with ⟨a', hok, rfl, -⟩ | ⟨e, herr, -⟩
    · unfold written
      rw [hok]
      exact (h.distinct_iff SameNumber.symm hd).2 (not_sameNumber_of_harmless hd hp)
    · unfold written
      rw [herr]
      exact hd
  | claims id phone t h hr =>
    have hclaim : (∀ id' phone', some (id, phone) = some (id', phone') → ¬ Respelled a id' phone') ↔
        ¬ Respelled a id phone :=
      ⟨fun hall => hall id phone rfl, fun hno id' phone' he => by cases he; exact hno⟩
    rw [hclaim]
    rcases write_stores h hr with ⟨a', hok, rfl, hindex⟩ | ⟨e, herr, u, hu, hne, htext⟩
    · unfold written
      rw [hok]
      refine (h.distinct_iff SameNumber.symm hd).trans ⟨?_, ?_⟩
      · rintro hall ⟨u, hu, hne, -, hsame⟩
        exact hall u hu hne hsame
      · intro hno u hu hne hsame
        refine hno ⟨u, hu, hne, fun htext => hindex u hu hne ⟨htext.symm, by simp, ?_⟩, hsame⟩
        intro hempty
        obtain rfl := Option.some.inj hempty
        exact absurd hsame.1 (by decide)
      -- the index refused the text of a profile, whose number no other one has
    · unfold written
      rw [herr]
      refine iff_of_true hd ?_
      rintro ⟨v, hv, -, hspelled, hsame⟩
      have huv : u = v := hd u hu v hv (htext.1 ▸ hsame)
      exact hspelled (huv ▸ htext.1.symm)

end Step

/-- **A sender is one profile at most, in every state of a run of sign-ups and profile updates, just if no request stores
a number that another profile has in another spelling.** -/
theorem phone_identifies_iff (cfg : CheckConfig) (hdigit : ∀ c : Char, c.isDigit = true → cfg.isDigit c = true)
    (rs : List AccountRequest) :
    (∀ pre post, rs = pre ++ post → OneSender cfg (after (accountStep cfg) noAccounts.store pre)) ↔
      Along (accountStep cfg) (KeepsNumbers cfg) noAccounts.store rs := by
  have hstart : Distinct SameNumber noAccounts.store.userProfiles := fun u hu => by cases hu
  have hkeep : ∀ a r, True → Distinct SameNumber a.userProfiles →
      (Distinct SameNumber (accountStep cfg a r).userProfiles ↔ KeepsNumbers cfg a r) :=
    fun _ r _ hd => distinct_step_iff r hd
  have hrun := along_inv_iff (J := fun _ => True) (fun _ _ _ => trivial) hkeep rs noAccounts.store trivial hstart
  rw [← hrun]
  exact forall_congr' (fun pre => forall_congr' (fun post => forall_congr' (fun _ => oneSender_iff hdigit)))

/-- A sign-up that sends a phone. -/
def signUpAs (newId : Uuid) (phone : String) : AccountRequest :=
  .signUp newId (fun k => if k = "phone" then some phone else none)

/-- A request whose number no other profile has keeps the numbers. -/
theorem keepsNumbers_of_claim {cfg : CheckConfig} {a : Accounts} {r : AccountRequest} (id : Uuid) (phone : String)
    (hclaim : r.claim cfg a = some (id, phone))
    (hothers : ∀ u ∈ a.userProfiles.rows, u.id = id ∨ lastTen (u.phone.getD "") ≠ lastTen phone) :
    KeepsNumbers cfg a r := by
  intro id' phone' hclaim' hrespelled
  obtain ⟨rfl, rfl⟩ := Prod.mk.inj (Option.some.inj (hclaim.symm.trans hclaim'))
  obtain ⟨u, hu, hne, -, hsame⟩ := hrespelled
  exact (hothers u hu).elim hne (fun hdiffer => hdiffer hsame.2.symm)

/-- Two farmers sign up with ten digits each, and the first sends his number again in another spelling. -/
def phoneSentTwice : List AccountRequest :=
  [signUpAs 1 "9876543210", signUpAs 2 "9123456780",
   .updateMe 1 ⟨none, some (some "09876543210"), none, none, none, none, by simp, by simp⟩]

theorem phone_identifies_farmer :
    let a := after (accountStep plainConfig) noAccounts.store phoneSentTwice
    a.userProfiles.rows.map (fun u => (u.id, u.phone)) = [(1, some "+919876543210"), (2, some "9123456780")] ∧
      OneSender plainConfig a := by
  have hclaims : Along (accountStep plainConfig) (KeepsNumbers plainConfig) noAccounts.store phoneSentTwice := by
    refine ⟨keepsNumbers_of_claim 1 "9876543210" (by decide +kernel) (by decide +kernel), ?_, ?_, trivial⟩
    · exact keepsNumbers_of_claim 2 "9123456780" (by decide +kernel) (by decide +kernel)
    · exact keepsNumbers_of_claim 1 "+919876543210" (by decide +kernel) (by decide +kernel)
  exact ⟨by decide +kernel,
    (phone_identifies_iff plainConfig (fun _ h => h) phoneSentTwice).2 hclaims phoneSentTwice [] (List.append_nil _).symm⟩

/-- **Two farmers sign up with one number in two spellings**, and a message from it may be either's. -/
theorem two_spellings :
    let a := after (accountStep plainConfig) noAccounts.store [signUpAs 1 "9876543210", signUpAs 2 "+919876543210"]
    normalizePhone plainConfig (some "9876543210") = some "+919876543210" ∧
    (a.userProfiles.rows.filter (phoneMatches "+919876543210")).map (fun u => (u.id, u.phone))
      = [(1, some "9876543210"), (2, some "+919876543210")] := by
  decide +kernel

end Krishi
