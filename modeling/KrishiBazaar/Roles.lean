import KrishiBazaar.Schema
import KrishiBazaar.Lib.Run
import KrishiBazaar.Lib.Tx
import Mathlib.Algebra.Order.Ring.Rat
/-!
# Roles — who may change the role of a profile

`handle_new_user`, `guard_profile_role` and `admin_set_role` of `db/migrations`, with the policies of `user_profiles`.  A
transaction has one caller: the database role its statements run under, and the user of its token (`auth.uid()`).  A
function that is `security definer` runs under its owner, so what `current_user` says in it is the owner's name, whoever
called.  The guard of `admin_set_role` asks that name, so a call by whoever may execute the function is obeyed
(`adminSetRole_obeyed`).
-/
namespace Krishi

open Lib

/-! ## Callers and rows -/

/-- Who starts a transaction: the database role, and for a logged-in user the user of the token. -/
inductive Caller
  | anon
  | authenticated (uid : Uuid)
  | serviceRole
  | postgres
  deriving DecidableEq, Repr

/-- `auth.uid()` -/
def Caller.uid : Caller → Option Uuid
  | .authenticated uid => some uid
  | .anon | .serviceRole | .postgres => none

def Caller.bypassesRls (c : Caller) : Prop := c = .serviceRole ∨ c = .postgres

instance (c : Caller) : Decidable c.bypassesRls := inferInstanceAs (Decidable (_ ∨ _))

/-- The grants of migration 011, and the owner. -/
def Caller.executesAdminSetRole (c : Caller) : Prop := c = .serviceRole ∨ c = .postgres

instance (c : Caller) : Decidable c.executesAdminSetRole := inferInstanceAs (Decidable (_ ∨ _))

def functionOwner : String := "postgres"

def Role.text : Role → String
  | .farmer => "farmer"
  | .admin => "admin"
  | .buyer => "buyer"
  | .fpo => "fpo"

def Role.ofText : String → Option Role
  | "farmer" => some .farmer
  | "admin" => some .admin
  | "buyer" => some .buyer
  | "fpo" => some .fpo
  | _ => none

def Lang.ofText : String → Option Lang
  | "en" => some .en
  | "mr" => some .mr
  | "hi" => some .hi
  | _ => none

/-- `chk_user_lat` and `chk_user_lng`. -/
def UserProfile.inRange (p : UserProfile) : Bool :=
  (∀ x ∈ p.lat, -90 ≤ x ∧ x ≤ 90) ∧ ∀ x ∈ p.lng, -180 ≤ x ∧ x ≤ 180

/-- What `uq_user_profiles_phone` is an index of. -/
def indexedPhones (t : Table UserProfile.id noCheck) : List String :=
  t.rows.filterMap (fun p => p.phone.filter (fun s => s ≠ ""))

/-- The users that signed up and their profiles. -/
structure Accounts where
  authUsers : List Uuid
  userProfiles : Table UserProfile.id noCheck
  uqPhone : (indexedPhones userProfiles).Nodup
  inRange : ∀ p ∈ userProfiles.rows, p.inRange = true

inductive PgError
  | raise (message : String)
  | violates (constraint : DbError)
  | permissionDenied
  deriving DecidableEq, Repr

def Accounts.write (a : Accounts) (t : Table UserProfile.id noCheck) : Except PgError Accounts :=
  if hr : ∀ p ∈ t.rows, p.inRange = true then
    if hp : (indexedPhones t).Nodup then .ok ⟨a.authUsers, t, hp, hr⟩
    else .error (.violates .uniqueViolation)
  else .error (.violates .checkViolation)

/-- An open transaction; its setting is `app.skip_role_guard`. -/
abbrev RoleTx := Tx Accounts (Option String)

/-! ## The functions -/

def hasRole (a : Accounts) (uid : Option Uuid) (required : String) : Bool :=
  ∃ id ∈ uid, ∃ p ∈ a.userProfiles.get? id, p.role.text = required

/-- The trigger of a sign-up; `rawUserMetaData` is what the client sent. -/
def handleNewUser (a : Accounts) (newId : Uuid) (rawUserMetaData : String → Option String) : Except PgError Accounts :=
  match Lang.ofText ((rawUserMetaData "preferred_language").getD "mr") with
  | none => .error (.violates .checkViolation)
  | some lang =>
    if h : a.userProfiles.get? newId = none then
      a.write (a.userProfiles.insert
        { id := newId
          name := rawUserMetaData "name"
          phone := rawUserMetaData "phone"
          role := .farmer
          preferredLanguage := lang
          district := "Nashik"
          lat := none
          lng := none } h (noCheck_true _))
    -- on conflict (id) do nothing
    else .ok a

def signUp (a : Accounts) (newId : Uuid) (rawUserMetaData : String → Option String) : Except PgError Accounts :=
  if newId ∈ a.authUsers then .error (.violates .uniqueViolation)
  else handleNewUser { a with authUsers := newId :: a.authUsers } newId rawUserMetaData

/-- The trigger of an updated row. -/
def guardProfileRole (t : RoleTx) (uid : Option Uuid) (old new : UserProfile) : Except PgError Unit :=
  if new.role ≠ old.role then
    if t.current.getD "false" ≠ "true" then
      if ¬ hasRole t.store uid "admin" then .error (.raise "role change requires admin privileges (error 403)")
      else .ok ()
    else .ok ()
  else .ok ()

/-- An update of the profiles `p` selects: the guard on each row, then the constraints.  Several rows are updated only by
callers without a token, to whom `has_role` says no before as after. -/
def updateProfiles (t : RoleTx) (uid : Option Uuid) (p : UserProfile → Bool) (f : Patch UserProfile.id noCheck) :
    Except PgError RoleTx := do
  (t.store.userProfiles.rows.filter p).forM (fun old => guardProfileRole t uid old (f.apply old))
  let a ← t.store.write (t.store.userProfiles.update p f)
  pure { t with store := a }

def UserProfile.setRole (role : Role) : Patch UserProfile.id noCheck :=
  ⟨fun p => { p with role := role }, fun _ => rfl, fun _ h => h⟩

def adminSetRole (t : RoleTx) (uid : Option Uuid) (currentUser : String) (targetUser : Uuid) (newRole : String) :
    Except PgError RoleTx :=
  if ¬ (hasRole t.store uid "admin" ∨ currentUser = "postgres") then .error (.raise "admin_set_role: 403 admin required")
  else
    match Role.ofText newRole with
    | none => .error (.raise s!"admin_set_role: invalid role {newRole}, must be farmer|admin|buyer|fpo")
    | some role =>
      let t := t.setConfig (some "true") true
      if t.store.userProfiles.get? targetUser = none then
        .error (.raise s!"admin_set_role: user {targetUser} not found in user_profiles")
      else updateProfiles t uid (fun p => p.id = targetUser) (UserProfile.setRole role)

/-! ## Transactions -/

inductive Statement
  | signUp (newId : Uuid) (rawUserMetaData : String → Option String)
  | updateProfiles (p : UserProfile → Bool) (f : Patch UserProfile.id noCheck)
  | adminSetRole (targetUser : Uuid) (newRole : String)

/-- One statement.  A policy shows an update the caller's own row; `admin_set_role` runs as its owner. -/
def execStatement (c : Caller) (t : RoleTx) : Statement → Except PgError RoleTx
  | .signUp newId rawUserMetaData => do
    let a ← signUp t.store newId rawUserMetaData
    pure { t with store := a }
  | .updateProfiles p f => updateProfiles t c.uid (fun r => p r ∧ (c.bypassesRls ∨ c.uid = some r.id)) f
  | .adminSetRole targetUser newRole =>
    if c.executesAdminSetRole then adminSetRole t c.uid functionOwner targetUser newRole
    else .error .permissionDenied

structure Transaction where
  caller : Caller
  statements : List Statement

abbrev RoleConn := Conn Accounts (Option String)

def transactStep (s : RoleConn) (t : Transaction) : RoleConn := s.transact (execStatement t.caller) t.statements

/-- The role of a user, who is a farmer before signing up. -/
def roleOf (a : Accounts) (id : Uuid) : Role := ((a.userProfiles.get? id).map (·.role)).getD .farmer

/-- An administrator, or the superuser. -/
def Caller.isSanctioned (a : Accounts) (c : Caller) : Prop := hasRole a c.uid "admin" = true ∨ c = .postgres

/-- **A role changes only in a transaction of an administrator or the superuser.** -/
def RoleGuarded (s : RoleConn) (t : Transaction) : Prop :=
  ∀ id, roleOf (transactStep s t).store id ≠ roleOf s.store id → t.caller.isSanctioned s.store

/-- Nobody else who may execute `admin_set_role` calls it. -/
def Sanctions (s : RoleConn) (t : Transaction) : Prop :=
  t.caller.isSanctioned s.store ∨
    ∀ targetUser newRole, .adminSetRole targetUser newRole ∈ t.statements → ¬ t.caller.executesAdminSetRole

/-! ## What a statement leaves -/

section

variable {a a' : Accounts} {t t' : RoleTx} {uid : Option Uuid}

theorem write_ok {tbl : Table UserProfile.id noCheck} (h : a.write tbl = .ok a') : a'.userProfiles = tbl := by
  unfold Accounts.write at h
  split at h
  · split at h
    · obtain rfl := Except.ok.inj h
      rfl
    · cases h
  · cases h

theorem text_eq_admin {r : Role} : r.text = "admin" ↔ r = .admin := by
  cases r <;> decide

theorem hasRole_admin : hasRole a uid "admin" = true ↔ ∃ id ∈ uid, roleOf a id = .admin := by
  unfold hasRole roleOf
  rw [decide_eq_true_iff]
  refine exists_congr (fun id => and_congr_right (fun _ => ?_))
  cases a.userProfiles.get? id with
  | none => simp
  | some p => simp [text_eq_admin]

/-- A sign-up makes a farmer, whatever the client sent. -/
theorem roleOf_signUp {newId : Uuid} {rawUserMetaData : String → Option String}
    (h : signUp a newId rawUserMetaData = .ok a') (id : Uuid) : roleOf a' id = roleOf a id := by
  unfold signUp at h
  split at h
  · cases h
  · unfold handleNewUser at h
    split at h
    · cases h
    · split at h
      · rename_i hnone
        unfold roleOf
        rw [write_ok h]
        dsimp only
        rw [Table.get?_insert]
        split
        · rename_i hid
          subst hid
          rw [hnone]
          rfl
        · rfl
      · obtain rfl := Except.ok.inj h
        rfl

theorem guardProfileRole_ok (hno : hasRole t.store uid "admin" = false) (hflag : t.current ≠ some "true")
    {old new : UserProfile} (h : guardProfileRole t uid old new = .ok ()) : new.role = old.role := by
  have hset : t.current.getD "false" ≠ "true" := by
    cases hc : t.current with
    | none => simp
    | some v => simpa [hc] using hflag
  refine Classical.byContradiction (fun hne => ?_)
  unfold guardProfileRole at h
  rw [if_pos hne, if_pos hset, if_pos (by simp [hno])] at h
  cases h

/-- **Without the flag, an update by anybody but an administrator keeps the roles.** -/
theorem roleOf_updateProfiles (hno : hasRole t.store uid "admin" = false) (hflag : t.current ≠ some "true")
    {p : UserProfile → Bool} {f : Patch UserProfile.id noCheck} (h : updateProfiles t uid p f = .ok t') (id : Uuid) :
    roleOf t'.store id = roleOf t.store id := by
  unfold updateProfiles at h
  simp only [bind_ok] at h
  obtain ⟨⟨⟩, hguard, a, hwrite, h⟩ := h
  obtain rfl := Except.ok.inj h
  have hrows : ∀ r ∈ t.store.userProfiles.rows, p r = true → (f.apply r).role = r.role := fun r hr hp =>
    guardProfileRole_ok hno hflag (forM_ok.1 hguard r (List.mem_filter.2 ⟨hr, hp⟩))
  unfold roleOf
  rw [write_ok hwrite, Table.get?_update, Option.map_map]
  refine congrArg (fun x : Option Role => x.getD .farmer) (Option.map_congr (fun r hr => ?_))
  show (if p r = true then f.apply r else r).role = r.role
  by_cases hp : p r = true
  · simp [hp, hrows r (Table.mem_of_get? hr) hp]
  · simp [hp]

theorem updateProfiles_tx {p : UserProfile → Bool} {f : Patch UserProfile.id noCheck}
    (h : updateProfiles t uid p f = .ok t') : t'.current = t.current ∧ t'.setting = t.setting := by
  unfold updateProfiles at h
  simp only [bind_ok] at h
  obtain ⟨-, -, a, -, h⟩ := h
  obtain rfl := Except.ok.inj h
  exact ⟨rfl, rfl⟩

/-- The flag is set for the transaction only. -/
theorem execStatement_setting {c : Caller} {s : Statement} (h : execStatement c t s = .ok t') : t'.setting = t.setting := by
  cases s with
  | signUp newId rawUserMetaData =>
    simp only [execStatement, bind_ok] at h
    obtain ⟨a, -, h⟩ := h
    obtain rfl := Except.ok.inj h
    rfl
  | updateProfiles p f => exact (updateProfiles_tx h).2
  | adminSetRole targetUser newRole =>
    simp only [execStatement] at h
    split at h
    · unfold adminSetRole at h
      split at h
      · cases h
      · split at h
        · cases h
        · simp only at h
          split at h
          · cases h
          · exact (updateProfiles_tx h).2
    · cases h

/-- **A statement of a caller who is no administrator keeps the roles**, while the flag is unset and unless it is a call of
`admin_set_role` by one who may execute it. -/
theorem execStatement_keeps {c : Caller} {s : Statement} (hno : hasRole t.store c.uid "admin" = false)
    (hflag : t.current ≠ some "true") (hs : ∀ targetUser newRole, s = .adminSetRole targetUser newRole →
      ¬ c.executesAdminSetRole) (h : execStatement c t s = .ok t') :
    t'.current = t.current ∧ ∀ id, roleOf t'.store id = roleOf t.store id := by
  cases s with
  | signUp newId rawUserMetaData =>
    simp only [execStatement, bind_ok] at h
    obtain ⟨a, ha, h⟩ := h
    obtain rfl := Except.ok.inj h
    exact ⟨rfl, roleOf_signUp ha⟩
  | updateProfiles p f => exact ⟨(updateProfiles_tx h).1, roleOf_updateProfiles hno hflag h⟩
  | adminSetRole targetUser newRole =>
    simp only [execStatement, if_neg (hs targetUser newRole rfl)] at h
    cases h

end

/-! ## Runs of transactions -/

theorem transactStep_setting (s : RoleConn) (t : Transaction) : (transactStep s t).setting = s.setting :=
  Conn.transact_setting (fun _ _ _ _ h => execStatement_setting h)

theorem guarded_of_sanctions {s : RoleConn} {t : Transaction} (hs : s.setting ≠ some "true") (h : Sanctions s t) :
    RoleGuarded s t := by
  intro id hne
  refine Classical.byContradiction (fun hc => hne ?_)
  have hcalls := h.resolve_left hc
  have hno : ∀ a : Accounts, (∀ id, roleOf a id = roleOf s.store id) → hasRole a t.caller.uid "admin" = false := by
    intro a ha
    refine Bool.eq_false_iff.2 (fun hadmin => hc (Or.inl (hasRole_admin.2 ?_)))
    obtain ⟨uid, huid, hrole⟩ := hasRole_admin.1 hadmin
    exact ⟨uid, huid, (ha uid).symm.trans hrole⟩
  unfold transactStep
  rcases Conn.transact_cases (execStatement t.caller) s t.statements with he | ⟨t', ht', he⟩
  · rw [he]
  · rw [he]
    -- statement by statement, the flag stays unset and the roles stay as they were
    have hinv := Tx.foldlM_inv (I := fun x : RoleTx => x.current = s.setting ∧ ∀ id, roleOf x.store id = roleOf s.store id)
      (fun x hx u u' hu hexec => by
        obtain ⟨hcur, hroles⟩ := execStatement_keeps (hno u.store hu.2) (hu.1 ▸ hs)
          (fun targetUser newRole he => hcalls targetUser newRole (he ▸ hx)) hexec
        exact ⟨hcur.trans hu.1, fun id => (hroles id).trans (hu.2 id)⟩)
      ⟨rfl, fun _ => rfl⟩ ht'
    exact hinv.2 id

/-- **No self-promotion**: in a run in which nobody but administrators and the superuser calls `admin_set_role`, a role
changes only in a transaction of one of these. -/
theorem roles_guarded {s : RoleConn} (hs : s.setting ≠ some "true") {ts : List Transaction}
    (h : Along transactStep Sanctions s ts) :
    ∀ pre t post, ts = pre ++ t :: post → RoleGuarded (after transactStep s pre) t := by
  intro pre t post hts
  have hset : (after transactStep s pre).setting ≠ some "true" :=
    inv_after (fun s => s.setting ≠ some "true") (fun s t hs => (transactStep_setting s t).symm ▸ hs) pre s hs
  exact guarded_of_sanctions hset ((along_iff s ts).1 h pre t post hts)

/-! ## The guard of `admin_set_role` -/

/-- A change of role is no change of what the constraints read. -/
theorem write_setRole (a : Accounts) (targetUser : Uuid) (role : Role) : ∃ a',
    a.write (a.userProfiles.update (fun p => p.id = targetUser) (UserProfile.setRole role)) = .ok a' := by
  have hrange : ∀ p ∈ (a.userProfiles.update (fun p => p.id = targetUser) (UserProfile.setRole role)).rows,
      p.inRange = true := by
    intro p hp
    obtain ⟨q, hq, rfl⟩ := Table.mem_update.1 hp
    split
    · exact a.inRange q hq
    · exact a.inRange q hq
  have hphones : indexedPhones (a.userProfiles.update (fun p => p.id = targetUser) (UserProfile.setRole role))
      = indexedPhones a.userProfiles := by
    refine (List.filterMap_map ..).trans (List.filterMap_congr (fun p _ => ?_))
    show (if decide (p.id = targetUser) = true then (UserProfile.setRole role).apply p else p).phone.filter _ = _
    split
    · rfl
    · rfl
  unfold Accounts.write
  rw [dif_pos hrange, dif_pos (hphones ▸ a.uqPhone)]
  exact ⟨_, rfl⟩

/-- **Run by its owner, `admin_set_role` sets the role** of a user who has a profile, whoever called it. -/
theorem adminSetRole_owner (t : RoleTx) (uid : Option Uuid) {targetUser : Uuid} {newRole : String} {p : UserProfile}
    {role : Role} (hp : t.store.userProfiles.get? targetUser = some p) (hr : Role.ofText newRole = some role) :
    ∃ t', adminSetRole t uid functionOwner targetUser newRole = .ok t' ∧
      ∀ id, roleOf t'.store id = if id = targetUser then role else roleOf t.store id := by
  obtain ⟨a, ha⟩ := write_setRole t.store targetUser role
  have hguard : ∀ old new, guardProfileRole (t.setConfig (some "true") true) uid old new = .ok () := by
    intro old new
    unfold guardProfileRole
    split
    · rw [if_neg (by simp [Tx.setConfig])]
    · rfl
  refine ⟨{ t.setConfig (some "true") true with store := a }, ?_, fun id => ?_⟩
  · unfold adminSetRole
    rw [if_neg (by simp [functionOwner]), hr]
    show (if t.store.userProfiles.get? targetUser = none then _ else _) = _
    rw [if_neg (by simp [hp])]
    unfold updateProfiles
    simp only [bind_ok]
    exact ⟨(), forM_ok.2 (fun _ _ => hguard _ _), a, ha, rfl⟩
  · unfold roleOf
    show ((a.userProfiles.get? id).map _).getD _ = _
    rw [write_ok ha, Table.get?_update]
    by_cases hid : id = targetUser
    · subst hid
      simp [hp, Table.key_of_get? hp, UserProfile.setRole]
    · cases hg : t.store.userProfiles.get? id with
      | none => simp [hid]
      | some q => simp [hid, Table.key_of_get? hg]

theorem adminSetRole_refused (t : RoleTx) (uid : Option Uuid) {targetUser : Uuid} {newRole : String}
    (h : t.store.userProfiles.get? targetUser = none ∨ Role.ofText newRole = none) :
    ∃ e, adminSetRole t uid functionOwner targetUser newRole = .error e := by
  unfold adminSetRole
  rw [if_neg (by simp [functionOwner])]
  split
  · exact ⟨_, rfl⟩
  · rename_i hr
    have hp := h.resolve_right (by simp [hr])
    exact ⟨_, if_pos hp⟩

theorem roleOf_of_get? {a : Accounts} {id : Uuid} {p : UserProfile} (h : a.userProfiles.get? id = some p) :
    roleOf a id = p.role := by
  unfold roleOf
  rw [h]
  rfl

section Call

variable {s : RoleConn} {c : Caller} {targetUser : Uuid} {newRole : String}

theorem roleOf_adminSetRole (hc : c.executesAdminSetRole) {p : UserProfile} {role : Role}
    (hp : s.store.userProfiles.get? targetUser = some p) (hr : Role.ofText newRole = some role) (id : Uuid) :
    roleOf (transactStep s ⟨c, [.adminSetRole targetUser newRole]⟩).store id
      = if id = targetUser then role else roleOf s.store id := by
  obtain ⟨t', ht', hroles⟩ := adminSetRole_owner s.begin c.uid hp hr
  have hexec : execStatement c s.begin (.adminSetRole targetUser newRole) = .ok t' := (if_pos hc).trans ht'
  unfold transactStep
  rw [Conn.transact_single_ok hexec]
  exact hroles id

/-- A call without a profile or a role to set is rolled back. -/
theorem adminSetRole_rolledBack (hc : c.executesAdminSetRole)
    (h : s.store.userProfiles.get? targetUser = none ∨ Role.ofText newRole = none) :
    transactStep s ⟨c, [.adminSetRole targetUser newRole]⟩ = s := by
  obtain ⟨e, he⟩ := adminSetRole_refused s.begin c.uid h
  exact Conn.transact_single_error ((if_pos hc).trans he)

/-- A call keeps the rule just if it is by an administrator or the superuser, or finds the role it sets. -/
theorem adminSetRole_guarded_iff (hc : c.executesAdminSetRole) :
    RoleGuarded s ⟨c, [.adminSetRole targetUser newRole]⟩ ↔ c.isSanctioned s.store ∨
      ∀ p ∈ s.store.userProfiles.get? targetUser, ∀ role ∈ Role.ofText newRole, p.role = role := by
  constructor
  · intro hguarded
    refine or_iff_not_imp_left.2 (fun hns p hp role hr => Classical.byContradiction (fun hne => hns ?_))
    refine hguarded targetUser ?_
    rw [roleOf_adminSetRole hc hp hr, if_pos rfl, roleOf_of_get? hp]
    exact fun h => hne h.symm
  · rintro (hsanctioned | hsame) id hne
    · exact hsanctioned
    · refine absurd ?_ hne
      cases hp : s.store.userProfiles.get? targetUser with
      | none => rw [adminSetRole_rolledBack hc (Or.inl hp)]
      | some p =>
        cases hr : Role.ofText newRole with
        | none => rw [adminSetRole_rolledBack hc (Or.inr hr)]
        | some role =>
          rw [roleOf_adminSetRole hc hp hr]
          split
          · rename_i hid
            rw [hid, roleOf_of_get? hp]
            exact (hsame p hp role hr).symm
          · rfl

end Call

/-- **The guard stops nobody who may execute the function**: each call sets the role it names, of a user with a profile,
and so keeps the rule just if it is by an administrator or the superuser, or finds the role it sets. -/
theorem adminSetRole_obeyed (s : RoleConn) (c : Caller) (targetUser : Uuid) (newRole : String)
    (hc : c.executesAdminSetRole) :
    (∀ p ∈ s.store.userProfiles.get? targetUser, ∀ role ∈ Role.ofText newRole, ∀ id,
      roleOf (transactStep s ⟨c, [.adminSetRole targetUser newRole]⟩).store id
        = if id = targetUser then role else roleOf s.store id) ∧
    (RoleGuarded s ⟨c, [.adminSetRole targetUser newRole]⟩ ↔ c.isSanctioned s.store ∨
      ∀ p ∈ s.store.userProfiles.get? targetUser, ∀ role ∈ Role.ofText newRole, p.role = role) :=
  ⟨fun _ hp _ hr id => roleOf_adminSetRole hc hp hr id, adminSetRole_guarded_iff hc⟩

/-! ## A first user -/

/-- Nobody has signed up. -/
def noAccounts : RoleConn := ⟨⟨[], .empty, by decide, by decide⟩, none⟩

/-- User 1 signs up, and asks to be an administrator. -/
def firstSignUp : Transaction :=
  ⟨.anon, [.signUp 1 (fun k => if k = "role" then some "admin" else none)]⟩

def promotion (c : Caller) : Transaction := ⟨c, [.adminSetRole 1 "admin"]⟩

/-- The superuser makes user 1 the first administrator. -/
theorem roles_guarded_firstAdmin : RoleGuarded (after transactStep noAccounts [firstSignUp]) (promotion .postgres) := by
  have h : Along transactStep Sanctions noAccounts [firstSignUp, promotion .postgres] :=
    ⟨Or.inr (by simp [firstSignUp]), Or.inl (Or.inr rfl), trivial⟩
  exact roles_guarded (by simp [noAccounts]) h [firstSignUp] (promotion .postgres) [] rfl

/-- **The service role does the same**: no user's token, and not the superuser. -/
theorem serviceRole_promotes : roleOf (after transactStep noAccounts [firstSignUp]).store 1 = .farmer ∧
    roleOf (after transactStep noAccounts [firstSignUp, promotion .serviceRole]).store 1 = .admin ∧
    ¬ Caller.isSanctioned (after transactStep noAccounts [firstSignUp]).store .serviceRole := by
  refine ⟨by decide +kernel, by decide +kernel, ?_⟩
  rintro (h | h)
  · exact absurd h (by decide +kernel)
  · cases h

/-- The service role names the role that user 1 has, which keeps the rule, and then another. -/
theorem adminSetRole_obeyed_serviceRole :
    let s := after transactStep noAccounts [firstSignUp]
    RoleGuarded s ⟨.serviceRole, [.adminSetRole 1 "farmer"]⟩ ∧
      ∀ id, roleOf (transactStep s (promotion .serviceRole)).store id = if id = 1 then .admin else roleOf s.store id := by
  intro s
  have hp : s.store.userProfiles.get? 1 = some ⟨1, none, none, .farmer, .mr, "Nashik", none, none⟩ := by decide +kernel
  refine ⟨(adminSetRole_obeyed s .serviceRole 1 "farmer" (Or.inl rfl)).2.2 (Or.inr ?_),
    (adminSetRole_obeyed s .serviceRole 1 "admin" (Or.inl rfl)).1 _ hp .admin (by decide)⟩
  intro p hp' role hr
  obtain rfl := Option.some.inj (hp.symm.trans hp')
  exact Option.some.inj ((by decide : some Role.farmer = Role.ofText "farmer").trans hr)

end Krishi
