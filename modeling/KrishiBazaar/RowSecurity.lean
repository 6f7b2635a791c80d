import KrishiBazaar.Lib.Policies
import KrishiBazaar.Lib.Run
import KrishiBazaar.Requests
import KrishiBazaar.Roles
/-!
# RowSecurity — what a client that goes past the API can do

The tables are open to anyone who has the public key, and the policies of `db/migrations` are what protects them there:
a logged-in user has the rows that bear the user's id, an administrator may write prices and buyers and settle what is
others', and what nobody has a policy for stays as it is.  A trigger keeps roles from changing.

So whatever statements clients that are neither a user nor administrators send, in any order, the user's rows and the
public tables stay as they were and nobody's role changes (`strangers_harmless`), and of the user's rows they are shown
just the lots that name them as the FPO (`strangers_blind`).
-/
namespace Krishi

open Lib

/-- Who a statement comes from, as the policies see it: `auth.uid()` and `has_role('admin')`. -/
structure Visitor where
  uid : Option Uuid
  admin : Bool
  deriving DecidableEq, Repr

section Policies

variable {ρ : Type}

/-- `auth.uid() = id`, which is null for a client without a user. -/
def Visitor.is (v : Visitor) (userId : Uuid) : Bool := v.uid = some userId

def readsAll : Policy Visitor ρ := ⟨.select, some (fun _ _ => true), none⟩

def readsIf (p : ρ → Bool) : Policy Visitor ρ := ⟨.select, some (fun _ r => p r), none⟩

/-- `auth.uid() = user_id or public.has_role('admin')` -/
def ownOrAdmin (userId : ρ → Uuid) (v : Visitor) (r : ρ) : Bool := v.is (userId r) || v.admin

def own (userId : ρ → Uuid) (v : Visitor) (r : ρ) : Bool := v.is (userId r)

def isAdmin (v : Visitor) (_ : ρ) : Bool := v.admin

/-- The owner's table: read and written by its user, or an administrator. -/
def ownersPolicies (userId : ρ → Uuid) (creates : Visitor → ρ → Bool) (checks : Option (Visitor → ρ → Bool)) :
    List (Policy Visitor ρ) :=
  [⟨.select, some (ownOrAdmin userId), none⟩, ⟨.insert, none, some creates⟩, ⟨.update, some (ownOrAdmin userId), checks⟩]

end Policies

/-! ## The tables -/

/-- A table with policies and nothing else to pass. -/
def secured {ρ κ : Type} {key : ρ → κ} {check : ρ → Bool} [DecidableEq κ] (tab : Tab DB key check)
    (policies : List (Policy Visitor ρ)) : Secured DB Visitor where
  Row := ρ
  Key := κ
  key := key
  check := check
  decEq := inferInstance
  tab := tab
  policies := policies
  trigger _ _ _ := true
  constraint _ := true
  pinsKey _ _ := false
  pinsRow _ _ := false
  onDelete db _ := db
  get_onDelete _ _ := rfl

inductive RlsTable
  | markets | commodities | commodityAlias | prices | forecasts | userProfiles | alerts | notificationLog | buyers | lots
  | offers | payments | grievances | logisticsOptions | logisticsBookings
  deriving DecidableEq, Repr

/-- `chk_price_order` and `uq_price_record`. -/
def pricesConstraint (rows : List Price) : Bool :=
  (rows.map Price.uqPriceRecord).Nodup ∧
    ∀ p ∈ rows, (∀ x ∈ p.minPrice, x ≤ p.modalPrice) ∧ ∀ x ∈ p.maxPrice, p.modalPrice ≤ x

def profilesConstraint (rows : List UserProfile) : Bool :=
  (rows.filterMap (fun p => p.phone.filter (fun s => s ≠ ""))).Nodup ∧ ∀ p ∈ rows, p.inRange = true

/-- `uq_payments_one_open_per_offer` -/
def paymentsConstraint (rows : List Payment) : Bool :=
  ((rows.filter (fun p => p.status = .pending ∨ p.status = .paid)).map (·.offerId)).Nodup

/-- Some row bears the id of the user. -/
def DB.refersToUser (db : DB) (userId : Uuid) : Bool :=
  db.lots.rows.any (fun l => l.isOf userId) || db.offers.rows.any (fun o => o.userId = userId) ||
    db.payments.rows.any (fun p => p.userId = userId) || db.grievances.rows.any (fun g => g.userId = userId) ||
    db.logisticsBookings.rows.any (fun b => b.userId = userId) || db.alerts.rows.any (fun a => a.userId = userId) ||
    db.notificationLog.rows.any (fun n => n.userId = userId)

def DB.refersToLot (db : DB) (lotId : Uuid) : Bool :=
  db.offers.rows.any (fun o => o.lotId = lotId) || db.grievances.rows.any (fun g => g.lotId = some lotId) ||
    db.logisticsBookings.rows.any (fun b => b.lotId = lotId)

def DB.refersToOffer (db : DB) (offerId : Uuid) : Bool :=
  db.payments.rows.any (fun p => p.offerId = offerId) || db.grievances.rows.any (fun g => g.offerId = some offerId)

/-- **The policies of the migrations.** -/
def RlsTable.spec : RlsTable → Secured DB Visitor
  | .markets => secured Krishi.markets [readsAll]
  | .commodities => secured Krishi.commodities [readsAll]
  | .commodityAlias => secured Krishi.commodityAlias [readsAll]
  | .prices =>
    { secured Krishi.prices [readsAll, ⟨.insert, none, some isAdmin⟩, ⟨.update, some isAdmin, none⟩] with
      constraint := pricesConstraint }
  | .forecasts => secured Krishi.forecasts [readsAll]
  | .userProfiles =>
    { secured Krishi.userProfiles [⟨.select, some (ownOrAdmin (·.id)), none⟩,
        ⟨.update, some (own (·.id)), some (own (·.id))⟩] with
      -- `guard_profile_role`; no client of these tables can set `app.skip_role_guard`
      trigger := fun v old new => new.role = old.role ∨ v.admin
      constraint := profilesConstraint
      pinsKey := fun db u => db.refersToUser u.id }
  | .alerts =>
    { secured Krishi.alerts [⟨.select, some (ownOrAdmin (·.userId)), none⟩, ⟨.insert, none, some (own (·.userId))⟩,
        ⟨.update, some (own (·.userId)), some (own (·.userId))⟩, ⟨.delete, some (own (·.userId)), none⟩] with
      pinsKey := fun db a => db.notificationLog.rows.any (fun n => n.alertId = a.id)
      onDelete := DB.unlinkAlerts
      get_onDelete := fun _ _ => rfl }
  | .notificationLog => secured Krishi.notificationLog [⟨.select, some (ownOrAdmin (·.userId)), none⟩]
  | .buyers =>
    { secured Krishi.buyers [readsIf (·.verified), ⟨.all, some isAdmin, some isAdmin⟩] with
      pinsKey := fun db b => db.offers.rows.any (fun o => o.buyerId = b.id)
      pinsRow := fun db b => db.offers.rows.any (fun o => o.buyerId = b.id) }
  | .lots =>
    { secured Krishi.lots [⟨.select, some (fun v l => v.is l.userId || l.fpoId.any v.is || v.admin), none⟩,
        ⟨.insert, none, some (own (·.userId))⟩,
        ⟨.update, some (ownOrAdmin (·.userId)), some (ownOrAdmin (·.userId))⟩] with
      pinsKey := fun db l => db.refersToLot l.id }
  | .offers =>
    { secured Krishi.offers (ownersPolicies (·.userId) (own (·.userId)) none) with
      pinsKey := fun db o => db.refersToOffer o.id }
  | .payments =>
    { secured Krishi.payments (ownersPolicies (·.userId) (ownOrAdmin (·.userId)) none) with
      constraint := paymentsConstraint }
  | .grievances => secured Krishi.grievances (ownersPolicies (·.userId) (own (·.userId)) none)
  | .logisticsOptions => secured Krishi.logisticsOptions [readsIf (·.isActive)]
  | .logisticsBookings =>
    secured Krishi.logisticsBookings (ownersPolicies (·.userId) (own (·.userId)) (some (ownOrAdmin (·.userId))))

/-! ## Statements from anyone -/

/-- A statement of a client, logged in or not. -/
structure Visit where
  caller : Option Uuid
  table : RlsTable
  call : table.spec.Call

def DB.roleOf (db : DB) (userId : Uuid) : Option Role := (db.userProfiles.get? userId).map (·.role)

/-- The caller as the statement's snapshot has it. -/
def DB.visitor (db : DB) (caller : Option Uuid) : Visitor := ⟨caller, caller.any (fun w => db.roleOf w = some .admin)⟩

def Visit.answer (db : DB) (v : Visit) : Option DB := v.table.spec.exec (db.visitor v.caller) db v.call

/-- A statement that is refused changes nothing. -/
def visitStep (db : DB) (v : Visit) : DB := (v.answer db).getD db

/-- The rows the client gets back. -/
def Visit.shown (db : DB) (v : Visit) : List v.table.spec.Row :=
  if (v.answer db).isSome then v.table.spec.shown (db.visitor v.caller) db v.call else []

/-- Neither the user nor an administrator. -/
def Stranger (userId : Uuid) (db : DB) (caller : Option Uuid) : Prop :=
  caller ≠ some userId ∧ (db.visitor caller).admin = false

/-- What is the user's in each table; the public tables are as if they were everyone's. -/
def RlsTable.isOf (userId : Uuid) : (t : RlsTable) → t.spec.Row → Bool
  | .userProfiles => fun (u : UserProfile) => u.id = userId
  | .alerts => fun (a : Alert) => a.userId = userId
  | .lots => fun (l : Lot) => l.userId = userId
  | .offers => fun (o : Offer) => o.userId = userId
  | .payments => fun (p : Payment) => p.userId = userId
  | .grievances => fun (g : Grievance) => g.userId = userId
  | .logisticsBookings => fun (b : LogisticsBooking) => b.userId = userId
  | .notificationLog => fun (n : NotificationLog) => n.userId = userId
  | .markets | .commodities | .commodityAlias | .prices | .forecasts | .buyers | .logisticsOptions => fun _ => true

/-- What is to be kept from the caller: the user's own rows, but for lots that name the caller as their FPO, and of the
public tables the buyers that are not verified and the options that are not active. -/
def RlsTable.isSecret (userId : Uuid) (caller : Option Uuid) : (t : RlsTable) → t.spec.Row → Bool
  | .userProfiles => fun (u : UserProfile) => u.id = userId
  | .alerts => fun (a : Alert) => a.userId = userId
  | .notificationLog => fun (n : NotificationLog) => n.userId = userId
  | .lots => fun (l : Lot) => l.userId = userId ∧ ∀ w ∈ caller, l.fpoId ≠ some w
  | .offers => fun (o : Offer) => o.userId = userId
  | .payments => fun (p : Payment) => p.userId = userId
  | .grievances => fun (g : Grievance) => g.userId = userId
  | .logisticsBookings => fun (b : LogisticsBooking) => b.userId = userId
  | .buyers => fun (b : Buyer) => !b.verified
  | .logisticsOptions => fun (s : LogisticsOption) => !s.isActive
  | .markets | .commodities | .commodityAlias | .prices | .forecasts => fun _ => false

section Strangers

variable {userId : Uuid} {v : Visitor} {db db' : DB}

theorem is_eq_false (hu : v.uid ≠ some userId) {w : Uuid} (h : v.is w = true) : w ≠ userId := by
  rintro rfl
  exact hu (of_decide_eq_true h)

/-- **No policy lets a stranger write what is the user's**, or a public table. -/
theorem foreign_of_stranger (hu : v.uid ≠ some userId) (ha : v.admin = false) (t : RlsTable) :
    t.spec.Foreign v (t.isOf userId) := by
  cases t <;>
    refine ⟨fun r h => ?_, fun r h => ?_, fun r h => ?_, fun r h => ?_⟩ <;>
    simp [RlsTable.spec, secured, leaves, touches, readsAll, readsIf, isAdmin, own, ownOrAdmin, ownersPolicies,
      ha] at h <;>
    exact decide_eq_false (is_eq_false hu h)

/-- Nor shows a stranger what is secret. -/
theorem not_secret_of_shown (hu : v.uid ≠ some userId) (ha : v.admin = false) {t : RlsTable} {r : t.spec.Row}
    (h : touches t.spec.policies .select v r = true) : t.isSecret userId v.uid r = false := by
  cases t <;>
    simp [RlsTable.spec, secured, touches, readsAll, readsIf, isAdmin, ownOrAdmin, ownersPolicies, ha] at h <;>
    simp only [RlsTable.isSecret]
  case lots =>
    refine decide_eq_false (fun hsecret => ?_)
    rcases h with h | h
    · exact is_eq_false hu h hsecret.1
    · obtain ⟨w, hw, his⟩ := (Option.any_eq_true _ _).1 h
      exact hsecret.2 w (of_decide_eq_true his) hw
  case buyers => simpa using h
  case logisticsOptions => simpa using h
  all_goals exact decide_eq_false (is_eq_false hu h)

theorem rows_set {s t : RlsTable} (h : s ≠ t) (x : Table t.spec.key t.spec.check) :
    s.spec.rows (t.spec.tab.set db x) = s.spec.rows db := by
  cases s <;> cases t <;> first | rfl | exact absurd rfl h

theorem rows_onDelete {s t : RlsTable} (h : s ≠ .notificationLog) (gone : List t.spec.Row) :
    s.spec.rows (t.spec.onDelete db gone) = s.spec.rows db := by
  cases s <;> cases t <;> first | rfl | exact absurd rfl h

/-- A write to a table leaves the others, but for the messages of alerts. -/
theorem rows_of_writes {s t : RlsTable} (h : s ≠ t) (hs : s ≠ .notificationLog) (hw : t.spec.Writes v db db') :
    s.spec.rows db' = s.spec.rows db := by
  cases hw with
  | nothing => rfl
  | inserts => exact rows_set h _
  | updates => exact rows_set h _
  | deletes => exact (rows_onDelete hs _).trans (rows_set h _)

/-! ### Messages -/

/-- The user's messages are of alerts of the user, if of any. -/
def OwnMessages (userId : Uuid) (db : DB) : Prop :=
  ∀ n ∈ db.notificationLog.rows, n.userId = userId → ∀ k ∈ n.alertId, ∃ a ∈ db.alerts.rows, a.id = k ∧ a.userId = userId

/-- What is done to rows that are not asked for. -/
theorem filter_map_of {ρ : Type} {p : ρ → Bool} {f : ρ → ρ} : ∀ {l : List ρ},
    (∀ r ∈ l, p (f r) = p r ∧ (p r = true → f r = r)) → (l.map f).filter p = l.filter p
  | [], _ => rfl
  | r :: l, h => by
    obtain ⟨hp, hf⟩ := h r List.mem_cons_self
    rw [List.map_cons, List.filter_cons, List.filter_cons, hp,
      filter_map_of (fun r' hr' => h r' (List.mem_cons_of_mem _ hr'))]
    split
    · rename_i hr
      rw [hf hr]
    · rfl

/-- **Messages of the user stay** when alerts are deleted that are not the user's. -/
theorem messages_unlinked (hown : OwnMessages userId db) {gone : List Alert} (hgone : ∀ a ∈ gone, a ∈ db.alerts.rows)
    (hothers : ∀ a ∈ gone, a.userId ≠ userId) :
    (db.unlinkAlerts gone).notificationLog.rows.filter (fun n => n.userId = userId)
      = db.notificationLog.rows.filter (fun n => n.userId = userId) := by
  refine filter_map_of (fun n hn => ⟨?_, fun hu => ?_⟩)
  · split <;> rfl
  · refine if_neg (fun hany => ?_)
    obtain ⟨a, ha, hlink⟩ := List.any_eq_true.1 hany
    obtain ⟨a', ha', hid, hu'⟩ := hown n hn (of_decide_eq_true hu) a.id (of_decide_eq_true hlink)
    rw [db.alerts.eq_of_key ha' (hgone a ha) hid] at hu'
    exact hothers a ha hu'

theorem messages_of_writes (hu : v.uid ≠ some userId) (hown : OwnMessages userId db) {t : RlsTable}
    (ht : RlsTable.notificationLog ≠ t) (hw : t.spec.Writes v db db') :
    db'.notificationLog.rows.filter (fun n => n.userId = userId)
      = db.notificationLog.rows.filter (fun n => n.userId = userId) := by
  cases hw with
  | nothing => rfl
  | inserts => exact congrArg (List.filter _) (rows_set ht _)
  | updates => exact congrArg (List.filter _) (rows_set ht _)
  | @deletes x hit hx hr =>
    by_cases halerts : t = .alerts
    · subst halerts
      have hgone : ∀ a ∈ db.alerts.rows.filter hit, a.userId ≠ userId := by
        intro a ha
        have htouched := hr a (List.mem_filter.1 ha).2
        simp [RlsTable.spec, secured, touches, own] at htouched
        exact is_eq_false hu htouched
      exact messages_unlinked hown (fun a ha => (List.mem_filter.1 ha).1) hgone
    · refine congrArg (List.filter _) (Eq.trans ?_ (rows_set ht x))
      cases t <;> first | rfl | exact absurd rfl halerts

theorem roleOf_eq {db db' : DB} (h : db'.userProfiles.rows = db.userProfiles.rows) (w : Uuid) :
    db'.roleOf w = db.roleOf w := by
  unfold DB.roleOf Table.get?
  rw [h]

theorem map_role_find? {g : UserProfile → UserProfile} (w : Uuid) : ∀ {l : List UserProfile},
    (∀ r ∈ l, (g r).id = r.id ∧ (g r).role = r.role) →
      ((l.map g).find? (fun r => r.id = w)).map (·.role) = (l.find? (fun r => r.id = w)).map (·.role)
  | [], _ => rfl
  | r :: l, h => by
    obtain ⟨hid, hrole⟩ := h r List.mem_cons_self
    have ih := map_role_find? w (fun r' hr' => h r' (List.mem_cons_of_mem _ hr'))
    rw [List.map_cons, List.find?_cons, List.find?_cons, hid]
    split
    · exact congrArg some hrole
    · exact ih

/-- A profile that is updated keeps its id, by the policy, and its role, by the trigger. -/
theorem profile_kept (ha : v.admin = false) {old new : UserProfile}
    (htouched : touches RlsTable.userProfiles.spec.policies .update v old = true)
    (hleft : leaves RlsTable.userProfiles.spec.policies .update v new = true)
    (htrigger : RlsTable.userProfiles.spec.trigger v old new = true) : new.id = old.id ∧ new.role = old.role := by
  simp [RlsTable.spec, secured, touches, own, Visitor.is] at htouched
  simp [RlsTable.spec, secured, leaves, own, Visitor.is] at hleft
  simp [RlsTable.spec, ha] at htrigger
  exact ⟨Option.some.inj (hleft.symm.trans htouched), htrigger⟩

/-- **Nobody's role changes.** -/
theorem roleOf_of_writes (ha : v.admin = false) {t : RlsTable} (hw : t.spec.Writes v db db') (w : Uuid) :
    db'.roleOf w = db.roleOf w := by
  by_cases ht : RlsTable.userProfiles = t
  · subst ht
    cases hw with
    | nothing => rfl
    | @inserts x r hx hr => simp [RlsTable.spec, secured, leaves] at hr
    | @deletes x hit hx hr =>
      refine roleOf_eq (hx.trans (List.filter_eq_self.2 (fun r _ => ?_))) w
      by_contra hhit
      have hdelete := hr r (by simpa using hhit)
      simp [RlsTable.spec, secured, touches] at hdelete
    | @updates x hit f hx hr =>
      let g : UserProfile → UserProfile := fun r => if hit r then f r else r
      have hsame : ∀ r ∈ db.userProfiles.rows, (g r).id = r.id ∧ (g r).role = r.role := by
        intro r hr'
        by_cases hhit : hit r = true
        · obtain ⟨htouched, hleft, htrigger⟩ := hr r hr' hhit
          have hg : g r = f r := if_pos hhit
          rw [hg]
          exact profile_kept ha htouched hleft htrigger
        · have hg : g r = r := if_neg hhit
          rw [hg]
          exact ⟨rfl, rfl⟩
      show (x.rows.find? _).map _ = _
      rw [hx]
      exact map_role_find? w hsame
  · exact roleOf_eq (rows_of_writes ht (by decide) hw) w

/-! ## Any number of them -/

theorem roles_step {visit : Visit} (h : Stranger userId db visit.caller) (w : Uuid) :
    (visitStep db visit).roleOf w = db.roleOf w := by
  unfold visitStep
  cases hanswer : visit.answer db with
  | none => rfl
  | some db' => exact roleOf_of_writes h.2 (Secured.writes_of_exec hanswer) w

/-- Who was a stranger still is one. -/
theorem Stranger.of_roles {caller : Option Uuid} (hs : Stranger userId db caller)
    (h : ∀ w, db'.roleOf w = db.roleOf w) : Stranger userId db' caller := by
  refine ⟨hs.1, ?_⟩
  rw [← hs.2]
  unfold DB.visitor
  simp only [h]

theorem roles_run (userId : Uuid) : ∀ (visits : List Visit) (db : DB),
    (∀ visit ∈ visits, Stranger userId db visit.caller) → ∀ w, (after visitStep db visits).roleOf w = db.roleOf w
  | [], _, _, _ => rfl
  | visit :: visits, db, h, w => by
    have hstep := roles_step (h visit List.mem_cons_self)
    have hrest := roles_run userId visits (visitStep db visit)
      (fun visit' hv => (h visit' (List.mem_cons_of_mem _ hv)).of_roles hstep)
    exact (hrest w).trans (hstep w)

/-- **The user's rows and the public tables are as they were.** -/
def Unharmed (userId : Uuid) (db db' : DB) : Prop :=
  ∀ t : RlsTable, (t.spec.rows db').filter (t.isOf userId) = (t.spec.rows db).filter (t.isOf userId)

theorem OwnMessages.of_unharmed (hown : OwnMessages userId db) (h : Unharmed userId db db') :
    OwnMessages userId db' := by
  intro n hn hu k hk
  have hmessages : db'.notificationLog.rows.filter (fun n => n.userId = userId)
      = db.notificationLog.rows.filter (fun n => n.userId = userId) := h .notificationLog
  have halerts : db'.alerts.rows.filter (fun a => a.userId = userId) = db.alerts.rows.filter (fun a => a.userId = userId) :=
    h .alerts
  have hn' : n ∈ db.notificationLog.rows.filter (fun n => n.userId = userId) := by
    rw [← hmessages]
    exact List.mem_filter.2 ⟨hn, decide_eq_true hu⟩
  obtain ⟨a, ha, hid, hau⟩ := hown n (List.mem_filter.1 hn').1 hu k hk
  have ha' : a ∈ db'.alerts.rows.filter (fun a => a.userId = userId) := by
    rw [halerts]
    exact List.mem_filter.2 ⟨ha, decide_eq_true hau⟩
  exact ⟨a, (List.mem_filter.1 ha').1, hid, hau⟩

theorem unharmed_step {visit : Visit} (h : Stranger userId db visit.caller) (hown : OwnMessages userId db) :
    Unharmed userId db (visitStep db visit) := by
  unfold visitStep
  cases hanswer : visit.answer db with
  | none => exact fun _ => rfl
  | some db' =>
    intro t
    have hw := Secured.writes_of_exec hanswer
    by_cases ht : t = visit.table
    · subst ht
      exact Secured.exec_keeps (foreign_of_stranger h.1 h.2 _) hanswer
    · by_cases hlog : t = .notificationLog
      · subst hlog
        exact messages_of_writes h.1 hown ht hw
      · exact congrArg (List.filter _) (rows_of_writes ht hlog hw)

theorem unharmed_run (userId : Uuid) : ∀ (visits : List Visit) (db : DB),
    (∀ visit ∈ visits, Stranger userId db visit.caller) → OwnMessages userId db →
      Unharmed userId db (after visitStep db visits)
  | [], _, _, _ => fun _ => rfl
  | visit :: visits, db, h, hown => by
    have hstranger := h visit List.mem_cons_self
    have hstep := unharmed_step hstranger hown
    have hrest := unharmed_run userId visits (visitStep db visit)
      (fun visit' hv => (h visit' (List.mem_cons_of_mem _ hv)).of_roles (roles_step hstranger)) (hown.of_unharmed hstep)
    exact fun t => (hrest t).trans (hstep t)

end Strangers

instance (userId : Uuid) (db : DB) (caller : Option Uuid) : Decidable (Stranger userId db caller) :=
  inferInstanceAs (Decidable (_ ∧ _))

/-- **Strangers do no harm**: after any statements, in any order, of clients that are neither the user nor administrators
at the start, the user's rows and the public tables are as they were, and no role has changed. -/
theorem strangers_harmless (userId : Uuid) (db : DB) (visits : List Visit)
    (h : ∀ visit ∈ visits, Stranger userId db visit.caller) (hown : OwnMessages userId db) :
    (∀ t : RlsTable, (t.spec.rows (after visitStep db visits)).filter (t.isOf userId)
      = (t.spec.rows db).filter (t.isOf userId)) ∧ ∀ w, (after visitStep db visits).roleOf w = db.roleOf w :=
  ⟨unharmed_run userId visits db h hown, roles_run userId visits db h⟩

/-- Farmer 1 has a lot, and another that is pooled under farmer 2; each has an alert, and was texted for it. -/
def lotsOfFirst : DB :=
  let alert (id userId : Uuid) : Alert := ⟨id, userId, 1, none, 2000, .gte, true, none, none, 1⟩
  let message (id alertId userId : Uuid) : NotificationLog :=
    ⟨id, some alertId, userId, "+919000000000", "", .en, "sent", none⟩
  { firstDay with
    lots := ⟨[⟨11, 1, none, 1, none, 10, .general, none, none, none, .open, 0⟩,
      ⟨12, 1, some 2, 1, none, 5, .general, none, none, none, .open, 0⟩], by decide, by decide⟩
    alerts := ⟨[alert 21 1, alert 22 2], by decide, by decide⟩
    notificationLog := ⟨[message 31 21 1, message 32 22 2], by decide, by decide⟩ }

/-- Farmer 2 would withdraw every lot, become an administrator and delete every alert, and reads the lots. -/
def intrusion : List Visit :=
  [⟨some 2, .lots, .update true (fun _ => true) (fun (l : Lot) => { l with status := .withdrawn })⟩,
    ⟨some 2, .userProfiles, .update false (fun _ => true) (fun (u : UserProfile) => { u with role := .admin })⟩,
    ⟨some 2, .alerts, .delete false (fun _ => true)⟩,
    ⟨some 2, .lots, .select (fun _ => true)⟩]

/-- Of farmer 2 the alert is gone, and the message has no alert; of farmer 1 everything is as it was. -/
theorem strangers_harmless_intrusion : (after visitStep lotsOfFirst intrusion).roleOf 2 = some .farmer ∧
    (after visitStep lotsOfFirst intrusion).notificationLog.rows.map (fun n => (n.id, n.alertId))
      = [(31, some 21), (32, none)] ∧
    (after visitStep lotsOfFirst intrusion).alerts.rows.filter (fun a => a.userId = 1)
      = lotsOfFirst.alerts.rows.filter (fun a => a.userId = 1) := by
  have hown : OwnMessages 1 lotsOfFirst := by
    unfold OwnMessages
    decide +kernel
  obtain ⟨hrows, hroles⟩ := strangers_harmless 1 lotsOfFirst intrusion (by decide) hown
  exact ⟨(hroles 2).trans (by decide), by decide +kernel, hrows .alerts⟩

/-- **Strangers are shown nothing secret**, by any statement in any such run. -/
theorem strangers_blind (userId : Uuid) (db : DB) (visits : List Visit)
    (h : ∀ visit ∈ visits, Stranger userId db visit.caller) (pre post : List Visit) (visit : Visit)
    (hrun : visits = pre ++ visit :: post) :
    ∀ r ∈ visit.shown (after visitStep db pre), visit.table.isSecret userId visit.caller r = false := by
  have hmem : visit ∈ visits := by
    rw [hrun]
    exact List.mem_append_right _ List.mem_cons_self
  have hpre : ∀ visit' ∈ pre, Stranger userId db visit'.caller := fun visit' hv =>
    h visit' (by rw [hrun]; exact List.mem_append_left _ hv)
  have hs := (h visit hmem).of_roles (roles_run userId pre db hpre)
  intro r hr
  unfold Visit.shown at hr
  split at hr
  · rename_i hsome
    obtain ⟨db', hanswer⟩ := Option.isSome_iff_exists.1 hsome
    exact not_secret_of_shown hs.1 hs.2 (Secured.mem_shown hanswer hr)
  · cases hr

/-- The lot that is read at the end is the one that is pooled under the reader. -/
theorem strangers_blind_intrusion :
    ((⟨some 2, .lots, .select (fun _ => true)⟩ : Visit).shown (after visitStep lotsOfFirst (intrusion.take 3))).map
      (fun (l : Lot) => l.id) = [12] ∧
    ((⟨some 2, .lots, .select (fun _ => true)⟩ : Visit).shown (after visitStep lotsOfFirst (intrusion.take 3))).all
      (fun r => !RlsTable.lots.isSecret 1 (some 2) r) = true := by
  refine ⟨by decide +kernel, List.all_eq_true.2 (fun r hr => ?_)⟩
  rw [strangers_blind 1 lotsOfFirst intrusion (by decide) (intrusion.take 3) [] _ rfl r hr]
  rfl

end Krishi
