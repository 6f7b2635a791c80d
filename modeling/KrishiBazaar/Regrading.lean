import KrishiBazaar.Grievances
import KrishiBazaar.Lib.Run
/-!
# Regrading — the requests that change a buyer's evidence or grade

`buyers.payment_reliability` is a cache of what the offers, payments and grievances say about a buyer.  `gradeStep` is
one completed request that changes the one or the other; for each of them a lemma says on whom it changed the
evidence and whom it rescored.
-/
namespace Krishi

open Lib

inductive GradeRequest
  | createPayment (body : PaymentCreate)
  | markPaid (paymentId : Uuid)
  | markFailed (paymentId : Uuid)
  | markDisputed (paymentId : Uuid)
  | createGrievance (body : GrievanceCreate)
  | updateGrievance (grievanceId : Uuid) (body : GrievanceUpdate)
  | rescoreBuyers

structure GradeEvent where
  user : Uuid
  uuid : Uuid
  now : Time
  order : RowOrder
  req : GradeRequest

/-- **One completed request.** -/
def gradeStep (db : DB) (e : GradeEvent) : DB :=
  match e.req with
  | .createPayment body => (handle e.order (createPayment body e.user e.uuid e.now) db).2
  | .markPaid paymentId => (handle e.order (markPaid paymentId e.user e.now) db).2
  | .markFailed paymentId => (handle e.order (markFailed paymentId e.user) db).2
  | .markDisputed paymentId => (handle e.order (markDisputed paymentId e.user) db).2
  | .createGrievance body => (handle e.order (createGrievance body e.user e.uuid e.now) db).2
  | .updateGrievance grievanceId body => (handle e.order (adminUpdateGrievance grievanceId body e.now) db).2
  | .rescoreBuyers => (handle e.order adminRescoreBuyers db).2

namespace DB

/-- The grade of a buyer, if there is such a buyer. -/
def gradeOf (db : DB) (buyerId : Uuid) : Option (Option Reliability) :=
  (db.buyers.get? buyerId).map (·.paymentReliability)

/-- The complaints about the offers of a buyer, of every category. -/
def offerGrievances (db : DB) (buyerId : Uuid) : List Grievance :=
  db.grievances.rows.filter (fun g => g.offerId.bind db.offerBuyer = some buyerId)

end DB

/-! ## Evidence -/

/-- The tables say the same about a buyer. -/
structure SameEvidence (db db' : DB) (buyerId : Uuid) : Prop where
  payments : db'.buyerPayments buyerId = db.buyerPayments buyerId
  grievances : db'.offerGrievances buyerId = db.offerGrievances buyerId

theorem DB.buyerGrievances_eq (db : DB) (buyerId : Uuid) :
    db.buyerGrievances buyerId = (db.offerGrievances buyerId).filter (fun g => g.category = .payment) := by
  unfold DB.buyerGrievances DB.offerGrievances
  rw [List.filter_filter]
  exact List.filter_congr (fun g _ => by simp [and_comm])

theorem SameEvidence.score {db db' : DB} {buyerId : Uuid} (h : SameEvidence db db' buyerId) (filed : Nat) :
    db'.score buyerId filed = db.score buyerId filed := by
  unfold DB.score
  rw [h.payments, DB.buyerGrievances_eq, DB.buyerGrievances_eq, h.grievances]

theorem SameEvidence.trans {db db' db'' : DB} {buyerId : Uuid} (h : SameEvidence db db' buyerId)
    (h' : SameEvidence db' db'' buyerId) : SameEvidence db db'' buyerId :=
  ⟨h'.payments.trans h.payments, h'.grievances.trans h.grievances⟩

section Buyers

variable (db : DB) (buyerId k : Uuid)

theorem DB.regraded_buyers : ∃ t, db.regraded buyerId = { db with buyers := t } := by
  unfold DB.regraded
  cases db.score buyerId 0 with
  | none => exact ⟨db.buyers, rfl⟩
  | some g => exact ⟨_, rfl⟩

theorem sameEvidence_regraded : SameEvidence db (db.regraded buyerId) k := by
  obtain ⟨t, ht⟩ := db.regraded_buyers buyerId
  rw [ht]
  exact ⟨rfl, rfl⟩

theorem DB.gradeOf_regraded : (db.regraded buyerId).gradeOf k
    = (db.gradeOf k).map (fun g => if k = buyerId then (db.score k 0).or g else g) := by
  unfold DB.regraded
  cases hs : db.score buyerId 0 with
  | none =>
    by_cases hk : k = buyerId
    · simp [hk, hs]
    · simp [hk]
  | some g =>
    show ((db.buyers.update _ _).get? k).map _ = _
    rw [Table.get?_update]
    unfold DB.gradeOf
    cases hb : db.buyers.get? k with
    | none => rfl
    | some b =>
      have hkey : b.id = k := Table.key_of_get? hb
      by_cases hk : k = buyerId
      · subst hk
        simp [hkey, hs, Buyer.setReliability]
      · simp [hkey, hk]

theorem sameEvidence_elim_regraded (x : Option Uuid) (k : Uuid) : SameEvidence db (x.elim db db.regraded) k := by
  cases x with
  | none => exact ⟨rfl, rfl⟩
  | some i => exact sameEvidence_regraded db i k

theorem gradeOf_elim_other {k : Uuid} {x : Option Uuid} (hk : x ≠ some k) :
    (x.elim db db.regraded).gradeOf k = db.gradeOf k := by
  cases x with
  | none => rfl
  | some i =>
    have hi : k ≠ i := fun h => hk (congrArg some h.symm)
    refine (DB.gradeOf_regraded db i k).trans ?_
    simp only [hi, if_false]
    exact Option.map_id'

/-- **A page of buyers rescored**: each on it that has evidence gets its score. -/
theorem gradeOf_foldl_regraded (k : Uuid) : ∀ (ids : List Uuid) (db : DB),
    (∀ b, SameEvidence db (ids.foldl DB.regraded db) b) ∧ (ids.foldl DB.regraded db).gradeOf k
      = (db.gradeOf k).map (fun g => if k ∈ ids then (db.score k 0).or g else g)
  | [], db => ⟨fun _ => ⟨rfl, rfl⟩, by simp⟩
  | i :: ids, db => by
    obtain ⟨hsame, hgrade⟩ := gradeOf_foldl_regraded k ids (db.regraded i)
    refine ⟨fun b => (sameEvidence_regraded db i b).trans (hsame b), ?_⟩
    rw [List.foldl_cons, hgrade, (sameEvidence_regraded db i k).score, DB.gradeOf_regraded, Option.map_map]
    refine congrArg (fun f => (db.gradeOf k).map f) (funext fun g => ?_)
    by_cases hi : k = i
    · cases db.score k 0 <;> simp [hi]
    · simp [hi]

end Buyers

/-! ## What each request changes -/

section Requests

variable {db : DB} {b : Uuid}

/-- A payment changed in place is evidence on the buyer of its offer only. -/
theorem sameEvidence_setPayment {paymentId : Uuid} {p : Payment} (hp : db.payments.get? paymentId = some p)
    (hb : db.offerBuyer p.offerId ≠ some b) {f : Patch Payment.id Payment.check} (hf : ∀ q, (f.apply q).offerId = q.offerId) :
    SameEvidence db (db.setPayment paymentId f) b := by
  refine ⟨Table.filter_update (fun q hq hk => ?_), rfl⟩
  have hqp : q = p := Table.eq_of_get? hp hq (of_decide_eq_true hk)
  have hother : decide (db.offerBuyer q.offerId = some b) = false := decide_eq_false (by rw [hqp]; exact hb)
  refine ⟨hother, ?_⟩
  show decide (db.offerBuyer (f.apply q).offerId = some b) = false
  rw [hf q]
  exact hother

theorem sameEvidence_closeLot (offerId : Uuid) : SameEvidence db (db.closeLot offerId) b := by
  unfold DB.closeLot
  split
  · exact ⟨rfl, rfl⟩
  · exact ⟨rfl, rfl⟩

/-- Another buyer's evidence does not change when a complaint is decided, and nor do complaints it is not blamed in. -/
theorem sameEvidence_setGrievance {grievanceId : Uuid} {g : Grievance} (hg : db.grievances.get? grievanceId = some g)
    (hb : g.offerId.bind db.offerBuyer ≠ some b) (s : GrievanceStatus) (now : Time) :
    SameEvidence db (db.setGrievance grievanceId s now) b := by
  refine ⟨rfl, Table.filter_update (fun q hq hk => ?_)⟩
  have hqg : q = g := Table.eq_of_get? hg hq (of_decide_eq_true hk)
  have hother : decide (q.offerId.bind db.offerBuyer = some b) = false := decide_eq_false (by rw [hqg]; exact hb)
  exact ⟨hother, hother⟩

/-- A complaint of another category is no evidence. -/
theorem score_setGrievance {grievanceId : Uuid} {g : Grievance} (hg : db.grievances.get? grievanceId = some g)
    (hb : g.accused db ≠ some b) (s : GrievanceStatus) (now : Time) (filed : Nat) :
    (db.setGrievance grievanceId s now).score b filed = db.score b filed := by
  have hsame : (db.setGrievance grievanceId s now).buyerGrievances b = db.buyerGrievances b := by
    refine Table.filter_update (fun q hq hk => ?_)
    have hqg : q = g := Table.eq_of_get? hg hq (of_decide_eq_true hk)
    have hother : decide (q.offerId.bind db.offerBuyer = some b ∧ q.category = .payment) = false := by
      refine decide_eq_false (fun h => hb ?_)
      unfold Grievance.accused
      rw [← hqg, if_pos h.2, h.1]
    exact ⟨hother, hother⟩
  show scorePaymentReliability _ _ _ (countOpen ((db.setGrievance grievanceId s now).buyerGrievances b) + filed) = _
  rw [hsame]
  rfl

theorem score_fileGrievance {body : GrievanceCreate} {userId id : Uuid} (h : Files db body userId id) (now : Time) :
    (h.stored now).score b 0
      = db.score b (if body.category = .payment ∧ body.offerId.bind db.offerBuyer = some b then 1 else 0) := by
  have hrows : (h.stored now).buyerGrievances b = db.buyerGrievances b ++
      [body.row userId id now].filter (fun g => g.offerId.bind db.offerBuyer = some b ∧ g.category = .payment) :=
    List.filter_append ..
  have hopen : countOpen ((h.stored now).buyerGrievances b) = countOpen (db.buyerGrievances b)
      + (if body.category = .payment ∧ body.offerId.bind db.offerBuyer = some b then 1 else 0) := by
    rw [hrows]
    unfold countOpen
    rw [List.filter_append, List.length_append]
    congr 1
    by_cases hc : body.category = .payment <;> by_cases hb : body.offerId.bind db.offerBuyer = some b <;>
      simp [GrievanceCreate.row, hc, hb]
  show scorePaymentReliability _ _ _ (countOpen ((h.stored now).buyerGrievances b) + 0) = _
  rw [hopen]
  rfl

theorem score_storePayment {body : PaymentCreate} {userId id : Uuid} {offer : Offer} (h : Bills db body userId id offer)
    (now : Time) (filed : Nat) : (h.stored now).score b filed = db.score b filed := by
  have hrows : (h.stored now).buyerPayments b = db.buyerPayments b ++
      [body.row userId id now].filter (fun p => db.offerBuyer p.offerId = some b) := List.filter_append ..
  have hcount : ∀ s, s ≠ .pending → countStatus ((h.stored now).buyerPayments b) s = countStatus (db.buyerPayments b) s := by
    intro s hs
    rw [hrows]
    unfold countStatus
    rw [List.filter_append, List.length_append, List.filter_filter]
    simp [PaymentCreate.row, hs.symm]
  show scorePaymentReliability (countStatus ((h.stored now).buyerPayments b) .paid) _ _ _ = _
  rw [hcount .paid (by simp), hcount .failed (by simp), hcount .disputed (by simp)]
  rfl

end Requests

end Krishi
