import KrishiBazaar.Regrading
import KrishiBazaar.Requests
/-!
# SeededGrade — what a dismissed complaint leaves

A buyer without settled payments scores low while a payment complaint is open, and has no score otherwise; without a
score its grade is left as it is.  So a request that rescores it while a complaint is open (`Caught`) grades it low for
good, whatever becomes of the complaint.
-/
namespace Krishi

open Lib

/-- The requests that file and decide complaints, and rescore the buyers. -/
def GradeRequest.isComplaint : GradeRequest → Bool
  | .createGrievance _ | .updateGrievance _ _ | .rescoreBuyers => true
  | .createPayment _ | .markPaid _ | .markFailed _ | .markDisputed _ => false

/-- No payment on the buyer's offers was paid, failed or disputed. -/
def Unsettled (db : DB) (buyerId : Uuid) : Prop := ∀ p ∈ db.buyerPayments buyerId, p.status = .pending

def GrievanceStatus.isOpen (s : GrievanceStatus) : Prop := s = .open ∨ s = .inProgress

instance (s : GrievanceStatus) : Decidable s.isOpen := inferInstanceAs (Decidable (_ ∨ _))

instance (db : DB) (buyerId : Uuid) : Decidable (Unsettled db buyerId) := inferInstanceAs (Decidable (∀ _ ∈ _, _))

/-- **The request rescores the buyer while one of its payment complaints is open**, the one it decides included. -/
def Caught (db : DB) (buyerId : Uuid) (e : GradeEvent) : Prop :=
  match e.req with
  | .updateGrievance grievanceId body => ∃ g ∈ db.grievances.get? grievanceId, g.accused db = some buyerId ∧
      (body.status.isOpen ∨ ∃ g' ∈ db.buyerGrievances buyerId, g'.id ≠ grievanceId ∧ g'.status.isOpen)
  | .rescoreBuyers => buyerId ∈ rescoredPage e.order db ∧ ∃ g ∈ db.buyerGrievances buyerId, g.status.isOpen
  | .createGrievance _ | .createPayment _ | .markPaid _ | .markFailed _ | .markDisputed _ => False

section

variable {db : DB} {b : Uuid}

/-- **Without settled payments the score is low, or none.** -/
theorem score_of_unsettled (hu : Unsettled db b) :
    ((∃ g ∈ db.buyerGrievances b, g.status.isOpen) → db.score b 0 = some .low) ∧
      ((¬ ∃ g ∈ db.buyerGrievances b, g.status.isOpen) → db.score b 0 = none) := by
  have hcount : ∀ s, s ≠ .pending → countStatus (db.buyerPayments b) s = 0 := by
    intro s hs
    refine List.length_eq_zero_iff.2 (List.filter_eq_nil_iff.2 (fun p hp hps => ?_))
    exact hs ((of_decide_eq_true hps).symm.trans (hu p hp))
  unfold DB.score
  rw [hcount .paid (by simp), hcount .failed (by simp), hcount .disputed (by simp), Nat.add_zero]
  constructor
  · rintro ⟨g, hg, hopen⟩
    have hpos : 0 < countOpen (db.buyerGrievances b) :=
      List.length_pos_of_mem (List.mem_filter.2 ⟨hg, decide_eq_true hopen⟩)
    unfold scorePaymentReliability
    rw [if_neg (by omega)]
    simp only
    rw [if_neg (by omega), if_neg (by omega)]
  · intro hn
    have hzero : countOpen (db.buyerGrievances b) = 0 :=
      List.length_eq_zero_iff.2 (List.filter_eq_nil_iff.2 (fun g hg hopen => hn ⟨g, hg, of_decide_eq_true hopen⟩))
    rw [hzero]
    rfl

/-- The complaints open after one was decided. -/
theorem open_setGrievance {grievanceId : Uuid} {g : Grievance} (hg : db.grievances.get? grievanceId = some g)
    (ha : g.accused db = some b) (s : GrievanceStatus) (now : Time) :
    (∃ g' ∈ (db.setGrievance grievanceId s now).buyerGrievances b, g'.status.isOpen) ↔
      s.isOpen ∨ ∃ g' ∈ db.buyerGrievances b, g'.id ≠ grievanceId ∧ g'.status.isOpen := by
  have hcat : g.category = .payment ∧ g.offerId.bind db.offerBuyer = some b := by
    unfold Grievance.accused at ha
    split at ha
    · rename_i hc
      exact ⟨hc, ha⟩
    · cases ha
  have hid : g.id = grievanceId := Table.key_of_get? hg
  constructor
  · rintro ⟨g', hg', hopen⟩
    obtain ⟨hmem, hbuyer⟩ := List.mem_filter.1 hg'
    obtain ⟨r, hr, rfl⟩ := Table.mem_update.1 hmem
    by_cases hk : r.id = grievanceId
    · simp only [hk, decide_true, if_true] at hopen
      exact Or.inl hopen
    · simp only [hk, decide_false] at hopen hbuyer
      exact Or.inr ⟨r, List.mem_filter.2 ⟨hr, hbuyer⟩, hk, hopen⟩
  · rintro (hs | ⟨g', hg', hne, hopen⟩)
    · refine ⟨(Grievance.setStatus s now).apply g, List.mem_filter.2 ⟨Table.mem_update.2 ⟨g, Table.mem_of_get? hg, ?_⟩, ?_⟩,
        hs⟩
      · simp [hid]
      · exact decide_eq_true ⟨hcat.2, hcat.1⟩
    · obtain ⟨hmem, hbuyer⟩ := List.mem_filter.1 hg'
      refine ⟨g', List.mem_filter.2 ⟨Table.mem_update.2 ⟨g', hmem, ?_⟩, hbuyer⟩, hopen⟩
      rw [decide_eq_false hne]
      rfl

/-! ## One request -/

/-- What becomes of the grade of a buyer without settled payments. -/
structure Lowers (db db' : DB) (buyerId : Uuid) (caught : Prop) : Prop where
  unsettled : Unsettled db' buyerId
  low : caught → db'.gradeOf buyerId = (db.gradeOf buyerId).map (fun _ => some .low)
  kept : ¬ caught → db'.gradeOf buyerId = db.gradeOf buyerId

theorem SameEvidence.unsettled {db' : DB} (h : SameEvidence db db' b) (hu : Unsettled db b) : Unsettled db' b := by
  intro p hp
  rw [h.payments] at hp
  exact hu p hp

theorem lowers_self (hu : Unsettled db b) {caught : Prop} (hc : ¬ caught) : Lowers db db b caught :=
  ⟨hu, fun h => absurd h hc, fun _ => rfl⟩

/-- A rescoring catches the buyer if it is of this buyer, and a complaint is open. -/
theorem lowers_rescored (hu : Unsettled db b) {db' : DB} (hsame : SameEvidence db db' b) {own : Prop} [Decidable own]
    (hgrade : db'.gradeOf b = (db.gradeOf b).map (fun g => if own then (db.score b 0).or g else g)) :
    Lowers db db' b (own ∧ ∃ g ∈ db.buyerGrievances b, g.status.isOpen) := by
  obtain ⟨hlow, hnone⟩ := score_of_unsettled hu
  refine ⟨hsame.unsettled hu, fun hc => ?_, fun hc => ?_⟩
  · simp only [hgrade, hlow hc.2, hc.1, if_true, Option.some_or]
  · rw [hgrade]
    by_cases ho : own
    · simp only [hnone (fun h => hc ⟨ho, h⟩), ho, if_true, Option.none_or]
      exact Option.map_id'
    · simp only [ho, if_false]
      exact Option.map_id'

theorem lowers_decided (hu : Unsettled db b) (grievanceId : Uuid) (s : GrievanceStatus) (now : Time) :
    Lowers db (decided db grievanceId s now) b (∃ g ∈ db.grievances.get? grievanceId, g.accused db = some b ∧
      (s.isOpen ∨ ∃ g' ∈ db.buyerGrievances b, g'.id ≠ grievanceId ∧ g'.status.isOpen)) := by
  have hu' : Unsettled (db.setGrievance grievanceId s now) b := hu
  unfold decided
  cases hg : db.grievances.get? grievanceId with
  | none =>
    rw [Option.bind_none, Option.elim_none, DB.setGrievance_missing hg]
    refine lowers_self hu ?_
    rintro ⟨g, h, -⟩
    exact Option.not_mem_none g h
  | some g =>
    rw [Option.bind_some]
    by_cases ha : g.accused db = some b
    · have hstep := lowers_rescored hu' (sameEvidence_regraded _ b b) (DB.gradeOf_regraded _ b b)
      rw [ha, Option.elim_some]
      refine ⟨hstep.unsettled, fun hc => hstep.low ⟨rfl, ?_⟩, fun hc => hstep.kept (fun h => hc ⟨g, rfl, ha, ?_⟩)⟩
      · obtain ⟨g', -, -, hopen⟩ := hc
        exact (open_setGrievance hg ha s now).2 hopen
      · exact (open_setGrievance hg ha s now).1 h.2
    · refine ⟨(sameEvidence_elim_regraded _ _ b).unsettled hu', ?_, fun _ => gradeOf_elim_other _ ha⟩
      rintro ⟨g', hg', ha', -⟩
      obtain rfl := Option.some.inj hg'
      exact absurd ha' ha

/-- **What one request does to the grade of a buyer without settled payments.** -/
theorem gradeOf_step (hu : Unsettled db b) {e : GradeEvent} (he : e.req.isComplaint = true) :
    Lowers db (gradeStep db e) b (Caught db b e) := by
  obtain ⟨user, uuid, now, order, req⟩ := e
  unfold gradeStep Caught
  cases req with
  | createGrievance body =>
    dsimp only
    by_cases h : Files db body user uuid
    · rw [handle_createGrievance order now h]
      exact ⟨hu, False.elim, fun _ => rfl⟩
    · rw [handle_createGrievance_refused order now h]
      exact lowers_self hu id
  | updateGrievance grievanceId body =>
    simp only [handle_adminUpdateGrievance]
    exact lowers_decided hu grievanceId body.status now
  | rescoreBuyers =>
    simp only [handle_adminRescoreBuyers]
    obtain ⟨hsame, hgrade⟩ := gradeOf_foldl_regraded b (rescoredPage order db) db
    exact lowers_rescored hu (hsame b) hgrade
  | createPayment body => cases he
  | markPaid paymentId => cases he
  | markFailed paymentId => cases he
  | markDisputed paymentId => cases he

/-! ## A run -/

/-- **A grade is as it was, or low for good** once a request caught the buyer. -/
theorem gradeOf_after : ∀ (es : List GradeEvent) (db : DB), Unsettled db b → (∀ e ∈ es, e.req.isComplaint = true) →
    (Along gradeStep (fun db e => ¬ Caught db b e) db es → (after gradeStep db es).gradeOf b = db.gradeOf b) ∧
      (¬ Along gradeStep (fun db e => ¬ Caught db b e) db es →
        (after gradeStep db es).gradeOf b = (db.gradeOf b).map (fun _ => some .low))
  | [], _, _, _ => ⟨fun _ => rfl, fun h => absurd trivial h⟩
  | e :: es, db, hu, hes => by
    obtain ⟨hu', hcaught, hspared⟩ := gradeOf_step hu (hes e List.mem_cons_self)
    obtain ⟨hkept, hlow⟩ := gradeOf_after es (gradeStep db e) hu' (fun e' he' => hes e' (List.mem_cons_of_mem _ he'))
    rw [after_cons]
    by_cases hc : Caught db b e
    · refine ⟨fun h => absurd hc h.1, fun _ => ?_⟩
      by_cases htail : Along gradeStep (fun db e => ¬ Caught db b e) (gradeStep db e) es
      · rw [hkept htail, hcaught hc]
      · rw [hlow htail, hcaught hc, Option.map_map]
        rfl
    · refine ⟨fun h => (hkept h.2).trans (hspared hc), fun h => ?_⟩
      rw [hlow (fun htail => h ⟨hc, htail⟩), hspared hc]

/-- **The seeded grade survives complaints** exactly when it is low, or no request rescored the buyer while one was open. -/
theorem seededGrade_kept_iff {db : DB} {buyer : Buyer} (hb : db.buyers.get? buyer.id = some buyer)
    (hu : Unsettled db buyer.id) (es : List GradeEvent) (hes : ∀ e ∈ es, e.req.isComplaint = true) :
    (after gradeStep db es).gradeOf buyer.id = some buyer.paymentReliability ↔
      buyer.paymentReliability = some .low ∨ Along gradeStep (fun db e => ¬ Caught db buyer.id e) db es := by
  obtain ⟨hkept, hlow⟩ := gradeOf_after es db hu hes
  have hseed : db.gradeOf buyer.id = some buyer.paymentReliability := by rw [DB.gradeOf, hb]; rfl
  by_cases h : Along gradeStep (fun db e => ¬ Caught db buyer.id e) db es
  · exact ⟨fun _ => Or.inr h, fun _ => (hkept h).trans hseed⟩
  · rw [hlow h, hseed]
    simp only [h, or_false, Option.map_some, Option.some.injEq]
    exact eq_comm

end

/-- The first day with an offer to the buyer, whose grade was seeded as high. -/
def seeded : DB := (after step firstDay firstOffer).setReliability 1 .high

/-- A complaint about a payment under offer 21 is filed as complaint 41, and decided in these steps. -/
def complaint (steps : List GrievanceStatus) : List GradeEvent :=
  ⟨1, 41, 0, .asStored, .createGrievance (latePayment none)⟩ ::
    steps.map (fun s => ⟨2, 0, 1, .asStored, .updateGrievance 41 ⟨s⟩⟩)

/-- A complaint rejected after it was taken up: the buyer stays low. -/
theorem rejected_complaint_stays : seeded.gradeOf 1 = some (some .high) ∧
    ((after gradeStep seeded (complaint [.inProgress, .rejected])).grievances.rows.map (·.status)) = [.rejected] ∧
    (after gradeStep seeded (complaint [.inProgress, .rejected])).gradeOf 1 = some (some .low) := by
  refine ⟨by decide +kernel, by decide +kernel, by decide +kernel⟩

def seededBuyer : Buyer :=
  ⟨1, "Local buyer", .trader, true, none, none, none, none, none, none, none, some .high⟩

/-- A complaint resolved at once is never seen by a rescoring. -/
theorem resolved_complaint_gone : (after gradeStep seeded (complaint [.resolved])).gradeOf 1 = some (some .high) := by
  have hb : seeded.buyers.get? seededBuyer.id = some seededBuyer := by decide +kernel
  refine (seededGrade_kept_iff hb (by decide +kernel) _ (by decide)).2 (Or.inr ⟨False.elim, ?_, trivial⟩)
  rintro ⟨g, -, -, hopen | ⟨g', hg', hne, -⟩⟩
  · exact absurd hopen (by decide)
  · exact absurd (of_decide_eq_true (p := ∀ g' ∈ _, g'.id = 41) (by decide +kernel) g' hg') hne

end Krishi
