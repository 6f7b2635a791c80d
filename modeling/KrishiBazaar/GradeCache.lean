import KrishiBazaar.Regrading
import KrishiBazaar.Requests
import Mathlib.Data.Set.Defs
/-!
# GradeCache — the grade of a buyer reflects the evidence

A payment marked paid, failed or disputed and a payment complaint decided rescore the buyer of the offer; storing a
payment or a complaint and deciding another complaint rescore nobody (`Refreshed`).  So over a run the grades of the
buyers touched reflect the evidence exactly when each such request finds a grade that is right already
(`reflects_iff`), and a payment complaint alone makes a grade wrong (`filed_not_rescored`).
-/
namespace Krishi

open Lib

/-! ## The property -/

/-- A payment or a complaint on one of the buyer's offers was stored or changed. -/
def Touches (db db' : DB) (buyerId : Uuid) : Prop := ¬ SameEvidence db db' buyerId

/-- A run so far: the database, and the buyers it touched. -/
structure GradeRun where
  db : DB
  touched : Set Uuid

def gradeRunStep (s : GradeRun) (e : GradeEvent) : GradeRun :=
  ⟨gradeStep s.db e, {b | b ∈ s.touched ∨ Touches s.db (gradeStep s.db e) b}⟩

def GradeRun.start (db : DB) : GradeRun := ⟨db, ∅⟩

def HasEvidence (db : DB) (buyerId : Uuid) : Prop :=
  (∃ p ∈ db.buyerPayments buyerId, p.status = .paid ∨ p.status = .failed ∨ p.status = .disputed) ∨
    ∃ g ∈ db.buyerGrievances buyerId, g.status = .open ∨ g.status = .inProgress

/-- **The grades reflect the evidence**: a touched buyer with evidence has the score of the counts in the tables. -/
def Reflects (s : GradeRun) : Prop :=
  ∀ buyer ∈ s.db.buyers.rows, buyer.id ∈ s.touched → HasEvidence s.db buyer.id →
    buyer.paymentReliability = s.db.score buyer.id 0

/-- The buyer's grade is the score of the evidence and of `filed` more open complaints, if that is any evidence. -/
def Agrees (db : DB) (buyerId : Uuid) (filed : Nat) : Prop :=
  ∀ g ∈ db.gradeOf buyerId, ∀ s ∈ db.score buyerId filed, g = some s

/-- **The request leaves the grades right**: it rescores whom it touches, or the grade is right for what it adds. -/
def Refreshed (db : DB) (e : GradeEvent) : Prop :=
  match e.req with
  | .createPayment body => ∀ offer, Bills db body e.user e.uuid offer → Agrees db offer.buyerId 0
  | .createGrievance body => Files db body e.user e.uuid → ∀ b ∈ body.offerId.bind db.offerBuyer,
      Agrees db b (if body.category = .payment then 1 else 0)
  | .updateGrievance grievanceId body => ∀ g ∈ db.grievances.get? grievanceId, g.category ≠ .payment →
      (Grievance.setStatus body.status e.now).apply g ≠ g → ∀ b ∈ g.offerId.bind db.offerBuyer, Agrees db b 0
  | .markPaid _ | .markFailed _ | .markDisputed _ | .rescoreBuyers => True

/-! ## Evidence and the score -/

theorem scorePaymentReliability_eq_none {paid failed disputed grief : Nat} :
    scorePaymentReliability paid failed disputed grief = none ↔ paid = 0 ∧ failed = 0 ∧ disputed = 0 ∧ grief = 0 := by
  unfold scorePaymentReliability
  split
  · simp only [true_iff]
    omega
  · rename_i h
    have hsome : ∀ score : Int,
        (if 70 ≤ score then some Reliability.high else if 40 ≤ score then some .medium else some .low) ≠ none := by
      intro score
      split
      · simp
      · split <;> simp
    simp only [hsome, false_iff]
    omega

theorem countStatus_eq_zero {l : List Payment} {s : PaymentStatus} : countStatus l s = 0 ↔ ∀ p ∈ l, p.status ≠ s := by
  simp [countStatus, List.length_eq_zero_iff, List.filter_eq_nil_iff]

theorem countOpen_eq_zero {l : List Grievance} :
    countOpen l = 0 ↔ ∀ g ∈ l, ¬ (g.status = .open ∨ g.status = .inProgress) := by
  simp [countOpen, List.length_eq_zero_iff, List.filter_eq_nil_iff]

theorem score_eq_none {db : DB} {b : Uuid} : db.score b 0 = none ↔ ¬ HasEvidence db b := by
  unfold DB.score HasEvidence
  rw [scorePaymentReliability_eq_none, Nat.add_zero, countStatus_eq_zero, countStatus_eq_zero, countStatus_eq_zero,
    countOpen_eq_zero]
  constructor
  · rintro ⟨hpaid, hfailed, hdisputed, hopen⟩ (⟨p, hp, h | h | h⟩ | ⟨g, hg, h⟩)
    · exact hpaid p hp h
    · exact hfailed p hp h
    · exact hdisputed p hp h
    · exact hopen g hg h
  · intro h
    refine ⟨fun p hp hs => h (.inl ⟨p, hp, .inl hs⟩), fun p hp hs => h (.inl ⟨p, hp, .inr (.inl hs)⟩),
      fun p hp hs => h (.inl ⟨p, hp, .inr (.inr hs)⟩), fun g hg hs => h (.inr ⟨g, hg, hs⟩)⟩

theorem reflects_iff_agrees {s : GradeRun} : Reflects s ↔ ∀ b ∈ s.touched, Agrees s.db b 0 := by
  constructor
  · intro h b hb g hg score hscore
    obtain ⟨buyer, hbuyer, rfl⟩ := Option.map_eq_some_iff.1 hg
    obtain ⟨hmem, rfl⟩ := Table.get?_eq_some.1 hbuyer
    have hev : HasEvidence s.db buyer.id := by
      refine Classical.byContradiction (fun hn => ?_)
      rw [score_eq_none.2 hn] at hscore
      cases hscore
    exact (h buyer hmem hb hev).trans hscore
  · intro h buyer hmem hb hev
    obtain ⟨score, hscore⟩ := Option.ne_none_iff_exists'.1 (fun hn => score_eq_none.1 hn hev)
    rw [hscore]
    exact h buyer.id hb _ (by rw [DB.gradeOf, Table.get?_of_mem hmem]; rfl) score hscore

/-! ## What a request leaves right -/

section

variable {db db' : DB} {b : Uuid} {filed filed' : Nat}

theorem Agrees.congr (hgrade : db'.gradeOf b = db.gradeOf b) (hscore : db'.score b filed' = db.score b filed) :
    Agrees db' b filed' ↔ Agrees db b filed := by
  unfold Agrees
  rw [hgrade, hscore]

theorem touches_self : ¬ Touches db db b := not_not.2 ⟨rfl, rfl⟩

theorem agrees_regraded (db : DB) (b : Uuid) : Agrees (db.regraded b) b 0 := by
  intro g hg s hs
  rw [(sameEvidence_regraded db b b).score] at hs
  rw [DB.gradeOf_regraded, Option.mem_def, Option.map_eq_some_iff] at hg
  obtain ⟨g, -, rfl⟩ := hg
  rw [if_pos rfl, Option.mem_def.1 hs]
  rfl

theorem gradeOf_elim_regraded (db : DB) (x : Option Uuid) (b : Uuid) :
    (x.elim db db.regraded).gradeOf b = db.gradeOf b ∨ Agrees (x.elim db db.regraded) b 0 := by
  by_cases hx : x = some b
  · rw [hx]
    exact Or.inr (agrees_regraded db b)
  · exact Or.inl (gradeOf_elim_other db hx)

/-- A request that changes evidence on one buyer, and rescores it, leaves the buyers it touches right. -/
theorem agrees_of_touches {x : Option Uuid} (h : ∀ b, x ≠ some b → SameEvidence db db' b) (b : Uuid)
    (ht : Touches db (x.elim db' db'.regraded) b) : Agrees (x.elim db' db'.regraded) b 0 := by
  by_cases hx : x = some b
  · rw [hx]
    exact agrees_regraded db' b
  · exact absurd ((h b hx).trans (sameEvidence_elim_regraded db' x b)) ht

theorem touches_storePayment {body : PaymentCreate} {userId id : Uuid} {offer : Offer} (h : Bills db body userId id offer)
    (now : Time) : Touches db (h.stored now) b ↔ offer.buyerId = b := by
  have hbuyer : db.offerBuyer body.offerId = some offer.buyerId := by rw [DB.offerBuyer, h.hx]; rfl
  have hsame : SameEvidence db (h.stored now) b ↔ (h.stored now).buyerPayments b = db.buyerPayments b :=
    ⟨fun hs => hs.payments, fun hs => ⟨hs, rfl⟩⟩
  unfold Touches
  rw [hsame]
  refine (not_congr (Table.filter_insert (body.row userId id now) h.fresh (decide_eq_true body.amount_gt))).trans ?_
  show ¬ decide (db.offerBuyer body.offerId = some b) = false ↔ _
  simp [hbuyer]

theorem touches_fileGrievance {body : GrievanceCreate} {userId id : Uuid} (h : Files db body userId id) (now : Time) :
    Touches db (h.stored now) b ↔ body.offerId.bind db.offerBuyer = some b := by
  have hsame : SameEvidence db (h.stored now) b ↔ (h.stored now).offerGrievances b = db.offerGrievances b :=
    ⟨fun hs => hs.grievances, fun hs => ⟨rfl, hs⟩⟩
  unfold Touches
  rw [hsame]
  refine (not_congr (Table.filter_insert (body.row userId id now) h.fresh (noCheck_true _))).trans ?_
  show ¬ decide (body.offerId.bind db.offerBuyer = some b) = false ↔ _
  simp

/-- A decision touches the buyer of the complaint's offer, if it changes the row. -/
theorem touches_setGrievance {grievanceId : Uuid} {g : Grievance} (hg : db.grievances.get? grievanceId = some g)
    (s : GrievanceStatus) (now : Time) : Touches db (db.setGrievance grievanceId s now) b ↔
      g.offerId.bind db.offerBuyer = some b ∧ (Grievance.setStatus s now).apply g ≠ g := by
  constructor
  · intro ht
    refine ⟨Classical.byContradiction (fun hb => ht (sameEvidence_setGrievance hg hb s now)), fun hself => ht ?_⟩
    have hrows : db.grievances.update (fun g => g.id = grievanceId) (Grievance.setStatus s now) = db.grievances := by
      refine Table.ext_rows ((List.map_congr_left (fun q hq => ?_)).trans (List.map_id' _))
      by_cases hk : q.id = grievanceId
      · obtain rfl : q = g := Table.eq_of_get? hg hq hk
        simp only [hk, decide_true, if_true, hself]
      · simp [hk]
    refine ⟨rfl, ?_⟩
    show (db.grievances.update _ _).rows.filter _ = _
    rw [hrows]
    rfl
  · rintro ⟨hb, hne⟩ hsame
    have hmem : (Grievance.setStatus s now).apply g ∈ (db.setGrievance grievanceId s now).offerGrievances b := by
      refine List.mem_filter.2 ⟨Table.mem_update.2 ⟨g, Table.mem_of_get? hg, ?_⟩, decide_eq_true hb⟩
      simp [Table.key_of_get? hg]
    rw [hsame.grievances] at hmem
    have hrow : (Grievance.setStatus s now).apply g ∈ db.grievances.rows := (List.mem_filter.1 hmem).1
    exact hne (db.grievances.eq_of_key hrow (Table.mem_of_get? hg) rfl)

end

/-! ## One request, and a run -/

/-- A request leaves every grade as it was, or right, and leaves those it touches right exactly when `C`. -/
structure Regrades (db db' : DB) (C : Prop) : Prop where
  grade : ∀ b, db'.gradeOf b = db.gradeOf b ∨ Agrees db' b 0
  touched : (∀ b, Touches db db' b → Agrees db' b 0) ↔ C

section

variable {db : DB} {user id : Uuid} {now : Time}

theorem regrades_self {C : Prop} (h : C) : Regrades db db C :=
  ⟨fun _ => Or.inl rfl, ⟨fun _ => h, fun _ _ hb => absurd hb touches_self⟩⟩

theorem regrades_offerRegraded {db₁ : DB} {offerId : Uuid} (hoffers : db₁.offers = db.offers)
    (hbuyers : db₁.buyers = db.buyers) (hsame : ∀ b, db.offerBuyer offerId ≠ some b → SameEvidence db db₁ b) :
    Regrades db (db₁.offerRegraded offerId) True := by
  have hbuyer : db₁.offerBuyer offerId = db.offerBuyer offerId := by rw [DB.offerBuyer, hoffers, DB.offerBuyer]
  unfold DB.offerRegraded
  rw [hbuyer]
  refine ⟨fun b => ?_, iff_true_intro (agrees_of_touches hsame)⟩
  have hgrade : db.gradeOf b = db₁.gradeOf b := by rw [DB.gradeOf, ← hbuyers, DB.gradeOf]
  rw [hgrade]
  exact gradeOf_elim_regraded db₁ _ b

theorem regrades_createPayment (o : RowOrder) (body : PaymentCreate) :
    Regrades db (handle o (createPayment body user id now) db).2
      (∀ offer, Bills db body user id offer → Agrees db offer.buyerId 0) := by
  by_cases h : ∃ offer, Bills db body user id offer
  · obtain ⟨offer, h⟩ := h
    have hagrees : ∀ b, Agrees (h.stored now) b 0 ↔ Agrees db b 0 := fun b =>
      Agrees.congr rfl (score_storePayment h now 0)
    rw [handle_createPayment o h]
    refine ⟨fun b => Or.inl rfl, fun hall offer' h' => ?_, fun hr b hb => ?_⟩
    · obtain rfl : offer' = offer := Option.some.inj (h'.hx.symm.trans h.hx)
      exact (hagrees _).1 (hall _ ((touches_storePayment h now).2 rfl))
    · obtain rfl := (touches_storePayment h now).1 hb
      exact (hagrees _).2 (hr offer h)
  · rw [handle_createPayment_refused o h]
    exact regrades_self (fun offer h' => absurd ⟨offer, h'⟩ h)

theorem regrades_createGrievance (o : RowOrder) (body : GrievanceCreate) :
    Regrades db (handle o (createGrievance body user id now) db).2
      (Files db body user id → ∀ b ∈ body.offerId.bind db.offerBuyer,
        Agrees db b (if body.category = .payment then 1 else 0)) := by
  by_cases h : Files db body user id
  · have hagrees : ∀ b, body.offerId.bind db.offerBuyer = some b →
        (Agrees (h.stored now) b 0 ↔ Agrees db b (if body.category = .payment then 1 else 0)) := by
      intro b hb
      refine Agrees.congr rfl ((score_fileGrievance h now).trans ?_)
      simp [hb]
    rw [handle_createGrievance o now h]
    refine ⟨fun b => Or.inl rfl, fun hall _ b hb => ?_, fun hr b hb => ?_⟩
    · exact (hagrees b hb).1 (hall b ((touches_fileGrievance h now).2 hb))
    · have hb := (touches_fileGrievance h now).1 hb
      exact (hagrees b hb).2 (hr h b hb)
  · rw [handle_createGrievance_refused o now h]
    exact regrades_self (fun h' => absurd h' h)

theorem regrades_decided (grievanceId : Uuid) (s : GrievanceStatus) :
    Regrades db (decided db grievanceId s now) (∀ g ∈ db.grievances.get? grievanceId, g.category ≠ .payment →
      (Grievance.setStatus s now).apply g ≠ g → ∀ b ∈ g.offerId.bind db.offerBuyer, Agrees db b 0) := by
  unfold decided
  cases hg : db.grievances.get? grievanceId with
  | none =>
    rw [Option.bind_none, Option.elim_none, DB.setGrievance_missing hg]
    exact regrades_self (fun g h => by cases h)
  | some g =>
    rw [Option.bind_some]
    by_cases hcat : g.category = .payment
    · -- the buyer is rescored
      have hx : g.accused db = g.offerId.bind db.offerBuyer := if_pos hcat
      rw [hx]
      refine ⟨gradeOf_elim_regraded _ _, fun _ g' hg' hne => ?_, fun _ => agrees_of_touches (fun b hb => ?_)⟩
      · obtain rfl := Option.some.inj hg'
        exact absurd hcat hne
      · exact sameEvidence_setGrievance hg hb s now
    · have hx : g.accused db = none := if_neg hcat
      have hagrees : ∀ b, Agrees (db.setGrievance grievanceId s now) b 0 ↔ Agrees db b 0 := fun b =>
        Agrees.congr rfl (score_setGrievance hg (by rw [hx]; simp) s now 0)
      rw [hx, Option.elim_none]
      refine ⟨fun b => Or.inl rfl, fun hall g' hg' _ hne b hb => ?_, fun hr b hb => ?_⟩
      · obtain rfl := Option.some.inj hg'
        exact (hagrees b).1 (hall b ((touches_setGrievance hg s now).2 ⟨hb, hne⟩))
      · obtain ⟨hb, hne⟩ := (touches_setGrievance hg s now).1 hb
        exact (hagrees b).2 (hr g rfl hcat hne b hb)

theorem regrades_rescoreBuyers (ids : List Uuid) : Regrades db (ids.foldl DB.regraded db) True := by
  refine ⟨fun b => ?_, iff_true_intro (fun b hb => absurd ((gradeOf_foldl_regraded b ids db).1 b) hb)⟩
  obtain ⟨hsame, hgrade⟩ := gradeOf_foldl_regraded b ids db
  by_cases hb : b ∈ ids
  · refine Or.inr (fun g hg s hs => ?_)
    rw [(hsame b).score] at hs
    rw [hgrade, Option.mem_def, Option.map_eq_some_iff] at hg
    obtain ⟨g, -, rfl⟩ := hg
    rw [if_pos hb, Option.mem_def.1 hs]
    rfl
  · refine Or.inl (hgrade.trans ?_)
    simp [hb]

end

/-- **What one request leaves right.** -/
theorem regrades_step (db : DB) (e : GradeEvent) : Regrades db (gradeStep db e) (Refreshed db e) := by
  obtain ⟨user, uuid, now, order, req⟩ := e
  unfold gradeStep Refreshed
  cases req with
  | createPayment body => exact regrades_createPayment order body
  | markPaid paymentId =>
    rcases markPaid_cases order paymentId user now db with h | ⟨p, hp, -, -, h⟩
    · simp only [h]
      exact regrades_self trivial
    · simp only [h]
      have hbuyers : ((db.setPayment paymentId (Payment.setPaid now)).closeLot p.offerId).buyers = db.buyers := by
        unfold DB.closeLot
        split <;> rfl
      exact regrades_offerRegraded (DB.closeLot_offers _ _) hbuyers (fun b hb =>
        (sameEvidence_setPayment hp hb (fun _ => rfl)).trans (sameEvidence_closeLot _))
  | markFailed paymentId =>
    rcases markFailed_cases order paymentId user db with h | ⟨p, hp, -, -, h⟩
    · simp only [h]
      exact regrades_self trivial
    · simp only [h]
      exact regrades_offerRegraded rfl rfl (fun b hb => sameEvidence_setPayment hp hb (fun _ => rfl))
  | markDisputed paymentId =>
    rcases markDisputed_cases order paymentId user db with h | ⟨p, hp, -, h⟩
    · simp only [h]
      exact regrades_self trivial
    · simp only [h]
      exact regrades_offerRegraded rfl rfl (fun b hb => sameEvidence_setPayment hp hb (fun _ => rfl))
  | createGrievance body => exact regrades_createGrievance order body
  | updateGrievance grievanceId body =>
    simp only [handle_adminUpdateGrievance]
    exact regrades_decided grievanceId body.status
  | rescoreBuyers =>
    simp only [handle_adminRescoreBuyers]
    exact regrades_rescoreBuyers _

theorem reflects_step (s : GradeRun) (e : GradeEvent) (h : Reflects s) :
    Reflects (gradeRunStep s e) ↔ Refreshed s.db e := by
  have hstep := regrades_step s.db e
  rw [reflects_iff_agrees] at h ⊢
  rw [← hstep.touched]
  constructor
  · exact fun hall b hb => hall b (Or.inr hb)
  · rintro htouched b (hb | hb)
    · by_cases ht : Touches s.db (gradeStep s.db e) b
      · exact htouched b ht
      · rcases hstep.grade b with hgrade | hagrees
        · exact (Agrees.congr hgrade ((not_not.1 ht).score 0)).2 (h b hb)
        · exact hagrees
    · exact htouched b hb

/-- **The grades of the touched buyers reflect the evidence, in every state of a run**, exactly when every request of it
leaves the grades right. -/
theorem reflects_iff (db : DB) (es : List GradeEvent) :
    (∀ pre post, es = pre ++ post → Reflects (after gradeRunStep (GradeRun.start db) pre)) ↔
      Along gradeRunStep (fun s e => Refreshed s.db e) (GradeRun.start db) es :=
  along_inv_iff (J := fun _ => True) (fun _ _ _ => trivial) (fun s e _ h => reflects_step s e h) es _ trivial
    (fun _ _ hb => absurd hb (Set.notMem_empty _))

/-- Farmer 1 complains about a payment under offer 21. -/
def complaintFiled : List GradeEvent := [⟨1, 41, 0, .asStored, .createGrievance (latePayment none)⟩]

/-- **A payment complaint is filed, and nobody rescored**: the buyer of offer 21 has an open complaint and no grade. -/
theorem filed_not_rescored :
    ¬ Reflects (after gradeRunStep (GradeRun.start (after step firstDay firstOffer)) complaintFiled) := by
  intro h
  have htouched : Touches (after step firstDay firstOffer)
      (after gradeStep (after step firstDay firstOffer) complaintFiled) 1 := by
    intro hsame
    exact absurd hsame.grievances (by decide +kernel)
  have hagrees := reflects_iff_agrees.1 h 1 (Or.inr htouched)
  exact absurd (hagrees none (by decide +kernel) .low (by decide +kernel)) (by simp)

end Krishi
