import KrishiBazaar.Lots
import Mathlib.Algebra.Order.Floor.Semiring
/-!
# Logistics — booking transport and storage

`app/routers/logistics.py`.  The capacity of an option is held only here: `assertCapacity` is asked when a booking is
made and when one is put back in an active status, then without the booking's own quantity.  The row that a new booking
is inserted with names two columns that migration 009 does not create, so on the tables as the migrations leave them it is
refused.
-/
namespace Krishi

open Lib

/-! ## Capacity -/

def BookingStatus.isActive (s : BookingStatus) : Bool := s = .requested ∨ s = .confirmed

/-- The tolerance `1e-9`. -/
def capacitySlack : ℚ := 1 / 1000000000

def sumQuantity (rows : List LogisticsBooking) : ℚ := (rows.map (·.quantityQtl)).sum

def bookedQuantity (logisticsId : Uuid) (excludeId : Option Uuid) : Handler ℚ := do
  let rows ← select logisticsBookings fun b => b.logisticsId = logisticsId
  pure (sumQuantity (rows.filter (fun b => excludeId ≠ some b.id ∧ b.status.isActive)))

/-- `f"{x:.0f}"`: to the nearest integer, ties to the even one, the sign kept. -/
def fixed0 (x : ℚ) : String :=
  let n := (|x|).floor
  let r := if |x| - n < 1 / 2 ∨ (|x| - n = 1 / 2 ∧ n % 2 = 0) then n else n + 1
  if x < 0 then s!"-{r}" else s!"{r}"

def assertCapacity (option : LogisticsOption) (extraQty : ℚ) (excludeId : Option Uuid) : Handler Unit :=
  match option.capacityQtl with
  | none => pure ()
  | some cap => do
    let used ← bookedQuantity option.id excludeId
    if cap + capacitySlack < used + extraQty then
      let usedText := fixed0 used
      let capText := fixed0 cap
      throw ⟨409, s!"not enough capacity at {option.name}: {usedText}/{capText} qtl already booked"⟩
    else pure ()

/-- What is booked at an option, leaving out one booking. -/
def booked (db : DB) (logisticsId : Uuid) (excludeId : Option Uuid) : ℚ :=
  sumQuantity (db.logisticsBookings.rows.filter (fun b =>
    b.logisticsId = logisticsId ∧ excludeId ≠ some b.id ∧ b.status.isActive))

def Fits (db : DB) (option : LogisticsOption) (extraQty : ℚ) (excludeId : Option Uuid) : Prop :=
  ∀ cap ∈ option.capacityQtl, booked db option.id excludeId + extraQty ≤ cap + capacitySlack

theorem sumQuantity_order (o : RowOrder) (logisticsId : Uuid) (excludeId : Option Uuid) (db : DB) :
    sumQuantity ((o.order (db.logisticsBookings.rows.filter (fun b => b.logisticsId = logisticsId))).filter
      (fun b => excludeId ≠ some b.id ∧ b.status.isActive)) = booked db logisticsId excludeId := by
  unfold booked sumQuantity
  have h := (((o.perm (db.logisticsBookings.rows.filter (fun b => b.logisticsId = logisticsId))).filter
    (fun b => excludeId ≠ some b.id ∧ b.status.isActive)).map (·.quantityQtl)).sum_eq
  rw [h, List.filter_filter]
  congr 2
  refine List.filter_congr (fun b _ => ?_)
  simp [Bool.and_comm]

theorem handle_bookedQuantity (o : RowOrder) (logisticsId : Uuid) (excludeId : Option Uuid) (db : DB) :
    handle o (bookedQuantity logisticsId excludeId) db = (.ok (booked db logisticsId excludeId), db) := by
  unfold bookedQuantity
  rw [handle_bind, handle_select, Prog.onOk_ok, handle_pure, ← sumQuantity_order o]
  rfl

theorem handle_assertCapacity (o : RowOrder) (option : LogisticsOption) (extraQty : ℚ) (excludeId : Option Uuid)
    (db : DB) : handle o (assertCapacity option extraQty excludeId) db = (.ok (), db) ∧ Fits db option extraQty excludeId ∨
      ∃ e, handle o (assertCapacity option extraQty excludeId) db = (.error e, db) := by
  unfold assertCapacity Fits
  cases option.capacityQtl with
  | none => exact Or.inl ⟨rfl, by simp⟩
  | some cap =>
    simp only [handle_bind, handle_bookedQuantity, Prog.onOk_ok, handle_ite]
    split
    · exact Or.inr ⟨_, rfl⟩
    · rename_i h
      exact Or.inl ⟨rfl, by simpa using h⟩

/-! ## The handlers -/

def ownLot (lotId userId : Uuid) : Handler Lot := do
  let rows ← select lots fun l => l.id = lotId
  match rows with
  | [] => throw ⟨404, "lot not found"⟩
  | lot :: _ =>
    if ¬ lot.isOf userId then throw ⟨404, "lot not found"⟩
    else if lot.status = .withdrawn ∨ lot.status = .sold then
      throw ⟨409, "cannot book logistics for a sold or withdrawn lot"⟩
    else pure lot

def activeOption (logisticsId : Uuid) : Handler LogisticsOption := do
  let rows ← select logisticsOptions fun x => x.id = logisticsId ∧ x.isActive
  match rows with
  | [] => throw ⟨404, "logistics option not found"⟩
  | option :: _ => pure option

def createBooking (body : LogisticsBookCreate) (userId id : Uuid) (now : Time) : Handler LogisticsBooking := do
  let lot ← ownLot body.lotId userId
  let option ← activeOption body.logisticsId
  let qty := body.quantityQtl.getD lot.quantityQtl
  if lot.quantityQtl + capacitySlack < qty then throw ⟨400, "booking quantity exceeds lot quantity"⟩
  else
    assertCapacity option qty none
    -- the row sent has `option_name` and `rate_per_qtl` too, which `logisticsBookings` asks the table for
    let res ← insert logisticsBookings
      { id := id
        userId := userId
        lotId := body.lotId
        logisticsId := body.logisticsId
        kind := option.kind
        quantityQtl := qty
        status := .requested
        scheduledDate := body.scheduledDate
        notes := body.notes
        createdAt := now
        updatedAt := now }
    match res with
    | [] => throw ⟨400, "could not create booking"⟩
    | booking :: _ => pure booking

/-- The `updated_at` trigger stamps the row. -/
def LogisticsBooking.setStatus (s : BookingStatus) (now : Time) : Patch LogisticsBooking.id LogisticsBooking.check :=
  ⟨fun b => { b with status := s, updatedAt := now }, fun _ => rfl, fun _ h => h⟩

/-- `if body.status in ACTIVE_BOOKING_STATUSES: ...` -/
def assertReactivation (current : LogisticsBooking) (s : BookingStatus) : Handler Unit :=
  if s.isActive then do
    let option ← activeOption current.logisticsId
    assertCapacity option current.quantityQtl (some current.id)
  else pure ()

def updateBooking (bookingId : Uuid) (body : LogisticsBookUpdate) (userId : Uuid) (now : Time) :
    Handler LogisticsBooking := do
  let rows ← select logisticsBookings fun b => b.id = bookingId ∧ b.userId = userId
  match rows with
  | [] => throw ⟨404, "booking not found"⟩
  | current :: _ =>
    if current.status = .completed ∧ body.status ≠ .completed then
      throw ⟨409, "completed booking cannot change status"⟩
    else
      assertReactivation current body.status
      let res ← update logisticsBookings (fun b => b.id = bookingId ∧ b.userId = userId)
        (LogisticsBooking.setStatus body.status now)
      match res with
      | [] => throw ⟨404, "booking not found"⟩
      | booking :: _ => pure booking

/-! ## What they do -/

def DB.setBookingStatus (db : DB) (bookingId : Uuid) (s : BookingStatus) (now : Time) : DB :=
  { db with logisticsBookings :=
      db.logisticsBookings.update (fun b => b.id = bookingId) (LogisticsBooking.setStatus s now) }

theorem handle_ownLot (o : RowOrder) (lotId userId : Uuid) (db : DB) :
    (∃ lot, db.lots.get? lotId = some lot ∧ lot.isOf userId ∧ handle o (ownLot lotId userId) db = (.ok lot, db)) ∨
      ∃ e, handle o (ownLot lotId userId) db = (.error e, db) := by
  unfold ownLot
  rw [handle_bind, handle_select_key, Prog.onOk_ok]
  cases hl : (lots.get db).get? lotId with
  | none => exact Or.inr ⟨_, rfl⟩
  | some lot =>
    simp only [Option.toList_some, handle_ite, handle_throw, handle_pure]
    split
    · exact Or.inr ⟨_, rfl⟩
    · rename_i hu
      split
      · exact Or.inr ⟨_, rfl⟩
      · exact Or.inl ⟨lot, hl, not_not.1 hu, rfl⟩

theorem handle_activeOption (o : RowOrder) (logisticsId : Uuid) (db : DB) :
    (∃ option, db.logisticsOptions.get? logisticsId = some option ∧
        handle o (activeOption logisticsId) db = (.ok option, db)) ∨
      ∃ e, handle o (activeOption logisticsId) db = (.error e, db) := by
  unfold activeOption
  by_cases h : ∃ option, db.logisticsOptions.get? logisticsId = some option ∧ option.isActive
  · obtain ⟨option, hx, ha⟩ := h
    refine Or.inl ⟨option, hx, ?_⟩
    rw [handle_bind, handle_select_own (t := logisticsOptions) hx ha]
    rfl
  · refine Or.inr ⟨⟨404, "logistics option not found"⟩, ?_⟩
    rw [handle_bind, handle_select_other (t := logisticsOptions) (fun x hx ha => h ⟨x, hx, ha⟩)]
    rfl

theorem handle_assertReactivation (o : RowOrder) (current : LogisticsBooking) (s : BookingStatus) (db : DB) :
    handle o (assertReactivation current s) db = (.ok (), db) ∧
        (s.isActive = true → ∃ option, db.logisticsOptions.get? current.logisticsId = some option ∧
          Fits db option current.quantityQtl (some current.id)) ∨
      ∃ e, handle o (assertReactivation current s) db = (.error e, db) := by
  unfold assertReactivation
  by_cases hs : s.isActive = true
  · rw [if_pos hs, handle_bind]
    rcases handle_activeOption o current.logisticsId db with ⟨option, hx, ha⟩ | ⟨e, he⟩
    · rw [ha, Prog.onOk_ok]
      rcases handle_assertCapacity o option current.quantityQtl (some current.id) db with ⟨hc, hf⟩ | he
      · exact Or.inl ⟨hc, fun _ => ⟨option, hx, hf⟩⟩
      · exact Or.inr he
    · rw [he]
      exact Or.inr ⟨e, rfl⟩
  · rw [if_neg hs]
    exact Or.inl ⟨rfl, fun h => absurd h hs⟩

/-- **What making a booking does**: nothing, or it stores a requested booking that fits in its option. -/
theorem createBooking_cases (o : RowOrder) (body : LogisticsBookCreate) (userId id : Uuid) (now : Time) (db : DB) :
    (handle o (createBooking body userId id now) db).2 = db ∨
      ∃ option booking, db.logisticsOptions.get? booking.logisticsId = some option ∧ booking.id = id ∧
        booking.userId = userId ∧ Fits db option booking.quantityQtl none ∧ booking.status = .requested ∧
        logisticsBookings.insert? db booking = .ok (handle o (createBooking body userId id now) db).2 := by
  unfold createBooking
  rw [handle_bind]
  rcases handle_ownLot o body.lotId userId db with ⟨lot, -, -, hl⟩ | ⟨e, he⟩
  · rw [hl, Prog.onOk_ok, handle_bind]
    rcases handle_activeOption o body.logisticsId db with ⟨option, hx, ha⟩ | ⟨e, he⟩
    · simp only [ha, Prog.onOk_ok, handle_ite, handle_throw]
      split
      · exact Or.inl rfl
      · rw [handle_bind]
        rcases handle_assertCapacity o option (body.quantityQtl.getD lot.quantityQtl) none db with ⟨hc, hf⟩ | ⟨e, he⟩
        · rw [hc, Prog.onOk_ok, handle_bind, handle_insert]
          generalize hb : ({ id := id, userId := userId, .. } : LogisticsBooking) = booking
          cases hi : logisticsBookings.insert? db booking with
          | error e => exact Or.inl rfl
          | ok db' =>
            refine Or.inr ⟨option, booking, ?_⟩
            subst hb
            exact ⟨hx, rfl, rfl, hf, rfl, hi⟩
        · rw [he]
          exact Or.inl rfl
    · rw [he]
      exact Or.inl rfl
  · rw [he]
    exact Or.inl rfl

/-- **What patching a booking does**: nothing, or it sets the status of a booking of the caller's, which fits in its
option without counting itself if the status is an active one. -/
theorem updateBooking_cases (o : RowOrder) (bookingId : Uuid) (body : LogisticsBookUpdate) (userId : Uuid) (now : Time)
    (db : DB) : (handle o (updateBooking bookingId body userId now) db).2 = db ∨
      ∃ current, db.logisticsBookings.get? bookingId = some current ∧ current.userId = userId ∧
        (body.status.isActive = true → ∃ option, db.logisticsOptions.get? current.logisticsId = some option ∧
          Fits db option current.quantityQtl (some bookingId)) ∧
        (handle o (updateBooking bookingId body userId now) db).2 = db.setBookingStatus bookingId body.status now := by
  unfold updateBooking
  by_cases h : ∃ b, db.logisticsBookings.get? bookingId = some b ∧ b.userId = userId
  · obtain ⟨current, hb, hu⟩ := h
    obtain rfl := Table.key_of_get? hb
    rw [handle_bind, handle_select_own (t := logisticsBookings) hb hu]
    simp only [Prog.onOk_ok, handle_ite, handle_throw]
    split
    · exact Or.inl rfl
    · have hw : handle o (update logisticsBookings (fun b => b.id = current.id ∧ b.userId = userId)
          (LogisticsBooking.setStatus body.status now)) db
            = (.ok [(LogisticsBooking.setStatus body.status now).apply current],
                db.setBookingStatus current.id body.status now) := handle_update_own hb hu
      rw [handle_bind]
      rcases handle_assertReactivation o current body.status db with ⟨hc, hf⟩ | ⟨e, he⟩
      · refine Or.inr ⟨current, hb, hu, hf, ?_⟩
        simp only [hc, Prog.onOk_ok, handle_bind, hw, handle_pure]
      · rw [he]
        exact Or.inl rfl
  · rw [handle_bind, handle_select_other (t := logisticsBookings) (fun b hb hu => h ⟨b, hb, hu⟩)]
    exact Or.inl rfl

end Krishi
