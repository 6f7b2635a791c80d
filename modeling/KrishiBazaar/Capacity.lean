import KrishiBazaar.Lib.Total
import KrishiBazaar.Moves
/-!
# Capacity — what is booked at a godown or a truck

The bookings of an option that are requested or confirmed add up to at most its capacity and the tolerance, in every
state a run reaches from an empty bookings table.  `assertCapacity` leaves the booking it is asked for out of the sum,
so a new booking and one that is put back are the same case: what is booked without it, and its quantity on top
(`booked_add`).  The column admits a negative capacity; such an option never has an active booking, but an empty sum is
more than its capacity.
-/
namespace Krishi

open Lib

/-- What a booking takes of an option. -/
def LogisticsBooking.takes (logisticsId : Uuid) (b : LogisticsBooking) : ℚ :=
  if b.logisticsId = logisticsId ∧ b.status.isActive then b.quantityQtl else 0

def activeQuantity (db : DB) (logisticsId : Uuid) : ℚ := db.logisticsBookings.total (LogisticsBooking.takes logisticsId)

/-- No option is booked past its capacity. -/
def WithinCapacity (db : DB) : Prop :=
  ∀ k option cap, db.logisticsOptions.get? k = some option → option.capacityQtl = some cap →
    activeQuantity db k ≤ max (cap + capacitySlack) 0

section Booked

variable {db : DB}

theorem booked_none (k : Uuid) : booked db k none = activeQuantity db k := by
  unfold booked sumQuantity activeQuantity
  rw [Table.total_filter]
  congr 1
  funext b
  simp [LogisticsBooking.takes]

theorem booked_some (k bookingId : Uuid) : booked db k (some bookingId)
    = db.logisticsBookings.total (fun b => if b.id = bookingId then 0 else b.takes k) := by
  unfold booked sumQuantity
  rw [Table.total_filter]
  congr 1
  funext b
  by_cases hb : b.id = bookingId
  · simp [hb]
  · simp [hb, Ne.symm hb, LogisticsBooking.takes]

/-- **Putting a booking in a status** leaves what is booked without it, and what it takes then. -/
theorem booked_add {booking : LogisticsBooking} (hb : db.logisticsBookings.get? booking.id = some booking)
    (s : BookingStatus) (now : Time) (k : Uuid) : activeQuantity (db.setBookingStatus booking.id s now) k
      = booked db k (some booking.id) + ((LogisticsBooking.setStatus s now).apply booking).takes k := by
  have hu := Table.total_update_key hb (LogisticsBooking.setStatus s now) (LogisticsBooking.takes k)
  rw [← Table.total_without hb (LogisticsBooking.takes k), ← booked_some, add_right_comm] at hu
  exact add_right_cancel hu

end Booked

theorem LogisticsBooking.takes_le {b : LogisticsBooking} (h : b.check = true) (k : Uuid) : b.takes k ≤ b.quantityQtl := by
  simp only [LogisticsBooking.check, decide_eq_true_eq] at h
  unfold LogisticsBooking.takes
  split
  · exact le_rfl
  · exact h.le

theorem LogisticsBooking.takes_nonneg {b : LogisticsBooking} (h : b.check = true) (k : Uuid) : 0 ≤ b.takes k := by
  simp only [LogisticsBooking.check, decide_eq_true_eq] at h
  unfold LogisticsBooking.takes
  split
  · exact h.le
  · exact le_rfl

/-- No request changes an option. -/
theorem Change.logisticsOptions {db db' : DB} {e : Event} (h : Change db e db') :
    db'.logisticsOptions = db.logisticsOptions := by
  have hre : ∀ (db : DB) k, (reopened db k).logisticsOptions = db.logisticsOptions := by
    intro db k
    unfold reopened
    split <;> rfl
  have hpatch : ∀ (db : DB) x s now, (db.patchOffer x s now).logisticsOptions = db.logisticsOptions := by
    intro db x s now
    cases s
    · rfl
    · rfl
    · exact hre _ _
    · exact hre _ _
  have hrescored : ∀ (db : DB) x, (db.rescored x).logisticsOptions = db.logisticsOptions := by
    intro db x
    cases x <;> rfl
  cases h with
  | nothing => rfl
  | lotCreated hu ho hi => obtain ⟨hk, hc, -, rfl⟩ := Tab.insert?_ok hi; rfl
  | lotsPooled hr hp => obtain ⟨hk, hc, -, rfl⟩ := Tab.insert?_ok hp.inserted; rfl
  | lotGraded hl hu => rfl
  | lotWithdrawn hr hl hu => rfl
  | offerCreated hl hu hs hq hou hp hi => obtain ⟨hk, hc, -, rfl⟩ := Tab.insert?_ok hi; rfl
  | offerPatched hr hx hu =>
    unfold patched
    split
    · exact hpatch _ _ _ _
    · split
      · rfl
      · exact hpatch _ _ _ _
  | paymentCreated hx hu ha hpu hp hid hs hi => obtain ⟨hk, hc, -, rfl⟩ := Tab.insert?_ok hi; rfl
  | paid hp =>
    rw [hrescored]
    unfold DB.closeLot
    split <;> rfl
  | failed hp hu hs => exact hrescored _ _
  | disputed hp hu => exact hrescored _ _
  | bookingCreated hx hu hf hi => obtain ⟨hk, hc, -, rfl⟩ := Tab.insert?_ok hi; rfl
  | bookingUpdated hb hu hf => rfl
  | offersExpired hr =>
    exact swept_inv (I := fun db' => db'.logisticsOptions = db.logisticsOptions)
      (fun db' x h _ _ => (hpatch db' x _ _).trans h) rfl

/-- **A request books no more at an option, or what it has booked then fits.** -/
theorem Change.activeQuantity_le {db db' : DB} {e : Event} (h : Change db e db') (k : Uuid) :
    activeQuantity db' k ≤ activeQuantity db k ∨
      ∃ option, db.logisticsOptions.get? k = some option ∧
        ∀ cap ∈ option.capacityQtl, activeQuantity db' k ≤ cap + capacitySlack := by
  rcases h.bookings_cases with h | ⟨option, booking, -, hx, hf, hi⟩ | ⟨booking, s, hb, -, hf, rfl⟩
  · rw [activeQuantity, h]
    exact Or.inl le_rfl
  · have ht : activeQuantity db' k = activeQuantity db k + booking.takes k := Table.total_insert? hi _
    obtain ⟨-, hc, -⟩ := Tab.insert?_ok hi
    by_cases hk : booking.logisticsId = k
    · subst hk
      refine Or.inr ⟨option, hx, fun cap hcap => ?_⟩
      have := hf cap hcap
      rw [booked_none, Table.key_of_get? hx] at this
      rw [ht]
      exact (add_le_add_right (LogisticsBooking.takes_le hc _) _).trans this
    · rw [ht, show booking.takes k = 0 by simp [LogisticsBooking.takes, hk], add_zero]
      exact Or.inl le_rfl
  · have ha := booked_add hb s e.now k
    have hb0 := LogisticsBooking.takes_nonneg (Table.check_of_get? hb) k
    have hbefore : booked db k (some booking.id) + booking.takes k = activeQuantity db k := by
      rw [booked_some]
      exact Table.total_without hb _
    by_cases hk : booking.logisticsId = k ∧ s.isActive = true
    · obtain ⟨rfl, hs⟩ := hk
      obtain ⟨option, hx, hf⟩ := hf hs
      refine Or.inr ⟨option, hx, fun cap hcap => ?_⟩
      have := hf cap hcap
      rw [Table.key_of_get? hx] at this
      rw [ha]
      refine (add_le_add_right (LogisticsBooking.takes_le ?_ _) _).trans this
      exact (LogisticsBooking.setStatus s e.now).check_apply _ (Table.check_of_get? hb)
    · have h0 : ((LogisticsBooking.setStatus s e.now).apply booking).takes k = 0 := if_neg hk
      rw [ha, h0, add_zero, ← hbefore]
      exact Or.inl (le_add_of_nonneg_right hb0)

theorem withinCapacity_step (db : DB) (e : Event) (h : WithinCapacity db) : WithinCapacity (step db e) := by
  have hc := step_change db e
  intro k option cap hk hcap
  rw [hc.logisticsOptions] at hk
  rcases hc.activeQuantity_le k with hle | ⟨option', hk', hle⟩
  · exact hle.trans (h k option cap hk hcap)
  · obtain rfl := Option.some.inj (hk.symm.trans hk')
    exact (hle cap hcap).trans (le_max_left _ _)

/-- **No option is booked past its capacity in any state of a run from an empty bookings table.** -/
theorem capacity_respected (db : DB) (h : db.logisticsBookings = .empty) (es : List Event) :
    WithinCapacity (after step db es) := by
  refine inv_after WithinCapacity withinCapacity_step es db (fun k option cap _ _ => ?_)
  have h0 : activeQuantity db k = 0 := by
    rw [activeQuantity, h]
    rfl
  rw [h0]
  exact le_max_right _ _

/-- Farmer 1 books the godown for lot 11, where the table has the columns that `create_booking` sends. -/
theorem capacity_respected_firstBooking :
    let db := after step { firstDay with bookingColumns := createdBookingKeys }
      (firstOffer ++ [.of 1 41 0 (.createBooking (godownFor 11))])
    activeQuantity db 1 = 10 ∧ WithinCapacity db :=
  ⟨by decide +kernel, capacity_respected _ rfl _⟩

/-- An option whose capacity is negative. -/
def misconfigured : DB :=
  { firstDay with
    logisticsOptions := ⟨[⟨1, "Nashik", .storage, "Godown", some (-5), none, none, none, true⟩], by decide, by decide⟩ }

theorem misconfigured_exceeded :
    misconfigured.logisticsBookings = .empty ∧
      (misconfigured.logisticsOptions.get? 1).bind (·.capacityQtl) = some (-5) ∧
      ¬ activeQuantity misconfigured 1 ≤ -5 + capacitySlack :=
  ⟨rfl, by decide +kernel, by decide +kernel⟩

end Krishi
