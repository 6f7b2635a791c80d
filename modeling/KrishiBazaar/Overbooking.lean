import KrishiBazaar.Capacity
import KrishiBazaar.Lib.Duo
/-!
# Overbooking — two bookings at once

`_assert_capacity` reads what is booked and the write comes after it, with no constraint of the table behind them.  So
two requests can both read the same sum and both be granted (`overbooked`).  That is the only way to lose the capacity:
over every interleaving of the calls of two requests the option stays within it exactly when the two bookings, each
granted on the starting state, also fit together (`concurrent_bookings_iff`).

A run is followed by what each request has been told so far (`Clearance`).  Until one of them has written, every answer
comes from the starting state; the second to write was either told of the first booking or granted on the starting state.
-/
namespace Krishi

open Lib

/-! ## The requests -/

inductive BookingRequest
  | create (body : LogisticsBookCreate) (userId id : Uuid) (now : Time)
  | patch (bookingId : Uuid) (body : LogisticsBookUpdate) (userId : Uuid) (now : Time)

/-- The row that `create_booking` stores. -/
def bookingRow (body : LogisticsBookCreate) (userId id : Uuid) (now : Time) (lot : Lot) (option : LogisticsOption) :
    LogisticsBooking where
  id := id
  userId := userId
  lotId := body.lotId
  logisticsId := body.logisticsId
  kind := option.kind
  quantityQtl := body.quantityQtl.getD lot.quantityQtl
  status := .requested
  scheduledDate := body.scheduledDate
  notes := body.notes
  createdAt := now
  updatedAt := now

namespace BookingRequest

def bookingId : BookingRequest → Uuid
  | create _ _ id _ => id
  | patch bookingId _ _ _ => bookingId

def code : BookingRequest → Handler LogisticsBooking
  | create body userId id now => createBooking body userId id now
  | patch bookingId body userId now => updateBooking bookingId body userId now

/-- A booking of the option, or a booking of it put in an active status. -/
def On (k : Uuid) (db : DB) : BookingRequest → Prop
  | create body _ _ _ => body.logisticsId = k
  | patch bookingId body _ _ =>
    body.status.isActive = true ∧ ∀ b, db.logisticsBookings.get? bookingId = some b → b.logisticsId = k

/-- A request up to its write: the row to store, or the row to patch. -/
def checks : BookingRequest → Handler LogisticsBooking
  | create body userId id now => do
    let lot ← ownLot body.lotId userId
    let option ← activeOption body.logisticsId
    if lot.quantityQtl + capacitySlack < body.quantityQtl.getD lot.quantityQtl then
      throw ⟨400, "booking quantity exceeds lot quantity"⟩
    else
      assertCapacity option (body.quantityQtl.getD lot.quantityQtl) none
      pure (bookingRow body userId id now lot option)
  | patch bookingId body userId _ => do
    let rows ← select logisticsBookings fun b => b.id = bookingId ∧ b.userId = userId
    match rows with
    | [] => throw ⟨404, "booking not found"⟩
    | current :: _ =>
      if current.status = .completed ∧ body.status ≠ .completed then
        throw ⟨409, "completed booking cannot change status"⟩
      else
        assertReactivation current body.status
        pure current

/-- The write, and the answer. -/
def write : BookingRequest → LogisticsBooking → Handler LogisticsBooking
  | create _ _ _ _, row => do
    let res ← insert logisticsBookings row
    match res with
    | [] => throw ⟨400, "could not create booking"⟩
    | booking :: _ => pure booking
  | patch bookingId body userId now, _ => do
    let res ← update logisticsBookings (fun b => b.id = bookingId ∧ b.userId = userId)
      (LogisticsBooking.setStatus body.status now)
    match res with
    | [] => throw ⟨404, "booking not found"⟩
    | booking :: _ => pure booking

/-- **A request is its checks and then one write.** -/
theorem code_eq : ∀ r : BookingRequest, r.code = r.checks >>= r.write
  | create body userId id now => by
    refine Eq.trans ?_ (Prog.bind_assoc _ _ _).symm
    refine congrArg (ownLot body.lotId userId >>= ·) (funext fun lot => ?_)
    refine Eq.trans ?_ (Prog.bind_assoc _ _ _).symm
    refine congrArg (activeOption body.logisticsId >>= ·) (funext fun option => ?_)
    by_cases hq : lot.quantityQtl + capacitySlack < body.quantityQtl.getD lot.quantityQtl
    · simp only [hq, if_true]
      rfl
    · simp only [hq, if_false]
      refine Eq.trans ?_ (Prog.bind_assoc _ _ _).symm
      rfl
  | patch bookingId body userId now => by
    refine Eq.trans ?_ (Prog.bind_assoc _ _ _).symm
    refine congrArg (select logisticsBookings _ >>= ·) (funext fun rows => ?_)
    cases rows with
    | nil => rfl
    | cons current rest =>
      by_cases hc : current.status = .completed ∧ body.status ≠ .completed
      · simp only [if_pos hc]
        rfl
      · simp only [if_neg hc]
        refine Eq.trans ?_ (Prog.bind_assoc _ _ _).symm
        rfl

/-- **The checks pass on this database**, the capacity among them, with the row that is then stored or patched. -/
inductive Granted (db : DB) : BookingRequest → LogisticsBooking → Prop
  | create {body : LogisticsBookCreate} {userId id : Uuid} {now : Time} {lot : Lot} {option : LogisticsOption}
      (hl : db.lots.get? body.lotId = some lot) (mine : lot.isOf userId)
      (live : ¬ (lot.status = .withdrawn ∨ lot.status = .sold))
      (hx : db.logisticsOptions.get? body.logisticsId = some option) (active : option.isActive = true)
      (within : body.quantityQtl.getD lot.quantityQtl ≤ lot.quantityQtl + capacitySlack)
      (fits : Fits db option (body.quantityQtl.getD lot.quantityQtl) none) :
      Granted db (.create body userId id now) (bookingRow body userId id now lot option)
  | patch {bookingId : Uuid} {body : LogisticsBookUpdate} {userId : Uuid} {now : Time} {current : LogisticsBooking}
      {option : LogisticsOption} (hb : db.logisticsBookings.get? bookingId = some current)
      (mine : current.userId = userId) (live : ¬ (current.status = .completed ∧ body.status ≠ .completed))
      (hx : db.logisticsOptions.get? current.logisticsId = some option) (active : option.isActive = true)
      (fits : Fits db option current.quantityQtl (some current.id)) :
      Granted db (.patch bookingId body userId now) current

/-- No constraint is in the way of the write. -/
def Storable (db : DB) : BookingRequest → LogisticsBooking → Prop
  | create _ _ _ _, row => ∃ db', logisticsBookings.insert? db row = .ok db'
  | patch _ _ _ _, _ => True

/-- The write makes the row's booking take its quantity of the option. -/
def Ready (db : DB) (k : Uuid) : BookingRequest → LogisticsBooking → Prop
  | create _ _ id _, row => row.id = id ∧ row.logisticsId = k ∧ row.status.isActive = true
  | patch bookingId body userId _, row => row.id = bookingId ∧ body.status.isActive = true ∧
    ∃ b, db.logisticsBookings.get? bookingId = some b ∧ b.userId = userId ∧ b.quantityQtl = row.quantityQtl ∧
      b.logisticsId = k

end BookingRequest

/-! ## What is booked -/

/-- What is booked at an option, some bookings left out. -/
def bookedBut (db : DB) (k : Uuid) (ids : List Uuid) : ℚ :=
  db.logisticsBookings.total (fun b => if b.id ∈ ids then 0 else b.takes k)

/-- The booking of an id takes `qty` of the option now, and nothing else has changed. -/
def Puts (k : Uuid) (db : DB) (id : Uuid) (qty : ℚ) (db' : DB) : Prop :=
  ∀ ids, bookedBut db' k ids = bookedBut db k (id :: ids) + if id ∈ ids then 0 else qty

section Booked

variable {db db' : DB} {k : Uuid}

theorem bookedBut_nil : bookedBut db k [] = activeQuantity db k := by
  unfold bookedBut activeQuantity
  simp

theorem bookedBut_singleton (id : Uuid) : bookedBut db k [id] = booked db k (some id) := by
  rw [booked_some, bookedBut]
  simp

theorem bookedBut_le (ids : List Uuid) : bookedBut db k ids ≤ activeQuantity db k := by
  unfold bookedBut activeQuantity Table.total
  refine List.sum_le_sum (fun b hb => ?_)
  have h0 := LogisticsBooking.takes_nonneg (db.logisticsBookings.checked b hb) k
  split
  · exact h0
  · exact le_rfl

theorem bookedBut_congr {ids ids' : List Uuid} (h : ∀ id, id ∈ ids ↔ id ∈ ids') :
    bookedBut db k ids = bookedBut db k ids' := by
  unfold bookedBut
  simp [h]

/-- A booking that is not there need not be left out. -/
theorem bookedBut_absent {id : Uuid} (h : db.logisticsBookings.get? id = none) (ids : List Uuid) :
    bookedBut db k (id :: ids) = bookedBut db k ids := by
  unfold bookedBut Table.total
  congr 1
  refine List.map_congr_left (fun b hb => ?_)
  simp [Table.get?_eq_none.1 h b hb]

theorem puts_insert {b : LogisticsBooking} (h : logisticsBookings.insert? db b = .ok db') :
    Puts k db b.id (b.takes k) db' := by
  intro ids
  obtain ⟨hk, -⟩ := Tab.insert?_ok h
  rw [bookedBut_absent hk]
  exact Table.total_insert? h _

theorem puts_update {b : LogisticsBooking} (h : db.logisticsBookings.get? b.id = some b) (s : BookingStatus)
    (now : Time) :
    Puts k db b.id (((LogisticsBooking.setStatus s now).apply b).takes k) (db.setBookingStatus b.id s now) := by
  intro ids
  let w : LogisticsBooking → ℚ := fun b => if b.id ∈ ids then 0 else b.takes k
  have hu := Table.total_update_key h (LogisticsBooking.setStatus s now) w
  rw [← Table.total_without h w, add_right_comm] at hu
  have hbut : db.logisticsBookings.total (fun r => if r.id = b.id then 0 else w r) = bookedBut db k (b.id :: ids) := by
    unfold bookedBut
    congr 1
    funext r
    by_cases hr : r.id = b.id <;> simp [w, hr]
  rw [hbut] at hu
  exact add_right_cancel hu

end Booked

/-! ## What a write does -/

/-- The rows of the bookings table keep their users, their quantities and their options. -/
def SameBooking (b b' : LogisticsBooking) : Prop :=
  b'.userId = b.userId ∧ b'.quantityQtl = b.quantityQtl ∧ b'.logisticsId = b.logisticsId

/-- What no booking request changes, and that the request is on the option. -/
structure Frame (db₀ : DB) (k : Uuid) (r : BookingRequest) (db : DB) : Prop where
  users : db.userProfiles = db₀.userProfiles
  lots : db.lots = db₀.lots
  options : db.logisticsOptions = db₀.logisticsOptions
  columns : db.bookingColumns = db₀.bookingColumns
  kept : Evolves SameBooking (fun _ => True) db₀.logisticsBookings db.logisticsBookings
  on : r.On k db

/-- One write: what it puts on the option, and what it leaves. -/
structure Writes (k : Uuid) (db : DB) (row : LogisticsBooking) (db' : DB) : Prop where
  puts : Puts k db row.id row.quantityQtl db'
  users : db'.userProfiles = db.userProfiles
  lots : db'.lots = db.lots
  options : db'.logisticsOptions = db.logisticsOptions
  columns : db'.bookingColumns = db.bookingColumns
  kept : Evolves SameBooking (fun b => b.id = row.id ∧ b.logisticsId = k) db.logisticsBookings db'.logisticsBookings

section Write

variable {db₀ db db' : DB} {k : Uuid} {r r' : BookingRequest} {row : LogisticsBooking}

theorem SameBooking.refl (b : LogisticsBooking) : SameBooking b b := ⟨rfl, rfl, rfl⟩

theorem SameBooking.trans {b b' b'' : LogisticsBooking} (h : SameBooking b b') (h' : SameBooking b' b'') :
    SameBooking b b'' := ⟨h'.1.trans h.1, h'.2.1.trans h.2.1, h'.2.2.trans h.2.2⟩

theorem Frame.step (h : Frame db₀ k r db) (hw : Writes k db row db') : Frame db₀ k r db' where
  users := hw.users.trans h.users
  lots := hw.lots.trans h.lots
  options := hw.options.trans h.options
  columns := hw.columns.trans h.columns
  kept := h.kept.trans (fun _ _ _ => SameBooking.trans) (fun _ _ _ _ => trivial)
    (hw.kept.mono (fun _ _ h => h) (fun _ _ => trivial))
  on := by
    cases r with
    | create body userId id now => exact h.on
    | patch bookingId body userId now =>
      refine ⟨h.on.1, fun b hb => ?_⟩
      rcases hw.kept.new hb with ⟨b₀, hb₀, hsame⟩ | ⟨-, -, hk⟩
      · exact hsame.2.2.trans (h.on.2 b₀ hb₀)
      · exact hk

theorem writes_insert (h : logisticsBookings.insert? db row = .ok db') (hk : row.logisticsId = k)
    (ha : row.status.isActive = true) : Writes k db row db' := by
  have hput := puts_insert (k := k) h
  rw [LogisticsBooking.takes, if_pos ⟨hk, ha⟩] at hput
  obtain ⟨hn, hc, -, rfl⟩ := Tab.insert?_ok h
  exact ⟨hput, rfl, rfl, rfl, rfl, Evolves.insert h SameBooking.refl ⟨rfl, hk⟩⟩

theorem writes_patch {b : LogisticsBooking} {s : BookingStatus} {now : Time}
    (hb : db.logisticsBookings.get? row.id = some b) (hq : b.quantityQtl = row.quantityQtl) (hk : b.logisticsId = k)
    (ha : s.isActive = true) : Writes k db row (db.setBookingStatus row.id s now) := by
  have hid : b.id = row.id := Table.key_of_get? hb
  have hput := puts_update (k := k) (hid ▸ hb) s now
  rw [LogisticsBooking.takes, if_pos ⟨hk, ha⟩, hid] at hput
  refine ⟨?_, rfl, rfl, rfl, rfl, Evolves.update_key SameBooking.refl (fun b' _ => ⟨rfl, rfl, rfl⟩)⟩
  rw [← hq]
  exact hput

/-- **A write that nothing is in the way of** puts the row on the option. -/
theorem handle_write (o : RowOrder) (hready : r.Ready db k row) (hst : r.Storable db row) :
    ∃ db', (handle o (r.write row) db).2 = db' ∧ Writes k db row db' := by
  cases r with
  | create body userId id now =>
    obtain ⟨db', hi⟩ := hst
    refine ⟨db', ?_, writes_insert hi hready.2.1 hready.2.2⟩
    unfold BookingRequest.write
    rw [handle_bind, handle_insert, hi]
    rfl
  | patch bookingId body userId now =>
    obtain ⟨rfl, ha, b, hb, hu, hq, hk⟩ := hready
    refine ⟨db.setBookingStatus row.id body.status now, ?_, writes_patch hb hq hk ha⟩
    unfold BookingRequest.write
    rw [handle_bind, show handle o (update logisticsBookings (fun b => b.id = row.id ∧ b.userId = userId)
      (LogisticsBooking.setStatus body.status now)) db = _ from handle_update_own hb hu]
    rfl

/-- The columns and the references of a booking are met on any database with the same users, lots, options and
columns. -/
theorem storable_of {row' : LogisticsBooking} (hu : db'.userProfiles = db.userProfiles) (hl : db'.lots = db.lots)
    (hx : db'.logisticsOptions = db.logisticsOptions) (hcol : db'.bookingColumns = db.bookingColumns)
    (hst : r.Storable db row')
    (habsent : db.logisticsBookings.get? row'.id = none → db'.logisticsBookings.get? row'.id = none) :
    r.Storable db' row' := by
  cases r with
  | create body userId id now =>
    obtain ⟨db₁, hi⟩ := hst
    obtain ⟨hk, hc, hrefs, -⟩ := Tab.insert?_ok hi
    have hcol' : logisticsBookings.columns db' = true := by
      rw [← Tab.columns_of_insert? hi]
      simp only [logisticsBookings, hcol]
    have hrefs' : logisticsBookings.refs db' row' = true := by
      rw [← hrefs]
      simp only [logisticsBookings, hu, hl, hx]
    exact ⟨_, Tab.insert?_of hcol' hc (habsent hk) hrefs'⟩
  | patch bookingId body userId now => trivial

/-- What a request can store after the other's write it could store before. -/
theorem Storable.before {row' : LogisticsBooking} (hw : Writes k db row db') (hst : r.Storable db' row') :
    r.Storable db row' := by
  refine storable_of hw.users.symm hw.lots.symm hw.options.symm hw.columns.symm hst (fun hn => ?_)
  cases hg : db.logisticsBookings.get? row'.id with
  | none => rfl
  | some b =>
    obtain ⟨b', hb', -⟩ := hw.kept.old hg
    exact absurd (hb'.symm.trans hn) (by simp)

end Write

/-! ## The standings -/

/-- What a request has been told: nothing yet, the booking to patch, that the row fits, or that it is written. -/
inductive Clearance
  | fresh
  | found (current : LogisticsBooking)
  | cleared (row : LogisticsBooking)
  | wrote (row : LogisticsBooking)

/-- What holds of a request's standing before anything is written. -/
def Knows (db₀ : DB) (k : Uuid) (r : BookingRequest) : Clearance → Prop
  | .fresh => True
  | .found current => current.logisticsId = k ∧ db₀.logisticsBookings.get? r.bookingId = some current
  | .cleared row => r.Granted db₀ row ∧ r.Ready db₀ k row
  | .wrote _ => False

/-- What holds of a request's standing after the other's write: if it is cleared, then by the starting state or by this
one. -/
def Later (db₀ : DB) (k : Uuid) (room : ℚ) (db : DB) (r : BookingRequest) : Clearance → Prop
  | .fresh => True
  | .found current => current.logisticsId = k ∧
    ∃ b, db.logisticsBookings.get? r.bookingId = some b ∧ SameBooking current b
  | .cleared row => r.Ready db k row ∧ (r.Granted db₀ row ∨ bookedBut db k [row.id] + row.quantityQtl ≤ room)
  | .wrote _ => False

/-- Who has written. -/
inductive Stage (db₀ : DB) (k : Uuid) (room : ℚ) (A B : BookingRequest) (db : DB) : Clearance → Clearance → Prop
  | neither {l m : Clearance} (same : db = db₀) (hl : Knows db₀ k A l) (hm : Knows db₀ k B m) :
      Stage db₀ k room A B db l m
  | left {row : LogisticsBooking} {m : Clearance} (granted : A.Granted db₀ row) (stored : A.Storable db₀ row)
      (hw : Writes k db₀ row db) (hm : Later db₀ k room db B m) : Stage db₀ k room A B db (.wrote row) m
  | right {row : LogisticsBooking} {l : Clearance} (granted : B.Granted db₀ row) (stored : B.Storable db₀ row)
      (hw : Writes k db₀ row db) (hl : Later db₀ k room db A l) : Stage db₀ k room A B db l (.wrote row)
  | both {row row' : LogisticsBooking} (fits : activeQuantity db k ≤ room) :
      Stage db₀ k room A B db (.wrote row) (.wrote row')

/-- The calls of a request on option `k`, and how they move its standing. -/
inductive BookTurn (db₀ : DB) (k : Uuid) (room : ℚ) (r : BookingRequest) :
    Clearance → ∀ {ρ : Type}, Op DB ρ → Except HTTPException ρ → Clearance → Prop
  | look {c : Clearance} {ρ : Type} {op : Op DB ρ} {ans : Except HTTPException ρ}
      (h : ∀ (o : RowOrder) db, (exec o jsonForApiError op db).1 = ans → (exec o jsonForApiError op db).2 = db) :
      BookTurn db₀ k room r c op ans c
  | find {p : LogisticsBooking → Bool} {rows : List LogisticsBooking} {current : LogisticsBooking}
      (mem : current ∈ rows) (hid : ∀ b, p b = true → b.id = r.bookingId)
      (hk : ∀ db, r.On k db → db.logisticsBookings.get? r.bookingId = some current → current.logisticsId = k) :
      BookTurn db₀ k room r .fresh (.select logisticsBookings p) (.ok rows) (.found current)
  | clear {c : Clearance} {p : LogisticsBooking → Bool} {rows : List LogisticsBooking} {row : LogisticsBooking}
      (hc : ∀ row, c ≠ .wrote row)
      (granted : ∀ o : RowOrder, rows = o.order (db₀.logisticsBookings.rows.filter p) → Knows db₀ k r c →
        r.Granted db₀ row)
      (fits : ∀ (o : RowOrder) db, rows = o.order (db.logisticsBookings.rows.filter p) →
        bookedBut db k [row.id] + row.quantityQtl ≤ room)
      (ready : ∀ db, Later db₀ k room db r c → r.Ready db k row) :
      BookTurn db₀ k room r c (.select logisticsBookings p) (.ok rows) (.cleared row)
  | write {row : LogisticsBooking} {ρ : Type} {op : Op DB ρ} {rows : ρ}
      (h : ∀ (o : RowOrder) db, (exec o jsonForApiError op db).1 = .ok rows → r.Ready db k row →
        r.Storable db row ∧ Writes k db row (exec o jsonForApiError op db).2) :
      BookTurn db₀ k room r (.cleared row) op (.ok rows) (.wrote row)

section Stage

variable {db₀ db db' : DB} {k : Uuid} {room : ℚ} {A B r : BookingRequest} {l m l' : Clearance}

theorem Stage.symm (h : Stage db₀ k room A B db l m) : Stage db₀ k room B A db m l := by
  cases h with
  | neither same hl hm => exact .neither same hm hl
  | left granted stored hw hm => exact .right granted stored hw hm
  | right granted stored hw hl => exact .left granted stored hw hl
  | both fits => exact .both fits

theorem Ready.step {row : LogisticsBooking} {N : LogisticsBooking → Prop} (h : r.Ready db k row)
    (hkept : Evolves SameBooking N db.logisticsBookings db'.logisticsBookings) : r.Ready db' k row := by
  cases r with
  | create body userId id now => exact h
  | patch bookingId body userId now =>
    obtain ⟨hid, ha, b, hb, hu, hq, hk⟩ := h
    obtain ⟨b', hb', hsame⟩ := hkept.old hb
    exact ⟨hid, ha, b', hb', hsame.1.trans hu, hsame.2.1.trans hq, hsame.2.2.trans hk⟩

/-- What a request knew of the starting state still holds after the other's write. -/
theorem Knows.later {N : LogisticsBooking → Prop} (h : Knows db₀ k r m)
    (hkept : Evolves SameBooking N db₀.logisticsBookings db.logisticsBookings) : Later db₀ k room db r m := by
  cases m with
  | fresh => trivial
  | found current =>
    obtain ⟨b, hb, hsame⟩ := hkept.old h.2
    exact ⟨h.1, b, hb, hsame⟩
  | cleared row => exact ⟨Ready.step h.2 hkept, Or.inl h.1⟩
  | wrote row => exact h

/-- What a grant says of the option: the booking fits in it, itself left out. -/
theorem BookingRequest.Granted.within {option : LogisticsOption} {cap : ℚ} {row : LogisticsBooking}
    (h : r.Granted db row) (hon : r.On k db) (hx : db.logisticsOptions.get? k = some option)
    (hcap : option.capacityQtl = some cap) : bookedBut db k [row.id] + row.quantityQtl ≤ cap + capacitySlack := by
  cases h with
  | create hl mine live hx' active within fits =>
    obtain rfl : _ = k := hon
    obtain rfl := Option.some.inj (hx.symm.trans hx')
    have hf := fits cap hcap
    rw [booked_none, Table.key_of_get? hx] at hf
    exact (add_le_add_left (bookedBut_le _) _).trans hf
  | patch hb mine live hx' active fits =>
    have hk := hon.2 _ hb
    rw [hk, hx] at hx'
    obtain rfl := Option.some.inj hx'
    have hf := fits cap hcap
    rw [Table.key_of_get? hx] at hf
    rw [bookedBut_singleton]
    exact hf

theorem BookingRequest.Granted.ready {row : LogisticsBooking} (h : r.Granted db row) (hon : r.On k db) :
    r.Ready db k row := by
  cases h with
  | create hl mine live hx active within fits => exact ⟨rfl, hon, rfl⟩
  | patch hb mine live hx active fits =>
    exact ⟨Table.key_of_get? hb, hon.1, _, hb, mine, rfl, hon.2 _ hb⟩

end Stage

/-! ## One call -/

/-- Two bookings that are each granted on the starting state fit together. -/
def FitTogether (db : DB) (k : Uuid) (room : ℚ) (A B : BookingRequest) : Prop :=
  ∀ a b, A.Granted db a → B.Granted db b → A.Storable db a → B.Storable db b → a.id ≠ b.id →
    bookedBut db k [a.id, b.id] + a.quantityQtl + b.quantityQtl ≤ room

theorem FitTogether.symm {db : DB} {k : Uuid} {room : ℚ} {A B : BookingRequest} (h : FitTogether db k room A B) :
    FitTogether db k room B A := by
  intro b a hb ha hsb hsa hne
  have hswap : bookedBut db k [b.id, a.id] = bookedBut db k [a.id, b.id] := bookedBut_congr (fun id => by simp [or_comm])
  rw [hswap, add_right_comm]
  exact h a b ha hb hsa hsb hne.symm

/-- What holds of the database and the two standings. -/
def BookInv (db₀ : DB) (k : Uuid) (room : ℚ) (A B : BookingRequest) (db : DB) (l m : Clearance) : Prop :=
  Frame db₀ k A db ∧ Frame db₀ k B db ∧ Stage db₀ k room A B db l m

section Turn

variable {db₀ db db' : DB} {k : Uuid} {cap room : ℚ} {A B r : BookingRequest} {l m l' : Clearance}
  {option : LogisticsOption} {row row' : LogisticsBooking}

/-- **The second write**, cleared by the state it is made on or granted on the starting state. -/
theorem second_fits (ha : A.Granted db₀ row) (hsa : A.Storable db₀ row) (hw : Writes k db₀ row db)
    (hb : B.Granted db₀ row' ∨ bookedBut db k [row'.id] + row'.quantityQtl ≤ room) (hsb : B.Storable db row')
    (hw' : Writes k db row' db') (hroom : B.Granted db₀ row' → bookedBut db₀ k [row'.id] + row'.quantityQtl ≤ room)
    (htog : FitTogether db₀ k room A B) : activeQuantity db' k ≤ room := by
  rw [← bookedBut_nil, hw'.puts []]
  simp only [List.not_mem_nil, if_false]
  rcases hb with hb | hb
  · rw [hw.puts [row'.id]]
    by_cases hid : row.id = row'.id
    · have h := hroom hb
      have hone : bookedBut db₀ k [row.id, row'.id] = bookedBut db₀ k [row'.id] := bookedBut_congr (fun id => by simp [hid])
      rw [hone]
      simpa [hid] using h
    · have h := htog row row' ha hb hsa (Storable.before hw hsb) hid
      simpa [hid] using h
  · exact hb

/-- **What a call of one request keeps.** -/
theorem bookInv_left (hx : db₀.logisticsOptions.get? k = some option) (hcap : option.capacityQtl = some cap)
    (hA : A.On k db₀) (htog : FitTogether db₀ k (cap + capacitySlack) A B) (o : RowOrder) {ρ : Type}
    {op : Op DB ρ} (hturn : BookTurn db₀ k (cap + capacitySlack) A l op (exec o jsonForApiError op db).1 l')
    (h : BookInv db₀ k (cap + capacitySlack) A B db l m) :
    BookInv db₀ k (cap + capacitySlack) A B (exec o jsonForApiError op db).2 l' m := by
  obtain ⟨hfA, hfB, hst⟩ := h
  generalize hans : (exec o jsonForApiError op db).1 = ans at hturn
  cases hturn with
  | look hlook =>
    rw [hlook o db hans]
    exact ⟨hfA, hfB, hst⟩
  | @find p rows current mem hid hk =>
    have hrows : o.order (db.logisticsBookings.rows.filter p) = rows := Except.ok.inj hans
    have hmem := List.mem_filter.1 (o.mem_order.1 (hrows.symm ▸ mem))
    have hget : db.logisticsBookings.get? A.bookingId = some current := by
      rw [← hid current hmem.2]
      exact Table.get?_of_mem hmem.1
    refine ⟨hfA, hfB, ?_⟩
    cases hst with
    | neither same hl hm =>
      subst same
      exact .neither rfl ⟨hk db hfA.on hget, hget⟩ hm
    | right granted stored hw hl =>
      exact .right granted stored hw ⟨hk db hfA.on hget, current, hget, SameBooking.refl current⟩
  | @clear _ p rows row hc granted fits ready =>
    have hrows : rows = o.order (db.logisticsBookings.rows.filter p) := (Except.ok.inj hans).symm
    refine ⟨hfA, hfB, ?_⟩
    cases hst with
    | neither same hl hm =>
      subst same
      have hg := granted o hrows hl
      exact .neither rfl ⟨hg, hg.ready hfA.on⟩ hm
    | left granted stored hw hm => exact absurd rfl (hc _)
    | right granted' stored hw hl => exact .right granted' stored hw ⟨ready db hl, Or.inr (fits o db hrows)⟩
    | both hfits => exact absurd rfl (hc _)
  | @write row _ _ rows hwrite =>
    have hwrote := hwrite o db hans
    cases hst with
    | neither same hl hm =>
      subst same
      obtain ⟨hsa, hw⟩ := hwrote hl.2
      refine ⟨hfA.step hw, hfB.step hw, .left hl.1 hsa hw (hm.later hw.kept)⟩
    | right granted stored hw hl =>
      obtain ⟨hsa, hw'⟩ := hwrote hl.1
      exact ⟨hfA.step hw', hfB.step hw', .both (second_fits granted stored hw hl.2 hsa hw' (fun hg => hg.within hA hx hcap)
        htog.symm)⟩

/-- **Whoever has written, the option is not overbooked.** -/
theorem Stage.fits (h : Stage db₀ k room A B db l m) (hfits : activeQuantity db₀ k ≤ room)
    (hA : ∀ row, A.Granted db₀ row → bookedBut db₀ k [row.id] + row.quantityQtl ≤ room)
    (hB : ∀ row, B.Granted db₀ row → bookedBut db₀ k [row.id] + row.quantityQtl ≤ room) :
    activeQuantity db k ≤ room := by
  cases h with
  | neither same hl hm => exact same ▸ hfits
  | left granted stored hw hm =>
    rw [← bookedBut_nil, hw.puts []]
    simpa using hA _ granted
  | right granted stored hw hl =>
    rw [← bookedBut_nil, hw.puts []]
    simpa using hB _ granted
  | both hfits => exact hfits

end Turn

/-! ## The code -/

section Walk

variable {L M : Type} {inv : DB → L → M → Prop} {db₀ : DB} {k : Uuid} {cap : ℚ} {r : BookingRequest}
  {option : LogisticsOption}

/-- The code of a request, followed from a standing to an assertion on what it returns and its standing then. -/
abbrev BookWalk (inv : DB → L → M → Prop) (db₀ : DB) (k : Uuid) (room : ℚ) (r : BookingRequest) {α : Type}
    (p : Handler α) (c : Clearance) (Q : Except HTTPException α → Clearance → Prop) : Prop :=
  Follows (Duo.Possible answers inv) (BookTurn db₀ k room r) Q p c

/-- The value, if there is one, is as `I` says, and the standing has not moved. -/
def reads {α : Type} (I : α → Prop) (c : Clearance) (x : Except HTTPException α) (c' : Clearance) : Prop :=
  ∀ a, x = .ok a → c' = c ∧ I a

theorem walk_select {ρ κ : Type} {key : ρ → κ} {check : ρ → Bool} {t : Tab DB key check} {p : ρ → Bool}
    {room : ℚ} {c : Clearance} (hinv : ∀ s l m, inv s l m → Frame db₀ k r s)
    (ht : ∀ s, Frame db₀ k r s → t.get s = t.get db₀) :
    BookWalk inv db₀ k room r (select t p) c (returns fun rows c' =>
      c' = c ∧ ∃ o : RowOrder, rows = o.order ((t.get db₀).rows.filter p)) := by
  refine Follows.perform fun ans hans => ?_
  obtain ⟨o, s, l, m, h, rfl⟩ := hans
  refine ⟨c, .look (fun _ _ _ => rfl), rfl, o, ?_⟩
  rw [← ht s (hinv s l m h)]

theorem ownLot_walk {room : ℚ} {lotId userId : Uuid} (hinv : ∀ s l m, inv s l m → Frame db₀ k r s) :
    BookWalk inv db₀ k room r (ownLot lotId userId) .fresh (reads (fun lot =>
      db₀.lots.get? lotId = some lot ∧ lot.isOf userId ∧ ¬ (lot.status = .withdrawn ∨ lot.status = .sold)) .fresh) := by
  refine Follows.bind_returns (walk_select hinv (fun s h => h.lots)) ?_
  rintro rows _ ⟨rfl, o, rfl⟩
  rw [o.order_filter_key, show lots.get db₀ = db₀.lots from rfl]
  cases hl : db₀.lots.get? lotId with
  | none => exact fun _ h => by cases h
  | some lot =>
    show Follows _ _ _ (if ¬ lot.isOf userId then _ else if _ then _ else _) _
    by_cases hu : lot.isOf userId
    · rw [if_neg (not_not.2 hu)]
      by_cases hs : lot.status = .withdrawn ∨ lot.status = .sold
      · rw [if_pos hs]
        exact fun _ h => by cases h
      · rw [if_neg hs]
        exact fun _ h => by cases h; exact ⟨rfl, rfl, hu, hs⟩
    · rw [if_pos hu]
      exact fun _ h => by cases h

theorem activeOption_walk {room : ℚ} {logisticsId : Uuid} {c : Clearance}
    (hinv : ∀ s l m, inv s l m → Frame db₀ k r s) :
    BookWalk inv db₀ k room r (activeOption logisticsId) c (reads (fun option =>
      db₀.logisticsOptions.get? logisticsId = some option ∧ option.isActive = true) c) := by
  refine Follows.bind_returns (walk_select hinv (fun s h => h.options)) ?_
  rintro rows _ ⟨rfl, o, rfl⟩
  simp only [Bool.decide_and, o.order_filter_key_and, Bool.decide_eq_true]
  rw [show logisticsOptions.get db₀ = db₀.logisticsOptions from rfl]
  cases hx : db₀.logisticsOptions.get? logisticsId with
  | none => exact fun _ h => by cases h
  | some option =>
    by_cases ha : option.isActive = true
    · simp only [Option.filter, ha, if_true]
      exact fun _ h => by cases h; exact ⟨rfl, rfl, ha⟩
    · simp only [Option.filter, ha]
      exact fun _ h => by cases h

/-- **The reading of the sum clears the row**, if the code goes on. -/
theorem assertCapacity_walk {c : Clearance} {row : LogisticsBooking} {excludeId : Option Uuid}
    (hid : option.id = k) (hcap : option.capacityQtl = some cap) (hc : ∀ row, c ≠ .wrote row)
    (hgranted : Knows db₀ k r c → Fits db₀ option row.quantityQtl excludeId → r.Granted db₀ row)
    (hbut : ∀ db, bookedBut db k [row.id] ≤ booked db k excludeId)
    (hready : ∀ db, Later db₀ k (cap + capacitySlack) db r c → r.Ready db k row) :
    BookWalk inv db₀ k (cap + capacitySlack) r (assertCapacity option row.quantityQtl excludeId) c
      (fun ans c' => ans = .ok () → c' = .cleared row) := by
  unfold assertCapacity
  rw [hcap]
  intro ans hans
  obtain ⟨o, s, l, m, -, rfl⟩ := hans
  let rows := o.order (s.logisticsBookings.rows.filter (fun b => b.logisticsId = option.id))
  show ∃ c', BookTurn db₀ k (cap + capacitySlack) r c (.select logisticsBookings _) (.ok rows) c' ∧
    Follows _ _ _ (if cap + capacitySlack < sumQuantity (rows.filter _) + row.quantityQtl then throw _ else pure ()) c'
  by_cases hle : cap + capacitySlack < sumQuantity (rows.filter
      (fun b => excludeId ≠ some b.id ∧ b.status.isActive)) + row.quantityQtl
  · rw [if_pos hle]
    exact ⟨c, .look (fun _ _ _ => rfl), fun h => by cases h⟩
  · rw [if_neg hle]
    have hsum : ∀ (o' : RowOrder) (db : DB), rows = o'.order (db.logisticsBookings.rows.filter
        (fun b => b.logisticsId = option.id)) → booked db k excludeId + row.quantityQtl ≤ cap + capacitySlack := by
      intro o' db hrows
      rw [← hid, ← sumQuantity_order o', ← hrows]
      exact not_lt.1 hle
    refine ⟨.cleared row, .clear hc (fun o' hrows hk => hgranted hk (fun cap' hcap' => ?_)) (fun o' db hrows => ?_)
      hready, fun _ => rfl⟩
    · obtain rfl := Option.some.inj (hcap.symm.trans hcap')
      rw [hid]
      exact hsum o' db₀ hrows
    · exact (add_le_add_left (hbut db) _).trans (hsum o' db hrows)

theorem createChecks_walk {body : LogisticsBookCreate} {userId id : Uuid} {now : Time}
    (hinv : ∀ s l m, inv s l m → Frame db₀ k (.create body userId id now) s)
    (hon : (BookingRequest.create body userId id now).On k db₀) (hx : db₀.logisticsOptions.get? k = some option)
    (hcap : option.capacityQtl = some cap) : BookWalk inv db₀ k (cap + capacitySlack) (.create body userId id now)
      (BookingRequest.create body userId id now).checks .fresh (fun ans c => ∀ row, ans = .ok row → c = .cleared row) := by
  have hid : option.id = k := Table.key_of_get? hx
  obtain rfl : body.logisticsId = k := hon
  refine Follows.bind (fun lot c hlot => ?_) (fun _ _ _ => fun _ h => by cases h) (ownLot_walk hinv)
  obtain ⟨rfl, hl, hu, hs⟩ := hlot lot rfl
  refine Follows.bind (fun option' c hopt => ?_) (fun _ _ _ => fun _ h => by cases h) (activeOption_walk hinv)
  obtain ⟨rfl, hx', ha⟩ := hopt option' rfl
  obtain rfl := Option.some.inj (hx.symm.trans hx')
  by_cases hq : lot.quantityQtl + capacitySlack < body.quantityQtl.getD lot.quantityQtl
  · simp only [hq, if_true]
    exact fun _ h => by cases h
  · simp only [hq, if_false]
    let row := bookingRow body userId id now lot option
    have hclear : BookWalk inv db₀ body.logisticsId (cap + capacitySlack) (.create body userId id now)
        (assertCapacity option row.quantityQtl none) .fresh (fun ans c => ans = .ok () → c = .cleared row) := by
      refine assertCapacity_walk hid hcap (fun _ => Clearance.noConfusion) (fun _ hf => ?_) (fun db => ?_)
        (fun _ _ => ⟨rfl, rfl, rfl⟩)
      · exact .create hl hu hs hx ha (not_lt.1 hq) hf
      · rw [booked_none]
        exact bookedBut_le _
    refine Follows.bind (fun _ c hc => ?_) (fun _ _ _ => fun _ h => by cases h) hclear
    exact fun row h => by cases h; exact hc rfl

theorem patchChecks_walk {bookingId : Uuid} {body : LogisticsBookUpdate} {userId : Uuid} {now : Time}
    (hinv : ∀ s l m, inv s l m → Frame db₀ k (.patch bookingId body userId now) s)
    (hon : (BookingRequest.patch bookingId body userId now).On k db₀) (hx : db₀.logisticsOptions.get? k = some option)
    (hcap : option.capacityQtl = some cap) : BookWalk inv db₀ k (cap + capacitySlack) (.patch bookingId body userId now)
      (BookingRequest.patch bookingId body userId now).checks .fresh
        (fun ans c => ∀ row, ans = .ok row → c = .cleared row) := by
  have hid : option.id = k := Table.key_of_get? hx
  intro ans hans
  obtain ⟨o, s, l, m, h, rfl⟩ := hans
  have hfr := hinv s l m h
  let p : LogisticsBooking → Bool := fun b => b.id = bookingId ∧ b.userId = userId
  show ∃ c, BookTurn db₀ k _ (.patch bookingId body userId now) .fresh (.select logisticsBookings p)
    (.ok (o.order (s.logisticsBookings.rows.filter p))) c ∧ Follows _ _ _
      (match o.order (s.logisticsBookings.rows.filter p) with | [] => _ | current :: _ => _) c
  generalize hrows : o.order (s.logisticsBookings.rows.filter p) = rows
  cases rows with
  | nil => exact ⟨.fresh, .look (fun _ _ _ => rfl), fun _ h => by cases h⟩
  | cons current rest =>
    have hmem : current ∈ s.logisticsBookings.rows.filter p := o.mem_order.1 (hrows ▸ List.mem_cons_self)
    obtain ⟨hin, hp⟩ := List.mem_filter.1 hmem
    obtain ⟨hbid, hu⟩ : current.id = bookingId ∧ current.userId = userId := of_decide_eq_true hp
    have hk : current.logisticsId = k := hfr.on.2 current (by rw [← hbid]; exact Table.get?_of_mem hin)
    refine ⟨.found current, .find List.mem_cons_self (fun b hb => (of_decide_eq_true hb).1)
      (fun db hdb hb => hdb.2 current hb), ?_⟩
    show Follows _ _ _ (if current.status = .completed ∧ body.status ≠ .completed then _ else _) _
    by_cases hc : current.status = .completed ∧ body.status ≠ .completed
    · rw [if_pos hc]
      exact fun _ h => by cases h
    · rw [if_neg hc]
      have hreact : BookWalk inv db₀ k (cap + capacitySlack) (.patch bookingId body userId now)
          (assertReactivation current body.status) (.found current) (fun ans c => ans = .ok () → c = .cleared current) := by
        unfold assertReactivation
        rw [if_pos hon.1]
        refine Follows.bind (fun option' c hopt => ?_) (fun _ _ _ => fun h => by cases h) (activeOption_walk hinv)
        obtain ⟨rfl, hx', ha⟩ := hopt option' rfl
        obtain rfl := Option.some.inj (hx.symm.trans (hk ▸ hx'))
        refine assertCapacity_walk hid hcap (fun _ => Clearance.noConfusion) (fun hknows hf => ?_) (fun db => ?_) ?_
        · exact .patch hknows.2 hu hc hx' ha hf
        · rw [bookedBut_singleton]
        · rintro db ⟨-, b, hb, hsame⟩
          exact ⟨hbid, hon.1, b, hb, hsame.1.trans hu, hsame.2.1, hsame.2.2.trans hk⟩
      refine Follows.bind (fun _ c hc => ?_) (fun _ _ _ => fun _ h => by cases h) hreact
      exact fun row h => by cases h; exact hc rfl

theorem checks_walk (hinv : ∀ s l m, inv s l m → Frame db₀ k r s) (hon : r.On k db₀)
    (hx : db₀.logisticsOptions.get? k = some option) (hcap : option.capacityQtl = some cap) :
    BookWalk inv db₀ k (cap + capacitySlack) r r.checks .fresh (fun ans c => ∀ row, ans = .ok row → c = .cleared row) := by
  cases r with
  | create body userId id now => exact createChecks_walk hinv hon hx hcap
  | patch bookingId body userId now => exact patchChecks_walk hinv hon hx hcap

theorem write_walk {room : ℚ} (row : LogisticsBooking) :
    BookWalk inv db₀ k room r (r.write row) (.cleared row) (fun _ _ => True) := by
  cases r with
  | create body userId id now =>
    refine Follows.bind (Q := fun _ _ => True) (fun rows c _ => ?_) (fun _ _ _ => trivial)
      (Follows.perform fun ans hans => ?_)
    · cases rows <;> exact trivial
    · cases ans with
      | ok rows =>
        refine ⟨.wrote row, .write (fun o db hok hready => ?_), trivial⟩
        change (insertAnswer jsonForApiError db row (logisticsBookings.insert? db row)).1 = _ at hok
        cases hi : logisticsBookings.insert? db row with
        | error e =>
          rw [hi] at hok
          cases hok
        | ok db' =>
          refine ⟨⟨db', hi⟩, ?_⟩
          show Writes k db row (insertAnswer jsonForApiError db row (logisticsBookings.insert? db row)).2
          rw [hi]
          exact writes_insert hi hready.2.1 hready.2.2
      | error e =>
        refine ⟨.cleared row, .look (fun o db herr => ?_), trivial⟩
        change (insertAnswer jsonForApiError db row (logisticsBookings.insert? db row)).1 = _ at herr
        show (insertAnswer jsonForApiError db row (logisticsBookings.insert? db row)).2 = db
        cases hi : logisticsBookings.insert? db row with
        | error e => rfl
        | ok db' =>
          rw [hi] at herr
          cases herr
  | patch bookingId body userId now =>
    refine Follows.bind (Q := fun _ _ => True) (fun rows c _ => ?_) (fun _ _ _ => trivial)
      (Follows.perform fun ans hans => ?_)
    · cases rows <;> exact trivial
    · obtain ⟨o, s, l, m, -, rfl⟩ := hans
      refine ⟨.wrote row, .write (fun o db _ hready => ?_), trivial⟩
      obtain ⟨rfl, ha, b, hb, hu, hq, hk⟩ := hready
      refine ⟨trivial, ?_⟩
      have hw := handle_update_own (o := o) (t := logisticsBookings) (f := LogisticsBooking.setStatus body.status now)
        (q := fun b => b.userId = userId) hb hu
      have hw' := congrArg Prod.snd hw
      rw [handle_update] at hw'
      show Writes k db row (logisticsBookings.set db _)
      rw [show logisticsBookings.set db _ = _ from hw']
      exact writes_patch hb hq hk ha

theorem code_walk (hinv : ∀ s l m, inv s l m → Frame db₀ k r s) (hon : r.On k db₀)
    (hx : db₀.logisticsOptions.get? k = some option) (hcap : option.capacityQtl = some cap) :
    BookWalk inv db₀ k (cap + capacitySlack) r r.code .fresh (fun _ _ => True) := by
  rw [BookingRequest.code_eq]
  refine Follows.bind (fun row c hrow => ?_) (fun _ _ _ => trivial) (checks_walk hinv hon hx hcap)
  rw [hrow row rfl]
  exact write_walk row

end Walk

/-! ## A request on its own -/

section Alone

variable {db : DB} {r : BookingRequest} {row : LogisticsBooking}

theorem handle_assertCapacity_fits (o : RowOrder) {option : LogisticsOption} {extraQty : ℚ} {excludeId : Option Uuid}
    (h : Fits db option extraQty excludeId) : handle o (assertCapacity option extraQty excludeId) db = (.ok (), db) := by
  unfold assertCapacity
  cases hcap : option.capacityQtl with
  | none => rfl
  | some cap =>
    have hle := h cap hcap
    simp only [handle_bind, handle_bookedQuantity, Prog.onOk_ok, handle_ite, if_neg (not_lt.2 hle), handle_pure]

theorem handle_activeOption_active (o : RowOrder) {k : Uuid} {option : LogisticsOption}
    (hx : db.logisticsOptions.get? k = some option) (ha : option.isActive = true) :
    handle o (activeOption k) db = (.ok option, db) := by
  unfold activeOption
  rw [handle_bind, handle_select_own (t := logisticsOptions) hx ha]
  rfl

/-- On a database that grants the request its checks return the row. -/
theorem BookingRequest.Granted.handle_checks (o : RowOrder) (h : r.Granted db row) :
    handle o r.checks db = (.ok row, db) := by
  cases h with
  | @create body userId id now lot option hl mine live hx active within fits =>
    have hown : handle o (ownLot body.lotId userId) db = (.ok lot, db) := by
      unfold ownLot
      rw [handle_bind, handle_select_key, show (lots.get db).get? body.lotId = some lot from hl]
      simp only [Option.toList_some, Prog.onOk_ok, if_neg (not_not.2 mine), if_neg live, handle_pure]
    unfold BookingRequest.checks
    simp only [handle_bind, hown, Prog.onOk_ok, handle_activeOption_active o hx active, handle_ite,
      if_neg (not_lt.2 within), handle_assertCapacity_fits o fits, handle_pure]
  | @patch bookingId body userId now _ option hb mine live hx active fits =>
    have hreact : handle o (assertReactivation row body.status) db = (.ok (), db) := by
      unfold assertReactivation
      by_cases hs : body.status.isActive = true
      · rw [if_pos hs, handle_bind, handle_activeOption_active o hx active, Prog.onOk_ok]
        exact handle_assertCapacity_fits o fits
      · rw [if_neg hs]
        rfl
    unfold BookingRequest.checks
    rw [handle_bind, handle_select_own (t := logisticsBookings) hb mine, Prog.onOk_ok]
    simp only [if_neg live, handle_bind, hreact, Prog.onOk_ok, handle_pure]

end Alone

/-! ## Two requests at once -/

/-- **Two bookings of an option at once keep it within its capacity**, however their calls are interleaved, **exactly when
any two rows that the starting state grants them fit together.** -/
theorem concurrent_bookings_iff (db : DB) (k : Uuid) (option : LogisticsOption) (cap : ℚ) (A B : BookingRequest)
    (hx : db.logisticsOptions.get? k = some option) (hcap : option.capacityQtl = some cap)
    (hfits : activeQuantity db k ≤ cap + capacitySlack) (hA : A.On k db) (hB : B.On k db) :
    (∀ ms : List (Move RowOrder), (after (Duo.step answers) ⟨db, A.code, B.code⟩ ms).Ended →
        activeQuantity (after (Duo.step answers) ⟨db, A.code, B.code⟩ ms).state k ≤ cap + capacitySlack)
      ↔ FitTogether db k (cap + capacitySlack) A B := by
  constructor
  · intro h a b ha hb hsa hsb hne
    have hcheck : ∀ {r : BookingRequest} {row : LogisticsBooking}, r.Granted db row →
        r.checks.run (answers .asStored) db = (.ok row, db) := fun hr => hr.handle_checks .asStored
    obtain ⟨ms, hend, hstate⟩ := Duo.exists_overlap answers .asStored (f := A.write) (g := B.write) (hcheck ha)
      (hcheck hb)
    rw [← BookingRequest.code_eq, ← BookingRequest.code_eq] at hend hstate
    have hle := h ms hend
    obtain ⟨db₁, hdb₁, hwA⟩ := handle_write .asStored (ha.ready hA) hsa
    have hsb₁ : B.Storable db₁ b := by
      refine storable_of hwA.users hwA.lots hwA.options hwA.columns hsb (fun hn => ?_)
      cases hg : db₁.logisticsBookings.get? b.id with
      | none => rfl
      | some b₁ =>
        rcases hwA.kept.new hg with ⟨b₀, hb₀, -⟩ | ⟨-, hid, -⟩
        · exact absurd (hb₀.symm.trans hn) (by simp)
        · exact absurd (hid.symm.trans (Table.key_of_get? hg)) hne
    obtain ⟨db₂, hdb₂, hwB⟩ := handle_write .asStored (Ready.step (hb.ready hB) hwA.kept) hsb₁
    have hfinal : (after (Duo.step answers) ⟨db, A.code, B.code⟩ ms).state = db₂ := by
      rw [hstate, ← hdb₂, ← hdb₁]
      rfl
    rw [hfinal, ← bookedBut_nil, hwB.puts [], hwA.puts [b.id]] at hle
    simpa [hne] using hle
  · intro htog ms _
    have hkeep : Duo.Leads answers (BookTurn db k (cap + capacitySlack) A) (BookTurn db k (cap + capacitySlack) B)
        (BookInv db k (cap + capacitySlack) A B) (fun _ _ => True) (fun _ _ => True)
        (BookInv db k (cap + capacitySlack) A B) := by
      refine ⟨fun hturn hinv _ => ?_, fun hturn hinv _ => ?_⟩
      · exact bookInv_left hx hcap hA htog _ hturn hinv
      · obtain ⟨hfA, hfB, hst⟩ := hinv
        obtain ⟨hfB', hfA', hst'⟩ := bookInv_left hx hcap hB htog.symm _ hturn ⟨hfB, hfA, hst.symm⟩
        exact ⟨hfA', hfB', hst'.symm⟩
    have hframe : ∀ r : BookingRequest, r.On k db → Frame db k r db := fun r hr =>
      ⟨rfl, rfl, rfl, rfl, Evolves.refl SameBooking.refl _, hr⟩
    have hstart : Duo.Holds answers (BookInv db k (cap + capacitySlack) A B) (BookTurn db k (cap + capacitySlack) A)
        (BookTurn db k (cap + capacitySlack) B) (fun _ _ => True) (fun _ _ => True) (BookInv db k (cap + capacitySlack) A B)
        ⟨db, A.code, B.code⟩ :=
      ⟨.fresh, .fresh, code_walk (fun _ _ _ h => h.1) hA hx hcap, code_walk (fun _ _ _ h => h.2.1) hB hx hcap,
        hframe A hA, hframe B hB, .neither rfl trivial trivial⟩
    obtain ⟨l, m, -, -, -, -, hst⟩ := Duo.after_holds (fun _ _ _ h => h) hkeep ms _ hstart
    exact hst.fits hfits (fun _ hr => hr.within hA hx hcap) (fun _ hr => hr.within hB hx hcap)

/-- Farmers 1 and 2 each have a lot and a cancelled booking for it at a godown with room for 100, on the tables as the
migrations leave them. -/
def cancelledBookings (qty₁ qty₂ : ℚ) (h₁ : 0 < qty₁) (h₂ : 0 < qty₂) : DB :=
  let booking (id userId lotId : Uuid) (qty : ℚ) : LogisticsBooking :=
    ⟨id, userId, lotId, 1, .storage, qty, .cancelled, none, none, 0, 0⟩
  { after step firstDay [.of 1 11 0 (.createLot (onionLot 60 (by decide) (by decide))),
      .of 2 12 0 (.createLot (onionLot 60 (by decide) (by decide)))] with
    logisticsBookings := ⟨[booking 41 1 11 qty₁, booking 42 2 12 qty₂], by simp [booking], by
      simpa [booking, LogisticsBooking.check] using ⟨h₁, h₂⟩⟩ }

/-- Each farmer asks for his own booking again. -/
def bookAgain (bookingId userId : Uuid) : BookingRequest := .patch bookingId ⟨.requested⟩ userId 5

/-- Both requests read the empty godown, and then both write. -/
def bothReadFirst : List (Move RowOrder) :=
  List.replicate 3 (.left .asStored) ++ List.replicate 3 (.right .asStored) ++ [.left .asStored, .right .asStored]

/-- With 10 quintals in place of the second 60 the same order of the calls books no more than there is room for. -/
theorem concurrent_bookings_together :
    activeQuantity (after (Duo.step answers) ⟨cancelledBookings 60 10 (by decide) (by decide), (bookAgain 41 1).code,
      (bookAgain 42 2).code⟩ bothReadFirst).state 1 ≤ 100 + capacitySlack := by
  let db := cancelledBookings 60 10 (by decide) (by decide)
  have h1 : (db.logisticsOptions.get? 1).bind (·.capacityQtl) = some 100 := by decide +kernel
  obtain ⟨option, hx, hcap⟩ := Option.bind_eq_some_iff.1 h1
  have h41 : db.logisticsBookings.get? 41 = some ⟨41, 1, 11, 1, .storage, 60, .cancelled, none, none, 0, 0⟩ := rfl
  have h42 : db.logisticsBookings.get? 42 = some ⟨42, 2, 12, 1, .storage, 10, .cancelled, none, none, 0, 0⟩ := rfl
  have h0 : bookedBut db 1 [41, 42] = 0 := by decide +kernel
  refine (concurrent_bookings_iff db 1 option 100 (bookAgain 41 1) (bookAgain 42 2) hx hcap (by decide +kernel)
    ⟨rfl, fun b hb => ?_⟩ ⟨rfl, fun b hb => ?_⟩).2 ?_ bothReadFirst (by decide +kernel)
  · exact congrArg LogisticsBooking.logisticsId (Option.some.inj (hb.symm.trans h41))
  · exact congrArg LogisticsBooking.logisticsId (Option.some.inj (hb.symm.trans h42))
  · intro a b ha hb _ _ _
    cases ha with
    | patch ha _ _ _ _ _ =>
      cases hb with
      | patch hb _ _ _ _ _ =>
        obtain rfl := Option.some.inj (ha.symm.trans h41)
        obtain rfl := Option.some.inj (hb.symm.trans h42)
        rw [h0]
        decide +kernel

theorem overbooked :
    let db := cancelledBookings 60 60 (by decide) (by decide)
    let both : Duo (Op DB) HTTPException DB LogisticsBooking LogisticsBooking :=
      ⟨db, (bookAgain 41 1).code, (bookAgain 42 2).code⟩
    (db.logisticsOptions.get? 1).bind (·.capacityQtl) = some 100 ∧ activeQuantity db 1 ≤ 100 ∧
      (after (Duo.step answers) both bothReadFirst).Ended ∧
      activeQuantity (after (Duo.step answers) both bothReadFirst).state 1 = 120 := by
  decide +kernel

end Krishi
