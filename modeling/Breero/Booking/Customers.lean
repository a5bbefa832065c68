import Breero.Booking.Holds
import Breero.Jobs.Transitions

/-!
What a customer does to a booking of theirs: `cancel_booking` and `reschedule_booking`.
-/

namespace Breero.Bookings
open KeyedTable Transaction

/-- The booking of the signed-in customer. -/
def ownedBooking (db : Db) (userId bookingId : Uuid) : Except Raised Booking := do
  let customer ← db.customerFor userId
  orRaise ((db.bookings.get? bookingId).filter (·.customerId = customer.id))
    (.httpException 404 "Booking not found")

/-- A held hold of the booking, released; another one as it is. -/
def holdReleased (bookingId : Uuid) (kept : Option Uuid) (now : Instant)
    (hold : BookingCapacityHold) : BookingCapacityHold :=
  if hold.bookingId = some bookingId ∧ some hold.id ≠ kept ∧ hold.status = .held then
    { hold with status := .released, releasedAt := some now }
  else hold

def releaseHolds (db : Db) (bookingId : Uuid) (kept : Option Uuid) (now : Instant) : Db :=
  { db with
    holds := db.holds.update (holdReleased bookingId kept now)
      (fun hold => by unfold holdReleased; split <;> rfl) }

def cancellable : List BookingStatus :=
  [.requested, .pendingReview, .capacityHeld, .awaitingAssignment, .pendingManualDispatch,
   .providerAssigned, .pendingPayment, .pendingProviderConfirmation, .confirmed]

/-- The job of a cancelled booking, cancelled with it. -/
def cancelJob (db : Db) (bookingId userId : Uuid) (now : Instant) : Except Raised Db :=
  match db.jobOfBooking bookingId with
  | none => return db
  | some job => do
    require (job.status ∈ [.created, .matching, .offered])
      (.httpException 409 "Booking can no longer be cancelled online")
    let (db, _, _) ← Jobs.applyTransition db job .cancelled (some userId) "customer"
      (some "customer_cancelled_booking") [] now
    return db

/-- `cancel_booking`. -/
def cancelBooking (db : Db) (userId bookingId : Uuid) (now : Instant) :
    Except Raised (Db × Booking) := do
  let booking ← ownedBooking db userId bookingId
  if booking.status = .cancelled then
    return (db, booking)
  else do
    require (booking.status ∈ cancellable)
      (.httpException 409 "Booking cannot be cancelled in its current state")
    let db ← cancelJob db booking.id userId now
    let cancelled := { booking with status := .cancelled, guestConfirmationRevokedAt := some now }
    let db := releaseHolds { db with bookings := db.bookings.put cancelled } booking.id none now
    return (db.audit {
      actorId := some userId
      actorType := "customer"
      action := "booking.cancel"
      resourceType := "booking"
      resourceId := booking.id
      metadata := [("from_status", .str booking.status.value), ("refund_automatic", .bool false)]
      createdAt := now }, cancelled)

def reschedulable : List BookingStatus :=
  [.requested, .pendingManualDispatch, .providerAssigned, .confirmed]

/-- The hold is one that the booking may be moved to. -/
def validHold (settings : Settings) (booking : Booking) (hold : BookingCapacityHold)
    (bookingSession : String) (now : Instant) : Except Raised Unit := do
  let fingerprint ← ownerFingerprint settings bookingSession
  require (hold.ownerFingerprintHash = fingerprint ∧ hold.status = .held ∧
      now < hold.expiresAt ∧ hold.serviceId = booking.serviceId ∧
      hold.addressId = booking.addressId)
    (.httpException 409 "A valid hold for this booking is required")

theorem validHold_ok {settings : Settings} {booking : Booking} {hold : BookingCapacityHold}
    {bookingSession : String} {now : Instant} {v : Unit}
    (h : validHold settings booking hold bookingSession now = .ok v) :
    hold.status = .held ∧ now < hold.expiresAt := by
  simp only [validHold, seq_committed, require_committed] at h
  obtain ⟨_, _, _, hheld, hopen, _⟩ := h
  exact ⟨hheld, hopen⟩

/-- The booking in the window of the hold. Its job, if it has one, is left as it is. -/
def rescheduled (booking : Booking) (hold : BookingCapacityHold) : Booking :=
  { booking with
    windowStart := hold.slotStartUtc
    windowEnd := hold.slotEndUtc
    serviceTimezoneId := hold.timezoneId
    providerWorkerId := none
    status := .pendingManualDispatch }

/-! ### `reschedule_booking`

The transaction keeps the rows of the booking and of the hold locked from its checks to
its commit. -/

/-- `reschedule_booking` up to its last check. -/
def beginReschedule (settings : Settings) (db : Db) (userId bookingId holdId : Uuid)
    (bookingSession : String) (now : Instant) : Except Raised (Booking × BookingCapacityHold) := do
  let booking ← ownedBooking db userId bookingId
  require (booking.status ∈ reschedulable)
    (.httpException 409 "Booking cannot be rescheduled in its current state")
  let hold ← orRaise (db.holds.get? holdId)
    (.httpException 409 "A valid hold for this booking is required")
  validHold settings booking hold bookingSession now
  return (booking, hold)

theorem beginReschedule_ok {settings : Settings} {db : Db} {userId bookingId holdId : Uuid}
    {bookingSession : String} {now : Instant} {booking : Booking} {hold : BookingCapacityHold}
    (h : beginReschedule settings db userId bookingId holdId bookingSession now =
      .ok (booking, hold)) :
    ownedBooking db userId bookingId = .ok booking ∧ booking.status ∈ reschedulable ∧
      db.holds.get? holdId = some hold ∧ hold.status = .held ∧ now < hold.expiresAt := by
  simp only [beginReschedule, seq_committed, orRaise_committed, require_committed,
    return_committed, Prod.mk.injEq] at h
  obtain ⟨_, howned, _, hstatus, _, hget, _, hvalid, rfl, rfl⟩ := h
  exact ⟨howned, hstatus, hget, validHold_ok hvalid⟩

/-- `reschedule_booking` after its last check, which was made at the time `now`. -/
def finishReschedule (db : Db) (userId : Uuid) (booking : Booking) (hold : BookingCapacityHold)
    (now : Instant) : Db × Booking :=
  let db := releaseHolds db booking.id (some hold.id) now
  let moved := rescheduled booking hold
  let converted := { hold with
    bookingId := some booking.id, status := .converted, convertedAt := some now }
  ({ db with
      bookings := db.bookings.put moved
      holds := db.holds.put converted }.audit {
    actorId := some userId
    actorType := "customer"
    action := "booking.rescheduled"
    resourceType := "booking"
    resourceId := booking.id
    metadata := [
      ("previous.start", .int booking.windowStart),
      ("previous.end", .int booking.windowEnd),
      ("new_start", .int moved.windowStart),
      ("timezone_id", .str moved.serviceTimezoneId)]
    createdAt := now }, moved)

/-- `reschedule_booking`, with nothing committed by others in between. -/
def rescheduleBooking (settings : Settings) (db : Db) (userId bookingId holdId : Uuid)
    (bookingSession : String) (now : Instant) : Except Raised (Db × Booking) := do
  let (booking, hold) ← beginReschedule settings db userId bookingId holdId bookingSession now
  return finishReschedule db userId booking hold now

/-- What is checked, and what is written. -/
theorem rescheduleBooking_ok {settings : Settings} {db db' : Db} {userId bookingId holdId : Uuid}
    {bookingSession : String} {now : Instant} {moved : Booking}
    (h : rescheduleBooking settings db userId bookingId holdId bookingSession now =
      .ok (db', moved)) :
    ∃ booking hold, ownedBooking db userId bookingId = .ok booking ∧
      booking.status ∈ reschedulable ∧ db.holds.get? holdId = some hold ∧
      hold.status = .held ∧ finishReschedule db userId booking hold now = (db', moved) := by
  simp only [rescheduleBooking, seq_committed, return_committed, Prod.exists] at h
  obtain ⟨booking, hold, hbegun, hwritten⟩ := h
  obtain ⟨howned, hstatus, hget, hheld, _⟩ := beginReschedule_ok hbegun
  exact ⟨booking, hold, howned, hstatus, hget, hheld, hwritten⟩

end Breero.Bookings
