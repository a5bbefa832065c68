import Breero.Db

/-!
The declared lifecycle of a booking, and the worker that expires the bookings nobody
confirmed in time.
-/

namespace Breero.Bookings
open KeyedTable Transaction

/-- `ALLOWED_TRANSITIONS`; a status without a row has no edges. -/
def allowedTransitions : BookingStatus → List BookingStatus
  | .draft => [.requested, .expired]
  | .requested => [.pendingReview, .addressValidated, .cancelled]
  | .pendingReview => [.addressValidated, .noCoverage, .cancelled]
  | .addressValidated => [.coverageConfirmed, .noCoverage, .cancelled]
  | .coverageConfirmed => [.availabilityFound, .noCapacity, .quoteRequired, .cancelled]
  | .availabilityFound => [.capacityHeld, .noCapacity, .cancelled]
  | .capacityHeld => [.awaitingAssignment, .pendingManualDispatch, .expired, .cancelled]
  | .awaitingAssignment => [.providerAssigned, .noCapacity, .cancelled]
  | .pendingManualDispatch => [.providerAssigned, .confirmed, .noCapacity, .cancelled]
  | .providerAssigned => [.confirmed, .providerDeclined, .reassignmentRequired, .cancelled]
  | .providerDeclined => [.reassignmentRequired, .cancelled]
  | .reassignmentRequired => [.providerAssigned, .noCapacity, .cancelled]
  | .confirmed => [.enRoute, .rescheduled, .reassignmentRequired, .cancelled]
  | .rescheduled => [.capacityHeld, .awaitingAssignment, .pendingManualDispatch, .cancelled]
  | .enRoute => [.inProgress, .cancelled]
  | .inProgress => [.completed]
  | _ => []

def ensureTransition (current target : BookingStatus) : Except Raised Unit :=
  require (target ∈ allowedTransitions current)
    (.domainError "INVALID_STATE_TRANSITION"
      ("Booking cannot move from " ++ current.value ++ " to " ++ target.value) 409)

/-- `CAPACITY_HOLDING_STATUSES` -/
def capacityHoldingStatuses : List BookingStatus := [.tentativeHold, .pendingProviderConfirmation]

/-- `EXPIRING_BOOKING_STATUSES` -/
def expiringBookingStatuses : List BookingStatus := capacityHoldingStatuses ++ [.pendingPayment]

/-- A booking that `expire_booking_holds` selects. -/
def Expiring (now : Instant) (booking : Booking) : Prop :=
  booking.status ∈ expiringBookingStatuses ∧ booking.expiresAt ≤ now

instance (now : Instant) : DecidablePred (Expiring now) :=
  fun _ => inferInstanceAs (Decidable (_ ∧ _))

def expiredBooking (now : Instant) (skipped : List Uuid) (booking : Booking) : Booking :=
  if Expiring now booking ∧ booking.id ∉ skipped then { booking with status := .expired }
  else booking

/-- `expire_booking_holds`. Bookings whose rows others have locked are skipped. -/
def expireBookingHolds (db : Db) (now : Instant) (skipped : List Uuid) : Db :=
  { db with
    bookings := db.bookings.update (expiredBooking now skipped)
      (fun booking => by unfold expiredBooking; split <;> rfl) }

/-- The row of a booking after the worker has run. -/
theorem expireBookingHolds_get? {db : Db} {now : Instant} {skipped : List Uuid} {booking : Booking}
    (h : booking ∈ db.bookings.rows) :
    (expireBookingHolds db now skipped).bookings.get? (key booking) =
      some (expiredBooking now skipped booking) := by
  unfold expireBookingHolds
  rw [Table.get?_update, Table.get?_key h]
  rfl

end Breero.Bookings
