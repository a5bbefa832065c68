import Breero.Lib.Table
import Breero.Common.Raised

/-!
Bookings and the capacity holds they are made from.
-/

namespace Breero

inductive BookingStatus
  | draft
  | requested
  | pendingReview
  | addressValidated
  | coverageConfirmed
  | availabilityFound
  | capacityHeld
  | awaitingAssignment
  | providerAssigned
  | pendingManualDispatch
  | tentativeHold
  | pendingPayment
  | pendingProviderConfirmation
  | confirmed
  | enRoute
  | inProgress
  | completed
  | noCoverage
  | noCapacity
  | quoteRequired
  | providerDeclined
  | reassignmentRequired
  | rescheduled
  | cancelled
  | expired
  deriving DecidableEq, Repr

def BookingStatus.value : BookingStatus → String
  | draft => "DRAFT"
  | requested => "REQUESTED"
  | pendingReview => "PENDING_REVIEW"
  | addressValidated => "ADDRESS_VALIDATED"
  | coverageConfirmed => "COVERAGE_CONFIRMED"
  | availabilityFound => "AVAILABILITY_FOUND"
  | capacityHeld => "CAPACITY_HELD"
  | awaitingAssignment => "AWAITING_ASSIGNMENT"
  | providerAssigned => "PROVIDER_ASSIGNED"
  | pendingManualDispatch => "PENDING_MANUAL_DISPATCH"
  | tentativeHold => "TENTATIVE_HOLD"
  | pendingPayment => "PENDING_PAYMENT"
  | pendingProviderConfirmation => "PENDING_PROVIDER_CONFIRMATION"
  | confirmed => "CONFIRMED"
  | enRoute => "EN_ROUTE"
  | inProgress => "IN_PROGRESS"
  | completed => "COMPLETED"
  | noCoverage => "NO_COVERAGE"
  | noCapacity => "NO_CAPACITY"
  | quoteRequired => "QUOTE_REQUIRED"
  | providerDeclined => "PROVIDER_DECLINED"
  | reassignmentRequired => "REASSIGNMENT_REQUIRED"
  | rescheduled => "RESCHEDULED"
  | cancelled => "CANCELLED"
  | expired => "EXPIRED"

/-- `totalAmount` is the `Numeric(12, 2)` column in hundredths, so that `* 100` and
the rounding to minor units are exact. -/
structure Booking where
  id : Uuid
  reference : String := ""
  idempotencyKey : String := ""
  idempotencyRequestHash : String := "legacy"
  customerId : Uuid
  addressId : Uuid
  serviceId : Uuid
  providerWorkerId : Option Uuid := none
  serviceTimezoneId : String := "UTC"
  recommendedProviderId : Option Uuid := none
  recommendedProfessionalId : Option Uuid := none
  assignmentScore : Option Int := none
  assignmentReason : Option String := none
  windowStart : Instant
  windowEnd : Instant
  status : BookingStatus := .requested
  totalAmount : Int
  currency : String
  expiresAt : Instant
  guestConfirmationRevokedAt : Option Instant := none
  deriving DecidableEq, Repr

/-- The window of a request. The offsets are those with which the two times are spelled. -/
structure BookingWindow where
  start : Instant
  stop : Instant
  startOffset : Int := 0
  stopOffset : Int := 0
  deriving DecidableEq, Repr

structure CustomerInput where
  firstName : String
  lastName : String
  email : String
  phone : String
  deriving DecidableEq, Repr

structure BookingAnswerInput where
  questionId : Uuid
  value : String
  deriving DecidableEq, Repr

structure BookingCreateRequest where
  serviceId : Uuid
  customer : CustomerInput
  addressId : Uuid
  window : BookingWindow
  answers : List BookingAnswerInput := []
  deriving DecidableEq, Repr

structure BookingAnswer where
  bookingId : Uuid
  questionId : Uuid
  value : String
  deriving DecidableEq, Repr

/-- A user account; its credentials and sessions are left out. -/
structure User where
  id : Uuid
  email : String
  fullName : String
  phone : Option String
  keycloakSubject : Option String := none
  passwordSetRequired : Bool := false
  deriving DecidableEq, Repr

structure Customer where
  id : Uuid
  userId : Option Uuid
  firstName : String
  lastName : String
  email : String
  phone : String
  deriving DecidableEq, Repr

inductive CapacityHoldStatus
  | held
  | converted
  | expired
  | released
  deriving DecidableEq, Repr

structure BookingCapacityHold where
  id : Uuid
  bookingId : Option Uuid := none
  serviceId : Uuid
  addressId : Uuid
  providerCandidateId : Uuid
  professionalCandidateId : Uuid
  slotStartUtc : Instant
  slotEndUtc : Instant
  timezoneId : String
  capacityMinutes : Int
  status : CapacityHoldStatus
  expiresAt : Instant
  releasedAt : Option Instant := none
  convertedAt : Option Instant := none
  ownerFingerprintHash : String
  idempotencyKey : String
  deriving DecidableEq, Repr

instance : KeyedTable.Keyed User Uuid := ⟨User.id⟩
instance : KeyedTable.Keyed Customer Uuid := ⟨Customer.id⟩
instance : KeyedTable.Keyed Booking Uuid := ⟨Booking.id⟩
instance : KeyedTable.Keyed BookingCapacityHold Uuid := ⟨BookingCapacityHold.id⟩

end Breero
