import Breero.Booking.Timezones
import Breero.Lib.Table

/-!
Booking intents: what an anonymous session has chosen before it books.
-/

namespace Breero.BookingIntents
open KeyedTable

inductive BookingIntentStatus
  | draft
  | addressValidated
  | coverageConfirmed
  | availabilityFound
  | submitted
  | expired
  deriving DecidableEq, Repr

def BookingIntentStatus.value : BookingIntentStatus → String
  | draft => "DRAFT"
  | addressValidated => "ADDRESS_VALIDATED"
  | coverageConfirmed => "COVERAGE_CONFIRMED"
  | availabilityFound => "AVAILABILITY_FOUND"
  | submitted => "SUBMITTED"
  | expired => "EXPIRED"

def EDITABLE_STATUSES : List BookingIntentStatus :=
  [.draft, .addressValidated, .coverageConfirmed, .availabilityFound]

/-- `timedelta(minutes=120)` -/
def BOOKING_INTENT_TTL : Int := Bookings.ofMinutes 120

/-- A slot that the validators accept; the times are times of a day. -/
structure SlotSelection where
  slotToken : String
  startLocal : Int
  endLocal : Int
  tokenLength : 16 ≤ slotToken.length ∧ slotToken.length ≤ 512 := by decide
  endAfterStart : startLocal < endLocal := by decide
  deriving DecidableEq, Repr

structure BookingIntent where
  id : Uuid
  publicReference : String
  anonymousSessionId : Uuid
  serviceId : Uuid
  addressId : Option Uuid := none
  timezoneId : Option String := none
  requestedDate : Option Int := none
  selectedSlot : Option SlotSelection := none
  status : BookingIntentStatus := .draft
  expiresAt : Instant
  version : Nat := 1
  bookingId : Option Uuid := none
  deriving DecidableEq, Repr

instance : Keyed BookingIntent Uuid := ⟨BookingIntent.id⟩

/-- The fields that a patch sets, each to a value or to null. -/
structure BookingIntentUpdate where
  serviceId : Option (Option Uuid) := none
  addressId : Option (Option Uuid) := none
  timezoneId : Option (Option String) := none
  requestedDate : Option (Option Int) := none
  selectedSlot : Option (Option SlotSelection) := none
  clearSelectedSlot : Option Bool := none
  fieldsSet : serviceId.isSome ∨ addressId.isSome ∨ timezoneId.isSome ∨ requestedDate.isSome ∨
    selectedSlot.isSome ∨ clearSelectedSlot.isSome := by decide
  notCombined : ¬ (selectedSlot.join.isSome ∧ clearSelectedSlot = some true) := by decide
  deriving DecidableEq, Repr

end Breero.BookingIntents
