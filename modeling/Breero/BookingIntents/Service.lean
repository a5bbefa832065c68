import Breero.Booking.Availability
import Breero.BookingIntents.Models

/-!
`BookingIntentService`, on the row that a request has locked.

* `update` is one patch, field after field;
* `beginSubmit` is `submit` up to its call of `BookingService.create`, and `submitted` what it
  writes afterwards.

`update` and `submit` reject an expired intent before they look at the version.
-/

namespace Breero.BookingIntents
open KeyedTable Transaction Bookings

/-! ## Checks -/

def notFound : Raised := .domainError "BOOKING_INTENT_NOT_FOUND" "Booking intent not found." 404

def activeService (dir : Directory) (serviceId : Uuid) : Except Raised Service :=
  orRaise ((dir.services.get? serviceId).filter Service.isActive)
    (.domainError "SERVICE_NOT_FOUND" "Service not found." 404)

/-- `_owned` -/
def owned (intents : Table BookingIntent) (intentId anonymousSessionId : Uuid) :
    Except Raised BookingIntent :=
  orRaise ((intents.get? intentId).filter (·.anonymousSessionId = anonymousSessionId)) notFound

/-- `_reject_expired` expires it. -/
def due (intent : BookingIntent) (now : Instant) : Prop :=
  intent.status ∉ [.expired, .submitted] ∧ intent.expiresAt ≤ now

instance (intent : BookingIntent) (now : Instant) : Decidable (due intent now) :=
  inferInstanceAs (Decidable (_ ∧ _))

def expire (intent : BookingIntent) : BookingIntent :=
  { intent with status := .expired, selectedSlot := none, version := intent.version + 1 }

/-- The end of `_reject_expired`. -/
def rejectExpired (intent : BookingIntent) : Except Raised Unit :=
  require (intent.status ≠ .expired)
    (.domainError "BOOKING_INTENT_EXPIRED" "Booking intent has expired." 410)

def requireVersion (intent : BookingIntent) (expectedVersion : Nat) : Except Raised Unit :=
  require (intent.version = expectedVersion)
    (.domainError "BOOKING_INTENT_VERSION_CONFLICT"
      "Booking intent was changed by another request." 409)

/-- `_timezone` -/
def timezone (dir : Directory) (timezoneId : Option String) : Except Raised Zone := do
  let timezoneId ← orRaise (timezoneId.filter (· ≠ ""))
    (.domainError "TIMEZONE_REQUIRED" "Service-address timezone is required." 422)
  orRaise (dir.zones timezoneId)
    (.domainError "TIMEZONE_INVALID" "Service-address timezone is invalid." 422)

def slotWindow (dir : Directory) (timezoneId : Option String) (requestedDate : Int)
    (selectedSlot : SlotSelection) : Except Raised BookingWindow := do
  let zone ← timezone dir timezoneId
  return {
    start := zone.toUtc (requestedDate * dayLength + selectedSlot.startLocal) false
    stop := zone.toUtc (requestedDate * dayLength + selectedSlot.endLocal) false }

def audited (db : Db) (intent : BookingIntent) (action : String) (metadata : Payload)
    (now : Instant) : Db :=
  db.audit {
    actorId := none
    actorType := "anonymous_session"
    action
    resourceType := "booking_intent"
    resourceId := intent.id
    metadata := [
      ("public_reference", .str intent.publicReference),
      ("anonymous_session_id", .uuid intent.anonymousSessionId)] ++ metadata
    createdAt := now }

/-! ## Operations -/

def create (dir : Directory) (serviceId anonymousSessionId : Uuid) (now : Instant)
    (ttl : Int) (id : Uuid) (publicReference : String) : Except Raised BookingIntent := do
  let _ ← activeService dir serviceId
  return { id, publicReference, anonymousSessionId, serviceId, expiresAt := now + ttl }

/-- The status of an intent with the address. -/
def addressStatus (address : Option Address) : BookingIntentStatus :=
  if (address.bind Address.serviceAreaId).isSome then .coverageConfirmed else .addressValidated

def statusAfterClearingSlot (dir : Directory) (intent : BookingIntent) : BookingIntentStatus :=
  match intent.addressId with
  | none => .draft
  | some addressId => addressStatus (dir.addresses.get? addressId)

def clearSlot (dir : Directory) (intent : BookingIntent) : BookingIntent :=
  { intent with selectedSlot := none, status := statusAfterClearingSlot dir intent }

def setService (dir : Directory) (intent : BookingIntent) :
    Option (Option Uuid) → Except Raised BookingIntent
  | none => return intent
  | some none =>
    throw (.domainError "SERVICE_REQUIRED" "A service is required for the booking intent." 422)
  | some (some serviceId) => do
    let _ ← activeService dir serviceId
    return if serviceId = intent.serviceId then intent else { intent with
      serviceId
      addressId := none
      timezoneId := none
      requestedDate := none
      selectedSlot := none
      status := .draft }

/-- An address that is another one takes the choices that were made for the old one. -/
def withAddress (intent : BookingIntent) (addressId : Option Uuid) (status : BookingIntentStatus) :
    BookingIntent :=
  if addressId = intent.addressId then { intent with status } else { intent with
    addressId
    timezoneId := none
    requestedDate := none
    selectedSlot := none
    status }

/-- `owner` is the customer of each address, as the request reads it. -/
def setAddress (dir : Directory) (owner : Uuid → Option Uuid) (intent : BookingIntent) :
    Option (Option Uuid) → Except Raised BookingIntent
  | none => return intent
  | some none => return withAddress intent none .draft
  | some (some addressId) => do
    let address ← orRaise ((dir.addresses.get? addressId).filter fun _ => (owner addressId).isNone)
      (.domainError "ADDRESS_NOT_FOUND" "Validated address was not found." 422)
    return withAddress intent (some addressId) (addressStatus (some address))

def setTimezone (dir : Directory) (intent : BookingIntent) :
    Option (Option String) → Except Raised BookingIntent
  | none => return intent
  | some none => return { intent with timezoneId := none, selectedSlot := none }
  | some (some timezoneId) => do
    let _ ← timezone dir (some timezoneId)
    return { intent with timezoneId := some timezoneId, selectedSlot := none }

/-- The date at the address, or in UTC as long as there is no timezone. -/
def today (dir : Directory) (intent : BookingIntent) (now : Instant) : Except Raised Int :=
  if intent.timezoneId.any (· ≠ "") then do
    let zone ← timezone dir intent.timezoneId
    return dateOf (zone.toLocal now)
  else return dateOf now

def setDate (dir : Directory) (now : Instant) (intent : BookingIntent) :
    Option (Option Int) → Except Raised BookingIntent
  | none => return intent
  | some none => return { intent with requestedDate := none, selectedSlot := none }
  | some (some requestedDate) => do
    let first ← today dir intent now
    require (¬ requestedDate < first)
      (.domainError "REQUESTED_DATE_IN_PAST" "Requested service date cannot be in the past." 422)
    return { intent with requestedDate := some requestedDate, selectedSlot := none }

/-- The slot, if the search finds it. -/
def selectSlot (dir : Directory) (db : Db) (now : Instant) (intent : BookingIntent)
    (selectedSlot : SlotSelection) : Except Raised BookingIntent := do
  let incomplete : Raised := .domainError "BOOKING_INTENT_INCOMPLETE"
    "Address, timezone and requested date are required before selecting a slot." 422
  let addressId ← orRaise intent.addressId incomplete
  require (intent.timezoneId.any (· ≠ "")) incomplete
  let requestedDate ← orRaise intent.requestedDate incomplete
  let service ← activeService dir intent.serviceId
  require (service.isBookable)
    (.domainError "SERVICE_NOT_BOOKABLE"
      "This service currently supports requests only and cannot be booked." 409)
  let window ← slotWindow dir intent.timezoneId requestedDate selectedSlot
  let slots ← search dir db now intent.serviceId addressId requestedDate requestedDate
  require (∃ slot ∈ slots, slot.start = window.start ∧ slot.stop = window.stop)
    (.domainError "SLOT_UNAVAILABLE" "The selected time slot is no longer available." 409)
  return { intent with selectedSlot := some selectedSlot, status := .availabilityFound }

def setSlot (dir : Directory) (db : Db) (now : Instant) (intent : BookingIntent) :
    Option (Option SlotSelection) → Except Raised BookingIntent
  | none => return intent
  | some none => return clearSlot dir intent
  | some (some selectedSlot) => selectSlot dir db now intent selectedSlot

/-- `update` of an intent that is not due. -/
def update (dir : Directory) (owner : Uuid → Option Uuid) (db : Db) (now : Instant)
    (intent : BookingIntent) (command : BookingIntentUpdate) (expectedVersion : Nat) :
    Except Raised BookingIntent := do
  rejectExpired intent
  requireVersion intent expectedVersion
  require (intent.status ∈ EDITABLE_STATUSES)
    (.domainError "BOOKING_INTENT_NOT_EDITABLE"
      "Booking intent cannot be changed in its current state." 409)
  let intent ← setService dir intent command.serviceId
  let intent ← setAddress dir owner intent command.addressId
  let intent ← setTimezone dir intent command.timezoneId
  let intent ← setDate dir now intent command.requestedDate
  let intent := if command.clearSelectedSlot = some true then clearSlot dir intent else intent
  let intent ← setSlot dir db now intent command.selectedSlot
  return { intent with version := intent.version + 1 }

/-- `abandon`; an intent that is expired is left as it is, with nothing to commit. -/
def abandon (intent : BookingIntent) (expectedVersion : Nat) :
    Except Raised (Option BookingIntent) := do
  requireVersion intent expectedVersion
  require (intent.status ≠ .submitted)
    (.domainError "BOOKING_INTENT_ALREADY_SUBMITTED"
      "Submitted booking intents cannot be abandoned." 409)
  return if intent.status = .expired then none else some (expire intent)

/-- The request that `submit` of an intent that is not due makes of `BookingService.create`. -/
def beginSubmit (dir : Directory) (intent : BookingIntent) (customer : CustomerInput)
    (answers : List BookingAnswerInput) (expectedVersion : Nat) :
    Except Raised BookingCreateRequest := do
  rejectExpired intent
  requireVersion intent expectedVersion
  require (intent.status = .availabilityFound)
    (.domainError "BOOKING_INTENT_NOT_READY"
      "A validated address, date and slot are required before submitting." 409)
  let addressId ← orRaise intent.addressId (.other "AssertionError")
  require (intent.timezoneId.any (· ≠ "")) (.other "AssertionError")
  let requestedDate ← orRaise intent.requestedDate (.other "AssertionError")
  let selectedSlot ← orRaise intent.selectedSlot (.other "ValidationError")
  let window ← slotWindow dir intent.timezoneId requestedDate selectedSlot
  return { serviceId := intent.serviceId, customer, addressId, window, answers }

/-- The row after the second commit of `submit`: of the columns, those that the session has
changed since it read the intent are written. -/
def submitted (read : BookingIntent) (bookingId : Uuid) (stored : BookingIntent) :
    BookingIntent :=
  { stored with
    status := .submitted, bookingId := some bookingId, version := read.version + 1 }

end Breero.BookingIntents
