import Breero.Booking.Matching

/-!
`OperatorSchedulingService`: the confirmation of a booking by an operator.
-/

namespace Breero.Bookings
open KeyedTable Transaction

/-- The worker and their vendor, if both may be scheduled. -/
def schedulable (db : Db) (workerId : Uuid) : Except Raised (Worker × Vendor) := do
  let unavailable : Raised :=
    .domainError "PROVIDER_UNAVAILABLE" "The selected provider is unavailable" 409
  let worker ← orRaise (db.workers.get? workerId) unavailable
  let vendor ← orRaise (db.vendors.get? worker.vendorId) unavailable
  require (worker.status = .active ∧ worker.available) unavailable
  require (vendor.status = .active)
    (.domainError "PROVIDER_NOT_APPROVED" "The selected provider is not approved" 409)
  return (worker, vendor)

/-- The hours of the worker that cover the window at the address. -/
def coveringHours (dir : Directory) (booking : Booking) (address : Address) (worker : Worker)
    (localStart localEnd : LocalTime) : Except Raised ProviderWorkingHours := do
  let outOfCoverage : Raised := .domainError "PROVIDER_OUT_OF_COVERAGE"
    "Provider coverage or working hours do not support this request" 409
  require (dir.coverage.any fun covered =>
      covered.workerId = worker.id && covered.serviceId = booking.serviceId &&
        covered.postalCode = truncate 5 address.postalCode && covered.active)
    outOfCoverage
  let hours ← orRaise (dir.workingHours.get? (worker.id, weekdayOf localStart)) outOfCoverage
  require (¬ (timeOf localStart < hours.startTime ∨ hours.endTime < timeOf localEnd))
    outOfCoverage
  return hours

def currentCredentials (dir : Directory) (vendorId : Uuid) (state : String) (date : Int) : Bool :=
  [ProviderCredentialType.license, .insurance].all fun required =>
    dir.credentials.any fun credential =>
      credential.credentialType = required && credential.vendorId = vendorId &&
        (credential.jurisdiction = state || credential.jurisdiction = "US") &&
        credential.verified && credential.verifiedAt.isSome && date ≤ credential.expiresOn

/-- The other jobs of the worker that overlap the window. A booking without a job is
compared with null, so that no job is counted. -/
def overlappingJobs (db : Db) (booking : Booking) (workerId : Uuid) : Nat :=
  match db.jobOfBooking booking.id with
  | none => 0
  | some own => db.jobs.rows.countP fun job =>
      liveJob workerId job && job.id ≠ own.id && job.scheduledStart < booking.windowEnd &&
        booking.windowStart < job.scheduledEnd

/-- `_qualified_worker`. -/
def qualifiedWorker (dir : Directory) (db : Db) (booking : Booking) (workerId : Uuid)
    (now : Instant) : Except Raised (Worker × Vendor) := do
  -- the status set here is rolled back with the transaction
  require (¬ (booking.expiresAt ≤ now ∧ booking.status ≠ .confirmed))
    (.domainError "HOLD_EXPIRED" "The tentative hold has expired" 409)
  let notValidated : Raised := .domainError "ADDRESS_NOT_VALIDATED"
    "A validated address and timezone are required" 422
  let address ← orRaise (dir.addresses.get? booking.addressId) notValidated
  let state ← orRaise (address.stateCode.filter (· ≠ "")) notValidated
  require (address.timezoneName ≠ "") notValidated
  let zone ← orRaise (dir.zones address.timezoneName)
    (.domainError "ADDRESS_TIMEZONE_INVALID" "Service address timezone is invalid" 422)
  let localStart := zone.toLocal booking.windowStart
  let localEnd := zone.toLocal booking.windowEnd
  let (worker, vendor) ← schedulable db workerId
  let hours ← coveringHours dir booking address worker localStart localEnd
  require (currentCredentials dir vendor.id state (dateOf localStart))
    (.domainError "PROVIDER_CREDENTIALS_INVALID"
      "Current verified license and insurance are required" 409)
  require (¬ hours.capacity ≤ overlappingJobs db booking worker.id)
    (.domainError "PROVIDER_CAPACITY_UNAVAILABLE" "Provider capacity is no longer available" 409)
  return (worker, vendor)

def confirmable : List BookingStatus :=
  [.requested, .pendingManualDispatch, .tentativeHold, .providerAssigned]

/-- The job of the booking, or a new one with its assignment. -/
def confirmedJob (db : Db) (booking : Booking) (worker : Worker) (vendor : Vendor)
    (actorId jobId assignmentId : Uuid) : Except Raised (Db × Job) :=
  match db.jobOfBooking booking.id with
  | some existing => do
    require (existing.workerId = some worker.id)
      (.domainError "BOOKING_ASSIGNMENT_MISMATCH" "Assigned professional does not match" 409)
    return (db, existing)
  | none => do
    let job : Job := {
      id := jobId
      bookingId := booking.id
      customerId := some booking.customerId
      serviceId := booking.serviceId
      addressId := booking.addressId
      status := .assigned
      scheduledStart := booking.windowStart
      scheduledEnd := booking.windowEnd
      vendorId := some vendor.id
      workerId := some worker.id }
    let db ← db.addJob job
    let db ← db.addAssignment {
      id := assignmentId, jobId := job.id, vendorId := vendor.id, workerId := worker.id
      status := .active, assignedBy := some actorId }
    return (db, job)

def bookingConfirmed (booking : Booking) (job : Job) (now : Instant) : IntegrationEvent := {
  aggregateType := "booking"
  aggregateId := booking.id
  eventType := "booking.confirmed"
  payload := [
    ("booking_id", .uuid booking.id), ("job_id", .uuid job.id), ("payment_required", .bool false)]
  idempotencyKey := some ("booking.confirmed:" ++ toString booking.id)
  nextAttemptAt := now }

/-- `confirm` as far as the count of the overlapping jobs. -/
def beginConfirm (dir : Directory) (db : Db) (bookingId workerId : Uuid) (now : Instant) :
    Except Raised (Booking × Worker × Vendor) := do
  let booking ← orRaise (db.bookings.get? bookingId)
    (.domainError "BOOKING_NOT_FOUND" "Booking not found" 404)
  require (booking.status ∈ confirmable)
    (.domainError "BOOKING_NOT_CONFIRMABLE" "Booking is not awaiting operator confirmation" 409)
  let (worker, vendor) ← qualifiedWorker dir db booking workerId now
  return (booking, worker, vendor)

/-- The rest of `confirm`, for the booking as it was locked. -/
def finishConfirm (db : Db) (booking : Booking) (worker : Worker) (vendor : Vendor)
    (actorId : Uuid) (reason : String) (now : Instant) (jobId assignmentId : Uuid) :
    Except Raised (Db × Job) := do
  let (db, job) ← confirmedJob db booking worker vendor actorId jobId assignmentId
  let confirmed := { booking with providerWorkerId := some worker.id, status := .confirmed }
  let db := { db with bookings := db.bookings.put confirmed }.audit {
    actorId := some actorId
    action := "booking.operator_confirm"
    resourceType := "booking"
    resourceId := booking.id
    metadata := [("reason", .str reason), ("worker_id", .uuid worker.id)]
    createdAt := now }
  let db ← db.addEvent (bookingConfirmed booking job now)
  return (db, job)

def confirm (dir : Directory) (db : Db) (bookingId workerId actorId : Uuid) (reason : String)
    (now : Instant) (jobId assignmentId : Uuid) : Except Raised (Db × Job) := do
  let (booking, worker, vendor) ← beginConfirm dir db bookingId workerId now
  finishConfirm db booking worker vendor actorId reason now jobId assignmentId

end Breero.Bookings
