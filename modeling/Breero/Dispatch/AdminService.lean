import Breero.Booking.Matching

/-!
`AdminDispatchService`. An assignment is made in three parts, as its transaction waits
for the lock of the slot between the first search and the second:

* `beginAssign` is the part before the lock, with the row of the booking locked;
* `recheckAssign` searches again;
* `assignTo` writes the assignment, and the transaction commits.
-/

namespace Breero.Dispatch
open KeyedTable Transaction Bookings

/-- `AdminDispatchService.candidates`. -/
def bookingCandidates (dir : Directory) (db : Db) (booking : Booking)
    (loads : Uuid → Day → Load) : Except Raised (List ProviderCandidate) := do
  let missing : Raised :=
    .domainError "INVALID_BOOKING" "Booking service or address is missing" 422
  let address ← orRaise (dir.addresses.get? booking.addressId) missing
  let service ← orRaise (dir.services.get? booking.serviceId) missing
  candidates dir db service address booking.windowStart booking.windowEnd false none loads

def assignable : List BookingStatus :=
  [.requested, .pendingReview, .pendingManualDispatch, .awaitingAssignment,
   .reassignmentRequired, .providerAssigned]

/-- The arguments of `assign`. -/
structure AssignRequest where
  bookingId : Uuid
  professionalId : Uuid
  actorId : Uuid
  reason : String
  reassign : Bool := false
  assignmentMethod : AssignmentMethod := .manual
  deriving DecidableEq, Repr

/-- The assignment is of a kind the release permits. -/
def methodPermitted (settings : Settings) (method : AssignmentMethod) : Except Raised Unit := do
  require (method = .manual → settings.providerAssignmentMode = "MANUAL")
    (.domainError "FORBIDDEN" "Protected release permits manual dispatch only" 403)
  require (method = .automatic → settings.providerAssignmentMode = "AUTOMATIC" ∧
      settings.autoAssignProvider ∧ settings.liveProviderDispatch)
    (.domainError "FORBIDDEN" "Automatic provider dispatch is disabled" 403)

/-- `assign` before the lock of the slot. -/
def beginAssign (settings : Settings) (dir : Directory) (db : Db) (loads : Uuid → Day → Load)
    (request : AssignRequest) : Except Raised Booking := do
  methodPermitted settings request.assignmentMethod
  let booking ← orRaise (db.bookings.get? request.bookingId)
    (.domainError "BOOKING_NOT_FOUND" "Booking not found" 404)
  require (booking.status ∈ assignable)
    (.domainError "INVALID_STATE_TRANSITION" "Booking is not assignable" 409)
  let found ← bookingCandidates dir db booking loads
  require (∃ item ∈ found, item.professionalId = request.professionalId)
    (.domainError "NO_CAPACITY" "Professional is not an eligible candidate" 409)
  return booking

/-- The second search, under the lock of the slot. -/
def recheckAssign (dir : Directory) (db : Db) (booking : Booking) (professionalId : Uuid)
    (loads : Uuid → Day → Load) : Except Raised ProviderCandidate := do
  let found ← bookingCandidates dir db booking loads
  orRaise (found.find? fun item => item.professionalId = professionalId)
    (.domainError "NO_CAPACITY" "Professional capacity changed" 409)

/-- The active assignment of a job, released. -/
def releaseActive (db : Db) (jobId : Uuid) (now : Instant) : Db :=
  match db.activeAssignment jobId with
  | some active =>
    { db with
      assignments := db.assignments.put
        { active with status := .released, releasedAt := some now } }
  | none => db

def newJob (booking : Booking) (vendorId workerId jobId : Uuid) : Job := {
  id := jobId
  bookingId := booking.id
  customerId := some booking.customerId
  serviceId := booking.serviceId
  addressId := booking.addressId
  status := .assigned
  scheduledStart := booking.windowStart
  scheduledEnd := booking.windowEnd
  vendorId := some vendorId
  workerId := some workerId }

/-- The job of the booking after the assignment: the one it has, or a new one. -/
def assignedJob (db : Db) (booking : Booking) (worker : Worker) (now : Instant) (jobId : Uuid) :
    Except Raised (Db × Job) :=
  match db.jobOfBooking booking.id with
  | some job => do
    let db := releaseActive db job.id now
    let job := { job with
      vendorId := some worker.vendorId, workerId := some worker.id, status := .assigned }
    return ({ db with jobs := db.jobs.put job }, job)
  | none => do
    let job := newJob booking worker.vendorId worker.id jobId
    let db ← db.addJob job
    return (db, job)

def assignmentAudit (actorId bookingId : Uuid) (action reason : String) (workerId : Option Uuid)
    (method : AssignmentMethod) (now : Instant) : AuditLog := {
  actorId := some actorId
  action
  resourceType := "booking"
  resourceId := bookingId
  metadata := [
    ("reason", .str reason),
    ("worker_id", match workerId with | some id => .uuid id | none => .null),
    ("assignment_method", .str method.value),
    ("live_dispatch", .bool false)]
  createdAt := now }

/-- `assign` after the second search. -/
def assignTo (db : Db) (booking : Booking) (candidate : ProviderCandidate)
    (request : AssignRequest) (now : Instant) (jobId assignmentId : Uuid) :
    Except Raised (Db × Booking) := do
  let worker ← orRaise (db.workers.get? request.professionalId)
    (.domainError "NO_PROVIDER_COVERAGE" "Professional is unavailable" 409)
  let previousProviderId := (db.jobOfBooking booking.id).bind Job.vendorId
  let (db, job) ← assignedJob db booking worker now jobId
  let db ← db.addAssignment {
    id := assignmentId, jobId := job.id, vendorId := worker.vendorId, workerId := worker.id
    status := .active, assignedBy := some request.actorId }
  let assigned := { booking with
    providerWorkerId := some worker.id
    recommendedProviderId := some candidate.providerId
    recommendedProfessionalId := some candidate.professionalId
    assignmentScore := some candidate.score
    assignmentReason := some request.reason
    status := .providerAssigned }
  let history : ProviderAssignmentHistory := {
    bookingId := booking.id
    previousProviderId
    newProviderId := some worker.vendorId
    previousProfessionalId := booking.providerWorkerId
    newProfessionalId := some worker.id
    reason := request.reason
    assignmentMethod := request.assignmentMethod
    scoreAtAssignment := some candidate.score
    performedBy := request.actorId }
  return ({ db with
      bookings := db.bookings.put assigned
      assignmentHistory := db.assignmentHistory ++ [history] }.audit
    (assignmentAudit request.actorId booking.id
      (if request.reassign then "booking.reassigned" else "booking.assigned") request.reason
      (some worker.id) request.assignmentMethod now), assigned)

/-- `assign`, with nothing committed by others between its parts. -/
def assign (settings : Settings) (dir : Directory) (db : Db) (request : AssignRequest)
    (now : Instant) (jobId assignmentId : Uuid) : Except Raised (Db × Booking) := do
  let booking ← beginAssign settings dir db (loadOn db now) request
  let candidate ← recheckAssign dir db booking request.professionalId (loadOn db now)
  assignTo db booking candidate request now jobId assignmentId

/-- `automatic_assign`. -/
def automaticAssign (settings : Settings) (dir : Directory) (db : Db) (bookingId actorId : Uuid)
    (now : Instant) (jobId assignmentId : Uuid) : Except Raised (Db × Booking) := do
  let booking ← orRaise (db.bookings.get? bookingId)
    (.domainError "BOOKING_NOT_FOUND" "Booking not found" 404)
  let found ← bookingCandidates dir db booking (loadOn db now)
  let first ← orRaise found.head?
    (.domainError "NO_CAPACITY" "No eligible provider candidates are available" 409)
  assign settings dir db {
    bookingId, professionalId := first.professionalId, actorId, reason := "automatic_match"
    assignmentMethod := .automatic } now jobId assignmentId

/-- The job of a booking whose professional is withdrawn. -/
def unassignedJob (db : Db) (bookingId : Uuid) (now : Instant) : Db :=
  match db.jobOfBooking bookingId with
  | some job =>
    let db := releaseActive db job.id now
    { db with
      jobs := db.jobs.put { job with vendorId := none, workerId := none, status := .matching } }
  | none => db

def unassign (db : Db) (bookingId actorId : Uuid) (reason : String) (now : Instant) :
    Except Raised (Db × Booking) := do
  let notAssigned : Raised :=
    .domainError "INVALID_STATE_TRANSITION" "Booking is not currently assigned" 409
  let booking ← orRaise (db.bookings.get? bookingId) notAssigned
  require (booking.status = .providerAssigned) notAssigned
  let previousProviderId := (db.jobOfBooking bookingId).bind Job.vendorId
  let db := unassignedJob db bookingId now
  let unassigned := { booking with providerWorkerId := none, status := .reassignmentRequired }
  let history : ProviderAssignmentHistory := {
    bookingId
    previousProviderId
    newProviderId := none
    previousProfessionalId := booking.providerWorkerId
    newProfessionalId := none
    reason
    assignmentMethod := .manual
    scoreAtAssignment := none
    performedBy := actorId }
  return ({ db with
      bookings := db.bookings.put unassigned
      assignmentHistory := db.assignmentHistory ++ [history] }.audit
    (assignmentAudit actorId bookingId "booking.unassigned" reason none .manual now), unassigned)

end Breero.Dispatch
