import Breero.Jobs.Service
import Breero.Booking.Timezones

/-!
`DispatchService`: offers of a job to vendors, their decisions, and the assignment of
a job by an operator.
-/

namespace Breero.Dispatch
open KeyedTable Transaction

/-- `candidate_workers` without capabilities; of more rows than the limit the query
answers any. -/
def candidateWorkers (db : Db) (limit : Nat) (workerId : Option Uuid) : List (Vendor × Worker) :=
  (db.workers.rows.filterMap fun worker =>
    (db.vendors.get? worker.vendorId).bind fun vendor =>
      if vendor.status = .active ∧ worker.status = .active ∧ worker.available ∧
          ∀ id ∈ workerId, worker.id = id then
        some (vendor, worker)
      else none).take limit

def offersForJob (db : Db) (jobId : Uuid) : List DispatchOffer :=
  db.offers.rows.filter fun offer => offer.jobId = jobId

/-- The offers of one round, the candidate of a lower rank with a higher score. -/
def addOffers (db : Db) (jobId : Uuid) (round : Nat) (now : Instant) (offerId : Nat → Uuid) :
    List (Vendor × Worker) → Nat → Except Raised Db
  | [], _ => return db
  | (vendor, worker) :: candidates, rank => do
    let db ← db.addOffer {
      id := offerId rank
      jobId
      vendorId := vendor.id
      workerId := some worker.id
      status := .pending
      round
      score := 1000 - rank
      expiresAt := now + Bookings.ofMinutes 15 }
    addOffers db jobId round now offerId candidates (rank + 1)

/-- `match`. -/
def matchJob (db : Db) (jobId : Uuid) (actorId : Option Uuid) (now : Instant)
    (offerId : Nat → Uuid) : Except Raised (Db × Job) := do
  let job ← orRaise (db.jobs.get? jobId) (.httpException 404 "Job not found")
  require (job.status ∈ [.created, .matching, .offered])
    (.httpException 409 "Job cannot be matched in its current state")
  let round := ((offersForJob db jobId).map DispatchOffer.round).foldl max 0 + 1
  let reserved := (db.bookings.get? job.bookingId).bind Booking.providerWorkerId
  let candidates := candidateWorkers db 10 reserved
  if candidates = [] then do
    -- a job that is already matching stays as it is
    let (db, job, _) ← Jobs.applyTransition db job .matching actorId "system"
      (some "no_candidates") [] now
    return (db, job)
  else do
    let db ← addOffers db job.id round now offerId candidates 0
    let (db, job, _) ← (
      if job.status = .created then
        Jobs.applyTransition db job .matching actorId "system" (some "matching_started") [] now
      else pure (db, job, false))
    let (db, job, _) ← Jobs.applyTransition db job .offered actorId "system"
      (some "offers_created") [("count", .int candidates.length), ("round", .int round)] now
    return (db, job)

/-- `Worker.id == worker_id, Worker.vendor_id == vendor_id, Worker.available`. -/
def availableWorker (db : Db) (workerId : Option Uuid) (vendorId : Uuid) : Option Worker :=
  (workerId.bind db.workers.get?).filter fun worker => worker.vendorId = vendorId ∧ worker.available

/-- The booking of a job is for the worker, if there is one. -/
def reservedFor (db : Db) (job : Job) (workerId : Uuid) : Prop :=
  ∀ booking ∈ db.bookings.get? job.bookingId, booking.providerWorkerId = some workerId

instance (db : Db) (job : Job) (workerId : Uuid) : Decidable (reservedFor db job workerId) :=
  inferInstanceAs (Decidable (∀ booking ∈ db.bookings.get? job.bookingId, _))

/-- The booking of an assigned job is confirmed, if it was waiting for its provider. -/
def confirmPending (db : Db) (bookingId : Uuid) : Db :=
  match db.bookings.get? bookingId with
  | some booking =>
    if booking.status = .pendingProviderConfirmation then
      { db with bookings := db.bookings.put { booking with status := .confirmed } }
    else db
  | none => db

/-- The other pending offers of a job, withdrawn. -/
def withdrawn (jobId offerId : Uuid) (offer : DispatchOffer) : DispatchOffer :=
  if offer.jobId = jobId ∧ offer.id ≠ offerId ∧ offer.status = .pending then
    { offer with status := .withdrawn }
  else offer

def withdrawOthers (db : Db) (jobId offerId : Uuid) : Db :=
  { db with
    offers := db.offers.update (withdrawn jobId offerId)
      (fun offer => by unfold withdrawn; split <;> rfl) }

def assignmentCreated (job : Job) (vendorId workerId actorId : Uuid) (reason : Option String)
    (now : Instant) : AuditLog := {
  actorId := some actorId
  action := "assignment.create"
  resourceType := "job"
  resourceId := job.id
  metadata := [("vendor_id", .uuid vendorId), ("worker_id", .uuid workerId)] ++
    (reason.map fun text => ("reason", Value.str text)).toList
  createdAt := now }

/-- An accepted offer. The insert of the assignment is flushed by the query that
withdraws the other offers, so what the unique index raises is not caught. -/
def acceptOffer (db : Db) (offer : DispatchOffer) (vendorId : Uuid) (workerId : Option Uuid)
    (actorId : Uuid) (now : Instant) (assignmentId : Uuid) :
    Except Raised (Db × DispatchOffer) := do
  let selected := workerId.orElse fun _ => offer.workerId
  let worker ← orRaise (availableWorker db selected vendorId)
    (.httpException 409 "Selected worker is unavailable")
  let job ← orRaise ((db.jobs.get? offer.jobId).filter (·.status ∈ [.offered, .matching]))
    (.httpException 409 "Job is no longer assignable")
  require (reservedFor db job worker.id)
    (.httpException 409 "Worker does not hold the reserved provider slot")
  let offer := { offer with status := .accepted }
  let db ← { db with offers := db.offers.put offer }.addAssignment {
    id := assignmentId
    jobId := job.id
    offerId := some offer.id
    vendorId
    workerId := worker.id
    status := .active
    assignedBy := some actorId }
  let db := confirmPending (db.audit (assignmentCreated job vendorId worker.id actorId none now))
    job.bookingId
  let job := { job with vendorId := some vendorId, workerId := some worker.id }
  let (db, job, _) ← Jobs.applyTransition db job .assigned (some actorId) "vendor"
    (some "offer_accepted") [] now
  return (withdrawOthers db job.id offer.id, offer)

/-- `decide_offer`. The answer may be an exception although the transaction commits. -/
def decideOffer (db : Db) (offerId vendorId : Uuid) (accept : Bool) (workerId : Option Uuid)
    (actorId : Uuid) (now : Instant) (assignmentId : Uuid) :
    Except Raised (Db × Except Raised DispatchOffer) := do
  let offer ← orRaise (db.offers.get? offerId) (.httpException 404 "Offer not found")
  require (offer.vendorId = vendorId) (.httpException 403 "Offer belongs to another vendor")
  require (offer.status = .pending) (.httpException 409 "Offer is no longer pending")
  if offer.expiresAt ≤ now then
    return ({ db with offers := db.offers.put { offer with status := .expired } },
      .error (.httpException 409 "Offer has expired"))
  else do
    let offer := { offer with respondedAt := some now }
    if ¬ accept then do
      let offer := { offer with status := .declined }
      return ({ db with offers := db.offers.put offer }, .ok offer)
    else do
      let (db, offer) ← acceptOffer db offer vendorId workerId actorId now assignmentId
      return (db, .ok offer)

def manualAssign (db : Db) (jobId vendorId workerId actorId : Uuid) (reason : String)
    (now : Instant) (assignmentId : Uuid) : Except Raised (Db × Assignment) := do
  let job ← orRaise (db.jobs.get? jobId) (.httpException 404 "Job not found")
  let worker ← orRaise (availableWorker db (some workerId) vendorId)
    (.httpException 409 "Worker is unavailable or belongs to another vendor")
  require (job.status ∈ [.created, .matching, .offered])
    (.httpException 409 "Job is not assignable")
  require (reservedFor db job workerId)
    (.httpException 409 "Worker does not hold the reserved provider slot")
  let assignment : Assignment := {
    id := assignmentId, jobId := job.id, vendorId, workerId := worker.id, status := .active
    assignedBy := some actorId }
  let db ← db.addAssignment assignment
  let db := db.audit (assignmentCreated job vendorId worker.id actorId (some reason) now)
  let (db, job, _) ← Jobs.applyTransition db job .assigned (some actorId) "operations"
    (some reason) [] now
  let job := { job with vendorId := some vendorId, workerId := some worker.id }
  return (confirmPending { db with jobs := db.jobs.put job } job.bookingId, assignment)

end Breero.Dispatch
