import Breero.Jobs.Transitions

/-!
The additional work that a technician requests on a job: its submission, the review of
the operators, and the decision of the customer.
-/

namespace Breero.Jobs
open KeyedTable Transaction

structure WorkRequestCreate where
  description : String
  lineItems : List WorkLineItem
  taxMinor : Int := 0
  currency : String := "USD"
  deriving DecidableEq, Repr

/-- What the schema checks of an item. -/
structure WorkLineItemAccepted (item : WorkLineItem) : Prop where
  description : 1 ≤ item.description.length ∧ item.description.length ≤ 500
  quantity : 1 ≤ item.quantity ∧ item.quantity ≤ 1000
  unitPrice : 0 ≤ item.unitPriceMinor

/-- What the schema checks of a request; the pattern of the currency is `^[A-Z]{3}$`. -/
structure WorkRequestCreate.Accepted (payload : WorkRequestCreate) : Prop where
  description : 1 ≤ payload.description.length ∧ payload.description.length ≤ 5000
  itemCount : 1 ≤ payload.lineItems.length ∧ payload.lineItems.length ≤ 100
  items : ∀ item ∈ payload.lineItems, WorkLineItemAccepted item
  tax : 0 ≤ payload.taxMinor
  currency : payload.currency.toList.length = 3 ∧ payload.currency.toList.all Char.isUpper

def WorkRequestCreate.subtotal (payload : WorkRequestCreate) : Int :=
  (payload.lineItems.map fun item => item.quantity * item.unitPriceMinor).sum

def submittedRequest (payload : WorkRequestCreate) (jobId workerId requestId : Uuid) :
    WorkRequest := {
  id := requestId
  jobId
  status := .submitted
  description := payload.description
  lineItems := payload.lineItems
  subtotalMinor := payload.subtotal
  taxMinor := payload.taxMinor
  totalMinor := payload.subtotal + payload.taxMinor
  currency := payload.currency
  createdBy := workerId }

/-- The amounts of a row, each in an `integer` column that may not be negative. -/
def amounts (request : WorkRequest) : List Int :=
  [request.subtotalMinor, request.taxMinor, request.totalMinor]

/-- `create_work_request`. The row is flushed by the commit. -/
def createWorkRequest (db : Db) (jobId : Uuid) (payload : WorkRequestCreate)
    (workerId requestId : Uuid) (now : Instant) : Except Raised (Db × WorkRequest) := do
  let job ← orRaise (db.jobs.get? jobId) (.httpException 404 "Job not found")
  require (job.workerId = some workerId)
    (.httpException 403 "Worker is not assigned to this job")
  require (job.status ∈ [.onSite, .diagnosing, .inProgress])
    (.httpException 409 "Additional work cannot be requested in the current job state")
  let request := submittedRequest payload job.id workerId requestId
  let workRequests ← orRaise (db.workRequests.insert? request)
    (.integrityError "work_requests_pkey")
  let (db, _, _) ← applyTransition { db with workRequests } job .awaitingApproval
    (some workerId) "worker" (some "additional_work_requested") [] now
  require (∀ amount ∈ amounts request, FitsInteger amount) (.other "DataError")
  require (∀ amount ∈ amounts request, 0 ≤ amount) (.integrityError "work_requests_check")
  return (db, request)

/-- The request after the customer's decision. An approval that needs no payment is
written past the lifecycle. -/
def decidedRequest (settings : Settings) (request : WorkRequest) (approve : Bool)
    (now : Instant) : Except Raised WorkRequest := do
  let request ← (
    if approve then
      if settings.paymentsEnabled then applyWorkRequestTransition request .approvedPendingPayment
      else pure { request with status := .approved }
    else applyWorkRequestTransition request .declined)
  return { request with customerDecidedAt := some now }

def quoteAudit (settings : Settings) (request : WorkRequest) (approve : Bool)
    (customerId : Uuid) (now : Instant) : AuditLog := {
  actorId := some customerId
  action := if approve then "quote.approve" else "quote.reject"
  resourceType := "work_request"
  resourceId := request.id
  metadata := [
    ("previous_status", .str WorkRequestStatus.pendingCustomer.value),
    ("new_status", .str request.status.value),
    ("payment_required", .bool (approve && settings.paymentsEnabled))]
  createdAt := now }

/-- The reason with which the job goes on after the decision, unless it waits for the
payment. -/
def decisionReason (settings : Settings) (approve : Bool) : Option String :=
  if ¬ approve then some "additional_work_declined"
  else if ¬ settings.paymentsEnabled then some "quote_approved_no_payment"
  else none

/-- `decide_work_request`. -/
def decideWorkRequest (settings : Settings) (db : Db) (requestId : Uuid) (approve : Bool)
    (customerId : Uuid) (now : Instant) : Except Raised (Db × WorkRequest) := do
  let request ← orRaise (db.workRequests.get? requestId)
    (.httpException 404 "Work request not found")
  let job ← orRaise ((db.jobs.get? request.jobId).filter (·.customerId = some customerId))
    (.httpException 403 "Not permitted to decide this request")
  require (request.status = .pendingCustomer)
    (.httpException 409 "Work request has already been decided")
  let request ← decidedRequest settings request approve now
  let db := { db with workRequests := db.workRequests.put request }.audit
    (quoteAudit settings request approve customerId now)
  match decisionReason settings approve with
  | none => return (db, request)
  | some reason => do
    let (db, _, _) ← applyTransition db job .inProgress (some customerId) "customer"
      (some reason) [] now
    return (db, request)

/-- The job of a rejected request goes on, if it waits. -/
def resumeRejected (db : Db) (jobId : Uuid) (actorId : Option Uuid) (now : Instant) :
    Except Raised Db :=
  match db.jobs.get? jobId with
  | some job =>
    if job.status = .awaitingApproval then do
      let (db, _, _) ← applyTransition db job .inProgress actorId "operations"
        (some "work_request_rejected") [] now
      return db
    else return db
  | none => return db

/-- `review_work_request`. -/
def reviewWorkRequest (db : Db) (requestId : Uuid) (approve : Bool) (actorId : Option Uuid)
    (now : Instant) : Except Raised (Db × WorkRequest) := do
  let request ← orRaise (db.workRequests.get? requestId)
    (.httpException 404 "Work request not found")
  require (request.status = .submitted)
    (.httpException 409 "Work request has already been reviewed")
  let request ← applyWorkRequestTransition request
    (if approve then .pendingCustomer else .declined)
  let db := { db with workRequests := db.workRequests.put request }
  if approve then
    return (db, request)
  else do
    let db ← resumeRejected db request.jobId actorId now
    return (db, request)

end Breero.Jobs
