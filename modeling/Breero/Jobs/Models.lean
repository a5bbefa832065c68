import Breero.Lib.Table
import Breero.Common.Outbox

/-!
Jobs, their event log and the additional work requested on them.
-/

namespace Breero

inductive JobStatus
  | created
  | matching
  | offered
  | assigned
  | enRoute
  | onSite
  | diagnosing
  | awaitingApproval
  | inProgress
  | completed
  | cancelled
  deriving DecidableEq, Repr

def JobStatus.value : JobStatus → String
  | created => "CREATED"
  | matching => "MATCHING"
  | offered => "OFFERED"
  | assigned => "ASSIGNED"
  | enRoute => "EN_ROUTE"
  | onSite => "ON_SITE"
  | diagnosing => "DIAGNOSING"
  | awaitingApproval => "AWAITING_APPROVAL"
  | inProgress => "IN_PROGRESS"
  | completed => "COMPLETED"
  | cancelled => "CANCELLED"

inductive WorkRequestStatus
  | draft
  | submitted
  | pendingCustomer
  | approvedPendingPayment
  | approved
  | declined
  | paid
  | cancelled
  | expired
  deriving DecidableEq, Repr

def WorkRequestStatus.value : WorkRequestStatus → String
  | draft => "DRAFT"
  | submitted => "SUBMITTED"
  | pendingCustomer => "PENDING_CUSTOMER"
  | approvedPendingPayment => "APPROVED_PENDING_PAYMENT"
  | approved => "APPROVED"
  | declined => "DECLINED"
  | paid => "PAID"
  | cancelled => "CANCELLED"
  | expired => "EXPIRED"

structure Job where
  id : Uuid
  bookingId : Uuid
  customerId : Option Uuid := none
  serviceId : Uuid
  addressId : Uuid
  status : JobStatus
  scheduledStart : Instant
  scheduledEnd : Instant
  vendorId : Option Uuid := none
  workerId : Option Uuid := none
  version : Nat := 1
  diagnosticNotes : Option String := none
  completionNotes : Option String := none
  completedAt : Option Instant := none
  deriving DecidableEq, Repr

structure JobEvent where
  jobId : Uuid
  fromStatus : Option JobStatus
  toStatus : JobStatus
  actorId : Option Uuid
  actorType : String
  reason : Option String
  metadata : Payload := []
  deriving DecidableEq, Repr

structure WorkLineItem where
  description : String
  quantity : Int
  unitPriceMinor : Int
  deriving DecidableEq, Repr

structure WorkRequest where
  id : Uuid
  jobId : Uuid
  status : WorkRequestStatus
  description : String
  lineItems : List WorkLineItem
  subtotalMinor : Int
  taxMinor : Int
  totalMinor : Int
  currency : String := "USD"
  paymentId : Option Uuid := none
  customerDecidedAt : Option Instant := none
  createdBy : Uuid
  deriving DecidableEq, Repr

instance : KeyedTable.Keyed Job Uuid := ⟨Job.id⟩
instance : KeyedTable.Keyed WorkRequest Uuid := ⟨WorkRequest.id⟩

end Breero
