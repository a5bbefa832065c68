import Breero.Lib.Transaction
import Breero.Common.Outbox
import Breero.Workforce.Models
import Breero.Booking.Models
import Breero.Jobs.Models
import Breero.Leads.Models
import Breero.Payments.Models
import Breero.Finance.Models
import Breero.Dispatch.Models

/-!
The committed state of the database: one table for each model, the logs that are
only appended to, and the writes that a unique index or a check constraint may
refuse with an `IntegrityError`.
-/

namespace Breero
open KeyedTable Transaction

structure Db where
  vendors : Table Vendor := .empty
  workers : Table Worker := .empty
  users : Table User := .empty
  customers : Table Customer := .empty
  bookings : Table Booking := .empty
  bookingAnswers : List BookingAnswer := []
  holds : Table BookingCapacityHold := .empty
  jobs : Table Job := .empty
  jobEvents : List JobEvent := []
  workRequests : Table WorkRequest := .empty
  leads : Table ProfessionalLead := .empty
  leadPurchases : Table LeadPurchase := .empty
  payments : Table Payment := .empty
  refunds : Table Refund := .empty
  paymentEvents : Table PaymentEvent := .empty
  idempotencyRecords : Table IdempotencyRecord := .empty
  compensationPlans : Table VendorCompensationPlan := .empty
  serviceRates : Table VendorServiceCompensation := .empty
  snapshots : Table CompensationSnapshot := .empty
  earnings : Table VendorEarning := .empty
  adjustments : Table EarningAdjustment := .empty
  batches : Table PayoutBatch := .empty
  offers : Table DispatchOffer := .empty
  assignments : Table Assignment := .empty
  assignmentHistory : List ProviderAssignmentHistory := []
  outbox : List IntegrationEvent := []
  auditLogs : List AuditLog := []

/-- The settings the services read. The SHA-256 of a request's canonical JSON, `hash` and
`bookingHash`, and that of a text are parameters. -/
structure Settings where
  hash : PaymentIntentCreate → String
  bookingHash : BookingCreateRequest → String := fun _ => ""
  sha256 : String → String := id
  stripeEnabled : Bool := true
  paymentsEnabled : Bool := true
  payoutEnabled : Bool := true
  providerAssignmentMode : String := "MANUAL"
  autoAssignProvider : Bool := false
  liveProviderDispatch : Bool := false

/-- What an `integer` column can hold. -/
def FitsInteger (n : Int) : Prop := -2147483648 ≤ n ∧ n ≤ 2147483647

instance (n : Int) : Decidable (FitsInteger n) := inferInstanceAs (Decidable (_ ∧ _))

namespace Db

/-! ## Logs -/

def emit (db : Db) (event : IntegrationEvent) : Db := { db with outbox := db.outbox ++ [event] }

/-- An insert of an event that may have a key, under the unique index on it. -/
def addEvent (db : Db) (event : IntegrationEvent) : Except Raised Db := do
  require (event.idempotencyKey = none ∨
      ∀ other ∈ db.outbox, other.idempotencyKey ≠ event.idempotencyKey)
    (.integrityError "ix_integration_events_idempotency_key")
  return db.emit event

def audit (db : Db) (log : AuditLog) : Db := { db with auditLogs := db.auditLogs ++ [log] }

/-! ## Payments -/

/-- The check constraints of `payments`. -/
def PaymentChecks (payment : Payment) : Prop :=
  payment.ValidReference ∧ 0 < payment.amountMinor ∧
    0 ≤ payment.capturedAmountMinor ∧ payment.capturedAmountMinor ≤ payment.amountMinor

instance (payment : Payment) : Decidable (PaymentChecks payment) :=
  inferInstanceAs (Decidable (_ ∧ _))

def addPayment (db : Db) (payment : Payment) : Except Raised Db := do
  require (PaymentChecks payment) (.integrityError "ck_payments")
  require (∀ other ∈ db.payments.rows, payment.providerPaymentId = none ∨
      (other.provider, other.providerPaymentId) ≠ (payment.provider, payment.providerPaymentId))
    (.integrityError "uq_payments_provider_payment_id")
  require (∀ other ∈ db.payments.rows, payment.leadPurchaseId = none ∨
      other.leadPurchaseId ≠ payment.leadPurchaseId)
    (.integrityError "payments_lead_purchase_id_key")
  let payments ← orRaise (db.payments.insert? payment) (.integrityError "pk_payments")
  return { db with payments }

theorem addPayment_ok {db db' : Db} {payment : Payment} (h : db.addPayment payment = .ok db') :
    PaymentChecks payment ∧ ∃ payments, db.payments.insert? payment = some payments ∧
      (∀ other ∈ db.payments.rows, payment.leadPurchaseId = none ∨
        other.leadPurchaseId ≠ payment.leadPurchaseId) ∧ db' = { db with payments } := by
  simp only [addPayment, seq_committed, require_committed, orRaise_committed,
    return_committed] at h
  obtain ⟨_, hchecks, _, _, _, hlead, payments, hinsert, rfl⟩ := h
  exact ⟨hchecks, payments, hinsert, hlead, rfl⟩

/-- An update of a payment's status, captured amount and failure code. -/
def putPayment (db : Db) (payment : Payment) : Except Raised Db := do
  require (PaymentChecks payment) (.integrityError "ck_payments")
  return { db with payments := db.payments.put payment }

theorem putPayment_ok {db db' : Db} {payment : Payment} (h : db.putPayment payment = .ok db') :
    PaymentChecks payment ∧ db' = { db with payments := db.payments.put payment } := by
  simp only [putPayment, seq_committed, require_committed, return_committed] at h
  obtain ⟨_, hchecks, rfl⟩ := h
  exact ⟨hchecks, rfl⟩

def addRefund (db : Db) (refund : Refund) : Except Raised Db := do
  require (0 < refund.amountMinor) (.integrityError "refunds_amount_minor_check")
  require (∀ other ∈ db.refunds.rows,
      (other.paymentId, other.idempotencyKey) ≠ (refund.paymentId, refund.idempotencyKey))
    (.integrityError "uq_refunds_payment_key")
  require (∀ other ∈ db.refunds.rows, refund.providerRefundId = none ∨
      other.providerRefundId ≠ refund.providerRefundId)
    (.integrityError "uq_refunds_provider_id")
  let refunds ← orRaise (db.refunds.insert? refund) (.integrityError "pk_refunds")
  return { db with refunds }

theorem addRefund_ok {db db' : Db} {refund : Refund} (h : db.addRefund refund = .ok db') :
    0 < refund.amountMinor ∧ ∃ refunds, db.refunds.insert? refund = some refunds ∧
      db' = { db with refunds } := by
  simp only [addRefund, seq_committed, require_committed, orRaise_committed,
    return_committed] at h
  obtain ⟨_, hpos, _, _, _, _, refunds, hinsert, rfl⟩ := h
  exact ⟨hpos, refunds, hinsert, rfl⟩

/-! ## Leads -/

def addLeadPurchase (db : Db) (purchase : LeadPurchase) : Except Raised Db := do
  require (∀ other ∈ db.leadPurchases.rows, other.leadId ≠ purchase.leadId)
    (.integrityError "professional_lead_purchases_lead_id_key")
  require (∀ other ∈ db.leadPurchases.rows,
      (other.vendorId, other.idempotencyKey) ≠ (purchase.vendorId, purchase.idempotencyKey))
    (.integrityError "uq_lead_purchase_key")
  let leadPurchases ← orRaise (db.leadPurchases.insert? purchase)
    (.integrityError "professional_lead_purchases_pkey")
  return { db with leadPurchases }

theorem addLeadPurchase_ok {db db' : Db} {purchase : LeadPurchase}
    (h : db.addLeadPurchase purchase = .ok db') :
    (∀ other ∈ db.leadPurchases.rows, other.leadId ≠ purchase.leadId) ∧
      ∃ leadPurchases, db.leadPurchases.insert? purchase = some leadPurchases ∧
        db' = { db with leadPurchases } := by
  simp only [addLeadPurchase, seq_committed, require_committed, orRaise_committed,
    return_committed] at h
  obtain ⟨_, hlead, _, _, leadPurchases, hinsert, rfl⟩ := h
  exact ⟨hlead, leadPurchases, hinsert, rfl⟩

/-! ## Jobs and assignments -/

def addJob (db : Db) (job : Job) : Except Raised Db := do
  require (∀ other ∈ db.jobs.rows, other.bookingId ≠ job.bookingId)
    (.integrityError "jobs_booking_id_key")
  let jobs ← orRaise (db.jobs.insert? job) (.integrityError "jobs_pkey")
  return { db with jobs }

theorem addJob_ok {db db' : Db} {job : Job} (h : db.addJob job = .ok db') :
    (∀ other ∈ db.jobs.rows, other.bookingId ≠ job.bookingId) ∧
      ∃ jobs, db.jobs.insert? job = some jobs ∧ db' = { db with jobs } := by
  simp only [addJob, seq_committed, require_committed, orRaise_committed,
    return_committed] at h
  obtain ⟨_, hbooking, jobs, hinsert, rfl⟩ := h
  exact ⟨hbooking, jobs, hinsert, rfl⟩

def jobOfBooking (db : Db) (bookingId : Uuid) : Option Job :=
  db.jobs.rows.find? (fun job => job.bookingId = bookingId)

def addOffer (db : Db) (offer : DispatchOffer) : Except Raised Db := do
  require (∀ other ∈ db.offers.rows,
      (other.jobId, other.vendorId, other.round) ≠ (offer.jobId, offer.vendorId, offer.round))
    (.integrityError "dispatch_offers_job_id_vendor_id_round_key")
  let offers ← orRaise (db.offers.insert? offer) (.integrityError "dispatch_offers_pkey")
  return { db with offers }

/-- An insert of an active assignment, under the partial index `uq_active_assignment_job`. -/
def addAssignment (db : Db) (assignment : Assignment) : Except Raised Db := do
  require (∀ other ∈ db.assignments.rows,
      other.status = .active → other.jobId ≠ assignment.jobId)
    (.integrityError "uq_active_assignment_job")
  let assignments ← orRaise (db.assignments.insert? assignment)
    (.integrityError "assignments_pkey")
  return { db with assignments }

def activeAssignment (db : Db) (jobId : Uuid) : Option Assignment :=
  db.assignments.rows.find? (fun a => a.jobId = jobId ∧ a.status = .active)

/-! ## Bookings -/

/-- `customer_for`: the profile of the signed-in user. -/
def customerFor (db : Db) (userId : Uuid) : Except Raised Customer :=
  orRaise (db.customers.rows.find? (fun customer => customer.userId = some userId))
    (.httpException 404 "Customer profile not found; verify your email to link it")

def addUser (db : Db) (user : User) : Except Raised Db := do
  require (∀ other ∈ db.users.rows, other.email ≠ user.email) (.integrityError "ix_users_email")
  require (∀ other ∈ db.users.rows, user.keycloakSubject = none ∨
      other.keycloakSubject ≠ user.keycloakSubject)
    (.integrityError "ix_users_keycloak_subject")
  let users ← orRaise (db.users.insert? user) (.integrityError "users_pkey")
  return { db with users }

def addCustomer (db : Db) (customer : Customer) : Except Raised Db := do
  require (∀ other ∈ db.customers.rows, customer.userId = none ∨ other.userId ≠ customer.userId)
    (.integrityError "customers_user_id_key")
  let customers ← orRaise (db.customers.insert? customer) (.integrityError "customers_pkey")
  return { db with customers }

theorem addCustomer_ok {db db' : Db} {customer : Customer}
    (h : db.addCustomer customer = .ok db') : ∃ customers, db' = { db with customers } := by
  simp only [addCustomer, seq_committed, require_committed, orRaise_committed,
    return_committed] at h
  obtain ⟨_, _, customers, _, rfl⟩ := h
  exact ⟨customers, rfl⟩

def addBooking (db : Db) (booking : Booking) : Except Raised Db := do
  require (∀ other ∈ db.bookings.rows, other.reference ≠ booking.reference)
    (.integrityError "bookings_reference_key")
  require (∀ other ∈ db.bookings.rows, other.idempotencyKey ≠ booking.idempotencyKey)
    (.integrityError "bookings_idempotency_key_key")
  let bookings ← orRaise (db.bookings.insert? booking) (.integrityError "bookings_pkey")
  return { db with bookings }

def addHold (db : Db) (hold : BookingCapacityHold) : Except Raised Db := do
  require (hold.slotStartUtc < hold.slotEndUtc) (.integrityError "capacity_hold_range")
  require (0 < hold.capacityMinutes) (.integrityError "capacity_hold_minutes")
  require (∀ other ∈ db.holds.rows, other.idempotencyKey ≠ hold.idempotencyKey)
    (.integrityError "booking_capacity_holds_idempotency_key_key")
  let holds ← orRaise (db.holds.insert? hold) (.integrityError "booking_capacity_holds_pkey")
  return { db with holds }

end Db

end Breero
