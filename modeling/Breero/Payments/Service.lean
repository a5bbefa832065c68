import Breero.Jobs.Transitions

/-!
`PaymentService`. Each function is one transaction, or a part of one: it takes the
committed database and what the provider, the clock and the id generator answered,
and returns the database to commit or raises.

* `createIntent`, `capture` and `refund` are the commands of the API;
* `processWebhook` is the main transaction of a delivery, `recordFailure` the
  second one, which a failed delivery commits after its rollback;
* `settle` is what a captured payment does to its booking, quote or lead.
-/

namespace Breero.Payments
open KeyedTable Transaction Jobs

/-- `STRIPE_STATUS`. -/
def stripeStatus : List (String × PaymentStatus) :=
  [("requires_payment_method", .created),
   ("requires_confirmation", .created),
   ("requires_action", .requiresAction),
   ("processing", .authorized),
   ("requires_capture", .authorized),
   ("succeeded", .captured),
   ("canceled", .canceled)]

/-- `STRIPE_STATUS.get(status, default)`. -/
def statusOf (status : String) (default : PaymentStatus) : PaymentStatus :=
  (stripeStatus.lookup status).getD default

structure PaymentView where
  id : Uuid
  bookingId : Option Uuid
  quoteId : Option Uuid
  leadPurchaseId : Option Uuid
  paymentPurpose : PaymentPurpose
  provider : String
  status : PaymentStatus
  amountMinor : Int
  currency : String
  capturedAmountMinor : Int
  clientSecret : Option String
  failureCode : Option String
  deriving DecidableEq, Repr

/-- `_view`, without the timestamps the database sets. -/
def view (payment : Payment) : PaymentView := {
  id := payment.id
  bookingId := payment.bookingId
  quoteId := payment.quoteId
  leadPurchaseId := payment.leadPurchaseId
  paymentPurpose := payment.paymentPurpose
  provider := payment.provider
  status := payment.status
  amountMinor := payment.amountMinor
  currency := payment.currency
  capturedAmountMinor := payment.capturedAmountMinor
  clientSecret := payment.providerClientSecret
  failureCode := payment.failureCode }

/-- `d[key] = value` on a dictionary in insertion order. -/
def setItem (key value : String) : List (String × String) → List (String × String)
  | [] => [(key, value)]
  | (k, v) :: rest => if k = key then (key, value) :: rest else (k, v) :: setItem key value rest

/-! ## Creating an intent -/

/-- The checks of `create_intent` on the booking or quote to be paid. The result is
the metadata of the intent. -/
def checkTarget (db : Db) (payload : PaymentIntentCreate) :
    Except Raised (List (String × String)) :=
  match payload.paymentPurpose with
  | .bookingDiagnostic => do
    require (payload.bookingId.isSome ∧ payload.quoteId = none)
      (.invalidPaymentState "Booking payments require only booking_id")
    let booking ← orRaise (payload.bookingId.bind db.bookings.get?)
      (.paymentNotFound "Booking not found")
    require (payload.amountMinor = booking.totalAmount ∧
        upper payload.currency = upper booking.currency)
      (.invalidPaymentState "Payment amount or currency does not match the booking")
    require (booking.status = .pendingPayment)
      (.invalidPaymentState "Booking is not awaiting payment")
    return setItem "booking_id" (toString booking.id) payload.metadata
  | _ => do
    require (payload.quoteId.isSome ∧ payload.bookingId = none)
      (.invalidPaymentState "Additional-work payments require only quote_id")
    let quote ← orRaise (payload.quoteId.bind db.workRequests.get?)
      (.paymentNotFound "Quote not found")
    require (quote.status = .approvedPendingPayment)
      (.invalidPaymentState "Quote is not awaiting payment")
    require (payload.amountMinor = quote.totalMinor ∧
        upper payload.currency = upper quote.currency)
      (.invalidPaymentState "Payment amount or currency does not match the quote")
    return setItem "quote_id" (toString quote.id) payload.metadata

/-- The answer to a key that was used before. -/
def replayIntent (db : Db) (existing : IdempotencyRecord) (requestHash : String) :
    Except Raised (Db × PaymentView) := do
  require (existing.requestHash = requestHash)
    (.idempotencyConflict "Idempotency key was already used with another request")
  let id ← orRaise existing.responseBody
    (.idempotencyConflict "Request with this idempotency key is still processing")
  let payment ← orRaise (db.payments.get? id)
    (.paymentNotFound "Stored idempotent payment no longer exists")
  return (db, view payment)

/-- The payment of a new intent. -/
def newPayment (payload : PaymentIntentCreate) (metadata : List (String × String))
    (intent : ProviderIntent) (paymentId : Uuid) : Payment := {
  id := paymentId
  bookingId := payload.bookingId
  quoteId := payload.quoteId
  paymentPurpose := payload.paymentPurpose
  providerPaymentId := some intent.id
  status := statusOf intent.status .created
  amountMinor := payload.amountMinor
  currency := payload.currency
  capturedAmountMinor := intent.amountReceived
  providerClientSecret := intent.clientSecret
  metadata }

def createIntent (settings : Settings) (db : Db) (payload : PaymentIntentCreate) (key : String)
    (answer : Except Raised ProviderIntent) (paymentId : Uuid) :
    Except Raised (Db × PaymentView) := do
  require (payload.paymentPurpose ≠ .professionalLead) (.invalidPaymentState
    "Professional lead payments must use the provider purchase endpoint")
  match db.idempotencyRecords.get? ("create_intent", key) with
  | some existing => replayIntent db existing (settings.hash payload)
  | none => do
    let metadata ← checkTarget db payload
    let record : IdempotencyRecord := {
      operation := "create_intent", idempotencyKey := key, requestHash := settings.hash payload }
    let idempotencyRecords ← orRaise (db.idempotencyRecords.insert? record)
      (.integrityError "uq_payment_idempotency_operation_key")
    let intent ← answer
    let payment := newPayment payload metadata intent paymentId
    let db ← { db with idempotencyRecords }.addPayment payment
    let answered := { record with responseCode := some 201, responseBody := some payment.id }
    return ({ db with idempotencyRecords := db.idempotencyRecords.put answered }, view payment)

/-- The payment of a lead purchase. -/
def leadPayment (purchase : LeadPurchase) (intent : ProviderIntent) (paymentId : Uuid) :
    Payment := {
  id := paymentId
  leadPurchaseId := some purchase.id
  paymentPurpose := .professionalLead
  providerPaymentId := some intent.id
  status := statusOf intent.status .created
  amountMinor := purchase.priceMinor
  currency := upper purchase.currency
  capturedAmountMinor := intent.amountReceived
  providerClientSecret := intent.clientSecret
  metadata := [
    ("lead_purchase_id", toString purchase.id),
    ("lead_id", toString purchase.leadId),
    ("provider_id", toString purchase.vendorId)] }

/-- Create the server-authoritative Stripe intent for a locked lead purchase. -/
def createProfessionalLeadIntent (db : Db) (purchase : LeadPurchase)
    (answer : Except Raised ProviderIntent) (paymentId : Uuid) : Except Raised (Db × Payment) :=
  match db.payments.rows.find? (fun p => p.leadPurchaseId = some purchase.id) with
  | some existing => return (db, existing)
  | none => do
    let intent ← answer
    let payment := leadPayment purchase intent paymentId
    let db ← db.addPayment payment
    return (db, payment)

/-! ## Settlement -/

def paymentCaptured (payment : Payment) (now : Instant) : IntegrationEvent := {
  aggregateType := "payment"
  aggregateId := payment.id
  eventType := "payment_captured"
  payload := [("payment_id", .uuid payment.id), ("purpose", .str payment.paymentPurpose.value)]
  nextAttemptAt := now }

def settleLead (db : Db) (payment : Payment) : Except Raised Db := do
  let purchase ← orRaise (payment.leadPurchaseId.bind db.leadPurchases.get?)
    (.paymentNotFound "Payment references an unknown lead purchase")
  let lead ← orRaise (db.leads.get? purchase.leadId)
    (.invalidPaymentState "Lead cannot be settled from its current state")
  require (lead.status = .reserved ∨ lead.status = .purchased)
    (.invalidPaymentState "Lead cannot be settled from its current state")
  return { db with
    leadPurchases := db.leadPurchases.put { purchase with status := .paid }
    leads := db.leads.put { lead with status := .purchased } }

/-- Resume the job that waited for the quote. -/
def resumeJob (db : Db) (jobId : Uuid) (now : Instant) : Except Raised Db :=
  match db.jobs.get? jobId with
  | some job =>
    if job.status = .awaitingApproval then do
      let (db, _, _) ← applyTransition db job .inProgress none "system"
        (some "additional_work_payment_captured") [] now
      return db
    else return db
  | none => return db

def settleQuote (db : Db) (payment : Payment) (quote : WorkRequest) (now : Instant) :
    Except Raised Db := do
  require (quote.status = .approvedPendingPayment)
    (.invalidPaymentState "Quote cannot be settled from its current state")
  let quote ← applyWorkRequestTransition quote .approved
  let quote := { quote with paymentId := some payment.id }
  resumeJob { db with workRequests := db.workRequests.put quote } quote.jobId now

/-- The job of a booking whose evaluation fee was paid, unless it has one. -/
def createJob (db : Db) (booking : Booking) (now : Instant) (jobId : Uuid) : Except Raised Db :=
  match db.jobOfBooking booking.id with
  | some _ => return db
  | none => do
    let job : Job := {
      id := jobId
      bookingId := booking.id
      customerId := some booking.customerId
      serviceId := booking.serviceId
      addressId := booking.addressId
      status := .created
      scheduledStart := booking.windowStart
      scheduledEnd := booking.windowEnd }
    let db ← db.addJob job
    let event : JobEvent := {
      jobId, fromStatus := none, toStatus := .created, actorId := none, actorType := "system",
      reason := some "payment_captured" }
    return { db with jobEvents := db.jobEvents ++ [event] }.emit {
      aggregateType := "job"
      aggregateId := jobId
      eventType := "job.created"
      payload := [("job_id", .uuid jobId), ("booking_id", .uuid booking.id)]
      nextAttemptAt := now }

def confirmBookingAndCreateJob (db : Db) (payment : Payment) (now : Instant) (jobId : Uuid) :
    Except Raised Db := do
  let booking ← orRaise (payment.bookingId.bind db.bookings.get?)
    (.paymentNotFound "Payment references an unknown booking")
  if booking.status = .pendingProviderConfirmation ∨ booking.status = .confirmed then
    return db
  else do
    require (booking.status = .pendingPayment)
      (.invalidPaymentState "Booking cannot be confirmed from its current state")
    -- the payment authorizes the fee; only an explicit assignment confirms the time
    let booking := { booking with status := .pendingProviderConfirmation }
    createJob { db with bookings := db.bookings.put booking } booking now jobId

def settle (db : Db) (payment : Payment) (now : Instant) (jobId : Uuid) : Except Raised Db :=
  match payment.paymentPurpose with
  | .professionalLead => do
    let db ← settleLead db payment
    return db.emit (paymentCaptured payment now)
  | .quoteAdditionalWork => do
    let quote ← orRaise (payment.quoteId.bind db.workRequests.get?)
      (.paymentNotFound "Payment references an unknown quote")
    if quote.status = .approved then
      return db
    else do
      let db ← settleQuote db payment quote now
      return db.emit (paymentCaptured payment now)
  | .bookingDiagnostic => do
    let db ← confirmBookingAndCreateJob db payment now jobId
    return db.emit (paymentCaptured payment now)

def settleIfCaptured (db : Db) (payment : Payment) (now : Instant) (jobId : Uuid) :
    Except Raised Db :=
  if payment.status = .captured then settle db payment now jobId else return db

/-- `_release_failed_lead_purchase`. -/
def releaseFailedLeadPurchase (db : Db) (payment : Payment) : Db :=
  if payment.paymentPurpose = .professionalLead then
    match payment.leadPurchaseId.bind db.leadPurchases.get? with
    | none => db
    | some purchase =>
      let db := { db with
        leadPurchases := db.leadPurchases.put { purchase with status := .failed } }
      match db.leads.get? purchase.leadId with
      | none => db
      | some lead =>
        if lead.status = .reserved then
          { db with leads :=
              db.leads.put { lead with status := .available, purchasedByVendorId := none } }
        else db
  else db

/-- `_mark_lead_purchase_refunded`, with the caller's test of the purpose. -/
def markLeadPurchaseRefunded (db : Db) (payment : Payment) : Db :=
  if payment.paymentPurpose = .professionalLead ∧ payment.status = .refunded then
    match payment.leadPurchaseId.bind db.leadPurchases.get? with
    | none => db
    | some purchase =>
      { db with leadPurchases := db.leadPurchases.put { purchase with status := .refunded } }
  else db

/-! ## Capture -/

def capture (db : Db) (paymentId : Uuid) (amountMinor : Option Int)
    (answer : Except Raised ProviderIntent) (now : Instant) (jobId : Uuid) :
    Except Raised (Db × PaymentView) := do
  let payment ← orRaise (db.payments.get? paymentId) (.paymentNotFound "Payment not found")
  if payment.status = .captured then
    return (db, view payment)
  else do
    require (payment.status = .authorized ∧ payment.providerPaymentId.isSome)
      (.invalidPaymentState "Only an authorized payment can be captured")
    require (∀ amount ∈ amountMinor, amount ≤ payment.amountMinor)
      (.invalidPaymentState "Capture amount exceeds authorized amount")
    let intent ← answer
    let captured := { payment with
      status := statusOf intent.status payment.status
      capturedAmountMinor := intent.amountReceived }
    let db ← db.putPayment captured
    let db ← settleIfCaptured db captured now jobId
    return (db, view captured)

/-! ## Webhooks -/

def paymentByProviderId (db : Db) (providerId : String) : Option Payment :=
  db.payments.rows.find? (fun p => p.providerPaymentId = some providerId)

def refundByProviderId (db : Db) (providerId : String) : Option Refund :=
  db.refunds.rows.find? (fun r => r.providerRefundId = some providerId)

/-- `obj.get("last_payment_error", {}).get("code")`. -/
def failureCode : Member (Option String) → Except Raised (Option String)
  | .missing => return none
  | .null => throw (.other "'NoneType' object has no attribute 'get'")
  | .value code => return code

/-- `obj.get("amount_received", current)`, stored in a column that is not nullable. -/
def amountReceived (received : Member Int) (current : Int) : Except Raised Int :=
  match received with
  | .missing => return current
  | .null => throw (.integrityError "captured_amount_minor")
  | .value amount => return amount

/-- The branch of an event about a known payment. -/
def applyIntentEvent (db : Db) (payment : Payment) (event : StripeEvent) (now : Instant)
    (jobId : Uuid) : Except Raised Db :=
  if event.type = "payment_intent.payment_failed" then do
    let code ← failureCode event.object.lastPaymentError
    let payment := { payment with status := .failed, failureCode := code }
    let db ← db.putPayment payment
    return releaseFailedLeadPurchase db payment
  else if event.type = "payment_intent.canceled" then do
    let payment := { payment with status := .canceled }
    let db ← db.putPayment payment
    return releaseFailedLeadPurchase db payment
  else if startsWith event.type "payment_intent." then do
    let amount ← amountReceived event.object.amountReceived payment.capturedAmountMinor
    let payment := { payment with
      status := statusOf (event.object.status.getD "") payment.status
      capturedAmountMinor := amount }
    let db ← db.putPayment payment
    settleIfCaptured db payment now jobId
  else return db

def activeRefundStatus (status : RefundStatus) : Bool :=
  status = .pending ∨ status = .succeeded

/-- The sum of the amounts of a payment's refunds in the statuses `p` accepts. -/
def refundedAmount (db : Db) (paymentId : Uuid) (p : RefundStatus → Bool) : Int :=
  ((db.refunds.rows.filter (fun r => r.paymentId = paymentId && p r.status)).map
    Refund.amountMinor).sum

/-- The payment after a refund that succeeded, `whole` if nothing is left to refund. -/
def refundedPayment (payment : Payment) (whole : Bool) : Payment :=
  { payment with status := if whole then .refunded else .partiallyRefunded }

def applyRefunded (db : Db) (payment : Payment) (whole : Bool) : Except Raised Db := do
  let db ← db.putPayment (refundedPayment payment whole)
  return markLeadPurchaseRefunded db (refundedPayment payment whole)

/-- Everything that was captured has been refunded. -/
def whollyRefunded (db : Db) (payment : Payment) : Bool :=
  refundedAmount db payment.id (· = .succeeded) ≥ payment.capturedAmountMinor

/-- The branch of an event about a refund. The payment found is part of the result. -/
def applyRefundEvent (db : Db) (obj : StripeObject) : Except Raised (Db × Option Payment) :=
  match obj.id.bind (refundByProviderId db), obj.status.bind RefundStatus.ofValue? with
  | some refund, some status => do
    let db := { db with refunds := db.refunds.put { refund with status } }
    match db.payments.get? refund.paymentId with
    | some payment => do
      let db ← (if status = .succeeded
        then applyRefunded db payment (whollyRefunded db payment) else pure db)
      return (db, some payment)
    | none => return (db, none)
  | _, _ => return (db, none)

/-- The payment a payment_intent event is about. -/
def eventPayment (db : Db) (event : StripeEvent) : Option Payment :=
  if event.object.object = some "payment_intent"
  then event.object.id.bind (paymentByProviderId db) else none

def applyEvent (db : Db) (event : StripeEvent) (now : Instant) (jobId : Uuid) :
    Except Raised (Db × Option Payment) :=
  match eventPayment db event with
  | some payment => do
    let db ← applyIntentEvent db payment event now jobId
    return (db, some payment)
  | none =>
    if event.object.object = some "refund" then applyRefundEvent db event.object
    else return (db, none)

def recordedEvent (db : Db) (event : StripeEvent) : Option PaymentEvent :=
  db.paymentEvents.get? ("stripe", event.id)

/-- Store the event as processed. -/
def recordProcessed (db : Db) (event : StripeEvent) (paymentId : Option Uuid) (now : Instant) :
    Except Raised Db :=
  match recordedEvent db event with
  | some recorded =>
    return { db with paymentEvents := db.paymentEvents.put { recorded with
      status := .processed, attempts := recorded.attempts + 1, lastError := none,
      processedAt := some now, paymentId, payload := event } }
  | none => do
    let paymentEvents ← orRaise (db.paymentEvents.insert? {
      provider := "stripe", providerEventId := event.id, eventType := event.type, paymentId,
      payload := event, status := .processed, processedAt := some now })
      (.integrityError "uq_payment_events_provider_event")
    return { db with paymentEvents }

def alreadyProcessed (db : Db) (event : StripeEvent) : Bool :=
  match recordedEvent db event with
  | some recorded => recorded.status = .processed
  | none => false

/-- The main transaction of a delivery; the flag answers a duplicate. -/
def processWebhook (db : Db) (event : StripeEvent) (now : Instant) (jobId : Uuid) :
    Except Raised (Db × Bool) :=
  if alreadyProcessed db event then
    return (db, true)
  else do
    let (db, payment) ← applyEvent db event now jobId
    let db ← recordProcessed db event (payment.map Payment.id) now
    return (db, false)

/-- The second transaction of a delivery whose main one raised `exc` and was rolled
back. It takes no lock and does not look at the status it replaces. -/
def recordFailure (db : Db) (event : StripeEvent) (exc : Raised) : Except Raised Db :=
  match recordedEvent db event with
  | some recorded =>
    return { db with paymentEvents := db.paymentEvents.put { recorded with
      status := .failed, attempts := recorded.attempts + 1,
      lastError := some (truncate 2000 exc.text) } }
  | none => do
    let paymentEvents ← orRaise (db.paymentEvents.insert? {
      provider := "stripe", providerEventId := event.id, eventType := event.type,
      payload := event, status := .failed, attempts := 1,
      lastError := some (truncate 2000 exc.text) })
      (.integrityError "uq_payment_events_provider_event")
    return { db with paymentEvents }

/-! ## Refunds -/

structure RefundView where
  id : Uuid
  paymentId : Uuid
  amountMinor : Int
  status : RefundStatus
  providerRefundId : Option String
  reason : Option String
  deriving DecidableEq, Repr

def refundView (refund : Refund) : RefundView := {
  id := refund.id
  paymentId := refund.paymentId
  amountMinor := refund.amountMinor
  status := refund.status
  providerRefundId := refund.providerRefundId
  reason := refund.reason }

def refundByKey (db : Db) (paymentId : Uuid) (key : String) : Option Refund :=
  db.refunds.rows.find? (fun r => r.paymentId = paymentId ∧ r.idempotencyKey = key)

/-- The status of a refund the provider answered with. -/
def refundStatusOf (answer : ProviderRefund) : RefundStatus :=
  (RefundStatus.ofValue? answer.status).getD .pending

def refundAudit (payment : Payment) (refund : Refund) (answer : ProviderRefund)
    (actorId : Uuid) (now : Instant) : AuditLog := {
  actorId := some actorId
  action := "refund.create"
  resourceType := "payment"
  resourceId := payment.id
  metadata := [("amount_minor", .int refund.amountMinor), ("currency", .str payment.currency),
    ("reason", .ofOption refund.reason), ("provider_refund_id", .str answer.id),
    ("provider_status", .str refund.status.value)]
  createdAt := now }

/-- `refund_created`. The refund has its id only once it is flushed, and before the
payload is built only the query for a lead purchase flushes it. -/
def refundCreated (payment : Payment) (refund : Refund) (now : Instant) : IntegrationEvent :=
  let flushed := payment.paymentPurpose = .professionalLead ∧ refund.status = .succeeded
  { aggregateType := "payment"
    aggregateId := payment.id
    eventType := "refund_created"
    payload := [("payment_id", .uuid payment.id),
      ("refund_id", if flushed then .uuid refund.id else .str "None"),
      ("amount_minor", .int refund.amountMinor)]
    nextAttemptAt := now }

def newRefund (payment : Payment) (requested : Int) (key : String) (actorId : Uuid)
    (reason : Option String) (answer : ProviderRefund) (refundId : Uuid) : Refund := {
  id := refundId
  paymentId := payment.id
  amountMinor := requested
  status := refundStatusOf answer
  providerRefundId := some answer.id
  idempotencyKey := key
  reason
  createdBy := actorId }

def refund (db : Db) (paymentId : Uuid) (amountMinor : Option Int) (key : String)
    (actorId : Uuid) (reason : Option String) (answer : Except Raised ProviderRefund)
    (now : Instant) (refundId : Uuid) : Except Raised (Db × RefundView) := do
  let payment ← orRaise (db.payments.get? paymentId) (.paymentNotFound "Payment not found")
  require payment.providerPaymentId.isSome (.paymentNotFound "Payment not found")
  match refundByKey db payment.id key with
  | some existing => return (db, refundView existing)
  | none => do
    require (payment.status = .captured ∨ payment.status = .partiallyRefunded)
      (.invalidPaymentState "Only captured payments can be refunded")
    let refunded := refundedAmount db payment.id activeRefundStatus
    let remaining := payment.capturedAmountMinor - refunded
    let requested := amountMinor.getD remaining
    require (0 < requested ∧ requested ≤ remaining)
      (.invalidPaymentState "Refund amount exceeds refundable balance")
    let answer ← answer
    let refund := newRefund payment requested key actorId reason answer refundId
    let db ← db.addRefund refund
    let db := db.audit (refundAudit payment refund answer actorId now)
    let db ← (if refund.status = .succeeded
      then applyRefunded db payment (requested = remaining) else pure db)
    return (db.emit (refundCreated payment refund now), refundView refund)

end Breero.Payments
