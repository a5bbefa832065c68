import Breero.Payments.System

/-!
What a committed transaction of the payment system writes, said once for each
function, so that no later proof unfolds a service.

* `settle_ok` lists the five ways a payment settles;
* `createIntent_ok`, `purchase_ok`, `capture_ok` and `refund_ok` give the new
  database of a command, and `deliver_ok` that of a delivery.
-/

namespace Breero.Payments
open KeyedTable Transaction Jobs Leads

/-! ## Settlement -/

/-- The ways `settle` commits. -/
inductive Settlement (db : Db) (payment : Payment) (now : Instant) : Db → Prop
  | lead (purchase : LeadPurchase) (lead : ProfessionalLead)
      (purpose : payment.paymentPurpose = .professionalLead)
      (found : payment.leadPurchaseId.bind db.leadPurchases.get? = some purchase)
      (foundLead : db.leads.get? purchase.leadId = some lead)
      (status : lead.status = .reserved ∨ lead.status = .purchased) :
      Settlement db payment now { db with
        leadPurchases := db.leadPurchases.put { purchase with status := .paid }
        leads := db.leads.put { lead with status := .purchased }
        outbox := db.outbox ++ [paymentCaptured payment now] }
  | quoteAgain (quote : WorkRequest)
      (purpose : payment.paymentPurpose = .quoteAdditionalWork)
      (found : payment.quoteId.bind db.workRequests.get? = some quote)
      (status : quote.status = .approved) : Settlement db payment now db
  | quote (quote : WorkRequest) (jobs : Table Job) (jobEvents : List JobEvent)
      (purpose : payment.paymentPurpose = .quoteAdditionalWork)
      (found : payment.quoteId.bind db.workRequests.get? = some quote)
      (status : quote.status = .approvedPendingPayment) :
      Settlement db payment now { db with
        workRequests := db.workRequests.put
          { quote with status := .approved, paymentId := some payment.id }
        jobs, jobEvents
        outbox := db.outbox ++ [paymentCaptured payment now] }
  | bookingAgain (booking : Booking)
      (purpose : payment.paymentPurpose = .bookingDiagnostic)
      (found : payment.bookingId.bind db.bookings.get? = some booking)
      (status : booking.status = .pendingProviderConfirmation ∨ booking.status = .confirmed) :
      Settlement db payment now { db with outbox := db.outbox ++ [paymentCaptured payment now] }
  | booking (booking : Booking) (jobs : Table Job) (jobEvents : List JobEvent)
      (created : List IntegrationEvent)
      (purpose : payment.paymentPurpose = .bookingDiagnostic)
      (found : payment.bookingId.bind db.bookings.get? = some booking)
      (status : booking.status = .pendingPayment)
      (createdOnly : ∀ event ∈ created, event.eventType = "job.created") :
      Settlement db payment now { db with
        bookings := db.bookings.put { booking with status := .pendingProviderConfirmation }
        jobs, jobEvents
        outbox := db.outbox ++ created ++ [paymentCaptured payment now] }

theorem resumeJob_ok {db db' : Db} {jobId : Uuid} {now : Instant}
    (h : resumeJob db jobId now = .ok db') :
    ∃ jobs jobEvents, db' = { db with jobs, jobEvents } := by
  unfold resumeJob at h
  split at h
  · next job _ =>
    split at h
    · simp only [seq_committed, return_committed, Prod.exists] at h
      obtain ⟨_, _, _, htransition, rfl⟩ := h
      rcases applyTransition_cases htransition with ⟨_, rfl, _⟩ | ⟨_, _, _, _, rfl⟩
      · exact ⟨_, _, rfl⟩
      · exact ⟨_, _, rfl⟩
    · rw [return_committed] at h
      exact ⟨db.jobs, db.jobEvents, h.symm⟩
  · rw [return_committed] at h
    exact ⟨db.jobs, db.jobEvents, h.symm⟩

theorem createJob_ok {db db' : Db} {booking : Booking} {now : Instant} {jobId : Uuid}
    (h : createJob db booking now jobId = .ok db') :
    ∃ jobs jobEvents created, (∀ event ∈ created, event.eventType = "job.created") ∧
      db' = { db with jobs, jobEvents, outbox := db.outbox ++ created } := by
  unfold createJob at h
  split at h
  · rw [return_committed] at h
    subst h
    exact ⟨db.jobs, db.jobEvents, [], by simp, by simp⟩
  · simp only [seq_committed, return_committed] at h
    obtain ⟨added, hadd, rfl⟩ := h
    obtain ⟨_, jobs, _, rfl⟩ := Db.addJob_ok hadd
    exact ⟨jobs, _, [_], by simp, rfl⟩

theorem settle_ok {db db' : Db} {payment : Payment} {now : Instant} {jobId : Uuid}
    (h : settle db payment now jobId = .ok db') : Settlement db payment now db' := by
  unfold settle at h
  split at h
  case h_1 hpurpose =>
    simp only [settleLead, seq_committed, orRaise_committed, require_committed,
      return_committed] at h
    obtain ⟨_, ⟨purchase, hpurchase, lead, hlead, _, hstatus, rfl⟩, rfl⟩ := h
    exact .lead purchase lead hpurpose hpurchase hlead hstatus
  case h_2 hpurpose =>
    simp only [seq_committed, orRaise_committed] at h
    obtain ⟨quote, hquote, h⟩ := h
    split at h
    · next happroved =>
      rw [return_committed] at h
      exact h ▸ .quoteAgain quote hpurpose hquote happroved
    · simp only [settleQuote, seq_committed, require_committed, return_committed] at h
      obtain ⟨_, ⟨_, hstatus, approved, htransition, hresume⟩, rfl⟩ := h
      obtain ⟨jobs, jobEvents, rfl⟩ := resumeJob_ok hresume
      have happroved := applyWorkRequestTransition_ok htransition
      subst happroved
      exact .quote quote jobs jobEvents hpurpose hquote hstatus
  case h_3 hpurpose =>
    simp only [confirmBookingAndCreateJob, seq_committed, orRaise_committed,
      return_committed] at h
    obtain ⟨_, ⟨booking, hbooking, h⟩, rfl⟩ := h
    split at h
    · next hagain =>
      rw [return_committed] at h
      subst h
      exact .bookingAgain booking hpurpose hbooking hagain
    · simp only [seq_committed, require_committed] at h
      obtain ⟨_, hstatus, hcreate⟩ := h
      obtain ⟨jobs, jobEvents, created, hcreated, rfl⟩ := createJob_ok hcreate
      exact .booking booking jobs jobEvents created hpurpose hbooking hstatus hcreated

/-- A settlement leaves the tables of the payment service itself as they are. -/
theorem Settlement.ledger {db db' : Db} {payment : Payment} {now : Instant}
    (h : Settlement db payment now db') :
    db'.payments = db.payments ∧ db'.refunds = db.refunds ∧
      db'.paymentEvents = db.paymentEvents := by
  cases h <;> exact ⟨rfl, rfl, rfl⟩

/-- A payment that was just written, settled if it is now captured. -/
def SettledIfCaptured (db : Db) (payment : Payment) (now : Instant) (db' : Db) : Prop :=
  (payment.status = .captured ∧ Settlement db payment now db') ∨
    (payment.status ≠ .captured ∧ db' = db)

theorem settleIfCaptured_ok {db db' : Db} {payment : Payment} {now : Instant} {jobId : Uuid}
    (h : settleIfCaptured db payment now jobId = .ok db') :
    SettledIfCaptured db payment now db' := by
  unfold settleIfCaptured at h
  split at h
  · next hstatus => exact Or.inl ⟨hstatus, settle_ok h⟩
  · next hstatus =>
    rw [return_committed] at h
    exact Or.inr ⟨hstatus, h.symm⟩

theorem SettledIfCaptured.ledger {db db' : Db} {payment : Payment} {now : Instant}
    (h : SettledIfCaptured db payment now db') :
    db'.payments = db.payments ∧ db'.refunds = db.refunds ∧
      db'.paymentEvents = db.paymentEvents := by
  rcases h with ⟨_, h⟩ | ⟨_, rfl⟩
  · exact h.ledger
  · exact ⟨rfl, rfl, rfl⟩

/-! ## Lead purchases after a failure or a refund -/

theorem releaseFailedLeadPurchase_eq (db : Db) (payment : Payment) :
    ∃ leadPurchases leads,
      releaseFailedLeadPurchase db payment = { db with leadPurchases, leads } := by
  unfold releaseFailedLeadPurchase
  split
  · split
    · exact ⟨_, _, rfl⟩
    · dsimp only
      split
      · exact ⟨_, _, rfl⟩
      · split
        · exact ⟨_, _, rfl⟩
        · exact ⟨_, _, rfl⟩
  · exact ⟨_, _, rfl⟩

theorem releaseFailedLeadPurchase_payments (db : Db) (payment : Payment) :
    (releaseFailedLeadPurchase db payment).payments = db.payments := by
  obtain ⟨_, _, heq⟩ := releaseFailedLeadPurchase_eq db payment
  rw [heq]

theorem releaseFailedLeadPurchase_refunds (db : Db) (payment : Payment) :
    (releaseFailedLeadPurchase db payment).refunds = db.refunds := by
  obtain ⟨_, _, heq⟩ := releaseFailedLeadPurchase_eq db payment
  rw [heq]

theorem releaseFailedLeadPurchase_paymentEvents (db : Db) (payment : Payment) :
    (releaseFailedLeadPurchase db payment).paymentEvents = db.paymentEvents := by
  obtain ⟨_, _, heq⟩ := releaseFailedLeadPurchase_eq db payment
  rw [heq]

theorem releaseFailedLeadPurchase_idempotencyRecords (db : Db) (payment : Payment) :
    (releaseFailedLeadPurchase db payment).idempotencyRecords = db.idempotencyRecords := by
  obtain ⟨_, _, heq⟩ := releaseFailedLeadPurchase_eq db payment
  rw [heq]

theorem markLeadPurchaseRefunded_eq (db : Db) (payment : Payment) :
    ∃ leadPurchases, markLeadPurchaseRefunded db payment = { db with leadPurchases } := by
  unfold markLeadPurchaseRefunded
  split
  · split <;> exact ⟨_, rfl⟩
  · exact ⟨_, rfl⟩

theorem markLeadPurchaseRefunded_payments (db : Db) (payment : Payment) :
    (markLeadPurchaseRefunded db payment).payments = db.payments := by
  obtain ⟨_, heq⟩ := markLeadPurchaseRefunded_eq db payment
  rw [heq]

theorem markLeadPurchaseRefunded_refunds (db : Db) (payment : Payment) :
    (markLeadPurchaseRefunded db payment).refunds = db.refunds := by
  obtain ⟨_, heq⟩ := markLeadPurchaseRefunded_eq db payment
  rw [heq]

theorem markLeadPurchaseRefunded_paymentEvents (db : Db) (payment : Payment) :
    (markLeadPurchaseRefunded db payment).paymentEvents = db.paymentEvents := by
  obtain ⟨_, heq⟩ := markLeadPurchaseRefunded_eq db payment
  rw [heq]

theorem markLeadPurchaseRefunded_idempotencyRecords (db : Db) (payment : Payment) :
    (markLeadPurchaseRefunded db payment).idempotencyRecords = db.idempotencyRecords := by
  obtain ⟨_, heq⟩ := markLeadPurchaseRefunded_eq db payment
  rw [heq]

/-! ## Commands -/

theorem createIntent_ok {settings : Settings} {db db' : Db} {payload : PaymentIntentCreate}
    {key : String} {answer : Except Raised ProviderIntent} {paymentId : Uuid} {v : PaymentView}
    (h : createIntent settings db payload key answer paymentId = .ok (db', v)) :
    db' = db ∨ ∃ metadata intent idempotencyRecords payments,
      answer = .ok intent ∧ payload.paymentPurpose ≠ .professionalLead ∧
      Db.PaymentChecks (newPayment payload metadata intent paymentId) ∧
      db.payments.insert? (newPayment payload metadata intent paymentId) = some payments ∧
      db' = { db with payments, idempotencyRecords } := by
  simp only [createIntent, seq_committed, require_committed] at h
  obtain ⟨_, hpurpose, h⟩ := h
  split at h
  · simp only [replayIntent, seq_committed, require_committed, orRaise_committed,
      return_committed, Prod.mk.injEq] at h
    obtain ⟨_, _, _, _, _, _, rfl, _⟩ := h
    exact Or.inl rfl
  · simp only [seq_committed, orRaise_committed, return_committed, Prod.mk.injEq] at h
    obtain ⟨metadata, _, records, _, intent, hanswer, _, hadd, rfl, _⟩ := h
    obtain ⟨hchecks, payments, hinsert, _, rfl⟩ := Db.addPayment_ok hadd
    exact Or.inr ⟨metadata, intent, _, payments, hanswer, hpurpose, hchecks, hinsert, rfl⟩

theorem createProfessionalLeadIntent_ok {db db' : Db} {purchase : LeadPurchase}
    {answer : Except Raised ProviderIntent} {paymentId : Uuid} {payment : Payment}
    (h : createProfessionalLeadIntent db purchase answer paymentId = .ok (db', payment)) :
    (db' = db ∧ payment ∈ db.payments.rows ∧ payment.leadPurchaseId = some purchase.id) ∨
    ∃ intent payments, answer = .ok intent ∧ payment = leadPayment purchase intent paymentId ∧
      Db.PaymentChecks payment ∧ db.payments.insert? payment = some payments ∧
      db' = { db with payments } := by
  unfold createProfessionalLeadIntent at h
  split at h
  · next existing hexisting =>
    simp only [return_committed, Prod.mk.injEq] at h
    obtain ⟨rfl, rfl⟩ := h
    exact Or.inl ⟨rfl, List.mem_of_find?_eq_some hexisting,
      by simpa using List.find?_some hexisting⟩
  · simp only [seq_committed, return_committed, Prod.mk.injEq] at h
    obtain ⟨intent, hanswer, _, hadd, rfl, rfl⟩ := h
    obtain ⟨hchecks, payments, hinsert, _, rfl⟩ := Db.addPayment_ok hadd
    exact Or.inr ⟨intent, payments, hanswer, rfl, hchecks, hinsert, rfl⟩

theorem purchase_ok {settings : Settings} {db db' : Db} {leadId vendorId : Uuid} {key : String}
    {answer : Except Raised ProviderIntent} {now : Instant} {purchaseId paymentId : Uuid}
    {v : PurchaseView}
    (h : purchase settings db leadId vendorId key answer now purchaseId paymentId =
      .ok (db', v)) :
    db' = db ∨ ∃ lead leadPurchases paid payment,
      db.leads.get? leadId = some lead ∧ lead.status = .available ∧
      (∀ other ∈ db.leadPurchases.rows, other.leadId ≠ lead.id) ∧
      db.leadPurchases.insert? (newPurchase lead vendorId key purchaseId) = some leadPurchases ∧
      createProfessionalLeadIntent { db with leadPurchases }
        (newPurchase lead vendorId key purchaseId) answer paymentId = .ok (paid, payment) ∧
      db' = { paid with
        leads := paid.leads.put
          { lead with status := .reserved, purchasedByVendorId := some vendorId } } := by
  simp only [purchase, seq_committed, require_committed, orRaise_committed] at h
  obtain ⟨_, _, _, _, _, _, h⟩ := h
  split at h
  · simp only [replayPurchase, seq_committed, require_committed, orRaise_committed,
      return_committed, Prod.mk.injEq] at h
    obtain ⟨_, _, _, _, rfl, _⟩ := h
    exact Or.inl rfl
  · simp only [purchasableLead, seq_committed, require_committed, orRaise_committed,
      return_committed, Prod.mk.injEq, Prod.exists] at h
    obtain ⟨_, ⟨lead, hlead, _, havailable, _, _, _, _, rfl⟩, _, hadd, paid, payment, hpay,
      rfl, _⟩ := h
    obtain ⟨hfresh, leadPurchases, hinsert, rfl⟩ := Db.addLeadPurchase_ok hadd
    exact Or.inr ⟨_, leadPurchases, paid, payment, hlead, havailable, hfresh, hinsert, hpay, rfl⟩

/-- The payment as a capture or an event of the intent rewrites it. -/
def reported (payment : Payment) (status : String) (amount : Int) : Payment :=
  { payment with status := statusOf status payment.status, capturedAmountMinor := amount }

theorem capture_ok {db db' : Db} {paymentId : Uuid} {amountMinor : Option Int}
    {answer : Except Raised ProviderIntent} {now : Instant} {jobId : Uuid} {v : PaymentView}
    (h : capture db paymentId amountMinor answer now jobId = .ok (db', v)) :
    db' = db ∨ ∃ payment intent, db.payments.get? paymentId = some payment ∧
      payment.status = .authorized ∧ answer = .ok intent ∧
      Db.PaymentChecks (reported payment intent.status intent.amountReceived) ∧
      SettledIfCaptured
        { db with
          payments := db.payments.put (reported payment intent.status intent.amountReceived) }
        (reported payment intent.status intent.amountReceived) now db' := by
  simp only [capture, seq_committed, orRaise_committed] at h
  obtain ⟨payment, hpayment, h⟩ := h
  split at h
  · simp only [return_committed, Prod.mk.injEq] at h
    exact Or.inl h.1.symm
  · simp only [seq_committed, require_committed, return_committed, Prod.mk.injEq] at h
    obtain ⟨_, ⟨hstatus, _⟩, _, _, intent, hanswer, _, hput, _, hsettle, rfl, _⟩ := h
    obtain ⟨hchecks, rfl⟩ := Db.putPayment_ok hput
    exact Or.inr ⟨payment, intent, hpayment, hstatus, hanswer, hchecks,
      settleIfCaptured_ok hsettle⟩

theorem applyRefunded_ok {db db' : Db} {payment : Payment} {whole : Bool}
    (h : applyRefunded db payment whole = .ok db') :
    db' = markLeadPurchaseRefunded
      { db with payments := db.payments.put (refundedPayment payment whole) }
      (refundedPayment payment whole) := by
  simp only [applyRefunded, seq_committed, return_committed] at h
  obtain ⟨_, hput, rfl⟩ := h
  obtain ⟨_, rfl⟩ := Db.putPayment_ok hput
  rfl

theorem markLeadPurchaseRefunded_emit (db : Db) (payment : Payment) (event : IntegrationEvent) :
    (markLeadPurchaseRefunded db payment).emit event =
      markLeadPurchaseRefunded (db.emit event) payment := by
  unfold markLeadPurchaseRefunded Db.emit
  dsimp only
  split
  · cases payment.leadPurchaseId.bind db.leadPurchases.get? <;> rfl
  · rfl

/-- The database with a new refund, its audit entry and its event. -/
def withRefund (db : Db) (refunds : Table Refund) (log : AuditLog) (event : IntegrationEvent) :
    Db :=
  { db with refunds, auditLogs := db.auditLogs ++ [log], outbox := db.outbox ++ [event] }

theorem refund_ok {db db' : Db} {paymentId : Uuid} {amountMinor : Option Int} {key : String}
    {actorId : Uuid} {reason : Option String} {answer : Except Raised ProviderRefund}
    {now : Instant} {refundId : Uuid} {v : RefundView}
    (h : refund db paymentId amountMinor key actorId reason answer now refundId = .ok (db', v)) :
    db' = db ∨ ∃ payment answered requested refunds,
      db.payments.get? paymentId = some payment ∧
      (payment.status = .captured ∨ payment.status = .partiallyRefunded) ∧
      0 < requested ∧
      refundedAmount db payment.id activeRefundStatus + requested ≤ payment.capturedAmountMinor ∧
      let made := newRefund payment requested key actorId reason answered refundId
      let after := withRefund db refunds (refundAudit payment made answered actorId now)
        (refundCreated payment made now)
      db.refunds.insert? made = some refunds ∧
      (db' = after ∨ ∃ whole, db' = markLeadPurchaseRefunded
        { after with payments := db.payments.put (refundedPayment payment whole) }
        (refundedPayment payment whole)) := by
  simp only [refund, seq_committed, orRaise_committed, require_committed] at h
  obtain ⟨payment, hpayment, _, _, h⟩ := h
  split at h
  · simp only [return_committed, Prod.mk.injEq] at h
    exact Or.inl h.1.symm
  · simp only [seq_committed, require_committed, return_committed, Prod.mk.injEq] at h
    obtain ⟨_, hstatus, _, ⟨hpos, hle⟩, answered, _, _, hadd, _, hrefunded, rfl, _⟩ := h
    obtain ⟨_, refunds, hinsert, rfl⟩ := Db.addRefund_ok hadd
    refine Or.inr ⟨payment, answered, _, refunds, hpayment, hstatus, hpos, by omega, hinsert, ?_⟩
    split at hrefunded
    · right
      rw [applyRefunded_ok hrefunded, markLeadPurchaseRefunded_emit]
      exact ⟨_, rfl⟩
    · left
      rw [return_committed] at hrefunded
      rw [← hrefunded]
      rfl

/-! ## Deliveries -/

/-- The event is about the state of an intent, not about a failure or a cancellation. -/
def ReportsState (event : StripeEvent) : Prop :=
  event.type ≠ "payment_intent.payment_failed" ∧ event.type ≠ "payment_intent.canceled" ∧
    startsWith event.type "payment_intent."

instance : DecidablePred ReportsState := fun _ => inferInstanceAs (Decidable (_ ∧ _))

/-- The status a payment_intent event gives the payment. -/
def reportedStatus (event : StripeEvent) : Option PaymentStatus :=
  if event.type = "payment_intent.payment_failed" then some .failed
  else if event.type = "payment_intent.canceled" then some .canceled
  else if startsWith event.type "payment_intent." then
    stripeStatus.lookup (event.object.status.getD "")
  else none

theorem reportedStatus_eq {event : StripeEvent} (h : ReportsState event) :
    reportedStatus event = stripeStatus.lookup (event.object.status.getD "") := by
  rw [reportedStatus, if_neg h.1, if_neg h.2.1, if_pos h.2.2]

/-- What an event about the payment `payment` does. -/
inductive IntentEffect (db : Db) (payment : Payment) (event : StripeEvent) (now : Instant) :
    Db → Prop
  | failed (code : Option String) (type : event.type = "payment_intent.payment_failed") :
      IntentEffect db payment event now
        (releaseFailedLeadPurchase
          { db with
            payments := db.payments.put { payment with status := .failed, failureCode := code } }
          { payment with status := .failed, failureCode := code })
  | canceled (type : event.type = "payment_intent.canceled") :
      IntentEffect db payment event now
        (releaseFailedLeadPurchase
          { db with payments := db.payments.put { payment with status := .canceled } }
          { payment with status := .canceled })
  | reported (amount : Int) (db' : Db)
      (type : ReportsState event)
      (received : amountReceived event.object.amountReceived payment.capturedAmountMinor =
        .ok amount)
      (checks : Db.PaymentChecks (reported payment (event.object.status.getD "") amount))
      (settled : SettledIfCaptured
        { db with
          payments := db.payments.put (reported payment (event.object.status.getD "") amount) }
        (Payments.reported payment (event.object.status.getD "") amount) now db') :
      IntentEffect db payment event now db'
  | ignored (type : ¬ startsWith event.type "payment_intent.") :
      IntentEffect db payment event now db

theorem applyIntentEvent_ok {db db' : Db} {payment : Payment} {event : StripeEvent}
    {now : Instant} {jobId : Uuid} (h : applyIntentEvent db payment event now jobId = .ok db') :
    IntentEffect db payment event now db' := by
  unfold applyIntentEvent at h
  split at h
  · next htype =>
    simp only [seq_committed, return_committed] at h
    obtain ⟨code, _, _, hput, rfl⟩ := h
    obtain ⟨_, rfl⟩ := Db.putPayment_ok hput
    exact .failed code htype
  · next hfailed =>
    split at h
    · next htype =>
      simp only [seq_committed, return_committed] at h
      obtain ⟨_, hput, rfl⟩ := h
      obtain ⟨_, rfl⟩ := Db.putPayment_ok hput
      exact .canceled htype
    · next hcanceled =>
      split at h
      · next htype =>
        simp only [seq_committed] at h
        obtain ⟨amount, hamount, _, hput, hsettle⟩ := h
        obtain ⟨hchecks, rfl⟩ := Db.putPayment_ok hput
        exact .reported amount db' ⟨hfailed, hcanceled, htype⟩ hamount hchecks
          (settleIfCaptured_ok hsettle)
      · next htype =>
        rw [return_committed] at h
        exact h ▸ .ignored htype

/-- What an event about a refund does. -/
inductive RefundEffect (db : Db) (obj : StripeObject) : Db → Prop
  | ignored : RefundEffect db obj db
  | noted (refund : Refund) (status : RefundStatus)
      (found : obj.id.bind (refundByProviderId db) = some refund)
      (shown : obj.status.bind RefundStatus.ofValue? = some status) :
      RefundEffect db obj { db with refunds := db.refunds.put { refund with status } }
  | succeeded (refund : Refund) (payment : Payment) (whole : Bool)
      (found : obj.id.bind (refundByProviderId db) = some refund)
      (shown : obj.status.bind RefundStatus.ofValue? = some .succeeded)
      (paid : db.payments.get? refund.paymentId = some payment) :
      RefundEffect db obj (markLeadPurchaseRefunded
        { db with
          refunds := db.refunds.put { refund with status := .succeeded }
          payments := db.payments.put (refundedPayment payment whole) }
        (refundedPayment payment whole))

theorem applyRefundEvent_ok {db db' : Db} {obj : StripeObject} {payment : Option Payment}
    (h : applyRefundEvent db obj = .ok (db', payment)) : RefundEffect db obj db' := by
  unfold applyRefundEvent at h
  split at h
  · next refund status hrefund hstatus =>
    dsimp only at h
    split at h
    · next payment hpayment =>
      simp only [seq_committed, return_committed, Prod.mk.injEq] at h
      obtain ⟨_, hrefunded, rfl, _⟩ := h
      split at hrefunded
      · next hsucceeded =>
        subst hsucceeded
        rw [applyRefunded_ok hrefunded]
        exact .succeeded refund payment _ hrefund hstatus hpayment
      · rw [return_committed] at hrefunded
        exact hrefunded ▸ .noted refund status hrefund hstatus
    · simp only [return_committed, Prod.mk.injEq] at h
      exact h.1 ▸ .noted refund status hrefund hstatus
  · simp only [return_committed, Prod.mk.injEq] at h
    exact h.1 ▸ .ignored

/-- What the body of a delivery does, before its event row is stored. -/
inductive EventEffect (db : Db) (event : StripeEvent) (now : Instant) (db' : Db) : Prop
  | intent (payment : Payment) (found : eventPayment db event = some payment)
      (effect : IntentEffect db payment event now db')
  | refund (object : event.object.object = some "refund")
      (effect : RefundEffect db event.object db')
  | ignored (same : db' = db)

theorem applyEvent_ok {db db' : Db} {event : StripeEvent} {now : Instant} {jobId : Uuid}
    {payment : Option Payment} (h : applyEvent db event now jobId = .ok (db', payment)) :
    EventEffect db event now db' := by
  unfold applyEvent at h
  split at h
  · next payment hpayment =>
    simp only [seq_committed, return_committed, Prod.mk.injEq] at h
    obtain ⟨_, happly, rfl, _⟩ := h
    exact .intent payment hpayment (applyIntentEvent_ok happly)
  · split at h
    · next hobject => exact .refund hobject (applyRefundEvent_ok h)
    · simp only [return_committed, Prod.mk.injEq] at h
      exact .ignored h.1.symm

/-- `db'` is `db` with the event's row in `status`, and no other stored event changed. -/
def StoredAs (db : Db) (event : StripeEvent) (status : PaymentEventStatus) (db' : Db) : Prop :=
  ∃ paymentEvents, db' = { db with paymentEvents } ∧
    (∃ row, paymentEvents.get? ("stripe", event.id) = some row ∧ row.status = status) ∧
    ∀ k, k ≠ ("stripe", event.id) → paymentEvents.get? k = db.paymentEvents.get? k

theorem StoredAs.put {db : Db} {event : StripeEvent} {recorded row : PaymentEvent}
    (h : recordedEvent db event = some recorded) (hkey : key row = ("stripe", event.id)) :
    StoredAs db event row.status { db with paymentEvents := db.paymentEvents.put row } := by
  refine ⟨_, rfl, ⟨row, Table.get?_put_self h hkey, rfl⟩, fun k hk => ?_⟩
  exact Table.get?_put_ne (fun e => hk (e.symm.trans hkey))

theorem StoredAs.insert {db : Db} {event : StripeEvent} {row : PaymentEvent}
    {paymentEvents : Table PaymentEvent} (h : db.paymentEvents.insert? row = some paymentEvents)
    (hkey : key row = ("stripe", event.id)) :
    StoredAs db event row.status { db with paymentEvents } := by
  refine ⟨_, rfl, ⟨row, hkey ▸ Table.get?_insert_self h, rfl⟩, fun k hk => ?_⟩
  exact Table.get?_insert_ne h (fun e => hk (e.symm.trans hkey))

theorem recordProcessed_ok {db db' : Db} {event : StripeEvent} {paymentId : Option Uuid}
    {now : Instant} (h : recordProcessed db event paymentId now = .ok db') :
    StoredAs db event .processed db' := by
  unfold recordProcessed at h
  split at h
  · next recorded hrecorded =>
    rw [return_committed] at h
    have hkey : key recorded = ("stripe", event.id) := Table.key_of_get? hrecorded
    exact h ▸ .put hrecorded hkey
  · simp only [seq_committed, orRaise_committed, return_committed] at h
    obtain ⟨paymentEvents, hinsert, rfl⟩ := h
    exact .insert hinsert rfl

theorem recordFailure_ok {db db' : Db} {event : StripeEvent} {exc : Raised}
    (h : recordFailure db event exc = .ok db') : StoredAs db event .failed db' := by
  unfold recordFailure at h
  split at h
  · next recorded hrecorded =>
    rw [return_committed] at h
    have hkey : key recorded = ("stripe", event.id) := Table.key_of_get? hrecorded
    exact h ▸ .put hrecorded hkey
  · simp only [seq_committed, orRaise_committed, return_committed] at h
    obtain ⟨paymentEvents, hinsert, rfl⟩ := h
    exact .insert hinsert rfl

theorem deliver_ok {db db' : Db} {event : StripeEvent} {fault : Option Raised} {now : Instant}
    {jobId : Uuid} {duplicate : Bool}
    (h : deliver db event fault now jobId = .ok (db', duplicate)) :
    (alreadyProcessed db event = true ∧ duplicate = true ∧ db' = db) ∨
    (alreadyProcessed db event = false ∧ duplicate = false ∧ fault = none ∧
      ∃ applied, EventEffect db event now applied ∧ StoredAs applied event .processed db') := by
  unfold deliver at h
  split at h
  · next hprocessed =>
    simp only [return_committed, Prod.mk.injEq] at h
    exact Or.inl ⟨hprocessed, h.2.symm, h.1.symm⟩
  · next hprocessed =>
    right
    cases fault with
    | some exc => cases h
    | none =>
      simp only [processWebhook, if_neg hprocessed, seq_committed, return_committed,
        Prod.mk.injEq, Prod.exists] at h
      obtain ⟨applied, _, happly, _, hrecord, rfl, rfl⟩ := h
      exact ⟨by simpa using hprocessed, rfl, rfl, applied, applyEvent_ok happly,
        recordProcessed_ok hrecord⟩

/-! ## Steps -/

/-- What a step of the system commits. -/
inductive Commit (settings : Settings) (w : World) : Op → Db → Prop
  | same (op : Op) : Commit settings w op w.db
  | created {payload : PaymentIntentCreate} {key : String} {paymentId : Uuid}
      (metadata : List (String × String)) (intent : ProviderIntent)
      (idempotencyRecords : Table IdempotencyRecord) (payments : Table Payment)
      (purpose : payload.paymentPurpose ≠ .professionalLead)
      (checks : Db.PaymentChecks (newPayment payload metadata intent paymentId))
      (inserted : w.db.payments.insert? (newPayment payload metadata intent paymentId) =
        some payments) :
      Commit settings w (.createIntent payload key (.ok intent) paymentId)
        { w.db with payments, idempotencyRecords }
  | purchased {leadId vendorId : Uuid} {key : String} {answer : Except Raised ProviderIntent}
      {now : Instant} {purchaseId paymentId : Uuid} (lead : ProfessionalLead)
      (leadPurchases : Table LeadPurchase) (paid : Db) (payment : Payment)
      (found : w.db.leads.get? leadId = some lead) (available : lead.status = .available)
      (fresh : ∀ other ∈ w.db.leadPurchases.rows, other.leadId ≠ lead.id)
      (inserted : w.db.leadPurchases.insert? (newPurchase lead vendorId key purchaseId) =
        some leadPurchases)
      (intended : createProfessionalLeadIntent { w.db with leadPurchases }
        (newPurchase lead vendorId key purchaseId) answer paymentId = .ok (paid, payment)) :
      Commit settings w (.purchase leadId vendorId key answer now purchaseId paymentId)
        { paid with
          leads := paid.leads.put
            { lead with status := .reserved, purchasedByVendorId := some vendorId } }
  | captured {paymentId : Uuid} {amountMinor : Option Int} {now : Instant} {jobId : Uuid}
      (payment : Payment) (intent : ProviderIntent) (db' : Db)
      (found : w.db.payments.get? paymentId = some payment)
      (status : payment.status = .authorized)
      (checks : Db.PaymentChecks (reported payment intent.status intent.amountReceived))
      (settled : SettledIfCaptured
        { w.db with
          payments := w.db.payments.put (reported payment intent.status intent.amountReceived) }
        (reported payment intent.status intent.amountReceived) now db') :
      Commit settings w (.capture paymentId amountMinor (.ok intent) now jobId) db'
  | refunded {paymentId : Uuid} {amountMinor : Option Int} {key : String} {actorId : Uuid}
      {reason : Option String} {answer : Except Raised ProviderRefund} {now : Instant}
      {refundId : Uuid} (payment : Payment) (made : Refund) (refunds : Table Refund)
      (log : AuditLog) (event : IntegrationEvent) (db' : Db)
      (found : w.db.payments.get? paymentId = some payment)
      (status : payment.status = .captured ∨ payment.status = .partiallyRefunded)
      (positive : 0 < made.amountMinor) (ofPayment : made.paymentId = payment.id)
      (covered : refundedAmount w.db payment.id activeRefundStatus + made.amountMinor ≤
        payment.capturedAmountMinor)
      (inserted : w.db.refunds.insert? made = some refunds)
      (notCaptured : event.eventType = "refund_created")
      (result : db' = withRefund w.db refunds log event ∨
        ∃ whole, db' = markLeadPurchaseRefunded
          { withRefund w.db refunds log event with
            payments := w.db.payments.put (refundedPayment payment whole) }
          (refundedPayment payment whole)) :
      Commit settings w
        (.refund paymentId amountMinor key actorId reason answer now refundId) db'
  | delivered {event : StripeEvent} {now : Instant} {jobId : Uuid} (applied : Db)
      (paymentEvents : Table PaymentEvent)
      (fresh : alreadyProcessed w.db event = false)
      (effect : EventEffect w.db event now applied) :
      Commit settings w (.deliver event none now jobId) { applied with paymentEvents }
  | noted (delivery : Nat) (paymentEvents : Table PaymentEvent) :
      Commit settings w (.recordFailure delivery) { w.db with paymentEvents }

theorem exec_commit (settings : Settings) (w : World) (op : Op) :
    Commit settings w op (exec settings w op).db := by
  cases op with
  | stripeIntent intent => exact .same _
  | stripeRefund refund => exact .same _
  | createIntent payload key answer paymentId =>
    refine commit_induction (.same _) fun db' v h => ?_
    rcases createIntent_ok h with rfl | ⟨metadata, intent, records, payments, rfl, hpurpose,
      hchecks, hinsert, rfl⟩
    · exact .same _
    · exact .created metadata intent records payments hpurpose hchecks hinsert
  | purchase leadId vendorId key answer now purchaseId paymentId =>
    refine commit_induction (.same _) fun db' v h => ?_
    rcases purchase_ok h with rfl | ⟨lead, leadPurchases, paid, payment, hlead, havailable,
      hfresh, hinsert, hpay, rfl⟩
    · exact .same _
    · exact .purchased lead leadPurchases paid payment hlead havailable hfresh hinsert hpay
  | capture paymentId amountMinor answer now jobId =>
    refine commit_induction (.same _) fun db' v h => ?_
    rcases capture_ok h with rfl | ⟨payment, intent, hpayment, hstatus, rfl, hchecks, hsettled⟩
    · exact .same _
    · exact .captured payment intent db' hpayment hstatus hchecks hsettled
  | refund paymentId amountMinor key actorId reason answer now refundId =>
    refine commit_induction (.same _) fun db' v h => ?_
    rcases refund_ok h with rfl | ⟨payment, answered, requested, refunds, hpayment, hstatus, hpos,
      hcovered, hinsert, hresult⟩
    · exact .same _
    · exact .refunded payment _ refunds _ _ db' hpayment hstatus hpos rfl hcovered hinsert rfl
        hresult
  | deliver event fault now jobId =>
    simp only [exec]
    split
    · next db' duplicate h =>
      rcases deliver_ok h with ⟨_, _, rfl⟩ |
        ⟨hfresh, _, rfl, applied, heffect, paymentEvents, rfl, _⟩
      · exact .same _
      · exact .delivered applied paymentEvents hfresh heffect
    · exact .same _
  | recordFailure delivery =>
    simp only [exec]
    split
    · exact .same _
    · next event exc _ =>
      dsimp only
      split
      · next db' h =>
        obtain ⟨paymentEvents, rfl, _⟩ := recordFailure_ok h
        exact .noted delivery paymentEvents
      · exact .same _

theorem exec_intents (settings : Settings) (w : World) (op : Op) :
    ∀ intent ∈ w.intents, intent ∈ (exec settings w op).intents := by
  intro intent hintent
  cases op with
  | stripeIntent => exact List.mem_append_left _ hintent
  | deliver => simp only [exec]; split <;> exact hintent
  | recordFailure => simp only [exec]; split <;> exact hintent
  | _ => exact hintent

end Breero.Payments
