import Breero.Payments.Status
import Breero.Visits.Effects

/-!
What becomes of a payment whose success is delivered.

* `settle_isOk_iff` says which payments can be settled;
* `received_money_recorded`: a delivery records what was received if the target of the
  payment can be settled, and changes nothing otherwise, so that it can be repeated;
* `expired_booking_loses_payment` is a run in which it changes nothing.
-/

namespace Breero.Visits
open KeyedTable Transaction Runs Bookings Payments Jobs

variable {settings : Settings} {dir : Directory} {db : Db} {payment : Payment} {now : Instant}
  {jobId : Uuid}

/-! ## Settlements -/

def SettleableBooking (db : Db) (jobId : Uuid) (booking : Booking) : Prop :=
  booking.status = .pendingProviderConfirmation ∨ booking.status = .confirmed ∨
    (booking.status = .pendingPayment ∧
      ((db.jobOfBooking booking.id).isSome ∨ db.jobs.get? jobId = none))

/-- The booking, quote or lead of the payment can be settled. The job of a booking, if it
has none, gets the id `jobId`. -/
def TargetSettles (db : Db) (payment : Payment) (jobId : Uuid) : Prop :=
  match payment.paymentPurpose with
  | .professionalLead => ∃ purchase ∈ payment.leadPurchaseId.bind db.leadPurchases.get?,
    ∃ lead ∈ db.leads.get? purchase.leadId, lead.status = .reserved ∨ lead.status = .purchased
  | .quoteAdditionalWork => ∃ quote ∈ payment.quoteId.bind db.workRequests.get?,
    quote.status = .approved ∨ quote.status = .approvedPendingPayment
  | .bookingDiagnostic => ∃ booking ∈ payment.bookingId.bind db.bookings.get?,
    SettleableBooking db jobId booking

/-- A job that waits can always go on. -/
theorem resumeJob_isOk (db : Db) (jobId : Uuid) (now : Instant) :
    (resumeJob db jobId now).isOk := by
  unfold resumeJob
  split
  · next job hjob =>
    split
    · next hstatus =>
      have hallowed : JobStatus.inProgress ∈ transitions .awaitingApproval := by decide
      simp only [seq_isOk, applyTransition, hstatus, reduceCtorEq, if_false, seq_committed,
        require_committed, onlyIf_committed, return_committed]
      exact ⟨_, ⟨(), hallowed, (), (fun hnot => by cases hnot), rfl⟩, rfl⟩
    · rfl
  · rfl

theorem settleQuote_isOk {quote : WorkRequest} :
    (settleQuote db payment quote now).isOk ↔ quote.status = .approvedPendingPayment := by
  simp only [settleQuote, seq_isOk, require_committed]
  constructor
  · rintro ⟨_, hstatus, _⟩
    exact hstatus
  · intro hstatus
    have hallowed : WorkRequestStatus.approved ∈ workRequestTransitions quote.status := by
      rw [hstatus]
      decide
    have hmoved : applyWorkRequestTransition quote .approved =
        .ok { quote with status := .approved } := by
      simp only [applyWorkRequestTransition, hstatus, reduceCtorEq, if_false, seq_committed,
        require_committed, return_committed, and_true]
      exact ⟨(), hstatus ▸ hallowed⟩
    exact ⟨(), hstatus, _, hmoved, resumeJob_isOk _ _ _⟩

theorem settleLead_isOk :
    (settleLead db payment).isOk ↔
      ∃ purchase ∈ payment.leadPurchaseId.bind db.leadPurchases.get?,
        ∃ lead ∈ db.leads.get? purchase.leadId,
          lead.status = .reserved ∨ lead.status = .purchased := by
  simp only [settleLead, seq_isOk, orRaise_committed, require_committed]
  constructor
  · rintro ⟨purchase, hpurchase, lead, hlead, _, hstatus, _⟩
    exact ⟨purchase, hpurchase, lead, hlead, hstatus⟩
  · rintro ⟨purchase, hpurchase, lead, hlead, hstatus⟩
    exact ⟨purchase, hpurchase, lead, hlead, (), hstatus, rfl⟩

theorem addJob_isOk {job : Job} (hfirst : ∀ other ∈ db.jobs.rows, other.bookingId ≠ job.bookingId) :
    (db.addJob job).isOk ↔ db.jobs.get? job.id = none := by
  simp only [Db.addJob, seq_isOk, require_committed, orRaise_committed]
  constructor
  · rintro ⟨_, _, jobs, hinsert, _⟩
    exact Table.get?_eq_none.mpr fun other hother => Table.key_fresh hinsert hother
  · intro hfresh
    obtain ⟨jobs, hinsert⟩ := Table.insert?_fresh hfresh
    exact ⟨(), hfirst, jobs, hinsert, rfl⟩

theorem createJob_isOk {booking : Booking} :
    (createJob db booking now jobId).isOk ↔
      (db.jobOfBooking booking.id).isSome ∨ db.jobs.get? jobId = none := by
  unfold createJob
  split
  · next job hof =>
    rw [hof]
    exact iff_of_true rfl (Or.inl rfl)
  · next hof =>
    rw [seq_return_isOk, hof, addJob_isOk (Dispatch.jobOfBooking_none hof)]
    simp

theorem confirmBooking_isOk :
    (confirmBookingAndCreateJob db payment now jobId).isOk ↔
      ∃ booking ∈ payment.bookingId.bind db.bookings.get?, SettleableBooking db jobId booking := by
  simp only [confirmBookingAndCreateJob, seq_isOk, orRaise_committed]
  refine exists_congr fun booking => and_congr_right fun hbooking => ?_
  unfold SettleableBooking
  split
  · next hagain => exact iff_of_true rfl (hagain.imp_right Or.inl)
  · next hnot =>
    simp only [seq_isOk, require_committed]
    rw [createJob_isOk]
    constructor
    · rintro ⟨_, hpending, hjob⟩
      exact Or.inr (Or.inr ⟨hpending, hjob⟩)
    · rintro (hwaits | hconfirmed | ⟨hpending, hjob⟩)
      · exact absurd (Or.inl hwaits) hnot
      · exact absurd (Or.inr hconfirmed) hnot
      · exact ⟨(), hpending, hjob⟩

theorem settle_isOk_iff :
    (settle db payment now jobId).isOk ↔ TargetSettles db payment jobId := by
  cases hpurpose : payment.paymentPurpose with
  | professionalLead =>
    simp only [settle, TargetSettles, hpurpose]
    rw [seq_return_isOk, settleLead_isOk]
  | quoteAdditionalWork =>
    simp only [settle, TargetSettles, hpurpose, seq_isOk, orRaise_committed]
    refine exists_congr fun quote => and_congr_right fun hquote => ?_
    split
    · next hagain => exact iff_of_true rfl (Or.inl hagain)
    · next hnot =>
      rw [seq_return_isOk, settleQuote_isOk]
      exact ⟨Or.inr, fun h => h.resolve_left hnot⟩
  | bookingDiagnostic =>
    simp only [settle, TargetSettles, hpurpose]
    rw [seq_return_isOk, confirmBooking_isOk]

/-! ## Deliveries -/

/-- The event reports that the intent of the payment succeeded, and what was received. -/
structure ReportsReceived (db : Db) (event : StripeEvent) (payment : Payment) (received : Int) :
    Prop where
  found : eventPayment db event = some payment
  reports : ReportsState event
  succeeded : event.object.status = some "succeeded"
  amount : event.object.amountReceived = .value received

/-- The payment with the money that was received. -/
def receivedPayment (payment : Payment) (received : Int) : Payment :=
  { payment with status := .captured, capturedAmountMinor := received }

/-- The amount is one the payment can hold, and the target of the payment can be settled. -/
def MoneySettles (db : Db) (payment : Payment) (received : Int) (jobId : Uuid) : Prop :=
  Db.PaymentChecks (receivedPayment payment received) ∧ TargetSettles db payment jobId

variable {event : StripeEvent} {received : Int}

theorem applyIntentEvent_isOk (h : ReportsReceived db event payment received) :
    (applyIntentEvent db payment event now jobId).isOk ↔
      MoneySettles db payment received jobId := by
  obtain ⟨_, ⟨hfailed, hcanceled, htype⟩, hstatus, hamount⟩ := h
  have hcaptured : statusOf (event.object.status.getD "") payment.status = .captured := by
    rw [hstatus]
    rfl
  have hsettles : (settleIfCaptured
      { db with payments := db.payments.put (receivedPayment payment received) }
      (receivedPayment payment received) now jobId).isOk ↔ TargetSettles db payment jobId :=
    settle_isOk_iff
  simp only [applyIntentEvent, hfailed, hcanceled, htype, if_true, if_false, hamount,
    amountReceived, hcaptured, seq_isOk, return_committed, Db.putPayment, seq_committed,
    require_committed]
  constructor
  · rintro ⟨_, rfl, _, ⟨_, hchecks, rfl⟩, hok⟩
    exact ⟨hchecks, hsettles.mp hok⟩
  · rintro ⟨hchecks, htarget⟩
    exact ⟨received, rfl, _, ⟨(), hchecks, rfl⟩, hsettles.mpr htarget⟩

theorem recordProcessed_isOk (db : Db) (event : StripeEvent) (paymentId : Option Uuid)
    (now : Instant) : (recordProcessed db event paymentId now).isOk := by
  unfold recordProcessed
  split
  · rfl
  · next hnone =>
    obtain ⟨paymentEvents, hinsert⟩ := Table.insert?_fresh (a := ({
      provider := "stripe", providerEventId := event.id, eventType := event.type, paymentId,
      payload := event, status := .processed, processedAt := some now } : PaymentEvent)) hnone
    simp only [seq_isOk, orRaise_committed]
    exact ⟨paymentEvents, hinsert, rfl⟩

/-- A delivery that is not a duplicate commits exactly if the money can be settled. -/
theorem deliver_isOk (h : ReportsReceived db event payment received)
    (hfresh : alreadyProcessed db event = false) :
    (deliver db event none now jobId).isOk ↔ MoneySettles db payment received jobId := by
  simp only [deliver, hfresh, Bool.false_eq_true, if_false, processWebhook, applyEvent, h.found,
    seq_isOk, seq_committed, return_committed]
  have happlies : (applyIntentEvent db payment event now jobId).isOk ↔
      MoneySettles db payment received jobId := applyIntentEvent_isOk h
  rw [← happlies, isOk_iff]
  constructor
  · rintro ⟨_, ⟨applied, happly, rfl⟩, _⟩
    exact ⟨applied, happly⟩
  · rintro ⟨applied, happly⟩
    obtain ⟨recorded, hrecorded⟩ := isOk_iff.mp
      (recordProcessed_isOk applied event (some payment.id) now)
    exact ⟨_, ⟨applied, happly, rfl⟩, recorded, hrecorded, rfl⟩

/-- A delivery that commits captures the payment and settles the event. -/
theorem deliver_records {db' : Db} {duplicate : Bool}
    (h : ReportsReceived db event payment received)
    (hfresh : alreadyProcessed db event = false)
    (hok : deliver db event none now jobId = .ok (db', duplicate)) :
    db'.payments.get? payment.id = some (receivedPayment payment received) ∧
      alreadyProcessed db' event = true := by
  simp only [deliver, hfresh, Bool.false_eq_true, if_false, processWebhook, applyEvent, h.found,
    seq_committed, return_committed, Prod.mk.injEq, Prod.exists] at hok
  obtain ⟨_, _, ⟨applied, happly, rfl, rfl⟩, _, hrecord, rfl, _⟩ := hok
  obtain ⟨hfound, ⟨hfailed, hcanceled, htype⟩, hstatus, hamount⟩ := h
  have hcaptured : statusOf (event.object.status.getD "") payment.status = .captured := by
    rw [hstatus]
    rfl
  simp only [applyIntentEvent, hfailed, hcanceled, htype, if_true, if_false, hamount,
    amountReceived, hcaptured, return_committed, seq_committed] at happly
  obtain ⟨_, rfl, _, hput, hsettle⟩ := happly
  obtain ⟨_, rfl⟩ := Db.putPayment_ok hput
  obtain ⟨hpayments, _, _⟩ := (settleIfCaptured_ok hsettle).ledger
  obtain ⟨paymentEvents, rfl, ⟨row, hrow, hprocessed⟩, _⟩ := recordProcessed_ok hrecord
  constructor
  · show applied.payments.get? payment.id = _
    rw [hpayments]
    exact Table.get?_put_self (eventPayment_get? hfound) rfl
  · simp only [alreadyProcessed, recordedEvent, hrow, hprocessed, decide_true]

/-- The payment is captured, or refunded since, and holds what was received. -/
def MoneyRecorded (db : Db) (paymentId : Uuid) (received : Int) : Prop :=
  ∃ payment ∈ db.payments.get? paymentId,
    payment.status ∈ [PaymentStatus.captured, .partiallyRefunded, .refunded] ∧
      payment.capturedAmountMinor = received

instance (db : Db) (paymentId : Uuid) (received : Int) :
    Decidable (MoneyRecorded db paymentId received) :=
  inferInstanceAs (Decidable (∃ payment ∈ db.payments.get? paymentId, _ ∧ _))

/-- The delivery of an event. -/
def delivered (settings : Settings) (dir : Directory) (w : World) (event : StripeEvent)
    (now : Instant) (jobId : Uuid) : World :=
  exec settings dir w (.payment (.deliver event none now jobId))

/-- Money that was received is recorded, in whatever state the payment is, if its target can
be settled. If it cannot, the transaction is rolled back, and the event stays to be
delivered again. -/
theorem received_money_recorded (settings : Settings) (dir : Directory) (w : World)
    (event : StripeEvent) (payment : Payment) (received : Int) (now : Instant) (jobId : Uuid)
    (hreports : ReportsReceived w.db event payment received) :
    (alreadyProcessed w.db event = true → delivered settings dir w event now jobId = w) ∧
      (alreadyProcessed w.db event = false →
        (MoneySettles w.db payment received jobId →
          (delivered settings dir w event now jobId).db.payments.get? payment.id =
              some (receivedPayment payment received) ∧
            alreadyProcessed (delivered settings dir w event now jobId).db event = true) ∧
        (¬ MoneySettles w.db payment received jobId → ∃ exc,
          delivered settings dir w event now jobId =
            { w with failures := w.failures ++ [(event, exc)] })) := by
  constructor
  · intro hprocessed
    simp only [delivered, exec, Payments.exec, deliver, hprocessed, if_true]
    rfl
  · intro hfresh
    have hcommits : (deliver w.db event none now jobId).isOk ↔
        MoneySettles w.db payment received jobId := deliver_isOk hreports hfresh
    constructor
    · intro hsettles
      obtain ⟨db', duplicate, hok⟩ := eq_ok_of_isOk (hcommits.mpr hsettles)
      simp only [delivered, exec, Payments.exec, hok]
      exact deliver_records hreports hfresh hok
    · intro hunsettled
      cases hraised : deliver w.db event none now jobId with
      | ok committed => exact absurd (hcommits.mp (isOk_of_eq hraised)) hunsettled
      | error exc =>
        refine ⟨exc, ?_⟩
        simp only [delivered, exec, Payments.exec, hraised]

/-- The customer starts to pay the fee of the visit. -/
def feeIntent : Op :=
  .payment (.createIntent { bookingId := some 2, amountMinor := 10000 } "fee"
    (.ok (intentAt "pi_1" "requires_payment_method" 0)) 10)

def feePayment : Payment :=
  newPayment { bookingId := some 2, amountMinor := 10000 } [("booking_id", "2")]
    (intentAt "pi_1" "requires_payment_method" 0) 10

def feeSucceeds : StripeEvent :=
  intentEvent "evt_1" "payment_intent.succeeded" "pi_1" "succeeded" 10000

theorem feeSucceeds_recorded :
    (delivered fullSettings Dispatch.visitDirectory
        (run (exec fullSettings Dispatch.visitDirectory) fullWorld [feeIntent]) feeSucceeds 0
        20).db.payments.get? 10 = some (receivedPayment feePayment 10000) :=
  ((received_money_recorded fullSettings Dispatch.visitDirectory
      (run (exec fullSettings Dispatch.visitDirectory) fullWorld [feeIntent]) feeSucceeds feePayment
      10000 0 20 ⟨by decide, by decide, rfl, rfl⟩).2 (by decide)).1
    ⟨by decide, ⟨_, rfl, Or.inr (Or.inr ⟨by decide, Or.inr (by decide)⟩)⟩⟩ |>.1

/-- The booking expires before the success of its payment is delivered. -/
theorem expired_booking_loses_payment :
    ReportsReceived (run (exec fullSettings Dispatch.visitDirectory) fullWorld
        [feeIntent, .expireBookings (ofMinutes 5000) []]).db feeSucceeds feePayment 10000 ∧
      ¬ MoneyRecorded (delivered fullSettings Dispatch.visitDirectory
        (run (exec fullSettings Dispatch.visitDirectory) fullWorld
          [feeIntent, .expireBookings (ofMinutes 5000) []]) feeSucceeds 0 20).db 10 10000 :=
  ⟨⟨by decide, by decide, rfl, rfl⟩, by decide⟩

end Breero.Visits
