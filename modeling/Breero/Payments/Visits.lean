import Breero.Jobs.Writes
import Breero.Payments.Effects

/-!
What the payment system writes of the visits: a paid fee moves its booking and creates the
job, and a paid quote is approved and its job goes on. Nothing else of it writes the
bookings, the jobs, their log or the work requests.
-/

namespace Breero.Payments
open KeyedTable Transaction Jobs Leads

/-- The bookings, the jobs, their log and the work requests are as they were. -/
structure VisitsKept (db db' : Db) : Prop where
  bookings : db'.bookings = db.bookings
  jobs : db'.jobs = db.jobs
  jobEvents : db'.jobEvents = db.jobEvents
  workRequests : db'.workRequests = db.workRequests

theorem VisitsKept.refl (db : Db) : VisitsKept db db := ⟨rfl, rfl, rfl, rfl⟩

/-- The job of the booking, or a new one whose creation is logged. -/
def JobCreated (db : Db) (bookingId : Uuid) (db' : Db) : Prop :=
  (db'.jobs = db.jobs ∧ db'.jobEvents = db.jobEvents) ∨
    ∃ (job : Job) (event : JobEvent), db.jobs.insert? job = some db'.jobs ∧
      db'.jobEvents = db.jobEvents ++ [event] ∧ job.bookingId = bookingId ∧
      job.status = .created ∧ job.version = 1 ∧ event.jobId = job.id ∧
      event.fromStatus = none ∧ event.toStatus = .created

/-- What a settlement writes of the visits. -/
inductive VisitStep (payment : Payment) (db db' : Db) : Prop
  | kept (same : VisitsKept db db')
      (notBooking : payment.paymentPurpose = .bookingDiagnostic →
        ∃ booking, payment.bookingId.bind db.bookings.get? = some booking ∧
          booking.status ≠ .pendingPayment)
  | quotePaid (quote quote' : WorkRequest)
      (notBooking : payment.paymentPurpose ≠ .bookingDiagnostic)
      (found : db.workRequests.get? quote.id = some quote)
      (status : quote.status = .approvedPendingPayment) (id : quote'.id = quote.id)
      (jobId : quote'.jobId = quote.jobId) (approved : quote'.status = .approved)
      (requests : db'.workRequests = db.workRequests.put quote')
      (bookings : db'.bookings = db.bookings) (resumed : Resumed db quote.jobId db')
      (terms : SameTerms quote quote')
  | feePaid (booking booking' : Booking) (purpose : payment.paymentPurpose = .bookingDiagnostic)
      (found : payment.bookingId.bind db.bookings.get? = some booking)
      (status : booking.status = .pendingPayment) (id : booking'.id = booking.id)
      (reached : booking'.status = .pendingProviderConfirmation)
      (bookings : db'.bookings = db.bookings.put booking')
      (requests : db'.workRequests = db.workRequests) (created : JobCreated db booking.id db')

theorem resumeJob_resumed {db db' : Db} {jobId : Uuid} {now : Instant}
    (h : resumeJob db jobId now = .ok db') :
    Resumed db jobId db' ∧ db'.bookings = db.bookings ∧ db'.workRequests = db.workRequests :=
  resume_resumed h

theorem createJob_created {db db' : Db} {booking : Booking} {now : Instant} {jobId : Uuid}
    (h : createJob db booking now jobId = .ok db') :
    JobCreated db booking.id db' ∧ db'.bookings = db.bookings ∧
      db'.workRequests = db.workRequests := by
  unfold createJob at h
  split at h
  · rw [return_committed] at h
    subst h
    exact ⟨Or.inl ⟨rfl, rfl⟩, rfl, rfl⟩
  · simp only [seq_committed, return_committed] at h
    obtain ⟨added, hadd, rfl⟩ := h
    obtain ⟨_, jobs, hinsert, rfl⟩ := Db.addJob_ok hadd
    exact ⟨Or.inr ⟨_, _, hinsert, rfl, rfl, rfl, rfl, rfl, rfl, rfl⟩, rfl, rfl⟩

theorem settle_visits {db db' : Db} {payment : Payment} {now : Instant} {jobId : Uuid}
    (h : settle db payment now jobId = .ok db') : VisitStep payment db db' := by
  unfold settle at h
  split at h
  case h_1 hpurpose =>
    simp only [settleLead, seq_committed, orRaise_committed, require_committed,
      return_committed] at h
    obtain ⟨_, ⟨_, _, _, _, _, _, rfl⟩, rfl⟩ := h
    refine .kept ⟨rfl, rfl, rfl, rfl⟩ fun hbooking => ?_
    rw [hpurpose] at hbooking
    cases hbooking
  case h_2 hpurpose =>
    have hnot : payment.paymentPurpose ≠ .bookingDiagnostic := by
      rw [hpurpose]
      decide
    simp only [seq_committed, orRaise_committed] at h
    obtain ⟨quote, hquote, h⟩ := h
    split at h
    · rw [return_committed] at h
      subst h
      exact .kept (.refl _) fun hbooking => absurd hbooking hnot
    · simp only [settleQuote, seq_committed, require_committed, return_committed] at h
      obtain ⟨_, ⟨_, hstatus, approved, htransition, hresume⟩, rfl⟩ := h
      have happroved := applyWorkRequestTransition_ok htransition
      subst happroved
      obtain ⟨k, _, hget⟩ := Option.bind_eq_some_iff.mp hquote
      obtain ⟨hresumed, hbookings, hrequests⟩ := resumeJob_resumed hresume
      exact .quotePaid quote { quote with status := .approved, paymentId := some payment.id } hnot
        (Table.get?_found hget) hstatus rfl rfl rfl hrequests hbookings
        (hresumed.of_rows rfl rfl rfl rfl) ⟨rfl, rfl, rfl, rfl, rfl⟩
  case h_3 hpurpose =>
    simp only [confirmBookingAndCreateJob, seq_committed, orRaise_committed,
      return_committed] at h
    obtain ⟨_, ⟨booking, hbooking, h⟩, rfl⟩ := h
    split at h
    · next hagain =>
      rw [return_committed] at h
      subst h
      refine .kept ⟨rfl, rfl, rfl, rfl⟩ fun _ => ⟨booking, hbooking, fun hpending => ?_⟩
      simp [hpending] at hagain
    · simp only [seq_committed, require_committed] at h
      obtain ⟨_, hstatus, hcreate⟩ := h
      obtain ⟨hcreated, hbookings, hrequests⟩ := createJob_created hcreate
      exact .feePaid booking { booking with status := .pendingProviderConfirmation } hpurpose
        hbooking hstatus rfl rfl hbookings hrequests hcreated

/-- The step is about the bookings, the jobs, their log and the requests, and of the payment
about what it is for. -/
theorem VisitStep.of_rows {db₀ db₁ db db' : Db} {payment₀ payment : Payment}
    (h : VisitStep payment₀ db₀ db₁) (hbefore : VisitsKept db db₀) (hafter : VisitsKept db₁ db')
    (hpurpose : payment₀.paymentPurpose = payment.paymentPurpose)
    (hbooking : payment₀.bookingId = payment.bookingId) : VisitStep payment db db' := by
  cases h with
  | kept same notBooking =>
    refine .kept ⟨?_, ?_, ?_, ?_⟩ ?_
    · rw [hafter.bookings, same.bookings, hbefore.bookings]
    · rw [hafter.jobs, same.jobs, hbefore.jobs]
    · rw [hafter.jobEvents, same.jobEvents, hbefore.jobEvents]
    · rw [hafter.workRequests, same.workRequests, hbefore.workRequests]
    · rw [hpurpose, hbooking, hbefore.bookings] at notBooking
      exact notBooking
  | quotePaid quote quote' notBooking found status id jobId approved requests bookings resumed
      terms =>
    rw [hpurpose] at notBooking
    rw [hbefore.workRequests] at found requests
    exact .quotePaid quote quote' notBooking found status id jobId approved
      (hafter.workRequests.trans requests)
      (hafter.bookings.trans (bookings.trans hbefore.bookings))
      (resumed.of_rows hbefore.jobs hbefore.jobEvents hafter.jobs hafter.jobEvents) terms
  | feePaid booking booking' purpose found status id reached bookings requests created =>
    rw [hbefore.bookings] at found bookings
    rw [hbooking] at found
    refine .feePaid booking booking' (hpurpose ▸ purpose) found status id reached
      (hafter.bookings.trans bookings)
      (hafter.workRequests.trans (requests.trans hbefore.workRequests)) ?_
    unfold JobCreated at created ⊢
    rw [hafter.jobs, hafter.jobEvents, ← hbefore.jobs, ← hbefore.jobEvents]
    exact created

theorem settleIfCaptured_visits {db db' : Db} {payment : Payment} {now : Instant} {jobId : Uuid}
    (h : settleIfCaptured db payment now jobId = .ok db') :
    (payment.status = .captured ∧ VisitStep payment db db') ∨
      (payment.status ≠ .captured ∧ db' = db) := by
  unfold settleIfCaptured at h
  split at h
  · next hstatus => exact Or.inl ⟨hstatus, settle_visits h⟩
  · next hstatus =>
    rw [return_committed] at h
    exact Or.inr ⟨hstatus, h.symm⟩

/-! ## Steps -/

/-- The payment that a committed capture settles. -/
def capturedPayment (db : Db) (paymentId : Uuid) (amountMinor : Option Int)
    (answer : Except Raised ProviderIntent) (now : Instant) (jobId : Uuid) : Option Payment :=
  (db.payments.get? paymentId).bind fun payment =>
    match answer with
    | .ok intent =>
      if (capture db paymentId amountMinor answer now jobId).isOk ∧
          payment.status ≠ .captured ∧ statusOf intent.status payment.status = .captured then
        some payment
      else none
    | .error _ => none

/-- The payment that a committed delivery settles. -/
def deliveredPayment (db : Db) (event : StripeEvent) (fault : Option Raised) (now : Instant)
    (jobId : Uuid) : Option Payment :=
  (eventPayment db event).bind fun payment =>
    if (deliver db event fault now jobId).isOk ∧ alreadyProcessed db event = false ∧
        ReportsState event ∧
        statusOf (event.object.status.getD "") payment.status = .captured then
      some payment
    else none

def settledPayment (w : World) : Op → Option Payment
  | .capture paymentId amountMinor answer now jobId =>
    capturedPayment w.db paymentId amountMinor answer now jobId
  | .deliver event fault now jobId => deliveredPayment w.db event fault now jobId
  | _ => none

/-- What a step that settles the payment, or none, writes of the visits. -/
def StepOf (settled : Option Payment) (db db' : Db) : Prop :=
  match settled with
  | some payment => VisitStep payment db db'
  | none => VisitsKept db db'

theorem capture_visits {db db' : Db} {paymentId : Uuid} {amountMinor : Option Int}
    {answer : Except Raised ProviderIntent} {now : Instant} {jobId : Uuid} {v : PaymentView}
    (h : capture db paymentId amountMinor answer now jobId = .ok (db', v)) :
    StepOf (capturedPayment db paymentId amountMinor answer now jobId) db db' := by
  have hok := isOk_of_eq h
  simp only [capture, seq_committed, orRaise_committed] at h
  obtain ⟨payment, hpayment, h⟩ := h
  unfold capturedPayment
  rw [hpayment, Option.bind_some]
  split at h
  · next hcaptured =>
    simp only [return_committed, Prod.mk.injEq] at h
    obtain ⟨rfl, _⟩ := h
    have hnone : (match answer with
        | .ok intent =>
          if (capture db paymentId amountMinor answer now jobId).isOk ∧
              payment.status ≠ .captured ∧ statusOf intent.status payment.status = .captured then
            some payment
          else none
        | .error _ => none) = none := by
      split
      · rw [if_neg fun hand => hand.2.1 hcaptured]
      · rfl
    rw [hnone]
    exact .refl _
  · next hnot =>
    simp only [seq_committed, require_committed, return_committed, Prod.mk.injEq] at h
    obtain ⟨_, _, _, _, intent, rfl, _, hput, _, hsettle, rfl, _⟩ := h
    obtain ⟨_, rfl⟩ := Db.putPayment_ok hput
    dsimp only
    rcases settleIfCaptured_visits hsettle with ⟨hstatus, hstep⟩ | ⟨hstatus, rfl⟩
    · rw [if_pos ⟨hok, hnot, hstatus⟩]
      exact hstep.of_rows ⟨rfl, rfl, rfl, rfl⟩ (.refl _) rfl rfl
    · rw [if_neg fun hand => hstatus hand.2.2]
      exact ⟨rfl, rfl, rfl, rfl⟩

theorem releaseFailedLeadPurchase_visits {db₀ db : Db} (payment : Payment) (h : VisitsKept db₀ db) :
    VisitsKept db₀ (releaseFailedLeadPurchase db payment) := by
  obtain ⟨_, _, heq⟩ := releaseFailedLeadPurchase_eq db payment
  rw [heq]
  exact ⟨h.bookings, h.jobs, h.jobEvents, h.workRequests⟩

theorem markLeadPurchaseRefunded_visits {db₀ db : Db} (payment : Payment) (h : VisitsKept db₀ db) :
    VisitsKept db₀ (markLeadPurchaseRefunded db payment) := by
  obtain ⟨_, heq⟩ := markLeadPurchaseRefunded_eq db payment
  rw [heq]
  exact ⟨h.bookings, h.jobs, h.jobEvents, h.workRequests⟩

/-- What an event about the payment writes of the visits. -/
theorem applyIntentEvent_visits {db db' : Db} {payment : Payment} {event : StripeEvent}
    {now : Instant} {jobId : Uuid} (h : applyIntentEvent db payment event now jobId = .ok db') :
    StepOf (if ReportsState event ∧
        statusOf (event.object.status.getD "") payment.status = .captured
      then some payment else none) db db' := by
  have hnone : ¬ ReportsState event → VisitsKept db db' →
      StepOf (if ReportsState event ∧
          statusOf (event.object.status.getD "") payment.status = .captured
        then some payment else none) db db' := by
    intro hnot hkept
    rw [if_neg fun hand => hnot hand.1]
    exact hkept
  unfold applyIntentEvent at h
  split at h
  · next htype =>
    simp only [seq_committed, return_committed] at h
    obtain ⟨code, _, _, hput, rfl⟩ := h
    obtain ⟨_, rfl⟩ := Db.putPayment_ok hput
    exact hnone (fun hreports => hreports.1 htype)
      (releaseFailedLeadPurchase_visits _ ⟨rfl, rfl, rfl, rfl⟩)
  · next hfailed =>
    split at h
    · next htype =>
      simp only [seq_committed, return_committed] at h
      obtain ⟨_, hput, rfl⟩ := h
      obtain ⟨_, rfl⟩ := Db.putPayment_ok hput
      exact hnone (fun hreports => hreports.2.1 htype)
        (releaseFailedLeadPurchase_visits _ ⟨rfl, rfl, rfl, rfl⟩)
    · next hcanceled =>
      split at h
      · next htype =>
        simp only [seq_committed] at h
        obtain ⟨amount, _, _, hput, hsettle⟩ := h
        obtain ⟨_, rfl⟩ := Db.putPayment_ok hput
        rcases settleIfCaptured_visits hsettle with ⟨hstatus, hstep⟩ | ⟨hstatus, rfl⟩
        · rw [if_pos ⟨⟨hfailed, hcanceled, htype⟩, hstatus⟩]
          exact hstep.of_rows ⟨rfl, rfl, rfl, rfl⟩ (.refl _) rfl rfl
        · rw [if_neg fun hand => hstatus hand.2]
          exact ⟨rfl, rfl, rfl, rfl⟩
      · next htype =>
        rw [return_committed] at h
        subst h
        exact hnone (fun hreports => htype hreports.2.2) (.refl _)

theorem StepOf.of_after {settled : Option Payment} {db db₁ db' : Db} (h : StepOf settled db db₁)
    (hafter : VisitsKept db₁ db') : StepOf settled db db' := by
  cases settled with
  | some payment => exact VisitStep.of_rows h (.refl _) hafter rfl rfl
  | none =>
    have hkept : VisitsKept db db₁ := h
    exact ⟨hafter.bookings.trans hkept.bookings, hafter.jobs.trans hkept.jobs,
      hafter.jobEvents.trans hkept.jobEvents, hafter.workRequests.trans hkept.workRequests⟩

theorem RefundEffect.visits {db db' : Db} {obj : StripeObject} (h : RefundEffect db obj db') :
    VisitsKept db db' := by
  cases h with
  | ignored => exact .refl _
  | noted => exact ⟨rfl, rfl, rfl, rfl⟩
  | succeeded => exact markLeadPurchaseRefunded_visits _ ⟨rfl, rfl, rfl, rfl⟩

theorem deliver_visits {db db' : Db} {event : StripeEvent} {fault : Option Raised}
    {now : Instant} {jobId : Uuid} {duplicate : Bool}
    (h : deliver db event fault now jobId = .ok (db', duplicate)) :
    StepOf (deliveredPayment db event fault now jobId) db db' := by
  have hok := isOk_of_eq h
  unfold deliveredPayment
  rcases deliver_ok h with ⟨hprocessed, _, rfl⟩ | ⟨hfresh, _, rfl, _⟩
  · have hnone : ((eventPayment db' event).bind fun payment =>
        if (deliver db' event fault now jobId).isOk ∧ alreadyProcessed db' event = false ∧
            ReportsState event ∧
            statusOf (event.object.status.getD "") payment.status = .captured then
          some payment
        else none) = none := by
      cases eventPayment db' event with
      | none => rfl
      | some payment => simp [hprocessed]
    rw [hnone]
    exact .refl _
  · simp only [deliver, hfresh, Bool.false_eq_true, if_false, processWebhook, seq_committed,
      return_committed, Prod.mk.injEq, Prod.exists] at h
    obtain ⟨applied, _, happly, _, hrecord, rfl, _⟩ := h
    obtain ⟨paymentEvents, rfl, _⟩ := recordProcessed_ok hrecord
    have hstored : VisitsKept applied { applied with paymentEvents } := ⟨rfl, rfl, rfl, rfl⟩
    refine StepOf.of_after ?_ hstored
    unfold applyEvent at happly
    split at happly
    · next payment hpayment =>
      simp only [seq_committed, return_committed, Prod.mk.injEq] at happly
      obtain ⟨_, hintent, rfl, _⟩ := happly
      have hstep := applyIntentEvent_visits hintent
      rw [hpayment, Option.bind_some]
      simp only [hok, hfresh, true_and]
      exact hstep
    · next hpayment =>
      rw [hpayment, Option.bind_none]
      split at happly
      · exact (applyRefundEvent_ok happly).visits
      · simp only [return_committed, Prod.mk.injEq] at happly
        exact happly.1 ▸ .refl _

theorem exec_visits (settings : Settings) (w : World) (op : Op) :
    StepOf (settledPayment w op) w.db (exec settings w op).db := by
  cases op with
  | stripeIntent intent => exact .refl _
  | stripeRefund refund => exact .refl _
  | createIntent payload key answer paymentId =>
    refine commit_induction (VisitsKept.refl _) fun db' v h => ?_
    rcases createIntent_ok h with rfl | ⟨_, _, _, _, _, _, _, _, rfl⟩
    · exact .refl _
    · exact ⟨rfl, rfl, rfl, rfl⟩
  | purchase leadId vendorId key answer now purchaseId paymentId =>
    refine commit_induction (VisitsKept.refl _) fun db' v h => ?_
    rcases purchase_ok h with rfl | ⟨_, _, _, _, _, _, _, _, hpay, rfl⟩
    · exact .refl _
    · rcases createProfessionalLeadIntent_ok hpay with ⟨rfl, _⟩ | ⟨_, _, _, _, _, _, rfl⟩
      · exact ⟨rfl, rfl, rfl, rfl⟩
      · exact ⟨rfl, rfl, rfl, rfl⟩
  | capture paymentId amountMinor answer now jobId =>
    show StepOf (capturedPayment w.db paymentId amountMinor answer now jobId) w.db
      (commit w.db (capture w.db paymentId amountMinor answer now jobId))
    cases h : capture w.db paymentId amountMinor answer now jobId with
    | error e =>
      have hnone : capturedPayment w.db paymentId amountMinor answer now jobId = none := by
        unfold capturedPayment
        rw [h]
        cases w.db.payments.get? paymentId with
        | none => rfl
        | some payment => cases answer <;> rfl
      rw [hnone]
      exact .refl _
    | ok result => exact capture_visits h
  | refund paymentId amountMinor key actorId reason answer now refundId =>
    refine commit_induction (VisitsKept.refl _) fun db' v h => ?_
    rcases refund_ok h with rfl | ⟨_, _, _, _, _, _, _, _, _, rfl | ⟨_, rfl⟩⟩
    · exact .refl _
    · exact ⟨rfl, rfl, rfl, rfl⟩
    · exact markLeadPurchaseRefunded_visits _ ⟨rfl, rfl, rfl, rfl⟩
  | deliver event fault now jobId =>
    simp only [exec, settledPayment]
    split
    · next db' duplicate h => exact deliver_visits h
    · next exc h =>
      have hnone : deliveredPayment w.db event fault now jobId = none := by
        unfold deliveredPayment
        rw [h]
        cases eventPayment w.db event with
        | none => rfl
        | some payment => rfl
      rw [hnone]
      exact .refl _
  | recordFailure delivery =>
    simp only [exec, settledPayment]
    split
    · exact .refl _
    · next event exc _ =>
      dsimp only
      split
      · next db' h =>
        obtain ⟨paymentEvents, rfl, _⟩ := recordFailure_ok h
        exact ⟨rfl, rfl, rfl, rfl⟩
      · exact .refl _

end Breero.Payments
