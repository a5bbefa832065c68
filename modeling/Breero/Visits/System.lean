import Breero.Booking.Lifecycle
import Breero.Jobs.WorkRequests
import Breero.Payments.System
import Breero.Dispatch.System

/-!
A visit from its booking to its last payment: the payment system, the system that
dispatches jobs, the work requests and the worker that expires bookings, over one
database. A step is one transaction, or a step of Stripe.
-/

namespace Breero.Visits
open KeyedTable Transaction Bookings Payments

inductive Op
  | payment (op : Payments.Op)
  | dispatch (op : Dispatch.Op)
  | createWorkRequest (jobId : Uuid) (payload : Jobs.WorkRequestCreate) (workerId requestId : Uuid)
      (now : Instant)
  | reviewWorkRequest (requestId : Uuid) (approve : Bool) (actorId : Option Uuid) (now : Instant)
  | decideWorkRequest (requestId : Uuid) (approve : Bool) (customerId : Uuid) (now : Instant)
  /-- `skipped` are the bookings whose rows are locked -/
  | expireBookings (now : Instant) (skipped : List Uuid)

def exec (settings : Settings) (dir : Directory) (w : World) : Op → World
  | .payment op => Payments.exec settings w op
  | .dispatch op => { w with db := Dispatch.exec settings dir w.db op }
  | .createWorkRequest jobId payload workerId requestId now =>
    { w with db := commit w.db (Jobs.createWorkRequest w.db jobId payload workerId requestId now) }
  | .reviewWorkRequest requestId approve actorId now =>
    { w with db := commit w.db (Jobs.reviewWorkRequest w.db requestId approve actorId now) }
  | .decideWorkRequest requestId approve customerId now =>
    { w with
      db := commit w.db (Jobs.decideWorkRequest settings w.db requestId approve customerId now) }
  | .expireBookings now skipped => { w with db := expireBookingHolds w.db now skipped }

/-! ## A visit from end to end

The booking 2 is for the worker 6, and its fee of 10000 minor units is to be paid. -/

def fullSettings : Settings := { Dispatch.visitSettings with payoutEnabled := true }

def fullWorld : World where
  db := { Dispatch.visitDb with
    bookings := ⟨[{ Dispatch.visitBooking with
      providerWorkerId := some 6, status := .pendingPayment, totalAmount := 10000 }], by decide⟩
    compensationPlans := ⟨[{
      id := 80, vendorId := 5, method := .percentage, percentageBps := some 8000
      effectiveFrom := 0 }], by decide⟩ }

/-- The fee is paid, so that the booking has the job 20. -/
def feePaid : List Op := [
  .payment (.createIntent { bookingId := some 2, amountMinor := 10000 } "fee"
    (.ok (intentAt "pi_1" "requires_payment_method" 0)) 10),
  .payment (.deliver (intentEvent "evt_1" "payment_intent.succeeded" "pi_1" "succeeded" 10000)
    none 0 20)]

/-- An offer of the job is accepted, and the technician arrives. -/
def dispatched : List Op := [
  .dispatch (.matchJob 20 none 1 fun rank => 60 + rank),
  .dispatch (.decideOffer 60 5 true none 7 2 21),
  .dispatch (.transition 20 .enRoute (some 9) "worker" none 3 0 0),
  .dispatch (.transition 20 .onSite (some 9) "worker" none 4 0 0),
  .dispatch (.technicianNote 20 6 9 .diagnosticNotes "worn belt" .diagnosing 5 0 0)]

/-- Additional work is requested, approved and paid. -/
def additionalWork : List Op := [
  .createWorkRequest 20
    { description := "belt"
      lineItems := [{ description := "belt", quantity := 2, unitPriceMinor := 1500 }] } 6 70 6,
  .reviewWorkRequest 70 true (some 8) 7,
  .decideWorkRequest 70 true 1 8,
  .payment (.createIntent
    { quoteId := some 70, amountMinor := 3000, paymentPurpose := .quoteAdditionalWork } "belt"
    (.ok (intentAt "pi_2" "requires_payment_method" 0)) 11),
  .payment (.deliver (intentEvent "evt_2" "payment_intent.succeeded" "pi_2" "succeeded" 3000)
    none 9 0)]

def completed : List Op := [
  .dispatch (.technicianNote 20 6 9 .completionNotes "replaced" .completed 10 30 31)]

def fullVisit : List Op := feePaid ++ dispatched ++ additionalWork ++ completed

end Breero.Visits
