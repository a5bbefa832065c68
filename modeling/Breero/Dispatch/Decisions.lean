import Breero.Booking.Lifecycle
import Breero.Dispatch.System

/-!
Decisions about a job, interleaved with what others write of its booking.

`decide_offer` and `manual_assign` lock the job and read its booking without a lock; the
status they give the booking is written when they commit. A decision is open in between.
The other services lock the booking first and read it then, and each of their transactions
is one step, as is the worker that expires bookings.

* `flush` is what reaches the rows of the bookings when a decision commits;
* `Deciding.exec` is what a step does.
-/

namespace Breero.Dispatch
open KeyedTable Transaction Bookings

/-- The arguments of a decision for a professional. -/
inductive Decision
  | offer (offerId vendorId : Uuid) (workerId : Option Uuid) (actorId : Uuid) (now : Instant)
      (assignmentId : Uuid)
  | manual (jobId vendorId workerId actorId : Uuid) (reason : String) (now : Instant)
      (assignmentId : Uuid)

def Decision.transact (db : Db) : Decision → Except Raised Db
  | .offer offerId vendorId workerId actorId now assignmentId =>
    (decideOffer db offerId vendorId true workerId actorId now assignmentId).map Prod.fst
  | .manual jobId vendorId workerId actorId reason now assignmentId =>
    (manualAssign db jobId vendorId workerId actorId reason now assignmentId).map Prod.fst

/-- The offer that the decision locks. -/
def Decision.offerId : Decision → Option Uuid
  | .offer offerId .. => some offerId
  | .manual .. => none

/-- The job that the decision locks. -/
def Decision.jobId (db : Db) : Decision → Option Uuid
  | .offer offerId .. => (db.offers.get? offerId).map DispatchOffer.jobId
  | .manual jobId .. => some jobId

structure OpenDecision where
  decision : Decision
  /-- the bookings as the decision has read them -/
  seen : Table Booking

/-- The booking with the status that was written over the one that was seen, if another. -/
def flushed (seen written : Table Booking) (booking : Booking) : Booking :=
  match seen.get? booking.id, written.get? booking.id with
  | some before, some after =>
    if after.status = before.status then booking else { booking with status := after.status }
  | _, _ => booking

theorem flushed_id (seen written : Table Booking) (booking : Booking) :
    (flushed seen written booking).id = booking.id := by
  unfold flushed
  split
  · split <;> rfl
  · rfl

/-- `UPDATE bookings` of the attributes that a decision has changed. -/
def flush (seen written committed : Table Booking) : Table Booking :=
  committed.update (flushed seen written) (flushed_id seen written)

structure Deciding where
  db : Db
  decisions : List OpenDecision := []

namespace Deciding

/-- No open decision has locked the job. -/
def free (w : Deciding) (jobId : Option Uuid) : Prop :=
  ∀ other ∈ w.decisions, ∀ locked ∈ other.decision.jobId w.db, some locked ≠ jobId

instance (w : Deciding) (jobId : Option Uuid) : Decidable (w.free jobId) :=
  inferInstanceAs (Decidable (∀ other ∈ w.decisions, ∀ locked ∈ other.decision.jobId w.db, _))

/-- No row is changed that an open decision has locked. -/
def canWrite (w : Deciding) (db : Db) : Prop :=
  ∀ other ∈ w.decisions,
    (∀ locked ∈ other.decision.offerId, db.offers.get? locked = w.db.offers.get? locked) ∧
      ∀ locked ∈ other.decision.jobId w.db, db.jobs.get? locked = w.db.jobs.get? locked

instance (w : Deciding) (db : Db) : Decidable (w.canWrite db) :=
  inferInstanceAs (Decidable (∀ other ∈ w.decisions,
    (∀ locked ∈ other.decision.offerId, _) ∧ ∀ locked ∈ other.decision.jobId w.db, _))

/-- A transaction in one step. One that would change a locked row waits. -/
def write (w : Deciding) (db : Db) : Deciding :=
  if w.canWrite db then { w with db } else w

inductive Op
  /-- a decision passes its checks -/
  | decide (decision : Decision)
  /-- the open decision at the position commits, or raises -/
  | finish (position : Nat)
  | dispatch (op : Dispatch.Op)
  /-- `skipped` are the bookings whose rows are locked -/
  | expireBookings (now : Instant) (skipped : List Uuid)

def exec (settings : Settings) (dir : Directory) (w : Deciding) : Op → Deciding
  | .decide decision =>
    if (decision.transact w.db).isOk ∧ w.free (decision.jobId w.db) then
      { w with decisions := w.decisions ++ [{ decision, seen := w.db.bookings }] }
    else w
  | .finish position =>
    match w.decisions[position]? with
    | none => w
    | some found =>
      let decisions := w.decisions.eraseIdx position
      match found.decision.transact { w.db with bookings := found.seen } with
      | .ok db =>
        { db := { db with bookings := flush found.seen db.bookings w.db.bookings }, decisions }
      | .error _ => { w with decisions }
  | .dispatch op => w.write (Dispatch.exec settings dir w.db op)
  | .expireBookings now skipped => { w with db := expireBookingHolds w.db now skipped }

end Deciding

end Breero.Dispatch
