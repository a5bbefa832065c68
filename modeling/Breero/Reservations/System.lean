import Breero.Lib.Runs
import Breero.Booking.Requests
import Breero.Booking.Customers
import Breero.Dispatch.AdminService

/-!
The transactions that hold, book and assign a professional's time, interleaved.

A transaction is open from its first lock to its commit. While it waits, or searches,
others commit, and what each of its queries reads is what is committed then. A step is
one query of an open transaction, its commit, or a whole transaction that waits for
nothing it has read before.

* `Call.locks` are the advisory locks and the row locks an open transaction has; two open
  transactions never have one lock;
* `exec` is what a step does.
-/

namespace Breero.Reservations
open KeyedTable Transaction Bookings Dispatch

/-- The local day of an instant at an address. -/
def dayAt (dir : Directory) (addressId : Uuid) (instant : Instant) : Option Day :=
  (dir.addresses.get? addressId).bind fun address =>
    (dir.zones address.timezoneName).map fun zone => dayOf zone instant

/-! ## Open transactions -/

/-- What an open transaction has read and is about to write. -/
inductive Work
  | hold (attempt : HoldAttempt)
  | assign (request : AssignRequest) (booking : Booking)
  | convert (request : BookingRequestCreate) (hold : BookingCapacityHold) (checkedAt : Instant)
  | reschedule (userId : Uuid) (booking : Booking) (hold : BookingCapacityHold)
      (checkedAt : Instant)
  /-- `CapacityHoldService.get` of a hold that it read as held and expired -/
  | lapse (holdId : Uuid)
  deriving DecidableEq, Repr

/-- How far an open transaction is on its way through `lock_provider_slot` and the second
search. -/
inductive Phase
  | opened
  | locked
  | jobsRead (jobs : List Job)
  | searched (load : Load) (candidate : ProviderCandidate)
  | closed
  deriving DecidableEq, Repr

structure Call where
  id : Uuid
  work : Work
  phase : Phase := .opened
  deriving DecidableEq, Repr

instance : Keyed Call Uuid := ⟨Call.id⟩

/-- A visit that a professional is searched for. -/
structure Visit where
  professionalId : Uuid
  start : Instant
  stop : Instant
  addressId : Uuid
  deriving DecidableEq, Repr

def Work.visit : Work → Option Visit
  | .hold attempt => some {
      professionalId := attempt.chosen.professionalId
      start := attempt.interval.startUtc
      stop := attempt.interval.endUtc
      addressId := attempt.address.id }
  | .assign request booking => some {
      professionalId := request.professionalId
      start := booking.windowStart
      stop := booking.windowEnd
      addressId := booking.addressId }
  | _ => none

inductive Lock
  | idempotencyKey (key : String)
  | providerSlot (professionalId : Uuid) (start : Instant)
  | bookingRow (id : Uuid)
  | holdRow (id : Uuid)
  deriving DecidableEq, Repr

/-- The locks of a transaction from its first query on. -/
def Work.locks : Work → List Lock
  | .hold attempt => [.idempotencyKey attempt.idempotencyKey]
  | .assign _ booking => [.bookingRow booking.id]
  | .convert _ held _ => [.holdRow held.id]
  | .reschedule _ booking held _ => [.bookingRow booking.id, .holdRow held.id]
  | .lapse _ => []

/-- The lock of `lock_provider_slot`. -/
def Work.slot (work : Work) : List Lock :=
  (work.visit.map fun visit => Lock.providerSlot visit.professionalId visit.start).toList

def Call.locks (call : Call) : List Lock :=
  match call.phase with
  | .closed => []
  | .opened => call.work.locks
  | _ => call.work.locks ++ call.work.slot

structure World where
  db : Db
  clock : Instant
  calls : Table Call := .empty
  /-- the holds converted so far, each with the booking made from it or moved to it -/
  conversions : List (Uuid × Uuid) := []

namespace World

/-- No open transaction has one of the locks. -/
def free (w : World) (locks : List Lock) : Prop :=
  ∀ call ∈ w.calls.rows, ∀ lock ∈ call.locks, lock ∉ locks

instance (w : World) (locks : List Lock) : Decidable (w.free locks) :=
  inferInstanceAs (Decidable (∀ call ∈ w.calls.rows, ∀ lock ∈ call.locks, lock ∉ locks))

/-- No other transaction than the caller has locked a row of a hold that `db` changes. -/
def canWrite (w : World) (caller : Option Uuid) (db : Db) : Prop :=
  ∀ hold ∈ w.db.holds.rows, db.holds.get? hold.id = some hold ∨
    ∀ call ∈ w.calls.rows, some call.id = caller ∨ Lock.holdRow hold.id ∉ call.locks

instance (w : World) (caller : Option Uuid) (db : Db) : Decidable (w.canWrite caller db) :=
  inferInstanceAs (Decidable (∀ hold ∈ w.db.holds.rows, _ ∨ ∀ call ∈ w.calls.rows, _ ∨ _))

/-- A transaction that has its first locks. -/
def begin (w : World) (call : Call) : World :=
  if w.free call.locks then
    match w.calls.insert? call with
    | some calls => { w with calls }
    | none => w
  else w

def setPhase (w : World) (call : Call) (phase : Phase) : World :=
  { w with calls := w.calls.put { call with phase } }

/-- The end of an open transaction: it commits, or it raised and is rolled back. A
transaction that would write a locked row waits. -/
def finish (w : World) (call : Call) (result : Except Raised Db)
    (converted : List (Uuid × Uuid)) : World :=
  match result with
  | .ok db =>
    if w.canWrite (some call.id) db then
      { w.setPhase call .closed with db, conversions := w.conversions ++ converted }
    else w
  | .error _ => w.setPhase call .closed

/-- A transaction in one step. -/
def transact (w : World) (result : Except Raised Db) : World :=
  match result with
  | .ok db => if w.canWrite none db then { w with db } else w
  | .error _ => w

end World

/-! ## Steps -/

inductive Op
  | tick (elapsed : Nat)
  /-- `loads` is what the first search happens to read of each professional -/
  | createHold (id : Uuid) (request : HoldRequest) (loads : Uuid → Day → Load)
  | assign (id : Uuid) (request : AssignRequest) (loads : Uuid → Day → Load)
  | request (id : Uuid) (request : BookingRequestCreate)
  | reschedule (id userId bookingId holdId : Uuid) (bookingSession : String)
  | getHold (id holdId : Uuid) (bookingSession : String)
  | lockSlot (id : Uuid)
  | readJobs (id : Uuid)
  | readHolds (id : Uuid)
  /-- `now` is when the part after the second search began -/
  | grantHold (id : Uuid) (now : Instant) (holdId : Uuid)
  | finishAssign (id : Uuid) (now : Instant) (jobId assignmentId : Uuid)
  | finishRequest (id : Uuid) (authenticatedUser : Option Uuid)
      (subject : Except Raised (Option String)) (ids : RequestIds)
  | finishReschedule (id : Uuid)
  | lapse (id : Uuid)
  | abort (id : Uuid)
  | release (holdId : Uuid) (bookingSession : String)
  | expireStale

/-- The second search over what the two queries of `_usage` read. -/
def recheck (dir : Directory) (db : Db) (load : Load) : Work → Except Raised ProviderCandidate
  | .hold attempt => do
    recheckHold dir db attempt load
    return attempt.chosen
  | .assign request booking =>
    recheckAssign dir db booking request.professionalId (fun _ _ => load)
  | _ => throw (.other "no search")

/-- The jobs and the holds that `_usage` reads for a visit. -/
def jobsFor (dir : Directory) (db : Db) (visit : Visit) : List Job :=
  ((dayAt dir visit.addressId visit.start).map (jobsOn db visit.professionalId)).getD []

def holdsFor (dir : Directory) (db : Db) (now : Instant) (visit : Visit) :
    List BookingCapacityHold :=
  ((dayAt dir visit.addressId visit.start).map (holdsOn db now visit.professionalId)).getD []

def loadFor (dir : Directory) (db : Db) (now : Instant) (visit : Visit) : Load :=
  { jobs := jobsFor dir db visit, holds := holdsFor dir db now visit }

/-- A step of the open transaction `id`. -/
def stepCall (w : World) (id : Uuid) (f : Call → World) : World :=
  match w.calls.get? id with
  | some call => f call
  | none => w

def exec (settings : Settings) (dir : Directory) (w : World) : Op → World
  | .tick elapsed => { w with clock := w.clock + elapsed }
  | .createHold id request loads =>
    match prepareHold settings dir w.db loads request with
    | .ok (.inr attempt) => w.begin { id, work := .hold attempt }
    | _ => w
  | .assign id request loads =>
    match beginAssign settings dir w.db loads request with
    | .ok booking => w.begin { id, work := .assign request booking }
    | .error _ => w
  | .request id request =>
    match beginRequest settings w.db request w.clock with
    | .ok (.inr hold) => w.begin { id, work := .convert request hold w.clock }
    | _ => w
  | .reschedule id userId bookingId holdId bookingSession =>
    match beginReschedule settings w.db userId bookingId holdId bookingSession w.clock with
    | .ok (booking, hold) => w.begin { id, work := .reschedule userId booking hold w.clock }
    | .error _ => w
  | .getHold id holdId bookingSession =>
    match getHold settings w.db holdId bookingSession w.clock with
    | .ok (_, true) => w.begin { id, work := .lapse holdId }
    | _ => w
  | .lockSlot id => stepCall w id fun call =>
    match call.phase, call.work.visit with
    | .opened, some _ => if w.free call.work.slot then w.setPhase call .locked else w
    | _, _ => w
  | .readJobs id => stepCall w id fun call =>
    match call.phase, call.work.visit with
    | .locked, some visit => w.setPhase call (.jobsRead (jobsFor dir w.db visit))
    | _, _ => w
  | .readHolds id => stepCall w id fun call =>
    match call.phase, call.work.visit with
    | .jobsRead jobs, some visit =>
      let load : Load := { jobs, holds := holdsFor dir w.db w.clock visit }
      match recheck dir w.db load call.work with
      | .ok candidate => w.setPhase call (.searched load candidate)
      | .error _ => w.setPhase call .closed
    | _, _ => w
  | .grantHold id now holdId => stepCall w id fun call =>
    match call.phase, call.work with
    | .searched _ _, .hold attempt =>
      if now ≤ w.clock then
        w.finish call ((grantHold w.db attempt now holdId).map Prod.fst) []
      else w
    | _, _ => w
  | .finishAssign id now jobId assignmentId => stepCall w id fun call =>
    match call.phase, call.work with
    | .searched _ candidate, .assign request booking =>
      w.finish call
        ((assignTo w.db booking candidate request now jobId assignmentId).map Prod.fst) []
    | _, _ => w
  | .finishRequest id authenticatedUser subject ids => stepCall w id fun call =>
    match call.phase, call.work with
    | .opened, .convert request hold checkedAt =>
      w.finish call
        ((finishRequest settings dir w.db request hold checkedAt authenticatedUser subject
          ids).map Prod.fst)
        [(hold.id, ids.bookingId)]
    | _, _ => w
  | .finishReschedule id => stepCall w id fun call =>
    match call.phase, call.work with
    | .opened, .reschedule userId booking hold checkedAt =>
      w.finish call (.ok (finishReschedule w.db userId booking hold checkedAt).1)
        [(hold.id, booking.id)]
    | _, _ => w
  | .lapse id => stepCall w id fun call =>
    match call.phase, call.work with
    | .opened, .lapse holdId => w.finish call (.ok (lapseHold w.db holdId)) []
    | _, _ => w
  | .abort id => stepCall w id fun call => w.setPhase call .closed
  | .release holdId bookingSession =>
    w.transact ((releaseHold settings w.db holdId bookingSession w.clock).map Prod.fst)
  | .expireStale => w.transact (.ok (expireStale w.db w.clock))

end Breero.Reservations
