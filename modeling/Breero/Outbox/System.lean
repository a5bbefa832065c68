import Breero.Lib.Runs
import Breero.PublicSubmissions.Service

/-!
Dispatchers, operators and new events, side by side.

A dispatcher is one run of the dispatch task: it claims a batch in one transaction and then
takes the events one by one, a call and a commit for each. Between two of its steps the others
take theirs, and it can crash at any of them. Every step has the time of its own host.

* `World` has the tables, the dispatchers, and what has happened to each event;
* `World.exec` is what a step does.
-/

namespace Breero.Outbox
open KeyedTable Transaction PublicSubmissions

/-- How far a dispatcher is with the first event of its batch. -/
inductive Stage
  | idle
  | calling
  | called (ending : Ending)
  deriving DecidableEq, Repr

/-- A dispatcher and the events that it has still to finish, as its session has read them. -/
structure Worker where
  id : Uuid
  batch : List OutboxEvent := []
  stage : Stage := .idle
  deriving DecidableEq, Repr

instance : Keyed Worker Uuid := ⟨Worker.id⟩

structure World where
  db : Tables := {}
  workers : Table Worker := .empty
  /-- the number of values that `uuid4` has returned as tokens -/
  drawn : Nat := 0
  /-- the dispatcher that claimed the event last, unless it was parked since -/
  holder : Uuid → Option Uuid := fun _ => none
  /-- the calls for the event since an operator last had it retried -/
  attempts : Uuid → Nat := fun _ => 0

inductive Op
  /-- a submission and its event -/
  | accept (settings : Settings) (catalog : List PublicSubmissions.CatalogService)
    (submissionType : SubmissionType) (data : TrackingFields) (key sourceIp : String)
    (now : Instant) (id eventId : Uuid)
  /-- another service emits an event -/
  | emit (event : OutboxEvent)
  | activate (skipped : List Uuid) (now : Instant)
  | park (skipped : List Uuid) (now : Instant)
  | claim (worker : Uuid) (skipped : List Uuid) (limit : Nat) (now : Instant)
  /-- the handler is called for the first event of the batch -/
  | call (worker : Uuid)
  /-- the call ends, `email.send` and `adapter.deliver` having answered -/
  | answer (worker : Uuid) (email : Option Failure)
    (adapter : Except Failure EventDeliveryResult)
  | finalize (worker : Uuid) (now : Instant) (jitter : Nat)
  | crash (worker : Uuid)
  | retry (eventId actorId : Uuid) (now : Instant)

namespace World

/-- A new dispatcher claims its batch. -/
def claimOf (s : World) (worker : Uuid) (skipped : List Uuid) (limit : Nat) (now : Instant) :
    World :=
  let (events, batch) := claim s.db.events skipped limit now DEFAULT_LEASE_SECONDS s.drawn
  match s.workers.insert? { id := worker, batch } with
  | none => s
  | some workers => { s with
      db := { s.db with events }
      workers
      drawn := s.drawn + batch.length
      holder := fun id => if id ∈ batch.map (·.id) then some worker else s.holder id }

/-- The first event of the batch, for which the handler is called now. -/
def callOf (s : World) (worker : Worker) : World :=
  match worker.batch, worker.stage with
  | event :: _, .idle => { s with
      workers := s.workers.put { worker with stage := .calling }
      attempts := fun id => if id = event.id then s.attempts id + 1 else s.attempts id }
  | _, _ => s

def answerOf (s : World) (worker : Worker) (email : Option Failure)
    (adapter : Except Failure EventDeliveryResult) : World :=
  match worker.batch, worker.stage with
  | event :: _, .calling => { s with
      workers := s.workers.put { worker with
        stage := .called (deliverOutboxEvent s.db.submissions event email adapter) } }
  | _, _ => s

def finalizeOf (s : World) (worker : Worker) (now : Instant) (jitter : Nat) : World :=
  match worker.batch, worker.stage with
  | event :: batch, .called ending => { s with
      db := finalize s.db event ending now jitter
      workers := s.workers.put { worker with batch, stage := .idle } }
  | _, _ => s

/-- The event that the dispatcher would call the handler for. -/
def nextOf (s : World) (worker : Uuid) : Option OutboxEvent :=
  (s.workers.get? worker).bind fun worker =>
    match worker.batch, worker.stage with
    | event :: _, .idle => some event
    | _, _ => none

/-- The event that the dispatcher would finalize, and how its call ended. -/
def endedOf (s : World) (worker : Uuid) : Option (OutboxEvent × Ending) :=
  (s.workers.get? worker).bind fun worker =>
    match worker.batch, worker.stage with
    | event :: _, .called ending => some (event, ending)
    | _, _ => none

/-- The ids of the events that `park_unconfigured` takes. -/
def parkedIds (s : World) (skipped : List Uuid) : List Uuid :=
  (configurable s.db.events skipped unconfigurable).map (·.id)

/-- Other services emit events of other aggregates, with the default columns. -/
def emittable (event : OutboxEvent) : Prop :=
  ofSubmission event = false ∧ event.status ∈ [EventStatus.pending, .pendingConfiguration] ∧
    event.attemptCount = 0 ∧ event.claimToken = none

instance (event : OutboxEvent) : Decidable (emittable event) :=
  inferInstanceAs (Decidable (_ ∧ _))

def exec (s : World) : Op → World
  | .accept settings catalog submissionType data key sourceIp now id eventId =>
    match accept settings catalog s.db submissionType data key sourceIp now id eventId with
    | .ok (db, _) => { s with db }
    | .error _ => s
  | .emit event =>
    if emittable event then
      match addEvent s.db event with
      | .ok db => { s with db }
      | .error _ => s
    else s
  | .activate skipped now => { s with db := activatePendingConfiguration s.db skipped now }
  | .park skipped now => { s with
      db := parkUnconfigured s.db skipped now
      holder := fun id => if id ∈ s.parkedIds skipped then none else s.holder id }
  | .claim worker skipped limit now => s.claimOf worker skipped limit now
  | .call worker =>
    match s.workers.get? worker with
    | some worker => s.callOf worker
    | none => s
  | .answer worker email adapter =>
    match s.workers.get? worker with
    | some worker => s.answerOf worker email adapter
    | none => s
  | .finalize worker now jitter =>
    match s.workers.get? worker with
    | some worker => s.finalizeOf worker now jitter
    | none => s
  | .crash worker =>
    match s.workers.get? worker with
    | some worker => { s with workers := s.workers.put { worker with batch := [], stage := .idle } }
    | none => s
  | .retry eventId actorId now =>
    match retry s.db eventId actorId now with
    | .ok (db, _) => { s with
        db
        attempts := fun id => if id = eventId then 0 else s.attempts id }
    | .error _ => s

end World

end Breero.Outbox
