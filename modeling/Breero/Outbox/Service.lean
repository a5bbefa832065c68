import Breero.Lib.Transaction
import Breero.Outbox.Models
import Mathlib.Data.List.Sort

/-!
`OutboxService` and the handler that the dispatch task gives it.

* `activatePendingConfiguration`, `parkUnconfigured`, `claim` and `retry` are one transaction
  each;
* `process` claims a batch and then works through it: `deliverOutboxEvent` is the call for
  one event of it, `finalize` the transaction that records how the call ended.
-/

namespace Breero.Outbox
open KeyedTable Transaction PublicSubmissions

def MAX_ATTEMPTS : Nat := 5

def DEFAULT_LEASE_SECONDS : Int := 300

def INTEGRATION_DISABLED_ERROR_CODE : String := "INTEGRATION_DISABLED"

/-- The tables that the dispatcher and the operators write. -/
structure Tables where
  events : Table OutboxEvent := .empty
  submissions : Table PublicSubmission := .empty
  audit : List AuditLog := []

/-- The rows that a session flushes, in the place of those with their ids. -/
def writeBack (t : Table OutboxEvent) (rows : List OutboxEvent) : Table OutboxEvent :=
  t.update (fun stored => (rows.find? fun row => row.id = stored.id).getD stored) <| by
    intro stored
    cases h : rows.find? fun row => row.id = stored.id with
    | none => rfl
    | some row =>
      show row.id = stored.id
      simpa using List.find?_some h

/-! ## Configuration -/

/-- `update(PublicSubmission)` for the ids. -/
def setDownstream (t : Table PublicSubmission) (ids : List Uuid) (status : DownstreamStatus) :
    Table PublicSubmission :=
  t.update (fun row => if row.id ∈ ids then { row with downstreamStatus := status } else row) <| by
    intro row
    split <;> rfl

def ofSubmission (event : OutboxEvent) : Bool := event.aggregateType = "public_submission"

/-- `_sync_public_submission_status` -/
def syncPublicSubmissionStatus (t : Table PublicSubmission) (events : List OutboxEvent)
    (status : DownstreamStatus) : Table PublicSubmission :=
  setDownstream t ((events.filter ofSubmission).map (·.aggregateId)) status

/-- The events of the default aggregate type and prefix, which are the only ones that the
dispatch task asks for; `skipped` are the rows that other transactions have locked. -/
def configurable (t : Table OutboxEvent) (skipped : List Uuid) (statuses : List EventStatus) :
    List OutboxEvent :=
  t.rows.filter fun event => ofSubmission event && event.status ∈ statuses &&
    startsWith event.eventType "breero." && event.id ∉ skipped

def activated (now : Instant) (event : OutboxEvent) : OutboxEvent :=
  let event := { event with status := .pending, nextAttemptAt := now }
  if event.lastErrorCode = some INTEGRATION_DISABLED_ERROR_CODE then
    { event with lastError := none, lastErrorCode := none, lastErrorAt := none }
  else event

def activatePendingConfiguration (db : Tables) (skipped : List Uuid) (now : Instant) : Tables :=
  let events := configurable db.events skipped [.pendingConfiguration]
  { db with
    events := writeBack db.events (events.map (activated now))
    submissions := syncPublicSubmissionStatus db.submissions events .pending }

def parked (now : Instant) (event : OutboxEvent) : OutboxEvent := {
  event with
  status := .pendingConfiguration
  claimedAt := none
  leaseExpiresAt := none
  claimToken := none
  lastError := some "Integration disabled or unconfigured"
  lastErrorCode := some INTEGRATION_DISABLED_ERROR_CODE
  lastErrorAt := some now }

/-- The statuses from which `park_unconfigured` takes an event. -/
def unconfigurable : List EventStatus := [.pending, .retrying, .failedRetryable, .processing]

def parkUnconfigured (db : Tables) (skipped : List Uuid) (now : Instant) : Tables :=
  let events := configurable db.events skipped unconfigurable
  { db with
    events := writeBack db.events (events.map (parked now))
    submissions := syncPublicSubmissionStatus db.submissions events .pendingConfiguration }

/-! ## Claims -/

/-- The event waits for its next attempt, or for one whose lease has run out. -/
def due (now : Instant) (event : OutboxEvent) : Bool :=
  (event.status ∈ [EventStatus.pending, .retrying, .failedRetryable] &&
      event.nextAttemptAt ≤ now) ||
    (event.status = .processing && event.leaseExpiresAt.any (· ≤ now))

/-- `select … order by created_at for update skip locked limit …`. -/
def claimable (t : Table OutboxEvent) (skipped : List Uuid) (limit : Nat) (now : Instant) :
    List OutboxEvent :=
  ((t.rows.filter fun event => due now event && event.id ∉ skipped).insertionSort
    fun a b => a.createdAt ≤ b.createdAt).take limit

def claimed (now : Instant) (leaseSeconds : Int) (token : Uuid) (event : OutboxEvent) :
    OutboxEvent := {
  event with
  status := .processing
  claimedAt := some now
  leaseExpiresAt := some (now + ofSeconds leaseSeconds)
  claimToken := some token
  attemptCount := event.attemptCount + 1 }

/-- The loop of `claim`; `uuid4` returns the next value that it has not returned before. -/
def claimEach (now : Instant) (leaseSeconds : Int) : Nat → List OutboxEvent → List OutboxEvent
  | _, [] => []
  | token, event :: events =>
    claimed now leaseSeconds token event :: claimEach now leaseSeconds (token + 1) events

/-- `claim`: the table to commit and the rows as the session has them. -/
def claim (t : Table OutboxEvent) (skipped : List Uuid) (limit : Nat) (now : Instant)
    (leaseSeconds : Int) (token : Nat) : Table OutboxEvent × List OutboxEvent :=
  let events := claimEach now leaseSeconds token (claimable t skipped limit now)
  (writeBack t events, events)

/-! ## Delivery -/

/-- An exception as `process` reads it: `str(exc)`, the attribute `code` or the name of the
type, and the flags. -/
structure Failure where
  text : String
  code : String
  terminal : Bool := false
  pendingConfiguration : Bool := false
  deriving DecidableEq, Repr

structure EventDeliveryResult where
  externalId : Int
  model : String
  deriving DecidableEq, Repr

/-- What the handler returned, and the submission that it changed in the session, as it was
read. -/
structure Delivered where
  result : Option EventDeliveryResult
  submission : Option PublicSubmission
  deriving DecidableEq, Repr

/-- How the call of the handler ended. -/
inductive Ending
  | returned (delivered : Delivered)
  | raised (failure : Failure)
  deriving DecidableEq, Repr

def notificationEvents : List String :=
  ["email_verification_requested", "password_reset_requested", "password_changed",
    "payment_captured", "refund_created"]

/-- `UnhandledOutboxEvent` -/
def unhandledOutboxEvent : Failure := {
  text := "No approved handler is registered for this event"
  code := "UNHANDLED_EVENT_TYPE"
  terminal := true }

/-- `deliver_outbox_event`, given what `email.send` and `adapter.deliver` do. -/
def deliverOutboxEvent (submissions : Table PublicSubmission) (event : OutboxEvent)
    (email : Option Failure) (adapter : Except Failure EventDeliveryResult) : Ending :=
  if event.eventType ∈ notificationEvents then
    match email with
    | some failure => .raised failure
    | none => .returned ⟨none, none⟩
  else if startsWith event.eventType "breero." then
    match adapter with
    | .error failure => .raised failure
    | .ok result =>
      .returned ⟨some result,
        if ofSubmission event then submissions.get? event.aggregateId else none⟩
  else .raised unhandledOutboxEvent

/-- The event after a call that returned. -/
def succeeded (now : Instant) (result : Option EventDeliveryResult) (event : OutboxEvent) :
    OutboxEvent :=
  let event := { event with
    status := .delivered
    processedAt := some now
    lastError := none
    lastErrorCode := none }
  match result with
  | some result => { event with
      externalModel := some result.model
      externalRecordId := some (toString result.externalId) }
  | none => event

/-- `min(30 * 2 ** (attempt_count - 1), 3600)` -/
def backoffSeconds (attemptCount : Nat) : Nat := min (30 * 2 ^ (attemptCount - 1)) 3600

/-- The failure is not tried again. -/
def endsTerminal (failure : Failure) (attemptCount : Nat) : Bool :=
  !failure.pendingConfiguration && (failure.terminal || MAX_ATTEMPTS ≤ attemptCount)

/-- The event after a call that raised; `jitter` is `random.randint(0, 15)`. -/
def failed (now : Instant) (jitter : Nat) (failure : Failure) (event : OutboxEvent) :
    OutboxEvent :=
  let event := { event with
    lastError := some (truncate 500 (redact failure.text))
    lastErrorCode := some (truncate 80 (upper failure.code))
    lastErrorAt := some now }
  if failure.pendingConfiguration then
    { event with status := .pendingConfiguration, processedAt := none }
  else if endsTerminal failure event.attemptCount then
    { event with status := .failedTerminal, processedAt := some now }
  else
    { event with
      status := .retrying
      nextAttemptAt := now + ofSeconds (backoffSeconds event.attemptCount + jitter) }

/-- The event as `process` leaves it. -/
def finished (now : Instant) (jitter : Nat) (ending : Ending) (event : OutboxEvent) :
    OutboxEvent :=
  { (match ending with
      | .returned delivered => succeeded now delivered.result event
      | .raised failure => failed now jitter failure event) with
    leaseExpiresAt := none
    claimToken := none }

/-- An update of the row that the session `read`. -/
def writeEvent (t : Table OutboxEvent) (read new : OutboxEvent) : Table OutboxEvent :=
  match t.get? read.id with
  | some stored => t.put (read.merge new stored)
  | none => t

/-- The submission as the handler left it, if that changed it. -/
def writeSubmission (t : Table PublicSubmission) : Ending → Table PublicSubmission
  | .returned ⟨_, some submission⟩ =>
    if submission.downstreamStatus = .delivered then t
    else setDownstream t [submission.id] .delivered
  | _ => t

/-- The commit for one event of a batch. -/
def finalize (db : Tables) (event : OutboxEvent) (ending : Ending) (now : Instant)
    (jitter : Nat) : Tables := {
  db with
  events := writeEvent db.events event (finished now jitter ending event)
  submissions := writeSubmission db.submissions ending }

/-! ## Operators -/

def retryable : List EventStatus := [.deadLetter, .failed, .failedTerminal, .pendingConfiguration]

def retried (now : Instant) (event : OutboxEvent) : OutboxEvent := {
  event with
  status := .pending
  attemptCount := 0
  nextAttemptAt := now
  processedAt := none
  claimedAt := none
  leaseExpiresAt := none
  claimToken := none }

/-- `retry`; its errors are a `LookupError` and a `ValueError`. -/
def retry (db : Tables) (eventId actorId : Uuid) (now : Instant) :
    Except Raised (Tables × OutboxEvent) := do
  let event ← orRaise (db.events.get? eventId) (.other "Integration event not found")
  require (event.status ∈ retryable)
    (.other "Only failed or configuration-pending integration events can be retried")
  let audit : AuditLog := {
    actorId := some actorId
    action := "integration.retry"
    resourceType := "integration_event"
    resourceId := event.id
    metadata := [("previous_error", .ofOption event.lastError)]
    createdAt := now }
  let event := retried now event
  return ({ db with events := db.events.put event, audit := db.audit ++ [audit] }, event)

end Breero.Outbox
