import Breero.BookingIntents.Service
import Breero.Lib.Locks
import Breero.Lib.Runs

/-!
Requests for booking intents, with others between their parts.

`submit` commits twice. The first commit is that of `BookingService.create`, and with it the
lock of the intent is gone; the second one marks the intent. Where the key already has its
booking, there is only the second.

* `Lawful` is what a step may do to an intent;
* `Broken` are the three kinds of steps that do something else.
-/

namespace Breero.BookingIntents
open KeyedTable Transaction Locks Bookings

/-! ## Open calls -/

/-- A `submit` that has passed its checks: the intent that it has locked and read, the version
of its request, and whether a booking of the intent was committed already when it got the
lock. -/
structure Submission where
  read : BookingIntent
  expectedVersion : Nat
  afterBooking : Bool
  deriving DecidableEq, Repr

inductive OpenSubmit
  /-- a call of `BookingService.create`, by a `submit` or directly -/
  | creating (submission : Option Submission) (attempt : CreateAttempt)
  /-- a `submit` whose booking is committed -/
  | created (submission : Submission) (bookingId : Uuid)
  /-- a `submit` whose key has its booking already -/
  | found (submission : Submission) (idempotencyKey : String) (bookingId : Uuid)
  deriving DecidableEq, Repr

inductive Lock
  | intent (id : Uuid)
  | idempotencyKey (key : String)
  | slot (serviceId : Uuid) (window : BookingWindow)
  deriving DecidableEq, Repr

def OpenSubmit.locks : OpenSubmit → List Lock
  | .creating submission attempt =>
    (submission.toList.map fun submission => Lock.intent submission.read.id) ++
      [.idempotencyKey attempt.idempotencyKey,
       .slot attempt.payload.serviceId attempt.payload.window]
  | .created _ _ => []
  | .found submission idempotencyKey _ =>
    [.intent submission.read.id, .idempotencyKey idempotencyKey]

/-- The `submit` that is about to mark its intent, and its booking. -/
def OpenSubmit.mark? : OpenSubmit → Option (Submission × Uuid)
  | .creating _ _ => none
  | .created submission bookingId | .found submission _ bookingId => some (submission, bookingId)

structure World where
  db : Db
  intents : Table BookingIntent
  submits : List OpenSubmit := []
  /-- the bookings that were created so far by a `submit`, each with its intent -/
  made : List (Uuid × Uuid) := []

namespace World

inductive Op
  | create (serviceId anonymousSessionId : Uuid) (now : Instant) (id : Uuid)
    (publicReference : String)
  | get (intentId anonymousSessionId : Uuid) (now : Instant)
  /-- `owner` is the customer of each address, as the request reads it -/
  | update (intentId anonymousSessionId : Uuid) (command : BookingIntentUpdate)
    (expectedVersion : Nat) (owner : Uuid → Option Uuid) (now : Instant)
  | abandon (intentId anonymousSessionId : Uuid) (expectedVersion : Nat) (now : Instant)
  /-- `submit`, which began at `began`, has searched for the slot or found its key -/
  | submit (intentId anonymousSessionId : Uuid) (customer : CustomerInput)
    (answers : List BookingAnswerInput) (expectedVersion : Nat) (idempotencyKey : String)
    (began now : Instant)
  /-- the same for a direct call of `BookingService.create` -/
  | book (payload : BookingCreateRequest) (idempotencyKey : String) (began now : Instant)
  /-- the commit of `BookingService.create` -/
  | commit (position : Nat) (now : Instant) (ids : CreateIds)
  /-- the last commit of `submit` -/
  | mark (position : Nat) (now : Instant)
  | abort (position : Nat)

/-! ## Steps -/

/-- A committed write of an intent, with its record in the audit log. -/
def write (w : World) (intent : BookingIntent) (action : String) (metadata : Payload)
    (now : Instant) : World :=
  { w with
    db := audited w.db intent action metadata now
    intents := w.intents.put intent }

def writeExpired (w : World) (intent : BookingIntent) (now : Instant) : World :=
  w.write (expire intent) "booking_intent.expire" [("version", .int (intent.version + 1))] now

/-- The intent of the session, once its row is locked. -/
def locked (w : World) (intentId anonymousSessionId : Uuid) : Option BookingIntent :=
  if Free OpenSubmit.locks w.submits [.intent intentId] then
    (owned w.intents intentId anonymousSessionId).toOption
  else none

def updateOf (dir : Directory) (w : World) (intent : BookingIntent)
    (command : BookingIntentUpdate) (expectedVersion : Nat) (owner : Uuid → Option Uuid)
    (now : Instant) : World :=
  if due intent now then w.writeExpired intent now
  else
    match update dir owner w.db now intent command expectedVersion with
    | .ok intent => w.write intent "booking_intent.update"
        [("status", .str intent.status.value), ("version", .int intent.version)] now
    | .error _ => w

def abandonOf (w : World) (intent : BookingIntent) (expectedVersion : Nat) (now : Instant) :
    World :=
  match abandon intent expectedVersion with
  | .ok (some intent) =>
    w.write intent "booking_intent.abandon" [("version", .int intent.version)] now
  | _ => w

/-- A call of `BookingService.create` that has its locks. -/
def beginOf (settings : Settings) (dir : Directory) (w : World) (submission : Option Submission)
    (payload : BookingCreateRequest) (idempotencyKey : String) (began now : Instant) : World :=
  match beginCreate settings dir w.db payload idempotencyKey began now with
  | .ok (.inr attempt) =>
    let call := OpenSubmit.creating submission attempt
    if Free OpenSubmit.locks w.submits call.locks then { w with submits := w.submits ++ [call] }
    else w
  | .ok (.inl existing) =>
    match submission with
    | none => w
    | some submission =>
      let call := OpenSubmit.found submission idempotencyKey existing.id
      if Free OpenSubmit.locks w.submits call.locks then { w with submits := w.submits ++ [call] }
      else w
  | .error _ => w

def submitOf (settings : Settings) (dir : Directory) (w : World) (intent : BookingIntent)
    (customer : CustomerInput) (answers : List BookingAnswerInput) (expectedVersion : Nat)
    (idempotencyKey : String) (began now : Instant) : World :=
  if due intent began then w.writeExpired intent began
  else
    match beginSubmit dir intent customer answers expectedVersion with
    | .ok payload =>
      let submission : Submission := {
        read := intent, expectedVersion
        afterBooking := w.made.any fun made => made.1 = intent.id }
      beginOf settings dir w (some submission) payload idempotencyKey began now
    | .error _ => w

/-- The first commit of a `submit`, or the only one of a direct call. -/
def commitOf (w : World) (rest : List OpenSubmit) (submission : Option Submission)
    (attempt : CreateAttempt) (now : Instant) (ids : CreateIds) : World :=
  match finishCreate w.db attempt now ids with
  | .ok (db, booking) =>
    { w with
      db
      submits := rest ++ submission.toList.map fun submission => .created submission booking.id
      made := w.made ++ submission.toList.map fun submission => (submission.read.id, booking.id) }
  | .error _ => { w with submits := rest }

/-- The intent is marked over what is stored, when its row is free. -/
def markOf (w : World) (rest : List OpenSubmit) (read : BookingIntent) (bookingId : Uuid)
    (now : Instant) : World :=
  match w.intents.get? read.id with
  | none => { w with submits := rest }
  | some stored =>
    if Free OpenSubmit.locks rest [.intent read.id] then
      { w with submits := rest }.write (submitted read bookingId stored) "booking_intent.submit"
        [("booking_id", .uuid bookingId), ("version", .int (read.version + 1))] now
    else w

def exec (settings : Settings) (dir : Directory) (w : World) : Op → World
  | .create serviceId anonymousSessionId now id publicReference =>
    match create dir serviceId anonymousSessionId now BOOKING_INTENT_TTL id publicReference with
    | .error _ => w
    | .ok intent =>
      match w.intents.insert? intent with
      | none => w
      | some intents => { w with
          db := audited w.db intent "booking_intent.create"
            [("service_id", .uuid intent.serviceId)] now
          intents }
  | .get intentId anonymousSessionId now =>
    match w.locked intentId anonymousSessionId with
    | some intent => if due intent now then w.writeExpired intent now else w
    | none => w
  | .update intentId anonymousSessionId command expectedVersion owner now =>
    match w.locked intentId anonymousSessionId with
    | some intent => updateOf dir w intent command expectedVersion owner now
    | none => w
  | .abandon intentId anonymousSessionId expectedVersion now =>
    match w.locked intentId anonymousSessionId with
    | some intent => w.abandonOf intent expectedVersion now
    | none => w
  | .submit intentId anonymousSessionId customer answers expectedVersion idempotencyKey began
      now =>
    match w.locked intentId anonymousSessionId with
    | some intent => submitOf settings dir w intent customer answers expectedVersion
        idempotencyKey began now
    | none => w
  | .book payload idempotencyKey began now =>
    beginOf settings dir w none payload idempotencyKey began now
  | .commit position now ids =>
    match w.submits[position]? with
    | some (.creating submission attempt) =>
      w.commitOf (w.submits.eraseIdx position) submission attempt now ids
    | _ => w
  | .mark position now =>
    match w.submits[position]?.bind OpenSubmit.mark? with
    | some (submission, bookingId) =>
      w.markOf (w.submits.eraseIdx position) submission.read bookingId now
    | none => w
  | .abort position => { w with submits := w.submits.eraseIdx position }

/-! ## The law -/

/-- The committed writes of the intent: each one has its record. -/
def writes (w : World) (intentId : Uuid) : Nat :=
  w.db.auditLogs.countP fun log =>
    log.resourceType = "booking_intent" && log.resourceId = intentId

/-- The step has committed a write of the intent. -/
def Mutated (w w' : World) (intentId : Uuid) : Prop :=
  w'.intents.get? intentId ≠ w.intents.get? intentId ∨ w'.writes intentId ≠ w.writes intentId

instance (w w' : World) (intentId : Uuid) : Decidable (Mutated w w' intentId) :=
  inferInstanceAs (Decidable (_ ∨ _))

/-- The intent and the version that the request of a step carries. -/
def carried (w : World) : Op → Option (Uuid × Nat)
  | .update intentId _ _ expectedVersion _ _ => some (intentId, expectedVersion)
  | .abandon intentId _ expectedVersion _ => some (intentId, expectedVersion)
  | .submit intentId _ _ _ expectedVersion _ _ _ => some (intentId, expectedVersion)
  | .mark position _ => (w.submits[position]?.bind OpenSubmit.mark?).map
      fun (submission, _) => (submission.read.id, submission.expectedVersion)
  | .create _ _ _ _ _ | .get _ _ _ | .book _ _ _ _ | .commit _ _ _ | .abort _ => none

/-- What a step may do to an intent. -/
structure IntentLawful (w : World) (op : Op) (w' : World) (stored later : BookingIntent) :
    Prop where
  version : Mutated w w' stored.id → stored.version < later.version
  submitted : stored.status = .submitted → ¬ Mutated w w' stored.id
  stale : ∀ version, carried w op = some (stored.id, version) → version ≠ stored.version →
    ¬ Mutated w w' stored.id

structure Lawful (w : World) (op : Op) (w' : World) : Prop where
  one : ∀ intentId, w'.made.countP (·.1 = intentId) ≤ 1
  intents : ∀ stored ∈ w.intents.rows, ∃ later, w'.intents.get? stored.id = some later ∧
    IntentLawful w op w' stored later

/-! ## The steps that break it -/

/-- An intent past its time is expired for a request with a stale version. -/
def ExpiresStale (w : World) (intentId anonymousSessionId : Uuid) (expectedVersion : Nat)
    (now : Instant) : Prop :=
  ∃ intent ∈ w.locked intentId anonymousSessionId,
    due intent now ∧ intent.version ≠ expectedVersion

/-- A `submit` commits that was let past its checks in the gap of another one: it has locked
the intent after the booking of the other was committed, and before the intent was marked. -/
def InGap (w : World) (position : Nat) (now : Instant) (ids : CreateIds) : Prop :=
  ∃ call ∈ w.submits[position]?, ∃ submission attempt,
    call = .creating (some submission) attempt ∧ submission.afterBooking = true ∧
      (finishCreate w.db attempt now ids).isOk

/-- A `submit` marks an intent that is no longer as it read it. -/
def Overwrites (w : World) (position : Nat) : Prop :=
  ∃ mark ∈ w.submits[position]?.bind OpenSubmit.mark?,
    Free OpenSubmit.locks (w.submits.eraseIdx position) [.intent mark.1.read.id] ∧
      ∃ stored ∈ w.intents.get? mark.1.read.id, stored.version ≠ mark.1.read.version

def Broken (w : World) : Op → Prop
  | .update intentId anonymousSessionId _ expectedVersion _ now =>
    w.ExpiresStale intentId anonymousSessionId expectedVersion now
  | .submit intentId anonymousSessionId _ _ expectedVersion _ began _ =>
    w.ExpiresStale intentId anonymousSessionId expectedVersion began
  | .commit position now ids => w.InGap position now ids
  | .mark position _ => w.Overwrites position
  | .create _ _ _ _ _ | .get _ _ _ | .abandon _ _ _ _ | .book _ _ _ _ | .abort _ => False

end World

end Breero.BookingIntents
