import Breero.Booking.Holds
import Breero.Booking.Availability
import Breero.Finance.Service
import Breero.Payments.Intents

/-!
The commands that carry an idempotency key: `CapacityHoldService.create`,
`BookingService.create`, `PaymentService.create_intent`, `PaymentService.refund` and
`FinanceService.adjust_earning`.

Each of them takes a lock under its key before it looks the key up, so that with one key they
run one after the other. A key is that of a unique index: the one of a refund belongs to its
payment, and the one of an adjustment to its earning.

* `perform` is a command, and `stored` what is stored of its result;
* `Lawful` is what one key must mean for a repeated command;
* `Keyed.exec` is a step of a run of commands and of other transactions, none of which writes
  what the keys stand for (`KeysKept`).
-/

namespace Breero.Idempotency
open KeyedTable Transaction Bookings

/-! ## The commands -/

inductive Command
  | hold (request : HoldRequest)
  | booking (payload : BookingCreateRequest) (key : String)
  | intent (payload : PaymentIntentCreate) (key : String)
  | refund (paymentId : Uuid) (amountMinor : Option Int) (key : String) (actorId : Uuid)
      (reason : Option String)
  | adjust (earningId : Uuid) (amountMinor : Int) (adjustmentType : AdjustmentType)
      (reason key : String) (actorId : Option Uuid)
  deriving DecidableEq, Repr

/-- What a command finds out besides its arguments: the time, the new ids, what its searches
read and what the provider answers. -/
structure Draws where
  began : Instant
  now : Instant
  id : Uuid
  createIds : CreateIds
  loads : Uuid → Day → Load := fun _ _ => {}
  load : Load := {}
  intent : Except Raised ProviderIntent
  refund : Except Raised ProviderRefund

inductive Result
  | hold (hold : BookingCapacityHold)
  | booking (booking : Booking)
  | payment (view : Payments.PaymentView)
  | refund (view : Payments.RefundView)
  | adjustment (adjustment : EarningAdjustment)
  deriving DecidableEq, Repr

/-- `CapacityHoldService.create`. -/
def createHold (settings : Settings) (dir : Directory) (db : Db) (request : HoldRequest)
    (draws : Draws) : Except Raised (Db × BookingCapacityHold) := do
  match ← prepareHold settings dir db draws.loads request with
  | .inl existing => return (db, existing)
  | .inr attempt =>
    recheckHold dir db attempt draws.load
    grantHold db attempt draws.now draws.id

/-- `BookingService.create`. -/
def createBooking (settings : Settings) (dir : Directory) (db : Db)
    (payload : BookingCreateRequest) (key : String) (draws : Draws) :
    Except Raised (Db × Booking) := do
  match ← beginCreate settings dir db payload key draws.began draws.now with
  | .inl existing => return (db, existing)
  | .inr attempt => finishCreate db attempt draws.now draws.createIds

def perform (settings : Settings) (dir : Directory) (db : Db) (command : Command)
    (draws : Draws) : Except Raised (Db × Result) :=
  match command with
  | .hold request => do
    let (db, hold) ← createHold settings dir db request draws
    return (db, .hold hold)
  | .booking payload key => do
    let (db, booking) ← createBooking settings dir db payload key draws
    return (db, .booking booking)
  | .intent payload key => do
    let (db, view) ← Payments.createIntent settings db payload key draws.intent draws.id
    return (db, .payment view)
  | .refund paymentId amountMinor key actorId reason => do
    let (db, view) ← Payments.refund db paymentId amountMinor key actorId reason draws.refund
      draws.now draws.id
    return (db, .refund view)
  | .adjust earningId amountMinor adjustmentType reason key actorId => do
    let (db, adjustment) ← Finance.adjustEarning db earningId amountMinor adjustmentType reason
      key actorId draws.now
    return (db, .adjustment adjustment)

/-! ## Keys -/

def SameKey : Command → Command → Prop
  | .hold a, .hold b => a.idempotencyKey = b.idempotencyKey
  | .booking _ a, .booking _ b => a = b
  | .intent _ a, .intent _ b => a = b
  | .refund a _ key _ _, .refund b _ key' _ _ => a = b ∧ key = key'
  | .adjust a _ _ _ key _, .adjust b _ _ _ key' _ => a = b ∧ key = key'
  | _, _ => False

/-- The arguments are the same; the order of the metadata of an intent does not matter. -/
def SameArguments : Command → Command → Prop
  | .intent a key, .intent b key' => Payments.SameRequest a b ∧ key = key'
  | a, b => a = b

/-- The row that a result is about. -/
inductive RowRef
  | hold (id : Uuid)
  | booking (id : Uuid)
  | payment (id : Uuid)
  | refund (id : Uuid)
  | adjustment (earningId : Uuid) (key : String)
  deriving DecidableEq, Repr

def Result.row : Result → RowRef
  | .hold h => .hold h.id
  | .booking b => .booking b.id
  | .payment v => .payment v.id
  | .refund v => .refund v.id
  | .adjustment a => .adjustment a.earningId a.idempotencyKey

/-- The result as it is stored by now. -/
def stored (db : Db) : RowRef → Option Result
  | .hold id => (db.holds.get? id).map .hold
  | .booking id => (db.bookings.get? id).map .booking
  | .payment id => (db.payments.get? id).map fun payment => .payment (Payments.view payment)
  | .refund id => (db.refunds.get? id).map fun refund => .refund (Payments.refundView refund)
  | .adjustment earningId key => (db.adjustments.get? (earningId, key)).map .adjustment

def holdByKey (db : Db) (key : String) : Option BookingCapacityHold :=
  db.holds.rows.find? fun hold => hold.idempotencyKey = key

def bookingByKey (db : Db) (key : String) : Option Booking :=
  db.bookings.rows.find? fun booking => booking.idempotencyKey = key

/-- Nothing is stored under the key of the command. -/
def keyFree (db : Db) : Command → Bool
  | .hold request => (holdByKey db request.idempotencyKey).isNone
  | .booking _ key => (bookingByKey db key).isNone
  | .intent _ key => (db.idempotencyRecords.get? ("create_intent", key)).isNone
  | .refund paymentId _ key _ _ => (Payments.refundByKey db paymentId key).isNone
  | .adjust earningId _ _ _ key _ => (db.adjustments.get? (earningId, key)).isNone

/-! ## The law -/

/-- The errors that say that a key was used for something else. -/
def keyConflicts : List Raised := [
  .domainError "HOLD_CONFLICT" "Idempotency key belongs to another booking session" 409,
  .domainError "IDEMPOTENCY_CONFLICT"
    "The idempotency key was already used for a different booking request" 409,
  Payments.keyReused]

/-- The first use of a key, and the row that it made. -/
structure Used where
  command : Command
  row : RowRef
  deriving DecidableEq, Repr

/-- The repeated command returns what is stored, or is refused if it is another one. In
both cases nothing is changed. -/
structure Lawful (settings : Settings) (dir : Directory) (db : Db) (used : Used)
    (command : Command) (draws : Draws) : Prop where
  same : SameArguments used.command command → ∃ result, stored db used.row = some result ∧
    perform settings dir db command draws = .ok (db, result)
  different : ¬ SameArguments used.command command → ∃ raised ∈ keyConflicts,
    perform settings dir db command draws = .error raised

/-- What a command compares with the first use of its key: `create_intent` and
`BookingService.create` the request, `CapacityHoldService.create` the owner, the others
nothing. -/
def Compared (settings : Settings) : Command → Command → Prop
  | .hold a, .hold b =>
    (ownerFingerprint settings b.bookingSession).isOk ∧
      ownerFingerprint settings b.bookingSession ≠ ownerFingerprint settings a.bookingSession
  | .booking .., .booking .. => True
  | .intent .., .intent b _ => b.paymentPurpose ≠ .professionalLead
  | _, _ => False

/-- The hashes of the requests tell them apart. -/
def HashesApart (settings : Settings) : Command → Command → Prop
  | .booking a _, .booking b _ =>
    settings.bookingHash a ≠ "legacy" ∧ (settings.bookingHash a = settings.bookingHash b → a = b)
  | .intent a _, .intent b _ => settings.hash a = settings.hash b ↔ Payments.SameRequest a b
  | _, _ => True

/-! ## Runs -/

/-- What other transactions leave of what the keys stand for. -/
structure KeysKept (db db' : Db) : Prop where
  holds : ∀ key hold, holdByKey db key = some hold → ∃ hold', holdByKey db' key = some hold' ∧
    hold'.id = hold.id ∧ hold'.ownerFingerprintHash = hold.ownerFingerprintHash
  bookings : ∀ key booking, bookingByKey db key = some booking →
    ∃ booking', bookingByKey db' key = some booking' ∧ booking'.id = booking.id ∧
      booking'.idempotencyRequestHash = booking.idempotencyRequestHash
  records : ∀ k record, db.idempotencyRecords.get? k = some record →
    db'.idempotencyRecords.get? k = some record
  payments : ∀ id payment, db.payments.get? id = some payment →
    ∃ payment', db'.payments.get? id = some payment' ∧
      payment'.providerPaymentId = payment.providerPaymentId
  refunds : ∀ paymentId key refund, Payments.refundByKey db paymentId key = some refund →
    ∃ refund', Payments.refundByKey db' paymentId key = some refund' ∧ refund'.id = refund.id
  earnings : ∀ id, (db.earnings.get? id).isSome → (db'.earnings.get? id).isSome
  adjustments : ∀ k adjustment, db.adjustments.get? k = some adjustment →
    db'.adjustments.get? k = some adjustment

structure Keyed where
  db : Db
  used : List Used := []

namespace Keyed

inductive Op
  | perform (command : Command) (draws : Draws)
  /-- a transaction of another kind -/
  | other (write : Db → Db) (kept : ∀ db, KeysKept db (write db))

def exec (settings : Settings) (dir : Directory) (w : Keyed) : Op → Keyed
  | .perform command draws =>
    match Idempotency.perform settings dir w.db command draws with
    | .ok (db, result) =>
      { db
        used := if keyFree w.db command then { command, row := result.row } :: w.used else w.used }
    | .error _ => w
  | .other write _ => { w with db := write w.db }

/-- Every key that was used meets the law for every repeated command that it is compared
for, and for no other. -/
def LawWhereCompared (settings : Settings) (dir : Directory) (w : Keyed) : Prop :=
  ∀ used ∈ w.used, ∀ command draws, SameKey used.command command →
    HashesApart settings used.command command →
    (Lawful settings dir w.db used command draws ↔
      SameArguments used.command command ∨ Compared settings used.command command)

end Keyed

end Breero.Idempotency
