import Breero.Lib.Locks
import Breero.Payments.System

/-!
Calls of `create_intent`, with other transactions of the payment service between their parts.

A call has the advisory lock of its key, and the row that is to be paid, from before it asks
the provider until it ends. Its record of the key is not committed before its payment.

* `beginIntent` is `create_intent` up to its call of the provider, `finishIntent` the rest, and
  `createIntent_eq` says that they are the whole;
* `Intending` is the system, and `OncePerKey` and `Answers` the law.
-/

namespace Breero.Payments
open KeyedTable Transaction Locks

/-! ## A call in two parts -/

/-- `create_intent` up to its call of the provider: the answer to a key that was used before, or
the metadata of the new intent. -/
def beginIntent (settings : Settings) (db : Db) (payload : PaymentIntentCreate) (key : String) :
    Except Raised (PaymentView ⊕ List (String × String)) := do
  require (payload.paymentPurpose ≠ .professionalLead) (.invalidPaymentState
    "Professional lead payments must use the provider purchase endpoint")
  match db.idempotencyRecords.get? ("create_intent", key) with
  | some existing => do
    let (_, view) ← replayIntent db existing (settings.hash payload)
    return .inl view
  | none => do
    let metadata ← checkTarget db payload
    return .inr metadata

/-- The rest of it, with what the provider answered. -/
def finishIntent (settings : Settings) (db : Db) (payload : PaymentIntentCreate) (key : String)
    (metadata : List (String × String)) (answer : Except Raised ProviderIntent)
    (paymentId : Uuid) : Except Raised (Db × PaymentView) := do
  let record : IdempotencyRecord := {
    operation := "create_intent", idempotencyKey := key, requestHash := settings.hash payload }
  let idempotencyRecords ← orRaise (db.idempotencyRecords.insert? record)
    (.integrityError "uq_payment_idempotency_operation_key")
  let intent ← answer
  let payment := newPayment payload metadata intent paymentId
  let db ← { db with idempotencyRecords }.addPayment payment
  let answered := { record with responseCode := some 201, responseBody := some payment.id }
  return ({ db with idempotencyRecords := db.idempotencyRecords.put answered }, view payment)

theorem replayIntent_same {db db' : Db} {existing : IdempotencyRecord} {requestHash : String}
    {view : PaymentView} (h : replayIntent db existing requestHash = .ok (db', view)) :
    db' = db := by
  simp only [replayIntent, seq_committed, require_committed, orRaise_committed,
    return_committed, Prod.mk.injEq] at h
  obtain ⟨_, _, _, _, _, _, rfl, _⟩ := h
  rfl

theorem createIntent_eq (settings : Settings) (db : Db) (payload : PaymentIntentCreate)
    (key : String) (answer : Except Raised ProviderIntent) (paymentId : Uuid) :
    createIntent settings db payload key answer paymentId = (do
      match ← beginIntent settings db payload key with
      | .inl view => return (db, view)
      | .inr metadata => finishIntent settings db payload key metadata answer paymentId) := by
  unfold createIntent beginIntent
  by_cases hpurpose : payload.paymentPurpose ≠ .professionalLead
  · simp only [require, if_pos hpurpose]
    cases hrecord : db.idempotencyRecords.get? ("create_intent", key) with
    | some existing =>
      cases hreplay : replayIntent db existing (settings.hash payload) with
      | error raised => simp [hreplay, bind, Except.bind]
      | ok replayed =>
        obtain ⟨db', view⟩ := replayed
        have hsame := replayIntent_same hreplay
        subst hsame
        simp [hreplay, bind, Except.bind, pure, Except.pure]
    | none =>
      cases hcheck : checkTarget db payload with
      | error raised => simp [bind, Except.bind]
      | ok metadata => simp [bind, Except.bind, pure, Except.pure, finishIntent]
  · simp [require, if_neg hpurpose, bind, Except.bind]

/-! ## The system -/

/-- A call that waits for the provider. -/
structure OpenIntent where
  payload : PaymentIntentCreate
  key : String
  metadata : List (String × String)
  deriving DecidableEq, Repr

inductive IntentLock
  | idempotencyKey (key : String)
  | booking (id : Uuid)
  | quote (id : Uuid)
  deriving DecidableEq, Repr

def OpenIntent.locks (call : OpenIntent) : List IntentLock :=
  IntentLock.idempotencyKey call.key ::
    call.payload.bookingId.toList.map IntentLock.booking ++
    call.payload.quoteId.toList.map IntentLock.quote

/-- A payment that a call has committed. -/
structure CreatedIntent where
  key : String
  payload : PaymentIntentCreate
  paymentId : Uuid
  deriving DecidableEq, Repr

structure Intending where
  world : World
  calls : List OpenIntent := []
  created : List CreatedIntent := []

namespace Intending

inductive IntentOp
  | begin (payload : PaymentIntentCreate) (key : String)
  | finish (position : Nat) (answer : Except Raised ProviderIntent) (paymentId : Uuid)
  /-- the call ends without a commit -/
  | abort (position : Nat)
  /-- another transaction of the payment service, or a step of Stripe -/
  | other (op : Op)

abbrev Reply := Except Raised PaymentView

/-- No open call has the lock of the key. -/
def keyFree (s : Intending) (key : String) : Prop :=
  Free OpenIntent.locks s.calls [.idempotencyKey key]

instance (s : Intending) (key : String) : Decidable (s.keyFree key) :=
  inferInstanceAs (Decidable (Free _ _ _))

/-- A call that has the lock of its key. -/
def beginOf (settings : Settings) (s : Intending) (payload : PaymentIntentCreate) (key : String) :
    Intending × Option Reply :=
  match beginIntent settings s.world.db payload key with
  | .error raised => (s, some (.error raised))
  | .ok (.inl view) => (s, some (.ok view))
  | .ok (.inr metadata) =>
    let call : OpenIntent := { payload, key, metadata }
    if Free OpenIntent.locks s.calls call.locks then ({ s with calls := s.calls ++ [call] }, none)
    else (s, none)

def finishOf (settings : Settings) (s : Intending) (call : OpenIntent) (position : Nat)
    (answer : Except Raised ProviderIntent) (paymentId : Uuid) : Intending × Option Reply :=
  let calls := s.calls.eraseIdx position
  match finishIntent settings s.world.db call.payload call.key call.metadata answer paymentId with
  | .error raised => ({ s with calls }, some (.error raised))
  | .ok (db, view) =>
    ({ s with
        world := { s.world with db }
        calls
        created := s.created ++ [{ key := call.key, payload := call.payload, paymentId }] },
      some (.ok view))

/-- The state after a step, and what the step replies to its caller. -/
def act (settings : Settings) (s : Intending) : IntentOp → Intending × Option Reply
  | .begin payload key =>
    -- a lead is refused before the lock is waited for
    if payload.paymentPurpose ≠ .professionalLead ∧ ¬ s.keyFree key then (s, none)
    else beginOf settings s payload key
  | .finish position answer paymentId =>
    match s.calls[position]? with
    | none => (s, none)
    | some call => finishOf settings s call position answer paymentId
  | .abort position => ({ s with calls := s.calls.eraseIdx position }, none)
  | .other (.createIntent _ _ _ _) => (s, none)
  | .other op => ({ s with world := Payments.exec settings s.world op }, none)

def exec (settings : Settings) (s : Intending) (op : IntentOp) : Intending :=
  (act settings s op).1

def reply (settings : Settings) (s : Intending) (op : IntentOp) : Option Reply :=
  (act settings s op).2

end Intending

/-! ## The law -/

/-- The same request: the order in which the metadata is given does not matter. -/
def SameRequest (p q : PaymentIntentCreate) : Prop :=
  { p with metadata := q.metadata } = q ∧ p.metadata.Perm q.metadata

instance (p q : PaymentIntentCreate) : Decidable (SameRequest p q) :=
  inferInstanceAs (Decidable (_ ∧ _))

def keyReused : Raised :=
  .idempotencyConflict "Idempotency key was already used with another request"

def leadRefused : Raised :=
  .invalidPaymentState "Professional lead payments must use the provider purchase endpoint"

namespace Intending

/-- A key has at most one payment and one record, and it has both or neither. -/
structure OncePerKey (s : Intending) : Prop where
  payment : ∀ key, s.created.countP (·.key = key) ≤ 1
  record : ∀ key, s.world.db.idempotencyRecords.rows.countP
    (fun record => record.operation = "create_intent" && record.idempotencyKey = key) ≤ 1
  both : ∀ key, (∃ made ∈ s.created, made.key = key) ↔
    ∃ record ∈ s.world.db.idempotencyRecords.rows,
      record.operation = "create_intent" ∧ record.idempotencyKey = key

/-- What a request with a key is answered once the key has its payment. -/
structure Replayed (settings : Settings) (s : Intending) (payload : PaymentIntentCreate)
    (made : CreatedIntent) : Prop where
  unchanged : exec settings s (.begin payload made.key) = s
  equal : SameRequest made.payload payload → ∃ payment,
    s.world.db.payments.get? made.paymentId = some payment ∧
      reply settings s (.begin payload made.key) = some (.ok (view payment))
  different : ¬ SameRequest made.payload payload →
    reply settings s (.begin payload made.key) = some (.error
      (if payload.paymentPurpose = .professionalLead then leadRefused else keyReused))

/-- What a call that raises leaves behind: the key is as if it had not been used. -/
structure Failed (settings : Settings) (s : Intending) (op : IntentOp) (call : OpenIntent) :
    Prop where
  world : (exec settings s op).world = s.world
  created : (exec settings s op).created = s.created
  record : (exec settings s op).world.db.idempotencyRecords.get? ("create_intent", call.key) = none
  free : (exec settings s op).keyFree call.key

/-- What the steps of a call do. -/
structure Answers (settings : Settings) (s : Intending) (op : IntentOp) : Prop where
  replayed : ∀ payload key, op = .begin payload key → ∀ made ∈ s.created, made.key = key →
    Replayed settings s payload made
  /-- what is answered is there -/
  answered : ∀ view, reply settings s op = some (.ok view) →
    ∃ made ∈ (exec settings s op).created, made.paymentId = view.id
  failed : ∀ position answer paymentId, op = .finish position answer paymentId →
    ∀ call, s.calls[position]? = some call → ∀ raised, reply settings s op = some (.error raised) →
      Failed settings s op call
  aborted : ∀ position, op = .abort position → ∀ call, s.calls[position]? = some call →
    Failed settings s op call
  /-- a call to which the provider raises is one that raises -/
  provider : ∀ position raised paymentId, op = .finish position (.error raised) paymentId →
    ∀ call, s.calls[position]? = some call → reply settings s op = some (.error raised)

end Intending

end Breero.Payments
