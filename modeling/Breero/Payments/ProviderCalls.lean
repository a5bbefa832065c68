import Breero.Payments.RefundEvents
import Breero.Payments.IntentKeys

/-!
The idempotency keys that are sent to the payment provider. `create_intent`, `capture` and `refund`
pass on the key of their caller, a lead purchase passes it on with a prefix, and the
provider has one space of keys: it answers a key that it knows with what it made for its first
use.

A key of a caller is looked up under its scope before the provider is asked: the intents, the
refunds of one payment, the purchases of one vendor. Two calls with one key in one scope run one
after the other (the advisory lock of the key, the lock of the payment, the unique index on the
purchase), so that a command is one step here.

* `Charge` is a command, `Charge.reach` the operation that it asks the provider for;
* `Sending.exec` is a run of commands, of which any may be rolled back after the provider has
  answered, of deliveries and of other transactions;
* `keys_injective_iff`: no two operations share a key, and no row is bound to another operation's
  object, in exactly the runs in which no key is used in two scopes and no key of a
  rolled back command for something else.
-/

namespace Breero.Payments
open KeyedTable Transaction Leads Runs

/-! ## Commands up to the provider -/

/-- `capture` up to its call of the provider: the answer for a captured payment, or the payment
to capture. -/
def beginCapture (db : Db) (paymentId : Uuid) (amountMinor : Option Int) :
    Except Raised (PaymentView ⊕ Payment) := do
  let payment ← orRaise (db.payments.get? paymentId) (.paymentNotFound "Payment not found")
  if payment.status = .captured then
    return .inl (view payment)
  else do
    require (payment.status = .authorized ∧ payment.providerPaymentId.isSome)
      (.invalidPaymentState "Only an authorized payment can be captured")
    require (∀ amount ∈ amountMinor, amount ≤ payment.amountMinor)
      (.invalidPaymentState "Capture amount exceeds authorized amount")
    return .inr payment

/-- The rest of it, with what the provider answered. -/
def finishCapture (db : Db) (payment : Payment) (answer : Except Raised ProviderIntent)
    (now : Instant) (jobId : Uuid) : Except Raised (Db × PaymentView) := do
  let intent ← answer
  let captured := { payment with
    status := statusOf intent.status payment.status
    capturedAmountMinor := intent.amountReceived }
  let db ← db.putPayment captured
  let db ← settleIfCaptured db captured now jobId
  return (db, view captured)

theorem capture_eq (db : Db) (paymentId : Uuid) (amountMinor : Option Int)
    (answer : Except Raised ProviderIntent) (now : Instant) (jobId : Uuid) :
    capture db paymentId amountMinor answer now jobId = (do
      match ← beginCapture db paymentId amountMinor with
      | .inl view => return (db, view)
      | .inr payment => finishCapture db payment answer now jobId) := by
  unfold capture beginCapture finishCapture
  simp only [bind_assoc]
  refine bind_congr fun payment => ?_
  split
  · rfl
  · simp only [bind_assoc, pure_bind]

/-- `purchase` up to its call of the provider: the answer to a key that was used before, or the
lead, its purchase and the database with it. -/
def beginPurchase (settings : Settings) (db : Db) (leadId vendorId : Uuid) (key : String)
    (now : Instant) (purchaseId : Uuid) :
    Except Raised ((Db × PurchaseView) ⊕ (ProfessionalLead × LeadPurchase × Db)) := do
  require settings.stripeEnabled (.domainError "PAYMENT_PROVIDER_UNAVAILABLE"
    "Lead purchasing is unavailable until payment configuration is complete" 503)
  let vendor ← orRaise (db.vendors.get? vendorId) notEligible
  require (vendor.status = .active) notEligible
  match db.leadPurchases.rows.find?
      (fun p => p.vendorId = vendorId ∧ p.idempotencyKey = key) with
  | some existing => do
    let replayed ← replayPurchase db existing leadId
    return .inl replayed
  | none => do
    let lead ← purchasableLead db leadId vendor now
    let purchase := newPurchase lead vendorId key purchaseId
    let db ← db.addLeadPurchase purchase
    return .inr (lead, purchase, db)

/-- The rest of it. -/
def finishPurchase (db : Db) (lead : ProfessionalLead) (purchase : LeadPurchase)
    (answer : Except Raised ProviderIntent) (paymentId : Uuid) :
    Except Raised (Db × PurchaseView) := do
  let (db, payment) ← createProfessionalLeadIntent db purchase answer paymentId
  let lead := { lead with status := .reserved, purchasedByVendorId := some purchase.vendorId }
  return ({ db with leads := db.leads.put lead }, purchaseView purchase payment)

theorem purchase_eq (settings : Settings) (db : Db) (leadId vendorId : Uuid) (key : String)
    (answer : Except Raised ProviderIntent) (now : Instant) (purchaseId paymentId : Uuid) :
    purchase settings db leadId vendorId key answer now purchaseId paymentId = (do
      match ← beginPurchase settings db leadId vendorId key now purchaseId with
      | .inl replayed => return replayed
      | .inr (lead, purchase, db) => finishPurchase db lead purchase answer paymentId) := by
  unfold purchase beginPurchase
  simp only [bind_assoc]
  refine bind_congr fun _ => bind_congr fun vendor => bind_congr fun _ => ?_
  cases db.leadPurchases.rows.find?
      (fun p => decide (p.vendorId = vendorId ∧ p.idempotencyKey = key)) with
  | some existing => simp only [bind_assoc, pure_bind, bind_pure]
  | none =>
    simp only [bind_assoc, pure_bind]
    rfl

/-! ## The provider -/

/-- The JSON object of an intent or a refund. -/
structure ProviderObject where
  id : String
  status : Option String := none
  clientSecret : Option String := none
  amountReceived : Option Int := none
  deriving DecidableEq, Repr

/-- `_to_intent`. -/
def ProviderObject.toIntent (raw : ProviderObject) : ProviderIntent := {
  id := raw.id
  status := raw.status.getD ""
  clientSecret := raw.clientSecret
  amountReceived := raw.amountReceived.getD 0 }

/-- `ProviderRefund(id=raw["id"], status=raw.get("status", "pending"))`. -/
def ProviderObject.toRefund (raw : ProviderObject) : ProviderRefund := {
  id := raw.id
  status := raw.status.getD "pending" }

/-! ## Commands -/

/-- A command that may ask the provider for an intent, a capture or a refund, with its new ids
and its time. -/
inductive Charge
  | intent (payload : PaymentIntentCreate) (key : String) (paymentId : Uuid)
  | lead (leadId vendorId : Uuid) (key : String) (now : Instant) (purchaseId paymentId : Uuid)
  | capture (paymentId : Uuid) (amountMinor : Option Int) (key : String) (now : Instant)
      (jobId : Uuid)
  | refund (request : RefundRequest) (now : Instant) (refundId : Uuid)
  deriving DecidableEq, Repr

/-- What the provider is asked for: the operations that need separate effects there. -/
inductive Operation
  | intent (payload : PaymentIntentCreate)
  | lead (vendorId leadId : Uuid)
  | capture (paymentId : Uuid)
  | refund (paymentId : Uuid) (amountMinor : Int)
  deriving DecidableEq, Repr

/-- The same operation; the order of the metadata of an intent does not matter. -/
def Operation.Same : Operation → Operation → Prop
  | .intent a, .intent b => SameRequest a b
  | a, b => a = b

instance : DecidableRel Operation.Same := fun a b => by
  unfold Operation.Same
  split <;> infer_instance

/-- Where the key of a command is looked up. -/
inductive Scope
  | intents
  | leads (vendorId : Uuid)
  | capture (paymentId : Uuid)
  | refunds (paymentId : Uuid)
  deriving DecidableEq, Repr

namespace Charge

def scope : Charge → Scope
  | intent .. => .intents
  | lead _ vendorId .. => .leads vendorId
  | capture paymentId .. => .capture paymentId
  | refund request .. => .refunds request.paymentId

/-- The key that the provider is sent. -/
def providerKey : Charge → String
  | intent _ key _ => key
  | lead _ _ key .. => "professional-lead:" ++ key
  | capture _ _ key .. => key
  | refund request .. => request.key

/-- The operation that the command asks the provider for, if it gets that far. -/
def reach (settings : Settings) (db : Db) : Charge → Option Operation
  | intent payload key _ =>
    match beginIntent settings db payload key with
    | .ok (.inr _) => some (.intent payload)
    | _ => none
  | lead leadId vendorId key now purchaseId _ =>
    match beginPurchase settings db leadId vendorId key now purchaseId with
    | .ok (.inr (_, purchase, db)) =>
      -- a purchase that has a payment is not paid again
      if db.payments.rows.any (fun p => p.leadPurchaseId = some purchase.id) then none
      else some (.lead vendorId leadId)
    | _ => none
  | capture paymentId amountMinor .. =>
    match beginCapture db paymentId amountMinor with
    | .ok (.inr _) => some (.capture paymentId)
    | _ => none
  | refund request _ _ =>
    match beginRefund db request with
    | .ok (.inr call) => some (.refund request.paymentId call.requested)
    | _ => none

/-- The command as a step of the payment system, with the provider's answer. -/
def op (answer : Except Raised ProviderObject) : Charge → Op
  | intent payload key paymentId =>
    .createIntent payload key (answer.map ProviderObject.toIntent) paymentId
  | lead leadId vendorId key now purchaseId paymentId =>
    .purchase leadId vendorId key (answer.map ProviderObject.toIntent) now purchaseId paymentId
  | capture paymentId amountMinor _ now jobId =>
    .capture paymentId amountMinor (answer.map ProviderObject.toIntent) now jobId
  | refund request now refundId =>
    .refund request.paymentId request.amountMinor request.key request.actorId request.reason
      (answer.map ProviderObject.toRefund) now refundId

/-- The transaction of the command. -/
def transaction (settings : Settings) (db : Db) (answer : Except Raised ProviderObject) :
    Charge → Except Raised Db
  | intent payload key paymentId =>
    (createIntent settings db payload key (answer.map ProviderObject.toIntent) paymentId).map
      Prod.fst
  | lead leadId vendorId key now purchaseId paymentId =>
    (purchase settings db leadId vendorId key (answer.map ProviderObject.toIntent) now purchaseId
      paymentId).map Prod.fst
  | capture paymentId amountMinor _ now jobId =>
    (Payments.capture db paymentId amountMinor (answer.map ProviderObject.toIntent) now
      jobId).map Prod.fst
  | refund request now refundId =>
    (Payments.refund db request.paymentId request.amountMinor request.key request.actorId
      request.reason (answer.map ProviderObject.toRefund) now refundId).map Prod.fst

/-- The id of the provider's object in the row that the command makes. -/
def boundTo (db : Db) : Charge → Option String
  | intent _ _ paymentId | lead _ _ _ _ _ paymentId | capture paymentId .. =>
    (db.payments.get? paymentId).bind Payment.providerPaymentId
  | refund _ _ refundId => (db.refunds.get? refundId).bind Refund.providerRefundId

/-- A capture rewrites a row, the others make one. -/
def makesRow : Charge → Bool
  | capture .. => false
  | _ => true

end Charge

/-! ## Runs -/

/-- A call of the provider: what it was asked for, what it answered, and whether the
transaction of the command has committed. -/
structure Sent where
  charge : Charge
  operation : Operation
  answer : Except Raised ProviderObject
  committed : Bool

def Sent.key (s : Sent) : String := s.charge.providerKey

/-- The call that made what the provider answers to a key. -/
def maker (sent : List Sent) (key : String) : Option Sent :=
  sent.find? fun s => s.key = key && s.answer.isOk

/-- The provider's answer: what it made for the first use of the key, or for a new one what it
makes now. -/
def answerFor (sent : List Sent) (key : String) (made : Except Raised ProviderObject) :
    Except Raised ProviderObject :=
  match maker sent key with
  | some first => first.answer
  | none => made

/-- What the keys stand for is left by a transaction. -/
structure KeysLeft (db db' : Db) : Prop where
  records : ∀ k, (db.idempotencyRecords.get? k).isSome → (db'.idempotencyRecords.get? k).isSome
  purchases : Table.Kept
    (fun a b => b.vendorId = a.vendorId ∧ b.idempotencyKey = a.idempotencyKey)
    db.leadPurchases db'.leadPurchases
  refunds : Table.Kept
    (fun a b => b.paymentId = a.paymentId ∧ b.idempotencyKey = a.idempotencyKey ∧
      b.providerRefundId = a.providerRefundId)
    db.refunds db'.refunds
  payments : Table.Kept (fun a b => b.providerPaymentId = a.providerPaymentId)
    db.payments db'.payments

structure Sending where
  world : World
  sent : List Sent := []

namespace Sending

inductive SendOp
  /-- `fault`: the transaction is rolled back after the provider has answered -/
  | charge (charge : Charge) (made : Except Raised ProviderObject) (fault : Bool)
  | deliver (event : StripeEvent) (fault : Option Raised) (now : Instant) (jobId : Uuid)
  | recordFailure (delivery : Nat)
  /-- a transaction of another service -/
  | other (write : Db → Db) (left : ∀ db, KeysLeft db (write db))

/-- The state after a command that asks the provider for `operation`. -/
def send (settings : Settings) (w : Sending) (charge : Charge) (operation : Operation)
    (made : Except Raised ProviderObject) (fault : Bool) : Sending :=
  let answer := answerFor w.sent charge.providerKey made
  let committed := !fault && (charge.transaction settings w.world.db answer).isOk
  { world := if committed then Payments.exec settings w.world (charge.op answer) else w.world
    sent := w.sent ++ [{ charge, operation, answer, committed }] }

def exec (settings : Settings) (w : Sending) : SendOp → Sending
  | .charge charge made fault =>
    match charge.reach settings w.world.db with
    | some operation => send settings w charge operation made fault
    | none =>
      { w with
        world := if fault then w.world else Payments.exec settings w.world (charge.op made) }
  | .deliver event fault now jobId =>
    { w with world := Payments.exec settings w.world (.deliver event fault now jobId) }
  | .recordFailure delivery =>
    { w with world := Payments.exec settings w.world (.recordFailure delivery) }
  | .other write _ => { w with world := { w.world with db := write w.world.db } }

/-! ### The law -/

/-- Calls with one key ask for one operation. -/
def KeysInjective (w : Sending) : Prop :=
  ∀ a ∈ w.sent, ∀ b ∈ w.sent, a.key = b.key → a.operation.Same b.operation

/-- A committed command was answered with an object that was made for its operation, and the row
that it has made is bound to that object. -/
structure Bound (w : Sending) (s : Sent) : Prop where
  made : ∃ first, maker w.sent s.key = some first ∧ first.answer = s.answer ∧
    first.operation.Same s.operation
  row : s.charge.makesRow = true → ∃ object, s.answer = .ok object ∧
    s.charge.boundTo w.world.db = some object.id

def Law (w : Sending) : Prop :=
  KeysInjective w ∧ ∀ s ∈ w.sent, s.committed = true → Bound w s

/-- An earlier call with the key of the command was made under the same scope and, if it was rolled
back, for the same operation. -/
def Repeats (earlier : Sent) (charge : Charge) (operation : Operation) : Prop :=
  earlier.charge.scope = charge.scope ∧
    (earlier.committed = false → earlier.operation.Same operation)

/-- The command does not reach the provider, or it only repeats the keys of earlier calls. -/
def KeysApart (settings : Settings) (w : Sending) : SendOp → Prop
  | .charge charge _ _ => ∀ operation ∈ charge.reach settings w.world.db, ∀ earlier ∈ w.sent,
      earlier.key = charge.providerKey → Repeats earlier charge operation
  | _ => True

end Sending

end Breero.Payments
