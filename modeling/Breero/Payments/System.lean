import Breero.Lib.Runs
import Breero.Leads.Service

/-!
The payment system: the database, Stripe's objects and the deliveries of webhooks
that are between their two transactions. A step is one committed or rolled back
transaction of a service, or a step of Stripe.

* `exec` is what a step does, and `Truthful` says of a step that Stripe's answers
  and events show objects as they are or once were.
-/

namespace Breero.Payments
open KeyedTable Transaction Leads

structure World where
  db : Db
  /-- the states Stripe's intents have had -/
  intents : List ProviderIntent := []
  /-- the states Stripe's refunds have had -/
  refunds : List ProviderRefund := []
  /-- the deliveries rolled back whose failure is not recorded yet -/
  failures : List (StripeEvent × Raised) := []

inductive Op
  | stripeIntent (intent : ProviderIntent)
  | stripeRefund (refund : ProviderRefund)
  | createIntent (payload : PaymentIntentCreate) (key : String)
      (answer : Except Raised ProviderIntent) (paymentId : Uuid)
  | purchase (leadId vendorId : Uuid) (key : String) (answer : Except Raised ProviderIntent)
      (now : Instant) (purchaseId paymentId : Uuid)
  | capture (paymentId : Uuid) (amountMinor : Option Int)
      (answer : Except Raised ProviderIntent) (now : Instant) (jobId : Uuid)
  | refund (paymentId : Uuid) (amountMinor : Option Int) (key : String) (actorId : Uuid)
      (reason : Option String) (answer : Except Raised ProviderRefund) (now : Instant)
      (refundId : Uuid)
  /-- `fault` is an exception of the database or the driver inside the main transaction -/
  | deliver (event : StripeEvent) (fault : Option Raised) (now : Instant) (jobId : Uuid)
  | recordFailure (delivery : Nat)

/-- The main transaction of a delivery, with the fault that may hit it. -/
def deliver (db : Db) (event : StripeEvent) (fault : Option Raised) (now : Instant)
    (jobId : Uuid) : Except Raised (Db × Bool) :=
  if alreadyProcessed db event then return (db, true)
  else match fault with
    | some exc => throw exc
    | none => processWebhook db event now jobId

def exec (settings : Settings) (w : World) : Op → World
  | .stripeIntent intent => { w with intents := w.intents ++ [intent] }
  | .stripeRefund refund => { w with refunds := w.refunds ++ [refund] }
  | .createIntent payload key answer paymentId =>
    { w with db := commit w.db (createIntent settings w.db payload key answer paymentId) }
  | .purchase leadId vendorId key answer now purchaseId paymentId =>
    { w with
      db := commit w.db
        (purchase settings w.db leadId vendorId key answer now purchaseId paymentId) }
  | .capture paymentId amountMinor answer now jobId =>
    { w with db := commit w.db (capture w.db paymentId amountMinor answer now jobId) }
  | .refund paymentId amountMinor key actorId reason answer now refundId =>
    { w with
      db := commit w.db
        (refund w.db paymentId amountMinor key actorId reason answer now refundId) }
  | .deliver event fault now jobId =>
    match deliver w.db event fault now jobId with
    | .ok (db, _) => { w with db }
    | .error exc => { w with failures := w.failures ++ [(event, exc)] }
  | .recordFailure delivery =>
    match w.failures[delivery]? with
    | none => w
    | some (event, exc) =>
      { w with
        db := match recordFailure w.db event exc with
          | .ok db => db
          | .error _ => w.db
        failures := w.failures.eraseIdx delivery }

/-! ## Stripe's side -/

/-- A property of what the provider answered, if it did. -/
def Answered {α : Type} (P : α → Prop) : Except Raised α → Prop
  | .ok a => P a
  | .error _ => True

instance {α : Type} (P : α → Prop) [DecidablePred P] : DecidablePred (Answered P)
  | .ok a => inferInstanceAs (Decidable (P a))
  | .error _ => isTrue trivial

/-- An intent nobody has confirmed yet. -/
def NewIntent (intent : ProviderIntent) : Prop :=
  intent.status ≠ "succeeded" ∧ intent.amountReceived = 0

/-- The state of an intent after all its earlier states: what was received is not less. -/
def Latest (w : World) (intent : ProviderIntent) : Prop :=
  ∀ earlier ∈ w.intents, earlier.id = intent.id → earlier.amountReceived ≤ intent.amountReceived

/-- The webhook object shows a state the intent had. -/
def ShowsIntent (obj : StripeObject) (intent : ProviderIntent) : Prop :=
  obj.id = some intent.id ∧ obj.status = some intent.status ∧
    (obj.amountReceived = .missing ∨ obj.amountReceived = .value intent.amountReceived)

def ShowsRefund (obj : StripeObject) (refund : ProviderRefund) : Prop :=
  obj.id = some refund.id ∧ obj.status = some refund.status

def Truthful (w : World) : Op → Prop
  | .stripeIntent intent => Latest w intent
  | .stripeRefund _ => True
  | .createIntent _ _ answer _ => Answered NewIntent answer
  | .purchase _ _ _ answer _ _ _ => Answered NewIntent answer
  | .capture paymentId _ answer _ _ => Answered (fun intent =>
      intent ∈ w.intents ∧ Latest w intent ∧
      ∀ payment ∈ w.db.payments.get? paymentId, payment.providerPaymentId = some intent.id) answer
  | .refund _ _ _ _ _ answer _ _ => Answered (· ∈ w.refunds) answer
  | .deliver event _ _ _ =>
    (event.object.object = some "payment_intent" →
      ∃ intent ∈ w.intents, ShowsIntent event.object intent) ∧
    (event.object.object = some "refund" →
      ∃ refund ∈ w.refunds, ShowsRefund event.object refund)
  | .recordFailure _ => True

instance : DecidablePred NewIntent := fun _ => inferInstanceAs (Decidable (_ ∧ _))

instance (w : World) : DecidablePred (Latest w) :=
  fun intent => inferInstanceAs (Decidable (∀ earlier ∈ w.intents,
    earlier.id = intent.id → earlier.amountReceived ≤ intent.amountReceived))

instance (obj : StripeObject) : DecidablePred (ShowsIntent obj) :=
  fun _ => inferInstanceAs (Decidable (_ ∧ _))

instance (obj : StripeObject) : DecidablePred (ShowsRefund obj) :=
  fun _ => inferInstanceAs (Decidable (_ ∧ _))

instance (w : World) : DecidablePred (Truthful w)
  | .stripeIntent intent => inferInstanceAs (Decidable (Latest w intent))
  | .stripeRefund _ => isTrue trivial
  | .createIntent _ _ answer _ => inferInstanceAs (Decidable (Answered NewIntent answer))
  | .purchase _ _ _ answer _ _ _ => inferInstanceAs (Decidable (Answered NewIntent answer))
  | .capture paymentId _ answer _ _ => inferInstanceAs (Decidable (Answered (fun intent =>
      intent ∈ w.intents ∧ Latest w intent ∧
      ∀ payment ∈ w.db.payments.get? paymentId, payment.providerPaymentId = some intent.id)
      answer))
  | .refund _ _ _ _ _ answer _ _ => inferInstanceAs (Decidable (Answered (· ∈ w.refunds) answer))
  | .deliver event _ _ _ => inferInstanceAs (Decidable (
      (event.object.object = some "payment_intent" →
        ∃ intent ∈ w.intents, ShowsIntent event.object intent) ∧
      (event.object.object = some "refund" →
        ∃ refund ∈ w.refunds, ShowsRefund event.object refund)))
  | .recordFailure _ => isTrue trivial

/-! ## A booking to pay

The runs that a stale or repeated event leads astray are about one booking whose
fee of 10000 minor units is paid with the intent `pi_1`. -/

def sampleSettings : Settings where
  hash payload := payload.currency ++ toString payload.amountMinor

def visit : Booking := {
  id := 1
  customerId := 2
  addressId := 3
  serviceId := 4
  windowStart := 0
  windowEnd := 7200000000
  status := .pendingPayment
  totalAmount := 10000
  currency := "USD"
  expiresAt := 900000000 }

def visitWorld : World where
  db := { bookings := ⟨[visit], by decide⟩ }

def visitPayload : PaymentIntentCreate := { bookingId := some 1, amountMinor := 10000 }

def intentAt (id status : String) (amount : Int) : ProviderIntent :=
  { id, status, amountReceived := amount }

/-- An event with the intent as it was at `intentAt id status amount`. -/
def intentEvent (eventId type id status : String) (amount : Int) : StripeEvent where
  id := eventId
  type := type
  object := {
    object := some "payment_intent", id := some id, status := some status,
    amountReceived := .value amount }

/-- The customer pays the visit: the intent is created, processed and succeeds. -/
def visitPaid : List Op :=
  [.stripeIntent (intentAt "pi_1" "requires_payment_method" 0),
   .createIntent visitPayload "pay" (.ok (intentAt "pi_1" "requires_payment_method" 0)) 10,
   .stripeIntent (intentAt "pi_1" "processing" 0),
   .stripeIntent (intentAt "pi_1" "succeeded" 10000),
   .deliver (intentEvent "evt_2" "payment_intent.succeeded" "pi_1" "succeeded" 10000) none 0 20]

end Breero.Payments
