import Breero.Lib.Table
import Breero.Common.Raised

/-!
Payments, refunds, and the stored webhook events and idempotency records, with
the objects Stripe sends.
-/

namespace Breero

inductive PaymentStatus
  | created
  | requiresAction
  | authorized
  | captured
  | failed
  | canceled
  | refunded
  | partiallyRefunded
  deriving DecidableEq, Repr

inductive PaymentPurpose
  | bookingDiagnostic
  | quoteAdditionalWork
  | professionalLead
  deriving DecidableEq, Repr

def PaymentPurpose.value : PaymentPurpose → String
  | bookingDiagnostic => "BOOKING_DIAGNOSTIC"
  | quoteAdditionalWork => "QUOTE_ADDITIONAL_WORK"
  | professionalLead => "PROFESSIONAL_LEAD"

inductive RefundStatus
  | pending
  | succeeded
  | failed
  | canceled
  deriving DecidableEq, Repr

def RefundStatus.value : RefundStatus → String
  | pending => "pending"
  | succeeded => "succeeded"
  | failed => "failed"
  | canceled => "canceled"

/-- `RefundStatus(value)`, for the values the enumeration has. -/
def RefundStatus.ofValue? (value : String) : Option RefundStatus :=
  [RefundStatus.pending, .succeeded, .failed, .canceled].find? (fun s => s.value = value)

structure Payment where
  id : Uuid
  bookingId : Option Uuid := none
  quoteId : Option Uuid := none
  leadPurchaseId : Option Uuid := none
  paymentPurpose : PaymentPurpose
  provider : String := "stripe"
  providerPaymentId : Option String
  status : PaymentStatus
  amountMinor : Int
  currency : String
  capturedAmountMinor : Int
  providerClientSecret : Option String := none
  failureCode : Option String := none
  metadata : List (String × String) := []
  deriving DecidableEq, Repr

/-- The check constraint `valid_payment_reference`. -/
def Payment.ValidReference (payment : Payment) : Prop :=
  match payment.paymentPurpose with
  | .bookingDiagnostic =>
    payment.bookingId ≠ none ∧ payment.quoteId = none ∧ payment.leadPurchaseId = none
  | .quoteAdditionalWork =>
    payment.bookingId = none ∧ payment.quoteId ≠ none ∧ payment.leadPurchaseId = none
  | .professionalLead =>
    payment.bookingId = none ∧ payment.quoteId = none ∧ payment.leadPurchaseId ≠ none

instance (payment : Payment) : Decidable payment.ValidReference :=
  match h : payment.paymentPurpose with
  | .bookingDiagnostic => decidable_of_iff (payment.bookingId ≠ none ∧ payment.quoteId = none ∧
      payment.leadPurchaseId = none) (by simp [Payment.ValidReference, h])
  | .quoteAdditionalWork => decidable_of_iff (payment.bookingId = none ∧ payment.quoteId ≠ none ∧
      payment.leadPurchaseId = none) (by simp [Payment.ValidReference, h])
  | .professionalLead => decidable_of_iff (payment.bookingId = none ∧ payment.quoteId = none ∧
      payment.leadPurchaseId ≠ none) (by simp [Payment.ValidReference, h])

structure Refund where
  id : Uuid
  paymentId : Uuid
  amountMinor : Int
  status : RefundStatus
  providerRefundId : Option String
  idempotencyKey : String
  reason : Option String
  createdBy : Uuid
  deriving DecidableEq, Repr

structure PaymentIntentCreate where
  bookingId : Option Uuid := none
  quoteId : Option Uuid := none
  leadPurchaseId : Option Uuid := none
  paymentPurpose : PaymentPurpose := .bookingDiagnostic
  amountMinor : Int
  currency : String := "usd"
  captureMethod : String := "automatic"
  metadata : List (String × String) := []
  deriving DecidableEq, Repr

/-! ## Stripe's objects -/

structure ProviderIntent where
  id : String
  status : String
  clientSecret : Option String := none
  amountReceived : Int := 0
  deriving DecidableEq, Repr

structure ProviderRefund where
  id : String
  status : String
  deriving DecidableEq, Repr

/-- A member of a JSON object, which may be missing or null. -/
inductive Member (α : Type)
  | missing
  | null
  | value (a : α)
  deriving DecidableEq, Repr

/-- `event["data"]["object"]`; `lastPaymentError` carries the error's `code`. -/
structure StripeObject where
  object : Option String := none
  id : Option String := none
  status : Option String := none
  amountReceived : Member Int := .missing
  lastPaymentError : Member (Option String) := .missing
  deriving DecidableEq, Repr

structure StripeEvent where
  id : String
  type : String
  object : StripeObject
  deriving DecidableEq, Repr

inductive PaymentEventStatus
  | processing
  | processed
  | failed
  deriving DecidableEq, Repr

structure PaymentEvent where
  provider : String
  providerEventId : String
  eventType : String
  paymentId : Option Uuid := none
  payload : StripeEvent
  status : PaymentEventStatus
  attempts : Nat := 1
  lastError : Option String := none
  processedAt : Option Instant := none
  deriving DecidableEq, Repr

structure IdempotencyRecord where
  operation : String
  idempotencyKey : String
  requestHash : String
  responseCode : Option Nat := none
  responseBody : Option Uuid := none
  deriving DecidableEq, Repr

instance : KeyedTable.Keyed Payment Uuid := ⟨Payment.id⟩
instance : KeyedTable.Keyed Refund Uuid := ⟨Refund.id⟩
instance : KeyedTable.Keyed PaymentEvent (String × String) :=
  ⟨fun event => (event.provider, event.providerEventId)⟩
instance : KeyedTable.Keyed IdempotencyRecord (String × String) :=
  ⟨fun record => (record.operation, record.idempotencyKey)⟩

end Breero
