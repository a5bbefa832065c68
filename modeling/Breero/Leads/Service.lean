import Breero.Payments.Service

/-!
`ProfessionalLeadService.purchase`: a vendor reserves an available lead and gets the
intent to pay it with.
-/

namespace Breero.Leads
open KeyedTable Transaction Payments

/-- `_eligible`. -/
def eligible (vendor : Vendor) (lead : ProfessionalLead) : Bool :=
  lower lead.serviceCategory ∈ vendor.capabilities.map lower

structure PurchaseView where
  id : Uuid
  leadId : Uuid
  vendorId : Uuid
  priceMinor : Int
  currency : String
  status : LeadPurchaseStatus
  paymentId : Uuid
  paymentStatus : PaymentStatus
  clientSecret : Option String
  deriving DecidableEq, Repr

def purchaseView (purchase : LeadPurchase) (payment : Payment) : PurchaseView := {
  id := purchase.id
  leadId := purchase.leadId
  vendorId := purchase.vendorId
  priceMinor := purchase.priceMinor
  currency := purchase.currency
  status := purchase.status
  paymentId := payment.id
  paymentStatus := payment.status
  clientSecret := payment.providerClientSecret }

/-- The answer to a key the vendor used before. -/
def replayPurchase (db : Db) (existing : LeadPurchase) (leadId : Uuid) :
    Except Raised (Db × PurchaseView) := do
  require (existing.leadId = leadId)
    (.domainError "IDEMPOTENCY_CONFLICT" "Key already used for another purchase" 409)
  let payment ← orRaise
    (db.payments.rows.find? (fun p => p.leadPurchaseId = some existing.id))
    (.domainError "PAYMENT_NOT_FOUND" "Lead purchase payment was not found" 409)
  return (db, purchaseView existing payment)

def notEligible : Raised :=
  .domainError "PROVIDER_NOT_ELIGIBLE" "Provider is not eligible for this opportunity" 403

/-- The checks on the locked lead. -/
def purchasableLead (db : Db) (leadId : Uuid) (vendor : Vendor) (now : Instant) :
    Except Raised ProfessionalLead := do
  let lead ← orRaise (db.leads.get? leadId)
    (.domainError "LEAD_UNAVAILABLE" "Opportunity is no longer available" 409)
  require (lead.status = .available)
    (.domainError "LEAD_UNAVAILABLE" "Opportunity is no longer available" 409)
  require (∀ expiresAt ∈ lead.expiresAt, now < expiresAt)
    (.domainError "LEAD_UNAVAILABLE" "Opportunity has expired" 409)
  require (eligible vendor lead) notEligible
  return lead

def newPurchase (lead : ProfessionalLead) (vendorId : Uuid) (key : String) (purchaseId : Uuid) :
    LeadPurchase := {
  id := purchaseId
  leadId := lead.id
  vendorId
  idempotencyKey := key
  priceMinor := lead.priceMinor
  currency := lead.currency
  status := .pendingPayment }

def purchase (settings : Settings) (db : Db) (leadId vendorId : Uuid) (key : String)
    (answer : Except Raised ProviderIntent) (now : Instant) (purchaseId paymentId : Uuid) :
    Except Raised (Db × PurchaseView) := do
  require settings.stripeEnabled (.domainError "PAYMENT_PROVIDER_UNAVAILABLE"
    "Lead purchasing is unavailable until payment configuration is complete" 503)
  let vendor ← orRaise (db.vendors.get? vendorId) notEligible
  require (vendor.status = .active) notEligible
  match db.leadPurchases.rows.find?
      (fun p => p.vendorId = vendorId ∧ p.idempotencyKey = key) with
  | some existing => replayPurchase db existing leadId
  | none => do
    let lead ← purchasableLead db leadId vendor now
    let purchase := newPurchase lead vendorId key purchaseId
    let db ← db.addLeadPurchase purchase
    let (db, payment) ← createProfessionalLeadIntent db purchase answer paymentId
    let lead := { lead with status := .reserved, purchasedByVendorId := some vendorId }
    return ({ db with leads := db.leads.put lead }, purchaseView purchase payment)

end Breero.Leads
