import Breero.Lib.Table
import Breero.Common.Raised

/-!
Professional leads and the purchases vendors make of them.
-/

namespace Breero

inductive LeadStatus
  | available
  | reserved
  | purchased
  | closed
  deriving DecidableEq, Repr

inductive LeadPurchaseStatus
  | pendingPayment
  | paid
  | failed
  | refunded
  deriving DecidableEq, Repr

structure ProfessionalLead where
  id : Uuid
  serviceCategory : String
  priceMinor : Int
  currency : String
  status : LeadStatus
  purchasedByVendorId : Option Uuid := none
  expiresAt : Option Instant := none
  deriving DecidableEq, Repr

structure LeadPurchase where
  id : Uuid
  leadId : Uuid
  vendorId : Uuid
  idempotencyKey : String
  priceMinor : Int
  currency : String
  status : LeadPurchaseStatus
  deriving DecidableEq, Repr

instance : KeyedTable.Keyed ProfessionalLead Uuid := ⟨ProfessionalLead.id⟩
instance : KeyedTable.Keyed LeadPurchase Uuid := ⟨LeadPurchase.id⟩

end Breero
