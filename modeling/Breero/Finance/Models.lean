import Breero.Lib.Table
import Breero.Common.Raised

/-!
Vendor earnings, the adjustments made to them and the batches they are paid in.
-/

namespace Breero

inductive CompensationMethod
  | fixedMinor
  | percentage
  | serviceRate
  deriving DecidableEq, Repr

inductive EarningStatus
  | pending
  | available
  | held
  | approved
  | batched
  | paid
  | cancelled
  | reversed
  deriving DecidableEq, Repr

inductive AdjustmentType
  | refund
  | dispute
  | manual
  | reversal
  deriving DecidableEq, Repr

def AdjustmentType.value : AdjustmentType → String
  | refund => "REFUND"
  | dispute => "DISPUTE"
  | manual => "MANUAL"
  | reversal => "REVERSAL"

inductive PayoutStatus
  | draft
  | pendingApproval
  | approved
  | processing
  | paid
  | failed
  | cancelled
  deriving DecidableEq, Repr

structure VendorCompensationPlan where
  id : Uuid
  vendorId : Uuid
  name : String := ""
  method : CompensationMethod
  fixedMinor : Option Int := none
  percentageBps : Option Int := none
  currency : String := "USD"
  holdDays : Int := 7
  active : Bool := true
  effectiveFrom : Instant
  effectiveTo : Option Instant := none
  deriving DecidableEq, Repr

structure VendorServiceCompensation where
  planId : Uuid
  serviceId : Uuid
  rateMinor : Int
  currency : String := "USD"
  deriving DecidableEq, Repr

inductive CompensationRule
  | fixedMinor (amount : Int)
  | percentageBps (bps : Int)
  | serviceRateMinor (rate : Int) (serviceId : Uuid)
  deriving DecidableEq, Repr

structure CompensationSnapshot where
  id : Uuid
  planId : Option Uuid
  vendorId : Uuid
  serviceId : Uuid
  method : CompensationMethod
  rule : CompensationRule
  grossMinor : Int
  compensationMinor : Int
  currency : String
  holdDays : Int
  committedAt : Instant
  deriving DecidableEq, Repr

structure VendorEarning where
  id : Uuid
  vendorId : Uuid
  jobId : Uuid
  compensationSnapshotId : Uuid
  grossMinor : Int
  feeMinor : Int
  netMinor : Int
  adjustmentTotalMinor : Int := 0
  currency : String := "USD"
  status : EarningStatus
  availableAt : Instant
  payoutBatchId : Option Uuid := none
  deriving DecidableEq, Repr

def VendorEarning.payableMinor (earning : VendorEarning) : Int :=
  earning.netMinor + earning.adjustmentTotalMinor

structure EarningAdjustment where
  earningId : Uuid
  adjustmentType : AdjustmentType
  amountMinor : Int
  reason : String
  idempotencyKey : String
  actorId : Option Uuid
  deriving DecidableEq, Repr

structure PayoutBatch where
  id : Uuid
  reference : String
  status : PayoutStatus
  currency : String
  totalMinor : Int
  earningCount : Nat
  reviewedBy : Option Uuid := none
  reviewedAt : Option Instant := none
  approvedBy : Option Uuid := none
  approvedAt : Option Instant := none
  idempotencyKey : Option String := none
  submittedAt : Option Instant := none
  providerTransferId : Option String := none
  providerStatus : Option String := none
  providerReference : Option String := none
  failureReason : Option String := none
  deriving DecidableEq, Repr

instance : KeyedTable.Keyed VendorCompensationPlan Uuid := ⟨VendorCompensationPlan.id⟩
instance : KeyedTable.Keyed VendorServiceCompensation (Uuid × Uuid) :=
  ⟨fun rate => (rate.planId, rate.serviceId)⟩
instance : KeyedTable.Keyed CompensationSnapshot Uuid := ⟨CompensationSnapshot.id⟩
instance : KeyedTable.Keyed VendorEarning Uuid := ⟨VendorEarning.id⟩
instance : KeyedTable.Keyed EarningAdjustment (Uuid × String) :=
  ⟨fun adjustment => (adjustment.earningId, adjustment.idempotencyKey)⟩
instance : KeyedTable.Keyed PayoutBatch Uuid := ⟨PayoutBatch.id⟩

end Breero
