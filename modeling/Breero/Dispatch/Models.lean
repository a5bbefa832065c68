import Breero.Lib.Table
import Breero.Common.Raised

/-!
Offers of a job to vendors and the assignments that result.
-/

namespace Breero

inductive OfferStatus
  | pending
  | accepted
  | declined
  | expired
  | withdrawn
  deriving DecidableEq, Repr

inductive AssignmentStatus
  | active
  | released
  | completed
  deriving DecidableEq, Repr

inductive AssignmentMethod
  | manual
  | suggested
  | automatic
  deriving DecidableEq, Repr

def AssignmentMethod.value : AssignmentMethod → String
  | manual => "MANUAL"
  | suggested => "SUGGESTED"
  | automatic => "AUTOMATIC"

structure DispatchOffer where
  id : Uuid
  jobId : Uuid
  vendorId : Uuid
  workerId : Option Uuid
  status : OfferStatus
  round : Nat := 1
  score : Int
  expiresAt : Instant
  respondedAt : Option Instant := none
  deriving DecidableEq, Repr

structure Assignment where
  id : Uuid
  jobId : Uuid
  offerId : Option Uuid := none
  vendorId : Uuid
  workerId : Uuid
  status : AssignmentStatus
  assignedBy : Option Uuid
  releasedAt : Option Instant := none
  deriving DecidableEq, Repr

structure ProviderAssignmentHistory where
  bookingId : Uuid
  previousProviderId : Option Uuid
  newProviderId : Option Uuid
  previousProfessionalId : Option Uuid
  newProfessionalId : Option Uuid
  reason : String
  assignmentMethod : AssignmentMethod
  scoreAtAssignment : Option Int
  performedBy : Uuid
  deriving DecidableEq, Repr

instance : KeyedTable.Keyed DispatchOffer Uuid := ⟨DispatchOffer.id⟩
instance : KeyedTable.Keyed Assignment Uuid := ⟨Assignment.id⟩

end Breero
