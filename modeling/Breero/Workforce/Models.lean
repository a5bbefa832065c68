import Breero.Lib.Table
import Breero.Common.Raised

/-!
Vendors and their workers, and those that the runs on given rows begin with.
-/

namespace Breero
open KeyedTable

inductive VendorStatus
  | pending
  | underReview
  | active
  | paused
  | suspended
  | rejected
  | offboarded
  deriving DecidableEq, Repr

inductive WorkerStatus
  | invited
  | active
  | inactive
  deriving DecidableEq, Repr

structure Vendor where
  id : Uuid
  status : VendorStatus
  complianceStatus : String := "PENDING"
  capabilities : List String := []
  deriving DecidableEq, Repr

structure Worker where
  id : Uuid
  vendorId : Uuid
  status : WorkerStatus
  available : Bool := true
  maximumJobsPerDay : Int := 6
  maximumMinutesPerDay : Int := 600
  sundayEmergencyEnabled : Bool := false
  deriving DecidableEq, Repr

instance : Keyed Vendor Uuid := ⟨Vendor.id⟩
instance : Keyed Worker Uuid := ⟨Worker.id⟩

/-! ## The vendor of the runs -/

def approvedVendor : Table Vendor :=
  ⟨[{ id := 5, status := .active, complianceStatus := "APPROVED" }], by decide⟩

/-- The vendor 5 has two workers. -/
def twoWorkers : Table Worker :=
  ⟨[{ id := 6, vendorId := 5, status := .active }, { id := 7, vendorId := 5, status := .active }],
    by decide⟩

end Breero
