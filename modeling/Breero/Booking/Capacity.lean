import Breero.Lib.Transaction
import Breero.Common.Raised

/-!
The limits of a professional's day, and the check of a request against them.
-/

namespace Breero.Bookings
open Transaction

structure CapacityLimit where
  maxJobs : Int
  maxMinutes : Int
  maxConcurrentJobs : Int := 1
  emergencyReservedJobs : Int := 0
  emergencyReservedMinutes : Int := 0
  deriving DecidableEq, Repr

structure CapacityUsage where
  jobCount : Int := 0
  bookingMinutes : Int := 0
  holdCount : Int := 0
  holdMinutes : Int := 0
  bufferMinutes : Int := 0
  travelMinutes : Int := 0
  deriving DecidableEq, Repr

def CapacityUsage.reservedMinutes (usage : CapacityUsage) : Int :=
  usage.bookingMinutes + usage.holdMinutes + usage.bufferMinutes + usage.travelMinutes

structure CapacitySnapshot where
  totalMinutes : Int
  reservedMinutes : Int
  bookingMinutes : Int
  holdMinutes : Int
  bufferMinutes : Int
  travelMinutes : Int
  remainingMinutes : Int
  jobCount : Int
  holdCount : Int
  maxJobCount : Int
  deriving DecidableEq, Repr

def snapshot (limit : CapacityLimit) (usage : CapacityUsage) (emergency : Bool) :
    Except Raised CapacitySnapshot := do
  require (0 < limit.maxJobs ∧ 0 < limit.maxMinutes ∧ 0 < limit.maxConcurrentJobs)
    (.domainError "INVALID_CAPACITY" "Provider capacity limits must be positive" 422)
  let maxJobs :=
    if emergency then limit.maxJobs else max (limit.maxJobs - limit.emergencyReservedJobs) 0
  let maxMinutes :=
    if emergency then limit.maxMinutes
    else max (limit.maxMinutes - limit.emergencyReservedMinutes) 0
  return {
    totalMinutes := maxMinutes
    reservedMinutes := usage.reservedMinutes
    bookingMinutes := usage.bookingMinutes
    holdMinutes := usage.holdMinutes
    bufferMinutes := usage.bufferMinutes
    travelMinutes := usage.travelMinutes
    remainingMinutes := max (maxMinutes - usage.reservedMinutes) 0
    jobCount := usage.jobCount + usage.holdCount
    holdCount := usage.holdCount
    maxJobCount := maxJobs }

def ensureCapacity (limit : CapacityLimit) (usage : CapacityUsage) (requestedMinutes : Int)
    (overlappingJobs : Int) (emergency : Bool) : Except Raised CapacitySnapshot := do
  let current ← snapshot limit usage emergency
  require (0 < requestedMinutes)
    (.domainError "INVALID_CAPACITY" "Requested capacity must be positive" 422)
  require (¬ (current.maxJobCount ≤ current.jobCount ∨
      current.remainingMinutes < requestedMinutes))
    (.domainError "NO_CAPACITY" "No appointments are available for the selected time" 409)
  require (¬ limit.maxConcurrentJobs ≤ overlappingJobs)
    (.domainError "HOLD_CONFLICT" "The selected provider interval is no longer available" 409)
  return current

/-! ## What is open to a request -/

/-- The jobs of a day that are open to a regular or an emergency request. -/
def CapacityLimit.jobsFor (limit : CapacityLimit) (emergency : Bool) : Int :=
  if emergency then limit.maxJobs else max (limit.maxJobs - limit.emergencyReservedJobs) 0

/-- The minutes of a day that are open to a regular or an emergency request. -/
def CapacityLimit.minutesFor (limit : CapacityLimit) (emergency : Bool) : Int :=
  if emergency then limit.maxMinutes
  else max (limit.maxMinutes - limit.emergencyReservedMinutes) 0

theorem ensureCapacity_admits {limit : CapacityLimit} {usage : CapacityUsage}
    {requestedMinutes overlappingJobs : Int} {emergency : Bool} :
    (ensureCapacity limit usage requestedMinutes overlappingJobs emergency).isOk ↔
      (0 < limit.maxJobs ∧ 0 < limit.maxMinutes ∧ 0 < limit.maxConcurrentJobs) ∧
        0 < requestedMinutes ∧
        usage.jobCount + usage.holdCount < limit.jobsFor emergency ∧
        usage.reservedMinutes + requestedMinutes ≤ limit.minutesFor emergency ∧
        overlappingJobs < limit.maxConcurrentJobs := by
  simp only [ensureCapacity, snapshot, seq_isOk, seq_committed, require_committed, return_committed]
  constructor
  · rintro ⟨current, ⟨_, hpositive, rfl⟩, _, hasked, _, hfree, _, hatOnce, _⟩
    obtain ⟨hjobs, hminutes⟩ := not_or.mp hfree
    refine ⟨hpositive, hasked, Int.not_le.mp hjobs, ?_, Int.not_le.mp hatOnce⟩
    dsimp only at hminutes
    unfold CapacityLimit.minutesFor
    omega
  · rintro ⟨hpositive, hasked, hjobs, hminutes, hatOnce⟩
    refine ⟨_, ⟨(), hpositive, rfl⟩, (), hasked, (), ?_, (), Int.not_le.mpr hatOnce, rfl⟩
    refine not_or.mpr ⟨Int.not_le.mpr hjobs, ?_⟩
    unfold CapacityLimit.minutesFor at hminutes
    dsimp only
    omega

end Breero.Bookings
