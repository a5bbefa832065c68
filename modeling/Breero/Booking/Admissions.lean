import Breero.Booking.Matching
import Breero.Lib.Runs

/-!
A day of a professional, from no work at all: requests come one by one, and
`ensureCapacity` admits or refuses each.

* `CapacityRuleWrite` is the body of the endpoint that sets a capacity rule;
* `Tally.Within` is the invariant of one counter of the day, and `Tally.Within.add` its step;
* `admissions_within`: whatever is requested, the day stays within its limits, and the
  regular requests within what is not reserved for emergencies.
-/

namespace Breero.Bookings
open Transaction

/-! ## The rule -/

structure CapacityRuleWrite where
  professionalId : Option Uuid := none
  maxJobsDaily : Int
  maxMinutesDaily : Int
  maxConcurrentJobs : Int := 1
  emergencyReservedJobs : Int := 0
  emergencyReservedMinutes : Int := 0
  effectiveFrom : Int
  effectiveUntil : Option Int := none
  jobs : 1 ≤ maxJobsDaily ∧ maxJobsDaily ≤ 30
  minutes : 30 ≤ maxMinutesDaily ∧ maxMinutesDaily ≤ 720
  concurrentJobs : 1 ≤ maxConcurrentJobs ∧ maxConcurrentJobs ≤ 5
  reservedJobs : 0 ≤ emergencyReservedJobs ∧ emergencyReservedJobs ≤ 10
  reservedMinutes : 0 ≤ emergencyReservedMinutes ∧ emergencyReservedMinutes ≤ 720
  validJobs : emergencyReservedJobs < maxJobsDaily
  validMinutes : emergencyReservedMinutes < maxMinutesDaily
  validRange : ∀ last ∈ effectiveUntil, effectiveFrom ≤ last

namespace CapacityRuleWrite

/-- The row that `set_capacity` adds. -/
def row (data : CapacityRuleWrite) (vendorId : Uuid) : ProviderCapacityRule where
  providerId := vendorId
  professionalId := data.professionalId
  maxJobsDaily := data.maxJobsDaily
  maxMinutesDaily := data.maxMinutesDaily
  maxConcurrentJobs := data.maxConcurrentJobs
  emergencyReservedJobs := data.emergencyReservedJobs
  emergencyReservedMinutes := data.emergencyReservedMinutes
  effectiveFrom := data.effectiveFrom
  effectiveUntil := data.effectiveUntil
  bounds := ⟨data.jobs, data.minutes, data.concurrentJobs,
    ⟨data.reservedJobs.1, data.validJobs⟩, data.reservedMinutes.1, data.validMinutes⟩

def limit (data : CapacityRuleWrite) : CapacityLimit where
  maxJobs := data.maxJobsDaily
  maxMinutes := data.maxMinutesDaily
  maxConcurrentJobs := data.maxConcurrentJobs
  emergencyReservedJobs := data.emergencyReservedJobs
  emergencyReservedMinutes := data.emergencyReservedMinutes

/-- A rule leaves something to the regular requests. -/
theorem limit_for (data : CapacityRuleWrite) (emergency : Bool) :
    data.limit.jobsFor emergency =
        (if emergency then data.limit.maxJobs
          else data.limit.maxJobs - data.limit.emergencyReservedJobs) ∧
      data.limit.minutesFor emergency =
        (if emergency then data.limit.maxMinutes
          else data.limit.maxMinutes - data.limit.emergencyReservedMinutes) := by
  have hjobs : 0 ≤ data.limit.maxJobs - data.limit.emergencyReservedJobs :=
    Int.sub_nonneg_of_le (le_of_lt data.validJobs)
  have hminutes : 0 ≤ data.limit.maxMinutes - data.limit.emergencyReservedMinutes :=
    Int.sub_nonneg_of_le (le_of_lt data.validMinutes)
  simp only [CapacityLimit.jobsFor, CapacityLimit.minutesFor, max_eq_left hjobs,
    max_eq_left hminutes, and_self]

end CapacityRuleWrite

/-! ## The day -/

/-- The minutes of a request, by what the day will count them as, and the number of jobs
and holds that its window overlaps. -/
structure Request where
  emergency : Bool
  onHold : Bool
  bookingMinutes : Int
  holdMinutes : Int
  bufferMinutes : Int
  travelMinutes : Int
  overlappingJobs : Int
  deriving DecidableEq, Repr

def Request.minutes (request : Request) : Int :=
  request.bookingMinutes + request.holdMinutes + request.bufferMinutes + request.travelMinutes

def CapacityUsage.add (usage : CapacityUsage) (request : Request) : CapacityUsage where
  jobCount := usage.jobCount + if request.onHold then 0 else 1
  bookingMinutes := usage.bookingMinutes + request.bookingMinutes
  holdCount := usage.holdCount + if request.onHold then 1 else 0
  holdMinutes := usage.holdMinutes + request.holdMinutes
  bufferMinutes := usage.bufferMinutes + request.bufferMinutes
  travelMinutes := usage.travelMinutes + request.travelMinutes

theorem CapacityUsage.add_count (usage : CapacityUsage) (request : Request) :
    (usage.add request).jobCount + (usage.add request).holdCount =
      usage.jobCount + usage.holdCount + 1 := by
  simp only [CapacityUsage.add]
  split <;> omega

theorem CapacityUsage.add_reservedMinutes (usage : CapacityUsage) (request : Request) :
    (usage.add request).reservedMinutes = usage.reservedMinutes + request.minutes := by
  simp only [CapacityUsage.add, CapacityUsage.reservedMinutes, Request.minutes]
  omega

structure WorkDay where
  usage : CapacityUsage := {}
  admitted : List Request := []
  deriving DecidableEq, Repr

namespace WorkDay

/-- What the admitted requests come to, all of them and the regular ones. -/
def sumOf (day : WorkDay) (amount : Request → Int) : Int :=
  (day.admitted.map amount).sum

def regularSumOf (day : WorkDay) (amount : Request → Int) : Int :=
  ((day.admitted.filter fun request => !request.emergency).map amount).sum

def accept (limit : CapacityLimit) (day : WorkDay) (request : Request) :
    Except Raised (WorkDay × CapacitySnapshot) := do
  let current ← ensureCapacity limit day.usage request.minutes request.overlappingJobs
    request.emergency
  return ({ usage := day.usage.add request, admitted := request :: day.admitted }, current)

def exec (limit : CapacityLimit) (day : WorkDay) (request : Request) : WorkDay :=
  commit day (accept limit day request)

end WorkDay

/-! ## One counter -/

/-- A counter of the day: all that was admitted, and the regular part of it. -/
structure Tally where
  total : Int
  regular : Int

namespace Tally

structure Within (top reserve : Int) (tally : Tally) : Prop where
  regular_le : tally.regular ≤ tally.total
  total_le : tally.total ≤ top
  unreserved : tally.regular ≤ top - reserve

def add (tally : Tally) (emergency : Bool) (amount : Int) : Tally where
  total := tally.total + amount
  regular := tally.regular + if emergency then 0 else amount

/-- What is added to the counter fits below the limit for its kind of request. -/
theorem Within.add {top reserve : Int} {tally : Tally} {emergency : Bool} {amount : Int}
    (h : tally.Within top reserve) (hreserve : 0 ≤ reserve) (hamount : 0 ≤ amount)
    (hfits : tally.total + amount ≤ if emergency then top else top - reserve) :
    (tally.add emergency amount).Within top reserve := by
  obtain ⟨hregular, htotal, hunreserved⟩ := h
  cases emergency with
  | true =>
    simp only [if_true] at hfits
    refine ⟨?_, hfits, ?_⟩
    · simp only [Tally.add, if_true]
      omega
    · simp only [Tally.add, if_true]
      omega
  | false =>
    simp only [Bool.false_eq_true, if_false] at hfits
    refine ⟨?_, ?_, ?_⟩ <;> simp only [Tally.add, Bool.false_eq_true, if_false] <;> omega

end Tally

/-! ## The day within its limits -/

namespace WorkDay

def tally (day : WorkDay) (amount : Request → Int) : Tally :=
  ⟨day.sumOf amount, day.regularSumOf amount⟩

/-- The usage is that of the admitted requests, and both counters are within the limit. -/
structure Within (limit : CapacityLimit) (day : WorkDay) : Prop where
  counted : day.usage.jobCount + day.usage.holdCount = day.sumOf fun _ => 1
  measured : day.usage.reservedMinutes = day.sumOf Request.minutes
  jobs : (day.tally fun _ => 1).Within limit.maxJobs limit.emergencyReservedJobs
  minutes : (day.tally Request.minutes).Within limit.maxMinutes limit.emergencyReservedMinutes

theorem tally_cons (day : WorkDay) (request : Request) (amount : Request → Int) :
    tally { usage := day.usage.add request, admitted := request :: day.admitted } amount =
      (day.tally amount).add request.emergency (amount request) := by
  simp only [tally, sumOf, regularSumOf, Tally.add, List.map_cons, List.sum_cons,
    List.filter_cons, Tally.mk.injEq]
  refine ⟨by omega, ?_⟩
  cases request.emergency with
  | true => simp
  | false =>
    simp only [Bool.not_false, if_true, List.map_cons, List.sum_cons, Bool.false_eq_true, if_false]
    omega

theorem exec_within (data : CapacityRuleWrite) {day : WorkDay} (request : Request)
    (h : day.Within data.limit) : (exec data.limit day request).Within data.limit := by
  apply commit_induction h
  intro next current haccept
  simp only [accept, seq_committed, return_committed, Prod.mk.injEq] at haccept
  obtain ⟨_, hok, rfl, _⟩ := haccept
  obtain ⟨_, hasked, hjobs, hminutes, _⟩ := ensureCapacity_admits.mp (isOk_of_eq hok)
  rw [(data.limit_for request.emergency).1, h.counted] at hjobs
  rw [(data.limit_for request.emergency).2, h.measured] at hminutes
  refine ⟨?_, ?_, ?_, ?_⟩
  · rw [CapacityUsage.add_count, h.counted, sumOf, sumOf, List.map_cons, List.sum_cons]
    omega
  · rw [CapacityUsage.add_reservedMinutes, h.measured, sumOf, sumOf, List.map_cons, List.sum_cons]
    omega
  · rw [tally_cons]
    exact h.jobs.add data.reservedJobs.1 Int.one_nonneg hjobs
  · rw [tally_cons]
    exact h.minutes.add data.reservedMinutes.1 (le_of_lt hasked) hminutes

theorem within_empty (data : CapacityRuleWrite) : ({} : WorkDay).Within data.limit := by
  have hjobs := data.jobs
  have hminutes := data.minutes
  have hfreeJobs := data.validJobs
  have hfreeMinutes := data.validMinutes
  refine ⟨rfl, rfl, ⟨le_refl _, ?_, ?_⟩, ⟨le_refl _, ?_, ?_⟩⟩ <;>
    simp only [tally, sumOf, regularSumOf, CapacityRuleWrite.limit, List.filter_nil, List.map_nil,
      List.sum_nil] <;> omega

end WorkDay

/-- What is open to a regular request is open to an emergency. -/
theorem ensureCapacity_emergency (data : CapacityRuleWrite) {usage : CapacityUsage}
    {minutes overlappingJobs : Int}
    (h : (ensureCapacity data.limit usage minutes overlappingJobs false).isOk) :
    (ensureCapacity data.limit usage minutes overlappingJobs true).isOk := by
  obtain ⟨hpositive, hasked, hjobs, hminutes, hatOnce⟩ := ensureCapacity_admits.mp h
  have hreservedJobs : 0 ≤ data.limit.emergencyReservedJobs := data.reservedJobs.1
  have hreservedMinutes : 0 ≤ data.limit.emergencyReservedMinutes := data.reservedMinutes.1
  simp only [(data.limit_for false).1, (data.limit_for false).2, Bool.false_eq_true, if_false]
    at hjobs hminutes
  apply ensureCapacity_admits.mpr
  refine ⟨hpositive, hasked, ?_, ?_, hatOnce⟩
  · simp only [(data.limit_for true).1, if_true]
    omega
  · simp only [(data.limit_for true).2, if_true]
    omega

/-- **Whatever is requested of a day, in whatever order**: its jobs and minutes stay within
the rule, the regular ones leave the emergency reserve, and what would be admitted as a
regular request would be as an emergency. -/
theorem admissions_within (data : CapacityRuleWrite) (requests : List Request) :
    Runs.Always (WorkDay.exec data.limit) (fun day =>
        (day.usage.jobCount + day.usage.holdCount = day.admitted.length ∧
          day.usage.reservedMinutes = day.sumOf Request.minutes) ∧
        (day.usage.jobCount + day.usage.holdCount ≤ data.limit.maxJobs ∧
          day.usage.reservedMinutes ≤ data.limit.maxMinutes) ∧
        ((day.admitted.countP fun request => !request.emergency) ≤
            data.limit.maxJobs - data.limit.emergencyReservedJobs ∧
          day.regularSumOf Request.minutes ≤
            data.limit.maxMinutes - data.limit.emergencyReservedMinutes) ∧
        ∀ minutes overlappingJobs,
          (ensureCapacity data.limit day.usage minutes overlappingJobs false).isOk →
            (ensureCapacity data.limit day.usage minutes overlappingJobs true).isOk)
      {} requests := by
  have hwithin : Runs.Always (WorkDay.exec data.limit) (WorkDay.Within data.limit) {} requests :=
    Runs.always_of_inv (P := fun _ _ => True)
      (fun _ request h _ => WorkDay.exec_within data request h) (WorkDay.within_empty data)
      (Runs.along_of_forall fun _ _ => trivial)
  refine hwithin.imp fun day h => ?_
  have hcount : day.sumOf (fun _ => 1) = day.admitted.length := by
    simp [WorkDay.sumOf]
  have hregular : day.regularSumOf (fun _ => 1) =
      day.admitted.countP fun request => !request.emergency := by
    simp [WorkDay.regularSumOf, List.countP_eq_length_filter]
  refine ⟨⟨h.counted.trans hcount, h.measured⟩, ⟨?_, ?_⟩, ⟨?_, h.minutes.unreserved⟩,
    fun _ _ => ensureCapacity_emergency data⟩
  · rw [h.counted]
    exact h.jobs.total_le
  · rw [h.measured]
    exact h.minutes.total_le
  · rw [← hregular]
    exact h.jobs.unreserved

end Breero.Bookings
