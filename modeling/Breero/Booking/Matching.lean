import Breero.Booking.Directory
import Breero.Db
import Mathlib.Data.List.Sort

/-!
`ProviderMatcher`: the professionals who can take a visit, by what they offer, when
they work, and what their day still holds.

A transaction of PostgreSQL's default isolation sees, in each query, what is committed
then. So the rows that `_usage` counts, the jobs and then the holds, are an argument of
the functions over them: a `Load`.
-/

namespace Breero.Bookings
open KeyedTable Transaction

/-- `round(n / d)`: to the nearest integer, and halves to the even one. -/
def roundDiv (n d : Int) : Int :=
  if 2 * (n % d) < d then n / d
  else if d < 2 * (n % d) then n / d + 1
  else if n / d % 2 = 0 then n / d else n / d + 1

structure ProviderCandidate where
  providerId : Uuid
  professionalId : Uuid
  score : Int
  distanceMeters : Option Int
  availableCapacityMinutes : Int
  capacityMinutes : Int
  deriving DecidableEq, Repr

/-! ## The day's load -/

/-- The jobs and the holds that `_usage` counts for a professional and a day. -/
structure Load where
  jobs : List Job := []
  holds : List BookingCapacityHold := []
  deriving DecidableEq, Repr

/-- A job that takes its worker's time. -/
def liveJob (worker : Uuid) (job : Job) : Bool :=
  job.workerId = some worker && job.status ∉ [.cancelled, .completed]

def liveBookingStatus (status : BookingStatus) : Bool :=
  status ∉ [.cancelled, .expired, .completed]

/-- A hold that takes its professional's time: held and not expired, or the hold a live
booking was made from, as long as the booking has no job. -/
def liveHold (db : Db) (now : Instant) (worker : Uuid) (hold : BookingCapacityHold) : Bool :=
  hold.professionalCandidateId = worker &&
    match hold.status with
    | .held => now < hold.expiresAt
    | .converted =>
      ((hold.bookingId.bind db.bookings.get?).any fun booking =>
        liveBookingStatus booking.status) &&
        (hold.bookingId.bind db.jobOfBooking).isNone
    | _ => false

def jobsOn (db : Db) (worker : Uuid) (day : Day) : List Job :=
  db.jobs.rows.filter fun job =>
    liveJob worker job && day.touches job.scheduledStart job.scheduledEnd

def holdsOn (db : Db) (now : Instant) (worker : Uuid) (day : Day) : List BookingCapacityHold :=
  db.holds.rows.filter fun hold =>
    liveHold db now worker hold && day.touches hold.slotStartUtc hold.slotEndUtc

/-- The load that is committed. -/
def loadOn (db : Db) (now : Instant) (worker : Uuid) (day : Day) : Load :=
  { jobs := jobsOn db worker day, holds := holdsOn db now worker day }

/-- `round((end - start).total_seconds() / 60)`, and not below zero. -/
def windowMinutes (start stop : Instant) : Int := max (roundDiv (stop - start) 60000000) 0

def overlaps (start stop otherStart otherStop : Instant) : Bool :=
  otherStart < stop && start < otherStop

/-- `_usage`: the usage of the day, and the number of jobs and holds that overlap the
window. -/
def usage (load : Load) (start stop : Instant) : CapacityUsage × Int :=
  ({ jobCount := load.jobs.length
     bookingMinutes :=
       (load.jobs.map fun job => windowMinutes job.scheduledStart job.scheduledEnd).sum
     holdCount := load.holds.length
     holdMinutes := (load.holds.map BookingCapacityHold.capacityMinutes).sum },
   (load.jobs.countP fun job => overlaps start stop job.scheduledStart job.scheduledEnd) +
     (load.holds.countP fun hold => overlaps start stop hold.slotStartUtc hold.slotEndUtc))

/-! ## The rule in force -/

/-- The order in which `_limit` takes the rules of one worker: their own before the
vendor's, and the later one first. -/
def rulePrecedes (a b : ProviderCapacityRule) : Bool :=
  match a.professionalId, b.professionalId with
  | some _, none => true
  | none, some _ => false
  | _, _ => b.effectiveFrom < a.effectiveFrom

def ruleInForce (dir : Directory) (vendorId workerId : Uuid) (date : Int) :
    Option ProviderCapacityRule :=
  (dir.capacityRules.filter fun rule =>
    rule.providerId = vendorId ∧
      (rule.professionalId = none ∨ rule.professionalId = some workerId) ∧
      rule.effectiveFrom ≤ date ∧ ∀ last ∈ rule.effectiveUntil, date ≤ last).foldl
    (fun best rule =>
      match best with
      | none => some rule
      | some b => if rulePrecedes rule b then some rule else some b)
    none

/-- `_limit`. -/
def limitOn (dir : Directory) (vendorId : Uuid) (worker : Worker) (date : Int) : CapacityLimit :=
  match ruleInForce dir vendorId worker.id date with
  | some rule => {
      maxJobs := rule.maxJobsDaily
      maxMinutes := rule.maxMinutesDaily
      maxConcurrentJobs := rule.maxConcurrentJobs
      emergencyReservedJobs := rule.emergencyReservedJobs
      emergencyReservedMinutes := rule.emergencyReservedMinutes }
  | none => { maxJobs := worker.maximumJobsPerDay, maxMinutes := worker.maximumMinutesPerDay }

/-! ## Candidates -/

/-- The vendors and workers of the catalog query. -/
def offers (dir : Directory) (service : Service) (address : Address) (vendor : Vendor)
    (worker : Worker) : Bool :=
  (dir.providerServices.any fun offered =>
    offered.providerId = vendor.id && offered.serviceId = service.id && offered.active &&
      offered.approvalStatus = "APPROVED") &&
  (dir.providerServiceAreas.any fun area =>
    area.providerId = vendor.id && area.postalCode = some (truncate 5 address.postalCode) &&
      area.active && area.approvalStatus = "APPROVED") &&
  vendor.status = .active && vendor.complianceStatus = "APPROVED" &&
  worker.status = .active && worker.available

/-- The breero hours of the weekday, as the matcher enforces them. -/
def withinHours (dir : Directory) (service : Service) (worker : Worker)
    (localStart localEnd : LocalTime) : Bool :=
  match dir.operatingHours.get? (weekdayOf localStart) with
  | some hour => hour.active &&
      (enforceBreeroHours localStart localEnd service.emergencyEligible
        worker.sundayEmergencyEnabled hour.startLocalTime hour.endLocalTime
        (some hour.emergencyOnly)).isOk
  | none =>
      (enforceBreeroHours localStart localEnd service.emergencyEligible
        worker.sundayEmergencyEnabled openLocal closeLocal none).isOk

def scheduleMatches (dir : Directory) (workerId : Uuid) (localStart localEnd : LocalTime)
    (start stop : Instant) (emergency : Bool) : Bool :=
  (dir.availabilityRules.any fun rule =>
    rule.providerProfessionalId = workerId && rule.dayOfWeek = weekdayOf localStart &&
      rule.available && rule.startLocalTime ≤ timeOf localStart &&
      timeOf localEnd ≤ rule.endLocalTime && (emergency || !rule.emergencyOnly)) &&
  !(dir.availabilityExceptions.any fun exception =>
    exception.providerProfessionalId = workerId && exception.status = "ACTIVE" &&
      exception.startAt < stop && start < exception.endAt)

def credentialsValid (dir : Directory) (vendorId : Uuid) (stateCode : Option String)
    (date : Int) : Bool :=
  match stateCode with
  | none => false
  | some state => state ≠ "" && [ProviderCredentialType.license, .insurance].all fun required =>
      dir.credentials.any fun credential =>
        credential.credentialType = required && credential.vendorId = vendorId &&
          (credential.jurisdiction = state || credential.jurisdiction = "US") &&
          credential.verified && date ≤ credential.expiresOn

/-- `service.duration_minutes or 60`. -/
def Service.minutes (service : Service) : Int :=
  match service.durationMinutes with
  | some minutes => if minutes = 0 then 60 else minutes
  | none => 60

/-- The minutes a visit takes of a vendor's worker, with the way there. -/
def capacityMinutes (dir : Directory) (service : Service) (address : Address) (vendorId : Uuid) :
    Int :=
  Service.minutes service + service.beforeBufferMinutes + service.afterBufferMinutes +
    match dir.distance vendorId address.id with
    | some meters => roundDiv meters 500
    | none => 0

def candidateScore (distance : Option Int) (remainingMinutes maxMinutes : Int) : Int :=
  30 + (match distance with
    | some meters => max 0 (25 - roundDiv meters 4000)
    | none => 0) + 15 + min 10 (roundDiv (remainingMinutes * 10) (max maxMinutes 1))

/-- One row of the query, as a candidate. -/
def candidate (dir : Directory) (service : Service) (address : Address) (zone : Zone)
    (start stop : Instant) (emergency : Bool) (loads : Uuid → Day → Load)
    (vendor : Vendor) (worker : Worker) : Option ProviderCandidate :=
  let localStart := zone.toLocal start
  let localEnd := zone.toLocal stop
  let date := dateOf localStart
  if weekdayOf localStart = 6 ∧ ¬ worker.sundayEmergencyEnabled then none
  else if ¬ withinHours dir service worker localStart localEnd then none
  else if ¬ scheduleMatches dir worker.id localStart localEnd start stop emergency then none
  else if ¬ credentialsValid dir vendor.id address.stateCode date then none
  else
    let minutes := capacityMinutes dir service address vendor.id
    let limit := limitOn dir vendor.id worker date
    let (used, overlapping) := usage (loads worker.id (dayOf zone start)) start stop
    match ensureCapacity limit used minutes overlapping emergency with
    | .error _ => none
    | .ok current => some {
        providerId := vendor.id
        professionalId := worker.id
        score := candidateScore (dir.distance vendor.id address.id) current.remainingMinutes
          limit.maxMinutes
        distanceMeters := dir.distance vendor.id address.id
        availableCapacityMinutes := current.remainingMinutes
        capacityMinutes := minutes }

/-- The order of the candidates. -/
def candidateBefore (a b : ProviderCandidate) : Prop :=
  b.score < a.score ∨ (a.score = b.score ∧ a.professionalId ≤ b.professionalId)

instance : DecidableRel candidateBefore := fun _ _ => inferInstanceAs (Decidable (_ ∨ _))

/-- `ProviderMatcher.candidates`, over the loads read for each worker and day. Of more
than 250 rows the query answers any 250; here they are the first ones. -/
def candidates (dir : Directory) (db : Db) (service : Service) (address : Address)
    (start stop : Instant) (emergency : Bool) (professionalId : Option Uuid)
    (loads : Uuid → Day → Load) : Except Raised (List ProviderCandidate) := do
  let zone ← timezone dir.zones address.timezoneName
  let rows := (db.workers.rows.filterMap fun worker =>
    (db.vendors.get? worker.vendorId).bind fun vendor =>
      if offers dir service address vendor worker ∧ ∀ id ∈ professionalId, worker.id = id then
        some (vendor, worker)
      else none).take 250
  let results := rows.filterMap fun (vendor, worker) =>
    candidate dir service address zone start stop emergency loads vendor worker
  return results.insertionSort candidateBefore

end Breero.Bookings
