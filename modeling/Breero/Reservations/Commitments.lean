import Breero.Lib.Calendars
import Breero.Reservations.BookedJobs

/-!
The commitments of a professional: the active holds, and the live bookings that are theirs.

* `NotOverbooked` says that they keep the limits of the rules in force;
* `candidate_accepts` is what a search that accepts says of the load it was made over, and
  `commitments_in_load` that the load of a day has the commitments of it;
* `NotOverbooked.add`: an accepted visit keeps the limits.
-/

namespace Breero.Reservations
open KeyedTable Transaction Windows Bookings Dispatch

inductive Source
  | hold (id : Uuid)
  | booking (id : Uuid)
  deriving DecidableEq, Repr

structure Commitment where
  source : Source
  addressId : Uuid
  window : Window Instant
  minutes : Int
  deriving DecidableEq, Repr

namespace Commitment

def ofHold (hold : BookingCapacityHold) : Commitment := {
  source := .hold hold.id
  addressId := hold.addressId
  window := ⟨hold.slotStartUtc, hold.slotEndUtc⟩
  minutes := hold.capacityMinutes }

def ofBooking (booking : Booking) : Commitment := {
  source := .booking booking.id
  addressId := booking.addressId
  window := ⟨booking.windowStart, booking.windowEnd⟩
  minutes := windowMinutes booking.windowStart booking.windowEnd }

/-- The booking of the job, as `_usage` counts it. -/
def ofJob (job : Job) : Commitment := {
  source := .booking job.bookingId
  addressId := job.addressId
  window := ⟨job.scheduledStart, job.scheduledEnd⟩
  minutes := windowMinutes job.scheduledStart job.scheduledEnd }

end Commitment

open Commitment

def heldFor (db : Db) (now : Instant) (workerId : Uuid) : List BookingCapacityHold :=
  db.holds.rows.filter fun hold => hold.professionalCandidateId = workerId && activeHold now hold

def assignedTo (db : Db) (workerId : Uuid) : List Booking :=
  db.bookings.rows.filter fun booking =>
    booking.providerWorkerId = some workerId && liveBookingStatus booking.status

def commitments (db : Db) (now : Instant) (workerId : Uuid) : List Commitment :=
  (heldFor db now workerId).map ofHold ++ (assignedTo db workerId).map ofBooking

/-! ## The law -/

/-- The days of a worker's commitments, and the limits of the rule in force on each. -/
def calendarOf (dir : Directory) (worker : Worker) : Calendar Commitment Day Instant := {
  window := Commitment.window
  weight := Commitment.minutes
  day := fun c => dayAt dir c.addressId c.window.start
  touches := fun day window => day.touches window.start window.stop
  limits := fun day =>
    let limit := limitOn dir worker.vendorId worker day.date
    { atOnce := limit.maxConcurrentJobs, count := limit.maxJobs, weight := limit.maxMinutes } }

def NotOverbooked (dir : Directory) (db : Db) (now : Instant) : Prop :=
  ∀ worker ∈ db.workers.rows, (calendarOf dir worker).Kept (commitments db now worker.id)

instance (dir : Directory) (db : Db) (now : Instant) : Decidable (NotOverbooked dir db now) :=
  inferInstanceAs (Decidable (∀ worker ∈ db.workers.rows, _))

/-! ## The commitments -/

variable {dir : Directory} {db db' : Db} {now now' : Instant} {workerId : Uuid}

theorem mem_commitments {c : Commitment} : c ∈ commitments db now workerId ↔
    (∃ hold ∈ db.holds.rows, hold.professionalCandidateId = workerId ∧
      activeHold now hold = true ∧ ofHold hold = c) ∨
    (∃ booking ∈ db.bookings.rows, booking.providerWorkerId = some workerId ∧
      liveBookingStatus booking.status = true ∧ ofBooking booking = c) := by
  simp only [commitments, heldFor, assignedTo, List.mem_append, List.mem_map, List.mem_filter,
    Bool.and_eq_true, decide_eq_true_eq, and_assoc]

theorem commitments_nodup (db : Db) (now : Instant) (workerId : Uuid) :
    (commitments db now workerId).Nodup := by
  refine List.nodup_append.mpr ⟨?_, ?_, ?_⟩
  · refine List.Nodup.map_on ?_ ((List.Nodup.of_map Keyed.key db.holds.nodup).filter _)
    intro hold hhold other hother hsame
    refine Table.eq_of_key (List.mem_filter.mp hhold).1 (List.mem_filter.mp hother).1 ?_
    exact Source.hold.inj (congrArg Commitment.source hsame)
  · refine List.Nodup.map_on ?_ ((List.Nodup.of_map Keyed.key db.bookings.nodup).filter _)
    intro booking hbooking other hother hsame
    refine Table.eq_of_key (List.mem_filter.mp hbooking).1 (List.mem_filter.mp hother).1 ?_
    exact Source.booking.inj (congrArg Commitment.source hsame)
  · intro c hc d hd hsame
    obtain ⟨hold, _, rfl⟩ := List.mem_map.mp hc
    obtain ⟨booking, _, rfl⟩ := List.mem_map.mp hd
    cases congrArg Commitment.source hsame

theorem windowMinutes_nonneg (start stop : Instant) : 0 ≤ windowMinutes start stop :=
  le_max_right _ _

/-- The constraint `capacity_hold_minutes`. -/
def MinutesChecked (holds : Table BookingCapacityHold) : Prop :=
  ∀ hold ∈ holds.rows, 0 < hold.capacityMinutes

instance : DecidablePred MinutesChecked := fun holds =>
  inferInstanceAs (Decidable (∀ hold ∈ holds.rows, _))

theorem commitments_nonneg (hminutes : MinutesChecked db.holds) :
    ∀ c ∈ commitments db now workerId, 0 ≤ c.minutes := by
  intro c hc
  rcases mem_commitments.mp hc with ⟨hold, hmem, _, _, rfl⟩ | ⟨booking, _, _, _, rfl⟩
  · exact (hminutes hold hmem).le
  · exact windowMinutes_nonneg _ _

/-! ## The load of a day -/

def Load.commitments (load : Load) : List Commitment :=
  load.holds.map ofHold ++ load.jobs.map ofJob

theorem usage_overlapping (load : Load) (start stop : Instant) :
    (usage load start stop).2 =
      (Load.commitments load).countP fun c => c.window.meets ⟨start, stop⟩ := by
  have hmeets : ∀ otherStart otherStop : Instant, overlaps start stop otherStart otherStop =
      (⟨otherStart, otherStop⟩ : Window Instant).meets ⟨start, stop⟩ := by
    intro otherStart otherStop
    simp only [overlaps, Window.meets, Bool.and_comm]
  simp only [usage, Load.commitments, List.countP_append, List.countP_map, Nat.cast_add, hmeets]
  rw [add_comm]
  rfl

theorem usage_count (load : Load) (start stop : Instant) :
    (usage load start stop).1.jobCount + (usage load start stop).1.holdCount =
      (Load.commitments load).length := by
  simp only [usage, Load.commitments, List.length_append, List.length_map, Nat.cast_add]
  rw [add_comm]

theorem usage_minutes (load : Load) (start stop : Instant) :
    (usage load start stop).1.reservedMinutes =
      ((Load.commitments load).map Commitment.minutes).sum := by
  simp only [usage, Load.commitments, CapacityUsage.reservedMinutes, List.map_append,
    List.map_map, List.sum_append, add_zero]
  rw [add_comm]
  rfl

/-- The load of a day has every commitment that touches it: an active hold is a live one,
and a booking has its job. -/
theorem commitments_in_load (hjobs : BookedJobs db) {day : Day} {c : Commitment}
    (hc : c ∈ commitments db now workerId) (htouches : day.touches c.window.start c.window.stop) :
    c ∈ Load.commitments (loadOn db now workerId day) := by
  rcases mem_commitments.mp hc with ⟨hold, hmem, hworker, hactive, rfl⟩ |
    ⟨booking, hmem, hworker, hlive, rfl⟩
  · refine List.mem_append.mpr (Or.inl (List.mem_map.mpr ⟨hold, ?_, rfl⟩))
    refine List.mem_filter.mpr ⟨hmem, ?_⟩
    simp only [activeHold, Bool.and_eq_true, decide_eq_true_eq] at hactive
    have htouches : day.touches hold.slotStartUtc hold.slotEndUtc := htouches
    simp [liveHold, hworker, hactive, htouches]
  · obtain ⟨job, hjob, hof, hjoblive⟩ := hjobs.jobbed booking hmem hlive workerId hworker
    obtain ⟨_, haddress, hstart, hstop⟩ := hjobs.ofBooking (Table.get?_key hmem) hjob hof
    refine List.mem_append.mpr (Or.inr (List.mem_map.mpr ⟨job, ?_, ?_⟩))
    · refine List.mem_filter.mpr ⟨hjob, ?_⟩
      have htouches : day.touches booking.windowStart booking.windowEnd := htouches
      simp [hjoblive, hstart, hstop, htouches]
    · rw [ofJob, ofBooking, hof, haddress, hstart, hstop]

theorem load_nonneg (hminutes : MinutesChecked db.holds) (day : Day) :
    ∀ c ∈ Load.commitments (loadOn db now workerId day), 0 ≤ c.minutes := by
  intro c hc
  rcases List.mem_append.mp hc with hc | hc
  · obtain ⟨hold, hhold, rfl⟩ := List.mem_map.mp hc
    exact (hminutes hold (List.mem_filter.mp hhold).1).le
  · obtain ⟨job, _, rfl⟩ := List.mem_map.mp hc
    exact windowMinutes_nonneg _ _

/-! ## Accepted searches -/

/-- The load leaves the visit room on its day. -/
structure Accepts (dir : Directory) (worker : Worker) (load : Load) (day : Day)
    (window : Window Instant) (minutes : Int) : Prop where
  atOnce : ((Load.commitments load).countP fun c => c.window.meets window : Int) <
    ((calendarOf dir worker).limits day).atOnce
  count : ((Load.commitments load).length : Int) < ((calendarOf dir worker).limits day).count
  weight : ((Load.commitments load).map Commitment.minutes).sum + minutes ≤
    ((calendarOf dir worker).limits day).weight

theorem ensureCapacity_ok {limit : CapacityLimit} {usage : CapacityUsage}
    {requestedMinutes overlappingJobs : Int} {emergency : Bool} {current : CapacitySnapshot}
    (h : ensureCapacity limit usage requestedMinutes overlappingJobs emergency = .ok current)
    (hjobs : 0 ≤ limit.emergencyReservedJobs) (hminutes : 0 ≤ limit.emergencyReservedMinutes) :
    overlappingJobs < limit.maxConcurrentJobs ∧
      usage.jobCount + usage.holdCount < limit.maxJobs ∧
      usage.reservedMinutes + requestedMinutes ≤ limit.maxMinutes := by
  obtain ⟨⟨hmaxJobs, hmaxMinutes, _⟩, hasked, hfreeJobs, hfreeMinutes, hatOnce⟩ :=
    ensureCapacity_admits.mp (isOk_of_eq h)
  have hopenJobs : limit.jobsFor emergency ≤ limit.maxJobs := by
    unfold CapacityLimit.jobsFor
    omega
  have hopenMinutes : limit.minutesFor emergency ≤ limit.maxMinutes := by
    unfold CapacityLimit.minutesFor
    omega
  exact ⟨hatOnce, by omega, by omega⟩

theorem limitOn_reserves (dir : Directory) (vendorId : Uuid) (worker : Worker) (date : Int) :
    0 ≤ (limitOn dir vendorId worker date).emergencyReservedJobs ∧
      0 ≤ (limitOn dir vendorId worker date).emergencyReservedMinutes := by
  unfold limitOn
  split
  · next rule _ => exact ⟨rule.bounds.2.2.2.1.1, rule.bounds.2.2.2.2.1⟩
  · exact ⟨le_refl _, le_refl _⟩

theorem candidate_accepts {service : Service} {address : Address} {zone : Zone}
    {start stop : Instant} {emergency : Bool} {loads : Uuid → Day → Load} {vendor : Vendor}
    {worker : Worker} {found : ProviderCandidate}
    (h : candidate dir service address zone start stop emergency loads vendor worker = some found)
    (hvendor : vendor.id = worker.vendorId) :
    found.professionalId = worker.id ∧
      found.capacityMinutes = capacityMinutes dir service address worker.vendorId ∧
      Accepts dir worker (loads worker.id (dayOf zone start)) (dayOf zone start) ⟨start, stop⟩
        found.capacityMinutes := by
  simp only [candidate] at h
  iterate 4
    split at h
    · cases h
  split at h
  · cases h
  · next current hok =>
    cases h
    rw [hvendor] at hok
    obtain ⟨hreservedJobs, hreservedMinutes⟩ :=
      limitOn_reserves dir worker.vendorId worker (dateOf (zone.toLocal start))
    obtain ⟨hatOnce, hcount, hweight⟩ := ensureCapacity_ok hok hreservedJobs hreservedMinutes
    rw [usage_overlapping] at hatOnce
    rw [usage_count] at hcount
    rw [usage_minutes] at hweight
    rw [hvendor]
    exact ⟨rfl, rfl, hatOnce, hcount, hweight⟩

theorem candidates_mem {service : Service} {address : Address} {start stop : Instant}
    {emergency : Bool} {professionalId : Option Uuid} {loads : Uuid → Day → Load}
    {results : List ProviderCandidate} {found : ProviderCandidate}
    (h : candidates dir db service address start stop emergency professionalId loads = .ok results)
    (hmem : found ∈ results) :
    ∃ zone vendor worker, dir.zones address.timezoneName = some zone ∧ worker ∈ db.workers.rows ∧
      vendor.id = worker.vendorId ∧ (∀ id ∈ professionalId, worker.id = id) ∧
      candidate dir service address zone start stop emergency loads vendor worker = some found := by
  simp only [candidates, timezone, seq_committed, orRaise_committed, return_committed] at h
  obtain ⟨zone, hzone, rfl⟩ := h
  rw [List.mem_insertionSort] at hmem
  obtain ⟨⟨vendor, worker⟩, hrow, hfound⟩ := List.mem_filterMap.mp hmem
  obtain ⟨worker', hworker, hrow⟩ := List.mem_filterMap.mp (List.mem_of_mem_take hrow)
  obtain ⟨vendor', hvendor, hrow⟩ := Option.bind_eq_some_iff.mp hrow
  split at hrow
  · next hoffers =>
    cases hrow
    exact ⟨zone, vendor, worker, hzone, hworker, Table.key_of_get? hvendor, hoffers.2, hfound⟩
  · cases hrow

/-! ### The second search -/

/-- What a call of `create` has read of the address, and of the one it has chosen. -/
structure Chosen (dir : Directory) (workers : Table Worker) (attempt : HoldAttempt) : Prop where
  address : dir.addresses.get? attempt.address.id = some attempt.address
  minutes : ∀ worker ∈ workers.rows, worker.id = attempt.chosen.professionalId →
    attempt.chosen.capacityMinutes =
      capacityMinutes dir attempt.service attempt.address worker.vendorId

theorem prepareHold_chosen {settings : Settings} {loads : Uuid → Day → Load}
    {request : HoldRequest} {attempt : HoldAttempt}
    (h : prepareHold settings dir db loads request = .ok (.inr attempt)) :
    Chosen dir db.workers attempt := by
  simp only [prepareHold, seq_committed] at h
  obtain ⟨_, _, h⟩ := h
  split at h
  · simp only [seq_committed, return_committed] at h
    obtain ⟨_, _, h⟩ := h
    cases h
  · simp only [holdTarget, seq_committed, orRaise_committed, require_committed,
      return_committed, Sum.inr.injEq] at h
    obtain ⟨⟨service, address⟩, ⟨_, _, _, _, _, _, address', haddress, _, _, _, _, htarget⟩, _, _,
      found, hfound, chosen, hchosen, rfl⟩ := h
    cases htarget
    refine ⟨Table.get?_found haddress, fun worker hworker hid => ?_⟩
    obtain ⟨zone, vendor, other, _, hother, hvendor, _, hcandidate⟩ :=
      candidates_mem hfound (List.mem_of_mem_head? hchosen)
    obtain ⟨hprofessional, hminutes, _⟩ := candidate_accepts hcandidate hvendor
    have hsame : other = worker :=
      Table.eq_of_key hother hworker (hprofessional.symm.trans hid.symm)
    rw [← hsame]
    exact hminutes

theorem recheck_accepts {load : Load} {work : Work} {visit : Visit} {found : ProviderCandidate}
    (h : recheck dir db load work = .ok found) (hvisit : work.visit = some visit)
    (hchosen : ∀ attempt, work = .hold attempt → Chosen dir db.workers attempt) :
    ∃ worker ∈ db.workers.rows, ∃ day, worker.id = visit.professionalId ∧
      dayAt dir visit.addressId visit.start = some day ∧
      Accepts dir worker load day ⟨visit.start, visit.stop⟩ found.capacityMinutes := by
  cases work with
  | hold attempt =>
    cases hvisit
    simp only [recheck, recheckHold, seq_committed, require_committed, return_committed] at h
    obtain ⟨_, ⟨refreshed, hrefreshed, hsome⟩, rfl⟩ := h
    obtain ⟨first, hfirst⟩ := List.exists_mem_of_ne_nil refreshed hsome
    obtain ⟨zone, vendor, worker, hzone, hworker, hvendor, hid, hcandidate⟩ :=
      candidates_mem hrefreshed hfirst
    obtain ⟨_, hminutes, haccepts⟩ := candidate_accepts hcandidate hvendor
    have hid := hid _ rfl
    obtain ⟨haddress, hasked⟩ := hchosen attempt rfl
    refine ⟨worker, hworker, dayOf zone attempt.interval.startUtc, hid, ?_, ?_⟩
    · simp [dayAt, haddress, hzone]
    · rw [hasked worker hworker hid, ← hminutes]
      exact haccepts
  | assign request booking =>
    cases hvisit
    simp only [recheck, recheckAssign, bookingCandidates, seq_committed, orRaise_committed] at h
    obtain ⟨results, ⟨address, haddress, service, _, hresults⟩, hfound⟩ := h
    obtain ⟨zone, vendor, worker, hzone, hworker, hvendor, _, hcandidate⟩ :=
      candidates_mem hresults (List.mem_of_find?_eq_some hfound)
    obtain ⟨hprofessional, _, haccepts⟩ := candidate_accepts hcandidate hvendor
    have hid : found.professionalId = request.professionalId := by
      simpa using List.find?_some hfound
    refine ⟨worker, hworker, dayOf zone booking.windowStart, hprofessional.symm.trans hid, ?_,
      haccepts⟩
    simp [dayAt, haddress, hzone]
  | convert request hold checkedAt => cases hvisit
  | reschedule userId booking hold checkedAt => cases hvisit
  | lapse holdId => cases hvisit

/-! ## An accepted visit -/

/-- What an accepting search has counted leaves the new commitment room beside the others. -/
theorem Accepts.room {worker : Worker} {day : Day} {x : Commitment} {asked : Int}
    (h : Accepts dir worker (loadOn db now worker.id day) day x.window asked)
    (hjobs : BookedJobs db) (hminutes : MinutesChecked db.holds) (hasked : x.minutes ≤ asked)
    (hstart : day.start ≤ x.window.start) (hstop : x.window.stop ≤ day.stop) :
    (calendarOf dir worker).Room (commitments db now worker.id) day x := by
  have hnodup := commitments_nodup db now worker.id
  constructor
  · have hle : (commitments db now worker.id).countP (fun c => c.window.meets x.window) ≤
        (Load.commitments (loadOn db now worker.id day)).countP
          fun c => c.window.meets x.window := by
      refine countP_le_of_seen hnodup ?_
      intro c hc hmeets
      obtain ⟨hbefore, hafter⟩ := Window.meets_iff.mp hmeets
      have htouches : day.touches c.window.start c.window.stop :=
        ⟨hafter.trans_le hstop, hstart.trans_lt hbefore⟩
      exact ⟨commitments_in_load hjobs hc htouches, hmeets⟩
    have hless := h.atOnce
    exact (Int.ofNat_le.mpr hle).trans_lt hless
  · have hsub : List.Subperm ((calendarOf dir worker).onDay (commitments db now worker.id) day)
        (Load.commitments (loadOn db now worker.id day)) := by
      refine List.subperm_of_subset (hnodup.filter _) ?_
      intro c hc
      obtain ⟨hmem, htouches⟩ := Calendar.mem_onDay.mp hc
      exact commitments_in_load hjobs hmem (of_decide_eq_true htouches)
    have hless := h.count
    exact (Int.ofNat_le.mpr hsub.length_le).trans_lt hless
  · have hle : (((calendarOf dir worker).onDay (commitments db now worker.id) day).map
        Commitment.minutes).sum ≤
          ((Load.commitments (loadOn db now worker.id day)).map Commitment.minutes).sum := by
      refine sum_le_of_seen hnodup ?_ (load_nonneg hminutes day)
      intro c hc htouches
      exact commitments_in_load hjobs hc (of_decide_eq_true htouches)
    have hless := h.weight
    show _ + x.minutes ≤ _
    exact (add_le_add hle hasked).trans hless

/-- Fewer commitments of every worker. -/
theorem NotOverbooked.of_subset (h : NotOverbooked dir db now) (hminutes : MinutesChecked db.holds)
    (hworkers : db'.workers = db.workers)
    (hsub : ∀ workerId, commitments db' now' workerId ⊆ commitments db now workerId) :
    NotOverbooked dir db' now' := by
  intro worker hworker
  rw [hworkers] at hworker
  exact (h worker hworker).of_subset (commitments_nodup db' now' worker.id) (hsub worker.id)
    (commitments_nonneg hminutes)

/-- A commitment that an accepting search has counted the others for. -/
theorem NotOverbooked.add (h : NotOverbooked dir db now) (hjobs : BookedJobs db)
    (hminutes : MinutesChecked db.holds) {worker : Worker} (hworker : worker ∈ db.workers.rows)
    {day : Day} {x : Commitment} {asked : Int}
    (hday : dayAt dir x.addressId x.window.start = some day)
    (haccepts : Accepts dir worker (loadOn db now worker.id day) day x.window asked)
    (hasked : x.minutes ≤ asked) (hpos : 0 ≤ x.minutes) (hstart : day.start ≤ x.window.start)
    (hstop : x.window.stop ≤ day.stop)
    (hone : (calendarOf dir worker).OneDay (commitments db now worker.id) day x.window)
    (hworkers : db'.workers = db.workers)
    (hown : commitments db' now worker.id ⊆ x :: commitments db now worker.id)
    (hothers : ∀ workerId, workerId ≠ worker.id →
      commitments db' now workerId ⊆ commitments db now workerId) :
    NotOverbooked dir db' now := by
  intro other hother
  rw [hworkers] at hother
  by_cases hsame : other.id = worker.id
  · have heq : other = worker := Table.eq_of_key hother hworker hsame
    subst heq
    refine (h other hother).add hday (haccepts.room hjobs hminutes hasked hstart hstop) hone
      (commitments_nodup db' now other.id) hown ?_
    intro c hc
    rcases List.mem_cons.mp hc with rfl | hc
    · exact hpos
    · exact commitments_nonneg hminutes c hc
  · exact (h other hother).of_subset (commitments_nodup db' now other.id) (hothers other.id hsame)
      (commitments_nonneg hminutes)

end Breero.Reservations
