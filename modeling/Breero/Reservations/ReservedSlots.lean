import Breero.Reservations.HoldStates
import Breero.Booking.PublicSearch

/-!
A slot that was held, requested, and is dispatched with nothing else changed.

* `Reservation` is a hold that was granted, and the booking that it was converted into;
* `usage_converted`: the converted hold counts in the day that the dispatch looks at;
* `reserved_slot_dispatched_iff`: the professional who was held is found and assigned iff the
  day has room for a second such visit beside the first one.
-/

namespace Breero.Reservations
open KeyedTable Transaction Bookings Dispatch

/-! ## The matcher's tests -/

/-- The jobs of a day that are not reserved for emergencies. -/
def ordinaryJobs (limit : CapacityLimit) : Int :=
  max (limit.maxJobs - limit.emergencyReservedJobs) 0

/-- The minutes of a day that are not reserved for emergencies. -/
def ordinaryMinutes (limit : CapacityLimit) : Int :=
  max (limit.maxMinutes - limit.emergencyReservedMinutes) 0

theorem ensureCapacity_isOk {limit : CapacityLimit} {used : CapacityUsage}
    {minutes overlapping : Int} :
    (ensureCapacity limit used minutes overlapping false).isOk ↔
      (0 < limit.maxJobs ∧ 0 < limit.maxMinutes ∧ 0 < limit.maxConcurrentJobs) ∧ 0 < minutes ∧
        used.jobCount + used.holdCount < ordinaryJobs limit ∧
        used.reservedMinutes + minutes ≤ ordinaryMinutes limit ∧
        overlapping < limit.maxConcurrentJobs := by
  rw [ensureCapacity_admits]
  exact Iff.rfl

/-- What a row of the matcher's query passes besides the schedule and the capacity. -/
structure Qualified (dir : Directory) (service : Service) (address : Address) (zone : Zone)
    (start stop : Instant) (vendor : Vendor) (worker : Worker) : Prop where
  sunday : ¬ (weekdayOf (zone.toLocal start) = 6 ∧ ¬ worker.sundayEmergencyEnabled)
  hours : withinHours dir service worker (zone.toLocal start) (zone.toLocal stop) = true
  credentials : credentialsValid dir vendor.id address.stateCode (dateOf (zone.toLocal start)) =
    true

section
variable {dir : Directory} {service : Service} {address : Address} {zone : Zone}
  {start stop : Instant} {emergency : Bool} {loads : Uuid → Day → Load} {vendor : Vendor}
  {worker : Worker}

theorem candidate_some_iff {found : ProviderCandidate} :
    candidate dir service address zone start stop emergency loads vendor worker = some found ↔
      Qualified dir service address zone start stop vendor worker ∧
      scheduleMatches dir worker.id (zone.toLocal start) (zone.toLocal stop) start stop emergency =
        true ∧
      ∃ current,
        ensureCapacity (limitOn dir vendor.id worker (dateOf (zone.toLocal start)))
          (usage (loads worker.id (dayOf zone start)) start stop).1
          (capacityMinutes dir service address vendor.id)
          (usage (loads worker.id (dayOf zone start)) start stop).2 emergency = .ok current ∧
        found = {
          providerId := vendor.id
          professionalId := worker.id
          score := candidateScore (dir.distance vendor.id address.id) current.remainingMinutes
            (limitOn dir vendor.id worker (dateOf (zone.toLocal start))).maxMinutes
          distanceMeters := dir.distance vendor.id address.id
          availableCapacityMinutes := current.remainingMinutes
          capacityMinutes := capacityMinutes dir service address vendor.id } := by
  simp only [candidate]
  constructor
  · intro h
    split at h
    · cases h
    next hsunday =>
    split at h
    · cases h
    next hhours =>
    split at h
    · cases h
    next hschedule =>
    split at h
    · cases h
    next hcredentials =>
    split at h
    · cases h
    next current hok =>
    exact ⟨⟨hsunday, not_not.mp hhours, not_not.mp hcredentials⟩, not_not.mp hschedule, current,
      hok, (Option.some.inj h).symm⟩
  · rintro ⟨⟨hsunday, hhours, hcredentials⟩, hschedule, current, hok, rfl⟩
    rw [if_neg hsunday, if_neg (not_not.mpr hhours), if_neg (not_not.mpr hschedule),
      if_neg (not_not.mpr hcredentials), hok]

end

/-! ## A hold that was granted -/

/-- The row of the matcher that a hold was granted for, as the hold records it. -/
structure HeldFor (dir : Directory) (db : Db) (hold : BookingCapacityHold) (service : Service)
    (address : Address) (zone : Zone) (vendor : Vendor) (worker : Worker) : Prop where
  serviceRow : dir.services.get? hold.serviceId = some service
  addressRow : dir.addresses.get? hold.addressId = some address
  timezone : address.timezoneName = hold.timezoneId
  zoneOf : dir.zones hold.timezoneId = some zone
  window : hold.slotStartUtc < hold.slotEndUtc
  row : (vendor, worker) ∈
    (db.workers.rows.filterMap (rowOf dir db service address none)).take 250
  provider : hold.providerCandidateId = vendor.id
  professional : hold.professionalCandidateId = worker.id
  minutes : hold.capacityMinutes = capacityMinutes dir service address vendor.id
  asked : 0 < hold.capacityMinutes
  qualified : Qualified dir service address zone hold.slotStartUtc hold.slotEndUtc vendor worker
  limits : 0 < (limitOn dir vendor.id worker (dateOf (zone.toLocal hold.slotStartUtc))).maxJobs ∧
    0 < (limitOn dir vendor.id worker (dateOf (zone.toLocal hold.slotStartUtc))).maxMinutes ∧
    0 < (limitOn dir vendor.id worker (dateOf (zone.toLocal hold.slotStartUtc))).maxConcurrentJobs

section
variable {settings : Settings} {dir : Directory} {db db' : Db} {hold : BookingCapacityHold}

/-- The hold of an earlier call is in the table already. -/
theorem prepareHold_stored {loads : Uuid → Day → Load} {request : HoldRequest}
    (h : prepareHold settings dir db loads request = .ok (.inl hold)) :
    hold ∈ db.holds.rows := by
  simp only [prepareHold, seq_committed] at h
  obtain ⟨_, _, h⟩ := h
  split at h
  · next found hfind =>
    simp only [seq_committed, require_committed, return_committed, Sum.inl.injEq] at h
    obtain ⟨_, _, rfl⟩ := h
    exact List.mem_of_find?_eq_some hfind
  · simp only [seq_committed, return_committed, reduceCtorEq, and_false, exists_false] at h

/-- The row that is chosen for a new hold is one of the first search. -/
theorem prepareHold_heldFor {loads : Uuid → Day → Load} {request : HoldRequest}
    {attempt : HoldAttempt} (h : prepareHold settings dir db loads request = .ok (.inr attempt))
    (now : Instant) (holdId : Uuid) :
    ∃ service address zone vendor worker,
      HeldFor dir db (newHold attempt now holdId) service address zone vendor worker := by
  simp only [prepareHold, seq_committed] at h
  obtain ⟨_, _, h⟩ := h
  split at h
  · simp only [seq_committed, return_committed, reduceCtorEq, and_false, exists_false] at h
  simp only [seq_committed, orRaise_committed, return_committed, Sum.inr.injEq, Prod.exists] at h
  obtain ⟨_, _, htarget, interval, hinterval, found, hfound, chosen, hchosen, rfl⟩ := h
  simp only [holdTarget, seq_committed, orRaise_committed, require_committed, return_committed,
    Prod.mk.injEq] at htarget
  obtain ⟨service, hservice, _, _, _, _, address, haddress, _, _, _, htimezone, rfl, rfl⟩ :=
    htarget
  simp only [holdInterval, seq_committed] at hinterval
  obtain ⟨_, _, hinterval⟩ := hinterval
  obtain ⟨_, _, hwindow, hzoneId⟩ := localInterval_ok hinterval
  have hzoned := hfound
  simp only [candidates, timezone, seq_committed, orRaise_committed] at hzoned
  obtain ⟨zone, hzone, _⟩ := hzoned
  rw [candidates_eq hzone, Except.ok.injEq] at hfound
  have hmem := List.mem_of_mem_head? hchosen
  rw [← hfound, List.mem_insertionSort] at hmem
  obtain ⟨⟨vendor, worker⟩, hrow, hcandidate⟩ := List.mem_filterMap.mp hmem
  obtain ⟨hqualified, _, current, hcapacity, rfl⟩ := candidate_some_iff.mp hcandidate
  simp only [ensureCapacity, snapshot, seq_committed, require_committed] at hcapacity
  obtain ⟨_, ⟨_, hpositive, _⟩, _, hasked, _⟩ := hcapacity
  have hsameZone : interval.timezoneId = address.timezoneName := hzoneId.trans htimezone
  exact ⟨service, address, zone, vendor, worker, {
    serviceRow := Table.get?_found hservice
    addressRow := Table.get?_found haddress
    timezone := hsameZone.symm
    zoneOf := (congrArg dir.zones hsameZone).trans hzone
    window := hwindow
    row := hrow
    provider := rfl
    professional := rfl
    minutes := rfl
    asked := hasked
    qualified := hqualified
    limits := hpositive }⟩

/-- A granted hold is held for a row of the matcher, and is the last row of its table. -/
theorem createAt_new {request : HoldRequest} {now : Instant} {holdId : Uuid}
    (h : createAt settings dir db request now holdId = .ok (db', hold))
    (hnew : db.holds.get? hold.id = none) :
    (∃ service address zone vendor worker,
      HeldFor dir db hold service address zone vendor worker) ∧
      db.holds.insert? hold = some db'.holds ∧ hold.bookingId = none ∧
      db'.jobs = db.jobs ∧ db'.bookings = db.bookings ∧ db'.workers = db.workers ∧
      db'.vendors = db.vendors := by
  simp only [createAt, seq_committed] at h
  obtain ⟨existing | attempt, hprepare, h⟩ := h
  · simp only [return_committed, Prod.mk.injEq] at h
    obtain ⟨_, rfl⟩ := h
    exact absurd rfl (Table.get?_eq_none.mp hnew existing (prepareHold_stored hprepare))
  · simp only [seq_committed] at h
    obtain ⟨_, _, hgrant⟩ := h
    obtain ⟨rfl, holds, auditLogs, hinsert, _, rfl⟩ := grantHold_ok hgrant
    exact ⟨prepareHold_heldFor hprepare now holdId, hinsert, rfl, rfl, rfl, rfl, rfl⟩

end

/-! ## The day of a converted hold -/

/-- No booking, hold, job or professional has changed. -/
structure Undisturbed (db db' : Db) : Prop where
  bookings : db'.bookings = db.bookings
  holds : db'.holds = db.holds
  jobs : db'.jobs = db.jobs
  workers : db'.workers = db.workers
  vendors : db'.vendors = db.vendors

/-- The rows of a booking that a hold was converted into, before any job is made of it. -/
structure Converted (db db' : Db) (hold : BookingCapacityHold) (booking : Booking) : Prop where
  bookings : db.bookings.insert? booking = some db'.bookings
  live : liveBookingStatus booking.status = true
  holds : ∃ convertedAt, db'.holds.rows = db.holds.rows ++
    [{ hold with bookingId := some booking.id, status := .converted, convertedAt }]
  jobs : db'.jobs = db.jobs
  workers : db'.workers = db.workers
  vendors : db'.vendors = db.vendors

/-- No row names a booking that is not there yet. -/
structure Unnamed (db : Db) (bookingId : Uuid) : Prop where
  holds : ∀ hold ∈ db.holds.rows, hold.bookingId ≠ some bookingId
  jobs : ∀ job ∈ db.jobs.rows, job.bookingId ≠ bookingId

/-- How often a hold counts in the day: once, if it touches the day. -/
def share (day : Day) (hold : BookingCapacityHold) : Int :=
  if day.touches hold.slotStartUtc hold.slotEndUtc then 1 else 0

section
variable {dir : Directory} {db db' : Db} {hold : BookingCapacityHold} {booking : Booking}

/-- The other holds count as they did. -/
theorem liveHold_converted (h : Converted db db' hold booking) (hnew : Unnamed db booking.id)
    {now : Instant} {worker : Uuid} {other : BookingCapacityHold} (hother : other ∈ db.holds.rows) :
    liveHold db' now worker other = liveHold db now worker other := by
  have hbooking : other.bookingId.bind db'.bookings.get? =
      other.bookingId.bind db.bookings.get? := by
    cases hof : other.bookingId with
    | none => rfl
    | some id =>
      have hne : id ≠ booking.id := fun heq => hnew.holds other hother (heq ▸ hof)
      exact Table.get?_insert_ne h.bookings (Ne.symm hne)
  have hjob : db'.jobOfBooking = db.jobOfBooking := by
    funext id
    simp only [Db.jobOfBooking, h.jobs]
  simp only [liveHold, hbooking, hjob]

/-- The dispatch counts the converted hold beside what was there. -/
theorem usage_converted (h : Converted db db' hold booking) (hnew : Unnamed db booking.id)
    (hwindow : hold.slotStartUtc < hold.slotEndUtc) (now : Instant) (day : Day) :
    let used := usage (loadOn db now hold.professionalCandidateId day) hold.slotStartUtc
      hold.slotEndUtc
    let used' := usage (loadOn db' now hold.professionalCandidateId day) hold.slotStartUtc
      hold.slotEndUtc
    used'.1.jobCount + used'.1.holdCount = used.1.jobCount + used.1.holdCount + share day hold ∧
      used'.1.reservedMinutes = used.1.reservedMinutes + share day hold * hold.capacityMinutes ∧
      used'.2 = used.2 + share day hold := by
  obtain ⟨convertedAt, hrows⟩ := h.holds
  have hlive : liveHold db' now hold.professionalCandidateId
      { hold with bookingId := some booking.id, status := .converted, convertedAt } = true := by
    have hbooking := Table.get?_insert_self h.bookings
    have hjob : db'.jobOfBooking booking.id = none := by
      refine List.find?_eq_none.mpr fun job hjob => ?_
      rw [h.jobs] at hjob
      simpa using hnew.jobs job hjob
    have hfound : db'.bookings.get? booking.id = some booking := hbooking
    simp [liveHold, hfound, hjob, h.live]
  have hjobs : jobsOn db' hold.professionalCandidateId day =
      jobsOn db hold.professionalCandidateId day := by
    simp only [jobsOn, h.jobs]
  have hothers : (db.holds.rows.filter fun other =>
      liveHold db' now hold.professionalCandidateId other &&
        day.touches other.slotStartUtc other.slotEndUtc) =
      holdsOn db now hold.professionalCandidateId day :=
    List.filter_congr fun other hother => by rw [liveHold_converted h hnew hother]
  have hoverlap : overlaps hold.slotStartUtc hold.slotEndUtc hold.slotStartUtc
      hold.slotEndUtc = true := by
    simp [overlaps, hwindow]
  simp only [usage, loadOn, hjobs, holdsOn, hrows, List.filter_append, hothers,
    CapacityUsage.reservedMinutes, share]
  by_cases htouches : day.touches hold.slotStartUtc hold.slotEndUtc
  · simp [hlive, htouches, hoverlap]
    omega
  · simp [htouches]

end

/-! ## Searching for the professional again -/

/-- A day has room for `share` visits of `minutes` and for one more, without the reserve for
emergencies. -/
structure RoomBeside (limit : CapacityLimit) (used : CapacityUsage × Int) (share minutes : Int) :
    Prop where
  jobs : used.1.jobCount + used.1.holdCount + share < ordinaryJobs limit
  minutes : used.1.reservedMinutes + share * minutes + minutes ≤ ordinaryMinutes limit
  atOnce : used.2 + share < limit.maxConcurrentJobs

/-- The professional works at the time of the hold, not for emergencies only, and beside the
held visit the day has room for a second one. `db` is from before the hold. -/
def LeavesRoom (dir : Directory) (db : Db) (now : Instant) (hold : BookingCapacityHold) : Prop :=
  ∃ worker ∈ db.workers.get? hold.professionalCandidateId,
    ∃ zone ∈ dir.zones hold.timezoneId,
      scheduleMatches dir worker.id (zone.toLocal hold.slotStartUtc)
        (zone.toLocal hold.slotEndUtc) hold.slotStartUtc hold.slotEndUtc false = true ∧
      RoomBeside
        (limitOn dir hold.providerCandidateId worker (dateOf (zone.toLocal hold.slotStartUtc)))
        (usage (loadOn db now worker.id (dayOf zone hold.slotStartUtc)) hold.slotStartUtc
          hold.slotEndUtc)
        (share (dayOf zone hold.slotStartUtc) hold) hold.capacityMinutes

/-- `AdminDispatchService.candidates` finds the professional. -/
def Finds (dir : Directory) (db : Db) (now : Instant) (booking : Booking)
    (professionalId : Uuid) : Prop :=
  ∃ found, bookingCandidates dir db booking (loadOn db now) = .ok found ∧
    ∃ item ∈ found, item.professionalId = professionalId

section
variable {dir : Directory} {db db' : Db} {hold : BookingCapacityHold} {booking : Booking}
  {service : Service} {address : Address} {zone : Zone} {vendor : Vendor} {worker : Worker}

theorem HeldFor.workerRow (h : HeldFor dir db hold service address zone vendor worker) :
    worker ∈ db.workers.rows ∧
      rowOf dir db service address none worker = some (vendor, worker) := by
  obtain ⟨other, hother, hrow⟩ := List.mem_filterMap.mp (List.mem_of_mem_take h.row)
  obtain ⟨hsame, _⟩ := rowOf_worker hrow
  cases hsame
  exact ⟨hother, hrow⟩

/-- Of all rows only the chosen one is about its worker. -/
theorem HeldFor.only (h : HeldFor dir db hold service address zone vendor worker)
    {row : Vendor × Worker}
    (hrow : row ∈ (db.workers.rows.filterMap (rowOf dir db service address none)).take 250)
    (hid : row.2.id = worker.id) : row = (vendor, worker) := by
  obtain ⟨other, hother, hrow⟩ := List.mem_filterMap.mp (List.mem_of_mem_take hrow)
  obtain ⟨rfl, _⟩ := rowOf_worker hrow
  obtain ⟨hworker, hchosen⟩ := h.workerRow
  have hsame : row.2 = worker := Table.eq_of_key hother hworker hid
  rw [hsame, hchosen] at hrow
  exact (Option.some.inj hrow).symm

theorem finds_iff (h : HeldFor dir db hold service address zone vendor worker)
    (hconverted : Converted db db' hold booking) (hnew : Unnamed db booking.id)
    (haddress : booking.addressId = hold.addressId) (hservice : booking.serviceId = hold.serviceId)
    (hstart : booking.windowStart = hold.slotStartUtc) (hstop : booking.windowEnd = hold.slotEndUtc)
    (now : Instant) :
    Finds dir db' now booking hold.professionalCandidateId ↔ LeavesRoom dir db now hold := by
  obtain ⟨hjobs, hminutes, hatOnce⟩ :=
    usage_converted hconverted hnew h.window now (dayOf zone hold.slotStartUtc)
  have hzone : dir.zones address.timezoneName = some zone := h.timezone ▸ h.zoneOf
  have hrows : db'.workers.rows.filterMap (rowOf dir db' service address none) =
      db.workers.rows.filterMap (rowOf dir db service address none) := by
    have hrow : rowOf dir db' service address none = rowOf dir db service address none := by
      funext worker
      simp only [rowOf, hconverted.vendors]
    rw [hconverted.workers, hrow]
  have hsearch : ∀ found, bookingCandidates dir db' booking (loadOn db' now) = .ok found ↔
      found = (((db.workers.rows.filterMap (rowOf dir db service address none)).take 250
        ).filterMap fun row => candidate dir service address zone hold.slotStartUtc
          hold.slotEndUtc false (loadOn db' now) row.1 row.2).insertionSort candidateBefore := by
    intro found
    simp only [bookingCandidates, haddress, hservice, hstart, hstop, h.addressRow, h.serviceRow,
      seq_committed, orRaise_committed, Option.some.injEq, exists_eq_left', candidates_eq hzone,
      hrows, Except.ok.injEq]
    exact eq_comm
  have hworker : db.workers.get? hold.professionalCandidateId = some worker :=
    h.professional ▸ Table.get?_key h.workerRow.1
  constructor
  · rintro ⟨found, hfound, item, hitem, hid⟩
    rw [(hsearch found).mp hfound, List.mem_insertionSort] at hitem
    obtain ⟨row, hrow, hcandidate⟩ := List.mem_filterMap.mp hitem
    obtain ⟨_, hschedule, current, hcapacity, rfl⟩ := candidate_some_iff.mp hcandidate
    obtain rfl := h.only hrow (hid.trans h.professional)
    obtain ⟨_, _, hroom, hlong, honce⟩ := ensureCapacity_isOk.mp (isOk_of_eq hcapacity)
    refine ⟨worker, hworker, zone, h.zoneOf, hschedule, ?_⟩
    rw [h.provider, h.minutes]
    rw [h.professional, h.minutes] at hminutes
    rw [h.professional] at hjobs hatOnce
    exact ⟨hjobs ▸ hroom, hminutes ▸ hlong, hatOnce ▸ honce⟩
  · rintro ⟨worker', hworker', zone', hzone', hschedule, hroom⟩
    obtain rfl : worker = worker' := Option.some.inj (hworker.symm.trans hworker')
    obtain rfl : zone = zone' := Option.some.inj (h.zoneOf.symm.trans hzone')
    rw [h.provider, h.minutes] at hroom
    rw [h.professional, h.minutes] at hminutes
    rw [h.professional] at hjobs hatOnce
    have hasked : 0 < capacityMinutes dir service address vendor.id := h.minutes ▸ h.asked
    have hok : (ensureCapacity
        (limitOn dir vendor.id worker (dateOf (zone.toLocal hold.slotStartUtc)))
        (usage (loadOn db' now worker.id (dayOf zone hold.slotStartUtc)) hold.slotStartUtc
          hold.slotEndUtc).1
        (capacityMinutes dir service address vendor.id)
        (usage (loadOn db' now worker.id (dayOf zone hold.slotStartUtc)) hold.slotStartUtc
          hold.slotEndUtc).2 false).isOk :=
      ensureCapacity_isOk.mpr ⟨h.limits, hasked, hjobs ▸ hroom.jobs, hminutes ▸ hroom.minutes,
        hatOnce ▸ hroom.atOnce⟩
    obtain ⟨current, hcapacity⟩ := isOk_iff.mp hok
    obtain ⟨item, hitem, hid⟩ : ∃ item, candidate dir service address zone hold.slotStartUtc
        hold.slotEndUtc false (loadOn db' now) vendor worker = some item ∧
          item.professionalId = worker.id :=
      ⟨_, candidate_some_iff.mpr ⟨h.qualified, hschedule, current, hcapacity, rfl⟩, rfl⟩
    refine ⟨_, (hsearch _).mpr rfl, item, ?_, hid.trans h.professional.symm⟩
    rw [List.mem_insertionSort]
    exact List.mem_filterMap.mpr ⟨(vendor, worker), h.row, hitem⟩

end

/-! ## The law -/

/-- A hold that was granted, and the booking that it was converted into, with nothing else of
the bookings, the holds, the jobs and the professionals changed until the dispatch. -/
structure Reservation (settings : Settings) (dir : Directory) where
  before : Db
  holdRequest : HoldRequest
  grantedAt : Instant
  holdId : Uuid
  held : Db
  hold : BookingCapacityHold
  granted : createAt settings dir before holdRequest grantedAt holdId = .ok (held, hold)
  new : before.holds.get? hold.id = none
  atRequest : Db
  waited : Undisturbed held atRequest
  request : BookingRequestCreate
  requestedAt : Instant
  authenticatedUser : Option Uuid
  subject : Except Raised (Option String)
  ids : RequestIds
  booked : Db
  booking : Booking
  begun : beginRequest settings atRequest request requestedAt = .ok (.inr hold)
  requested : finishRequest settings dir atRequest request hold requestedAt authenticatedUser
    subject ids = .ok (booked, booking)
  unnamed : Unnamed before booking.id
  atDispatch : Db
  undisturbed : Undisturbed booked atDispatch

/-- An assignment of the booking to the professional who was held. The ids that it draws are
not in the tables. -/
structure Assigning {settings : Settings} {dir : Directory} (r : Reservation settings dir) where
  actorId : Uuid
  reason : String
  reassign : Bool := false
  assignmentMethod : AssignmentMethod := .manual
  now : Instant
  jobId : Uuid
  assignmentId : Uuid
  freshJob : r.atDispatch.jobs.get? jobId = none
  unassigned : ∀ a ∈ r.atDispatch.assignments.rows, a.jobId ≠ jobId
  freshAssignment : r.atDispatch.assignments.get? assignmentId = none

section
variable {settings : Settings} {dir : Directory} {r : Reservation settings dir}

def Assigning.request (d : Assigning r) : AssignRequest := {
  bookingId := r.booking.id
  professionalId := r.hold.professionalCandidateId
  actorId := d.actorId
  reason := d.reason
  reassign := d.reassign
  assignmentMethod := d.assignmentMethod }

theorem Undisturbed.converted {db db1 db2 : Db} {hold : BookingCapacityHold} {booking : Booking}
    (h : Converted db db1 hold booking) (h' : Undisturbed db1 db2) :
    Converted db db2 hold booking where
  bookings := h'.bookings ▸ h.bookings
  live := h.live
  holds := h'.holds ▸ h.holds
  jobs := h'.jobs.trans h.jobs
  workers := h'.workers.trans h.workers
  vendors := h'.vendors.trans h.vendors

theorem Reservation.converted (r : Reservation settings dir) :
    Converted r.before r.atDispatch r.hold r.booking := by
  obtain ⟨_, hinsert, _, hjobs, hbookings, hworkers, hvendors⟩ := createAt_new r.granted r.new
  obtain ⟨hvendors', hworkers', hjobs', ⟨customerId, currency, hbooking⟩, hinsert', hholds⟩ :=
    finishRequest_ok r.requested
  refine Undisturbed.converted ⟨?_, ?_, ?_, ?_, ?_, ?_⟩ r.undisturbed
  · rw [← hbookings, ← r.waited.bookings]
    exact hinsert'
  · rw [hbooking]
    rfl
  · refine ⟨some r.requestedAt, ?_⟩
    rw [hholds, r.waited.holds]
    exact Table.put_last (Table.insert?_eq_some.mp hinsert).2 rfl
  · rw [hjobs', r.waited.jobs, hjobs]
  · rw [hworkers', r.waited.workers, hworkers]
  · rw [hvendors', r.waited.vendors, hvendors]

theorem Reservation.finds_iff (r : Reservation settings dir) (now : Instant) :
    Finds dir r.atDispatch now r.booking r.hold.professionalCandidateId ↔
      LeavesRoom dir r.before now r.hold := by
  obtain ⟨⟨service, address, zone, vendor, worker, hchosen⟩, _⟩ := createAt_new r.granted r.new
  obtain ⟨_, _, _, ⟨customerId, currency, hbooking⟩, _⟩ := finishRequest_ok r.requested
  refine Reservations.finds_iff hchosen r.converted r.unnamed ?_ ?_ ?_ ?_ now <;>
    rw [hbooking] <;> rfl

/-- Once the professional is found, nothing keeps the assignment from being written. -/
theorem Assigning.written (d : Assigning r) (candidate : ProviderCandidate) :
    (assignTo r.atDispatch r.booking candidate d.request d.now d.jobId d.assignmentId).isOk := by
  obtain ⟨⟨service, address, zone, vendor, worker, hchosen⟩, _⟩ := createAt_new r.granted r.new
  have hworker : r.atDispatch.workers.get? d.request.professionalId = some worker := by
    show r.atDispatch.workers.get? r.hold.professionalCandidateId = some worker
    rw [r.converted.workers, hchosen.professional]
    exact Table.get?_key hchosen.workerRow.1
  have hfirst : ∀ other ∈ r.atDispatch.jobs.rows, other.bookingId ≠ r.booking.id := by
    rw [r.converted.jobs]
    exact r.unnamed.jobs
  have hjobless : r.atDispatch.jobOfBooking r.booking.id = none :=
    List.find?_eq_none.mpr fun other hother hof => hfirst other hother (of_decide_eq_true hof)
  obtain ⟨jobs, hjobs⟩ :=
    Table.insert?_fresh (a := newJob r.booking worker.vendorId worker.id d.jobId) d.freshJob
  let made : Assignment := {
    id := d.assignmentId, jobId := d.jobId, vendorId := worker.vendorId, workerId := worker.id
    status := .active, assignedBy := some d.actorId }
  obtain ⟨assignments, hassignments⟩ := Table.insert?_fresh (a := made) d.freshAssignment
  have hjob : assignedJob r.atDispatch r.booking worker d.now d.jobId =
      .ok ({ r.atDispatch with jobs }, newJob r.booking worker.vendorId worker.id d.jobId) := by
    simp only [assignedJob, hjobless, Db.addJob, seq_committed, require_committed,
      orRaise_committed, return_committed]
    exact ⟨_, ⟨(), hfirst, jobs, hjobs, rfl⟩, rfl⟩
  have hassignment : ({ r.atDispatch with jobs } : Db).addAssignment made =
      .ok { r.atDispatch with jobs, assignments } := by
    simp only [Db.addAssignment, seq_committed, require_committed, orRaise_committed,
      return_committed]
    exact ⟨(), fun other hother _ => d.unassigned other hother, assignments, hassignments, rfl⟩
  simp only [assignTo, seq_isOk, orRaise_committed]
  exact ⟨worker, hworker, _, hjob, _, hassignment, rfl⟩

/-- The professional who was held is found and assigned iff the day leaves room for a second
such visit. -/
theorem reserved_slot_dispatched_iff (r : Reservation settings dir) (d : Assigning r) :
    Finds dir r.atDispatch d.now r.booking r.hold.professionalCandidateId ∧
        (assign settings dir r.atDispatch d.request d.now d.jobId d.assignmentId).isOk ↔
      (methodPermitted settings d.assignmentMethod).isOk ∧
        LeavesRoom dir r.before d.now r.hold := by
  have hbooking : r.atDispatch.bookings.get? d.request.bookingId = some r.booking :=
    Table.get?_insert_self r.converted.bookings
  have hassignable : r.booking.status ∈ assignable := by
    obtain ⟨_, _, _, ⟨customerId, currency, hbooking⟩, _⟩ := finishRequest_ok r.requested
    rw [hbooking]
    show BookingStatus.pendingManualDispatch ∈ assignable
    decide
  rw [← r.finds_iff d.now]
  constructor
  · rintro ⟨hfinds, hok⟩
    obtain ⟨booking, hbegin, _⟩ := seq_isOk.mp hok
    obtain ⟨_, hpermitted, _⟩ := (seq_committed _ _ _).mp hbegin
    exact ⟨isOk_of_eq hpermitted, hfinds⟩
  · rintro ⟨hpermitted, found, hfound, item, hitem, hid⟩
    refine ⟨⟨found, hfound, item, hitem, hid⟩, ?_⟩
    obtain ⟨_, hpermitted⟩ := isOk_iff.mp hpermitted
    have hbegin : beginAssign settings dir r.atDispatch (loadOn r.atDispatch d.now) d.request =
        .ok r.booking := by
      simp only [beginAssign, seq_committed, orRaise_committed, require_committed,
        return_committed]
      exact ⟨(), hpermitted, r.booking, hbooking, (), hassignable, found, hfound, (),
        ⟨item, hitem, hid⟩, rfl⟩
    -- nothing is committed between the two searches
    obtain ⟨candidate, hcandidate⟩ : ∃ candidate, (found.find? fun item =>
        item.professionalId = d.request.professionalId) = some candidate :=
      Option.isSome_iff_exists.mp (List.find?_isSome.mpr ⟨item, hitem, decide_eq_true hid⟩)
    have hrecheck : recheckAssign dir r.atDispatch r.booking d.request.professionalId
        (loadOn r.atDispatch d.now) = .ok candidate := by
      simp only [recheckAssign, seq_committed, orRaise_committed]
      exact ⟨found, hfound, hcandidate⟩
    exact seq_isOk.mpr ⟨_, hbegin, seq_isOk.mpr ⟨_, hrecheck, d.written candidate⟩⟩

end

/-! ### One visit at a time -/

/-- The hour from twelve on. -/
def noonRequest : HoldRequest := {
  serviceId := 3, addressId := 4, startLocal := ofMinutes 720, timezoneId := "UTC"
  bookingSession := "customer-session-1", idempotencyKey := "hold-2" }

def noonHold : BookingCapacityHold := {
  id := 60, serviceId := 3, addressId := 4, providerCandidateId := 5
  professionalCandidateId := 6, slotStartUtc := ofMinutes 720, slotEndUtc := ofMinutes 780
  timezoneId := "UTC", capacityMinutes := 60, status := .held, expiresAt := holdDuration
  ownerFingerprintHash := "customer-session-1", idempotencyKey := "hold-2" }

def noonHeld : Db := { visitDb with
  holds := ⟨visitDb.holds.rows ++ [noonHold], by decide⟩
  auditLogs := [holdAudit noonHold "capacity_hold.created" 0] }

def noonBooking : Booking :=
  requestedBooking visitSettings noonHold 1 "USD" 0 12 "BR-12"

def noonBooked : Db :=
  { noonHeld with
    bookings := ⟨[visitBooking, noonBooking], by decide⟩
    holds := noonHeld.holds.put { noonHold with
      bookingId := some 12, status := .converted, convertedAt := some 0 } }.audit {
    actorId := some 9
    actorType := "customer"
    action := "booking.requested"
    resourceType := "booking"
    resourceId := 12
    metadata := [
      ("status", .str "PENDING_MANUAL_DISPATCH"), ("timezone_id", .str "UTC"),
      ("account_created", .bool false)]
    createdAt := 0 }

/-- The professional 6 has no capacity rule, and takes one visit at a time. -/
def noonReservation : Reservation visitSettings heldDirectory where
  before := visitDb
  holdRequest := noonRequest
  grantedAt := 0
  holdId := 60
  held := noonHeld
  hold := noonHold
  granted := by rfl
  new := by decide
  atRequest := noonHeld
  waited := ⟨rfl, rfl, rfl, rfl, rfl⟩
  request := { heldRequest with holdId := 60 }
  requestedAt := 0
  authenticatedUser := some 9
  subject := .ok none
  ids := { userId := 10, customerId := 11, bookingId := 12, reference := "BR-12" }
  booked := noonBooked
  booking := noonBooking
  begun := by rfl
  requested := by rfl
  unnamed := ⟨by decide, by decide⟩
  atDispatch := noonBooked
  undisturbed := ⟨rfl, rfl, rfl, rfl, rfl⟩

def noonAssigning : Assigning noonReservation where
  actorId := 8
  reason := "reserved"
  now := 0
  jobId := 20
  assignmentId := 21
  freshJob := by decide
  unassigned := by decide
  freshAssignment := by decide

/-- The dispatch counts the hold of the booking itself as the one visit. -/
theorem reserved_slot_not_dispatched :
    (methodPermitted visitSettings noonAssigning.assignmentMethod).isOk ∧
      ¬ (Finds heldDirectory noonReservation.atDispatch noonAssigning.now noonReservation.booking
          noonReservation.hold.professionalCandidateId ∧
        (assign visitSettings heldDirectory noonReservation.atDispatch noonAssigning.request
          noonAssigning.now noonAssigning.jobId noonAssigning.assignmentId).isOk) := by
  refine ⟨by decide, fun h => absurd h.2 ?_⟩
  decide

/-- With two visits at a time, the same booking is assigned. -/
example : (assign visitSettings { heldDirectory with
    capacityRules := [{
      providerId := 5, maxJobsDaily := 6, maxMinutesDaily := 480, maxConcurrentJobs := 2
      effectiveFrom := 0, bounds := by decide }] }
    noonBooked noonAssigning.request 0 20 21).isOk := by
  decide

end Breero.Reservations
