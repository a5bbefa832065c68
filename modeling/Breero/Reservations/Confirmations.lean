import Breero.Lib.Locks
import Breero.Lib.Windows
import Breero.Reservations.System
import Breero.Dispatch.Writes

/-!
Confirmations of an operator, interleaved.

A confirmation has locked its booking and the slot of the worker when it counts the jobs
that overlap. It is open from then on until it commits, and others commit in between.

* `Confirming.exec` is what a step does; the hours that a job was confirmed against are
  recorded with it;
* `OpenConfirm.Counts` says that the query of the check leaves no job out, and
  `OpenConfirm.Latest` that no job has come since;
* `Confirming.capacity_respected`: the active jobs of a worker stay within the hours that
  admitted them in every run of such confirmations;
* `Confirming.second_job_not_counted` is a run with another one: the jobs of a worker are not
  counted for a booking without a job.
-/

namespace Breero.Reservations
open KeyedTable Transaction Runs Windows Locks Bookings Dispatch

/-- The hours of the worker that `_qualified_worker` reads for the booking. -/
def hoursFor (dir : Directory) (booking : Booking) (workerId : Uuid) :
    Option ProviderWorkingHours :=
  (dir.addresses.get? booking.addressId).bind fun address =>
    (dir.zones address.timezoneName).bind fun zone =>
      dir.workingHours.get? (workerId, weekdayOf (zone.toLocal booking.windowStart))

/-! ## The system -/

/-- What `confirm` was called with, the rows it has read, and the jobs among which it has
counted. -/
structure OpenConfirm where
  booking : Booking
  worker : Worker
  vendor : Vendor
  actorId : Uuid
  reason : String
  now : Instant
  counted : Db

def OpenConfirm.locks (opened : OpenConfirm) : List Lock :=
  [.bookingRow opened.booking.id,
   .providerSlot opened.worker.id opened.booking.windowStart]

/-- A job that was confirmed, and the hours that it was confirmed against. -/
structure Admission where
  jobId : Uuid
  hours : ProviderWorkingHours
  deriving DecidableEq, Repr

structure Confirming where
  db : Db
  confirms : List OpenConfirm := []
  admitted : List Admission := []

namespace Confirming

inductive Op
  /-- `confirm` up to its last check -/
  | check (bookingId workerId actorId : Uuid) (reason : String) (now : Instant)
  /-- the open confirmation at the position commits, or raises -/
  | finish (position : Nat) (jobId assignmentId : Uuid)

/-- What the open confirmation commits. -/
def result (w : Confirming) (opened : OpenConfirm) (jobId assignmentId : Uuid) :
    Except Raised (Db × Job) :=
  finishConfirm w.db opened.booking opened.worker opened.vendor opened.actorId opened.reason
    opened.now jobId assignmentId

/-- The admissions with the one of the job that was confirmed. -/
def admittedBy (w : Confirming) (dir : Directory) (opened : OpenConfirm) (job : Job) :
    List Admission :=
  w.admitted ++ ((hoursFor dir opened.booking opened.worker.id).map fun hours =>
    { jobId := job.id, hours : Admission }).toList

def exec (dir : Directory) (w : Confirming) : Op → Confirming
  | .check bookingId workerId actorId reason now =>
    match beginConfirm dir w.db bookingId workerId now with
    | .ok (booking, worker, vendor) =>
      let opened : OpenConfirm :=
        { booking, worker, vendor, actorId, reason, now, counted := w.db }
      if Free OpenConfirm.locks w.confirms opened.locks then
        { w with confirms := w.confirms ++ [opened] }
      else w
    | .error _ => w
  | .finish position jobId assignmentId =>
    match w.confirms[position]? with
    | none => w
    | some opened =>
      let confirms := w.confirms.eraseIdx position
      match w.result opened jobId assignmentId with
      | .ok (db, job) => { db, confirms, admitted := w.admittedBy dir opened job }
      | .error _ => { w with confirms }

end Confirming

/-! ## The law -/

def jobWindow (job : Job) : Window Instant := ⟨job.scheduledStart, job.scheduledEnd⟩

def activeJobs (jobs : Table Job) (workerId : Uuid) : List Job :=
  jobs.rows.filter (liveJob workerId)

/-- While the job is on, its worker has no more active jobs than the hours allow. -/
def Admission.Kept (jobs : Table Job) (admission : Admission) : Prop :=
  ∀ job ∈ jobs.get? admission.jobId, ∀ workerId, liveJob workerId job = true →
    ∀ t, (jobWindow job).covers t = true →
      (depth jobWindow (activeJobs jobs workerId) t : Int) ≤ admission.hours.capacity

def CapacityRespected (w : Confirming) : Prop :=
  ∀ admission ∈ w.admitted, admission.Kept w.db.jobs

/-- The other active jobs of the worker that meet the window. -/
def otherJobs (jobs : Table Job) (workerId own : Uuid) (window : Window Instant) : Nat :=
  (activeJobs jobs workerId).countP fun job => job.id ≠ own && (jobWindow job).meets window

variable {jobs jobs' : Table Job} {workerId : Uuid} {job : Job} {t : Instant}

theorem liveJob_worker (h : liveJob workerId job = true) : job.workerId = some workerId := by
  simp only [liveJob, Bool.and_eq_true, decide_eq_true_eq] at h
  exact h.1

theorem activeJobs_nodup (jobs : Table Job) (workerId : Uuid) : (activeJobs jobs workerId).Nodup :=
  (List.Nodup.of_map key jobs.nodup).filter _

/-- What is on at an instant of a job are the job itself and others that meet it. -/
theorem depth_le_others (workerId : Uuid) (hmem : job ∈ jobs.rows)
    (ht : (jobWindow job).covers t = true) :
    depth jobWindow (activeJobs jobs workerId) t ≤
      otherJobs jobs workerId job.id (jobWindow job) + 1 := by
  have hseen : ∀ other ∈ activeJobs jobs workerId, (jobWindow other).covers t = true →
      other = job ∨ (other.id ≠ job.id && (jobWindow other).meets (jobWindow job)) = true := by
    intro other hother hcovers
    by_cases hid : other.id = job.id
    · exact Or.inl (Table.eq_of_key (List.mem_filter.mp hother).1 hmem hid)
    · have hmeets := Window.meets_of_covers hcovers ht
      right
      simp [hid, hmeets]
  exact countP_le_succ (activeJobs_nodup jobs workerId) hseen

theorem activeJobs_insert (workerId : Uuid) (h : jobs.insert? job = some jobs') :
    activeJobs jobs' workerId =
      activeJobs jobs workerId ++ (if liveJob workerId job then [job] else []) := by
  unfold activeJobs
  rw [(Table.insert?_eq_some.mp h).2, List.filter_append, List.filter_singleton]
  cases liveJob workerId job <;> rfl

/-- A new job is none of the others. -/
theorem otherJobs_insert (workerId : Uuid) (window : Window Instant)
    (h : jobs.insert? job = some jobs') :
    otherJobs jobs' workerId job.id window = otherJobs jobs workerId job.id window := by
  unfold otherJobs
  rw [activeJobs_insert workerId h, List.countP_append]
  split <;> simp

/-- A new job changes nothing at an instant at which it is not on. -/
theorem depth_insert (h : jobs.insert? job = some jobs')
    (hoff : liveJob workerId job = true → (jobWindow job).covers t = false) :
    depth jobWindow (activeJobs jobs' workerId) t =
      depth jobWindow (activeJobs jobs workerId) t := by
  unfold depth
  rw [activeJobs_insert workerId h, List.countP_append]
  split
  · next hlive => simp [hoff hlive]
  · rfl

/-- No other active job of a worker meets the job while it is that worker's. -/
def Alone (jobs : Table Job) (job : Job) : Prop :=
  ∀ workerId, liveJob workerId job = true →
    ∀ other ∈ activeJobs jobs workerId, (jobWindow other).meets (jobWindow job) = false

/-- A job that comes alone leaves the older ones their hours. -/
theorem Admission.Kept.insert {admission : Admission} {before : Job} (h : admission.Kept jobs)
    (hbefore : jobs.get? admission.jobId = some before) (halone : Alone jobs job)
    (hinsert : jobs.insert? job = some jobs') : admission.Kept jobs' := by
  intro other hother workerId hlive t ht
  have hkept : jobs'.get? admission.jobId = some before :=
    Table.get?_insert_of_some hinsert hbefore
  obtain rfl : before = other := Option.some.inj (hkept.symm.trans hother)
  -- the new job is not on while the older one is
  have hoff : liveJob workerId job = true → (jobWindow job).covers t = false := by
    intro hnew
    cases hon : (jobWindow job).covers t with
    | false => rfl
    | true =>
      have hmeets := Window.meets_of_covers ht hon
      have hactive := List.mem_filter.mpr ⟨Table.mem_of_get? hbefore, hlive⟩
      rw [halone workerId hnew before hactive] at hmeets
      cases hmeets
  rw [depth_insert hinsert hoff]
  exact h before hbefore workerId hlive t ht

/-- A job that comes alone is within any hours that take a visit. -/
theorem Admission.kept_alone {admission : Admission} (halone : Alone jobs job)
    (hinsert : jobs.insert? job = some jobs') (hid : admission.jobId = job.id)
    (hpos : 0 < admission.hours.capacity) : admission.Kept jobs' := by
  intro other hother workerId hlive t ht
  have hself : jobs'.get? admission.jobId = some job := hid ▸ Table.get?_insert_self hinsert
  obtain rfl : job = other := Option.some.inj (hself.symm.trans hother)
  have hmem : job ∈ jobs'.rows := (Table.mem_insert hinsert).mpr (Or.inr rfl)
  have hzero : otherJobs jobs' workerId job.id (jobWindow job) = 0 := by
    rw [otherJobs_insert _ _ hinsert]
    refine List.countP_eq_zero.mpr fun other hother => ?_
    simp [halone workerId hlive other hother]
  have hle := depth_le_others workerId hmem ht
  omega

instance (jobs : Table Job) (admission : Admission) : Decidable (admission.Kept jobs) :=
  decidable_of_iff
    (∀ job ∈ jobs.get? admission.jobId, ∀ workerId ∈ job.workerId, liveJob workerId job = true →
      ∀ other ∈ activeJobs jobs workerId, (jobWindow job).covers (jobWindow other).start = true →
        (depth jobWindow (activeJobs jobs workerId) (jobWindow other).start : Int) ≤
          admission.hours.capacity)
    (forall₂_congr fun job hjob => by
      have hactive : ∀ workerId, liveJob workerId job = true → job ∈ activeJobs jobs workerId :=
        fun workerId hlive => List.mem_filter.mpr ⟨Table.mem_of_get? hjob, hlive⟩
      constructor
      · intro h workerId hlive
        exact (depth_le_iff_starts (hactive workerId hlive)).mpr
          (h workerId (liveJob_worker hlive) hlive)
      · intro h workerId _ hlive
        exact (depth_le_iff_starts (hactive workerId hlive)).mp (h workerId hlive))

instance : DecidablePred CapacityRespected := fun w =>
  inferInstanceAs (Decidable (∀ admission ∈ w.admitted, _))

/-! ## What a confirmation checks and commits -/

/-- The hours of the checks, and the jobs that were counted. -/
theorem beginConfirm_ok {dir : Directory} {db : Db} {bookingId workerId : Uuid} {now : Instant}
    {booking : Booking} {worker : Worker} {vendor : Vendor}
    (h : beginConfirm dir db bookingId workerId now = .ok (booking, worker, vendor)) :
    ∃ hours, hoursFor dir booking worker.id = some hours ∧
      (overlappingJobs db booking worker.id : Int) < hours.capacity := by
  simp only [beginConfirm, qualifiedWorker, coveringHours, seq_committed, orRaise_committed,
    require_committed, return_committed, Prod.exists, Prod.mk.injEq] at h
  obtain ⟨_, _, _, _, _, _, ⟨_, _, address, haddress, _, _, _, _, zone, hzone, _, _, _, _,
    ⟨_, _, hours, hhours, _, _, rfl⟩, _, _, _, hcount, rfl, rfl⟩, rfl, rfl, rfl⟩ := h
  refine ⟨hours, ?_, not_le.mp hcount⟩
  rw [hoursFor, haddress, Option.bind_some, hzone, Option.bind_some]
  exact hhours

/-- The query counts the other jobs, of a booking that has one. -/
theorem overlappingJobs_own {db : Db} {booking : Booking} {own : Job} (workerId : Uuid)
    (h : db.jobOfBooking booking.id = some own) :
    overlappingJobs db booking workerId =
      otherJobs db.jobs workerId own.id ⟨booking.windowStart, booking.windowEnd⟩ := by
  simp only [overlappingJobs, h, otherJobs, activeJobs, List.countP_filter]
  refine List.countP_congr ?_
  intro job _
  have hmeets : (jobWindow job).meets ⟨booking.windowStart, booking.windowEnd⟩ = true ↔
      booking.windowStart < job.scheduledEnd ∧ job.scheduledStart < booking.windowEnd :=
    Window.meets_iff
  simp only [Bool.and_eq_true, decide_eq_true_eq, hmeets]
  tauto

/-- The job of a confirmation, the one that the booking has or a new one in its window, and
the booking, confirmed for the worker. -/
theorem finishConfirm_ok {db db' : Db} {booking : Booking} {worker : Worker} {vendor : Vendor}
    {actorId : Uuid} {reason : String} {now : Instant} {jobId assignmentId : Uuid} {job : Job}
    (h : finishConfirm db booking worker vendor actorId reason now jobId assignmentId =
      .ok (db', job)) :
    db'.bookings = db.bookings.put
        { booking with providerWorkerId := some worker.id, status := .confirmed } ∧
      ((db.jobOfBooking booking.id = some job ∧ job.workerId = some worker.id ∧
          db'.jobs = db.jobs) ∨
        (db.jobOfBooking booking.id = none ∧ db.jobs.insert? job = some db'.jobs ∧
          job.id = jobId ∧ job.bookingId = booking.id ∧ job.addressId = booking.addressId ∧
          liveJob worker.id job = true ∧
          jobWindow job = ⟨booking.windowStart, booking.windowEnd⟩)) := by
  simp only [finishConfirm, Db.addEvent, seq_committed, require_committed, return_committed,
    Prod.exists, Prod.mk.injEq] at h
  obtain ⟨db1, job', hjob, _, ⟨_, _, rfl⟩, rfl, rfl⟩ := h
  unfold confirmedJob at hjob
  split at hjob
  · next existing hof =>
    simp only [seq_committed, require_committed, return_committed, Prod.mk.injEq] at hjob
    obtain ⟨_, hworker, rfl, rfl⟩ := hjob
    exact ⟨rfl, Or.inl ⟨hof, hworker, rfl⟩⟩
  · next hof =>
    simp only [seq_committed, return_committed, Prod.mk.injEq] at hjob
    obtain ⟨_, hadded, db2, hadd, rfl, rfl⟩ := hjob
    obtain ⟨_, jobs, hinsert, rfl⟩ := Db.addJob_ok hadded
    obtain ⟨_, hjobs2, _, hbookings2⟩ := addAssignment_rest hadd
    refine ⟨congrArg (fun bookings => Table.put bookings _) hbookings2,
      Or.inr ⟨hof, hinsert.trans (congrArg some hjobs2.symm), rfl, rfl, rfl, ?_, rfl⟩⟩
    simp [liveJob]

/-! ## What is counted -/

/-- What is counted again is no more than what was counted, if each job was there. -/
theorem otherJobs_le {counted : Table Job} {own : Uuid} {inner outer : Window Instant}
    (hwithin : inner.within outer = true)
    (hthere : ∀ job ∈ activeJobs jobs workerId, (jobWindow job).meets outer = true →
      job ∈ counted.rows) :
    otherJobs jobs workerId own inner ≤ otherJobs counted workerId own outer := by
  refine countP_le_of_seen (activeJobs_nodup jobs workerId) ?_
  intro job hjob hother
  simp only [Bool.and_eq_true, decide_eq_true_eq] at hother ⊢
  have hmeets := Window.meets_of_within hwithin hother.2
  have hlive := (List.mem_filter.mp hjob).2
  exact ⟨List.mem_filter.mpr ⟨hthere job hjob hmeets, hlive⟩, hother.1, hmeets⟩

theorem jobOfBooking_insert_ne {db db' : Db} {bookingId : Uuid}
    (h : db.jobs.insert? job = some db'.jobs) (hother : job.bookingId ≠ bookingId) :
    db'.jobOfBooking bookingId = db.jobOfBooking bookingId := by
  unfold Db.jobOfBooking
  rw [(Table.insert?_eq_some.mp h).2, List.find?_append]
  simp [hother]

namespace OpenConfirm

def window (opened : OpenConfirm) : Window Instant :=
  ⟨opened.booking.windowStart, opened.booking.windowEnd⟩

/-- The query leaves out no other job: the booking has a job of its own, in its window, or
there is no job that the comparison with null leaves out. -/
def Counts (opened : OpenConfirm) : Prop :=
  (∀ own ∈ opened.counted.jobOfBooking opened.booking.id,
    liveJob opened.worker.id own = true → (jobWindow own).within opened.window = true) ∧
  (opened.counted.jobOfBooking opened.booking.id = none →
    ∀ job ∈ activeJobs opened.counted.jobs opened.worker.id,
      (jobWindow job).meets opened.window = false)

/-- No job of the worker that overlaps the booking has come since the jobs were counted. -/
def Latest (opened : OpenConfirm) (db : Db) : Prop :=
  ∀ job ∈ activeJobs db.jobs opened.worker.id, (jobWindow job).meets opened.window = true →
    job ∈ opened.counted.jobs.rows

instance (opened : OpenConfirm) : Decidable opened.Counts :=
  inferInstanceAs (Decidable (_ ∧ _))

instance (opened : OpenConfirm) (db : Db) : Decidable (opened.Latest db) :=
  inferInstanceAs (Decidable (∀ job ∈ _, _ → _))

/-- The hours had room for what was counted, and the job of the booking is as it was. -/
structure Checked (dir : Directory) (opened : OpenConfirm) (db : Db) : Prop where
  hours : ∃ hours, hoursFor dir opened.booking opened.worker.id = some hours ∧
    (overlappingJobs opened.counted opened.booking opened.worker.id : Int) < hours.capacity
  own : db.jobOfBooking opened.booking.id = opened.counted.jobOfBooking opened.booking.id

variable {dir : Directory} {opened : OpenConfirm} {db db' : Db} {hours : ProviderWorkingHours}

theorem Checked.insert (h : opened.Checked dir db) (hinsert : db.jobs.insert? job = some db'.jobs)
    (hother : job.bookingId ≠ opened.booking.id) : opened.Checked dir db' where
  hours := h.hours
  own := (jobOfBooking_insert_ne hinsert hother).trans h.own

theorem Checked.of_jobs (h : opened.Checked dir db) (hjobs : db'.jobs = db.jobs) :
    opened.Checked dir db' where
  hours := h.hours
  own := by
    rw [← h.own, Db.jobOfBooking, Db.jobOfBooking, hjobs]

/-- The job that the booking has still has room. -/
theorem Checked.room (h : opened.Checked dir db) (hcounts : opened.Counts)
    (hlatest : opened.Latest db)
    (hhours : hoursFor dir opened.booking opened.worker.id = some hours)
    (hof : db.jobOfBooking opened.booking.id = some job)
    (hlive : liveJob opened.worker.id job = true) :
    (otherJobs db.jobs opened.worker.id job.id (jobWindow job) : Int) < hours.capacity := by
  obtain ⟨checked, hchecked, hcount⟩ := h.hours
  rw [hhours, Option.some.injEq] at hchecked
  subst hchecked
  have hown : opened.counted.jobOfBooking opened.booking.id = some job := h.own.symm.trans hof
  have hle : otherJobs db.jobs opened.worker.id job.id (jobWindow job) ≤
      otherJobs opened.counted.jobs opened.worker.id job.id opened.window :=
    otherJobs_le (hcounts.1 job hown hlive) hlatest
  rw [overlappingJobs_own _ hown] at hcount
  exact lt_of_le_of_lt (Int.ofNat_le.mpr hle) hcount

/-- A booking without a job overlaps no job of the worker. -/
theorem Checked.alone (h : opened.Checked dir db) (hcounts : opened.Counts)
    (hlatest : opened.Latest db) (hnone : db.jobOfBooking opened.booking.id = none) :
    ∀ job ∈ activeJobs db.jobs opened.worker.id, (jobWindow job).meets opened.window = false := by
  intro job hjob
  cases hmeets : (jobWindow job).meets opened.window with
  | false => rfl
  | true =>
    have hcounted := List.mem_filter.mpr ⟨hlatest job hjob hmeets, (List.mem_filter.mp hjob).2⟩
    have hoff := hcounts.2 (h.own.symm.trans hnone) job hcounted
    rw [hmeets] at hoff
    cases hoff

/-- The hours take a visit. -/
theorem Checked.capacity_pos (h : opened.Checked dir db)
    (hhours : hoursFor dir opened.booking opened.worker.id = some hours) : 0 < hours.capacity := by
  obtain ⟨checked, hchecked, hcount⟩ := h.hours
  rw [hhours, Option.some.injEq] at hchecked
  subst hchecked
  omega

end OpenConfirm

namespace Confirming

variable {dir : Directory} {w : Confirming}

/-- A confirmation that commits has counted all jobs, and none has come since. -/
def CountsAll (w : Confirming) : Op → Prop
  | .finish position jobId assignmentId =>
    ∀ opened ∈ w.confirms[position]?,
      (w.result opened jobId assignmentId).isOk → opened.Counts ∧ opened.Latest w.db
  | .check .. => True

instance (w : Confirming) : DecidablePred w.CountsAll
  | .finish .. => inferInstanceAs (Decidable (∀ opened ∈ _, _ → _ ∧ _))
  | .check .. => isTrue trivial

/-! ## Steps -/

/-- The law, that the jobs it is about are there, and what the open confirmations have
checked under their locks. -/
structure CapacityInv (dir : Directory) (w : Confirming) : Prop where
  respected : CapacityRespected w
  found : ∀ admission ∈ w.admitted, ∃ job, w.db.jobs.get? admission.jobId = some job
  exclusive : Exclusive OpenConfirm.locks w.confirms
  checked : ∀ opened ∈ w.confirms, opened.Checked dir w.db

theorem mem_admittedBy {opened : OpenConfirm} {job : Job} {admission : Admission}
    (h : admission ∈ w.admittedBy dir opened job) :
    admission ∈ w.admitted ∨ (admission.jobId = job.id ∧
      hoursFor dir opened.booking opened.worker.id = some admission.hours) := by
  rcases List.mem_append.mp h with h | h
  · exact Or.inl h
  · cases hhours : hoursFor dir opened.booking opened.worker.id with
    | none => simp [hhours] at h
    | some hours =>
      rw [hhours, Option.map_some, Option.toList_some, List.mem_singleton] at h
      subst h
      exact Or.inr ⟨rfl, rfl⟩

/-- The others that are open have locked other bookings. -/
theorem CapacityInv.other_booking (h : CapacityInv dir w) {position : Nat} {opened : OpenConfirm}
    (hopened : w.confirms[position]? = some opened) :
    ∀ other ∈ w.confirms.eraseIdx position, opened.booking.id ≠ other.booking.id := by
  intro other hother hsame
  exact h.exclusive.others hopened other hother (.bookingRow other.booking.id)
    (by simp [OpenConfirm.locks]) (by simp [OpenConfirm.locks, hsame])

theorem CapacityInv.left (h : CapacityInv dir w) (position : Nat) :
    CapacityInv dir { w with confirms := w.confirms.eraseIdx position } :=
  ⟨h.respected, h.found, h.exclusive.eraseIdx position,
    fun opened hopened => h.checked opened (List.mem_of_mem_eraseIdx hopened)⟩

/-- The booking had its job already. -/
theorem CapacityInv.existing (h : CapacityInv dir w) {position : Nat} {opened : OpenConfirm}
    {db' : Db} {job : Job} (hopened : w.confirms[position]? = some opened)
    (hcounts : opened.Counts) (hlatest : opened.Latest w.db)
    (hof : w.db.jobOfBooking opened.booking.id = some job)
    (hworker : job.workerId = some opened.worker.id) (hjobs : db'.jobs = w.db.jobs) :
    CapacityInv dir { db := db', confirms := w.confirms.eraseIdx position
                      admitted := w.admittedBy dir opened job } := by
  have hchecked := h.checked opened (List.mem_of_getElem? hopened)
  obtain ⟨hmem, _⟩ := jobOfBooking_some hof
  have hfound : w.db.jobs.get? job.id = some job := Table.get?_key hmem
  constructor
  · intro admission hadmission
    show admission.Kept db'.jobs
    rw [hjobs]
    rcases mem_admittedBy hadmission with hold | ⟨hid, hhours⟩
    · exact h.respected admission hold
    · intro other hother workerId hlive t ht
      rw [hid, hfound] at hother
      cases hother
      have hsame : opened.worker.id = workerId := by
        rw [liveJob_worker hlive, Option.some.injEq] at hworker
        exact hworker.symm
      subst hsame
      have hless := hchecked.room hcounts hlatest hhours hof hlive
      have hle := depth_le_others opened.worker.id hmem ht
      omega
  · intro admission hadmission
    show ∃ job, db'.jobs.get? admission.jobId = some job
    rw [hjobs]
    rcases mem_admittedBy hadmission with hold | ⟨hid, _⟩
    · exact h.found admission hold
    · exact ⟨job, hid ▸ hfound⟩
  · exact h.exclusive.eraseIdx position
  · intro other hother
    exact (h.checked other (List.mem_of_mem_eraseIdx hother)).of_jobs hjobs

/-- The booking gets its job. -/
theorem CapacityInv.created (h : CapacityInv dir w) {position : Nat} {opened : OpenConfirm}
    {db' : Db} {job : Job} (hopened : w.confirms[position]? = some opened)
    (hcounts : opened.Counts) (hlatest : opened.Latest w.db)
    (hnone : w.db.jobOfBooking opened.booking.id = none)
    (hinsert : w.db.jobs.insert? job = some db'.jobs)
    (hbooking : job.bookingId = opened.booking.id)
    (hlive : liveJob opened.worker.id job = true) (hwindow : jobWindow job = opened.window) :
    CapacityInv dir { db := db', confirms := w.confirms.eraseIdx position
                      admitted := w.admittedBy dir opened job } := by
  have hchecked := h.checked opened (List.mem_of_getElem? hopened)
  have halone : Alone w.db.jobs job := by
    intro workerId hactive other hother
    have hworker := liveJob_worker hactive
    rw [liveJob_worker hlive, Option.some.injEq] at hworker
    rw [hwindow]
    exact hchecked.alone hcounts hlatest hnone other (hworker ▸ hother)
  constructor
  · intro admission hadmission
    show admission.Kept db'.jobs
    rcases mem_admittedBy hadmission with hold | ⟨hid, hhours⟩
    · obtain ⟨before, hbefore⟩ := h.found admission hold
      exact (h.respected admission hold).insert hbefore halone hinsert
    · exact Admission.kept_alone halone hinsert hid (hchecked.capacity_pos hhours)
  · intro admission hadmission
    rcases mem_admittedBy hadmission with hold | ⟨hid, _⟩
    · obtain ⟨before, hbefore⟩ := h.found admission hold
      exact ⟨before, Table.get?_insert_of_some hinsert hbefore⟩
    · exact ⟨job, hid ▸ Table.get?_insert_self hinsert⟩
  · exact h.exclusive.eraseIdx position
  · intro other hother
    refine (h.checked other (List.mem_of_mem_eraseIdx hother)).insert hinsert ?_
    rw [hbooking]
    exact h.other_booking hopened other hother

/-- A confirmation that is checked counts among the jobs that are there. -/
theorem CapacityInv.check (h : CapacityInv dir w) {bookingId workerId actorId : Uuid}
    {reason : String} {now : Instant} {booking : Booking} {worker : Worker} {vendor : Vendor}
    {opened : OpenConfirm}
    (hbegin : beginConfirm dir w.db bookingId workerId now = .ok (booking, worker, vendor))
    (hopened : opened = { booking, worker, vendor, actorId, reason, now, counted := w.db })
    (hfree : Free OpenConfirm.locks w.confirms opened.locks) :
    CapacityInv dir { w with confirms := w.confirms ++ [opened] } := by
  refine ⟨h.respected, h.found, h.exclusive.push hfree, fun other hother => ?_⟩
  rcases List.mem_append.mp hother with hother | hother
  · exact h.checked other hother
  · rw [List.mem_singleton] at hother
    subst hother hopened
    exact ⟨beginConfirm_ok hbegin, rfl⟩

theorem CapacityInv.step (h : CapacityInv dir w) (op : Op) (hcounts : w.CountsAll op) :
    CapacityInv dir (exec dir w op) := by
  cases op with
  | check bookingId workerId actorId reason now =>
    simp only [exec]
    split
    · next hbegin =>
      split
      · next hfree => exact h.check hbegin rfl hfree
      · exact h
    · exact h
  | finish position jobId assignmentId =>
    simp only [exec]
    split
    · exact h
    · next opened hopened =>
      split
      · next db' job hresult =>
        obtain ⟨hcounts, hlatest⟩ := hcounts opened hopened (isOk_of_eq hresult)
        obtain ⟨_, ⟨hof, hworker, hjobs⟩ | ⟨hnone, hinsert, _, hbooking, _, hlive, hwindow⟩⟩ :=
          finishConfirm_ok hresult
        · exact h.existing hopened hcounts hlatest hof hworker hjobs
        · exact h.created hopened hcounts hlatest hnone hinsert hbooking hlive hwindow
      · exact h.left position

/-- The active jobs of a worker stay within the hours that admitted them, in every run in
which each confirmation that commits has counted all jobs and is overtaken by none. -/
theorem capacity_respected (dir : Directory) (db : Db) (ops : List Op)
    (hcounts : Along (exec dir) CountsAll { db } ops) :
    Always (exec dir) CapacityRespected { db } ops := by
  have hstart : CapacityInv dir { db } := by
    refine ⟨?_, ?_, List.Pairwise.nil, ?_⟩ <;> simp [CapacityRespected]
  exact (always_of_inv (fun w op h hcounts => h.step op hcounts) hstart hcounts).imp
    fun _ h => h.respected

/-- The worker 6 takes one visit at a time on the day of the visits. -/
def operatorDirectory : Directory := { visitDirectory with
  coverage := [{ workerId := 6, serviceId := 3, postalCode := "77001" }]
  workingHours := ⟨[{ workerId := 6, weekday := 3, startTime := openLocal
                      endTime := closeLocal }], by decide⟩
  credentials := visitDirectory.credentials.map fun credential =>
    { credential with verifiedAt := some 0 } }

/-- The bookings 2, from nine to ten, 12, which begins at half past nine, and 13, which
begins at ten. -/
def operatorDb : Db := { visitDb with
  bookings := ⟨[visitBooking,
    { visitBooking with
      id := 12, windowStart := ofMinutes 570, windowEnd := ofMinutes 630 },
    { visitBooking with
      id := 13, windowStart := ofMinutes 600, windowEnd := ofMinutes 660 }], by decide⟩ }

/-- The bookings 2 and 13 are confirmed at a time. -/
def twoConfirmed : List Op :=
  [.check 2 6 8 "first" 1, .check 13 6 8 "next" 1, .finish 1 23 33, .finish 0 20 30]

theorem twoConfirmed_respects :
    Always (exec operatorDirectory) CapacityRespected { db := operatorDb } twoConfirmed :=
  capacity_respected operatorDirectory operatorDb twoConfirmed (by decide)

/-- The bookings 2 and 12 overlap and have no jobs, so that no job is counted for either. -/
theorem second_job_not_counted :
    ¬ Always (exec operatorDirectory) CapacityRespected { db := operatorDb }
        [.check 2 6 8 "first" 1, .finish 0 20 30, .check 12 6 8 "second" 2, .finish 0 22 32] := by
  decide

end Confirming

end Breero.Reservations
