import Breero.Dispatch.DeadBookings
import Breero.Reservations.HoldStates

/-!
Bookings and their jobs, under the calls that hold, request and assign.

* `BookedJobs` says that a job is of its booking, and that a live booking with a worker has a
  live job;
* `Step.grows`: a call that commits no assignment leaves the jobs as they are;
* `BookedJobs.rewrite` is for the transactions that write a booking with its job, and
  `BookedJobs.assign` the one of an assignment.
-/

namespace Breero.Reservations
open KeyedTable Transaction Bookings Dispatch

/-- The steps of the holds, the requests and the assignments. A customer who moves a booking
is not among them. -/
def onPath : Op → Bool
  | .reschedule .. | .finishReschedule .. => false
  | _ => true

/-- The open transaction commits an assignment. -/
def assigns (w : World) (id : Uuid) (now : Instant) (jobId assignmentId : Uuid) : Bool :=
  (w.calls.get? id).any fun call =>
    match call.phase, call.work with
    | .searched _ candidate, .assign request booking =>
      (assignTo w.db booking candidate request now jobId assignmentId).isOk
    | _, _ => false

/-! ## Bookings and their jobs -/

/-- The job is for the worker of the booking, at its address and in its window. -/
def OfBooking (booking : Booking) (job : Job) : Prop :=
  job.workerId = booking.providerWorkerId ∧ job.addressId = booking.addressId ∧
    job.scheduledStart = booking.windowStart ∧ job.scheduledEnd = booking.windowEnd

instance (booking : Booking) (job : Job) : Decidable (OfBooking booking job) :=
  inferInstanceAs (Decidable (_ ∧ _ ∧ _ ∧ _))

structure BookedJobs (db : Db) : Prop where
  booked : ∀ job ∈ db.jobs.rows, ∃ booking ∈ db.bookings.get? job.bookingId, OfBooking booking job
  jobbed : ∀ booking ∈ db.bookings.rows, liveBookingStatus booking.status = true →
    ∀ workerId ∈ booking.providerWorkerId,
      ∃ job ∈ db.jobs.rows, job.bookingId = booking.id ∧ liveJob workerId job = true
  one : OneJob db.jobs

variable {db db' : Db}

theorem BookedJobs.ofBooking (h : BookedJobs db) {booking : Booking} {job : Job}
    (found : db.bookings.get? booking.id = some booking) (hjob : job ∈ db.jobs.rows)
    (hof : job.bookingId = booking.id) : OfBooking booking job := by
  obtain ⟨booking', hrow, hmatches⟩ := h.booked job hjob
  have hrow : db.bookings.get? job.bookingId = some booking' := hrow
  rw [hof, found] at hrow
  cases hrow
  exact hmatches

/-! ### Kinds of changes -/

/-- The jobs are as they were, and at most a booking without a worker is new. -/
inductive Grows (db db' : Db) : Prop
  | same (jobs : db'.jobs = db.jobs) (bookings : db'.bookings = db.bookings)
  | booked (booking : Booking) (jobs : db'.jobs = db.jobs)
      (worker : booking.providerWorkerId = none)
      (inserted : db.bookings.insert? booking = some db'.bookings)

theorem Grows.jobs (h : Grows db db') : db'.jobs = db.jobs := by
  cases h with
  | same jobs bookings => exact jobs
  | booked booking jobs worker inserted => exact jobs

theorem Grows.get? (h : Grows db db') {id : Uuid} {booking : Booking}
    (hrow : db.bookings.get? id = some booking) : db'.bookings.get? id = some booking := by
  cases h with
  | same jobs bookings => rwa [bookings]
  | booked other jobs worker inserted => exact Table.get?_insert_of_some inserted hrow

/-- The bookings with a worker are the ones that were there. -/
theorem Grows.assigned (h : Grows db db') {booking : Booking} {workerId : Uuid}
    (hmem : booking ∈ db'.bookings.rows) (hworker : booking.providerWorkerId = some workerId) :
    booking ∈ db.bookings.rows := by
  cases h with
  | same jobs bookings => rwa [← bookings]
  | booked other jobs worker inserted =>
    rcases (Table.mem_insert inserted).mp hmem with hmem | rfl
    · exact hmem
    · rw [worker] at hworker
      cases hworker

theorem BookedJobs.grows (h : BookedJobs db) (hgrows : Grows db db') : BookedJobs db' := by
  constructor
  · rw [hgrows.jobs]
    intro job hjob
    obtain ⟨booking, hrow, hmatches⟩ := h.booked job hjob
    exact ⟨booking, hgrows.get? hrow, hmatches⟩
  · rw [hgrows.jobs]
    intro booking hmem hlive workerId hworker
    exact h.jobbed booking (hgrows.assigned hmem hworker) hlive workerId hworker
  · rw [hgrows.jobs]
    exact h.one

/-- A booking is rewritten with its job, and the jobs of the others are as they were. -/
theorem BookedJobs.rewrite (h : BookedJobs db) {booking booking' : Booking}
    (found : db.bookings.get? booking.id = some booking)
    (bookings : db'.bookings = db.bookings.put booking') (id : booking'.id = booking.id)
    (jobs : ∀ job ∈ db'.jobs.rows, (job ∈ db.jobs.rows ∧ job.bookingId ≠ booking.id) ∨
      (job.bookingId = booking.id ∧ OfBooking booking' job))
    (others : ∀ job ∈ db.jobs.rows, job.bookingId ≠ booking.id → job ∈ db'.jobs.rows)
    (own : ∀ workerId ∈ booking'.providerWorkerId,
      ∃ job ∈ db'.jobs.rows, job.bookingId = booking.id ∧ liveJob workerId job = true)
    (one : OneJob db'.jobs) : BookedJobs db' := by
  refine ⟨?_, ?_, one⟩
  · rw [bookings]
    intro job hjob
    rcases jobs job hjob with ⟨hold, hne⟩ | ⟨hof, hmatches⟩
    · obtain ⟨other, hrow, hmatches⟩ := h.booked job hold
      have hkey : Keyed.key booking' ≠ job.bookingId := fun e => hne (e.symm.trans id)
      exact ⟨other, by rw [Table.get?_put_ne hkey]; exact hrow, hmatches⟩
    · exact ⟨booking', by rw [hof]; exact Table.get?_put_self found id, hmatches⟩
  · rw [bookings]
    intro other hmem hlive workerId hworker
    rcases Table.mem_put.mp hmem with ⟨rfl, _⟩ | ⟨hmem, hne⟩
    · obtain ⟨job, hjob, hof, hjoblive⟩ := own workerId hworker
      exact ⟨job, hjob, hof.trans id.symm, hjoblive⟩
    · obtain ⟨job, hjob, hof, hjoblive⟩ := h.jobbed other hmem hlive workerId hworker
      have hother : job.bookingId ≠ booking.id := fun e => hne (hof.symm.trans (e.trans id.symm))
      exact ⟨job, others job hjob hother, hof, hjoblive⟩

/-- The jobs of a booking whose job is rewritten, and of the others. -/
theorem BookedJobs.put (h : BookedJobs db) {booking booking' : Booking} {own own' : Job}
    (found : db.bookings.get? booking.id = some booking)
    (bookings : db'.bookings = db.bookings.put booking') (id : booking'.id = booking.id)
    (hown : own ∈ db.jobs.rows) (hof : own.bookingId = booking.id) (jobId : own'.id = own.id)
    (bookingId : own'.bookingId = own.bookingId) (jobs : db'.jobs = db.jobs.put own')
    (matches' : OfBooking booking' own')
    (live : ∀ workerId ∈ booking'.providerWorkerId, liveJob workerId own' = true) :
    BookedJobs db' := by
  have hself : own' ∈ (db.jobs.put own').rows :=
    Table.mem_of_get? (Table.get?_put_self (Table.get?_key hown) jobId)
  refine h.rewrite found bookings id ?_ ?_ ?_ ?_
  · rw [jobs]
    intro job hjob
    rcases Table.mem_put.mp hjob with ⟨rfl, _⟩ | ⟨hjob, hne⟩
    · exact Or.inr ⟨bookingId.trans hof, matches'⟩
    · refine Or.inl ⟨hjob, fun hsame => hne ?_⟩
      have heq : job = own := h.one own hown job hjob (hsame.trans hof.symm)
      rw [heq]
      exact jobId.symm
  · rw [jobs]
    intro job hjob hne
    refine Table.mem_put_of_mem hjob fun hkey => hne ?_
    have heq : job = own := Table.eq_of_key hjob hown (hkey.trans jobId)
    rw [heq, hof]
  · rw [jobs]
    intro workerId hworker
    exact ⟨own', hself, bookingId.trans hof, live workerId hworker⟩
  · rw [jobs]
    exact h.one.put hown jobId bookingId

/-- The first job of a booking. -/
theorem BookedJobs.insert (h : BookedJobs db) {booking booking' : Booking} {job : Job}
    (found : db.bookings.get? booking.id = some booking)
    (bookings : db'.bookings = db.bookings.put booking') (id : booking'.id = booking.id)
    (first : db.jobOfBooking booking.id = none) (inserted : db.jobs.insert? job = some db'.jobs)
    (hof : job.bookingId = booking.id) (matches' : OfBooking booking' job)
    (live : ∀ workerId ∈ booking'.providerWorkerId, liveJob workerId job = true) :
    BookedJobs db' := by
  have hothers : ∀ other ∈ db.jobs.rows, other.bookingId ≠ booking.id := by
    intro other hother hsame
    have hfree := List.find?_eq_none.mp first other hother
    simp [hsame] at hfree
  refine h.rewrite found bookings id ?_ ?_ ?_ ?_
  · intro other hother
    rcases (Table.mem_insert inserted).mp hother with hother | rfl
    · exact Or.inl ⟨hother, hothers other hother⟩
    · exact Or.inr ⟨hof, matches'⟩
  · intro other hother _
    exact (Table.mem_insert inserted).mpr (Or.inl hother)
  · intro workerId hworker
    exact ⟨job, (Table.mem_insert inserted).mpr (Or.inr rfl), hof, live workerId hworker⟩
  · exact h.one.insert inserted fun other hother => hof.symm ▸ hothers other hother

/-! ### Assignments -/

theorem assignTo_rows {booking assigned : Booking} {candidate : ProviderCandidate}
    {request : AssignRequest} {now : Instant} {jobId assignmentId : Uuid}
    (h : assignTo db booking candidate request now jobId assignmentId = .ok (db', assigned)) :
    ∃ worker, db.workers.get? request.professionalId = some worker ∧
      db'.workers = db.workers ∧ db'.bookings = db.bookings.put assigned ∧
      assigned.id = booking.id ∧ assigned.providerWorkerId = some worker.id ∧
      assigned.addressId = booking.addressId ∧ assigned.windowStart = booking.windowStart ∧
      assigned.windowEnd = booking.windowEnd ∧
      ((∃ own, db.jobOfBooking booking.id = some own ∧ db'.jobs = db.jobs.put { own with
          vendorId := some worker.vendorId, workerId := some worker.id, status := .assigned }) ∨
        (db.jobOfBooking booking.id = none ∧
          db.jobs.insert? (newJob booking worker.vendorId worker.id jobId) = some db'.jobs)) := by
  simp only [assignTo, seq_committed, orRaise_committed, return_committed, Prod.exists,
    Prod.mk.injEq] at h
  obtain ⟨worker, hworker, db1, job, hjob, db2, hadd, rfl, rfl⟩ := h
  obtain ⟨_, assignments, _, rfl⟩ := addAssignment_ok hadd
  unfold assignedJob at hjob
  split at hjob
  · next own hof =>
    simp only [return_committed, Prod.mk.injEq] at hjob
    obtain ⟨rfl, rfl⟩ := hjob
    refine ⟨worker, hworker, ?_, ?_, rfl, rfl, rfl, rfl, rfl, Or.inl ⟨own, hof, ?_⟩⟩
    · show (releaseActive db own.id now).workers = db.workers
      unfold releaseActive
      split <;> rfl
    · show (releaseActive db own.id now).bookings.put _ = _
      rw [releaseActive_bookings]
    · show (releaseActive db own.id now).jobs.put _ = _
      rw [releaseActive_jobs]
  · next hof =>
    simp only [seq_committed, return_committed, Prod.mk.injEq] at hjob
    obtain ⟨_, hadded, rfl, rfl⟩ := hjob
    obtain ⟨_, jobs, hinsert, rfl⟩ := Db.addJob_ok hadded
    exact ⟨worker, hworker, rfl, rfl, rfl, rfl, rfl, rfl, rfl, Or.inr ⟨hof, hinsert⟩⟩

/-- The booking as it was locked gets a worker, and its job the same one. -/
theorem BookedJobs.assign (h : BookedJobs db) {booking assigned : Booking}
    {candidate : ProviderCandidate} {request : AssignRequest} {now : Instant}
    {jobId assignmentId : Uuid} (found : db.bookings.get? booking.id = some booking)
    (hassign : assignTo db booking candidate request now jobId assignmentId =
      .ok (db', assigned)) : BookedJobs db' := by
  obtain ⟨worker, _, _, hbookings, hid, hworker, haddress, hstart, hstop,
    ⟨own, hof, hjobs⟩ | ⟨hnone, hinsert⟩⟩ := assignTo_rows hassign
  · obtain ⟨hmem, hown⟩ := jobOfBooking_some hof
    obtain ⟨_, haddress', hstart', hstop'⟩ := h.ofBooking found hmem hown
    refine h.put found hbookings hid hmem hown ?_ ?_ hjobs
      ⟨hworker.symm, haddress'.trans haddress.symm, hstart'.trans hstart.symm,
        hstop'.trans hstop.symm⟩ ?_
    · rfl
    · rfl
    · rw [hworker]
      intro workerId hworkerId
      cases hworkerId
      simp [liveJob]
  · refine h.insert found hbookings hid hnone hinsert rfl
      ⟨hworker.symm, haddress.symm, hstart.symm, hstop.symm⟩ ?_
    rw [hworker]
    intro workerId hworkerId
    cases hworkerId
    simp [liveJob, newJob]

/-! ## Steps of the calls -/

variable {settings : Settings} {dir : Directory}

theorem lapseHold_rows (db : Db) (holdId : Uuid) :
    (lapseHold db holdId).jobs = db.jobs ∧ (lapseHold db holdId).bookings = db.bookings := by
  unfold lapseHold
  split <;> exact ⟨rfl, rfl⟩

theorem releaseHold_rows {holdId : Uuid} {bookingSession : String} {now : Instant} {v : Unit}
    (h : releaseHold settings db holdId bookingSession now = .ok (db', v)) :
    db'.jobs = db.jobs ∧ db'.bookings = db.bookings := by
  rcases releaseHold_ok h with rfl | ⟨hold, _, _, _, rfl⟩
  · exact ⟨rfl, rfl⟩
  · exact ⟨rfl, rfl⟩

/-- A call that commits writes no job, unless it assigns. -/
theorem Writes.grows {w : World} {call : Call} {op : Op} {db : Db} {converted : List (Uuid × Uuid)}
    (h : Writes settings dir w call op db converted) (found : w.calls.get? call.id = some call)
    (hpath : onPath op = true)
    (hassigns : ∀ id now jobId assignmentId, op = .finishAssign id now jobId assignmentId →
      assigns w id now jobId assignmentId = false) : Grows w.db db := by
  cases h with
  | granted attempt load candidate hold phase work past written =>
    obtain ⟨_, holds, auditLogs, _, _, rfl⟩ := grantHold_ok written
    exact .same rfl rfl
  | assigned request booking assigned load candidate phase work written =>
    have hnone := hassigns _ _ _ _ rfl
    simp [assigns, found, phase, work, isOk_of_eq written] at hnone
  | requested request hold checkedAt booking phase work written =>
    obtain ⟨_, _, hjobs, ⟨customerId, currency, hbooking⟩, inserted, _⟩ := finishRequest_ok written
    exact .booked booking hjobs (by rw [hbooking]; rfl) inserted
  | rescheduled userId booking hold checkedAt phase work => cases hpath
  | lapsed holdId phase work =>
    obtain ⟨hjobs, hbookings⟩ := lapseHold_rows w.db holdId
    exact .same hjobs hbookings

theorem Transacts.grows {w : World} {op : Op} {db : Db} (h : Transacts settings w op db) :
    Grows w.db db := by
  cases h with
  | released written =>
    obtain ⟨hjobs, hbookings⟩ := releaseHold_rows written
    exact .same hjobs hbookings
  | expired => exact .same rfl rfl

theorem Step.grows {w w' : World} {op : Op} (h : Step settings dir w op w')
    (hpath : onPath op = true)
    (hassigns : ∀ id now jobId assignmentId, op = .finishAssign id now jobId assignmentId →
      assigns w id now jobId assignmentId = false) : Grows w.db w'.db := by
  cases h with
  | waited => exact .same rfl rfl
  | ticked elapsed => exact .same rfl rfl
  | began id work calls opens free inserted => exact .same rfl rfl
  | moved call phase found moves => exact .same rfl rfl
  | committed call db converted found writes can => exact writes.grows found hpath hassigns
  | transacted db writes can => exact writes.grows

end Breero.Reservations
