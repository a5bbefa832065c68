import Breero.Jobs.Writes
import Breero.Dispatch.Effects

/-!
What an operation of the dispatchers writes of the jobs and their log, of the statuses of
the bookings, and what it leaves as it is.

* an `_effect` lemma says it of each operation;
* `forcedJob` and `AddsUnlogged` name the writes that the log does not record, and
  `exec_jobs` says that there are no others.
-/

namespace Breero.Dispatch
open KeyedTable Transaction Bookings Jobs

/-- The events that tell that a job is completed. -/
def completions (db : Db) : List IntegrationEvent :=
  db.outbox.filter fun event => event.eventType = "job.completed"

/-- The tables that only some of the operations write. -/
structure Untouched (db db' : Db) : Prop where
  workRequests : db'.workRequests = db.workRequests
  completions : completions db' = completions db
  earnings : db'.earnings = db.earnings

theorem Untouched.refl (db : Db) : Untouched db db := ⟨rfl, rfl, rfl⟩

theorem Untouched.trans {db db' db'' : Db} (h : Untouched db db') (h' : Untouched db' db'') :
    Untouched db db'' :=
  ⟨h'.workRequests.trans h.workRequests, h'.completions.trans h.completions,
    h'.earnings.trans h.earnings⟩

/-- The booking is found, and the operation gives it the status `target`. -/
def Restatused (t u : Table Booking) (booking : Booking) (target : BookingStatus) : Prop :=
  t.get? booking.id = some booking ∧
    ∃ booking', u = t.put booking' ∧ booking'.id = booking.id ∧ booking'.status = target

theorem applyTransition_rest {db db' : Db} {job job' : Job} {target : JobStatus}
    {actorId : Option Uuid} {actorType : String} {reason : Option String} {metadata : Payload}
    {now : Instant} {changed : Bool}
    (h : applyTransition db job target actorId actorType reason metadata now =
      .ok (db', job', changed)) : Untouched db db' ∧ db'.bookings = db.bookings := by
  rcases applyTransition_cases h with ⟨_, rfl, _, _⟩ | ⟨_, _, _, event, rfl⟩
  · exact ⟨.refl _, rfl⟩
  · exact ⟨⟨rfl, rfl, rfl⟩, rfl⟩

/-! ## Matches -/

/-- The transitions of a job that is matched or offered. -/
def matchingEdge (_ target : JobStatus) : Prop := target ∈ [.matching, .offered]

theorem matchJob_effect {db db' : Db} {jobId : Uuid} {actorId : Option Uuid} {now : Instant}
    {offerId : Nat → Uuid} {v : Job} (h : matchJob db jobId actorId now offerId = .ok (db', v)) :
    JobWrites matchingEdge db db' ∧ Untouched db db' ∧ db'.bookings = db.bookings := by
  have hmatched : db'.jobs.get? v.id = some v ∧ JobWrites matchingEdge db db' ∧
      Untouched db db' ∧ db'.bookings = db.bookings := by
    refine matchJob_induction (motive := fun db' v => db'.jobs.get? v.id = some v ∧
      JobWrites matchingEdge db db' ∧ Untouched db db' ∧ db'.bookings = db.bookings) h ?_ ?_ ?_
    · exact fun job hfound _ => ⟨hfound, .refl _, .refl _, rfl⟩
    · rintro db1 job1 offers ⟨hfound, hwrites, huntouched, hbookings⟩
      exact ⟨hfound, hwrites.trans (.of_same rfl rfl), huntouched.trans ⟨rfl, rfl, rfl⟩,
        hbookings⟩
    · rintro db1 db2 job1 job2 target _ _ _ _ htarget ⟨hfound, hwrites, huntouched, hbookings⟩
        htransition
      obtain ⟨hmoved, _, _, _, hjobs⟩ := applyTransition_found htransition hfound
      obtain ⟨huntouched2, hbookings2⟩ := applyTransition_rest htransition
      have hwrites2 : JobWrites matchingEdge db1 db2 := by
        refine (applyTransition_writes htransition hfound rfl rfl rfl).mono ?_
        rintro _ _ _ ⟨_, rfl⟩
        exact htarget
      exact ⟨hjobs ▸ get?_put_moved hfound hmoved, hwrites.trans hwrites2,
        huntouched.trans huntouched2, hbookings2.trans hbookings⟩
  exact hmatched.2

/-- The transition to an assigned job. -/
def assignedEdge (_ target : JobStatus) : Prop := target = .assigned

@[simp] theorem confirmPending_jobEvents (db : Db) (bookingId : Uuid) :
    (confirmPending db bookingId).jobEvents = db.jobEvents := by
  unfold confirmPending
  split
  · split <;> rfl
  · rfl

theorem confirmPending_untouched (db : Db) (bookingId : Uuid) :
    Untouched db (confirmPending db bookingId) := by
  unfold confirmPending
  split
  · split
    · exact ⟨rfl, rfl, rfl⟩
    · exact .refl _
  · exact .refl _

/-- The booking that an assignment of the job confirms. -/
def pendingBooking (db : Db) (bookingId : Uuid) : Option Booking :=
  (db.bookings.get? bookingId).filter (·.status = .pendingProviderConfirmation)

/-- What the assignment of a job writes of the bookings. -/
def Confirms (db : Db) (bookingId : Uuid) (db' : Db) : Prop :=
  match pendingBooking db bookingId with
  | some booking => Restatused db.bookings db'.bookings booking .confirmed
  | none => db'.bookings = db.bookings

theorem confirmPending_confirms (db : Db) (bookingId : Uuid) :
    Confirms db bookingId (confirmPending db bookingId) := by
  unfold Confirms pendingBooking confirmPending
  cases hget : db.bookings.get? bookingId with
  | none => rfl
  | some booking =>
    by_cases hstatus : booking.status = .pendingProviderConfirmation
    · simp only [Option.filter, hstatus, decide_true, if_true]
      exact ⟨Table.get?_found hget, { booking with status := .confirmed }, rfl, rfl, rfl⟩
    · simp only [Option.filter, hstatus, decide_false, Bool.false_eq_true, if_false]

theorem Confirms.of_rows {db db1 db2 db' : Db} {bookingId : Uuid} (h : Confirms db1 bookingId db2)
    (hbefore : db1.bookings = db.bookings) (hafter : db'.bookings = db2.bookings) :
    Confirms db bookingId db' := by
  unfold Confirms pendingBooking at h ⊢
  rw [hbefore] at h
  rw [hafter]
  exact h

theorem addAssignment_rest {db db' : Db} {assignment : Assignment}
    (h : db.addAssignment assignment = .ok db') :
    Untouched db db' ∧ db'.jobs = db.jobs ∧ db'.jobEvents = db.jobEvents ∧
      db'.bookings = db.bookings := by
  obtain ⟨_, assignments, _, rfl⟩ := addAssignment_ok h
  exact ⟨⟨rfl, rfl, rfl⟩, rfl, rfl, rfl⟩

theorem acceptOffer_effect {db db' : Db} {offer v : DispatchOffer} {vendorId : Uuid}
    {workerId : Option Uuid} {actorId : Uuid} {now : Instant} {assignmentId : Uuid}
    (h : acceptOffer db offer vendorId workerId actorId now assignmentId = .ok (db', v)) :
    JobWrites assignedEdge db db' ∧ Untouched db db' ∧
      ∃ job, db.jobs.get? offer.jobId = some job ∧ Confirms db job.bookingId db' ∧
        job.status ∈ unassignedStatuses := by
  simp only [acceptOffer, seq_committed, orRaise_committed, require_committed,
    return_committed, Prod.exists, Prod.mk.injEq] at h
  obtain ⟨worker, _, job, hjob, _, _, db1, hadd, db2, job2, _, htransition, rfl, _⟩ := h
  obtain ⟨hfound, hstatus⟩ := Option.filter_eq_some_iff.mp hjob
  obtain ⟨huntouched1, hjobs1, hlog1, hbookings1⟩ := addAssignment_rest hadd
  obtain ⟨huntouched, hbookings⟩ := applyTransition_rest htransition
  let created := db1.audit (assignmentCreated job vendorId worker.id actorId none now)
  have hpending := confirmPending_untouched created job.bookingId
  have hstored : (confirmPending created job.bookingId).jobs.get? job.id = some job := by
    rw [confirmPending_jobs]
    show db1.jobs.get? job.id = some job
    rw [hjobs1]
    exact Table.get?_found hfound
  refine ⟨?_, ?_, job, hfound, ?_, ?_⟩
  · have hsame : JobWrites assignedEdge db (confirmPending created job.bookingId) := by
      refine .of_same ?_ ?_
      · rw [confirmPending_jobs]
        exact hjobs1
      · rw [confirmPending_jobEvents]
        exact hlog1
    have hmoved : JobWrites assignedEdge (confirmPending created job.bookingId) db2 := by
      refine (applyTransition_writes htransition hstored rfl rfl rfl).mono ?_
      rintro _ _ _ ⟨_, rfl⟩
      rfl
    exact (hsame.trans hmoved).of_rows rfl rfl
  · have hcreated : Untouched db created :=
      ⟨huntouched1.workRequests, huntouched1.completions, huntouched1.earnings⟩
    have hwithdrawn : Untouched db2 (withdrawOthers db2 job2.id offer.id) := ⟨rfl, rfl, rfl⟩
    exact ((hcreated.trans hpending).trans huntouched).trans hwithdrawn
  · exact (confirmPending_confirms created job.bookingId).of_rows hbookings1 hbookings
  · simp only [decide_eq_true_eq, List.mem_cons, List.not_mem_nil, or_false] at hstatus
    rcases hstatus with hstatus | hstatus
    · simp [hstatus, unassignedStatuses]
    · simp [hstatus, unassignedStatuses]

/-- The job whose offer is accepted in time. -/
def acceptedJob (db : Db) (offerId : Uuid) (accept : Bool) (now : Instant) : Option Job :=
  (db.offers.get? offerId).bind fun offer =>
    if accept ∧ now < offer.expiresAt then db.jobs.get? offer.jobId else none

theorem decideOffer_effect {db db' : Db} {offerId vendorId : Uuid} {accept : Bool}
    {workerId : Option Uuid} {actorId : Uuid} {now : Instant} {assignmentId : Uuid}
    {v : Except Raised DispatchOffer}
    (h : decideOffer db offerId vendorId accept workerId actorId now assignmentId = .ok (db', v)) :
    JobWrites assignedEdge db db' ∧ Untouched db db' ∧
      ((∃ job, acceptedJob db offerId accept now = some job ∧ Confirms db job.bookingId db' ∧
          job.status ∈ unassignedStatuses) ∨
        (acceptedJob db offerId accept now = none ∧ db'.bookings = db.bookings)) := by
  simp only [decideOffer, seq_committed, orRaise_committed, require_committed] at h
  obtain ⟨offer, hoffer, _, _, _, _, h⟩ := h
  split at h
  · next hexpired =>
    simp only [return_committed, Prod.mk.injEq] at h
    obtain ⟨rfl, _⟩ := h
    refine ⟨.of_same rfl rfl, ⟨rfl, rfl, rfl⟩, Or.inr ⟨?_, rfl⟩⟩
    have hlate : ¬ (accept ∧ now < offer.expiresAt) := fun h => not_lt.mpr hexpired h.2
    simp only [acceptedJob, hoffer, Option.bind_some, if_neg hlate]
  · next hopen =>
    split at h
    · next hdeclined =>
      simp only [return_committed, Prod.mk.injEq] at h
      obtain ⟨rfl, _⟩ := h
      refine ⟨.of_same rfl rfl, ⟨rfl, rfl, rfl⟩, Or.inr ⟨?_, rfl⟩⟩
      have hnot : ¬ (accept ∧ now < offer.expiresAt) := fun h => hdeclined h.1
      simp only [acceptedJob, hoffer, Option.bind_some, if_neg hnot]
    · next haccept =>
      simp only [seq_committed, return_committed, Prod.exists, Prod.mk.injEq] at h
      obtain ⟨_, _, haccepted, rfl, _⟩ := h
      obtain ⟨hwrites, huntouched, job, hjob, hconfirms, hstatus⟩ := acceptOffer_effect haccepted
      refine ⟨hwrites, huntouched, Or.inl ⟨job, ?_, hconfirms, hstatus⟩⟩
      have hintime : accept ∧ now < offer.expiresAt := ⟨not_not.mp haccept, not_le.mp hopen⟩
      simp only [acceptedJob, hoffer, Option.bind_some, if_pos hintime]
      exact hjob

theorem manualAssign_effect {db db' : Db} {jobId vendorId workerId actorId : Uuid}
    {reason : String} {now : Instant} {assignmentId : Uuid} {v : Assignment}
    (h : manualAssign db jobId vendorId workerId actorId reason now assignmentId = .ok (db', v)) :
    JobWrites assignedEdge db db' ∧ Untouched db db' ∧
      ∃ job, db.jobs.get? jobId = some job ∧ Confirms db job.bookingId db' ∧
        job.status ∈ unassignedStatuses := by
  simp only [manualAssign, seq_committed, orRaise_committed, require_committed, return_committed,
    Prod.exists, Prod.mk.injEq] at h
  obtain ⟨job, hfound, worker, hworker, _, hstatus, _, _, db1, hadd, db2, job2, _, htransition, rfl,
    _⟩ := h
  have hworkerId : worker.id = workerId := by
    have hget := (Option.filter_eq_some_iff.mp hworker).1
    exact Table.key_of_get? hget
  subst hworkerId
  obtain ⟨huntouched1, hjobs1, hlog1, hbookings1⟩ := addAssignment_rest hadd
  obtain ⟨huntouched2, hbookings2⟩ := applyTransition_rest htransition
  have hfound1 : db1.jobs.get? job.id = some job := hjobs1 ▸ Table.get?_found hfound
  obtain ⟨hmoved, _, _, _, hjobs2⟩ := applyTransition_found htransition hfound1
  have hfound2 : db2.jobs.get? job2.id = some job2 := hjobs2 ▸ get?_put_moved hfound1 hmoved
  let db3 := { db2 with
    jobs := db2.jobs.put { job2 with vendorId := some vendorId, workerId := some worker.id } }
  have hwrites1 : JobWrites assignedEdge db db1 := .of_same hjobs1 hlog1
  have hwrites2 : JobWrites assignedEdge db1 db2 := by
    refine (applyTransition_writes htransition hfound1 rfl rfl rfl).mono ?_
    rintro _ _ _ ⟨_, rfl⟩
    rfl
  have hwrites3 : JobWrites assignedEdge db2 db3 := by
    refine .noted hfound2 ?_ ?_ ?_ ?_ rfl rfl
    · rfl
    · rfl
    · rfl
    · rfl
  have hbookingId : job2.bookingId = job.bookingId := hmoved.bookingId
  refine ⟨?_, ?_, job, hfound, ?_, hstatus⟩
  · exact ((hwrites1.trans hwrites2).trans hwrites3).of_rows (confirmPending_jobs db3 _)
      (confirmPending_jobEvents db3 _)
  · have hcreated : Untouched db
        (db1.audit (assignmentCreated job vendorId worker.id actorId (some reason) now)) :=
      ⟨huntouched1.workRequests, huntouched1.completions, huntouched1.earnings⟩
    have huntouched3 : Untouched db2 db3 := ⟨rfl, rfl, rfl⟩
    have hpending := confirmPending_untouched db3 job2.bookingId
    exact ((hcreated.trans huntouched2).trans huntouched3).trans hpending
  · have hconfirms := confirmPending_confirms db3 job2.bookingId
    have hsame : db3.bookings = db.bookings := hbookings2.trans hbookings1
    rw [hbookingId] at hconfirms
    refine hconfirms.of_rows hsame ?_
    show (confirmPending db3 job2.bookingId).bookings = _
    rw [hbookingId]

/-! ## Assignments by the administrators -/

theorem releaseActive_rest (db : Db) (jobId : Uuid) (now : Instant) :
    Untouched db (releaseActive db jobId now) ∧
      (releaseActive db jobId now).jobEvents = db.jobEvents := by
  unfold releaseActive
  split
  · exact ⟨⟨rfl, rfl, rfl⟩, rfl⟩
  · exact ⟨.refl _, rfl⟩

/-- The status of the job of a booking is overwritten, and the log is not. -/
def Forced (db : Db) (job : Job) (status : JobStatus) (db' : Db) : Prop :=
  db'.jobEvents = db.jobEvents ∧ db.jobs.get? job.id = some job ∧
    ∃ job', db'.jobs = db.jobs.put job' ∧ job'.id = job.id ∧ job'.status = status ∧
      job'.version = job.version ∧ job'.bookingId = job.bookingId

/-- An assigned job of the booking is added, and the log is not. -/
def AddsAssigned (db : Db) (bookingId : Uuid) (db' : Db) : Prop :=
  db'.jobEvents = db.jobEvents ∧
    ∃ job : Job, db.jobs.insert? job = some db'.jobs ∧ job.status = .assigned ∧
      job.bookingId = bookingId

theorem assignTo_effect {db db' : Db} {booking v : Booking} {candidate : ProviderCandidate}
    {request : AssignRequest} {now : Instant} {jobId assignmentId : Uuid}
    (hbooking : db.bookings.get? booking.id = some booking)
    (h : assignTo db booking candidate request now jobId assignmentId = .ok (db', v)) :
    Untouched db db' ∧ Restatused db.bookings db'.bookings booking .providerAssigned ∧
      ((∃ job, db.jobOfBooking booking.id = some job ∧ Forced db job .assigned db') ∨
        (db.jobOfBooking booking.id = none ∧ AddsAssigned db booking.id db')) := by
  simp only [assignTo, seq_committed, orRaise_committed, return_committed, Prod.exists,
    Prod.mk.injEq] at h
  obtain ⟨worker, _, db1, job', hjob, db2, hadd, rfl, rfl⟩ := h
  obtain ⟨huntouched2, hjobs2, hlog2, hbookings2⟩ := addAssignment_rest hadd
  have hput : ∀ u : Table Booking, u = db.bookings → Restatused db.bookings
      (u.put { booking with
        providerWorkerId := some worker.id
        recommendedProviderId := some candidate.providerId
        recommendedProfessionalId := some candidate.professionalId
        assignmentScore := some candidate.score
        assignmentReason := some request.reason
        status := .providerAssigned }) booking .providerAssigned := by
    rintro _ rfl
    exact ⟨hbooking, _, rfl, rfl, rfl⟩
  unfold assignedJob at hjob
  split at hjob
  · next job hof =>
    obtain ⟨hmem, _⟩ := jobOfBooking_some hof
    simp only [return_committed, Prod.mk.injEq] at hjob
    obtain ⟨rfl, rfl⟩ := hjob
    obtain ⟨hreleased, hreleasedLog⟩ := releaseActive_rest db job.id now
    refine ⟨?_, hput db2.bookings (hbookings2.trans (releaseActive_bookings db job.id now)),
      Or.inl ⟨job, hof, hlog2.trans hreleasedLog, Table.get?_key hmem, { job with
        vendorId := some worker.vendorId, workerId := some worker.id, status := .assigned },
        ?_, rfl, rfl, rfl, rfl⟩⟩
    · exact ⟨huntouched2.workRequests.trans hreleased.workRequests,
        huntouched2.completions.trans hreleased.completions,
        huntouched2.earnings.trans hreleased.earnings⟩
    · show db2.jobs = _
      rw [hjobs2]
      simp only [releaseActive_jobs]
  · next hof =>
    simp only [seq_committed, return_committed, Prod.mk.injEq] at hjob
    obtain ⟨_, hadded, rfl, rfl⟩ := hjob
    obtain ⟨_, jobs, hinsert, rfl⟩ := Db.addJob_ok hadded
    refine ⟨⟨huntouched2.workRequests, huntouched2.completions, huntouched2.earnings⟩,
      hput db2.bookings hbookings2,
      Or.inr ⟨hof, hlog2, newJob booking worker.vendorId worker.id jobId, ?_, rfl, rfl⟩⟩
    show db.jobs.insert? (newJob booking worker.vendorId worker.id jobId) = some db2.jobs
    rw [hjobs2]
    exact hinsert

/-- What a committed assignment of the booking writes. -/
def AssignEffect (db : Db) (bookingId : Uuid) (db' : Db) : Prop :=
  Untouched db db' ∧
    (∃ booking, db.bookings.get? bookingId = some booking ∧ booking.status ∈ assignable ∧
      Restatused db.bookings db'.bookings booking .providerAssigned) ∧
    ((∃ job, db.jobOfBooking bookingId = some job ∧ Forced db job .assigned db') ∨
      (db.jobOfBooking bookingId = none ∧ AddsAssigned db bookingId db'))

theorem assign_effect {settings : Settings} {dir : Directory} {db db' : Db}
    {request : AssignRequest} {now : Instant} {jobId assignmentId : Uuid} {v : Booking}
    (h : assign settings dir db request now jobId assignmentId = .ok (db', v)) :
    AssignEffect db request.bookingId db' := by
  simp only [assign, seq_committed] at h
  obtain ⟨booking, hbegin, candidate, _, hassign⟩ := h
  obtain ⟨hbooking, hid, hstatus⟩ := beginAssign_ok hbegin
  obtain ⟨huntouched, hbookings, hjobs⟩ := assignTo_effect hbooking hassign
  rw [hid] at hjobs
  exact ⟨huntouched, ⟨booking, hid ▸ hbooking, hstatus, hbookings⟩, hjobs⟩

theorem automaticAssign_effect {settings : Settings} {dir : Directory} {db db' : Db}
    {bookingId actorId : Uuid} {now : Instant} {jobId assignmentId : Uuid} {v : Booking}
    (h : automaticAssign settings dir db bookingId actorId now jobId assignmentId = .ok (db', v)) :
    AssignEffect db bookingId db' := by
  simp only [automaticAssign, seq_committed] at h
  obtain ⟨_, _, _, _, _, _, hassign⟩ := h
  exact assign_effect hassign

theorem unassign_effect {db db' : Db} {bookingId actorId : Uuid} {reason : String} {now : Instant}
    {v : Booking} (h : unassign db bookingId actorId reason now = .ok (db', v)) :
    Untouched db db' ∧
      (∃ booking, db.bookings.get? bookingId = some booking ∧ booking.status = .providerAssigned ∧
        Restatused db.bookings db'.bookings booking .reassignmentRequired) ∧
      ((∃ job, db.jobOfBooking bookingId = some job ∧ Forced db job .matching db') ∨
        (db.jobOfBooking bookingId = none ∧ db'.jobs = db.jobs ∧
          db'.jobEvents = db.jobEvents)) := by
  simp only [unassign, seq_committed, orRaise_committed, require_committed, return_committed,
    Prod.mk.injEq] at h
  obtain ⟨booking, hbooking, _, hstatus, rfl, rfl⟩ := h
  have hbooking' : db.bookings.get? booking.id = some booking := Table.get?_found hbooking
  unfold unassignedJob
  split
  · next job hof =>
    obtain ⟨hmem, _⟩ := jobOfBooking_some hof
    obtain ⟨hreleased, hreleasedLog⟩ := releaseActive_rest db job.id now
    refine ⟨⟨hreleased.workRequests, hreleased.completions, hreleased.earnings⟩,
      ⟨booking, hbooking, hstatus, hbooking', { booking with
        providerWorkerId := none, status := .reassignmentRequired }, ?_, rfl, rfl⟩,
      Or.inl ⟨job, hof, hreleasedLog, Table.get?_key hmem, { job with
        vendorId := none, workerId := none, status := .matching }, ?_, rfl, rfl, rfl, rfl⟩⟩
    · show (releaseActive db job.id now).bookings.put _ = _
      rw [releaseActive_bookings]
    · show (releaseActive db job.id now).jobs.put _ = _
      rw [releaseActive_jobs]
  · next hof =>
    exact ⟨⟨rfl, rfl, rfl⟩, ⟨booking, hbooking, hstatus, hbooking', _, rfl, rfl, rfl⟩,
      Or.inr ⟨hof, rfl, rfl⟩⟩

/-! ## The operators and the technicians -/

theorem confirm_effect {dir : Directory} {db db' : Db} {bookingId workerId actorId : Uuid}
    {reason : String} {now : Instant} {jobId assignmentId : Uuid} {v : Job}
    (h : confirm dir db bookingId workerId actorId reason now jobId assignmentId = .ok (db', v)) :
    Untouched db db' ∧
      (∃ booking, db.bookings.get? bookingId = some booking ∧ booking.status ∈ confirmable ∧
        Restatused db.bookings db'.bookings booking .confirmed) ∧
      ((∃ job, db.jobOfBooking bookingId = some job ∧ db'.jobs = db.jobs ∧
          db'.jobEvents = db.jobEvents) ∨
        (db.jobOfBooking bookingId = none ∧ AddsAssigned db bookingId db')) := by
  simp only [confirm, beginConfirm, finishConfirm, Db.addEvent, seq_committed, orRaise_committed,
    require_committed, return_committed, Prod.exists, Prod.mk.injEq] at h
  obtain ⟨_, _, _, ⟨booking, hbooking, _, hstatus, worker, vendor, _, rfl, rfl, rfl⟩, db1, job',
    hjob, _, ⟨_, _, rfl⟩, rfl, _⟩ := h
  have hid : booking.id = bookingId := Table.key_of_get? hbooking
  have hbooking' : db.bookings.get? booking.id = some booking := Table.get?_found hbooking
  have hput : ∀ u : Table Booking, u = db.bookings → Restatused db.bookings
      (u.put { booking with providerWorkerId := some worker.id, status := .confirmed }) booking
      .confirmed := by
    rintro _ rfl
    exact ⟨hbooking', _, rfl, rfl, rfl⟩
  -- the event of a confirmation does not tell of a completed job
  have hevent : ∀ (log : List IntegrationEvent) (job : Job),
      (log ++ [bookingConfirmed booking job now]).filter (fun e => e.eventType = "job.completed") =
        log.filter fun e => e.eventType = "job.completed" := by
    intro log job
    simp [List.filter_append, bookingConfirmed]
  unfold confirmedJob at hjob
  split at hjob
  · next job hof =>
    simp only [seq_committed, require_committed, return_committed, Prod.mk.injEq] at hjob
    obtain ⟨_, _, rfl, rfl⟩ := hjob
    exact ⟨⟨rfl, hevent _ _, rfl⟩, ⟨booking, hbooking, hstatus, hput _ rfl⟩,
      Or.inl ⟨job, hid ▸ hof, rfl, rfl⟩⟩
  · next hof =>
    simp only [seq_committed, return_committed, Prod.mk.injEq] at hjob
    obtain ⟨_, hadded, db2, hadd, rfl, rfl⟩ := hjob
    obtain ⟨_, jobs, hinsert, rfl⟩ := Db.addJob_ok hadded
    obtain ⟨huntouched2, hjobs2, hlog2, hbookings2⟩ := addAssignment_rest hadd
    refine ⟨⟨huntouched2.workRequests, (hevent _ _).trans huntouched2.completions,
      huntouched2.earnings⟩, ⟨booking, hbooking, hstatus, hput _ hbookings2⟩,
      Or.inr ⟨hid ▸ hof, hlog2, _, (hinsert.trans (congrArg some hjobs2.symm)), rfl, hid⟩⟩

/-- The effects of a completed job. -/
structure Completes (db : Db) (jobId : Uuid) (db' : Db) : Prop where
  workRequests : db'.workRequests = db.workRequests
  completions : ∃ event : IntegrationEvent, completions db' = completions db ++ [event] ∧
    event.aggregateId = jobId
  earnings : db'.earnings = db.earnings ∨ ∃ earning : VendorEarning, earning.jobId = jobId ∧
    (∀ other ∈ db.earnings.rows, other.jobId ≠ jobId) ∧
    db.earnings.insert? earning = some db'.earnings

theorem recognizeEarning_rest {db db' : Db} {job : Job} {grossMinor feeMinor : Int}
    {currency : String} {now : Instant} {snapshotId earningId : Uuid} {v : VendorEarning}
    (h : Finance.recognizeEarning db job grossMinor feeMinor currency now snapshotId earningId =
      .ok (db', v)) :
    db'.workRequests = db.workRequests ∧ db'.outbox = db.outbox ∧ db'.jobEvents = db.jobEvents ∧
      (db'.earnings = db.earnings ∨ (v.jobId = job.id ∧
        (∀ other ∈ db.earnings.rows, other.jobId ≠ job.id) ∧
        db.earnings.insert? v = some db'.earnings)) := by
  simp only [Finance.recognizeEarning, seq_committed, require_committed, orRaise_committed] at h
  obtain ⟨_, _, _, _, _, _, h⟩ := h
  split at h
  · rw [return_committed, Prod.mk.injEq] at h
    obtain ⟨rfl, _⟩ := h
    exact ⟨rfl, rfl, rfl, Or.inl rfl⟩
  · simp only [Finance.newEarning, Finance.addEarning, seq_committed, require_committed,
      orRaise_committed, return_committed, Prod.exists, Prod.mk.injEq] at h
    obtain ⟨_, _, _, _, _, _, _, snapshots, _, added, ⟨_, _, _, hfresh, earnings, hinsert, rfl⟩,
      rfl, rfl⟩ := h
    exact ⟨rfl, rfl, rfl, Or.inr ⟨rfl, hfresh, hinsert⟩⟩

/-- The event of a completed job. -/
def jobCompleted (job : Job) (now : Instant) : IntegrationEvent := {
  aggregateType := "job"
  aggregateId := job.id
  eventType := "job.completed"
  payload := [("job_id", .uuid job.id), ("vendor_id", vendorText job.vendorId)]
  nextAttemptAt := now }

theorem completions_emit (db : Db) (job : Job) (now : Instant) :
    completions (db.emit (jobCompleted job now)) = completions db ++ [jobCompleted job now] := by
  simp [completions, Db.emit, List.filter_append, jobCompleted]

theorem recordCompletionEffects_effect {settings : Settings} {db db' : Db} {job : Job}
    {now : Instant} {snapshotId earningId : Uuid}
    (h : recordCompletionEffects settings db job now snapshotId earningId = .ok db') :
    Completes db job.id db' ∧ db'.jobEvents = db.jobEvents := by
  simp only [recordCompletionEffects, seq_committed, return_committed] at h
  obtain ⟨db1, hearning, rfl⟩ := h
  have hemit := completions_emit db1 job now
  split at hearning
  · simp only [seq_committed, orRaise_committed, return_committed, Prod.exists] at hearning
    obtain ⟨booking, _, db2, earning, hrecognized, rfl⟩ := hearning
    obtain ⟨hrequests, houtbox, hlog, hearnings⟩ := recognizeEarning_rest hrecognized
    have hsame : completions db2 = completions db := by
      unfold completions
      rw [houtbox]
    exact ⟨⟨hrequests, ⟨_, hsame ▸ hemit, rfl⟩, hearnings.imp_right fun h => ⟨earning, h⟩⟩, hlog⟩
  · rw [return_committed] at hearning
    subst hearning
    exact ⟨⟨rfl, ⟨_, hemit, rfl⟩, Or.inl rfl⟩, rfl⟩

/-- The transition of a job in the given status to the target. -/
def targetEdge (status target source : JobStatus) (next : JobStatus) : Prop :=
  source = status ∧ next = target

/-- What a committed transition of the job writes. -/
structure TransitionEffect (db : Db) (job : Job) (target : JobStatus) (db' : Db) : Prop where
  writes : JobWrites (targetEdge job.status target) db db'
  bookings : db'.bookings = db.bookings
  reached : ∃ job', db'.jobs.get? job.id = some job' ∧ job'.status = target
  workRequests : db'.workRequests = db.workRequests
  effects : Untouched db db' ∨
    (job.status ≠ .completed ∧ target = .completed ∧ Completes db job.id db')

theorem applyWithEffects_effect {settings : Settings} {db db' : Db} {job job' : Job}
    {target : JobStatus} {actorId : Option Uuid} {actorType : String} {reason : Option String}
    {now : Instant} {snapshotId earningId : Uuid}
    (h : applyWithEffects settings db job target actorId actorType reason now snapshotId
      earningId = .ok (db', job')) (hfound : db.jobs.get? job.id = some job) :
    TransitionEffect db job target db' := by
  obtain ⟨hmoved, hstatus, hbookings, _, hjobs⟩ := applyWithEffects_ok h hfound
  have hreached : db'.jobs.get? job'.id = some job' := hjobs ▸ get?_put_moved hfound hmoved
  simp only [applyWithEffects, seq_committed, return_committed, Prod.exists, Prod.mk.injEq] at h
  obtain ⟨db1, job1, changed, htransition, db2, heffects, rfl, rfl⟩ := h
  have hwrites := applyTransition_writes htransition hfound rfl rfl rfl
  obtain ⟨huntouched, _⟩ := applyTransition_rest htransition
  have hcases := applyTransition_cases htransition
  split at heffects
  · next hcompleted =>
    obtain ⟨hchanged, htarget⟩ := hcompleted
    obtain ⟨hcompletes, hlog⟩ := recordCompletionEffects_effect heffects
    obtain ⟨hjobs2, _, _⟩ := recordCompletionEffects_rows heffects
    have hnot : job.status ≠ .completed := by
      rcases hcases with ⟨_, _, _, hsame⟩ | ⟨hallowed, _⟩
      · rw [hchanged] at hsame
        cases hsame
      · intro hdone
        simp [hdone, transitions] at hallowed
    refine ⟨hwrites.of_rows hjobs2 hlog, hbookings, ⟨job1, hmoved.id ▸ hreached, hstatus⟩,
      hcompletes.workRequests.trans huntouched.workRequests, Or.inr ⟨hnot, htarget, ?_⟩⟩
    obtain ⟨event, hevent, hid⟩ := hcompletes.completions
    have hearnings := hcompletes.earnings
    rw [huntouched.earnings, hmoved.id] at hearnings
    exact ⟨hcompletes.workRequests.trans huntouched.workRequests,
      ⟨event, huntouched.completions ▸ hevent, hid.trans hmoved.id⟩, hearnings⟩
  · rw [return_committed] at heffects
    subst heffects
    exact ⟨hwrites, hbookings, ⟨job1, hmoved.id ▸ hreached, hstatus⟩, huntouched.workRequests,
      Or.inl huntouched⟩

theorem transition_effect {settings : Settings} {db db' : Db} {jobId : Uuid} {target : JobStatus}
    {actorId : Option Uuid} {actorType : String} {reason : Option String} {now : Instant}
    {snapshotId earningId : Uuid} {v : Job}
    (h : transition settings db jobId target actorId actorType reason now snapshotId
      earningId = .ok (db', v)) :
    ∃ job, db.jobs.get? jobId = some job ∧ TransitionEffect db job target db' := by
  simp only [transition, seq_committed, orRaise_committed] at h
  obtain ⟨job, hjob, happly⟩ := h
  exact ⟨job, hjob, applyWithEffects_effect happly (Table.get?_found hjob)⟩

theorem setNotes_kept (job : Job) (notes : String) (notesField : NotesField) :
    (setNotes job notes notesField).id = job.id ∧
      (setNotes job notes notesField).status = job.status ∧
      (setNotes job notes notesField).version = job.version ∧
      (setNotes job notes notesField).bookingId = job.bookingId := by
  cases notesField <;> exact ⟨rfl, rfl, rfl, rfl⟩

theorem technicianNote_effect {settings : Settings} {db db' : Db} {jobId workerId actorId : Uuid}
    {notesField : NotesField} {notes : String} {target : JobStatus} {now : Instant}
    {snapshotId earningId : Uuid} {v : Job}
    (h : technicianNoteTransition settings db jobId workerId actorId notesField notes target
      now snapshotId earningId = .ok (db', v)) :
    ∃ job, db.jobs.get? jobId = some job ∧ TransitionEffect db job target db' := by
  simp only [technicianNoteTransition, seq_committed, orRaise_committed, require_committed] at h
  obtain ⟨job, hjob, _, _, happly⟩ := h
  have hfound : db.jobs.get? job.id = some job := Table.get?_found hjob
  obtain ⟨hid, hstatus, hversion, hbooking⟩ := setNotes_kept job notes notesField
  have heffect := applyWithEffects_effect happly
    (get?_put_moved hfound (setNotes_moved job notes notesField))
  have hnoted : JobWrites (targetEdge job.status target) db
      { db with jobs := db.jobs.put (setNotes job notes notesField) } :=
    .noted hfound hid hbooking hstatus hversion rfl rfl
  refine ⟨job, hjob, ⟨hnoted.trans ?_, heffect.bookings, ?_, heffect.workRequests, ?_⟩⟩
  · exact hstatus ▸ heffect.writes
  · exact hid ▸ heffect.reached
  · rcases heffect.effects with huntouched | ⟨hnot, htarget, hcompletes⟩
    · exact Or.inl ⟨huntouched.workRequests, huntouched.completions, huntouched.earnings⟩
    · exact Or.inr ⟨hstatus ▸ hnot, htarget, hid ▸ ⟨hcompletes.workRequests,
        hcompletes.completions, hcompletes.earnings⟩⟩

/-! ## The customers -/

/-- The transition to a cancelled job. -/
def cancelledEdge (source target : JobStatus) : Prop :=
  source ∈ unassignedStatuses ∧ target = .cancelled

theorem cancelBooking_effect {db db' : Db} {userId bookingId : Uuid} {now : Instant} {v : Booking}
    (h : cancelBooking db userId bookingId now = .ok (db', v)) :
    JobWrites cancelledEdge db db' ∧ Untouched db db' ∧
      ∃ booking, db.bookings.get? bookingId = some booking ∧
        ((booking.status = .cancelled ∧ db' = db) ∨
          (booking.status ∈ cancellable ∧
            Restatused db.bookings db'.bookings booking .cancelled)) := by
  obtain ⟨booking, hbooking, hid, ⟨hcancelled, rfl⟩ | ⟨_, hstatus, db1, _, hjob, rfl⟩⟩ :=
    cancelBooking_ok h
  · exact ⟨.refl _, .refl _, booking, hid ▸ hbooking, Or.inl ⟨hcancelled, rfl⟩⟩
  · have hrest : JobWrites cancelledEdge db db1 ∧ Untouched db db1 ∧
        db1.bookings = db.bookings := by
      unfold cancelJob at hjob
      split at hjob
      · rw [return_committed] at hjob
        subst hjob
        exact ⟨.refl _, .refl _, rfl⟩
      · next job hof =>
        simp only [seq_committed, require_committed, return_committed, Prod.exists] at hjob
        obtain ⟨_, hopen, db2, job2, _, htransition, rfl⟩ := hjob
        have hfound : db.jobs.get? job.id = some job := Table.get?_key (jobOfBooking_some hof).1
        obtain ⟨huntouched, hbookings⟩ := applyTransition_rest htransition
        refine ⟨(applyTransition_writes htransition hfound rfl rfl rfl).mono ?_, huntouched,
          hbookings⟩
        rintro _ _ _ ⟨rfl, rfl⟩
        exact ⟨hopen, rfl⟩
    obtain ⟨hwrites, huntouched, hbookings⟩ := hrest
    refine ⟨hwrites.of_rows rfl rfl,
      ⟨huntouched.workRequests, huntouched.completions, huntouched.earnings⟩, booking,
      hid ▸ hbooking, Or.inr ⟨hstatus, hbooking,
        { booking with status := .cancelled, guestConfirmationRevokedAt := some now }, ?_, rfl,
        rfl⟩⟩
    show db1.bookings.put _ = _
    rw [hbookings]

theorem rescheduleBooking_effect {settings : Settings} {db db' : Db}
    {userId bookingId holdId : Uuid} {bookingSession : String} {now : Instant} {v : Booking}
    (h : rescheduleBooking settings db userId bookingId holdId bookingSession now =
      .ok (db', v)) :
    Untouched db db' ∧ db'.jobs = db.jobs ∧ db'.jobEvents = db.jobEvents ∧
      ∃ booking, db.bookings.get? bookingId = some booking ∧ booking.status ∈ reschedulable ∧
        Restatused db.bookings db'.bookings booking .pendingManualDispatch := by
  obtain ⟨booking, hold, howned, hstatus, _, _, hwritten⟩ := rescheduleBooking_ok h
  cases hwritten
  obtain ⟨hbooking, hid⟩ := ownedBooking_ok howned
  exact ⟨⟨rfl, rfl, rfl⟩, rfl, rfl, booking, hid ▸ hbooking, hstatus, hbooking, _, rfl, rfl, rfl⟩

/-! ## Every operation -/

/-- The job whose status a committed operation overwrites, with the new status. -/
def forcedJob (settings : Settings) (dir : Directory) (db : Db) : Op → Option (Job × JobStatus)
  | .assign request now jobId assignmentId =>
    if (assign settings dir db request now jobId assignmentId).isOk then
      (db.jobOfBooking request.bookingId).map fun job => (job, .assigned)
    else none
  | .automaticAssign bookingId actorId now jobId assignmentId =>
    if (automaticAssign settings dir db bookingId actorId now jobId assignmentId).isOk then
      (db.jobOfBooking bookingId).map fun job => (job, .assigned)
    else none
  | .unassign bookingId actorId reason now =>
    if (unassign db bookingId actorId reason now).isOk then
      (db.jobOfBooking bookingId).map fun job => (job, .matching)
    else none
  | _ => none

/-- The operation commits a new job that is assigned from the start. -/
def AddsUnlogged (settings : Settings) (dir : Directory) (db : Db) : Op → Prop
  | .assign request now jobId assignmentId =>
    (assign settings dir db request now jobId assignmentId).isOk ∧
      db.jobOfBooking request.bookingId = none
  | .automaticAssign bookingId actorId now jobId assignmentId =>
    (automaticAssign settings dir db bookingId actorId now jobId assignmentId).isOk ∧
      db.jobOfBooking bookingId = none
  | .confirm bookingId workerId actorId reason now jobId assignmentId =>
    (confirm dir db bookingId workerId actorId reason now jobId assignmentId).isOk ∧
      db.jobOfBooking bookingId = none
  | _ => False

instance (settings : Settings) (dir : Directory) (db : Db) :
    DecidablePred (AddsUnlogged settings dir db)
  | .assign .. | .automaticAssign .. | .confirm .. => inferInstanceAs (Decidable (_ ∧ _))
  | .matchJob .. | .decideOffer .. | .manualAssign .. | .unassign .. | .transition ..
  | .technicianNote .. | .cancel .. | .reschedule .. => isFalse nofun

/-- The transitions of an operation: those of the operators and the technicians are to
their target, the others are not about a job that waits for an approval. -/
def OpEdge (db : Db) : Op → JobStatus → JobStatus → Prop
  | .transition jobId target .. | .technicianNote jobId _ _ _ _ target .. =>
    fun source next => next = target ∧ ∃ job ∈ db.jobs.get? jobId, job.status = source
  | _ => fun source next => source ≠ .awaitingApproval ∧ next ≠ .awaitingApproval

/-- What an operation writes of the jobs and their log. -/
inductive JobsStep (edge : JobStatus → JobStatus → Prop) (forced : Option (Job × JobStatus))
    (unlogged : Prop) (db db' : Db) : Prop
  | logged (writes : JobWrites edge db db')
  | forced (job : Job) (status : JobStatus) (named : forced = some (job, status))
      (written : Forced db job status db')
  | unlogged (bookingId : Uuid) (named : unlogged) (added : AddsAssigned db bookingId db')

theorem AssignEffect.jobsStep (edge : JobStatus → JobStatus → Prop) {unlogged : Prop}
    {db db' : Db} {bookingId : Uuid} (h : AssignEffect db bookingId db')
    (hunlogged : db.jobOfBooking bookingId = none → unlogged) :
    JobsStep edge ((db.jobOfBooking bookingId).map fun job => (job, JobStatus.assigned)) unlogged
      db db' := by
  obtain ⟨_, _, ⟨job, hof, hforced⟩ | ⟨hof, hadds⟩⟩ := h
  · rw [hof]
    exact .forced job .assigned rfl hforced
  · exact .unlogged bookingId (hunlogged hof) hadds

theorem exec_jobs (settings : Settings) (dir : Directory) (db : Db) (op : Op) :
    JobsStep (OpEdge db op) (forcedJob settings dir db op) (AddsUnlogged settings dir db op) db
      (exec settings dir db op) := by
  have hsame : JobsStep (OpEdge db op) (forcedJob settings dir db op)
      (AddsUnlogged settings dir db op) db db := .logged (.refl db)
  cases op with
  | matchJob jobId actorId now offerId =>
    refine commit_induction hsame fun db' v h => .logged ((matchJob_effect h).1.mono ?_)
    intro source target hallowed hedge
    cases source <;> cases target <;> simp_all [transitions, matchingEdge, OpEdge]
  | decideOffer offerId vendorId accept workerId actorId now assignmentId =>
    refine commit_induction hsame fun db' v h => .logged ((decideOffer_effect h).1.mono ?_)
    rintro source _ hallowed rfl
    cases source <;> simp_all [transitions, OpEdge]
  | manualAssign jobId vendorId workerId actorId reason now assignmentId =>
    refine commit_induction hsame fun db' v h => .logged ((manualAssign_effect h).1.mono ?_)
    rintro source _ hallowed rfl
    cases source <;> simp_all [transitions, OpEdge]
  | assign request now jobId assignmentId =>
    refine commit_induction hsame fun db' v h => ?_
    have hok := isOk_of_eq h
    have hstep := (assign_effect h).jobsStep
      (OpEdge db (.assign request now jobId assignmentId)) (fun hof => And.intro hok hof)
    simp only [forcedJob, if_pos hok]
    exact hstep
  | automaticAssign bookingId actorId now jobId assignmentId =>
    refine commit_induction hsame fun db' v h => ?_
    have hok := isOk_of_eq h
    have hstep := (automaticAssign_effect h).jobsStep
      (OpEdge db (.automaticAssign bookingId actorId now jobId assignmentId))
      (fun hof => And.intro hok hof)
    simp only [forcedJob, if_pos hok]
    exact hstep
  | unassign bookingId actorId reason now =>
    refine commit_induction hsame fun db' v h => ?_
    have hok := isOk_of_eq h
    obtain ⟨_, _, ⟨job, hof, hforced⟩ | ⟨_, hjobs, hlog⟩⟩ := unassign_effect h
    · refine .forced job .matching ?_ hforced
      simp only [forcedJob, if_pos hok, hof, Option.map_some]
    · exact .logged (.of_same hjobs hlog)
  | confirm bookingId workerId actorId reason now jobId assignmentId =>
    refine commit_induction hsame fun db' v h => ?_
    obtain ⟨_, _, ⟨_, _, hjobs, hlog⟩ | ⟨hof, hadds⟩⟩ := confirm_effect h
    · exact .logged (.of_same hjobs hlog)
    · exact .unlogged bookingId ⟨isOk_of_eq h, hof⟩ hadds
  | transition jobId target actorId actorType reason now snapshotId earningId =>
    refine commit_induction hsame fun db' v h => ?_
    obtain ⟨job, hjob, heffect⟩ := transition_effect h
    refine .logged (heffect.writes.mono ?_)
    rintro _ _ _ ⟨rfl, rfl⟩
    exact ⟨rfl, job, hjob, rfl⟩
  | technicianNote jobId workerId actorId notesField notes target now snapshotId earningId =>
    refine commit_induction hsame fun db' v h => ?_
    obtain ⟨job, hjob, heffect⟩ := technicianNote_effect h
    refine .logged (heffect.writes.mono ?_)
    rintro _ _ _ ⟨rfl, rfl⟩
    exact ⟨rfl, job, hjob, rfl⟩
  | cancel userId bookingId now =>
    refine commit_induction hsame fun db' v h => .logged ((cancelBooking_effect h).1.mono ?_)
    rintro source _ _ ⟨hopen, rfl⟩
    refine ⟨?_, by simp⟩
    rintro rfl
    simp [unassignedStatuses] at hopen
  | reschedule userId bookingId holdId bookingSession now =>
    refine commit_induction hsame fun db' v h => ?_
    obtain ⟨_, hjobs, hlog, _⟩ := rescheduleBooking_effect h
    exact .logged (.of_same hjobs hlog)

/-! ### The writes that the log does not record -/

/-- Of a committed operation, the job of the booking is the one whose status is overwritten. -/
theorem forced_of_commit {α : Type} {db : Db} {r : Except Raised (Db × α)} {bookingId : Uuid}
    {job : Job} {overwritten status : JobStatus} {p : Db → Prop}
    (h : (if r.isOk then (db.jobOfBooking bookingId).map fun job => (job, overwritten) else none) =
      some (job, status))
    (heffect : ∀ db' v, r = .ok (db', v) →
      (∃ job, db.jobOfBooking bookingId = some job ∧ Forced db job overwritten db') ∨
        (db.jobOfBooking bookingId = none ∧ p db')) :
    Forced db job status (commit db r) := by
  split at h
  · next hok =>
    obtain ⟨db', v, heq⟩ := eq_ok_of_isOk hok
    obtain ⟨found, hof, hpair⟩ := Option.map_eq_some_iff.mp h
    cases hpair
    rw [commit_ok heq]
    rcases heffect db' v heq with ⟨other, hother, hforced⟩ | ⟨hnone, _⟩
    · rw [hof] at hother
      cases hother
      exact hforced
    · rw [hof] at hnone
      cases hnone
  · cases h

/-- What a committed operation that overwrites a status leaves of the job. -/
theorem exec_forced {settings : Settings} {dir : Directory} {db : Db} {op : Op} {job : Job}
    {status : JobStatus} (h : forcedJob settings dir db op = some (job, status)) :
    Forced db job status (exec settings dir db op) := by
  unfold forcedJob at h
  split at h
  · exact forced_of_commit h fun _ _ heq => (assign_effect heq).2.2
  · exact forced_of_commit h fun _ _ heq => (automaticAssign_effect heq).2.2
  · exact forced_of_commit h fun _ _ heq => (unassign_effect heq).2.2
  · cases h

theorem adds_of_effect {db db' : Db} {bookingId : Uuid} {p : Job → Prop}
    (h : (∃ job, db.jobOfBooking bookingId = some job ∧ p job) ∨
      (db.jobOfBooking bookingId = none ∧ AddsAssigned db bookingId db'))
    (hof : db.jobOfBooking bookingId = none) : AddsAssigned db bookingId db' := by
  rcases h with ⟨job, hof', _⟩ | ⟨_, hadds⟩
  · rw [hof] at hof'
    cases hof'
  · exact hadds

theorem exec_addsUnlogged {settings : Settings} {dir : Directory} {db : Db} {op : Op}
    (h : AddsUnlogged settings dir db op) :
    ∃ bookingId, AddsAssigned db bookingId (exec settings dir db op) := by
  cases op with
  | assign request now jobId assignmentId =>
    obtain ⟨hok, hof⟩ := h
    obtain ⟨db', v, heq⟩ := eq_ok_of_isOk hok
    rw [exec, commit_ok heq]
    exact ⟨_, adds_of_effect (assign_effect heq).2.2 hof⟩
  | automaticAssign bookingId actorId now jobId assignmentId =>
    obtain ⟨hok, hof⟩ := h
    obtain ⟨db', v, heq⟩ := eq_ok_of_isOk hok
    rw [exec, commit_ok heq]
    exact ⟨_, adds_of_effect (automaticAssign_effect heq).2.2 hof⟩
  | confirm bookingId workerId actorId reason now jobId assignmentId =>
    obtain ⟨hok, hof⟩ := h
    obtain ⟨db', v, heq⟩ := eq_ok_of_isOk hok
    rw [exec, commit_ok heq]
    exact ⟨_, adds_of_effect (confirm_effect heq).2.2 hof⟩
  | _ => exact absurd h id

end Breero.Dispatch
