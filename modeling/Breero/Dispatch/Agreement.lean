import Breero.Dispatch.Effects

/-!
A booking, its job and the job's assignment tell the same professional and the same
window.

* `DispatchInv` is the invariant, and `Step.dispatchInv` its step;
* `booking_job_agree`: it holds in a run exactly if no step closes a job under its
  active assignment, and none moves a booking away from its job;
* `cancelled_and_moved_disagree` are two runs with such a step.
-/

namespace Breero.Dispatch
open KeyedTable Transaction Runs Bookings

/-! ## The laws -/

/-- An active assignment is of its job's worker and vendor. -/
def AssignmentAgrees (db : Db) : Prop :=
  ∀ a ∈ db.assignments.rows, a.status = .active → ∃ job ∈ db.jobs.rows,
    job.id = a.jobId ∧ job.workerId = some a.workerId ∧ job.vendorId = some a.vendorId

/-- A booking's professional is its job's worker. -/
def ProfessionalAgrees (db : Db) : Prop :=
  ∀ job ∈ db.jobs.rows, ∀ b ∈ db.bookings.get? job.bookingId, b.providerWorkerId = job.workerId

/-- A job is scheduled in its booking's window. -/
def WindowAgrees (db : Db) : Prop :=
  ∀ job ∈ db.jobs.rows, ∀ b ∈ db.bookings.get? job.bookingId,
    job.scheduledStart = b.windowStart ∧ job.scheduledEnd = b.windowEnd

/-- A closed job has no active assignment. -/
def ClosedUnassigned (db : Db) : Prop :=
  ∀ job ∈ db.jobs.rows, job.status ∈ terminalStatuses →
    ∀ a ∈ db.assignments.rows, a.status = .active → a.jobId ≠ job.id

def Agrees (db : Db) : Prop :=
  AssignmentAgrees db ∧ ProfessionalAgrees db ∧ WindowAgrees db ∧ ClosedUnassigned db

instance : DecidablePred AssignmentAgrees := fun db =>
  inferInstanceAs (Decidable (∀ a ∈ db.assignments.rows, _ → ∃ job ∈ db.jobs.rows, _))

instance : DecidablePred ProfessionalAgrees := fun db =>
  inferInstanceAs (Decidable (∀ job ∈ db.jobs.rows, ∀ b ∈ db.bookings.get? job.bookingId, _))

instance : DecidablePred WindowAgrees := fun db =>
  inferInstanceAs (Decidable (∀ job ∈ db.jobs.rows, ∀ b ∈ db.bookings.get? job.bookingId, _))

instance : DecidablePred ClosedUnassigned := fun db =>
  inferInstanceAs (Decidable (∀ job ∈ db.jobs.rows, _ → ∀ a ∈ db.assignments.rows, _ → _))

instance : DecidablePred Agrees := fun _ => inferInstanceAs (Decidable (_ ∧ _ ∧ _ ∧ _))

/-! ## When a step keeps them -/

/-- The job waits for a professional in the window of the hold. -/
def WaitsIn (hold : BookingCapacityHold) (job : Job) : Prop :=
  job.workerId = none ∧ job.scheduledStart = hold.slotStartUtc ∧
    job.scheduledEnd = hold.slotEndUtc

instance (hold : BookingCapacityHold) : DecidablePred (WaitsIn hold) := fun _ =>
  inferInstanceAs (Decidable (_ ∧ _ ∧ _))

/-- The step does not commit a transition that closes a job with an active assignment,
nor move a booking away from its job. -/
def KeepsAgreement (settings : Settings) (db : Db) : Op → Prop
  | .transition jobId target actorId actorType reason now snapshotId earningId =>
    target ∈ terminalStatuses →
      (Jobs.transition settings db jobId target actorId actorType reason now snapshotId
        earningId).isOk →
      db.activeAssignment jobId = none
  | .technicianNote jobId workerId actorId notesField notes target now snapshotId earningId =>
    target ∈ terminalStatuses →
      (Jobs.technicianNoteTransition settings db jobId workerId actorId notesField notes target
        now snapshotId earningId).isOk →
      db.activeAssignment jobId = none
  | .reschedule userId bookingId holdId bookingSession now =>
    (rescheduleBooking settings db userId bookingId holdId bookingSession now).isOk →
      ∀ hold ∈ db.holds.get? holdId, ∀ job ∈ db.jobs.rows, job.bookingId = bookingId →
        WaitsIn hold job
  | _ => True

instance (settings : Settings) (db : Db) : DecidablePred (KeepsAgreement settings db)
  | .transition .. => inferInstanceAs (Decidable (_ → _ → _))
  | .technicianNote .. => inferInstanceAs (Decidable (_ → _ → _))
  | .reschedule _ _ holdId .. => inferInstanceAs (Decidable
      (_ → ∀ hold ∈ db.holds.get? holdId, ∀ job ∈ db.jobs.rows, _ → WaitsIn hold job))
  | .matchJob .. | .decideOffer .. | .manualAssign .. | .assign .. | .automaticAssign ..
  | .unassign .. | .confirm .. | .cancel .. => isTrue trivial

/-! ## The invariant -/

/-- The booking of the job is for its worker and in its window. -/
def Fits (bookings : Table Booking) (job : Job) : Prop :=
  ∀ b ∈ bookings.get? job.bookingId, b.providerWorkerId = job.workerId ∧
    job.scheduledStart = b.windowStart ∧ job.scheduledEnd = b.windowEnd

/-- The job of the assignment is on its way, with the assignment's worker and vendor. -/
def Staffed (jobs : Table Job) (a : Assignment) : Prop :=
  ∃ job, jobs.get? a.jobId = some job ∧ job.workerId = some a.workerId ∧
    job.vendorId = some a.vendorId ∧ job.status ∉ terminalStatuses ∧
    job.status ∉ unassignedStatuses

structure DispatchInv (db : Db) : Prop where
  fits : ∀ job ∈ db.jobs.rows, Fits db.bookings job
  staffed : ∀ a ∈ db.assignments.rows, a.status = .active → Staffed db.jobs a
  oneActive : ∀ a ∈ db.assignments.rows, a.status = .active →
    ∀ b ∈ db.assignments.rows, b.status = .active → a.jobId = b.jobId → a = b
  oneJob : ∀ job ∈ db.jobs.rows, ∀ other ∈ db.jobs.rows, other.bookingId = job.bookingId →
    other = job

theorem DispatchInv.agrees {db : Db} (h : DispatchInv db) : Agrees db := by
  refine ⟨fun a ha hactive => ?_, fun job hjob b hb => (h.fits job hjob b hb).1,
    fun job hjob b hb => (h.fits job hjob b hb).2, fun job hjob hclosed a ha hactive hid => ?_⟩
  · obtain ⟨job, hjob, hworker, hvendor, _, _⟩ := h.staffed a ha hactive
    exact ⟨job, Table.mem_of_get? hjob, Table.key_of_get? hjob, hworker, hvendor⟩
  · obtain ⟨job', hjob', _, _, hopen, _⟩ := h.staffed a ha hactive
    have hsame : job' = job :=
      Table.eq_of_key (Table.mem_of_get? hjob') hjob ((Table.key_of_get? hjob').trans hid)
    exact hopen (hsame ▸ hclosed)

/-! ### Bookings -/

theorem Fits.kept {t u : Table Booking} {job : Job} (h : Fits t job) (hkept : SlotsKept t u) :
    Fits u job := by
  intro b' hb'
  obtain ⟨b, hb, hstart, hend, hworker⟩ := hkept _ b' hb'
  obtain ⟨hw, hs, he⟩ := h b hb
  exact ⟨hworker.trans hw, hs.trans hstart.symm, he.trans hend.symm⟩

/-- A job with the worker that the booking is now for. -/
theorem Fits.reassigned {t u : Table Booking} {job job' : Job} {bookingId : Uuid}
    {worker : Option Uuid} (h : Fits t job) (hre : Reassigned bookingId worker t u)
    (hbooking : job'.bookingId = job.bookingId)
    (hstart : job'.scheduledStart = job.scheduledStart)
    (hend : job'.scheduledEnd = job.scheduledEnd) (hid : job.bookingId = bookingId)
    (hworker : job'.workerId = worker) : Fits u job' := by
  intro b' hb'
  obtain ⟨b, hb, hbstart, hbend, hbworker⟩ := hre _ b' hb'
  rw [if_pos (hbooking.trans hid)] at hbworker
  obtain ⟨_, hs, he⟩ := h b (hbooking ▸ hb)
  refine ⟨hbworker.trans hworker.symm, ?_, ?_⟩
  · rw [hstart, hs, hbstart]
  · rw [hend, he, hbend]

/-- A job of another booking. -/
theorem Fits.other {t u : Table Booking} {job : Job} {bookingId : Uuid} {worker : Option Uuid}
    (h : Fits t job) (hre : Reassigned bookingId worker t u) (hid : job.bookingId ≠ bookingId) :
    Fits u job := by
  intro b' hb'
  obtain ⟨b, hb, hbstart, hbend, hbworker⟩ := hre _ b' hb'
  rw [if_neg hid] at hbworker
  obtain ⟨hw, hs, he⟩ := h b hb
  exact ⟨hbworker.trans hw, hs.trans hbstart.symm, he.trans hbend.symm⟩

theorem Fits.moved {t : Table Booking} {job job' : Job} (h : Fits t job) (hmoved : Moved job job') :
    Fits t job' := by
  intro b hb
  obtain ⟨hw, hs, he⟩ := h b (hmoved.bookingId ▸ hb)
  exact ⟨hw.trans hmoved.workerId.symm, hmoved.scheduledStart.trans hs,
    hmoved.scheduledEnd.trans he⟩

/-! ### Assignments -/

theorem Staffed.put_other {t : Table Job} {a : Assignment} {job : Job} (h : Staffed t a)
    (hid : job.id ≠ a.jobId) : Staffed (t.put job) a := by
  obtain ⟨job', hjob', hrest⟩ := h
  exact ⟨job', by rw [Table.get?_put_ne hid]; exact hjob', hrest⟩

theorem Staffed.insert {t u : Table Job} {a : Assignment} {job : Job}
    (hinsert : t.insert? job = some u) (h : Staffed t a) : Staffed u a := by
  obtain ⟨job', hjob', hrest⟩ := h
  exact ⟨job', Table.get?_insert_of_some hinsert hjob', hrest⟩

/-- The jobs of the assignments of other jobs are kept. -/
theorem Renewed.staffed {t u : Table Assignment} {jobs jobs' : Table Job} {new : Assignment}
    (h : Renewed new t u) (hold : ∀ a ∈ t.rows, a.status = .active → Staffed jobs a)
    (hkept : ∀ a, a.jobId ≠ new.jobId → Staffed jobs a → Staffed jobs' a)
    (hnew : Staffed jobs' new) : ∀ a ∈ u.rows, a.status = .active → Staffed jobs' a := by
  intro a ha hactive
  rcases h a ha hactive with rfl | ⟨ha, hne⟩
  · exact hnew
  · exact hkept a hne (hold a ha hactive)

theorem Renewed.oneActive {t u : Table Assignment} {new : Assignment} (h : Renewed new t u)
    (hold : ∀ a ∈ t.rows, a.status = .active → ∀ b ∈ t.rows, b.status = .active →
      a.jobId = b.jobId → a = b) :
    ∀ a ∈ u.rows, a.status = .active → ∀ b ∈ u.rows, b.status = .active →
      a.jobId = b.jobId → a = b := by
  intro a ha hactive b hb hactive' hid
  rcases h a ha hactive with rfl | ⟨ha, hne⟩
  · rcases h b hb hactive' with rfl | ⟨_, hne'⟩
    · rfl
    · exact absurd hid.symm hne'
  · rcases h b hb hactive' with rfl | ⟨hb, _⟩
    · exact absurd hid hne
    · exact hold a ha hactive b hb hactive' hid

/-- The active assignments after a release are the ones of the other jobs. -/
theorem released_other {db : Db} (h : DispatchInv db) {jobId : Uuid} {now : Instant}
    {a : Assignment} (ha : a ∈ (releaseActive db jobId now).assignments.rows)
    (hactive : a.status = .active) : a.jobId ≠ jobId := by
  intro hid
  have hmem := releaseActive_mem ha hactive
  unfold releaseActive at ha
  split at ha
  · next active hfound =>
    obtain ⟨hmem', hid', hactive'⟩ := activeAssignment_some hfound
    have hsame : a = active :=
      h.oneActive a hmem hactive active hmem' hactive' (hid.trans hid'.symm)
    rcases Table.mem_put.mp ha with ⟨rfl, _⟩ | ⟨_, hne⟩
    · cases hactive
    · have hkey : a.id = active.id := congrArg Assignment.id hsame
      exact hne hkey
  · next hnone => exact activeAssignment_none.mp hnone a hmem hactive hid

/-! ### Steps -/

/-- A rewritten job is still the only one of its booking. -/
theorem oneJob_put {db : Db} (h : DispatchInv db) {job job' : Job}
    (hfound : db.jobs.get? job.id = some job) (hbooking : job'.bookingId = job.bookingId)
    (hid : job'.id = job.id) : ∀ j ∈ (db.jobs.put job').rows, ∀ other ∈ (db.jobs.put job').rows,
      other.bookingId = j.bookingId → other = j := by
  have hmem := Table.mem_of_get? hfound
  intro j hj other hother hsame
  rcases Table.mem_put.mp hj with ⟨rfl, _⟩ | ⟨hold, hne⟩
  · rcases Table.mem_put.mp hother with ⟨rfl, _⟩ | ⟨hother, hne'⟩
    · rfl
    · have heq : other = job := h.oneJob job hmem other hother (hsame.trans hbooking)
      exact absurd (heq ▸ hid.symm) hne'
  · rcases Table.mem_put.mp hother with ⟨rfl, _⟩ | ⟨hother, _⟩
    · have heq : j = job := h.oneJob job hmem j hold (hsame.symm.trans hbooking)
      exact absurd (heq ▸ hid.symm) hne
    · exact h.oneJob j hold other hother hsame

/-- A new job is the only one of its booking. -/
theorem oneJob_insert {db : Db} (h : DispatchInv db) {job : Job} {jobs : Table Job}
    (inserted : db.jobs.insert? job = some jobs)
    (first : ∀ other ∈ db.jobs.rows, other.bookingId ≠ job.bookingId) :
    ∀ j ∈ jobs.rows, ∀ other ∈ jobs.rows, other.bookingId = j.bookingId → other = j := by
  intro j hj other hother hsame
  rcases (Table.mem_insert inserted).mp hj with hj | rfl
  · rcases (Table.mem_insert inserted).mp hother with hother | rfl
    · exact h.oneJob j hj other hother hsame
    · exact absurd hsame.symm (first j hj)
  · rcases (Table.mem_insert inserted).mp hother with hother | rfl
    · exact absurd hsame (first other hother)
    · rfl

/-- A rewritten job with the worker that its booking is now for. -/
theorem fits_put {db : Db} (h : DispatchInv db) {job job' : Job} {bookings : Table Booking}
    {worker : Option Uuid} (found : db.jobs.get? job.id = some job) (id : job'.id = job.id)
    (hre : Reassigned job.bookingId worker db.bookings bookings) (hfits : Fits bookings job') :
    ∀ j ∈ (db.jobs.put job').rows, Fits bookings j := by
  intro j hj
  rcases Table.mem_put.mp hj with ⟨rfl, _⟩ | ⟨hj, hne⟩
  · exact hfits
  · refine (h.fits j hj).other hre fun hsame => ?_
    have hjob : j = job := h.oneJob job (Table.mem_of_get? found) j hj hsame
    exact hne (hjob ▸ id.symm)

/-- A step that writes neither a job nor an assignment. -/
theorem DispatchInv.of_fits {db db' : Db} (h : DispatchInv db) (jobs : db'.jobs = db.jobs)
    (assignments : db'.assignments = db.assignments)
    (fits : ∀ job ∈ db.jobs.rows, Fits db'.bookings job) : DispatchInv db' where
  fits := by
    rw [jobs]
    exact fits
  staffed := by
    rw [jobs, assignments]
    exact h.staffed
  oneActive := by
    rw [assignments]
    exact h.oneActive
  oneJob := by
    rw [jobs]
    exact h.oneJob

section
variable {db db' : Db} {job job' : Job} {new : Assignment}

/-- A job is closed only before it is assigned, or without an assignment. -/
theorem DispatchInv.staffed_moved (h : DispatchInv db) (found : db.jobs.get? job.id = some job)
    (moved : Moved job job')
    (free : job'.status ∈ terminalStatuses →
      job.status ∈ unassignedStatuses ∨ db.activeAssignment job.id = none)
    {a : Assignment} (ha : a ∈ db.assignments.rows) (hactive : a.status = .active) :
    Staffed (db.jobs.put job') a := by
  have hstaffed := h.staffed a ha hactive
  by_cases hid : job'.id = a.jobId
  · obtain ⟨j, hj, hworker, hvendor, _, hassigned⟩ := hstaffed
    have hjid : job.id = a.jobId := moved.id.symm.trans hid
    rw [← hjid, found] at hj
    cases hj
    refine ⟨job', Table.get?_put_self (hjid ▸ found) hid, moved.workerId.trans hworker,
      moved.vendorId.trans hvendor, fun hclosed => ?_,
      fun hunassigned => hassigned (moved.unassigned hunassigned)⟩
    rcases free hclosed with hunassigned | hnone
    · exact hassigned hunassigned
    · exact activeAssignment_none.mp hnone a ha hactive hjid.symm
  · exact hstaffed.put_other hid

theorem DispatchInv.moved (h : DispatchInv db) (found : db.jobs.get? job.id = some job)
    (moved : Moved job job')
    (free : job'.status ∈ terminalStatuses →
      job.status ∈ unassignedStatuses ∨ db.activeAssignment job.id = none)
    (jobs : db'.jobs = db.jobs.put job') (assignments : db'.assignments = db.assignments)
    (bookings : SlotsKept db.bookings db'.bookings) : DispatchInv db' := by
  refine ⟨?_, ?_, ?_, ?_⟩
  · rw [jobs]
    intro j hj
    rcases Table.mem_put.mp hj with ⟨rfl, _⟩ | ⟨hj, _⟩
    · exact ((h.fits job (Table.mem_of_get? found)).moved moved).kept bookings
    · exact (h.fits j hj).kept bookings
  · rw [jobs, assignments]
    exact fun a ha hactive => h.staffed_moved found moved free ha hactive
  · rw [assignments]
    exact h.oneActive
  · rw [jobs]
    exact oneJob_put h found moved.bookingId moved.id

/-- A job with the people of a new assignment. -/
theorem DispatchInv.assigned (h : DispatchInv db) (found : db.jobs.get? job.id = some job)
    (id : job'.id = job.id) (jobId : new.jobId = job.id)
    (vendorId : job'.vendorId = some new.vendorId) (workerId : job'.workerId = some new.workerId)
    (status : job'.status = .assigned) (jobs : db'.jobs = db.jobs.put job')
    (bookingId : job'.bookingId = job.bookingId)
    (assignments : Renewed new db.assignments db'.assignments)
    (bookings : Reassigned job.bookingId (some new.workerId) db.bookings db'.bookings)
    (hfits : Fits db'.bookings job') : DispatchInv db' := by
  refine ⟨?_, ?_, ?_, ?_⟩
  · rw [jobs]
    exact fits_put h found id bookings hfits
  · rw [jobs]
    refine assignments.staffed h.staffed (fun a hne ha => ?_) ?_
    · exact ha.put_other fun hid => hne (jobId.symm ▸ (id ▸ hid).symm)
    · have hnew : new.jobId = job'.id := jobId.trans id.symm
      refine ⟨job', Table.get?_put_self (jobId.symm ▸ found) hnew.symm, workerId, vendorId,
        ?_, ?_⟩
      · simp [status, terminalStatuses]
      · simp [status, unassignedStatuses]
  · exact assignments.oneActive h.oneActive
  · rw [jobs]
    exact oneJob_put h found bookingId id

/-- The first job of a booking, with its assignment. -/
theorem DispatchInv.created (h : DispatchInv db) (inserted : db.jobs.insert? job = some db'.jobs)
    (first : ∀ other ∈ db.jobs.rows, other.bookingId ≠ job.bookingId)
    (window : ∀ b ∈ db.bookings.get? job.bookingId,
      job.scheduledStart = b.windowStart ∧ job.scheduledEnd = b.windowEnd)
    (jobId : new.jobId = job.id) (vendorId : job.vendorId = some new.vendorId)
    (workerId : job.workerId = some new.workerId) (status : job.status = .assigned)
    (assignments : Renewed new db.assignments db'.assignments)
    (bookings : Reassigned job.bookingId (some new.workerId) db.bookings db'.bookings) :
    DispatchInv db' := by
  refine ⟨?_, ?_, ?_, oneJob_insert h inserted first⟩
  · intro j hj
    rcases (Table.mem_insert inserted).mp hj with hj | rfl
    · exact (h.fits j hj).other bookings (first j hj)
    · intro b' hb'
      obtain ⟨b, hb, hstart, hend, hworker⟩ := bookings _ b' hb'
      rw [if_pos rfl] at hworker
      obtain ⟨hs, he⟩ := window b hb
      exact ⟨hworker.trans workerId.symm, hs.trans hstart.symm, he.trans hend.symm⟩
  · refine assignments.staffed h.staffed (fun a _ ha => ha.insert inserted) ?_
    refine ⟨job, jobId.symm ▸ Table.get?_insert_self inserted, workerId, vendorId, ?_, ?_⟩
    · simp [status, terminalStatuses]
    · simp [status, unassignedStatuses]
  · exact assignments.oneActive h.oneActive

/-- A job without people, whose assignment is released. -/
theorem DispatchInv.unassigned {now : Instant} (h : DispatchInv db)
    (found : db.jobs.get? job.id = some job)
    (jobs : db'.jobs = db.jobs.put
      { job with vendorId := none, workerId := none, status := .matching })
    (assignments : db'.assignments = (releaseActive db job.id now).assignments)
    (bookings : Reassigned job.bookingId none db.bookings db'.bookings) : DispatchInv db' := by
  have hfits : Fits db'.bookings
      { job with vendorId := none, workerId := none, status := .matching } :=
    (h.fits job (Table.mem_of_get? found)).reassigned bookings rfl rfl rfl rfl rfl
  refine ⟨?_, ?_, ?_, ?_⟩
  · rw [jobs]
    exact fits_put h found rfl bookings hfits
  · rw [jobs, assignments]
    intro a ha hactive
    have hother := released_other h ha hactive
    exact (h.staffed a (releaseActive_mem ha hactive) hactive).put_other hother.symm
  · rw [assignments]
    intro a ha hactive b hb hactive' hid
    exact h.oneActive a (releaseActive_mem ha hactive) hactive b (releaseActive_mem hb hactive')
      hactive' hid
  · rw [jobs]
    exact oneJob_put h found rfl rfl

/-- A booking for the worker that its job is for already. -/
theorem DispatchInv.reserved {bookingId : Uuid} {worker : Option Uuid} (h : DispatchInv db)
    (same : ∀ job ∈ db.jobOfBooking bookingId, job.workerId = worker)
    (jobs : db'.jobs = db.jobs) (assignments : db'.assignments = db.assignments)
    (bookings : Reassigned bookingId worker db.bookings db'.bookings) : DispatchInv db' := by
  refine h.of_fits jobs assignments fun j hj => ?_
  by_cases hid : j.bookingId = bookingId
  · have hworker : j.workerId = worker := by
      cases hof : db.jobOfBooking bookingId with
      | none => exact absurd hid (jobOfBooking_none hof j hj)
      | some job =>
        obtain ⟨hmem, hbooking⟩ := jobOfBooking_some hof
        have hjob : j = job := h.oneJob job hmem j hj (hid.trans hbooking.symm)
        exact hjob ▸ same job hof
    exact (h.fits j hj).reassigned bookings rfl rfl rfl hid hworker
  · exact (h.fits j hj).other bookings hid

/-- A booking that moves to where its job is already. -/
theorem DispatchInv.rescheduled {b : Booking} {hold : BookingCapacityHold} (h : DispatchInv db)
    (same : ∀ job ∈ db.jobs.rows, job.bookingId = b.id → job.workerId = none ∧
      job.scheduledStart = hold.slotStartUtc ∧ job.scheduledEnd = hold.slotEndUtc)
    (jobs : db'.jobs = db.jobs) (assignments : db'.assignments = db.assignments)
    (bookings : db'.bookings = db.bookings.put (rescheduled b hold)) : DispatchInv db' := by
  refine h.of_fits jobs assignments fun j hj => ?_
  rw [bookings]
  intro b' hb'
  rcases Table.get?_put_some hb' with ⟨rfl, hid⟩ | ⟨_, hb'⟩
  · obtain ⟨hworker, hstart, hend⟩ := same j hj hid.symm
    exact ⟨hworker.symm, hstart, hend⟩
  · exact h.fits j hj b' hb'

theorem Step.dispatchInv (hstep : Step db db') (h : DispatchInv db) : DispatchInv db' := by
  cases hstep with
  | kept jobs assignments bookings =>
    exact h.of_fits jobs assignments fun job hjob => (h.fits job hjob).kept bookings
  | moved job job' found moved free jobs assignments bookings =>
    exact h.moved found moved free jobs assignments bookings
  | assigned job job' new found id bookingId scheduledStart scheduledEnd jobId vendorId workerId
      status jobs assignments bookings =>
    have hfits : Fits db'.bookings job' :=
      (h.fits job (Table.mem_of_get? found)).reassigned bookings bookingId scheduledStart
        scheduledEnd rfl workerId
    exact h.assigned found id jobId vendorId workerId status jobs bookingId assignments bookings
      hfits
  | created job new inserted first window jobId vendorId workerId status assignments bookings =>
    exact h.created inserted first window jobId vendorId workerId status assignments bookings
  | unassigned job now found jobs assignments bookings =>
    exact h.unassigned found jobs assignments bookings
  | reserved bookingId worker same jobs assignments bookings =>
    exact h.reserved same jobs assignments bookings
  | rescheduled b hold found same jobs assignments bookings =>
    exact h.rescheduled same jobs assignments bookings

end

theorem exec_step (settings : Settings) (dir : Directory) {db : Db} {op : Op}
    (hkeeps : KeepsAgreement settings db op) : Step db (exec settings dir db op) := by
  cases op with
  | matchJob jobId actorId now offerId => exact .of_commit fun db' v h => matchJob_step h
  | decideOffer offerId vendorId accept workerId actorId now assignmentId =>
    exact .of_commit fun db' v h => decideOffer_step h
  | manualAssign jobId vendorId workerId actorId reason now assignmentId =>
    exact .of_commit fun db' v h => manualAssign_step h
  | assign request now jobId assignmentId => exact .of_commit fun db' v h => assign_step h
  | automaticAssign bookingId actorId now jobId assignmentId =>
    exact .of_commit fun db' v h => automaticAssign_step h
  | unassign bookingId actorId reason now => exact .of_commit fun db' v h => unassign_step h
  | confirm bookingId workerId actorId reason now jobId assignmentId =>
    exact .of_commit fun db' v h => confirm_step h
  | transition jobId target actorId actorType reason now snapshotId earningId =>
    exact .of_commit fun db' v h =>
      transition_step h fun hterminal => hkeeps hterminal (isOk_of_eq h)
  | technicianNote jobId workerId actorId notesField notes target now snapshotId earningId =>
    exact .of_commit fun db' v h =>
      technicianNote_step h fun hterminal => hkeeps hterminal (isOk_of_eq h)
  | cancel userId bookingId now => exact .of_commit fun db' v h => cancelBooking_step h
  | reschedule userId bookingId holdId bookingSession now =>
    exact .of_commit fun db' v h => rescheduleBooking_step h (hkeeps (isOk_of_eq h))

/-! ## The steps that break the agreement -/

/-- A job that is closed under an active assignment. -/
theorem not_closedUnassigned {db db' : Db} {job : Job} (hfree : ClosedUnassigned db')
    (hjob : job ∈ db'.jobs.rows) (hclosed : job.status ∈ terminalStatuses)
    (hassignments : db'.assignments = db.assignments) : db.activeAssignment job.id = none := by
  rw [activeAssignment_none, ← hassignments]
  exact hfree job hjob hclosed

theorem keepsAgreement_of_agrees {settings : Settings} {dir : Directory} {db : Db} {op : Op}
    (h : Agrees (exec settings dir db op)) : KeepsAgreement settings db op := by
  obtain ⟨_, hprofessional, hwindow, hclosed⟩ := h
  cases op with
  | matchJob | decideOffer | manualAssign | assign | automaticAssign | unassign | confirm
  | cancel => trivial
  | transition jobId target actorId actorType reason now snapshotId earningId =>
    intro hterminal hok
    obtain ⟨db', job', heq⟩ := eq_ok_of_isOk hok
    rw [exec, commit_ok heq] at hclosed
    simp only [Jobs.transition, seq_committed, orRaise_committed] at heq
    obtain ⟨job, hjob, happly⟩ := heq
    have hid : job.id = jobId := Table.key_of_get? hjob
    subst hid
    obtain ⟨hmoved, hstatus, _, hassignments, hjobs⟩ := applyWithEffects_ok happly hjob
    have hmem : job' ∈ db'.jobs.rows := by
      rw [hjobs]
      exact Table.mem_of_get? (get?_put_moved hjob hmoved)
    exact hmoved.id ▸ not_closedUnassigned hclosed hmem (hstatus.symm ▸ hterminal) hassignments
  | technicianNote jobId workerId actorId notesField notes target now snapshotId earningId =>
    intro hterminal hok
    obtain ⟨db', job', heq⟩ := eq_ok_of_isOk hok
    rw [exec, commit_ok heq] at hclosed
    simp only [Jobs.technicianNoteTransition, seq_committed, orRaise_committed,
      require_committed] at heq
    obtain ⟨job, hjob, _, _, happly⟩ := heq
    have hid : job.id = jobId := Table.key_of_get? hjob
    subst hid
    have hnoted := setNotes_moved job notes notesField
    have hfound := get?_put_moved hjob hnoted
    obtain ⟨hmoved, hstatus, _, hassignments, hjobs⟩ := applyWithEffects_ok happly hfound
    have hmem : job' ∈ db'.jobs.rows := by
      rw [hjobs]
      exact Table.mem_of_get? (get?_put_moved hfound hmoved)
    have hsame : job'.id = job.id := (hnoted.trans hmoved).id
    exact hsame ▸ not_closedUnassigned hclosed hmem (hstatus.symm ▸ hterminal) hassignments
  | reschedule userId bookingId holdId bookingSession now =>
    intro hok hold hhold job hjob hid
    obtain ⟨db', v, heq⟩ := eq_ok_of_isOk hok
    rw [exec, commit_ok heq] at hprofessional hwindow
    obtain ⟨booking, hold', howned, _, hhold', _, hwritten⟩ := rescheduleBooking_ok heq
    cases hwritten
    obtain ⟨hbooking, hbid⟩ := ownedBooking_ok howned
    rw [hhold] at hhold'
    cases hhold'
    have hmoved : (db.bookings.put (rescheduled booking hold)).get? job.bookingId =
        some (rescheduled booking hold) := by
      rw [hid, ← hbid]
      exact Table.get?_put_self hbooking rfl
    have hworker := hprofessional job hjob _ hmoved
    exact ⟨hworker.symm, hwindow job hjob _ hmoved⟩

/-! ## Runs -/

/-- Before any assignment: every job is of one booking, for its professional and in its
window. -/
def BeforeDispatch (db : Db) : Prop :=
  (∀ a ∈ db.assignments.rows, a.status ≠ .active) ∧ ProfessionalAgrees db ∧ WindowAgrees db ∧
    ∀ job ∈ db.jobs.rows, ∀ other ∈ db.jobs.rows, other.bookingId = job.bookingId → other = job

instance : DecidablePred BeforeDispatch := fun _ => inferInstanceAs (Decidable (_ ∧ _ ∧ _ ∧ _))

theorem BeforeDispatch.dispatchInv {db : Db} (h : BeforeDispatch db) : DispatchInv db := by
  obtain ⟨hnone, hprofessional, hwindow, honeJob⟩ := h
  exact ⟨fun job hjob b hb => ⟨hprofessional job hjob b hb, hwindow job hjob b hb⟩,
    fun a ha hactive => absurd hactive (hnone a ha),
    fun a ha hactive => absurd hactive (hnone a ha), honeJob⟩

/-- Booking, job and assignment agree in every state of a run exactly if no step of it
closes a job under its active assignment, and none moves a booking away from its job. -/
theorem booking_job_agree (settings : Settings) (dir : Directory) (db : Db) (ops : List Op)
    (hstart : BeforeDispatch db) :
    Always (exec settings dir) Agrees db ops ↔
      Along (exec settings dir) (KeepsAgreement settings) db ops := by
  constructor
  · intro h
    exact along_of_always (fun _ _ hagrees => keepsAgreement_of_agrees hagrees) h
  · intro h
    have hinv := always_of_inv
      (fun _ _ hinv hkeeps => (exec_step settings dir hkeeps).dispatchInv hinv)
      hstart.dispatchInv h
    exact hinv.imp fun _ hinv => hinv.agrees

theorem visit_agrees :
    Always (exec visitSettings visitDirectory) Agrees visitDb visitDispatched :=
  (booking_job_agree _ _ _ _ (by decide)).mpr (by decide)

/-- An operator cancels the job under its active assignment, or the customer moves the
booking and leaves its job. -/
theorem cancelled_and_moved_disagree :
    ¬ Always (exec visitSettings visitDirectory) Agrees visitDb
        (visitAssigned ++ [.transition 20 .cancelled (some 8) "operations" none 3 30 31]) ∧
      ¬ Always (exec visitSettings visitDirectory) Agrees visitDb
        (visitAssigned ++ [.reschedule 9 2 40 "customer-session-1" 3]) := by
  decide

end Breero.Dispatch
