import Breero.Dispatch.System
import Breero.Finance.Effects

/-!
What a step writes of the jobs, the assignments, and the professionals and windows of
the bookings: one constructor of `Step` for each kind of change, and `exec_step` for
every step.
-/

namespace Breero.Dispatch
open KeyedTable Transaction Bookings

/-! ## Bookings -/

/-- Of the bookings, only the one named has another professional: the one given. The
windows are as they were. -/
def Reassigned (bookingId : Uuid) (worker : Option Uuid) (t u : Table Booking) : Prop :=
  ∀ i b', u.get? i = some b' → ∃ b, t.get? i = some b ∧
    b'.windowStart = b.windowStart ∧ b'.windowEnd = b.windowEnd ∧
    b'.providerWorkerId = if i = bookingId then worker else b.providerWorkerId

/-- The professionals and the windows of the bookings are as they were. -/
def SlotsKept (t u : Table Booking) : Prop :=
  ∀ i b', u.get? i = some b' → ∃ b, t.get? i = some b ∧
    b'.windowStart = b.windowStart ∧ b'.windowEnd = b.windowEnd ∧
    b'.providerWorkerId = b.providerWorkerId

theorem SlotsKept.refl (t : Table Booking) : SlotsKept t t :=
  fun _ b' h => ⟨b', h, rfl, rfl, rfl⟩

theorem SlotsKept.put {t : Table Booking} {k : Uuid} {b b' : Booking} (hb : t.get? k = some b)
    (hid : b'.id = b.id) (hstart : b'.windowStart = b.windowStart)
    (hend : b'.windowEnd = b.windowEnd) (hworker : b'.providerWorkerId = b.providerWorkerId) :
    SlotsKept t (t.put b') := by
  intro i c hc
  rcases Table.get?_put_some hc with ⟨rfl, hi⟩ | ⟨_, hc⟩
  · have hk : i = k := hi.symm.trans (hid.trans (Table.key_of_get? hb))
    exact ⟨b, hk ▸ hb, hstart, hend, hworker⟩
  · exact ⟨c, hc, rfl, rfl, rfl⟩

theorem Reassigned.put {t : Table Booking} {k : Uuid} {b b' : Booking} {worker : Option Uuid}
    (hb : t.get? k = some b) (hid : b'.id = b.id) (hstart : b'.windowStart = b.windowStart)
    (hend : b'.windowEnd = b.windowEnd) (hworker : b'.providerWorkerId = worker) :
    Reassigned b.id worker t (t.put b') := by
  intro i c hc
  have hk : b.id = k := Table.key_of_get? hb
  rcases Table.get?_put_some hc with ⟨rfl, hi⟩ | ⟨hne, hc⟩
  · have hi' : i = b.id := hi.symm.trans hid
    exact ⟨b, hi' ▸ hk ▸ hb, hstart, hend, by rw [if_pos hi', hworker]⟩
  · have hi : i ≠ b.id := fun e => hne (hid.trans e.symm)
    exact ⟨c, hc, rfl, rfl, by rw [if_neg hi]⟩

/-- The booking was for the professional already. -/
theorem SlotsKept.reassigned {t u : Table Booking} {bookingId worker : Uuid}
    (h : SlotsKept t u)
    (hfor : ∀ b ∈ t.get? bookingId, b.providerWorkerId = some worker) :
    Reassigned bookingId (some worker) t u := by
  intro i b' hb'
  obtain ⟨b, hb, hstart, hend, hworker⟩ := h i b' hb'
  refine ⟨b, hb, hstart, hend, ?_⟩
  split
  · next hi => rw [hworker, hfor b (hi ▸ hb)]
  · exact hworker

theorem confirmPending_kept (db : Db) (bookingId : Uuid) :
    SlotsKept db.bookings (confirmPending db bookingId).bookings := by
  unfold confirmPending
  split
  · next booking hbooking =>
    split
    · exact SlotsKept.put hbooking rfl rfl rfl rfl
    · exact SlotsKept.refl _
  · exact SlotsKept.refl _

@[simp] theorem confirmPending_jobs (db : Db) (bookingId : Uuid) :
    (confirmPending db bookingId).jobs = db.jobs := by
  unfold confirmPending
  split
  · split <;> rfl
  · rfl

@[simp] theorem confirmPending_assignments (db : Db) (bookingId : Uuid) :
    (confirmPending db bookingId).assignments = db.assignments := by
  unfold confirmPending
  split
  · split <;> rfl
  · rfl

/-! ## Assignments -/

/-- The active assignments: the new one, and the ones of other jobs. -/
def Renewed (new : Assignment) (t u : Table Assignment) : Prop :=
  ∀ a ∈ u.rows, a.status = .active → a = new ∨ (a ∈ t.rows ∧ a.jobId ≠ new.jobId)

theorem addAssignment_ok {db db' : Db} {assignment : Assignment}
    (h : db.addAssignment assignment = .ok db') :
    (∀ other ∈ db.assignments.rows, other.status = .active → other.jobId ≠ assignment.jobId) ∧
      ∃ assignments, db.assignments.insert? assignment = some assignments ∧
        db' = { db with assignments } := by
  simp only [Db.addAssignment, seq_committed, require_committed, orRaise_committed,
    return_committed] at h
  obtain ⟨_, hfree, assignments, hinsert, rfl⟩ := h
  exact ⟨hfree, assignments, hinsert, rfl⟩

theorem Renewed.of_add {db db' : Db} {assignment : Assignment}
    (h : db.addAssignment assignment = .ok db') :
    Renewed assignment db.assignments db'.assignments ∧ db'.jobs = db.jobs ∧
      db'.bookings = db.bookings := by
  obtain ⟨hfree, assignments, hinsert, rfl⟩ := addAssignment_ok h
  refine ⟨fun a ha hactive => ?_, rfl, rfl⟩
  rcases (Table.mem_insert hinsert).mp ha with ha | ha
  · exact Or.inr ⟨ha, hfree a ha hactive⟩
  · exact Or.inl ha

theorem activeAssignment_some {db : Db} {jobId : Uuid} {a : Assignment}
    (h : db.activeAssignment jobId = some a) :
    a ∈ db.assignments.rows ∧ a.jobId = jobId ∧ a.status = .active := by
  have hp := List.find?_some h
  simp only [decide_eq_true_eq] at hp
  exact ⟨List.mem_of_find?_eq_some h, hp.1, hp.2⟩

theorem activeAssignment_none {db : Db} {jobId : Uuid} :
    db.activeAssignment jobId = none ↔
      ∀ a ∈ db.assignments.rows, a.status = .active → a.jobId ≠ jobId := by
  unfold Db.activeAssignment
  rw [List.find?_eq_none]
  constructor
  · intro h a ha hactive hjob
    exact h a ha (by simp [hjob, hactive])
  · intro h a ha hp
    simp only [decide_eq_true_eq] at hp
    exact h a ha hp.2 hp.1

/-- Releasing the active assignment of a job makes no other one active. -/
theorem releaseActive_mem {db : Db} {jobId : Uuid} {now : Instant} {a : Assignment}
    (ha : a ∈ (releaseActive db jobId now).assignments.rows) (hactive : a.status = .active) :
    a ∈ db.assignments.rows := by
  unfold releaseActive at ha
  split at ha
  · rcases Table.mem_put.mp ha with ⟨rfl, _⟩ | ⟨ha, _⟩
    · cases hactive
    · exact ha
  · exact ha

@[simp] theorem releaseActive_jobs (db : Db) (jobId : Uuid) (now : Instant) :
    (releaseActive db jobId now).jobs = db.jobs := by
  unfold releaseActive
  split <;> rfl

@[simp] theorem releaseActive_bookings (db : Db) (jobId : Uuid) (now : Instant) :
    (releaseActive db jobId now).bookings = db.bookings := by
  unfold releaseActive
  split <;> rfl

/-! ## Jobs -/

/-- The statuses of a job that nobody is assigned to yet. -/
def unassignedStatuses : List JobStatus := [.created, .matching, .offered]

def terminalStatuses : List JobStatus := [.completed, .cancelled]

/-- A job that was moved along its lifecycle: only its status, its notes and its
version may differ. -/
structure Moved (job job' : Job) : Prop where
  id : job'.id = job.id
  bookingId : job'.bookingId = job.bookingId
  vendorId : job'.vendorId = job.vendorId
  workerId : job'.workerId = job.workerId
  scheduledStart : job'.scheduledStart = job.scheduledStart
  scheduledEnd : job'.scheduledEnd = job.scheduledEnd
  /-- no transition leads back to a job without a professional -/
  unassigned : job'.status ∈ unassignedStatuses → job.status ∈ unassignedStatuses

theorem Moved.refl (job : Job) : Moved job job := ⟨rfl, rfl, rfl, rfl, rfl, rfl, fun h => h⟩

theorem Moved.trans {a b c : Job} (h : Moved a b) (h' : Moved b c) : Moved a c where
  id := h'.id.trans h.id
  bookingId := h'.bookingId.trans h.bookingId
  vendorId := h'.vendorId.trans h.vendorId
  workerId := h'.workerId.trans h.workerId
  scheduledStart := h'.scheduledStart.trans h.scheduledStart
  scheduledEnd := h'.scheduledEnd.trans h.scheduledEnd
  unassigned hc := h.unassigned (h'.unassigned hc)

theorem unassigned_of_transition {status target : JobStatus}
    (h : target ∈ Jobs.transitions status) (htarget : target ∈ unassignedStatuses) :
    status ∈ unassignedStatuses := by
  cases status <;> cases target <;> simp_all [Jobs.transitions, unassignedStatuses]

/-- What a transition of a job in the table writes of the jobs. -/
theorem applyTransition_moved {db db' : Db} {job job' : Job} {target : JobStatus}
    {actorId : Option Uuid} {actorType : String} {reason : Option String} {metadata : Payload}
    {now : Instant} {changed : Bool}
    (h : Jobs.applyTransition db job target actorId actorType reason metadata now =
      .ok (db', job', changed)) :
    Moved job job' ∧ job'.status = target ∧ db'.bookings = db.bookings ∧
      db'.assignments = db.assignments ∧
      ((job' = job ∧ db'.jobs = db.jobs) ∨ db'.jobs = db.jobs.put job') := by
  rcases Jobs.applyTransition_cases h with ⟨htarget, rfl, rfl, _⟩ | ⟨hallowed, _, rfl, _, rfl⟩
  · exact ⟨Moved.refl _, htarget.symm, rfl, rfl, Or.inl ⟨rfl, rfl⟩⟩
  · exact ⟨⟨rfl, rfl, rfl, rfl, rfl, rfl, unassigned_of_transition hallowed⟩, rfl, rfl, rfl,
      Or.inr rfl⟩

/-- The same for a job as it is in the table. -/
theorem applyTransition_found {db db' : Db} {job job' : Job} {target : JobStatus}
    {actorId : Option Uuid} {actorType : String} {reason : Option String} {metadata : Payload}
    {now : Instant} {changed : Bool}
    (h : Jobs.applyTransition db job target actorId actorType reason metadata now =
      .ok (db', job', changed)) (hfound : db.jobs.get? job.id = some job) :
    Moved job job' ∧ job'.status = target ∧ db'.bookings = db.bookings ∧
      db'.assignments = db.assignments ∧ db'.jobs = db.jobs.put job' := by
  obtain ⟨hmoved, hstatus, hbookings, hassignments, hjobs⟩ := applyTransition_moved h
  refine ⟨hmoved, hstatus, hbookings, hassignments, ?_⟩
  rcases hjobs with ⟨rfl, hjobs⟩ | hjobs
  · rw [hjobs, Table.put_self hfound]
  · exact hjobs

theorem get?_put_moved {t : Table Job} {job job' : Job} (hfound : t.get? job.id = some job)
    (hmoved : Moved job job') : (t.put job').get? job'.id = some job' :=
  Table.get?_put_self (hmoved.id.symm ▸ hfound) rfl

/-! ## Kinds of changes -/

inductive Step (db db' : Db) : Prop
  | kept (jobs : db'.jobs = db.jobs) (assignments : db'.assignments = db.assignments)
      (bookings : SlotsKept db.bookings db'.bookings)
  | moved (job job' : Job) (found : db.jobs.get? job.id = some job) (moved : Moved job job')
      (free : job'.status ∈ terminalStatuses →
        job.status ∈ unassignedStatuses ∨ db.activeAssignment job.id = none)
      (jobs : db'.jobs = db.jobs.put job') (assignments : db'.assignments = db.assignments)
      (bookings : SlotsKept db.bookings db'.bookings)
  | assigned (job job' : Job) (new : Assignment) (found : db.jobs.get? job.id = some job)
      (id : job'.id = job.id) (bookingId : job'.bookingId = job.bookingId)
      (scheduledStart : job'.scheduledStart = job.scheduledStart)
      (scheduledEnd : job'.scheduledEnd = job.scheduledEnd) (jobId : new.jobId = job.id)
      (vendorId : job'.vendorId = some new.vendorId) (workerId : job'.workerId = some new.workerId)
      (status : job'.status = .assigned) (jobs : db'.jobs = db.jobs.put job')
      (assignments : Renewed new db.assignments db'.assignments)
      (bookings : Reassigned job.bookingId (some new.workerId) db.bookings db'.bookings)
  | created (job : Job) (new : Assignment) (inserted : db.jobs.insert? job = some db'.jobs)
      (first : ∀ other ∈ db.jobs.rows, other.bookingId ≠ job.bookingId)
      (window : ∀ b ∈ db.bookings.get? job.bookingId,
        job.scheduledStart = b.windowStart ∧ job.scheduledEnd = b.windowEnd)
      (jobId : new.jobId = job.id) (vendorId : job.vendorId = some new.vendorId)
      (workerId : job.workerId = some new.workerId) (status : job.status = .assigned)
      (assignments : Renewed new db.assignments db'.assignments)
      (bookings : Reassigned job.bookingId (some new.workerId) db.bookings db'.bookings)
  | unassigned (job : Job) (now : Instant) (found : db.jobs.get? job.id = some job)
      (jobs : db'.jobs = db.jobs.put
        { job with vendorId := none, workerId := none, status := .matching })
      (assignments : db'.assignments = (releaseActive db job.id now).assignments)
      (bookings : Reassigned job.bookingId none db.bookings db'.bookings)
  | reserved (bookingId : Uuid) (worker : Option Uuid)
      (same : ∀ job ∈ db.jobOfBooking bookingId, job.workerId = worker)
      (jobs : db'.jobs = db.jobs) (assignments : db'.assignments = db.assignments)
      (bookings : Reassigned bookingId worker db.bookings db'.bookings)
  | rescheduled (b : Booking) (hold : BookingCapacityHold)
      (found : db.bookings.get? b.id = some b)
      (same : ∀ job ∈ db.jobs.rows, job.bookingId = b.id → job.workerId = none ∧
        job.scheduledStart = hold.slotStartUtc ∧ job.scheduledEnd = hold.slotEndUtc)
      (jobs : db'.jobs = db.jobs) (assignments : db'.assignments = db.assignments)
      (bookings : db'.bookings = db.bookings.put (rescheduled b hold))

theorem Step.refl (db : Db) : Step db db := .kept rfl rfl (SlotsKept.refl _)

/-- A step is about the jobs, the assignments and the bookings. -/
theorem Step.of_rows {db db1 db' : Db} (h : Step db db1) (hjobs : db'.jobs = db1.jobs)
    (hassignments : db'.assignments = db1.assignments) (hbookings : db'.bookings = db1.bookings) :
    Step db db' := by
  cases h with
  | kept jobs assignments bookings =>
    exact .kept (hjobs.trans jobs) (hassignments.trans assignments) (hbookings ▸ bookings)
  | moved job job' found moved free jobs assignments bookings =>
    exact .moved job job' found moved free (hjobs.trans jobs) (hassignments.trans assignments)
      (hbookings ▸ bookings)
  | assigned job job' new found id bookingId scheduledStart scheduledEnd jobId vendorId workerId
      status jobs assignments bookings =>
    exact .assigned job job' new found id bookingId scheduledStart scheduledEnd jobId vendorId
      workerId status (hjobs.trans jobs) (hassignments ▸ assignments) (hbookings ▸ bookings)
  | created job new inserted first window jobId vendorId workerId status assignments bookings =>
    exact .created job new (hjobs ▸ inserted) first window jobId vendorId workerId status
      (hassignments ▸ assignments) (hbookings ▸ bookings)
  | unassigned job now found jobs assignments bookings =>
    exact .unassigned job now found (hjobs.trans jobs) (hassignments.trans assignments)
      (hbookings ▸ bookings)
  | reserved bookingId worker same jobs assignments bookings =>
    exact .reserved bookingId worker same (hjobs.trans jobs) (hassignments.trans assignments)
      (hbookings ▸ bookings)
  | rescheduled b hold found same jobs assignments bookings =>
    exact .rescheduled b hold found same (hjobs.trans jobs) (hassignments.trans assignments)
      (hbookings.trans bookings)

theorem Step.of_commit {α : Type} {db : Db} {r : Except Raised (Db × α)}
    (h : ∀ db' v, r = .ok (db', v) → Step db db') : Step db (commit db r) :=
  commit_induction (motive := Step db) (Step.refl db) h

/-! ## Transactions -/

theorem jobOfBooking_some {db : Db} {bookingId : Uuid} {job : Job}
    (h : db.jobOfBooking bookingId = some job) :
    job ∈ db.jobs.rows ∧ job.bookingId = bookingId := by
  have hp := List.find?_some h
  simp only [decide_eq_true_eq] at hp
  exact ⟨List.mem_of_find?_eq_some h, hp⟩

theorem jobOfBooking_none {db : Db} {bookingId : Uuid} (h : db.jobOfBooking bookingId = none) :
    ∀ job ∈ db.jobs.rows, job.bookingId ≠ bookingId := by
  intro job hjob
  have hp := List.find?_eq_none.mp h job hjob
  simpa using hp

/-- Offers are all that is written with them. -/
theorem addOffers_ok {jobId : Uuid} {round : Nat} {now : Instant} {offerId : Nat → Uuid}
    {candidates : List (Vendor × Worker)} {rank : Nat} {db db' : Db}
    (h : addOffers db jobId round now offerId candidates rank = .ok db') :
    ∃ offers, db' = { db with offers } := by
  induction candidates generalizing db rank with
  | nil =>
    simp only [addOffers, return_committed] at h
    exact ⟨_, h.symm⟩
  | cons candidate candidates ih =>
    simp only [addOffers, Db.addOffer, seq_committed, require_committed, orRaise_committed,
      return_committed] at h
    obtain ⟨_, ⟨_, _, offers, _, rfl⟩, hrest⟩ := h
    obtain ⟨all, rfl⟩ := ih hrest
    exact ⟨all, rfl⟩

/-- What is true of the job that is found, and stays true when offers are added and when it is
moved to `matching` or `offered`, is true after a match. -/
theorem matchJob_induction {motive : Db → Job → Prop} {db db' : Db} {jobId : Uuid}
    {actorId : Option Uuid} {now : Instant} {offerId : Nat → Uuid} {v : Job}
    (h : matchJob db jobId actorId now offerId = .ok (db', v))
    (hfound : ∀ job, db.jobs.get? job.id = some job →
      job.status ∈ [.created, .matching, .offered] → motive db job)
    (hoffers : ∀ db1 job offers, motive db1 job → motive { db1 with offers } job)
    (hmoved : ∀ db1 db2 job1 job2 target actorType reason metadata changed,
      target ∈ [JobStatus.matching, .offered] → motive db1 job1 →
        Jobs.applyTransition db1 job1 target actorId actorType reason metadata now =
          .ok (db2, job2, changed) → motive db2 job2) : motive db' v := by
  simp only [matchJob, seq_committed, orRaise_committed, require_committed] at h
  obtain ⟨job, hjob, _, hstatus, h⟩ := h
  have hstart := hfound job (Table.get?_found hjob) hstatus
  split at h
  · simp only [seq_committed, return_committed, Prod.exists, Prod.mk.injEq] at h
    obtain ⟨_, _, _, htransition, rfl, rfl⟩ := h
    exact hmoved _ _ _ _ _ _ _ _ _ (by simp) hstart htransition
  · simp only [seq_committed, return_committed, Prod.exists, Prod.mk.injEq] at h
    obtain ⟨db1, hadded, db2, job2, _, hstarted, db3, job3, _, hoffered, rfl, rfl⟩ := h
    obtain ⟨offers, rfl⟩ := addOffers_ok hadded
    have hadded := hoffers db job offers hstart
    -- the first transition is made only of a job that was not matching yet
    have hfirst : motive db2 job2 := by
      split at hstarted
      · exact hmoved _ _ _ _ _ _ _ _ _ (by simp) hadded hstarted
      · simp only [return_committed, Prod.mk.injEq] at hstarted
        obtain ⟨rfl, rfl, _⟩ := hstarted
        exact hadded
    exact hmoved _ _ _ _ _ _ _ _ _ (by simp) hfirst hoffered

/-- A job that a match has moved so far, and nothing else of the jobs and the slots. -/
structure Matching (db : Db) (job : Job) (db' : Db) (job' : Job) : Prop where
  found : db.jobs.get? job.id = some job
  moved : Moved job job'
  free : job'.status ∉ terminalStatuses
  jobs : db'.jobs = db.jobs.put job'
  assignments : db'.assignments = db.assignments
  bookings : db'.bookings = db.bookings

theorem matchJob_step {db db' : Db} {jobId : Uuid} {actorId : Option Uuid} {now : Instant}
    {offerId : Nat → Uuid} {v : Job} (h : matchJob db jobId actorId now offerId = .ok (db', v)) :
    Step db db' := by
  have hmatching : ∃ job, Matching db job db' v := by
    refine matchJob_induction (motive := fun db' v => ∃ job, Matching db job db' v) h ?_ ?_ ?_
    · intro job hfound hstatus
      refine ⟨job, hfound, .refl job, fun hterminal => ?_, (Table.put_self hfound).symm, rfl, rfl⟩
      simp only [terminalStatuses, List.mem_cons, List.not_mem_nil, or_false] at hterminal hstatus
      rcases hterminal with heq | heq <;> simp [heq] at hstatus
    · rintro db1 job1 offers ⟨job, hfound, hmoved, hfree, hjobs, hassignments, hbookings⟩
      exact ⟨job, hfound, hmoved, hfree, hjobs, hassignments, hbookings⟩
    · rintro db1 db2 job1 job2 target _ _ _ _ htarget ⟨job, hmatching⟩ htransition
      have hfound1 : db1.jobs.get? job1.id = some job1 :=
        hmatching.jobs ▸ get?_put_moved hmatching.found hmatching.moved
      obtain ⟨hmoved, hstatus, hbookings, hassignments, hjobs⟩ :=
        applyTransition_found htransition hfound1
      refine ⟨job, hmatching.found, hmatching.moved.trans hmoved, fun hterminal => ?_, ?_,
        hassignments.trans hmatching.assignments, hbookings.trans hmatching.bookings⟩
      · rw [hstatus] at hterminal
        rcases List.mem_pair.mp htarget with rfl | rfl <;> simp [terminalStatuses] at hterminal
      · rw [hjobs, hmatching.jobs, Table.put_put hmoved.id.symm]
  obtain ⟨job, hmatching⟩ := hmatching
  exact .moved job v hmatching.found hmatching.moved
    (fun hterminal => absurd hterminal hmatching.free) hmatching.jobs hmatching.assignments
    (hmatching.bookings ▸ .refl _)

/-- An assignment added, and its job moved to the professional. -/
theorem assigned_step {db db' : Db} {job job' : Job} {new : Assignment} {u : Table Assignment}
    (hrenewed : Renewed new db.assignments u) (hassignments : db'.assignments = u)
    (hfound : db.jobs.get? job.id = some job) (hjobId : new.jobId = job.id)
    (hreserved : reservedFor db job new.workerId)
    (hmoved : Moved { job with vendorId := some new.vendorId, workerId := some new.workerId } job')
    (hstatus : job'.status = .assigned) (hjobs : db'.jobs = db.jobs.put job')
    (hbookings : SlotsKept db.bookings db'.bookings) : Step db db' :=
  .assigned job job' new hfound hmoved.id hmoved.bookingId hmoved.scheduledStart
    hmoved.scheduledEnd hjobId hmoved.vendorId hmoved.workerId hstatus hjobs
    (hassignments ▸ hrenewed) (hbookings.reassigned hreserved)

theorem acceptOffer_step {db db' : Db} {offer v : DispatchOffer} {vendorId : Uuid}
    {workerId : Option Uuid} {actorId : Uuid} {now : Instant} {assignmentId : Uuid}
    (h : acceptOffer db offer vendorId workerId actorId now assignmentId = .ok (db', v)) :
    Step db db' := by
  simp only [acceptOffer, seq_committed, orRaise_committed, require_committed, return_committed,
    Prod.exists, Prod.mk.injEq] at h
  obtain ⟨worker, _, job, hjob, _, hreserved, db1, hadd, db2, job2, _, htransition, rfl, _⟩ := h
  obtain ⟨hfound, hstatus⟩ := Option.filter_eq_some_iff.mp hjob
  obtain ⟨hrenewed, hjobs1, hbookings1⟩ := Renewed.of_add hadd
  obtain ⟨hmoved, hassigned, hbookings, hassignments, hjobs⟩ := applyTransition_moved htransition
  have hput : db2.jobs = db.jobs.put job2 := by
    rcases hjobs with ⟨rfl, _⟩ | hjobs
    · -- the job was not assigned before
      simp only [decide_eq_true_eq] at hstatus
      simp only at hassigned
      simp [hassigned] at hstatus
    · rw [hjobs, confirmPending_jobs]
      exact congrArg (fun jobs => jobs.put job2) hjobs1
  have hkept : SlotsKept db.bookings db2.bookings := by
    rw [hbookings]
    exact hbookings1 ▸ confirmPending_kept _ _
  have hassignments2 : db2.assignments = db1.assignments := by
    rw [hassignments, confirmPending_assignments]
    rfl
  have hstep : Step db db2 := assigned_step hrenewed hassignments2 (Table.get?_found hfound) rfl
    hreserved hmoved hassigned hput hkept
  exact hstep.of_rows rfl rfl rfl

theorem decideOffer_step {db db' : Db} {offerId vendorId : Uuid} {accept : Bool}
    {workerId : Option Uuid} {actorId : Uuid} {now : Instant} {assignmentId : Uuid}
    {v : Except Raised DispatchOffer}
    (h : decideOffer db offerId vendorId accept workerId actorId now assignmentId = .ok (db', v)) :
    Step db db' := by
  simp only [decideOffer, seq_committed, orRaise_committed, require_committed] at h
  obtain ⟨offer, _, _, _, _, _, h⟩ := h
  split at h
  · simp only [return_committed, Prod.mk.injEq] at h
    obtain ⟨rfl, _⟩ := h
    exact .kept rfl rfl (SlotsKept.refl _)
  · split at h
    · simp only [return_committed, Prod.mk.injEq] at h
      obtain ⟨rfl, _⟩ := h
      exact .kept rfl rfl (SlotsKept.refl _)
    · simp only [seq_committed, return_committed, Prod.exists, Prod.mk.injEq] at h
      obtain ⟨_, _, haccepted, rfl, _⟩ := h
      exact acceptOffer_step haccepted

theorem manualAssign_step {db db' : Db} {jobId vendorId workerId actorId : Uuid}
    {reason : String} {now : Instant} {assignmentId : Uuid} {v : Assignment}
    (h : manualAssign db jobId vendorId workerId actorId reason now assignmentId = .ok (db', v)) :
    Step db db' := by
  simp only [manualAssign, seq_committed, orRaise_committed, require_committed, return_committed,
    Prod.exists, Prod.mk.injEq] at h
  obtain ⟨job, hfound, worker, hworker, _, _, _, hreserved, db1, hadd, db2, job2, _,
    htransition, rfl, _⟩ := h
  have hid : worker.id = workerId := by
    have hget := (Option.filter_eq_some_iff.mp hworker).1
    exact Table.key_of_get? hget
  subst hid
  have hfound' : db.jobs.get? job.id = some job := Table.get?_found hfound
  obtain ⟨hrenewed, hjobs1, hbookings1⟩ := Renewed.of_add hadd
  have hfound1 : db1.jobs.get? job.id = some job := hjobs1 ▸ hfound'
  obtain ⟨hmoved, hassigned, hbookings, hassignments, hjobs⟩ :=
    applyTransition_found htransition hfound1
  have hmoved' : Moved { job with vendorId := some vendorId, workerId := some worker.id }
      { job2 with vendorId := some vendorId, workerId := some worker.id } :=
    ⟨hmoved.id, hmoved.bookingId, rfl, rfl, hmoved.scheduledStart, hmoved.scheduledEnd,
      hmoved.unassigned⟩
  have hjobs2 : db2.jobs = db.jobs.put job2 :=
    hjobs.trans (congrArg (fun jobs => Table.put jobs job2) hjobs1)
  let job' := { job2 with vendorId := some vendorId, workerId := some worker.id }
  let db3 := { db2 with jobs := db2.jobs.put job' }
  have hjobs3 : (confirmPending db3 job2.bookingId).jobs = db.jobs.put job' := by
    rw [confirmPending_jobs]
    show db2.jobs.put job' = _
    rw [hjobs2]
    exact Table.put_put rfl
  have hassignments3 : (confirmPending db3 job2.bookingId).assignments = db1.assignments := by
    rw [confirmPending_assignments]
    exact hassignments
  have hkept : SlotsKept db.bookings (confirmPending db3 job2.bookingId).bookings := by
    have hsame : db3.bookings = db.bookings := hbookings.trans hbookings1
    rw [← hsame]
    exact confirmPending_kept db3 job2.bookingId
  exact assigned_step hrenewed hassignments3 hfound' rfl hreserved hmoved' hassigned hjobs3 hkept

/-! ### The administrators -/

theorem beginAssign_ok {settings : Settings} {dir : Directory} {db : Db}
    {loads : Uuid → Day → Load} {request : AssignRequest} {booking : Booking}
    (h : beginAssign settings dir db loads request = .ok booking) :
    db.bookings.get? booking.id = some booking ∧ booking.id = request.bookingId ∧
      booking.status ∈ assignable := by
  simp only [beginAssign, seq_committed, orRaise_committed, require_committed,
    return_committed] at h
  obtain ⟨_, _, booking', hbooking, _, hstatus, _, _, _, _, rfl⟩ := h
  exact ⟨Table.get?_found hbooking, Table.key_of_get? hbooking, hstatus⟩

theorem assignTo_step {db db' : Db} {booking v : Booking} {candidate : ProviderCandidate}
    {request : AssignRequest} {now : Instant} {jobId assignmentId : Uuid}
    (hbooking : db.bookings.get? booking.id = some booking)
    (h : assignTo db booking candidate request now jobId assignmentId = .ok (db', v)) :
    Step db db' := by
  simp only [assignTo, seq_committed, orRaise_committed, return_committed, Prod.exists,
    Prod.mk.injEq] at h
  obtain ⟨worker, _, db1, job', hjob, db2, hadd, rfl, _⟩ := h
  obtain ⟨hrenewed, hjobs2, hbookings2⟩ := Renewed.of_add hadd
  unfold assignedJob at hjob
  split at hjob
  · next job hof =>
    obtain ⟨hmem, hbookingId⟩ := jobOfBooking_some hof
    simp only [return_committed, Prod.mk.injEq] at hjob
    obtain ⟨rfl, rfl⟩ := hjob
    let new : Assignment := {
      id := assignmentId, jobId := job.id, vendorId := worker.vendorId, workerId := worker.id
      status := .active, assignedBy := some request.actorId }
    refine .assigned job
      { job with
        vendorId := some worker.vendorId, workerId := some worker.id, status := .assigned }
      new (Table.get?_key hmem) rfl rfl rfl rfl rfl rfl rfl rfl ?_ ?_ ?_
    · show db2.jobs = _
      rw [hjobs2]
      simp only [releaseActive_jobs]
    · intro a ha hactive
      rcases hrenewed a ha hactive with rfl | ⟨ha, hne⟩
      · exact Or.inl rfl
      · exact Or.inr ⟨releaseActive_mem ha hactive, hne⟩
    · show Reassigned _ _ _ (db2.bookings.put _)
      rw [hbookings2]
      simp only [releaseActive_bookings]
      rw [hbookingId]
      exact Reassigned.put hbooking rfl rfl rfl rfl
  · next hof =>
    simp only [seq_committed, return_committed, Prod.mk.injEq] at hjob
    obtain ⟨_, hadded, rfl, rfl⟩ := hjob
    obtain ⟨hfirst, jobs, hinsert, rfl⟩ := Db.addJob_ok hadded
    let new : Assignment := {
      id := assignmentId, jobId, vendorId := worker.vendorId, workerId := worker.id
      status := .active, assignedBy := some request.actorId }
    refine .created (newJob booking worker.vendorId worker.id jobId) new ?_ hfirst ?_ rfl rfl rfl
      rfl hrenewed ?_
    · show _ = some db2.jobs
      rw [hjobs2]
      exact hinsert
    · intro b hb
      rw [show (newJob booking worker.vendorId worker.id jobId).bookingId = booking.id from rfl,
        hbooking] at hb
      cases hb
      exact ⟨rfl, rfl⟩
    · show Reassigned _ _ _ (db2.bookings.put _)
      rw [hbookings2]
      exact Reassigned.put hbooking rfl rfl rfl rfl

theorem assign_step {settings : Settings} {dir : Directory} {db db' : Db} {request : AssignRequest}
    {now : Instant} {jobId assignmentId : Uuid} {v : Booking}
    (h : assign settings dir db request now jobId assignmentId = .ok (db', v)) : Step db db' := by
  simp only [assign, seq_committed] at h
  obtain ⟨booking, hbegin, candidate, _, hassign⟩ := h
  exact assignTo_step (beginAssign_ok hbegin).1 hassign

theorem automaticAssign_step {settings : Settings} {dir : Directory} {db db' : Db}
    {bookingId actorId : Uuid} {now : Instant} {jobId assignmentId : Uuid} {v : Booking}
    (h : automaticAssign settings dir db bookingId actorId now jobId assignmentId = .ok (db', v)) :
    Step db db' := by
  simp only [automaticAssign, seq_committed] at h
  obtain ⟨_, _, _, _, _, _, hassign⟩ := h
  exact assign_step hassign

theorem unassign_step {db db' : Db} {bookingId actorId : Uuid} {reason : String} {now : Instant}
    {v : Booking} (h : unassign db bookingId actorId reason now = .ok (db', v)) : Step db db' := by
  simp only [unassign, seq_committed, orRaise_committed, require_committed, return_committed,
    Prod.mk.injEq] at h
  obtain ⟨booking, hbooking, _, _, rfl, _⟩ := h
  have hid : booking.id = bookingId := Table.key_of_get? hbooking
  have hbooking' : db.bookings.get? booking.id = some booking := Table.get?_found hbooking
  unfold unassignedJob
  split
  · next job hof =>
    obtain ⟨hmem, hbookingId⟩ := jobOfBooking_some hof
    refine .unassigned job now (Table.get?_key hmem) ?_ rfl ?_
    · show (releaseActive db job.id now).jobs.put _ = _
      rw [releaseActive_jobs]
    · show Reassigned _ _ _ ((releaseActive db job.id now).bookings.put _)
      rw [releaseActive_bookings, hbookingId, ← hid]
      exact Reassigned.put hbooking' rfl rfl rfl rfl
  · next hof =>
    refine .reserved bookingId none (fun job hjob => ?_) rfl rfl ?_
    · rw [hof] at hjob
      cases hjob
    · rw [← hid]
      exact Reassigned.put hbooking' rfl rfl rfl rfl

/-! ### The operators -/

theorem confirm_step {dir : Directory} {db db' : Db} {bookingId workerId actorId : Uuid}
    {reason : String} {now : Instant} {jobId assignmentId : Uuid} {v : Job}
    (h : confirm dir db bookingId workerId actorId reason now jobId assignmentId = .ok (db', v)) :
    Step db db' := by
  simp only [confirm, beginConfirm, finishConfirm, Db.addEvent, seq_committed, orRaise_committed,
    require_committed, return_committed, Prod.exists, Prod.mk.injEq] at h
  obtain ⟨_, _, _, ⟨booking, hbooking, _, _, worker, vendor, _, rfl, rfl, rfl⟩, db1, job', hjob, _,
    ⟨_, _, rfl⟩, rfl, _⟩ := h
  have hbooking' : db.bookings.get? booking.id = some booking := Table.get?_found hbooking
  unfold confirmedJob at hjob
  split at hjob
  · next job hof =>
    simp only [seq_committed, require_committed, return_committed, Prod.mk.injEq] at hjob
    obtain ⟨_, hworker, rfl, rfl⟩ := hjob
    refine .reserved booking.id (some worker.id) (fun other hother => ?_) rfl rfl ?_
    · rw [hof] at hother
      cases hother
      exact hworker
    · exact Reassigned.put hbooking' rfl rfl rfl rfl
  · next hof =>
    simp only [seq_committed, return_committed, Prod.mk.injEq] at hjob
    obtain ⟨_, hadded, db2, hadd, rfl, rfl⟩ := hjob
    obtain ⟨hfirst, jobs, hinsert, rfl⟩ := Db.addJob_ok hadded
    obtain ⟨hrenewed, hjobs2, hbookings2⟩ := Renewed.of_add hadd
    let job : Job := {
      id := jobId, bookingId := booking.id, customerId := some booking.customerId
      serviceId := booking.serviceId, addressId := booking.addressId, status := .assigned
      scheduledStart := booking.windowStart, scheduledEnd := booking.windowEnd
      vendorId := some vendor.id, workerId := some worker.id }
    let new : Assignment := {
      id := assignmentId, jobId, vendorId := vendor.id, workerId := worker.id
      status := .active, assignedBy := some actorId }
    refine .created job new ?_ hfirst ?_ rfl rfl rfl rfl hrenewed ?_
    · show _ = some db2.jobs
      rw [hjobs2]
      exact hinsert
    · intro b hb
      have hsame : db.bookings.get? job.bookingId = some booking := hbooking'
      rw [hsame] at hb
      cases hb
      exact ⟨rfl, rfl⟩
    · show Reassigned _ _ _ (db2.bookings.put _)
      rw [hbookings2]
      exact Reassigned.put hbooking' rfl rfl rfl rfl

theorem recordCompletionEffects_rows {settings : Settings} {db db' : Db} {job : Job}
    {now : Instant} {snapshotId earningId : Uuid}
    (h : Jobs.recordCompletionEffects settings db job now snapshotId earningId = .ok db') :
    db'.jobs = db.jobs ∧ db'.assignments = db.assignments ∧ db'.bookings = db.bookings := by
  simp only [Jobs.recordCompletionEffects, seq_committed, return_committed] at h
  obtain ⟨db1, hearning, rfl⟩ := h
  split at hearning
  · simp only [seq_committed, orRaise_committed, return_committed, Prod.exists] at hearning
    obtain ⟨booking, _, db2, earning, hrecognized, rfl⟩ := hearning
    rcases Finance.recognizeEarning_ok hrecognized with rfl | ⟨snapshots, earnings, _, _, rfl⟩
    · exact ⟨rfl, rfl, rfl⟩
    · exact ⟨rfl, rfl, rfl⟩
  · rw [return_committed] at hearning
    subst hearning
    exact ⟨rfl, rfl, rfl⟩

/-- What a transition and its effects write. -/
theorem applyWithEffects_ok {settings : Settings} {db db' : Db} {job job' : Job}
    {target : JobStatus} {actorId : Option Uuid} {actorType : String} {reason : Option String}
    {now : Instant} {snapshotId earningId : Uuid}
    (h : Jobs.applyWithEffects settings db job target actorId actorType reason now snapshotId
      earningId = .ok (db', job')) (hfound : db.jobs.get? job.id = some job) :
    Moved job job' ∧ job'.status = target ∧ db'.bookings = db.bookings ∧
      db'.assignments = db.assignments ∧ db'.jobs = db.jobs.put job' := by
  simp only [Jobs.applyWithEffects, seq_committed, return_committed, Prod.exists,
    Prod.mk.injEq] at h
  obtain ⟨db1, job1, changed, htransition, db2, heffects, rfl, rfl⟩ := h
  obtain ⟨hmoved, hstatus, hbookings, hassignments, hjobs⟩ :=
    applyTransition_found htransition hfound
  have hrows : db2.jobs = db1.jobs ∧ db2.assignments = db1.assignments ∧
      db2.bookings = db1.bookings := by
    split at heffects
    · exact recordCompletionEffects_rows heffects
    · rw [return_committed] at heffects
      subst heffects
      exact ⟨rfl, rfl, rfl⟩
  exact ⟨hmoved, hstatus, hrows.2.2.trans hbookings, hrows.2.1.trans hassignments,
    hrows.1.trans hjobs⟩

/-- A transition that does not close a job with an active assignment. -/
theorem transition_step {settings : Settings} {db db' : Db} {jobId : Uuid} {target : JobStatus}
    {actorId : Option Uuid} {actorType : String} {reason : Option String} {now : Instant}
    {snapshotId earningId : Uuid} {v : Job}
    (h : Jobs.transition settings db jobId target actorId actorType reason now snapshotId
      earningId = .ok (db', v))
    (hfree : target ∈ terminalStatuses → db.activeAssignment jobId = none) : Step db db' := by
  simp only [Jobs.transition, seq_committed, orRaise_committed] at h
  obtain ⟨job, hjob, happly⟩ := h
  have hid : job.id = jobId := Table.key_of_get? hjob
  subst hid
  obtain ⟨hmoved, hstatus, hbookings, hassignments, hjobs⟩ := applyWithEffects_ok happly hjob
  exact .moved job v hjob hmoved (fun hterminal => Or.inr (hfree (hstatus ▸ hterminal))) hjobs
    hassignments (hbookings ▸ SlotsKept.refl _)

theorem setNotes_moved (job : Job) (notes : String) (notesField : Jobs.NotesField) :
    Moved job (Jobs.setNotes job notes notesField) := by
  cases notesField with
  | diagnosticNotes => exact ⟨rfl, rfl, rfl, rfl, rfl, rfl, fun h => h⟩
  | completionNotes => exact ⟨rfl, rfl, rfl, rfl, rfl, rfl, fun h => h⟩

theorem technicianNote_step {settings : Settings} {db db' : Db} {jobId workerId actorId : Uuid}
    {notesField : Jobs.NotesField} {notes : String} {target : JobStatus} {now : Instant}
    {snapshotId earningId : Uuid} {v : Job}
    (h : Jobs.technicianNoteTransition settings db jobId workerId actorId notesField notes target
      now snapshotId earningId = .ok (db', v))
    (hfree : target ∈ terminalStatuses → db.activeAssignment jobId = none) : Step db db' := by
  simp only [Jobs.technicianNoteTransition, seq_committed, orRaise_committed,
    require_committed] at h
  obtain ⟨job, hjob, _, _, happly⟩ := h
  have hid : job.id = jobId := Table.key_of_get? hjob
  subst hid
  have hnoted := setNotes_moved job notes notesField
  obtain ⟨hmoved, hstatus, hbookings, hassignments, hjobs⟩ :=
    applyWithEffects_ok happly (get?_put_moved hjob hnoted)
  have hput : db'.jobs = db.jobs.put v := by
    rw [hjobs]
    exact Table.put_put hmoved.id.symm
  exact .moved job v hjob (hnoted.trans hmoved)
    (fun hterminal => Or.inr (hfree (hstatus ▸ hterminal))) hput hassignments
    (hbookings ▸ SlotsKept.refl _)

/-! ### The customers -/

theorem ownedBooking_ok {db : Db} {userId bookingId : Uuid} {booking : Booking}
    (h : ownedBooking db userId bookingId = .ok booking) :
    db.bookings.get? booking.id = some booking ∧ booking.id = bookingId := by
  simp only [ownedBooking, seq_committed, orRaise_committed] at h
  obtain ⟨_, _, hbooking⟩ := h
  have hget := (Option.filter_eq_some_iff.mp hbooking).1
  exact ⟨Table.get?_found hget, Table.key_of_get? hget⟩

/-- A cancellation finds the booking cancelled, or cancels its job and then it. -/
theorem cancelBooking_ok {db db' : Db} {userId bookingId : Uuid} {now : Instant} {v : Booking}
    (h : cancelBooking db userId bookingId now = .ok (db', v)) :
    ∃ booking, db.bookings.get? booking.id = some booking ∧ booking.id = bookingId ∧
      ((booking.status = .cancelled ∧ db' = db) ∨
        (booking.status ≠ .cancelled ∧ booking.status ∈ cancellable ∧ ∃ db1 auditLogs,
          cancelJob db booking.id userId now = .ok db1 ∧
          db' = { releaseHolds { db1 with
              bookings := db1.bookings.put
                { booking with status := .cancelled, guestConfirmationRevokedAt := some now } }
            booking.id none now with auditLogs })) := by
  simp only [cancelBooking, seq_committed] at h
  obtain ⟨booking, howned, h⟩ := h
  obtain ⟨hbooking, hid⟩ := ownedBooking_ok howned
  refine ⟨booking, hbooking, hid, ?_⟩
  split at h
  · next hcancelled =>
    simp only [return_committed, Prod.mk.injEq] at h
    exact Or.inl ⟨hcancelled, h.1.symm⟩
  · next hcancelled =>
    simp only [seq_committed, require_committed, return_committed, Prod.mk.injEq] at h
    obtain ⟨_, hstatus, db1, hjob, hresult, _⟩ := h
    exact Or.inr ⟨hcancelled, hstatus, db1, _, hjob, hresult.symm⟩

theorem cancelBooking_step {db db' : Db} {userId bookingId : Uuid} {now : Instant} {v : Booking}
    (h : cancelBooking db userId bookingId now = .ok (db', v)) : Step db db' := by
  obtain ⟨booking, hbooking, _, ⟨_, rfl⟩ | ⟨_, _, db1, _, hjob, rfl⟩⟩ := cancelBooking_ok h
  · exact Step.refl _
  · unfold cancelJob at hjob
    split at hjob
    · rw [return_committed] at hjob
      subst hjob
      exact .kept rfl rfl (SlotsKept.put hbooking rfl rfl rfl rfl)
    · next job hof =>
      simp only [seq_committed, require_committed, return_committed, Prod.exists] at hjob
      obtain ⟨_, hstatus, db2, job2, _, htransition, rfl⟩ := hjob
      have hfound : db.jobs.get? job.id = some job := Table.get?_key (jobOfBooking_some hof).1
      obtain ⟨hmoved, _, hbookings, hassignments, hjobs⟩ :=
        applyTransition_found htransition hfound
      refine .moved job job2 hfound hmoved (fun _ => Or.inl hstatus) hjobs hassignments ?_
      show SlotsKept _ (db2.bookings.put _)
      rw [hbookings]
      exact SlotsKept.put hbooking rfl rfl rfl rfl

/-- A reschedule of a booking whose job waits for a professional in the new window. -/
theorem rescheduleBooking_step {settings : Settings} {db db' : Db}
    {userId bookingId holdId : Uuid} {bookingSession : String} {now : Instant} {v : Booking}
    (h : rescheduleBooking settings db userId bookingId holdId bookingSession now = .ok (db', v))
    (hsame : ∀ hold ∈ db.holds.get? holdId, ∀ job ∈ db.jobs.rows, job.bookingId = bookingId →
      job.workerId = none ∧ job.scheduledStart = hold.slotStartUtc ∧
        job.scheduledEnd = hold.slotEndUtc) : Step db db' := by
  obtain ⟨booking, hold, howned, _, hhold, _, hwritten⟩ := rescheduleBooking_ok h
  cases hwritten
  obtain ⟨hbooking, hid⟩ := ownedBooking_ok howned
  exact .rescheduled booking hold hbooking (hid ▸ hsame hold hhold) rfl rfl rfl

end Breero.Dispatch
