import Breero.Dispatch.Decisions
import Breero.Dispatch.TerminalJobs

/-!
Cancelled and expired bookings.

* `Deciding.dead_bookings_stay`: no such booking changes its status again or has a live job,
  in a run exactly if no booking expires that has one;
* `Deciding.expiry_leaves_live_job` has a run in which one does and comes back.
-/

namespace Breero.Dispatch
open KeyedTable Transaction Runs Bookings Jobs

/-! ## The laws -/

def deadStatuses : List BookingStatus := [.cancelled, .expired]

/-- The status of a booking before and after a step. -/
def StaysDead (booking booking' : Booking) : Prop :=
  booking.status ∈ deadStatuses → booking'.status = booking.status

instance : DecidableRel StaysDead := fun _ _ => inferInstanceAs (Decidable (_ → _))

/-- The jobs of the booking are completed or cancelled. -/
def JobsClosed (jobs : Table Job) (booking : Booking) : Prop :=
  ∀ job ∈ jobs.rows, job.bookingId = booking.id → job.status ∈ terminalStatuses

instance (jobs : Table Job) : DecidablePred (JobsClosed jobs) := fun _ =>
  inferInstanceAs (Decidable (∀ job ∈ jobs.rows, _ → _))

def DeadClosed (db : Db) : Prop :=
  ∀ booking ∈ db.bookings.rows, booking.status ∈ deadStatuses → JobsClosed db.jobs booking

instance : DecidablePred DeadClosed := fun db =>
  inferInstanceAs (Decidable (∀ booking ∈ db.bookings.rows, _ → _))

/-- A booking has one job at most. -/
def OneJob (jobs : Table Job) : Prop :=
  ∀ job ∈ jobs.rows, ∀ other ∈ jobs.rows, other.bookingId = job.bookingId → other = job

instance : DecidablePred OneJob := fun jobs =>
  inferInstanceAs (Decidable (∀ job ∈ jobs.rows, ∀ other ∈ jobs.rows, _ → _))

/-! ## Writes of the jobs -/

/-- The job was there before, and it lived if it does now. -/
def Traced (jobs : Table Job) (job' : Job) : Prop :=
  ∃ job ∈ jobs.rows, job.id = job'.id ∧ job.bookingId = job'.bookingId ∧
    (job'.status ∉ terminalStatuses → job.status ∉ terminalStatuses)

def AllTraced (t u : Table Job) : Prop := ∀ job' ∈ u.rows, Traced t job'

theorem AllTraced.refl (t : Table Job) : AllTraced t t :=
  fun job hjob => ⟨job, hjob, rfl, rfl, id⟩

theorem AllTraced.trans {t u v : Table Job} (h : AllTraced t u) (h' : AllTraced u v) :
    AllTraced t v := by
  intro job'' hjob''
  obtain ⟨job', hjob', hid', hbooking', hlives'⟩ := h' job'' hjob''
  obtain ⟨job, hjob, hid, hbooking, hlives⟩ := h job' hjob'
  exact ⟨job, hjob, hid.trans hid', hbooking.trans hbooking', fun hlive => hlives (hlives' hlive)⟩

theorem AllTraced.put {t : Table Job} {job job' : Job} (found : t.get? job.id = some job)
    (id : job'.id = job.id) (bookingId : job'.bookingId = job.bookingId)
    (lives : job'.status ∉ terminalStatuses → job.status ∉ terminalStatuses) :
    AllTraced t (t.put job') := by
  intro other hother
  rcases Table.mem_put.mp hother with ⟨rfl, _⟩ | ⟨hother, _⟩
  · exact ⟨job, Table.mem_of_get? found, id.symm, bookingId.symm, lives⟩
  · exact AllTraced.refl t other hother

theorem AllTraced.of_writes {edge : JobStatus → JobStatus → Prop} {db db' : Db}
    (h : JobWrites edge db db') : AllTraced db.jobs db'.jobs := by
  have htraced : ∀ p q, Relation.ReflTransGen (JobWrite edge) p q → AllTraced p.1 q.1 := by
    intro p q hpq
    induction hpq with
    | refl => exact .refl p.1
    | tail _ hwrite ih =>
      refine ih.trans ?_
      cases hwrite with
      | moved job job' event found id bookingId allowed _ _ _ _ _ =>
        exact .put found id bookingId fun _ => transitions_terminal allowed
      | noted job job' found id bookingId status _ =>
        exact .put found id bookingId fun hlive => status ▸ hlive
  exact htraced _ _ h

theorem OneJob.of_rows {t u : Table Job} (h : OneJob t)
    (hrows : ∀ job' ∈ u.rows, ∃ job ∈ t.rows, job.id = job'.id ∧ job.bookingId = job'.bookingId) :
    OneJob u := by
  intro job' hjob' other' hother' hsame
  obtain ⟨job, hjob, hid, hbooking⟩ := hrows job' hjob'
  obtain ⟨other, hother, hid', hbooking'⟩ := hrows other' hother'
  have heq : other = job := h job hjob other hother (hbooking'.trans (hsame.trans hbooking.symm))
  exact Table.eq_of_key hother' hjob' (hid'.symm.trans ((congrArg Job.id heq).trans hid))

theorem OneJob.of_traced {t u : Table Job} (h : OneJob t) (htraced : AllTraced t u) :
    OneJob u := by
  refine h.of_rows fun job' hjob' => ?_
  obtain ⟨job, hjob, hid, hbooking, _⟩ := htraced job' hjob'
  exact ⟨job, hjob, hid, hbooking⟩

theorem OneJob.put {t : Table Job} (h : OneJob t) {own own' : Job} (hown : own ∈ t.rows)
    (id : own'.id = own.id) (bookingId : own'.bookingId = own.bookingId) :
    OneJob (t.put own') := by
  refine h.of_rows ?_
  intro job' hjob'
  rcases Table.mem_put.mp hjob' with ⟨rfl, _⟩ | ⟨hjob', _⟩
  · exact ⟨own, hown, id.symm, bookingId.symm⟩
  · exact ⟨job', hjob', rfl, rfl⟩

theorem OneJob.insert {t u : Table Job} {job : Job} (h : OneJob t)
    (inserted : t.insert? job = some u)
    (first : ∀ other ∈ t.rows, other.bookingId ≠ job.bookingId) : OneJob u := by
  intro a ha b hb hsame
  rcases (Table.mem_insert inserted).mp ha with ha | rfl
  · rcases (Table.mem_insert inserted).mp hb with hb | rfl
    · exact h a ha b hb hsame
    · exact absurd hsame.symm (first a ha)
  · rcases (Table.mem_insert inserted).mp hb with hb | rfl
    · exact absurd hsame (first b hb)
    · rfl

/-! ## Writes of the bookings -/

theorem StaysDead.refl (booking : Booking) : StaysDead booking booking := fun _ => rfl

theorem StaysDead.trans {a b c : Booking} (h : StaysDead a b) (h' : StaysDead b c) :
    StaysDead a c := by
  intro hdead
  have hb := h hdead
  exact (h' (hb.symm ▸ hdead)).trans hb

/-- The dead bookings are the ones that were dead before. -/
structure NoneDies (t u : Table Booking) : Prop where
  kept : Table.Kept StaysDead t u
  before : ∀ booking' ∈ u.rows, booking'.status ∈ deadStatuses →
    ∃ booking ∈ t.rows, booking.id = booking'.id ∧ booking.status ∈ deadStatuses

theorem NoneDies.of_eq {t u : Table Booking} (h : u = t) : NoneDies t u :=
  ⟨.of_eq h StaysDead.refl, fun booking hmem hdead => ⟨booking, h ▸ hmem, rfl, hdead⟩⟩

/-- A live booking is given another status. -/
theorem Restatused.kept {t u : Table Booking} {booking : Booking} {target : BookingStatus}
    (h : Restatused t u booking target) (hlive : booking.status ∉ deadStatuses) :
    Table.Kept StaysDead t u := by
  obtain ⟨hfound, booking', rfl, hid, _⟩ := h
  exact .put_found hfound hid (fun hdead => absurd hdead hlive) StaysDead.refl

theorem Restatused.noneDies {t u : Table Booking} {booking : Booking} {target : BookingStatus}
    (h : Restatused t u booking target) (hlive : booking.status ∉ deadStatuses)
    (htarget : target ∉ deadStatuses) : NoneDies t u := by
  refine ⟨h.kept hlive, ?_⟩
  obtain ⟨_, booking', rfl, hid, rfl⟩ := h
  intro other hother hdead
  rcases Table.mem_put.mp hother with ⟨rfl, _⟩ | ⟨hother, _⟩
  · exact absurd hdead htarget
  · exact ⟨other, hother, rfl, hdead⟩

/-- After it, the booking has the status. -/
theorem Restatused.reached {t u : Table Booking} {booking other : Booking}
    {target : BookingStatus} (h : Restatused t u booking target) (hother : other ∈ u.rows)
    (hid : other.id = booking.id) : other.status = target := by
  obtain ⟨hfound, booking', rfl, hid', rfl⟩ := h
  have hself : (t.put booking').get? booking.id = some booking' := Table.get?_put_self hfound hid'
  have hsame : other = booking' :=
    Table.eq_of_key hother (Table.mem_of_get? hself) (hid.trans hid'.symm)
  rw [hsame]

/-- The other bookings are as they were. -/
theorem Restatused.other {t u : Table Booking} {booking other : Booking}
    {target : BookingStatus} (h : Restatused t u booking target) (hother : other ∈ u.rows)
    (hne : other.id ≠ booking.id) : other ∈ t.rows := by
  obtain ⟨_, booking', rfl, hid, _⟩ := h
  rcases Table.mem_put.mp hother with ⟨rfl, _⟩ | ⟨hother, _⟩
  · exact absurd hid hne
  · exact hother

theorem Confirms.noneDies {db db' : Db} {bookingId : Uuid} (h : Confirms db bookingId db') :
    NoneDies db.bookings db'.bookings := by
  unfold Confirms at h
  split at h
  · next booking hpending =>
    have hstatus := (Option.filter_eq_some_iff.mp hpending).2
    refine h.noneDies ?_ (by simp [deadStatuses])
    rw [of_decide_eq_true hstatus]
    simp [deadStatuses]
  · exact .of_eq h

/-! ## Steps -/

/-- The laws after a step: its live jobs were live before or are of live bookings, and the
jobs of the bookings that die in it are closed. -/
theorem DeadClosed.step {db db' : Db} (h : DeadClosed db)
    (hjobs : ∀ job' ∈ db'.jobs.rows, Traced db.jobs job' ∨
      ∀ booking' ∈ db'.bookings.rows, booking'.id = job'.bookingId →
        booking'.status ∉ deadStatuses)
    (hbookings : ∀ booking' ∈ db'.bookings.rows, booking'.status ∈ deadStatuses →
      JobsClosed db'.jobs booking' ∨
        ∃ booking ∈ db.bookings.rows, booking.id = booking'.id ∧ booking.status ∈ deadStatuses) :
    DeadClosed db' := by
  intro booking' hmem hdead job' hjob' hof
  rcases hbookings booking' hmem hdead with hclosed | ⟨booking, hbefore, hid, hdead₀⟩
  · exact hclosed job' hjob' hof
  · by_contra hlive
    rcases hjobs job' hjob' with ⟨job, hjob, _, hofJob, hlives⟩ | halive
    · have hclosed := h booking hbefore hdead₀ job hjob (hofJob.trans (hof.trans hid.symm))
      exact hlives hlive hclosed
    · exact halive booking' hmem hof.symm hdead

/-- What a step keeps: the bookings that are dead, their jobs, and that there is one job for
a booking. -/
structure DeadKept (db db' : Db) : Prop where
  bookings : Table.Kept StaysDead db.bookings db'.bookings
  closed : DeadClosed db'
  oneJob : OneJob db'.jobs

structure DeadInv (db : Db) : Prop where
  closed : DeadClosed db
  oneJob : OneJob db.jobs

instance : DecidablePred DeadInv := fun db =>
  decidable_of_iff (DeadClosed db ∧ OneJob db.jobs)
    ⟨fun h => ⟨h.1, h.2⟩, fun h => ⟨h.closed, h.oneJob⟩⟩

variable {db db' : Db}

theorem DeadInv.deadKept_refl (h : DeadInv db) : DeadKept db db :=
  ⟨.of_eq rfl StaysDead.refl, h.closed, h.oneJob⟩

/-- A step in which no booking dies, and no job but the ones before lives. -/
theorem DeadInv.traced (h : DeadInv db) (hjobs : AllTraced db.jobs db'.jobs)
    (hbookings : NoneDies db.bookings db'.bookings) : DeadKept db db' where
  bookings := hbookings.kept
  closed := h.closed.step (fun job' hjob' => Or.inl (hjobs job' hjob'))
    (fun booking' hmem hdead => Or.inr (hbookings.before booking' hmem hdead))
  oneJob := h.oneJob.of_traced hjobs

/-- The status of the job of a live booking is overwritten. -/
theorem DeadInv.forced (h : DeadInv db) {booking : Booking} {job : Job} {status : JobStatus}
    {target : BookingStatus} (hforced : Forced db job status db')
    (hof : job.bookingId = booking.id) (hlive : booking.status ∉ deadStatuses)
    (htarget : target ∉ deadStatuses)
    (hwritten : Restatused db.bookings db'.bookings booking target) : DeadKept db db' := by
  obtain ⟨_, hfound, job', hjobs, hid, _, _, hbooking⟩ := hforced
  have hdies := hwritten.noneDies hlive htarget
  refine ⟨hdies.kept, h.closed.step (fun other hother => ?_)
    (fun booking' hmem hdead => Or.inr (hdies.before booking' hmem hdead)), ?_⟩
  · rw [hjobs] at hother
    rcases Table.mem_put.mp hother with ⟨rfl, _⟩ | ⟨hother, _⟩
    · refine Or.inr fun booking' hmem hsame => ?_
      rw [hwritten.reached hmem (hsame.trans (hbooking.trans hof))]
      exact htarget
    · exact Or.inl (AllTraced.refl db.jobs other hother)
  · rw [hjobs]
    refine h.oneJob.of_rows fun other hother => ?_
    rcases Table.mem_put.mp hother with ⟨rfl, _⟩ | ⟨hother, _⟩
    · exact ⟨job, Table.mem_of_get? hfound, hid.symm, hbooking.symm⟩
    · exact ⟨other, hother, rfl, rfl⟩

/-- A live booking gets its first job. -/
theorem DeadInv.added (h : DeadInv db) {booking : Booking} {target : BookingStatus}
    (hadds : AddsAssigned db booking.id db') (hnone : db.jobOfBooking booking.id = none)
    (hlive : booking.status ∉ deadStatuses) (htarget : target ∉ deadStatuses)
    (hwritten : Restatused db.bookings db'.bookings booking target) : DeadKept db db' := by
  obtain ⟨_, job, hinsert, _, hof⟩ := hadds
  have hdies := hwritten.noneDies hlive htarget
  have hfirst : ∀ other ∈ db.jobs.rows, other.bookingId ≠ job.bookingId := by
    rw [hof]
    exact jobOfBooking_none hnone
  refine ⟨hdies.kept, h.closed.step (fun other hother => ?_)
    (fun booking' hmem hdead => Or.inr (hdies.before booking' hmem hdead)),
    h.oneJob.insert hinsert hfirst⟩
  rcases (Table.mem_insert hinsert).mp hother with hother | rfl
  · exact Or.inl (AllTraced.refl db.jobs other hother)
  · refine Or.inr fun booking' hmem hsame => ?_
    rw [hwritten.reached hmem (hsame.trans hof)]
    exact htarget

theorem assignable_live {status : BookingStatus} (h : status ∈ assignable) :
    status ∉ deadStatuses := by
  cases status <;> simp_all [assignable, deadStatuses]

theorem DeadInv.assigned (h : DeadInv db) {bookingId : Uuid}
    (heffect : AssignEffect db bookingId db') : DeadKept db db' := by
  obtain ⟨_, ⟨booking, hbooking, hstatus, hwritten⟩, hjobs⟩ := heffect
  have hid : booking.id = bookingId := Table.key_of_get? hbooking
  subst hid
  have htarget : BookingStatus.providerAssigned ∉ deadStatuses := by decide
  rcases hjobs with ⟨job, hof, hforced⟩ | ⟨hnone, hadds⟩
  · exact h.forced hforced (jobOfBooking_some hof).2 (assignable_live hstatus) htarget hwritten
  · exact h.added hadds hnone (assignable_live hstatus) htarget hwritten

/-! ### The operations of the dispatchers -/

/-- The job of a cancelled booking is cancelled with it. -/
theorem cancelJob_closed {booking : Booking} {userId : Uuid} {now : Instant}
    (h : cancelJob db booking.id userId now = .ok db') (hone : OneJob db.jobs) :
    JobsClosed db'.jobs booking := by
  unfold cancelJob at h
  split at h
  · next hnone =>
    rw [return_committed] at h
    subst h
    intro job hjob hof
    exact absurd hof (jobOfBooking_none hnone job hjob)
  · next job hof =>
    simp only [seq_committed, require_committed, return_committed, Prod.exists] at h
    obtain ⟨_, _, _, job', _, htransition, rfl⟩ := h
    obtain ⟨hmem, hbooking⟩ := jobOfBooking_some hof
    obtain ⟨hmoved, hstatus, _, _, hjobs⟩ := applyTransition_found htransition (Table.get?_key hmem)
    intro other hother hofOther
    rw [hjobs] at hother
    rcases Table.mem_put.mp hother with ⟨rfl, _⟩ | ⟨hother, hne⟩
    · simp [hstatus, terminalStatuses]
    · have hsame : other = job := hone job hmem other hother (hofOther.trans hbooking.symm)
      exact absurd (hsame ▸ hmoved.id.symm) hne

theorem cancelBooking_closed {userId bookingId : Uuid} {now : Instant} {v : Booking}
    (h : cancelBooking db userId bookingId now = .ok (db', v)) (hone : OneJob db.jobs)
    {booking : Booking} (hbooking : db.bookings.get? bookingId = some booking)
    (hstatus : booking.status ≠ .cancelled) : JobsClosed db'.jobs booking := by
  obtain ⟨found, hfound, hid, hcases⟩ := cancelBooking_ok h
  rw [hid, hbooking] at hfound
  cases hfound
  rcases hcases with ⟨hcancelled, _⟩ | ⟨_, _, db1, _, hjob, rfl⟩
  · exact absurd hcancelled hstatus
  · have hclosed : JobsClosed db1.jobs booking := cancelJob_closed hjob hone
    exact hclosed

theorem deadKept_exec (settings : Settings) (dir : Directory) (op : Op) (h : DeadInv db) :
    DeadKept db (exec settings dir db op) := by
  cases op with
  | matchJob jobId actorId now offerId =>
    refine commit_induction h.deadKept_refl fun db' v heq => ?_
    obtain ⟨hwrites, _, hbookings⟩ := matchJob_effect heq
    exact h.traced (.of_writes hwrites) (.of_eq hbookings)
  | decideOffer offerId vendorId accept workerId actorId now assignmentId =>
    refine commit_induction h.deadKept_refl fun db' v heq => ?_
    obtain ⟨hwrites, _, ⟨_, _, hconfirms, _⟩ | ⟨_, hbookings⟩⟩ := decideOffer_effect heq
    · exact h.traced (.of_writes hwrites) hconfirms.noneDies
    · exact h.traced (.of_writes hwrites) (.of_eq hbookings)
  | manualAssign jobId vendorId workerId actorId reason now assignmentId =>
    refine commit_induction h.deadKept_refl fun db' v heq => ?_
    obtain ⟨hwrites, _, _, _, hconfirms, _⟩ := manualAssign_effect heq
    exact h.traced (.of_writes hwrites) hconfirms.noneDies
  | assign request now jobId assignmentId =>
    exact commit_induction h.deadKept_refl fun db' v heq => h.assigned (assign_effect heq)
  | automaticAssign bookingId actorId now jobId assignmentId =>
    exact commit_induction h.deadKept_refl fun db' v heq => h.assigned (automaticAssign_effect heq)
  | unassign bookingId actorId reason now =>
    refine commit_induction h.deadKept_refl fun db' v heq => ?_
    obtain ⟨_, ⟨booking, hbooking, hstatus, hwritten⟩, hjobs⟩ := unassign_effect heq
    have hid : booking.id = bookingId := Table.key_of_get? hbooking
    subst hid
    have hlive : booking.status ∉ deadStatuses := by
      rw [hstatus]
      decide
    have htarget : BookingStatus.reassignmentRequired ∉ deadStatuses := by decide
    rcases hjobs with ⟨job, hof, hforced⟩ | ⟨_, hjobs, _⟩
    · exact h.forced hforced (jobOfBooking_some hof).2 hlive htarget hwritten
    · exact h.traced (hjobs ▸ .refl db.jobs) (hwritten.noneDies hlive htarget)
  | confirm bookingId workerId actorId reason now jobId assignmentId =>
    refine commit_induction h.deadKept_refl fun db' v heq => ?_
    obtain ⟨_, ⟨booking, hbooking, hstatus, hwritten⟩, hjobs⟩ := confirm_effect heq
    have hid : booking.id = bookingId := Table.key_of_get? hbooking
    subst hid
    have hlive : booking.status ∉ deadStatuses := by
      intro hdead
      revert hstatus hdead
      cases booking.status <;> simp [confirmable, deadStatuses]
    have htarget : BookingStatus.confirmed ∉ deadStatuses := by decide
    rcases hjobs with ⟨_, _, hjobs, _⟩ | ⟨hnone, hadds⟩
    · exact h.traced (hjobs ▸ .refl db.jobs) (hwritten.noneDies hlive htarget)
    · exact h.added hadds hnone hlive htarget hwritten
  | transition jobId target actorId actorType reason now snapshotId earningId =>
    refine commit_induction h.deadKept_refl fun db' v heq => ?_
    obtain ⟨_, _, heffect⟩ := transition_effect heq
    exact h.traced (.of_writes heffect.writes) (.of_eq heffect.bookings)
  | technicianNote jobId workerId actorId notesField notes target now snapshotId earningId =>
    refine commit_induction h.deadKept_refl fun db' v heq => ?_
    obtain ⟨_, _, heffect⟩ := technicianNote_effect heq
    exact h.traced (.of_writes heffect.writes) (.of_eq heffect.bookings)
  | cancel userId bookingId now =>
    refine commit_induction h.deadKept_refl fun db' v heq => ?_
    obtain ⟨hwrites, _, booking, hbooking, ⟨_, rfl⟩ | ⟨hstatus, hwritten⟩⟩ :=
      cancelBooking_effect heq
    · exact h.deadKept_refl
    · have hlive : booking.status ∉ deadStatuses := by
        intro hdead
        revert hstatus hdead
        cases booking.status <;> simp [cancellable, deadStatuses]
      have hnot : booking.status ≠ .cancelled := by
        rintro hcancelled
        simp [hcancelled, deadStatuses] at hlive
      have hclosed := cancelBooking_closed heq h.oneJob hbooking hnot
      have htraced := AllTraced.of_writes hwrites
      refine ⟨hwritten.kept hlive, h.closed.step (fun job' hjob' => Or.inl (htraced job' hjob'))
        (fun other hother hdead => ?_), h.oneJob.of_traced htraced⟩
      by_cases hid : other.id = booking.id
      · exact Or.inl fun job hjob hof => hclosed job hjob (hof.trans hid)
      · exact Or.inr ⟨other, hwritten.other hother hid, rfl, hdead⟩
  | reschedule userId bookingId holdId bookingSession now =>
    refine commit_induction h.deadKept_refl fun db' v heq => ?_
    obtain ⟨_, hjobs, _, booking, _, hstatus, hwritten⟩ := rescheduleBooking_effect heq
    have hlive : booking.status ∉ deadStatuses := by
      intro hdead
      revert hstatus hdead
      cases booking.status <;> simp [reschedulable, deadStatuses]
    exact h.traced (hjobs ▸ .refl db.jobs) (hwritten.noneDies hlive (by decide))

/-! ### Decisions -/

/-- A decision gives the booking of a job that nobody is assigned to a status. -/
theorem Decision.effect {decision : Decision} (h : decision.transact db = .ok db') :
    JobWrites assignedEdge db db' ∧
      ((∃ job ∈ db.jobs.rows, job.status ∈ unassignedStatuses ∧
          Confirms db job.bookingId db') ∨ db'.bookings = db.bookings) := by
  cases decision with
  | offer offerId vendorId workerId actorId now assignmentId =>
    obtain ⟨v, heq⟩ := map_fst_ok h
    obtain ⟨hwrites, _, ⟨job, hjob, hconfirms, hstatus⟩ | ⟨_, hbookings⟩⟩ :=
      decideOffer_effect heq
    · refine ⟨hwrites, Or.inl ⟨job, ?_, hstatus, hconfirms⟩⟩
      obtain ⟨offer, _, haccepted⟩ := Option.bind_eq_some_iff.mp hjob
      split at haccepted
      · exact Table.mem_of_get? haccepted
      · cases haccepted
    · exact ⟨hwrites, Or.inr hbookings⟩
  | manual jobId vendorId workerId actorId reason now assignmentId =>
    obtain ⟨v, heq⟩ := map_fst_ok h
    obtain ⟨hwrites, _, job, hjob, hconfirms, hstatus⟩ := manualAssign_effect heq
    exact ⟨hwrites, Or.inl ⟨job, Table.mem_of_get? hjob, hstatus, hconfirms⟩⟩

theorem flushed_same {seen written : Table Booking} {booking : Booking}
    (h : written.get? booking.id = seen.get? booking.id) :
    flushed seen written booking = booking := by
  unfold flushed
  rw [h]
  cases seen.get? booking.id with
  | none => rfl
  | some before => simp

/-- What a flush leaves of the bookings: they are as they were committed, but the one that
the decision confirms. -/
theorem flushed_cases {seen : Table Booking} {bookingId : Uuid}
    (h : Confirms { db with bookings := seen } bookingId db') (booking : Booking) :
    flushed seen db'.bookings booking = booking ∨
      (booking.id = bookingId ∧
        (flushed seen db'.bookings booking).status = .confirmed) := by
  unfold Confirms at h
  split at h
  · next pending hpending =>
    obtain ⟨hfound, written, hwritten, hid, hstatus⟩ := h
    have hkey : pending.id = bookingId :=
      Table.key_of_get? (Option.filter_eq_some_iff.mp hpending).1
    have hseen : seen.get? pending.id = some pending := hfound
    have hput : db'.bookings = seen.put written := hwritten
    by_cases hsame : booking.id = pending.id
    · unfold flushed
      rw [hput, hsame, hseen, Table.get?_put_self hseen hid]
      dsimp only
      split
      · exact Or.inl rfl
      · exact Or.inr ⟨hkey, hstatus⟩
    · refine Or.inl (flushed_same ?_)
      rw [hput, Table.get?_put_ne fun e => hsame (e.symm.trans hid)]
  · have hsame : db'.bookings = seen := h
    exact Or.inl (flushed_same (by rw [hsame]))

namespace Deciding

variable {w : Deciding}

/-- The expiry of bookings expires none that has a live job. -/
def ExpiresIdle (w : Deciding) : Op → Prop
  | .expireBookings now skipped =>
    ∀ booking ∈ w.db.bookings.rows, Expiring now booking → booking.id ∉ skipped →
      JobsClosed w.db.jobs booking
  | _ => True

instance (w : Deciding) : DecidablePred (ExpiresIdle w)
  | .expireBookings .. =>
    inferInstanceAs (Decidable (∀ booking ∈ w.db.bookings.rows, _ → _ → _))
  | .decide .. | .finish .. | .dispatch .. => isTrue trivial

/-- A decision that commits over rows that others have written since it read them. -/
theorem deadKept_flush {seen : Table Booking} {decision : Decision} (h : DeadInv db)
    (hdecides : decision.transact { db with bookings := seen } = .ok db') :
    DeadKept db { db' with bookings := flush seen db'.bookings db.bookings } := by
  obtain ⟨hwrites, hbookings⟩ := decision.effect hdecides
  have htraced : AllTraced db.jobs db'.jobs := .of_writes hwrites
  have hflushed : ∀ booking ∈ db.bookings.rows,
      flushed seen db'.bookings booking = booking ∨ (booking.status ∉ deadStatuses ∧
        (flushed seen db'.bookings booking).status = .confirmed) := by
    intro booking hmem
    rcases hbookings with ⟨job, hjob, hstatus, hconfirms⟩ | hsame
    · rcases flushed_cases hconfirms booking with hkept | ⟨hof, hconfirmed⟩
      · exact Or.inl hkept
      · -- the job of the decision lives, so its booking is not dead
        refine Or.inr ⟨fun hdead => ?_, hconfirmed⟩
        have hclosed := h.closed booking hmem hdead job hjob hof.symm
        revert hstatus hclosed
        cases job.status <;> simp [unassignedStatuses, terminalStatuses]
    · exact Or.inl (flushed_same (by rw [show db'.bookings = seen from hsame]))
  refine h.traced htraced ⟨fun booking hmem => ?_, fun booking' hmem hdead => ?_⟩
  · refine ⟨flushed seen db'.bookings booking, ?_, fun hdead => ?_⟩
    · show (flush seen db'.bookings db.bookings).get? (key booking) = _
      rw [flush, Table.get?_update, Table.get?_key hmem]
      rfl
    · rcases hflushed booking hmem with hkept | ⟨hlive, _⟩
      · rw [hkept]
      · exact absurd hdead hlive
  · obtain ⟨booking, hbefore, rfl⟩ :
        ∃ booking ∈ db.bookings.rows, flushed seen db'.bookings booking = booking' :=
      List.mem_map.mp hmem
    refine ⟨booking, hbefore, (flushed_id seen db'.bookings booking).symm, ?_⟩
    rcases hflushed booking hbefore with hkept | ⟨_, hconfirmed⟩
    · rwa [hkept] at hdead
    · rw [hconfirmed] at hdead
      simp [deadStatuses] at hdead

/-- No booking with a live job expires. -/
theorem deadKept_expire {now : Instant} {skipped : List Uuid} (h : DeadInv db)
    (hidle : ∀ booking ∈ db.bookings.rows, Expiring now booking → booking.id ∉ skipped →
      JobsClosed db.jobs booking) : DeadKept db (expireBookingHolds db now skipped) := by
  refine ⟨fun booking hmem => ?_, ?_, h.oneJob⟩
  · refine ⟨expiredBooking now skipped booking, expireBookingHolds_get? hmem, fun hdead => ?_⟩
    have hnot : ¬ (Expiring now booking ∧ booking.id ∉ skipped) := by
      rintro ⟨⟨hexpiring, _⟩, _⟩
      revert hexpiring hdead
      cases booking.status <;>
        simp [expiringBookingStatuses, capacityHoldingStatuses, deadStatuses]
    rw [expiredBooking, if_neg hnot]
  · refine h.closed.step (fun job hjob => Or.inl ⟨job, hjob, rfl, rfl, id⟩)
      fun booking' hmem hdead => ?_
    obtain ⟨booking, hbefore, hexpired⟩ :
        ∃ booking ∈ db.bookings.rows, expiredBooking now skipped booking = booking' :=
      List.mem_map.mp hmem
    unfold expiredBooking at hexpired
    split at hexpired
    · next hexpires =>
      subst hexpired
      exact Or.inl (hidle booking hbefore hexpires.1 hexpires.2)
    · subst hexpired
      exact Or.inr ⟨booking, hbefore, rfl, hdead⟩

theorem deadKept_step (settings : Settings) (dir : Directory) (op : Op) (h : DeadInv w.db)
    (hidle : ExpiresIdle w op) : DeadKept w.db (exec settings dir w op).db := by
  cases op with
  | decide decision =>
    simp only [exec]
    split
    · exact h.deadKept_refl
    · exact h.deadKept_refl
  | finish position =>
    simp only [exec]
    split
    · exact h.deadKept_refl
    · next found _ =>
      split
      · next db' hdecides => exact deadKept_flush h hdecides
      · exact h.deadKept_refl
  | dispatch op =>
    simp only [exec, write]
    split
    · exact deadKept_exec settings dir op h
    · exact h.deadKept_refl
  | expireBookings now skipped => exact deadKept_expire h hidle

/-- A booking whose job lives is left by a step that expires it. -/
theorem expiresIdle_of_closed (settings : Settings) (dir : Directory) (op : Op)
    (h : DeadClosed (exec settings dir w op).db) : ExpiresIdle w op := by
  cases op with
  | expireBookings now skipped =>
    intro booking hmem hexpiring hunlocked
    have hexpires : expiredBooking now skipped booking = { booking with status := .expired } :=
      if_pos ⟨hexpiring, hunlocked⟩
    have hexpired : expiredBooking now skipped booking ∈
        (expireBookingHolds w.db now skipped).bookings.rows :=
      List.mem_map_of_mem hmem
    rw [hexpires] at hexpired
    exact h { booking with status := .expired } hexpired (by simp [deadStatuses])
  | _ => trivial

/-! ## Runs -/

/-- Dead bookings stay as they are and have no live job, in a run exactly if no step of it
expires a booking that has one. -/
theorem dead_bookings_stay (settings : Settings) (dir : Directory) (w : Deciding) (ops : List Op)
    (hstart : DeadInv w.db) :
    ((states (exec settings dir) w ops).Pairwise
          (fun w w' => Table.Kept StaysDead w.db.bookings w'.db.bookings) ∧
        Always (exec settings dir) (fun w => DeadClosed w.db) w ops) ↔
      Along (exec settings dir) ExpiresIdle w ops := by
  have hinv : ∀ w op, DeadInv w.db → ExpiresIdle w op → DeadInv (exec settings dir w op).db := by
    intro w op h hidle
    have hkept := deadKept_step settings dir op h hidle
    exact ⟨hkept.closed, hkept.oneJob⟩
  constructor
  · rintro ⟨_, hclosed⟩
    exact along_of_always (fun w op => expiresIdle_of_closed settings dir op) hclosed
  · intro hidle
    constructor
    · exact pairwise_of_step (I := fun w => DeadInv w.db) (fun w => .of_eq rfl StaysDead.refl)
        (fun _ _ _ h h' => Table.Kept.trans h h' fun _ _ _ => StaysDead.trans) hinv
        (fun w op h hidle => (deadKept_step settings dir op h hidle).bookings) hstart hidle
    · exact (always_of_inv (I := fun w => DeadInv w.db) hinv hstart hidle).imp fun _ h => h.closed

/-- The booking of a paid visit and its job, which waits for a professional. -/
def paidDb : Db := { visitDb with
  bookings := ⟨[{ visitBooking with
    status := .pendingProviderConfirmation, providerWorkerId := some 6 }], by decide⟩
  jobs := ⟨[{
    id := 20, bookingId := 2, serviceId := 3, addressId := 4, status := .matching
    scheduledStart := ofMinutes 540, scheduledEnd := ofMinutes 600 }], by decide⟩ }

/-- The visit is assigned by an operator, and cancelled by its customer. -/
def paidCancelled : List Op :=
  [.decide (.manual 20 5 6 8 "nearest" 1 21), .finish 0, .expireBookings (ofMinutes 5000) [],
   .dispatch (.cancel 9 2 2), .expireBookings (ofMinutes 5001) []]

theorem paidCancelled_stays :
    (states (exec visitSettings visitDirectory) { db := paidDb } paidCancelled).Pairwise
        (fun w w' => Table.Kept StaysDead w.db.bookings w'.db.bookings) ∧
      Always (exec visitSettings visitDirectory) (fun w => DeadClosed w.db) { db := paidDb }
        paidCancelled :=
  (dead_bookings_stay visitSettings visitDirectory { db := paidDb } paidCancelled
    (by decide)).mpr (by decide)

/-- The booking expires while an operator assigns its job, and is confirmed again. -/
theorem expiry_leaves_live_job :
    ¬ ((states (exec visitSettings visitDirectory) { db := paidDb }
          [.decide (.manual 20 5 6 8 "nearest" 1 21), .expireBookings (ofMinutes 5000) [],
           .finish 0]).Pairwise
        (fun w w' => Table.Kept StaysDead w.db.bookings w'.db.bookings)) ∧
      ¬ Always (exec visitSettings visitDirectory) (fun w => DeadClosed w.db) { db := paidDb }
        [.expireBookings (ofMinutes 5000) []] := by
  decide

end Deciding

end Breero.Dispatch
