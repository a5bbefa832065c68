import Mathlib.Logic.Relation
import Breero.Jobs.Transitions

/-!
What a transaction writes of the jobs and of their event log, as a sequence of writes.

* `JobWrite` lists the writes that the log records, or that change no status;
* `JobWrites` is a sequence of them between two states of the database, and
  `applyTransition_writes` says that a transition is one.
-/

namespace Breero.Jobs
open KeyedTable Transaction Relation

/-- The same request with the same amounts, whatever became of it. -/
structure SameTerms (request request' : WorkRequest) : Prop where
  id : request'.id = request.id
  subtotal : request'.subtotalMinor = request.subtotalMinor
  tax : request'.taxMinor = request.taxMinor
  total : request'.totalMinor = request.totalMinor
  currency : request'.currency = request.currency

theorem SameTerms.refl (request : WorkRequest) : SameTerms request request :=
  ⟨rfl, rfl, rfl, rfl, rfl⟩

/-- A transition that `edge` admits and the log records, or a write of no status. -/
inductive JobWrite (edge : JobStatus → JobStatus → Prop) :
    Table Job × List JobEvent → Table Job × List JobEvent → Prop
  | moved {t : Table Job} {log : List JobEvent} (job job' : Job) (event : JobEvent)
      (found : t.get? job.id = some job) (id : job'.id = job.id)
      (bookingId : job'.bookingId = job.bookingId)
      (allowed : job'.status ∈ transitions job.status) (admitted : edge job.status job'.status)
      (version : job'.version = job.version + 1) (ofJob : event.jobId = job.id)
      (source : event.fromStatus = some job.status) (target : event.toStatus = job'.status) :
      JobWrite edge (t, log) (t.put job', log ++ [event])
  | noted {t : Table Job} {log : List JobEvent} (job job' : Job)
      (found : t.get? job.id = some job) (id : job'.id = job.id)
      (bookingId : job'.bookingId = job.bookingId)
      (status : job'.status = job.status) (version : job'.version = job.version) :
      JobWrite edge (t, log) (t.put job', log)

/-- The jobs and the log of `db'` come from those of `db` by such writes. -/
def JobWrites (edge : JobStatus → JobStatus → Prop) (db db' : Db) : Prop :=
  ReflTransGen (JobWrite edge) (db.jobs, db.jobEvents) (db'.jobs, db'.jobEvents)

variable {edge edge' : JobStatus → JobStatus → Prop} {db db' db'' : Db}

theorem JobWrite.mono {p q : Table Job × List JobEvent} (h : JobWrite edge p q)
    (himp : ∀ source target, target ∈ transitions source → edge source target →
      edge' source target) : JobWrite edge' p q := by
  cases h with
  | moved job job' event found id bookingId allowed admitted version ofJob source target =>
    exact .moved job job' event found id bookingId allowed (himp _ _ allowed admitted) version ofJob
      source target
  | noted job job' found id bookingId status version =>
    exact .noted job job' found id bookingId status version

theorem JobWrites.mono (h : JobWrites edge db db')
    (himp : ∀ source target, target ∈ transitions source → edge source target →
      edge' source target) : JobWrites edge' db db' :=
  ReflTransGen.mono (fun _ _ hwrite => JobWrite.mono hwrite himp) _ _ h

theorem JobWrites.refl (db : Db) : JobWrites edge db db := ReflTransGen.refl

theorem JobWrites.trans (h : JobWrites edge db db') (h' : JobWrites edge db' db'') :
    JobWrites edge db db'' := ReflTransGen.trans h h'

theorem JobWrites.of_same (hjobs : db'.jobs = db.jobs) (hlog : db'.jobEvents = db.jobEvents) :
    JobWrites edge db db' := by
  unfold JobWrites
  rw [hjobs, hlog]

/-- The writes are those of the jobs and the log alone. -/
theorem JobWrites.of_rows (h : JobWrites edge db db') (hjobs : db''.jobs = db'.jobs)
    (hlog : db''.jobEvents = db'.jobEvents) : JobWrites edge db db'' :=
  h.trans (.of_same hjobs hlog)

theorem JobWrites.noted {job job' : Job} (found : db.jobs.get? job.id = some job)
    (id : job'.id = job.id) (bookingId : job'.bookingId = job.bookingId)
    (status : job'.status = job.status) (version : job'.version = job.version)
    (hjobs : db'.jobs = db.jobs.put job')
    (hlog : db'.jobEvents = db.jobEvents) : JobWrites edge db db' := by
  unfold JobWrites
  rw [hjobs, hlog]
  exact ReflTransGen.single (.noted job job' found id bookingId status version)

/-- A transition of a job whose row has the same status and version. -/
theorem applyTransition_writes {stored job job' : Job} {target : JobStatus}
    {actorId : Option Uuid} {actorType : String} {reason : Option String} {metadata : Payload}
    {now : Instant} {changed : Bool}
    (h : applyTransition db job target actorId actorType reason metadata now =
      .ok (db', job', changed))
    (found : db.jobs.get? job.id = some stored) (bookingId : stored.bookingId = job.bookingId)
    (status : stored.status = job.status) (version : stored.version = job.version) :
    JobWrites (fun source t => source = job.status ∧ t = target) db db' := by
  have hid : stored.id = job.id := Table.key_of_get? found
  unfold applyTransition at h
  split at h
  · simp only [return_committed, Prod.mk.injEq] at h
    obtain ⟨rfl, _⟩ := h
    exact .refl _
  · simp only [seq_committed, require_committed, return_committed, Prod.mk.injEq] at h
    obtain ⟨_, hallowed, _, _, rfl, rfl, _⟩ := h
    refine ReflTransGen.single (.moved stored _ _ (hid.symm ▸ found) hid.symm bookingId.symm
      ?_ ?_ ?_ hid.symm ?_ rfl)
    · exact status.symm ▸ hallowed
    · exact ⟨status, rfl⟩
    · rw [version]
    · rw [status]

/-- The job found is moved to the target, and the log records it. -/
structure Transitioned (db : Db) (job : Job) (target : JobStatus) (db' : Db) : Prop where
  found : db.jobs.get? job.id = some job
  allowed : target ∈ transitions job.status
  written : ∃ job' event, db'.jobs = db.jobs.put job' ∧
    db'.jobEvents = db.jobEvents ++ [event] ∧ job'.id = job.id ∧ job'.status = target ∧
    job'.version = job.version + 1 ∧ event.jobId = job.id ∧
    event.fromStatus = some job.status ∧ event.toStatus = target ∧ job'.bookingId = job.bookingId

theorem Transitioned.writes {job : Job} {target : JobStatus}
    (h : Transitioned db job target db') :
    JobWrites (fun source t => source = job.status ∧ t = target) db db' := by
  obtain ⟨job', event, hjobs, hlog, hid, hstatus, hversion, hof, hsource, htarget,
    hbooking⟩ := h.written
  unfold JobWrites
  rw [hjobs, hlog]
  exact ReflTransGen.single (.moved job job' event h.found hid hbooking (hstatus ▸ h.allowed)
    ⟨rfl, hstatus⟩ hversion hof hsource (htarget.trans hstatus.symm))

theorem Transitioned.of_rows {db₀ db₁ : Db} {job : Job} {target : JobStatus}
    (h : Transitioned db₀ job target db₁) (hjobs : db₀.jobs = db.jobs)
    (hlog : db₀.jobEvents = db.jobEvents) (hjobs' : db'.jobs = db₁.jobs)
    (hlog' : db'.jobEvents = db₁.jobEvents) : Transitioned db job target db' where
  found := hjobs ▸ h.found
  allowed := h.allowed
  written := by
    rw [hjobs', hlog', ← hjobs, ← hlog]
    exact h.written

/-- Of a database, a transition writes the jobs and the log. -/
theorem applyTransition_found {job job' : Job} {target : JobStatus}
    {actorId : Option Uuid} {actorType : String} {reason : Option String} {metadata : Payload}
    {now : Instant} {changed : Bool}
    (h : applyTransition db job target actorId actorType reason metadata now =
      .ok (db', job', changed)) (found : db.jobs.get? job.id = some job) :
    (db' = db ∧ target = job.status) ∨
      (Transitioned db job target db' ∧ ∃ jobs jobEvents, db' = { db with jobs, jobEvents }) := by
  unfold applyTransition at h
  split at h
  · next hsame =>
    simp only [return_committed, Prod.mk.injEq] at h
    exact Or.inl ⟨h.1.symm, hsame⟩
  · simp only [seq_committed, require_committed, return_committed, Prod.mk.injEq] at h
    obtain ⟨_, hallowed, _, _, rfl, rfl, _⟩ := h
    exact Or.inr ⟨⟨found, hallowed, _, _, rfl, rfl, rfl, rfl, rfl, rfl, rfl, rfl, rfl⟩, _, _, rfl⟩

/-- The job goes on, if it waits for an approval. -/
def Resumed (db : Db) (jobId : Uuid) (db' : Db) : Prop :=
  (∃ job, job.id = jobId ∧ job.status = .awaitingApproval ∧
      Transitioned db job .inProgress db') ∨
    ((∀ job ∈ db.jobs.get? jobId, job.status ≠ .awaitingApproval) ∧ db'.jobs = db.jobs ∧
      db'.jobEvents = db.jobEvents)

theorem Resumed.of_rows {db₀ db₁ : Db} {jobId : Uuid} (h : Resumed db₀ jobId db₁)
    (hjobs : db₀.jobs = db.jobs) (hlog : db₀.jobEvents = db.jobEvents)
    (hjobs' : db'.jobs = db₁.jobs) (hlog' : db'.jobEvents = db₁.jobEvents) :
    Resumed db jobId db' := by
  rcases h with ⟨job, hid, hstatus, hmoved⟩ | ⟨hnot, hsame, hsameLog⟩
  · exact Or.inl ⟨job, hid, hstatus, hmoved.of_rows hjobs hlog hjobs' hlog'⟩
  · exact Or.inr ⟨hjobs ▸ hnot, hjobs'.trans (hsame.trans hjobs),
      hlog'.trans (hsameLog.trans hlog)⟩

theorem applyTransition_resumed {jobId : Uuid} {job job' : Job} {actorId : Option Uuid}
    {actorType : String} {reason : Option String} {metadata : Payload} {now : Instant}
    {changed : Bool} (hjob : db.jobs.get? jobId = some job)
    (hstatus : job.status = .awaitingApproval)
    (h : applyTransition db job .inProgress actorId actorType reason metadata now =
      .ok (db', job', changed)) :
    Resumed db jobId db' ∧ db'.bookings = db.bookings ∧ db'.workRequests = db.workRequests := by
  have hid : job.id = jobId := Table.key_of_get? hjob
  rcases applyTransition_found h (Table.get?_found hjob) with
    ⟨_, hsame⟩ | ⟨hmoved, jobs, jobEvents, rfl⟩
  · rw [hstatus] at hsame
    cases hsame
  · exact ⟨Or.inl ⟨job, hid, hstatus, hmoved⟩, rfl, rfl⟩

theorem resumed_of_not_waiting {jobId : Uuid}
    (hnot : ∀ job, db.jobs.get? jobId = some job → job.status ≠ .awaitingApproval) :
    Resumed db jobId db :=
  Or.inr ⟨hnot, rfl, rfl⟩

/-- A job goes on if it waits. -/
theorem resume_resumed {jobId : Uuid} {actorId : Option Uuid} {actorType : String}
    {reason : Option String} {now : Instant}
    (h : (match db.jobs.get? jobId with
      | some job =>
        if job.status = JobStatus.awaitingApproval then do
          let (db, _, _) ← applyTransition db job .inProgress actorId actorType reason [] now
          return db
        else return db
      | none => return db) = .ok db') :
    Resumed db jobId db' ∧ db'.bookings = db.bookings ∧ db'.workRequests = db.workRequests := by
  split at h
  · next job hjob =>
    split at h
    · next hstatus =>
      simp only [seq_committed, return_committed, Prod.exists] at h
      obtain ⟨_, _, _, htransition, rfl⟩ := h
      exact applyTransition_resumed hjob hstatus htransition
    · next hstatus =>
      rw [return_committed] at h
      subst h
      refine ⟨resumed_of_not_waiting fun other hother => ?_, rfl, rfl⟩
      rw [hjob] at hother
      cases hother
      exact hstatus
  · next hnone =>
    rw [return_committed] at h
    subst h
    refine ⟨resumed_of_not_waiting fun other hother => ?_, rfl, rfl⟩
    rw [hnone] at hother
    cases hother

/-- The transition of a job that goes on. -/
def resumedEdge (source target : JobStatus) : Prop :=
  source = .awaitingApproval ∧ target = .inProgress

theorem Resumed.writes {jobId : Uuid} (h : Resumed db jobId db') :
    JobWrites resumedEdge db db' := by
  rcases h with ⟨job, _, hstatus, hmoved⟩ | ⟨_, hjobs, hlog⟩
  · refine hmoved.writes.mono ?_
    rintro _ _ _ ⟨rfl, rfl⟩
    exact ⟨hstatus, rfl⟩
  · exact .of_same hjobs hlog

end Breero.Jobs
