import Breero.Payments.Visits
import Breero.Dispatch.Writes
import Breero.Visits.System

/-!
What a step of a visit writes of the jobs and their log, and of the work requests.

* `createWorkRequest_effect`, `reviewWorkRequest_effect` and `decideWorkRequest_effect` say
  it of the operations on a work request;
* `exec_jobs` says that the log records every new job and every write of a status but the
  ones that `forcedJob` and `AddsUnlogged` name.
-/

namespace Breero.Jobs
open KeyedTable Transaction

variable {settings : Settings} {db db' : Db}

/-! ## Work requests -/

theorem createWorkRequest_effect {jobId : Uuid} {payload : WorkRequestCreate}
    {workerId requestId : Uuid} {now : Instant} {v : WorkRequest}
    (h : createWorkRequest db jobId payload workerId requestId now = .ok (db', v)) :
    ∃ job, v.jobId = job.id ∧ v.status = .submitted ∧ job.status ≠ .awaitingApproval ∧
      Transitioned db job .awaitingApproval db' ∧
      db.workRequests.insert? v = some db'.workRequests ∧ db'.bookings = db.bookings := by
  simp only [createWorkRequest, seq_committed, orRaise_committed, require_committed,
    return_committed, Prod.exists, Prod.mk.injEq] at h
  obtain ⟨job, hjob, _, _, _, hstatus, workRequests, hinsert, _, _, _, htransition, _, _, _, _, rfl,
    rfl⟩ := h
  have hnot : job.status ≠ .awaitingApproval := by
    intro hwaits
    simp [hwaits] at hstatus
  have hfound : job.id = jobId := Table.key_of_get? hjob
  subst hfound
  rcases Jobs.applyTransition_found htransition hjob with
    ⟨_, hsame⟩ | ⟨hmoved, jobs, jobEvents, rfl⟩
  · exact absurd hsame.symm hnot
  · exact ⟨job, rfl, rfl, hnot, hmoved.of_rows rfl rfl rfl rfl, hinsert, rfl⟩

theorem resumeRejected_resumed {jobId : Uuid} {actorId : Option Uuid} {now : Instant}
    (h : resumeRejected db jobId actorId now = .ok db') :
    Resumed db jobId db' ∧ db'.bookings = db.bookings ∧ db'.workRequests = db.workRequests :=
  resume_resumed h

/-- A work request is found, and the operation gives it the status `target`. -/
structure RequestMoved (db : Db) (request : WorkRequest) (target : WorkRequestStatus) (db' : Db) :
    Prop where
  found : db.workRequests.get? request.id = some request
  written : ∃ request', db'.workRequests = db.workRequests.put request' ∧
    SameTerms request request' ∧ request'.jobId = request.jobId ∧ request'.status = target

theorem reviewWorkRequest_effect {requestId : Uuid} {approve : Bool} {actorId : Option Uuid}
    {now : Instant} {v : WorkRequest}
    (h : reviewWorkRequest db requestId approve actorId now = .ok (db', v)) :
    db'.bookings = db.bookings ∧ ∃ request, request.status = .submitted ∧
      ((RequestMoved db request .pendingCustomer db' ∧ db'.jobs = db.jobs ∧
          db'.jobEvents = db.jobEvents) ∨
        (RequestMoved db request .declined db' ∧ Resumed db request.jobId db')) := by
  simp only [reviewWorkRequest, seq_committed, orRaise_committed, require_committed] at h
  obtain ⟨request, hrequest, _, hstatus, request', htransition, h⟩ := h
  have hfound := Table.get?_found hrequest
  have hmoved := applyWorkRequestTransition_ok htransition
  subst hmoved
  split at h
  · next happrove =>
    simp only [return_committed, Prod.mk.injEq] at h
    obtain ⟨rfl, _⟩ := h
    exact ⟨rfl, request, hstatus,
      Or.inl ⟨⟨hfound, _, rfl, ⟨rfl, rfl, rfl, rfl, rfl⟩, rfl, rfl⟩, rfl, rfl⟩⟩
  · next happrove =>
    simp only [seq_committed, return_committed, Prod.mk.injEq] at h
    obtain ⟨_, hresume, rfl, _⟩ := h
    obtain ⟨hresumed, hbookings, hrequests⟩ := resumeRejected_resumed hresume
    exact ⟨hbookings, request, hstatus, Or.inr
      ⟨⟨hfound, _, hrequests, ⟨rfl, rfl, rfl, rfl, rfl⟩, rfl, rfl⟩,
        hresumed.of_rows rfl rfl rfl rfl⟩⟩

/-- The decision of the customer, for a job that then waits or goes on. -/
theorem decidedRequest_ok {request request' : WorkRequest} {approve : Bool} {now : Instant}
    (h : decidedRequest settings request approve now = .ok request') :
    SameTerms request request' ∧ request'.jobId = request.jobId ∧
      ((decisionReason settings approve = none ∧ request'.status = .approvedPendingPayment) ∨
        ((decisionReason settings approve).isSome ∧
          (request'.status = .approved ∨ request'.status = .declined))) := by
  simp only [decidedRequest, seq_committed, return_committed] at h
  obtain ⟨moved, hmoved, rfl⟩ := h
  unfold decisionReason
  split at hmoved
  · next happrove =>
    split at hmoved
    · next hpayments =>
      have hpending := applyWorkRequestTransition_ok hmoved
      subst hpending
      exact ⟨⟨rfl, rfl, rfl, rfl, rfl⟩, rfl, Or.inl ⟨by simp [happrove, hpayments], rfl⟩⟩
    · next hpayments =>
      rw [return_committed] at hmoved
      subst hmoved
      exact ⟨⟨rfl, rfl, rfl, rfl, rfl⟩, rfl, Or.inr ⟨by simp [happrove, hpayments], Or.inl rfl⟩⟩
  · next happrove =>
    have hdeclined := applyWorkRequestTransition_ok hmoved
    subst hdeclined
    exact ⟨⟨rfl, rfl, rfl, rfl, rfl⟩, rfl, Or.inr ⟨by simp [happrove], Or.inr rfl⟩⟩

theorem decideWorkRequest_effect {requestId : Uuid} {approve : Bool} {customerId : Uuid}
    {now : Instant} {v : WorkRequest}
    (h : decideWorkRequest settings db requestId approve customerId now = .ok (db', v)) :
    db'.bookings = db.bookings ∧ ∃ request job, request.status = .pendingCustomer ∧
      db.jobs.get? job.id = some job ∧ job.id = request.jobId ∧
      ((RequestMoved db request .approvedPendingPayment db' ∧ db'.jobs = db.jobs ∧
          db'.jobEvents = db.jobEvents) ∨
        ((RequestMoved db request .approved db' ∨ RequestMoved db request .declined db') ∧
          ((job.status = .inProgress ∧ db'.jobs = db.jobs ∧ db'.jobEvents = db.jobEvents) ∨
            Transitioned db job .inProgress db'))) := by
  simp only [decideWorkRequest, seq_committed, orRaise_committed, require_committed] at h
  obtain ⟨request, hrequest, job, hjob, _, hstatus, request', hdecided, h⟩ := h
  have hfound := Table.get?_found hrequest
  have hjob' := (Option.filter_eq_some_iff.mp hjob).1
  have hjobId : job.id = request.jobId := Table.key_of_get? hjob'
  obtain ⟨hterms, hof, hcases⟩ := decidedRequest_ok hdecided
  split at h
  · next hreason =>
    simp only [return_committed, Prod.mk.injEq] at h
    obtain ⟨rfl, _⟩ := h
    rcases hcases with ⟨_, hpending⟩ | ⟨hsome, _⟩
    · exact ⟨rfl, request, job, hstatus, Table.get?_found hjob', hjobId,
        Or.inl ⟨⟨hfound, request', rfl, hterms, hof, hpending⟩, rfl, rfl⟩⟩
    · rw [hreason] at hsome
      cases hsome
  · next reason hreason =>
    simp only [seq_committed, return_committed, Prod.exists, Prod.mk.injEq] at h
    obtain ⟨_, _, _, htransition, rfl, _⟩ := h
    have hdone : request'.status = .approved ∨ request'.status = .declined := by
      rcases hcases with ⟨hnone, _⟩ | ⟨_, hdone⟩
      · rw [hreason] at hnone
        cases hnone
      · exact hdone
    rcases Jobs.applyTransition_found htransition (Table.get?_found hjob') with
      ⟨rfl, hsame⟩ | ⟨hmoved, jobs, jobEvents, rfl⟩
    · refine ⟨rfl, request, job, hstatus, Table.get?_found hjob', hjobId,
        Or.inr ⟨?_, Or.inl ⟨hsame.symm, rfl, rfl⟩⟩⟩
      exact hdone.imp (fun hdone => ⟨hfound, request', rfl, hterms, hof, hdone⟩)
        (fun hdone => ⟨hfound, request', rfl, hterms, hof, hdone⟩)
    · refine ⟨rfl, request, job, hstatus, Table.get?_found hjob', hjobId,
        Or.inr ⟨?_, Or.inr (hmoved.of_rows rfl rfl rfl rfl)⟩⟩
      exact hdone.imp (fun hdone => ⟨hfound, request', rfl, hterms, hof, hdone⟩)
        (fun hdone => ⟨hfound, request', rfl, hterms, hof, hdone⟩)

end Breero.Jobs

namespace Breero.Visits
open KeyedTable Transaction Bookings Payments Jobs

variable {settings : Settings} {dir : Directory} {w : World} {op : Op}

/-! ## Jobs and their log -/

/-- The job whose status a committed step overwrites, with the new status. -/
def forcedJob (settings : Settings) (dir : Directory) (w : World) : Op → Option (Job × JobStatus)
  | .dispatch op => Dispatch.forcedJob settings dir w.db op
  | _ => none

/-- The step commits a new job that is assigned from the start. -/
def AddsUnlogged (settings : Settings) (dir : Directory) (w : World) : Op → Prop
  | .dispatch op => Dispatch.AddsUnlogged settings dir w.db op
  | _ => False

instance (settings : Settings) (dir : Directory) (w : World) :
    DecidablePred (AddsUnlogged settings dir w)
  | .dispatch op => inferInstanceAs (Decidable (Dispatch.AddsUnlogged settings dir w.db op))
  | .payment .. | .createWorkRequest .. | .reviewWorkRequest .. | .decideWorkRequest ..
  | .expireBookings .. => isFalse nofun

/-- What a step writes of the jobs and their log. -/
inductive JobsStep (settings : Settings) (dir : Directory) (w : World) (op : Op) (db' : Db) : Prop
  | logged (writes : JobWrites (fun _ _ => True) w.db db')
  | created (job : Job) (event : JobEvent) (inserted : w.db.jobs.insert? job = some db'.jobs)
      (log : db'.jobEvents = w.db.jobEvents ++ [event]) (status : job.status = .created)
      (version : job.version = 1) (ofJob : event.jobId = job.id)
      (source : event.fromStatus = none) (target : event.toStatus = .created)
  | forced (job : Job) (status : JobStatus)
      (named : forcedJob settings dir w op = some (job, status))
      (written : Dispatch.Forced w.db job status db')
  | unlogged (bookingId : Uuid) (named : AddsUnlogged settings dir w op)
      (added : Dispatch.AddsAssigned w.db bookingId db')

theorem jobsStep_of_settlement {settled : Option Payment} {db' : Db}
    (h : StepOf settled w.db db') : JobsStep settings dir w op db' := by
  cases settled with
  | none =>
    have hkept : VisitsKept w.db db' := h
    exact .logged (.of_same hkept.jobs hkept.jobEvents)
  | some payment =>
    have hstep : VisitStep payment w.db db' := h
    cases hstep with
    | kept same _ => exact .logged (.of_same same.jobs same.jobEvents)
    | quotePaid quote quote' _ _ _ _ _ _ _ _ resumed =>
      exact .logged (resumed.writes.mono fun _ _ _ _ => trivial)
    | feePaid booking booking' _ _ _ _ _ _ _ created =>
      rcases created with ⟨hjobs, hlog⟩ |
        ⟨job, event, hinsert, hlog, _, hstatus, hversion, hof, hsource, htarget⟩
      · exact .logged (.of_same hjobs hlog)
      · exact .created job event hinsert hlog hstatus hversion hof hsource htarget

theorem exec_jobs (settings : Settings) (dir : Directory) (w : World) (op : Op) :
    JobsStep settings dir w op (exec settings dir w op).db := by
  have hsame : JobsStep settings dir w op w.db := .logged (.refl w.db)
  cases op with
  | payment op => exact jobsStep_of_settlement (exec_visits settings w op)
  | dispatch op =>
    rcases Dispatch.exec_jobs settings dir w.db op with ⟨writes⟩ | ⟨job, status, named, written⟩ |
      ⟨bookingId, named, added⟩
    · exact .logged (writes.mono fun _ _ _ _ => trivial)
    · exact .forced job status named written
    · exact .unlogged bookingId named added
  | createWorkRequest jobId payload workerId requestId now =>
    refine commit_induction hsame fun db' v h => ?_
    obtain ⟨job, _, _, _, hmoved, _⟩ := createWorkRequest_effect h
    exact .logged (hmoved.writes.mono fun _ _ _ _ => trivial)
  | reviewWorkRequest requestId approve actorId now =>
    refine commit_induction hsame fun db' v h => ?_
    obtain ⟨_, request, _, ⟨_, hjobs, hlog⟩ | ⟨_, hresumed⟩⟩ := reviewWorkRequest_effect h
    · exact .logged (.of_same hjobs hlog)
    · exact .logged (hresumed.writes.mono fun _ _ _ _ => trivial)
  | decideWorkRequest requestId approve customerId now =>
    refine commit_induction hsame fun db' v h => ?_
    obtain ⟨_, request, job, _, _, _, ⟨_, hjobs, hlog⟩ | ⟨_, ⟨_, hjobs, hlog⟩ | hmoved⟩⟩ :=
      decideWorkRequest_effect h
    · exact .logged (.of_same hjobs hlog)
    · exact .logged (.of_same hjobs hlog)
    · exact .logged (hmoved.writes.mono fun _ _ _ _ => trivial)
  | expireBookings now skipped => exact .logged (.of_same rfl rfl)

theorem exec_forced {job : Job} {status : JobStatus}
    (h : forcedJob settings dir w op = some (job, status)) :
    Dispatch.Forced w.db job status (exec settings dir w op).db := by
  cases op with
  | dispatch op => exact Dispatch.exec_forced h
  | _ => cases h

theorem exec_addsUnlogged (h : AddsUnlogged settings dir w op) :
    ∃ bookingId, Dispatch.AddsAssigned w.db bookingId (exec settings dir w op).db := by
  cases op with
  | dispatch op => exact Dispatch.exec_addsUnlogged h
  | _ => exact absurd h id

end Breero.Visits
