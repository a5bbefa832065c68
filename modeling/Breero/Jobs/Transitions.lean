import Breero.Db

/-!
The lifecycles of a job and of a work request, and the two functions through
which the services move along them.
-/

namespace Breero.Jobs
open Transaction

/-- `TRANSITIONS`. -/
def transitions : JobStatus → List JobStatus
  | .created => [.matching, .cancelled]
  | .matching => [.offered, .assigned, .cancelled]
  | .offered => [.matching, .assigned, .cancelled]
  | .assigned => [.enRoute, .cancelled]
  | .enRoute => [.onSite, .cancelled]
  | .onSite => [.diagnosing, .inProgress, .cancelled]
  | .diagnosing => [.awaitingApproval, .inProgress, .cancelled]
  | .awaitingApproval => [.inProgress, .cancelled]
  | .inProgress => [.completed, .awaitingApproval, .cancelled]
  | .completed => []
  | .cancelled => []

/-- `WORK_REQUEST_TRANSITIONS`. -/
def workRequestTransitions : WorkRequestStatus → List WorkRequestStatus
  | .draft => [.submitted]
  | .submitted => [.pendingCustomer, .declined]
  | .pendingCustomer => [.approvedPendingPayment, .declined]
  | .approvedPendingPayment => [.approved]
  | .approved | .declined | .paid | .cancelled | .expired => []

/-- Python's truth of an optional text. -/
def given (text : Option String) : Bool := text.isSome && text != some ""

def validateCompletion (job : Job) : Except Raised Unit := do
  require (job.vendorId.isSome ∧ job.workerId.isSome)
    (.httpException 409 "Job must be assigned before completion")
  require (given job.diagnosticNotes ∧ given job.completionNotes)
    (.httpException 409 "Diagnostic and completion notes are required")

/-- Apply the single authoritative in-transaction job transition. The job returned
is the one the caller goes on with, and the flag says whether it changed. -/
def applyTransition (db : Db) (job : Job) (target : JobStatus) (actorId : Option Uuid)
    (actorType : String) (reason : Option String) (metadata : Payload) (now : Instant) :
    Except Raised (Db × Job × Bool) :=
  if target = job.status then
    return (db, job, false)
  else do
    require (target ∈ transitions job.status) (.httpException 409
      ("Cannot transition job from " ++ job.status.value ++ " to " ++ target.value))
    onlyIf (target = .completed) (validateCompletion job)
    let moved := { job with
      status := target
      version := job.version + 1
      completedAt := if target = .completed then some now else job.completedAt }
    let event : JobEvent := {
      jobId := job.id, fromStatus := some job.status, toStatus := target,
      actorId, actorType, reason, metadata }
    return ({ db with jobs := db.jobs.put moved, jobEvents := db.jobEvents ++ [event] },
      moved, true)

/-- The authoritative work-request lifecycle transition. -/
def applyWorkRequestTransition (request : WorkRequest) (target : WorkRequestStatus) :
    Except Raised WorkRequest :=
  if request.status = target then
    return request
  else do
    require (target ∈ workRequestTransitions request.status) (.httpException 409
      ("Cannot transition work request from " ++ request.status.value ++ " to " ++ target.value))
    return { request with status := target }

/-! ## What a committed transition is -/

/-- A transition writes the job and its log, and of the job only the lifecycle fields. -/
theorem applyTransition_cases {db db' : Db} {job job' : Job} {target : JobStatus}
    {actorId : Option Uuid} {actorType : String} {reason : Option String} {metadata : Payload}
    {now : Instant} {changed : Bool}
    (h : applyTransition db job target actorId actorType reason metadata now =
      .ok (db', job', changed)) :
    (target = job.status ∧ db' = db ∧ job' = job ∧ changed = false) ∨
    (target ∈ transitions job.status ∧ changed = true ∧
      job' = { job with
        status := target
        version := job.version + 1
        completedAt := if target = .completed then some now else job.completedAt } ∧
      ∃ event, db' = { db with
        jobs := db.jobs.put job'
        jobEvents := db.jobEvents ++ [event] }) := by
  unfold applyTransition at h
  split at h
  · next heq =>
    simp only [return_committed, Prod.mk.injEq] at h
    exact Or.inl ⟨heq, h.1.symm, h.2.1.symm, h.2.2.symm⟩
  · simp only [seq_committed, require_committed, return_committed, Prod.mk.injEq] at h
    obtain ⟨_, hmem, _, _, rfl, rfl, rfl⟩ := h
    exact Or.inr ⟨hmem, rfl, rfl, _, rfl⟩

theorem applyWorkRequestTransition_ok {request request' : WorkRequest}
    {target : WorkRequestStatus} (h : applyWorkRequestTransition request target = .ok request') :
    request' = { request with status := target } := by
  unfold applyWorkRequestTransition at h
  split at h
  · next heq =>
    simp only [return_committed] at h
    rw [← h, ← heq]
  · simp only [seq_committed, require_committed, return_committed] at h
    obtain ⟨_, _, rfl⟩ := h
    rfl

end Breero.Jobs
