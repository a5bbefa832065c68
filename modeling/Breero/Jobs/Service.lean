import Breero.Finance.Service

/-!
`JobService`: the transitions of a job that the operators, the technicians and the
customers ask for, and what completing a job sets off.
-/

namespace Breero.Jobs
open Transaction

/-- `str(vendor_id)`. -/
def vendorText : Option Uuid → Value
  | some vendorId => .uuid vendorId
  | none => .str "None"

/-- `_record_completion_effects`. -/
def recordCompletionEffects (settings : Settings) (db : Db) (job : Job) (now : Instant)
    (snapshotId earningId : Uuid) : Except Raised Db := do
  let db ← (
    if settings.payoutEnabled ∧ ∀ earning ∈ db.earnings.rows, earning.jobId ≠ job.id then do
      let booking ← orRaise (db.bookings.get? job.bookingId)
        (.httpException 409 "Job booking is unavailable")
      let (db, _) ← Finance.recognizeEarning db job booking.totalAmount 0 booking.currency now
        snapshotId earningId
      return db
    else pure db)
  return db.emit {
    aggregateType := "job"
    aggregateId := job.id
    eventType := "job.completed"
    payload := [("job_id", .uuid job.id), ("vendor_id", vendorText job.vendorId)]
    nextAttemptAt := now }

/-- A transition and, if it completed the job, its effects. -/
def applyWithEffects (settings : Settings) (db : Db) (job : Job) (target : JobStatus)
    (actorId : Option Uuid) (actorType : String) (reason : Option String) (now : Instant)
    (snapshotId earningId : Uuid) : Except Raised (Db × Job) := do
  let (db, job, changed) ← applyTransition db job target actorId actorType reason [] now
  let db ← (
    if changed ∧ target = .completed then
      recordCompletionEffects settings db job now snapshotId earningId
    else pure db)
  return (db, job)

/-- `transition_locked`, and `transition` that calls it. -/
def transition (settings : Settings) (db : Db) (jobId : Uuid) (target : JobStatus)
    (actorId : Option Uuid) (actorType : String) (reason : Option String) (now : Instant)
    (snapshotId earningId : Uuid) : Except Raised (Db × Job) := do
  let job ← orRaise (db.jobs.get? jobId) (.httpException 404 "Job not found")
  applyWithEffects settings db job target actorId actorType reason now snapshotId earningId

inductive NotesField
  | diagnosticNotes
  | completionNotes
  deriving DecidableEq, Repr

def NotesField.name : NotesField → String
  | diagnosticNotes => "diagnostic_notes"
  | completionNotes => "completion_notes"

/-- `setattr(job, notes_field, notes)`. -/
def setNotes (job : Job) (notes : String) : NotesField → Job
  | .diagnosticNotes => { job with diagnosticNotes := some notes }
  | .completionNotes => { job with completionNotes := some notes }

def technicianNoteTransition (settings : Settings) (db : Db) (jobId workerId actorId : Uuid)
    (notesField : NotesField) (notes : String) (target : JobStatus) (now : Instant)
    (snapshotId earningId : Uuid) : Except Raised (Db × Job) := do
  let notPermitted : Raised := .httpException 403 "Technician is not assigned to this job"
  let job ← orRaise (db.jobs.get? jobId) notPermitted
  require (job.workerId = some workerId) notPermitted
  let job := setNotes job notes notesField
  applyWithEffects settings { db with jobs := db.jobs.put job } job target (some actorId) "worker"
    (some (notesField.name ++ "_recorded")) now snapshotId earningId

end Breero.Jobs
