import Breero.Payments.System
import Breero.Dispatch.System

/-!
The commands of a technician, and the other requests that move a job.

`technician_command` reads the job to see whose it is, and then locks it in the same session:
the session returns the object that it has loaded, with the attributes of the first read. All
other requests lock the job when they read it first, so that each of them is one step.
-/

namespace Breero.Jobs
open KeyedTable Transaction

/-! ## A session that has loaded the job -/

/-- An attribute of the row after a flush: it is written if it changed since it was loaded. -/
def flushed {α : Type} [DecidableEq α] (stored loaded current : α) : α :=
  if current = loaded then stored else current

def flushedJob (stored loaded job : Job) : Job := { stored with
  status := flushed stored.status loaded.status job.status
  version := flushed stored.version loaded.version job.version
  completedAt := flushed stored.completedAt loaded.completedAt job.completedAt }

/-- `transition_locked` in a session that has loaded the job before. -/
def transitionLoaded (settings : Settings) (db : Db) (loaded : Job) (target : JobStatus)
    (actorId : Option Uuid) (actorType : String) (reason : Option String) (now : Instant)
    (snapshotId earningId : Uuid) : Except Raised (Db × Job) := do
  let stored ← orRaise (db.jobs.get? loaded.id) (.httpException 404 "Job not found")
  let (written, job) ← applyWithEffects settings db loaded target actorId actorType reason now
    snapshotId earningId
  return ({ written with jobs := db.jobs.put (flushedJob stored loaded job) }, job)

/-! ## `technician_command` -/

inductive Command
  | enRoute
  | arrive
  | diagnose
  | start
  deriving DecidableEq, Repr

def Command.ofName : String → Option Command
  | "en-route" => some .enRoute
  | "arrive" => some .arrive
  | "diagnose" => some .diagnose
  | "start" => some .start
  | _ => none

/-- `targets`. -/
def Command.target : Command → JobStatus
  | enRoute => .enRoute
  | arrive => .onSite
  | diagnose => .diagnosing
  | start => .inProgress

/-- The command up to its lock, by the account of the worker. -/
def beginCommand (db : Db) (jobId workerId : Uuid) (name : String) :
    Except Raised (Job × Command) := do
  let notAssigned : Raised := .httpException 403 "Technician is not assigned to this job"
  let job ← orRaise (db.jobs.get? jobId) notAssigned
  require (job.workerId = some workerId) notAssigned
  let command ← orRaise (Command.ofName name) (.httpException 422 "Unknown technician command")
  return (job, command)

/-! ## The system -/

/-- A command that has read its job. -/
structure OpenCommand where
  job : Job
  command : Command
  actorId : Uuid
  deriving DecidableEq, Repr

structure Fieldwork extends Payments.World where
  commands : List OpenCommand := []

inductive FieldworkOp
  | payment (op : Payments.Op)
  | transition (jobId : Uuid) (target : JobStatus) (actorId : Option Uuid) (actorType : String)
      (reason : Option String) (now : Instant) (snapshotId earningId : Uuid)
  | technicianNote (jobId workerId actorId : Uuid) (notesField : NotesField) (notes : String)
      (target : JobStatus) (now : Instant) (snapshotId earningId : Uuid)
  | cancel (userId bookingId : Uuid) (now : Instant)
  | command (jobId workerId actorId : Uuid) (name : String)
  /-- the command at the position locks the job and commits, or raises -/
  | finishCommand (position : Nat) (now : Instant) (snapshotId earningId : Uuid)
  /-- the connection of a command is lost -/
  | loseCommand (position : Nat)

def proceed (settings : Settings) (w : Fieldwork) : FieldworkOp → Fieldwork
  | .payment op => { w with toWorld := Payments.exec settings w.toWorld op }
  | .transition jobId target actorId actorType reason now snapshotId earningId =>
    { w with
      db := commit w.db
        (transition settings w.db jobId target actorId actorType reason now snapshotId
          earningId) }
  | .technicianNote jobId workerId actorId notesField notes target now snapshotId earningId =>
    { w with
      db := commit w.db
        (technicianNoteTransition settings w.db jobId workerId actorId notesField notes target
          now snapshotId earningId) }
  | .cancel userId bookingId now =>
    { w with db := commit w.db (Bookings.cancelBooking w.db userId bookingId now) }
  | .command jobId workerId actorId name =>
    match beginCommand w.db jobId workerId name with
    | .ok (job, command) => { w with commands := w.commands ++ [{ job, command, actorId }] }
    | .error _ => w
  | .finishCommand position now snapshotId earningId =>
    match w.commands[position]? with
    | some call =>
      { w with
        db := commit w.db
          (transitionLoaded settings w.db call.job call.command.target (some call.actorId) "worker"
            none now snapshotId earningId)
        commands := w.commands.eraseIdx position }
    | none => w
  | .loseCommand position => { w with commands := w.commands.eraseIdx position }

end Breero.Jobs
