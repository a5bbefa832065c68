import Breero.Finance.Compensation

/-!
Completing a job, by an operator's transition or by a technician's completion notes: the
completion commits exactly if the earning of the job can be recognized, which is if the gross
amount of the booking covers what the plan pays (`completion_splits_iff`).
-/

namespace Breero.Jobs
open Transaction Finance

/-- A job in progress that can be completed once it has its notes, and has no earning. -/
structure ReadyToComplete (db : Db) (job : Job) (vendorId workerId : Uuid) : Prop where
  stored : db.jobs.get? job.id = some job
  inProgress : job.status = .inProgress
  vendor : job.vendorId = some vendorId
  worker : job.workerId = some workerId
  diagnostic : given job.diagnosticNotes
  first : ∀ other ∈ db.earnings.rows, other.jobId ≠ job.id

/-- The job after its completion. -/
def completedJob (job : Job) (now : Instant) : Job := { job with
  status := .completed
  version := job.version + 1
  completedAt := some now }

/-- The database after the transition of a job to `COMPLETED`. -/
def completedDb (db : Db) (job : Job) (actorId : Option Uuid) (actorType : String)
    (reason : Option String) (now : Instant) : Db := { db with
  jobs := db.jobs.put (completedJob job now)
  jobEvents := db.jobEvents ++ [{
    jobId := job.id, fromStatus := some job.status, toStatus := .completed
    actorId, actorType, reason }] }

theorem applyWithEffects_completes {settings : Settings} {db : Db} {job : Job}
    {vendorId workerId : Uuid} {actorId : Option Uuid} {actorType : String}
    {reason : Option String} {now : Instant} {snapshotId earningId : Uuid}
    (hstatus : job.status = .inProgress) (hvendor : job.vendorId = some vendorId)
    (hworker : job.workerId = some workerId)
    (hnotes : given job.diagnosticNotes ∧ given job.completionNotes) :
    applyWithEffects settings db job .completed actorId actorType reason now snapshotId earningId =
      (recordCompletionEffects settings (completedDb db job actorId actorType reason now)
        (completedJob job now) now snapshotId earningId >>= fun db' =>
          pure (db', completedJob job now)) := by
  have hmoved : applyTransition db job .completed actorId actorType reason [] now =
      .ok (completedDb db job actorId actorType reason now, completedJob job now, true) := by
    simp [applyTransition, hstatus, transitions, validateCompletion, hvendor, hworker, hnotes,
      require, onlyIf, completedDb, completedJob, bind, Except.bind, pure, Except.pure]
  unfold applyWithEffects
  rw [hmoved]
  rfl

/-- The effects of a completion commit exactly if its earning can be recognized. -/
theorem recordCompletionEffects_isOk_iff {settings : Settings} {db : Db} {job : Job}
    {booking : Booking} {now : Instant} {snapshotId earningId : Uuid}
    (hbooking : db.bookings.get? job.bookingId = some booking)
    (hfirst : ∀ earning ∈ db.earnings.rows, earning.jobId ≠ job.id) :
    (recordCompletionEffects settings db job now snapshotId earningId).isOk ↔
      (settings.payoutEnabled = true →
        (recognizeEarning db job booking.totalAmount 0 booking.currency now snapshotId
          earningId).isOk) := by
  unfold recordCompletionEffects
  rw [seq_return_isOk]
  by_cases henabled : settings.payoutEnabled = true
  · rw [if_pos ⟨henabled, hfirst⟩, hbooking, seq_isOk]
    constructor
    · rintro ⟨_, hfound, h⟩ _
      rw [orRaise_committed, Option.some.injEq] at hfound
      subst hfound
      exact seq_return_isOk.mp h
    · intro h
      exact ⟨booking, rfl, seq_return_isOk.mpr (h henabled)⟩
  · rw [if_neg fun h => henabled h.1]
    exact iff_of_true rfl fun h => absurd h henabled

theorem applyWithEffects_completes_iff {settings : Settings} {db : Db} {job : Job}
    {vendorId workerId : Uuid} {booking : Booking} {plan : VendorCompensationPlan}
    {actorId : Option Uuid} {actorType : String} {reason : Option String} {now : Instant}
    {snapshotId earningId : Uuid} (haccepted : Accepted plan)
    (hstatus : job.status = .inProgress) (hvendor : job.vendorId = some vendorId)
    (hworker : job.workerId = some workerId)
    (hnotes : given job.diagnosticNotes ∧ given job.completionNotes)
    (hfirst : ∀ other ∈ db.earnings.rows, other.jobId ≠ job.id)
    (hbooking : db.bookings.get? job.bookingId = some booking)
    (hplan : activePlan db vendorId now = some plan)
    (hrate : HasRate plan (db.serviceRates.get? (plan.id, job.serviceId)))
    (hsnapshot : db.snapshots.get? snapshotId = none)
    (hearning : db.earnings.get? earningId = none) :
    (applyWithEffects settings db job .completed actorId actorType reason now snapshotId
      earningId).isOk ↔
      (settings.payoutEnabled = true →
        WithinGross plan (db.serviceRates.get? (plan.id, job.serviceId)) booking.totalAmount) := by
  have hbooking' : (completedDb db job actorId actorType reason now).bookings.get?
      (completedJob job now).bookingId = some booking := hbooking
  have hfirst' : ∀ other ∈ (completedDb db job actorId actorType reason now).earnings.rows,
      other.jobId ≠ (completedJob job now).id := hfirst
  have hiff : (recognizeEarning (completedDb db job actorId actorType reason now)
      (completedJob job now) booking.totalAmount 0 booking.currency now snapshotId
      earningId).isOk ↔ WithinGross plan (db.serviceRates.get? (plan.id, job.serviceId))
        booking.totalAmount :=
    recognizeEarning_isOk_iff_within haccepted rfl hvendor hplan hrate hfirst hsnapshot hearning
  rw [applyWithEffects_completes hstatus hvendor hworker hnotes, seq_return_isOk,
    recordCompletionEffects_isOk_iff hbooking' hfirst', hiff]

/-- A completion splits the gross amount, and commits, exactly if the gross amount covers what
the accepted plan pays whatever it is. -/
theorem completion_splits_iff {settings : Settings} {db : Db} {job : Job}
    {vendorId workerId : Uuid} {booking : Booking} {plan : VendorCompensationPlan}
    {actorId : Option Uuid} {actorType : String} {reason : Option String} {now : Instant}
    {snapshotId earningId : Uuid} (haccepted : Accepted plan)
    (hready : ReadyToComplete db job vendorId workerId)
    (hbooking : db.bookings.get? job.bookingId = some booking)
    (hplan : activePlan db vendorId now = some plan)
    (hrate : HasRate plan (db.serviceRates.get? (plan.id, job.serviceId)))
    (hsnapshot : db.snapshots.get? snapshotId = none)
    (hearning : db.earnings.get? earningId = none) :
    let within := WithinGross plan (db.serviceRates.get? (plan.id, job.serviceId))
      booking.totalAmount
    ((∃ db' earning, recognizeEarning db (completedJob job now) booking.totalAmount 0
        booking.currency now snapshotId earningId = .ok (db', earning) ∧
        Splits earning booking.totalAmount) ↔ within) ∧
    (given job.completionNotes → ((transition settings db job.id .completed actorId actorType
        reason now snapshotId earningId).isOk ↔ (settings.payoutEnabled = true → within))) ∧
    ∀ actor notes, notes ≠ "" → ((technicianNoteTransition settings db job.id workerId actor
        .completionNotes notes .completed now snapshotId earningId).isOk ↔
          (settings.payoutEnabled = true → within)) := by
  intro within
  refine ⟨?_, ?_, ?_⟩
  · have hiff : (recognizeEarning db (completedJob job now) booking.totalAmount 0 booking.currency
        now snapshotId earningId).isOk ↔ within :=
      recognizeEarning_isOk_iff_within haccepted rfl hready.vendor hplan hrate hready.first
        hsnapshot hearning
    have hvendor : (completedJob job now).vendorId = some vendorId := hready.vendor
    have hfirst : ∀ other ∈ db.earnings.rows, other.jobId ≠ (completedJob job now).id :=
      hready.first
    rw [← hiff]
    constructor
    · rintro ⟨db', earning, h, _⟩
      exact isOk_of_eq h
    · intro h
      obtain ⟨db', earning, h⟩ := eq_ok_of_isOk h
      exact ⟨db', earning, h, recognizeEarning_splits rfl hvendor hfirst h⟩
  · intro hnotes
    unfold transition
    rw [hready.stored]
    exact applyWithEffects_completes_iff haccepted hready.inProgress hready.vendor hready.worker
      ⟨hready.diagnostic, hnotes⟩ hready.first hbooking hplan hrate hsnapshot hearning
  · intro actor notes hnotes
    have hgiven : given (some notes) := by simp [given, hnotes]
    have hnoted : technicianNoteTransition settings db job.id workerId actor .completionNotes notes
        .completed now snapshotId earningId =
        applyWithEffects settings
          { db with jobs := db.jobs.put (setNotes job notes .completionNotes) }
          (setNotes job notes .completionNotes) .completed (some actor) "worker"
          (some "completion_notes_recorded") now snapshotId earningId := by
      simp only [technicianNoteTransition, hready.stored, orRaise, bind, Except.bind, require,
        hready.worker, if_true]
      rfl
    rw [hnoted]
    exact applyWithEffects_completes_iff haccepted hready.inProgress hready.vendor hready.worker
      ⟨hready.diagnostic, hgiven⟩ hready.first hbooking hplan hrate hsnapshot hearning

/-! ### A plan that pays more than the gross amount -/

/-- A plan that pays 80.00 for every job. -/
def flatPlan : CompensationPlanCreate where
  vendorId := 5
  name := "Flat"
  method := .fixedMinor
  fixedMinor := some 8000
  effectiveFrom := 0
  nameLength := by decide
  fixedMinorRange := by decide
  percentageBpsRange := by decide
  currencyPattern := by decide
  holdDaysRange := by decide

/-- A plan that pays 80 percent of the gross amount. -/
def sharePlan : CompensationPlanCreate where
  vendorId := 5
  name := "Share"
  method := .percentage
  percentageBps := some 8000
  effectiveFrom := 0
  nameLength := by decide
  fixedMinorRange := by decide
  percentageBpsRange := by decide
  currencyPattern := by decide
  holdDaysRange := by decide

def startedJob : Job := {
  id := 1, bookingId := 2, serviceId := 3, addressId := 4, status := .inProgress
  scheduledStart := 0, scheduledEnd := 1, vendorId := some 5, workerId := some 6
  diagnosticNotes := some "Pump failure", completionNotes := some "Repair complete" }

/-- A booking as it is created, without a price. -/
def unpricedBooking : Booking := {
  id := 2, customerId := 10, addressId := 4, serviceId := 3, windowStart := 0, windowEnd := 1
  totalAmount := 0, currency := "USD", expiresAt := 0 }

/-- The job, its booking and the plan of its vendor. -/
def startedDb (plan : VendorCompensationPlan) : Db where
  jobs := ⟨[startedJob], by decide⟩
  bookings := ⟨[unpricedBooking], by decide⟩
  compensationPlans := ⟨[plan], List.nodup_singleton _⟩

theorem flatPlan_accepted : Accepted (planOf flatPlan 7) :=
  ⟨{}, flatPlan, none, 0, 7, _, rfl⟩

theorem sharePlan_accepted : Accepted (planOf sharePlan 7) :=
  ⟨{}, sharePlan, none, 0, 7, _, rfl⟩

theorem startedDb_ready (plan : VendorCompensationPlan) :
    ReadyToComplete (startedDb plan) startedJob 5 6 :=
  ⟨rfl, rfl, rfl, rfl, by decide, List.forall_mem_nil _⟩

/-- A flat plan and a booking without a price: the fee would be negative, and the job cannot
be completed. -/
theorem flat_plan_blocks_completion :
    let db := startedDb (planOf flatPlan 7)
    let settings : Settings := { hash := fun _ => "" }
    Accepted (planOf flatPlan 7) ∧ ReadyToComplete db startedJob 5 6 ∧
      db.bookings.get? startedJob.bookingId = some unpricedBooking ∧
      activePlan db 5 1 = some (planOf flatPlan 7) ∧
      (recognizeEarning db (completedJob startedJob 1) 0 0 "USD" 1 8 9).isOk = false ∧
      (transition settings db 1 .completed none "operations" none 1 8 9).isOk = false :=
  ⟨flatPlan_accepted, startedDb_ready _, rfl, rfl, by decide, by decide⟩

theorem share_plan_completes :
    (transition { hash := fun _ => "" } (startedDb (planOf sharePlan 7)) startedJob.id .completed
      none "operations" none 1 8 9).isOk := by
  have hwithin : WithinGross (planOf sharePlan 7) none unpricedBooking.totalAmount :=
    ⟨by decide, by decide, nofun, nofun⟩
  exact ((completion_splits_iff sharePlan_accepted (startedDb_ready _) rfl rfl nofun rfl rfl).2.1
    (by decide)).mpr fun _ => hwithin

end Breero.Jobs
