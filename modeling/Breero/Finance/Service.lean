import Breero.Jobs.Transitions

/-!
`FinanceService`. Each function is one transaction, or a part of one: it takes the
committed database and what the clock and the id generator answered, and returns the
database to commit or raises.

* `recognizeEarning` is called inside the transaction that completes a job;
* `adjustEarning` and `createBatch` write the earnings, and `locked` are the rows that
  other transactions hold when a query skips them;
* `submit_batch` commits before it calls the payout provider: `beginSubmit` is the
  transaction before the call, `finishSubmit` the one after it.
-/

namespace Breero.Finance
open KeyedTable Transaction

/-! ## Earnings -/

/-- `calculate_compensation`. -/
def calculateCompensation (plan : VendorCompensationPlan) (grossMinor : Int)
    (serviceRate : Option VendorServiceCompensation) : Except String (Int × CompensationRule) := do
  require (0 ≤ grossMinor) "gross_minor cannot be negative"
  match plan.method with
  | .fixedMinor => do
    let amount ← orRaise (plan.fixedMinor.filter (0 ≤ ·)) "fixed compensation is not configured"
    return (amount, .fixedMinor amount)
  | .percentage => do
    let bps ← orRaise (plan.percentageBps.filter (fun bps => 0 ≤ bps ∧ bps ≤ 10000))
      "percentage_bps must be between 0 and 10000"
    return (grossMinor * bps / 10000, .percentageBps bps)
  | .serviceRate => do
    let rate ← orRaise (serviceRate.filter (0 ≤ ·.rateMinor))
      "service compensation rate is not configured"
    return (rate.rateMinor, .serviceRateMinor rate.rateMinor rate.serviceId)

/-- The plan with the later `effective_from`, the first of two that start together. -/
def laterPlan (best : Option VendorCompensationPlan) (plan : VendorCompensationPlan) :
    Option VendorCompensationPlan :=
  match best with
  | none => some plan
  | some b => if b.effectiveFrom < plan.effectiveFrom then some plan else some b

def activePlan (db : Db) (vendorId : Uuid) (now : Instant) : Option VendorCompensationPlan :=
  (db.compensationPlans.rows.filter fun plan =>
    plan.vendorId = vendorId ∧ plan.active ∧ plan.effectiveFrom ≤ now ∧
      ∀ effectiveTo ∈ plan.effectiveTo, now < effectiveTo).foldl laterPlan none

/-- `timedelta(days=days)`. -/
def ofDays (days : Int) : Int := days * 86400000000

def addEarning (db : Db) (earning : VendorEarning) : Except Raised Db := do
  require (0 ≤ earning.grossMinor ∧ 0 ≤ earning.feeMinor ∧ 0 ≤ earning.netMinor)
    (.integrityError "vendor_earnings_check")
  require (∀ other ∈ db.earnings.rows, other.jobId ≠ earning.jobId)
    (.integrityError "vendor_earnings_job_id_key")
  let earnings ← orRaise (db.earnings.insert? earning) (.integrityError "vendor_earnings_pkey")
  return { db with earnings }

/-- The earning and the snapshot of a completed job without one. -/
def newEarning (db : Db) (job : Job) (vendorId : Uuid) (grossMinor : Int) (currency : String)
    (now : Instant) (snapshotId earningId : Uuid) : Except Raised (Db × VendorEarning) := do
  let plan ← orRaise (activePlan db vendorId now)
    (.httpException 409 "Vendor compensation plan is not configured")
  let rate := db.serviceRates.get? (plan.id, job.serviceId)
  let (amount, rule) ← (calculateCompensation plan grossMinor rate).mapError (.httpException 422)
  let snapshot : CompensationSnapshot := {
    id := snapshotId
    planId := some plan.id
    vendorId
    serviceId := job.serviceId
    method := plan.method
    rule
    grossMinor
    compensationMinor := amount
    currency
    holdDays := plan.holdDays
    committedAt := now }
  require (FitsInteger grossMinor ∧ FitsInteger amount) (.other "DataError")
  let snapshots ← orRaise (db.snapshots.insert? snapshot)
    (.integrityError "compensation_snapshots_pkey")
  let earning : VendorEarning := {
    id := earningId
    vendorId
    jobId := job.id
    compensationSnapshotId := snapshotId
    grossMinor
    feeMinor := grossMinor - amount
    netMinor := amount
    currency
    status := .pending
    availableAt := now + ofDays plan.holdDays }
  let db ← addEarning { db with snapshots } earning
  return (db, earning)

/-- Create one earning and immutable compensation snapshot per completed job. -/
def recognizeEarning (db : Db) (job : Job) (grossMinor feeMinor : Int) (currency : String)
    (now : Instant) (snapshotId earningId : Uuid) : Except Raised (Db × VendorEarning) := do
  require (job.status = .completed)
    (.httpException 409 "Only completed assigned jobs can create earnings")
  let vendorId ← orRaise job.vendorId
    (.httpException 409 "Only completed assigned jobs can create earnings")
  require (0 ≤ grossMinor ∧ 0 ≤ feeMinor) (.httpException 422 "Invalid earning amounts")
  match db.earnings.rows.find? (fun e => e.jobId = job.id) with
  | some existing => return (db, existing)
  | none => newEarning db job vendorId grossMinor currency now snapshotId earningId

def requirePayoutsEnabled (settings : Settings) : Except Raised Unit :=
  require settings.payoutEnabled (.httpException 503 "payouts_disabled")

/-- The earnings `release_eligible` locks. -/
def eligible (now : Instant) (locked : List Uuid) (earning : VendorEarning) : Bool :=
  earning.status = .pending ∧ earning.availableAt ≤ now ∧ earning.id ∉ locked

def released (now : Instant) (locked : List Uuid) (earning : VendorEarning) : VendorEarning :=
  if eligible now locked earning then { earning with status := .available } else earning

def releaseEligible (settings : Settings) (db : Db) (now : Instant) (locked : List Uuid) :
    Except Raised (Db × Nat) := do
  requirePayoutsEnabled settings
  let rows := db.earnings.rows.filter (eligible now locked)
  let earnings := db.earnings.update (released now locked)
    (fun e => by unfold released; split <;> rfl)
  return ({ db with earnings }, rows.length)

/-- The earning after an adjustment. -/
def adjusted (earning : VendorEarning) (amountMinor : Int) (adjustmentType : AdjustmentType) :
    VendorEarning :=
  let earning :=
    { earning with adjustmentTotalMinor := earning.adjustmentTotalMinor + amountMinor }
  if earning.payableMinor ≤ 0 then { earning with status := .reversed }
  else if adjustmentType = .dispute then { earning with status := .held }
  else earning

def adjustEarning (db : Db) (earningId : Uuid) (amountMinor : Int)
    (adjustmentType : AdjustmentType) (reason idempotencyKey : String) (actorId : Option Uuid)
    (now : Instant) : Except Raised (Db × EarningAdjustment) := do
  let earning ← orRaise (db.earnings.get? earningId) (.httpException 404 "Earning not found")
  match db.adjustments.get? (earningId, idempotencyKey) with
  | some existing => return (db, existing)
  | none => do
    let adjustment : EarningAdjustment := {
      earningId, adjustmentType, amountMinor, reason, idempotencyKey, actorId }
    let adjustments ← orRaise (db.adjustments.insert? adjustment)
      (.integrityError "earning_adjustments_earning_id_idempotency_key_key")
    let earnings := db.earnings.put (adjusted earning amountMinor adjustmentType)
    return ({ db with adjustments, earnings }.audit {
      actorId
      action := "earning.adjustment"
      resourceType := "vendor_earning"
      resourceId := earning.id
      metadata := [("amount_minor", .int amountMinor), ("type", .str adjustmentType.value),
        ("reason", .str reason)]
      createdAt := now }, adjustment)

/-! ## Batches -/

/-- The earnings `available_earnings` locks. -/
def availableEarning (currency : String) (vendorId : Option Uuid) (now : Instant)
    (locked : List Uuid) (earning : VendorEarning) : Bool :=
  earning.status = .available ∧ earning.availableAt ≤ now ∧ earning.currency = currency ∧
    (∀ vendor ∈ vendorId, earning.vendorId = vendor) ∧ earning.id ∉ locked

/-- The earning in its batch, if it was picked. -/
def batched (picked : VendorEarning → Bool) (batchId : Uuid) (earning : VendorEarning) :
    VendorEarning :=
  if picked earning then { earning with status := .batched, payoutBatchId := some batchId }
  else earning

def newBatch (earnings : List VendorEarning) (currency : String) (actorId : Option Uuid)
    (now : Instant) (batchId : Uuid) (reference : String) : PayoutBatch := {
  id := batchId
  reference
  status := .pendingApproval
  currency
  totalMinor := (earnings.map VendorEarning.payableMinor).sum
  earningCount := earnings.length
  reviewedBy := actorId
  reviewedAt := actorId.map fun _ => now }

def createBatch (settings : Settings) (db : Db) (currency : String) (vendorId actorId : Option Uuid)
    (now : Instant) (locked : List Uuid) (batchId : Uuid) (reference : String) :
    Except Raised (Db × PayoutBatch) := do
  requirePayoutsEnabled settings
  let picked := availableEarning currency vendorId now locked
  let rows := db.earnings.rows.filter picked
  require (rows ≠ []) (.httpException 409 "No available earnings")
  let batch := newBatch rows currency actorId now batchId reference
  require (∀ other ∈ db.batches.rows, other.reference ≠ reference)
    (.integrityError "payout_batches_reference_key")
  let batches ← orRaise (db.batches.insert? batch) (.integrityError "payout_batches_pkey")
  let earnings := db.earnings.update (batched picked batchId)
    (fun e => by unfold batched; split <;> rfl)
  return ({ db with batches, earnings }.audit {
    actorId, action := "payout.review", resourceType := "payout_batch", resourceId := batch.id
    createdAt := now }, batch)

def approveBatch (settings : Settings) (db : Db) (batchId approverId : Uuid) (now : Instant) :
    Except Raised (Db × PayoutBatch) := do
  requirePayoutsEnabled settings
  let batch ← orRaise (db.batches.get? batchId) (.httpException 404 "Payout batch not found")
  require (batch.status = .pendingApproval) (.httpException 409 "Batch is not awaiting approval")
  let batch := { batch with
    status := .approved, approvedBy := some approverId, approvedAt := some now }
  return ({ db with batches := db.batches.put batch }.audit {
    actorId := some approverId, action := "payout.approve", resourceType := "payout_batch"
    resourceId := batch.id, createdAt := now }, batch)

/-! ## Submitting a batch -/

structure TransferResult where
  transferId : String
  status : String
  providerReference : Option String := none
  deriving DecidableEq, Repr

/-- What `create_transfer` answers or raises. -/
inductive GatewayAnswer
  | transferred (result : TransferResult)
  /-- `IntegrationNotConfigured` -/
  | notConfigured
  | raised (exc : Raised)
  deriving DecidableEq, Repr

/-- `IntegrationNotConfigured.code`. -/
def notConfiguredCode : String := "integration_not_configured"

/-- The arguments of a `create_transfer` call. -/
structure Transfer where
  amountMinor : Int
  currency : String
  destination : String
  idempotencyKey : String
  deriving DecidableEq, Repr

/-- A call of `submit_batch` between its two transactions: the batch as it was loaded,
with its key. -/
structure Submission where
  batch : PayoutBatch
  key : String
  actorId : Uuid
  /-- what the provider answered, once it was called -/
  answer : Option GatewayAnswer := none
  deriving DecidableEq, Repr

def Submission.transfer (submission : Submission) : Transfer := {
  amountMinor := submission.batch.totalMinor
  currency := submission.batch.currency
  destination := "batch:" ++ toString submission.batch.id
  idempotencyKey := submission.key }

/-- `batch.idempotency_key or f"payout-batch:{batch.id}"`. -/
def submitKey (batch : PayoutBatch) : String :=
  match batch.idempotencyKey with
  | none => "payout-batch:" ++ toString batch.id
  | some key => if key = "" then "payout-batch:" ++ toString batch.id else key

/-- An update of a batch, under its unique columns. -/
def putBatch (db : Db) (batch : PayoutBatch) : Except Raised Db := do
  require (∀ other ∈ db.batches.rows, other.id ≠ batch.id → batch.idempotencyKey = none ∨
      other.idempotencyKey ≠ batch.idempotencyKey)
    (.integrityError "payout_batches_idempotency_key_key")
  require (∀ other ∈ db.batches.rows, other.id ≠ batch.id → batch.providerTransferId = none ∨
      other.providerTransferId ≠ batch.providerTransferId)
    (.integrityError "payout_batches_provider_transfer_id_key")
  return { db with batches := db.batches.put batch }

/-- `submit_batch` up to its first commit: the answer for a batch that has a transfer,
or the call that goes on to the provider. -/
def beginSubmit (settings : Settings) (db : Db) (batchId actorId : Uuid) :
    Except Raised (Db × (PayoutBatch ⊕ Submission)) := do
  requirePayoutsEnabled settings
  let batch ← orRaise (db.batches.get? batchId) (.httpException 404 "Payout batch not found")
  if Jobs.given batch.providerTransferId then
    return (db, .inl batch)
  else do
    require (batch.status = .approved)
      (.httpException 409 "Only approved batches can be submitted")
    let key := submitKey batch
    let batch := { batch with idempotencyKey := some key }
    -- persist the stable key before the external call; retries reuse it
    let db ← putBatch db batch
    return (db, .inr { batch, key, actorId })

/-- A column the unit of work writes only if it differs from the value loaded. -/
def written {α : Type} [DecidableEq α] (loaded new current : α) : α :=
  if new = loaded then current else new

/-- A column of a copy that is the stored row. -/
theorem written_loaded {α : Type} [DecidableEq α] (loaded new : α) :
    written loaded new loaded = new := by
  unfold written
  split
  · next heq => exact heq.symm
  · rfl

def payoutSubmitted (batch : PayoutBatch) (result : TransferResult) (now : Instant) :
    IntegrationEvent := {
  aggregateType := "payout"
  aggregateId := batch.id
  eventType := "payout.submitted"
  payload := [
    ("id", .uuid batch.id),
    ("reference", .str batch.reference),
    ("total_minor", .int batch.totalMinor),
    ("currency", .str batch.currency),
    ("provider_status", .str result.status)]
  nextAttemptAt := now }

/-- The row after the transfer, from the row now and the batch as it was loaded. -/
def transferredBatch (row loaded : PayoutBatch) (result : TransferResult) (now : Instant) :
    PayoutBatch :=
  { row with
    providerTransferId := written loaded.providerTransferId (some result.transferId)
      row.providerTransferId
    providerReference := written loaded.providerReference result.providerReference
      row.providerReference
    providerStatus := written loaded.providerStatus (some result.status) row.providerStatus
    submittedAt := written loaded.submittedAt (some now) row.submittedAt
    status := written loaded.status .processing row.status }

/-- `submit_batch` after the provider call. The answer may be an exception although the
transaction commits. -/
def finishSubmit (db : Db) (submission : Submission) (answer : GatewayAnswer) (now : Instant) :
    Except Raised (Db × Except Raised PayoutBatch) := do
  let loaded := submission.batch
  let row ← orRaise (db.batches.get? loaded.id) (.other "StaleDataError")
  match answer with
  | .raised exc => throw exc
  | .notConfigured => do
    let batch := { row with
      failureReason := written loaded.failureReason (some notConfiguredCode) row.failureReason }
    let db ← putBatch db batch
    return (db, .error (.httpException 503 notConfiguredCode))
  | .transferred result => do
    let batch := transferredBatch row loaded result now
    let db ← putBatch db batch
    return ((db.emit (payoutSubmitted loaded result now)).audit {
      actorId := some submission.actorId
      action := "payout.submit"
      resourceType := "payout_batch"
      resourceId := batch.id
      metadata := [("provider_status", .str result.status)]
      createdAt := now }, .ok batch)

end Breero.Finance
