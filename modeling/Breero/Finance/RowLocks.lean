import Breero.Finance.Batches
import Breero.Lib.Locks
import Breero.Lib.Runs

/-!
The transactions that write earnings, under the locks of their rows.

Each one locks the rows that it reads, and holds them until it ends. The queries of
`release_eligible` and `create_batch` pass over the rows that others hold, `adjust_earning`
waits for its row.

* `lockEligible`, `lockEarning` and `lockAvailable` are the transactions up to their locks,
  `finishRelease`, `finishAdjust` and `finishBatch` the rest; `releaseEligible_eq`,
  `adjustEarning_eq` and `createBatch_eq` say that the parts are the whole;
* `Ledger` is the system.
-/

namespace Breero.Finance
open KeyedTable Transaction Locks

/-! ## Transactions in two parts -/

def lockEligible (settings : Settings) (db : Db) (now : Instant) (passed : List Uuid) :
    Except Raised (List VendorEarning) := do
  requirePayoutsEnabled settings
  return db.earnings.rows.filter (eligible now passed)

/-- The earning is among the rows that were read. -/
def isOf (rows : List VendorEarning) (earning : VendorEarning) : Bool :=
  earning.id ∈ rows.map (·.id)

def madeAvailable (rows : List VendorEarning) (earning : VendorEarning) : VendorEarning :=
  if isOf rows earning then { earning with status := .available } else earning

theorem madeAvailable_key (rows : List VendorEarning) (earning : VendorEarning) :
    key (madeAvailable rows earning) = key earning := by
  unfold madeAvailable
  split <;> rfl

def finishRelease (db : Db) (rows : List VendorEarning) : Db × Nat :=
  ({ db with
      earnings := db.earnings.update (madeAvailable rows) (madeAvailable_key rows) },
    rows.length)

def lockEarning (db : Db) (earningId : Uuid) : Except Raised VendorEarning :=
  orRaise (db.earnings.get? earningId) (.httpException 404 "Earning not found")

/-- The columns that the unit of work writes, on the row that is stored. -/
def writeAdjusted (loaded new stored : VendorEarning) : VendorEarning :=
  { stored with
    adjustmentTotalMinor := written loaded.adjustmentTotalMinor new.adjustmentTotalMinor
      stored.adjustmentTotalMinor
    status := written loaded.status new.status stored.status }

structure AdjustCommand where
  amountMinor : Int
  adjustmentType : AdjustmentType
  reason : String
  idempotencyKey : String
  actorId : Option Uuid
  deriving DecidableEq, Repr

def finishAdjust (db : Db) (earning : VendorEarning) (command : AdjustCommand) (now : Instant) :
    Except Raised (Db × EarningAdjustment) :=
  match db.adjustments.get? (earning.id, command.idempotencyKey) with
  | some existing => return (db, existing)
  | none => do
    let adjustment : EarningAdjustment := {
      earningId := earning.id
      adjustmentType := command.adjustmentType
      amountMinor := command.amountMinor
      reason := command.reason
      idempotencyKey := command.idempotencyKey
      actorId := command.actorId }
    let adjustments ← orRaise (db.adjustments.insert? adjustment)
      (.integrityError "earning_adjustments_earning_id_idempotency_key_key")
    let stored ← orRaise (db.earnings.get? earning.id) (.other "StaleDataError")
    let new := adjusted earning command.amountMinor command.adjustmentType
    let earnings := db.earnings.put (writeAdjusted earning new stored)
    return ({ db with adjustments, earnings }.audit {
      actorId := command.actorId
      action := "earning.adjustment"
      resourceType := "vendor_earning"
      resourceId := earning.id
      metadata := [("amount_minor", .int command.amountMinor),
        ("type", .str command.adjustmentType.value), ("reason", .str command.reason)]
      createdAt := now }, adjustment)

def lockAvailable (settings : Settings) (db : Db) (currency : String) (vendorId : Option Uuid)
    (now : Instant) (passed : List Uuid) : Except Raised (List VendorEarning) := do
  requirePayoutsEnabled settings
  let rows := db.earnings.rows.filter (availableEarning currency vendorId now passed)
  require (rows ≠ []) (.httpException 409 "No available earnings")
  return rows

def finishBatch (db : Db) (rows : List VendorEarning) (currency : String) (actorId : Option Uuid)
    (now : Instant) (batchId : Uuid) (reference : String) : Except Raised (Db × PayoutBatch) := do
  let batch := newBatch rows currency actorId now batchId reference
  require (∀ other ∈ db.batches.rows, other.reference ≠ reference)
    (.integrityError "payout_batches_reference_key")
  let batches ← orRaise (db.batches.insert? batch) (.integrityError "payout_batches_pkey")
  let earnings := db.earnings.update (batched (isOf rows) batchId) (batched_key _ batchId)
  return ({ db with batches, earnings }.audit {
    actorId, action := "payout.review", resourceType := "payout_batch", resourceId := batch.id
    createdAt := now }, batch)

/-! ## The parts are the whole -/

theorem isOf_filter {t : Table VendorEarning} {picked : VendorEarning → Bool}
    {earning : VendorEarning} (hmem : earning ∈ t.rows) :
    isOf (t.rows.filter picked) earning = picked earning := by
  rw [Bool.eq_iff_iff]
  simp only [isOf, decide_eq_true_eq, List.mem_map, List.mem_filter]
  constructor
  · rintro ⟨other, ⟨hother, hpicked⟩, hid⟩
    exact Table.eq_of_key hother hmem hid ▸ hpicked
  · intro hpicked
    exact ⟨earning, ⟨hmem, hpicked⟩, rfl⟩

theorem update_congr {t : Table VendorEarning} {f g : VendorEarning → VendorEarning}
    {hf : ∀ e, key (f e) = key e} {hg : ∀ e, key (g e) = key e} (h : ∀ e ∈ t.rows, f e = g e) :
    t.update f hf = t.update g hg := by
  unfold Table.update
  congr 1
  exact List.map_congr_left h

theorem releaseEligible_eq (settings : Settings) (db : Db) (now : Instant) (passed : List Uuid) :
    releaseEligible settings db now passed = do
      let rows ← lockEligible settings db now passed
      return finishRelease db rows := by
  simp only [releaseEligible, lockEligible, finishRelease, bind_assoc, pure_bind]
  congr 3
  have hsame : ∀ e ∈ db.earnings.rows,
      released now passed e = madeAvailable (db.earnings.rows.filter (eligible now passed)) e := by
    intro e he
    rw [madeAvailable, isOf_filter he, released]
  rw [update_congr hsame]

/-- The row as it was read takes the columns that were written. -/
theorem writeAdjusted_read (earning : VendorEarning) (amountMinor : Int)
    (adjustmentType : AdjustmentType) :
    writeAdjusted earning (adjusted earning amountMinor adjustmentType) earning =
      adjusted earning amountMinor adjustmentType := by
  unfold writeAdjusted
  rw [written_loaded, written_loaded]
  unfold adjusted
  dsimp only
  split
  · rfl
  · split <;> rfl

theorem adjustEarning_eq (db : Db) (earningId : Uuid) (command : AdjustCommand) (now : Instant) :
    adjustEarning db earningId command.amountMinor command.adjustmentType command.reason
        command.idempotencyKey command.actorId now = (do
      let earning ← lockEarning db earningId
      finishAdjust db earning command now) := by
  unfold adjustEarning lockEarning
  cases hget : db.earnings.get? earningId with
  | none => rfl
  | some earning =>
    obtain rfl : earning.id = earningId := Table.key_of_get? hget
    unfold finishAdjust
    cases hold : db.adjustments.get? (earning.id, command.idempotencyKey) with
    | some existing => simp [orRaise, hold, bind, Except.bind]
    | none => simp [orRaise, hold, hget, writeAdjusted_read, bind, Except.bind]

theorem createBatch_eq (settings : Settings) (db : Db) (currency : String)
    (vendorId actorId : Option Uuid) (now : Instant) (passed : List Uuid) (batchId : Uuid)
    (reference : String) :
    createBatch settings db currency vendorId actorId now passed batchId reference = (do
      let rows ← lockAvailable settings db currency vendorId now passed
      finishBatch db rows currency actorId now batchId reference) := by
  have hsame : db.earnings.update (batched (availableEarning currency vendorId now passed) batchId)
        (batched_key _ batchId) =
      db.earnings.update (batched
        (isOf (db.earnings.rows.filter (availableEarning currency vendorId now passed))) batchId)
        (batched_key _ batchId) := by
    refine update_congr fun e he => ?_
    rw [batched, batched, isOf_filter he]
  simp only [createBatch, lockAvailable, finishBatch, bind_assoc, pure_bind, hsame]

/-! ## The system -/

/-- A transaction that has locked its rows, as it read them. -/
inductive OpenTxn
  | release (rows : List VendorEarning)
  | adjust (earning : VendorEarning) (command : AdjustCommand)
  | batch (rows : List VendorEarning) (currency : String) (actorId : Option Uuid)
  deriving DecidableEq, Repr

def OpenTxn.rows : OpenTxn → List VendorEarning
  | .release rows | .batch rows _ _ => rows
  | .adjust earning _ => [earning]

def OpenTxn.locks (txn : OpenTxn) : List Uuid := txn.rows.map (·.id)

structure Ledger where
  db : Db
  opened : List OpenTxn := []

namespace Ledger

/-- `passed` are the rows that a query passes over besides those that are locked in the state of
the step: it comes to its rows one after the other. -/
inductive Op
  | recognize (job : Job) (grossMinor feeMinor : Int) (currency : String) (now : Instant)
      (snapshotId earningId : Uuid)
  | release (now : Instant) (passed : List Uuid)
  | adjust (earningId : Uuid) (command : AdjustCommand)
  | createBatch (currency : String) (vendorId actorId : Option Uuid) (now : Instant)
      (passed : List Uuid)
  | commit (position : Nat) (now : Instant) (batchId : Uuid) (reference : String)
  | abort (position : Nat)

def lockedIds (w : Ledger) : List Uuid := w.opened.flatMap OpenTxn.locks

/-- What a transaction commits. -/
def finish (db : Db) (now : Instant) (batchId : Uuid) (reference : String) : OpenTxn → Db
  | .release rows => (finishRelease db rows).1
  | .adjust earning command => Transaction.commit db (finishAdjust db earning command now)
  | .batch rows currency actorId =>
    Transaction.commit db (finishBatch db rows currency actorId now batchId reference)

/-- An adjustment that waits for its row is a step later on. -/
def exec (settings : Settings) (w : Ledger) : Op → Ledger
  | .recognize job grossMinor feeMinor currency now snapshotId earningId =>
    { w with
      db := Transaction.commit w.db
        (recognizeEarning w.db job grossMinor feeMinor currency now snapshotId earningId) }
  | .release now passed =>
    match lockEligible settings w.db now (w.lockedIds ++ passed) with
    | .error _ => w
    | .ok rows => { w with opened := w.opened ++ [.release rows] }
  | .adjust earningId command =>
    match lockEarning w.db earningId with
    | .error _ => w
    | .ok earning =>
      if Free OpenTxn.locks w.opened [earningId] then
        { w with opened := w.opened ++ [.adjust earning command] }
      else w
  | .createBatch currency vendorId actorId now passed =>
    match lockAvailable settings w.db currency vendorId now (w.lockedIds ++ passed) with
    | .error _ => w
    | .ok rows => { w with opened := w.opened ++ [.batch rows currency actorId] }
  | .commit position now batchId reference =>
    match w.opened[position]? with
    | none => w
    | some txn => {
        db := finish w.db now batchId reference txn
        opened := w.opened.eraseIdx position }
  | .abort position => { w with opened := w.opened.eraseIdx position }

/-- The amount that `recognize_earning` computes. -/
def compensation (db : Db) (job : Job) (grossMinor : Int) (now : Instant) : Option Int := do
  let vendorId ← job.vendorId
  let plan ← activePlan db vendorId now
  let rate := db.serviceRates.get? (plan.id, job.serviceId)
  let (amount, _) ← (calculateCompensation plan grossMinor rate).toOption
  return amount

/-! ## What a step writes -/

/-- The rows that an open transaction has read are the stored ones. -/
structure Consistent (db : Db) (txn : OpenTxn) : Prop where
  stored : ∀ row ∈ txn.rows, db.earnings.get? row.id = some row
  nodup : txn.rows.Nodup
  pending : ∀ rows, txn = .release rows → ∀ row ∈ rows, row.status = .pending
  available : ∀ rows currency actorId, txn = .batch rows currency actorId →
    ∀ row ∈ rows, row.status = .available

structure Coherent (w : Ledger) : Prop where
  exclusive : Exclusive OpenTxn.locks w.opened
  consistent : ∀ txn ∈ w.opened, Consistent w.db txn

/-- A new earning, and what it was recognized for. -/
structure Recognized (db : Db) (job : Job) (grossMinor : Int) (now : Instant)
    (earning : VendorEarning) (earnings : Table VendorEarning) : Prop where
  inserted : db.earnings.insert? earning = some earnings
  first : ∀ other ∈ db.earnings.rows, other.jobId ≠ job.id
  net : compensation db job grossMinor now = some earning.netMinor
  positive : 0 ≤ earning.netMinor
  total : earning.adjustmentTotalMinor = 0
  status : earning.status = .pending
  unlinked : earning.payoutBatchId = none

theorem recognizeEarning_new {db db' : Db} {job : Job} {grossMinor feeMinor : Int}
    {currency : String} {now : Instant} {snapshotId earningId : Uuid} {v : VendorEarning}
    (h : recognizeEarning db job grossMinor feeMinor currency now snapshotId earningId =
      .ok (db', v)) :
    (db' = db ∧ ∃ other ∈ db.earnings.rows, other.jobId = job.id) ∨
      ∃ snapshots earnings, Recognized db job grossMinor now v earnings ∧
        db' = { db with snapshots, earnings } := by
  simp only [recognizeEarning, seq_committed, require_committed, orRaise_committed] at h
  obtain ⟨_, _, vendorId, hvendor, _, _, h⟩ := h
  split at h
  · next existing hfind =>
    rw [return_committed, Prod.mk.injEq] at h
    have hjob : existing.jobId = job.id := by simpa using List.find?_some hfind
    exact Or.inl ⟨h.1.symm, existing, List.mem_of_find?_eq_some hfind, hjob⟩
  · next hfind =>
    simp only [newEarning, addEarning, seq_committed, require_committed, orRaise_committed,
      mapError_committed, return_committed, Prod.exists, Prod.mk.injEq] at h
    obtain ⟨plan, hplan, amount, rule, hamount, _, _, snapshots, _, added,
      ⟨_, hchecks, _, hfirst, earnings, hinsert, rfl⟩, rfl, rfl⟩ := h
    refine Or.inr ⟨snapshots, earnings, ⟨hinsert, hfirst, ?_, hchecks.2.2, rfl, rfl, rfl⟩, rfl⟩
    simp [compensation, hvendor, hplan, hamount, Except.toOption]

inductive Step (w : Ledger) : Op → Ledger → Prop
  | unchanged (op : Op) : Step w op w
  | ended (op : Op) (position : Nat) : Step w op { w with opened := w.opened.eraseIdx position }
  | opened (op : Op) (txn : OpenTxn) (consistent : Consistent w.db txn)
      (free : Free OpenTxn.locks w.opened txn.locks) :
      Step w op { w with opened := w.opened ++ [txn] }
  | recognized {job : Job} {grossMinor feeMinor : Int} {currency : String} {now : Instant}
      {snapshotId earningId : Uuid} {earning : VendorEarning}
      (snapshots : Table CompensationSnapshot) (earnings : Table VendorEarning)
      (recognized : Recognized w.db job grossMinor now earning earnings)
      (committed : (recognizeEarning w.db job grossMinor feeMinor currency now snapshotId
        earningId).isOk) :
      Step w (.recognize job grossMinor feeMinor currency now snapshotId earningId)
        { w with db := { w.db with snapshots, earnings } }
  | released {position : Nat} {now : Instant} {batchId : Uuid} {reference : String}
      {rows : List VendorEarning} (hat : w.opened[position]? = some (.release rows)) :
      Step w (.commit position now batchId reference) {
        db := { w.db with
          earnings := w.db.earnings.update (madeAvailable rows) (madeAvailable_key rows) }
        opened := w.opened.eraseIdx position }
  | adjusted {position : Nat} {now : Instant} {batchId : Uuid} {reference : String}
      {earning stored : VendorEarning} {command : AdjustCommand}
      (adjustments : Table EarningAdjustment) (auditLogs : List AuditLog)
      (hat : w.opened[position]? = some (.adjust earning command))
      (fresh : w.db.adjustments.get? (earning.id, command.idempotencyKey) = none)
      (inserted : w.db.adjustments.insert? {
        earningId := earning.id
        adjustmentType := command.adjustmentType
        amountMinor := command.amountMinor
        reason := command.reason
        idempotencyKey := command.idempotencyKey
        actorId := command.actorId } = some adjustments)
      (found : w.db.earnings.get? earning.id = some stored) :
      Step w (.commit position now batchId reference) {
        db := { w.db with
          adjustments
          earnings := w.db.earnings.put (writeAdjusted earning
            (Finance.adjusted earning command.amountMinor command.adjustmentType) stored)
          auditLogs }
        opened := w.opened.eraseIdx position }
  | batched {position : Nat} {now : Instant} {batchId : Uuid} {reference : String}
      {rows : List VendorEarning} {currency : String} {actorId : Option Uuid}
      (batches : Table PayoutBatch) (auditLogs : List AuditLog)
      (hat : w.opened[position]? = some (.batch rows currency actorId))
      (inserted : w.db.batches.insert? (newBatch rows currency actorId now batchId reference) =
        some batches) :
      Step w (.commit position now batchId reference) {
        db := { w.db with
          batches
          earnings := w.db.earnings.update (Finance.batched (isOf rows) batchId)
            (batched_key _ batchId)
          auditLogs }
        opened := w.opened.eraseIdx position }

variable {w w' : Ledger} {op : Op}

theorem lockedIds_free {rows : List VendorEarning}
    (h : ∀ row ∈ rows, row.id ∉ w.lockedIds) (wrap : List VendorEarning → OpenTxn)
    (hrows : (wrap rows).rows = rows) : Free OpenTxn.locks w.opened (wrap rows).locks := by
  intro other hother lock hlock hwanted
  rw [OpenTxn.locks, hrows] at hwanted
  obtain ⟨row, hrow, rfl⟩ := List.mem_map.mp hwanted
  exact h row hrow (List.mem_flatMap.mpr ⟨other, hother, hlock⟩)

/-- The rows that a query picks. -/
theorem consistent_filter {db : Db} {picked : VendorEarning → Bool} {row : VendorEarning}
    (h : row ∈ db.earnings.rows.filter picked) : db.earnings.get? row.id = some row :=
  Table.get?_key (List.mem_of_mem_filter h)

theorem nodup_filter (t : Table VendorEarning) (picked : VendorEarning → Bool) :
    (t.rows.filter picked).Nodup :=
  (List.Nodup.of_map _ t.nodup).filter picked

theorem recognize_step (settings : Settings) (job : Job) (grossMinor feeMinor : Int)
    (currency : String) (now : Instant) (snapshotId earningId : Uuid) :
    Step w (.recognize job grossMinor feeMinor currency now snapshotId earningId)
      (exec settings w
        (.recognize job grossMinor feeMinor currency now snapshotId earningId)) := by
  simp only [exec]
  cases hresult : recognizeEarning w.db job grossMinor feeMinor currency now snapshotId
      earningId with
  | error raised => exact .unchanged _
  | ok result =>
    obtain ⟨db', v⟩ := result
    rw [commit_ok rfl]
    rcases recognizeEarning_new hresult with ⟨rfl, _⟩ | ⟨snapshots, earnings, hnew, rfl⟩
    · exact .unchanged _
    · exact .recognized snapshots earnings hnew (isOk_of_eq hresult)

theorem release_step (settings : Settings) (now : Instant) (passed : List Uuid) :
    Step w (.release now passed) (exec settings w (.release now passed)) := by
  simp only [exec]
  split
  · exact .unchanged _
  · next rows hrows =>
    simp only [lockEligible, seq_committed, return_committed] at hrows
    obtain ⟨_, _, rfl⟩ := hrows
    refine .opened _ _ ⟨fun row hrow => consistent_filter hrow, nodup_filter _ _, ?_, ?_⟩ ?_
    · rintro _ ⟨⟩ row hrow
      have hpicked := (List.mem_filter.mp hrow).2
      simp only [eligible, decide_eq_true_eq] at hpicked
      exact hpicked.1
    · rintro _ _ _ ⟨⟩
    · refine lockedIds_free (fun row hrow => ?_) OpenTxn.release rfl
      have hpicked := (List.mem_filter.mp hrow).2
      simp only [eligible, decide_eq_true_eq, List.mem_append, not_or] at hpicked
      exact hpicked.2.2.1

theorem adjust_step (settings : Settings) (earningId : Uuid) (command : AdjustCommand) :
    Step w (.adjust earningId command) (exec settings w (.adjust earningId command)) := by
  simp only [exec]
  split
  · exact .unchanged _
  · next earning hearning =>
    split
    · next hfree =>
      rw [lockEarning, orRaise_committed] at hearning
      have hid : earning.id = earningId := Table.key_of_get? hearning
      subst hid
      refine .opened _ _ ⟨fun row hrow => ?_, List.nodup_singleton _, ?_, ?_⟩ hfree
      · rw [OpenTxn.rows, List.mem_singleton] at hrow
        exact hrow ▸ hearning
      · rintro _ ⟨⟩
      · rintro _ _ _ ⟨⟩
    · exact .unchanged _

theorem createBatch_step (settings : Settings) (currency : String) (vendorId actorId : Option Uuid)
    (now : Instant) (passed : List Uuid) :
    Step w (.createBatch currency vendorId actorId now passed)
      (exec settings w (.createBatch currency vendorId actorId now passed)) := by
  simp only [exec]
  split
  · exact .unchanged _
  · next rows hrows =>
    simp only [lockAvailable, seq_committed, require_committed, return_committed] at hrows
    obtain ⟨_, _, _, _, rfl⟩ := hrows
    refine .opened _ _ ⟨fun row hrow => consistent_filter hrow, nodup_filter _ _, ?_, ?_⟩ ?_
    · rintro _ ⟨⟩
    · rintro _ _ _ ⟨⟩ row hrow
      have hpicked := (List.mem_filter.mp hrow).2
      simp only [availableEarning, decide_eq_true_eq] at hpicked
      exact hpicked.1
    · refine lockedIds_free (fun row hrow => ?_) (fun rows => .batch rows currency actorId) rfl
      have hpicked := (List.mem_filter.mp hrow).2
      simp only [availableEarning, decide_eq_true_eq, List.mem_append, not_or] at hpicked
      exact hpicked.2.2.2.2.1

/-- A commit ends its transaction, and what it writes is as its kind has it. -/
theorem commit_step (settings : Settings) (position : Nat) (now : Instant) (batchId : Uuid)
    (reference : String) :
    Step w (.commit position now batchId reference)
      (exec settings w (.commit position now batchId reference)) := by
  simp only [exec]
  split
  · exact .unchanged _
  · next txn hat =>
    cases txn with
    | release rows => exact .released hat
    | adjust earning command =>
      simp only [finish]
      cases hresult : finishAdjust w.db earning command now with
      | error raised => exact .ended _ position
      | ok result =>
        obtain ⟨db', v⟩ := result
        rw [commit_ok rfl]
        unfold finishAdjust at hresult
        split at hresult
        · rw [return_committed, Prod.mk.injEq] at hresult
          obtain ⟨rfl, _⟩ := hresult
          exact .ended _ position
        · next hfresh =>
          simp only [seq_committed, orRaise_committed, return_committed,
            Prod.mk.injEq] at hresult
          obtain ⟨adjustments, hinsert, stored, hstored, rfl, _⟩ := hresult
          exact .adjusted adjustments _ hat hfresh hinsert hstored
    | batch rows currency actorId =>
      simp only [finish]
      cases hresult : finishBatch w.db rows currency actorId now batchId reference with
      | error raised => exact .ended _ position
      | ok result =>
        obtain ⟨db', v⟩ := result
        rw [commit_ok rfl]
        simp only [finishBatch, seq_committed, require_committed, orRaise_committed,
          return_committed, Prod.mk.injEq] at hresult
        obtain ⟨_, _, batches, hinsert, rfl, _⟩ := hresult
        exact .batched batches _ hat hinsert

theorem exec_step (settings : Settings) (w : Ledger) (op : Op) :
    Step w op (exec settings w op) := by
  cases op with
  | recognize job grossMinor feeMinor currency now snapshotId earningId =>
    exact recognize_step settings job grossMinor feeMinor currency now snapshotId earningId
  | release now passed => exact release_step settings now passed
  | adjust earningId command => exact adjust_step settings earningId command
  | createBatch currency vendorId actorId now passed =>
    exact createBatch_step settings currency vendorId actorId now passed
  | commit position now batchId reference =>
    exact commit_step settings position now batchId reference
  | abort position => exact .ended _ position

/-! ## The locked rows stay -/

theorem Consistent.kept {db db' : Db} {txn : OpenTxn} (h : Consistent db txn)
    (hsame : ∀ row ∈ txn.rows, db.earnings.get? row.id = some row →
      db'.earnings.get? row.id = some row) : Consistent db' txn :=
  { h with stored := fun row hrow => hsame row hrow (h.stored row hrow) }

/-- The rows of the others when a transaction ends. -/
theorem Coherent.others (h : Coherent w) {position : Nat} {txn : OpenTxn}
    (hat : w.opened[position]? = some txn) :
    ∀ other ∈ w.opened.eraseIdx position, ∀ row ∈ other.rows, row.id ∉ txn.rows.map (·.id) :=
  fun other hother row hrow =>
    h.exclusive.others hat other hother row.id (List.mem_map_of_mem hrow)

theorem Coherent.ended (h : Coherent w) {db' : Db} (position : Nat)
    (hsame : ∀ other ∈ w.opened.eraseIdx position, ∀ row ∈ other.rows,
      w.db.earnings.get? row.id = some row → db'.earnings.get? row.id = some row) :
    Coherent { db := db', opened := w.opened.eraseIdx position } where
  exclusive := h.exclusive.eraseIdx position
  consistent other hother :=
    (h.consistent other (List.mem_of_mem_eraseIdx hother)).kept (hsame other hother)

/-- An update of the rows of a transaction leaves the rows of the others. -/
theorem get?_update_other {t : Table VendorEarning} {f : VendorEarning → VendorEarning}
    {row : VendorEarning} (hf : ∀ e, key (f e) = key e) (hrow : f row = row)
    (h : t.get? row.id = some row) : (t.update f hf).get? row.id = some row := by
  rw [Table.get?_update, h, Option.map_some, hrow]

theorem Step.coherent (hstep : Step w op w') (h : Coherent w) : Coherent w' := by
  cases hstep with
  | unchanged => exact h
  | ended _ position => exact h.ended position fun _ _ _ _ hget => hget
  | opened _ txn consistent free =>
    refine ⟨h.exclusive.push free, fun other hother => ?_⟩
    rcases List.mem_append.mp hother with hold | hnew
    · exact h.consistent other hold
    · rw [List.mem_singleton] at hnew
      exact hnew ▸ consistent
  | recognized snapshots earnings recognized =>
    refine ⟨h.exclusive, fun other hother => (h.consistent other hother).kept ?_⟩
    exact fun _ _ hget => Table.get?_insert_of_some recognized.inserted hget
  | @released position _ _ _ rows hat =>
    refine h.ended position fun other hother row hrow hget =>
      get?_update_other (madeAvailable_key rows) ?_ hget
    have hnot : ¬ isOf rows row = true := by
      simpa [isOf, OpenTxn.rows] using h.others hat other hother row hrow
    exact if_neg hnot
  | @adjusted position _ _ _ earning stored command adjustments auditLogs hat _ _ found =>
    refine h.ended position fun other hother row hrow hget => ?_
    have hne : row.id ≠ earning.id := by
      simpa [OpenTxn.rows] using h.others hat other hother row hrow
    have hid : stored.id = earning.id := Table.key_of_get? found
    exact (Table.get?_put_ne fun hkey => hne (hkey.symm.trans hid)).trans hget
  | @batched position _ _ _ rows currency actorId batches auditLogs hat =>
    refine h.ended position fun other hother row hrow hget =>
      get?_update_other (batched_key _ _) ?_ hget
    have hnot : ¬ isOf rows row = true := by
      simpa [isOf, OpenTxn.rows] using h.others hat other hother row hrow
    exact if_neg hnot

end Ledger

end Breero.Finance
