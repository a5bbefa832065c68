import Breero.Finance.System

/-!
What a step of the finance system writes: one constructor of `Step` for each way a
transaction commits, and `exec_step` for every step.
-/

namespace Breero.Finance
open KeyedTable Transaction

theorem released_key (now : Instant) (locked : List Uuid) (e : VendorEarning) :
    key (released now locked e) = key e := by
  unfold released
  split <;> rfl

theorem batched_key (picked : VendorEarning → Bool) (batchId : Uuid) (e : VendorEarning) :
    key (batched picked batchId e) = key e := by
  unfold batched
  split <;> rfl

inductive Step (w : World) : Op → World → Prop
  | same (op : Op) : Step w op w
  | recognized (op : Op) (earning : VendorEarning) (snapshots : Table CompensationSnapshot)
      (earnings : Table VendorEarning) (inserted : w.db.earnings.insert? earning = some earnings)
      (unlinked : earning.payoutBatchId = none) :
      Step w op { w with db := { w.db with snapshots, earnings } }
  | released (op : Op) (now : Instant) (locked : List Uuid) :
      Step w op { w with
        db := { w.db with
          earnings := w.db.earnings.update (released now locked) (released_key now locked) } }
  | adjusted (earningId : Uuid) (amountMinor : Int) (adjustmentType : AdjustmentType)
      (reason idempotencyKey : String) (actorId : Option Uuid) (now : Instant)
      (earning : VendorEarning) (adjustments : Table EarningAdjustment) (auditLogs : List AuditLog)
      (found : w.db.earnings.get? earningId = some earning)
      (fresh : w.db.adjustments.get? (earningId, idempotencyKey) = none) :
      Step w (.adjust earningId amountMinor adjustmentType reason idempotencyKey actorId now)
        { w with
          db := { w.db with
            earnings := w.db.earnings.put (adjusted earning amountMinor adjustmentType)
            adjustments, auditLogs } }
  | created (op : Op) (currency : String) (vendorId actorId : Option Uuid) (now : Instant)
      (locked : List Uuid) (batchId : Uuid) (reference : String) (batches : Table PayoutBatch)
      (auditLogs : List AuditLog)
      (inserted : w.db.batches.insert? (newBatch
        (w.db.earnings.rows.filter (availableEarning currency vendorId now locked))
        currency actorId now batchId reference) = some batches) :
      Step w op { w with
        db := { w.db with
          batches
          earnings := w.db.earnings.update
            (batched (availableEarning currency vendorId now locked) batchId)
            (batched_key _ batchId)
          auditLogs } }
  | approved (op : Op) (batch : PayoutBatch) (approverId : Uuid) (now : Instant)
      (auditLogs : List AuditLog) (found : w.db.batches.get? batch.id = some batch)
      (status : batch.status = .pendingApproval) :
      Step w op { w with
        db := { w.db with
          batches := w.db.batches.put { batch with
            status := .approved, approvedBy := some approverId, approvedAt := some now }
          auditLogs } }
  | begun (op : Op) (batch : PayoutBatch) (actorId : Uuid)
      (found : w.db.batches.get? batch.id = some batch)
      (unsent : Jobs.given batch.providerTransferId = false) (status : batch.status = .approved) :
      Step w op { w with
        db := { w.db with
          batches := w.db.batches.put { batch with idempotencyKey := some (submitKey batch) } }
        submissions := w.submissions ++ [{
          batch := { batch with idempotencyKey := some (submitKey batch) }
          key := submitKey batch
          actorId }] }
  | transferred (i : Nat) (answer : GatewayAnswer) (submission : Submission)
      (found : w.submissions[i]? = some submission) (uncalled : submission.answer = none) :
      Step w (.transfer i answer) { w with
        submissions := w.submissions.set i { submission with answer := some answer }
        transfers := w.transfers ++ [(submission.batch.id, submission.transfer)] }
  | abandoned (i : Nat) (now : Instant) :
      Step w (.finish i now) { w with submissions := w.submissions.eraseIdx i }
  | failed (i : Nat) (now : Instant) (submission : Submission) (row : PayoutBatch)
      (submitted : w.submissions[i]? = some submission)
      (answered : submission.answer = some .notConfigured)
      (found : w.db.batches.get? submission.batch.id = some row) :
      Step w (.finish i now) { w with
        db := { w.db with
          batches := w.db.batches.put { row with
            failureReason := written submission.batch.failureReason (some notConfiguredCode)
              row.failureReason } }
        submissions := w.submissions.eraseIdx i }
  | finished (i : Nat) (now : Instant) (submission : Submission) (result : TransferResult)
      (row : PayoutBatch) (auditLogs : List AuditLog)
      (submitted : w.submissions[i]? = some submission)
      (answered : submission.answer = some (.transferred result))
      (found : w.db.batches.get? submission.batch.id = some row) :
      Step w (.finish i now) { w with
        db := { w.db with
          batches := w.db.batches.put (transferredBatch row submission.batch result now)
          outbox := w.db.outbox ++ [payoutSubmitted submission.batch result now]
          auditLogs }
        submissions := w.submissions.eraseIdx i }

/-! ## Transactions -/

theorem recognizeEarning_ok {db db' : Db} {job : Job} {grossMinor feeMinor : Int}
    {currency : String} {now : Instant} {snapshotId earningId : Uuid} {v : VendorEarning}
    (h : recognizeEarning db job grossMinor feeMinor currency now snapshotId earningId =
      .ok (db', v)) :
    db' = db ∨ ∃ snapshots earnings, db.earnings.insert? v = some earnings ∧
      v.payoutBatchId = none ∧ db' = { db with snapshots, earnings } := by
  simp only [recognizeEarning, seq_committed, require_committed, orRaise_committed] at h
  obtain ⟨_, _, _, _, _, _, h⟩ := h
  split at h
  · rw [return_committed, Prod.mk.injEq] at h
    exact Or.inl h.1.symm
  · simp only [newEarning, addEarning, seq_committed, require_committed, orRaise_committed,
      return_committed, Prod.exists, Prod.mk.injEq] at h
    obtain ⟨_, _, _, _, _, _, _, snapshots, _, added, ⟨_, _, _, _, earnings, hinsert, rfl⟩, rfl,
      rfl⟩ := h
    exact Or.inr ⟨snapshots, earnings, hinsert, rfl, rfl⟩

theorem adjustEarning_ok {db db' : Db} {earningId : Uuid} {amountMinor : Int}
    {adjustmentType : AdjustmentType} {reason idempotencyKey : String} {actorId : Option Uuid}
    {now : Instant} {v : EarningAdjustment}
    (h : adjustEarning db earningId amountMinor adjustmentType reason idempotencyKey actorId now =
      .ok (db', v)) :
    db' = db ∨ ∃ earning adjustments auditLogs, db.earnings.get? earningId = some earning ∧
      db.adjustments.get? (earningId, idempotencyKey) = none ∧
      db' = { db with
        earnings := db.earnings.put (adjusted earning amountMinor adjustmentType)
        adjustments, auditLogs } := by
  simp only [adjustEarning, seq_committed, orRaise_committed] at h
  obtain ⟨earning, hfound, h⟩ := h
  split at h
  · rw [return_committed, Prod.mk.injEq] at h
    exact Or.inl h.1.symm
  · next hfresh =>
    simp only [seq_committed, orRaise_committed, return_committed, Prod.mk.injEq] at h
    obtain ⟨adjustments, _, rfl, _⟩ := h
    exact Or.inr ⟨earning, adjustments, _, hfound, hfresh, rfl⟩

theorem putBatch_ok {db db' : Db} {batch : PayoutBatch} (h : putBatch db batch = .ok db') :
    db' = { db with batches := db.batches.put batch } := by
  simp only [putBatch, seq_committed, require_committed, return_committed] at h
  obtain ⟨_, _, _, _, rfl⟩ := h
  rfl

theorem beginSubmit_ok {settings : Settings} {db db' : Db} {batchId actorId : Uuid}
    {out : PayoutBatch ⊕ Submission}
    (h : beginSubmit settings db batchId actorId = .ok (db', out)) :
    (db' = db ∧ ∃ batch, out = .inl batch) ∨
    ∃ batch, db.batches.get? batch.id = some batch ∧
      Jobs.given batch.providerTransferId = false ∧ batch.status = .approved ∧
      db' = { db with
        batches := db.batches.put { batch with idempotencyKey := some (submitKey batch) } } ∧
      out = .inr {
        batch := { batch with idempotencyKey := some (submitKey batch) }
        key := submitKey batch
        actorId } := by
  simp only [beginSubmit, requirePayoutsEnabled, seq_committed, require_committed,
    orRaise_committed] at h
  obtain ⟨_, _, batch, hfound, h⟩ := h
  split at h
  · rw [return_committed, Prod.mk.injEq] at h
    exact Or.inl ⟨h.1.symm, batch, h.2.symm⟩
  · next hunsent =>
    simp only [seq_committed, require_committed, return_committed, Prod.mk.injEq] at h
    obtain ⟨_, hstatus, _, hput, rfl, rfl⟩ := h
    have hfound' : db.batches.get? batch.id = some batch := Table.get?_found hfound
    exact Or.inr ⟨batch, hfound', by simpa using hunsent, hstatus, putBatch_ok hput, rfl⟩

theorem finishSubmit_ok {db db' : Db} {submission : Submission} {answer : GatewayAnswer}
    {now : Instant} {out : Except Raised PayoutBatch}
    (h : finishSubmit db submission answer now = .ok (db', out)) :
    ∃ row, db.batches.get? submission.batch.id = some row ∧
      ((answer = .notConfigured ∧ db' = { db with
          batches := db.batches.put { row with
            failureReason := written submission.batch.failureReason (some notConfiguredCode)
              row.failureReason } }) ∨
        ∃ result auditLogs, answer = .transferred result ∧ db' = { db with
          batches := db.batches.put (transferredBatch row submission.batch result now)
          outbox := db.outbox ++ [payoutSubmitted submission.batch result now]
          auditLogs }) := by
  simp only [finishSubmit, seq_committed, orRaise_committed] at h
  obtain ⟨row, hfound, h⟩ := h
  refine ⟨row, hfound, ?_⟩
  cases answer with
  | raised exc => cases h
  | notConfigured =>
    simp only [seq_committed, return_committed, Prod.mk.injEq] at h
    obtain ⟨_, hput, rfl, _⟩ := h
    exact Or.inl ⟨rfl, putBatch_ok hput⟩
  | transferred result =>
    simp only [seq_committed, return_committed, Prod.mk.injEq] at h
    obtain ⟨_, hput, rfl, _⟩ := h
    have hdb := putBatch_ok hput
    subst hdb
    exact Or.inr ⟨result, _, rfl, rfl⟩

/-! ## Steps -/

theorem Step.of_commit {α : Type} {w : World} {op : Op} {r : Except Raised (Db × α)}
    (h : ∀ db v, r = .ok (db, v) → Step w op { w with db }) :
    Step w op { w with db := commit w.db r } :=
  commit_induction (motive := fun db => Step w op { w with db }) (.same op) h

theorem exec_step (settings : Settings) (w : World) (op : Op) : Step w op (exec settings w op) := by
  cases op with
  | recognize job grossMinor feeMinor currency now snapshotId earningId =>
    simp only [exec]
    refine .of_commit fun db' v h => ?_
    rcases recognizeEarning_ok h with rfl | ⟨snapshots, earnings, hinsert, hunlinked, rfl⟩
    · exact .same _
    · exact .recognized _ v snapshots earnings hinsert hunlinked
  | release now locked =>
    simp only [exec]
    refine .of_commit fun db' v h => ?_
    simp only [releaseEligible, requirePayoutsEnabled, seq_committed, require_committed,
      return_committed, Prod.mk.injEq] at h
    obtain ⟨_, _, rfl, _⟩ := h
    exact .released _ now locked
  | adjust earningId amountMinor adjustmentType reason key actorId now =>
    simp only [exec]
    refine .of_commit fun db' v h => ?_
    rcases adjustEarning_ok h with rfl | ⟨earning, adjustments, auditLogs, hfound, hfresh, rfl⟩
    · exact .same _
    · exact .adjusted _ _ _ _ _ _ _ earning adjustments auditLogs hfound hfresh
  | createBatch currency vendorId actorId now locked batchId reference =>
    simp only [exec]
    refine .of_commit fun db' v h => ?_
    simp only [createBatch, requirePayoutsEnabled, seq_committed, require_committed,
      orRaise_committed, return_committed, Prod.mk.injEq] at h
    obtain ⟨_, _, _, _, _, _, batches, hinsert, rfl, _⟩ := h
    exact .created _ currency vendorId actorId now locked batchId reference batches _ hinsert
  | approve batchId approverId now =>
    simp only [exec]
    refine .of_commit fun db' v h => ?_
    simp only [approveBatch, requirePayoutsEnabled, seq_committed, require_committed,
      orRaise_committed, return_committed, Prod.mk.injEq] at h
    obtain ⟨_, _, batch, hfound, _, hstatus, rfl, _⟩ := h
    exact .approved _ batch approverId now _ (Table.get?_found hfound) hstatus
  | submit batchId actorId =>
    simp only [exec]
    split
    · next db' submission hbegin =>
      rcases beginSubmit_ok hbegin with ⟨_, _, hout⟩ | ⟨batch, hfound, hunsent, hstatus, rfl, hout⟩
      · cases hout
      · cases hout
        exact .begun _ batch actorId hfound hunsent hstatus
    · next db' _ hbegin =>
      rcases beginSubmit_ok hbegin with ⟨rfl, _⟩ | ⟨_, _, _, _, _, hout⟩
      · exact .same _
      · cases hout
    · exact .same _
  | transfer i answer =>
    simp only [exec]
    split
    · exact .same _
    · next submission hfound =>
      split
      · next huncalled => exact .transferred i answer submission hfound huncalled
      · exact .same _
  | finish i now =>
    simp only [exec]
    split
    · exact .same _
    · next submission hsubmitted =>
      split
      · exact .same _
      · next answer hanswered =>
        refine commit_induction (motive := fun db => Step w (.finish i now)
          { w with db, submissions := w.submissions.eraseIdx i }) (.abandoned i now)
          fun db' v h => ?_
        obtain ⟨row, hfound, ⟨rfl, rfl⟩ | ⟨result, auditLogs, rfl, rfl⟩⟩ := finishSubmit_ok h
        · exact .failed i now submission row hsubmitted hanswered hfound
        · exact .finished i now submission result row auditLogs hsubmitted hanswered hfound

/-! ## Submissions in flight -/

/-- A batch with a transfer is processing, and every submission in flight loaded its
batch approved and without one. -/
structure SubmitInv (w : World) : Prop where
  processing : ∀ row ∈ w.db.batches.rows, row.providerTransferId ≠ none →
    row.status = .processing
  loaded : ∀ s ∈ w.submissions, s.batch.status = .approved ∧ s.batch.providerTransferId = none

theorem mem_of_mem_eraseIdx {α : Type} {l : List α} {i : Nat} {a : α} (h : a ∈ l.eraseIdx i) :
    a ∈ l :=
  (List.eraseIdx_sublist l i).subset h

theorem SubmitInv.unsent {w : World} (h : SubmitInv w) {row : PayoutBatch}
    (hrow : row ∈ w.db.batches.rows) (hstatus : row.status ≠ .processing) :
    row.providerTransferId = none := by
  by_contra hne
  exact hstatus (h.processing row hrow hne)

theorem SubmitInv.put {w w' : World} {row : PayoutBatch} (h : SubmitInv w)
    (hbatches : w'.db.batches = w.db.batches.put row)
    (hrow : row.providerTransferId ≠ none → row.status = .processing)
    (hsubmissions : ∀ s ∈ w'.submissions, s ∈ w.submissions ∨
      (s.batch.status = .approved ∧ s.batch.providerTransferId = none)) : SubmitInv w' where
  processing r hr hne := by
    rw [hbatches] at hr
    rcases Table.mem_put.mp hr with ⟨rfl, _⟩ | ⟨hr, _⟩
    · exact hrow hne
    · exact h.processing r hr hne
  loaded s hs := by
    rcases hsubmissions s hs with hs | hnew
    · exact h.loaded s hs
    · exact hnew

theorem Step.submitInv {w w' : World} {op : Op} (hstep : Step w op w') (h : SubmitInv w) :
    SubmitInv w' := by
  cases hstep with
  | same | recognized | released | adjusted => exact ⟨h.processing, h.loaded⟩
  | created _ currency vendorId actorId now locked batchId reference batches auditLogs inserted =>
    refine ⟨fun row hrow hne => ?_, h.loaded⟩
    rcases (Table.mem_insert inserted).mp hrow with hrow | rfl
    · exact h.processing row hrow hne
    · exact absurd rfl hne
  | approved _ batch approverId now auditLogs found status =>
    have hnone := h.unsent (Table.mem_of_get? found) (by simp [status])
    exact h.put rfl (fun hne => absurd hnone hne) fun s hs => Or.inl hs
  | begun _ batch actorId found unsent status =>
    have hnone := h.unsent (Table.mem_of_get? found) (by simp [status])
    refine h.put rfl (fun hne => absurd hnone hne) fun s hs => ?_
    rcases List.mem_append.mp hs with hs | hs
    · exact Or.inl hs
    · rw [List.mem_singleton] at hs
      subst hs
      exact Or.inr ⟨status, hnone⟩
  | transferred i answer submission found uncalled =>
    refine ⟨h.processing, fun s hs => ?_⟩
    rcases List.mem_or_eq_of_mem_set hs with hs | rfl
    · exact h.loaded s hs
    · exact h.loaded submission (List.mem_of_getElem? found)
  | abandoned i now => exact ⟨h.processing, fun s hs => h.loaded s (mem_of_mem_eraseIdx hs)⟩
  | failed i now submission row submitted answered found =>
    exact h.put rfl (h.processing row (Table.mem_of_get? found))
      fun s hs => Or.inl (mem_of_mem_eraseIdx hs)
  | finished i now submission result row auditLogs submitted answered found =>
    have hloaded := (h.loaded submission (List.mem_of_getElem? submitted)).1
    refine h.put rfl (fun _ => ?_) fun s hs => Or.inl (mem_of_mem_eraseIdx hs)
    simp [transferredBatch, written, hloaded]

end Breero.Finance
