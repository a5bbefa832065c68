import Breero.Lib.Runs
import Breero.Finance.Service

/-!
The finance system: the database and the calls of `submit_batch` that are between
their two transactions. A step is one committed or rolled back transaction, or the
call of the payout provider that a submission makes between its two.
-/

namespace Breero.Finance
open KeyedTable Transaction

structure World where
  db : Db
  submissions : List Submission := []
  /-- the `create_transfer` calls made, with the batch each is for -/
  transfers : List (Uuid × Transfer) := []

inductive Op
  | recognize (job : Job) (grossMinor feeMinor : Int) (currency : String) (now : Instant)
      (snapshotId earningId : Uuid)
  | release (now : Instant) (locked : List Uuid)
  | adjust (earningId : Uuid) (amountMinor : Int) (adjustmentType : AdjustmentType)
      (reason key : String) (actorId : Option Uuid) (now : Instant)
  | createBatch (currency : String) (vendorId actorId : Option Uuid) (now : Instant)
      (locked : List Uuid) (batchId : Uuid) (reference : String)
  | approve (batchId approverId : Uuid) (now : Instant)
  | submit (batchId actorId : Uuid)
  | transfer (submission : Nat) (answer : GatewayAnswer)
  | finish (submission : Nat) (now : Instant)

def exec (settings : Settings) (w : World) : Op → World
  | .recognize job grossMinor feeMinor currency now snapshotId earningId =>
    { w with
      db := commit w.db
        (recognizeEarning w.db job grossMinor feeMinor currency now snapshotId earningId) }
  | .release now locked => { w with db := commit w.db (releaseEligible settings w.db now locked) }
  | .adjust earningId amountMinor adjustmentType reason key actorId now =>
    { w with
      db := commit w.db
        (adjustEarning w.db earningId amountMinor adjustmentType reason key actorId now) }
  | .createBatch currency vendorId actorId now locked batchId reference =>
    { w with
      db := commit w.db
        (createBatch settings w.db currency vendorId actorId now locked batchId reference) }
  | .approve batchId approverId now =>
    { w with db := commit w.db (approveBatch settings w.db batchId approverId now) }
  | .submit batchId actorId =>
    match beginSubmit settings w.db batchId actorId with
    | .ok (db, .inr submission) => { w with db, submissions := w.submissions ++ [submission] }
    | .ok (db, .inl _) => { w with db }
    | .error _ => w
  | .transfer i answer =>
    match w.submissions[i]? with
    | none => w
    | some submission =>
      if submission.answer = none then
        { w with
          submissions := w.submissions.set i { submission with answer := some answer }
          transfers := w.transfers ++ [(submission.batch.id, submission.transfer)] }
      else w
  | .finish i now =>
    match w.submissions[i]? with
    | none => w
    | some submission =>
      match submission.answer with
      | none => w
      | some answer =>
        { w with
          db := commit w.db (finishSubmit w.db submission answer now)
          submissions := w.submissions.eraseIdx i }

/-! ## A batch to submit

The runs that go wrong are about one earning of 8000 minor units that becomes
available, is batched, and whose batch is approved. -/

def sampleSettings : Settings where
  hash payload := payload.currency

def repair : Job := {
  id := 1, bookingId := 2, serviceId := 3, addressId := 4, status := .completed
  scheduledStart := 0, scheduledEnd := 1, vendorId := some 5, workerId := some 6 }

def financeWorld : World where
  db := {
    compensationPlans := ⟨[{
      id := 7, vendorId := 5, method := .percentage, percentageBps := some 8000, holdDays := 0
      effectiveFrom := 0 }], by decide⟩ }

/-- The earning 9 is recognized and batched, and the batch 10 approved. -/
def batchApproved : List Op :=
  [.recognize repair 10000 0 "USD" 0 8 9,
   .release 1 [],
   .createBatch "USD" none (some 11) 2 [] 10 "PAY-1",
   .approve 10 12 3]

def transferred : GatewayAnswer := .transferred { transferId := "tr_1", status := "processing" }

end Breero.Finance
