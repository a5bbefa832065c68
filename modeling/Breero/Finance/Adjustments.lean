import Breero.Finance.Links

/-!
The adjustments of an earning, its running total and its status.

* `KeyOnce` is what a step does to the adjustments: a key that is there changes nothing, a new
  one adds its row;
* `TotalExact` and `StatusExact` are the law about the states: the total is the sum of the
  rows, and the earning is REVERSED when nothing of it is payable;
* `Ledger.adjustments_exact_iff`: the statuses are exact in the runs that recognize no earning of
  nothing and raise no reversed earning above zero but by a dispute. The totals always are.
-/

namespace Breero.Finance
open KeyedTable Transaction Locks Runs

/-! ## The law -/

/-- The sum of the adjustments of an earning. -/
def adjustmentSum (db : Db) (earningId : Uuid) : Int :=
  ((db.adjustments.rows.filter fun a => a.earningId = earningId).map
    EarningAdjustment.amountMinor).sum

def TotalExact (db : Db) (earning : VendorEarning) : Prop :=
  earning.adjustmentTotalMinor = adjustmentSum db earning.id

def StatusExact (earning : VendorEarning) : Prop :=
  earning.status = .reversed ↔ earning.payableMinor ≤ 0

instance (db : Db) (earning : VendorEarning) : Decidable (TotalExact db earning) :=
  inferInstanceAs (Decidable (_ = _))

instance : DecidablePred StatusExact := fun _ => inferInstanceAs (Decidable (_ ↔ _))

def AdjustCommand.row (command : AdjustCommand) (earningId : Uuid) : EarningAdjustment := {
  earningId
  adjustmentType := command.adjustmentType
  amountMinor := command.amountMinor
  reason := command.reason
  idempotencyKey := command.idempotencyKey
  actorId := command.actorId }

namespace Ledger

/-- What becomes of the adjustments at a step. -/
def KeyOnce (w w' : Ledger) (op : Op) : Prop :=
  Table.Kept Eq w.db.adjustments w'.db.adjustments ∧
    match op with
    | .commit position _ _ _ =>
      ∀ earning command, w.opened[position]? = some (.adjust earning command) →
        match w.db.adjustments.get? (earning.id, command.idempotencyKey) with
        | some _ => w'.db = w.db
        | none => w'.db.adjustments.rows = w.db.adjustments.rows ++ [command.row earning.id]
    | _ => w'.db.adjustments = w.db.adjustments

def Exact (w : Ledger) : Prop :=
  ∀ e ∈ w.db.earnings.rows, TotalExact w.db e ∧ StatusExact e

instance : DecidablePred Exact := fun w =>
  inferInstanceAs (Decidable (∀ e ∈ w.db.earnings.rows, _))

/-- The step recognizes no earning of nothing, and raises no reversed earning above zero but by
a dispute. -/
def Reverses (w : Ledger) : Op → Prop
  | .recognize job grossMinor feeMinor currency now snapshotId earningId =>
    (recognizeEarning w.db job grossMinor feeMinor currency now snapshotId earningId).isOk →
      (∀ other ∈ w.db.earnings.rows, other.jobId ≠ job.id) →
      compensation w.db job grossMinor now ≠ some 0
  | .commit position _ _ _ =>
    ∀ earning command, w.opened[position]? = some (.adjust earning command) →
      w.db.adjustments.get? (earning.id, command.idempotencyKey) = none →
      earning.status = .reversed → 0 < earning.payableMinor + command.amountMinor →
      command.adjustmentType = .dispute
  | _ => True

/-! ## The invariant -/

structure AdjustInv (w : Ledger) : Prop extends Coherent w where
  owned : ∀ a ∈ w.db.adjustments.rows, ∃ e, w.db.earnings.get? a.earningId = some e
  total : ∀ e ∈ w.db.earnings.rows, TotalExact w.db e

variable {w w' : Ledger} {op : Op}

/-! ## One adjustment -/

theorem adjusted_total (e : VendorEarning) (amountMinor : Int) (adjustmentType : AdjustmentType) :
    (Finance.adjusted e amountMinor adjustmentType).adjustmentTotalMinor =
      e.adjustmentTotalMinor + amountMinor := by
  unfold Finance.adjusted
  dsimp only
  split
  · rfl
  · split <;> rfl

theorem adjusted_payable (e : VendorEarning) (amountMinor : Int)
    (adjustmentType : AdjustmentType) :
    (Finance.adjusted e amountMinor adjustmentType).payableMinor =
      e.payableMinor + amountMinor := by
  have hnet : (Finance.adjusted e amountMinor adjustmentType).netMinor = e.netMinor := by
    unfold Finance.adjusted
    dsimp only
    split
    · rfl
    · split <;> rfl
  rw [VendorEarning.payableMinor, hnet, adjusted_total, VendorEarning.payableMinor, Int.add_assoc]

/-- The status that an adjustment leaves. -/
theorem adjusted_reversed_iff (e : VendorEarning) (amountMinor : Int)
    (adjustmentType : AdjustmentType) :
    (Finance.adjusted e amountMinor adjustmentType).status = .reversed ↔
      e.payableMinor + amountMinor ≤ 0 ∨
        (e.status = .reversed ∧ adjustmentType ≠ .dispute) := by
  have hpayable : ({ e with adjustmentTotalMinor := e.adjustmentTotalMinor + amountMinor } :
      VendorEarning).payableMinor = e.payableMinor + amountMinor := by
    simp only [VendorEarning.payableMinor]
    omega
  unfold Finance.adjusted
  dsimp only
  rw [hpayable]
  split
  · next hle => simp [hle]
  · next hle =>
    split
    · next hdispute => simp [hle, hdispute]
    · next hdispute => simp [hle, hdispute]

/-- Whether an adjustment keeps the status exact. -/
theorem statusExact_adjusted (e : VendorEarning) (amountMinor : Int)
    (adjustmentType : AdjustmentType) :
    StatusExact (Finance.adjusted e amountMinor adjustmentType) ↔
      (e.status = .reversed → 0 < e.payableMinor + amountMinor → adjustmentType = .dispute) := by
  rw [StatusExact, adjusted_payable, adjusted_reversed_iff]
  constructor
  · intro hexact hreversed hpositive
    by_contra hdispute
    have hle := hexact.mp (Or.inr ⟨hreversed, hdispute⟩)
    omega
  · intro hdispute
    refine ⟨fun hor => ?_, Or.inl⟩
    rcases hor with hle | ⟨hreversed, htype⟩
    · exact hle
    · by_contra hpositive
      exact htype (hdispute hreversed (by omega))

theorem adjustmentSum_eq (db : Db) (earningId : Uuid) :
    adjustmentSum db earningId = db.adjustments.total fun a =>
      if a.earningId = earningId then a.amountMinor else 0 := by
  unfold adjustmentSum
  rw [Table.total_filter]
  simp only [decide_eq_true_eq]

theorem adjustmentSum_insert (db db' : Db) {a : EarningAdjustment}
    (h : db.adjustments.insert? a = some db'.adjustments) (earningId : Uuid) :
    adjustmentSum db' earningId =
      adjustmentSum db earningId + if a.earningId = earningId then a.amountMinor else 0 := by
  rw [adjustmentSum_eq, adjustmentSum_eq, Table.total_insert _ h]

theorem adjustmentSum_congr {db db' : Db} (h : db'.adjustments = db.adjustments)
    (earningId : Uuid) : adjustmentSum db' earningId = adjustmentSum db earningId := by
  rw [adjustmentSum, h, ← adjustmentSum]

/-- An earning without adjustments. -/
theorem AdjustInv.sum_fresh (h : AdjustInv w) {earningId : Uuid}
    (hfresh : w.db.earnings.get? earningId = none) : adjustmentSum w.db earningId = 0 := by
  have hnone : (w.db.adjustments.rows.filter fun a => a.earningId = earningId) = [] := by
    refine List.filter_eq_nil_iff.mpr fun a ha => ?_
    obtain ⟨e, he⟩ := h.owned a ha
    rw [decide_eq_true_eq]
    rintro rfl
    rw [hfresh] at he
    cases he
  rw [adjustmentSum, hnone]
  rfl

/-! ## Steps -/

theorem madeAvailable_total (rows : List VendorEarning) (e : VendorEarning) :
    (madeAvailable rows e).adjustmentTotalMinor = e.adjustmentTotalMinor := by
  unfold madeAvailable
  split <;> rfl

theorem batched_total (picked : VendorEarning → Bool) (batchId : Uuid) (e : VendorEarning) :
    (Finance.batched picked batchId e).adjustmentTotalMinor = e.adjustmentTotalMinor := by
  unfold Finance.batched
  split <;> rfl

/-- An update that keeps the totals. -/
theorem AdjustInv.update (h : AdjustInv w) (hcoherent : Coherent w')
    {f : VendorEarning → VendorEarning} (hf : ∀ e, key (f e) = key e)
    (htotal : ∀ e, (f e).adjustmentTotalMinor = e.adjustmentTotalMinor)
    (hearnings : w'.db.earnings = w.db.earnings.update f hf)
    (hadjustments : w'.db.adjustments = w.db.adjustments) : AdjustInv w' where
  toCoherent := hcoherent
  owned a ha := by
    obtain ⟨e, he⟩ := h.owned a (hadjustments ▸ ha)
    exact ⟨f e, by rw [hearnings, Table.get?_update, he, Option.map_some]⟩
  total e' he' := by
    rw [hearnings] at he'
    obtain ⟨e, he, rfl⟩ := source_update hf he'
    have hid : (f e).id = e.id := hf e
    rw [TotalExact, htotal, hid, adjustmentSum_congr hadjustments]
    exact h.total e he

theorem AdjustInv.of_db (h : AdjustInv w) (hcoherent : Coherent w')
    (hdb : w'.db = w.db) : AdjustInv w' where
  toCoherent := hcoherent
  owned := hdb ▸ h.owned
  total := hdb ▸ h.total

theorem Step.adjustInv (hstep : Step w op w') (h : AdjustInv w) : AdjustInv w' := by
  have hcoherent := hstep.coherent h.toCoherent
  cases hstep with
  | unchanged => exact h
  | ended => exact h.of_db hcoherent rfl
  | opened => exact h.of_db hcoherent rfl
  | @recognized job grossMinor feeMinor currency now snapshotId earningId earning snapshots
      earnings recognized =>
    refine ⟨hcoherent, fun a ha => ?_, fun e he => ?_⟩
    · obtain ⟨e, he⟩ := h.owned a ha
      exact ⟨e, Table.get?_insert_of_some recognized.inserted he⟩
    · rcases (Table.mem_insert recognized.inserted).mp he with hold | rfl
      · exact h.total e hold
      · have hfresh := Table.get?_eq_none.mpr fun _ => Table.key_fresh recognized.inserted
        rw [TotalExact, recognized.total]
        exact (h.sum_fresh hfresh).symm
  | released hat => exact h.update hcoherent (madeAvailable_key _) (madeAvailable_total _) rfl rfl
  | @adjusted _ _ _ _ earning stored command adjustments auditLogs hat fresh inserted found =>
    have hsame : stored = earning := h.adjusts hat found
    rw [hsame] at found
    have hid : (Finance.adjusted earning command.amountMinor command.adjustmentType).id =
        earning.id := adjusted_key _ _ _
    simp only [hsame, writeAdjusted_read] at hcoherent ⊢
    have hsum := adjustmentSum_insert w.db { w.db with adjustments } inserted
    refine ⟨hcoherent, fun a ha => ?_, fun e' he' => ?_⟩
    · have howned : ∃ e, w.db.earnings.get? a.earningId = some e := by
        rcases (Table.mem_insert inserted).mp ha with hold | rfl
        · exact h.owned a hold
        · exact ⟨earning, found⟩
      obtain ⟨e, he⟩ := howned
      obtain ⟨e', he', _⟩ := Table.get?_put_of_some he
      exact ⟨e', he'⟩
    · have hsum' : ∀ id, adjustmentSum { w.db with
          adjustments, earnings := w.db.earnings.put
            (Finance.adjusted earning command.amountMinor command.adjustmentType), auditLogs } id =
          adjustmentSum w.db id + if earning.id = id then command.amountMinor else 0 := hsum
      rcases Table.mem_put.mp he' with ⟨rfl, _⟩ | ⟨hold, hne⟩
      · rw [TotalExact, hsum', hid, if_pos rfl, adjusted_total]
        rw [h.total earning (Table.mem_of_get? found)]
      · have hother : earning.id ≠ e'.id := fun heq => hne (heq.symm.trans hid.symm)
        rw [TotalExact, hsum', if_neg hother, Int.add_zero]
        exact h.total e' hold
  | @batched position now batchId reference rows currency actorId batches auditLogs hat =>
    exact h.update hcoherent (batched_key _ _) (batched_total _ _) rfl rfl

/-! ## The commit of an adjustment -/

theorem finish_replayed {db : Db} {earning : VendorEarning} {command : AdjustCommand}
    {existing : EarningAdjustment} (now : Instant) (batchId : Uuid) (reference : String)
    (hold : db.adjustments.get? (earning.id, command.idempotencyKey) = some existing) :
    finish db now batchId reference (.adjust earning command) = db := by
  simp only [finish, finishAdjust, hold]
  rfl

theorem finish_fresh (h : Coherent w) {position : Nat} {earning : VendorEarning}
    {command : AdjustCommand} (hat : w.opened[position]? = some (.adjust earning command))
    (hfresh : w.db.adjustments.get? (earning.id, command.idempotencyKey) = none) (now : Instant)
    (batchId : Uuid) (reference : String) :
    w.db.earnings.get? earning.id = some earning ∧ ∃ adjustments auditLogs,
      w.db.adjustments.insert? (command.row earning.id) = some adjustments ∧
      finish w.db now batchId reference (.adjust earning command) = { w.db with
        adjustments
        earnings := w.db.earnings.put
          (Finance.adjusted earning command.amountMinor command.adjustmentType)
        auditLogs } := by
  have hstored : w.db.earnings.get? earning.id = some earning :=
    (h.consistent _ (List.mem_of_getElem? hat)).stored earning (List.mem_singleton.mpr rfl)
  obtain ⟨adjustments, hinsert⟩ := Table.insert?_fresh (a := command.row earning.id) hfresh
  have hrow : w.db.adjustments.insert? {
      earningId := earning.id
      adjustmentType := command.adjustmentType
      amountMinor := command.amountMinor
      reason := command.reason
      idempotencyKey := command.idempotencyKey
      actorId := command.actorId } = some adjustments := hinsert
  have hcommitted : (finishAdjust w.db earning command now).isOk := by
    simp [finishAdjust, hfresh, hrow, hstored, orRaise, bind, Except.bind, pure, Except.pure,
      Except.isOk, Except.toBool]
  obtain ⟨db', adjustment, hresult⟩ := eq_ok_of_isOk hcommitted
  have hfinish : finish w.db now batchId reference (.adjust earning command) = db' :=
    commit_ok hresult
  simp only [finishAdjust, hfresh, hrow, hstored, orRaise, seq_committed, return_committed,
    Except.ok.injEq, Prod.mk.injEq, exists_eq_left', writeAdjusted_read] at hresult
  exact ⟨hstored, adjustments, _, hinsert, hfinish.trans hresult.1.symm⟩

theorem Step.adjustmentsKept (hstep : Step w op w') :
    Table.Kept Eq w.db.adjustments w'.db.adjustments := by
  cases hstep with
  | adjusted adjustments auditLogs hat fresh inserted => exact .insert inserted fun _ => rfl
  | _ => exact .of_eq rfl fun _ => rfl

theorem exec_keyOnce (settings : Settings) (h : Coherent w) (op : Op) :
    KeyOnce w (exec settings w op) op := by
  refine ⟨(exec_step settings w op).adjustmentsKept, ?_⟩
  cases op with
  | recognize job grossMinor feeMinor currency now snapshotId earningId =>
    have hstep := exec_step settings w
      (.recognize job grossMinor feeMinor currency now snapshotId earningId)
    generalize exec settings w (.recognize ..) = w' at hstep ⊢
    cases hstep <;> rfl
  | commit position now batchId reference =>
    intro earning command hat
    simp only [exec, hat]
    split
    · next existing hold => exact finish_replayed now batchId reference hold
    · next hfresh =>
      obtain ⟨_, adjustments, auditLogs, hinsert, hfinish⟩ :=
        finish_fresh h hat hfresh now batchId reference
      rw [hfinish]
      exact (Table.insert?_eq_some.mp hinsert).2
  | release now passed =>
    simp only [exec]
    split <;> rfl
  | adjust earningId command =>
    simp only [exec]
    split
    · rfl
    · split <;> rfl
  | createBatch currency vendorId actorId now passed =>
    simp only [exec]
    split <;> rfl
  | abort position => rfl

/-! ## The statuses -/

theorem statusExact_released {e : VendorEarning} (h : StatusExact e)
    (hstatus : e.status = .pending ∨ e.status = .available) {e' : VendorEarning}
    (hpayable : e'.payableMinor = e.payableMinor) (hlive : e'.status ≠ .reversed) :
    StatusExact e' := by
  have hpositive : ¬ e.payableMinor ≤ 0 := by
    intro hle
    have hreversed := h.mpr hle
    rcases hstatus with hpending | havailable
    · simp [hpending] at hreversed
    · simp [havailable] at hreversed
  rw [StatusExact, hpayable]
  exact iff_of_false hlive hpositive

/-- A step within the condition keeps the statuses exact. -/
theorem Step.statusExact (hstep : Step w op w') (h : Coherent w)
    (hexact : ∀ e ∈ w.db.earnings.rows, StatusExact e) (hreverses : Reverses w op) :
    ∀ e ∈ w'.db.earnings.rows, StatusExact e := by
  cases hstep with
  | unchanged => exact hexact
  | ended => exact hexact
  | opened => exact hexact
  | @recognized job grossMinor feeMinor currency now snapshotId earningId earning snapshots
      earnings recognized committed =>
    intro e he
    rcases (Table.mem_insert recognized.inserted).mp he with hold | rfl
    · exact hexact e hold
    · have hnet : e.netMinor ≠ 0 := by
        intro hzero
        exact hreverses committed recognized.first (recognized.net.trans (congrArg some hzero))
      have hpositive := recognized.positive
      rw [StatusExact, recognized.status, VendorEarning.payableMinor, recognized.total]
      refine iff_of_false (by simp) (by omega)
  | @released position now batchId reference rows hat =>
    have hread := h.consistent _ (List.mem_of_getElem? hat)
    intro e' he'
    obtain ⟨e, he, rfl⟩ := source_update (madeAvailable_key rows) he'
    cases hof : isOf rows e with
    | true =>
      have hpending := hread.pending rows rfl e (mem_of_isOf hread he hof)
      rw [madeAvailable, if_pos hof]
      exact statusExact_released (hexact e he) (Or.inl hpending) rfl (by simp)
    | false =>
      rw [madeAvailable, if_neg (by simp [hof])]
      exact hexact e he
  | @adjusted position now batchId reference earning stored command adjustments auditLogs hat fresh
      inserted found =>
    have hsame : stored = earning := h.adjusts hat found
    intro e he
    rw [hsame, writeAdjusted_read] at he
    rcases Table.mem_put.mp he with ⟨rfl, _⟩ | ⟨hold, _⟩
    · exact (statusExact_adjusted _ _ _).mpr (hreverses earning command hat fresh)
    · exact hexact e hold
  | @batched position now batchId reference rows currency actorId batches auditLogs hat =>
    have hread := h.consistent _ (List.mem_of_getElem? hat)
    intro e' he'
    obtain ⟨e, he, rfl⟩ := source_update (batched_key _ _) he'
    cases hof : isOf rows e with
    | true =>
      have havailable := hread.available _ _ _ rfl e (mem_of_isOf hread he hof)
      refine statusExact_released (hexact e he) (Or.inr havailable) (batched_payable _ _ _) ?_
      simp [batched_of_picked hof]
    | false =>
      rw [batched_of_not hof]
      exact hexact e he

/-- A step that leaves the statuses exact is within the condition. -/
theorem reverses_of_exact (settings : Settings) (h : Coherent w)
    (hexact : ∀ e ∈ (exec settings w op).db.earnings.rows, StatusExact e) : Reverses w op := by
  cases op with
  | recognize job grossMinor feeMinor currency now snapshotId earningId =>
    intro hcommitted hfirst hzero
    obtain ⟨db', earning, hresult⟩ := eq_ok_of_isOk hcommitted
    simp only [exec, commit_ok hresult] at hexact
    rcases recognizeEarning_new hresult with ⟨_, other, hother, hjob⟩ | ⟨_, earnings, hnew, rfl⟩
    · exact hfirst other hother hjob
    · have hearning := hexact earning ((Table.mem_insert hnew.inserted).mpr (Or.inr rfl))
      have hnet : earning.netMinor = 0 := Option.some.inj (hnew.net.symm.trans hzero)
      rw [StatusExact, hnew.status, VendorEarning.payableMinor, hnew.total, hnet] at hearning
      simp at hearning
  | commit position now batchId reference =>
    intro earning command hat hfresh
    obtain ⟨hstored, adjustments, auditLogs, _, hfinish⟩ :=
      finish_fresh h hat hfresh now batchId reference
    simp only [exec, hat, hfinish] at hexact
    refine (statusExact_adjusted earning _ _).mp (hexact _ ?_)
    exact Table.mem_put_self (Table.mem_of_get? hstored) (adjusted_key _ _ _).symm
  | release | adjust | createBatch | abort => trivial

/-! ## Runs -/

/-- A database whose earnings follow the law, to start from. -/
structure Settled (db : Db) : Prop where
  owned : ∀ a ∈ db.adjustments.rows, ∃ e, db.earnings.get? a.earningId = some e
  exact : ∀ e ∈ db.earnings.rows, TotalExact db e ∧ StatusExact e

theorem Settled.adjustInv {db : Db} (h : Settled db) : AdjustInv { db } where
  exclusive := List.Pairwise.nil
  consistent _ htxn := absurd htxn List.not_mem_nil
  owned := h.owned
  total e he := (h.exact e he).1

/-- The adjustments of a run are the ledger of its totals, each key once; the statuses are those
of the payable amounts if and only if every step is within the condition. -/
theorem adjustments_exact_iff (settings : Settings) (db : Db) (ops : List Op)
    (hstart : Settled db) :
    (Along (exec settings) (fun w op => KeyOnce w (exec settings w op) op) { db } ops ∧
        Always (exec settings) Exact { db } ops) ↔
      Along (exec settings) Reverses { db } ops := by
  have hsteps : Along (exec settings) (fun _ _ => True) { db } ops :=
    along_of_forall fun _ _ => trivial
  have hinv : ∀ (w : Ledger) (op : Op), AdjustInv w → AdjustInv (exec settings w op) :=
    fun w op => (exec_step settings w op).adjustInv
  constructor
  · rintro ⟨_, hexact⟩
    exact along_of_always_inv (I := AdjustInv) (fun w op h _ => hinv w op h)
      (fun w op h hafter => reverses_of_exact settings h.toCoherent fun e he => (hafter e he).2)
      hstart.adjustInv hexact
  · intro hreverses
    refine ⟨Along.imp (fun w op h _ => hinv w op h)
      (fun w op h _ => exec_keyOnce settings h.toCoherent op) hstart.adjustInv hsteps, ?_⟩
    have hboth : Always (exec settings)
        (fun w => AdjustInv w ∧ ∀ e ∈ w.db.earnings.rows, StatusExact e) { db } ops := by
      refine always_of_inv (fun w op h hstep => ⟨hinv w op h.1, ?_⟩)
        ⟨hstart.adjustInv, fun e he => (hstart.exact e he).2⟩ hreverses
      exact (exec_step settings w op).statusExact h.1.toCoherent h.2 hstep
    exact hboth.imp fun w h e he => ⟨h.1.total e he, h.2 e he⟩

/-- The earning 9 is refunded in full, and a part of the refund taken back. -/
def refundTakenBack : List Op :=
  [.recognize repair 10000 0 "USD" 0 8 9,
   .adjust 9 {
     amountMinor := -8000, adjustmentType := .refund, reason := "refunded"
     idempotencyKey := "refund", actorId := some 11 },
   .commit 0 1 0 "",
   .adjust 9 {
     amountMinor := 3000, adjustmentType := .manual, reason := "refund taken back"
     idempotencyKey := "correction", actorId := some 11 },
   .commit 0 2 0 ""]

theorem refundTakenBack_settled : Settled financeWorld.db := by
  constructor <;> simp [financeWorld, Table.empty]

theorem refundTakenBack_exact_iff :
    (Along (exec sampleSettings) (fun w op => KeyOnce w (exec sampleSettings w op) op)
          { db := financeWorld.db } refundTakenBack ∧
        Always (exec sampleSettings) Exact { db := financeWorld.db } refundTakenBack) ↔
      Along (exec sampleSettings) Reverses { db := financeWorld.db } refundTakenBack :=
  adjustments_exact_iff sampleSettings financeWorld.db refundTakenBack refundTakenBack_settled

/-- 3000 of the earning are payable, and it is reversed. -/
theorem refundTakenBack_not_exact :
    Settled financeWorld.db ∧
      ¬ (Along (exec sampleSettings) (fun w op => KeyOnce w (exec sampleSettings w op) op)
            { db := financeWorld.db } refundTakenBack ∧
          Always (exec sampleSettings) Exact { db := financeWorld.db } refundTakenBack) := by
  refine ⟨refundTakenBack_settled, fun h => ?_⟩
  exact absurd h.2 (by decide)

end Ledger

end Breero.Finance
