import Breero.Finance.Effects

/-!
The amount of a transfer and the earnings it pays.

* `BatchInv` is the invariant: a batch that may still be sent totals the earnings
  linked to it, and all of them are BATCHED;
* `transfers_exact`: at every call of the provider the amount sent is what the batch's
  earnings come to, in the runs that adjust no earning of a batch still to be sent;
* `adjusted_batch_overpays` is a run that adjusts one.
-/

namespace Breero.Finance
open KeyedTable Transaction Runs

/-! ## Linked earnings -/

def linked (db : Db) (batchId : Uuid) : List VendorEarning :=
  db.earnings.rows.filter (fun e => e.payoutBatchId = some batchId)

/-- The payable amount of the earnings linked to a batch. -/
def linkedTotal (db : Db) (batchId : Uuid) : Int :=
  ((linked db batchId).map VendorEarning.payableMinor).sum

/-- If the step calls the provider, it sends what the batch's earnings come to, and none
of them is held or reversed. -/
def ExactTransfer (w : World) : Op → Prop
  | .transfer i _ => ∀ s ∈ w.submissions[i]?, s.answer = none →
      s.transfer.amountMinor = linkedTotal w.db s.batch.id ∧
      ∀ e ∈ linked w.db s.batch.id, e.status ≠ .held ∧ e.status ≠ .reversed
  | _ => True

/-- The batch has no transfer yet, or a submission of it is yet to call the provider. -/
def ToBeSent (w : World) (batchId : Uuid) : Prop :=
  (∃ row ∈ w.db.batches.get? batchId, row.providerTransferId = none) ∨
    ∃ s ∈ w.submissions, s.batch.id = batchId ∧ s.answer = none

/-- The step adjusts no earning of a batch still to be sent, unless the adjustment
leaves its payable amount and its status as they are. -/
def AdjustsUnsent (w : World) : Op → Prop
  | .adjust earningId amountMinor adjustmentType _ key _ _ =>
    w.db.adjustments.get? (earningId, key) = none →
      ∀ e ∈ w.db.earnings.get? earningId, ∀ b ∈ e.payoutBatchId, ToBeSent w b →
        amountMinor = 0 ∧ 0 < e.payableMinor ∧ adjustmentType ≠ .dispute
  | _ => True

instance (w : World) (batchId : Uuid) : Decidable (ToBeSent w batchId) :=
  inferInstanceAs (Decidable (_ ∨ ∃ s ∈ w.submissions, _))

instance (w : World) : DecidablePred (AdjustsUnsent w)
  | .adjust earningId amountMinor adjustmentType _ key _ _ =>
    inferInstanceAs (Decidable (w.db.adjustments.get? (earningId, key) = none →
      ∀ e ∈ w.db.earnings.get? earningId, ∀ b ∈ e.payoutBatchId, ToBeSent w b →
        amountMinor = 0 ∧ 0 < e.payableMinor ∧ adjustmentType ≠ .dispute))
  | .recognize .. | .release .. | .createBatch .. | .approve .. | .submit .. | .transfer ..
  | .finish .. => isTrue trivial

instance (w : World) : DecidablePred (ExactTransfer w)
  | .transfer i _ => inferInstanceAs (Decidable (∀ s ∈ w.submissions[i]?, s.answer = none →
      s.transfer.amountMinor = linkedTotal w.db s.batch.id ∧
      ∀ e ∈ linked w.db s.batch.id, e.status ≠ .held ∧ e.status ≠ .reversed))
  | .recognize .. | .release .. | .adjust .. | .createBatch .. | .approve .. | .submit ..
  | .finish .. => isTrue trivial

/-- What an earning adds to the total of a batch. -/
def share (batchId : Uuid) (e : VendorEarning) : Int :=
  if e.payoutBatchId = some batchId then e.payableMinor else 0

theorem linkedTotal_eq (db : Db) (batchId : Uuid) :
    linkedTotal db batchId = db.earnings.total (share batchId) := by
  unfold linkedTotal linked
  rw [Table.total_filter]
  simp only [decide_eq_true_eq]
  rfl

theorem share_of_unlinked {e : VendorEarning} (h : e.payoutBatchId = none) (batchId : Uuid) :
    share batchId e = 0 := by
  simp [share, h]

theorem share_released (now : Instant) (locked : List Uuid) (batchId : Uuid) (e : VendorEarning) :
    share batchId (released now locked e) = share batchId e := by
  unfold released
  split
  · rfl
  · rfl

/-! ## Adjustments -/

theorem adjusted_key (e : VendorEarning) (amountMinor : Int) (adjustmentType : AdjustmentType) :
    key (adjusted e amountMinor adjustmentType) = key e := by
  unfold adjusted
  dsimp only
  split
  · rfl
  · split <;> rfl

theorem adjusted_link (e : VendorEarning) (amountMinor : Int) (adjustmentType : AdjustmentType) :
    (adjusted e amountMinor adjustmentType).payoutBatchId = e.payoutBatchId := by
  unfold adjusted
  dsimp only
  split
  · rfl
  · split <;> rfl

theorem adjusted_status (e : VendorEarning) (amountMinor : Int) (adjustmentType : AdjustmentType) :
    (adjusted e amountMinor adjustmentType).status = .reversed ∨
      (adjusted e amountMinor adjustmentType).status = .held ∨
      (adjusted e amountMinor adjustmentType).status = e.status := by
  unfold adjusted
  dsimp only
  split
  · exact Or.inl rfl
  · split
    · exact Or.inr (Or.inl rfl)
    · exact Or.inr (Or.inr rfl)

/-- An adjustment of nothing that is no dispute. -/
theorem adjusted_zero {e : VendorEarning} {adjustmentType : AdjustmentType}
    (hpayable : 0 < e.payableMinor) (htype : adjustmentType ≠ .dispute) :
    adjusted e 0 adjustmentType = e := by
  unfold adjusted
  simp only [Int.add_zero]
  have hpositive : ¬ e.payableMinor ≤ 0 := by omega
  exact (if_neg hpositive).trans (if_neg htype)

/-! ## The invariant -/

structure BatchInv (w : World) : Prop where
  submitted : ∀ s ∈ w.submissions, ∃ row, w.db.batches.get? s.batch.id = some row ∧
    row.totalMinor = s.batch.totalMinor
  linkedBatch : ∀ e ∈ w.db.earnings.rows, ∀ b, e.payoutBatchId = some b →
    ∃ row, w.db.batches.get? b = some row
  unlinked : ∀ e ∈ w.db.earnings.rows, e.status = .pending ∨ e.status = .available →
    e.payoutBatchId = none
  exact : ∀ row ∈ w.db.batches.rows, ToBeSent w row.id →
    row.totalMinor = w.db.earnings.total (share row.id)
  allBatched : ∀ e ∈ w.db.earnings.rows, ∀ b, e.payoutBatchId = some b → ToBeSent w b →
    e.status = .batched

theorem toBeSent_congr {w w' : World} (hbatches : w'.db.batches = w.db.batches)
    (hsubmissions : w'.submissions = w.submissions) (batchId : Uuid) :
    ToBeSent w' batchId ↔ ToBeSent w batchId := by
  unfold ToBeSent
  rw [hbatches, hsubmissions]

theorem BatchInv.exactTransfer {w : World} (h : BatchInv w) (op : Op) : ExactTransfer w op := by
  cases op with
  | transfer i answer =>
    intro s hs huncalled
    have hmem : s ∈ w.submissions := List.mem_of_getElem? hs
    have hsent : ToBeSent w s.batch.id := Or.inr ⟨s, hmem, rfl, huncalled⟩
    obtain ⟨row, hrow, htotal⟩ := h.submitted s hmem
    have hid : row.id = s.batch.id := Table.key_of_get? hrow
    constructor
    · rw [linkedTotal_eq, ← hid, ← h.exact row (Table.mem_of_get? hrow) (hid ▸ hsent)]
      exact htotal.symm
    · intro e he
      simp only [linked, List.mem_filter, decide_eq_true_eq] at he
      have hstatus := h.allBatched e he.1 _ he.2 hsent
      constructor <;> simp [hstatus]
  | _ => trivial

/-- A step on batches and submissions that keeps the totals and opens nothing. -/
theorem BatchInv.of_batches {w w' : World} (h : BatchInv w)
    (hearnings : w'.db.earnings = w.db.earnings)
    (hrows : ∀ row' ∈ w'.db.batches.rows, ∃ row ∈ w.db.batches.rows,
      row'.id = row.id ∧ row'.totalMinor = row.totalMinor)
    (hkept : Table.Kept (fun a b => b.totalMinor = a.totalMinor) w.db.batches w'.db.batches)
    (hsubmissions : ∀ s ∈ w'.submissions, ∃ row, w.db.batches.get? s.batch.id = some row ∧
      row.totalMinor = s.batch.totalMinor)
    (hsent : ∀ b, ToBeSent w' b → ToBeSent w b) : BatchInv w' where
  submitted s hs := by
    obtain ⟨row, hrow, htotal⟩ := hsubmissions s hs
    obtain ⟨row', hrow', hsame⟩ := hkept.get? hrow
    exact ⟨row', hrow', hsame.trans htotal⟩
  linkedBatch e he b hb := by
    obtain ⟨row, hrow⟩ := h.linkedBatch e (hearnings ▸ he) b hb
    obtain ⟨row', hrow', _⟩ := hkept.get? hrow
    exact ⟨row', hrow'⟩
  unlinked := by rw [hearnings]; exact h.unlinked
  exact row' hrow' hsent' := by
    obtain ⟨row, hrow, hid, htotal⟩ := hrows row' hrow'
    rw [hearnings, hid, htotal]
    exact h.exact row hrow (hid ▸ hsent _ hsent')
  allBatched e he b hb hsent' := h.allBatched e (hearnings ▸ he) b hb (hsent b hsent')

/-- A batch put back with its total, with its transfer if it has one. -/
theorem BatchInv.put_batch {w w' : World} {row row' : PayoutBatch} (h : BatchInv w)
    (hearnings : w'.db.earnings = w.db.earnings)
    (hbatches : w'.db.batches = w.db.batches.put row')
    (hrow : w.db.batches.get? row.id = some row) (hid : row'.id = row.id)
    (htotal : row'.totalMinor = row.totalMinor)
    (htransfer : row'.providerTransferId = none → row.providerTransferId = none)
    (hsubmissions : ∀ s ∈ w'.submissions, s ∈ w.submissions ∨
      (s.batch.id = row.id ∧ s.batch.totalMinor = row.totalMinor ∧
        row.providerTransferId = none)) : BatchInv w' := by
  refine h.of_batches hearnings (fun r hr => ?_) ?_ (fun s hs => ?_) (fun b hb => ?_)
  · rw [hbatches] at hr
    rcases Table.mem_put.mp hr with ⟨rfl, _⟩ | ⟨hr, _⟩
    · exact ⟨row, Table.mem_of_get? hrow, hid, htotal⟩
    · exact ⟨r, hr, rfl, rfl⟩
  · rw [hbatches]
    exact .put_found hrow hid htotal fun _ => rfl
  · rcases hsubmissions s hs with hs | ⟨hsid, hstotal, _⟩
    · exact h.submitted s hs
    · exact ⟨row, hsid ▸ hrow, hstotal.symm⟩
  · rcases hb with ⟨r, hr, hnone⟩ | ⟨s, hs, hsb, huncalled⟩
    · rw [hbatches] at hr
      rcases Table.get?_put_some hr with ⟨rfl, hkey⟩ | ⟨_, hold⟩
      · have hb : row.id = b := hid.symm.trans hkey
        exact Or.inl ⟨row, hb ▸ hrow, htransfer hnone⟩
      · exact Or.inl ⟨r, hold, hnone⟩
    · rcases hsubmissions s hs with hs | ⟨hsid, _, hnone⟩
      · exact Or.inr ⟨s, hs, hsb, huncalled⟩
      · exact Or.inl ⟨row, hsb ▸ hsid ▸ hrow, hnone⟩

theorem BatchInv.recognize {w w' : World} {e : VendorEarning} (h : BatchInv w)
    (hinsert : w.db.earnings.insert? e = some w'.db.earnings) (hunlinked : e.payoutBatchId = none)
    (hbatches : w'.db.batches = w.db.batches) (hsubmissions : w'.submissions = w.submissions) :
    BatchInv w' := by
  have hsent := toBeSent_congr hbatches hsubmissions
  -- a linked earning was there before
  have hlinked : ∀ e' ∈ w'.db.earnings.rows, ∀ b, e'.payoutBatchId = some b →
      e' ∈ w.db.earnings.rows := by
    intro e' he' b hb
    rcases (Table.mem_insert hinsert).mp he' with he' | rfl
    · exact he'
    · rw [hunlinked] at hb
      cases hb
  refine ⟨?_, fun e' he' b hb => ?_, fun e' he' hstatus => ?_, fun row hrow hs => ?_,
    fun e' he' b hb hs => ?_⟩
  · rw [hbatches, hsubmissions]
    exact h.submitted
  · rw [hbatches]
    exact h.linkedBatch e' (hlinked e' he' b hb) b hb
  · rcases (Table.mem_insert hinsert).mp he' with he' | rfl
    · exact h.unlinked e' he' hstatus
    · exact hunlinked
  · rw [Table.total_insert _ hinsert, share_of_unlinked hunlinked, Int.add_zero]
    exact h.exact row (hbatches ▸ hrow) ((hsent row.id).mp hs)
  · exact h.allBatched e' (hlinked e' he' b hb) b hb ((hsent b).mp hs)

theorem released_link (now : Instant) (locked : List Uuid) (e : VendorEarning) :
    (released now locked e).payoutBatchId = e.payoutBatchId := by
  unfold released
  split
  · rfl
  · rfl

/-- A released earning was pending, and the others are as they were. -/
theorem released_status (now : Instant) (locked : List Uuid) (e : VendorEarning) :
    (e.status = .pending ∧ (released now locked e).status = .available) ∨
      (released now locked e).status = e.status := by
  unfold released
  split
  · next heligible =>
    simp only [eligible, decide_eq_true_eq] at heligible
    exact Or.inl ⟨heligible.1, rfl⟩
  · exact Or.inr rfl

theorem BatchInv.release {w w' : World} {now : Instant} {locked : List Uuid} (h : BatchInv w)
    (hearnings : w'.db.earnings = w.db.earnings.update (released now locked)
      (released_key now locked))
    (hbatches : w'.db.batches = w.db.batches) (hsubmissions : w'.submissions = w.submissions) :
    BatchInv w' := by
  have hsent := toBeSent_congr hbatches hsubmissions
  refine ⟨?_, fun e' he' b hb => ?_, fun e' he' hstatus => ?_, fun row hrow hs => ?_,
    fun e' he' b hb hs => ?_⟩
  · rw [hbatches, hsubmissions]
    exact h.submitted
  · rw [hearnings] at he'
    obtain ⟨e, he, rfl⟩ := Table.mem_update.mp he'
    rw [hbatches]
    exact h.linkedBatch e he b (released_link now locked e ▸ hb)
  · rw [hearnings] at he'
    obtain ⟨e, he, rfl⟩ := Table.mem_update.mp he'
    rw [released_link]
    rcases released_status now locked e with ⟨hpending, _⟩ | hsame
    · exact h.unlinked e he (Or.inl hpending)
    · exact h.unlinked e he (hsame ▸ hstatus)
  · rw [hearnings, Table.total_update]
    simp only [share_released]
    exact h.exact row (hbatches ▸ hrow) ((hsent row.id).mp hs)
  · rw [hearnings] at he'
    obtain ⟨e, he, rfl⟩ := Table.mem_update.mp he'
    rw [released_link] at hb
    rcases released_status now locked e with ⟨hpending, _⟩ | hsame
    · rw [h.unlinked e he (Or.inl hpending)] at hb
      cases hb
    · rw [hsame]
      exact h.allBatched e he b hb ((hsent b).mp hs)

/-- An adjustment of an earning whose batch, if it has one, is sent. -/
theorem BatchInv.adjust {w w' : World} {e e' : VendorEarning} {earningId : Uuid} (h : BatchInv w)
    (hfound : w.db.earnings.get? earningId = some e)
    (hearnings : w'.db.earnings = w.db.earnings.put e') (hkey : key e' = key e)
    (hlink : e'.payoutBatchId = e.payoutBatchId)
    (hstatus : e'.status = .reversed ∨ e'.status = .held ∨ e'.status = e.status)
    (hunsent : ∀ b, e.payoutBatchId = some b → ToBeSent w b → e' = e)
    (hbatches : w'.db.batches = w.db.batches) (hsubmissions : w'.submissions = w.submissions) :
    BatchInv w' := by
  have hsent := toBeSent_congr hbatches hsubmissions
  have hmem := Table.mem_of_get? hfound
  have hget : w.db.earnings.get? (key e') = some e := hkey ▸ Table.get?_found hfound
  -- the earnings that may not change are the ones of a batch to be sent
  have hrow : ∀ r ∈ w'.db.earnings.rows, r = e' ∨ r ∈ w.db.earnings.rows := by
    intro r hr
    rw [hearnings] at hr
    rcases Table.mem_put.mp hr with ⟨rfl, _⟩ | ⟨hr, _⟩
    · exact Or.inl rfl
    · exact Or.inr hr
  refine ⟨?_, fun r hr b hb => ?_, fun r hr hpending => ?_, fun row hmemRow hs => ?_,
    fun r hr b hb hs => ?_⟩
  · rw [hbatches, hsubmissions]
    exact h.submitted
  · rw [hbatches]
    rcases hrow r hr with rfl | hr
    · exact h.linkedBatch e hmem b (hlink ▸ hb)
    · exact h.linkedBatch r hr b hb
  · rcases hrow r hr with rfl | hr
    · rw [hlink]
      rcases hstatus with hnew | hnew | hnew
      · simp [hnew] at hpending
      · simp [hnew] at hpending
      · exact h.unlinked e hmem (hnew ▸ hpending)
    · exact h.unlinked r hr hpending
  · have hsentRow := (hsent row.id).mp hs
    rw [hearnings, Table.total_put _ hget, ← h.exact row (hbatches ▸ hmemRow) hsentRow]
    have hshare : share row.id e' = share row.id e := by
      by_cases hof : e.payoutBatchId = some row.id
      · rw [hunsent row.id hof hsentRow]
      · simp [share, hlink, hof]
    omega
  · rcases hrow r hr with rfl | hr
    · have hsame := hunsent b (hlink ▸ hb) ((hsent b).mp hs)
      rw [hsame]
      exact h.allBatched e hmem b (hlink ▸ hb) ((hsent b).mp hs)
    · exact h.allBatched r hr b hb ((hsent b).mp hs)

theorem batched_of_picked {picked : VendorEarning → Bool} {batchId : Uuid} {e : VendorEarning}
    (h : picked e = true) :
    batched picked batchId e = { e with status := .batched, payoutBatchId := some batchId } := by
  unfold batched
  exact if_pos h

theorem batched_of_not {picked : VendorEarning → Bool} {batchId : Uuid} {e : VendorEarning}
    (h : picked e = false) : batched picked batchId e = e := by
  unfold batched
  exact if_neg (by simp [h])

/-- A new batch of available earnings, under an id that no batch has. -/
theorem BatchInv.create {w w' : World} {picked : VendorEarning → Bool} {batch : PayoutBatch}
    (h : BatchInv w) (hpicked : ∀ e, picked e = true → e.status = .available)
    (hinsert : w.db.batches.insert? batch = some w'.db.batches)
    (htotal : batch.totalMinor =
      ((w.db.earnings.rows.filter picked).map VendorEarning.payableMinor).sum)
    (hearnings : w'.db.earnings = w.db.earnings.update (batched picked batch.id)
      (batched_key picked batch.id))
    (hsubmissions : w'.submissions = w.submissions) : BatchInv w' := by
  have hfresh : ∀ e ∈ w.db.earnings.rows, e.payoutBatchId ≠ some batch.id := by
    intro e he hb
    obtain ⟨row, hrow⟩ := h.linkedBatch e he batch.id hb
    exact Table.key_fresh hinsert (Table.mem_of_get? hrow) (Table.key_of_get? hrow)
  have hsent : ∀ b, b ≠ batch.id → ToBeSent w' b → ToBeSent w b := by
    intro b hb hs
    unfold ToBeSent at hs
    rw [hsubmissions, Table.get?_insert_ne hinsert (Ne.symm hb)] at hs
    exact hs
  have hunlinked : ∀ e ∈ w.db.earnings.rows, picked e = true → e.payoutBatchId = none :=
    fun e he hp => h.unlinked e he (Or.inr (hpicked e hp))
  refine ⟨fun s hs => ?_, fun e' he' b hb => ?_, fun e' he' hstatus => ?_,
    fun row hrow hs => ?_, fun e' he' b hb hs => ?_⟩
  · obtain ⟨row, hrow, hsame⟩ := h.submitted s (hsubmissions ▸ hs)
    exact ⟨row, Table.get?_insert_of_some hinsert hrow, hsame⟩
  · rw [hearnings] at he'
    obtain ⟨e, he, rfl⟩ := Table.mem_update.mp he'
    cases hp : picked e with
    | true =>
      rw [batched_of_picked hp] at hb
      exact ⟨batch, (Option.some.inj hb) ▸ Table.get?_insert_self hinsert⟩
    | false =>
      rw [batched_of_not hp] at hb
      obtain ⟨row, hrow⟩ := h.linkedBatch e he b hb
      exact ⟨row, Table.get?_insert_of_some hinsert hrow⟩
  · rw [hearnings] at he'
    obtain ⟨e, he, rfl⟩ := Table.mem_update.mp he'
    cases hp : picked e with
    | true =>
      rw [batched_of_picked hp] at hstatus
      simp at hstatus
    | false =>
      rw [batched_of_not hp] at hstatus ⊢
      exact h.unlinked e he hstatus
  · rw [hearnings, Table.total_update]
    rcases (Table.mem_insert hinsert).mp hrow with hrow | rfl
    · -- an old batch gains nothing: what was picked was not linked
      have hne : row.id ≠ batch.id := Table.key_fresh hinsert hrow
      rw [h.exact row hrow (hsent row.id hne hs)]
      refine Table.total_congr fun e he => ?_
      cases hp : picked e with
      | true =>
        rw [batched_of_picked hp, share_of_unlinked (hunlinked e he hp)]
        simp [share, Ne.symm hne]
      | false => rw [batched_of_not hp]
    · rw [htotal, Table.total_filter]
      refine Table.total_congr fun e he => ?_
      cases hp : picked e with
      | true =>
        rw [batched_of_picked hp]
        simp [share, VendorEarning.payableMinor]
      | false =>
        rw [batched_of_not hp]
        simp [share, hfresh e he]
  · rw [hearnings] at he'
    obtain ⟨e, he, rfl⟩ := Table.mem_update.mp he'
    cases hp : picked e with
    | true => rw [batched_of_picked hp]
    | false =>
      rw [batched_of_not hp] at hb ⊢
      have hne : b ≠ batch.id := fun heq => hfresh e he (heq ▸ hb)
      exact h.allBatched e he b hb (hsent b hne hs)

/-! ## Steps -/

theorem Step.batchInv {w w' : World} {op : Op} (hstep : Step w op w') (hsubmit : SubmitInv w)
    (h : BatchInv w) (hunsent : AdjustsUnsent w op) : BatchInv w' := by
  cases hstep with
  | same => exact h
  | recognized _ earning snapshots earnings inserted unlinked =>
    exact h.recognize inserted unlinked rfl rfl
  | released _ now locked => exact h.release rfl rfl rfl
  | adjusted earningId amountMinor adjustmentType reason idempotencyKey actorId now earning
      adjustments auditLogs found fresh =>
    refine h.adjust found rfl (adjusted_key _ _ _) (adjusted_link _ _ _) (adjusted_status _ _ _)
      (fun b hb hs => ?_) rfl rfl
    obtain ⟨rfl, hpayable, htype⟩ := hunsent fresh earning found b hb hs
    exact adjusted_zero hpayable htype
  | created _ currency vendorId actorId now locked batchId reference batches auditLogs inserted =>
    refine h.create (fun e he => ?_) inserted rfl rfl rfl
    simp only [availableEarning, decide_eq_true_eq] at he
    exact he.1
  | approved _ batch approverId now auditLogs found status =>
    exact h.put_batch rfl rfl found rfl rfl (fun hnone => hnone) fun s hs => Or.inl hs
  | begun _ batch actorId found unsent status =>
    have hnone := hsubmit.unsent (Table.mem_of_get? found) (by simp [status])
    refine h.put_batch rfl rfl found rfl rfl (fun hnone => hnone) fun s hs => ?_
    rcases List.mem_append.mp hs with hs | hs
    · exact Or.inl hs
    · rw [List.mem_singleton] at hs
      subst hs
      exact Or.inr ⟨rfl, rfl, hnone⟩
  | transferred i answer submission found uncalled =>
    have hmem := List.mem_of_getElem? found
    refine h.of_batches rfl (fun r hr => ⟨r, hr, rfl, rfl⟩) (.of_eq rfl fun _ => rfl)
      (fun s hs => ?_) (fun b hb => ?_)
    · rcases List.mem_or_eq_of_mem_set hs with hs | rfl
      · exact h.submitted s hs
      · exact h.submitted submission hmem
    · refine hb.imp_right fun ⟨s, hs, hid, hnone⟩ => ?_
      rcases List.mem_or_eq_of_mem_set hs with hs | rfl
      · exact ⟨s, hs, hid, hnone⟩
      · cases hnone
  | abandoned i now =>
    refine h.of_batches rfl (fun r hr => ⟨r, hr, rfl, rfl⟩) (.of_eq rfl fun _ => rfl)
      (fun s hs => h.submitted s (mem_of_mem_eraseIdx hs)) (fun b hb => ?_)
    exact hb.imp_right fun ⟨s, hs, hrest⟩ => ⟨s, mem_of_mem_eraseIdx hs, hrest⟩
  | failed i now submission row submitted answered found =>
    exact h.put_batch rfl rfl (Table.get?_found found) rfl rfl (fun hnone => hnone)
      fun s hs => Or.inl (mem_of_mem_eraseIdx hs)
  | finished i now submission result row auditLogs submitted answered found =>
    have hloaded := (hsubmit.loaded submission (List.mem_of_getElem? submitted)).2
    refine h.put_batch rfl rfl (Table.get?_found found) rfl rfl (fun hnone => ?_)
      fun s hs => Or.inl (mem_of_mem_eraseIdx hs)
    simp [transferredBatch, written, hloaded] at hnone

/-! ## Runs -/

/-- Before any batch is made. -/
def NoBatches (w : World) : Prop :=
  w.db.batches.rows = [] ∧ w.submissions = [] ∧ ∀ e ∈ w.db.earnings.rows, e.payoutBatchId = none

instance : DecidablePred NoBatches := fun _ => inferInstanceAs (Decidable (_ ∧ _ ∧ _))

theorem NoBatches.submitInv {w : World} (h : NoBatches w) : SubmitInv w := by
  refine ⟨?_, ?_⟩
  · simp [h.1]
  · simp [h.2.1]

theorem NoBatches.batchInv {w : World} (h : NoBatches w) : BatchInv w := by
  refine ⟨?_, fun e he b hb => ?_, fun e he _ => h.2.2 e he, ?_, fun e he b hb => ?_⟩
  · simp [h.2.1]
  · rw [h.2.2 e he] at hb
    cases hb
  · simp [h.1]
  · rw [h.2.2 e he] at hb
    cases hb

/-- In the runs that adjust no earning of a batch still to be sent, every transfer is
exact. -/
theorem transfers_exact (settings : Settings) (w : World) (ops : List Op) (hstart : NoBatches w)
    (hunsent : Along (exec settings) AdjustsUnsent w ops) :
    Along (exec settings) ExactTransfer w ops :=
  Along.imp (I := fun w => SubmitInv w ∧ BatchInv w)
    (fun w op h hstep => ⟨(exec_step settings w op).submitInv h.1,
      (exec_step settings w op).batchInv h.1 h.2 hstep⟩)
    (fun _ op h _ => h.2.exactTransfer op) ⟨hstart.submitInv, hstart.batchInv⟩ hunsent

/-- The approved batch is sent. -/
def batchSent : List Op :=
  batchApproved ++ [.submit 10 12, .transfer 0 transferred, .finish 0 4]

theorem batch_sent_exact : Along (exec sampleSettings) ExactTransfer financeWorld batchSent :=
  transfers_exact _ _ _ (by decide) (by decide)

/-- Half of the earning is refunded between the approval and the submission. -/
def adjustedBatch : List Op :=
  batchApproved ++
    [.adjust 9 (-4000) .refund "half refunded" "adjust" (some 11) 4,
     .submit 10 12, .transfer 0 transferred]

/-- A run that sends 8000 for earnings of 4000. -/
theorem adjusted_batch_overpays :
    ¬ Along (exec sampleSettings) ExactTransfer financeWorld adjustedBatch := by
  decide

end Breero.Finance
