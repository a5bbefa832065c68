import Breero.Finance.RowLocks

/-!
Earnings and the batches that they are linked to.

* `Lawful` is what a step may do: no link is changed, an earning is batched when it is available
  and available when it was pending, and a new batch totals the earnings that are linked to it;
* `LinkInv` is the invariant: nothing is linked that is not batched, or that a batch is made for;
* `Ledger.batched_exactly_once`: all steps of all runs are lawful.
-/

namespace Breero.Finance
open KeyedTable Transaction Locks Runs

/-! ## The law -/

/-- What may become of an earning. -/
structure Follows (e e' : VendorEarning) : Prop where
  link : ∀ b, e.payoutBatchId = some b → e'.payoutBatchId = some b
  batched : e'.status = .batched → e.status = .batched ∨ e.status = .available
  available : e'.status = .available → e.status = .available ∨ e.status = .pending

theorem Follows.refl (e : VendorEarning) : Follows e e := ⟨fun _ h => h, Or.inl, Or.inl⟩

namespace Ledger

structure Lawful (w w' : Ledger) : Prop where
  kept : Table.Kept Follows w.db.earnings w'.db.earnings
  fresh : ∀ e ∈ w'.db.earnings.rows, w.db.earnings.get? e.id = none →
    e.status = .pending ∧ e.payoutBatchId = none
  total : ∀ batch ∈ w'.db.batches.rows, w.db.batches.get? batch.id = none →
    batch.totalMinor = linkedTotal w'.db batch.id ∧
      batch.earningCount = (linked w'.db batch.id).length

/-- A link of the earlier state is one of the later state. -/
def LinksKept (w w' : Ledger) : Prop :=
  ∀ e ∈ w.db.earnings.rows, ∀ b, e.payoutBatchId = some b →
    ∃ e' ∈ w'.db.earnings.rows, e'.id = e.id ∧ e'.payoutBatchId = some b

/-- No earning is linked to one batch in one state and to another in the other. -/
def OneBatch (w w' : Ledger) : Prop :=
  ∀ e ∈ w.db.earnings.rows, ∀ e' ∈ w'.db.earnings.rows, e'.id = e.id →
    ∀ b, e.payoutBatchId = some b → ∀ c, e'.payoutBatchId = some c → b = c

/-! ## The invariant -/

structure LinkInv (w : Ledger) : Prop extends Coherent w where
  unlinked : ∀ e ∈ w.db.earnings.rows, e.status = .pending ∨ e.status = .available →
    e.payoutBatchId = none
  linkedBatch : ∀ e ∈ w.db.earnings.rows, ∀ b, e.payoutBatchId = some b →
    ∃ batch, w.db.batches.get? b = some batch

variable {w w' : Ledger} {op : Op}

/-- An adjustment of a row as it was read. -/
theorem Coherent.adjusts (h : Coherent w) {position : Nat} {earning stored : VendorEarning}
    {command : AdjustCommand} (hat : w.opened[position]? = some (.adjust earning command))
    (hfound : w.db.earnings.get? earning.id = some stored) : stored = earning := by
  have hread := (h.consistent _ (List.mem_of_getElem? hat)).stored earning
    (List.mem_singleton.mpr rfl)
  rw [hfound, Option.some.injEq] at hread
  exact hread

theorem mem_of_isOf {db : Db} {txn : OpenTxn} (h : Consistent db txn) {e : VendorEarning}
    (he : e ∈ db.earnings.rows) (hof : isOf txn.rows e = true) : e ∈ txn.rows := by
  simp only [isOf, decide_eq_true_eq, List.mem_map] at hof
  obtain ⟨row, hrow, hid⟩ := hof
  have hsame : row = e := Table.eq_of_key (Table.mem_of_get? (h.stored row hrow)) he hid
  exact hsame ▸ hrow

/-- An adjustment reverses an earning or holds it back, or leaves its status. -/
theorem adjusted_kept {e : VendorEarning} {amountMinor : Int} {adjustmentType : AdjustmentType}
    {status : EarningStatus} (hreached : (adjusted e amountMinor adjustmentType).status = status)
    (hreversed : status ≠ .reversed) (hheld : status ≠ .held) : e.status = status := by
  rcases adjusted_status e amountMinor adjustmentType with h | h | h
  · exact absurd (hreached.symm.trans h) hreversed
  · exact absurd (hreached.symm.trans h) hheld
  · exact h.symm.trans hreached

theorem follows_adjusted (e : VendorEarning) (amountMinor : Int) (adjustmentType : AdjustmentType) :
    Follows e (adjusted e amountMinor adjustmentType) where
  link b hb := by rw [adjusted_link, hb]
  batched hstatus := Or.inl (adjusted_kept hstatus (by decide) (by decide))
  available hstatus := Or.inl (adjusted_kept hstatus (by decide) (by decide))

/-! ## The earnings of a new batch -/

theorem batched_payable (picked : VendorEarning → Bool) (batchId : Uuid) (e : VendorEarning) :
    (batched picked batchId e).payableMinor = e.payableMinor := by
  unfold batched
  split <;> rfl

theorem linked_batched {t : Table VendorEarning} {picked : VendorEarning → Bool} {batchId : Uuid}
    (hnone : ∀ e ∈ t.rows, e.payoutBatchId ≠ some batchId) :
    (t.update (batched picked batchId) (batched_key picked batchId)).rows.filter
        (fun e => e.payoutBatchId = some batchId) =
      (t.rows.filter picked).map (batched picked batchId) := by
  have hlink : ∀ e ∈ t.rows,
      decide ((batched picked batchId e).payoutBatchId = some batchId) = picked e := by
    intro e he
    cases hpicked : picked e with
    | true => simp [batched_of_picked hpicked]
    | false => simp [batched_of_not hpicked, hnone e he]
  rw [Table.update, List.filter_map]
  congr 1
  exact List.filter_congr hlink

/-- The rows that a transaction has read are those of the table that it picks. -/
theorem Consistent.perm {db : Db} {txn : OpenTxn} (h : Consistent db txn) :
    (db.earnings.rows.filter (isOf txn.rows)).Perm txn.rows := by
  refine (List.perm_ext_iff_of_nodup (nodup_filter _ _) h.nodup).mpr fun e => ?_
  constructor
  · intro he
    obtain ⟨hmem, hof⟩ := List.mem_filter.mp he
    exact mem_of_isOf h hmem hof
  · intro he
    refine List.mem_filter.mpr ⟨Table.mem_of_get? (h.stored e he), ?_⟩
    simp only [isOf, decide_eq_true_eq]
    exact List.mem_map_of_mem he

theorem newBatch_exact {db : Db} {txn : OpenTxn} (h : Consistent db txn) {batchId : Uuid}
    (hnone : ∀ e ∈ db.earnings.rows, e.payoutBatchId ≠ some batchId)
    {earnings : Table VendorEarning}
    (hearnings : earnings = db.earnings.update (batched (isOf txn.rows) batchId)
      (batched_key _ batchId)) (db' : Db) (hdb' : db'.earnings = earnings) :
    (txn.rows.map VendorEarning.payableMinor).sum = linkedTotal db' batchId ∧
      txn.rows.length = (linked db' batchId).length := by
  have hlinked : linked db' batchId =
      (db.earnings.rows.filter (isOf txn.rows)).map (batched (isOf txn.rows) batchId) := by
    rw [linked, hdb', hearnings]
    exact linked_batched hnone
  have hpayable : VendorEarning.payableMinor ∘ batched (isOf txn.rows) batchId =
      VendorEarning.payableMinor := by
    funext e
    exact batched_payable _ _ e
  constructor
  · rw [linkedTotal, hlinked, List.map_map, hpayable]
    exact ((h.perm.map _).sum_eq).symm
  · rw [hlinked, List.length_map]
    exact h.perm.length_eq.symm

/-! ## Steps -/

theorem Lawful.of_rows (hkept : Table.Kept Follows w.db.earnings w'.db.earnings)
    (hrows : ∀ e' ∈ w'.db.earnings.rows, ∃ e, w.db.earnings.get? e'.id = some e)
    (hbatches : w'.db.batches = w.db.batches) : Lawful w w' where
  kept := hkept
  fresh e' he' hnone := by
    obtain ⟨e, he⟩ := hrows e' he'
    rw [hnone] at he
    cases he
  total batch hbatch hnone := by
    rw [hbatches] at hbatch
    exact absurd rfl (Table.get?_eq_none.mp hnone batch hbatch)

theorem Lawful.of_db (hearnings : w'.db.earnings = w.db.earnings)
    (hbatches : w'.db.batches = w.db.batches) : Lawful w w' :=
  .of_rows (.of_eq hearnings Follows.refl)
    (fun e' he' => ⟨e', Table.get?_key (hearnings ▸ he')⟩) hbatches

/-- The rows of an update, with the rows that they come from. -/
theorem kept_update {t : Table VendorEarning} {f : VendorEarning → VendorEarning}
    (hf : ∀ e, key (f e) = key e) (h : ∀ e ∈ t.rows, Follows e (f e)) :
    Table.Kept Follows t (t.update f hf) := by
  intro e he
  refine ⟨f e, ?_, h e he⟩
  rw [Table.get?_update, Table.get?_key he, Option.map_some]

theorem source_update {t : Table VendorEarning} {f : VendorEarning → VendorEarning}
    (hf : ∀ e, key (f e) = key e) {e' : VendorEarning} (h : e' ∈ (t.update f hf).rows) :
    ∃ e ∈ t.rows, f e = e' :=
  Table.mem_update.mp h

theorem rows_update {t : Table VendorEarning} {f : VendorEarning → VendorEarning}
    (hf : ∀ e, key (f e) = key e) :
    ∀ e' ∈ (t.update f hf).rows, ∃ e, t.get? e'.id = some e := by
  intro e' he'
  obtain ⟨e, he, rfl⟩ := source_update hf he'
  have hid : (f e).id = e.id := hf e
  exact ⟨e, hid ▸ Table.get?_key he⟩

theorem Step.lawful (hstep : Step w op w') (h : LinkInv w) : Lawful w w' := by
  cases hstep with
  | unchanged => exact .of_db rfl rfl
  | ended => exact .of_db rfl rfl
  | opened => exact .of_db rfl rfl
  | recognized snapshots earnings recognized =>
    refine ⟨.insert recognized.inserted Follows.refl, fun e he hnone => ?_,
      fun batch hbatch hnone => ?_⟩
    · rcases (Table.mem_insert recognized.inserted).mp he with hold | rfl
      · exact absurd rfl (Table.get?_eq_none.mp hnone e hold)
      · exact ⟨recognized.status, recognized.unlinked⟩
    · exact absurd rfl (Table.get?_eq_none.mp hnone batch hbatch)
  | @released position _ _ _ rows hat =>
    have hread := h.consistent _ (List.mem_of_getElem? hat)
    refine .of_rows (kept_update (madeAvailable_key rows) fun e he => ?_)
      (rows_update (madeAvailable_key rows)) rfl
    cases hof : isOf rows e with
    | true =>
      have hpending := hread.pending rows rfl e (mem_of_isOf hread he hof)
      rw [madeAvailable, if_pos hof]
      exact ⟨fun _ hb => hb, fun hstatus => by simp at hstatus, fun _ => Or.inr hpending⟩
    | false =>
      rw [madeAvailable, if_neg (by simp [hof])]
      exact .refl e
  | @adjusted _ _ _ _ earning _ command adjustments auditLogs hat fresh inserted found =>
    rw [h.adjusts hat found, writeAdjusted_read]
    have hid : (Finance.adjusted earning command.amountMinor command.adjustmentType).id =
        earning.id := adjusted_key _ _ _
    have hstored := (h.adjusts hat found) ▸ found
    refine .of_rows (.put_found hstored (adjusted_key _ _ _) (follows_adjusted _ _ _)
      Follows.refl) (fun e' he' => ?_) rfl
    rcases Table.mem_put.mp he' with ⟨rfl, _⟩ | ⟨he', _⟩
    · exact ⟨earning, hid ▸ hstored⟩
    · exact ⟨e', Table.get?_key he'⟩
  | @batched position now batchId reference rows currency actorId batches auditLogs hat inserted =>
    have hread := h.consistent _ (List.mem_of_getElem? hat)
    have hpicked : ∀ e ∈ w.db.earnings.rows, isOf rows e = true →
        e.status = .available ∧ e.payoutBatchId = none := by
      intro e he hof
      have havailable := hread.available _ _ _ rfl e (mem_of_isOf hread he hof)
      exact ⟨havailable, h.unlinked e he (Or.inr havailable)⟩
    have hnone : ∀ e ∈ w.db.earnings.rows, e.payoutBatchId ≠ some batchId := by
      intro e he hb
      obtain ⟨batch, hbatch⟩ := h.linkedBatch e he batchId hb
      exact Table.key_fresh inserted (Table.mem_of_get? hbatch) (Table.key_of_get? hbatch)
    refine ⟨kept_update (batched_key _ _) fun e he => ?_, fun e' he' hfresh => ?_,
      fun batch hbatch hfresh => ?_⟩
    · cases hof : isOf rows e with
      | true =>
        obtain ⟨havailable, hunlinked⟩ := hpicked e he hof
        rw [batched_of_picked hof]
        exact ⟨fun b hb => by simp [hunlinked] at hb, fun _ => Or.inr havailable,
          fun hstatus => by simp at hstatus⟩
      | false =>
        rw [batched_of_not hof]
        exact .refl e
    · obtain ⟨e, he⟩ := rows_update (batched_key _ _) e' he'
      rw [hfresh] at he
      cases he
    · rcases (Table.mem_insert inserted).mp hbatch with hold | rfl
      · exact absurd rfl (Table.get?_eq_none.mp hfresh batch hold)
      · exact newBatch_exact hread hnone rfl _ rfl

theorem LinkInv.of_db (h : LinkInv w) (hcoherent : Coherent w')
    (hearnings : w'.db.earnings = w.db.earnings) (hbatches : w'.db.batches = w.db.batches) :
    LinkInv w' where
  toCoherent := hcoherent
  unlinked := by
    rw [hearnings]
    exact h.unlinked
  linkedBatch := by
    rw [hearnings, hbatches]
    exact h.linkedBatch

theorem Step.linkInv (hstep : Step w op w') (h : LinkInv w) : LinkInv w' := by
  have hcoherent := hstep.coherent h.toCoherent
  cases hstep with
  | unchanged => exact h
  | ended => exact h.of_db hcoherent rfl rfl
  | opened => exact h.of_db hcoherent rfl rfl
  | recognized snapshots earnings recognized =>
    refine ⟨hcoherent, fun e he hstatus => ?_, fun e he b hb => ?_⟩
    · rcases (Table.mem_insert recognized.inserted).mp he with hold | rfl
      · exact h.unlinked e hold hstatus
      · exact recognized.unlinked
    · rcases (Table.mem_insert recognized.inserted).mp he with hold | rfl
      · exact h.linkedBatch e hold b hb
      · rw [recognized.unlinked] at hb
        cases hb
  | @released position _ _ _ rows hat =>
    have hread := h.consistent _ (List.mem_of_getElem? hat)
    have hlink : ∀ e, (madeAvailable rows e).payoutBatchId = e.payoutBatchId := by
      intro e
      unfold madeAvailable
      split <;> rfl
    refine ⟨hcoherent, fun e' he' hstatus => ?_, fun e' he' b hb => ?_⟩
    · obtain ⟨e, he, rfl⟩ := source_update (madeAvailable_key rows) he'
      rw [hlink]
      cases hof : isOf rows e with
      | true => exact h.unlinked e he (Or.inl (hread.pending rows rfl e (mem_of_isOf hread he hof)))
      | false =>
        rw [madeAvailable, if_neg (by simp [hof])] at hstatus
        exact h.unlinked e he hstatus
    · obtain ⟨e, he, rfl⟩ := source_update (madeAvailable_key rows) he'
      rw [hlink] at hb
      exact h.linkedBatch e he b hb
  | @adjusted _ _ _ _ earning stored command adjustments auditLogs hat fresh inserted found =>
    have hsame : stored = earning := h.adjusts hat found
    have hstored : earning ∈ w.db.earnings.rows := hsame ▸ Table.mem_of_get? found
    refine ⟨hcoherent, fun e' he' hstatus => ?_, fun e' he' b hb => ?_⟩
    · rw [hsame, writeAdjusted_read] at he'
      rcases Table.mem_put.mp he' with ⟨rfl, _⟩ | ⟨hold, _⟩
      · rw [adjusted_link]
        refine h.unlinked earning hstored ?_
        rcases adjusted_status earning command.amountMinor command.adjustmentType with
          hto | hto | hto
        · simp [hto] at hstatus
        · simp [hto] at hstatus
        · exact hto ▸ hstatus
      · exact h.unlinked e' hold hstatus
    · rw [hsame, writeAdjusted_read] at he'
      rcases Table.mem_put.mp he' with ⟨rfl, _⟩ | ⟨hold, _⟩
      · rw [adjusted_link] at hb
        exact h.linkedBatch earning hstored b hb
      · exact h.linkedBatch e' hold b hb
  | @batched position now batchId reference rows currency actorId batches auditLogs hat inserted =>
    refine ⟨hcoherent, fun e' he' hstatus => ?_, fun e' he' b hb => ?_⟩
    · obtain ⟨e, he, rfl⟩ := source_update (batched_key _ _) he'
      cases hof : isOf rows e with
      | true => simp [batched_of_picked hof] at hstatus
      | false =>
        rw [batched_of_not hof] at hstatus ⊢
        exact h.unlinked e he hstatus
    · obtain ⟨e, he, rfl⟩ := source_update (batched_key _ _) he'
      cases hof : isOf rows e with
      | true =>
        rw [batched_of_picked hof, Option.some.injEq] at hb
        exact ⟨_, hb ▸ Table.get?_insert_self inserted⟩
      | false =>
        rw [batched_of_not hof] at hb
        obtain ⟨batch, hbatch⟩ := h.linkedBatch e he b hb
        exact ⟨batch, Table.get?_insert_of_some inserted hbatch⟩

/-! ## Runs -/

/-- Before any batch is made. -/
def Unbatched (db : Db) : Prop :=
  db.batches.rows = [] ∧ ∀ e ∈ db.earnings.rows, e.payoutBatchId = none

instance : DecidablePred Unbatched := fun _ => inferInstanceAs (Decidable (_ ∧ _))

theorem Unbatched.linkInv {db : Db} (h : Unbatched db) : LinkInv { db } where
  exclusive := List.Pairwise.nil
  consistent _ htxn := absurd htxn List.not_mem_nil
  unlinked e he _ := h.2 e he
  linkedBatch e he b hb := by
    rw [h.2 e he] at hb
    cases hb

theorem LinksKept.oneBatch (h : LinksKept w w') : OneBatch w w' := by
  intro e he e' he' hid b hb c hc
  obtain ⟨later, hlater, hlaterId, hlink⟩ := h e he b hb
  have hsame : later = e' := Table.eq_of_key hlater he' (hlaterId.trans hid.symm)
  rw [hsame, hc] at hlink
  exact (Option.some.inj hlink).symm

theorem Lawful.linksKept (h : Lawful w w') : LinksKept w w' := by
  intro e he b hb
  obtain ⟨e', he', hfollows⟩ := h.kept e he
  exact ⟨e', Table.mem_of_get? he', Table.key_of_get? he', hfollows.link b hb⟩

theorem LinksKept.trans {u : Ledger} (h : LinksKept w w') (h' : LinksKept w' u) :
    LinksKept w u := by
  intro e he b hb
  obtain ⟨e', he', hid, hlink⟩ := h e he b hb
  obtain ⟨e'', he'', hid', hlink'⟩ := h' e' he' b hlink
  exact ⟨e'', he'', hid'.trans hid, hlink'⟩

/-- In every run of the transactions that write earnings, each earning is batched at most once:
it is in one batch for good, it got there from AVAILABLE and from PENDING before, and its batch
was made with the total and the number of its earnings. -/
theorem batched_exactly_once (settings : Settings) (db : Db) (ops : List Op)
    (hstart : Unbatched db) :
    Along (exec settings) (fun w op => Lawful w (exec settings w op)) { db } ops ∧
      (states (exec settings) { db } ops).Pairwise LinksKept ∧
      AnyTwo (exec settings) OneBatch { db } ops := by
  have hinv : ∀ (w : Ledger) (op : Op), LinkInv w → True → LinkInv (exec settings w op) :=
    fun w op h _ => (exec_step settings w op).linkInv h
  have hsteps : Along (exec settings) (fun _ _ => True) { db } ops :=
    along_of_forall fun _ _ => trivial
  have hlawful := Along.imp hinv (fun w op h _ => (exec_step settings w op).lawful h)
    hstart.linkInv hsteps
  have hkept : (states (exec settings) { db } ops).Pairwise LinksKept :=
    pairwise_of_step (fun _ e he _ hb => ⟨e, he, rfl, hb⟩) (fun _ _ _ => LinksKept.trans) hinv
      (fun w op h _ => ((exec_step settings w op).lawful h).linksKept) hstart.linkInv hsteps
  refine ⟨hlawful, hkept, ?_⟩
  refine anyTwo_of_pairwise ?_ ?_ (hkept.imp LinksKept.oneBatch)
  · intro t u h e he e' he' hid b hb c hc
    exact (h e' he' e he hid.symm c hc b hb).symm
  · intro t _
    exact LinksKept.oneBatch fun e he _ hb => ⟨e, he, rfl, hb⟩

def lateDispute : AdjustCommand := {
  amountMinor := -2000, adjustmentType := .dispute, reason := "arrived late"
  idempotencyKey := "dispute", actorId := some 11 }

/-- The earning 9 is released and batched, and disputed while and after its batch is made. -/
def disputedBatch : List Op :=
  [.recognize repair 10000 0 "USD" 0 8 9,
   .release 1 [], .commit 0 1 0 "",
   .createBatch "USD" none (some 11) 2 [], .adjust 9 lateDispute, .commit 0 2 10 "PAY-1",
   .adjust 9 lateDispute, .commit 0 3 0 ""]

theorem disputed_batched_once :
    Along (exec sampleSettings) (fun w op => Lawful w (exec sampleSettings w op))
        { db := financeWorld.db } disputedBatch ∧
      (states (exec sampleSettings) { db := financeWorld.db } disputedBatch).Pairwise LinksKept ∧
      AnyTwo (exec sampleSettings) OneBatch { db := financeWorld.db } disputedBatch :=
  batched_exactly_once sampleSettings financeWorld.db disputedBatch (by decide)

end Ledger

end Breero.Finance
