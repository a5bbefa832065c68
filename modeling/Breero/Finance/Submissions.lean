import Breero.Finance.Batches

/-!
Submitting a batch once, although several submissions of it may be at the provider
at the same time.

* `Sends` is the invariant: what a submission sends is fixed by its batch;
* `submitted_once`: in the runs in which no submission finishes after another one's
  transfer, the transfer is final and announced once;
* `second_submission_finishes` is a run in which one does.
-/

namespace Breero.Finance
open KeyedTable Transaction Runs

/-! ## The laws -/

/-- All calls of the provider for one batch are the same call. -/
def SameTransfer (w : World) : Prop :=
  ∀ a ∈ w.transfers, ∀ b ∈ w.transfers, a.1 = b.1 → a.2 = b.2

/-- A batch with a transfer is processing. -/
def TransferProcessing (w : World) : Prop :=
  ∀ row ∈ w.db.batches.rows, row.providerTransferId ≠ none → row.status = .processing

/-- The columns that tell how the batch was submitted. -/
def SameSubmission (a b : PayoutBatch) : Prop :=
  b.providerTransferId = a.providerTransferId ∧ b.status = a.status ∧
    b.submittedAt = a.submittedAt ∧ b.providerReference = a.providerReference ∧
    b.failureReason = a.failureReason

/-- A batch with a transfer is not changed. -/
def TransferFinal (w w' : World) : Prop :=
  ∀ a ∈ w.db.batches.rows, a.providerTransferId ≠ none →
    ∀ b ∈ w'.db.batches.rows, b.id = a.id → SameSubmission a b

def isSubmitted (batchId : Uuid) (event : IntegrationEvent) : Bool :=
  event.aggregateType = "payout" && event.aggregateId = batchId &&
    event.eventType = "payout.submitted"

/-- The number of `payout.submitted` events of a batch. -/
def submittedCount (db : Db) (batchId : Uuid) : Nat := db.outbox.countP (isSubmitted batchId)

def SubmittedOnce (w : World) : Prop := ∀ batchId, submittedCount w.db batchId ≤ 1

/-- A submission finishes only while its batch has no transfer, unless it fails as an
earlier one did. -/
def FinishesFirst (w : World) : Op → Prop
  | .finish i _ => ∀ s ∈ w.submissions[i]?, ∀ row ∈ w.db.batches.get? s.batch.id,
      match s.answer with
      | some (.transferred _) => row.providerTransferId = none
      | some .notConfigured =>
        row.providerTransferId = none ∨ row.failureReason = some notConfiguredCode
      | _ => True
  | _ => True

instance (a b : PayoutBatch) : Decidable (SameSubmission a b) :=
  inferInstanceAs (Decidable (_ ∧ _ ∧ _ ∧ _ ∧ _))

instance : DecidableRel TransferFinal := fun w w' =>
  inferInstanceAs (Decidable (∀ a ∈ w.db.batches.rows, a.providerTransferId ≠ none →
    ∀ b ∈ w'.db.batches.rows, b.id = a.id → SameSubmission a b))

instance (answer : Option GatewayAnswer) (row : PayoutBatch) :
    Decidable (match answer with
      | some (.transferred _) => row.providerTransferId = none
      | some .notConfigured =>
        row.providerTransferId = none ∨ row.failureReason = some notConfiguredCode
      | _ => True) :=
  match answer with
  | some (.transferred _) => inferInstanceAs (Decidable (row.providerTransferId = none))
  | some .notConfigured => inferInstanceAs (Decidable
      (row.providerTransferId = none ∨ row.failureReason = some notConfiguredCode))
  | some (.raised _) => isTrue trivial
  | none => isTrue trivial

instance (w : World) : DecidablePred (FinishesFirst w)
  | .finish i _ => inferInstanceAs (Decidable
      (∀ s ∈ w.submissions[i]?, ∀ row ∈ w.db.batches.get? s.batch.id, _))
  | .recognize .. | .release .. | .adjust .. | .createBatch .. | .approve .. | .submit ..
  | .transfer .. => isTrue trivial

/-! ## What is sent -/

/-- The call that a submission of the batch makes. -/
structure Sends (row : PayoutBatch) (t : Transfer) : Prop where
  key : row.idempotencyKey = some t.idempotencyKey
  keyGiven : t.idempotencyKey ≠ ""
  amount : t.amountMinor = row.totalMinor
  currency : t.currency = row.currency
  destination : t.destination = "batch:" ++ toString row.id

theorem Sends.unique {row : PayoutBatch} {t u : Transfer} (ht : Sends row t) (hu : Sends row u) :
    t = u := by
  have hkey : t.idempotencyKey = u.idempotencyKey := Option.some.inj (ht.key.symm.trans hu.key)
  have hamount := ht.amount.trans hu.amount.symm
  have hcurrency := ht.currency.trans hu.currency.symm
  have hdestination := ht.destination.trans hu.destination.symm
  cases t
  cases u
  simp_all

/-- A batch that sends the same. -/
def SameOrder (a b : PayoutBatch) : Prop :=
  b.id = a.id ∧ b.totalMinor = a.totalMinor ∧ b.currency = a.currency ∧
    ∀ k, a.idempotencyKey = some k → k ≠ "" → b.idempotencyKey = some k

theorem sameOrder_refl (a : PayoutBatch) : SameOrder a a := ⟨rfl, rfl, rfl, fun _ h _ => h⟩

theorem Sends.of_sameOrder {row row' : PayoutBatch} {t : Transfer} (h : Sends row t)
    (hsame : SameOrder row row') : Sends row' t where
  key := hsame.2.2.2 _ h.key h.keyGiven
  keyGiven := h.keyGiven
  amount := h.amount.trans hsame.2.1.symm
  currency := h.currency.trans hsame.2.2.1.symm
  destination := by rw [h.destination, hsame.1]

theorem submitKey_of_some {batch : PayoutBatch} {k : String} (h : batch.idempotencyKey = some k)
    (hgiven : k ≠ "") : submitKey batch = k := by
  simp [submitKey, h, hgiven]

theorem defaultKey_ne (s : String) : "payout-batch:" ++ s ≠ "" := by
  intro h
  have hlength := congrArg String.length h
  simp [String.length_append] at hlength

theorem submitKey_ne (batch : PayoutBatch) : submitKey batch ≠ "" := by
  unfold submitKey
  split
  · exact defaultKey_ne _
  · split
    · exact defaultKey_ne _
    · assumption

structure SendsInv (w : World) : Prop where
  submissions : ∀ s ∈ w.submissions, ∃ row, w.db.batches.get? s.batch.id = some row ∧
    Sends row s.transfer
  transfers : ∀ entry ∈ w.transfers, ∃ row, w.db.batches.get? entry.1 = some row ∧
    Sends row entry.2

theorem Step.ordersKept {w w' : World} {op : Op} (hstep : Step w op w') :
    Table.Kept SameOrder w.db.batches w'.db.batches := by
  cases hstep with
  | same | recognized | released | adjusted | transferred | abandoned =>
    exact .of_eq rfl sameOrder_refl
  | created _ currency vendorId actorId now locked batchId reference batches auditLogs inserted =>
    exact .insert inserted sameOrder_refl
  | approved _ batch approverId now auditLogs found status =>
    exact .put_found found rfl ⟨rfl, rfl, rfl, fun _ h _ => h⟩ sameOrder_refl
  | begun _ batch actorId found unsent status =>
    refine .put_found found rfl ⟨rfl, rfl, rfl, fun k hk hgiven => ?_⟩ sameOrder_refl
    exact congrArg some (submitKey_of_some hk hgiven)
  | failed i now submission row submitted answered found =>
    exact .put_found found rfl ⟨rfl, rfl, rfl, fun _ h _ => h⟩ sameOrder_refl
  | finished i now submission result row auditLogs submitted answered found =>
    exact .put_found found rfl ⟨rfl, rfl, rfl, fun _ h _ => h⟩ sameOrder_refl

/-- What was sent, or is about to be, is what the batch still sends. -/
theorem sends_kept {w w' : World} {b : Uuid} {t : Transfer}
    (hkept : Table.Kept SameOrder w.db.batches w'.db.batches)
    (h : ∃ row, w.db.batches.get? b = some row ∧ Sends row t) :
    ∃ row, w'.db.batches.get? b = some row ∧ Sends row t := by
  obtain ⟨row, hrow, hsends⟩ := h
  obtain ⟨row', hrow', hsame⟩ := hkept.get? hrow
  exact ⟨row', hrow', hsends.of_sameOrder hsame⟩

theorem Step.sendsInv {w w' : World} {op : Op} (hstep : Step w op w') (h : SendsInv w) :
    SendsInv w' := by
  have hkept := hstep.ordersKept
  have htransfers : ∀ entry ∈ w.transfers, ∃ row,
      w'.db.batches.get? entry.1 = some row ∧ Sends row entry.2 :=
    fun entry hentry => sends_kept hkept (h.transfers entry hentry)
  have hsubmissions : ∀ s ∈ w.submissions, ∃ row,
      w'.db.batches.get? s.batch.id = some row ∧ Sends row s.transfer :=
    fun s hs => sends_kept hkept (h.submissions s hs)
  cases hstep with
  | same | recognized | released | adjusted | created | approved =>
    exact ⟨hsubmissions, htransfers⟩
  | begun _ batch actorId found unsent status =>
    refine ⟨fun s hs => ?_, htransfers⟩
    rcases List.mem_append.mp hs with hs | hs
    · exact hsubmissions s hs
    · rw [List.mem_singleton] at hs
      subst hs
      exact ⟨_, Table.get?_put_self found rfl, rfl, submitKey_ne batch, rfl, rfl, rfl⟩
  | transferred i answer submission found uncalled =>
    have hmem := List.mem_of_getElem? found
    refine ⟨fun s hs => ?_, fun entry hentry => ?_⟩
    · rcases List.mem_or_eq_of_mem_set hs with hs | rfl
      · exact hsubmissions s hs
      · exact hsubmissions submission hmem
    · rcases List.mem_append.mp hentry with hentry | hentry
      · exact htransfers entry hentry
      · rw [List.mem_singleton] at hentry
        subst hentry
        exact hsubmissions submission hmem
  | abandoned i now =>
    exact ⟨fun s hs => hsubmissions s (mem_of_mem_eraseIdx hs), htransfers⟩
  | failed i now submission row submitted answered found =>
    exact ⟨fun s hs => hsubmissions s (mem_of_mem_eraseIdx hs), htransfers⟩
  | finished i now submission result row auditLogs submitted answered found =>
    exact ⟨fun s hs => hsubmissions s (mem_of_mem_eraseIdx hs), htransfers⟩

theorem SendsInv.sameTransfer {w : World} (h : SendsInv w) : SameTransfer w := by
  intro a ha b hb hid
  obtain ⟨row, hrow, hsends⟩ := h.transfers a ha
  obtain ⟨row', hrow', hsends'⟩ := h.transfers b hb
  have hsame : row = row' := by
    rw [hid, hrow'] at hrow
    exact (Option.some.inj hrow).symm
  exact hsends.unique (hsame ▸ hsends')

/-! ## After the transfer -/

abbrev SubmissionsKept : Table PayoutBatch → Table PayoutBatch → Prop :=
  Table.Kept (fun a b => a.providerTransferId ≠ none → SameSubmission a b)

theorem sameSubmission_refl (a : PayoutBatch) : SameSubmission a a := ⟨rfl, rfl, rfl, rfl, rfl⟩

theorem SameSubmission.trans {a b c : PayoutBatch} (h : SameSubmission a b)
    (h' : SameSubmission b c) : SameSubmission a c :=
  ⟨h'.1.trans h.1, h'.2.1.trans h.2.1, h'.2.2.1.trans h.2.2.1, h'.2.2.2.1.trans h.2.2.2.1,
    h'.2.2.2.2.trans h.2.2.2.2⟩

theorem SubmissionsKept.same {t u : Table PayoutBatch} (h : u = t) : SubmissionsKept t u :=
  Table.Kept.of_eq h fun a _ => sameSubmission_refl a

/-- A batch rewritten before its transfer. -/
theorem SubmissionsKept.put {t : Table PayoutBatch} {row row' : PayoutBatch} {i : Uuid}
    (hrow : t.get? i = some row) (hkey : key row' = key row)
    (h : row.providerTransferId ≠ none → SameSubmission row row') :
    SubmissionsKept t (t.put row') :=
  Table.Kept.put_found hrow hkey h fun a _ => sameSubmission_refl a

theorem Step.submissionsKept {w w' : World} {op : Op} (hstep : Step w op w') (h : SubmitInv w)
    (hfirst : FinishesFirst w op) : SubmissionsKept w.db.batches w'.db.batches := by
  cases hstep with
  | same | recognized | released | adjusted | transferred | abandoned => exact .same rfl
  | created _ currency vendorId actorId now locked batchId reference batches auditLogs inserted =>
    exact Table.Kept.insert inserted fun a _ => sameSubmission_refl a
  | approved _ batch approverId now auditLogs found status =>
    have hnone := h.unsent (Table.mem_of_get? found) (by simp [status])
    exact .put found rfl fun hne => absurd hnone hne
  | begun _ batch actorId found unsent status =>
    exact .put found rfl fun _ => ⟨rfl, rfl, rfl, rfl, rfl⟩
  | failed i now submission row submitted answered found =>
    have hcase := hfirst submission submitted row found
    rw [answered] at hcase
    rcases hcase with hnone | hsame
    · exact .put found rfl fun hne => absurd hnone hne
    · -- the reason written is the one there is
      refine .put found rfl fun _ => ⟨rfl, rfl, rfl, rfl, ?_⟩
      simp [written, hsame]
  | finished i now submission result row auditLogs submitted answered found =>
    have hcase := hfirst submission submitted row found
    rw [answered] at hcase
    exact .put found rfl fun hne => absurd hcase hne

/-! ## The event -/

/-- An announced batch has a transfer. -/
def AnnouncedSent (w : World) : Prop :=
  ∀ batchId, 0 < submittedCount w.db batchId →
    ∃ row, w.db.batches.get? batchId = some row ∧ row.providerTransferId ≠ none

theorem submittedCount_emit {db db' : Db} {batch : PayoutBatch} {result : TransferResult}
    {now : Instant} (h : db'.outbox = db.outbox ++ [payoutSubmitted batch result now])
    (batchId : Uuid) :
    submittedCount db' batchId =
      submittedCount db batchId + if batch.id = batchId then 1 else 0 := by
  rw [submittedCount, h, List.countP_append, submittedCount]
  simp [isSubmitted, payoutSubmitted, List.countP_singleton]

theorem Step.announced {w w' : World} {op : Op} (hstep : Step w op w') (h : SubmitInv w)
    (hfirst : FinishesFirst w op) (hsent : AnnouncedSent w) (honce : SubmittedOnce w) :
    AnnouncedSent w' ∧ SubmittedOnce w' := by
  have hkept := hstep.submissionsKept h hfirst
  have hold : ∀ batchId, 0 < submittedCount w.db batchId →
      ∃ row, w'.db.batches.get? batchId = some row ∧ row.providerTransferId ≠ none := by
    intro batchId hcount
    obtain ⟨row, hrow, hne⟩ := hsent batchId hcount
    obtain ⟨row', hrow', hsame⟩ := hkept.get? hrow
    exact ⟨row', hrow', (hsame hne).1 ▸ hne⟩
  cases hstep with
  | same | recognized | released | adjusted | created | approved | begun | transferred
  | abandoned | failed => exact ⟨hold, honce⟩
  | finished i now submission result row auditLogs submitted answered found =>
    have hloaded := (h.loaded submission (List.mem_of_getElem? submitted)).2
    have hnone := hfirst submission submitted row found
    rw [answered] at hnone
    have hid : row.id = submission.batch.id := Table.key_of_get? found
    -- no transfer yet, so no event yet
    have hzero : submittedCount w.db submission.batch.id = 0 := by
      by_contra hne
      obtain ⟨row', hrow', hsentRow⟩ := hsent _ (Nat.pos_of_ne_zero hne)
      rw [found] at hrow'
      exact hsentRow (Option.some.inj hrow' ▸ hnone)
    constructor
    · intro batchId hcount
      by_cases hb : submission.batch.id = batchId
      · refine ⟨_, Table.get?_put_self (hb ▸ found) (hid.trans hb), ?_⟩
        simp [transferredBatch, written, hloaded]
      · rw [submittedCount_emit rfl, if_neg hb, Nat.add_zero] at hcount
        exact hold batchId hcount
    · intro batchId
      rw [submittedCount_emit rfl]
      by_cases hb : submission.batch.id = batchId
      · rw [if_pos hb, ← hb, hzero]
      · rw [if_neg hb]
        exact honce batchId

/-! ## Runs -/

/-- Before any batch is made or announced. -/
def BeforePayouts (w : World) : Prop :=
  NoBatches w ∧ w.transfers = [] ∧ ∀ event ∈ w.db.outbox, event.eventType ≠ "payout.submitted"

instance : DecidablePred BeforePayouts := fun _ => inferInstanceAs (Decidable (_ ∧ _ ∧ _))

theorem BeforePayouts.count_eq_zero {w : World} (h : BeforePayouts w) (batchId : Uuid) :
    submittedCount w.db batchId = 0 := by
  rw [submittedCount, List.countP_eq_zero]
  intro event hevent
  simp [isSubmitted, h.2.2 event hevent]

structure SubmissionInv (w : World) : Prop where
  submit : SubmitInv w
  sends : SendsInv w
  announced : AnnouncedSent w
  once : SubmittedOnce w

theorem BeforePayouts.submissionInv {w : World} (h : BeforePayouts w) : SubmissionInv w := by
  refine ⟨h.1.submitInv, ⟨?_, ?_⟩, fun b hcount => ?_, fun b => ?_⟩
  · simp [h.1.2.1]
  · simp [h.2.1]
  · rw [h.count_eq_zero] at hcount
    omega
  · rw [h.count_eq_zero]
    omega

theorem SubmissionInv.step (settings : Settings) {w : World} {op : Op} (h : SubmissionInv w)
    (hfirst : FinishesFirst w op) : SubmissionInv (exec settings w op) := by
  have hstep := exec_step settings w op
  obtain ⟨hannounced, honce⟩ := hstep.announced h.submit hfirst h.announced h.once
  exact ⟨hstep.submitInv h.submit, hstep.sendsInv h.sends, hannounced, honce⟩

/-- In the runs in which no submission finishes after another one's transfer, a batch
is submitted once. -/
theorem submitted_once (settings : Settings) (w : World) (ops : List Op)
    (hstart : BeforePayouts w) (hfirst : Along (exec settings) FinishesFirst w ops) :
    Always (exec settings) SameTransfer w ops ∧
      Always (exec settings) TransferProcessing w ops ∧
      (states (exec settings) w ops).Pairwise TransferFinal ∧
      Always (exec settings) SubmittedOnce w ops := by
  have hinv := always_of_inv (fun _ _ h hstep => SubmissionInv.step settings h hstep)
    hstart.submissionInv hfirst
  have hkept : (states (exec settings) w ops).Pairwise
      (fun w w' => SubmissionsKept w.db.batches w'.db.batches) := by
    refine pairwise_of_step (fun w => .same rfl) (fun _ _ _ h h' => ?_)
      (fun _ _ h hstep => SubmissionInv.step settings h hstep) (fun w op h hstep => ?_)
      hstart.submissionInv hfirst
    · exact h.trans h' fun a b c hab hbc hne => (hab hne).trans (hbc ((hab hne).1 ▸ hne))
    · exact (exec_step settings w op).submissionsKept h.submit hstep
  refine ⟨hinv.imp fun _ h => h.sends.sameTransfer, hinv.imp fun _ h => h.submit.processing, ?_,
    hinv.imp fun _ h => h.once⟩
  refine hkept.imp fun hkept a ha hne b hb hid => ?_
  exact hkept.rel ha hb hid hne

theorem batch_submitted_once :
    Always (exec sampleSettings) SameTransfer financeWorld batchSent ∧
      Always (exec sampleSettings) TransferProcessing financeWorld batchSent ∧
      (states (exec sampleSettings) financeWorld batchSent).Pairwise TransferFinal ∧
      Always (exec sampleSettings) SubmittedOnce financeWorld batchSent :=
  submitted_once _ _ _ (by decide) (by decide)

/-- Two submissions of the batch are at the provider, which answers both with the same
transfer. -/
def secondSubmission : List Op :=
  batchApproved ++
    [.submit 10 12, .submit 10 12, .transfer 0 transferred, .transfer 1 transferred,
     .finish 0 4, .finish 0 5]

/-- A run that announces the batch twice and moves the time of its submission. -/
theorem second_submission_finishes :
    ¬ Always (exec sampleSettings) SubmittedOnce financeWorld secondSubmission ∧
      ¬ (states (exec sampleSettings) financeWorld secondSubmission).Pairwise TransferFinal := by
  constructor
  · intro h
    have htwice : submittedCount
        (run (exec sampleSettings) financeWorld secondSubmission).db 10 = 2 := by
      decide
    have honce := h _ (run_mem_states financeWorld secondSubmission) 10
    omega
  · decide

end Breero.Finance
