import Breero.Payments.Effects

/-!
Concurrent deliveries of one webhook event. The main transaction of a delivery
and the transaction that records its failure are separate steps, so that any
number of deliveries interleave between them.

* `deliveries_applied_once_iff`: the effects of each event are applied at most once
  and `processed` is final in exactly the runs in which no failure is recorded on
  an event that another delivery has processed meanwhile;
* `late_failure_reopens_event` is a run in which one is, and the event is applied
  a second time.
-/

namespace Breero.Payments
open KeyedTable Transaction Runs

/-- The step is a delivery of the event that commits its effects. -/
def appliesEvent (eventId : String) (w : World) : Op → Bool
  | .deliver event fault now jobId =>
    event.id = eventId && match deliver w.db event fault now jobId with
      | .ok (_, duplicate) => !duplicate
      | .error _ => false
  | _ => false

/-- No event that is processed in `w` is failed in `w'`. -/
def ProcessedFinal (w w' : World) : Prop :=
  ∀ row ∈ w.db.paymentEvents.rows, row.status = .processed →
    ∀ row' ∈ w'.db.paymentEvents.rows, key row' = key row → row'.status ≠ .failed

instance (w w' : World) : Decidable (ProcessedFinal w w') :=
  inferInstanceAs (Decidable (∀ row ∈ w.db.paymentEvents.rows, row.status = .processed →
    ∀ row' ∈ w'.db.paymentEvents.rows, key row' = key row → row'.status ≠ .failed))

/-- The step records no failure of an event that is processed by now. -/
def NoLateFailure (w : World) : Op → Prop
  | .recordFailure delivery =>
    ∀ failure ∈ w.failures[delivery]?, alreadyProcessed w.db failure.1 = false
  | _ => True

instance (w : World) : DecidablePred (NoLateFailure w)
  | .recordFailure delivery => inferInstanceAs (Decidable
      (∀ failure ∈ w.failures[delivery]?, alreadyProcessed w.db failure.1 = false))
  | .deliver .. | .stripeIntent _ | .stripeRefund _ | .createIntent .. | .purchase ..
  | .capture .. | .refund .. => isTrue trivial

theorem alreadyProcessed_iff {db : Db} {event : StripeEvent} :
    alreadyProcessed db event = true ↔
      ∃ row, db.paymentEvents.get? ("stripe", event.id) = some row ∧ row.status = .processed := by
  unfold alreadyProcessed recordedEvent
  cases db.paymentEvents.get? ("stripe", event.id) with
  | none => simp
  | some row => simp

/-! ## The stored events after one step -/

/-- Every stored event is kept, and a processed one stays processed. -/
abbrev ProcessedKept : Table PaymentEvent → Table PaymentEvent → Prop :=
  Table.Kept (fun row row' => row.status = .processed → row'.status = .processed)

theorem ProcessedKept.same {t u : Table PaymentEvent} (h : u = t) : ProcessedKept t u :=
  Table.Kept.of_eq h (fun _ h => h)

theorem IntentEffect.paymentEvents {db db' : Db} {payment : Payment} {event : StripeEvent}
    {now : Instant} (h : IntentEffect db payment event now db') :
    db'.paymentEvents = db.paymentEvents := by
  cases h with
  | failed code type =>
    exact releaseFailedLeadPurchase_paymentEvents _ _
  | canceled type =>
    exact releaseFailedLeadPurchase_paymentEvents _ _
  | reported amount db' type received checks settled => exact settled.ledger.2.2
  | ignored type => rfl

theorem RefundEffect.paymentEvents {db db' : Db} {obj : StripeObject}
    (h : RefundEffect db obj db') : db'.paymentEvents = db.paymentEvents := by
  cases h with
  | ignored => rfl
  | noted refund status found shown => rfl
  | succeeded refund payment whole found shown paid =>
    exact markLeadPurchaseRefunded_paymentEvents _ _

theorem EventEffect.paymentEvents {db db' : Db} {event : StripeEvent} {now : Instant}
    (h : EventEffect db event now db') : db'.paymentEvents = db.paymentEvents := by
  cases h with
  | intent payment found effect => exact effect.paymentEvents
  | refund object effect => exact effect.paymentEvents
  | ignored same => rw [same]

/-- Storing an event that is not processed yet keeps the processed ones. -/
theorem StoredAs.processedKept {db applied db' : Db} {event : StripeEvent}
    {status : PaymentEventStatus} (h : StoredAs applied event status db')
    (hsame : applied.paymentEvents = db.paymentEvents)
    (hnot : alreadyProcessed db event = false) :
    ProcessedKept db.paymentEvents db'.paymentEvents := by
  obtain ⟨paymentEvents, rfl, ⟨stored, hstored, _⟩, hrest⟩ := h
  intro row hrow
  by_cases hkey : key row = ("stripe", event.id)
  · refine ⟨stored, hkey ▸ hstored, fun hprocessed => ?_⟩
    have hget : db.paymentEvents.get? ("stripe", event.id) = some row :=
      hkey ▸ Table.get?_key hrow
    have htrue := alreadyProcessed_iff.mpr ⟨row, hget, hprocessed⟩
    rw [hnot] at htrue
    cases htrue
  · refine ⟨row, ?_, fun h => h⟩
    rw [hrest _ hkey, hsame]
    exact Table.get?_key hrow

/-- The commands of the API store no event. -/
theorem exec_paymentEvents {settings : Settings} {w : World} {op : Op}
    (hdeliver : ∀ event fault now jobId, op ≠ .deliver event fault now jobId)
    (hrecord : ∀ delivery, op ≠ .recordFailure delivery) :
    (exec settings w op).db.paymentEvents = w.db.paymentEvents := by
  have hcommit := exec_commit settings w op
  generalize (exec settings w op).db = db' at hcommit
  cases hcommit with
  | same => rfl
  | created => rfl
  | purchased lead leadPurchases paid payment found available fresh inserted intended =>
    rcases createProfessionalLeadIntent_ok intended with ⟨rfl, _⟩ | ⟨_, _, _, _, _, _, rfl⟩ <;> rfl
  | captured payment intent db' found status checks settled => exact settled.ledger.2.2
  | refunded payment made refunds log event db' found status positive ofPayment covered inserted
      notCaptured result =>
    rcases result with rfl | ⟨whole, rfl⟩
    · rfl
    · exact markLeadPurchaseRefunded_paymentEvents _ _
  | delivered => exact absurd rfl (hdeliver _ _ _ _)
  | noted delivery => exact absurd rfl (hrecord delivery)

theorem step_processedKept (settings : Settings) {w : World} {op : Op} (h : NoLateFailure w op) :
    ProcessedKept w.db.paymentEvents (exec settings w op).db.paymentEvents := by
  cases op with
  | deliver event fault now jobId =>
    simp only [exec]
    split
    · next db' duplicate hdeliver =>
      rcases deliver_ok hdeliver with ⟨_, _, rfl⟩ | ⟨hnot, _, _, applied, heffect, hstored⟩
      · exact .same rfl
      · exact hstored.processedKept heffect.paymentEvents hnot
    · exact .same rfl
  | recordFailure delivery =>
    simp only [exec]
    split
    · exact .same rfl
    · next event exc hfailure =>
      dsimp only
      split
      · next db' hrecord =>
        exact (recordFailure_ok hrecord).processedKept rfl (h (event, exc) hfailure)
      · exact .same rfl
  | _ => exact .same (exec_paymentEvents (by simp) (by simp))

/-- A failure recorded on a processed event makes it failed. -/
theorem noLateFailure_of_processedFinal {settings : Settings} {w : World} {op : Op}
    (h : ProcessedFinal w (exec settings w op)) : NoLateFailure w op := by
  cases op with
  | recordFailure delivery =>
    rintro ⟨event, exc⟩ hfailure
    by_contra hprocessed
    obtain ⟨row, hrow, hstatus⟩ := alreadyProcessed_iff.mp (Bool.not_eq_false _ ▸ hprocessed)
    obtain ⟨failed, hfailed, hexec⟩ : ∃ failed : PaymentEvent, (key failed = key row ∧
        failed.status = .failed) ∧
        (exec settings w (.recordFailure delivery)).db.paymentEvents =
          w.db.paymentEvents.put failed := by
      simp only [exec, Option.mem_def.mp hfailure, recordFailure, recordedEvent, hrow]
      refine ⟨_, ?_, rfl⟩
      exact ⟨rfl, rfl⟩
    refine h row (Table.mem_of_get? hrow) hstatus failed ?_ hfailed.1 hfailed.2
    rw [hexec]
    exact Table.mem_put_self (Table.mem_of_get? hrow) hfailed.1.symm
  | _ => trivial

/-! ## Runs -/

theorem appliesEvent_deliver (settings : Settings) {eventId : String} {w : World} {op : Op}
    (h : appliesEvent eventId w op = true) :
    (¬ ∃ row, w.db.paymentEvents.get? ("stripe", eventId) = some row ∧
      row.status = .processed) ∧
    ∃ row, (exec settings w op).db.paymentEvents.get? ("stripe", eventId) = some row ∧
      row.status = .processed := by
  cases op with
  | deliver event fault now jobId =>
    simp only [appliesEvent, Bool.and_eq_true, decide_eq_true_eq] at h
    obtain ⟨rfl, h⟩ := h
    cases hdeliver : deliver w.db event fault now jobId with
    | error exc => simp [hdeliver] at h
    | ok result =>
      obtain ⟨db', duplicate⟩ := result
      simp only [hdeliver, Bool.not_eq_true'] at h
      subst h
      rcases deliver_ok hdeliver with ⟨_, hdup, _⟩ | ⟨hnot, _, _, applied, _, hstored⟩
      · cases hdup
      · obtain ⟨paymentEvents, rfl, hrow, _⟩ := hstored
        refine ⟨fun hprocessed => ?_, ?_⟩
        · rw [alreadyProcessed_iff.mpr hprocessed] at hnot
          cases hnot
        · simp only [exec, hdeliver]
          exact hrow
  | _ => cases h

/-- Each event is applied at most once and `processed` is final in exactly the runs
that record no failure of an event processed meanwhile. -/
theorem deliveries_applied_once_iff (settings : Settings) (w : World) (ops : List Op) :
    ((∀ eventId, countSteps (exec settings) (appliesEvent eventId) w ops ≤ 1) ∧
      (states (exec settings) w ops).Pairwise ProcessedFinal) ↔
    Along (exec settings) NoLateFailure w ops := by
  constructor
  · rintro ⟨_, hfinal⟩
    exact Along.imp (I := fun _ => True) (fun _ _ _ _ => trivial)
      (fun _ _ _ hstep => noLateFailure_of_processedFinal hstep) trivial (step_of_pairwise hfinal)
  · intro h
    constructor
    · intro eventId
      refine countSteps_le_one (I := fun _ => True) (P := NoLateFailure)
        (L := fun w => ∃ row, w.db.paymentEvents.get? ("stripe", eventId) = some row ∧
          row.status = .processed)
        (fun _ _ _ _ => trivial) (fun _ _ _ _ happlies => ?_) (fun _ _ _ _ happlies => ?_)
        (fun w op _ hstep hlatched => ?_) trivial h
      · exact (appliesEvent_deliver settings happlies).1
      · exact (appliesEvent_deliver settings happlies).2
      · obtain ⟨row, hrow, hstatus⟩ := hlatched
        obtain ⟨row', hrow', hkept⟩ :=
          step_processedKept settings hstep row (Table.mem_of_get? hrow)
        have hkey : key row = ("stripe", eventId) := Table.key_of_get? hrow
        exact ⟨row', hkey ▸ hrow', hkept hstatus⟩
    · have hkept : (states (exec settings) w ops).Pairwise
          (fun w w' => ProcessedKept w.db.paymentEvents w'.db.paymentEvents) :=
        pairwise_of_step (I := fun _ => True) (fun w => .same rfl)
          (fun _ _ _ h h' => Table.Kept.trans h h' fun _ _ _ hab hbc hrow => hbc (hab hrow))
          (fun _ _ _ _ => trivial) (fun _ _ _ hstep => step_processedKept settings hstep) trivial h
      refine hkept.imp fun hkept row hrow hstatus row' hrow' hkey => ?_
      rw [hkept.rel hrow hrow' hkey hstatus]
      decide

/-- One delivery of the visit's success is hit by a deadlock, a second one commits,
the first records its failure, and a third one finds the event failed. -/
def lateFailure : List Op :=
  let success := intentEvent "evt_1" "payment_intent.succeeded" "pi_1" "succeeded" 10000
  [.stripeIntent (intentAt "pi_1" "requires_payment_method" 0),
   .createIntent visitPayload "pay" (.ok (intentAt "pi_1" "requires_payment_method" 0)) 10,
   .stripeIntent (intentAt "pi_1" "succeeded" 10000),
   .deliver success (some (.other "deadlock detected")) 0 20,
   .deliver success none 1 21,
   .recordFailure 0,
   .deliver success none 2 22]

/-- A truthful run in which an event is applied twice and its row goes from processed
to failed. -/
theorem late_failure_reopens_event :
    Along (exec sampleSettings) Truthful visitWorld lateFailure ∧
      countSteps (exec sampleSettings) (appliesEvent "evt_1") visitWorld lateFailure = 2 ∧
      ¬ (states (exec sampleSettings) visitWorld lateFailure).Pairwise ProcessedFinal := by
  decide

end Breero.Payments
