import Breero.Payments.Effects

/-!
The status of a payment over a run. `processWebhook` writes the status of every
payment_intent event it has not seen, however old the event is, so a payment
keeps what it reached only in runs without such events.

* `status_never_regresses`: if every event of a run that is processed for the
  first time reports no earlier status than the payment has, no payment ever goes
  back from CAPTURED, PARTIALLY_REFUNDED or REFUNDED;
* `late_processing_event_regresses` is a run in which one such event undoes a
  capture.
-/

namespace Breero.Payments
open KeyedTable Runs

/-- Going from `s` to `t` undoes a capture or a refund. -/
def Regresses (s t : PaymentStatus) : Prop :=
  (s ∈ [.captured, .partiallyRefunded, .refunded] ∧
    t ∈ [.created, .requiresAction, .authorized, .failed, .canceled]) ∨
  (s ∈ [.partiallyRefunded, .refunded] ∧ t = .captured)

instance (s t : PaymentStatus) : Decidable (Regresses s t) := inferInstanceAs (Decidable (_ ∨ _))

/-- No payment of `w` has regressed in `w'`. -/
def NoRegression (w w' : World) : Prop :=
  ∀ p ∈ w.db.payments.rows, ∀ q ∈ w'.db.payments.rows, q.id = p.id →
    ¬ Regresses p.status q.status

instance (w w' : World) : Decidable (NoRegression w w') :=
  inferInstanceAs (Decidable (∀ p ∈ w.db.payments.rows, ∀ q ∈ w'.db.payments.rows,
    q.id = p.id → ¬ Regresses p.status q.status))

/-- The step processes no event that reports an earlier status than its payment has. -/
def NoStaleStatus (w : World) : Op → Prop
  | .deliver event none _ _ => alreadyProcessed w.db event = false →
      ∀ payment ∈ eventPayment w.db event, ∀ status ∈ reportedStatus event,
        ¬ Regresses payment.status status
  | _ => True

instance (w : World) : DecidablePred (NoStaleStatus w)
  | .deliver event none _ _ => inferInstanceAs (Decidable (alreadyProcessed w.db event = false →
      ∀ payment ∈ eventPayment w.db event, ∀ status ∈ reportedStatus event,
        ¬ Regresses payment.status status))
  | .deliver _ (some _) _ _ | .stripeIntent _ | .stripeRefund _ | .createIntent .. | .purchase ..
  | .capture .. | .refund .. | .recordFailure _ => isTrue trivial

theorem not_regresses_refl (s : PaymentStatus) : ¬ Regresses s s := by
  cases s <;> decide

theorem not_regresses_trans {s t u : PaymentStatus} (h : ¬ Regresses s t) (h' : ¬ Regresses t u) :
    ¬ Regresses s u := by
  cases s <;> cases t <;> cases u <;> revert h h' <;> decide

/-- A refund never undoes anything. -/
theorem not_regresses_refunded (s : PaymentStatus) (payment : Payment) (whole : Bool) :
    ¬ Regresses s (refundedPayment payment whole).status := by
  rintro (⟨_, h⟩ | ⟨_, h⟩) <;> cases whole <;> simp [refundedPayment] at h

/-! ## One step -/

/-- Every payment is kept, and none regresses. -/
abbrev StatusKept : Table Payment → Table Payment → Prop :=
  Table.Kept (fun p q => ¬ Regresses p.status q.status)

theorem StatusKept.same {t u : Table Payment} (h : u = t) : StatusKept t u :=
  Table.Kept.of_eq h (fun p => not_regresses_refl p.status)

theorem StatusKept.trans {t u v : Table Payment} (h : StatusKept t u) (h' : StatusKept u v) :
    StatusKept t v :=
  Table.Kept.trans h h' fun _ _ _ hpq hqp' => not_regresses_trans hpq hqp'

theorem StatusKept.put {t : Table Payment} {p q : Payment} (hp : t.get? q.id = some p)
    (h : ¬ Regresses p.status q.status) : StatusKept t (t.put q) :=
  Table.Kept.put hp h (fun p => not_regresses_refl p.status)

theorem StatusKept.insert {t u : Table Payment} {p : Payment} (h : t.insert? p = some u) :
    StatusKept t u :=
  Table.Kept.insert h (fun p => not_regresses_refl p.status)

/-- The payment an event is about is the row with its id. -/
theorem eventPayment_get? {db : Db} {event : StripeEvent} {payment : Payment}
    (h : eventPayment db event = some payment) :
    db.payments.get? payment.id = some payment := by
  unfold eventPayment at h
  split at h
  · obtain ⟨id, _, hfind⟩ := Option.bind_eq_some_iff.mp h
    exact Table.get?_key (List.mem_of_find?_eq_some hfind)
  · cases h

theorem IntentEffect.statusKept {db db' : Db} {payment : Payment} {event : StripeEvent}
    {now : Instant} (heffect : IntentEffect db payment event now db')
    (hpayment : db.payments.get? payment.id = some payment)
    (hstale : ∀ status ∈ reportedStatus event, ¬ Regresses payment.status status) :
    StatusKept db.payments db'.payments := by
  cases heffect with
  | failed code type =>
    rw [releaseFailedLeadPurchase_payments]
    exact .put hpayment (hstale _ (by rw [reportedStatus, if_pos type]; rfl))
  | canceled type =>
    rw [releaseFailedLeadPurchase_payments]
    refine .put hpayment (hstale _ ?_)
    rw [reportedStatus, if_neg (by rw [type]; decide), if_pos type]
    rfl
  | reported amount db' type received checks settled =>
    rw [settled.ledger.1]
    refine .put hpayment ?_
    rw [reportedStatus_eq type] at hstale
    unfold Payments.reported statusOf
    cases hlookup : stripeStatus.lookup (event.object.status.getD "") with
    | none => exact not_regresses_refl _
    | some status => exact hstale status hlookup
  | ignored type => exact .same rfl

theorem RefundEffect.statusKept {db db' : Db} {obj : StripeObject}
    (heffect : RefundEffect db obj db') : StatusKept db.payments db'.payments := by
  cases heffect with
  | ignored => exact .same rfl
  | noted refund status found shown => exact .same rfl
  | succeeded refund payment whole found shown paid =>
    rw [markLeadPurchaseRefunded_payments]
    have hid := Table.key_of_get? paid
    exact .put (hid.symm ▸ paid) (not_regresses_refunded _ _ _)

/-- One step keeps every payment's status, unless it processes a stale event. -/
theorem step_statusKept {settings : Settings} {w : World} {op : Op} (h : NoStaleStatus w op) :
    StatusKept w.db.payments (exec settings w op).db.payments := by
  have hcommit := exec_commit settings w op
  generalize (exec settings w op).db = db' at hcommit
  cases hcommit with
  | same => exact .same rfl
  | created metadata intent records payments purpose checks inserted => exact .insert inserted
  | purchased lead leadPurchases paid payment found available fresh inserted intended =>
    rcases createProfessionalLeadIntent_ok intended with ⟨rfl, _⟩ | ⟨_, _, _, _, _, hinsert, rfl⟩
    · exact .same rfl
    · exact .insert hinsert
  | captured payment intent db' found status checks settled =>
    rw [settled.ledger.1]
    have hid := Table.key_of_get? found
    refine .put (hid.symm ▸ found) ?_
    rw [status]
    rintro (⟨hmem, _⟩ | ⟨hmem, _⟩) <;> simp at hmem
  | refunded payment made refunds log event db' found status positive ofPayment covered inserted
      notCaptured result =>
    rcases result with rfl | ⟨whole, rfl⟩
    · exact .same rfl
    · rw [markLeadPurchaseRefunded_payments]
      have hid := Table.key_of_get? found
      exact .put (hid.symm ▸ found) (not_regresses_refunded _ _ _)
  | delivered applied paymentEvents fresh effect =>
    cases effect with
    | intent payment found effect =>
      exact effect.statusKept (eventPayment_get? found) (h fresh payment found)
    | refund object effect => exact effect.statusKept
    | ignored same => exact .same (by rw [same])
  | noted delivery paymentEvents => exact .same rfl

/-! ## Runs -/

/-- In a run that processes no stale event, no payment ever regresses. -/
theorem status_never_regresses (settings : Settings) (w : World) (ops : List Op)
    (h : Along (exec settings) NoStaleStatus w ops) :
    (states (exec settings) w ops).Pairwise NoRegression := by
  have hkept : (states (exec settings) w ops).Pairwise
      (fun w w' => StatusKept w.db.payments w'.db.payments) :=
    pairwise_of_step (I := fun _ => True) (fun w => .same rfl)
      (fun _ _ _ => StatusKept.trans)
      (fun _ _ _ _ => trivial) (fun _ _ _ hstep => step_statusKept hstep) trivial h
  refine hkept.imp fun hkept => ?_
  intro p hp q hq hid
  exact hkept.rel hp hq hid

/-- The visit is paid, and then the event of its processing arrives. -/
def lateProcessing : List Op :=
  visitPaid ++
    [.deliver (intentEvent "evt_1" "payment_intent.processing" "pi_1" "processing" 0) none 0 21]

theorem visit_paid_never_regresses :
    (states (exec sampleSettings) visitWorld visitPaid).Pairwise NoRegression :=
  status_never_regresses _ _ _ (by decide)

/-- A truthful run in which a captured payment becomes AUTHORIZED again. -/
theorem late_processing_event_regresses :
    Along (exec sampleSettings) Truthful visitWorld lateProcessing ∧
      ¬ (states (exec sampleSettings) visitWorld lateProcessing).Pairwise NoRegression := by
  decide

end Breero.Payments
