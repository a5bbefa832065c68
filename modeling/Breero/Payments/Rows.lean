import Breero.Payments.Status

/-!
A step of the payment system seen from the rows that payments pay for: bookings,
quotes, leads and their purchases, and the outbox.

* `reportsSuccess` and `reportsFailure` are the payments whose success or failure a
  step reports;
* `RowStep` lists what a step can do to those rows, and `exec_rowStep` says that
  every step is one of them.
-/

namespace Breero.Payments
open KeyedTable Transaction Leads Runs

/-! ## What a step reports -/

/-- The payment the step reports as captured, as it is before the step. -/
def reportsSuccess (w : World) : Op → Option Payment
  | .capture paymentId _ (.ok intent) _ _ =>
    (w.db.payments.get? paymentId).filter fun p =>
      p.status = .authorized ∧ statusOf intent.status p.status = .captured
  | .deliver event none _ _ =>
    if alreadyProcessed w.db event then none
    else (eventPayment w.db event).filter fun p =>
      ReportsState event ∧ statusOf (event.object.status.getD "") p.status = .captured
  | _ => none

/-- The payment the step reports as failed or canceled. -/
def reportsFailure (w : World) : Op → Option Payment
  | .deliver event none _ _ =>
    if alreadyProcessed w.db event then none
    else (eventPayment w.db event).filter fun _ =>
      event.type = "payment_intent.payment_failed" ∨ event.type = "payment_intent.canceled"
  | _ => none

/-! ## Rows that stay the same -/

/-- A rewritten payment still pays for the same thing. -/
structure SameRefs (p q : Payment) : Prop where
  id : q.id = p.id
  bookingId : q.bookingId = p.bookingId
  quoteId : q.quoteId = p.quoteId
  leadPurchaseId : q.leadPurchaseId = p.leadPurchaseId
  paymentPurpose : q.paymentPurpose = p.paymentPurpose

theorem SameRefs.refl (p : Payment) : SameRefs p p := ⟨rfl, rfl, rfl, rfl, rfl⟩

theorem SameRefs.trans {p q r : Payment} (h : SameRefs p q) (h' : SameRefs q r) : SameRefs p r :=
  ⟨h'.id.trans h.id, h'.bookingId.trans h.bookingId, h'.quoteId.trans h.quoteId,
    h'.leadPurchaseId.trans h.leadPurchaseId, h'.paymentPurpose.trans h.paymentPurpose⟩

theorem SameRefs.validReference {p q : Payment} (h : SameRefs p q) (hp : p.ValidReference) :
    q.ValidReference := by
  unfold Payment.ValidReference
  rw [h.paymentPurpose, h.bookingId, h.quoteId, h.leadPurchaseId]
  exact hp

/-- The event says that the payment was captured. -/
def isCaptured (paymentId : Uuid) (event : IntegrationEvent) : Bool :=
  event.aggregateType = "payment" && event.aggregateId = paymentId &&
    event.eventType = "payment_captured"

/-- The number of `payment_captured` events of a payment. -/
def capturedCount (db : Db) (paymentId : Uuid) : Nat := db.outbox.countP (isCaptured paymentId)

/-- The outbox grew by no `payment_captured` event. -/
def NothingCaptured (db db' : Db) : Prop :=
  ∀ paymentId, capturedCount db' paymentId = capturedCount db paymentId

theorem NothingCaptured.of_append {db db' : Db} {added : List IntegrationEvent}
    (h : db'.outbox = db.outbox ++ added)
    (hadded : ∀ event ∈ added, event.eventType ≠ "payment_captured") : NothingCaptured db db' := by
  intro paymentId
  have hzero : added.countP (isCaptured paymentId) = 0 := by
    rw [List.countP_eq_zero]
    intro event hevent
    simp [isCaptured, hadded event hevent]
  rw [capturedCount, h, List.countP_append, hzero]
  rfl

theorem NothingCaptured.of_same {db db' : Db} (h : db'.outbox = db.outbox) :
    NothingCaptured db db' := by
  intro paymentId
  rw [capturedCount, h]
  rfl

/-- Nothing but payments and events changed. -/
structure SameTargets (db db' : Db) : Prop where
  bookings : db'.bookings = db.bookings
  workRequests : db'.workRequests = db.workRequests
  leads : db'.leads = db.leads
  leadPurchases : db'.leadPurchases = db.leadPurchases
  captured : NothingCaptured db db'

/-- A payment is rewritten without becoming captured, or no payment changed. -/
def Rewritten (t u : Table Payment) : Prop :=
  u = t ∨ ∃ p q, t.get? p.id = some p ∧ SameRefs p q ∧
    (q.status = .captured → p.status = .captured) ∧ u = t.put q

theorem Rewritten.origin {t u : Table Payment} (h : Rewritten t u) :
    ∀ q ∈ u.rows, ∃ p ∈ t.rows, SameRefs p q ∧ (q.status = .captured → p.status = .captured) := by
  rcases h with rfl | ⟨p, q, hp, hrefs, hstatus, rfl⟩
  · exact fun q hq => ⟨q, hq, .refl q, fun h => h⟩
  · intro r hr
    rcases Table.mem_put.mp hr with ⟨rfl, _⟩ | ⟨hr, _⟩
    · exact ⟨p, Table.mem_of_get? hp, hrefs, hstatus⟩
    · exact ⟨r, hr, .refl r, fun h => h⟩

/-- The rows of a payment table after one payment was rewritten. -/
theorem put_origin {t : Table Payment} {p q : Payment} (hp : t.get? p.id = some p)
    (hrefs : SameRefs p q) : ∀ r ∈ (t.put q).rows, ∃ p' ∈ t.rows, SameRefs p' r := by
  intro r hr
  rcases Table.mem_put.mp hr with ⟨rfl, _⟩ | ⟨hr, _⟩
  · exact ⟨p, Table.mem_of_get? hp, hrefs⟩
  · exact ⟨r, hr, .refl r⟩

/-! ## The steps -/

inductive RowStep (w : World) (op : Op) (db' : Db) : Prop
  | quiet (payments : Rewritten w.db.payments db'.payments) (targets : SameTargets w.db db')
  | created (p : Payment) (purpose : p.paymentPurpose ≠ .professionalLead)
      (valid : p.ValidReference) (status : Truthful w op → p.status ≠ .captured)
      (inserted : w.db.payments.insert? p = some db'.payments)
      (targets : SameTargets w.db db')
  | purchased (lead : ProfessionalLead) (purchase : LeadPurchase)
      (found : w.db.leads.get? purchase.leadId = some lead) (available : lead.status = .available)
      (fresh : ∀ other ∈ w.db.leadPurchases.rows, other.leadId ≠ purchase.leadId)
      (inserted : w.db.leadPurchases.insert? purchase = some db'.leadPurchases)
      (leads : db'.leads = w.db.leads.put
        { lead with status := .reserved, purchasedByVendorId := some purchase.vendorId })
      (payments : ((∃ p ∈ w.db.payments.rows, p.leadPurchaseId = some purchase.id) ∧
          db'.payments = w.db.payments) ∨
        ∃ p, p.leadPurchaseId = some purchase.id ∧ p.paymentPurpose = .professionalLead ∧
          p.ValidReference ∧ (Truthful w op → p.status ≠ .captured) ∧
          w.db.payments.insert? p = some db'.payments)
      (bookings : db'.bookings = w.db.bookings)
      (workRequests : db'.workRequests = w.db.workRequests)
      (captured : NothingCaptured w.db db')
  | settled (p q : Payment) (now : Instant) (after : Db)
      (reports : reportsSuccess w op = some p)
      (found : w.db.payments.get? p.id = some p) (refs : SameRefs p q)
      (status : q.status = .captured)
      (settlement : Settlement { w.db with payments := w.db.payments.put q } q now after)
      (rows : db' = { after with paymentEvents := db'.paymentEvents })
  | released (p q : Payment) (reports : reportsFailure w op = some p)
      (found : w.db.payments.get? p.id = some p) (refs : SameRefs p q)
      (status : q.status ≠ .captured)
      (rows : db' = { releaseFailedLeadPurchase
        { w.db with payments := w.db.payments.put q } q with
        paymentEvents := db'.paymentEvents })
  | refunded (p : Payment) (whole : Bool) (before : Db)
      (found : w.db.payments.get? p.id = some p)
      (payments : before.payments = w.db.payments.put (refundedPayment p whole))
      (targets : SameTargets w.db before)
      (rows : db' = { markLeadPurchaseRefunded before (refundedPayment p whole) with
        paymentEvents := db'.paymentEvents })

theorem stripeStatus_captured {status : String} {current : PaymentStatus}
    (h : statusOf status current = .captured) : status = "succeeded" ∨ current = .captured := by
  unfold statusOf at h
  cases hlookup : stripeStatus.lookup status with
  | none =>
    rw [hlookup] at h
    exact Or.inr h
  | some s =>
    rw [hlookup, Option.getD_some] at h
    have honly : ∀ pair ∈ stripeStatus, pair.2 = .captured → pair.1 = "succeeded" := by decide
    obtain ⟨pre, post, hsplit, _⟩ := List.lookup_eq_some_iff.mp hlookup
    exact Or.inl (honly (status, s) (by simp [hsplit]) h)

theorem newIntent_not_captured {intent : ProviderIntent} (h : NewIntent intent) :
    statusOf intent.status .created ≠ .captured := by
  intro hcaptured
  rcases stripeStatus_captured hcaptured with hstatus | hstatus
  · exact h.1 hstatus
  · cases hstatus

theorem reportsSuccess_deliver {w : World} {event : StripeEvent} {now : Instant} {jobId : Uuid}
    {payment : Payment} (fresh : alreadyProcessed w.db event = false)
    (found : eventPayment w.db event = some payment) (type : ReportsState event)
    (status : statusOf (event.object.status.getD "") payment.status = .captured) :
    reportsSuccess w (.deliver event none now jobId) = some payment := by
  simp [reportsSuccess, fresh, found, type, status, Option.filter]

theorem reportsFailure_deliver {w : World} {event : StripeEvent} {now : Instant} {jobId : Uuid}
    {payment : Payment} (fresh : alreadyProcessed w.db event = false)
    (found : eventPayment w.db event = some payment)
    (type : event.type = "payment_intent.payment_failed" ∨
      event.type = "payment_intent.canceled") :
    reportsFailure w (.deliver event none now jobId) = some payment := by
  simp [reportsFailure, fresh, found, type, Option.filter]

theorem SettledIfCaptured.rowStep {w : World} {op : Op} {db' : Db} {p : Payment} {status : String}
    {amount : Int} {now : Instant} (found : w.db.payments.get? p.id = some p)
    (hreports : statusOf status p.status = .captured → reportsSuccess w op = some p)
    (settled : SettledIfCaptured
      { w.db with payments := w.db.payments.put (reported p status amount) }
      (reported p status amount) now db') (paymentEvents : Table PaymentEvent) :
    RowStep w op { db' with paymentEvents } := by
  have hrefs : SameRefs p (reported p status amount) := ⟨rfl, rfl, rfl, rfl, rfl⟩
  rcases settled with ⟨hstatus, hsettlement⟩ | ⟨hstatus, rfl⟩
  · exact .settled p _ now db' (hreports hstatus) found hrefs hstatus hsettlement rfl
  · refine .quiet (Or.inr ⟨p, _, found, hrefs, fun h => absurd h hstatus, rfl⟩)
      ⟨rfl, rfl, rfl, rfl, .of_same rfl⟩

theorem IntentEffect.rowStep {w : World} {event : StripeEvent} {now : Instant} {jobId : Uuid}
    {db' : Db} {payment : Payment} (fresh : alreadyProcessed w.db event = false)
    (found : eventPayment w.db event = some payment)
    (effect : IntentEffect w.db payment event now db') (paymentEvents : Table PaymentEvent) :
    RowStep w (.deliver event none now jobId) { db' with paymentEvents } := by
  have hget := eventPayment_get? found
  cases effect with
  | failed code type =>
    exact .released payment { payment with status := .failed, failureCode := code }
      (reportsFailure_deliver fresh found (Or.inl type)) hget ⟨rfl, rfl, rfl, rfl, rfl⟩
      (by simp) rfl
  | canceled type =>
    exact .released payment { payment with status := .canceled }
      (reportsFailure_deliver fresh found (Or.inr type)) hget ⟨rfl, rfl, rfl, rfl, rfl⟩
      (by simp) rfl
  | reported amount db' type received checks settled =>
    exact settled.rowStep hget (reportsSuccess_deliver fresh found type) paymentEvents
  | ignored type => exact .quiet (Or.inl rfl) ⟨rfl, rfl, rfl, rfl, .of_same rfl⟩

theorem RefundEffect.rowStep {w : World} {op : Op} {obj : StripeObject} {db' : Db}
    (effect : RefundEffect w.db obj db') (paymentEvents : Table PaymentEvent) :
    RowStep w op { db' with paymentEvents } := by
  cases effect with
  | ignored => exact .quiet (Or.inl rfl) ⟨rfl, rfl, rfl, rfl, .of_same rfl⟩
  | noted refund status found shown =>
    exact .quiet (Or.inl rfl) ⟨rfl, rfl, rfl, rfl, .of_same rfl⟩
  | succeeded refund payment whole found shown paid =>
    exact .refunded payment whole
      { w.db with
        refunds := w.db.refunds.put { refund with status := .succeeded }
        payments := w.db.payments.put (refundedPayment payment whole) }
      (Table.get?_found paid) rfl ⟨rfl, rfl, rfl, rfl, .of_same rfl⟩ rfl

/-- Every step is one of the row steps. -/
theorem exec_rowStep (settings : Settings) (w : World) (op : Op) :
    RowStep w op (exec settings w op).db := by
  have hcommit := exec_commit settings w op
  generalize (exec settings w op).db = db' at hcommit
  cases hcommit with
  | same => exact .quiet (Or.inl rfl) ⟨rfl, rfl, rfl, rfl, .of_same rfl⟩
  | created metadata intent records payments purpose checks inserted =>
    exact .created _ purpose checks.1 newIntent_not_captured inserted
      ⟨rfl, rfl, rfl, rfl, .of_same rfl⟩
  | purchased lead leadPurchases paid payment found available fresh inserted intended =>
    have hlead : w.db.leads.get? lead.id = some lead := Table.get?_found found
    rcases createProfessionalLeadIntent_ok intended with
      ⟨rfl, hmem, hof⟩ | ⟨intent, payments, rfl, rfl, hchecks, hinsert, rfl⟩
    · exact .purchased lead _ hlead available fresh inserted rfl
        (Or.inl ⟨⟨payment, hmem, hof⟩, rfl⟩) rfl rfl (.of_same rfl)
    · exact .purchased lead _ hlead available fresh inserted rfl
        (Or.inr ⟨_, rfl, rfl, hchecks.1, newIntent_not_captured, hinsert⟩) rfl rfl (.of_same rfl)
  | captured payment intent db' found status checks settled =>
    have hid : payment.id = _ := Table.key_of_get? found
    refine settled.rowStep (hid.symm ▸ found) (fun hcaptured => ?_) db'.paymentEvents
    simp [reportsSuccess, found, status, Option.filter, status ▸ hcaptured]
  | refunded payment made refunds log event db' found status positive ofPayment covered inserted
      notCaptured result =>
    have htargets : SameTargets w.db (withRefund w.db refunds log event) := by
      refine ⟨rfl, rfl, rfl, rfl, .of_append rfl ?_⟩
      simp [notCaptured]
    rcases result with rfl | ⟨whole, rfl⟩
    · exact .quiet (Or.inl rfl) htargets
    · exact .refunded payment whole
        { withRefund w.db refunds log event with
          payments := w.db.payments.put (refundedPayment payment whole) }
        (Table.get?_found found) rfl
        ⟨rfl, rfl, rfl, rfl, htargets.captured⟩ rfl
  | delivered applied paymentEvents fresh effect =>
    cases effect with
    | intent payment found effect => exact effect.rowStep fresh found paymentEvents
    | refund object effect => exact effect.rowStep paymentEvents
    | ignored same =>
      subst same
      exact .quiet (Or.inl rfl) ⟨rfl, rfl, rfl, rfl, .of_same rfl⟩
  | noted delivery paymentEvents =>
    exact .quiet (Or.inl rfl) ⟨rfl, rfl, rfl, rfl, .of_same rfl⟩

end Breero.Payments
