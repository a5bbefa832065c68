import Breero.Payments.Effects

/-!
The events of one refund while it is being made. `refund` holds the lock of the payment from
its first query to its commit, with the provider's answer in between; the row of the refund
is there only after the commit, and an event that comes earlier finds none.

* `beginRefund` and `finishRefund` are `refund` before and after the provider's answer;
* `Refunding` is the call, the provider's refund and the deliveries of its events, in any
  order;
* `Refunding.agrees_iff`: when all of them have finished, the refund and its payment show the
  last status of the provider in exactly the runs that are `InOrder`.
-/

namespace Breero.Payments
open KeyedTable Transaction Runs

structure RefundRequest where
  paymentId : Uuid
  amountMinor : Option Int
  key : String
  actorId : Uuid
  reason : Option String
  deriving DecidableEq, Repr

/-- What `refund` has read when it calls the provider. -/
structure OpenRefund where
  payment : Payment
  remaining : Int
  requested : Int
  deriving DecidableEq, Repr

/-- `refund` up to the call of the provider, or the answer to a key that was used before. -/
def beginRefund (db : Db) (request : RefundRequest) :
    Except Raised (RefundView ⊕ OpenRefund) := do
  let payment ← orRaise (db.payments.get? request.paymentId)
    (.paymentNotFound "Payment not found")
  require payment.providerPaymentId.isSome (.paymentNotFound "Payment not found")
  match refundByKey db payment.id request.key with
  | some existing => return .inl (refundView existing)
  | none => do
    require (payment.status = .captured ∨ payment.status = .partiallyRefunded)
      (.invalidPaymentState "Only captured payments can be refunded")
    let refunded := refundedAmount db payment.id activeRefundStatus
    let remaining := payment.capturedAmountMinor - refunded
    let requested := request.amountMinor.getD remaining
    require (0 < requested ∧ requested ≤ remaining)
      (.invalidPaymentState "Refund amount exceeds refundable balance")
    return .inr { payment, remaining, requested }

/-- The row `refund` adds. -/
def OpenRefund.row (call : OpenRefund) (request : RefundRequest) (answer : ProviderRefund)
    (refundId : Uuid) : Refund :=
  newRefund call.payment call.requested request.key request.actorId request.reason answer refundId

/-- `refund` from the answer of the provider to the commit. -/
def finishRefund (db : Db) (request : RefundRequest) (call : OpenRefund)
    (answer : ProviderRefund) (now : Instant) (refundId : Uuid) :
    Except Raised (Db × RefundView) := do
  let refund := call.row request answer refundId
  let db ← db.addRefund refund
  let db := db.audit (refundAudit call.payment refund answer request.actorId now)
  let db ← (if refund.status = .succeeded
    then applyRefunded db call.payment (call.requested = call.remaining) else pure db)
  return (db.emit (refundCreated call.payment refund now), refundView refund)

/-- The two parts are `refund`. -/
theorem refund_eq (db : Db) (request : RefundRequest) (answer : Except Raised ProviderRefund)
    (now : Instant) (refundId : Uuid) :
    refund db request.paymentId request.amountMinor request.key request.actorId request.reason
      answer now refundId = (do
        match ← beginRefund db request with
        | .inl view => return (db, view)
        | .inr call => do
          let answer ← answer
          finishRefund db request call answer now refundId) := by
  unfold refund beginRefund finishRefund OpenRefund.row
  simp only [bind_assoc]
  refine bind_congr fun payment => bind_congr fun _ => ?_
  cases refundByKey db payment.id request.key with
  | some existing => rfl
  | none => simp only [bind_assoc, pure_bind]

/-! ## The call, the provider's refund and its events -/

structure Refunding where
  db : Db
  /-- the call that waits for the provider -/
  call : Option OpenRefund := none
  /-- what the provider answered to the key -/
  answer : Option ProviderRefund := none
  /-- the provider's refund as it is now -/
  refund : Option ProviderRefund := none
  /-- the events the provider has sent -/
  events : List StripeEvent := []
  /-- the deliveries rolled back whose failure is not recorded yet -/
  failures : List (StripeEvent × Raised) := []
  /-- the call that committed, and the row it added -/
  committed : Option (OpenRefund × Uuid) := none
  /-- what the events said that were processed since the commit -/
  applied : List RefundStatus := []

namespace Refunding

inductive Op
  | begin
  | create (id status : String)
  | change (status eventId : String)
  | send (eventId : String)
  | finish (now : Instant) (refundId : Uuid)
  /-- the call ends without the provider's answer -/
  | abort
  | deliver (event : Nat) (fault : Option Raised) (now : Instant) (jobId : Uuid)
  | recordFailure (delivery : Nat)

/-- The event that shows the provider's refund. -/
def statusEvent (eventId : String) (refund : ProviderRefund) : StripeEvent where
  id := eventId
  type := "refund.updated"
  object := { object := some "refund", id := some refund.id, status := some refund.status }

/-- No event has this id. -/
def NewEvent (w : Refunding) (eventId : String) : Prop :=
  (∀ event ∈ w.events, event.id ≠ eventId) ∧ w.db.paymentEvents.get? ("stripe", eventId) = none

instance (w : Refunding) (eventId : String) : Decidable (NewEvent w eventId) :=
  inferInstanceAs (Decidable (_ ∧ _))

/-- The provider's refund is now `refund`, and an event says so. -/
def tell (w : Refunding) (refund : ProviderRefund) (eventId : String) : Refunding :=
  if NewEvent w eventId
  then { w with refund := some refund, events := w.events ++ [statusEvent eventId refund] }
  else w

/-- What an event says about the status of a refund. -/
def saidStatus (event : StripeEvent) : Option RefundStatus :=
  event.object.status.bind RefundStatus.ofValue?

def exec (request : RefundRequest) (w : Refunding) : Op → Refunding
  | .begin =>
    match beginRefund w.db request with
    | .ok (.inr call) => { w with call := some call }
    | _ => w
  | .create id status =>
    if w.call.isSome ∧ w.answer = none ∧ refundByProviderId w.db id = none
    then { w with answer := some { id, status }, refund := some { id, status } }
    else w
  | .change status eventId =>
    match w.refund with
    | some refund => w.tell { refund with status } eventId
    | none => w
  | .send eventId =>
    match w.refund with
    | some refund => w.tell refund eventId
    | none => w
  | .finish now refundId =>
    match w.call, w.answer with
    | some call, some answer =>
      match finishRefund w.db request call answer now refundId with
      | .ok (db, _) => { w with db, call := none, committed := some (call, refundId) }
      | .error _ => { w with call := none }
    | _, _ => w
  | .abort => { w with call := none }
  | .deliver event fault now jobId =>
    match w.events[event]? with
    | none => w
    | some event =>
      match Payments.deliver w.db event fault now jobId with
      | .ok (db, duplicate) =>
        { w with
          db
          applied := if duplicate || w.committed.isNone then w.applied
            else w.applied ++ (saidStatus event).toList }
      | .error exc => { w with failures := w.failures ++ [(event, exc)] }
  | .recordFailure delivery =>
    match w.failures[delivery]? with
    | none => w
    | some (event, exc) =>
      { w with
        db := match Payments.recordFailure w.db event exc with
          | .ok db => db
          | .error _ => w.db
        failures := w.failures.eraseIdx delivery }

/-! ## The law -/

/-- The call and all deliveries have finished, and every event is recorded processed. -/
def Settled (w : Refunding) : Prop :=
  w.call = none ∧ w.committed.isSome ∧ w.failures = [] ∧
    ∀ event ∈ w.events, alreadyProcessed w.db event = true

/-- A refund of the payment has succeeded. -/
def someRefunded (db : Db) (payment : Payment) : Bool :=
  db.refunds.rows.any fun r => r.paymentId = payment.id ∧ r.status = .succeeded

/-- The status of a captured payment that its refunds stand for. -/
def refundedStatus (db : Db) (payment : Payment) : PaymentStatus :=
  if someRefunded db payment then
    if whollyRefunded db payment then .refunded else .partiallyRefunded
  else .captured

/-- The row has the status of the provider's refund, and its payment the status that its
refunds stand for. -/
def Shows (db : Db) (refundId : Uuid) (refund : ProviderRefund) : Prop :=
  ∃ row ∈ db.refunds.get? refundId, ∃ payment ∈ db.payments.get? row.paymentId,
    row.status = refundStatusOf refund ∧ payment.status = refundedStatus db payment

def Agrees (w : Refunding) : Prop :=
  ∃ made ∈ w.committed, ∃ refund ∈ w.refund, Shows w.db made.2 refund

/-- With the refunds of `db` that succeeded, the call refunds all that was captured. -/
def Completes (db : Db) (call : OpenRefund) : Prop :=
  call.payment.capturedAmountMinor ≤
    refundedAmount db call.payment.id (· = .succeeded) + call.requested

instance : DecidablePred Settled := fun _ => inferInstanceAs (Decidable (_ ∧ _ ∧ _ ∧ _))

instance (db : Db) (refundId : Uuid) (refund : ProviderRefund) :
    Decidable (Shows db refundId refund) :=
  inferInstanceAs (Decidable (∃ row ∈ db.refunds.get? refundId,
    ∃ payment ∈ db.payments.get? row.paymentId,
      row.status = refundStatusOf refund ∧ payment.status = refundedStatus db payment))

instance : DecidablePred Agrees := fun w =>
  inferInstanceAs (Decidable (∃ made ∈ w.committed, ∃ refund ∈ w.refund,
    Shows w.db made.2 refund))

instance (db : Db) (call : OpenRefund) : Decidable (Completes db call) :=
  inferInstanceAs (Decidable (_ ≤ _))

/-- `applied` leaves the payment in the status it should have. In order: the call itself
said that the refund succeeded, and counted it together with the pending ones; the
refund succeeded for a while; it never did. -/
def PaymentInOrder (db : Db) (call : OpenRefund) (answered : RefundStatus)
    (applied : List RefundStatus) : Prop :=
  if applied.getLastD answered = .succeeded then
    .succeeded ∈ applied ∨ (call.requested = call.remaining ↔ Completes db call)
  else if .succeeded ∈ applied then
    someRefunded db call.payment ∧ (whollyRefunded db call.payment ↔ Completes db call)
  else if answered = .succeeded then
    someRefunded db call.payment ∧
      (whollyRefunded db call.payment ↔ call.requested = call.remaining)
  else call.payment.status = refundedStatus db call.payment

/-- The provider's last status is the last one that reached the row, and the payment was left
as it should be. `db` is the database before the call. -/
def InOrder (db : Db) (w : Refunding) : Prop :=
  ∃ made ∈ w.committed, ∃ answer ∈ w.answer, ∃ refund ∈ w.refund,
    w.applied.getLastD (refundStatusOf answer) = refundStatusOf refund ∧
    PaymentInOrder db made.1 (refundStatusOf answer) w.applied

/-! ## The call -/

theorem beginRefund_congr {db db' : Db} (hp : db'.payments = db.payments)
    (hr : db'.refunds = db.refunds) (request : RefundRequest) :
    beginRefund db' request = beginRefund db request := by
  unfold beginRefund refundByKey refundedAmount
  rw [hp, hr]

/-- What a call that reaches the provider has read. -/
theorem beginRefund_ok {db : Db} {request : RefundRequest} {call : OpenRefund}
    (h : beginRefund db request = .ok (.inr call)) :
    db.payments.get? request.paymentId = some call.payment ∧
      refundByKey db call.payment.id request.key = none := by
  simp only [beginRefund, seq_committed, orRaise_committed, require_committed] at h
  obtain ⟨payment, hpayment, _, _, h⟩ := h
  split at h
  · cases h
  · next hkey =>
    simp only [seq_committed, require_committed, return_committed, Sum.inr.injEq] at h
    obtain ⟨_, _, _, _, rfl⟩ := h
    exact ⟨hpayment, hkey⟩

/-- The status of the payment after the call and the events `applied` since its commit. -/
def statusAfter (db : Db) (call : OpenRefund) (answered : RefundStatus)
    (applied : List RefundStatus) : PaymentStatus :=
  if .succeeded ∈ applied then (refundedPayment call.payment (Completes db call)).status
  else if answered = .succeeded then
    (refundedPayment call.payment (call.requested = call.remaining)).status
  else call.payment.status

/-- The payment after the call and those events. -/
def paymentAfter (db : Db) (call : OpenRefund) (answered : RefundStatus)
    (applied : List RefundStatus) : Payment :=
  { call.payment with status := statusAfter db call answered applied }

/-- The row of the refund after the events `applied`. -/
def rowAfter (request : RefundRequest) (call : OpenRefund) (answer : ProviderRefund)
    (refundId : Uuid) (applied : List RefundStatus) : Refund :=
  { call.row request answer refundId with
    status := applied.getLastD (refundStatusOf answer) }

/-- The refund and its payment after the commit and the events `applied`. -/
structure Written (request : RefundRequest) (db : Db) (call : OpenRefund)
    (answer : ProviderRefund) (refundId : Uuid) (applied : List RefundStatus) (db' : Db) :
    Prop where
  refunds : db'.refunds.rows =
    db.refunds.rows ++ [rowAfter request call answer refundId applied]
  payments : db'.payments =
    db.payments.put (paymentAfter db call (refundStatusOf answer) applied)

theorem finishRefund_ok {request : RefundRequest} {db db' : Db} {call : OpenRefund}
    {answer : ProviderRefund} {now : Instant} {refundId : Uuid} {v : RefundView}
    (hpayment : db.payments.get? call.payment.id = some call.payment)
    (h : finishRefund db request call answer now refundId = .ok (db', v)) :
    Written request db call answer refundId [] db' := by
  simp only [finishRefund, seq_committed, return_committed, Prod.mk.injEq] at h
  obtain ⟨_, hadd, paid, hpaid, rfl, _⟩ := h
  obtain ⟨_, refunds, hinsert, rfl⟩ := Db.addRefund_ok hadd
  have hrows : refunds.rows = db.refunds.rows ++ [rowAfter request call answer refundId []] :=
    (Table.insert?_eq_some.mp hinsert).2
  split at hpaid
  · next hsucceeded =>
    rw [applyRefunded_ok hpaid]
    have hanswer : refundStatusOf answer = .succeeded := hsucceeded
    refine ⟨?_, ?_⟩
    · show (markLeadPurchaseRefunded _ _).refunds.rows = _
      rw [markLeadPurchaseRefunded_refunds]
      exact hrows
    · show (markLeadPurchaseRefunded _ _).payments = _
      rw [markLeadPurchaseRefunded_payments, paymentAfter, statusAfter, if_neg List.not_mem_nil,
        if_pos hanswer]
      rfl
  · next hother =>
    rw [return_committed] at hpaid
    subst hpaid
    have hanswer : refundStatusOf answer ≠ .succeeded := hother
    refine ⟨hrows, ?_⟩
    rw [paymentAfter, statusAfter, if_neg List.not_mem_nil, if_neg hanswer]
    exact (Table.put_self hpayment).symm

/-! ## The deliveries -/

/-- A delivery of an event about a refund does what the event says, or is a duplicate. -/
theorem deliver_refund_ok {db db' : Db} {event : StripeEvent} {fault : Option Raised}
    {now : Instant} {jobId : Uuid} {duplicate : Bool}
    (hobject : event.object.object = some "refund")
    (h : deliver db event fault now jobId = .ok (db', duplicate)) :
    (duplicate = true ∧ db' = db) ∨
    (duplicate = false ∧ ∃ applied payment,
      applyRefundEvent db event.object = .ok (applied, payment) ∧
      db'.payments = applied.payments ∧ db'.refunds = applied.refunds) := by
  unfold deliver at h
  split at h
  · simp only [return_committed, Prod.mk.injEq] at h
    exact Or.inl ⟨h.2.symm, h.1.symm⟩
  · next hprocessed =>
    right
    have hintent : eventPayment db event = none := by
      unfold eventPayment
      rw [if_neg]
      rw [hobject]
      decide
    cases fault with
    | some exc => cases h
    | none =>
      simp only [processWebhook, if_neg hprocessed, seq_committed, return_committed,
        Prod.mk.injEq, Prod.exists, applyEvent, hintent, if_pos hobject] at h
      obtain ⟨applied, payment, happly, _, hrecord, rfl, rfl⟩ := h
      obtain ⟨_, rfl, _⟩ := recordProcessed_ok hrecord
      exact ⟨rfl, applied, payment, happly, rfl, rfl⟩

/-- An event about a refund that has no row yet, or in a status the application does not
know, changes nothing. -/
theorem applyRefundEvent_unknown {db db' : Db} {obj : StripeObject} {payment : Option Payment}
    (hunknown : obj.id.bind (refundByProviderId db) = none ∨
      obj.status.bind RefundStatus.ofValue? = none)
    (h : applyRefundEvent db obj = .ok (db', payment)) : db' = db := by
  unfold applyRefundEvent at h
  split at h
  · next refund status hrefund hstatus =>
    rw [hrefund, hstatus] at hunknown
    rcases hunknown with hunknown | hunknown
    · cases hunknown
    · cases hunknown
  · simp only [return_committed, Prod.mk.injEq] at h
    exact h.1.symm

/-- What an event about a stored refund writes. -/
theorem applyRefundEvent_known {db db' : Db} {obj : StripeObject} {found : Option Payment}
    {refund : Refund} {payment : Payment} {status : RefundStatus}
    (hrefund : obj.id.bind (refundByProviderId db) = some refund)
    (hstatus : obj.status.bind RefundStatus.ofValue? = some status)
    (hpayment : db.payments.get? refund.paymentId = some payment)
    (h : applyRefundEvent db obj = .ok (db', found)) :
    db'.refunds = db.refunds.put { refund with status } ∧
    db'.payments = db.payments.put (if status = .succeeded
      then refundedPayment payment
        (whollyRefunded { db with refunds := db.refunds.put { refund with status } } payment)
      else payment) := by
  simp only [applyRefundEvent, hrefund, hstatus, hpayment, seq_committed, return_committed,
    Prod.mk.injEq] at h
  obtain ⟨_, hrefunded, rfl, _⟩ := h
  split at hrefunded
  · next hsucceeded =>
    rw [applyRefunded_ok hrefunded, markLeadPurchaseRefunded_refunds,
      markLeadPurchaseRefunded_payments, if_pos hsucceeded]
    exact ⟨rfl, rfl⟩
  · next hother =>
    rw [return_committed] at hrefunded
    subst hrefunded
    rw [if_neg hother, Table.put_self hpayment]
    exact ⟨rfl, rfl⟩

section
variable {request : RefundRequest} {db db' : Db} {call : OpenRefund} {answer : ProviderRefund}
  {refundId : Uuid} {applied : List RefundStatus}

theorem Written.payment (h : Written request db call answer refundId applied db')
    (hpayment : db.payments.get? call.payment.id = some call.payment) :
    db'.payments.get? call.payment.id =
      some (paymentAfter db call (refundStatusOf answer) applied) := by
  rw [h.payments]
  exact Table.get?_put_self hpayment rfl

theorem Written.row (h : Written request db call answer refundId applied db') :
    db'.refunds.get? refundId = some (rowAfter request call answer refundId applied) :=
  Table.get?_eq_some.mpr ⟨by rw [h.refunds]; simp, rfl⟩

theorem Written.found (h : Written request db call answer refundId applied db')
    (hfresh : refundByProviderId db answer.id = none) :
    refundByProviderId db' answer.id = some (rowAfter request call answer refundId applied) := by
  unfold refundByProviderId at hfresh ⊢
  rw [h.refunds, List.find?_append, hfresh, Option.none_or]
  exact List.find?_cons_of_pos (by simp [rowAfter, OpenRefund.row, newRefund])

/-- What the refunds of a payment sum to with one more row. -/
theorem refundedAmount_append {row : Refund} {paymentId : Uuid} {p : RefundStatus → Bool}
    (h : db'.refunds.rows = db.refunds.rows ++ [row]) (hof : row.paymentId = paymentId) :
    refundedAmount db' paymentId p =
      refundedAmount db paymentId p + if p row.status then row.amountMinor else 0 := by
  unfold refundedAmount
  rw [h, List.filter_append, List.map_append, List.sum_append]
  by_cases hp : p row.status
  · simp [hof, hp]
  · simp [hp]

/-- The sum of the refunds that succeeded, the call's own among them. -/
theorem whollyRefunded_rowAfter (payment : Payment)
    (hrows : db'.refunds.rows =
      db.refunds.rows ++ [rowAfter request call answer refundId applied])
    (hlast : applied.getLastD (refundStatusOf answer) = .succeeded)
    (hid : payment.id = call.payment.id)
    (hcaptured : payment.capturedAmountMinor = call.payment.capturedAmountMinor) :
    whollyRefunded db' payment = decide (Completes db call) := by
  have hsum : refundedAmount db' call.payment.id (· = .succeeded) =
      refundedAmount db call.payment.id (· = .succeeded) + call.requested := by
    have hof : (rowAfter request call answer refundId applied).paymentId = call.payment.id := rfl
    rw [refundedAmount_append hrows hof]
    simp only [rowAfter, hlast, decide_true, if_true]
    rfl
  unfold whollyRefunded
  rw [hid, hcaptured, hsum]
  rfl

theorem paymentAfter_succeeded (answered : RefundStatus) :
    paymentAfter db call answered (applied ++ [.succeeded]) =
      refundedPayment call.payment (Completes db call) := by
  rw [paymentAfter, statusAfter, if_pos (by simp)]
  rfl

theorem paymentAfter_other {answered status : RefundStatus} (h : status ≠ .succeeded) :
    paymentAfter db call answered (applied ++ [status]) =
      paymentAfter db call answered applied := by
  simp [paymentAfter, statusAfter, List.mem_append, h.symm]

/-- One more event about the refund. -/
theorem Written.deliver {status : RefundStatus} {obj : StripeObject} {found : Option Payment}
    {after : Db} (h : Written request db call answer refundId applied db')
    (hpayment : db.payments.get? call.payment.id = some call.payment)
    (hfresh : refundByProviderId db answer.id = none) (hid : obj.id = some answer.id)
    (hstatus : obj.status.bind RefundStatus.ofValue? = some status)
    (happly : applyRefundEvent db' obj = .ok (after, found)) :
    Written request db call answer refundId (applied ++ [status]) after := by
  have hrefund : obj.id.bind (refundByProviderId db') =
      some (rowAfter request call answer refundId applied) := by
    rw [hid]
    exact h.found hfresh
  obtain ⟨hrefunds, hpayments⟩ :=
    applyRefundEvent_known hrefund hstatus (h.payment hpayment) happly
  have hrow : { rowAfter request call answer refundId applied with status } =
      rowAfter request call answer refundId (applied ++ [status]) := by
    simp [rowAfter]
  rw [hrow] at hrefunds hpayments
  have hrows : (db'.refunds.put
        (rowAfter request call answer refundId (applied ++ [status]))).rows =
      db.refunds.rows ++ [rowAfter request call answer refundId (applied ++ [status])] :=
    Table.put_last h.refunds rfl
  have hwhole : status = .succeeded → whollyRefunded
        { db' with
          refunds := db'.refunds.put
            (rowAfter request call answer refundId (applied ++ [status])) }
        (paymentAfter db call (refundStatusOf answer) applied) = decide (Completes db call) := by
    intro hsucceeded
    refine whollyRefunded_rowAfter _ hrows ?_ rfl rfl
    rw [hsucceeded]
    simp
  refine ⟨hrefunds ▸ hrows, ?_⟩
  rw [hpayments]
  by_cases hsucceeded : status = .succeeded
  · rw [if_pos hsucceeded, hwhole hsucceeded, h.payments, hsucceeded,
      paymentAfter_succeeded]
    exact Table.put_put rfl
  · rw [if_neg hsucceeded, paymentAfter_other hsucceeded, h.payments]
    exact Table.put_put rfl

end

/-! ## The invariant -/

/-- What is known of a run that starts from `db`: until the commit nothing is written, and
after it exactly the events processed since. -/
structure Tracked (request : RefundRequest) (db : Db) (w : Refunding) : Prop where
  opened : ∀ call, w.call = some call →
    beginRefund db request = .ok (.inr call) ∧ w.committed = none
  fresh : ∀ answer, w.answer = some answer → refundByProviderId db answer.id = none
  refund : ∀ refund, w.refund = some refund → ∃ answer, w.answer = some answer ∧
    refund.id = answer.id
  answered : ∀ answer, w.answer = some answer → ∃ refund, w.refund = some refund
  events : ∀ event ∈ w.events, event.object.object = some "refund" ∧
    ∃ answer, w.answer = some answer ∧ event.object.id = some answer.id
  before : w.committed = none →
    w.db.payments = db.payments ∧ w.db.refunds = db.refunds ∧ w.applied = []
  after : ∀ call refundId, w.committed = some (call, refundId) →
    beginRefund db request = .ok (.inr call) ∧ ∃ answer, w.answer = some answer ∧
      Written request db call answer refundId w.applied w.db

namespace Tracked

variable {request : RefundRequest} {db : Db} {w : Refunding}

theorem start (request : RefundRequest) (db : Db) : Tracked request db { db } where
  opened := by rintro _ ⟨⟩
  fresh := by rintro _ ⟨⟩
  refund := by rintro _ ⟨⟩
  answered := by rintro _ ⟨⟩
  events _ h := absurd h List.not_mem_nil
  before _ := ⟨rfl, rfl, rfl⟩
  after := by rintro _ _ ⟨⟩

/-- The same payments and refunds in another database. -/
theorem of_tables (h : Tracked request db w) {db' : Db} (hp : db'.payments = w.db.payments)
    (hr : db'.refunds = w.db.refunds) (failures : List (StripeEvent × Raised)) :
    Tracked request db { w with db := db', failures } where
  opened := h.opened
  fresh := h.fresh
  refund := h.refund
  answered := h.answered
  events := h.events
  before hnone := by
    obtain ⟨hpayments, hrefunds, happlied⟩ := h.before hnone
    exact ⟨hp.trans hpayments, hr.trans hrefunds, happlied⟩
  after call refundId hcommitted := by
    obtain ⟨hbegin, answer, hanswer, hwritten⟩ := h.after call refundId hcommitted
    refine ⟨hbegin, answer, hanswer, ?_, ?_⟩
    · rw [hr]
      exact hwritten.refunds
    · rw [hp]
      exact hwritten.payments

theorem tell (h : Tracked request db w) {refund : ProviderRefund} (refund' : ProviderRefund)
    (hrefund : w.refund = some refund) (hid : refund'.id = refund.id) (eventId : String) :
    Tracked request db (w.tell refund' eventId) := by
  obtain ⟨answer, hanswer, hrid⟩ := h.refund refund hrefund
  unfold Refunding.tell
  split
  · refine { h with refund := ?_, answered := ?_, events := ?_ }
    · rintro _ ⟨⟩
      exact ⟨answer, hanswer, hid.trans hrid⟩
    · intro _ _
      exact ⟨refund', rfl⟩
    · intro event hevent
      rcases List.mem_append.mp hevent with hevent | hevent
      · exact h.events event hevent
      · rw [List.mem_singleton] at hevent
        subst hevent
        exact ⟨rfl, answer, hanswer, congrArg some (hid.trans hrid)⟩
  · exact h

/-- A call after the commit finds the row of the first one. -/
theorem no_second_call (h : Tracked request db w) {call : OpenRefund}
    (hbegin : beginRefund w.db request = .ok (.inr call)) : w.committed = none := by
  cases hcommitted : w.committed with
  | none => rfl
  | some made =>
    exfalso
    obtain ⟨first, refundId⟩ := made
    obtain ⟨hfirst, answer, _, hwritten⟩ := h.after first refundId hcommitted
    obtain ⟨hpayment, _⟩ := beginRefund_ok hfirst
    obtain ⟨hagain, hkey⟩ := beginRefund_ok hbegin
    have hid : first.payment.id = request.paymentId := Table.key_of_get? hpayment
    rw [← hid] at hpayment hagain
    have hsame : paymentAfter db first (refundStatusOf answer) w.applied = call.payment :=
      Option.some.inj ((hwritten.payment hpayment).symm.trans hagain)
    have hrow : rowAfter request first answer refundId w.applied ∈ w.db.refunds.rows :=
      Table.mem_of_get? hwritten.row
    have := List.find?_eq_none.mp hkey _ hrow
    apply this
    rw [← hsame]
    simp [rowAfter, OpenRefund.row, newRefund, paymentAfter]

/-- The payments and refunds after a delivery that was not a duplicate. -/
theorem delivered (h : Tracked request db w) {event : StripeEvent} (hevent : event ∈ w.events)
    {applied db' : Db} {payment : Option Payment}
    (happly : applyRefundEvent w.db event.object = .ok (applied, payment))
    (hp : db'.payments = applied.payments) (hr : db'.refunds = applied.refunds) :
    Tracked request db { w with
      db := db'
      applied := if w.committed.isNone then w.applied
        else w.applied ++ (saidStatus event).toList } := by
  obtain ⟨_, answer, hanswer, hid⟩ := h.events event hevent
  have hfresh := h.fresh answer hanswer
  by_cases hcommitted : w.committed = none
  · obtain ⟨hpayments, hrefunds, happlied⟩ := h.before hcommitted
    have hunknown : event.object.id.bind (refundByProviderId w.db) = none := by
      rw [hid]
      unfold refundByProviderId at hfresh ⊢
      exact hrefunds ▸ hfresh
    have hsame := applyRefundEvent_unknown (.inl hunknown) happly
    subst hsame
    rw [if_pos (Option.isNone_iff_eq_none.mpr hcommitted)]
    exact h.of_tables hp hr w.failures
  · rw [if_neg (fun hnone => hcommitted (Option.isNone_iff_eq_none.mp hnone))]
    obtain ⟨⟨call, refundId⟩, hcommitted⟩ := Option.ne_none_iff_exists'.mp hcommitted
    obtain ⟨hbegin, answer', hanswer', hwritten⟩ := h.after call refundId hcommitted
    obtain rfl : answer' = answer := Option.some.inj (hanswer'.symm.trans hanswer)
    have hpayment := (beginRefund_ok hbegin).1
    rw [← show call.payment.id = request.paymentId from Table.key_of_get? hpayment] at hpayment
    have hafter : Written request db call answer' refundId
        (w.applied ++ (saidStatus event).toList) applied := by
      cases hsaid : saidStatus event with
      | none =>
        have hsame := applyRefundEvent_unknown (.inr hsaid) happly
        subst hsame
        rw [Option.toList_none, List.append_nil]
        exact hwritten
      | some status => exact hwritten.deliver hpayment hfresh hid hsaid happly
    refine { h with before := ?_, after := ?_ }
    · intro hnone
      rw [hcommitted] at hnone
      cases hnone
    · intro call' refundId' hcommitted'
      obtain ⟨rfl, rfl⟩ := Prod.mk.inj (Option.some.inj (hcommitted.symm.trans hcommitted'))
      refine ⟨hbegin, answer', hanswer, ?_, ?_⟩
      · exact hr ▸ hafter.refunds
      · exact hp ▸ hafter.payments

/-- The call is made as the request began it, from rows that are as they were. -/
theorem begin_step (h : Tracked request db w) : Tracked request db (exec request w .begin) := by
  simp only [exec]
  split
  · next call hbegin =>
    have hnone := h.no_second_call hbegin
    obtain ⟨hp, hr, _⟩ := h.before hnone
    refine { h with opened := ?_ }
    rintro _ ⟨⟩
    exact ⟨(beginRefund_congr hp hr request).symm.trans hbegin, hnone⟩
  · exact h

/-- The provider creates the refund before anything is committed or told. -/
theorem create_step (h : Tracked request db w) (id status : String) :
    Tracked request db (exec request w (.create id status)) := by
  simp only [exec]
  split
  · next hcreate =>
    obtain ⟨hcall, hanswer, hfresh⟩ := hcreate
    obtain ⟨call, hcall⟩ := Option.isSome_iff_exists.mp hcall
    have hnone := (h.opened call hcall).2
    obtain ⟨_, hr, _⟩ := h.before hnone
    refine { h with fresh := ?_, refund := ?_, answered := ?_, events := ?_, after := ?_ }
    · rintro _ ⟨⟩
      unfold refundByProviderId at hfresh ⊢
      exact hr ▸ hfresh
    · rintro _ ⟨⟩
      exact ⟨_, rfl, rfl⟩
    · rintro _ ⟨⟩
      exact ⟨_, rfl⟩
    · intro event hevent
      obtain ⟨_, answer, hother, _⟩ := h.events event hevent
      rw [hanswer] at hother
      cases hother
    · intro call refundId hcommitted
      rw [hnone] at hcommitted
      cases hcommitted
  · exact h

/-- The commit writes what was answered. -/
theorem finish_step (h : Tracked request db w) (now : Instant) (refundId : Uuid) :
    Tracked request db (exec request w (.finish now refundId)) := by
  simp only [exec]
  split
  · next call answer hcall hanswer =>
    obtain ⟨hbegin, hnone⟩ := h.opened call hcall
    obtain ⟨hp, hr, happlied⟩ := h.before hnone
    split
    · next db' view hfinish =>
      have hpayment := (beginRefund_ok hbegin).1
      have hid : call.payment.id = request.paymentId := Table.key_of_get? hpayment
      rw [← hid] at hpayment
      have hwritten := finishRefund_ok (hp ▸ hpayment) hfinish
      refine { h with opened := ?_, before := ?_, after := ?_ }
      · rintro _ ⟨⟩
      · rintro ⟨⟩
      · rintro _ _ ⟨⟩
        refine ⟨hbegin, answer, hanswer, ?_, ?_⟩
        · rw [← hr, happlied]
          exact hwritten.refunds
        · rw [← hp, happlied]
          exact hwritten.payments
    · refine { h with opened := ?_ }
      rintro _ ⟨⟩
  · exact h

theorem step (h : Tracked request db w) (op : Op) : Tracked request db (exec request w op) := by
  cases op with
  | begin => exact h.begin_step
  | create id status => exact h.create_step id status
  | change status eventId =>
    simp only [exec]
    split
    · next refund hrefund => exact h.tell { refund with status } hrefund rfl eventId
    · exact h
  | send eventId =>
    simp only [exec]
    split
    · next refund hrefund => exact h.tell refund hrefund rfl eventId
    · exact h
  | finish now refundId => exact h.finish_step now refundId
  | abort =>
    refine { h with opened := ?_ }
    rintro _ ⟨⟩
  | deliver position fault now jobId =>
    simp only [exec]
    split
    · exact h
    · next event hevent =>
      split
      · next db' duplicate hdeliver =>
        have hmem := List.mem_of_getElem? hevent
        rcases deliver_refund_ok (h.events event hmem).1 hdeliver with ⟨rfl, rfl⟩ |
          ⟨rfl, applied, payment, happly, hp, hr⟩
        · exact h
        · exact h.delivered hmem happly hp hr
      · exact h.of_tables rfl rfl _
  | recordFailure delivery =>
    simp only [exec]
    split
    · exact h
    · next event exc _ =>
      split
      · next db' hrecord =>
        obtain ⟨_, rfl, _⟩ := recordFailure_ok hrecord
        refine h.of_tables ?_ ?_ _
        · rfl
        · rfl
      · exact h.of_tables rfl rfl _

end Tracked

/-! ## The last status -/

section
variable {request : RefundRequest} {db db' : Db} {call : OpenRefund} {answer : ProviderRefund}
  {refundId : Uuid} {applied : List RefundStatus}

theorem someRefunded_rowAfter (payment : Payment)
    (hrows : db'.refunds.rows =
      db.refunds.rows ++ [rowAfter request call answer refundId applied])
    (hid : payment.id = call.payment.id) :
    someRefunded db' payment = (someRefunded db call.payment ||
      decide (applied.getLastD (refundStatusOf answer) = .succeeded)) := by
  unfold someRefunded
  rw [hrows, List.any_append, hid]
  simp [rowAfter, OpenRefund.row, newRefund]

/-- A refund that has not succeeded does not count. -/
theorem whollyRefunded_other (payment : Payment)
    (hrows : db'.refunds.rows =
      db.refunds.rows ++ [rowAfter request call answer refundId applied])
    (hlast : applied.getLastD (refundStatusOf answer) ≠ .succeeded)
    (hid : payment.id = call.payment.id)
    (hcaptured : payment.capturedAmountMinor = call.payment.capturedAmountMinor) :
    whollyRefunded db' payment = whollyRefunded db call.payment := by
  have hof : (rowAfter request call answer refundId applied).paymentId = call.payment.id := rfl
  unfold whollyRefunded
  rw [hid, hcaptured, refundedAmount_append hrows hof]
  simp only [rowAfter, hlast, decide_false, Bool.false_eq_true, if_false, Int.add_zero]

theorem refunded_eq_iff (some wholly : Bool) (whole : Prop) [Decidable whole] :
    (if decide whole then PaymentStatus.refunded else .partiallyRefunded) =
      (if some then if wholly then PaymentStatus.refunded else .partiallyRefunded
        else .captured) ↔ some = true ∧ (wholly = true ↔ whole) := by
  by_cases h : whole
  · cases some <;> cases wholly <;> simp [h]
  · cases some <;> cases wholly <;> simp [h]

/-- The payment has the status its refunds stand for in exactly these orders. -/
theorem paymentInOrder_iff (h : Written request db call answer refundId applied db') :
    statusAfter db call (refundStatusOf answer) applied =
        refundedStatus db' (paymentAfter db call (refundStatusOf answer) applied) ↔
      PaymentInOrder db call (refundStatusOf answer) applied := by
  unfold PaymentInOrder refundedStatus
  rw [someRefunded_rowAfter (paymentAfter db call _ applied) h.refunds rfl]
  by_cases hlast : applied.getLastD (refundStatusOf answer) = .succeeded
  · rw [whollyRefunded_rowAfter (paymentAfter db call _ applied) h.refunds hlast rfl rfl]
    simp only [hlast, decide_true, Bool.or_true, if_true]
    by_cases hmem : RefundStatus.succeeded ∈ applied
    · simp [statusAfter, hmem, refundedPayment]
    · -- the last status is the provider's answer: no event has come
      have hanswer : refundStatusOf answer = .succeeded := by
        rcases List.eq_nil_or_concat applied with rfl | ⟨init, last, rfl⟩
        · exact hlast
        · rw [List.concat_eq_append, List.getLastD_concat] at hlast
          exact absurd (by simp [hlast]) hmem
      simp only [statusAfter, hmem, hanswer, if_true, if_false, false_or, refundedPayment]
      refine (refunded_eq_iff true (Completes db call) (call.requested = call.remaining)).trans ?_
      simp only [true_and, decide_eq_true_eq]
      exact Iff.comm
  · rw [whollyRefunded_other (paymentAfter db call _ applied) h.refunds hlast rfl rfl]
    simp only [hlast, decide_false, Bool.or_false, if_false]
    unfold statusAfter
    split
    · exact refunded_eq_iff _ _ _
    · split
      · exact refunded_eq_iff _ _ _
      · exact Iff.rfl

end

/-- When the call and the deliveries have finished, the refund and its payment show the last
status of the provider in exactly the runs that are in order. -/
theorem agrees_iff (request : RefundRequest) (db : Db) (ops : List Op) :
    Always (exec request) (fun w => Settled w → (Agrees w ↔ InOrder db w)) { db } ops := by
  have hrun : Always (exec request) (Tracked request db) { db } ops :=
    always_of_inv (P := fun _ _ => True) (fun _ op h _ => h.step op) (.start request db)
      (along_of_forall fun _ _ => trivial)
  refine hrun.imp fun w h hsettled => ?_
  obtain ⟨⟨call, refundId⟩, hcommitted⟩ := Option.isSome_iff_exists.mp hsettled.2.1
  obtain ⟨hbegin, answer, hanswer, hwritten⟩ := h.after call refundId hcommitted
  obtain ⟨refund, hrefund⟩ := h.answered answer hanswer
  have hpayment := (beginRefund_ok hbegin).1
  rw [← show call.payment.id = request.paymentId from Table.key_of_get? hpayment] at hpayment
  have hagrees : Agrees w ↔ Shows w.db refundId refund := by
    simp [Agrees, hcommitted, hrefund]
  have horder : InOrder db w ↔
      w.applied.getLastD (refundStatusOf answer) = refundStatusOf refund ∧
        PaymentInOrder db call (refundStatusOf answer) w.applied := by
    simp [InOrder, hcommitted, hanswer, hrefund]
  have hpaid : w.db.payments.get? (rowAfter request call answer refundId w.applied).paymentId =
      some (paymentAfter db call (refundStatusOf answer) w.applied) :=
    hwritten.payment hpayment
  rw [hagrees, horder, ← paymentInOrder_iff hwritten]
  simp only [Shows, hwritten.row, Option.mem_some_iff, exists_eq_left', hpaid]
  exact Iff.rfl

/-- A payment of 10000 minor units, captured. -/
def visitFee : Payment where
  id := 1
  bookingId := some 2
  paymentPurpose := .bookingDiagnostic
  providerPaymentId := some "pi_1"
  status := .captured
  amountMinor := 10000
  currency := "usd"
  capturedAmountMinor := 10000

def paidDb : Db := { payments := ⟨[visitFee], by decide⟩ }

def wholeRefund : RefundRequest where
  paymentId := 1
  amountMinor := none
  key := "refund"
  actorId := 3
  reason := none

/-- The event that the refund succeeded comes before the call has committed. -/
def toldEarly : List Op :=
  [.begin, .create "re_1" "pending", .change "succeeded" "evt_1", .deliver 0 none 0 4,
   .finish 1 5]

/-- The refund stays pending, and the payment captured. -/
theorem told_early_is_lost :
    ¬ Always (exec wholeRefund) (fun w => Settled w → Agrees w) { db := paidDb } toldEarly := by
  decide

/-- The same events after the commit. -/
example : Always (exec wholeRefund) (fun w => Settled w → Agrees w) { db := paidDb }
    [.begin, .create "re_1" "pending", .finish 1 5, .change "succeeded" "evt_1",
     .deliver 0 none 2 4] := by
  decide

end Refunding

end Breero.Payments
