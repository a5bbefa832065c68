import Breero.Payments.Refunds
import Breero.Payments.RefundEvents

/-!
The three sums of a payment's refunds. `refund` compares the request with what is left beside
pending and succeeded refunds, a webhook sums the succeeded ones, and the customer is shown the
sum of all rows.

* `refundedAmount_split` takes a sum apart by status, `refundedAmount_eq_zero` says when a
  part of it is empty;
* `Success` is a way in which a refund becomes `SUCCEEDED`, and `totals_agree_iff` says in which
  of them the payment's status follows the succeeded refunds, and when the sum shown counts no
  refund that failed.
-/

namespace Breero.Payments
open KeyedTable Transaction

/-! ## Sums of refunds -/

/-- The amount of refunds in some statuses is that of two parts of these statuses. -/
theorem refundedAmount_split (db : Db) (paymentId : Uuid) {p q r : RefundStatus → Bool}
    (h : ∀ s, (p s = (q s || r s)) ∧ (q s && r s) = false) :
    refundedAmount db paymentId p =
      refundedAmount db paymentId q + refundedAmount db paymentId r := by
  unfold refundedAmount
  induction db.refunds.rows with
  | nil => rfl
  | cons row rows ih =>
    obtain ⟨hor, hand⟩ := h row.status
    by_cases hof : row.paymentId = paymentId
    · cases hq : q row.status with
      | false =>
        cases hr : r row.status with
        | false => simp [hof, hq, hr, hor, ih]
        | true =>
          simp [hof, hq, hr, hor, ih]
          omega
      | true =>
        have hr : r row.status = false := by simpa [hq] using hand
        simp [hof, hq, hr, hor, ih]
        omega
    · simp [hof, ih]

theorem refundedAmount_nonneg {db : Db} (hpositive : ∀ r ∈ db.refunds.rows, 0 < r.amountMinor)
    (paymentId : Uuid) (p : RefundStatus → Bool) : 0 ≤ refundedAmount db paymentId p := by
  unfold refundedAmount
  apply List.sum_nonneg
  intro amount hamount
  obtain ⟨row, hrow, rfl⟩ := List.mem_map.mp hamount
  have hpos := hpositive row (List.mem_filter.mp hrow).1
  omega

/-- Refunds in some statuses sum to nothing only if there are none. -/
theorem refundedAmount_eq_zero {db : Db} (hpositive : ∀ r ∈ db.refunds.rows, 0 < r.amountMinor)
    (paymentId : Uuid) (p : RefundStatus → Bool) :
    refundedAmount db paymentId p = 0 ↔
      ∀ r ∈ db.refunds.rows, r.paymentId = paymentId → p r.status = false := by
  unfold refundedAmount
  constructor
  · intro hzero row hrow hof
    by_contra hp
    rw [Bool.not_eq_false] at hp
    have hin : row ∈ db.refunds.rows.filter fun r => r.paymentId = paymentId && p r.status := by
      simp [hrow, hof, hp]
    have hnonneg : ∀ amount ∈ (db.refunds.rows.filter fun r =>
        r.paymentId = paymentId && p r.status).map Refund.amountMinor, 0 ≤ amount := by
      intro amount hamount
      obtain ⟨other, hother, rfl⟩ := List.mem_map.mp hamount
      have hpos := hpositive other (List.mem_filter.mp hother).1
      omega
    have hle := List.single_le_sum hnonneg row.amountMinor (List.mem_map_of_mem hin)
    have hpos := hpositive row hrow
    omega
  · intro hnone
    have hempty : db.refunds.rows.filter (fun r => r.paymentId = paymentId && p r.status) = [] := by
      rw [List.filter_eq_nil_iff]
      intro row hrow hin
      rw [Bool.and_eq_true, decide_eq_true_eq] at hin
      rw [hnone row hrow hin.1] at hin
      exact absurd hin.2 (by decide)
    rw [hempty]
    rfl

theorem refundedAmount_pos {db : Db} (hpositive : ∀ r ∈ db.refunds.rows, 0 < r.amountMinor)
    {paymentId : Uuid} {p : RefundStatus → Bool} {row : Refund} (hrow : row ∈ db.refunds.rows)
    (hof : row.paymentId = paymentId) (hp : p row.status = true) :
    0 < refundedAmount db paymentId p := by
  have hnonneg := refundedAmount_nonneg hpositive paymentId p
  have hne : refundedAmount db paymentId p ≠ 0 := by
    intro hzero
    have hfalse := (refundedAmount_eq_zero hpositive paymentId p).mp hzero row hrow hof
    rw [hp] at hfalse
    exact absurd hfalse (by decide)
  omega

def failedRefundStatus (status : RefundStatus) : Bool := status = .failed ∨ status = .canceled

/-- `refunded_amount`: what the customer is shown as refunded. -/
def customerRefundedAmount (db : Db) (paymentId : Uuid) : Int :=
  ((db.refunds.rows.filter (fun r => r.paymentId = paymentId)).map Refund.amountMinor).sum

theorem customerRefundedAmount_eq (db : Db) (paymentId : Uuid) :
    customerRefundedAmount db paymentId = refundedAmount db paymentId activeRefundStatus +
      refundedAmount db paymentId failedRefundStatus := by
  have hall : customerRefundedAmount db paymentId = refundedAmount db paymentId fun _ => true := by
    simp [customerRefundedAmount, refundedAmount]
  rw [hall]
  refine refundedAmount_split db paymentId fun s => ?_
  cases s <;> exact ⟨rfl, rfl⟩

theorem activeRefunds_eq (db : Db) (paymentId : Uuid) :
    refundedAmount db paymentId activeRefundStatus =
      refundedAmount db paymentId (· = .pending) +
        refundedAmount db paymentId (· = .succeeded) := by
  refine refundedAmount_split db paymentId fun s => ?_
  cases s <;> exact ⟨rfl, rfl⟩

/-! ## Refunds that succeed -/

/-- A way in which a refund becomes `SUCCEEDED`: with the provider's answer inside `refund`, or
by an event. -/
inductive Success
  | atOnce (request : RefundRequest) (answer : ProviderRefund) (now : Instant) (refundId : Uuid)
  | byWebhook (event : StripeEvent) (now : Instant) (jobId : Uuid)

namespace Success

def run (db : Db) : Success → Except Raised Db
  | .atOnce request answer now refundId =>
    (refund db request.paymentId request.amountMinor request.key request.actorId request.reason
      (.ok answer) now refundId).map Prod.fst
  | .byWebhook event now jobId => (processWebhook db event now jobId).map Prod.fst

/-- It is about a refund of the payment: a new one, or one that the event says has
succeeded. -/
def Of (db : Db) (payment : Payment) : Success → Prop
  | .atOnce request answer _ _ => request.paymentId = payment.id ∧
      refundByKey db payment.id request.key = none ∧ refundStatusOf answer = .succeeded
  | .byWebhook event _ _ => alreadyProcessed db event = false ∧
      event.object.object = some "refund" ∧
      event.object.status.bind RefundStatus.ofValue? = some .succeeded ∧
      ∃ refund, event.object.id.bind (refundByProviderId db) = some refund ∧
        refund.paymentId = payment.id

/-- What `refund` may still refund. -/
def remaining (db : Db) (payment : Payment) : Int :=
  payment.capturedAmountMinor - refundedAmount db payment.id activeRefundStatus

/-- A request inside `refund` is not for all that remains beside a pending refund. -/
def InBalance (db : Db) (payment : Payment) : Success → Prop
  | .atOnce request _ _ _ =>
    request.amountMinor.getD (remaining db payment) = remaining db payment →
      ∀ r ∈ db.refunds.rows, r.paymentId = payment.id → r.status ≠ .pending
  | .byWebhook .. => True

end Success

/-- The payment is refunded or partially refunded as its succeeded refunds sum to the captured
amount or to a part of it. -/
def StatusFollows (db : Db) (paymentId : Uuid) : Prop :=
  ∃ payment ∈ db.payments.get? paymentId,
    (payment.status = .refunded ↔
      payment.capturedAmountMinor ≤ refundedAmount db paymentId (· = .succeeded)) ∧
    (payment.status = .partiallyRefunded ↔
      0 < refundedAmount db paymentId (· = .succeeded) ∧
        refundedAmount db paymentId (· = .succeeded) < payment.capturedAmountMinor)

/-- The sum shown to the customer counts no refund that failed or was canceled. -/
def ShownFollows (db : Db) (paymentId : Uuid) : Prop :=
  customerRefundedAmount db paymentId = refundedAmount db paymentId activeRefundStatus

instance (db : Db) (paymentId : Uuid) : Decidable (StatusFollows db paymentId) :=
  inferInstanceAs (Decidable (∃ payment ∈ db.payments.get? paymentId, _ ∧ _))

instance (db : Db) (paymentId : Uuid) : Decidable (ShownFollows db paymentId) :=
  inferInstanceAs (Decidable (_ = _))

/-- A payment whose refunds were compared with the captured amount by `whole`. -/
theorem statusFollows_iff {db : Db} {payment : Payment} {whole : Bool}
    (hpayment : db.payments.get? payment.id = some (refundedPayment payment whole))
    (hpositive : 0 < refundedAmount db payment.id (· = .succeeded)) :
    StatusFollows db payment.id ↔
      (whole = true ↔
        payment.capturedAmountMinor ≤ refundedAmount db payment.id (· = .succeeded)) := by
  simp only [StatusFollows, hpayment, Option.mem_some_iff, exists_eq_left', refundedPayment]
  cases whole with
  | false =>
    simp only [Bool.false_eq_true, if_false, reduceCtorEq, false_iff, true_iff, Int.not_le,
      and_iff_left_iff_imp]
    intro hless
    exact ⟨hpositive, hless⟩
  | true =>
    simp only [if_true, reduceCtorEq, false_iff, true_iff, and_iff_left_iff_imp]
    intro hle hpart
    omega

section
variable {db db' : Db} {payment : Payment}

theorem atOnce_follows_iff (hpositive : ∀ r ∈ db.refunds.rows, 0 < r.amountMinor)
    (hpayment : db.payments.get? payment.id = some payment) {request : RefundRequest}
    {answer : ProviderRefund} {now : Instant} {refundId : Uuid}
    (hof : (Success.atOnce request answer now refundId).Of db payment)
    (h : (Success.atOnce request answer now refundId).run db = .ok db') :
    StatusFollows db' payment.id ↔
      (Success.atOnce request answer now refundId).InBalance db payment := by
  obtain ⟨hid, hkey, hanswer⟩ := hof
  obtain ⟨v, h⟩ := map_fst_ok h
  rw [refund_eq, seq_committed] at h
  obtain ⟨begun, hbegin, hfinish⟩ := h
  simp only [beginRefund, hid, hpayment, seq_committed, orRaise_committed, require_committed,
    Option.some.injEq] at hbegin
  obtain ⟨_, rfl, _, _, hbegin⟩ := hbegin
  rw [hkey] at hbegin
  simp only [seq_committed, require_committed, return_committed] at hbegin
  obtain ⟨_, _, _, hrange, rfl⟩ := hbegin
  have hfinish' : finishRefund db request ⟨payment, Success.remaining db payment,
      request.amountMinor.getD (Success.remaining db payment)⟩ answer now refundId =
      .ok (db', v) := hfinish
  have hwritten := Refunding.finishRefund_ok hpayment hfinish'
  -- the payment and the sum of its succeeded refunds after the call
  have hstored : db'.payments.get? payment.id = some (refundedPayment payment
      (request.amountMinor.getD (Success.remaining db payment) =
        Success.remaining db payment)) := by
    rw [hwritten.payment hpayment, Refunding.paymentAfter, Refunding.statusAfter,
      if_neg List.not_mem_nil, if_pos hanswer]
    rfl
  have hsum : refundedAmount db' payment.id (· = .succeeded) =
      refundedAmount db payment.id (· = .succeeded) +
        request.amountMinor.getD (Success.remaining db payment) := by
    have hrow : (Refunding.rowAfter request ⟨payment, Success.remaining db payment,
        request.amountMinor.getD (Success.remaining db payment)⟩ answer refundId []).paymentId =
        payment.id := rfl
    rw [Refunding.refundedAmount_append hwritten.refunds hrow]
    simp [Refunding.rowAfter, OpenRefund.row, newRefund, hanswer]
  have hrange' : 0 < request.amountMinor.getD (Success.remaining db payment) ∧
      request.amountMinor.getD (Success.remaining db payment) ≤ Success.remaining db payment :=
    hrange
  have hsucceeded := refundedAmount_nonneg hpositive payment.id (· = .succeeded)
  have hpending := refundedAmount_nonneg hpositive payment.id (· = .pending)
  have hactive := activeRefunds_eq db payment.id
  rw [statusFollows_iff hstored (by omega), hsum, decide_eq_true_eq]
  have hremaining : Success.remaining db payment = payment.capturedAmountMinor -
      refundedAmount db payment.id activeRefundStatus := rfl
  have hnone : Success.InBalance db payment (.atOnce request answer now refundId) ↔
      (request.amountMinor.getD (Success.remaining db payment) = Success.remaining db payment →
        refundedAmount db payment.id (· = .pending) = 0) := by
    rw [refundedAmount_eq_zero hpositive]
    simp only [Success.InBalance, decide_eq_false_iff_not]
  rw [hnone]
  omega

theorem byWebhook_follows (hpositive : ∀ r ∈ db.refunds.rows, 0 < r.amountMinor)
    (hpayment : db.payments.get? payment.id = some payment) {event : StripeEvent}
    {now : Instant} {jobId : Uuid} (hof : (Success.byWebhook event now jobId).Of db payment)
    (h : (Success.byWebhook event now jobId).run db = .ok db') :
    StatusFollows db' payment.id := by
  obtain ⟨hnew, hobject, hstatus, row, hrow, hid⟩ := hof
  obtain ⟨duplicate, h⟩ := map_fst_ok h
  have hdeliver : deliver db event none now jobId = .ok (db', duplicate) := by
    unfold deliver
    rw [if_neg (by rw [hnew]; decide)]
    exact h
  rcases Refunding.deliver_refund_ok hobject hdeliver with ⟨rfl, _⟩ | ⟨_, applied, found, happly,
    hpayments, hrefunds⟩
  · simp only [processWebhook, hnew, Bool.false_eq_true, if_false, seq_committed, return_committed,
      Prod.mk.injEq] at h
    obtain ⟨_, _, _, _, _, hduplicate⟩ := h
    cases hduplicate
  · have hfound : db.payments.get? row.paymentId = some payment := hid.symm ▸ hpayment
    obtain ⟨happlied, hpaid⟩ := Refunding.applyRefundEvent_known hrow hstatus hfound happly
    rw [if_pos rfl] at hpaid
    have hstored : db'.payments.get? payment.id = some (refundedPayment payment
        (whollyRefunded { db with refunds := db.refunds.put { row with status := .succeeded } }
          payment)) := by
      rw [hpayments, hpaid]
      exact Table.get?_put_self hpayment rfl
    have hsum : refundedAmount db' payment.id (· = .succeeded) = refundedAmount
        { db with refunds := db.refunds.put { row with status := .succeeded } } payment.id
          (· = .succeeded) := by
      unfold refundedAmount
      rw [hrefunds, happlied]
    have hmem : row ∈ db.refunds.rows := refundByProviderId_mem hrow
    have hsucceeded : { row with status := .succeeded } ∈ db'.refunds.rows := by
      rw [hrefunds, happlied]
      exact Table.mem_put_self hmem rfl
    have hpositive' : ∀ r ∈ db'.refunds.rows, 0 < r.amountMinor := by
      rw [hrefunds, happlied]
      intro r hr
      rcases Table.mem_put.mp hr with ⟨rfl, _⟩ | ⟨hr, _⟩
      · exact hpositive row hmem
      · exact hpositive r hr
    have hpos : 0 < refundedAmount db' payment.id (· = .succeeded) :=
      refundedAmount_pos hpositive' hsucceeded hid rfl
    rw [statusFollows_iff hstored hpos, hsum, whollyRefunded, decide_eq_true_eq]

/-- After a refund succeeds, the payment's status follows the sum of its succeeded refunds
exactly if the refund was not one inside `refund` of all that remains beside a pending one;
and the customer is shown that sum without failed refunds exactly if there are none. -/
theorem totals_agree_iff (hpositive : ∀ r ∈ db.refunds.rows, 0 < r.amountMinor)
    (hpayment : db.payments.get? payment.id = some payment) :
    (∀ success db', Success.Of db payment success → success.run db = .ok db' →
      (StatusFollows db' payment.id ↔ success.InBalance db payment)) ∧
    (ShownFollows db payment.id ↔ ∀ r ∈ db.refunds.rows, r.paymentId = payment.id →
      r.status ≠ .failed ∧ r.status ≠ .canceled) := by
  constructor
  · intro success db' hof h
    cases success with
    | atOnce request answer now refundId => exact atOnce_follows_iff hpositive hpayment hof h
    | byWebhook event now jobId =>
      exact iff_of_true (byWebhook_follows hpositive hpayment hof h) trivial
  · have hzero := refundedAmount_eq_zero hpositive payment.id failedRefundStatus
    have hshown : ShownFollows db payment.id ↔
        refundedAmount db payment.id failedRefundStatus = 0 := by
      unfold ShownFollows
      rw [customerRefundedAmount_eq]
      omega
    rw [hshown, hzero]
    simp only [failedRefundStatus, decide_eq_false_iff_not, not_or]

end

/-! ### A pending and a failed refund -/

/-- A refund of the captured visit. -/
def visitRefund (id : Uuid) (amountMinor : Int) (status : RefundStatus) : Refund where
  id := id
  paymentId := 1
  amountMinor := amountMinor
  status := status
  providerRefundId := some ("re_" ++ toString id)
  idempotencyKey := "refund-" ++ toString id
  reason := none
  createdBy := 3

def pendingDb : Db := {
  Refunding.paidDb with refunds := ⟨[visitRefund 20 4000 .pending], by decide⟩ }

def failedDb : Db := { Refunding.paidDb with refunds := ⟨[visitRefund 20 4000 .failed], by decide⟩ }

/-- All that remains beside the pending refund succeeds at once. -/
def restRefunded : Success :=
  .atOnce Refunding.wholeRefund { id := "re_21", status := "succeeded" } 5 21

/-- The payment is `REFUNDED` with 6000 of 10000 returned, and the customer is shown a refund of
4000 that failed. -/
theorem rest_refunded_too_early :
    restRefunded.Of pendingDb Refunding.visitFee ∧
      (∃ db', restRefunded.run pendingDb = .ok db' ∧ ¬ StatusFollows db' 1) ∧
      ¬ ShownFollows failedDb 1 := by
  exact ⟨⟨rfl, rfl, by decide⟩, ⟨_, rfl, by decide⟩, by decide⟩

/-- A part of the visit is refunded at once, with nothing pending. -/
def partRefunded : Success :=
  .atOnce { Refunding.wholeRefund with amountMinor := some 3000 }
    { id := "re_21", status := "succeeded" } 5 21

theorem part_refunded_in_time :
    ∃ db', partRefunded.run Refunding.paidDb = .ok db' ∧ StatusFollows db' 1 := by
  have hpositive : ∀ r ∈ Refunding.paidDb.refunds.rows, 0 < r.amountMinor :=
    List.forall_mem_nil _
  have hpayment : Refunding.paidDb.payments.get? Refunding.visitFee.id = some Refunding.visitFee :=
    rfl
  have hof : partRefunded.Of Refunding.paidDb Refunding.visitFee := ⟨rfl, rfl, by decide⟩
  have hbalance : partRefunded.InBalance Refunding.paidDb Refunding.visitFee :=
    fun _ => List.forall_mem_nil _
  refine ⟨_, rfl, ?_⟩
  exact ((totals_agree_iff hpositive hpayment).1 partRefunded _ hof rfl).mpr hbalance

end Breero.Payments
