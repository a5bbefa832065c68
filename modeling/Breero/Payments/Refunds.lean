import Breero.Payments.Status

/-!
Conservation of refunds over a run. `refund` checks a new refund against the
captured amount, but `processWebhook` overwrites that amount with the one an event
carries, and revives a refund that failed if an older event says it is pending.

* `RefundInv` is the invariant: the active refunds of a payment sum to no more
  than its captured amount, which Stripe has shown;
* `refunds_conserved`: both laws hold in the runs whose events are not older than
  the amount and do not revive a refund beyond the balance;
* `late_capture_event_loses_amount` and `late_refund_event_overdraws` are runs in
  which one event breaks them.
-/

namespace Breero.Payments
open KeyedTable Transaction Runs

/-- The active refunds of every payment are covered by what was captured. -/
def RefundsCovered (w : World) : Prop :=
  ∀ p ∈ w.db.payments.rows, refundedAmount w.db p.id activeRefundStatus ≤ p.capturedAmountMinor

/-- No payment of `w` has less captured in `w'`. -/
def CapturedKept (w w' : World) : Prop :=
  ∀ p ∈ w.db.payments.rows, ∀ q ∈ w'.db.payments.rows, q.id = p.id →
    p.capturedAmountMinor ≤ q.capturedAmountMinor

instance : DecidablePred RefundsCovered := fun w => inferInstanceAs (Decidable
  (∀ p ∈ w.db.payments.rows, refundedAmount w.db p.id activeRefundStatus ≤ p.capturedAmountMinor))

instance (w w' : World) : Decidable (CapturedKept w w') := inferInstanceAs (Decidable
  (∀ p ∈ w.db.payments.rows, ∀ q ∈ w'.db.payments.rows, q.id = p.id →
    p.capturedAmountMinor ≤ q.capturedAmountMinor))

/-- The refund an event is about, and the status it gives it. -/
def eventRefund (db : Db) (event : StripeEvent) : Option (Refund × RefundStatus) :=
  if event.object.object = some "refund" then
    (event.object.id.bind (refundByProviderId db)).bind fun refund =>
      (event.object.status.bind RefundStatus.ofValue?).map fun status => (refund, status)
  else none

/-- The event reports no smaller amount than its payment has captured. -/
def AmountNotOlder (db : Db) (event : StripeEvent) : Prop :=
  ReportsState event → ∀ payment ∈ eventPayment db event,
    ∀ amount, event.object.amountReceived = .value amount → payment.capturedAmountMinor ≤ amount

/-- If the event revives a refund, the balance of its payment still covers it. -/
def RevivalCovered (db : Db) (event : StripeEvent) : Prop :=
  ∀ revived ∈ eventRefund db event, activeRefundStatus revived.2 = true →
    activeRefundStatus revived.1.status = false →
    ∀ payment ∈ db.payments.get? revived.1.paymentId,
      refundedAmount db payment.id activeRefundStatus + revived.1.amountMinor ≤
        payment.capturedAmountMinor

/-- The step processes no event that takes captured money back or revives a refund
beyond the balance. -/
def KeepsBalance (w : World) : Op → Prop
  | .deliver event none _ _ => alreadyProcessed w.db event = false →
      AmountNotOlder w.db event ∧ RevivalCovered w.db event
  | _ => True

instance (db : Db) (event : StripeEvent) : Decidable (AmountNotOlder db event) :=
  match h : event.object.amountReceived with
  | .value amount => decidable_of_iff (ReportsState event → ∀ payment ∈ eventPayment db event,
      payment.capturedAmountMinor ≤ amount) (by simp [AmountNotOlder, h])
  | .missing | .null => isTrue (by simp [AmountNotOlder, h])

instance (db : Db) (event : StripeEvent) : Decidable (RevivalCovered db event) :=
  inferInstanceAs (Decidable (∀ revived ∈ eventRefund db event,
    activeRefundStatus revived.2 = true → activeRefundStatus revived.1.status = false →
    ∀ payment ∈ db.payments.get? revived.1.paymentId,
      refundedAmount db payment.id activeRefundStatus + revived.1.amountMinor ≤
        payment.capturedAmountMinor))

instance (w : World) : DecidablePred (KeepsBalance w)
  | .deliver event none _ _ => inferInstanceAs (Decidable (alreadyProcessed w.db event = false →
      AmountNotOlder w.db event ∧ RevivalCovered w.db event))
  | .deliver _ (some _) _ _ | .stripeIntent _ | .stripeRefund _ | .createIntent .. | .purchase ..
  | .capture .. | .refund .. | .recordFailure _ => isTrue trivial

/-! ## Sums of refunds -/

/-- What a refund adds to the active refunds of a payment. -/
def activeShare (paymentId : Uuid) (r : Refund) : Int :=
  if r.paymentId = paymentId && activeRefundStatus r.status then r.amountMinor else 0

theorem refundedAmount_eq (db : Db) (paymentId : Uuid) :
    refundedAmount db paymentId activeRefundStatus = db.refunds.total (activeShare paymentId) :=
  Table.total_filter _ _ _

theorem activeShare_of_ne {paymentId : Uuid} {r : Refund} (h : r.paymentId ≠ paymentId) :
    activeShare paymentId r = 0 := by
  simp [activeShare, h]

theorem activeShare_le (paymentId : Uuid) {r : Refund} (h : 0 < r.amountMinor) :
    activeShare paymentId r ≤ r.amountMinor := by
  unfold activeShare
  split <;> omega

/-- A payment that no refund refers to has nothing refunded. -/
theorem total_activeShare_eq_zero {t : Table Refund} {paymentId : Uuid}
    (h : ∀ r ∈ t.rows, r.paymentId ≠ paymentId) : t.total (activeShare paymentId) = 0 := by
  have hzero : t.rows.map (activeShare paymentId) = t.rows.map (fun _ => 0) :=
    List.map_congr_left fun r hr => activeShare_of_ne (h r hr)
  rw [Table.total, hzero]
  simp

/-! ## The invariant -/

structure RefundInv (db : Db) (intents : List ProviderIntent) : Prop where
  covered : ∀ p ∈ db.payments.rows,
    db.refunds.total (activeShare p.id) ≤ p.capturedAmountMinor
  referred : ∀ r ∈ db.refunds.rows, ∃ p ∈ db.payments.rows, p.id = r.paymentId
  positive : ∀ r ∈ db.refunds.rows, 0 < r.amountMinor
  shown : ∀ p ∈ db.payments.rows, p.capturedAmountMinor = 0 ∨
    ∃ intent ∈ intents, p.providerPaymentId = some intent.id ∧
      p.capturedAmountMinor ≤ intent.amountReceived

namespace RefundInv

variable {db db' : Db} {intents : List ProviderIntent}

theorem of_same (h : RefundInv db intents) (hp : db'.payments = db.payments)
    (hr : db'.refunds = db.refunds) : RefundInv db' intents where
  covered := by rw [hp, hr]; exact h.covered
  referred := by rw [hp, hr]; exact h.referred
  positive := by rw [hr]; exact h.positive
  shown := by rw [hp]; exact h.shown

theorem mono (h : RefundInv db intents) {intents' : List ProviderIntent}
    (hsub : ∀ intent ∈ intents, intent ∈ intents') : RefundInv db intents' := by
  refine ⟨h.covered, h.referred, h.positive, fun p hp => ?_⟩
  rcases h.shown p hp with hzero | ⟨intent, hmem, hshown⟩
  · exact Or.inl hzero
  · exact Or.inr ⟨intent, hsub intent hmem, hshown⟩

/-- A new payment without captured money. -/
theorem add_payment (h : RefundInv db intents) {p : Payment} {payments : Table Payment}
    (hinsert : db.payments.insert? p = some payments) (hzero : p.capturedAmountMinor = 0)
    (hp : db'.payments = payments) (hr : db'.refunds = db.refunds) : RefundInv db' intents := by
  subst hp
  refine ⟨fun q hq => ?_, fun r hr' => ?_, by rw [hr]; exact h.positive, fun q hq => ?_⟩
  · rw [hr]
    rcases (Table.mem_insert hinsert).mp hq with hq | rfl
    · exact h.covered q hq
    · rw [total_activeShare_eq_zero, hzero]
      intro r hr' heq
      obtain ⟨q', hq', hid⟩ := h.referred r hr'
      exact Table.key_fresh hinsert hq' (hid.trans heq)
  · rw [hr] at hr'
    obtain ⟨q, hq, hid⟩ := h.referred r hr'
    exact ⟨q, (Table.mem_insert hinsert).mpr (Or.inl hq), hid⟩
  · rcases (Table.mem_insert hinsert).mp hq with hq | rfl
    · exact h.shown q hq
    · exact Or.inl hzero

/-- A payment rewritten without taking captured money back. -/
theorem put_payment (h : RefundInv db intents) {p q : Payment}
    (hp : db.payments.get? p.id = some p) (hpayments : db'.payments = db.payments.put q)
    (hr : db'.refunds = db.refunds) (hid : q.id = p.id)
    (hle : p.capturedAmountMinor ≤ q.capturedAmountMinor)
    (hshown : q.capturedAmountMinor = 0 ∨ ∃ intent ∈ intents,
      q.providerPaymentId = some intent.id ∧ q.capturedAmountMinor ≤ intent.amountReceived) :
    RefundInv db' intents := by
  have hmem := Table.mem_of_get? hp
  refine ⟨fun p' hp' => ?_, fun r hr' => ?_, by rw [hr]; exact h.positive, fun p' hp' => ?_⟩
  · rw [hr]
    rw [hpayments] at hp'
    rcases Table.mem_put.mp hp' with ⟨rfl, _⟩ | ⟨hp', _⟩
    · rw [hid]
      exact le_trans (h.covered p hmem) hle
    · exact h.covered p' hp'
  · rw [hr] at hr'
    obtain ⟨p', hp', hpid⟩ := h.referred r hr'
    rw [hpayments]
    by_cases hk : p'.id = q.id
    · exact ⟨q, Table.mem_put_self hp' hk, hk.symm.trans hpid⟩
    · exact ⟨p', Table.mem_put_of_mem hp' hk, hpid⟩
  · rw [hpayments] at hp'
    rcases Table.mem_put.mp hp' with ⟨rfl, _⟩ | ⟨hp', _⟩
    · exact hshown
    · exact h.shown p' hp'

/-- A payment rewritten with the same amount. -/
theorem put_status (h : RefundInv db intents) {p q : Payment}
    (hp : db.payments.get? p.id = some p) (hpayments : db'.payments = db.payments.put q)
    (hr : db'.refunds = db.refunds) (hid : q.id = p.id)
    (hsame : q.capturedAmountMinor = p.capturedAmountMinor)
    (hprovider : q.providerPaymentId = p.providerPaymentId) : RefundInv db' intents := by
  refine h.put_payment hp hpayments hr hid (le_of_eq hsame.symm) ?_
  rw [hsame, hprovider]
  exact h.shown p (Table.mem_of_get? hp)

/-- A new refund within the balance of its payment. -/
theorem add_refund (h : RefundInv db intents) {p : Payment} {r : Refund} {refunds : Table Refund}
    (hp : p ∈ db.payments.rows) (hof : r.paymentId = p.id) (hpos : 0 < r.amountMinor)
    (hle : db.refunds.total (activeShare p.id) + r.amountMinor ≤ p.capturedAmountMinor)
    (hinsert : db.refunds.insert? r = some refunds)
    (hpayments : db'.payments = db.payments) (hr : db'.refunds = refunds) :
    RefundInv db' intents := by
  subst hr
  refine ⟨fun q hq => ?_, fun s hs => ?_, fun s hs => ?_, by rw [hpayments]; exact h.shown⟩
  · rw [hpayments] at hq
    rw [Table.total_insert _ hinsert]
    by_cases hk : p.id = q.id
    · have hpq : p = q := Table.eq_of_key hp hq hk
      subst hpq
      have := activeShare_le p.id hpos
      omega
    · have hzero := activeShare_of_ne (r := r) (fun e => hk (hof.symm.trans e))
      have := h.covered q hq
      omega
  · rw [hpayments]
    rcases (Table.mem_insert hinsert).mp hs with hs | rfl
    · exact h.referred s hs
    · exact ⟨p, hp, hof.symm⟩
  · rcases (Table.mem_insert hinsert).mp hs with hs | rfl
    · exact h.positive s hs
    · exact hpos

/-- A refund in a new status, covered by the balance if it is revived. -/
theorem put_refund (h : RefundInv db intents) {r : Refund} {status : RefundStatus}
    (hmem : r ∈ db.refunds.rows)
    (hrevive : activeRefundStatus status = true → activeRefundStatus r.status = false →
      ∀ p ∈ db.payments.get? r.paymentId,
        db.refunds.total (activeShare p.id) + r.amountMinor ≤ p.capturedAmountMinor)
    (hpayments : db'.payments = db.payments)
    (hr : db'.refunds = db.refunds.put { r with status }) : RefundInv db' intents := by
  have hpos := h.positive r hmem
  refine ⟨fun q hq => ?_, fun s hs => ?_, fun s hs => ?_, by rw [hpayments]; exact h.shown⟩
  · rw [hpayments] at hq
    have hput : (db.refunds.put { r with status }).total (activeShare q.id) =
        db.refunds.total (activeShare q.id) - activeShare q.id r +
          activeShare q.id { r with status } :=
      Table.total_put _ (Table.get?_key hmem)
    have hcovered := h.covered q hq
    rw [hr, hput]
    by_cases hk : r.paymentId = q.id
    · have hget : db.payments.get? r.paymentId = some q := hk ▸ Table.get?_key hq
      cases hold : activeRefundStatus r.status with
      | true =>
        simp only [activeShare, hk, hold, decide_true, Bool.true_and, if_true]
        split <;> omega
      | false =>
        cases hnew : activeRefundStatus status with
        | true =>
          have := hrevive hnew hold q hget
          simp only [activeShare, hk, hold, hnew, decide_true, Bool.true_and, if_true] at this ⊢
          simpa using this
        | false =>
          simp only [activeShare, hk, hold, hnew, decide_true, Bool.true_and]
          simpa using hcovered
    · rw [activeShare_of_ne hk, activeShare_of_ne (r := { r with status }) hk]
      omega
  · rw [hpayments]
    rw [hr] at hs
    rcases Table.mem_put.mp hs with ⟨rfl, _⟩ | ⟨hs, _⟩
    · exact h.referred r hmem
    · exact h.referred s hs
  · rw [hr] at hs
    rcases Table.mem_put.mp hs with ⟨rfl, _⟩ | ⟨hs, _⟩
    · exact hpos
    · exact h.positive s hs

end RefundInv

/-! ## One step -/

/-- Every payment is kept, with no less captured. -/
abbrev AmountKept : Table Payment → Table Payment → Prop :=
  Table.Kept (fun p q => p.capturedAmountMinor ≤ q.capturedAmountMinor)

theorem AmountKept.same {t u : Table Payment} (h : u = t) : AmountKept t u :=
  Table.Kept.of_eq h (fun p => le_refl p.capturedAmountMinor)

theorem AmountKept.put {t : Table Payment} {p q : Payment} (hp : t.get? q.id = some p)
    (h : p.capturedAmountMinor ≤ q.capturedAmountMinor) : AmountKept t (t.put q) :=
  Table.Kept.put hp h (fun p => le_refl p.capturedAmountMinor)

theorem AmountKept.insert {t u : Table Payment} {p : Payment} (h : t.insert? p = some u) :
    AmountKept t u :=
  Table.Kept.insert h (fun p => le_refl p.capturedAmountMinor)

/-- Both laws after one step, from the invariant before it. -/
def Conserves (db : Db) (intents : List ProviderIntent) (db' : Db) : Prop :=
  RefundInv db' intents ∧ AmountKept db.payments db'.payments

theorem Conserves.of_same {db db' : Db} {intents : List ProviderIntent}
    (h : RefundInv db intents) (hp : db'.payments = db.payments) (hr : db'.refunds = db.refunds) :
    Conserves db intents db' :=
  ⟨h.of_same hp hr, .same hp⟩

theorem Conserves.put_payment {db db' : Db} {intents : List ProviderIntent} {p q : Payment}
    (h : RefundInv db intents) (hp : db.payments.get? p.id = some p)
    (hpayments : db'.payments = db.payments.put q) (hr : db'.refunds = db.refunds)
    (hid : q.id = p.id) (hle : p.capturedAmountMinor ≤ q.capturedAmountMinor)
    (hshown : q.capturedAmountMinor = 0 ∨ ∃ intent ∈ intents,
      q.providerPaymentId = some intent.id ∧ q.capturedAmountMinor ≤ intent.amountReceived) :
    Conserves db intents db' :=
  ⟨h.put_payment hp hpayments hr hid hle hshown, hpayments ▸ .put (hid.symm ▸ hp) hle⟩

/-- A payment rewritten with the same amount. -/
theorem Conserves.put_status {db db' : Db} {intents : List ProviderIntent} {p q : Payment}
    (h : RefundInv db intents) (hp : db.payments.get? p.id = some p)
    (hpayments : db'.payments = db.payments.put q) (hr : db'.refunds = db.refunds)
    (hid : q.id = p.id) (hsame : q.capturedAmountMinor = p.capturedAmountMinor)
    (hprovider : q.providerPaymentId = p.providerPaymentId) : Conserves db intents db' :=
  ⟨h.put_status hp hpayments hr hid hsame hprovider,
    hpayments ▸ .put (hid.symm ▸ hp) (le_of_eq hsame.symm)⟩

theorem Conserves.add_payment {db db' : Db} {intents : List ProviderIntent} {p : Payment}
    {payments : Table Payment} (h : RefundInv db intents)
    (hinsert : db.payments.insert? p = some payments) (hzero : p.capturedAmountMinor = 0)
    (hp : db'.payments = payments) (hr : db'.refunds = db.refunds) : Conserves db intents db' :=
  ⟨h.add_payment hinsert hzero hp hr, hp ▸ .insert hinsert⟩

/-- The provider's id of the payment an event is about. -/
theorem eventPayment_providerId {db : Db} {event : StripeEvent} {payment : Payment}
    (h : eventPayment db event = some payment) :
    event.object.object = some "payment_intent" ∧
      payment.providerPaymentId = event.object.id := by
  unfold eventPayment at h
  split at h
  · next hobject =>
    obtain ⟨id, hid, hfind⟩ := Option.bind_eq_some_iff.mp h
    refine ⟨hobject, ?_⟩
    rw [hid]
    simpa using List.find?_some hfind
  · cases h

theorem IntentEffect.conserves {db db' : Db} {intents : List ProviderIntent} {payment : Payment}
    {event : StripeEvent} {now : Instant} (heffect : IntentEffect db payment event now db')
    (h : RefundInv db intents) (hfound : eventPayment db event = some payment)
    (hshows : ∃ intent ∈ intents, ShowsIntent event.object intent)
    (holder : AmountNotOlder db event) : Conserves db intents db' := by
  have hpayment := eventPayment_get? hfound
  cases heffect with
  | failed code type =>
    exact .put_status h hpayment (releaseFailedLeadPurchase_payments _ _)
      (releaseFailedLeadPurchase_refunds _ _) rfl rfl rfl
  | canceled type =>
    exact .put_status h hpayment (releaseFailedLeadPurchase_payments _ _)
      (releaseFailedLeadPurchase_refunds _ _) rfl rfl rfl
  | reported amount db' type received checks settled =>
    obtain ⟨hp, hr, _⟩ := settled.ledger
    cases hmember : event.object.amountReceived with
    | missing =>
      rw [hmember, amountReceived, return_committed] at received
      exact .put_status h hpayment hp hr rfl received.symm rfl
    | null =>
      rw [hmember] at received
      cases received
    | value reportedAmount =>
      rw [hmember, amountReceived, return_committed] at received
      subst received
      refine .put_payment h hpayment hp hr rfl (holder type payment hfound _ hmember) ?_
      obtain ⟨intent, hintent, hid, _, hamount⟩ := hshows
      refine Or.inr ⟨intent, hintent, ?_, ?_⟩
      · exact (eventPayment_providerId hfound).2.trans hid
      · rcases hamount with hamount | hamount
        · rw [hmember] at hamount
          cases hamount
        · rw [hmember, Member.value.injEq] at hamount
          exact le_of_eq hamount
  | ignored type => exact .of_same h rfl rfl

theorem eventRefund_eq {db : Db} {event : StripeEvent} {refund : Refund} {status : RefundStatus}
    (hobject : event.object.object = some "refund")
    (hfound : event.object.id.bind (refundByProviderId db) = some refund)
    (hshown : event.object.status.bind RefundStatus.ofValue? = some status) :
    eventRefund db event = some (refund, status) := by
  simp [eventRefund, hobject, hfound, hshown]

theorem refundByProviderId_mem {db : Db} {id : Option String} {refund : Refund}
    (h : id.bind (refundByProviderId db) = some refund) : refund ∈ db.refunds.rows := by
  obtain ⟨_, _, hfind⟩ := Option.bind_eq_some_iff.mp h
  exact List.mem_of_find?_eq_some hfind

theorem RefundEffect.conserves {db db' : Db} {intents : List ProviderIntent}
    {event : StripeEvent} (heffect : RefundEffect db event.object db') (h : RefundInv db intents)
    (hobject : event.object.object = some "refund") (hrevival : RevivalCovered db event) :
    Conserves db intents db' := by
  have hrevive : ∀ refund status, event.object.id.bind (refundByProviderId db) = some refund →
      event.object.status.bind RefundStatus.ofValue? = some status →
      activeRefundStatus status = true → activeRefundStatus refund.status = false →
      ∀ p ∈ db.payments.get? refund.paymentId,
        db.refunds.total (activeShare p.id) + refund.amountMinor ≤ p.capturedAmountMinor := by
    intro refund status hfound hshown hnew hold p hp
    rw [← refundedAmount_eq]
    exact hrevival _ (eventRefund_eq hobject hfound hshown) hnew hold p hp
  cases heffect with
  | ignored => exact .of_same h rfl rfl
  | noted refund status found shown =>
    exact ⟨h.put_refund (refundByProviderId_mem found) (hrevive refund status found shown) rfl rfl,
      .same rfl⟩
  | succeeded refund payment whole found shown paid =>
    have hnoted : RefundInv { db with
        refunds := db.refunds.put { refund with status := .succeeded } } intents :=
      h.put_refund (refundByProviderId_mem found) (hrevive refund _ found shown) rfl rfl
    have hpayment : db.payments.get? payment.id = some payment :=
      Table.get?_found paid
    refine ⟨hnoted.put_status hpayment (markLeadPurchaseRefunded_payments _ _)
      (markLeadPurchaseRefunded_refunds _ _) rfl rfl rfl, ?_⟩
    rw [markLeadPurchaseRefunded_payments]
    exact .put hpayment (le_refl _)

/-- Every step that keeps the balance conserves refunds and captured amounts. -/
theorem step_conserves {settings : Settings} {w : World} {op : Op} {db' : Db}
    (hcommit : Commit settings w op db') (h : RefundInv w.db w.intents) (htruth : Truthful w op)
    (hkeeps : KeepsBalance w op) : Conserves w.db w.intents db' := by
  cases hcommit with
  | same => exact .of_same h rfl rfl
  | created metadata intent records payments purpose checks inserted =>
    exact .add_payment h inserted htruth.2 rfl rfl
  | purchased lead leadPurchases paid payment found available fresh inserted intended =>
    rcases createProfessionalLeadIntent_ok intended with
      ⟨rfl, _⟩ | ⟨intent, payments, rfl, rfl, _, hinsert, rfl⟩
    · exact .of_same h rfl rfl
    · exact .add_payment h hinsert htruth.2 rfl rfl
  | captured payment intent db' found status checks settled =>
    obtain ⟨hp, hr, _⟩ := settled.ledger
    obtain ⟨hintent, hlatest, hprovider⟩ := htruth
    have hpayment : w.db.payments.get? payment.id = some payment :=
      Table.get?_found found
    have hsame := hprovider payment found
    refine .put_payment h hpayment hp hr rfl ?_
      (Or.inr ⟨intent, hintent, hsame, le_refl _⟩)
    rcases h.shown payment (Table.mem_of_get? found) with
      hzero | ⟨earlier, hearlier, hearlierId, hle⟩
    · rw [hzero]
      exact checks.2.2.1
    · rw [hsame, Option.some.injEq] at hearlierId
      exact le_trans hle (hlatest earlier hearlier hearlierId.symm)
  | refunded payment made refunds log event db' found status positive ofPayment covered inserted
      notCaptured result =>
    have hpayment : w.db.payments.get? payment.id = some payment :=
      Table.get?_found found
    rw [refundedAmount_eq] at covered
    have hadded : RefundInv (withRefund w.db refunds log event) w.intents :=
      h.add_refund (Table.mem_of_get? found) ofPayment positive covered inserted rfl rfl
    rcases result with rfl | ⟨whole, rfl⟩
    · exact ⟨hadded, .same rfl⟩
    · refine ⟨hadded.put_status hpayment (markLeadPurchaseRefunded_payments _ _)
        (markLeadPurchaseRefunded_refunds _ _) rfl rfl rfl, ?_⟩
      rw [markLeadPurchaseRefunded_payments]
      exact .put hpayment (le_refl _)
  | delivered applied paymentEvents fresh effect =>
    obtain ⟨holder, hrevival⟩ := hkeeps fresh
    have hconserves : Conserves w.db w.intents applied := by
      cases effect with
      | intent payment found effect =>
        exact effect.conserves h found (htruth.1 (eventPayment_providerId found).1) holder
      | refund object effect => exact effect.conserves h object hrevival
      | ignored same => exact .of_same h (by rw [same]) (by rw [same])
    exact ⟨hconserves.1.of_same rfl rfl, hconserves.2⟩
  | noted delivery paymentEvents => exact .of_same h rfl rfl

/-! ## Runs -/

/-- Before any payment is made. -/
def NoPayments (w : World) : Prop := w.db.payments.rows = [] ∧ w.db.refunds.rows = []

instance : DecidablePred NoPayments := fun _ => inferInstanceAs (Decidable (_ ∧ _))

theorem NoPayments.refundInv {w : World} (h : NoPayments w) : RefundInv w.db w.intents := by
  refine ⟨?_, ?_, ?_, ?_⟩ <;> simp [h.1, h.2]

/-- In a truthful run that keeps the balance at every event, active refunds are always
covered by the captured amount, and that amount never decreases. -/
theorem refunds_conserved (settings : Settings) (w : World) (ops : List Op)
    (hstart : NoPayments w) (htruth : Along (exec settings) Truthful w ops)
    (hkeeps : Along (exec settings) KeepsBalance w ops) :
    Always (exec settings) RefundsCovered w ops ∧
      (states (exec settings) w ops).Pairwise CapturedKept := by
  have hstep : ∀ w op, RefundInv w.db w.intents → Truthful w op ∧ KeepsBalance w op →
      Conserves w.db w.intents (exec settings w op).db :=
    fun w op hinv h => step_conserves (exec_commit settings w op) hinv h.1 h.2
  have hinv : ∀ w op, RefundInv w.db w.intents → Truthful w op ∧ KeepsBalance w op →
      RefundInv (exec settings w op).db (exec settings w op).intents :=
    fun w op hinv h => (hstep w op hinv h).1.mono (exec_intents settings w op)
  constructor
  · refine Always.imp (fun w hw => ?_) (always_of_inv hinv hstart.refundInv (htruth.and hkeeps))
    intro p hp
    rw [refundedAmount_eq]
    exact hw.covered p hp
  · have hkept : (states (exec settings) w ops).Pairwise
        (fun w w' => AmountKept w.db.payments w'.db.payments) :=
      pairwise_of_step (fun w => .same rfl)
        (fun _ _ _ h h' => Table.Kept.trans h h' fun _ _ _ => le_trans) hinv
        (fun w op hw h => (hstep w op hw h).2) hstart.refundInv (htruth.and hkeeps)
    refine hkept.imp fun hkept => ?_
    intro p hp q hq hid
    exact hkept.rel hp hq hid

/-- An event about the refund `re_1`. -/
def refundEvent (eventId status : String) : StripeEvent where
  id := eventId
  type := "refund.updated"
  object := { object := some "refund", id := some "re_1", status := some status }

/-- The visit is paid and half of it refunded, which the provider reports late. -/
def visitRefunded : List Op :=
  visitPaid ++
    [.stripeRefund ⟨"re_1", "pending"⟩,
     .refund 10 (some 5000) "half" 7 none (.ok ⟨"re_1", "pending"⟩) 1 30,
     .stripeRefund ⟨"re_1", "succeeded"⟩,
     .deliver (refundEvent "evt_5" "succeeded") none 2 31]

theorem visit_refunds_conserved :
    Always (exec sampleSettings) RefundsCovered visitWorld visitRefunded ∧
      (states (exec sampleSettings) visitWorld visitRefunded).Pairwise CapturedKept :=
  refunds_conserved _ _ _ (by decide) (by decide) (by decide)

/-- The visit is refunded in full, and then the event of its processing arrives, with
nothing received yet. -/
def lateCapture : List Op :=
  visitPaid ++
    [.stripeRefund ⟨"re_1", "succeeded"⟩,
     .refund 10 none "full" 7 none (.ok ⟨"re_1", "succeeded"⟩) 1 30,
     .deliver (intentEvent "evt_1" "payment_intent.processing" "pi_1" "processing" 0) none 2 31]

/-- A truthful run in which a late event leaves a refund of 10000 against nothing captured. -/
theorem late_capture_event_loses_amount :
    Along (exec sampleSettings) Truthful visitWorld lateCapture ∧
      ¬ Always (exec sampleSettings) RefundsCovered visitWorld lateCapture ∧
      ¬ (states (exec sampleSettings) visitWorld lateCapture).Pairwise CapturedKept := by
  decide

/-- The refund of the visit fails, another one replaces it, and then the event of the
first one being pending arrives. -/
def lateRefund : List Op :=
  visitPaid ++
    [.stripeRefund ⟨"re_1", "pending"⟩,
     .refund 10 none "first" 7 none (.ok ⟨"re_1", "pending"⟩) 1 30,
     .stripeRefund ⟨"re_1", "failed"⟩,
     .deliver (refundEvent "evt_4" "failed") none 2 31,
     .stripeRefund ⟨"re_2", "succeeded"⟩,
     .refund 10 none "second" 7 none (.ok ⟨"re_2", "succeeded"⟩) 3 32,
     .deliver (refundEvent "evt_3" "pending") none 4 33]

/-- A truthful run that ends with refunds of 20000 against 10000 captured. -/
theorem late_refund_event_overdraws :
    Along (exec sampleSettings) Truthful visitWorld lateRefund ∧
      ¬ Always (exec sampleSettings) RefundsCovered visitWorld lateRefund := by
  decide

end Breero.Payments
