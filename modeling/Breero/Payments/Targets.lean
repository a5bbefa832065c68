import Breero.Payments.Rows

/-!
What payments pay for, and what a step does to it.

* `TargetsKept`: a paid target is never opened again, and payments and purchases
  keep what they refer to;
* `PaymentRefs`: every payment refers to one target, and a purchase has one payment;
* `CapturedTargets`: a payment with a `payment_captured` event has a settled target.

All three hold of every step, whatever the provider reports.
-/

namespace Breero.Payments
open KeyedTable Transaction Leads Runs

/-! ## What the release and the refund of a purchase write -/

theorem releaseFailedLeadPurchase_cases (db : Db) (payment : Payment) :
    releaseFailedLeadPurchase db payment = db ∨
    ∃ purchase leads, payment.paymentPurpose = .professionalLead ∧
      payment.leadPurchaseId.bind db.leadPurchases.get? = some purchase ∧
      (leads = db.leads ∨ ∃ lead, db.leads.get? purchase.leadId = some lead ∧
        lead.status = .reserved ∧
        leads = db.leads.put { lead with status := .available, purchasedByVendorId := none }) ∧
      releaseFailedLeadPurchase db payment = { db with
        leadPurchases := db.leadPurchases.put { purchase with status := .failed }
        leads } := by
  unfold releaseFailedLeadPurchase
  split
  · next hpurpose =>
    split
    · exact Or.inl rfl
    · next purchase hpurchase =>
      right
      dsimp only
      split
      · exact ⟨purchase, _, hpurpose, hpurchase, Or.inl rfl, rfl⟩
      · next lead hlead =>
        split
        · next hreserved =>
          exact ⟨purchase, _, hpurpose, hpurchase, Or.inr ⟨lead, hlead, hreserved, rfl⟩, rfl⟩
        · exact ⟨purchase, _, hpurpose, hpurchase, Or.inl rfl, rfl⟩
  · exact Or.inl rfl

theorem markLeadPurchaseRefunded_cases (db : Db) (payment : Payment) :
    markLeadPurchaseRefunded db payment = db ∨
    ∃ purchase, payment.leadPurchaseId.bind db.leadPurchases.get? = some purchase ∧
      markLeadPurchaseRefunded db payment = { db with
        leadPurchases := db.leadPurchases.put { purchase with status := .refunded } } := by
  unfold markLeadPurchaseRefunded
  split
  · split
    · exact Or.inl rfl
    · next purchase hpurchase => exact Or.inr ⟨purchase, hpurchase, rfl⟩
  · exact Or.inl rfl

/-! ## Targets -/

/-- The target of the payment is not, or no longer, waiting to be paid. -/
def TargetSettled (db : Db) (p : Payment) : Prop :=
  match p.paymentPurpose with
  | .bookingDiagnostic => ∃ booking ∈ p.bookingId.bind db.bookings.get?,
      booking.status ≠ .pendingPayment
  | .quoteAdditionalWork => ∃ quote ∈ p.quoteId.bind db.workRequests.get?,
      quote.status ≠ .approvedPendingPayment
  | .professionalLead => ∃ purchase ∈ p.leadPurchaseId.bind db.leadPurchases.get?,
      ∃ lead ∈ db.leads.get? purchase.leadId, lead.status = .purchased

/-- The target is in a state that `settle` takes as settled before. -/
def SettledBefore (db : Db) (p : Payment) : Prop :=
  match p.paymentPurpose with
  | .bookingDiagnostic => ∃ booking ∈ p.bookingId.bind db.bookings.get?,
      booking.status = .pendingProviderConfirmation ∨ booking.status = .confirmed
  | .quoteAdditionalWork => ∃ quote ∈ p.quoteId.bind db.workRequests.get?,
      quote.status = .approved
  | .professionalLead => ∃ purchase ∈ p.leadPurchaseId.bind db.leadPurchases.get?,
      ∃ lead ∈ db.leads.get? purchase.leadId, lead.status = .purchased

instance (db : Db) (p : Payment) : Decidable (SettledBefore db p) :=
  match h : p.paymentPurpose with
  | .bookingDiagnostic => decidable_of_iff (∃ booking ∈ p.bookingId.bind db.bookings.get?,
      booking.status = .pendingProviderConfirmation ∨ booking.status = .confirmed)
      (by simp [SettledBefore, h])
  | .quoteAdditionalWork => decidable_of_iff (∃ quote ∈ p.quoteId.bind db.workRequests.get?,
      quote.status = .approved) (by simp [SettledBefore, h])
  | .professionalLead => decidable_of_iff
      (∃ purchase ∈ p.leadPurchaseId.bind db.leadPurchases.get?,
        ∃ lead ∈ db.leads.get? purchase.leadId, lead.status = .purchased)
      (by simp [SettledBefore, h])

/-- A rewritten purchase is still the same vendor's purchase of the same lead. -/
def SamePurchase (a b : LeadPurchase) : Prop :=
  b.id = a.id ∧ b.leadId = a.leadId ∧ b.vendorId = a.vendorId

structure TargetsKept (db db' : Db) : Prop where
  payments : Table.Kept SameRefs db.payments db'.payments
  bookings : Table.Kept (fun a b => a.status ≠ .pendingPayment → b.status ≠ .pendingPayment)
    db.bookings db'.bookings
  workRequests : Table.Kept
    (fun a b => a.status ≠ .approvedPendingPayment → b.status ≠ .approvedPendingPayment)
    db.workRequests db'.workRequests
  leads : Table.Kept (fun a b => a.status = .purchased → b.status = .purchased)
    db.leads db'.leads
  leadPurchases : Table.Kept SamePurchase db.leadPurchases db'.leadPurchases

theorem TargetSettled.kept {db db' : Db} {p q : Payment} (h : TargetSettled db p)
    (hkept : TargetsKept db db') (hrefs : SameRefs p q) : TargetSettled db' q := by
  unfold TargetSettled at h ⊢
  rw [hrefs.paymentPurpose, hrefs.bookingId, hrefs.quoteId, hrefs.leadPurchaseId]
  cases hpurpose : p.paymentPurpose with
  | bookingDiagnostic =>
    rw [hpurpose] at h
    obtain ⟨booking, hbooking, hstatus⟩ := h
    obtain ⟨booking', hbooking', hsettled⟩ := hkept.bookings.bind hbooking
    exact ⟨booking', hbooking', hsettled hstatus⟩
  | quoteAdditionalWork =>
    rw [hpurpose] at h
    obtain ⟨quote, hquote, hstatus⟩ := h
    obtain ⟨quote', hquote', hsettled⟩ := hkept.workRequests.bind hquote
    exact ⟨quote', hquote', hsettled hstatus⟩
  | professionalLead =>
    rw [hpurpose] at h
    obtain ⟨purchase, hpurchase, lead, hlead, hstatus⟩ := h
    obtain ⟨purchase', hpurchase', _, hsame, _⟩ := hkept.leadPurchases.bind hpurchase
    obtain ⟨lead', hlead', hpurchased⟩ := hkept.leads.get? hlead
    exact ⟨purchase', hpurchase', lead', hsame ▸ hlead', hpurchased hstatus⟩

theorem samePurchase_refl (a : LeadPurchase) : SamePurchase a a := ⟨rfl, rfl, rfl⟩

/-- A step that writes payments and nothing they pay for. -/
theorem TargetsKept.of_payments {db db' : Db}
    (payments : Table.Kept SameRefs db.payments db'.payments)
    (bookings : db'.bookings = db.bookings) (workRequests : db'.workRequests = db.workRequests)
    (leads : db'.leads = db.leads) (leadPurchases : db'.leadPurchases = db.leadPurchases) :
    TargetsKept db db' where
  payments := payments
  bookings := .of_eq bookings fun _ h => h
  workRequests := .of_eq workRequests fun _ h => h
  leads := .of_eq leads fun _ h => h
  leadPurchases := .of_eq leadPurchases samePurchase_refl

theorem TargetsKept.refl (db : Db) : TargetsKept db db :=
  .of_payments (.of_eq rfl SameRefs.refl) rfl rfl rfl rfl

theorem TargetsKept.trans {db db' db'' : Db} (h : TargetsKept db db')
    (h' : TargetsKept db' db'') : TargetsKept db db'' where
  payments := h.payments.trans h'.payments fun _ _ _ => SameRefs.trans
  bookings := h.bookings.trans h'.bookings fun _ _ _ hab hbc ha => hbc (hab ha)
  workRequests := h.workRequests.trans h'.workRequests fun _ _ _ hab hbc ha => hbc (hab ha)
  leads := h.leads.trans h'.leads fun _ _ _ hab hbc ha => hbc (hab ha)
  leadPurchases := h.leadPurchases.trans h'.leadPurchases fun _ _ _ hab hbc =>
    ⟨hbc.1.trans hab.1, hbc.2.1.trans hab.2.1, hbc.2.2.trans hab.2.2⟩

theorem TargetsKept.with_events {db db' : Db} (h : TargetsKept db db')
    (paymentEvents : Table PaymentEvent) : TargetsKept db { db' with paymentEvents } :=
  ⟨h.payments, h.bookings, h.workRequests, h.leads, h.leadPurchases⟩

theorem put_purchase_kept {t : Table LeadPurchase} {i : Option Uuid} {purchase : LeadPurchase}
    (status : LeadPurchaseStatus) (h : i.bind t.get? = some purchase) :
    Table.Kept SamePurchase t (t.put { purchase with status }) := by
  obtain ⟨_, _, hget⟩ := Option.bind_eq_some_iff.mp h
  exact .put_found hget rfl ⟨rfl, rfl, rfl⟩ samePurchase_refl

theorem put_payment_kept {t : Table Payment} {p q : Payment} (hp : t.get? p.id = some p)
    (hrefs : SameRefs p q) : Table.Kept SameRefs t (t.put q) :=
  .put_found hp hrefs.id hrefs SameRefs.refl

theorem Rewritten.kept {t u : Table Payment} (h : Rewritten t u) : Table.Kept SameRefs t u := by
  rcases h with rfl | ⟨p, q, hp, hrefs, _, rfl⟩
  · exact .of_eq rfl SameRefs.refl
  · exact put_payment_kept hp hrefs

/-- A settlement settles its own target and opens none. -/
theorem Settlement.targetsKept {db after : Db} {p q : Payment} {now : Instant}
    (h : Settlement { db with payments := db.payments.put q } q now after)
    (hp : db.payments.get? p.id = some p) (hrefs : SameRefs p q) : TargetsKept db after := by
  have hpayments := put_payment_kept hp hrefs
  cases h with
  | lead purchase lead purpose found foundLead status =>
    refine ⟨hpayments, .of_eq rfl fun _ h => h, .of_eq rfl fun _ h => h, ?_,
      put_purchase_kept _ found⟩
    exact .put_found foundLead rfl (fun _ => rfl) fun _ h => h
  | quoteAgain quote purpose found status => exact .of_payments hpayments rfl rfl rfl rfl
  | quote quote jobs jobEvents purpose found status =>
    obtain ⟨_, _, hget⟩ := Option.bind_eq_some_iff.mp found
    refine ⟨hpayments, .of_eq rfl fun _ h => h, ?_, .of_eq rfl fun _ h => h,
      .of_eq rfl samePurchase_refl⟩
    exact .put_found hget rfl (fun _ => by simp) fun _ h => h
  | bookingAgain booking purpose found status => exact .of_payments hpayments rfl rfl rfl rfl
  | booking booking jobs jobEvents created purpose found status createdOnly =>
    obtain ⟨_, _, hget⟩ := Option.bind_eq_some_iff.mp found
    refine ⟨hpayments, ?_, .of_eq rfl fun _ h => h, .of_eq rfl fun _ h => h,
      .of_eq rfl samePurchase_refl⟩
    exact .put_found hget rfl (fun _ => by simp) fun _ h => h

theorem Settlement.targetSettled {db after : Db} {p : Payment} {now : Instant}
    (h : Settlement db p now after) : TargetSettled after p := by
  unfold TargetSettled
  cases h with
  | lead purchase lead purpose found foundLead status =>
    rw [purpose]
    have hleadId : lead.id = purchase.leadId := Table.key_of_get? foundLead
    exact ⟨_, Table.bind_put_self found rfl, _, Table.get?_put_self foundLead hleadId, rfl⟩
  | quoteAgain quote purpose found status =>
    rw [purpose]
    exact ⟨quote, found, by simp [status]⟩
  | quote quote jobs jobEvents purpose found status =>
    rw [purpose]
    exact ⟨_, Table.bind_put_self found rfl, by simp⟩
  | bookingAgain booking purpose found status =>
    rw [purpose]
    refine ⟨booking, found, ?_⟩
    rcases status with status | status <;> simp [status]
  | booking booking jobs jobEvents created purpose found status createdOnly =>
    rw [purpose]
    exact ⟨_, Table.bind_put_self found rfl, by simp⟩

/-! ## Counting -/

/-- The step emits one `payment_captured` event, of the payment `p`. -/
def Counts (db db' : Db) (p : Payment) : Prop :=
  ∀ i, capturedCount db' i = capturedCount db i + if p.id = i then 1 else 0

theorem Counts.of_append {db db' : Db} {p : Payment} {now : Instant}
    {added : List IntegrationEvent}
    (h : db'.outbox = db.outbox ++ added ++ [paymentCaptured p now])
    (hadded : ∀ event ∈ added, event.eventType ≠ "payment_captured") : Counts db db' p := by
  intro i
  have hzero : added.countP (isCaptured i) = 0 := by
    rw [List.countP_eq_zero]
    intro event hevent
    simp [isCaptured, hadded event hevent]
  rw [capturedCount, h, List.countP_append, List.countP_append, hzero, capturedCount]
  simp [isCaptured, paymentCaptured, List.countP_singleton]

theorem Counts.of_emit {db db' : Db} {p : Payment} {now : Instant}
    (h : db'.outbox = db.outbox ++ [paymentCaptured p now]) : Counts db db' p := by
  have hadded : db'.outbox = db.outbox ++ [] ++ [paymentCaptured p now] := by
    rw [h, List.append_nil]
  exact .of_append hadded (by simp)

/-- A settlement of an open target is counted, and so is one of a target that was
settled before, unless it is a quote. -/
theorem Settlement.counts {db after : Db} {p : Payment} {now : Instant}
    (h : Settlement db p now after) :
    (¬ TargetSettled db p ∧ Counts db after p) ∨
    (SettledBefore db p ∧ p.paymentPurpose ≠ .quoteAdditionalWork ∧ Counts db after p) ∨
    (SettledBefore db p ∧ p.paymentPurpose = .quoteAdditionalWork ∧ NothingCaptured db after) := by
  unfold TargetSettled SettledBefore
  cases h with
  | lead purchase lead purpose found foundLead status =>
    rw [purpose]
    rcases status with status | status
    · refine Or.inl ⟨?_, .of_emit rfl⟩
      rintro ⟨other, hother, lead', hlead', hpurchased⟩
      have hsame : purchase = other := Option.some.inj (found.symm.trans hother)
      subst hsame
      have hlead : lead = lead' := Option.some.inj (foundLead.symm.trans hlead')
      rw [← hlead, status] at hpurchased
      cases hpurchased
    · exact Or.inr (Or.inl ⟨⟨purchase, found, lead, foundLead, status⟩, by simp, .of_emit rfl⟩)
  | quoteAgain quote purpose found status =>
    rw [purpose]
    exact Or.inr (Or.inr ⟨⟨quote, found, status⟩, rfl, .of_same rfl⟩)
  | quote quote jobs jobEvents purpose found status =>
    rw [purpose]
    refine Or.inl ⟨?_, .of_emit rfl⟩
    rintro ⟨other, hother, hne⟩
    have hsame : quote = other := Option.some.inj (found.symm.trans hother)
    exact hne (hsame ▸ status)
  | bookingAgain booking purpose found status =>
    rw [purpose]
    exact Or.inr (Or.inl ⟨⟨booking, found, status⟩, by simp, .of_emit rfl⟩)
  | booking booking jobs jobEvents created purpose found status createdOnly =>
    rw [purpose]
    refine Or.inl ⟨?_, .of_append rfl fun event hevent => ?_⟩
    · rintro ⟨other, hother, hne⟩
      have hsame : booking = other := Option.some.inj (found.symm.trans hother)
      exact hne (hsame ▸ status)
    · rw [createdOnly event hevent]
      decide

/-! ## Steps -/

theorem SettledBefore.of_refs {db : Db} {payments : Table Payment} {p q : Payment}
    (hrefs : SameRefs p q) (h : SettledBefore { db with payments } q) : SettledBefore db p := by
  unfold SettledBefore at h ⊢
  rw [hrefs.paymentPurpose, hrefs.bookingId, hrefs.quoteId, hrefs.leadPurchaseId] at h
  exact h

theorem TargetSettled.of_refs {db : Db} {p q : Payment} (hrefs : SameRefs p q)
    (h : TargetSettled db q) : TargetSettled db p := by
  unfold TargetSettled at h ⊢
  rw [hrefs.paymentPurpose, hrefs.bookingId, hrefs.quoteId, hrefs.leadPurchaseId] at h
  exact h

theorem releaseFailedLeadPurchase_kept (db : Db) (q : Payment) :
    TargetsKept db (releaseFailedLeadPurchase db q) := by
  rcases releaseFailedLeadPurchase_cases db q with heq | ⟨purchase, leads, _, found, hleads, heq⟩
  · rw [heq]
    exact .refl db
  · rw [heq]
    refine ⟨.of_eq rfl SameRefs.refl, .of_eq rfl fun _ h => h, .of_eq rfl fun _ h => h, ?_,
      put_purchase_kept _ found⟩
    rcases hleads with rfl | ⟨lead, hlead, hreserved, rfl⟩
    · exact .of_eq rfl fun _ h => h
    · refine .put_found hlead rfl (fun hpurchased => ?_) fun _ h => h
      rw [hreserved] at hpurchased
      cases hpurchased

theorem markLeadPurchaseRefunded_kept (db : Db) (q : Payment) :
    TargetsKept db (markLeadPurchaseRefunded db q) := by
  rcases markLeadPurchaseRefunded_cases db q with heq | ⟨purchase, found, heq⟩
  · rw [heq]
    exact .refl db
  · rw [heq]
    exact ⟨.of_eq rfl SameRefs.refl, .of_eq rfl fun _ h => h, .of_eq rfl fun _ h => h,
      .of_eq rfl fun _ h => h, put_purchase_kept _ found⟩

/-- Every step keeps the targets. -/
theorem RowStep.targetsKept {w : World} {op : Op} {db' : Db} (hstep : RowStep w op db') :
    TargetsKept w.db db' := by
  cases hstep with
  | quiet payments targets =>
    exact .of_payments payments.kept targets.bookings targets.workRequests targets.leads
      targets.leadPurchases
  | created p purpose valid status inserted targets =>
    exact .of_payments (.insert inserted SameRefs.refl) targets.bookings targets.workRequests
      targets.leads targets.leadPurchases
  | purchased lead purchase found available fresh inserted leads payments bookings workRequests
      captured =>
    have hpayments : Table.Kept SameRefs w.db.payments db'.payments := by
      rcases payments with ⟨_, hsame⟩ | ⟨p, _, _, _, _, hinsert⟩
      · exact .of_eq hsame SameRefs.refl
      · exact .insert hinsert SameRefs.refl
    have hleads : Table.Kept (fun a b => a.status = .purchased → b.status = .purchased)
        w.db.leads db'.leads := by
      rw [leads]
      refine .put_found found rfl (fun hpurchased => ?_) fun _ h => h
      rw [available] at hpurchased
      cases hpurchased
    exact ⟨hpayments, .of_eq bookings fun _ h => h, .of_eq workRequests fun _ h => h, hleads,
      .insert inserted samePurchase_refl⟩
  | settled p q now after reports found refs status settlement rows =>
    rw [rows]
    exact (settlement.targetsKept found refs).with_events _
  | released p q reports found refs status rows =>
    rw [rows]
    have hput : TargetsKept w.db { w.db with payments := w.db.payments.put q } :=
      .of_payments (put_payment_kept found refs) rfl rfl rfl rfl
    exact (hput.trans (releaseFailedLeadPurchase_kept _ q)).with_events _
  | refunded p whole before found payments targets rows =>
    rw [rows]
    have hput : TargetsKept w.db before :=
      .of_payments (payments ▸ put_payment_kept found ⟨rfl, rfl, rfl, rfl, rfl⟩) targets.bookings
        targets.workRequests targets.leads targets.leadPurchases
    exact (hput.trans (markLeadPurchaseRefunded_kept before _)).with_events _

/-- A step emits no `payment_captured` event, or one of a payment whose success it
reports: its target was open before, or settled before and not a quote. -/
theorem RowStep.counts {w : World} {op : Op} {db' : Db} (hstep : RowStep w op db') :
    NothingCaptured w.db db' ∨ ∃ p, reportsSuccess w op = some p ∧ p ∈ w.db.payments.rows ∧
      Counts w.db db' p ∧ TargetSettled db' p ∧ (¬ TargetSettled w.db p ∨
        (SettledBefore w.db p ∧ p.paymentPurpose ≠ .quoteAdditionalWork)) := by
  cases hstep with
  | quiet payments targets => exact Or.inl targets.captured
  | created p purpose valid status inserted targets => exact Or.inl targets.captured
  | purchased lead purchase found available fresh inserted leads payments bookings workRequests
      captured =>
    exact Or.inl captured
  | settled p q now after reports found refs status settlement rows =>
    rw [rows]
    have hsettled : TargetSettled after p := settlement.targetSettled.of_refs refs
    have hcounts : Counts { w.db with payments := w.db.payments.put q } after q →
        Counts w.db after p := fun h i => refs.id ▸ h i
    rcases settlement.counts with ⟨hopen, h⟩ | ⟨hbefore, hpurpose, h⟩ | ⟨_, _, h⟩
    · refine Or.inr ⟨p, reports, Table.mem_of_get? found, hcounts h, hsettled, Or.inl ?_⟩
      intro hp
      exact hopen (hp.kept (.of_payments (put_payment_kept found refs) rfl rfl rfl rfl) refs)
    · rw [refs.paymentPurpose] at hpurpose
      exact Or.inr ⟨p, reports, Table.mem_of_get? found, hcounts h, hsettled,
        Or.inr ⟨hbefore.of_refs refs, hpurpose⟩⟩
    · exact Or.inl h
  | released p q reports found refs status rows =>
    obtain ⟨_, _, hrelease⟩ :=
      releaseFailedLeadPurchase_eq { w.db with payments := w.db.payments.put q } q
    rw [rows, hrelease]
    exact Or.inl (.of_same rfl)
  | refunded p whole before found payments targets rows =>
    obtain ⟨_, hmark⟩ := markLeadPurchaseRefunded_eq before (refundedPayment p whole)
    rw [rows, hmark]
    exact Or.inl targets.captured

/-! ## Settled payments -/

/-- A counted payment is there, and what it pays for is settled. -/
def CapturedTargets (db : Db) : Prop :=
  ∀ i, 0 < capturedCount db i → ∃ p ∈ db.payments.rows, p.id = i ∧ TargetSettled db p

theorem RowStep.capturedTargets {w : World} {op : Op} {db' : Db} (hstep : RowStep w op db')
    (h : CapturedTargets w.db) : CapturedTargets db' := by
  have hkept := hstep.targetsKept
  -- a payment counted before is still there
  have hbefore : ∀ i, 0 < capturedCount w.db i →
      ∃ p ∈ db'.payments.rows, p.id = i ∧ TargetSettled db' p := by
    intro i hi
    obtain ⟨p, hp, hid, hsettled⟩ := h i hi
    obtain ⟨q, hq, hrefs⟩ := hkept.payments p hp
    exact ⟨q, Table.mem_of_get? hq, hrefs.id.trans hid, hsettled.kept hkept hrefs⟩
  intro i hi
  rcases hstep.counts with hnothing | ⟨p, _, hp, hcounts, hsettled, _⟩
  · rw [hnothing] at hi
    exact hbefore i hi
  · by_cases hid : p.id = i
    · obtain ⟨q, hq, hrefs⟩ := hkept.payments p hp
      refine ⟨q, Table.mem_of_get? hq, hrefs.id.trans hid, ?_⟩
      exact hsettled.kept (.refl db') hrefs
    · rw [hcounts i, if_neg hid, Nat.add_zero] at hi
      exact hbefore i hi

/-! ## References -/

structure PaymentRefs (db : Db) : Prop where
  valid : ∀ p ∈ db.payments.rows, p.ValidReference
  onePayment : ∀ p ∈ db.payments.rows, ∀ q ∈ db.payments.rows,
    p.leadPurchaseId = q.leadPurchaseId → p.leadPurchaseId ≠ none → p = q
  purchaseOf : ∀ p ∈ db.payments.rows, ∀ i, p.leadPurchaseId = some i →
    ∃ purchase, db.leadPurchases.get? i = some purchase

/-- A step that adds no payment. -/
theorem PaymentRefs.update {db db' : Db} (h : PaymentRefs db)
    (hpayments : ∀ q ∈ db'.payments.rows, ∃ p ∈ db.payments.rows, SameRefs p q)
    (hpurchases : Table.Kept SamePurchase db.leadPurchases db'.leadPurchases) :
    PaymentRefs db' where
  valid q hq := by
    obtain ⟨p, hp, hrefs⟩ := hpayments q hq
    exact hrefs.validReference (h.valid p hp)
  onePayment q hq q' hq' heq hne := by
    obtain ⟨p, hp, hrefs⟩ := hpayments q hq
    obtain ⟨p', hp', hrefs'⟩ := hpayments q' hq'
    rw [hrefs.leadPurchaseId] at heq hne
    rw [hrefs'.leadPurchaseId] at heq
    have hsame := h.onePayment p hp p' hp' heq hne
    exact Table.eq_of_key hq hq' (hrefs.id.trans (hsame ▸ hrefs'.id.symm))
  purchaseOf q hq i hi := by
    obtain ⟨p, hp, hrefs⟩ := hpayments q hq
    obtain ⟨a, ha⟩ := h.purchaseOf p hp i (hrefs.leadPurchaseId ▸ hi)
    obtain ⟨b, hb, _⟩ := hpurchases.get? ha
    exact ⟨b, hb⟩

/-- A new payment that shares its purchase with no other payment. -/
theorem PaymentRefs.add_payment {db db' : Db} {p : Payment} (h : PaymentRefs db)
    (hinsert : db.payments.insert? p = some db'.payments) (hvalid : p.ValidReference)
    (hown : ∀ i, p.leadPurchaseId = some i →
      (∀ q ∈ db.payments.rows, q.leadPurchaseId ≠ some i) ∧
      ∃ purchase, db'.leadPurchases.get? i = some purchase)
    (hpurchases : Table.Kept SamePurchase db.leadPurchases db'.leadPurchases) :
    PaymentRefs db' where
  valid q hq := by
    rcases (Table.mem_insert hinsert).mp hq with hq | rfl
    · exact h.valid q hq
    · exact hvalid
  onePayment q hq q' hq' heq hne := by
    obtain ⟨i, hi⟩ := Option.ne_none_iff_exists'.mp hne
    rcases (Table.mem_insert hinsert).mp hq with hq | rfl <;>
      rcases (Table.mem_insert hinsert).mp hq' with hq' | rfl
    · exact h.onePayment q hq q' hq' heq hne
    · exact absurd hi ((hown i (heq ▸ hi)).1 q hq)
    · exact absurd (heq ▸ hi) ((hown i hi).1 q' hq')
    · rfl
  purchaseOf q hq i hi := by
    rcases (Table.mem_insert hinsert).mp hq with hq | rfl
    · obtain ⟨a, ha⟩ := h.purchaseOf q hq i hi
      obtain ⟨b, hb, _⟩ := hpurchases.get? ha
      exact ⟨b, hb⟩
    · exact (hown i hi).2

/-- Only a lead payment refers to a purchase. -/
theorem no_leadPurchase {p : Payment} (hvalid : p.ValidReference)
    (hpurpose : p.paymentPurpose ≠ .professionalLead) : p.leadPurchaseId = none := by
  unfold Payment.ValidReference at hvalid
  cases hp : p.paymentPurpose <;> simp_all

/-- A new purchase has no payment yet. -/
theorem PaymentRefs.unpaid {db : Db} {purchases : Table LeadPurchase} {purchase : LeadPurchase}
    (h : PaymentRefs db) (hinsert : db.leadPurchases.insert? purchase = some purchases) :
    ∀ p ∈ db.payments.rows, p.leadPurchaseId ≠ some purchase.id := by
  intro p hp hi
  obtain ⟨other, hother⟩ := h.purchaseOf p hp purchase.id hi
  exact Table.key_fresh hinsert (Table.mem_of_get? hother) (Table.key_of_get? hother)

theorem RowStep.paymentRefs {w : World} {op : Op} {db' : Db} (hstep : RowStep w op db')
    (h : PaymentRefs w.db) : PaymentRefs db' := by
  have hpurchases := hstep.targetsKept.leadPurchases
  cases hstep with
  | quiet payments targets =>
    refine h.update (fun q hq => ?_) hpurchases
    obtain ⟨p, hp, hrefs, _⟩ := payments.origin q hq
    exact ⟨p, hp, hrefs⟩
  | created p purpose valid status inserted targets =>
    refine h.add_payment inserted valid (fun i hi => ?_) hpurchases
    rw [no_leadPurchase valid purpose] at hi
    cases hi
  | purchased lead purchase found available fresh inserted leads payments bookings workRequests
      captured =>
    rcases payments with ⟨⟨p, hp, hi⟩, _⟩ | ⟨p, hi, _, valid, _, hinsert⟩
    · exact absurd hi (h.unpaid inserted p hp)
    · refine h.add_payment hinsert valid (fun i hpi => ?_) hpurchases
      have hid : purchase.id = i := Option.some.inj (hi.symm.trans hpi)
      subst hid
      exact ⟨h.unpaid inserted, purchase, Table.get?_insert_self inserted⟩
  | settled p q now after reports found refs status settlement rows =>
    refine h.update ?_ hpurchases
    rw [rows]
    dsimp only
    rw [settlement.ledger.1]
    exact put_origin found refs
  | released p q reports found refs status rows =>
    refine h.update ?_ hpurchases
    rw [rows, releaseFailedLeadPurchase_payments]
    exact put_origin found refs
  | refunded p whole before found payments targets rows =>
    refine h.update ?_ hpurchases
    rw [rows, markLeadPurchaseRefunded_payments, payments]
    exact put_origin found ⟨rfl, rfl, rfl, rfl, rfl⟩

end Breero.Payments
