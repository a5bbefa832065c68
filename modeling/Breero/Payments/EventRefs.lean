import Breero.Payments.Status

/-!
The rows that the events of the payment service refer to.

* `Emits` is what a transaction does to the rows and the outbox, one lemma for each kind of
  write;
* `exec_emits`: a step whose refund is flushed emits only events that refer to rows;
* `events_refer_iff`: the events of a run refer to rows exactly if every refund that it creates
  is flushed before its event is built, and `unflushed_refund_lost` is one that is not.
-/

namespace Breero.Payments
open KeyedTable Transaction Jobs Leads Runs

variable {db db' db'' : Db}

/-! ## References -/

/-- The table that an identifier in a payload is about. -/
def rowNamed : String → Option (Db → Uuid → Bool)
  | "payment_id" => some fun db id => (db.payments.get? id).isSome
  | "refund_id" => some fun db id => (db.refunds.get? id).isSome
  | "job_id" => some fun db id => (db.jobs.get? id).isSome
  | "booking_id" => some fun db id => (db.bookings.get? id).isSome
  | _ => none

/-- Every identifier in the payload is the key of a row. -/
def Refers (db : Db) (event : IntegrationEvent) : Prop :=
  ∀ item ∈ event.payload, ∀ hasRow ∈ rowNamed item.1, ∃ id, item.2 = .uuid id ∧ hasRow db id

/-- Every event of the outbox refers to rows. -/
def AllRefer (db : Db) : Prop := ∀ event ∈ db.outbox, Refers db event

/-- The rows that an event may refer to are still there. -/
structure RowsStay (db db' : Db) : Prop where
  payments : Table.Kept (fun _ _ => True) db.payments db'.payments
  refunds : Table.Kept (fun _ _ => True) db.refunds db'.refunds
  jobs : Table.Kept (fun _ _ => True) db.jobs db'.jobs
  bookings : Table.Kept (fun _ _ => True) db.bookings db'.bookings

theorem RowsStay.of_same (payments : db'.payments = db.payments)
    (refunds : db'.refunds = db.refunds) (jobs : db'.jobs = db.jobs)
    (bookings : db'.bookings = db.bookings) : RowsStay db db' where
  payments := .of_eq payments fun _ => trivial
  refunds := .of_eq refunds fun _ => trivial
  jobs := .of_eq jobs fun _ => trivial
  bookings := .of_eq bookings fun _ => trivial

theorem RowsStay.refl (db : Db) : RowsStay db db := .of_same rfl rfl rfl rfl

theorem RowsStay.trans (h : RowsStay db db') (h' : RowsStay db' db'') : RowsStay db db'' :=
  ⟨h.payments.trans h'.payments fun _ _ _ _ _ => trivial,
    h.refunds.trans h'.refunds fun _ _ _ _ _ => trivial,
    h.jobs.trans h'.jobs fun _ _ _ _ _ => trivial,
    h.bookings.trans h'.bookings fun _ _ _ _ _ => trivial⟩

theorem isSome_of_kept {α κ : Type} [Keyed α κ] [DecidableEq κ] {t u : Table α} {k : κ}
    (h : Table.Kept (fun _ _ => True) t u) (hk : (t.get? k).isSome) : (u.get? k).isSome := by
  obtain ⟨a, ha⟩ := Option.isSome_iff_exists.mp hk
  obtain ⟨b, hb, _⟩ := h.get? ha
  exact Option.isSome_iff_exists.mpr ⟨b, hb⟩

theorem Refers.mono {event : IntegrationEvent} (h : Refers db event) (hstay : RowsStay db db') :
    Refers db' event := by
  intro item hitem hasRow hnamed
  obtain ⟨id, hid, hrow⟩ := h item hitem hasRow hnamed
  refine ⟨id, hid, ?_⟩
  unfold rowNamed at hnamed
  split at hnamed
  · cases hnamed
    exact isSome_of_kept hstay.payments hrow
  · cases hnamed
    exact isSome_of_kept hstay.refunds hrow
  · cases hnamed
    exact isSome_of_kept hstay.jobs hrow
  · cases hnamed
    exact isSome_of_kept hstay.bookings hrow
  · cases hnamed

/-! ## Kinds of writes -/

/-- The rows stay, and the outbox grows by events that refer to rows. -/
def Emits (db db' : Db) : Prop :=
  RowsStay db db' ∧ ∃ emitted, db'.outbox = db.outbox ++ emitted ∧
    ∀ event ∈ emitted, Refers db' event

theorem Emits.of_rows (hstay : RowsStay db db') (houtbox : db'.outbox = db.outbox) :
    Emits db db' :=
  ⟨hstay, [], by simp [houtbox], by simp⟩

theorem Emits.refl (db : Db) : Emits db db := .of_rows (.refl db) rfl

theorem Emits.trans (h : Emits db db') (h' : Emits db' db'') : Emits db db'' := by
  obtain ⟨hstay, emitted, houtbox, hrefers⟩ := h
  obtain ⟨hstay', emitted', houtbox', hrefers'⟩ := h'
  refine ⟨hstay.trans hstay', emitted ++ emitted', by simp [houtbox', houtbox], ?_⟩
  intro event hevent
  rcases List.mem_append.mp hevent with hevent | hevent
  · exact (hrefers event hevent).mono hstay'
  · exact hrefers' event hevent

theorem Emits.allRefer (h : Emits db db') (hall : AllRefer db) : AllRefer db' := by
  obtain ⟨hstay, emitted, houtbox, hrefers⟩ := h
  intro event hevent
  rw [houtbox] at hevent
  rcases List.mem_append.mp hevent with hold | hnew
  · exact (hall event hold).mono hstay
  · exact hrefers event hnew

theorem emit_emits {event : IntegrationEvent} (h : Refers db event) : Emits db (db.emit event) := by
  have hstay : RowsStay db (db.emit event) := .of_same rfl rfl rfl rfl
  refine ⟨hstay, [event], rfl, fun other hother => ?_⟩
  rw [List.mem_singleton.mp hother]
  exact h.mono hstay

theorem putPayment_emits {payment payment' : Payment} {k : Uuid}
    (hfound : db.payments.get? k = some payment) (hid : payment'.id = payment.id) :
    Emits db { db with payments := db.payments.put payment' } :=
  .of_rows { RowsStay.refl db with
    payments := .put_found hfound hid trivial fun _ => trivial } rfl

theorem putBooking_emits {booking booking' : Booking} {k : Uuid}
    (hfound : db.bookings.get? k = some booking) (hid : booking'.id = booking.id) :
    Emits db { db with bookings := db.bookings.put booking' } :=
  .of_rows { RowsStay.refl db with
    bookings := .put_found hfound hid trivial fun _ => trivial } rfl

theorem putRefund_emits {refund refund' : Refund} {k : Uuid}
    (hfound : db.refunds.get? k = some refund) (hid : refund'.id = refund.id) :
    Emits db { db with refunds := db.refunds.put refund' } :=
  .of_rows { RowsStay.refl db with
    refunds := .put_found hfound hid trivial fun _ => trivial } rfl

theorem applyTransition_emits {job job' : Job} {target : JobStatus} {actorId : Option Uuid}
    {actorType : String} {reason : Option String} {metadata : Payload} {now : Instant}
    {changed : Bool} {k : Uuid} (hfound : db.jobs.get? k = some job)
    (h : applyTransition db job target actorId actorType reason metadata now =
      .ok (db', job', changed)) : Emits db db' := by
  rcases applyTransition_cases h with ⟨_, rfl, _, _⟩ | ⟨_, _, rfl, event, rfl⟩
  · exact .refl _
  · exact .of_rows { RowsStay.refl db with
      jobs := .put_found hfound rfl trivial fun _ => trivial } rfl

/-! ## Settlement -/

theorem paymentCaptured_refers {payment : Payment} {now : Instant}
    (hpayment : (db.payments.get? payment.id).isSome) :
    Refers db (paymentCaptured payment now) := by
  intro item hitem hasRow hnamed
  simp only [paymentCaptured, List.mem_cons, List.not_mem_nil, or_false] at hitem
  rcases hitem with rfl | rfl
  · cases hnamed
    exact ⟨_, rfl, hpayment⟩
  · cases hnamed

theorem resumeJob_emits {jobId : Uuid} {now : Instant} (h : resumeJob db jobId now = .ok db') :
    Emits db db' := by
  unfold resumeJob at h
  split at h
  · next job hjob =>
    split at h
    · simp only [seq_committed, return_committed, Prod.exists] at h
      obtain ⟨_, _, _, htransition, rfl⟩ := h
      exact applyTransition_emits hjob htransition
    · rw [return_committed] at h
      exact h ▸ .refl db
  · rw [return_committed] at h
    exact h ▸ .refl db

/-- The event of a new job refers to it and to its booking. -/
theorem createJob_emits {booking : Booking} {now : Instant} {jobId : Uuid}
    (hbooking : (db.bookings.get? booking.id).isSome)
    (h : createJob db booking now jobId = .ok db') : Emits db db' := by
  unfold createJob at h
  split at h
  · rw [return_committed] at h
    exact h ▸ .refl db
  · simp only [seq_committed, return_committed] at h
    obtain ⟨added, hadd, rfl⟩ := h
    obtain ⟨_, jobs, hinsert, rfl⟩ := Db.addJob_ok hadd
    have hadded : ∀ jobEvents, Emits db { db with jobs, jobEvents } := fun _ =>
      .of_rows { RowsStay.refl db with jobs := .insert hinsert fun _ => trivial } rfl
    refine (hadded _).trans (emit_emits ?_)
    intro item hitem hasRow hnamed
    simp only [List.mem_cons, List.not_mem_nil, or_false] at hitem
    rcases hitem with rfl | rfl
    · cases hnamed
      refine ⟨_, rfl, ?_⟩
      exact Option.isSome_iff_exists.mpr ⟨_, Table.get?_insert_self hinsert⟩
    · cases hnamed
      exact ⟨_, rfl, hbooking⟩

theorem confirmBookingAndCreateJob_emits {payment : Payment} {now : Instant} {jobId : Uuid}
    (h : confirmBookingAndCreateJob db payment now jobId = .ok db') : Emits db db' := by
  simp only [confirmBookingAndCreateJob, seq_committed, orRaise_committed] at h
  obtain ⟨booking, hbooking, h⟩ := h
  obtain ⟨k, _, hfound⟩ := Option.bind_eq_some_iff.mp hbooking
  split at h
  · rw [return_committed] at h
    exact h ▸ .refl db
  · simp only [seq_committed, require_committed] at h
    obtain ⟨_, _, hcreate⟩ := h
    let pending := { booking with status := .pendingProviderConfirmation }
    have hput : Emits db { db with bookings := db.bookings.put pending } :=
      putBooking_emits hfound rfl
    refine hput.trans (createJob_emits ?_ hcreate)
    exact Option.isSome_iff_exists.mpr
      ⟨_, Table.get?_put_self (c := booking) (Table.get?_found hfound) rfl⟩

theorem settle_emits {payment : Payment} {now : Instant} {jobId : Uuid}
    (hpayment : (db.payments.get? payment.id).isSome)
    (h : settle db payment now jobId = .ok db') : Emits db db' := by
  have hcaptured : ∀ {settled}, Emits db settled →
      Emits db (settled.emit (paymentCaptured payment now)) := fun hsettled =>
    hsettled.trans (emit_emits (paymentCaptured_refers (isSome_of_kept hsettled.1.payments
      hpayment)))
  unfold settle at h
  split at h
  case h_1 =>
    simp only [settleLead, seq_committed, return_committed] at h
    obtain ⟨_, ⟨_, _, _, _, _, _, rfl⟩, rfl⟩ := h
    exact hcaptured (.of_rows (.of_same rfl rfl rfl rfl) rfl)
  case h_2 =>
    simp only [seq_committed] at h
    obtain ⟨quote, _, h⟩ := h
    split at h
    · rw [return_committed] at h
      exact h ▸ .refl db
    · simp only [settleQuote, seq_committed, return_committed] at h
      obtain ⟨_, ⟨_, _, _, _, hresume⟩, rfl⟩ := h
      have hquote : ∀ workRequests, Emits db { db with workRequests } := fun _ =>
        .of_rows (.of_same rfl rfl rfl rfl) rfl
      exact hcaptured ((hquote _).trans (resumeJob_emits hresume))
  case h_3 =>
    simp only [seq_committed, return_committed] at h
    obtain ⟨_, hconfirm, rfl⟩ := h
    exact hcaptured (confirmBookingAndCreateJob_emits hconfirm)

/-! ## Transactions -/

theorem settledPayment_emits {payment payment' : Payment} {k : Uuid} {now : Instant}
    {jobId : Uuid} (hfound : db.payments.get? k = some payment) (hid : payment'.id = payment.id)
    (h : settleIfCaptured { db with payments := db.payments.put payment' } payment' now jobId =
      .ok db') : Emits db db' := by
  have hput := putPayment_emits hfound hid
  unfold settleIfCaptured at h
  split at h
  · have hstored : (db.payments.put payment').get? payment'.id = some payment' :=
      Table.get?_put_self (c := payment) (hid ▸ Table.get?_found hfound) rfl
    exact hput.trans (settle_emits (Option.isSome_iff_exists.mpr ⟨_, hstored⟩) h)
  · rw [return_committed] at h
    exact h ▸ hput

theorem capture_emits {paymentId : Uuid} {amountMinor : Option Int}
    {answer : Except Raised ProviderIntent} {now : Instant} {jobId : Uuid} {v : PaymentView}
    (h : capture db paymentId amountMinor answer now jobId = .ok (db', v)) : Emits db db' := by
  simp only [capture, seq_committed, orRaise_committed] at h
  obtain ⟨payment, hfound, h⟩ := h
  split at h
  · simp only [return_committed, Prod.mk.injEq] at h
    exact h.1 ▸ .refl db
  · simp only [seq_committed, require_committed, return_committed, Prod.mk.injEq] at h
    obtain ⟨_, _, _, _, intent, _, _, hput, _, hsettle, rfl, _⟩ := h
    obtain ⟨_, rfl⟩ := Db.putPayment_ok hput
    exact settledPayment_emits hfound (by rfl) hsettle

theorem releaseFailedLeadPurchase_emits (h : Emits db db') (payment : Payment) :
    Emits db (releaseFailedLeadPurchase db' payment) := by
  obtain ⟨_, _, heq⟩ := releaseFailedLeadPurchase_eq db' payment
  rw [heq]
  exact h.trans (.of_rows (.of_same rfl rfl rfl rfl) rfl)

theorem markLeadPurchaseRefunded_emits (h : Emits db db') (payment : Payment) :
    Emits db (markLeadPurchaseRefunded db' payment) := by
  obtain ⟨_, heq⟩ := markLeadPurchaseRefunded_eq db' payment
  rw [heq]
  exact h.trans (.of_rows (.of_same rfl rfl rfl rfl) rfl)

theorem applyIntentEvent_emits {payment : Payment} {event : StripeEvent} {now : Instant}
    {jobId k : Uuid} (hfound : db.payments.get? k = some payment)
    (h : applyIntentEvent db payment event now jobId = .ok db') : Emits db db' := by
  unfold applyIntentEvent at h
  split at h
  · simp only [seq_committed, return_committed] at h
    obtain ⟨code, _, _, hput, rfl⟩ := h
    obtain ⟨_, rfl⟩ := Db.putPayment_ok hput
    exact releaseFailedLeadPurchase_emits (putPayment_emits hfound (by rfl)) _
  · split at h
    · simp only [seq_committed, return_committed] at h
      obtain ⟨_, hput, rfl⟩ := h
      obtain ⟨_, rfl⟩ := Db.putPayment_ok hput
      exact releaseFailedLeadPurchase_emits (putPayment_emits hfound (by rfl)) _
    · split at h
      · simp only [seq_committed] at h
        obtain ⟨amount, _, _, hput, hsettle⟩ := h
        obtain ⟨_, rfl⟩ := Db.putPayment_ok hput
        exact settledPayment_emits hfound (by rfl) hsettle
      · rw [return_committed] at h
        exact h ▸ .refl db

theorem RefundEffect.emits {obj : StripeObject} (h : RefundEffect db obj db') : Emits db db' := by
  have hrefund : ∀ {refund : Refund}, obj.id.bind (refundByProviderId db) = some refund →
      db.refunds.get? refund.id = some refund := by
    intro refund hbind
    obtain ⟨_, _, hfound⟩ := Option.bind_eq_some_iff.mp hbind
    exact Table.get?_key (List.mem_of_find?_eq_some hfound)
  cases h with
  | ignored => exact .refl db
  | noted refund status found _ => exact putRefund_emits (hrefund found) (by rfl)
  | succeeded refund payment whole found _ paid =>
    have hnoted : Emits db
        { db with refunds := db.refunds.put { refund with status := .succeeded } } :=
      putRefund_emits (hrefund found) rfl
    have hpaid : Emits { db with refunds := db.refunds.put { refund with status := .succeeded } }
        { db with
          refunds := db.refunds.put { refund with status := .succeeded }
          payments := db.payments.put (refundedPayment payment whole) } :=
      putPayment_emits paid rfl
    exact markLeadPurchaseRefunded_emits (hnoted.trans hpaid) _

theorem deliver_emits {event : StripeEvent} {fault : Option Raised} {now : Instant}
    {jobId : Uuid} {duplicate : Bool}
    (h : deliver db event fault now jobId = .ok (db', duplicate)) : Emits db db' := by
  rcases deliver_ok h with ⟨_, _, rfl⟩ | ⟨hfresh, _, rfl, _⟩
  · exact .refl _
  · simp only [deliver, hfresh, Bool.false_eq_true, if_false, processWebhook, seq_committed,
      return_committed, Prod.mk.injEq, Prod.exists] at h
    obtain ⟨applied, _, happly, _, hrecord, rfl, _⟩ := h
    obtain ⟨paymentEvents, rfl, _⟩ := recordProcessed_ok hrecord
    have hstored : Emits applied { applied with paymentEvents } :=
      .of_rows (.of_same rfl rfl rfl rfl) rfl
    refine Emits.trans ?_ hstored
    unfold applyEvent at happly
    split at happly
    · next payment hpayment =>
      simp only [seq_committed, return_committed, Prod.mk.injEq] at happly
      obtain ⟨_, hintent, rfl, _⟩ := happly
      exact applyIntentEvent_emits (eventPayment_get? hpayment) hintent
    · split at happly
      · exact (applyRefundEvent_ok happly).emits
      · simp only [return_committed, Prod.mk.injEq] at happly
        exact happly.1 ▸ .refl db

/-! ## Refunds -/

/-- A refund that commits answers a key that was used before, or creates a row and its event. -/
theorem refund_created {paymentId : Uuid} {amountMinor : Option Int} {key : String}
    {actorId : Uuid} {reason : Option String} {answer : Except Raised ProviderRefund}
    {now : Instant} {refundId : Uuid} {v : RefundView}
    (h : refund db paymentId amountMinor key actorId reason answer now refundId = .ok (db', v)) :
    ∃ payment, db.payments.get? paymentId = some payment ∧
      (((refundByKey db payment.id key).isSome ∧ db' = db) ∨
        (refundByKey db payment.id key = none ∧ ∃ answered made before,
          answer = .ok answered ∧ made.status = refundStatusOf answered ∧ Emits db before ∧
            (before.payments.get? payment.id).isSome ∧ (before.refunds.get? made.id).isSome ∧
            db' = before.emit (refundCreated payment made now))) := by
  simp only [refund, seq_committed, orRaise_committed, require_committed] at h
  obtain ⟨payment, hpayment, _, _, h⟩ := h
  refine ⟨payment, hpayment, ?_⟩
  split at h
  · next existing hexisting =>
    simp only [return_committed, Prod.mk.injEq] at h
    exact Or.inl ⟨Option.isSome_iff_exists.mpr ⟨existing, hexisting⟩, h.1.symm⟩
  · next hnew =>
    simp only [seq_committed, require_committed, return_committed, Prod.mk.injEq] at h
    obtain ⟨_, _, _, _, answered, hanswered, _, hadd, before, hrefunded, rfl, _⟩ := h
    obtain ⟨_, refunds, hinsert, rfl⟩ := Db.addRefund_ok hadd
    have hadded : ∀ auditLogs, Emits db { db with refunds, auditLogs } := fun _ =>
      .of_rows { RowsStay.refl db with refunds := .insert hinsert fun _ => trivial } rfl
    have hrow := Option.isSome_iff_exists.mpr ⟨_, Table.get?_insert_self hinsert⟩
    have hpaid := Option.isSome_iff_exists.mpr ⟨_, Table.get?_found hpayment⟩
    have hbefore : Emits db before ∧ Table.Kept (fun _ _ => True) refunds before.refunds := by
      split at hrefunded
      · rw [applyRefunded_ok hrefunded]
        refine ⟨markLeadPurchaseRefunded_emits ((hadded _).trans
          (putPayment_emits hpayment (by rfl))) _, .of_eq ?_ fun _ => trivial⟩
        exact markLeadPurchaseRefunded_refunds _ _
      · rw [return_committed] at hrefunded
        exact hrefunded ▸ ⟨hadded _, .of_eq rfl fun _ => trivial⟩
    exact Or.inr ⟨hnew, answered, _, before, hanswered, rfl, hbefore.1,
      isSome_of_kept hbefore.1.1.payments hpaid, isSome_of_kept hbefore.2 hrow, rfl⟩

/-- The event of a refund refers to it exactly if the query for a lead purchase flushed it. -/
theorem refundCreated_refers (db : Db) {payment : Payment} {made : Refund} {now : Instant}
    (hpayment : (db.payments.get? payment.id).isSome) (hrefund : (db.refunds.get? made.id).isSome) :
    Refers db (refundCreated payment made now) ↔
      payment.paymentPurpose = .professionalLead ∧ made.status = .succeeded := by
  constructor
  · intro hrefers
    by_contra hnot
    obtain ⟨id, hid, _⟩ := hrefers ("refund_id", .str "None")
      (by simp [refundCreated, hnot]) _ rfl
    cases hid
  · intro hflushed item hitem hasRow hnamed
    simp only [refundCreated, hflushed, and_self, if_true, List.mem_cons, List.not_mem_nil,
      or_false] at hitem
    rcases hitem with rfl | rfl | rfl
    · cases hnamed
      exact ⟨_, rfl, hpayment⟩
    · cases hnamed
      exact ⟨_, rfl, hrefund⟩
    · cases hnamed

/-- A refund that is created is of a lead payment, and the provider answers that it
succeeded. -/
def RefundFlushed (w : World) : Op → Prop
  | .refund paymentId amountMinor key actorId reason answer now refundId =>
    (refund w.db paymentId amountMinor key actorId reason answer now refundId).isOk →
      ∀ payment ∈ w.db.payments.get? paymentId, refundByKey w.db payment.id key = none →
        payment.paymentPurpose = .professionalLead ∧
          Answered (fun refund => refundStatusOf refund = .succeeded) answer
  | _ => True

theorem refund_emits {w : World} {paymentId : Uuid} {amountMinor : Option Int} {key : String}
    {actorId : Uuid} {reason : Option String} {answer : Except Raised ProviderRefund}
    {now : Instant} {refundId : Uuid}
    (hflushed : RefundFlushed w
      (.refund paymentId amountMinor key actorId reason answer now refundId)) :
    Emits w.db (commit w.db
      (refund w.db paymentId amountMinor key actorId reason answer now refundId)) := by
  refine commit_induction (.refl w.db) fun db' v h => ?_
  obtain ⟨payment, hfound, ⟨_, rfl⟩ | ⟨hnew, answered, made, before, rfl, hstatus, hbefore,
    hpayment, hrefund, rfl⟩⟩ := refund_created h
  · exact .refl _
  · obtain ⟨hlead, hsucceeded⟩ := hflushed (isOk_of_eq h) payment hfound hnew
    refine hbefore.trans (emit_emits ?_)
    exact (refundCreated_refers _ hpayment hrefund).mpr ⟨hlead, hstatus.trans hsucceeded⟩

/-! ## Runs -/

theorem exec_emits {settings : Settings} {w : World} {op : Op} (hflushed : RefundFlushed w op) :
    Emits w.db (exec settings w op).db := by
  cases op with
  | stripeIntent intent => exact .refl _
  | stripeRefund refund => exact .refl _
  | createIntent payload key answer paymentId =>
    refine commit_induction (Emits.refl _) fun db' v h => ?_
    rcases createIntent_ok h with rfl | ⟨_, _, _, _, _, _, _, hinsert, rfl⟩
    · exact .refl _
    · exact .of_rows { RowsStay.refl w.db with
        payments := .insert hinsert fun _ => trivial } rfl
  | purchase leadId vendorId key answer now purchaseId paymentId =>
    refine commit_induction (Emits.refl _) fun db' v h => ?_
    rcases purchase_ok h with rfl | ⟨_, _, _, _, _, _, _, _, hpay, rfl⟩
    · exact .refl _
    · rcases createProfessionalLeadIntent_ok hpay with ⟨rfl, _⟩ | ⟨_, _, _, _, _, hinsert, rfl⟩
      · exact .of_rows (.of_same rfl rfl rfl rfl) rfl
      · exact .of_rows { RowsStay.refl w.db with
          payments := .insert hinsert fun _ => trivial } rfl
  | capture paymentId amountMinor answer now jobId =>
    exact commit_induction (Emits.refl _) fun db' v h => capture_emits h
  | refund paymentId amountMinor key actorId reason answer now refundId =>
    exact refund_emits hflushed
  | deliver event fault now jobId =>
    simp only [exec]
    split
    · next db' duplicate h => exact deliver_emits h
    · exact .refl _
  | recordFailure delivery =>
    simp only [exec]
    split
    · exact .refl _
    · dsimp only
      split
      · next db' h =>
        obtain ⟨paymentEvents, rfl, _⟩ := recordFailure_ok h
        exact .of_rows (.of_same rfl rfl rfl rfl) rfl
      · exact .refl _

/-- A step after which every event refers to rows has flushed its refund. -/
theorem flushed_of_allRefer {settings : Settings} {w : World} {op : Op}
    (h : AllRefer (exec settings w op).db) : RefundFlushed w op := by
  cases op with
  | refund paymentId amountMinor key actorId reason answer now refundId =>
    intro hok payment hpayment hnew
    obtain ⟨db', v, heq⟩ := eq_ok_of_isOk hok
    obtain ⟨other, hother, ⟨hold, _⟩ | ⟨_, answered, made, before, rfl, hstatus, _, hpaid, hrow,
      rfl⟩⟩ := refund_created heq
    · rw [hpayment] at hother
      cases hother
      rw [hnew] at hold
      cases hold
    · rw [hpayment] at hother
      cases hother
      rw [exec, commit_ok heq] at h
      have hrefers := h _ (List.mem_append_right _ (List.mem_singleton_self _))
      obtain ⟨hlead, hsucceeded⟩ := (refundCreated_refers (before.emit _) hpaid hrow).mp hrefers
      exact ⟨hlead, hstatus.symm.trans hsucceeded⟩
  | _ => trivial

/-- The events of a run refer to rows exactly if each refund that it creates is of a lead
payment and succeeds at once. -/
theorem events_refer_iff (settings : Settings) (w : { w : World // AllRefer w.db })
    (ops : List Op) :
    Always (exec settings) (fun w => AllRefer w.db) w.1 ops ↔
      Along (exec settings) RefundFlushed w.1 ops := by
  obtain ⟨w, hw⟩ := w
  constructor
  · exact along_of_always fun _ _ => flushed_of_allRefer
  · exact always_of_inv (fun _ _ hall hflushed => (exec_emits hflushed).allRefer hall) hw

/-- A part of the fee of the visit is refunded. -/
def visitRefundAsked : List Op := visitPaid ++
  [.refund 10 (some 2500) "partial" 7 none (.ok { id := "re_1", status := "SUCCEEDED" }) 1 30]

/-- The event of that refund. -/
def partialRefunded : IntegrationEvent := {
  aggregateType := "payment"
  aggregateId := 10
  eventType := "refund_created"
  payload := [("payment_id", .uuid 10), ("refund_id", .str "None"), ("amount_minor", .int 2500)]
  nextAttemptAt := 1 }

theorem unflushed_refund_lost : AllRefer visitWorld.db ∧
    ¬ Always (exec sampleSettings) (fun w => AllRefer w.db) visitWorld visitRefundAsked := by
  refine ⟨nofun, fun halways => ?_⟩
  have hrefers := halways _ (run_mem_states _ _) partialRefunded (by decide)
  obtain ⟨id, hid, _⟩ := hrefers ("refund_id", .str "None") (by decide) _ rfl
  cases hid

end Breero.Payments
