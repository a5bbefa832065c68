import Breero.Lib.Text
import Breero.Visits.OpenRequests

/-!
The total of a quote, from the request of a technician to the payment of the customer.

* `exec_terms`: no step changes the amounts of a request;
* `payable_iff`: a quote that waits for its payment can be paid exactly if its total is an
  amount that `PaymentIntentCreate` accepts;
* `quotes_payable_iff` says for which requests every quote that waits for its payment can be
  paid, and `free_quote_not_payable` is one that cannot.
-/

namespace Breero.Payments

/-- `amount_minor: int = Field(gt=0, le=100_000_000)`. -/
def acceptsAmount (amountMinor : Int) : Prop := 0 < amountMinor ∧ amountMinor ≤ 100000000

instance : DecidablePred acceptsAmount := fun _ => inferInstanceAs (Decidable (_ ∧ _))

/-- What the schema checks of a request; the currency is one that it has lowered. -/
structure IntentAccepted (payload : PaymentIntentCreate) : Prop where
  amount : acceptsAmount payload.amountMinor
  currency : ∃ given : String, given.toList.length = 3 ∧ payload.currency = lower given
  captureMethod : payload.captureMethod = "automatic" ∨ payload.captureMethod = "manual"

end Breero.Payments

namespace Breero.Jobs
open KeyedTable

variable {db db' : Db} {request : WorkRequest}

/-! ## Terms -/

theorem SameTerms.trans {a b c : WorkRequest} (h : SameTerms a b) (h' : SameTerms b c) :
    SameTerms a c :=
  ⟨h'.id.trans h.id, h'.subtotal.trans h.subtotal, h'.tax.trans h.tax, h'.total.trans h.total,
    h'.currency.trans h.currency⟩

theorem SameTerms.amounts {a b : WorkRequest} (h : SameTerms a b) : amounts b = amounts a := by
  simp only [Jobs.amounts, h.subtotal, h.tax, h.total]

/-- Every request is still there, with the same terms. -/
def TermsKept (db db' : Db) : Prop := Table.Kept SameTerms db.workRequests db'.workRequests

theorem TermsKept.of_eq (h : db'.workRequests = db.workRequests) : TermsKept db db' :=
  Table.Kept.of_eq h .refl

theorem RequestMoved.terms {target : WorkRequestStatus} (h : RequestMoved db request target db') :
    TermsKept db db' := by
  obtain ⟨request', hrequests, hterms, _⟩ := h.written
  unfold TermsKept
  rw [hrequests]
  exact Table.Kept.put_found h.found hterms.id hterms .refl

end Breero.Jobs

namespace Breero.Visits
open KeyedTable Transaction Runs Bookings Payments Jobs

variable {settings : Settings} {dir : Directory} {w : World} {op : Op} {db db' : Db}
  {payload : WorkRequestCreate} {request : WorkRequest}

theorem payment_terms {settled : Option Payment} (h : StepOf settled db db') :
    TermsKept db db' := by
  cases settled with
  | none => exact .of_eq (VisitsKept.workRequests h)
  | some payment =>
    have hstep : VisitStep payment db db' := h
    cases hstep with
    | kept same _ => exact .of_eq same.workRequests
    | quotePaid quote quote' _ found _ _ _ _ requests _ _ terms =>
      unfold TermsKept
      rw [requests]
      exact Table.Kept.put_found found terms.id terms .refl
    | feePaid _ _ _ _ _ _ _ _ requests _ => exact .of_eq requests

theorem exec_terms (settings : Settings) (dir : Directory) (w : World) (op : Op) :
    TermsKept w.db (exec settings dir w op).db := by
  have hsame : TermsKept w.db w.db := .of_eq rfl
  cases op with
  | payment op => exact payment_terms (exec_visits settings w op)
  | dispatch op => exact .of_eq (dispatch_workRequests settings dir w.db op)
  | createWorkRequest jobId payload workerId requestId now =>
    refine commit_induction (motive := TermsKept w.db) hsame fun db' v h => ?_
    obtain ⟨_, _, _, _, _, hinsert, _⟩ := createWorkRequest_effect h
    exact Table.Kept.insert hinsert .refl
  | reviewWorkRequest requestId approve actorId now =>
    refine commit_induction (motive := TermsKept w.db) hsame fun db' v h => ?_
    obtain ⟨_, request, _, ⟨hmoved, _⟩ | ⟨hmoved, _⟩⟩ := reviewWorkRequest_effect h
    · exact hmoved.terms
    · exact hmoved.terms
  | decideWorkRequest requestId approve customerId now =>
    refine commit_induction (motive := TermsKept w.db) hsame fun db' v h => ?_
    obtain ⟨_, request, _, _, _, _, ⟨hmoved, _⟩ | ⟨hmoved | hmoved, _⟩⟩ :=
      decideWorkRequest_effect h
    · exact hmoved.terms
    · exact hmoved.terms
    · exact hmoved.terms
  | expireBookings now skipped => exact .of_eq rfl

/-! ## Paying a quote -/

/-- A code of three letters from A to Z. -/
def CurrencyCode (currency : String) : Prop :=
  currency.toList.length = 3 ∧ currency.toList.all Char.isUpper = true

theorem CurrencyCode.upper_lower {currency : String} (h : CurrencyCode currency) :
    upper (lower currency) = upper currency := by
  refine Breero.upper_lower (List.all_eq_true.mpr fun c hc => ?_)
  exact isAscii_of_isUpper (List.all_eq_true.mp h.2 c hc)

/-- `create_intent` can create the payment of the quote: for a request that the schema accepts,
under a key that is not used yet. -/
def Payable (settings : Settings) (db : Db) (request : WorkRequest) : Prop :=
  ∃ payload key intent paymentId, IntentAccepted payload ∧ payload.quoteId = some request.id ∧
    db.idempotencyRecords.get? ("create_intent", key) = none ∧
    (createIntent settings db payload key (.ok intent) paymentId).isOk

/-- The request for the payment of a quote. -/
def quoteIntent (request : WorkRequest) : PaymentIntentCreate := {
  quoteId := some request.id
  paymentPurpose := .quoteAdditionalWork
  amountMinor := request.totalMinor
  currency := lower request.currency }

theorem quoteIntent_accepted (hamount : acceptsAmount request.totalMinor)
    (hcurrency : CurrencyCode request.currency) : IntentAccepted (quoteIntent request) :=
  ⟨hamount, ⟨request.currency, hcurrency.1, rfl⟩, Or.inl rfl⟩

theorem checkTarget_quote (found : db.workRequests.get? request.id = some request)
    (status : request.status = .approvedPendingPayment)
    (hcurrency : CurrencyCode request.currency) :
    checkTarget db (quoteIntent request) =
      .ok [("quote_id", toString request.id)] := by
  simp [checkTarget, quoteIntent, found, status, hcurrency.upper_lower, require, orRaise, setItem,
    bind, Except.bind, pure, Except.pure]

/-- The amount of a new payment is the total of its quote. -/
theorem amount_of_quote {payload : PaymentIntentCreate} {key : String}
    {answer : Except Raised ProviderIntent} {paymentId : Uuid}
    (found : db.workRequests.get? request.id = some request)
    (hquote : payload.quoteId = some request.id)
    (hkey : db.idempotencyRecords.get? ("create_intent", key) = none)
    (hok : (createIntent settings db payload key answer paymentId).isOk) :
    payload.amountMinor = request.totalMinor := by
  obtain ⟨_, _, h⟩ := eq_ok_of_isOk hok
  simp only [createIntent, hkey, seq_committed, require_committed] at h
  obtain ⟨_, _, metadata, htarget, _⟩ := h
  unfold checkTarget at htarget
  split at htarget
  · simp [hquote] at htarget
  · simp only [hquote, Option.bind_some, found, seq_committed, require_committed,
      orRaise_committed] at htarget
    obtain ⟨_, _, quote, hsame, _, _, _, hterms, _⟩ := htarget
    cases hsame
    exact hterms.1

/-- A payment with new ids that is for no lead can be added. -/
theorem addPayment_isOk {payment : Payment} (hchecks : Db.PaymentChecks payment)
    (hlead : payment.leadPurchaseId = none)
    (hprovider : ∀ other ∈ db.payments.rows, other.providerPaymentId ≠ payment.providerPaymentId)
    (hid : db.payments.get? payment.id = none) : ∃ db', db.addPayment payment = .ok db' := by
  obtain ⟨payments, hinsert⟩ := Table.insert?_fresh hid
  refine ⟨{ db with payments }, ?_⟩
  simp only [Db.addPayment, seq_committed, require_committed, orRaise_committed]
  refine ⟨(), hchecks, (), ?_, (), ?_, payments, hinsert, rfl⟩
  · intro other hother
    exact Or.inr fun hsame => hprovider other hother (congrArg Prod.snd hsame)
  · intro other _
    exact Or.inl hlead

/-- The provider's answer for a new intent. -/
def freshIntent (id : String) : ProviderIntent := { id, status := "requires_payment_method" }

/-- The payment of the quote with that answer. -/
def quotePayment (request : WorkRequest) (providerId : String) (paymentId : Uuid) : Payment :=
  newPayment (quoteIntent request) [("quote_id", toString request.id)] (freshIntent providerId)
    paymentId

theorem quotePayment_checks {providerId : String} {paymentId : Uuid}
    (hpos : 0 < request.totalMinor) :
    Db.PaymentChecks (quotePayment request providerId paymentId) := by
  refine ⟨⟨rfl, by simp [quotePayment, newPayment, quoteIntent], rfl⟩, hpos, ?_, ?_⟩
  · simp [quotePayment, newPayment, freshIntent]
  · simp only [quotePayment, newPayment, freshIntent, quoteIntent]
    omega

theorem quoteIntent_isOk (found : db.workRequests.get? request.id = some request)
    (status : request.status = .approvedPendingPayment) (hpos : 0 < request.totalMinor)
    (hcurrency : CurrencyCode request.currency) {key providerId : String} {paymentId : Uuid}
    (hkey : db.idempotencyRecords.get? ("create_intent", key) = none)
    (hprovider : ∀ other ∈ db.payments.rows, other.providerPaymentId ≠ some providerId)
    (hpayment : db.payments.get? paymentId = none) :
    (createIntent settings db (quoteIntent request) key (.ok (freshIntent providerId))
      paymentId).isOk := by
  obtain ⟨idempotencyRecords, hrecords⟩ := Table.insert?_fresh (t := db.idempotencyRecords)
    (a := { operation := "create_intent", idempotencyKey := key,
            requestHash := settings.hash (quoteIntent request) }) hkey
  obtain ⟨db', hadd⟩ : ∃ db', Db.addPayment { db with idempotencyRecords }
      (quotePayment request providerId paymentId) = .ok db' :=
    addPayment_isOk (quotePayment_checks hpos) rfl hprovider hpayment
  unfold quotePayment at hadd
  have hpurpose : (quoteIntent request).paymentPurpose ≠ .professionalLead := by
    simp [quoteIntent]
  simp only [createIntent, hkey, seq_isOk]
  exact ⟨(), require_committed.mpr hpurpose, _, checkTarget_quote found status hcurrency, _,
    orRaise_committed.mpr hrecords, _, rfl, db', hadd, rfl⟩

/-- A quote that waits for its payment can be paid exactly if its total is accepted. -/
theorem payable_iff (found : db.workRequests.get? request.id = some request)
    (status : request.status = .approvedPendingPayment)
    (hcurrency : CurrencyCode request.currency) :
    Payable settings db request ↔ acceptsAmount request.totalMinor := by
  constructor
  · rintro ⟨payload, key, intent, paymentId, haccepted, hquote, hkey, hok⟩
    rw [← amount_of_quote found hquote hkey hok]
    exact haccepted.amount
  · intro hamount
    obtain ⟨key, hkey⟩ := Text.exists_fresh
      (db.idempotencyRecords.rows.map IdempotencyRecord.idempotencyKey)
    obtain ⟨providerId, hprovider⟩ := Text.exists_fresh
      (db.payments.rows.filterMap Payment.providerPaymentId)
    obtain ⟨paymentId, hpayment⟩ := Table.exists_fresh db.payments
    have hunused : db.idempotencyRecords.get? ("create_intent", key) = none := by
      refine Table.get?_eq_none.mpr fun record hrecord hsame => hkey ?_
      have hname : record.idempotencyKey = key := congrArg Prod.snd hsame
      rw [← hname]
      exact List.mem_map_of_mem hrecord
    refine ⟨quoteIntent request, key, freshIntent providerId, paymentId,
      quoteIntent_accepted hamount hcurrency, rfl, hunused, ?_⟩
    refine quoteIntent_isOk found status hamount.1 hcurrency hunused ?_ hpayment
    intro other hother hsame
    exact hprovider (List.mem_filterMap.mpr ⟨other, hother, hsame⟩)

/-! ## Requests -/

theorem sum_nonneg_of_items {items : List WorkLineItem}
    (h : ∀ item ∈ items, WorkLineItemAccepted item) :
    0 ≤ (items.map fun item => item.quantity * item.unitPriceMinor).sum := by
  induction items with
  | nil => exact Int.le_refl 0
  | cons item items ih =>
    have hitem := h item List.mem_cons_self
    have hrest := ih fun other hother => h other (List.mem_cons_of_mem _ hother)
    have hquantity := hitem.quantity.1
    have hproduct : 0 ≤ item.quantity * item.unitPriceMinor :=
      Int.mul_nonneg (by omega) hitem.unitPrice
    rw [List.map_cons, List.sum_cons]
    omega

def WorkRequestCreate.total (payload : WorkRequestCreate) : Int :=
  payload.subtotal + payload.taxMinor

/-- The amounts of an accepted request fit their columns exactly if the total does. -/
theorem amounts_fit_iff (haccepted : payload.Accepted) {jobId workerId requestId : Uuid} :
    (∀ amount ∈ amounts (submittedRequest payload jobId workerId requestId),
      FitsInteger amount) ↔ WorkRequestCreate.total payload ≤ 2147483647 := by
  have hsubtotal : 0 ≤ payload.subtotal := sum_nonneg_of_items haccepted.items
  have htax := haccepted.tax
  simp only [amounts, submittedRequest, List.forall_mem_cons, List.not_mem_nil, false_imp_iff,
    implies_true, and_true, FitsInteger, WorkRequestCreate.total]
  omega

theorem amounts_nonneg (haccepted : payload.Accepted) {jobId workerId requestId : Uuid} :
    ∀ amount ∈ amounts (submittedRequest payload jobId workerId requestId), 0 ≤ amount := by
  have hsubtotal : 0 ≤ payload.subtotal := sum_nonneg_of_items haccepted.items
  have htax := haccepted.tax
  simp only [amounts, submittedRequest, List.forall_mem_cons, List.not_mem_nil, false_imp_iff,
    implies_true, and_true]
  omega

/-- The row of a committed request. -/
theorem createWorkRequest_row {jobId workerId requestId : Uuid} {now : Instant} {v : WorkRequest}
    (h : createWorkRequest db jobId payload workerId requestId now = .ok (db', v)) :
    db'.workRequests.get? requestId = some v ∧ ∃ jobId, v =
      submittedRequest payload jobId workerId requestId ∧
        ∀ amount ∈ amounts v, FitsInteger amount := by
  obtain ⟨_, _, _, _, _, hinsert, _⟩ := createWorkRequest_effect h
  simp only [createWorkRequest, seq_committed, orRaise_committed, require_committed,
    return_committed, Prod.exists, Prod.mk.injEq] at h
  obtain ⟨job, _, _, _, _, _, _, _, _, _, _, _, _, hfits, _, _, _, rfl⟩ := h
  exact ⟨Table.get?_insert_self hinsert, job.id, rfl, hfits⟩

/-- The quote of a request, if it waits for its payment, fits its columns and can be paid. -/
def QuotePayable (settings : Settings) (requestId : Uuid) (w : World) : Prop :=
  ∀ request ∈ w.db.workRequests.get? requestId, request.status = .approvedPendingPayment →
    (∀ amount ∈ amounts request, FitsInteger amount) ∧ acceptsAmount request.totalMinor ∧
      Payable settings w.db request

/-- Every committed request of the payload is payable in every run that follows. -/
def AlwaysPayable (payload : WorkRequestCreate) : Prop :=
  ∀ (settings : Settings) (dir : Directory) (w : World) (jobId workerId requestId : Uuid)
    (now : Instant) (ops : List Op),
    (createWorkRequest w.db jobId payload workerId requestId now).isOk →
    Always (exec settings dir) (QuotePayable settings requestId)
      (exec settings dir w (.createWorkRequest jobId payload workerId requestId now)) ops

/-- The row of a request keeps its terms in every run. -/
theorem always_terms {requestId : Uuid} {ops : List Op}
    (found : w.db.workRequests.get? requestId = some request) :
    Always (exec settings dir) (fun w => ∃ later, w.db.workRequests.get? requestId = some later ∧
      SameTerms request later) w ops := by
  refine always_of_inv (P := fun _ _ => True) ?_ ⟨request, found, .refl _⟩
    (along_of_forall fun _ _ => trivial)
  rintro w op ⟨later, hlater, hterms⟩ -
  obtain ⟨after, hafter, hkept⟩ := (exec_terms settings dir w op).get? hlater
  exact ⟨after, hafter, hterms.trans hkept⟩

theorem quotePayable_of_terms {requestId : Uuid} {later : WorkRequest}
    (found : w.db.workRequests.get? requestId = some later) (hterms : SameTerms request later)
    (hfits : ∀ amount ∈ amounts request, FitsInteger amount)
    (hamount : acceptsAmount request.totalMinor)
    (hcurrency : CurrencyCode request.currency) : QuotePayable settings requestId w := by
  intro other hother hstatus
  rw [found] at hother
  cases hother
  have htotal : acceptsAmount later.totalMinor := hterms.total.symm ▸ hamount
  refine ⟨fun amount hmem => hfits amount (hterms.amounts ▸ hmem), htotal, ?_⟩
  exact (payable_iff (Table.get?_found found) hstatus (hterms.currency.symm ▸ hcurrency)).mpr
    htotal

/-! ### A request that reaches the payment -/

/-- The job 20, on which the technician 6 works for the customer 1. -/
def quoteWorld : World where
  db := {
    jobs := ⟨[{
      id := 20, bookingId := 2, customerId := some 1, serviceId := 3, addressId := 4
      status := .diagnosing, scheduledStart := 0, scheduledEnd := ofMinutes 60
      vendorId := some 5, workerId := some 6 }], by decide⟩ }

def approvals : List Op := [.reviewWorkRequest 70 true none 1, .decideWorkRequest 70 true 1 2]

def quoteSettings : Settings := { hash := fun payload => payload.currency }

/-- The database with the committed request. -/
def submittedDb (payload : WorkRequestCreate) : Db :=
  { quoteWorld.db with
    jobs := ⟨[{
      id := 20, bookingId := 2, customerId := some 1, serviceId := 3, addressId := 4
      status := .awaitingApproval, scheduledStart := 0, scheduledEnd := ofMinutes 60
      vendorId := some 5, workerId := some 6, version := 2 }], by decide⟩
    jobEvents := [{
      jobId := 20, fromStatus := some .diagnosing, toStatus := .awaitingApproval
      actorId := some 6, actorType := "worker", reason := some "additional_work_requested" }]
    workRequests := ⟨[submittedRequest payload 20 6 70], List.nodup_singleton _⟩ }

theorem quote_submitted (haccepted : payload.Accepted)
    (hfits : WorkRequestCreate.total payload ≤ 2147483647) :
    createWorkRequest quoteWorld.db 20 payload 6 70 0 =
      .ok (submittedDb payload, submittedRequest payload 20 6 70) := by
  simp only [createWorkRequest, seq_committed, orRaise_committed, require_committed,
    return_committed, Prod.exists]
  exact ⟨_, rfl, (), rfl, (), by decide, _, rfl, _, _, _, rfl, (),
    (amounts_fit_iff haccepted).mpr hfits, (), amounts_nonneg haccepted, rfl⟩

/-- A request whose total fits its column is approved by the operators and the customer. -/
theorem quote_approved (haccepted : payload.Accepted)
    (hfits : WorkRequestCreate.total payload ≤ 2147483647) :
    (run (exec quoteSettings dir)
      (exec quoteSettings dir quoteWorld (.createWorkRequest 20 payload 6 70 0))
      approvals).db.workRequests.get? 70 = some {
        submittedRequest payload 20 6 70 with
        status := .approvedPendingPayment, customerDecidedAt := some 2 } := by
  have hcreated : exec quoteSettings dir quoteWorld (.createWorkRequest 20 payload 6 70 0) =
      { quoteWorld with db := submittedDb payload } := by
    rw [exec, quote_submitted haccepted hfits]
    rfl
  rw [hcreated]
  rfl

/-- Every quote of a request can be paid exactly if the total of the request is an amount that
can be paid, or so large that the request is never committed. -/
theorem quotes_payable_iff (payload : { payload : WorkRequestCreate // payload.Accepted }) :
    AlwaysPayable payload ↔
      acceptsAmount (WorkRequestCreate.total payload) ∨
        2147483647 < WorkRequestCreate.total payload := by
  obtain ⟨payload, haccepted⟩ := payload
  constructor
  · intro halways
    by_cases hlarge : 2147483647 < WorkRequestCreate.total payload
    · exact Or.inr hlarge
    · have hfits : WorkRequestCreate.total payload ≤ 2147483647 := by omega
      have hlast := halways quoteSettings Dispatch.visitDirectory quoteWorld 20 6 70 0 approvals
        (isOk_of_eq (quote_submitted haccepted hfits)) _ (run_mem_states _ _) _
        (quote_approved haccepted hfits) rfl
      exact Or.inl hlast.2.1
  · rintro hamount settings dir w jobId workerId requestId now ops hok
    obtain ⟨db', v, hcreate⟩ := eq_ok_of_isOk hok
    obtain ⟨hfound, jobId', rfl, hfits⟩ := createWorkRequest_row hcreate
    have hpayable : acceptsAmount (WorkRequestCreate.total payload) := by
      have hle := (amounts_fit_iff haccepted).mp hfits
      rcases hamount with hamount | hlarge
      · exact hamount
      · exact absurd hle (Int.not_le.mpr hlarge)
    have hcommitted : exec settings dir w (.createWorkRequest jobId payload workerId requestId
        now) = { w with db := db' } := by
      rw [exec, commit_ok hcreate]
    rw [hcommitted]
    refine (always_terms hfound).imp ?_
    rintro later ⟨request, hlater, hterms⟩
    exact quotePayable_of_terms hlater hterms hfits hpayable haccepted.currency

/-- An inspection without a charge, which the schema accepts. -/
def freeRequest : WorkRequestCreate := {
  description := "look at the drain"
  lineItems := [{ description := "inspection", quantity := 1, unitPriceMinor := 0 }] }

theorem freeRequest_accepted : freeRequest.Accepted :=
  ⟨by decide, by decide, by simp [freeRequest]; exact ⟨by decide, by decide, by decide⟩, by decide,
    by decide⟩

/-- The quote of a request without a charge is approved and cannot be paid. -/
theorem free_quote_not_payable : freeRequest.Accepted ∧ ¬ AlwaysPayable freeRequest := by
  refine ⟨freeRequest_accepted, fun halways => ?_⟩
  have hlast := halways quoteSettings Dispatch.visitDirectory quoteWorld 20 6 70 0 approvals
    (isOk_of_eq (quote_submitted freeRequest_accepted (by decide))) _ (run_mem_states _ _) _
    (quote_approved freeRequest_accepted (by decide)) rfl
  exact absurd hlast.2.1 (by decide)

end Breero.Visits
