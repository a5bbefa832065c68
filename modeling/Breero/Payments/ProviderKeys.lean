import Breero.Payments.ProviderCalls
import Breero.Payments.Targets

/-!
The keys that are sent to the payment provider, in a run.

* `exec_keysLeft`: every transaction leaves the records, purchases and refunds that
  keep the keys, and the payments and refunds their objects;
* `Charge.transaction_sent`: a command that commits leaves its key and a row bound to the answer,
  and `Charge.Taken.reach` that the key does not reach the provider again;
* `Sending.keys_injective_iff`: the law holds in exactly the runs whose keys are apart.
-/

namespace Breero.Payments
open KeyedTable Transaction Leads Runs

/-! ## What transactions leave of the keys -/

namespace KeysLeft

theorem of_eq {db db' : Db} (records : db'.idempotencyRecords = db.idempotencyRecords)
    (purchases : db'.leadPurchases = db.leadPurchases) (refunds : db'.refunds = db.refunds)
    (payments : db'.payments = db.payments) : KeysLeft db db' where
  records _ h := records ▸ h
  purchases := .of_eq purchases fun _ => ⟨rfl, rfl⟩
  refunds := .of_eq refunds fun _ => ⟨rfl, rfl, rfl⟩
  payments := .of_eq payments fun _ => rfl

theorem refl (db : Db) : KeysLeft db db := of_eq rfl rfl rfl rfl

theorem trans {db db' db'' : Db} (h : KeysLeft db db') (h' : KeysLeft db' db'') :
    KeysLeft db db'' where
  records k hk := h'.records k (h.records k hk)
  purchases := h.purchases.trans h'.purchases fun _ _ _ hab hbc =>
    ⟨hbc.1.trans hab.1, hbc.2.trans hab.2⟩
  refunds := h.refunds.trans h'.refunds fun _ _ _ hab hbc =>
    ⟨hbc.1.trans hab.1, hbc.2.1.trans hab.2.1, hbc.2.2.trans hab.2.2⟩
  payments := h.payments.trans h'.payments fun _ _ _ hab hbc => hbc.trans hab

/-- A payment is put back with the same intent. -/
theorem put_payment {db : Db} {p q : Payment} {k : Uuid} (hp : db.payments.get? k = some p)
    (hid : q.id = p.id) (hintent : q.providerPaymentId = p.providerPaymentId) :
    KeysLeft db { db with payments := db.payments.put q } where
  records _ h := h
  purchases := .of_eq rfl fun _ => ⟨rfl, rfl⟩
  refunds := .of_eq rfl fun _ => ⟨rfl, rfl, rfl⟩
  payments := .put_found hp hid hintent fun _ => rfl

/-- A purchase is put back in another status. -/
theorem put_purchase {db : Db} {i : Option Uuid} {purchase : LeadPurchase}
    (status : LeadPurchaseStatus) (leads : Table ProfessionalLead)
    (h : i.bind db.leadPurchases.get? = some purchase) :
    KeysLeft db { db with
      leadPurchases := db.leadPurchases.put { purchase with status }, leads } := by
  obtain ⟨_, _, hget⟩ := Option.bind_eq_some_iff.mp h
  exact {
    records := fun _ h => h
    purchases := .put_found hget rfl ⟨rfl, rfl⟩ fun _ => ⟨rfl, rfl⟩
    refunds := .of_eq rfl fun _ => ⟨rfl, rfl, rfl⟩
    payments := .of_eq rfl fun _ => rfl }

/-- A refund is put back in another status. -/
theorem put_refund {db : Db} {obj : StripeObject} {refund : Refund} (status : RefundStatus)
    (h : obj.id.bind (refundByProviderId db) = some refund) :
    KeysLeft db { db with refunds := db.refunds.put { refund with status } } := by
  obtain ⟨_, _, hfind⟩ := Option.bind_eq_some_iff.mp h
  have hget := Table.get?_key (List.mem_of_find?_eq_some hfind)
  exact {
    records := fun _ h => h
    purchases := .of_eq rfl fun _ => ⟨rfl, rfl⟩
    refunds := .put_found hget rfl ⟨rfl, rfl, rfl⟩ fun _ => ⟨rfl, rfl, rfl⟩
    payments := .of_eq rfl fun _ => rfl }

end KeysLeft

theorem releaseFailedLeadPurchase_keysLeft (db : Db) (q : Payment) :
    KeysLeft db (releaseFailedLeadPurchase db q) := by
  rcases releaseFailedLeadPurchase_cases db q with heq | ⟨purchase, leads, _, found, _, heq⟩
  · rw [heq]
    exact .refl db
  · rw [heq]
    exact .put_purchase _ leads found

theorem markLeadPurchaseRefunded_keysLeft (db : Db) (q : Payment) :
    KeysLeft db (markLeadPurchaseRefunded db q) := by
  rcases markLeadPurchaseRefunded_cases db q with heq | ⟨purchase, found, heq⟩
  · rw [heq]
    exact .refl db
  · rw [heq]
    exact .put_purchase _ db.leads found

theorem Settlement.keysLeft {db db' : Db} {p : Payment} {now : Instant}
    (h : Settlement db p now db') : KeysLeft db db' := by
  cases h with
  | lead purchase lead purpose found foundLead status =>
    exact (KeysLeft.put_purchase _ (db.leads.put { lead with status := .purchased }) found).trans
      (.of_eq rfl rfl rfl rfl)
  | _ => exact .of_eq rfl rfl rfl rfl

theorem SettledIfCaptured.keysLeft {db db' : Db} {p : Payment} {now : Instant}
    (h : SettledIfCaptured db p now db') : KeysLeft db db' := by
  rcases h with ⟨_, h⟩ | ⟨_, rfl⟩
  · exact h.keysLeft
  · exact .refl _

theorem eventPayment_stored {db : Db} {event : StripeEvent} {payment : Payment}
    (h : eventPayment db event = some payment) :
    db.payments.get? payment.id = some payment := by
  unfold eventPayment at h
  split at h
  · obtain ⟨_, _, hfind⟩ := Option.bind_eq_some_iff.mp h
    exact Table.get?_key (List.mem_of_find?_eq_some hfind)
  · cases h

theorem IntentEffect.keysLeft {db db' : Db} {payment : Payment} {event : StripeEvent}
    {now : Instant} (h : IntentEffect db payment event now db')
    (hpayment : db.payments.get? payment.id = some payment) : KeysLeft db db' := by
  cases h with
  | failed code type =>
    refine KeysLeft.trans ?_ (releaseFailedLeadPurchase_keysLeft _ _)
    exact .put_payment hpayment rfl rfl
  | canceled type =>
    refine KeysLeft.trans ?_ (releaseFailedLeadPurchase_keysLeft _ _)
    exact .put_payment hpayment rfl rfl
  | reported amount db' type received checks settled =>
    refine KeysLeft.trans ?_ settled.keysLeft
    exact .put_payment hpayment rfl rfl
  | ignored type => exact .refl _

theorem RefundEffect.keysLeft {db db' : Db} {obj : StripeObject} (h : RefundEffect db obj db') :
    KeysLeft db db' := by
  cases h with
  | ignored => exact .refl _
  | noted refund status found shown => exact .put_refund status found
  | succeeded refund payment whole found shown paid =>
    have hput : KeysLeft db { db with
        refunds := db.refunds.put { refund with status := .succeeded } } := .put_refund _ found
    have hpaid : KeysLeft
        { db with refunds := db.refunds.put { refund with status := .succeeded } }
        { db with
          refunds := db.refunds.put { refund with status := .succeeded }
          payments := db.payments.put (refundedPayment payment whole) } :=
      .put_payment paid rfl rfl
    exact (hput.trans hpaid).trans (markLeadPurchaseRefunded_keysLeft _ _)

theorem EventEffect.keysLeft {db db' : Db} {event : StripeEvent} {now : Instant}
    (h : EventEffect db event now db') : KeysLeft db db' := by
  cases h with
  | intent payment found effect => exact effect.keysLeft (eventPayment_stored found)
  | refund object effect => exact effect.keysLeft
  | ignored same => exact same ▸ .refl db

/-! ## What a command leaves behind -/

section
variable {settings : Settings} {db db' : Db}

/-- A new intent: its record, and its payment bound to the intent. -/
theorem finishIntent_sent {payload : PaymentIntentCreate} {key : String}
    {metadata : List (String × String)} {answer : Except Raised ProviderIntent}
    {paymentId : Uuid} {shown : PaymentView}
    (h : finishIntent settings db payload key metadata answer paymentId = .ok (db', shown)) :
    ∃ intent, answer = .ok intent ∧ KeysLeft db db' ∧
      (db'.idempotencyRecords.get? ("create_intent", key)).isSome ∧
      (db'.payments.get? paymentId).bind Payment.providerPaymentId = some intent.id := by
  simp only [finishIntent, seq_committed, orRaise_committed, return_committed,
    Prod.mk.injEq] at h
  obtain ⟨records, hrecord, intent, hanswer, paid, hadd, rfl, rfl⟩ := h
  obtain ⟨_, payments, hinsert, _, rfl⟩ := Db.addPayment_ok hadd
  have hadded : RecordAdded db.idempotencyRecords
      (records.put (answeredRecord settings payload key paymentId))
      (answeredRecord settings payload key paymentId) := .of_insert hrecord rfl
  refine ⟨intent, hanswer, ⟨?_, .of_eq rfl fun _ => ⟨rfl, rfl⟩, .of_eq rfl fun _ => ⟨rfl, rfl, rfl⟩,
    .insert hinsert fun _ => rfl⟩, ?_, ?_⟩
  · intro k hk
    by_cases hkey : k = ("create_intent", key)
    · rw [hkey]
      exact Option.isSome_iff_exists.mpr ⟨_, hadded.self⟩
    · have hsame := hadded.others k hkey
      exact hsame ▸ hk
  · exact Option.isSome_iff_exists.mpr ⟨_, hadded.self⟩
  · have hstored : payments.get? paymentId =
        some (newPayment payload metadata intent paymentId) := Table.get?_insert_self hinsert
    dsimp only
    rw [hstored]
    rfl

theorem createIntent_keysLeft {payload : PaymentIntentCreate} {key : String}
    {answer : Except Raised ProviderIntent} {paymentId : Uuid} {shown : PaymentView}
    (h : createIntent settings db payload key answer paymentId = .ok (db', shown)) :
    KeysLeft db db' := by
  rw [createIntent_eq, seq_committed] at h
  obtain ⟨begun, _, hfinish⟩ := h
  cases begun with
  | inl view =>
    simp only [return_committed, Prod.mk.injEq] at hfinish
    exact hfinish.1 ▸ .refl db
  | inr metadata =>
    obtain ⟨_, _, hleft, _⟩ := finishIntent_sent hfinish
    exact hleft

theorem createProfessionalLeadIntent_keysLeft {purchase : LeadPurchase}
    {answer : Except Raised ProviderIntent} {paymentId : Uuid} {payment : Payment}
    (h : createProfessionalLeadIntent db purchase answer paymentId = .ok (db', payment)) :
    KeysLeft db db' := by
  rcases createProfessionalLeadIntent_ok h with ⟨rfl, _⟩ | ⟨_, payments, _, _, _, hinsert, rfl⟩
  · exact .refl _
  · exact {
      records := fun _ h => h
      purchases := .of_eq rfl fun _ => ⟨rfl, rfl⟩
      refunds := .of_eq rfl fun _ => ⟨rfl, rfl, rfl⟩
      payments := .insert hinsert fun _ => rfl }

/-- Every step of the payment system leaves what the keys stand for. -/
theorem exec_keysLeft (settings : Settings) (w : World) (op : Op) :
    KeysLeft w.db (Payments.exec settings w op).db := by
  have hcommit := exec_commit settings w op
  cases op with
  | createIntent payload key answer paymentId =>
    exact commit_induction (.refl _) fun _ _ h => createIntent_keysLeft h
  | purchase leadId vendorId key answer now purchaseId paymentId =>
    generalize (Payments.exec settings w _).db = db' at hcommit ⊢
    cases hcommit with
    | same => exact .refl _
    | purchased lead leadPurchases paid payment found available fresh inserted intended =>
      have hadded : KeysLeft w.db { w.db with leadPurchases } := {
        records := fun _ h => h
        purchases := .insert inserted fun _ => ⟨rfl, rfl⟩
        refunds := .of_eq rfl fun _ => ⟨rfl, rfl, rfl⟩
        payments := .of_eq rfl fun _ => rfl }
      exact (hadded.trans (createProfessionalLeadIntent_keysLeft intended)).trans
        (.of_eq rfl rfl rfl rfl)
  | capture paymentId amountMinor answer now jobId =>
    generalize (Payments.exec settings w _).db = db' at hcommit ⊢
    cases hcommit with
    | same => exact .refl _
    | captured payment intent db' found status checks settled =>
      refine KeysLeft.trans ?_ settled.keysLeft
      exact .put_payment found rfl rfl
  | refund paymentId amountMinor key actorId reason answer now refundId =>
    generalize (Payments.exec settings w _).db = db' at hcommit ⊢
    cases hcommit with
    | same => exact .refl _
    | refunded payment made refunds log event db' found status positive ofPayment covered inserted
        notCaptured result =>
      have hadded : KeysLeft w.db (withRefund w.db refunds log event) := {
        records := fun _ h => h
        purchases := .of_eq rfl fun _ => ⟨rfl, rfl⟩
        refunds := .insert inserted fun _ => ⟨rfl, rfl, rfl⟩
        payments := .of_eq rfl fun _ => rfl }
      rcases result with rfl | ⟨whole, rfl⟩
      · exact hadded
      · refine KeysLeft.trans ?_ (markLeadPurchaseRefunded_keysLeft _ _)
        exact hadded.trans (.put_payment found rfl rfl)
  | deliver event fault now jobId =>
    generalize (Payments.exec settings w _).db = db' at hcommit ⊢
    cases hcommit with
    | same => exact .refl _
    | delivered applied paymentEvents fresh effect =>
      exact effect.keysLeft.trans (.of_eq rfl rfl rfl rfl)
  | recordFailure delivery =>
    generalize (Payments.exec settings w _).db = db' at hcommit ⊢
    cases hcommit with
    | same => exact .refl _
    | noted => exact .of_eq rfl rfl rfl rfl
  | stripeIntent intent => exact .refl _
  | stripeRefund refund => exact .refl _

/-- A purchase that is not answered from its key inserts its row before it asks the provider. -/
theorem beginPurchase_new {leadId vendorId : Uuid} {key : String} {now : Instant}
    {purchaseId : Uuid} {lead : ProfessionalLead} {purchase : LeadPurchase}
    (h : beginPurchase settings db leadId vendorId key now purchaseId =
      .ok (.inr (lead, purchase, db'))) :
    (∀ p ∈ db.leadPurchases.rows, ¬ (p.vendorId = vendorId ∧ p.idempotencyKey = key)) ∧
      purchase ∈ db'.leadPurchases.rows ∧ purchase.vendorId = vendorId ∧
      purchase.idempotencyKey = key := by
  simp only [beginPurchase, seq_committed, require_committed, orRaise_committed] at h
  obtain ⟨_, _, _, _, _, _, h⟩ := h
  split at h
  · simp only [seq_committed, return_committed, reduceCtorEq, and_false, exists_false] at h
  · next hfind =>
    simp only [seq_committed, return_committed, Sum.inr.injEq, Prod.mk.injEq] at h
    obtain ⟨_, _, _, hadd, _, rfl, rfl⟩ := h
    obtain ⟨_, leadPurchases, hinsert, rfl⟩ := Db.addLeadPurchase_ok hadd
    refine ⟨?_, (Table.mem_insert hinsert).mpr (Or.inr rfl), rfl, rfl⟩
    intro p hp hused
    rw [List.find?_eq_none] at hfind
    exact hfind p hp (decide_eq_true hused)

theorem finishPurchase_sent {lead : ProfessionalLead} {purchase : LeadPurchase}
    {answer : Except Raised ProviderIntent} {paymentId : Uuid} {shown : PurchaseView}
    (hunpaid : db.payments.rows.any (fun p => p.leadPurchaseId = some purchase.id) = false)
    (hpurchase : purchase ∈ db.leadPurchases.rows)
    (h : finishPurchase db lead purchase answer paymentId = .ok (db', shown)) :
    ∃ intent, answer = .ok intent ∧ purchase ∈ db'.leadPurchases.rows ∧
      (db'.payments.get? paymentId).bind Payment.providerPaymentId = some intent.id := by
  simp only [finishPurchase, seq_committed, return_committed, Prod.exists, Prod.mk.injEq] at h
  obtain ⟨paid, payment, hpaid, rfl, _⟩ := h
  rcases createProfessionalLeadIntent_ok hpaid with ⟨_, hmem, hof⟩ |
    ⟨intent, payments, hanswer, rfl, _, hinsert, rfl⟩
  · exfalso
    rw [List.any_eq_false] at hunpaid
    exact hunpaid payment hmem (decide_eq_true hof)
  · have hstored : payments.get? paymentId = some (leadPayment purchase intent paymentId) :=
      Table.get?_insert_self hinsert
    refine ⟨intent, hanswer, hpurchase, ?_⟩
    dsimp only
    rw [hstored]
    rfl

theorem finishRefund_sent {request : RefundRequest} {call : OpenRefund} {answer : ProviderRefund}
    {now : Instant} {refundId : Uuid} {shown : RefundView}
    (hpayment : db.payments.get? call.payment.id = some call.payment)
    (h : finishRefund db request call answer now refundId = .ok (db', shown)) :
    (∃ r ∈ db'.refunds.rows, r.paymentId = call.payment.id ∧ r.idempotencyKey = request.key) ∧
      (db'.refunds.get? refundId).bind Refund.providerRefundId = some answer.id := by
  have hwritten := Refunding.finishRefund_ok hpayment h
  constructor
  · refine ⟨Refunding.rowAfter request call answer refundId [], ?_, rfl, rfl⟩
    rw [hwritten.refunds]
    exact List.mem_append_right _ (List.mem_singleton.mpr rfl)
  · rw [hwritten.row]
    rfl

end

/-! ## Scopes -/

def Operation.scope : Operation → Scope
  | .intent _ => .intents
  | .lead vendorId _ => .leads vendorId
  | .capture paymentId => .capture paymentId
  | .refund paymentId _ => .refunds paymentId

theorem Operation.Same.scope {a b : Operation} (h : a.Same b) : a.scope = b.scope := by
  unfold Operation.Same at h
  split at h
  · rfl
  · rw [h]

theorem Operation.same_refl (a : Operation) : a.Same a := by
  unfold Operation.Same
  split
  · next a b hb =>
    cases hb
    exact ⟨rfl, List.Perm.refl _⟩
  · rfl

/-- The key of the command is stored under its scope; a capture stores none. -/
def Charge.Taken (db : Db) : Charge → Prop
  | .intent _ key _ => (db.idempotencyRecords.get? ("create_intent", key)).isSome
  | .lead _ vendorId key .. =>
    ∃ p ∈ db.leadPurchases.rows, p.vendorId = vendorId ∧ p.idempotencyKey = key
  | .capture .. => True
  | .refund request .. =>
    ∃ r ∈ db.refunds.rows, r.paymentId = request.paymentId ∧ r.idempotencyKey = request.key

section
variable {settings : Settings} {db db' : Db} {charge : Charge} {operation : Operation}

theorem Charge.Taken.left (h : charge.Taken db) (hleft : KeysLeft db db') :
    charge.Taken db' := by
  cases charge with
  | intent payload key paymentId => exact hleft.records _ h
  | lead leadId vendorId key now purchaseId paymentId =>
    obtain ⟨p, hp, hvendor, hkey⟩ := h
    obtain ⟨q, hq, hv, hk⟩ := hleft.purchases p hp
    exact ⟨q, Table.mem_of_get? hq, hv.trans hvendor, hk.trans hkey⟩
  | capture => trivial
  | refund request now refundId =>
    obtain ⟨r, hr, hpayment, hkey⟩ := h
    obtain ⟨q, hq, hp, hk, _⟩ := hleft.refunds r hr
    exact ⟨q, Table.mem_of_get? hq, hp.trans hpayment, hk.trans hkey⟩

/-- A row stays bound to its object. -/
theorem Charge.boundTo_left {id : String} (h : charge.boundTo db = some id)
    (hleft : KeysLeft db db') : charge.boundTo db' = some id := by
  have hpayments : ∀ paymentId,
      (db.payments.get? paymentId).bind Payment.providerPaymentId = some id →
      (db'.payments.get? paymentId).bind Payment.providerPaymentId = some id := by
    intro paymentId hbound
    obtain ⟨p, hp, hid⟩ := Option.bind_eq_some_iff.mp hbound
    obtain ⟨q, hq, hsame⟩ := hleft.payments.get? hp
    exact Option.bind_eq_some_iff.mpr ⟨q, hq, hsame.trans hid⟩
  cases charge with
  | intent payload key paymentId => exact hpayments paymentId h
  | lead leadId vendorId key now purchaseId paymentId => exact hpayments paymentId h
  | capture paymentId => exact hpayments paymentId h
  | refund request now refundId =>
    obtain ⟨r, hr, hid⟩ := Option.bind_eq_some_iff.mp h
    obtain ⟨q, hq, _, _, hsame⟩ := hleft.refunds.get? hr
    exact Option.bind_eq_some_iff.mpr ⟨q, hq, hsame.trans hid⟩

/-- The provider is asked for an operation of the scope of the command. -/
theorem Charge.reach_scope (h : charge.reach settings db = some operation) :
    operation.scope = charge.scope := by
  cases charge with
  | intent payload key paymentId =>
    simp only [Charge.reach] at h
    split at h
    · cases h
      rfl
    · cases h
  | lead leadId vendorId key now purchaseId paymentId =>
    simp only [Charge.reach] at h
    split at h
    · split at h
      · cases h
      · cases h
        rfl
    · cases h
  | capture paymentId amountMinor key now jobId =>
    simp only [Charge.reach] at h
    split at h
    · cases h
      rfl
    · cases h
  | refund request now refundId =>
    simp only [Charge.reach] at h
    split at h
    · cases h
      rfl
    · cases h

/-- A stored key does not reach the provider again, but for that of a capture. -/
theorem Charge.Taken.reach {earlier : Charge} (htaken : earlier.Taken db)
    (hscope : earlier.scope = charge.scope) (hkey : earlier.providerKey = charge.providerKey)
    (hreach : charge.reach settings db = some operation) :
    ∃ paymentId, charge.scope = .capture paymentId := by
  cases charge with
  | intent payload key paymentId =>
    cases earlier with
    | intent payload' key' paymentId' =>
      exfalso
      have hsame : key' = key := hkey
      subst hsame
      simp only [Charge.reach] at hreach
      split at hreach
      · next hbegin =>
        have hnone := (beginIntent_new hbegin).2
        have hsome : (db.idempotencyRecords.get? ("create_intent", key')).isSome := htaken
        rw [hnone] at hsome
        cases hsome
      · cases hreach
    | _ => cases hscope
  | lead leadId vendorId key now purchaseId paymentId =>
    cases earlier with
    | lead leadId' vendorId' key' now' purchaseId' paymentId' =>
      exfalso
      have hvendor : vendorId' = vendorId := by simpa [Charge.scope] using hscope
      have hsame : key' = key := (String.append_right_inj "professional-lead:").mp hkey
      subst hvendor hsame
      simp only [Charge.reach] at hreach
      split at hreach
      · next hbegin =>
        obtain ⟨p, hp, hused⟩ := htaken
        exact (beginPurchase_new hbegin).1 p hp hused
      · cases hreach
    | _ => cases hscope
  | capture paymentId amountMinor key now jobId => exact ⟨paymentId, rfl⟩
  | refund request now refundId =>
    cases earlier with
    | refund request' now' refundId' =>
      exfalso
      have hpaid : request'.paymentId = request.paymentId := by simpa [Charge.scope] using hscope
      have hsame : request'.key = request.key := hkey
      simp only [Charge.reach] at hreach
      split at hreach
      · next call hbegin =>
        obtain ⟨hpayment, hnone⟩ := Refunding.beginRefund_ok hbegin
        have hid : call.payment.id = request.paymentId := Table.key_of_get? hpayment
        obtain ⟨r, hr, hof, hused⟩ := htaken
        unfold refundByKey at hnone
        rw [List.find?_eq_none] at hnone
        refine hnone r hr (decide_eq_true ⟨?_, hused.trans hsame⟩)
        exact hof.trans (hpaid.trans hid.symm)
      · cases hreach
    | _ => cases hscope

theorem map_eq_ok {α β : Type} {answer : Except Raised α} {f : α → β} {b : β}
    (h : answer.map f = .ok b) : ∃ a, answer = .ok a ∧ f a = b := by
  cases answer with
  | error raised => cases h
  | ok a =>
    cases h
    exact ⟨a, rfl, rfl⟩

/-- A command that commits after it has asked the provider was answered, and leaves its key
and a row bound to the answer. -/
theorem Charge.transaction_sent {answer : Except Raised ProviderObject}
    (hreach : charge.reach settings db = some operation)
    (h : charge.transaction settings db answer = .ok db') :
    ∃ object, answer = .ok object ∧ charge.Taken db' ∧
      (charge.makesRow = true → charge.boundTo db' = some object.id) := by
  cases charge with
  | intent payload key paymentId =>
    obtain ⟨shown, h⟩ := map_fst_ok h
    rw [createIntent_eq, seq_committed] at h
    obtain ⟨begun, hbegin, hfinish⟩ := h
    simp only [Charge.reach, hbegin] at hreach
    cases begun with
    | inl view => cases hreach
    | inr metadata =>
      obtain ⟨intent, hanswer, _, hrecord, hbound⟩ := finishIntent_sent hfinish
      obtain ⟨object, hobject, rfl⟩ := map_eq_ok hanswer
      exact ⟨object, hobject, hrecord, fun _ => hbound⟩
  | lead leadId vendorId key now purchaseId paymentId =>
    obtain ⟨shown, h⟩ := map_fst_ok h
    rw [purchase_eq, seq_committed] at h
    obtain ⟨begun, hbegin, hfinish⟩ := h
    simp only [Charge.reach, hbegin] at hreach
    cases begun with
    | inl replayed => cases hreach
    | inr begun =>
      obtain ⟨lead, purchase, added⟩ := begun
      dsimp only at hreach hfinish
      split at hreach
      · cases hreach
      · next hunpaid =>
        obtain ⟨_, hmem, hvendor, hkey⟩ := beginPurchase_new hbegin
        rw [Bool.not_eq_true] at hunpaid
        obtain ⟨intent, hanswer, hkept, hbound⟩ := finishPurchase_sent hunpaid hmem hfinish
        obtain ⟨object, hobject, rfl⟩ := map_eq_ok hanswer
        exact ⟨object, hobject, ⟨purchase, hkept, hvendor, hkey⟩, fun _ => hbound⟩
  | capture paymentId amountMinor key now jobId =>
    obtain ⟨shown, h⟩ := map_fst_ok h
    rw [capture_eq, seq_committed] at h
    obtain ⟨begun, hbegin, hfinish⟩ := h
    simp only [Charge.reach, hbegin] at hreach
    cases begun with
    | inl view => cases hreach
    | inr payment =>
      simp only [finishCapture, seq_committed] at hfinish
      obtain ⟨intent, hanswer, _⟩ := hfinish
      obtain ⟨object, hobject, rfl⟩ := map_eq_ok hanswer
      exact ⟨object, hobject, trivial, fun hrow => by cases hrow⟩
  | refund request now refundId =>
    obtain ⟨shown, h⟩ := map_fst_ok h
    rw [refund_eq, seq_committed] at h
    obtain ⟨begun, hbegin, hfinish⟩ := h
    simp only [Charge.reach, hbegin] at hreach
    cases begun with
    | inl view => cases hreach
    | inr call =>
      rw [seq_committed] at hfinish
      obtain ⟨answered, hanswer, hfinish⟩ := hfinish
      obtain ⟨object, hobject, rfl⟩ := map_eq_ok hanswer
      have hpayment := (Refunding.beginRefund_ok hbegin).1
      have hid : call.payment.id = request.paymentId := Table.key_of_get? hpayment
      obtain ⟨hrow, hbound⟩ := finishRefund_sent (hid ▸ hpayment) hfinish
      rw [hid] at hrow
      exact ⟨object, hobject, hrow, fun _ => hbound⟩

/-- The step of the payment system commits the transaction of the command. -/
theorem Charge.exec_op {w : World} {answer : Except Raised ProviderObject}
    (h : charge.transaction settings w.db answer = .ok db') :
    (Payments.exec settings w (charge.op answer)).db = db' := by
  cases charge with
  | intent payload key paymentId =>
    obtain ⟨_, h⟩ := map_fst_ok h
    exact commit_ok h
  | lead leadId vendorId key now purchaseId paymentId =>
    obtain ⟨_, h⟩ := map_fst_ok h
    exact commit_ok h
  | capture paymentId amountMinor key now jobId =>
    obtain ⟨_, h⟩ := map_fst_ok h
    exact commit_ok h
  | refund request now refundId =>
    obtain ⟨_, h⟩ := map_fst_ok h
    exact commit_ok h

end

/-! ## The law -/

namespace Sending

variable {settings : Settings} {w : Sending}

theorem maker_append {sent : List Sent} {key : String} {first : Sent} (more : List Sent)
    (h : maker sent key = some first) : maker (sent ++ more) key = some first := by
  unfold maker at h ⊢
  rw [List.find?_append, h]
  rfl

/-- What holds in every run: a committed call has left its key, was answered with what the first
use of the key made, and its row is bound to that; every call is for an operation of its scope. -/
structure SendInv (w : Sending) : Prop where
  scope : ∀ s ∈ w.sent, s.operation.scope = s.charge.scope
  taken : ∀ s ∈ w.sent, s.committed = true → s.charge.Taken w.world.db
  made : ∀ s ∈ w.sent, s.committed = true →
    ∃ first, maker w.sent s.key = some first ∧ first.answer = s.answer
  row : ∀ s ∈ w.sent, s.committed = true → s.charge.makesRow = true →
    ∃ object, s.answer = .ok object ∧ s.charge.boundTo w.world.db = some object.id

theorem SendInv.left {world : World} (h : SendInv w) (hleft : KeysLeft w.world.db world.db) :
    SendInv { w with world } where
  scope := h.scope
  taken s hs hcommitted := (h.taken s hs hcommitted).left hleft
  made := h.made
  row s hs hcommitted hmakes := by
    obtain ⟨object, hanswer, hbound⟩ := h.row s hs hcommitted hmakes
    exact ⟨object, hanswer, Charge.boundTo_left hbound hleft⟩

/-- One more call. -/
theorem SendInv.add (h : SendInv w) {s : Sent} (hscope : s.operation.scope = s.charge.scope)
    (htaken : s.committed = true → s.charge.Taken w.world.db)
    (hmade : s.committed = true →
      ∃ first, maker (w.sent ++ [s]) s.key = some first ∧ first.answer = s.answer)
    (hrow : s.committed = true → s.charge.makesRow = true →
      ∃ object, s.answer = .ok object ∧ s.charge.boundTo w.world.db = some object.id) :
    SendInv { w with sent := w.sent ++ [s] } where
  scope t ht := by
    rcases List.mem_append.mp ht with ht | ht
    · exact h.scope t ht
    · cases List.mem_singleton.mp ht
      exact hscope
  taken t ht hcommitted := by
    rcases List.mem_append.mp ht with ht | ht
    · exact h.taken t ht hcommitted
    · cases List.mem_singleton.mp ht
      exact htaken hcommitted
  made t ht hcommitted := by
    rcases List.mem_append.mp ht with ht | ht
    · obtain ⟨first, hfirst, hanswer⟩ := h.made t ht hcommitted
      exact ⟨first, maker_append _ hfirst, hanswer⟩
    · cases List.mem_singleton.mp ht
      exact hmade hcommitted
  row t ht hcommitted hmakes := by
    rcases List.mem_append.mp ht with ht | ht
    · exact h.row t ht hcommitted hmakes
    · cases List.mem_singleton.mp ht
      exact hrow hcommitted hmakes

theorem maker_answerFor {sent : List Sent} {s : Sent} {made : Except Raised ProviderObject}
    {object : ProviderObject} (hanswer : s.answer = answerFor sent s.key made)
    (hok : s.answer = .ok object) :
    ∃ first, maker (sent ++ [s]) s.key = some first ∧ first.answer = s.answer := by
  unfold answerFor at hanswer
  split at hanswer
  · next first hfirst => exact ⟨first, maker_append _ hfirst, hanswer.symm⟩
  · next hnone =>
    refine ⟨s, ?_, rfl⟩
    unfold maker at hnone ⊢
    rw [List.find?_append, hnone, Option.none_or]
    exact List.find?_cons_of_pos (by simp [isOk_of_eq hok])

theorem SendInv.send (h : SendInv w) {charge : Charge} {operation : Operation}
    (hreach : charge.reach settings w.world.db = some operation)
    (made : Except Raised ProviderObject) (fault : Bool) :
    SendInv (send settings w charge operation made fault) := by
  unfold Sending.send
  dsimp only
  cases hcommitted : !fault && (charge.transaction settings w.world.db
      (answerFor w.sent charge.providerKey made)).isOk with
  | false =>
    exact h.add (Charge.reach_scope hreach) nofun nofun nofun
  | true =>
    rw [Bool.and_eq_true] at hcommitted
    obtain ⟨db', htransaction⟩ := isOk_iff.mp hcommitted.2
    obtain ⟨object, hanswer, htaken, hbound⟩ := Charge.transaction_sent hreach htransaction
    have hdb := Charge.exec_op htransaction
    refine (h.left (exec_keysLeft settings w.world _)).add (Charge.reach_scope hreach) ?_ ?_ ?_
    · intro _
      exact hdb.symm ▸ htaken
    · intro _
      exact maker_answerFor rfl hanswer
    · intro _ hmakes
      exact ⟨object, hanswer, hdb.symm ▸ hbound hmakes⟩

theorem SendInv.step (h : SendInv w) (op : SendOp) : SendInv (exec settings w op) := by
  cases op with
  | charge charge made fault =>
    simp only [exec]
    split
    · next operation hreach => exact h.send hreach made fault
    · split
      · exact h
      · exact h.left (exec_keysLeft settings w.world _)
  | deliver event fault now jobId => exact h.left (exec_keysLeft settings w.world _)
  | recordFailure delivery => exact h.left (exec_keysLeft settings w.world _)
  | other write left => exact h.left (left w.world.db)

theorem SendInv.law (h : SendInv w) (hkeys : KeysInjective w) : Law w := by
  refine ⟨hkeys, fun s hs hcommitted => ?_⟩
  obtain ⟨first, hfirst, hanswer⟩ := h.made s hs hcommitted
  have hmem : first ∈ w.sent := List.mem_of_find?_eq_some hfirst
  have hkey : first.key = s.key := by
    have hfound := List.find?_some hfirst
    rw [Bool.and_eq_true, decide_eq_true_eq] at hfound
    exact hfound.1
  exact ⟨⟨first, hfirst, hanswer, hkeys first hmem s hs hkey⟩, h.row s hs hcommitted⟩

theorem sameRequest_symm {p q : PaymentIntentCreate} (h : SameRequest p q) : SameRequest q p := by
  obtain ⟨heq, hperm⟩ := h
  refine ⟨?_, hperm.symm⟩
  rw [← heq]

theorem same_symm {a b : Operation} (h : a.Same b) : b.Same a := by
  unfold Operation.Same at h ⊢
  split at h
  · exact sameRequest_symm h
  · subst h
    exact Operation.same_refl _

/-- A call that repeats a key under its scope is for the same operation. -/
theorem Repeats.same (h : SendInv w) {earlier : Sent} (hearlier : earlier ∈ w.sent)
    {charge : Charge} {operation : Operation} (hrepeats : Repeats earlier charge operation)
    (hkey : earlier.key = charge.providerKey)
    (hreach : charge.reach settings w.world.db = some operation) :
    earlier.operation.Same operation := by
  cases hcommitted : earlier.committed with
  | false => exact hrepeats.2 hcommitted
  | true =>
    obtain ⟨paymentId, hcapture⟩ :=
      (h.taken earlier hearlier hcommitted).reach hrepeats.1 hkey hreach
    have hof := h.scope earlier hearlier
    have hto := Charge.reach_scope hreach
    rw [hrepeats.1, hcapture] at hof
    rw [hcapture] at hto
    cases ha : earlier.operation <;> rw [ha] at hof <;> cases hof
    cases operation <;> cases hto
    exact Operation.same_refl _

theorem KeysInjective.add (hkeys : KeysInjective w) {s : Sent} {world : World}
    (hsame : ∀ earlier ∈ w.sent, earlier.key = s.key → earlier.operation.Same s.operation) :
    KeysInjective { world, sent := w.sent ++ [s] } := by
  intro a ha b hb hkey
  rcases List.mem_append.mp ha with ha | ha
  · rcases List.mem_append.mp hb with hb | hb
    · exact hkeys a ha b hb hkey
    · cases List.mem_singleton.mp hb
      exact hsame a ha hkey
  · cases List.mem_singleton.mp ha
    rcases List.mem_append.mp hb with hb | hb
    · exact same_symm (hsame b hb hkey.symm)
    · cases List.mem_singleton.mp hb
      exact Operation.same_refl _

theorem KeysInjective.step (hkeys : KeysInjective w) (h : SendInv w) {op : SendOp}
    (hapart : KeysApart settings w op) : KeysInjective (exec settings w op) := by
  cases op with
  | charge charge made fault =>
    simp only [exec]
    split
    · next operation hreach =>
      exact hkeys.add fun earlier hearlier hkey =>
        Repeats.same h hearlier (hapart operation hreach earlier hearlier hkey) hkey hreach
    · exact hkeys
  | deliver event fault now jobId => exact hkeys
  | recordFailure delivery => exact hkeys
  | other write left => exact hkeys

/-- A step after which the law holds repeats no key elsewhere. -/
theorem keysApart_of_law (h : SendInv w) {op : SendOp} (hlaw : Law (exec settings w op)) :
    KeysApart settings w op := by
  cases op with
  | charge charge made fault =>
    intro operation hreach earlier hearlier hkey
    have hfound : charge.reach settings w.world.db = some operation := hreach
    have hexec : exec settings w (.charge charge made fault) =
        send settings w charge operation made fault := by
      simp only [exec, hfound]
    rw [hexec] at hlaw
    have hsame : earlier.operation.Same operation :=
      hlaw.1 earlier (List.mem_append_left _ hearlier) _
        (List.mem_append_right _ (List.mem_singleton.mpr rfl)) hkey
    refine ⟨?_, fun _ => hsame⟩
    rw [← h.scope earlier hearlier, hsame.scope, Charge.reach_scope hfound]
  | _ => trivial

/-- No two operations share a key, and no row is bound to the object of another operation, in
exactly the runs in which every key that reaches the provider is new or repeats its earlier calls
under one scope, the rolled back ones for one operation. -/
theorem keys_injective_iff (settings : Settings) (w : World) (ops : List SendOp) :
    Always (exec settings) Law { world := w } ops ↔
      Along (exec settings) (KeysApart settings) { world := w } ops := by
  have hstart : SendInv { world := w } :=
    ⟨List.forall_mem_nil _, List.forall_mem_nil _, List.forall_mem_nil _, List.forall_mem_nil _⟩
  constructor
  · exact along_of_always_inv (I := SendInv) (fun _ op h _ => h.step op)
      (fun _ _ h hlaw => keysApart_of_law h hlaw) hstart
  · intro h
    have hboth : Always (exec settings) (fun w => SendInv w ∧ KeysInjective w)
        { world := w } ops :=
      always_of_inv (fun w op hw hp => ⟨hw.1.step op, hw.2.step hw.1 hp⟩)
        ⟨hstart, List.forall_mem_nil _⟩ h
    exact hboth.imp fun w hw => hw.1.law hw.2

instance : DecidablePred KeysInjective := fun w => inferInstanceAs (Decidable
  (∀ a ∈ w.sent, ∀ b ∈ w.sent, a.key = b.key → a.operation.Same b.operation))

/-- The visit is paid and refunded with one key. -/
def oneKey : List SendOp := [
  .charge (.intent visitPayload "visit-key" 10)
    (.ok { id := "pi_1", status := some "succeeded", amountReceived := some 10000 }) false,
  .charge (.refund {
      paymentId := 10, amountMinor := none, key := "visit-key", actorId := 3, reason := none } 5 21)
    (.ok { id := "re_1", status := some "succeeded" }) false]

/-- The provider answers the refund with the intent: the row of a refund that was never made has
succeeded. -/
theorem refund_bound_to_intent :
    ¬ Always (exec sampleSettings) Law { world := visitWorld } oneKey ∧
      ∃ refund ∈ (run (exec sampleSettings) { world := visitWorld } oneKey).world.db.refunds.rows,
        refund.providerRefundId = some "pi_1" ∧ refund.status = .succeeded := by
  constructor
  · intro h
    have hinjective := (h _ (run_mem_states _ _)).1
    exact absurd hinjective (by decide)
  · decide

end Sending

end Breero.Payments
