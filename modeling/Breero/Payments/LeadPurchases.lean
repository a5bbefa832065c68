import Breero.Payments.LeadRows
import Breero.Payments.Refunds

/-!
The lead, its purchase and its payment over a run of purchases and webhooks.

* `lead_rows_agree`: a captured payment's purchase is paid and its lead purchased, a
  paid purchase is never demoted, and an available lead can be purchased, in the runs
  in which no failure is reported of a purchase that is paid or whose lead is reserved;
* `late_failure_strands_lead` are runs in which one is.
-/

namespace Breero.Payments
open KeyedTable Transaction Leads Runs

/-! ## The three laws -/

/-- A captured lead payment has a paid purchase, whose vendor purchased the lead. -/
def CapturedAgrees (w : World) : Prop :=
  ∀ p ∈ w.db.payments.rows, p.status = .captured → ∀ i ∈ p.leadPurchaseId,
    ∃ purchase ∈ w.db.leadPurchases.get? i, purchase.status = .paid ∧
      ∃ lead ∈ w.db.leads.get? purchase.leadId, lead.status = .purchased ∧
        lead.purchasedByVendorId = some purchase.vendorId

/-- The step demotes no paid purchase: it stays paid, or it is refunded. -/
def PaidKept (settings : Settings) (w : World) (op : Op) : Prop :=
  ∀ a ∈ w.db.leadPurchases.rows, a.status = .paid →
    ∀ b ∈ (exec settings w op).db.leadPurchases.rows, b.id = a.id →
      b.status = .paid ∨ b.status = .refunded

def leadTaken : Raised := .integrityError "professional_lead_purchases_lead_id_key"

/-- No purchase of an available lead hits the unique constraint on the lead. -/
def Purchasable (w : World) : Prop :=
  ∀ settings, ∀ lead ∈ w.db.leads.rows, lead.status = .available →
    ∀ vendorId key answer now purchaseId paymentId, answer ≠ .error leadTaken →
      purchase settings w.db lead.id vendorId key answer now purchaseId paymentId ≠
        .error leadTaken

/-- The step reports no failure of a purchase that is paid or whose lead is reserved. -/
def KeepsLeads (w : World) (op : Op) : Prop :=
  ∀ p ∈ reportsFailure w op, p.paymentPurpose = .professionalLead →
    ∀ purchase ∈ p.leadPurchaseId.bind w.db.leadPurchases.get?, purchase.status ≠ .paid ∧
      ∀ lead ∈ w.db.leads.get? purchase.leadId, lead.status ≠ .reserved

instance (w : World) : DecidablePred (KeepsLeads w) :=
  fun op => inferInstanceAs (Decidable (∀ p ∈ reportsFailure w op, _ → _))

theorem LeadRows.capturedAgrees {w : World} (h : LeadRows w.db) : CapturedAgrees w := by
  intro p hp hcaptured i hi
  obtain ⟨purchase, lead, hpurchase, hpaid, hlead, hstatus⟩ := h.paid p hp hcaptured i hi
  refine ⟨purchase, hpurchase, hpaid, lead, hlead, hstatus, ?_⟩
  exact h.vendorOf purchase (Table.mem_of_get? hpurchase) lead hlead (Or.inr hstatus)

instance (settings : Settings) (w : World) : DecidablePred (PaidKept settings w) :=
  fun op => inferInstanceAs (Decidable (∀ a ∈ w.db.leadPurchases.rows, a.status = .paid →
    ∀ b ∈ (exec settings w op).db.leadPurchases.rows, b.id = a.id →
      b.status = .paid ∨ b.status = .refunded))

/-! ## Available leads -/

/-- An available lead was never purchased. -/
def OpenLeads (db : Db) : Prop :=
  ∀ lead ∈ db.leads.rows, lead.status = .available →
    ∀ purchase ∈ db.leadPurchases.rows, purchase.leadId ≠ lead.id

/-- No new lead is available, and no new purchase is made. -/
theorem OpenLeads.update {db db' : Db} (h : OpenLeads db)
    (hleads : ∀ l ∈ db'.leads.rows, l.status = .available → l ∈ db.leads.rows)
    (hpurchases : PurchasesFrom db.leadPurchases db'.leadPurchases) : OpenLeads db' := by
  intro lead hlead havailable b hb heq
  obtain ⟨a, ha, _, hsame, _⟩ := hpurchases b hb
  exact h lead (hleads lead hlead havailable) havailable a ha (hsame.symm.trans heq)

theorem OpenLeads.of_same {db db' : Db} (h : OpenLeads db) (hleads : db'.leads = db.leads)
    (hpurchases : db'.leadPurchases = db.leadPurchases) : OpenLeads db' :=
  h.update (fun _ hlead _ => hleads ▸ hlead) (hpurchases ▸ .refl _)

/-- A lead put back that is not available. -/
theorem available_of_put {t : Table ProfessionalLead} {lead' lead : ProfessionalLead}
    (hstatus : lead'.status ≠ .available) (hlead : lead ∈ (t.put lead').rows)
    (havailable : lead.status = .available) : lead ∈ t.rows ∧ lead.id ≠ lead'.id := by
  rcases Table.mem_put.mp hlead with ⟨rfl, _⟩ | ⟨hmem, hne⟩
  · exact absurd havailable hstatus
  · exact ⟨hmem, hne⟩

theorem OpenLeads.settle {db after : Db} {q : Payment} {now : Instant} (h : OpenLeads db)
    (hsettlement : Settlement db q now after) : OpenLeads after := by
  cases hsettlement with
  | lead purchase lead purpose found foundLead status =>
    obtain ⟨i, _, hget⟩ := Option.bind_eq_some_iff.mp found
    refine h.update (fun lead' hlead' havailable => ?_)
      (.put _ (Table.mem_of_get? hget))
    exact (available_of_put (by simp) hlead' havailable).1
  | quoteAgain quote purpose found status => exact h
  | quote quote jobs jobEvents purpose found status => exact h.of_same rfl rfl
  | bookingAgain booking purpose found status => exact h.of_same rfl rfl
  | booking booking jobs jobEvents created purpose found status createdOnly =>
    exact h.of_same rfl rfl

theorem OpenLeads.release {db : Db} {q : Payment} (h : OpenLeads db)
    (hkeeps : q.paymentPurpose = .professionalLead →
      ∀ purchase ∈ q.leadPurchaseId.bind db.leadPurchases.get?,
        ∀ lead ∈ db.leads.get? purchase.leadId, lead.status ≠ .reserved) :
    OpenLeads (releaseFailedLeadPurchase db q) := by
  rcases releaseFailedLeadPurchase_cases db q with
    heq | ⟨purchase, leads, purpose, found, hleads, heq⟩
  · rw [heq]
    exact h
  · rw [heq]
    have hsame : leads = db.leads := by
      rcases hleads with rfl | ⟨lead, hlead, hreserved, _⟩
      · rfl
      · exact absurd hreserved (hkeeps purpose purchase found lead hlead)
    obtain ⟨i, _, hget⟩ := Option.bind_eq_some_iff.mp found
    exact h.update (fun lead hlead _ => hsame ▸ hlead) (.put _ (Table.mem_of_get? hget))

theorem RowStep.openLeads {w : World} {op : Op} {db' : Db} (hstep : RowStep w op db')
    (h : OpenLeads w.db) (hkeeps : KeepsLeads w op) : OpenLeads db' := by
  cases hstep with
  | quiet payments targets => exact h.of_same targets.leads targets.leadPurchases
  | created p purpose valid status inserted targets =>
    exact h.of_same targets.leads targets.leadPurchases
  | purchased lead purchase found available fresh inserted leads payments bookings workRequests
      captured =>
    intro other hother havailable a ha heq
    rw [leads] at hother
    obtain ⟨hmem, hne⟩ := available_of_put (by simp) hother havailable
    rcases (Table.mem_insert inserted).mp ha with ha | rfl
    · exact h other hmem havailable a ha heq
    · have hid : lead.id = a.leadId := Table.key_of_get? found
      exact hne (heq.symm.trans hid.symm)
  | settled p q now after reports found refs status settlement rows =>
    rw [rows]
    have hput : OpenLeads { w.db with payments := w.db.payments.put q } := h.of_same rfl rfl
    exact (hput.settle settlement).of_same rfl rfl
  | released p q reports found refs status rows =>
    rw [rows]
    have hopen : OpenLeads { w.db with payments := w.db.payments.put q } := h.of_same rfl rfl
    refine (hopen.release fun purpose purchase hpurchase lead hlead => ?_).of_same rfl rfl
    rw [refs.leadPurchaseId] at hpurchase
    exact (hkeeps p reports (refs.paymentPurpose ▸ purpose) purchase hpurchase).2 lead hlead
  | refunded p whole before found payments targets rows =>
    rw [rows]
    have hbefore : OpenLeads before := h.of_same targets.leads targets.leadPurchases
    rcases markLeadPurchaseRefunded_cases before (refundedPayment p whole) with
      heq | ⟨purchase, found, heq⟩
    · rw [heq]
      exact hbefore.of_same rfl rfl
    · rw [heq]
      obtain ⟨i, _, hget⟩ := Option.bind_eq_some_iff.mp found
      exact hbefore.update (fun lead hlead _ => hlead) (.put _ (Table.mem_of_get? hget))

/-- Only the unique constraint on the lead can raise `leadTaken`. -/
theorem addLeadPurchase_raised {db : Db} {purchase : LeadPurchase}
    (h : db.addLeadPurchase purchase = .error leadTaken) :
    ∃ other ∈ db.leadPurchases.rows, other.leadId = purchase.leadId := by
  simp only [Db.addLeadPurchase, seq_raised, require_raised, orRaise_raised, return_raised,
    leadTaken] at h
  rcases h with ⟨hused, _⟩ | ⟨_, _, h⟩
  · simpa using hused
  · simp at h

theorem createProfessionalLeadIntent_raised {db : Db} {purchase : LeadPurchase}
    {answer : Except Raised ProviderIntent} {paymentId : Uuid}
    (hanswer : answer ≠ .error leadTaken) :
    createProfessionalLeadIntent db purchase answer paymentId ≠ .error leadTaken := by
  intro h
  unfold createProfessionalLeadIntent at h
  split at h
  · rw [return_raised] at h
    exact h
  · simp only [Db.addPayment, seq_raised, require_raised, orRaise_raised, return_raised] at h
    rcases h with h | ⟨_, _, h⟩
    · exact hanswer h
    · simp [leadTaken] at h

theorem replayPurchase_raised {db : Db} {existing : LeadPurchase} {leadId : Uuid} :
    replayPurchase db existing leadId ≠ .error leadTaken := by
  simp [replayPurchase, seq_raised, require_raised, orRaise_raised, return_raised, leadTaken,
    -bind_pure_comp]

theorem purchasableLead_raised {db : Db} {leadId : Uuid} {vendor : Vendor} {now : Instant} :
    purchasableLead db leadId vendor now ≠ .error leadTaken := by
  simp [purchasableLead, seq_raised, require_raised, orRaise_raised, return_raised, leadTaken,
    notEligible, -bind_pure_comp]

theorem purchasableLead_ok {db : Db} {leadId : Uuid} {vendor : Vendor} {now : Instant}
    {lead : ProfessionalLead} (h : purchasableLead db leadId vendor now = .ok lead) :
    db.leads.get? leadId = some lead ∧ lead.status = .available := by
  simp only [purchasableLead, seq_committed, require_committed, orRaise_committed,
    return_committed] at h
  obtain ⟨_, hlead, _, havailable, _, _, _, _, rfl⟩ := h
  exact ⟨hlead, havailable⟩

/-- A purchase that hits the constraint is of an available lead that has a purchase. -/
theorem purchase_raised {settings : Settings} {db : Db} {leadId vendorId : Uuid} {key : String}
    {answer : Except Raised ProviderIntent} {now : Instant} {purchaseId paymentId : Uuid}
    (hanswer : answer ≠ .error leadTaken)
    (h : purchase settings db leadId vendorId key answer now purchaseId paymentId =
      .error leadTaken) :
    ∃ lead, db.leads.get? leadId = some lead ∧ lead.status = .available ∧
      ∃ other ∈ db.leadPurchases.rows, other.leadId = lead.id := by
  unfold purchase at h
  simp only [seq_raised, require_raised, orRaise_raised] at h
  rcases h with ⟨_, h⟩ | ⟨_, _, ⟨_, h⟩ | ⟨vendor, _, ⟨_, h⟩ | ⟨_, _, h⟩⟩⟩
  · simp [leadTaken] at h
  · simp [leadTaken, notEligible] at h
  · simp [leadTaken, notEligible] at h
  · split at h
    · exact absurd h replayPurchase_raised
    · simp only [seq_raised, return_raised] at h
      rcases h with h | ⟨lead, hpurchasable, hadd | ⟨added, _, hintent | ⟨_, _, h⟩⟩⟩
      · exact absurd h purchasableLead_raised
      · obtain ⟨hlead, havailable⟩ := purchasableLead_ok hpurchasable
        exact ⟨lead, hlead, havailable, addLeadPurchase_raised hadd⟩
      · exact absurd hintent (createProfessionalLeadIntent_raised hanswer)
      · exact absurd h id

theorem OpenLeads.purchasable {w : World} (h : OpenLeads w.db) : Purchasable w := by
  intro settings lead _ _ vendorId key answer now purchaseId paymentId hanswer hraised
  obtain ⟨found, hfound, havailable, other, hother, hsame⟩ := purchase_raised hanswer hraised
  exact h found (Table.mem_of_get? hfound) havailable other hother hsame

/-! ## Paid purchases -/

/-- Every purchase is kept, and the paid ones stay paid or are refunded. -/
abbrev PurchasesKept : Table LeadPurchase → Table LeadPurchase → Prop :=
  Table.Kept (fun a b => a.status = .paid → b.status = .paid ∨ b.status = .refunded)

theorem PurchasesKept.same {t u : Table LeadPurchase} (h : u = t) : PurchasesKept t u :=
  Table.Kept.of_eq h (fun _ hpaid => Or.inl hpaid)

theorem PurchasesKept.put {t : Table LeadPurchase} {purchase : LeadPurchase} {i : Uuid}
    {status : LeadPurchaseStatus} (hget : t.get? i = some purchase)
    (h : purchase.status = .paid → status = .paid ∨ status = .refunded) :
    PurchasesKept t (t.put { purchase with status }) :=
  Table.Kept.put (c := purchase) (a := { purchase with status }) (Table.get?_found hget) h
    (fun _ hpaid => Or.inl hpaid)

theorem RowStep.purchasesKept {w : World} {op : Op} {db' : Db} (hstep : RowStep w op db')
    (hkeeps : KeepsLeads w op) : PurchasesKept w.db.leadPurchases db'.leadPurchases := by
  cases hstep with
  | quiet payments targets => exact .same targets.leadPurchases
  | created p purpose valid status inserted targets => exact .same targets.leadPurchases
  | purchased lead purchase found available fresh inserted leads payments bookings workRequests
      captured =>
    exact Table.Kept.insert inserted (fun _ hpaid => Or.inl hpaid)
  | settled p q now after reports found refs status settlement rows =>
    rw [rows]
    cases settlement with
    | lead purchase lead purpose found foundLead status =>
      obtain ⟨i, _, hget⟩ := Option.bind_eq_some_iff.mp found
      exact .put hget fun _ => Or.inl rfl
    | _ => exact .same rfl
  | released p q reports found refs status rows =>
    rw [rows]
    rcases releaseFailedLeadPurchase_cases { w.db with payments := w.db.payments.put q } q with
      heq | ⟨purchase, leads, purpose, found, _, heq⟩
    · rw [heq]
      exact .same rfl
    · rw [heq]
      obtain ⟨i, _, hget⟩ := Option.bind_eq_some_iff.mp found
      rw [refs.leadPurchaseId] at found
      have hnotPaid := (hkeeps p reports (refs.paymentPurpose ▸ purpose) purchase found).1
      exact .put hget fun hpaid => absurd hpaid hnotPaid
  | refunded p whole before found payments targets rows =>
    rw [rows]
    rcases markLeadPurchaseRefunded_cases before (refundedPayment p whole) with
      heq | ⟨purchase, found, heq⟩
    · rw [heq]
      exact .same targets.leadPurchases
    · rw [heq, ← targets.leadPurchases]
      obtain ⟨i, _, hget⟩ := Option.bind_eq_some_iff.mp found
      exact .put hget fun _ => Or.inr rfl

/-! ## Runs -/

/-- Before any payment or purchase is made. -/
def NoPurchases (w : World) : Prop := w.db.payments.rows = [] ∧ w.db.leadPurchases.rows = []

instance : DecidablePred NoPurchases := fun _ => inferInstanceAs (Decidable (_ ∧ _))

theorem NoPurchases.leadRows {w : World} (h : NoPurchases w) :
    PaymentRefs w.db ∧ LeadRows w.db := by
  refine ⟨⟨?_, ?_, ?_⟩, ?_, ?_, ?_⟩ <;> simp [h.1, h.2]

theorem NoPurchases.openLeads {w : World} (h : NoPurchases w) : OpenLeads w.db := by
  intro lead _ _ purchase hpurchase
  simp [h.2] at hpurchase

/-- In every truthful run a captured payment, its purchase and its lead agree. -/
theorem captured_agrees {settings : Settings} {w : World} {ops : List Op}
    (hstart : NoPurchases w) (htruth : Along (exec settings) Truthful w ops) :
    Always (exec settings) CapturedAgrees w ops :=
  Always.imp (fun _ h => h.2.capturedAgrees)
    (always_of_inv (I := fun w => PaymentRefs w.db ∧ LeadRows w.db)
      (fun w op hinv htruth => ⟨(exec_rowStep settings w op).paymentRefs hinv.1,
        (exec_rowStep settings w op).leadRows hinv.1 hinv.2 htruth⟩)
      hstart.leadRows htruth)

/-- In the runs that report no failure of a paid purchase or of a reserved lead, the
three laws hold. -/
theorem lead_rows_agree (settings : Settings) (w : World) (ops : List Op)
    (hstart : NoPurchases w) (htruth : Along (exec settings) Truthful w ops)
    (hkeeps : Along (exec settings) KeepsLeads w ops) :
    Always (exec settings) CapturedAgrees w ops ∧
      Along (exec settings) (PaidKept settings) w ops ∧
      Always (exec settings) Purchasable w ops := by
  refine ⟨captured_agrees hstart htruth, ?_, ?_⟩
  · refine Along.imp (I := fun _ => True) (fun _ _ _ _ => trivial) (fun w op _ hstep => ?_)
      trivial hkeeps
    intro a ha hpaid b hb hid
    exact ((exec_rowStep settings w op).purchasesKept hstep).rel ha hb hid hpaid
  · exact Always.imp (fun _ h => h.purchasable)
      (always_of_inv (I := fun w => OpenLeads w.db)
        (fun w op hinv hkeeps => (exec_rowStep settings w op).openLeads hinv hkeeps)
        hstart.openLeads hkeeps)

/-! ## A lead to purchase -/

def roofLead : ProfessionalLead :=
  { id := 1, serviceCategory := "roofing", priceMinor := 4000, currency := "USD",
    status := .available }

/-- One lead and two vendors that are eligible for it. -/
def leadWorld : World where
  db := {
    leads := ⟨[roofLead], by decide⟩
    vendors := ⟨[{ id := 2, status := .active, capabilities := ["Roofing"] },
      { id := 3, status := .active, capabilities := ["roofing"] }], by decide⟩ }

/-- The vendor 2 reserves the lead, with the purchase 10 and the payment 11. -/
def leadReserved : List Op :=
  [.stripeIntent (intentAt "pi_1" "requires_payment_method" 0),
   .purchase 1 2 "buy" (.ok (intentAt "pi_1" "requires_payment_method" 0)) 0 10 11]

def leadPaid : List Op :=
  leadReserved ++
    [.stripeIntent (intentAt "pi_1" "succeeded" 4000),
     .deliver (intentEvent "evt_2" "payment_intent.succeeded" "pi_1" "succeeded" 4000) none 1 20]

def leadFailure : Op :=
  .deliver (intentEvent "evt_1" "payment_intent.payment_failed" "pi_1" "requires_payment_method" 0)
    none 2 21

theorem lead_paid_agrees :
    Always (exec sampleSettings) CapturedAgrees leadWorld leadPaid ∧
      Along (exec sampleSettings) (PaidKept sampleSettings) leadWorld leadPaid ∧
      Always (exec sampleSettings) Purchasable leadWorld leadPaid :=
  lead_rows_agree _ _ _ (by decide) (by decide) (by decide)

/-- Two truthful runs: a failed payment leaves an available lead that nobody else can
purchase, and a failure that arrives late demotes a paid purchase. -/
theorem late_failure_strands_lead :
    (Along (exec sampleSettings) Truthful leadWorld (leadReserved ++ [leadFailure]) ∧
      ¬ Always (exec sampleSettings) Purchasable leadWorld (leadReserved ++ [leadFailure])) ∧
    (Along (exec sampleSettings) Truthful leadWorld (leadPaid ++ [leadFailure]) ∧
      ¬ Along (exec sampleSettings) (PaidKept sampleSettings) leadWorld
        (leadPaid ++ [leadFailure])) := by
  refine ⟨⟨by decide, fun h => ?_⟩, by decide, by decide⟩
  · have hfinal := h _ (run_mem_states leadWorld (leadReserved ++ [leadFailure]))
    refine hfinal sampleSettings roofLead (by decide) (by decide) 3 "buy"
      (.ok (intentAt "pi_2" "requires_payment_method" 0)) 3 12 13 (by simp) ?_
    rfl

end Breero.Payments
