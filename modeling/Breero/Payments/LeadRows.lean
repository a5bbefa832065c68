import Breero.Payments.Targets

/-!
The rows of a lead, its purchase and its payment, which three operations and two
services write.

* `LeadRows` is the invariant of every truthful run: a lead has one purchase, a taken
  lead its vendor, and a captured payment a paid purchase of a purchased lead;
* `RowStep.leadRows`: every truthful step keeps it, whatever it reports.
-/

namespace Breero.Payments
open KeyedTable Transaction Leads Runs

/-! ## The invariant -/

def Taken (lead : ProfessionalLead) : Prop := lead.status = .reserved ∨ lead.status = .purchased

/-- The purchase `i` is paid, and its lead purchased. -/
def PaidPurchase (db : Db) (i : Uuid) : Prop :=
  ∃ purchase lead, db.leadPurchases.get? i = some purchase ∧ purchase.status = .paid ∧
    db.leads.get? purchase.leadId = some lead ∧ lead.status = .purchased

/-- What is true of leads, purchases and payments next to their references. -/
structure LeadRows (db : Db) : Prop where
  onePurchase : ∀ a ∈ db.leadPurchases.rows, ∀ b ∈ db.leadPurchases.rows,
    a.leadId = b.leadId → a = b
  vendorOf : ∀ a ∈ db.leadPurchases.rows, ∀ lead, db.leads.get? a.leadId = some lead →
    Taken lead → lead.purchasedByVendorId = some a.vendorId
  paid : ∀ p ∈ db.payments.rows, p.status = .captured → ∀ i, p.leadPurchaseId = some i →
    PaidPurchase db i

/-- No lead was taken, and the taken ones still are the same vendor's. -/
def NoLeadTaken (t u : Table ProfessionalLead) : Prop :=
  ∀ i lead', u.get? i = some lead' → Taken lead' →
    ∃ lead, t.get? i = some lead ∧ Taken lead ∧
      lead'.purchasedByVendorId = lead.purchasedByVendorId

theorem NoLeadTaken.refl (t : Table ProfessionalLead) : NoLeadTaken t t :=
  fun _ lead hget htaken => ⟨lead, hget, htaken, rfl⟩

/-- A lead put back, with its vendor if it stays taken. -/
theorem NoLeadTaken.put {t : Table ProfessionalLead} {lead lead' : ProfessionalLead}
    (hget : t.get? lead.id = some lead) (hid : lead'.id = lead.id)
    (htaken : Taken lead' → Taken lead ∧ lead'.purchasedByVendorId = lead.purchasedByVendorId) :
    NoLeadTaken t (t.put lead') := by
  intro i found hfound hfoundTaken
  rcases Table.get?_put_some hfound with ⟨rfl, hkey⟩ | ⟨_, hold⟩
  · have hi : lead.id = i := hid.symm.trans hkey
    exact ⟨lead, hi ▸ hget, htaken hfoundTaken⟩
  · exact ⟨found, hold, hfoundTaken, rfl⟩

/-- Every purchase of `u` is one of `t`, with another status at most. -/
def PurchasesFrom (t u : Table LeadPurchase) : Prop :=
  ∀ b ∈ u.rows, ∃ a ∈ t.rows, SamePurchase a b

theorem PurchasesFrom.refl (t : Table LeadPurchase) : PurchasesFrom t t :=
  fun b hb => ⟨b, hb, samePurchase_refl b⟩

theorem PurchasesFrom.put {t : Table LeadPurchase} {purchase : LeadPurchase}
    (status : LeadPurchaseStatus) (hmem : purchase ∈ t.rows) :
    PurchasesFrom t (t.put { purchase with status }) := by
  intro b hb
  rcases Table.mem_put.mp hb with ⟨rfl, _⟩ | ⟨hb, _⟩
  · exact ⟨purchase, hmem, rfl, rfl, rfl⟩
  · exact ⟨b, hb, samePurchase_refl b⟩

/-- The invariant after a step that adds no purchase. -/
theorem LeadRows.update {db db' : Db} (h : LeadRows db)
    (hpurchases : PurchasesFrom db.leadPurchases db'.leadPurchases)
    (hleads : NoLeadTaken db.leads db'.leads)
    (hpaid : ∀ q ∈ db'.payments.rows, q.status = .captured →
      ∀ i, q.leadPurchaseId = some i → PaidPurchase db' i) : LeadRows db' where
  onePurchase b hb b' hb' heq := by
    obtain ⟨a, ha, hid, hlead, _⟩ := hpurchases b hb
    obtain ⟨a', ha', hid', hlead', _⟩ := hpurchases b' hb'
    have hsame := h.onePurchase a ha a' ha' (hlead ▸ hlead' ▸ heq)
    exact Table.eq_of_key hb hb' (hid.trans (hsame ▸ hid'.symm))
  vendorOf b hb lead' hlead' htaken := by
    obtain ⟨a, ha, _, hlead, hvendor⟩ := hpurchases b hb
    obtain ⟨lead, hget, hold, hsame⟩ := hleads _ lead' hlead' htaken
    rw [hsame, hvendor]
    exact h.vendorOf a ha lead (hlead ▸ hget) hold
  paid := hpaid

/-- A payment that shares its purchase with `p` is `p`, rewritten or not. -/
theorem PaymentRefs.put_other {db : Db} (h : PaymentRefs db) {p q r : Payment} {i : Uuid}
    (hp : db.payments.get? p.id = some p) (hrefs : SameRefs p q)
    (hq : q.leadPurchaseId = some i) (hr : r ∈ (db.payments.put q).rows)
    (hri : r.leadPurchaseId = some i) : r = q := by
  rcases Table.mem_put.mp hr with ⟨rfl, _⟩ | ⟨hmem, hne⟩
  · rfl
  · have hpi : p.leadPurchaseId = some i := hrefs.leadPurchaseId ▸ hq
    have hsame := h.onePayment r hmem p (Table.mem_of_get? hp) (hri.trans hpi.symm)
      (by rw [hri]; simp)
    exact absurd (congrArg Payment.id hsame) (hrefs.id ▸ hne)

theorem PaidPurchase.of_same {db db' : Db} {i : Uuid} (h : PaidPurchase db i)
    (hpurchases : db'.leadPurchases = db.leadPurchases) (hleads : db'.leads = db.leads) :
    PaidPurchase db' i := by
  obtain ⟨purchase, lead, hpurchase, hpaid, hlead, hstatus⟩ := h
  exact ⟨purchase, lead, hpurchases ▸ hpurchase, hpaid, hleads ▸ hlead, hstatus⟩

/-- A step on payments alone. -/
theorem LeadRows.rewrite {db db' : Db} (h : LeadRows db)
    (hpayments : ∀ q ∈ db'.payments.rows, ∃ p ∈ db.payments.rows, SameRefs p q ∧
      (q.status = .captured → p.status = .captured))
    (hpurchases : db'.leadPurchases = db.leadPurchases) (hleads : db'.leads = db.leads) :
    LeadRows db' := by
  refine h.update (hpurchases ▸ .refl _) (hleads ▸ .refl _) (fun q hq hcaptured i hi => ?_)
  obtain ⟨p, hp, hrefs, hstatus⟩ := hpayments q hq
  exact (h.paid p hp (hstatus hcaptured) i (hrefs.leadPurchaseId ▸ hi)).of_same hpurchases hleads

theorem LeadRows.settle {db after : Db} {p q : Payment} {now : Instant} (h : LeadRows db)
    (hpayments : PaymentRefs db) (hp : db.payments.get? p.id = some p) (hrefs : SameRefs p q)
    (hsettlement : Settlement { db with payments := db.payments.put q } q now after) :
    LeadRows after := by
  have hpmem := Table.mem_of_get? hp
  have hqvalid := hrefs.validReference (hpayments.valid p hpmem)
  -- the captured payments other than `q` were captured before
  have hother : ∀ r ∈ (db.payments.put q).rows, r.status = .captured →
      r = q ∨ (r ∈ db.payments.rows ∧ r.status = .captured) := by
    intro r hr hcaptured
    rcases Table.mem_put.mp hr with ⟨rfl, _⟩ | ⟨hr, _⟩
    · exact Or.inl rfl
    · exact Or.inr ⟨hr, hcaptured⟩
  have hnone : q.paymentPurpose ≠ .professionalLead →
      ∀ r ∈ (db.payments.put q).rows, r.status = .captured →
      ∀ i, r.leadPurchaseId = some i → PaidPurchase db i := by
    intro hpurpose r hr hcaptured i hi
    rcases hother r hr hcaptured with rfl | ⟨hr, hold⟩
    · rw [no_leadPurchase hqvalid hpurpose] at hi
      cases hi
    · exact h.paid r hr hold i hi
  cases hsettlement with
  | lead purchase lead purpose found foundLead status =>
    obtain ⟨i, hi, hget⟩ := Option.bind_eq_some_iff.mp found
    have hleadId : lead.id = purchase.leadId := Table.key_of_get? foundLead
    have hpurchaseId : purchase.id = i := Table.key_of_get? hget
    have hnoLead : NoLeadTaken db.leads (db.leads.put { lead with status := .purchased }) :=
      .put (Table.get?_found foundLead) rfl fun _ => ⟨status, rfl⟩
    refine h.update (.put _ (Table.mem_of_get? hget)) hnoLead
      (fun r hr hcaptured j hj => ?_)
    rcases hother r hr hcaptured with rfl | ⟨hr, hold⟩
    · have hij : i = j := Option.some.inj (hi.symm.trans hj)
      subst hij
      exact ⟨_, _, Table.get?_put_self hget hpurchaseId, rfl,
        Table.get?_put_self foundLead hleadId, rfl⟩
    · obtain ⟨paid, purchased, hpaid, hpaidStatus, hpurchased, hstatus⟩ := h.paid r hr hold j hj
      obtain ⟨paid', hpaid', hcase⟩ :=
        Table.get?_put_of_some (a := { purchase with status := .paid }) hpaid
      obtain ⟨lead', hlead', hleadCase⟩ :=
        Table.get?_put_of_some (a := { lead with status := .purchased }) hpurchased
      have hpaidLead : paid'.status = .paid ∧ paid'.leadId = paid.leadId := by
        rcases hcase with rfl | rfl
        · have hkey : purchase.id = j := Table.key_of_get? hpaid'
          have hsame : purchase = paid := Option.some.inj ((hkey ▸ hpurchaseId ▸ hget).symm.trans
            hpaid)
          exact ⟨rfl, by rw [← hsame]⟩
        · exact ⟨hpaidStatus, rfl⟩
      refine ⟨paid', lead', hpaid', hpaidLead.1, ?_, ?_⟩
      · rw [hpaidLead.2]
        exact hlead'
      · rcases hleadCase with rfl | rfl
        · rfl
        · exact hstatus
  | quoteAgain quote purpose found status =>
    exact h.update (.refl _) (.refl _)
      (hnone (by rw [purpose]; simp))
  | quote quote jobs jobEvents purpose found status =>
    refine h.update (.refl _) (.refl _) fun r hr hc i hi => ?_
    exact (hnone (by rw [purpose]; simp) r hr hc i hi).of_same rfl rfl
  | bookingAgain booking purpose found status =>
    refine h.update (.refl _) (.refl _) fun r hr hc i hi => ?_
    exact (hnone (by rw [purpose]; simp) r hr hc i hi).of_same rfl rfl
  | booking booking jobs jobEvents created purpose found status createdOnly =>
    refine h.update (.refl _) (.refl _) fun r hr hc i hi => ?_
    exact (hnone (by rw [purpose]; simp) r hr hc i hi).of_same rfl rfl

theorem LeadRows.of_rows {db db' : Db} (h : LeadRows db) (hpayments : db'.payments = db.payments)
    (hpurchases : db'.leadPurchases = db.leadPurchases) (hleads : db'.leads = db.leads) :
    LeadRows db' :=
  h.rewrite (fun q hq => ⟨q, hpayments ▸ hq, .refl q, fun hstatus => hstatus⟩) hpurchases hleads

/-- A new payment that is not captured. -/
theorem LeadRows.add_payment {db db' : Db} {p : Payment} (h : LeadRows db)
    (hinsert : db.payments.insert? p = some db'.payments) (hstatus : p.status ≠ .captured)
    (hpurchases : db'.leadPurchases = db.leadPurchases) (hleads : db'.leads = db.leads) :
    LeadRows db' := by
  refine h.update (hpurchases ▸ .refl _) (hleads ▸ .refl _) (fun q hq hcaptured i hi => ?_)
  rcases (Table.mem_insert hinsert).mp hq with hq | rfl
  · exact (h.paid q hq hcaptured i hi).of_same hpurchases hleads
  · exact absurd hcaptured hstatus

/-- An available lead is reserved by a new purchase. -/
theorem LeadRows.reserve {db db' : Db} {lead : ProfessionalLead} {purchase : LeadPurchase}
    (h : LeadRows db) (hlead : db.leads.get? purchase.leadId = some lead)
    (hfresh : ∀ other ∈ db.leadPurchases.rows, other.leadId ≠ purchase.leadId)
    (hinsert : db.leadPurchases.insert? purchase = some db'.leadPurchases)
    (hleads : db'.leads = db.leads.put
      { lead with status := .reserved, purchasedByVendorId := some purchase.vendorId })
    (hpayments : db'.payments = db.payments) : LeadRows db' := by
  have hleadId : lead.id = purchase.leadId := Table.key_of_get? hlead
  refine ⟨?_, ?_, ?_⟩
  · intro a ha b hb heq
    rcases (Table.mem_insert hinsert).mp ha with ha | rfl <;>
      rcases (Table.mem_insert hinsert).mp hb with hb | rfl
    · exact h.onePurchase a ha b hb heq
    · exact absurd heq (hfresh a ha)
    · exact absurd heq.symm (hfresh b hb)
    · rfl
  · intro a ha lead' hget htaken
    rw [hleads] at hget
    rcases Table.get?_put_some hget with ⟨rfl, hkey⟩ | ⟨hne, hget⟩
    · rcases (Table.mem_insert hinsert).mp ha with ha | rfl
      · exact absurd (hkey.symm.trans hleadId) (hfresh a ha)
      · rfl
    · rcases (Table.mem_insert hinsert).mp ha with ha | rfl
      · exact h.vendorOf a ha lead' hget htaken
      · exact absurd hleadId hne
  · intro p hp hcaptured i hi
    obtain ⟨paid, purchased, hpaid, hpaidStatus, hpurchased, hstatus⟩ :=
      h.paid p (hpayments ▸ hp) hcaptured i hi
    refine ⟨paid, purchased, Table.get?_insert_of_some hinsert hpaid, hpaidStatus, ?_, hstatus⟩
    have hne : lead.id ≠ paid.leadId :=
      fun heq => hfresh paid (Table.mem_of_get? hpaid) (heq.symm.trans hleadId)
    rw [hleads, Table.get?_put_ne hne]
    exact hpurchased

/-- A paid purchase other than the one rewritten is still paid. -/
theorem PaidPurchase.put_other {db : Db} {i : Uuid} {purchase : LeadPurchase}
    (h : PaidPurchase db i) (hne : purchase.id ≠ i) {leads : Table ProfessionalLead}
    (hleads : ∀ j lead, db.leads.get? j = some lead → lead.status = .purchased →
      leads.get? j = some lead) :
    PaidPurchase { db with leadPurchases := db.leadPurchases.put purchase, leads } i := by
  obtain ⟨paid, lead, hpaid, hpaidStatus, hlead, hstatus⟩ := h
  refine ⟨paid, lead, ?_, hpaidStatus, hleads _ lead hlead hstatus, hstatus⟩
  rw [← hpaid]
  exact Table.get?_put_ne hne

theorem LeadRows.release {db : Db} {p q : Payment} (h : LeadRows db) (hpayments : PaymentRefs db)
    (hp : db.payments.get? p.id = some p) (hrefs : SameRefs p q) (hq : q.status ≠ .captured) :
    LeadRows (releaseFailedLeadPurchase { db with payments := db.payments.put q } q) := by
  have hput : LeadRows { db with payments := db.payments.put q } :=
    h.rewrite (Rewritten.origin (Or.inr ⟨p, q, hp, hrefs, fun hc => absurd hc hq, rfl⟩)) rfl rfl
  rcases releaseFailedLeadPurchase_cases { db with payments := db.payments.put q } q with
    heq | ⟨purchase, leads, _, found, hleads, heq⟩
  · rw [heq]
    exact hput
  · rw [heq]
    obtain ⟨i, hi, hget⟩ := Option.bind_eq_some_iff.mp found
    have hpurchaseId : purchase.id = i := Table.key_of_get? hget
    have hnotTaken : NoLeadTaken db.leads leads := by
      rcases hleads with rfl | ⟨lead, hlead, _, rfl⟩
      · exact .refl _
      · refine .put (Table.get?_found hlead) rfl fun htaken => ?_
        rcases htaken with htaken | htaken <;> cases htaken
    have hpurchased : ∀ j lead, db.leads.get? j = some lead → lead.status = .purchased →
        leads.get? j = some lead := by
      intro j lead hj hstatus
      rcases hleads with rfl | ⟨reserved, hreserved, hreservedStatus, rfl⟩
      · exact hj
      · rw [← hj]
        refine Table.get?_put_ne fun hkey => ?_
        have hsame : reserved = lead := Option.some.inj
          ((Table.get?_found hreserved).symm.trans ((show key reserved = j from hkey) ▸ hj))
        rw [hsame, hstatus] at hreservedStatus
        cases hreservedStatus
    refine hput.update (.put _ (Table.mem_of_get? hget)) hnotTaken (fun r hr hcaptured j hj => ?_)
    refine (hput.paid r hr hcaptured j hj).put_other (fun hkey => ?_) hpurchased
    have hij : i = j := hpurchaseId.symm.trans hkey
    have hrq : r = q := hpayments.put_other hp hrefs hi hr (hij ▸ hj)
    exact hq (hrq ▸ hcaptured)

theorem LeadRows.refunded {db before : Db} {p : Payment} {whole : Bool} (h : LeadRows db)
    (hpaymentRefs : PaymentRefs db) (hp : db.payments.get? p.id = some p)
    (hpayments : before.payments = db.payments.put (refundedPayment p whole))
    (hpurchases : before.leadPurchases = db.leadPurchases) (hleads : before.leads = db.leads) :
    LeadRows (markLeadPurchaseRefunded before (refundedPayment p whole)) := by
  have hrefs : SameRefs p (refundedPayment p whole) := ⟨rfl, rfl, rfl, rfl, rfl⟩
  have hnot : (refundedPayment p whole).status ≠ .captured := by
    cases whole <;> simp [refundedPayment]
  have hput : LeadRows before :=
    h.rewrite (Rewritten.origin (Or.inr ⟨p, _, hp, hrefs, fun hc => absurd hc hnot, hpayments⟩))
      hpurchases hleads
  rcases markLeadPurchaseRefunded_cases before (refundedPayment p whole) with
    heq | ⟨purchase, found, heq⟩
  · rw [heq]
    exact hput
  · rw [heq]
    obtain ⟨i, hi, hget⟩ := Option.bind_eq_some_iff.mp found
    have hpurchaseId : purchase.id = i := Table.key_of_get? hget
    refine hput.update (.put _ (Table.mem_of_get? hget)) (.refl _) (fun r hr hcaptured j hj => ?_)
    refine (hput.paid r hr hcaptured j hj).put_other (fun hkey => ?_) fun _ _ hlead _ => hlead
    have hij : i = j := hpurchaseId.symm.trans hkey
    have hrq : r = refundedPayment p whole :=
      hpaymentRefs.put_other hp hrefs hi (hpayments ▸ hr) (hij ▸ hj)
    exact hnot (hrq ▸ hcaptured)

/-- Every truthful step keeps the invariant. -/
theorem RowStep.leadRows {w : World} {op : Op} {db' : Db} (hstep : RowStep w op db')
    (hpayments : PaymentRefs w.db) (h : LeadRows w.db) (htruth : Truthful w op) :
    LeadRows db' := by
  cases hstep with
  | quiet payments targets =>
    exact h.rewrite payments.origin targets.leadPurchases targets.leads
  | created p purpose valid status inserted targets =>
    exact h.add_payment inserted (status htruth) targets.leadPurchases targets.leads
  | purchased lead purchase found available fresh inserted leads payments bookings workRequests
      captured =>
    have hreserved : LeadRows { db' with payments := w.db.payments } :=
      h.reserve found fresh inserted leads rfl
    rcases payments with ⟨_, hsame⟩ | ⟨p, hi, _, valid, status, hinsert⟩
    · exact hreserved.of_rows hsame rfl rfl
    · exact hreserved.add_payment hinsert (status htruth) rfl rfl
  | settled p q now after reports found refs status settlement rows =>
    rw [rows]
    exact (h.settle hpayments found refs settlement).of_rows rfl rfl rfl
  | released p q reports found refs status rows =>
    rw [rows]
    exact (h.release hpayments found refs status).of_rows rfl rfl rfl
  | refunded p whole before found payments targets rows =>
    rw [rows]
    exact (h.refunded hpayments found payments targets.leadPurchases targets.leads).of_rows
      rfl rfl rfl

end Breero.Payments
