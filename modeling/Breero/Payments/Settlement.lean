import Breero.Payments.Targets
import Breero.Payments.Refunds

/-!
How often a payment settles: by the command that captures it, and by every event
that reports its success.

* `settled_at_most_once`: in the runs in which no success is reported again of a
  payment whose booking or lead is settled, a payment is announced once and its
  target settled once;
* `repeated_success_announced_twice` is a run in which one is.
-/

namespace Breero.Payments
open KeyedTable Transaction Leads Runs

/-! ## Settling -/

/-- No payment was announced as captured twice. -/
def CapturedOnce (w : World) : Prop := ∀ paymentId, capturedCount w.db paymentId ≤ 1

/-- The step closes the row `i` of a table. -/
def closes {α : Type} [Keyed α Uuid] (settings : Settings) (table : World → Table α)
    (closed : α → Prop) [DecidablePred closed] (i : Uuid) (w : World) (op : Op) : Bool :=
  decide (∃ a ∈ (table w).get? i, ¬ closed a) &&
    decide (∃ b ∈ (table (exec settings w op)).get? i, closed b)

/-- The booking stops waiting for its payment. -/
def settlesBooking (settings : Settings) : Uuid → World → Op → Bool :=
  closes settings (fun w => w.db.bookings) (fun b => b.status ≠ .pendingPayment)

def settlesQuote (settings : Settings) : Uuid → World → Op → Bool :=
  closes settings (fun w => w.db.workRequests) (fun q => q.status ≠ .approvedPendingPayment)

def settlesLead (settings : Settings) : Uuid → World → Op → Bool :=
  closes settings (fun w => w.db.leads) (fun l => l.status = .purchased)

def settlesPurchase (settings : Settings) : Uuid → World → Op → Bool :=
  closes settings (fun w => w.db.leadPurchases) (fun p => p.status = .paid)

/-- The step reports no success of a payment that was announced before and whose
booking or lead would be settled again. -/
def SettlesOnce (w : World) (op : Op) : Prop :=
  ∀ p ∈ reportsSuccess w op, p.paymentPurpose ≠ .quoteAdditionalWork →
    SettledBefore w.db p → capturedCount w.db p.id = 0

instance (w : World) : DecidablePred (SettlesOnce w) :=
  fun op => inferInstanceAs (Decidable (∀ p ∈ reportsSuccess w op, _ → _))

/-! ## Steps -/

theorem Counts.mono {db db' : Db} {p : Payment} (h : Counts db db' p) (i : Uuid) :
    capturedCount db i ≤ capturedCount db' i := by
  rw [h i]
  omega

/-- Events are only added. -/
theorem RowStep.countMono {w : World} {op : Op} {db' : Db} (hstep : RowStep w op db') (i : Uuid) :
    capturedCount w.db i ≤ capturedCount db' i := by
  rcases hstep.counts with hnothing | ⟨p, _, _, hcounts, _⟩
  · exact le_of_eq (hnothing i).symm
  · exact hcounts.mono i

/-- An open target belongs to a payment that was not announced. -/
theorem CapturedTargets.count_eq_zero {db : Db} (h : CapturedTargets db) {p : Payment}
    (hp : p ∈ db.payments.rows) (hopen : ¬ TargetSettled db p) : capturedCount db p.id = 0 := by
  by_contra hne
  obtain ⟨q, hq, hid, hsettled⟩ := h p.id (Nat.pos_of_ne_zero hne)
  have hsame : q = p := Table.eq_of_key hq hp hid
  exact hopen (hsame ▸ hsettled)

/-- A step announces a payment for the first time only. -/
theorem RowStep.counts_first {w : World} {op : Op} {db' : Db} (hstep : RowStep w op db')
    (h : CapturedTargets w.db) (honce : SettlesOnce w op) :
    NothingCaptured w.db db' ∨ ∃ p ∈ w.db.payments.rows,
      capturedCount w.db p.id = 0 ∧ Counts w.db db' p := by
  rcases hstep.counts with hnothing | ⟨p, hreports, hp, hcounts, _, hopen | ⟨hbefore, hpurpose⟩⟩
  · exact Or.inl hnothing
  · exact Or.inr ⟨p, hp, h.count_eq_zero hp hopen, hcounts⟩
  · exact Or.inr ⟨p, hp, honce p hreports hpurpose hbefore, hcounts⟩

theorem RowStep.capturedOnce {w : World} {op : Op} {db' : Db} (hstep : RowStep w op db')
    (h : CapturedTargets w.db) (honce : SettlesOnce w op)
    (hcount : ∀ i, capturedCount w.db i ≤ 1) (i : Uuid) : capturedCount db' i ≤ 1 := by
  rcases hstep.counts_first h honce with hnothing | ⟨p, _, hzero, hcounts⟩
  · rw [hnothing]
    exact hcount i
  · rw [hcounts i]
    by_cases hid : p.id = i
    · rw [if_pos hid, ← hid, hzero]
    · rw [if_neg hid]
      exact hcount i

/-- Every paid purchase was paid before. -/
def NoPurchasePaid (t u : Table LeadPurchase) : Prop :=
  ∀ i b, u.get? i = some b → b.status = .paid → ∃ a, t.get? i = some a ∧ a.status = .paid

theorem NoPurchasePaid.same {t u : Table LeadPurchase} (h : u = t) : NoPurchasePaid t u :=
  fun _ b hb hpaid => ⟨b, h ▸ hb, hpaid⟩

theorem NoPurchasePaid.put {t : Table LeadPurchase} {purchase : LeadPurchase}
    (hne : purchase.status ≠ .paid) : NoPurchasePaid t (t.put purchase) := by
  intro i b hb hpaid
  rcases Table.get?_put_some hb with ⟨rfl, _⟩ | ⟨_, hold⟩
  · exact absurd hpaid hne
  · exact ⟨b, hold, hpaid⟩

theorem releaseFailedLeadPurchase_noPurchasePaid (db : Db) (q : Payment) :
    NoPurchasePaid db.leadPurchases (releaseFailedLeadPurchase db q).leadPurchases := by
  rcases releaseFailedLeadPurchase_cases db q with heq | ⟨purchase, _, _, _, _, heq⟩
  · exact .same (by rw [heq])
  · rw [heq]
    exact .put (by simp)

theorem markLeadPurchaseRefunded_noPurchasePaid (db : Db) (q : Payment) :
    NoPurchasePaid db.leadPurchases (markLeadPurchaseRefunded db q).leadPurchases := by
  rcases markLeadPurchaseRefunded_cases db q with heq | ⟨purchase, _, heq⟩
  · exact .same (by rw [heq])
  · rw [heq]
    exact .put (by simp)

/-- Only a settled payment of the purchase makes it paid. -/
theorem RowStep.paysPurchase {w : World} {op : Op} {db' : Db} (hstep : RowStep w op db')
    {i : Uuid} {a b : LeadPurchase} (ha : w.db.leadPurchases.get? i = some a)
    (hopen : a.status ≠ .paid) (hb : db'.leadPurchases.get? i = some b)
    (hpaid : b.status = .paid) :
    ∃ p ∈ w.db.payments.rows, p.leadPurchaseId = some i ∧ Counts w.db db' p := by
  have hnot : ¬ NoPurchasePaid w.db.leadPurchases db'.leadPurchases := by
    intro h
    obtain ⟨a', ha', hpaid'⟩ := h i b hb hpaid
    rw [ha] at ha'
    exact hopen (Option.some.inj ha' ▸ hpaid')
  cases hstep with
  | quiet payments targets => exact absurd (.same targets.leadPurchases) hnot
  | created p purpose valid status inserted targets =>
    exact absurd (.same targets.leadPurchases) hnot
  | purchased lead purchase found available fresh inserted leads payments bookings workRequests
      captured =>
    rw [Table.get?_insert_of_some inserted ha] at hb
    exact absurd (Option.some.inj hb ▸ hpaid) hopen
  | settled p q now after reports found refs status settlement rows =>
    rw [rows] at hb hnot ⊢
    cases settlement with
    | lead purchase lead purpose foundPurchase foundLead status =>
      obtain ⟨j, hj, hget⟩ := Option.bind_eq_some_iff.mp foundPurchase
      rcases Table.get?_put_some hb with ⟨_, hkey⟩ | ⟨_, hold⟩
      · have hij : j = i := (Table.key_of_get? hget).symm.trans hkey
        have hcounts : Counts w.db
            { w.db with outbox := w.db.outbox ++ [paymentCaptured q now] } q := .of_emit rfl
        refine ⟨p, Table.mem_of_get? found, hij ▸ refs.leadPurchaseId ▸ hj, fun k => ?_⟩
        exact refs.id ▸ hcounts k
      · rw [ha] at hold
        exact absurd (Option.some.inj hold ▸ hpaid) hopen
    | _ => exact absurd (.same rfl) hnot
  | released p q reports found refs status rows =>
    rw [rows] at hnot
    exact absurd (releaseFailedLeadPurchase_noPurchasePaid
      { w.db with payments := w.db.payments.put q } q) hnot
  | refunded p whole before found payments targets rows =>
    rw [rows, ← targets.leadPurchases] at hnot
    exact absurd (markLeadPurchaseRefunded_noPurchasePaid before _) hnot

/-! ## Runs -/

/-- Before any payment is made or announced. -/
def BeforePayments (w : World) : Prop :=
  w.db.payments.rows = [] ∧ ∀ event ∈ w.db.outbox, event.eventType ≠ "payment_captured"

instance : DecidablePred BeforePayments := fun _ => inferInstanceAs (Decidable (_ ∧ _))

theorem BeforePayments.count_eq_zero {w : World} (h : BeforePayments w) (i : Uuid) :
    capturedCount w.db i = 0 := by
  rw [capturedCount, List.countP_eq_zero]
  intro event hevent
  simp [isCaptured, h.2 event hevent]

/-- The invariant of every run, whatever the provider reports. -/
def PaymentInv (w : World) : Prop := PaymentRefs w.db ∧ CapturedTargets w.db

theorem BeforePayments.paymentInv {w : World} (h : BeforePayments w) : PaymentInv w := by
  refine ⟨⟨?_, ?_, ?_⟩, fun i hi => ?_⟩
  · simp [h.1]
  · simp [h.1]
  · simp [h.1]
  · rw [h.count_eq_zero] at hi
    omega

theorem PaymentInv.step (settings : Settings) {w : World} {op : Op} (h : PaymentInv w) :
    PaymentInv (exec settings w op) :=
  ⟨(exec_rowStep settings w op).paymentRefs h.1, (exec_rowStep settings w op).capturedTargets h.2⟩

theorem closes_rows {α : Type} [Keyed α Uuid] {settings : Settings} {table : World → Table α}
    {closed : α → Prop} [DecidablePred closed] {i : Uuid} {w : World} {op : Op}
    (h : closes settings table closed i w op = true) :
    ∃ a b, (table w).get? i = some a ∧ ¬ closed a ∧
      (table (exec settings w op)).get? i = some b ∧ closed b := by
  simp only [closes, Bool.and_eq_true, decide_eq_true_eq] at h
  obtain ⟨⟨a, ha, hopen⟩, b, hb, hclosed⟩ := h
  exact ⟨a, b, ha, hopen, hb, hclosed⟩

/-- A row that no step opens again is closed at most once. -/
theorem closes_le_one {α : Type} [Keyed α Uuid] {settings : Settings} {table : World → Table α}
    {closed : α → Prop} [DecidablePred closed]
    (hkept : ∀ w op, Table.Kept (fun a b => closed a → closed b) (table w)
      (table (exec settings w op)))
    {P : World → Op → Prop} {w : World} {ops : List Op} (h : Along (exec settings) P w ops)
    (i : Uuid) : countSteps (exec settings) (closes settings table closed i) w ops ≤ 1 := by
  refine countSteps_le_one (I := fun _ => True) (L := fun w => ∃ a, (table w).get? i = some a ∧
    closed a) (fun _ _ _ _ => trivial) (fun w op _ _ hcloses => ?_) (fun w op _ _ hcloses => ?_)
    (fun w op _ _ hclosed => ?_) trivial h
  · rintro ⟨a', ha', hclosed⟩
    obtain ⟨a, _, ha, hopen, _⟩ := closes_rows hcloses
    rw [ha] at ha'
    exact hopen (Option.some.inj ha' ▸ hclosed)
  · obtain ⟨_, b, _, _, hb, hclosed⟩ := closes_rows hcloses
    exact ⟨b, hb, hclosed⟩
  · obtain ⟨a, ha, hclosed⟩ := hclosed
    obtain ⟨b, hb, hkeeps⟩ := (hkept w op).get? ha
    exact ⟨b, hb, hkeeps hclosed⟩

/-- The purchase has a payment that was announced. -/
def PurchaseAnnounced (i : Uuid) (w : World) : Prop :=
  ∃ p ∈ w.db.payments.rows, p.leadPurchaseId = some i ∧ 0 < capturedCount w.db p.id

theorem PurchaseAnnounced.step (settings : Settings) {i : Uuid} {w : World} {op : Op}
    (h : PurchaseAnnounced i w) : PurchaseAnnounced i (exec settings w op) := by
  obtain ⟨p, hp, hi, hcount⟩ := h
  have hstep := exec_rowStep settings w op
  obtain ⟨q, hq, hrefs⟩ := hstep.targetsKept.payments p hp
  refine ⟨q, Table.mem_of_get? hq, hrefs.leadPurchaseId.trans hi, ?_⟩
  rw [hrefs.id]
  exact lt_of_lt_of_le hcount (hstep.countMono p.id)

theorem settlesPurchase_le_one {settings : Settings} {w : World} {ops : List Op}
    (hinv : PaymentInv w) (h : Along (exec settings) SettlesOnce w ops) (i : Uuid) :
    countSteps (exec settings) (settlesPurchase settings i) w ops ≤ 1 := by
  have hpays : ∀ w op, settlesPurchase settings i w op = true → ∃ p ∈ w.db.payments.rows,
      p.leadPurchaseId = some i ∧ Counts w.db (exec settings w op).db p := by
    intro w op hcloses
    obtain ⟨a, b, ha, hopen, hb, hpaid⟩ := closes_rows hcloses
    exact (exec_rowStep settings w op).paysPurchase ha hopen hb hpaid
  refine countSteps_le_one (I := PaymentInv) (L := PurchaseAnnounced i)
    (fun w op hinv _ => hinv.step settings) (fun w op hinv honce hcloses => ?_)
    (fun w op _ _ hcloses => ?_) (fun w op _ _ => PurchaseAnnounced.step settings) hinv h
  · rintro ⟨p, hp, hpi, hcount⟩
    obtain ⟨q, hq, hqi, hcounts⟩ := hpays w op hcloses
    have hsame : p = q := hinv.1.onePayment p hp q hq (hpi.trans hqi.symm) (by simp [hpi])
    subst hsame
    -- the step announces `p`, so it was not announced before
    rcases (exec_rowStep settings w op).counts_first hinv.2 honce with
      hnothing | ⟨r, _, hzero, hcounts'⟩
    · have heq := hcounts p.id
      rw [hnothing, if_pos rfl] at heq
      omega
    · have heq := hcounts p.id
      rw [hcounts' p.id, if_pos rfl] at heq
      by_cases hid : r.id = p.id
      · rw [hid] at hzero
        omega
      · rw [if_neg hid] at heq
        omega
  · obtain ⟨p, hp, hpi, hcounts⟩ := hpays w op hcloses
    obtain ⟨q, hq, hrefs⟩ := (exec_rowStep settings w op).targetsKept.payments p hp
    refine ⟨q, Table.mem_of_get? hq, hrefs.leadPurchaseId.trans hpi, ?_⟩
    rw [hrefs.id, hcounts p.id, if_pos rfl]
    omega

/-- In the runs that report no success again of a payment announced before, every
payment is announced at most once and every target settled at most once. -/
theorem settled_at_most_once (settings : Settings) (w : World) (ops : List Op)
    (hstart : BeforePayments w) (honce : Along (exec settings) SettlesOnce w ops) :
    Always (exec settings) CapturedOnce w ops ∧ ∀ i,
      countSteps (exec settings) (settlesBooking settings i) w ops ≤ 1 ∧
      countSteps (exec settings) (settlesQuote settings i) w ops ≤ 1 ∧
      countSteps (exec settings) (settlesLead settings i) w ops ≤ 1 ∧
      countSteps (exec settings) (settlesPurchase settings i) w ops ≤ 1 := by
  have hkept := fun w op => (exec_rowStep settings w op).targetsKept
  constructor
  · refine Always.imp (fun _ h => h.2) (always_of_inv
      (I := fun w => PaymentInv w ∧ CapturedOnce w) (fun w op hinv hstep => ?_) ?_ honce)
    · exact ⟨hinv.1.step settings,
        (exec_rowStep settings w op).capturedOnce hinv.1.2 hstep hinv.2⟩
    · refine ⟨hstart.paymentInv, fun i => ?_⟩
      rw [hstart.count_eq_zero]
      omega
  · intro i
    exact ⟨closes_le_one (fun w op => (hkept w op).bookings) honce i,
      closes_le_one (fun w op => (hkept w op).workRequests) honce i,
      closes_le_one (fun w op => (hkept w op).leads) honce i,
      settlesPurchase_le_one hstart.paymentInv honce i⟩

theorem visit_settled_once :
    Always (exec sampleSettings) CapturedOnce visitWorld visitPaid ∧ ∀ i,
      countSteps (exec sampleSettings) (settlesBooking sampleSettings i) visitWorld visitPaid ≤ 1 ∧
      countSteps (exec sampleSettings) (settlesQuote sampleSettings i) visitWorld visitPaid ≤ 1 ∧
      countSteps (exec sampleSettings) (settlesLead sampleSettings i) visitWorld visitPaid ≤ 1 ∧
      countSteps (exec sampleSettings) (settlesPurchase sampleSettings i) visitWorld
        visitPaid ≤ 1 :=
  settled_at_most_once _ _ _ (by decide) (by decide)

/-- A second event reports the success of the visit's payment. -/
def repeatedSuccess : List Op :=
  visitPaid ++
    [.deliver (intentEvent "evt_3" "payment_intent.succeeded" "pi_1" "succeeded" 10000) none 1 21]

/-- A truthful run that announces one payment twice. -/
theorem repeated_success_announced_twice :
    Along (exec sampleSettings) Truthful visitWorld repeatedSuccess ∧
      ¬ Always (exec sampleSettings) CapturedOnce visitWorld repeatedSuccess := by
  refine ⟨by decide, fun h => ?_⟩
  have htwice : capturedCount (run (exec sampleSettings) visitWorld repeatedSuccess).db 10 = 2 := by
    decide
  have honce := h _ (run_mem_states visitWorld repeatedSuccess) 10
  omega

end Breero.Payments
