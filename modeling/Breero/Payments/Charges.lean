import Breero.Payments.Settlement

/-!
How many payments of one booking or quote are captured.

* `Charged` is the invariant: a captured payment was announced, and no two payments of
  one target were;
* `charged_once`: in the truthful runs that report the success of a payment of a settled
  target only if it is the payment that settled it, one target is charged once;
* `second_intent_charged` is a run in which two intents of one booking succeed.
-/

namespace Breero.Payments
open KeyedTable Transaction Leads Runs

/-- Both payments pay for the same booking or the same quote. -/
def SameTarget (p q : Payment) : Prop :=
  (p.bookingId = q.bookingId ∧ p.bookingId ≠ none) ∨ (p.quoteId = q.quoteId ∧ p.quoteId ≠ none)

/-- A payment captured in one state and a payment captured in the other are one
payment if they pay for the same booking or quote. -/
def ChargedOnce (w w' : World) : Prop :=
  ∀ p ∈ w.db.payments.rows, ∀ q ∈ w'.db.payments.rows, p.status = .captured →
    q.status = .captured → SameTarget p q → p.id = q.id

/-- The step reports the success of a payment of a settled booking or quote only if the
payment was announced before. -/
def ChargesOnce (w : World) (op : Op) : Prop :=
  ∀ p ∈ reportsSuccess w op, p.paymentPurpose ≠ .professionalLead →
    SettledBefore w.db p → 0 < capturedCount w.db p.id

instance (p q : Payment) : Decidable (SameTarget p q) := inferInstanceAs (Decidable (_ ∨ _))

instance : DecidableRel ChargedOnce := fun w w' =>
  inferInstanceAs (Decidable (∀ p ∈ w.db.payments.rows, ∀ q ∈ w'.db.payments.rows, _ → _))

instance (w : World) : DecidablePred (ChargesOnce w) :=
  fun op => inferInstanceAs (Decidable (∀ p ∈ reportsSuccess w op, _ → _))

/-! ## Targets -/

theorem SameTarget.symm {p q : Payment} (h : SameTarget p q) : SameTarget q p := by
  rcases h with ⟨heq, hne⟩ | ⟨heq, hne⟩
  · exact Or.inl ⟨heq.symm, heq ▸ hne⟩
  · exact Or.inr ⟨heq.symm, heq ▸ hne⟩

theorem SameTarget.of_refs {p q p' q' : Payment} (h : SameTarget p' q') (hp : SameRefs p p')
    (hq : SameRefs q q') : SameTarget p q := by
  unfold SameTarget at h ⊢
  rw [hp.bookingId, hq.bookingId, hp.quoteId, hq.quoteId] at h
  exact h

theorem SameTarget.not_lead {p q : Payment} (h : SameTarget p q) (hp : p.ValidReference) :
    p.paymentPurpose ≠ .professionalLead := by
  intro hpurpose
  unfold Payment.ValidReference at hp
  rw [hpurpose] at hp
  rcases h with ⟨_, hne⟩ | ⟨_, hne⟩
  · exact hne hp.1
  · exact hne hp.2.1

theorem SameTarget.settled {db : Db} {p q : Payment} (h : SameTarget p q) (hp : p.ValidReference)
    (hq : q.ValidReference) (hsettled : TargetSettled db p) : TargetSettled db q := by
  unfold Payment.ValidReference at hp hq
  unfold TargetSettled at hsettled ⊢
  rcases h with ⟨heq, hne⟩ | ⟨heq, hne⟩
  · -- a booking is paid by booking payments only
    cases hpp : p.paymentPurpose <;> cases hqp : q.paymentPurpose <;> simp_all
  · cases hpp : p.paymentPurpose <;> cases hqp : q.paymentPurpose <;> simp_all

/-! ## The invariant -/

structure Charged (w : World) : Prop where
  inv : PaymentInv w
  announced : ∀ p ∈ w.db.payments.rows, p.status = .captured →
    p.paymentPurpose ≠ .professionalLead → 0 < capturedCount w.db p.id
  oneAnnounced : ∀ p ∈ w.db.payments.rows, ∀ q ∈ w.db.payments.rows,
    0 < capturedCount w.db p.id → 0 < capturedCount w.db q.id → SameTarget p q → p.id = q.id

/-- The rows of a payment table after `p` was rewritten to `q`. -/
theorem rewritten_row {t : Table Payment} {p q r : Payment} (hp : t.get? p.id = some p)
    (hrefs : SameRefs p q) (hr : r ∈ (t.put q).rows) :
    (r = q ∧ p ∈ t.rows ∧ SameRefs p r) ∨ r ∈ t.rows := by
  rcases Table.mem_put.mp hr with ⟨rfl, _⟩ | ⟨hr, _⟩
  · exact Or.inl ⟨rfl, Table.mem_of_get? hp, hrefs⟩
  · exact Or.inr hr

/-- A captured payment of a booking or quote was captured before, was announced by this
step, or belongs to a target that was settled before. -/
theorem RowStep.captured_origin {w : World} {op : Op} {db' : Db} (hstep : RowStep w op db')
    (htruth : Truthful w op) {q : Payment} (hq : q ∈ db'.payments.rows)
    (hcaptured : q.status = .captured) (hpurpose : q.paymentPurpose ≠ .professionalLead) :
    ∃ p ∈ w.db.payments.rows, SameRefs p q ∧ (p.status = .captured ∨
      Counts w.db db' p ∨ (reportsSuccess w op = some p ∧ SettledBefore w.db p)) := by
  cases hstep with
  | quiet payments targets =>
    obtain ⟨p, hp, hrefs, hstatus⟩ := payments.origin q hq
    exact ⟨p, hp, hrefs, Or.inl (hstatus hcaptured)⟩
  | created p purpose valid status inserted targets =>
    rcases (Table.mem_insert inserted).mp hq with hq | rfl
    · exact ⟨q, hq, .refl q, Or.inl hcaptured⟩
    · exact absurd hcaptured (status htruth)
  | purchased lead purchase found available fresh inserted leads payments bookings workRequests
      captured =>
    rcases payments with ⟨_, hsame⟩ | ⟨p, _, purpose, _, _, hinsert⟩
    · exact ⟨q, hsame ▸ hq, .refl q, Or.inl hcaptured⟩
    · rcases (Table.mem_insert hinsert).mp hq with hq | rfl
      · exact ⟨q, hq, .refl q, Or.inl hcaptured⟩
      · exact absurd purpose hpurpose
  | settled p r now after reports found refs status settlement rows =>
    rw [rows] at hq ⊢
    dsimp only at hq
    rw [settlement.ledger.1] at hq
    rcases rewritten_row found refs hq with ⟨rfl, hp, hrefs⟩ | hq
    · refine ⟨p, hp, hrefs, Or.inr ?_⟩
      have hcounts : Counts { w.db with payments := w.db.payments.put q } after q →
          Counts w.db after p := fun h i => refs.id ▸ h i
      rcases settlement.counts with ⟨_, h⟩ | ⟨_, _, h⟩ | ⟨hbefore, _, _⟩
      · exact Or.inl (hcounts h)
      · exact Or.inl (hcounts h)
      · exact Or.inr ⟨reports, hbefore.of_refs refs⟩
    · exact ⟨q, hq, .refl q, Or.inl hcaptured⟩
  | released p r reports found refs status rows =>
    rw [rows, releaseFailedLeadPurchase_payments] at hq
    rcases rewritten_row found refs hq with ⟨rfl, _⟩ | hq
    · exact absurd hcaptured status
    · exact ⟨q, hq, .refl q, Or.inl hcaptured⟩
  | refunded p whole before found payments targets rows =>
    rw [rows, markLeadPurchaseRefunded_payments, payments] at hq
    have hrefs : SameRefs p (refundedPayment p whole) := ⟨rfl, rfl, rfl, rfl, rfl⟩
    rcases rewritten_row found hrefs hq with ⟨rfl, _⟩ | hq
    · cases whole <;> cases hcaptured
    · exact ⟨q, hq, .refl q, Or.inl hcaptured⟩

/-- An announced payment was announced before, or its success is reported now. -/
theorem RowStep.announced_origin {w : World} {op : Op} {db' : Db} (hstep : RowStep w op db')
    (h : CapturedTargets w.db) {q : Payment} (hq : q ∈ db'.payments.rows)
    (hcount : 0 < capturedCount db' q.id) :
    ∃ p ∈ w.db.payments.rows, SameRefs p q ∧ (0 < capturedCount w.db p.id ∨
      (reportsSuccess w op = some p ∧ (¬ TargetSettled w.db p ∨
        (SettledBefore w.db p ∧ p.paymentPurpose ≠ .quoteAdditionalWork)))) := by
  -- the rows before the step with the id of `q`
  have hrefs : ∀ p ∈ w.db.payments.rows, p.id = q.id → SameRefs p q := fun p hp hid =>
    hstep.targetsKept.payments.rel hp hq hid.symm
  have hbefore : 0 < capturedCount w.db q.id → ∃ p ∈ w.db.payments.rows, SameRefs p q ∧
      0 < capturedCount w.db p.id := by
    intro hpos
    obtain ⟨p, hp, hid, _⟩ := h q.id hpos
    exact ⟨p, hp, hrefs p hp hid, hid ▸ hpos⟩
  rcases hstep.counts with hnothing | ⟨r, hreports, hr, hcounts, _, htarget⟩
  · rw [hnothing] at hcount
    obtain ⟨p, hp, hsame, hpos⟩ := hbefore hcount
    exact ⟨p, hp, hsame, Or.inl hpos⟩
  · by_cases hid : r.id = q.id
    · exact ⟨r, hr, hrefs r hr hid, Or.inr ⟨hreports, htarget⟩⟩
    · rw [hcounts q.id, if_neg hid, Nat.add_zero] at hcount
      obtain ⟨p, hp, hsame, hpos⟩ := hbefore hcount
      exact ⟨p, hp, hsame, Or.inl hpos⟩

/-- Two payments of one target, announced by then, are one. -/
theorem Charged.one_origin {w : World} {op : Op} (h : Charged w) (honce : ChargesOnce w op)
    {p q : Payment} (hp : p ∈ w.db.payments.rows) (hq : q ∈ w.db.payments.rows)
    (hsame : SameTarget p q) (hcount : 0 < capturedCount w.db p.id)
    (hreports : reportsSuccess w op = some q)
    (htarget : ¬ TargetSettled w.db q ∨ SettledBefore w.db q) : p.id = q.id := by
  have hvalid := h.inv.1.valid q hq
  rcases htarget with hopen | hbefore
  · -- the target of `p` is settled, and it is the target of `q`
    obtain ⟨p', hp', hid, hsettled⟩ := h.inv.2 p.id hcount
    have hpp : p' = p := Table.eq_of_key hp' hp hid
    subst hpp
    exact absurd (hsame.settled (h.inv.1.valid p' hp') hvalid hsettled) hopen
  · have hannounced := honce q hreports (hsame.symm.not_lead hvalid) hbefore
    exact h.oneAnnounced p hp q hq hcount hannounced hsame

theorem Charged.step {settings : Settings} {w : World} {op : Op} (h : Charged w)
    (htruth : Truthful w op) (honce : ChargesOnce w op) : Charged (exec settings w op) := by
  have hstep := exec_rowStep settings w op
  refine ⟨h.inv.step settings, fun q hq hcaptured hpurpose => ?_,
    fun q hq q' hq' hcount hcount' hsame => ?_⟩
  · obtain ⟨p, hp, hrefs, hcase⟩ := hstep.captured_origin htruth hq hcaptured hpurpose
    rw [hrefs.paymentPurpose] at hpurpose
    rw [hrefs.id]
    rcases hcase with hcaptured | hcounts | ⟨hreports, hbefore⟩
    · exact lt_of_lt_of_le (h.announced p hp hcaptured hpurpose) (hstep.countMono p.id)
    · rw [hcounts p.id, if_pos rfl]
      omega
    · exact lt_of_lt_of_le (honce p hreports hpurpose hbefore) (hstep.countMono p.id)
  · obtain ⟨p, hp, hrefs, hcase⟩ := hstep.announced_origin h.inv.2 hq hcount
    obtain ⟨p', hp', hrefs', hcase'⟩ := hstep.announced_origin h.inv.2 hq' hcount'
    have htarget := hsame.of_refs hrefs hrefs'
    rw [hrefs.id, hrefs'.id]
    rcases hcase with hold | ⟨hreports, hopen⟩ <;>
      rcases hcase' with hold' | ⟨hreports', hopen'⟩
    · exact h.oneAnnounced p hp p' hp' hold hold' htarget
    · exact h.one_origin honce hp hp' htarget hold hreports' (hopen'.imp_right And.left)
    · exact (h.one_origin honce hp' hp htarget.symm hold' hreports
        (hopen.imp_right And.left)).symm
    · rw [hreports] at hreports'
      exact congrArg Payment.id (Option.some.inj hreports')

/-! ## Runs -/

/-- An announced payment stays announced. -/
def AnnouncedKept (w w' : World) : Prop :=
  Table.Kept SameRefs w.db.payments w'.db.payments ∧
    ∀ i, capturedCount w.db i ≤ capturedCount w'.db i

theorem Charged.chargedOnce {w w' : World} (h : Charged w) (h' : Charged w')
    (hkept : AnnouncedKept w w') : ChargedOnce w w' := by
  intro p hp q hq hcaptured hcaptured' hsame
  obtain ⟨p', hp', hrefs⟩ := hkept.1 p hp
  have hvalid := h.inv.1.valid p hp
  have hvalid' := h'.inv.1.valid q hq
  have hcount : 0 < capturedCount w'.db p'.id := by
    rw [hrefs.id]
    exact lt_of_lt_of_le (h.announced p hp hcaptured (hsame.not_lead hvalid)) (hkept.2 p.id)
  have hcount' := h'.announced q hq hcaptured' (hsame.symm.not_lead hvalid')
  rw [← hrefs.id]
  refine h'.oneAnnounced p' (Table.mem_of_get? hp') q hq hcount hcount' ?_
  unfold SameTarget
  rw [hrefs.bookingId, hrefs.quoteId]
  exact hsame

/-- In the truthful runs that report no success of a second payment of a settled target,
at most one payment of a booking or quote is ever captured. -/
theorem charged_once (settings : Settings) (w : World) (ops : List Op)
    (hstart : BeforePayments w) (htruth : Along (exec settings) Truthful w ops)
    (honce : Along (exec settings) ChargesOnce w ops) :
    AnyTwo (exec settings) ChargedOnce w ops := by
  have hinv : ∀ w op, Charged w → Truthful w op ∧ ChargesOnce w op →
      Charged (exec settings w op) := fun w op h hop => h.step hop.1 hop.2
  have hstartInv : Charged w := by
    refine ⟨hstart.paymentInv, ?_, ?_⟩ <;> simp [hstart.1]
  have hcharged := always_of_inv hinv hstartInv (htruth.and honce)
  have hrefl : ∀ w : World, AnnouncedKept w w :=
    fun w => ⟨.of_eq rfl SameRefs.refl, fun _ => le_refl _⟩
  have hkept : (states (exec settings) w ops).Pairwise AnnouncedKept := by
    refine pairwise_of_step hrefl (fun _ _ _ h h' => ?_) hinv (fun w op _ _ => ?_) hstartInv
      (htruth.and honce)
    · exact ⟨h.1.trans h'.1 fun _ _ _ => SameRefs.trans, fun i => le_trans (h.2 i) (h'.2 i)⟩
    · exact ⟨(exec_rowStep settings w op).targetsKept.payments,
        (exec_rowStep settings w op).countMono⟩
  have honcePairs := hkept.imp_of_mem
    fun hs ht h => (hcharged _ hs).chargedOnce (hcharged _ ht) h
  refine anyTwo_of_pairwise (fun s t h => ?_) (fun s hs => ?_) honcePairs
  · -- the relation does not depend on which of the two states comes first
    intro p hp q hq hcaptured hcaptured' hsame
    exact (h q hq p hp hcaptured' hcaptured hsame.symm).symm
  · exact (hcharged s hs).chargedOnce (hcharged s hs) (hrefl s)

theorem visit_charged_once : AnyTwo (exec sampleSettings) ChargedOnce visitWorld visitPaid :=
  charged_once _ _ _ (by decide) (by decide) (by decide)

/-- A second intent is made of the visit before the first one succeeds, and both do. -/
def secondIntent : List Op :=
  [.stripeIntent (intentAt "pi_1" "requires_payment_method" 0),
   .createIntent visitPayload "pay" (.ok (intentAt "pi_1" "requires_payment_method" 0)) 10,
   .stripeIntent (intentAt "pi_2" "requires_payment_method" 0),
   .createIntent visitPayload "again" (.ok (intentAt "pi_2" "requires_payment_method" 0)) 11,
   .stripeIntent (intentAt "pi_1" "succeeded" 10000),
   .deliver (intentEvent "evt_1" "payment_intent.succeeded" "pi_1" "succeeded" 10000) none 0 20,
   .stripeIntent (intentAt "pi_2" "succeeded" 10000),
   .deliver (intentEvent "evt_2" "payment_intent.succeeded" "pi_2" "succeeded" 10000) none 1 21]

/-- A truthful run in which a booking is charged twice. -/
theorem second_intent_charged :
    Along (exec sampleSettings) Truthful visitWorld secondIntent ∧
      ¬ AnyTwo (exec sampleSettings) ChargedOnce visitWorld secondIntent := by
  decide

end Breero.Payments
