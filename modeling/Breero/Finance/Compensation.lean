import Breero.Jobs.Service

/-!
What a compensation plan pays for a completed job, and when its earning is recognized.

* `createCompensationPlan` is the command that stores a plan; the checks of its request are
  fields of `CompensationPlanCreate`;
* `Pays` says which amount a plan and a rate give for a gross amount, and
  `newEarning_isOk_iff` when the earning of that amount is written;
* `WithinGross` is when the gross amount covers what an accepted plan pays whatever it is;
* an earning is in the currency of its rule exactly if the booking is
  (`earning_in_rule_currency_iff`).
-/

namespace Breero.Finance
open KeyedTable Transaction

/-! ## Plans -/

/-- A request for a plan, with what the schema checks of it. -/
structure CompensationPlanCreate where
  vendorId : Uuid
  name : String
  method : CompensationMethod
  fixedMinor : Option Int := none
  percentageBps : Option Int := none
  currency : String := "USD"
  holdDays : Int := 7
  effectiveFrom : Instant
  nameLength : 1 ≤ name.length ∧ name.length ≤ 160
  fixedMinorRange : ∀ amount ∈ fixedMinor, 0 ≤ amount
  percentageBpsRange : ∀ bps ∈ percentageBps, 0 ≤ bps ∧ bps ≤ 10000
  /-- `^[A-Z]{3}$` -/
  currencyPattern : currency.toList.length = 3 ∧ currency.toList.all Char.isUpper
  holdDaysRange : 0 ≤ holdDays ∧ holdDays ≤ 365

def CompensationMethod.value : CompensationMethod → String
  | .fixedMinor => "FIXED_MINOR"
  | .percentage => "PERCENTAGE"
  | .serviceRate => "SERVICE_RATE"

/-- The plan that a request is stored as. -/
def planOf (payload : CompensationPlanCreate) (planId : Uuid) : VendorCompensationPlan := {
  id := planId
  vendorId := payload.vendorId
  name := payload.name
  method := payload.method
  fixedMinor := payload.fixedMinor
  percentageBps := payload.percentageBps
  currency := payload.currency
  holdDays := payload.holdDays
  active := true
  effectiveFrom := payload.effectiveFrom }

def createCompensationPlan (db : Db) (payload : CompensationPlanCreate) (actorId : Option Uuid)
    (now : Instant) (planId : Uuid) : Except Raised (Db × VendorCompensationPlan) := do
  require (payload.method = .fixedMinor → payload.fixedMinor ≠ none)
    (.httpException 422 "fixed_minor is required")
  require (payload.method = .percentage → payload.percentageBps ≠ none)
    (.httpException 422 "percentage_bps is required")
  require (∀ amount ∈ payload.fixedMinor, FitsInteger amount) (.other "DataError")
  let plan := planOf payload planId
  let compensationPlans ← orRaise (db.compensationPlans.insert? plan)
    (.integrityError "vendor_compensation_plans_pkey")
  return ({ db with compensationPlans }.audit {
    actorId
    action := "compensation_plan.change"
    resourceType := "vendor_compensation_plan"
    resourceId := plan.id
    metadata := [("method", .str (CompensationMethod.value plan.method)),
      ("vendor_id", .uuid plan.vendorId)]
    createdAt := now }, plan)

/-- A plan that `create_compensation_plan` has stored. -/
def Accepted (plan : VendorCompensationPlan) : Prop :=
  ∃ db payload actorId now planId db',
    createCompensationPlan db payload actorId now planId = .ok (db', plan)

/-! ## What a plan pays -/

/-- The amount that a plan, with the rate of the service, pays for a gross amount. -/
inductive Pays (plan : VendorCompensationPlan) (rate : Option VendorServiceCompensation)
    (grossMinor : Int) : Int → Prop
  | fixed {amount : Int} (method : plan.method = .fixedMinor)
      (configured : plan.fixedMinor = some amount) (nonneg : 0 ≤ amount) :
      Pays plan rate grossMinor amount
  | share {bps : Int} (method : plan.method = .percentage)
      (configured : plan.percentageBps = some bps) (range : 0 ≤ bps ∧ bps ≤ 10000) :
      Pays plan rate grossMinor (grossMinor * bps / 10000)
  | perService {service : VendorServiceCompensation} (method : plan.method = .serviceRate)
      (configured : rate = some service) (nonneg : 0 ≤ service.rateMinor) :
      Pays plan rate grossMinor service.rateMinor

/-- `calculate_compensation` computes what the plan pays, for a gross amount that is not
negative. -/
theorem calculateCompensation_pays {plan : VendorCompensationPlan} {grossMinor amount : Int}
    {rate : Option VendorServiceCompensation} :
    (∃ rule, calculateCompensation plan grossMinor rate = .ok (amount, rule)) ↔
      0 ≤ grossMinor ∧ Pays plan rate grossMinor amount := by
  constructor
  · rintro ⟨rule, h⟩
    simp only [calculateCompensation, seq_committed, require_committed] at h
    obtain ⟨_, hgross, h⟩ := h
    refine ⟨hgross, ?_⟩
    cases hmethod : plan.method
    all_goals
      simp only [hmethod, seq_committed, orRaise_committed, return_committed,
        Option.filter_eq_some_iff, Prod.mk.injEq, decide_eq_true_eq] at h
    case fixedMinor =>
      obtain ⟨_, ⟨hamount, hnonneg⟩, rfl, _⟩ := h
      exact .fixed hmethod hamount hnonneg
    case percentage =>
      obtain ⟨_, ⟨hbps, hrange⟩, rfl, _⟩ := h
      exact .share hmethod hbps hrange
    case serviceRate =>
      obtain ⟨_, ⟨hrate, hnonneg⟩, rfl, _⟩ := h
      exact .perService hmethod hrate hnonneg
  · rintro ⟨hgross, hpays⟩
    simp only [calculateCompensation, seq_committed, require_committed]
    cases hpays with
    | fixed hmethod hamount hnonneg =>
      refine ⟨.fixedMinor amount, (), hgross, ?_⟩
      simp only [hmethod, seq_committed, orRaise_committed, return_committed,
        Option.filter_eq_some_iff, decide_eq_true_eq]
      exact ⟨amount, ⟨hamount, hnonneg⟩, rfl⟩
    | @share bps hmethod hbps hrange =>
      refine ⟨.percentageBps bps, (), hgross, ?_⟩
      simp only [hmethod, seq_committed, orRaise_committed, return_committed,
        Option.filter_eq_some_iff, decide_eq_true_eq]
      exact ⟨bps, ⟨hbps, hrange⟩, rfl⟩
    | @perService service hmethod hrate hnonneg =>
      refine ⟨.serviceRateMinor service.rateMinor service.serviceId, (), hgross, ?_⟩
      simp only [hmethod, seq_committed, orRaise_committed, return_committed,
        Option.filter_eq_some_iff, decide_eq_true_eq]
      exact ⟨service, ⟨hrate, hnonneg⟩, rfl⟩

theorem Pays.nonneg {plan : VendorCompensationPlan} {rate : Option VendorServiceCompensation}
    {grossMinor amount : Int} (h : Pays plan rate grossMinor amount) (hgross : 0 ≤ grossMinor) :
    0 ≤ amount := by
  cases h with
  | fixed _ _ hnonneg => exact hnonneg
  | share _ _ hrange =>
    have hproduct : 0 ≤ grossMinor * _ := Int.mul_nonneg hgross hrange.1
    omega
  | perService _ _ hnonneg => exact hnonneg

/-- A plan pays one amount. -/
theorem Pays.unique {plan : VendorCompensationPlan} {rate : Option VendorServiceCompensation}
    {grossMinor a b : Int} (ha : Pays plan rate grossMinor a) (hb : Pays plan rate grossMinor b) :
    a = b := by
  cases ha <;> cases hb <;> simp_all

/-- A share of at most the whole is at most the gross amount. -/
theorem share_le {grossMinor bps : Int} (hgross : 0 ≤ grossMinor) (hbps : bps ≤ 10000) :
    grossMinor * bps / 10000 ≤ grossMinor := by
  have hproduct : grossMinor * bps ≤ grossMinor * 10000 := Int.mul_le_mul_of_nonneg_left hbps hgross
  omega

/-! ## Recognizing an earning -/

/-- What the state gives for an earning of `amount` under `plan`. -/
structure Recognizable (db : Db) (job : Job) (vendorId : Uuid) (grossMinor : Int) (now : Instant)
    (snapshotId earningId : Uuid) (plan : VendorCompensationPlan) (amount : Int) : Prop where
  active : activePlan db vendorId now = some plan
  gross : 0 ≤ grossMinor
  pays : Pays plan (db.serviceRates.get? (plan.id, job.serviceId)) grossMinor amount
  fits : FitsInteger grossMinor ∧ FitsInteger amount
  within : amount ≤ grossMinor
  freshSnapshot : db.snapshots.get? snapshotId = none
  freshEarning : db.earnings.get? earningId = none
  first : ∀ other ∈ db.earnings.rows, other.jobId ≠ job.id

section
variable {db db' : Db} {job : Job} {vendorId : Uuid} {grossMinor feeMinor : Int}
  {currency : String} {now : Instant} {snapshotId earningId : Uuid} {earning : VendorEarning}

theorem newEarning_ok
    (h : newEarning db job vendorId grossMinor currency now snapshotId earningId =
      .ok (db', earning)) :
    ∃ plan amount,
      Recognizable db job vendorId grossMinor now snapshotId earningId plan amount ∧
      earning.grossMinor = grossMinor ∧ earning.netMinor = amount ∧
      earning.feeMinor = grossMinor - amount ∧ earning.currency = currency ∧
      ∃ snapshot ∈ db'.snapshots.rows, snapshot.id = earning.compensationSnapshotId ∧
        snapshot.currency = currency := by
  simp only [newEarning, addEarning, seq_committed, require_committed, orRaise_committed,
    mapError_committed, return_committed, Prod.exists, Prod.mk.injEq] at h
  obtain ⟨plan, hplan, amount, rule, hamount, _, hfits, snapshots, hsnapshot, added,
    ⟨_, hchecks, _, hfirst, earnings, hinsert, rfl⟩, rfl, rfl⟩ := h
  have hpays := calculateCompensation_pays.mp ⟨rule, hamount⟩
  have hfee : 0 ≤ grossMinor - amount := hchecks.2.1
  refine ⟨plan, amount, ⟨hplan, hpays.1, hpays.2, hfits, by omega, ?_, ?_, hfirst⟩, rfl, rfl, rfl,
    rfl, ?_⟩
  · exact Table.get?_eq_none.mpr fun b hb => Table.key_fresh hsnapshot hb
  · exact Table.get?_eq_none.mpr fun b hb => Table.key_fresh hinsert hb
  · exact ⟨_, (Table.mem_insert hsnapshot).mpr (Or.inr rfl), rfl, rfl⟩

/-- An earning is written exactly if some plan pays an amount within the gross one. -/
theorem newEarning_isOk_iff :
    (newEarning db job vendorId grossMinor currency now snapshotId earningId).isOk ↔
      ∃ plan amount,
        Recognizable db job vendorId grossMinor now snapshotId earningId plan amount := by
  constructor
  · intro h
    obtain ⟨_, _, h⟩ := eq_ok_of_isOk h
    obtain ⟨plan, amount, hrec, _⟩ := newEarning_ok h
    exact ⟨plan, amount, hrec⟩
  · rintro ⟨plan, amount, hrec⟩
    obtain ⟨rule, hamount⟩ := calculateCompensation_pays.mpr ⟨hrec.gross, hrec.pays⟩
    have hnet := hrec.pays.nonneg hrec.gross
    have hwithin := hrec.within
    rw [isOk_iff]
    simp only [newEarning, addEarning, seq_committed, require_committed, orRaise_committed,
      mapError_committed, return_committed, Prod.exists]
    obtain ⟨snapshots, hsnapshots⟩ := Table.insert?_fresh (t := db.snapshots) (a := {
      id := snapshotId, planId := some plan.id, vendorId, serviceId := job.serviceId
      method := plan.method, rule, grossMinor, compensationMinor := amount, currency
      holdDays := plan.holdDays, committedAt := now }) hrec.freshSnapshot
    obtain ⟨earnings, hearnings⟩ := Table.insert?_fresh (t := db.earnings) (a := {
      id := earningId, vendorId, jobId := job.id, compensationSnapshotId := snapshotId, grossMinor
      feeMinor := grossMinor - amount, netMinor := amount, currency, status := .pending
      availableAt := now + ofDays plan.holdDays }) hrec.freshEarning
    exact ⟨_, _, plan, hrec.active, amount, rule, hamount, (), hrec.fits, snapshots, hsnapshots, _,
      ⟨(), ⟨hrec.gross, by omega, hnet⟩, (), hrec.first, earnings, hearnings, rfl⟩, rfl⟩

/-- The earning of a completed job that has none yet. -/
theorem recognizeEarning_first (hstatus : job.status = .completed)
    (hvendor : job.vendorId = some vendorId)
    (hfirst : ∀ other ∈ db.earnings.rows, other.jobId ≠ job.id)
    (hamounts : 0 ≤ grossMinor ∧ 0 ≤ feeMinor) :
    recognizeEarning db job grossMinor feeMinor currency now snapshotId earningId =
      newEarning db job vendorId grossMinor currency now snapshotId earningId := by
  have hnone : db.earnings.rows.find? (fun e => decide (e.jobId = job.id)) = none := by
    rw [List.find?_eq_none]
    intro other hother
    simpa using hfirst other hother
  simp only [recognizeEarning, hstatus, hvendor, hamounts, hnone, require, orRaise, and_self,
    if_true]
  rfl

/-! ## Plans that were accepted -/

/-- The net amount and the fee are the two parts of the gross amount. -/
def Splits (earning : VendorEarning) (grossMinor : Int) : Prop :=
  0 ≤ earning.netMinor ∧ 0 ≤ earning.feeMinor ∧ earning.netMinor + earning.feeMinor = grossMinor

/-- The gross amount is one the column holds, and covers what does not depend on it. -/
def WithinGross (plan : VendorCompensationPlan) (rate : Option VendorServiceCompensation)
    (grossMinor : Int) : Prop :=
  0 ≤ grossMinor ∧ FitsInteger grossMinor ∧
    (plan.method = .fixedMinor → ∀ amount ∈ plan.fixedMinor, amount ≤ grossMinor) ∧
    (plan.method = .serviceRate → ∀ service ∈ rate, service.rateMinor ≤ grossMinor)

/-- The rate of the service that a plan by service pays; the table checks that it is not
negative. -/
def HasRate (plan : VendorCompensationPlan) (rate : Option VendorServiceCompensation) : Prop :=
  plan.method = .serviceRate → ∃ service, rate = some service ∧ 0 ≤ service.rateMinor

/-- An accepted plan has the field of its method, in its range. -/
theorem accepted_configured {plan : VendorCompensationPlan} (h : Accepted plan) :
    (plan.method = .fixedMinor →
      ∃ amount, plan.fixedMinor = some amount ∧ 0 ≤ amount ∧ FitsInteger amount) ∧
    (plan.method = .percentage →
      ∃ bps, plan.percentageBps = some bps ∧ 0 ≤ bps ∧ bps ≤ 10000) := by
  obtain ⟨db, payload, actorId, now, planId, db', h⟩ := h
  simp only [createCompensationPlan, seq_committed, require_committed, orRaise_committed,
    return_committed, Prod.mk.injEq] at h
  obtain ⟨_, hfixed, _, hshare, _, hfits, _, _, _, rfl⟩ := h
  constructor
  · intro hmethod
    obtain ⟨amount, hamount⟩ := Option.ne_none_iff_exists'.mp (hfixed hmethod)
    exact ⟨amount, hamount, payload.fixedMinorRange amount hamount, hfits amount hamount⟩
  · intro hmethod
    obtain ⟨bps, hbps⟩ := Option.ne_none_iff_exists'.mp (hshare hmethod)
    exact ⟨bps, hbps, payload.percentageBpsRange bps hbps⟩

/-- An accepted plan pays an amount within the gross one exactly if the gross one covers what
does not depend on it. -/
theorem accepted_pays_iff {plan : VendorCompensationPlan}
    {rate : Option VendorServiceCompensation} (haccepted : Accepted plan)
    (hrate : HasRate plan rate) :
    (0 ≤ grossMinor ∧ ∃ amount, Pays plan rate grossMinor amount ∧
      (FitsInteger grossMinor ∧ FitsInteger amount) ∧ amount ≤ grossMinor) ↔
      WithinGross plan rate grossMinor := by
  obtain ⟨hfixed, hshare⟩ := accepted_configured haccepted
  constructor
  · rintro ⟨hgross, amount, hpays, hfits, hle⟩
    refine ⟨hgross, hfits.1, ?_, ?_⟩
    · intro hmethod other hother
      obtain ⟨_, hconfigured, hnonneg, _⟩ := hfixed hmethod
      cases Option.mem_some_iff.mp (hconfigured ▸ hother)
      rw [(Pays.fixed hmethod hconfigured hnonneg).unique hpays]
      exact hle
    · intro hmethod other hother
      obtain ⟨_, hconfigured, hnonneg⟩ := hrate hmethod
      cases Option.mem_some_iff.mp (hconfigured ▸ hother)
      rw [(Pays.perService hmethod hconfigured hnonneg).unique hpays]
      exact hle
  · rintro ⟨hgross, hfits, hamount, hservice⟩
    refine ⟨hgross, ?_⟩
    cases hmethod : plan.method with
    | fixedMinor =>
      obtain ⟨amount, hconfigured, hnonneg, hrange⟩ := hfixed hmethod
      exact ⟨amount, .fixed hmethod hconfigured hnonneg, ⟨hfits, hrange⟩,
        hamount hmethod amount hconfigured⟩
    | percentage =>
      obtain ⟨bps, hconfigured, hrange⟩ := hshare hmethod
      have hpays : Pays plan rate grossMinor (grossMinor * bps / 10000) :=
        .share hmethod hconfigured hrange
      have hnonneg := hpays.nonneg hgross
      have hle := share_le hgross hrange.2
      exact ⟨_, hpays, ⟨hfits, by unfold FitsInteger at *; omega⟩, hle⟩
    | serviceRate =>
      obtain ⟨service, hconfigured, hnonneg⟩ := hrate hmethod
      have hle := hservice hmethod service hconfigured
      exact ⟨_, .perService hmethod hconfigured hnonneg,
        ⟨hfits, by unfold FitsInteger at *; omega⟩, hle⟩

theorem newEarning_isOk_iff_within {plan : VendorCompensationPlan} (haccepted : Accepted plan)
    (hplan : activePlan db vendorId now = some plan)
    (hrate : HasRate plan (db.serviceRates.get? (plan.id, job.serviceId)))
    (hfirst : ∀ other ∈ db.earnings.rows, other.jobId ≠ job.id)
    (hsnapshot : db.snapshots.get? snapshotId = none)
    (hearning : db.earnings.get? earningId = none) :
    (newEarning db job vendorId grossMinor currency now snapshotId earningId).isOk ↔
      WithinGross plan (db.serviceRates.get? (plan.id, job.serviceId)) grossMinor := by
  rw [newEarning_isOk_iff, ← accepted_pays_iff haccepted hrate]
  constructor
  · rintro ⟨active, amount, hrec⟩
    have heq : active = plan := Option.some.inj (hrec.active.symm.trans hplan)
    exact ⟨hrec.gross, amount, heq ▸ hrec.pays, hrec.fits, hrec.within⟩
  · rintro ⟨hgross, amount, hpays, hfits, hle⟩
    exact ⟨plan, amount, hplan, hgross, hpays, hfits, hle, hsnapshot, hearning, hfirst⟩

/-- The status and the amounts are checked before the plan is read. -/
theorem recognizeEarning_amounts
    (h : recognizeEarning db job grossMinor feeMinor currency now snapshotId earningId =
      .ok (db', earning)) : job.status = .completed ∧ 0 ≤ grossMinor ∧ 0 ≤ feeMinor := by
  simp only [recognizeEarning, seq_committed, require_committed, orRaise_committed] at h
  obtain ⟨_, hstatus, _, _, _, hamounts, _⟩ := h
  exact ⟨hstatus, hamounts⟩

theorem recognizeEarning_negative (h : ¬ 0 ≤ grossMinor) :
    ¬ (recognizeEarning db job grossMinor feeMinor currency now snapshotId earningId).isOk := by
  intro hok
  obtain ⟨_, _, hok⟩ := eq_ok_of_isOk hok
  exact h (recognizeEarning_amounts hok).2.1

theorem recognizeEarning_isOk_iff_within {plan : VendorCompensationPlan}
    (haccepted : Accepted plan) (hstatus : job.status = .completed)
    (hvendor : job.vendorId = some vendorId)
    (hplan : activePlan db vendorId now = some plan)
    (hrate : HasRate plan (db.serviceRates.get? (plan.id, job.serviceId)))
    (hfirst : ∀ other ∈ db.earnings.rows, other.jobId ≠ job.id)
    (hsnapshot : db.snapshots.get? snapshotId = none)
    (hearning : db.earnings.get? earningId = none) :
    (recognizeEarning db job grossMinor 0 currency now snapshotId earningId).isOk ↔
      WithinGross plan (db.serviceRates.get? (plan.id, job.serviceId)) grossMinor := by
  by_cases hgross : 0 ≤ grossMinor
  · rw [recognizeEarning_first hstatus hvendor hfirst ⟨hgross, Int.le_refl 0⟩]
    exact newEarning_isOk_iff_within haccepted hplan hrate hfirst hsnapshot hearning
  · exact iff_of_false (recognizeEarning_negative hgross) fun hwithin => hgross hwithin.1

/-- The earning that is recognized splits the gross amount. -/
theorem recognizeEarning_splits (hstatus : job.status = .completed)
    (hvendor : job.vendorId = some vendorId)
    (hfirst : ∀ other ∈ db.earnings.rows, other.jobId ≠ job.id)
    (h : recognizeEarning db job grossMinor 0 currency now snapshotId earningId =
      .ok (db', earning)) : Splits earning grossMinor := by
  have hamounts := (recognizeEarning_amounts h).2
  rw [recognizeEarning_first hstatus hvendor hfirst hamounts] at h
  obtain ⟨plan, amount, hrec, _, hnet, hfee, _⟩ := newEarning_ok h
  have hnonneg := hrec.pays.nonneg hrec.gross
  have hle := hrec.within
  unfold Splits
  omega

end

/-! ## The currency of an earning -/

/-- The currency is that of the row whose amount is used, or of the gross amount for a share
of it. -/
def InRuleCurrency (plan : VendorCompensationPlan) (rate : Option VendorServiceCompensation)
    (grossCurrency currency : String) : Prop :=
  match plan.method with
  | .fixedMinor => currency = plan.currency
  | .percentage => currency = grossCurrency
  | .serviceRate => ∃ service, rate = some service ∧ currency = service.currency

/-- A call creates an earning and a snapshot only in the currency of the rule, and refuses a
gross amount in another one. -/
def KeepsRuleCurrency (db : Db) (job : Job) (grossMinor feeMinor : Int) (currency : String)
    (now : Instant) (snapshotId earningId : Uuid) : Prop :=
  ∀ vendorId plan, job.vendorId = some vendorId → activePlan db vendorId now = some plan →
    (∀ other ∈ db.earnings.rows, other.jobId ≠ job.id) →
    let rate := db.serviceRates.get? (plan.id, job.serviceId)
    let call := recognizeEarning db job grossMinor feeMinor currency now snapshotId earningId
    (∀ db' earning, call = .ok (db', earning) →
      InRuleCurrency plan rate currency earning.currency ∧
      ∃ snapshot ∈ db'.snapshots.rows, snapshot.id = earning.compensationSnapshotId ∧
        InRuleCurrency plan rate currency snapshot.currency) ∧
    (¬ InRuleCurrency plan rate currency currency → ∃ raised, call = .error raised)

/-- Earnings stay in the currency of their rule exactly if, whenever the call gets as far as an
earning, the booking is in that currency. -/
theorem earning_in_rule_currency_iff (db : Db) (job : Job) (grossMinor feeMinor : Int)
    (currency : String) (now : Instant) (snapshotId earningId : Uuid) :
    KeepsRuleCurrency db job grossMinor feeMinor currency now snapshotId earningId ↔
      ∀ vendorId plan amount, job.status = .completed → job.vendorId = some vendorId →
        0 ≤ feeMinor →
        Recognizable db job vendorId grossMinor now snapshotId earningId plan amount →
        InRuleCurrency plan (db.serviceRates.get? (plan.id, job.serviceId)) currency currency := by
  constructor
  · intro hkeeps vendorId plan amount hstatus hvendor hfee hrec
    have hok : (newEarning db job vendorId grossMinor currency now snapshotId earningId).isOk :=
      newEarning_isOk_iff.mpr ⟨plan, amount, hrec⟩
    obtain ⟨db', earning, hnew⟩ := eq_ok_of_isOk hok
    have hcall : recognizeEarning db job grossMinor feeMinor currency now snapshotId earningId =
        newEarning db job vendorId grossMinor currency now snapshotId earningId :=
      recognizeEarning_first hstatus hvendor hrec.first ⟨hrec.gross, hfee⟩
    obtain ⟨_, _, _, _, _, _, hcurrency, _⟩ := newEarning_ok hnew
    have hlaw := (hkeeps vendorId plan hvendor hrec.active hrec.first).1 db' earning
      (hcall.trans hnew)
    rw [hcurrency] at hlaw
    exact hlaw.1
  · intro hcond vendorId plan hvendor hplan hfirst
    -- a call that commits has written the earning of the plan that is active
    have hin : ∀ db' earning,
        recognizeEarning db job grossMinor feeMinor currency now snapshotId earningId =
          .ok (db', earning) →
        InRuleCurrency plan (db.serviceRates.get? (plan.id, job.serviceId)) currency currency ∧
          earning.currency = currency ∧ ∃ snapshot ∈ db'.snapshots.rows,
            snapshot.id = earning.compensationSnapshotId ∧ snapshot.currency = currency := by
      intro db' earning hok
      obtain ⟨hstatus, hamounts⟩ := recognizeEarning_amounts hok
      rw [recognizeEarning_first hstatus hvendor hfirst hamounts] at hok
      obtain ⟨active, amount, hrec, _, _, _, hcurrency, hsnapshot⟩ := newEarning_ok hok
      have hactive : active = plan := Option.some.inj (hrec.active.symm.trans hplan)
      subst hactive
      exact ⟨hcond vendorId active amount hstatus hvendor hamounts.2 hrec, hcurrency, hsnapshot⟩
    constructor
    · intro db' earning hok
      obtain ⟨hrule, hcurrency, snapshot, hmem, hid, hsnapshot⟩ := hin db' earning hok
      exact ⟨hcurrency ▸ hrule, snapshot, hmem, hid, hsnapshot ▸ hrule⟩
    · intro hdiffer
      cases hcall : recognizeEarning db job grossMinor feeMinor currency now snapshotId
          earningId with
      | error raised => exact ⟨raised, rfl⟩
      | ok out => exact absurd (hin out.1 out.2 hcall).1 hdiffer

/-! ### A plan and a booking in different currencies -/

def euroPlan : VendorCompensationPlan := {
  id := 7, vendorId := 5, method := .fixedMinor, fixedMinor := some 5000, currency := "EUR"
  effectiveFrom := 0 }

def dollarRepair : Job := {
  id := 1, bookingId := 2, serviceId := 3, addressId := 4, status := .completed
  scheduledStart := 0, scheduledEnd := 1, vendorId := some 5, workerId := some 6 }

def euroPlanDb : Db where
  compensationPlans := ⟨[euroPlan], by decide⟩

/-- Fifty euros are recognized as fifty dollars. -/
theorem euro_plan_earns_dollars :
    ¬ KeepsRuleCurrency euroPlanDb dollarRepair 10000 0 "USD" 1 8 9 := by
  intro hkeeps
  have hdiffer : ¬ InRuleCurrency euroPlan none "USD" "USD" := by
    intro h
    have heq : "USD" = "EUR" := h
    exact absurd heq (by decide)
  have hlaw := (hkeeps 5 euroPlan rfl rfl (List.forall_mem_nil _)).2 hdiffer
  have hok : (recognizeEarning euroPlanDb dollarRepair 10000 0 "USD" 1 8 9).isOk := by decide
  obtain ⟨raised, hraised⟩ := hlaw
  rw [hraised] at hok
  cases hok

end Breero.Finance
