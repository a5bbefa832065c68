import Breero.Idempotency.Commands
import Breero.Finance.Effects
import Breero.Payments.IntentKeys
import Breero.Reservations.HoldStates

/-!
One law for the five keyed commands.

* `Held` is what is stored of a key that was used, and `Held.law` which repeated commands meet
  the law then;
* `perform_first` and `perform_again` say that a first use stores it, and that a later one
  changes nothing;
* `Keyed.law_where_compared`: in every state of every run, a repeated command meets the law if
  and only if it is the same one or is compared with the first use.
-/

namespace Breero.Idempotency
open KeyedTable Transaction Runs Bookings

variable {settings : Settings} {dir : Directory} {db db' : Db} {used : Used}
  {command : Command} {draws : Draws}

/-! ## What a repeated command returns -/

/-- Another command is answered. -/
theorem not_lawful_of_answered (hdifferent : ¬ SameArguments used.command command)
    (h : (perform settings dir db command draws).isOk) :
    ¬ Lawful settings dir db used command draws := by
  intro hlaw
  obtain ⟨raised, _, hraised⟩ := hlaw.different hdifferent
  rw [hraised] at h
  cases h

theorem lawful_iff_same {result : Result} (hstored : stored db used.row = some result)
    (h : perform settings dir db command draws = .ok (db, result)) :
    Lawful settings dir db used command draws ↔ SameArguments used.command command := by
  constructor
  · intro hlaw
    by_contra hdifferent
    exact not_lawful_of_answered hdifferent (isOk_of_eq h) hlaw
  · intro hsame
    exact ⟨fun _ => ⟨result, hstored, h⟩, fun hdifferent => absurd hsame hdifferent⟩

theorem lawful_of_conflict {raised : Raised} (hconflict : raised ∈ keyConflicts)
    (hdifferent : ¬ SameArguments used.command command)
    (h : perform settings dir db command draws = .error raised) :
    Lawful settings dir db used command draws :=
  ⟨fun hsame => absurd hsame hdifferent, fun _ => ⟨raised, hconflict, h⟩⟩

theorem not_lawful_of_raised {raised : Raised} (hother : raised ∉ keyConflicts)
    (h : perform settings dir db command draws = .error raised) :
    ¬ Lawful settings dir db used command draws := by
  intro hlaw
  by_cases hsame : SameArguments used.command command
  · obtain ⟨_, _, hok⟩ := hlaw.same hsame
    rw [h] at hok
    cases hok
  · obtain ⟨raised', hconflict, hraised⟩ := hlaw.different hsame
    rw [h] at hraised
    cases hraised
    exact hother hconflict

theorem createHold_used (dir : Directory) (draws : Draws) {request : HoldRequest}
    {row : BookingCapacityHold} {fingerprint : String}
    (hfound : holdByKey db request.idempotencyKey = some row)
    (howner : ownerFingerprint settings request.bookingSession = .ok fingerprint) :
    createHold settings dir db request draws =
      if row.ownerFingerprintHash = fingerprint then .ok (db, row)
      else .error (.domainError "HOLD_CONFLICT"
        "Idempotency key belongs to another booking session" 409) := by
  unfold holdByKey at hfound
  simp only [createHold, prepareHold, howner, bind, Except.bind, hfound, require]
  by_cases hsame : row.ownerFingerprintHash = fingerprint
  · simp only [if_pos hsame]
    rfl
  · simp only [if_neg hsame]

theorem createHold_unauthenticated {request : HoldRequest} {raised : Raised}
    (howner : ownerFingerprint settings request.bookingSession = .error raised) :
    createHold settings dir db request draws = .error raised := by
  simp only [createHold, prepareHold, howner, bind, Except.bind]

theorem ownerFingerprint_raised {value : String} {raised : Raised}
    (h : ownerFingerprint settings value = .error raised) : raised ∉ keyConflicts := by
  simp only [ownerFingerprint, seq_raised, require_raised, return_raised, and_false, exists_false,
    or_false] at h
  rw [← h.2]
  decide

theorem createBooking_used (settings : Settings) (dir : Directory) (draws : Draws)
    (payload : BookingCreateRequest) {key : String} {row : Booking}
    (hfound : bookingByKey db key = some row) :
    createBooking settings dir db payload key draws =
      if row.idempotencyRequestHash ∈ ["legacy", settings.bookingHash payload] then .ok (db, row)
      else .error (.domainError "IDEMPOTENCY_CONFLICT"
        "The idempotency key was already used for a different booking request" 409) := by
  unfold bookingByKey at hfound
  simp only [createBooking, beginCreate, bind, Except.bind, hfound, require]
  by_cases hsame : row.idempotencyRequestHash ∈ ["legacy", settings.bookingHash payload]
  · simp only [if_pos hsame]
    rfl
  · simp only [if_neg hsame]

theorem createIntent_used (settings : Settings) (draws : Draws)
    {payload : PaymentIntentCreate} {key : String} {record : IdempotencyRecord} {payment : Payment}
    (hfound : db.idempotencyRecords.get? ("create_intent", key) = some record)
    (hbody : record.responseBody = some payment.id)
    (hpaid : db.payments.get? payment.id = some payment)
    (hpurpose : payload.paymentPurpose ≠ .professionalLead) :
    Payments.createIntent settings db payload key draws.intent draws.id =
      if record.requestHash = settings.hash payload then .ok (db, Payments.view payment)
      else .error Payments.keyReused := by
  simp only [Payments.createIntent, require, if_pos hpurpose, bind, Except.bind, hfound,
    Payments.replayIntent, hbody, hpaid, orRaise, Payments.keyReused]
  by_cases hsame : record.requestHash = settings.hash payload
  · simp only [if_pos hsame]
    rfl
  · simp only [if_neg hsame]

theorem createIntent_lead {payload : PaymentIntentCreate} {key : String}
    (hpurpose : payload.paymentPurpose = .professionalLead) :
    Payments.createIntent settings db payload key draws.intent draws.id =
      .error Payments.leadRefused := by
  simp only [Payments.createIntent, require, hpurpose, ne_eq, not_true_eq_false, if_false, bind,
    Except.bind, Payments.leadRefused]

theorem refund_used (draws : Draws) {paymentId : Uuid} (amountMinor : Option Int) {key : String}
    (actorId : Uuid) (reason : Option String) {payment : Payment} {row : Refund}
    (hpaid : db.payments.get? paymentId = some payment)
    (hprovider : payment.providerPaymentId.isSome)
    (hfound : Payments.refundByKey db paymentId key = some row) :
    Payments.refund db paymentId amountMinor key actorId reason draws.refund draws.now draws.id =
      .ok (db, Payments.refundView row) := by
  have hid : payment.id = paymentId := Table.key_of_get? hpaid
  simp only [Payments.refund, hpaid, orRaise, require, if_pos hprovider, bind, Except.bind, hid,
    hfound]
  rfl

theorem adjustEarning_used {earningId : Uuid} (amountMinor : Int)
    (adjustmentType : AdjustmentType) (reason : String) {key : String} (actorId : Option Uuid)
    (now : Instant) {adjustment : EarningAdjustment} (hearned : (db.earnings.get? earningId).isSome)
    (hfound : db.adjustments.get? (earningId, key) = some adjustment) :
    Finance.adjustEarning db earningId amountMinor adjustmentType reason key actorId now =
      .ok (db, adjustment) := by
  obtain ⟨earning, hearning⟩ := Option.isSome_iff_exists.mp hearned
  simp only [Finance.adjustEarning, hearning, orRaise, bind, Except.bind, hfound]
  rfl

/-! ## What is stored of a used key -/

/-- The row that the first use of a key made, with what repeated commands are compared with. -/
inductive Held (settings : Settings) (db : Db) : Used → Prop
  | hold {request : HoldRequest} {row : BookingCapacityHold}
      (found : holdByKey db request.idempotencyKey = some row)
      (owner : ownerFingerprint settings request.bookingSession = .ok row.ownerFingerprintHash) :
      Held settings db ⟨.hold request, .hold row.id⟩
  | booking {payload : BookingCreateRequest} {key : String} {row : Booking}
      (found : bookingByKey db key = some row)
      (hash : row.idempotencyRequestHash = settings.bookingHash payload) :
      Held settings db ⟨.booking payload key, .booking row.id⟩
  | intent {payload : PaymentIntentCreate} {key : String} {record : IdempotencyRecord}
      {payment : Payment} (purpose : payload.paymentPurpose ≠ .professionalLead)
      (found : db.idempotencyRecords.get? ("create_intent", key) = some record)
      (hash : record.requestHash = settings.hash payload)
      (body : record.responseBody = some payment.id)
      (paid : db.payments.get? payment.id = some payment) :
      Held settings db ⟨.intent payload key, .payment payment.id⟩
  | refund {paymentId : Uuid} {amountMinor : Option Int} {key : String} {actorId : Uuid}
      {reason : Option String} {payment : Payment} {row : Refund}
      (paid : db.payments.get? paymentId = some payment)
      (provider : payment.providerPaymentId.isSome)
      (found : Payments.refundByKey db paymentId key = some row) :
      Held settings db ⟨.refund paymentId amountMinor key actorId reason, .refund row.id⟩
  | adjust {earningId : Uuid} {amountMinor : Int} {adjustmentType : AdjustmentType}
      {reason key : String} {actorId : Option Uuid} {adjustment : EarningAdjustment}
      (earned : (db.earnings.get? earningId).isSome)
      (found : db.adjustments.get? (earningId, key) = some adjustment) :
      Held settings db
        ⟨.adjust earningId amountMinor adjustmentType reason key actorId,
          .adjustment earningId key⟩

/-- It stays so, whatever the others write. -/
theorem Held.kept (h : Held settings db used) (hkept : KeysKept db db') :
    Held settings db' used := by
  cases h with
  | hold found owner =>
    obtain ⟨row', found', hid, howner⟩ := hkept.holds _ _ found
    exact hid ▸ .hold found' (howner ▸ owner)
  | booking found hash =>
    obtain ⟨row', found', hid, hhash⟩ := hkept.bookings _ _ found
    exact hid ▸ .booking found' (hhash.trans hash)
  | intent purpose found hash body paid =>
    obtain ⟨payment', paid', _⟩ := hkept.payments _ _ paid
    have hid : payment'.id = _ := Table.key_of_get? paid'
    rw [← hid] at paid' body ⊢
    exact .intent purpose (hkept.records _ _ found) hash body paid'
  | refund paid provider found =>
    obtain ⟨payment', paid', hprovider⟩ := hkept.payments _ _ paid
    obtain ⟨row', found', hid⟩ := hkept.refunds _ _ _ found
    exact hid ▸ .refund paid' (hprovider ▸ provider) found'
  | adjust earned found =>
    exact .adjust (hkept.earnings _ earned) (hkept.adjustments _ _ found)

theorem stored_hold {row : BookingCapacityHold} {key : String}
    (h : holdByKey db key = some row) : stored db (.hold row.id) = some (.hold row) := by
  have hget : db.holds.get? row.id = some row := Table.get?_key (List.mem_of_find?_eq_some h)
  simp [stored, hget]

theorem stored_booking {row : Booking} {key : String}
    (h : bookingByKey db key = some row) : stored db (.booking row.id) = some (.booking row) := by
  have hget : db.bookings.get? row.id = some row := Table.get?_key (List.mem_of_find?_eq_some h)
  simp [stored, hget]

theorem stored_refund {row : Refund} {paymentId : Uuid} {key : String}
    (h : Payments.refundByKey db paymentId key = some row) :
    stored db (.refund row.id) = some (.refund (Payments.refundView row)) := by
  have hget : db.refunds.get? row.id = some row := Table.get?_key (List.mem_of_find?_eq_some h)
  simp [stored, hget]

/-! ### Command by command -/

theorem hold_law {first repeated : HoldRequest} {row : BookingCapacityHold}
    (found : holdByKey db repeated.idempotencyKey = some row)
    (owner : ownerFingerprint settings first.bookingSession = .ok row.ownerFingerprintHash) :
    Lawful settings dir db ⟨.hold first, .hold row.id⟩ (.hold repeated) draws ↔
      SameArguments (.hold first) (.hold repeated) ∨
        Compared settings (.hold first) (.hold repeated) := by
  have hsessions : SameArguments (.hold first) (.hold repeated) →
      ownerFingerprint settings repeated.bookingSession = .ok row.ownerFingerprintHash := by
    intro hsame
    cases hsame
    exact owner
  have hcompared : Compared settings (.hold first) (.hold repeated) ↔
      (ownerFingerprint settings repeated.bookingSession).isOk ∧
        ownerFingerprint settings repeated.bookingSession ≠ .ok row.ownerFingerprintHash := by
    rw [← owner]
    exact Iff.rfl
  rw [hcompared]
  cases hfingerprint : ownerFingerprint settings repeated.bookingSession with
  | error raised =>
    have hraised : perform settings dir db (.hold repeated) draws = .error raised := by
      simp only [perform, createHold_unauthenticated hfingerprint, bind, Except.bind]
    refine iff_of_false (not_lawful_of_raised (ownerFingerprint_raised hfingerprint) hraised) ?_
    rintro (hsame | ⟨hok, _⟩)
    · rw [hsessions hsame] at hfingerprint
      cases hfingerprint
    · cases hok
  | ok fingerprint =>
    have hcreate := createHold_used dir draws found hfingerprint
    by_cases howner : row.ownerFingerprintHash = fingerprint
    · rw [if_pos howner] at hcreate
      have hreplay : perform settings dir db (.hold repeated) draws = .ok (db, .hold row) := by
        simp only [perform, hcreate, bind, Except.bind]
        rfl
      rw [lawful_iff_same (stored_hold found) hreplay]
      simp [howner]
    · rw [if_neg howner] at hcreate
      have hconflict : perform settings dir db (.hold repeated) draws =
          .error (.domainError "HOLD_CONFLICT"
            "Idempotency key belongs to another booking session" 409) := by
        simp only [perform, hcreate, bind, Except.bind]
      have hdifferent : ¬ SameArguments (.hold first) (.hold repeated) := by
        intro hsame
        have hsession := hfingerprint.symm.trans (hsessions hsame)
        exact howner (Except.ok.inj hsession).symm
      refine iff_of_true (lawful_of_conflict (by decide) hdifferent hconflict) (Or.inr ⟨rfl, ?_⟩)
      intro hsame
      exact howner (Except.ok.inj hsame).symm

theorem booking_law {first repeated : BookingCreateRequest} {key : String} {row : Booking}
    (found : bookingByKey db key = some row)
    (hash : row.idempotencyRequestHash = settings.bookingHash first)
    (hapart : HashesApart settings (.booking first key) (.booking repeated key)) :
    Lawful settings dir db ⟨.booking first key, .booking row.id⟩ (.booking repeated key) draws := by
  have hcreate := createBooking_used settings dir draws repeated found
  obtain ⟨hlegacy, hequal⟩ := hapart
  have hlisted : row.idempotencyRequestHash ∈ ["legacy", settings.bookingHash repeated] ↔
      first = repeated := by
    rw [hash, List.mem_cons, List.mem_singleton]
    constructor
    · intro h
      exact hequal (h.resolve_left hlegacy)
    · rintro rfl
      exact Or.inr rfl
  rw [if_congr hlisted rfl rfl] at hcreate
  by_cases hsame : first = repeated
  · rw [if_pos hsame] at hcreate
    have hreplay : perform settings dir db (.booking repeated key) draws =
        .ok (db, .booking row) := by
      simp only [perform, hcreate, bind, Except.bind]
      rfl
    exact (lawful_iff_same (stored_booking found) hreplay).mpr
      (congrArg (Command.booking · key) hsame)
  · rw [if_neg hsame] at hcreate
    have hconflict : perform settings dir db (.booking repeated key) draws =
        .error (.domainError "IDEMPOTENCY_CONFLICT"
          "The idempotency key was already used for a different booking request" 409) := by
      simp only [perform, hcreate, bind, Except.bind]
    refine lawful_of_conflict (by decide) ?_ hconflict
    intro h
    cases h
    exact hsame rfl

theorem intent_law {first repeated : PaymentIntentCreate} {key : String}
    {record : IdempotencyRecord} {payment : Payment}
    (purpose : first.paymentPurpose ≠ .professionalLead)
    (found : db.idempotencyRecords.get? ("create_intent", key) = some record)
    (hash : record.requestHash = settings.hash first)
    (body : record.responseBody = some payment.id)
    (paid : db.payments.get? payment.id = some payment)
    (hapart : HashesApart settings (.intent first key) (.intent repeated key)) :
    Lawful settings dir db ⟨.intent first key, .payment payment.id⟩ (.intent repeated key) draws ↔
      SameArguments (.intent first key) (.intent repeated key) ∨
        repeated.paymentPurpose ≠ .professionalLead := by
  have hequal : settings.hash first = settings.hash repeated ↔
    Payments.SameRequest first repeated := hapart
  by_cases hlead : repeated.paymentPurpose = .professionalLead
  · have hraised : perform settings dir db (.intent repeated key) draws =
        .error Payments.leadRefused := by
      simp only [perform, createIntent_lead hlead, bind, Except.bind]
    refine iff_of_false (not_lawful_of_raised (by decide) hraised) ?_
    rintro (⟨⟨hsame, _⟩, _⟩ | hother)
    · have hpurpose : first.paymentPurpose = repeated.paymentPurpose := by
        rw [← hsame]
      exact purpose (hpurpose.trans hlead)
    · exact hother hlead
  · have hcreate := createIntent_used settings draws found body paid hlead
    rw [hash, if_congr hequal rfl rfl] at hcreate
    refine iff_of_true ?_ (Or.inr hlead)
    by_cases hsame : Payments.SameRequest first repeated
    · rw [if_pos hsame] at hcreate
      have hreplay : perform settings dir db (.intent repeated key) draws =
          .ok (db, .payment (Payments.view payment)) := by
        simp only [perform, hcreate, bind, Except.bind]
        rfl
      exact (lawful_iff_same (by simp [stored, paid]) hreplay).mpr ⟨hsame, rfl⟩
    · rw [if_neg hsame] at hcreate
      have hconflict : perform settings dir db (.intent repeated key) draws =
          .error Payments.keyReused := by
        simp only [perform, hcreate, bind, Except.bind]
      exact lawful_of_conflict (by decide) (fun h => hsame h.1) hconflict

theorem refund_law {paymentId : Uuid} (firstAmount amountMinor : Option Int) {key : String}
    (firstActor actorId : Uuid) (firstReason reason : Option String) {payment : Payment}
    {row : Refund} (paid : db.payments.get? paymentId = some payment)
    (provider : payment.providerPaymentId.isSome)
    (found : Payments.refundByKey db paymentId key = some row) :
    Lawful settings dir db
        ⟨.refund paymentId firstAmount key firstActor firstReason, .refund row.id⟩
        (.refund paymentId amountMinor key actorId reason) draws ↔
      SameArguments (.refund paymentId firstAmount key firstActor firstReason)
        (.refund paymentId amountMinor key actorId reason) := by
  have hreplay : perform settings dir db (.refund paymentId amountMinor key actorId reason) draws =
      .ok (db, .refund (Payments.refundView row)) := by
    simp only [perform, refund_used draws amountMinor actorId reason paid provider found, bind,
      Except.bind]
    rfl
  exact lawful_iff_same (stored_refund found) hreplay

theorem adjust_law {earningId : Uuid} (firstAmount amountMinor : Int)
    (firstType adjustmentType : AdjustmentType) (firstReason reason : String) {key : String}
    (firstActor actorId : Option Uuid) {adjustment : EarningAdjustment}
    (earned : (db.earnings.get? earningId).isSome)
    (found : db.adjustments.get? (earningId, key) = some adjustment) :
    Lawful settings dir db
        ⟨.adjust earningId firstAmount firstType firstReason key firstActor,
          .adjustment earningId key⟩
        (.adjust earningId amountMinor adjustmentType reason key actorId) draws ↔
      SameArguments (.adjust earningId firstAmount firstType firstReason key firstActor)
        (.adjust earningId amountMinor adjustmentType reason key actorId) := by
  have hreplay : perform settings dir db
      (.adjust earningId amountMinor adjustmentType reason key actorId) draws =
      .ok (db, .adjustment adjustment) := by
    simp only [perform, adjustEarning_used amountMinor adjustmentType reason actorId draws.now
      earned found, bind, Except.bind]
    rfl
  exact lawful_iff_same (by simp [stored, found]) hreplay

/-- Which repeated commands meet the law. -/
theorem Held.law (h : Held settings db used) (hkey : SameKey used.command command)
    (hapart : HashesApart settings used.command command) :
    Lawful settings dir db used command draws ↔
      SameArguments used.command command ∨ Compared settings used.command command := by
  cases h with
  | hold found owner =>
    cases command with
    | hold repeated => exact hold_law (hkey ▸ found) owner
    | _ => exact hkey.elim
  | booking found hash =>
    cases command with
    | booking repeated key =>
      cases hkey
      exact iff_of_true (booking_law found hash hapart) (Or.inr trivial)
    | _ => exact hkey.elim
  | intent purpose found hash body paid =>
    cases command with
    | intent repeated key =>
      cases hkey
      exact intent_law purpose found hash body paid hapart
    | _ => exact hkey.elim
  | refund paid provider found =>
    cases command with
    | refund paymentId amountMinor key actorId reason =>
      obtain ⟨rfl, rfl⟩ := hkey
      rw [refund_law _ amountMinor _ actorId _ reason paid provider found]
      exact (or_iff_left not_false).symm
    | _ => exact hkey.elim
  | adjust earned found =>
    cases command with
    | adjust earningId amountMinor adjustmentType reason key actorId =>
      obtain ⟨rfl, rfl⟩ := hkey
      rw [adjust_law _ amountMinor _ adjustmentType _ reason _ actorId earned found]
      exact (or_iff_left not_false).symm
    | _ => exact hkey.elim

/-! ## What the commands write -/

theorem KeysKept.refl (db : Db) : KeysKept db db where
  holds _ hold h := ⟨hold, h, rfl, rfl⟩
  bookings _ booking h := ⟨booking, h, rfl, rfl⟩
  records _ _ h := h
  payments _ payment h := ⟨payment, h, rfl⟩
  refunds _ _ refund h := ⟨refund, h, rfl⟩
  earnings _ h := h
  adjustments _ _ h := h

/-- What a command does whose key was not used. -/
structure First (settings : Settings) (db : Db) (command : Command) (db' : Db) (row : RowRef) :
    Prop where
  held : Held settings db' ⟨command, row⟩
  kept : KeysKept db db'

theorem prepareHold_free {request : HoldRequest} {loads : Uuid → Day → Load}
    {prepared : BookingCapacityHold ⊕ HoldAttempt}
    (hfree : holdByKey db request.idempotencyKey = none)
    (h : prepareHold settings dir db loads request = .ok prepared) :
    ∃ attempt, prepared = .inr attempt ∧
      ownerFingerprint settings request.bookingSession = .ok attempt.fingerprint ∧
      attempt.idempotencyKey = request.idempotencyKey := by
  unfold holdByKey at hfree
  simp only [prepareHold, hfree, seq_committed, return_committed, Prod.exists] at h
  obtain ⟨fingerprint, howner, _, _, _, _, _, _, _, _, _, rfl⟩ := h
  exact ⟨_, rfl, howner, rfl⟩

theorem createHold_first {request : HoldRequest} {row : BookingCapacityHold}
    (hfree : holdByKey db request.idempotencyKey = none)
    (h : createHold settings dir db request draws = .ok (db', row)) :
    First settings db (.hold request) db' (.hold row.id) := by
  simp only [createHold, seq_committed] at h
  obtain ⟨_, hprepared, h⟩ := h
  obtain ⟨attempt, rfl, howner, hkey⟩ := prepareHold_free hfree hprepared
  simp only [seq_committed] at h
  obtain ⟨_, _, hgrant⟩ := h
  obtain ⟨rfl, holds, auditLogs, hinsert, _, rfl⟩ := Reservations.grantHold_ok hgrant
  constructor
  · exact .hold (Table.find?_insert_self hinsert hfree (decide_eq_true hkey)) howner
  · exact { KeysKept.refl db with
      holds := fun key hold hfound =>
        ⟨hold, Table.find?_insert_of_some hinsert hfound, rfl, rfl⟩ }

theorem beginCreate_free {payload : BookingCreateRequest} {key : String} {began now : Instant}
    {prepared : Booking ⊕ CreateAttempt} (hfree : bookingByKey db key = none)
    (h : beginCreate settings dir db payload key began now = .ok prepared) :
    ∃ attempt, prepared = .inr attempt ∧ attempt.requestHash = settings.bookingHash payload ∧
      attempt.idempotencyKey = key := by
  unfold bookingByKey at hfree
  simp only [beginCreate, hfree, seq_committed, return_committed] at h
  obtain ⟨_, _, _, _, _, _, _, _, _, _, _, _, _, _, _, _, _, _, _, _, _, _, rfl⟩ := h
  exact ⟨_, rfl, rfl, rfl⟩

theorem createBooking_first {payload : BookingCreateRequest} {key : String} {row : Booking}
    (hfree : bookingByKey db key = none)
    (h : createBooking settings dir db payload key draws = .ok (db', row)) :
    First settings db (.booking payload key) db' (.booking row.id) := by
  simp only [createBooking, seq_committed] at h
  obtain ⟨_, hprepared, h⟩ := h
  obtain ⟨attempt, rfl, hhash, hkey⟩ := beginCreate_free hfree hprepared
  simp only [finishCreate, Db.addBooking, seq_committed, require_committed, orRaise_committed,
    return_committed, Prod.exists, Prod.mk.injEq] at h
  obtain ⟨db1, customer, hcustomer, db2, ⟨_, _, _, _, bookings, hinsert, rfl⟩, rfl, rfl⟩ := h
  obtain ⟨customers, rfl⟩ := customerForEmail_ok hcustomer
  constructor
  · exact .booking (Table.find?_insert_self hinsert hfree (decide_eq_true hkey)) hhash
  · exact { KeysKept.refl db with
      bookings := fun key booking hfound =>
        ⟨booking, Table.find?_insert_of_some hinsert hfound, rfl, rfl⟩ }

theorem createIntent_first {payload : PaymentIntentCreate} {key : String}
    {view : Payments.PaymentView}
    (hfree : db.idempotencyRecords.get? ("create_intent", key) = none)
    (h : Payments.createIntent settings db payload key draws.intent draws.id = .ok (db', view)) :
    First settings db (.intent payload key) db' (.payment view.id) := by
  simp only [Payments.createIntent, hfree, seq_committed, require_committed, orRaise_committed,
    return_committed, Prod.mk.injEq] at h
  obtain ⟨_, hpurpose, metadata, _, records, hrecord, intent, _, db1, hadd, rfl, rfl⟩ := h
  obtain ⟨_, payments, hinsert, _, rfl⟩ := Db.addPayment_ok hadd
  have hadded : Payments.RecordAdded db.idempotencyRecords
      (records.put (Payments.answeredRecord settings payload key draws.id)) _ :=
    .of_insert hrecord rfl
  constructor
  · exact .intent hpurpose hadded.self rfl rfl (Table.get?_insert_self hinsert)
  · exact { KeysKept.refl db with
      records := fun k record hfound => by
        have hne : k ≠ ("create_intent", key) := by
          rintro rfl
          rw [hfree] at hfound
          cases hfound
        exact (hadded.others k hne).trans hfound
      payments := fun id payment hfound =>
        ⟨payment, Table.get?_insert_of_some hinsert hfound, rfl⟩ }

/-- A payment that is refunded keeps the id that the provider gave it. -/
theorem refunded_payments {payment : Payment} {paymentId : Uuid} {whole : Bool} {p : Prop}
    [Decidable p] (h : (if p then Payments.applyRefunded db payment whole else pure db) = .ok db')
    (hpaid : db.payments.get? paymentId = some payment) :
    (∃ leadPurchases payments, db' = { db with leadPurchases, payments }) ∧
      ∀ id found, db.payments.get? id = some found → ∃ found',
        db'.payments.get? id = some found' ∧
          found'.providerPaymentId = found.providerPaymentId := by
  split at h
  · obtain ⟨leadPurchases, heq⟩ := Payments.markLeadPurchaseRefunded_eq
      { db with payments := db.payments.put (Payments.refundedPayment payment whole) }
      (Payments.refundedPayment payment whole)
    have hdb := Payments.applyRefunded_ok h
    rw [heq] at hdb
    subst hdb
    refine ⟨⟨_, _, rfl⟩, fun id found hfound => ?_⟩
    by_cases hid : payment.id = id
    · have hpayment : db.payments.get? payment.id = some payment := Table.get?_found hpaid
      rw [← hid, hpayment] at hfound
      cases hfound
      exact ⟨_, Table.get?_put_self (hid ▸ hpayment) hid, rfl⟩
    · exact ⟨found, (Table.get?_put_ne hid).trans hfound, rfl⟩
  · cases Except.ok.inj h
    exact ⟨⟨_, _, rfl⟩, fun id found hfound => ⟨found, hfound, rfl⟩⟩

theorem refund_first {paymentId : Uuid} {amountMinor : Option Int} {key : String} {actorId : Uuid}
    {reason : Option String} {view : Payments.RefundView}
    (hfree : Payments.refundByKey db paymentId key = none)
    (h : Payments.refund db paymentId amountMinor key actorId reason draws.refund draws.now
      draws.id = .ok (db', view)) :
    First settings db (.refund paymentId amountMinor key actorId reason) db' (.refund view.id) := by
  simp only [Payments.refund, seq_committed, orRaise_committed, require_committed] at h
  obtain ⟨payment, hpaid, _, hprovider, h⟩ := h
  have hid : payment.id = paymentId := Table.key_of_get? hpaid
  simp only [hid, hfree, seq_committed, require_committed, return_committed, Prod.mk.injEq] at h
  obtain ⟨_, _, _, _, answered, _, db1, hadd, db2, hrefunded, rfl, rfl⟩ := h
  obtain ⟨_, refunds, hinsert, rfl⟩ := Db.addRefund_ok hadd
  obtain ⟨⟨leadPurchases, payments, rfl⟩, hpayments⟩ := refunded_payments hrefunded hpaid
  obtain ⟨payment', hpaid', hsame⟩ := hpayments _ payment hpaid
  constructor
  · refine .refund hpaid' (hsame ▸ hprovider) (Table.find?_insert_self hinsert hfree ?_)
    exact decide_eq_true ⟨hid, rfl⟩
  · exact { KeysKept.refl db with
      payments := hpayments
      refunds := fun _ _ refund hfound =>
        ⟨refund, Table.find?_insert_of_some hinsert hfound, rfl⟩ }

theorem adjustEarning_first {earningId : Uuid} {amountMinor : Int}
    {adjustmentType : AdjustmentType} {reason key : String} {actorId : Option Uuid}
    {adjustment : EarningAdjustment} (hfree : db.adjustments.get? (earningId, key) = none)
    (h : Finance.adjustEarning db earningId amountMinor adjustmentType reason key actorId
      draws.now = .ok (db', adjustment)) :
    First settings db (.adjust earningId amountMinor adjustmentType reason key actorId) db'
      (.adjustment adjustment.earningId adjustment.idempotencyKey) := by
  simp only [Finance.adjustEarning, hfree, seq_committed, orRaise_committed, return_committed,
    Prod.mk.injEq] at h
  obtain ⟨earning, hearning, adjustments, hinsert, rfl, rfl⟩ := h
  have hearnings : ∀ id, (db.earnings.get? id).isSome →
      ((db.earnings.put (Finance.adjusted earning amountMinor adjustmentType)).get? id).isSome := by
    intro id hsome
    obtain ⟨found, hfound⟩ := Option.isSome_iff_exists.mp hsome
    obtain ⟨found', hput, _⟩ := Table.get?_put_of_some hfound
    exact Option.isSome_iff_exists.mpr ⟨found', hput⟩
  have hadded := Table.get?_insert_self hinsert
  constructor
  · exact .adjust (hearnings earningId (Option.isSome_iff_exists.mpr ⟨earning, hearning⟩)) hadded
  · exact { KeysKept.refl db with
      earnings := hearnings
      adjustments := fun k found hfound => Table.get?_insert_of_some hinsert hfound }

/-- The first use of a key stores what repeated commands are compared with. -/
theorem perform_first {result : Result} (hfree : keyFree db command = true)
    (h : perform settings dir db command draws = .ok (db', result)) :
    First settings db command db' result.row := by
  cases command with
  | hold request =>
    simp only [perform, seq_committed, return_committed, Prod.exists, Prod.mk.injEq] at h
    obtain ⟨_, row, hcreate, rfl, rfl⟩ := h
    exact createHold_first (Option.isNone_iff_eq_none.mp hfree) hcreate
  | booking payload key =>
    simp only [perform, seq_committed, return_committed, Prod.exists, Prod.mk.injEq] at h
    obtain ⟨_, row, hcreate, rfl, rfl⟩ := h
    exact createBooking_first (Option.isNone_iff_eq_none.mp hfree) hcreate
  | intent payload key =>
    simp only [perform, seq_committed, return_committed, Prod.exists, Prod.mk.injEq] at h
    obtain ⟨_, view, hcreate, rfl, rfl⟩ := h
    exact createIntent_first (Option.isNone_iff_eq_none.mp hfree) hcreate
  | refund paymentId amountMinor key actorId reason =>
    simp only [perform, seq_committed, return_committed, Prod.exists, Prod.mk.injEq] at h
    obtain ⟨_, view, hrefund, rfl, rfl⟩ := h
    exact refund_first (Option.isNone_iff_eq_none.mp hfree) hrefund
  | adjust earningId amountMinor adjustmentType reason key actorId =>
    simp only [perform, seq_committed, return_committed, Prod.exists, Prod.mk.injEq] at h
    obtain ⟨_, adjustment, hadjust, rfl, rfl⟩ := h
    exact adjustEarning_first (Option.isNone_iff_eq_none.mp hfree) hadjust

/-- A command whose key has something stored changes nothing. -/
theorem perform_again {result : Result} (hfree : keyFree db command = false)
    (h : perform settings dir db command draws = .ok (db', result)) : db' = db := by
  cases command with
  | hold request =>
    obtain ⟨row, hfound⟩ := Option.isSome_iff_exists.mp (Option.isNone_eq_false_iff.mp hfree)
    simp only [perform, seq_committed, return_committed, Prod.exists, Prod.mk.injEq] at h
    obtain ⟨_, _, hcreate, rfl, _⟩ := h
    cases howner : ownerFingerprint settings request.bookingSession with
    | error raised =>
      rw [createHold_unauthenticated howner] at hcreate
      cases hcreate
    | ok fingerprint =>
      rw [createHold_used dir draws hfound howner] at hcreate
      split at hcreate
      · cases hcreate
        rfl
      · cases hcreate
  | booking payload key =>
    obtain ⟨row, hfound⟩ := Option.isSome_iff_exists.mp (Option.isNone_eq_false_iff.mp hfree)
    simp only [perform, seq_committed, return_committed, Prod.exists, Prod.mk.injEq] at h
    obtain ⟨_, _, hcreate, rfl, _⟩ := h
    rw [createBooking_used settings dir draws payload hfound] at hcreate
    split at hcreate
    · cases hcreate
      rfl
    · cases hcreate
  | intent payload key =>
    obtain ⟨record, hfound⟩ := Option.isSome_iff_exists.mp (Option.isNone_eq_false_iff.mp hfree)
    simp only [perform, Payments.createIntent, Payments.replayIntent, hfound, seq_committed,
      return_committed, Prod.exists, Prod.mk.injEq] at h
    obtain ⟨_, _, ⟨_, _, _, _, _, _, _, _, rfl, _⟩, rfl, _⟩ := h
    rfl
  | refund paymentId amountMinor key actorId reason =>
    obtain ⟨row, hfound⟩ := Option.isSome_iff_exists.mp (Option.isNone_eq_false_iff.mp hfree)
    simp only [perform, seq_committed, return_committed, Prod.exists, Prod.mk.injEq] at h
    obtain ⟨_, _, hrefund, rfl, _⟩ := h
    simp only [Payments.refund, seq_committed, orRaise_committed, require_committed] at hrefund
    obtain ⟨payment, hpaid, _, hprovider, hrefund⟩ := hrefund
    have hid : payment.id = paymentId := Table.key_of_get? hpaid
    simp only [hid, hfound, return_committed, Prod.mk.injEq] at hrefund
    exact hrefund.1.symm
  | adjust earningId amountMinor adjustmentType reason key actorId =>
    obtain ⟨row, hfound⟩ := Option.isSome_iff_exists.mp (Option.isNone_eq_false_iff.mp hfree)
    simp only [perform, Finance.adjustEarning, hfound, seq_committed, return_committed,
      Prod.exists, Prod.mk.injEq] at h
    obtain ⟨_, _, ⟨_, _, rfl, _⟩, rfl, _⟩ := h
    rfl

/-! ### Other transactions -/

/-- `expire_stale` writes statuses only. -/
theorem expireStale_kept (db : Db) (now : Instant) : KeysKept db (expireStale db now) := by
  have hsame : ∀ hold : BookingCapacityHold, (staleExpired now hold).id = hold.id ∧
      (staleExpired now hold).idempotencyKey = hold.idempotencyKey ∧
      (staleExpired now hold).ownerFingerprintHash = hold.ownerFingerprintHash := by
    intro hold
    unfold staleExpired
    split
    · exact ⟨rfl, rfl, rfl⟩
    · exact ⟨rfl, rfl, rfl⟩
  refine { KeysKept.refl db with holds := fun key hold hfound => ?_ }
  refine ⟨staleExpired now hold, Table.find?_update (fun other => (hsame other).1) (fun other => ?_)
    hfound, (hsame hold).1, (hsame hold).2.2⟩
  rw [(hsame other).2.1]

/-! ## Runs -/

namespace Keyed

/-- Of every key that was used, what it is compared with is stored. -/
def AllHeld (settings : Settings) (w : Keyed) : Prop := ∀ used ∈ w.used, Held settings w.db used

variable {w : Keyed}

theorem AllHeld.step (h : AllHeld settings w) (op : Op) :
    AllHeld settings (exec settings dir w op) := by
  cases op with
  | perform command draws =>
    simp only [exec]
    split
    · next db result hperform =>
      cases hfree : keyFree w.db command with
      | true =>
        have hfirst := perform_first hfree hperform
        intro used hused
        rcases List.mem_cons.mp hused with rfl | hused
        · exact hfirst.held
        · exact (h used hused).kept hfirst.kept
      | false =>
        cases perform_again hfree hperform
        exact h
    · exact h
  | other write kept =>
    intro used hused
    exact (h used hused).kept (kept w.db)

theorem AllHeld.law (h : AllHeld settings w) : LawWhereCompared settings dir w :=
  fun used hused _ _ hkey hapart => (h used hused).law hkey hapart

/-- In every state, for every key that was used in the run, a repeated command meets the law
if it is the same one or one that is compared with the first use, and only then. -/
theorem law_where_compared (settings : Settings) (dir : Directory) (db : Db) (ops : List Op) :
    Always (exec settings dir) (LawWhereCompared settings dir) { db } ops := by
  have hstart : AllHeld settings { db } := fun used hused => absurd hused List.not_mem_nil
  refine (always_of_inv (P := fun _ _ => True) ?_ hstart (along_of_forall fun _ _ => trivial)).imp
    fun _ h => h.law
  exact fun _ op h _ => h.step op

/-- A payment that was captured, and an earning that is available. -/
def keyedDb : Db := { Dispatch.visitDb with
  payments := ⟨[{
    id := 10, bookingId := some 2, paymentPurpose := .bookingDiagnostic
    providerPaymentId := some "pi_1", status := .captured, amountMinor := 8000
    currency := "USD", capturedAmountMinor := 8000 }], by decide⟩
  earnings := ⟨[{
    id := 70, vendorId := 5, jobId := 20, compensationSnapshotId := 71, grossMinor := 9000
    feeMinor := 1000, netMinor := 8000, status := .available, availableAt := 0 }], by decide⟩ }

def firstDraws : Draws where
  began := 0
  now := 0
  id := 60
  createIds := { customerId := 61, bookingId := 62, reference := "BR-62" }
  intent := .error (.paymentError "not asked")
  refund := .ok { id := "re_1", status := "succeeded" }

def heldAt (minute : Int) : Command := .hold {
  serviceId := 3, addressId := 4, startLocal := ofMinutes minute, timezoneId := "UTC"
  bookingSession := "customer-session-2", idempotencyKey := "hold-2" }

def refundOf (amountMinor : Int) : Command :=
  .refund 10 (some amountMinor) "refund-1" 8 (some "no show")

def adjustBy (amountMinor : Int) : Command := .adjust 70 amountMinor .manual "tip" "tip-1" (some 8)

/-- The hold has expired by the end. -/
def firstUses : List Op :=
  [heldAt 720, refundOf 3000, adjustBy 500].map (.perform · firstDraws) ++
    [.other (expireStale · (ofMinutes 31)) fun db => expireStale_kept db (ofMinutes 31)]

theorem firstUses_compared :
    Always (exec Dispatch.visitSettings Reservations.heldDirectory)
        (LawWhereCompared Dispatch.visitSettings Reservations.heldDirectory) { db := keyedDb }
        firstUses ∧
      (run (exec Dispatch.visitSettings Reservations.heldDirectory) { db := keyedDb }
        firstUses).used.length = 3 :=
  ⟨law_where_compared Dispatch.visitSettings Reservations.heldDirectory keyedDb firstUses,
    by decide⟩

/-- The command has the key of a first use, and breaks the law. -/
def Mistaken (settings : Settings) (dir : Directory) (w : Keyed) (command : Command)
    (draws : Draws) : Prop :=
  ∃ used ∈ w.used, SameKey used.command command ∧ ¬ Lawful settings dir w.db used command draws

def afterFirstUses : Keyed :=
  run (exec Dispatch.visitSettings Reservations.heldDirectory) { db := keyedDb } firstUses

/-- Another slot, another refund and another adjustment are answered with the first ones. -/
theorem other_arguments_accepted :
    afterFirstUses.Mistaken Dispatch.visitSettings Reservations.heldDirectory (heldAt 780)
        firstDraws ∧
      afterFirstUses.Mistaken Dispatch.visitSettings Reservations.heldDirectory (refundOf 4000)
        firstDraws ∧
      afterFirstUses.Mistaken Dispatch.visitSettings Reservations.heldDirectory (adjustBy 900)
        firstDraws := by
  refine ⟨?_, ?_, ?_⟩
  · have hother : heldAt 720 ≠ heldAt 780 := by decide
    exact ⟨⟨heldAt 720, .hold 60⟩, by decide, rfl, not_lawful_of_answered hother (by decide)⟩
  · have hother : refundOf 3000 ≠ refundOf 4000 := by decide
    exact ⟨⟨refundOf 3000, .refund 60⟩, by decide, ⟨rfl, rfl⟩,
      not_lawful_of_answered hother (by decide)⟩
  · have hother : adjustBy 500 ≠ adjustBy 900 := by decide
    exact ⟨⟨adjustBy 500, .adjustment 70 "tip-1"⟩, by decide, ⟨rfl, rfl⟩,
      not_lawful_of_answered hother (by decide)⟩

end Keyed

end Breero.Idempotency
