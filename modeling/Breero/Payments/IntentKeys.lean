import Breero.Payments.Intents
import Breero.Payments.Rows

/-!
The keys of `create_intent` in a run.

* `RowStep.paymentsKept` and `Commit.records`: the other transactions keep the payments and
  leave the records;
* `Intending.KeyInv` is what holds in every state: a key that is open has no record, and a
  record is that of a payment;
* `Intending.created_once_per_key`: the law holds in every run.
-/

namespace Breero.Payments
open KeyedTable Transaction Locks Runs

variable {settings : Settings} {db db' : Db} {w : World} {op : Op}

/-! ## Other transactions -/

/-- Every payment is still there. -/
abbrev PaymentsKept (t u : Table Payment) : Prop := Table.Kept (fun _ _ => True) t u

theorem PaymentsKept.same {t u : Table Payment} (h : u = t) : PaymentsKept t u :=
  Table.Kept.of_eq h fun _ => trivial

theorem PaymentsKept.put {t : Table Payment} {p q : Payment} (hp : t.get? p.id = some p)
    (h : SameRefs p q) : PaymentsKept t (t.put q) :=
  Table.Kept.put_found hp h.id trivial fun _ => trivial

theorem Rewritten.paymentsKept {t u : Table Payment} (h : Rewritten t u) : PaymentsKept t u := by
  rcases h with rfl | ⟨p, q, hp, hrefs, _, rfl⟩
  · exact .same rfl
  · exact .put hp hrefs

theorem RowStep.paymentsKept (h : RowStep w op db') :
    PaymentsKept w.db.payments db'.payments := by
  cases h with
  | quiet payments targets => exact payments.paymentsKept
  | created p purpose valid status inserted targets =>
    exact Table.Kept.insert inserted fun _ => trivial
  | purchased lead purchase found available fresh inserted leads payments bookings workRequests
      captured =>
    rcases payments with ⟨_, hsame⟩ | ⟨p, _, _, _, _, hinsert⟩
    · exact .same hsame
    · exact Table.Kept.insert hinsert fun _ => trivial
  | settled p q now after reports found refs status settlement rows =>
    rw [rows]
    have hpayments : after.payments = w.db.payments.put q := settlement.ledger.1
    exact hpayments ▸ PaymentsKept.put found refs
  | released p q reports found refs status rows =>
    rw [rows]
    rw [releaseFailedLeadPurchase_payments]
    exact PaymentsKept.put found refs
  | refunded p whole before found payments targets rows =>
    rw [rows]
    rw [markLeadPurchaseRefunded_payments, payments]
    exact PaymentsKept.put found (by cases whole <;> exact ⟨rfl, rfl, rfl, rfl, rfl⟩)

theorem Settlement.records {payment : Payment} {now : Instant}
    (h : Settlement db payment now db') : db'.idempotencyRecords = db.idempotencyRecords := by
  cases h <;> rfl

theorem SettledIfCaptured.records {payment : Payment} {now : Instant}
    (h : SettledIfCaptured db payment now db') :
    db'.idempotencyRecords = db.idempotencyRecords := by
  rcases h with ⟨_, h⟩ | ⟨_, rfl⟩
  · exact h.records
  · rfl

theorem EventEffect.records {event : StripeEvent} {now : Instant}
    (h : EventEffect db event now db') : db'.idempotencyRecords = db.idempotencyRecords := by
  cases h with
  | intent payment found effect =>
    cases effect with
    | failed code type =>
      exact releaseFailedLeadPurchase_idempotencyRecords _ _
    | canceled type =>
      exact releaseFailedLeadPurchase_idempotencyRecords _ _
    | reported amount db' type received checks settled => exact settled.records
    | ignored type => rfl
  | refund object effect =>
    cases effect with
    | ignored => rfl
    | noted refund status found shown => rfl
    | succeeded refund payment whole found shown paid =>
      exact markLeadPurchaseRefunded_idempotencyRecords _ _
  | ignored same => rw [same]

/-- Only `create_intent` writes records. -/
theorem Commit.records (h : Commit settings w op db')
    (hop : ∀ payload key answer paymentId, op ≠ .createIntent payload key answer paymentId) :
    db'.idempotencyRecords = w.db.idempotencyRecords := by
  cases h with
  | same => rfl
  | created metadata intent records payments purpose checks inserted =>
    exact absurd rfl (hop _ _ _ _)
  | purchased lead leadPurchases paid payment found available fresh inserted intended =>
    rcases createProfessionalLeadIntent_ok intended with ⟨rfl, _⟩ | ⟨_, _, _, _, _, _, rfl⟩
    · rfl
    · rfl
  | captured payment intent db' found status checks settled => exact settled.records
  | refunded payment made refunds log event db' found status positive ofPayment covered inserted
      notCaptured result =>
    rcases result with rfl | ⟨whole, rfl⟩
    · rfl
    · exact markLeadPurchaseRefunded_idempotencyRecords _ _
  | delivered applied paymentEvents fresh effect => exact effect.records
  | noted delivery paymentEvents => rfl

/-! ## A call that commits -/

/-- The record of a key, once its payment is there. -/
def answeredRecord (settings : Settings) (payload : PaymentIntentCreate) (key : String)
    (paymentId : Uuid) : IdempotencyRecord where
  operation := "create_intent"
  idempotencyKey := key
  requestHash := settings.hash payload
  responseCode := some 201
  responseBody := some paymentId

/-- The records with one more. -/
structure RecordAdded (t u : Table IdempotencyRecord) (record : IdempotencyRecord) : Prop where
  self : u.get? (key record) = some record
  others : ∀ k, k ≠ key record → u.get? k = t.get? k
  rows : ∀ other ∈ u.rows, other = record ∨ other ∈ t.rows

/-- A record that is inserted and then answered. -/
theorem RecordAdded.of_insert {t u : Table IdempotencyRecord}
    {record answered : IdempotencyRecord} (hinsert : t.insert? record = some u)
    (hkey : key answered = key record) : RecordAdded t (u.put answered) answered where
  self := by
    have hself := Table.get?_insert_self hinsert
    rw [← hkey] at hself
    exact Table.get?_put_self hself rfl
  others k hk := by
    rw [Table.get?_put_ne hk.symm, Table.get?_insert_ne hinsert (hkey ▸ hk.symm)]
  rows other hother := by
    rcases Table.mem_put.mp hother with ⟨rfl, _⟩ | ⟨hother, hne⟩
    · exact Or.inl rfl
    · rcases (Table.mem_insert hinsert).mp hother with hold | rfl
      · exact Or.inr hold
      · exact absurd hkey.symm hne

theorem finishIntent_ok {payload : PaymentIntentCreate} {key : String}
    {metadata : List (String × String)} {answer : Except Raised ProviderIntent} {paymentId : Uuid}
    {shown : PaymentView}
    (h : finishIntent settings db payload key metadata answer paymentId = .ok (db', shown)) :
    ∃ payment idempotencyRecords payments, payment.id = paymentId ∧ shown = view payment ∧
      db.payments.insert? payment = some payments ∧
      RecordAdded db.idempotencyRecords idempotencyRecords
        (answeredRecord settings payload key paymentId) ∧
      db' = { db with payments, idempotencyRecords } := by
  simp only [finishIntent, seq_committed, orRaise_committed, return_committed,
    Prod.mk.injEq] at h
  obtain ⟨records, hrecord, intent, _, paid, hadd, rfl, rfl⟩ := h
  obtain ⟨_, payments, hinsert, _, rfl⟩ := Db.addPayment_ok hadd
  exact ⟨_, _, payments, rfl, rfl, hinsert, .of_insert hrecord rfl, rfl⟩

theorem beginIntent_new {payload : PaymentIntentCreate} {key : String}
    {metadata : List (String × String)}
    (h : beginIntent settings db payload key = .ok (.inr metadata)) :
    payload.paymentPurpose ≠ .professionalLead ∧
      db.idempotencyRecords.get? ("create_intent", key) = none := by
  simp only [beginIntent, seq_committed, require_committed] at h
  obtain ⟨_, hpurpose, h⟩ := h
  refine ⟨hpurpose, ?_⟩
  cases hrecord : db.idempotencyRecords.get? ("create_intent", key) with
  | none => rfl
  | some existing =>
    rw [hrecord] at h
    simp only [seq_committed, return_committed, reduceCtorEq, and_false, exists_false] at h

/-- What is shown of a key that was used before is its payment. -/
theorem beginIntent_shown {payload : PaymentIntentCreate} {key : String} {shown : PaymentView}
    (h : beginIntent settings db payload key = .ok (.inl shown)) :
    ∃ record, db.idempotencyRecords.get? ("create_intent", key) = some record ∧
      record.responseBody = some shown.id := by
  simp only [beginIntent, seq_committed, require_committed] at h
  obtain ⟨_, _, h⟩ := h
  cases hrecord : db.idempotencyRecords.get? ("create_intent", key) with
  | none =>
    rw [hrecord] at h
    simp only [seq_committed, return_committed, reduceCtorEq, and_false, exists_false] at h
  | some existing =>
    rw [hrecord] at h
    simp only [replayIntent, seq_committed, require_committed, orRaise_committed,
      return_committed, Sum.inl.injEq, Prod.exists, Prod.mk.injEq] at h
    obtain ⟨_, _, ⟨_, _, id, hbody, payment, hpaid, _, rfl⟩, rfl⟩ := h
    have hid : payment.id = id := Table.key_of_get? hpaid
    exact ⟨existing, rfl, hbody.trans (congrArg some hid.symm)⟩

/-- The answer to a key that has its payment. -/
theorem beginIntent_replayed (settings : Settings) (payload : PaymentIntentCreate) {key : String}
    {record : IdempotencyRecord} {id : Uuid} {payment : Payment}
    (hrecord : db.idempotencyRecords.get? ("create_intent", key) = some record)
    (hbody : record.responseBody = some id) (hpaid : db.payments.get? id = some payment) :
    beginIntent settings db payload key =
      if payload.paymentPurpose = .professionalLead then .error leadRefused
      else if record.requestHash = settings.hash payload then .ok (.inl (view payment))
      else .error keyReused := by
  unfold beginIntent
  rw [hrecord]
  by_cases hpurpose : payload.paymentPurpose = .professionalLead
  · simp [hpurpose, require, leadRefused, bind, Except.bind]
  · by_cases hhash : record.requestHash = settings.hash payload
    · simp [hpurpose, hhash, hbody, hpaid, replayIntent, require, orRaise, bind, Except.bind,
        pure, Except.pure]
    · simp [hpurpose, hhash, replayIntent, require, keyReused, bind, Except.bind]

/-- The provider is asked once the record is inserted. -/
theorem finishIntent_raised {payload : PaymentIntentCreate} {key : String}
    {metadata : List (String × String)} {raised : Raised} {paymentId : Uuid}
    (hfree : db.idempotencyRecords.get? ("create_intent", key) = none) :
    finishIntent settings db payload key metadata (.error raised) paymentId = .error raised := by
  let record : IdempotencyRecord := {
    operation := "create_intent", idempotencyKey := key, requestHash := settings.hash payload }
  obtain ⟨records, hinsert⟩ : ∃ u, db.idempotencyRecords.insert? record = some u :=
    Table.insert?_fresh hfree
  simp [finishIntent, record, hinsert, orRaise, bind, Except.bind]

/-! ## The keys -/

namespace Intending

variable {s : Intending} {payloads : List PaymentIntentCreate}

structure KeyInv (settings : Settings) (payloads : List PaymentIntentCreate) (s : Intending) :
    Prop where
  exclusive : Exclusive OpenIntent.locks s.calls
  opened : ∀ call ∈ s.calls, call.payload ∈ payloads ∧
    call.payload.paymentPurpose ≠ .professionalLead ∧
    s.world.db.idempotencyRecords.get? ("create_intent", call.key) = none
  requested : ∀ made ∈ s.created, made.payload ∈ payloads ∧
    made.payload.paymentPurpose ≠ .professionalLead
  recorded : ∀ made ∈ s.created, ∃ record,
    s.world.db.idempotencyRecords.get? ("create_intent", made.key) = some record ∧
      record.requestHash = settings.hash made.payload ∧
      record.responseBody = some made.paymentId
  paid : ∀ made ∈ s.created, ∃ payment, s.world.db.payments.get? made.paymentId = some payment
  made : ∀ record ∈ s.world.db.idempotencyRecords.rows, record.operation = "create_intent" →
    ∃ made ∈ s.created, made.key = record.idempotencyKey
  one : ∀ key, s.created.countP (·.key = key) ≤ 1

theorem KeyInv.erase (h : KeyInv settings payloads s) (position : Nat) :
    KeyInv settings payloads { s with calls := s.calls.eraseIdx position } :=
  { h with
    exclusive := h.exclusive.eraseIdx position
    opened := fun call hcall => h.opened call (List.mem_of_mem_eraseIdx hcall) }

theorem mem_locks {call : OpenIntent} {key : String} :
    IntentLock.idempotencyKey key ∈ call.locks ↔ call.key = key := by
  simp [OpenIntent.locks, eq_comm]

/-! ### Steps -/

theorem KeyInv.beginOf (h : KeyInv settings payloads s) {payload : PaymentIntentCreate}
    (hpayload : payload ∈ payloads) (key : String) :
    KeyInv settings payloads (Intending.beginOf settings s payload key).1 := by
  unfold Intending.beginOf
  split
  · exact h
  · exact h
  · next metadata hnew =>
    obtain ⟨hpurpose, hnone⟩ := beginIntent_new hnew
    dsimp only
    split
    · next hfree =>
      refine { h with exclusive := h.exclusive.push hfree, opened := ?_ }
      intro call hcall
      rcases List.mem_append.mp hcall with hcall | hcall
      · exact h.opened call hcall
      · rw [List.mem_singleton] at hcall
        subst hcall
        exact ⟨hpayload, hpurpose, hnone⟩
    · exact h

theorem KeyInv.finishOf (h : KeyInv settings payloads s) {call : OpenIntent} {position : Nat}
    (hat : s.calls[position]? = some call) (answer : Except Raised ProviderIntent)
    (paymentId : Uuid) :
    KeyInv settings payloads (Intending.finishOf settings s call position answer paymentId).1 := by
  unfold Intending.finishOf
  dsimp only
  split
  · exact h.erase position
  · next db' shown hok =>
    obtain ⟨payment, records, payments, hid, _, hinsert, hadded, rfl⟩ := finishIntent_ok hok
    obtain ⟨hpayload, hpurpose, hnone⟩ := h.opened call (List.mem_of_getElem? hat)
    have hnew : ∀ made ∈ s.created, made.key ≠ call.key := by
      intro made hmade heq
      obtain ⟨record, hrecord, _⟩ := h.recorded made hmade
      rw [heq, hnone] at hrecord
      cases hrecord
    have hother : ∀ key, key ≠ call.key → records.get? ("create_intent", key) =
        s.world.db.idempotencyRecords.get? ("create_intent", key) := by
      intro key hkey
      refine hadded.others _ fun heq => hkey ?_
      exact congrArg Prod.snd heq
    constructor
    · exact h.exclusive.eraseIdx position
    · intro other hmem
      obtain ⟨hin, hnot, hfree⟩ := h.opened other (List.mem_of_mem_eraseIdx hmem)
      have hne : other.key ≠ call.key := by
        intro heq
        exact h.exclusive.others hat other hmem _ (mem_locks.mpr rfl) (mem_locks.mpr heq.symm)
      exact ⟨hin, hnot, (hother _ hne).trans hfree⟩
    · intro made hmade
      rcases List.mem_append.mp hmade with hmade | hmade
      · exact h.requested made hmade
      · rw [List.mem_singleton] at hmade
        exact hmade ▸ ⟨hpayload, hpurpose⟩
    · intro made hmade
      rcases List.mem_append.mp hmade with hmade | hmade
      · obtain ⟨record, hrecord, hrest⟩ := h.recorded made hmade
        exact ⟨record, (hother _ (hnew made hmade)).trans hrecord, hrest⟩
      · rw [List.mem_singleton] at hmade
        subst hmade
        exact ⟨_, hadded.self, rfl, rfl⟩
    · intro made hmade
      rcases List.mem_append.mp hmade with hmade | hmade
      · obtain ⟨row, hrow⟩ := h.paid made hmade
        exact ⟨row, Table.get?_insert_of_some hinsert hrow⟩
      · rw [List.mem_singleton] at hmade
        subst hmade
        exact ⟨payment, hid ▸ Table.get?_insert_self hinsert⟩
    · intro record hrecord hoperation
      rcases hadded.rows record hrecord with rfl | hold
      · exact ⟨_, List.mem_append_right _ (List.mem_singleton.mpr rfl), rfl⟩
      · obtain ⟨made, hmade, hkey⟩ := h.made record hold hoperation
        exact ⟨made, List.mem_append_left _ hmade, hkey⟩
    · intro key
      rw [List.countP_append, List.countP_singleton]
      by_cases heq : call.key = key
      · have hzero : s.created.countP (·.key = key) = 0 := by
          refine List.countP_eq_zero.mpr fun made hmade => ?_
          simpa [← heq] using hnew made hmade
        simp [hzero, heq]
      · simpa [heq] using h.one key

/-- Another transaction of the payment service. -/
theorem KeyInv.other (h : KeyInv settings payloads s) {op : Op}
    (hop : ∀ payload key answer paymentId, op ≠ .createIntent payload key answer paymentId) :
    KeyInv settings payloads { s with world := Payments.exec settings s.world op } := by
  have hrecords := (exec_commit settings s.world op).records hop
  have hkept := (exec_rowStep settings s.world op).paymentsKept
  refine { h with opened := ?_, recorded := ?_, paid := ?_, made := ?_ }
  · intro call hcall
    rw [hrecords]
    exact h.opened call hcall
  · intro made hmade
    rw [hrecords]
    exact h.recorded made hmade
  · intro made hmade
    obtain ⟨payment, hpaid⟩ := h.paid made hmade
    obtain ⟨later, hlater, _⟩ := hkept.get? hpaid
    exact ⟨later, hlater⟩
  · rw [hrecords]
    exact h.made

/-- The requests of a run. -/
def requests (ops : List IntentOp) : List PaymentIntentCreate :=
  ops.filterMap fun
    | .begin payload _ => some payload
    | _ => none

/-- The request of a step is one of the payloads. -/
def Among (payloads : List PaymentIntentCreate) (op : IntentOp) : Prop :=
  ∀ payload key, op = .begin payload key → payload ∈ payloads

theorem KeyInv.exec (h : KeyInv settings payloads s) {op : IntentOp} (hop : Among payloads op) :
    KeyInv settings payloads (Intending.exec settings s op) := by
  cases op with
  | begin payload key =>
    simp only [Intending.exec, act]
    split
    · exact h
    · exact h.beginOf (hop payload key rfl) key
  | finish position answer paymentId =>
    simp only [Intending.exec, act]
    split
    · exact h
    · next call hat => exact h.finishOf hat answer paymentId
  | abort position => exact h.erase position
  | other op =>
    cases op with
    | createIntent payload key answer paymentId => exact h
    | _ => exact h.other (by simp)

/-! ### Answers -/

theorem KeyInv.oncePerKey (h : KeyInv settings payloads s) : OncePerKey s where
  payment := h.one
  record key := by
    refine Table.countP_le_one ("create_intent", key) fun record _ hof => ?_
    simp only [Bool.and_eq_true, decide_eq_true_eq] at hof
    exact Prod.ext hof.1 hof.2
  both key := by
    constructor
    · rintro ⟨made, hmade, rfl⟩
      obtain ⟨record, hrecord, _⟩ := h.recorded made hmade
      have hkey : (record.operation, record.idempotencyKey) = ("create_intent", made.key) :=
        Table.key_of_get? hrecord
      injection hkey with hoperation hkey
      exact ⟨record, Table.mem_of_get? hrecord, hoperation, hkey⟩
    · rintro ⟨record, hrecord, hoperation, rfl⟩
      exact h.made record hrecord hoperation

/-- The hash of a request tells it from every other one of the payloads. -/
def Canonical (settings : Settings) (payloads : List PaymentIntentCreate) : Prop :=
  ∀ p ∈ payloads, ∀ q ∈ payloads, settings.hash p = settings.hash q ↔ SameRequest p q

instance (settings : Settings) (payloads : List PaymentIntentCreate) :
    Decidable (Canonical settings payloads) :=
  inferInstanceAs (Decidable (∀ p ∈ payloads, ∀ q ∈ payloads, _ ↔ _))

theorem KeyInv.keyFree (h : KeyInv settings payloads s) {made : CreatedIntent}
    (hmade : made ∈ s.created) : s.keyFree made.key := by
  intro call hcall lock hlock hwanted
  rw [List.mem_singleton] at hwanted
  subst hwanted
  obtain ⟨record, hrecord, _⟩ := h.recorded made hmade
  have hnone := (h.opened call hcall).2.2
  rw [mem_locks.mp hlock, hrecord] at hnone
  cases hnone

/-- The answer to a request whose key has its payment. -/
theorem KeyInv.act_begin (h : KeyInv settings payloads s) {made : CreatedIntent}
    (hmade : made ∈ s.created) (payload : PaymentIntentCreate) :
    ∃ payment, s.world.db.payments.get? made.paymentId = some payment ∧
      act settings s (.begin payload made.key) = (s, some (
        if payload.paymentPurpose = .professionalLead then .error leadRefused
        else if settings.hash made.payload = settings.hash payload then .ok (view payment)
        else .error keyReused)) := by
  obtain ⟨record, hrecord, hhash, hbody⟩ := h.recorded made hmade
  obtain ⟨payment, hpaid⟩ := h.paid made hmade
  refine ⟨payment, hpaid, ?_⟩
  have hbegin := beginIntent_replayed settings payload hrecord hbody hpaid
  have hfree : ¬ (payload.paymentPurpose ≠ .professionalLead ∧ ¬ s.keyFree made.key) :=
    fun hwaits => hwaits.2 (h.keyFree hmade)
  rw [hhash] at hbegin
  simp only [act, if_neg hfree, Intending.beginOf, hbegin]
  by_cases hpurpose : payload.paymentPurpose = .professionalLead
  · simp only [if_pos hpurpose]
  · by_cases hsame : settings.hash made.payload = settings.hash payload
    · simp only [if_neg hpurpose, if_pos hsame]
    · simp only [if_neg hpurpose, if_neg hsame]

theorem KeyInv.replayed (h : KeyInv settings payloads s) (hcanonical : Canonical settings payloads)
    {payload : PaymentIntentCreate} (hpayload : payload ∈ payloads) {made : CreatedIntent}
    (hmade : made ∈ s.created) : Replayed settings s payload made := by
  obtain ⟨payment, hpaid, hact⟩ := h.act_begin hmade payload
  obtain ⟨hrequested, hpurpose⟩ := h.requested made hmade
  have hhash := hcanonical made.payload hrequested payload hpayload
  constructor
  · simp only [Intending.exec, hact]
  · intro hsame
    have hpurpose' : payload.paymentPurpose ≠ .professionalLead := by
      have heq := congrArg PaymentIntentCreate.paymentPurpose hsame.1
      exact fun hlead => hpurpose (heq.trans hlead)
    refine ⟨payment, hpaid, ?_⟩
    simp only [reply, hact, if_neg hpurpose', if_pos (hhash.mpr hsame)]
  · intro hdifferent
    have hne : settings.hash made.payload ≠ settings.hash payload :=
      fun heq => hdifferent (hhash.mp heq)
    simp only [reply, hact, if_neg hne]
    split <;> rfl

/-- A call that is gone has left no record, and its key is free. -/
theorem KeyInv.left (h : KeyInv settings payloads s) {op : IntentOp} {call : OpenIntent}
    {position : Nat} (hat : s.calls[position]? = some call)
    (hexec : Intending.exec settings s op = { s with calls := s.calls.eraseIdx position }) :
    Failed settings s op call where
  world := by rw [hexec]
  created := by rw [hexec]
  record := by
    rw [hexec]
    exact (h.opened call (List.mem_of_getElem? hat)).2.2
  free := by
    rw [hexec]
    intro other hother lock hlock hwanted
    rw [List.mem_singleton] at hwanted
    subst hwanted
    exact h.exclusive.others hat other hother _ hlock (mem_locks.mpr rfl)

theorem KeyInv.answered_begin (h : KeyInv settings payloads s) {payload : PaymentIntentCreate}
    {key : String} {shown : PaymentView}
    (hreply : reply settings s (.begin payload key) = some (.ok shown)) :
    ∃ made ∈ s.created, made.paymentId = shown.id := by
  simp only [reply, act] at hreply
  split at hreply
  · cases hreply
  · unfold Intending.beginOf at hreply
    split at hreply
    · cases hreply
    · next hshown =>
      cases hreply
      obtain ⟨record, hrecord, hbody⟩ := beginIntent_shown hshown
      have hkey : (record.operation, record.idempotencyKey) = ("create_intent", key) :=
        Table.key_of_get? hrecord
      injection hkey with hoperation hkey
      obtain ⟨made, hmade, hof⟩ := h.made record (Table.mem_of_get? hrecord) hoperation
      obtain ⟨record', hrecord', _, hbody'⟩ := h.recorded made hmade
      rw [hof, hkey, hrecord] at hrecord'
      cases hrecord'
      exact ⟨made, hmade, Option.some.inj (hbody'.symm.trans hbody)⟩
    · dsimp only at hreply
      split at hreply
      · cases hreply
      · cases hreply

theorem exec_begin_created (payload : PaymentIntentCreate) (key : String) :
    (Intending.exec settings s (.begin payload key)).created = s.created := by
  simp only [Intending.exec, act]
  split
  · rfl
  · unfold Intending.beginOf
    split
    · rfl
    · rfl
    · dsimp only
      split <;> rfl

theorem KeyInv.answers (h : KeyInv settings payloads s) (hcanonical : Canonical settings payloads)
    {op : IntentOp} (hop : Among payloads op) : Answers settings s op := by
  constructor
  · rintro payload key rfl made hmade rfl
    exact h.replayed hcanonical (hop payload _ rfl) hmade
  · intro shown hreply
    cases op with
    | begin payload key =>
      rw [exec_begin_created]
      exact h.answered_begin hreply
    | finish position answer paymentId =>
      cases hat : s.calls[position]? with
      | none => simp [reply, act, hat] at hreply
      | some call =>
        simp only [Intending.exec, reply, act, hat, Intending.finishOf] at hreply ⊢
        split at hreply
        · cases hreply
        · next hok =>
          cases hreply
          obtain ⟨payment, _, _, hid, hshown, _⟩ := finishIntent_ok hok
          refine ⟨_, List.mem_append_right _ (List.mem_singleton.mpr rfl), ?_⟩
          rw [hshown]
          exact hid.symm
    | abort position => cases hreply
    | other op => cases op <;> cases hreply
  · rintro position answer paymentId rfl call hat raised hreply
    refine h.left hat ?_
    simp only [Intending.exec, reply, act, hat, Intending.finishOf] at hreply ⊢
    split at hreply
    · rfl
    · cases hreply
  · rintro position rfl call hat
    exact h.left hat rfl
  · rintro position raised paymentId rfl call hat
    have hnone := (h.opened call (List.mem_of_getElem? hat)).2.2
    simp only [reply, act, hat, Intending.finishOf, finishIntent_raised hnone]

/-! ### Runs -/

theorem along_among : ∀ (ops : List IntentOp) (s : Intending),
    (∀ payload ∈ requests ops, payload ∈ payloads) →
      Along (Intending.exec settings) (fun _ op => Among payloads op) s ops
  | [], _, _ => trivial
  | op :: ops, s, h => by
    refine ⟨?_, along_among ops _ fun payload hmem => h payload ?_⟩
    · rintro payload key rfl
      exact h payload (by simp [requests])
    · unfold requests at hmem ⊢
      rw [List.filterMap_cons]
      split
      · exact hmem
      · exact List.mem_cons_of_mem _ hmem

/-- A key has at most one payment and one record, whatever requests with it run at the same
time; later ones are answered from them, and one that fails leaves nothing. -/
theorem created_once_per_key (settings : Settings) (world : World) (ops : List IntentOp)
    (hstart : ∀ record ∈ world.db.idempotencyRecords.rows, record.operation ≠ "create_intent")
    (hcanonical : Canonical settings (requests ops)) :
    Always (Intending.exec settings) OncePerKey { world } ops ∧
      Along (Intending.exec settings) (Answers settings) { world } ops := by
  have hinv : KeyInv settings (requests ops) { world } := by
    refine ⟨List.Pairwise.nil, ?_, ?_, ?_, ?_, ?_, fun _ => Nat.zero_le _⟩
    · exact fun _ h => absurd h List.not_mem_nil
    · exact fun _ h => absurd h List.not_mem_nil
    · exact fun _ h => absurd h List.not_mem_nil
    · exact fun _ h => absurd h List.not_mem_nil
    · exact fun record hrecord hoperation => absurd hoperation (hstart record hrecord)
  have hamong :
      Along (Intending.exec settings) (fun _ op => Among (requests ops) op) { world } ops :=
    along_among ops _ fun _ h => h
  constructor
  · exact (always_of_inv (fun s op h hop => h.exec hop) hinv hamong).imp
      fun s h => h.oncePerKey
  · exact Along.imp (fun s op h hop => h.exec hop) (fun s op h hop => h.answers hcanonical hop)
      hinv hamong

/-- The provider fails, the key is used again twice, and then for another amount. -/
def repeatedPay : List IntentOp := [
  .begin visitPayload "pay",
  .begin visitPayload "pay",
  .finish 0 (.error (.paymentError "timeout")) 10,
  .begin visitPayload "pay",
  .finish 0 (.ok (intentAt "pi_1" "requires_payment_method" 0)) 10,
  .begin visitPayload "pay",
  .begin { visitPayload with amountMinor := 5000 } "pay"]

theorem repeatedPay_created_once :
    Always (Intending.exec sampleSettings) OncePerKey { world := visitWorld } repeatedPay ∧
      Along (Intending.exec sampleSettings) (Answers sampleSettings) { world := visitWorld }
        repeatedPay :=
  created_once_per_key sampleSettings visitWorld repeatedPay (by decide) (by decide)

def leadPayload : PaymentIntentCreate where
  leadPurchaseId := some 5
  paymentPurpose := .professionalLead
  amountMinor := 2500

/-- A request for a lead is not told that the key was used for another request. -/
theorem lead_request_no_conflict :
    (∃ made ∈ (run (Intending.exec sampleSettings) { world := visitWorld } repeatedPay).created,
        made.key = "pay" ∧ ¬ SameRequest made.payload leadPayload) ∧
      reply sampleSettings (run (Intending.exec sampleSettings) { world := visitWorld } repeatedPay)
        (.begin leadPayload "pay") = some (.error leadRefused) ∧
      ∀ message, leadRefused ≠ .idempotencyConflict message := by
  refine ⟨by decide, rfl, ?_⟩
  intro message h
  cases h

end Intending

end Breero.Payments
