import Breero.Crm.Convergence
import Breero.Middleware.Signature
import Breero.Outbox.Effects

/-!
Events on their way from the outbox through the middleware to the CRM.

The dispatchers post the events that they have claimed. What the middleware does with what it has
got is open: it answers anything, or nothing, and hands any of the envelopes to the CRM, in any
order, at any time and as often as it likes. Dispatchers crash and their leases are taken over.

* `World` has the outbox, the requests that were posted with their answers, and the CRM;
* `World.exec` is what a step does;
* `FaithfulInv` is what every run keeps of the way of an event.
-/

namespace Breero.Middleware
open KeyedTable Transaction Runs
open Outbox (OutboxEvent Failure Ending EventDeliveryResult)

/-! ## Steps -/

structure World where
  outbox : Outbox.World := {}
  /-- what the last call of a dispatcher came to before it was answered -/
  posted : Uuid → Except Failure Request := fun _ => .error Outbox.unhandledOutboxEvent
  /-- the requests, in the order in which they were sent -/
  sent : List Request := []
  /-- the requests that have ended, and how -/
  ended : List (Request × Response) := []
  crm : Crm.World

inductive Op
  /-- any step of the outbox but the calls of the handler -/
  | outbox (op : Outbox.Op)
  /-- the handler is called for the first event of the batch, and posts it -/
  | call (worker : Uuid) (settings : Settings) (now : Instant) (nonce : String)
  /-- the call ends, `email.send` or the request having ended -/
  | answer (worker : Uuid) (email : Option Failure) (response : Response)
  /-- the middleware hands the envelope of a request to the CRM -/
  | forward (n : Nat) (drawn : Crm.Drawn) (either : Bool)

/-- What the handler posts for an event. -/
def posting (env : Env) (settings : Settings) (event : OutboxEvent) (now : Instant)
    (nonce : String) : Except Failure Request :=
  if startsWith event.eventType "breero." then post env settings event now nonce
  else .error Outbox.unhandledOutboxEvent

/-- What `adapter.deliver` comes to, given what it posted. -/
def delivering (env : Env) (posted : Except Failure Request) (response : Response) :
    Except Failure EventDeliveryResult := do
  let request ← posted
  answered env request.envelope response

namespace World
variable (env : Env) (crmEnv : Crm.Env)

/-- The event for which the dispatcher is calling the handler. -/
def callingOf (w : World) (worker : Uuid) : Option OutboxEvent :=
  (w.outbox.workers.get? worker).bind fun worker =>
    match worker.batch, worker.stage with
    | event :: _, .calling => some event
    | _, _ => none

def callOf (w : World) (worker : Uuid) (posted : Except Failure Request) : World := { w with
  outbox := w.outbox.exec (.call worker)
  posted := fun id => if id = worker then posted else w.posted id
  sent := match posted with
    | .ok request => w.sent ++ [request]
    | .error _ => w.sent }

def answerOf (w : World) (worker : Uuid) (email : Option Failure) (response : Response) : World :=
  { w with
    outbox := w.outbox.exec (.answer worker email (delivering env (w.posted worker) response))
    ended := match w.posted worker with
      | .ok request => w.ended ++ [(request, response)]
      | .error _ => w.ended }

def forwardOf (w : World) (request : Request) (drawn : Crm.Drawn) (either : Bool) : World :=
  { w with crm := Crm.exec crmEnv w.crm { envelope := request.envelope, drawn, either } }

def exec (w : World) : Op → World
  | .outbox op =>
    match op with
    | .call _ | .answer .. => w
    | op => { w with outbox := w.outbox.exec op }
  | .call worker settings now nonce =>
    match w.outbox.nextOf worker with
    | some event => w.callOf worker (posting env settings event now nonce)
    | none => w
  | .answer worker email response =>
    if (w.callingOf worker).isSome then w.answerOf env worker email response else w
  | .forward n drawn either =>
    match w.sent[n]? with
    | some request => w.forwardOf crmEnv request drawn either
    | none => w

end World

/-! ## Laws -/

/-- The answer names the event of the envelope and accepts it. -/
def Acknowledges (envelope : Crm.Envelope) (response : Response) : Prop :=
  ∃ members, response = .json (.obj members) ∧
    JsonText.getMember members (JsonText.ofString "event_id") =
      .str (JsonText.ofString envelope.eventId) ∧
    ∃ status ∈ ackStatuses, JsonText.getMember members (JsonText.ofString "status") =
      .str (JsonText.ofString status)

variable (env : Env)

/-- A request for the event has been acknowledged. -/
def Acknowledged (w : World) (event : OutboxEvent) : Prop :=
  ∃ ended ∈ w.ended, ended.1.envelope = buildEventEnvelope env event ∧
    Acknowledges ended.1.envelope ended.2

/-- What reaches the CRM is the envelope of a stored event of an allowed type, and no event
reaches it twice. -/
def RoutesStored (w : World) : Prop :=
  Crm.RoutedOnce w.crm ∧
    ∀ r ∈ w.crm.routed, ∃ row ∈ w.outbox.db.events.rows, row.eventType ∈ allowedEvents ∧
      r.envelope = buildEventEnvelope env row

/-- All requests for an event have the same body and the same idempotency key. -/
def PostsSame (w : World) : Prop :=
  ∀ request ∈ w.sent, ∀ request' ∈ w.sent,
    request.envelope.eventId = request'.envelope.eventId →
      request.body = request'.body ∧ request.envelope = request'.envelope

/-- What is delivered, the middleware has acknowledged. -/
def DeliversAcknowledged (w : World) : Prop :=
  ∀ row ∈ w.outbox.db.events.rows, startsWith row.eventType "breero." →
    row.status = .delivered → Acknowledged env w row

/-! ## What no step changes of an event -/

/-- The columns that are written once. -/
def content (event : OutboxEvent) :=
  (event.id, event.createdAt, event.aggregateId, event.eventType, event.aggregateVersion,
    event.schemaVersion, event.idempotencyKey, event.payload)

theorem content_eq_iff {event event' : OutboxEvent} : content event = content event' ↔
    event.id = event'.id ∧ event.createdAt = event'.createdAt ∧
      event.aggregateId = event'.aggregateId ∧ event.eventType = event'.eventType ∧
      event.aggregateVersion = event'.aggregateVersion ∧
      event.schemaVersion = event'.schemaVersion ∧
      event.idempotencyKey = event'.idempotencyKey ∧ event.payload = event'.payload := by
  simp only [content, Prod.mk.injEq]

theorem buildEventEnvelope_congr {event event' : OutboxEvent} (h : content event = content event') :
    buildEventEnvelope env event = buildEventEnvelope env event' := by
  obtain ⟨hid, hcreated, haggregate, htype, hversion, hschema, hkey, hpayload⟩ :=
    content_eq_iff.mp h
  simp only [buildEventEnvelope, hid, hcreated, haggregate, htype, hversion, hschema, hkey,
    hpayload]

variable {env}

theorem moved_content {s s' : Outbox.World} {op : Outbox.Op} {row row' : OutboxEvent}
    (h : Outbox.Moved s s' op row row') : content row' = content row := by
  cases h with
  | activated =>
    dsimp only [Outbox.activated]
    split <;> rfl
  | kept | parked | claimed | finalized | retried => rfl

/-- The row of the event is still there. -/
theorem stored_step {s s' : Outbox.World} {op : Outbox.Op} (h : Outbox.Step s op s')
    {event row : OutboxEvent} (hrow : row ∈ s.db.events.rows)
    (hsame : content row = content event) :
    ∃ row' ∈ s'.db.events.rows, content row' = content event := by
  obtain ⟨row', hget, hmoved⟩ := h.moved row hrow
  exact ⟨row', Table.mem_of_get? hget, (moved_content hmoved).trans hsame⟩

/-! ## Calls under way -/

/-- Where a dispatcher comes from that has called the handler and not finalized yet. -/
inductive Underway (s : Outbox.World) : Outbox.Op → Outbox.Worker → Prop
  | kept {op : Outbox.Op} {worker : Outbox.Worker} (mem : worker ∈ s.workers.rows) :
      Underway s op worker
  | called {worker : Outbox.Worker} {event : OutboxEvent} {batch : List OutboxEvent}
      (found : s.workers.get? worker.id = some worker) (first : worker.batch = event :: batch)
      (idle : worker.stage = .idle) :
      Underway s (.call worker.id) { worker with stage := .calling }
  | answered {worker : Outbox.Worker} {event : OutboxEvent} {batch : List OutboxEvent}
      {email : Option Failure} {adapter : Except Failure EventDeliveryResult}
      (found : s.workers.get? worker.id = some worker) (first : worker.batch = event :: batch)
      (calling : worker.stage = .calling) :
      Underway s (.answer worker.id email adapter) { worker with
        stage := .called (Outbox.deliverOutboxEvent s.db.submissions event email adapter) }

theorem step_underway {s s' : Outbox.World} {op : Outbox.Op} (h : Outbox.Step s op s')
    {worker' : Outbox.Worker} (hmem : worker' ∈ s'.workers.rows) (hstage : worker'.stage ≠ .idle) :
    Underway s op worker' := by
  cases h with
  | idle | accepted | emitted | activated | parked | retried => exact .kept hmem
  | claimed inserted =>
    rcases (Table.mem_insert inserted).mp hmem with hmem | rfl
    · exact .kept hmem
    · exact absurd rfl hstage
  | called found first idle =>
    rcases Table.mem_put.mp hmem with ⟨rfl, _⟩ | ⟨hmem, _⟩
    · exact .called found first idle
    · exact .kept hmem
  | answered found first calling =>
    rcases Table.mem_put.mp hmem with ⟨rfl, _⟩ | ⟨hmem, _⟩
    · exact .answered found first calling
    · exact .kept hmem
  | finalized | crashed =>
    rcases Table.mem_put.mp hmem with ⟨rfl, _⟩ | ⟨hmem, _⟩
    · exact absurd rfl hstage
    · exact .kept hmem

/-- A delivered event was delivered before, or is finalized after a call that returned. -/
theorem step_delivered {s s' : Outbox.World} {op : Outbox.Op} (h : Outbox.Step s op s')
    {row' : OutboxEvent} (hmem : row' ∈ s'.db.events.rows) (hstatus : row'.status = .delivered) :
    ∃ row ∈ s.db.events.rows, content row' = content row ∧
      (row.status = .delivered ∨ ∃ worker ∈ s.workers.rows, ∃ event batch delivered,
        worker.batch = event :: batch ∧ worker.stage = .called (.returned delivered) ∧
        event.id = row.id) := by
  rcases h.row hmem with ⟨row, hrow, _, hmoved⟩ | ⟨hcreated, _⟩
  · refine ⟨row, hrow, moved_content hmoved, ?_⟩
    cases hmoved with
    | kept => exact .inl hstatus
    | activated =>
      rw [(Outbox.activated_columns _ _).1] at hstatus
      cases hstatus
    | parked | claimed | retried => cases hstatus
    | @finalized worker event batch ending now jitter _ found first called own =>
      cases ending with
      | returned delivered =>
        exact .inr ⟨worker, Table.mem_of_get? found, event, batch, delivered, first, called, own⟩
      | raised failure =>
        have hfailed : (Outbox.failed now jitter failure event).status ≠ .delivered := by
          rw [Outbox.failed_status]
          split
          · simp
          · split <;> simp
        have hmerged : Outbox.column event.status
            (Outbox.failed now jitter failure event).status row.status = .delivered := hstatus
        unfold Outbox.column at hmerged
        split at hmerged
        · exact .inl hmerged
        · exact absurd hmerged hfailed
  · cases hcreated with
    | @accepted settings =>
      cases henabled : settings.middlewareEnabled <;>
        simp [PublicSubmissions.newEvent, henabled] at hstatus
    | emitted default =>
      have hpending := default.2.1
      rw [hstatus] at hpending
      simp at hpending

/-! ## The invariant -/

/-- The event is in the outbox. -/
def World.Stores (w : World) (event : OutboxEvent) : Prop :=
  ∃ row ∈ w.outbox.db.events.rows, content row = content event

/-- The request is of an event in the outbox. -/
def SentOf (env : Env) (w : World) (request : Request) : Prop :=
  request.body = canonicalBody env request.envelope ∧
    ∃ event, w.Stores event ∧ event.eventType ∈ allowedEvents ∧
      request.envelope = buildEventEnvelope env event

structure FaithfulInv (env : Env) (crmEnv : Crm.Env) (w : World) : Prop where
  crm : Crm.Inv crmEnv w.crm
  copies : ∀ worker ∈ w.outbox.workers.rows, ∀ copy ∈ worker.batch, w.Stores copy
  calling : ∀ worker ∈ w.outbox.workers.rows, worker.stage = .calling →
    ∀ event ∈ worker.batch.head?, ∀ request, w.posted worker.id = .ok request →
      request.envelope = buildEventEnvelope env event
  called : ∀ worker ∈ w.outbox.workers.rows, ∀ delivered,
    worker.stage = .called (.returned delivered) → ∀ event ∈ worker.batch.head?,
      startsWith event.eventType "breero." → Acknowledged env w event
  sent : ∀ request ∈ w.sent, SentOf env w request
  routed : ∀ r ∈ w.crm.routed, ∃ request ∈ w.sent, r.envelope = request.envelope
  delivered : DeliversAcknowledged env w

variable {crmEnv : Crm.Env} {w w' : World} {op : Outbox.Op}

theorem Acknowledged.mono {event event' : OutboxEvent} (h : Acknowledged env w event)
    (hended : w.ended ⊆ w'.ended) (hsame : content event = content event') :
    Acknowledged env w' event' := by
  obtain ⟨ended, hmem, henvelope, hack⟩ := h
  exact ⟨ended, hended hmem, henvelope.trans (buildEventEnvelope_congr env hsame), hack⟩

theorem stores_step (h : Outbox.Step w.outbox op w'.outbox) {event : OutboxEvent}
    (hstores : w.Stores event) : w'.Stores event := by
  obtain ⟨row, hrow, hsame⟩ := hstores
  exact stored_step h hrow hsame

theorem copies_step (h : FaithfulInv env crmEnv w) (hstep : Outbox.Step w.outbox op w'.outbox) :
    ∀ worker ∈ w'.outbox.workers.rows, ∀ copy ∈ worker.batch, w'.Stores copy := by
  intro worker' hworker copy hcopy
  apply stores_step hstep
  rcases hstep.batch hworker with ⟨worker, hmem, hcontinues⟩ | ⟨skipped, limit, now, _, _, hclaim⟩
  · exact h.copies worker hmem copy (hcontinues.suffix.subset hcopy)
  · rw [hclaim] at hcopy
    obtain ⟨event, hevent, token, _, _, rfl⟩ := Outbox.mem_claimEach hcopy
    exact ⟨event, (Outbox.mem_claimable hevent).1, rfl⟩

theorem delivered_step (h : FaithfulInv env crmEnv w)
    (hstep : Outbox.Step w.outbox op w'.outbox) (hended : w.ended ⊆ w'.ended) :
    DeliversAcknowledged env w' := by
  intro row' hmem htype hstatus
  obtain ⟨row, hrow, hsame, hbefore⟩ := step_delivered hstep hmem hstatus
  have hstarts : startsWith row.eventType "breero." := (content_eq_iff.mp hsame).2.2.2.1 ▸ htype
  rcases hbefore with hdelivered | ⟨worker, hworker, event, batch, delivered, hfirst, hcalled, hid⟩
  · exact (h.delivered row hrow hstarts hdelivered).mono hended hsame.symm
  · -- the copy that is finalized has the columns of the row
    obtain ⟨stored, hstored, hcopy⟩ := h.copies worker hworker event (hfirst ▸ List.mem_cons_self)
    obtain rfl : stored = row :=
      Table.eq_of_key hstored hrow ((content_eq_iff.mp hcopy).1.trans hid)
    have hack := h.called worker hworker delivered hcalled event (by rw [hfirst]; rfl)
      ((content_eq_iff.mp hcopy).2.2.2.1 ▸ hstarts)
    exact hack.mono hended (hcopy.symm.trans hsame.symm)

theorem calling_kept (h : FaithfulInv env crmEnv w) (hstep : Outbox.Step w.outbox op w'.outbox)
    (hcall : ∀ worker, op ≠ .call worker) (hposted : w'.posted = w.posted) :
    ∀ worker ∈ w'.outbox.workers.rows, worker.stage = .calling →
      ∀ event ∈ worker.batch.head?, ∀ request, w'.posted worker.id = .ok request →
        request.envelope = buildEventEnvelope env event := by
  intro worker hworker hstage
  rw [hposted]
  cases step_underway hstep hworker (by simp [hstage]) with
  | kept mem => exact h.calling worker mem hstage
  | called => exact absurd rfl (hcall _)
  | answered => cases hstage

theorem called_kept (h : FaithfulInv env crmEnv w) (hstep : Outbox.Step w.outbox op w'.outbox)
    (hanswer : ∀ worker email adapter, op ≠ .answer worker email adapter)
    (hended : w.ended ⊆ w'.ended) :
    ∀ worker ∈ w'.outbox.workers.rows, ∀ delivered, worker.stage = .called (.returned delivered) →
      ∀ event ∈ worker.batch.head?, startsWith event.eventType "breero." →
        Acknowledged env w' event := by
  intro worker hworker delivered hstage event hevent htype
  cases step_underway hstep hworker (by simp [hstage]) with
  | kept mem => exact (h.called worker mem delivered hstage event hevent htype).mono hended rfl
  | called => cases hstage
  | answered => exact absurd rfl (hanswer _ _ _)

theorem sent_kept (h : FaithfulInv env crmEnv w) (hstep : Outbox.Step w.outbox op w'.outbox)
    {request : Request} (hmem : request ∈ w.sent) : SentOf env w' request := by
  obtain ⟨hbody, event, hstores, hallowed, henvelope⟩ := h.sent request hmem
  exact ⟨hbody, event, stores_step hstep hstores, hallowed, henvelope⟩

/-! ## The steps -/

theorem FaithfulInv.outboxStep (h : FaithfulInv env crmEnv w)
    (hcall : ∀ worker, op ≠ .call worker)
    (hanswer : ∀ worker email adapter, op ≠ .answer worker email adapter) :
    FaithfulInv env crmEnv { w with outbox := w.outbox.exec op } := by
  have hstep := Outbox.exec_step w.outbox op
  exact {
    crm := h.crm
    copies := copies_step h hstep
    calling := calling_kept h hstep hcall rfl
    called := called_kept h hstep hanswer (List.Subset.refl _)
    sent := fun request hmem => sent_kept h hstep hmem
    routed := h.routed
    delivered := delivered_step h hstep (List.Subset.refl _) }

theorem nextOf_eq_some {s : Outbox.World} {worker : Uuid} {event : OutboxEvent}
    (h : s.nextOf worker = some event) : ∃ found, s.workers.get? worker = some found ∧
      found.batch.head? = some event ∧ found.stage = .idle := by
  simp only [Outbox.World.nextOf, Option.bind_eq_some_iff] at h
  obtain ⟨found, hfound, h⟩ := h
  refine ⟨found, hfound, ?_⟩
  split at h
  · next hbatch hidle =>
    rw [hbatch, List.head?_cons]
    exact ⟨h, hidle⟩
  · cases h

theorem posting_ok {settings : Settings} {event : OutboxEvent} {now : Instant} {nonce : String}
    {request : Request} (h : posting env settings event now nonce = .ok request) :
    Posted env settings event now nonce request := by
  unfold posting at h
  split at h
  · exact post_ok h
  · cases h

theorem FaithfulInv.callStep (h : FaithfulInv env crmEnv w) {worker : Uuid} {event : OutboxEvent}
    (hnext : w.outbox.nextOf worker = some event) (settings : Settings) (now : Instant)
    (nonce : String) :
    FaithfulInv env crmEnv (w.callOf worker (posting env settings event now nonce)) := by
  have hstep := Outbox.exec_step w.outbox (.call worker)
  obtain ⟨found, hfound, hhead, hidle⟩ := nextOf_eq_some hnext
  have hstores : w.Stores event :=
    h.copies found (Table.mem_of_get? hfound) event (List.mem_of_mem_head? hhead)
  refine {
    crm := h.crm
    copies := copies_step h hstep
    calling := ?_
    called := called_kept h hstep (fun _ _ _ hop => by cases hop) (List.Subset.refl _)
    sent := ?_
    routed := ?_
    delivered := delivered_step h hstep (List.Subset.refl _) }
  · intro worker' hworker hstage first hfirst request hposted
    cases step_underway hstep hworker (by simp [hstage]) with
    | kept mem =>
      have hne : worker'.id ≠ worker := by
        rintro rfl
        obtain rfl : worker' = found := Option.some.inj ((Table.get?_key mem).symm.trans hfound)
        rw [hidle] at hstage
        cases hstage
      exact h.calling worker' mem hstage first hfirst request ((if_neg hne).symm.trans hposted)
    | @called caller =>
      obtain rfl : caller = found := by
        next hcaller _ _ => exact Option.some.inj (hcaller.symm.trans hfound)
      obtain rfl : event = first := Option.some.inj (hhead.symm.trans hfirst)
      exact (posting_ok ((if_pos rfl).symm.trans hposted)).envelope
  · intro request hmem
    have hold : request ∈ w.sent →
        SentOf env (w.callOf worker (posting env settings event now nonce)) request :=
      sent_kept h hstep
    cases hposted : posting env settings event now nonce with
    | error failure =>
      simp only [World.callOf, hposted] at hmem
      exact hold hmem
    | ok posted =>
      simp only [World.callOf, hposted] at hmem
      rcases List.mem_append.mp hmem with hmem | hmem
      · exact hold hmem
      · obtain rfl := List.mem_singleton.mp hmem
        have hok := posting_ok hposted
        exact ⟨hok.body, event, stores_step hstep hstores, hok.allowed, hok.envelope⟩
  · intro r hr
    obtain ⟨request, hmem, henvelope⟩ := h.routed r hr
    refine ⟨request, ?_, henvelope⟩
    unfold World.callOf
    cases posting env settings event now nonce with
    | error failure => exact hmem
    | ok posted => exact List.mem_append_left _ hmem

theorem answered_ok {envelope : Crm.Envelope} {response : Response} {result : EventDeliveryResult}
    (h : answered env envelope response = .ok result) : Acknowledges envelope response := by
  cases response with
  | unavailable | status _ | raised _ => cases h
  | json acknowledgement =>
    cases acknowledgement with
    | null | bool _ | int _ | float _ | str _ | arr _ => cases h
    | obj members =>
      simp only [answered, acknowledged, ackMembers, seq_committed, require_committed,
        Except.ok.injEq] at h
      obtain ⟨_, rfl, _, hevent, known, hstatus, _, rfl, _⟩ := h
      refine ⟨members, rfl, ?_, ?_⟩
      · revert hevent
        cases JsonText.getMember members (JsonText.ofString "event_id") <;> simp [isText]
      · revert hstatus
        cases JsonText.getMember members (JsonText.ofString "status") with
        | str text =>
          simp only [ackStatus, Except.ok.injEq, decide_eq_true_eq, List.mem_map]
          rintro ⟨status, hstatus, rfl⟩
          exact ⟨status, hstatus, rfl⟩
        | null | bool _ | int _ | float _ | arr _ | obj _ => simp [ackStatus]

theorem returned_adapter {submissions : Table PublicSubmissions.PublicSubmission}
    {event : OutboxEvent} {email : Option Failure} {adapter : Except Failure EventDeliveryResult}
    {delivered : Outbox.Delivered} (htype : startsWith event.eventType "breero.")
    (h : Outbox.deliverOutboxEvent submissions event email adapter = .returned delivered) :
    ∃ result, adapter = .ok result := by
  have hnotification : event.eventType ∉ Outbox.notificationEvents := by
    intro hmem
    have hnone : ∀ name ∈ Outbox.notificationEvents, ¬ startsWith name "breero." := by decide
    exact hnone _ hmem htype
  simp only [Outbox.deliverOutboxEvent, if_neg hnotification, htype, if_true] at h
  cases adapter with
  | error failure => cases h
  | ok result => exact ⟨result, rfl⟩

theorem FaithfulInv.answerStep (h : FaithfulInv env crmEnv w) (worker : Uuid)
    (email : Option Failure) (response : Response) :
    FaithfulInv env crmEnv (w.answerOf env worker email response) := by
  have hstep := Outbox.exec_step w.outbox
    (.answer worker email (delivering env (w.posted worker) response))
  have hended : w.ended ⊆ (w.answerOf env worker email response).ended := by
    unfold World.answerOf
    cases w.posted worker with
    | error failure => exact List.Subset.refl _
    | ok request => exact List.subset_append_left _ _
  refine {
    crm := h.crm
    copies := copies_step h hstep
    calling := calling_kept h hstep (fun _ hop => by cases hop) rfl
    called := ?_
    sent := fun request hmem => sent_kept h hstep hmem
    routed := h.routed
    delivered := delivered_step h hstep hended }
  intro worker' hworker delivered hstage event hevent htype
  cases step_underway hstep hworker (by simp [hstage]) with
  | kept mem => exact (h.called worker' mem delivered hstage event hevent htype).mono hended rfl
  | @answered caller first batch _ _ found hfirst calling =>
    obtain rfl : first = event := by
      rw [hfirst] at hevent
      exact Option.some.inj hevent
    have hhead : first ∈ caller.batch.head? := by
      rw [hfirst]
      rfl
    obtain ⟨result, hresult⟩ := returned_adapter htype (Outbox.Stage.called.inj hstage)
    simp only [delivering, seq_committed] at hresult
    obtain ⟨request, hposted, hanswered⟩ := hresult
    have hack := answered_ok hanswered
    refine ⟨(request, response), ?_, ?_, hack⟩
    · simp only [World.answerOf, hposted]
      exact List.mem_append_right _ List.mem_cons_self
    · exact h.calling caller (Table.mem_of_get? found) calling first hhead request hposted

theorem FaithfulInv.forwardStep (h : FaithfulInv env crmEnv w) {request : Request}
    (hmem : request ∈ w.sent) (drawn : Crm.Drawn) (either : Bool) :
    FaithfulInv env crmEnv (w.forwardOf crmEnv request drawn either) := by
  refine { h with crm := h.crm.step _, routed := ?_ }
  intro r hr
  cases Crm.exec_step crmEnv w.crm { envelope := request.envelope, drawn, either } with
  | refused _ same => exact h.routed r (same ▸ hr)
  | repeated _ _ _ _ same => exact h.routed r (same ▸ hr)
  | routed routing _ _ _ _ events =>
    have hrouted : r ∈ w.crm.routed ++ [{ envelope := request.envelope, routing }] := events ▸ hr
    rcases List.mem_append.mp hrouted with hr | hr
    · exact h.routed r hr
    · obtain rfl := List.mem_singleton.mp hr
      exact ⟨request, hmem, rfl⟩

theorem FaithfulInv.step (h : FaithfulInv env crmEnv w) (op : Op) :
    FaithfulInv env crmEnv (w.exec env crmEnv op) := by
  cases op with
  | outbox op =>
    cases op with
    | call | answer => exact h
    | accept | emit | activate | park | claim | finalize | crash | retry =>
      exact h.outboxStep (fun _ hop => by cases hop) fun _ _ _ hop => by cases hop
  | call worker settings now nonce =>
    simp only [World.exec]
    split
    · next event hnext => exact h.callStep hnext settings now nonce
    · exact h
  | answer worker email response =>
    simp only [World.exec]
    split
    · exact h.answerStep worker email response
    · exact h
  | forward n drawn either =>
    simp only [World.exec]
    split
    · next request hrequest => exact h.forwardStep (List.mem_of_getElem? hrequest) drawn either
    · exact h

theorem faithful_start (env : Env) (crmEnv : Crm.Env) (leads cases : Table Crm.Record)
    (partners : Table Crm.ResPartner) :
    FaithfulInv env crmEnv { crm := { odoo := { leads, cases, partners } } } where
  crm := Crm.inv_start crmEnv leads cases partners
  copies := List.forall_mem_nil _
  calling := List.forall_mem_nil _
  called := List.forall_mem_nil _
  sent := List.forall_mem_nil _
  routed := List.forall_mem_nil _
  delivered := List.forall_mem_nil _

/-! ## Runs -/

theorem World.Stores.row (env : Env) {event : OutboxEvent} (h : w.Stores event)
    (hallowed : event.eventType ∈ allowedEvents) : ∃ row ∈ w.outbox.db.events.rows,
      row.eventType ∈ allowedEvents ∧
        buildEventEnvelope env event = buildEventEnvelope env row := by
  obtain ⟨row, hrow, hsame⟩ := h
  exact ⟨row, hrow, (content_eq_iff.mp hsame).2.2.2.1 ▸ hallowed,
    buildEventEnvelope_congr env hsame.symm⟩

theorem FaithfulInv.routesStored (h : FaithfulInv env crmEnv w) : RoutesStored env w := by
  refine ⟨h.crm.once, fun r hr => ?_⟩
  obtain ⟨request, hmem, henvelope⟩ := h.routed r hr
  obtain ⟨_, event, hstores, hallowed, hsent⟩ := h.sent request hmem
  obtain ⟨row, hrow, htype, hbuilt⟩ := hstores.row env hallowed
  exact ⟨row, hrow, htype, henvelope.trans (hsent.trans hbuilt)⟩

theorem FaithfulInv.postsSame (h : FaithfulInv env crmEnv w) : PostsSame w := by
  intro request hmem request' hmem' hid
  obtain ⟨hbody, event, ⟨row, hrow, hsame⟩, _, hsent⟩ := h.sent request hmem
  obtain ⟨hbody', event', ⟨row', hrow', hsame'⟩, _, hsent'⟩ := h.sent request' hmem'
  rw [hsent, hsent'] at hid
  have hkey : row.id = row'.id := by
    rw [(content_eq_iff.mp hsame).1, (content_eq_iff.mp hsame').1]
    exact Text.toString_inj hid
  obtain rfl : row = row' := Table.eq_of_key hrow hrow' hkey
  have henvelope : request.envelope = request'.envelope := by
    rw [hsent, hsent']
    exact buildEventEnvelope_congr env (hsame.symm.trans hsame')
  exact ⟨by rw [hbody, hbody', henvelope], henvelope⟩

theorem faithful_always (env : Env) (crmEnv : Crm.Env) (leads cases : Table Crm.Record)
    (partners : Table Crm.ResPartner) (ops : List Op) :
    Always (World.exec env crmEnv) (FaithfulInv env crmEnv)
      { crm := { odoo := { leads, cases, partners } } } ops :=
  always_of_inv (P := fun _ _ => True) (fun _ op h _ => h.step op)
    (faithful_start env crmEnv leads cases partners) (along_of_forall fun _ _ => trivial)

/-- **Exactly what is in the outbox reaches the CRM, and nothing twice.** Whatever dispatchers,
operators and the middleware do and in whichever order, each routed envelope is that of a stored
event of an allowed type, no event and no idempotency key is routed twice, and whenever an event
is posted again, its body and its key are those of the first time. -/
theorem relay_faithful (env : Env) (crmEnv : Crm.Env) (leads cases : Table Crm.Record)
    (partners : Table Crm.ResPartner) (ops : List Op) :
    Always (World.exec env crmEnv) (fun w => RoutesStored env w ∧ PostsSame w)
      { crm := { odoo := { leads, cases, partners } } } ops :=
  (faithful_always env crmEnv leads cases partners ops).imp fun _ h =>
    ⟨h.routesStored, h.postsSame⟩

/-- **What is delivered has been acknowledged**: in every run, an event for the CRM is DELIVERED
only if the middleware has answered a request with its envelope by its id and an accepting
status. -/
theorem delivered_acknowledged (env : Env) (crmEnv : Crm.Env) (leads cases : Table Crm.Record)
    (partners : Table Crm.ResPartner) (ops : List Op) :
    Always (World.exec env crmEnv) (DeliversAcknowledged env)
      { crm := { odoo := { leads, cases, partners } } } ops :=
  (faithful_always env crmEnv leads cases partners ops).imp fun _ h => h.delivered

end Breero.Middleware
