import Breero.Middleware.Relay

/-!
No event is taken for another one by the CRM.

The CRM recognises an event by its id or by its idempotency key, and refuses one whose payload has
changed or whose aggregate version it has. The outbox has each key once, and each version of an
aggregate in the events of a type that have a key.

* `Unmistaken`: an envelope that is handed over is either a repetition, which is acknowledged with
  the record of its event, or meets no row of the CRM;
* `relay_unmistaken`: this holds in every run in which the events for the CRM have a key.
-/

namespace Breero.Middleware
open KeyedTable Transaction Runs
open PublicSubmissions (keyFree versionFree)
open Outbox (OutboxEvent)

/-! ## The law -/

def forwarding (request : Request) (drawn : Crm.Drawn) (either : Bool) : Crm.Call :=
  { envelope := request.envelope, drawn, either }

/-- The row is of another event, with another key, and of another version. -/
def Apart (envelope : Crm.Envelope) (sync : Crm.SyncEvent) : Prop :=
  sync.eventId ≠ envelope.eventId ∧ sync.idempotencyKey ≠ envelope.idempotencyKey ∧
    ¬ (sync.eventType = envelope.eventType ∧ sync.aggregateId = envelope.aggregateId ∧
      sync.aggregateVersion = envelope.aggregateVersion)

/-- The event was routed, and is acknowledged with its record again. -/
def Recognised (crmEnv : Crm.Env) (w : World) (call : Crm.Call) : Prop :=
  ∃ r ∈ w.crm.routed, r.envelope = call.envelope ∧
    ∃ sync, Crm.processBreeroEvent crmEnv w.crm.odoo call = .ok (w.crm.odoo, sync, none) ∧
      sync.ack = r.ack

def Unmistaken (crmEnv : Crm.Env) (w : World) : Prop :=
  ∀ request ∈ w.sent, ∀ drawn either,
    Recognised crmEnv w (forwarding request drawn either) ∨
      ∀ sync ∈ w.crm.odoo.syncs.rows, Apart request.envelope sync

/-- Events for the CRM are emitted with a key. -/
def Labelled : Op → Prop
  | .outbox (.emit event) =>
    event.eventType ∈ allowedEvents → ∃ key ∈ event.idempotencyKey, key ≠ ""
  | _ => True

instance : DecidablePred Labelled
  | .outbox (.emit event) =>
    inferInstanceAs (Decidable (_ → ∃ key ∈ event.idempotencyKey, key ≠ ""))
  | .outbox (.accept ..) | .outbox (.activate ..) | .outbox (.park ..) | .outbox (.claim ..)
  | .outbox (.call ..) | .outbox (.answer ..) | .outbox (.finalize ..) | .outbox (.crash ..)
  | .outbox (.retry ..) | .call .. | .answer .. | .forward .. => isTrue trivial

/-! ## New events -/

/-- What a step does to the events: no new one, or one whose key and version are free. -/
inductive Growth (s s' : Outbox.World) (op : Outbox.Op) : Prop
  | none (rows : ∀ row' ∈ s'.db.events.rows, ∃ row ∈ s.db.events.rows, content row' = content row)
  | one (event : OutboxEvent)
      (keys : keyFree s.db.events event) (versions : versionFree s.db.events event)
      (source : op = .emit event ∨ ∃ key ∈ event.idempotencyKey, key ≠ "")
      (inserted : s.db.events.insert? event = some s'.db.events)

theorem eventKey_ne (submission : PublicSubmissions.PublicSubmission) :
    PublicSubmissions.eventKey submission ≠ "" := by
  intro h
  have hlength := congrArg String.length h
  simp [PublicSubmissions.eventKey, String.length_append] at hlength

theorem accept_growth {settings : PublicSubmissions.Settings}
    {catalog : List PublicSubmissions.CatalogService}
    {submissionType : PublicSubmissions.SubmissionType} {data : PublicSubmissions.TrackingFields}
    {key sourceIp : String} {now : Instant} {id eventId : Uuid} {db db' : Outbox.Tables}
    {accepted : PublicSubmissions.SubmissionAccepted}
    (h : PublicSubmissions.accept settings catalog db submissionType data key sourceIp now id
      eventId = .ok (db', accepted)) :
    db' = db ∨ ∃ event, keyFree db.events event ∧ versionFree db.events event ∧
      (∃ key ∈ event.idempotencyKey, key ≠ "") ∧ db.events.insert? event = some db'.events := by
  simp only [PublicSubmissions.accept, seq_committed] at h
  obtain ⟨found, _, h⟩ := h
  cases found with
  | inl replayed =>
    cases h
    exact .inl rfl
  | inr submission =>
    have hfinish : PublicSubmissions.finish settings db submission eventId = .ok (db', accepted) :=
      h
    simp only [PublicSubmissions.finish, PublicSubmissions.addEvent, seq_committed,
      orRaise_committed, require_committed, return_committed, Prod.mk.injEq] at hfinish
    obtain ⟨_, _, _, ⟨_, hkeys, _, hversions, _, hevents, rfl⟩, rfl, _⟩ := hfinish
    exact .inr ⟨_, hkeys, hversions, ⟨_, rfl, eventKey_ne submission⟩, hevents⟩

theorem growth_none {s s' : Outbox.World} {op : Outbox.Op} (h : Outbox.Step s op s')
    (hcreated : ∀ event, ¬ Outbox.Created s s' op event) : Growth s s' op := by
  refine .none fun row' hrow' => ?_
  rcases h.row hrow' with ⟨row, hrow, _, hmoved⟩ | ⟨hnew, _⟩
  · exact ⟨row, hrow, moved_content hmoved⟩
  · exact absurd hnew (hcreated row')

theorem exec_growth (s : Outbox.World) (op : Outbox.Op) : Growth s (s.exec op) op := by
  cases op with
  | accept settings catalog submissionType data key sourceIp now id eventId =>
    simp only [Outbox.World.exec]
    split
    · next db accepted haccept =>
      rcases accept_growth haccept with rfl | ⟨event, hkeys, hversions, hlabel, hinsert⟩
      · exact .none fun row hrow => ⟨row, hrow, rfl⟩
      · exact .one event hkeys hversions (.inr hlabel) hinsert
    · exact .none fun row hrow => ⟨row, hrow, rfl⟩
  | emit event =>
    simp only [Outbox.World.exec]
    split
    · split
      · next db hadd =>
        simp only [PublicSubmissions.addEvent, seq_committed, orRaise_committed,
          require_committed, return_committed] at hadd
        obtain ⟨_, hkeys, _, hversions, events, hevents, rfl⟩ := hadd
        exact .one event hkeys hversions (.inl rfl) hevents
      · exact .none fun row hrow => ⟨row, hrow, rfl⟩
    · exact .none fun row hrow => ⟨row, hrow, rfl⟩
  | activate | park | claim | call | answer | finalize | crash | retry =>
    exact growth_none (Outbox.exec_step s _) fun _ hcreated => by cases hcreated

/-! ## Keys -/

/-- Events that are alike in what the CRM recognises an event by are one event. -/
structure KeysInv (s : Outbox.World) : Prop where
  labelled : ∀ row ∈ s.db.events.rows, row.eventType ∈ allowedEvents →
    ∃ key ∈ row.idempotencyKey, key ≠ ""
  keys : ∀ a ∈ s.db.events.rows, ∀ b ∈ s.db.events.rows, a.idempotencyKey.isSome →
    a.idempotencyKey = b.idempotencyKey → a.id = b.id
  versions : ∀ a ∈ s.db.events.rows, ∀ b ∈ s.db.events.rows, a.idempotencyKey.isSome →
    b.idempotencyKey.isSome → a.eventType = b.eventType → a.aggregateId = b.aggregateId →
      a.aggregateVersion = b.aggregateVersion → a.id = b.id

theorem KeysInv.growth {s s' : Outbox.World} {op : Outbox.Op} (h : KeysInv s)
    (hgrowth : Growth s s' op) (hlabelled : ∀ event, op = .emit event →
      event.eventType ∈ allowedEvents → ∃ key ∈ event.idempotencyKey, key ≠ "") : KeysInv s' := by
  cases hgrowth with
  | none rows =>
    have hback : ∀ row' ∈ s'.db.events.rows, ∃ row ∈ s.db.events.rows, row.id = row'.id ∧
        row.idempotencyKey = row'.idempotencyKey ∧ row.eventType = row'.eventType ∧
        row.aggregateId = row'.aggregateId ∧ row.aggregateVersion = row'.aggregateVersion := by
      intro row' hrow'
      obtain ⟨row, hrow, hsame⟩ := rows row' hrow'
      obtain ⟨hid, _, haggregate, htype, hversion, _, hkey, _⟩ := content_eq_iff.mp hsame.symm
      exact ⟨row, hrow, hid, hkey, htype, haggregate, hversion⟩
    constructor
    · intro row' hrow'
      obtain ⟨row, hrow, _, hkey, htype, _⟩ := hback row' hrow'
      rw [← hkey, ← htype]
      exact h.labelled row hrow
    · intro a' ha' b' hb'
      obtain ⟨a, ha, haid, hakey, _⟩ := hback a' ha'
      obtain ⟨b, hb, hbid, hbkey, _⟩ := hback b' hb'
      rw [← haid, ← hbid, ← hakey, ← hbkey]
      exact h.keys a ha b hb
    · intro a' ha' b' hb'
      obtain ⟨a, ha, haid, hakey, hatype, haagg, haver⟩ := hback a' ha'
      obtain ⟨b, hb, hbid, hbkey, hbtype, hbagg, hbver⟩ := hback b' hb'
      rw [← haid, ← hbid, ← hakey, ← hbkey, ← hatype, ← hbtype, ← haagg, ← hbagg, ← haver, ← hbver]
      exact h.versions a ha b hb
  | one event keys versions source inserted =>
    have hmem := fun row => Table.mem_insert (b := row) inserted
    constructor
    · intro row hrow htype
      rcases (hmem row).mp hrow with hrow | rfl
      · exact h.labelled row hrow htype
      · rcases source with hop | hlabel
        · exact hlabelled _ hop htype
        · exact hlabel
    · intro a ha b hb hsome hsame
      rcases (hmem a).mp ha with ha | rfl <;> rcases (hmem b).mp hb with hb | rfl
      · exact h.keys a ha b hb hsome hsame
      · exact absurd hsame (keys (hsame ▸ hsome) a ha)
      · exact absurd hsame.symm (keys hsome b hb)
      · rfl
    · intro a ha b hb hasome hbsome htype haggregate hversion
      rcases (hmem a).mp ha with ha | rfl <;> rcases (hmem b).mp hb with hb | rfl
      · exact h.versions a ha b hb hasome hbsome htype haggregate hversion
      · exact absurd hversion (versions hbsome a ha hasome htype haggregate)
      · exact absurd hversion.symm (versions hasome b hb hbsome htype.symm haggregate.symm)
      · rfl

/-- Stored events for the CRM whose envelopes the CRM could take for one another are one event. -/
theorem KeysInv.same {s : Outbox.World} (h : KeysInv s) (env : Env) {a b : OutboxEvent}
    (ha : a ∈ s.db.events.rows) (hb : b ∈ s.db.events.rows) (hatype : a.eventType ∈ allowedEvents)
    (hbtype : b.eventType ∈ allowedEvents)
    (halike : (buildEventEnvelope env a).idempotencyKey =
        (buildEventEnvelope env b).idempotencyKey ∨
      (a.eventType = b.eventType ∧ toString a.aggregateId = toString b.aggregateId ∧
        (a.aggregateVersion : Int) = b.aggregateVersion)) : a.id = b.id := by
  obtain ⟨akey, hakey, hane⟩ := h.labelled a ha hatype
  obtain ⟨bkey, hbkey, hbne⟩ := h.labelled b hb hbtype
  have hasome : a.idempotencyKey.isSome := by
    rw [hakey]
    rfl
  have hbsome : b.idempotencyKey.isSome := by
    rw [hbkey]
    rfl
  rcases halike with hkeys | ⟨htype, haggregate, hversion⟩
  · apply h.keys a ha b hb hasome
    have hsame : akey = bkey := by
      simpa only [buildEventEnvelope, Option.mem_def.mp hakey, Option.mem_def.mp hbkey,
        Option.filter, hane, hbne, ne_eq, not_false_eq_true, decide_true, if_true,
        Option.getD_some] using hkeys
    rw [hakey, hbkey, hsame]
  · exact h.versions a ha b hb hasome hbsome htype (Text.toString_inj haggregate) (by omega)

/-! ## Rows of the CRM -/

structure ConflictsInv (env : Env) (crmEnv : Crm.Env) (w : World) : Prop
    extends FaithfulInv env crmEnv w where
  events : KeysInv w.outbox
  syncs : ∀ sync ∈ w.crm.odoo.syncs.rows, ∃ request ∈ w.sent,
    sync.eventId = request.envelope.eventId ∧
      sync.idempotencyKey = request.envelope.idempotencyKey ∧
      sync.eventType = request.envelope.eventType ∧
      sync.aggregateId = request.envelope.aggregateId ∧
      sync.aggregateVersion = request.envelope.aggregateVersion

variable {env : Env} {crmEnv : Crm.Env} {w : World}

/-- The outbox takes a step of its own, or none. -/
theorem exec_outbox (w : World) (op : Op) :
    (w.exec env crmEnv op).outbox = w.outbox ∨
      ∃ own, (w.exec env crmEnv op).outbox = w.outbox.exec own ∧
        ∀ event, own = .emit event → op = .outbox (.emit event) := by
  cases op with
  | outbox op =>
    cases op with
    | call | answer => exact .inl rfl
    | emit event => exact .inr ⟨.emit event, rfl, fun _ hop => congrArg Op.outbox hop⟩
    | accept | activate | park | claim | finalize | crash | retry =>
      exact .inr ⟨_, rfl, fun _ hop => congrArg Op.outbox hop⟩
  | call worker settings now nonce =>
    simp only [World.exec]
    split
    · exact .inr ⟨.call worker, rfl, fun _ hop => by cases hop⟩
    · exact .inl rfl
  | answer worker email response =>
    simp only [World.exec]
    split
    · exact .inr ⟨.answer worker email (delivering env (w.posted worker) response), rfl,
        fun _ hop => by cases hop⟩
    · exact .inl rfl
  | forward n drawn either =>
    simp only [World.exec]
    split <;> exact .inl rfl

theorem exec_sent (w : World) (op : Op) : w.sent ⊆ (w.exec env crmEnv op).sent := by
  cases op with
  | outbox op => cases op <;> exact List.Subset.refl _
  | call worker settings now nonce =>
    simp only [World.exec]
    split
    · next event _ =>
      unfold World.callOf
      cases posting env settings event now nonce with
      | error failure => exact List.Subset.refl _
      | ok request => exact List.subset_append_left _ _
    · exact List.Subset.refl _
  | answer | forward =>
    simp only [World.exec]
    split <;> exact List.Subset.refl _

/-- A row of the CRM that is new is of a request that was forwarded. -/
theorem exec_syncs (w : World) (op : Op) {sync : Crm.SyncEvent}
    (h : sync ∈ (w.exec env crmEnv op).crm.odoo.syncs.rows) :
    sync ∈ w.crm.odoo.syncs.rows ∨ ∃ request ∈ w.sent, ∃ drawn either routing,
      sync = Crm.processedRow (Crm.receivedRow crmEnv (forwarding request drawn either)) routing
        drawn.now := by
  cases op with
  | outbox op => cases op <;> exact .inl h
  | call | answer =>
    simp only [World.exec] at h
    split at h <;> exact .inl h
  | forward n drawn either =>
    simp only [World.exec] at h
    split at h
    · next request hrequest =>
      cases Crm.exec_step crmEnv w.crm (forwarding request drawn either) with
      | refused _ same => exact .inl (same ▸ h)
      | repeated _ _ _ _ same => exact .inl (same ▸ h)
      | routed routing _ _ _ _ _ rows =>
        have hrows : sync ∈ w.crm.odoo.syncs.rows ++ _ := rows ▸ h
        rcases List.mem_append.mp hrows with hsync | hsync
        · exact .inl hsync
        · exact .inr ⟨request, List.mem_of_getElem? hrequest, drawn, either, routing,
            List.mem_singleton.mp hsync⟩
    · exact .inl h

theorem ConflictsInv.step (h : ConflictsInv env crmEnv w) (op : Op) (hlabelled : Labelled op) :
    ConflictsInv env crmEnv (w.exec env crmEnv op) := by
  refine { h.toFaithfulInv.step op with events := ?_, syncs := ?_ }
  · have houtbox : (w.exec env crmEnv op).outbox = w.outbox ∨ _ := exec_outbox w op
    rcases houtbox with hsame | ⟨own, hown, hemit⟩
    · exact hsame ▸ h.events
    · rw [hown]
      refine h.events.growth (exec_growth w.outbox own) fun event hevent => ?_
      obtain rfl := hemit event hevent
      exact hlabelled
  · intro sync hsync
    rcases exec_syncs w op hsync with hold | ⟨request, hmem, drawn, either, routing, rfl⟩
    · obtain ⟨request, hmem, hknown⟩ := h.syncs sync hold
      exact ⟨request, exec_sent w op hmem, hknown⟩
    · exact ⟨request, exec_sent w op hmem, rfl, rfl, rfl, rfl, rfl⟩

/-! ## Runs -/

theorem SentOf.row {request : Request} (h : SentOf env w request) :
    ∃ row ∈ w.outbox.db.events.rows, row.eventType ∈ allowedEvents ∧
      request.envelope = buildEventEnvelope env row := by
  obtain ⟨_, event, hstores, hallowed, henvelope⟩ := h
  obtain ⟨row, hrow, htype, hbuilt⟩ := hstores.row env hallowed
  exact ⟨row, hrow, htype, henvelope.trans hbuilt⟩

/-- A row of the CRM that is not apart from a request is of the event of the request. -/
theorem ConflictsInv.meets (h : ConflictsInv env crmEnv w) {request : Request}
    (hmem : request ∈ w.sent) {sync : Crm.SyncEvent} (hsync : sync ∈ w.crm.odoo.syncs.rows)
    (hmeets : ¬ Apart request.envelope sync) : sync.eventId = request.envelope.eventId := by
  obtain ⟨other, hother, hid, hkey, htype, haggregate, hversion⟩ := h.syncs sync hsync
  obtain ⟨row, hrow, hallowed, henvelope⟩ := (h.sent request hmem).row
  obtain ⟨row', hrow', hallowed', henvelope'⟩ := (h.sent other hother).row
  by_contra hne
  apply hmeets
  have hrows : row'.id ≠ row.id := by
    intro hsame
    apply hne
    rw [hid, henvelope, henvelope']
    exact congrArg toString hsame
  have hapart := fun halike =>
    hrows (h.events.same env hrow' hrow hallowed' hallowed halike)
  refine ⟨hne, ?_, ?_⟩
  · rw [hkey, henvelope, henvelope']
    exact fun halike => hapart (.inl halike)
  · rw [htype, haggregate, hversion, henvelope, henvelope']
    exact fun halike => hapart (.inr halike)

theorem ConflictsInv.unmistaken (h : ConflictsInv env crmEnv w) : Unmistaken crmEnv w := by
  intro request hmem drawn either
  by_cases hapart : ∀ sync ∈ w.crm.odoo.syncs.rows, Apart request.envelope sync
  · exact .inr hapart
  · simp only [not_forall] at hapart
    obtain ⟨sync, hsync, hmeets⟩ := hapart
    have hid := h.meets hmem hsync hmeets
    obtain ⟨r, hr, hrow⟩ := h.crm.ofRows sync hsync
    obtain ⟨routed, hrouted, henvelope⟩ := h.routed r hr
    have hsame : r.envelope = request.envelope := by
      rw [henvelope]
      apply (h.postsSame routed hrouted request hmem ?_).2
      rw [← henvelope, ← hrow.eventId, hid]
    exact .inl ⟨r, hr, hsame,
      h.crm.repeats (forwarding request drawn either) rfl r hr hsame⟩

/-- **The CRM takes no event for another.** In every run in which the events for the CRM are
emitted with a key, whatever the middleware hands over is acknowledged as the repetition that it
is, or has no id, no key and no aggregate version of a row. -/
theorem relay_unmistaken (env : Env) (crmEnv : Crm.Env) (leads cases : Table Crm.Record)
    (partners : Table Crm.ResPartner) (ops : List Op)
    (hlabelled : Along (World.exec env crmEnv) (fun _ => Labelled)
      { crm := { odoo := { leads, cases, partners } } } ops) :
    Always (World.exec env crmEnv) (Unmistaken crmEnv)
      { crm := { odoo := { leads, cases, partners } } } ops := by
  have hstart : ConflictsInv env crmEnv { crm := { odoo := { leads, cases, partners } } } := {
    faithful_start env crmEnv leads cases partners with
    events := ⟨List.forall_mem_nil _, List.forall_mem_nil _, List.forall_mem_nil _⟩
    syncs := List.forall_mem_nil _ }
  exact (always_of_inv (fun _ op h hlabelled => h.step op hlabelled) hstart hlabelled).imp
    fun _ h => h.unmistaken

/-! ### A lease that is taken over -/

def caseEnv : Crm.Env := {
  digest := fun _ => "811781897176b532bd4c33eeab86e24956cfc650796ee0da51de9341dbdca79d"
  str := fun _ => ""
  ref := fun _ => .ok 4
  currency := fun _ => none
  ordered := id
  ilike := fun _ _ => false
  check := fun _ _ => .ok () }

def replayed : Response := .json (.obj [
  (JsonText.ofString "event_id", .str (JsonText.ofString "7")),
  (JsonText.ofString "status", .str (JsonText.ofString "replayed"))])

/-- The first dispatcher crashes once its request is on the way, and the second posts the event
again. Both requests are handed to the CRM. -/
def takenOver : List Op := [
  .outbox (.emit disputeEvent),
  .outbox (.claim 1 [] 50 1786579200000000),
  .call 1 (stagingSettings "breero") 1786579200000000 "nonce-1",
  .forward 0 { eventRow := 1, partner := 1, record := 1, now := 1786579200500000 } true,
  .outbox (.crash 1),
  .outbox (.claim 2 [] 50 1786579500000000),
  .call 2 (stagingSettings "breero") 1786579500000000 "nonce-2",
  .forward 1 { eventRow := 2, partner := 2, record := 2, now := 1786579500500000 } true,
  .answer 2 none replayed,
  .outbox (.finalize 2 1786579501000000 3)]

def takeover : World := run (World.exec stagingEnv caseEnv) { crm := { odoo := {} } } takenOver

theorem takenOver_unmistaken :
    (takeover.sent.length = 2 ∧ takeover.crm.routed.length = 1 ∧
        takeover.outbox.db.events.rows.map (·.status) = [.delivered]) ∧
      Always (World.exec stagingEnv caseEnv) (Unmistaken caseEnv) { crm := { odoo := {} } }
        takenOver :=
  ⟨by decide +kernel, relay_unmistaken stagingEnv caseEnv .empty .empty .empty takenOver
    ⟨by decide, by decide, by decide, by decide, by decide, by decide, by decide, by decide,
      by decide, by decide, trivial⟩⟩

end Breero.Middleware
