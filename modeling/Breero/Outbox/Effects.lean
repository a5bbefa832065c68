import Breero.Outbox.System

/-!
What a step of the outbox can do, said once.

* `Step` has one constructor for each kind of step, with what is known where it is taken;
* `Moved` is what the step does to a row, and `Step.moved` says that rows only move so;
* `Step.batch` says where the batches of the dispatchers come from.
-/

namespace Breero.Outbox
open KeyedTable Transaction PublicSubmissions

/-! ## Columns -/

/-- What the event is, which no step changes. -/
def OutboxEvent.identity (event : OutboxEvent) : Uuid × String × Uuid × String :=
  (event.id, event.aggregateType, event.aggregateId, event.eventType)

theorem activated_identity (now : Instant) (event : OutboxEvent) :
    (activated now event).identity = event.identity := by
  simp only [activated]
  split <;> rfl

theorem activated_columns (now : Instant) (event : OutboxEvent) :
    (activated now event).status = .pending ∧
      (activated now event).attemptCount = event.attemptCount ∧
      (activated now event).claimToken = event.claimToken := by
  simp only [activated]
  split <;> exact ⟨rfl, rfl, rfl⟩

/-- A call that raised leaves the event in one of three statuses. -/
theorem failed_status (now : Instant) (jitter : Nat) (failure : Failure) (event : OutboxEvent) :
    (failed now jitter failure event).status =
      if failure.pendingConfiguration then .pendingConfiguration
      else if endsTerminal failure event.attemptCount then .failedTerminal else .retrying := by
  dsimp only [failed]
  split
  · rfl
  · split <;> rfl

theorem finished_columns (now : Instant) (jitter : Nat) (ending : Ending) (event : OutboxEvent) :
    (finished now jitter ending event).identity = event.identity ∧
      (finished now jitter ending event).attemptCount = event.attemptCount ∧
      (finished now jitter ending event).claimToken = none := by
  cases ending with
  | returned delivered =>
    dsimp only [finished, succeeded]
    split <;> exact ⟨rfl, rfl, rfl⟩
  | raised failure =>
    dsimp only [finished, failed]
    split
    · exact ⟨rfl, rfl, rfl⟩
    · split <;> exact ⟨rfl, rfl, rfl⟩

/-- A call that has ended takes an event out of processing, as whatever it is stored. -/
theorem merge_status (now : Instant) (jitter : Nat) (ending : Ending) {event : OutboxEvent}
    (h : event.status = .processing) (stored : OutboxEvent) :
    (event.merge (finished now jitter ending event) stored).status =
      (finished now jitter ending event).status := by
  refine column_new ?_ _
  rw [h]
  cases ending with
  | returned delivered =>
    simp only [finished, succeeded]
    split <;> simp
  | raised failure =>
    show (failed now jitter failure event).status ≠ _
    rw [failed_status]
    split
    · simp
    · split <;> simp

theorem merge_token {now : Instant} {jitter : Nat} {ending : Ending} {event : OutboxEvent}
    {token : Uuid} (h : event.claimToken = some token) (stored : OutboxEvent) :
    (event.merge (finished now jitter ending event) stored).claimToken = none := by
  have hnone := (finished_columns now jitter ending event).2.2
  show column event.claimToken _ _ = none
  rw [column_new, hnone]
  rw [hnone, h]
  simp

/-! ## Rows written back -/

theorem get?_writeBack (t : Table OutboxEvent) (rows : List OutboxEvent) (id : Uuid) :
    (writeBack t rows).get? id =
      (t.get? id).map fun stored => (rows.find? fun row => row.id = stored.id).getD stored :=
  Table.get?_update _ _ _ _

/-- A row is written back from the one with its id, or is as it was. -/
theorem get?_writeBack_of_some {t : Table OutboxEvent} {id : Uuid} {stored : OutboxEvent}
    (rows : List OutboxEvent) (h : t.get? id = some stored) :
    (∃ row ∈ rows, row.id = stored.id ∧ (writeBack t rows).get? id = some row) ∨
      (stored.id ∉ rows.map (·.id) ∧ (writeBack t rows).get? id = some stored) := by
  rw [get?_writeBack, h, Option.map_some]
  cases hfind : rows.find? fun row => row.id = stored.id with
  | some row =>
    have hid : row.id = stored.id := by simpa using List.find?_some hfind
    exact Or.inl ⟨row, List.mem_of_find?_eq_some hfind, hid, rfl⟩
  | none =>
    refine Or.inr ⟨fun hmem => ?_, rfl⟩
    obtain ⟨row, hrow, hid⟩ := List.mem_map.mp hmem
    exact List.find?_eq_none.mp hfind row hrow (by simpa using hid)

/-- Rows of the table that are changed by `f`. -/
theorem get?_writeBack_map {t : Table OutboxEvent} {events : List OutboxEvent}
    {f : OutboxEvent → OutboxEvent} {id : Uuid} {stored : OutboxEvent}
    (h : t.get? id = some stored) (hrows : ∀ event ∈ events, event ∈ t.rows)
    (hf : ∀ event, (f event).id = event.id) :
    (stored ∈ events ∧ (writeBack t (events.map f)).get? id = some (f stored)) ∨
      (stored.id ∉ events.map (·.id) ∧ (writeBack t (events.map f)).get? id = some stored) := by
  have hids : (events.map f).map (·.id) = events.map (·.id) := by
    rw [List.map_map]
    exact List.map_congr_left fun event _ => hf event
  rcases get?_writeBack_of_some (events.map f) h with ⟨row, hrow, hid, hget⟩ | ⟨hnot, hget⟩
  · obtain ⟨event, hevent, rfl⟩ := List.mem_map.mp hrow
    have hsame : event = stored :=
      Table.eq_of_key (hrows event hevent) (Table.mem_of_get? h) ((hf event).symm.trans hid)
    exact Or.inl ⟨hsame ▸ hevent, hsame ▸ hget⟩
  · exact Or.inr ⟨hids ▸ hnot, hget⟩

theorem mem_configurable {t : Table OutboxEvent} {skipped : List Uuid}
    {statuses : List EventStatus} {event : OutboxEvent}
    (h : event ∈ configurable t skipped statuses) :
    event ∈ t.rows ∧ ofSubmission event = true ∧ event.status ∈ statuses := by
  simp only [configurable, List.mem_filter, Bool.and_eq_true, decide_eq_true_eq] at h
  exact ⟨h.1, h.2.1.1.1, h.2.1.1.2⟩

theorem mem_claimable {t : Table OutboxEvent} {skipped : List Uuid} {limit : Nat} {now : Instant}
    {event : OutboxEvent} (h : event ∈ claimable t skipped limit now) :
    event ∈ t.rows ∧ due now event = true := by
  have hmem := (List.mem_insertionSort _).mp (List.mem_of_mem_take h)
  simp only [List.mem_filter, Bool.and_eq_true] at hmem
  exact ⟨hmem.1, hmem.2.1⟩

theorem claimable_nodup (t : Table OutboxEvent) (skipped : List Uuid) (limit : Nat)
    (now : Instant) : ((claimable t skipped limit now).map (·.id)).Nodup := by
  have hsort : (((t.rows.filter fun event => due now event && event.id ∉ skipped).insertionSort
      fun a b => a.createdAt ≤ b.createdAt).map (·.id)).Nodup := by
    refine ((List.perm_insertionSort _ _).map _).nodup_iff.mpr ?_
    exact t.nodup.sublist (List.filter_sublist.map _)
  exact hsort.sublist ((List.take_sublist _ _).map _)

/-- A claimed event is one of those claimed, with a token of its own. -/
theorem mem_claimEach {now : Instant} {leaseSeconds : Int} {token : Nat}
    {events : List OutboxEvent} {copy : OutboxEvent}
    (h : copy ∈ claimEach now leaseSeconds token events) :
    ∃ event ∈ events, ∃ drawn : Nat, token ≤ drawn ∧ drawn < token + events.length ∧
      copy = claimed now leaseSeconds drawn event := by
  induction events generalizing token with
  | nil => cases h
  | cons event events ih =>
    rcases List.mem_cons.mp h with rfl | h
    · exact ⟨event, List.mem_cons_self, token, Nat.le_refl _, by simp, rfl⟩
    · obtain ⟨other, hmem, drawn, hle, hlt, rfl⟩ := ih h
      refine ⟨other, List.mem_cons_of_mem _ hmem, drawn, by omega, ?_, rfl⟩
      simp only [List.length_cons]
      omega

theorem claimEach_ids (now : Instant) (leaseSeconds : Int) (token : Nat)
    (events : List OutboxEvent) :
    (claimEach now leaseSeconds token events).map (·.id) = events.map (·.id) := by
  induction events generalizing token with
  | nil => rfl
  | cons event events ih => simp [claimEach, claimed, ih]

/-! ## Kinds of steps -/

/-- The batch of a claim. -/
def World.claims (s : World) (skipped : List Uuid) (limit : Nat) (now : Instant) :
    List OutboxEvent :=
  claimEach now DEFAULT_LEASE_SECONDS s.drawn (claimable s.db.events skipped limit now)

inductive Step (s : World) : Op → World → Prop
  | idle {op : Op}
      (nothing : ∀ worker now jitter, op = .finalize worker now jitter → s.endedOf worker = none) :
      Step s op s
  | accepted {settings : Settings} {catalog : List PublicSubmissions.CatalogService}
      {submissionType : SubmissionType} {data : TrackingFields} {key sourceIp : String}
      {now : Instant} {id eventId : Uuid} {submission : PublicSubmission} {db : Tables}
      (pending : submission.downstreamStatus = downstreamStatus settings)
      (submissions : s.db.submissions.insert? submission = some db.submissions)
      (events : s.db.events.insert? (newEvent settings submission eventId) = some db.events) :
      Step s (.accept settings catalog submissionType data key sourceIp now id eventId)
        { s with db }
  | emitted {event : OutboxEvent} {events : Table OutboxEvent}
      (default : World.emittable event) (inserted : s.db.events.insert? event = some events) :
      Step s (.emit event) { s with db := { s.db with events } }
  | activated {skipped : List Uuid} {now : Instant} :
      Step s (.activate skipped now)
        { s with db := activatePendingConfiguration s.db skipped now }
  | parked {skipped : List Uuid} {now : Instant} :
      Step s (.park skipped now) { s with
        db := parkUnconfigured s.db skipped now
        holder := fun id => if id ∈ s.parkedIds skipped then none else s.holder id }
  | claimed {worker : Uuid} {skipped : List Uuid} {limit : Nat} {now : Instant}
      {workers : Table Worker}
      (inserted : s.workers.insert? { id := worker, batch := s.claims skipped limit now } =
        some workers) :
      Step s (.claim worker skipped limit now) { s with
        db := { s.db with events := writeBack s.db.events (s.claims skipped limit now) }
        workers
        drawn := s.drawn + (s.claims skipped limit now).length
        holder := fun id => if id ∈ (s.claims skipped limit now).map (·.id) then some worker
          else s.holder id }
  | called {worker : Worker} {event : OutboxEvent} {batch : List OutboxEvent}
      (found : s.workers.get? worker.id = some worker) (first : worker.batch = event :: batch)
      (idle : worker.stage = .idle) :
      Step s (.call worker.id) { s with
        workers := s.workers.put { worker with stage := .calling }
        attempts := fun id => if id = event.id then s.attempts id + 1 else s.attempts id }
  | answered {worker : Worker} {event : OutboxEvent} {batch : List OutboxEvent}
      {email : Option Failure} {adapter : Except Failure EventDeliveryResult}
      (found : s.workers.get? worker.id = some worker) (first : worker.batch = event :: batch)
      (calling : worker.stage = .calling) :
      Step s (.answer worker.id email adapter) { s with
        workers := s.workers.put { worker with
          stage := .called (deliverOutboxEvent s.db.submissions event email adapter) } }
  | finalized {worker : Worker} {event : OutboxEvent} {batch : List OutboxEvent}
      {ending : Ending} {now : Instant} {jitter : Nat}
      (found : s.workers.get? worker.id = some worker) (first : worker.batch = event :: batch)
      (called : worker.stage = .called ending) :
      Step s (.finalize worker.id now jitter) { s with
        db := finalize s.db event ending now jitter
        workers := s.workers.put { worker with batch, stage := .idle } }
  | crashed {worker : Worker} (found : s.workers.get? worker.id = some worker) :
      Step s (.crash worker.id) { s with
        workers := s.workers.put { worker with batch := [], stage := .idle } }
  | retried {event : OutboxEvent} {actorId : Uuid} {now : Instant} {db : Tables}
      (found : s.db.events.get? event.id = some event) (allowed : event.status ∈ retryable)
      (events : db.events = s.db.events.put (retried now event))
      (submissions : db.submissions = s.db.submissions) :
      Step s (.retry event.id actorId now) { s with
        db
        attempts := fun id => if id = event.id then 0 else s.attempts id }

/-! ## Every step is of a kind -/

theorem accept_rows {settings : Settings} {catalog : List PublicSubmissions.CatalogService}
    {submissionType : SubmissionType} {data : TrackingFields} {key sourceIp : String}
    {now : Instant} {id eventId : Uuid} {db db' : Tables} {accepted : SubmissionAccepted}
    (h : accept settings catalog db submissionType data key sourceIp now id eventId =
      .ok (db', accepted)) :
    db' = db ∨ ∃ submission : PublicSubmission,
      submission.downstreamStatus = downstreamStatus settings ∧
      db.submissions.insert? submission = some db'.submissions ∧
      db.events.insert? (newEvent settings submission eventId) = some db'.events := by
  simp only [accept, seq_committed] at h
  obtain ⟨found, hbegin, h⟩ := h
  cases found with
  | inl replayed =>
    cases h
    exact Or.inl rfl
  | inr submission =>
    have hfinish : finish settings db submission eventId = .ok (db', accepted) := h
    simp only [finish, addEvent, seq_committed, orRaise_committed, require_committed,
      return_committed, Prod.mk.injEq] at hfinish
    obtain ⟨submissions, hsubmissions, _, ⟨_, _, _, _, events, hevents, rfl⟩, rfl, _⟩ := hfinish
    refine Or.inr ⟨submission, ?_, hsubmissions, hevents⟩
    simp only [begin, seq_committed] at hbegin
    obtain ⟨_, _, hbegin⟩ := hbegin
    split at hbegin
    · simp only [seq_committed, return_committed, reduceCtorEq, and_false, exists_false] at hbegin
    · simp only [seq_committed, return_committed, Sum.inr.injEq] at hbegin
      obtain ⟨_, _, _, _, rfl⟩ := hbegin
      rfl

theorem exec_step (s : World) (op : Op) : Step s op (s.exec op) := by
  cases op with
  | accept settings catalog submissionType data key sourceIp now id eventId =>
    simp only [World.exec]
    split
    · next db accepted haccept =>
      rcases accept_rows haccept with rfl | ⟨submission, hpending, hsubmissions, hevents⟩
      · exact .idle fun _ _ _ hop => by cases hop
      · exact .accepted hpending hsubmissions hevents
    · exact .idle fun _ _ _ hop => by cases hop
  | emit event =>
    simp only [World.exec]
    split
    · next hdefault =>
      split
      · next db hadd =>
        simp only [addEvent, seq_committed, orRaise_committed, require_committed,
          return_committed] at hadd
        obtain ⟨_, _, _, _, events, hevents, rfl⟩ := hadd
        exact .emitted hdefault hevents
      · exact .idle fun _ _ _ hop => by cases hop
    · exact .idle fun _ _ _ hop => by cases hop
  | activate skipped now => exact .activated
  | park skipped now => exact .parked
  | claim worker skipped limit now =>
    simp only [World.exec, World.claimOf, claim]
    split
    · exact .idle fun _ _ _ hop => by cases hop
    · next workers hinserted => exact .claimed hinserted
  | call worker =>
    simp only [World.exec]
    split
    · next worker hfound =>
      obtain rfl := Table.key_of_get? hfound
      unfold World.callOf
      split
      · next event batch hfirst hidle => exact .called hfound hfirst hidle
      · exact .idle fun _ _ _ hop => by cases hop
    · exact .idle fun _ _ _ hop => by cases hop
  | answer worker email adapter =>
    simp only [World.exec]
    split
    · next worker hfound =>
      obtain rfl := Table.key_of_get? hfound
      unfold World.answerOf
      split
      · next event batch hfirst hcalling => exact .answered hfound hfirst hcalling
      · exact .idle fun _ _ _ hop => by cases hop
    · exact .idle fun _ _ _ hop => by cases hop
  | finalize worker now jitter =>
    simp only [World.exec]
    split
    · next worker hfound =>
      obtain rfl := Table.key_of_get? hfound
      unfold World.finalizeOf
      split
      · next event batch ending hfirst hcalled => exact .finalized hfound hfirst hcalled
      · next hnot =>
        refine .idle fun id _ _ hop => ?_
        cases hop
        simp only [World.endedOf, hfound, Option.bind_some]
    · next hfound =>
      refine .idle fun id _ _ hop => ?_
      cases hop
      simp only [World.endedOf, hfound, Option.bind_none]
  | crash worker =>
    simp only [World.exec]
    split
    · next worker hfound =>
      obtain rfl := Table.key_of_get? hfound
      exact .crashed hfound
    · exact .idle fun _ _ _ hop => by cases hop
  | retry eventId actorId now =>
    simp only [World.exec]
    split
    · next db event hretry =>
      simp only [retry, seq_committed, orRaise_committed, require_committed, return_committed,
        Prod.mk.injEq] at hretry
      obtain ⟨stored, hfound, _, hallowed, rfl, _⟩ := hretry
      obtain rfl := Table.key_of_get? hfound
      exact .retried hfound hallowed rfl rfl
    · exact .idle fun _ _ _ hop => by cases hop

/-! ## What happens to a row -/

/-- What a step from `s` to `s'` does to a row, and who holds the event then. -/
inductive Moved (s s' : World) : Op → OutboxEvent → OutboxEvent → Prop
  | kept {op : Op} {row : OutboxEvent} (holder : s'.holder row.id = s.holder row.id)
      (apart : ∀ worker now jitter, op = .finalize worker now jitter →
        ∀ ended ∈ s.endedOf worker, ended.1.id ≠ row.id) :
      Moved s s' op row row
  | activated {skipped : List Uuid} {now : Instant} {row : OutboxEvent}
      (status : row.status = .pendingConfiguration)
      (holder : s'.holder row.id = s.holder row.id) :
      Moved s s' (.activate skipped now) row (Outbox.activated now row)
  | parked {skipped : List Uuid} {now : Instant} {row : OutboxEvent}
      (status : row.status ∈ unconfigurable) (taken : row.id ∈ s.parkedIds skipped)
      (holder : s'.holder row.id = none) :
      Moved s s' (.park skipped now) row (Outbox.parked now row)
  | claimed {worker : Uuid} {skipped : List Uuid} {limit : Nat} {now : Instant}
      {row : OutboxEvent} {token : Nat} (due : due now row = true)
      (unknown : s.workers.get? worker = none) (fresh : s.drawn ≤ token)
      (mem : Outbox.claimed now DEFAULT_LEASE_SECONDS token row ∈ s.claims skipped limit now)
      (holder : s'.holder row.id = some worker) :
      Moved s s' (.claim worker skipped limit now) row
        (Outbox.claimed now DEFAULT_LEASE_SECONDS token row)
  | finalized {worker : Worker} {event : OutboxEvent} {batch : List OutboxEvent}
      {ending : Ending} {now : Instant} {jitter : Nat} {row : OutboxEvent}
      (found : s.workers.get? worker.id = some worker) (first : worker.batch = event :: batch)
      (called : worker.stage = .called ending) (own : event.id = row.id)
      (after : s'.workers = s.workers.put { worker with batch, stage := .idle })
      (holder : s'.holder row.id = s.holder row.id) :
      Moved s s' (.finalize worker.id now jitter) row
        (event.merge (finished now jitter ending event) row)
  | retried {actorId : Uuid} {now : Instant} {row : OutboxEvent}
      (allowed : row.status ∈ retryable) (anew : s'.attempts row.id = 0)
      (holder : s'.holder row.id = s.holder row.id) :
      Moved s s' (.retry row.id actorId now) row (Outbox.retried now row)

theorem World.endedOf_eq {s : World} {worker : Worker} {event : OutboxEvent}
    {batch : List OutboxEvent} {ending : Ending}
    (found : s.workers.get? worker.id = some worker) (first : worker.batch = event :: batch)
    (called : worker.stage = .called ending) : s.endedOf worker.id = some (event, ending) := by
  simp only [endedOf, found, Option.bind_some, first, called]

/-- No step drops a row, and this is all that it can do to one. -/
theorem Step.moved {s s' : World} {op : Op} (h : Step s op s') :
    Table.Kept (Moved s s' op) s.db.events s'.db.events := by
  cases h with
  | idle nothing =>
    refine .of_eq rfl fun row => .kept rfl fun worker now jitter hop ended hended => ?_
    rw [nothing worker now jitter hop] at hended
    cases hended
  | accepted _ _ events => exact .insert events fun _ => .kept rfl nofun
  | emitted _ inserted => exact .insert inserted fun _ => .kept rfl nofun
  | @activated skipped now =>
    intro row hrow
    have hmem : ∀ event ∈ configurable s.db.events skipped [.pendingConfiguration],
        event ∈ s.db.events.rows := fun event hevent => (mem_configurable hevent).1
    have hid : ∀ event, (Outbox.activated now event).id = event.id :=
      fun event => congrArg Prod.fst (activated_identity now event)
    rcases get?_writeBack_map (Table.get?_key hrow) hmem hid with ⟨htaken, hget⟩ | ⟨_, hget⟩
    · have hstatus := (mem_configurable htaken).2.2
      exact ⟨_, hget, .activated (by simpa using hstatus) rfl⟩
    · exact ⟨_, hget, .kept rfl nofun⟩
  | @parked skipped now =>
    intro row hrow
    have hmem : ∀ event ∈ configurable s.db.events skipped unconfigurable,
        event ∈ s.db.events.rows := fun event hevent => (mem_configurable hevent).1
    rcases get?_writeBack_map (f := Outbox.parked now) (Table.get?_key hrow) hmem
      (fun _ => rfl) with ⟨htaken, hget⟩ | ⟨hnot, hget⟩
    · have hparked : row.id ∈ s.parkedIds skipped := List.mem_map_of_mem htaken
      exact ⟨_, hget, .parked (mem_configurable htaken).2.2 hparked (if_pos hparked)⟩
    · exact ⟨_, hget, .kept (if_neg hnot) nofun⟩
  | @claimed worker skipped limit now workers inserted =>
    intro row hrow
    rcases get?_writeBack_of_some (s.claims skipped limit now)
      (Table.get?_key hrow) with ⟨copy, hcopy, hid, hget⟩ | ⟨hnot, hget⟩
    · obtain ⟨event, hevent, token, hfresh, _, rfl⟩ := mem_claimEach hcopy
      obtain ⟨hmem, hdue⟩ := mem_claimable hevent
      obtain rfl : event = row := Table.eq_of_key hmem hrow hid
      have hunknown : s.workers.get? worker = none := by
        rw [Table.get?_eq_none]
        exact fun other hother => Table.key_fresh inserted hother
      exact ⟨_, hget, .claimed hdue hunknown hfresh hcopy
        (if_pos (List.mem_map_of_mem (f := (·.id)) hcopy))⟩
    · exact ⟨_, hget, .kept (if_neg hnot) nofun⟩
  | called | answered | crashed => exact .of_eq rfl fun _ => .kept rfl nofun
  | @finalized worker event batch ending now jitter found first called =>
    intro row hrow
    show ∃ row', (writeEvent s.db.events event (finished now jitter ending event)).get? row.id =
      some row' ∧ _
    have hended := World.endedOf_eq found first called
    have hapart : event.id ≠ row.id → ∀ id now' jitter',
        Op.finalize worker.id now jitter = .finalize id now' jitter' →
          ∀ ended ∈ s.endedOf id, ended.1.id ≠ row.id := by
      intro hne id now' jitter' hop ended hmem
      cases hop
      rw [hended] at hmem
      cases hmem
      exact hne
    unfold writeEvent
    cases hstored : s.db.events.get? event.id with
    | none =>
      refine ⟨row, Table.get?_key hrow, .kept rfl (hapart fun hid => ?_)⟩
      exact Table.get?_eq_none.mp hstored row hrow hid.symm
    | some stored =>
      by_cases hid : event.id = row.id
      · obtain rfl : stored = row := by
          have hget := Table.get?_key hrow
          rw [show KeyedTable.key row = event.id from hid.symm, hstored] at hget
          exact Option.some.inj hget
        exact ⟨_, Table.get?_put_self (Table.get?_key hrow) rfl,
          .finalized found first called hid rfl rfl⟩
      · refine ⟨row, ?_, .kept rfl (hapart hid)⟩
        rw [Table.get?_put_ne]
        · exact Table.get?_key hrow
        · intro hkey
          exact hid ((Table.key_of_get? hstored).symm.trans hkey)
  | @retried event actorId now db found allowed events submissions =>
    intro row hrow
    show ∃ row', db.events.get? row.id = some row' ∧ _
    rw [events]
    by_cases hid : event.id = row.id
    · obtain rfl : event = row := Table.eq_of_key (Table.mem_of_get? found) hrow hid
      exact ⟨_, Table.get?_put_self found rfl, .retried allowed (if_pos rfl) rfl⟩
    · exact ⟨row, (Table.get?_put_ne hid).trans (Table.get?_key hrow), .kept rfl nofun⟩

/-- A new row, as it is committed. -/
inductive Created (s s' : World) : Op → OutboxEvent → Prop
  | accepted {settings : Settings} {catalog : List PublicSubmissions.CatalogService}
      {submissionType : SubmissionType} {data : TrackingFields} {key sourceIp : String}
      {now : Instant} {id eventId : Uuid} {submission : PublicSubmission}
      (pending : submission.downstreamStatus = downstreamStatus settings)
      (inserted : s.db.submissions.insert? submission = some s'.db.submissions) :
      Created s s' (.accept settings catalog submissionType data key sourceIp now id eventId)
        (newEvent settings submission eventId)
  | emitted {event : OutboxEvent} (default : World.emittable event) :
      Created s s' (.emit event) event

theorem mem_of_mem_put {t : Table OutboxEvent} {event row : OutboxEvent}
    (h : row ∈ (t.put event).rows) : ∃ old ∈ t.rows, old.id = row.id := by
  rcases Table.mem_put.mp h with ⟨rfl, old, hold, hid⟩ | ⟨hmem, _⟩
  · exact ⟨old, hold, hid⟩
  · exact ⟨row, hmem, rfl⟩

theorem mem_of_mem_writeBack {t : Table OutboxEvent} {rows : List OutboxEvent}
    {row : OutboxEvent} (h : row ∈ (writeBack t rows).rows) : ∃ old ∈ t.rows, old.id = row.id := by
  have hget : (writeBack t rows).get? row.id = some row := Table.get?_key h
  rw [get?_writeBack, Option.map_eq_some_iff] at hget
  obtain ⟨old, hold, _⟩ := hget
  exact ⟨old, Table.mem_of_get? hold, Table.key_of_get? hold⟩

/-- Where a row comes from. -/
theorem Step.row {s s' : World} {op : Op} (h : Step s op s') {row' : OutboxEvent}
    (hmem : row' ∈ s'.db.events.rows) :
    (∃ row ∈ s.db.events.rows, row.id = row'.id ∧ Moved s s' op row row') ∨
      (Created s s' op row' ∧ s.db.events.get? row'.id = none) := by
  have hold : (∃ row ∈ s.db.events.rows, row.id = row'.id) →
      ∃ row ∈ s.db.events.rows, row.id = row'.id ∧ Moved s s' op row row' := by
    rintro ⟨row, hrow, hid⟩
    exact ⟨row, hrow, hid, h.moved.rel hrow hmem hid.symm⟩
  have hnew : ∀ {event : OutboxEvent}, s.db.events.insert? event = some s'.db.events →
      Created s s' op event → (∃ row ∈ s.db.events.rows, row.id = row'.id) ∨
        (Created s s' op row' ∧ s.db.events.get? row'.id = none) := by
    intro event hinsert hcreated
    rcases (Table.mem_insert hinsert).mp hmem with hmem | rfl
    · exact Or.inl ⟨row', hmem, rfl⟩
    · refine Or.inr ⟨hcreated, ?_⟩
      rw [Table.get?_eq_none]
      exact fun other hother => Table.key_fresh hinsert hother
  cases h with
  | idle | called | answered | crashed => exact Or.inl (hold ⟨row', hmem, rfl⟩)
  | accepted pending inserted events =>
    exact (hnew events (.accepted pending inserted)).imp_left hold
  | emitted default inserted => exact (hnew inserted (.emitted default)).imp_left hold
  | activated | parked | claimed => exact Or.inl (hold (mem_of_mem_writeBack hmem))
  | finalized =>
    simp only [finalize, writeEvent] at hmem
    split at hmem
    · exact Or.inl (hold (mem_of_mem_put hmem))
    · exact Or.inl (hold ⟨row', hmem, rfl⟩)
  | retried _ _ events =>
    simp only [events] at hmem
    exact Or.inl (hold (mem_of_mem_put hmem))

/-! ## Batches -/

/-- What a dispatcher comes to in a step of its own. -/
inductive Continues (worker : Worker) : Worker → Prop
  | same : Continues worker worker
  | called (idle : worker.stage = .idle) : Continues worker { worker with stage := .calling }
  | answered (ending : Ending) (calling : worker.stage = .calling) :
      Continues worker { worker with stage := .called ending }
  | finalized {event : OutboxEvent} {batch : List OutboxEvent} {ending : Ending}
      (first : worker.batch = event :: batch) (called : worker.stage = .called ending) :
      Continues worker { worker with batch, stage := .idle }
  | crashed : Continues worker { worker with batch := [], stage := .idle }

theorem Continues.id {worker worker' : Worker} (h : Continues worker worker') :
    worker'.id = worker.id := by
  cases h <;> rfl

theorem Continues.suffix {worker worker' : Worker} (h : Continues worker worker') :
    worker'.batch <:+ worker.batch := by
  cases h with
  | same | called | answered => exact List.suffix_refl _
  | finalized first =>
    rw [first]
    exact List.suffix_cons _ _
  | crashed => exact List.nil_suffix

/-- A dispatcher comes from a claim, or goes on. -/
theorem Step.batch {s s' : World} {op : Op} (h : Step s op s') {worker' : Worker}
    (hmem : worker' ∈ s'.workers.rows) :
    (∃ worker ∈ s.workers.rows, Continues worker worker') ∨
      ∃ skipped limit now, op = .claim worker'.id skipped limit now ∧
        s.workers.get? worker'.id = none ∧
        worker' = { id := worker'.id, batch := s.claims skipped limit now } := by
  have hsame : worker' ∈ s.workers.rows → ∃ worker ∈ s.workers.rows, Continues worker worker' :=
    fun hmem => ⟨worker', hmem, .same⟩
  have hput : ∀ {worker next : Worker}, worker' ∈ (s.workers.put next).rows →
      s.workers.get? worker.id = some worker → Continues worker next →
      ∃ worker ∈ s.workers.rows, Continues worker worker' := by
    intro worker next hmem found hcontinues
    rcases Table.mem_put.mp hmem with ⟨rfl, _⟩ | ⟨hmem, _⟩
    · exact ⟨worker, Table.mem_of_get? found, hcontinues⟩
    · exact hsame hmem
  cases h with
  | idle | accepted | emitted | activated | parked | retried => exact Or.inl (hsame hmem)
  | claimed inserted =>
    rcases (Table.mem_insert inserted).mp hmem with hmem | rfl
    · exact Or.inl (hsame hmem)
    · refine Or.inr ⟨_, _, _, rfl, ?_, rfl⟩
      rw [Table.get?_eq_none]
      exact fun other hother => Table.key_fresh inserted hother
  | called found _ idle => exact Or.inl (hput hmem found (.called idle))
  | answered found _ calling => exact Or.inl (hput hmem found (.answered _ calling))
  | finalized found first called => exact Or.inl (hput hmem found (.finalized first called))
  | crashed found => exact Or.inl (hput hmem found .crashed)

end Breero.Outbox
