import Breero.Outbox.Claimants
import Breero.PublicSubmissions.Acceptance

/-!
The status of a submission beside that of its event.

A submission has a copy of how far its event is. It is written with the event when that is
delivered, activated or parked; a call that fails writes the event alone.

* `Agree` says that the copy is right;
* `SubmissionsInv`: a submission has one event, which the middleware gets;
* `World.agree_iff`: the copies are right throughout a run just if no event of a submission
  fails for good, nor fails after it was delivered;
* `World.refused_disagrees` is a run in which the middleware refuses a submission.
-/

namespace Breero.Outbox
open KeyedTable Transaction PublicSubmissions Runs

/-! ## The law -/

def corresponds : EventStatus → DownstreamStatus → Bool
  | .delivered, status => status = .delivered
  | .failedTerminal, status | .failed, status | .deadLetter, status => status = .failed
  | _, status => status = .pending || status = .pendingConfiguration

/-- The statuses between the creation of an event and its end. -/
def waiting : List EventStatus :=
  [.pending, .pendingConfiguration, .processing, .retrying, .failedRetryable]

namespace World

/-- A submission has an event, and its status is that of the event. -/
def Agree (s : World) : Prop :=
  ∀ submission ∈ s.db.submissions.rows,
    (∃ event ∈ s.db.events.rows, isEventOf submission.id event = true) ∧
    ∀ event ∈ s.db.events.rows, isEventOf submission.id event = true →
      corresponds event.status submission.downstreamStatus = true

instance : DecidablePred Agree := fun s =>
  inferInstanceAs (Decidable (∀ submission ∈ s.db.submissions.rows,
    (∃ event ∈ s.db.events.rows, isEventOf submission.id event = true) ∧
    ∀ event ∈ s.db.events.rows, isEventOf submission.id event = true →
      corresponds event.status submission.downstreamStatus = true))

/-- A call for a submission that raised does not end its event, and finds it undelivered. -/
def Undecided (s : World) (event : OutboxEvent) : Ending → Prop
  | .returned _ => True
  | .raised failure => ofSubmission event = true →
    endsTerminal failure event.attemptCount = false ∧
      ∀ row ∈ s.db.events.get? event.id, row.status ≠ .delivered

instance (s : World) (event : OutboxEvent) : DecidablePred (s.Undecided event)
  | .returned _ => isTrue trivial
  | .raised failure => inferInstanceAs (Decidable (ofSubmission event = true →
      endsTerminal failure event.attemptCount = false ∧
        ∀ row ∈ s.db.events.get? event.id, row.status ≠ .delivered))

def KeepsAgreement (s : World) : Op → Prop
  | .finalize worker _ _ => ∀ ended ∈ s.endedOf worker, s.Undecided ended.1 ended.2
  | _ => True

instance (s : World) : DecidablePred s.KeepsAgreement
  | .finalize worker _ _ =>
    inferInstanceAs (Decidable (∀ ended ∈ s.endedOf worker, s.Undecided ended.1 ended.2))
  | .accept .. | .emit .. | .activate .. | .park .. | .claim .. | .call .. | .answer ..
  | .crash .. | .retry .. => isTrue trivial

end World

/-! ## Submissions and their events -/

/-- What a call that returned has read: the submission of its event, if that is of one. -/
def ReadFor (event : OutboxEvent) (delivered : Delivered) : Prop :=
  (ofSubmission event = true → delivered.submission.isSome) ∧
    ∀ submission, delivered.submission = some submission →
      ofSubmission event = true ∧ submission.id = event.aggregateId

structure SubmissionsInv (s : World) : Prop extends BatchesInv s where
  hasEvent : ∀ submission ∈ s.db.submissions.rows,
    ∃ event ∈ s.db.events.rows, isEventOf submission.id event = true
  ofOne : ∀ event ∈ s.db.events.rows, ofSubmission event = true →
    ∃ submission ∈ s.db.submissions.rows, submission.id = event.aggregateId
  single : ∀ a ∈ s.db.events.rows, ∀ b ∈ s.db.events.rows, ofSubmission a = true →
    ofSubmission b = true → a.aggregateId = b.aggregateId → a.id = b.id
  kind : ∀ event ∈ s.db.events.rows, ofSubmission event = true →
    event.eventType ∉ notificationEvents ∧ startsWith event.eventType "breero." = true
  unfailed : ∀ submission ∈ s.db.submissions.rows, submission.downstreamStatus ≠ .failed
  read : ∀ worker ∈ s.workers.rows, ∀ event batch delivered, worker.batch = event :: batch →
    worker.stage = .called (.returned delivered) → ReadFor event delivered

variable {s s' : World} {op : Op}

theorem isEventOf_iff {id : Uuid} {event : OutboxEvent} :
    isEventOf id event = true ↔ ofSubmission event = true ∧ event.aggregateId = id := by
  simp [isEventOf]

/-- The columns by which an event is of a submission. -/
theorem identity_eq {a b : OutboxEvent} (h : a.identity = b.identity) :
    a.id = b.id ∧ ofSubmission a = ofSubmission b ∧ a.aggregateId = b.aggregateId ∧
      a.eventType = b.eventType := by
  simp only [OutboxEvent.identity, Prod.mk.injEq] at h
  obtain ⟨hid, htype, haggregate, hevent⟩ := h
  exact ⟨hid, by simp only [ofSubmission, htype], haggregate, hevent⟩

theorem mem_setDownstream {t : Table PublicSubmission} {ids : List Uuid}
    {status : DownstreamStatus} {submission : PublicSubmission}
    (h : submission ∈ (setDownstream t ids status).rows) :
    ∃ old ∈ t.rows, old.id = submission.id ∧
      ((old.id ∈ ids ∧ submission.downstreamStatus = status) ∨
        (old.id ∉ ids ∧ submission = old)) := by
  obtain ⟨old, hold, heq⟩ := Table.mem_update.mp h
  refine ⟨old, hold, ?_⟩
  split at heq
  · next hin =>
    subst heq
    exact ⟨rfl, Or.inl ⟨hin, rfl⟩⟩
  · next hout =>
    subst heq
    exact ⟨rfl, Or.inr ⟨hout, rfl⟩⟩

theorem setDownstream_mem {t : Table PublicSubmission} (ids : List Uuid)
    (status : DownstreamStatus) {old : PublicSubmission} (h : old ∈ t.rows) :
    ∃ submission ∈ (setDownstream t ids status).rows, submission.id = old.id := by
  refine ⟨_, Table.mem_update.mpr ⟨old, h, rfl⟩, ?_⟩
  split <;> rfl

/-- What a step writes into a submission. -/
theorem Step.submission (h : Step s op s') {submission' : PublicSubmission}
    (hmem : submission' ∈ s'.db.submissions.rows) :
    (∃ submission ∈ s.db.submissions.rows, submission.id = submission'.id ∧
      (submission' = submission ∨ submission'.downstreamStatus ≠ .failed)) ∨
    (submission'.downstreamStatus ≠ .failed ∧ ∃ settings eventId,
      newEvent settings submission' eventId ∈ s'.db.events.rows) := by
  have hsame : submission' ∈ s.db.submissions.rows →
      ∃ submission ∈ s.db.submissions.rows, submission.id = submission'.id ∧
        (submission' = submission ∨ submission'.downstreamStatus ≠ .failed) :=
    fun hmem => ⟨submission', hmem, rfl, Or.inl rfl⟩
  have hset : ∀ {ids : List Uuid} {status : DownstreamStatus}, status ≠ .failed →
      submission' ∈ (setDownstream s.db.submissions ids status).rows →
      ∃ submission ∈ s.db.submissions.rows, submission.id = submission'.id ∧
        (submission' = submission ∨ submission'.downstreamStatus ≠ .failed) := by
    intro ids status hstatus hmem
    obtain ⟨old, hold, hid, ⟨_, hset⟩ | ⟨_, heq⟩⟩ := mem_setDownstream hmem
    · exact ⟨old, hold, hid, Or.inr (hset ▸ hstatus)⟩
    · exact ⟨old, hold, hid, Or.inl heq⟩
  cases h with
  | idle | emitted | claimed | called | answered | crashed => exact Or.inl (hsame hmem)
  | retried _ _ _ submissions => exact Or.inl (hsame (submissions ▸ hmem))
  | activated => exact Or.inl (hset (by decide) hmem)
  | parked => exact Or.inl (hset (by decide) hmem)
  | @accepted settings _ _ _ _ _ _ _ eventId _ _ pending submissions events =>
    rcases (Table.mem_insert submissions).mp hmem with hmem | rfl
    · exact Or.inl (hsame hmem)
    · refine Or.inr ⟨?_, settings, eventId, (Table.mem_insert events).mpr (Or.inr rfl)⟩
      rw [pending]
      unfold downstreamStatus
      split <;> simp
  | @finalized worker event batch ending now jitter =>
    simp only [finalize, writeSubmission] at hmem
    split at hmem
    · split at hmem
      · exact Or.inl (hsame hmem)
      · exact Or.inl (hset (by decide) hmem)
    · exact Or.inl (hsame hmem)

/-- No step drops a submission. -/
theorem Step.submission_kept (h : Step s op s') {submission : PublicSubmission}
    (hmem : submission ∈ s.db.submissions.rows) :
    ∃ submission' ∈ s'.db.submissions.rows, submission'.id = submission.id := by
  cases h with
  | idle | emitted | claimed | called | answered | crashed => exact ⟨submission, hmem, rfl⟩
  | retried _ _ _ submissions => exact ⟨submission, submissions ▸ hmem, rfl⟩
  | activated => exact setDownstream_mem _ _ hmem
  | parked => exact setDownstream_mem _ _ hmem
  | accepted pending submissions =>
    exact ⟨submission, (Table.mem_insert submissions).mpr (Or.inl hmem), rfl⟩
  | finalized =>
    simp only [finalize, writeSubmission]
    split
    · split
      · exact ⟨submission, hmem, rfl⟩
      · exact setDownstream_mem _ _ hmem
    · exact ⟨submission, hmem, rfl⟩

/-! ## Steps of the structure -/

theorem createdEvent_kind (submissionType : SubmissionType) :
    createdEvent submissionType ∉ notificationEvents ∧
      startsWith (createdEvent submissionType) "breero." = true := by
  cases submissionType <;> decide

/-- The handler reads the submission of an event that the middleware gets. -/
theorem deliver_read {submissions : Table PublicSubmission} {event : OutboxEvent}
    {email : Option Failure} {adapter : Except Failure EventDeliveryResult}
    {delivered : Delivered}
    (hkind : ofSubmission event = true → event.eventType ∉ notificationEvents ∧
      startsWith event.eventType "breero." = true ∧
      (submissions.get? event.aggregateId).isSome)
    (h : deliverOutboxEvent submissions event email adapter = .returned delivered) :
    ReadFor event delivered := by
  unfold deliverOutboxEvent at h
  split at h
  · next hnotification =>
    split at h
    · cases h
    · cases h
      exact ⟨fun hof => absurd hnotification (hkind hof).1, fun _ hread => by cases hread⟩
  · split at h
    · split at h
      · cases h
      · cases h
        refine ⟨fun hof => ?_, fun submission hread => ?_⟩
        · simp only [hof, if_true]
          exact (hkind hof).2.2
        · split at hread
          · next hof => exact ⟨hof, Table.key_of_get? hread⟩
          · cases hread
    · cases h

/-- A worker whose call has returned was there before the step, or the step is the answer to its
call. -/
theorem Step.returned (hstep : Step s op s') {worker' : Worker} {delivered : Delivered}
    (hworker' : worker' ∈ s'.workers.rows)
    (hcalled : worker'.stage = .called (.returned delivered)) :
    worker' ∈ s.workers.rows ∨ ∃ worker ∈ s.workers.rows, ∃ event batch email adapter,
      worker.batch = event :: batch ∧ worker'.batch = event :: batch ∧ s'.db = s.db ∧
        deliverOutboxEvent s.db.submissions event email adapter = .returned delivered := by
  cases hstep with
  | idle | accepted | emitted | activated | parked | retried => exact Or.inl hworker'
  | claimed inserted =>
    rcases (Table.mem_insert inserted).mp hworker' with hmem | rfl
    · exact Or.inl hmem
    · cases hcalled
  | called | finalized | crashed =>
    rcases Table.mem_put.mp hworker' with ⟨rfl, _⟩ | ⟨hmem, _⟩
    · cases hcalled
    · exact Or.inl hmem
  | @answered worker event batch email adapter found first calling =>
    rcases Table.mem_put.mp hworker' with ⟨rfl, _⟩ | ⟨hmem, _⟩
    · exact Or.inr ⟨worker, Table.mem_of_get? found, event, batch, email, adapter, first, first,
        rfl, Stage.called.inj hcalled⟩
    · exact Or.inl hmem

theorem SubmissionsInv.read_step (h : SubmissionsInv s) (hstep : Step s op s') {worker' : Worker}
    (hworker' : worker' ∈ s'.workers.rows) {event : OutboxEvent} {batch : List OutboxEvent}
    {delivered : Delivered} (hfirst : worker'.batch = event :: batch)
    (hcalled : worker'.stage = .called (.returned delivered)) : ReadFor event delivered := by
  rcases hstep.returned hworker' hcalled with
    hold | ⟨worker, hmem, first, rest, email, adapter, hbatch, hbatch', _, hdeliver⟩
  · exact h.read worker' hold event batch delivered hfirst hcalled
  · have heq : first = event := (List.cons.inj (hbatch'.symm.trans hfirst)).1
    subst heq
    refine deliver_read (fun hof => ?_) hdeliver
    obtain ⟨row, hrow, hsame⟩ := (h.copied worker hmem first (by simp [hbatch])).stored
    obtain ⟨_, hrowof, haggregate, htype⟩ := identity_eq hsame
    have hrowmem := Table.mem_of_get? hrow
    rw [hof] at hrowof
    obtain ⟨submission, hsubmission, hid⟩ := h.ofOne row hrowmem hrowof
    obtain ⟨hnot, hprefix⟩ := h.kind row hrowmem hrowof
    rw [htype] at hnot hprefix
    refine ⟨hnot, hprefix, ?_⟩
    rw [← haggregate, ← hid]
    exact Option.isSome_iff_exists.mpr ⟨submission, Table.get?_key hsubmission⟩

/-- The event that comes with a submission. -/
def Op.eventId : Op → Option Uuid
  | .accept _ _ _ _ _ _ _ _ eventId => some eventId
  | _ => none

/-- An event of a submission was one before the step, or it came with the submission. -/
theorem Step.ofSubmission (hstep : Step s op s') {event' : OutboxEvent}
    (hmem : event' ∈ s'.db.events.rows) (hof : ofSubmission event' = true) :
    (∃ event ∈ s.db.events.rows, Moved s s' op event event' ∧ ofSubmission event = true ∧
      event.id = event'.id ∧ event.aggregateId = event'.aggregateId ∧
      event.eventType = event'.eventType) ∨
    ∃ settings submission eventId, op.eventId = some eventId ∧
      event' = newEvent settings submission eventId ∧
      submission.downstreamStatus = downstreamStatus settings ∧
      s.db.submissions.insert? submission = some s'.db.submissions := by
  rcases hstep.row hmem with ⟨event, hevent, _, hmoved⟩ | ⟨hcreated, _⟩
  · obtain ⟨hid, hsame, haggregate, htype⟩ := identity_eq hmoved.identity
    exact Or.inl ⟨event, hevent, hmoved, hsame ▸ hof, hid.symm, haggregate.symm, htype.symm⟩
  · cases hcreated with
    | accepted pending inserted => exact Or.inr ⟨_, _, _, rfl, rfl, pending, inserted⟩
    | emitted default =>
      rw [default.1] at hof
      cases hof

theorem SubmissionsInv.step (h : SubmissionsInv s) (hstep : Step s op s') :
    SubmissionsInv s' := by
  refine ⟨h.toBatchesInv.step hstep, ?_, ?_, ?_, ?_, ?_,
    fun _ hworker _ _ _ => h.read_step hstep hworker⟩
  · intro submission' hsubmission'
    rcases hstep.submission hsubmission' with ⟨submission, hsubmission, hid, _⟩ |
      ⟨_, settings, eventId, hevent⟩
    · obtain ⟨event, hevent, hof⟩ := h.hasEvent submission hsubmission
      obtain ⟨event', hevent', hmoved⟩ := hstep.moved event hevent
      obtain ⟨_, hsame, haggregate, _⟩ := identity_eq hmoved.identity
      refine ⟨event', Table.mem_of_get? hevent', ?_⟩
      rw [isEventOf_iff] at hof ⊢
      exact ⟨hsame ▸ hof.1, haggregate.trans (hof.2.trans hid)⟩
    · exact ⟨_, hevent, isEventOf_iff.mpr ⟨rfl, rfl⟩⟩
  · intro event' hevent' hof
    rcases hstep.ofSubmission hevent' hof with ⟨event, hevent, _, hofold, _, haggregate, _⟩ |
      ⟨_, submission, _, _, rfl, _, inserted⟩
    · obtain ⟨submission, hsubmission, hid⟩ := h.ofOne event hevent hofold
      obtain ⟨submission', hsubmission', hid'⟩ := hstep.submission_kept hsubmission
      exact ⟨submission', hsubmission', hid'.trans (hid.trans haggregate)⟩
    · exact ⟨submission, (Table.mem_insert inserted).mpr (Or.inr rfl), rfl⟩
  · intro a' ha' b' hb' hofa hofb hsame
    have hfresh : ∀ {submission : PublicSubmission} {event : OutboxEvent},
        s.db.submissions.insert? submission = some s'.db.submissions →
        event ∈ s.db.events.rows → ofSubmission event = true →
        event.aggregateId = submission.id → False := by
      intro submission event inserted hevent hof heq
      obtain ⟨old, hold, hid⟩ := h.ofOne event hevent hof
      exact Table.key_fresh inserted hold (hid.trans heq)
    rcases hstep.ofSubmission ha' hofa with ⟨a, ha, _, hofa, hida, hagga, _⟩ |
      ⟨settings, submission, eventId, ha, rfl, _, inserteda⟩
    · rcases hstep.ofSubmission hb' hofb with ⟨b, hb, _, hofb, hidb, haggb, _⟩ |
        ⟨settings, submission, _, _, rfl, _, inserted⟩
      · rw [← hida, ← hidb]
        exact h.single a ha b hb hofa hofb (hagga.trans (hsame.trans haggb.symm))
      · exact (hfresh inserted ha hofa (hagga.trans hsame)).elim
    · rcases hstep.ofSubmission hb' hofb with ⟨b, hb, _, hofb, hidb, haggb, _⟩ |
        ⟨_, _, _, hb, rfl, _, _⟩
      · exact (hfresh inserteda hb hofb (haggb.trans hsame.symm)).elim
      · exact Option.some.inj (ha.symm.trans hb)
  · intro event' hevent' hof
    rcases hstep.ofSubmission hevent' hof with ⟨event, hevent, _, hofold, _, _, htype⟩ |
      ⟨_, submission, _, _, rfl, _, _⟩
    · rw [← htype]
      exact h.kind event hevent hofold
    · exact createdEvent_kind submission.submissionType
  · intro submission' hsubmission'
    rcases hstep.submission hsubmission' with ⟨submission, hsubmission, _, rfl | hset⟩ | ⟨hset, _⟩
    · exact h.unfailed _ hsubmission
    · exact hset
    · exact hset

/-! ## Steps of the statuses -/

/-- The same law, seen from the events. -/
def Pairs (s : World) : Prop :=
  ∀ event ∈ s.db.events.rows, ofSubmission event = true →
    ∀ submission ∈ s.db.submissions.rows, submission.id = event.aggregateId →
      corresponds event.status submission.downstreamStatus = true

theorem World.Agree.pairs (h : s.Agree) : Pairs s :=
  fun event hevent hof submission hsubmission hid =>
    (h submission hsubmission).2 event hevent (isEventOf_iff.mpr ⟨hof, hid.symm⟩)

theorem SubmissionsInv.agree (h : SubmissionsInv s) (hpairs : Pairs s) : s.Agree := by
  refine fun submission hsubmission => ⟨h.hasEvent submission hsubmission, ?_⟩
  intro event hevent hof
  rw [isEventOf_iff] at hof
  exact hpairs event hevent hof.1 submission hsubmission hof.2.symm

/-- A submission that was read as delivered is. -/
def ReadsHold (s : World) : Prop :=
  ∀ worker ∈ s.workers.rows, ∀ delivered, worker.stage = .called (.returned delivered) →
    ∀ read, delivered.submission = some read → read.downstreamStatus = .delivered →
      ∃ submission ∈ s.db.submissions.rows, submission.id = read.id ∧
        submission.downstreamStatus = .delivered

structure AgreeInv (s : World) : Prop extends SubmissionsInv s where
  pairs : Pairs s
  reads : ReadsHold s

theorem corresponds_waiting {status : EventStatus} {downstream : DownstreamStatus}
    (h : status ∈ waiting) :
    corresponds status downstream = true ↔
      downstream = .pending ∨ downstream = .pendingConfiguration := by
  cases status <;> simp_all [corresponds, waiting]

theorem waiting_of_corresponds {status : EventStatus} {downstream : DownstreamStatus}
    (h : corresponds status downstream = true) (hdelivered : status ≠ .delivered)
    (hunfailed : downstream ≠ .failed) : status ∈ waiting := by
  cases status <;> simp_all [corresponds, waiting]

/-- An event that moves on before its end. -/
theorem corresponds_moved {status status' : EventStatus} {downstream : DownstreamStatus}
    (h : corresponds status downstream = true) (hwaiting : status ∈ waiting)
    (hwaiting' : status' ∈ waiting) : corresponds status' downstream = true :=
  (corresponds_waiting hwaiting').mpr ((corresponds_waiting hwaiting).mp h)

/-- The submissions of the events that were taken are written, and no others. -/
theorem mem_syncPublicSubmissionStatus {t : Table OutboxEvent} {skipped : List Uuid}
    {statuses : List EventStatus} {submissions : Table PublicSubmission}
    {status : DownstreamStatus} {submission' : PublicSubmission}
    (h : submission' ∈ (syncPublicSubmissionStatus submissions (configurable t skipped statuses)
      status).rows) :
    ∃ submission ∈ submissions.rows, submission.id = submission'.id ∧
      ((∃ event ∈ configurable t skipped statuses, event.aggregateId = submission.id ∧
          submission'.downstreamStatus = status) ∨
        ((∀ event ∈ configurable t skipped statuses, event.aggregateId ≠ submission.id) ∧
          submission' = submission)) := by
  obtain ⟨submission, hsubmission, hid, ⟨hin, hset⟩ | ⟨hout, hsame⟩⟩ := mem_setDownstream h
  · obtain ⟨event, hevent, haggregate⟩ := List.mem_map.mp hin
    exact ⟨submission, hsubmission, hid,
      Or.inl ⟨event, (List.mem_filter.mp hevent).1, haggregate, hset⟩⟩
  · refine ⟨submission, hsubmission, hid, Or.inr ⟨fun event hevent haggregate => hout ?_, hsame⟩⟩
    exact List.mem_map.mpr
      ⟨event, List.mem_filter.mpr ⟨hevent, (mem_configurable hevent).2.1⟩, haggregate⟩

/-- Events of submissions are taken together with these. -/
theorem AgreeInv.configure (h : AgreeInv s) {skipped : List Uuid} {statuses : List EventStatus}
    {f : OutboxEvent → OutboxEvent} {status : DownstreamStatus}
    (hf : ∀ event, (f event).identity = event.identity)
    (hstatus : ∀ event, corresponds (f event).status status = true)
    (hevents : s'.db.events =
      writeBack s.db.events ((configurable s.db.events skipped statuses).map f))
    (hsubmissions : s'.db.submissions = syncPublicSubmissionStatus s.db.submissions
      (configurable s.db.events skipped statuses) status) : Pairs s' := by
  intro event' hevent' hof' submission' hsubmission' hsid
  rw [hevents] at hevent'
  rw [hsubmissions] at hsubmission'
  have htaken : ∀ event ∈ configurable s.db.events skipped statuses, event ∈ s.db.events.rows :=
    fun event hevent => (mem_configurable hevent).1
  have hfid : ∀ event, (f event).id = event.id := fun event => (identity_eq (hf event)).1
  obtain ⟨submission, hsubmission, hid, hset⟩ := mem_syncPublicSubmissionStatus hsubmission'
  obtain ⟨event, hevent, heid⟩ := mem_of_mem_writeBack hevent'
  have hget := Table.get?_key hevent'
  rcases get?_writeBack_map (f := f) (Table.get?_key hevent) htaken hfid with
    ⟨hmem, hwritten⟩ | ⟨hnot, hwritten⟩
  · -- the event was taken, and so was its submission
    obtain rfl : f event = event' := by
      have heq : (writeBack s.db.events ((configurable s.db.events skipped statuses).map f)).get?
          event'.id = some (f event) := heid ▸ hwritten
      exact Option.some.inj (heq.symm.trans hget)
    have haggregate : event.aggregateId = submission.id :=
      (identity_eq (hf event)).2.2.1.symm.trans (hsid.symm.trans hid.symm)
    rcases hset with ⟨_, _, _, hset⟩ | ⟨hnone, _⟩
    · rw [hset]
      exact hstatus event
    · exact absurd haggregate (hnone event hmem)
  · obtain rfl : event = event' := by
      have heq : (writeBack s.db.events ((configurable s.db.events skipped statuses).map f)).get?
          event'.id = some event := heid ▸ hwritten
      exact Option.some.inj (heq.symm.trans hget)
    rcases hset with ⟨other, hother, haggregate, _⟩ | ⟨_, rfl⟩
    · have hsame := h.single other (htaken other hother) event hevent
        (mem_configurable hother).2.1 hof' (haggregate.trans (hid.trans hsid))
      exact absurd (hsame ▸ List.mem_map_of_mem (f := (·.id)) hother) hnot
    · exact h.pairs event hevent hof' _ hsubmission hsid

/-- The submission that a finalization writes is that of its event. -/
theorem mem_writeSubmission {t : Table PublicSubmission} {ending : Ending}
    {submission' : PublicSubmission} (h : submission' ∈ (writeSubmission t ending).rows) :
    (submission' ∈ t.rows ∧ ∀ delivered read, ending = .returned delivered →
        delivered.submission = some read → submission'.id = read.id →
          read.downstreamStatus = .delivered) ∨
      ∃ delivered read, ending = .returned delivered ∧ delivered.submission = some read ∧
        submission'.id = read.id ∧ submission'.downstreamStatus = .delivered := by
  unfold writeSubmission at h
  split at h
  · next read =>
    split at h
    · next hdelivered =>
      refine Or.inl ⟨h, fun delivered other hending hread _ => ?_⟩
      cases hending
      cases hread
      exact hdelivered
    · obtain ⟨old, hold, hid, ⟨hin, hset⟩ | ⟨hout, rfl⟩⟩ := mem_setDownstream h
      · rw [List.mem_singleton] at hin
        exact Or.inr ⟨_, read, rfl, rfl, hid.symm.trans hin, hset⟩
      · refine Or.inl ⟨hold, fun delivered other hending hread hsame => ?_⟩
        cases hending
        cases hread
        exact absurd (List.mem_singleton.mpr hsame) hout
  · next hnone =>
    refine Or.inl ⟨h, fun delivered read hending hread _ => ?_⟩
    obtain ⟨result, submission⟩ := delivered
    have hread : submission = some read := hread
    exact absurd (hread ▸ hending) (hnone result read)

theorem finished_status (now : Instant) (jitter : Nat) (ending : Ending) (event : OutboxEvent) :
    (finished now jitter ending event).status = match ending with
      | .returned _ => .delivered
      | .raised failure =>
        if failure.pendingConfiguration then .pendingConfiguration
        else if endsTerminal failure event.attemptCount then .failedTerminal else .retrying := by
  cases ending with
  | returned delivered =>
    dsimp only [finished, succeeded]
    split <;> rfl
  | raised failure => exact failed_status now jitter failure event

theorem AgreeInv.finalize (h : AgreeInv s) {worker : Worker} {event : OutboxEvent}
    {batch : List OutboxEvent} {ending : Ending} {now : Instant} {jitter : Nat}
    (hop : op = .finalize worker.id now jitter) (hkeeps : s.KeepsAgreement op)
    (found : s.workers.get? worker.id = some worker) (first : worker.batch = event :: batch)
    (called : worker.stage = .called ending) (hstep : Step s op s')
    (hsubmissions : s'.db.submissions = writeSubmission s.db.submissions ending) : Pairs s' := by
  have hended := World.endedOf_eq found first called
  have hworker := Table.mem_of_get? found
  have hmem : event ∈ worker.batch := by simp [first]
  have hcopied := h.copied worker hworker event hmem
  obtain ⟨stored, hstored, hsame⟩ := hcopied.stored
  obtain ⟨hsid, hsof, hsagg, _⟩ := identity_eq hsame
  have hread : ∀ delivered, ending = .returned delivered → ReadFor event delivered :=
    fun delivered hending =>
      h.read worker hworker event batch delivered first (hending ▸ called)
  intro row' hrow' hof' submission' hsubmission' hid
  rw [hsubmissions] at hsubmission'
  rcases hstep.ofSubmission hrow' hof' with ⟨row, hrow, hmoved, hof, hrowid, hrowagg, _⟩ |
    ⟨_, _, _, haccept, _⟩
  · have hold := mem_writeSubmission hsubmission'
    cases hmoved with
    | kept holder apart =>
      -- another event, so that its submission is another one
      have hne := apart _ _ _ hop _ hended
      rcases hold with ⟨hold, _⟩ | ⟨delivered, read, hending, hsome, hreadid, _⟩
      · exact h.pairs row' hrow hof' submission' hold hid
      · obtain ⟨hofevent, hreadagg⟩ := (hread delivered hending).2 read hsome
        have hagg : stored.aggregateId = row'.aggregateId :=
          hsagg.trans (hreadagg.symm.trans (hreadid.symm.trans hid))
        have hone := h.single stored (Table.mem_of_get? hstored) row' hrow (hsof.trans hofevent)
          hof' hagg
        exact absurd (hsid.symm.trans hone) hne
    | activated | parked | claimed | retried => cases hop
    | @finalized other otherEvent _ otherEnding _ _ _ foundOther firstOther calledOther own =>
      have hendedOther := World.endedOf_eq foundOther firstOther calledOther
      injection hop with hsameworker
      rw [hsameworker, hended, Option.some.injEq, Prod.mk.injEq] at hendedOther
      obtain ⟨rfl, rfl⟩ := hendedOther
      obtain rfl : stored = row :=
        Table.eq_of_key (Table.mem_of_get? hstored) hrow (hsid.trans own)
      rw [merge_status _ _ _ hcopied.processing, finished_status]
      have hofevent : ofSubmission event = true := hsof ▸ hof
      have hundecided := hkeeps _ (hsameworker.symm ▸ hended)
      cases ending with
      | returned delivered =>
        rcases hold with ⟨hold, hdelivered⟩ | ⟨_, _, _, _, _, hset⟩
        · obtain ⟨hsome, hreadid⟩ := hread delivered rfl
          obtain ⟨read, hreadsome⟩ := Option.isSome_iff_exists.mp (hsome hofevent)
          have hsubid : submission'.id = read.id :=
            hid.trans (hrowagg.symm.trans (hsagg.trans (hreadid read hreadsome).2.symm))
          have hwas := hdelivered delivered read rfl hreadsome hsubid
          obtain ⟨current, hcurrent, hcurrentid, hnow⟩ :=
            h.reads worker hworker delivered called read hreadsome hwas
          have hsame : submission' = current :=
            Table.eq_of_key hold hcurrent (hsubid.trans hcurrentid.symm)
          simp [corresponds, hsame, hnow]
        · simp [corresponds, hset]
      | raised failure =>
        rcases hold with ⟨hold, _⟩ | ⟨_, _, hending, _⟩
        · obtain ⟨hends, hnotdelivered⟩ := hundecided hofevent
          have hbefore := h.pairs stored hrow hof submission' hold (hid.trans hrowagg.symm)
          have hwaiting := waiting_of_corresponds hbefore (hnotdelivered stored hstored)
            (h.unfailed submission' hold)
          refine corresponds_moved hbefore hwaiting ?_
          simp only [hends]
          split <;> simp [waiting]
        · cases hending
  · rw [hop] at haccept
    cases haccept

/-- A step that leaves the submissions as they are, and their events waiting. -/
theorem AgreeInv.move (h : AgreeInv s) (hstep : Step s op s')
    (hsubmissions : s'.db.submissions = s.db.submissions)
    (hmoves : ∀ event event', Moved s s' op event event' → event' = event ∨
      ((event.status ∈ waiting ∨ event.status ∈ retryable) ∧ event'.status ∈ waiting)) :
    Pairs s' := by
  intro event' hevent' hof' submission hsubmission hid
  rw [hsubmissions] at hsubmission
  rcases hstep.ofSubmission hevent' hof' with ⟨event, hevent, hmoved, hof, _, hagg, _⟩ |
    ⟨_, created, _, _, rfl, _, inserted⟩
  · have hbefore := h.pairs event hevent hof submission hsubmission (hid.trans hagg.symm)
    have hunfailed := h.unfailed submission hsubmission
    rcases hmoves event event' hmoved with rfl | ⟨hfrom, hto⟩
    · exact hbefore
    · refine corresponds_moved hbefore (waiting_of_corresponds hbefore ?_ hunfailed) hto
      rintro hdelivered
      simp [hdelivered, waiting, retryable] at hfrom
  · -- a submission would have been there before
    have hlength := (Table.insert?_eq_some.mp inserted).2
    rw [hsubmissions] at hlength
    exact absurd (congrArg List.length hlength) (by simp)

theorem AgreeInv.pairs_step (h : AgreeInv s) (hkeeps : s.KeepsAgreement op)
    (hstep : Step s op s') : Pairs s' := by
  have hstep' := hstep
  cases hstep with
  | idle => exact h.pairs
  | emitted =>
    refine h.move hstep' rfl fun event event' hmoved => ?_
    cases hmoved with
    | kept => exact Or.inl rfl
  | called | answered | crashed =>
    exact h.pairs
  | claimed =>
    refine h.move hstep' rfl fun event event' hmoved => ?_
    cases hmoved with
    | kept => exact Or.inl rfl
    | claimed due =>
      refine Or.inr ⟨Or.inl ?_, by simp [Outbox.claimed, waiting]⟩
      simp only [Outbox.due, Bool.or_eq_true, Bool.and_eq_true, decide_eq_true_eq] at due
      rcases due with ⟨hstatus, _⟩ | ⟨hstatus, _⟩
      · simp only [List.mem_cons, List.not_mem_nil, or_false] at hstatus
        rcases hstatus with hstatus | hstatus | hstatus
        all_goals simp [hstatus, waiting]
      · simp [hstatus, waiting]
  | retried found allowed events submissions =>
    refine h.move hstep' submissions fun event event' hmoved => ?_
    generalize hop : Op.retry _ _ _ = op at hmoved
    cases hmoved with
    | kept => exact Or.inl rfl
    | retried hallowed => exact Or.inr ⟨Or.inr hallowed, by simp [Outbox.retried, waiting]⟩
    | activated | parked | claimed | finalized => cases hop
  | @activated skipped now =>
    exact h.configure (activated_identity now)
      (fun event => by simp [(activated_columns now event).1, corresponds]) rfl rfl
  | @parked skipped now =>
    exact h.configure (f := Outbox.parked now) (fun _ => rfl) (fun _ => rfl) rfl rfl
  | finalized found first called => exact h.finalize rfl hkeeps found first called hstep' rfl
  | @accepted settings _ _ _ _ _ _ _ eventId submission db pending submissions events =>
    intro event' hevent' hof' submission' hsubmission' hid
    have hfresh : ∀ old ∈ s.db.submissions.rows, old.id ≠ submission.id :=
      fun old hold => Table.key_fresh submissions hold
    rcases (Table.mem_insert events).mp hevent' with hevent | rfl
    · rcases (Table.mem_insert submissions).mp hsubmission' with hsubmission | rfl
      · exact h.pairs event' hevent hof' submission' hsubmission hid
      · obtain ⟨old, hold, holdid⟩ := h.ofOne event' hevent hof'
        exact absurd (holdid.trans hid.symm) (hfresh old hold)
    · rcases (Table.mem_insert submissions).mp hsubmission' with hsubmission | rfl
      · exact absurd hid (hfresh submission' hsubmission)
      · rw [pending]
        simp only [newEvent, downstreamStatus]
        split <;> rfl

/-- A delivered submission stays delivered. -/
theorem AgreeInv.delivered (h : AgreeInv s) (hstep : Step s op s')
    {submission submission' : PublicSubmission} (hsubmission : submission ∈ s.db.submissions.rows)
    (hsubmission' : submission' ∈ s'.db.submissions.rows) (hid : submission'.id = submission.id)
    (hdelivered : submission.downstreamStatus = .delivered) :
    submission'.downstreamStatus = .delivered := by
  have hsame : submission' ∈ s.db.submissions.rows → submission'.downstreamStatus = .delivered := by
    intro hmem
    rw [Table.eq_of_key hmem hsubmission hid]
    exact hdelivered
  -- an event that is taken is not delivered
  have hsync : ∀ {skipped : List Uuid} {statuses : List EventStatus} {status : DownstreamStatus},
      (∀ status ∈ statuses, status ∈ waiting) →
      submission' ∈ (syncPublicSubmissionStatus s.db.submissions
        (configurable s.db.events skipped statuses) status).rows →
      submission'.downstreamStatus = .delivered := by
    intro skipped statuses status hwaiting hmem
    obtain ⟨old, hold, hoid, ⟨event, hevent, hagg, _⟩ | ⟨_, rfl⟩⟩ :=
      mem_syncPublicSubmissionStatus hmem
    · obtain ⟨heventmem, hof, hstatus⟩ := mem_configurable hevent
      have hone : old = submission := Table.eq_of_key hold hsubmission (hoid.trans hid)
      have hbefore := h.pairs event heventmem hof old hold hagg.symm
      rw [corresponds_waiting (hwaiting _ hstatus), hone, hdelivered] at hbefore
      simp at hbefore
    · exact hsame hold
  cases hstep with
  | idle | emitted | claimed | called | answered | crashed => exact hsame hsubmission'
  | retried _ _ _ submissions => exact hsame (submissions ▸ hsubmission')
  | activated => exact hsync (by simp [waiting]) hsubmission'
  | parked => exact hsync (by simp [unconfigurable, waiting]) hsubmission'
  | accepted _ submissions =>
    rcases (Table.mem_insert submissions).mp hsubmission' with hmem | rfl
    · exact hsame hmem
    · exact absurd hid.symm (Table.key_fresh submissions hsubmission)
  | finalized =>
    rcases mem_writeSubmission hsubmission' with ⟨hmem, _⟩ | ⟨_, _, _, _, _, hset⟩
    · exact hsame hmem
    · exact hset

theorem deliver_current {submissions : Table PublicSubmission} {event : OutboxEvent}
    {email : Option Failure} {adapter : Except Failure EventDeliveryResult}
    {delivered : Delivered} {read : PublicSubmission}
    (h : deliverOutboxEvent submissions event email adapter = .returned delivered)
    (hread : delivered.submission = some read) : read ∈ submissions.rows := by
  unfold deliverOutboxEvent at h
  split at h
  · split at h
    · cases h
    · cases h
      cases hread
  · split at h
    · split at h
      · cases h
      · cases h
        simp only at hread
        split at hread
        · exact Table.mem_of_get? hread
        · cases hread
    · cases h

theorem AgreeInv.reads_step (h : AgreeInv s) (hstep : Step s op s') : ReadsHold s' := by
  -- a submission that was delivered before the step is delivered after it
  have hstays : ∀ {id : Uuid}, (∃ submission ∈ s.db.submissions.rows, submission.id = id ∧
      submission.downstreamStatus = .delivered) →
      ∃ submission ∈ s'.db.submissions.rows, submission.id = id ∧
        submission.downstreamStatus = .delivered := by
    rintro id ⟨submission, hsubmission, rfl, hdelivered⟩
    obtain ⟨submission', hsubmission', hid⟩ := hstep.submission_kept hsubmission
    exact ⟨submission', hsubmission', hid,
      h.delivered hstep hsubmission hsubmission' hid hdelivered⟩
  intro worker' hworker' delivered hcalled read hread hwas
  rcases hstep.returned hworker' hcalled with
    hold | ⟨_, _, _, _, _, _, _, _, hdb, hdeliver⟩
  · exact hstays (h.reads worker' hold delivered hcalled read hread hwas)
  · exact ⟨read, hdb ▸ deliver_current hdeliver hread, rfl, hwas⟩

theorem AgreeInv.step (h : AgreeInv s) (hkeeps : s.KeepsAgreement op) (hstep : Step s op s') :
    AgreeInv s' :=
  ⟨h.toSubmissionsInv.step hstep, h.pairs_step hkeeps hstep, h.reads_step hstep⟩

/-- A step after which the statuses still agree is one that keeps them so. -/
theorem AgreeInv.keeps (h : AgreeInv s) (hstep : Step s op s') (hagree : s'.Agree) :
    s.KeepsAgreement op := by
  have hstep' := hstep
  cases hstep with
  | idle nothing =>
    cases op with
    | finalize worker now jitter =>
      intro ended hended
      rw [nothing worker now jitter rfl] at hended
      cases hended
    | accept | emit | activate | park | claim | call | answer | crash | retry => trivial
  | accepted | emitted | activated | parked | claimed | called | answered | crashed | retried =>
    trivial
  | @finalized worker event batch ending now jitter found first called =>
    intro ended hended
    have hmine := World.endedOf_eq found first called
    rw [hmine] at hended
    cases hended
    cases ending with
    | returned delivered => trivial
    | raised failure =>
      intro hof
      have hmem : event ∈ worker.batch := by simp [first]
      have hcopied := h.copied worker (Table.mem_of_get? found) event hmem
      obtain ⟨stored, hstored, hsame⟩ := hcopied.stored
      obtain ⟨_, hsof, _, _⟩ := identity_eq hsame
      have hstoredmem := Table.mem_of_get? hstored
      have hstoredof : ofSubmission stored = true := hsof.trans hof
      obtain ⟨submission, hsubmission, hid⟩ := h.ofOne stored hstoredmem hstoredof
      have hbefore := h.pairs stored hstoredmem hstoredof submission hsubmission hid
      -- the row after the step, beside the submission as it was
      have hrow : event.merge (finished now jitter (.raised failure) event) stored ∈
          (writeEvent s.db.events event (finished now jitter (.raised failure) event)).rows := by
        unfold writeEvent
        rw [hstored]
        exact Table.mem_put_self hstoredmem rfl
      have hafter := hagree.pairs _ hrow hstoredof submission hsubmission hid
      rw [merge_status _ _ _ hcopied.processing, finished_status] at hafter
      have hnotparked : endsTerminal failure event.attemptCount = true →
          failure.pendingConfiguration = false := by
        intro hends
        simp only [endsTerminal, Bool.and_eq_true, Bool.not_eq_true'] at hends
        exact hends.1
      constructor
      · rw [← Bool.not_eq_true]
        intro hends
        simp only [hnotparked hends, hends, if_true] at hafter
        exact h.unfailed submission hsubmission (by simpa [corresponds] using hafter)
      · intro row hrow hdelivered
        have heq : stored = row := Option.some.inj (hstored.symm.trans hrow)
        rw [heq, hdelivered] at hbefore
        have hwas : submission.downstreamStatus = .delivered := by
          simpa [corresponds] using hbefore
        rw [hwas] at hafter
        dsimp only at hafter
        split at hafter
        · cases hafter
        · split at hafter <;> cases hafter

/-! ## Runs -/

namespace World

theorem agree_iff (ops : List Op) :
    Always exec Agree {} ops ↔ Along exec KeepsAgreement {} ops := by
  have hempty : AgreeInv {} := by
    refine ⟨⟨⟨?_, ?_⟩, ?_, ?_, ?_, ?_, ?_, ?_⟩, ?_, ?_⟩
    all_goals rintro _ ⟨⟩
  have hstep : ∀ (t : World) (op : Op), AgreeInv t → t.KeepsAgreement op → AgreeInv (t.exec op) :=
    fun t op hinv hkeeps => hinv.step hkeeps (exec_step t op)
  constructor
  · exact along_of_always_inv hstep (fun t op hinv => hinv.keeps (exec_step t op)) hempty
  · intro h
    exact (always_of_inv hstep hempty h).imp fun t hinv => hinv.agree hinv.pairs

/-! ### A refused submission -/

/-- A submission and the call for it. -/
def submitted (adapter : Except Failure EventDeliveryResult) : List Op := [
  .accept { Accepting.raceSettings with middlewareEnabled := true } [] .contact
    (Accepting.raceForm "a@b.c") "k" "ip" 0 1 10,
  .activate [] 0,
  .claim 1 [] 50 0,
  .call 1,
  .answer 1 none adapter,
  .finalize 1 (ofSeconds 2) 3]

def refused : List Op :=
  submitted (.error {
    text := "MIDDLEWARE_HTTP_422", code := "MIDDLEWARE_HTTP_422", terminal := true })

theorem refused_disagrees :
    ¬ Always exec Agree {} refused ∧
      (run exec {} refused).db.events.rows.map (·.status) = [.failedTerminal] ∧
      (run exec {} refused).db.submissions.rows.map (·.downstreamStatus) = [.pending] := by
  decide

example : (run exec {} (submitted (.ok ⟨12, "crm.lead"⟩))).db.submissions.rows.map
    (·.downstreamStatus) = [.delivered] := by
  decide

end World

end Breero.Outbox
