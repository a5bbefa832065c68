import Breero.Outbox.Claimants

/-!
How often the handler is called for an event.

`process` gives up on an event when a call fails and `attempt_count` has reached
`MAX_ATTEMPTS`. A claim does not look at the count, so the bound rests on the last call being
finalized.

* `Exhausts` says that there are at most `MAX_ATTEMPTS` calls, and what becomes of an event
  after the last;
* `AttemptsInv`: the calls are counted by `attempt_count`, and an event that is to be called
  has one left;
* `World.attempts_bounded`: both hold in every run in which last calls are finalized;
* `World.crashLoop_exceeds` is a run of crashes.
-/

namespace Breero.Outbox
open KeyedTable Transaction PublicSubmissions Runs

/-! ## The law -/

/-- The events of the batch for which the handler is still to be called. -/
def Worker.uncalled (worker : Worker) : List OutboxEvent :=
  match worker.stage with
  | .idle => worker.batch
  | .calling | .called _ => worker.batch.tail

/-- The event whose call is not finalized yet. -/
def Worker.underway (worker : Worker) : Option OutboxEvent :=
  match worker.stage with
  | .idle => none
  | .calling | .called _ => worker.batch.head?

def Settled (row : OutboxEvent) : Prop := row.status = .delivered ∨ row.status = .failedTerminal

instance (row : OutboxEvent) : Decidable (Settled row) := inferInstanceAs (Decidable (_ ∨ _))

/-- The call asks for its event to be parked. -/
def Ending.parks : Ending → Bool
  | .raised failure => failure.pendingConfiguration
  | .returned _ => false

namespace World

/-- The dispatcher that holds the event has called the handler and not finalized yet. -/
def Underway (s : World) (id : Uuid) : Prop :=
  ∃ worker ∈ s.workers.rows, s.holder id = some worker.id ∧
    ∃ event ∈ worker.underway, event.id = id

instance (s : World) (id : Uuid) : Decidable (s.Underway id) :=
  inferInstanceAs (Decidable (∃ worker ∈ s.workers.rows, s.holder id = some worker.id ∧
    ∃ event ∈ worker.underway, event.id = id))

/-- The handler is called at most `MAX_ATTEMPTS` times, and after that the event is delivered
or has failed. -/
def Exhausts (s : World) : Prop :=
  ∀ row ∈ s.db.events.rows, s.attempts row.id ≤ MAX_ATTEMPTS ∧
    (s.attempts row.id = MAX_ATTEMPTS → Settled row ∨ s.Underway row.id)

instance : DecidablePred Exhausts := fun s =>
  inferInstanceAs (Decidable (∀ row ∈ s.db.events.rows, s.attempts row.id ≤ MAX_ATTEMPTS ∧
    (s.attempts row.id = MAX_ATTEMPTS → Settled row ∨ s.Underway row.id)))

/-- An event that has no call left is not claimed. -/
def ClaimsWithin (s : World) : Op → Prop
  | .claim _ skipped limit now =>
    ∀ event ∈ claimable s.db.events skipped limit now, s.attempts event.id < MAX_ATTEMPTS
  | _ => True

/-- A dispatcher calls the handler for what it holds, and an event on its last call is neither
taken over, parked nor left by a crash before the call is finalized. -/
def Finishes (s : World) : Op → Prop
  | .call worker => ∀ event ∈ s.nextOf worker, s.holder event.id = some worker
  | .finalize worker _ _ => ∀ ended ∈ s.endedOf worker, s.holder ended.1.id = some worker ∧
    (ended.2.parks = true → s.attempts ended.1.id < MAX_ATTEMPTS)
  | .crash id => ∀ worker ∈ s.workers.get? id, ∀ event ∈ worker.underway,
    s.holder event.id = some id → s.attempts event.id < MAX_ATTEMPTS
  | .claim _ skipped limit now => ∀ event ∈ claimable s.db.events skipped limit now,
    event.status = .processing → s.attempts event.id < MAX_ATTEMPTS
  | .park skipped _ => ∀ id ∈ s.parkedIds skipped, s.attempts id < MAX_ATTEMPTS
  | _ => True

instance (s : World) : DecidablePred s.Finishes
  | .call worker =>
    inferInstanceAs (Decidable (∀ event ∈ s.nextOf worker, s.holder event.id = some worker))
  | .finalize worker _ _ =>
    inferInstanceAs (Decidable (∀ ended ∈ s.endedOf worker, s.holder ended.1.id = some worker ∧
      (ended.2.parks = true → s.attempts ended.1.id < MAX_ATTEMPTS)))
  | .crash id =>
    inferInstanceAs (Decidable (∀ worker ∈ s.workers.get? id, ∀ event ∈ worker.underway,
      s.holder event.id = some id → s.attempts event.id < MAX_ATTEMPTS))
  | .claim _ skipped limit now =>
    inferInstanceAs (Decidable (∀ event ∈ claimable s.db.events skipped limit now,
      event.status = .processing → s.attempts event.id < MAX_ATTEMPTS))
  | .park skipped _ =>
    inferInstanceAs (Decidable (∀ id ∈ s.parkedIds skipped, s.attempts id < MAX_ATTEMPTS))
  | .accept .. | .emit .. | .activate .. | .answer .. | .retry .. => isTrue trivial

theorem Finishes.holds {s : World} {op : Op} (h : s.Finishes op) : s.Holds op := by
  cases op with
  | finalize worker now jitter => exact fun ended hended => (h ended hended).1
  | accept | emit | activate | park | claim | call | answer | crash | retry => trivial

theorem nextOf_eq {s : World} {worker : Worker} {event : OutboxEvent}
    {batch : List OutboxEvent} (found : s.workers.get? worker.id = some worker)
    (first : worker.batch = event :: batch) (idle : worker.stage = .idle) :
    s.nextOf worker.id = some event := by
  simp only [nextOf, found, Option.bind_some, first, idle]

end World

/-! ## The count -/

structure AttemptsInv (s : World) : Prop extends ClaimsInv s where
  unknown : ∀ id, s.db.events.get? id = none → s.attempts id = 0
  counted : ∀ row ∈ s.db.events.rows, s.attempts row.id ≤ row.attemptCount
  ahead : ∀ worker ∈ s.workers.rows, ∀ copy ∈ worker.uncalled,
    s.holder copy.id = some worker.id →
      s.attempts copy.id < copy.attemptCount ∧ s.attempts copy.id < MAX_ATTEMPTS
  exhausts : s.Exhausts

variable {s s' : World} {op : Op}

theorem Worker.uncalled_subset (worker : Worker) : worker.uncalled ⊆ worker.batch := by
  intro copy hcopy
  unfold Worker.uncalled at hcopy
  split at hcopy
  · exact hcopy
  · exact List.mem_of_mem_tail hcopy
  · exact List.mem_of_mem_tail hcopy

theorem Worker.underway_mem {worker : Worker} {event : OutboxEvent}
    (h : worker.underway = some event) : event ∈ worker.batch := by
  unfold Worker.underway at h
  split at h
  · cases h
  · exact List.mem_of_mem_head? h
  · exact List.mem_of_mem_head? h

/-- A row of the event that a dispatcher holds is the copy of the dispatcher. -/
theorem ClaimsInv.row_eq (h : ClaimsInv s) {worker : Worker} (hworker : worker ∈ s.workers.rows)
    {copy row : OutboxEvent} (hcopy : copy ∈ worker.batch)
    (hholder : s.holder copy.id = some worker.id) (hrow : row ∈ s.db.events.rows)
    (hid : row.id = copy.id) : row = copy := by
  have hget := (h.leased worker hworker copy hcopy).held hholder
  exact Table.eq_of_key hrow (Table.mem_of_get? hget) hid

/-- An event whose call is under way is in processing. -/
theorem ClaimsInv.underway_processing (h : ClaimsInv s) {row : OutboxEvent}
    (hrow : row ∈ s.db.events.rows) (hunderway : s.Underway row.id) :
    row.status = .processing := by
  obtain ⟨worker, hworker, hholder, event, hevent, hid⟩ := hunderway
  have hmem := Worker.underway_mem hevent
  rw [h.row_eq hworker hmem (hid ▸ hholder) hrow hid.symm]
  exact (h.copied worker hworker event hmem).processing

/-- An event that waits to be claimed or activated has a call left. -/
theorem AttemptsInv.left (h : AttemptsInv s) {row : OutboxEvent} (hrow : row ∈ s.db.events.rows)
    (hsettled : ¬ Settled row) (hprocessing : row.status ≠ .processing) :
    s.attempts row.id < MAX_ATTEMPTS := by
  obtain ⟨hle, hexhausted⟩ := h.exhausts row hrow
  refine Nat.lt_of_le_of_ne hle fun heq => ?_
  rcases hexhausted heq with hdone | hunderway
  · exact hsettled hdone
  · exact hprocessing (h.underway_processing hrow hunderway)

theorem AttemptsInv.claimsWithin (h : AttemptsInv s) (hfinishes : s.Finishes op) :
    s.ClaimsWithin op := by
  cases op with
  | claim worker skipped limit now =>
    intro event hevent
    obtain ⟨hmem, hdue⟩ := mem_claimable hevent
    by_cases hprocessing : event.status = .processing
    · exact hfinishes event hevent hprocessing
    · refine h.left hmem ?_ hprocessing
      rintro (hstatus | hstatus)
      · simp [due, hstatus] at hdue
      · simp [due, hstatus] at hdue
  | accept | emit | activate | park | call | answer | finalize | crash | retry => trivial

/-! ## Steps -/

/-- A step counts a call, starts the count anew, or leaves it. -/
theorem Step.attempts (h : Step s op s') (id : Uuid) :
    s'.attempts id = s.attempts id ∨
      (s'.attempts id = 0 ∧ ∃ actorId now, op = .retry id actorId now) ∨
      ∃ worker ∈ s.workers.rows, ∃ event batch, s.nextOf worker.id = some event ∧
        worker.batch = event :: batch ∧ worker.stage = .idle ∧ event.id = id ∧
        op = .call worker.id ∧ s'.workers = s.workers.put { worker with stage := .calling } ∧
        s'.attempts id = s.attempts id + 1 := by
  cases h with
  | idle | accepted | emitted | activated | parked | claimed | answered | finalized | crashed =>
    exact Or.inl rfl
  | @called worker event batch found first idle =>
    by_cases hid : id = event.id
    · exact Or.inr (Or.inr ⟨worker, Table.mem_of_get? found, event, batch,
        World.nextOf_eq found first idle, first, idle, hid.symm, rfl, rfl, if_pos hid⟩)
    · exact Or.inl (if_neg hid)
  | @retried event actorId now db =>
    by_cases hid : id = event.id
    · exact Or.inr (Or.inl ⟨if_pos hid, actorId, now, by rw [hid]⟩)
    · exact Or.inl (if_neg hid)

/-- A row that a step does not change has one call more at most, and that was counted. -/
theorem Step.attempts_same (h : Step s op s') {id : Uuid}
    (hretry : ∀ actorId now, op ≠ .retry id actorId now) (hcall : ∀ worker, op ≠ .call worker) :
    s'.attempts id = s.attempts id := by
  rcases h.attempts id with hsame | ⟨_, _, _, hop⟩ | ⟨_, _, _, _, _, _, _, _, hop, _⟩
  · exact hsame
  · exact absurd hop (hretry _ _)
  · exact absurd hop (hcall _)

theorem AttemptsInv.created_uncalled (h : AttemptsInv s) (hstep : Step s op s')
    {row' : OutboxEvent} (hcreated : Created s s' op row')
    (hnew : s.db.events.get? row'.id = none) : s'.attempts row'.id = 0 := by
  rcases hstep.attempts row'.id with hsame | ⟨hzero, _⟩ | ⟨_, _, _, _, _, _, _, _, rfl, _⟩
  · exact hsame.trans (h.unknown row'.id hnew)
  · exact hzero
  · cases hcreated

theorem AttemptsInv.called (h : AttemptsInv s) (hfinishes : s.Finishes op) (hstep : Step s op s')
    {row : OutboxEvent} (hrow : row ∈ s.db.events.rows) :
    s'.attempts row.id ≤ row.attemptCount ∧ s'.attempts row.id ≤ MAX_ATTEMPTS := by
  rcases hstep.attempts row.id with hsame | ⟨hzero, _⟩ |
    ⟨worker, hworker, event, batch, hnext, first, idle, hid, rfl, _, hone⟩
  · rw [hsame]
    exact ⟨h.counted row hrow, (h.exhausts row hrow).1⟩
  · rw [hzero]
    exact ⟨Nat.zero_le _, Nat.zero_le _⟩
  · have hholder := hfinishes event hnext
    have huncalled : event ∈ worker.uncalled := by simp [Worker.uncalled, idle, first]
    have hmem := worker.uncalled_subset huncalled
    have hsame := h.row_eq hworker hmem hholder hrow hid.symm
    have hahead := h.ahead worker hworker event huncalled hholder
    rw [hone, hsame]
    exact hahead

/-- The columns that the count depends on, after a step that changes the row. -/
theorem AttemptsInv.counts (h : AttemptsInv s) (hfinishes : s.Finishes op) (hstep : Step s op s')
    {row row' : OutboxEvent} (hrow : row ∈ s.db.events.rows) (hmoved : Moved s s' op row row') :
    s'.attempts row.id ≤ row'.attemptCount := by
  have hcalled := (h.called hfinishes hstep hrow).1
  cases hmoved with
  | kept => exact hcalled
  | activated =>
    rw [(activated_columns _ _).2.1]
    exact hcalled
  | parked => exact hcalled
  | claimed => exact Nat.le_succ_of_le hcalled
  | @finalized worker event _ ending now jitter =>
    have hsame : (event.merge (finished now jitter ending event) row).attemptCount =
        row.attemptCount := by
      show column event.attemptCount _ _ = _
      rw [(finished_columns now jitter ending event).2.1]
      exact if_pos rfl
    rw [hsame]
    exact hcalled
  | retried _ anew =>
    rw [anew]
    exact Nat.zero_le _

/-- A call that is under way stays so until it is finalized or its dispatcher crashes. -/
theorem underway_step (hstep : Step s op s') {id : Uuid} (hunderway : s.Underway id)
    (holder : s'.holder id = s.holder id)
    (apart : ∀ worker now jitter, op = .finalize worker now jitter →
      ∀ ended ∈ s.endedOf worker, ended.1.id ≠ id)
    (alive : ∀ worker, op = .crash worker → s.holder id ≠ some worker) : s'.Underway id := by
  obtain ⟨worker, hworker, hholder, event, hevent, hid⟩ := hunderway
  have hsame : worker ∈ s'.workers.rows → s'.Underway id :=
    fun hmem => ⟨worker, hmem, holder.trans hholder, event, hevent, hid⟩
  have hother : ∀ {other next : Worker}, s'.workers = s.workers.put next →
      next.id = other.id → other.id ≠ worker.id → s'.Underway id := by
    intro other next hworkers hnext hne
    refine hsame ?_
    rw [hworkers]
    exact Table.mem_put_of_mem hworker fun heq => hne (hnext.symm.trans heq.symm)
  -- the dispatcher whose step this is
  have hmine : ∀ {other : Worker}, s.workers.get? other.id = some other →
      other.id = worker.id → other = worker :=
    fun found heq => Table.eq_of_key (Table.mem_of_get? found) hworker heq
  cases hstep with
  | idle | accepted | emitted | activated | parked | retried => exact hsame hworker
  | claimed inserted => exact hsame ((Table.mem_insert inserted).mpr (Or.inl hworker))
  | @called other _ _ found first idle =>
    by_cases heq : other.id = worker.id
    · obtain rfl := hmine found heq
      simp [Worker.underway, idle] at hevent
    · exact hother rfl rfl heq
  | @answered other _ _ _ _ found first calling =>
    by_cases heq : other.id = worker.id
    · obtain rfl := hmine found heq
      refine ⟨_, Table.mem_put_self hworker rfl, holder.trans hholder, event, ?_, hid⟩
      simpa [Worker.underway, calling] using hevent
    · exact hother rfl rfl heq
  | @finalized other first _ ending _ _ found hfirst hcalled =>
    by_cases heq : other.id = worker.id
    · obtain rfl := hmine found heq
      have hhead : first = event := by
        simpa [Worker.underway, hcalled, hfirst] using hevent
      exact absurd (hhead ▸ hid)
        (apart _ _ _ rfl _ (World.endedOf_eq found hfirst hcalled))
    · exact hother rfl rfl heq
  | @crashed other found =>
    by_cases heq : other.id = worker.id
    · exact absurd (heq ▸ hholder) (alive other.id rfl)
    · exact hother rfl rfl heq

/-- The end of the last call settles its event. -/
theorem merge_settled (now : Instant) (jitter : Nat) {ending : Ending} {event : OutboxEvent}
    (hnotparked : ending.parks = false) (hprocessing : event.status = .processing)
    (hcount : MAX_ATTEMPTS ≤ event.attemptCount) (stored : OutboxEvent) :
    Settled (event.merge (finished now jitter ending event) stored) := by
  unfold Settled
  rw [merge_status now jitter ending hprocessing stored]
  cases ending with
  | returned delivered =>
    simp only [finished, succeeded]
    split <;> exact Or.inl rfl
  | raised failure =>
    have hconfigured : failure.pendingConfiguration = false := hnotparked
    refine Or.inr ?_
    show (failed now jitter failure event).status = _
    rw [failed_status]
    simp [hconfigured, endsTerminal, hcount]

theorem AttemptsInv.exhausts_step (h : AttemptsInv s) (hfinishes : s.Finishes op)
    (hstep : Step s op s') : s'.Exhausts := by
  intro row' hrow'
  rcases hstep.row hrow' with ⟨row, hrow, hid, hmoved⟩ | ⟨hcreated, hnew⟩
  · rw [← hid]
    refine ⟨(h.called hfinishes hstep hrow).2, fun hlast => ?_⟩
    have hnotless : ¬ s'.attempts row.id < MAX_ATTEMPTS := by
      rw [hlast]
      exact Nat.lt_irrefl _
    cases hmoved with
    | kept holder apart =>
      rcases hstep.attempts row'.id with hsame | ⟨hzero, _⟩ |
        ⟨worker, hworker, event, batch, hnext, first, idle, hevent, rfl, hworkers, _⟩
      · rw [hsame] at hlast
        rcases (h.exhausts row' hrow).2 hlast with hsettled | hunderway
        · exact Or.inl hsettled
        · refine Or.inr (underway_step hstep hunderway holder apart ?_)
          -- a dispatcher does not crash on the last call
          rintro id rfl hholder
          obtain ⟨worker, hworker, hown, event, hevent, hevid⟩ := hunderway
          rw [hholder, Option.some.injEq] at hown
          subst hown
          have hlt := hfinishes worker (Table.get?_key hworker) event hevent (hevid ▸ hholder)
          rw [hevid, hlast] at hlt
          exact absurd hlt (Nat.lt_irrefl _)
      · rw [hzero] at hnotless
        exact absurd (by decide) hnotless
      · refine Or.inr ⟨{ worker with stage := .calling }, ?_, ?_, event, ?_, hevent⟩
        · rw [hworkers]
          exact Table.mem_put_self hworker rfl
        · rw [holder, ← hevent]
          exact hfinishes event hnext
        · simp [Worker.underway, first]
    | activated status =>
      have hlt := h.left hrow (by simp [Settled, status]) (by simp [status])
      rw [hstep.attempts_same nofun nofun] at hnotless
      exact absurd hlt hnotless
    | parked status taken =>
      rw [hstep.attempts_same nofun nofun] at hnotless
      exact absurd (hfinishes _ taken) hnotless
    | claimed due unknown fresh mem =>
      obtain ⟨event, hevent, _, _, _, heq⟩ := mem_claimEach mem
      have hevid := congrArg OutboxEvent.id heq
      obtain rfl : row = event := Table.eq_of_key hrow (mem_claimable hevent).1 hevid
      rw [hstep.attempts_same nofun nofun] at hnotless
      exact absurd (h.claimsWithin hfinishes row hevent) hnotless
    | retried _ anew =>
      rw [anew] at hnotless
      exact absurd (by decide) hnotless
    | @finalized worker event batch ending now jitter _ found first called own =>
      have hended := World.endedOf_eq found first called
      obtain ⟨hholder, hparks⟩ := hfinishes _ hended
      have hworker := Table.mem_of_get? found
      have hmem : event ∈ worker.batch := by simp [first]
      have hsamerow := h.row_eq hworker hmem hholder hrow own.symm
      have hattempts : s'.attempts row.id = s.attempts row.id := hstep.attempts_same nofun nofun
      rw [hlast] at hattempts
      have hcount : MAX_ATTEMPTS ≤ event.attemptCount := by
        have hle := h.counted row hrow
        rw [← hattempts, hsamerow] at hle
        exact hle
      have hnotparked : ending.parks = false := by
        rw [← Bool.not_eq_true]
        intro hpending
        have hlt := hparks hpending
        rw [own, ← hattempts] at hlt
        exact absurd hlt (Nat.lt_irrefl _)
      exact Or.inl (merge_settled now jitter hnotparked
        (h.copied worker hworker event hmem).processing hcount row)
  · rw [h.created_uncalled hstep hcreated hnew]
    exact ⟨Nat.zero_le _, nofun⟩

/-- The handler is not called for more events than before. -/
theorem Continues.uncalled {worker worker' : Worker} (h : Continues worker worker') :
    worker'.uncalled ⊆ worker.uncalled := by
  cases h with
  | same => exact fun _ hcopy => hcopy
  | called idle =>
    intro copy hcopy
    simp only [Worker.uncalled, idle]
    exact List.mem_of_mem_tail hcopy
  | answered ending calling =>
    intro copy hcopy
    simp only [Worker.uncalled, calling]
    exact hcopy
  | finalized first called =>
    intro copy hcopy
    simp only [Worker.uncalled, called, first, List.tail_cons]
    exact hcopy
  | crashed =>
    rintro copy ⟨⟩

theorem AttemptsInv.ahead_step (h : AttemptsInv s) (hfinishes : s.Finishes op)
    (hstep : Step s op s') {worker' : Worker} (hworker' : worker' ∈ s'.workers.rows)
    {copy : OutboxEvent} (hcopy : copy ∈ worker'.uncalled)
    (hholder' : s'.holder copy.id = some worker'.id) :
    s'.attempts copy.id < copy.attemptCount ∧ s'.attempts copy.id < MAX_ATTEMPTS := by
  rcases hstep.batch hworker' with
    ⟨worker, hworker, hcontinues⟩ | ⟨skipped, limit, now, rfl, hfree, hnew⟩
  · have hbefore := hcontinues.uncalled hcopy
    have hmem := worker.uncalled_subset hbefore
    -- the dispatcher held the event before
    have hholder : s.holder copy.id = some worker.id := by
      obtain ⟨row, hrow, _⟩ := (h.copied worker hworker copy hmem).stored
      have hrowid : row.id = copy.id := Table.key_of_get? hrow
      obtain ⟨row', _, hmoved⟩ := hstep.moved.get? hrow
      rw [← hrowid, hcontinues.id] at hholder'
      rw [← hrowid]
      cases hmoved with
      | kept holder => exact holder ▸ hholder'
      | activated status holder => exact holder ▸ hholder'
      | parked status taken holder =>
        rw [holder] at hholder'
        cases hholder'
      | claimed due unknown fresh mem holder =>
        rw [holder] at hholder'
        cases hholder'
        exact absurd rfl (Table.get?_eq_none.mp unknown worker hworker)
      | finalized found first called own after holder => exact holder ▸ hholder'
      | retried allowed anew holder => exact holder ▸ hholder'
    have hahead := h.ahead worker hworker copy hbefore hholder
    rcases hstep.attempts copy.id with hsame | ⟨hzero, _⟩ |
      ⟨other, hother, event, batch, hnext, first, idle, hevent, rfl, hworkers, _⟩
    · rw [hsame]
      exact hahead
    · rw [hzero]
      exact ⟨Nat.zero_lt_of_lt hahead.1, by decide⟩
    · -- the event of the call is not among those still to be called
      have hcaller := hfinishes event hnext
      rw [hevent, hholder, Option.some.injEq] at hcaller
      obtain rfl : worker = other := Table.eq_of_key hworker hother hcaller
      have hnodup := h.nodup worker hworker
      rw [first, List.map_cons, List.nodup_cons] at hnodup
      have hafter : worker' = { worker with stage := .calling } := by
        rw [hworkers] at hworker'
        rcases Table.mem_put.mp hworker' with ⟨rfl, _⟩ | ⟨_, hne⟩
        · rfl
        · exact absurd hcontinues.id hne
      rw [hafter] at hcopy
      have htail : copy ∈ batch := by simpa [Worker.uncalled, first] using hcopy
      exact absurd (hevent ▸ List.mem_map_of_mem htail) hnodup.1
  · rw [hnew] at hcopy
    have hcopy : copy ∈ s.claims skipped limit now := hcopy
    obtain ⟨event, hevent, token, _, _, rfl⟩ := mem_claimEach hcopy
    have hcalled : s'.attempts event.id = s.attempts event.id :=
      hstep.attempts_same nofun nofun
    show s'.attempts event.id < event.attemptCount + 1 ∧ s'.attempts event.id < MAX_ATTEMPTS
    rw [hcalled]
    exact ⟨Nat.lt_succ_of_le (h.counted event (mem_claimable hevent).1),
      h.claimsWithin hfinishes event hevent⟩

theorem AttemptsInv.unknown_step (h : AttemptsInv s) (hstep : Step s op s') {id : Uuid}
    (hnone : s'.db.events.get? id = none) : s'.attempts id = 0 := by
  have hbefore : s.db.events.get? id = none := by
    cases hget : s.db.events.get? id with
    | none => rfl
    | some row =>
      obtain ⟨row', hrow', _⟩ := hstep.moved.get? hget
      rw [hnone] at hrow'
      cases hrow'
  rcases hstep.attempts id with hsame | ⟨hzero, _⟩ |
    ⟨worker, hworker, event, batch, _, first, _, rfl, _, _, _⟩
  · exact hsame.trans (h.unknown id hbefore)
  · exact hzero
  · obtain ⟨row, hrow, _⟩ := (h.copied worker hworker event (by simp [first])).stored
    rw [hbefore] at hrow
    cases hrow

theorem AttemptsInv.step (h : AttemptsInv s) (hfinishes : s.Finishes op) (hstep : Step s op s') :
    AttemptsInv s' := by
  refine ⟨h.toClaimsInv.step hfinishes.holds hstep, fun _ => h.unknown_step hstep, ?_,
    fun _ hworker _ => h.ahead_step hfinishes hstep hworker, h.exhausts_step hfinishes hstep⟩
  intro row' hrow'
  rcases hstep.row hrow' with ⟨row, hrow, hid, hmoved⟩ | ⟨hcreated, hnew⟩
  · rw [← hid]
    exact h.counts hfinishes hstep hrow hmoved
  · rw [h.created_uncalled hstep hcreated hnew]
    exact Nat.zero_le _

/-! ## Runs -/

namespace World

theorem attempts_bounded (s : World) (ops : List Op) (hidle : s.workers.rows = [])
    (hcalls : ∀ id, s.attempts id = 0) (h : Along exec Finishes s ops) :
    Always exec Exhausts s ops ∧ Along exec ClaimsWithin s ops := by
  have hinv : AttemptsInv s := by
    refine ⟨⟨⟨?_, ?_⟩, ?_⟩, fun id _ => hcalls id, fun row _ => ?_, ?_, fun row _ => ?_⟩
    · rw [hidle]
      rintro worker ⟨⟩
    · rw [hidle]
      rintro worker ⟨⟩
    · rw [hidle]
      rintro worker ⟨⟩
    · rw [hcalls]
      exact Nat.zero_le _
    · rw [hidle]
      rintro worker ⟨⟩
    · rw [hcalls]
      exact ⟨Nat.zero_le _, nofun⟩
  have hstep : ∀ (t : World) (op : Op), AttemptsInv t → t.Finishes op → AttemptsInv (t.exec op) :=
    fun t op hinv hfinishes => hinv.step hfinishes (exec_step t op)
  exact ⟨(always_of_inv hstep hinv h).imp fun _ hinv => hinv.exhausts,
    Along.imp hstep (fun _ _ hinv hfinishes => hinv.claimsWithin hfinishes) hinv h⟩

/-! ### Failing calls and crashes -/

/-- A dispatcher calls the handler for its only event and fails. -/
def failingCall (worker : Uuid) (now : Instant) : List Op := [
  .claim worker [] 50 now,
  .call worker,
  .answer worker none (.error unavailable),
  .finalize worker now 3]

/-- One that crashes in the call. -/
def crashingCall (worker : Uuid) (now : Instant) : List Op := [
  .claim worker [] 50 now,
  .call worker,
  .crash worker]

/-- Two crashes and three failures. -/
def failingCalls : List Op :=
  [.emit disputeEvent] ++ crashingCall 1 0 ++ failingCall 2 (ofSeconds 4000) ++
    crashingCall 3 (ofSeconds 8000) ++ failingCall 4 (ofSeconds 12000) ++
    failingCall 5 (ofSeconds 16000) ++ failingCall 6 (ofSeconds 20000)

theorem failingCalls_attempts_bounded :
    ((run exec {} failingCalls).attempts 1 = 5 ∧
      (run exec {} failingCalls).db.events.rows.map (·.status) = [.failedTerminal] ∧
      Along exec Finishes {} failingCalls) ∧
    Always exec Exhausts {} failingCalls ∧ Along exec ClaimsWithin {} failingCalls :=
  ⟨by decide, attempts_bounded {} failingCalls rfl (fun _ => rfl) (by decide)⟩

def crashLoop : List Op :=
  [.emit disputeEvent] ++ crashingCall 1 0 ++ crashingCall 2 (ofSeconds 300) ++
    crashingCall 3 (ofSeconds 600) ++ crashingCall 4 (ofSeconds 900) ++
    crashingCall 5 (ofSeconds 1200) ++ crashingCall 6 (ofSeconds 1500)

theorem crashLoop_exceeds :
    (run exec {} crashLoop).attempts 1 = 6 ∧ ¬ Always exec Exhausts {} crashLoop := by
  decide

end World

end Breero.Outbox
