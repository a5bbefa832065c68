import Breero.Outbox.Effects

/-!
Who may write an event.

A dispatcher holds an event from its claim until another claim takes the event over or it is
parked. Nothing in `process` asks whether the dispatcher that finalizes an event still holds it.

* `ClaimsInv`: a dispatcher that holds an event has its row as it is stored, and the token of
  the row is that of the dispatcher that holds it;
* `World.delivered_final`: where every dispatcher finalizes only what it holds, a delivered
  event stays so, and a lost token leaves the row alone;
* `World.takeover_undelivers` is a run in which one finalizes what it has lost.
-/

namespace Breero.Outbox
open KeyedTable Transaction PublicSubmissions Runs

/-! ## The law -/

/-- What is delivered in the one state is delivered in the other. -/
def StaysDelivered (s s' : World) : Prop :=
  Table.Kept (fun a b => a.status = .delivered → b.status = .delivered) s.db.events s'.db.events

instance (s s' : World) : Decidable (StaysDelivered s s') :=
  inferInstanceAs (Decidable (Table.Kept _ _ _))

/-- The dispatcher that takes the step. -/
def Op.worker : Op → Option Uuid
  | .claim worker .. | .call worker | .answer worker .. | .finalize worker .. | .crash worker =>
    some worker
  | .accept .. | .emit .. | .activate .. | .park .. | .retry .. => none

namespace World

/-- The step of a dispatcher leaves the rows alone that have a token other than its own. -/
def LeavesOthers (s : World) (op : Op) : Prop :=
  ∀ id ∈ op.worker, ∀ worker ∈ s.workers.get? id, ∀ copy ∈ worker.batch,
    ∀ row ∈ s.db.events.get? copy.id, row.claimToken ≠ copy.claimToken →
      (s.exec op).db.events.get? copy.id = some row

/-- An event is finalized by the dispatcher that holds it. -/
def Holds (s : World) : Op → Prop
  | .finalize worker _ _ => ∀ ended ∈ s.endedOf worker, s.holder ended.1.id = some worker
  | _ => True

instance (s : World) : DecidablePred s.Holds
  | .finalize worker _ _ =>
    inferInstanceAs (Decidable (∀ ended ∈ s.endedOf worker, s.holder ended.1.id = some worker))
  | .accept .. | .emit .. | .activate .. | .park .. | .claim .. | .call .. | .answer ..
  | .crash .. | .retry .. => isTrue trivial

end World

/-! ## Copies -/

variable {s s' : World} {op : Op}

/-- An event in the batch of a dispatcher, as its session has it. -/
structure Copied (s : World) (copy : OutboxEvent) : Prop where
  token : ∃ token : Nat, token < s.drawn ∧ copy.claimToken = some token
  processing : copy.status = .processing
  stored : ∃ row, s.db.events.get? copy.id = some row ∧ row.identity = copy.identity

/-- The batches have each event once. -/
structure BatchesInv (s : World) : Prop where
  nodup : ∀ worker ∈ s.workers.rows, (worker.batch.map (·.id)).Nodup
  copied : ∀ worker ∈ s.workers.rows, ∀ copy ∈ worker.batch, Copied s copy

theorem Moved.identity {row row' : OutboxEvent} (h : Moved s s' op row row') :
    row'.identity = row.identity := by
  cases h with
  | activated => exact activated_identity _ _
  | kept | parked | claimed | finalized | retried => rfl

theorem Step.drawn_le (h : Step s op s') : s.drawn ≤ s'.drawn := by
  cases h with
  | claimed => exact Nat.le_add_right _ _
  | idle | accepted | emitted | activated | parked | called | answered | finalized | crashed
  | retried => exact Nat.le_refl _

theorem Copied.step {copy : OutboxEvent} (h : Copied s copy) (hstep : Step s op s') :
    Copied s' copy := by
  obtain ⟨token, hlt, htoken⟩ := h.token
  obtain ⟨row, hrow, hsame⟩ := h.stored
  obtain ⟨row', hrow', hmoved⟩ := hstep.moved.get? hrow
  exact ⟨⟨token, Nat.lt_of_lt_of_le hlt hstep.drawn_le, htoken⟩, h.processing, row', hrow',
    hmoved.identity.trans hsame⟩

/-- An event of a new batch. -/
theorem Copied.claim {skipped : List Uuid} {limit : Nat} {now : Instant} {copy : OutboxEvent}
    {worker : Uuid} {workers : Table Worker}
    (inserted : s.workers.insert? { id := worker, batch := s.claims skipped limit now } =
      some workers) (hcopy : copy ∈ s.claims skipped limit now) :
    Copied { s with
      db := { s.db with events := writeBack s.db.events (s.claims skipped limit now) }
      workers
      drawn := s.drawn + (s.claims skipped limit now).length
      holder := fun id => if id ∈ (s.claims skipped limit now).map (·.id) then some worker
        else s.holder id } copy := by
  obtain ⟨event, hevent, token, _, hlt, rfl⟩ := mem_claimEach hcopy
  have hlength : (s.claims skipped limit now).length =
      (claimable s.db.events skipped limit now).length := by
    have hids := congrArg List.length (claimEach_ids now DEFAULT_LEASE_SECONDS s.drawn
      (claimable s.db.events skipped limit now))
    rw [List.length_map, List.length_map] at hids
    exact hids
  have hget := Table.get?_key (mem_claimable hevent).1
  obtain ⟨row, hrow, hmoved⟩ := (Step.claimed inserted).moved.get? hget
  refine ⟨⟨token, ?_, rfl⟩, rfl, row, hrow, hmoved.identity⟩
  rw [hlength]
  exact hlt

theorem claims_nodup (s : World) (skipped : List Uuid) (limit : Nat) (now : Instant) :
    ((s.claims skipped limit now).map (·.id)).Nodup := by
  rw [World.claims, claimEach_ids]
  exact claimable_nodup _ _ _ _

theorem BatchesInv.step (h : BatchesInv s) (hstep : Step s op s') : BatchesInv s' := by
  constructor
  · intro worker' hworker'
    rcases hstep.batch hworker' with ⟨worker, hworker, hcontinues⟩ | ⟨_, _, _, _, _, hnew⟩
    · exact (h.nodup worker hworker).sublist (hcontinues.suffix.sublist.map _)
    · rw [hnew]
      exact claims_nodup _ _ _ _
  · intro worker' hworker' copy hcopy
    rcases hstep.batch hworker' with ⟨worker, hworker, hcontinues⟩ | ⟨_, _, _, rfl, hfree, hnew⟩
    · exact (h.copied worker hworker copy (hcontinues.suffix.subset hcopy)).step hstep
    · rw [hnew] at hcopy
      cases hstep with
      | idle => exact absurd rfl (Table.get?_eq_none.mp hfree worker' hworker')
      | claimed inserted => exact Copied.claim inserted hcopy

/-! ## Tokens -/

/-- The dispatcher that holds the event has its row, and no other has the token of the row. -/
structure Leased (s : World) (worker : Uuid) (copy : OutboxEvent) : Prop where
  held : s.holder copy.id = some worker → s.db.events.get? copy.id = some copy
  token : ∀ row, s.db.events.get? copy.id = some row → row.claimToken = copy.claimToken →
    s.holder copy.id = some worker

structure ClaimsInv (s : World) : Prop extends BatchesInv s where
  leased : ∀ worker ∈ s.workers.rows, ∀ copy ∈ worker.batch, Leased s worker.id copy

theorem endedOf_mem {s : World} {id : Uuid} {event : OutboxEvent} {ending : Ending}
    (h : s.endedOf id = some (event, ending)) :
    ∃ worker ∈ s.workers.rows, worker.id = id ∧ event ∈ worker.batch := by
  obtain ⟨worker, hworker, h⟩ := Option.bind_eq_some_iff.mp h
  refine ⟨worker, Table.mem_of_get? hworker, Table.key_of_get? hworker, ?_⟩
  split at h
  · next hbatch _ =>
    cases h
    rw [hbatch]
    exact List.mem_cons_self
  · cases h

/-- A dispatcher that holds what it finalizes finds the row as it read it. -/
theorem ClaimsInv.finalizes (h : ClaimsInv s) {worker : Uuid} {now : Instant} {jitter : Nat}
    (hholds : s.Holds (.finalize worker now jitter)) {event : OutboxEvent} {ending : Ending}
    (hended : s.endedOf worker = some (event, ending)) :
    s.db.events.get? event.id = some event := by
  obtain ⟨row, hrow, rfl, hevent⟩ := endedOf_mem hended
  exact (h.leased row hrow event hevent).held (hholds _ hended)

/-- An event that stays in the batch stays leased, or its lease is lost. -/
theorem ClaimsInv.keeps (h : ClaimsInv s) (hholds : s.Holds op) (hstep : Step s op s')
    {worker worker' : Worker} (hworker : worker ∈ s.workers.rows)
    (hworker' : worker' ∈ s'.workers.rows) (hid : worker.id = worker'.id) {copy : OutboxEvent}
    (hcopy : copy ∈ worker.batch) (hcopy' : copy ∈ worker'.batch) :
    Leased s' worker'.id copy := by
  have hleased := h.leased worker hworker copy hcopy
  obtain ⟨drawn, hdrawn, htoken⟩ := (h.copied worker hworker copy hcopy).token
  have hprocessing := (h.copied worker hworker copy hcopy).processing
  obtain ⟨row, hrow, hsame⟩ := (h.copied worker hworker copy hcopy).stored
  obtain ⟨row', hrow', hmoved⟩ := hstep.moved.get? hrow
  have hrowid : row.id = copy.id := Table.key_of_get? hrow
  -- who holds the event has the row as it is stored
  have hheld : s.holder copy.id = some worker.id → row = copy := by
    intro hholder
    have hget := hleased.held hholder
    rw [hrow] at hget
    exact Option.some.inj hget
  -- a lease is lost where another one holds the event and the token is not that of the copy
  have hlost : s'.holder row.id ≠ some worker'.id → row'.claimToken ≠ copy.claimToken →
      Leased s' worker'.id copy := by
    intro hnot hother
    refine ⟨fun hholder => absurd (hrowid ▸ hholder) hnot, fun stored hstored heq => ?_⟩
    rw [hrow'] at hstored
    cases hstored
    exact absurd heq hother
  have hnone : ∀ {token : Option Uuid}, token = none → token ≠ copy.claimToken := by
    rintro _ rfl
    simp [htoken]
  cases hmoved with
  | kept holder =>
    rw [hrowid] at holder
    refine ⟨fun hholder => ?_, fun stored hstored heq => ?_⟩
    · rw [holder, ← hid] at hholder
      rw [hrow', hheld hholder]
    · rw [hrow'] at hstored
      cases hstored
      rw [holder, ← hid]
      exact hleased.token _ hrow heq
  | activated status holder =>
    have hnot : s.holder copy.id ≠ some worker.id := by
      intro hholder
      rw [hheld hholder, hprocessing] at status
      cases status
    refine hlost ?_ ?_
    · rw [holder, hrowid, ← hid]
      exact hnot
    · rw [(activated_columns _ _).2.2]
      exact fun heq => hnot (hleased.token row hrow heq)
  | parked status taken holder =>
    refine hlost ?_ (hnone rfl)
    rw [holder]
    simp
  | claimed due unknown fresh mem holder =>
    refine hlost ?_ ?_
    · rw [holder, ← hid]
      intro heq
      cases heq
      exact Table.get?_eq_none.mp unknown worker hworker rfl
    · rw [htoken]
      intro heq
      cases heq
      exact absurd hdrawn (Nat.not_lt.mpr fresh)
  | retried allowed _ holder =>
    have hnot : s.holder copy.id ≠ some worker.id := by
      intro hholder
      rw [hheld hholder, hprocessing] at allowed
      simp [retryable] at allowed
    refine hlost ?_ (hnone rfl)
    rw [holder, hrowid, ← hid]
    exact hnot
  | @finalized other event batch ending now jitter _ found first called own after holder =>
    have hended := World.endedOf_eq found first called
    have hholder := hholds _ hended
    have hother := h.copied other (Table.mem_of_get? found) event (by simp [first])
    obtain ⟨_, _, heventtoken⟩ := hother.token
    refine hlost ?_ (hnone (merge_token heventtoken row))
    rw [holder, ← own, hholder, ← hid]
    intro heq
    -- a dispatcher has an event once, and this one is done with it
    have hsameworker : other = worker :=
      Table.eq_of_key (Table.mem_of_get? found) hworker (Option.some.inj heq)
    subst hsameworker
    have hrest : worker' = { other with batch, stage := .idle } := by
      rw [after] at hworker'
      rcases Table.mem_put.mp hworker' with ⟨rfl, _⟩ | ⟨_, hne⟩
      · rfl
      · exact absurd hid.symm hne
    rw [hrest] at hcopy'
    have hnodup := h.nodup other hworker
    rw [first, List.map_cons, List.nodup_cons] at hnodup
    exact hnodup.1 (List.mem_map.mpr ⟨copy, hcopy', hrowid.symm.trans own.symm⟩)

theorem ClaimsInv.step (h : ClaimsInv s) (hholds : s.Holds op) (hstep : Step s op s') :
    ClaimsInv s' := by
  refine ⟨h.toBatchesInv.step hstep, fun worker' hworker' copy hcopy => ?_⟩
  rcases hstep.batch hworker' with
    ⟨worker, hworker, hcontinues⟩ | ⟨skipped, limit, now, rfl, hfree, hnew⟩
  · exact h.keeps hholds hstep hworker hworker' hcontinues.id.symm
      (hcontinues.suffix.subset hcopy) hcopy
  · rw [hnew] at hcopy
    cases hstep with
    | idle => exact absurd rfl (Table.get?_eq_none.mp hfree worker' hworker')
    | claimed inserted =>
      have hmine : copy.id ∈ (s.claims skipped limit now).map (·.id) := List.mem_map_of_mem hcopy
      refine ⟨fun _ => ?_, fun _ _ _ => if_pos hmine⟩
      obtain ⟨event, hevent, token, _, _, rfl⟩ := mem_claimEach hcopy
      have hget := Table.get?_key (mem_claimable hevent).1
      rcases get?_writeBack_of_some (s.claims skipped limit now) hget with
        ⟨row, hrow, hid, hwritten⟩ | ⟨hnot, _⟩
      · have hsame : row = claimed now DEFAULT_LEASE_SECONDS token event :=
          List.inj_on_of_nodup_map (claims_nodup s skipped limit now) hrow hcopy hid
        subst hsame
        exact hwritten
      · exact absurd hmine hnot

/-! ## Steps -/

theorem ClaimsInv.staysDelivered (h : ClaimsInv s) (hholds : s.Holds op) (hstep : Step s op s') :
    StaysDelivered s s' := by
  intro row hrow
  obtain ⟨row', hrow', hmoved⟩ := hstep.moved row hrow
  refine ⟨row', hrow', fun hdelivered => ?_⟩
  cases hmoved with
  | kept => exact hdelivered
  | activated status =>
    rw [status] at hdelivered
    cases hdelivered
  | parked status =>
    rw [hdelivered] at status
    simp [unconfigurable] at status
  | claimed due =>
    simp [Outbox.due, hdelivered] at due
  | retried allowed =>
    rw [hdelivered] at allowed
    simp [retryable] at allowed
  | @finalized worker event batch ending now jitter _ found first called own =>
    have hended := World.endedOf_eq found first called
    have hstored := h.finalizes hholds hended
    have hprocessing :=
      (h.copied worker (Table.mem_of_get? found) event (by simp [first])).processing
    have hget : s.db.events.get? row.id = some row := Table.get?_key hrow
    rw [own, hget, Option.some.injEq] at hstored
    rw [hstored, hprocessing] at hdelivered
    cases hdelivered

theorem ClaimsInv.leavesOthers (h : ClaimsInv s) (hholds : s.Holds op) : s.LeavesOthers op := by
  intro id hid worker hworker copy hcopy row hrow hother
  have hworkerrow : s.workers.get? id = some worker := hworker
  have hget : s.db.events.get? copy.id = some row := hrow
  have hrowid : row.id = copy.id := Table.key_of_get? hget
  obtain ⟨row', hrow', hmoved⟩ := (exec_step s op).moved.get? hget
  cases hmoved with
  | kept => exact hrow'
  | activated | parked | retried => cases hid
  | claimed _ unknown =>
    cases hid
    rw [hworkerrow] at unknown
    cases unknown
  | @finalized claimant event batch ending now jitter _ found first called own =>
    have hid : claimant.id = id := Option.some.inj hid
    rw [hid, hworkerrow, Option.some.injEq] at found
    subst found
    -- the row is that of the event as it was claimed
    have hended := World.endedOf_eq (hid.symm ▸ hworkerrow) first called
    have hstored := h.finalizes hholds hended
    have hsame : event = copy := by
      have hnodup := h.nodup worker (Table.mem_of_get? hworkerrow)
      exact List.inj_on_of_nodup_map hnodup (by simp [first]) hcopy (own.trans hrowid)
    rw [hsame, hget, Option.some.injEq] at hstored
    exact absurd (congrArg OutboxEvent.claimToken hstored) hother

/-! ## Runs -/

namespace World

theorem delivered_final (s : World) (ops : List Op) (hidle : s.workers.rows = [])
    (h : Along exec Holds s ops) :
    (states exec s ops).Pairwise StaysDelivered ∧ Along exec LeavesOthers s ops := by
  have hinv : ClaimsInv s := by
    refine ⟨⟨?_, ?_⟩, ?_⟩
    all_goals
      rw [hidle]
      rintro worker ⟨⟩
  have hstep : ∀ (t : World) (op : Op), ClaimsInv t → t.Holds op → ClaimsInv (t.exec op) :=
    fun t op hinv hholds => hinv.step hholds (exec_step t op)
  refine ⟨?_, Along.imp hstep (fun t op hinv hholds => hinv.leavesOthers hholds) hinv h⟩
  exact pairwise_of_step (fun t => .of_eq rfl fun _ h => h)
    (fun t u v h h' => h.trans h' fun a b c hab hbc ha => hbc (hab ha)) hstep
    (fun t op hinv hholds => hinv.staysDelivered hholds (exec_step t op)) hinv h

/-! ### Two dispatchers and a slow call -/

def disputeEvent : OutboxEvent := {
  id := 1
  createdAt := 0
  aggregateType := "lead_dispute"
  aggregateId := 7
  eventType := "breero.lead_dispute.created"
  idempotencyKey := some "lead_dispute:7:1"
  payload := .fields [("dispute_id", .uuid 7)]
  nextAttemptAt := 0 }

def unavailable : Failure := {
  text := "MIDDLEWARE_UNAVAILABLE"
  code := "MIDDLEWARE_UNAVAILABLE" }

/-- The first dispatcher crashes, the second one takes the event over and delivers it. -/
def crashedTakeover : List Op := [
  .emit disputeEvent,
  .claim 1 [] 50 0,
  .call 1,
  .crash 1,
  .claim 2 [] 50 (ofSeconds 300),
  .call 2,
  .answer 2 none (.ok ⟨12, "helpdesk.ticket"⟩),
  .finalize 2 (ofSeconds 301) 3]

theorem crashedTakeover_delivered_final :
    ((run exec {} crashedTakeover).db.events.rows.map (·.status) = [.delivered] ∧
      Along exec Holds {} crashedTakeover) ∧
    (states exec {} crashedTakeover).Pairwise StaysDelivered ∧
      Along exec LeavesOthers {} crashedTakeover :=
  ⟨by decide, delivered_final {} crashedTakeover rfl (by decide)⟩

/-- The first dispatcher is only slow: its call times out after the second one has delivered
the event. -/
def takeover : List Op := [
  .emit disputeEvent,
  .claim 1 [] 50 0,
  .call 1,
  .claim 2 [] 50 (ofSeconds 300),
  .call 2,
  .answer 2 none (.ok ⟨12, "helpdesk.ticket"⟩),
  .finalize 2 (ofSeconds 301) 3,
  .answer 1 none (.error unavailable),
  .finalize 1 (ofSeconds 302) 3]

theorem takeover_undelivers :
    ¬ (states exec {} takeover).Pairwise StaysDelivered ∧
      (run exec {} takeover).db.events.rows.map (·.status) = [.retrying] := by
  decide

end World

end Breero.Outbox
