import Breero.Dispatch.TerminalJobs
import Breero.Jobs.TechnicianCommands
import Breero.Payments.Visits

/-!
What the log of the jobs says of the statuses before it, and the terminal statuses, while
technicians, operators, customers and payments move the jobs.

* `FromCommitted` says that a step logs the committed status that it replaces;
* `observed_of_writes`: a step that locks what it reads does, as no two of its transitions
  follow each other;
* `transitions_kept_iff`: no transition is lost in a run iff no technician's command moves a
  job from a status that it has left.
-/

namespace Breero.Jobs
open KeyedTable Transaction Runs Relation

/-! ## The laws -/

/-- The events are added to the log, each from the status that its job had. -/
def FromCommitted (db db' : Db) : Prop :=
  db.jobEvents <+: db'.jobEvents ∧
    ∀ event ∈ db'.jobEvents.drop db.jobEvents.length,
      event.fromStatus = (db.jobs.get? event.jobId).map Job.status

instance : DecidableRel FromCommitted := fun _ _ => inferInstanceAs (Decidable (_ ∧ _))

/-- A command that locks its job finds the status that it has read, or does not move the job. -/
def MovesRead (w : Fieldwork) : FieldworkOp → Prop
  | .finishCommand position _ _ _ =>
    ∀ call ∈ w.commands[position]?, call.command.target ∈ transitions call.job.status →
      ∀ job ∈ w.db.jobs.get? call.job.id, job.status = call.job.status
  | _ => True

instance (w : Fieldwork) : DecidablePred (MovesRead w)
  | .finishCommand position _ _ _ =>
    inferInstanceAs (Decidable (∀ call ∈ w.commands[position]?, _ → _))
  | .payment .. | .transition .. | .technicianNote .. | .cancel .. | .command ..
  | .loseCommand .. => isTrue trivial

/-! ## Requests that lock the job first -/

variable {db db' : Db}

theorem FromCommitted.of_events {new : List JobEvent} (hlog : db'.jobEvents = db.jobEvents ++ new)
    (hnew : ∀ event ∈ new, event.fromStatus = (db.jobs.get? event.jobId).map Job.status) :
    FromCommitted db db' := by
  refine ⟨hlog ▸ List.prefix_append _ _, ?_⟩
  rw [hlog, List.drop_left]
  exact hnew

theorem FromCommitted.of_log (hlog : db'.jobEvents = db.jobEvents) : FromCommitted db db' := by
  have hnone : db'.jobEvents = db.jobEvents ++ [] := by rw [hlog, List.append_nil]
  exact .of_events hnone (List.forall_mem_nil _)

/-- No transition of the edges leads to where another one starts. -/
def Unchained (edge : JobStatus → JobStatus → Prop) : Prop :=
  ∀ a b c d, edge a b → b ∈ transitions a → edge c d → d ∈ transitions c → b ≠ c

/-- After some of the writes: the new events are from the statuses before all of them, and a
status that has changed is one that no further edge starts from. -/
structure Observed (edge : JobStatus → JobStatus → Prop) (p q : Table Job × List JobEvent) :
    Prop where
  events : ∃ new, q.2 = p.2 ++ new ∧
    ∀ event ∈ new, event.fromStatus = (p.1.get? event.jobId).map Job.status
  rows : ∀ id job, q.1.get? id = some job → ∃ before, p.1.get? id = some before ∧
    (job.status = before.status ∨
      ∃ source, edge source job.status ∧ job.status ∈ transitions source)

theorem Observed.write {edge : JobStatus → JobStatus → Prop} {p q r : Table Job × List JobEvent}
    (hchain : Unchained edge) (h : Observed edge p q) (hwrite : JobWrite edge q r) :
    Observed edge p r := by
  obtain ⟨new, hlog, hnew⟩ := h.events
  cases hwrite with
  | @moved t log job job' event found id bookingId allowed admitted version ofJob source target =>
    obtain ⟨before, hbefore, hstatus⟩ := h.rows job.id job found
    have hsame : job.status = before.status := by
      rcases hstatus with hsame | ⟨first, hedge, hallowed⟩
      · exact hsame
      · exact absurd rfl (hchain _ _ _ _ hedge hallowed admitted allowed)
    constructor
    · refine ⟨new ++ [event], by rw [← List.append_assoc, ← hlog], ?_⟩
      intro logged hlogged
      rcases List.mem_append.mp hlogged with hold | hevent
      · exact hnew logged hold
      · obtain rfl := List.mem_singleton.mp hevent
        rw [source, ofJob, hbefore, hsame]
        rfl
    · intro key row hrow
      rcases Table.get?_put_some hrow with ⟨rfl, hkey⟩ | ⟨_, hold⟩
      · have hkey' : job.id = key := id.symm.trans hkey
        exact ⟨before, hkey' ▸ hbefore, .inr ⟨job.status, admitted, allowed⟩⟩
      · exact h.rows key row hold
  | @noted t log job job' found id bookingId status version =>
    refine ⟨⟨new, hlog, hnew⟩, ?_⟩
    intro key row hrow
    rcases Table.get?_put_some hrow with ⟨rfl, hkey⟩ | ⟨_, hold⟩
    · have hkey' : job.id = key := id.symm.trans hkey
      obtain ⟨before, hbefore, hstatus⟩ := h.rows job.id job found
      rw [status]
      exact ⟨before, hkey' ▸ hbefore, hstatus⟩
    · exact h.rows key row hold

theorem observed_of_writes {edge : JobStatus → JobStatus → Prop} (hchain : Unchained edge)
    (h : JobWrites edge db db') : FromCommitted db db' := by
  have hobserved : ∀ p q, ReflTransGen (JobWrite edge) p q → Observed edge p q := by
    intro p q hwrites
    induction hwrites with
    | refl => exact ⟨⟨[], (List.append_nil _).symm, List.forall_mem_nil _⟩,
        fun _ job hjob => ⟨job, hjob, .inl rfl⟩⟩
    | tail _ hwrite ih => exact ih.write hchain hwrite
  obtain ⟨new, hlog, hnew⟩ := (hobserved _ _ h).events
  exact .of_events hlog hnew

/-- No transition leaves the status as it is. -/
theorem not_mem_transitions (status : JobStatus) : status ∉ transitions status := by
  cases status <;> decide

theorem unchained_target (status target : JobStatus) :
    Unchained (Dispatch.targetEdge status target) := by
  rintro a b c d ⟨rfl, rfl⟩ hallowed ⟨rfl, rfl⟩ _ rfl
  exact not_mem_transitions _ hallowed

theorem unchained_cancelled : Unchained Dispatch.cancelledEdge := by
  rintro a b c d ⟨_, rfl⟩ _ ⟨hopen, _⟩ _ rfl
  exact absurd hopen (by decide)

theorem unchained_resumed : Unchained resumedEdge := by
  rintro a b c d ⟨_, rfl⟩ _ ⟨rfl, _⟩ _ heq
  cases heq

/-- A step of the payments logs what it replaces: a job that goes on, or a new one. -/
theorem VisitStep.fromCommitted {payment : Payment}
    (h : Payments.VisitStep payment db db') :
    FromCommitted db db' ∧ Dispatch.TerminalKept db db' := by
  cases h with
  | kept same => exact ⟨.of_log same.jobEvents, .of_eq same.jobs Dispatch.StaysTerminal.refl⟩
  | quotePaid _ _ _ _ _ _ _ _ _ _ resumed =>
    exact ⟨observed_of_writes unchained_resumed resumed.writes,
      Dispatch.terminalKept_of_writes resumed.writes⟩
  | feePaid _ _ _ _ _ _ _ _ _ created =>
    rcases created with ⟨hjobs, hlog⟩ | ⟨job, event, hinsert, hlog, _, _, _, hof, hsource, _⟩
    · exact ⟨.of_log hlog, .of_eq hjobs Dispatch.StaysTerminal.refl⟩
    · have hnew : db.jobs.get? event.jobId = none := by
        rw [hof, Table.get?_eq_none]
        exact fun other hother => Table.key_fresh hinsert hother
      refine ⟨.of_events hlog ?_, .insert hinsert Dispatch.StaysTerminal.refl⟩
      intro logged hlogged
      obtain rfl := List.mem_singleton.mp hlogged
      rw [hsource, hnew]
      rfl

/-! ## A session that has loaded the job -/

section
variable {settings : Settings} {loaded stored : Job} {command : Command} {actorId : Option Uuid}
  {actorType : String} {reason : Option String} {now : Instant} {snapshotId earningId : Uuid}

theorem target_ne_completed (command : Command) : command.target ≠ .completed := by
  cases command <;> decide

theorem applyWithEffects_command :
    applyWithEffects settings db loaded command.target actorId actorType reason now snapshotId
      earningId =
      (applyTransition db loaded command.target actorId actorType reason [] now).map
        fun result => (result.1, result.2.1) := by
  unfold applyWithEffects
  cases applyTransition db loaded command.target actorId actorType reason [] now with
  | error e => rfl
  | ok result =>
    simp only [Except.map, bind, Except.bind, target_ne_completed, and_false, if_false]
    rfl

/-- The database after a command that has read `loaded` moves the job from there. -/
def movedDb (db : Db) (stored loaded : Job) (target : JobStatus) (actorId : Option Uuid)
    (actorType : String) (reason : Option String) : Db := { db with
  jobs := db.jobs.put { stored with status := target, version := loaded.version + 1 }
  jobEvents := db.jobEvents ++ [{
    jobId := loaded.id, fromStatus := some loaded.status, toStatus := target
    actorId, actorType, reason }] }

theorem transitionLoaded_moves (hstored : db.jobs.get? loaded.id = some stored)
    (hallowed : command.target ∈ transitions loaded.status) :
    transitionLoaded settings db loaded command.target actorId actorType reason now snapshotId
      earningId = .ok (movedDb db stored loaded command.target actorId actorType reason,
        { loaded with status := command.target, version := loaded.version + 1 }) := by
  have hother : command.target ≠ loaded.status :=
    fun heq => not_mem_transitions _ (heq ▸ hallowed)
  have hcompleted := target_ne_completed command
  have hrow : flushedJob stored loaded
      { loaded with status := command.target, version := loaded.version + 1 } =
        { stored with status := command.target, version := loaded.version + 1 } := by
    simp [flushedJob, flushed, hother]
  simp only [transitionLoaded, hstored, applyWithEffects_command, applyTransition, hother, if_false,
    orRaise, require, hallowed, if_true, onlyIf, hcompleted, bind, Except.bind, pure, Except.pure,
    Except.map, hrow]
  rfl

/-- A command that does not move the job leaves its row. -/
theorem transitionLoaded_rests {v : Job}
    (h : transitionLoaded settings db loaded command.target actorId actorType reason now
      snapshotId earningId = .ok (db', v))
    (hrests : command.target ∉ transitions loaded.status) :
    db'.jobs = db.jobs ∧ db'.jobEvents = db.jobEvents := by
  simp only [transitionLoaded, seq_committed, orRaise_committed] at h
  obtain ⟨stored, hstored, ⟨db1, job⟩, happly, h⟩ := h
  simp only [return_committed, Prod.mk.injEq] at h
  obtain ⟨rfl, _⟩ := h
  rw [applyWithEffects_command] at happly
  cases hmoved : applyTransition db loaded command.target actorId actorType reason [] now with
  | error e =>
    rw [hmoved] at happly
    cases happly
  | ok result =>
    obtain ⟨db2, job2, changed⟩ := result
    rw [hmoved] at happly
    simp only [Except.map, Except.ok.injEq, Prod.mk.injEq] at happly
    obtain ⟨rfl, rfl⟩ := happly
    rcases applyTransition_cases hmoved with ⟨_, rfl, rfl, _⟩ | ⟨hallowed, _⟩
    · have hrow : flushedJob stored job2 job2 = stored := by
        simp [flushedJob, flushed]
      exact ⟨by rw [hrow, Table.put_self hstored], rfl⟩
    · exact absurd hallowed hrests

end

/-! ## Runs -/

variable {settings : Settings} {w : Fieldwork} {op : FieldworkOp}

/-- What the command at the position commits. -/
theorem finishCommand_kept {position : Nat} {now : Instant} {snapshotId earningId : Uuid}
    {call : OpenCommand} (hat : w.commands[position]? = some call)
    (hread : MovesRead w (.finishCommand position now snapshotId earningId)) :
    let db' := commit w.db (transitionLoaded settings w.db call.job call.command.target
      (some call.actorId) "worker" none now snapshotId earningId)
    FromCommitted w.db db' ∧ Dispatch.TerminalKept w.db db' := by
  intro db'
  by_cases hallowed : call.command.target ∈ transitions call.job.status
  · cases hstored : w.db.jobs.get? call.job.id with
    | none =>
      have hsame : db' = w.db := by
        simp only [db', transitionLoaded, hstored, orRaise]
        rfl
      rw [hsame]
      exact ⟨.of_log rfl, .refl _⟩
    | some stored =>
      have hstatus : stored.status = call.job.status := hread call hat hallowed stored hstored
      have hresult : db' = movedDb w.db stored call.job call.command.target (some call.actorId)
          "worker" none := by
        simp only [db', transitionLoaded_moves hstored hallowed]
        rfl
      rw [hresult]
      refine ⟨.of_events rfl ?_, ?_⟩
      · intro event hevent
        obtain rfl := List.mem_singleton.mp hevent
        show some call.job.status = (w.db.jobs.get? call.job.id).map Job.status
        rw [hstored, ← hstatus]
        rfl
      · refine .put_found hstored rfl ?_ Dispatch.StaysTerminal.refl
        intro hterminal
        exact absurd (hstatus ▸ hterminal) (Dispatch.transitions_terminal hallowed)
  · refine commit_induction (motive := fun t => FromCommitted w.db t ∧
      Dispatch.TerminalKept w.db t) ⟨.of_log rfl, .refl _⟩ ?_
    intro db1 v h
    obtain ⟨hjobs, hlog⟩ := transitionLoaded_rests h hallowed
    exact ⟨.of_log hlog, .of_eq hjobs Dispatch.StaysTerminal.refl⟩

theorem exec_kept (w : Fieldwork) (op : FieldworkOp) (hread : MovesRead w op) :
    FromCommitted w.db (proceed settings w op).db ∧
      Dispatch.TerminalKept w.db (proceed settings w op).db := by
  have hsame : FromCommitted w.db w.db ∧ Dispatch.TerminalKept w.db w.db :=
    ⟨.of_log rfl, .refl _⟩
  cases op with
  | payment op =>
    have hvisits := Payments.exec_visits settings w.toWorld op
    unfold Payments.StepOf at hvisits
    split at hvisits
    · exact VisitStep.fromCommitted hvisits
    · exact ⟨.of_log hvisits.jobEvents, .of_eq hvisits.jobs Dispatch.StaysTerminal.refl⟩
  | transition jobId target actorId actorType reason now snapshotId earningId =>
    refine commit_induction (motive := fun t => FromCommitted w.db t ∧
      Dispatch.TerminalKept w.db t) hsame ?_
    intro db v h
    obtain ⟨job, _, heffect⟩ := Dispatch.transition_effect h
    exact ⟨observed_of_writes (unchained_target _ _) heffect.writes,
      Dispatch.terminalKept_of_writes heffect.writes⟩
  | technicianNote jobId workerId actorId notesField notes target now snapshotId earningId =>
    refine commit_induction (motive := fun t => FromCommitted w.db t ∧
      Dispatch.TerminalKept w.db t) hsame ?_
    intro db v h
    obtain ⟨job, _, heffect⟩ := Dispatch.technicianNote_effect h
    exact ⟨observed_of_writes (unchained_target _ _) heffect.writes,
      Dispatch.terminalKept_of_writes heffect.writes⟩
  | cancel userId bookingId now =>
    refine commit_induction (motive := fun t => FromCommitted w.db t ∧
      Dispatch.TerminalKept w.db t) hsame ?_
    intro db v h
    obtain ⟨hwrites, _⟩ := Dispatch.cancelBooking_effect h
    exact ⟨observed_of_writes unchained_cancelled hwrites,
      Dispatch.terminalKept_of_writes hwrites⟩
  | command jobId workerId actorId name =>
    simp only [proceed]
    split
    · exact hsame
    · exact hsame
  | finishCommand position now snapshotId earningId =>
    simp only [proceed]
    split
    · next call hat => exact finishCommand_kept hat hread
    · exact hsame
  | loseCommand position => exact hsame

/-- A command that moves a job from another status than the committed one logs that status. -/
theorem movesRead_of_fromCommitted (h : FromCommitted w.db (proceed settings w op).db) :
    MovesRead w op := by
  cases op with
  | finishCommand position now snapshotId earningId =>
    intro call hat hallowed job hjob
    have hresult : (proceed settings w (.finishCommand position now snapshotId earningId)).db =
        movedDb w.db job call.job call.command.target (some call.actorId) "worker" none := by
      have hcall : w.commands[position]? = some call := hat
      simp only [proceed, hcall, transitionLoaded_moves hjob hallowed]
      rfl
    obtain ⟨_, hevents⟩ := h
    rw [hresult] at hevents
    have hevent := hevents {
      jobId := call.job.id, fromStatus := some call.job.status, toStatus := call.command.target
      actorId := some call.actorId, actorType := "worker", reason := none }
      (by simp only [movedDb, List.drop_left, List.mem_singleton])
    have hget : w.db.jobs.get? call.job.id = some job := hjob
    rw [hget] at hevent
    exact (Option.some.inj hevent).symm
  | payment | transition | technicianNote | cancel | command | loseCommand => trivial

/-- In a run every transition is logged from the committed status that it replaces, and no
terminal status is overwritten, exactly if no command of a technician moves a job from a status
that it has left since the command read it. -/
theorem transitions_kept_iff (settings : Settings) (w : Fieldwork) (ops : List FieldworkOp) :
    (Along (proceed settings) (fun w op => FromCommitted w.db (proceed settings w op).db) w ops ∧
        (states (proceed settings) w ops).Pairwise fun w w' => Dispatch.TerminalKept w.db w'.db) ↔
      Along (proceed settings) MovesRead w ops := by
  constructor
  · rintro ⟨hlogged, _⟩
    exact Along.imp (I := fun _ => True) (fun _ _ _ _ => trivial)
      (fun _ _ _ h => movesRead_of_fromCommitted h) trivial hlogged
  · intro hread
    constructor
    · exact Along.imp (I := fun _ => True) (fun _ _ _ _ => trivial)
        (fun w op _ h => (exec_kept w op h).1) trivial hread
    · exact pairwise_of_step (I := fun _ => True) (fun w => .refl w.db)
        (fun _ _ _ h h' => h.trans h') (fun _ _ _ _ => trivial)
        (fun w op _ h => (exec_kept w op h).2) trivial hread

/-! ## A command that read the job before it was cancelled -/

/-- The job 1 is assigned to the worker 6. -/
def assignedWorld : Fieldwork where
  db := { jobs := ⟨[{
    id := 1, bookingId := 2, serviceId := 3, addressId := 4, status := .assigned
    scheduledStart := 0, scheduledEnd := 1, vendorId := some 5, workerId := some 6 }],
      by decide⟩ }

/-- An operator cancels the job between the two reads of the command. -/
def cancelledUnderway : List FieldworkOp :=
  [.command 1 6 9 "en-route",
   .transition 1 .cancelled (some 8) "operations" none 0 0 0,
   .finishCommand 0 1 0 0]

theorem command_overwrites_cancelled :
    (¬ Along (proceed Dispatch.visitSettings) (fun w op => FromCommitted w.db
        (proceed Dispatch.visitSettings w op).db) assignedWorld cancelledUnderway) ∧
      ¬ (states (proceed Dispatch.visitSettings) assignedWorld cancelledUnderway).Pairwise
          fun w w' => Dispatch.TerminalKept w.db w'.db := by
  decide

end Breero.Jobs
