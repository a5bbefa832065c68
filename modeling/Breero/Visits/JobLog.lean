import Mathlib.Data.List.Chain
import Breero.Visits.Effects

/-!
The event log of a job.

* `job_log_replays`: the log leads along `transitions` to the status of the job, and its
  version counts the changes, in a run exactly if no step overwrites a status with another
  one or adds a job that is assigned from the start;
* `assignment_unlogged` is a run in which one does.
-/

namespace Breero.Visits
open KeyedTable Transaction Runs Bookings Payments Jobs

variable {settings : Settings} {dir : Directory} {w : World} {op : Op}

/-! ## The law -/

def eventsOf (log : List JobEvent) (jobId : Uuid) : List JobEvent :=
  log.filter fun event => event.jobId = jobId

/-- The event is the creation of the job, or records an edge of `TRANSITIONS`. -/
def RecordsEdge (event : JobEvent) : Prop :=
  ∀ source ∈ event.fromStatus, event.toStatus ∈ transitions source

/-- The log leads to the status of the job. -/
def Replays (log : List JobEvent) (job : Job) : Prop :=
  (eventsOf log job.id).getLast?.map JobEvent.toStatus = some job.status ∧
    (eventsOf log job.id).IsChain (fun event next => next.fromStatus = some event.toStatus) ∧
    (∀ event ∈ eventsOf log job.id, RecordsEdge event) ∧
    job.version = 1 + (eventsOf log job.id).countP fun event => event.fromStatus.isSome

/-- The log replays every job. -/
def LogReplays (w : World) : Prop := ∀ job ∈ w.db.jobs.rows, Replays w.db.jobEvents job

instance : DecidablePred RecordsEdge :=
  fun event => inferInstanceAs (Decidable (∀ source ∈ event.fromStatus, _))

instance (log : List JobEvent) : DecidablePred (Replays log) :=
  fun _ => inferInstanceAs (Decidable (_ ∧ _ ∧ _ ∧ _))

instance : DecidablePred LogReplays :=
  fun w => inferInstanceAs (Decidable (∀ job ∈ w.db.jobs.rows, _))

/-- The step overwrites no status with another one, and adds no job that is assigned from
the start. -/
def KeepsLog (settings : Settings) (dir : Directory) (w : World) (op : Op) : Prop :=
  (∀ forced ∈ forcedJob settings dir w op, forced.1.status = forced.2) ∧
    ¬ AddsUnlogged settings dir w op

instance (settings : Settings) (dir : Directory) (w : World) :
    DecidablePred (KeepsLog settings dir w) :=
  fun _ => inferInstanceAs (Decidable ((∀ forced ∈ _, _) ∧ _))

/-! ## Writes -/

/-- Jobs that their log replays, and no events of others. -/
def LogInv (jobs : Table Job) (log : List JobEvent) : Prop :=
  (∀ job ∈ jobs.rows, Replays log job) ∧ ∀ event ∈ log, (jobs.get? event.jobId).isSome

instance (jobs : Table Job) (log : List JobEvent) : Decidable (LogInv jobs log) :=
  inferInstanceAs (Decidable (_ ∧ _))

theorem Replays.of_same {log : List JobEvent} {job job' : Job} (h : Replays log job)
    (id : job'.id = job.id) (status : job'.status = job.status)
    (version : job'.version = job.version) : Replays log job' := by
  unfold Replays at h ⊢
  rw [id, status, version]
  exact h

theorem eventsOf_append_other {log : List JobEvent} {event : JobEvent} {jobId : Uuid}
    (h : event.jobId ≠ jobId) : eventsOf (log ++ [event]) jobId = eventsOf log jobId := by
  simp [eventsOf, List.filter_append, h]

theorem eventsOf_append_self {log : List JobEvent} {event : JobEvent} {jobId : Uuid}
    (h : event.jobId = jobId) :
    eventsOf (log ++ [event]) jobId = eventsOf log jobId ++ [event] := by
  simp [eventsOf, List.filter_append, h]

theorem Replays.append_other {log : List JobEvent} {event : JobEvent} {job : Job}
    (h : Replays log job) (hother : event.jobId ≠ job.id) : Replays (log ++ [event]) job := by
  unfold Replays
  rw [eventsOf_append_other hother]
  exact h

/-- A transition, recorded. -/
theorem Replays.moved {log : List JobEvent} {event : JobEvent} {job job' : Job}
    (h : Replays log job) (id : job'.id = job.id)
    (allowed : job'.status ∈ transitions job.status) (version : job'.version = job.version + 1)
    (ofJob : event.jobId = job.id) (source : event.fromStatus = some job.status)
    (target : event.toStatus = job'.status) : Replays (log ++ [event]) job' := by
  obtain ⟨hlast, hchain, hedges, hversion⟩ := h
  unfold Replays
  rw [id, eventsOf_append_self ofJob]
  refine ⟨?_, ?_, ?_, ?_⟩
  · simp [target]
  · rw [List.isChain_append]
    refine ⟨hchain, List.isChain_singleton event, ?_⟩
    intro last hmem next hnext
    rw [hmem, Option.map_some] at hlast
    simp only [List.head?_cons, Option.mem_some_iff] at hnext
    subst hnext
    rw [source, Option.some.inj hlast]
  · intro e he
    rcases List.mem_append.mp he with he | he
    · exact hedges e he
    · rw [List.mem_singleton] at he
      subst he
      intro from₀ hfrom
      rw [source] at hfrom
      cases hfrom
      exact target ▸ allowed
  · rw [List.countP_append, version, hversion]
    simp [source]
    omega

/-- The creation of a job without events. -/
theorem Replays.created {log : List JobEvent} {event : JobEvent} {job : Job}
    (hnone : eventsOf log job.id = []) (version : job.version = 1) (ofJob : event.jobId = job.id)
    (source : event.fromStatus = none) (target : event.toStatus = job.status) :
    Replays (log ++ [event]) job := by
  unfold Replays
  rw [eventsOf_append_self ofJob, hnone]
  refine ⟨?_, ?_, ?_, ?_⟩
  · simp [target]
  · exact List.isChain_singleton event
  · intro e he from₀ hfrom
    rw [List.nil_append, List.mem_singleton] at he
    subst he
    rw [source] at hfrom
    cases hfrom
  · simp [version, source]

theorem eventsOf_fresh {jobs jobs' : Table Job} {log : List JobEvent} {job : Job}
    (h : ∀ event ∈ log, (jobs.get? event.jobId).isSome) (inserted : jobs.insert? job = some jobs') :
    eventsOf log job.id = [] := by
  unfold eventsOf
  rw [List.filter_eq_nil_iff]
  intro event hevent hof
  obtain ⟨other, hother⟩ := Option.isSome_iff_exists.mp (h event hevent)
  have hkey : other.id = event.jobId := Table.key_of_get? hother
  have hsame : event.jobId = job.id := of_decide_eq_true hof
  exact Table.key_fresh inserted (Table.mem_of_get? hother) (hkey.trans hsame)

theorem get?_put_isSome {jobs : Table Job} {job' : Job} {i : Uuid}
    (h : (jobs.get? i).isSome) : ((jobs.put job').get? i).isSome := by
  obtain ⟨job, hjob⟩ := Option.isSome_iff_exists.mp h
  by_cases hid : job'.id = i
  · rw [Table.get?_put_self hjob hid]
    rfl
  · rw [Table.get?_put_ne hid]
    exact h

/-- A row rewritten as another that the log replays. -/
theorem LogInv.put {jobs : Table Job} {log log' : List JobEvent} {job job' : Job}
    (h : LogInv jobs log) (found : jobs.get? job.id = some job) (id : job'.id = job.id)
    (hself : Replays log' job')
    (hother : ∀ other : Job, other.id ≠ job.id → Replays log other → Replays log' other)
    (hevents : ∀ event ∈ log', event ∈ log ∨ event.jobId = job.id) :
    LogInv (jobs.put job') log' := by
  obtain ⟨hreplays, hof⟩ := h
  refine ⟨fun other hmem => ?_, fun event hevent => ?_⟩
  · rcases Table.mem_put.mp hmem with ⟨rfl, _⟩ | ⟨hmem, hne⟩
    · exact hself
    · have hne' : other.id ≠ job.id := fun hsame => hne (hsame.trans id.symm)
      exact hother other hne' (hreplays other hmem)
  · refine get?_put_isSome ?_
    rcases hevents event hevent with hevent | hself
    · exact hof event hevent
    · rw [hself, found]
      rfl

theorem LogInv.write {edge : JobStatus → JobStatus → Prop} {p q : Table Job × List JobEvent}
    (hwrite : JobWrite edge p q) (h : LogInv p.1 p.2) : LogInv q.1 q.2 := by
  cases hwrite with
  | moved job job' event found id _ allowed _ version ofJob source target =>
    have hself := (h.1 job (Table.mem_of_get? found)).moved id allowed version ofJob source target
    refine h.put found id hself (fun other hne hreplays => ?_) (fun e he => ?_)
    · exact hreplays.append_other fun hsame => hne (hsame.symm.trans ofJob)
    · rcases List.mem_append.mp he with he | he
      · exact Or.inl he
      · rw [List.mem_singleton] at he
        exact Or.inr (he ▸ ofJob)
  | noted job job' found id _ status version =>
    have hself := (h.1 job (Table.mem_of_get? found)).of_same id status version
    exact h.put found id hself (fun _ _ hreplays => hreplays) (fun _ he => Or.inl he)

/-- A job is created, and the log records it. -/
theorem LogInv.insert {jobs jobs' : Table Job} {log : List JobEvent} {job : Job} {event : JobEvent}
    (h : LogInv jobs log) (inserted : jobs.insert? job = some jobs') (version : job.version = 1)
    (ofJob : event.jobId = job.id) (source : event.fromStatus = none)
    (target : event.toStatus = job.status) : LogInv jobs' (log ++ [event]) := by
  obtain ⟨hreplays, hof⟩ := h
  refine ⟨fun other hmem => ?_, fun e he => ?_⟩
  · rcases (Table.mem_insert inserted).mp hmem with hmem | rfl
    · refine (hreplays other hmem).append_other fun hsame => ?_
      exact Table.key_fresh inserted hmem (hsame.symm.trans ofJob)
    · exact Replays.created (eventsOf_fresh hof inserted) version ofJob source target
  · rcases List.mem_append.mp he with he | he
    · obtain ⟨other, hother⟩ := Option.isSome_iff_exists.mp (hof e he)
      rw [Table.get?_insert_of_some inserted hother]
      rfl
    · rw [List.mem_singleton] at he
      have hkey : e.jobId = key job := he ▸ ofJob
      rw [hkey, Table.get?_insert_self inserted]
      rfl

theorem LogInv.writes {edge : JobStatus → JobStatus → Prop} {db db' : Db}
    (hwrites : JobWrites edge db db') (h : LogInv db.jobs db.jobEvents) :
    LogInv db'.jobs db'.jobEvents := by
  have hinv : ∀ p q, Relation.ReflTransGen (JobWrite edge) p q → LogInv p.1 p.2 →
      LogInv q.1 q.2 := by
    intro p q hpq hp
    induction hpq with
    | refl => exact hp
    | tail _ hwrite ih => exact ih.write hwrite
  exact hinv _ _ hwrites h

/-! ## Steps -/

theorem logInv_step (h : LogInv w.db.jobs w.db.jobEvents) (hkeeps : KeepsLog settings dir w op) :
    LogInv (exec settings dir w op).db.jobs (exec settings dir w op).db.jobEvents := by
  obtain ⟨hforced, hlogged⟩ := hkeeps
  cases exec_jobs settings dir w op with
  | created job event inserted hlog status version ofJob source target =>
    rw [hlog]
    exact h.insert inserted version ofJob source (target.trans status.symm)
  | logged writes => exact h.writes writes
  | forced job status named written =>
    obtain ⟨hlog, hfound, job', hjobs, hid, hstatus, hversion, _⟩ := written
    have hsame : job.status = status := hforced _ named
    have hself := (h.1 job (Table.mem_of_get? hfound)).of_same hid (hstatus.trans hsame.symm)
      hversion
    rw [hjobs, hlog]
    exact h.put hfound hid hself (fun _ _ hreplays => hreplays) (fun _ he => Or.inl he)
  | unlogged _ named _ => exact absurd named hlogged

/-- A step after which the log still replays the jobs is one that keeps it. -/
theorem keepsLog_of_replays (h : LogInv w.db.jobs w.db.jobEvents)
    (hreplays : LogReplays (exec settings dir w op)) : KeepsLog settings dir w op := by
  obtain ⟨hbefore, hof⟩ := h
  constructor
  · rintro ⟨job, status⟩ hforced
    obtain ⟨hlog, hfound, job', hjobs, hid, hstatus, _⟩ := exec_forced hforced
    have hput : (exec settings dir w op).db.jobs.get? job.id = some job' := by
      rw [hjobs]
      exact Table.get?_put_self hfound hid
    obtain ⟨hlast, _⟩ := hbefore job (Table.mem_of_get? hfound)
    obtain ⟨hlast', _⟩ := hreplays job' (Table.mem_of_get? hput)
    rw [hlog, hid, hlast, hstatus] at hlast'
    exact Option.some.inj hlast'
  · intro hadds
    obtain ⟨_, hlog, job, hinsert, _⟩ := exec_addsUnlogged hadds
    obtain ⟨hlast, _⟩ := hreplays job (Table.mem_of_get? (Table.get?_insert_self hinsert))
    rw [hlog, eventsOf_fresh hof hinsert] at hlast
    cases hlast

/-! ## Runs -/

/-- The log replays the job in every state of a run exactly if no step of it writes the
status of a job past the log. -/
theorem job_log_replays (settings : Settings) (dir : Directory) (w : World) (ops : List Op)
    (hstart : LogInv w.db.jobs w.db.jobEvents) :
    Always (exec settings dir) LogReplays w ops ↔
      Along (exec settings dir) (KeepsLog settings dir) w ops := by
  constructor
  · intro h
    exact along_of_always_inv (I := fun w => LogInv w.db.jobs w.db.jobEvents)
      (fun _ _ hinv hkeeps => logInv_step hinv hkeeps)
      (fun _ _ hinv hreplays => keepsLog_of_replays hinv hreplays) hstart h
  · intro h
    have hinv := always_of_inv (I := fun w => LogInv w.db.jobs w.db.jobEvents)
      (fun _ _ hinv hkeeps => logInv_step hinv hkeeps) hstart h
    exact hinv.imp fun _ h => h.1

theorem fullVisit_replays :
    Always (exec fullSettings Dispatch.visitDirectory) LogReplays fullWorld fullVisit :=
  (job_log_replays fullSettings Dispatch.visitDirectory fullWorld fullVisit (by decide)).mpr
    (by decide)

/-- An administrator assigns a booking that has no job yet. -/
theorem assignment_unlogged :
    ¬ Always (exec Dispatch.visitSettings Dispatch.visitDirectory) LogReplays
        { db := Dispatch.visitDb } (Dispatch.visitAssigned.map .dispatch) := by
  decide

end Breero.Visits
