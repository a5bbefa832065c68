import Breero.Dispatch.Writes

/-!
Completed and cancelled jobs.

* `terminal_jobs_absorb`: a job in a terminal status stays in it, and is completed with one
  event and one earning, in a run exactly if no assignment overwrites the status of such a
  job;
* `assignment_reopens_job` is a run in which one does.
-/

namespace Breero.Dispatch
open KeyedTable Transaction Runs Bookings Jobs

/-! ## The laws -/

/-- The status of a job before and after a step. -/
def StaysTerminal (job job' : Job) : Prop :=
  job.status ∈ terminalStatuses → job'.status = job.status

instance : DecidableRel StaysTerminal := fun _ _ => inferInstanceAs (Decidable (_ → _))

def TerminalKept (db db' : Db) : Prop := Table.Kept StaysTerminal db.jobs db'.jobs

/-- A job has at most one `job.completed` event and at most one earning. -/
def CompletedOnce (db : Db) : Prop :=
  (∀ event ∈ completions db,
      (completions db).countP (fun other => other.aggregateId = event.aggregateId) ≤ 1) ∧
    ∀ earning ∈ db.earnings.rows, ∀ other ∈ db.earnings.rows,
      other.jobId = earning.jobId → other = earning

instance : DecidableRel TerminalKept := fun db db' =>
  inferInstanceAs (Decidable (Table.Kept StaysTerminal db.jobs db'.jobs))

instance : DecidablePred CompletedOnce := fun _ => inferInstanceAs (Decidable (_ ∧ _))

/-- The step does not overwrite the status of a completed or cancelled job. -/
def KeepsTerminal (settings : Settings) (dir : Directory) (db : Db) (op : Op) : Prop :=
  ∀ forced ∈ forcedJob settings dir db op, forced.1.status ∉ terminalStatuses

instance (settings : Settings) (dir : Directory) (db : Db) :
    DecidablePred (KeepsTerminal settings dir db) :=
  fun op => inferInstanceAs (Decidable (∀ forced ∈ forcedJob settings dir db op, _))

/-! ## Writes -/

theorem StaysTerminal.refl (job : Job) : StaysTerminal job job := fun _ => rfl

theorem StaysTerminal.trans {a b c : Job} (h : StaysTerminal a b) (h' : StaysTerminal b c) :
    StaysTerminal a c := by
  intro hterminal
  have hb := h hterminal
  exact (h' (hb.symm ▸ hterminal)).trans hb

theorem TerminalKept.refl (db : Db) : TerminalKept db db := .of_eq rfl StaysTerminal.refl

theorem TerminalKept.trans {db db' db'' : Db} (h : TerminalKept db db')
    (h' : TerminalKept db' db'') : TerminalKept db db'' :=
  Table.Kept.trans h h' fun _ _ _ => StaysTerminal.trans

/-- No transition leads out of a terminal status. -/
theorem transitions_terminal {status target : JobStatus} (h : target ∈ transitions status) :
    status ∉ terminalStatuses := by
  cases status <;> simp_all [transitions, terminalStatuses]

theorem kept_of_write {edge : JobStatus → JobStatus → Prop} {p q : Table Job × List JobEvent}
    (h : JobWrite edge p q) : Table.Kept StaysTerminal p.1 q.1 := by
  cases h with
  | moved job job' event found id _ allowed _ _ _ _ _ =>
    exact .put_found found id (fun hterminal => absurd hterminal (transitions_terminal allowed))
      StaysTerminal.refl
  | noted job job' found id _ status _ =>
    exact .put_found found id (fun _ => status) StaysTerminal.refl

theorem terminalKept_of_writes {edge : JobStatus → JobStatus → Prop} {db db' : Db}
    (h : JobWrites edge db db') : TerminalKept db db' := by
  have hkept : ∀ p q, Relation.ReflTransGen (JobWrite edge) p q →
      Table.Kept StaysTerminal p.1 q.1 := by
    intro p q hwrites
    induction hwrites with
    | refl => exact .of_eq rfl StaysTerminal.refl
    | tail _ hwrite ih => exact ih.trans (kept_of_write hwrite) fun _ _ _ => StaysTerminal.trans
  exact hkept _ _ h

theorem terminalKept_of_step {edge : JobStatus → JobStatus → Prop}
    {forced : Option (Job × JobStatus)} {unlogged : Prop} {db db' : Db}
    (h : JobsStep edge forced unlogged db db')
    (hkeeps : ∀ named ∈ forced, named.1.status ∉ terminalStatuses) : TerminalKept db db' := by
  cases h with
  | logged writes => exact terminalKept_of_writes writes
  | forced job status named written =>
    obtain ⟨_, hfound, job', hjobs, hid, _⟩ := written
    unfold TerminalKept
    rw [hjobs]
    exact .put_found hfound hid (fun hterminal => absurd hterminal (hkeeps _ named))
      StaysTerminal.refl
  | unlogged _ _ added =>
    obtain ⟨_, job, hinsert, _⟩ := added
    exact .insert hinsert StaysTerminal.refl

/-! ## Completions -/

/-- What an operation writes of the events and the earnings of completed jobs. -/
inductive CompletionStep (db db' : Db) : Prop
  | untouched (same : Untouched db db')
  | completes (job job' : Job) (found : db.jobs.get? job.id = some job)
      (before : job.status ≠ .completed) (reached : db'.jobs.get? job.id = some job')
      (after : job'.status = .completed) (effects : Completes db job.id db')

theorem TransitionEffect.completionStep {db db' : Db} {job : Job} {target : JobStatus}
    (h : TransitionEffect db job target db') (found : db.jobs.get? job.id = some job) :
    CompletionStep db db' := by
  rcases h.effects with huntouched | ⟨hbefore, rfl, heffects⟩
  · exact .untouched huntouched
  · obtain ⟨job', hreached, hafter⟩ := h.reached
    exact .completes job job' found hbefore hreached hafter heffects

theorem exec_completions (settings : Settings) (dir : Directory) (db : Db) (op : Op) :
    CompletionStep db (exec settings dir db op) := by
  have hsame : CompletionStep db db := .untouched (.refl db)
  cases op with
  | matchJob jobId actorId now offerId =>
    exact commit_induction hsame fun db' v h => .untouched (matchJob_effect h).2.1
  | decideOffer offerId vendorId accept workerId actorId now assignmentId =>
    exact commit_induction hsame fun db' v h => .untouched (decideOffer_effect h).2.1
  | manualAssign jobId vendorId workerId actorId reason now assignmentId =>
    exact commit_induction hsame fun db' v h => .untouched (manualAssign_effect h).2.1
  | assign request now jobId assignmentId =>
    exact commit_induction hsame fun db' v h => .untouched (assign_effect h).1
  | automaticAssign bookingId actorId now jobId assignmentId =>
    exact commit_induction hsame fun db' v h => .untouched (automaticAssign_effect h).1
  | unassign bookingId actorId reason now =>
    exact commit_induction hsame fun db' v h => .untouched (unassign_effect h).1
  | confirm bookingId workerId actorId reason now jobId assignmentId =>
    exact commit_induction hsame fun db' v h => .untouched (confirm_effect h).1
  | transition jobId target actorId actorType reason now snapshotId earningId =>
    refine commit_induction hsame fun db' v h => ?_
    obtain ⟨job, hjob, heffect⟩ := transition_effect h
    exact heffect.completionStep (Table.get?_found hjob)
  | technicianNote jobId workerId actorId notesField notes target now snapshotId earningId =>
    refine commit_induction hsame fun db' v h => ?_
    obtain ⟨job, hjob, heffect⟩ := technicianNote_effect h
    exact heffect.completionStep (Table.get?_found hjob)
  | cancel userId bookingId now =>
    exact commit_induction hsame fun db' v h => .untouched (cancelBooking_effect h).2.1
  | reschedule userId bookingId holdId bookingSession now =>
    exact commit_induction hsame fun db' v h => .untouched (rescheduleBooking_effect h).1

/-- Completed jobs alone have events. -/
def CompletionInv (db : Db) : Prop :=
  CompletedOnce db ∧ ∀ event ∈ completions db,
    ∃ job ∈ db.jobs.get? event.aggregateId, job.status = .completed

instance : DecidablePred CompletionInv := fun _ => inferInstanceAs (Decidable (_ ∧ _))

/-- One earning for each job is kept by an insert of the first one of a job. -/
theorem earnings_insert {t u : Table VendorEarning} {earning : VendorEarning}
    (hone : ∀ a ∈ t.rows, ∀ b ∈ t.rows, b.jobId = a.jobId → b = a)
    (hfirst : ∀ other ∈ t.rows, other.jobId ≠ earning.jobId)
    (hinsert : t.insert? earning = some u) :
    ∀ a ∈ u.rows, ∀ b ∈ u.rows, b.jobId = a.jobId → b = a := by
  intro a ha b hb hjob
  rcases (Table.mem_insert hinsert).mp ha with ha | rfl
  · rcases (Table.mem_insert hinsert).mp hb with hb | rfl
    · exact hone a ha b hb hjob
    · exact absurd hjob.symm (hfirst a ha)
  · rcases (Table.mem_insert hinsert).mp hb with hb | rfl
    · exact absurd hjob (hfirst b hb)
    · rfl

theorem CompletionStep.completionInv {db db' : Db} (hstep : CompletionStep db db')
    (hkept : TerminalKept db db') (h : CompletionInv db) : CompletionInv db' := by
  obtain ⟨⟨hevents, hearnings⟩, hcompleted⟩ := h
  -- a job that was completed still is
  have hstays : ∀ event ∈ completions db,
      ∃ job ∈ db'.jobs.get? event.aggregateId, job.status = .completed := by
    intro event hevent
    obtain ⟨job, hjob, hstatus⟩ := hcompleted event hevent
    obtain ⟨job', hjob', hsame⟩ := hkept.get? hjob
    exact ⟨job', hjob', (hsame (by simp [hstatus, terminalStatuses])).trans hstatus⟩
  cases hstep with
  | untouched same =>
    refine ⟨⟨?_, ?_⟩, ?_⟩
    · rw [same.completions]
      exact hevents
    · rw [same.earnings]
      exact hearnings
    · rw [same.completions]
      exact hstays
  | completes job job' found before reached after effects =>
    obtain ⟨event, hevent, hid⟩ := effects.completions
    -- there is no event of the job yet
    have hfirst : ∀ other ∈ completions db, other.aggregateId ≠ job.id := by
      intro other hother hsame
      obtain ⟨job₀, hjob₀, hstatus⟩ := hcompleted other hother
      rw [hsame, found] at hjob₀
      cases hjob₀
      exact before hstatus
    have hnone : (completions db).countP (fun other => other.aggregateId = job.id) = 0 := by
      rw [List.countP_eq_zero]
      intro other hother
      simpa using hfirst other hother
    refine ⟨⟨?_, ?_⟩, ?_⟩
    · rw [hevent]
      intro e he
      rw [List.countP_append]
      rcases List.mem_append.mp he with he | he
      · have hle := hevents e he
        have hne : event.aggregateId ≠ e.aggregateId := by
          rw [hid]
          exact (hfirst e he).symm
        simpa [hne] using hle
      · rw [List.mem_singleton] at he
        subst he
        rw [hid, hnone]
        simp [hid]
    · rcases effects.earnings with hsame | ⟨earning, hjobId, hfresh, hinsert⟩
      · rw [hsame]
        exact hearnings
      · exact earnings_insert hearnings (hjobId ▸ hfresh) hinsert
    · rw [hevent]
      intro e he
      rcases List.mem_append.mp he with he | he
      · exact hstays e he
      · rw [List.mem_singleton] at he
        subst he
        exact ⟨job', hid ▸ reached, after⟩

/-! ## Steps that reopen a job -/

/-- The status that is written is not a terminal one. -/
theorem forcedJob_open {settings : Settings} {dir : Directory} {db : Db} {op : Op} {job : Job}
    {status : JobStatus} (h : forcedJob settings dir db op = some (job, status)) :
    status ∉ terminalStatuses := by
  unfold forcedJob at h
  split at h
  case h_4 => cases h
  all_goals
    split at h
    · obtain ⟨_, _, hpair⟩ := Option.map_eq_some_iff.mp h
      cases hpair
      simp [terminalStatuses]
    · cases h

theorem keepsTerminal_of_kept {settings : Settings} {dir : Directory} {db : Db} {op : Op}
    (h : TerminalKept db (exec settings dir db op)) : KeepsTerminal settings dir db op := by
  rintro ⟨job, status⟩ hforced hterminal
  obtain ⟨_, hfound, job', hjobs, hid, hstatus, _⟩ := exec_forced hforced
  have hput : (exec settings dir db op).jobs.get? job.id = some job' := by
    rw [hjobs]
    exact Table.get?_put_self hfound hid
  obtain ⟨job₁, hjob₁, hsame⟩ := h.get? hfound
  rw [hput] at hjob₁
  cases hjob₁
  have hkept : status = job.status := hstatus.symm.trans (hsame hterminal)
  exact forcedJob_open hforced (hkept ▸ hterminal)

/-! ## Runs -/

/-- Terminal jobs stay as they are and are completed once, in a run exactly if no step of
it overwrites the status of a completed or cancelled job. -/
theorem terminal_jobs_absorb (settings : Settings) (dir : Directory) (db : Db) (ops : List Op)
    (hstart : CompletionInv db) :
    ((states (exec settings dir) db ops).Pairwise TerminalKept ∧
        Always (exec settings dir) CompletedOnce db ops) ↔
      Along (exec settings dir) (KeepsTerminal settings dir) db ops := by
  constructor
  · rintro ⟨hkept, _⟩
    exact Along.imp (I := fun _ => True) (fun _ _ _ _ => trivial)
      (fun _ _ _ hstep => keepsTerminal_of_kept hstep) trivial (step_of_pairwise hkept)
  · intro hkeeps
    have hkept : ∀ db op, KeepsTerminal settings dir db op →
        TerminalKept db (exec settings dir db op) :=
      fun db op hkeeps => terminalKept_of_step (exec_jobs settings dir db op) hkeeps
    have hinv : ∀ db op, CompletionInv db → KeepsTerminal settings dir db op →
        CompletionInv (exec settings dir db op) :=
      fun db op h hkeeps =>
        (exec_completions settings dir db op).completionInv (hkept db op hkeeps) h
    constructor
    · exact pairwise_of_step TerminalKept.refl (fun _ _ _ h h' => h.trans h') hinv
        (fun db op _ hkeeps => hkept db op hkeeps) hstart hkeeps
    · exact (always_of_inv hinv hstart hkeeps).imp fun _ h => h.1

/-- The job 20 is assigned and worked on until it is completed. -/
def visitCompleted : List Op :=
  visitAssigned ++
    [.transition 20 .enRoute (some 9) "worker" none 2 0 0,
     .transition 20 .onSite (some 9) "worker" none 3 0 0,
     .technicianNote 20 6 9 .diagnosticNotes "worn belt" .diagnosing 4 0 0,
     .transition 20 .inProgress (some 9) "worker" none 5 0 0,
     .technicianNote 20 6 9 .completionNotes "replaced" .completed 6 30 31]

theorem visitCompleted_absorbs :
    (states (exec visitSettings visitDirectory) visitDb visitCompleted).Pairwise TerminalKept ∧
      Always (exec visitSettings visitDirectory) CompletedOnce visitDb visitCompleted :=
  (terminal_jobs_absorb visitSettings visitDirectory visitDb visitCompleted (by decide)).mpr
    (by decide)

/-- The booking is still assigned, so it may be assigned again after its job is completed. -/
theorem assignment_reopens_job :
    ¬ ((states (exec visitSettings visitDirectory) visitDb
          (visitCompleted ++
            [.assign { bookingId := 2, professionalId := 6, actorId := 8, reason := "again"
                       reassign := true } 7 22 23])).Pairwise TerminalKept ∧
        Always (exec visitSettings visitDirectory) CompletedOnce visitDb
          (visitCompleted ++
            [.assign { bookingId := 2, professionalId := 6, actorId := 8, reason := "again"
                       reassign := true } 7 22 23])) := by
  decide

end Breero.Dispatch
