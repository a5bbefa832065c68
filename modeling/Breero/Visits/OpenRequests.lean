import Breero.Dispatch.TerminalJobs
import Breero.Visits.Effects

/-!
Work requests and the jobs they are for.

* `requests_jobs_agree`: a job waits for an approval exactly while it has one open work
  request, and a paid quote can resume its job, in a run exactly if no transition and no
  assignment moves a job into the approval or out of it;
* `start_leaves_request_open` is a run in which a technician does.
-/

namespace Breero.Visits
open KeyedTable Transaction Runs Bookings Payments Jobs

variable {settings : Settings} {dir : Directory} {w : World} {op : Op}

/-! ## The law -/

def openStatuses : List WorkRequestStatus := [.submitted, .pendingCustomer, .approvedPendingPayment]

def isOpen (jobId : Uuid) (request : WorkRequest) : Bool :=
  request.jobId = jobId ∧ request.status ∈ openStatuses

def openRequests (requests : Table WorkRequest) (jobId : Uuid) : Nat :=
  requests.rows.countP (isOpen jobId)

/-- The job waits exactly while it has one open request, and has none once it is closed. -/
def JobAgrees (requests : Table WorkRequest) (job : Job) : Prop :=
  (job.status = .awaitingApproval ↔ openRequests requests job.id = 1) ∧
    (job.status ∈ Dispatch.terminalStatuses → openRequests requests job.id = 0)

/-- The job of a quote that waits for its payment can go on. -/
def QuotesSettle (db : Db) : Prop :=
  ∀ request ∈ db.workRequests.rows, request.status = .approvedPendingPayment →
    ∃ job ∈ db.jobs.get? request.jobId, .inProgress ∈ transitions job.status

def RequestsAgree (w : World) : Prop :=
  (∀ job ∈ w.db.jobs.rows, JobAgrees w.db.workRequests job) ∧ QuotesSettle w.db

instance (requests : Table WorkRequest) : DecidablePred (JobAgrees requests) :=
  fun _ => inferInstanceAs (Decidable ((_ ↔ _) ∧ (_ → _)))

instance : DecidablePred QuotesSettle := fun db =>
  inferInstanceAs (Decidable (∀ request ∈ db.workRequests.rows, _ →
    ∃ job ∈ db.jobs.get? request.jobId, _))

instance : DecidablePred RequestsAgree := fun w =>
  inferInstanceAs (Decidable ((∀ job ∈ w.db.jobs.rows, _) ∧ _))

/-- A transition to the target that neither enters nor leaves the approval. -/
def Bypasses (db : Db) (jobId : Uuid) (target : JobStatus) : Prop :=
  ∀ job ∈ db.jobs.get? jobId, job.status = target ∨
    (job.status ≠ .awaitingApproval ∧ target ≠ .awaitingApproval)

instance (db : Db) (jobId : Uuid) (target : JobStatus) : Decidable (Bypasses db jobId target) :=
  inferInstanceAs (Decidable (∀ job ∈ db.jobs.get? jobId, _))

/-- The step moves no job into the approval or out of it past its work request. -/
def KeepsRequests (settings : Settings) (dir : Directory) (w : World) : Op → Prop
  | .dispatch (.transition jobId target actorId actorType reason now snapshotId earningId) =>
    (transition settings w.db jobId target actorId actorType reason now snapshotId
      earningId).isOk → Bypasses w.db jobId target
  | .dispatch (.technicianNote jobId workerId actorId notesField notes target now snapshotId
      earningId) =>
    (technicianNoteTransition settings w.db jobId workerId actorId notesField notes target now
      snapshotId earningId).isOk → Bypasses w.db jobId target
  | op => ∀ forced ∈ forcedJob settings dir w op, forced.1.status ≠ .awaitingApproval

instance (settings : Settings) (dir : Directory) (w : World) :
    DecidablePred (KeepsRequests settings dir w) := by
  intro op
  unfold KeepsRequests
  split
  · infer_instance
  · infer_instance
  · exact inferInstanceAs (Decidable (∀ forced ∈ forcedJob settings dir w _, _))

/-! ## The invariant -/

/-- The open requests of a job that is in the status. -/
def openIn (status : JobStatus) : Nat := if status = .awaitingApproval then 1 else 0

/-- A job that waits has one open request, another one none, and every request has its
job. -/
def RequestInv (jobs : Table Job) (requests : Table WorkRequest) : Prop :=
  (∀ job ∈ jobs.rows, openRequests requests job.id = openIn job.status) ∧
    ∀ request ∈ requests.rows, (jobs.get? request.jobId).isSome

instance (jobs : Table Job) (requests : Table WorkRequest) :
    Decidable (RequestInv jobs requests) :=
  inferInstanceAs (Decidable (_ ∧ _))

theorem openIn_other {status : JobStatus} (h : status ≠ .awaitingApproval) : openIn status = 0 :=
  if_neg h

theorem openIn_terminal {status : JobStatus} (h : status ∈ Dispatch.terminalStatuses) :
    openIn status = 0 := by
  refine openIn_other ?_
  rintro rfl
  simp [Dispatch.terminalStatuses] at h

variable {jobs jobs' : Table Job} {requests requests' : Table WorkRequest}

/-- The job of an open request waits. -/
theorem RequestInv.waits (h : RequestInv jobs requests) {request : WorkRequest} {job : Job}
    (hrequest : request ∈ requests.rows) (hopen : request.status ∈ openStatuses)
    (hjob : jobs.get? request.jobId = some job) : job.status = .awaitingApproval := by
  have hid : job.id = request.jobId := Table.key_of_get? hjob
  have hpos : 0 < openRequests requests job.id := by
    refine List.countP_pos_iff.mpr ⟨request, hrequest, ?_⟩
    simp [isOpen, hid, hopen]
  have hcount := h.1 job (Table.mem_of_get? hjob)
  unfold openIn at hcount
  split at hcount
  · next hwaits => exact hwaits
  · omega

theorem RequestInv.agree (h : RequestInv w.db.jobs w.db.workRequests) : RequestsAgree w := by
  refine ⟨fun job hjob => ⟨?_, fun hterminal => ?_⟩, fun request hrequest hstatus => ?_⟩
  · rw [h.1 job hjob]
    unfold openIn
    split
    · next hwaits => simp [hwaits]
    · next hnot => simp [hnot]
  · rw [h.1 job hjob]
    exact openIn_terminal hterminal
  · obtain ⟨job, hjob⟩ := Option.isSome_iff_exists.mp (h.2 request hrequest)
    have hwaits := h.waits hrequest (by simp [hstatus, openStatuses]) hjob
    exact ⟨job, hjob, by simp [hwaits, transitions]⟩

/-! ## Writes of the jobs -/

/-- A job rewritten on the same side of the approval. -/
theorem RequestInv.put (h : RequestInv jobs requests) {job job' : Job}
    (found : jobs.get? job.id = some job) (id : job'.id = job.id)
    (hsame : openIn job'.status = openIn job.status) : RequestInv (jobs.put job') requests := by
  refine ⟨fun other hmem => ?_, fun request hrequest => ?_⟩
  · rcases Table.mem_put.mp hmem with ⟨rfl, _⟩ | ⟨hmem, _⟩
    · rw [id, h.1 job (Table.mem_of_get? found), hsame]
    · exact h.1 other hmem
  · obtain ⟨other, hother⟩ := Option.isSome_iff_exists.mp (h.2 request hrequest)
    obtain ⟨other', hother', _⟩ := Table.get?_put_of_some (a := job') hother
    rw [hother']
    rfl

/-- A new job has no requests. -/
theorem RequestInv.insert (h : RequestInv jobs requests) {job : Job}
    (inserted : jobs.insert? job = some jobs') (hnot : job.status ≠ .awaitingApproval) :
    RequestInv jobs' requests := by
  refine ⟨fun other hmem => ?_, fun request hrequest => ?_⟩
  · rcases (Table.mem_insert inserted).mp hmem with hmem | rfl
    · exact h.1 other hmem
    · rw [openIn_other hnot]
      refine List.countP_eq_zero.mpr fun request hrequest hopen => ?_
      obtain ⟨found, hfound⟩ := Option.isSome_iff_exists.mp (h.2 request hrequest)
      have hkey : found.id = request.jobId := Table.key_of_get? hfound
      simp only [isOpen, decide_eq_true_eq] at hopen
      exact Table.key_fresh inserted (Table.mem_of_get? hfound) (hkey.trans hopen.1)
  · obtain ⟨other, hother⟩ := Option.isSome_iff_exists.mp (h.2 request hrequest)
    rw [Table.get?_insert_of_some inserted hother]
    rfl

/-- Transitions that pass the approval by. -/
def bypassingEdge (source target : JobStatus) : Prop :=
  source ≠ .awaitingApproval ∧ target ≠ .awaitingApproval

theorem RequestInv.write {p q : Table Job × List JobEvent} (hwrite : JobWrite bypassingEdge p q)
    (h : RequestInv p.1 requests) : RequestInv q.1 requests := by
  cases hwrite with
  | moved job job' event found id _ _ admitted _ _ _ _ =>
    refine h.put found id ?_
    rw [openIn_other admitted.1, openIn_other admitted.2]
  | noted job job' found id _ status _ => exact h.put found id (by rw [status])

theorem RequestInv.writes {db db' : Db} (hwrites : JobWrites bypassingEdge db db')
    (h : RequestInv db.jobs requests) : RequestInv db'.jobs requests := by
  have hinv : ∀ p q, Relation.ReflTransGen (JobWrite bypassingEdge) p q →
      RequestInv p.1 requests → RequestInv q.1 requests := by
    intro p q hpq hp
    induction hpq with
    | refl => exact hp
    | tail _ hwrite ih => exact ih.write hwrite
  exact hinv _ _ hwrites h

/-! ## Writes of the requests -/

/-- A request and its job rewritten together: the job waits while its request is open. -/
theorem RequestInv.move (h : RequestInv jobs requests) {request request' : WorkRequest}
    {job job' : Job} (found : requests.get? request.id = some request)
    (id : request'.id = request.id) (jobId : request'.jobId = request.jobId)
    (foundJob : jobs.get? job.id = some job) (ofJob : job.id = request.jobId)
    (idJob : job'.id = job.id)
    (hopen : (if request'.status ∈ openStatuses then 1 else 0) + openIn job.status =
      (if request.status ∈ openStatuses then 1 else 0) + openIn job'.status) :
    RequestInv (jobs.put job') (requests.put request') := by
  have hcount : ∀ i, openRequests (requests.put request') i +
      (if isOpen i request then 1 else 0) =
        openRequests requests i + (if isOpen i request' then 1 else 0) :=
    fun i => Table.countP_put (isOpen i) found id
  refine ⟨fun other hmem => ?_, fun other hother => ?_⟩
  · rcases Table.mem_put.mp hmem with ⟨rfl, _⟩ | ⟨hmem, hne⟩
    · have hself := hcount other.id
      have hbefore := h.1 job (Table.mem_of_get? foundJob)
      rw [← idJob] at hbefore
      have hof : request.jobId = other.id := (idJob.trans ofJob).symm
      simp only [isOpen, jobId, hof, true_and, decide_eq_true_eq] at hself
      omega
    · have hself := hcount other.id
      have hother : request.jobId ≠ other.id := by
        intro hsame
        exact hne ((ofJob.trans hsame).symm.trans idJob.symm)
      simp only [isOpen, jobId, hother, false_and, decide_false, Bool.false_eq_true,
        if_false] at hself
      rw [← h.1 other hmem]
      omega
  · have hbefore : (jobs.get? other.jobId).isSome := by
      rcases Table.mem_put.mp hother with ⟨rfl, _⟩ | ⟨hother, _⟩
      · rw [jobId]
        exact h.2 request (Table.mem_of_get? found)
      · exact h.2 other hother
    obtain ⟨found', hfound'⟩ := Option.isSome_iff_exists.mp hbefore
    obtain ⟨found'', hfound'', _⟩ := Table.get?_put_of_some (a := job') hfound'
    rw [hfound'']
    rfl

/-- A request whose job is at rest. -/
theorem RequestInv.moveRequest (h : RequestInv jobs requests) {request request' : WorkRequest}
    (found : requests.get? request.id = some request) (id : request'.id = request.id)
    (jobId : request'.jobId = request.jobId)
    (hopen : request'.status ∈ openStatuses ↔ request.status ∈ openStatuses) :
    RequestInv jobs (requests.put request') := by
  obtain ⟨job, hjob⟩ := Option.isSome_iff_exists.mp (h.2 request (Table.mem_of_get? found))
  have hmoved : RequestInv (jobs.put job) (requests.put request') :=
    h.move found id jobId (Table.get?_found hjob) (Table.key_of_get? hjob) rfl
      (by simp only [hopen])
  rwa [Table.put_self hjob] at hmoved

/-- A request is closed and its job goes on. -/
theorem RequestInv.close {db db' : Db} (h : RequestInv db.jobs db.workRequests)
    {request : WorkRequest} {job : Job} {target : WorkRequestStatus}
    (hrequest : RequestMoved db request target db') (hopen : request.status ∈ openStatuses)
    (hclosed : target ∉ openStatuses) (hjob : job.id = request.jobId)
    (hmoved : Transitioned db job .inProgress db') : RequestInv db'.jobs db'.workRequests := by
  obtain ⟨request', hrequests, hterms, hof, hstatus⟩ := hrequest.written
  obtain ⟨job', _, hjobs, _, hidJob, hstatusJob, _⟩ := hmoved.written
  have hwaits := h.waits (Table.mem_of_get? hrequest.found) hopen (hjob ▸ hmoved.found)
  rw [hrequests, hjobs]
  refine h.move hrequest.found hterms.id hof hmoved.found hjob hidJob ?_
  simp [hstatus, hopen, hclosed, hwaits, hstatusJob, openIn]

/-- A request is closed and its job, which waits, goes on. -/
theorem RequestInv.resume {db db' : Db} (h : RequestInv db.jobs db.workRequests)
    {request : WorkRequest} {target : WorkRequestStatus}
    (hrequest : RequestMoved db request target db') (hopen : request.status ∈ openStatuses)
    (hclosed : target ∉ openStatuses) (hresumed : Resumed db request.jobId db') :
    RequestInv db'.jobs db'.workRequests := by
  rcases hresumed with ⟨job, hid, _, hmoved⟩ | ⟨hnot, _⟩
  · exact h.close hrequest hopen hclosed hid hmoved
  · have hmem := Table.mem_of_get? hrequest.found
    obtain ⟨job, hjob⟩ := Option.isSome_iff_exists.mp (h.2 request hmem)
    exact absurd (h.waits hmem hopen hjob) (hnot job hjob)

/-- A request is submitted, and its job waits. -/
theorem RequestInv.submit {db db' : Db} (h : RequestInv db.jobs db.workRequests)
    {request : WorkRequest} {job : Job} (ofJob : request.jobId = job.id)
    (hstatus : request.status = .submitted) (hnot : job.status ≠ .awaitingApproval)
    (hmoved : Transitioned db job .awaitingApproval db')
    (hinsert : db.workRequests.insert? request = some db'.workRequests) :
    RequestInv db'.jobs db'.workRequests := by
  obtain ⟨job', _, hjobs, _, hidJob, hstatusJob, _⟩ := hmoved.written
  have hcount : ∀ i, openRequests db'.workRequests i =
      openRequests db.workRequests i + (if isOpen i request then 1 else 0) :=
    fun i => Table.countP_insert (isOpen i) hinsert
  have hbefore := h.1 job (Table.mem_of_get? hmoved.found)
  rw [openIn_other hnot] at hbefore
  refine ⟨fun other hmem => ?_, fun other hother => ?_⟩
  · rw [hjobs] at hmem
    rw [hcount]
    rcases Table.mem_put.mp hmem with ⟨rfl, _⟩ | ⟨hmem, hne⟩
    · rw [hidJob, hbefore]
      simp [isOpen, ofJob, hstatus, openStatuses, hstatusJob, openIn]
    · have hother : job.id ≠ other.id := fun hsame => hne (hsame.symm.trans hidJob.symm)
      rw [h.1 other hmem]
      simp [isOpen, ofJob, hother]
  · have hsome : (db.jobs.get? other.jobId).isSome := by
      rcases (Table.mem_insert hinsert).mp hother with hother | rfl
      · exact h.2 other hother
      · rw [ofJob, hmoved.found]
        rfl
    obtain ⟨found, hfound⟩ := Option.isSome_iff_exists.mp hsome
    obtain ⟨found', hfound', _⟩ := Table.get?_put_of_some (a := job') hfound
    rw [hjobs, hfound']
    rfl

/-! ## Steps -/

/-- The operations of the dispatchers leave the requests. -/
theorem dispatch_workRequests (settings : Settings) (dir : Directory) (db : Db)
    (op : Dispatch.Op) : (Dispatch.exec settings dir db op).workRequests = db.workRequests := by
  cases Dispatch.exec_completions settings dir db op with
  | untouched same => exact same.workRequests
  | completes _ _ _ _ _ _ effects => exact effects.workRequests

/-- No transition leads from a status to itself. -/
theorem transitions_irrefl {source target : JobStatus} (h : target ∈ transitions source) :
    source ≠ target := by
  cases source <;> cases target <;> simp_all [transitions]

theorem bypassingEdge_of_bypasses {db : Db} {jobId : Uuid} {target source next : JobStatus}
    (hbypasses : Bypasses db jobId target) (hallowed : next ∈ transitions source)
    (hedge : next = target ∧ ∃ job ∈ db.jobs.get? jobId, job.status = source) :
    bypassingEdge source next := by
  obtain ⟨rfl, job, hjob, rfl⟩ := hedge
  rcases hbypasses job hjob with hsame | hpast
  · exact absurd hsame (transitions_irrefl hallowed)
  · exact hpast

/-- The writes of an operation of the dispatchers that keeps the requests. -/
theorem dispatch_jobs {op : Dispatch.Op} (hkeeps : KeepsRequests settings dir w (.dispatch op)) :
    Dispatch.JobsStep bypassingEdge (Dispatch.forcedJob settings dir w.db op)
      (Dispatch.AddsUnlogged settings dir w.db op) w.db
      (Dispatch.exec settings dir w.db op) := by
  rcases Dispatch.exec_jobs settings dir w.db op with ⟨writes⟩ | ⟨job, status, named, written⟩ |
    ⟨bookingId, named, added⟩
  · refine .logged ?_
    cases op with
    | transition jobId target actorId actorType reason now snapshotId earningId =>
      simp only [KeepsRequests] at hkeeps
      by_cases hok : (transition settings w.db jobId target actorId actorType reason now snapshotId
        earningId).isOk
      · exact writes.mono fun _ _ => bypassingEdge_of_bypasses (hkeeps hok)
      · rw [Dispatch.exec, commit_raised hok]
        exact .refl _
    | technicianNote jobId workerId actorId notesField notes target now snapshotId earningId =>
      simp only [KeepsRequests] at hkeeps
      by_cases hok : (technicianNoteTransition settings w.db jobId workerId actorId notesField notes
        target now snapshotId earningId).isOk
      · exact writes.mono fun _ _ => bypassingEdge_of_bypasses (hkeeps hok)
      · rw [Dispatch.exec, commit_raised hok]
        exact .refl _
    | _ => exact writes
  · exact .forced job status named written
  · exact .unlogged bookingId named added

/-- An assignment gives an assigned job or one that is matched again. -/
theorem forcedJob_bypasses {job : Job} {status : JobStatus}
    (h : forcedJob settings dir w op = some (job, status)) : status ≠ .awaitingApproval := by
  cases op with
  | dispatch op =>
    have hforced : Dispatch.forcedJob settings dir w.db op = some (job, status) := h
    unfold Dispatch.forcedJob at hforced
    split at hforced
    case h_4 => cases hforced
    all_goals
      split at hforced
      · obtain ⟨_, _, hpair⟩ := Option.map_eq_some_iff.mp hforced
        cases hpair
        simp
      · cases hforced
  | _ => cases h

theorem keepsRequests_forced {job : Job} {status : JobStatus}
    (hkeeps : KeepsRequests settings dir w op)
    (h : forcedJob settings dir w op = some (job, status)) : job.status ≠ .awaitingApproval := by
  unfold KeepsRequests at hkeeps
  split at hkeeps
  · cases h
  · cases h
  · exact hkeeps _ h

theorem requestInv_dispatch {op : Dispatch.Op} (h : RequestInv w.db.jobs w.db.workRequests)
    (hkeeps : KeepsRequests settings dir w (.dispatch op)) :
    RequestInv (Dispatch.exec settings dir w.db op).jobs
      (Dispatch.exec settings dir w.db op).workRequests := by
  rw [dispatch_workRequests]
  cases dispatch_jobs hkeeps with
  | logged writes => exact h.writes writes
  | forced job status named written =>
    obtain ⟨_, hfound, job', hjobs, hid, hstatus, _⟩ := written
    have hnamed : forcedJob settings dir w (.dispatch op) = some (job, status) := named
    rw [hjobs]
    refine h.put hfound hid ?_
    rw [hstatus, openIn_other (forcedJob_bypasses hnamed),
      openIn_other (keepsRequests_forced hkeeps hnamed)]
  | unlogged _ named added =>
    obtain ⟨_, job, hinsert, hstatus, _⟩ := added
    exact h.insert hinsert (by simp [hstatus])

theorem requestInv_payment {settled : Option Payment} {db db' : Db}
    (h : RequestInv db.jobs db.workRequests) (hstep : StepOf settled db db') :
    RequestInv db'.jobs db'.workRequests := by
  cases settled with
  | none =>
    have hkept : VisitsKept db db' := hstep
    rwa [hkept.jobs, hkept.workRequests]
  | some payment =>
    have hvisit : VisitStep payment db db' := hstep
    cases hvisit with
    | kept same _ => rwa [same.jobs, same.workRequests]
    | quotePaid quote quote' _ found status id jobId approved requests _ resumed terms =>
      exact h.resume ⟨found, quote', requests, terms, jobId, approved⟩
        (by simp [status, openStatuses]) (by simp [openStatuses]) resumed
    | feePaid booking booking' _ _ _ _ _ _ requests created =>
      rw [requests]
      rcases created with ⟨hjobs, _⟩ | ⟨job, _, hinsert, _, _, hstatus, _⟩
      · rwa [hjobs]
      · exact h.insert hinsert (by simp [hstatus])

theorem requestInv_exec (h : RequestInv w.db.jobs w.db.workRequests)
    (hkeeps : KeepsRequests settings dir w op) :
    RequestInv (exec settings dir w op).db.jobs (exec settings dir w op).db.workRequests := by
  cases op with
  | payment op => exact requestInv_payment h (exec_visits settings w op)
  | dispatch op => exact requestInv_dispatch h hkeeps
  | createWorkRequest jobId payload workerId requestId now =>
    refine commit_induction (motive := fun db : Db => RequestInv db.jobs db.workRequests) h
      fun db' v hcreate => ?_
    obtain ⟨job, hof, hstatus, hnot, hmoved, hinsert, _⟩ := createWorkRequest_effect hcreate
    exact h.submit hof hstatus hnot hmoved hinsert
  | reviewWorkRequest requestId approve actorId now =>
    refine commit_induction (motive := fun db : Db => RequestInv db.jobs db.workRequests) h
      fun db' v hreview => ?_
    obtain ⟨_, request, hstatus, ⟨hmoved, hjobs, _⟩ | ⟨hmoved, hresumed⟩⟩ :=
      reviewWorkRequest_effect hreview
    · obtain ⟨request', hrequests, hterms, hof, hstatus'⟩ := hmoved.written
      rw [hrequests, hjobs]
      exact h.moveRequest hmoved.found hterms.id hof (by simp [hstatus, hstatus', openStatuses])
    · exact h.resume hmoved (by simp [hstatus, openStatuses]) (by simp [openStatuses]) hresumed
  | decideWorkRequest requestId approve customerId now =>
    refine commit_induction (motive := fun db : Db => RequestInv db.jobs db.workRequests) h
      fun db' v hdecide => ?_
    obtain ⟨_, request, job, hstatus, hjob, hof, ⟨hmoved, hjobs, _⟩ | ⟨hmoved, hgoes⟩⟩ :=
      decideWorkRequest_effect hdecide
    · obtain ⟨request', hrequests, hterms, hofRequest, hstatus'⟩ := hmoved.written
      rw [hrequests, hjobs]
      exact h.moveRequest hmoved.found hterms.id hofRequest
        (by simp [hstatus, hstatus', openStatuses])
    · have hopen : request.status ∈ openStatuses := by simp [hstatus, openStatuses]
      have hgoesOn : Transitioned w.db job .inProgress db' := by
        rcases hgoes with ⟨hprogress, _⟩ | htransition
        · have hmem : request ∈ w.db.workRequests.rows :=
            Table.mem_of_get? (hmoved.elim (·.found) (·.found))
          have hwaits := h.waits hmem hopen (hof ▸ hjob)
          rw [hprogress] at hwaits
          cases hwaits
        · exact htransition
      rcases hmoved with hmoved | hmoved
      · exact h.close hmoved hopen (by simp [openStatuses]) hof hgoesOn
      · exact h.close hmoved hopen (by simp [openStatuses]) hof hgoesOn
  | expireBookings now skipped => exact h

/-! ## Steps that bypass a request -/

/-- A job moved to the other side of the approval, past its request. -/
theorem side_of_agree {jobs : Table Job} {db : Db} (h : RequestInv jobs db.workRequests)
    {job job' : Job} (found : jobs.get? job.id = some job)
    (reached : db.jobs.get? job.id = some job')
    (hagree : ∀ job ∈ db.jobs.rows, JobAgrees db.workRequests job) :
    job'.status = .awaitingApproval ↔ job.status = .awaitingApproval := by
  have hid : job'.id = job.id := Table.key_of_get? reached
  have hside := (hagree job' (Table.mem_of_get? reached)).1
  rw [hid, h.1 job (Table.mem_of_get? found)] at hside
  rw [hside]
  unfold openIn
  split
  · next hwaits => simp [hwaits]
  · next hnot => simp [hnot]

theorem bypasses_of_agree {db db' : Db} {job : Job} {target : JobStatus}
    (h : RequestInv db.jobs db.workRequests) (hjob : db.jobs.get? job.id = some job)
    (heffect : Dispatch.TransitionEffect db job target db')
    (hagree : ∀ job ∈ db'.jobs.rows, JobAgrees db'.workRequests job) :
    Bypasses db job.id target := by
  intro other hother
  rw [hjob] at hother
  cases hother
  obtain ⟨job', hreached, hstatus⟩ := heffect.reached
  rw [← heffect.workRequests] at h
  have hside := side_of_agree h hjob hreached hagree
  rw [hstatus] at hside
  by_cases hwaits : job.status = .awaitingApproval
  · exact Or.inl (hwaits.trans (hside.mpr hwaits).symm)
  · exact Or.inr ⟨hwaits, fun htarget => hwaits (hside.mp htarget)⟩

theorem keepsRequests_of_agree (h : RequestInv w.db.jobs w.db.workRequests)
    (hagree : RequestsAgree (exec settings dir w op)) : KeepsRequests settings dir w op := by
  unfold KeepsRequests
  split
  · next jobId target actorId actorType reason now snapshotId earningId =>
    intro hok
    obtain ⟨db', v, htransition⟩ := eq_ok_of_isOk hok
    obtain ⟨job, hjob, heffect⟩ := Dispatch.transition_effect htransition
    have hid : job.id = jobId := Table.key_of_get? hjob
    subst hid
    refine bypasses_of_agree h hjob heffect ?_
    have hjobs := hagree.1
    simp only [exec, Dispatch.exec, commit_ok htransition] at hjobs
    exact hjobs
  · next jobId workerId actorId notesField notes target now snapshotId earningId =>
    intro hok
    obtain ⟨db', v, hnote⟩ := eq_ok_of_isOk hok
    obtain ⟨job, hjob, heffect⟩ := Dispatch.technicianNote_effect hnote
    have hid : job.id = jobId := Table.key_of_get? hjob
    subst hid
    refine bypasses_of_agree h hjob heffect ?_
    have hjobs := hagree.1
    simp only [exec, Dispatch.exec, commit_ok hnote] at hjobs
    exact hjobs
  · rintro ⟨job, status⟩ hforced hwaits
    obtain ⟨_, hfound, job', hjobs, hid, hstatus, _⟩ := exec_forced hforced
    have hsame : (exec settings dir w op).db.workRequests = w.db.workRequests := by
      cases op with
      | dispatch op => exact dispatch_workRequests settings dir w.db op
      | _ => cases hforced
    have hreached : (exec settings dir w op).db.jobs.get? job.id = some job' := by
      rw [hjobs]
      exact Table.get?_put_self hfound hid
    rw [← hsame] at h
    have hside := side_of_agree h hfound hreached hagree.1
    rw [hstatus] at hside
    exact forcedJob_bypasses hforced (hside.mpr hwaits)

/-! ## Runs -/

/-- Jobs and work requests agree in every state of a run exactly if no step of it moves a
job into the approval or out of it past its request. -/
theorem requests_jobs_agree (settings : Settings) (dir : Directory) (w : World) (ops : List Op)
    (hstart : RequestInv w.db.jobs w.db.workRequests) :
    Always (exec settings dir) RequestsAgree w ops ↔
      Along (exec settings dir) (KeepsRequests settings dir) w ops := by
  have hinv : ∀ w op, RequestInv w.db.jobs w.db.workRequests → KeepsRequests settings dir w op →
      RequestInv (exec settings dir w op).db.jobs (exec settings dir w op).db.workRequests :=
    fun w op h hkeeps => requestInv_exec h hkeeps
  constructor
  · exact along_of_always_inv (I := fun w => RequestInv w.db.jobs w.db.workRequests) hinv
      (fun w op h hagree => keepsRequests_of_agree h hagree) hstart
  · intro hkeeps
    exact (always_of_inv (I := fun w => RequestInv w.db.jobs w.db.workRequests) hinv hstart
      hkeeps).imp fun w h => h.agree

theorem fullVisit_agrees :
    Always (exec fullSettings Dispatch.visitDirectory) RequestsAgree fullWorld fullVisit :=
  (requests_jobs_agree fullSettings Dispatch.visitDirectory fullWorld fullVisit (by decide)).mpr
    (by decide)

/-- Additional work is requested while the job 20 is diagnosed, and the technician starts to
work before anyone has decided on it. -/
theorem start_leaves_request_open :
    ¬ Always (exec fullSettings Dispatch.visitDirectory) RequestsAgree fullWorld
      (feePaid ++ dispatched ++
        [.createWorkRequest 20
          { description := "belt"
            lineItems := [{ description := "belt", quantity := 2, unitPriceMinor := 1500 }] }
          6 70 6,
        .dispatch (.transition 20 .inProgress (some 9) "worker" none 7 0 0)]) := by
  decide

end Breero.Visits
