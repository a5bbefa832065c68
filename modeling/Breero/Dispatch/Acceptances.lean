import Breero.Dispatch.Offers

/-!
Whether the vendors can accept the offers of a match, and the operators assign a job.

* `acceptOffer_isOk` and `manualAssign_isOk` say when an assignment is made;
* `offers_acceptable_iff` says when each offer of a match can be accepted, and when a job that
  may be assigned by an operator is;
* `unreserved_offer_refused` is an offer that nobody can accept, and a job that no operator can
  assign.
-/

namespace Breero.Dispatch
open KeyedTable Transaction Jobs

variable {db db' : Db} {now : Instant} {offerId : Nat → Uuid}

/-! ## Candidates -/

theorem mem_jobCandidates {job : Job} {vendor : Vendor} {worker : Worker}
    (h : (vendor, worker) ∈ jobCandidates db job) :
    worker ∈ db.workers.rows ∧ vendor.id = worker.vendorId ∧ worker.available ∧
      ∀ id ∈ (db.bookings.get? job.bookingId).bind Booking.providerWorkerId, worker.id = id := by
  obtain ⟨other, hother, hsome⟩ := List.mem_filterMap.mp (List.mem_of_mem_take h)
  obtain ⟨found, hfound, hcandidate⟩ := Option.bind_eq_some_iff.mp hsome
  split at hcandidate
  · next hactive =>
    cases hcandidate
    exact ⟨hother, Table.key_of_get? hfound, hactive.2.2.1, hactive.2.2.2⟩
  · cases hcandidate

theorem jobCandidates_eq_nil {job : Job} :
    jobCandidates db job = [] ↔ offerableWorkers db job = [] := by
  have hvendors := jobCandidates_vendors db job
  constructor
  · intro hnone
    rw [hnone] at hvendors
    exact List.map_eq_nil_iff.mp hvendors.symm
  · intro hnone
    rw [hnone] at hvendors
    exact List.map_eq_nil_iff.mp hvendors

theorem mem_roundOffers {jobId : Uuid} {round : Nat} {candidates : List (Vendor × Worker)}
    {rank : Nat} {offer : DispatchOffer}
    (h : offer ∈ roundOffers jobId round now offerId candidates rank) :
    ∃ candidate ∈ candidates, ∃ n, offer = roundOffer jobId round now offerId candidate n := by
  induction candidates generalizing rank with
  | nil => simp [roundOffers] at h
  | cons candidate candidates ih =>
    rcases List.mem_cons.mp h with hfirst | hlater
    · exact ⟨candidate, List.mem_cons_self, rank, hfirst⟩
    · obtain ⟨other, hother, n, hoffer⟩ := ih hlater
      exact ⟨other, List.mem_cons_of_mem _ hother, n, hoffer⟩

/-! ## Assignments -/

/-- Nobody is assigned to the job. -/
def Unassigned (db : Db) (jobId : Uuid) : Prop :=
  ∀ assignment ∈ db.assignments.rows, assignment.status = .active → assignment.jobId ≠ jobId

theorem addAssignment_isOk {assignment : Assignment}
    (hfresh : db.assignments.get? assignment.id = none) :
    (∃ db', db.addAssignment assignment = .ok db') ↔ Unassigned db assignment.jobId := by
  obtain ⟨assignments, hinsert⟩ := Table.insert?_fresh hfresh
  simp only [Db.addAssignment, seq_committed, require_committed, orRaise_committed,
    return_committed, hinsert, Option.some.injEq, exists_eq_left']
  constructor
  · rintro ⟨_, _, hunassigned, _⟩
    exact hunassigned
  · intro hunassigned
    exact ⟨_, (), hunassigned, rfl⟩

theorem availableWorker_self {worker : Worker} (hworker : worker ∈ db.workers.rows)
    (havailable : worker.available) :
    availableWorker db (some worker.id) worker.vendorId = some worker := by
  have hfound : db.workers.get? worker.id = some worker := Table.get?_key hworker
  simp [availableWorker, hfound, havailable]

/-- An open job other than a new one can be assigned. -/
theorem assigned_isOk (job : Job) {actorId : Option Uuid} {actorType : String}
    {reason : Option String} (hopen : job.status ∈ [.created, .matching, .offered]) :
    (applyTransition db job .assigned actorId actorType reason [] now).isOk ↔
      job.status ≠ .created := by
  rw [applyTransition_isOk (by simp)]
  simp only [List.mem_cons, List.not_mem_nil, or_false] at hopen
  rcases hopen with hstatus | hstatus | hstatus <;> simp [hstatus, transitions]

/-- An available worker can accept the offer of a job exactly if its booking is reserved for
them and nobody is assigned to it. -/
theorem acceptOffer_isOk (offer : DispatchOffer) {worker : Worker} {job : Job}
    {workerId : Option Uuid} {actorId assignmentId : Uuid} (hworker : worker ∈ db.workers.rows)
    (havailable : worker.available)
    (hselected : (workerId.orElse fun _ => offer.workerId) = some worker.id)
    (hjob : db.jobs.get? offer.jobId = some job) (hstatus : job.status = .offered)
    (hfresh : db.assignments.get? assignmentId = none) :
    (acceptOffer db offer worker.vendorId workerId actorId now assignmentId).isOk ↔
      reservedFor db job worker.id ∧ Unassigned db job.id := by
  have hassignable : (some job).filter (·.status ∈ [.offered, .matching]) = some job := by
    simp [hstatus]
  simp only [acceptOffer, hselected, availableWorker_self hworker havailable, hjob, hassignable,
    seq_isOk, orRaise_committed, require_committed, Option.some.injEq, exists_eq_left',
    exists_const]
  refine and_congr_right fun _ => ?_
  constructor
  · rintro ⟨db1, hadd, _⟩
    exact (addAssignment_isOk hfresh).mp ⟨db1, hadd⟩
  · intro hunassigned
    let accepted : Assignment := {
      id := assignmentId, jobId := job.id, offerId := some offer.id, vendorId := worker.vendorId
      workerId := worker.id, status := .active, assignedBy := some actorId }
    obtain ⟨db1, hadd⟩ : ∃ db1, Db.addAssignment
        { db with offers := db.offers.put { offer with status := .accepted } } accepted =
          .ok db1 :=
      (addAssignment_isOk hfresh).mpr hunassigned
    refine ⟨db1, hadd, ?_⟩
    have hopen : job.status ∈ [.created, .matching, .offered] := by simp [hstatus]
    have hcreated : job.status ≠ .created := by simp [hstatus]
    let assigned := { job with vendorId := some worker.vendorId, workerId := some worker.id }
    obtain ⟨moved, hmoved⟩ := isOk_iff.mp ((assigned_isOk assigned hopen).mpr hcreated)
    exact ⟨moved, hmoved, rfl⟩

theorem manualAssign_isOk {worker : Worker} {job : Job} {actorId assignmentId : Uuid}
    {reason : String} (hworker : worker ∈ db.workers.rows) (havailable : worker.available)
    (hjob : db.jobs.get? job.id = some job)
    (hopen : job.status ∈ [.created, .matching, .offered])
    (hfresh : db.assignments.get? assignmentId = none) :
    (manualAssign db job.id worker.vendorId worker.id actorId reason now assignmentId).isOk ↔
      job.status ≠ .created ∧ reservedFor db job worker.id ∧ Unassigned db job.id := by
  simp only [manualAssign, hjob, availableWorker_self hworker havailable, hopen, seq_isOk,
    orRaise_committed, require_committed, Option.some.injEq, exists_eq_left', exists_const,
    true_and]
  constructor
  · rintro ⟨hreserved, db1, hadd, moved, hmoved, _⟩
    exact ⟨(assigned_isOk job hopen).mp (isOk_iff.mpr ⟨moved, hmoved⟩), hreserved,
      (addAssignment_isOk hfresh).mp ⟨db1, hadd⟩⟩
  · rintro ⟨hcreated, hreserved, hunassigned⟩
    let assignment : Assignment := {
      id := assignmentId, jobId := job.id, vendorId := worker.vendorId, workerId := worker.id
      status := .active, assignedBy := some actorId }
    obtain ⟨db1, hadd⟩ : ∃ db1, db.addAssignment assignment = .ok db1 :=
      (addAssignment_isOk hfresh).mpr hunassigned
    obtain ⟨moved, hmoved⟩ := isOk_iff.mp ((assigned_isOk job hopen).mpr hcreated)
    exact ⟨hreserved, db1, hadd, moved, hmoved, rfl⟩

/-! ## Offers -/

/-- A committed match. -/
structure Matched where
  db : Db
  job : Job
  found : db.jobs.get? job.id = some job
  actorId : Option Uuid
  now : Instant
  offerId : Nat → Uuid
  db' : Db
  job' : Job
  committed : matchJob db job.id actorId now offerId = .ok (db', job')

/-- Until it expires, each new offer is accepted when its vendor accepts it with its worker. -/
def Matched.Acceptable (m : Matched) : Prop :=
  ∀ offer ∈ m.db'.offers.rows, offer ∉ m.db.offers.rows → ∀ workerId ∈ [none, offer.workerId],
    ∀ (actorId : Uuid) (now : Instant) (assignmentId : Uuid), now < offer.expiresAt →
      m.db'.assignments.get? assignmentId = none →
        ∃ db'' accepted, decideOffer m.db' offer.id offer.vendorId true workerId actorId now
          assignmentId = .ok (db'', .ok accepted) ∧ accepted.status = .accepted

/-- The booking of the job, if there is one, is reserved for somebody. -/
def Reserved (db : Db) (job : Job) : Prop :=
  ∀ booking ∈ db.bookings.get? job.bookingId, booking.providerWorkerId ≠ none

theorem acceptOffer_accepted {offer v : DispatchOffer} {vendorId : Uuid} {workerId : Option Uuid}
    {actorId assignmentId : Uuid}
    (h : acceptOffer db offer vendorId workerId actorId now assignmentId = .ok (db', v)) :
    v.status = .accepted := by
  simp only [acceptOffer, seq_committed, orRaise_committed, require_committed, return_committed,
    Prod.exists, Prod.mk.injEq] at h
  obtain ⟨_, _, _, _, _, _, _, _, _, _, _, _, _, rfl⟩ := h
  rfl

/-- A pending offer is accepted in time exactly if the assignment can be made. -/
theorem decideOffer_accepts {offer : DispatchOffer} {workerId : Option Uuid}
    {actorId assignmentId : Uuid} (hoffer : db.offers.get? offer.id = some offer)
    (hpending : offer.status = .pending) (hnow : now < offer.expiresAt) :
    (∃ db'' accepted, decideOffer db offer.id offer.vendorId true workerId actorId now
        assignmentId = .ok (db'', .ok accepted) ∧ accepted.status = .accepted) ↔
      (acceptOffer db { offer with respondedAt := some now } offer.vendorId workerId actorId now
        assignmentId).isOk := by
  have hlate : ¬ offer.expiresAt ≤ now := Int.not_le.mpr hnow
  simp only [decideOffer, hoffer, hpending, seq_committed, orRaise_committed, require_committed,
    return_committed, Option.some.injEq, exists_eq_left', exists_const, hlate, if_false, not_true,
    Prod.exists, Prod.mk.injEq, Except.ok.injEq, true_and]
  constructor
  · rintro ⟨_, accepted, ⟨db1, v, heq, _⟩, _⟩
    exact isOk_of_eq heq
  · intro hok
    obtain ⟨db1, v, heq⟩ := eq_ok_of_isOk hok
    exact ⟨db1, v, ⟨db1, v, heq, rfl, rfl⟩, acceptOffer_accepted heq⟩

/-- What a match says of its new offers: they are to the candidates, for the job as it is now. -/
structure Matched.NewOffer (m : Matched) (offer : DispatchOffer) (worker : Worker) : Prop where
  stored : m.db'.offers.get? offer.id = some offer
  pending : offer.status = .pending
  vendor : offer.vendorId = worker.vendorId
  workerId : offer.workerId = some worker.id
  jobId : offer.jobId = m.job.id
  expires : offer.expiresAt = m.now + Bookings.ofMinutes 15
  exists_worker : worker ∈ m.db'.workers.rows
  available : worker.available
  reserved : ∀ booking ∈ m.db.bookings.get? m.job.bookingId,
    ∀ id ∈ booking.providerWorkerId, worker.id = id

theorem Matched.offered (m : Matched) (hsome : jobCandidates m.db m.job ≠ []) :
    Offered m.db m.job m.now m.offerId m.db' m.job' :=
  matchJob_offered m.committed m.found hsome

theorem Matched.newOffer (m : Matched) {candidate : Vendor × Worker} {n : Nat}
    (hcandidate : candidate ∈ jobCandidates m.db m.job)
    (hmem : roundOffer m.job.id (nextRound m.db m.job.id) m.now m.offerId candidate n ∈
      m.db'.offers.rows) :
    m.NewOffer (roundOffer m.job.id (nextRound m.db m.job.id) m.now m.offerId candidate n)
      candidate.2 := by
  obtain ⟨hworker, hvendor, havailable, hreserved⟩ := mem_jobCandidates hcandidate
  have hoffered := m.offered (List.ne_nil_of_mem hcandidate)
  refine ⟨Table.get?_key hmem, rfl, hvendor, rfl, rfl, rfl, ?_, havailable, ?_⟩
  · obtain ⟨jobs, jobEvents, offers, hrest⟩ := hoffered.rest
    rw [hrest]
    exact hworker
  · intro booking hbooking id hid
    exact hreserved id (Option.bind_eq_some_iff.mpr ⟨booking, hbooking, hid⟩)

/-- A new offer of a match is accepted exactly if its worker holds the booking and nobody is
assigned. -/
theorem Matched.accepts_iff (m : Matched) {offer : DispatchOffer} {worker : Worker}
    (hnew : m.NewOffer offer worker) (hsome : jobCandidates m.db m.job ≠ [])
    {workerId : Option Uuid} (hworkerId : workerId ∈ [none, offer.workerId])
    {actorId assignmentId : Uuid} {now : Instant} (hnow : now < offer.expiresAt)
    (hfresh : m.db'.assignments.get? assignmentId = none) :
    (∃ db'' accepted, decideOffer m.db' offer.id offer.vendorId true workerId actorId now
        assignmentId = .ok (db'', .ok accepted) ∧ accepted.status = .accepted) ↔
      reservedFor m.db m.job worker.id ∧ Unassigned m.db m.job.id := by
  have hoffered := m.offered hsome
  have hid : m.job'.id = m.job.id := hoffered.moved.id
  have hselected : (workerId.orElse fun _ => offer.workerId) = some worker.id := by
    simp only [List.mem_cons, List.not_mem_nil, or_false] at hworkerId
    rcases hworkerId with rfl | rfl
    · exact hnew.workerId
    · rw [hnew.workerId]
      rfl
  have hjob : m.db'.jobs.get? offer.jobId = some m.job' := by
    rw [hnew.jobId, ← hid]
    exact hoffered.stored
  rw [decideOffer_accepts hnew.stored hnew.pending hnow, hnew.vendor,
    acceptOffer_isOk { offer with vendorId := worker.vendorId, respondedAt := some now }
      hnew.exists_worker hnew.available hselected hjob hoffered.status hfresh]
  obtain ⟨jobs, jobEvents, offers, hrest⟩ := hoffered.rest
  rw [hrest, hid]
  unfold reservedFor Unassigned
  rw [hoffered.moved.bookingId]

/-- The offers of the round are new rows. -/
theorem Matched.round_new (m : Matched) (hsome : jobCandidates m.db m.job ≠ [])
    {offer : DispatchOffer}
    (h : offer ∈ roundOffers m.job.id (nextRound m.db m.job.id) m.now m.offerId
      (jobCandidates m.db m.job) 0) : offer ∈ m.db'.offers.rows ∧ offer ∉ m.db.offers.rows := by
  have hrows := (m.offered hsome).rows
  have hnodup := m.db'.offers.nodup
  rw [hrows, List.map_append, List.nodup_append] at hnodup
  refine ⟨hrows ▸ List.mem_append_right _ h, fun hold => ?_⟩
  exact hnodup.2.2 _ (List.mem_map_of_mem hold) _ (List.mem_map_of_mem h) rfl

theorem Matched.acceptable_iff (m : Matched) : m.Acceptable ↔
    offerableWorkers m.db m.job = [] ∨
      (Reserved m.db m.job ∧ Unassigned m.db m.job.id) := by
  rw [← jobCandidates_eq_nil]
  constructor
  · intro hacceptable
    cases hcandidates : jobCandidates m.db m.job with
    | nil => exact Or.inl rfl
    | cons candidate candidates =>
      have hcandidate : candidate ∈ jobCandidates m.db m.job := by simp [hcandidates]
      have hsome := List.ne_nil_of_mem hcandidate
      have hround : roundOffer m.job.id (nextRound m.db m.job.id) m.now m.offerId candidate 0 ∈
          roundOffers m.job.id (nextRound m.db m.job.id) m.now m.offerId
            (jobCandidates m.db m.job) 0 := by
        rw [hcandidates]
        exact List.mem_cons_self
      obtain ⟨hmem, hnew⟩ := m.round_new hsome hround
      have hoffer := m.newOffer hcandidate hmem
      obtain ⟨assignmentId, hfresh⟩ := Table.exists_fresh m.db'.assignments
      have hnow : m.now < m.now + Bookings.ofMinutes 15 :=
        Int.lt_add_of_pos_right m.now (by decide)
      have haccepted := hacceptable _ hmem hnew none (by simp) 0 m.now assignmentId hnow hfresh
      obtain ⟨hreserved, hunassigned⟩ :=
        (m.accepts_iff hoffer hsome (by simp) hnow hfresh).mp haccepted
      refine Or.inr ⟨fun booking hbooking hnone => ?_, hunassigned⟩
      have hworker := hreserved booking hbooking
      rw [hnone] at hworker
      cases hworker
  · intro hcondition offer hoffer hnew workerId hworkerId actorId now assignmentId hnow hfresh
    have hsome : jobCandidates m.db m.job ≠ [] := by
      intro hnone
      exact hnew ((matchJob_none m.committed m.found hnone).1 ▸ hoffer)
    obtain ⟨hreserved, hunassigned⟩ := hcondition.resolve_left hsome
    have hround := (m.offered hsome).rows ▸ hoffer
    rcases List.mem_append.mp hround with hold | hround
    · exact absurd hold hnew
    · obtain ⟨candidate, hcandidate, n, rfl⟩ := mem_roundOffers hround
      have hnewOffer := m.newOffer hcandidate hoffer
      refine (m.accepts_iff hnewOffer hsome hworkerId hnow hfresh).mpr ⟨?_, hunassigned⟩
      intro booking hbooking
      cases hprovider : booking.providerWorkerId with
      | none => exact absurd hprovider (hreserved booking hbooking)
      | some id => rw [hnewOffer.reserved booking hbooking id hprovider]

/-! ## Manual assignments -/

/-- The assignment of an available worker to a job that the operators may assign. -/
structure ManualCall where
  db : Db
  job : Job
  found : db.jobs.get? job.id = some job
  assignable : job.status ∈ [.created, .matching, .offered]
  worker : Worker
  mem : worker ∈ db.workers.rows
  available : worker.available
  actorId : Uuid
  reason : String
  now : Instant
  assignmentId : Uuid
  fresh : db.assignments.get? assignmentId = none

def ManualCall.Succeeds (call : ManualCall) : Prop :=
  (manualAssign call.db call.job.id call.worker.vendorId call.worker.id call.actorId call.reason
    call.now call.assignmentId).isOk

/-- Each offer of a match can be accepted exactly if there is none, or its booking is reserved
and its job unassigned; an available worker can be assigned exactly if they hold the booking,
and the job is unassigned and not a new one. -/
theorem offers_acceptable_iff (m : Matched) (call : ManualCall) :
    (m.Acceptable ↔ offerableWorkers m.db m.job = [] ∨
      (Reserved m.db m.job ∧ Unassigned m.db m.job.id)) ∧
    (call.Succeeds ↔ call.job.status ≠ .created ∧
      reservedFor call.db call.job call.worker.id ∧ Unassigned call.db call.job.id) :=
  ⟨m.acceptable_iff,
    manualAssign_isOk call.mem call.available call.found call.assignable call.fresh⟩

/-- The job 20, for whose booking nobody is reserved, and the round for it. -/
def unreservedDb : Db := { visitDb with jobs := createdJobs }

def unreservedMatch : Matched where
  db := unreservedDb
  job := createdJob
  found := rfl
  actorId := none
  now := 1
  offerId rank := 60 + rank
  db' := commit unreservedDb (matchJob unreservedDb 20 none 1 fun rank => 60 + rank)
  job' := { createdJob with status := .offered, version := 3 }
  committed := rfl

def unreservedOffer : DispatchOffer := {
  id := 60, jobId := 20, vendorId := 5, workerId := some 6, status := .pending, score := 1000
  expiresAt := 1 + Bookings.ofMinutes 15 }

theorem unreserved_decided : decideOffer unreservedMatch.db' 60 5 true none 8 2 21 =
    .error (.httpException 409 "Worker does not hold the reserved provider slot") := rfl

/-- The same job, which an operator assigns to the worker for whom it is reserved. -/
def createdCall : ManualCall where
  db := { unreservedDb with
    bookings := ⟨[{ visitBooking with providerWorkerId := some 6 }], by decide⟩ }
  job := createdJob
  found := rfl
  assignable := createdJob_matchable
  worker := { id := 6, vendorId := 5, status := .active }
  mem := List.mem_singleton.mpr rfl
  available := rfl
  actorId := 8
  reason := "nearest"
  now := 1
  assignmentId := 21
  fresh := rfl

theorem unreserved_offer_refused : ¬ unreservedMatch.Acceptable ∧ ¬ createdCall.Succeeds := by
  constructor
  · intro hacceptable
    obtain ⟨_, _, haccepted, _⟩ := hacceptable unreservedOffer (List.mem_singleton.mpr rfl)
      (List.not_mem_nil) none (by simp) 8 2 21 (by decide) rfl
    exact absurd (haccepted.symm.trans unreserved_decided) nofun
  · have hraised : manualAssign createdCall.db 20 5 6 8 "nearest" 1 21 =
        .error (.httpException 409 "Cannot transition job from CREATED to ASSIGNED") := rfl
    intro hsucceeds
    unfold ManualCall.Succeeds at hsucceeds
    exact absurd (hraised ▸ hsucceeds) nofun

end Breero.Dispatch
