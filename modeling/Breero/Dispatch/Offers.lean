import Breero.Dispatch.Writes

/-!
The offers of a match.

* `addOffers_committed`: a round is added exactly if its vendors are distinct and have no
  offer of the round yet;
* `matchJob_offered`: what a match writes for which somebody is available;
* `matches_iff` says when a match commits an offer for each candidate, and
  `two_workers_not_matched` is one that does not.
-/

namespace Breero.Dispatch
open KeyedTable Transaction Jobs

variable {db db' : Db} {jobId : Uuid} {round : Nat} {now : Instant} {offerId : Nat → Uuid}
  {candidates : List (Vendor × Worker)} {rank : Nat}

/-! ## Rounds -/

/-- The offer to the candidate of the rank. -/
def roundOffer (jobId : Uuid) (round : Nat) (now : Instant) (offerId : Nat → Uuid)
    (candidate : Vendor × Worker) (rank : Nat) : DispatchOffer := {
  id := offerId rank
  jobId
  vendorId := candidate.1.id
  workerId := some candidate.2.id
  status := .pending
  round
  score := 1000 - rank
  expiresAt := now + Bookings.ofMinutes 15 }

def roundOffers (jobId : Uuid) (round : Nat) (now : Instant) (offerId : Nat → Uuid) :
    List (Vendor × Worker) → Nat → List DispatchOffer
  | [], _ => []
  | candidate :: candidates, rank =>
    roundOffer jobId round now offerId candidate rank ::
      roundOffers jobId round now offerId candidates (rank + 1)

/-- No offer of the round is for the vendor. -/
def Unoffered (db : Db) (jobId : Uuid) (round : Nat) (vendorId : Uuid) : Prop :=
  ∀ other ∈ db.offers.rows,
    (other.jobId, other.vendorId, other.round) ≠ (jobId, vendorId, round)

theorem addOffers_cons {candidate : Vendor × Worker} :
    addOffers db jobId round now offerId (candidate :: candidates) rank = .ok db' ↔
      Unoffered db jobId round candidate.1.id ∧
        ∃ offers, db.offers.insert? (roundOffer jobId round now offerId candidate rank) =
            some offers ∧
          addOffers { db with offers } jobId round now offerId candidates (rank + 1) =
            .ok db' := by
  simp only [addOffers, Db.addOffer, seq_committed, require_committed, orRaise_committed,
    return_committed]
  constructor
  · rintro ⟨_, ⟨_, hunoffered, offers, hinsert, rfl⟩, hrest⟩
    exact ⟨hunoffered, offers, hinsert, hrest⟩
  · rintro ⟨hunoffered, offers, hinsert, hrest⟩
    exact ⟨_, ⟨(), hunoffered, offers, hinsert, rfl⟩, hrest⟩

/-- What a committed round writes. -/
theorem addOffers_rows (h : addOffers db jobId round now offerId candidates rank = .ok db') :
    ∃ offers, db' = { db with offers } ∧
      offers.rows = db.offers.rows ++ roundOffers jobId round now offerId candidates rank := by
  induction candidates generalizing db rank with
  | nil =>
    simp only [addOffers, return_committed] at h
    exact ⟨db.offers, h.symm, by simp [roundOffers]⟩
  | cons candidate candidates ih =>
    obtain ⟨_, offers, hinsert, hrest⟩ := addOffers_cons.mp h
    obtain ⟨all, rfl, hrows⟩ := ih hrest
    refine ⟨all, rfl, ?_⟩
    rw [hrows, (Table.insert?_eq_some.mp hinsert).2, roundOffers, List.append_assoc,
      List.singleton_append]

theorem unoffered_insert {offers : Table DispatchOffer} {candidate : Vendor × Worker}
    {vendorId : Uuid}
    (h : db.offers.insert? (roundOffer jobId round now offerId candidate rank) = some offers) :
    Unoffered { db with offers } jobId round vendorId ↔
      Unoffered db jobId round vendorId ∧ candidate.1.id ≠ vendorId := by
  simp only [Unoffered, Table.mem_insert h, or_imp, forall_and, forall_eq, roundOffer]
  simp

/-- A round with new ids is added exactly if no vendor of it is taken twice or has an offer of
the round. -/
theorem addOffers_committed (hids : Function.Injective offerId)
    (hfresh : ∀ n, rank ≤ n → db.offers.get? (offerId n) = none) :
    (∃ db', addOffers db jobId round now offerId candidates rank = .ok db') ↔
      (candidates.map fun candidate => candidate.1.id).Nodup ∧
        ∀ candidate ∈ candidates, Unoffered db jobId round candidate.1.id := by
  induction candidates generalizing db rank with
  | nil => simp [addOffers]
  | cons candidate candidates ih =>
    obtain ⟨offers, hinsert⟩ := Table.insert?_fresh
      (a := roundOffer jobId round now offerId candidate rank) (hfresh rank (Nat.le_refl rank))
    have hlater : ∀ n, rank + 1 ≤ n → offers.get? (offerId n) = none := by
      intro n hn
      have hne : offerId rank ≠ offerId n := fun hsame => by
        have := hids hsame
        omega
      exact (Table.get?_insert_ne hinsert hne).trans (hfresh n (by omega))
    have hrest : (∃ db', addOffers { db with offers } jobId round now offerId candidates
        (rank + 1) = .ok db') ↔ _ := ih hlater
    simp only [unoffered_insert hinsert] at hrest
    simp only [addOffers_cons, hinsert, Option.some.injEq, exists_eq_left', List.map_cons,
      List.nodup_cons, List.mem_map, List.forall_mem_cons, exists_and_left, hrest]
    constructor
    · rintro ⟨hfirst, hnodup, hothers⟩
      refine ⟨⟨?_, hnodup⟩, hfirst, fun other hother => (hothers other hother).1⟩
      rintro ⟨other, hother, hsame⟩
      exact (hothers other hother).2 hsame.symm
    · rintro ⟨⟨hdistinct, hnodup⟩, hfirst, hothers⟩
      refine ⟨hfirst, hnodup, fun other hother => ⟨hothers other hother, ?_⟩⟩
      intro hsame
      exact hdistinct ⟨other, hother, hsame.symm⟩

theorem le_foldl_max {ns : List Nat} {m n : Nat} (h : n ≤ m ∨ n ∈ ns) : n ≤ ns.foldl max m := by
  induction ns generalizing m with
  | nil => simpa using h
  | cons k ns ih =>
    rw [List.foldl_cons]
    apply ih
    rcases h with hle | hmem
    · exact Or.inl (le_trans hle (le_max_left m k))
    · rcases List.mem_cons.mp hmem with rfl | hmem
      · exact Or.inl (le_max_right m n)
      · exact Or.inr hmem

/-- `round_number`. -/
def nextRound (db : Db) (jobId : Uuid) : Nat :=
  ((offersForJob db jobId).map DispatchOffer.round).foldl max 0 + 1

/-- No earlier offer is of the next round. -/
theorem unoffered_next {vendorId : Uuid} : Unoffered db jobId (nextRound db jobId) vendorId := by
  intro other hother hsame
  simp only [Prod.mk.injEq] at hsame
  have hof : other ∈ offersForJob db jobId := by
    simp [offersForJob, hother, hsame.1]
  have hle : other.round ≤ ((offersForJob db jobId).map DispatchOffer.round).foldl max 0 :=
    le_foldl_max (Or.inr (List.mem_map_of_mem hof))
  have hround : other.round = nextRound db jobId := hsame.2.2
  unfold nextRound at hround
  omega

/-! ## Transitions -/

theorem applyTransition_isOk {job : Job} {target : JobStatus} {actorId : Option Uuid}
    {actorType : String} {reason : Option String} {metadata : Payload}
    (htarget : target ≠ .completed) :
    (applyTransition db job target actorId actorType reason metadata now).isOk ↔
      target = job.status ∨ target ∈ transitions job.status := by
  unfold applyTransition
  split
  · next hsame => simp [hsame, isOk_iff]
  · next hother =>
    simp only [seq_isOk, require_committed, onlyIf_committed, htarget, false_imp_iff, hother,
      false_or]
    constructor
    · rintro ⟨_, hallowed, _⟩
      exact hallowed
    · intro hallowed
      exact ⟨(), hallowed, (), trivial, rfl⟩

/-- What a transition writes of a database in which the job is found. -/
theorem applyTransition_written {job job' : Job} {target : JobStatus} {actorId : Option Uuid}
    {actorType : String} {reason : Option String} {metadata : Payload} {changed : Bool}
    (h : applyTransition db job target actorId actorType reason metadata now =
      .ok (db', job', changed)) (hfound : db.jobs.get? job.id = some job) :
    Moved job job' ∧ job'.status = target ∧ ∃ jobs jobEvents, db' = { db with jobs, jobEvents } ∧
      jobs.get? job'.id = some job' := by
  obtain ⟨hmoved, hstatus, _, _, hjobs⟩ := applyTransition_found h hfound
  have hstored : db'.jobs.get? job'.id = some job' := hjobs ▸ get?_put_moved hfound hmoved
  refine ⟨hmoved, hstatus, ?_⟩
  rcases Jobs.applyTransition_cases h with ⟨_, rfl, _, _⟩ | ⟨_, _, _, event, rfl⟩
  · exact ⟨_, _, rfl, hstored⟩
  · exact ⟨_, _, rfl, hstored⟩

/-! ## Matches -/

/-- The candidates of a job: of the worker for whom its booking is reserved, or of all. -/
def jobCandidates (db : Db) (job : Job) : List (Vendor × Worker) :=
  candidateWorkers db 10 ((db.bookings.get? job.bookingId).bind Booking.providerWorkerId)

/-- A match for which somebody is available writes the next round and the job. -/
structure Offered (db : Db) (job : Job) (now : Instant) (offerId : Nat → Uuid) (db' : Db)
    (job' : Job) : Prop where
  moved : Moved job job'
  status : job'.status = .offered
  stored : db'.jobs.get? job'.id = some job'
  rows : db'.offers.rows = db.offers.rows ++
    roundOffers job.id (nextRound db job.id) now offerId (jobCandidates db job) 0
  rest : ∃ jobs jobEvents offers, db' = { db with jobs, jobEvents, offers }

theorem matchJob_offered {job v : Job} {actorId : Option Uuid}
    (h : matchJob db job.id actorId now offerId = .ok (db', v))
    (found : db.jobs.get? job.id = some job) (hsome : jobCandidates db job ≠ []) :
    Offered db job now offerId db' v := by
  simp only [matchJob, found, seq_committed, orRaise_committed, require_committed,
    Option.some.injEq, exists_eq_left'] at h
  obtain ⟨_, _, h⟩ := h
  rw [if_neg (show ¬ candidateWorkers _ _ _ = [] from hsome)] at h
  simp only [seq_committed, return_committed, Prod.exists, Prod.mk.injEq] at h
  obtain ⟨db1, hoffers, db2, job2, _, hstarted, db3, job3, _, hoffered, rfl, rfl⟩ := h
  obtain ⟨offers, rfl, hrows⟩ := addOffers_rows hoffers
  have hfirst : Moved job job2 ∧ ∃ jobs jobEvents, db2 = { db with offers, jobs, jobEvents } ∧
      jobs.get? job2.id = some job2 := by
    split at hstarted
    · obtain ⟨hmoved, _, jobs, jobEvents, rfl, hstored⟩ := applyTransition_written hstarted found
      exact ⟨hmoved, jobs, jobEvents, rfl, hstored⟩
    · simp only [return_committed, Prod.mk.injEq] at hstarted
      obtain ⟨rfl, rfl, _⟩ := hstarted
      exact ⟨.refl job, _, _, rfl, found⟩
  obtain ⟨hmoved2, jobs2, jobEvents2, rfl, hfound2⟩ := hfirst
  obtain ⟨hmoved3, hstatus, jobs, jobEvents, rfl, hstored⟩ :=
    applyTransition_written hoffered hfound2
  exact ⟨hmoved2.trans hmoved3, hstatus, hstored, hrows, jobs, jobEvents, offers, rfl⟩

theorem matchJob_none {job v : Job} {actorId : Option Uuid}
    (h : matchJob db job.id actorId now offerId = .ok (db', v))
    (found : db.jobs.get? job.id = some job) (hnone : jobCandidates db job = []) :
    db'.offers = db.offers ∧ v.status = .matching := by
  simp only [matchJob, found, seq_committed, orRaise_committed, require_committed,
    Option.some.injEq, exists_eq_left'] at h
  obtain ⟨_, _, h⟩ := h
  rw [if_pos (show candidateWorkers _ _ _ = [] from hnone)] at h
  simp only [seq_committed, return_committed, Prod.exists, Prod.mk.injEq] at h
  obtain ⟨_, _, _, htransition, rfl, rfl⟩ := h
  obtain ⟨_, hstatus, jobs, jobEvents, rfl, _⟩ := applyTransition_written htransition found
  exact ⟨rfl, hstatus⟩

/-- The call of `match` for a job that can be matched, with the ids of new offers. -/
structure MatchCall where
  db : Db
  job : Job
  found : db.jobs.get? job.id = some job
  matchable : job.status ∈ [.created, .matching, .offered]
  actorId : Option Uuid
  now : Instant
  offerId : Nat → Uuid
  ids : Function.Injective offerId
  fresh : ∀ n, db.offers.get? (offerId n) = none

def MatchCall.answer (call : MatchCall) : Except Raised (Db × Job) :=
  matchJob call.db call.job.id call.actorId call.now call.offerId

/-- A job whose round is added can be moved to its offers. -/
theorem offered_isOk {job : Job} {actorId : Option Uuid} {metadata : Payload}
    (matchable : job.status ∈ [.created, .matching, .offered]) :
    (do
      let (db, job, _) ← (
        if job.status = .created then
          applyTransition db job .matching actorId "system" (some "matching_started") [] now
        else pure (db, job, false))
      let (db, job, _) ← applyTransition db job .offered actorId "system"
        (some "offers_created") metadata now
      return (db, job) : Except Raised (Db × Job)).isOk := by
  simp only [seq_isOk, Prod.exists]
  split
  · next hcreated =>
    have hfirst : (applyTransition db job .matching actorId "system" (some "matching_started")
        [] now).isOk :=
      (applyTransition_isOk (by simp)).mpr (Or.inr (by simp [hcreated, transitions]))
    obtain ⟨⟨db2, job2, changed⟩, hstarted⟩ := isOk_iff.mp hfirst
    obtain ⟨_, hstatus, _⟩ := applyTransition_moved hstarted
    have hsecond : (applyTransition db2 job2 .offered actorId "system" (some "offers_created")
        metadata now).isOk :=
      (applyTransition_isOk (by simp)).mpr (Or.inr (by simp [hstatus, transitions]))
    obtain ⟨⟨db3, job3, changed'⟩, hoffered⟩ := isOk_iff.mp hsecond
    exact ⟨db2, job2, changed, hstarted, db3, job3, changed', hoffered, rfl⟩
  · next hlater =>
    have hsecond : (applyTransition db job .offered actorId "system" (some "offers_created")
        metadata now).isOk := by
      apply (applyTransition_isOk (by simp)).mpr
      simp only [List.mem_cons, hlater, false_or, List.not_mem_nil, or_false] at matchable
      rcases matchable with hmatching | hoffered
      · exact Or.inr (by simp [hmatching, transitions])
      · exact Or.inl hoffered.symm
    obtain ⟨⟨db3, job3, changed'⟩, hoffered⟩ := isOk_iff.mp hsecond
    exact ⟨db, job, false, rfl, db3, job3, changed', hoffered, rfl⟩

/-- A match goes through exactly if its round can be added. -/
theorem matchJob_isOk (call : MatchCall) : call.answer.isOk ↔
    jobCandidates call.db call.job = [] ∨
      (addOffers call.db call.job.id (nextRound call.db call.job.id) call.now call.offerId
        (jobCandidates call.db call.job) 0).isOk := by
  unfold MatchCall.answer matchJob
  simp only [call.found, seq_isOk, orRaise_committed, require_committed, call.matchable,
    Option.some.injEq, exists_eq_left', exists_const, true_and]
  split
  · next hnone =>
    refine iff_of_true ?_ (Or.inl hnone)
    have htransition : (applyTransition call.db call.job .matching call.actorId "system"
        (some "no_candidates") [] call.now).isOk := by
      have hmatchable := call.matchable
      apply (applyTransition_isOk (by simp)).mpr
      simp only [List.mem_cons, List.not_mem_nil, or_false] at hmatchable
      rcases hmatchable with hjob | hjob | hjob <;> simp [hjob, transitions]
    obtain ⟨⟨db, job, changed⟩, heq⟩ := isOk_iff.mp htransition
    rw [heq]
    rfl
  · next hsome =>
    have hcandidates : jobCandidates call.db call.job ≠ [] := hsome
    simp only [hcandidates, false_or]
    rw [seq_isOk, isOk_iff]
    constructor
    · rintro ⟨db, hadd, _⟩
      exact ⟨db, hadd⟩
    · rintro ⟨db, hadd⟩
      exact ⟨db, hadd, offered_isOk call.matchable⟩

/-- Nobody is available, or each candidate has a new offer of the next round and the job is
offered. -/
def MatchCall.Matches (call : MatchCall) : Prop :=
  ∃ db' v, call.answer = .ok (db', v) ∧
    ((jobCandidates call.db call.job = [] ∧ db'.offers = call.db.offers ∧ v.status = .matching) ∨
      Offered call.db call.job call.now call.offerId db' v)

/-- An active worker who takes part, of an active vendor, and the one of the reservation if
there is one. -/
def Offerable (db : Db) (reserved : Option Uuid) (worker : Worker) : Prop :=
  (∃ vendor ∈ db.vendors.get? worker.vendorId, vendor.status = .active) ∧
    worker.status = .active ∧ worker.available ∧ ∀ id ∈ reserved, worker.id = id

instance (db : Db) (reserved : Option Uuid) : DecidablePred (Offerable db reserved) :=
  fun _ => inferInstanceAs (Decidable (_ ∧ _))

/-- The workers to whom the job would be offered. -/
def offerableWorkers (db : Db) (job : Job) : List Worker :=
  (db.workers.rows.filter fun worker =>
    Offerable db ((db.bookings.get? job.bookingId).bind Booking.providerWorkerId) worker).take 10

theorem jobCandidates_vendors (db : Db) (job : Job) :
    (jobCandidates db job).map (fun candidate => candidate.1.id) =
      (offerableWorkers db job).map Worker.vendorId := by
  unfold jobCandidates candidateWorkers offerableWorkers
  rw [List.map_take, List.map_take]
  congr 1
  generalize (db.bookings.get? job.bookingId).bind Booking.providerWorkerId = reserved
  induction db.workers.rows with
  | nil => rfl
  | cons worker workers ih =>
    rw [List.filterMap_cons, List.filter_cons]
    cases hvendor : db.vendors.get? worker.vendorId with
    | none => simpa [Offerable, hvendor] using ih
    | some vendor =>
      have hid : vendor.id = worker.vendorId := Table.key_of_get? hvendor
      by_cases hactive : vendor.status = .active ∧ worker.status = .active ∧ worker.available ∧
          ∀ id ∈ reserved, worker.id = id
      · have hofferable : Offerable db reserved worker :=
          ⟨⟨vendor, hvendor, hactive.1⟩, hactive.2⟩
        rw [Option.bind_some, if_pos hactive, if_pos (decide_eq_true hofferable), List.map_cons,
          List.map_cons, ih, hid]
      · have hnot : ¬ Offerable db reserved worker := by
          rintro ⟨⟨other, hother, hstatus⟩, hrest⟩
          rw [hvendor] at hother
          cases hother
          exact hactive ⟨hstatus, hrest⟩
        rw [Option.bind_some, if_neg hactive, if_neg (by simpa using hnot), ih]

theorem MatchCall.isOk_iff_nodup (call : MatchCall) : call.answer.isOk ↔
    ((offerableWorkers call.db call.job).map Worker.vendorId).Nodup := by
  have hround : (∃ db', addOffers call.db call.job.id (nextRound call.db call.job.id) call.now
      call.offerId (jobCandidates call.db call.job) 0 = .ok db') ↔ _ :=
    addOffers_committed call.ids fun n _ => call.fresh n
  rw [matchJob_isOk, isOk_iff, hround, ← jobCandidates_vendors]
  constructor
  · rintro (hnone | ⟨hnodup, _⟩)
    · simp [hnone]
    · exact hnodup
  · intro hnodup
    exact Or.inr ⟨hnodup, fun candidate _ => unoffered_next⟩

theorem MatchCall.matches_of_isOk (call : MatchCall) (hok : call.answer.isOk) : call.Matches := by
  obtain ⟨db', v, heq⟩ := eq_ok_of_isOk hok
  refine ⟨db', v, heq, ?_⟩
  by_cases hnone : jobCandidates call.db call.job = []
  · exact Or.inl ⟨hnone, matchJob_none heq call.found hnone⟩
  · exact Or.inr (matchJob_offered heq call.found hnone)

/-- A match keeps its law exactly if no two of the workers have one vendor. -/
theorem matches_iff (call : MatchCall) : call.Matches ↔
    ((offerableWorkers call.db call.job).map Worker.vendorId).Nodup := by
  rw [← call.isOk_iff_nodup]
  constructor
  · rintro ⟨db', v, heq, _⟩
    exact isOk_of_eq heq
  · exact call.matches_of_isOk

/-- A job whose booking is reserved for a worker is always matched. -/
theorem reserved_matches (call : MatchCall) {booking : Booking} {workerId : Uuid}
    (hbooking : call.db.bookings.get? call.job.bookingId = some booking)
    (hreserved : booking.providerWorkerId = some workerId) : call.Matches := by
  refine call.matches_of_isOk (call.isOk_iff_nodup.mpr ?_)
  have hone : (offerableWorkers call.db call.job).length ≤ 1 := by
    unfold offerableWorkers
    rw [hbooking, Option.bind_some, hreserved]
    refine le_trans (List.length_take_le' _ _) ?_
    rw [← List.countP_eq_length_filter]
    refine Table.countP_le_one workerId fun worker _ hworker => ?_
    exact (of_decide_eq_true hworker).2.2.2 workerId rfl
  cases hworkers : offerableWorkers call.db call.job with
  | nil => exact List.nodup_nil
  | cons worker workers =>
    rw [hworkers, List.length_cons] at hone
    have hnil : workers = [] := List.eq_nil_of_length_eq_zero (by omega)
    rw [hnil]
    exact List.nodup_singleton _

/-- The job 20 of the booking 2, for which nobody is reserved, and the offers 60, 61, ... -/
def createdJob : Job := {
  id := 20, bookingId := 2, customerId := some 1, serviceId := 3, addressId := 4
  status := .created, scheduledStart := Bookings.ofMinutes 540
  scheduledEnd := Bookings.ofMinutes 600 }

def createdJobs : Table Job := ⟨[createdJob], by decide⟩

theorem createdJob_matchable :
    createdJob.status ∈ [JobStatus.created, JobStatus.matching, JobStatus.offered] := by
  decide

def twoWorkersCall : MatchCall where
  db := { visitDb with workers := twoWorkers, jobs := createdJobs }
  job := createdJob
  found := rfl
  matchable := createdJob_matchable
  actorId := none
  now := 1
  offerId rank := 60 + rank
  ids _ _ h := by simpa using h
  fresh _ := rfl

theorem two_workers_not_matched : ¬ twoWorkersCall.Matches := by
  have hraised : twoWorkersCall.answer =
      .error (.integrityError "dispatch_offers_job_id_vendor_id_round_key") := rfl
  rintro ⟨_, _, hcommitted, _⟩
  rw [hraised] at hcommitted
  cases hcommitted

end Breero.Dispatch
