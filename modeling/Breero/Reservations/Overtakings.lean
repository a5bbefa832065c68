import Breero.Reservations.Overbooking
import Breero.Reservations.ReservedSlots

/-!
Calls that are overtaken between their second search and their commit.

* `recheck_mono`: a search that accepts a visit accepts it over less, too;
* `Writes.other_start`: under the lock of the slot, a call is overtaken by another start only;
* `Searched` says that the second search of a call accepts it still, over what it read;
* `NotOvertaken.counted`: a call is counted when it commits if all that its search would read
  then was read;
* `not_overtaken_never_overbooked`: the limits are kept in a run in which no call is overtaken.
-/

namespace Breero.Reservations
open KeyedTable Transaction Runs Windows Bookings Dispatch

variable {settings : Settings} {dir : Directory} {db db' : Db} {now : Instant} {w w' : World}
  {op : Op}

/-! ## A search over less -/

section
variable {service : Service} {address : Address} {zone : Zone} {start stop : Instant}
  {emergency : Bool} {less more : Load} {found : ProviderCandidate}

/-- Less work does not use more. -/
theorem usage_mono (hless : List.Subperm (Load.commitments less) (Load.commitments more))
    (hnonneg : ∀ c ∈ Load.commitments more, 0 ≤ c.minutes) (start stop : Instant) :
    (usage less start stop).1.jobCount + (usage less start stop).1.holdCount ≤
        (usage more start stop).1.jobCount + (usage more start stop).1.holdCount ∧
      (usage less start stop).1.reservedMinutes ≤ (usage more start stop).1.reservedMinutes ∧
      (usage less start stop).2 ≤ (usage more start stop).2 := by
  rw [usage_count, usage_count, usage_minutes, usage_minutes, usage_overlapping, usage_overlapping]
  exact ⟨Int.ofNat_le.mpr hless.length_le, sum_le_of_subperm hless hnonneg,
    Int.ofNat_le.mpr (hless.countP_le _)⟩

theorem candidate_mono {vendor : Vendor} {worker : Worker}
    (hless : List.Subperm (Load.commitments less) (Load.commitments more))
    (hnonneg : ∀ c ∈ Load.commitments more, 0 ≤ c.minutes)
    (h : candidate dir service address zone start stop emergency (fun _ _ => more) vendor worker =
      some found) :
    ∃ found', candidate dir service address zone start stop emergency (fun _ _ => less) vendor
        worker = some found' ∧ found'.professionalId = found.professionalId := by
  obtain ⟨hqualified, hschedule, current, hok, rfl⟩ := candidate_some_iff.mp h
  obtain ⟨hpositive, hasked, hjobs, hminutes, hatOnce⟩ :=
    ensureCapacity_admits.mp (isOk_of_eq hok)
  obtain ⟨hjobs', hminutes', hatOnce'⟩ := usage_mono hless hnonneg start stop
  have hadmits := ensureCapacity_admits.mpr
    ⟨hpositive, hasked, hjobs'.trans_lt hjobs, (Int.add_le_add_right hminutes' _).trans hminutes,
      hatOnce'.trans_lt hatOnce⟩
  obtain ⟨current', hok'⟩ := isOk_iff.mp hadmits
  exact ⟨_, candidate_some_iff.mpr ⟨hqualified, hschedule, current', hok', rfl⟩, rfl⟩

theorem candidates_mono {professionalId : Option Uuid} {results : List ProviderCandidate}
    (hless : List.Subperm (Load.commitments less) (Load.commitments more))
    (hnonneg : ∀ c ∈ Load.commitments more, 0 ≤ c.minutes)
    (h : candidates dir db service address start stop emergency professionalId (fun _ _ => more) =
      .ok results) :
    ∃ results', candidates dir db service address start stop emergency professionalId
        (fun _ _ => less) = .ok results' ∧
      ∀ found ∈ results, ∃ found' ∈ results', found'.professionalId = found.professionalId := by
  simp only [candidates, timezone, seq_committed, orRaise_committed, return_committed] at h ⊢
  obtain ⟨zone, hzone, rfl⟩ := h
  refine ⟨_, ⟨zone, hzone, rfl⟩, fun found hfound => ?_⟩
  rw [List.mem_insertionSort] at hfound
  obtain ⟨⟨vendor, worker⟩, hrow, hcandidate⟩ := List.mem_filterMap.mp hfound
  obtain ⟨found', hcandidate', hsame⟩ := candidate_mono hless hnonneg hcandidate
  refine ⟨found', ?_, hsame⟩
  rw [List.mem_insertionSort]
  exact List.mem_filterMap.mpr ⟨⟨vendor, worker⟩, hrow, hcandidate'⟩

/-- Searches for a visit count the same minutes for the same professional. -/
theorem candidates_minutes {ids ids' : Option Uuid} {loads loads' : Uuid → Day → Load}
    {results results' : List ProviderCandidate} {found' : ProviderCandidate}
    (h : candidates dir db service address start stop emergency ids loads = .ok results)
    (h' : candidates dir db service address start stop emergency ids' loads' = .ok results')
    (hfound : found ∈ results) (hfound' : found' ∈ results')
    (hsame : found'.professionalId = found.professionalId) :
    found'.capacityMinutes = found.capacityMinutes := by
  obtain ⟨_, _, worker, _, hworker, hvendor, _, hcandidate⟩ := candidates_mem h hfound
  obtain ⟨_, _, worker', _, hworker', hvendor', _, hcandidate'⟩ := candidates_mem h' hfound'
  obtain ⟨hid, hminutes, _⟩ := candidate_accepts hcandidate hvendor
  obtain ⟨hid', hminutes', _⟩ := candidate_accepts hcandidate' hvendor'
  have hone : worker' = worker :=
    Table.eq_of_key hworker' hworker (hid'.symm.trans (hsame.trans hid))
  rw [hminutes, hminutes', hone]

/-- A visit that is accepted is accepted over less. -/
theorem recheck_mono {work : Work}
    (hless : List.Subperm (Load.commitments less) (Load.commitments more))
    (hnonneg : ∀ c ∈ Load.commitments more, 0 ≤ c.minutes)
    (h : recheck dir db more work = .ok found) :
    ∃ found', recheck dir db less work = .ok found' ∧
      found'.capacityMinutes = found.capacityMinutes := by
  cases work with
  | hold attempt =>
    simp only [recheck, recheckHold, seq_committed, require_committed, return_committed] at h ⊢
    obtain ⟨_, ⟨refreshed, hrefreshed, hsome⟩, rfl⟩ := h
    obtain ⟨first, hfirst⟩ := List.exists_mem_of_ne_nil refreshed hsome
    obtain ⟨refreshed', hrefreshed', hstill⟩ := candidates_mono hless hnonneg hrefreshed
    obtain ⟨_, hfirst', _⟩ := hstill first hfirst
    exact ⟨_, ⟨(), ⟨refreshed', hrefreshed', List.ne_nil_of_mem hfirst'⟩, rfl⟩, rfl⟩
  | assign request booking =>
    simp only [recheck, recheckAssign, bookingCandidates, seq_committed, orRaise_committed] at h ⊢
    obtain ⟨results, ⟨address, haddress, service, hservice, hresults⟩, hfound⟩ := h
    obtain ⟨results', hresults', hstill⟩ := candidates_mono hless hnonneg hresults
    have hmem := List.mem_of_find?_eq_some hfound
    have hid : found.professionalId = request.professionalId := by
      simpa using List.find?_some hfound
    obtain ⟨other, hother, hsame⟩ := hstill found hmem
    -- the first one of the professional need not be the one that is known to be there
    have hsome : (results'.find? fun item =>
        item.professionalId = request.professionalId).isSome :=
      List.find?_isSome.mpr ⟨other, hother, decide_eq_true (hsame.trans hid)⟩
    obtain ⟨found', hfound'⟩ := Option.isSome_iff_exists.mp hsome
    have hid' : found'.professionalId = request.professionalId := by
      simpa using List.find?_some hfound'
    exact ⟨found', ⟨results', ⟨address, haddress, service, hservice, hresults'⟩, hfound'⟩,
      candidates_minutes hresults hresults' hmem (List.mem_of_find?_eq_some hfound')
        (hid'.trans hid.symm)⟩
  | convert request hold checkedAt => cases h
  | reschedule userId booking hold checkedAt => cases h
  | lapse holdId => cases h

/-- Of the database, a search over a load reads the professionals. -/
theorem recheck_congr {load : Load} (hworkers : db'.workers = db.workers)
    (hvendors : db'.vendors = db.vendors) (work : Work) :
    recheck dir db' load work = recheck dir db load work := by
  cases work <;>
    simp only [recheck, recheckHold, recheckAssign, bookingCandidates, candidates, hworkers,
      hvendors]

end

/-! ## Under the lock of the slot -/

theorem Call.lock_slot {call : Call} {visit : Visit} {load : Load} {candidate : ProviderCandidate}
    (phase : call.phase = .searched load candidate) (work : call.work.visit = some visit) :
    Lock.providerSlot visit.professionalId visit.start ∈ call.locks := by
  simp [Call.locks, phase, Work.slot, work]

/-- A hold or an assignment of the professional that is committed after the second search of
another call begins at another time. -/
theorem Writes.other_start {call other : Call} {converted : List (Uuid × Uuid)} {load : Load}
    {candidate : ProviderCandidate} {visit otherVisit : Visit}
    (hwrites : Writes settings dir w other op db' converted) (h : Exclusive w)
    (found : w.calls.get? other.id = some other) (hcall : call ∈ w.calls.rows)
    (hphase : call.phase = .searched load candidate) (hne : other ≠ call)
    (hvisit : call.work.visit = some visit) (hother : other.work.visit = some otherVisit)
    (hsame : otherVisit.professionalId = visit.professionalId) :
    otherVisit.start ≠ visit.start := by
  intro hstart
  have hmem := Table.mem_of_get? found
  have hlock := Call.lock_slot hphase hvisit
  have hsearched : ∃ load candidate, other.phase = .searched load candidate := by
    cases hwrites with
    | granted attempt load candidate hold phase => exact ⟨load, candidate, phase⟩
    | assigned request booking assigned load candidate phase => exact ⟨load, candidate, phase⟩
    | requested request hold checkedAt booking phase work =>
      rw [work] at hother
      cases hother
    | rescheduled userId booking hold checkedAt phase work =>
      rw [work] at hother
      cases hother
    | lapsed holdId phase work =>
      rw [work] at hother
      cases hother
  obtain ⟨otherLoad, otherCandidate, hphase'⟩ := hsearched
  have hlock' := Call.lock_slot hphase' hother
  rw [hsame, hstart] at hlock'
  exact hne (h other hmem call hcall _ hlock' hlock)

/-! ## What was searched -/

theorem assignTo_professionals {booking assigned : Booking} {candidate : ProviderCandidate}
    {request : AssignRequest} {jobId assignmentId : Uuid}
    (h : assignTo db booking candidate request now jobId assignmentId = .ok (db', assigned)) :
    db'.workers = db.workers ∧ db'.vendors = db.vendors := by
  simp only [assignTo, seq_committed, orRaise_committed, return_committed, Prod.exists,
    Prod.mk.injEq] at h
  obtain ⟨worker, _, db1, job, hjob, db2, hadd, rfl, _⟩ := h
  obtain ⟨_, assignments, _, rfl⟩ := addAssignment_ok hadd
  unfold assignedJob at hjob
  split at hjob
  · next own _ =>
    simp only [return_committed, Prod.mk.injEq] at hjob
    obtain ⟨rfl, _⟩ := hjob
    show (releaseActive db own.id now).workers = _ ∧ (releaseActive db own.id now).vendors = _
    unfold releaseActive
    split <;> exact ⟨rfl, rfl⟩
  · simp only [seq_committed, return_committed, Prod.mk.injEq] at hjob
    obtain ⟨_, hadded, rfl, _⟩ := hjob
    obtain ⟨_, jobs, _, rfl⟩ := Db.addJob_ok hadded
    exact ⟨rfl, rfl⟩

/-- No step changes the professionals. -/
theorem Step.professionals (hstep : Step settings dir w op w') :
    w'.db.workers = w.db.workers ∧ w'.db.vendors = w.db.vendors := by
  cases hstep with
  | waited => exact ⟨rfl, rfl⟩
  | ticked elapsed => exact ⟨rfl, rfl⟩
  | began id work calls opens free inserted => exact ⟨rfl, rfl⟩
  | moved call phase found moves => exact ⟨rfl, rfl⟩
  | committed call db converted found writes can =>
    cases writes with
    | granted attempt load candidate hold phase work past written =>
      obtain ⟨_, _, _, _, _, rfl⟩ := grantHold_ok written
      exact ⟨rfl, rfl⟩
    | assigned request booking assigned load candidate phase work written =>
      exact assignTo_professionals written
    | requested request hold checkedAt booking phase work written =>
      obtain ⟨hvendors, hworkers, _⟩ := finishRequest_ok written
      exact ⟨hworkers, hvendors⟩
    | rescheduled userId booking hold checkedAt phase work => exact ⟨rfl, rfl⟩
    | lapsed holdId phase work =>
      show (lapseHold w.db holdId).workers = _ ∧ (lapseHold w.db holdId).vendors = _
      unfold lapseHold
      split <;> exact ⟨rfl, rfl⟩
  | transacted db writes can =>
    cases writes with
    | released written =>
      rcases releaseHold_ok written with rfl | ⟨hold, _, _, _, rfl⟩ <;> exact ⟨rfl, rfl⟩
    | expired => exact ⟨rfl, rfl⟩

/-- The second search accepts a call that it has accepted still, over the load that it read. -/
def Searched (dir : Directory) (w : World) : Prop :=
  ∀ call ∈ w.calls.rows, ∀ load candidate, call.phase = .searched load candidate →
    recheck dir w.db load call.work = .ok candidate ∧ ∀ c ∈ Load.commitments load, 0 ≤ c.minutes

theorem Moves.accepted {call : Call} {load : Load} {candidate : ProviderCandidate}
    (h : Moves dir w call (.searched load candidate)) (hminutes : MinutesChecked w.db.holds) :
    recheck dir w.db load call.work = .ok candidate ∧
      ∀ c ∈ Load.commitments load, 0 ≤ c.minutes := by
  cases h with
  | searched visit jobs candidate phase work checked =>
    refine ⟨checked, fun c hc => ?_⟩
    rcases List.mem_append.mp hc with hc | hc
    · obtain ⟨hold, hhold, rfl⟩ := List.mem_map.mp hc
      unfold holdsFor at hhold
      cases hday : dayAt dir visit.addressId visit.start with
      | none => simp [hday] at hhold
      | some day =>
        rw [hday] at hhold
        exact (hminutes hold (List.mem_filter.mp hhold).1).le
    · obtain ⟨job, _, rfl⟩ := List.mem_map.mp hc
      exact windowMinutes_nonneg _ _

theorem Searched.step (h : Searched dir w) (hminutes : MinutesChecked w.db.holds)
    (hstep : Step settings dir w op w') : Searched dir w' := by
  obtain ⟨hworkers, hvendors⟩ := hstep.professionals
  have hcongr : ∀ load work, recheck dir w'.db load work = recheck dir w.db load work :=
    fun load work => recheck_congr hworkers hvendors work
  intro call hcall load candidate hphase
  rw [hcongr]
  cases hstep with
  | waited => exact h call hcall load candidate hphase
  | ticked elapsed => exact h call hcall load candidate hphase
  | began id work calls opens free inserted =>
    rcases (Table.mem_insert inserted).mp hcall with hcall | rfl
    · exact h call hcall load candidate hphase
    · cases hphase
  | moved other phase found moves =>
    rcases Table.mem_put.mp hcall with ⟨rfl, _⟩ | ⟨hcall, _⟩
    · cases hphase
      exact moves.accepted hminutes
    · exact h call hcall load candidate hphase
  | committed other db converted found writes can =>
    rcases Table.mem_put.mp hcall with ⟨rfl, _⟩ | ⟨hcall, _⟩
    · cases hphase
    · exact h call hcall load candidate hphase
  | transacted db writes can => exact h call hcall load candidate hphase

/-! ## At the commit -/

/-- All that the search of the call would read now was read, and its visit takes no more of
the day than was asked for. -/
def UpToDate (dir : Directory) (w : World) (call : Call) : Prop :=
  ∀ load candidate, call.phase = .searched load candidate → ∀ visit ∈ call.work.visit,
    Load.commitments (loadFor dir w.db w.clock visit) ⊆ Load.commitments load ∧
      call.work.minutes ≤ candidate.capacityMinutes ∧ InItsDay dir w visit

/-- No hold and no assignment is committed that another commit has overtaken. -/
def NotOvertaken (dir : Directory) (w : World) : Op → Prop
  | .grantHold id .. => ∀ call ∈ w.calls.get? id, UpToDate dir w call
  | .finishAssign id .. => ∀ call ∈ w.calls.get? id, UpToDate dir w call
  | _ => True

/-- A booking has one job at most, so that no commitment is read twice. -/
theorem load_nodup (hone : OneJob db.jobs) (visit : Visit) :
    (Load.commitments (loadFor dir db now visit)).Nodup := by
  unfold loadFor jobsFor holdsFor
  cases dayAt dir visit.addressId visit.start with
  | none => exact List.nodup_nil
  | some day =>
    refine List.nodup_append.mpr ⟨?_, ?_, ?_⟩
    · refine List.Nodup.map_on ?_ (db.holds.nodup.of_map.filter _)
      intro hold hhold other hother hsame
      refine Table.eq_of_key (List.mem_filter.mp hhold).1 (List.mem_filter.mp hother).1 ?_
      exact Source.hold.inj (congrArg Commitment.source hsame)
    · refine List.Nodup.map_on ?_ (db.jobs.nodup.of_map.filter _)
      intro job hjob other hother hsame
      exact hone other (List.mem_filter.mp hother).1 job (List.mem_filter.mp hjob).1
        (Source.booking.inj (congrArg Commitment.source hsame))
    · intro c hc c' hc' heq
      obtain ⟨hold, _, rfl⟩ := List.mem_map.mp hc
      obtain ⟨job, _, rfl⟩ := List.mem_map.mp hc'
      cases congrArg Commitment.source heq

theorem UpToDate.stillAccepted {call : Call} {load : Load} {candidate : ProviderCandidate}
    (h : UpToDate dir w call) (hsearched : Searched dir w) (hone : OneJob w.db.jobs)
    (hcall : call ∈ w.calls.rows) (hphase : call.phase = .searched load candidate) :
    StillAccepted dir w call.work := by
  obtain ⟨hrecheck, hnonneg⟩ := hsearched call hcall load candidate hphase
  intro visit hvisit
  obtain ⟨hread, hminutes, hinside⟩ := h load candidate hphase visit hvisit
  have hless := List.subperm_of_subset (load_nodup hone visit) hread
  obtain ⟨found, hagain, hsame⟩ := recheck_mono hless hnonneg hrecheck
  refine ⟨?_, hinside⟩
  rw [acceptedNow, hagain]
  exact decide_eq_true (hminutes.trans_eq hsame.symm)

/-- A call that is not overtaken is counted. -/
theorem NotOvertaken.counted (h : NotOvertaken dir w op) (hsearched : Searched dir w)
    (hone : OneJob w.db.jobs) : Counted dir w op := by
  cases op with
  | grantHold id now holdId =>
    intro hgrants call hget
    have hcall := Table.mem_of_get? hget
    rw [grants, hget, Option.any_some] at hgrants
    split at hgrants
    · next phase work => exact (h call hget).stillAccepted hsearched hone hcall phase
    · cases hgrants
  | finishAssign id now jobId assignmentId =>
    intro hassigns call hget
    have hcall := Table.mem_of_get? hget
    rw [assigns, hget, Option.any_some] at hassigns
    split at hassigns
    · next phase work => exact (h call hget).stillAccepted hsearched hone hcall phase
    · cases hassigns
  | _ => trivial

/-- No professional is overbooked in a run in which no call is overtaken between its second
search and its commit. -/
theorem not_overtaken_never_overbooked (settings : Settings) (dir : Directory) (db : Db)
    (clock : Instant) (ops : List Op) (hstart : CommitmentsInv dir db clock)
    (hupToDate : Along (execOnPath settings dir) (NotOvertaken dir) { db, clock } ops) :
    Always (execOnPath settings dir) (fun w => NotOverbooked dir w.db w.clock) { db, clock }
      ops := by
  have hinv : OverbookingInv dir { db, clock } ∧ Searched dir { db, clock } :=
    ⟨.start hstart, fun call hcall => absurd hcall List.not_mem_nil⟩
  refine (always_of_inv (I := fun w => OverbookingInv dir w ∧ Searched dir w) ?_ hinv
    hupToDate).imp fun _ h => h.1.commitments.kept
  intro w op h hupToDate
  unfold execOnPath
  split
  · next hpath =>
    have hstep := exec_step settings dir w op
    exact ⟨h.1.step hstep hpath (hupToDate.counted h.2 h.1.commitments.jobs.one),
      h.2.step h.1.commitments.minutes hstep⟩
  · exact h

end Breero.Reservations
