import Breero.Booking.PublicSearch
import Breero.Reservations.Accounts
import Breero.Reservations.BothPaths
import Breero.Reservations.Overbooking

/-!
The capacity that a booking takes, as it is held, requested, moved and assigned.

* `Effect` says that a call rewrites the account of one booking at most;
* `tracked_of_follows`: after a call that leaves a hold or the window of a job behind, `_usage`
  does not follow the booking;
* `accounts_follow`: it follows every booking in a run without such a call, and in no other
  run, where no window is empty;
* `old_hold_still_counts` is a run with such a call.
-/

namespace Breero.Reservations.Accounting
open KeyedTable Transaction Runs Bookings Dispatch

/-! ## The calls -/

inductive Op
  | tick (elapsed : Nat)
  | createHold (request : HoldRequest) (holdId : Uuid)
  | request (request : BookingRequestCreate) (authenticatedUser : Option Uuid)
      (subject : Except Raised (Option String)) (ids : RequestIds)
  | release (holdId : Uuid) (bookingSession : String)
  | getHold (holdId : Uuid) (bookingSession : String)
  | expireStale
  | reschedule (userId bookingId holdId : Uuid) (bookingSession : String)
  | cancel (userId bookingId : Uuid)
  | assign (request : AssignRequest) (jobId assignmentId : Uuid)
  | automaticAssign (bookingId actorId jobId assignmentId : Uuid)
  | unassign (bookingId actorId : Uuid) (reason : String)

def Op.elapsed : Op → Nat
  | .tick elapsed => elapsed
  | _ => 0

/-- What a call commits, and the booking that it rests on a hold. -/
def transact (settings : Settings) (dir : Directory) (w : World) :
    Op → Except Raised (Db × Option (Uuid × Uuid))
  | .tick _ => return (w.db, none)
  | .createHold request holdId => do
    let (db, _) ← createAt settings dir w.db request w.clock holdId
    return (db, none)
  | .request request authenticatedUser subject ids => do
    match ← beginRequest settings w.db request w.clock with
    | .inl _ => return (w.db, none)
    | .inr hold => do
      let (db, booking) ← finishRequest settings dir w.db request hold w.clock authenticatedUser
        subject ids
      return (db, some (booking.id, hold.id))
  | .release holdId bookingSession => do
    let (db, _) ← releaseHold settings w.db holdId bookingSession w.clock
    return (db, none)
  | .getHold holdId bookingSession => do
    let (_, lapsed) ← Bookings.getHold settings w.db holdId bookingSession w.clock
    return (if lapsed then lapseHold w.db holdId else w.db, none)
  | .expireStale => return (Bookings.expireStale w.db w.clock, none)
  | .reschedule userId bookingId holdId bookingSession => do
    let (db, booking) ← rescheduleBooking settings w.db userId bookingId holdId bookingSession
      w.clock
    return (db, some (booking.id, holdId))
  | .cancel userId bookingId => do
    let (db, _) ← cancelBooking w.db userId bookingId w.clock
    return (db, none)
  | .assign request jobId assignmentId => do
    let (db, _) ← Dispatch.assign settings dir w.db request w.clock jobId assignmentId
    return (db, none)
  | .automaticAssign bookingId actorId jobId assignmentId => do
    let (db, _) ← Dispatch.automaticAssign settings dir w.db bookingId actorId w.clock jobId
      assignmentId
    return (db, none)
  | .unassign bookingId actorId reason => do
    let (db, _) ← Dispatch.unassign w.db bookingId actorId reason w.clock
    return (db, none)

def exec (settings : Settings) (dir : Directory) (w : World) (op : Op) : World :=
  match transact settings dir w op with
  | .ok (db, rested) =>
    { db, clock := w.clock + op.elapsed, rests := rested.toList ++ w.rests }
  | .error _ => w
/-! ## What a call does -/

variable {w w' : World} {bookingId : Uuid}

/-- At most one booking's account is rewritten. -/
inductive Effect (w w' : World) : Prop
  | same (accounts : ∀ id, w'.account id = w.account id)
  | rewritten (bookingId : Uuid) (others : ∀ id, id ≠ bookingId → w'.account id = w.account id)
      (own : Rewrite (w.account bookingId) (w'.account bookingId))

theorem Effect.sound (h : Effect w w') (hsound : ∀ id, Sound (w.account id)) (id : Uuid) :
    Sound (w'.account id) := by
  cases h with
  | same accounts => exact accounts id ▸ hsound id
  | rewritten bookingId others own =>
    by_cases hid : id = bookingId
    · exact hid ▸ own.sound (hsound bookingId)
    · exact others id hid ▸ hsound id

/-! ### Calls that rewrite no account -/

/-- A hold that was not converted has no booking. -/
theorem free_of_sound (hsound : ∀ id, Sound (w.account id)) {hold : BookingCapacityHold}
    (hmem : hold ∈ w.db.holds.rows) (hstatus : hold.status ≠ .converted) :
    hold.bookingId = none := by
  cases hof : hold.bookingId with
  | none => rfl
  | some id =>
    have hown : hold ∈ (w.account id).holds := List.mem_filter.mpr ⟨hmem, by simp [hof]⟩
    exact absurd ((hsound id).converted hold hown) hstatus

/-- Only holds without a booking are written. -/
structure Quiet (w w' : World) : Prop where
  bookings : w'.db.bookings = w.db.bookings
  jobs : w'.db.jobs = w.db.jobs
  holds : ∀ id, ownHolds w'.db.holds id = ownHolds w.db.holds id
  rests : w'.rests = w.rests

theorem Quiet.effect (h : Quiet w w') : Effect w w' := by
  refine .same fun id => ?_
  simp only [World.account, h.bookings, h.jobs, h.holds id, h.rests]

variable {settings : Settings} {dir : Directory} {db' : Db} {now : Instant}

theorem createAt_ok {db : Db} {request : HoldRequest} {holdId : Uuid} {v : BookingCapacityHold}
    (h : createAt settings dir db request now holdId = .ok (db', v)) :
    db' = db ∨ ∃ attempt holds auditLogs, v = newHold attempt now holdId ∧
      db.holds.insert? v = some holds ∧ db' = { db with holds, auditLogs } := by
  simp only [createAt, seq_committed] at h
  obtain ⟨existing | attempt, _, h⟩ := h
  · simp only [return_committed, Prod.mk.injEq] at h
    exact .inl h.1.symm
  · simp only [seq_committed] at h
    obtain ⟨_, _, hgrant⟩ := h
    obtain ⟨hnew, holds, auditLogs, hinsert, _, hdb⟩ := grantHold_ok hgrant
    exact .inr ⟨attempt, holds, auditLogs, hnew, hinsert, hdb⟩

theorem createAt_holds {request : HoldRequest} {holdId : Uuid} {v : BookingCapacityHold}
    (h : createAt settings dir w.db request now holdId = .ok (db', v)) :
    db'.bookings = w.db.bookings ∧ db'.jobs = w.db.jobs ∧
      ∀ id, ownHolds db'.holds id = ownHolds w.db.holds id := by
  rcases createAt_ok h with rfl | ⟨attempt, holds, auditLogs, rfl, hinsert, rfl⟩
  · exact ⟨rfl, rfl, fun _ => rfl⟩
  · exact ⟨rfl, rfl, fun id => Table.filter_insert hinsert (by simp [newHold])⟩

theorem releaseHold_holds (hsound : ∀ id, Sound (w.account id)) {holdId : Uuid}
    {bookingSession : String} {v : Unit}
    (h : releaseHold settings w.db holdId bookingSession now = .ok (db', v)) (id : Uuid) :
    ownHolds db'.holds id = ownHolds w.db.holds id := by
  rcases releaseHold_ok h with rfl | ⟨hold, _, hget, hheld, rfl⟩
  · rfl
  · have hfree := free_of_sound hsound (Table.mem_of_get? hget) (by rw [hheld]; decide)
    exact ownHolds_put (Table.get?_found hget) rfl hfree (by simp [hfree])

/-- A `get` expires a hold that is held. -/
theorem getHold_holds (hsound : ∀ id, Sound (w.account id)) {holdId : Uuid}
    {bookingSession : String} {hold : BookingCapacityHold} {lapsed : Bool}
    (h : Bookings.getHold settings w.db holdId bookingSession now = .ok (hold, lapsed))
    (hlapsed : lapsed = true) (id : Uuid) :
    ownHolds (lapseHold w.db holdId).holds id = ownHolds w.db.holds id := by
  obtain ⟨hget, hheld⟩ := getHold_ok h
  have hfree := free_of_sound hsound (Table.mem_of_get? hget) (by rw [hheld hlapsed]; decide)
  simp only [lapseHold, hget]
  exact ownHolds_put (Table.get?_found hget) rfl hfree (by simp [hfree])

theorem expireStale_holds (hsound : ∀ id, Sound (w.account id)) (id : Uuid) :
    ownHolds (Bookings.expireStale w.db now).holds id = ownHolds w.db.holds id := by
  refine Table.filter_map_outside fun hold hmem => ?_
  unfold staleExpired
  split
  · next hstale =>
    have hfree := free_of_sound hsound hmem (by rw [hstale.1]; decide)
    exact Or.inr (by simp [hfree])
  · exact Or.inl rfl

/-- The holds that a customer's write releases: none, as a hold that is held has no booking. -/
theorem releaseHolds_holds (hsound : ∀ id, Sound (w.account id)) (kept : Option Uuid)
    {db : Db} (hholds : db.holds = w.db.holds) :
    (releaseHolds db bookingId kept now).holds = w.db.holds := by
  have hkeys : ∀ hold, Keyed.key (holdReleased bookingId kept now hold) = Keyed.key hold := by
    intro hold
    unfold holdReleased
    split <;> rfl
  have hself : db.holds.update (holdReleased bookingId kept now) hkeys = db.holds := by
    refine Table.update_self hkeys fun hold hmem => ?_
    rw [hholds] at hmem
    unfold holdReleased
    split
    · next hheld =>
      have hfree := free_of_sound hsound hmem (by rw [hheld.2.2]; decide)
      rw [hfree] at hheld
      cases hheld.1
    · rfl
  exact hself.trans hholds

/-! ### Calls that put a booking on a hold -/

def convertedTo (hold : BookingCapacityHold) (bookingId : Uuid) (now : Instant) :
    BookingCapacityHold :=
  { hold with bookingId := some bookingId, status := .converted, convertedAt := some now }

/-- The booking is put on the hold, and nothing is written of the others. -/
theorem account_converted {booking : Booking} {hold : BookingCapacityHold}
    (found : w.db.holds.get? hold.id = some hold) (free : hold.bookingId = none)
    (start : hold.slotStartUtc = booking.windowStart) (stop : hold.slotEndUtc = booking.windowEnd)
    (worker : booking.providerWorkerId = none)
    (bookings : ∀ other, other ≠ bookingId → w'.db.bookings.get? other = w.db.bookings.get? other)
    (booking' : w'.db.bookings.get? bookingId = some booking) (jobs : w'.db.jobs = w.db.jobs)
    (holds : w'.db.holds = w.db.holds.put (convertedTo hold bookingId now))
    (rests : w'.rests = (bookingId, hold.id) :: w.rests) :
    (∀ other, other ≠ bookingId → w'.account other = w.account other) ∧
      Rested (w.account bookingId) (w'.account bookingId) booking
        (convertedTo hold bookingId now) := by
  constructor
  · intro other hother
    have hholds : ownHolds (w.db.holds.put (convertedTo hold bookingId now)) other =
        ownHolds w.db.holds other :=
      ownHolds_put found rfl free (by simp [convertedTo, Ne.symm hother])
    have hrests : List.lookup other ((bookingId, hold.id) :: w.rests) = w.rests.lookup other := by
      rw [List.lookup_cons, beq_false_of_ne hother]
    simp only [World.account, bookings other hother, jobs, holds, hholds, rests, hrests]
  · refine ⟨booking', ?_, ?_, ?_, rfl, start, stop, worker⟩
    · simp only [World.account, jobs]
    · simp only [World.account, holds]
      exact ownHolds_convert found rfl free rfl
    · simp only [World.account, rests, List.lookup_cons, BEq.rfl]
      rfl

theorem request_rested (hsound : ∀ id, Sound (w.account id)) {request : BookingRequestCreate}
    {hold : BookingCapacityHold} {authenticatedUser : Option Uuid}
    {subject : Except Raised (Option String)} {ids : RequestIds} {booking : Booking}
    (begun : beginRequest settings w.db request now = .ok (.inr hold))
    (finished : finishRequest settings dir w.db request hold now authenticatedUser subject ids =
      .ok (db', booking)) (committed : w'.db = db')
    (rests : w'.rests = (booking.id, hold.id) :: w.rests) : Effect w w' := by
  obtain ⟨hrow, hheld, _⟩ := beginRequest_ok begun
  obtain ⟨_, _, hjobs, ⟨customerId, currency, rfl⟩, hinsert, hholds⟩ := finishRequest_ok finished
  have hfree := free_of_sound hsound (Table.mem_of_get? hrow) (by rw [hheld]; decide)
  subst committed
  obtain ⟨hothers, hrested⟩ := account_converted hrow hfree rfl rfl rfl
    (fun other hother => Table.get?_insert_ne hinsert (Ne.symm hother))
    (Table.get?_insert_self hinsert) hjobs hholds rests
  refine .rewritten _ hothers (.rested _ _ hrested ?_)
  -- the booking is new
  have hnew : (w.account ids.bookingId).booking = none := by
    refine Table.get?_eq_none.mpr fun other hother => ?_
    exact Table.key_fresh hinsert hother
  obtain ⟨hjobless, hholdless⟩ := (hsound ids.bookingId).known hnew
  refine ⟨fun _ => hholdless, fun job hjob => ?_⟩
  have hjob : job ∈ (w.account ids.bookingId).jobs := hjob
  rw [hjobless] at hjob
  cases hjob

theorem reschedule_ok {userId bookingId holdId : Uuid} {bookingSession : String} {moved : Booking}
    (hsound : ∀ id, Sound (w.account id))
    (h : rescheduleBooking settings w.db userId bookingId holdId bookingSession now =
      .ok (db', moved)) :
    ∃ booking hold, w.db.bookings.get? bookingId = some booking ∧
      w.db.holds.get? holdId = some hold ∧ hold.status = .held ∧
      moved = rescheduled booking hold ∧ db'.bookings = w.db.bookings.put moved ∧
      db'.jobs = w.db.jobs ∧ db'.holds = w.db.holds.put { hold with
        bookingId := some booking.id, status := .converted, convertedAt := some now } := by
  obtain ⟨booking, hold, howned, _, hget, hheld, hwritten⟩ := rescheduleBooking_ok h
  cases hwritten
  obtain ⟨hbooking, hid⟩ := ownedBooking_ok howned
  refine ⟨booking, hold, hid ▸ hbooking, hget, hheld, rfl, rfl, rfl, ?_⟩
  show (releaseHolds w.db booking.id (some hold.id) now).holds.put _ = _
  rw [releaseHolds_holds hsound (some hold.id) rfl]

theorem reschedule_rested (hsound : ∀ id, Sound (w.account id))
    {userId bookingId holdId : Uuid} {bookingSession : String} {moved : Booking}
    (h : rescheduleBooking settings w.db userId bookingId holdId bookingSession now =
      .ok (db', moved)) (committed : w'.db = db')
    (rests : w'.rests = (moved.id, holdId) :: w.rests) :
    ∃ hold, w.db.holds.get? holdId = some hold ∧
      (∀ other, other ≠ bookingId → w'.account other = w.account other) ∧
      Rested (w.account bookingId) (w'.account bookingId) moved
        (convertedTo hold bookingId now) := by
  obtain ⟨booking, hold, hbooking, hget, hheld, rfl, hbookings, hjobs, hholds⟩ :=
    reschedule_ok hsound h
  subst committed
  have hfree := free_of_sound hsound (Table.mem_of_get? hget) (by rw [hheld]; decide)
  have hid : booking.id = bookingId := Table.key_of_get? hbooking
  have hholdId : hold.id = holdId := Table.key_of_get? hget
  subst hid hholdId
  refine ⟨hold, hget, account_converted hget hfree rfl rfl rfl (fun other hother => ?_) ?_ hjobs
    hholds rests⟩
  · rw [hbookings]
    exact Table.get?_put_ne (Ne.symm hother)
  · rw [hbookings]
    exact Table.get?_put_self hbooking rfl

theorem reschedule_effect (hsound : ∀ id, Sound (w.account id))
    {userId bookingId holdId : Uuid} {bookingSession : String} {moved : Booking}
    (h : rescheduleBooking settings w.db userId bookingId holdId bookingSession now =
      .ok (db', moved)) (committed : w'.db = db') (rests : w'.rests = (moved.id, holdId) :: w.rests)
    (leaves : ∀ hold ∈ w.db.holds.get? holdId, LeavesNothing (w.account bookingId) hold) :
    Effect w w' := by
  obtain ⟨hold, hget, hothers, hrested⟩ := reschedule_rested hsound h committed rests
  exact .rewritten bookingId hothers (.rested moved _ hrested (leaves hold hget))

/-! ### Calls that write the booking with its job -/

/-- A booking and its job are rewritten, and nothing of the others. -/
theorem account_others {booking : Booking}
    (bookings : w'.db.bookings = w.db.bookings.put booking) (id : booking.id = bookingId)
    (jobs : ∀ other, other ≠ bookingId →
      ownJobs w'.db.jobs other = ownJobs w.db.jobs other)
    (holds : w'.db.holds = w.db.holds) (rests : w'.rests = w.rests) (other : Uuid)
    (hother : other ≠ bookingId) : w'.account other = w.account other := by
  have hget : (w.db.bookings.put booking).get? other = w.db.bookings.get? other :=
    Table.get?_put_ne fun hkey => hother (hkey.symm.trans id)
  simp only [World.account, bookings, hget, jobs other hother, holds, rests]

theorem assignTo_status {db : Db} {booking assigned : Booking} {candidate : ProviderCandidate}
    {request : AssignRequest} {jobId assignmentId : Uuid}
    (h : assignTo db booking candidate request now jobId assignmentId = .ok (db', assigned)) :
    assigned.status = .providerAssigned := by
  simp only [assignTo, seq_committed, orRaise_committed, return_committed, Prod.exists,
    Prod.mk.injEq] at h
  obtain ⟨_, _, _, _, _, _, _, _, rfl⟩ := h
  rfl

/-- The job of an assignment: the booking's own with its times, or a new one in its window. -/
theorem assignTo_jobs {db : Db} {booking assigned : Booking} {candidate : ProviderCandidate}
    {request : AssignRequest} {jobId assignmentId : Uuid}
    (h : assignTo db booking candidate request now jobId assignmentId = .ok (db', assigned))
    (one : (ownJobs db.jobs booking.id).length ≤ 1) :
    (∀ other, other ≠ booking.id → ownJobs db'.jobs other = ownJobs db.jobs other) ∧
      ∃ job, ownJobs db'.jobs booking.id = [job] ∧ busyWorker job = assigned.providerWorkerId ∧
        (∀ own ∈ ownJobs db.jobs booking.id,
          job.scheduledStart = own.scheduledStart ∧ job.scheduledEnd = own.scheduledEnd) ∧
        (ownJobs db.jobs booking.id = [] →
          job.scheduledStart = booking.windowStart ∧ job.scheduledEnd = booking.windowEnd) := by
  obtain ⟨worker, _, _, _, _, hworker, _, _, _, hjobs⟩ := assignTo_rows h
  rw [hworker]
  rcases hjobs with ⟨own, hof, hjobs⟩ | ⟨hnone, hinsert⟩
  · obtain ⟨hmem, hown⟩ := jobOfBooking_some hof
    have honly := ownJobs_only one hmem hown
    rw [hjobs, honly]
    refine ⟨fun other hother => ?_, { own with
      vendorId := some worker.vendorId, workerId := some worker.id, status := .assigned },
      ownJobs_put honly rfl rfl, rfl, fun own' hown' => ?_, fun hnil => ?_⟩
    · exact ownJobs_put_other (Table.get?_key hmem) rfl rfl (hown.symm ▸ hother)
    · rw [List.mem_singleton.mp hown']
      exact ⟨rfl, rfl⟩
    · cases hnil
  · have hnil := ownJobs_nil hnone
    refine ⟨fun other hother => ?_, newJob booking worker.vendorId worker.id jobId, ?_, rfl,
      fun own hown => ?_, fun _ => ⟨rfl, rfl⟩⟩
    · exact Table.filter_insert hinsert (by simp [newJob, Ne.symm hother])
    · unfold ownJobs at hnil ⊢
      rw [(Table.insert?_eq_some.mp hinsert).2, List.filter_append, hnil]
      simp [newJob]
    · rw [hnil] at hown
      cases hown

theorem assign_assigned (hsound : ∀ id, Sound (w.account id)) {request : AssignRequest}
    {jobId assignmentId : Uuid} {assigned : Booking}
    (h : Dispatch.assign settings dir w.db request now jobId assignmentId = .ok (db', assigned))
    (committed : w'.db = db') (rests : w'.rests = w.rests) :
    (∀ other, other ≠ request.bookingId → w'.account other = w.account other) ∧
      ∃ booking job, Assigned (w.account request.bookingId) (w'.account request.bookingId) booking
        assigned job := by
  simp only [Dispatch.assign, seq_committed] at h
  obtain ⟨booking, hbegin, candidate, _, hassign⟩ := h
  obtain ⟨hbooking, hid, hstatus⟩ := beginAssign_ok hbegin
  obtain ⟨worker, _, _, hbookings, hid', hworker, _, hstart, hstop, _⟩ := assignTo_rows hassign
  obtain ⟨hothers, job, hjobs, hbusy, hkept, hfresh⟩ :=
    assignTo_jobs hassign (hsound booking.id).one
  have hholds := assignTo_holds hassign
  subst committed
  rw [← hid]
  refine ⟨account_others hbookings hid' hothers hholds rests, booking, job, ?_⟩
  exact {
    found := hbooking
    live := by cases hcase : booking.status <;> simp_all [assignable, liveBookingStatus]
    booking' := by
      show w'.db.bookings.get? booking.id = some assigned
      rw [hbookings]
      exact Table.get?_put_self hbooking hid'
    live' := by rw [assignTo_status hassign]; rfl
    jobs := hjobs
    holds := by simp only [World.account, hholds]
    rests := by simp only [World.account, rests]
    start := hstart
    stop := hstop
    worker := by rw [hworker]; rfl
    busy := hbusy
    kept := hkept
    fresh := hfresh }

theorem assign_effect (hsound : ∀ id, Sound (w.account id)) {request : AssignRequest}
    {jobId assignmentId : Uuid} {assigned : Booking}
    (h : Dispatch.assign settings dir w.db request now jobId assignmentId = .ok (db', assigned))
    (committed : w'.db = db') (rests : w'.rests = w.rests)
    (inWindow : JobInWindow (w.account request.bookingId)) : Effect w w' := by
  obtain ⟨hothers, booking, job, hassigned⟩ := assign_assigned hsound h committed rests
  exact .rewritten request.bookingId hothers (.assigned booking assigned job hassigned inWindow)

/-- The job of a booking whose professional is withdrawn has no worker. -/
theorem unassign_jobs {db : Db} {actorId : Uuid} {reason : String} {v : Booking}
    (h : Dispatch.unassign db bookingId actorId reason now = .ok (db', v))
    (one : (ownJobs db.jobs bookingId).length ≤ 1) :
    (∀ other, other ≠ bookingId → ownJobs db'.jobs other = ownJobs db.jobs other) ∧
      (ownJobs db'.jobs bookingId).length ≤ 1 ∧
      (ownJobs db'.jobs bookingId = [] → ownJobs db.jobs bookingId = []) ∧
      ∀ job ∈ ownJobs db'.jobs bookingId, job.workerId = none := by
  obtain ⟨booking, _, rfl, _, _, _, hjobs⟩ := unassign_rows h
  rcases hjobs with ⟨hnone, hjobs⟩ | ⟨own, hmem, hown, hjobs⟩
  · rw [hjobs]
    refine ⟨fun _ _ => rfl, one, fun hnil => hnil, ?_⟩
    rw [ownJobs_nil hnone]
    exact fun job hjob => absurd hjob List.not_mem_nil
  · have honly := ownJobs_only one hmem hown
    have honly' : ownJobs db'.jobs booking.id =
        [{ own with vendorId := none, workerId := none, status := .matching }] := by
      rw [hjobs]
      exact ownJobs_put honly rfl rfl
    rw [honly']
    refine ⟨fun other hother => ?_, Nat.le_refl _, fun hnil => ?_, fun job hjob => ?_⟩
    · rw [hjobs]
      exact ownJobs_put_other (Table.get?_key hmem) rfl rfl (hown.symm ▸ hother)
    · cases hnil
    · rw [List.mem_singleton.mp hjob]

theorem unassign_effect (hsound : ∀ id, Sound (w.account id)) {actorId : Uuid}
    {reason : String} {v : Booking}
    (h : Dispatch.unassign w.db bookingId actorId reason now = .ok (db', v))
    (committed : w'.db = db') (rests : w'.rests = w.rests) : Effect w w' := by
  obtain ⟨hothers, hone, hjobless, hidle⟩ := unassign_jobs h (hsound bookingId).one
  obtain ⟨booking, hbooking, rfl, hstatus, hbookings, hholds, _⟩ := unassign_rows h
  subst committed
  refine .rewritten booking.id (account_others hbookings rfl hothers hholds rests)
    (.unassigned booking
      { booking with providerWorkerId := none, status := .reassignmentRequired } ?_)
  exact {
    found := hbooking
    live := by rw [hstatus]; rfl
    booking' := by
      show w'.db.bookings.get? booking.id = _
      rw [hbookings]
      exact Table.get?_put_self hbooking rfl
    one := hone
    jobless := hjobless
    idle := hidle
    holds := by simp only [World.account, hholds]
    rests := by simp only [World.account, rests]
    start := rfl
    stop := rfl
    worker := rfl }

/-- Nothing but the job is cancelled. -/
theorem cancelJob_untouched {db : Db} {userId : Uuid}
    (h : cancelJob db bookingId userId now = .ok db') :
    db'.bookings = db.bookings ∧ db'.holds = db.holds := by
  unfold cancelJob at h
  split at h
  · rw [return_committed] at h
    subst h
    exact ⟨rfl, rfl⟩
  · simp only [seq_committed, require_committed, return_committed, Prod.exists] at h
    obtain ⟨_, _, db1, job', changed, htransition, rfl⟩ := h
    rcases Jobs.applyTransition_cases htransition with ⟨_, rfl, _⟩ | ⟨_, _, _, event, rfl⟩
    · exact ⟨rfl, rfl⟩
    · exact ⟨rfl, rfl⟩

theorem cancelJob_rows {db : Db} {userId : Uuid}
    (h : cancelJob db bookingId userId now = .ok db')
    (one : (ownJobs db.jobs bookingId).length ≤ 1) :
    db'.bookings = db.bookings ∧ db'.holds = db.holds ∧
      (∀ other, other ≠ bookingId → ownJobs db'.jobs other = ownJobs db.jobs other) ∧
      (ownJobs db'.jobs bookingId).length ≤ 1 := by
  obtain ⟨hbookings, hholds⟩ := cancelJob_untouched h
  refine ⟨hbookings, hholds, ?_⟩
  unfold cancelJob at h
  split at h
  · rw [return_committed] at h
    subst h
    exact ⟨fun _ _ => rfl, one⟩
  · next job hof =>
    simp only [seq_committed, require_committed, return_committed, Prod.exists] at h
    obtain ⟨_, _, db1, job', changed, htransition, rfl⟩ := h
    obtain ⟨hmem, hown⟩ := jobOfBooking_some hof
    obtain ⟨hmoved, _, _, _, hjobs⟩ := applyTransition_found htransition (Table.get?_key hmem)
    refine ⟨fun other hother => ?_, ?_⟩
    · rw [hjobs]
      exact ownJobs_put_other (Table.get?_key hmem) hmoved.id hmoved.bookingId
        (hown.symm ▸ hother)
    · rw [hjobs, ownJobs_put (ownJobs_only one hmem hown) hmoved.id hmoved.bookingId]
      exact Nat.le_refl _

theorem cancel_effect (hsound : ∀ id, Sound (w.account id)) {userId : Uuid} {v : Booking}
    (h : cancelBooking w.db userId bookingId now = .ok (db', v)) (committed : w'.db = db')
    (rests : w'.rests = w.rests) : Effect w w' := by
  obtain ⟨booking, hbooking, rfl, ⟨_, rfl⟩ | ⟨_, _, db1, _, hjob, rfl⟩⟩ := cancelBooking_ok h
  · exact Quiet.effect ⟨by rw [committed], by rw [committed], fun _ => by rw [committed], rests⟩
  · obtain ⟨hbookings, hheld, hothers, hone⟩ := cancelJob_rows hjob (hsound booking.id).one
    have hjobs : w'.db.jobs = db1.jobs := by
      rw [committed]
      rfl
    have hholds : w'.db.holds = w.db.holds := by
      rw [committed]
      exact releaseHolds_holds hsound none hheld
    have hput : w'.db.bookings = w.db.bookings.put
        { booking with status := .cancelled, guestConfirmationRevokedAt := some now } := by
      rw [committed]
      exact congrArg (Table.put · _) hbookings
    refine .rewritten booking.id (account_others hput rfl (hjobs ▸ hothers) hholds rests)
      (.cancelled { booking with status := .cancelled, guestConfirmationRevokedAt := some now }
        ?_ rfl ?_ ?_)
    · show w'.db.bookings.get? booking.id = _
      rw [hput]
      exact Table.get?_put_self hbooking rfl
    · show (ownJobs w'.db.jobs booking.id).length ≤ 1
      rw [hjobs]
      exact hone
    · simp only [World.account, hholds]

/-! ### Every call -/

/-- A booking that is moved leaves nothing behind, and one that is assigned is assigned in its
window. -/
def Tracked (settings : Settings) (dir : Directory) (w : World) : Op → Prop
  | .reschedule userId bookingId holdId bookingSession =>
    (rescheduleBooking settings w.db userId bookingId holdId bookingSession w.clock).isOk →
      ∀ hold ∈ w.db.holds.get? holdId, LeavesNothing (w.account bookingId) hold
  | .assign request jobId assignmentId =>
    (Dispatch.assign settings dir w.db request w.clock jobId assignmentId).isOk →
      JobInWindow (w.account request.bookingId)
  | .automaticAssign bookingId actorId jobId assignmentId =>
    (Dispatch.automaticAssign settings dir w.db bookingId actorId w.clock jobId
      assignmentId).isOk → JobInWindow (w.account bookingId)
  | _ => True

instance (settings : Settings) (dir : Directory) (w : World) :
    DecidablePred (Tracked settings dir w)
  | .reschedule _ bookingId holdId _ => inferInstanceAs (Decidable
      (_ → ∀ hold ∈ w.db.holds.get? holdId, LeavesNothing (w.account bookingId) hold))
  | .assign request .. =>
    inferInstanceAs (Decidable (_ → JobInWindow (w.account request.bookingId)))
  | .automaticAssign bookingId .. =>
    inferInstanceAs (Decidable (_ → JobInWindow (w.account bookingId)))
  | .tick .. | .createHold .. | .request .. | .release .. | .getHold .. | .expireStale
  | .cancel .. | .unassign .. => isTrue trivial

theorem exec_effect (op : Op) (hsound : ∀ id, Sound (w.account id))
    (htracked : Tracked settings dir w op) : Effect w (exec settings dir w op) := by
  unfold exec
  split
  · next db rested h =>
    cases op with
    | tick elapsed =>
      simp only [transact, return_committed, Prod.mk.injEq] at h
      obtain ⟨rfl, rfl⟩ := h
      exact Quiet.effect ⟨rfl, rfl, fun _ => rfl, rfl⟩
    | createHold request holdId =>
      simp only [transact, seq_committed, return_committed, Prod.exists, Prod.mk.injEq] at h
      obtain ⟨_, _, hcreate, rfl, rfl⟩ := h
      obtain ⟨hbookings, hjobs, hholds⟩ := createAt_holds hcreate
      exact Quiet.effect ⟨hbookings, hjobs, hholds, rfl⟩
    | request request authenticatedUser subject ids =>
      simp only [transact, seq_committed] at h
      obtain ⟨existing | hold, hbegin, h⟩ := h
      · simp only [return_committed, Prod.mk.injEq] at h
        obtain ⟨rfl, rfl⟩ := h
        exact Quiet.effect ⟨rfl, rfl, fun _ => rfl, rfl⟩
      · simp only [seq_committed, return_committed, Prod.exists, Prod.mk.injEq] at h
        obtain ⟨_, booking, hfinish, rfl, rfl⟩ := h
        exact request_rested hsound hbegin hfinish rfl rfl
    | release holdId bookingSession =>
      simp only [transact, seq_committed, return_committed, Prod.exists, Prod.mk.injEq] at h
      obtain ⟨_, _, hrelease, rfl, rfl⟩ := h
      obtain ⟨hjobs, hbookings⟩ := releaseHold_rows hrelease
      exact Quiet.effect ⟨hbookings, hjobs, releaseHold_holds hsound hrelease, rfl⟩
    | getHold holdId bookingSession =>
      simp only [transact, seq_committed, return_committed, Prod.exists, Prod.mk.injEq] at h
      obtain ⟨hold, lapsed, hget, rfl, rfl⟩ := h
      split
      · next hlapsed =>
        obtain ⟨hjobs, hbookings⟩ := lapseHold_rows w.db holdId
        exact Quiet.effect ⟨hbookings, hjobs, getHold_holds hsound hget hlapsed, rfl⟩
      · exact Quiet.effect ⟨rfl, rfl, fun _ => rfl, rfl⟩
    | expireStale =>
      simp only [transact, return_committed, Prod.mk.injEq] at h
      obtain ⟨rfl, rfl⟩ := h
      exact Quiet.effect ⟨rfl, rfl, expireStale_holds hsound, rfl⟩
    | reschedule userId bookingId holdId bookingSession =>
      simp only [transact, seq_committed, return_committed, Prod.exists, Prod.mk.injEq] at h
      obtain ⟨_, moved, hmove, rfl, rfl⟩ := h
      exact reschedule_effect hsound hmove rfl rfl (htracked (isOk_of_eq hmove))
    | cancel userId bookingId =>
      simp only [transact, seq_committed, return_committed, Prod.exists, Prod.mk.injEq] at h
      obtain ⟨_, _, hcancel, rfl, rfl⟩ := h
      exact cancel_effect hsound hcancel rfl rfl
    | assign request jobId assignmentId =>
      simp only [transact, seq_committed, return_committed, Prod.exists, Prod.mk.injEq] at h
      obtain ⟨_, _, hassign, rfl, rfl⟩ := h
      exact assign_effect hsound hassign rfl rfl (htracked (isOk_of_eq hassign))
    | automaticAssign bookingId actorId jobId assignmentId =>
      simp only [transact, seq_committed, return_committed, Prod.exists, Prod.mk.injEq] at h
      obtain ⟨_, _, hautomatic, rfl, rfl⟩ := h
      have hwindow := htracked (isOk_of_eq hautomatic)
      simp only [Dispatch.automaticAssign, seq_committed] at hautomatic
      obtain ⟨_, _, _, _, first, _, hassign⟩ := hautomatic
      exact assign_effect hsound hassign rfl rfl hwindow
    | unassign bookingId actorId reason =>
      simp only [transact, seq_committed, return_committed, Prod.exists, Prod.mk.injEq] at h
      obtain ⟨_, _, hunassign, rfl, rfl⟩ := h
      exact unassign_effect hsound hunassign rfl rfl
  · exact .same fun _ => rfl

/-! ## A call that is not tracked -/

theorem exec_ok {op : Op} {rested : Option (Uuid × Uuid)}
    (h : transact settings dir w op = .ok (db', rested)) :
    (exec settings dir w op).db = db' ∧
      (exec settings dir w op).rests = rested.toList ++ w.rests := by
  unfold exec
  rw [h]
  exact ⟨rfl, rfl⟩

/-- After a call that is not tracked, `_usage` does not follow the booking. -/
theorem tracked_of_follows (op : Op) (hsound : ∀ id, Sound (w.account id))
    (hwindows : WindowsNonempty w.db) (hfollows : Follows (exec settings dir w op)) :
    Tracked settings dir w op := by
  cases op with
  | reschedule userId bookingId holdId bookingSession =>
    intro hok hold hget
    obtain ⟨db, moved, hmove⟩ := eq_ok_of_isOk hok
    have htransact : transact settings dir w (.reschedule userId bookingId holdId
        bookingSession) = .ok (db, some (moved.id, holdId)) := by
      simp only [transact, hmove]
      rfl
    obtain ⟨hdb, hrests⟩ := exec_ok htransact
    obtain ⟨own, hown, _, hrested⟩ := reschedule_rested hsound hmove hdb hrests
    rw [Option.mem_def, hown] at hget
    cases hget
    have hlive : liveBookingStatus moved.status = true := by
      obtain ⟨booking, hold, _, _, _, rfl, _⟩ := reschedule_ok hsound hmove
      rfl
    exact hrested.leavesNothing hfollows hlive (hsound bookingId) hwindows
      (hwindows.2 hold (Table.mem_of_get? hown))
  | assign request jobId assignmentId =>
    intro hok
    obtain ⟨db, assigned, hassign⟩ := eq_ok_of_isOk hok
    have htransact : transact settings dir w (.assign request jobId assignmentId) =
        .ok (db, none) := by
      simp only [transact, hassign]
      rfl
    obtain ⟨hdb, hrests⟩ := exec_ok htransact
    obtain ⟨_, booking, job, hassigned⟩ := assign_assigned hsound hassign hdb hrests
    exact hassigned.inWindow hfollows (hsound request.bookingId) hwindows
  | automaticAssign bookingId actorId jobId assignmentId =>
    intro hok
    obtain ⟨db, assigned, hautomatic⟩ := eq_ok_of_isOk hok
    have htransact : transact settings dir w (.automaticAssign bookingId actorId jobId
        assignmentId) = .ok (db, none) := by
      simp only [transact, hautomatic]
      rfl
    obtain ⟨hdb, hrests⟩ := exec_ok htransact
    simp only [Dispatch.automaticAssign, seq_committed] at hautomatic
    obtain ⟨_, _, _, _, first, _, hassign⟩ := hautomatic
    obtain ⟨_, booking, job, hassigned⟩ := assign_assigned hsound hassign hdb hrests
    exact hassigned.inWindow hfollows (hsound bookingId) hwindows
  | _ => trivial

/-! ## Runs -/

/-- Before the run no booking was reserved through a hold. -/
structure Unreserved (db : Db) : Prop where
  holds : ∀ hold ∈ db.holds.rows, hold.bookingId = none
  jobs : ∀ job ∈ db.jobs.rows, (db.bookings.get? job.bookingId).isSome
  one : OneJob db.jobs

theorem Unreserved.sound {db : Db} (h : Unreserved db) (clock : Instant) (id : Uuid) :
    Sound (({ db, clock } : World).account id) := by
  have hholds : ownHolds db.holds id = [] := by
    refine List.filter_eq_nil_iff.mpr fun hold hmem => ?_
    simp [h.holds hold hmem]
  constructor
  · intro hnone
    refine ⟨List.filter_eq_nil_iff.mpr fun job hjob hof => ?_, hholds⟩
    have hsome := h.jobs job hjob
    rw [of_decide_eq_true hof, show db.bookings.get? id = none from hnone] at hsome
    cases hsome
  · exact ownJobs_one h.one
  · show ∀ hold ∈ ownHolds db.holds id, _
    rw [hholds]
    exact fun hold hhold => absurd hhold List.not_mem_nil
  · intro booking _ _ holdId hrests
    cases hrests

/-- `_usage` follows every booking that was reserved through a hold, in a run in which no
booking leaves a hold or the window of its job behind; and in no other run, where the windows
of the rows are not empty. -/
theorem accounts_follow (settings : Settings) (dir : Directory) (db : Db) (clock : Instant)
    (ops : List Op) (hstart : Unreserved db) :
    (Along (exec settings dir) (Tracked settings dir) { db, clock } ops →
      Always (exec settings dir) Follows { db, clock } ops) ∧
    (Along (exec settings dir) (fun w _ => WindowsNonempty w.db) { db, clock } ops →
      Always (exec settings dir) Follows { db, clock } ops →
      Along (exec settings dir) (Tracked settings dir) { db, clock } ops) := by
  have hstep : ∀ w op, (∀ id, Sound (w.account id)) → Tracked settings dir w op →
      ∀ id, Sound ((exec settings dir w op).account id) :=
    fun w op hsound htracked => (exec_effect op hsound htracked).sound hsound
  constructor
  · intro htracked
    exact (always_of_inv hstep (hstart.sound clock) htracked).imp fun _ h => follows_of_sound h
  · intro hwindows hfollows
    have hafter := along_of_always (fun _ _ h => h) hfollows
    refine (hwindows.and hafter).imp (I := fun w => ∀ id, Sound (w.account id)) ?_ ?_
      (hstart.sound clock)
    · intro w op hsound h
      exact hstep w op hsound (tracked_of_follows op hsound h.1 h.2)
    · intro w op hsound h
      exact tracked_of_follows op hsound h.1 h.2

/-- Two visits may overlap. -/
def roomyDirectory : Directory := { heldDirectory with
  capacityRules := [{
    providerId := 5, maxJobsDaily := 6, maxMinutesDaily := 480, maxConcurrentJobs := 2
    effectiveFrom := 0, bounds := by decide }] }

/-- The hold 40 is converted into the booking 12. -/
def requested : Op :=
  .request heldRequest (some 9) (.ok none)
    { userId := 10, customerId := 11, bookingId := 12, reference := "BR-12" }

/-- The booking is assigned, and after a withdrawal again. -/
def reassigned : List Op :=
  [requested,
   .assign { bookingId := 12, professionalId := 6, actorId := 8, reason := "nearest" } 20 21,
   .unassign 12 8 "sick",
   .assign { bookingId := 12, professionalId := 6, actorId := 8, reason := "well" } 22 23]

theorem reassigned_follows :
    Always (exec visitSettings roomyDirectory) Follows { db := visitDb, clock := 0 } reassigned :=
  (accounts_follow visitSettings roomyDirectory visitDb 0 reassigned
    ⟨by decide, by decide, by decide⟩).1 (by decide)

/-- The booking is moved to noon, and its first hold stays converted. -/
def movedToNoon : List Op :=
  [requested,
   .createHold (visitAt 720 "customer-session-1" "hold-2") 60,
   .reschedule 9 12 60 "customer-session-1"]

theorem old_hold_still_counts :
    Unreserved visitDb ∧ ¬ Always (exec visitSettings heldDirectory) Follows
      { db := visitDb, clock := 0 } movedToNoon := by
  refine ⟨⟨by decide, by decide, by decide⟩, fun h => ?_⟩
  have hlast := h _ (run_mem_states _ _)
  -- on the first day, the worker 6 is charged for both windows
  have htwice : ∃ booking ∈ (run (exec visitSettings heldDirectory)
        { db := visitDb, clock := 0 } movedToNoon).db.bookings.rows,
      liveBookingStatus booking.status = true ∧
      ∃ hold ∈ (run (exec visitSettings heldDirectory)
          { db := visitDb, clock := 0 } movedToNoon).restsOn booking.id,
        1 < (windows (partOf (loadOn (run (exec visitSettings heldDirectory)
          { db := visitDb, clock := 0 } movedToNoon).db
          (run (exec visitSettings heldDirectory)
            { db := visitDb, clock := 0 } movedToNoon).clock 6
          (dayOf (Zone.fixed 0) 0)) booking.id)).length := by
    decide
  obtain ⟨booking, hmem, hlive, hold, hrests, hcount⟩ := htwice
  have honce := (hlast booking hmem hlive hold hrests (Zone.fixed 0) 0 6).windows_le
  omega

end Breero.Reservations.Accounting
