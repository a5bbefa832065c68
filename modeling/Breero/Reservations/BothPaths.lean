import Breero.Reservations.BookedJobs
import Breero.Reservations.Confirmations
import Breero.Reservations.WindowBookings

/-!
The two ways to book, side by side.

A visit is booked by its window and confirmed by an operator, or it is held, requested and
assigned. Each way has its own count of the visits that take a worker's time: the one
counts bookings, the other jobs and holds.

* `SeeEachOther` says that the two counts take in the same bookings;
* `Paths.exec` is what a step of either way does;
* `Paths.see_each_other`: they do in every state of a run in which no assignment commits;
* `Paths.assigned_not_seen` is a run in which one does.
-/

namespace Breero.Reservations
open KeyedTable Transaction Runs Locks Bookings Dispatch

/-! ## The law -/

/-- A row that `_usage` counts in the interval stands for the booking: its job, or the hold
that it was made from. -/
def usageCounts (db : Db) (now : Instant) (workerId : Uuid) (day : Day) (start stop : Instant)
    (booking : Booking) : Bool :=
  ((jobsOn db workerId day).any fun job =>
    job.bookingId = booking.id && overlaps start stop job.scheduledStart job.scheduledEnd) ||
  ((holdsOn db now workerId day).any fun hold =>
    hold.status = .converted && hold.bookingId = some booking.id &&
      overlaps start stop hold.slotStartUtc hold.slotEndUtc)

/-- A live booking of a worker is counted by both or by neither, in every interval of a
day. -/
def SeeEachOther (db : Db) (now : Instant) : Prop :=
  ∀ booking ∈ db.bookings.rows, liveBookingStatus booking.status = true →
    ∀ workerId ∈ booking.providerWorkerId, ∀ (day : Day) (start stop : Instant),
      day.start ≤ start → stop ≤ day.stop →
        (occupiesWindow now workerId start stop booking = true ↔
          usageCounts db now workerId day start stop booking = true)

/-! ## The system -/

structure Paths where
  world : World
  confirms : List OpenConfirm := []
  creates : List CreateAttempt := []

namespace Paths

inductive Op
  /-- a step of the calls that hold, request and assign -/
  | professional (op : Reservations.Op)
  | unassign (bookingId actorId : Uuid) (reason : String) (now : Instant)
  | confirm (op : Confirming.Op)
  | create (op : Creating.Op)

def confirming (s : Paths) : Confirming := { db := s.world.db, confirms := s.confirms }

def ofConfirming (s : Paths) (w : Confirming) : Paths :=
  { s with world := { s.world with db := w.db }, confirms := w.confirms }

def creating (s : Paths) : Creating :=
  { db := s.world.db, clock := s.world.clock, creates := s.creates }

def ofCreating (s : Paths) (w : Creating) : Paths :=
  { s with world := { s.world with db := w.db, clock := w.clock }, creates := w.creates }

/-- A step waits for the locks that a transaction of the other kind has. -/
def exec (settings : Settings) (dir : Directory) (s : Paths) : Op → Paths
  | .professional op =>
    let world := Reservations.exec settings dir s.world op
    if onPath op ∧ ∀ opened ∈ s.confirms, world.free opened.locks then { s with world } else s
  | .unassign bookingId actorId reason now =>
    if s.world.free [.bookingRow bookingId] ∧
        Free OpenConfirm.locks s.confirms [.bookingRow bookingId] then
      { s with world := { s.world with
          db := commit s.world.db (unassign s.world.db bookingId actorId reason now) } }
    else s
  | .confirm op =>
    let w := Confirming.exec dir s.confirming op
    if ∀ opened ∈ w.confirms, s.world.free opened.locks then s.ofConfirming w else s
  | .create op => s.ofCreating (Creating.exec settings dir s.creating op)

/-- The step does not commit an assignment. -/
def NoAssignment (s : Paths) : Op → Prop
  | .professional (.finishAssign id now jobId assignmentId) =>
    assigns s.world id now jobId assignmentId = false
  | _ => True

instance (s : Paths) : DecidablePred s.NoAssignment
  | .professional (.finishAssign ..) => inferInstanceAs (Decidable (_ = false))
  | .professional (.tick ..) | .professional (.createHold ..) | .professional (.assign ..)
  | .professional (.request ..) | .professional (.reschedule ..) | .professional (.getHold ..)
  | .professional (.lockSlot ..) | .professional (.readJobs ..) | .professional (.readHolds ..)
  | .professional (.grantHold ..) | .professional (.finishRequest ..)
  | .professional (.finishReschedule ..) | .professional (.lapse ..) | .professional (.abort ..)
  | .professional (.release ..) | .professional .expireStale
  | .unassign .. | .confirm .. | .create .. => isTrue trivial

end Paths

/-! ## Confirmed bookings -/

/-- A live booking with a worker is a confirmed one, and has its job. -/
structure Paired (db : Db) : Prop extends BookedJobs db where
  confirmed : ∀ booking ∈ db.bookings.rows, liveBookingStatus booking.status = true →
    booking.providerWorkerId.isSome → booking.status = .confirmed

variable {db db' : Db}

theorem Paired.seeEachOther (h : Paired db) (now : Instant) : SeeEachOther db now := by
  intro booking hmem hlive workerId hworker day start stop hstart hstop
  have hworker : booking.providerWorkerId = some workerId := hworker
  have hconfirmed := h.confirmed booking hmem hlive (by simp [hworker])
  obtain ⟨job, hjob, hof, hjoblive⟩ := h.jobbed booking hmem hlive workerId hworker
  -- a job of the booking is in its window
  have hwindow : ∀ job ∈ db.jobs.rows, job.bookingId = booking.id →
      job.scheduledStart = booking.windowStart ∧ job.scheduledEnd = booking.windowEnd := by
    intro job hjob hof
    obtain ⟨_, _, hrest⟩ := h.ofBooking (Table.get?_key hmem) hjob hof
    exact hrest
  have hoccupies : occupiesWindow now workerId start stop booking = true ↔
      booking.windowStart < stop ∧ start < booking.windowEnd := by
    simp [occupiesWindow, holdsWindow, hconfirmed, hworker]
  rw [hoccupies]
  constructor
  · rintro ⟨hbefore, hafter⟩
    obtain ⟨hs, he⟩ := hwindow job hjob hof
    have htouches : day.touches job.scheduledStart job.scheduledEnd := by
      rw [hs, he]
      exact ⟨hbefore.trans_le hstop, hstart.trans_lt hafter⟩
    have hon : job ∈ jobsOn db workerId day :=
      List.mem_filter.mpr ⟨hjob, by simp [hjoblive, htouches]⟩
    have hany : ((jobsOn db workerId day).any fun job => job.bookingId = booking.id &&
        overlaps start stop job.scheduledStart job.scheduledEnd) = true :=
      List.any_eq_true.mpr ⟨job, hon, by simp [hof, overlaps, hs, he, hbefore, hafter]⟩
    simp [usageCounts, hany]
  · intro hcounts
    rw [usageCounts, Bool.or_eq_true, List.any_eq_true, List.any_eq_true] at hcounts
    rcases hcounts with ⟨own, hon, hown⟩ | ⟨hold, hon, hhold⟩
    · simp only [overlaps, Bool.and_eq_true, decide_eq_true_eq] at hown
      obtain ⟨hs, he⟩ := hwindow own (List.mem_filter.mp hon).1 hown.1
      exact ⟨hs ▸ hown.2.1, he ▸ hown.2.2⟩
    · -- the booking has a job, so that its hold is not counted
      simp only [Bool.and_eq_true, decide_eq_true_eq] at hhold
      obtain ⟨⟨hconverted, hfor⟩, _⟩ := hhold
      have hlivehold := (List.mem_filter.mp hon).2
      simp only [liveHold, hconverted, hfor, Option.bind_some, Bool.and_eq_true,
        Option.isNone_iff_eq_none] at hlivehold
      have hnone : db.jobOfBooking booking.id = none := hlivehold.1.2.2
      have hfree := List.find?_eq_none.mp hnone job hjob
      simp [hof] at hfree

theorem Paired.grows (h : Paired db) (hgrows : Grows db db') : Paired db' := by
  refine ⟨h.toBookedJobs.grows hgrows, fun booking hmem hlive hworker => ?_⟩
  obtain ⟨workerId, hworkerId⟩ := Option.isSome_iff_exists.mp hworker
  exact h.confirmed booking (hgrows.assigned hmem hworkerId) hlive hworker

/-- A live booking that is not confirmed has no worker, and neither has its job. -/
theorem Paired.unassigned (h : Paired db) {booking : Booking}
    (found : db.bookings.get? booking.id = some booking)
    (hlive : liveBookingStatus booking.status = true) (hstatus : booking.status ≠ .confirmed) :
    booking.providerWorkerId = none ∧
      ∀ job ∈ db.jobs.rows, job.bookingId = booking.id → job.workerId = none := by
  have hnone : booking.providerWorkerId = none := by
    rw [← Option.not_isSome_iff_eq_none]
    intro hworker
    exact hstatus (h.confirmed booking (Table.mem_of_get? found) hlive hworker)
  refine ⟨hnone, fun job hjob hof => ?_⟩
  obtain ⟨hworker, _⟩ := h.ofBooking found hjob hof
  exact hworker.trans hnone

/-- A booking that is rewritten is confirmed, if it has a worker. -/
theorem Paired.of_put (h : Paired db) {booking' : Booking} (jobs : BookedJobs db')
    (bookings : db'.bookings = db.bookings.put booking')
    (confirmed : booking'.providerWorkerId.isSome → booking'.status = .confirmed) :
    Paired db' := by
  refine ⟨jobs, ?_⟩
  rw [bookings]
  intro other hmem hlive hworker
  rcases Table.mem_put.mp hmem with ⟨rfl, _⟩ | ⟨hmem, _⟩
  · exact confirmed hworker
  · exact h.confirmed other hmem hlive hworker

/-! ### Withdrawals -/

theorem unassign_rows {bookingId actorId : Uuid} {reason : String} {now : Instant} {v : Booking}
    (h : unassign db bookingId actorId reason now = .ok (db', v)) :
    ∃ booking, db.bookings.get? booking.id = some booking ∧ booking.id = bookingId ∧
      booking.status = .providerAssigned ∧
      db'.bookings = db.bookings.put
        { booking with providerWorkerId := none, status := .reassignmentRequired } ∧
      db'.holds = db.holds ∧
      ((db.jobOfBooking bookingId = none ∧ db'.jobs = db.jobs) ∨
        ∃ job ∈ db.jobs.rows, job.bookingId = bookingId ∧ db'.jobs = db.jobs.put
          { job with vendorId := none, workerId := none, status := .matching }) := by
  simp only [unassign, seq_committed, orRaise_committed, require_committed, return_committed,
    Prod.mk.injEq] at h
  obtain ⟨booking, hbooking, _, hstatus, rfl, _⟩ := h
  refine ⟨booking, Table.get?_found hbooking, Table.key_of_get? hbooking, hstatus, ?_, ?_, ?_⟩
  · unfold unassignedJob
    split
    · next job hof =>
      show (releaseActive db job.id now).bookings.put _ = _
      rw [releaseActive_bookings]
    · rfl
  · show (unassignedJob db bookingId now).holds = db.holds
    unfold unassignedJob releaseActive
    split
    · split <;> rfl
    · rfl
  · unfold unassignedJob
    split
    · next job hof =>
      obtain ⟨hmem, hid⟩ := jobOfBooking_some hof
      refine Or.inr ⟨job, hmem, hid, ?_⟩
      show (releaseActive db job.id now).jobs.put _ = _
      rw [releaseActive_jobs]
    · next hnone => exact Or.inl ⟨hnone, rfl⟩

theorem Paired.unassign (h : Paired db) {bookingId actorId : Uuid} {reason : String}
    {now : Instant} {v : Booking}
    (hcommitted : Dispatch.unassign db bookingId actorId reason now = .ok (db', v)) :
    Paired db' := by
  obtain ⟨booking, found, rfl, hstatus, hbookings, _, hjobs⟩ := unassign_rows hcommitted
  obtain ⟨_, hwaits⟩ :=
    h.unassigned found (by simp [hstatus, liveBookingStatus]) (by simp [hstatus])
  refine h.of_put ?_ hbookings (by simp)
  rcases hjobs with ⟨_, hjobs⟩ | ⟨own, hown, hof, hjobs⟩
  · refine h.rewrite found hbookings rfl ?_ ?_ (by simp) ?_
    · rw [hjobs]
      intro job hjob
      by_cases hid : job.bookingId = booking.id
      · obtain ⟨_, hrest⟩ := h.ofBooking found hjob hid
        exact Or.inr ⟨hid, hwaits job hjob hid, hrest⟩
      · exact Or.inl ⟨hjob, hid⟩
    · rw [hjobs]
      exact fun job hjob _ => hjob
    · rw [hjobs]
      exact h.one
  · obtain ⟨_, hrest⟩ := h.ofBooking found hown hof
    refine h.put found hbookings rfl hown hof ?_ ?_ hjobs ⟨rfl, hrest⟩ (by simp)
    · rfl
    · rfl

/-! ### Window bookings -/

variable {settings : Settings} {dir : Directory}

theorem Creating.exec_grows (w : Creating) (op : Creating.Op) :
    Grows w.db (Creating.exec settings dir w op).db := by
  cases op with
  | tick elapsed => exact .same rfl rfl
  | search payload idempotencyKey began =>
    simp only [Creating.exec]
    split
    · split <;> exact .same rfl rfl
    · exact .same rfl rfl
  | finish position now ids =>
    simp only [Creating.exec]
    split
    · exact .same rfl rfl
    · split
      · split
        · next db' booking hfinish =>
          obtain ⟨⟨customerId, hbooking⟩, inserted, _, _, hjobs, _⟩ := finishCreate_ok hfinish
          exact .booked booking hjobs (by rw [hbooking]; rfl) inserted
        · exact .same rfl rfl
      · exact .same rfl rfl

/-! ### Confirmations -/

theorem beginConfirm_row {bookingId workerId : Uuid} {now : Instant} {booking : Booking}
    {worker : Worker} {vendor : Vendor}
    (h : beginConfirm dir db bookingId workerId now = .ok (booking, worker, vendor)) :
    db.bookings.get? booking.id = some booking ∧ booking.status ∈ confirmable := by
  simp only [beginConfirm, seq_committed, orRaise_committed, require_committed, return_committed,
    Prod.exists, Prod.mk.injEq] at h
  obtain ⟨_, hbooking, _, hstatus, _, _, _, rfl, _⟩ := h
  exact ⟨Table.get?_found hbooking, hstatus⟩

theorem live_of_confirmable {status : BookingStatus} (h : status ∈ confirmable) :
    liveBookingStatus status = true ∧ status ≠ .confirmed := by
  cases status <;> simp_all [confirmable, liveBookingStatus]

/-- The booking as it was locked is confirmed, with a new job. -/
theorem Paired.confirm (h : Paired db) {opened : OpenConfirm} {jobId assignmentId : Uuid}
    {job : Job} (found : db.bookings.get? opened.booking.id = some opened.booking)
    (hconfirmable : opened.booking.status ∈ confirmable)
    (hfinish : finishConfirm db opened.booking opened.worker opened.vendor opened.actorId
      opened.reason opened.now jobId assignmentId = .ok (db', job)) : Paired db' := by
  obtain ⟨hlive, hstatus⟩ := live_of_confirmable hconfirmable
  obtain ⟨_, hwaits⟩ := h.unassigned found hlive hstatus
  obtain ⟨hbookings, ⟨hof, hworker, _⟩ |
    ⟨hnone, hinsert, _, hof, haddress, hjoblive, hwindow⟩⟩ := finishConfirm_ok hfinish
  · -- the job of a booking that waits has no worker
    obtain ⟨hmem, hid⟩ := jobOfBooking_some hof
    rw [hwaits job hmem hid] at hworker
    cases hworker
  · simp only [jobWindow, Windows.Window.mk.injEq] at hwindow
    refine h.of_put ?_ hbookings fun _ => rfl
    refine h.insert found hbookings rfl hnone hinsert hof
      ⟨liveJob_worker hjoblive, haddress, hwindow⟩ ?_
    intro workerId hworkerId
    cases hworkerId
    exact hjoblive

/-! ## Runs -/

namespace Paths

variable {s : Paths}

/-- The bookings and their jobs are pairs, and the bookings that open confirmations have
locked are as they were read. -/
structure PathsInv (s : Paths) : Prop where
  paired : Paired s.world.db
  exclusive : Locks.Exclusive OpenConfirm.locks s.confirms
  locked : ∀ opened ∈ s.confirms,
    s.world.db.bookings.get? opened.booking.id = some opened.booking ∧
      opened.booking.status ∈ confirmable

theorem PathsInv.grows (h : PathsInv s) {world : World} {creates : List CreateAttempt}
    (hgrows : Grows s.world.db world.db) :
    PathsInv { world, confirms := s.confirms, creates } := by
  refine ⟨h.paired.grows hgrows, h.exclusive, fun opened hopened => ?_⟩
  obtain ⟨hrow, hconfirmable⟩ := h.locked opened hopened
  exact ⟨hgrows.get? hrow, hconfirmable⟩

theorem PathsInv.unassign (h : PathsInv s) {bookingId actorId : Uuid} {reason : String}
    {now : Instant} (hfree : Free OpenConfirm.locks s.confirms [.bookingRow bookingId]) :
    PathsInv { s with world := { s.world with
      db := commit s.world.db (unassign s.world.db bookingId actorId reason now) } } := by
  have hkeeps : ∀ db' v, Dispatch.unassign s.world.db bookingId actorId reason now =
      .ok (db', v) → PathsInv { s with world := { s.world with db := db' } } := by
    intro db' v hcommitted
    refine ⟨h.paired.unassign hcommitted, h.exclusive, fun opened hopened => ?_⟩
    obtain ⟨hrow, hconfirmable⟩ := h.locked opened hopened
    obtain ⟨booking, _, hid, _, hbookings, _⟩ := unassign_rows hcommitted
    refine ⟨?_, hconfirmable⟩
    show db'.bookings.get? opened.booking.id = some opened.booking
    rw [hbookings, Table.get?_put_ne]
    · exact hrow
    · intro hsame
      have hopenedId : bookingId = opened.booking.id := hid.symm.trans hsame
      exact hfree opened hopened (.bookingRow opened.booking.id) (by simp [OpenConfirm.locks])
        (by simp [hopenedId])
  exact commit_induction (motive := fun db : Db =>
    PathsInv { s with world := { s.world with db } }) h hkeeps

theorem PathsInv.confirm (h : PathsInv s) (op : Confirming.Op) :
    PathsInv (s.ofConfirming (Confirming.exec dir s.confirming op)) := by
  cases op with
  | check bookingId workerId actorId reason now =>
    simp only [Confirming.exec]
    split
    · next booking worker vendor hbegin =>
      split
      · next hfree =>
        refine ⟨h.paired, h.exclusive.push hfree, fun opened hopened => ?_⟩
        rcases List.mem_append.mp hopened with hopened | hopened
        · exact h.locked opened hopened
        · rw [List.mem_singleton] at hopened
          subst hopened
          exact beginConfirm_row hbegin
      · exact h
    · exact h
  | finish position jobId assignmentId =>
    simp only [Confirming.exec]
    split
    · exact h
    · next opened hopened =>
      obtain ⟨hrow, hconfirmable⟩ := h.locked opened (List.mem_of_getElem? hopened)
      have hothers := h.exclusive.others hopened
      split
      · next db' job hresult =>
        refine ⟨h.paired.confirm hrow hconfirmable hresult, h.exclusive.eraseIdx position,
          fun other hother => ?_⟩
        obtain ⟨hrow', hconfirmable'⟩ := h.locked other (List.mem_of_mem_eraseIdx hother)
        obtain ⟨hbookings, _⟩ := finishConfirm_ok hresult
        refine ⟨?_, hconfirmable'⟩
        show db'.bookings.get? other.booking.id = some other.booking
        rw [hbookings, Table.get?_put_ne]
        · exact hrow'
        · intro hsame
          have hsame : opened.booking.id = other.booking.id := hsame
          exact hothers other hother (.bookingRow other.booking.id) (by simp [OpenConfirm.locks])
            (by simp [OpenConfirm.locks, hsame])
      · exact ⟨h.paired, h.exclusive.eraseIdx position,
          fun other hother => h.locked other (List.mem_of_mem_eraseIdx hother)⟩

theorem PathsInv.step (h : PathsInv s) (op : Op) (hnone : s.NoAssignment op) :
    PathsInv (exec settings dir s op) := by
  cases op with
  | professional op =>
    simp only [exec]
    split
    · next hpath =>
      refine h.grows ((exec_step settings dir s.world op).grows hpath.1 ?_)
      rintro id now jobId assignmentId rfl
      exact hnone
    · exact h
  | unassign bookingId actorId reason now =>
    simp only [exec]
    split
    · next hfree => exact h.unassign hfree.2
    · exact h
  | confirm op =>
    simp only [exec]
    split
    · exact h.confirm op
    · exact h
  | create op => exact h.grows (Creating.exec_grows s.creating op)

/-- Both counts take in the same bookings in every state of a run in which no assignment
commits. -/
theorem see_each_other (settings : Settings) (dir : Directory) (world : World) (ops : List Op)
    (hstart : Paired world.db)
    (hnone : Along (exec settings dir) NoAssignment { world } ops) :
    Always (exec settings dir) (fun s => SeeEachOther s.world.db s.world.clock) { world } ops := by
  have hinv : PathsInv { world } := by
    refine ⟨hstart, List.Pairwise.nil, ?_⟩
    intro opened hopened
    cases hopened
  exact (always_of_inv (fun s op h hnone => h.step op hnone) hinv hnone).imp
    fun s h => h.paired.seeEachOther s.world.clock

def bothDirectory : Directory := { Confirming.operatorDirectory with
  legalEntity := fun _ => some "USD" }

/-- The booking 2 is confirmed, the hour from eleven on is booked, and the hold 40 is
converted, at a time. -/
def threeBooked : List Op :=
  [.confirm (.check 2 6 8 "first" 1), .create (.search (Creating.hourRequest 3 660) "a" 0),
   .professional (.request 60 {
     holdId := 40, bookingSession := "customer-session-1", firstName := "A", lastName := "B"
     email := "a@b.test", phone := "12345" }),
   .confirm (.finish 0 20 30),
   .create (.finish 0 0 { customerId := 21, bookingId := 31, reference := "BR-1" }),
   .professional (.finishRequest 60 (some 9) (.ok none)
     { userId := 22, customerId := 23, bookingId := 32, reference := "BR-2" })]

theorem threeBooked_see_each_other :
    Always (exec visitSettings bothDirectory) (fun s => SeeEachOther s.world.db s.world.clock)
      { world := { db := visitDb, clock := 0 } } threeBooked :=
  see_each_other visitSettings bothDirectory { db := visitDb, clock := 0 } threeBooked
    ⟨⟨by decide, by decide, by decide⟩, by decide⟩ (by decide)

/-- A live booking that takes its worker's time by the jobs and holds of its day only. -/
theorem not_seen {db : Db} {now : Instant} (day : Day) (h : ∃ booking ∈ db.bookings.rows,
    liveBookingStatus booking.status = true ∧ ∃ workerId ∈ booking.providerWorkerId,
      day.start ≤ booking.windowStart ∧ booking.windowEnd ≤ day.stop ∧
        occupiesWindow now workerId booking.windowStart booking.windowEnd booking = false ∧
          usageCounts db now workerId day booking.windowStart booking.windowEnd booking = true) :
    ¬ SeeEachOther db now := by
  intro hsees
  obtain ⟨booking, hmem, hlive, workerId, hworker, hstart, hstop, hleft, hcounts⟩ := h
  have hboth := hsees booking hmem hlive workerId hworker day booking.windowStart
    booking.windowEnd hstart hstop
  rw [hboth.mpr hcounts] at hleft
  cases hleft

/-- The booking 2 is assigned to the worker 6. -/
def assigned : List Op :=
  [.professional (.assign 50
     { bookingId := 2, professionalId := 6, actorId := 8, reason := "nearest" } fun _ _ => {}),
   .professional (.lockSlot 50), .professional (.readJobs 50), .professional (.readHolds 50),
   .professional (.finishAssign 50 0 20 21)]

/-- A booking that is assigned and not confirmed has its job, and is not counted itself. -/
theorem assigned_not_seen :
    ¬ Always (exec visitSettings visitDirectory)
        (fun s => SeeEachOther s.world.db s.world.clock)
        { world := { db := visitDb, clock := 0 } } assigned := by
  intro h
  exact not_seen (dayOf (Zone.fixed 0) visitBooking.windowStart) (by decide)
    (h _ (run_mem_states _ _))

end Paths

end Breero.Reservations
