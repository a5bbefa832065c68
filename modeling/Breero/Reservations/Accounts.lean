import Breero.Booking.Matching
import Breero.Dispatch.DeadBookings

/-!
What the rows of a booking say of the capacity that it takes.

* `World` has, besides the rows, the hold that each booking rests on;
* `Follows` is the law: `_usage` counts a booking once at most, in its window and for its
  worker;
* `follows_of_sound`: it holds where every `Account` is `Sound`;
* `Rewrite` says how a call rewrites an account, and `Rewrite.sound` that it stays sound if
  nothing is left behind.
-/

namespace Breero.Reservations.Accounting
open KeyedTable Bookings Dispatch

structure World where
  db : Db
  clock : Instant
  /-- The bookings with the holds that they rest on, the latest first. -/
  rests : List (Uuid × Uuid) := []
/-! ## The law -/

/-- The jobs and holds of a booking, of those that `_usage` counts. -/
def partOf (load : Load) (bookingId : Uuid) : Load := {
  jobs := load.jobs.filter fun job => job.bookingId = bookingId
  holds := load.holds.filter fun hold => hold.bookingId = some bookingId }

/-- The windows that `_usage` counts. -/
def windows (load : Load) : List (Instant × Instant) :=
  load.jobs.map (fun job => (job.scheduledStart, job.scheduledEnd)) ++
    load.holds.map fun hold => (hold.slotStartUtc, hold.slotEndUtc)

theorem window_of_job {load : Load} {job : Job} (h : job ∈ load.jobs) :
    (job.scheduledStart, job.scheduledEnd) ∈ windows load :=
  List.mem_append_left _ (List.mem_map.mpr ⟨job, h, rfl⟩)

theorem window_of_hold {load : Load} {hold : BookingCapacityHold} (h : hold ∈ load.holds) :
    (hold.slotStartUtc, hold.slotEndUtc) ∈ windows load :=
  List.mem_append_right _ (List.mem_map.mpr ⟨hold, h, rfl⟩)

/-- The jobs and holds of the usage, and those that overlap a window, are as many as the
windows. -/
theorem usage_windows (load : Load) (start stop : Instant) :
    (usage load start stop).1.jobCount + (usage load start stop).1.holdCount =
        (windows load).length ∧
      (usage load start stop).2 =
        ((windows load).countP fun window => overlaps start stop window.1 window.2) := by
  constructor
  · simp [usage, windows]
  · simp only [usage, windows, List.countP_append, List.countP_map]
    rfl

/-- The worker of a booking or, if it has none, the professional of its hold. -/
def responsible (booking : Booking) (hold : BookingCapacityHold) : Uuid :=
  booking.providerWorkerId.getD hold.professionalCandidateId

/-- The worker is charged for the booking once at most, in its window, and only if it is
theirs. -/
structure Charged (booking : Booking) (hold : BookingCapacityHold) (worker : Uuid)
    (part : Load) : Prop where
  once : ∀ start stop : Instant,
    (usage part start stop).1.jobCount + (usage part start stop).1.holdCount ≤ 1
  current : ∀ window ∈ windows part, window = (booking.windowStart, booking.windowEnd)
  worker : windows part ≠ [] → worker = responsible booking hold

theorem Charged.windows_le {booking : Booking} {hold : BookingCapacityHold} {worker : Uuid}
    {part : Load} (h : Charged booking hold worker part) : (windows part).length ≤ 1 := by
  have honce := h.once 0 0
  rw [(usage_windows part 0 0).1] at honce
  omega

theorem Charged.of_windows {booking : Booking} {hold : BookingCapacityHold} {worker : Uuid}
    {part : Load} (once : (windows part).length ≤ 1)
    (current : ∀ window ∈ windows part, window = (booking.windowStart, booking.windowEnd))
    (theirs : windows part ≠ [] → worker = responsible booking hold) :
    Charged booking hold worker part := by
  refine ⟨fun start stop => ?_, current, theirs⟩
  rw [(usage_windows part start stop).1]
  omega

/-- The hold that the booking rests on. -/
def World.restsOn (w : World) (bookingId : Uuid) : Option BookingCapacityHold :=
  (w.rests.lookup bookingId).bind w.db.holds.get?

/-- What `_usage` counts for any worker and day follows the bookings that were reserved
through a hold. -/
def Follows (w : World) : Prop :=
  ∀ booking ∈ w.db.bookings.rows, liveBookingStatus booking.status = true →
    ∀ hold ∈ w.restsOn booking.id, ∀ (zone : Zone) (instant : Instant) (worker : Uuid),
      Charged booking hold worker
        (partOf (loadOn w.db w.clock worker (dayOf zone instant)) booking.id)

/-! ## Accounts -/

/-- What the rows say of a booking. -/
structure Account where
  booking : Option Booking
  jobs : List Job
  holds : List BookingCapacityHold
  rests : Option Uuid

def ownJobs (jobs : Table Job) (bookingId : Uuid) : List Job :=
  jobs.rows.filter fun job => job.bookingId = bookingId

def ownHolds (holds : Table BookingCapacityHold) (bookingId : Uuid) : List BookingCapacityHold :=
  holds.rows.filter fun hold => hold.bookingId = some bookingId

def World.account (w : World) (bookingId : Uuid) : Account := {
  booking := w.db.bookings.get? bookingId
  jobs := ownJobs w.db.jobs bookingId
  holds := ownHolds w.db.holds bookingId
  rests := w.rests.lookup bookingId }

/-- The worker whose time a job takes. -/
def busyWorker (job : Job) : Option Uuid :=
  if job.status ∈ [.cancelled, .completed] then none else job.workerId

theorem liveJob_iff {worker : Uuid} {job : Job} :
    liveJob worker job = true ↔ busyWorker job = some worker := by
  unfold liveJob busyWorker
  split
  · next hdone => simp [hdone]
  · next hopen => simp [hopen]

/-- A booking as its rows charge it: without a job, by the hold alone; with one, by the job
alone. -/
structure Settled (account : Account) (booking : Booking) (hold : BookingCapacityHold) :
    Prop where
  held : account.jobs = [] → account.holds = [hold] ∧
    hold.slotStartUtc = booking.windowStart ∧ hold.slotEndUtc = booking.windowEnd ∧
      booking.providerWorkerId = none
  busy : ∀ job ∈ account.jobs, ∀ worker ∈ busyWorker job,
    job.scheduledStart = booking.windowStart ∧ job.scheduledEnd = booking.windowEnd ∧
      worker = responsible booking hold

structure Sound (account : Account) : Prop where
  known : account.booking = none → account.jobs = [] ∧ account.holds = []
  one : account.jobs.length ≤ 1
  converted : ∀ hold ∈ account.holds, hold.status = .converted
  settled : ∀ booking ∈ account.booking, liveBookingStatus booking.status = true →
    ∀ holdId ∈ account.rests, ∃ hold ∈ account.holds, hold.id = holdId ∧
      Settled account booking hold

/-! ### What is counted of a sound account -/

variable {w w' : World} {bookingId : Uuid}

theorem partOf_jobs (w : World) (bookingId worker : Uuid) (day : Day) :
    (partOf (loadOn w.db w.clock worker day) bookingId).jobs =
      (w.account bookingId).jobs.filter fun job =>
        liveJob worker job && day.touches job.scheduledStart job.scheduledEnd := by
  simp only [partOf, loadOn, jobsOn, World.account, ownJobs, List.filter_filter, Bool.and_comm]

theorem partOf_holds (w : World) (bookingId worker : Uuid) (day : Day) :
    (partOf (loadOn w.db w.clock worker day) bookingId).holds =
      (w.account bookingId).holds.filter fun hold =>
        liveHold w.db w.clock worker hold && day.touches hold.slotStartUtc hold.slotEndUtc := by
  simp only [partOf, loadOn, holdsOn, World.account, ownHolds, List.filter_filter,
    Bool.and_comm]

theorem jobOfBooking_eq (w : World) (bookingId : Uuid) :
    w.db.jobOfBooking bookingId = (w.account bookingId).jobs.head? := by
  simp only [Db.jobOfBooking, World.account, ownJobs, List.head?_filter]

theorem charged_none (booking : Booking) (hold : BookingCapacityHold) (worker : Uuid) :
    Charged booking hold worker {} :=
  .of_windows (Nat.zero_le _) (fun _ h => absurd h List.not_mem_nil) fun h => absurd rfl h

theorem charged_hold {booking : Booking} {hold : BookingCapacityHold} {worker : Uuid}
    (start : hold.slotStartUtc = booking.windowStart) (stop : hold.slotEndUtc = booking.windowEnd)
    (theirs : worker = responsible booking hold) :
    Charged booking hold worker { holds := [hold] } := by
  refine .of_windows (Nat.le_refl _) (fun window hwindow => ?_) fun _ => theirs
  exact (List.mem_singleton.mp hwindow).trans (Prod.ext start stop)

theorem charged_job {booking : Booking} {hold : BookingCapacityHold} {job : Job} {worker : Uuid}
    (start : job.scheduledStart = booking.windowStart)
    (stop : job.scheduledEnd = booking.windowEnd) (theirs : worker = responsible booking hold) :
    Charged booking hold worker { jobs := [job] } := by
  refine .of_windows (Nat.le_refl _) (fun window hwindow => ?_) fun _ => theirs
  exact (List.mem_singleton.mp hwindow).trans (Prod.ext start stop)

/-- A sound account without a job: its hold, if the hold counts. -/
theorem Settled.charged_held {booking : Booking} {hold : BookingCapacityHold}
    (h : Settled (w.account booking.id) booking hold) (jobless : (w.account booking.id).jobs = [])
    (worker : Uuid) (day : Day) :
    Charged booking hold worker (partOf (loadOn w.db w.clock worker day) booking.id) := by
  obtain ⟨hholds, hstart, hstop, hworker⟩ := h.held jobless
  have hjobs := partOf_jobs w booking.id worker day
  have hpart := partOf_holds w booking.id worker day
  rw [jobless, List.filter_nil] at hjobs
  rw [hholds, List.filter_singleton] at hpart
  cases hload : partOf (loadOn w.db w.clock worker day) booking.id with
  | mk jobs holds =>
    rw [hload] at hjobs hpart
    subst hjobs
    cases hcounted : liveHold w.db w.clock worker hold &&
        day.touches hold.slotStartUtc hold.slotEndUtc with
    | false =>
      rw [hcounted] at hpart
      subst hpart
      exact charged_none booking hold worker
    | true =>
      rw [hcounted] at hpart
      subst hpart
      refine charged_hold hstart hstop ?_
      simp only [liveHold, Bool.and_eq_true, decide_eq_true_eq] at hcounted
      rw [responsible, hworker]
      exact hcounted.1.1.symm

/-- A sound account with a job: the job, if it counts. -/
theorem Sound.charged_busy {booking : Booking} {hold : BookingCapacityHold} {job : Job}
    (h : Sound (w.account booking.id)) (hsettled : Settled (w.account booking.id) booking hold)
    (hjob : (w.account booking.id).jobs = [job]) (worker : Uuid) (day : Day) :
    Charged booking hold worker (partOf (loadOn w.db w.clock worker day) booking.id) := by
  have hjobs := partOf_jobs w booking.id worker day
  have hholds : (partOf (loadOn w.db w.clock worker day) booking.id).holds = [] := by
    rw [partOf_holds, List.filter_eq_nil_iff]
    intro other hother hcounted
    -- a converted hold does not count where the booking has a job
    have hof : other.bookingId = some booking.id := by
      have hp := (List.mem_filter.mp hother).2
      simpa using hp
    simp only [liveHold, h.converted other hother, hof, Option.bind_some, jobOfBooking_eq, hjob,
      List.head?_cons, Option.isNone_some, Bool.and_false, Bool.false_and] at hcounted
    cases hcounted
  rw [hjob, List.filter_singleton] at hjobs
  cases hload : partOf (loadOn w.db w.clock worker day) booking.id with
  | mk jobs holds =>
    rw [hload] at hjobs hholds
    subst hholds
    cases hcounted : liveJob worker job && day.touches job.scheduledStart job.scheduledEnd with
    | false =>
      rw [hcounted] at hjobs
      subst hjobs
      exact charged_none booking hold worker
    | true =>
      rw [hcounted] at hjobs
      subst hjobs
      rw [Bool.and_eq_true] at hcounted
      obtain ⟨hstart, hstop, htheirs⟩ :=
        hsettled.busy job (by rw [hjob]; exact List.mem_singleton_self job) worker
          (liveJob_iff.mp hcounted.1)
      exact charged_job hstart hstop htheirs

theorem follows_of_sound (h : ∀ bookingId, Sound (w.account bookingId)) : Follows w := by
  intro booking hmem hlive hold hrests zone instant worker
  obtain ⟨holdId, hlookup, hget⟩ := Option.bind_eq_some_iff.mp hrests
  obtain ⟨own, hown, hid, hsettled⟩ :=
    (h booking.id).settled booking (Table.get?_key hmem) hlive holdId hlookup
  have heq : own = hold := Table.eq_of_key (List.mem_filter.mp hown).1 (Table.mem_of_get? hget)
    (hid.trans (Table.key_of_get? hget).symm)
  subst heq
  cases hjobs : (w.account booking.id).jobs with
  | nil => exact hsettled.charged_held hjobs worker _
  | cons job rest =>
    have hrest : rest = [] := by
      have hone := (h booking.id).one
      rw [hjobs, List.length_cons] at hone
      exact List.length_eq_zero_iff.mp (by omega)
    subst hrest
    exact (h booking.id).charged_busy hsettled hjobs worker _
/-! ### The rows of one booking -/

theorem ownHolds_put {t : Table BookingCapacityHold} {hold hold' : BookingCapacityHold}
    (found : t.get? hold.id = some hold) (id : hold'.id = hold.id) (free : hold.bookingId = none)
    (hother : hold'.bookingId ≠ some bookingId) :
    ownHolds (t.put hold') bookingId = ownHolds t bookingId := by
  refine Table.filter_put_outside (c := hold) ?_ ?_ ?_
  · exact (show Keyed.key hold' = hold.id from id) ▸ found
  · simp [free]
  · simp [hother]

theorem ownHolds_convert {t : Table BookingCapacityHold} {hold hold' : BookingCapacityHold}
    (found : t.get? hold.id = some hold) (id : hold'.id = hold.id) (free : hold.bookingId = none)
    (own : hold'.bookingId = some bookingId) :
    (ownHolds (t.put hold') bookingId).Perm (hold' :: ownHolds t bookingId) := by
  refine Table.filter_put_entering (c := hold) ?_ ?_ ?_
  · exact (show Keyed.key hold' = hold.id from id) ▸ found
  · simp [free]
  · simp [own]

theorem ownJobs_put_other {t : Table Job} {job job' : Job} (found : t.get? job.id = some job)
    (id : job'.id = job.id) (bookingId' : job'.bookingId = job.bookingId)
    (hother : bookingId ≠ job.bookingId) :
    ownJobs (t.put job') bookingId = ownJobs t bookingId := by
  refine Table.filter_put_outside (c := job) ?_ ?_ ?_
  · exact (show Keyed.key job' = job.id from id) ▸ found
  · simp [Ne.symm hother]
  · simp [bookingId', Ne.symm hother]

/-- The only job of a booking, rewritten. -/
theorem ownJobs_put {t : Table Job} {job job' : Job} (only : ownJobs t bookingId = [job])
    (id : job'.id = job.id) (bookingId' : job'.bookingId = job.bookingId) :
    ownJobs (t.put job') bookingId = [job'] := by
  have hmem : job ∈ ownJobs t bookingId := only ▸ List.mem_singleton_self job
  have hkey : Keyed.key job = Keyed.key job' := id.symm
  have hput := Table.filter_put_inside (a := job') (c := job)
    (p := fun job => decide (job.bookingId = bookingId))
    (hkey ▸ Table.get?_key (List.mem_filter.mp hmem).1) (by rw [bookingId'])
  refine hput.trans ?_
  show (ownJobs t bookingId).map _ = _
  rw [only, List.map_singleton, if_pos hkey]

theorem eq_of_length_le_one {α : Type} {l : List α} (h : l.length ≤ 1) {a b : α} (ha : a ∈ l)
    (hb : b ∈ l) : a = b := by
  match l with
  | [] => cases ha
  | [_] => exact (List.mem_singleton.mp ha).trans (List.mem_singleton.mp hb).symm
  | _ :: _ :: _ => simp at h

theorem ownJobs_only {t : Table Job} {job : Job} (one : (ownJobs t bookingId).length ≤ 1)
    (hmem : job ∈ t.rows) (hof : job.bookingId = bookingId) : ownJobs t bookingId = [job] := by
  have hown : job ∈ ownJobs t bookingId := List.mem_filter.mpr ⟨hmem, by simp [hof]⟩
  match hjobs : ownJobs t bookingId with
  | [] =>
    rw [hjobs] at hown
    cases hown
  | [other] =>
    rw [hjobs] at hown
    rw [List.mem_singleton.mp hown]
  | _ :: _ :: _ =>
    rw [hjobs] at one
    simp at one

theorem ownJobs_one {t : Table Job} (one : OneJob t) : (ownJobs t bookingId).length ≤ 1 := by
  have hnodup : (ownJobs t bookingId).Nodup := t.nodup.of_map.filter _
  have hof : ∀ job ∈ ownJobs t bookingId, job ∈ t.rows ∧ job.bookingId = bookingId := by
    intro job hjob
    obtain ⟨hmem, hown⟩ := List.mem_filter.mp hjob
    exact ⟨hmem, of_decide_eq_true hown⟩
  match hjobs : ownJobs t bookingId with
  | [] => exact Nat.zero_le _
  | [_] => exact Nat.le_refl _
  | first :: second :: rest =>
    rw [hjobs] at hnodup hof
    obtain ⟨hfirst, hown⟩ := hof first List.mem_cons_self
    obtain ⟨hsecond, hown'⟩ := hof second (List.mem_cons_of_mem _ List.mem_cons_self)
    have heq : second = first := one first hfirst second hsecond (hown'.trans hown.symm)
    exact absurd (heq ▸ List.mem_cons_self) (List.nodup_cons.mp hnodup).1

theorem ownJobs_nil {db : Db} (h : db.jobOfBooking bookingId = none) :
    ownJobs db.jobs bookingId = [] := by
  refine List.filter_eq_nil_iff.mpr fun job hjob => ?_
  simpa using jobOfBooking_none h job hjob

/-! ## Rewriting an account -/

/-- A booking that is put on the hold leaves no other hold behind, and no job that is not of
the hold's window and professional. -/
def LeavesNothing (account : Account) (hold : BookingCapacityHold) : Prop :=
  (account.jobs = [] → account.holds = []) ∧
    ∀ job ∈ account.jobs, ∀ worker ∈ busyWorker job,
      job.scheduledStart = hold.slotStartUtc ∧ job.scheduledEnd = hold.slotEndUtc ∧
        worker = hold.professionalCandidateId

/-- The job of a booking that rests on a hold is in the window of the booking. -/
def JobInWindow (account : Account) : Prop :=
  account.rests.isSome → ∀ booking ∈ account.booking, ∀ job ∈ account.jobs,
    job.scheduledStart = booking.windowStart ∧ job.scheduledEnd = booking.windowEnd

instance (account : Account) (hold : BookingCapacityHold) :
    Decidable (LeavesNothing account hold) :=
  inferInstanceAs (Decidable ((_ → _) ∧ ∀ job ∈ account.jobs, ∀ worker ∈ busyWorker job, _))

instance : DecidablePred JobInWindow := fun account =>
  inferInstanceAs (Decidable (_ → ∀ booking ∈ account.booking, ∀ job ∈ account.jobs, _))

/-- The booking is put on a hold that was converted for it. -/
structure Rested (account account' : Account) (booking : Booking) (hold : BookingCapacityHold) :
    Prop where
  booking' : account'.booking = some booking
  jobs : account'.jobs = account.jobs
  holds : account'.holds.Perm (hold :: account.holds)
  rests : account'.rests = some hold.id
  converted : hold.status = .converted
  start : hold.slotStartUtc = booking.windowStart
  stop : hold.slotEndUtc = booking.windowEnd
  worker : booking.providerWorkerId = none

/-- A live booking gets a worker, and a job that is the one it has or one in its window. -/
structure Assigned (account account' : Account) (booking assigned : Booking) (job : Job) :
    Prop where
  found : account.booking = some booking
  live : liveBookingStatus booking.status = true
  booking' : account'.booking = some assigned
  live' : liveBookingStatus assigned.status = true
  jobs : account'.jobs = [job]
  holds : account'.holds = account.holds
  rests : account'.rests = account.rests
  start : assigned.windowStart = booking.windowStart
  stop : assigned.windowEnd = booking.windowEnd
  worker : assigned.providerWorkerId.isSome
  busy : busyWorker job = assigned.providerWorkerId
  kept : ∀ own ∈ account.jobs,
    job.scheduledStart = own.scheduledStart ∧ job.scheduledEnd = own.scheduledEnd
  fresh : account.jobs = [] →
    job.scheduledStart = booking.windowStart ∧ job.scheduledEnd = booking.windowEnd

/-- A live booking loses its worker, and its job too. -/
structure Unassigned (account account' : Account) (booking unassigned : Booking) : Prop where
  found : account.booking = some booking
  live : liveBookingStatus booking.status = true
  booking' : account'.booking = some unassigned
  one : account'.jobs.length ≤ 1
  jobless : account'.jobs = [] → account.jobs = []
  idle : ∀ job ∈ account'.jobs, job.workerId = none
  holds : account'.holds = account.holds
  rests : account'.rests = account.rests
  start : unassigned.windowStart = booking.windowStart
  stop : unassigned.windowEnd = booking.windowEnd
  worker : unassigned.providerWorkerId = none

inductive Rewrite (account account' : Account) : Prop
  | rested (booking : Booking) (hold : BookingCapacityHold)
      (rested : Rested account account' booking hold) (leaves : LeavesNothing account hold)
  | assigned (booking assigned : Booking) (job : Job)
      (assigned : Assigned account account' booking assigned job) (inWindow : JobInWindow account)
  | unassigned (booking unassigned : Booking)
      (unassigned : Unassigned account account' booking unassigned)
  | cancelled (booking : Booking) (booking' : account'.booking = some booking)
      (dead : liveBookingStatus booking.status = false) (one : account'.jobs.length ≤ 1)
      (holds : account'.holds = account.holds)

variable {account account' : Account}

theorem Rested.sound {booking : Booking} {hold : BookingCapacityHold}
    (h : Rested account account' booking hold) (leaves : LeavesNothing account hold)
    (hsound : Sound account) : Sound account' where
  known hnone := by
    rw [h.booking'] at hnone
    cases hnone
  one := by
    rw [h.jobs]
    exact hsound.one
  converted other hother := by
    rcases List.mem_cons.mp (h.holds.mem_iff.mp hother) with rfl | hother
    · exact h.converted
    · exact hsound.converted other hother
  settled moved hmoved hlive holdId hrests := by
    rw [Option.mem_def, h.booking'] at hmoved
    rw [Option.mem_def, h.rests] at hrests
    cases hmoved
    cases hrests
    refine ⟨hold, h.holds.mem_iff.mpr List.mem_cons_self, rfl, ?_, ?_⟩
    · intro hjobs
      have hholds := h.holds
      rw [leaves.1 (h.jobs ▸ hjobs)] at hholds
      exact ⟨List.perm_singleton.mp hholds, h.start, h.stop, h.worker⟩
    · rw [h.jobs, responsible, h.worker]
      intro job hjob worker hworker
      obtain ⟨hstart, hstop, htheirs⟩ := leaves.2 job hjob worker hworker
      exact ⟨hstart.trans h.start, hstop.trans h.stop, htheirs⟩

theorem busyWorker_some {job : Job} {worker : Uuid} (h : busyWorker job = some worker) :
    job.workerId = some worker := by
  unfold busyWorker at h
  split at h
  · cases h
  · exact h

/-- A booking is rewritten, and its holds are as they were. -/
theorem Sound.rewritten {booking : Booking} (hsound : Sound account)
    (booking' : account'.booking = some booking) (one : account'.jobs.length ≤ 1)
    (holds : account'.holds = account.holds)
    (settled : liveBookingStatus booking.status = true → ∀ holdId ∈ account'.rests,
      ∃ hold ∈ account'.holds, hold.id = holdId ∧ Settled account' booking hold) :
    Sound account' where
  known hnone := by
    rw [booking'] at hnone
    cases hnone
  one := one
  converted := by
    rw [holds]
    exact hsound.converted
  settled found hfound := by
    rw [Option.mem_def, booking'] at hfound
    cases hfound
    exact settled

theorem Assigned.sound {booking assigned : Booking} {job : Job}
    (h : Assigned account account' booking assigned job) (inWindow : JobInWindow account)
    (hsound : Sound account) : Sound account' := by
  refine hsound.rewritten h.booking' ?_ h.holds fun _ holdId hrests => ?_
  · rw [h.jobs]
    exact Nat.le_refl _
  · rw [h.rests] at hrests
    obtain ⟨hold, hhold, hid, _⟩ := hsound.settled booking h.found h.live holdId hrests
    refine ⟨hold, h.holds ▸ hhold, hid, ?_, ?_⟩
    · intro hjobs
      rw [h.jobs] at hjobs
      cases hjobs
    · intro other hother worker hworker
      rw [h.jobs, List.mem_singleton] at hother
      subst hother
      have htheirs : worker = responsible assigned hold := by
        rw [responsible, ← h.busy, hworker]
        rfl
      rw [h.start, h.stop]
      cases hjobs : account.jobs with
      | nil => exact ⟨(h.fresh hjobs).1, (h.fresh hjobs).2, htheirs⟩
      | cons own rest =>
        have hown : own ∈ account.jobs := hjobs ▸ List.mem_cons_self
        obtain ⟨hstart, hstop⟩ := h.kept own hown
        obtain ⟨hwindow, hwindow'⟩ :=
          inWindow (Option.isSome_iff_exists.mpr ⟨holdId, hrests⟩) booking h.found own hown
        exact ⟨hstart.trans hwindow, hstop.trans hwindow', htheirs⟩

theorem Unassigned.sound {booking unassigned : Booking}
    (h : Unassigned account account' booking unassigned) (hsound : Sound account) :
    Sound account' := by
  refine hsound.rewritten h.booking' h.one h.holds fun _ holdId hrests => ?_
  rw [h.rests] at hrests
  obtain ⟨hold, hhold, hid, hsettled⟩ := hsound.settled booking h.found h.live holdId hrests
  refine ⟨hold, h.holds ▸ hhold, hid, ?_, ?_⟩
  · intro hjobs
    obtain ⟨hholds, hstart, hstop, _⟩ := hsettled.held (h.jobless hjobs)
    exact ⟨h.holds.trans hholds, hstart.trans h.start.symm, hstop.trans h.stop.symm, h.worker⟩
  · intro job hjob worker hworker
    have hidle := busyWorker_some hworker
    rw [h.idle job hjob] at hidle
    cases hidle

theorem Rewrite.sound (h : Rewrite account account') (hsound : Sound account) :
    Sound account' := by
  cases h with
  | rested booking hold rested leaves => exact rested.sound leaves hsound
  | assigned booking assigned job assigned inWindow => exact assigned.sound inWindow hsound
  | unassigned booking unassigned unassigned => exact unassigned.sound hsound
  | cancelled booking booking' dead one holds =>
    refine hsound.rewritten booking' one holds fun hlive => ?_
    rw [dead] at hlive
    cases hlive

/-! ## A booking that leaves something behind -/

/-- A window that is not empty touches the day that begins with it, in some timezone. -/
theorem touches_own_day {start stop : Instant} (h : start < stop) :
    (dayOf (Zone.fixed (-start)) start).touches start stop := by
  simp only [dayOf, Zone.toLocal, Zone.toUtc, Zone.fixed, Day.touches, dateOf, dayLength]
  dsimp only [Instant] at *
  omega

/-- The hold of an account is the one that the booking rests on. -/
theorem restsOn_of_account {hold : BookingCapacityHold}
    (hown : hold ∈ (w.account bookingId).holds)
    (hrests : (w.account bookingId).rests = some hold.id) :
    w.restsOn bookingId = some hold := by
  have hlookup : w.rests.lookup bookingId = some hold.id := hrests
  simp only [World.restsOn, hlookup, Option.bind_some]
  exact Table.get?_key (List.mem_filter.mp hown).1

theorem Follows.of_job (h : Follows w) {booking : Booking} {hold : BookingCapacityHold} {job : Job}
    {worker : Uuid} (hbooking : booking ∈ w.db.bookings.rows)
    (hlive : liveBookingStatus booking.status = true) (hrests : w.restsOn booking.id = some hold)
    (hjob : job ∈ (w.account booking.id).jobs) (hworker : busyWorker job = some worker)
    (hwindow : job.scheduledStart < job.scheduledEnd) :
    job.scheduledStart = booking.windowStart ∧ job.scheduledEnd = booking.windowEnd ∧
      worker = responsible booking hold := by
  have hcharged := h booking hbooking hlive hold hrests (Zone.fixed (-job.scheduledStart))
    job.scheduledStart worker
  have hcounted : (job.scheduledStart, job.scheduledEnd) ∈ windows (partOf (loadOn w.db w.clock
      worker (dayOf (Zone.fixed (-job.scheduledStart)) job.scheduledStart)) booking.id) := by
    refine window_of_job ?_
    rw [partOf_jobs]
    refine List.mem_filter.mpr ⟨hjob, ?_⟩
    simp [liveJob_iff.mpr hworker, touches_own_day hwindow]
  obtain ⟨hstart, hstop⟩ := Prod.ext_iff.mp (hcharged.current _ hcounted)
  exact ⟨hstart, hstop, hcharged.worker (List.ne_nil_of_mem hcounted)⟩

/-- The holds that count for a booking without a job, on the day of one of them. -/
theorem hold_counts {booking : Booking} {hold : BookingCapacityHold} {day : Day}
    (hbooking : w.db.bookings.get? booking.id = some booking)
    (hlive : liveBookingStatus booking.status = true)
    (hjobless : (w.account booking.id).jobs = []) (hown : hold ∈ (w.account booking.id).holds)
    (hconverted : hold.status = .converted)
    (htouches : day.touches hold.slotStartUtc hold.slotEndUtc) :
    hold ∈ (partOf (loadOn w.db w.clock hold.professionalCandidateId day) booking.id).holds := by
  rw [partOf_holds]
  refine List.mem_filter.mpr ⟨hown, ?_⟩
  have hof : hold.bookingId = some booking.id := of_decide_eq_true (List.mem_filter.mp hown).2
  simp [liveHold, hconverted, hof, hbooking, hlive, jobOfBooking_eq, hjobless, htouches]

/-- A booking without a job rests on its only hold. -/
theorem Follows.one_hold (h : Follows w) {booking : Booking} {hold other : BookingCapacityHold}
    (hbooking : w.db.bookings.get? booking.id = some booking)
    (hlive : liveBookingStatus booking.status = true) (hrests : w.restsOn booking.id = some hold)
    (hjobless : (w.account booking.id).jobs = [])
    (hconverted : ∀ hold ∈ (w.account booking.id).holds, hold.status = .converted)
    (hown : hold ∈ (w.account booking.id).holds) (hother : other ∈ (w.account booking.id).holds)
    (hwindow : hold.slotStartUtc < hold.slotEndUtc)
    (hwindow' : other.slotStartUtc < other.slotEndUtc) : other = hold := by
  have hcounts : ∀ a ∈ (w.account booking.id).holds, a.slotStartUtc < a.slotEndUtc →
      a.slotStartUtc = booking.windowStart ∧ a.slotEndUtc = booking.windowEnd ∧
        a.professionalCandidateId = responsible booking hold := by
    intro a ha hnonempty
    have hcounted := hold_counts hbooking hlive hjobless ha (hconverted a ha)
      (touches_own_day hnonempty)
    have hwindows := window_of_hold hcounted
    have hcharged := h booking (Table.mem_of_get? hbooking) hlive hold hrests
      (Zone.fixed (-a.slotStartUtc)) a.slotStartUtc a.professionalCandidateId
    obtain ⟨hstart, hstop⟩ := Prod.ext_iff.mp (hcharged.current _ hwindows)
    exact ⟨hstart, hstop, hcharged.worker (List.ne_nil_of_mem hwindows)⟩
  obtain ⟨hstart, hstop, htheirs⟩ := hcounts hold hown hwindow
  obtain ⟨hstart', hstop', htheirs'⟩ := hcounts other hother hwindow'
  -- both are counted for one professional on the day of the hold
  have htouches := touches_own_day hwindow
  have hcounted := hold_counts hbooking hlive hjobless hown (hconverted hold hown) htouches
  have htouches' : (dayOf (Zone.fixed (-hold.slotStartUtc)) hold.slotStartUtc).touches
      other.slotStartUtc other.slotEndUtc := by
    rw [hstart', hstop', ← hstart, ← hstop]
    exact htouches
  have hcounted' := hold_counts hbooking hlive hjobless hother (hconverted other hother) htouches'
  rw [htheirs', ← htheirs] at hcounted'
  have honce := (h booking (Table.mem_of_get? hbooking) hlive hold hrests
    (Zone.fixed (-hold.slotStartUtc)) hold.slotStartUtc hold.professionalCandidateId).windows_le
  simp only [windows, List.length_append, List.length_map] at honce
  exact eq_of_length_le_one (by omega) hcounted' hcounted

/-- The windows of the rows are not empty. -/
def WindowsNonempty (db : Db) : Prop :=
  (∀ job ∈ db.jobs.rows, job.scheduledStart < job.scheduledEnd) ∧
    ∀ hold ∈ db.holds.rows, hold.slotStartUtc < hold.slotEndUtc

theorem Rested.leavesNothing {booking : Booking} {hold : BookingCapacityHold}
    (h : Rested (w.account bookingId) (w'.account bookingId) booking hold) (hfollows : Follows w')
    (hlive : liveBookingStatus booking.status = true) (hsound : Sound (w.account bookingId))
    (hwindows : WindowsNonempty w.db) (hwindow : hold.slotStartUtc < hold.slotEndUtc) :
    LeavesNothing (w.account bookingId) hold := by
  have hid : booking.id = bookingId := Table.key_of_get? h.booking'
  subst hid
  have hown : hold ∈ (w'.account booking.id).holds := h.holds.mem_iff.mpr List.mem_cons_self
  have hrests := restsOn_of_account hown h.rests
  constructor
  · intro hjobless
    have hall : ∀ other ∈ (w'.account booking.id).holds,
        other.status = .converted ∧ other.slotStartUtc < other.slotEndUtc := by
      intro other hother
      rcases List.mem_cons.mp (h.holds.mem_iff.mp hother) with rfl | hother
      · exact ⟨h.converted, hwindow⟩
      · exact ⟨hsound.converted other hother,
          hwindows.2 other (List.mem_filter.mp hother).1⟩
    -- all holds are the new one, which was not there
    have hnodup : (hold :: (w.account booking.id).holds).Nodup :=
      h.holds.nodup_iff.mp (w'.db.holds.nodup.of_map.filter _)
    refine List.eq_nil_iff_forall_not_mem.mpr fun other hother => ?_
    have hother' : other ∈ (w'.account booking.id).holds :=
      h.holds.mem_iff.mpr (List.mem_cons_of_mem _ hother)
    have heq := hfollows.one_hold h.booking' hlive hrests (h.jobs.trans hjobless)
      (fun a ha => (hall a ha).1) hown hother' hwindow (hall other hother').2
    exact (List.nodup_cons.mp hnodup).1 (heq ▸ hother)
  · intro job hjob worker hworker
    have hjob' : job ∈ (w'.account booking.id).jobs := h.jobs ▸ hjob
    obtain ⟨hstart, hstop, htheirs⟩ := hfollows.of_job (Table.mem_of_get? h.booking') hlive hrests
      hjob' hworker (hwindows.1 job (List.mem_filter.mp hjob).1)
    rw [responsible, h.worker] at htheirs
    exact ⟨hstart.trans h.start.symm, hstop.trans h.stop.symm, htheirs⟩

theorem Assigned.inWindow {booking assigned : Booking} {job : Job}
    (h : Assigned (w.account bookingId) (w'.account bookingId) booking assigned job)
    (hfollows : Follows w') (hsound : Sound (w.account bookingId))
    (hwindows : WindowsNonempty w.db) : JobInWindow (w.account bookingId) := by
  have hid : assigned.id = bookingId := Table.key_of_get? h.booking'
  subst hid
  intro hrests other hother own hown
  rw [Option.mem_def, h.found] at hother
  cases hother
  obtain ⟨holdId, hholdId⟩ := Option.isSome_iff_exists.mp hrests
  obtain ⟨worker, hworkerId⟩ := Option.isSome_iff_exists.mp h.worker
  obtain ⟨hold, hhold, hid, _⟩ := hsound.settled booking h.found h.live holdId hholdId
  have hrestsOn : w'.restsOn assigned.id = some hold :=
    restsOn_of_account (h.holds ▸ hhold) (by rw [h.rests, hholdId, hid])
  obtain ⟨hstart, hstop⟩ := h.kept own hown
  have hwindow := hwindows.1 own (List.mem_filter.mp hown).1
  rw [← hstart, ← hstop] at hwindow ⊢
  have hjob : job ∈ (w'.account assigned.id).jobs := h.jobs ▸ List.mem_singleton_self job
  obtain ⟨hstart', hstop', _⟩ := hfollows.of_job (Table.mem_of_get? h.booking') h.live' hrestsOn
    hjob (h.busy.trans hworkerId) hwindow
  exact ⟨hstart'.trans h.start, hstop'.trans h.stop⟩

end Breero.Reservations.Accounting
