import Breero.Lib.Locks
import Breero.Lib.Representatives
import Breero.Lib.Runs
import Breero.Lib.Windows
import Breero.Booking.Availability
import Breero.Dispatch.System

/-!
Bookings of windows, interleaved.

A call of `create` has the lock of its slot when it searches, and is open until it commits.
The key of the lock is spelled with the offsets of the window, so that two spellings of one
window are two locks.

* `Creating.exec` is what a step does;
* `Creating.windows_assignable`: the bookings that wait for a worker can be given different
  ones, if each is made when its search has counted all that compete with it;
* `Creating.shared_worker_oversold` is a run in which two services count one worker.
-/

namespace Breero.Reservations
open KeyedTable Transaction Runs Windows Locks Representatives Bookings

/-! ## The system -/

inductive WindowLock
  | idempotencyKey (key : String)
  | slot (serviceId : Uuid) (window : BookingWindow)
  deriving DecidableEq, Repr

/-- `lock_idempotency_key` and `lock_slot`. -/
def createLocks (attempt : CreateAttempt) : List WindowLock :=
  [.idempotencyKey attempt.idempotencyKey,
   .slot attempt.payload.serviceId attempt.payload.window]

structure Creating where
  db : Db
  clock : Instant
  creates : List CreateAttempt := []

namespace Creating

inductive Op
  | tick (elapsed : Nat)
  /-- `create`, which began at `began`, has found its window -/
  | search (payload : BookingCreateRequest) (idempotencyKey : String) (began : Instant)
  /-- the open call at the position commits, or raises -/
  | finish (position : Nat) (now : Instant) (ids : CreateIds)

def exec (settings : Settings) (dir : Directory) (w : Creating) : Op → Creating
  | .tick elapsed => { w with clock := w.clock + elapsed }
  | .search payload idempotencyKey began =>
    match beginCreate settings dir w.db payload idempotencyKey began w.clock with
    | .ok (.inr attempt) =>
      if began ≤ w.clock ∧ Free createLocks w.creates (createLocks attempt) then
        { w with creates := w.creates ++ [attempt] }
      else w
    | _ => w
  | .finish position now ids =>
    match w.creates[position]? with
    | none => w
    | some attempt =>
      if now ≤ w.clock then
        let creates := w.creates.eraseIdx position
        match finishCreate w.db attempt now ids with
        | .ok (db, _) => { w with db, creates }
        | .error _ => { w with creates }
      else w

end Creating

/-! ## The law -/

/-- The bookings that wait for a worker. -/
def waiting (db : Db) (now : Instant) : List Booking :=
  db.bookings.rows.filter fun booking => holdsWindow now booking && booking.providerWorkerId.isNone

/-- The workers that a search counts for the booking: those whose own visits leave room in
their hours. -/
def workersFor (dir : Directory) (db : Db) (now : Instant) (booking : Booking) : List Uuid :=
  slotWorkers dir db now booking.serviceId booking.addressId booking.windowStart booking.windowEnd

def bookingWindow (booking : Booking) : Window Instant := ⟨booking.windowStart, booking.windowEnd⟩

def Overlapping (a b : Booking) : Prop := (bookingWindow a).meets (bookingWindow b) = true

instance : DecidableRel Overlapping := fun _ _ => inferInstanceAs (Decidable (_ = true))

/-- The waiting bookings can all be given a worker, and overlapping ones different workers. -/
def Assignable (dir : Directory) (db : Db) (now : Instant) : Prop :=
  ∃ worker, Represents worker (waiting db now) (workersFor dir db now) Overlapping

/-! ## What is counted as time passes -/

variable {dir : Directory} {db db' : Db} {now now' : Instant}

theorem holdsWindow_before {booking : Booking} (hle : now ≤ now')
    (h : holdsWindow now' booking = true) : holdsWindow now booking = true := by
  simp only [holdsWindow, Bool.or_eq_true, Bool.and_eq_true, decide_eq_true_eq] at h ⊢
  rcases h with h | ⟨hstatus, hexpires⟩
  · exact Or.inl h
  · exact Or.inr ⟨hstatus, hle.trans_lt hexpires⟩

theorem bookingCount_later (db : Db) (hle : now ≤ now') (serviceId : Uuid) (start stop : Instant) :
    bookingCount db now' serviceId start stop ≤ bookingCount db now serviceId start stop := by
  refine List.countP_mono_left fun booking _ h => ?_
  simp only [Bool.and_eq_true] at h ⊢
  exact ⟨h.1, holdsWindow_before hle h.2⟩

theorem providerBookingCount_later (hle : now ≤ now') (workerId : Uuid) (start stop : Instant) :
    providerBookingCount db now' workerId start stop ≤
      providerBookingCount db now workerId start stop := by
  refine List.countP_mono_left fun booking _ h => ?_
  simp only [occupiesWindow, Bool.and_eq_true] at h ⊢
  exact ⟨h.1, holdsWindow_before hle h.2⟩

/-- With fewer visits of the workers, more of them are counted. -/
theorem slotWorkers_sublist (hworkers : db'.workers = db.workers)
    (hvendors : db'.vendors = db.vendors)
    (hle : ∀ workerId start stop, providerBookingCount db' now' workerId start stop ≤
      providerBookingCount db now workerId start stop)
    (serviceId addressId : Uuid) (start stop : Instant) :
    (slotWorkers dir db now serviceId addressId start stop).Sublist
      (slotWorkers dir db' now' serviceId addressId start stop) := by
  have hwindows : ∀ zone postalCode date, windowsOn dir db' zone serviceId postalCode date =
      windowsOn dir db zone serviceId postalCode date := by
    intro zone postalCode date
    simp only [windowsOn, eligibleProviderHours, hworkers, hvendors]
  unfold slotWorkers
  cases dir.addresses.get? addressId with
  | none => exact List.Sublist.refl _
  | some address =>
    cases hzone : dir.zones address.timezoneName with
    | none => simp [hzone]
    | some zone =>
      simp only [Option.bind_some, hzone, Option.map_some, Option.getD_some]
      refine ((List.Sublist.filter _ ?_).map _)
      rw [countedWindows, countedWindows, hwindows]
      refine List.monotone_filter_right _ fun window h => ?_
      have hcount := hle window.workerId window.start window.stop
      simp only [decide_eq_true_eq] at h ⊢
      omega

/-! ## What a commit changes -/

theorem slotWorkers_insert (dir : Directory) {booking : Booking}
    (hinsert : db.bookings.insert? booking = some db'.bookings)
    (hnone : booking.providerWorkerId = none) (hworkers : db'.workers = db.workers)
    (hvendors : db'.vendors = db.vendors) (now : Instant) (serviceId addressId : Uuid)
    (start stop : Instant) :
    (slotWorkers dir db now serviceId addressId start stop).Sublist
      (slotWorkers dir db' now serviceId addressId start stop) := by
  refine slotWorkers_sublist hworkers hvendors ?_ serviceId addressId start stop
  intro workerId start stop
  simp [providerBookingCount, occupiesWindow, Table.countP_insert _ hinsert, hnone]

/-- The window of a call. -/
def createSlot (attempt : CreateAttempt) : Uuid × Instant × Instant :=
  (attempt.payload.serviceId, attempt.payload.window.start, attempt.payload.window.stop)

theorem bookingCount_insert {booking : Booking} {serviceId : Uuid} {start stop : Instant}
    (hinsert : db.bookings.insert? booking = some db'.bookings) (now : Instant)
    (hother : (booking.serviceId, booking.windowStart, booking.windowEnd) ≠
      (serviceId, start, stop)) :
    bookingCount db' now serviceId start stop = bookingCount db now serviceId start stop := by
  simp only [bookingCount, Table.countP_insert _ hinsert]
  simp only [ne_eq, Prod.mk.injEq] at hother
  rw [if_neg, Nat.add_zero]
  simp only [Bool.and_eq_true, decide_eq_true_eq]
  rintro ⟨⟨⟨hservice, hstart⟩, hstop⟩, _⟩
  exact hother ⟨hservice, hstart, hstop⟩

theorem waiting_insert {booking : Booking}
    (hinsert : db.bookings.insert? booking = some db'.bookings) (now : Instant) :
    waiting db' now ⊆ waiting db now ++ [booking] := by
  intro other hother
  obtain ⟨hmem, hwaits⟩ := List.mem_filter.mp hother
  rw [List.mem_append, List.mem_singleton]
  rcases (Table.mem_insert hinsert).mp hmem with hmem | rfl
  · exact Or.inl (List.mem_filter.mpr ⟨hmem, hwaits⟩)
  · exact Or.inr rfl

/-- The waiting bookings in the window of a service are counted for it. -/
theorem waiting_counted (db : Db) (now : Instant) (serviceId : Uuid) (start stop : Instant) :
    ((waiting db now).filter fun booking => booking.serviceId = serviceId &&
      booking.windowStart = start && booking.windowEnd = stop).length ≤
        bookingCount db now serviceId start stop := by
  rw [waiting, List.filter_filter, bookingCount, List.countP_eq_length_filter]
  refine (List.monotone_filter_right _ fun booking h => ?_).length_le
  simp only [Bool.and_eq_true] at h ⊢
  exact ⟨h.1, h.2.1⟩

namespace Creating

variable {settings : Settings} {w : Creating}

/-! ## The condition -/

/-- No open call is for the window under another spelling. -/
def OneSpelling (w : Creating) (payload : BookingCreateRequest) : Prop :=
  ∀ other ∈ w.creates, other.payload.serviceId = payload.serviceId →
    other.payload.window.start = payload.window.start →
      other.payload.window.stop = payload.window.stop → other.payload.window = payload.window

instance (w : Creating) (payload : BookingCreateRequest) : Decidable (w.OneSpelling payload) :=
  inferInstanceAs (Decidable (∀ other ∈ w.creates, _ → _ → _ → _))

/-- The workers that the search counts for a call. -/
def workersOf (dir : Directory) (w : Creating) (payload : BookingCreateRequest) : List Uuid :=
  slotWorkers dir w.db w.clock payload.serviceId payload.addressId payload.window.start
    payload.window.stop

/-- The search counts a worker once, and it counts each waiting booking that overlaps the
window and could have one of these workers: it is for the same service and window. -/
def CountsRivals (dir : Directory) (w : Creating) (payload : BookingCreateRequest) : Prop :=
  (w.workersOf dir payload).Nodup ∧
  ∀ booking ∈ waiting w.db w.clock,
    (bookingWindow booking).meets ⟨payload.window.start, payload.window.stop⟩ = true →
      (∃ id ∈ workersFor dir w.db w.clock booking, id ∈ w.workersOf dir payload) →
        booking.serviceId = payload.serviceId ∧ booking.windowStart = payload.window.start ∧
          booking.windowEnd = payload.window.stop

instance (dir : Directory) (w : Creating) (payload : BookingCreateRequest) :
    Decidable (w.CountsRivals dir payload) :=
  inferInstanceAs (Decidable (_ ∧ ∀ booking ∈ waiting w.db w.clock, _ → _ → _))

def CountsAll (dir : Directory) (w : Creating) : Op → Prop
  | .tick _ => True
  | .search payload _ _ => w.OneSpelling payload
  | .finish position _ _ => ∀ attempt ∈ w.creates[position]?, w.CountsRivals dir attempt.payload

instance (dir : Directory) (w : Creating) : DecidablePred (w.CountsAll dir)
  | .tick _ => isTrue trivial
  | .search payload _ _ => inferInstanceAs (Decidable (w.OneSpelling payload))
  | .finish position _ _ =>
    inferInstanceAs (Decidable (∀ attempt ∈ w.creates[position]?,
      w.CountsRivals dir attempt.payload))

/-! ## Steps -/

/-- What a search found stays there for it. -/
def Room (dir : Directory) (w : Creating) (attempt : CreateAttempt) : Prop :=
  bookingCount w.db w.clock attempt.payload.serviceId attempt.payload.window.start
    attempt.payload.window.stop < (w.workersOf dir attempt.payload).length

structure AssignableInv (dir : Directory) (w : Creating) : Prop where
  assignable : Assignable dir w.db w.clock
  apart : Locks.Exclusive (fun attempt => [createSlot attempt]) w.creates
  room : ∀ attempt ∈ w.creates, w.Room dir attempt

theorem AssignableInv.later (h : AssignableInv dir w) (elapsed : Nat) :
    AssignableInv dir { w with clock := w.clock + elapsed } := by
  have hle : w.clock ≤ w.clock + elapsed :=
    Int.le_add_of_nonneg_right (Int.natCast_nonneg elapsed)
  have hsublist : ∀ serviceId addressId start stop,
      (slotWorkers dir w.db w.clock serviceId addressId start stop).Sublist
        (slotWorkers dir w.db (w.clock + elapsed) serviceId addressId start stop) :=
    slotWorkers_sublist rfl rfl (providerBookingCount_later hle)
  refine ⟨?_, h.apart, fun attempt hmem => ?_⟩
  · obtain ⟨worker, hrepresents⟩ := h.assignable
    refine ⟨worker, hrepresents.mono ?_ fun booking _ => (hsublist _ _ _ _).subset⟩
    intro booking hmem
    obtain ⟨hrow, hwaits⟩ := List.mem_filter.mp hmem
    rw [Bool.and_eq_true] at hwaits
    refine List.mem_filter.mpr ⟨hrow, ?_⟩
    rw [Bool.and_eq_true]
    exact ⟨holdsWindow_before hle hwaits.1, hwaits.2⟩
  · have hroom := h.room attempt hmem
    have hcount := bookingCount_later w.db hle attempt.payload.serviceId
      attempt.payload.window.start attempt.payload.window.stop
    exact (hcount.trans_lt hroom).trans_le (hsublist _ _ _ _).length_le

/-- The call that commits leaves the room that the others have found. -/
theorem AssignableInv.commit (h : AssignableInv dir w) {position : Nat} {attempt : CreateAttempt}
    {now : Instant} {ids : CreateIds} {db' : Db} {booking : Booking}
    (hat : w.creates[position]? = some attempt) (hcounts : w.CountsRivals dir attempt.payload)
    (hfinish : finishCreate w.db attempt now ids = .ok (db', booking)) :
    AssignableInv dir { w with db := db', creates := w.creates.eraseIdx position } := by
  obtain ⟨⟨customerId, hbooking⟩, hinsert, hworkers, hvendors, _, _⟩ := finishCreate_ok hfinish
  obtain ⟨hnodup, hrivals⟩ := hcounts
  have hnone : booking.providerWorkerId = none := by
    rw [hbooking]
    rfl
  have hslot : (booking.serviceId, booking.windowStart, booking.windowEnd) =
      createSlot attempt := by
    rw [hbooking]
    rfl
  have hsublist := slotWorkers_insert dir hinsert hnone hworkers hvendors w.clock
  refine ⟨?_, h.apart.eraseIdx position, fun other hmem => ?_⟩
  · obtain ⟨worker, hrepresents⟩ := h.assignable
    have hnew : booking ∉ waiting w.db w.clock := by
      intro hmem
      exact Table.key_fresh hinsert (List.mem_filter.mp hmem).1 rfl
    have hsymm : ∀ a b : Booking, Overlapping a b → Overlapping b a := by
      intro a b hab
      have hmeets := Window.meets_iff.mp hab
      exact Window.meets_iff.mpr ⟨hmeets.2, hmeets.1⟩
    have hworkersFor : workersFor dir w.db w.clock booking = w.workersOf dir attempt.payload := by
      rw [hbooking]
      rfl
    have hwindow : bookingWindow booking =
        ⟨attempt.payload.window.start, attempt.payload.window.stop⟩ := by
      rw [hbooking]
      rfl
    -- the rivals are the bookings that the search has counted
    have htaken : ∀ other ∈ waiting w.db w.clock, Overlapping other booking →
        worker other ∈ workersFor dir w.db w.clock booking →
          other ∈ (waiting w.db w.clock).filter fun other =>
            other.serviceId = attempt.payload.serviceId &&
              other.windowStart = attempt.payload.window.start &&
                other.windowEnd = attempt.payload.window.stop := by
      intro other hmem hoverlaps hworker
      unfold Overlapping at hoverlaps
      rw [hwindow] at hoverlaps
      rw [hworkersFor] at hworker
      obtain ⟨hservice, hstart, hstop⟩ := hrivals other hmem hoverlaps
        ⟨worker other, hrepresents.option other hmem, hworker⟩
      refine List.mem_filter.mpr ⟨hmem, ?_⟩
      simp [hservice, hstart, hstop]
    have hfew := (waiting_counted w.db w.clock attempt.payload.serviceId
      attempt.payload.window.start attempt.payload.window.stop).trans_lt
        (h.room attempt (List.mem_of_getElem? hat))
    rw [← hworkersFor] at hfew hnodup
    obtain ⟨worker', hrepresents'⟩ := hrepresents.extend hnew hsymm hnodup htaken hfew
    exact ⟨worker', hrepresents'.mono (waiting_insert hinsert w.clock)
      fun booking _ => (hsublist _ _ _ _).subset⟩
  · have hroom := h.room other (List.mem_of_mem_eraseIdx hmem)
    have hother : createSlot attempt ≠ createSlot other := by
      intro hsame
      have hapart := h.apart.others hat other hmem (createSlot other) (List.mem_singleton_self _)
      rw [← hsame] at hapart
      exact hapart (List.mem_singleton_self _)
    have hcount := bookingCount_insert hinsert w.clock (hslot ▸ hother)
    exact (hcount.trans_lt hroom).trans_le (hsublist _ _ _ _).length_le

/-- A search that found its window waits with room for it. -/
theorem AssignableInv.begin (h : AssignableInv dir w) {payload : BookingCreateRequest}
    {idempotencyKey : String} {began : Instant} {attempt : CreateAttempt}
    (hbegin : beginCreate settings dir w.db payload idempotencyKey began w.clock =
      .ok (.inr attempt))
    (hfree : Free createLocks w.creates (createLocks attempt)) (hone : w.OneSpelling payload) :
    AssignableInv dir { w with creates := w.creates ++ [attempt] } := by
  obtain ⟨hpayload, hroom⟩ := beginCreate_free hbegin
  refine ⟨h.assignable, h.apart.push ?_, fun other hmem => ?_⟩
  · intro other hother slot hslot hmine
    rw [List.mem_singleton] at hslot hmine
    rw [hslot, createSlot, createSlot, hpayload, Prod.mk.injEq, Prod.mk.injEq] at hmine
    obtain ⟨hservice, hstart, hstop⟩ := hmine
    have hwindow := hone other hother hservice hstart hstop
    refine hfree other hother (.slot other.payload.serviceId other.payload.window)
      (by simp [createLocks]) ?_
    simp [createLocks, hpayload, hservice, hwindow]
  · rcases List.mem_append.mp hmem with hmem | hmem
    · exact h.room other hmem
    · rw [List.mem_singleton] at hmem
      subst hmem
      show bookingCount w.db w.clock _ _ _ < (w.workersOf dir _).length
      rw [hpayload]
      exact hroom

theorem AssignableInv.step (h : AssignableInv dir w) (op : Op) (hcounts : w.CountsAll dir op) :
    AssignableInv dir (exec settings dir w op) := by
  cases op with
  | tick elapsed => exact h.later elapsed
  | search payload idempotencyKey began =>
    simp only [exec]
    split
    · next attempt hbegin =>
      split
      · next hfree => exact h.begin hbegin hfree.2 hcounts
      · exact h
    · exact h
  | finish position now ids =>
    simp only [exec]
    split
    · exact h
    · next attempt hat =>
      split
      · split
        · next hfinish => exact h.commit hat (hcounts attempt hat) hfinish
        · exact ⟨h.assignable, h.apart.eraseIdx position,
            fun other hmem => h.room other (List.mem_of_mem_eraseIdx hmem)⟩
      · exact h

/-- The bookings that wait can be given workers in every state of a run in which each
booking is made when its search has counted the others that compete with it. -/
theorem windows_assignable (settings : Settings) (dir : Directory) (db : Db) (clock : Instant)
    (ops : List Op) (hstart : Assignable dir db clock)
    (hcounts : Along (exec settings dir) (CountsAll dir) { db, clock } ops) :
    Always (exec settings dir) (fun w => Assignable dir w.db w.clock) { db, clock } ops := by
  have hinv : AssignableInv dir { db, clock } := by
    refine ⟨hstart, List.Pairwise.nil, ?_⟩
    intro attempt hmem
    cases hmem
  exact (always_of_inv (fun w op h hcounts => h.step op hcounts) hinv hcounts).imp
    fun _ h => h.assignable

/-- The workers 6 and 7 take visits for the service 3, and only 6 for the services 13 and 23,
one at a time. -/
def windowDirectory : Directory := { Dispatch.visitDirectory with
  services := ⟨[{ id := 3, quoteRequired := false, isBookable := true },
    { id := 13, quoteRequired := false, isBookable := true },
    { id := 23, quoteRequired := false, isBookable := true }], by decide⟩
  coverage := [{ workerId := 6, serviceId := 3, postalCode := "77001" },
    { workerId := 7, serviceId := 3, postalCode := "77001" },
    { workerId := 6, serviceId := 13, postalCode := "77001" },
    { workerId := 6, serviceId := 23, postalCode := "77001" }]
  workingHours := ⟨[{ workerId := 6, weekday := 3, startTime := openLocal, endTime := closeLocal },
    { workerId := 7, weekday := 3, startTime := openLocal, endTime := closeLocal }], by decide⟩
  legalEntity := fun _ => some "USD" }

def windowDb : Db := { Dispatch.visitDb with workers := twoWorkers }

/-- A request for the hour that begins at the minute. -/
def hourRequest (serviceId : Uuid) (minute : Int) : BookingCreateRequest := {
  serviceId
  customer := { firstName := "A", lastName := "B", email := "a@b.test", phone := "12345" }
  addressId := 4
  window := { start := ofMinutes minute, stop := ofMinutes (minute + 60) } }

/-- Two visits from nine to ten and one from ten to eleven. -/
def threeHours : List Op :=
  [.search (hourRequest 3 540) "a" 0, .search (hourRequest 13 600) "b" 0,
   .finish 0 0 { customerId := 21, bookingId := 31, reference := "BR-1" },
   .search (hourRequest 3 540) "c" 0, .tick 1,
   .finish 0 0 { customerId := 22, bookingId := 32, reference := "BR-2" },
   .finish 0 1 { customerId := 23, bookingId := 33, reference := "BR-3" }]

theorem threeHours_assignable :
    Always (exec Dispatch.visitSettings windowDirectory)
      (fun w => Assignable windowDirectory w.db w.clock) { db := windowDb, clock := 0 }
      threeHours :=
  windows_assignable Dispatch.visitSettings windowDirectory windowDb 0 threeHours
    ⟨fun _ => 6, ⟨by decide, by decide⟩⟩ (by decide)

/-- Two overlapping bookings that only one worker could take. -/
theorem not_assignable (h : ∃ a ∈ waiting db now, ∃ b ∈ waiting db now, a ≠ b ∧ Overlapping a b ∧
    ∃ id ∈ workersFor dir db now a, workersFor dir db now a = [id] ∧
      workersFor dir db now b = [id]) : ¬ Assignable dir db now := by
  rintro ⟨worker, hrepresents⟩
  obtain ⟨a, ha, b, hb, hne, hoverlaps, id, _, honly, honly'⟩ := h
  have hworker := hrepresents.option a ha
  have hworker' := hrepresents.option b hb
  rw [honly, List.mem_singleton] at hworker
  rw [honly', List.mem_singleton] at hworker'
  exact hrepresents.distinct a ha b hb hne hoverlaps (hworker.trans hworker'.symm)

/-- The services 13 and 23 count the worker 6 for the same hour, one after the other. -/
def sharedWorker : List Op :=
  [.search (hourRequest 13 540) "a" 0,
   .finish 0 0 { customerId := 21, bookingId := 31, reference := "BR-1" },
   .search (hourRequest 23 540) "b" 0,
   .finish 0 0 { customerId := 22, bookingId := 32, reference := "BR-2" }]

theorem shared_worker_oversold :
    ¬ Always (exec Dispatch.visitSettings windowDirectory)
        (fun w => Assignable windowDirectory w.db w.clock) { db := windowDb, clock := 0 }
        sharedWorker := by
  intro h
  exact not_assignable (by decide) (h _ (run_mem_states _ _))

end Creating

end Breero.Reservations
