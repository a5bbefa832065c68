import Breero.Dispatch.DeadBookings
import Breero.Reservations.Confirmations
import Breero.Lib.Text

/-!
The event of a confirmation, and bookings that are confirmed again.

The key of `booking.confirmed` has the id of the booking and nothing else.

* `Rebooking` is the system of one booking's reschedules, assignments and confirmations, which
  all lock its row;
* `NeverCollides` is the law: no confirmation is refused by the unique index on the keys;
* `Rebooking.never_collides_iff`: it holds in exactly the runs in which no booking that was
  confirmed and then rescheduled gets past the checks of `confirm` again.
-/

namespace Breero.Reservations
open KeyedTable Transaction Runs Bookings Dispatch

def confirmedKey (bookingId : Uuid) : String := "booking.confirmed:" ++ toString bookingId

/-- What the index on `idempotency_key` raises. -/
def keyTaken : Raised := .integrityError "ix_integration_events_idempotency_key"

structure Rebooking where
  db : Db
  /-- the bookings that were confirmed -/
  confirmed : List Uuid := []
  /-- those of them that were rescheduled afterwards -/
  moved : List Uuid := []

namespace Rebooking

inductive Op
  | reschedule (userId bookingId holdId : Uuid) (bookingSession : String) (now : Instant)
  | assign (request : AssignRequest) (now : Instant) (jobId assignmentId : Uuid)
  | automaticAssign (bookingId actorId : Uuid) (now : Instant) (jobId assignmentId : Uuid)
  | unassign (bookingId actorId : Uuid) (reason : String) (now : Instant)
  | confirm (bookingId workerId actorId : Uuid) (reason : String) (now : Instant)
      (jobId assignmentId : Uuid)

def exec (settings : Settings) (dir : Directory) (w : Rebooking) : Op → Rebooking
  | .reschedule userId bookingId holdId bookingSession now =>
    match rescheduleBooking settings w.db userId bookingId holdId bookingSession now with
    | .ok (db, _) =>
      { w with
        db
        moved := if bookingId ∈ w.confirmed then bookingId :: w.moved else w.moved }
    | .error _ => w
  | .assign request now jobId assignmentId =>
    { w with
      db := commit w.db (Dispatch.assign settings dir w.db request now jobId assignmentId) }
  | .automaticAssign bookingId actorId now jobId assignmentId =>
    { w with
      db := commit w.db
        (Dispatch.automaticAssign settings dir w.db bookingId actorId now jobId assignmentId) }
  | .unassign bookingId actorId reason now =>
    { w with db := commit w.db (Dispatch.unassign w.db bookingId actorId reason now) }
  | .confirm bookingId workerId actorId reason now jobId assignmentId =>
    match Bookings.confirm dir w.db bookingId workerId actorId reason now jobId assignmentId with
    | .ok (db, _) => { w with db, confirmed := bookingId :: w.confirmed }
    | .error _ => w

/-- The confirmation is not refused for the key of its event. -/
def NeverCollides (dir : Directory) (w : Rebooking) : Op → Prop
  | .confirm bookingId workerId actorId reason now jobId assignmentId =>
    Bookings.confirm dir w.db bookingId workerId actorId reason now jobId assignmentId ≠
      .error keyTaken
  | _ => True

/-- `confirm` up to its event. -/
def checked (dir : Directory) (db : Db) (bookingId workerId actorId : Uuid) (now : Instant)
    (jobId assignmentId : Uuid) : Except Raised (Db × Job) := do
  let (booking, worker, vendor) ← beginConfirm dir db bookingId workerId now
  confirmedJob db booking worker vendor actorId jobId assignmentId

/-- No booking that was rescheduled after it was confirmed is confirmed again. -/
def ConfirmsOnce (dir : Directory) (w : Rebooking) : Op → Prop
  | .confirm bookingId workerId actorId _ now jobId assignmentId =>
    (checked dir w.db bookingId workerId actorId now jobId assignmentId).isOk →
      bookingId ∉ w.moved
  | _ => True

instance {α : Type} (r : Except Raised α) (e : Raised) : Decidable (r = .error e) :=
  match r with
  | .ok _ => isFalse fun h => by cases h
  | .error e' => decidable_of_iff (e' = e) ⟨fun h => h ▸ rfl, fun h => Except.error.inj h⟩

instance (dir : Directory) (w : Rebooking) : DecidablePred (NeverCollides dir w)
  | .reschedule .. | .assign .. | .automaticAssign .. | .unassign .. => isTrue trivial
  | .confirm bookingId workerId actorId reason now jobId assignmentId =>
    inferInstanceAs (Decidable
      (Bookings.confirm dir w.db bookingId workerId actorId reason now jobId assignmentId ≠
        .error keyTaken))

instance (dir : Directory) (w : Rebooking) : DecidablePred (ConfirmsOnce dir w)
  | .reschedule .. | .assign .. | .automaticAssign .. | .unassign .. => isTrue trivial
  | .confirm .. => inferInstanceAs (Decidable (_ → _))

/-! ## The event of a confirmation -/

theorem confirmedKey_inj {a b : Uuid} (h : confirmedKey a = confirmedKey b) : a = b := by
  unfold confirmedKey at h
  exact Text.toString_inj ((String.append_right_inj _).mp h)

variable {dir : Directory} {db : Db}

/-- The key is that of an event. -/
def Taken (db : Db) (bookingId : Uuid) : Prop :=
  ∃ event ∈ db.outbox, event.idempotencyKey = some (confirmedKey bookingId)

theorem addJob_free (db : Db) (job : Job) : db.addJob job ≠ .error keyTaken := by
  refine seq_ne_raised (require_ne_raised (by decide)) fun _ => ?_
  exact seq_ne_raised (orRaise_ne_raised (by decide)) fun _ => return_ne_raised _ _

theorem addAssignment_free (db : Db) (assignment : Assignment) :
    db.addAssignment assignment ≠ .error keyTaken := by
  refine seq_ne_raised (require_ne_raised (by decide)) fun _ => ?_
  exact seq_ne_raised (orRaise_ne_raised (by decide)) fun _ => return_ne_raised _ _

theorem schedulable_free (db : Db) (workerId : Uuid) :
    schedulable db workerId ≠ .error keyTaken := by
  refine seq_ne_raised (orRaise_ne_raised (by decide)) fun _ => ?_
  refine seq_ne_raised (orRaise_ne_raised (by decide)) fun _ => ?_
  refine seq_ne_raised (require_ne_raised (by decide)) fun _ => ?_
  exact seq_ne_raised (require_ne_raised (by decide)) fun _ => return_ne_raised _ _

theorem coveringHours_free (dir : Directory) (booking : Booking) (address : Address)
    (worker : Worker) (localStart localEnd : LocalTime) :
    coveringHours dir booking address worker localStart localEnd ≠ .error keyTaken := by
  refine seq_ne_raised (require_ne_raised (by decide)) fun _ => ?_
  refine seq_ne_raised (orRaise_ne_raised (by decide)) fun _ => ?_
  exact seq_ne_raised (require_ne_raised (by decide)) fun _ => return_ne_raised _ _

theorem qualifiedWorker_free (dir : Directory) (db : Db) (booking : Booking) (workerId : Uuid)
    (now : Instant) : qualifiedWorker dir db booking workerId now ≠ .error keyTaken := by
  refine seq_ne_raised (require_ne_raised (by decide)) fun _ => ?_
  refine seq_ne_raised (orRaise_ne_raised (by decide)) fun _ => ?_
  refine seq_ne_raised (orRaise_ne_raised (by decide)) fun _ => ?_
  refine seq_ne_raised (require_ne_raised (by decide)) fun _ => ?_
  refine seq_ne_raised (orRaise_ne_raised (by decide)) fun _ => ?_
  refine seq_ne_raised (schedulable_free db workerId) fun _ => ?_
  refine seq_ne_raised (coveringHours_free _ _ _ _ _ _) fun _ => ?_
  refine seq_ne_raised (require_ne_raised (by decide)) fun _ => ?_
  exact seq_ne_raised (require_ne_raised (by decide)) fun _ => return_ne_raised _ _

/-! ## What the operations leave of the events -/

variable {db' : Db}

theorem addJob_outbox {job : Job} (h : db.addJob job = .ok db') : db'.outbox = db.outbox := by
  obtain ⟨_, _, _, rfl⟩ := Db.addJob_ok h
  rfl

theorem addAssignment_outbox {assignment : Assignment}
    (h : db.addAssignment assignment = .ok db') : db'.outbox = db.outbox := by
  obtain ⟨_, _, _, rfl⟩ := addAssignment_ok h
  rfl

@[simp] theorem releaseActive_outbox (db : Db) (jobId : Uuid) (now : Instant) :
    (releaseActive db jobId now).outbox = db.outbox := by
  unfold releaseActive
  split <;> rfl

theorem assignedJob_outbox {booking : Booking} {worker : Worker} {now : Instant} {jobId : Uuid}
    {job : Job} (h : assignedJob db booking worker now jobId = .ok (db', job)) :
    db'.outbox = db.outbox := by
  unfold assignedJob at h
  split at h
  · next own _ =>
    simp only [return_committed, Prod.mk.injEq] at h
    obtain ⟨rfl, _⟩ := h
    exact releaseActive_outbox db own.id now
  · simp only [seq_committed, return_committed, Prod.mk.injEq] at h
    obtain ⟨_, hadded, rfl, _⟩ := h
    exact addJob_outbox hadded

theorem assign_outbox {settings : Settings} {request : AssignRequest} {now : Instant}
    {jobId assignmentId : Uuid} {v : Booking}
    (h : Dispatch.assign settings dir db request now jobId assignmentId = .ok (db', v)) :
    db'.outbox = db.outbox := by
  simp only [Dispatch.assign, assignTo, seq_committed, orRaise_committed, return_committed,
    Prod.exists, Prod.mk.injEq] at h
  obtain ⟨_, _, _, _, _, _, db1, _, hjob, db2, hadd, rfl, _⟩ := h
  calc db2.outbox = db1.outbox := addAssignment_outbox hadd
    _ = db.outbox := assignedJob_outbox hjob

theorem automaticAssign_outbox {settings : Settings} {bookingId actorId : Uuid} {now : Instant}
    {jobId assignmentId : Uuid} {v : Booking}
    (h : Dispatch.automaticAssign settings dir db bookingId actorId now jobId assignmentId =
      .ok (db', v)) : db'.outbox = db.outbox := by
  simp only [Dispatch.automaticAssign, seq_committed] at h
  obtain ⟨_, _, _, _, _, _, hassign⟩ := h
  exact assign_outbox hassign

theorem unassign_outbox {bookingId actorId : Uuid} {reason : String} {now : Instant}
    {v : Booking} (h : Dispatch.unassign db bookingId actorId reason now = .ok (db', v)) :
    db'.outbox = db.outbox := by
  simp only [Dispatch.unassign, seq_committed, orRaise_committed, require_committed,
    return_committed, Prod.mk.injEq] at h
  obtain ⟨_, _, _, _, rfl, _⟩ := h
  show (unassignedJob db bookingId now).outbox = db.outbox
  unfold unassignedJob
  split
  · exact releaseActive_outbox _ _ _
  · rfl

theorem rescheduleBooking_outbox {settings : Settings} {userId bookingId holdId : Uuid}
    {bookingSession : String} {now : Instant} {v : Booking}
    (h : rescheduleBooking settings db userId bookingId holdId bookingSession now =
      .ok (db', v)) : db'.outbox = db.outbox := by
  obtain ⟨_, _, _, _, _, _, hwritten⟩ := rescheduleBooking_ok h
  cases hwritten
  rfl

theorem confirmedJob_outbox {booking : Booking} {worker : Worker} {vendor : Vendor}
    {actorId jobId assignmentId : Uuid} {job : Job}
    (h : confirmedJob db booking worker vendor actorId jobId assignmentId = .ok (db', job)) :
    db'.outbox = db.outbox := by
  unfold confirmedJob at h
  split at h
  · simp only [seq_committed, return_committed, Prod.mk.injEq] at h
    obtain ⟨_, _, rfl, _⟩ := h
    rfl
  · simp only [seq_committed, return_committed, Prod.mk.injEq] at h
    obtain ⟨db1, hadded, _, hadd, rfl, _⟩ := h
    exact (addAssignment_outbox hadd).trans (addJob_outbox hadded)

/-! ## The key of a confirmation -/

theorem beginConfirm_found {bookingId workerId : Uuid} {now : Instant} {booking : Booking}
    {worker : Worker} {vendor : Vendor}
    (h : beginConfirm dir db bookingId workerId now = .ok (booking, worker, vendor)) :
    db.bookings.get? bookingId = some booking ∧ booking.status ∈ confirmable := by
  simp only [beginConfirm, seq_committed, orRaise_committed, require_committed, return_committed,
    Prod.exists, Prod.mk.injEq] at h
  obtain ⟨_, hbooking, _, hstatus, _, _, _, rfl, _⟩ := h
  exact ⟨hbooking, hstatus⟩

theorem beginConfirm_id {bookingId workerId : Uuid} {now : Instant} {booking : Booking}
    {worker : Worker} {vendor : Vendor}
    (h : beginConfirm dir db bookingId workerId now = .ok (booking, worker, vendor)) :
    booking.id = bookingId :=
  Table.key_of_get? (beginConfirm_found h).1

theorem beginConfirm_free (dir : Directory) (db : Db) (bookingId workerId : Uuid)
    (now : Instant) : beginConfirm dir db bookingId workerId now ≠ .error keyTaken := by
  refine seq_ne_raised ?_ fun _ => ?_
  · apply orRaise_ne_raised
    decide
  · refine seq_ne_raised ?_ fun _ => ?_
    · apply require_ne_raised
      decide
    · exact seq_ne_raised (qualifiedWorker_free _ _ _ _ _) fun _ => return_ne_raised _ _

theorem confirmedJob_free (db : Db) (booking : Booking) (worker : Worker) (vendor : Vendor)
    (actorId jobId assignmentId : Uuid) :
    confirmedJob db booking worker vendor actorId jobId assignmentId ≠ .error keyTaken := by
  unfold confirmedJob
  split
  · exact seq_ne_raised (require_ne_raised (by decide)) fun _ => return_ne_raised _ _
  · refine seq_ne_raised (addJob_free _ _) fun _ => ?_
    exact seq_ne_raised (addAssignment_free _ _) fun _ => return_ne_raised _ _

/-- The index refuses an event exactly if its key is that of another one. -/
theorem addEvent_keyTaken {event : IntegrationEvent} {k : String}
    (hkey : event.idempotencyKey = some k) :
    db.addEvent event = .error keyTaken ↔ ∃ other ∈ db.outbox, other.idempotencyKey = some k := by
  simp only [Db.addEvent, seq_raised, require_raised, return_raised, and_false, exists_false,
    or_false, hkey, keyTaken, and_true, reduceCtorEq, false_or, not_forall, not_not, exists_prop,
    ne_eq]

theorem bookingConfirmed_key (booking : Booking) (job : Job) (now : Instant) :
    (bookingConfirmed booking job now).idempotencyKey = some (confirmedKey booking.id) := rfl

theorem finishConfirm_keyTaken {booking : Booking} {worker : Worker} {vendor : Vendor}
    {actorId : Uuid} {reason : String} {now : Instant} {jobId assignmentId : Uuid} :
    finishConfirm db booking worker vendor actorId reason now jobId assignmentId =
        .error keyTaken ↔
      (confirmedJob db booking worker vendor actorId jobId assignmentId).isOk ∧
        Taken db booking.id := by
  simp only [finishConfirm, seq_raised, return_raised, and_false, exists_false, or_false,
    confirmedJob_free, false_or, Prod.exists]
  constructor
  · rintro ⟨db1, job, hjob, hkey⟩
    obtain ⟨event, hevent, htaken⟩ := (addEvent_keyTaken (bookingConfirmed_key ..)).mp hkey
    exact ⟨isOk_of_eq hjob, event, confirmedJob_outbox hjob ▸ hevent, htaken⟩
  · rintro ⟨hok, event, hevent, htaken⟩
    obtain ⟨db1, job, hjob⟩ := eq_ok_of_isOk hok
    refine ⟨db1, job, hjob, (addEvent_keyTaken (bookingConfirmed_key ..)).mpr ⟨event, ?_, htaken⟩⟩
    exact (confirmedJob_outbox hjob).symm ▸ hevent

/-- `confirm` raises what the index does if its checks pass and the key is taken. -/
theorem confirm_keyTaken {bookingId workerId actorId : Uuid} {reason : String} {now : Instant}
    {jobId assignmentId : Uuid} :
    Bookings.confirm dir db bookingId workerId actorId reason now jobId assignmentId =
        .error keyTaken ↔
      (checked dir db bookingId workerId actorId now jobId assignmentId).isOk ∧
        Taken db bookingId := by
  simp only [Bookings.confirm, checked, seq_raised, seq_isOk, beginConfirm_free, false_or,
    finishConfirm_keyTaken, Prod.exists]
  constructor
  · rintro ⟨booking, worker, vendor, hbegin, hjob, htaken⟩
    exact ⟨⟨booking, worker, vendor, hbegin, hjob⟩, beginConfirm_id hbegin ▸ htaken⟩
  · rintro ⟨⟨booking, worker, vendor, hbegin, hjob⟩, htaken⟩
    exact ⟨booking, worker, vendor, hbegin, hjob, (beginConfirm_id hbegin).symm ▸ htaken⟩

theorem confirm_outbox {bookingId workerId actorId : Uuid} {reason : String} {now : Instant}
    {jobId assignmentId : Uuid} {v : Job}
    (h : Bookings.confirm dir db bookingId workerId actorId reason now jobId assignmentId =
      .ok (db', v)) :
    ∃ booking job, booking.id = bookingId ∧
      db'.outbox = db.outbox ++ [bookingConfirmed booking job now] := by
  simp only [Bookings.confirm, finishConfirm, Db.addEvent, seq_committed, require_committed,
    return_committed, Prod.exists, Prod.mk.injEq] at h
  obtain ⟨booking, worker, vendor, hbegin, db1, job, hjob, _, ⟨_, _, rfl⟩, rfl, _⟩ := h
  refine ⟨booking, job, beginConfirm_id hbegin, ?_⟩
  show db1.outbox ++ _ = _
  rw [confirmedJob_outbox hjob]

/-! ## What a run keeps -/

/-- The events of the confirmed bookings are the ones there are, and such a booking is
confirmed until it is rescheduled. -/
structure Coherent (w : Rebooking) : Prop where
  taken : ∀ bookingId, Taken w.db bookingId ↔ bookingId ∈ w.confirmed
  confirmed : ∀ bookingId ∈ w.confirmed, bookingId ∉ w.moved →
    ∀ booking ∈ w.db.bookings.rows, booking.id = bookingId → booking.status = .confirmed
  moved : ∀ bookingId ∈ w.moved, bookingId ∈ w.confirmed

variable {w : Rebooking}

/-- A booking that is not a confirmed one is given another status. -/
theorem Coherent.restatused (h : Coherent w) {booking : Booking} {target : BookingStatus}
    (houtbox : db'.outbox = w.db.outbox) (hstatus : booking.status ≠ .confirmed)
    (hbookings : Restatused w.db.bookings db'.bookings booking target) :
    Coherent { w with db := db' } := by
  constructor
  · intro bookingId
    rw [← h.taken bookingId]
    show (∃ event ∈ db'.outbox, _) ↔ _
    rw [houtbox]
    exact Iff.rfl
  · intro bookingId hconfirmed hmoved other hother hid
    have hne : other.id ≠ booking.id := by
      intro hsame
      refine hstatus (h.confirmed bookingId hconfirmed hmoved booking ?_ (hsame ▸ hid))
      exact Table.mem_of_get? hbookings.1
    exact h.confirmed bookingId hconfirmed hmoved other (hbookings.other hother hne) hid
  · exact h.moved

theorem Coherent.committed {α : Type} (h : Coherent w) {r : Except Raised (Db × α)}
    (hstep : ∀ db' v, r = .ok (db', v) → ∃ booking target, db'.outbox = w.db.outbox ∧
      booking.status ≠ .confirmed ∧
      Restatused w.db.bookings db'.bookings booking target) :
    Coherent { w with db := commit w.db r } := by
  refine commit_induction (motive := fun db' => Coherent { w with db := db' }) h ?_
  intro db' v hr
  obtain ⟨booking, target, houtbox, hstatus, hbookings⟩ := hstep db' v hr
  exact h.restatused houtbox hstatus hbookings

theorem Coherent.rescheduled (h : Coherent w) {booking : Booking} {target : BookingStatus}
    {bookingId : Uuid} (houtbox : db'.outbox = w.db.outbox) (hid : booking.id = bookingId)
    (hbookings : Restatused w.db.bookings db'.bookings booking target) :
    Coherent { w with
      db := db'
      moved := if bookingId ∈ w.confirmed then bookingId :: w.moved else w.moved } := by
  have htaken : ∀ other, Taken db' other ↔ other ∈ w.confirmed := by
    intro other
    rw [← h.taken other]
    show (∃ event ∈ db'.outbox, _) ↔ _
    rw [houtbox]
    exact Iff.rfl
  have hother : ∀ other ∈ w.confirmed, other ∉ w.moved → other ≠ bookingId →
      ∀ row ∈ db'.bookings.rows, row.id = other → row.status = .confirmed := by
    intro other hconfirmed hmoved hne row hrow hrowId
    refine h.confirmed other hconfirmed hmoved row (hbookings.other hrow ?_) hrowId
    rw [hrowId, hid]
    exact hne
  by_cases hseen : bookingId ∈ w.confirmed
  · simp only [hseen, if_true]
    constructor
    · exact htaken
    · intro other hconfirmed hmoved
      rw [List.mem_cons, not_or] at hmoved
      exact hother other hconfirmed hmoved.2 hmoved.1
    · intro other hmoved
      rcases List.mem_cons.mp hmoved with rfl | hmoved
      · exact hseen
      · exact h.moved other hmoved
  · simp only [hseen, if_false]
    constructor
    · exact htaken
    · intro other hconfirmed hmoved
      refine hother other hconfirmed hmoved ?_
      rintro rfl
      exact hseen hconfirmed
    · exact h.moved

/-- A confirmation adds its event, and the booking is confirmed. -/
theorem Coherent.confirmed_by (h : Coherent w) {bookingId workerId actorId : Uuid}
    {reason : String} {now : Instant} {jobId assignmentId : Uuid} {v : Job}
    (hr : Bookings.confirm dir w.db bookingId workerId actorId reason now jobId assignmentId =
      .ok (db', v)) :
    Coherent { w with db := db', confirmed := bookingId :: w.confirmed } := by
  obtain ⟨booking, job, hid, houtbox⟩ := confirm_outbox hr
  obtain ⟨_, ⟨row, hrow, _, hbookings⟩, _⟩ := confirm_effect hr
  constructor
  · intro other
    rw [List.mem_cons, ← h.taken other]
    show (∃ event ∈ db'.outbox, _) ↔ _
    rw [houtbox]
    simp only [List.mem_append, List.mem_singleton]
    constructor
    · rintro ⟨event, hevent | rfl, hkey⟩
      · exact Or.inr ⟨event, hevent, hkey⟩
      · rw [bookingConfirmed_key, hid] at hkey
        exact Or.inl (confirmedKey_inj (Option.some.inj hkey)).symm
    · rintro (rfl | ⟨event, hevent, hkey⟩)
      · exact ⟨_, Or.inr rfl, (bookingConfirmed_key ..).trans (by rw [hid])⟩
      · exact ⟨event, Or.inl hevent, hkey⟩
  · intro other hconfirmed hmoved written hwritten hwrittenId
    by_cases hsame : written.id = row.id
    · exact hbookings.reached hwritten hsame
    · rcases List.mem_cons.mp hconfirmed with rfl | hconfirmed
      · exact absurd (hwrittenId.trans (Table.key_of_get? hrow).symm) hsame
      · exact h.confirmed other hconfirmed hmoved written (hbookings.other hwritten hsame)
          hwrittenId
  · intro other hmoved
    exact List.mem_cons_of_mem _ (h.moved other hmoved)

theorem Coherent.step (h : Coherent w) (settings : Settings) (dir : Directory) (op : Op) :
    Coherent (exec settings dir w op) := by
  cases op with
  | reschedule userId bookingId holdId bookingSession now =>
    simp only [exec]
    split
    · next db' v hr =>
      obtain ⟨_, _, _, booking, hbooking, _, hbookings⟩ := rescheduleBooking_effect hr
      exact h.rescheduled (rescheduleBooking_outbox hr) (Table.key_of_get? hbooking) hbookings
    · exact h
  | assign request now jobId assignmentId =>
    refine h.committed fun db' v hr => ?_
    obtain ⟨_, ⟨booking, _, hstatus, hbookings⟩, _⟩ := assign_effect hr
    refine ⟨booking, _, assign_outbox hr, ?_, hbookings⟩
    intro hconfirmed
    simp [hconfirmed, assignable] at hstatus
  | automaticAssign bookingId actorId now jobId assignmentId =>
    refine h.committed fun db' v hr => ?_
    obtain ⟨_, ⟨booking, _, hstatus, hbookings⟩, _⟩ := automaticAssign_effect hr
    refine ⟨booking, _, automaticAssign_outbox hr, ?_, hbookings⟩
    intro hconfirmed
    simp [hconfirmed, assignable] at hstatus
  | unassign bookingId actorId reason now =>
    refine h.committed fun db' v hr => ?_
    obtain ⟨_, ⟨booking, _, hstatus, hbookings⟩, _⟩ := unassign_effect hr
    refine ⟨booking, _, unassign_outbox hr, ?_, hbookings⟩
    rw [hstatus]
    decide
  | confirm bookingId workerId actorId reason now jobId assignmentId =>
    simp only [exec]
    split
    · next db' v hr => exact h.confirmed_by hr
    · exact h

/-- A confirmation that passes its checks is of a booking that was not confirmed, or that was
rescheduled since. -/
theorem Coherent.collides_iff (h : Coherent w) {bookingId workerId actorId : Uuid}
    {now : Instant} {jobId assignmentId : Uuid}
    (hchecked : (checked dir w.db bookingId workerId actorId now jobId assignmentId).isOk) :
    Taken w.db bookingId ↔ bookingId ∈ w.moved := by
  rw [h.taken]
  constructor
  · intro hconfirmed
    obtain ⟨⟨booking, worker, vendor⟩, hbegin, _⟩ := seq_isOk.mp hchecked
    obtain ⟨hfound, hstatus⟩ := beginConfirm_found hbegin
    by_contra hmoved
    have hmem : booking ∈ w.db.bookings.rows := Table.mem_of_get? hfound
    rw [h.confirmed bookingId hconfirmed hmoved booking hmem (beginConfirm_id hbegin)] at hstatus
    exact absurd hstatus (by decide)
  · exact h.moved bookingId

theorem Coherent.neverCollides_iff (h : Coherent w) (op : Op) :
    NeverCollides dir w op ↔ ConfirmsOnce dir w op := by
  cases op with
  | confirm bookingId workerId actorId reason now jobId assignmentId =>
    simp only [NeverCollides, ConfirmsOnce, ne_eq, confirm_keyTaken, not_and]
    exact forall_congr' fun hchecked => not_congr (h.collides_iff hchecked)
  | _ => exact Iff.rfl

/-- No confirmation is refused for its key, in exactly the runs in which no booking that was
rescheduled after it was confirmed gets past the checks again. -/
theorem never_collides_iff (settings : Settings) (dir : Directory) (db : Db) (ops : List Op)
    (hfresh : ∀ bookingId, ¬ Taken db bookingId) :
    Along (exec settings dir) (NeverCollides dir) { db } ops ↔
      Along (exec settings dir) (ConfirmsOnce dir) { db } ops := by
  have hstart : Coherent { db } := by
    constructor
    · intro bookingId
      exact iff_of_false (hfresh bookingId) List.not_mem_nil
    · intro bookingId hmem
      exact absurd hmem List.not_mem_nil
    · intro bookingId hmem
      exact absurd hmem List.not_mem_nil
  constructor
  · exact Along.imp (fun w op h _ => h.step settings dir op)
      (fun w op h => (h.neverCollides_iff op).mp) hstart
  · exact Along.imp (fun w op h _ => h.step settings dir op)
      (fun w op h => (h.neverCollides_iff op).mpr) hstart

/-- The booking 2 is confirmed, and moved by its customer. -/
def confirmedMoved : List Op :=
  [.confirm 2 6 8 "first" 1 20 30, .reschedule 9 2 40 "customer-session-1" 2]

theorem confirmedMoved_never_collides :
    Along (exec visitSettings Confirming.operatorDirectory)
      (NeverCollides Confirming.operatorDirectory) { db := visitDb } confirmedMoved :=
  (never_collides_iff visitSettings Confirming.operatorDirectory visitDb confirmedMoved
    (by rintro bookingId ⟨event, hevent, _⟩; cases hevent)).mpr (by decide)

/-- In its new window, the booking is never confirmed. -/
theorem confirmedMoved_collides :
    (run (exec visitSettings Confirming.operatorDirectory) { db := visitDb }
        confirmedMoved).moved = [2] ∧
      ¬ Along (exec visitSettings Confirming.operatorDirectory)
        (NeverCollides Confirming.operatorDirectory) { db := visitDb }
        (confirmedMoved ++ [.confirm 2 6 8 "second" 3 21 31]) := by
  decide

end Rebooking

end Breero.Reservations
