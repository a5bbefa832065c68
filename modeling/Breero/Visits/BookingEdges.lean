import Breero.Visits.Effects

/-!
Bookings and their declared lifecycle.

* `follows_iff` says of each operation from which statuses it follows the lifecycle;
* `bookings_follow_lifecycle`: a run follows it, and leaves no status without edges, exactly
  if every step of it starts from such a status;
* `reschedule_leaves_lifecycle` is a run that does not.
-/

namespace Breero.Visits
open KeyedTable Transaction Runs Bookings Payments

variable {settings : Settings} {dir : Directory} {w : World} {op : Op}

/-! ## The law -/

/-- The status of a booking before and after a step. -/
def FollowsEdge (booking booking' : Booking) : Prop :=
  booking'.status = booking.status ∨ booking'.status ∈ allowedTransitions booking.status

instance : DecidableRel FollowsEdge := fun _ _ => inferInstanceAs (Decidable (_ ∨ _))

/-- A status without edges is not left. -/
def StaysClosed (booking booking' : Booking) : Prop :=
  allowedTransitions booking.status = [] → booking'.status = booking.status

instance : DecidableRel StaysClosed := fun _ _ => inferInstanceAs (Decidable (_ → _))

def EdgesFollowed (w w' : World) : Prop :=
  Table.Kept FollowsEdge w.db.bookings w'.db.bookings

def ClosedKept (w w' : World) : Prop := Table.Kept StaysClosed w.db.bookings w'.db.bookings

instance : DecidableRel EdgesFollowed := fun w w' =>
  inferInstanceAs (Decidable (Table.Kept FollowsEdge w.db.bookings w'.db.bookings))

instance : DecidableRel ClosedKept := fun w w' =>
  inferInstanceAs (Decidable (Table.Kept StaysClosed w.db.bookings w'.db.bookings))

/-- If the transaction commits, the booking has one of the statuses. -/
def CommitsFrom {α : Type} (r : Except Raised α) (booking : Option Booking)
    (sources : List BookingStatus) : Prop :=
  r.isOk → ∀ found ∈ booking, found.status ∈ sources

instance {α : Type} (r : Except Raised α) (booking : Option Booking)
    (sources : List BookingStatus) : Decidable (CommitsFrom r booking sources) :=
  inferInstanceAs (Decidable (r.isOk → _))

/-- The statuses from which an assignment follows the lifecycle. -/
def assigningStatuses : List BookingStatus :=
  [.pendingManualDispatch, .awaitingAssignment, .reassignmentRequired, .providerAssigned]

/-- The statuses from which a cancellation follows the lifecycle, or changes nothing. -/
def cancellingStatuses : List BookingStatus :=
  [.requested, .pendingReview, .capacityHeld, .awaitingAssignment, .pendingManualDispatch,
   .providerAssigned, .confirmed, .cancelled]

/-- No booking that waits for its provider is the one of the job. -/
def ConfirmsNone (db : Db) (job : Option Job) : Prop :=
  ∀ decided ∈ job, ∀ booking ∈ db.bookings.get? decided.bookingId,
    booking.status ≠ .pendingProviderConfirmation

instance (db : Db) (job : Option Job) : Decidable (ConfirmsNone db job) :=
  inferInstanceAs (Decidable (∀ decided ∈ job, _))

/-- The operation writes the status of a booking from a status whose lifecycle has the
edge. -/
def DispatchFollows (settings : Settings) (dir : Directory) (db : Db) : Dispatch.Op → Prop
  | .decideOffer offerId vendorId accept workerId actorId now assignmentId =>
    (Dispatch.decideOffer db offerId vendorId accept workerId actorId now assignmentId).isOk →
      ConfirmsNone db (Dispatch.acceptedJob db offerId accept now)
  | .manualAssign jobId vendorId workerId actorId reason now assignmentId =>
    (Dispatch.manualAssign db jobId vendorId workerId actorId reason now assignmentId).isOk →
      ConfirmsNone db (db.jobs.get? jobId)
  | .assign request now jobId assignmentId =>
    CommitsFrom (Dispatch.assign settings dir db request now jobId assignmentId)
      (db.bookings.get? request.bookingId) assigningStatuses
  | .automaticAssign bookingId actorId now jobId assignmentId =>
    CommitsFrom (Dispatch.automaticAssign settings dir db bookingId actorId now jobId assignmentId)
      (db.bookings.get? bookingId) assigningStatuses
  | .confirm bookingId workerId actorId reason now jobId assignmentId =>
    CommitsFrom (confirm dir db bookingId workerId actorId reason now jobId assignmentId)
      (db.bookings.get? bookingId) [.pendingManualDispatch, .providerAssigned]
  | .cancel userId bookingId now =>
    CommitsFrom (cancelBooking db userId bookingId now) (db.bookings.get? bookingId)
      cancellingStatuses
  | .reschedule userId bookingId holdId bookingSession now =>
    CommitsFrom (rescheduleBooking settings db userId bookingId holdId bookingSession now)
      (db.bookings.get? bookingId) [.pendingManualDispatch]
  | _ => True

instance (settings : Settings) (dir : Directory) (db : Db) :
    DecidablePred (DispatchFollows settings dir db)
  | .decideOffer .. | .manualAssign .. => inferInstanceAs (Decidable (_ → _))
  | .assign .. | .automaticAssign .. | .confirm .. | .cancel .. | .reschedule .. =>
    inferInstanceAs (Decidable (CommitsFrom _ _ _))
  | .matchJob .. | .unassign .. | .transition .. | .technicianNote .. => isTrue trivial

/-- The step writes the status of a booking only where the lifecycle has the edge: the
payment of a fee and the worker that expires bookings never do. -/
def Follows (settings : Settings) (dir : Directory) (w : World) : Op → Prop
  | .dispatch op => DispatchFollows settings dir w.db op
  | .payment op => ∀ payment ∈ settledPayment w op,
    payment.paymentPurpose = .bookingDiagnostic →
      ∀ booking ∈ payment.bookingId.bind w.db.bookings.get?, booking.status ≠ .pendingPayment
  | .expireBookings now skipped =>
    ∀ booking ∈ w.db.bookings.rows, Expiring now booking → booking.id ∈ skipped
  | _ => True

instance (settings : Settings) (dir : Directory) (w : World) :
    DecidablePred (Follows settings dir w)
  | .dispatch op => inferInstanceAs (Decidable (DispatchFollows settings dir w.db op))
  | .payment op => inferInstanceAs (Decidable (∀ payment ∈ settledPayment w op, _))
  | .expireBookings _ _ => inferInstanceAs (Decidable (∀ booking ∈ w.db.bookings.rows, _))
  | .createWorkRequest .. | .reviewWorkRequest .. | .decideWorkRequest .. => isTrue trivial

/-! ## Writes of the bookings -/

theorem FollowsEdge.refl (booking : Booking) : FollowsEdge booking booking := Or.inl rfl

theorem StaysClosed.refl (booking : Booking) : StaysClosed booking booking := fun _ => rfl

theorem StaysClosed.trans {a b c : Booking} (h : StaysClosed a b) (h' : StaysClosed b c) :
    StaysClosed a c := by
  intro hclosed
  have hb := h hclosed
  exact (h' (hb.symm ▸ hclosed)).trans hb

theorem FollowsEdge.staysClosed {booking booking' : Booking} (h : FollowsEdge booking booking') :
    StaysClosed booking booking' := by
  intro hclosed
  rcases h with hsame | hedge
  · exact hsame
  · rw [hclosed] at hedge
    cases hedge

theorem EdgesFollowed.closedKept {w w' : World} (h : EdgesFollowed w w') : ClosedKept w w' := by
  intro booking hmem
  obtain ⟨booking', hfound, hfollows⟩ := h booking hmem
  exact ⟨booking', hfound, hfollows.staysClosed⟩

/-- A booking that is given another status. -/
theorem restatused_follows {t u : Table Booking} {booking : Booking} {target : BookingStatus}
    (h : Dispatch.Restatused t u booking target) :
    Table.Kept FollowsEdge t u ↔
      target = booking.status ∨ target ∈ allowedTransitions booking.status := by
  obtain ⟨hfound, booking', rfl, hid, rfl⟩ := h
  constructor
  · intro hkept
    obtain ⟨other, hother, hfollows⟩ := hkept.get? hfound
    rw [Table.get?_put_self hfound hid] at hother
    cases hother
    exact hfollows
  · intro hfollows
    exact .put_found hfound hid hfollows FollowsEdge.refl

theorem follows_of_same {t u : Table Booking} (h : u = t) : Table.Kept FollowsEdge t u :=
  .of_eq h FollowsEdge.refl

/-- What a transaction follows, if what it commits does. -/
theorem committed_follows {α : Type} {db : Db} {r : Except Raised (Db × α)} {P : Prop}
    (h : ∀ db' v, r = .ok (db', v) → (Table.Kept FollowsEdge db.bookings db'.bookings ↔ P)) :
    Table.Kept FollowsEdge db.bookings (commit db r).bookings ↔ (r.isOk → P) := by
  by_cases hok : r.isOk
  · obtain ⟨db', v, hr⟩ := eq_ok_of_isOk hok
    rw [commit_ok hr, h db' v hr]
    simp [hok]
  · rw [commit_raised hok]
    exact iff_of_true (follows_of_same rfl) fun hraised => absurd hraised hok

theorem committed_follows_always {α : Type} {db : Db} {r : Except Raised (Db × α)}
    (h : ∀ db' v, r = .ok (db', v) → Table.Kept FollowsEdge db.bookings db'.bookings) :
    Table.Kept FollowsEdge db.bookings (commit db r).bookings ↔ True :=
  iff_of_true ((committed_follows fun db' v hr => iff_of_true (h db' v hr) trivial).mpr
    fun _ => trivial) trivial

/-- The same for a transaction that writes the status of one booking. -/
theorem committed_follows_from {α : Type} {db : Db} {r : Except Raised (Db × α)}
    {bookingId : Uuid} (target : BookingStatus) {sources : List BookingStatus}
    (h : ∀ db' v, r = .ok (db', v) → ∃ booking, db.bookings.get? bookingId = some booking ∧
      Dispatch.Restatused db.bookings db'.bookings booking target ∧
      ((target = booking.status ∨ target ∈ allowedTransitions booking.status) ↔
        booking.status ∈ sources)) :
    Table.Kept FollowsEdge db.bookings (commit db r).bookings ↔
      CommitsFrom r (db.bookings.get? bookingId) sources := by
  refine committed_follows fun db' v hr => ?_
  obtain ⟨booking, hfound, hwritten, hsources⟩ := h db' v hr
  rw [restatused_follows hwritten, hsources, hfound]
  simp

/-- An assignment follows the lifecycle unless it confirms a booking that waits for its
provider. -/
theorem confirms_follows {db db' : Db} {job : Job} (h : Dispatch.Confirms db job.bookingId db') :
    Table.Kept FollowsEdge db.bookings db'.bookings ↔ ConfirmsNone db (some job) := by
  unfold Dispatch.Confirms Dispatch.pendingBooking at h
  cases hfound : db.bookings.get? job.bookingId with
  | none =>
    rw [hfound] at h
    refine iff_of_true (follows_of_same h) ?_
    simp [ConfirmsNone, hfound]
  | some booking =>
    by_cases hstatus : booking.status = .pendingProviderConfirmation
    · simp only [hfound, Option.filter, hstatus, decide_true, if_true] at h
      rw [restatused_follows h]
      simp [ConfirmsNone, hfound, hstatus, allowedTransitions]
    · simp only [hfound, Option.filter, hstatus, decide_false, Bool.false_eq_true,
        if_false] at h
      refine iff_of_true (follows_of_same h) ?_
      simp [ConfirmsNone, hfound, hstatus]

/-! ## Steps -/

theorem assigns_from {booking : Booking} (h : booking.status ∈ Dispatch.assignable) :
    (BookingStatus.providerAssigned = booking.status ∨
        .providerAssigned ∈ allowedTransitions booking.status) ↔
      booking.status ∈ assigningStatuses := by
  cases hstatus : booking.status <;>
    simp_all [Dispatch.assignable, assigningStatuses, allowedTransitions]

theorem dispatch_follows (settings : Settings) (dir : Directory) (db : Db) (op : Dispatch.Op) :
    Table.Kept FollowsEdge db.bookings (Dispatch.exec settings dir db op).bookings ↔
      DispatchFollows settings dir db op := by
  cases op with
  | matchJob jobId actorId now offerId =>
    exact committed_follows_always fun db' v h => follows_of_same (Dispatch.matchJob_effect h).2.2
  | decideOffer offerId vendorId accept workerId actorId now assignmentId =>
    refine committed_follows fun db' v h => ?_
    rcases (Dispatch.decideOffer_effect h).2.2 with ⟨job, hjob, hconfirms, _⟩ | ⟨hnone, hbookings⟩
    · rw [hjob]
      exact confirms_follows hconfirms
    · rw [hnone]
      refine iff_of_true (follows_of_same hbookings) ?_
      simp [ConfirmsNone]
  | manualAssign jobId vendorId workerId actorId reason now assignmentId =>
    refine committed_follows fun db' v h => ?_
    obtain ⟨job, hjob, hconfirms, _⟩ := (Dispatch.manualAssign_effect h).2.2
    rw [hjob]
    exact confirms_follows hconfirms
  | assign request now jobId assignmentId =>
    refine committed_follows_from .providerAssigned fun db' v h => ?_
    obtain ⟨booking, hfound, hstatus, hwritten⟩ := (Dispatch.assign_effect h).2.1
    exact ⟨booking, hfound, hwritten, assigns_from hstatus⟩
  | automaticAssign bookingId actorId now jobId assignmentId =>
    refine committed_follows_from .providerAssigned fun db' v h => ?_
    obtain ⟨booking, hfound, hstatus, hwritten⟩ := (Dispatch.automaticAssign_effect h).2.1
    exact ⟨booking, hfound, hwritten, assigns_from hstatus⟩
  | unassign bookingId actorId reason now =>
    refine committed_follows_always fun db' v h => ?_
    obtain ⟨booking, _, hstatus, hwritten⟩ := (Dispatch.unassign_effect h).2.1
    rw [restatused_follows hwritten, hstatus]
    decide
  | confirm bookingId workerId actorId reason now jobId assignmentId =>
    refine committed_follows_from .confirmed fun db' v h => ?_
    obtain ⟨booking, hfound, hstatus, hwritten⟩ := (Dispatch.confirm_effect h).2.1
    refine ⟨booking, hfound, hwritten, ?_⟩
    cases hcase : booking.status <;> simp_all [confirmable, allowedTransitions]
  | transition jobId target actorId actorType reason now snapshotId earningId =>
    refine committed_follows_always fun db' v h => ?_
    obtain ⟨_, _, heffect⟩ := Dispatch.transition_effect h
    exact follows_of_same heffect.bookings
  | technicianNote jobId workerId actorId notesField notes target now snapshotId earningId =>
    refine committed_follows_always fun db' v h => ?_
    obtain ⟨_, _, heffect⟩ := Dispatch.technicianNote_effect h
    exact follows_of_same heffect.bookings
  | cancel userId bookingId now =>
    refine committed_follows fun db' v h => ?_
    obtain ⟨booking, hfound, ⟨hstatus, rfl⟩ | ⟨hstatus, hwritten⟩⟩ :=
      (Dispatch.cancelBooking_effect h).2.2
    · rw [hfound]
      refine iff_of_true (follows_of_same rfl) ?_
      simp [hstatus, cancellingStatuses]
    · rw [restatused_follows hwritten, hfound]
      cases hcase : booking.status <;>
        simp_all [cancellable, cancellingStatuses, allowedTransitions]
  | reschedule userId bookingId holdId bookingSession now =>
    refine committed_follows_from .pendingManualDispatch fun db' v h => ?_
    obtain ⟨_, _, _, booking, hfound, hstatus, hwritten⟩ := Dispatch.rescheduleBooking_effect h
    refine ⟨booking, hfound, hwritten, ?_⟩
    cases hcase : booking.status <;> simp_all [reschedulable, allowedTransitions]

theorem payment_follows (w : World) (op : Payments.Op) :
    Table.Kept FollowsEdge w.db.bookings (Payments.exec settings w op).db.bookings ↔
      ∀ payment ∈ settledPayment w op, payment.paymentPurpose = .bookingDiagnostic →
        ∀ booking ∈ payment.bookingId.bind w.db.bookings.get?,
          booking.status ≠ .pendingPayment := by
  have hstep := exec_visits settings w op
  cases hsettled : settledPayment w op with
  | none =>
    rw [hsettled] at hstep
    have hkept : VisitsKept w.db (Payments.exec settings w op).db := hstep
    refine iff_of_true (follows_of_same hkept.bookings) ?_
    simp
  | some payment =>
    rw [hsettled] at hstep
    have hvisit : VisitStep payment w.db (Payments.exec settings w op).db := hstep
    cases hvisit with
    | kept same notBooking =>
      refine iff_of_true (follows_of_same same.bookings) ?_
      intro settled hsame hpurpose booking hbooking hpending
      cases hsame
      obtain ⟨other, hother, hnot⟩ := notBooking hpurpose
      rw [hother] at hbooking
      cases hbooking
      exact hnot hpending
    | quotePaid quote quote' notBooking _ _ _ _ _ _ bookings _ =>
      refine iff_of_true (follows_of_same bookings) ?_
      intro settled hsame hpurpose
      cases hsame
      exact absurd hpurpose notBooking
    | feePaid booking booking' purpose found status id reached bookings _ _ =>
      obtain ⟨_, _, hget⟩ := Option.bind_eq_some_iff.mp found
      have hwritten : Dispatch.Restatused w.db.bookings
          (Payments.exec settings w op).db.bookings booking .pendingProviderConfirmation :=
        ⟨Table.get?_found hget, booking', bookings, id, reached⟩
      rw [restatused_follows hwritten, status]
      refine iff_of_false (by decide) fun hnever => ?_
      exact hnever payment rfl purpose booking found status

theorem expire_follows (db : Db) (now : Instant) (skipped : List Uuid) :
    Table.Kept FollowsEdge db.bookings (expireBookingHolds db now skipped).bookings ↔
      ∀ booking ∈ db.bookings.rows, Expiring now booking → booking.id ∈ skipped := by
  constructor
  · intro hkept booking hmem hexpiring
    by_contra hunlocked
    obtain ⟨other, hother, hfollows⟩ := hkept booking hmem
    rw [expireBookingHolds_get? hmem] at hother
    cases hother
    simp only [expiredBooking, hexpiring, hunlocked, not_false_eq_true, and_self, if_true,
      FollowsEdge] at hfollows
    obtain ⟨hstatus, _⟩ := hexpiring
    revert hstatus hfollows
    cases booking.status <;>
      simp [expiringBookingStatuses, capacityHoldingStatuses, allowedTransitions]
  · intro hnone booking hmem
    refine ⟨booking, ?_, FollowsEdge.refl booking⟩
    rw [expireBookingHolds_get? hmem]
    have hkept : ¬ (Expiring now booking ∧ booking.id ∉ skipped) :=
      fun hexpires => hexpires.2 (hnone booking hmem hexpires.1)
    simp only [expiredBooking, if_neg hkept]

theorem follows_iff (settings : Settings) (dir : Directory) (w : World) (op : Op) :
    EdgesFollowed w (exec settings dir w op) ↔ Follows settings dir w op := by
  cases op with
  | payment op => exact payment_follows w op
  | dispatch op => exact dispatch_follows settings dir w.db op
  | createWorkRequest jobId payload workerId requestId now =>
    refine committed_follows_always fun db' v h => ?_
    obtain ⟨_, _, _, _, _, _, hbookings⟩ := Jobs.createWorkRequest_effect h
    exact follows_of_same hbookings
  | reviewWorkRequest requestId approve actorId now =>
    exact committed_follows_always fun db' v h =>
      follows_of_same (Jobs.reviewWorkRequest_effect h).1
  | decideWorkRequest requestId approve customerId now =>
    exact committed_follows_always fun db' v h =>
      follows_of_same (Jobs.decideWorkRequest_effect h).1
  | expireBookings now skipped => exact expire_follows w.db now skipped

/-! ## Runs -/

/-- Every step of a run writes the statuses of the bookings along the edges of the lifecycle,
and leaves no status without edges, exactly if each starts from a status that has the
edge. -/
theorem bookings_follow_lifecycle (settings : Settings) (dir : Directory) (w : World)
    (ops : List Op) :
    (Along (exec settings dir) (fun w op => EdgesFollowed w (exec settings dir w op)) w ops ∧
        (states (exec settings dir) w ops).Pairwise ClosedKept) ↔
      Along (exec settings dir) (Follows settings dir) w ops := by
  constructor
  · rintro ⟨hedges, _⟩
    exact Along.imp (I := fun _ => True) (fun _ _ _ _ => trivial)
      (fun w op _ hstep => (follows_iff settings dir w op).mp hstep) trivial hedges
  · intro hfollows
    have hedges : Along (exec settings dir) (fun w op => EdgesFollowed w (exec settings dir w op))
        w ops :=
      Along.imp (I := fun _ => True) (fun _ _ _ _ => trivial)
        (fun w op _ hstep => (follows_iff settings dir w op).mpr hstep) trivial hfollows
    refine ⟨hedges, ?_⟩
    exact pairwise_of_step (I := fun _ => True) (fun w => .of_eq rfl StaysClosed.refl)
      (fun _ _ _ h h' => Table.Kept.trans h h' fun _ _ _ => StaysClosed.trans)
      (fun _ _ _ _ => trivial) (fun _ _ _ hstep => hstep.closedKept) trivial hedges

/-- The customer moves an assigned booking, which then waits for dispatch again. -/
def assignedAndMoved : List Op :=
  (Dispatch.visitAssigned ++ [Dispatch.Op.reschedule 9 2 40 "customer-session-1" 3]).map .dispatch

theorem reschedule_leaves_lifecycle :
    ¬ (Along (exec fullSettings Dispatch.visitDirectory)
          (fun w op => EdgesFollowed w (exec fullSettings Dispatch.visitDirectory w op))
          { db := Dispatch.visitDb } assignedAndMoved ∧
        (states (exec fullSettings Dispatch.visitDirectory) { db := Dispatch.visitDb }
          assignedAndMoved).Pairwise ClosedKept) := by
  decide

end Breero.Visits
