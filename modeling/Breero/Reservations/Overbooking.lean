import Breero.Lib.Runs
import Breero.Reservations.Commitments

/-!
Overbooking, under the calls that hold, release, request and assign.

A call searches under the lock of the professional and the exact start, and commits later. A
call for another start has another lock, and can commit in between.

* `Counted` says that the second search would still accept a visit when it commits;
* `never_overbooked`: the limits of the rules are kept in every state of a run if each visit
  is counted when it commits;
* `two_starts_overbook` is a run of two calls that have searched before either commits.
-/

namespace Breero.Reservations
open KeyedTable Transaction Runs Windows Bookings Dispatch

def execOnPath (settings : Settings) (dir : Directory) (w : World) (op : Op) : World :=
  if onPath op then exec settings dir w op else w

/-! ## The condition -/

/-- The minutes of the commitment that a transaction makes. -/
def Work.minutes : Work → Int
  | .hold attempt => attempt.chosen.capacityMinutes
  | .assign _ booking => windowMinutes booking.windowStart booking.windowEnd
  | _ => 0

/-- The second search, over what is committed now, accepts the visit for its minutes. -/
def acceptedNow (dir : Directory) (w : World) (work : Work) (visit : Visit) : Bool :=
  match recheck dir w.db (loadFor dir w.db w.clock visit) work with
  | .ok found => work.minutes ≤ found.capacityMinutes
  | .error _ => false

/-- The visit is within its local day, and so is what it shares an instant or a day with. -/
def InItsDay (dir : Directory) (w : World) (visit : Visit) : Prop :=
  ∀ day ∈ dayAt dir visit.addressId visit.start,
    day.start ≤ visit.start ∧ visit.stop ≤ day.stop ∧
      ∀ worker ∈ w.db.workers.get? visit.professionalId,
        (calendarOf dir worker).OneDay (commitments w.db w.clock worker.id) day
          ⟨visit.start, visit.stop⟩

instance (dir : Directory) (w : World) (visit : Visit) : Decidable (InItsDay dir w visit) :=
  inferInstanceAs (Decidable (∀ day ∈ dayAt dir visit.addressId visit.start,
    _ ∧ _ ∧ ∀ worker ∈ w.db.workers.get? visit.professionalId, _))

def StillAccepted (dir : Directory) (w : World) (work : Work) : Prop :=
  ∀ visit ∈ work.visit, acceptedNow dir w work visit = true ∧ InItsDay dir w visit

instance (dir : Directory) (w : World) (work : Work) : Decidable (StillAccepted dir w work) :=
  inferInstanceAs (Decidable (∀ visit ∈ work.visit, _ ∧ _))

/-- The open transaction commits a hold. -/
def grants (w : World) (id : Uuid) (now : Instant) (holdId : Uuid) : Bool :=
  (w.calls.get? id).any fun call =>
    match call.phase, call.work with
    | .searched _ _, .hold attempt => now ≤ w.clock && (grantHold w.db attempt now holdId).isOk
    | _, _ => false

/-- A hold or an assignment that commits would still be accepted. -/
def Counted (dir : Directory) (w : World) : Op → Prop
  | .grantHold id now holdId =>
    grants w id now holdId = true → ∀ call ∈ w.calls.get? id, StillAccepted dir w call.work
  | .finishAssign id now jobId assignmentId =>
    assigns w id now jobId assignmentId = true →
      ∀ call ∈ w.calls.get? id, StillAccepted dir w call.work
  | _ => True

instance (dir : Directory) (w : World) : DecidablePred (Counted dir w)
  | .grantHold id .. =>
    inferInstanceAs (Decidable (_ → ∀ call ∈ w.calls.get? id, StillAccepted dir w call.work))
  | .finishAssign id .. =>
    inferInstanceAs (Decidable (_ → ∀ call ∈ w.calls.get? id, StillAccepted dir w call.work))
  | .tick .. | .createHold .. | .assign .. | .request .. | .reschedule .. | .getHold ..
  | .lockSlot .. | .readJobs .. | .readHolds .. | .finishRequest .. | .finishReschedule ..
  | .lapse .. | .abort .. | .release .. | .expireStale => isTrue trivial

/-! ## Holds that are given up or converted -/

/-- The held holds were held, and no hold has other minutes. -/
structure HoldsShrink (t u : Table BookingCapacityHold) : Prop where
  held : ∀ hold ∈ u.rows, hold.status = .held → hold ∈ t.rows
  minutes : ∀ hold ∈ u.rows, ∃ old ∈ t.rows, hold.capacityMinutes = old.capacityMinutes

theorem HoldsShrink.refl (t : Table BookingCapacityHold) : HoldsShrink t t :=
  ⟨fun _ hmem _ => hmem, fun hold hmem => ⟨hold, hmem, rfl⟩⟩

theorem HoldsShrink.put {t : Table BookingCapacityHold} {k : Uuid}
    {hold hold' : BookingCapacityHold} (found : t.get? k = some hold)
    (minutes : hold'.capacityMinutes = hold.capacityMinutes) (status : hold'.status ≠ .held) :
    HoldsShrink t (t.put hold') := by
  constructor
  · intro other hmem hheld
    rcases Table.mem_put.mp hmem with ⟨rfl, _⟩ | ⟨hmem, _⟩
    · exact absurd hheld status
    · exact hmem
  · intro other hmem
    rcases Table.mem_put.mp hmem with ⟨rfl, _⟩ | ⟨hmem, _⟩
    · exact ⟨hold, Table.mem_of_get? found, minutes⟩
    · exact ⟨other, hmem, rfl⟩

theorem HoldsShrink.checked {t u : Table BookingCapacityHold} (h : HoldsShrink t u)
    (hminutes : MinutesChecked t) : MinutesChecked u := by
  intro hold hmem
  obtain ⟨old, hold', heq⟩ := h.minutes hold hmem
  rw [heq]
  exact hminutes old hold'

theorem lapseHold_shrinks (db : Db) (holdId : Uuid) :
    HoldsShrink db.holds (lapseHold db holdId).holds := by
  unfold lapseHold
  split
  · next hold found =>
    refine .put found rfl ?_
    simp
  · exact .refl _

theorem releaseHold_shrinks {settings : Settings} {db db' : Db} {holdId : Uuid}
    {bookingSession : String} {now : Instant} {v : Unit}
    (h : releaseHold settings db holdId bookingSession now = .ok (db', v)) :
    HoldsShrink db.holds db'.holds := by
  rcases releaseHold_ok h with rfl | ⟨hold, _, found, _, rfl⟩
  · exact .refl _
  · refine HoldsShrink.put found rfl ?_
    simp

theorem expireStale_shrinks (db : Db) (now : Instant) :
    HoldsShrink db.holds (expireStale db now).holds := by
  constructor
  · intro hold hmem hheld
    obtain ⟨old, hold', heq⟩ : ∃ old ∈ db.holds.rows, staleExpired now old = hold :=
      List.mem_map.mp hmem
    unfold staleExpired at heq
    split at heq
    · subst heq
      cases hheld
    · exact heq ▸ hold'
  · intro hold hmem
    obtain ⟨old, hold', heq⟩ : ∃ old ∈ db.holds.rows, staleExpired now old = hold :=
      List.mem_map.mp hmem
    refine ⟨old, hold', ?_⟩
    rw [← heq]
    unfold staleExpired
    split <;> rfl

/-! ## What is committed -/

variable {dir : Directory} {db db' : Db} {now now' : Instant}

/-- Without a new hold or a new worker of a booking, the commitments are among the old ones. -/
theorem commitments_shrink (hholds : HoldsShrink db.holds db'.holds) (hgrows : Grows db db')
    (hle : now ≤ now') (workerId : Uuid) :
    commitments db' now' workerId ⊆ commitments db now workerId := by
  intro c hc
  rcases mem_commitments.mp hc with ⟨hold, hmem, hworker, hactive, rfl⟩ |
    ⟨booking, hmem, hworker, hlive, rfl⟩
  · simp only [activeHold, Bool.and_eq_true, decide_eq_true_eq] at hactive
    refine mem_commitments.mpr (Or.inl ⟨hold, hholds.held hold hmem hactive.1, hworker, ?_, rfl⟩)
    simp [activeHold, hactive.1, hle.trans_lt hactive.2]
  · exact mem_commitments.mpr
      (Or.inr ⟨booking, hgrows.assigned hmem hworker, hworker, hlive, rfl⟩)

theorem commitments_granted {hold : BookingCapacityHold}
    (hinsert : db.holds.insert? hold = some db'.holds) (hbookings : db'.bookings = db.bookings)
    (workerId : Uuid) : ∀ c ∈ commitments db' now workerId,
      (c = Commitment.ofHold hold ∧ hold.professionalCandidateId = workerId) ∨
        c ∈ commitments db now workerId := by
  intro c hc
  rcases mem_commitments.mp hc with ⟨other, hmem, hworker, hactive, rfl⟩ |
    ⟨booking, hmem, hworker, hlive, rfl⟩
  · rcases (Table.mem_insert hinsert).mp hmem with hmem | rfl
    · exact Or.inr (mem_commitments.mpr (Or.inl ⟨other, hmem, hworker, hactive, rfl⟩))
    · exact Or.inl ⟨rfl, hworker⟩
  · rw [hbookings] at hmem
    exact Or.inr (mem_commitments.mpr (Or.inr ⟨booking, hmem, hworker, hlive, rfl⟩))

theorem commitments_assigned {assigned : Booking} (hholds : db'.holds = db.holds)
    (hbookings : db'.bookings = db.bookings.put assigned) (workerId : Uuid) :
    ∀ c ∈ commitments db' now workerId,
      (c = Commitment.ofBooking assigned ∧ assigned.providerWorkerId = some workerId) ∨
        c ∈ commitments db now workerId := by
  intro c hc
  rcases mem_commitments.mp hc with ⟨hold, hmem, hworker, hactive, rfl⟩ |
    ⟨booking, hmem, hworker, hlive, rfl⟩
  · rw [hholds] at hmem
    exact Or.inr (mem_commitments.mpr (Or.inl ⟨hold, hmem, hworker, hactive, rfl⟩))
  · rw [hbookings] at hmem
    rcases Table.mem_put.mp hmem with ⟨rfl, _⟩ | ⟨hmem, _⟩
    · exact Or.inl ⟨rfl, hworker⟩
    · exact Or.inr (mem_commitments.mpr (Or.inr ⟨booking, hmem, hworker, hlive, rfl⟩))

/-! ## What an accepted visit keeps -/

/-- The limits are kept, and the load of a day is what is committed on it. -/
structure CommitmentsInv (dir : Directory) (db : Db) (now : Instant) : Prop where
  kept : NotOverbooked dir db now
  jobs : BookedJobs db
  minutes : MinutesChecked db.holds

variable {w w' : World}

theorem CommitmentsInv.shrink (h : CommitmentsInv dir db now) (hgrows : Grows db db')
    (hholds : HoldsShrink db.holds db'.holds) (hworkers : db'.workers = db.workers)
    (hle : now ≤ now') : CommitmentsInv dir db' now' :=
  ⟨h.kept.of_subset h.minutes hworkers (commitments_shrink hholds hgrows hle),
    h.jobs.grows hgrows, hholds.checked h.minutes⟩

/-- The commitment of a visit that is still accepted is the only new one. -/
theorem StillAccepted.add {work : Work} {visit : Visit} (h : StillAccepted dir w work)
    (hvisit : work.visit = some visit)
    (hchosen : ∀ attempt, work = .hold attempt → Chosen dir w.db.workers attempt)
    (hinv : CommitmentsInv dir w.db w.clock) (x : Commitment)
    (haddress : x.addressId = visit.addressId) (hwindow : x.window = ⟨visit.start, visit.stop⟩)
    (hminutes : x.minutes = work.minutes) (hpos : 0 ≤ x.minutes)
    (hworkers : db'.workers = w.db.workers)
    (hnew : ∀ workerId, ∀ c ∈ commitments db' w.clock workerId,
      (c = x ∧ workerId = visit.professionalId) ∨ c ∈ commitments w.db w.clock workerId) :
    NotOverbooked dir db' w.clock := by
  obtain ⟨haccepted, hinside⟩ := h visit hvisit
  unfold acceptedNow at haccepted
  split at haccepted
  · next found hrecheck =>
    obtain ⟨worker, hworker, day, hid, hday, haccepts⟩ := recheck_accepts hrecheck hvisit hchosen
    have hload : loadFor dir w.db w.clock visit = loadOn w.db w.clock worker.id day := by
      simp [loadFor, jobsFor, holdsFor, loadOn, hday, hid]
    have hfound : w.db.workers.get? visit.professionalId = some worker := by
      rw [← hid]
      exact Table.get?_key hworker
    obtain ⟨hstart, hstop, hone⟩ := hinside day hday
    have hone := hone worker hfound
    have hasked : x.minutes ≤ found.capacityMinutes :=
      hminutes.trans_le (of_decide_eq_true haccepted)
    rw [hload, ← hwindow] at haccepts
    rw [← hwindow] at hone
    refine hinv.kept.add hinv.jobs hinv.minutes hworker ?_ haccepts hasked hpos ?_ ?_ hone hworkers
      ?_ ?_
    · rw [haddress, hwindow]
      exact hday
    · rw [hwindow]
      exact hstart
    · rw [hwindow]
      exact hstop
    · intro c hc
      rcases hnew worker.id c hc with ⟨rfl, _⟩ | hc
      · exact List.mem_cons_self
      · exact List.mem_cons_of_mem _ hc
    · intro workerId hne c hc
      rcases hnew workerId c hc with ⟨_, hother⟩ | hc
      · exact absurd (hother.trans hid.symm) hne
      · exact hc
  · cases haccepted

theorem grantHold_rows {attempt : HoldAttempt} {holdId : Uuid} {hold : BookingCapacityHold}
    (h : grantHold db attempt now holdId = .ok (db', hold)) :
    hold = newHold attempt now holdId ∧ db.holds.insert? hold = some db'.holds ∧
      0 < hold.capacityMinutes ∧ db'.bookings = db.bookings ∧ db'.jobs = db.jobs ∧
      db'.workers = db.workers := by
  obtain ⟨hnew, holds, auditLogs, hinsert, hpos, rfl⟩ := grantHold_ok h
  exact ⟨hnew, hinsert, hpos, rfl, rfl, rfl⟩

theorem CommitmentsInv.grant (h : CommitmentsInv dir w.db w.clock) {attempt : HoldAttempt}
    {holdId : Uuid} {hold : BookingCapacityHold} (hchosen : Chosen dir w.db.workers attempt)
    (hstill : StillAccepted dir w (.hold attempt))
    (written : grantHold w.db attempt now holdId = .ok (db', hold)) :
    CommitmentsInv dir db' w.clock := by
  obtain ⟨hnew, hinsert, hpos, hbookings, hjobs, hworkers⟩ := grantHold_rows written
  refine ⟨?_, h.jobs.grows (.same hjobs hbookings), ?_⟩
  · refine hstill.add rfl ?_ h (Commitment.ofHold hold) ?_ ?_ ?_ hpos.le hworkers ?_
    · intro attempt' heq
      cases heq
      exact hchosen
    · rw [hnew]
      rfl
    · rw [hnew]
      rfl
    · rw [hnew]
      rfl
    · intro workerId c hc
      rcases commitments_granted hinsert hbookings workerId c hc with ⟨heq, hworker⟩ | hc
      · refine Or.inl ⟨heq, hworker.symm.trans ?_⟩
        rw [hnew]
        rfl
      · exact Or.inr hc
  · intro other hmem
    rcases (Table.mem_insert hinsert).mp hmem with hmem | rfl
    · exact h.minutes other hmem
    · exact hpos

theorem CommitmentsInv.assign (h : CommitmentsInv dir w.db w.clock) {booking assigned : Booking}
    {candidate : ProviderCandidate} {request : AssignRequest} {jobId assignmentId : Uuid}
    (found : w.db.bookings.get? booking.id = some booking)
    (hstill : StillAccepted dir w (.assign request booking))
    (written : assignTo w.db booking candidate request now jobId assignmentId =
      .ok (db', assigned)) : CommitmentsInv dir db' w.clock := by
  have hholds := assignTo_holds written
  obtain ⟨professional, hprofessional, hworkers, hbookings, _, hworker, haddress, hstart, hstop,
    _⟩ := assignTo_rows written
  refine ⟨?_, h.jobs.assign found written, hholds ▸ h.minutes⟩
  refine hstill.add rfl ?_ h (Commitment.ofBooking assigned) haddress ?_ ?_
    (windowMinutes_nonneg _ _) hworkers ?_
  · intro attempt heq
    cases heq
  · rw [Commitment.ofBooking, hstart, hstop]
  · rw [Commitment.ofBooking, hstart, hstop]
    rfl
  · intro workerId c hc
    rcases commitments_assigned hholds hbookings workerId c hc with ⟨heq, hother⟩ | hc
    · rw [hworker, Option.some.injEq] at hother
      exact Or.inl ⟨heq, hother.symm.trans (Table.key_of_get? hprofessional)⟩
    · exact Or.inr hc

/-! ## Locked bookings -/

/-- The booking whose row an open assignment has locked, as it was read. -/
def Call.bookingRow (call : Call) : Option Booking :=
  match call.phase, call.work with
  | .closed, _ => none
  | _, .assign _ booking => some booking
  | _, _ => none

theorem Call.bookingRow_work {call : Call} {booking : Booking}
    (h : call.bookingRow = some booking) :
    call.phase ≠ .closed ∧ ∃ request, call.work = .assign request booking := by
  unfold Call.bookingRow at h
  split at h
  · cases h
  · next request booking' work hopen =>
    cases h
    exact ⟨hopen, request, work⟩
  · cases h

theorem Call.bookingRow_of_assign {call : Call} {request : AssignRequest} {booking : Booking}
    (hopen : call.phase ≠ .closed) (work : call.work = .assign request booking) :
    call.bookingRow = some booking := by
  unfold Call.bookingRow
  split
  · next hclosed => exact absurd hclosed hopen
  · next heq _ =>
    rw [work] at heq
    cases heq
    rfl
  · next hother => exact absurd work (hother _ _)

theorem Call.lock_bookingRow {call : Call} {booking : Booking}
    (h : call.bookingRow = some booking) : Lock.bookingRow booking.id ∈ call.locks := by
  obtain ⟨hopen, request, work⟩ := Call.bookingRow_work h
  unfold Call.locks
  split
  · next hclosed => exact absurd hclosed hopen
  · simp [work, Work.locks]
  · simp [work, Work.locks]

def BookingsHeld (w : World) : Prop :=
  ∀ call ∈ w.calls.rows, ∀ booking ∈ call.bookingRow,
    w.db.bookings.get? booking.id = some booking

/-- A transaction that moves on has locked the row before, or locks none. -/
theorem Moves.bookingRow {call : Call} {phase : Phase} {booking : Booking}
    (h : Moves dir w call phase)
    (hrow : ({ call with phase } : Call).bookingRow = some booking) :
    call.bookingRow = some booking := by
  obtain ⟨hopen, request, work⟩ := Call.bookingRow_work hrow
  refine Call.bookingRow_of_assign ?_ work
  cases h with
  | locked visit phase work free => simp [phase]
  | jobsRead visit phase work => simp [phase]
  | searched visit jobs candidate phase work checked => simp [phase]
  | closed => exact absurd rfl hopen

/-- The rows that the others have locked are kept by a commit that grows the bookings. -/
theorem BookingsHeld.grows {call : Call} {conversions : List (Uuid × Uuid)} (h : BookingsHeld w)
    (hgrows : Grows w.db db') :
    BookingsHeld { w.setPhase call .closed with db := db', conversions } := by
  intro other hother booking hrow
  rcases Table.mem_put.mp hother with ⟨rfl, _⟩ | ⟨hother, _⟩
  · cases hrow
  · exact hgrows.get? (h other hother booking hrow)

/-- An assignment writes the booking that it has locked. -/
theorem BookingsHeld.assigned {call : Call} {conversions : List (Uuid × Uuid)}
    {booking assigned : Booking} (h : BookingsHeld w) (hexclusive : Exclusive w)
    (hcall : call ∈ w.calls.rows) (hrow : call.bookingRow = some booking)
    (hbookings : db'.bookings = w.db.bookings.put assigned) (hid : assigned.id = booking.id) :
    BookingsHeld { w.setPhase call .closed with db := db', conversions } := by
  intro other hother booking' hrow'
  rcases Table.mem_put.mp hother with ⟨rfl, _⟩ | ⟨hother, hne⟩
  · cases hrow'
  · show db'.bookings.get? booking'.id = some booking'
    rw [hbookings, Table.get?_put_ne]
    · exact h other hother booking' hrow'
    · intro hsame
      have hsame : booking.id = booking'.id := hid.symm.trans hsame
      have hlock := Call.lock_bookingRow hrow'
      rw [← hsame] at hlock
      have heq := hexclusive other hother call hcall _ hlock (Call.lock_bookingRow hrow)
      have hkey : other.id = call.id := congrArg Call.id heq
      exact hne hkey

/-! ## Steps -/

structure OverbookingInv (dir : Directory) (w : World) : Prop where
  commitments : CommitmentsInv dir w.db w.clock
  exclusive : Exclusive w
  rows : RowsHeld w
  bookings : BookingsHeld w
  chosen : ∀ call ∈ w.calls.rows, ∀ attempt, call.work = .hold attempt →
    Chosen dir w.db.workers attempt

variable {settings : Settings} {op : Op}

/-- The work of the calls is kept, and the workers are. -/
theorem OverbookingInv.chosen_put (h : OverbookingInv dir w) {call : Call} {phase : Phase}
    (hcall : call ∈ w.calls.rows) (hworkers : db'.workers = w.db.workers) :
    ∀ other ∈ (w.calls.put { call with phase }).rows, ∀ attempt, other.work = .hold attempt →
      Chosen dir db'.workers attempt := by
  rw [hworkers]
  intro other hother attempt work
  rcases Table.mem_put.mp hother with ⟨rfl, _⟩ | ⟨hother, _⟩
  · exact h.chosen call hcall attempt work
  · exact h.chosen other hother attempt work

theorem Writes.commitmentsInv {call : Call} {converted : List (Uuid × Uuid)}
    (hwrites : Writes settings dir w call op db' converted) (h : OverbookingInv dir w)
    (found : w.calls.get? call.id = some call) (hpath : onPath op = true)
    (hcounted : Counted dir w op) :
    CommitmentsInv dir db' w.clock ∧ db'.workers = w.db.workers ∧
      BookingsHeld { w.setPhase call .closed with
        db := db', conversions := w.conversions ++ converted } := by
  have hcall := Table.mem_of_get? found
  cases hwrites with
  | granted attempt load candidate hold phase work past written =>
    have hgrants := hcounted (by simp [grants, found, phase, work, past, isOk_of_eq written])
    have hstill := hgrants call found
    rw [work] at hstill
    obtain ⟨_, _, _, hbookings, hjobs, hworkers⟩ := grantHold_rows written
    exact ⟨h.commitments.grant (h.chosen call hcall attempt work) hstill written, hworkers,
      h.bookings.grows (.same hjobs hbookings)⟩
  | assigned request booking assigned load candidate phase work written =>
    have hassigns := hcounted (by simp [assigns, found, phase, work, isOk_of_eq written])
    have hstill := hassigns call found
    rw [work] at hstill
    have hrow : call.bookingRow = some booking :=
      Call.bookingRow_of_assign (by simp [phase]) work
    obtain ⟨_, _, hworkers, hbookings, hid, _⟩ := assignTo_rows written
    exact ⟨h.commitments.assign (h.bookings call hcall booking hrow) hstill written, hworkers,
      h.bookings.assigned h.exclusive hcall hrow hbookings hid⟩
  | requested request hold checkedAt booking phase work written =>
    have hheld : call.heldRow = some hold := by simp [Call.heldRow, phase, work]
    obtain ⟨hrow, _⟩ := h.rows call hcall hold hheld
    obtain ⟨_, hworkers, hjobs, ⟨customerId, currency, hbooking⟩, inserted, hholds⟩ :=
      finishRequest_ok written
    have hgrows : Grows w.db db' := .booked booking hjobs (by rw [hbooking]; rfl) inserted
    have hshrink : HoldsShrink w.db.holds db'.holds := by
      rw [hholds]
      refine .put hrow rfl ?_
      simp
    exact ⟨h.commitments.shrink hgrows hshrink hworkers (le_refl _), hworkers,
      h.bookings.grows hgrows⟩
  | rescheduled userId booking hold checkedAt phase work => cases hpath
  | lapsed holdId phase work =>
    obtain ⟨hjobs, hbookings⟩ := lapseHold_rows w.db holdId
    have hworkers : (lapseHold w.db holdId).workers = w.db.workers := by
      unfold lapseHold
      split <;> rfl
    exact ⟨h.commitments.shrink (.same hjobs hbookings) (lapseHold_shrinks w.db holdId) hworkers
      (le_refl _), hworkers, h.bookings.grows (.same hjobs hbookings)⟩

theorem releaseHold_workers {holdId : Uuid} {bookingSession : String} {v : Unit}
    (h : releaseHold settings db holdId bookingSession now = .ok (db', v)) :
    db'.workers = db.workers := by
  rcases releaseHold_ok h with rfl | ⟨hold, _, _, _, rfl⟩
  · rfl
  · rfl

theorem Transacts.overbookingInv (htransacts : Transacts settings w op db')
    (h : OverbookingInv dir w) (hrows : RowsHeld { w with db := db' }) :
    OverbookingInv dir { w with db := db' } := by
  have hgrows := htransacts.grows
  have hshrink : HoldsShrink w.db.holds db'.holds := by
    cases htransacts with
    | released written => exact releaseHold_shrinks written
    | expired => exact expireStale_shrinks w.db w.clock
  have hworkers : db'.workers = w.db.workers := by
    cases htransacts with
    | released written => exact releaseHold_workers written
    | expired => rfl
  refine ⟨h.commitments.shrink hgrows hshrink hworkers (le_refl _), h.exclusive, hrows, ?_, ?_⟩
  · intro call hcall booking hrow
    exact hgrows.get? (h.bookings call hcall booking hrow)
  · intro call hcall attempt work
    show Chosen dir db'.workers attempt
    rw [hworkers]
    exact h.chosen call hcall attempt work

theorem OverbookingInv.step (h : OverbookingInv dir w) (hstep : Step settings dir w op w')
    (hpath : onPath op = true) (hcounted : Counted dir w op) : OverbookingInv dir w' := by
  have hexclusive := hstep.exclusive h.exclusive
  have hrows := hstep.rowsHeld h.rows
  cases hstep with
  | waited => exact h
  | ticked elapsed =>
    have hle : w.clock ≤ w.clock + elapsed :=
      Int.le_add_of_nonneg_right (Int.natCast_nonneg elapsed)
    exact ⟨h.commitments.shrink (.same rfl rfl) (.refl _) rfl hle, hexclusive, hrows, h.bookings,
      h.chosen⟩
  | began id work calls opens free inserted =>
    refine ⟨h.commitments, hexclusive, hrows, ?_, ?_⟩
    · intro call hcall booking hrow
      rcases (Table.mem_insert inserted).mp hcall with hcall | rfl
      · exact h.bookings call hcall booking hrow
      · obtain ⟨_, request, hwork⟩ := Call.bookingRow_work hrow
        cases opens with
        | assign begun =>
          cases hwork
          exact (beginAssign_ok begun).1
        | hold prepared => cases hwork
        | convert begun => cases hwork
        | reschedule begun => cases hwork
        | lapse read => cases hwork
    · intro call hcall attempt hwork
      rcases (Table.mem_insert inserted).mp hcall with hcall | rfl
      · exact h.chosen call hcall attempt hwork
      · cases opens with
        | hold prepared =>
          cases hwork
          exact prepareHold_chosen prepared
        | assign begun => cases hwork
        | convert begun => cases hwork
        | reschedule begun => cases hwork
        | lapse read => cases hwork
  | moved call phase found moves =>
    have hcall := Table.mem_of_get? found
    refine ⟨h.commitments, hexclusive, hrows, ?_, h.chosen_put hcall rfl⟩
    intro other hother booking hrow
    rcases Table.mem_put.mp hother with ⟨rfl, _⟩ | ⟨hother, _⟩
    · exact h.bookings call hcall booking (moves.bookingRow hrow)
    · exact h.bookings other hother booking hrow
  | committed call db converted found writes can =>
    obtain ⟨hcommitments, hworkers, hbookings⟩ := writes.commitmentsInv h found hpath hcounted
    exact ⟨hcommitments, hexclusive, hrows, hbookings,
      h.chosen_put (Table.mem_of_get? found) hworkers⟩
  | transacted db writes can => exact writes.overbookingInv h hrows

theorem OverbookingInv.start {clock : Instant} (h : CommitmentsInv dir db clock) :
    OverbookingInv dir { db, clock } :=
  have hempty : ∀ call : Call, call ∉ (Table.empty : Table Call).rows := fun _ => List.not_mem_nil
  ⟨h, fun call hcall => absurd hcall (hempty call), fun call hcall => absurd hcall (hempty call),
    fun call hcall => absurd hcall (hempty call), fun call hcall => absurd hcall (hempty call)⟩

/-- No professional is overbooked in any state of a run in which each hold and each
assignment would still be accepted when it commits. -/
theorem never_overbooked (settings : Settings) (dir : Directory) (db : Db) (clock : Instant)
    (ops : List Op) (hstart : CommitmentsInv dir db clock)
    (hcounted : Along (execOnPath settings dir) (Counted dir) { db, clock } ops) :
    Always (execOnPath settings dir) (fun w => NotOverbooked dir w.db w.clock) { db, clock }
      ops := by
  have hstep : ∀ w op, OverbookingInv dir w → Counted dir w op →
      OverbookingInv dir (execOnPath settings dir w op) := by
    intro w op h hcounted
    unfold execOnPath
    split
    · next hpath => exact h.step (exec_step settings dir w op) hpath hcounted
    · exact h
  exact (always_of_inv hstep (.start hstart) hcounted).imp fun _ h => h.commitments.kept

/-- A visit of an hour from the minute on. -/
def visitAt (minute : Int) (bookingSession idempotencyKey : String) : HoldRequest := {
  serviceId := 3, addressId := 4, startLocal := ofMinutes minute, timezoneId := "UTC"
  bookingSession, idempotencyKey }

/-- From the first search to the second. -/
def searchedFor (id : Uuid) (first : Op) : List Op :=
  [first, .lockSlot id, .readJobs id, .readHolds id]

/-- The hour from twelve on is held, the hold 40 is converted, and the booking 2 assigned. -/
def busyDay : List Op :=
  searchedFor 50 (.createHold 50 (visitAt 720 "customer-session-2" "hold-2") fun _ _ => {}) ++
    [.grantHold 50 0 60, .request 51 heldRequest,
     .finishRequest 51 (some 9) (.ok none) { userId := 10, customerId := 11, bookingId := 12
                                             reference := "BR-12" }] ++
    searchedFor 52 (.assign 52
      { bookingId := 2, professionalId := 6, actorId := 8, reason := "nearest" } fun _ _ => {}) ++
    [.finishAssign 52 0 20 21]

theorem busyDay_never_overbooked :
    Always (execOnPath visitSettings heldDirectory)
      (fun w => NotOverbooked heldDirectory w.db w.clock) { db := visitDb, clock := 0 } busyDay :=
  never_overbooked visitSettings heldDirectory visitDb 0 busyDay
    ⟨by decide, ⟨by decide, by decide, by decide⟩, by decide⟩ (by decide)

/-- Two visits that begin half an hour apart are searched for before either is held. -/
def twoStarts : List Op :=
  searchedFor 50 (.createHold 50 (visitAt 720 "customer-session-2" "hold-2") fun _ _ => {}) ++
    searchedFor 51 (.createHold 51 (visitAt 750 "customer-session-3" "hold-3") fun _ _ => {}) ++
    [.grantHold 50 0 60, .grantHold 51 0 61]

theorem two_starts_overbook :
    ¬ Always (execOnPath visitSettings heldDirectory)
        (fun w => NotOverbooked heldDirectory w.db w.clock) { db := visitDb, clock := 0 }
        twoStarts := by
  decide

end Breero.Reservations
