import Breero.Reservations.System

/-!
What a step of the open transactions can do, said once: `Step` has one constructor for
each kind of step, and `exec_step` is its inversion.

* `Exclusive` says that no lock is had twice, and `RowsHeld` that the hold a transaction
  has locked is still as it was read; every step keeps both.
-/

namespace Breero.Reservations
open KeyedTable Transaction Bookings Dispatch

variable {settings : Settings} {dir : Directory} {w w' : World}

/-! ## Kinds of steps -/

/-- The work with which a step opens a transaction. -/
inductive Opens (settings : Settings) (dir : Directory) (w : World) : Op → Uuid → Work → Prop
  | hold {id : Uuid} {request : HoldRequest} {loads : Uuid → Day → Load} {attempt : HoldAttempt}
      (prepared : prepareHold settings dir w.db loads request = .ok (.inr attempt)) :
      Opens settings dir w (.createHold id request loads) id (.hold attempt)
  | assign {id : Uuid} {request : AssignRequest} {loads : Uuid → Day → Load} {booking : Booking}
      (begun : beginAssign settings dir w.db loads request = .ok booking) :
      Opens settings dir w (.assign id request loads) id (.assign request booking)
  | convert {id : Uuid} {request : BookingRequestCreate} {hold : BookingCapacityHold}
      (begun : beginRequest settings w.db request w.clock = .ok (.inr hold)) :
      Opens settings dir w (.request id request) id (.convert request hold w.clock)
  | reschedule {id userId bookingId holdId : Uuid} {bookingSession : String} {booking : Booking}
      {hold : BookingCapacityHold}
      (begun : beginReschedule settings w.db userId bookingId holdId bookingSession w.clock =
        .ok (booking, hold)) :
      Opens settings dir w (.reschedule id userId bookingId holdId bookingSession) id
        (.reschedule userId booking hold w.clock)
  | lapse {id holdId : Uuid} {bookingSession : String} {hold : BookingCapacityHold}
      (read : getHold settings w.db holdId bookingSession w.clock = .ok (hold, true)) :
      Opens settings dir w (.getHold id holdId bookingSession) id (.lapse holdId)

/-- The phase into which a step moves an open transaction. -/
inductive Moves (dir : Directory) (w : World) (call : Call) : Phase → Prop
  | locked (visit : Visit) (phase : call.phase = .opened) (work : call.work.visit = some visit)
      (free : w.free call.work.slot) : Moves dir w call .locked
  | jobsRead (visit : Visit) (phase : call.phase = .locked) (work : call.work.visit = some visit) :
      Moves dir w call (.jobsRead (jobsFor dir w.db visit))
  | searched (visit : Visit) (jobs : List Job) (candidate : ProviderCandidate)
      (phase : call.phase = .jobsRead jobs) (work : call.work.visit = some visit)
      (checked : recheck dir w.db { jobs, holds := holdsFor dir w.db w.clock visit } call.work =
        .ok candidate) :
      Moves dir w call
        (.searched { jobs, holds := holdsFor dir w.db w.clock visit } candidate)
  | closed : Moves dir w call .closed

/-- The database that an open transaction commits, with the hold it converts. -/
inductive Writes (settings : Settings) (dir : Directory) (w : World) (call : Call) :
    Op → Db → List (Uuid × Uuid) → Prop
  | granted {now : Instant} {holdId : Uuid} {db : Db} (attempt : HoldAttempt) (load : Load)
      (candidate : ProviderCandidate) (hold : BookingCapacityHold)
      (phase : call.phase = .searched load candidate) (work : call.work = .hold attempt)
      (past : now ≤ w.clock) (written : grantHold w.db attempt now holdId = .ok (db, hold)) :
      Writes settings dir w call (.grantHold call.id now holdId) db []
  | assigned {now : Instant} {jobId assignmentId : Uuid} {db : Db} (request : AssignRequest)
      (booking assigned : Booking) (load : Load) (candidate : ProviderCandidate)
      (phase : call.phase = .searched load candidate) (work : call.work = .assign request booking)
      (written : assignTo w.db booking candidate request now jobId assignmentId =
        .ok (db, assigned)) :
      Writes settings dir w call (.finishAssign call.id now jobId assignmentId) db []
  | requested {authenticatedUser : Option Uuid} {subject : Except Raised (Option String)}
      {ids : RequestIds} {db : Db} (request : BookingRequestCreate) (hold : BookingCapacityHold)
      (checkedAt : Instant) (booking : Booking) (phase : call.phase = .opened)
      (work : call.work = .convert request hold checkedAt)
      (written : finishRequest settings dir w.db request hold checkedAt authenticatedUser subject
        ids = .ok (db, booking)) :
      Writes settings dir w call (.finishRequest call.id authenticatedUser subject ids) db
        [(hold.id, ids.bookingId)]
  | rescheduled (userId : Uuid) (booking : Booking) (hold : BookingCapacityHold)
      (checkedAt : Instant) (phase : call.phase = .opened)
      (work : call.work = .reschedule userId booking hold checkedAt) :
      Writes settings dir w call (.finishReschedule call.id)
        (finishReschedule w.db userId booking hold checkedAt).1 [(hold.id, booking.id)]
  | lapsed (holdId : Uuid) (phase : call.phase = .opened) (work : call.work = .lapse holdId) :
      Writes settings dir w call (.lapse call.id) (lapseHold w.db holdId) []

/-- The database of a transaction that is one step. -/
inductive Transacts (settings : Settings) (w : World) : Op → Db → Prop
  | released {holdId : Uuid} {bookingSession : String} {db : Db}
      (written : releaseHold settings w.db holdId bookingSession w.clock = .ok (db, ())) :
      Transacts settings w (.release holdId bookingSession) db
  | expired : Transacts settings w .expireStale (expireStale w.db w.clock)

inductive Step (settings : Settings) (dir : Directory) (w : World) (op : Op) : World → Prop
  | waited : Step settings dir w op w
  | ticked (elapsed : Nat) : Step settings dir w op { w with clock := w.clock + elapsed }
  | began (id : Uuid) (work : Work) (calls : Table Call) (opens : Opens settings dir w op id work)
      (free : w.free work.locks) (inserted : w.calls.insert? { id, work } = some calls) :
      Step settings dir w op { w with calls }
  | moved (call : Call) (phase : Phase) (found : w.calls.get? call.id = some call)
      (moves : Moves dir w call phase) : Step settings dir w op (w.setPhase call phase)
  | committed (call : Call) (db : Db) (converted : List (Uuid × Uuid))
      (found : w.calls.get? call.id = some call)
      (writes : Writes settings dir w call op db converted)
      (can : w.canWrite (some call.id) db) :
      Step settings dir w op
        { w.setPhase call .closed with db, conversions := w.conversions ++ converted }
  | transacted (db : Db) (writes : Transacts settings w op db) (can : w.canWrite none db) :
      Step settings dir w op { w with db }

/-! ## Every step is of a kind -/

variable {op : Op}

theorem Step.of_begin {id : Uuid} {work : Work} (opens : Opens settings dir w op id work) :
    Step settings dir w op (w.begin { id, work }) := by
  unfold World.begin
  split
  · next free =>
    split
    · next calls inserted => exact .began id work calls opens free inserted
    · exact .waited
  · exact .waited

theorem Step.of_finish {call : Call} {result : Except Raised Db} {converted : List (Uuid × Uuid)}
    (found : w.calls.get? call.id = some call)
    (writes : ∀ db, result = .ok db → Writes settings dir w call op db converted) :
    Step settings dir w op (w.finish call result converted) := by
  unfold World.finish
  split
  · next db =>
    split
    · next can => exact .committed call db converted found (writes db rfl) can
    · exact .waited
  · exact .moved call .closed found .closed

theorem Step.of_transact {result : Except Raised Db}
    (writes : ∀ db, result = .ok db → Transacts settings w op db) :
    Step settings dir w op (w.transact result) := by
  unfold World.transact
  split
  · next db =>
    split
    · next can => exact .transacted db (writes db rfl) can
    · exact .waited
  · exact .waited

theorem Step.of_call {id : Uuid} {f : Call → World}
    (h : ∀ call, call.id = id → w.calls.get? call.id = some call →
      Step settings dir w op (f call)) : Step settings dir w op (stepCall w id f) := by
  unfold stepCall
  split
  · next call found => exact h call (Table.key_of_get? found) (Table.get?_found found)
  · exact .waited

theorem createHold_step (id : Uuid) (request : HoldRequest) (loads : Uuid → Day → Load) :
    Step settings dir w (.createHold id request loads)
      (exec settings dir w (.createHold id request loads)) := by
  simp only [exec]
  split
  · next attempt prepared => exact .of_begin (.hold prepared)
  · exact .waited

theorem assign_step (id : Uuid) (request : AssignRequest) (loads : Uuid → Day → Load) :
    Step settings dir w (.assign id request loads)
      (exec settings dir w (.assign id request loads)) := by
  simp only [exec]
  split
  · next booking begun => exact .of_begin (.assign begun)
  · exact .waited

theorem request_step (id : Uuid) (request : BookingRequestCreate) :
    Step settings dir w (.request id request) (exec settings dir w (.request id request)) := by
  simp only [exec]
  split
  · next hold begun => exact .of_begin (.convert begun)
  · exact .waited

theorem reschedule_step (id userId bookingId holdId : Uuid) (bookingSession : String) :
    Step settings dir w (.reschedule id userId bookingId holdId bookingSession)
      (exec settings dir w (.reschedule id userId bookingId holdId bookingSession)) := by
  simp only [exec]
  split
  · next booking hold begun => exact .of_begin (.reschedule begun)
  · exact .waited

theorem getHold_step (id holdId : Uuid) (bookingSession : String) :
    Step settings dir w (.getHold id holdId bookingSession)
      (exec settings dir w (.getHold id holdId bookingSession)) := by
  simp only [exec]
  split
  · next hold read => exact .of_begin (.lapse read)
  · exact .waited

theorem lockSlot_step (id : Uuid) :
    Step settings dir w (.lockSlot id) (exec settings dir w (.lockSlot id)) := by
  refine .of_call fun call _ found => ?_
  split
  · next visit phase work =>
    split
    · next free => exact .moved call .locked found (.locked visit phase work free)
    · exact .waited
  · exact .waited

theorem readJobs_step (id : Uuid) :
    Step settings dir w (.readJobs id) (exec settings dir w (.readJobs id)) := by
  refine .of_call fun call _ found => ?_
  split
  · next visit phase work => exact .moved call _ found (.jobsRead visit phase work)
  · exact .waited

theorem readHolds_step (id : Uuid) :
    Step settings dir w (.readHolds id) (exec settings dir w (.readHolds id)) := by
  refine .of_call fun call _ found => ?_
  split
  · next jobs visit phase work =>
    dsimp only
    split
    · next candidate checked =>
      exact .moved call _ found (.searched visit jobs candidate phase work checked)
    · exact .moved call .closed found .closed
  · exact .waited

theorem grantHold_step (id : Uuid) (now : Instant) (holdId : Uuid) :
    Step settings dir w (.grantHold id now holdId)
      (exec settings dir w (.grantHold id now holdId)) := by
  refine .of_call fun call hid found => ?_
  subst hid
  split
  · next load candidate attempt phase work =>
    split
    · next past =>
      refine .of_finish found fun db hdb => ?_
      obtain ⟨hold, written⟩ := map_fst_ok hdb
      exact .granted attempt load candidate hold phase work past written
    · exact .waited
  · exact .waited

theorem finishAssign_step (id : Uuid) (now : Instant) (jobId assignmentId : Uuid) :
    Step settings dir w (.finishAssign id now jobId assignmentId)
      (exec settings dir w (.finishAssign id now jobId assignmentId)) := by
  refine .of_call fun call hid found => ?_
  subst hid
  split
  · next load candidate request booking phase work =>
    refine .of_finish found fun db hdb => ?_
    obtain ⟨assigned, written⟩ := map_fst_ok hdb
    exact .assigned request booking assigned load candidate phase work written
  · exact .waited

theorem finishRequest_step (id : Uuid) (authenticatedUser : Option Uuid)
    (subject : Except Raised (Option String)) (ids : RequestIds) :
    Step settings dir w (.finishRequest id authenticatedUser subject ids)
      (exec settings dir w (.finishRequest id authenticatedUser subject ids)) := by
  refine .of_call fun call hid found => ?_
  subst hid
  split
  · next request hold checkedAt phase work =>
    refine .of_finish found fun db hdb => ?_
    obtain ⟨booking, written⟩ := map_fst_ok hdb
    exact .requested request hold checkedAt booking phase work written
  · exact .waited

theorem finishReschedule_step (id : Uuid) :
    Step settings dir w (.finishReschedule id) (exec settings dir w (.finishReschedule id)) := by
  refine .of_call fun call hid found => ?_
  subst hid
  split
  · next userId booking hold checkedAt phase work =>
    refine .of_finish found fun db hdb => ?_
    cases hdb
    exact .rescheduled userId booking hold checkedAt phase work
  · exact .waited

theorem lapse_step (id : Uuid) :
    Step settings dir w (.lapse id) (exec settings dir w (.lapse id)) := by
  refine .of_call fun call hid found => ?_
  subst hid
  split
  · next holdId phase work =>
    refine .of_finish found fun db hdb => ?_
    cases hdb
    exact .lapsed holdId phase work
  · exact .waited

theorem release_step (holdId : Uuid) (bookingSession : String) :
    Step settings dir w (.release holdId bookingSession)
      (exec settings dir w (.release holdId bookingSession)) := by
  refine .of_transact fun db hdb => ?_
  obtain ⟨_, written⟩ := map_fst_ok hdb
  exact .released written

theorem expireStale_step :
    Step settings dir w .expireStale (exec settings dir w .expireStale) := by
  have hstep : Step settings dir w .expireStale
      (w.transact (.ok (expireStale w.db w.clock))) := by
    refine .of_transact fun db hdb => ?_
    cases hdb
    exact .expired
  exact hstep

theorem exec_step (settings : Settings) (dir : Directory) (w : World) (op : Op) :
    Step settings dir w op (exec settings dir w op) := by
  cases op with
  | tick elapsed => exact .ticked elapsed
  | createHold id request loads => exact createHold_step id request loads
  | assign id request loads => exact assign_step id request loads
  | request id request => exact request_step id request
  | reschedule id userId bookingId holdId bookingSession =>
    exact reschedule_step id userId bookingId holdId bookingSession
  | getHold id holdId bookingSession => exact getHold_step id holdId bookingSession
  | lockSlot id => exact lockSlot_step id
  | readJobs id => exact readJobs_step id
  | readHolds id => exact readHolds_step id
  | grantHold id now holdId => exact grantHold_step id now holdId
  | finishAssign id now jobId assignmentId =>
    exact finishAssign_step id now jobId assignmentId
  | finishRequest id authenticatedUser subject ids =>
    exact finishRequest_step id authenticatedUser subject ids
  | finishReschedule id => exact finishReschedule_step id
  | lapse id => exact lapse_step id
  | abort id => exact .of_call fun call _ found => .moved call .closed found .closed
  | release holdId bookingSession => exact release_step holdId bookingSession
  | expireStale => exact expireStale_step

/-! ## Locks -/

/-- No lock is had by two transactions. -/
def Exclusive (w : World) : Prop :=
  ∀ a ∈ w.calls.rows, ∀ b ∈ w.calls.rows, ∀ lock ∈ a.locks, lock ∈ b.locks → a = b

/-- A transaction moves on with the locks it has, one that is free, or none. -/
theorem Moves.locks {call : Call} {phase : Phase} (h : Moves dir w call phase) :
    ∀ lock ∈ ({ call with phase } : Call).locks, lock ∈ call.locks ∨
      ∀ other ∈ w.calls.rows, lock ∉ other.locks := by
  intro lock hlock
  cases h with
  | locked visit phase work free =>
    rcases List.mem_append.mp hlock with hlock | hlock
    · exact Or.inl (by simpa [Call.locks, phase] using hlock)
    · exact Or.inr fun other hother hmem => free other hother lock hmem hlock
  | jobsRead visit phase work => exact Or.inl (by simpa [Call.locks, phase] using hlock)
  | searched visit jobs candidate phase work checked =>
    exact Or.inl (by simpa [Call.locks, phase] using hlock)
  | closed => simp [Call.locks] at hlock

theorem Exclusive.insert {calls : Table Call} {call : Call} (h : Exclusive w)
    (free : w.free call.locks) (inserted : w.calls.insert? call = some calls) :
    Exclusive { w with calls } := by
  intro a ha b hb lock hla hlb
  rcases (Table.mem_insert inserted).mp ha with ha | rfl
  · rcases (Table.mem_insert inserted).mp hb with hb | rfl
    · exact h a ha b hb lock hla hlb
    · exact absurd hlb (free a ha lock hla)
  · rcases (Table.mem_insert inserted).mp hb with hb | rfl
    · exact absurd hla (free b hb lock hlb)
    · rfl

theorem Exclusive.setPhase {call : Call} {phase : Phase} (h : Exclusive w)
    (found : w.calls.get? call.id = some call)
    (locks : ∀ lock ∈ ({ call with phase } : Call).locks, lock ∈ call.locks ∨
      ∀ other ∈ w.calls.rows, lock ∉ other.locks) : Exclusive (w.setPhase call phase) := by
  have hmem := Table.mem_of_get? found
  -- another transaction has none of the locks of this one
  have hother : ∀ other ∈ w.calls.rows, other.id ≠ call.id →
      ∀ lock ∈ ({ call with phase } : Call).locks, lock ∉ other.locks := by
    intro other hin hne lock hlock hlock'
    rcases locks lock hlock with hcall | hfree
    · exact hne (congrArg Call.id (h other hin call hmem lock hlock' hcall))
    · exact hfree other hin hlock'
  intro a ha b hb lock hla hlb
  rcases Table.mem_put.mp ha with ⟨rfl, _⟩ | ⟨ha, hane⟩
  · rcases Table.mem_put.mp hb with ⟨rfl, _⟩ | ⟨hb, hbne⟩
    · rfl
    · exact absurd hlb (hother b hb hbne lock hla)
  · rcases Table.mem_put.mp hb with ⟨rfl, _⟩ | ⟨hb, hbne⟩
    · exact absurd hla (hother a ha hane lock hlb)
    · exact h a ha b hb lock hla hlb

theorem Step.exclusive (hstep : Step settings dir w op w') (h : Exclusive w) : Exclusive w' := by
  cases hstep with
  | waited => exact h
  | ticked elapsed => exact h
  | began id work calls opens free inserted =>
    have hfree : w.free ({ id, work } : Call).locks := free
    exact h.insert hfree inserted
  | moved call phase found moves => exact h.setPhase found moves.locks
  | committed call db converted found writes can =>
    have hmoves : Moves dir w call .closed := .closed
    exact h.setPhase found hmoves.locks
  | transacted db writes can => exact h

/-! ## Locked rows -/

/-- The hold whose row a transaction has locked, as the transaction read it. -/
def Call.heldRow (call : Call) : Option BookingCapacityHold :=
  match call.phase, call.work with
  | .opened, .convert _ hold _ => some hold
  | .opened, .reschedule _ _ hold _ => some hold
  | _, _ => none

theorem Call.lock_heldRow {call : Call} {hold : BookingCapacityHold}
    (h : call.heldRow = some hold) : Lock.holdRow hold.id ∈ call.locks := by
  unfold Call.heldRow at h
  split at h
  · next phase work =>
    cases h
    simp [Call.locks, phase, work, Work.locks]
  · next phase work =>
    cases h
    simp [Call.locks, phase, work, Work.locks]
  · cases h

/-- The holds that open transactions have locked are as they were read: held. -/
def RowsHeld (w : World) : Prop :=
  ∀ call ∈ w.calls.rows, ∀ hold ∈ call.heldRow,
    w.db.holds.get? hold.id = some hold ∧ hold.status = .held

theorem beginRequest_ok {db : Db} {request : BookingRequestCreate} {now : Instant}
    {hold : BookingCapacityHold} (h : beginRequest settings db request now = .ok (.inr hold)) :
    db.holds.get? hold.id = some hold ∧ hold.status = .held ∧ now < hold.expiresAt := by
  simp only [beginRequest, seq_committed, orRaise_committed, require_committed] at h
  obtain ⟨hold', hhold, _, _, _, _, h⟩ := h
  split at h
  · simp at h
  · simp only [seq_committed, require_committed, return_committed] at h
    obtain ⟨_, ⟨hstatus, hopen⟩, heq⟩ := h
    cases heq
    exact ⟨Table.get?_found hhold, hstatus, hopen⟩

/-- A row that another transaction has locked is not written. -/
theorem World.canWrite.kept {caller : Option Uuid} {db : Db} (h : w.canWrite caller db)
    {call : Call} {hold : BookingCapacityHold} (hcall : call ∈ w.calls.rows)
    (hne : some call.id ≠ caller) (hheld : call.heldRow = some hold)
    (hrow : w.db.holds.get? hold.id = some hold) : db.holds.get? hold.id = some hold := by
  rcases h hold (Table.mem_of_get? hrow) with hkept | hfree
  · exact hkept
  · rcases hfree call hcall with heq | hlock
    · exact absurd heq hne
    · exact absurd (Call.lock_heldRow hheld) hlock

theorem heldRow_of_moves {call : Call} {phase : Phase} (h : Moves dir w call phase) :
    ({ call with phase } : Call).heldRow = none := by
  cases h <;> rfl

theorem RowsHeld.setPhase {call : Call} {phase : Phase} (h : RowsHeld w)
    (hnone : ({ call with phase } : Call).heldRow = none) : RowsHeld (w.setPhase call phase) := by
  intro other hother hold hhold
  rcases Table.mem_put.mp hother with ⟨rfl, _⟩ | ⟨hother, _⟩
  · rw [hnone] at hhold
    cases hhold
  · exact h other hother hold hhold

theorem Step.rowsHeld (hstep : Step settings dir w op w') (h : RowsHeld w) : RowsHeld w' := by
  cases hstep with
  | waited => exact h
  | ticked elapsed => exact h
  | began id work calls opens free inserted =>
    intro call hcall hold hhold
    rcases (Table.mem_insert inserted).mp hcall with hcall | rfl
    · exact h call hcall hold hhold
    · cases opens with
      | hold prepared => cases hhold
      | assign begun => cases hhold
      | convert begun =>
        cases hhold
        obtain ⟨hrow, hstatus, _⟩ := beginRequest_ok begun
        exact ⟨hrow, hstatus⟩
      | reschedule begun =>
        cases hhold
        obtain ⟨_, _, hget, hstatus, _⟩ := beginReschedule_ok begun
        exact ⟨Table.get?_found hget, hstatus⟩
      | lapse read => cases hhold
  | moved call phase found moves => exact h.setPhase (heldRow_of_moves moves)
  | committed call db converted found writes can =>
    intro other hother hold hhold
    rcases Table.mem_put.mp hother with ⟨rfl, _⟩ | ⟨hother, hne⟩
    · cases hhold
    · obtain ⟨hrow, hstatus⟩ := h other hother hold hhold
      have hcaller : some other.id ≠ some call.id := fun e => hne (Option.some.inj e)
      exact ⟨can.kept hother hcaller hhold hrow, hstatus⟩
  | transacted db writes can =>
    intro call hcall hold hhold
    obtain ⟨hrow, hstatus⟩ := h call hcall hold hhold
    exact ⟨can.kept hcall (by simp) hhold hrow, hstatus⟩

end Breero.Reservations
