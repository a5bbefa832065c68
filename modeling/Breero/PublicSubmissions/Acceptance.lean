import Breero.Lib.Locks
import Breero.Lib.Runs
import Breero.PublicSubmissions.Service

/-!
Calls of `accept`, with others between their parts.

An insert that is not committed is not seen by the look-up of another call, but the insert of
the same key waits for it. The loser finds the key and gives the answer of a replay.

* `ExactlyOnce` says that a key has one submission, and a submission one event;
* `Answered` says what a call replies, and that a replay changes nothing;
* `Accepting.accepted_exactly_once`: both hold in every run.
-/

namespace Breero.PublicSubmissions
open KeyedTable Transaction Outbox Runs Locks

/-! ## The law -/

def isEventOf (submissionId : Uuid) (event : OutboxEvent) : Bool :=
  ofSubmission event && event.aggregateId = submissionId

structure ExactlyOnce (db : Tables) : Prop where
  one : ∀ a ∈ db.submissions.rows, ∀ b ∈ db.submissions.rows,
    a.submissionType = b.submissionType → a.idempotencyKey = b.idempotencyKey → a = b
  event : ∀ submission ∈ db.submissions.rows,
    db.events.rows.countP (isEventOf submission.id) = 1
  ofOne : ∀ event ∈ db.events.rows, ofSubmission event = true →
    ∃ submission ∈ db.submissions.rows, submission.id = event.aggregateId

/-- What a call asks for, as `accept` tells requests apart. -/
structure Request where
  submissionType : SubmissionType
  idempotencyKey : String
  requestHash : String
  deriving DecidableEq, Repr

def conflict : Raised :=
  .domainError "IDEMPOTENCY_CONFLICT" "Key already used for another request" 409

/-! ## The system -/

/-- A call that found the key free. -/
structure OpenAccept where
  submission : PublicSubmission
  inserted : Bool := false
  deriving DecidableEq, Repr

inductive Lock
  | key (submissionType : SubmissionType) (key : String)
  | row (id : Uuid)
  deriving DecidableEq, Repr

/-- What another insert would wait for: the entries of the unique indexes. -/
def entries (submission : PublicSubmission) : List Lock :=
  [.key submission.submissionType submission.idempotencyKey, .row submission.id]

def OpenAccept.locks (call : OpenAccept) : List Lock :=
  if call.inserted then entries call.submission else []

def OpenAccept.request (call : OpenAccept) : Request :=
  ⟨call.submission.submissionType, call.submission.idempotencyKey, call.submission.requestHash⟩

structure Accepting where
  db : Tables := {}
  calls : List OpenAccept := []

namespace Accepting

inductive Op
  /-- a call up to its insert; `id` is the submission's, `catalog` the services as it reads them -/
  | begin (submissionType : SubmissionType) (data : TrackingFields) (key sourceIp : String)
    (catalog : List CatalogService) (now : Instant) (id : Uuid)
  | insert (position : Nat)
  | commit (position : Nat) (eventId : Uuid)
  | abort (position : Nat)

abbrev Reply := Except Raised SubmissionAccepted

/-- The insert waits for no other one. -/
def ready (s : Accepting) (call : OpenAccept) : Prop :=
  call.inserted = false ∧ Free OpenAccept.locks s.calls (entries call.submission)

instance (s : Accepting) (call : OpenAccept) : Decidable (s.ready call) :=
  inferInstanceAs (Decidable (_ ∧ _))

/-- The insert, and after an `IntegrityError` the second look-up. -/
def insertOf (s : Accepting) (call : OpenAccept) (position : Nat) : Accepting × Option Reply :=
  let rest := s.calls.eraseIdx position
  match existing s.db.submissions call.submission.submissionType
      call.submission.idempotencyKey with
  | some row => ({ s with calls := rest },
      some (replayOrConflict row call.submission.requestHash))
  | none =>
    if (s.db.submissions.get? call.submission.id).isSome then
      ({ s with calls := rest }, some (.error (.integrityError "public_submissions_pkey")))
    else ({ s with calls := rest ++ [{ call with inserted := true }] }, none)

def commitOf (settings : Settings) (s : Accepting) (call : OpenAccept) (position : Nat)
    (eventId : Uuid) : Accepting × Option Reply :=
  let rest := s.calls.eraseIdx position
  match finish settings s.db call.submission eventId with
  | .ok (db, accepted) => ({ db, calls := rest }, some (.ok accepted))
  | .error raised => ({ s with calls := rest }, some (.error raised))

/-- The state after a step, and what the step replies to its caller. -/
def act (settings : Settings) (s : Accepting) : Op → Accepting × Option Reply
  | .begin submissionType data key sourceIp catalog now id =>
    match begin settings catalog s.db.submissions submissionType data key sourceIp now id with
    | .ok (.inl accepted) => (s, some (.ok accepted))
    | .ok (.inr submission) => ({ s with calls := s.calls ++ [{ submission }] }, none)
    | .error raised => (s, some (.error raised))
  | .insert position =>
    match s.calls[position]? with
    | none => (s, none)
    | some call => if s.ready call then insertOf s call position else (s, none)
  | .commit position eventId =>
    match s.calls[position]? with
    | none => (s, none)
    | some call =>
      if call.inserted then commitOf settings s call position eventId else (s, none)
  | .abort position => ({ s with calls := s.calls.eraseIdx position }, none)

def exec (settings : Settings) (s : Accepting) (op : Op) : Accepting := (act settings s op).1

def reply (settings : Settings) (s : Accepting) (op : Op) : Option Reply :=
  (act settings s op).2

/-- The request that a step works on, once it has passed the checks before the hash. -/
def request (settings : Settings) (s : Accepting) : Op → Option Request
  | .begin submissionType data key _ _ _ _ =>
    if gate data = .ok () then some ⟨submissionType, key, settings.hash data.form⟩ else none
  | .insert position => s.calls[position]?.bind fun call =>
    if s.ready call then some call.request else none
  | .commit position _ => s.calls[position]?.bind fun call =>
    if call.inserted then some call.request else none
  | .abort _ => none

/-- What a step does for a request. -/
structure Answered (settings : Settings) (s : Accepting) (op : Op) : Prop where
  /-- a key that has its submission is answered from it, and nothing is written -/
  replayed : ∀ q ∈ request settings s op, ∀ row ∈ existing s.db.submissions q.submissionType
      q.idempotencyKey,
    reply settings s op = some (if row.requestHash = q.requestHash then
      .ok ⟨row.id, row.downstreamStatus.value⟩ else .error conflict) ∧
    (exec settings s op).db = s.db
  /-- what is accepted is there -/
  accepted : ∀ q ∈ request settings s op, ∀ accepted, reply settings s op = some (.ok accepted) →
    ∃ row, existing (exec settings s op).db.submissions q.submissionType q.idempotencyKey =
      some row ∧ row.id = accepted.requestId ∧ row.requestHash = q.requestHash
  /-- a call that goes on has the request that it began with -/
  opened : ∀ call ∈ (exec settings s op).calls, call ∈ s.calls ∨
    ∃ q ∈ request settings s op, call.request = q
  /-- what is rejected changes no table -/
  rejected : ∀ raised, reply settings s op = some (.error raised) →
    (exec settings s op).db = s.db

end Accepting

/-! ## Parts of a call -/

variable {settings : Settings} {db db' : Tables} {submission : PublicSubmission}

theorem replayOrConflict_eq (row : PublicSubmission) (requestHash : String) :
    replayOrConflict row requestHash = if row.requestHash = requestHash then
      .ok ⟨row.id, row.downstreamStatus.value⟩ else .error conflict := by
  unfold replayOrConflict require
  split <;> rfl

theorem existing_some {t : Table PublicSubmission} {submissionType : SubmissionType}
    {key : String} {row : PublicSubmission} (h : existing t submissionType key = some row) :
    row ∈ t.rows ∧ row.submissionType = submissionType ∧ row.idempotencyKey = key := by
  refine ⟨List.mem_of_find?_eq_some h, ?_⟩
  simpa [isFor] using List.find?_some h

theorem existing_none {t : Table PublicSubmission} {submissionType : SubmissionType}
    {key : String} (h : existing t submissionType key = none) {row : PublicSubmission}
    (hmem : row ∈ t.rows) (htype : row.submissionType = submissionType) :
    row.idempotencyKey ≠ key := by
  have hnot := List.find?_eq_none.mp h row hmem
  simpa [isFor, htype] using hnot

theorem begin_of_existing {catalog : List CatalogService} {t : Table PublicSubmission}
    {submissionType : SubmissionType} {data : TrackingFields} {key sourceIp : String}
    {now : Instant} {id : Uuid} {row : PublicSubmission} (hgate : gate data = .ok ())
    (hrow : existing t submissionType key = some row) :
    begin settings catalog t submissionType data key sourceIp now id =
      if row.requestHash = settings.hash data.form then
        .ok (.inl ⟨row.id, row.downstreamStatus.value⟩) else .error conflict := by
  unfold begin
  rw [hgate, hrow]
  show (do let accepted ← replayOrConflict row (settings.hash data.form)
           return Sum.inl accepted) = _
  rw [replayOrConflict_eq]
  split <;> rfl

theorem begin_replayed {catalog : List CatalogService} {t : Table PublicSubmission}
    {submissionType : SubmissionType} {data : TrackingFields} {key sourceIp : String}
    {now : Instant} {id : Uuid} {accepted : SubmissionAccepted}
    (h : begin settings catalog t submissionType data key sourceIp now id =
      .ok (.inl accepted)) :
    ∃ row, existing t submissionType key = some row := by
  simp only [begin, seq_committed] at h
  obtain ⟨_, _, h⟩ := h
  cases hrow : existing t submissionType key with
  | some row => exact ⟨row, rfl⟩
  | none =>
    rw [hrow] at h
    simp only [seq_committed, return_committed, reduceCtorEq, and_false, exists_false] at h

/-- The row to insert has the request of its call. -/
theorem begin_row {catalog : List CatalogService} {t : Table PublicSubmission}
    {submissionType : SubmissionType} {data : TrackingFields} {key sourceIp : String}
    {now : Instant} {id : Uuid}
    (h : begin settings catalog t submissionType data key sourceIp now id =
      .ok (.inr submission)) :
    gate data = .ok () ∧ submission.submissionType = submissionType ∧
      submission.idempotencyKey = key ∧ submission.requestHash = settings.hash data.form := by
  simp only [begin, seq_committed] at h
  obtain ⟨_, hgate, h⟩ := h
  refine ⟨hgate, ?_⟩
  cases hrow : existing t submissionType key with
  | none =>
    rw [hrow] at h
    simp only [seq_committed, return_committed, Sum.inr.injEq] at h
    obtain ⟨recorded, _, payload, _, rfl⟩ := h
    exact ⟨rfl, rfl, rfl⟩
  | some row =>
    rw [hrow] at h
    simp only [seq_committed, return_committed, reduceCtorEq, and_false, exists_false] at h

/-- A commit adds the submission and its event. -/
theorem finish_rows {eventId : Uuid} {accepted : SubmissionAccepted}
    (h : finish settings db submission eventId = .ok (db', accepted)) :
    db.submissions.insert? submission = some db'.submissions ∧
      db.events.insert? (newEvent settings submission eventId) = some db'.events ∧
      accepted.requestId = submission.id := by
  simp only [finish, addEvent, seq_committed, orRaise_committed, require_committed,
    return_committed, Prod.mk.injEq] at h
  obtain ⟨submissions, hsubmissions, _, ⟨_, _, _, _, events, hevents, rfl⟩, rfl, rfl⟩ := h
  exact ⟨hsubmissions, hevents, rfl⟩

theorem newEvent_of (settings : Settings) (submission : PublicSubmission) (eventId : Uuid)
    (submissionId : Uuid) : isEventOf submissionId (newEvent settings submission eventId) =
      decide (submission.id = submissionId) :=
  rfl

/-! ## Commits -/

/-- A submission with a new key comes with its event. -/
theorem ExactlyOnce.insert (h : ExactlyOnce db) {event : OutboxEvent}
    (hfree : existing db.submissions submission.submissionType submission.idempotencyKey = none)
    (hsubmissions : db.submissions.insert? submission = some db'.submissions)
    (hevents : db.events.insert? event = some db'.events)
    (hof : ∀ id, isEventOf id event = decide (submission.id = id)) : ExactlyOnce db' := by
  have hnew : ∀ row ∈ db.submissions.rows, row.submissionType = submission.submissionType →
      row.idempotencyKey ≠ submission.idempotencyKey :=
    fun row hmem htype => existing_none hfree hmem htype
  -- no event is of a submission that was not there
  have hnone : db.events.rows.countP (isEventOf submission.id) = 0 := by
    rw [List.countP_eq_zero]
    intro other hmem hother
    simp only [isEventOf, Bool.and_eq_true, decide_eq_true_eq] at hother
    obtain ⟨row, hrow, hid⟩ := h.ofOne other hmem hother.1
    exact Table.key_fresh hsubmissions hrow (hid.trans hother.2)
  constructor
  · intro a ha b hb htype hkey
    rcases (Table.mem_insert hsubmissions).mp ha with ha | rfl
    · rcases (Table.mem_insert hsubmissions).mp hb with hb | rfl
      · exact h.one a ha b hb htype hkey
      · exact absurd hkey (hnew a ha htype)
    · rcases (Table.mem_insert hsubmissions).mp hb with hb | rfl
      · exact absurd hkey.symm (hnew b hb htype.symm)
      · rfl
  · intro row hrow
    rw [Table.countP_insert _ hevents, hof]
    rcases (Table.mem_insert hsubmissions).mp hrow with hrow | rfl
    · have hne : submission.id ≠ row.id := (Table.key_fresh hsubmissions hrow).symm
      simp [h.event row hrow, hne]
    · simp [hnone]
  · intro other hother hothers
    rcases (Table.mem_insert hevents).mp hother with hother | rfl
    · obtain ⟨row, hrow, hid⟩ := h.ofOne other hother hothers
      exact ⟨row, (Table.mem_insert hsubmissions).mpr (Or.inl hrow), hid⟩
    · have hits := hof other.aggregateId
      simp only [isEventOf, hothers, decide_true, Bool.and_self] at hits
      exact ⟨submission, (Table.mem_insert hsubmissions).mpr (Or.inr rfl),
        of_decide_eq_true hits.symm⟩

/-! ## Runs -/

namespace Accepting

variable {s : Accepting}

/-- A row that is inserted but not committed meets no committed one, and no other that
waits for its commit. -/
structure AcceptInv (s : Accepting) : Prop where
  once : ExactlyOnce s.db
  exclusive : Exclusive OpenAccept.locks s.calls
  free : ∀ call ∈ s.calls, call.inserted = true →
    existing s.db.submissions call.submission.submissionType call.submission.idempotencyKey =
      none

theorem AcceptInv.erase (h : AcceptInv s) (position : Nat) :
    AcceptInv { s with calls := s.calls.eraseIdx position } :=
  ⟨h.once, h.exclusive.eraseIdx position,
    fun call hcall => h.free call (List.mem_of_mem_eraseIdx hcall)⟩

theorem AcceptInv.insert (h : AcceptInv s) {call : OpenAccept} (hready : s.ready call)
    (position : Nat) : AcceptInv (insertOf s call position).1 := by
  unfold insertOf
  split
  · exact h.erase position
  · next hfree =>
    split
    · exact h.erase position
    · refine ⟨h.once, (h.exclusive.eraseIdx position).push ?_, ?_⟩
      · intro other hother
        exact hready.2 other (List.mem_of_mem_eraseIdx hother)
      · intro other hother hinserted
        rcases List.mem_append.mp hother with hother | hother
        · exact h.free other (List.mem_of_mem_eraseIdx hother) hinserted
        · rw [List.mem_singleton] at hother
          subst hother
          exact hfree

theorem AcceptInv.commit (h : AcceptInv s) {call : OpenAccept} {position : Nat}
    (hcall : s.calls[position]? = some call) (hinserted : call.inserted = true)
    (eventId : Uuid) : AcceptInv (commitOf settings s call position eventId).1 := by
  unfold commitOf
  split
  · next db accepted hfinish =>
    obtain ⟨hsubmissions, hevents, _⟩ := finish_rows hfinish
    have hfree := h.free call (List.mem_of_getElem? hcall) hinserted
    refine ⟨h.once.insert hfree hsubmissions hevents (newEvent_of _ _ _),
      h.exclusive.eraseIdx position, fun other hother hopen => ?_⟩
    -- the others that are inserted have other keys
    have hothers := h.exclusive.others hcall other hother
    have hnone := h.free other (List.mem_of_mem_eraseIdx hother) hopen
    refine List.find?_eq_none.mpr fun row hrow => ?_
    rcases (Table.mem_insert hsubmissions).mp hrow with hrow | rfl
    · exact List.find?_eq_none.mp hnone row hrow
    · intro hsame
      simp only [isFor, Bool.and_eq_true, decide_eq_true_eq] at hsame
      refine hothers (.key other.submission.submissionType other.submission.idempotencyKey) ?_ ?_
      · simp [OpenAccept.locks, hopen, entries]
      · simp [OpenAccept.locks, hinserted, entries, hsame]
  · exact h.erase position

theorem AcceptInv.exec (h : AcceptInv s) (op : Op) :
    AcceptInv (Accepting.exec settings s op) := by
  cases op with
  | begin submissionType data key sourceIp catalog now id =>
    simp only [Accepting.exec, act]
    split
    · exact h
    · refine ⟨h.once, h.exclusive.push ?_, fun call hcall hinserted => ?_⟩
      · intro other _ lock _ hlock
        cases hlock
      · rcases List.mem_append.mp hcall with hcall | hcall
        · exact h.free call hcall hinserted
        · rw [List.mem_singleton] at hcall
          subst hcall
          cases hinserted
    · exact h
  | insert position =>
    simp only [Accepting.exec, act]
    split
    · exact h
    · split
      · next hready => exact h.insert hready position
      · exact h
  | commit position eventId =>
    simp only [Accepting.exec, act]
    split
    · exact h
    · next call hcall =>
      split
      · next hinserted => exact h.commit hcall hinserted eventId
      · exact h
  | abort position => exact h.erase position

/-! ### What a step replies -/

theorem begin_answered (s : Accepting) (submissionType : SubmissionType) (data : TrackingFields)
    (key sourceIp : String) (catalog : List CatalogService) (now : Instant) (id : Uuid) :
    Answered settings s (.begin submissionType data key sourceIp catalog now id) := by
  have hdb : (exec settings s (.begin submissionType data key sourceIp catalog now id)).db =
      s.db := by
    simp only [exec, act]
    split <;> rfl
  have hof : ∀ q ∈ request settings s (.begin submissionType data key sourceIp catalog now id),
      gate data = .ok () ∧ q = ⟨submissionType, key, settings.hash data.form⟩ := by
    intro q hq
    simp only [request] at hq
    split at hq
    · next hgate =>
      cases hq
      exact ⟨hgate, rfl⟩
    · cases hq
  constructor
  · intro q hq row hrow
    obtain ⟨hgate, rfl⟩ := hof q hq
    refine ⟨?_, hdb⟩
    simp only [reply, act, begin_of_existing hgate hrow]
    split
    · next hresult =>
      split at hresult
      · cases hresult
        simp_all
      · cases hresult
    · next hresult =>
      split at hresult
      · cases hresult
      · cases hresult
    · next hresult =>
      split at hresult
      · cases hresult
      · cases hresult
        simp_all
  · intro q hq accepted hreply
    obtain ⟨hgate, rfl⟩ := hof q hq
    rw [hdb]
    simp only [reply, act] at hreply
    split at hreply
    · next hresult =>
      cases hreply
      obtain ⟨row, hrow⟩ := begin_replayed hresult
      rw [begin_of_existing hgate hrow] at hresult
      split at hresult
      · next hhash =>
        cases hresult
        exact ⟨row, hrow, rfl, hhash⟩
      · cases hresult
    · cases hreply
    · cases hreply
  · intro call hcall
    simp only [exec, act] at hcall
    split at hcall
    · exact Or.inl hcall
    · next submission hresult =>
      rcases List.mem_append.mp hcall with hcall | hcall
      · exact Or.inl hcall
      · rw [List.mem_singleton] at hcall
        subst hcall
        obtain ⟨hgate, htype, hkey, hhash⟩ := begin_row hresult
        refine Or.inr ⟨_, ?_, rfl⟩
        simp only [request, hgate, if_true, OpenAccept.request, htype, hkey, hhash]
        rfl
    · exact Or.inl hcall
  · intro raised _
    exact hdb

/-- A step that does nothing. -/
theorem Answered.idle {op : Op} (hact : act settings s op = (s, none))
    (hof : request settings s op = none) : Answered settings s op := by
  constructor
  · intro q hq
    simp [hof] at hq
  · intro q hq
    simp [hof] at hq
  · intro call hcall
    exact Or.inl (by simpa only [exec, hact] using hcall)
  · intro raised hreply
    simp only [reply, hact, reduceCtorEq] at hreply

theorem insert_answered (s : Accepting) (position : Nat) :
    Answered settings s (.insert position) := by
  cases hcall : s.calls[position]? with
  | none => exact .idle (by simp only [act, hcall]) (by simp [request, hcall])
  | some call =>
    by_cases hready : s.ready call
    · have hact : act settings s (.insert position) = insertOf s call position := by
        simp only [act, hcall, if_pos hready]
      have hof : request settings s (.insert position) = some call.request := by
        simp [request, hcall, hready]
      have hdb : (exec settings s (.insert position)).db = s.db := by
        simp only [exec, hact, insertOf]
        split
        · rfl
        · split <;> rfl
      constructor
      · intro q hq row hrow
        rw [hof] at hq
        cases hq
        have hrow : existing s.db.submissions call.submission.submissionType
            call.submission.idempotencyKey = some row := hrow
        refine ⟨?_, hdb⟩
        simp only [reply, hact, insertOf, hrow, replayOrConflict_eq]
        rfl
      · intro q hq accepted hreply
        rw [hof] at hq
        cases hq
        rw [hdb]
        simp only [reply, hact, insertOf] at hreply
        split at hreply
        · next row hrow =>
          rw [replayOrConflict_eq] at hreply
          split at hreply
          · next hhash =>
            cases hreply
            exact ⟨row, hrow, rfl, hhash⟩
          · cases hreply
        · split at hreply <;> cases hreply
      · intro other hother
        simp only [exec, hact, insertOf] at hother
        split at hother
        · exact Or.inl (List.mem_of_mem_eraseIdx hother)
        · split at hother
          · exact Or.inl (List.mem_of_mem_eraseIdx hother)
          · rcases List.mem_append.mp hother with hother | hother
            · exact Or.inl (List.mem_of_mem_eraseIdx hother)
            · rw [List.mem_singleton] at hother
              subst hother
              exact Or.inr ⟨call.request, hof, rfl⟩
      · intro raised _
        exact hdb
    · exact .idle (by simp only [act, hcall, if_neg hready]) (by simp [request, hcall, hready])

theorem AcceptInv.commit_answered (h : AcceptInv s) (position : Nat) (eventId : Uuid) :
    Answered settings s (.commit position eventId) := by
  cases hcall : s.calls[position]? with
  | none => exact .idle (by simp only [act, hcall]) (by simp [request, hcall])
  | some call =>
    cases hinserted : call.inserted with
    | false =>
      exact .idle (by simp [act, hcall, hinserted]) (by simp [request, hcall, hinserted])
    | true =>
      have hact : act settings s (.commit position eventId) =
          commitOf settings s call position eventId := by
        simp only [act, hcall, hinserted, if_true]
      have hexec : Accepting.exec settings s (.commit position eventId) =
          (commitOf settings s call position eventId).1 := by
        simp only [Accepting.exec, hact]
      have hof : request settings s (.commit position eventId) = some call.request := by
        simp [request, hcall, hinserted]
      have hfree := h.free call (List.mem_of_getElem? hcall) hinserted
      constructor
      · intro q hq row hrow
        rw [hof] at hq
        cases hq
        have hrow : existing s.db.submissions call.submission.submissionType
            call.submission.idempotencyKey = some row := hrow
        rw [hfree] at hrow
        cases hrow
      · intro q hq accepted hreply
        rw [hof] at hq
        cases hq
        rw [hexec]
        have hcommitted : AcceptInv (commitOf settings s call position eventId).1 :=
          h.commit hcall hinserted eventId
        simp only [reply, hact, commitOf] at hreply
        simp only [commitOf] at hcommitted ⊢
        cases hfinish : finish settings s.db call.submission eventId with
        | error raised =>
          rw [hfinish] at hreply
          cases hreply
        | ok result =>
          obtain ⟨db, given⟩ := result
          rw [hfinish] at hreply hcommitted
          cases hreply
          obtain ⟨hsubmissions, _, hid⟩ := finish_rows hfinish
          have hmem : call.submission ∈ db.submissions.rows :=
            (Table.mem_insert hsubmissions).mpr (Or.inr rfl)
          refine ⟨call.submission, ?_, hid.symm, rfl⟩
          -- the key has no other row
          show existing db.submissions call.submission.submissionType
            call.submission.idempotencyKey = some call.submission
          cases hrow : existing db.submissions call.submission.submissionType
              call.submission.idempotencyKey with
          | none => exact absurd rfl (existing_none hrow hmem rfl)
          | some row =>
            obtain ⟨hrowmem, htype, hkey⟩ := existing_some hrow
            rw [hcommitted.once.one row hrowmem call.submission hmem htype hkey]
      · intro other hother
        rw [hexec, commitOf] at hother
        split at hother <;> exact Or.inl (List.mem_of_mem_eraseIdx hother)
      · intro raised hreply
        simp only [reply, hact, commitOf] at hreply
        rw [hexec, commitOf]
        split at hreply
        · cases hreply
        · rfl

theorem abort_answered (s : Accepting) (position : Nat) :
    Answered settings s (.abort position) := by
  constructor
  · rintro q ⟨⟩
  · rintro q ⟨⟩
  · intro call hcall
    exact Or.inl (List.mem_of_mem_eraseIdx hcall)
  · intro raised _
    rfl

theorem AcceptInv.answered (h : AcceptInv s) (op : Op) : Answered settings s op := by
  cases op with
  | begin submissionType data key sourceIp catalog now id =>
    exact begin_answered s submissionType data key sourceIp catalog now id
  | insert position => exact insert_answered s position
  | commit position eventId => exact h.commit_answered position eventId
  | abort position => exact abort_answered s position

/-- A submission that is there stays as it is. -/
theorem exec_kept (s : Accepting) (op : Op) :
    Table.Kept (fun a b => b = a) s.db.submissions (exec settings s op).db.submissions := by
  have hsame : Table.Kept (fun a b => b = a) s.db.submissions s.db.submissions :=
    .of_eq rfl fun _ => rfl
  cases op with
  | begin submissionType data key sourceIp catalog now id =>
    simp only [exec, act]
    split <;> exact hsame
  | insert position =>
    simp only [exec, act]
    split
    · exact hsame
    · split
      · unfold insertOf
        split
        · exact hsame
        · split <;> exact hsame
      · exact hsame
  | commit position eventId =>
    simp only [exec, act]
    split
    · exact hsame
    · split
      · unfold commitOf
        split
        · next hfinish => exact .insert (finish_rows hfinish).1 fun _ => rfl
        · exact hsame
      · exact hsame
  | abort position => exact hsame

theorem accepted_exactly_once (settings : Settings) (s : Accepting) (ops : List Op)
    (hs : ExactlyOnce s.db) (hcalls : s.calls = []) :
    Always (exec settings) (fun t => ExactlyOnce t.db) s ops ∧
      Along (exec settings) (Answered settings) s ops ∧
      (states (exec settings) s ops).Pairwise fun t u =>
        Table.Kept (fun a b => b = a) t.db.submissions u.db.submissions := by
  have hinv : AcceptInv s := by
    refine ⟨hs, ?_, ?_⟩
    · rw [hcalls]
      exact List.Pairwise.nil
    · rw [hcalls]
      rintro call ⟨⟩
  have hstep : ∀ (t : Accepting) (op : Op), AcceptInv t → True → AcceptInv (exec settings t op) :=
    fun _ op h _ => h.exec op
  have hrun : Along (exec settings) (fun _ _ => True) s ops := along_of_forall fun _ _ => trivial
  refine ⟨(always_of_inv hstep hinv hrun).imp fun _ h => h.once,
    Along.imp hstep (fun _ op h _ => h.answered op) hinv hrun, ?_⟩
  exact pairwise_of_step (fun _ => .of_eq rfl fun _ => rfl)
    (fun _ _ _ h h' => h.trans h' fun _ _ _ hab hbc => hbc.trans hab) hstep
    (fun t op _ _ => exec_kept t op) hinv hrun

/-! ### Three calls for one key -/

def raceSettings : Settings := {
  hash := fun form => (form.get "email").text
  isoformat := fun now => toString now }

def raceForm (email : String) : TrackingFields := {
  transactionalContactAllowed := true
  form := [
    ("email", .str email),
    ("transactional_contact_allowed", .bool true),
    ("policy_version", .str "2026-08-13-request-only")] }

/-- Two calls with one form and one with another have all found the key free; the first to
insert is the first to commit. -/
def race : List Op := [
  .begin .contact (raceForm "a@b.c") "k" "ip" [] 10 1,
  .begin .contact (raceForm "a@b.c") "k" "ip" [] 11 2,
  .begin .contact (raceForm "d@e.f") "k" "ip" [] 12 3,
  .insert 1,
  .insert 0,
  .commit 2 20,
  .insert 0,
  .insert 0]

theorem race_accepted_exactly_once :
    ((run (exec raceSettings) {} race).db.submissions.rows.length = 1 ∧
      (run (exec raceSettings) {} race).db.events.rows.length = 1 ∧
      (run (exec raceSettings) {} race).calls = []) ∧
    Always (exec raceSettings) (fun t => ExactlyOnce t.db) {} race ∧
      Along (exec raceSettings) (Answered raceSettings) {} race ∧
      (states (exec raceSettings) {} race).Pairwise fun t u =>
        Table.Kept (fun a b => b = a) t.db.submissions u.db.submissions := by
  have hempty : ExactlyOnce {} := by
    constructor
    · rintro a ⟨⟩
    · rintro a ⟨⟩
    · rintro a ⟨⟩
  exact ⟨by decide, accepted_exactly_once raceSettings {} race hempty rfl⟩

end Accepting

end Breero.PublicSubmissions
