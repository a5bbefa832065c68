import Breero.BookingIntents.System

/-!
What a request for a booking intent can do, said once.

* `Patched` is what each field of a patch leaves as it is, and `update_ok` and `abandon_ok` what
  a committed change is;
* `World.Proper` is a committed write as it should be;
* `World.Step` has one constructor for each kind of step that is not broken.
-/

namespace Breero.BookingIntents
open KeyedTable Transaction Locks Bookings

variable {settings : Settings} {dir : Directory} {db db' : Db} {now : Instant}
  {intent patched : BookingIntent}

/-! ## Patches -/

def Patched (intent patched : BookingIntent) : Prop :=
  patched.id = intent.id ∧ patched.version = intent.version

theorem Patched.trans {a b c : BookingIntent} (h : Patched a b) (h' : Patched b c) : Patched a c :=
  ⟨h'.1.trans h.1, h'.2.trans h.2⟩

theorem setService_patched {value : Option (Option Uuid)}
    (h : setService dir intent value = .ok patched) : Patched intent patched := by
  match value with
  | none =>
    cases h
    exact ⟨rfl, rfl⟩
  | some none => cases h
  | some (some serviceId) =>
    simp only [setService, seq_committed, return_committed] at h
    obtain ⟨_, _, rfl⟩ := h
    split <;> exact ⟨rfl, rfl⟩

theorem withAddress_patched (intent : BookingIntent) (addressId : Option Uuid)
    (status : BookingIntentStatus) : Patched intent (withAddress intent addressId status) := by
  unfold withAddress
  split <;> exact ⟨rfl, rfl⟩

theorem setAddress_patched {owner : Uuid → Option Uuid} {value : Option (Option Uuid)}
    (h : setAddress dir owner intent value = .ok patched) : Patched intent patched := by
  match value with
  | none =>
    cases h
    exact ⟨rfl, rfl⟩
  | some none =>
    cases h
    exact withAddress_patched intent none .draft
  | some (some addressId) =>
    simp only [setAddress, seq_committed, return_committed] at h
    obtain ⟨address, _, rfl⟩ := h
    exact withAddress_patched intent (some addressId) _

theorem setTimezone_patched {value : Option (Option String)}
    (h : setTimezone dir intent value = .ok patched) : Patched intent patched := by
  match value with
  | none =>
    cases h
    exact ⟨rfl, rfl⟩
  | some none =>
    cases h
    exact ⟨rfl, rfl⟩
  | some (some timezoneId) =>
    simp only [setTimezone, seq_committed, return_committed] at h
    obtain ⟨_, _, rfl⟩ := h
    exact ⟨rfl, rfl⟩

theorem setDate_patched {value : Option (Option Int)}
    (h : setDate dir now intent value = .ok patched) : Patched intent patched := by
  match value with
  | none =>
    cases h
    exact ⟨rfl, rfl⟩
  | some none =>
    cases h
    exact ⟨rfl, rfl⟩
  | some (some requestedDate) =>
    simp only [setDate, seq_committed, return_committed] at h
    obtain ⟨_, _, _, _, rfl⟩ := h
    exact ⟨rfl, rfl⟩

theorem setSlot_patched {value : Option (Option SlotSelection)}
    (h : setSlot dir db now intent value = .ok patched) : Patched intent patched := by
  match value with
  | none =>
    cases h
    exact ⟨rfl, rfl⟩
  | some none =>
    cases h
    exact ⟨rfl, rfl⟩
  | some (some selectedSlot) =>
    simp only [setSlot, selectSlot, seq_committed, return_committed] at h
    obtain ⟨_, _, _, _, _, _, _, _, _, _, _, _, _, _, _, _, rfl⟩ := h
    exact ⟨rfl, rfl⟩

/-- A committed patch is of the version that it carries, and is one version further. -/
theorem update_ok {owner : Uuid → Option Uuid} {command : BookingIntentUpdate}
    {expectedVersion : Nat}
    (h : update dir owner db now intent command expectedVersion = .ok patched) :
    patched.id = intent.id ∧ patched.version = intent.version + 1 ∧
      intent.status ∈ EDITABLE_STATUSES ∧ intent.version = expectedVersion := by
  simp only [update, requireVersion, seq_committed, require_committed, return_committed] at h
  obtain ⟨_, _, _, hversion, _, hstatus, a, ha, b, hb, c, hc, d, hd, e, he, rfl⟩ := h
  have hpatched : Patched intent d :=
    (setService_patched ha).trans <| (setAddress_patched hb).trans <|
      (setTimezone_patched hc).trans (setDate_patched hd)
  have hcleared : Patched d
      (if command.clearSelectedSlot = some true then clearSlot dir d else d) := by
    split <;> exact ⟨rfl, rfl⟩
  obtain ⟨hid, hsame⟩ := (hpatched.trans hcleared).trans (setSlot_patched he)
  exact ⟨hid, congrArg (· + 1) hsame, hstatus, hversion⟩

theorem abandon_ok {expectedVersion : Nat}
    (h : abandon intent expectedVersion = .ok (some patched)) :
    patched = expire intent ∧ intent.status ≠ .submitted ∧ intent.version = expectedVersion := by
  simp only [abandon, requireVersion, seq_committed, require_committed, return_committed] at h
  obtain ⟨_, hversion, _, hstatus, h⟩ := h
  split at h
  · cases h
  · injection h with h
    exact ⟨h.symm, hstatus, hversion⟩

theorem beginSubmit_ok {customer : CustomerInput} {answers : List BookingAnswerInput}
    {expectedVersion : Nat} {payload : BookingCreateRequest}
    (h : beginSubmit dir intent customer answers expectedVersion = .ok payload) :
    intent.version = expectedVersion ∧ intent.status = .availabilityFound := by
  simp only [beginSubmit, requireVersion, seq_committed, require_committed] at h
  obtain ⟨_, _, _, hversion, _, hstatus, _⟩ := h
  exact ⟨hversion, hstatus⟩

theorem finishCreate_logs {attempt : CreateAttempt} {ids : CreateIds} {booking : Booking}
    (h : finishCreate db attempt now ids = .ok (db', booking)) : db'.auditLogs = db.auditLogs := by
  simp only [finishCreate, Db.addBooking, seq_committed, require_committed, orRaise_committed,
    return_committed, Prod.exists, Prod.mk.injEq] at h
  obtain ⟨db1, customer, hcustomer, db2, ⟨_, _, _, _, bookings, hinsert, rfl⟩, rfl, rfl⟩ := h
  obtain ⟨customers, rfl⟩ := customerForEmail_ok hcustomer
  rfl

/-! ## Open submits -/

/-- The `submit` of an open call. -/
def OpenSubmit.submission? : OpenSubmit → Option Submission
  | .creating submission _ => submission
  | .created submission _ | .found submission _ _ => some submission

theorem OpenSubmit.submission_of_mark {call : OpenSubmit} {submission : Submission}
    {bookingId : Uuid} (h : call.mark? = some (submission, bookingId)) :
    call.submission? = some submission := by
  cases call with
  | creating submission attempt => cases h
  | created submission bookingId =>
    cases h
    rfl
  | found submission key bookingId =>
    cases h
    rfl

/-- The request was for the row that was read, and the row is as it was then or of a later
version. -/
structure Current (t : Table BookingIntent) (submission : Submission) : Prop where
  version : submission.read.version = submission.expectedVersion
  ready : submission.read.status = .availabilityFound
  stored : ∃ stored, t.get? submission.read.id = some stored ∧
    (stored = submission.read ∨ submission.read.version < stored.version)

namespace World

variable {w w' : World} {op : Op}

/-- A `submit` that has the lock of its intent knows whether a booking is made of it. -/
def Knows (w : World) (submission : Submission) : Prop :=
  submission.afterBooking = true ↔ ∃ made ∈ w.made, made.1 = submission.read.id

structure Coherent (w : World) : Prop where
  reads : ∀ call ∈ w.submits, ∀ submission, call.submission? = some submission →
    Current w.intents submission
  exclusive : Exclusive OpenSubmit.locks w.submits
  knows : ∀ submission attempt, .creating (some submission) attempt ∈ w.submits →
    w.Knows submission
  one : ∀ intentId, w.made.countP (·.1 = intentId) ≤ 1

/-! ## Steps -/

/-- A committed write of an intent as it should be. -/
structure Proper (w : World) (op : Op) (stored intent : BookingIntent) : Prop where
  there : w.intents.get? stored.id = some stored
  id : intent.id = stored.id
  version : stored.version < intent.version
  status : stored.status ≠ .submitted
  carried : ∀ version, carried w op = some (stored.id, version) → version = stored.version

inductive Step (w : World) (op : Op) : World → Prop
  | unchanged : Step w op w
  | left {submits : List OpenSubmit} (hsub : submits.Sublist w.submits) :
      Step w op { w with submits }
  | inserted {intent : BookingIntent} {intents : Table BookingIntent} {action : String}
      {metadata : Payload} {now : Instant} (hinsert : w.intents.insert? intent = some intents) :
      Step w op { w with db := audited w.db intent action metadata now, intents }
  | written {stored intent : BookingIntent} {submits : List OpenSubmit} (action : String)
      (metadata : Payload) (now : Instant) (hsub : submits.Sublist w.submits)
      (hproper : Proper w op stored intent) :
      Step w op (write { w with submits } intent action metadata now)
  | opened {call : OpenSubmit} (hfree : Free OpenSubmit.locks w.submits call.locks)
      (hread : ∀ submission, call.submission? = some submission →
        Current w.intents submission ∧ w.Knows submission) :
      Step w op { w with submits := w.submits ++ [call] }
  | booked {submission : Option Submission} {attempt : CreateAttempt} {rest : List OpenSubmit}
      {db : Db} (bookingId : Uuid) (hmem : .creating submission attempt ∈ w.submits)
      (hsub : rest.Sublist w.submits)
      (hothers : ∀ other ∈ rest, ∀ lock ∈ other.locks,
        lock ∉ (OpenSubmit.creating submission attempt).locks)
      (hlogs : db.auditLogs = w.db.auditLogs)
      (hfirst : ∀ mine, submission = some mine → ∀ made ∈ w.made, made.1 ≠ mine.read.id) :
      Step w op { w with
        db
        submits := rest ++ submission.toList.map fun submission => .created submission bookingId
        made := w.made ++ submission.toList.map fun submission =>
          (submission.read.id, bookingId) }

theorem locked_some {intentId anonymousSessionId : Uuid} {intent : BookingIntent}
    (h : w.locked intentId anonymousSessionId = some intent) :
    intent.id = intentId ∧ w.intents.get? intent.id = some intent := by
  unfold locked at h
  split at h
  · cases howned : owned w.intents intentId anonymousSessionId with
    | error _ =>
      rw [howned] at h
      cases h
    | ok found =>
      rw [howned] at h
      cases h
      have hget := (Option.filter_eq_some_iff.mp (orRaise_committed.mp howned)).1
      exact ⟨Table.key_of_get? hget, Table.get?_found hget⟩
  · cases h

/-- An intent that is past its time, for a request that carries its version or none. -/
theorem writeExpired_step (hget : w.intents.get? intent.id = some intent) (hdue : due intent now)
    (hcarried : ∀ version, carried w op = some (intent.id, version) → version = intent.version) :
    Step w op (w.writeExpired intent now) := by
  refine .written _ _ _ (List.Sublist.refl _) ⟨hget, rfl, Nat.lt_succ_self _, ?_, hcarried⟩
  intro hsubmitted
  exact hdue.1 (by simp [hsubmitted])

theorem beginOf_step {submission : Option Submission} {payload : BookingCreateRequest}
    {key : String} {began : Instant}
    (hread : ∀ mine, submission = some mine → Current w.intents mine ∧ w.Knows mine) :
    Step w op (beginOf settings dir w submission payload key began now) := by
  unfold beginOf
  split
  · dsimp only
    split
    · next hfree => exact .opened hfree hread
    · exact .unchanged
  · split
    · exact .unchanged
    · dsimp only
      split
      · next hfree =>
        refine .opened hfree fun mine h => ?_
        cases h
        exact hread _ rfl
      · exact .unchanged
  · exact .unchanged

theorem updateOf_step {owner : Uuid → Option Uuid} {command : BookingIntentUpdate}
    {expectedVersion : Nat} (hget : w.intents.get? intent.id = some intent)
    (hcarried : carried w op = some (intent.id, expectedVersion))
    (hfresh : due intent now → intent.version = expectedVersion) :
    Step w op (updateOf dir w intent command expectedVersion owner now) := by
  have hof : intent.version = expectedVersion →
      ∀ version, carried w op = some (intent.id, version) → version = intent.version := by
    intro hsame version h
    rw [hcarried] at h
    cases h
    exact hsame.symm
  unfold updateOf
  split
  · next hdue => exact writeExpired_step hget hdue (hof (hfresh hdue))
  · split
    · next patched hok =>
      obtain ⟨hid, hversion, hstatus, hsame⟩ := update_ok hok
      refine .written _ _ _ (List.Sublist.refl _) ⟨hget, hid, ?_, ?_, hof hsame⟩
      · rw [hversion]
        exact Nat.lt_succ_self _
      · intro hsubmitted
        rw [hsubmitted] at hstatus
        exact absurd hstatus (by decide)
    · exact .unchanged

theorem abandonOf_step {expectedVersion : Nat} (hget : w.intents.get? intent.id = some intent)
    (hcarried : carried w op = some (intent.id, expectedVersion)) :
    Step w op (w.abandonOf intent expectedVersion now) := by
  unfold abandonOf
  split
  · next patched hok =>
    obtain ⟨rfl, hstatus, hsame⟩ := abandon_ok hok
    refine .written _ _ _ (List.Sublist.refl _) ⟨hget, rfl, Nat.lt_succ_self _, hstatus, ?_⟩
    intro version h
    rw [hcarried] at h
    cases h
    exact hsame.symm
  · exact .unchanged

theorem submitOf_step {customer : CustomerInput} {answers : List BookingAnswerInput}
    {expectedVersion : Nat} {key : String} {began : Instant}
    (hget : w.intents.get? intent.id = some intent)
    (hcarried : carried w op = some (intent.id, expectedVersion))
    (hfresh : due intent began → intent.version = expectedVersion) :
    Step w op (submitOf settings dir w intent customer answers expectedVersion key began now) := by
  unfold submitOf
  split
  · next hdue =>
    refine writeExpired_step hget hdue fun version h => ?_
    rw [hcarried] at h
    cases h
    exact (hfresh hdue).symm
  · split
    · next payload hok =>
      obtain ⟨hversion, hstatus⟩ := beginSubmit_ok hok
      refine beginOf_step fun mine h => ?_
      cases h
      refine ⟨⟨hversion, hstatus, intent, hget, Or.inl rfl⟩, ?_⟩
      simp [Knows]
    · exact .unchanged

theorem commitOf_step (h : Coherent w) {position : Nat} {submission : Option Submission}
    {attempt : CreateAttempt} {ids : CreateIds}
    (hat : w.submits[position]? = some (.creating submission attempt))
    (hnot : ¬ w.InGap position now ids) :
    Step w op (w.commitOf (w.submits.eraseIdx position) submission attempt now ids) := by
  have hsub : (w.submits.eraseIdx position).Sublist w.submits := List.eraseIdx_sublist _ _
  have hmem := List.mem_of_getElem? hat
  unfold commitOf
  split
  · next db booking hok =>
    refine .booked booking.id hmem hsub (h.exclusive.others hat) (finishCreate_logs hok) ?_
    rintro mine rfl made hmade heq
    have hafter := (h.knows mine attempt hmem).mpr ⟨made, hmade, heq⟩
    exact hnot ⟨_, hat, mine, attempt, rfl, hafter, isOk_of_eq hok⟩
  · exact .left hsub

theorem markOf_step (h : Coherent w) {position : Nat} {submission : Submission} {bookingId : Uuid}
    (hat : w.submits[position]?.bind OpenSubmit.mark? = some (submission, bookingId))
    (hcarried : carried w op = some (submission.read.id, submission.expectedVersion))
    (hnot : ¬ w.Overwrites position) :
    Step w op (w.markOf (w.submits.eraseIdx position) submission.read bookingId now) := by
  have hsub : (w.submits.eraseIdx position).Sublist w.submits := List.eraseIdx_sublist _ _
  unfold markOf
  split
  · exact .left hsub
  · next stored hget =>
    split
    · next hfree =>
      have hsame : stored.version = submission.read.version := by
        by_contra hother
        exact hnot ⟨_, hat, hfree, stored, hget, hother⟩
      obtain ⟨call, hcall, hmark⟩ := Option.bind_eq_some_iff.mp hat
      have hcurrent := h.reads call (List.mem_of_getElem? hcall) submission
        (OpenSubmit.submission_of_mark hmark)
      obtain ⟨row, hrow, hread⟩ := hcurrent.stored
      rw [hget] at hrow
      cases hrow
      have hread : stored = submission.read := by
        rcases hread with hread | hlater
        · exact hread
        · omega
      subst hread
      refine .written _ _ _ hsub ⟨hget, rfl, Nat.lt_succ_self _, ?_, ?_⟩
      · rw [hcurrent.ready]
        decide
      · intro version hversion
        rw [hcarried] at hversion
        cases hversion
        exact hcurrent.version.symm
    · exact .unchanged

theorem exec_step (settings : Settings) (dir : Directory) (h : Coherent w) (hnot : ¬ Broken w op) :
    Step w op (exec settings dir w op) := by
  unfold exec
  split
  · split
    · exact .unchanged
    · split
      · exact .unchanged
      · next hinsert => exact .inserted hinsert
  · split
    · next hlocked =>
      split
      · next hdue => exact writeExpired_step (locked_some hlocked).2 hdue fun _ h => by cases h
      · exact .unchanged
    · exact .unchanged
  · split
    · next hlocked =>
      obtain ⟨rfl, hget⟩ := locked_some hlocked
      refine updateOf_step hget rfl fun hdue => ?_
      by_contra hstale
      exact hnot ⟨_, hlocked, hdue, hstale⟩
    · exact .unchanged
  · split
    · next hlocked =>
      obtain ⟨rfl, hget⟩ := locked_some hlocked
      exact abandonOf_step hget rfl
    · exact .unchanged
  · split
    · next hlocked =>
      obtain ⟨rfl, hget⟩ := locked_some hlocked
      refine submitOf_step hget rfl fun hdue => ?_
      by_contra hstale
      exact hnot ⟨_, hlocked, hdue, hstale⟩
    · exact .unchanged
  · exact beginOf_step fun _ h => by cases h
  · split
    · next hat => exact commitOf_step h hat hnot
    · exact .unchanged
  · split
    · next hat => exact markOf_step h hat (by simp [carried, hat]) hnot
    · exact .unchanged
  · exact .left (List.eraseIdx_sublist _ _)

end World

end Breero.BookingIntents
