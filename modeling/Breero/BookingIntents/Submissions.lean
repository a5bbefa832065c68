import Breero.BookingIntents.Effects

/-!
What becomes of a booking intent in a run.

* `World.Step.lawful`: a step that is not broken keeps the law, and `World.broken_unlawful`
  that a broken one does not;
* `World.lawful_iff`: the law holds along exactly the runs without a broken step.
-/

namespace Breero.BookingIntents
open KeyedTable Transaction Locks Bookings Runs

namespace World

variable {settings : Settings} {dir : Directory} {w w' : World} {op : Op}

/-! ## Writes -/

theorem writes_audited (w : World) (intent : BookingIntent) (action : String) (metadata : Payload)
    (now : Instant) (intentId : Uuid) :
    (audited w.db intent action metadata now).auditLogs.countP
        (fun log => log.resourceType = "booking_intent" && log.resourceId = intentId) =
      w.writes intentId + if intent.id = intentId then 1 else 0 := by
  simp [writes, audited, Db.audit]

/-- A write has its record. -/
theorem mutated_write (w : World) (submits : List OpenSubmit) (intent : BookingIntent)
    (action : String) (metadata : Payload) (now : Instant) :
    Mutated w (write { w with submits } intent action metadata now) intent.id := by
  refine Or.inr ?_
  have hwrites := writes_audited w intent action metadata now intent.id
  rw [if_pos rfl] at hwrites
  intro hsame
  exact absurd (hwrites.symm.trans hsame) (Nat.succ_ne_self _)

theorem not_mutated {intentId : Uuid}
    (hintents : w'.intents.get? intentId = w.intents.get? intentId)
    (hwrites : w'.writes intentId = w.writes intentId) : ¬ Mutated w w' intentId := by
  rintro (hne | hne)
  · exact hne hintents
  · exact hne hwrites

theorem IntentLawful.of_same {stored : BookingIntent} (h : ¬ Mutated w w' stored.id) :
    IntentLawful w op w' stored stored where
  version hmutated := absurd hmutated h
  submitted _ := h
  stale _ _ _ := h

/-! ## Steps that keep the law -/

theorem lawful_of_same (hone : ∀ intentId, w'.made.countP (·.1 = intentId) ≤ 1)
    (hintents : w'.intents = w.intents) (hlogs : w'.db.auditLogs = w.db.auditLogs) :
    Lawful w op w' where
  one := hone
  intents stored hmem := by
    refine ⟨stored, hintents ▸ Table.get?_key hmem, IntentLawful.of_same ?_⟩
    apply not_mutated
    · rw [hintents]
    · unfold writes
      rw [hlogs]

theorem lawful_inserted (h : Coherent w) {intent : BookingIntent} {intents : Table BookingIntent}
    {action : String} {metadata : Payload} {now : Instant}
    (hinsert : w.intents.insert? intent = some intents) :
    Lawful w op { w with db := audited w.db intent action metadata now, intents } where
  one := h.one
  intents stored hmem := by
    have hget := Table.get?_insert_of_some hinsert (Table.get?_key hmem)
    have hnew : intent.id ≠ stored.id := (Table.key_fresh hinsert hmem).symm
    refine ⟨stored, hget, IntentLawful.of_same ?_⟩
    apply not_mutated
    · exact hget.trans (Table.get?_key hmem).symm
    · refine (writes_audited w intent action metadata now stored.id).trans ?_
      rw [if_neg hnew, Nat.add_zero]

theorem lawful_written (h : Coherent w) {stored intent : BookingIntent}
    {submits : List OpenSubmit} (action : String) (metadata : Payload) (now : Instant)
    (hproper : Proper w op stored intent) :
    Lawful w op (write { w with submits } intent action metadata now) where
  one := h.one
  intents other hmem := by
    by_cases hsame : intent.id = other.id
    · have hother : other = stored :=
        Table.eq_of_key hmem (Table.mem_of_get? hproper.there) (hsame.symm.trans hproper.id)
      subst hother
      refine ⟨intent, Table.get?_put_self hproper.there hproper.id, ?_⟩
      exact {
        version := fun _ => hproper.version
        submitted := fun hsubmitted => absurd hsubmitted hproper.status
        stale := fun version hcarried hstale =>
          absurd (hproper.carried version hcarried) hstale }
    · have hget : (w.intents.put intent).get? other.id = w.intents.get? other.id :=
        Table.get?_put_ne hsame
      refine ⟨other, hget.trans (Table.get?_key hmem), IntentLawful.of_same ?_⟩
      apply not_mutated
      · exact hget
      · refine (writes_audited w intent action metadata now other.id).trans ?_
        rw [if_neg hsame, Nat.add_zero]

/-- The first booking of an intent. -/
theorem made_one (h : Coherent w) (submission : Option Submission) (bookingId : Uuid)
    (hfirst : ∀ mine, submission = some mine → ∀ made ∈ w.made, made.1 ≠ mine.read.id)
    (intentId : Uuid) :
    (w.made ++ submission.toList.map fun submission =>
      (submission.read.id, bookingId)).countP (·.1 = intentId) ≤ 1 := by
  cases submission with
  | none => simpa using h.one intentId
  | some mine =>
    rw [List.countP_append]
    by_cases hsame : mine.read.id = intentId
    · have hzero : w.made.countP (·.1 = intentId) = 0 := by
        refine List.countP_eq_zero.mpr fun made hmade => ?_
        simpa [← hsame] using hfirst mine rfl made hmade
      simp [hzero, hsame]
    · simpa [hsame] using h.one intentId

theorem Step.lawful (h : Coherent w) (hstep : Step w op w') : Lawful w op w' := by
  cases hstep with
  | unchanged => exact lawful_of_same h.one rfl rfl
  | left hsub => exact lawful_of_same h.one rfl rfl
  | opened hfree hread => exact lawful_of_same h.one rfl rfl
  | inserted hinsert => exact lawful_inserted h hinsert
  | written action metadata now hsub hproper => exact lawful_written h action metadata now hproper
  | booked bookingId hmem hsub hothers hlogs hfirst =>
    exact lawful_of_same (made_one h _ bookingId hfirst) rfl hlogs

/-! ## Open submits -/

/-- A row that changes is of a later version. -/
theorem Current.lawful {submission : Submission} (h : Current w.intents submission)
    (hlawful : Lawful w op w') : Current w'.intents submission where
  version := h.version
  ready := h.ready
  stored := by
    obtain ⟨stored, hget, hread⟩ := h.stored
    have hkey : stored.id = submission.read.id := Table.key_of_get? hget
    obtain ⟨later, hlater, hrow⟩ := hlawful.intents stored (Table.mem_of_get? hget)
    rw [hkey] at hlater
    refine ⟨later, hlater, ?_⟩
    by_cases hmutated : Mutated w w' stored.id
    · have hversion := hrow.version hmutated
      rcases hread with rfl | hread
      · exact Or.inr hversion
      · exact Or.inr (hread.trans hversion)
    · have hsame : w'.intents.get? stored.id = w.intents.get? stored.id := by
        by_contra hne
        exact hmutated (Or.inl hne)
      rw [hkey, hlater, hget] at hsame
      injection hsame with hsame
      exact hsame ▸ hread

theorem Step.reads (h : Coherent w) (hstep : Step w op w') :
    ∀ call ∈ w'.submits, ∀ submission, call.submission? = some submission →
      Current w'.intents submission := by
  have hlawful := hstep.lawful h
  have hold : ∀ call ∈ w.submits, ∀ submission, call.submission? = some submission →
      Current w'.intents submission :=
    fun call hcall submission hread => Current.lawful (h.reads call hcall submission hread) hlawful
  cases hstep with
  | unchanged => exact hold
  | left hsub => exact fun call hcall => hold call (hsub.subset hcall)
  | inserted hinsert => exact hold
  | written action metadata now hsub hproper =>
    exact fun call hcall => hold call (hsub.subset hcall)
  | opened hfree hread =>
    intro call hcall submission hof
    rcases List.mem_append.mp hcall with hcall | hcall
    · exact hold call hcall submission hof
    · rw [List.mem_singleton] at hcall
      exact (hread submission (hcall ▸ hof)).1
  | booked bookingId hmem hsub hothers hlogs hfirst =>
    intro call hcall submission hof
    rcases List.mem_append.mp hcall with hcall | hcall
    · exact hold call (hsub.subset hcall) submission hof
    · -- the call goes on with the row that it had read
      obtain ⟨mine, hmine, rfl⟩ := List.mem_map.mp hcall
      cases hof
      exact hold _ hmem submission (Option.mem_toList.mp hmine)

theorem Step.exclusive (h : Coherent w) (hstep : Step w op w') :
    Exclusive OpenSubmit.locks w'.submits := by
  cases hstep with
  | unchanged => exact h.exclusive
  | left hsub => exact h.exclusive.sublist hsub
  | inserted hinsert => exact h.exclusive
  | written action metadata now hsub hproper => exact h.exclusive.sublist hsub
  | opened hfree hread => exact h.exclusive.push hfree
  | @booked submission attempt rest db bookingId hmem hsub hothers hlogs hfirst =>
    have hrest : Exclusive OpenSubmit.locks rest := h.exclusive.sublist hsub
    cases submission with
    | none => simpa using hrest
    | some mine => exact hrest.push fun _ _ _ _ => List.not_mem_nil

/-- No other `submit` commits a booking of an intent while its lock is had. -/
theorem Step.knows (h : Coherent w) (hstep : Step w op w') :
    ∀ submission attempt, .creating (some submission) attempt ∈ w'.submits →
      w'.Knows submission := by
  cases hstep with
  | unchanged => exact h.knows
  | left hsub =>
    exact fun submission attempt hcall => h.knows submission attempt (hsub.subset hcall)
  | inserted hinsert => exact h.knows
  | written action metadata now hsub hproper =>
    exact fun submission attempt hcall => h.knows submission attempt (hsub.subset hcall)
  | opened hfree hread =>
    intro submission attempt hcall
    rcases List.mem_append.mp hcall with hcall | hcall
    · exact h.knows submission attempt hcall
    · rw [List.mem_singleton] at hcall
      exact (hread submission (by rw [← hcall]; rfl)).2
  | @booked booked attempt rest db bookingId hmem hsub hothers hlogs hfirst =>
    intro submission attempt' hcall
    rcases List.mem_append.mp hcall with hin | hin
    · refine (h.knows submission attempt' (hsub.subset hin)).trans ?_
      have hother : ∀ mine, booked = some mine → mine.read.id ≠ submission.read.id := by
        rintro mine rfl hsame
        exact hothers _ hin (.intent submission.read.id) (by simp [OpenSubmit.locks])
          (by simp [OpenSubmit.locks, hsame])
      constructor
      · rintro ⟨made, hmade, hof⟩
        exact ⟨made, List.mem_append_left _ hmade, hof⟩
      · rintro ⟨made, hmade, hof⟩
        rcases List.mem_append.mp hmade with hmade | hmade
        · exact ⟨made, hmade, hof⟩
        · obtain ⟨mine, hmine, rfl⟩ := List.mem_map.mp hmade
          exact absurd hof (hother mine (Option.mem_toList.mp hmine))
    · obtain ⟨mine, _, heq⟩ := List.mem_map.mp hin
      cases heq

theorem Step.coherent (h : Coherent w) (hstep : Step w op w') : Coherent w' :=
  ⟨hstep.reads h, hstep.exclusive h, hstep.knows h, (hstep.lawful h).one⟩

/-! ## Steps that break it -/

theorem made_twice {intentId bookingId : Uuid} {made : Uuid × Uuid} (hmade : made ∈ w.made)
    (hsame : made.1 = intentId) :
    ¬ (w.made ++ [(intentId, bookingId)]).countP (·.1 = intentId) ≤ 1 := by
  have hpos : 0 < w.made.countP (·.1 = intentId) :=
    List.countP_pos_iff.mpr ⟨made, hmade, decide_eq_true hsame⟩
  have hlast : [(intentId, bookingId)].countP (·.1 = intentId) = 1 := by simp
  rw [List.countP_append, hlast]
  omega

/-- A write of a request that does not carry the version of the row. -/
theorem stale_unlawful {stored intent : BookingIntent} {submits : List OpenSubmit} {action : String}
    {metadata : Payload} {now : Instant} (version : Nat)
    (hget : w.intents.get? stored.id = some stored) (hid : intent.id = stored.id)
    (hcarried : carried w op = some (stored.id, version)) (hstale : version ≠ stored.version) :
    ¬ Lawful w op (write { w with submits } intent action metadata now) := by
  intro hlawful
  obtain ⟨later, _, hrow⟩ := hlawful.intents stored (Table.mem_of_get? hget)
  have hmutated := mutated_write w submits intent action metadata now
  rw [hid] at hmutated
  exact hrow.stale version hcarried hstale hmutated

theorem broken_unlawful (hw : Coherent w) (h : Broken w op) :
    ¬ Lawful w op (exec settings dir w op) := by
  cases op with
  | commit position now ids =>
    obtain ⟨_, hat, submission, attempt, rfl, hafter, hok⟩ := h
    obtain ⟨db, booking, hok⟩ := eq_ok_of_isOk hok
    have hat : w.submits[position]? = some (.creating (some submission) attempt) := hat
    obtain ⟨made, hmade, hsame⟩ :=
      (hw.knows submission attempt (List.mem_of_getElem? hat)).mp hafter
    intro hlawful
    have hone := hlawful.one submission.read.id
    simp only [exec, hat, commitOf, hok] at hone
    exact made_twice hmade hsame hone
  | mark position now =>
    obtain ⟨⟨submission, bookingId⟩, hat, hfree, stored, hget, hstale⟩ := h
    have hat : w.submits[position]?.bind OpenSubmit.mark? = some (submission, bookingId) := hat
    have hget : w.intents.get? submission.read.id = some stored := hget
    have hid : stored.id = submission.read.id := Table.key_of_get? hget
    obtain ⟨call, hcall, hmark⟩ := Option.bind_eq_some_iff.mp hat
    have hcurrent := hw.reads call (List.mem_of_getElem? hcall) submission
      (OpenSubmit.submission_of_mark hmark)
    simp only [exec, hat, markOf, hget]
    rw [if_pos hfree]
    refine stale_unlawful submission.expectedVersion (Table.get?_found hget) rfl ?_ ?_
    · simp [carried, hat, hid]
    · rw [← hcurrent.version]
      exact hstale.symm
  | update intentId sessionId command expectedVersion owner now =>
    obtain ⟨intent, hlocked, hdue, hstale⟩ := h
    have hlocked : w.locked intentId sessionId = some intent := hlocked
    obtain ⟨rfl, hget⟩ := locked_some hlocked
    simp only [exec, hlocked, updateOf]
    rw [if_pos hdue]
    exact stale_unlawful expectedVersion hget rfl rfl hstale.symm
  | submit intentId sessionId customer answers expectedVersion key began now =>
    obtain ⟨intent, hlocked, hdue, hstale⟩ := h
    have hlocked : w.locked intentId sessionId = some intent := hlocked
    obtain ⟨rfl, hget⟩ := locked_some hlocked
    simp only [exec, hlocked, submitOf]
    rw [if_pos hdue]
    exact stale_unlawful expectedVersion hget rfl rfl hstale.symm
  | _ => exact h.elim

/-! ## Runs -/

/-- At most one booking is made of an intent, one that is submitted stays as it is, each write
is a version further, and none is for a stale version, in exactly the runs without a broken
step. -/
theorem lawful_iff (settings : Settings) (dir : Directory) (db : Db)
    (intents : Table BookingIntent) (ops : List Op) :
    Along (exec settings dir) (fun w op => Lawful w op (exec settings dir w op))
        { db, intents } ops ↔
      Along (exec settings dir) (fun w op => ¬ Broken w op) { db, intents } ops := by
  have hstart : Coherent { db, intents } :=
    ⟨fun _ h => absurd h List.not_mem_nil, List.Pairwise.nil,
      fun _ _ h => absurd h List.not_mem_nil, fun _ => Nat.zero_le _⟩
  have hkeeps : ∀ w op, Coherent w → ¬ Broken w op → Coherent (exec settings dir w op) :=
    fun w op h hnot => (exec_step settings dir h hnot).coherent h
  have hunbroken : ∀ w op, Coherent w → Lawful w op (exec settings dir w op) → ¬ Broken w op :=
    fun w op hw hlawful hbroken => broken_unlawful hw hbroken hlawful
  constructor
  · intro h
    exact Along.imp (I := Coherent)
      (fun w op hw hlawful => hkeeps w op hw (hunbroken w op hw hlawful)) hunbroken hstart h
  · intro h
    exact Along.imp (I := Coherent) hkeeps
      (fun w op hw hnot => (exec_step settings dir hw hnot).lawful hw) hstart h

/-! ## Two submits of one intent -/

def localSettings : Settings where
  hash payload := payload.currency

/-- The workers 6 and 7 take visits for the service 3 from nine on. -/
def localDirectory : Directory where
  zones timezoneId := if timezoneId = "UTC" then some (Zone.fixed 0) else none
  services := ⟨[{ id := 3, isBookable := true }], by decide⟩
  addresses := ⟨[{ id := 4, stateCode := some "TX", postalCode := "77001"
                   serviceAreaId := some 8 }], by decide⟩
  coverage := [{ workerId := 6, serviceId := 3, postalCode := "77001" },
    { workerId := 7, serviceId := 3, postalCode := "77001" }]
  workingHours := ⟨[
    { workerId := 6, weekday := 3, startTime := ofMinutes 540, endTime := ofMinutes 660 },
    { workerId := 7, weekday := 3, startTime := ofMinutes 540, endTime := ofMinutes 660 }],
    by decide⟩
  legalEntity _ := some "USD"

def atNight : World where
  db := {
    vendors := ⟨[{ id := 5, status := .active }], by decide⟩
    workers := twoWorkers }
  intents := .empty

def nineToTen : SlotSelection where
  slotToken := "slot-token-nine-to-ten"
  startLocal := ofMinutes 540
  endLocal := ofMinutes 600

def customer : CustomerInput where
  firstName := "Ada"
  lastName := "King"
  email := "ada@example.org"
  phone := "12345"

/-- Everything that a slot needs, and the slot. -/
def choiceOfSlot : BookingIntentUpdate := {
  addressId := some (some 4)
  timezoneId := some (some "UTC")
  requestedDate := some (some 0)
  selectedSlot := some (some nineToTen) }

/-- The second submit locks the intent between the two commits of the first. -/
def submittedTwice : List Op := [
  .create 3 1 0 2 "BI-1",
  .update 2 1 choiceOfSlot 1 (fun _ => none) 0,
  .submit 2 1 customer [] 2 "first" 0 0,
  .commit 0 0 { customerId := 21, bookingId := 31, reference := "BR-1" },
  .submit 2 1 customer [] 2 "second" 0 0,
  .commit 1 0 { customerId := 22, bookingId := 32, reference := "BR-2" },
  .mark 0 0,
  .mark 0 0]

def marked (w : World) : Option (BookingIntentStatus × Option Uuid × Nat) :=
  (w.intents.get? 2).map fun intent => (intent.status, intent.bookingId, intent.version)

/-- Two bookings are made of the intent, and the second submit changes it after the first has
marked it, with the same version. -/
theorem two_bookings_of_one_intent :
    ¬ Along (exec localSettings localDirectory)
        (fun w op => Lawful w op (exec localSettings localDirectory w op)) atNight
        submittedTwice ∧
      (run (exec localSettings localDirectory) atNight submittedTwice).made = [(2, 31), (2, 32)] ∧
      marked (run (exec localSettings localDirectory) atNight (submittedTwice.take 7)) =
        some (.submitted, some 31, 3) ∧
      marked (run (exec localSettings localDirectory) atNight submittedTwice) =
        some (.submitted, some 32, 3) := by
  refine ⟨?_, by decide, by decide, by decide⟩
  intro h
  have hsecond := h.2.2.2.2.2.1.one 2
  exact absurd hsecond (by decide)

end World

end Breero.BookingIntents
