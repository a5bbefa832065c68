import Breero.BookingIntents.Submissions

/-!
Whether an intent that is ready to be booked is complete.

* `Ready` is what the status says of the choices, and `Ready.submits` that `submit` then finds
  all of them;
* `update_ready_iff` says which patches keep an intent ready: those that touch the slot, those
  that start again, and those that reset the status and the slot together;
* `ready_iff`: the intents of a run are ready exactly if every committed patch of it is one of
  these, and `same_timezone_unready` is a run with another one.
-/

namespace Breero.BookingIntents
open KeyedTable Transaction Runs Bookings

variable {settings : Settings} {dir : Directory} {db : Db} {now : Instant}
  {owner : Uuid → Option Uuid} {intent patched : BookingIntent} {command : BookingIntentUpdate}

/-- The status says that availability was found exactly if a slot is selected, and then the
address, the timezone and the date are set. -/
structure Ready (intent : BookingIntent) : Prop where
  slot : intent.status = .availabilityFound ↔ intent.selectedSlot.isSome
  complete : intent.status = .availabilityFound → intent.addressId.isSome ∧
    intent.timezoneId.any (· ≠ "") ∧ intent.requestedDate.isSome

/-- There is no slot, and the status does not say so. -/
def Cleared (intent : BookingIntent) : Prop :=
  intent.selectedSlot = none ∧ intent.status ≠ .availabilityFound

theorem Cleared.ready (h : Cleared intent) : Ready intent := by
  constructor
  · simp [h.1, h.2]
  · intro hfound
    exact absurd hfound h.2

theorem Ready.cleared (h : Ready intent) (hslot : intent.selectedSlot = none) : Cleared intent :=
  ⟨hslot, fun hfound => by simpa [hslot] using h.slot.mp hfound⟩

/-- The assertions of `submit` and its check of the slot do not fail. -/
def Submits (dir : Directory) (intent : BookingIntent) : Prop :=
  ∀ customer answers expectedVersion failure,
    beginSubmit dir intent customer answers expectedVersion ≠ .error (.other failure)

theorem timezone_ne_other {timezoneId : Option String} {failure : String} :
    timezone dir timezoneId ≠ .error (.other failure) :=
  seq_ne_raised (orRaise_ne_raised (by simp)) fun _ => orRaise_ne_raised (by simp)

theorem Ready.submits (h : Ready intent) : Submits dir intent := by
  intro customer answers expectedVersion failure hraised
  unfold beginSubmit at hraised
  rcases (seq_raised _ _ _).mp hraised with hexpired | ⟨_, _, hraised⟩
  · exact require_ne_raised (by simp) hexpired
  rcases (seq_raised _ _ _).mp hraised with hversion | ⟨_, _, hraised⟩
  · exact require_ne_raised (by simp) hversion
  rcases (seq_raised _ _ _).mp hraised with hstatus | ⟨_, hstatus, hraised⟩
  · exact require_ne_raised (by simp) hstatus
  -- from here on the intent is complete
  have hfound := require_committed.mp hstatus
  obtain ⟨haddress, htimezone, hdate⟩ := h.complete hfound
  obtain ⟨addressId, haddress⟩ := Option.isSome_iff_exists.mp haddress
  obtain ⟨requestedDate, hdate⟩ := Option.isSome_iff_exists.mp hdate
  obtain ⟨selectedSlot, hslot⟩ := Option.isSome_iff_exists.mp (h.slot.mp hfound)
  simp only [haddress, hdate, hslot, htimezone, seq_raised, orRaise_raised, require_raised,
    orRaise_committed, require_committed, return_raised, slotWindow, Option.some.injEq,
    exists_eq_left', reduceCtorEq, false_and, false_or, not_true, exists_const, exists_false,
    and_false, or_false, true_and] at hraised
  exact timezone_ne_other hraised

/-! ## Patches -/

theorem clearSlot_cleared (dir : Directory) (intent : BookingIntent) :
    Cleared (clearSlot dir intent) := by
  refine ⟨rfl, ?_⟩
  show statusAfterClearingSlot dir intent ≠ _
  unfold statusAfterClearingSlot addressStatus
  split
  · simp
  · split <;> simp

theorem addressStatus_ne (address : Option Address) :
    addressStatus address ≠ .availabilityFound := by
  unfold addressStatus
  split <;> simp

/-- Another service starts again, and the same one changes nothing. -/
theorem setService_ok {value : Option (Option Uuid)}
    (h : setService dir intent value = .ok patched) :
    (∃ serviceId, value = some (some serviceId) ∧ serviceId ≠ intent.serviceId ∧
        Cleared patched) ∨
      ((∀ serviceId, value = some (some serviceId) → serviceId = intent.serviceId) ∧
        patched = intent) := by
  match value with
  | none =>
    cases h
    exact Or.inr ⟨nofun, rfl⟩
  | some none => cases h
  | some (some serviceId) =>
    simp only [setService, seq_committed, return_committed] at h
    obtain ⟨_, _, rfl⟩ := h
    split
    · next hsame =>
      refine Or.inr ⟨?_, rfl⟩
      rintro _ ⟨⟩
      exact hsame
    · next hother => exact Or.inl ⟨serviceId, rfl, hother, rfl, by simp⟩

/-- Another address starts again, and the same one resets only the status. -/
theorem withAddress_ok (intent : BookingIntent) (addressId : Option Uuid)
    {status : BookingIntentStatus}
    (hstatus : status ≠ .availabilityFound) :
    (addressId ≠ intent.addressId ∧ Cleared (withAddress intent addressId status)) ∨
      (addressId = intent.addressId ∧
        withAddress intent addressId status = { intent with status }) := by
  unfold withAddress
  split
  · next hsame => exact Or.inr ⟨hsame, rfl⟩
  · next hother => exact Or.inl ⟨hother, rfl, hstatus⟩

theorem setAddress_ok {value : Option (Option Uuid)}
    (h : setAddress dir owner intent value = .ok patched) :
    (∃ addressId, value = some addressId ∧ addressId ≠ intent.addressId ∧ Cleared patched) ∨
      (value = some intent.addressId ∧ ∃ status, status ≠ .availabilityFound ∧
        patched = { intent with status }) ∨
      (value = none ∧ patched = intent) := by
  match value with
  | none =>
    cases h
    exact Or.inr (Or.inr ⟨rfl, rfl⟩)
  | some none =>
    cases h
    have hstatus : BookingIntentStatus.draft ≠ .availabilityFound := by simp
    rcases withAddress_ok intent none hstatus with
      ⟨hother, hcleared⟩ | ⟨hsame, heq⟩
    · exact Or.inl ⟨none, rfl, hother, hcleared⟩
    · exact Or.inr (Or.inl ⟨by rw [hsame], _, by simp, heq⟩)
  | some (some addressId) =>
    simp only [setAddress, seq_committed, return_committed] at h
    obtain ⟨address, _, rfl⟩ := h
    have hstatus := addressStatus_ne (some address)
    rcases withAddress_ok intent (some addressId) hstatus with
      ⟨hother, hcleared⟩ | ⟨hsame, heq⟩
    · exact Or.inl ⟨some addressId, rfl, hother, hcleared⟩
    · exact Or.inr (Or.inl ⟨by rw [hsame], _, hstatus, heq⟩)

/-- What is set takes the slot and leaves the status, and nothing else changes an intent. -/
structure Takes (set : Prop) (intent patched : BookingIntent) : Prop where
  status : patched.status = intent.status
  slot : set → patched.selectedSlot = none
  same : ¬ set → patched = intent

theorem Takes.refl {set : Prop} (intent : BookingIntent) (hnone : ¬ set) :
    Takes set intent intent :=
  ⟨rfl, fun hset => absurd hset hnone, fun _ => rfl⟩

theorem Takes.trans {set set' : Prop} {a b c : BookingIntent} (h : Takes set a b)
    (h' : Takes set' b c) : Takes (set ∨ set') a c := by
  refine ⟨h'.status.trans h.status, ?_, ?_⟩
  · intro hset
    by_cases hlater : set'
    · exact h'.slot hlater
    · rw [h'.same hlater]
      exact h.slot (hset.resolve_right hlater)
  · intro hnone
    rw [not_or] at hnone
    rw [h'.same hnone.2, h.same hnone.1]

theorem Takes.cleared {set : Prop} (h : Takes set intent patched) (hcleared : Cleared intent) :
    Cleared patched := by
  by_cases hset : set
  · exact ⟨h.slot hset, h.status ▸ hcleared.2⟩
  · exact h.same hset ▸ hcleared

/-- The status was reset: a slot that is left is one too many. -/
theorem Takes.ready_iff_of_reset {set : Prop} (h : Takes set intent patched)
    (hreset : intent.status ≠ .availabilityFound) :
    Ready patched ↔ intent.selectedSlot = none ∨ set := by
  by_cases hset : set
  · refine iff_of_true (Cleared.ready ⟨h.slot hset, ?_⟩) (Or.inr hset)
    rw [h.status]
    exact hreset
  · rw [h.same hset]
    simp only [hset, or_false]
    constructor
    · intro hready
      simpa using mt hready.slot.mpr hreset
    · intro hnone
      exact Cleared.ready ⟨hnone, hreset⟩

/-- The status stays: a slot that is taken is missing. -/
theorem Takes.ready_iff_of_kept {set : Prop} (h : Takes set intent patched)
    (hready : Ready intent) : Ready patched ↔ intent.selectedSlot = none ∨ ¬ set := by
  by_cases hset : set
  · simp only [hset, not_true, or_false]
    constructor
    · intro hpatched
      have hunfound : intent.status ≠ .availabilityFound := by
        rw [← h.status]
        intro hfound
        simpa [h.slot hset] using hpatched.slot.mp hfound
      simpa using mt hready.slot.mpr hunfound
    · intro hnone
      exact Cleared.ready ⟨h.slot hset, h.status ▸ (hready.cleared hnone).2⟩
  · rw [h.same hset]
    exact iff_of_true hready (Or.inr hset)

theorem setTimezone_ok {value : Option (Option String)}
    (h : setTimezone dir intent value = .ok patched) : Takes value.isSome intent patched := by
  match value with
  | none =>
    cases h
    exact Takes.refl intent nofun
  | some none =>
    cases h
    exact ⟨rfl, fun _ => rfl, fun hnone => absurd rfl hnone⟩
  | some (some timezoneId) =>
    simp only [setTimezone, seq_committed, return_committed] at h
    obtain ⟨_, _, rfl⟩ := h
    exact ⟨rfl, fun _ => rfl, fun hnone => absurd rfl hnone⟩

theorem setDate_ok {value : Option (Option Int)}
    (h : setDate dir now intent value = .ok patched) : Takes value.isSome intent patched := by
  match value with
  | none =>
    cases h
    exact Takes.refl intent nofun
  | some none =>
    cases h
    exact ⟨rfl, fun _ => rfl, fun hnone => absurd rfl hnone⟩
  | some (some requestedDate) =>
    simp only [setDate, seq_committed, return_committed] at h
    obtain ⟨_, _, _, _, rfl⟩ := h
    exact ⟨rfl, fun _ => rfl, fun hnone => absurd rfl hnone⟩

/-- A slot makes the intent ready, an explicit null clears it. -/
theorem setSlot_ok {value : Option (Option SlotSelection)}
    (h : setSlot dir db now intent value = .ok patched) :
    (value.isSome → Ready patched) ∧ (value = none → patched = intent) := by
  match value with
  | none =>
    cases h
    exact ⟨(fun hsome => by cases hsome), fun _ => rfl⟩
  | some none =>
    cases h
    exact ⟨fun _ => (clearSlot_cleared dir intent).ready, fun hnone => by cases hnone⟩
  | some (some selectedSlot) =>
    simp only [setSlot, selectSlot, seq_committed, orRaise_committed, require_committed,
      return_committed] at h
    obtain ⟨addressId, haddress, _, htimezone, requestedDate, hdate, _, _, _, _, _, _, _, _, _, _,
      rfl⟩ := h
    refine ⟨fun _ => ⟨by simp, fun _ => ⟨?_, htimezone, ?_⟩⟩, fun hnone => by cases hnone⟩
    · simp [haddress]
    · simp [hdate]

/-- The patch starts again, or is about the slot. -/
def Restarts (intent : BookingIntent) (command : BookingIntentUpdate) : Prop :=
  (∃ serviceId, command.serviceId = some (some serviceId) ∧ serviceId ≠ intent.serviceId) ∨
    (∃ addressId, command.addressId = some addressId ∧ addressId ≠ intent.addressId) ∨
    command.clearSelectedSlot = some true ∨ command.selectedSlot.isSome

/-- The patch resets the status exactly if it takes the slot. -/
def Consistent (command : BookingIntentUpdate) : Prop :=
  command.addressId.isSome ↔ command.timezoneId.isSome ∨ command.requestedDate.isSome

theorem setAddress_cleared {value : Option (Option Uuid)} (h : Cleared intent)
    (hb : setAddress dir owner intent value = .ok patched) : Cleared patched := by
  rcases setAddress_ok hb with ⟨_, _, _, hcleared⟩ | ⟨_, status, hstatus, rfl⟩ | ⟨_, rfl⟩
  · exact hcleared
  · exact ⟨h.1, hstatus⟩
  · exact h

/-- The fields before the slot. -/
theorem choices_ready_iff {a b c d : BookingIntent} (hready : Ready intent)
    (ha : setService dir intent command.serviceId = .ok a)
    (hb : setAddress dir owner a command.addressId = .ok b)
    (hc : setTimezone dir b command.timezoneId = .ok c)
    (hd : setDate dir now c command.requestedDate = .ok d) :
    Ready d ↔ intent.selectedSlot = none ∨
      (∃ serviceId, command.serviceId = some (some serviceId) ∧ serviceId ≠ intent.serviceId) ∨
      (∃ addressId, command.addressId = some addressId ∧ addressId ≠ intent.addressId) ∨
      Consistent command := by
  have htakes : Takes (command.timezoneId.isSome ∨ command.requestedDate.isSome) b d :=
    (setTimezone_ok hc).trans (setDate_ok hd)
  rcases setService_ok ha with ⟨serviceId, hvalue, hother, hcleared⟩ | ⟨hservice, rfl⟩
  · exact iff_of_true (htakes.cleared (setAddress_cleared hcleared hb)).ready
      (Or.inr (Or.inl ⟨serviceId, hvalue, hother⟩))
  have hsame : ¬ ∃ serviceId, command.serviceId = some (some serviceId) ∧
      serviceId ≠ a.serviceId := fun ⟨serviceId, hvalue, hother⟩ => hother (hservice _ hvalue)
  rcases setAddress_ok hb with ⟨addressId, hvalue, hother, hcleared⟩ |
    ⟨hvalue, status, hreset, rfl⟩ | ⟨hvalue, rfl⟩
  · exact iff_of_true (htakes.cleared hcleared).ready
      (Or.inr (Or.inr (Or.inl ⟨addressId, hvalue, hother⟩)))
  · have haddress : ¬ ∃ addressId, command.addressId = some addressId ∧
        addressId ≠ a.addressId := by
      rintro ⟨addressId, hother, hne⟩
      rw [hvalue] at hother
      cases hother
      exact hne rfl
    rw [htakes.ready_iff_of_reset hreset]
    simp only [hsame, haddress, false_or]
    simp only [Consistent, hvalue, Option.isSome_some, true_iff]
  · have haddress : ¬ ∃ addressId, command.addressId = some addressId ∧
        addressId ≠ b.addressId := by
      rintro ⟨addressId, hother, _⟩
      rw [hvalue] at hother
      cases hother
    rw [htakes.ready_iff_of_kept hready]
    simp only [hsame, haddress, false_or]
    simp only [Consistent, hvalue, Option.isSome_none, Bool.false_eq_true, false_iff]

/-- A committed patch keeps a ready intent ready exactly if there is no slot to keep, or it
restarts, or it resets the status with the slot. -/
theorem update_ready_iff {expectedVersion : Nat} (hready : Ready intent)
    (h : update dir owner db now intent command expectedVersion = .ok patched) :
    Ready patched ↔
      intent.selectedSlot = none ∨ Restarts intent command ∨ Consistent command := by
  simp only [update, seq_committed, return_committed] at h
  obtain ⟨_, _, _, _, _, _, a, ha, b, hb, c, hc, d, hd, e, he, rfl⟩ := h
  have hchoices := choices_ready_iff hready ha hb hc hd
  have hversion : ∀ version, Ready { e with version } ↔ Ready e := fun _ =>
    ⟨fun h => ⟨h.slot, h.complete⟩, fun h => ⟨h.slot, h.complete⟩⟩
  rw [hversion]
  obtain ⟨hset, hkept⟩ := setSlot_ok he
  cases hslot : command.selectedSlot with
  | some value => exact iff_of_true (hset (by rw [hslot]; rfl)) (by simp [Restarts, hslot])
  | none =>
    rw [hkept hslot]
    by_cases hclear : command.clearSelectedSlot = some true
    · rw [if_pos hclear]
      exact iff_of_true (clearSlot_cleared dir d).ready (by simp [Restarts, hclear])
    · rw [if_neg hclear, hchoices]
      simp only [Restarts, hclear, hslot, Option.isSome_none, Bool.false_eq_true, or_false,
        or_assoc]

/-! ## Runs -/

namespace World

variable {w : World}

/-- The steps in which a session makes its choices, or lets their time run out. -/
def Op.chooses : Op → Bool
  | .create .. | .get .. | .update .. | .abandon .. => true
  | .submit .. | .book .. | .commit .. | .mark .. | .abort .. => false

def choose (settings : Settings) (dir : Directory) (w : World) (op : { op : Op // op.chooses }) :
    World :=
  exec settings dir w op.1

/-- Every intent says what its choices are, and `submit` does not fail on it. -/
def AllReady (dir : Directory) (w : World) : Prop :=
  ∀ intent ∈ w.intents.rows, Ready intent ∧ Submits dir intent

/-- A committed patch keeps its intent ready. -/
def PatchesWell (dir : Directory) (w : World) : Op → Prop
  | .update intentId anonymousSessionId command expectedVersion owner now =>
    ∀ intent ∈ w.locked intentId anonymousSessionId, ¬ due intent now →
      (update dir owner w.db now intent command expectedVersion).isOk →
        intent.selectedSlot = none ∨ Restarts intent command ∨ Consistent command
  | _ => True

theorem allReady_write {action : String} {metadata : Payload} (h : AllReady dir w)
    (hready : Ready intent) : AllReady dir (w.write intent action metadata now) := by
  intro other hother
  rcases Table.mem_put.mp hother with ⟨rfl, _⟩ | ⟨hother, _⟩
  · exact ⟨hready, hready.submits⟩
  · exact h other hother

theorem expire_ready (intent : BookingIntent) : Ready (expire intent) :=
  Cleared.ready ⟨rfl, by simp [expire]⟩

theorem choose_ready (op : { op : Op // op.chooses }) (h : AllReady dir w)
    (hpatch : PatchesWell dir w op.1) : AllReady dir (choose settings dir w op) := by
  obtain ⟨op, hchooses⟩ := op
  unfold choose
  cases op with
  | create serviceId anonymousSessionId now id publicReference =>
    simp only [exec]
    split
    · exact h
    · next intent hcreate =>
      split
      · exact h
      · next intents hinsert =>
        simp only [create, seq_committed, return_committed] at hcreate
        obtain ⟨_, _, heq⟩ := hcreate
        have hready : Ready intent := Cleared.ready (by rw [← heq]; exact ⟨rfl, by simp⟩)
        intro other hother
        rcases (Table.mem_insert hinsert).mp hother with hold | rfl
        · exact h other hold
        · exact ⟨hready, hready.submits⟩
  | get intentId anonymousSessionId now =>
    simp only [exec]
    split
    · split
      · exact allReady_write h (expire_ready _)
      · exact h
    · exact h
  | update intentId anonymousSessionId command expectedVersion owner now =>
    simp only [exec]
    split
    · next intent hlocked =>
      unfold updateOf
      split
      · exact allReady_write h (expire_ready _)
      · next hdue =>
        split
        · next patched heq =>
          have hready := (h intent (Table.mem_of_get? (locked_some hlocked).2)).1
          have hwell := hpatch intent hlocked hdue (isOk_of_eq heq)
          exact allReady_write h ((update_ready_iff hready heq).mpr hwell)
        · exact h
    · exact h
  | abandon intentId anonymousSessionId expectedVersion now =>
    simp only [exec]
    split
    · unfold abandonOf
      split
      · next heq =>
        rw [(abandon_ok heq).1]
        exact allReady_write h (expire_ready _)
      · exact h
    · exact h
  | _ => cases hchooses

/-- A step after which all intents are ready has patched well. -/
theorem patchesWell_of_ready (op : { op : Op // op.chooses }) (h : AllReady dir w)
    (hafter : AllReady dir (choose settings dir w op)) : PatchesWell dir w op.1 := by
  obtain ⟨op, hchooses⟩ := op
  unfold choose at hafter
  cases op with
  | update intentId anonymousSessionId command expectedVersion owner now =>
    intro intent hlocked hdue hok
    obtain ⟨patched, heq⟩ := isOk_iff.mp hok
    obtain ⟨rfl, hget⟩ := locked_some hlocked
    have hready := (h intent (Table.mem_of_get? hget)).1
    have hwritten : exec settings dir w (.update intent.id anonymousSessionId command
        expectedVersion owner now) = w.write patched "booking_intent.update"
          [("status", .str patched.status.value), ("version", .int patched.version)] now := by
      have hlocked' : w.locked intent.id anonymousSessionId = some intent := hlocked
      simp only [exec, hlocked', updateOf, if_neg hdue, heq]
    rw [hwritten] at hafter
    have hid : patched.id = intent.id := (update_ok heq).1
    have hmem : patched ∈ (w.intents.put patched).rows :=
      Table.mem_put_self (Table.mem_of_get? hget) hid.symm
    exact (update_ready_iff hready heq).mp (hafter patched hmem).1
  | _ => trivial

/-- The intents of a run are ready exactly if each committed patch restarts, or resets the
status with the slot, or has no slot to keep. -/
theorem ready_iff (settings : Settings) (dir : Directory) (w : { w : World // AllReady dir w })
    (ops : List { op : Op // op.chooses }) :
    Always (choose settings dir) (AllReady dir) w.1 ops ↔
      Along (choose settings dir) (fun w op => PatchesWell dir w op.1) w.1 ops := by
  obtain ⟨w, hw⟩ := w
  constructor
  · exact fun halways => along_of_always_inv (fun _ op h hpatch => choose_ready op h hpatch)
      (fun _ op h => patchesWell_of_ready op h) hw halways
  · exact always_of_inv (fun _ op h hpatch => choose_ready op h hpatch) hw

/-- A slot is selected, and then the timezone is set to what it is. -/
def timezoneAgain : List { op : Op // op.chooses } := [
  ⟨.create 3 1 0 2 "BI-1", rfl⟩,
  ⟨.update 2 1 choiceOfSlot 1 (fun _ => none) 0, rfl⟩,
  ⟨.update 2 1 { timezoneId := some (some "UTC") } 2 (fun _ => none) 0, rfl⟩]

/-- The intent as the run leaves it. -/
def unreadyIntent : BookingIntent := {
  id := 2, publicReference := "BI-1", anonymousSessionId := 1, serviceId := 3
  addressId := some 4, timezoneId := some "UTC", requestedDate := some 0
  status := .availabilityFound, expiresAt := BOOKING_INTENT_TTL, version := 3 }

theorem same_timezone_unready : AllReady localDirectory atNight ∧
    ¬ Always (choose localSettings localDirectory) (AllReady localDirectory) atNight
      timezoneAgain := by
  constructor
  · intro intent hmem
    cases hmem
  · intro halways
    have hready := (halways _ (run_mem_states _ _) unreadyIntent (by decide)).1
    exact absurd hready.slot (by decide)

end World

end Breero.BookingIntents
