import Breero.Reservations.Accounting

/-!
`BookingRequestService.create` as one call: the conversion of a hold, and its repetitions.

* `createRequest` is the call with nothing committed by others meanwhile;
* `Keeps` is what every other call keeps of a converted hold and of its booking;
* `conversion_iff`: a hold that is presented is converted once and its repetitions return the
  booking, iff the account of the email is there already and is the caller's, and no booking
  has taken the key of the hold.
-/

namespace Breero.Reservations.Accounting
open KeyedTable Transaction Runs Bookings Dispatch

/-! ## The call -/

/-- The arguments of `create`, and what it asks of others. -/
structure RequestCall where
  request : BookingRequestCreate
  authenticatedUser : Option Uuid := none
  subject : Except Raised (Option String) := .ok none
  ids : RequestIds

def createRequest (settings : Settings) (dir : Directory) (db : Db) (now : Instant)
    (call : RequestCall) : Except Raised (Db × Booking) := do
  match ← beginRequest settings db call.request now with
  | .inl existing => return (db, existing)
  | .inr hold =>
    finishRequest settings dir db call.request hold now call.authenticatedUser call.subject
      call.ids

def RequestCall.email (call : RequestCall) : String := lower (strip call.request.email)

/-- The account of the email. -/
def RequestCall.account (db : Db) (call : RequestCall) : Option User :=
  db.users.rows.find? fun user => user.email = call.email

/-- The account of the email is that of the caller. -/
def OwnEmail (db : Db) (call : RequestCall) : Prop :=
  ∃ user ∈ call.account db, call.authenticatedUser = some user.id

def NewEmail (db : Db) (call : RequestCall) : Prop := call.account db = none

/-- The area of the address has a legal entity. -/
def Served (dir : Directory) (addressId : Uuid) : Prop :=
  ∃ area ∈ (dir.addresses.get? addressId).bind Address.serviceAreaId,
    (dir.legalEntity area).isSome

/-- No booking has the key that `create` gives to the booking of the hold. -/
def KeyFree (db : Db) (hold : BookingCapacityHold) : Prop :=
  ∀ booking ∈ db.bookings.rows, booking.idempotencyKey ≠ "hold:" ++ toString hold.id

instance (db : Db) (call : RequestCall) : Decidable (OwnEmail db call) :=
  inferInstanceAs (Decidable (∃ user ∈ call.account db, _))

instance (db : Db) (call : RequestCall) : Decidable (NewEmail db call) :=
  inferInstanceAs (Decidable (_ = none))

instance (dir : Directory) (addressId : Uuid) : Decidable (Served dir addressId) :=
  inferInstanceAs (Decidable (∃ area ∈ _, _))

instance (db : Db) (hold : BookingCapacityHold) : Decidable (KeyFree db hold) :=
  inferInstanceAs (Decidable (∀ booking ∈ db.bookings.rows, _))

/-- The hold is open, is presented with its own booking session for a customer, and its address
belongs to a service area with a legal entity. -/
structure Presented (settings : Settings) (dir : Directory) (db : Db) (now : Instant)
    (call : RequestCall) (hold : BookingCapacityHold) : Prop where
  row : db.holds.get? call.request.holdId = some hold
  session : ownerFingerprint settings call.request.bookingSession =
    .ok hold.ownerFingerprintHash
  held : hold.status = .held
  unexpired : now < hold.expiresAt
  customer : NewEmail db call ∨ OwnEmail db call
  served : Served dir hold.addressId

/-- The ids and the reference that the call draws are not taken. -/
structure Drawn (db : Db) (ids : RequestIds) : Prop where
  customerId : db.customers.get? ids.customerId = none
  bookingId : db.bookings.get? ids.bookingId = none
  reference : ∀ booking ∈ db.bookings.rows, booking.reference ≠ ids.reference

section
variable {settings : Settings} {dir : Directory} {db db' : Db} {now : Instant} {call : RequestCall}
  {hold : BookingCapacityHold}

theorem beginRequest_inr (h : Presented settings dir db now call hold) :
    beginRequest settings db call.request now = .ok (.inr hold) := by
  have hnone : convertedBooking db hold = none := by
    simp [convertedBooking, h.held]
  simp only [beginRequest, seq_committed, orRaise_committed, require_committed]
  refine ⟨hold, h.row, _, h.session, (), rfl, ?_⟩
  rw [hnone]
  simp only [seq_committed, require_committed, return_committed]
  exact ⟨(), ⟨h.held, h.unexpired⟩, trivial⟩

theorem profileFor_isOk {user : User} {customerId : Uuid}
    (hnew : db.customers.get? customerId = none) :
    (profileFor db call.request call.email user customerId).isOk := by
  unfold profileFor
  split
  · rfl
  · next hnone =>
    let customer : Customer := {
      id := customerId, userId := some user.id, firstName := call.request.firstName
      lastName := call.request.lastName, email := call.email, phone := call.request.phone }
    obtain ⟨customers, hinsert⟩ := Table.insert?_fresh (a := customer) hnew
    have hfirst : ∀ other ∈ db.customers.rows, other.userId ≠ some user.id :=
      fun other hother hsame =>
        List.find?_eq_none.mp hnone other hother (decide_eq_true hsame)
    have hadd : db.addCustomer customer = .ok { db with customers } := by
      simp only [Db.addCustomer, seq_committed, require_committed, orRaise_committed,
        return_committed]
      exact ⟨(), fun other hother => Or.inr (hfirst other hother), customers, hinsert, rfl⟩
    exact seq_isOk.mpr ⟨_, hadd, rfl⟩

/-- What the rest of the call depends on: the account, the address, and the key. -/
theorem finishRequest_isOk (hdrawn : Drawn db call.ids) :
    (finishRequest settings dir db call.request hold now call.authenticatedUser call.subject
        call.ids).isOk ↔ OwnEmail db call ∧ Served dir hold.addressId ∧ KeyFree db hold := by
  simp only [finishRequest, seq_isOk, orRaise_committed]
  constructor
  · rintro ⟨⟨db1, user, created⟩, haccount, ⟨db2, customer⟩, hprofile, area, harea, currency,
      hcurrency, db3, hbooking, _⟩
    obtain ⟨hfind, hcaller, rfl, _⟩ := accountFor_ok.mp haccount
    obtain ⟨customers, rfl⟩ := profileFor_ok hprofile
    simp only [Db.addBooking, seq_committed, require_committed] at hbooking
    obtain ⟨_, _, _, hkey, _⟩ := hbooking
    exact ⟨⟨user, hfind, hcaller⟩, ⟨area, harea, Option.isSome_of_mem hcurrency⟩, hkey⟩
  · rintro ⟨⟨user, hfind, hcaller⟩, ⟨area, harea, hentity⟩, hkey⟩
    obtain ⟨currency, hcurrency⟩ := Option.isSome_iff_exists.mp hentity
    have haccount : accountFor db call.request call.email call.authenticatedUser call.subject
        call.ids.userId = .ok (db, user, false) :=
      accountFor_ok.mpr ⟨hfind, hcaller, rfl, rfl⟩
    have hprofiled : (profileFor db call.request call.email user call.ids.customerId).isOk :=
      profileFor_isOk hdrawn.customerId
    obtain ⟨⟨db2, customer⟩, hprofile⟩ := isOk_iff.mp hprofiled
    obtain ⟨customers, rfl⟩ := profileFor_ok hprofile
    let booking := requestedBooking settings hold customer.id currency now call.ids.bookingId
      call.ids.reference
    obtain ⟨bookings, hinsert⟩ := Table.insert?_fresh (a := booking) hdrawn.bookingId
    have hbooking : ({ db with customers } : Db).addBooking booking =
        .ok { db with customers, bookings } := by
      simp only [Db.addBooking, seq_committed, require_committed, orRaise_committed,
        return_committed]
      exact ⟨(), hdrawn.reference, (), hkey, bookings, hinsert, rfl⟩
    exact ⟨_, haccount, _, hprofile, area, harea, currency, hcurrency, _, hbooking, rfl⟩

end

/-! ## What other calls keep -/

/-- A converted hold stays converted into its booking. -/
def SameConversion (hold hold' : BookingCapacityHold) : Prop :=
  hold.status = .converted →
    hold'.status = .converted ∧ hold'.bookingId = hold.bookingId ∧
      hold'.ownerFingerprintHash = hold.ownerFingerprintHash

def SameReference (booking booking' : Booking) : Prop := booking'.reference = booking.reference

theorem SameConversion.refl (hold : BookingCapacityHold) : SameConversion hold hold :=
  fun h => ⟨h, rfl, rfl⟩

theorem SameConversion.trans (a b c : BookingCapacityHold) (h : SameConversion a b)
    (h' : SameConversion b c) : SameConversion a c := by
  intro hstatus
  obtain ⟨hstatus', hbooking, howner⟩ := h hstatus
  obtain ⟨hstatus'', hbooking', howner'⟩ := h' hstatus'
  exact ⟨hstatus'', hbooking'.trans hbooking, howner'.trans howner⟩

/-- A hold that is not converted may be written. -/
theorem SameConversion.of_held {hold hold' : BookingCapacityHold} (h : hold.status = .held) :
    SameConversion hold hold' := by
  intro hstatus
  rw [h] at hstatus
  cases hstatus

structure Keeps (db db' : Db) : Prop where
  holds : Table.Kept SameConversion db.holds db'.holds
  bookings : Table.Kept SameReference db.bookings db'.bookings

section
variable {settings : Settings} {dir : Directory} {db db' : Db} {now : Instant}

theorem Keeps.of_same (hholds : db'.holds = db.holds) (hbookings : db'.bookings = db.bookings) :
    Keeps db db' :=
  ⟨.of_eq hholds SameConversion.refl, .of_eq hbookings fun _ => rfl⟩

/-- A booking is rewritten under its reference. -/
theorem Keeps.of_put {booking booking' : Booking}
    (hbookings : db'.bookings = db.bookings.put booking') (hholds : db'.holds = db.holds)
    (found : db.bookings.get? booking.id = some booking) (hid : booking'.id = booking.id)
    (hreference : booking'.reference = booking.reference) : Keeps db db' := by
  refine ⟨.of_eq hholds SameConversion.refl, ?_⟩
  rw [hbookings]
  exact .put_found found hid hreference fun _ => rfl

theorem createAt_keeps {request : HoldRequest} {holdId : Uuid} {v : BookingCapacityHold}
    (h : createAt settings dir db request now holdId = .ok (db', v)) : Keeps db db' := by
  rcases createAt_ok h with rfl | ⟨attempt, holds, auditLogs, rfl, hinsert, rfl⟩
  · exact .of_same rfl rfl
  · exact ⟨.insert hinsert SameConversion.refl, .of_eq rfl fun _ => rfl⟩

theorem finishRequest_keeps {request : BookingRequestCreate} {hold : BookingCapacityHold}
    {authenticatedUser : Option Uuid} {subject : Except Raised (Option String)}
    {ids : RequestIds} {booking : Booking}
    (begun : beginRequest settings db request now = .ok (.inr hold))
    (h : finishRequest settings dir db request hold now authenticatedUser subject ids =
      .ok (db', booking)) : Keeps db db' := by
  obtain ⟨hrow, hheld, _⟩ := beginRequest_ok begun
  obtain ⟨_, _, _, _, hinsert, hholds⟩ := finishRequest_ok h
  refine ⟨?_, .insert hinsert fun _ => rfl⟩
  rw [hholds]
  exact .put_found hrow rfl (.of_held hheld) SameConversion.refl

theorem releaseHold_keeps {holdId : Uuid} {bookingSession : String} {v : Unit}
    (h : releaseHold settings db holdId bookingSession now = .ok (db', v)) : Keeps db db' := by
  rcases releaseHold_ok h with rfl | ⟨hold, _, hget, hheld, rfl⟩
  · exact .of_same rfl rfl
  · exact ⟨.put_found hget rfl (.of_held hheld) SameConversion.refl, .of_eq rfl fun _ => rfl⟩

theorem lapseHold_keeps {holdId : Uuid} {bookingSession : String} {hold : BookingCapacityHold}
    (h : Bookings.getHold settings db holdId bookingSession now = .ok (hold, true)) :
    Keeps db (lapseHold db holdId) := by
  obtain ⟨hget, hheld⟩ := getHold_ok h
  refine ⟨?_, .of_eq (lapseHold_rows db holdId).2 fun _ => rfl⟩
  simp only [lapseHold, hget]
  exact .put_found hget rfl (.of_held (hheld rfl)) SameConversion.refl

theorem expireStale_keeps : Keeps db (Bookings.expireStale db now) := by
  refine ⟨.update (fun hold => by unfold staleExpired; split <;> rfl) fun hold => ?_,
    .of_eq rfl fun _ => rfl⟩
  unfold staleExpired
  split
  · next hstale => exact .of_held hstale.1
  · exact .refl hold

/-- Of the holds of a booking only those that are held are released. -/
theorem released_kept (db : Db) (bookingId : Uuid) (kept : Option Uuid) (now : Instant) :
    Table.Kept SameConversion db.holds (releaseHolds db bookingId kept now).holds := by
  refine .update (fun hold => by unfold holdReleased; split <;> rfl) fun hold => ?_
  unfold holdReleased
  split
  · next hheld => exact .of_held hheld.2.2
  · exact .refl hold

theorem reschedule_keeps {userId bookingId holdId : Uuid} {bookingSession : String}
    {moved : Booking}
    (h : rescheduleBooking settings db userId bookingId holdId bookingSession now =
      .ok (db', moved)) : Keeps db db' := by
  obtain ⟨booking, hold, howned, _, hget, hheld, hwritten⟩ := rescheduleBooking_ok h
  cases hwritten
  have hrow := Table.get?_found hget
  have hkept : (releaseHolds db booking.id (some hold.id) now).holds.get? hold.id = some hold :=
    releaseHolds_kept hrow
  refine ⟨(released_kept db booking.id (some hold.id) now).trans ?_ SameConversion.trans,
    .put_found (ownedBooking_ok howned).1 rfl rfl fun _ => rfl⟩
  exact .put_found hkept rfl (.of_held hheld) SameConversion.refl

theorem cancel_keeps {userId bookingId : Uuid} {v : Booking}
    (h : cancelBooking db userId bookingId now = .ok (db', v)) : Keeps db db' := by
  obtain ⟨booking, hbooking, _, ⟨_, rfl⟩ | ⟨_, _, db1, _, hjob, rfl⟩⟩ := cancelBooking_ok h
  · exact .of_same rfl rfl
  · obtain ⟨hbookings, hholds⟩ := cancelJob_untouched hjob
    refine ⟨?_, ?_⟩
    · rw [← hholds]
      exact released_kept { db1 with bookings := _ } booking.id none now
    · show Table.Kept SameReference db.bookings (db1.bookings.put _)
      rw [hbookings]
      exact .put_found hbooking rfl rfl fun _ => rfl

theorem assignTo_keeps {booking assigned : Booking} {candidate : ProviderCandidate}
    {request : AssignRequest} {jobId assignmentId : Uuid}
    (found : db.bookings.get? booking.id = some booking)
    (h : assignTo db booking candidate request now jobId assignmentId = .ok (db', assigned)) :
    Keeps db db' := by
  obtain ⟨_, _, _, hbookings, hid, _⟩ := assignTo_rows h
  refine .of_put hbookings (assignTo_holds h) found hid ?_
  simp only [assignTo, seq_committed, orRaise_committed, return_committed, Prod.exists,
    Prod.mk.injEq] at h
  obtain ⟨_, _, _, _, _, _, _, _, rfl⟩ := h
  rfl

theorem assign_keeps {request : AssignRequest} {jobId assignmentId : Uuid} {v : Booking}
    (h : Dispatch.assign settings dir db request now jobId assignmentId = .ok (db', v)) :
    Keeps db db' := by
  simp only [Dispatch.assign, seq_committed] at h
  obtain ⟨booking, hbegin, candidate, _, hassign⟩ := h
  exact assignTo_keeps (beginAssign_ok hbegin).1 hassign

theorem unassign_keeps {bookingId actorId : Uuid} {reason : String} {v : Booking}
    (h : Dispatch.unassign db bookingId actorId reason now = .ok (db', v)) : Keeps db db' := by
  obtain ⟨booking, hbooking, _, _, hbookings, hholds, _⟩ := unassign_rows h
  exact .of_put hbookings hholds hbooking rfl rfl

/-- No call takes a conversion back. -/
theorem exec_keeps (w : World) (op : Op) : Keeps w.db (exec settings dir w op).db := by
  unfold exec
  split
  · next db rested h =>
    cases op with
    | tick elapsed =>
      simp only [transact, return_committed, Prod.mk.injEq] at h
      obtain ⟨rfl, _⟩ := h
      exact .of_same rfl rfl
    | createHold request holdId =>
      simp only [transact, seq_committed, return_committed, Prod.exists, Prod.mk.injEq] at h
      obtain ⟨_, _, hcreate, rfl, _⟩ := h
      exact createAt_keeps hcreate
    | request request authenticatedUser subject ids =>
      simp only [transact, seq_committed] at h
      obtain ⟨existing | hold, hbegin, h⟩ := h
      · simp only [return_committed, Prod.mk.injEq] at h
        obtain ⟨rfl, _⟩ := h
        exact .of_same rfl rfl
      · simp only [seq_committed, return_committed, Prod.exists, Prod.mk.injEq] at h
        obtain ⟨_, _, hfinish, rfl, _⟩ := h
        exact finishRequest_keeps hbegin hfinish
    | release holdId bookingSession =>
      simp only [transact, seq_committed, return_committed, Prod.exists, Prod.mk.injEq] at h
      obtain ⟨_, _, hrelease, rfl, _⟩ := h
      exact releaseHold_keeps hrelease
    | getHold holdId bookingSession =>
      simp only [transact, seq_committed, return_committed, Prod.exists, Prod.mk.injEq] at h
      obtain ⟨hold, lapsed, hget, rfl, _⟩ := h
      split
      · next hlapsed =>
        rw [hlapsed] at hget
        exact lapseHold_keeps hget
      · exact .of_same rfl rfl
    | expireStale =>
      simp only [transact, return_committed, Prod.mk.injEq] at h
      obtain ⟨rfl, _⟩ := h
      exact expireStale_keeps
    | reschedule userId bookingId holdId bookingSession =>
      simp only [transact, seq_committed, return_committed, Prod.exists, Prod.mk.injEq] at h
      obtain ⟨_, _, hmove, rfl, _⟩ := h
      exact reschedule_keeps hmove
    | cancel userId bookingId =>
      simp only [transact, seq_committed, return_committed, Prod.exists, Prod.mk.injEq] at h
      obtain ⟨_, _, hcancel, rfl, _⟩ := h
      exact cancel_keeps hcancel
    | assign request jobId assignmentId =>
      simp only [transact, seq_committed, return_committed, Prod.exists, Prod.mk.injEq] at h
      obtain ⟨_, _, hassign, rfl, _⟩ := h
      exact assign_keeps hassign
    | automaticAssign bookingId actorId jobId assignmentId =>
      simp only [transact, seq_committed, return_committed, Prod.exists, Prod.mk.injEq] at h
      obtain ⟨_, _, hautomatic, rfl, _⟩ := h
      simp only [Dispatch.automaticAssign, seq_committed] at hautomatic
      obtain ⟨_, _, _, _, _, _, hassign⟩ := hautomatic
      exact assign_keeps hassign
    | unassign bookingId actorId reason =>
      simp only [transact, seq_committed, return_committed, Prod.exists, Prod.mk.injEq] at h
      obtain ⟨_, _, hunassign, rfl, _⟩ := h
      exact unassign_keeps hunassign
  · exact .of_same rfl rfl

end

/-! ## The law -/

/-- A call for the same hold with the same booking session. -/
def Repeats (call again : RequestCall) : Prop :=
  again.request.holdId = call.request.holdId ∧
    again.request.bookingSession = call.request.bookingSession

/-- The repetitions of the call return the booking and change nothing. -/
def Replays (settings : Settings) (dir : Directory) (call : RequestCall) (booking : Booking)
    (w : World) : Prop :=
  ∀ again, Repeats call again → ∃ booking',
    createRequest settings dir w.db w.clock again = .ok (w.db, booking') ∧
      booking'.id = booking.id ∧ booking'.reference = booking.reference

/-- The call adds the booking of the hold, and converts the hold into it; whatever is called
then, a repetition returns that booking. -/
def ConvertsOnce (settings : Settings) (dir : Directory) (db : Db) (now : Instant)
    (call : RequestCall) (hold : BookingCapacityHold) : Prop :=
  ∃ db' booking, createRequest settings dir db now call = .ok (db', booking) ∧
    db'.bookings.rows = db.bookings.rows ++ [booking] ∧
    booking.serviceId = hold.serviceId ∧ booking.addressId = hold.addressId ∧
    booking.windowStart = hold.slotStartUtc ∧ booking.windowEnd = hold.slotEndUtc ∧
    db'.holds.get? hold.id = some (convertedTo hold booking.id now) ∧
    ∀ ops, Always (exec settings dir) (Replays settings dir call booking)
      { db := db', clock := now } ops

section
variable {settings : Settings} {dir : Directory} {db db' : Db} {now : Instant} {call : RequestCall}
  {hold : BookingCapacityHold}

/-- What a repetition needs: the hold is still converted into the booking. -/
structure Converted (hold : BookingCapacityHold) (booking : Booking) (db : Db) : Prop where
  hold : ∃ row, db.holds.get? hold.id = some row ∧ row.status = .converted ∧
    row.bookingId = some booking.id ∧ row.ownerFingerprintHash = hold.ownerFingerprintHash
  booking : ∃ row, db.bookings.get? booking.id = some row ∧ row.reference = booking.reference

theorem Converted.kept {booking : Booking} (h : Converted hold booking db) (hkeeps : Keeps db db') :
    Converted hold booking db' := by
  obtain ⟨row, hrow, hstatus, hbooking, howner⟩ := h.hold
  obtain ⟨found, hfound, hreference⟩ := h.booking
  obtain ⟨row', hrow', hsame⟩ := hkeeps.holds.get? hrow
  obtain ⟨found', hfound', hsameReference⟩ := hkeeps.bookings.get? hfound
  obtain ⟨hstatus', hbooking', howner'⟩ := hsame hstatus
  exact ⟨⟨row', hrow', hstatus', hbooking'.trans hbooking, howner'.trans howner⟩,
    found', hfound', hsameReference.trans hreference⟩

theorem Converted.replays {booking : Booking} {w : World} (h : Converted hold booking w.db)
    (hid : call.request.holdId = hold.id)
    (hsession : ownerFingerprint settings call.request.bookingSession =
      .ok hold.ownerFingerprintHash) : Replays settings dir call booking w := by
  rintro again ⟨hsameHold, hsameSession⟩
  obtain ⟨row, hrow, hstatus, hbooking, howner⟩ := h.hold
  obtain ⟨found, hfound, hreference⟩ := h.booking
  refine ⟨found, ?_, Table.key_of_get? hfound, hreference⟩
  have hconverted : convertedBooking w.db row = some found := by
    simp [convertedBooking, hstatus, hbooking, hfound]
  have hbegin : beginRequest settings w.db again.request w.clock = .ok (.inl found) := by
    simp only [beginRequest, seq_committed, orRaise_committed, require_committed]
    refine ⟨row, by rw [hsameHold, hid, hrow], _, hsameSession ▸ hsession, (), howner, ?_⟩
    rw [hconverted]
    rfl
  simp only [createRequest, hbegin]
  rfl

theorem createRequest_eq (h : Presented settings dir db now call hold) :
    createRequest settings dir db now call =
      finishRequest settings dir db call.request hold now call.authenticatedUser call.subject
        call.ids := by
  simp only [createRequest, beginRequest_inr h]
  rfl

/-- What a finished call leaves, it leaves for good. -/
theorem convertsOnce_of_ok (h : Presented settings dir db now call hold) {booking : Booking}
    (hok : createRequest settings dir db now call = .ok (db', booking)) :
    ConvertsOnce settings dir db now call hold := by
  have hfinish := createRequest_eq h ▸ hok
  obtain ⟨_, _, _, ⟨customerId, currency, hbooking⟩, hinsert, hholds⟩ := finishRequest_ok hfinish
  have hid : call.request.holdId = hold.id := (Table.key_of_get? h.row).symm
  have hconverted : db'.holds.get? hold.id = some (convertedTo hold booking.id now) := by
    rw [hholds]
    exact Table.get?_put_self (hid ▸ h.row) rfl
  refine ⟨db', booking, hok, (Table.insert?_eq_some.mp hinsert).2, ?_, ?_, ?_, ?_, hconverted,
    fun ops => ?_⟩
  · rw [hbooking]; rfl
  · rw [hbooking]; rfl
  · rw [hbooking]; rfl
  · rw [hbooking]; rfl
  have hstart : Converted hold booking db' :=
    ⟨⟨_, hconverted, rfl, rfl, rfl⟩, booking, Table.get?_insert_self hinsert, rfl⟩
  have hinv : Always (exec settings dir) (fun w => Converted hold booking w.db)
      { db := db', clock := now } ops :=
    always_of_inv (P := fun _ _ => True) (fun w op h _ => h.kept (exec_keeps w op)) hstart
      (along_of_forall fun _ _ => trivial)
  exact hinv.imp fun w hw => hw.replays hid h.session

/-- A call that writes was presented with what it requires. -/
theorem presented_of_ok {booking : Booking}
    (hbegin : beginRequest settings db call.request now = .ok (.inr hold))
    (hfinish : finishRequest settings dir db call.request hold now call.authenticatedUser
      call.subject call.ids = .ok (db', booking)) : Presented settings dir db now call hold := by
  obtain ⟨_, hheld, hunexpired⟩ := beginRequest_ok hbegin
  simp only [beginRequest, seq_committed, orRaise_committed, require_committed] at hbegin
  obtain ⟨row, hrow, _, hsession, _, howner, hbegin⟩ := hbegin
  have hsame : row = hold := by
    split at hbegin
    · simp only [return_committed, reduceCtorEq] at hbegin
    · simp only [seq_committed, return_committed, Sum.inr.injEq] at hbegin
      obtain ⟨_, _, hsame⟩ := hbegin
      exact hsame
  subst hsame
  simp only [finishRequest, seq_committed, orRaise_committed] at hfinish
  obtain ⟨⟨_, user, _⟩, haccount, _, _, area, harea, currency, hcurrency, _⟩ := hfinish
  obtain ⟨hfind, hcaller, _⟩ := accountFor_ok.mp haccount
  exact {
    row := hrow
    session := howner ▸ hsession
    held := hheld
    unexpired := hunexpired
    customer := Or.inr ⟨user, hfind, hcaller⟩
    served := ⟨area, harea, Option.isSome_of_mem hcurrency⟩ }

/-- A presented hold is converted once, and a call without one changes nothing, iff the account
of the email is the caller's and the key of the hold is free. -/
theorem conversion_iff (hdrawn : Drawn db call.ids) :
    (∀ hold, Presented settings dir db now call hold →
        ConvertsOnce settings dir db now call hold) ∧
      ((¬ ∃ hold, Presented settings dir db now call hold) →
        commit db (createRequest settings dir db now call) = db) ↔
      ∀ hold, Presented settings dir db now call hold → OwnEmail db call ∧ KeyFree db hold := by
  constructor
  · rintro ⟨hconverts, _⟩ hold hpresented
    obtain ⟨db', booking, hok, _⟩ := hconverts hold hpresented
    rw [createRequest_eq hpresented] at hok
    obtain ⟨hown, _, hkey⟩ := (finishRequest_isOk hdrawn).mp (isOk_of_eq hok)
    exact ⟨hown, hkey⟩
  · intro hpossible
    refine ⟨fun hold hpresented => ?_, fun hnone => ?_⟩
    · obtain ⟨hown, hkey⟩ := hpossible hold hpresented
      have hok : (createRequest settings dir db now call).isOk := by
        rw [createRequest_eq hpresented]
        exact (finishRequest_isOk hdrawn).mpr ⟨hown, hpresented.served, hkey⟩
      obtain ⟨db', booking, hok⟩ := eq_ok_of_isOk hok
      exact convertsOnce_of_ok hpresented hok
    · refine commit_induction (motive := fun s => s = db) rfl fun db' booking hok => ?_
      simp only [createRequest, seq_committed] at hok
      obtain ⟨existing | hold, hbegin, hok⟩ := hok
      · simp only [return_committed, Prod.mk.injEq] at hok
        exact hok.1.symm
      · exact absurd ⟨hold, presented_of_ok hbegin hok⟩ hnone

end

/-- The hold 40, which is held until half past. -/
def heldSlot : BookingCapacityHold := visitDb.holds.rows.head (by decide)

/-- The customer 1 requests the hold in the account that is theirs. -/
def ownCall : RequestCall where
  request := heldRequest
  authenticatedUser := some 9
  ids := { userId := 10, customerId := 11, bookingId := 12, reference := "BR-12" }

theorem ownCall_converted :
    Drawn visitDb ownCall.ids ∧
      Presented visitSettings heldDirectory visitDb 0 ownCall heldSlot ∧
      ConvertsOnce visitSettings heldDirectory visitDb 0 ownCall heldSlot := by
  have hdrawn : Drawn visitDb ownCall.ids := ⟨by decide, by decide, by decide⟩
  have hpresented : Presented visitSettings heldDirectory visitDb 0 ownCall heldSlot :=
    ⟨by decide, by decide, by decide, by decide, Or.inr (by decide), by decide⟩
  have honly : ∀ hold, Presented visitSettings heldDirectory visitDb 0 ownCall hold →
      hold = heldSlot :=
    fun hold h => Option.some.inj (h.row.symm.trans hpresented.row)
  have hpossible : ∀ hold, Presented visitSettings heldDirectory visitDb 0 ownCall hold →
      OwnEmail visitDb ownCall ∧ KeyFree visitDb hold := by
    intro hold h
    rw [honly hold h]
    exact ⟨by decide, by decide⟩
  exact ⟨hdrawn, hpresented, ((conversion_iff hdrawn).mpr hpossible).1 heldSlot hpresented⟩

/-- A caller who has no account yet. -/
def guestCall : RequestCall where
  request := { heldRequest with firstName := "C", lastName := "D", email := "c@d.test" }
  ids := { userId := 10, customerId := 11, bookingId := 12, reference := "BR-12" }

/-- The row of the new account is sent with a coroutine for its hash. -/
theorem new_email_not_converted :
    Drawn visitDb guestCall.ids ∧
      Presented visitSettings heldDirectory visitDb 0 guestCall heldSlot ∧
      ¬ ConvertsOnce visitSettings heldDirectory visitDb 0 guestCall heldSlot := by
  refine ⟨⟨by decide, by decide, by decide⟩,
    ⟨by decide, by decide, by decide, by decide, Or.inl (by decide), by decide⟩, ?_⟩
  rintro ⟨db', booking, hok, _⟩
  have hraised : ¬ (createRequest visitSettings heldDirectory visitDb 0 guestCall).isOk := by
    decide
  exact hraised (isOk_of_eq hok)

end Breero.Reservations.Accounting
