import Breero.Booking.Lifecycle
import Breero.Booking.Matching

/-!
`AvailabilityService` and `BookingService`: bookings of one-hour windows, for which the
workers who could come are counted. A booking is made in two parts, as its transaction
commits after the search:

* `beginCreate` searches for the window, under the lock of the slot;
* `finishCreate` makes the booking, and the transaction commits.
-/

namespace Breero.Bookings
open KeyedTable Transaction

/-! ## The counts -/

/-- A booking that the capacity queries count. -/
def holdsWindow (now : Instant) (booking : Booking) : Bool :=
  booking.status = .confirmed ||
    (booking.status ∈ capacityHoldingStatuses && now < booking.expiresAt)

def bookingCount (db : Db) (now : Instant) (serviceId : Uuid) (start stop : Instant) : Nat :=
  db.bookings.rows.countP fun booking =>
    booking.serviceId = serviceId && booking.windowStart = start && booking.windowEnd = stop &&
      holdsWindow now booking

/-- A booking that takes the worker's time in the window. -/
def occupiesWindow (now : Instant) (workerId : Uuid) (start stop : Instant) (booking : Booking) :
    Bool :=
  booking.providerWorkerId = some workerId && booking.windowStart < stop &&
    start < booking.windowEnd && holdsWindow now booking

def providerBookingCount (db : Db) (now : Instant) (workerId : Uuid) (start stop : Instant) :
    Nat :=
  db.bookings.rows.countP (occupiesWindow now workerId start stop)

/-! ## The workers who could come -/

/-- The coverage of a worker, and the self-service catalog if their vendor uses it. -/
def servesPostalCode (dir : Directory) (vendor : Vendor) (worker : Worker) (serviceId : Uuid)
    (postalCode : String) : Prop :=
  (dir.coverage.any fun covered =>
    covered.active && covered.workerId = worker.id && covered.serviceId = serviceId &&
      covered.postalCode = truncate 5 postalCode) ∧
  ∀ offered ∈ dir.catalogServices.get? (vendor.id, serviceId),
    offered.status = .approved ∧ offered.active

instance (dir : Directory) (vendor : Vendor) (worker : Worker) (serviceId : Uuid)
    (postalCode : String) : Decidable (servesPostalCode dir vendor worker serviceId postalCode) :=
  inferInstanceAs (Decidable (_ ∧ ∀ offered ∈ dir.catalogServices.get? (vendor.id, serviceId), _))

def eligibleProviderHours (dir : Directory) (db : Db) (serviceId : Uuid) (postalCode : String)
    (weekday : Int) : List (Worker × ProviderWorkingHours) :=
  db.workers.rows.filterMap fun worker =>
    (db.vendors.get? worker.vendorId).bind fun vendor =>
      (dir.workingHours.get? (worker.id, weekday)).bind fun hours =>
        if vendor.status = .active ∧ worker.status = .active ∧ worker.available ∧
            servesPostalCode dir vendor worker serviceId postalCode then
          some (worker, hours)
        else none

/-- `timedelta(minutes=60)` -/
def appointment : Int := ofMinutes 60

/-- An hour of a worker's day. -/
structure WorkerWindow where
  workerId : Uuid
  start : Instant
  stop : Instant
  capacity : Int
  deriving DecidableEq, Repr

/-- The hours of the day, from the first minute at work on. -/
def hoursOfDay (zone : Zone) (date : Int) (worker : Worker) (hours : ProviderWorkingHours) :
    List WorkerWindow :=
  (List.range ((hours.endTime - hours.startTime) / appointment).toNat).map fun (n : Nat) =>
    let cursor := date * dayLength + hours.startTime + n * appointment
    { workerId := worker.id
      start := zone.toUtc cursor false
      stop := zone.toUtc (cursor + appointment) false
      capacity := hours.capacity }

def windowsOn (dir : Directory) (db : Db) (zone : Zone) (serviceId : Uuid) (postalCode : String)
    (date : Int) : List WorkerWindow :=
  (eligibleProviderHours dir db serviceId postalCode (weekdayOf (date * dayLength))).flatMap
    fun (worker, hours) => hoursOfDay zone date worker hours

/-- The windows that `capacity_by_slot` counts. -/
def countedWindows (dir : Directory) (db : Db) (now : Instant) (zone : Zone) (serviceId : Uuid)
    (postalCode : String) (date : Int) : List WorkerWindow :=
  (windowsOn dir db zone serviceId postalCode date).filter fun window =>
    providerBookingCount db now window.workerId window.start window.stop < window.capacity

/-! ## The search -/

structure AvailabilitySlot where
  start : Instant
  stop : Instant
  remainingCapacity : Int
  deriving DecidableEq, Repr

/-- The order of the slots of a day. -/
def slotBefore (a b : Instant × Instant) : Prop := a.1 < b.1 ∨ (a.1 = b.1 ∧ a.2 ≤ b.2)

instance : DecidableRel slotBefore := fun _ _ => inferInstanceAs (Decidable (_ ∨ _))

def slotsOn (dir : Directory) (db : Db) (now : Instant) (zone : Zone) (serviceId : Uuid)
    (postalCode : String) (date : Int) : List AvailabilitySlot :=
  let counted := countedWindows dir db now zone serviceId postalCode date
  let slots := (counted.map fun window => (window.start, window.stop)).dedup
  (slots.insertionSort slotBefore).filterMap fun (start, stop) =>
    let capacity := counted.countP fun window => window.start = start && window.stop = stop
    let remaining : Int := max (capacity - bookingCount db now serviceId start stop) 0
    if remaining = 0 then none else some { start, stop, remainingCapacity := remaining }

def notServiceable : Raised :=
  .domainError "ADDRESS_NOT_SERVICEABLE" "Address is outside an active service area" 422

def search (dir : Directory) (db : Db) (now : Instant) (serviceId addressId : Uuid)
    (dateFrom dateTo : Int) : Except Raised (List AvailabilitySlot) := do
  let address ← orRaise (dir.addresses.get? addressId) notServiceable
  let area ← orRaise address.serviceAreaId notServiceable
  require (∀ offering ∈ dir.zoneOfferings.get? (area, serviceId),
      offering.active ∧ offering.regularServiceEnabled)
    (.domainError "SERVICE_NOT_OFFERED_IN_ZONE"
      "This service is not offered at the selected address." 422)
  let zone ← orRaise (dir.zones address.timezoneName)
    (.domainError "ADDRESS_TIMEZONE_INVALID" "Service address timezone is invalid" 422)
  return (List.range (dateTo - dateFrom + 1).toNat).flatMap fun (n : Nat) =>
    slotsOn dir db now zone serviceId address.postalCode (dateFrom + n)

/-! ## Bookings -/

/-- A call of `create` whose window is free. -/
structure CreateAttempt where
  payload : BookingCreateRequest
  idempotencyKey : String
  requestHash : String
  currency : String
  deriving DecidableEq, Repr

/-- Every required question of the service is answered, and no other question. -/
def checkAnswers (dir : Directory) (payload : BookingCreateRequest) : Except Raised Unit := do
  let questions := dir.questions.rows.filter fun question =>
    question.serviceId = payload.serviceId && question.isActive
  let supplied := payload.answers.map BookingAnswerInput.questionId
  let missing := questions.filter fun question => question.required && question.id ∉ supplied
  require (missing = [])
    (.domainError "REQUIRED_ANSWERS_MISSING"
      ("Missing " ++ toString missing.length ++ " required answer(s)") 422)
  require (∀ id ∈ supplied, id ∈ questions.map ServiceQuestion.id)
    (.domainError "INVALID_QUESTION" "An answer references an invalid service question" 422)

/-- `create` up to its commit: the booking that the key already has, or what to book. The
call began at `began`, and the search was made at `now`. -/
def beginCreate (settings : Settings) (dir : Directory) (db : Db)
    (payload : BookingCreateRequest) (idempotencyKey : String) (began now : Instant) :
    Except Raised (Booking ⊕ CreateAttempt) := do
  let requestHash := settings.bookingHash payload
  match db.bookings.rows.find? (fun booking => booking.idempotencyKey = idempotencyKey) with
  | some existing => do
    require (existing.idempotencyRequestHash ∈ ["legacy", requestHash])
      (.domainError "IDEMPOTENCY_CONFLICT"
        "The idempotency key was already used for a different booking request" 409)
    return .inl existing
  | none => do
    require (¬ (payload.window.stop ≤ payload.window.start ∨ payload.window.start ≤ began))
      (.domainError "INVALID_BOOKING_WINDOW" "Booking window must be in the future" 422)
    let service := (dir.services.get? payload.serviceId).filter Service.isActive
    require (∀ found ∈ service, found.isBookable)
      (.domainError "SERVICE_NOT_BOOKABLE"
        "This service currently supports requests only and cannot be booked" 409)
    let address ← orRaise (dir.addresses.get? payload.addressId) notServiceable
    let area ← orRaise address.serviceAreaId notServiceable
    let zone ← orRaise (dir.zones address.timezoneName)
      (.domainError "ADDRESS_TIMEZONE_INVALID" "Service address timezone is invalid" 422)
    let localStart := zone.toLocal payload.window.start
    let slots ← search dir db now payload.serviceId payload.addressId (dateOf localStart)
      (dateOf localStart)
    require (∃ slot ∈ slots, slot.start = payload.window.start ∧ slot.stop = payload.window.stop)
      (.domainError "SLOT_UNAVAILABLE" "The selected time slot is no longer available" 409)
    require (eligibleProviderHours dir db payload.serviceId address.postalCode
        (weekdayOf localStart) ≠ [])
      (.domainError "SLOT_UNAVAILABLE" "Provider capacity is no longer available" 409)
    let currency ← orRaise (dir.legalEntity area)
      (.domainError "LEGAL_ENTITY_NOT_FOUND" "No legal entity serves this address" 422)
    require service.isSome (.domainError "SERVICE_NOT_FOUND" "Service is not available" 404)
    checkAnswers dir payload
    return .inr { payload, idempotencyKey, requestHash, currency }

/-- What `create` draws: the ids of its new rows and the reference of the booking. -/
structure CreateIds where
  customerId : Uuid
  bookingId : Uuid
  reference : String
  deriving DecidableEq, Repr

/-- The first customer with the email, or a new one without an account. -/
def customerForEmail (db : Db) (input : CustomerInput) (customerId : Uuid) :
    Except Raised (Db × Customer) :=
  let email := lower input.email
  match db.customers.rows.find? (fun customer => customer.email = email) with
  | some customer => return (db, customer)
  | none => do
    let customer : Customer := {
      id := customerId
      userId := none
      firstName := input.firstName
      lastName := input.lastName
      email
      phone := input.phone }
    let db ← db.addCustomer customer
    return (db, customer)

def windowBooking (attempt : CreateAttempt) (customerId : Uuid) (now : Instant)
    (ids : CreateIds) : Booking := {
  id := ids.bookingId
  reference := ids.reference
  idempotencyKey := attempt.idempotencyKey
  idempotencyRequestHash := attempt.requestHash
  customerId
  addressId := attempt.payload.addressId
  serviceId := attempt.payload.serviceId
  providerWorkerId := none
  windowStart := attempt.payload.window.start
  windowEnd := attempt.payload.window.stop
  status := .tentativeHold
  totalAmount := 0
  currency := attempt.currency
  expiresAt := now + ofMinutes 30 }

/-- The rest of `create`. The customer that an address without one gets is left out. -/
def finishCreate (db : Db) (attempt : CreateAttempt) (now : Instant) (ids : CreateIds) :
    Except Raised (Db × Booking) := do
  let (db, customer) ← customerForEmail db attempt.payload.customer ids.customerId
  let booking := windowBooking attempt customer.id now ids
  let db ← db.addBooking booking
  let answers := attempt.payload.answers.map fun answer =>
    { bookingId := booking.id, questionId := answer.questionId
      value := answer.value : BookingAnswer }
  return ({ db with bookingAnswers := db.bookingAnswers ++ answers }, booking)

/-! ## What is counted -/

/-- The workers that the search counts for a window at an address. -/
def slotWorkers (dir : Directory) (db : Db) (now : Instant) (serviceId addressId : Uuid)
    (start stop : Instant) : List Uuid :=
  ((dir.addresses.get? addressId).bind fun address =>
    (dir.zones address.timezoneName).map fun zone =>
      let counted := countedWindows dir db now zone serviceId address.postalCode
        (dateOf (zone.toLocal start))
      (counted.filter fun window => window.start = start && window.stop = stop).map
        WorkerWindow.workerId).getD []

theorem slotsOn_free {dir : Directory} {db : Db} {now : Instant} {zone : Zone} {serviceId : Uuid}
    {postalCode : String} {date : Int} {slot : AvailabilitySlot}
    (h : slot ∈ slotsOn dir db now zone serviceId postalCode date) :
    bookingCount db now serviceId slot.start slot.stop <
      (countedWindows dir db now zone serviceId postalCode date).countP
        fun window => window.start = slot.start && window.stop = slot.stop := by
  obtain ⟨⟨start, stop⟩, _, hslot⟩ := List.mem_filterMap.mp h
  dsimp only at hslot
  split at hslot
  · cases hslot
  · next hremaining =>
    cases hslot
    dsimp only
    omega

/-- A window that was found is booked less often than there are workers for it. -/
theorem beginCreate_free {settings : Settings} {dir : Directory} {db : Db}
    {payload : BookingCreateRequest} {idempotencyKey : String} {began now : Instant}
    {attempt : CreateAttempt}
    (h : beginCreate settings dir db payload idempotencyKey began now = .ok (.inr attempt)) :
    attempt.payload = payload ∧
      bookingCount db now payload.serviceId payload.window.start payload.window.stop <
        (slotWorkers dir db now payload.serviceId payload.addressId payload.window.start
          payload.window.stop).length := by
  unfold beginCreate at h
  dsimp only at h
  split at h
  · simp only [seq_committed, require_committed, return_committed] at h
    obtain ⟨_, _, h⟩ := h
    cases h
  · simp only [search, seq_committed, orRaise_committed, require_committed,
      return_committed, Sum.inr.injEq] at h
    obtain ⟨_, _, _, _, address, haddress, _, _, zone, hzone, slots,
      ⟨address', haddress', _, _, _, _, zone', hzone', rfl⟩, _, ⟨slot, hslot, hstart, hstop⟩, _, _,
      _, _, _, _, _, _, rfl⟩ := h
    rw [haddress] at haddress'
    cases haddress'
    rw [hzone] at hzone'
    cases hzone'
    refine ⟨rfl, ?_⟩
    simp only [sub_self, zero_add, Int.toNat_one, List.range_one, List.flatMap_cons,
      List.flatMap_nil, List.append_nil, Nat.cast_zero, add_zero] at hslot
    have hfree := slotsOn_free hslot
    rw [hstart, hstop] at hfree
    simpa [slotWorkers, haddress, hzone, List.countP_eq_length_filter] using hfree

theorem customerForEmail_ok {db db' : Db} {input : CustomerInput} {customerId : Uuid}
    {customer : Customer} (h : customerForEmail db input customerId = .ok (db', customer)) :
    ∃ customers, db' = { db with customers } := by
  simp only [customerForEmail] at h
  split at h
  · simp only [return_committed, Prod.mk.injEq] at h
    obtain ⟨rfl, _⟩ := h
    exact ⟨db.customers, rfl⟩
  · simp only [seq_committed, return_committed, Prod.mk.injEq] at h
    obtain ⟨_, hadd, rfl, _⟩ := h
    exact Db.addCustomer_ok hadd

/-- The rows that `create` writes are a booking, its answers and maybe its customer. -/
theorem finishCreate_ok {db db' : Db} {attempt : CreateAttempt} {now : Instant} {ids : CreateIds}
    {booking : Booking} (h : finishCreate db attempt now ids = .ok (db', booking)) :
    (∃ customerId, booking = windowBooking attempt customerId now ids) ∧
      db.bookings.insert? booking = some db'.bookings ∧ db'.workers = db.workers ∧
      db'.vendors = db.vendors ∧ db'.jobs = db.jobs ∧ db'.holds = db.holds := by
  simp only [finishCreate, Db.addBooking, seq_committed, require_committed, orRaise_committed,
    return_committed, Prod.exists, Prod.mk.injEq] at h
  obtain ⟨db1, customer, hcustomer, db2, ⟨_, _, _, _, bookings, hinsert, rfl⟩, rfl, rfl⟩ := h
  obtain ⟨customers, rfl⟩ := customerForEmail_ok hcustomer
  exact ⟨⟨customer.id, rfl⟩, hinsert, rfl, rfl, rfl, rfl⟩

end Breero.Bookings
