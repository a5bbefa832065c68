import Breero.Booking.Holds

/-!
`BookingRequestService`. A hold is converted into a booking in two parts, as its
transaction keeps the row of the hold locked between them:

* `beginRequest` locks the hold and checks it;
* `finishRequest` makes the booking, and the transaction commits.
-/

namespace Breero.Bookings
open KeyedTable Transaction

structure BookingRequestCreate where
  holdId : Uuid
  bookingSession : String
  firstName : String
  lastName : String
  email : String
  phone : String
  deriving DecidableEq, Repr

/-- The booking that the hold was already converted into. -/
def convertedBooking (db : Db) (hold : BookingCapacityHold) : Option Booking :=
  if hold.status = .converted then hold.bookingId.bind db.bookings.get? else none

/-- `create` up to its first check: the booking that the hold already has, or the hold to
convert. -/
def beginRequest (settings : Settings) (db : Db) (request : BookingRequestCreate)
    (now : Instant) : Except Raised (Booking ⊕ BookingCapacityHold) := do
  let invalid : Raised :=
    .domainError "HOLD_EXPIRED" "The selected capacity hold is invalid or expired" 409
  let hold ← orRaise (db.holds.get? request.holdId) invalid
  let fingerprint ← ownerFingerprint settings request.bookingSession
  require (hold.ownerFingerprintHash = fingerprint) invalid
  match convertedBooking db hold with
  | some existing => return .inl existing
  | none => do
    require (hold.status = .held ∧ now < hold.expiresAt) invalid
    return .inr hold

/-- `UserRepository.add` -/
def addAccount (db : Db) (user : User) (passwordHash : PasswordHash) : Except Raised Db := do
  passwordHash.sent
  db.addUser user

/-- The account of the email, which must be the caller's, or a new one. `subject` is what
`KeycloakProvisioner` answers, and null where the settings do not ask it. -/
def accountFor (db : Db) (request : BookingRequestCreate) (email : String)
    (authenticatedUser : Option Uuid) (subject : Except Raised (Option String)) (userId : Uuid) :
    Except Raised (Db × User × Bool) := do
  match db.users.rows.find? (fun user => user.email = email) with
  | some user => do
    require (authenticatedUser = some user.id)
      (.domainError "AUTH_REQUIRED" "Sign in to link this request to the existing account" 401)
    return (db, user, false)
  | none => do
    let keycloakSubject ← subject
    let user : User := {
      id := userId
      email
      fullName := strip (request.firstName ++ " " ++ request.lastName)
      phone := some request.phone
      keycloakSubject
      passwordSetRequired := true }
    let db ← addAccount db user unawaitedHash
    return (db, user, true)

/-- The customer's profile of the account, or a new one. -/
def profileFor (db : Db) (request : BookingRequestCreate) (email : String) (user : User)
    (customerId : Uuid) : Except Raised (Db × Customer) :=
  match db.customers.rows.find? (fun customer => customer.userId = some user.id) with
  | some customer => return (db, customer)
  | none => do
    let customer : Customer := {
      id := customerId
      userId := some user.id
      firstName := request.firstName
      lastName := request.lastName
      email
      phone := request.phone }
    let db ← db.addCustomer customer
    return (db, customer)

/-- `timedelta(days=30)` -/
def requestLifetime : Int := 30 * dayLength

def requestedBooking (settings : Settings) (hold : BookingCapacityHold) (customerId : Uuid)
    (currency : String) (now : Instant) (bookingId : Uuid) (reference : String) : Booking := {
  id := bookingId
  reference
  idempotencyKey := "hold:" ++ toString hold.id
  idempotencyRequestHash := settings.sha256 (toString hold.id)
  customerId
  addressId := hold.addressId
  serviceId := hold.serviceId
  providerWorkerId := none
  serviceTimezoneId := hold.timezoneId
  windowStart := hold.slotStartUtc
  windowEnd := hold.slotEndUtc
  status := .pendingManualDispatch
  totalAmount := 0
  currency
  expiresAt := now + requestLifetime }

/-- What `create` draws: the ids of its new rows and the reference of the booking. -/
structure RequestIds where
  userId : Uuid
  customerId : Uuid
  bookingId : Uuid
  reference : String
  deriving DecidableEq, Repr

/-- `create` after its first check, which was made at the time `now`. -/
def finishRequest (settings : Settings) (dir : Directory) (db : Db) (request : BookingRequestCreate)
    (hold : BookingCapacityHold) (now : Instant) (authenticatedUser : Option Uuid)
    (subject : Except Raised (Option String)) (ids : RequestIds) :
    Except Raised (Db × Booking) := do
  let email := lower (strip request.email)
  let (db, user, accountCreated) ←
    accountFor db request email authenticatedUser subject ids.userId
  let (db, customer) ← profileFor db request email user ids.customerId
  let area ← orRaise ((dir.addresses.get? hold.addressId).bind Address.serviceAreaId)
    (.domainError "OUTSIDE_SERVICE_AREA" "Service address is no longer eligible" 422)
  let currency ← orRaise (dir.legalEntity area)
    (.domainError "OUTSIDE_SERVICE_AREA" "Service area has no active legal entity" 422)
  let booking := requestedBooking settings hold customer.id currency now ids.bookingId
    ids.reference
  let db ← db.addBooking booking
  let converted := { hold with
    bookingId := some booking.id, status := .converted, convertedAt := some now }
  return ({ db with holds := db.holds.put converted }.audit {
    actorId := some user.id
    actorType := "customer"
    action := "booking.requested"
    resourceType := "booking"
    resourceId := booking.id
    metadata := [
      ("status", .str BookingStatus.pendingManualDispatch.value),
      ("timezone_id", .str hold.timezoneId),
      ("account_created", .bool accountCreated)]
    createdAt := now }, booking)

/-! ## The rows it writes -/

/-- The accounts that requests are finished for are there already. -/
theorem accountFor_ok {db db' : Db} {request : BookingRequestCreate} {email : String}
    {authenticatedUser : Option Uuid} {subject : Except Raised (Option String)} {userId : Uuid}
    {user : User} {created : Bool} :
    accountFor db request email authenticatedUser subject userId = .ok (db', user, created) ↔
      db.users.rows.find? (fun user => user.email = email) = some user ∧
        authenticatedUser = some user.id ∧ db' = db ∧ created = false := by
  unfold accountFor
  split
  · next found hfind =>
    simp only [hfind, seq_committed, require_committed, return_committed, Prod.mk.injEq,
      Option.some.injEq]
    constructor
    · rintro ⟨_, howner, rfl, rfl, rfl⟩
      exact ⟨rfl, howner, rfl, rfl⟩
    · rintro ⟨rfl, howner, rfl, rfl⟩
      exact ⟨(), howner, rfl, rfl, rfl⟩
  · next hnone =>
    rw [hnone]
    simp only [seq_committed, addAccount, PasswordHash.sent, unawaitedHash, reduceCtorEq,
      false_and, exists_false, and_false]

theorem profileFor_ok {db db' : Db} {request : BookingRequestCreate} {email : String}
    {user : User} {customerId : Uuid} {customer : Customer}
    (h : profileFor db request email user customerId = .ok (db', customer)) :
    ∃ customers, db' = { db with customers } := by
  unfold profileFor at h
  split at h
  · simp only [return_committed, Prod.mk.injEq] at h
    obtain ⟨rfl, _⟩ := h
    exact ⟨db.customers, rfl⟩
  · simp only [seq_committed, return_committed, Prod.mk.injEq] at h
    obtain ⟨_, hadd, rfl, _⟩ := h
    exact Db.addCustomer_ok hadd

/-- A finished request adds one booking in the window of its hold, and converts the hold. -/
theorem finishRequest_ok {settings : Settings} {dir : Directory} {db db' : Db}
    {request : BookingRequestCreate} {hold : BookingCapacityHold} {now : Instant}
    {authenticatedUser : Option Uuid}
    {subject : Except Raised (Option String)} {ids : RequestIds} {booking : Booking}
    (h : finishRequest settings dir db request hold now authenticatedUser subject ids =
      .ok (db', booking)) :
    db'.vendors = db.vendors ∧ db'.workers = db.workers ∧ db'.jobs = db.jobs ∧
      (∃ customerId currency, booking =
        requestedBooking settings hold customerId currency now ids.bookingId ids.reference) ∧
      db.bookings.insert? booking = some db'.bookings ∧
      db'.holds = db.holds.put { hold with
        bookingId := some booking.id, status := .converted, convertedAt := some now } := by
  simp only [finishRequest, Db.addBooking, seq_committed, require_committed, orRaise_committed,
    return_committed, Prod.mk.injEq] at h
  obtain ⟨⟨db1, user, created⟩, haccount, ⟨db2, customer⟩, hprofile, area, _, currency, _,
    db3, ⟨_, _, _, _, bookings, hinsert, rfl⟩, rfl, rfl⟩ := h
  obtain ⟨_, _, rfl, _⟩ := accountFor_ok.mp haccount
  obtain ⟨customers, rfl⟩ := profileFor_ok hprofile
  exact ⟨rfl, rfl, rfl, ⟨customer.id, currency, rfl⟩, hinsert, rfl⟩

end Breero.Bookings
