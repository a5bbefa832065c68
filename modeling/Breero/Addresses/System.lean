import Breero.Lib.Runs
import Breero.Booking.Availability
import Breero.Booking.PublicSearch
import Breero.Booking.Requests

/-!
`Address.customer_id`, and the calls that write it: `BookingService.create`,
`BookingRequestService.create`, and `AuthService.register` and `verify_email` through
`_link_customer`.

A call that books has read the row of its address some time before it commits, and decides by
what it has read. `_link_customer` is one `UPDATE`, which decides by the rows that it locks.
-/

namespace Breero.Addresses
open KeyedTable Transaction Runs Bookings

/-- `customer_id` of each address. -/
abbrev Owners := Uuid → Option Uuid

/-- `UPDATE addresses SET customer_id = ... WHERE id = ...`. -/
def setOwner (owners : Owners) (addressId customerId : Uuid) : Owners :=
  fun id => if id = addressId then some customerId else owners id

/-! ## Bookings -/

/-- The rest of `BookingService.create` with its write of the address, whose owner was `read`. -/
def create (settings : Settings) (dir : Directory) (db : Db) (owners : Owners)
    (payload : BookingCreateRequest) (idempotencyKey : String) (began now : Instant)
    (read : Option Uuid) (ids : CreateIds) : Except Raised (Db × Owners) := do
  match ← beginCreate settings dir db payload idempotencyKey began now with
  | .inl _ => return (db, owners)
  | .inr attempt =>
    let (db, booking) ← finishCreate db attempt now ids
    let registered := (db.customers.get? booking.customerId).bind Customer.userId
    if registered.isSome ∧ read = none then
      return (db, setOwner owners booking.addressId booking.customerId)
    else
      return (db, owners)

/-- The rest of `BookingRequestService.create` with its write of the address, which is sent only
if it changes what was `read`. -/
def request (settings : Settings) (dir : Directory) (db : Db) (owners : Owners)
    (data : BookingRequestCreate) (hold : BookingCapacityHold) (now : Instant)
    (read : Option Uuid) (authenticatedUser : Option Uuid)
    (subject : Except Raised (Option String)) (ids : RequestIds) :
    Except Raised (Db × Owners) := do
  let (db, booking) ← finishRequest settings dir db data hold now authenticatedUser subject ids
  if read = some booking.customerId then
    return (db, owners)
  else
    return (db, setOwner owners booking.addressId booking.customerId)

/-! ## Accounts -/

/-- `full_name.split(maxsplit=1)`. -/
def nameParts (fullName : String) : Option (String × String) :=
  let inName := fun c => !isSpace c
  let name := fullName.toList.dropWhile isSpace
  if name = [] then none
  else some (String.ofList (name.takeWhile inName),
    String.ofList ((name.dropWhile inName).dropWhile isSpace))

/-- The guest with the email of the account, or null. -/
def guestOf (db : Db) (email : String) : Option Customer :=
  db.customers.rows.find? fun customer => customer.email = email && customer.userId.isNone

/-- The profile that `_link_customer` gives to the account. -/
def linkedProfile (db : Db) (user : User) (customerId : Uuid) : Except Raised (Db × Customer) :=
  match guestOf db user.email with
  | some guest => do
    require (∀ other ∈ db.customers.rows, other.userId ≠ some user.id)
      (.integrityError "customers_user_id_key")
    let customer := { guest with userId := some user.id }
    return ({ db with customers := db.customers.put customer }, customer)
  | none => do
    let (firstName, lastName) ← orRaise (nameParts user.fullName) (.other "IndexError")
    let customer : Customer := {
      id := customerId, userId := some user.id, firstName, lastName, email := user.email
      phone := "" }
    let db ← db.addCustomer customer
    return (db, customer)

/-- The customer has booked a visit at the address. -/
def HasBooked (db : Db) (customerId addressId : Uuid) : Prop :=
  ∃ booking ∈ db.bookings.rows, booking.customerId = customerId ∧ booking.addressId = addressId

instance (db : Db) (customerId addressId : Uuid) : Decidable (HasBooked db customerId addressId) :=
  inferInstanceAs (Decidable (∃ booking ∈ db.bookings.rows, _))

/-- The addresses that the customer has booked at and nobody has, given to the customer. -/
def claimBooked (db : Db) (owners : Owners) (customerId : Uuid) : Owners :=
  fun id => if owners id = none ∧ HasBooked db customerId id then some customerId else owners id

def linkCustomer (db : Db) (owners : Owners) (user : User) (customerId : Uuid) :
    Except Raised (Db × Owners) := do
  let (db, customer) ← linkedProfile db user customerId
  return (db, claimBooked db owners customer.id)

structure RegisterRequest where
  email : String
  fullName : String
  phone : Option String
  deriving DecidableEq, Repr

def alreadyRegistered : Raised := .httpException 409 "Email already registered"

/-- `register`; of its other rows none is about addresses. An `IntegrityError` of any of its
writes is answered as an email that is taken. -/
def register (db : Db) (owners : Owners) (data : RegisterRequest) (userId customerId : Uuid) :
    Except Raised (Db × Owners) := do
  let email := lower data.email
  require (∀ user ∈ db.users.rows, user.email ≠ email) alreadyRegistered
  let user : User := { id := userId, email, fullName := strip data.fullName, phone := data.phone }
  let linked := do
    let db ← db.addUser user
    linkCustomer db owners user customerId
  linked.mapError fun
    | .integrityError _ => alreadyRegistered
    | raised => raised

structure EmailVerificationToken where
  userId : Uuid
  expiresAt : Instant
  usedAt : Option Instant := none
  deriving DecidableEq, Repr

/-- `verify_email`, from the token that its hash finds. -/
def verifyEmail (db : Db) (owners : Owners) (token : Option EmailVerificationToken)
    (now : Instant) (customerId : Uuid) : Except Raised (Db × Owners) := do
  let invalid : Raised := .httpException 400 "Invalid or expired verification token"
  let token ← orRaise token invalid
  require (token.usedAt = none ∧ now < token.expiresAt) invalid
  let user ← orRaise (db.users.get? token.userId) invalid
  linkCustomer db owners user customerId

/-! ## The system -/

/-- A `BookingService.create` that has the lock of its key and has read its address. -/
structure OpenCreate where
  payload : BookingCreateRequest
  idempotencyKey : String
  began : Instant
  read : Option Uuid
  deriving DecidableEq, Repr

/-- A `BookingRequestService.create` that has the row of its hold locked. -/
structure OpenRequest where
  data : BookingRequestCreate
  hold : BookingCapacityHold
  checkedAt : Instant
  read : Option (Option Uuid) := none
  deriving DecidableEq, Repr

structure World where
  db : Db
  clock : Instant
  owners : Owners := fun _ => none
  creates : List OpenCreate := []
  requests : List OpenRequest := []

inductive Op
  | tick (elapsed : Nat)
  | createHold (request : HoldRequest) (holdId : Uuid)
  | create (payload : BookingCreateRequest) (idempotencyKey : String)
  /-- the open `create` at the position commits, or raises -/
  | finishCreate (position : Nat) (ids : CreateIds)
  | request (data : BookingRequestCreate)
  /-- the open request at the position reads its address -/
  | readAddress (position : Nat)
  | finishRequest (position : Nat) (authenticatedUser : Option Uuid)
      (subject : Except Raised (Option String)) (ids : RequestIds)
  | register (data : RegisterRequest) (userId customerId : Uuid)
  | verify (token : Option EmailVerificationToken) (customerId : Uuid)
  /-- the connection of an open call is lost -/
  | loseCreate (position : Nat)
  | loseRequest (position : Nat)

def World.commit (w : World) (r : Except Raised (Db × Owners)) : World :=
  match r with
  | .ok (db, owners) => { w with db, owners }
  | .error _ => w

def exec (settings : Settings) (dir : Directory) (w : World) : Op → World
  | .tick elapsed => { w with clock := w.clock + elapsed }
  | .createHold request holdId =>
    { w with db := Transaction.commit w.db (createAt settings dir w.db request w.clock holdId) }
  | .create payload idempotencyKey =>
    if ∀ call ∈ w.creates, call.idempotencyKey ≠ idempotencyKey then
      { w with creates := w.creates ++ [{
          payload, idempotencyKey, began := w.clock, read := w.owners payload.addressId }] }
    else w
  | .finishCreate position ids =>
    match w.creates[position]? with
    | some call =>
      { w with creates := w.creates.eraseIdx position }.commit
        (create settings dir w.db w.owners call.payload call.idempotencyKey call.began w.clock
          call.read ids)
    | none => w
  | .request data =>
    match beginRequest settings w.db data w.clock with
    | .ok (.inr hold) =>
      if ∀ call ∈ w.requests, call.hold.id ≠ hold.id then
        { w with requests := w.requests ++ [{ data, hold, checkedAt := w.clock }] }
      else w
    | _ => w
  | .readAddress position =>
    match w.requests[position]? with
    | some call =>
      { w with
        requests := w.requests.set position
          { call with read := some (w.owners call.hold.addressId) } }
    | none => w
  | .finishRequest position authenticatedUser subject ids =>
    match w.requests[position]? with
    | some call =>
      match call.read with
      | some read =>
        { w with requests := w.requests.eraseIdx position }.commit
          (request settings dir w.db w.owners call.data call.hold call.checkedAt read
            authenticatedUser subject ids)
      | none => w
    | none => w
  | .register data userId customerId =>
    w.commit (register w.db w.owners data userId customerId)
  | .verify token customerId => w.commit (verifyEmail w.db w.owners token w.clock customerId)
  | .loseCreate position => { w with creates := w.creates.eraseIdx position }
  | .loseRequest position => { w with requests := w.requests.eraseIdx position }

end Breero.Addresses
