import Breero.Addresses.System
import Breero.Common.Unicode
import Breero.Lib.Text

/-!
The accounts of clients and providers: `AuthService.register`, `register_provider`,
`resend_verification` and `verify_email`, among the bookings of guests.

The rows that the calls write and that nothing reads here are left out: the sessions, the
tokens for phones, the audit logs and events, and what a provider offers and where.
-/

namespace Breero.Accounts
open KeyedTable Transaction Bookings

/-! ## Rows -/

inductive UserRole
  | customer
  | vendorAdmin
  deriving DecidableEq, Repr

/-- The columns of a user that the other services do not read. -/
structure Account where
  userId : Uuid
  role : UserRole
  emailVerified : Bool := false
  emailVerifiedAt : Option Instant := none
  deriving DecidableEq, Repr

instance : Keyed Account Uuid := ⟨Account.userId⟩

/-- A row of `email_verification_tokens`. -/
structure IssuedToken where
  tokenHash : String
  token : Addresses.EmailVerificationToken
  deriving DecidableEq, Repr

instance : Keyed IssuedToken String := ⟨IssuedToken.tokenHash⟩

structure World where
  /-- the bookings, the users, the customers and the clock -/
  base : Addresses.World
  accounts : Table Account := .empty
  tokens : Table IssuedToken := .empty
  vendorEmails : List String := []

/-! ## Clients -/

/-- `timedelta(hours=24)` -/
def verificationLifetime : Int := ofMinutes (24 * 60)

/-- `_issue_verification`, of a token with the hash. -/
def issueVerification (tokens : Table IssuedToken) (userId : Uuid) (now : Instant)
    (tokenHash : String) : Except Raised (Table IssuedToken) :=
  orRaise
    (tokens.insert? {
      tokenHash, token := { userId, expiresAt := now + verificationLifetime } })
    (.integrityError "ix_email_verification_tokens_token_hash")

/-- What a registration draws: the ids of its rows and its token. -/
structure ClientIds where
  userId : Uuid
  customerId : Uuid
  tokenHash : String
  deriving DecidableEq, Repr

def register (w : World) (data : Addresses.RegisterRequest) (ids : ClientIds) :
    Except Raised World := do
  let (db, owners) ← Addresses.register w.base.db w.base.owners data ids.userId ids.customerId
  let registered : Except Raised World := do
    let accounts ← orRaise (w.accounts.insert? { userId := ids.userId, role := .customer })
      (.integrityError "users_pkey")
    let tokens ← issueVerification w.tokens ids.userId w.base.clock ids.tokenHash
    return { w with base := { w.base with db, owners }, accounts, tokens }
  registered.mapError fun
    | .integrityError _ => Addresses.alreadyRegistered
    | raised => raised

/-! ## Providers -/

def US_STATES_AND_DC : List String :=
  ["AL", "AK", "AZ", "AR", "CA", "CO", "CT", "DE", "DC", "FL", "GA", "HI",
    "ID", "IL", "IN", "IA", "KS", "KY", "LA", "ME", "MD", "MA", "MI", "MN",
    "MS", "MO", "MT", "NE", "NV", "NH", "NJ", "NM", "NY", "NC", "ND", "OH",
    "OK", "OR", "PA", "RI", "SC", "SD", "TN", "TX", "UT", "VT", "VA", "WA",
    "WV", "WI", "WY"]

structure ProviderRegisterRequest where
  email : String
  contactName : String
  phone : String
  state : String
  timezoneId : String
  serviceSlugs : List String
  servicePostalCodes : List String
  deriving DecidableEq, Repr

structure ProviderIds where
  userId : Uuid
  vendorId : Uuid
  workerId : Uuid
  tokenHash : String
  deriving DecidableEq, Repr

/-- `postal.split("-", 1)[0]` -/
def beforeHyphen (postal : String) : String :=
  String.ofList (Text.splitOnce '-' postal.toList).1

/-- What `register_provider` checks before it writes. `activeSlugs` are the slugs of the
services that are active. -/
def checkProvider (zones : Zones) (activeSlugs : List String) (w : World)
    (data : ProviderRegisterRequest) : Except Raised Unit := do
  require (upper (strip data.state) ∈ US_STATES_AND_DC)
    (.httpException 422 "A valid U.S. state or DC is required")
  let _ ← timezone zones data.timezoneId
  require (∀ postal ∈ data.servicePostalCodes.map beforeHyphen,
      postal.length = 5 ∧ postal.toList.all isDigit)
    (.httpException 422 "Service ZIP codes must contain five digits")
  require (∀ slug ∈ data.serviceSlugs, slug ∈ activeSlugs)
    (.httpException 422 "Provider services must use active BREERO catalog entries")
  require (∀ user ∈ w.base.db.users.rows, user.email ≠ lower (strip data.email))
    (.httpException 409 "Account already registered")

def providerUser (data : ProviderRegisterRequest) (userId : Uuid) : User := {
  id := userId
  email := lower (strip data.email)
  fullName := strip data.contactName
  phone := some data.phone }

/-- The user, the vendor and the worker of a provider. -/
def addProvider (w : World) (data : ProviderRegisterRequest) (ids : ProviderIds) :
    Except Raised World := do
  let user := providerUser data ids.userId
  let db ← w.base.db.addUser user
  let accounts ← orRaise (w.accounts.insert? { userId := ids.userId, role := .vendorAdmin })
    (.integrityError "users_pkey")
  require (user.email ∉ w.vendorEmails) (.integrityError "vendors_email_key")
  let vendors ← orRaise (db.vendors.insert? {
      id := ids.vendorId, status := .pending
      capabilities := data.serviceSlugs.dedup.mergeSort (fun slug other => slug ≤ other) })
    (.integrityError "vendors_pkey")
  let _ ← orRaise (Addresses.nameParts (strip data.contactName)) (.other "IndexError")
  let workers ← orRaise (db.workers.insert? {
      id := ids.workerId, vendorId := ids.vendorId, status := .invited, available := false })
    (.integrityError "workers_pkey")
  let tokens ← issueVerification w.tokens ids.userId w.base.clock ids.tokenHash
  return { w with
    base := { w.base with db := { db with vendors, workers } }
    accounts, tokens, vendorEmails := user.email :: w.vendorEmails }

def registerProvider (zones : Zones) (activeSlugs : List String) (w : World)
    (data : ProviderRegisterRequest) (ids : ProviderIds) : Except Raised World := do
  checkProvider zones activeSlugs w data
  (addProvider w data ids).mapError fun
    | .integrityError _ => .httpException 409 "Account or provider already registered"
    | raised => raised

/-! ## Verification -/

/-- `resend_verification`, for the user who is signed in. -/
def resendVerification (w : World) (userId : Uuid) (tokenHash : String) :
    Except Raised World := do
  let account ← orRaise (w.accounts.get? userId) (.httpException 401 "Invalid or inactive account")
  if account.emailVerified then
    return w
  else
    let tokens ← issueVerification w.tokens userId w.base.clock tokenHash
    return { w with tokens }

/-- The email of the user is verified. -/
def Account.verifiedAt (userId : Uuid) (now : Instant) (account : Account) : Account :=
  if account.userId = userId then
    { account with emailVerified := true, emailVerifiedAt := some now }
  else account

theorem Account.key_verifiedAt (userId : Uuid) (now : Instant) (account : Account) :
    key (account.verifiedAt userId now) = key account := by
  unfold Account.verifiedAt
  split <;> rfl

/-- `verify_email`, of the token with the hash. -/
def verifyEmail (w : World) (tokenHash : String) (customerId : Uuid) : Except Raised World := do
  let issued ← orRaise (w.tokens.get? tokenHash)
    (.httpException 400 "Invalid or expired verification token")
  let (db, owners) ← Addresses.verifyEmail w.base.db w.base.owners (some issued.token)
    w.base.clock customerId
  let used := { issued with token := { issued.token with usedAt := some w.base.clock } }
  return { w with
    base := { w.base with db, owners }
    tokens := w.tokens.put used
    accounts := w.accounts.update (Account.verifiedAt issued.token.userId w.base.clock)
      (Account.key_verifiedAt issued.token.userId w.base.clock) }

/-! ## The system -/

/-- A call of somebody who is not signed in, and what surrounds it. -/
def OfGuest : Addresses.Op → Bool
  | .register .. | .verify .. => false
  | .finishRequest _ authenticatedUser _ _ => authenticatedUser.isNone
  | _ => true

inductive Op
  | register (data : Addresses.RegisterRequest) (ids : ClientIds)
  | registerProvider (data : ProviderRegisterRequest) (ids : ProviderIds)
  | resendVerification (userId : Uuid) (tokenHash : String)
  | verifyEmail (tokenHash : String) (customerId : Uuid)
  | booking (op : { op : Addresses.Op // OfGuest op })

def World.commit (w : World) (r : Except Raised World) : World := r.toOption.getD w

def exec (settings : Settings) (dir : Directory) (activeSlugs : List String) (w : World) :
    Op → World
  | .register data ids => w.commit (register w data ids)
  | .registerProvider data ids => w.commit (registerProvider dir.zones activeSlugs w data ids)
  | .resendVerification userId tokenHash => w.commit (resendVerification w userId tokenHash)
  | .verifyEmail tokenHash customerId => w.commit (verifyEmail w tokenHash customerId)
  | .booking op => { w with base := Addresses.exec settings dir w.base op.val }

end Breero.Accounts
