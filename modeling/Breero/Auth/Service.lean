import Breero.Common.Outbox
import Breero.Lib.Table
import Breero.Lib.Transaction

/-!
The sessions of `AuthService`: log-in, rotation, log-out and changes of the password.

* each function is the part of its operation that reads; `Work` is what it is about to write;
* `Target` are the sessions that a revocation is for, and `revoked` is what its `update` does
  to the rows that it comes to.
-/

namespace Breero.Auth
open KeyedTable Transaction

def REFRESH_TOKEN_TTL_SECONDS : Int := 30 * 24 * 3600

structure User where
  id : Uuid
  email : String
  passwordHash : String
  isActive : Bool := true
  credentialVersion : Nat := 1
  passwordSetRequired : Bool := false
  deriving DecidableEq, Repr

instance : Keyed User Uuid := ⟨User.id⟩

structure Session where
  id : Uuid
  userId : Uuid
  tokenHash : String
  familyId : Uuid
  userAgent : Option String := none
  ipAddress : Option String := none
  expiresAt : Instant
  rotatedAt : Option Instant := none
  revokedAt : Option Instant := none
  deriving DecidableEq, Repr

instance : Keyed Session Uuid := ⟨Session.id⟩

structure PasswordResetToken where
  userId : Uuid
  tokenHash : String
  expiresAt : Instant
  usedAt : Option Instant := none
  deriving DecidableEq, Repr

instance : Keyed PasswordResetToken String := ⟨PasswordResetToken.tokenHash⟩

structure Settings where
  hashToken : String → String := id
  hashPassword : String → String := id
  /-- `PASSWORD_HASH.verify_and_update`, if it does not raise: whether the password is right, and
  a newer hash of it if the encoded one is outdated -/
  verifyAndUpdate : String → String → Option (Bool × Option String) :=
    fun password encoded => some (password = encoded, none)
  verifyLegacyPbkdf2 : String → String → Bool := fun _ _ => false

/-- `_verify_password_and_update` -/
def Settings.verifyPasswordAndUpdate (settings : Settings) (password encoded : String) :
    Bool × Option String :=
  if startsWith encoded "pbkdf2_sha256$" then
    if settings.verifyLegacyPbkdf2 password encoded then
      (true, some (settings.hashPassword password))
    else (false, none)
  else (settings.verifyAndUpdate password encoded).getD (false, none)

def Settings.verifyPassword (settings : Settings) (password encoded : String) : Bool :=
  (settings.verifyPasswordAndUpdate password encoded).1

structure Tables where
  users : Table User := .empty
  sessions : Table Session := .empty
  resetTokens : Table PasswordResetToken := .empty

/-- Who presents a token, and the values that `uuid4` and `new_opaque_token` return. -/
structure Client where
  userAgent : Option String := none
  ip : Option String := none
  id : Uuid
  familyId : Uuid
  token : String
  deriving DecidableEq, Repr

/-- The sessions that a revocation is for. -/
inductive Target
  | family (familyId : Uuid)
  | user (userId : Uuid)
  deriving DecidableEq, Repr

def Target.covers : Target → Session → Bool
  | .family familyId, session => session.familyId = familyId
  | .user userId, session => session.userId = userId

/-- The columns that a change of the password writes. -/
structure PasswordChange where
  userId : Uuid
  passwordHash : String
  credentialVersion : Nat
  passwordSetRequired : Option Bool := none
  resetToken : Option String := none
  deriving DecidableEq, Repr

/-- What a transaction is about to write. -/
inductive Work
  | login (session : Session) (passwordHash : Option String)
  | rotate (old : Session) (now : Instant) (successor : Session)
  | revokeOne (record : Session) (now : Instant)
  /-- `reused` is the row of the token that was presented again -/
  | revoke (target : Target) (now : Instant) (reused : Option Uuid)
    (change : Option PasswordChange)
  deriving DecidableEq, Repr

/-! ## Operations -/

/-- `_tokens` -/
def newSession (settings : Settings) (userId : Uuid) (client : Client)
    (agent ip : Option String) (family : Option Uuid) (now : Instant) : Session := {
  id := client.id
  userId
  tokenHash := settings.hashToken client.token
  familyId := family.getD client.familyId
  userAgent := agent
  ipAddress := ip
  expiresAt := now + REFRESH_TOKEN_TTL_SECONDS * 1000000 }

def byEmail (db : Tables) (email : String) : Option User :=
  db.users.rows.find? fun user => user.email = lower email

def sessionByHash (db : Tables) (tokenHash : String) : Option Session :=
  db.sessions.rows.find? fun session => session.tokenHash = tokenHash

def login (settings : Settings) (db : Tables) (email password : String) (client : Client)
    (now : Instant) : Except Raised Work := do
  let user ← orRaise (byEmail db email) (.httpException 401 "Invalid credentials")
  let (validPassword, updatedPasswordHash) :=
    settings.verifyPasswordAndUpdate password user.passwordHash
  require (validPassword ∧ user.isActive) (.httpException 401 "Invalid credentials")
  return .login (newSession settings user.id client client.userAgent client.ip none now)
    updatedPasswordHash

/-- `a or b` of two texts. -/
def orText (a b : Option String) : Option String := if a.any (· ≠ "") then a else b

def refresh (settings : Settings) (db : Tables) (rawToken : String) (client : Client)
    (now : Instant) : Except Raised Work := do
  let old ← orRaise (sessionByHash db (settings.hashToken rawToken))
    (.httpException 401 "Invalid refresh token")
  if old.revokedAt.isSome ∨ old.rotatedAt.isSome then
    -- the caller is told "Refresh token reuse detected" when this has committed
    return .revoke (.family old.familyId) now (some old.id) none
  else if old.expiresAt ≤ now then
    -- the caller is told "Refresh token expired" when this has committed
    return .revokeOne old now
  else
    let user ← orRaise (db.users.get? old.userId) (.httpException 401 "Invalid refresh token")
    require (user.isActive) (.httpException 401 "Invalid refresh token")
    return .rotate old now (newSession settings user.id client
      (orText client.userAgent old.userAgent) (orText client.ip old.ipAddress)
      (some old.familyId) now)

/-- A session that is unknown or revoked is left as it is, with nothing to commit. -/
def logout (settings : Settings) (db : Tables) (rawToken : String) (now : Instant) :
    Option Work := do
  let record ← sessionByHash db (settings.hashToken rawToken)
  guard (record.revokedAt = none)
  return .revokeOne record now

def logoutAll (userId : Uuid) (now : Instant) : Work := .revoke (.user userId) now none none

/-- `_set_password`, for the user as the request has read it. The other columns are those that
the caller has changed. -/
def setPassword (settings : Settings) (user : User) (password : String) (now : Instant)
    (passwordSetRequired : Option Bool) (resetToken : Option String) : Work :=
  .revoke (.user user.id) now none (some {
    userId := user.id
    passwordHash := settings.hashPassword password
    credentialVersion := user.credentialVersion + 1
    passwordSetRequired
    resetToken })

def changePassword (settings : Settings) (user : User) (current new : String) (now : Instant) :
    Except Raised Work := do
  require (settings.verifyPassword current user.passwordHash)
    (.httpException 400 "Current password is incorrect")
  return setPassword settings user new now none none

def setInitialPassword (settings : Settings) (user : User) (new : String) (now : Instant) :
    Except Raised Work := do
  require (user.passwordSetRequired) (.httpException 409 "Account password is already set")
  return setPassword settings user new now (some false) none

def resetPassword (settings : Settings) (db : Tables) (raw password : String) (now : Instant) :
    Except Raised Work := do
  let token ← orRaise (db.resetTokens.get? (settings.hashToken raw))
    (.httpException 400 "Invalid or expired reset token")
  require (token.usedAt = none ∧ now < token.expiresAt)
    (.httpException 400 "Invalid or expired reset token")
  let user ← orRaise (db.users.get? token.userId)
    (.httpException 400 "Invalid or expired reset token")
  return setPassword settings user password now none (some token.tokenHash)

/-- What `current_user` asks of the user and of the `cv` claim of an access token. -/
def acceptsToken (user : User) (cv : Nat) : Bool := user.isActive ∧ cv = user.credentialVersion

/-! ## Writes -/

def setRotated (t : Table Session) (id : Uuid) (now : Instant) : Table Session :=
  match t.get? id with
  | some session => t.put { session with rotatedAt := some now }
  | none => t

def setRevoked (t : Table Session) (id : Uuid) (now : Instant) : Table Session :=
  match t.get? id with
  | some session => t.put { session with revokedAt := some now }
  | none => t

/-- The rows that the `update` of a revocation has come to. -/
def revoked (t : Table Session) (ids : List Uuid) (now : Instant) : Table Session :=
  t.update (fun session =>
    if session.id ∈ ids then { session with revokedAt := some now } else session) <| by
    intro session
    split <;> rfl

def rehash (users : Table User) (userId : Uuid) (passwordHash : Option String) : Table User :=
  match users.get? userId, passwordHash with
  | some user, some passwordHash => users.put { user with passwordHash }
  | _, _ => users

def PasswordChange.write (change : PasswordChange) (now : Instant) (db : Tables) : Tables := {
  db with
  users :=
    match db.users.get? change.userId with
    | some user => db.users.put { user with
        passwordHash := change.passwordHash
        credentialVersion := change.credentialVersion
        passwordSetRequired := change.passwordSetRequired.getD user.passwordSetRequired }
    | none => db.users
  resetTokens :=
    match change.resetToken.bind db.resetTokens.get? with
    | some token => db.resetTokens.put { token with usedAt := some now }
    | none => db.resetTokens }

end Breero.Auth
