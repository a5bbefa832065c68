import Breero.Access.Service
import Breero.Finance.Service
import Breero.Lib.Runs

/-!
Sign-ins by the callback of Keycloak: `link_identity`, statement by statement, among other sign-ins.

A subject that is new takes the account with its verified email, or has one made, which always
fails, as the hash of its password is not awaited. Between the statements of a sign-in others run
theirs, and accounts are added and changed by everyone else.

* `advance` is what the next statement of a sign-in does;
* `writeColumns` is what the unit of work writes of the account that was read;
* `signIn_entitled`: whoever signs in to an account came to it with its verified email once.
-/

namespace Breero.Access.SignIns
open KeyedTable Transaction Runs
open Finance (written written_loaded)

/-! ## Rows -/

/-- A user, with the columns that `link_identity` reads and writes. -/
structure Account extends User where
  emailVerifiedAt : Option Instant := none
  keycloakSubject : Option String := none
  keycloakIssuer : Option String := none
  keycloakUsername : Option String := none
  keycloakLinkedAt : Option Instant := none
  deriving DecidableEq, Repr

instance : Keyed Account Uuid := ⟨fun account => account.id⟩

/-- `user.keycloak_subject` is not empty. -/
def Account.linked (account : Account) : Bool := account.keycloakSubject.any (· ≠ "")

structure Settings where
  keycloakIssuer : String
  keycloakAudience : String
  keycloakClientId : String

/-- `_issuer` -/
def Settings.issuer (settings : Settings) : String :=
  String.ofList ((settings.keycloakIssuer.toList.reverse.dropWhile (· = '/')).reverse)

/-- The claims of an identity token that are read; what is missing is empty. -/
structure IdToken where
  iss : String
  sub : String
  email : String := ""
  /-- `email_verified` is `True` -/
  emailVerified : Bool := false
  name : String := ""
  preferredUsername : String := ""
  /-- `realm_access.roles` -/
  realmRoles : List String := []
  /-- `resource_access`, by client -/
  clientRoles : List (String × List String) := []
  deriving DecidableEq, Repr

def IdToken.normalEmail (claims : IdToken) : String := lower (strip claims.email)

/-- `text or None` -/
def given (text : String) : Option String := if text = "" then none else some text

/-! ## Roles -/

def ROLE_MAP : List (String × UserRole) := [
  ("breero_admin", .admin),
  ("breero_dispatch", .operations),
  ("breero_support", .finance),
  ("breero_provider_admin", .vendorAdmin),
  ("breero_provider", .technician),
  ("breero_client", .customer)]

def rolesFromClaims (settings : Settings) (claims : IdToken) : List String :=
  claims.realmRoles ++ [settings.keycloakAudience, settings.keycloakClientId].flatMap fun client =>
    (claims.clientRoles.lookup client).getD []

/-- The first role of the map that the claims have. -/
def mappedRole (settings : Settings) (claims : IdToken) : Except Raised UserRole :=
  orRaise ((ROLE_MAP.find? fun entry => entry.1 ∈ rolesFromClaims settings claims).map (·.2))
    (.httpException 403 "A Breero role is required")

/-! ## Statements -/

def byKeycloakSubject (accounts : Table Account) (issuer subject : String) : Option Account :=
  accounts.rows.find? fun account =>
    account.keycloakIssuer = some issuer ∧ account.keycloakSubject = some subject

def byEmail (accounts : Table Account) (email : String) : Option Account :=
  accounts.rows.find? fun account => account.email = lower email

/-- The account as the sign-in leaves it. -/
def linkedAccount (claims : IdToken) (mapped : UserRole) (now : Instant) (account : Account) :
    Account := { account with
  keycloakSubject := some claims.sub
  keycloakIssuer := some claims.iss
  keycloakUsername := given claims.preferredUsername
  keycloakLinkedAt := some (account.keycloakLinkedAt.getD now)
  role := mapped
  isActive := true
  email := if claims.normalEmail = "" then account.email else claims.normalEmail
  emailVerified := claims.emailVerified || account.emailVerified
  emailVerifiedAt :=
    if claims.emailVerified then some (account.emailVerifiedAt.getD now)
    else account.emailVerifiedAt }

def newAccount (claims : IdToken) (mapped : UserRole) (id : Uuid) : Account where
  id
  email := claims.normalEmail
  fullName := (given claims.name).getD ((given claims.preferredUsername).getD claims.normalEmail)
  role := mapped
  emailVerified := claims.emailVerified

/-- The columns of the account that differ from those that were loaded, on the row that is
stored. -/
def writeColumns (loaded new stored : Account) : Account where
  id := stored.id
  email := written loaded.email new.email stored.email
  fullName := stored.fullName
  role := written loaded.role new.role stored.role
  isActive := written loaded.isActive new.isActive stored.isActive
  emailVerified := written loaded.emailVerified new.emailVerified stored.emailVerified
  emailVerifiedAt := written loaded.emailVerifiedAt new.emailVerifiedAt stored.emailVerifiedAt
  keycloakSubject := written loaded.keycloakSubject new.keycloakSubject stored.keycloakSubject
  keycloakIssuer := written loaded.keycloakIssuer new.keycloakIssuer stored.keycloakIssuer
  keycloakUsername := written loaded.keycloakUsername new.keycloakUsername stored.keycloakUsername
  keycloakLinkedAt := written loaded.keycloakLinkedAt new.keycloakLinkedAt stored.keycloakLinkedAt

/-- The unique columns of the row are those of no other account. -/
def unique (accounts : Table Account) (row : Account) : Except Raised Unit := do
  require (∀ other ∈ accounts.rows, other.id ≠ row.id → other.email ≠ row.email)
    (.integrityError "ix_users_email")
  require (∀ other ∈ accounts.rows, other.id ≠ row.id → row.keycloakSubject ≠ none →
      other.keycloakSubject ≠ row.keycloakSubject)
    (.integrityError "ix_users_keycloak_subject")

/-- The `UPDATE` of an account that was read. -/
def saveAccount (accounts : Table Account) (loaded new : Account) :
    Except Raised (Table Account) := do
  let stored ← orRaise (accounts.get? loaded.id) (.other "StaleDataError")
  unique accounts (writeColumns loaded new stored)
  return accounts.put (writeColumns loaded new stored)

/-- `UserRepository.add` -/
def insertAccount (accounts : Table Account) (row : Account) (passwordHash : PasswordHash) :
    Except Raised (Table Account) := do
  passwordHash.sent
  unique accounts row
  orRaise (accounts.insert? row) (.integrityError "users_pkey")

/-- How far a sign-in is. -/
inductive Stage
  | start
  /-- no account has the subject, and the email is verified -/
  | unknown
  /-- the account that the sign-in is of, as it was read -/
  | known (read : Account)
  /-- an account has to be made -/
  | fresh
  | ended (result : Except Raised Account)

/-- The account of the sign-in, written and committed. -/
def linkIdentity (settings : Settings) (accounts : Table Account) (claims : IdToken) (id : Uuid)
    (now : Instant) (read : Option Account) : Except Raised (Table Account × Account) := do
  let mapped ← mappedRole settings claims
  match read with
  | none => do
    require (claims.normalEmail ≠ "" ∧ claims.emailVerified = true)
      (.httpException 403 "A verified email is required")
    let account := linkedAccount claims mapped now (newAccount claims mapped id)
    let accounts ← insertAccount accounts account unawaitedHash
    return (accounts, account)
  | some read => do
    require (read.linked = false ∨ read.keycloakSubject = some claims.sub)
      (.httpException 409 "Identity is already linked")
    let account := linkedAccount claims mapped now read
    let accounts ← saveAccount accounts read account
    return (accounts, account)

def finish (accounts : Table Account) (result : Except Raised (Table Account × Account)) :
    Table Account × Stage :=
  match result with
  | .ok (accounts, account) => (accounts, .ended (.ok account))
  | .error raised => (accounts, .ended (.error raised))

/-- The next statement of `link_identity`, with the commit of `application_session` behind its
last one; `id` is drawn for a new account. -/
def advance (settings : Settings) (accounts : Table Account) (claims : IdToken) (id : Uuid)
    (now : Instant) : Stage → Table Account × Stage
  | .start =>
    match byKeycloakSubject accounts claims.iss claims.sub with
    | some account => (accounts, .known account)
    | none =>
      if claims.normalEmail ≠ "" ∧ claims.emailVerified = true then (accounts, .unknown)
      else (accounts, .fresh)
  | .unknown =>
    match byEmail accounts claims.normalEmail with
    | some account => if account.linked then (accounts, .fresh) else (accounts, .known account)
    | none => (accounts, .fresh)
  | .known read => finish accounts (linkIdentity settings accounts claims id now (some read))
  | .fresh => finish accounts (linkIdentity settings accounts claims id now none)
  | .ended result => (accounts, .ended result)

/-! ## Sign-ins side by side -/

structure SignIn where
  id : Nat
  claims : IdToken
  stage : Stage

instance : Keyed SignIn Nat := ⟨SignIn.id⟩

/-- A sign-in that was committed: the account, and what was read of it; nothing if it was made. -/
structure Entry where
  claims : IdToken
  read : Option Account
  accountId : Uuid

structure World where
  accounts : Table Account := .empty
  signIns : Table SignIn := .empty
  /-- the subjects that accounts were added with by others -/
  provisioned : List (Uuid × String) := []
  entries : List Entry := []

inductive Op
  /-- the callback has a token of the issuer -/
  | begin (signIn : Nat) (claims : IdToken)
  | next (signIn : Nat) (id : Uuid) (now : Instant)
  /-- accounts are added, changed and removed by others -/
  | others (accounts : Table Account)

/-- What was read of the account that a stage ends with. -/
def Stage.read : Stage → Option Account
  | .known read => some read
  | _ => none

def nextOf (settings : Settings) (w : World) (signIn : SignIn) (id : Uuid) (now : Instant) :
    World :=
  let (accounts, stage) := advance settings w.accounts signIn.claims id now signIn.stage
  { w with
    accounts
    signIns := w.signIns.put { signIn with stage }
    entries := match signIn.stage, stage with
      | .ended _, _ => w.entries
      | before, .ended (.ok account) =>
        w.entries ++ [{ claims := signIn.claims, read := before.read, accountId := account.id }]
      | _, _ => w.entries }

/-- The subjects that accounts have. -/
def subjects (accounts : Table Account) : List (Uuid × String) :=
  accounts.rows.filterMap fun account =>
    account.keycloakSubject.map fun subject => (account.id, subject)

/-- Only an account that is new comes with a subject. -/
def keepsSubjects (before after : Table Account) : Prop :=
  ∀ account ∈ after.rows, ∀ old ∈ before.get? account.id,
    account.keycloakSubject = old.keycloakSubject

instance (before after : Table Account) : Decidable (keepsSubjects before after) :=
  inferInstanceAs (Decidable (∀ account ∈ after.rows, ∀ old ∈ before.get? account.id,
    account.keycloakSubject = old.keycloakSubject))

def exec (settings : Settings) (w : World) : Op → World
  | .begin signIn claims =>
    -- `exchange_code` has the token decoded with the issuer
    if claims.iss = settings.issuer then
      match w.signIns.insert? { id := signIn, claims, stage := .start } with
      | some signIns => { w with signIns }
      | none => w
    else w
  | .next signIn id now =>
    match w.signIns.get? signIn with
    | some signIn => nextOf settings w signIn id now
    | none => w
  | .others accounts =>
    if keepsSubjects w.accounts accounts then
      { w with
        accounts
        provisioned := w.provisioned ++
          (subjects accounts).filter fun entry => (w.accounts.get? entry.1).isNone }
    else w

/-! ## The law -/

/-- The subject came with the verified email of the account, which had no subject, or made the
account with it. -/
def Entry.First (entry : Entry) : Prop :=
  entry.claims.emailVerified = true ∧ entry.claims.normalEmail ≠ "" ∧
    ∀ read ∈ entry.read, read.linked = false ∧ read.email = lower entry.claims.normalEmail

/-- The account was added with the subject, or the subject came to it with its email. -/
def Entered (w : World) (accountId : Uuid) (subject : String) : Prop :=
  (accountId, subject) ∈ w.provisioned ∨
    ∃ entry ∈ w.entries, entry.First ∧ entry.accountId = accountId ∧ entry.claims.sub = subject

def Entitled (w : World) : Prop :=
  ∀ entry ∈ w.entries, Entered w entry.accountId entry.claims.sub

variable {settings : Settings} {w w' : World} {accounts accounts' : Table Account}
  {claims : IdToken} {id : Uuid} {now : Instant} {account : Account}

theorem byKeycloakSubject_ok {issuer subject : String}
    (h : byKeycloakSubject accounts issuer subject = some account) :
    account ∈ accounts.rows ∧ account.keycloakSubject = some subject := by
  have hfound := List.find?_some h
  rw [decide_eq_true_eq] at hfound
  exact ⟨List.mem_of_find?_eq_some h, hfound.2⟩

theorem byEmail_ok {email : String} (h : byEmail accounts email = some account) :
    account.email = lower email := by
  simpa using List.find?_some h

/-- A subject that an account has in the table, it had before, or it is that of the sign-in. -/
def SubjectsFrom (before after : Table Account) (accountId : Uuid) (subject : String) : Prop :=
  ∀ row ∈ after.rows, ∀ text, row.keycloakSubject = some text →
    (∃ old ∈ before.rows, old.id = row.id ∧ old.keycloakSubject = some text) ∨
      (row.id = accountId ∧ text = subject)

theorem saveAccount_ok {loaded new : Account} {subject : String}
    (hsubject : new.keycloakSubject = some subject)
    (h : saveAccount accounts loaded new = .ok accounts') :
    SubjectsFrom accounts accounts' loaded.id subject := by
  simp only [saveAccount, seq_committed, orRaise_committed, return_committed] at h
  obtain ⟨stored, hstored, _, _, rfl⟩ := h
  intro row hrow text htext
  rcases Table.mem_put.mp hrow with ⟨rfl, _⟩ | ⟨hold, _⟩
  · simp only [writeColumns, hsubject, written] at htext
    split at htext
    · exact .inl ⟨stored, Table.mem_of_get? hstored, rfl, htext⟩
    · exact .inr ⟨Table.key_of_get? hstored, (Option.some.inj htext).symm⟩
  · exact .inl ⟨row, hold, rfl, htext⟩

theorem linkedAccount_id (claims : IdToken) (mapped : UserRole) (now : Instant)
    (account : Account) : (linkedAccount claims mapped now account).id = account.id := by
  simp only [linkedAccount]

theorem linkedAccount_subject (claims : IdToken) (mapped : UserRole) (now : Instant)
    (account : Account) :
    (linkedAccount claims mapped now account).keycloakSubject = some claims.sub := by
  simp only [linkedAccount]

/-- Only an account that was read is written: one that is new cannot be inserted. -/
theorem linkIdentity_ok {read : Option Account}
    (h : linkIdentity settings accounts claims id now read = .ok (accounts', account)) :
    ∃ old, read = some old ∧ account.id = old.id ∧
      SubjectsFrom accounts accounts' account.id claims.sub := by
  cases read with
  | none =>
    simp only [linkIdentity, insertAccount, PasswordHash.sent, unawaitedHash, seq_committed,
      reduceCtorEq, false_and, and_false, exists_false] at h
  | some read =>
    simp only [linkIdentity, seq_committed, return_committed, Prod.mk.injEq] at h
    obtain ⟨mapped, _, _, _, stored, hsave, rfl, rfl⟩ := h
    have hid := linkedAccount_id claims mapped now read
    refine ⟨read, rfl, hid, ?_⟩
    rw [hid]
    exact saveAccount_ok (linkedAccount_subject _ _ _ _) hsave

/-! ## Runs -/

/-- The history of `w` goes on in `w'`. -/
structure Grown (w w' : World) : Prop where
  provisioned : ∀ pair ∈ w.provisioned, pair ∈ w'.provisioned
  entries : ∀ entry ∈ w.entries, entry ∈ w'.entries

theorem Entered.mono {accountId : Uuid} {subject : String} (h : Entered w accountId subject)
    (hgrown : Grown w w') : Entered w' accountId subject := by
  rcases h with hadded | ⟨entry, hentry, hfirst⟩
  · exact .inl (hgrown.provisioned _ hadded)
  · exact .inr ⟨entry, hgrown.entries _ hentry, hfirst⟩

/-- What is known of a sign-in at its stage. -/
def Stage.Sound (w : World) (claims : IdToken) : Stage → Prop
  | .unknown => claims.emailVerified = true ∧ claims.normalEmail ≠ ""
  | .known read => Entered w read.id claims.sub ∨
      Entry.First { claims, read := some read, accountId := read.id }
  | _ => True

theorem Stage.Sound.mono {stage : Stage} (h : Stage.Sound w claims stage)
    (hgrown : Grown w w') : Stage.Sound w' claims stage := by
  cases stage with
  | unknown => exact h
  | known read => exact h.imp_left fun hentered => hentered.mono hgrown
  | start | fresh | ended => trivial

structure SignInInv (w : World) : Prop where
  subjects : ∀ account ∈ w.accounts.rows, ∀ subject, account.keycloakSubject = some subject →
    Entered w account.id subject
  stages : ∀ signIn ∈ w.signIns.rows, Stage.Sound w signIn.claims signIn.stage
  entitled : Entitled w

theorem SignInInv.put_stage (h : SignInInv w) {signIn : SignIn} (stage : Stage)
    (hgrown : Grown w w') (hstage : Stage.Sound w' signIn.claims stage)
    (hsignIns : w'.signIns = w.signIns.put { signIn with stage }) :
    ∀ other ∈ w'.signIns.rows, Stage.Sound w' other.claims other.stage := by
  intro other hother
  rw [hsignIns] at hother
  rcases Table.mem_put.mp hother with ⟨rfl, _⟩ | ⟨hother, _⟩
  · exact hstage
  · exact (h.stages other hother).mono hgrown

/-- A statement that only reads. -/
theorem SignInInv.moved (h : SignInInv w) {signIn : SignIn} {stage : Stage}
    (hstage : Stage.Sound w signIn.claims stage) :
    SignInInv { w with signIns := w.signIns.put { signIn with stage } } :=
  have hgrown : Grown w { w with signIns := w.signIns.put { signIn with stage } } :=
    ⟨fun _ hp => hp, fun _ he => he⟩
  ⟨h.subjects, h.put_stage stage hgrown (hstage.mono hgrown) rfl, h.entitled⟩

/-- A sign-in that is committed. -/
theorem SignInInv.committed (h : SignInInv w) {signIn : SignIn} {read : Option Account}
    (hentry : Entry.First { claims := signIn.claims, read, accountId := account.id } ∨
      Entered w account.id signIn.claims.sub)
    (hsubjects : SubjectsFrom w.accounts accounts account.id signIn.claims.sub) :
    SignInInv { w with
      accounts
      signIns := w.signIns.put { signIn with stage := .ended (.ok account) }
      entries := w.entries ++ [{ claims := signIn.claims, read, accountId := account.id }] } := by
  have hgrown : Grown w { w with
      accounts
      signIns := w.signIns.put { signIn with stage := .ended (.ok account) }
      entries := w.entries ++ [{ claims := signIn.claims, read, accountId := account.id }] } :=
    ⟨fun _ hp => hp, fun _ he => List.mem_append_left _ he⟩
  have hentered := hentry.elim
    (fun hfirst => Or.inr ⟨_, List.mem_append_right w.entries List.mem_cons_self, hfirst, rfl, rfl⟩)
    fun hentered => Entered.mono hentered hgrown
  refine ⟨?_, h.put_stage (.ended (.ok account)) hgrown trivial rfl, ?_⟩
  · intro row hrow text htext
    rcases hsubjects row hrow text htext with ⟨old, hold, hid, hsubject⟩ | ⟨hid, rfl⟩
    · rw [← hid]
      exact (h.subjects old hold text hsubject).mono hgrown
    · rw [hid]
      exact hentered
  · intro entry hmem
    rcases List.mem_append.mp hmem with hold | hnew
    · exact (h.entitled entry hold).mono hgrown
    · obtain rfl := List.mem_singleton.mp hnew
      exact hentered

theorem nextOf_ended {signIn : SignIn} {result : Except Raised Account}
    (hstage : signIn.stage = .ended result) :
    nextOf settings w signIn id now =
      { w with signIns := w.signIns.put { signIn with stage := .ended result } } := by
  simp only [nextOf, hstage, advance]

theorem nextOf_moved {signIn : SignIn} {stage : Stage}
    (h : advance settings w.accounts signIn.claims id now signIn.stage = (w.accounts, stage))
    (hstage : ∀ account, stage ≠ .ended (.ok account)) :
    nextOf settings w signIn id now =
      { w with signIns := w.signIns.put { signIn with stage } } := by
  simp only [nextOf, h]
  split
  · rfl
  · next account _ => exact absurd rfl (hstage account)
  · rfl

theorem nextOf_committed {signIn : SignIn} (hstage : ∀ result, signIn.stage ≠ .ended result)
    (h : advance settings w.accounts signIn.claims id now signIn.stage =
      (accounts, .ended (.ok account))) :
    nextOf settings w signIn id now = { w with
      accounts
      signIns := w.signIns.put { signIn with stage := .ended (.ok account) }
      entries := w.entries ++
        [{ claims := signIn.claims, read := signIn.stage.read, accountId := account.id }] } := by
  simp only [nextOf, h]

/-- The last statement, of the account that was read or of none. -/
theorem SignInInv.finished (h : SignInInv w) {signIn : SignIn} (read : Option Account)
    (hended : ∀ result, signIn.stage ≠ .ended result) (hread : signIn.stage.read = read)
    (hadvance : advance settings w.accounts signIn.claims id now signIn.stage =
      finish w.accounts (linkIdentity settings w.accounts signIn.claims id now read))
    (hentry : ∀ old ∈ read, Entered w old.id signIn.claims.sub ∨
      Entry.First { claims := signIn.claims, read, accountId := old.id }) :
    SignInInv (nextOf settings w signIn id now) := by
  cases hlink : linkIdentity settings w.accounts signIn.claims id now read with
  | error raised =>
    rw [hlink] at hadvance
    rw [nextOf_moved hadvance fun _ h => by cases h]
    exact h.moved trivial
  | ok linked =>
    obtain ⟨accounts, account⟩ := linked
    rw [hlink] at hadvance
    obtain ⟨old, rfl, hsame, hsubjects⟩ := linkIdentity_ok hlink
    rw [nextOf_committed hended hadvance, hread]
    refine h.committed ?_ hsubjects
    rw [hsame]
    exact (hentry old rfl).symm

theorem SignInInv.next (h : SignInInv w) {signIn : SignIn} (hmem : signIn ∈ w.signIns.rows)
    (id : Uuid) (now : Instant) : SignInInv (nextOf settings w signIn id now) := by
  have hsound := h.stages signIn hmem
  cases hstage : signIn.stage with
  | start =>
    cases hfound : byKeycloakSubject w.accounts signIn.claims.iss signIn.claims.sub with
    | some account =>
      have hadvance : advance settings w.accounts signIn.claims id now signIn.stage =
          (w.accounts, .known account) := by
        simp only [advance, hstage, hfound]
      rw [nextOf_moved hadvance fun _ h => by cases h]
      obtain ⟨hrow, hsubject⟩ := byKeycloakSubject_ok hfound
      exact h.moved (.inl (h.subjects account hrow _ hsubject))
    | none =>
      by_cases hverified : signIn.claims.normalEmail ≠ "" ∧ signIn.claims.emailVerified = true
      · have hadvance : advance settings w.accounts signIn.claims id now signIn.stage =
            (w.accounts, .unknown) := by
          simp only [advance, hstage, hfound, if_pos hverified]
        rw [nextOf_moved hadvance fun _ h => by cases h]
        exact h.moved ⟨hverified.2, hverified.1⟩
      · have hadvance : advance settings w.accounts signIn.claims id now signIn.stage =
            (w.accounts, .fresh) := by
          simp only [advance, hstage, hfound, if_neg hverified]
        rw [nextOf_moved hadvance fun _ h => by cases h]
        exact h.moved trivial
  | unknown =>
    rw [hstage] at hsound
    have hfresh (hadvance : advance settings w.accounts signIn.claims id now signIn.stage =
        (w.accounts, .fresh)) : SignInInv (nextOf settings w signIn id now) := by
      rw [nextOf_moved hadvance fun _ h => by cases h]
      exact h.moved trivial
    cases hfound : byEmail w.accounts signIn.claims.normalEmail with
    | none => exact hfresh (by simp only [advance, hstage, hfound])
    | some account =>
      cases hlinked : account.linked with
      | true => exact hfresh (by simp only [advance, hstage, hfound, hlinked, if_true])
      | false =>
        have hadvance : advance settings w.accounts signIn.claims id now signIn.stage =
            (w.accounts, .known account) := by
          simp only [advance, hstage, hfound, hlinked, Bool.false_eq_true, if_false]
        rw [nextOf_moved hadvance fun _ h => by cases h]
        refine h.moved (.inr ⟨hsound.1, hsound.2, fun read hread => ?_⟩)
        obtain rfl := Option.mem_some.mp hread
        exact ⟨hlinked, byEmail_ok hfound⟩
  | known read =>
    rw [hstage] at hsound
    refine h.finished (some read) (fun _ h => by rw [hstage] at h; cases h)
      (by rw [hstage]; rfl) (by simp only [advance, hstage]) fun old hold => ?_
    obtain rfl := Option.mem_some.mp hold
    exact hsound
  | fresh =>
    exact h.finished none (fun _ h => by rw [hstage] at h; cases h)
      (by rw [hstage]; rfl) (by simp only [advance, hstage])
      fun old hnone => absurd hnone (Option.not_mem_none old)
  | ended result =>
    rw [nextOf_ended hstage]
    exact h.moved trivial

theorem mem_subjects {pair : Uuid × String} :
    pair ∈ subjects accounts ↔
      ∃ account ∈ accounts.rows, account.id = pair.1 ∧ account.keycloakSubject = some pair.2 := by
  obtain ⟨accountId, subject⟩ := pair
  simp [subjects, and_comm]

theorem SignInInv.step (h : SignInInv w) (op : Op) : SignInInv (exec settings w op) := by
  cases op with
  | begin signIn claims =>
    simp only [exec]
    split
    · split
      · next signIns hinsert =>
        refine ⟨h.subjects, fun other hother => ?_, h.entitled⟩
        rcases (Table.mem_insert hinsert).mp hother with hother | rfl
        · exact (h.stages other hother).mono ⟨fun _ hp => hp, fun _ he => he⟩
        · trivial
      · exact h
    · exact h
  | next signIn id now =>
    simp only [exec]
    split
    · next found hfound => exact h.next (Table.mem_of_get? hfound) id now
    · exact h
  | others accounts =>
    simp only [exec]
    split
    · next hkeeps =>
      have hgrown : Grown w { w with
          accounts
          provisioned := w.provisioned ++
            (SignIns.subjects accounts).filter fun entry =>
              (w.accounts.get? entry.1).isNone } :=
        ⟨fun _ hp => List.mem_append_left _ hp, fun _ he => he⟩
      refine ⟨?_, fun other hother => (h.stages other hother).mono hgrown,
        fun entry hentry => (h.entitled entry hentry).mono hgrown⟩
      intro account haccount subject hsubject
      cases hold : w.accounts.get? account.id with
      | none =>
        refine .inl (List.mem_append_right _ (List.mem_filter.mpr ⟨?_, by rw [hold]; rfl⟩))
        exact mem_subjects.mpr ⟨account, haccount, rfl, hsubject⟩
      | some old =>
        have hentered := h.subjects old (Table.mem_of_get? hold) subject
          ((hkeeps account haccount old hold).symm.trans hsubject)
        rw [show old.id = account.id from Table.key_of_get? hold] at hentered
        exact hentered.mono hgrown
    · exact h

/-- **Nobody takes an account over.** However sign-ins interleave and accounts are changed between
their statements, every sign-in is to an account that was added with its subject, or that its
subject came to, once, with the verified email that the account had. -/
theorem signIn_entitled (settings : Settings) (accounts : Table Account) (ops : List Op) :
    Always (exec settings) Entitled { accounts, provisioned := subjects accounts } ops := by
  have hstart : SignInInv { accounts, provisioned := subjects accounts } :=
    ⟨fun account haccount subject hsubject =>
        .inl (mem_subjects.mpr ⟨account, haccount, rfl, hsubject⟩),
      List.forall_mem_nil _, List.forall_mem_nil _⟩
  exact (always_of_inv (P := fun _ _ => True) (fun _ op h _ => h.step op) hstart
    (along_of_forall fun _ _ => trivial)).imp fun _ h => h.entitled

/-- A customer who registered with a password signs in by Keycloak, and takes the account. -/
example :
    let settings : Settings := { keycloakIssuer := "id", keycloakAudience := "api",
                                 keycloakClientId := "web" }
    let accounts : Table Account :=
      ⟨[{ id := 1, email := "ada@example.com", fullName := "Ada", role := .customer }], by decide⟩
    let claims : IdToken := { iss := "id", sub := "ada", email := "Ada@example.com",
                              emailVerified := true, realmRoles := ["breero_client"] }
    (run (exec settings) { accounts, provisioned := subjects accounts }
      [.begin 0 claims, .next 0 2 5, .next 0 2 6, .next 0 2 7]).entries.map
        (·.accountId) = [1] := by
  decide

end Breero.Access.SignIns
