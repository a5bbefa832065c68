import Breero.Access.Service
import Breero.Lib.Runs

/-!
Logins by Keycloak: `_keycloak_user`, statement by statement, among other logins.

The first login of a subject is matched by its email, and linked to the user with it. Between two
statements of a login the others run theirs, and users are changed in any way: emails are given up
and taken by others.

* `advance` is what the next statement of a login does;
* `identity_stays`: a subject is the same user ever after, and a user the same subject.
-/

namespace Breero.Access
open KeyedTable Transaction Runs

/-! ## Rows -/

structure IdentityLink where
  id : Uuid
  userId : Uuid
  brandKey : String := "breero"
  issuer : String
  subject : String
  email : String
  deriving DecidableEq, Repr

instance : Keyed IdentityLink Uuid := ⟨IdentityLink.id⟩

structure IdentityTables where
  users : Table User := .empty
  links : Table IdentityLink := .empty

/-- The claims of a token that are read; what is missing is empty. -/
structure Claims where
  iss : String
  sub : String
  email : String
  emailVerified : Bool
  /-- `realm_access.roles` -/
  roles : List String
  deriving DecidableEq, Repr

namespace Claims

def normalEmail (claims : Claims) : String := lower (strip claims.email)

def subject (claims : Claims) : String := strip claims.sub

/-- `rstrip("/")` -/
def issuer (claims : Claims) : String :=
  String.ofList ((claims.iss.toList.reverse.dropWhile (· = '/')).reverse)

end Claims

/-! ## Statements -/

def identityBySubject (db : IdentityTables) (issuer subject : String) : Option IdentityLink :=
  db.links.rows.find? fun link =>
    link.brandKey = BRAND_KEY ∧ link.issuer = issuer ∧ link.subject = subject

def identityByUserIssuer (db : IdentityTables) (issuer : String) (userId : Uuid) :
    Option IdentityLink :=
  db.links.rows.find? fun link =>
    link.brandKey = BRAND_KEY ∧ link.issuer = issuer ∧ link.userId = userId

def byEmail (db : IdentityTables) (email : String) : Option User :=
  db.users.rows.find? fun user => user.email = lower email

/-- `add_identity` and the commit, with the constraints of `identity_links`. -/
def addIdentity (db : IdentityTables) (link : IdentityLink) : Except Raised IdentityTables := do
  require (db.users.get? link.userId).isSome (.integrityError "identity_links_user_id_fkey")
  require (∀ other ∈ db.links.rows, ¬ (other.brandKey = link.brandKey ∧
      other.issuer = link.issuer ∧ other.subject = link.subject))
    (.integrityError "uq_identity_link_subject")
  require (∀ other ∈ db.links.rows, ¬ (other.brandKey = link.brandKey ∧
      other.issuer = link.issuer ∧ other.userId = link.userId))
    (.integrityError "uq_identity_link_user_issuer")
  let links ← orRaise (db.links.insert? link) (.integrityError "identity_links_pkey")
  return { db with links }

def newIdentity (claims : Claims) (user : User) (id : Uuid) : IdentityLink := {
  id
  userId := user.id
  issuer := claims.issuer
  subject := claims.subject
  email := claims.normalEmail }

def requiredRole : UserRole → String
  | .customer => "breero_customer"
  | .vendorAdmin => "breero_provider"
  | .technician => "breero_worker"
  | .operations => "breero_dispatcher"
  | .finance => "breero_support"
  | .admin => "breero_admin"

/-- How far a login is. -/
inductive Stage
  | start
  /-- `identity` was found, of the user -/
  | linked (userId : Uuid)
  | unlinked
  /-- the user with the email -/
  | matched (user : User)
  /-- the user has no identity of the issuer -/
  | unclaimed (user : User)
  /-- the identity could not be added -/
  | rolledBack (user : User)
  | resolved (user : User)
  | ended (result : Except Raised User)

/-- The next statement of `_keycloak_user` and of `current_user` after it; `id` is drawn for a
new identity. -/
def advance (db : IdentityTables) (claims : Claims) (id : Uuid) : Stage → IdentityTables × Stage
  | .start =>
    if claims.normalEmail = "" ∨ claims.subject = "" ∨ claims.issuer = "" ∨
        claims.emailVerified = false then
      (db, .ended (.error (.httpException 401 "Verified account required")))
    else
      match identityBySubject db claims.issuer claims.subject with
      | some identity => (db, .linked identity.userId)
      | none => (db, .unlinked)
  | .linked userId =>
    match db.users.get? userId with
    | some user => (db, .resolved user)
    | none => (db, .ended (.error (.httpException 401 "Invalid or inactive account")))
  | .unlinked =>
    match byEmail db claims.normalEmail with
    | some user => (db, .matched user)
    | none => (db, .ended (.error (.httpException 403 "Account is not provisioned")))
  | .matched user =>
    match identityByUserIssuer db claims.issuer user.id with
    | some _ =>
      (db, .ended (.error (.httpException 403 "Identity does not match provisioned account")))
    | none => (db, .unclaimed user)
  | .unclaimed user =>
    match addIdentity db (newIdentity claims user id) with
    | .ok db => (db, .resolved user)
    | .error _ => (db, .rolledBack user)
  | .rolledBack user =>
    match identityBySubject db claims.issuer claims.subject with
    | some identity =>
      if identity.userId = user.id then (db, .resolved user)
      else (db, .ended (.error (.httpException 403 "Identity link conflict")))
    | none => (db, .ended (.error (.httpException 403 "Identity link conflict")))
  | .resolved user =>
    if requiredRole user.role ∉ claims.roles then
      (db, .ended (.error (.httpException 403 "Account role is not authorized")))
    else if user.isActive = false then
      (db, .ended (.error (.httpException 401 "Invalid or inactive account")))
    else (db, .ended (.ok user))
  | .ended result => (db, .ended result)

/-! ## Logins side by side -/

structure Login where
  id : Nat
  claims : Claims
  stage : Stage

instance : Keyed Login Nat := ⟨Login.id⟩

namespace Identities

structure World where
  db : IdentityTables := {}
  logins : Table Login := .empty
  /-- the claims that were accepted, and whose they were found to be -/
  accepted : List (Claims × User) := []

inductive Op
  | begin (login : Nat) (claims : Claims)
  | next (login : Nat) (id : Uuid)
  /-- the users are changed by others -/
  | users (users : Table User)

def nextOf (w : World) (login : Login) (id : Uuid) : World :=
  let (db, stage) := advance w.db login.claims id login.stage
  { db
    logins := w.logins.put { login with stage }
    accepted := match login.stage, stage with
      | .resolved _, .ended (.ok user) => w.accepted ++ [(login.claims, user)]
      | _, _ => w.accepted }

def exec (w : World) : Op → World
  | .begin login claims =>
    match w.logins.insert? { id := login, claims, stage := .start } with
    | some logins => { w with logins }
    | none => w
  | .next login id =>
    match w.logins.get? login with
    | some login => nextOf w login id
    | none => w
  | .users users => { w with db := { w.db with users } }

/-! ## The law -/

/-- Of one issuer, a subject was always the same user, and a user the same subject. -/
def Steady (w : World) : Prop :=
  ∀ a ∈ w.accepted, ∀ b ∈ w.accepted, a.1.issuer = b.1.issuer →
    (a.1.subject = b.1.subject ↔ a.2.id = b.2.id)

instance : DecidablePred Steady := fun w =>
  inferInstanceAs (Decidable (∀ a ∈ w.accepted, ∀ b ∈ w.accepted, a.1.issuer = b.1.issuer →
    (a.1.subject = b.1.subject ↔ a.2.id = b.2.id)))

/-- The identity of the claims is that of the user. -/
def LinkedTo (db : IdentityTables) (claims : Claims) (userId : Uuid) : Prop :=
  ∃ link ∈ db.links.rows, link.brandKey = BRAND_KEY ∧ link.issuer = claims.issuer ∧
    link.subject = claims.subject ∧ link.userId = userId

/-- `uq_identity_link_subject` and `uq_identity_link_user_issuer` -/
structure LinksUnique (db : IdentityTables) : Prop where
  subject : ∀ a ∈ db.links.rows, ∀ b ∈ db.links.rows, a.brandKey = b.brandKey →
    a.issuer = b.issuer → a.subject = b.subject → a = b
  user : ∀ a ∈ db.links.rows, ∀ b ∈ db.links.rows, a.brandKey = b.brandKey →
    a.issuer = b.issuer → a.userId = b.userId → a = b

variable {db db' : IdentityTables} {claims : Claims}

theorem linkedTo_of_subject {link : IdentityLink}
    (h : identityBySubject db claims.issuer claims.subject = some link) :
    LinkedTo db claims link.userId := by
  have hfound := List.find?_some h
  rw [decide_eq_true_eq] at hfound
  exact ⟨link, List.mem_of_find?_eq_some h, hfound.1, hfound.2.1, hfound.2.2, rfl⟩

theorem addIdentity_ok {link : IdentityLink} (h : addIdentity db link = .ok db') :
    (∀ other, other ∈ db'.links.rows ↔ other ∈ db.links.rows ∨ other = link) ∧
      (LinksUnique db → LinksUnique db') := by
  simp only [addIdentity, seq_committed, require_committed, orRaise_committed,
    return_committed] at h
  obtain ⟨_, _, _, hsubject, _, huser, links, hinsert, rfl⟩ := h
  have hmem : ∀ other, other ∈ links.rows ↔ other ∈ db.links.rows ∨ other = link :=
    fun _ => Table.mem_insert hinsert
  refine ⟨hmem, fun hunique => ⟨?_, ?_⟩⟩
  · intro a ha b hb hbrand hissuer hsame
    rcases (hmem a).mp ha with ha | rfl <;> rcases (hmem b).mp hb with hb | rfl
    · exact hunique.subject a ha b hb hbrand hissuer hsame
    · exact absurd ⟨hbrand, hissuer, hsame⟩ (hsubject a ha)
    · exact absurd ⟨hbrand.symm, hissuer.symm, hsame.symm⟩ (hsubject b hb)
    · rfl
  · intro a ha b hb hbrand hissuer hsame
    rcases (hmem a).mp ha with ha | rfl <;> rcases (hmem b).mp hb with hb | rfl
    · exact hunique.user a ha b hb hbrand hissuer hsame
    · exact absurd ⟨hbrand, hissuer, hsame⟩ (huser a ha)
    · exact absurd ⟨hbrand.symm, hissuer.symm, hsame.symm⟩ (huser b hb)
    · rfl

/-- The user of a stage is the one that the claims are linked to. -/
def Stage.Sound (db : IdentityTables) (claims : Claims) : Stage → Prop
  | .linked userId => LinkedTo db claims userId
  | .resolved user => LinkedTo db claims user.id
  | _ => True

theorem LinkedTo.mono {userId : Uuid} (h : LinkedTo db claims userId)
    (hlinks : ∀ link ∈ db.links.rows, link ∈ db'.links.rows) : LinkedTo db' claims userId := by
  obtain ⟨link, hlink, hrest⟩ := h
  exact ⟨link, hlinks link hlink, hrest⟩

theorem Stage.Sound.mono {stage : Stage} (h : Stage.Sound db claims stage)
    (hlinks : ∀ link ∈ db.links.rows, link ∈ db'.links.rows) : Stage.Sound db' claims stage := by
  cases stage with
  | linked userId => exact LinkedTo.mono h hlinks
  | resolved user => exact LinkedTo.mono h hlinks
  | start | unlinked | matched | unclaimed | rolledBack | ended => trivial

/-- What the next statement does to the identities, and where it leads. -/
structure Advanced (db : IdentityTables) (claims : Claims) (stage : Stage) (db' : IdentityTables)
    (stage' : Stage) : Prop where
  kept : ∀ link ∈ db.links.rows, link ∈ db'.links.rows
  unique : LinksUnique db → LinksUnique db'
  sound : Stage.Sound db claims stage → Stage.Sound db' claims stage'
  ended : ∀ user, stage' = .ended (.ok user) → stage = .resolved user ∨ stage = .ended (.ok user)

theorem advanced_of_same {stage stage' : Stage}
    (hsound : Stage.Sound db claims stage → Stage.Sound db claims stage')
    (hended : ∀ user, stage' = .ended (.ok user) →
      stage = .resolved user ∨ stage = .ended (.ok user)) :
    Advanced db claims stage db stage' :=
  ⟨fun _ h => h, fun h => h, hsound, hended⟩

/-- A statement that raises ends the login. -/
theorem advanced_of_error (stage : Stage) (raised : Raised) :
    Advanced db claims stage db (.ended (.error raised)) :=
  advanced_of_same (fun _ => trivial) fun _ h => by cases h

theorem advance_ok (db : IdentityTables) (claims : Claims) (id : Uuid) (stage : Stage) :
    Advanced db claims stage (advance db claims id stage).1 (advance db claims id stage).2 := by
  cases stage with
  | start =>
    simp only [advance]
    split
    · exact advanced_of_error _ _
    · split
      · next identity hfound =>
        exact advanced_of_same (fun _ => linkedTo_of_subject hfound) fun _ h => by cases h
      · exact advanced_of_same (fun _ => trivial) fun _ h => by cases h
  | linked userId =>
    simp only [advance]
    split
    · next user hfound =>
      refine advanced_of_same (fun hlinked => ?_) fun _ h => by cases h
      obtain rfl : user.id = userId := Table.key_of_get? hfound
      exact hlinked
    · exact advanced_of_error _ _
  | unlinked =>
    simp only [advance]
    split
    · exact advanced_of_same (fun _ => trivial) fun _ h => by cases h
    · exact advanced_of_error _ _
  | matched user =>
    simp only [advance]
    split
    · exact advanced_of_error _ _
    · exact advanced_of_same (fun _ => trivial) fun _ h => by cases h
  | unclaimed user =>
    simp only [advance]
    split
    · next db' hadd =>
      obtain ⟨hmem, hunique⟩ := addIdentity_ok hadd
      refine ⟨fun link hlink => (hmem link).mpr (.inl hlink), hunique, fun _ => ?_,
        fun _ h => by cases h⟩
      exact ⟨_, (hmem _).mpr (.inr rfl), rfl, rfl, rfl, rfl⟩
    · exact advanced_of_same (fun _ => trivial) fun _ h => by cases h
  | rolledBack user =>
    simp only [advance]
    split
    · next identity hfound =>
      split
      · next hsame =>
        have hlinked := linkedTo_of_subject hfound
        rw [hsame] at hlinked
        exact advanced_of_same (fun _ => hlinked) fun _ h => by cases h
      · exact advanced_of_error _ _
    · exact advanced_of_error _ _
  | resolved user =>
    simp only [advance]
    split
    · exact advanced_of_error _ _
    · split
      · exact advanced_of_error _ _
      · refine advanced_of_same (fun _ => trivial) fun other h => .inl ?_
        rw [Except.ok.inj (Stage.ended.inj h)]
  | ended result => exact advanced_of_same (fun h => h) fun _ h => .inr h

/-! ## Runs -/

structure IdentityInv (w : World) : Prop where
  unique : LinksUnique w.db
  sound : ∀ login ∈ w.logins.rows, Stage.Sound w.db login.claims login.stage
  accepted : ∀ entry ∈ w.accepted, LinkedTo w.db entry.1 entry.2.id

theorem IdentityInv.next {w : World} (h : IdentityInv w) {login : Login}
    (hlogin : login ∈ w.logins.rows) (id : Uuid) : IdentityInv (nextOf w login id) := by
  have hstep := advance_ok w.db login.claims id login.stage
  have hnow := hstep.sound (h.sound login hlogin)
  refine ⟨hstep.unique h.unique, ?_, ?_⟩
  · intro other hother
    rcases Table.mem_put.mp hother with ⟨rfl, _⟩ | ⟨hother, _⟩
    · exact hnow
    · exact (h.sound other hother).mono hstep.kept
  · have hold : ∀ entry ∈ w.accepted, LinkedTo (nextOf w login id).db entry.1 entry.2.id :=
      fun entry hentry => (h.accepted entry hentry).mono hstep.kept
    intro entry hentry
    simp only [nextOf] at hentry
    split at hentry
    · next user' user hresolved hended =>
      rcases List.mem_append.mp hentry with hentry | hentry
      · exact hold entry hentry
      · obtain rfl := List.mem_singleton.mp hentry
        have hsame : login.stage = .resolved user := by
          rcases hstep.ended user hended with hsame | hsame
          · exact hsame
          · rw [hresolved] at hsame
            cases hsame
        have hlinked := h.sound login hlogin
        rw [hsame] at hlinked
        exact LinkedTo.mono hlinked hstep.kept
    · exact hold entry hentry

theorem IdentityInv.step {w : World} (h : IdentityInv w) (op : Op) : IdentityInv (exec w op) := by
  cases op with
  | begin login claims =>
    simp only [exec]
    split
    · next logins hinsert =>
      refine ⟨h.unique, fun other hother => ?_, h.accepted⟩
      rcases (Table.mem_insert hinsert).mp hother with hother | rfl
      · exact h.sound other hother
      · trivial
    · exact h
  | next login id =>
    simp only [exec]
    split
    · next found hfound => exact h.next (Table.mem_of_get? hfound) id
    · exact h
  | users users => exact ⟨⟨h.unique.subject, h.unique.user⟩, fun login hlogin =>
      (h.sound login hlogin).mono fun _ hlink => hlink, h.accepted⟩

theorem IdentityInv.steady {w : World} (h : IdentityInv w) : Steady w := by
  intro a ha b hb hissuer
  obtain ⟨link, hlink, hbrand, hli, hls, hlu⟩ := h.accepted a ha
  obtain ⟨link', hlink', hbrand', hli', hls', hlu'⟩ := h.accepted b hb
  have hbrands : link.brandKey = link'.brandKey := hbrand.trans hbrand'.symm
  have hissuers : link.issuer = link'.issuer := by rw [hli, hli', hissuer]
  constructor
  · intro hsubject
    have hsame := h.unique.subject link hlink link' hlink' hbrands hissuers
      (by rw [hls, hls', hsubject])
    rw [← hlu, ← hlu', hsame]
  · intro huser
    have hsame := h.unique.user link hlink link' hlink' hbrands hissuers
      (by rw [hlu, hlu', huser])
    rw [← hls, ← hls', hsame]

/-- **A subject stays who it is.** However logins interleave and however the users are changed
between their statements, a subject of the issuer is accepted as one user only, and a user under
one subject only. -/
theorem identity_stays (users : Table User) (ops : List Op) :
    Always exec Steady { db := { users } } ops := by
  have hstart : IdentityInv { db := { users } } :=
    ⟨⟨List.forall_mem_nil _, List.forall_mem_nil _⟩, List.forall_mem_nil _,
      List.forall_mem_nil _⟩
  exact (always_of_inv (P := fun _ _ => True) (fun _ op h _ => h.step op) hstart
    (along_of_forall fun _ _ => trivial)).imp fun _ h => h.steady

end Identities

end Breero.Access
