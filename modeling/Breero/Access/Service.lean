import Breero.Auth.Permissions
import Breero.Common.Outbox
import Breero.Lib.Transaction
import Mathlib.Data.List.Sort

/-!
The access of users to the portals: `AccessService`, the dependencies that ask it, the
endpoint that replaces the assignments of a user, and the provisioning of internal accounts.

* `context` is what a user may do in a brand;
* `replaceAssignments` is one transaction, as it locks the row of the user first;
* `requireRoles` and `requirePermissions` let a user pass or raise.
-/

namespace Breero.Access
open KeyedTable Transaction Auth

inductive UserRole
  | customer
  | vendorAdmin
  | technician
  | operations
  | finance
  | admin
  deriving DecidableEq, Repr

inductive Department
  | customer
  | provider
  | fieldService
  | dispatch
  | customerSupport
  | vendorSuccess
  | finance
  | quality
  | trustSafety
  | sales
  | marketing
  | administration
  deriving DecidableEq, Repr

inductive TenantScope
  | global
  | brand
  | vendor
  deriving DecidableEq, Repr

/-! ## Rows -/

structure User where
  id : Uuid
  email : String
  fullName : String
  role : UserRole
  isActive : Bool := true
  emailVerified : Bool := false
  deriving DecidableEq, Repr

instance : Keyed User Uuid := ⟨User.id⟩

/-- `uq_access_profile_user_brand` is its key. -/
structure AccessProfile where
  userId : Uuid
  brandKey : String
  deriving DecidableEq, Repr

instance : Keyed AccessProfile (Uuid × String) :=
  ⟨fun profile => (profile.userId, profile.brandKey)⟩

structure AccessAssignment where
  id : Uuid
  userId : Uuid
  brandKey : String
  roleKey : AccessRole
  department : Department
  tenantScope : TenantScope
  vendorId : Option Uuid
  active : Bool := true
  isPrimary : Bool := false
  createdAt : Instant
  deriving DecidableEq, Repr

instance : Keyed AccessAssignment Uuid := ⟨AccessAssignment.id⟩

structure AccountInvitationToken where
  userId : Uuid
  tokenHash : String
  expiresAt : Instant
  createdBy : Uuid
  deriving DecidableEq, Repr

structure Tables extends PermissionTables where
  users : Table User := .empty
  profiles : Table AccessProfile := .empty
  assignments : Table AccessAssignment := .empty
  vendors : List Uuid := []
  invitations : List AccountInvitationToken := []
  events : List IntegrationEvent := []
  audits : List AuditLog := []

/-- The order in which a query returns rows, where it asks for none. -/
structure RowOrder (α : Type) where
  list : List α → List α
  perm : ∀ rows, (list rows).Perm rows

structure Env where
  assignments : RowOrder AccessAssignment
  rolePermissions : RowOrder RolePermission
  userPermissions : RowOrder UserPermission
  keycloakEnabled : Bool
  /-- email is enabled, live and not disabled -/
  emailDeliverable : Bool
  hashToken : String → String

/-! ## The context of a user -/

def BRAND_KEY : String := "breero"

def NO_ACCESS_DASHBOARD : String := "/access-denied"

def DEFAULT_ACCESS : UserRole → AccessRole × Department × TenantScope
  | .customer => (.customer, .customer, .brand)
  | .vendorAdmin => (.vendorAdmin, .provider, .brand)
  | .technician => (.technician, .fieldService, .brand)
  | .operations => (.operations, .dispatch, .brand)
  | .finance => (.finance, .finance, .brand)
  | .admin => (.admin, .administration, .global)

def DASHBOARD_BY_ROLE : AccessRole → String
  | .customer => "/account"
  | .vendorAdmin => "/provider"
  | .technician => "/worker"
  | .operations => "/ops"
  | .opsManager => "/ops"
  | .support => "/support"
  | .finance => "/finance"
  | .quality => "/quality"
  | .trustSafety => "/trust-safety"
  | .sales => "/sales"
  | .marketing => "/marketing"
  | .admin => "/admin"
  | .superadmin => "/admin"

structure AccessAssignmentRead where
  role : AccessRole
  department : Department
  tenantScope : TenantScope
  vendorId : Option Uuid := none
  isPrimary : Bool := false
  deriving DecidableEq, Repr

structure PortalContext where
  brandKey : String
  dashboardPath : String
  roles : List AccessRole
  departments : List Department
  permissions : List String
  assignments : List AccessAssignmentRead
  identityMode : String
  deriving DecidableEq, Repr

/-- `order_by(is_primary.desc(), created_at)` -/
def before (a b : AccessAssignment) : Bool :=
  (a.isPrimary && !b.isPrimary) || (a.isPrimary = b.isPrimary && a.createdAt ≤ b.createdAt)

/-- The assignments that the context of a user is read from. -/
def activeRows (env : Env) (db : Tables) (userId : Uuid) (brandKey : String) :
    List AccessAssignment :=
  (env.assignments.list (db.assignments.rows.filter fun row =>
    row.userId = userId ∧ row.brandKey = brandKey ∧ row.active = true)).insertionSort
      fun a b => before a b = true

def readRow (row : AccessAssignment) : AccessAssignmentRead := {
  role := row.roleKey
  department := row.department
  tenantScope := row.tenantScope
  vendorId := row.vendorId
  isPrimary := row.isPrimary }

/-- `_assignment_reads` -/
def assignmentReads (user : User) (rows : List AccessAssignment) : List AccessAssignmentRead :=
  if rows = [] then
    let (role, department, tenantScope) := DEFAULT_ACCESS user.role
    [{ role, department, tenantScope, isPrimary := true }]
  else rows.map readRow

/-- `_permissions`, in the order in which the queries return their rows. -/
def permissionsOf (env : Env) (db : Tables) (userId : Uuid) (brandKey : String)
    (roles : List AccessRole) : Finset String :=
  permissions roles (env.rolePermissions.list (db.roleRows roles))
    (env.userPermissions.list (db.userRows userId brandKey))

/-- `sorted` -/
def sorted (permissions : Finset String) : List String :=
  Quotient.liftOn permissions.val (fun names => names.insertionSort (· ≤ ·)) fun a b hperm => by
    have htotal : Std.Total fun a b : String => a ≤ b := ⟨String.le_total⟩
    have htrans : IsTrans String fun a b => a ≤ b := ⟨fun _ _ _ => String.le_trans⟩
    refine List.Perm.eq_of_pairwise (fun _ _ _ _ => String.le_antisymm)
      (List.pairwise_insertionSort _ _) (List.pairwise_insertionSort _ _) ?_
    exact (List.perm_insertionSort _ _).trans (hperm.trans (List.perm_insertionSort _ _).symm)

theorem mem_sorted {permissions : Finset String} {name : String} :
    name ∈ sorted permissions ↔ name ∈ permissions := by
  obtain ⟨names, hnodup⟩ := permissions
  induction names using Quotient.inductionOn with
  | h names => exact List.mem_insertionSort _

def identityMode (env : Env) : String := if env.keycloakEnabled then "keycloak" else "local"

/-- The context of a user whose profile has no assignments. -/
def noAccess (env : Env) (brandKey : String) : PortalContext := {
  brandKey
  dashboardPath := NO_ACCESS_DASHBOARD
  roles := []
  departments := []
  permissions := []
  assignments := []
  identityMode := identityMode env }

/-- The context that the rows give, or the role of the user where there are none. -/
def contextOf (env : Env) (db : Tables) (user : User) (brandKey : String)
    (rows : List AccessAssignment) : PortalContext :=
  let assignments := assignmentReads user rows
  let roles := (assignments.map (·.role)).eraseDups
  { brandKey
    -- there always is a first one
    dashboardPath := (roles.head?.map DASHBOARD_BY_ROLE).getD NO_ACCESS_DASHBOARD
    roles
    departments := (assignments.map (·.department)).eraseDups
    permissions := sorted (permissionsOf env db user.id brandKey roles)
    assignments
    identityMode := identityMode env }

def context (env : Env) (db : Tables) (user : User) (brandKey : String) : PortalContext :=
  if (db.profiles.get? (user.id, brandKey)).isSome ∧ activeRows env db user.id brandKey = [] then
    noAccess env brandKey
  else contextOf env db user brandKey (activeRows env db user.id brandKey)

/-! ## The dependencies -/

def EFFECTIVE_ROLES_BY_LEGACY_ROLE : UserRole → List AccessRole
  | .customer => [.customer]
  | .vendorAdmin => [.vendorAdmin]
  | .technician => [.technician]
  | .operations => [.operations, .opsManager]
  | .finance => [.finance]
  | .admin => [.admin, .superadmin]

def insufficient : Raised := .httpException 403 "Insufficient permissions"

def requireRoles (env : Env) (db : Tables) (roles : List UserRole) (user : User) :
    Except Raised User := do
  require (∃ role ∈ (context env db user BRAND_KEY).roles,
      role ∈ roles.flatMap EFFECTIVE_ROLES_BY_LEGACY_ROLE) insufficient
  return user

/-- `required` is not empty, or the application does not start. -/
def requirePermissions (env : Env) (db : Tables) (required : List String) (user : User) :
    Except Raised User := do
  let effective := (context env db user BRAND_KEY).permissions
  require ("*" ∈ effective ∨ ∀ permission ∈ required, permission ∈ effective) insufficient
  return user

/-! ## Replacing the assignments -/

structure AccessAssignmentInput where
  role : AccessRole
  department : Department
  tenantScope : TenantScope := .brand
  vendorId : Option Uuid := none
  isPrimary : Bool := false
  deriving DecidableEq, Repr

structure AccessProfileUpdate where
  brandKey : String := "breero"
  assignments : List AccessAssignmentInput
  deriving DecidableEq, Repr

/-- `delete(AccessAssignment)` -/
def deleteAssignments (t : Table AccessAssignment) (userId : Uuid) (brandKey : String) :
    Table AccessAssignment :=
  ⟨t.rows.filter fun row => ¬ (row.userId = userId ∧ row.brandKey = brandKey),
    t.nodup.sublist (List.filter_sublist.map _)⟩

/-- The constraints of `access_assignments`. -/
def addAssignment (db : Tables) (row : AccessAssignment) : Except Raised Tables := do
  require (row.tenantScope = .vendor ↔ row.vendorId.isSome)
    (.integrityError "ck_access_assignment_vendor_scope")
  require (∀ other ∈ db.assignments.rows, ¬ (other.userId = row.userId ∧
      other.brandKey = row.brandKey ∧ other.roleKey = row.roleKey ∧
      other.department = row.department))
    (.integrityError "uq_access_assignment_role_department")
  require (∀ vendorId ∈ row.vendorId, vendorId ∈ db.vendors)
    (.integrityError "access_assignments_vendor_id_fkey")
  let assignments ← orRaise (db.assignments.insert? row) (.integrityError "access_assignments_pkey")
  return { db with assignments }

def assignmentRow (userId : Uuid) (brandKey : String) (now : Instant)
    (item : AccessAssignmentInput) (id : Uuid) : AccessAssignment := {
  id, userId, brandKey
  roleKey := item.role
  department := item.department
  tenantScope := item.tenantScope
  vendorId := item.vendorId
  isPrimary := item.isPrimary
  createdAt := now }

/-- The loop of `replace_assignments`; `id` is what `uuid4` returns next. -/
def addEach (userId : Uuid) (brandKey : String) (now : Instant) :
    List AccessAssignmentInput → Uuid → Tables → Except Raised Tables
  | [], _, db => .ok db
  | item :: items, id, db => do
    let db ← addAssignment db (assignmentRow userId brandKey now item id)
    addEach userId brandKey now items (id + 1) db

def ensureProfile (db : Tables) (userId : Uuid) (brandKey : String) : Tables :=
  match db.profiles.insert? { userId, brandKey } with
  | some profiles => { db with profiles }
  | none => db

def replaceAssignments (db : Tables) (userId : Uuid) (brandKey : String)
    (assignments : List AccessAssignmentInput) (id : Uuid) (now : Instant) :
    Except Raised Tables := do
  let _ ← orRaise (db.users.get? userId) (.httpException 404 "User not found")
  let db := ensureProfile db userId brandKey
  addEach userId brandKey now assignments id
    { db with assignments := deleteAssignments db.assignments userId brandKey }

/-- The validators of `AccessAssignmentInput` and `AccessProfileUpdate`; `brand_key` matches
`^[a-z0-9_-]+$`. -/
def validUpdate (data : AccessProfileUpdate) : Bool :=
  data.brandKey.length ∈ List.range' 1 64 &&
    data.brandKey.toList.all (fun c => c.isLower || c.isDigit || c = '_' || c = '-') &&
    data.assignments.length ≤ 32 &&
    data.assignments.all (fun item => (item.tenantScope = .vendor) = item.vendorId.isSome) &&
    (data.assignments.filter (·.isPrimary)).length ≤ 1 &&
    decide (data.assignments.map fun item => (item.role, item.department)).Nodup

/-- `admin_only` -/
def adminOnly (env : Env) (db : Tables) (actor : User) : Except Raised User :=
  requirePermissions env db ["admin.access.manage"] actor

/-- `replace_user_access` up to the transaction. -/
def admitReplacement (env : Env) (db : Tables) (actor : User) (data : AccessProfileUpdate) :
    Except Raised Unit := do
  let _ ← adminOnly env db actor
  require (validUpdate data) (.httpException 422 "Unprocessable Entity")
  require (data.assignments.any (·.role = .superadmin) →
      "*" ∈ (context env db actor data.brandKey).permissions)
    (.httpException 403 "Only superadmin can grant the superadmin role")

/-! ## Provisioning -/

inductive InternalAccountRole
  | support
  | dispatch
  | admin
  deriving DecidableEq, Repr

def InternalAccountRole.value : InternalAccountRole → String
  | support => "BREERO_SUPPORT"
  | dispatch => "BREERO_DISPATCH"
  | admin => "BREERO_ADMIN"

def ROLE_BINDINGS : InternalAccountRole → UserRole × AccessRole × Department × TenantScope
  | .support => (.finance, .support, .customerSupport, .brand)
  | .dispatch => (.operations, .operations, .dispatch, .brand)
  | .admin => (.admin, .admin, .administration, .global)

structure InternalUserProvisionRequest where
  email : String
  fullName : String
  role : InternalAccountRole
  brandKey : String := "breero"
  deriving DecidableEq, Repr

structure ProvisionResult where
  user : User
  credentialMode : String
  invitationState : String
  deriving DecidableEq, Repr

/-- The invitation of a new account, and the event that has it sent. -/
def invite (env : Env) (db : Tables) (actor : Uuid) (data : InternalUserProvisionRequest)
    (user : User) (token : String) (now : Instant) : Tables := { db with
  invitations := db.invitations ++ [{
    userId := user.id
    tokenHash := env.hashToken token
    expiresAt := now + 24 * 3600 * 1000000
    createdBy := actor }]
  events := db.events ++ [{
    aggregateType := "user"
    aggregateId := user.id
    eventType := "internal_user_invitation_requested"
    idempotencyKey := some ("internal-user-invitation:" ++ toString user.id)
    payload := [("user_id", .uuid user.id), ("email", .str user.email),
      ("role", .str data.role.value), ("token", .str token)]
    status := if env.emailDeliverable then .pending else .pendingConfiguration
    nextAttemptAt := now }] }

def provisionAudit (env : Env) (actor : Uuid) (data : InternalUserProvisionRequest)
    (userId : Uuid) (now : Instant) : AuditLog := {
  actorId := some actor
  actorType := "admin"
  action := "admin.user.provision"
  resourceType := "user"
  resourceId := userId
  metadata := [("role", .str data.role.value), ("brand_key", .str data.brandKey),
    ("identity_mode", .str (if env.keycloakEnabled then "keycloak" else "invitation"))]
  createdAt := now }

/-- The row of a new user, their profile in the brand of the assignment, and the assignment. -/
def addMember (db : Tables) (user : User) (row : AccessAssignment) : Except Raised Tables := do
  let users ← orRaise (db.users.insert? user) (.integrityError "users_pkey")
  let profiles ← orRaise (db.profiles.insert? { userId := user.id, brandKey := row.brandKey })
    (.integrityError "uq_access_profile_user_brand")
  addAssignment { db with users, profiles } row

/-- `provision`; `id` and `assignmentId` are drawn by `uuid4`, `token` by `new_opaque_token`. -/
def provision (env : Env) (db : Tables) (actor : Uuid) (data : InternalUserProvisionRequest)
    (id assignmentId : Uuid) (token : String) (now : Instant) :
    Except Raised (Tables × ProvisionResult) := do
  let email := lower (strip data.email)
  let registered : Raised := .httpException 409 "Email already registered"
  require (∀ other ∈ db.users.rows, other.email ≠ email) registered
  let (role, roleKey, department, tenantScope) := ROLE_BINDINGS data.role
  let user : User := {
    id, email, fullName := strip data.fullName, role, emailVerified := env.keycloakEnabled }
  let db ← (addMember db user {
    id := assignmentId, userId := id, brandKey := data.brandKey, roleKey, department, tenantScope
    vendorId := none, isPrimary := true, createdAt := now }).mapError fun _ => registered
  let db := if env.keycloakEnabled then db else invite env db actor data user token now
  return ({ db with audits := db.audits ++ [provisionAudit env actor data id now] }, {
    user
    credentialMode := if env.keycloakEnabled then "keycloak" else "invitation"
    invitationState := if env.keycloakEnabled then "not_required"
      else if env.emailDeliverable then "pending_delivery" else "pending_configuration" })

/-! ## Registration -/

/-- The rows about access of `ProviderRegistrationService.register`; the vendor is new. -/
def registerProvider (db : Tables) (email fullName : String) (id vendorId assignmentId : Uuid)
    (now : Instant) : Except Raised Tables := do
  let email := lower (strip email)
  let registered : Raised := .httpException 409 "Email already registered"
  require (∀ other ∈ db.users.rows, other.email ≠ email) registered
  let user : User := { id, email, fullName := strip fullName, role := .vendorAdmin }
  (addMember { db with vendors := db.vendors ++ [vendorId] } user {
    id := assignmentId, userId := id, brandKey := BRAND_KEY, roleKey := .vendorAdmin
    department := .provider, tenantScope := .vendor, vendorId := some vendorId, isPrimary := true
    createdAt := now }).mapError fun _ => registered

/-- The row of `AuthService.register`. -/
def registerCustomer (db : Tables) (email fullName : String) (id : Uuid) :
    Except Raised Tables := do
  let email := lower email
  let registered : Raised := .httpException 409 "Email already registered"
  require (∀ other ∈ db.users.rows, other.email ≠ email) registered
  let users ← orRaise
    (db.users.insert? { id, email, fullName := strip fullName, role := .customer }) registered
  return { db with users }

end Breero.Access
