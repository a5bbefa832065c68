import Breero.Common.Raised
import Breero.Lib.Overrides
import Breero.Lib.Table

/-!
`AccessService._permissions`: what a user may do, from the roles that are assigned to them,
the rows about these roles and the rows about the user.

No query here has an `order_by`, so `Effective` is any set that some order of the rows and
of the roles leads to. `orderIndependent_iff`: it is one set iff each permission that the
rows of two roles disagree about has a row of the user's own.
-/

namespace Breero.Auth
open KeyedTable Overrides

inductive AccessRole
  | customer
  | vendorAdmin
  | technician
  | operations
  | opsManager
  | support
  | finance
  | quality
  | trustSafety
  | sales
  | marketing
  | admin
  | superadmin
  deriving DecidableEq, Repr

def AccessRole.value : AccessRole → String
  | customer => "customer"
  | vendorAdmin => "vendor_admin"
  | technician => "technician"
  | operations => "operations"
  | opsManager => "ops_manager"
  | support => "support"
  | finance => "finance"
  | quality => "quality"
  | trustSafety => "trust_safety"
  | sales => "sales"
  | marketing => "marketing"
  | admin => "admin"
  | superadmin => "superadmin"

def DEFAULT_PERMISSIONS : AccessRole → Finset String
  | .customer => {
      "customer.profile.read",
      "customer.profile.write",
      "customer.request.create",
      "customer.booking.read",
      "customer.quote.read",
      "customer.quote.decide",
      "customer.notifications.read" }
  | .vendorAdmin => {
      "provider.profile.read",
      "provider.profile.write",
      "provider.credentials.read",
      "provider.worker.manage",
      "provider.availability.manage",
      "provider.jobs.read",
      "provider.quotes.manage" }
  | .technician => {
      "worker.profile.read",
      "worker.schedule.read",
      "worker.availability.manage",
      "worker.jobs.read",
      "worker.jobs.update" }
  | .operations => {
      "ops.dispatch.read",
      "ops.dispatch.manage",
      "ops.bookings.read",
      "ops.bookings.manage",
      "ops.providers.read",
      "ops.customers.read" }
  | .opsManager => {
      "ops.dispatch.read",
      "ops.dispatch.manage",
      "ops.bookings.read",
      "ops.bookings.manage",
      "ops.providers.read",
      "ops.providers.manage",
      "ops.customers.read",
      "ops.audit.read" }
  | .support => {
      "support.customers.read",
      "support.requests.read",
      "support.requests.manage",
      "support.bookings.read",
      "support.communications.read" }
  | .finance => {
      "finance.ledger.read",
      "finance.payments.read",
      "finance.refunds.read",
      "finance.payouts.read",
      "finance.reconciliation.read" }
  | .quality => {
      "quality.jobs.read",
      "quality.reviews.read",
      "quality.reviews.manage",
      "quality.providers.read" }
  | .trustSafety => {
      "trust.providers.read",
      "trust.credentials.manage",
      "trust.reviews.manage",
      "trust.audit.read" }
  | .sales => {
      "sales.leads.read",
      "sales.leads.manage",
      "sales.providers.read" }
  | .marketing => {
      "marketing.campaigns.read",
      "marketing.consents.read",
      "marketing.suppressions.read" }
  | .admin => {
      "admin.access.manage",
      "admin.audit.read",
      "admin.capabilities.read",
      "admin.integrations.read" }
  | .superadmin => {"*"}

/-- `uq_role_permission` is its key. -/
structure RolePermission where
  roleKey : String
  permission : String
  allow : Bool := true
  deriving DecidableEq, Repr

instance : Keyed RolePermission (String × String) := ⟨fun row => (row.roleKey, row.permission)⟩

/-- `uq_user_permission` is its key. -/
structure UserPermission where
  userId : Uuid
  brandKey : String := "breero"
  permission : String
  allow : Bool
  deriving DecidableEq, Repr

instance : Keyed UserPermission (Uuid × String × String) :=
  ⟨fun row => (row.userId, row.brandKey, row.permission)⟩

structure PermissionTables where
  rolePermissions : Table RolePermission := .empty
  userPermissions : Table UserPermission := .empty

namespace PermissionTables

/-- The rows of the first query, in the order of the table. -/
def roleRows (db : PermissionTables) (roles : List AccessRole) : List RolePermission :=
  db.rolePermissions.rows.filter fun row => row.roleKey ∈ roles.map AccessRole.value

/-- The rows of the second query, in the order of the table. -/
def userRows (db : PermissionTables) (userId : Uuid) (brandKey : String) : List UserPermission :=
  db.userPermissions.rows.filter fun row => row.userId = userId ∧ row.brandKey = brandKey

end PermissionTables

/-- `_permissions`, over what its queries returned. -/
def permissions (roles : List AccessRole) (roleRows : List RolePermission)
    (userRows : List UserPermission) : Finset String :=
  let permissions := roles.foldl (fun permissions role => permissions ∪ DEFAULT_PERMISSIONS role) ∅
  let permissions := override RolePermission.permission RolePermission.allow permissions roleRows
  override UserPermission.permission UserPermission.allow permissions userRows

/-- A set that `_permissions` can return, in some order of the roles and of the rows. -/
def Effective (db : PermissionTables) (userId : Uuid) (brandKey : String)
    (roles : List AccessRole) (result : Finset String) : Prop :=
  ∃ listed rows users, listed.Perm roles ∧ rows.Perm (db.roleRows roles) ∧
    users.Perm (db.userRows userId brandKey) ∧ permissions listed rows users = result

def OrderIndependent (db : PermissionTables) (userId : Uuid) (brandKey : String)
    (roles : List AccessRole) : Prop :=
  ∀ result result', Effective db userId brandKey roles result →
    Effective db userId brandKey roles result' → result = result'

theorem mem_defaults {roles : List AccessRole} {s : Finset String} {permission : String} :
    permission ∈ roles.foldl (fun permissions role => permissions ∪ DEFAULT_PERMISSIONS role) s ↔
      permission ∈ s ∨ ∃ role ∈ roles, permission ∈ DEFAULT_PERMISSIONS role := by
  induction roles generalizing s with
  | nil => simp
  | cons role roles ih =>
    rw [List.foldl_cons, ih, Finset.mem_union, List.exists_mem_cons_iff, or_assoc]

section
variable {db : PermissionTables} {userId : Uuid} {brandKey : String} {roles : List AccessRole}

/-- The rows of a user agree with one another, as there is one for each permission. -/
theorem userRows_agreeing (db : PermissionTables) (userId : Uuid) (brandKey permission : String) :
    Agreeing UserPermission.permission UserPermission.allow (db.userRows userId brandKey)
      permission := by
  intro row hrow other hother hname hother_name
  obtain ⟨hmem, hwhose⟩ := List.mem_filter.mp hrow
  obtain ⟨hother_mem, hother_whose⟩ := List.mem_filter.mp hother
  rw [decide_eq_true_eq] at hwhose hother_whose
  have hkey : key row = key other := by
    show (_, _, _) = (_, _, _)
    rw [hwhose.1, hwhose.2, hname, hother_whose.1, hother_whose.2, hother_name]
  rw [Table.eq_of_key hmem hother_mem hkey]

/-- Two results have the permissions in common that the rows of the roles agree about, and
those with a row of the user's own. -/
theorem mem_permissions_congr {permission : String} {listed listed' : List AccessRole}
    {rows rows' : List RolePermission} {users users' : List UserPermission}
    (hlisted : listed.Perm listed') (hrows : rows.Perm rows') (husers : users.Perm users')
    (hagreeing : Agreeing UserPermission.permission UserPermission.allow users permission)
    (h : Agreeing RolePermission.permission RolePermission.allow rows permission ∨
      ∃ row ∈ users, row.permission = permission) :
    permission ∈ permissions listed rows users ↔
      permission ∈ permissions listed' rows' users' := by
  unfold permissions
  rcases h with h | ⟨row, hmem, hname⟩
  · refine mem_override_congr hagreeing husers (mem_override_congr h hrows ?_)
    simp only [mem_defaults, hlisted.mem_iff]
  · rw [mem_override_of_agreeing hagreeing hmem hname,
      mem_override_of_agreeing (hagreeing.perm husers) (husers.mem_iff.mp hmem) hname]

/-- A row of a role decides about its permission in some order, if the user has none. -/
theorem exists_effective {row : RolePermission} (hmem : row ∈ db.roleRows roles)
    (hfree : ∀ own ∈ db.userRows userId brandKey, own.permission ≠ row.permission) :
    ∃ result, Effective db userId brandKey roles result ∧
      (row.permission ∈ result ↔ row.allow = true) := by
  obtain ⟨rows, hperm, hdecides⟩ :=
    exists_perm_override RolePermission.permission RolePermission.allow hmem
  refine ⟨_, ⟨roles, rows, _, .refl _, hperm, .refl _, rfl⟩, ?_⟩
  unfold permissions
  rw [mem_override_of_forall_ne hfree, hdecides]

end

/-- **The effective permissions are one set**, whatever the order of the rows and of the
roles, iff each permission that one role is allowed and another is denied has a row of the
user's own. -/
theorem orderIndependent_iff (db : PermissionTables) (userId : Uuid) (brandKey : String)
    (roles : List AccessRole) :
    OrderIndependent db userId brandKey roles ↔
    ∀ allowing ∈ db.roleRows roles, ∀ denying ∈ db.roleRows roles,
      allowing.allow = true → denying.allow = false → allowing.permission = denying.permission →
        ∃ own ∈ db.userRows userId brandKey, own.permission = allowing.permission := by
  constructor
  · intro hunique allowing hallowing denying hdenying hallow hdeny hsame
    by_contra hnone
    have hfree : ∀ own ∈ db.userRows userId brandKey, own.permission ≠ allowing.permission :=
      fun own hmem hname => hnone ⟨own, hmem, hname⟩
    obtain ⟨allowed, heffective, hallowed⟩ := exists_effective hallowing hfree
    obtain ⟨denied, heffective', hdenied⟩ := exists_effective hdenying (hsame ▸ hfree)
    rw [hunique _ _ heffective heffective', hsame, hdenied, hdeny, hallow] at hallowed
    exact absurd hallowed (by decide)
  · rintro hresolved result result' ⟨listed, rows, users, hlisted, hrows, husers, rfl⟩
      ⟨listed', rows', users', hlisted', hrows', husers', rfl⟩
    ext permission
    have hagreeing := (userRows_agreeing db userId brandKey permission).perm husers.symm
    apply mem_permissions_congr (hlisted.trans hlisted'.symm) (hrows.trans hrows'.symm)
      (husers.trans husers'.symm) hagreeing
    by_cases hown : ∃ row ∈ users, row.permission = permission
    · exact .inr hown
    · left
      -- two rows that disagree would need a row of the user's own
      have hconflict : ∀ allowing ∈ rows, ∀ denying ∈ rows, allowing.allow = true →
          denying.allow = false → allowing.permission = permission →
            denying.permission = permission → False := by
        intro allowing hallowing denying hdenying hallow hdeny hname hname'
        obtain ⟨own, hmem, hown_name⟩ := hresolved allowing (hrows.mem_iff.mp hallowing) denying
          (hrows.mem_iff.mp hdenying) hallow hdeny (hname.trans hname'.symm)
        exact hown ⟨own, husers.mem_iff.mpr hmem, hown_name.trans hname⟩
      intro row hrow other hother hname hname'
      cases hallow : row.allow with
      | true =>
        cases hdeny : other.allow with
        | true => rfl
        | false => exact (hconflict row hrow other hother hallow hdeny hname hname').elim
      | false =>
        cases hdeny : other.allow with
        | true => exact (hconflict other hother row hrow hdeny hallow hname' hname).elim
        | false => rfl

/-- A user of two roles, one of which may see the audits and the other may not. -/
theorem order_decides :
    ¬ OrderIndependent
      { rolePermissions := ⟨[⟨"quality", "trust.audit.read", true⟩,
          ⟨"sales", "trust.audit.read", false⟩], by decide⟩ }
      1 "breero" [.quality, .sales] := by
  intro h
  have hsame := h _ _
    ⟨_, [⟨"quality", "trust.audit.read", true⟩, ⟨"sales", "trust.audit.read", false⟩], [],
      .refl _, by decide, by decide, rfl⟩
    ⟨_, [⟨"sales", "trust.audit.read", false⟩, ⟨"quality", "trust.audit.read", true⟩], [],
      .refl _, by decide, by decide, rfl⟩
  exact absurd hsame (by decide)

end Breero.Auth
