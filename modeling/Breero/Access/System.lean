import Breero.Access.Service
import Breero.Lib.Runs

/-!
Requests about access, side by side.

A request is checked first, against what is stored then, and is carried out in a transaction of
its own later. In between others can be carried out, so that whoever asked may have lost what let
them ask.

* `World` has the tables, the requests that have passed their checks, and what was granted last;
* `Contained`: no assignment and no row about permissions lets anyone do everything in a brand;
* `last_grant_counts`: the context of a user is what was granted last, entirely.
-/

namespace Breero.Access
open KeyedTable Transaction Auth Runs Overrides

/-! ## Steps -/

structure World where
  db : Tables := {}
  /-- the replacements that have passed their checks -/
  admitted : List (Uuid × AccessProfileUpdate) := []
  /-- the provisioning requests that have passed theirs, with their actors -/
  provisions : List (Uuid × InternalUserProvisionRequest) := []
  /-- the assignments that a transaction gave the user in the brand last -/
  granted : Uuid → String → Option (List AccessAssignmentInput) := fun _ _ => none

inductive Op
  | admitReplacement (env : Env) (actor userId : Uuid) (data : AccessProfileUpdate)
  | replace (n : Nat) (id : Uuid) (now : Instant)
  | admitProvision (env : Env) (actor : Uuid) (data : InternalUserProvisionRequest)
  | provision (env : Env) (n : Nat) (id assignmentId : Uuid) (token : String) (now : Instant)
  | registerProvider (email fullName : String) (id vendorId assignmentId : Uuid) (now : Instant)
  | registerCustomer (email fullName : String) (id : Uuid)
  /-- a login by Keycloak, which sets the role of the user -/
  | setRole (userId : Uuid) (role : UserRole)

namespace World

def grant (w : World) (userId : Uuid) (brandKey : String) (items : List AccessAssignmentInput) :
    Uuid → String → Option (List AccessAssignmentInput) :=
  fun id brand => if id = userId ∧ brand = brandKey then some items else w.granted id brand

def admitOf (w : World) (env : Env) (actor userId : Uuid) (data : AccessProfileUpdate) : World :=
  match (w.db.users.get? actor).map fun actor => admitReplacement env w.db actor data with
  | some (.ok _) => { w with admitted := w.admitted ++ [(userId, data)] }
  | _ => w

def replaceOf (w : World) (n : Nat) (request : Uuid × AccessProfileUpdate) (id : Uuid)
    (now : Instant) : World :=
  let w := { w with admitted := w.admitted.eraseIdx n }
  match replaceAssignments w.db request.1 request.2.brandKey request.2.assignments id now with
  | .ok db => { w with db, granted := w.grant request.1 request.2.brandKey request.2.assignments }
  | .error _ => w

def admitProvisionOf (w : World) (env : Env) (actor : Uuid) (data : InternalUserProvisionRequest) :
    World :=
  match (w.db.users.get? actor).map (adminOnly env w.db) with
  | some (.ok _) => { w with provisions := w.provisions ++ [(actor, data)] }
  | _ => w

/-- What an internal account is given. -/
def boundItem (role : InternalAccountRole) : AccessAssignmentInput :=
  let (_, roleKey, department, tenantScope) := ROLE_BINDINGS role
  { role := roleKey, department, tenantScope, isPrimary := true }

def provisionOf (w : World) (env : Env) (n : Nat) (request : Uuid × InternalUserProvisionRequest)
    (id assignmentId : Uuid) (token : String) (now : Instant) : World :=
  let w := { w with provisions := w.provisions.eraseIdx n }
  match provision env w.db request.1 request.2 id assignmentId token now with
  | .ok (db, _) =>
    { w with db, granted := w.grant id request.2.brandKey [boundItem request.2.role] }
  | .error _ => w

def providerItem (vendorId : Uuid) : AccessAssignmentInput := {
  role := .vendorAdmin, department := .provider, tenantScope := .vendor
  vendorId := some vendorId, isPrimary := true }

def exec (w : World) : Op → World
  | .admitReplacement env actor userId data => w.admitOf env actor userId data
  | .replace n id now =>
    match w.admitted[n]? with
    | some request => w.replaceOf n request id now
    | none => w
  | .admitProvision env actor data => w.admitProvisionOf env actor data
  | .provision env n id assignmentId token now =>
    match w.provisions[n]? with
    | some request => w.provisionOf env n request id assignmentId token now
    | none => w
  | .registerProvider email fullName id vendorId assignmentId now =>
    match Access.registerProvider w.db email fullName id vendorId assignmentId now with
    | .ok db => { w with db, granted := w.grant id BRAND_KEY [providerItem vendorId] }
    | .error _ => w
  | .registerCustomer email fullName id =>
    match Access.registerCustomer w.db email fullName id with
    | .ok db => { w with db }
    | .error _ => w
  | .setRole userId role =>
    match w.db.users.get? userId with
    | some user => { w with db := { w.db with users := w.db.users.put { user with role } } }
    | none => w

end World

/-! ## Laws -/

/-- Nobody can do everything in the brand. -/
def NoSuperuser (brandKey : String) (w : World) : Prop :=
  ∀ env user, "*" ∉ (context env w.db user brandKey).permissions

/-- No assignment and no row about permissions lets anyone do everything in the brand. -/
structure Contained (brandKey : String) (db : Tables) : Prop where
  assignments : ∀ row ∈ db.assignments.rows, row.brandKey = brandKey → row.roleKey ≠ .superadmin
  roles : ∀ row ∈ db.rolePermissions.rows, row.permission = "*" → row.allow = false
  users : ∀ row ∈ db.userPermissions.rows, row.brandKey = brandKey → row.permission = "*" →
    row.allow = false

def inputRead (item : AccessAssignmentInput) : AccessAssignmentRead := {
  role := item.role
  department := item.department
  tenantScope := item.tenantScope
  vendorId := item.vendorId
  isPrimary := item.isPrimary }

/-- The context of a user to whom something was granted shows just that, and no access where
that was nothing. -/
def Shows (w : World) : Prop :=
  ∀ user brandKey items, w.granted user.id brandKey = some items → ∀ env,
    (context env w.db user brandKey).assignments.Perm (items.map inputRead) ∧
      (∀ role, role ∈ (context env w.db user brandKey).roles ↔ ∃ item ∈ items, item.role = role) ∧
      (items = [] → (context env w.db user brandKey).permissions = [] ∧
        (context env w.db user brandKey).dashboardPath = NO_ACCESS_DASHBOARD)

/-- A user without any assignment left passes no check, whatever their role is. -/
def Closed (w : World) : Prop :=
  ∀ user : User, w.granted user.id BRAND_KEY = some [] → ∀ env,
    (∀ roles, requireRoles env w.db roles user = .error insufficient) ∧
      ∀ required, required ≠ [] → requirePermissions env w.db required user = .error insufficient

/-! ## What a context holds -/

variable {env : Env} {db db' : Tables} {user : User} {brandKey : String}

theorem mem_activeRows {userId : Uuid} {row : AccessAssignment} :
    row ∈ activeRows env db userId brandKey ↔ row ∈ db.assignments.rows ∧
      row.userId = userId ∧ row.brandKey = brandKey ∧ row.active = true := by
  rw [activeRows, List.mem_insertionSort, (env.assignments.perm _).mem_iff, List.mem_filter,
    decide_eq_true_eq]

/-- A role of the context is that of a row, or the default of the user. -/
theorem mem_context_roles {role : AccessRole} (h : role ∈ (context env db user brandKey).roles) :
    (∃ row ∈ db.assignments.rows, row.brandKey = brandKey ∧ row.roleKey = role) ∨
      role = (DEFAULT_ACCESS user.role).1 := by
  unfold context at h
  split at h
  · cases h
  · rw [contextOf, List.mem_eraseDups, assignmentReads] at h
    split at h
    · exact .inr (by simpa using h)
    · simp only [List.map_map, List.mem_map, Function.comp] at h
      obtain ⟨row, hrow, rfl⟩ := h
      obtain ⟨hmem, _, hbrand, _⟩ := mem_activeRows.mp hrow
      exact .inl ⟨row, hmem, hbrand, rfl⟩

/-- A permission is a default of one of the roles, or allowed by a row. -/
theorem mem_permissionsOf {userId : Uuid} {roles : List AccessRole} {permission : String}
    (h : permission ∈ permissionsOf env db userId brandKey roles) :
    (∃ role ∈ roles, permission ∈ DEFAULT_PERMISSIONS role) ∨
      (∃ row ∈ db.rolePermissions.rows, row.permission = permission ∧ row.allow = true) ∨
        ∃ row ∈ db.userPermissions.rows, row.brandKey = brandKey ∧
          row.permission = permission ∧ row.allow = true := by
  rw [permissionsOf, permissions] at h
  rcases mem_of_mem_override h with h | ⟨row, hrow, hname, hallow⟩
  · rcases mem_of_mem_override h with h | ⟨row, hrow, hname, hallow⟩
    · rcases mem_defaults.mp h with h | h
      · exact absurd h (Finset.notMem_empty _)
      · exact .inl h
    · rw [(env.rolePermissions.perm _).mem_iff] at hrow
      exact .inr (.inl ⟨row, (List.mem_filter.mp hrow).1, hname, hallow⟩)
  · rw [(env.userPermissions.perm _).mem_iff] at hrow
    obtain ⟨hmem, hwhose⟩ := List.mem_filter.mp hrow
    exact .inr (.inr ⟨row, hmem, (of_decide_eq_true hwhose).2, hname, hallow⟩)

theorem mem_context_permissions {permission : String}
    (h : permission ∈ (context env db user brandKey).permissions) :
    permission ∈ permissionsOf env db user.id brandKey (context env db user brandKey).roles := by
  unfold context at h ⊢
  split at h
  · cases h
  · next hopen =>
    rw [if_neg hopen]
    exact mem_sorted.mp h

theorem star_mem_defaults {role : AccessRole} : "*" ∈ DEFAULT_PERMISSIONS role ↔
    role = .superadmin := by
  cases role <;> decide

theorem Contained.noStar (h : Contained brandKey db) (env : Env) (user : User) :
    "*" ∉ (context env db user brandKey).permissions := by
  intro hstar
  rcases mem_permissionsOf (mem_context_permissions hstar) with ⟨role, hrole, hdefault⟩ |
    ⟨row, hrow, hname, hallow⟩ | ⟨row, hrow, hbrand, hname, hallow⟩
  · rw [star_mem_defaults] at hdefault
    rcases mem_context_roles hrole with ⟨row, hrow, hbrand, rfl⟩ | rfl
    · exact h.assignments row hrow hbrand hdefault
    · revert hdefault
      cases user.role <;> decide
  · rw [h.roles row hrow hname] at hallow
    cases hallow
  · rw [h.users row hrow hbrand hname] at hallow
    cases hallow

/-! ## What the transactions do -/

theorem addAssignment_ok {row : AccessAssignment} (h : addAssignment db row = .ok db') :
    ∃ assignments, db.assignments.insert? row = some assignments ∧
      db' = { db with assignments } := by
  simp only [addAssignment, seq_committed, require_committed, orRaise_committed,
    return_committed] at h
  obtain ⟨_, _, _, _, _, _, assignments, hinsert, rfl⟩ := h
  exact ⟨assignments, hinsert, rfl⟩

/-- The rows that are added for the items, which belong to the user and the brand. -/
structure Added (userId : Uuid) (brandKey : String) (items : List AccessAssignmentInput)
    (added : List AccessAssignment) : Prop where
  shown : added.map readRow = items.map inputRead
  own : ∀ row ∈ added, row.userId = userId ∧ row.brandKey = brandKey ∧ row.active = true

theorem addEach_ok {userId : Uuid} {now : Instant} {items : List AccessAssignmentInput} {id : Uuid}
    (h : addEach userId brandKey now items id db = .ok db') :
    ∃ assignments added, db' = { db with assignments } ∧
      assignments.rows = db.assignments.rows ++ added ∧ Added userId brandKey items added := by
  induction items generalizing db id with
  | nil =>
    obtain rfl := Except.ok.inj h
    exact ⟨db.assignments, [], rfl, (List.append_nil _).symm, rfl, List.forall_mem_nil _⟩
  | cons item items ih =>
    simp only [addEach, seq_committed] at h
    obtain ⟨mid, hfirst, hrest⟩ := h
    obtain ⟨first, hinsert, rfl⟩ := addAssignment_ok hfirst
    obtain ⟨assignments, added, rfl, hrows, hadded⟩ := ih hrest
    refine ⟨assignments, assignmentRow userId brandKey now item id :: added, rfl, ?_, ?_, ?_⟩
    · rw [hrows, (Table.insert?_eq_some.mp hinsert).2, List.append_assoc, List.singleton_append]
    · rw [List.map_cons, List.map_cons, hadded.shown]
      rfl
    · intro row hrow
      rcases List.mem_cons.mp hrow with rfl | hrow
      · exact ⟨rfl, rfl, rfl⟩
      · exact hadded.own row hrow

/-- What a transaction may do to the assignments and the rows about permissions: it takes away
assignments of a user in a brand, and adds others of theirs there. -/
structure Replaced (db db' : Tables) (userId : Uuid) (brandKey : String)
    (items : List AccessAssignmentInput) : Prop where
  user : (db'.users.get? userId).isSome
  users : ∀ id, (db.users.get? id).isSome → (db'.users.get? id).isSome
  profile : (db'.profiles.get? (userId, brandKey)).isSome
  profiles : ∀ key, (db.profiles.get? key).isSome → (db'.profiles.get? key).isSome
  permissions : db'.toPermissionTables = db.toPermissionTables
  rows : ∃ kept added, db'.assignments.rows = kept ++ added ∧ Added userId brandKey items added ∧
    kept = db.assignments.rows.filter fun row => ¬ (row.userId = userId ∧ row.brandKey = brandKey)

theorem ensureProfile_get? (db : Tables) (userId : Uuid) (brandKey : String) :
    ((ensureProfile db userId brandKey).profiles.get? (userId, brandKey)).isSome ∧
      ∀ key, (db.profiles.get? key).isSome →
        ((ensureProfile db userId brandKey).profiles.get? key).isSome := by
  unfold ensureProfile
  cases hinsert : db.profiles.insert? { userId, brandKey } with
  | some profiles =>
    constructor
    · exact Option.isSome_of_eq_some (Table.get?_insert_self hinsert)
    · intro key hkey
      obtain ⟨profile, hget⟩ := Option.isSome_iff_exists.mp hkey
      exact Option.isSome_of_eq_some (Table.get?_insert_of_some hinsert hget)
  | none =>
    refine ⟨?_, fun _ h => h⟩
    by_contra hnone
    rw [Bool.not_eq_true, Option.isSome_eq_false_iff, Option.isNone_iff_eq_none] at hnone
    have hfresh := Table.insert?_isSome.mpr
      (show db.profiles.get? (key (⟨userId, brandKey⟩ : AccessProfile)) = none from hnone)
    rw [hinsert] at hfresh
    cases hfresh

theorem replaceAssignments_ok {userId id : Uuid} {items : List AccessAssignmentInput}
    {now : Instant} (h : replaceAssignments db userId brandKey items id now = .ok db') :
    Replaced db db' userId brandKey items := by
  simp only [replaceAssignments, seq_committed, orRaise_committed] at h
  obtain ⟨user, huser, h⟩ := h
  obtain ⟨assignments, added, rfl, hrows, hadded⟩ := addEach_ok h
  have hsame : ∀ db : Tables, (ensureProfile db userId brandKey).assignments = db.assignments ∧
      (ensureProfile db userId brandKey).users = db.users ∧
      (ensureProfile db userId brandKey).toPermissionTables = db.toPermissionTables := by
    intro db
    unfold ensureProfile
    split <;> exact ⟨rfl, rfl, rfl⟩
  obtain ⟨hassignments, husers, hpermissions⟩ := hsame db
  obtain ⟨hprofile, hprofiles⟩ := ensureProfile_get? db userId brandKey
  have hkept : ∀ id, (ensureProfile db userId brandKey).users.get? id = db.users.get? id := by
    rw [husers]
    exact fun _ => rfl
  refine ⟨?_, fun id hid => (congrArg Option.isSome (hkept id)).trans hid, hprofile, hprofiles,
    hpermissions, _, added, hrows, hadded, ?_⟩
  · exact (congrArg Option.isSome (hkept userId)).trans (Option.isSome_of_eq_some huser)
  · simp only [deleteAssignments, hassignments]

/-- `access_assignments_user_id_fkey` -/
def Owned (db : Tables) : Prop := ∀ row ∈ db.assignments.rows, (db.users.get? row.userId).isSome

/-- What a transaction does depends on four tables only. -/
theorem Replaced.of_eq {mid : Tables} {userId : Uuid} {items : List AccessAssignmentInput}
    (h : Replaced db mid userId brandKey items) (husers : db'.users = mid.users)
    (hprofiles : db'.profiles = mid.profiles) (hassignments : db'.assignments = mid.assignments)
    (hpermissions : db'.toPermissionTables = mid.toPermissionTables) :
    Replaced db db' userId brandKey items where
  user := husers ▸ h.user
  users := husers ▸ h.users
  profile := hprofiles ▸ h.profile
  profiles := hprofiles ▸ h.profiles
  permissions := hpermissions.trans h.permissions
  rows := hassignments ▸ h.rows

instance : DecidablePred Owned := fun db =>
  inferInstanceAs (Decidable (∀ row ∈ db.assignments.rows, (db.users.get? row.userId).isSome))

/-- A new user is given a profile and an assignment. -/
theorem addMember_ok {user : User} {row : AccessAssignment} {item : AccessAssignmentInput}
    (howned : Owned db) (hadded : Added user.id row.brandKey [item] [row])
    (h : addMember db user row = .ok db') : Replaced db db' user.id row.brandKey [item] := by
  simp only [addMember, seq_committed, orRaise_committed] at h
  obtain ⟨users, husers, profiles, hprofiles, hadd⟩ := h
  obtain ⟨assignments, hrows, rfl⟩ := addAssignment_ok hadd
  refine {
    user := Option.isSome_of_eq_some (Table.get?_insert_self husers)
    users := ?_
    profile := Option.isSome_of_eq_some (Table.get?_insert_self hprofiles)
    profiles := ?_
    permissions := rfl
    rows := ⟨db.assignments.rows, [row], (Table.insert?_eq_some.mp hrows).2, hadded, ?_⟩ }
  · intro id hid
    obtain ⟨old, hold⟩ := Option.isSome_iff_exists.mp hid
    exact Option.isSome_of_eq_some (Table.get?_insert_of_some husers hold)
  · intro key hkey
    obtain ⟨old, hold⟩ := Option.isSome_iff_exists.mp hkey
    exact Option.isSome_of_eq_some (Table.get?_insert_of_some hprofiles hold)
  · -- the user has no assignments yet
    refine (List.filter_eq_self.mpr fun other hother => decide_eq_true ?_).symm
    rintro ⟨hid, _⟩
    obtain ⟨owner, howner⟩ := Option.isSome_iff_exists.mp (howned other hother)
    exact Table.key_fresh husers (Table.mem_of_get? howner)
      ((Table.key_of_get? howner).trans hid)

theorem provision_ok {actor id assignmentId : Uuid} {data : InternalUserProvisionRequest}
    {token : String} {now : Instant} {result : ProvisionResult} (howned : Owned db)
    (h : provision env db actor data id assignmentId token now = .ok (db', result)) :
    Replaced db db' id data.brandKey [World.boundItem data.role] := by
  simp only [provision, seq_committed, require_committed, mapError_committed, return_committed,
    Prod.mk.injEq] at h
  obtain ⟨_, _, mid, hmember, hdb, _⟩ := h
  have hadded : ∀ row : AccessAssignment, row.userId = id → row.brandKey = data.brandKey →
      row.active = true → readRow row = inputRead (World.boundItem data.role) →
        Added id data.brandKey [World.boundItem data.role] [row] := by
    intro row hid hbrand hactive hread
    exact ⟨congrArg (fun read => [read]) hread, by simpa using ⟨hid, hbrand, hactive⟩⟩
  have hreplaced := addMember_ok howned (hadded _ rfl rfl rfl rfl) hmember
  refine hreplaced.of_eq ?_ ?_ ?_ ?_ <;> rw [← hdb] <;> cases env.keycloakEnabled <;> rfl

theorem registerProvider_ok {email fullName : String} {id vendorId assignmentId : Uuid}
    {now : Instant} (howned : Owned db)
    (h : registerProvider db email fullName id vendorId assignmentId now = .ok db') :
    Replaced db db' id BRAND_KEY [World.providerItem vendorId] := by
  simp only [registerProvider, seq_committed, require_committed, mapError_committed] at h
  obtain ⟨_, _, hmember⟩ := h
  have hvendor : Owned { db with vendors := db.vendors ++ [vendorId] } := howned
  have hreplaced : Replaced { db with vendors := db.vendors ++ [vendorId] } db' id BRAND_KEY
      [World.providerItem vendorId] :=
    addMember_ok hvendor ⟨rfl, by simp⟩ hmember
  exact ⟨hreplaced.user, hreplaced.users, hreplaced.profile, hreplaced.profiles,
    hreplaced.permissions, hreplaced.rows⟩

/-! ## Kinds of steps -/

/-- Only the users have changed, and none is gone. -/
structure Untouched (db db' : Tables) : Prop where
  users : ∀ id, (db.users.get? id).isSome → (db'.users.get? id).isSome
  profiles : db'.profiles = db.profiles
  assignments : db'.assignments = db.assignments
  permissions : db'.toPermissionTables = db.toPermissionTables

theorem Untouched.refl (db : Tables) : Untouched db db := ⟨fun _ h => h, rfl, rfl, rfl⟩

inductive Step (w w' : World) : Prop
  | quiet (tables : Untouched w.db w'.db) (granted : w'.granted = w.granted)
      (admitted : ∀ request ∈ w'.admitted, request ∈ w.admitted ∨
        ∃ env actor, admitReplacement env w.db actor request.2 = .ok ())
  | replaced (userId : Uuid) (brandKey : String) (items : List AccessAssignmentInput)
      (tables : Replaced w.db w'.db userId brandKey items)
      (granted : w'.granted = w.grant userId brandKey items) (admitted : w'.admitted ⊆ w.admitted)
      (source : (∃ request ∈ w.admitted, request.2.brandKey = brandKey ∧
        request.2.assignments = items) ∨ ∀ item ∈ items, item.role ≠ .superadmin)

theorem boundItem_role (role : InternalAccountRole) :
    (World.boundItem role).role ≠ .superadmin := by
  cases role <;> decide

theorem exec_step (w : World) (howned : Owned w.db) (op : Op) : Step w (w.exec op) := by
  have hidle : Step w w := .quiet (.refl w.db) rfl fun _ h => .inl h
  cases op with
  | admitReplacement env actor userId data =>
    simp only [World.exec, World.admitOf]
    cases hactor : w.db.users.get? actor with
    | none => exact hidle
    | some user =>
      cases hchecks : admitReplacement env w.db user data with
      | error raised =>
        simp only [Option.map_some, hchecks]
        exact hidle
      | ok _ =>
        simp only [Option.map_some, hchecks]
        refine .quiet (.refl w.db) rfl fun request hmem => ?_
        rcases List.mem_append.mp hmem with hmem | hmem
        · exact .inl hmem
        · obtain rfl := List.mem_singleton.mp hmem
          exact .inr ⟨env, user, hchecks⟩
  | replace n id now =>
    simp only [World.exec]
    split
    · next request hrequest =>
      have hsubset : w.admitted.eraseIdx n ⊆ w.admitted := (List.eraseIdx_sublist _ _).subset
      unfold World.replaceOf
      dsimp only
      split
      · next db hreplace =>
        exact .replaced request.1 request.2.brandKey request.2.assignments
          (replaceAssignments_ok hreplace) rfl hsubset
          (.inl ⟨request, List.mem_of_getElem? hrequest, rfl, rfl⟩)
      · exact .quiet (.refl w.db) rfl fun request hmem => .inl (hsubset hmem)
    · exact hidle
  | admitProvision env actor data =>
    simp only [World.exec, World.admitProvisionOf]
    split
    · exact .quiet (.refl w.db) rfl fun _ h => .inl h
    · exact hidle
  | provision env n id assignmentId token now =>
    simp only [World.exec]
    split
    · next request hrequest =>
      unfold World.provisionOf
      dsimp only
      split
      · next db result hprovision =>
        exact .replaced id request.2.brandKey [World.boundItem request.2.role]
          (provision_ok howned hprovision) rfl (List.Subset.refl _)
          (.inr (List.forall_mem_singleton.mpr (boundItem_role _)))
      · exact .quiet (.refl w.db) rfl fun _ h => .inl h
    · exact hidle
  | registerProvider email fullName id vendorId assignmentId now =>
    simp only [World.exec]
    split
    · next db hregister =>
      exact .replaced id BRAND_KEY [World.providerItem vendorId]
        (registerProvider_ok howned hregister) rfl (List.Subset.refl _)
        (.inr (List.forall_mem_singleton.mpr (by simp [World.providerItem])))
    · exact hidle
  | registerCustomer email fullName id =>
    simp only [World.exec]
    split
    · next db hregister =>
      simp only [registerCustomer, seq_committed, require_committed, orRaise_committed,
        return_committed] at hregister
      obtain ⟨_, _, users, husers, rfl⟩ := hregister
      refine .quiet ⟨fun other hother => ?_, rfl, rfl, rfl⟩ rfl fun _ h => .inl h
      obtain ⟨old, hold⟩ := Option.isSome_iff_exists.mp hother
      exact Option.isSome_of_eq_some (Table.get?_insert_of_some husers hold)
    · exact hidle
  | setRole userId role =>
    simp only [World.exec]
    split
    · next user huser =>
      refine .quiet ⟨fun other hother => ?_, rfl, rfl, rfl⟩ rfl fun _ h => .inl h
      obtain ⟨old, hold⟩ := Option.isSome_iff_exists.mp hother
      obtain ⟨kept, hkept, _⟩ := Table.get?_put_of_some (a := { user with role }) hold
      exact Option.isSome_of_eq_some hkept
    · exact hidle

/-! ## Nobody comes to do everything -/

variable {w w' : World}

theorem Replaced.owned {userId : Uuid} {items : List AccessAssignmentInput}
    (h : Replaced db db' userId brandKey items) (howned : Owned db) : Owned db' := by
  obtain ⟨kept, added, hrows, hadded, rfl⟩ := h.rows
  intro row hrow
  rw [hrows] at hrow
  rcases List.mem_append.mp hrow with hrow | hrow
  · exact h.users _ (howned row (List.mem_filter.mp hrow).1)
  · rw [(hadded.own row hrow).1]
    exact h.user

theorem Step.owned (h : Step w w') (howned : Owned w.db) : Owned w'.db := by
  cases h with
  | quiet tables =>
    intro row hrow
    rw [tables.assignments] at hrow
    exact tables.users _ (howned row hrow)
  | replaced _ _ _ tables => exact tables.owned howned

theorem Contained.replaced {userId : Uuid} {brand : String} {items : List AccessAssignmentInput}
    (h : Contained brandKey db) (hreplaced : Replaced db db' userId brand items)
    (hitems : brand = brandKey → ∀ item ∈ items, item.role ≠ .superadmin) :
    Contained brandKey db' := by
  constructor
  · obtain ⟨kept, added, hrows, hadded, rfl⟩ := hreplaced.rows
    intro row hrow hbrand
    rw [hrows] at hrow
    rcases List.mem_append.mp hrow with hrow | hrow
    · exact h.assignments row (List.mem_filter.mp hrow).1 hbrand
    · have hread : readRow row ∈ items.map inputRead :=
        hadded.shown ▸ List.mem_map_of_mem hrow
      obtain ⟨item, hitem, hsame⟩ := List.mem_map.mp hread
      have hrole : item.role = row.roleKey := congrArg AccessAssignmentRead.role hsame
      rw [← hrole]
      exact hitems ((hadded.own row hrow).2.1.symm.trans hbrand) item hitem
  · rw [hreplaced.permissions]
    exact h.roles
  · rw [hreplaced.permissions]
    exact h.users

/-- No request that has passed its checks asks for everything in the brand. -/
structure ContainedInv (brandKey : String) (w : World) : Prop where
  owned : Owned w.db
  contained : Contained brandKey w.db
  admitted : ∀ request ∈ w.admitted, request.2.brandKey = brandKey →
    ∀ item ∈ request.2.assignments, item.role ≠ .superadmin

/-- A replacement that makes someone a superadmin is admitted only for one who can do everything
in the brand. -/
theorem admitReplacement_star {actor : User} {data : AccessProfileUpdate}
    (h : admitReplacement env db actor data = .ok ()) {item : AccessAssignmentInput}
    (hitem : item ∈ data.assignments) (hrole : item.role = .superadmin) :
    "*" ∈ (context env db actor data.brandKey).permissions := by
  simp only [admitReplacement, seq_committed, require_committed] at h
  obtain ⟨_, _, _, _, hstar⟩ := h
  exact hstar (List.any_eq_true.mpr ⟨item, hitem, decide_eq_true hrole⟩)

theorem ContainedInv.step (h : ContainedInv brandKey w) (op : Op) :
    ContainedInv brandKey (w.exec op) := by
  have hstep := exec_step w h.owned op
  refine ⟨hstep.owned h.owned, ?_, ?_⟩
  · cases hstep with
    | quiet tables =>
      constructor
      · rw [tables.assignments]
        exact h.contained.assignments
      · rw [tables.permissions]
        exact h.contained.roles
      · rw [tables.permissions]
        exact h.contained.users
    | replaced userId brand items tables _ _ source =>
      refine h.contained.replaced tables fun hbrand => ?_
      rcases source with ⟨request, hmem, rfl, rfl⟩ | hsource
      · exact h.admitted request hmem hbrand
      · exact hsource
  · cases hstep with
    | quiet _ _ admitted =>
      intro request hmem hbrand
      rcases admitted request hmem with hmem | ⟨env, actor, hchecks⟩
      · exact h.admitted request hmem hbrand
      · intro item hitem hrole
        refine h.contained.noStar env actor ?_
        rw [← hbrand]
        exact admitReplacement_star hchecks hitem hrole
    | replaced _ _ _ _ _ admitted => exact fun request hmem => h.admitted request (admitted hmem)

/-- **Only who can do everything makes someone able to.** Where no assignment in a brand is a
superadmin's and no row allows everything there, nobody can ever do everything in it, whatever is
requested, checked and carried out in which order. -/
theorem nobody_escalates {db : Tables} (howned : Owned db) (hcontained : Contained brandKey db)
    (ops : List Op) : Always World.exec (NoSuperuser brandKey) { db } ops := by
  have hstart : ContainedInv brandKey { db } := ⟨howned, hcontained, List.forall_mem_nil _⟩
  exact (always_of_inv (P := fun _ _ => True) (fun _ op h _ => h.step op) hstart
    (along_of_forall fun _ _ => trivial)).imp fun _ h env user => h.contained.noStar env user

/-! ## What was granted last -/

def rowsOf (db : Tables) (userId : Uuid) (brandKey : String) : List AccessAssignment :=
  db.assignments.rows.filter fun row => row.userId = userId ∧ row.brandKey = brandKey

theorem Replaced.rowsOf {userId : Uuid} {items : List AccessAssignmentInput}
    (h : Replaced db db' userId brandKey items) : Added userId brandKey items
      (rowsOf db' userId brandKey) := by
  obtain ⟨kept, added, hrows, hadded, rfl⟩ := h.rows
  have hown : Access.rowsOf db' userId brandKey = added := by
    rw [Access.rowsOf, hrows, List.filter_append, List.filter_filter, List.filter_eq_nil_iff.mpr,
      List.nil_append, List.filter_eq_self]
    · exact fun row hrow => decide_eq_true ⟨(hadded.own row hrow).1, (hadded.own row hrow).2.1⟩
    · intro row _ hboth
      simp only [Bool.and_eq_true, decide_eq_true_eq] at hboth
      exact hboth.2 hboth.1
  rwa [hown]

theorem Replaced.rowsOf_ne {userId other : Uuid} {brand : String}
    {items : List AccessAssignmentInput} (h : Replaced db db' userId brandKey items)
    (hne : ¬ (other = userId ∧ brand = brandKey)) :
    Access.rowsOf db' other brand = Access.rowsOf db other brand := by
  obtain ⟨kept, added, hrows, hadded, rfl⟩ := h.rows
  have hapart : ∀ row : AccessAssignment, row.userId = other ∧ row.brandKey = brand →
      ¬ (row.userId = userId ∧ row.brandKey = brandKey) := by
    rintro row ⟨rfl, rfl⟩
    exact hne
  have hnone : (added.filter fun row => row.userId = other ∧ row.brandKey = brand) = [] := by
    refine List.filter_eq_nil_iff.mpr fun row hrow hown => ?_
    exact hapart row (of_decide_eq_true hown) ⟨(hadded.own row hrow).1, (hadded.own row hrow).2.1⟩
  rw [Access.rowsOf, hrows, List.filter_append, hnone, List.append_nil, List.filter_filter]
  refine List.filter_congr fun row _ => ?_
  by_cases hown : row.userId = other ∧ row.brandKey = brand
  · simp only [hown, hne, and_self, not_false_eq_true, decide_true, Bool.and_self]
  · simp only [hown, decide_false, Bool.false_and]

structure GrantedInv (w : World) : Prop where
  owned : Owned w.db
  profile : ∀ userId brandKey items, w.granted userId brandKey = some items →
    (w.db.profiles.get? (userId, brandKey)).isSome
  shown : ∀ userId brandKey items, w.granted userId brandKey = some items →
    Added userId brandKey items (rowsOf w.db userId brandKey)

theorem GrantedInv.step (h : GrantedInv w) (op : Op) : GrantedInv (w.exec op) := by
  have hstep := exec_step w h.owned op
  have howned := hstep.owned h.owned
  cases hstep with
  | quiet tables granted =>
    refine ⟨howned, ?_, ?_⟩
    · rw [granted, tables.profiles]
      exact h.profile
    · rw [granted]
      intro userId brandKey items hgranted
      rw [rowsOf, tables.assignments]
      exact h.shown userId brandKey items hgranted
  | replaced userId brandKey items tables granted =>
    have hcases : ∀ other brand found, (w.exec op).granted other brand = some found →
        (other = userId ∧ brand = brandKey ∧ found = items) ∨
          (¬ (other = userId ∧ brand = brandKey) ∧ w.granted other brand = some found) := by
      intro other brand found hfound
      rw [granted, World.grant] at hfound
      split at hfound
      · next hown => exact .inl ⟨hown.1, hown.2, (Option.some.inj hfound).symm⟩
      · next hother => exact .inr ⟨hother, hfound⟩
    refine ⟨howned, ?_, ?_⟩
    · intro other brand found hfound
      rcases hcases other brand found hfound with ⟨rfl, rfl, _⟩ | ⟨_, hbefore⟩
      · exact tables.profile
      · exact tables.profiles _ (h.profile other brand found hbefore)
    · intro other brand found hfound
      rcases hcases other brand found hfound with ⟨rfl, rfl, rfl⟩ | ⟨hne, hbefore⟩
      · exact tables.rowsOf
      · rw [tables.rowsOf_ne hne]
        exact h.shown other brand found hbefore

/-- The rows that a context is read from are those of the user in the brand. -/
theorem activeRows_perm {items : List AccessAssignmentInput} {userId : Uuid}
    (h : Added userId brandKey items (rowsOf db userId brandKey)) (env : Env) :
    (activeRows env db userId brandKey).Perm (rowsOf db userId brandKey) := by
  refine (List.perm_insertionSort _ _).trans ((env.assignments.perm _).trans (.of_eq ?_))
  refine List.filter_congr fun row hrow => decide_eq_decide.mpr ⟨fun hall => ⟨hall.1, hall.2.1⟩, ?_⟩
  intro hown
  exact ⟨hown.1, hown.2, (h.own row (List.mem_filter.mpr ⟨hrow, decide_eq_true hown⟩)).2.2⟩

theorem GrantedInv.context (h : GrantedInv w) {user : User} {items : List AccessAssignmentInput}
    (hgranted : w.granted user.id brandKey = some items) (env : Env) :
    (items = [] ∧ Access.context env w.db user brandKey = noAccess env brandKey) ∨
      (items ≠ [] ∧ ∃ rows, rows ≠ [] ∧ (rows.map readRow).Perm (items.map inputRead) ∧
        Access.context env w.db user brandKey = contextOf env w.db user brandKey rows) := by
  have hshown := h.shown user.id brandKey items hgranted
  have hperm := (activeRows_perm hshown env).map readRow
  rw [hshown.shown] at hperm
  have hprofile := h.profile user.id brandKey items hgranted
  have hnil : activeRows env w.db user.id brandKey = [] ↔ items = [] := by
    rw [← List.length_eq_zero_iff, ← List.length_eq_zero_iff]
    have hlength := hperm.length_eq
    rw [List.length_map, List.length_map] at hlength
    rw [hlength]
  unfold Access.context
  by_cases hitems : items = []
  · exact .inl ⟨hitems, if_pos ⟨hprofile, hnil.mpr hitems⟩⟩
  · have hrows := mt hnil.mp hitems
    exact .inr ⟨hitems, _, hrows, hperm, if_neg fun hempty => hrows hempty.2⟩

theorem GrantedInv.shows (h : GrantedInv w) : Shows w := by
  intro user brandKey items hgranted env
  rcases h.context hgranted env with ⟨rfl, hcontext⟩ | ⟨hitems, rows, hrows, hperm, hcontext⟩
  · rw [hcontext]
    exact ⟨.refl _, fun role => by simp [noAccess], fun _ => ⟨rfl, rfl⟩⟩
  · have hassignments : (contextOf env w.db user brandKey rows).assignments = rows.map readRow :=
      if_neg hrows
    rw [hcontext]
    refine ⟨hassignments ▸ hperm, fun role => ?_, fun hnil => absurd hnil hitems⟩
    show role ∈ ((contextOf env w.db user brandKey rows).assignments.map (·.role)).eraseDups ↔ _
    rw [hassignments, List.mem_eraseDups, (hperm.map _).mem_iff, List.map_map, List.mem_map]
    rfl

theorem GrantedInv.closed (h : GrantedInv w) : Closed w := by
  intro user hgranted env
  rcases h.context hgranted env with ⟨_, hcontext⟩ | ⟨hne, _⟩
  · refine ⟨fun roles => ?_, fun required hrequired => ?_⟩
    · simp [requireRoles, hcontext, noAccess, require, bind, Except.bind]
    · obtain ⟨permission, hmem⟩ := List.exists_mem_of_ne_nil _ hrequired
      have hnone : ¬ ∀ permission, permission ∉ required := fun hall => hall permission hmem
      simp [requirePermissions, hcontext, noAccess, require, bind, Except.bind, hnone]
  · exact absurd rfl hne

/-- **What was granted last is all that counts.** In every run, the context of a user to whom
assignments were given is those of the last transaction that gave any, whatever the user had
before and whatever role the user has come to; and after a transaction that gave none, the user
passes no check. -/
theorem last_grant_counts {db : Tables} (howned : Owned db) (ops : List Op) :
    Always World.exec (fun w => Shows w ∧ Closed w) { db } ops := by
  have hstart : GrantedInv { db } :=
    ⟨howned, fun _ _ _ h => (Option.some_ne_none _ h.symm).elim,
      fun _ _ _ h => (Option.some_ne_none _ h.symm).elim⟩
  exact (always_of_inv (P := fun _ _ => True) (fun _ op h _ => h.step op) hstart
    (along_of_forall fun _ _ => trivial)).imp fun _ h => ⟨h.shows, h.closed⟩

/-! ### An administrator -/

def plainEnv : Env := {
  assignments := ⟨id, fun _ => .refl _⟩
  rolePermissions := ⟨id, fun _ => .refl _⟩
  userPermissions := ⟨id, fun _ => .refl _⟩
  keycloakEnabled := false
  emailDeliverable := true
  hashToken := id }

/-- An administrator and a customer. -/
def staff : Tables := {
  users := ⟨[
    { id := 1, email := "admin@breero.com", fullName := "Ada", role := .admin },
    { id := 2, email := "ann@example.com", fullName := "Ann", role := .customer }], by decide⟩
  profiles := ⟨[⟨1, "breero"⟩], by decide⟩
  assignments := ⟨[{
    id := 1, userId := 1, brandKey := "breero", roleKey := .admin, department := .administration
    tenantScope := .global, vendorId := none, isPrimary := true, createdAt := 0 }], by decide⟩ }

/-- The administrator asks for a superadmin and for an administrator, and the customer, who is
the administrator then, for a superadmin again. At last everything is taken away. -/
def promotion : List Op := [
  .admitReplacement plainEnv 1 2
    { assignments := [{ role := .superadmin, department := .administration }] },
  .admitReplacement plainEnv 1 2
    { assignments := [{ role := .admin, department := .administration }] },
  .replace 0 2 1000,
  .admitReplacement plainEnv 2 2
    { assignments := [{ role := .superadmin, department := .administration }] },
  .replace 0 3 2000,
  .admitReplacement plainEnv 1 2 { assignments := [] },
  .replace 0 4 3000,
  .setRole 2 .admin]

theorem promotion_stops :
    ((run World.exec { db := staff } (promotion.take 5)).granted 2 "breero" =
        some [{ role := .admin, department := .administration }]) ∧
      Always World.exec (NoSuperuser "breero") { db := staff } promotion :=
  ⟨by decide +kernel, nobody_escalates (by decide) ⟨by decide, by decide, by decide⟩ promotion⟩

theorem promotion_closed :
    (run World.exec { db := staff } promotion).granted 2 "breero" = some [] ∧
      Always World.exec (fun w => Shows w ∧ Closed w) { db := staff } promotion :=
  ⟨by decide +kernel, last_grant_counts (by decide) promotion⟩

end Breero.Access
