import Breero.Common.Outbox
import Breero.Finance.Service
import Breero.Workforce.Models
import Mathlib.Data.List.Sort

/-!
The application of a provider and its catalogue selections.

* `Db` has the rows of one vendor;
* `writeApplication` is what the unit of work writes of a copy of the application, and
  `writeApplication_read` the case of a copy that is the stored row;
* `listProviderServices` and `listProviderSkills` are the selections in the order of the
  repository.
-/

namespace Breero.Onboarding
open KeyedTable Transaction
open Finance (written written_loaded)

inductive ProviderApplicationStatus
  | draft
  | pending
  | informationRequested
  | approved
  | rejected
  deriving DecidableEq, Repr

def ProviderApplicationStatus.value : ProviderApplicationStatus → String
  | .draft => "DRAFT"
  | .pending => "PENDING"
  | .informationRequested => "INFORMATION_REQUESTED"
  | .approved => "APPROVED"
  | .rejected => "REJECTED"

inductive ApprovalStatus
  | pending
  | approved
  | rejected
  deriving DecidableEq, Repr

def ApprovalStatus.value : ApprovalStatus → String
  | .pending => "PENDING"
  | .approved => "APPROVED"
  | .rejected => "REJECTED"

/-- A JSON column; `null` is what an explicit `None` is stored as. -/
inductive Column
  | null
  | dict (items : Payload)
  | dicts (items : List Payload)
  | texts (items : List String)
  | uuids (items : List Uuid)
  deriving DecidableEq, Repr

/-- `bool(value)`. -/
def Column.truthy : Column → Bool
  | .null => false
  | .dict items => !items.isEmpty
  | .dicts items => !items.isEmpty
  | .texts items => !items.isEmpty
  | .uuids items => !items.isEmpty

/-- The fields of an application that the provider fills in. -/
structure Details (α : Type) where
  identity : α
  business : α
  contactDetails : α
  serviceAreas : α
  postalCodes : α
  availability : α
  capacity : α
  licenses : α
  insurance : α
  complianceDocuments : α
  deriving DecidableEq, Repr

def Details.map₂ {α β γ : Type} (f : α → β → γ) (a : Details α) (b : Details β) : Details γ where
  identity := f a.identity b.identity
  business := f a.business b.business
  contactDetails := f a.contactDetails b.contactDetails
  serviceAreas := f a.serviceAreas b.serviceAreas
  postalCodes := f a.postalCodes b.postalCodes
  availability := f a.availability b.availability
  capacity := f a.capacity b.capacity
  licenses := f a.licenses b.licenses
  insurance := f a.insurance b.insurance
  complianceDocuments := f a.complianceDocuments b.complianceDocuments

structure ProviderApplication extends Details Column where
  id : Uuid
  status : ProviderApplicationStatus := .draft
  services : List Uuid := []
  skills : List Uuid := []
  version : Nat := 1
  submittedAt : Option Instant := none
  decidedAt : Option Instant := none
  reviewedBy : Option Uuid := none
  decisionReason : Option String := none
  requestedInformation : Option String := none
  deriving DecidableEq, Repr

/-- What a selected service and a selected skill have in common. -/
structure Selection where
  id : Uuid
  status : ApprovalStatus := .pending
  active : Bool := true
  version : Nat := 1
  reviewedBy : Option Uuid := none
  reviewedAt : Option Instant := none
  rejectionReason : Option String := none
  createdAt : Instant
  deriving DecidableEq, Repr

structure ProviderService extends Selection where
  serviceId : Uuid
  displayOrder : Nat := 0
  deriving DecidableEq, Repr

structure ProviderSkill extends Selection where
  workerId : Uuid
  skillId : Uuid
  deriving DecidableEq, Repr

structure ProviderWorker extends Worker where
  userId : Option Uuid := none
  skills : List String := []
  createdAt : Instant
  deriving DecidableEq, Repr

structure ProviderEvent extends IntegrationEvent where
  aggregateVersion : Nat
  deriving DecidableEq, Repr

instance : Keyed ProviderService Uuid := ⟨fun record => record.id⟩
instance : Keyed ProviderSkill Uuid := ⟨fun record => record.id⟩
instance : Keyed ProviderWorker Uuid := ⟨fun worker => worker.id⟩

/-- The rows of one vendor. -/
structure Db where
  vendor : Vendor
  application : Option ProviderApplication
  services : Table ProviderService := Table.empty
  skills : Table ProviderSkill := Table.empty
  workers : Table ProviderWorker := Table.empty
  events : List ProviderEvent := []
  auditLogs : List AuditLog := []

/-! ## The catalogue -/

structure Service where
  id : Uuid
  isActive : Bool := true
  providerApprovalRequired : Bool := true
  deriving DecidableEq, Repr

structure SkillDefinition where
  id : Uuid
  key : String
  active : Bool := true
  providerApprovalRequired : Bool := true
  deriving DecidableEq, Repr

instance : Keyed Service Uuid := ⟨Service.id⟩
instance : Keyed SkillDefinition Uuid := ⟨SkillDefinition.id⟩

structure Catalog where
  services : Table Service := Table.empty
  skills : Table SkillDefinition := Table.empty

def Catalog.activeService (catalog : Catalog) (serviceId : Uuid) : Option Service :=
  (catalog.services.get? serviceId).filter (·.isActive)

def Catalog.activeSkill (catalog : Catalog) (skillId : Uuid) : Option SkillDefinition :=
  (catalog.skills.get? skillId).filter (·.active)

/-! ## Queries -/

/-- `ORDER BY display_order, created_at, id`. -/
def ServiceOrder (a b : ProviderService) : Prop :=
  a.displayOrder < b.displayOrder ∨ a.displayOrder = b.displayOrder ∧
    (a.createdAt < b.createdAt ∨ a.createdAt = b.createdAt ∧ a.id ≤ b.id)

/-- `ORDER BY worker_id, created_at, id`. -/
def SkillOrder (a b : ProviderSkill) : Prop :=
  a.workerId < b.workerId ∨ a.workerId = b.workerId ∧
    (a.createdAt < b.createdAt ∨ a.createdAt = b.createdAt ∧ a.id ≤ b.id)

def WorkerOrder (a b : ProviderWorker) : Prop :=
  a.createdAt < b.createdAt ∨ a.createdAt = b.createdAt ∧ a.id ≤ b.id

instance : DecidableRel ServiceOrder := fun _ _ => inferInstanceAs (Decidable (_ ∨ _))
instance : DecidableRel SkillOrder := fun _ _ => inferInstanceAs (Decidable (_ ∨ _))
instance : DecidableRel WorkerOrder := fun _ _ => inferInstanceAs (Decidable (_ ∨ _))

namespace Db

def activeServices (db : Db) : List ProviderService := db.services.rows.filter (·.active)

def activeSkills (db : Db) : List ProviderSkill := db.skills.rows.filter (·.active)

/-- `list_provider_services(include_inactive=False)`. -/
def listProviderServices (db : Db) : List ProviderService :=
  db.activeServices.insertionSort ServiceOrder

/-- `list_provider_skills(include_inactive=False)`. -/
def listProviderSkills (workerId : Option Uuid) (db : Db) : List ProviderSkill :=
  (db.activeSkills.filter fun record => workerId.all (record.workerId = ·)).insertionSort SkillOrder

def providerServiceByCatalog (serviceId : Uuid) (db : Db) : Option ProviderService :=
  db.services.rows.find? (·.serviceId = serviceId)

def providerSkillByCatalog (workerId skillId : Uuid) (db : Db) : Option ProviderSkill :=
  db.skills.rows.find? fun record => record.workerId = workerId ∧ record.skillId = skillId

def primaryWorker (userId : Uuid) (db : Db) : Option ProviderWorker :=
  ((db.workers.rows.filter (·.userId = some userId)).insertionSort WorkerOrder).head?

/-! ## Writes -/

/-- The columns of a copy of the application that differ from those that were loaded, on the
row that is stored. -/
def writeColumns (loaded new stored : ProviderApplication) : ProviderApplication where
  toDetails := (loaded.toDetails.map₂ Prod.mk new.toDetails).map₂
    (fun copy current => written copy.1 copy.2 current) stored.toDetails
  id := stored.id
  status := written loaded.status new.status stored.status
  services := written loaded.services new.services stored.services
  skills := written loaded.skills new.skills stored.skills
  version := written loaded.version new.version stored.version
  submittedAt := written loaded.submittedAt new.submittedAt stored.submittedAt
  decidedAt := written loaded.decidedAt new.decidedAt stored.decidedAt
  reviewedBy := written loaded.reviewedBy new.reviewedBy stored.reviewedBy
  decisionReason := written loaded.decisionReason new.decisionReason stored.decisionReason
  requestedInformation :=
    written loaded.requestedInformation new.requestedInformation stored.requestedInformation

def writeApplication (loaded new : ProviderApplication) (db : Db) : Db :=
  { db with application := db.application.map (writeColumns loaded new) }

def audit (log : AuditLog) (db : Db) : Db := { db with auditLogs := db.auditLogs ++ [log] }

/-- The key is not compared with those of the other events. -/
def emit (event : ProviderEvent) (db : Db) : Db := { db with events := db.events ++ [event] }

/-- An insertion, under the unique constraint on the vendor and the service. -/
def insertedService (record : ProviderService) (db : Db) :
    Except Raised (Table ProviderService) := do
  require (∀ other ∈ db.services.rows, other.serviceId ≠ record.serviceId)
    (.integrityError "uq_provider_catalog_services_vendor_service")
  orRaise (db.services.insert? record) (.integrityError "provider_catalog_services_pkey")

/-- An insertion, under the unique constraint on the worker and the skill. -/
def insertedSkill (record : ProviderSkill) (db : Db) : Except Raised (Table ProviderSkill) := do
  require (∀ other ∈ db.skills.rows,
      ¬ (other.workerId = record.workerId ∧ other.skillId = record.skillId))
    (.integrityError "uq_provider_catalog_skills_worker_skill")
  orRaise (db.skills.insert? record) (.integrityError "provider_catalog_skills_pkey")

variable {db : Db}

theorem writeColumns_loaded {loaded new : ProviderApplication} (hid : new.id = loaded.id) :
    writeColumns loaded new loaded = new := by
  obtain ⟨details, id⟩ := new
  obtain rfl : id = loaded.id := hid
  simp only [writeColumns, Details.map₂, written_loaded]

/-- A copy that is the stored row is written as it is. -/
theorem writeApplication_read {loaded new : ProviderApplication}
    (hread : db.application = some loaded) (hid : new.id = loaded.id) :
    db.writeApplication loaded new = { db with application := some new } := by
  rw [writeApplication, hread, Option.map_some, writeColumns_loaded hid]

end Db

end Breero.Onboarding
