import Breero.Lib.Interleaving
import Breero.Onboarding.Models

/-!
`ProviderCatalogService`: how a vendor selects services and skills.

Every function here is a transaction, statement by statement. The rows of the vendor and of the
application are locked; that a selection is locked by itself as well only makes others wait.

* `ownedVendor` and `syncApplication` are the statements around each change;
* `addService`, `updateService`, `removeService`, `addSkill` and `removeSkill` are the changes.
-/

namespace Breero.Onboarding
open KeyedTable Transaction Interleaving Program

inductive Lock
  | vendor
  | application
  deriving DecidableEq, Repr

/-- A transaction of the vendor's rows; it is left with what it raises, or without a commit. -/
abbrev Session := Program Db (Option Raised) Lock

def raising {α : Type} (x : Except Raised α) : Session α := check (x.mapError some)

/-- The order that a query without `ORDER BY` has its rows in. -/
structure Scan (α : Type) where
  order : List α → List α := id
  perm : ∀ rows, (order rows).Perm rows := by exact fun _ => List.Perm.refl _

/-- A request, and what it finds besides the rows of the vendor: the catalogue, the clock, the id
of a row that it adds, the order of its scans, and whether its session still has the application
that it has read. -/
structure Call where
  userId : Uuid
  now : Instant
  recordId : Uuid := 0
  correlationId : Option String := none
  catalog : Catalog := {}
  cached : Bool := false
  scanServices : Scan ProviderService := {}
  scanSkills : Scan ProviderSkill := {}

/-! ## The vendor and its application -/

/-- `_owned_vendor(lock=True, write=True)`, with the application that it reads without a lock. -/
def ownedVendor : Session (Vendor × Option ProviderApplication) := do
  let vendor ← lockFor .vendor (·.vendor)
  raising (require (vendor.status ≠ .suspended ∧ vendor.status ≠ .rejected)
    (.domainError "PROVIDER_NOT_EDITABLE"
      "Provider organization cannot be changed in its current state." 409))
  let application ← select (·.application)
  raising (require (application.map (·.status) ≠ some .pending)
    (.domainError "PROVIDER_APPLICATION_UNDER_REVIEW"
      ("Service and skill selections are locked while the provider " ++
        "application is under review.") 409))
  return (vendor, application)

def synced (services : List ProviderService) (skills : List ProviderSkill)
    (application : ProviderApplication) : ProviderApplication :=
  { application with
    services := services.map (·.serviceId)
    skills := skills.map (·.skillId)
    version := application.version + 1 }

/-- A session that still has the application does not take its columns from the locked row.
Without an application there is no row to lock, and nobody else who waits for it. -/
def syncApplication (call : Call) (read : Option ProviderApplication) : Session Unit := do
  let stored ← lockFor .application (·.application)
  match stored.map fun row => if call.cached then read.getD row else row with
  | none => return ()
  | some application => do
    let services ← select Db.listProviderServices
    let skills ← select (Db.listProviderSkills none)
    update (Db.writeApplication application (synced services skills application))

def syncLegacyWorkerSkills (call : Call) (worker : ProviderWorker) : Session Unit := do
  let rows ← select (Db.listProviderSkills (some worker.id))
  let keys := rows.filterMap fun row => (call.catalog.skills.get? row.skillId).map (·.key)
  update fun db => { db with workers := db.workers.put { worker with skills := keys.eraseDups } }

def selectedWorker (call : Call) (workerId : Option Uuid) : Session ProviderWorker := do
  let worker ← select fun db =>
    match workerId with
    | some id => db.workers.get? id
    | none => db.primaryWorker call.userId
  raising (orRaise worker
    (.domainError "WORKER_NOT_FOUND" "Provider professional not found." 404))

def selectionStatus (vendor : Vendor) (providerApprovalRequired : Bool) : ApprovalStatus :=
  if vendor.status = .active ∧ !providerApprovalRequired then .approved else .pending

def requireVersion (current expected : Nat) (resourceName : String) : Session Unit :=
  raising (require (current = expected)
    (.domainError "VERSION_CONFLICT" (resourceName ++ " changed since it was loaded.") 409))

/-! ## What is recorded -/

inductive CatalogAction
  | serviceSelect
  | serviceUpdate
  | serviceRemove
  | skillSelect
  | skillRemove
  deriving DecidableEq, Repr

def CatalogAction.value : CatalogAction → String
  | .serviceSelect => "provider.service.select"
  | .serviceUpdate => "provider.service.update"
  | .serviceRemove => "provider.service.remove"
  | .skillSelect => "provider.skill.select"
  | .skillRemove => "provider.skill.remove"

def CatalogAction.eventType : CatalogAction → String
  | .serviceSelect => "provider_service_selected"
  | .serviceUpdate => "provider_service_updated"
  | .serviceRemove => "provider_service_removed"
  | .skillSelect => "provider_skill_selected"
  | .skillRemove => "provider_skill_removed"

def CatalogAction.aggregateType : CatalogAction → String
  | .serviceSelect | .serviceUpdate | .serviceRemove => "provider_service"
  | .skillSelect | .skillRemove => "provider_skill"

def selectionKey (action : CatalogAction) (id : Uuid) (version : Nat) : String :=
  action.aggregateType ++ ":" ++ toString id ++ ":" ++ toString version ++ ":" ++ action.value

def changeEvent (call : Call) (action : CatalogAction) (record : Selection) (metadata : Payload) :
    ProviderEvent := {
  aggregateType := action.aggregateType
  aggregateId := record.id
  aggregateVersion := record.version
  eventType := action.eventType
  idempotencyKey := some (selectionKey action record.id record.version)
  payload := [("aggregate_id", .uuid record.id), ("actor_user_id", .uuid call.userId)] ++ metadata
  nextAttemptAt := call.now }

def recordChange (call : Call) (action : CatalogAction) (record : Selection)
    (metadata : Payload) : Session Unit :=
  update fun db =>
    (db.audit {
      actorId := some call.userId
      actorType := "provider"
      action := action.value
      resourceType := action.aggregateType
      resourceId := record.id
      metadata
      createdAt := call.now }).emit (changeEvent call action record metadata)

/-! ## Services -/

/-- A selection that is made again. One that was rejected is reviewed again. -/
def reselected (status : ApprovalStatus) (record : Selection) : Selection :=
  if record.status = .rejected then
    { record with
      active := true, status, rejectionReason := none, reviewedBy := none, reviewedAt := none }
  else { record with active := true }

def bumped (record : Selection) : Selection := { record with version := record.version + 1 }

def serviceNotFound : Raised := .domainError "SERVICE_NOT_FOUND" "Catalog service not found." 404

/-- A flush of a row that is stored. -/
def saveService (record : ProviderService) : Session Unit :=
  update fun db => { db with services := db.services.put record }

def insertService (record : ProviderService) : Session Unit := do
  let inserted ← select (Db.insertedService record)
  let _ ← raising inserted
  update fun db =>
    { db with services := (db.insertedService record).toOption.getD db.services }

def newService (call : Call) (serviceId : Uuid) (status : ApprovalStatus) (displayOrder : Nat) :
    ProviderService := {
  id := call.recordId, serviceId, status, displayOrder, createdAt := call.now }

def selectedAgain (record : ProviderService) (status : ApprovalStatus) (displayOrder : Nat) :
    ProviderService :=
  { record with toSelection := bumped (reselected status record.toSelection), displayOrder }

/-- The selection that `add_service` makes, flushed. -/
def selectService (call : Call) (vendor : Vendor) (serviceId : Uuid) (displayOrder : Nat) :
    Session ProviderService := do
  let service ← raising (orRaise (call.catalog.activeService serviceId) serviceNotFound)
  let existing ← select (Db.providerServiceByCatalog service.id)
  raising (require (existing.all (!·.active))
    (.domainError "PROVIDER_SERVICE_CONFLICT" "Provider already selected this catalog service."
      409))
  let status := selectionStatus vendor service.providerApprovalRequired
  match existing with
  | some existing => do
    let record := selectedAgain existing status displayOrder
    saveService record
    return record
  | none => do
    let record := newService call service.id status displayOrder
    insertService record
    return record

def serviceMetadata (call : Call) (vendor : Vendor) (record : ProviderService)
    (more : Payload) : Payload :=
  [("vendor_id", .uuid vendor.id), ("service_id", .uuid record.serviceId)] ++ more ++
    [("correlation_id", .ofOption call.correlationId)]

def addService (call : Call) (serviceId : Uuid) (displayOrder : Nat) : Session Unit := do
  let (vendor, application) ← ownedVendor
  let record ← selectService call vendor serviceId displayOrder
  syncApplication call application
  recordChange call .serviceSelect record.toSelection
    (serviceMetadata call vendor record [("status", .str record.status.value)])

def providerService (id : Uuid) : Session ProviderService := do
  let record ← select (·.services.get? id)
  raising (orRaise record
    (.domainError "PROVIDER_SERVICE_NOT_FOUND" "Provider service not found." 404))

structure ProviderServiceUpdate where
  active : Option Bool := none
  displayOrder : Option Nat := none
  deriving DecidableEq, Repr

/-- Only a selection that is made active needs the catalogue service to be active still. -/
def reactivated (call : Call) (vendor : Vendor) (record : ProviderService) :
    Option Bool → Except Raised Selection
  | some true => do
    let service ← orRaise (call.catalog.activeService record.serviceId) serviceNotFound
    return reselected (selectionStatus vendor service.providerApprovalRequired) record.toSelection
  | some false => return { record.toSelection with active := false }
  | none => return record.toSelection

def updateService (call : Call) (id : Uuid) (command : ProviderServiceUpdate)
    (expectedVersion : Nat) : Session Unit := do
  let (vendor, application) ← ownedVendor
  let loaded ← providerService id
  requireVersion loaded.version expectedVersion "Provider Service"
  let selection ← raising (reactivated call vendor loaded command.active)
  let record := { loaded with
    toSelection := bumped selection
    displayOrder := command.displayOrder.getD loaded.displayOrder }
  saveService record
  syncApplication call application
  recordChange call .serviceUpdate record.toSelection (serviceMetadata call vendor record
    [("active", .bool record.active), ("status", .str record.status.value)])

/-- A selection that is not active is left as it is, without a commit. -/
def removeService (call : Call) (id : Uuid) (expectedVersion : Nat) : Session Unit := do
  let (vendor, application) ← ownedVendor
  let loaded ← providerService id
  requireVersion loaded.version expectedVersion "Provider Service"
  check (require loaded.active none)
  let record := { loaded with toSelection := bumped { loaded.toSelection with active := false } }
  saveService record
  syncApplication call application
  recordChange call .serviceRemove record.toSelection (serviceMetadata call vendor record [])

/-! ## Skills -/

def saveSkill (record : ProviderSkill) : Session Unit :=
  update fun db => { db with skills := db.skills.put record }

def insertSkill (record : ProviderSkill) : Session Unit := do
  let inserted ← select (Db.insertedSkill record)
  let _ ← raising inserted
  update fun db => { db with skills := (db.insertedSkill record).toOption.getD db.skills }

def newSkill (call : Call) (workerId skillId : Uuid) (status : ApprovalStatus) : ProviderSkill := {
  id := call.recordId, workerId, skillId, status, createdAt := call.now }

/-- The selection that `add_skill` makes, flushed. -/
def selectSkill (call : Call) (vendor : Vendor) (worker : ProviderWorker) (skillId : Uuid) :
    Session ProviderSkill := do
  let skill ← raising (orRaise (call.catalog.activeSkill skillId)
    (.domainError "SKILL_NOT_FOUND" "Catalog skill not found." 404))
  let existing ← select (Db.providerSkillByCatalog worker.id skill.id)
  raising (require (existing.all (!·.active))
    (.domainError "PROVIDER_SKILL_CONFLICT" "Professional already selected this catalog skill."
      409))
  let status := selectionStatus vendor skill.providerApprovalRequired
  match existing with
  | some existing => do
    let record := { existing with toSelection := bumped (reselected status existing.toSelection) }
    saveSkill record
    return record
  | none => do
    let record := newSkill call worker.id skill.id status
    insertSkill record
    return record

def skillMetadata (call : Call) (vendor : Vendor) (record : ProviderSkill) (more : Payload) :
    Payload :=
  [("vendor_id", .uuid vendor.id), ("worker_id", .uuid record.workerId),
    ("skill_id", .uuid record.skillId)] ++ more ++
    [("correlation_id", .ofOption call.correlationId)]

def addSkill (call : Call) (skillId : Uuid) (workerId : Option Uuid) : Session Unit := do
  let (vendor, application) ← ownedVendor
  let worker ← selectedWorker call workerId
  let record ← selectSkill call vendor worker skillId
  syncApplication call application
  syncLegacyWorkerSkills call worker
  recordChange call .skillSelect record.toSelection
    (skillMetadata call vendor record [("status", .str record.status.value)])

def providerSkill (id : Uuid) : Session ProviderSkill := do
  let record ← select (·.skills.get? id)
  raising (orRaise record
    (.domainError "PROVIDER_SKILL_NOT_FOUND" "Provider skill not found." 404))

def removeSkill (call : Call) (id : Uuid) (expectedVersion : Nat) : Session Unit := do
  let (vendor, application) ← ownedVendor
  let loaded ← providerSkill id
  requireVersion loaded.version expectedVersion "Provider Skill"
  let worker ← select (·.workers.get? loaded.workerId)
  check (require loaded.active none)
  let record := { loaded with toSelection := bumped { loaded.toSelection with active := false } }
  saveSkill record
  syncApplication call application
  (match worker with
    | some worker => syncLegacyWorkerSkills call worker
    | none => return ())
  recordChange call .skillRemove record.toSelection (skillMetadata call vendor record [])

inductive CatalogCommand
  | addService (serviceId : Uuid) (displayOrder : Nat)
  | updateService (id : Uuid) (command : ProviderServiceUpdate) (expectedVersion : Nat)
  | removeService (id : Uuid) (expectedVersion : Nat)
  | addSkill (skillId : Uuid) (workerId : Option Uuid)
  | removeSkill (id : Uuid) (expectedVersion : Nat)
  deriving DecidableEq, Repr

def CatalogCommand.session (call : Call) : CatalogCommand → Session Unit
  | .addService serviceId displayOrder => Onboarding.addService call serviceId displayOrder
  | .updateService id command expectedVersion =>
    Onboarding.updateService call id command expectedVersion
  | .removeService id expectedVersion => Onboarding.removeService call id expectedVersion
  | .addSkill skillId workerId => Onboarding.addSkill call skillId workerId
  | .removeSkill id expectedVersion => Onboarding.removeSkill call id expectedVersion

end Breero.Onboarding
