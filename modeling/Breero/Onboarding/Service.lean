import Breero.Onboarding.Catalog

/-!
`ProviderOnboardingService`: the application from its first edit to its decision.

* `updateOnboarding` and `submit` are the provider's transactions;
* `decideApplication` is the reviewer's, and `approve`, `reject` and `requestInformation` are
  its cases;
* `Command` is every transaction that writes the application or a selection, and `session` the
  transaction of a command.
-/

namespace Breero.Onboarding
open KeyedTable Transaction Interleaving Program

/-- `ProviderOnboardingUpdate`: the fields that are set, an explicit `None` among them. -/
structure ProviderOnboardingUpdate extends Details (Option Column) where
  services : Option (Option (List Uuid)) := none
  skills : Option (Option (List String)) := none
  deriving DecidableEq, Repr

/-- `_owned_vendor(lock=True)` and `_application_for_vendor(lock=True)`. -/
def ownedApplication : Session (Vendor × ProviderApplication) := do
  let vendor ← lockFor .vendor (·.vendor)
  let application ← lockFor .application (·.application)
  let application ← raising (orRaise application
    (.httpException 404 "Provider application not found"))
  return (vendor, application)

def editable (application : ProviderApplication) : Prop :=
  application.status = .draft ∨ application.status = .informationRequested

instance : DecidablePred editable := fun _ => inferInstanceAs (Decidable (_ ∨ _))

def edited (data : ProviderOnboardingUpdate) (application : ProviderApplication) :
    ProviderApplication :=
  { application with
    toDetails := data.toDetails.map₂ (fun value current => value.getD current)
      application.toDetails
    version := application.version + 1 }

def applicationAudit (call : Call) (action : String) (application : ProviderApplication)
    (metadata : Payload) : AuditLog := {
  actorId := some call.userId
  action
  resourceType := "provider_application"
  resourceId := application.id
  metadata
  createdAt := call.now }

def updateOnboarding (call : Call) (data : ProviderOnboardingUpdate) : Session Unit := do
  let (_, application) ← ownedApplication
  raising (require (editable application)
    (.httpException 409 "Submitted applications cannot be edited"))
  raising (require (data.services = none ∧ data.skills = none)
    (.httpException 422 "Use the provider services and skills APIs for catalog selections"))
  let new := edited data application
  update fun db => (db.writeApplication application new).audit
    (applicationAudit call "provider.onboarding.update" new [("version", .int new.version)])

/-- `REQUIRED_APPLICATION_FIELDS`, with the value of each. -/
def requiredFields (application : ProviderApplication) : List (String × Bool) := [
  ("identity", application.identity.truthy),
  ("business", application.business.truthy),
  ("contact_details", application.contactDetails.truthy),
  ("services", !application.services.isEmpty),
  ("skills", !application.skills.isEmpty),
  ("service_areas", application.serviceAreas.truthy),
  ("postal_codes", application.postalCodes.truthy),
  ("availability", application.availability.truthy),
  ("capacity", application.capacity.truthy),
  ("licenses", application.licenses.truthy),
  ("insurance", application.insurance.truthy),
  ("compliance_documents", application.complianceDocuments.truthy)]

def missingSubmissionFields (application : ProviderApplication) : List String :=
  ((requiredFields application).filter (!·.2)).map (·.1)

def applicationKey (eventType : String) (id : Uuid) (version : Nat) : String :=
  eventType ++ ":" ++ toString id ++ ":" ++ toString version

def applicationEvent (call : Call) (application : ProviderApplication) (eventType : String)
    (payload : Payload) : ProviderEvent := {
  aggregateType := "provider_application"
  aggregateId := application.id
  aggregateVersion := application.version
  eventType
  idempotencyKey := some (applicationKey eventType application.id application.version)
  payload := ("application_id", .uuid application.id) :: payload
  nextAttemptAt := call.now }

/-- `_sync_catalog_selections`, on a copy of the application. -/
def syncCatalogSelections (call : Call) (application : ProviderApplication) :
    Session ProviderApplication := do
  let services ← select Db.activeServices
  let skills ← select Db.activeSkills
  return { application with
    services := (call.scanServices.order services).map (·.serviceId)
    skills := (call.scanSkills.order skills).map (·.skillId) }

def submitted (now : Instant) (application : ProviderApplication) : ProviderApplication :=
  { application with
    status := .pending
    submittedAt := some now
    decidedAt := none
    reviewedBy := none
    decisionReason := none
    requestedInformation := none
    version := application.version + 1 }

def submit (call : Call) : Session Unit := do
  let (vendor, application) ← ownedApplication
  raising (require (editable application)
    (.httpException 409 "Application cannot be submitted in its current state"))
  let complete ← syncCatalogSelections call application
  raising (require (missingSubmissionFields complete = [])
    (.httpException 422 "ONBOARDING_INCOMPLETE"))
  let new := submitted call.now complete
  update fun db => ((db.writeApplication application new).audit
    (applicationAudit call "provider.onboarding.submit" new
      [("status", .str ProviderApplicationStatus.pending.value)])).emit
    (applicationEvent call new "provider_application_submitted" [("vendor_id", .uuid vendor.id)])

/-! ## Decisions -/

inductive Decision
  | approve
  | reject
  | requestInformation
  deriving DecidableEq, Repr

def Decision.target : Decision → ProviderApplicationStatus
  | .approve => .approved
  | .reject => .rejected
  | .requestInformation => .informationRequested

def Decision.action : Decision → String
  | .approve => "provider.onboarding.approve"
  | .reject => "provider.onboarding.reject"
  | .requestInformation => "provider.onboarding.request_information"

def Decision.vendorStatus : Decision → VendorStatus
  | .approve => .active
  | .reject => .rejected
  | .requestInformation => .pending

def decided (call : Call) (decision : Decision) (reason : String)
    (application : ProviderApplication) : ProviderApplication :=
  { application with
    status := decision.target
    reviewedBy := some call.userId
    decidedAt := some call.now
    version := application.version + 1
    decisionReason := if decision = .requestInformation then none else some reason
    requestedInformation := if decision = .requestInformation then some reason else none }

/-- What an approval does to a selection that is active and waits for it. -/
def approvedSelection (call : Call) (record : Selection) : Selection :=
  if record.active ∧ record.status = .pending then
    { record with
      status := .approved
      reviewedBy := some call.userId
      reviewedAt := some call.now
      rejectionReason := none
      version := record.version + 1 }
  else record

theorem approvedSelection_id (call : Call) (record : Selection) :
    (approvedSelection call record).id = record.id := by
  unfold approvedSelection
  split <;> rfl

def setWorkers (status : WorkerStatus) (available : Bool) (db : Db) : Db :=
  { db with
    workers := db.workers.update (fun worker => { worker with status, available }) fun _ => rfl }

def approveSelections (call : Call) (db : Db) : Db :=
  { db with
    services := db.services.update
      (fun record => { record with toSelection := approvedSelection call record.toSelection })
      fun record => approvedSelection_id call record.toSelection
    skills := db.skills.update
      (fun record => { record with toSelection := approvedSelection call record.toSelection })
      fun record => approvedSelection_id call record.toSelection }

/-- The bulk updates of a decision. -/
def updateRows (call : Call) : Decision → Db → Db
  | .approve, db => approveSelections call (setWorkers .active true db)
  | .reject, db => setWorkers .inactive false db
  | .requestInformation, db => db

def decideApplication (call : Call) (applicationId : Uuid) (decision : Decision) (reason : String) :
    Session Unit := do
  let application ← lockFor .application (·.application.filter (·.id = applicationId))
  let application ← raising (orRaise application
    (.httpException 404 "Provider application not found"))
  raising (require (application.status = .pending)
    (.httpException 409 "Only pending applications can be reviewed"))
  let vendor ← lockFor .vendor (·.vendor)
  let new := decided call decision reason application
  update fun db =>
    { db.writeApplication application new with
      vendor := { db.vendor with status := decision.vendorStatus } }
  update (updateRows call decision)
  update fun db => (db.audit (applicationAudit call decision.action new
      [("status", .str decision.target.value), ("reason", .str reason)])).emit
    (applicationEvent call new "provider_application_decided"
      [("vendor_id", .uuid vendor.id), ("status", .str decision.target.value),
        ("reason", .str reason)])

def approve (call : Call) (applicationId : Uuid) (reason : String) : Session Unit :=
  decideApplication call applicationId .approve reason

def reject (call : Call) (applicationId : Uuid) (reason : String) : Session Unit :=
  decideApplication call applicationId .reject reason

def requestInformation (call : Call) (applicationId : Uuid) (reason : String) : Session Unit :=
  decideApplication call applicationId .requestInformation reason

/-! ## All of them -/

inductive Command
  | updateOnboarding (data : ProviderOnboardingUpdate)
  | submit
  | approve (applicationId : Uuid) (reason : String)
  | reject (applicationId : Uuid) (reason : String)
  | requestInformation (applicationId : Uuid) (reason : String)
  | catalog (command : CatalogCommand)
  deriving DecidableEq, Repr

def session : Call × Command → Session Unit
  | (call, .updateOnboarding data) => Onboarding.updateOnboarding call data
  | (call, .submit) => Onboarding.submit call
  | (call, .approve applicationId reason) => Onboarding.approve call applicationId reason
  | (call, .reject applicationId reason) => Onboarding.reject call applicationId reason
  | (call, .requestInformation applicationId reason) =>
    Onboarding.requestInformation call applicationId reason
  | (call, .catalog command) => command.session call

end Breero.Onboarding
