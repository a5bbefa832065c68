import Breero.Access.Service
import Breero.Booking.Admissions
import Breero.Common.Unicode

/-!
`ProviderPortalService`: what a provider sets about their areas, hours, exceptions and capacity.

* `Portal` has the tables of the provider, and `Portal.directory` is what the matcher reads there;
* `serve` is a call of one of the endpoints that write, and `exec` its transaction.
-/

namespace Breero.Workforce
open KeyedTable Transaction Bookings

/-! ## Rows -/

inductive AreaType
  | zip
  | zipGroup
  | city
  | county
  | radius
  | serviceZone
  deriving DecidableEq, Repr

/-- `provider_service_areas`, with the center as its latitude and longitude -/
structure AreaRecord extends ProviderServiceArea where
  id : Uuid
  professionalId : Option Uuid
  areaType : AreaType
  serviceZoneId : Option Uuid
  city : Option String
  county : Option String
  state : Option String
  center : Option (Rat × Rat)
  radiusMeters : Option Int
  deriving DecidableEq, Repr

/-- `provider_availability_rules`, with the unique constraint as its key -/
structure RuleRecord extends ProviderAvailabilityRule where
  id : Uuid
  timezoneId : String
  deriving DecidableEq, Repr

inductive AvailabilityExceptionReason
  | vacation
  | sick
  | personal
  | training
  | vehicle
  | holiday
  | manualBlock
  | other
  deriving DecidableEq, Repr

structure ExceptionRecord extends ProviderAvailabilityException where
  id : Uuid
  timezoneId : String
  reason : AvailabilityExceptionReason
  createdBy : Uuid
  deriving DecidableEq, Repr

structure CapacityRecord extends ProviderCapacityRule where
  id : Uuid
  deriving DecidableEq, Repr

instance : Keyed AreaRecord Uuid := ⟨AreaRecord.id⟩
instance : Keyed RuleRecord (Uuid × Int × Int × Int) :=
  ⟨fun rule => (rule.providerProfessionalId, rule.dayOfWeek, rule.startLocalTime,
    rule.endLocalTime)⟩
instance : Keyed ExceptionRecord Uuid := ⟨ExceptionRecord.id⟩
instance : Keyed CapacityRecord Uuid := ⟨CapacityRecord.id⟩

structure Portal where
  areas : Table AreaRecord := .empty
  rules : Table RuleRecord := .empty
  exceptions : Table ExceptionRecord := .empty
  capacityRules : Table CapacityRecord := .empty
  audits : List AuditLog := []

/-- What the matcher reads of it. -/
def Portal.directory (portal : Portal) (dir : Directory) : Directory := { dir with
  providerServiceAreas := portal.areas.rows.map (·.toProviderServiceArea)
  availabilityRules := portal.rules.rows.map (·.toProviderAvailabilityRule)
  availabilityExceptions := portal.exceptions.rows.map (·.toProviderAvailabilityException)
  capacityRules := portal.capacityRules.rows.map (·.toProviderCapacityRule) }

/-! ## Bodies -/

structure ProviderServiceAreaWrite where
  areaType : AreaType
  professionalId : Option Uuid := none
  serviceZoneId : Option Uuid := none
  postalCode : Option String := none
  city : Option String := none
  county : Option String := none
  state : Option String := none
  latitude : Option Rat := none
  longitude : Option Rat := none
  radiusMeters : Option Int := none
  deriving DecidableEq, Repr

namespace ProviderServiceAreaWrite

def lengthBetween (shortest longest : Nat) (text : String) : Bool :=
  shortest ≤ text.length && text.length ≤ longest

/-- `required_dimension` -/
def requiredDimension (data : ProviderServiceAreaWrite) : Bool :=
  match data.areaType with
  | .zip | .zipGroup => data.postalCode.isSome
  | .city => data.city.isSome && data.state.isSome
  | .county => data.county.isSome && data.state.isSome
  | .serviceZone => data.serviceZoneId.isSome
  | .radius => data.radiusMeters.isSome && data.latitude.isSome && data.longitude.isSome

/-- The bounds of the fields, and `required_dimension`. -/
def valid (data : ProviderServiceAreaWrite) : Bool :=
  (data.postalCode.all fun text => text.length = 5 && text.toList.all isDecimal) &&
    data.city.all (lengthBetween 2 120) && data.county.all (lengthBetween 2 120) &&
    data.state.all (lengthBetween 2 3) &&
    (data.latitude.all fun degrees => -90 ≤ degrees && degrees ≤ 90) &&
    (data.longitude.all fun degrees => -180 ≤ degrees && degrees ≤ 180) &&
    (data.radiusMeters.all fun meters => 0 < meters && meters ≤ 500000) && data.requiredDimension

def center (data : ProviderServiceAreaWrite) : Option (Rat × Rat) :=
  match data.latitude, data.longitude with
  | some latitude, some longitude => some (latitude, longitude)
  | _, _ => none

end ProviderServiceAreaWrite

structure AvailabilityRuleWrite where
  professionalId : Uuid
  dayOfWeek : Int
  startLocalTime : Int
  endLocalTime : Int
  available : Bool := true
  emergencyOnly : Bool := false
  timezoneId : String
  deriving DecidableEq, Repr

/-- The bounds of the fields, and `within_breero_hours`. -/
def AvailabilityRuleWrite.valid (rule : AvailabilityRuleWrite) : Bool :=
  0 ≤ rule.dayOfWeek && rule.dayOfWeek ≤ 6 &&
    3 ≤ rule.timezoneId.length && rule.timezoneId.length ≤ 64 &&
    openLocal ≤ rule.startLocalTime && rule.endLocalTime ≤ closeLocal &&
    rule.startLocalTime < rule.endLocalTime && (rule.dayOfWeek ≠ 6 || rule.emergencyOnly)

structure AvailabilityExceptionWrite where
  professionalId : Uuid
  startAt : Instant
  endAt : Instant
  timezoneId : String
  reason : AvailabilityExceptionReason
  deriving DecidableEq, Repr

/-- The bounds of the fields, and `valid_interval`. -/
def AvailabilityExceptionWrite.valid (data : AvailabilityExceptionWrite) : Bool :=
  3 ≤ data.timezoneId.length && data.timezoneId.length ≤ 64 && data.startAt < data.endAt

/-- `fieldsSet` says whether the body has a field at all, `null` or not. -/
structure AvailabilityExceptionPatch where
  fieldsSet : Bool
  startAt : Option Instant := none
  endAt : Option Instant := none
  timezoneId : Option String := none
  reason : Option AvailabilityExceptionReason := none
  deriving DecidableEq, Repr

def AvailabilityExceptionPatch.valid (data : AvailabilityExceptionPatch) : Bool :=
  (data.timezoneId.all fun text => 3 ≤ text.length && text.length ≤ 64) &&
    (data.startAt.all fun startAt => data.endAt.all fun endAt => startAt < endAt) && data.fieldsSet

/-! ## The account -/

structure PortalUser where
  id : Uuid
  role : Access.UserRole
  deriving DecidableEq, Repr

/-- The columns that link accounts to providers, and the zones there are. -/
structure Links where
  /-- the vendor whose `owner_user_id` is the user -/
  vendorOf : Uuid → Option Uuid
  /-- the worker whose `user_id` is the user -/
  workerOf : Uuid → Option Uuid
  serviceZone : Uuid → Bool

def outsideProvider (what : String) : Raised :=
  .domainError "FORBIDDEN" (what ++ " is outside this provider") 403

section
variable (links : Links) (db : Db) (dir : Directory)

def context (user : PortalUser) : Except Raised (Vendor × Option Worker) := do
  let (vendor, worker) :=
    match user.role with
    | .vendorAdmin =>
      ((links.vendorOf user.id).bind db.vendors.get?, (links.workerOf user.id).bind db.workers.get?)
    | .technician =>
      let worker := (links.workerOf user.id).bind db.workers.get?
      (worker.bind fun worker => db.vendors.get? worker.vendorId, worker)
    | _ => (none, none)
  let vendor ← orRaise vendor
    (.domainError "FORBIDDEN" "Account is not linked to a provider" 403)
  return (vendor, worker)

/-- `Worker.vendor_id == vendor_id`, of the worker with the id -/
def worksFor (workerId vendorId : Uuid) : Bool :=
  (db.workers.get? workerId).any fun worker => worker.vendorId = vendorId

def ownedWorker (workerId vendorId : Uuid) : Except Raised Unit :=
  require (worksFor db workerId vendorId) (outsideProvider "Professional")

def ownedArea (portal : Portal) (itemId vendorId : Uuid) : Except Raised AreaRecord :=
  orRaise ((portal.areas.get? itemId).filter fun item => item.providerId = vendorId)
    (outsideProvider "Resource")

def ownedException (portal : Portal) (itemId vendorId : Uuid) : Except Raised ExceptionRecord :=
  orRaise ((portal.exceptions.get? itemId).filter fun item =>
      worksFor db item.providerProfessionalId vendorId)
    (outsideProvider "Availability exception")

/-! ## The endpoints -/

inductive Command
  | addArea (data : ProviderServiceAreaWrite) (id : Uuid)
  | updateArea (itemId : Uuid) (data : ProviderServiceAreaWrite)
  | removeArea (itemId : Uuid)
  | replaceAvailability (rules : List (AvailabilityRuleWrite × Uuid))
  | addException (data : AvailabilityExceptionWrite) (id : Uuid)
  | updateException (itemId : Uuid) (data : AvailabilityExceptionPatch)
  | removeException (itemId : Uuid)
  | setCapacity (data : CapacityRuleWrite) (id : Uuid)

/-- The body of the command passes its schema. -/
def Command.valid : Command → Bool
  | .addArea data _ | .updateArea _ data => data.valid
  | .replaceAvailability rules => rules.all fun rule => rule.1.valid
  | .addException data _ => data.valid
  | .updateException _ data => data.valid
  | _ => true

structure Call where
  user : PortalUser
  command : Command
  now : Instant

def audit (portal : Portal) (user : PortalUser) (now : Instant) (action resourceType : String)
    (resourceId : Uuid) (metadata : Payload := []) : Portal := { portal with
  audits := portal.audits ++ [{
    actorId := some user.id, actorType := "user", action, resourceType, resourceId, metadata
    createdAt := now }] }

def ownedProfessional (professionalId : Option Uuid) (vendorId : Uuid) : Except Raised Unit :=
  match professionalId with
  | some workerId => ownedWorker db workerId vendorId
  | none => .ok ()

def addArea (portal : Portal) (user : PortalUser) (data : ProviderServiceAreaWrite) (id : Uuid)
    (now : Instant) : Except Raised (Portal × Unit) := do
  let (vendor, _) ← context links db user
  ownedProfessional db data.professionalId vendor.id
  require (data.serviceZoneId.all links.serviceZone) (.other "IntegrityError")
  let areas ← orRaise (portal.areas.insert? {
      providerId := vendor.id
      postalCode := data.postalCode
      active := false
      approvalStatus := "PENDING"
      id
      professionalId := data.professionalId
      areaType := data.areaType
      serviceZoneId := data.serviceZoneId
      city := data.city
      county := data.county
      state := data.state.map upper
      center := data.center
      radiusMeters := data.radiusMeters })
    (.other "IntegrityError")
  return (audit { portal with areas } user now "provider.service_area.requested"
    "provider_service_area" id, ())

def updateArea (portal : Portal) (user : PortalUser) (itemId : Uuid)
    (data : ProviderServiceAreaWrite) (now : Instant) : Except Raised (Portal × Unit) := do
  let (vendor, _) ← context links db user
  let item ← ownedArea portal itemId vendor.id
  ownedProfessional db data.professionalId vendor.id
  require (data.serviceZoneId.all links.serviceZone) (.other "IntegrityError")
  let areas := portal.areas.put { item with
    areaType := data.areaType
    professionalId := data.professionalId
    serviceZoneId := data.serviceZoneId
    postalCode := data.postalCode
    city := data.city
    county := data.county
    state := data.state
    radiusMeters := data.radiusMeters
    center := data.center
    active := false
    approvalStatus := "PENDING" }
  return (audit { portal with areas } user now "provider.service_area.changed"
    "provider_service_area" item.id, ())

def removeArea (portal : Portal) (user : PortalUser) (itemId : Uuid) (now : Instant) :
    Except Raised (Portal × Unit) := do
  let (vendor, _) ← context links db user
  let item ← ownedArea portal itemId vendor.id
  let areas := portal.areas.put
    { item with active := false, approvalStatus := "REMOVAL_PENDING" }
  return (audit { portal with areas } user now "provider.service_area.removal_requested"
    "provider_service_area" item.id, ())

def ruleRecord (rule : AvailabilityRuleWrite × Uuid) : RuleRecord where
  providerProfessionalId := rule.1.professionalId
  dayOfWeek := rule.1.dayOfWeek
  startLocalTime := rule.1.startLocalTime
  endLocalTime := rule.1.endLocalTime
  available := rule.1.available
  emergencyOnly := rule.1.emergencyOnly
  id := rule.2
  timezoneId := rule.1.timezoneId

/-- The rules that are left after the deletion. -/
def rulesOfOthers (portal : Portal) (vendorId : Uuid) : Table RuleRecord where
  rows := portal.rules.rows.filter fun rule => !worksFor db rule.providerProfessionalId vendorId
  nodup := (List.filter_sublist.map _).nodup portal.rules.nodup

def replaceAvailability (portal : Portal) (user : PortalUser)
    (rules : List (AvailabilityRuleWrite × Uuid)) (now : Instant) :
    Except Raised (Portal × Unit) := do
  let (vendor, _) ← context links db user
  require (∀ rule ∈ rules, worksFor db rule.1.professionalId vendor.id)
    (outsideProvider "Professional")
  require (∀ rule ∈ rules, (dir.zones rule.1.timezoneId).isSome)
    (.domainError "TIMEZONE_UNRESOLVED" "Service address timezone is invalid" 422)
  let rows ← rules.foldlM
    (fun rows rule => orRaise (rows.insert? (ruleRecord rule)) (.other "IntegrityError"))
    (rulesOfOthers db portal vendor.id)
  return (audit { portal with rules := rows } user now "provider.availability.replaced" "vendor"
    vendor.id [("rule_count", .int rules.length)], ())

def addException (portal : Portal) (user : PortalUser) (data : AvailabilityExceptionWrite)
    (id : Uuid) (now : Instant) : Except Raised (Portal × Unit) := do
  let (vendor, _) ← context links db user
  ownedWorker db data.professionalId vendor.id
  let _ ← timezone dir.zones data.timezoneId
  let exceptions ← orRaise (portal.exceptions.insert? {
      providerProfessionalId := data.professionalId
      startAt := data.startAt
      endAt := data.endAt
      status := "ACTIVE"
      id
      timezoneId := data.timezoneId
      reason := data.reason
      createdBy := user.id })
    (.other "IntegrityError")
  return (audit { portal with exceptions } user now "provider.availability_exception.created"
    "availability_exception" id, ())

def updateException (portal : Portal) (user : PortalUser) (itemId : Uuid)
    (data : AvailabilityExceptionPatch) (now : Instant) : Except Raised (Portal × Unit) := do
  let (vendor, _) ← context links db user
  let item ← ownedException db portal itemId vendor.id
  let startAt := data.startAt.getD item.startAt
  let endAt := data.endAt.getD item.endAt
  require (startAt < endAt) (.domainError "INVALID_AVAILABILITY_EXCEPTION"
    "Availability exception end must follow start" 422)
  require (data.timezoneId.all fun timezoneId => (dir.zones timezoneId).isSome)
    (.domainError "TIMEZONE_UNRESOLVED" "Service address timezone is invalid" 422)
  let exceptions := portal.exceptions.put { item with
    startAt
    endAt
    timezoneId := data.timezoneId.getD item.timezoneId
    reason := data.reason.getD item.reason }
  return (audit { portal with exceptions } user now "provider.availability_exception.changed"
    "availability_exception" item.id, ())

def removeException (portal : Portal) (user : PortalUser) (itemId : Uuid) (now : Instant) :
    Except Raised (Portal × Unit) := do
  let (vendor, _) ← context links db user
  let item ← ownedException db portal itemId vendor.id
  let exceptions := portal.exceptions.put { item with status := "CANCELLED" }
  return (audit { portal with exceptions } user now "provider.availability_exception.cancelled"
    "availability_exception" item.id, ())

def setCapacity (portal : Portal) (user : PortalUser) (data : CapacityRuleWrite) (id : Uuid)
    (now : Instant) : Except Raised (Portal × Unit) := do
  let (vendor, _) ← context links db user
  ownedProfessional db data.professionalId vendor.id
  let capacityRules ← orRaise
    (portal.capacityRules.insert? { toProviderCapacityRule := data.row vendor.id, id })
    (.other "IntegrityError")
  return (audit { portal with capacityRules } user now "provider.capacity.changed"
    "provider_capacity_rule" id, ())

def serve (portal : Portal) (call : Call) : Except Raised (Portal × Unit) :=
  match call.command with
  | .addArea data id => addArea links db portal call.user data id call.now
  | .updateArea itemId data => updateArea links db portal call.user itemId data call.now
  | .removeArea itemId => removeArea links db portal call.user itemId call.now
  | .replaceAvailability rules => replaceAvailability links db dir portal call.user rules call.now
  | .addException data id => addException links db dir portal call.user data id call.now
  | .updateException itemId data =>
    updateException links db dir portal call.user itemId data call.now
  | .removeException itemId => removeException links db portal call.user itemId call.now
  | .setCapacity data id => setCapacity links db portal call.user data id call.now

def exec (portal : Portal) (call : Call) : Portal :=
  if call.command.valid then commit portal (serve links db dir portal call) else portal

end

end Breero.Workforce
