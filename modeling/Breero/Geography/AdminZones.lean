import Breero.Geography.Repository

/-!
`AdminServiceZoneService`: the transactions on service zones. The audit log, which nothing
reads, is left out.

* `createZone`, `updateZone` and `deactivateZone` are the operations;
* `ensureCoverageSelector` is the check that `updateZone` makes before it commits.
-/

namespace Breero.Geography
open KeyedTable Transaction Tables

def serviceZoneNotFound : Raised :=
  .domainError "SERVICE_ZONE_NOT_FOUND" "Service zone not found." 404

def serviceZoneConflict : Raised :=
  .domainError "SERVICE_ZONE_CONFLICT" "Service zone conflicts with existing coverage data." 409

/-- `_require_version`; `title` is the name of the resource as `str.title` writes it. -/
def requireVersion (current expected : Nat) (title : String) : Except Raised Unit :=
  require (current = expected)
    (.domainError "VERSION_CONFLICT" (title ++ " changed since it was loaded.") 409)

/-- `_validate_services` -/
def validateServices (catalog : Catalog) (serviceIds : List Uuid) : Except Raised Unit :=
  require (∀ serviceId ∈ serviceIds, serviceId ∈ catalog.services)
    (.domainError "SERVICE_NOT_FOUND" "One or more active catalog services were not found." 422)

/-- `_validated_boundary` -/
def validatedBoundary (platform : Platform) :
    Option GeoJson → Except Raised (Option Geometry)
  | none => return none
  | some boundary => do
    require (boundary.type ∈ [some "Polygon", some "MultiPolygon"])
      (.domainError "SERVICE_ZONE_BOUNDARY_INVALID"
        "Boundary must be Polygon or MultiPolygon GeoJSON." 422)
    let geometry : Geometry := ⟨boundary.encoded⟩
    let row ← orRaise (platform.stIsValid geometry)
      (.domainError "SERVICE_ZONE_BOUNDARY_INVALID" "Boundary GeoJSON is invalid." 422)
    require (row.1 ∧ ¬ row.2)
      (.domainError "SERVICE_ZONE_BOUNDARY_INVALID"
        "Boundary GeoJSON is empty or geometrically invalid." 422)
    return some geometry

/-- `_center` -/
def centerOf (latitude longitude : Option Rat) : Option Point :=
  match latitude, longitude with
  | some latitude, some longitude => some { longitude, latitude }
  | _, _ => none

/-- `_radius_meters` -/
def radiusMetersOf (platform : Platform) (radiusMiles : Option Rat) : Option Int :=
  radiusMiles.map fun miles => max 1 (platform.roundMeters miles)

/-- Rows that are added to the session and flushed. -/
def addPostalCodes (t : Table ServiceZonePostalCode) (rows : List ServiceZonePostalCode) :
    Except Raised (Table ServiceZonePostalCode) :=
  rows.foldlM (fun t row => orRaise (t.insert? row)
    (.integrityError "uq_service_area_postal_codes_area_postal")) t

/-- `except IntegrityError as exc: raise e from exc`. -/
def exceptIntegrityError {α : Type} (e : Raised) (x : Except Raised α) : Except Raised α :=
  x.mapError fun
    | .integrityError _ => e
    | raised => raised

/-- The row of a zone for a code that is requested with it. -/
def requestedRow (zone : ServiceArea) (regularServiceEnabled : Bool) (id : Uuid)
    (code : PostalCode) : ServiceZonePostalCode := {
  id
  serviceAreaId := zone.id
  postalCode := code
  city := zone.city
  stateCode := zone.stateCode
  regularServiceEnabled
  emergencyServiceEnabled := zone.emergencyEnabled
  priority := zone.priority }

def requestedRows (zone : ServiceArea) (regularServiceEnabled : Bool) (drawn : Nat)
    (codes : List PostalCode) : List ServiceZonePostalCode :=
  codes.mapIdx fun i code => requestedRow zone regularServiceEnabled (drawn + i) code

/-! ## Creation -/

/-- The zone that a request asks for. -/
def newZone (platform : Platform) (id : Uuid) (command : ServiceZoneCreate)
    (boundary : Option Geometry) : ServiceArea := {
  id
  legalEntityId := command.legalEntityId
  name := strip command.name
  countryCode := some command.countryCode
  stateCode := command.stateCode
  city := if truthy command.city then command.city.map strip else none
  postalCodes := []
  center := centerOf command.centerLatitude command.centerLongitude
  radiusMeters := radiusMetersOf platform command.radiusMiles
  boundary
  priority := command.priority
  emergencyEnabled := command.emergencyEnabled
  active := command.active }

/-- The rows of a new zone, up to the commit. -/
def addZone (db : Tables) (command : ServiceZoneCreate) (zone : ServiceArea) :
    Except Raised (Tables × ServiceArea) := do
  let zones ← orRaise (db.zones.insert? zone) (.integrityError "service_areas_pkey")
  let db := { db with zones, drawn := db.drawn + 1 }
  let db ← replaceOfferings db zone.id command.serviceIds command.regularServiceEnabled
    command.emergencyEnabled
  let postalCodes ← addPostalCodes db.postalCodes
    (requestedRows zone command.regularServiceEnabled db.drawn command.postalCodes)
  let db := { db with postalCodes, drawn := db.drawn + command.postalCodes.length }
  return (db.syncLegacyPostalCodes zone.id, zone)

def createZone (platform : Platform) (catalog : Catalog) (db : Tables)
    (command : ServiceZoneCreate) : Except Raised (Tables × ServiceArea) := do
  require (command.legalEntityId ∈ catalog.legalEntities)
    (.domainError "LEGAL_ENTITY_NOT_FOUND" "Active legal entity not found." 404)
  validateServices catalog command.serviceIds
  let boundary ← validatedBoundary platform command.boundaryGeojson
  exceptIntegrityError serviceZoneConflict
    (addZone db command (newZone platform db.drawn command boundary))

/-! ## Update -/

/-- `_regular_enabled` -/
def regularEnabled (db : Tables) (serviceAreaId : Uuid) : Bool :=
  let offerings := db.zoneOfferings serviceAreaId false
  let postalCodes := db.zonePostalCodes serviceAreaId true
  if offerings ≠ [] then offerings.any (·.regularServiceEnabled)
  else if postalCodes ≠ [] then postalCodes.any (·.regularServiceEnabled)
  else true

/-- The columns that are not null are not set to null. -/
def ServiceZoneUpdate.storable (command : ServiceZoneUpdate) : Bool :=
  command.name.notNull && command.priority.notNull && command.emergencyEnabled.notNull &&
    command.active.notNull

/-- The loop over `values`. -/
def setFields (command : ServiceZoneUpdate) (zone : ServiceArea) : ServiceArea := {
  zone with
  name := command.name.applyTo zone.name
  countryCode := command.countryCode.apply zone.countryCode
  stateCode := command.stateCode.apply zone.stateCode
  city := Patch.apply (command.city.map (·.map strip)) zone.city
  priority := command.priority.applyTo zone.priority
  emergencyEnabled := command.emergencyEnabled.applyTo zone.emergencyEnabled
  active := command.active.applyTo zone.active }

def setCenter (command : ServiceZoneUpdate) (zone : ServiceArea) : ServiceArea :=
  if ServiceZoneUpdate.flag command.clearCenter then
    { zone with center := none, radiusMeters := none }
  else if command.centerLatitude.isSome ∧ command.centerLongitude.isSome then
    { zone with center := centerOf command.centerLatitude.join command.centerLongitude.join }
  else zone

def setRadius (platform : Platform) (command : ServiceZoneUpdate) (zone : ServiceArea) :
    Except Raised ServiceArea :=
  if ServiceZoneUpdate.flag command.clearRadius then return { zone with radiusMeters := none }
  else
    match command.radiusMiles with
    | none => return zone
    | some radiusMiles => do
      require (radiusMiles.isSome → zone.center.isSome)
        (.domainError "SERVICE_ZONE_CENTER_REQUIRED" "Radius coverage requires a center point."
          422)
      return { zone with radiusMeters := radiusMetersOf platform radiusMiles }

def setBoundary (command : ServiceZoneUpdate) (boundary : Option Geometry) (zone : ServiceArea) :
    ServiceArea :=
  if ServiceZoneUpdate.flag command.clearBoundary then { zone with boundary := none }
  else if command.boundaryGeojson.isSome then { zone with boundary }
  else zone

/-- The part of the update that is about the offerings of the zone. -/
def updateOfferings (catalog : Catalog) (db : Tables) (zone : ServiceArea)
    (command : ServiceZoneUpdate) (regular : Bool) : Except Raised Tables :=
  match command.serviceIds.join with
  | some serviceIds => do
    validateServices catalog serviceIds
    replaceOfferings db zone.id serviceIds regular zone.emergencyEnabled
  | none => return { db with
      offerings := db.offerings.update (fun offering =>
        if offering.serviceAreaId = zone.id then { offering with
          regularServiceEnabled :=
            if command.regularServiceEnabled.join.isSome then regular
            else offering.regularServiceEnabled
          emergencyServiceEnabled :=
            if command.emergencyEnabled.join.isSome then zone.emergencyEnabled
            else offering.emergencyServiceEnabled }
        else offering) <| by
          intro offering
          split <;> rfl }

/-- A row of the zone after `_replace_zone_postal_codes`. -/
def replacedRow (zone : ServiceArea) (requested : List PostalCode) (regular : Bool)
    (row : ServiceZonePostalCode) : ServiceZonePostalCode :=
  if row.postalCode ∈ requested then { row with
    active := true
    city := zone.city
    stateCode := zone.stateCode
    regularServiceEnabled := regular
    emergencyServiceEnabled := zone.emergencyEnabled
    priority := zone.priority
    version := row.version + 1 }
  else { row with active := false, version := row.version + 1 }

/-- A row of the zone that an update keeps, with what the update changes of it. -/
def retainedRow (zone : ServiceArea) (command : ServiceZoneUpdate) (regular : Bool)
    (row : ServiceZonePostalCode) : ServiceZonePostalCode := {
  row with
  regularServiceEnabled :=
    if command.regularServiceEnabled.join.isSome then regular else row.regularServiceEnabled
  emergencyServiceEnabled :=
    if command.emergencyEnabled.join.isSome then zone.emergencyEnabled
    else row.emergencyServiceEnabled
  priority := if command.priority.join.isSome then zone.priority else row.priority
  version := row.version + 1 }

/-- Every row of the zone, rewritten. -/
def updateZoneRows (t : Table ServiceZonePostalCode) (serviceAreaId : Uuid)
    (f : ServiceZonePostalCode → ServiceZonePostalCode) (hf : ∀ row, key (f row) = key row) :
    Table ServiceZonePostalCode :=
  t.update (fun row => if row.serviceAreaId = serviceAreaId then f row else row) <| by
    intro row
    split
    · exact hf row
    · rfl

/-- `_replace_zone_postal_codes`; the codes to add are a set. -/
def replaceZonePostalCodes (db : Tables) (zone : ServiceArea) (codes : List PostalCode)
    (regular : Bool) : Except Raised Tables := do
  let existing := (db.zonePostalCodes zone.id false).map (·.postalCode)
  let added := codes.dedup.filter fun code => code ∉ existing
  let updated := updateZoneRows db.postalCodes zone.id (replacedRow zone codes regular) <| by
    intro row
    unfold replacedRow
    split <;> rfl
  let postalCodes ← addPostalCodes updated (requestedRows zone regular db.drawn added)
  return { db with postalCodes, drawn := db.drawn + added.length }

/-- The part of the update that is about the rows of the zone. -/
def updatePostalCodes (db : Tables) (zone : ServiceArea) (command : ServiceZoneUpdate)
    (regular : Bool) : Except Raised Tables :=
  match command.postalCodes.join with
  | some codes => replaceZonePostalCodes db zone codes regular
  | none =>
    if command.regularServiceEnabled.join.isSome ∨ command.emergencyEnabled.join.isSome ∨
        command.priority.join.isSome then
      return { db with
        postalCodes := updateZoneRows db.postalCodes zone.id (retainedRow zone command regular)
          fun _ => rfl }
    else return db

/-- What `_ensure_coverage_selector` asks for. -/
def hasCoverageSelector (db : Tables) (zone : ServiceArea) : Bool :=
  db.zonePostalCodes zone.id true ≠ [] || truthy zone.city || zone.stateCode.isSome ||
    zone.boundary.isSome || (zone.center.isSome && zone.radiusMeters.isSome)

/-- `_ensure_coverage_selector` -/
def ensureCoverageSelector (db : Tables) (zone : ServiceArea) : Except Raised Unit :=
  require (hasCoverageSelector db zone)
    (.domainError "SERVICE_ZONE_COVERAGE_REQUIRED"
      "Service zone requires a geographic coverage selector." 422)

def updateZone (platform : Platform) (catalog : Catalog) (db : Tables) (serviceAreaId : Uuid)
    (command : ServiceZoneUpdate) (expectedVersion : Nat) :
    Except Raised (Tables × ServiceArea) := do
  let zone ← orRaise (db.zones.get? serviceAreaId) serviceZoneNotFound
  requireVersion zone.version expectedVersion "Service Zone"
  let boundary ← validatedBoundary platform command.boundaryGeojson.join
  let currentRegular := regularEnabled db zone.id
  let zone ← setRadius platform command (setCenter command (setFields command zone))
  let zone := setBoundary command boundary zone
  -- the first query after this flushes the zone
  require (command.storable) (.integrityError "service_areas")
  let db := { db with zones := db.zones.put zone }
  let regular := command.regularServiceEnabled.join.getD currentRegular
  let db ← updateOfferings catalog db zone command regular
  let db ← updatePostalCodes db zone command regular
  ensureCoverageSelector db zone
  let zone := { zone with version := zone.version + 1 }
  let db := { db with zones := db.zones.put zone }
  return (db.syncLegacyPostalCodes zone.id, zone)

def deactivateZone (db : Tables) (serviceAreaId : Uuid) (expectedVersion : Nat) :
    Except Raised (Tables × ServiceArea) := do
  let zone ← orRaise (db.zones.get? serviceAreaId) serviceZoneNotFound
  requireVersion zone.version expectedVersion "Service Zone"
  let zone := { zone with active := false, version := zone.version + 1 }
  return ({ db with zones := db.zones.put zone }, zone)

end Breero.Geography
