import Breero.Geography.AdminZones

/-!
`AdminPostalCodeService`: the transactions on the postal codes of a zone.

* each of them changes rows of one zone, raises the version of that zone and refreshes the
  list of the zone before it commits;
* `importPostalCodes` answers a key that has its import without doing it again.
-/

namespace Breero.Geography
open KeyedTable Transaction Tables

def postalCodeNotFound : Raised :=
  .domainError "POSTAL_CODE_NOT_FOUND" "Postal code not found." 404

def postalCodeConflict : Raised :=
  .domainError "POSTAL_CODE_CONFLICT" "Postal code already exists in this service zone." 409

/-- `zone.version += 1`, if there is the zone. -/
def bumpZone (db : Tables) (serviceAreaId : Uuid) : Tables :=
  match db.zones.get? serviceAreaId with
  | some zone => { db with zones := db.zones.put { zone with version := zone.version + 1 } }
  | none => db

/-- `a or b` of two columns. -/
def orElse {α : Type} (falsy : α → Bool) (a b : Option α) : Option α :=
  if a.all falsy then b else a

def newPostalCode (zone : ServiceArea) (id : Uuid) (command : PostalCodeCreate) :
    ServiceZonePostalCode := {
  id
  serviceAreaId := zone.id
  postalCode := command.postalCode
  city := orElse (· = "") command.city zone.city
  stateCode := orElse (fun _ => false) command.stateCode zone.stateCode
  active := command.active
  regularServiceEnabled := command.regularServiceEnabled
  emergencyServiceEnabled := command.emergencyServiceEnabled
  priority := command.priority }

def createPostalCode (db : Tables) (command : PostalCodeCreate) :
    Except Raised (Tables × ServiceZonePostalCode) := do
  let zone ← orRaise (db.zones.get? command.serviceAreaId) serviceZoneNotFound
  require (db.postalCodes.get? (zone.id, command.postalCode) = none) postalCodeConflict
  let row := newPostalCode zone db.drawn command
  let postalCodes ← exceptIntegrityError postalCodeConflict (addPostalCodes db.postalCodes [row])
  let db := bumpZone { db with postalCodes, drawn := db.drawn + 1 } zone.id
  return (db.syncLegacyPostalCodes zone.id, row)

/-- The columns that are not null are not set to null. -/
def PostalCodeUpdate.storable (command : PostalCodeUpdate) : Bool :=
  command.active.notNull && command.regularServiceEnabled.notNull &&
    command.emergencyServiceEnabled.notNull && command.priority.notNull

def patchedRow (command : PostalCodeUpdate) (row : ServiceZonePostalCode) :
    ServiceZonePostalCode := {
  row with
  city := command.city.apply row.city
  stateCode := command.stateCode.apply row.stateCode
  active := command.active.applyTo row.active
  regularServiceEnabled := command.regularServiceEnabled.applyTo row.regularServiceEnabled
  emergencyServiceEnabled := command.emergencyServiceEnabled.applyTo row.emergencyServiceEnabled
  priority := command.priority.applyTo row.priority
  version := row.version + 1 }

/-- A changed row and the zone that it is of, up to the commit. -/
def writePostalCode (db : Tables) (row : ServiceZonePostalCode) : Tables :=
  (bumpZone { db with postalCodes := db.postalCodes.put row }
    row.serviceAreaId).syncLegacyPostalCodes row.serviceAreaId

def updatePostalCode (db : Tables) (postalCodeId : Uuid) (command : PostalCodeUpdate)
    (expectedVersion : Nat) : Except Raised (Tables × ServiceZonePostalCode) := do
  let row ← orRaise (db.postalCode postalCodeId) postalCodeNotFound
  requireVersion row.version expectedVersion "Postal Code"
  -- the query for the zone flushes the row
  require (command.storable) (.integrityError "service_area_postal_codes")
  let row := patchedRow command row
  return (writePostalCode db row, row)

def deactivatedRow (row : ServiceZonePostalCode) : ServiceZonePostalCode :=
  { row with active := false, version := row.version + 1 }

def deactivatePostalCode (db : Tables) (postalCodeId : Uuid) (expectedVersion : Nat) :
    Except Raised (Tables × ServiceZonePostalCode) := do
  let row ← orRaise (db.postalCode postalCodeId) postalCodeNotFound
  requireVersion row.version expectedVersion "Postal Code"
  let row := deactivatedRow row
  return (writePostalCode db row, row)

/-! ## Import -/

/-- A row of the zone with the values of the item. -/
def importedRow (item : PostalCodeImportRow) (row : ServiceZonePostalCode) :
    ServiceZonePostalCode := {
  row with
  city := item.city
  stateCode := item.stateCode
  active := item.active
  regularServiceEnabled := item.regularServiceEnabled
  emergencyServiceEnabled := item.emergencyServiceEnabled
  priority := item.priority
  version := row.version + 1 }

def newImportedRow (serviceAreaId id : Uuid) (item : PostalCodeImportRow) :
    ServiceZonePostalCode := {
  id
  serviceAreaId
  postalCode := item.postalCode
  city := item.city
  stateCode := item.stateCode
  active := item.active
  regularServiceEnabled := item.regularServiceEnabled
  emergencyServiceEnabled := item.emergencyServiceEnabled
  priority := item.priority }

/-- The loop of the import, which counts the rows that it has imported. No code comes twice, so
that a row is there at its item if it was there before the loop. -/
def importRows (serviceAreaId : Uuid) (t : Table ServiceZonePostalCode) (drawn imported : Nat) :
    List PostalCodeImportRow → Except Raised (Table ServiceZonePostalCode × Nat)
  | [] => return (t, imported)
  | item :: items => do
    match t.get? (serviceAreaId, item.postalCode) with
    | some row =>
      importRows serviceAreaId (t.put (importedRow item row)) drawn (imported + 1) items
    | none =>
      let t ← addPostalCodes t [newImportedRow serviceAreaId drawn item]
      importRows serviceAreaId t (drawn + 1) (imported + 1) items

def importPostalCodes (platform : Platform) (db : Tables) (command : PostalCodeImportRequest)
    (idempotencyKey : String) (now : Instant) : Except Raised (Tables × PostalCodeImport) := do
  let requestHash := platform.hash command
  match db.imports.get? idempotencyKey with
  | some existing =>
    require (existing.requestHash = requestHash)
      (.domainError "IDEMPOTENCY_CONFLICT"
        "Idempotency key was used for a different postal-code import." 409)
    return (db, existing)
  | none =>
    let zone ← orRaise (db.zones.get? command.serviceAreaId) serviceZoneNotFound
    let record : PostalCodeImport := {
      serviceAreaId := zone.id
      idempotencyKey
      requestHash
      totalRows := command.rows.length }
    let imports ← orRaise (db.imports.insert? record)
      (.integrityError "postal_code_imports_idempotency_key_key")
    let (postalCodes, importedRows) ←
      importRows zone.id db.postalCodes db.drawn record.importedRows command.rows
    let record := { record with importedRows, completedAt := some now }
    let db := bumpZone { db with
      imports := imports.put record
      postalCodes
      drawn := db.drawn + command.rows.length } zone.id
    return (db.syncLegacyPostalCodes zone.id, record)

end Breero.Geography
