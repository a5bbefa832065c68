import Breero.Lib.Runs
import Breero.Geography.AdminPostalCodes

/-!
The requests of the administrators, one after another. A request that its schema refuses, or
that raises, changes nothing.
-/

namespace Breero.Geography
open KeyedTable Transaction

inductive Op
  | createZone (catalog : Catalog) (command : ServiceZoneCreate)
  | updateZone (catalog : Catalog) (serviceAreaId : Uuid) (command : ServiceZoneUpdate)
    (expectedVersion : Nat)
  | deactivateZone (serviceAreaId : Uuid) (expectedVersion : Nat)
  | createPostalCode (command : PostalCodeCreate)
  | updatePostalCode (postalCodeId : Uuid) (command : PostalCodeUpdate) (expectedVersion : Nat)
  | deactivatePostalCode (postalCodeId : Uuid) (expectedVersion : Nat)
  | importPostalCodes (command : PostalCodeImportRequest) (idempotencyKey : String)
    (now : Instant)

def requestValidationError : Raised := .httpException 422 "Unprocessable Entity"

/-- The route: the schema of the request, then the service. -/
def perform (platform : Platform) (db : Tables) : Op → Except Raised Tables
  | .createZone catalog command => do
    require (command.coverageShape) requestValidationError
    let (db, _) ← createZone platform catalog db command
    return db
  | .updateZone catalog serviceAreaId command expectedVersion => do
    require (command.validatePatch) requestValidationError
    let (db, _) ← updateZone platform catalog db serviceAreaId command expectedVersion
    return db
  | .deactivateZone serviceAreaId expectedVersion => do
    let (db, _) ← deactivateZone db serviceAreaId expectedVersion
    return db
  | .createPostalCode command => do
    let (db, _) ← createPostalCode db command
    return db
  | .updatePostalCode postalCodeId command expectedVersion => do
    require (command.validatePatch) requestValidationError
    let (db, _) ← updatePostalCode db postalCodeId command expectedVersion
    return db
  | .deactivatePostalCode postalCodeId expectedVersion => do
    let (db, _) ← deactivatePostalCode db postalCodeId expectedVersion
    return db
  | .importPostalCodes command idempotencyKey now => do
    require (command.uniquePostalCodes) requestValidationError
    let (db, _) ← importPostalCodes platform db command idempotencyKey now
    return db

def Tables.exec (platform : Platform) (db : Tables) (op : Op) : Tables :=
  match perform platform db op with
  | .ok db => db
  | .error _ => db

end Breero.Geography
