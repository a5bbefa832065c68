import Breero.Common.Raised
import Breero.Common.Unicode
import Breero.Lib.Table

/-!
Service zones, their postal codes and their offerings, and the requests of an administrator.

* `PostalCode` and `StateCode` are texts in the format that their validators demand;
* `Platform` is what PostGIS, the float arithmetic and `hashlib` compute;
* `coverageShape`, `validatePatch` and `uniquePostalCodes` are the validators of the requests.
-/

namespace Breero.Geography
open KeyedTable

/-! ## Postal codes and states -/

def digits (cs : List Char) : Bool := cs.all fun c => '0' ≤ c && c ≤ '9'

/-- `ZIP_RE`: `[0-9]{5}(?:-[0-9]{4})?` -/
def zipRe (s : String) : Bool :=
  let cs := s.toList
  (cs.length = 5 && digits cs) ||
    (cs.length = 10 && digits (cs.take 5) && (cs.drop 5).head? = some '-' && digits (cs.drop 6))

abbrev PostalCode := { s : String // zipRe s }

instance : LawfulBEq PostalCode := inferInstance

/-- `normalize_postal_code`; it raises a `ValueError` for what is no postal code. -/
def normalizePostalCode (value : String) : Option PostalCode :=
  let normalized := strip value
  let cs := normalized.toList
  let normalized := if cs.length = 9 ∧ cs.all isDigit then
      String.ofList (cs.take 5 ++ '-' :: cs.drop 5)
    else normalized
  if h : zipRe normalized then some ⟨normalized, h⟩ else none

/-- `code.split("-", 1)[0]` -/
def PostalCode.base (code : PostalCode) : String :=
  String.ofList (code.val.toList.takeWhile (· ≠ '-'))

/-- `base_postal_code` -/
def basePostalCode (value : String) : Option String :=
  (normalizePostalCode value).map PostalCode.base

/-- `STATE_RE`: `[A-Z]{2,3}` -/
def stateRe (s : String) : Bool :=
  let cs := s.toList
  (cs.length = 2 || cs.length = 3) && cs.all fun c => 'A' ≤ c && c ≤ 'Z'

abbrev StateCode := { s : String // stateRe s }

/-! ## Rows -/

/-- A longitude and a latitude. -/
structure Point where
  longitude : Rat
  latitude : Rat
  deriving DecidableEq, Repr

/-- The geometry that PostGIS makes of a GeoJSON text. -/
structure Geometry where
  geojson : String
  deriving DecidableEq, Repr

structure ServiceArea where
  id : Uuid
  legalEntityId : Uuid
  name : String
  countryCode : Option String
  stateCode : Option StateCode
  city : Option String
  postalCodes : List String
  center : Option Point
  radiusMeters : Option Int
  boundary : Option Geometry
  active : Bool := true
  priority : Nat := 100
  emergencyEnabled : Bool := false
  version : Nat := 1
  deriving DecidableEq, Repr

instance : Keyed ServiceArea Uuid := ⟨ServiceArea.id⟩

/-- `uq_service_zone_services_area_service` is its key. -/
structure ServiceZoneOffering where
  serviceAreaId : Uuid
  serviceId : Uuid
  active : Bool := true
  regularServiceEnabled : Bool := true
  emergencyServiceEnabled : Bool := false
  deriving DecidableEq, Repr

instance : Keyed ServiceZoneOffering (Uuid × Uuid) :=
  ⟨fun offering => (offering.serviceAreaId, offering.serviceId)⟩

/-- `uq_service_area_postal_codes_area_postal` is its key. -/
structure ServiceZonePostalCode where
  id : Uuid
  serviceAreaId : Uuid
  postalCode : PostalCode
  city : Option String
  stateCode : Option StateCode
  active : Bool := true
  regularServiceEnabled : Bool := true
  emergencyServiceEnabled : Bool := false
  priority : Nat := 100
  version : Nat := 1
  deriving DecidableEq, Repr

instance : Keyed ServiceZonePostalCode (Uuid × PostalCode) :=
  ⟨fun row => (row.serviceAreaId, row.postalCode)⟩

/-- An import that is committed is complete. -/
structure PostalCodeImport where
  serviceAreaId : Uuid
  idempotencyKey : String
  requestHash : String
  totalRows : Nat
  importedRows : Nat := 0
  completedAt : Option Instant := none
  deriving DecidableEq, Repr

instance : Keyed PostalCodeImport String := ⟨PostalCodeImport.idempotencyKey⟩

/-! ## Requests -/

/-- A field of a patch: `none` where it is not set, `some none` where it is set to null. -/
abbrev Patch (α : Type) := Option (Option α)

/-- The column after `setattr`, if the field is set. -/
def Patch.apply {α : Type} (field : Patch α) (column : Option α) : Option α := field.getD column

/-- The same for a column that is `NOT NULL`. -/
def Patch.applyTo {α : Type} (field : Patch α) (column : α) : α := (field.getD none).getD column

/-- The field is not set to null. -/
def Patch.notNull {α : Type} (field : Patch α) : Bool := field.all Option.isSome

/-- A GeoJSON object: its `type` and what `json.dumps` makes of it. -/
structure GeoJson where
  type : Option String
  encoded : String
  deriving DecidableEq, Repr

/-- `bool(boundary)`. -/
def GeoJson.truthy (boundary : GeoJson) : Bool := boundary.encoded ≠ "\x7b\x7d"

structure ServiceZoneCreate where
  legalEntityId : Uuid
  name : String
  countryCode : String := "US"
  stateCode : Option StateCode := none
  city : Option String := none
  postalCodes : List PostalCode := []
  serviceIds : List Uuid := []
  centerLatitude : Option Rat := none
  centerLongitude : Option Rat := none
  radiusMiles : Option Rat := none
  boundaryGeojson : Option GeoJson := none
  priority : Nat := 100
  regularServiceEnabled : Bool := true
  emergencyEnabled : Bool := false
  active : Bool := true
  deriving DecidableEq, Repr

/-- `bool(text)` of a string or of `None`. -/
def truthy (text : Option String) : Bool := text.any (· ≠ "")

/-- `coverage_shape` -/
def ServiceZoneCreate.coverageShape (command : ServiceZoneCreate) : Bool :=
  command.centerLatitude.isSome = command.centerLongitude.isSome &&
  (command.radiusMiles.isNone || command.centerLatitude.isSome) &&
  (command.centerLatitude.isNone || command.radiusMiles.isSome) &&
  (command.postalCodes ≠ [] || truthy command.city || command.stateCode.isSome ||
    command.boundaryGeojson.any GeoJson.truthy || command.centerLatitude.isSome)

structure ServiceZoneUpdate where
  name : Patch String := none
  countryCode : Patch String := none
  stateCode : Patch StateCode := none
  city : Patch String := none
  postalCodes : Patch (List PostalCode) := none
  serviceIds : Patch (List Uuid) := none
  centerLatitude : Patch Rat := none
  centerLongitude : Patch Rat := none
  clearCenter : Option Bool := none
  radiusMiles : Patch Rat := none
  clearRadius : Option Bool := none
  boundaryGeojson : Patch GeoJson := none
  clearBoundary : Option Bool := none
  priority : Patch Nat := none
  regularServiceEnabled : Patch Bool := none
  emergencyEnabled : Patch Bool := none
  active : Patch Bool := none
  deriving DecidableEq, Repr

namespace ServiceZoneUpdate

/-- Some field is set. -/
def someSet (command : ServiceZoneUpdate) : Bool := command ≠ {}

/-- A flag that is `False` where it is not set. -/
def flag (value : Option Bool) : Bool := value.getD false

/-- `validate_patch` -/
def validatePatch (command : ServiceZoneUpdate) : Bool :=
  command.someSet &&
  command.centerLatitude.isSome = command.centerLongitude.isSome &&
  command.centerLatitude.notNull && command.centerLongitude.notNull &&
  !(flag command.clearCenter && command.centerLatitude.isSome) &&
  !(flag command.clearCenter && command.radiusMiles.isSome) &&
  !(flag command.clearRadius && command.radiusMiles.isSome) &&
  !(flag command.clearBoundary && command.boundaryGeojson.isSome)

end ServiceZoneUpdate

structure PostalCodeCreate where
  serviceAreaId : Uuid
  postalCode : PostalCode
  city : Option String := none
  stateCode : Option StateCode := none
  active : Bool := true
  regularServiceEnabled : Bool := true
  emergencyServiceEnabled : Bool := false
  priority : Nat := 100
  deriving DecidableEq, Repr

structure PostalCodeUpdate where
  city : Patch String := none
  stateCode : Patch StateCode := none
  active : Patch Bool := none
  regularServiceEnabled : Patch Bool := none
  emergencyServiceEnabled : Patch Bool := none
  priority : Patch Nat := none
  deriving DecidableEq, Repr

/-- `validate_patch`: some field is set. -/
def PostalCodeUpdate.validatePatch (command : PostalCodeUpdate) : Bool := command ≠ {}

structure PostalCodeImportRow where
  postalCode : PostalCode
  city : Option String := none
  stateCode : Option StateCode := none
  active : Bool := true
  regularServiceEnabled : Bool := true
  emergencyServiceEnabled : Bool := false
  priority : Nat := 100
  deriving DecidableEq, Repr

structure PostalCodeImportRequest where
  serviceAreaId : Uuid
  rows : List PostalCodeImportRow
  deriving DecidableEq, Repr

/-- `min_length=1` and `unique_postal_codes` -/
def PostalCodeImportRequest.uniquePostalCodes (command : PostalCodeImportRequest) : Bool :=
  command.rows ≠ [] && (command.rows.map (·.postalCode)).Nodup

/-! ## What is not in the repository -/

structure Platform where
  /-- `ST_IsValid` and `ST_IsEmpty`; `none` where PostGIS cannot read the text -/
  stIsValid : Geometry → Option (Bool × Bool)
  stCovers : Geometry → Point → Bool
  stDWithin : Point → Point → Int → Bool
  /-- `round(miles * 1609.344)` -/
  roundMeters : Rat → Int
  /-- `sha256` of the request as `json.dumps` with sorted keys writes it -/
  hash : PostalCodeImportRequest → String

/-- The legal entities and the catalog services that are active. -/
structure Catalog where
  legalEntities : List Uuid := []
  services : List Uuid := []
  deriving DecidableEq, Repr

end Breero.Geography
