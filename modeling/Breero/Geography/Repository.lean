import Breero.Lib.Transaction
import Breero.Geography.Models
import Mathlib.Data.List.Sort

/-!
The tables and the queries of `GeographyRepository`, and the look-up of service areas that the
booking domain has of its own.

* `syncLegacyPostalCodes` writes the list that the booking domain reads;
* `serviceAreaAt` is the look-up over that list, `matchZone` the one over the rows;
* `selects` is the part of `matchZone` that asks for a selector of the zone.
-/

namespace Breero.Geography
open KeyedTable Transaction

structure Tables where
  zones : Table ServiceArea := .empty
  offerings : Table ServiceZoneOffering := .empty
  postalCodes : Table ServiceZonePostalCode := .empty
  imports : Table PostalCodeImport := .empty
  /-- the number of values that `uuid4` has returned -/
  drawn : Nat := 0

namespace Tables

/-! ## Rows of a zone -/

def charsLe : List Char → List Char → Bool
  | [], _ => true
  | _ :: _, [] => false
  | a :: as, b :: bs => a.toNat < b.toNat || (a.toNat = b.toNat && charsLe as bs)

/-- The order of two texts in a sorted result. -/
def textLe (a b : String) : Bool := charsLe a.toList b.toList

/-- `order by priority desc, postal_code` -/
def listedBefore (a b : ServiceZonePostalCode) : Prop :=
  b.priority < a.priority ∨
    (a.priority = b.priority ∧ textLe a.postalCode.val b.postalCode.val)

instance : DecidableRel listedBefore :=
  fun a b => inferInstanceAs (Decidable (b.priority < a.priority ∨ (_ ∧ _)))

/-- `zone_postal_codes` -/
def zonePostalCodes (db : Tables) (serviceAreaId : Uuid) (activeOnly : Bool) :
    List ServiceZonePostalCode :=
  (db.postalCodes.rows.filter fun row =>
    row.serviceAreaId = serviceAreaId && (!activeOnly || row.active)).insertionSort listedBefore

/-- `offerings` -/
def zoneOfferings (db : Tables) (serviceAreaId : Uuid) (includeInactive : Bool) :
    List ServiceZoneOffering :=
  db.offerings.rows.filter fun offering =>
    offering.serviceAreaId = serviceAreaId && (includeInactive || offering.active)

/-- `postal_code` -/
def postalCode (db : Tables) (postalCodeId : Uuid) : Option ServiceZonePostalCode :=
  db.postalCodes.rows.find? fun row => row.id = postalCodeId

/-- `sync_legacy_postal_codes` -/
def syncLegacyPostalCodes (db : Tables) (serviceAreaId : Uuid) : Tables :=
  match db.zones.get? serviceAreaId with
  | none => db
  | some zone =>
    let rows := db.zonePostalCodes serviceAreaId true
    { db with
      zones := db.zones.put { zone with
        postalCodes :=
          ((rows.filter (·.regularServiceEnabled)).map (·.postalCode.base)).eraseDups } }

/-! ## Offerings -/

def addOfferings (t : Table ServiceZoneOffering) (offerings : List ServiceZoneOffering) :
    Except Raised (Table ServiceZoneOffering) :=
  offerings.foldlM (fun t offering => orRaise (t.insert? offering)
    (.integrityError "uq_service_zone_services_area_service")) t

/-- `replace_offerings`; the services to add are a set. -/
def replaceOfferings (db : Tables) (serviceAreaId : Uuid) (serviceIds : List Uuid)
    (regularServiceEnabled emergencyServiceEnabled : Bool) : Except Raised Tables := do
  let existing := (db.zoneOfferings serviceAreaId true).map (·.serviceId)
  let updated := db.offerings.update (fun offering =>
    if offering.serviceAreaId = serviceAreaId then
      if offering.serviceId ∈ serviceIds then
        { offering with active := true, regularServiceEnabled, emergencyServiceEnabled }
      else { offering with active := false }
    else offering) <| by
      intro offering
      split
      · split <;> rfl
      · rfl
  let offerings ← addOfferings updated
    ((serviceIds.dedup.filter fun serviceId => serviceId ∉ existing).map fun serviceId =>
      { serviceAreaId, serviceId, regularServiceEnabled, emergencyServiceEnabled })
  return { db with offerings }

/-! ## Look-ups -/

/-- What an address has that the look-ups compare. -/
structure Location where
  point : Point
  countryCode : String
  stateCode : Option String
  city : String
  postalCode : String
  deriving DecidableEq, Repr

/-- `boundary_match` -/
def boundaryMatch (platform : Platform) (zone : ServiceArea) (point : Point) : Bool :=
  zone.boundary.any fun boundary => platform.stCovers boundary point

/-- `radius_match` -/
def radiusMatch (platform : Platform) (zone : ServiceArea) (point : Point) : Bool :=
  match zone.center, zone.radiusMeters with
  | some center, some radius => platform.stDWithin center point radius
  | _, _ => false

/-- `service_area_at`: the zones that satisfy its conditions; the query has `limit 1` and no
order, and returns any one of them. -/
def serviceAreaAt (platform : Platform) (catalog : Catalog) (db : Tables) (location : Location) :
    List ServiceArea :=
  db.zones.rows.filter fun zone =>
    zone.active && zone.legalEntityId ∈ catalog.legalEntities &&
    zone.countryCode = some location.countryCode &&
    (zone.stateCode.isNone || zone.stateCode.map (·.val) = location.stateCode) &&
    zone.city.all (fun city => lower city = lower location.city) &&
    (zone.postalCodes = [] || truncate 5 location.postalCode ∈ zone.postalCodes) &&
    (zone.boundary.isNone || boundaryMatch platform zone location.point)

/-- `configured_postal` -/
def configuredPostal (db : Tables) (zone : ServiceArea) : Bool :=
  db.postalCodes.rows.any fun row => row.serviceAreaId = zone.id

/-- `matching_postal` -/
def matchingPostal (db : Tables) (zone : ServiceArea) (candidates : List String) : Bool :=
  db.postalCodes.rows.any fun row => row.serviceAreaId = zone.id && row.active &&
    row.regularServiceEnabled && row.postalCode.val ∈ candidates

/-- `coarse_only` -/
def coarseOnly (db : Tables) (zone : ServiceArea) : Bool :=
  !configuredPostal db zone && zone.boundary.isNone &&
  (zone.center.isNone || zone.radiusMeters.isNone) && (zone.city.isSome || zone.stateCode.isSome)

/-- `or_(matching_postal, boundary_match, radius_match, coarse_only)` -/
def selects (platform : Platform) (db : Tables) (zone : ServiceArea) (point : Point)
    (candidates : List String) : Bool :=
  matchingPostal db zone candidates || boundaryMatch platform zone point ||
    radiusMatch platform zone point || coarseOnly db zone

/-- The normalized code and its base. -/
def candidates (code : PostalCode) : List String := [code.val, code.base].eraseDups

/-- `order by priority desc, name, id` -/
def routedBefore (a b : ServiceArea) : Prop :=
  b.priority < a.priority ∨ (a.priority = b.priority ∧
    (¬ textLe b.name a.name ∨ (a.name = b.name ∧ a.id ≤ b.id)))

instance : DecidableRel routedBefore :=
  fun a b => inferInstanceAs (Decidable (b.priority < a.priority ∨ (_ ∧ (_ ∨ _))))

/-- `match_zone`; a postal code that is none raises a `ValueError`. -/
def matchZone (platform : Platform) (catalog : Catalog) (db : Tables) (location : Location)
    (serviceId : Option Uuid) : Except Raised (Option ServiceArea) := do
  let code ← orRaise (normalizePostalCode location.postalCode)
    (.other "postal code must use ZIP or ZIP+4 format")
  let rows := db.zones.rows.filter fun zone =>
    zone.active && zone.legalEntityId ∈ catalog.legalEntities &&
    (zone.countryCode.isNone || zone.countryCode = some location.countryCode) &&
    (zone.stateCode.isNone || zone.stateCode.map (·.val) = location.stateCode) &&
    selects platform db zone location.point (candidates code) &&
    (if location.city ≠ "" then zone.city.all (fun city => lower city = lower location.city)
      else zone.city.isNone) &&
    serviceId.all (fun serviceId => db.offerings.rows.any fun offering =>
      offering.serviceAreaId = zone.id && offering.serviceId = serviceId && offering.active &&
      offering.regularServiceEnabled)
  return (rows.insertionSort routedBefore).head?

end Tables

end Breero.Geography
