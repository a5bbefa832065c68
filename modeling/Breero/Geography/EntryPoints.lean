import Breero.Common.Outbox
import Breero.Geography.Lookups
import Breero.Geography.PostalCodes

/-!
The two public look-ups of `GeographyService`: of an address that is validated, and of a point
and a postal code that are asked for.

* `validateAddress` looks for a zone with the base ZIP of the geocoded address,
  `checkServiceArea` with the code that it is called with;
* `matchZone_ok` says which zones `match_zone` chooses from;
* `Agree` says that an address which is covered for a service is covered when it is validated;
* `entry_points_agree_iff`: the two agree on an address if and only if no zone that serves it
  depends on a row of its ZIP+4 alone.
-/

namespace Breero.Geography
open KeyedTable Transaction Tables

/-! ## Addresses -/

/-- A result of the geocoding provider; the confidence is as `str` writes it. -/
structure GeocodedAddress where
  formattedAddress : String
  line1 : String
  city : String
  postalCode : String
  countryCode : String
  point : Point
  provider : String
  providerReference : Option String := none
  confidence : Option Rat := none
  stateCode : Option String := none
  timezoneName : Option String := none
  line2 : Option String := none
  county : Option String := none
  postalCodePlus4 : Option String := none
  deriving DecidableEq, Repr

/-- Its country is `US`. -/
structure AddressValidationRequest where
  addressLine1 : String
  addressLine2 : Option String := none
  city : String
  state : StateCode
  postalCode : PostalCode
  deriving DecidableEq, Repr

/-- Its country is `US`. -/
structure ServiceAreaCheckRequest where
  point : Point
  postalCode : PostalCode
  serviceId : Uuid
  city : Option String := none
  state : Option StateCode := none
  deriving DecidableEq, Repr

/-- The row of `addresses` -/
structure Address where
  id : Uuid
  formattedAddress : String
  line1 : String
  line2 : Option String
  city : String
  county : Option String
  stateCode : Option String
  postalCode : String
  postalCodePlus4 : Option String
  countryCode : String
  location : Point
  serviceAreaId : Option Uuid
  geocodingProvider : String
  providerReference : Option String
  validationStatus : String
  validationConfidence : Option Rat
  timezoneName : String
  deriving DecidableEq, Repr

/-- The lengths of the columns -/
def Address.fits (address : Address) : Bool :=
  address.formattedAddress.length ≤ 500 && address.line1.length ≤ 200 &&
  address.line2.all (·.length ≤ 200) && address.city.length ≤ 120 &&
  address.county.all (·.length ≤ 120) && address.stateCode.all (·.length ≤ 3) &&
  address.postalCode.length ≤ 32 && address.postalCodePlus4.all (·.length ≤ 4) &&
  address.countryCode.length ≤ 2 && address.geocodingProvider.length ≤ 40 &&
  address.providerReference.all (·.length ≤ 255) &&
  address.validationConfidence.all (fun q => -10 < q && q < 10) &&
  address.timezoneName.length ≤ 64

structure ServiceZoneSummary where
  id : Uuid
  name : String
  emergencyEnabled : Bool
  deriving DecidableEq, Repr

structure ServiceAreaCheckResult where
  covered : Bool
  serviceZone : Option ServiceZoneSummary
  deriving DecidableEq, Repr

structure AddressValidationResult where
  addressId : Uuid
  address : Address
  coordinates : Point
  timezone : String
  validationStatus : String
  validationSource : String
  covered : Bool
  serviceZone : Option ServiceZoneSummary
  deriving DecidableEq, Repr

/-- `_zone_summary` -/
def zoneSummary (zone : ServiceArea) : ServiceZoneSummary :=
  { id := zone.id, name := zone.name, emergencyEnabled := zone.emergencyEnabled }

/-! ## The entry points -/

/-- What Python and its database of time zones compute. -/
structure Runtime where
  casefold : String → String
  /-- `ZoneInfo(name)` finds it -/
  knownZone : String → Bool

/-- `_address_text` -/
def addressText (command : AddressValidationRequest) : String :=
  let pieces := [some command.addressLine1, command.addressLine2, some command.city,
    some command.state.val, some command.postalCode.val, some "US"]
  ", ".intercalate (((pieces.filterMap id).map strip).filter (· ≠ ""))

/-- The evidence of an address is complete. -/
def GeocodedAddress.complete (resolved : GeocodedAddress) : Bool :=
  resolved.countryCode = "US" && resolved.line1 ≠ "" && resolved.city ≠ "" &&
  truthy resolved.stateCode && resolved.postalCode ≠ "" && truthy resolved.timezoneName

/-- The fields in which the address is not the one that was asked for. -/
def mismatches (runtime : Runtime) (command : AddressValidationRequest)
    (resolved : GeocodedAddress) (base : String) : List String :=
  (if runtime.casefold (strip resolved.city) ≠ runtime.casefold (strip command.city) then
    ["city"] else []) ++
  (if upper (strip (resolved.stateCode.getD "")) ≠ command.state.val then ["state"] else []) ++
  (if base ≠ command.postalCode.base then ["postal_code"] else [])

/-- What `match_zone` is given of an address: its base ZIP. -/
def GeocodedAddress.location (resolved : GeocodedAddress) : Location :=
  { point := resolved.point
    countryCode := resolved.countryCode
    stateCode := resolved.stateCode
    city := resolved.city
    postalCode := resolved.postalCode }

/-- `quantize(Decimal("0.0001"))` rounds half to even. -/
def quantize (q : Rat) : Rat :=
  let scaled := q * 10000
  let rest := scaled - scaled.floor
  let up := 1 < 2 * rest || (2 * rest = 1 && scaled.floor % 2 = 1)
  (if up then scaled.floor + 1 else scaled.floor) / 10000

def newAddress (command : AddressValidationRequest) (resolved : GeocodedAddress)
    (timezone : String) (zone : Option ServiceArea) (id : Uuid) : Address :=
  { id
    formattedAddress := resolved.formattedAddress
    line1 := resolved.line1
    line2 := if truthy resolved.line2 then resolved.line2 else command.addressLine2
    city := resolved.city
    county := resolved.county
    stateCode := resolved.stateCode
    postalCode := resolved.postalCode
    postalCodePlus4 := resolved.postalCodePlus4
    countryCode := resolved.countryCode
    location := resolved.point
    serviceAreaId := zone.map (·.id)
    geocodingProvider := resolved.provider
    providerReference := resolved.providerReference
    validationStatus := "VALID"
    validationConfidence := resolved.confidence.map quantize
    timezoneName := timezone }

def addressAudit (address : Address) (correlationId : Option String) (now : Instant) : AuditLog :=
  { actorId := none
    actorType := "anonymous_session"
    action := "address.validate"
    resourceType := "address"
    resourceId := address.id
    metadata := [("country_code", .str address.countryCode),
      ("state_code", .ofOption address.stateCode),
      ("postal_code", .str address.postalCode),
      ("service_area_id", .ofOption (address.serviceAreaId.map toString)),
      ("provider", .str address.geocodingProvider),
      ("correlation_id", .ofOption correlationId)]
    createdAt := now }

/-- The rows that are written, and the answer. -/
structure Validated where
  address : Address
  audit : AuditLog
  result : AddressValidationResult
  deriving DecidableEq, Repr

/-- `validate_address`; a `provider` finds the address of a text. -/
def validateAddress (runtime : Runtime) (provider : String → Except Raised GeocodedAddress)
    (platform : Platform) (catalog : Catalog) (db : Tables) (command : AddressValidationRequest)
    (correlationId : Option String) (addressId : Uuid) (now : Instant) :
    Except Raised Validated := do
  let resolved ← provider (addressText command)
  require resolved.complete (.domainError "ADDRESS_VALIDATION_INCOMPLETE"
    "Address provider did not return complete U.S. address evidence." 422)
  let base ← orRaise (basePostalCode resolved.postalCode)
    (.other "postal code must use ZIP or ZIP+4 format")
  require (mismatches runtime command resolved base = []) (.domainError "ADDRESS_INPUT_MISMATCH"
    "Validated address does not match the supplied locality." 422)
  let timezone := strip (resolved.timezoneName.getD "")
  require (runtime.knownZone timezone) (.domainError "TIMEZONE_INVALID"
    "Service-address timezone is invalid." 422)
  let zone ← matchZone platform catalog db resolved.location none
  let address := newAddress command resolved timezone zone addressId
  require address.fits (.other "value too long for its column")
  return {
    address
    audit := addressAudit address correlationId now
    result :=
      { addressId
        address
        coordinates := resolved.point
        timezone
        validationStatus := "VALID"
        validationSource := address.geocodingProvider
        covered := zone.isSome
        serviceZone := zone.map zoneSummary } }

/-- What `match_zone` is given of a request: its code, with an extension if it has one. -/
def ServiceAreaCheckRequest.location (command : ServiceAreaCheckRequest) : Location :=
  { point := command.point
    countryCode := "US"
    stateCode := command.state.map (·.val)
    city := command.city.getD ""
    postalCode := command.postalCode.val }

/-- `check_service_area` -/
def checkServiceArea (platform : Platform) (catalog : Catalog) (db : Tables)
    (command : ServiceAreaCheckRequest) : Except Raised ServiceAreaCheckResult := do
  require (command.serviceId ∈ catalog.services)
    (.domainError "SERVICE_NOT_FOUND" "Service not found." 404)
  let zone ← matchZone platform catalog db command.location (some command.serviceId)
  return { covered := zone.isSome, serviceZone := zone.map zoneSummary }

/-! ## Which zones `match_zone` chooses from -/

/-- The zone is in force at the place, whatever selects it there. -/
def inForce (catalog : Catalog) (location : Location) (zone : ServiceArea) : Bool :=
  zone.active && zone.legalEntityId ∈ catalog.legalEntities &&
  (zone.countryCode.isNone || zone.countryCode = some location.countryCode) &&
  (zone.stateCode.isNone || zone.stateCode.map (·.val) = location.stateCode) &&
  (if location.city ≠ "" then zone.city.all (fun city => lower city = lower location.city)
    else zone.city.isNone)

/-- The zone offers the service as a regular one. -/
def offers (db : Tables) (zone : ServiceArea) (serviceId : Uuid) : Bool :=
  db.offerings.rows.any fun offering =>
    offering.serviceAreaId = zone.id && offering.serviceId = serviceId && offering.active &&
    offering.regularServiceEnabled

theorem matchZone_ok (platform : Platform) (catalog : Catalog) (db : Tables) (location : Location)
    (serviceId : Option Uuid) {code : PostalCode}
    (hcode : normalizePostalCode location.postalCode = some code) :
    ∃ found, matchZone platform catalog db location serviceId = .ok found ∧
      (found.isSome ↔ ∃ zone ∈ db.zones.rows, inForce catalog location zone ∧
        selects platform db zone location.point (candidates code) ∧
        serviceId.all (offers db zone)) := by
  simp only [matchZone, seq_committed, orRaise_committed, return_committed, hcode]
  refine ⟨_, ⟨_, rfl, rfl⟩, ?_⟩
  rw [List.isSome_head?, ← List.length_pos_iff, List.length_insertionSort, List.length_pos_iff,
    ne_eq, List.filter_eq_nil_iff]
  push Not
  refine exists_congr fun zone => and_congr_right fun _ => ?_
  simp only [Bool.and_eq_true, inForce]
  constructor
  · rintro ⟨⟨⟨hplace, hselects⟩, hcity⟩, hoffers⟩
    exact ⟨⟨hplace, hcity⟩, hselects, hoffers⟩
  · rintro ⟨⟨hplace, hcity⟩, hselects, hoffers⟩
    exact ⟨⟨⟨hplace, hselects⟩, hcity⟩, hoffers⟩

/-! ## Agreement -/

/-- The request asks for the geocoded address, with the extension of its ZIP. -/
structure AsksFor (request : ServiceAreaCheckRequest) (resolved : GeocodedAddress) : Prop where
  point : request.point = resolved.point
  city : request.city = some resolved.city
  state : request.state.map (·.val) = resolved.stateCode
  postalCode : request.postalCode.val.toList =
    Text.joinOnce '-' resolved.postalCode.toList (resolved.postalCodePlus4.map String.toList)

/-- If the request is covered for some service, the address that is validated is covered. -/
def Agree (platform : Platform) (catalog : Catalog) (db : Tables)
    (request : ServiceAreaCheckRequest) (validated : Except Raised Validated) : Prop :=
  (∃ serviceId result,
    checkServiceArea platform catalog db { request with serviceId } = .ok result ∧
      result.covered = true) → ∃ answer, validated = .ok answer ∧ answer.result.covered = true

/-- No zone that serves the address depends on a row of its ZIP+4 alone: if there is one with such
a row, it or another zone in force there is selected by the base ZIP or by its area. -/
def ServedWithoutExtension (platform : Platform) (catalog : Catalog) (db : Tables)
    (request : ServiceAreaCheckRequest) : Prop :=
  ∀ zone ∈ db.zones.rows, inForce catalog request.location zone →
    (∃ serviceId ∈ catalog.services, offers db zone serviceId) →
    (∃ row ∈ db.postalCodes.rows, row.serviceAreaId = zone.id ∧ row.active ∧
      row.regularServiceEnabled ∧ row.postalCode = request.postalCode) →
    ∃ other ∈ db.zones.rows, inForce catalog request.location other ∧
      selects platform db other request.point [request.postalCode.base]

section
variable {runtime : Runtime} {provider : String → Except Raised GeocodedAddress}
  {platform : Platform} {catalog : Catalog} {db : Tables} {command : AddressValidationRequest}
  {correlationId : Option String} {addressId : Uuid} {now : Instant} {resolved : GeocodedAddress}
  {request : ServiceAreaCheckRequest} {validated : Validated} {raw : Option String}

/-- The code of a request is the base ZIP of its address, and what follows the hyphen. -/
theorem AsksFor.base (h : AsksFor request resolved)
    (hcode : geocodedPostalCode raw = .ok ⟨resolved.postalCode, resolved.postalCodePlus4⟩) :
    request.postalCode.base = resolved.postalCode := by
  simp only [geocodedPostalCode, seq_committed, require_committed, return_committed,
    USPostalCode.mk.injEq] at hcode
  obtain ⟨_, -, hzip, -⟩ := hcode
  have hfree : '-' ∉ resolved.postalCode.toList := by
    rw [← hzip, String.toList_ofList]
    exact (Text.splitOnce_eq_iff.mp rfl).2
  rw [PostalCode.base, h.postalCode, Text.takeWhile_joinOnce hfree, String.ofList_toList]

theorem mem_candidates {code : PostalCode} {s : String} :
    s ∈ candidates code ↔ s = code.val ∨ s = code.base := by
  simp [candidates]

/-- A zone is selected by the code without its extension, or by a row of the code. -/
theorem selects_candidates {zone : ServiceArea} {point : Point} {code : PostalCode} :
    selects platform db zone point (candidates code) ↔
      selects platform db zone point [code.base] ∨ ∃ row ∈ db.postalCodes.rows,
        row.serviceAreaId = zone.id ∧ row.active ∧ row.regularServiceEnabled ∧
          row.postalCode = code := by
  simp only [selects_iff, matchingPostal_iff, mem_candidates, List.mem_singleton, mem_ofZone]
  constructor
  · rintro (⟨row, ⟨hrow, harea⟩, hactive, hregular, hval | hbase⟩ | harea)
    · exact .inr ⟨row, hrow, harea, hactive, hregular, Subtype.ext hval⟩
    · exact .inl (.inl ⟨row, ⟨hrow, harea⟩, hactive, hregular, hbase⟩)
    · exact .inl (.inr harea)
  · rintro ((⟨row, hrow, hactive, hregular, hbase⟩ | harea) |
      ⟨row, hrow, harea, hactive, hregular, rfl⟩)
    · exact .inl ⟨row, hrow, hactive, hregular, .inr hbase⟩
    · exact .inr harea
    · exact .inl ⟨row, ⟨hrow, harea⟩, hactive, hregular, .inl rfl⟩

theorem zipRe_base (code : PostalCode) : zipRe code.base := by
  obtain ⟨zip, plus4, hzip⟩ := zipRe_iff.mp code.property
  have hfree : '-' ∉ zip := fun hmem => by
    have hdigit := hzip.zip_digits '-' hmem
    revert hdigit
    decide
  refine zipRe_iff.mpr ⟨zip, none, ?_, hzip.zip_length, hzip.zip_digits, nofun, nofun⟩
  rw [PostalCode.base, hzip.text, Text.takeWhile_joinOnce hfree, String.toList_ofList]
  rfl

/-- The base ZIP is a code of its own. -/
def PostalCode.baseCode (code : PostalCode) : PostalCode := ⟨code.base, zipRe_base code⟩

theorem PostalCode.baseCode_base (code : PostalCode) : code.baseCode.base = code.base := by
  have hhyphen : ∀ c ∈ code.base.toList, decide (c ≠ '-') = true := by
    intro c hc
    rw [PostalCode.base, String.toList_ofList] at hc
    simpa using List.mem_takeWhile_imp hc
  change String.ofList (code.base.toList.takeWhile (· ≠ '-')) = code.base
  rw [List.takeWhile_eq_self_iff.mpr hhyphen, String.ofList_toList]

theorem selects_baseCode {zone : ServiceArea} {point : Point} {code : PostalCode} :
    selects platform db zone point (candidates code.baseCode) ↔
      selects platform db zone point [code.base] := by
  rw [selects_candidates, code.baseCode_base]
  constructor
  · rintro (h | ⟨row, hrow, harea, hactive, hregular, heq⟩)
    · exact h
    · exact selects_iff.mpr (.inl (matchingPostal_iff.mpr ⟨row, mem_ofZone.mpr ⟨hrow, harea⟩,
        hactive, hregular, List.mem_singleton.mpr (congrArg Subtype.val heq)⟩))
  · exact .inl

theorem checkServiceArea_covered :
    (∃ serviceId result,
      checkServiceArea platform catalog db { request with serviceId } = .ok result ∧
        result.covered = true) ↔
    ∃ zone ∈ db.zones.rows, inForce catalog request.location zone ∧
      selects platform db zone request.point (candidates request.postalCode) ∧
      ∃ serviceId ∈ catalog.services, offers db zone serviceId := by
  have hfound (serviceId : Uuid) :=
    matchZone_ok platform catalog db request.location (some serviceId)
      (normalizePostalCode_val request.postalCode)
  simp only [checkServiceArea, seq_committed, require_committed, return_committed]
  constructor
  · rintro ⟨serviceId, _, ⟨_, hservice, found, hmatch, rfl⟩, hcovered⟩
    obtain ⟨found', hmatch', hiff⟩ := hfound serviceId
    obtain rfl : found = found' := Except.ok.inj (hmatch.symm.trans hmatch')
    obtain ⟨zone, hzone, hforce, hselects, hoffers⟩ := hiff.mp hcovered
    exact ⟨zone, hzone, hforce, hselects, serviceId, hservice, hoffers⟩
  · rintro ⟨zone, hzone, hforce, hselects, serviceId, hservice, hoffers⟩
    obtain ⟨found, hmatch, hiff⟩ := hfound serviceId
    exact ⟨serviceId, _, ⟨(), hservice, found, hmatch, rfl⟩,
      hiff.mpr ⟨zone, hzone, hforce, hselects, hoffers⟩⟩

/-- The look-up of an address that is validated. -/
theorem validateAddress_covered (hprovider : provider (addressText command) = .ok resolved)
    (hvalid : validateAddress runtime provider platform catalog db command correlationId addressId
      now = .ok validated) :
    resolved.countryCode = "US" ∧ ∃ found,
      matchZone platform catalog db resolved.location none = .ok found ∧
        validated.result.covered = found.isSome := by
  simp only [validateAddress, seq_committed, require_committed, orRaise_committed,
    return_committed] at hvalid
  obtain ⟨resolved', hresolved, _, hcomplete, -, -, -, -, -, -, found, hfound, -, -, rfl⟩ := hvalid
  obtain rfl : resolved = resolved' := Except.ok.inj (hprovider.symm.trans hresolved)
  simp only [GeocodedAddress.complete, Bool.and_eq_true, decide_eq_true_eq] at hcomplete
  exact ⟨hcomplete.1.1.1.1.1, found, hfound, rfl⟩

/-- Both look-ups are about the same place. -/
theorem AsksFor.inForce (h : AsksFor request resolved) (hcountry : resolved.countryCode = "US")
    (zone : ServiceArea) :
    Geography.inForce catalog resolved.location zone =
      Geography.inForce catalog request.location zone := by
  simp only [Geography.inForce, GeocodedAddress.location, ServiceAreaCheckRequest.location,
    hcountry, h.city, h.state, Option.getD_some]

/-- A geocoded address that is validated: the entry points agree on it in exactly the
configurations in which it is served without the extension of its ZIP. -/
theorem entry_points_agree_iff (hprovider : provider (addressText command) = .ok resolved)
    (hcode : geocodedPostalCode raw = .ok ⟨resolved.postalCode, resolved.postalCodePlus4⟩)
    (hasks : AsksFor request resolved)
    (hvalid : validateAddress runtime provider platform catalog db command correlationId addressId
      now = .ok validated) :
    Agree platform catalog db request (validateAddress runtime provider platform catalog db command
        correlationId addressId now) ↔
      ServedWithoutExtension platform catalog db request := by
  obtain ⟨hcountry, found, hfound, hcovered⟩ := validateAddress_covered hprovider hvalid
  have hbase : normalizePostalCode resolved.location.postalCode =
      some request.postalCode.baseCode := by
    rw [← normalizePostalCode_val request.postalCode.baseCode]
    exact congrArg normalizePostalCode (hasks.base hcode).symm
  obtain ⟨found', hfound', hiff⟩ := matchZone_ok platform catalog db resolved.location none hbase
  obtain rfl : found = found' := Except.ok.inj (hfound.symm.trans hfound')
  have hvalidated : validated.result.covered = true ↔ ∃ zone ∈ db.zones.rows,
      Geography.inForce catalog request.location zone ∧
        selects platform db zone request.point [request.postalCode.base] := by
    rw [hcovered, hiff]
    refine exists_congr fun zone => and_congr_right fun _ => ?_
    rw [hasks.inForce hcountry, hasks.point, ← selects_baseCode]
    simp [GeocodedAddress.location]
  unfold Agree ServedWithoutExtension
  rw [checkServiceArea_covered, hvalid]
  simp only [Except.ok.injEq, exists_eq_left', hvalidated]
  constructor
  · intro hagree zone hzone hforce hserved hrow
    exact hagree ⟨zone, hzone, hforce, selects_candidates.mpr (.inr hrow), hserved⟩
  · rintro hserves ⟨zone, hzone, hforce, hselects, hserved⟩
    rcases selects_candidates.mp hselects with hself | hrow
    · exact ⟨zone, hzone, hforce, hself⟩
    · exact hserves zone hzone hforce hserved hrow

end

/-! ## A zone that serves one ZIP+4 -/

def midtown : GeocodedAddress where
  formattedAddress := "123 Main St, Houston, TX 77001-1234"
  line1 := "123 Main St"
  city := "Houston"
  postalCode := "77001"
  countryCode := "US"
  point := ⟨-95, 29⟩
  provider := "geoapify"
  confidence := some 1
  stateCode := some "TX"
  timezoneName := some "America/Chicago"
  postalCodePlus4 := some "1234"

def midtownZip : PostalCode := ⟨"77001-1234", by decide⟩

def midtownRequest : ServiceAreaCheckRequest where
  point := ⟨-95, 29⟩
  postalCode := midtownZip
  serviceId := 2
  city := some "Houston"
  state := some ⟨"TX", by decide⟩

def midtownCommand : AddressValidationRequest where
  addressLine1 := "123 Main St"
  city := "Houston"
  state := ⟨"TX", by decide⟩
  postalCode := midtownZip

/-- The zone is created with a single code. -/
def zonedBy (code : PostalCode) : Tables :=
  Runs.run (exec bare) {} [.createZone houston {
    legalEntityId := 1
    name := "Exact ZIP+4"
    stateCode := some ⟨"TX", by decide⟩
    postalCodes := [code]
    serviceIds := [2] }]

def python : Runtime := { casefold := lower, knownZone := fun name => name = "America/Chicago" }

def validateMidtown (db : Tables) : Except Raised Validated :=
  validateAddress python (fun _ => .ok midtown) bare houston db midtownCommand none 7 0

/-- The zone has a row of the ZIP+4 only: the address is covered, and is validated as one that is
not. -/
theorem midtown_disagrees :
    geocodedPostalCode (some "77001-1234") = .ok ⟨midtown.postalCode, midtown.postalCodePlus4⟩ ∧
      AsksFor midtownRequest midtown ∧ (validateMidtown (zonedBy midtownZip)).isOk ∧
      ¬ Agree bare houston (zonedBy midtownZip) midtownRequest
        (validateMidtown (zonedBy midtownZip)) := by
  refine ⟨by decide, ⟨rfl, rfl, rfl, by decide⟩, by decide +kernel, fun hagree => ?_⟩
  have hcheck : checkServiceArea bare houston (zonedBy midtownZip) { midtownRequest with
      serviceId := 2 } = .ok ⟨true, some ⟨0, "Exact ZIP+4", false⟩⟩ := by
    decide +kernel
  have hvalidate : (validateMidtown (zonedBy midtownZip)).map (·.result.covered) = .ok false := by
    decide +kernel
  obtain ⟨answer, hanswer, hcovered⟩ := hagree ⟨2, _, hcheck, rfl⟩
  rw [hanswer] at hvalidate
  exact absurd (Except.ok.inj hvalidate) (by simp [hcovered])

/-- The zone has a row of the base ZIP. -/
theorem midtown_agrees :
    Agree bare houston (zonedBy midtownZip.baseCode) midtownRequest
      (validateMidtown (zonedBy midtownZip.baseCode)) := by
  have hserved : ServedWithoutExtension bare houston (zonedBy midtownZip.baseCode)
      midtownRequest := by
    unfold ServedWithoutExtension
    decide +kernel
  have hok : (validateMidtown (zonedBy midtownZip.baseCode)).isOk := by decide +kernel
  cases hvalid : validateMidtown (zonedBy midtownZip.baseCode) with
  | error raised =>
    rw [hvalid] at hok
    cases hok
  | ok validated =>
    have hcode : geocodedPostalCode (some "77001-1234") =
        .ok ⟨midtown.postalCode, midtown.postalCodePlus4⟩ := by decide
    rw [← hvalid]
    exact (entry_points_agree_iff rfl hcode ⟨rfl, rfl, rfl, by decide⟩ hvalid).mpr hserved

end Breero.Geography
