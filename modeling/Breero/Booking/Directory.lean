import Breero.Lib.Table
import Breero.Booking.Timezones
import Breero.Booking.Capacity

/-!
What the booking services read and none of the operations modelled here writes:
services, addresses, the catalog of the providers, and their schedules,
credentials and capacity rules.
-/

namespace Breero
open KeyedTable Bookings

structure Service where
  id : Uuid
  durationMinutes : Option Int := none
  beforeBufferMinutes : Int := 0
  afterBufferMinutes : Int := 0
  emergencyEligible : Bool := false
  sundayEmergencyEligible : Bool := false
  quoteRequired : Bool := true
  isActive : Bool := true
  isBookable : Bool := false
  deriving DecidableEq, Repr

structure Address where
  id : Uuid
  stateCode : Option String
  postalCode : String
  timezoneName : String := "UTC"
  serviceAreaId : Option Uuid := none
  serviceZoneId : Option Uuid := none
  deriving DecidableEq, Repr

structure ProviderService where
  providerId : Uuid
  serviceId : Uuid
  active : Bool := false
  approvalStatus : String := "PENDING"
  deriving DecidableEq, Repr

structure ProviderServiceArea where
  providerId : Uuid
  postalCode : Option String
  active : Bool := false
  approvalStatus : String := "PENDING"
  deriving DecidableEq, Repr

inductive ApprovalStatus
  | pending
  | approved
  | rejected
  deriving DecidableEq, Repr

/-- A service of a vendor in the self-service catalog. -/
structure CatalogService where
  vendorId : Uuid
  serviceId : Uuid
  status : ApprovalStatus := .pending
  active : Bool := true
  deriving DecidableEq, Repr

structure ServiceZoneOffering where
  serviceAreaId : Uuid
  serviceId : Uuid
  active : Bool := true
  regularServiceEnabled : Bool := true
  deriving DecidableEq, Repr

structure ServiceQuestion where
  id : Uuid
  serviceId : Uuid
  required : Bool := false
  isActive : Bool := true
  deriving DecidableEq, Repr

structure OperatingHour where
  dayOfWeek : Int
  startLocalTime : Int
  endLocalTime : Int
  emergencyOnly : Bool := false
  active : Bool := true
  deriving DecidableEq, Repr

structure ProviderAvailabilityRule where
  providerProfessionalId : Uuid
  dayOfWeek : Int
  startLocalTime : Int
  endLocalTime : Int
  available : Bool := true
  emergencyOnly : Bool := false
  deriving DecidableEq, Repr

structure ProviderAvailabilityException where
  providerProfessionalId : Uuid
  startAt : Instant
  endAt : Instant
  status : String := "ACTIVE"
  deriving DecidableEq, Repr

inductive ProviderCredentialType
  | license
  | insurance
  deriving DecidableEq, Repr

structure ProviderCredential where
  vendorId : Uuid
  credentialType : ProviderCredentialType
  jurisdiction : String
  verified : Bool := false
  verifiedAt : Option Instant := none
  expiresOn : Int
  deriving DecidableEq, Repr

/-- A rule within the bounds of `CapacityRuleWrite`. -/
structure ProviderCapacityRule where
  providerId : Uuid
  professionalId : Option Uuid := none
  maxJobsDaily : Int
  maxMinutesDaily : Int
  maxConcurrentJobs : Int := 1
  emergencyReservedJobs : Int := 0
  emergencyReservedMinutes : Int := 0
  effectiveFrom : Int
  effectiveUntil : Option Int := none
  bounds : (1 ≤ maxJobsDaily ∧ maxJobsDaily ≤ 30) ∧
    (30 ≤ maxMinutesDaily ∧ maxMinutesDaily ≤ 720) ∧
    (1 ≤ maxConcurrentJobs ∧ maxConcurrentJobs ≤ 5) ∧
    (0 ≤ emergencyReservedJobs ∧ emergencyReservedJobs < maxJobsDaily) ∧
    (0 ≤ emergencyReservedMinutes ∧ emergencyReservedMinutes < maxMinutesDaily)
  deriving DecidableEq, Repr

structure ProviderServiceCoverage where
  workerId : Uuid
  serviceId : Uuid
  postalCode : String
  active : Bool := true
  deriving DecidableEq, Repr

structure ProviderWorkingHours where
  workerId : Uuid
  weekday : Int
  startTime : Int
  endTime : Int
  capacity : Int := 1
  deriving DecidableEq, Repr

instance : Keyed Service Uuid := ⟨Service.id⟩
instance : Keyed Address Uuid := ⟨Address.id⟩
instance : Keyed CatalogService (Uuid × Uuid) := ⟨fun s => (s.vendorId, s.serviceId)⟩
instance : Keyed ServiceZoneOffering (Uuid × Uuid) := ⟨fun o => (o.serviceAreaId, o.serviceId)⟩
instance : Keyed ServiceQuestion Uuid := ⟨ServiceQuestion.id⟩
instance : Keyed OperatingHour Int := ⟨OperatingHour.dayOfWeek⟩
instance : Keyed ProviderWorkingHours (Uuid × Int) := ⟨fun h => (h.workerId, h.weekday)⟩

structure Directory where
  zones : Zones
  services : Table Service := .empty
  addresses : Table Address := .empty
  providerServices : List ProviderService := []
  providerServiceAreas : List ProviderServiceArea := []
  operatingHours : Table OperatingHour := .empty
  availabilityRules : List ProviderAvailabilityRule := []
  availabilityExceptions : List ProviderAvailabilityException := []
  credentials : List ProviderCredential := []
  capacityRules : List ProviderCapacityRule := []
  coverage : List ProviderServiceCoverage := []
  workingHours : Table ProviderWorkingHours := .empty
  catalogServices : Table CatalogService := .empty
  zoneOfferings : Table ServiceZoneOffering := .empty
  questions : Table ServiceQuestion := .empty
  /-- the metres between a vendor's home and an address, rounded; null if the vendor has
  no home location -/
  distance : Uuid → Uuid → Option Int := fun _ _ => none
  /-- the currency of the legal entity of a service area -/
  legalEntity : Uuid → Option String := fun _ => none

end Breero
