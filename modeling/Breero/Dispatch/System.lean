import Breero.Lib.Runs
import Breero.Dispatch.Service
import Breero.Dispatch.AdminService
import Breero.Booking.Scheduling
import Breero.Booking.Customers

/-!
The system that books a visit, finds its professional and moves its job: the database,
and the transactions of the five services that write a booking's professional, its job
and its assignment.
-/

namespace Breero.Dispatch
open KeyedTable Transaction Bookings

inductive Op
  | matchJob (jobId : Uuid) (actorId : Option Uuid) (now : Instant) (offerId : Nat → Uuid)
  | decideOffer (offerId vendorId : Uuid) (accept : Bool) (workerId : Option Uuid)
      (actorId : Uuid) (now : Instant) (assignmentId : Uuid)
  | manualAssign (jobId vendorId workerId actorId : Uuid) (reason : String) (now : Instant)
      (assignmentId : Uuid)
  | assign (request : AssignRequest) (now : Instant) (jobId assignmentId : Uuid)
  | automaticAssign (bookingId actorId : Uuid) (now : Instant) (jobId assignmentId : Uuid)
  | unassign (bookingId actorId : Uuid) (reason : String) (now : Instant)
  | confirm (bookingId workerId actorId : Uuid) (reason : String) (now : Instant)
      (jobId assignmentId : Uuid)
  | transition (jobId : Uuid) (target : JobStatus) (actorId : Option Uuid) (actorType : String)
      (reason : Option String) (now : Instant) (snapshotId earningId : Uuid)
  | technicianNote (jobId workerId actorId : Uuid) (notesField : Jobs.NotesField)
      (notes : String) (target : JobStatus) (now : Instant) (snapshotId earningId : Uuid)
  | cancel (userId bookingId : Uuid) (now : Instant)
  | reschedule (userId bookingId holdId : Uuid) (bookingSession : String) (now : Instant)

def exec (settings : Settings) (dir : Directory) (db : Db) : Op → Db
  | .matchJob jobId actorId now offerId => commit db (matchJob db jobId actorId now offerId)
  | .decideOffer offerId vendorId accept workerId actorId now assignmentId =>
    commit db (decideOffer db offerId vendorId accept workerId actorId now assignmentId)
  | .manualAssign jobId vendorId workerId actorId reason now assignmentId =>
    commit db (manualAssign db jobId vendorId workerId actorId reason now assignmentId)
  | .assign request now jobId assignmentId =>
    commit db (assign settings dir db request now jobId assignmentId)
  | .automaticAssign bookingId actorId now jobId assignmentId =>
    commit db (automaticAssign settings dir db bookingId actorId now jobId assignmentId)
  | .unassign bookingId actorId reason now => commit db (unassign db bookingId actorId reason now)
  | .confirm bookingId workerId actorId reason now jobId assignmentId =>
    commit db (confirm dir db bookingId workerId actorId reason now jobId assignmentId)
  | .transition jobId target actorId actorType reason now snapshotId earningId =>
    commit db (Jobs.transition settings db jobId target actorId actorType reason now snapshotId
      earningId)
  | .technicianNote jobId workerId actorId notesField notes target now snapshotId earningId =>
    commit db (Jobs.technicianNoteTransition settings db jobId workerId actorId notesField notes
      target now snapshotId earningId)
  | .cancel userId bookingId now => commit db (cancelBooking db userId bookingId now)
  | .reschedule userId bookingId holdId bookingSession now =>
    commit db (rescheduleBooking settings db userId bookingId holdId bookingSession now)

/-! ## A visit to dispatch

The runs that go wrong are about one booking, of Thursday from nine to ten, and one
worker who can take it. -/

def visitSettings : Settings where
  hash payload := payload.currency
  payoutEnabled := false

def visitDirectory : Directory where
  zones timezoneId := if timezoneId = "UTC" then some (Zone.fixed 0) else none
  services := ⟨[{ id := 3, durationMinutes := some 60, quoteRequired := false
                  isBookable := true }], by decide⟩
  addresses := ⟨[{ id := 4, stateCode := some "TX", postalCode := "77001"
                   serviceAreaId := some 7 }], by decide⟩
  providerServices := [
    { providerId := 5, serviceId := 3, active := true, approvalStatus := "APPROVED" }]
  providerServiceAreas := [
    { providerId := 5, postalCode := some "77001", active := true, approvalStatus := "APPROVED" }]
  availabilityRules := [
    { providerProfessionalId := 6, dayOfWeek := 3, startLocalTime := openLocal
      endLocalTime := closeLocal }]
  credentials := [
    { vendorId := 5, credentialType := .license, jurisdiction := "TX", verified := true
      expiresOn := 365 },
    { vendorId := 5, credentialType := .insurance, jurisdiction := "US", verified := true
      expiresOn := 365 }]

def visitBooking : Booking := {
  id := 2, customerId := 1, addressId := 4, serviceId := 3, windowStart := ofMinutes 540
  windowEnd := ofMinutes 600, status := .pendingManualDispatch, totalAmount := 0
  currency := "USD", expiresAt := ofMinutes 5000 }

/-- The customer 1, who is the user 9, also holds the slot from ten to eleven. -/
def visitDb : Db where
  vendors := approvedVendor
  workers := ⟨[{ id := 6, vendorId := 5, status := .active }], by decide⟩
  users := ⟨[{ id := 9, email := "a@b.test", fullName := "A B", phone := some "12345" }],
    by decide⟩
  customers := ⟨[{
    id := 1, userId := some 9, firstName := "A", lastName := "B", email := "a@b.test"
    phone := "12345" }], by decide⟩
  bookings := ⟨[visitBooking], by decide⟩
  holds := ⟨[{
    id := 40, serviceId := 3, addressId := 4, providerCandidateId := 5
    professionalCandidateId := 6, slotStartUtc := ofMinutes 600, slotEndUtc := ofMinutes 660
    timezoneId := "UTC", capacityMinutes := 60, status := .held, expiresAt := ofMinutes 30
    ownerFingerprintHash := "customer-session-1", idempotencyKey := "hold-1" }], by decide⟩

/-- The booking is assigned to the worker 6, with the job 20. -/
def visitAssigned : List Op :=
  [.assign { bookingId := 2, professionalId := 6, actorId := 8, reason := "nearest" } 1 20 21]

/-- The assignment is withdrawn and made again, and the technician drives there. -/
def visitDispatched : List Op :=
  visitAssigned ++
    [.unassign 2 8 "sick" 2,
     .assign { bookingId := 2, professionalId := 6, actorId := 8, reason := "well" } 3 22 23,
     .transition 20 .enRoute (some 9) "worker" none 4 24 25]

end Breero.Dispatch
