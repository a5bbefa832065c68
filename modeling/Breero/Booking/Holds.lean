import Breero.Booking.Matching

/-!
`CapacityHoldService`. A hold is granted in three parts, as its transaction waits for
the lock of the slot between the first search and the second:

* `prepareHold` is the part before the lock; it chooses the professional;
* `recheckHold` searches again for the chosen professional;
* `grantHold` inserts the hold, and the transaction commits.
-/

namespace Breero.Bookings
open KeyedTable Transaction

/-- `HOLD_DURATION` -/
def holdDuration : Int := ofMinutes 30

/-- `MAX_ACTIVE_HOLDS_PER_OWNER` -/
def maxActiveHoldsPerOwner : Nat := 3

def ownerFingerprint (settings : Settings) (value : String) : Except Raised String := do
  let normalized := strip value
  require (16 ≤ normalized.length)
    (.domainError "AUTH_REQUIRED" "A booking session is required" 401)
  return settings.sha256 normalized

structure HoldRequest where
  serviceId : Uuid
  addressId : Uuid
  startLocal : LocalTime
  timezoneId : String
  bookingSession : String
  idempotencyKey : String
  emergency : Bool := false
  deriving DecidableEq, Repr

/-- A call of `create` that has chosen a professional. -/
structure HoldAttempt where
  fingerprint : String
  idempotencyKey : String
  service : Service
  address : Address
  interval : LocalizedInterval
  emergency : Bool
  chosen : ProviderCandidate
  deriving DecidableEq, Repr

def noLongerAvailable : Raised :=
  .domainError "HOLD_CONFLICT" "The selected slot is no longer available" 409

/-- The service and the address of the request, if a visit can be held for them. -/
def holdTarget (dir : Directory) (request : HoldRequest) : Except Raised (Service × Address) := do
  let notBookable : Raised :=
    .domainError "SERVICE_NOT_BOOKABLE" "The selected service is not bookable" 422
  let outside : Raised :=
    .domainError "OUTSIDE_SERVICE_AREA" "The address is outside an active service area" 422
  let service ← orRaise (dir.services.get? request.serviceId) notBookable
  require (service.isActive ∧ service.isBookable) notBookable
  require (¬ service.quoteRequired)
    (.domainError "QUOTE_REQUIRED" "The selected service requires a quote" 422)
  let address ← orRaise (dir.addresses.get? request.addressId) outside
  require (address.serviceZoneId.isSome ∨ address.serviceAreaId.isSome) outside
  require (request.timezoneId = address.timezoneName)
    (.domainError "TIMEZONE_UNRESOLVED" "Slot timezone must match the service address" 422)
  return (service, address)

/-- The window of the visit, with its buffers. -/
def holdInterval (dir : Directory) (service : Service) (request : HoldRequest) :
    Except Raised LocalizedInterval := do
  let endLocal := request.startLocal +
    ofMinutes (Service.minutes service + service.beforeBufferMinutes + service.afterBufferMinutes)
  enforceBreeroHours request.startLocal endLocal service.emergencyEligible true openLocal
    closeLocal none
  localInterval dir.zones request.startLocal endLocal request.timezoneId none none

/-- `create` before the lock of the slot: the hold that the key already has, or the
professional to hold. -/
def prepareHold (settings : Settings) (dir : Directory) (db : Db) (loads : Uuid → Day → Load)
    (request : HoldRequest) : Except Raised (BookingCapacityHold ⊕ HoldAttempt) := do
  let fingerprint ← ownerFingerprint settings request.bookingSession
  match db.holds.rows.find? (fun hold => hold.idempotencyKey = request.idempotencyKey) with
  | some existing => do
    require (existing.ownerFingerprintHash = fingerprint)
      (.domainError "HOLD_CONFLICT" "Idempotency key belongs to another booking session" 409)
    return .inl existing
  | none => do
    let (service, address) ← holdTarget dir request
    let interval ← holdInterval dir service request
    let found ← candidates dir db service address interval.startUtc interval.endUtc
      request.emergency none loads
    let chosen ← orRaise found.head?
      (.domainError "NO_CAPACITY" "No appointments are available for the selected time" 409)
    return .inr {
      fingerprint, idempotencyKey := request.idempotencyKey, service, address, interval
      emergency := request.emergency, chosen }

/-- The second search, under the lock of the slot. -/
def recheckHold (dir : Directory) (db : Db) (attempt : HoldAttempt) (load : Load) :
    Except Raised Unit := do
  let refreshed ← candidates dir db attempt.service attempt.address attempt.interval.startUtc
    attempt.interval.endUtc attempt.emergency (some attempt.chosen.professionalId)
    (fun _ _ => load)
  require (refreshed ≠ []) noLongerAvailable

def activeHold (now : Instant) (hold : BookingCapacityHold) : Bool :=
  hold.status = .held && now < hold.expiresAt

def holdAudit (hold : BookingCapacityHold) (action : String) (now : Instant) : AuditLog := {
  actorId := none
  actorType := "booking_session"
  action
  resourceType := "capacity_hold"
  resourceId := hold.id
  metadata := [("expires_at", .int hold.expiresAt), ("timezone_id", .str hold.timezoneId)]
  createdAt := now }

def newHold (attempt : HoldAttempt) (now : Instant) (holdId : Uuid) : BookingCapacityHold := {
  id := holdId
  serviceId := attempt.service.id
  addressId := attempt.address.id
  providerCandidateId := attempt.chosen.providerId
  professionalCandidateId := attempt.chosen.professionalId
  slotStartUtc := attempt.interval.startUtc
  slotEndUtc := attempt.interval.endUtc
  timezoneId := attempt.interval.timezoneId
  capacityMinutes := attempt.chosen.capacityMinutes
  status := .held
  expiresAt := now + holdDuration
  ownerFingerprintHash := attempt.fingerprint
  idempotencyKey := attempt.idempotencyKey }

/-! ### After the second search

The holds of the owner are counted by a query, without a lock, before the hold is
inserted. -/

/-- `create` after the second search, up to the count of the owner's holds. -/
def checkQuota (db : Db) (attempt : HoldAttempt) (now : Instant) : Except Raised Unit :=
  let active := db.holds.rows.countP fun hold =>
    hold.ownerFingerprintHash = attempt.fingerprint && activeHold now hold
  require (active < maxActiveHoldsPerOwner)
    (.domainError "RATE_LIMITED" "Too many active capacity holds" 429)

/-- `create` after the count, which was made at the time `now`. -/
def insertHold (db : Db) (attempt : HoldAttempt) (now : Instant) (holdId : Uuid) :
    Except Raised (Db × BookingCapacityHold) := do
  let hold := newHold attempt now holdId
  let db ← (db.addHold hold).mapError fun _ => noLongerAvailable
  return (db.audit (holdAudit hold "capacity_hold.created" now), hold)

/-- `create` after the second search, with nothing committed by others in between. -/
def grantHold (db : Db) (attempt : HoldAttempt) (now : Instant) (holdId : Uuid) :
    Except Raised (Db × BookingCapacityHold) := do
  checkQuota db attempt now
  insertHold db attempt now holdId

/-! ## Giving a hold up -/

def holdNotFound : Raised := .domainError "HOLD_NOT_FOUND" "Capacity hold not found" 404

def releaseHold (settings : Settings) (db : Db) (holdId : Uuid) (bookingSession : String)
    (now : Instant) : Except Raised (Db × Unit) := do
  let fingerprint ← ownerFingerprint settings bookingSession
  let hold ← orRaise (db.holds.get? holdId) holdNotFound
  require (hold.ownerFingerprintHash = fingerprint) holdNotFound
  if hold.status = .held then
    let hold := { hold with status := .released, releasedAt := some now }
    return ({ db with holds := db.holds.put hold }.audit
      (holdAudit hold "capacity_hold.released" now), ())
  else
    return (db, ())

/-- A release changes nothing, or the status of a hold that is held. -/
theorem releaseHold_ok {settings : Settings} {db db' : Db} {holdId : Uuid} {bookingSession : String}
    {now : Instant} {v : Unit}
    (h : releaseHold settings db holdId bookingSession now = .ok (db', v)) :
    db' = db ∨ ∃ hold auditLogs, db.holds.get? holdId = some hold ∧ hold.status = .held ∧
      db' = { db with
        holds := db.holds.put { hold with status := .released, releasedAt := some now }
        auditLogs } := by
  simp only [releaseHold, seq_committed, orRaise_committed, require_committed] at h
  obtain ⟨_, _, hold, hget, _, _, h⟩ := h
  split at h
  · next hheld =>
    simp only [return_committed, Prod.mk.injEq] at h
    exact Or.inr ⟨hold, _, hget, hheld, h.1.symm⟩
  · simp only [return_committed, Prod.mk.injEq] at h
    exact Or.inl h.1.symm

/-- A hold after `expire_stale`. -/
def staleExpired (now : Instant) (hold : BookingCapacityHold) : BookingCapacityHold :=
  if hold.status = .held ∧ hold.expiresAt ≤ now then { hold with status := .expired } else hold

def expireStale (db : Db) (now : Instant) : Db :=
  { db with
    holds := db.holds.update (staleExpired now)
      (fun hold => by unfold staleExpired; split <;> rfl) }

/-- `get` up to its write: whether it expires the hold. The row is not locked. -/
def getHold (settings : Settings) (db : Db) (holdId : Uuid) (bookingSession : String)
    (now : Instant) : Except Raised (BookingCapacityHold × Bool) := do
  let hold ← orRaise (db.holds.get? holdId) holdNotFound
  let fingerprint ← ownerFingerprint settings bookingSession
  require (hold.ownerFingerprintHash = fingerprint) holdNotFound
  return (hold, hold.status = .held ∧ hold.expiresAt ≤ now)

/-- A hold that a `get` expires is held. -/
theorem getHold_ok {settings : Settings} {db : Db} {holdId : Uuid} {bookingSession : String}
    {now : Instant} {hold : BookingCapacityHold} {lapsed : Bool}
    (h : getHold settings db holdId bookingSession now = .ok (hold, lapsed)) :
    db.holds.get? holdId = some hold ∧ (lapsed = true → hold.status = .held) := by
  simp only [getHold, seq_committed, orRaise_committed, require_committed, return_committed,
    Prod.mk.injEq] at h
  obtain ⟨found, hget, _, _, _, _, rfl, rfl⟩ := h
  exact ⟨hget, fun hlapsed => (of_decide_eq_true hlapsed).1⟩

/-- The write of `get`: `UPDATE ... SET status = 'EXPIRED' WHERE id = ...`. -/
def lapseHold (db : Db) (holdId : Uuid) : Db :=
  match db.holds.get? holdId with
  | some hold => { db with holds := db.holds.put { hold with status := .expired } }
  | none => db

end Breero.Bookings
