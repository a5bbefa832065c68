import Breero.Booking.Holds

/-!
`PublicAvailabilityService`, and what `CapacityHoldService.create` accepts of its offers.

* `publicSearch` offers the half-hours of a date for which the matcher finds a candidate;
* `createAt` is `create` with nothing committed by others meanwhile;
* `offers_agree_iff`: what `publicSearch` offers, `create` accepts; what `create` accepts on a
  half-hour, `publicSearch` offers unless the date is not `Searchable`.
-/

namespace Breero.Bookings
open KeyedTable Transaction

/-! ## Searching a date -/

/-- `PublicAvailabilityRequest`, with the id of the service that its text names. -/
structure AvailabilityRequest where
  serviceId : Uuid
  requestedDate : Int
  emergency : Bool := false
  deriving DecidableEq, Repr

/-- What `%H:%M` shows of a time. -/
structure ClockTime where
  hour : Int
  minute : Int
  deriving DecidableEq, Repr

def clockOf (t : LocalTime) : ClockTime :=
  { hour := timeOf t / ofMinutes 60, minute := timeOf t % ofMinutes 60 / ofMinutes 1 }

/-- The time on the wall clock of a date. -/
def ClockTime.on (clock : ClockTime) (date : Int) : LocalTime :=
  date * dayLength + ofMinutes (clock.hour * 60 + clock.minute)

structure PublicSlot where
  startLocal : ClockTime
  endLocal : ClockTime
  deriving DecidableEq, Repr

structure AvailabilityResponse where
  timezone : String
  date : Int
  addressId : Uuid
  slots : List PublicSlot
  reason : Option String
  deriving DecidableEq, Repr

/-- An address as `AddressService.validate` stores it, in an active service area. -/
structure ValidatedAddress (dir : Directory) where
  address : Address
  stored : dir.addresses.get? address.id = some address
  area : address.serviceAreaId.isSome

/-- The length of a visit with its buffers. -/
def consumed (service : Service) : Int :=
  ofMinutes (Service.minutes service + service.beforeBufferMinutes + service.afterBufferMinutes)

/-- The candidates for a visit from `start` on. -/
def slotCandidates (dir : Directory) (db : Db) (loads : Uuid → Day → Load) (service : Service)
    (address : Address) (emergency : Bool) (start : LocalTime) :
    Except Raised (List ProviderCandidate) := do
  let interval ←
    localInterval dir.zones start (start + consumed service) address.timezoneName none none
  candidates dir db service address interval.startUtc interval.endUtc emergency none loads

def slotAt (service : Service) (cursor : LocalTime) : PublicSlot := {
  startLocal := clockOf cursor
  endLocal := clockOf (cursor + ofMinutes (Service.minutes service)) }

/-- The loop of `publicSearch`, from the half-hour `cursor` on. -/
def searchSlots (dir : Directory) (db : Db) (loads : Uuid → Day → Load) (service : Service)
    (address : Address) (emergency : Bool) (boundary : LocalTime) :
    Nat → LocalTime → Except Raised (List PublicSlot)
  | 0, _ => return []
  | fuel + 1, cursor =>
    if cursor + consumed service ≤ boundary then do
      let found ← slotCandidates dir db loads service address emergency cursor
      let rest ← searchSlots dir db loads service address emergency boundary fuel
        (cursor + ofMinutes 30)
      return if found = [] then rest else slotAt service cursor :: rest
    else return []

def opening (date : Int) : LocalTime := date * dayLength + openLocal

def closing (date : Int) : LocalTime := date * dayLength + closeLocal

/-- More half-hours than the loop visits. -/
def searchFuel (service : Service) : Nat :=
  ((closeLocal - openLocal - consumed service) / ofMinutes 30 + 1).toNat

def publicSearch (dir : Directory) (db : Db) (loads : Uuid → Day → Load)
    (request : AvailabilityRequest) (validated : Option (ValidatedAddress dir)) :
    Except Raised AvailabilityResponse := do
  let notBookable : Raised :=
    .domainError "SERVICE_NOT_BOOKABLE" "The selected service is not bookable" 422
  let service ← orRaise (dir.services.get? request.serviceId) notBookable
  require (service.isActive ∧ service.isBookable) notBookable
  require (¬ service.quoteRequired)
    (.domainError "QUOTE_REQUIRED" "The selected service requires a quote" 422)
  require (weekdayOf (request.requestedDate * dayLength) = 6 →
      request.emergency ∧ service.emergencyEligible ∧ service.sundayEmergencyEligible)
    (.domainError "SUNDAY_EMERGENCY_ONLY" "Sunday is limited to eligible emergency service" 422)
  let validated ← orRaise validated
    (.domainError "OUTSIDE_SERVICE_AREA" "The address is outside an active service area" 422)
  let address := validated.address
  let slots ← searchSlots dir db loads service address request.emergency
    (closing request.requestedDate) (searchFuel service) (opening request.requestedDate)
  return {
    timezone := address.timezoneName
    date := request.requestedDate
    addressId := address.id
    slots
    reason := if slots = [] then some "NO_CAPACITY" else none }

/-- A start that the response offers, in the timezone of the address. -/
def AvailabilityResponse.Offers (response : AvailabilityResponse) (start : LocalTime) : Prop :=
  ∃ slot ∈ response.slots, start = slot.startLocal.on response.date

/-! ### The half-hours of a date -/

/-- The half-hours that the loop visits. -/
def cursors (service : Service) (boundary : LocalTime) : Nat → LocalTime → List LocalTime
  | 0, _ => []
  | fuel + 1, cursor =>
    if cursor + consumed service ≤ boundary
    then cursor :: cursors service boundary fuel (cursor + ofMinutes 30)
    else []

theorem mem_cursors {service : Service} {boundary start : LocalTime} {fuel : Nat}
    {cursor : LocalTime} :
    start ∈ cursors service boundary fuel cursor ↔
      start + consumed service ≤ boundary ∧
        ∃ n : Nat, n < fuel ∧ start = cursor + n * ofMinutes 30 := by
  induction fuel generalizing cursor with
  | zero => simp [cursors]
  | succ fuel ih =>
    unfold cursors
    split
    · next hfits =>
      rw [List.mem_cons, ih]
      constructor
      · rintro (rfl | ⟨hstart, n, hn, rfl⟩)
        · exact ⟨hfits, 0, by omega, by simp⟩
        · refine ⟨hstart, n + 1, by omega, ?_⟩
          push_cast
          ring
      · rintro ⟨hstart, n, hn, rfl⟩
        cases n with
        | zero => left; simp
        | succ n =>
          right
          refine ⟨hstart, n, by omega, ?_⟩
          push_cast
          ring
    · next hlate =>
      constructor
      · intro h
        cases h
      · rintro ⟨hstart, n, _, rfl⟩
        have hforth : 0 ≤ (n : Int) * ofMinutes 30 := by
          unfold ofMinutes
          omega
        dsimp only [LocalTime] at hlate hstart
        omega

/-- The half-hours that `publicSearch` looks at. -/
def gridOf (service : Service) (date : Int) : List LocalTime :=
  cursors service (closing date) (searchFuel service) (opening date)

/-- No half-hour is left out for want of fuel. -/
theorem mem_gridOf {service : Service} {date : Int} {start : LocalTime} :
    start ∈ gridOf service date ↔
      start + consumed service ≤ closing date ∧
        ∃ n : Nat, start = opening date + n * ofMinutes 30 := by
  rw [gridOf, mem_cursors]
  constructor
  · rintro ⟨hstart, n, _, rfl⟩
    exact ⟨hstart, n, rfl⟩
  · rintro ⟨hstart, n, rfl⟩
    refine ⟨hstart, n, ?_, rfl⟩
    unfold closing opening ofMinutes at hstart
    unfold searchFuel ofMinutes
    dsimp only [LocalTime] at hstart
    omega

/-! ### What is offered -/

section
variable {dir : Directory} {db : Db} {loads : Uuid → Day → Load} {service : Service}
  {address : Address} {emergency : Bool}

/-- The matcher finds a candidate for a visit from `start` on. -/
def HasCandidate (dir : Directory) (db : Db) (loads : Uuid → Day → Load) (service : Service)
    (address : Address) (emergency : Bool) (start : LocalTime) : Prop :=
  ∃ found, slotCandidates dir db loads service address emergency start = .ok found ∧ found ≠ []

/-- Both ends of a visit from `start` on are the wall-clock time of one instant. -/
def Resolves (dir : Directory) (service : Service) (address : Address) (start : LocalTime) :
    Prop :=
  (localInterval dir.zones start (start + consumed service) address.timezoneName none none).isOk

theorem localInterval_ok {zones : Zones} {start stop : LocalTime} {timezoneId : String}
    {interval : LocalizedInterval}
    (h : localInterval zones start stop timezoneId none none = .ok interval) :
    localToUtc zones start timezoneId none = .ok interval.startUtc ∧
      localToUtc zones stop timezoneId none = .ok interval.endUtc ∧
      interval.startUtc < interval.endUtc ∧ interval.timezoneId = timezoneId := by
  simp only [localInterval, seq_committed, require_committed, return_committed] at h
  obtain ⟨startUtc, hstart, endUtc, hend, _, hlt, rfl⟩ := h
  exact ⟨hstart, hend, hlt, rfl⟩

/-- The matcher raises only for a start or an end that does not resolve. -/
theorem slotCandidates_isOk {start : LocalTime} :
    (slotCandidates dir db loads service address emergency start).isOk ↔
      Resolves dir service address start := by
  unfold slotCandidates Resolves
  rw [seq_isOk, isOk_iff]
  constructor
  · rintro ⟨interval, hinterval, _⟩
    exact ⟨interval, hinterval⟩
  · rintro ⟨interval, hinterval⟩
    refine ⟨interval, hinterval, ?_⟩
    obtain ⟨hstart, _⟩ := localInterval_ok hinterval
    simp only [localToUtc, seq_committed] at hstart
    obtain ⟨zone, hzone, _⟩ := hstart
    unfold candidates
    rw [seq_isOk]
    exact ⟨zone, hzone, rfl⟩

theorem searchSlots_ok {boundary cursor : LocalTime} {fuel : Nat} {slots : List PublicSlot}
    (h : searchSlots dir db loads service address emergency boundary fuel cursor = .ok slots) :
    (∀ start ∈ cursors service boundary fuel cursor, Resolves dir service address start) ∧
    ∀ slot, slot ∈ slots ↔ ∃ start ∈ cursors service boundary fuel cursor,
      HasCandidate dir db loads service address emergency start ∧ slot = slotAt service start := by
  induction fuel generalizing cursor slots with
  | zero =>
    rw [searchSlots, return_committed] at h
    subst h
    simp [cursors]
  | succ fuel ih =>
    rw [searchSlots] at h
    rw [cursors]
    split at h
    · next hfits =>
      rw [if_pos hfits]
      simp only [seq_committed, return_committed] at h
      obtain ⟨found, hfound, rest, hrest, hslots⟩ := h
      obtain ⟨hresolves, hmem⟩ := ih hrest
      constructor
      · intro start hstart
        rcases List.mem_cons.mp hstart with rfl | hstart
        · exact slotCandidates_isOk.mp (isOk_of_eq hfound)
        · exact hresolves start hstart
      · intro slot
        have hhere : HasCandidate dir db loads service address emergency cursor ↔ found ≠ [] := by
          constructor
          · rintro ⟨found', hfound', hsome⟩
            rw [hfound] at hfound'
            exact Except.ok.inj hfound' ▸ hsome
          · exact fun hsome => ⟨found, hfound, hsome⟩
        simp only [List.mem_cons, exists_eq_or_imp, hhere]
        rw [← hslots, ← hmem slot]
        by_cases hnone : found = []
        · simp [hnone]
        · simp [hnone]
    · next hlate =>
      rw [return_committed] at h
      subst h
      rw [if_neg hlate]
      simp

/-- Where every half-hour resolves, the loop does not raise. -/
theorem searchSlots_resolved {boundary cursor : LocalTime} {fuel : Nat}
    (h : ∀ start ∈ cursors service boundary fuel cursor, Resolves dir service address start) :
    ∃ slots,
      searchSlots dir db loads service address emergency boundary fuel cursor = .ok slots := by
  induction fuel generalizing cursor with
  | zero => exact ⟨[], rfl⟩
  | succ fuel ih =>
    rw [cursors] at h
    rw [searchSlots]
    split
    · next hfits =>
      rw [if_pos hfits] at h
      have hhere := h cursor List.mem_cons_self
      obtain ⟨found, hfound⟩ := isOk_iff.mp (slotCandidates_isOk.mpr hhere)
      obtain ⟨rest, hrest⟩ := ih fun start hstart => h start (List.mem_cons_of_mem _ hstart)
      exact ⟨_, by rw [hfound, hrest]; rfl⟩
    · exact ⟨[], rfl⟩

end

/-! ### The matcher again -/

section
variable {dir : Directory} {db : Db} {service : Service} {address : Address}
  {start stop : Instant} {emergency : Bool} {loads : Uuid → Day → Load}

/-- A row of the matcher is about its worker and reads the load of the worker's day only. -/
theorem candidate_congr {zone : Zone} {vendor : Vendor} {worker : Worker}
    {loads' : Uuid → Day → Load}
    (h : loads' worker.id (dayOf zone start) = loads worker.id (dayOf zone start)) :
    candidate dir service address zone start stop emergency loads' vendor worker =
      candidate dir service address zone start stop emergency loads vendor worker := by
  unfold candidate
  simp only [h]

theorem candidate_ok {zone : Zone} {vendor : Vendor} {worker : Worker}
    {found : ProviderCandidate}
    (h : candidate dir service address zone start stop emergency loads vendor worker =
      some found) : found.professionalId = worker.id ∧ 0 < found.capacityMinutes := by
  unfold candidate at h
  dsimp only at h
  split at h
  · cases h
  split at h
  · cases h
  split at h
  · cases h
  split at h
  · cases h
  split at h
  · cases h
  · next current hok =>
    cases h
    simp only [ensureCapacity, seq_committed, require_committed] at hok
    obtain ⟨_, _, _, hpositive, _⟩ := hok
    exact ⟨rfl, hpositive⟩

/-- The row of the matcher's query for a worker. -/
def rowOf (dir : Directory) (db : Db) (service : Service) (address : Address)
    (professionalId : Option Uuid) (worker : Worker) : Option (Vendor × Worker) :=
  (db.vendors.get? worker.vendorId).bind fun vendor =>
    if offers dir service address vendor worker ∧ ∀ id ∈ professionalId, worker.id = id then
      some (vendor, worker)
    else none

theorem candidates_eq {zone : Zone} {professionalId : Option Uuid}
    (h : dir.zones address.timezoneName = some zone) :
    candidates dir db service address start stop emergency professionalId loads =
      .ok ((((db.workers.rows.filterMap (rowOf dir db service address professionalId)).take 250
        ).filterMap fun row =>
          candidate dir service address zone start stop emergency loads row.1 row.2
        ).insertionSort candidateBefore) := by
  unfold candidates timezone
  rw [h]
  rfl

theorem rowOf_worker {professionalId : Option Uuid} {worker : Worker} {row : Vendor × Worker}
    (h : rowOf dir db service address professionalId worker = some row) :
    row.2 = worker ∧ ∀ id ∈ professionalId, worker.id = id := by
  obtain ⟨vendor, _, h⟩ := Option.bind_eq_some_iff.mp h
  split at h
  · next hoffers =>
    cases h
    exact ⟨rfl, hoffers.2⟩
  · cases h

/-- The query for one professional keeps its row. -/
theorem rowOf_again {worker : Worker} {row : Vendor × Worker}
    (h : rowOf dir db service address none worker = some row) :
    rowOf dir db service address (some worker.id) worker = some row := by
  obtain ⟨vendor, hvendor, h⟩ := Option.bind_eq_some_iff.mp h
  split at h
  · next hoffers =>
    unfold rowOf
    rw [hvendor, Option.bind_some, if_pos ⟨hoffers.1, fun id hid => Option.some.inj hid⟩]
    exact h
  · cases h

/-- The query for one professional has at most one row, so that none is cut off. -/
theorem rows_of_professional (professionalId : Uuid) :
    (db.workers.rows.filterMap (rowOf dir db service address (some professionalId))).length ≤
      250 := by
  rw [List.length_filterMap_eq_countP]
  refine le_trans (Table.countP_le_one professionalId fun worker _ hrow => ?_) (by decide)
  obtain ⟨row, hrow⟩ := Option.isSome_iff_exists.mp hrow
  exact (rowOf_worker hrow).2 _ rfl

/-- A candidate is found again when the search is for that professional. -/
theorem candidates_again {results : List ProviderCandidate} {found : ProviderCandidate}
    (h : candidates dir db service address start stop emergency none loads = .ok results)
    (hmem : found ∈ results) (loads' : Uuid → Day → Load)
    (hload : ∀ zone, dir.zones address.timezoneName = some zone →
      loads' found.professionalId (dayOf zone start) =
        loads found.professionalId (dayOf zone start)) :
    0 < found.capacityMinutes ∧ ∃ again,
      candidates dir db service address start stop emergency (some found.professionalId) loads' =
        .ok again ∧ found ∈ again := by
  have hzoned := h
  simp only [candidates, timezone, seq_committed, orRaise_committed] at hzoned
  obtain ⟨zone, hzone, _⟩ := hzoned
  rw [candidates_eq hzone, Except.ok.injEq] at h
  subst h
  rw [List.mem_insertionSort] at hmem
  obtain ⟨row, hrow, hfound⟩ := List.mem_filterMap.mp hmem
  obtain ⟨worker, hworker, hrow⟩ := List.mem_filterMap.mp (List.mem_of_mem_take hrow)
  obtain ⟨rfl, _⟩ := rowOf_worker hrow
  obtain ⟨hid, hpositive⟩ := candidate_ok hfound
  refine ⟨hpositive, _, candidates_eq hzone, ?_⟩
  rw [List.mem_insertionSort, List.take_of_length_le (rows_of_professional _)]
  refine List.mem_filterMap.mpr ⟨row, List.mem_filterMap.mpr ⟨row.2, hworker, ?_⟩, ?_⟩
  · rw [hid]
    exact rowOf_again hrow
  · refine (candidate_congr ?_).trans hfound
    rw [← hid]
    exact hload zone hzone

end

/-! ## Holding what was offered -/

/-- The load that the second search of a call reads. -/
def chosenLoad (dir : Directory) (db : Db) (now : Instant) (attempt : HoldAttempt) : Load :=
  match dir.zones attempt.address.timezoneName with
  | some zone =>
    loadOn db now attempt.chosen.professionalId (dayOf zone attempt.interval.startUtc)
  | none => {}

/-- `create`, with nothing committed by others from its first query to its commit. -/
def createAt (settings : Settings) (dir : Directory) (db : Db) (request : HoldRequest)
    (now : Instant) (holdId : Uuid) : Except Raised (Db × BookingCapacityHold) := do
  match ← prepareHold settings dir db (loadOn db now) request with
  | .inl existing => return (db, existing)
  | .inr attempt =>
    recheckHold dir db attempt (chosenLoad dir db now attempt)
    grantHold db attempt now holdId

/-- What a call of `create` brings besides the visit it is about. -/
structure Caller where
  bookingSession : String
  idempotencyKey : String
  holdId : Uuid
  deriving DecidableEq, Repr

def Caller.request (caller : Caller) (service : Service) (address : Address) (emergency : Bool)
    (start : LocalTime) : HoldRequest := {
  serviceId := service.id
  addressId := address.id
  startLocal := start
  timezoneId := address.timezoneName
  bookingSession := caller.bookingSession
  idempotencyKey := caller.idempotencyKey
  emergency }

/-- The caller has a booking session, is under quota, and brings a key of its own. -/
def Admitted (settings : Settings) (db : Db) (now : Instant) (caller : Caller) : Prop :=
  ∃ fingerprint, ownerFingerprint settings caller.bookingSession = .ok fingerprint ∧
    (db.holds.rows.countP fun hold =>
      hold.ownerFingerprintHash = fingerprint && activeHold now hold) < maxActiveHoldsPerOwner ∧
    (∀ hold ∈ db.holds.rows, hold.idempotencyKey ≠ caller.idempotencyKey) ∧
    db.holds.get? caller.holdId = none

/-- A visit can be booked for the service. -/
def Bookable (service : Service) : Prop :=
  service.isActive = true ∧ service.isBookable = true ∧ service.quoteRequired = false

/-- The tests that `create` makes of a start for an admitted caller. -/
def Fits (dir : Directory) (db : Db) (now : Instant) (service : Service) (address : Address)
    (emergency : Bool) (start : LocalTime) : Prop :=
  Bookable service ∧
    (enforceBreeroHours start (start + consumed service) service.emergencyEligible true openLocal
      closeLocal none).isOk ∧
    HasCandidate dir db (loadOn db now) service address emergency start

section
variable {settings : Settings} {dir : Directory} {db : Db} {now : Instant} {service : Service}
  {emergency : Bool} {start : LocalTime}

theorem grantHold_isOk {attempt : HoldAttempt} {holdId : Uuid}
    (hquota : (db.holds.rows.countP fun hold =>
      hold.ownerFingerprintHash = attempt.fingerprint && activeHold now hold) <
        maxActiveHoldsPerOwner)
    (hkey : ∀ hold ∈ db.holds.rows, hold.idempotencyKey ≠ attempt.idempotencyKey)
    (hid : db.holds.get? holdId = none)
    (hrange : attempt.interval.startUtc < attempt.interval.endUtc)
    (hminutes : 0 < attempt.chosen.capacityMinutes) :
    (grantHold db attempt now holdId).isOk := by
  obtain ⟨holds, hinsert⟩ := Table.insert?_fresh (a := newHold attempt now holdId) hid
  have hadd : db.addHold (newHold attempt now holdId) = .ok { db with holds } := by
    simp only [Db.addHold, seq_committed, require_committed, orRaise_committed, return_committed]
    exact ⟨(), hrange, (), hminutes, (), hkey, holds, hinsert, rfl⟩
  unfold grantHold checkQuota insertHold
  rw [seq_isOk]
  refine ⟨(), require_committed.mpr hquota, ?_⟩
  rw [seq_isOk]
  exact ⟨_, mapError_committed.mpr hadd, rfl⟩

theorem holdTarget_ok (validated : ValidatedAddress dir) {caller : Caller}
    (hstored : dir.services.get? service.id = some service) {target : Service × Address} :
    holdTarget dir (caller.request service validated.address emergency start) = .ok target ↔
      Bookable service ∧ target = (service, validated.address) := by
  have hservice : dir.services.get?
      (caller.request service validated.address emergency start).serviceId = some service := hstored
  have haddress : dir.addresses.get?
      (caller.request service validated.address emergency start).addressId =
        some validated.address := validated.stored
  simp only [holdTarget, hservice, haddress, seq_committed, orRaise_committed, require_committed,
    return_committed, Option.some.injEq, exists_eq_left', Bookable]
  constructor
  · rintro ⟨_, ⟨hactive, hbookable⟩, _, hquote, _, _, _, _, rfl⟩
    exact ⟨⟨hactive, hbookable, by simpa using hquote⟩, rfl⟩
  · rintro ⟨⟨hactive, hbookable, hquote⟩, rfl⟩
    exact ⟨(), ⟨hactive, hbookable⟩, (), by simp [hquote], (), Or.inr validated.area, (), rfl, rfl⟩

theorem prepareHold_isOk (validated : ValidatedAddress dir) {caller : Caller}
    {loads : Uuid → Day → Load}
    (hstored : dir.services.get? service.id = some service) {fingerprint : String}
    (howner : ownerFingerprint settings caller.bookingSession = .ok fingerprint)
    (hkey : ∀ hold ∈ db.holds.rows, hold.idempotencyKey ≠ caller.idempotencyKey)
    {made : BookingCapacityHold ⊕ HoldAttempt} :
    prepareHold settings dir db loads
        (caller.request service validated.address emergency start) = .ok made ↔
      Bookable service ∧
      (enforceBreeroHours start (start + consumed service) service.emergencyEligible true
        openLocal closeLocal none).isOk ∧
      ∃ interval found chosen,
        localInterval dir.zones start (start + consumed service)
          validated.address.timezoneName none none = .ok interval ∧
        candidates dir db service validated.address interval.startUtc interval.endUtc emergency
          none loads = .ok found ∧
        found.head? = some chosen ∧
        made = .inr {
          fingerprint, idempotencyKey := caller.idempotencyKey, service
          address := validated.address, interval, emergency, chosen } := by
  have hfree : db.holds.rows.find? (fun hold => hold.idempotencyKey =
      (caller.request service validated.address emergency start).idempotencyKey) = none :=
    List.find?_eq_none.mpr fun hold hhold hsame => hkey hold hhold (of_decide_eq_true hsame)
  have howner' : ownerFingerprint settings
      (caller.request service validated.address emergency start).bookingSession =
        .ok fingerprint := howner
  simp only [prepareHold, howner', hfree, seq_committed, Except.ok.injEq, exists_eq_left',
    holdTarget_ok validated hstored, holdInterval, orRaise_committed, return_committed]
  constructor
  · rintro ⟨_, ⟨hbookable, rfl⟩, interval, ⟨_, hhours, hinterval⟩, found, hfound, chosen, hchosen,
      rfl⟩
    exact ⟨hbookable, isOk_of_eq hhours, interval, found, chosen, hinterval, hfound, hchosen, rfl⟩
  · rintro ⟨hbookable, hhours, interval, found, chosen, hinterval, hfound, hchosen, rfl⟩
    obtain ⟨_, hhours⟩ := isOk_iff.mp hhours
    exact ⟨_, ⟨hbookable, rfl⟩, interval, ⟨_, hhours, hinterval⟩, found, hfound, chosen, hchosen,
      rfl⟩

/-- An admitted caller is granted exactly the starts that pass the tests: the second search
and the insert find what the first search found. -/
theorem createAt_isOk_iff (validated : ValidatedAddress dir) {caller : Caller}
    (hstored : dir.services.get? service.id = some service)
    (hadmitted : Admitted settings db now caller) :
    (createAt settings dir db (caller.request service validated.address emergency start) now
      caller.holdId).isOk ↔ Fits dir db now service validated.address emergency start := by
  obtain ⟨fingerprint, howner, hquota, hkey, hid⟩ := hadmitted
  unfold createAt
  rw [seq_isOk]
  constructor
  · rintro ⟨made, hmade, _⟩
    obtain ⟨hbookable, hhours, interval, found, chosen, hinterval, hfound, hchosen, _⟩ :=
      (prepareHold_isOk validated hstored howner hkey).mp hmade
    refine ⟨hbookable, hhours, found, ?_, ?_⟩
    · unfold slotCandidates
      rw [seq_committed]
      exact ⟨interval, hinterval, hfound⟩
    · rintro rfl
      cases hchosen
  · rintro ⟨hbookable, hhours, found, hfound, hsome⟩
    unfold slotCandidates at hfound
    rw [seq_committed] at hfound
    obtain ⟨interval, hinterval, hfound⟩ := hfound
    obtain ⟨chosen, rest, rfl⟩ := List.exists_cons_of_ne_nil hsome
    refine ⟨_, (prepareHold_isOk validated hstored howner hkey).mpr
      ⟨hbookable, hhours, interval, _, chosen, hinterval, hfound, rfl, rfl⟩, ?_⟩
    let attempt : HoldAttempt := {
      fingerprint, idempotencyKey := caller.idempotencyKey, service
      address := validated.address, interval, emergency, chosen }
    have hload : ∀ zone, dir.zones validated.address.timezoneName = some zone →
        chosenLoad dir db now attempt =
          loadOn db now chosen.professionalId (dayOf zone interval.startUtc) := by
      intro zone hzone
      simp only [chosenLoad, attempt, hzone]
    obtain ⟨hpositive, again, hagain, hmem⟩ :=
      candidates_again hfound List.mem_cons_self (fun _ _ => chosenLoad dir db now attempt) hload
    rw [seq_isOk]
    refine ⟨(), ?_, ?_⟩
    · simp only [recheckHold, seq_committed, require_committed]
      exact ⟨again, hagain, List.ne_nil_of_mem hmem⟩
    · exact grantHold_isOk hquota hkey hid (localInterval_ok hinterval).2.2.1 hpositive

end

/-! ## Agreement -/

/-- Resolving keeps the order of the wall clock: between its transitions a clock runs forward,
and what a transition back repeats does not resolve. -/
def KeepsOrder (zones : Zones) : Prop :=
  ∀ timezoneId a b s t, localToUtc zones a timezoneId none = .ok s →
    localToUtc zones b timezoneId none = .ok t → a ≤ b → s ≤ t

/-- `publicSearch` offers the start to the address. -/
def Offered (dir : Directory) (db : Db) (now : Instant) (service : Service)
    (validated : ValidatedAddress dir) (date : Int) (emergency : Bool) (start : LocalTime) :
    Prop :=
  ∃ response, publicSearch dir db (loadOn db now)
      { serviceId := service.id, requestedDate := date, emergency } (some validated) =
        .ok response ∧ response.Offers start

def Accepted (settings : Settings) (dir : Directory) (db : Db) (now : Instant) (caller : Caller)
    (service : Service) (address : Address) (emergency : Bool) (start : LocalTime) : Prop :=
  (createAt settings dir db (caller.request service address emergency start) now
    caller.holdId).isOk

def OnHalfHour (date : Int) (start : LocalTime) : Prop :=
  dateOf start = date ∧ timeOf start % ofMinutes 30 = 0

instance (settings : Settings) (dir : Directory) (db : Db) (now : Instant) (caller : Caller)
    (service : Service) (address : Address) (emergency : Bool) :
    DecidablePred (Accepted settings dir db now caller service address emergency) :=
  fun _ => inferInstanceAs (Decidable (_ = true))

instance (date : Int) : DecidablePred (OnHalfHour date) :=
  fun _ => inferInstanceAs (Decidable (_ ∧ _))

/-- What `publicSearch` offers is accepted, and what is accepted on a half-hour of the date is
offered. -/
def Agree (settings : Settings) (dir : Directory) (db : Db) (now : Instant) (caller : Caller)
    (service : Service) (validated : ValidatedAddress dir) (date : Int) (emergency : Bool) :
    Prop :=
  ∀ start,
    (Offered dir db now service validated date emergency start →
      Accepted settings dir db now caller service validated.address emergency start) ∧
    (OnHalfHour date start →
      Accepted settings dir db now caller service validated.address emergency start →
      Offered dir db now service validated date emergency start)

/-- `publicSearch` raises nothing for the date that `create` does not raise: on a Sunday it
asks for an emergency and for a service that is eligible on Sundays, and all half-hours it
looks at must resolve. -/
def Searchable (dir : Directory) (service : Service) (address : Address) (date : Int)
    (emergency : Bool) : Prop :=
  (weekdayOf (date * dayLength) = 6 →
    emergency = true ∧ service.sundayEmergencyEligible = true) ∧
  ∀ start ∈ gridOf service date, Resolves dir service address start

section
variable {dir : Directory} {db : Db} {now : Instant} {service : Service}
  {validated : ValidatedAddress dir} {date : Int} {emergency : Bool} {start : LocalTime}

theorem search_iff {response : AvailabilityResponse}
    (hstored : dir.services.get? service.id = some service) :
    publicSearch dir db (loadOn db now)
        { serviceId := service.id, requestedDate := date, emergency } (some validated) =
          .ok response ↔
      Bookable service ∧
      (weekdayOf (date * dayLength) = 6 → emergency = true ∧ service.emergencyEligible = true ∧
        service.sundayEmergencyEligible = true) ∧
      ∃ slots, searchSlots dir db (loadOn db now) service validated.address emergency
          (closing date) (searchFuel service) (opening date) = .ok slots ∧
        { timezone := validated.address.timezoneName, date, addressId := validated.address.id
          slots, reason := if slots = [] then some "NO_CAPACITY" else none } = response := by
  simp only [publicSearch, hstored, seq_committed, orRaise_committed, require_committed,
    return_committed, Option.some.injEq, exists_eq_left', Bookable]
  constructor
  · rintro ⟨_, ⟨hactive, hbookable⟩, _, hquote, _, hsunday, h⟩
    exact ⟨⟨hactive, hbookable, by simpa using hquote⟩, hsunday, h⟩
  · rintro ⟨⟨hactive, hbookable, hquote⟩, hsunday, h⟩
    exact ⟨(), ⟨hactive, hbookable⟩, (), by simp [hquote], (), hsunday, h⟩

/-- The starts of a response are the half-hours with a candidate. -/
theorem search_offers {response : AvailabilityResponse}
    (hstored : dir.services.get? service.id = some service)
    (h : publicSearch dir db (loadOn db now)
      { serviceId := service.id, requestedDate := date, emergency } (some validated) =
        .ok response) :
    response.Offers start ↔ ∃ cursor ∈ gridOf service date,
      HasCandidate dir db (loadOn db now) service validated.address emergency cursor ∧
        start = (clockOf cursor).on date := by
  obtain ⟨_, _, slots, hslots, rfl⟩ := (search_iff hstored).mp h
  obtain ⟨_, hmem⟩ := searchSlots_ok hslots
  constructor
  · rintro ⟨slot, hslot, rfl⟩
    obtain ⟨cursor, hcursor, hcandidate, rfl⟩ := (hmem slot).mp hslot
    exact ⟨cursor, hcursor, hcandidate, rfl⟩
  · rintro ⟨cursor, hcursor, hcandidate, rfl⟩
    exact ⟨_, (hmem _).mpr ⟨cursor, hcursor, hcandidate, rfl⟩, rfl⟩

/-- A half-hour from which a visit of some length ends by closing time. -/
theorem grid_on_date (hgrid : start ∈ gridOf service date) (hlong : 0 < consumed service) :
    dateOf start = date ∧ dateOf (start + consumed service) = date ∧
      openLocal ≤ timeOf start ∧ timeOf (start + consumed service) ≤ closeLocal ∧
      (clockOf start).on date = start := by
  obtain ⟨hclose, n, rfl⟩ := mem_gridOf.mp hgrid
  unfold ClockTime.on clockOf dateOf timeOf
  unfold consumed at hlong hclose ⊢
  unfold closing opening openLocal closeLocal ofMinutes dayLength at *
  dsimp only [LocalTime] at *
  refine ⟨by omega, by omega, by omega, by omega, by omega⟩

theorem clockOf_on (hon : OnHalfHour date start) : (clockOf start).on date = start := by
  obtain ⟨rfl, hhalf⟩ := hon
  unfold timeOf at hhalf
  unfold ClockTime.on clockOf dateOf timeOf
  unfold ofMinutes dayLength at *
  dsimp only [LocalTime] at *
  omega

/-- A half-hour of a date on which `create` keeps to its hours is one that `publicSearch`
looks at. -/
theorem mem_gridOf_of_hours (hon : OnHalfHour date start)
    (hours : (enforceBreeroHours start (start + consumed service) service.emergencyEligible true
      openLocal closeLocal none).isOk) :
    start ∈ gridOf service date ∧
      (weekdayOf (date * dayLength) = 6 → service.emergencyEligible = true) := by
  obtain ⟨_, hours⟩ := isOk_iff.mp hours
  simp only [enforceBreeroHours, seq_committed, require_committed] at hours
  obtain ⟨_, ⟨hsame, hopen, hclose⟩, hsunday⟩ := hours
  obtain ⟨rfl, hhalf⟩ := hon
  have hweekday : weekdayOf (dateOf start * dayLength) = weekdayOf start := by
    unfold weekdayOf dateOf dayLength
    omega
  constructor
  · rw [mem_gridOf]
    unfold dateOf at hsame
    unfold timeOf at hopen hclose hhalf
    unfold closing opening dateOf
    unfold openLocal closeLocal ofMinutes dayLength at *
    dsimp only [LocalTime] at *
    refine ⟨by omega, ((start % 86400000000 - 25200000000) / 1800000000).toNat, by omega⟩
  · intro h
    have hsunday := hsunday (by simpa [hweekday] using h)
    exact hsunday.1

/-- An offer passes the tests of `create`. -/
theorem fits_of_offered (hzones : KeepsOrder dir.zones)
    (hstored : dir.services.get? service.id = some service)
    (h : Offered dir db now service validated date emergency start) :
    Fits dir db now service validated.address emergency start ∧
      Searchable dir service validated.address date emergency := by
  obtain ⟨response, hsearch, hoffers⟩ := h
  obtain ⟨cursor, hcursor, hcandidate, hstart⟩ := (search_offers hstored hsearch).mp hoffers
  obtain ⟨hbookable, hsunday, slots, hslots, rfl⟩ := (search_iff hstored).mp hsearch
  obtain ⟨hresolves, _⟩ := searchSlots_ok hslots
  -- an interval that resolves is not empty, so the visit has a length
  have hlong : 0 < consumed service := by
    obtain ⟨interval, hinterval⟩ := isOk_iff.mp (hresolves cursor hcursor)
    obtain ⟨hfrom, hto, hlt, _⟩ := localInterval_ok hinterval
    by_contra hshort
    have hle : cursor + consumed service ≤ cursor := by
      dsimp only [LocalTime]
      omega
    exact absurd hlt (not_lt.mpr (hzones _ _ _ _ _ hto hfrom hle))
  obtain ⟨hdate, hend, hopen, hclose, hclock⟩ := grid_on_date hcursor hlong
  obtain rfl : start = cursor := hstart.trans hclock
  have hweekday : weekdayOf start = weekdayOf (date * dayLength) := by
    unfold weekdayOf
    rw [hdate]
    unfold dateOf dayLength
    omega
  refine ⟨⟨hbookable, ?_, hcandidate⟩, fun h => ⟨(hsunday h).1, (hsunday h).2.2⟩, hresolves⟩
  rw [isOk_iff]
  refine ⟨(), ?_⟩
  simp only [enforceBreeroHours, seq_committed, require_committed]
  refine ⟨(), ⟨hdate.trans hend.symm, hopen, hclose⟩, fun h => ⟨?_, trivial⟩⟩
  exact (hsunday (by simpa [hweekday] using h)).2.1

end

/-- `publicSearch` and `create` agree on a date if and only if the date can be searched, or
`create` has nothing to accept on it. -/
theorem offers_agree_iff (settings : Settings) (dir : Directory) (db : Db) (now : Instant)
    (caller : Caller) (service : Service) (validated : ValidatedAddress dir) (date : Int)
    (emergency : Bool) (hzones : KeepsOrder dir.zones)
    (hstored : dir.services.get? service.id = some service)
    (hadmitted : Admitted settings db now caller) :
    Agree settings dir db now caller service validated date emergency ↔
      Searchable dir service validated.address date emergency ∨
      ∀ start, OnHalfHour date start →
        ¬ Fits dir db now service validated.address emergency start := by
  have haccepted : ∀ start,
      Accepted settings dir db now caller service validated.address emergency start ↔
        Fits dir db now service validated.address emergency start :=
    fun start => createAt_isOk_iff validated hstored hadmitted
  constructor
  · intro hagree
    by_contra hnone
    obtain ⟨hunsearchable, hsome⟩ := not_or.mp hnone
    push Not at hsome
    obtain ⟨start, hon, hfits⟩ := hsome
    have hoffered := (hagree start).2 hon ((haccepted start).mpr hfits)
    exact hunsearchable (fits_of_offered hzones hstored hoffered).2
  · intro hcondition start
    constructor
    · intro hoffered
      exact (haccepted start).mpr (fits_of_offered hzones hstored hoffered).1
    · intro hon hstart
      have hfits := (haccepted start).mp hstart
      obtain ⟨hbookable, hours, hcandidate⟩ := hfits
      obtain ⟨hgrid, heligible⟩ := mem_gridOf_of_hours hon hours
      rcases hcondition with hsearchable | hnone
      · have hloop : ∃ slots, searchSlots dir db (loadOn db now) service validated.address
            emergency (closing date) (searchFuel service) (opening date) = .ok slots :=
          searchSlots_resolved hsearchable.2
        obtain ⟨slots, hslots⟩ := hloop
        have hsunday : weekdayOf (date * dayLength) = 6 → emergency = true ∧
            service.emergencyEligible = true ∧ service.sundayEmergencyEligible = true :=
          fun h => ⟨(hsearchable.1 h).1, heligible h, (hsearchable.1 h).2⟩
        have hsearch := (search_iff hstored).mpr ⟨hbookable, hsunday, slots, hslots, rfl⟩
        exact ⟨_, hsearch, (search_offers hstored hsearch).mpr
          ⟨start, hgrid, hcandidate, (clockOf_on hon).symm⟩⟩
      · exact absurd ⟨hbookable, hours, hcandidate⟩ (hnone start hon)

/-! ## A Sunday -/

def sundaySettings : Settings where
  hash payload := payload.currency
  payoutEnabled := false

/-- A visit of an hour that is eligible as an emergency, but not on Sundays. -/
def urgentVisit : Service where
  id := 3
  durationMinutes := some 60
  emergencyEligible := true
  quoteRequired := false
  isBookable := true

def sundayAddress : Address where
  id := 4
  stateCode := some "TX"
  postalCode := "77001"
  serviceAreaId := some 7

def utcOnly : Zones := fun timezoneId => if timezoneId = "UTC" then some (Zone.fixed 0) else none

/-- The worker 6 has hours on Sundays. -/
def sundayDirectory : Directory where
  zones := utcOnly
  services := ⟨[urgentVisit], by decide⟩
  addresses := ⟨[sundayAddress], by decide⟩
  providerServices := [
    { providerId := 5, serviceId := 3, active := true, approvalStatus := "APPROVED" }]
  providerServiceAreas := [
    { providerId := 5, postalCode := some "77001", active := true, approvalStatus := "APPROVED" }]
  availabilityRules := [
    { providerProfessionalId := 6, dayOfWeek := 6, startLocalTime := openLocal
      endLocalTime := closeLocal }]
  credentials := [
    { vendorId := 5, credentialType := .license, jurisdiction := "TX", verified := true
      expiresOn := 365 },
    { vendorId := 5, credentialType := .insurance, jurisdiction := "US", verified := true
      expiresOn := 365 }]

def sundayDb : Db where
  vendors := approvedVendor
  workers := ⟨[{ id := 6, vendorId := 5, status := .active, sundayEmergencyEnabled := true }],
    by decide⟩

def sundayVisit : ValidatedAddress sundayDirectory := ⟨sundayAddress, by decide, by decide⟩

def sundayCaller : Caller where
  bookingSession := "customer-session-1"
  idempotencyKey := "hold-1"
  holdId := 50

theorem keepsOrder_utcOnly : KeepsOrder utcOnly := by
  have hutc : ∀ timezoneId a s, localToUtc utcOnly a timezoneId none = .ok s → s = a := by
    intro timezoneId a s h
    simp only [localToUtc, timezone, seq_committed, orRaise_committed, require_committed,
      return_committed] at h
    obtain ⟨zone, hzone, _, _, _, _, _, _, rfl⟩ := h
    unfold utcOnly at hzone
    split at hzone
    · cases hzone
      simp [Zone.toUtc, Zone.fixed]
    · cases hzone
  intro timezoneId a b s t hs ht hle
  rw [hutc _ _ _ hs, hutc _ _ _ ht]
  exact hle

theorem sunday_agree_iff :
    Agree sundaySettings sundayDirectory sundayDb 0 sundayCaller urgentVisit sundayVisit 3 false ↔
      Searchable sundayDirectory urgentVisit sundayVisit.address 3 false ∨
      ∀ start, OnHalfHour 3 start →
        ¬ Fits sundayDirectory sundayDb 0 urgentVisit sundayVisit.address false start :=
  offers_agree_iff sundaySettings sundayDirectory sundayDb 0 sundayCaller urgentVisit sundayVisit 3
    false keepsOrder_utcOnly (by decide)
    ⟨"customer-session-1", by decide, by decide, by decide, by decide⟩

/-- Sunday at noon, without an emergency: `create` accepts it and `publicSearch` raises. -/
theorem sunday_not_offered :
    ¬ Agree sundaySettings sundayDirectory sundayDb 0 sundayCaller urgentVisit sundayVisit 3
      false := by
  intro hagree
  have haccepted : Accepted sundaySettings sundayDirectory sundayDb 0 sundayCaller urgentVisit
      sundayVisit.address false (3 * dayLength + ofMinutes 720) := by
    decide
  obtain ⟨response, hsearch, _⟩ := (hagree _).2 (by decide) haccepted
  have hraised : (publicSearch sundayDirectory sundayDb (loadOn sundayDb 0)
      { serviceId := urgentVisit.id, requestedDate := 3 } (some sundayVisit)).isOk = false := by
    decide
  rw [isOk_of_eq hsearch] at hraised
  cases hraised

end Breero.Bookings
