import Breero.Workforce.Portal
import Breero.Booking.PublicSearch
import Breero.Lib.Runs

/-!
What the calls of providers do to the matcher.

* `Share` is what the matcher reads of a vendor, and `share_exec` that the calls of others leave it
  as it is;
* `portal_isolated`: the matcher makes of a professional what it would have made without the calls
  of other providers;
* `approval_kept`: nobody is matched where they were not approved before;
* `exception_respected`: nobody is matched while they are away.
-/

namespace Breero.Workforce
open KeyedTable Transaction Bookings Runs

/-! ## A Monday -/

/-- Vendor 5 has the workers 6 and 7, and vendor 8 the worker 9. -/
def twoVendors : Db where
  vendors := ⟨[
    { id := 5, status := .active, complianceStatus := "APPROVED" },
    { id := 8, status := .active, complianceStatus := "APPROVED" }], by decide⟩
  workers := ⟨[
    { id := 6, vendorId := 5, status := .active },
    { id := 7, vendorId := 5, status := .active },
    { id := 9, vendorId := 8, status := .active }], by decide⟩

/-- User 1 owns vendor 5, and user 2 vendor 8. -/
def twoOwners : Links where
  vendorOf user := if user = 1 then some 5 else if user = 2 then some 8 else none
  workerOf _ := none
  serviceZone _ := false

def mondayDirectory : Directory := { sundayDirectory with
  providerServices := [
    { providerId := 5, serviceId := 3, active := true, approvalStatus := "APPROVED" },
    { providerId := 8, serviceId := 3, active := true, approvalStatus := "APPROVED" }] }

def mondayRule (workerId : Uuid) : RuleRecord where
  providerProfessionalId := workerId
  dayOfWeek := 0
  startLocalTime := openLocal
  endLocalTime := closeLocal
  id := 100 + workerId
  timezoneId := "UTC"

/-- Vendor 5 is approved for an area, and its workers have hours on Mondays. -/
def mondayPortal : Portal where
  areas := ⟨[{
    providerId := 5, postalCode := some "77001", active := true, approvalStatus := "APPROVED"
    id := 20, professionalId := none, areaType := .zip, serviceZoneId := none, city := none
    county := none, state := none, center := none, radiusMeters := none }], by decide⟩
  rules := ⟨[mondayRule 6, mondayRule 7], by decide⟩

/-- User 2 asks for the same area. -/
def areaRequest : Call where
  user := { id := 2, role := .vendorAdmin }
  command := .addArea { areaType := .zip, postalCode := some "77001" } 21
  now := 0

/-- Worker 6 is away on Monday. -/
def mondayAway : AvailabilityExceptionWrite where
  professionalId := 6
  startAt := 4 * dayLength
  endAt := 5 * dayLength
  timezoneId := "UTC"
  reason := .vacation

def mondayNoon : Instant := 4 * dayLength + ofMinutes 720

def mondayOne : Instant := 4 * dayLength + ofMinutes 780

/-- What the matcher finds at noon. -/
def workerOnMonday (workerId : Uuid) : ProviderCandidate where
  providerId := 5
  professionalId := workerId
  score := 55
  distanceMeters := none
  availableCapacityMinutes := 600
  capacityMinutes := 60

def workersOnMonday : List ProviderCandidate := [workerOnMonday 6, workerOnMonday 7]

def awayCall : Call where
  user := { id := 1, role := .vendorAdmin }
  command := .addException mondayAway 30
  now := 0

section
variable {links : Links} {db : Db} {dir : Directory} {portal portal' : Portal} {user : PortalUser}
  {vendor : Vendor} {worker : Option Worker} {vendorId : Uuid} {now : Instant} {u : Unit}

/-! ## Shares -/

structure Share where
  areas : List AreaRecord
  rules : List RuleRecord
  exceptions : List ExceptionRecord
  capacityRules : List CapacityRecord
  deriving DecidableEq

def share (db : Db) (vendorId : Uuid) (portal : Portal) : Share where
  areas := portal.areas.rows.filter fun area => area.providerId = vendorId
  rules := portal.rules.rows.filter fun rule => worksFor db rule.providerProfessionalId vendorId
  exceptions := portal.exceptions.rows.filter fun item =>
    worksFor db item.providerProfessionalId vendorId
  capacityRules := portal.capacityRules.rows.filter fun rule => rule.providerId = vendorId

/-- The vendor that the user's account is linked to. -/
def providerOf (links : Links) (db : Db) (user : PortalUser) : Option Uuid :=
  match context links db user with
  | .ok (vendor, _) => some vendor.id
  | .error _ => none

theorem providerOf_context (h : context links db user = .ok (vendor, worker)) :
    providerOf links db user = some vendor.id := by
  rw [providerOf, h]

theorem worksFor_unique {workerId vendorId' : Uuid} (h : worksFor db workerId vendorId)
    (h' : worksFor db workerId vendorId') : vendorId = vendorId' := by
  unfold worksFor at h h'
  cases hworker : db.workers.get? workerId with
  | none => simp [hworker] at h
  | some worker =>
    simp only [hworker, Option.any_some, decide_eq_true_eq] at h h'
    exact h.symm.trans h'

theorem worksFor_other {workerId vendorId' : Uuid} (h : worksFor db workerId vendorId)
    (hne : vendorId ≠ vendorId') : worksFor db workerId vendorId' = false := by
  rw [Bool.eq_false_iff]
  exact fun h' => hne (worksFor_unique h h')

theorem ownedArea_ok {itemId : Uuid} {item : AreaRecord}
    (h : ownedArea portal itemId vendorId = .ok item) :
    portal.areas.get? itemId = some item ∧ item.providerId = vendorId := by
  simpa [ownedArea, Option.filter_eq_some_iff] using h

theorem ownedException_ok {itemId : Uuid} {item : ExceptionRecord}
    (h : ownedException db portal itemId vendorId = .ok item) :
    portal.exceptions.get? itemId = some item ∧
      worksFor db item.providerProfessionalId vendorId := by
  simpa [ownedException, Option.filter_eq_some_iff] using h

/-! ## What a call changes -/

/-- The exception that the command is about. -/
def Command.exceptionId : Command → Option Uuid
  | .updateException itemId _ | .removeException itemId => some itemId
  | _ => none

/-- What a call of the vendor's account that is carried out does to the tables. -/
inductive Changed (db : Db) (vendorId : Uuid) (command : Command) (before after : Portal) : Prop
  | areaAdded (area : AreaRecord) (provider : area.providerId = vendorId)
      (inactive : area.active = false) (areas : before.areas.insert? area = some after.areas)
      (rules : after.rules = before.rules) (exceptions : after.exceptions = before.exceptions)
      (capacity : after.capacityRules = before.capacityRules)
  | areaChanged (item area : AreaRecord) (areas : after.areas = before.areas.put area)
      (found : before.areas.get? (key item) = some item)
      (sameKey : key area = key item)
      (owned : item.providerId = vendorId) (provider : area.providerId = vendorId)
      (inactive : area.active = false)
      (rules : after.rules = before.rules) (exceptions : after.exceptions = before.exceptions)
      (capacity : after.capacityRules = before.capacityRules)
  | rulesReplaced (added : List RuleRecord)
      (owned : ∀ rule ∈ added, worksFor db rule.providerProfessionalId vendorId)
      (rules : after.rules.rows = (rulesOfOthers db before vendorId).rows ++ added)
      (areas : after.areas = before.areas) (exceptions : after.exceptions = before.exceptions)
      (capacity : after.capacityRules = before.capacityRules)
  | exceptionAdded (item : ExceptionRecord)
      (owned : worksFor db item.providerProfessionalId vendorId)
      (exceptions : before.exceptions.insert? item = some after.exceptions)
      (areas : after.areas = before.areas) (rules : after.rules = before.rules)
      (capacity : after.capacityRules = before.capacityRules)
  | exceptionChanged (item changed : ExceptionRecord)
      (exceptions : after.exceptions = before.exceptions.put changed)
      (found : before.exceptions.get? (key item) = some item)
      (sameKey : key changed = key item) (named : command.exceptionId = some (key item))
      (owned : worksFor db item.providerProfessionalId vendorId)
      (same : changed.providerProfessionalId = item.providerProfessionalId)
      (areas : after.areas = before.areas) (rules : after.rules = before.rules)
      (capacity : after.capacityRules = before.capacityRules)
  | capacityAdded (rule : CapacityRecord) (provider : rule.providerId = vendorId)
      (capacity : before.capacityRules.insert? rule = some after.capacityRules)
      (areas : after.areas = before.areas) (rules : after.rules = before.rules)
      (exceptions : after.exceptions = before.exceptions)

theorem addArea_changed {data : ProviderServiceAreaWrite} {id : Uuid}
    (h : addArea links db portal user data id now = .ok (portal', u)) :
    ∃ vendor, providerOf links db user = some vendor ∧
      Changed db vendor (.addArea data id) portal portal' := by
  simp only [addArea, seq_committed, orRaise_committed, return_committed, Prod.mk.injEq,
    require_committed] at h
  obtain ⟨⟨vendor, worker⟩, hcontext, _, _, _, _, areas, hinsert, hportal, _⟩ := h
  subst hportal
  exact ⟨vendor.id, providerOf_context hcontext, .areaAdded _ rfl rfl hinsert rfl rfl rfl⟩

theorem updateArea_changed {itemId : Uuid} {data : ProviderServiceAreaWrite}
    (h : updateArea links db portal user itemId data now = .ok (portal', u)) :
    ∃ vendor, providerOf links db user = some vendor ∧
      Changed db vendor (.updateArea itemId data) portal portal' := by
  simp only [updateArea, seq_committed, return_committed, Prod.mk.injEq, require_committed] at h
  obtain ⟨⟨vendor, worker⟩, hcontext, item, hitem, _, _, _, _, hportal, _⟩ := h
  subst hportal
  obtain ⟨hget, howned⟩ := ownedArea_ok hitem
  exact ⟨vendor.id, providerOf_context hcontext,
    .areaChanged item _ rfl (Table.get?_found hget) rfl howned howned rfl rfl rfl rfl⟩

theorem removeArea_changed {itemId : Uuid}
    (h : removeArea links db portal user itemId now = .ok (portal', u)) :
    ∃ vendor, providerOf links db user = some vendor ∧
      Changed db vendor (.removeArea itemId) portal portal' := by
  simp only [removeArea, seq_committed, return_committed, Prod.mk.injEq] at h
  obtain ⟨⟨vendor, worker⟩, hcontext, item, hitem, hportal, _⟩ := h
  subst hportal
  obtain ⟨hget, howned⟩ := ownedArea_ok hitem
  exact ⟨vendor.id, providerOf_context hcontext,
    .areaChanged item _ rfl (Table.get?_found hget) rfl howned howned rfl rfl rfl rfl⟩

/-- The rules of a list are added behind those that are left. -/
theorem insertAll_rows {rules : List (AvailabilityRuleWrite × Uuid)} {left rows : Table RuleRecord}
    (h : rules.foldlM (fun rows rule => orRaise (rows.insert? (ruleRecord rule))
      (Raised.other "IntegrityError")) left = .ok rows) :
    rows.rows = left.rows ++ rules.map ruleRecord := by
  induction rules generalizing left with
  | nil =>
    cases h
    simp
  | cons rule rules ih =>
    simp only [List.foldlM_cons, seq_committed, orRaise_committed] at h
    obtain ⟨next, hinsert, hrest⟩ := h
    rw [ih hrest, (Table.insert?_eq_some.mp hinsert).2]
    simp

theorem replaceAvailability_changed {rules : List (AvailabilityRuleWrite × Uuid)}
    (h : replaceAvailability links db dir portal user rules now = .ok (portal', u)) :
    ∃ vendor, providerOf links db user = some vendor ∧
      Changed db vendor (.replaceAvailability rules) portal portal' := by
  simp only [replaceAvailability, seq_committed, return_committed, Prod.mk.injEq,
    require_committed] at h
  obtain ⟨⟨vendor, worker⟩, hcontext, _, hworkers, _, _, rows, hrows, hportal, _⟩ := h
  subst hportal
  refine ⟨vendor.id, providerOf_context hcontext,
    .rulesReplaced (rules.map ruleRecord) ?_ (insertAll_rows hrows) rfl rfl rfl⟩
  intro record hrecord
  obtain ⟨rule, hrule, rfl⟩ := List.mem_map.mp hrecord
  exact hworkers rule hrule

theorem addException_changed {data : AvailabilityExceptionWrite} {id : Uuid}
    (h : addException links db dir portal user data id now = .ok (portal', u)) :
    ∃ vendor, providerOf links db user = some vendor ∧
      Changed db vendor (.addException data id) portal portal' := by
  simp only [addException, seq_committed, orRaise_committed, return_committed, Prod.mk.injEq,
    ownedWorker, require_committed] at h
  obtain ⟨⟨vendor, worker⟩, hcontext, _, hworker, _, _, exceptions, hinsert, hportal, _⟩ := h
  subst hportal
  exact ⟨vendor.id, providerOf_context hcontext, .exceptionAdded _ hworker hinsert rfl rfl rfl⟩

theorem updateException_changed {itemId : Uuid} {data : AvailabilityExceptionPatch}
    (h : updateException links db dir portal user itemId data now = .ok (portal', u)) :
    ∃ vendor, providerOf links db user = some vendor ∧
      Changed db vendor (.updateException itemId data) portal portal' := by
  simp only [updateException, seq_committed, return_committed, Prod.mk.injEq,
    require_committed] at h
  obtain ⟨⟨vendor, worker⟩, hcontext, item, hitem, _, _, _, _, hportal, _⟩ := h
  subst hportal
  obtain ⟨hget, howned⟩ := ownedException_ok hitem
  exact ⟨vendor.id, providerOf_context hcontext, .exceptionChanged item _ rfl
    (Table.get?_found hget) rfl (congrArg some (Table.key_of_get? hget).symm) howned
    rfl rfl rfl rfl⟩

theorem removeException_changed {itemId : Uuid}
    (h : removeException links db portal user itemId now = .ok (portal', u)) :
    ∃ vendor, providerOf links db user = some vendor ∧
      Changed db vendor (.removeException itemId) portal portal' := by
  simp only [removeException, seq_committed, return_committed, Prod.mk.injEq] at h
  obtain ⟨⟨vendor, worker⟩, hcontext, item, hitem, hportal, _⟩ := h
  subst hportal
  obtain ⟨hget, howned⟩ := ownedException_ok hitem
  exact ⟨vendor.id, providerOf_context hcontext, .exceptionChanged item _ rfl
    (Table.get?_found hget) rfl (congrArg some (Table.key_of_get? hget).symm) howned
    rfl rfl rfl rfl⟩

theorem setCapacity_changed {data : CapacityRuleWrite} {id : Uuid}
    (h : setCapacity links db portal user data id now = .ok (portal', u)) :
    ∃ vendor, providerOf links db user = some vendor ∧
      Changed db vendor (.setCapacity data id) portal portal' := by
  simp only [setCapacity, seq_committed, orRaise_committed, return_committed,
    Prod.mk.injEq] at h
  obtain ⟨⟨vendor, worker⟩, hcontext, _, _, rules, hinsert, hportal, _⟩ := h
  subst hportal
  exact ⟨vendor.id, providerOf_context hcontext, .capacityAdded _ rfl hinsert rfl rfl rfl⟩

theorem serve_changed {call : Call}
    (h : serve links db dir portal call = .ok (portal', u)) :
    ∃ vendor, providerOf links db call.user = some vendor ∧
      Changed db vendor call.command portal portal' := by
  obtain ⟨user, command, now⟩ := call
  cases command with
  | addArea data id => exact addArea_changed h
  | updateArea itemId data => exact updateArea_changed h
  | removeArea itemId => exact removeArea_changed h
  | replaceAvailability rules => exact replaceAvailability_changed h
  | addException data id => exact addException_changed h
  | updateException itemId data => exact updateException_changed h
  | removeException itemId => exact removeException_changed h
  | setCapacity data id => exact setCapacity_changed h

/-- A call leaves the tables as they are, or changes them for the vendor of its account. -/
theorem exec_changed (links : Links) (db : Db) (dir : Directory) (portal : Portal) (call : Call) :
    exec links db dir portal call = portal ∨
      ∃ vendor, providerOf links db call.user = some vendor ∧
        Changed db vendor call.command portal (exec links db dir portal call) := by
  unfold exec
  split
  · cases hserve : serve links db dir portal call with
    | error e => exact .inl rfl
    | ok result => exact .inr (serve_changed hserve)
  · exact .inl rfl

/-! ## The share of another vendor -/

theorem rulesOfOthers_filter {other : Uuid} (hne : vendorId ≠ other) (portal : Portal) :
    ((rulesOfOthers db portal vendorId).rows.filter fun rule =>
        worksFor db rule.providerProfessionalId other) =
      portal.rules.rows.filter fun rule => worksFor db rule.providerProfessionalId other := by
  simp only [rulesOfOthers, List.filter_filter]
  refine List.filter_congr fun rule _ => ?_
  cases hworks : worksFor db rule.providerProfessionalId other with
  | false => rfl
  | true => rw [worksFor_other hworks (Ne.symm hne), Bool.not_false, Bool.and_true]

theorem Changed.share_eq {command : Command} {other : Uuid}
    (h : Changed db vendorId command portal portal') (hne : vendorId ≠ other) :
    share db other portal' = share db other portal := by
  cases h with
  | areaAdded area provider inactive areas rules exceptions capacity =>
    have hareas := Table.filter_insert (p := fun area => area.providerId = other) areas
      (by simp [provider, hne])
    simp only [share, rules, exceptions, capacity, hareas]
  | areaChanged item area areas found sameKey owned provider inactive rules exceptions capacity =>
    have hareas := Table.filter_put_outside (p := fun area => area.providerId = other)
      (sameKey ▸ found) (by simp [owned, hne]) (by simp [provider, hne])
    simp only [share, areas, rules, exceptions, capacity, hareas]
  | rulesReplaced added owned rules areas exceptions capacity =>
    have hadded : (added.filter fun rule => worksFor db rule.providerProfessionalId other) = [] :=
      List.filter_eq_nil_iff.mpr fun rule hrule => by
        simp [worksFor_other (owned rule hrule) hne]
    simp only [share, rules, areas, exceptions, capacity, List.filter_append, hadded,
      List.append_nil, rulesOfOthers_filter hne]
  | exceptionAdded item owned exceptions areas rules capacity =>
    have hitems := Table.filter_insert
      (p := fun item => worksFor db item.providerProfessionalId other) exceptions
      (worksFor_other owned hne)
    simp only [share, areas, rules, capacity, hitems]
  | exceptionChanged item changed exceptions found sameKey named owned same areas rules capacity =>
    have hitems := Table.filter_put_outside
      (p := fun item => worksFor db item.providerProfessionalId other) (sameKey ▸ found)
      (worksFor_other owned hne) (same ▸ worksFor_other owned hne)
    simp only [share, exceptions, areas, rules, capacity, hitems]
  | capacityAdded rule provider capacity areas rules exceptions =>
    have hrules := Table.filter_insert (p := fun rule => rule.providerId = other) capacity
      (by simp [provider, hne])
    simp only [share, areas, rules, exceptions, hrules]

theorem share_exec {call : Call} (hother : providerOf links db call.user ≠ some vendorId) :
    share db vendorId (exec links db dir portal call) = share db vendorId portal := by
  rcases exec_changed links db dir portal call with hsame | ⟨vendor, hvendor, hchanged⟩
  · rw [hsame]
  · refine hchanged.share_eq fun heq => hother ?_
    rw [hvendor, heq]

theorem share_run {calls : List Call}
    (hothers : ∀ call ∈ calls, providerOf links db call.user ≠ some vendorId) :
    share db vendorId (run (exec links db dir) portal calls) = share db vendorId portal := by
  induction calls generalizing portal with
  | nil => rfl
  | cons call calls ih =>
    have hrest : share db vendorId (run (exec links db dir) (exec links db dir portal call) calls) =
        share db vendorId (exec links db dir portal call) :=
      ih fun later hlater => hothers later (List.mem_cons_of_mem _ hlater)
    exact hrest.trans (share_exec (hothers call List.mem_cons_self))

/-! ## What the matcher makes of a share -/

theorem any_rows {α : Type} {p q : α → Bool} (h : ∀ a, p a → q a) (rows : List α) :
    rows.any p = (rows.filter q).any p := by
  rw [List.any_filter]
  refine congrArg (List.any rows) (funext fun a => ?_)
  cases hp : p a with
  | false => rw [Bool.and_false]
  | true => rw [h a hp, Bool.and_true]

theorem offers_share {vendor : Vendor} {worker : Worker} {service : Service} {address : Address}
    (h : share db vendor.id portal = share db vendor.id portal') :
    offers (portal.directory dir) service address vendor worker =
      offers (portal'.directory dir) service address vendor worker := by
  have hareas := congrArg Share.areas h
  simp only [share] at hareas
  simp only [offers, Portal.directory, List.any_map]
  rw [any_rows (q := fun area : AreaRecord => area.providerId = vendor.id) (by simp +contextual)
      portal.areas.rows, hareas,
    ← any_rows (q := fun area : AreaRecord => area.providerId = vendor.id) (by simp +contextual)
      portal'.areas.rows]

theorem scheduleMatches_share {workerId : Uuid} {localStart localEnd : LocalTime}
    {start stop : Instant} {emergency : Bool} (hworks : worksFor db workerId vendorId)
    (h : share db vendorId portal = share db vendorId portal') :
    scheduleMatches (portal.directory dir) workerId localStart localEnd start stop emergency =
      scheduleMatches (portal'.directory dir) workerId localStart localEnd start stop
        emergency := by
  have hrules := congrArg Share.rules h
  have hitems := congrArg Share.exceptions h
  simp only [share] at hrules hitems
  have hrule (p : RuleRecord → Bool)
      (hp : ∀ rule, p rule → rule.providerProfessionalId = workerId) :
      portal.rules.rows.any p = portal'.rules.rows.any p := by
    have hshare : ∀ rule, p rule → worksFor db rule.providerProfessionalId vendorId :=
      fun rule hmatch => by rw [hp rule hmatch]; exact hworks
    rw [any_rows hshare, hrules, ← any_rows hshare]
  have hitem (p : ExceptionRecord → Bool)
      (hp : ∀ item, p item → item.providerProfessionalId = workerId) :
      portal.exceptions.rows.any p = portal'.exceptions.rows.any p := by
    have hshare : ∀ item, p item → worksFor db item.providerProfessionalId vendorId :=
      fun item hmatch => by rw [hp item hmatch]; exact hworks
    rw [any_rows hshare, hitems, ← any_rows hshare]
  simp only [scheduleMatches, Portal.directory, List.any_map]
  rw [hrule _ (by simp +contextual), hitem _ (by simp +contextual)]

theorem limitOn_share {worker : Worker} {date : Int}
    (h : share db vendorId portal = share db vendorId portal') :
    limitOn (portal.directory dir) vendorId worker date =
      limitOn (portal'.directory dir) vendorId worker date := by
  have hcapacity := congrArg Share.capacityRules h
  simp only [share] at hcapacity
  have hrows (portal : Portal) (p : ProviderCapacityRule → Bool)
      (hp : ∀ rule, p rule → rule.providerId = vendorId) :
      (portal.directory dir).capacityRules.filter p =
        ((portal.capacityRules.rows.filter fun rule => rule.providerId = vendorId).filter
          fun rule => p rule.toProviderCapacityRule).map (·.toProviderCapacityRule) := by
    simp only [Portal.directory, List.filter_map, List.filter_filter]
    congr 1
    refine List.filter_congr fun rule _ => ?_
    cases hmatch : p rule.toProviderCapacityRule with
    | false => simp [hmatch]
    | true => simp [hmatch, hp _ hmatch]
  unfold limitOn ruleInForce
  rw [hrows portal _ (by simp +contextual), hrows portal' _ (by simp +contextual), hcapacity]

theorem candidate_share {service : Service} {address : Address} {zone : Zone}
    {start stop : Instant} {emergency : Bool} {loads : Uuid → Day → Load} {vendor : Vendor}
    {worker : Worker} (hworks : worksFor db worker.id vendor.id)
    (h : share db vendor.id portal = share db vendor.id portal') :
    candidate (portal.directory dir) service address zone start stop emergency loads vendor
        worker =
      candidate (portal'.directory dir) service address zone start stop emergency loads vendor
        worker := by
  unfold candidate
  simp only [scheduleMatches_share hworks h, limitOn_share h]
  rfl

/-- What the matcher finds of a professional does not depend on what other providers call. -/
theorem portal_isolated (links : Links) (db : Db) (dir : Directory) (portal : Portal)
    (calls : List Call) (vendor : Vendor) (worker : Worker)
    (hworks : worksFor db worker.id vendor.id)
    (hothers : ∀ call ∈ calls, providerOf links db call.user ≠ some vendor.id)
    (service : Service) (address : Address) (zone : Zone) (start stop : Instant)
    (emergency : Bool) (loads : Uuid → Day → Load) :
    let after := (run (exec links db dir) portal calls).directory dir
    offers after service address vendor worker =
        offers (portal.directory dir) service address vendor worker ∧
      candidate after service address zone start stop emergency loads vendor worker =
        candidate (portal.directory dir) service address zone start stop emergency loads vendor
          worker := by
  intro after
  have hshare : share db vendor.id (run (exec links db dir) portal calls) =
      share db vendor.id portal := share_run hothers
  exact ⟨offers_share hshare, candidate_share hworks hshare⟩

/-- User 2 changes nothing for worker 6. -/
theorem areaRequest_isolated :
    let vendor : Vendor := { id := 5, status := .active, complianceStatus := "APPROVED" }
    let worker : Worker := { id := 6, vendorId := 5, status := .active }
    let after := (run (exec twoOwners twoVendors mondayDirectory) mondayPortal
      [areaRequest]).directory mondayDirectory
    let before := mondayPortal.directory mondayDirectory
    offers after urgentVisit sundayAddress vendor worker =
        offers before urgentVisit sundayAddress vendor worker ∧
      candidate after urgentVisit sundayAddress (Zone.fixed 0) mondayNoon mondayOne false
          (fun _ _ => {}) vendor worker =
        candidate before urgentVisit sundayAddress (Zone.fixed 0) mondayNoon mondayOne false
          (fun _ _ => {}) vendor worker :=
  portal_isolated twoOwners twoVendors mondayDirectory mondayPortal [areaRequest]
    { id := 5, status := .active, complianceStatus := "APPROVED" }
    { id := 6, vendorId := 5, status := .active } (by decide) (by decide) urgentVisit sundayAddress
    (Zone.fixed 0) mondayNoon mondayOne false fun _ _ => {}

/-! ## Approval -/

theorem Changed.active_areas {command : Command}
    (h : Changed db vendorId command portal portal') :
    ∀ area ∈ portal'.areas.rows, area.active = true → area ∈ portal.areas.rows := by
  intro row hrow hactive
  cases h with
  | areaAdded area provider inactive areas =>
    rcases (Table.mem_insert areas).mp hrow with hold | rfl
    · exact hold
    · rw [inactive] at hactive
      cases hactive
  | areaChanged item area areas found sameKey owned provider inactive =>
    rw [areas] at hrow
    rcases Table.mem_put.mp hrow with ⟨rfl, _⟩ | ⟨hold, _⟩
    · rw [inactive] at hactive
      cases hactive
    · exact hold
  | rulesReplaced added owned rules areas => exact areas ▸ hrow
  | exceptionAdded item owned exceptions areas => exact areas ▸ hrow
  | exceptionChanged item changed exceptions found sameKey named owned same areas =>
    exact areas ▸ hrow
  | capacityAdded rule provider capacity areas => exact areas ▸ hrow

theorem run_active_areas {calls : List Call} :
    ∀ area ∈ (run (exec links db dir) portal calls).areas.rows, area.active = true →
      area ∈ portal.areas.rows := by
  induction calls generalizing portal with
  | nil => exact fun area hrow _ => hrow
  | cons call calls ih =>
    intro area hrow hactive
    have hnext : area ∈ (exec links db dir portal call).areas.rows := ih area hrow hactive
    rcases exec_changed links db dir portal call with hsame | ⟨vendor, _, hchanged⟩
    · exact hsame ▸ hnext
    · exact hchanged.active_areas area hnext hactive

theorem offers_of_run {calls : List Call} {service : Service} {address : Address}
    {vendor : Vendor} {worker : Worker}
    (h : offers ((run (exec links db dir) portal calls).directory dir) service address vendor
      worker) :
    offers (portal.directory dir) service address vendor worker := by
  simp only [offers, Portal.directory, List.any_map, Bool.and_eq_true, List.any_eq_true] at h ⊢
  obtain ⟨⟨⟨⟨⟨hservice, area, hrow, harea⟩, hvendor⟩, hcompliance⟩, hworker⟩, havailable⟩ := h
  have hactive : area.active = true := by
    simp only [Function.comp, Bool.and_eq_true] at harea
    exact harea.1.2
  exact ⟨⟨⟨⟨⟨hservice, area, run_active_areas area hrow hactive, harea⟩, hvendor⟩, hcompliance⟩,
    hworker⟩, havailable⟩

/-- What a candidate of the matcher says. -/
theorem candidates_ok {service : Service} {address : Address} {start stop : Instant}
    {emergency : Bool} {professionalId : Option Uuid} {loads : Uuid → Day → Load}
    {results : List ProviderCandidate} {found : ProviderCandidate}
    (h : candidates dir db service address start stop emergency professionalId loads = .ok results)
    (hmem : found ∈ results) :
    ∃ vendor ∈ db.vendors.rows, ∃ worker ∈ db.workers.rows,
      found.providerId = vendor.id ∧ found.professionalId = worker.id ∧
      worker.vendorId = vendor.id ∧ offers dir service address vendor worker ∧
      ∃ localStart localEnd,
        scheduleMatches dir worker.id localStart localEnd start stop emergency := by
  simp only [candidates, seq_committed, return_committed] at h
  obtain ⟨zone, _, rfl⟩ := h
  rw [List.mem_insertionSort] at hmem
  obtain ⟨⟨vendor, worker⟩, hrow, hfound⟩ := List.mem_filterMap.mp hmem
  obtain ⟨worker', hworker, hrow⟩ := List.mem_filterMap.mp (List.mem_of_mem_take hrow)
  obtain ⟨vendor', hvendor, hrow⟩ := Option.bind_eq_some_iff.mp hrow
  split at hrow
  · next hoffers =>
    cases hrow
    simp only [candidate] at hfound
    iterate 2
      split at hfound
      · cases hfound
    split at hfound
    · cases hfound
    · next hschedule =>
      iterate 2
        split at hfound
        · cases hfound
      cases hfound
      exact ⟨vendor, Table.mem_of_get? hvendor, worker, hworker, rfl, rfl,
        (Table.key_of_get? hvendor).symm, hoffers.1, _, _, not_not.mp hschedule⟩
  · cases hrow

/-- Whatever providers call, nobody is matched for an address whose area was not approved for
them before. -/
theorem approval_kept (links : Links) (db : Db) (dir : Directory) (portal : Portal)
    (calls : List Call) (service : Service) (address : Address) (start stop : Instant)
    (emergency : Bool) (professionalId : Option Uuid) (loads : Uuid → Day → Load)
    (results : List ProviderCandidate)
    (h : candidates ((run (exec links db dir) portal calls).directory dir) db service address start
      stop emergency professionalId loads = .ok results) :
    ∀ found ∈ results, ∃ vendor ∈ db.vendors.rows, ∃ worker ∈ db.workers.rows,
      found.providerId = vendor.id ∧ found.professionalId = worker.id ∧
      worker.vendorId = vendor.id ∧
      offers (portal.directory dir) service address vendor worker := by
  intro found hmem
  obtain ⟨vendor, hvendor, worker, hworker, hprovider, hprofessional, hworks, hoffers, _⟩ :=
    candidates_ok h hmem
  exact ⟨vendor, hvendor, worker, hworker, hprovider, hprofessional, hworks,
    offers_of_run hoffers⟩

/-- The request of user 2 matches nobody of vendor 8. -/
theorem areaRequest_unmatched :
    workersOnMonday.map (·.professionalId) = [6, 7] ∧
      ∀ found ∈ workersOnMonday, ∃ vendor ∈ twoVendors.vendors.rows,
        ∃ worker ∈ twoVendors.workers.rows,
          found.providerId = vendor.id ∧ found.professionalId = worker.id ∧
          worker.vendorId = vendor.id ∧
          offers (mondayPortal.directory mondayDirectory) urgentVisit sundayAddress vendor
            worker :=
  ⟨by decide, approval_kept twoOwners twoVendors mondayDirectory mondayPortal [areaRequest]
    urgentVisit sundayAddress mondayNoon mondayOne false none (fun _ _ => {}) workersOnMonday
    (by decide)⟩

/-! ## Exceptions -/

theorem Changed.exception_stays {command : Command} {item : ExceptionRecord}
    (h : Changed db vendorId command portal portal') (hitem : item ∈ portal.exceptions.rows)
    (hnamed : command.exceptionId ≠ some item.id) : item ∈ portal'.exceptions.rows := by
  cases h with
  | areaAdded area provider inactive areas rules exceptions => exact exceptions ▸ hitem
  | areaChanged item' area areas found sameKey owned provider inactive rules exceptions =>
    exact exceptions ▸ hitem
  | rulesReplaced added owned rules areas exceptions => exact exceptions ▸ hitem
  | exceptionAdded other owned exceptions => exact (Table.mem_insert exceptions).mpr (.inl hitem)
  | exceptionChanged other changed exceptions found sameKey named =>
    rw [exceptions]
    refine Table.mem_put_of_mem hitem fun hkey => hnamed ?_
    rw [named, ← sameKey, ← hkey]
    rfl
  | capacityAdded rule provider capacity areas rules exceptions => exact exceptions ▸ hitem

theorem run_exception_stays (links : Links) (db : Db) (dir : Directory) {calls : List Call}
    {item : ExceptionRecord}
    (hitem : item ∈ portal.exceptions.rows)
    (hnamed : ∀ call ∈ calls, call.command.exceptionId ≠ some item.id) :
    item ∈ (run (exec links db dir) portal calls).exceptions.rows := by
  induction calls generalizing portal with
  | nil => exact hitem
  | cons call calls ih =>
    have hnext : item ∈ (exec links db dir portal call).exceptions.rows := by
      rcases exec_changed links db dir portal call with hsame | ⟨vendor, _, hchanged⟩
      · exact hsame.symm ▸ hitem
      · exact hchanged.exception_stays hitem (hnamed call List.mem_cons_self)
    exact ih hnext fun later hlater => hnamed later (List.mem_cons_of_mem _ hlater)

theorem addException_stored {data : AvailabilityExceptionWrite} {id : Uuid}
    (h : addException links db dir portal user data id now = .ok (portal', u)) :
    ∃ item ∈ portal'.exceptions.rows, item.id = id ∧
      item.providerProfessionalId = data.professionalId ∧ item.startAt = data.startAt ∧
      item.endAt = data.endAt ∧ item.status = "ACTIVE" := by
  simp only [addException, seq_committed, orRaise_committed, return_committed, Prod.mk.injEq] at h
  obtain ⟨_, _, _, _, _, _, exceptions, hinsert, hportal, _⟩ := h
  subst hportal
  exact ⟨_, (Table.mem_insert hinsert).mpr (.inr rfl), rfl, rfl, rfl, rfl, rfl⟩

/-- Once it is set that a professional is away, they are matched for no appointment that meets
that time, whatever is called, until the exception itself is changed. -/
theorem exception_respected (links : Links) (db : Db) (dir : Directory) (portal portal' : Portal)
    (user : PortalUser) (data : AvailabilityExceptionWrite) (id : Uuid) (now : Instant)
    (hadded : addException links db dir portal user data id now = .ok (portal', ()))
    (calls : List Call) (hnamed : ∀ call ∈ calls, call.command.exceptionId ≠ some id)
    (service : Service) (address : Address) (start stop : Instant) (hstart : start < data.endAt)
    (hstop : data.startAt < stop) (emergency : Bool) (professionalId : Option Uuid)
    (loads : Uuid → Day → Load) (results : List ProviderCandidate)
    (h : candidates ((run (exec links db dir) portal' calls).directory dir) db service address
      start stop emergency professionalId loads = .ok results) :
    ∀ found ∈ results, found.professionalId ≠ data.professionalId := by
  intro found hmem hprofessional
  obtain ⟨_, _, worker, _, _, hworker, _, _, localStart, localEnd, hschedule⟩ :=
    candidates_ok h hmem
  obtain ⟨item, hitem, rfl, hwho, hfrom, huntil, hactive⟩ := addException_stored hadded
  have hstays := run_exception_stays links db dir hitem hnamed
  simp only [scheduleMatches, Bool.and_eq_true, Bool.not_eq_true'] at hschedule
  refine List.any_eq_false.mp hschedule.2 _ (List.mem_map_of_mem hstays) ?_
  simp [hwho, hfrom, huntil, hactive, hstart, hstop, ← hprofessional, hworker]

/-- While worker 6 is away, worker 7 is matched. -/
theorem mondayAway_respected :
    mondayAway.professionalId = 6 ∧
      ∀ found ∈ [workerOnMonday 7], found.professionalId ≠ mondayAway.professionalId :=
  ⟨rfl, exception_respected twoOwners twoVendors mondayDirectory mondayPortal
    (exec twoOwners twoVendors mondayDirectory mondayPortal awayCall) awayCall.user mondayAway 30 0
    rfl [areaRequest] (by decide) urgentVisit sundayAddress mondayNoon mondayOne (by decide)
    (by decide) false none (fun _ _ => {}) [workerOnMonday 7] (by decide)⟩

end

end Breero.Workforce
