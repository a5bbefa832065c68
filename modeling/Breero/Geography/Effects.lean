import Breero.Lib.Sorting
import Breero.Geography.System

/-!
What a request can do, said once.

* `projection` is the list of base ZIPs of some rows, `syncLegacyPostalCodes` writes that of the
  rows of the zone;
* `Step` has one constructor for each kind of request that commits, with the tables as they are
  before the last refresh of the list;
* `Edited` says that only one zone and its rows are changed, which `Step.edited` derives.
-/

namespace Breero.Geography
open KeyedTable Transaction

namespace Tables

/-! ## Rows of a zone -/

def ofZone (db : Tables) (serviceAreaId : Uuid) : List ServiceZonePostalCode :=
  db.postalCodes.rows.filter fun row => row.serviceAreaId = serviceAreaId

/-- The order-preserving deduplication of the base ZIPs of the rows that are active and regular,
in the order in which they are listed. -/
def projection (rows : List ServiceZonePostalCode) : List String :=
  (((rows.filter fun row => row.active && row.regularServiceEnabled).insertionSort
    listedBefore).map (·.postalCode.base)).eraseDups

theorem charsLe_trans {as bs cs : List Char} (h : charsLe as bs = true)
    (h' : charsLe bs cs = true) : charsLe as cs = true := by
  induction as generalizing bs cs with
  | nil => rfl
  | cons a as ih =>
    cases bs with
    | nil => cases h
    | cons b bs =>
      cases cs with
      | nil => cases h'
      | cons c cs =>
        simp only [charsLe, Bool.or_eq_true, Bool.and_eq_true, decide_eq_true_eq] at h h' ⊢
        rcases h with h | ⟨hab, h⟩
        · rcases h' with h' | ⟨hbc, _⟩ <;> omega
        · rcases h' with h' | ⟨hbc, h'⟩
          · omega
          · exact Or.inr ⟨hab.trans hbc, ih h h'⟩

theorem charsLe_total (as bs : List Char) : charsLe as bs = true ∨ charsLe bs as = true := by
  induction as generalizing bs with
  | nil => exact Or.inl rfl
  | cons a as ih =>
    cases bs with
    | nil => exact Or.inr rfl
    | cons b bs =>
      simp only [charsLe, Bool.or_eq_true, Bool.and_eq_true, decide_eq_true_eq]
      rcases Nat.lt_trichotomy a.toNat b.toNat with h | h | h
      · exact Or.inl (Or.inl h)
      · rcases ih bs with hle | hle
        · exact Or.inl (Or.inr ⟨h, hle⟩)
        · exact Or.inr (Or.inr ⟨h.symm, hle⟩)
      · exact Or.inr (Or.inl h)

instance : IsTrans ServiceZonePostalCode listedBefore where
  trans a b c hab hbc := by
    unfold listedBefore at *
    rcases hab with hab | ⟨hab, hcode⟩
    · rcases hbc with hbc | ⟨hbc, _⟩
      · exact Or.inl (hbc.trans hab)
      · exact Or.inl (hbc ▸ hab)
    · rcases hbc with hbc | ⟨hbc, hcode'⟩
      · exact Or.inl (hab ▸ hbc)
      · exact Or.inr ⟨hab.trans hbc, charsLe_trans hcode hcode'⟩

instance : Std.Total listedBefore where
  total a b := by
    unfold listedBefore
    rcases Nat.lt_trichotomy a.priority b.priority with h | h | h
    · exact Or.inr (Or.inl h)
    · rcases charsLe_total a.postalCode.val.toList b.postalCode.val.toList with hcode | hcode
      · exact Or.inl (Or.inr ⟨h, hcode⟩)
      · exact Or.inr (Or.inr ⟨h.symm, hcode⟩)
    · exact Or.inl (Or.inl h)

theorem mem_ofZone {db : Tables} {serviceAreaId : Uuid} {row : ServiceZonePostalCode} :
    row ∈ db.ofZone serviceAreaId ↔
      row ∈ db.postalCodes.rows ∧ row.serviceAreaId = serviceAreaId := by
  simp [ofZone]

theorem mem_zonePostalCodes {db : Tables} {serviceAreaId : Uuid} {activeOnly : Bool}
    {row : ServiceZonePostalCode} :
    row ∈ db.zonePostalCodes serviceAreaId activeOnly ↔
      row ∈ db.ofZone serviceAreaId ∧ (activeOnly → row.active) := by
  simp only [zonePostalCodes, List.mem_insertionSort, ofZone, List.mem_filter]
  cases activeOnly <;> simp [and_assoc]

theorem mem_projection {rows : List ServiceZonePostalCode} {zip : String} :
    zip ∈ projection rows ↔
      ∃ row ∈ rows, row.active ∧ row.regularServiceEnabled ∧ row.postalCode.base = zip := by
  simp [projection, and_assoc]

/-- The rows as the refresh selects, sorts and then filters them. -/
theorem zonePostalCodes_regular (db : Tables) (serviceAreaId : Uuid) :
    (db.zonePostalCodes serviceAreaId true).filter (·.regularServiceEnabled) =
      ((db.ofZone serviceAreaId).filter fun row =>
        row.active && row.regularServiceEnabled).insertionSort listedBefore := by
  unfold zonePostalCodes
  rw [Sorting.filter_insertionSort, ofZone, List.filter_filter, List.filter_filter]
  congr 1
  apply List.filter_congr
  intro row _
  cases row.active <;> cases row.regularServiceEnabled <;> simp

/-! ## The refresh -/

theorem syncLegacyPostalCodes_of_zone {db : Tables} {zone : ServiceArea}
    (h : db.zones.get? zone.id = some zone) :
    db.syncLegacyPostalCodes zone.id = { db with
      zones := db.zones.put { zone with postalCodes := projection (db.ofZone zone.id) } } := by
  unfold syncLegacyPostalCodes
  rw [h]
  dsimp only
  rw [zonePostalCodes_regular]
  rfl

theorem sync_postalCodes (db : Tables) (serviceAreaId : Uuid) :
    (db.syncLegacyPostalCodes serviceAreaId).postalCodes = db.postalCodes := by
  unfold syncLegacyPostalCodes
  split <;> rfl

theorem sync_drawn (db : Tables) (serviceAreaId : Uuid) :
    (db.syncLegacyPostalCodes serviceAreaId).drawn = db.drawn := by
  unfold syncLegacyPostalCodes
  split <;> rfl

theorem sync_ofZone (db : Tables) (serviceAreaId other : Uuid) :
    (db.syncLegacyPostalCodes serviceAreaId).ofZone other = db.ofZone other := by
  unfold ofZone
  rw [sync_postalCodes]

/-- A zone after the refresh, whatever zone that is for. -/
theorem sync_get? {db : Tables} {serviceAreaId other : Uuid} {zone : ServiceArea}
    (h : (db.syncLegacyPostalCodes serviceAreaId).zones.get? other = some zone) :
    (other ≠ serviceAreaId ∧ db.zones.get? other = some zone) ∨
      ∃ old, other = serviceAreaId ∧ db.zones.get? serviceAreaId = some old ∧
        zone = { old with postalCodes := projection (db.ofZone serviceAreaId) } := by
  refine Table.get?_put_found (fun hnone => ?_) (fun old hold => ?_) h
  · unfold syncLegacyPostalCodes
    rw [hnone]
  · obtain rfl : old.id = serviceAreaId := Table.key_of_get? hold
    rw [syncLegacyPostalCodes_of_zone hold]
    exact ⟨rfl, rfl⟩

end Tables

open Tables

theorem bumpZone_postalCodes (db : Tables) (serviceAreaId : Uuid) :
    (bumpZone db serviceAreaId).postalCodes = db.postalCodes := by
  unfold bumpZone
  split <;> rfl

theorem bumpZone_drawn (db : Tables) (serviceAreaId : Uuid) :
    (bumpZone db serviceAreaId).drawn = db.drawn := by
  unfold bumpZone
  split <;> rfl

theorem bumpZone_ofZone (db : Tables) (serviceAreaId other : Uuid) :
    (bumpZone db serviceAreaId).ofZone other = db.ofZone other := by
  unfold ofZone
  rw [bumpZone_postalCodes]

theorem bumpZone_get? {db : Tables} {serviceAreaId other : Uuid} {zone : ServiceArea}
    (h : (bumpZone db serviceAreaId).zones.get? other = some zone) :
    (other ≠ serviceAreaId ∧ db.zones.get? other = some zone) ∨
      ∃ old, other = serviceAreaId ∧ db.zones.get? serviceAreaId = some old ∧
        zone = { old with version := old.version + 1 } := by
  refine Table.get?_put_found (fun hnone => ?_) (fun old hold => ?_) h
  · unfold bumpZone
    rw [hnone]
  · obtain rfl : old.id = serviceAreaId := Table.key_of_get? hold
    unfold bumpZone
    rw [hold]
    exact ⟨rfl, rfl⟩

/-! ## Rows added -/

theorem addPostalCodes_rows {t u : Table ServiceZonePostalCode}
    {rows : List ServiceZonePostalCode} (h : addPostalCodes t rows = .ok u) :
    u.rows = t.rows ++ rows := by
  unfold addPostalCodes at h
  induction rows generalizing t with
  | nil =>
    cases h
    simp
  | cons row rows ih =>
    rw [List.foldlM_cons, seq_committed] at h
    obtain ⟨mid, hmid, h⟩ := h
    rw [ih h, (Table.insert?_eq_some.mp (orRaise_committed.mp hmid)).2, List.append_assoc]
    rfl

theorem addPostalCodes_one {t u : Table ServiceZonePostalCode} {row : ServiceZonePostalCode}
    (h : addPostalCodes t [row] = .ok u) : t.insert? row = some u := by
  unfold addPostalCodes at h
  rw [List.foldlM_cons, seq_committed] at h
  obtain ⟨mid, hmid, h⟩ := h
  cases h
  exact orRaise_committed.mp hmid

theorem requestedRows_zone {zone : ServiceArea} {regular : Bool} {drawn : Nat}
    {codes : List PostalCode} {row : ServiceZonePostalCode}
    (h : row ∈ requestedRows zone regular drawn codes) :
    row.serviceAreaId = zone.id ∧ row.active := by
  obtain ⟨i, _, rfl⟩ := List.mem_mapIdx.mp h
  exact ⟨rfl, rfl⟩

/-! ## Parts of an update -/

theorem replaceOfferings_eq {db mid : Tables} {serviceAreaId : Uuid} {serviceIds : List Uuid}
    {regular emergency : Bool}
    (h : replaceOfferings db serviceAreaId serviceIds regular emergency = .ok mid) :
    ∃ offerings, mid = { db with offerings } := by
  simp only [replaceOfferings, seq_committed, return_committed] at h
  obtain ⟨offerings, _, rfl⟩ := h
  exact ⟨offerings, rfl⟩

theorem updateOfferings_eq {catalog : Catalog} {db mid : Tables} {zone : ServiceArea}
    {command : ServiceZoneUpdate} {regular : Bool}
    (h : updateOfferings catalog db zone command regular = .ok mid) :
    ∃ offerings, mid = { db with offerings } := by
  unfold updateOfferings at h
  split at h
  · rw [seq_committed] at h
    obtain ⟨_, _, h⟩ := h
    exact replaceOfferings_eq h
  · rw [return_committed] at h
    exact ⟨_, h.symm⟩

theorem updateZoneRows_others {t : Table ServiceZonePostalCode} {serviceAreaId other : Uuid}
    {f : ServiceZonePostalCode → ServiceZonePostalCode} (hf : ∀ row, key (f row) = key row)
    (hne : other ≠ serviceAreaId) :
    (updateZoneRows t serviceAreaId f hf).rows.filter (fun row => row.serviceAreaId = other) =
      t.rows.filter fun row => row.serviceAreaId = other := by
  apply Table.filter_update
  · intro row hrow
    rw [decide_eq_true_eq] at hrow
    exact if_neg fun e => hne (hrow.symm.trans e)
  · intro row hrow
    split
    · next hzone =>
      have harea : (f row).serviceAreaId = row.serviceAreaId := congrArg Prod.fst (hf row)
      simpa [harea, hzone] using Ne.symm hne
    · exact hrow

/-- The rows of other zones are not among those that are added. -/
theorem filter_others {rows : List ServiceZonePostalCode} {serviceAreaId other : Uuid}
    (hrows : ∀ row ∈ rows, row.serviceAreaId = serviceAreaId) (hne : other ≠ serviceAreaId) :
    rows.filter (fun row => row.serviceAreaId = other) = [] := by
  rw [List.filter_eq_nil_iff]
  intro row hrow
  simpa [hrows row hrow] using Ne.symm hne

theorem updatePostalCodes_others {db mid : Tables} {zone : ServiceArea}
    {command : ServiceZoneUpdate} {regular : Bool}
    (h : updatePostalCodes db zone command regular = .ok mid) :
    mid.zones = db.zones ∧ db.drawn ≤ mid.drawn ∧
      ∀ other, other ≠ zone.id → mid.ofZone other = db.ofZone other := by
  unfold updatePostalCodes at h
  split at h
  · simp only [replaceZonePostalCodes, seq_committed, return_committed] at h
    obtain ⟨t, ht, rfl⟩ := h
    refine ⟨rfl, Nat.le_add_right _ _, fun other hne => ?_⟩
    unfold ofZone
    rw [addPostalCodes_rows ht, List.filter_append, updateZoneRows_others _ hne,
      filter_others (fun row hrow => (requestedRows_zone hrow).1) hne, List.append_nil]
  · split at h
    · rw [return_committed] at h
      subst h
      refine ⟨rfl, Nat.le_refl _, fun other hne => ?_⟩
      unfold ofZone
      exact updateZoneRows_others (f := retainedRow zone command regular) (fun _ => rfl) hne
    · rw [return_committed] at h
      subst h
      exact ⟨rfl, Nat.le_refl _, fun _ _ => rfl⟩

theorem setCenter_id (command : ServiceZoneUpdate) (zone : ServiceArea) :
    (setCenter command zone).id = zone.id := by
  unfold setCenter
  split
  · rfl
  · split <;> rfl

theorem setRadius_id {platform : Platform} {command : ServiceZoneUpdate}
    {zone zone' : ServiceArea} (h : setRadius platform command zone = .ok zone') :
    zone'.id = zone.id := by
  unfold setRadius at h
  split at h
  · cases h
    rfl
  · split at h
    · cases h
      rfl
    · simp only [seq_committed, return_committed] at h
      obtain ⟨_, _, rfl⟩ := h
      rfl

theorem setBoundary_id (command : ServiceZoneUpdate) (boundary : Option Geometry)
    (zone : ServiceArea) : (setBoundary command boundary zone).id = zone.id := by
  unfold setBoundary
  split
  · rfl
  · split <;> rfl

/-! ## Steps -/

/-- What a request on postal codes makes of the rows, all of which are of one zone. -/
inductive Rewrites (db : Tables) : Op → Uuid → Table ServiceZonePostalCode → Prop
  | added {command zone t} (hzone : db.zones.get? command.serviceAreaId = some zone)
      (hrow : db.postalCodes.insert? (newPostalCode zone db.drawn command) = some t) :
      Rewrites db (.createPostalCode command) zone.id t
  | patched {postalCodeId command row} (hrow : db.postalCode postalCodeId = some row)
      (hstorable : command.storable) :
      Rewrites db (.updatePostalCode postalCodeId command row.version) row.serviceAreaId
        (db.postalCodes.put (patchedRow command row))
  | deactivated {postalCodeId row} (hrow : db.postalCode postalCodeId = some row) :
      Rewrites db (.deactivatePostalCode postalCodeId row.version) row.serviceAreaId
        (db.postalCodes.put (deactivatedRow row))
  | imported {command idempotencyKey now zone t imported}
      (hzone : db.zones.get? command.serviceAreaId = some zone)
      (hkey : db.imports.get? idempotencyKey = none) (hunique : command.uniquePostalCodes)
      (hrows : importRows zone.id db.postalCodes db.drawn 0 command.rows = .ok (t, imported)) :
      Rewrites db (.importPostalCodes command idempotencyKey now) zone.id t

inductive Step (platform : Platform) (db : Tables) : Op → Tables → Prop
  | refused {op raised} (h : perform platform db op = .error raised) : Step platform db op db
  | replayed {command idempotencyKey now existing}
      (h : db.imports.get? idempotencyKey = some existing) :
      Step platform db (.importPostalCodes command idempotencyKey now) db
  | created {catalog command boundary zone} {mid : Tables} (hshape : command.coverageShape)
      (hentity : command.legalEntityId ∈ catalog.legalEntities)
      (hservices : ∀ serviceId ∈ command.serviceIds, serviceId ∈ catalog.services)
      (hboundary : validatedBoundary platform command.boundaryGeojson = .ok boundary)
      (hzone : zone = newZone platform db.drawn command boundary)
      (hzones : db.zones.insert? zone = some mid.zones)
      (hrows : mid.postalCodes.rows = db.postalCodes.rows ++
        requestedRows zone command.regularServiceEnabled (db.drawn + 1) command.postalCodes)
      (hdrawn : db.drawn < mid.drawn) :
      Step platform db (.createZone catalog command) (mid.syncLegacyPostalCodes zone.id)
  | updated {catalog serviceAreaId command expectedVersion zone zone'} {mid : Tables}
      (hget : db.zones.get? serviceAreaId = some zone) (hid : zone'.id = zone.id)
      (hzones : mid.zones = db.zones.put zone')
      (hothers : ∀ other, other ≠ zone'.id → mid.ofZone other = db.ofZone other)
      (hselector : hasCoverageSelector mid zone') (hdrawn : db.drawn ≤ mid.drawn) :
      Step platform db (.updateZone catalog serviceAreaId command expectedVersion)
        (mid.syncLegacyPostalCodes zone'.id)
  | deactivated {serviceAreaId expectedVersion zone}
      (hget : db.zones.get? serviceAreaId = some zone) :
      Step platform db (.deactivateZone serviceAreaId expectedVersion)
        { db with zones := db.zones.put { zone with active := false, version := zone.version + 1 } }
  | rewritten {op serviceAreaId t} {mid : Tables} (hrows : Rewrites db op serviceAreaId t)
      (hzones : mid.zones = db.zones) (htable : mid.postalCodes = t)
      (hdrawn : db.drawn ≤ mid.drawn) :
      Step platform db op
        ((bumpZone mid serviceAreaId).syncLegacyPostalCodes serviceAreaId)

theorem requireVersion_committed {current expected : Nat} {title : String} {u : Unit} :
    requireVersion current expected title = .ok u ↔ current = expected :=
  require_committed

theorem createZone_step {platform : Platform} {catalog : Catalog} {db db' : Tables}
    {command : ServiceZoneCreate} {zone : ServiceArea} (hshape : command.coverageShape)
    (h : createZone platform catalog db command = .ok (db', zone)) :
    Step platform db (.createZone catalog command) db' := by
  simp only [createZone, validateServices, exceptIntegrityError, addZone, seq_committed,
    require_committed, mapError_committed, orRaise_committed, return_committed,
    Prod.mk.injEq] at h
  obtain ⟨_, hentity, _, hservices, boundary, hboundary, zones, hzones, mid, hofferings, t, ht,
    rfl, rfl⟩ := h
  obtain ⟨offerings, rfl⟩ := replaceOfferings_eq hofferings
  refine .created hshape hentity hservices hboundary rfl hzones (addPostalCodes_rows ht) ?_
  show db.drawn < db.drawn + 1 + command.postalCodes.length
  omega

theorem updateZone_step {platform : Platform} {catalog : Catalog} {db db' : Tables}
    {serviceAreaId : Uuid} {command : ServiceZoneUpdate} {expectedVersion : Nat}
    {zone : ServiceArea}
    (h : updateZone platform catalog db serviceAreaId command expectedVersion =
      .ok (db', zone)) :
    Step platform db (.updateZone catalog serviceAreaId command expectedVersion) db' := by
  simp only [updateZone, ensureCoverageSelector, seq_committed, require_committed,
    orRaise_committed, return_committed, Prod.mk.injEq] at h
  obtain ⟨old, hget, _, _, boundary, _, moved, hradius, _, _, mid, hofferings, last, hpostal,
    _, hselector, rfl, rfl⟩ := h
  obtain ⟨offerings, rfl⟩ := updateOfferings_eq hofferings
  obtain ⟨hzones, hdrawn, hothers⟩ := updatePostalCodes_others hpostal
  have hid : (setBoundary command boundary moved).id = old.id := by
    rw [setBoundary_id, setRadius_id hradius, setCenter_id]
    rfl
  generalize setBoundary command boundary moved = zone' at *
  -- the zone is flushed before the check and once more after it
  have hput : (db.zones.put zone').put { zone' with version := zone'.version + 1 } =
      db.zones.put { zone' with version := zone'.version + 1 } := Table.put_put rfl
  show Step platform db _ (syncLegacyPostalCodes _
    ({ zone' with version := zone'.version + 1 } : ServiceArea).id)
  refine .updated hget hid ?_ hothers hselector hdrawn
  rw [hzones]
  exact hput

theorem performed_step {platform : Platform} {db db' : Tables} {op : Op}
    (h : perform platform db op = .ok db') : Step platform db op db' := by
  cases op with
  | createZone catalog command =>
    simp only [perform, seq_committed, require_committed, return_committed] at h
    obtain ⟨_, hshape, ⟨mid, zone⟩, h, rfl⟩ := h
    exact createZone_step hshape h
  | updateZone catalog serviceAreaId command expectedVersion =>
    simp only [perform, seq_committed, return_committed] at h
    obtain ⟨_, _, ⟨mid, zone⟩, h, rfl⟩ := h
    exact updateZone_step h
  | deactivateZone serviceAreaId expectedVersion =>
    simp only [perform, deactivateZone, seq_committed, orRaise_committed, return_committed] at h
    obtain ⟨_, ⟨zone, hget, _, _, rfl⟩, rfl⟩ := h
    exact .deactivated hget
  | createPostalCode command =>
    simp only [perform, createPostalCode, exceptIntegrityError, seq_committed,
      mapError_committed, orRaise_committed, return_committed] at h
    obtain ⟨_, ⟨zone, hget, _, _, t, ht, rfl⟩, rfl⟩ := h
    exact .rewritten (.added hget (addPostalCodes_one ht)) rfl rfl (Nat.le_succ _)
  | updatePostalCode postalCodeId command expectedVersion =>
    simp only [perform, updatePostalCode, seq_committed, orRaise_committed, require_committed,
      requireVersion_committed, return_committed] at h
    obtain ⟨_, _, _, ⟨row, hget, _, rfl, _, hstorable, rfl⟩, rfl⟩ := h
    exact .rewritten (.patched hget hstorable) rfl rfl (Nat.le_refl _)
  | deactivatePostalCode postalCodeId expectedVersion =>
    simp only [perform, deactivatePostalCode, seq_committed, orRaise_committed,
      requireVersion_committed, return_committed] at h
    obtain ⟨_, ⟨row, hget, _, rfl, rfl⟩, rfl⟩ := h
    exact .rewritten (.deactivated hget) rfl rfl (Nat.le_refl _)
  | importPostalCodes command idempotencyKey now =>
    simp only [perform, seq_committed, require_committed, return_committed] at h
    obtain ⟨_, hunique, ⟨mid, record⟩, h, rfl⟩ := h
    simp only [importPostalCodes] at h
    cases hkey : db.imports.get? idempotencyKey with
    | some existing =>
      rw [hkey] at h
      simp only [seq_committed, return_committed, Prod.mk.injEq] at h
      obtain ⟨_, _, rfl, _⟩ := h
      exact .replayed hkey
    | none =>
      rw [hkey] at h
      simp only [seq_committed, orRaise_committed, return_committed, Prod.mk.injEq] at h
      obtain ⟨zone, hget, imports, _, ⟨t, imported⟩, ht, rfl, _⟩ := h
      exact .rewritten (.imported hget hkey hunique ht) rfl rfl (Nat.le_add_right _ _)

theorem exec_step (platform : Platform) (db : Tables) (op : Op) :
    Step platform db op (db.exec platform op) := by
  unfold Tables.exec
  cases h : perform platform db op with
  | error raised => exact .refused h
  | ok db' => exact performed_step h

/-! ## What a request is not about -/

/-- Only the zone and its rows are changed. -/
structure Edited (db mid : Tables) (serviceAreaId : Uuid) : Prop where
  zones : ∀ other, other ≠ serviceAreaId → mid.zones.get? other = db.zones.get? other
  rows : ∀ other, other ≠ serviceAreaId → mid.ofZone other = db.ofZone other

theorem filter_put_others {t : Table ServiceZonePostalCode} (row : ServiceZonePostalCode)
    {other : Uuid} (hne : other ≠ row.serviceAreaId) :
    (t.put row).rows.filter (fun row => row.serviceAreaId = other) =
      t.rows.filter fun row => row.serviceAreaId = other := by
  apply Table.filter_put
  · simpa using Ne.symm hne
  · intro stored hkey
    have harea : stored.serviceAreaId = row.serviceAreaId := congrArg Prod.fst hkey
    simpa [harea] using Ne.symm hne

theorem importRows_others {serviceAreaId other : Uuid} {t u : Table ServiceZonePostalCode}
    {drawn imported counted : Nat} {items : List PostalCodeImportRow}
    (h : importRows serviceAreaId t drawn imported items = .ok (u, counted))
    (hne : other ≠ serviceAreaId) :
    u.rows.filter (fun row => row.serviceAreaId = other) =
      t.rows.filter fun row => row.serviceAreaId = other := by
  induction items generalizing t drawn imported with
  | nil =>
    cases h
    rfl
  | cons item items ih =>
    rw [importRows] at h
    cases hget : t.get? (serviceAreaId, item.postalCode) with
    | some row =>
      rw [hget] at h
      have harea : row.serviceAreaId = serviceAreaId :=
        congrArg Prod.fst (Table.key_of_get? hget)
      rw [ih h]
      exact filter_put_others (importedRow item row) (harea ▸ hne)
    | none =>
      rw [hget] at h
      simp only [seq_committed] at h
      obtain ⟨mid, hmid, h⟩ := h
      rw [ih h]
      exact Table.filter_insert (addPostalCodes_one hmid) (decide_eq_false hne.symm)

theorem Rewrites.others {db : Tables} {op : Op} {serviceAreaId other : Uuid}
    {t : Table ServiceZonePostalCode} (h : Rewrites db op serviceAreaId t)
    (hne : other ≠ serviceAreaId) :
    t.rows.filter (fun row => row.serviceAreaId = other) = db.ofZone other := by
  cases h with
  | added _ hrow => exact Table.filter_insert hrow (decide_eq_false hne.symm)
  | @patched _ command row _ _ => exact filter_put_others (patchedRow command row) hne
  | @deactivated _ row _ => exact filter_put_others (deactivatedRow row) hne
  | imported _ _ _ hrows => exact importRows_others hrows hne

theorem bumpZone_others {db : Tables} {serviceAreaId other : Uuid} (hne : other ≠ serviceAreaId) :
    (bumpZone db serviceAreaId).zones.get? other = db.zones.get? other := by
  unfold bumpZone
  split
  · next zone hget =>
    have hid : zone.id = serviceAreaId := Table.key_of_get? hget
    exact Table.get?_put_ne fun e => hne (e.symm.trans hid)
  · rfl

theorem Rewrites.edited {db mid : Tables} {op : Op} {serviceAreaId : Uuid}
    {t : Table ServiceZonePostalCode} (h : Rewrites db op serviceAreaId t)
    (hzones : mid.zones = db.zones) (htable : mid.postalCodes = t) :
    Edited db (bumpZone mid serviceAreaId) serviceAreaId where
  zones other hne := by rw [bumpZone_others hne, hzones]
  rows other hne := by
    rw [bumpZone_ofZone, ofZone, htable]
    exact h.others hne

theorem Edited.created {db mid : Tables} {zone : ServiceArea}
    {rows : List ServiceZonePostalCode} (hzones : db.zones.insert? zone = some mid.zones)
    (hrows : mid.postalCodes.rows = db.postalCodes.rows ++ rows)
    (hzone : ∀ row ∈ rows, row.serviceAreaId = zone.id) : Edited db mid zone.id where
  zones other hne := Table.get?_insert_ne hzones (Ne.symm hne)
  rows other hne := by
    unfold ofZone
    rw [hrows, List.filter_append, filter_others hzone hne, List.append_nil]

theorem Edited.updated {db mid : Tables} {zone : ServiceArea}
    (hzones : mid.zones = db.zones.put zone)
    (hothers : ∀ other, other ≠ zone.id → mid.ofZone other = db.ofZone other) :
    Edited db mid zone.id where
  zones other hne := by
    rw [hzones]
    exact Table.get?_put_ne (Ne.symm hne)
  rows := hothers

/-- What each zone and its rows satisfy, whatever list the zone carries, after an edit and the
refresh. -/
theorem Edited.sync_forall {Q : List ServiceZonePostalCode → ServiceArea → Prop}
    (hlist : ∀ rows zone list, Q rows zone → Q rows { zone with postalCodes := list })
    {db mid : Tables} {serviceAreaId : Uuid} (hedited : Edited db mid serviceAreaId)
    (h : ∀ zone ∈ db.zones.rows, Q (db.ofZone zone.id) zone)
    (hzone : ∀ zone, mid.zones.get? serviceAreaId = some zone → Q (mid.ofZone zone.id) zone) :
    ∀ zone ∈ (mid.syncLegacyPostalCodes serviceAreaId).zones.rows,
      Q ((mid.syncLegacyPostalCodes serviceAreaId).ofZone zone.id) zone := by
  intro zone hmem
  rw [sync_ofZone]
  rcases sync_get? (Table.get?_key hmem) with ⟨hne, hget⟩ | ⟨old, rfl, hget, heq⟩
  · rw [hedited.zones _ hne] at hget
    rw [hedited.rows zone.id hne]
    exact h zone (Table.mem_of_get? hget)
  · have hold := hlist _ _ (projection (mid.ofZone (key zone))) (hzone old hget)
    rw [← heq] at hold
    have hid : old.id = zone.id := Table.key_of_get? hget
    exact hid ▸ hold

/-- A request leaves things as they are, takes a zone out of service, or edits one zone and
then refreshes its list. -/
theorem Step.edited {platform : Platform} {db db' : Tables} {op : Op}
    (h : Step platform db op db') :
    db' = db ∨
      (∃ serviceAreaId mid, Edited db mid serviceAreaId ∧
        db' = mid.syncLegacyPostalCodes serviceAreaId) ∨
      ∃ zone, db.zones.get? zone.id = some zone ∧ db' = { db with
        zones := db.zones.put { zone with active := false, version := zone.version + 1 } } := by
  cases h with
  | refused => exact Or.inl rfl
  | replayed => exact Or.inl rfl
  | created _ _ _ _ _ hzones hrows _ =>
    exact Or.inr (Or.inl ⟨_, _, .created hzones hrows fun row hrow => (requestedRows_zone hrow).1,
      rfl⟩)
  | updated _ _ hzones hothers _ _ => exact Or.inr (Or.inl ⟨_, _, .updated hzones hothers, rfl⟩)
  | deactivated hget => exact Or.inr (Or.inr ⟨_, Table.get?_found hget, rfl⟩)
  | rewritten hrows hzones htable _ =>
    exact Or.inr (Or.inl ⟨_, _, hrows.edited hzones htable, rfl⟩)

end Breero.Geography
