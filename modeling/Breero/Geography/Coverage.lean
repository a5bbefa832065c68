import Breero.Geography.Effects
import Mathlib.Data.List.Dedup

/-!
Which zones have a selector of what they cover.

* `Covered` says that every zone has one, in the sense of `ensureCoverageSelector`;
* `Strips` are the requests that take the last selector of a zone away, or create a zone with
  none; `covered_step` and `not_covered` say that it is these and no others;
* `ImportedAs` is what an item of an import makes of the row of its code, and `importRows_item`
  says that the loop makes this of each;
* `Tables.always_covered_iff` is a run of requests.
-/

namespace Breero.Geography
open KeyedTable Transaction Tables

/-! ## Selectors -/

/-- A selector that is not a postal code. -/
def ownSelector (zone : ServiceArea) : Bool :=
  truthy zone.city || zone.stateCode.isSome || zone.boundary.isSome ||
    (zone.center.isSome && zone.radiusMeters.isSome)

def Covered (db : Tables) : Prop := ∀ zone ∈ db.zones.rows, hasCoverageSelector db zone

instance : DecidablePred Covered :=
  fun db => inferInstanceAs (Decidable (∀ zone ∈ db.zones.rows, hasCoverageSelector db zone))

/-- The id that is drawn next is that of no zone yet. -/
structure Numbered (db : Tables) : Prop where
  zones : ∀ zone ∈ db.zones.rows, zone.id < db.drawn
  rows : ∀ row ∈ db.postalCodes.rows, row.serviceAreaId < db.drawn

theorem hasCoverageSelector_iff {db : Tables} {zone : ServiceArea} :
    hasCoverageSelector db zone ↔
      ownSelector zone ∨ ∃ row ∈ db.ofZone zone.id, row.active := by
  have hrows : db.zonePostalCodes zone.id true ≠ [] ↔ ∃ row ∈ db.ofZone zone.id, row.active := by
    rw [← List.length_pos_iff_ne_nil, List.length_pos_iff_exists_mem]
    simp [mem_zonePostalCodes]
  unfold hasCoverageSelector ownSelector
  simp only [Bool.or_eq_true, decide_eq_true_eq, hrows]
  generalize (∃ row ∈ db.ofZone zone.id, row.active = true) = active
  tauto

/-! ## Requests that take the last selector away -/

/-- The city is the only selector of the request, and nothing but blanks. -/
def BlankZone (catalog : Catalog) (command : ServiceZoneCreate) : Prop :=
  command.coverageShape ∧ command.legalEntityId ∈ catalog.legalEntities ∧
    (∀ serviceId ∈ command.serviceIds, serviceId ∈ catalog.services) ∧
    command.postalCodes = [] ∧ command.stateCode = none ∧ command.boundaryGeojson = none ∧
    command.centerLatitude = none ∧ command.city.map strip = some ""

/-- The zone of the row has no selector but postal codes, and no other that is active. -/
def LastSelector (db : Tables) (row : ServiceZonePostalCode) : Prop :=
  ∃ zone ∈ db.zones.get? row.serviceAreaId, ownSelector zone = false ∧
    ∀ other ∈ db.ofZone zone.id, other.active → other.postalCode = row.postalCode

def Strips (db : Tables) : Op → Prop
  | .createZone catalog command => BlankZone catalog command
  | .updatePostalCode postalCodeId command expectedVersion =>
    ∃ row ∈ db.postalCode postalCodeId, row.version = expectedVersion ∧ command.storable ∧
      command.active = some (some false) ∧ LastSelector db row
  | .deactivatePostalCode postalCodeId expectedVersion =>
    ∃ row ∈ db.postalCode postalCodeId, row.version = expectedVersion ∧ LastSelector db row
  | .importPostalCodes command idempotencyKey _ =>
    db.imports.get? idempotencyKey = none ∧ command.uniquePostalCodes ∧
      (∀ item ∈ command.rows, item.active = false) ∧
      ∃ zone ∈ db.zones.get? command.serviceAreaId, ownSelector zone = false ∧
        ∀ row ∈ db.ofZone zone.id, row.active →
          row.postalCode ∈ command.rows.map (·.postalCode)
  | _ => False

/-! ## A request that takes none away -/

theorem Numbered.sync {db : Tables} (h : Numbered db) (serviceAreaId : Uuid) :
    Numbered (db.syncLegacyPostalCodes serviceAreaId) where
  zones := by
    intro zone hmem
    rw [sync_drawn]
    rcases sync_get? (Table.get?_key hmem) with ⟨_, hget⟩ | ⟨old, _, hget, rfl⟩
    · exact h.zones zone (Table.mem_of_get? hget)
    · exact h.zones old (Table.mem_of_get? hget)
  rows := by
    rw [sync_drawn, sync_postalCodes]
    exact h.rows

theorem Numbered.bumpZone {db : Tables} (h : Numbered db) (serviceAreaId : Uuid) :
    Numbered (bumpZone db serviceAreaId) where
  zones := by
    intro zone hmem
    rw [bumpZone_drawn]
    rcases bumpZone_get? (Table.get?_key hmem) with ⟨_, hget⟩ | ⟨old, _, hget, rfl⟩
    · exact h.zones zone (Table.mem_of_get? hget)
    · exact h.zones old (Table.mem_of_get? hget)
  rows := by
    rw [bumpZone_drawn, bumpZone_postalCodes]
    exact h.rows

/-- The rows of the other zones are the same, and the zone itself is numbered. -/
theorem Numbered.rows_of_edited {db mid : Tables} {serviceAreaId : Uuid} (h : Numbered db)
    (hothers : ∀ other, other ≠ serviceAreaId → mid.ofZone other = db.ofZone other)
    (hdrawn : db.drawn ≤ mid.drawn) (hid : serviceAreaId < mid.drawn) :
    ∀ row ∈ mid.postalCodes.rows, row.serviceAreaId < mid.drawn := by
  intro row hmem
  by_cases harea : row.serviceAreaId = serviceAreaId
  · rw [harea]
    exact hid
  · have hold : row ∈ db.ofZone row.serviceAreaId := by
      rw [← hothers _ harea]
      exact mem_ofZone.mpr ⟨hmem, rfl⟩
    exact (h.rows row (mem_ofZone.mp hold).1).trans_le hdrawn

theorem Rewrites.numbered {db : Tables} {op : Op} {serviceAreaId : Uuid}
    {t : Table ServiceZonePostalCode} (hrows : Rewrites db op serviceAreaId t)
    (h : Numbered db) : serviceAreaId < db.drawn := by
  cases hrows with
  | added hzone _ => exact h.zones _ (Table.mem_of_get? hzone)
  | patched hrow _ => exact h.rows _ (List.mem_of_find?_eq_some hrow)
  | deactivated hrow => exact h.rows _ (List.mem_of_find?_eq_some hrow)
  | imported hzone _ _ _ => exact h.zones _ (Table.mem_of_get? hzone)

theorem numbered_put {db : Tables} (h : Numbered db) {old : ServiceArea} {id : Uuid}
    (zone : ServiceArea)
    (hget : db.zones.get? id = some old) (hid : zone.id = old.id) :
    ∀ other ∈ (db.zones.put zone).rows, other.id < db.drawn := by
  intro other hmem
  rcases Table.mem_put.mp hmem with ⟨rfl, _⟩ | ⟨hmem, _⟩
  · rw [hid]
    exact h.zones old (Table.mem_of_get? hget)
  · exact h.zones other hmem

theorem numbered_step {platform : Platform} {db db' : Tables} {op : Op}
    (hstep : Step platform db op db') (h : Numbered db) : Numbered db' := by
  cases hstep with
  | refused => exact h
  | replayed => exact h
  | @created _ _ _ zone mid _ _ _ _ hzone hzones hrows hdrawn =>
    have hid : zone.id < mid.drawn := by
      rw [hzone]
      exact hdrawn
    have hedited : Edited db mid zone.id :=
      .created hzones hrows fun row hrow => (requestedRows_zone hrow).1
    refine Numbered.sync ⟨fun other hmem => ?_, ?_⟩ _
    · rcases (Table.mem_insert hzones).mp hmem with hmem | rfl
      · exact (h.zones other hmem).trans hdrawn
      · exact hid
    · exact h.rows_of_edited hedited.rows hdrawn.le hid
  | @updated _ _ _ _ zone zone' mid hget hid hzones hothers _ hdrawn =>
    have hold : zone'.id < mid.drawn := by
      rw [hid]
      exact (h.zones zone (Table.mem_of_get? hget)).trans_le hdrawn
    refine Numbered.sync ⟨fun other hmem => ?_, h.rows_of_edited hothers hdrawn hold⟩ _
    rw [hzones] at hmem
    exact (numbered_put h zone' hget hid other hmem).trans_le hdrawn
  | @deactivated _ _ zone hget =>
    exact ⟨numbered_put h { zone with active := false, version := zone.version + 1 } hget rfl,
      h.rows⟩
  | @rewritten _ serviceAreaId _ mid hrows hzones htable hdrawn =>
    have hold : serviceAreaId < mid.drawn := (hrows.numbered h).trans_le hdrawn
    refine ((Numbered.mk (fun zone hmem => ?_) ?_).bumpZone serviceAreaId).sync serviceAreaId
    · exact (h.zones zone (hzones ▸ hmem)).trans_le hdrawn
    · refine h.rows_of_edited (fun other hne => ?_) hdrawn hold
      rw [ofZone, htable]
      exact hrows.others hne

theorem Covered.sync {db mid : Tables} {serviceAreaId : Uuid} (h : Covered db)
    (hedited : Edited db mid serviceAreaId)
    (hzone : ∀ zone, mid.zones.get? serviceAreaId = some zone → hasCoverageSelector mid zone) :
    Covered (mid.syncLegacyPostalCodes serviceAreaId) := by
  intro zone hmem
  rw [hasCoverageSelector_iff]
  refine hedited.sync_forall
    (Q := fun rows zone => ownSelector zone ∨ ∃ row ∈ rows, row.active) ?_ ?_ ?_ zone hmem
  · exact fun _ _ _ h => h
  · exact fun zone hmem => hasCoverageSelector_iff.mp (h zone hmem)
  · exact fun zone hget => hasCoverageSelector_iff.mp (hzone zone hget)

/-- An accepted boundary is the boundary of the zone. -/
theorem validatedBoundary_none {platform : Platform} {geojson : Option GeoJson}
    (h : validatedBoundary platform geojson = .ok none) : geojson = none := by
  cases geojson with
  | none => rfl
  | some boundary =>
    simp only [validatedBoundary, seq_committed, return_committed] at h
    obtain ⟨_, _, _, _, _, _, ⟨⟩⟩ := h

/-- A new zone has a selector of its own if it has no postal codes and is not blank. -/
theorem newZone_selector {platform : Platform} {catalog : Catalog} {command : ServiceZoneCreate}
    {boundary : Option Geometry} {id : Uuid} (hshape : command.coverageShape)
    (hentity : command.legalEntityId ∈ catalog.legalEntities)
    (hservices : ∀ serviceId ∈ command.serviceIds, serviceId ∈ catalog.services)
    (hboundary : validatedBoundary platform command.boundaryGeojson = .ok boundary)
    (hcodes : command.postalCodes = []) (hblank : ¬ BlankZone catalog command) :
    ownSelector (newZone platform id command boundary) := by
  by_contra hno
  simp only [ownSelector, newZone, Bool.not_eq_true, Bool.or_eq_false_iff,
    Option.isSome_eq_false_iff, Option.isNone_iff_eq_none] at hno
  obtain ⟨⟨⟨hcity, hstate⟩, rfl⟩, hcircle⟩ := hno
  have hgeojson := validatedBoundary_none hboundary
  have hall := hshape
  simp only [ServiceZoneCreate.coverageShape, Bool.and_eq_true, Bool.or_eq_true,
    decide_eq_true_eq, hcodes, hstate, hgeojson] at hall
  obtain ⟨⟨⟨hlongitude, _⟩, hradius⟩, hsome⟩ := hall
  have hcenter : command.centerLatitude = none := by
    cases hlatitude : command.centerLatitude with
    | none => rfl
    | some latitude =>
      -- a centre comes with a longitude and a radius, which make a circle
      rw [hlatitude] at hlongitude hradius hcircle
      obtain ⟨longitude, hlong⟩ := Option.isSome_iff_exists.mp hlongitude.symm
      obtain ⟨miles, hmiles⟩ : ∃ miles, command.radiusMiles = some miles := by
        rcases hradius with ⟨⟨⟩⟩ | hradius
        exact Option.isSome_iff_exists.mp hradius
      rw [hlong, hmiles] at hcircle
      cases hcircle
  have htruthy : truthy command.city := by
    rw [hcenter] at hsome
    simpa using hsome
  have hstrip : command.city.map strip = some "" := by
    rw [if_pos htruthy] at hcity
    cases hname : command.city with
    | none =>
      rw [hname] at htruthy
      cases htruthy
    | some city =>
      rw [hname] at hcity
      simpa [truthy] using hcity
  exact hblank ⟨hshape, hentity, hservices, hcodes, hstate, hgeojson, hcenter, hstrip⟩

/-- A zone that is created with postal codes has an active row. -/
theorem requestedRows_active {db mid : Tables} {zone : ServiceArea} {regular : Bool}
    {drawn : Nat} {codes : List PostalCode}
    (hrows : mid.postalCodes.rows = db.postalCodes.rows ++ requestedRows zone regular drawn codes)
    (hcodes : codes ≠ []) : ∃ row ∈ mid.ofZone zone.id, row.active := by
  cases codes with
  | nil => exact absurd rfl hcodes
  | cons code codes =>
    refine ⟨requestedRow zone regular (drawn + 0) code, mem_ofZone.mpr ⟨?_, rfl⟩, rfl⟩
    rw [hrows]
    refine List.mem_append_right _ (List.mem_mapIdx.mpr ⟨0, ?_, rfl⟩)
    simp

/-! ### Rows that are left -/

theorem LastSelector.other {db : Tables} {row : ServiceZonePostalCode} {zone : ServiceArea}
    (hlast : ¬ LastSelector db row) (hget : db.zones.get? row.serviceAreaId = some zone)
    (hown : ownSelector zone = false) :
    ∃ other ∈ db.postalCodes.rows, other.serviceAreaId = row.serviceAreaId ∧ other.active ∧
      other.postalCode ≠ row.postalCode := by
  by_contra hno
  refine hlast ⟨zone, hget, hown, fun other hmem hactive => ?_⟩
  by_contra hne
  obtain ⟨hmem, harea⟩ := mem_ofZone.mp hmem
  have hid : zone.id = row.serviceAreaId := Table.key_of_get? hget
  exact hno ⟨other, hmem, harea.trans hid, hactive, hne⟩

/-- A row of another code is still there when a row is put back. -/
theorem mem_put_other {t : Table ServiceZonePostalCode} {row row' other : ServiceZonePostalCode}
    (hkey : key row' = key row) (hmem : other ∈ t.rows) (hne : other.postalCode ≠ row.postalCode) :
    other ∈ (t.put row').rows :=
  Table.mem_put_of_mem hmem fun e => hne (congrArg Prod.snd (e.trans hkey))

/-- A row that no item is about stays as it is. -/
theorem importRows_get?_outside {serviceAreaId : Uuid} {t u : Table ServiceZonePostalCode}
    {drawn imported counted : Nat} {items : List PostalCodeImportRow} {k : Uuid × PostalCode}
    (h : importRows serviceAreaId t drawn imported items = .ok (u, counted))
    (hk : ∀ item ∈ items, (serviceAreaId, item.postalCode) ≠ k) : u.get? k = t.get? k := by
  induction items generalizing t drawn imported with
  | nil =>
    cases h
    rfl
  | cons item items ih =>
    have hkey := hk item List.mem_cons_self
    have hrest := fun other hother => hk other (List.mem_cons_of_mem item hother)
    rw [importRows] at h
    cases hget : t.get? (serviceAreaId, item.postalCode) with
    | some row =>
      rw [hget] at h
      have hrow : key row = (serviceAreaId, item.postalCode) := Table.key_of_get? hget
      rw [ih h hrest]
      exact Table.get?_put_ne (a := importedRow item row) fun e => hkey (hrow.symm.trans e)
    | none =>
      rw [hget] at h
      simp only [seq_committed] at h
      obtain ⟨mid, hmid, h⟩ := h
      rw [ih h hrest]
      exact Table.get?_insert_ne (addPostalCodes_one hmid) hkey

theorem importRows_get?_ne {serviceAreaId : Uuid} {t u : Table ServiceZonePostalCode}
    {drawn imported counted : Nat} {items : List PostalCodeImportRow} {code : PostalCode}
    (h : importRows serviceAreaId t drawn imported items = .ok (u, counted))
    (hcode : code ∉ items.map (·.postalCode)) :
    u.get? (serviceAreaId, code) = t.get? (serviceAreaId, code) := by
  refine importRows_get?_outside h fun item hitem heq => hcode ?_
  obtain rfl : item.postalCode = code := congrArg Prod.snd heq
  exact List.mem_map_of_mem hitem

/-- The row of a code after the import: `old` is the row that was there before, if there was
one. -/
structure ImportedAs (old : Option ServiceZonePostalCode) (item : PostalCodeImportRow)
    (row : ServiceZonePostalCode) : Prop where
  postalCode : row.postalCode = item.postalCode
  city : row.city = item.city
  stateCode : row.stateCode = item.stateCode
  active : row.active = item.active
  regularServiceEnabled : row.regularServiceEnabled = item.regularServiceEnabled
  emergencyServiceEnabled : row.emergencyServiceEnabled = item.emergencyServiceEnabled
  priority : row.priority = item.priority
  updated : ∀ before ∈ old, row.id = before.id ∧ row.version = before.version + 1
  created : old = none → row.version = 1

theorem importedRow_as {item : PostalCodeImportRow} {row : ServiceZonePostalCode}
    (h : row.postalCode = item.postalCode) : ImportedAs (some row) item (importedRow item row) where
  postalCode := h
  city := rfl
  stateCode := rfl
  active := rfl
  regularServiceEnabled := rfl
  emergencyServiceEnabled := rfl
  priority := rfl
  updated := by
    rintro before ⟨⟩
    exact ⟨rfl, rfl⟩
  created := nofun

theorem newImportedRow_as (serviceAreaId id : Uuid) (item : PostalCodeImportRow) :
    ImportedAs none item (newImportedRow serviceAreaId id item) where
  postalCode := rfl
  city := rfl
  stateCode := rfl
  active := rfl
  regularServiceEnabled := rfl
  emergencyServiceEnabled := rfl
  priority := rfl
  updated := nofun
  created _ := rfl

/-- The loop makes of the row of each item what the item says. -/
theorem importRows_item {serviceAreaId : Uuid} {t u : Table ServiceZonePostalCode}
    {drawn imported counted : Nat} {items : List PostalCodeImportRow} {item : PostalCodeImportRow}
    (h : importRows serviceAreaId t drawn imported items = .ok (u, counted))
    (hunique : (items.map (·.postalCode)).Nodup) (hmem : item ∈ items) :
    ∃ row, u.get? (serviceAreaId, item.postalCode) = some row ∧
      ImportedAs (t.get? (serviceAreaId, item.postalCode)) item row := by
  induction items generalizing t drawn imported with
  | nil => cases hmem
  | cons first items ih =>
    rw [List.map_cons, List.nodup_cons] at hunique
    have hne (hrest : item ∈ items) :
        (serviceAreaId, first.postalCode) ≠ (serviceAreaId, item.postalCode) := by
      intro heq
      have hcode : first.postalCode = item.postalCode := congrArg Prod.snd heq
      rw [hcode] at hunique
      exact hunique.1 (List.mem_map_of_mem hrest)
    rw [importRows] at h
    cases hget : t.get? (serviceAreaId, first.postalCode) with
    | some row =>
      rw [hget] at h
      have hkey : key row = (serviceAreaId, first.postalCode) := Table.key_of_get? hget
      rcases List.mem_cons.mp hmem with rfl | hmem
      · refine ⟨importedRow item row, ?_, hget ▸ importedRow_as (congrArg Prod.snd hkey)⟩
        rw [importRows_get?_ne h hunique.1]
        exact Table.get?_put_self hget hkey
      · have hput : key (importedRow first row) ≠ (serviceAreaId, item.postalCode) :=
          fun e => hne hmem (hkey.symm.trans e)
        rw [← Table.get?_put_ne (t := t) hput]
        exact ih h hunique.2 hmem
    | none =>
      rw [hget] at h
      simp only [seq_committed] at h
      obtain ⟨mid, hmid, h⟩ := h
      have hinsert := addPostalCodes_one hmid
      rcases List.mem_cons.mp hmem with rfl | hmem
      · refine ⟨newImportedRow serviceAreaId drawn item, ?_, hget ▸ newImportedRow_as _ _ _⟩
        rw [importRows_get?_ne h hunique.1]
        exact Table.get?_insert_self hinsert
      · rw [← Table.get?_insert_ne hinsert (hne hmem)]
        exact ih h hunique.2 hmem

/-- A request on postal codes that does not strip the zone leaves it a selector. -/
theorem Rewrites.selector {db : Tables} {op : Op} {serviceAreaId : Uuid}
    {t : Table ServiceZonePostalCode} {zone : ServiceArea} (h : Rewrites db op serviceAreaId t)
    (hstrips : ¬ Strips db op) (hget : db.zones.get? serviceAreaId = some zone)
    (hzone : hasCoverageSelector db zone) (hown : ownSelector zone = false) :
    ∃ row ∈ t.rows, row.serviceAreaId = serviceAreaId ∧ row.active := by
  have hid : zone.id = serviceAreaId := Table.key_of_get? hget
  rw [hasCoverageSelector_iff, hown, hid] at hzone
  obtain ⟨row, hrow, hactive⟩ := hzone.resolve_left (by simp)
  obtain ⟨hmem, harea⟩ := mem_ofZone.mp hrow
  clear hrow
  cases h with
  | added _ hrow => exact ⟨row, (Table.mem_insert hrow).mpr (Or.inl hmem), harea, hactive⟩
  | @patched _ command old hold hstorable =>
    by_cases hcode : row.postalCode = old.postalCode
    · have hsame : row = old :=
        Table.eq_of_key hmem (List.mem_of_find?_eq_some hold) (Prod.ext harea hcode)
      by_cases hoff : command.active = some (some false)
      · -- the row is switched off, and is not the last
        have hlast : ¬ LastSelector db old :=
          fun hlast => hstrips ⟨old, hold, rfl, hstorable, hoff, hlast⟩
        obtain ⟨other, hmem, harea, hactive, hne⟩ := LastSelector.other hlast hget hown
        exact ⟨other, mem_put_other rfl hmem hne, harea, hactive⟩
      · subst hsame
        refine ⟨patchedRow command row, Table.mem_put_self hmem rfl, rfl, ?_⟩
        simp only [PostalCodeUpdate.storable, Bool.and_eq_true] at hstorable
        have hnotNull := hstorable.1.1.1
        show Patch.applyTo command.active row.active = true
        cases hset : command.active with
        | none => exact hactive
        | some value =>
          rw [hset] at hoff hnotNull
          cases value with
          | none => cases hnotNull
          | some on =>
            cases on with
            | true => rfl
            | false => exact absurd rfl hoff
    · exact ⟨row, mem_put_other rfl hmem hcode, harea, hactive⟩
  | @deactivated _ old hold =>
    have hlast : ¬ LastSelector db old := fun hlast => hstrips ⟨old, hold, rfl, hlast⟩
    obtain ⟨other, hmem, harea, hactive, hne⟩ := LastSelector.other hlast hget hown
    exact ⟨other, mem_put_other rfl hmem hne, harea, hactive⟩
  | @imported command _ _ found _ _ hfound hkey hunique hrows =>
    have hcodes : (command.rows.map (·.postalCode)).Nodup := by
      simp only [PostalCodeImportRequest.uniquePostalCodes, Bool.and_eq_true,
        decide_eq_true_eq] at hunique
      exact hunique.2
    by_cases hitem : ∃ item ∈ command.rows, item.active
    · obtain ⟨item, hitem, hon⟩ := hitem
      obtain ⟨new, hnew, has⟩ := importRows_item hrows hcodes hitem
      exact ⟨new, Table.mem_of_get? hnew, congrArg Prod.fst (Table.key_of_get? hnew),
        has.active.trans hon⟩
    · have hfoundzone : found = zone := by
        have hsame := (Table.get?_found hfound).symm.trans hget
        exact Option.some.inj hsame
      subst hfoundzone
      -- then some active row is not one of those that are switched off
      obtain ⟨kept, hkept, hon, hcode⟩ : ∃ row ∈ db.ofZone found.id, row.active ∧
          row.postalCode ∉ command.rows.map (·.postalCode) := by
        by_contra hno
        refine hstrips ⟨hkey, hunique, ?_, found, hfound, hown, ?_⟩
        · intro item hmem
          cases hon : item.active with
          | false => rfl
          | true => exact absurd ⟨item, hmem, hon⟩ hitem
        · intro row hrow hon
          by_contra hcode
          exact hno ⟨row, hrow, hon, hcode⟩
      obtain ⟨hkept, hkeptarea⟩ := mem_ofZone.mp hkept
      have hkeptget : db.postalCodes.get? (found.id, kept.postalCode) = some kept :=
        Table.get?_eq_some.mpr ⟨hkept, Prod.ext hkeptarea rfl⟩
      rw [← importRows_get?_ne hrows hcode] at hkeptget
      exact ⟨kept, Table.mem_of_get? hkeptget, hkeptarea, hon⟩

theorem covered_step {platform : Platform} {db db' : Tables} {op : Op}
    (hstep : Step platform db op db') (h : Covered db) (hstrips : ¬ Strips db op) :
    Covered db' := by
  cases hstep with
  | refused => exact h
  | replayed => exact h
  | @created catalog command boundary zone mid hshape hentity hservices hboundary hzone hzones
      hrows _ =>
    refine h.sync (.created hzones hrows fun row hrow => (requestedRows_zone hrow).1) ?_
    intro created hget
    obtain rfl : zone = created := Option.some.inj ((Table.get?_insert_self hzones).symm.trans hget)
    rw [hasCoverageSelector_iff]
    by_cases hcodes : command.postalCodes = []
    · exact Or.inl (hzone ▸ newZone_selector hshape hentity hservices hboundary hcodes hstrips)
    · exact Or.inr (requestedRows_active hrows hcodes)
  | @updated _ _ _ _ zone zone' mid hget hid hzones hothers hselector _ =>
    refine h.sync (.updated hzones hothers) fun updated hupdated => ?_
    have hput : mid.zones.get? zone'.id = some zone' := by
      rw [hzones, hid]
      exact Table.get?_put_self (Table.get?_found hget) hid
    obtain rfl : zone' = updated := Option.some.inj (hput.symm.trans hupdated)
    exact hselector
  | @deactivated _ _ zone hget =>
    intro other hmem
    rcases Table.mem_put.mp hmem with ⟨rfl, _⟩ | ⟨hmem, _⟩
    · exact h zone (Table.mem_of_get? hget)
    · exact h other hmem
  | @rewritten _ serviceAreaId t mid hrows hzones htable _ =>
    refine h.sync (hrows.edited hzones htable) fun bumped hbumped => ?_
    rcases bumpZone_get? hbumped with ⟨hne, _⟩ | ⟨old, _, hget, rfl⟩
    · exact absurd rfl hne
    · rw [hzones] at hget
      have hid : old.id = serviceAreaId := Table.key_of_get? hget
      rw [hasCoverageSelector_iff, bumpZone_ofZone]
      cases hown : ownSelector old with
      | true => exact Or.inl hown
      | false =>
        obtain ⟨row, hmem, harea, hactive⟩ :=
          hrows.selector hstrips hget (h old (Table.mem_of_get? hget)) hown
        exact Or.inr ⟨row, mem_ofZone.mpr ⟨htable ▸ hmem, harea.trans hid.symm⟩, hactive⟩

/-! ## A request that takes the last one away -/

theorem not_covered_of_zone {db : Tables} {zone : ServiceArea} {id : Uuid}
    (hget : db.zones.get? id = some zone) (hown : ownSelector zone = false)
    (hrows : ∀ row ∈ db.ofZone zone.id, row.active = false) : ¬ Covered db := by
  intro h
  have hzone := hasCoverageSelector_iff.mp (h zone (Table.mem_of_get? hget))
  rw [hown] at hzone
  obtain ⟨row, hmem, hactive⟩ := hzone.resolve_left (by simp)
  rw [hrows row hmem] at hactive
  cases hactive

/-- The refresh leaves such a zone as it is. -/
theorem not_covered_sync {db : Tables} {zone : ServiceArea} {id : Uuid}
    (hget : db.zones.get? id = some zone) (hown : ownSelector zone = false)
    (hrows : ∀ row ∈ db.ofZone id, row.active = false) :
    ¬ Covered (db.syncLegacyPostalCodes id) := by
  obtain rfl : zone.id = id := Table.key_of_get? hget
  have hsync : (db.syncLegacyPostalCodes zone.id).zones.get? zone.id =
      some { zone with postalCodes := projection (db.ofZone zone.id) } := by
    rw [syncLegacyPostalCodes_of_zone hget]
    exact Table.get?_put_self hget rfl
  refine not_covered_of_zone hsync hown ?_
  rw [sync_ofZone]
  exact hrows

theorem not_covered_bump {db : Tables} {zone : ServiceArea} {id : Uuid}
    (hget : db.zones.get? id = some zone) (hown : ownSelector zone = false)
    (hrows : ∀ row ∈ db.ofZone id, row.active = false) :
    ¬ Covered ((bumpZone db id).syncLegacyPostalCodes id) := by
  have hid : zone.id = id := Table.key_of_get? hget
  have hbump : (bumpZone db id).zones.get? id = some { zone with version := zone.version + 1 } := by
    unfold bumpZone
    rw [hget]
    exact Table.get?_put_self hget hid
  refine not_covered_sync hbump hown ?_
  rw [bumpZone_ofZone]
  exact hrows

/-- The last active row of the zone is switched off. -/
theorem LastSelector.put {db mid : Tables} {row : ServiceZonePostalCode}
    (hlast : LastSelector db row) (row' : ServiceZonePostalCode) (hkey : key row' = key row)
    (hoff : row'.active = false)
    (hzones : mid.zones = db.zones) (htable : mid.postalCodes = db.postalCodes.put row') :
    ¬ Covered ((bumpZone mid row.serviceAreaId).syncLegacyPostalCodes row.serviceAreaId) := by
  obtain ⟨zone, hget, hown, hlast⟩ := hlast
  have hget : db.zones.get? row.serviceAreaId = some zone := hget
  have hid : zone.id = row.serviceAreaId := Table.key_of_get? hget
  refine not_covered_bump (hzones ▸ hget) hown fun other hmem => ?_
  obtain ⟨hmem, harea⟩ := mem_ofZone.mp hmem
  rw [htable] at hmem
  rcases Table.mem_put.mp hmem with ⟨rfl, _⟩ | ⟨hmem, hne⟩
  · exact hoff
  · cases hon : other.active with
    | false => rfl
    | true =>
      have hcode := hlast other (mem_ofZone.mpr ⟨hmem, harea.trans hid.symm⟩) hon
      exact absurd ((Prod.ext harea hcode : key other = key row).trans hkey.symm) hne

theorem addOfferings_isOk {offerings : List ServiceZoneOffering}
    {t : Table ServiceZoneOffering} (hunique : (offerings.map key).Nodup)
    (hfresh : ∀ offering ∈ offerings, t.get? (key offering) = none) :
    ∃ u, addOfferings t offerings = .ok u := by
  unfold addOfferings
  induction offerings generalizing t with
  | nil => exact ⟨t, rfl⟩
  | cons offering offerings ih =>
    rw [List.map_cons, List.nodup_cons] at hunique
    obtain ⟨mid, hmid⟩ := Table.insert?_fresh (hfresh offering (List.mem_cons_self ..))
    have hrest : ∀ other ∈ offerings, mid.get? (key other) = none := by
      intro other hmem
      rw [Table.get?_insert_ne hmid fun e => hunique.1 (e ▸ List.mem_map_of_mem hmem)]
      exact hfresh other (List.mem_cons_of_mem _ hmem)
    obtain ⟨u, hu⟩ := ih hunique.2 hrest
    exact ⟨u, by rw [List.foldlM_cons, seq_committed]; exact ⟨mid, orRaise_committed.mpr hmid, hu⟩⟩

/-- The loop counts each of the items, and does not fail. -/
theorem importRows_isOk (serviceAreaId : Uuid) (t : Table ServiceZonePostalCode)
    (drawn imported : Nat) (items : List PostalCodeImportRow) :
    ∃ u, importRows serviceAreaId t drawn imported items = .ok (u, imported + items.length) := by
  induction items generalizing t drawn imported with
  | nil => exact ⟨t, rfl⟩
  | cons item items ih =>
    rw [importRows, List.length_cons, Nat.add_comm items.length, ← Nat.add_assoc]
    cases hget : t.get? (serviceAreaId, item.postalCode) with
    | some row => exact ih _ _ _
    | none =>
      obtain ⟨mid, hmid⟩ := Table.insert?_fresh (a := newImportedRow serviceAreaId drawn item) hget
      obtain ⟨u, hu⟩ := ih mid (drawn + 1) (imported + 1)
      refine ⟨u, (seq_committed _ _ _).mpr ⟨mid, ?_, hu⟩⟩
      rw [addPostalCodes, List.foldlM_cons, seq_committed]
      exact ⟨mid, orRaise_committed.mpr hmid, rfl⟩

theorem replaceOfferings_isOk (db : Tables) (serviceAreaId : Uuid) (serviceIds : List Uuid)
    (regular emergency : Bool) :
    ∃ mid, replaceOfferings db serviceAreaId serviceIds regular emergency = .ok mid := by
  simp only [replaceOfferings, seq_committed, return_committed]
  suffices h : ∃ u, addOfferings _ _ = .ok u by
    obtain ⟨u, hu⟩ := h
    exact ⟨_, u, hu, rfl⟩
  apply addOfferings_isOk
  · rw [List.map_map]
    apply List.Nodup.map
    · intro a b hkey
      exact congrArg Prod.snd hkey
    · exact (List.nodup_dedup serviceIds).filter _
  · intro offering hmem
    obtain ⟨serviceId, hservice, rfl⟩ := List.mem_map.mp hmem
    have hnew := (List.mem_filter.mp hservice).2
    rw [Table.get?_update, Option.map_eq_none_iff, Table.get?_eq_none]
    intro stored hstored hkey
    have harea : stored.serviceAreaId = serviceAreaId := congrArg Prod.fst hkey
    have hservice : stored.serviceId = serviceId := congrArg Prod.snd hkey
    have hexists : serviceId ∈ (db.zoneOfferings serviceAreaId true).map (·.serviceId) :=
      List.mem_map.mpr ⟨stored, by simp [zoneOfferings, hstored, harea], hservice⟩
    exact absurd hexists (of_decide_eq_true hnew)

/-- A zone that is blank is created all the same. -/
theorem createZone_isOk (platform : Platform) {catalog : Catalog} {db : Tables}
    {command : ServiceZoneCreate} (hblank : BlankZone catalog command) (h : Numbered db) :
    ∃ db', perform platform db (.createZone catalog command) = .ok db' := by
  obtain ⟨hshape, hentity, hservices, hcodes, _, hgeojson, _, _⟩ := hblank
  obtain ⟨zones, hzones⟩ : ∃ zones,
      db.zones.insert? (newZone platform db.drawn command none) = some zones := by
    apply Table.insert?_fresh
    rw [Table.get?_eq_none]
    intro zone hmem e
    exact absurd (h.zones zone hmem) (by rw [show zone.id = db.drawn from e]; exact lt_irrefl _)
  obtain ⟨mid, hmid⟩ := replaceOfferings_isOk { db with zones, drawn := db.drawn + 1 } db.drawn
    command.serviceIds command.regularServiceEnabled command.emergencyEnabled
  simp only [perform, createZone, validateServices, exceptIntegrityError, addZone, seq_committed,
    require_committed, mapError_committed, orRaise_committed, return_committed, hgeojson,
    validatedBoundary, hcodes]
  exact ⟨_, (), hshape, _, ⟨(), hentity, (), hservices, none, rfl, zones, hzones, mid, hmid,
    mid.postalCodes, rfl, rfl⟩, rfl⟩

theorem exec_of_ok {platform : Platform} {db db' : Tables} {op : Op}
    (h : perform platform db op = .ok db') : db.exec platform op = db' := by
  unfold Tables.exec
  rw [h]

theorem newZone_blank {catalog : Catalog} {command : ServiceZoneCreate} (platform : Platform)
    (id : Uuid) (h : BlankZone catalog command) :
    ownSelector (newZone platform id command none) = false := by
  obtain ⟨_, _, _, _, hstate, _, hlatitude, hstrip⟩ := h
  unfold ownSelector newZone
  rw [hstate, hlatitude, hstrip]
  split <;> simp [truthy, centerOf]

theorem not_covered_created {platform : Platform} {catalog : Catalog} {db db' : Tables}
    {command : ServiceZoneCreate} (h : Numbered db) (hblank : BlankZone catalog command)
    (hok : perform platform db (.createZone catalog command) = .ok db') : ¬ Covered db' := by
  cases performed_step hok with
  | refused hraised => cases hok.symm.trans hraised
  | rewritten hrewrites => cases hrewrites
  | @created _ _ boundary zone mid _ _ _ hboundary hzone hzones hrows _ =>
    have hown := newZone_blank platform db.drawn hblank
    obtain ⟨_, _, _, hcodes, _, hgeojson, _⟩ := hblank
    rw [hgeojson] at hboundary
    obtain rfl : none = boundary := by cases hboundary; rfl
    rw [hcodes] at hrows
    subst hzone
    refine not_covered_sync (Table.get?_insert_self hzones) hown fun row hmem => ?_
    -- no row has the id that was drawn for the zone
    obtain ⟨hmem, harea⟩ := mem_ofZone.mp hmem
    rw [hrows, requestedRows, List.mapIdx_nil, List.append_nil] at hmem
    exact absurd (harea ▸ h.rows row hmem) (lt_irrefl _)

theorem not_covered_imported {db mid : Tables} {command : PostalCodeImportRequest}
    {zone : ServiceArea} {t : Table ServiceZonePostalCode} {imported : Nat}
    (hget : db.zones.get? zone.id = some zone) (hown : ownSelector zone = false)
    (hunique : command.uniquePostalCodes) (hoff : ∀ item ∈ command.rows, item.active = false)
    (hlast : ∀ row ∈ db.ofZone zone.id, row.active →
      row.postalCode ∈ command.rows.map (·.postalCode))
    (hrows : importRows zone.id db.postalCodes db.drawn 0 command.rows = .ok (t, imported))
    (hzones : mid.zones = db.zones) (htable : mid.postalCodes = t) :
    ¬ Covered ((bumpZone mid zone.id).syncLegacyPostalCodes zone.id) := by
  refine not_covered_bump (hzones ▸ hget) hown fun row hmem => ?_
  obtain ⟨hmem, harea⟩ := mem_ofZone.mp hmem
  rw [htable] at hmem
  have hrow : t.get? (zone.id, row.postalCode) = some row :=
    Table.get?_eq_some.mpr ⟨hmem, Prod.ext harea rfl⟩
  by_cases hcode : row.postalCode ∈ command.rows.map (·.postalCode)
  · obtain ⟨item, hitem, hsame⟩ := List.mem_map.mp hcode
    simp only [PostalCodeImportRequest.uniquePostalCodes, Bool.and_eq_true,
      decide_eq_true_eq] at hunique
    obtain ⟨new, hnew, has⟩ := importRows_item hrows hunique.2 hitem
    rw [hsame] at hnew
    obtain rfl : new = row := Option.some.inj (hnew.symm.trans hrow)
    exact has.active.trans (hoff item hitem)
  · rw [importRows_get?_ne hrows hcode] at hrow
    cases hon : row.active with
    | false => rfl
    | true => exact absurd (hlast row (mem_ofZone.mpr ⟨Table.mem_of_get? hrow, harea⟩) hon) hcode

theorem not_covered {platform : Platform} {db : Tables} {op : Op} (h : Numbered db)
    (hstrips : Strips db op) : ¬ Covered (db.exec platform op) := by
  cases op with
  | createZone catalog command =>
    obtain ⟨db', hok⟩ := createZone_isOk platform hstrips h
    rw [exec_of_ok hok]
    exact not_covered_created h hstrips hok
  | updateZone catalog serviceAreaId command expectedVersion => cases hstrips
  | deactivateZone serviceAreaId expectedVersion => cases hstrips
  | createPostalCode command => cases hstrips
  | updatePostalCode postalCodeId command expectedVersion =>
    obtain ⟨row, hrow, rfl, hstorable, hoff, hlast⟩ := hstrips
    have hset : command.validatePatch := by
      simp only [PostalCodeUpdate.validatePatch, ne_eq, decide_not, Bool.not_eq_true',
        decide_eq_false_iff_not]
      rintro rfl
      cases hoff
    have hok : perform platform db (.updatePostalCode postalCodeId command row.version) =
        .ok (writePostalCode db (patchedRow command row)) := by
      simp only [perform, updatePostalCode, seq_committed, orRaise_committed, require_committed,
        requireVersion_committed, return_committed]
      exact ⟨(), hset, _, ⟨row, hrow, (), rfl, (), hstorable, rfl⟩, rfl⟩
    have hactive : (patchedRow command row).active = false := by
      show Patch.applyTo command.active row.active = false
      rw [hoff]
      rfl
    rw [exec_of_ok hok]
    exact hlast.put (patchedRow command row) rfl hactive rfl rfl
  | deactivatePostalCode postalCodeId expectedVersion =>
    obtain ⟨row, hrow, rfl, hlast⟩ := hstrips
    have hok : perform platform db (.deactivatePostalCode postalCodeId row.version) =
        .ok (writePostalCode db (deactivatedRow row)) := by
      simp only [perform, deactivatePostalCode, seq_committed, orRaise_committed,
        requireVersion_committed, return_committed]
      exact ⟨_, ⟨row, hrow, (), rfl, rfl⟩, rfl⟩
    rw [exec_of_ok hok]
    exact hlast.put (deactivatedRow row) rfl rfl rfl rfl
  | importPostalCodes command idempotencyKey now =>
    obtain ⟨hkey, hunique, hoff, zone, hget, hown, hlast⟩ := hstrips
    have hget : db.zones.get? command.serviceAreaId = some zone := hget
    obtain ⟨t, ht⟩ := importRows_isOk zone.id db.postalCodes db.drawn 0 command.rows
    let record : PostalCodeImport := {
      serviceAreaId := zone.id
      idempotencyKey
      requestHash := platform.hash command
      totalRows := command.rows.length }
    obtain ⟨imports, himports⟩ := Table.insert?_fresh (a := record) hkey
    have hok : ∃ db', perform platform db (.importPostalCodes command idempotencyKey now) =
        .ok db' := by
      simp only [perform, importPostalCodes, seq_committed, require_committed, return_committed,
        hkey, orRaise_committed]
      exact ⟨_, (), hunique, _, ⟨zone, hget, imports, himports, _, ht, rfl⟩, rfl⟩
    obtain ⟨db', hok⟩ := hok
    rw [exec_of_ok hok]
    cases performed_step hok with
    | refused hraised => cases hok.symm.trans hraised
    | replayed hfound => cases hkey.symm.trans hfound
    | rewritten hrewrites hzones htable _ =>
      cases hrewrites with
      | imported hfound _ _ hrows =>
        obtain rfl := Option.some.inj (hfound.symm.trans hget)
        exact not_covered_imported (Table.get?_found hget) hown hunique hoff hlast hrows hzones
          htable

theorem Tables.always_covered_iff (platform : Platform) (ops : List Op) :
    Runs.Always (exec platform) Covered {} ops ↔
      Runs.Along (exec platform) (fun db op => ¬ Strips db op) {} ops := by
  have hinv : ∀ db op, (Covered db ∧ Numbered db) → ¬ Strips db op →
      Covered (exec platform db op) ∧ Numbered (exec platform db op) := by
    intro db op ⟨hcovered, hnumbered⟩ hstrips
    exact ⟨covered_step (exec_step platform db op) hcovered hstrips,
      numbered_step (exec_step platform db op) hnumbered⟩
  have hstart : Covered {} ∧ Numbered {} := by
    refine ⟨?_, ?_, ?_⟩
    · intro zone hmem
      cases hmem
    · intro zone hmem
      cases hmem
    · intro row hmem
      cases hmem
  constructor
  · refine Runs.along_of_always_inv hinv (fun db op hdb hcovered hstrips => ?_) hstart
    exact not_covered hdb.2 hstrips hcovered
  · intro halong
    exact (Runs.always_of_inv hinv hstart halong).imp fun db hdb => hdb.1

/-! ## A zone that loses its only postal code -/

/-- A PostGIS for zones without a boundary or a circle. -/
def bare : Platform where
  stIsValid _ := none
  stCovers _ _ := false
  stDWithin _ _ _ := false
  roundMeters _ := 0
  hash command := toString command.rows.length

def houston : Catalog := { legalEntities := [1], services := [2] }

def zip77020 : PostalCode := ⟨"77020", by decide⟩

/-- A zone with one postal code, which is then deactivated. -/
def lastCode : List Op :=
  [.createZone houston {
     legalEntityId := 1
     name := "Postal-Only Coverage Zone"
     postalCodes := [zip77020]
     serviceIds := [2] },
   .deactivatePostalCode 1 1]

theorem Tables.lastCode_not_covered : ¬ Runs.Always (exec bare) Covered {} lastCode := by
  decide

end Breero.Geography
