import Breero.Geography.Coverage
import Breero.Geography.Projection

/-!
The two look-ups of the zone of an address. The booking domain reads the list that a zone
carries, `matchZone` reads its rows.

* `Covers` says that `matchZone` finds a selector of the zone for the address;
* `Leaks` are the ways in which a zone that the booking domain accepts has none;
* `accepted_covers_iff` says that there are no others, `Tables.always_accepted_covers_iff` that
  this is so in every run.
-/

namespace Breero.Geography
open KeyedTable Transaction Tables

/-- Some selector of the zone covers the address. -/
def Covers (platform : Platform) (db : Tables) (zone : ServiceArea) (location : Location) : Prop :=
  ∃ code ∈ normalizePostalCode location.postalCode,
    selects platform db zone location.point (candidates code)

instance (platform : Platform) (db : Tables) (zone : ServiceArea) (location : Location) :
    Decidable (Covers platform db zone location) :=
  inferInstanceAs (Decidable (∃ code ∈ normalizePostalCode location.postalCode, _ = true))

/-- The ways in which a zone is accepted for an address that none of its selectors covers. -/
inductive Leaks (platform : Platform) (db : Tables) (zone : ServiceArea) (location : Location) :
    Prop
  /-- the address has no postal code that `matchZone` could compare -/
  | malformed (hcode : normalizePostalCode location.postalCode = none)
  /-- the base ZIP is listed, but only for delivery points other than that of the address -/
  | otherDeliveryPoints {code} (hcode : normalizePostalCode location.postalCode = some code)
    (hboundary : zone.boundary = none)
    (houtside : radiusMatch platform zone location.point = false)
    (hlisted : ∃ row ∈ db.ofZone zone.id, row.active ∧ row.regularServiceEnabled ∧
      row.postalCode.base = truncate 5 location.postalCode)
    (hother : matchingPostal db zone (candidates code) = false)
  /-- the zone has postal codes, none of which is both active and regular -/
  | noRegularCode {code} (hcode : normalizePostalCode location.postalCode = some code)
    (hboundary : zone.boundary = none)
    (houtside : radiusMatch platform zone location.point = false)
    (hrows : db.ofZone zone.id ≠ [])
    (hidle : ∀ row ∈ db.ofZone zone.id, row.active → row.regularServiceEnabled = false)
  /-- the zone is a circle, and the address is not in it -/
  | outsideCircle {code} (hcode : normalizePostalCode location.postalCode = some code)
    (hboundary : zone.boundary = none)
    (houtside : radiusMatch platform zone location.point = false)
    (hrows : db.ofZone zone.id = []) (hcircle : zone.center.isSome ∧ zone.radiusMeters.isSome)

/-! ## What `matchZone` asks of the rows -/

theorem configuredPostal_iff {db : Tables} {zone : ServiceArea} :
    configuredPostal db zone ↔ db.ofZone zone.id ≠ [] := by
  unfold configuredPostal ofZone
  simp

theorem matchingPostal_iff {db : Tables} {zone : ServiceArea} {candidates : List String} :
    matchingPostal db zone candidates ↔ ∃ row ∈ db.ofZone zone.id, row.active ∧
      row.regularServiceEnabled ∧ row.postalCode.val ∈ candidates := by
  unfold matchingPostal ofZone
  simp [and_assoc]

/-! ## Zones without rows -/

/-- Rows, a boundary, a circle, a city or a state. -/
def HasRoot (rows : List ServiceZonePostalCode) (zone : ServiceArea) : Prop :=
  rows ≠ [] ∨ zone.boundary.isSome ∨ (zone.center.isSome ∧ zone.radiusMeters.isSome) ∨
    zone.city.isSome ∨ zone.stateCode.isSome

def Rooted (db : Tables) : Prop := ∀ zone ∈ db.zones.rows, HasRoot (db.ofZone zone.id) zone

theorem isSome_of_truthy {text : Option String} (h : truthy text) : text.isSome := by
  cases text with
  | none => cases h
  | some text => rfl

theorem hasRoot_of_own {rows : List ServiceZonePostalCode} {zone : ServiceArea}
    (h : ownSelector zone) : HasRoot rows zone := by
  simp only [ownSelector, Bool.or_eq_true, Bool.and_eq_true] at h
  rcases h with ((hcity | hstate) | hboundary) | hcircle
  · exact Or.inr (Or.inr (Or.inr (Or.inl (isSome_of_truthy hcity))))
  · exact Or.inr (Or.inr (Or.inr (Or.inr hstate)))
  · exact Or.inr (Or.inl hboundary)
  · exact Or.inr (Or.inr (Or.inl hcircle))

theorem hasRoot_of_selector {db : Tables} {zone : ServiceArea} (h : hasCoverageSelector db zone) :
    HasRoot (db.ofZone zone.id) zone := by
  rcases hasCoverageSelector_iff.mp h with hown | ⟨row, hmem, _⟩
  · exact hasRoot_of_own hown
  · exact Or.inl (List.ne_nil_of_mem hmem)

/-- A city of blanks is not null all the same. -/
theorem hasRoot_of_blank {platform : Platform} {catalog : Catalog} {command : ServiceZoneCreate}
    {boundary : Option Geometry} {id : Uuid} (rows : List ServiceZonePostalCode)
    (h : BlankZone catalog command) : HasRoot rows (newZone platform id command boundary) := by
  obtain ⟨hshape, _, _, hcodes, hstate, hgeojson, hlatitude, hstrip⟩ := h
  simp only [ServiceZoneCreate.coverageShape, Bool.and_eq_true, hcodes, hstate, hgeojson,
    hlatitude] at hshape
  have htruthy : truthy command.city := by simpa using hshape.2
  refine Or.inr (Or.inr (Or.inr (Or.inl ?_)))
  show (if truthy command.city then command.city.map strip else none).isSome
  rw [if_pos htruthy, hstrip]
  rfl

/-- A row that is there stays there. -/
theorem importRows_kept {serviceAreaId : Uuid} {t u : Table ServiceZonePostalCode}
    {drawn imported counted : Nat} {items : List PostalCodeImportRow}
    (h : importRows serviceAreaId t drawn imported items = .ok (u, counted))
    {row : ServiceZonePostalCode} (hrow : row ∈ t.rows) : ∃ kept ∈ u.rows, key kept = key row := by
  induction items generalizing t drawn imported row with
  | nil =>
    cases h
    exact ⟨row, hrow, rfl⟩
  | cons item items ih =>
    rw [importRows] at h
    cases hget : t.get? (serviceAreaId, item.postalCode) with
    | some old =>
      rw [hget] at h
      obtain ⟨kept, hkept, _⟩ := Table.get?_put_of_some (a := importedRow item old)
        (Table.get?_key hrow)
      obtain ⟨last, hlast, hkey⟩ := ih h (Table.mem_of_get? hkept)
      exact ⟨last, hlast, hkey.trans (Table.key_of_get? hkept)⟩
    | none =>
      rw [hget] at h
      simp only [seq_committed] at h
      obtain ⟨mid, hmid, h⟩ := h
      exact ih h ((Table.mem_insert (addPostalCodes_one hmid)).mpr (Or.inl hrow))

theorem Rewrites.kept {db : Tables} {op : Op} {serviceAreaId : Uuid}
    {t : Table ServiceZonePostalCode} (h : Rewrites db op serviceAreaId t)
    {row : ServiceZonePostalCode} (hrow : row ∈ db.postalCodes.rows) :
    ∃ kept ∈ t.rows, key kept = key row := by
  have hput : ∀ new : ServiceZonePostalCode,
      ∃ kept ∈ (db.postalCodes.put new).rows, key kept = key row := by
    intro new
    obtain ⟨kept, hkept, _⟩ := Table.get?_put_of_some (a := new) (Table.get?_key hrow)
    exact ⟨kept, Table.mem_of_get? hkept, Table.key_of_get? hkept⟩
  cases h with
  | added _ hadded => exact ⟨row, (Table.mem_insert hadded).mpr (Or.inl hrow), rfl⟩
  | patched => exact hput _
  | deactivated => exact hput _
  | imported _ _ _ hrows => exact importRows_kept hrows hrow

theorem rooted_step {platform : Platform} {db db' : Tables} {op : Op}
    (hstep : Step platform db op db') (h : Rooted db) : Rooted db' := by
  have hlist : ∀ rows zone list, HasRoot rows zone →
      HasRoot rows { zone with postalCodes := list } :=
    fun _ _ _ h => h
  cases hstep with
  | refused => exact h
  | replayed => exact h
  | @created catalog command boundary zone mid hshape hentity hservices hboundary hzone hzones
      hrows _ =>
    refine Edited.sync_forall hlist
      (.created hzones hrows fun row hrow => (requestedRows_zone hrow).1) h ?_
    intro created hget
    obtain rfl : zone = created := Option.some.inj ((Table.get?_insert_self hzones).symm.trans hget)
    by_cases hcodes : command.postalCodes = []
    · by_cases hblank : BlankZone catalog command
      · exact hzone ▸ hasRoot_of_blank _ hblank
      · refine hasRoot_of_own ?_
        exact hzone ▸ newZone_selector hshape hentity hservices hboundary hcodes hblank
    · obtain ⟨row, hmem, _⟩ := requestedRows_active hrows hcodes
      exact Or.inl (List.ne_nil_of_mem hmem)
  | @updated _ _ _ _ zone zone' mid hget hid hzones hothers hselector _ =>
    refine Edited.sync_forall hlist (.updated hzones hothers) h fun updated hupdated => ?_
    have hput : mid.zones.get? zone'.id = some zone' := by
      rw [hzones, hid]
      exact Table.get?_put_self (Table.get?_found hget) hid
    obtain rfl : zone' = updated := Option.some.inj (hput.symm.trans hupdated)
    exact hasRoot_of_selector hselector
  | @deactivated _ _ zone hget =>
    intro other hmem
    rcases Table.mem_put.mp hmem with ⟨rfl, _⟩ | ⟨hmem, _⟩
    · exact h zone (Table.mem_of_get? hget)
    · exact h other hmem
  | @rewritten _ serviceAreaId t mid hrows hzones htable _ =>
    refine Edited.sync_forall hlist (hrows.edited hzones htable) h fun bumped hbumped => ?_
    rcases bumpZone_get? hbumped with ⟨hne, _⟩ | ⟨old, _, hget, rfl⟩
    · exact absurd rfl hne
    · rw [hzones] at hget
      rw [bumpZone_ofZone]
      rcases h old (Table.mem_of_get? hget) with hne | hroot
      · obtain ⟨row, hmem⟩ := List.exists_mem_of_ne_nil _ hne
        obtain ⟨hmem, harea⟩ := mem_ofZone.mp hmem
        obtain ⟨kept, hkept, hkey⟩ := hrows.kept hmem
        have hkeptarea : kept.serviceAreaId = row.serviceAreaId := congrArg Prod.fst hkey
        exact Or.inl (List.ne_nil_of_mem
          (mem_ofZone.mpr ⟨htable ▸ hkept, hkeptarea.trans harea⟩))
      · exact Or.inr hroot

/-! ## Zones that are accepted -/

/-- An accepted zone without a boundary match has no boundary, and its list is empty or has the
first five characters of the postal code. -/
theorem accepted_list {platform : Platform} {catalog : Catalog} {db : Tables}
    {location : Location} {zone : ServiceArea}
    (h : zone ∈ serviceAreaAt platform catalog db location) :
    zone ∈ db.zones.rows ∧
      (zone.postalCodes = [] ∨ truncate 5 location.postalCode ∈ zone.postalCodes) ∧
      (zone.boundary = none ∨ boundaryMatch platform zone location.point) := by
  simp only [serviceAreaAt, List.mem_filter, Bool.and_eq_true, Bool.or_eq_true,
    decide_eq_true_eq, Option.isNone_iff_eq_none] at h
  exact ⟨h.1, h.2.1.2, h.2.2⟩

theorem selects_iff {platform : Platform} {db : Tables} {zone : ServiceArea} {point : Point}
    {candidates : List String} :
    selects platform db zone point candidates ↔
      matchingPostal db zone candidates ∨ boundaryMatch platform zone point ∨
        radiusMatch platform zone point ∨ coarseOnly db zone := by
  simp only [selects, Bool.or_eq_true, or_assoc]

theorem covers_iff {platform : Platform} {db : Tables} {zone : ServiceArea} {location : Location}
    {code : PostalCode} (hcode : normalizePostalCode location.postalCode = some code) :
    Covers platform db zone location ↔
      selects platform db zone location.point (candidates code) := by
  unfold Covers
  rw [hcode]
  simp

/-- The rule for zones that have only a city or a state. -/
theorem coarseOnly_iff {db : Tables} {zone : ServiceArea}
    (hroot : HasRoot (db.ofZone zone.id) zone) (hboundary : zone.boundary = none) :
    coarseOnly db zone ↔
      db.ofZone zone.id = [] ∧ ¬ (zone.center.isSome ∧ zone.radiusMeters.isSome) := by
  have hrows : configuredPostal db zone = false ↔ db.ofZone zone.id = [] := by
    rw [← Bool.not_eq_true, configuredPostal_iff, not_not]
  have hcircle : (zone.center.isNone ∨ zone.radiusMeters.isNone) ↔
      ¬ (zone.center.isSome ∧ zone.radiusMeters.isSome) := by
    cases zone.center <;> cases zone.radiusMeters <;> simp
  unfold coarseOnly
  simp only [Bool.and_eq_true, Bool.or_eq_true, Bool.not_eq_true', hrows, hboundary, hcircle,
    Option.isNone_none, and_true]
  constructor
  · exact fun h => h.1
  · intro h
    refine ⟨h, ?_⟩
    rcases hroot with hne | hsome | hround | hname
    · exact absurd h.1 hne
    · rw [hboundary] at hsome
      cases hsome
    · exact absurd hround h.2
    · exact hname

/-- An accepted zone with rows, none of which matches. -/
theorem leaks_of_rows {platform : Platform} {db : Tables} {location : Location}
    {zone : ServiceArea} {code : PostalCode}
    (hprojected : zone.postalCodes = projection (db.ofZone zone.id))
    (hlist : zone.postalCodes = [] ∨ truncate 5 location.postalCode ∈ zone.postalCodes)
    (hcode : normalizePostalCode location.postalCode = some code)
    (hboundary : zone.boundary = none)
    (houtside : radiusMatch platform zone location.point = false)
    (hother : matchingPostal db zone (candidates code) = false)
    (hrows : db.ofZone zone.id ≠ []) : Leaks platform db zone location := by
  rcases hlist with hempty | hlisted
  · refine .noRegularCode hcode hboundary houtside hrows fun row hmem hactive => ?_
    cases hregular : row.regularServiceEnabled with
    | false => rfl
    | true =>
      have hbase : row.postalCode.base ∈ zone.postalCodes := by
        rw [hprojected]
        exact mem_projection.mpr ⟨row, hmem, hactive, hregular, rfl⟩
      rw [hempty] at hbase
      cases hbase
  · rw [hprojected] at hlisted
    exact .otherDeliveryPoints hcode hboundary houtside (mem_projection.mp hlisted) hother

/-- A zone without a boundary, for an address outside its circle. -/
theorem covers_iff_outside {platform : Platform} {db : Tables} {location : Location}
    {zone : ServiceArea} {code : PostalCode}
    (hprojected : zone.postalCodes = projection (db.ofZone zone.id))
    (hroot : HasRoot (db.ofZone zone.id) zone)
    (hlist : zone.postalCodes = [] ∨ truncate 5 location.postalCode ∈ zone.postalCodes)
    (hcode : normalizePostalCode location.postalCode = some code)
    (hboundary : zone.boundary = none)
    (houtside : radiusMatch platform zone location.point = false) :
    Covers platform db zone location ↔ ¬ Leaks platform db zone location := by
  have hselects : Covers platform db zone location ↔
      matchingPostal db zone (candidates code) ∨ coarseOnly db zone := by
    rw [covers_iff hcode, selects_iff, houtside, boundaryMatch, hboundary]
    simp
  rw [hselects]
  cases hmatching : matchingPostal db zone (candidates code) with
  | true =>
    obtain ⟨row, hmem, hactive, hregular, _⟩ := matchingPostal_iff.mp hmatching
    refine iff_of_true (Or.inl rfl) fun hleaks => ?_
    cases hleaks with
    | malformed hnone => cases hcode.symm.trans hnone
    | otherDeliveryPoints hcode' _ _ _ hother =>
      obtain rfl := Option.some.inj (hcode.symm.trans hcode')
      cases hmatching.symm.trans hother
    | noRegularCode _ _ _ _ hidle => cases hregular.symm.trans (hidle row hmem hactive)
    | outsideCircle _ _ _ hrows _ =>
      rw [hrows] at hmem
      cases hmem
  | false =>
    rw [coarseOnly_iff hroot hboundary]
    by_cases hrows : db.ofZone zone.id = []
    · by_cases hcircle : zone.center.isSome ∧ zone.radiusMeters.isSome
      · refine iff_of_false ?_ (not_not.mpr
          (.outsideCircle hcode hboundary houtside hrows hcircle))
        rintro (⟨⟨⟩⟩ | hcoarse)
        exact hcoarse.2 hcircle
      · refine iff_of_true (Or.inr ⟨hrows, hcircle⟩) fun hleaks => ?_
        cases hleaks with
        | malformed hnone => cases hcode.symm.trans hnone
        | otherDeliveryPoints _ _ _ hlisted _ =>
          obtain ⟨row, hmem, _⟩ := hlisted
          rw [hrows] at hmem
          cases hmem
        | noRegularCode _ _ _ hne _ => exact hne hrows
        | outsideCircle _ _ _ _ hround => exact hcircle hround
    · refine iff_of_false ?_ (not_not.mpr
        (leaks_of_rows hprojected hlist hcode hboundary houtside hmatching hrows))
      rintro (⟨⟨⟩⟩ | hcoarse)
      exact hrows hcoarse.1

theorem accepted_covers_iff {platform : Platform} {catalog : Catalog} {db : Tables}
    {location : Location} {zone : ServiceArea} (hprojected : Projected db) (hrooted : Rooted db)
    (h : zone ∈ serviceAreaAt platform catalog db location) :
    Covers platform db zone location ↔ ¬ Leaks platform db zone location := by
  obtain ⟨hmem, hlist, hbounds⟩ := accepted_list h
  cases hcode : normalizePostalCode location.postalCode with
  | none =>
    refine iff_of_false ?_ (not_not.mpr (.malformed hcode))
    rintro ⟨code, hsome, _⟩
    cases hcode.symm.trans hsome
  | some code =>
    by_cases hcovered : boundaryMatch platform zone location.point ∨
        radiusMatch platform zone location.point
    · -- a boundary or a circle covers the address, and no leak is left
      refine iff_of_true ((covers_iff hcode).mpr (selects_iff.mpr ?_)) fun hleaks => ?_
      · rcases hcovered with hboundary | hradius
        · exact Or.inr (Or.inl hboundary)
        · exact Or.inr (Or.inr (Or.inl hradius))
      · have hnot : ∀ (_ : zone.boundary = none)
            (_ : radiusMatch platform zone location.point = false), False := by
          intro hboundary houtside
          rcases hcovered with hmatch | hradius
          · rw [boundaryMatch, hboundary] at hmatch
            cases hmatch
          · cases houtside.symm.trans hradius
        cases hleaks with
        | malformed hnone => cases hcode.symm.trans hnone
        | otherDeliveryPoints _ hboundary houtside _ _ => exact hnot hboundary houtside
        | noRegularCode _ hboundary houtside _ _ => exact hnot hboundary houtside
        | outsideCircle _ hboundary houtside _ _ => exact hnot hboundary houtside
    · obtain ⟨hmatch, hradius⟩ := not_or.mp hcovered
      exact covers_iff_outside (hprojected zone hmem) (hrooted zone hmem) hlist hcode
        (hbounds.resolve_right hmatch) (Bool.not_eq_true _ ▸ hradius)

/-! ## Runs -/

/-- In every state of a run, and for every address: a zone that the booking domain accepts has a
selector that covers the address, unless it leaks. -/
theorem Tables.always_accepted_covers_iff (platform : Platform) (catalog : Catalog)
    (location : Location) (ops : List Op) :
    Runs.Always (exec platform) (fun db => ∀ zone ∈ serviceAreaAt platform catalog db location,
      (Covers platform db zone location ↔ ¬ Leaks platform db zone location)) {} ops := by
  have hinv : ∀ db op, (Projected db ∧ Rooted db) → True →
      Projected (exec platform db op) ∧ Rooted (exec platform db op) := by
    intro db op ⟨hprojected, hrooted⟩ _
    have hstep := exec_step platform db op
    exact ⟨hstep.projected hprojected, rooted_step hstep hrooted⟩
  have hstart : Projected {} ∧ Rooted {} := by
    constructor
    · intro zone hmem
      cases hmem
    · intro zone hmem
      cases hmem
  refine (Runs.always_of_inv hinv hstart (Runs.along_of_forall fun _ _ => trivial)).imp ?_
  intro db hdb zone hzone
  exact accepted_covers_iff hdb.1 hdb.2 hzone

/-! ## A zone that is left with an emergency-only postal code -/

def emergencyOnly : List Op :=
  [.createZone houston {
     legalEntityId := 1
     name := "Emergency Coverage Zone"
     postalCodes := [zip77020]
     serviceIds := [2] },
   .updatePostalCode 1 {
     regularServiceEnabled := some (some false)
     emergencyServiceEnabled := some (some true) } 1]

/-- An address in another state. -/
def beverlyHills : Location where
  point := ⟨-118, 34⟩
  countryCode := "US"
  stateCode := some "CA"
  city := "Beverly Hills"
  postalCode := "90210"

theorem Tables.emergencyOnly_not_covered :
    ¬ Runs.Always (exec bare) (fun db => ∀ zone ∈ serviceAreaAt bare houston db beverlyHills,
      Covers bare db zone beverlyHills) {} emergencyOnly := by
  decide

end Breero.Geography
