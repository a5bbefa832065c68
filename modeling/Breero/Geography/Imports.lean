import Breero.Geography.Coverage

/-!
An import of postal codes, as a whole.

* `importLoop` is the loop as it runs, against the rows that were read before it, and
  `importRows_eq_loop` says that `importRows` does the same;
* `importRows_saySame`: the loop says the same of its items in any order;
* `projection_congr`: the list of a zone depends on what its rows say, whatever their ids and
  their order are;
* `run_imports`: the import of a key stays what it is, in any run;
* `import_exact` is all of it about one request.
-/

namespace Breero.Geography
open KeyedTable Transaction Tables

/-! ## The loop -/

/-- `postal_codes_by_zone`, as a dict -/
def postalCodesByZone (db : Tables) (serviceAreaId : Uuid) (codes : List PostalCode)
    (code : PostalCode) : Option ServiceZonePostalCode :=
  if code ∈ codes then db.postalCodes.get? (serviceAreaId, code) else none

/-- The rows that the loop changes and those that it adds, before the flush. -/
def importLoop (existing : PostalCode → Option ServiceZonePostalCode) (serviceAreaId : Uuid)
    (drawn : Nat) :
    List PostalCodeImportRow → List ServiceZonePostalCode × List ServiceZonePostalCode
  | [] => ([], [])
  | item :: items =>
    match existing item.postalCode with
    | some row =>
      let rest := importLoop existing serviceAreaId drawn items
      (importedRow item row :: rest.1, rest.2)
    | none =>
      let rest := importLoop existing serviceAreaId (drawn + 1) items
      (rest.1, newImportedRow serviceAreaId drawn item :: rest.2)

/-- The flush after the loop. -/
def flush (t : Table ServiceZonePostalCode)
    (rows : List ServiceZonePostalCode × List ServiceZonePostalCode) :
    Except Raised (Table ServiceZonePostalCode) :=
  addPostalCodes (rows.1.foldl Table.put t) rows.2

/-- A row that the loop changes is that of an item. -/
theorem importLoop_changed {existing : PostalCode → Option ServiceZonePostalCode}
    {serviceAreaId : Uuid} {drawn : Nat} {items : List PostalCodeImportRow}
    (hexisting : ∀ code row, existing code = some row → row.postalCode = code)
    {row : ServiceZonePostalCode}
    (h : row ∈ (importLoop existing serviceAreaId drawn items).1) :
    row.postalCode ∈ items.map (·.postalCode) := by
  induction items generalizing drawn with
  | nil => cases h
  | cons item items ih =>
    rw [List.map_cons, List.mem_cons]
    rw [importLoop] at h
    cases hrow : existing item.postalCode with
    | some old =>
      rw [hrow] at h
      rcases List.mem_cons.mp h with rfl | h
      · exact .inl (hexisting item.postalCode old hrow)
      · exact .inr (ih h)
    | none =>
      rw [hrow] at h
      exact .inr (ih h)

theorem foldl_put_insert {t u : Table ServiceZonePostalCode} {a : ServiceZonePostalCode}
    {rows : List ServiceZonePostalCode} (h : t.insert? a = some u)
    (hne : ∀ row ∈ rows, key row ≠ key a) :
    (rows.foldl Table.put t).insert? a = some (rows.foldl Table.put u) := by
  induction rows generalizing t u with
  | nil => exact h
  | cons row rows ih =>
    exact ih (Table.insert?_put h (hne row List.mem_cons_self)) fun other hother =>
      hne other (List.mem_cons_of_mem _ hother)

/-- Reading every row before the loop is as good as reading each at its item, as no code comes
twice. -/
theorem importRows_eq_loop {existing : PostalCode → Option ServiceZonePostalCode}
    {serviceAreaId : Uuid} {t : Table ServiceZonePostalCode} {drawn imported : Nat}
    {items : List PostalCodeImportRow} (hunique : (items.map (·.postalCode)).Nodup)
    (hexisting : ∀ code row, existing code = some row → row.postalCode = code)
    (hread : ∀ item ∈ items, existing item.postalCode = t.get? (serviceAreaId, item.postalCode)) :
    (importRows serviceAreaId t drawn imported items).map Prod.fst =
      flush t (importLoop existing serviceAreaId drawn items) := by
  induction items generalizing t drawn imported with
  | nil => rfl
  | cons item items ih =>
    rw [List.map_cons, List.nodup_cons] at hunique
    have hother : ∀ other ∈ items, (serviceAreaId, item.postalCode) ≠
        (serviceAreaId, other.postalCode) := by
      intro other hmem heq
      have hcode : item.postalCode = other.postalCode := congrArg Prod.snd heq
      rw [hcode] at hunique
      exact hunique.1 (List.mem_map_of_mem hmem)
    have hfirst := hread item List.mem_cons_self
    have hrest := fun other hother => hread other (List.mem_cons_of_mem item hother)
    rw [importRows, importLoop, hfirst]
    cases hget : t.get? (serviceAreaId, item.postalCode) with
    | some row =>
      have hkey : key row = (serviceAreaId, item.postalCode) := Table.key_of_get? hget
      have hput (other : PostalCodeImportRow) (hmem : other ∈ items) :
          existing other.postalCode =
            (t.put (importedRow item row)).get? (serviceAreaId, other.postalCode) := by
        rw [hrest other hmem]
        have hne : key (importedRow item row) ≠ (serviceAreaId, other.postalCode) :=
          fun e => hother other hmem (hkey.symm.trans e)
        exact (Table.get?_put_ne hne).symm
      exact ih hunique.2 hput
    | none =>
      let new := newImportedRow serviceAreaId drawn item
      obtain ⟨u, hu⟩ : ∃ u, t.insert? new = some u := Table.insert?_fresh hget
      have hadded : addPostalCodes t [new] = .ok u := by
        rw [addPostalCodes, List.foldlM_cons, seq_committed]
        exact ⟨u, orRaise_committed.mpr hu, rfl⟩
      have hinsert (other : PostalCodeImportRow) (hmem : other ∈ items) :
          existing other.postalCode = u.get? (serviceAreaId, other.postalCode) := by
        rw [hrest other hmem]
        exact (Table.get?_insert_ne hu (hother other hmem)).symm
      have hlast : ((importLoop existing serviceAreaId (drawn + 1) items).1.foldl Table.put
          t).insert? new =
          some ((importLoop existing serviceAreaId (drawn + 1) items).1.foldl Table.put u) := by
        refine foldl_put_insert hu fun row hrow heq => hunique.1 ?_
        have hcode : row.postalCode = item.postalCode := congrArg Prod.snd heq
        exact hcode ▸ importLoop_changed hexisting hrow
      change (addPostalCodes t [new] >>= fun t =>
        importRows serviceAreaId t (drawn + 1) (imported + 1) items).map Prod.fst = _
      rw [hadded]
      change (importRows serviceAreaId u (drawn + 1) (imported + 1) items).map Prod.fst = _
      rw [ih hunique.2 hinsert, flush, flush, addPostalCodes, addPostalCodes, List.foldlM_cons,
        hlast]
      rfl

/-- The loop of a request is the one over the rows that `postal_codes_by_zone` has read. -/
theorem importRows_prefetched {db : Tables} {command : PostalCodeImportRequest}
    (hunique : (command.rows.map (·.postalCode)).Nodup) (serviceAreaId : Uuid) :
    (importRows serviceAreaId db.postalCodes db.drawn 0 command.rows).map Prod.fst =
      flush db.postalCodes (importLoop
        (postalCodesByZone db serviceAreaId (command.rows.map (·.postalCode)))
        serviceAreaId db.drawn command.rows) := by
  refine importRows_eq_loop hunique ?_ ?_
  · intro code row h
    unfold postalCodesByZone at h
    split at h
    · exact congrArg Prod.snd (Table.key_of_get? h)
    · cases h
  · intro item hitem
    exact if_pos (List.mem_map_of_mem hitem)

/-- What the loop has counted. -/
theorem importRows_counted {serviceAreaId : Uuid} {t u : Table ServiceZonePostalCode}
    {drawn counted : Nat} {items : List PostalCodeImportRow}
    (h : importRows serviceAreaId t drawn 0 items = .ok (u, counted)) :
    counted = items.length := by
  obtain ⟨v, hv⟩ := importRows_isOk serviceAreaId t drawn 0 items
  have hpair : (u, counted) = (v, 0 + items.length) := Except.ok.inj (h.symm.trans hv)
  rw [(Prod.mk.inj hpair).2, Nat.zero_add]

/-! ## What rows say -/

/-- The row without its id, which `uuid4` draws. -/
def said (row : ServiceZonePostalCode) : ServiceZonePostalCode := { row with id := 0 }

theorem ImportedAs.said {old : Option ServiceZonePostalCode} {item : PostalCodeImportRow}
    {row row' : ServiceZonePostalCode} (h : ImportedAs old item row) (h' : ImportedAs old item row')
    (harea : row.serviceAreaId = row'.serviceAreaId) :
    Geography.said row = Geography.said row' := by
  have hversion : row.version = row'.version := by
    cases old with
    | none => rw [h.created rfl, h'.created rfl]
    | some before => rw [(h.updated before rfl).2, (h'.updated before rfl).2]
  rw [Geography.said, Geography.said, ServiceZonePostalCode.mk.injEq]
  exact ⟨rfl, harea, h.postalCode.trans h'.postalCode.symm, h.city.trans h'.city.symm,
    h.stateCode.trans h'.stateCode.symm, h.active.trans h'.active.symm,
    h.regularServiceEnabled.trans h'.regularServiceEnabled.symm,
    h.emergencyServiceEnabled.trans h'.emergencyServiceEnabled.symm,
    h.priority.trans h'.priority.symm, hversion⟩

theorem eq_of_said {row row' : ServiceZonePostalCode} (h : said row = said row')
    (hid : row.id = row'.id) : row = row' := by
  cases row
  cases row'
  simp only [said, ServiceZonePostalCode.mk.injEq] at h hid ⊢
  exact ⟨hid, h.2⟩

theorem charsLe_antisymm {as bs : List Char} (h : charsLe as bs = true)
    (h' : charsLe bs as = true) : as = bs := by
  induction as generalizing bs with
  | nil =>
    cases bs with
    | nil => rfl
    | cons b bs => cases h'
  | cons a as ih =>
    cases bs with
    | nil => cases h
    | cons b bs =>
      simp only [charsLe, Bool.or_eq_true, Bool.and_eq_true, decide_eq_true_eq] at h h'
      rcases h with hlt | ⟨hab, h⟩
      · rcases h' with hlt' | ⟨hba, -⟩ <;> omega
      · rcases h' with hlt' | ⟨-, h'⟩
        · omega
        · rw [ih h h', Char.toNat_inj.mp hab]

theorem listedBefore_antisymm {a b : ServiceZonePostalCode} (h : listedBefore a b)
    (h' : listedBefore b a) : a.postalCode = b.postalCode := by
  unfold listedBefore at h h'
  rcases h with hlt | ⟨hab, hle⟩
  · rcases h' with hlt' | ⟨hba, -⟩ <;> omega
  · rcases h' with hlt' | ⟨-, hle'⟩
    · omega
    · exact Subtype.ext (String.toList_inj.mp (charsLe_antisymm hle hle'))

theorem projection_said (rows : List ServiceZonePostalCode) :
    projection (rows.map said) = projection rows := by
  unfold projection
  rw [List.filter_map, ← List.map_insertionSort listedBefore listedBefore said, List.map_map]
  · rfl
  · intro a _ b _
    exact Iff.rfl

/-- The list of a zone depends on what its rows say only. -/
theorem projection_congr {rows rows' : List ServiceZonePostalCode}
    (hunique : (rows.map (·.postalCode)).Nodup) (h : (rows.map said).Perm (rows'.map said)) :
    projection rows = projection rows' := by
  rw [← projection_said rows, ← projection_said rows']
  have hsorted : ((rows.map said).filter fun row =>
        row.active && row.regularServiceEnabled).insertionSort listedBefore =
      ((rows'.map said).filter fun row =>
        row.active && row.regularServiceEnabled).insertionSort listedBefore := by
    refine List.Perm.eq_of_pairwise ?_ (List.pairwise_insertionSort _ _)
      (List.pairwise_insertionSort _ _) ?_
    · intro a b ha hb hab hba
      have hmem : ∀ row, row ∈ rows.map said → ∃ old ∈ rows, said old = row :=
        fun row => List.mem_map.mp
      obtain ⟨olda, holda, rfl⟩ := hmem a
        (List.mem_of_mem_filter ((List.mem_insertionSort _).mp ha))
      obtain ⟨oldb, holdb, rfl⟩ := hmem b
        (h.mem_iff.mpr (List.mem_of_mem_filter ((List.mem_insertionSort _).mp hb)))
      have hcode : olda.postalCode = oldb.postalCode := listedBefore_antisymm hab hba
      rw [List.inj_on_of_nodup_map hunique holda holdb hcode]
    · exact (List.perm_insertionSort _ _).trans
        ((h.filter _).trans (List.perm_insertionSort _ _).symm)
  unfold projection
  rw [hsorted]

/-! ## Tables that say the same -/

/-- Of every code, the rows say the same or are both missing. -/
def SaySame (t u : Table ServiceZonePostalCode) : Prop :=
  ∀ k, (t.get? k).map said = (u.get? k).map said

theorem SaySame.mem {t u : Table ServiceZonePostalCode} (h : SaySame t u)
    {row : ServiceZonePostalCode} (hrow : row ∈ t.rows) :
    ∃ row' ∈ u.rows, said row' = said row := by
  have hsame := h (key row)
  rw [Table.get?_key hrow, Option.map_some] at hsame
  obtain ⟨row', hrow', hsaid⟩ := Option.map_eq_some_iff.mp hsame.symm
  exact ⟨row', Table.mem_of_get? hrow', hsaid⟩

theorem SaySame.symm {t u : Table ServiceZonePostalCode} (h : SaySame t u) : SaySame u t :=
  fun k => (h k).symm

theorem nodup_codes (db : Tables) (serviceAreaId : Uuid) :
    ((db.ofZone serviceAreaId).map (·.postalCode)).Nodup := by
  refine List.Nodup.map_on ?_ (db.postalCodes.nodup.of_map.filter _)
  intro a ha b hb hcode
  obtain ⟨ha, harea⟩ := mem_ofZone.mp ha
  obtain ⟨hb, hbrea⟩ := mem_ofZone.mp hb
  exact Table.eq_of_key ha hb (Prod.ext (harea.trans hbrea.symm) hcode)

theorem SaySame.ofZone {db db' : Tables} (h : SaySame db.postalCodes db'.postalCodes)
    (serviceAreaId : Uuid) :
    ((db.ofZone serviceAreaId).map said).Perm ((db'.ofZone serviceAreaId).map said) := by
  have hcodes (db : Tables) : ((db.ofZone serviceAreaId).map said).Nodup := by
    refine List.Nodup.of_map (·.postalCode) ?_
    rw [List.map_map]
    exact nodup_codes db serviceAreaId
  have hsub {db db' : Tables} (h : SaySame db.postalCodes db'.postalCodes) :
      ∀ row ∈ (db.ofZone serviceAreaId).map said, row ∈ (db'.ofZone serviceAreaId).map said := by
    intro row hrow
    obtain ⟨old, hold, rfl⟩ := List.mem_map.mp hrow
    obtain ⟨hold, harea⟩ := mem_ofZone.mp hold
    obtain ⟨new, hnew, hsaid⟩ := h.mem hold
    have hnewarea : new.serviceAreaId = old.serviceAreaId := by
      injection hsaid
    exact List.mem_map.mpr ⟨new, mem_ofZone.mpr ⟨hnew, hnewarea.trans harea⟩, hsaid⟩
  exact (List.perm_ext_iff_of_nodup (hcodes db) (hcodes db')).mpr fun row =>
    ⟨hsub h row, hsub h.symm row⟩

/-- Two imports of the same items, in any order. -/
theorem importRows_saySame {serviceAreaId : Uuid} {t u u' : Table ServiceZonePostalCode}
    {drawn imported counted counted' : Nat} {items items' : List PostalCodeImportRow}
    (hperm : items'.Perm items) (hunique : (items.map (·.postalCode)).Nodup)
    (h : importRows serviceAreaId t drawn imported items = .ok (u, counted))
    (h' : importRows serviceAreaId t drawn imported items' = .ok (u', counted')) :
    SaySame u u' ∧ ∀ k old, t.get? k = some old → u.get? k = u'.get? k := by
  have hunique' : (items'.map (·.postalCode)).Nodup := (hperm.map _).nodup_iff.mpr hunique
  have hcase (k : Uuid × PostalCode) : (u.get? k = u'.get? k) ∨
      ∃ item row row', u.get? k = some row ∧ u'.get? k = some row' ∧
        ImportedAs (t.get? k) item row ∧ ImportedAs (t.get? k) item row' := by
    by_cases hitem : ∃ item ∈ items, (serviceAreaId, item.postalCode) = k
    · obtain ⟨item, hmem, rfl⟩ := hitem
      obtain ⟨row, hrow, has⟩ := importRows_item h hunique hmem
      obtain ⟨row', hrow', has'⟩ := importRows_item h' hunique' (hperm.mem_iff.mpr hmem)
      exact .inr ⟨item, row, row', hrow, hrow', has, has'⟩
    · push Not at hitem
      rw [importRows_get?_outside h hitem,
        importRows_get?_outside h' fun item hmem => hitem item (hperm.mem_iff.mp hmem)]
      exact .inl rfl
  constructor
  · intro k
    rcases hcase k with heq | ⟨item, row, row', hrow, hrow', has, has'⟩
    · rw [heq]
    · have hkeys : key row = key row' :=
        (Table.key_of_get? hrow).trans (Table.key_of_get? hrow').symm
      rw [hrow, hrow', Option.map_some, Option.map_some, has.said has' (congrArg Prod.fst hkeys)]
  · intro k old hold
    rcases hcase k with heq | ⟨item, row, row', hrow, hrow', has, has'⟩
    · exact heq
    · have hkeys : key row = key row' :=
        (Table.key_of_get? hrow).trans (Table.key_of_get? hrow').symm
      have hid : row.id = row'.id := by
        rw [(has.updated old hold).1, (has'.updated old hold).1]
      rw [hrow, hrow', eq_of_said (has.said has' (congrArg Prod.fst hkeys)) hid]

/-! ## The request -/

section
variable {platform : Platform} {db db' : Tables} {command : PostalCodeImportRequest}
  {idempotencyKey : String} {now : Instant} {record : PostalCodeImport}

/-- The zone after an import into it. -/
def importedZone (db' : Tables) (zone : ServiceArea) : ServiceArea :=
  { zone with version := zone.version + 1, postalCodes := projection (db'.ofZone zone.id) }

/-- The zone is written twice, and then has the new version and the new list. -/
theorem written_zone {mid : Tables} {zone : ServiceArea}
    (h : mid.zones.get? zone.id = some zone) :
    (bumpZone mid zone.id).syncLegacyPostalCodes zone.id =
      { mid with zones := mid.zones.put (importedZone mid zone) } := by
  have hbump : bumpZone mid zone.id =
      { mid with zones := mid.zones.put { zone with version := zone.version + 1 } } := by
    rw [bumpZone, h]
  have hput : (mid.zones.put { zone with version := zone.version + 1 }).get? zone.id =
      some { zone with version := zone.version + 1 } := Table.get?_put_self h rfl
  rw [hbump, @syncLegacyPostalCodes_of_zone _ { zone with version := zone.version + 1 } hput]
  have htwice : (mid.zones.put { zone with version := zone.version + 1 }).put
      (importedZone mid zone) = mid.zones.put (importedZone mid zone) := Table.put_put rfl
  rw [← htwice]
  rfl

/-- What an import with a new key does. -/
theorem importPostalCodes_new (hfresh : db.imports.get? idempotencyKey = none)
    (h : importPostalCodes platform db command idempotencyKey now = .ok (db', record)) :
    ∃ zone, db.zones.get? command.serviceAreaId = some zone ∧
      importRows zone.id db.postalCodes db.drawn 0 command.rows =
        .ok (db'.postalCodes, record.importedRows) ∧
      db'.zones = db.zones.put (importedZone db' zone) ∧
      db.imports.insert? record = some db'.imports ∧
      record.idempotencyKey = idempotencyKey ∧ record.requestHash = platform.hash command ∧
      record.totalRows = command.rows.length := by
  simp only [importPostalCodes, hfresh, seq_committed, orRaise_committed, return_committed,
    Prod.mk.injEq] at h
  obtain ⟨zone, hzone, imports, himports, ⟨t, imported⟩, ht, rfl, rfl⟩ := h
  have hid : zone.id = command.serviceAreaId := Table.key_of_get? hzone
  have hwritten (mid : Tables) (hzones : mid.zones = db.zones) :
      (bumpZone mid zone.id).syncLegacyPostalCodes zone.id =
        { mid with zones := mid.zones.put (importedZone mid zone) } := by
    refine written_zone ?_
    rw [hzones, hid]
    exact hzone
  rw [hwritten]
  · exact ⟨zone, hzone, ht, rfl, Table.insert?_put_self himports rfl, rfl, rfl, rfl⟩
  · rfl

/-- An import with a new key fails for want of its zone only. -/
theorem importPostalCodes_isOk (hfresh : db.imports.get? idempotencyKey = none)
    {zone : ServiceArea} (hzone : db.zones.get? command.serviceAreaId = some zone) :
    ∃ out, importPostalCodes platform db command idempotencyKey now = .ok out := by
  obtain ⟨t, ht⟩ := importRows_isOk zone.id db.postalCodes db.drawn 0 command.rows
  obtain ⟨imports, himports⟩ : ∃ imports, db.imports.insert? {
      serviceAreaId := zone.id
      idempotencyKey
      requestHash := platform.hash command
      totalRows := command.rows.length } = some imports := Table.insert?_fresh hfresh
  unfold importPostalCodes
  rw [hfresh]
  exact ⟨_, (seq_committed _ _ _).mpr ⟨zone, orRaise_committed.mpr hzone,
    (seq_committed _ _ _).mpr ⟨imports, orRaise_committed.mpr himports,
      (seq_committed _ _ _).mpr ⟨_, ht, rfl⟩⟩⟩⟩

/-! ## Runs -/

theorem sync_imports (db : Tables) (serviceAreaId : Uuid) :
    (db.syncLegacyPostalCodes serviceAreaId).imports = db.imports := by
  unfold syncLegacyPostalCodes
  split <;> rfl

theorem bumpZone_imports (db : Tables) (serviceAreaId : Uuid) :
    (bumpZone db serviceAreaId).imports = db.imports := by
  unfold bumpZone
  split <;> rfl

theorem updatePostalCodes_imports {mid : Tables} {zone : ServiceArea} {command : ServiceZoneUpdate}
    {regular : Bool} (h : updatePostalCodes db zone command regular = .ok mid) :
    mid.imports = db.imports := by
  unfold updatePostalCodes at h
  split at h
  · simp only [replaceZonePostalCodes, seq_committed, return_committed] at h
    obtain ⟨_, _, rfl⟩ := h
    rfl
  · split at h
    · rw [return_committed] at h
      rw [← h]
    · rw [return_committed] at h
      rw [← h]

theorem createZone_imports {catalog : Catalog} {command : ServiceZoneCreate} {zone : ServiceArea}
    (h : createZone platform catalog db command = .ok (db', zone)) : db'.imports = db.imports := by
  simp only [createZone, exceptIntegrityError, addZone, seq_committed, mapError_committed,
    return_committed, Prod.mk.injEq] at h
  obtain ⟨_, _, _, _, _, _, zones, _, mid, hofferings, t, _, rfl, rfl⟩ := h
  obtain ⟨offerings, rfl⟩ := replaceOfferings_eq hofferings
  exact sync_imports _ _

theorem updateZone_imports {catalog : Catalog} {serviceAreaId : Uuid} {command : ServiceZoneUpdate}
    {expectedVersion : Nat} {zone : ServiceArea}
    (h : updateZone platform catalog db serviceAreaId command expectedVersion = .ok (db', zone)) :
    db'.imports = db.imports := by
  simp only [updateZone, seq_committed, return_committed, Prod.mk.injEq] at h
  obtain ⟨_, _, _, _, _, _, _, _, _, _, mid, hofferings, last, hpostal, _, _, rfl, rfl⟩ := h
  obtain ⟨offerings, rfl⟩ := updateOfferings_eq hofferings
  have hlast := updatePostalCodes_imports hpostal
  rw [sync_imports]
  exact hlast

theorem writePostalCode_imports (db : Tables) (row : ServiceZonePostalCode) :
    (writePostalCode db row).imports = db.imports :=
  (sync_imports _ _).trans (bumpZone_imports _ _)

/-- No request but an import writes an import. -/
theorem perform_imports {op : Op} (h : perform platform db op = .ok db') :
    db'.imports = db.imports ∨ ∃ command idempotencyKey now record,
      importPostalCodes platform db command idempotencyKey now = .ok (db', record) := by
  cases op with
  | createZone catalog command =>
    simp only [perform, seq_committed, return_committed] at h
    obtain ⟨_, _, ⟨mid, zone⟩, h, rfl⟩ := h
    exact .inl (createZone_imports h)
  | updateZone catalog serviceAreaId command expectedVersion =>
    simp only [perform, seq_committed, return_committed] at h
    obtain ⟨_, _, ⟨mid, zone⟩, h, rfl⟩ := h
    exact .inl (updateZone_imports h)
  | deactivateZone serviceAreaId expectedVersion =>
    simp only [perform, deactivateZone, seq_committed, return_committed] at h
    obtain ⟨_, ⟨zone, _, _, _, rfl⟩, rfl⟩ := h
    exact .inl rfl
  | createPostalCode command =>
    simp only [perform, createPostalCode, seq_committed, return_committed] at h
    obtain ⟨_, ⟨zone, _, _, _, t, _, rfl⟩, rfl⟩ := h
    exact .inl ((sync_imports _ _).trans (bumpZone_imports _ _))
  | updatePostalCode postalCodeId command expectedVersion =>
    simp only [perform, updatePostalCode, seq_committed, return_committed] at h
    obtain ⟨_, _, _, ⟨row, _, _, _, _, _, rfl⟩, rfl⟩ := h
    exact .inl (writePostalCode_imports _ _)
  | deactivatePostalCode postalCodeId expectedVersion =>
    simp only [perform, deactivatePostalCode, seq_committed, return_committed] at h
    obtain ⟨_, ⟨row, _, _, _, rfl⟩, rfl⟩ := h
    exact .inl (writePostalCode_imports _ _)
  | importPostalCodes command idempotencyKey now =>
    simp only [perform, seq_committed, return_committed] at h
    obtain ⟨_, _, ⟨mid, record⟩, h, rfl⟩ := h
    exact .inr ⟨command, idempotencyKey, now, record, h⟩

/-- The answer to a key that has its import. -/
theorem importPostalCodes_replayed {existing : PostalCodeImport}
    (h : db.imports.get? idempotencyKey = some existing) :
    importPostalCodes platform db command idempotencyKey now =
      if existing.requestHash = platform.hash command then .ok (db, existing)
      else .error (.domainError "IDEMPOTENCY_CONFLICT"
        "Idempotency key was used for a different postal-code import." 409) := by
  simp only [importPostalCodes, h, require]
  split <;> rfl

/-- An import stays what it is. -/
theorem exec_imports {existing : PostalCodeImport}
    (h : db.imports.get? idempotencyKey = some existing) (op : Op) :
    (db.exec platform op).imports.get? idempotencyKey = some existing := by
  unfold Tables.exec
  cases hop : perform platform db op with
  | error raised => exact h
  | ok db' =>
    rcases perform_imports hop with hkept | ⟨command, idempotencyKey', now, record, himport⟩
    · simpa only [hkept] using h
    · cases hkey : db.imports.get? idempotencyKey' with
      | some other =>
        rw [importPostalCodes_replayed hkey] at himport
        split at himport
        · cases himport
          exact h
        · cases himport
      | none =>
        obtain ⟨zone, -, -, -, hinsert, -⟩ := importPostalCodes_new hkey himport
        exact Table.get?_insert_of_some hinsert h

theorem run_imports {existing : PostalCodeImport}
    (h : db.imports.get? idempotencyKey = some existing) (ops : List Op) :
    (Runs.run (exec platform) db ops).imports.get? idempotencyKey = some existing := by
  induction ops generalizing db with
  | nil => exact h
  | cons op ops ih => exact ih (exec_imports h op)

end

/-! ## All of it -/

section
variable (platform : Platform) (db db' : Tables) (command : PostalCodeImportRequest)
  (idempotencyKey : String) (record : PostalCodeImport)

/-- What is there after the import of a request into a zone. -/
structure Exact : Prop where
  imported : ∀ item ∈ command.rows, ∃ row,
    db'.postalCodes.get? (command.serviceAreaId, item.postalCode) = some row ∧
      ImportedAs (db.postalCodes.get? (command.serviceAreaId, item.postalCode)) item row
  others : ∀ k, (∀ item ∈ command.rows, (command.serviceAreaId, item.postalCode) ≠ k) →
    db'.postalCodes.get? k = db.postalCodes.get? k
  counted : record.importedRows = record.totalRows ∧ record.totalRows = command.rows.length
  recorded : db'.imports.get? idempotencyKey = some record
  zone : ∃ zone, db.zones.get? command.serviceAreaId = some zone ∧
    db'.zones = db.zones.put (importedZone db' zone)

/-- The import of the same rows in another order says the same, and leaves the zones the same. -/
def OrderFree (now : Instant) : Prop :=
  ∀ rows : List PostalCodeImportRow, rows.Perm command.rows → ∃ other record',
    importPostalCodes platform db { command with rows } idempotencyKey now = .ok (other, record') ∧
      other.zones = db'.zones ∧ SaySame other.postalCodes db'.postalCodes ∧
      (∀ k old, db.postalCodes.get? k = some old →
        other.postalCodes.get? k = db'.postalCodes.get? k) ∧
      record'.importedRows = record.importedRows ∧ record'.totalRows = record.totalRows

/-- Whatever is requested in between, the same request changes nothing and has the same answer,
and another one under the key is rejected, if SHA-256 tells them apart. -/
def Replays : Prop :=
  ∀ (ops : List Op) (again : Instant),
    importPostalCodes platform (Runs.run (exec platform) db' ops) command idempotencyKey again =
      .ok (Runs.run (exec platform) db' ops, record) ∧
    ∀ command', command' ≠ command →
      (platform.hash command = platform.hash command' → command = command') →
      importPostalCodes platform (Runs.run (exec platform) db' ops) command' idempotencyKey again =
          .error (.domainError "IDEMPOTENCY_CONFLICT"
            "Idempotency key was used for a different postal-code import." 409) ∧
        (Runs.run (exec platform) db' ops).exec platform
          (.importPostalCodes command' idempotencyKey again) = Runs.run (exec platform) db' ops

end

section
variable {platform : Platform} {db db' : Tables} {command : PostalCodeImportRequest}
  {idempotencyKey : String} {now : Instant} {record : PostalCodeImport}

theorem nodup_of_uniquePostalCodes (h : command.uniquePostalCodes) :
    (command.rows.map (·.postalCode)).Nodup := by
  simp only [PostalCodeImportRequest.uniquePostalCodes, Bool.and_eq_true, decide_eq_true_eq] at h
  exact h.2

/-- An import that raises changes nothing, and neither does one that its schema refuses. -/
theorem exec_import_raised {raised : Raised}
    (h : importPostalCodes platform db command idempotencyKey now = .error raised) :
    db.exec platform (.importPostalCodes command idempotencyKey now) = db := by
  unfold Tables.exec
  cases hop : perform platform db (.importPostalCodes command idempotencyKey now) with
  | error other => rfl
  | ok db' =>
    simp only [perform, seq_committed, return_committed, h] at hop
    obtain ⟨_, _, _, ⟨⟩, _⟩ := hop

theorem Exact.of_new (hunique : command.uniquePostalCodes)
    (hfresh : db.imports.get? idempotencyKey = none)
    (h : importPostalCodes platform db command idempotencyKey now = .ok (db', record)) :
    Exact db db' command idempotencyKey record := by
  obtain ⟨zone, hzone, hrows, hzones, hinsert, rfl, -, htotal⟩ := importPostalCodes_new hfresh h
  have hid : zone.id = command.serviceAreaId := Table.key_of_get? hzone
  rw [hid] at hrows
  exact {
    imported := fun item hitem => importRows_item hrows (nodup_of_uniquePostalCodes hunique) hitem
    others := fun k hk => importRows_get?_outside hrows hk
    counted := ⟨(importRows_counted hrows).trans htotal.symm, htotal⟩
    recorded := Table.get?_insert_self hinsert
    zone := ⟨zone, hzone, hzones⟩ }

theorem OrderFree.of_new (hunique : command.uniquePostalCodes)
    (hfresh : db.imports.get? idempotencyKey = none)
    (h : importPostalCodes platform db command idempotencyKey now = .ok (db', record)) :
    OrderFree platform db db' command idempotencyKey record now := by
  intro rows hperm
  obtain ⟨zone, hzone, hrows, hzones, -, -, -, htotal⟩ := importPostalCodes_new hfresh h
  have hok : ∃ out, importPostalCodes platform db { command with rows } idempotencyKey now =
      .ok out := importPostalCodes_isOk hfresh hzone
  obtain ⟨⟨other, record'⟩, hother⟩ := hok
  obtain ⟨zone', hzone', hrows', hzones', -, -, -, htotal'⟩ :=
    importPostalCodes_new hfresh hother
  obtain rfl : zone = zone' := Option.some.inj (hzone.symm.trans hzone')
  obtain ⟨hsame, hkept⟩ :=
    importRows_saySame hperm (nodup_of_uniquePostalCodes hunique) hrows hrows'
  have hlist : importedZone other zone = importedZone db' zone := by
    rw [importedZone, importedZone,
      projection_congr (nodup_codes other zone.id) (hsame.symm.ofZone zone.id)]
  have hlength : rows.length = command.rows.length := hperm.length_eq
  refine ⟨other, record', hother, ?_, hsame.symm, fun k old hold => (hkept k old hold).symm, ?_,
    ?_⟩
  · rw [hzones', hlist, hzones]
  · rw [importRows_counted hrows', importRows_counted hrows, hlength]
  · rw [htotal', htotal]
    exact hlength

theorem Replays.of_new (hfresh : db.imports.get? idempotencyKey = none)
    (h : importPostalCodes platform db command idempotencyKey now = .ok (db', record)) :
    Replays platform db' command idempotencyKey record := by
  obtain ⟨zone, -, -, -, hinsert, hkey, hsame, -⟩ := importPostalCodes_new hfresh h
  have hrecorded : db'.imports.get? idempotencyKey = some record :=
    hkey ▸ Table.get?_insert_self hinsert
  intro ops again
  have hkept : (Runs.run (exec platform) db' ops).imports.get? idempotencyKey = some record :=
    run_imports hrecorded ops
  refine ⟨?_, fun command' hne hcollision => ?_⟩
  · rw [importPostalCodes_replayed hkept, if_pos hsame]
  · have hhash : record.requestHash ≠ platform.hash command' :=
      fun heq => hne (hcollision (hsame.symm.trans heq)).symm
    have hconflict : importPostalCodes platform (Runs.run (exec platform) db' ops) command'
        idempotencyKey again = .error (.domainError "IDEMPOTENCY_CONFLICT"
          "Idempotency key was used for a different postal-code import." 409) := by
      rw [importPostalCodes_replayed hkept, if_neg hhash]
    exact ⟨hconflict, exec_import_raised hconflict⟩

end

/-- An import is exact: what an accepted request with a new key does, in which orders, what its
repetition does, and what a failure leaves. -/
theorem import_exact (platform : Platform) (db : Tables) (command : PostalCodeImportRequest)
    (idempotencyKey : String) (now : Instant) (hunique : command.uniquePostalCodes)
    (hfresh : db.imports.get? idempotencyKey = none) :
    (∀ db' record,
      importPostalCodes platform db command idempotencyKey now = .ok (db', record) →
        Exact db db' command idempotencyKey record ∧
          OrderFree platform db db' command idempotencyKey record now ∧
          Replays platform db' command idempotencyKey record) ∧
    ∀ raised, importPostalCodes platform db command idempotencyKey now = .error raised →
      db.exec platform (.importPostalCodes command idempotencyKey now) = db := by
  refine ⟨fun db' record h => ?_, fun raised h => exec_import_raised h⟩
  exact ⟨.of_new hunique hfresh h, .of_new hunique hfresh h, .of_new hfresh h⟩

/-- A zone with one postal code. -/
def onePostalCode : Tables :=
  Runs.run (exec bare) {} [.createZone houston {
    legalEntityId := 1
    name := "Postal-Only Coverage Zone"
    postalCodes := [zip77020]
    serviceIds := [2] }]

/-- Its code, for emergencies only, and another one. -/
def twoRows : PostalCodeImportRequest where
  serviceAreaId := 0
  rows := [
    { postalCode := zip77020, regularServiceEnabled := false, emergencyServiceEnabled := true },
    { postalCode := ⟨"77021-1234", by decide⟩, city := some "Houston" }]

theorem twoRows_exact :
    ∃ db' record, importPostalCodes bare onePostalCode twoRows "import-1" 0 = .ok (db', record) ∧
      Exact onePostalCode db' twoRows "import-1" record ∧
      OrderFree bare onePostalCode db' twoRows "import-1" record 0 ∧
      Replays bare db' twoRows "import-1" record := by
  have hok : (importPostalCodes bare onePostalCode twoRows "import-1" 0).isOk := by decide
  cases h : importPostalCodes bare onePostalCode twoRows "import-1" 0 with
  | error raised =>
    rw [h] at hok
    cases hok
  | ok out =>
    exact ⟨out.1, out.2, rfl,
      (import_exact bare onePostalCode twoRows "import-1" 0 (by decide) (by decide)).1 _ _ h⟩

end Breero.Geography
