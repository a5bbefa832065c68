import Breero.Onboarding.Service

/-!
What the transactions of an application lock and write.

* `session_guarded`: each of them reads under a lock and commits under both;
* `catalog_changed` is what a change of a selection does alone;
* `Moved` says what a command does to the status and the lists, `Wrote` what it does to the
  versions and the events, and `session_effect` that every command alone does both.
-/

namespace Breero.Onboarding
open KeyedTable Transaction Interleaving Program

/-! ## Locks -/

section Locks

variable {held : List Lock}

@[simp] theorem ends_raising {α : Type} (x : Except Raised α) {post : α → List Lock → Prop} :
    (raising x).Ends held post ↔ ∀ a, x = .ok a → post a held := by
  simp [raising]

theorem ownedVendor_ends {post : Vendor × Option ProviderApplication → List Lock → Prop}
    (h : ∀ out, post out (.vendor :: held)) : ownedVendor.Ends held post := by
  simp only [ownedVendor, ends_bind, ends_lockFor, ends_raising, ends_select, ends_pure]
  exact fun _ _ _ => ⟨List.cons_ne_nil _ _, fun _ _ _ => h _⟩

theorem syncApplication_ends (call : Call) (read : Option ProviderApplication)
    {post : Unit → List Lock → Prop} (h : post () (.application :: held)) :
    (syncApplication call read).Ends held post := by
  simp only [syncApplication, ends_bind, ends_lockFor]
  intro db
  split
  · exact h
  · simp only [ends_bind, ends_select, ends_update]
    exact ⟨List.cons_ne_nil _ _, fun _ =>
      ⟨List.cons_ne_nil _ _, fun _ => ⟨List.cons_ne_nil _ _, h⟩⟩⟩

theorem syncLegacyWorkerSkills_ends (call : Call) (worker : ProviderWorker) (hheld : held ≠ [])
    {post : Unit → List Lock → Prop} (h : post () held) :
    (syncLegacyWorkerSkills call worker).Ends held post := by
  simp only [syncLegacyWorkerSkills, ends_bind, ends_select, ends_update]
  exact ⟨hheld, fun _ => ⟨hheld, h⟩⟩

theorem selectService_ends (call : Call) (vendor : Vendor) (serviceId : Uuid) (displayOrder : Nat)
    (hheld : held ≠ []) {post : ProviderService → List Lock → Prop} (h : ∀ r, post r held) :
    (selectService call vendor serviceId displayOrder).Ends held post := by
  simp only [selectService, ends_bind, ends_raising, ends_select]
  refine fun _ _ => ⟨hheld, fun db _ _ => ?_⟩
  split
  · simp only [saveService, ends_bind, ends_update, ends_pure]
    exact ⟨hheld, h _⟩
  · simp only [insertService, ends_bind, ends_select, ends_raising, ends_update, ends_pure]
    exact ⟨hheld, fun _ _ _ => ⟨hheld, h _⟩⟩

theorem selectSkill_ends (call : Call) (vendor : Vendor) (worker : ProviderWorker)
    (skillId : Uuid) (hheld : held ≠ []) {post : ProviderSkill → List Lock → Prop}
    (h : ∀ r, post r held) : (selectSkill call vendor worker skillId).Ends held post := by
  simp only [selectSkill, ends_bind, ends_raising, ends_select]
  refine fun _ _ => ⟨hheld, fun db _ _ => ?_⟩
  split
  · simp only [saveSkill, ends_bind, ends_update, ends_pure]
    exact ⟨hheld, h _⟩
  · simp only [insertSkill, ends_bind, ends_select, ends_raising, ends_update, ends_pure]
    exact ⟨hheld, fun _ _ _ => ⟨hheld, h _⟩⟩

theorem ownedApplication_ends {post : Vendor × ProviderApplication → List Lock → Prop}
    (h : ∀ out, post out (.application :: .vendor :: held)) : ownedApplication.Ends held post := by
  simp only [ownedApplication, ends_bind, ends_lockFor, ends_raising, ends_pure]
  exact fun _ _ _ _ => h _

end Locks

theorem both_held (l : Lock) : l ∈ [Lock.application, Lock.vendor] := by
  cases l <;> decide

theorem catalog_guarded (call : Call) (command : CatalogCommand) :
    (command.session call).Guarded := by
  have hvendor : [Lock.vendor] ≠ [] := List.cons_ne_nil _ _
  have hboth : [Lock.application, Lock.vendor] ≠ [] := List.cons_ne_nil _ _
  unfold Guarded
  cases command with
  | addService serviceId displayOrder =>
    simp only [CatalogCommand.session, addService, recordChange, ends_bind]
    refine ownedVendor_ends ?_
    rintro ⟨vendor, application⟩
    refine selectService_ends _ _ _ _ hvendor fun _ => syncApplication_ends _ _ ?_
    exact ⟨hboth, both_held⟩
  | updateService id command expectedVersion =>
    simp only [CatalogCommand.session, updateService, recordChange, ends_bind]
    refine ownedVendor_ends ?_
    rintro ⟨vendor, application⟩
    simp only [providerService, requireVersion, saveService, ends_bind, ends_select, ends_raising,
      ends_update]
    refine ⟨hvendor, fun _ _ _ _ _ _ _ => ⟨hvendor, syncApplication_ends _ _ ?_⟩⟩
    exact ⟨hboth, both_held⟩
  | removeService id expectedVersion =>
    simp only [CatalogCommand.session, removeService, recordChange, ends_bind]
    refine ownedVendor_ends ?_
    rintro ⟨vendor, application⟩
    simp only [providerService, requireVersion, saveService, ends_bind, ends_select, ends_raising,
      ends_check, ends_update]
    refine ⟨hvendor, fun _ _ _ _ _ _ _ => ⟨hvendor, syncApplication_ends _ _ ?_⟩⟩
    exact ⟨hboth, both_held⟩
  | addSkill skillId workerId =>
    simp only [CatalogCommand.session, addSkill, recordChange, ends_bind]
    refine ownedVendor_ends ?_
    rintro ⟨vendor, application⟩
    simp only [selectedWorker, ends_bind, ends_select, ends_raising]
    refine ⟨hvendor, fun _ _ _ => selectSkill_ends _ _ _ _ hvendor fun _ =>
      syncApplication_ends _ _ (syncLegacyWorkerSkills_ends _ _ hboth ?_)⟩
    exact ⟨hboth, both_held⟩
  | removeSkill id expectedVersion =>
    simp only [CatalogCommand.session, removeSkill, recordChange, ends_bind]
    refine ownedVendor_ends ?_
    rintro ⟨vendor, application⟩
    simp only [providerSkill, requireVersion, saveSkill, ends_bind, ends_select, ends_raising,
      ends_check, ends_update]
    refine ⟨hvendor, fun _ _ _ _ _ => ⟨hvendor, fun _ _ _ => ⟨hvendor, ?_⟩⟩⟩
    refine syncApplication_ends _ _ ?_
    split
    · exact syncLegacyWorkerSkills_ends _ _ hboth ⟨hboth, both_held⟩
    · exact ⟨hboth, both_held⟩

theorem decide_guarded (call : Call) (applicationId : Uuid) (decision : Decision)
    (reason : String) : (decideApplication call applicationId decision reason).Guarded := by
  have hheld : [Lock.vendor, Lock.application] ≠ [] := List.cons_ne_nil _ _
  simp only [Guarded, decideApplication, ends_bind, ends_lockFor, ends_raising, ends_update]
  intro _ _ _ _ _ _
  exact ⟨hheld, hheld, hheld, fun l => (List.Perm.swap ..).mem_iff.mp (both_held l)⟩

theorem session_guarded (i : Call × Command) : (session i).Guarded := by
  obtain ⟨call, command⟩ := i
  have hboth : [Lock.application, Lock.vendor] ≠ [] := List.cons_ne_nil _ _
  cases command with
  | updateOnboarding data =>
    simp only [session, updateOnboarding, Guarded, ends_bind]
    refine ownedApplication_ends ?_
    rintro ⟨vendor, application⟩
    simp only [ends_raising, ends_update]
    exact fun _ _ _ _ => ⟨hboth, both_held⟩
  | submit =>
    simp only [session, submit, Guarded, ends_bind]
    refine ownedApplication_ends ?_
    rintro ⟨vendor, application⟩
    simp only [syncCatalogSelections, ends_bind, ends_select, ends_raising, ends_pure, ends_update]
    exact fun _ _ => ⟨hboth, fun _ => ⟨hboth, fun _ _ _ => ⟨hboth, both_held⟩⟩⟩
  | approve applicationId reason => exact decide_guarded _ _ _ _
  | reject applicationId reason => exact decide_guarded _ _ _ _
  | requestInformation applicationId reason => exact decide_guarded _ _ _ _
  | catalog command => exact catalog_guarded call command

/-! ## Rows with versions -/

section Versions

variable {α κ : Type} [Keyed α κ] [DecidableEq κ] {version : α → Nat} {t u : Table α} {a c : α}

/-- Every row is kept, with a version that is no less, and `record` has one that its key did not
have before. -/
structure Advanced (version : α → Nat) (t u : Table α) (record : α) : Prop where
  kept : Table.Kept (fun a b => version a ≤ version b) t u
  found : u.get? (key record) = some record
  newer : ∀ a, t.get? (key record) = some a → version a < version record

/-- A row that is put back with a greater version. -/
theorem Advanced.put {k : κ} (hget : t.get? k = some c) (hkey : key a = key c)
    (hlt : version c < version a) : Advanced version t (t.put a) a := by
  have hfound : t.get? (key a) = some c := hkey ▸ Table.get?_found hget
  refine ⟨Table.Kept.put hfound hlt.le fun _ => le_rfl, Table.get?_put_self hfound rfl, ?_⟩
  intro b hb
  rw [hfound] at hb
  cases hb
  exact hlt

theorem Advanced.insert (hinsert : t.insert? a = some u) : Advanced version t u a := by
  refine ⟨Table.Kept.insert hinsert fun _ => le_rfl, Table.get?_insert_self hinsert, ?_⟩
  intro b hb
  exact absurd (Table.key_of_get? hb) (Table.key_fresh hinsert (Table.mem_of_get? hb))

end Versions

/-! ## Changes of selections -/

section Catalog

variable {db db' t : Db} {call : Call}

def statusOf (db : Db) : Option ProviderApplicationStatus := db.application.map (·.status)

theorem alone_raising {α : Type} (x : Except Raised α) (a : α) :
    (raising x).alone db = .ok (a, t) ↔ x = .ok a ∧ db = t := by
  rw [raising, alone_check, mapError_committed]

theorem ownedVendor_alone {out : Vendor × Option ProviderApplication}
    (h : ownedVendor.alone db = .ok (out, t)) :
    out.2 = db.application ∧ t = db ∧ statusOf db ≠ some .pending := by
  simp only [ownedVendor, alone_bind, alone_lockFor, alone_select, alone_raising, alone_pure,
    require_committed, Prod.mk.injEq] at h
  obtain ⟨_, _, ⟨_, rfl⟩, _, _, ⟨_, rfl⟩, _, _, ⟨rfl, rfl⟩, _, _, ⟨hstatus, rfl⟩, rfl, rfl⟩ := h
  exact ⟨rfl, rfl, hstatus⟩

/-- A copy that was read before is the row that is locked. -/
theorem syncApplication_alone {read : Option ProviderApplication}
    (h : (syncApplication call read).alone db = .ok ((), t)) (hread : read = db.application) :
    t = { db with application :=
      db.application.map (synced db.listProviderServices (db.listProviderSkills none)) } := by
  subst hread
  simp only [syncApplication, alone_bind, alone_lockFor, Prod.mk.injEq] at h
  obtain ⟨_, _, ⟨rfl, rfl⟩, h⟩ := h
  cases happlication : db.application with
  | none =>
    rw [happlication] at h
    obtain rfl := (Prod.mk.inj ((alone_pure _ _ _).mp h)).2
    rw [Option.map_none, ← happlication]
  | some application =>
    simp only [happlication, Option.map_some, Option.getD_some, ite_self, alone_bind, alone_select,
      alone_update, Prod.mk.injEq] at h
    obtain ⟨_, _, ⟨rfl, rfl⟩, _, _, ⟨rfl, rfl⟩, _, rfl⟩ := h
    exact Db.writeApplication_read happlication rfl

theorem recordChange_alone {action : CatalogAction} {record : Selection} {metadata : Payload}
    (h : (recordChange call action record metadata).alone db = .ok ((), t)) :
    t.application = db.application ∧ t.services = db.services ∧ t.skills = db.skills ∧
      t.events = db.events ++ [changeEvent call action record metadata] := by
  obtain ⟨_, rfl⟩ := Prod.mk.inj ((alone_update _ _ _).mp h)
  exact ⟨rfl, rfl, rfl, rfl⟩

theorem syncLegacyWorkerSkills_alone {worker : ProviderWorker}
    (h : (syncLegacyWorkerSkills call worker).alone db = .ok ((), t)) :
    ∃ workers, t = { db with workers } := by
  simp only [syncLegacyWorkerSkills, alone_bind, alone_select, alone_update, Prod.mk.injEq] at h
  obtain ⟨_, _, ⟨_, rfl⟩, _, rfl⟩ := h
  exact ⟨_, rfl⟩

def Appended (db db' : Db) (idempotencyKey : String) : Prop :=
  ∃ event, db'.events = db.events ++ [event] ∧ event.idempotencyKey = some idempotencyKey

/-- A selection that was changed, and its event. -/
inductive Recorded (db db' : Db) : Prop
  | service (action : CatalogAction) (record : ProviderService)
      (kind : action.aggregateType = "provider_service")
      (advanced : Advanced (fun r => r.version) db.services db'.services record)
      (skills : db'.skills = db.skills)
      (appended : Appended db db' (selectionKey action record.id record.version))
  | skill (action : CatalogAction) (record : ProviderSkill)
      (kind : action.aggregateType = "provider_skill")
      (advanced : Advanced (fun r => r.version) db.skills db'.skills record)
      (services : db'.services = db.services)
      (appended : Appended db db' (selectionKey action record.id record.version))

structure Changed (db db' : Db) : Prop where
  unlocked : statusOf db ≠ some .pending
  application : ∃ services skills, db'.application = db.application.map (synced services skills)
  recorded : Recorded db db'

/-- The statements after a service is flushed. -/
theorem service_changed {read : Option ProviderApplication} {services : Table ProviderService}
    {action : CatalogAction} {selection : Selection} {metadata : Payload}
    (hstatus : statusOf db ≠ some .pending) (hread : read = db.application)
    (hkind : action.aggregateType = "provider_service")
    (hrow : ∃ record : ProviderService, Advanced (fun r => r.version) db.services services record ∧
      selection = record.toSelection)
    (hsync : (syncApplication call read).alone { db with services } = .ok ((), t))
    (hrecord : (recordChange call action selection metadata).alone t = .ok ((), db')) :
    Changed db db' := by
  obtain ⟨record, hadvanced, rfl⟩ := hrow
  obtain rfl := syncApplication_alone hsync hread
  obtain ⟨happlication, hservices, hskills, hevents⟩ := recordChange_alone hrecord
  refine ⟨hstatus, ⟨_, _, happlication⟩, ?_⟩
  exact .service action record hkind (hservices ▸ hadvanced) hskills ⟨_, hevents, rfl⟩

/-- The statements after a skill is flushed; `t'` has the worker's skills as well. -/
theorem skill_changed {t' : Db} {read : Option ProviderApplication} {skills : Table ProviderSkill}
    {action : CatalogAction} {selection : Selection} {metadata : Payload}
    (hstatus : statusOf db ≠ some .pending) (hread : read = db.application)
    (hkind : action.aggregateType = "provider_skill")
    (hrow : ∃ record : ProviderSkill, Advanced (fun r => r.version) db.skills skills record ∧
      selection = record.toSelection)
    (hsync : (syncApplication call read).alone { db with skills } = .ok ((), t))
    (hfollow : ∃ workers, t' = { t with workers })
    (hrecord : (recordChange call action selection metadata).alone t' = .ok ((), db')) :
    Changed db db' := by
  obtain ⟨record, hadvanced, rfl⟩ := hrow
  obtain rfl := syncApplication_alone hsync hread
  obtain ⟨workers, rfl⟩ := hfollow
  obtain ⟨happlication, hservices, hskills, hevents⟩ := recordChange_alone hrecord
  refine ⟨hstatus, ⟨_, _, happlication⟩, ?_⟩
  exact .skill action record hkind (hskills ▸ hadvanced) hservices ⟨_, hevents, rfl⟩

theorem providerService_alone {id : Uuid} {record : ProviderService}
    (h : (providerService id).alone db = .ok (record, t)) :
    db.services.get? id = some record ∧ t = db := by
  simp only [providerService, alone_bind, alone_select, alone_raising, orRaise_committed,
    Prod.mk.injEq] at h
  obtain ⟨_, _, ⟨rfl, rfl⟩, hget, rfl⟩ := h
  exact ⟨hget, rfl⟩

theorem providerSkill_alone {id : Uuid} {record : ProviderSkill}
    (h : (providerSkill id).alone db = .ok (record, t)) :
    db.skills.get? id = some record ∧ t = db := by
  simp only [providerSkill, alone_bind, alone_select, alone_raising, orRaise_committed,
    Prod.mk.injEq] at h
  obtain ⟨_, _, ⟨rfl, rfl⟩, hget, rfl⟩ := h
  exact ⟨hget, rfl⟩

theorem selectedWorker_alone {workerId : Option Uuid} {worker : ProviderWorker}
    (h : (selectedWorker call workerId).alone db = .ok (worker, t)) : t = db := by
  simp only [selectedWorker, alone_bind, alone_select, alone_raising, Prod.mk.injEq] at h
  obtain ⟨_, _, ⟨_, rfl⟩, _, rfl⟩ := h
  rfl

theorem reselected_id (status : ApprovalStatus) (record : Selection) :
    (reselected status record).id = record.id := by
  unfold reselected
  split <;> rfl

theorem reselected_version (status : ApprovalStatus) (record : Selection) :
    (reselected status record).version = record.version := by
  unfold reselected
  split <;> rfl

theorem selectService_alone {vendor : Vendor} {serviceId : Uuid} {displayOrder : Nat}
    {record : ProviderService}
    (h : (selectService call vendor serviceId displayOrder).alone db = .ok (record, t)) :
    ∃ services, t = { db with services } ∧
      Advanced (fun r => r.version) db.services services record := by
  simp only [selectService, alone_bind, alone_select, alone_raising, Prod.mk.injEq] at h
  obtain ⟨service, _, ⟨_, rfl⟩, existing, _, ⟨hexisting, rfl⟩, _, _, ⟨_, rfl⟩, h⟩ := h
  cases existing with
  | some existing =>
    simp only [saveService, alone_bind, alone_update, alone_pure, Prod.mk.injEq] at h
    obtain ⟨_, _, ⟨_, rfl⟩, rfl, rfl⟩ := h
    have hmem : existing ∈ db.services.rows := List.mem_of_find?_eq_some hexisting
    refine ⟨_, rfl, Advanced.put (Table.get?_key hmem) ?_ ?_⟩
    · exact reselected_id _ existing.toSelection
    · exact Nat.lt_succ_of_le (reselected_version _ existing.toSelection).ge
  | none =>
    simp only [insertService, alone_bind, alone_select, alone_raising, alone_update, alone_pure,
      Prod.mk.injEq] at h
    obtain ⟨_, _, ⟨_, _, ⟨rfl, rfl⟩, services, _, ⟨hinserted, rfl⟩, _, rfl⟩, rfl, rfl⟩ := h
    refine ⟨services, by rw [hinserted]; rfl, ?_⟩
    simp only [Db.insertedService, seq_committed, require_committed, orRaise_committed] at hinserted
    obtain ⟨_, _, hinsert⟩ := hinserted
    exact Advanced.insert hinsert

theorem selectSkill_alone {vendor : Vendor} {worker : ProviderWorker} {skillId : Uuid}
    {record : ProviderSkill}
    (h : (selectSkill call vendor worker skillId).alone db = .ok (record, t)) :
    ∃ skills, t = { db with skills } ∧
      Advanced (fun r => r.version) db.skills skills record := by
  simp only [selectSkill, alone_bind, alone_select, alone_raising, Prod.mk.injEq] at h
  obtain ⟨skill, _, ⟨_, rfl⟩, existing, _, ⟨hexisting, rfl⟩, _, _, ⟨_, rfl⟩, h⟩ := h
  cases existing with
  | some existing =>
    simp only [saveSkill, alone_bind, alone_update, alone_pure, Prod.mk.injEq] at h
    obtain ⟨_, _, ⟨_, rfl⟩, rfl, rfl⟩ := h
    have hmem : existing ∈ db.skills.rows := List.mem_of_find?_eq_some hexisting
    refine ⟨_, rfl, Advanced.put (Table.get?_key hmem) ?_ ?_⟩
    · exact reselected_id _ existing.toSelection
    · exact Nat.lt_succ_of_le (reselected_version _ existing.toSelection).ge
  | none =>
    simp only [insertSkill, alone_bind, alone_select, alone_raising, alone_update, alone_pure,
      Prod.mk.injEq] at h
    obtain ⟨_, _, ⟨_, _, ⟨rfl, rfl⟩, skills, _, ⟨hinserted, rfl⟩, _, rfl⟩, rfl, rfl⟩ := h
    refine ⟨skills, by rw [hinserted]; rfl, ?_⟩
    simp only [Db.insertedSkill, seq_committed, require_committed, orRaise_committed] at hinserted
    obtain ⟨_, _, hinsert⟩ := hinserted
    exact Advanced.insert hinsert

theorem reactivated_row {vendor : Vendor} {record : ProviderService} {active : Option Bool}
    {selection : Selection} (h : reactivated call vendor record active = .ok selection) :
    selection.id = record.id ∧ selection.version = record.version := by
  unfold reactivated at h
  split at h
  · simp only [seq_committed, return_committed] at h
    obtain ⟨_, _, rfl⟩ := h
    exact ⟨reselected_id _ _, reselected_version _ _⟩
  · cases h
    exact ⟨rfl, rfl⟩
  · cases h
    exact ⟨rfl, rfl⟩

theorem catalog_changed {command : CatalogCommand}
    (h : (command.session call).alone db = .ok ((), db')) : Changed db db' := by
  cases command with
  | addService serviceId displayOrder =>
    simp only [CatalogCommand.session, addService, alone_bind, Prod.exists] at h
    obtain ⟨vendor, application, _, howned, record, _, hselect, _, _, hsync, hrecord⟩ := h
    obtain ⟨hread, rfl, hstatus⟩ := ownedVendor_alone howned
    obtain ⟨services, rfl, hadvanced⟩ := selectService_alone hselect
    exact service_changed hstatus hread rfl ⟨record, hadvanced, rfl⟩ hsync hrecord
  | updateService id command expectedVersion =>
    simp only [CatalogCommand.session, updateService, requireVersion, saveService, alone_bind,
      alone_raising, alone_update, Prod.exists, Prod.mk.injEq] at h
    obtain ⟨vendor, application, _, howned, loaded, _, hload, _, _, ⟨_, rfl⟩, selection, _,
      ⟨hselection, rfl⟩, _, _, ⟨_, rfl⟩, _, _, hsync, hrecord⟩ := h
    obtain ⟨hread, rfl, hstatus⟩ := ownedVendor_alone howned
    obtain ⟨hget, rfl⟩ := providerService_alone hload
    obtain ⟨hid, hversion⟩ := reactivated_row hselection
    refine service_changed hstatus hread rfl ?_ hsync hrecord
    exact ⟨_, Advanced.put hget hid (Nat.lt_succ_of_le hversion.ge), rfl⟩
  | removeService id expectedVersion =>
    simp only [CatalogCommand.session, removeService, requireVersion, saveService, alone_bind,
      alone_raising, alone_check, alone_update, Prod.exists, Prod.mk.injEq] at h
    obtain ⟨vendor, application, _, howned, loaded, _, hload, _, _, ⟨_, rfl⟩, _, _, ⟨_, rfl⟩, _, _,
      ⟨_, rfl⟩, _, _, hsync, hrecord⟩ := h
    obtain ⟨hread, rfl, hstatus⟩ := ownedVendor_alone howned
    obtain ⟨hget, rfl⟩ := providerService_alone hload
    refine service_changed hstatus hread rfl ?_ hsync hrecord
    exact ⟨_, Advanced.put hget rfl (Nat.lt_succ_self _), rfl⟩
  | addSkill skillId workerId =>
    simp only [CatalogCommand.session, addSkill, alone_bind, Prod.exists] at h
    obtain ⟨vendor, application, _, howned, worker, _, hworker, record, _, hselect, _, _, hsync, _,
      _, hfollow, hrecord⟩ := h
    obtain ⟨hread, rfl, hstatus⟩ := ownedVendor_alone howned
    obtain rfl := selectedWorker_alone hworker
    obtain ⟨skills, rfl, hadvanced⟩ := selectSkill_alone hselect
    exact skill_changed hstatus hread rfl ⟨record, hadvanced, rfl⟩ hsync
      (syncLegacyWorkerSkills_alone hfollow) hrecord
  | removeSkill id expectedVersion =>
    simp only [CatalogCommand.session, removeSkill, requireVersion, saveSkill, alone_bind,
      alone_select, alone_raising, alone_check, alone_update, Prod.exists, Prod.mk.injEq] at h
    obtain ⟨vendor, application, _, howned, loaded, _, hload, _, _, ⟨_, rfl⟩, worker, _, ⟨_, rfl⟩,
      _, _, ⟨_, rfl⟩, _, _, ⟨_, rfl⟩, _, _, hsync, _, _, hfollow, hrecord⟩ := h
    obtain ⟨hread, rfl, hstatus⟩ := ownedVendor_alone howned
    obtain ⟨hget, rfl⟩ := providerSkill_alone hload
    refine skill_changed hstatus hread rfl ?_ hsync ?_ hrecord
    · exact ⟨_, Advanced.put hget rfl (Nat.lt_succ_self _), rfl⟩
    · cases worker with
      | some worker => exact syncLegacyWorkerSkills_alone hfollow
      | none =>
        obtain ⟨_, rfl⟩ := Prod.mk.inj ((alone_pure _ _ _).mp hfollow)
        exact ⟨_, rfl⟩

end Catalog

/-! ## Every command -/

def Command.decision : Command → Option Decision
  | .approve _ _ => some .approve
  | .reject _ _ => some .reject
  | .requestInformation _ _ => some .requestInformation
  | _ => none

/-- The lists of the application are the active selections, in some order. -/
structure Listed (db : Db) (application : ProviderApplication) : Prop where
  services : application.services.Perm (db.activeServices.map (·.serviceId))
  skills : application.skills.Perm (db.activeSkills.map (·.skillId))

/-- The transitions of the application. -/
inductive Moved (db db' : Db) : Command → Prop
  | edited {data : ProviderOnboardingUpdate} (application : ProviderApplication)
      (read : db.application = some application) (editable : editable application)
      (status : statusOf db' = some application.status) : Moved db db' (.updateOnboarding data)
  | submitted (application complete : ProviderApplication)
      (read : db.application = some application) (editable : editable application)
      (written : db'.application = some complete) (status : complete.status = .pending)
      (listed : Listed db' complete) : Moved db db' .submit
  | decided {command : Command} (decision : Decision) (decides : command.decision = some decision)
      (pending : statusOf db = some .pending) (status : statusOf db' = some decision.target) :
      Moved db db' command
  | selected {command : CatalogCommand} (unlocked : statusOf db ≠ some .pending)
      (status : statusOf db' = statusOf db) : Moved db db' (.catalog command)

inductive Emitted (db db' : Db) : Prop
  | nothing (events : db'.events = db.events)
  | application (eventType : String) (read new : ProviderApplication)
      (kind : eventType = "provider_application_submitted" ∨
        eventType = "provider_application_decided")
      (stored : db.application = some read) (written : db'.application = some new)
      (appended : Appended db db' (applicationKey eventType new.id new.version))
  | selection (recorded : Recorded db db')

structure Wrote (db db' : Db) : Prop where
  application : ∀ a, db.application = some a →
    ∃ b, db'.application = some b ∧ b.id = a.id ∧ b.version = a.version + 1
  services : Table.Kept (fun a b => a.version ≤ b.version) db.services db'.services
  skills : Table.Kept (fun a b => a.version ≤ b.version) db.skills db'.skills
  emitted : Emitted db db'

section Onboarding

variable {db db' t : Db} {call : Call}

theorem Wrote.of_application {application new : ProviderApplication}
    (hread : db.application = some application) (hnew : db'.application = some new)
    (hid : new.id = application.id) (hversion : new.version = application.version + 1)
    (hservices : Table.Kept (fun a b => a.version ≤ b.version) db.services db'.services)
    (hskills : Table.Kept (fun a b => a.version ≤ b.version) db.skills db'.skills)
    (hemitted : Emitted db db') : Wrote db db' := by
  refine ⟨?_, hservices, hskills, hemitted⟩
  intro a ha
  rw [hread] at ha
  cases ha
  exact ⟨new, hnew, hid, hversion⟩

theorem Changed.wrote (h : Changed db db') : Wrote db db' := by
  obtain ⟨_, ⟨services, skills, happlication⟩, hrecorded⟩ := h
  have hnext : ∀ a, db.application = some a →
      ∃ b, db'.application = some b ∧ b.id = a.id ∧ b.version = a.version + 1 := by
    intro a ha
    rw [ha, Option.map_some] at happlication
    exact ⟨_, happlication, rfl, rfl⟩
  cases hrecorded with
  | service action record kind advanced skills appended =>
    exact ⟨hnext, advanced.kept, Table.Kept.of_eq skills fun _ => le_rfl,
      .selection (.service action record kind advanced skills appended)⟩
  | skill action record kind advanced services appended =>
    exact ⟨hnext, Table.Kept.of_eq services fun _ => le_rfl, advanced.kept,
      .selection (.skill action record kind advanced services appended)⟩

theorem Changed.moved {command : CatalogCommand} (h : Changed db db') :
    Moved db db' (.catalog command) := by
  obtain ⟨hunlocked, ⟨services, skills, happlication⟩, _⟩ := h
  refine .selected hunlocked ?_
  rw [statusOf, happlication, Option.map_map]
  rfl

theorem ownedApplication_alone {vendor : Vendor} {application : ProviderApplication}
    (h : ownedApplication.alone db = .ok ((vendor, application), t)) :
    db.application = some application ∧ t = db := by
  simp only [ownedApplication, alone_bind, alone_lockFor, alone_raising, alone_pure,
    orRaise_committed, Prod.mk.injEq] at h
  obtain ⟨_, _, ⟨_, rfl⟩, _, _, ⟨rfl, rfl⟩, _, _, ⟨hread, rfl⟩, ⟨_, rfl⟩, rfl⟩ := h
  exact ⟨hread, rfl⟩

theorem updateOnboarding_effect {data : ProviderOnboardingUpdate}
    (h : (updateOnboarding call data).alone db = .ok ((), db')) :
    Moved db db' (.updateOnboarding data) ∧ Wrote db db' := by
  simp only [updateOnboarding, alone_bind, alone_raising, alone_update, require_committed,
    Prod.exists, Prod.mk.injEq] at h
  obtain ⟨vendor, application, _, howned, _, _, ⟨heditable, rfl⟩, _, _, ⟨_, rfl⟩, _, rfl⟩ := h
  obtain ⟨hread, rfl⟩ := ownedApplication_alone howned
  rw [Db.writeApplication_read hread]
  swap
  · rfl
  refine ⟨.edited application hread heditable rfl, ?_⟩
  exact .of_application hread rfl rfl rfl (.of_eq rfl fun _ => le_rfl)
    (.of_eq rfl fun _ => le_rfl) (.nothing rfl)

theorem submit_effect (h : (submit call).alone db = .ok ((), db')) :
    Moved db db' .submit ∧ Wrote db db' := by
  simp only [submit, syncCatalogSelections, alone_bind, alone_raising, alone_select, alone_pure,
    alone_update, require_committed, Prod.exists, Prod.mk.injEq] at h
  obtain ⟨vendor, application, _, howned, _, _, ⟨heditable, rfl⟩, complete, _,
    ⟨_, _, ⟨rfl, rfl⟩, _, _, ⟨rfl, rfl⟩, rfl, rfl⟩, _, _, ⟨_, rfl⟩, _, rfl⟩ := h
  obtain ⟨hread, rfl⟩ := ownedApplication_alone howned
  rw [Db.writeApplication_read hread]
  swap
  · rfl
  constructor
  · refine .submitted application _ hread heditable rfl rfl ⟨?_, ?_⟩
    · exact (call.scanServices.perm _).map _
    · exact (call.scanSkills.perm _).map _
  · exact .of_application hread rfl rfl rfl (.of_eq rfl fun _ => le_rfl)
      (.of_eq rfl fun _ => le_rfl)
      (.application _ application _ (Or.inl rfl) hread rfl ⟨_, rfl, rfl⟩)

theorem approvedSelection_version (call : Call) (record : Selection) :
    record.version ≤ (approvedSelection call record).version := by
  unfold approvedSelection
  split
  · exact Nat.le_succ _
  · exact le_rfl

theorem updateRows_application (call : Call) (decision : Decision) (db : Db) :
    (updateRows call decision db).application = db.application := by
  cases decision <;> rfl

theorem updateRows_events (call : Call) (decision : Decision) (db : Db) :
    (updateRows call decision db).events = db.events := by
  cases decision <;> rfl

theorem updateRows_services (call : Call) (decision : Decision) (db : Db) :
    Table.Kept (fun a b => a.version ≤ b.version) db.services
      (updateRows call decision db).services := by
  cases decision with
  | approve =>
    exact Table.Kept.update (fun r => approvedSelection_id call r.toSelection)
      fun r => approvedSelection_version call r.toSelection
  | reject => exact .of_eq rfl fun _ => le_rfl
  | requestInformation => exact .of_eq rfl fun _ => le_rfl

theorem updateRows_skills (call : Call) (decision : Decision) (db : Db) :
    Table.Kept (fun a b => a.version ≤ b.version) db.skills
      (updateRows call decision db).skills := by
  cases decision with
  | approve =>
    exact Table.Kept.update (fun r => approvedSelection_id call r.toSelection)
      fun r => approvedSelection_version call r.toSelection
  | reject => exact .of_eq rfl fun _ => le_rfl
  | requestInformation => exact .of_eq rfl fun _ => le_rfl

theorem decide_effect {command : Command} {applicationId : Uuid} {decision : Decision}
    {reason : String} (hdecides : command.decision = some decision)
    (h : (decideApplication call applicationId decision reason).alone db = .ok ((), db')) :
    Moved db db' command ∧ Wrote db db' := by
  simp only [decideApplication, alone_bind, alone_raising, alone_lockFor, alone_update,
    require_committed, orRaise_committed, Prod.mk.injEq] at h
  obtain ⟨_, _, ⟨rfl, rfl⟩, application, _, ⟨hfound, rfl⟩, _, _, ⟨hpending, rfl⟩, vendor, _,
    ⟨_, rfl⟩, _, row, ⟨_, hrow⟩, _, _, ⟨_, rfl⟩, _, rfl⟩ := h
  have hread : db.application = some application := (Option.filter_eq_some_iff.mp hfound).1
  rw [Db.writeApplication_read hread] at hrow
  swap
  · rfl
  have happlication : row.application = some (decided call decision reason application) := by
    rw [← hrow]
  have hservices : row.services = db.services := by rw [← hrow]
  have hskills : row.skills = db.skills := by rw [← hrow]
  have hevents : row.events = db.events := by rw [← hrow]
  have hwritten := (updateRows_application call decision row).trans happlication
  constructor
  · refine .decided decision hdecides ?_ ?_
    · rw [statusOf, hread, Option.map_some, hpending]
    · exact congrArg (Option.map (·.status)) hwritten
  · refine .of_application hread hwritten rfl rfl
      (hservices ▸ updateRows_services call decision row)
      (hskills ▸ updateRows_skills call decision row) ?_
    have hstart := (updateRows_events call decision row).trans hevents
    exact .application _ application _ (Or.inr rfl) hread hwritten
      ⟨_, congrArg (· ++ [_]) hstart, rfl⟩

theorem session_effect {command : Command}
    (h : (session (call, command)).alone db = .ok ((), db')) :
    Moved db db' command ∧ Wrote db db' := by
  cases command with
  | updateOnboarding data => exact updateOnboarding_effect h
  | submit => exact submit_effect h
  | approve applicationId reason => exact decide_effect rfl h
  | reject applicationId reason => exact decide_effect rfl h
  | requestInformation applicationId reason => exact decide_effect rfl h
  | catalog command =>
    have hchanged := catalog_changed h
    exact ⟨hchanged.moved, hchanged.wrote⟩

end Onboarding

end Breero.Onboarding
