import Breero.Onboarding.Effects
import Breero.Lib.Runs
import Breero.Lib.Text

/-!
A review freezes the application.

The system runs any number of the transactions of one vendor at once, statement by statement,
under the locks that they take. The provider's lock the vendor before the application, a
decision the application before the vendor, and a change of a selection reads the application
before it locks it.

* `Terminal`, `Frozen`, `FrozenUntilDecision`, `Increasing` and `KeysDistinct` are the laws;
* `Known` are the keys that a database can have given out, and `Recorded.fresh` says that the
  next one is not among them;
* `review_freezes_application`: the laws hold in every run from a database whose application is
  a draft.
-/

namespace Breero.Onboarding
open KeyedTable Transaction Interleaving Program Runs

/-- The vendor's rows, and the transactions that are open on them. -/
abbrev Desk := World Db (Option Raised) Lock (Call × Command)

abbrev DeskOp := Op (Call × Command)

namespace Desk

abbrev step : Desk → DeskOp → Desk := exec session

/-! ## The laws -/

def Terminal (before after : Desk) : Prop :=
  ∀ status ∈ [ProviderApplicationStatus.approved, .rejected],
    statusOf before.store = some status → statusOf after.store = some status

/-- An application under review lists the active selections. -/
def Frozen (w : Desk) : Prop :=
  ∀ application, w.store.application = some application → application.status = .pending →
    Listed w.store application

/-- Under review nothing changes but by a decision. -/
def FrozenUntilDecision (w : Desk) (op : DeskOp) : Prop :=
  statusOf w.store = some .pending →
    (step w op).store = w.store ∨
      ∃ i decision, committed w op = some i ∧ i.2.decision = some decision ∧
        statusOf (step w op).store = some decision.target

/-- Nothing changes but by a commit. What is committed is what the command does alone to the rows
as they are stored then, and the application has a greater version after it. -/
def Increasing (w : Desk) (op : DeskOp) : Prop :=
  (committed w op = none → (step w op).store = w.store) ∧
    ∀ i, committed w op = some i →
      (session i).alone w.store = .ok ((), (step w op).store) ∧
      ∀ application, w.store.application = some application →
        ∃ next, (step w op).store.application = some next ∧ next.id = application.id ∧
          application.version < next.version

def KeysDistinct (w : Desk) : Prop := (w.store.events.map (·.idempotencyKey)).Nodup

/-- Nothing is open, no event was emitted, and the application was not submitted yet. -/
structure Start (w : Desk) : Prop where
  opened : w.opened = []
  events : w.store.events = []
  draft : ∀ application, w.store.application = some application → application.status = .draft

end Desk

/-! ## Keys -/

/-- The keys of the versions that the rows have or had. -/
inductive Known (db : Db) : String → Prop
  | application (eventType : String) (a : ProviderApplication) (version : Nat)
      (kind : eventType = "provider_application_submitted" ∨
        eventType = "provider_application_decided")
      (stored : db.application = some a) (le : version ≤ a.version) :
      Known db (applicationKey eventType a.id version)
  | service (action : CatalogAction) (record : ProviderService) (version : Nat)
      (kind : action.aggregateType = "provider_service")
      (stored : db.services.get? (key record) = some record) (le : version ≤ record.version) :
      Known db (selectionKey action record.id version)
  | skill (action : CatalogAction) (record : ProviderSkill) (version : Nat)
      (kind : action.aggregateType = "provider_skill")
      (stored : db.skills.get? (key record) = some record) (le : version ≤ record.version) :
      Known db (selectionKey action record.id version)

section Keys

variable {db db' : Db}

theorem empty_text : ∀ c ∈ ("" : String).toList.head?, ¬ c.isDigit := by
  simp

theorem applicationKey_inj {eventType eventType' : String} {id version id' version' : Nat}
    (hkind : eventType = "provider_application_submitted" ∨
      eventType = "provider_application_decided")
    (hkind' : eventType' = "provider_application_submitted" ∨
      eventType' = "provider_application_decided")
    (h : applicationKey eventType id version = applicationKey eventType' id' version') :
    id = id' ∧ version = version' := by
  have hcolon : ':' ∉ eventType.toList := by
    rcases hkind with rfl | rfl <;> decide
  have hcolon' : ':' ∉ eventType'.toList := by
    rcases hkind' with rfl | rfl <;> decide
  unfold applicationKey at h
  rw [← String.append_empty (s := eventType ++ _ ++ _ ++ _ ++ _),
    ← String.append_empty (s := eventType' ++ _ ++ _ ++ _ ++ _)] at h
  exact (Text.numbered_inj hcolon hcolon' empty_text empty_text h).2

theorem aggregateType_text (action : CatalogAction) : ':' ∉ action.aggregateType.toList := by
  cases action <;> decide

theorem action_text (action : CatalogAction) :
    ∀ c ∈ (":" ++ action.value).toList.head?, ¬ c.isDigit := by
  cases action <;> simp [CatalogAction.value]

theorem selectionKey_eq (action : CatalogAction) (id : Uuid) (version : Nat) :
    selectionKey action id version =
      action.aggregateType ++ ":" ++ toString id ++ ":" ++ toString version ++
        (":" ++ action.value) :=
  String.append_assoc

theorem selectionKey_inj {action action' : CatalogAction} {id version id' version' : Nat}
    (h : selectionKey action id version = selectionKey action' id' version') :
    action.aggregateType = action'.aggregateType ∧ id = id' ∧ version = version' := by
  rw [selectionKey_eq, selectionKey_eq] at h
  exact Text.numbered_inj (aggregateType_text action) (aggregateType_text action')
    (action_text action) (action_text action') h

/-- The two kinds of keys have different names. -/
theorem applicationKey_ne {eventType : String} {action : CatalogAction}
    {id version id' version' : Nat}
    (hkind : eventType = "provider_application_submitted" ∨
      eventType = "provider_application_decided") :
    applicationKey eventType id version ≠ selectionKey action id' version' := by
  intro h
  have hcolon : ':' ∉ eventType.toList := by
    rcases hkind with rfl | rfl <;> decide
  rw [selectionKey_eq, applicationKey,
    ← String.append_empty (s := eventType ++ _ ++ _ ++ _ ++ _)] at h
  have hname := (Text.numbered_inj hcolon (aggregateType_text action) empty_text
    (action_text action) h).1
  rcases hkind with rfl | rfl <;> cases action <;> exact absurd hname (by decide)

theorem Known.grow {text : String} (h : Known db text) (hwrote : Wrote db db') :
    Known db' text := by
  cases h with
  | application eventType a version kind stored le =>
    obtain ⟨b, hb, hid, hversion⟩ := hwrote.application a stored
    rw [← hid]
    exact .application eventType b version kind hb (by omega)
  | service action record version kind stored le =>
    obtain ⟨r, hr, hle⟩ := hwrote.services.get? stored
    have hid : r.id = record.id := Table.key_of_get? hr
    rw [← hid]
    exact .service action r version kind (Table.get?_found hr) (le.trans hle)
  | skill action record version kind stored le =>
    obtain ⟨r, hr, hle⟩ := hwrote.skills.get? stored
    have hid : r.id = record.id := Table.key_of_get? hr
    rw [← hid]
    exact .skill action r version kind (Table.get?_found hr) (le.trans hle)

/-- The key of an event that is appended, which was not known and is known after it. -/
structure FreshKey (db db' : Db) (text : String) : Prop where
  unknown : ¬ Known db text
  known : Known db' text

theorem application_fresh {eventType : String} {read new : ProviderApplication}
    (hwrote : Wrote db db')
    (hkind : eventType = "provider_application_submitted" ∨
      eventType = "provider_application_decided")
    (hstored : db.application = some read) (hwritten : db'.application = some new) :
    FreshKey db db' (applicationKey eventType new.id new.version) := by
  refine ⟨?_, .application eventType new new.version hkind hwritten le_rfl⟩
  obtain ⟨b, hb, hid, hversion⟩ := hwrote.application read hstored
  rw [hwritten] at hb
  cases hb
  intro hknown
  generalize htext : applicationKey eventType new.id new.version = text at hknown
  cases hknown with
  | application other a version kind stored le =>
    rw [hstored] at stored
    cases stored
    have hsame := (applicationKey_inj hkind kind htext).2
    omega
  | service action record version kind stored le => exact applicationKey_ne hkind htext
  | skill action record version kind stored le => exact applicationKey_ne hkind htext

theorem Recorded.fresh (h : Recorded db db') :
    ∃ text, Appended db db' text ∧ FreshKey db db' text := by
  cases h with
  | service action record kind advanced skills appended =>
    refine ⟨_, appended, ?_, .service action record _ kind advanced.found le_rfl⟩
    intro hknown
    generalize htext : selectionKey action record.id record.version = text at hknown
    cases hknown with
    | application other a version kind stored le => exact applicationKey_ne kind htext.symm
    | service other r version kind stored le =>
      obtain ⟨_, hid, hversion⟩ := selectionKey_inj htext
      have hkey : key r = key record := hid.symm
      have hlt := advanced.newer r (hkey ▸ stored)
      omega
    | skill other r version other_kind stored le =>
      have hnames := (selectionKey_inj htext).1
      rw [kind, other_kind] at hnames
      exact absurd hnames (by decide)
  | skill action record kind advanced services appended =>
    refine ⟨_, appended, ?_, .skill action record _ kind advanced.found le_rfl⟩
    intro hknown
    generalize htext : selectionKey action record.id record.version = text at hknown
    cases hknown with
    | application other a version kind stored le => exact applicationKey_ne kind htext.symm
    | service other r version other_kind stored le =>
      have hnames := (selectionKey_inj htext).1
      rw [kind, other_kind] at hnames
      exact absurd hnames (by decide)
    | skill other r version kind stored le =>
      obtain ⟨_, hid, hversion⟩ := selectionKey_inj htext
      have hkey : key r = key record := hid.symm
      have hlt := advanced.newer r (hkey ▸ stored)
      omega

/-- Every event has a known key, and no two have the same. -/
structure KeysSound (db : Db) : Prop where
  known : ∀ event ∈ db.events, ∃ text, event.idempotencyKey = some text ∧ Known db text
  nodup : (db.events.map (·.idempotencyKey)).Nodup

theorem KeysSound.append {text : String} (h : KeysSound db) (hwrote : Wrote db db')
    (happended : Appended db db' text) (hfresh : FreshKey db db' text) : KeysSound db' := by
  obtain ⟨event, hevents, htext⟩ := happended
  constructor
  · rw [hevents, List.forall_mem_append, List.forall_mem_singleton]
    refine ⟨fun other hother => ?_, text, htext, hfresh.known⟩
    obtain ⟨known, hknown, hold⟩ := h.known other hother
    exact ⟨known, hknown, hold.grow hwrote⟩
  · rw [hevents, List.map_append, List.map_singleton, htext]
    refine List.nodup_append.mpr ⟨h.nodup, List.nodup_singleton _, ?_⟩
    intro first hfirst second hsecond heq
    rw [List.mem_singleton] at hsecond
    subst hsecond heq
    obtain ⟨other, hother, hsame⟩ := List.mem_map.mp hfirst
    obtain ⟨known, hknown, hold⟩ := h.known other hother
    rw [hsame] at hknown
    cases hknown
    exact hfresh.unknown hold

theorem KeysSound.wrote (h : KeysSound db) (hwrote : Wrote db db') : KeysSound db' := by
  cases hwrote.emitted with
  | nothing events =>
    constructor
    · rw [events]
      intro event hevent
      obtain ⟨text, htext, hknown⟩ := h.known event hevent
      exact ⟨text, htext, hknown.grow hwrote⟩
    · rw [events]
      exact h.nodup
  | application eventType read new kind stored written appended =>
    exact h.append hwrote appended (application_fresh hwrote kind stored written)
  | selection recorded =>
    obtain ⟨text, happended, hfresh⟩ := recorded.fresh
    exact h.append hwrote happended hfresh

end Keys

/-! ## Status and lists -/

section Moves

variable {db db' : Db} {command : Command}

theorem target_ne_pending (decision : Decision) : decision.target ≠ .pending := by
  cases decision <;> decide

theorem editable_ne {application : ProviderApplication} (h : editable application) :
    application.status ≠ .pending ∧ application.status ≠ .approved ∧
      application.status ≠ .rejected := by
  rcases h with h | h <;> rw [h] <;> decide

theorem Moved.terminal (h : Moved db db' command) {status : ProviderApplicationStatus}
    (hfinal : status ∈ [ProviderApplicationStatus.approved, .rejected])
    (hstatus : statusOf db = some status) : statusOf db' = some status := by
  have hclosed : ∀ application, db.application = some application →
      ¬ editable application := by
    intro application hread heditable
    rw [statusOf, hread, Option.map_some, Option.some_inj] at hstatus
    obtain ⟨_, happroved, hrejected⟩ := editable_ne heditable
    simp only [List.mem_cons, List.not_mem_nil, or_false] at hfinal
    rcases hfinal with rfl | rfl
    · exact happroved hstatus
    · exact hrejected hstatus
  cases h with
  | edited application read editable status => exact absurd editable (hclosed application read)
  | submitted application complete read editable written status listed =>
    exact absurd editable (hclosed application read)
  | decided decision decides pending target =>
    rw [pending, Option.some_inj] at hstatus
    subst hstatus
    exact absurd hfinal (by decide)
  | selected unlocked same => rw [same, hstatus]

/-- What is under review afterwards was submitted by the command. -/
theorem Moved.listed (h : Moved db db' command) {application : ProviderApplication}
    (hwritten : db'.application = some application) (hpending : application.status = .pending) :
    Listed db' application := by
  have hstatus : statusOf db' = some .pending := by
    rw [statusOf, hwritten, Option.map_some, hpending]
  cases h with
  | edited read stored editable status =>
    rw [status, Option.some_inj] at hstatus
    exact absurd hstatus (editable_ne editable).1
  | submitted read complete stored editable written status listed =>
    rw [written] at hwritten
    cases hwritten
    exact listed
  | decided decision decides pending target =>
    rw [target, Option.some_inj] at hstatus
    exact absurd hstatus (target_ne_pending decision)
  | selected unlocked same => exact absurd (same.symm.trans hstatus) unlocked

/-- Under review only a decision commits. -/
theorem Moved.decides (h : Moved db db' command) (hpending : statusOf db = some .pending) :
    ∃ decision, command.decision = some decision ∧ statusOf db' = some decision.target := by
  have hclosed : ∀ application, db.application = some application →
      ¬ editable application := by
    intro application hread heditable
    rw [statusOf, hread, Option.map_some, Option.some_inj] at hpending
    exact (editable_ne heditable).1 hpending
  cases h with
  | edited application read editable status => exact absurd editable (hclosed application read)
  | submitted application complete read editable written status listed =>
    exact absurd editable (hclosed application read)
  | decided decision decides pending target => exact ⟨decision, decides, target⟩
  | selected unlocked same => exact absurd hpending unlocked

end Moves

/-! ## Runs -/

namespace Desk

structure Sound (w : Desk) : Prop where
  coherent : Coherent session w
  frozen : Frozen w
  keys : KeysSound w.store

variable {w : Desk}

/-- What a step does to the rows: nothing, or what a command does alone. -/
theorem step_effect (h : Coherent session w) (op : DeskOp) :
    (committed w op = none ∧ (step w op).store = w.store) ∨
      ∃ i, committed w op = some i ∧
        (session i).alone w.store = .ok ((), (step w op).store) ∧
        Moved w.store (step w op).store i.2 ∧ Wrote w.store (step w op).store := by
  cases hcommits : committed w op with
  | none => exact Or.inl ⟨rfl, exec_uncommitted hcommits⟩
  | some i =>
    have halone := exec_committed h hcommits
    exact Or.inr ⟨i, rfl, halone, session_effect halone⟩

theorem Start.sound (h : Start w) : Sound w := by
  obtain ⟨store, opened⟩ := w
  obtain rfl := h.opened
  refine ⟨coherent_start store, ?_, ?_, ?_⟩
  · intro application hread hpending
    rw [h.draft application hread] at hpending
    cases hpending
  · intro event hevent
    rw [h.events] at hevent
    cases hevent
  · rw [h.events]
    exact List.nodup_nil

theorem step_sound (h : Sound w) (op : DeskOp) : Sound (step w op) := by
  have hcoherent := exec_coherent session_guarded h.coherent op
  rcases step_effect h.coherent op with ⟨_, hstore⟩ | ⟨i, _, _, hmoved, hwrote⟩
  · refine ⟨hcoherent, ?_, ?_⟩
    · unfold Frozen
      rw [hstore]
      exact h.frozen
    · rw [hstore]
      exact h.keys
  · exact ⟨hcoherent, fun application hread hpending => hmoved.listed hread hpending,
      h.keys.wrote hwrote⟩

theorem step_terminal (h : Sound w) (op : DeskOp) : Terminal w (step w op) := by
  intro status hfinal hstatus
  rcases step_effect h.coherent op with ⟨_, hstore⟩ | ⟨i, _, _, hmoved, _⟩
  · rw [hstore]
    exact hstatus
  · exact hmoved.terminal hfinal hstatus

theorem step_frozen (h : Sound w) (op : DeskOp) : FrozenUntilDecision w op := by
  intro hpending
  rcases step_effect h.coherent op with ⟨_, hstore⟩ | ⟨i, hcommits, _, hmoved, _⟩
  · exact Or.inl hstore
  · obtain ⟨decision, hdecides, htarget⟩ := hmoved.decides hpending
    exact Or.inr ⟨i, decision, hcommits, hdecides, htarget⟩

theorem step_increasing (h : Sound w) (op : DeskOp) : Increasing w op := by
  rcases step_effect h.coherent op with ⟨hnone, hstore⟩ | ⟨i, hcommits, halone, _, hwrote⟩
  · refine ⟨fun _ => hstore, fun i hi => ?_⟩
    rw [hnone] at hi
    cases hi
  · refine ⟨fun hnone => ?_, fun j hj => ?_⟩
    · rw [hnone] at hcommits
      cases hcommits
    · rw [hcommits] at hj
      cases hj
      refine ⟨halone, fun application hread => ?_⟩
      obtain ⟨next, hnext, hid, hversion⟩ := hwrote.application application hread
      exact ⟨next, hnext, hid, by omega⟩

/-- In every run from a draft, whatever the transactions do in between, a decided application
stays decided, one under review lists the active selections and changes by a decision only, every
commit takes the next version, and no two events have the same key. -/
theorem review_freezes_application (w : Desk) (hstart : Start w) (ops : List DeskOp) :
    (states step w ops).Pairwise Terminal ∧ Always step Frozen w ops ∧
      Along step FrozenUntilDecision w ops ∧ Along step Increasing w ops ∧
      Always step KeysDistinct w ops := by
  have hsound := hstart.sound
  have hall : Along step (fun _ _ => True) w ops := along_of_forall fun _ _ => trivial
  have hinv : ∀ w op, Sound w → True → Sound (step w op) := fun _ op h _ => step_sound h op
  have halways : Always step Sound w ops := always_of_inv hinv hsound hall
  refine ⟨?_, ?_, ?_, ?_, ?_⟩
  · refine pairwise_of_step (fun _ _ _ h => h) ?_ hinv (fun _ op h _ => step_terminal h op)
      hsound hall
    exact fun _ _ _ hst htu status hfinal h => htu status hfinal (hst status hfinal h)
  · exact halways.imp fun _ h => h.frozen
  · exact Along.imp hinv (fun _ op h _ => step_frozen h op) hsound hall
  · exact Along.imp hinv (fun _ op h _ => step_increasing h op) hsound hall
  · exact halways.imp fun _ h => h.keys.nodup

/-! ### A run -/

def startDesk : Desk where
  store := {
    vendor := { id := 1, status := .pending }
    application := some {
      id := 2
      identity := .dict [("full_name", .str "Ada")]
      business := .dict [("legal_name", .str "Ada LLC")]
      contactDetails := .dict [("phone", .str "555-0100")]
      serviceAreas := .dicts [[("city", .str "Austin")]]
      postalCodes := .texts ["78701"]
      availability := .dict [("monday", .str "09:00-17:00")]
      capacity := .dict [("daily", .int 4)]
      licenses := .dicts [[("number", .str "L-1")]]
      insurance := .dicts [[("policy", .str "P-1")]]
      complianceDocuments := .uuids [3] }
    workers := ⟨[{ id := 4, vendorId := 1, status := .invited, userId := some 5, createdAt := 0 }],
      by decide⟩ }

def providerCall (recordId : Uuid) : Call := {
  userId := 5
  now := 10
  recordId
  catalog := {
    services := ⟨[{ id := 6 }], by decide⟩
    skills := ⟨[{ id := 7, key := "plumbing" }], by decide⟩ } }

def reviewerCall : Call := { userId := 8, now := 20 }

/-- A service and a skill are selected and the application is submitted; then the approval has the
application, and waits for the vendor, while the removal of the service has the vendor, reads the
application under review and is left. -/
def reviewOps : List DeskOp :=
  .begin (providerCall 9, .catalog (.addService 6 0)) :: List.replicate 11 (.advance 0) ++
    .begin (providerCall 11, .catalog (.addSkill 7 none)) :: List.replicate 14 (.advance 0) ++
    .begin (providerCall 0, .submit) :: List.replicate 6 (.advance 0) ++
    [.begin (reviewerCall, .approve 2 "complete"),
      .begin (providerCall 0, .catalog (.removeService 9 1)),
      .advance 0, .advance 0, .advance 0, .advance 1, .advance 1] ++
    List.replicate 5 (.advance 0)

theorem review_approved :
    statusOf (run step startDesk reviewOps).store = some .approved ∧
      (states step startDesk reviewOps).Pairwise Terminal ∧
      Always step Frozen startDesk reviewOps ∧
      Along step FrozenUntilDecision startDesk reviewOps ∧
      Along step Increasing startDesk reviewOps ∧
      Always step KeysDistinct startDesk reviewOps := by
  refine ⟨by decide +kernel, review_freezes_application startDesk ⟨rfl, rfl, ?_⟩ reviewOps⟩
  rintro application ⟨⟩
  rfl

end Desk

end Breero.Onboarding
