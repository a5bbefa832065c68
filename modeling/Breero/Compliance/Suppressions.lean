import Breero.Compliance.Service
import Breero.Lib.Overrides

/-!
Which messages are suppressed, after any calls.

* `decisions` is what a call decides about messages to a destination, and `decided` what the
  calls of a run decide that are carried out;
* `suppressed_eq`: a message is suppressed iff the last decision about it withdrew it;
* `Consented`: what the rows have to do with the recorded consent, and `consent_respected`.
-/

namespace Breero.Compliance
open KeyedTable Transaction Runs Overrides

/-! ## Rows -/

def standingIn (rows : Table Suppression) (subject : Subject) : Option Bool :=
  (rows.get? subject).map (·.active)

/-- Whether the row of the subject is active, if it has one. -/
def standing (db : Db) : Subject → Option Bool := standingIn db.suppressions

def isSuppressed (db : Db) : Subject → Bool := (·.getD false) ∘ standing db

theorem standingIn_put {rows : Table Suppression} {old : Suppression} (item : Suppression)
    (hold : rows.get? (key item) = some old) :
    standingIn (rows.put item) = Function.update (standingIn rows) (key item) item.active := by
  funext subject
  unfold standingIn
  by_cases hsubject : subject = key item
  · rw [hsubject, Function.update_self, Table.get?_put_self hold rfl]
    rfl
  · rw [Function.update_of_ne hsubject, Table.get?_put_ne (Ne.symm hsubject)]

theorem standingIn_insert {rows rows' : Table Suppression} {item : Suppression}
    (hinsert : rows.insert? item = some rows') :
    standingIn rows' = Function.update (standingIn rows) (key item) item.active := by
  funext subject
  unfold standingIn
  by_cases hsubject : subject = key item
  · rw [hsubject, Function.update_self, Table.get?_insert_self hinsert]
    rfl
  · rw [Function.update_of_ne hsubject, Table.get?_insert_ne hinsert (Ne.symm hsubject)]

theorem standing_suppress (db : Db) (hashed : String) (channel : Channel) (purpose : Purpose)
    (reason source : String) :
    standing (suppress db hashed channel purpose reason source) =
      Function.update (standing db) (hashed, channel, purpose) (some true) := by
  unfold standing suppress
  cases hget : db.suppressions.get? (hashed, channel, purpose) with
  | none =>
    let item : Suppression := { destinationHash := hashed, channel, purpose, reason, source }
    obtain ⟨rows, hrows⟩ := Table.insert?_fresh (a := item) hget
    simp only [item] at hrows
    simp only [hrows, Option.getD_some]
    exact standingIn_insert hrows
  | some item =>
    have hkey := Table.key_of_get? hget
    have hput := standingIn_put { item with active := true, reason, source } (hkey.symm ▸ hget)
    exact hput.trans (congrArg (Function.update _ · _) hkey)

theorem standing_reactivate (db : Db) (hashed : String) (channel : Channel)
    (purpose : Purpose) :
    standing (reactivate db hashed channel purpose) =
      Function.update (standing db) (hashed, channel, purpose)
        ((standing db (hashed, channel, purpose)).map fun _ => false) := by
  have hsame (before : Option Bool) (hbefore : standing db (hashed, channel, purpose) = before)
      (hfalse : before.map (fun _ => false) = before) :
      standing db = Function.update (standing db) (hashed, channel, purpose)
        ((standing db (hashed, channel, purpose)).map fun _ => false) := by
    rw [hbefore, hfalse, ← hbefore, Function.update_eq_self]
  unfold reactivate
  cases hget : db.suppressions.get? (hashed, channel, purpose) with
  | none => exact hsame none (by simp [standing, standingIn, hget]) rfl
  | some item =>
    cases hactive : item.active with
    | false =>
      simp only [hactive]
      exact hsame (some false) (by simp [standing, standingIn, hget, hactive]) rfl
    | true =>
      have hkey := Table.key_of_get? hget
      have hput := standingIn_put { item with active := false } (hkey.symm ▸ hget)
      have hbefore : standing db (hashed, channel, purpose) = some true := by
        simp [standing, standingIn, hget, hactive]
      simp only [hactive, if_true, hbefore, Option.map_some]
      exact hput.trans (congrArg (Function.update _ · _) hkey)

theorem isSuppressed_suppress (db : Db) (hashed : String) (channel : Channel) (purpose : Purpose)
    (reason source : String) :
    isSuppressed (suppress db hashed channel purpose reason source) =
      Function.update (isSuppressed db) (hashed, channel, purpose) true := by
  rw [isSuppressed, standing_suppress, Function.comp_update]
  rfl

theorem isSuppressed_reactivate (db : Db) (hashed : String) (channel : Channel)
    (purpose : Purpose) :
    isSuppressed (reactivate db hashed channel purpose) =
      Function.update (isSuppressed db) (hashed, channel, purpose) false := by
  rw [isSuppressed, standing_reactivate, Function.comp_update]
  cases standing db (hashed, channel, purpose) <;> rfl

/-! ## Decisions -/

/-- Whether messages are to be suppressed from now on. -/
abbrev Decision := Subject × Bool

def preferenceOf (env : Env) (data : CommunicationPreferenceCreate) (value : Purpose × Bool) :
    Decision :=
  ((digest env data.destination, data.channel, value.1), !value.2)

def optOutOf (env : Env) (email : String) (purpose : Purpose) : Decision :=
  ((digest env email, .all, purpose), true)

def decisions (env : Env) : Call → List Decision
  | .privacyRequest data .. =>
    if optsOut data then optOutPurposes.map (optOutOf env data.email) else []
  | .preferences data .. => data.applicable.map (preferenceOf env data)
  | .smsRevocation data => [((digest env data.phone, .sms, .marketingSms), true)]

/-- The call is answered with 202 or 204. -/
def accepted (env : Env) (db : Db) : Call → Bool
  | .privacyRequest data sourceIp userAgent id token now =>
    data.valid && (privacyRequest env db data sourceIp userAgent id token now).isOk
  | .preferences data sourceIp userAgent now =>
    data.valid && (preferences env db data sourceIp userAgent now).isOk
  | .smsRevocation data => data.valid && (smsRevocation env db data).isOk

def decidedBy (env : Env) (db : Db) (call : Call) : List Decision :=
  if accepted env db call then decisions env call else []

def decided (env : Env) (db : Db) : List Call → List Decision
  | [] => []
  | call :: calls => decidedBy env db call ++ decided env (exec env db call) calls

/-! ## Calls -/

theorem isSuppressed_foldl (env : Env) (email reason source : String) (db : Db)
    (purposes : List Purpose) :
    isSuppressed (purposes.foldl
        (fun db purpose => suppress db (digest env email) .all purpose reason source) db) =
      assign (isSuppressed db) (purposes.map (optOutOf env email)) := by
  induction purposes generalizing db with
  | nil => rfl
  | cons purpose purposes ih =>
    rw [List.foldl_cons, ih, isSuppressed_suppress]
    rfl

theorem isSuppressed_prefer (env : Env) (data : CommunicationPreferenceCreate)
    (sourceIp : String) (userAgent : Option String) (now : Instant) (db : Db)
    (value : Purpose × Bool) :
    isSuppressed (prefer env data sourceIp userAgent now db value) =
      Function.update (isSuppressed db) (preferenceOf env data value).1
        (preferenceOf env data value).2 := by
  obtain ⟨purpose, granted⟩ := value
  cases granted with
  | true => exact isSuppressed_reactivate ..
  | false => exact isSuppressed_suppress ..

theorem isSuppressed_preferences (env : Env) (data : CommunicationPreferenceCreate)
    (sourceIp : String) (userAgent : Option String) (now : Instant) (db : Db)
    (values : List (Purpose × Bool)) :
    isSuppressed (values.foldl (prefer env data sourceIp userAgent now) db) =
      assign (isSuppressed db) (values.map (preferenceOf env data)) := by
  induction values generalizing db with
  | nil => rfl
  | cons value values ih =>
    rw [List.foldl_cons, ih, isSuppressed_prefer]
    rfl

/-- The suppressions that an accepted privacy request asks for. -/
def optOuts (env : Env) (db : Db) (data : PrivacyRequestCreate) : Db :=
  if optsOut data then
    optOutPurposes.foldl (fun db purpose => suppress db (digest env data.email) .all purpose
      "PRIVACY_OPT_OUT" (if data.gpc then "GPC" else "PRIVACY_REQUEST")) db
  else db

theorem isSuppressed_optOuts (env : Env) (db : Db) (data : PrivacyRequestCreate) :
    isSuppressed (optOuts env db data) = assign (isSuppressed db)
      (if optsOut data then optOutPurposes.map (optOutOf env data.email) else []) := by
  unfold optOuts
  split
  · exact isSuppressed_foldl ..
  · rfl

theorem privacyRequest_ok {env : Env} {db db' : Db} {data : PrivacyRequestCreate}
    {sourceIp : String} {userAgent : Option String} {id : Uuid} {token : String} {now : Instant}
    {item : PrivacyRequest}
    (h : privacyRequest env db data sourceIp userAgent id token now = .ok (db', item)) :
    db'.consents = (optOuts env db data).consents ∧
      db'.suppressions = (optOuts env db data).suppressions := by
  simp only [privacyRequest, seq_committed, require_committed, orRaise_committed,
    return_committed, Prod.mk.injEq] at h
  obtain ⟨_, _, requests, _, hdb, _⟩ := h
  subst hdb
  unfold optOuts
  cases optsOut data <;> exact ⟨rfl, rfl⟩

theorem isSuppressed_congr {db db' : Db} (h : db'.suppressions = db.suppressions) :
    isSuppressed db' = isSuppressed db := by
  rw [isSuppressed, isSuppressed, standing, standing, h]

theorem preferences_ok {env : Env} {db db' : Db} {data : CommunicationPreferenceCreate}
    {sourceIp : String} {userAgent : Option String} {now : Instant} {active : Bool}
    (h : preferences env db data sourceIp userAgent now = .ok (db', active)) :
    db' = data.applicable.foldl (prefer env data sourceIp userAgent now) db := by
  simp only [preferences, seq_committed, require_committed, return_committed, Prod.mk.injEq] at h
  obtain ⟨_, _, hdb, _⟩ := h
  exact hdb.symm

theorem smsRevocation_ok {env : Env} {db db' : Db} {data : SmsRevocation} {u : Unit}
    (h : smsRevocation env db data = .ok (db', u)) :
    db' = suppress db (digest env data.phone) .sms .marketingSms "RECIPIENT_REVOCATION"
      "SMS_INBOUND" := by
  simp only [smsRevocation, seq_committed, require_committed, return_committed,
    Prod.mk.injEq] at h
  obtain ⟨_, _, hdb, _⟩ := h
  exact hdb.symm

theorem isSuppressed_commit {α : Type} {db : Db} {valid : Bool} {r : Except Raised (Db × α)}
    {made : List Decision}
    (h : ∀ db' a, r = .ok (db', a) → isSuppressed db' = assign (isSuppressed db) made) :
    isSuppressed (if valid then commit db r else db) =
      assign (isSuppressed db) (if valid && r.isOk then made else []) := by
  cases valid with
  | false => rfl
  | true =>
    cases r with
    | error e => rfl
    | ok result => exact h result.1 result.2 rfl

/-- A call changes who is suppressed by what it decides, in that order. -/
theorem isSuppressed_exec (env : Env) (db : Db) (call : Call) :
    isSuppressed (exec env db call) = assign (isSuppressed db) (decidedBy env db call) := by
  cases call with
  | privacyRequest data sourceIp userAgent id token now =>
    refine isSuppressed_commit fun db' item hcall => ?_
    rw [isSuppressed_congr (privacyRequest_ok hcall).2, isSuppressed_optOuts]
    rfl
  | preferences data sourceIp userAgent now =>
    refine isSuppressed_commit fun db' active hcall => ?_
    rw [preferences_ok hcall, isSuppressed_preferences]
    rfl
  | smsRevocation data =>
    refine isSuppressed_commit fun db' u hcall => ?_
    rw [smsRevocation_ok hcall, isSuppressed_suppress]
    rfl

theorem isSuppressed_run (env : Env) (db : Db) (calls : List Call) :
    isSuppressed (run (exec env) db calls) = assign (isSuppressed db) (decided env db calls) := by
  induction calls generalizing db with
  | nil => rfl
  | cons call calls ih =>
    rw [decided, assign_append, ← isSuppressed_exec]
    exact ih (exec env db call)

/-- After any calls a message is suppressed iff the last decision about it withdrew it. -/
theorem suppressed_eq (env : Env) (db : Db) (calls : List Call) (subject : Subject) :
    isSuppressed (run (exec env) db calls) subject =
      (lastOf (decided env db calls) subject).getD (isSuppressed db subject) := by
  rw [isSuppressed_run, assign_apply]

/-! ## Opting out -/

/-- What a call decides about all channels is never that messages may be sent again. -/
theorem decisions_all {env : Env} {call : Call} {hashed : String} {purpose : Purpose}
    {withdrawn : Bool} (h : ((hashed, .all, purpose), withdrawn) ∈ decisions env call) :
    withdrawn = true := by
  cases call with
  | privacyRequest data sourceIp userAgent id token now =>
    simp only [decisions] at h
    split at h
    · obtain ⟨_, _, heq⟩ := List.mem_map.mp h
      exact (Prod.mk.inj heq).2.symm
    · cases h
  | preferences data sourceIp userAgent now =>
    obtain ⟨value, _, heq⟩ := List.mem_map.mp h
    have hchannel : data.channel = .all := congrArg (·.1.2.1) heq
    unfold CommunicationPreferenceCreate.channel at hchannel
    split at hchannel <;> cases hchannel
  | smsRevocation data =>
    have heq := List.mem_singleton.mp h
    exact (Prod.mk.inj heq).2

theorem decided_all {env : Env} {db : Db} {calls : List Call} {hashed : String}
    {purpose : Purpose} {withdrawn : Bool}
    (h : ((hashed, .all, purpose), withdrawn) ∈ decided env db calls) : withdrawn = true := by
  induction calls generalizing db with
  | nil => cases h
  | cons call calls ih =>
    rcases List.mem_append.mp h with hmade | hlater
    · unfold decidedBy at hmade
      split at hmade
      · exact decisions_all hmade
      · cases hmade
    · exact ih hlater

theorem decided_cons_of_accepted {env : Env} {db : Db} {call : Call} (h : accepted env db call)
    (calls : List Call) :
    decided env db (call :: calls) =
      decisions env call ++ decided env (exec env db call) calls := by
  rw [decided, decidedBy, if_pos h]

/-- Whoever opted out once stays opted out, whatever is called afterwards. -/
theorem optedOut_stays (env : Env) (db : Db) (data : PrivacyRequestCreate) (sourceIp : String)
    (userAgent : Option String) (id : Uuid) (token : String) (now : Instant)
    (haccepted : accepted env db (.privacyRequest data sourceIp userAgent id token now))
    (hopts : optsOut data) (calls : List Call) (purpose : Purpose)
    (hpurpose : purpose ∈ optOutPurposes) :
    isSuppressed
      (run (exec env) db (.privacyRequest data sourceIp userAgent id token now :: calls))
      (digest env data.email, .all, purpose) = true := by
  rw [isSuppressed_run, assign_apply]
  have hmem : optOutOf env data.email purpose ∈
      decided env db (.privacyRequest data sourceIp userAgent id token now :: calls) := by
    rw [decided_cons_of_accepted haccepted, decisions, if_pos hopts]
    exact List.mem_append_left _ (List.mem_map_of_mem hpurpose)
  obtain ⟨withdrawn, hlast⟩ := lastOf_of_mem hmem
  rw [optOutOf] at hlast
  rw [hlast, decided_all (mem_of_lastOf hlast)]
  rfl

def plainEnv : Env :=
  { sha256 := fun value => "sha256:" ++ value
    isoformat := fun _ => "2026-01-01T00:00:00+00:00" }

/-- A browser's signal, sent along with a question of another kind. -/
def gpcRequest : PrivacyRequestCreate :=
  { requestType := .access, email := "Ada@example.org", gpc := true }

/-- All messages by email are wanted. -/
def wanted : CommunicationPreferenceCreate :=
  { destination := "ada@example.org", transactionalEmail := true, marketingEmail := true
    sourceUrl := "https://breero.com/preferences", disclosureText := "Messages from BREERO."
    policyVersions := [("privacy", "2026-01")] }

theorem gpcRequest_stays :
    isSuppressed
      (run (exec plainEnv) {} [.privacyRequest gpcRequest "192.0.2.7" none 1 "token" 0,
        .preferences wanted "192.0.2.7" none 1])
      (digest plainEnv gpcRequest.email, .all, .saleSharing) = true :=
  optedOut_stays plainEnv {} gpcRequest "192.0.2.7" none 1 "token" 0 (by decide) (by decide)
    [.preferences wanted "192.0.2.7" none 1] .saleSharing (by decide)

/-! ## Consent -/

def Purpose.channel : Purpose → Channel
  | transactionalEmail | marketingEmail => .email
  | transactionalSms | marketingSms => .sms
  | saleSharing | targetedAdvertising | nonessentialTracking => .all

/-- What the last recorded event about the destination and the purpose says. -/
def lastConsent (db : Db) : String × Purpose → Option Bool :=
  lastOf (db.consents.map fun event => ((event.destinationHash, event.purpose), event.granted))

structure Consented (db : Db) : Prop where
  /-- A row has the channel of its purpose. -/
  filed : ∀ hashed channel purpose, standing db (hashed, channel, purpose) ≠ none →
    channel = purpose.channel
  /-- A suppression is lifted only where the last event grants the purpose. -/
  lifted : ∀ hashed channel purpose, standing db (hashed, channel, purpose) = some false →
    lastConsent db (hashed, purpose) = some true
  /-- What the last event withdraws is suppressed. -/
  withheld : ∀ hashed purpose, lastConsent db (hashed, purpose) = some false →
    isSuppressed db (hashed, purpose.channel, purpose) = true

theorem applicable_channel {data : CommunicationPreferenceCreate} {value : Purpose × Bool}
    (h : value ∈ data.applicable) : data.channel = value.1.channel := by
  unfold CommunicationPreferenceCreate.applicable at h
  unfold CommunicationPreferenceCreate.channel
  cases hemail : data.isEmail with
  | true =>
    rw [hemail, if_pos rfl] at h
    rcases List.mem_pair.mp h with rfl | rfl <;> rfl
  | false =>
    rw [hemail, if_neg Bool.false_ne_true] at h
    rcases List.mem_pair.mp h with rfl | rfl <;> rfl

theorem standing_prefer (env : Env) (data : CommunicationPreferenceCreate) (sourceIp : String)
    (userAgent : Option String) (now : Instant) (db : Db) (value : Purpose × Bool) :
    standing (prefer env data sourceIp userAgent now db value) =
      Function.update (standing db) (digest env data.destination, data.channel, value.1)
        (if value.2 then
          (standing db (digest env data.destination, data.channel, value.1)).map fun _ => false
        else some true) := by
  obtain ⟨purpose, granted⟩ := value
  cases granted with
  | true => exact standing_reactivate ..
  | false => exact standing_suppress ..

theorem lastConsent_prefer (env : Env) (data : CommunicationPreferenceCreate) (sourceIp : String)
    (userAgent : Option String) (now : Instant) (db : Db) (value : Purpose × Bool) :
    lastConsent (prefer env data sourceIp userAgent now db value) =
      Function.update (lastConsent db) (digest env data.destination, value.1) (some value.2) := by
  obtain ⟨purpose, granted⟩ := value
  cases granted <;>
    simp [lastConsent, prefer, suppress, reactivate, lastOf_append_singleton]

namespace Consented

theorem suppress {db : Db} (h : Consented db) (hashed : String) {channel : Channel}
    {purpose : Purpose} (hchannel : channel = purpose.channel) (reason source : String) :
    Consented (suppress db hashed channel purpose reason source) where
  filed := by
    intro other channel' purpose' hrow
    rw [standing_suppress] at hrow
    by_cases hsubject : (other, channel', purpose') = (hashed, channel, purpose)
    · cases hsubject
      exact hchannel
    · rw [Function.update_of_ne hsubject] at hrow
      exact h.filed other channel' purpose' hrow
  lifted := by
    intro other channel' purpose' hrow
    rw [standing_suppress] at hrow
    by_cases hsubject : (other, channel', purpose') = (hashed, channel, purpose)
    · rw [hsubject, Function.update_self] at hrow
      cases hrow
    · rw [Function.update_of_ne hsubject] at hrow
      exact h.lifted other channel' purpose' hrow
  withheld := by
    intro other purpose' hlast
    rw [isSuppressed_suppress]
    by_cases hsubject : (other, purpose'.channel, purpose') = (hashed, channel, purpose)
    · rw [hsubject, Function.update_self]
    · rw [Function.update_of_ne hsubject]
      exact h.withheld other purpose' hlast

theorem suppressAll {db : Db} (h : Consented db) (hashed reason source : String)
    {purposes : List Purpose} (hall : ∀ purpose ∈ purposes, Channel.all = purpose.channel) :
    Consented (purposes.foldl
      (fun db purpose => Compliance.suppress db hashed .all purpose reason source) db) := by
  induction purposes generalizing db with
  | nil => exact h
  | cons purpose purposes ih =>
    have hfirst := h.suppress hashed (hall purpose (by simp)) reason source
    exact ih hfirst fun other hother => hall other (List.mem_cons_of_mem _ hother)

theorem optOuts {db : Db} (h : Consented db) (env : Env) (data : PrivacyRequestCreate) :
    Consented (optOuts env db data) := by
  unfold Compliance.optOuts
  split
  · exact h.suppressAll _ _ _ (by decide)
  · exact h

theorem prefer {db : Db} (h : Consented db) (env : Env) (data : CommunicationPreferenceCreate)
    (sourceIp : String) (userAgent : Option String) (now : Instant) {value : Purpose × Bool}
    (happlies : value ∈ data.applicable) :
    Consented (prefer env data sourceIp userAgent now db value) := by
  have hchannel := applicable_channel happlies
  obtain ⟨purpose, granted⟩ := value
  constructor
  case filed =>
    intro other channel' purpose' hrow
    rw [standing_prefer] at hrow
    by_cases hsubject :
        (other, channel', purpose') = (digest env data.destination, data.channel, purpose)
    · cases hsubject
      exact hchannel
    · rw [Function.update_of_ne hsubject] at hrow
      exact h.filed other channel' purpose' hrow
  case lifted =>
    intro other channel' purpose' hrow
    rw [standing_prefer] at hrow
    rw [lastConsent_prefer]
    by_cases hsubject :
        (other, channel', purpose') = (digest env data.destination, data.channel, purpose)
    · cases hsubject
      cases granted with
      | true => rw [Function.update_self]
      | false =>
        rw [Function.update_self] at hrow
        cases hrow
    · rw [Function.update_of_ne hsubject] at hrow
      -- another row about the purpose would have its channel
      have hother : (other, purpose') ≠ (digest env data.destination, purpose) := by
        intro heq
        cases heq
        have hfiled := h.filed _ _ _ (by rw [hrow]; exact Option.some_ne_none _)
        exact hsubject (by rw [hfiled, hchannel])
      rw [Function.update_of_ne hother]
      exact h.lifted other channel' purpose' hrow
  case withheld =>
    intro other purpose' hlast
    rw [lastConsent_prefer] at hlast
    rw [isSuppressed_prefer]
    by_cases hsubject : (other, purpose') = (digest env data.destination, purpose)
    · rw [hsubject, Function.update_self] at hlast
      cases hsubject
      cases hlast
      simp only [preferenceOf, hchannel, Function.update_self]
      rfl
    · have hother : (other, purpose'.channel, purpose') ≠
          (preferenceOf env data (purpose, granted)).1 := by
        intro heq
        obtain ⟨hhashed, hrest⟩ := Prod.mk.inj heq
        exact hsubject (by rw [hhashed, (Prod.mk.inj hrest).2])
      rw [Function.update_of_ne hsubject] at hlast
      rw [Function.update_of_ne hother]
      exact h.withheld other purpose' hlast

theorem preferences {db : Db} (h : Consented db) (env : Env)
    (data : CommunicationPreferenceCreate) (sourceIp : String) (userAgent : Option String)
    (now : Instant) {values : List (Purpose × Bool)}
    (happly : ∀ value ∈ values, value ∈ data.applicable) :
    Consented (values.foldl (Compliance.prefer env data sourceIp userAgent now) db) := by
  induction values generalizing db with
  | nil => exact h
  | cons value values ih =>
    have hfirst := h.prefer env data sourceIp userAgent now (happly value (by simp))
    exact ih hfirst fun other hother => happly other (List.mem_cons_of_mem _ hother)

theorem congr {db db' : Db} (h : Consented db) (hconsents : db'.consents = db.consents)
    (hrows : db'.suppressions = db.suppressions) : Consented db' := by
  have hstanding : standing db' = standing db := by rw [standing, standing, hrows]
  have hlast : lastConsent db' = lastConsent db := by rw [lastConsent, lastConsent, hconsents]
  constructor
  · rw [hstanding]
    exact h.filed
  · rw [hstanding, hlast]
    exact h.lifted
  · rw [hlast, isSuppressed_congr hrows]
    exact h.withheld

theorem exec {db : Db} (h : Consented db) (env : Env) (call : Call) :
    Consented (exec env db call) := by
  have hguarded {α : Type} {valid : Bool} {r : Except Raised (Db × α)}
      (hok : ∀ db' a, r = .ok (db', a) → Consented db') :
      Consented (if valid then commit db r else db) := by
    split
    · exact commit_induction h hok
    · exact h
  cases call with
  | privacyRequest data sourceIp userAgent id token now =>
    refine hguarded fun db' item hcall => ?_
    obtain ⟨hconsents, hrows⟩ := privacyRequest_ok hcall
    exact (h.optOuts env data).congr hconsents hrows
  | preferences data sourceIp userAgent now =>
    refine hguarded fun db' active hcall => ?_
    rw [preferences_ok hcall]
    exact h.preferences env data sourceIp userAgent now fun value hvalue => hvalue
  | smsRevocation data =>
    refine hguarded fun db' u hcall => ?_
    rw [smsRevocation_ok hcall]
    have hchannel : Channel.sms = Purpose.marketingSms.channel := rfl
    exact h.suppress _ hchannel _ _

theorem empty : Consented {} where
  filed := fun _ _ _ hrow => absurd rfl hrow
  lifted := fun _ _ _ hrow => by cases hrow
  withheld := fun _ _ hlast => by cases hlast

end Consented

/-- Whatever is called, no suppression is lifted and none is missing against the recorded
consent. -/
theorem consent_respected (env : Env) (calls : List Call) :
    Always (exec env) Consented {} calls :=
  always_of_inv (P := fun _ _ => True) (fun _ call h _ => h.exec env call) .empty
    (along_of_forall fun _ _ => trivial)

end Breero.Compliance
