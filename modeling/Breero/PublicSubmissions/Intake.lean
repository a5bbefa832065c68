import Breero.PublicSubmissions.Acceptance
import Breero.PublicSubmissions.Forms

/-!
The forms of the website and the API behind them: `PublicIntakeForm`, the network, and `accept`.

A form keeps the key of its last attempt, and draws another only for another payload. Requests get
lost, arrive late and more than once, and their answers get lost; calls of the API interleave.

* `IntakeForm.prepare` is what a form sends, and `exec` a step of anyone;
* `IntakeInv` says that what the API has of a key is what was sent with it;
* `intake_exactly_once`: a payload that is sent again is never refused as another request, and all
  of its tries are one submission.
-/

namespace Breero.PublicSubmissions.Intake
open KeyedTable Transaction Runs JsonText
open Accepting (Reply act)

/-! ## Forms -/

inductive PublicSubmissionKind
  | service
  | contact
  | provider
  deriving DecidableEq, Repr

def endpointForSubmission : PublicSubmissionKind → String
  | .service => "service-requests"
  | .contact => "contact"
  | .provider => "provider-interest"

/-- The routes that the endpoints are proxied to. -/
def typeOfEndpoint (endpoint : String) : Option SubmissionType :=
  if endpoint = "service-requests" then some .serviceRequest
  else if endpoint = "contact" then some .contact
  else if endpoint = "provider-interest" then some .providerInterest
  else none

structure SubmissionAttempt where
  idempotencyKey : String
  serializedPayload : Text
  deriving DecidableEq, Repr

/-- `createKey` is the key that is drawn if one is. Nothing if it throws. -/
def prepareSubmissionAttempt (previous : Option SubmissionAttempt) (payload : Unknown)
    (createKey : String) : Option SubmissionAttempt := do
  let serializedPayload ← stableSerialize payload
  match previous with
  | some attempt =>
    if attempt.serializedPayload = serializedPayload then some attempt
    else some { idempotencyKey := createKey, serializedPayload }
  | none => some { idempotencyKey := createKey, serializedPayload }

/-- What the controls of a form and the page give: `payloadWithoutTimestamp`. -/
structure FormPayload where
  members : List (String × Unknown)
  nodup : (members.map Prod.fst).Nodup

def FormPayload.object (payload : FormPayload) : Unknown := .object payload.members

def timestamp : Option String → Unknown
  | some text => .string text
  | none => .null

/-- The body: `{ ...payloadWithoutTimestamp, consent_timestamp }` -/
def FormPayload.body (payload : FormPayload) (consentTimestamp : Option String) : Option Text :=
  stableSerialize (.object
    (assign "consent_timestamp" (timestamp consentTimestamp) payload.members))

structure IntakeForm where
  id : Nat
  kind : PublicSubmissionKind
  sending : Bool := false
  attempt : Option SubmissionAttempt := none
  consentTimestamp : Option String := none
  deriving DecidableEq, Repr

instance : Keyed IntakeForm Nat := ⟨IntakeForm.id⟩

/-- A request, with its `Idempotency-Key`. -/
structure Sent where
  endpoint : String
  key : String
  body : Text
  deriving DecidableEq, Repr

/-- `submit`, up to the request. An attempt that is new has a timestamp that is. -/
def IntakeForm.prepare (form : IntakeForm) (payload : FormPayload) (key now : String) :
    Option (IntakeForm × Sent) := do
  let attempt ← prepareSubmissionAttempt form.attempt payload.object key
  let consentTimestamp := if form.attempt = some attempt then form.consentTimestamp else some now
  let body ← payload.body consentTimestamp
  return ({ form with sending := true, attempt := some attempt, consentTimestamp },
    { endpoint := endpointForSubmission form.kind, key := attempt.idempotencyKey, body })

/-- `submit`, from the answer on: an answer that is no error ends the attempt. -/
def IntakeForm.settle (form : IntakeForm) (ok : Bool) : IntakeForm :=
  if ok then { form with sending := false, attempt := none, consentTimestamp := none }
  else { form with sending := false }

/-! ## The API -/

def validateChannelContract (data : TrackingFields) : Except Raised Unit := do
  require (¬ (((data.form.get "transactional_sms_consent").truthy ∨
      (data.form.get "marketing_sms_consent").truthy) ∧ ¬ (data.form.get "phone").truthy))
    (.domainError "PHONE_REQUIRED_FOR_SMS_CONSENT" "A phone number is required for SMS consent"
      422)
  require (¬ (data.form.get "contact_preference" = .str "text" ∧
      ¬ (data.form.get "transactional_sms_consent").truthy))
    (.domainError "SMS_CONSENT_REQUIRED" "Text contact requires transactional SMS consent" 422)

/-- What `accept` of the routes checks before the service. -/
def checkRequest (data : TrackingFields) (key : String) : Except Raised Unit := do
  validateChannelContract data
  require (key ≠ "" ∧ key.length ≤ 255)
    (.domainError "IDEMPOTENCY_KEY_REQUIRED" "A valid Idempotency-Key is required" 400)

structure Env where
  settings : Settings
  /-- what the proxy, the framework and the schema of the endpoint make of a body, if they take
  it -/
  read : String → Text → Option TrackingFields

/-! ## The system -/

structure Answer where
  submissionType : SubmissionType
  idempotencyKey : String
  reply : Reply

structure World where
  forms : Table IntakeForm := .empty
  drawn : List String := []
  sent : List Sent := []
  server : Accepting := {}
  answers : List Answer := []

inductive Op
  | load (form : Nat) (kind : PublicSubmissionKind)
  /-- `key` and `now` are what a new attempt takes -/
  | submit (form : Nat) (payload : FormPayload) (key now : String)
  | settle (form : Nat) (ok : Bool)
  | arrive (position : Nat) (sourceIp : String) (catalog : List CatalogService) (now : Instant)
    (id : Uuid)
  | insert (position : Nat)
  | commit (position : Nat) (eventId : Uuid)
  | abort (position : Nat)

def submit (w : World) (form : IntakeForm) (payload : FormPayload) (key now : String) : World :=
  -- a key that is drawn is new
  if form.sending ∨ key ∈ w.drawn then w
  else
    match form.prepare payload key now with
    | some (form, sent) => { w with
        forms := w.forms.put form
        drawn := key :: w.drawn
        sent := w.sent ++ [sent] }
    | none => w

def answered (w : World) (submissionType : SubmissionType) (idempotencyKey : String)
    (reply : Option Reply) : World := { w with
  answers := w.answers ++
    reply.toList.map fun reply => { submissionType, idempotencyKey, reply } }

def serve (env : Env) (w : World) (submissionType : SubmissionType) (key : String)
    (op : Accepting.Op) : World :=
  let (server, reply) := act env.settings w.server op
  answered { w with server } submissionType key reply

def arrive (env : Env) (w : World) (sent : Sent) (sourceIp : String)
    (catalog : List CatalogService) (now : Instant) (id : Uuid) : World :=
  match typeOfEndpoint sent.endpoint, env.read sent.endpoint sent.body with
  | some submissionType, some data =>
    match checkRequest data sent.key with
    | .ok () => serve env w submissionType sent.key
        (.begin submissionType data sent.key sourceIp catalog now id)
    | .error raised => answered w submissionType sent.key (some (.error raised))
  | _, _ => w

/-- A step of a call that is open. -/
def serveCall (env : Env) (w : World) (position : Nat) (op : Accepting.Op) : World :=
  match w.server.calls[position]? with
  | some call =>
    serve env w call.submission.submissionType call.submission.idempotencyKey op
  | none => w

def exec (env : Env) (w : World) : Op → World
  | .load form kind =>
    match w.forms.insert? { id := form, kind } with
    | some forms => { w with forms }
    | none => w
  | .submit form payload key now =>
    match w.forms.get? form with
    | some form => submit w form payload key now
    | none => w
  | .settle form ok =>
    match w.forms.get? form with
    | some form => { w with forms := w.forms.put (form.settle ok) }
    | none => w
  | .arrive position sourceIp catalog now id =>
    match w.sent[position]? with
    | some sent => arrive env w sent sourceIp catalog now id
    | none => w
  | .insert position => serveCall env w position (.insert position)
  | .commit position eventId => serveCall env w position (.commit position eventId)
  | .abort position => serveCall env w position (.abort position)

/-! ## The law -/

structure OneSubmission (w : World) : Prop where
  /-- nobody is told that their key was used for another request -/
  unrefused : ∀ answer ∈ w.answers, answer.reply ≠ .error conflict
  /-- all that is accepted under one key is one submission -/
  one : ∀ a ∈ w.answers, ∀ b ∈ w.answers, a.submissionType = b.submissionType →
    a.idempotencyKey = b.idempotencyKey → ∀ accepted, a.reply = .ok accepted →
      ∀ accepted', b.reply = .ok accepted' → accepted.requestId = accepted'.requestId
  /-- which has one event -/
  stored : ExactlyOnce w.server.db

/-- A payload that a form sends again goes out as a request that went out before. -/
def Resent (env : Env) (w : World) (op : Op) : Prop :=
  ∀ form payload key now, op = .submit form payload key now →
    ∀ found attempt, w.forms.get? form = some found → found.attempt = some attempt →
      stableSerialize payload.object = some attempt.serializedPayload →
        ∀ sent ∈ (exec env w op).sent, sent ∈ w.sent

/-! ## What forms send -/

variable {env : Env} {w w' : World} {form form' : IntakeForm} {payload : FormPayload}
  {key now : String} {sent : Sent} {attempt : SubmissionAttempt}

/-- What a form sends: the request of its attempt again, or one with a key that is new. -/
inductive Prepared (form : IntakeForm) (payload : FormPayload) (key now : String)
    (form' : IntakeForm) (sent : Sent) : Prop
  | again (attempt : SubmissionAttempt) (kept : form.attempt = some attempt)
      (same : stableSerialize payload.object = some attempt.serializedPayload)
      (formEq : form' = { form with sending := true })
      (keyEq : sent.key = attempt.idempotencyKey)
      (endpointEq : sent.endpoint = endpointForSubmission form.kind)
      (body : payload.body form.consentTimestamp = some sent.body)
  | fresh (text : Text) (serialized : stableSerialize payload.object = some text)
      (changed : ∀ attempt, form.attempt = some attempt → attempt.serializedPayload ≠ text)
      (formEq : form' = { form with
        sending := true
        attempt := some { idempotencyKey := key, serializedPayload := text }
        consentTimestamp := some now })
      (keyEq : sent.key = key)
      (endpointEq : sent.endpoint = endpointForSubmission form.kind)
      (body : payload.body (some now) = some sent.body)

/-- An attempt that is new, with a text that the last one did not have. -/
theorem prepared_fresh {text : Text} (htext : stableSerialize payload.object = some text)
    (hnew : ∀ attempt, form.attempt = some attempt → attempt.serializedPayload ≠ text)
    (h : form.prepare payload key now = some (form', sent)) :
    Prepared form payload key now form' sent := by
  have hprepared : prepareSubmissionAttempt form.attempt payload.object key =
      some { idempotencyKey := key, serializedPayload := text } := by
    rw [prepareSubmissionAttempt, htext]
    cases hattempt : form.attempt with
    | none => rfl
    | some attempt =>
      simp only [Option.bind_eq_bind, Option.bind_some, if_neg (hnew attempt hattempt)]
  have hother : form.attempt ≠ some { idempotencyKey := key, serializedPayload := text } :=
    fun heq => hnew _ heq rfl
  simp only [IntakeForm.prepare, hprepared, Option.bind_eq_bind, Option.bind_some, if_neg hother,
    Option.bind_eq_some_iff, Option.pure_def, Option.some.injEq, Prod.mk.injEq] at h
  obtain ⟨body, hbody, rfl, rfl⟩ := h
  exact .fresh text htext hnew rfl rfl rfl hbody

theorem prepared (h : form.prepare payload key now = some (form', sent)) :
    Prepared form payload key now form' sent := by
  cases htext : stableSerialize payload.object with
  | none =>
    have hnone : form.prepare payload key now = none := by
      rw [IntakeForm.prepare, prepareSubmissionAttempt, htext]
      rfl
    rw [hnone] at h
    cases h
  | some text =>
    cases hattempt : form.attempt with
    | none =>
      refine prepared_fresh htext (fun attempt hsome => ?_) h
      rw [hattempt] at hsome
      cases hsome
    | some attempt =>
      by_cases hsame : attempt.serializedPayload = text
      · have hprepared : prepareSubmissionAttempt form.attempt payload.object key =
            some attempt := by
          rw [prepareSubmissionAttempt, htext, hattempt]
          simp only [Option.bind_eq_bind, Option.bind_some, if_pos hsame]
        simp only [IntakeForm.prepare, hprepared, Option.bind_eq_bind, Option.bind_some,
          if_pos hattempt, Option.bind_eq_some_iff, Option.pure_def, Option.some.injEq,
          Prod.mk.injEq] at h
        obtain ⟨body, hbody, rfl, rfl⟩ := h
        refine .again attempt hattempt (hsame ▸ htext) ?_ rfl rfl hbody
        rw [← hattempt]
      · refine prepared_fresh htext (fun other hother => ?_) h
        rw [hattempt] at hother
        exact Option.some.inj hother ▸ hsame

/-- The attempt of a form went out in a request, with its timestamp. -/
def Tracked (w : World) (form : IntakeForm) : Prop :=
  ∀ attempt, form.attempt = some attempt → ∃ payload : FormPayload, ∃ sent ∈ w.sent,
    stableSerialize payload.object = some attempt.serializedPayload ∧
      sent.endpoint = endpointForSubmission form.kind ∧ sent.key = attempt.idempotencyKey ∧
      payload.body form.consentTimestamp = some sent.body

structure Tracking (w : World) : Prop where
  keys : ∀ sent ∈ w.sent, sent.key ∈ w.drawn
  one : ∀ a ∈ w.sent, ∀ b ∈ w.sent, a.key = b.key → a = b
  forms : ∀ form ∈ w.forms.rows, Tracked w form

theorem Tracked.mono (h : Tracked w form) (hsent : ∀ sent ∈ w.sent, sent ∈ w'.sent) :
    Tracked w' form := by
  intro attempt hattempt
  obtain ⟨payload, sent, hmem, hrest⟩ := h attempt hattempt
  exact ⟨payload, sent, hsent sent hmem, hrest⟩

/-- A request of the attempt that a form keeps went out before: it has the same body, whatever the
order of the payload. -/
theorem Tracked.again (h : Tracked w form) (hkept : form.attempt = some attempt)
    (hsame : stableSerialize payload.object = some attempt.serializedPayload)
    (hkey : sent.key = attempt.idempotencyKey)
    (hendpoint : sent.endpoint = endpointForSubmission form.kind)
    (hbody : payload.body form.consentTimestamp = some sent.body) : sent ∈ w.sent := by
  obtain ⟨first, before, hmem, hfirst, hendpoint', hkey', hbody'⟩ := h attempt hkept
  have hbodies : payload.body form.consentTimestamp = first.body form.consentTimestamp :=
    stableSerialize_assign payload.nodup first.nodup (hsame.trans hfirst.symm)
  rw [hbody, hbody', Option.some.injEq] at hbodies
  have heq : sent = before := by
    cases sent
    cases before
    simp_all
  exact heq ▸ hmem

theorem Tracking.submit (h : Tracking w) (hform : form ∈ w.forms.rows) (payload : FormPayload)
    (key now : String) : Tracking (submit w form payload key now) := by
  unfold Intake.submit
  split
  · exact h
  next hfree =>
  rw [not_or] at hfree
  cases hprepare : form.prepare payload key now with
  | none => exact h
  | some result =>
    obtain ⟨form', sent⟩ := result
    have hgrown : ∀ other ∈ w.sent, other ∈ w.sent ++ [sent] :=
      fun _ hmem => List.mem_append_left _ hmem
    have hlast : sent ∈ w.sent ++ [sent] := List.mem_append_right _ List.mem_cons_self
    cases prepared hprepare with
    | again attempt kept same formEq keyEq endpointEq body =>
      have hmem : sent ∈ w.sent := (h.forms form hform).again kept same keyEq endpointEq body
      have hsent : ∀ other, other ∈ w.sent ++ [sent] → other ∈ w.sent := by
        intro other hother
        rcases List.mem_append.mp hother with hold | hnew
        · exact hold
        · exact List.mem_singleton.mp hnew ▸ hmem
      refine ⟨fun other hother => List.mem_cons_of_mem _ (h.keys other (hsent other hother)),
        fun a ha b hb => h.one a (hsent a ha) b (hsent b hb), fun other hother => ?_⟩
      rcases Table.mem_put.mp hother with ⟨rfl, _⟩ | ⟨hold, _⟩
      · rw [formEq]
        exact (h.forms form hform).mono hgrown
      · exact (h.forms other hold).mono hgrown
    | fresh text serialized changed formEq keyEq endpointEq body =>
      have hnew : ∀ other ∈ w.sent, other.key ≠ sent.key := by
        intro other hother heq
        rw [keyEq] at heq
        exact hfree.2 (heq ▸ h.keys other hother)
      refine ⟨fun other hother => ?_, fun a ha b hb hkeys => ?_, fun other hother => ?_⟩
      · rcases List.mem_append.mp hother with hold | hsent
        · exact List.mem_cons_of_mem _ (h.keys other hold)
        · rw [List.mem_singleton.mp hsent, keyEq]
          exact List.mem_cons_self
      · rcases List.mem_append.mp ha with ha | ha <;> rcases List.mem_append.mp hb with hb | hb
        · exact h.one a ha b hb hkeys
        · exact absurd (List.mem_singleton.mp hb ▸ hkeys) (hnew a ha)
        · exact absurd (List.mem_singleton.mp ha ▸ hkeys).symm (hnew b hb)
        · rw [List.mem_singleton.mp ha, List.mem_singleton.mp hb]
      · rcases Table.mem_put.mp hother with ⟨rfl, _⟩ | ⟨hold, _⟩
        · rw [formEq]
          rintro attempt ⟨⟩
          exact ⟨payload, sent, hlast, serialized, endpointEq, keyEq, body⟩
        · exact (h.forms other hold).mono hgrown

/-! ## What the API raises -/

section
variable {settings : Settings} {s : Accepting}

theorem finish_ne_conflict (db : Outbox.Tables) (submission : PublicSubmission) (eventId : Uuid) :
    finish settings db submission eventId ≠ .error conflict := by
  refine seq_ne_raised (orRaise_ne_raised (by simp [conflict])) fun submissions => ?_
  refine seq_ne_raised (seq_ne_raised (require_ne_raised (by simp [conflict])) fun _ => ?_)
    fun _ => return_ne_raised _ _
  refine seq_ne_raised (require_ne_raised (by simp [conflict])) fun _ => ?_
  exact seq_ne_raised (orRaise_ne_raised (by simp [conflict])) fun _ => return_ne_raised _ _

theorem validate_ne_conflict (catalog : List CatalogService) (submissionType : SubmissionType)
    (form : Form) : validate settings catalog submissionType form ≠ .error conflict := by
  cases submissionType with
  | serviceRequest =>
    exact seq_ne_raised (orRaise_ne_raised (by simp [conflict])) fun _ => return_ne_raised _ _
  | contact => exact return_ne_raised _ _
  | providerInterest =>
    exact seq_ne_raised (require_ne_raised (by simp [conflict])) fun _ => return_ne_raised _ _

theorem recordConsent_ne_conflict (form : Form) (now : Instant) :
    recordConsent settings form now ≠ .error conflict :=
  seq_ne_raised
    (seq_ne_raised (orRaise_ne_raised (by simp [conflict])) fun _ => return_ne_raised _ _)
    fun _ => return_ne_raised _ _

theorem gate_ne_conflict (data : TrackingFields) : gate data ≠ .error conflict :=
  seq_ne_raised (require_ne_raised (by simp [conflict]))
    fun _ => require_ne_raised (by simp [conflict])

theorem checkRequest_ne_conflict (data : TrackingFields) (key : String) :
    checkRequest data key ≠ .error conflict :=
  seq_ne_raised
    (seq_ne_raised (require_ne_raised (by simp [conflict]))
      fun _ => require_ne_raised (by simp [conflict]))
    fun _ => require_ne_raised (by simp [conflict])

/-- Of a key that is free nobody is told that it was used. -/
theorem begin_ne_conflict {catalog : List CatalogService} {t : Table PublicSubmission}
    {submissionType : SubmissionType} {data : TrackingFields} {key sourceIp : String}
    {now : Instant} {id : Uuid} (hnone : existing t submissionType key = none) :
    begin settings catalog t submissionType data key sourceIp now id ≠ .error conflict := by
  unfold begin
  rw [hnone]
  exact seq_ne_raised (gate_ne_conflict data) fun _ =>
    seq_ne_raised (recordConsent_ne_conflict _ _) fun _ =>
      seq_ne_raised (validate_ne_conflict _ _ _) fun _ => return_ne_raised _ _

/-- The key and the type of a call. -/
def addressed (s : Accepting) : Accepting.Op → Option (SubmissionType × String)
  | .begin submissionType _ key _ _ _ _ => some (submissionType, key)
  | .insert position | .commit position _ | .abort position =>
    s.calls[position]?.map fun call =>
      (call.submission.submissionType, call.submission.idempotencyKey)

/-- A reply that accepts or refuses the key is to a request that passed the checks. -/
structure Replied (settings : Settings) (s : Accepting) (op : Accepting.Op) (reply : Reply)
    (q : Request) : Prop where
  request : q ∈ Accepting.request settings s op
  address : addressed s op = some (q.submissionType, q.idempotencyKey)
  refused : reply = .error conflict →
    ∃ row ∈ s.db.submissions.rows, row.submissionType = q.submissionType ∧
      row.idempotencyKey = q.idempotencyKey ∧ row.requestHash ≠ q.requestHash

/-- A reply that accepts a request, or refuses its key. -/
def Decisive (reply : Reply) : Prop :=
  (∃ accepted, reply = .ok accepted) ∨ reply = .error conflict

theorem replayed_decisive {row : PublicSubmission} {requestHash : String}
    (h : replayOrConflict row requestHash = .error conflict) : row.requestHash ≠ requestHash := by
  rw [replayOrConflict_eq] at h
  split at h
  · cases h
  · assumption

theorem begin_replied {submissionType : SubmissionType} {data : TrackingFields}
    {key sourceIp : String} {catalog : List CatalogService} {now : Instant} {id : Uuid}
    {reply : Reply} (hdecisive : Decisive reply)
    (h : Accepting.reply settings s (.begin submissionType data key sourceIp catalog now id) =
      some reply) :
    ∃ q, Replied settings s (.begin submissionType data key sourceIp catalog now id) reply q := by
  simp only [Accepting.reply, act] at h
  cases hgate : gate data with
  | error raised =>
    have hbegin : begin settings catalog s.db.submissions submissionType data key sourceIp now
        id = .error raised := by
      rw [begin, hgate]
      rfl
    rw [hbegin] at h
    obtain rfl := Option.some.inj h
    rcases hdecisive with ⟨accepted, hok⟩ | hconflict
    · cases hok
    · rw [Except.error.inj hconflict] at hgate
      exact absurd hgate (gate_ne_conflict data)
  | ok u =>
    have hrequest : Accepting.request settings s
        (.begin submissionType data key sourceIp catalog now id) =
          some ⟨submissionType, key, settings.hash data.form⟩ :=
      if_pos hgate
    refine ⟨⟨submissionType, key, settings.hash data.form⟩, hrequest, rfl, ?_⟩
    rintro rfl
    cases hrow : existing s.db.submissions submissionType key with
    | some row =>
      obtain ⟨hmem, htype, hkey⟩ := existing_some hrow
      refine ⟨row, hmem, htype, hkey, fun hsame => ?_⟩
      rw [begin_of_existing hgate hrow, if_pos hsame] at h
      cases h
    | none =>
      cases hbegin : begin settings catalog s.db.submissions submissionType data key sourceIp now
          id with
      | ok result =>
        rw [hbegin] at h
        cases result <;> cases h
      | error raised =>
        rw [hbegin, Option.some.injEq, Except.error.injEq] at h
        exact absurd (h ▸ hbegin) (begin_ne_conflict hrow)

theorem replied {op : Accepting.Op} {reply : Reply} (hdecisive : Decisive reply)
    (h : Accepting.reply settings s op = some reply) : ∃ q, Replied settings s op reply q := by
  cases op with
  | begin submissionType data key sourceIp catalog now id => exact begin_replied hdecisive h
  | insert position =>
    simp only [Accepting.reply, act] at h
    split at h
    · cases h
    next call hcall =>
    split at h
    · next hready =>
      refine ⟨call.request, ?_, ?_, ?_⟩
      · simp only [Accepting.request, hcall, Option.bind_some, if_pos hready, Option.mem_def]
      · simp only [addressed, hcall, Option.map_some]
        rfl
      · rintro rfl
        unfold Accepting.insertOf at h
        split at h
        · next row hrow =>
          obtain ⟨hmem, htype, hkey⟩ := existing_some hrow
          exact ⟨row, hmem, htype, hkey, replayed_decisive (Option.some.inj h)⟩
        · split at h <;> cases h
    · cases h
  | commit position eventId =>
    simp only [Accepting.reply, act] at h
    split at h
    · cases h
    next call hcall =>
    split at h
    · next hinserted =>
      refine ⟨call.request, ?_, ?_, ?_⟩
      · simp only [Accepting.request, hcall, Option.bind_some, if_pos hinserted, Option.mem_def]
      · simp only [addressed, hcall, Option.map_some]
        rfl
      · rintro rfl
        unfold Accepting.commitOf at h
        split at h
        · cases h
        · next raised hfinish =>
          rw [Option.some.injEq, Except.error.injEq] at h
          exact absurd (h ▸ hfinish) (finish_ne_conflict _ _ _)
    · cases h
  | abort position => cases h

/-- The rows after a step are those before it, and one of an open call. -/
theorem exec_rows (settings : Settings) (s : Accepting) (op : Accepting.Op) :
    ∀ row ∈ (Accepting.exec settings s op).db.submissions.rows,
      row ∈ s.db.submissions.rows ∨ ∃ call ∈ s.calls, call.submission = row := by
  cases op with
  | begin submissionType data key sourceIp catalog now id =>
    simp only [Accepting.exec, act]
    split <;> exact fun row hrow => .inl hrow
  | insert position =>
    simp only [Accepting.exec, act]
    split
    · exact fun row hrow => .inl hrow
    · split
      · unfold Accepting.insertOf
        split
        · exact fun row hrow => .inl hrow
        · split <;> exact fun row hrow => .inl hrow
      · exact fun row hrow => .inl hrow
  | commit position eventId =>
    simp only [Accepting.exec, act]
    split
    · exact fun row hrow => .inl hrow
    next call hcall =>
    split
    · unfold Accepting.commitOf
      split
      · next hfinish =>
        intro row hrow
        rcases (Table.mem_insert (finish_rows hfinish).1).mp hrow with hold | rfl
        · exact .inl hold
        · exact .inr ⟨call, List.mem_of_getElem? hcall, rfl⟩
      · exact fun row hrow => .inl hrow
    · exact fun row hrow => .inl hrow
  | abort position => exact fun row hrow => .inl hrow

end

/-! ## What the API has -/

/-- A request that was sent, as the API tells requests apart. -/
def Carries (env : Env) (sent : Sent) (q : Request) : Prop :=
  typeOfEndpoint sent.endpoint = some q.submissionType ∧ sent.key = q.idempotencyKey ∧
    ∃ data, env.read sent.endpoint sent.body = some data ∧
      q.requestHash = env.settings.hash data.form

def Carried (env : Env) (w : World) (q : Request) : Prop := ∃ sent ∈ w.sent, Carries env sent q

def requestOf (row : PublicSubmission) : Request :=
  ⟨row.submissionType, row.idempotencyKey, row.requestHash⟩

/-- What an answer accepts is a submission with the key that was asked for. -/
def Stored (w : World) (answer : Answer) : Prop :=
  ∀ accepted, answer.reply = .ok accepted → ∃ row ∈ w.server.db.submissions.rows,
    row.submissionType = answer.submissionType ∧ row.idempotencyKey = answer.idempotencyKey ∧
      row.id = accepted.requestId

structure IntakeInv (env : Env) (w : World) : Prop where
  tracking : Tracking w
  accepting : Accepting.AcceptInv w.server
  rows : ∀ row ∈ w.server.db.submissions.rows, Carried env w (requestOf row)
  calls : ∀ call ∈ w.server.calls, Carried env w call.request
  unrefused : ∀ answer ∈ w.answers, answer.reply ≠ .error conflict
  stored : ∀ answer ∈ w.answers, Stored w answer

theorem Carried.mono {q : Request} (h : Carried env w q)
    (hsent : ∀ sent ∈ w.sent, sent ∈ w'.sent) : Carried env w' q := by
  obtain ⟨sent, hmem, hcarries⟩ := h
  exact ⟨sent, hsent sent hmem, hcarries⟩

/-- A key was sent with one request only. -/
theorem Tracking.carried (h : Tracking w) {q q' : Request} (hq : Carried env w q)
    (hq' : Carried env w q') (hkey : q.idempotencyKey = q'.idempotencyKey) : q = q' := by
  obtain ⟨sent, hmem, htype, hsent, data, hread, hhash⟩ := hq
  obtain ⟨sent', hmem', htype', hsent', data', hread', hhash'⟩ := hq'
  obtain rfl := h.one sent hmem sent' hmem' (hsent.trans (hkey.trans hsent'.symm))
  rw [htype, Option.some.injEq] at htype'
  rw [hread, Option.some.injEq] at hread'
  subst hread'
  cases q
  cases q'
  simp_all

theorem Tracking.of_sent (h : Tracking w) (hforms : w'.forms = w.forms)
    (hdrawn : w'.drawn = w.drawn) (hsent : w'.sent = w.sent) : Tracking w' := by
  refine ⟨?_, ?_, fun form hform => ?_⟩
  · rw [hsent, hdrawn]
    exact h.keys
  · rw [hsent]
    exact h.one
  · rw [hforms] at hform
    exact (h.forms form hform).mono fun sent hmem => hsent.symm ▸ hmem

/-- The API and the answers stay as they are when a form does something. -/
theorem IntakeInv.of_tracking (h : IntakeInv env w) (htracking : Tracking w')
    (hserver : w'.server = w.server) (hanswers : w'.answers = w.answers)
    (hsent : ∀ sent ∈ w.sent, sent ∈ w'.sent) : IntakeInv env w' := by
  refine ⟨htracking, hserver ▸ h.accepting, fun row hrow => ?_, fun call hcall => ?_, ?_,
    fun answer hanswer => ?_⟩
  · rw [hserver] at hrow
    exact (h.rows row hrow).mono hsent
  · rw [hserver] at hcall
    exact (h.calls call hcall).mono hsent
  · rw [hanswers]
    exact h.unrefused
  · rw [hanswers] at hanswer
    unfold Stored
    rw [hserver]
    exact h.stored answer hanswer

/-- An answer that accepts nothing and refuses no key. -/
theorem IntakeInv.refuse (h : IntakeInv env w) {raised : Raised} (hne : raised ≠ conflict)
    (submissionType : SubmissionType) (key : String) :
    IntakeInv env (answered w submissionType key (some (.error raised))) := by
  refine ⟨h.tracking.of_sent rfl rfl rfl, h.accepting, h.rows, h.calls, fun answer hanswer => ?_,
    fun answer hanswer => ?_⟩
  · rcases List.mem_append.mp hanswer with hold | hnew
    · exact h.unrefused answer hold
    · obtain rfl := List.mem_singleton.mp hnew
      exact fun heq => hne (Except.error.inj heq)
  · rcases List.mem_append.mp hanswer with hold | hnew
    · exact h.stored answer hold
    · obtain rfl := List.mem_singleton.mp hnew
      rintro accepted ⟨⟩

/-- A step of the API for a request that was sent. -/
theorem IntakeInv.serve (h : IntakeInv env w) {op : Accepting.Op} {submissionType : SubmissionType}
    {key : String} (haddress : addressed w.server op = some (submissionType, key))
    (hrequest : ∀ q ∈ Accepting.request env.settings w.server op, Carried env w q) :
    IntakeInv env (serve env w submissionType key op) := by
  have hanswered : Accepting.Answered env.settings w.server op := h.accepting.answered op
  have hkept : Table.Kept (fun a b => b = a) w.server.db.submissions
      (Accepting.exec env.settings w.server op).db.submissions := Accepting.exec_kept w.server op
  have hserver : (Intake.serve env w submissionType key op).server =
      Accepting.exec env.settings w.server op := rfl
  have hanswers : (Intake.serve env w submissionType key op).answers = w.answers ++
      (Accepting.reply env.settings w.server op).toList.map
        fun reply => { submissionType, idempotencyKey := key, reply } := rfl
  refine ⟨h.tracking.of_sent rfl rfl rfl, h.accepting.exec op, fun row hrow => ?_,
    fun call hcall => ?_, fun answer hanswer => ?_, fun answer hanswer => ?_⟩
  · rcases exec_rows env.settings w.server op row hrow with hold | ⟨call, hcall, rfl⟩
    · exact h.rows row hold
    · exact h.calls call hcall
  · rcases hanswered.opened call hcall with hold | ⟨q, hq, hcallq⟩
    · exact h.calls call hold
    · exact hcallq ▸ hrequest q hq
  · rw [hanswers, List.mem_append] at hanswer
    rcases hanswer with hold | hnew
    · exact h.unrefused answer hold
    · obtain ⟨reply, hreply, rfl⟩ := List.mem_map.mp hnew
      rw [Option.mem_toList] at hreply
      rintro rfl
      -- the row that has the key came with the same request
      obtain ⟨q, hreplied⟩ := replied (.inr rfl) hreply
      obtain ⟨row, hrow, htype, hkey, hhash⟩ := hreplied.refused rfl
      have hsame : requestOf row = q :=
        h.tracking.carried (h.rows row hrow) (hrequest q hreplied.request) hkey
      exact hhash (hsame ▸ rfl)
  · rw [hanswers, List.mem_append] at hanswer
    intro accepted haccepted
    rcases hanswer with hold | hnew
    · obtain ⟨row, hrow, hrest⟩ := h.stored answer hold accepted haccepted
      obtain ⟨row', hrow', rfl⟩ := hkept row hrow
      exact ⟨row', Table.mem_of_get? hrow', hrest⟩
    · obtain ⟨reply, hreply, rfl⟩ := List.mem_map.mp hnew
      rw [Option.mem_toList] at hreply
      obtain rfl : reply = .ok accepted := haccepted
      obtain ⟨q, hreplied⟩ := replied (.inl ⟨accepted, rfl⟩) hreply
      obtain ⟨row, hrow, hid, _⟩ := hanswered.accepted q hreplied.request accepted hreply
      obtain ⟨hmem, htype, hkey⟩ := existing_some hrow
      have hq := hreplied.address
      rw [haddress, Option.some.injEq, Prod.mk.injEq] at hq
      exact ⟨row, hmem, htype.trans hq.1.symm, hkey.trans hq.2.symm, hid⟩

theorem IntakeInv.arrive (h : IntakeInv env w) (hsent : sent ∈ w.sent) (sourceIp : String)
    (catalog : List CatalogService) (now : Instant) (id : Uuid) :
    IntakeInv env (arrive env w sent sourceIp catalog now id) := by
  unfold Intake.arrive
  split
  · next submissionType data htype hread =>
    split
    · refine h.serve rfl fun q hq => ⟨sent, hsent, ?_⟩
      simp only [Accepting.request] at hq
      split at hq
      · cases hq
        exact ⟨htype, rfl, data, hread, rfl⟩
      · cases hq
    · next raised hcheck =>
      refine h.refuse ?_ submissionType sent.key
      rintro rfl
      exact checkRequest_ne_conflict data sent.key hcheck
  · exact h

/-- A step of an open call, which has the request that it began with. -/
theorem IntakeInv.serveCall (h : IntakeInv env w) {position : Nat} {op : Accepting.Op}
    (haddress : addressed w.server op = w.server.calls[position]?.map fun call =>
      (call.submission.submissionType, call.submission.idempotencyKey))
    (hrequest : ∀ q ∈ Accepting.request env.settings w.server op,
      ∃ call ∈ w.server.calls[position]?, call.request = q) :
    IntakeInv env (serveCall env w position op) := by
  unfold Intake.serveCall
  split
  · next call hcall =>
    rw [hcall] at haddress
    refine h.serve haddress fun q hq => ?_
    obtain ⟨other, hother, rfl⟩ := hrequest q hq
    exact h.calls other (List.mem_of_getElem? hother)
  · exact h

/-! ## Runs -/

theorem Tracking.load (h : Tracking w) {forms : Table IntakeForm} {id : Nat}
    {kind : PublicSubmissionKind} (hforms : w.forms.insert? { id, kind } = some forms) :
    Tracking { w with forms } := by
  refine ⟨h.keys, h.one, fun form hform => ?_⟩
  rcases (Table.mem_insert hforms).mp hform with hold | rfl
  · exact (h.forms form hold).mono fun _ hmem => hmem
  · rintro attempt ⟨⟩

theorem Tracking.settle (h : Tracking w) (hform : form ∈ w.forms.rows) (ok : Bool) :
    Tracking { w with forms := w.forms.put (form.settle ok) } := by
  refine ⟨h.keys, h.one, fun other hother => ?_⟩
  rcases Table.mem_put.mp hother with ⟨rfl, _⟩ | ⟨hold, _⟩
  · cases ok with
    | true => rintro attempt ⟨⟩
    | false => exact h.forms form hform
  · exact (h.forms other hold).mono fun _ hmem => hmem

theorem submit_frame (w : World) (form : IntakeForm) (payload : FormPayload) (key now : String) :
    (submit w form payload key now).server = w.server ∧
      (submit w form payload key now).answers = w.answers ∧
        ∀ sent ∈ w.sent, sent ∈ (submit w form payload key now).sent := by
  unfold submit
  split
  · exact ⟨rfl, rfl, fun _ hmem => hmem⟩
  · split
    · exact ⟨rfl, rfl, fun _ hmem => List.mem_append_left _ hmem⟩
    · exact ⟨rfl, rfl, fun _ hmem => hmem⟩

theorem IntakeInv.exec (h : IntakeInv env w) (op : Op) : IntakeInv env (exec env w op) := by
  cases op with
  | load form kind =>
    simp only [Intake.exec]
    split
    · next forms hforms =>
      exact h.of_tracking (h.tracking.load hforms) rfl rfl fun _ hmem => hmem
    · exact h
  | submit form payload key now =>
    simp only [Intake.exec]
    split
    · next found hfound =>
      obtain ⟨hserver, hanswers, hsent⟩ := submit_frame w found payload key now
      have htracking := h.tracking.submit (Table.mem_of_get? hfound) payload key now
      exact h.of_tracking htracking hserver hanswers hsent
    · exact h
  | settle form ok =>
    simp only [Intake.exec]
    split
    · next found hfound =>
      have htracking := h.tracking.settle (Table.mem_of_get? hfound) ok
      exact h.of_tracking htracking rfl rfl fun _ hmem => hmem
    · exact h
  | arrive position sourceIp catalog now id =>
    simp only [Intake.exec]
    split
    · next hsent => exact h.arrive (List.mem_of_getElem? hsent) sourceIp catalog now id
    · exact h
  | insert position =>
    refine h.serveCall rfl fun q hq => ?_
    obtain ⟨call, hcall, hq⟩ := Option.bind_eq_some_iff.mp hq
    refine ⟨call, hcall, ?_⟩
    split at hq
    · exact Option.some.inj hq
    · cases hq
  | commit position eventId =>
    refine h.serveCall rfl fun q hq => ?_
    obtain ⟨call, hcall, hq⟩ := Option.bind_eq_some_iff.mp hq
    refine ⟨call, hcall, ?_⟩
    split at hq
    · exact Option.some.inj hq
    · cases hq
  | abort position => exact h.serveCall rfl fun q hq => by cases hq

theorem IntakeInv.oneSubmission (h : IntakeInv env w) : OneSubmission w := by
  refine ⟨h.unrefused, fun a ha b hb htype hkey accepted haccepted accepted' haccepted' => ?_,
    h.accepting.once⟩
  obtain ⟨row, hrow, hrowType, hrowKey, hid⟩ := h.stored a ha accepted haccepted
  obtain ⟨row', hrow', hrowType', hrowKey', hid'⟩ := h.stored b hb accepted' haccepted'
  have hsame : row = row' := h.accepting.once.one row hrow row' hrow'
    (hrowType.trans (htype.trans hrowType'.symm)) (hrowKey.trans (hkey.trans hrowKey'.symm))
  rw [← hid, ← hid', hsame]

theorem Tracking.resent (h : Tracking w) (op : Op) : Resent env w op := by
  rintro form payload key now rfl found attempt hfound hattempt hsame sent hsent
  simp only [exec, hfound] at hsent
  unfold Intake.submit at hsent
  split at hsent
  · exact hsent
  · split at hsent
    · next found' sent' hprepare =>
      rcases List.mem_append.mp hsent with hold | hnew
      · exact hold
      · obtain rfl := List.mem_singleton.mp hnew
        cases prepared hprepare with
        | again kept hkept same formEq keyEq endpointEq body =>
          exact (h.forms found (Table.mem_of_get? hfound)).again hkept same keyEq endpointEq body
        | fresh text serialized changed formEq keyEq endpointEq body =>
          rw [hsame, Option.some.injEq] at serialized
          exact absurd serialized (changed attempt hattempt)
    · exact hsent

theorem intakeInv_empty (env : Env) : IntakeInv env {} := by
  refine ⟨⟨?_, ?_, ?_⟩, ⟨⟨?_, ?_, ?_⟩, List.Pairwise.nil, ?_⟩, ?_, ?_, ?_, ?_⟩
  all_goals rintro a ⟨⟩

/-- **Whatever is lost, late or sent twice, a payload becomes one submission**: a form that sends a
payload again sends the same request, no key is refused as that of another request, all that is
accepted under a key is one submission, and that has one event. -/
theorem intake_exactly_once (env : Env) (ops : List Op) :
    Always (exec env) OneSubmission {} ops ∧ Along (exec env) (Resent env) {} ops := by
  have hstep : ∀ w op, IntakeInv env w → True → IntakeInv env (exec env w op) :=
    fun _ op h _ => h.exec op
  have hrun : Along (exec env) (fun _ _ => True) {} ops := along_of_forall fun _ _ => trivial
  have hinit := intakeInv_empty env
  exact ⟨(always_of_inv hstep hinit hrun).imp fun _ h => h.oneSubmission,
    Along.imp hstep (fun _ op h _ => h.tracking.resent op) hinit hrun⟩

end Breero.PublicSubmissions.Intake
