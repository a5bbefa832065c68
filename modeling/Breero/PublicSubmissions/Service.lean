import Breero.Outbox.Service

/-!
`PublicSubmissionService.accept`, in the parts between which other calls can commit.

* `begin` is all that comes before the insert: the checks, the look-up of the key and the
  row to insert;
* `replayOrConflict` is the answer to a key that has its submission;
* `finish` is the event and the commit;
* `accept` is all of it, where no other call comes in between.
-/

namespace Breero.PublicSubmissions
open KeyedTable Transaction Outbox

structure Settings where
  middlewareEnabled : Bool := false
  geocodingEnabled : Bool := false
  /-- `sha256` of the form as `json.dumps` with sorted keys writes it -/
  hash : Form → String
  sha256 : String → String := id
  isoformat : Instant → String

/-- `TrackingFields` as `accept` reads it; `form` is `model_dump` without `company`. -/
structure TrackingFields where
  company : String := ""
  transactionalContactAllowed : Bool
  form : Form
  deriving DecidableEq, Repr

structure CatalogService where
  id : Uuid
  slug : String
  isActive : Bool := true
  deriving DecidableEq, Repr

structure SubmissionAccepted where
  requestId : Uuid
  downstreamStatus : String
  deriving DecidableEq, Repr

namespace Form

def get (form : Form) (key : String) : FormValue := (form.lookup key).getD .null

/-- `form[key] = value`. -/
def set (key : String) (value : FormValue) : Form → Form
  | [] => [(key, value)]
  | (k, v) :: rest => if k = key then (key, value) :: rest else (k, v) :: set key value rest

def update (form : Form) (entries : Form) : Form :=
  entries.foldl (fun form entry => set entry.1 entry.2 form) form

end Form

/-- `bool(value)`. -/
def FormValue.truthy : FormValue → Bool
  | .null => false
  | .uuid _ => true
  | .bool b => b
  | .str s => s != ""
  | .strings items => !items.isEmpty
  | .texts entries => !entries.isEmpty

/-- `str(value)` of a string or of `None`. -/
def FormValue.text : FormValue → String
  | .str s => s
  | .uuid u => toString u
  | _ => "None"

/-- `dict(value or {})`. -/
def FormValue.entries : FormValue → List (String × String)
  | .texts entries => entries
  | _ => []

/-- `list(value or [])`. -/
def FormValue.items : FormValue → List String
  | .strings items => items
  | _ => []

/-! ## Consent -/

/-- `CONSENT_FLAGS` -/
def consentFlags : List (String × String) :=
  [("transactional_contact_allowed", "transactional_contact"),
   ("transactional_email_consent", "transactional_email"),
   ("transactional_sms_consent", "transactional_sms"),
   ("marketing_email_consent", "marketing_email"),
   ("marketing_sms_consent", "marketing_sms")]

/-- `CONSENT_DISCLOSURES_BY_POLICY` -/
def consentDisclosuresByPolicy : List (String × List (String × String)) :=
  [("2026-08-13-request-only",
    [("transactional_contact",
      "I agree that BREERO may contact me about this request. " ++
      "I understand this is not a confirmed appointment."),
     ("transactional_email",
      "I agree to receive appointment and service-status email from BREERO."),
     ("transactional_sms",
      "I agree to receive recurring automated appointment and service-status text " ++
      "messages from BREERO at the number provided. Message frequency varies. " ++
      "Message and data rates may apply. Reply STOP to opt out or HELP for help. " ++
      "Consent is not a condition of purchase."),
     ("marketing_email",
      "I separately agree to marketing email. Marketing email is currently disabled."),
     ("marketing_sms",
      "I agree to receive recurring automated promotional and marketing text " ++
      "messages from BREERO at the number provided. Message frequency varies. " ++
      "Message and data rates may apply. Reply STOP to opt out or HELP for help. " ++
      "Consent is not a condition of purchase. Marketing SMS is currently disabled.")])]

/-- `canonical_disclosures`, for the flags that the form sets. -/
def canonicalDisclosures (form : Form) (policyVersion : String) :
    Except Raised (List (String × String)) := do
  let policy ← orRaise (consentDisclosuresByPolicy.lookup policyVersion)
    (.other ("Unsupported consent policy version: " ++ policyVersion))
  return (consentFlags.filter fun flag => (form.get flag.1).truthy).map fun flag =>
    (flag.2, (policy.lookup flag.2).getD "")

/-- The form with the consent as the server records it. -/
def recordConsent (settings : Settings) (form : Form) (now : Instant) : Except Raised Form := do
  let policyVersion := (form.get "policy_version").text
  let disclosures ← canonicalDisclosures form policyVersion
  return form.update [
    ("client_consent_timestamp", form.get "consent_timestamp"),
    ("client_consent_source", form.get "consent_source"),
    ("client_consent_disclosures", .texts (form.get "consent_disclosures").entries),
    ("consent_timestamp", .str (settings.isoformat now)),
    ("consent_source", .str "breero_public_api"),
    ("policy_version", .str policyVersion),
    ("consent_disclosures", .texts disclosures),
    ("consent_recorded_by", .str "breero_api")]

/-! ## Validation -/

/-- The service that a request names by its id or else by its slug. -/
def names (form : Form) (service : CatalogService) : Bool :=
  match form.get "service_id" with
  | .uuid id => service.id = id
  | _ => form.get "service_slug" = .str service.slug

/-- `_validate_service_request` -/
def validateServiceRequest (settings : Settings) (catalog : List CatalogService) (form : Form) :
    Except Raised Form := do
  let service ← orRaise (catalog.find? fun service => names form service && service.isActive)
    (.domainError "SERVICE_NOT_FOUND" "Selected service is not available" 422)
  return form.update [
    ("service_id", .uuid service.id),
    ("service_slug", .str service.slug),
    ("request_status", .str "REQUESTED"),
    ("manual_dispatch_state", .str "PENDING_MANUAL_DISPATCH"),
    ("geoapify_verification_state", .str (if settings.geocodingEnabled then
      "PENDING_PROVIDER_VERIFICATION" else "PENDING_MANUAL_VALIDATION")),
    ("address_timezone", .null),
    ("address_timezone_state", .str "PENDING_MANUAL_CALCULATION"),
    ("contact_attempts", .strings []),
    ("required_follow_up", .bool true),
    ("payment_required", .bool false),
    ("quote_required", .bool true),
    ("provider_assigned", .bool false),
    ("appointment_confirmed", .bool false)]

/-- `_validate_provider_interest` -/
def validateProviderInterest (catalog : List CatalogService) (form : Form) :
    Except Raised Unit :=
  require (∀ category ∈ (form.get "service_categories").items,
      catalog.any fun service => service.slug = category && service.isActive)
    (.domainError "SERVICE_NOT_FOUND" "One or more selected services are not available" 422)

def validate (settings : Settings) (catalog : List CatalogService)
    (submissionType : SubmissionType) (form : Form) : Except Raised Form :=
  match submissionType with
  | .serviceRequest => validateServiceRequest settings catalog form
  | .providerInterest => do
    validateProviderInterest catalog form
    return form
  | .contact => .ok form

/-! ## Acceptance -/

def isFor (submissionType : SubmissionType) (key : String) (row : PublicSubmission) : Bool :=
  row.submissionType = submissionType && row.idempotencyKey = key

/-- `_existing` -/
def existing (t : Table PublicSubmission) (submissionType : SubmissionType) (key : String) :
    Option PublicSubmission :=
  t.rows.find? (isFor submissionType key)

/-- `_replay_or_conflict` -/
def replayOrConflict (existing : PublicSubmission) (requestHash : String) :
    Except Raised SubmissionAccepted := do
  require (existing.requestHash = requestHash)
    (.domainError "IDEMPOTENCY_CONFLICT" "Key already used for another request" 409)
  return ⟨existing.id, existing.downstreamStatus.value⟩

def downstreamStatus (settings : Settings) : DownstreamStatus :=
  if settings.middlewareEnabled then .pending else .pendingConfiguration

/-- `re.sub(r"[^0-9+]", "", …) or None` -/
def normalizedPhone (form : Form) : Option String :=
  let phone := form.get "phone"
  let digits := if phone.truthy then
    String.ofList (phone.text.toList.filter fun c => c.isDigit || c = '+') else ""
  if digits = "" then none else some digits

/-- The row that `accept` inserts. -/
def newSubmission (settings : Settings) (submissionType : SubmissionType) (form payload : Form)
    (key sourceIp : String) (now : Instant) (id : Uuid) : PublicSubmission := {
  id
  submissionType
  idempotencyKey := key
  requestHash := settings.hash form
  normalizedEmail := lower (strip (payload.get "email").text)
  normalizedPhone := normalizedPhone payload
  payload
  downstreamStatus := downstreamStatus settings
  sourceIpHash := settings.sha256 sourceIp
  createdAt := now }

/-- The checks that come before the hash. -/
def gate (data : TrackingFields) : Except Raised Unit := do
  require (data.company = "")
    (.domainError "SUBMISSION_REJECTED" "Submission could not be accepted" 400)
  require (data.transactionalContactAllowed = true)
    (.domainError "CONTACT_PERMISSION_REQUIRED"
      "Permission to contact you about this request is required" 422)

/-- `accept` up to the insert: the answer to a key that is there, or the row to insert. -/
def begin (settings : Settings) (catalog : List CatalogService) (t : Table PublicSubmission)
    (submissionType : SubmissionType) (data : TrackingFields) (key sourceIp : String)
    (now : Instant) (id : Uuid) : Except Raised (SubmissionAccepted ⊕ PublicSubmission) := do
  gate data
  match existing t submissionType key with
  | some row => do
    let accepted ← replayOrConflict row (settings.hash data.form)
    return .inl accepted
  | none => do
    let recorded ← recordConsent settings data.form now
    let payload ← validate settings catalog submissionType recorded
    return .inr (newSubmission settings submissionType data.form payload key sourceIp now id)

def createdEvent : SubmissionType → String
  | .serviceRequest => "breero.service_request.created"
  | .contact => "breero.contact_request.created"
  | .providerInterest => "breero.provider_interest.created"

def eventKey (submission : PublicSubmission) : String :=
  lower submission.submissionType.value ++ ":" ++ toString submission.id ++ ":1"

def newEvent (settings : Settings) (submission : PublicSubmission) (id : Uuid) : OutboxEvent := {
  id
  createdAt := submission.createdAt
  aggregateType := "public_submission"
  aggregateId := submission.id
  eventType := createdEvent submission.submissionType
  idempotencyKey := some (eventKey submission)
  payload := .submission submission.id submission.submissionType.value submission.payload
  status := if settings.middlewareEnabled then .pending else .pendingConfiguration
  nextAttemptAt := submission.createdAt }

/-- `integration_events.idempotency_key` is unique, null aside. -/
def keyFree (t : Table OutboxEvent) (event : OutboxEvent) : Prop :=
  event.idempotencyKey.isSome →
    ∀ other ∈ t.rows, other.idempotencyKey ≠ event.idempotencyKey

/-- So is the version of an aggregate in the events of a type that have a key. -/
def versionFree (t : Table OutboxEvent) (event : OutboxEvent) : Prop :=
  event.idempotencyKey.isSome →
    ∀ other ∈ t.rows, other.idempotencyKey.isSome → other.eventType = event.eventType →
      other.aggregateId = event.aggregateId → other.aggregateVersion ≠ event.aggregateVersion

instance (t : Table OutboxEvent) (event : OutboxEvent) : Decidable (keyFree t event) :=
  inferInstanceAs (Decidable (_ → _))

instance (t : Table OutboxEvent) (event : OutboxEvent) : Decidable (versionFree t event) :=
  inferInstanceAs (Decidable (_ → _))

def addEvent (db : Tables) (event : OutboxEvent) : Except Raised Tables := do
  require (keyFree db.events event)
    (.integrityError "ix_integration_events_idempotency_key")
  require (versionFree db.events event) (.integrityError "uq_integration_event_version")
  let events ← orRaise (db.events.insert? event) (.integrityError "integration_events_pkey")
  return { db with events }

/-- `accept` from the insert on, when that did not meet the key. -/
def finish (settings : Settings) (db : Tables) (submission : PublicSubmission) (eventId : Uuid) :
    Except Raised (Tables × SubmissionAccepted) := do
  let submissions ← orRaise (db.submissions.insert? submission)
    (.integrityError "public_submissions_pkey")
  let db ← addEvent { db with submissions } (newEvent settings submission eventId)
  return (db, ⟨submission.id, (downstreamStatus settings).value⟩)

/-- A call with no other one between its parts. -/
def accept (settings : Settings) (catalog : List CatalogService) (db : Tables)
    (submissionType : SubmissionType) (data : TrackingFields) (key sourceIp : String)
    (now : Instant) (id eventId : Uuid) : Except Raised (Tables × SubmissionAccepted) := do
  match ← begin settings catalog db.submissions submissionType data key sourceIp now id with
  | .inl accepted => return (db, accepted)
  | .inr submission => finish settings db submission eventId

end Breero.PublicSubmissions
