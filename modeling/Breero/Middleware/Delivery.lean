import Breero.Common.Numbers
import Breero.Crm.Models
import Breero.Lib.JsonDumps
import Breero.Outbox.Service

/-!
The delivery of an event to the middleware: its envelope, the signed request and the answer.

* `buildEventEnvelope` is the envelope, and `Envelope.value` the object that is posted;
* `headers` signs a body, and `post` is the request of an event;
* `acknowledged` reads an answer, and `deliver` is the call that the dispatcher makes.
-/

namespace Breero.Middleware
open Transaction Outbox Crm
open JsonText (ofString)

/-- What the adapter calls. -/
structure Env where
  isoformat : Instant → String
  /-- the digest of `hashlib.sha256` -/
  sha256 : List UInt8 → String
  /-- the digest of `hmac.new`, of a key and a message -/
  hmac : List UInt8 → List UInt8 → String
  /-- how `json.dumps` writes a float -/
  floatText : JsonText.Double → JsonText.Text
  /-- `str` of what is no text -/
  str : JsonText.Value → String
  /-- the text of the error of `encode("ascii")` -/
  encodeError : String → String

structure Settings where
  middlewareEnabled : Bool := true
  serviceIdentity : String
  audience : String
  appEnv : String
  scope : String := "breero.crm.events.submit"
  hmacKeyId : String
  tenant : String
  /-- the bytes of the secret file, if it can be read -/
  hmacSecretFile : Option (List UInt8)
  deriving DecidableEq, Repr

def PATH : String := "/api/v1/integrations/breero/events"

def VERSION : String := "HMAC-V2"

def allowedEvents : List String := [
  "breero.service_request.created", "breero.contact_request.created",
  "breero.provider_interest.created", "breero.lead_dispute.created"]

/-- `EventDeliveryError` -/
def eventDeliveryError (code : String) (terminal : Bool := false) : Failure :=
  { text := code, code, terminal }

/-! ## The envelope -/

def fieldsOf : List (String × Json) → Fields
  | [] => .nil
  | (name, value) :: rest => .cons name value (fieldsOf rest)

/-- A `dict` as it comes out of a `JSONB` column. -/
def objectOf (members : List (String × Json)) : Json :=
  .obj (fieldsOf (members.insertionSort fun a b => a.1 ≤ b.1))

def valueJson : Breero.Value → Json
  | .uuid u => .str (toString u)
  | .str s => .str s
  | .int n => .int n
  | .bool b => .bool b
  | .null => .null

def itemsOf : List String → Items
  | [] => .nil
  | item :: rest => .cons (.str item) (itemsOf rest)

def formJson : PublicSubmissions.FormValue → Json
  | .null => .null
  | .uuid u => .str (toString u)
  | .bool b => .bool b
  | .str s => .str s
  | .strings items => .arr (itemsOf items)
  | .texts entries => objectOf (entries.map fun entry => (entry.1, .str entry.2))

/-- The payload of an event. -/
def payloadJson : EventPayload → Json
  | .fields payload => objectOf (payload.map fun field => (field.1, valueJson field.2))
  | .submission submissionId route payload => objectOf [
      ("submission_id", .str (toString submissionId)),
      ("route", .str route),
      ("payload", objectOf (payload.map fun field => (field.1, formJson field.2)))]

def buildEventEnvelope (env : Env) (event : OutboxEvent) : Envelope := {
  eventId := toString event.id
  eventType := event.eventType
  schemaVersion := event.schemaVersion
  aggregateId := toString event.aggregateId
  aggregateVersion := event.aggregateVersion
  occurredAt := env.isoformat event.createdAt
  idempotencyKey := (event.idempotencyKey.filter (· ≠ "")).getD (toString event.id)
  source := "breero"
  payload := payloadJson event.payload }

/-- `MiddlewareAdapter.envelope` -/
def envelopeOf (env : Env) (event : OutboxEvent) : Except Failure Envelope := do
  let envelope := buildEventEnvelope env event
  require (envelope.eventType ∈ allowedEvents)
    (eventDeliveryError "MIDDLEWARE_EVENT_NOT_ALLOWED" true)
  return envelope

mutual
/-- A payload as a value of `json`. -/
def jsonValue : Json → JsonText.Value
  | .null => .null
  | .bool b => .bool b
  | .int n => .int n
  | .float value => .float (.finite value)
  | .str s => .str (ofString s)
  | .arr items => .arr (itemValues items)
  | .obj fields => .obj (fieldValues fields)

def itemValues : Items → List JsonText.Value
  | .nil => []
  | .cons head tail => jsonValue head :: itemValues tail

def fieldValues : Fields → List (JsonText.Text × JsonText.Value)
  | .nil => []
  | .cons key value rest => (ofString key, jsonValue value) :: fieldValues rest
end

/-- The `dict` of an envelope. -/
def envelopeValue (envelope : Envelope) : JsonText.Value := .obj [
  (ofString "event_id", .str (ofString envelope.eventId)),
  (ofString "event_type", .str (ofString envelope.eventType)),
  (ofString "schema_version", .int envelope.schemaVersion),
  (ofString "aggregate_id", .str (ofString envelope.aggregateId)),
  (ofString "aggregate_version", .int envelope.aggregateVersion),
  (ofString "occurred_at", .str (ofString envelope.occurredAt)),
  (ofString "idempotency_key", .str (ofString envelope.idempotencyKey)),
  (ofString "source", .str (ofString envelope.source)),
  (ofString "payload", jsonValue envelope.payload)]

def canonicalBody (env : Env) (envelope : Envelope) : List UInt8 :=
  JsonText.canonicalBytes env.floatText (envelopeValue envelope)

/-! ## The signature -/

def isByteSpace (b : UInt8) : Bool := b = 32 || (9 ≤ b && b ≤ 13)

def stripBytes (bytes : List UInt8) : List UInt8 :=
  ((bytes.dropWhile isByteSpace).reverse.dropWhile isByteSpace).reverse

/-- `_secret` -/
def secret (settings : Settings) : Except Failure (List UInt8) := do
  let bytes ← orRaise settings.hmacSecretFile
    (eventDeliveryError "MIDDLEWARE_SECRET_UNAVAILABLE" true)
  require (32 ≤ (stripBytes bytes).length) (eventDeliveryError "MIDDLEWARE_SECRET_INVALID" true)
  return stripBytes bytes

/-- The values that are signed. -/
def signedValues (env : Env) (settings : Settings) (body : List UInt8)
    (idempotencyKey timestamp nonce : String) : List String := [
  VERSION, "POST", PATH, timestamp, nonce, settings.serviceIdentity, settings.audience,
  settings.appEnv, settings.scope, idempotencyKey, env.sha256 body]

def signable (value : String) : Bool :=
  value ≠ "" && !value.toList.contains '\n' && !value.toList.contains '\r'

/-- `"\n".join(values)` -/
def signedText (values : List String) : List Char :=
  List.intercalate ['\n'] (values.map String.toList)

/-- `encode("ascii")` -/
def asciiBytes (env : Env) (text : List Char) : Except Failure (List UInt8) := do
  require (text.all fun c => c.toNat < 128)
    { text := env.encodeError (String.ofList text), code := "UnicodeEncodeError" }
  return text.map fun c => UInt8.ofNat c.toNat

def headers (env : Env) (settings : Settings) (body : List UInt8)
    (idempotencyKey timestamp nonce : String) : Except Failure (List (String × String)) := do
  let values := signedValues env settings body idempotencyKey timestamp nonce
  require (∀ value ∈ values, signable value)
    (eventDeliveryError "MIDDLEWARE_SIGNING_CONFIGURATION_INVALID" true)
  let key ← secret settings
  let message ← asciiBytes env (signedText values)
  return [
    ("Content-Type", "application/json"),
    ("X-Codestra-Signature-Version", VERSION),
    ("X-Service-Identity", settings.serviceIdentity),
    ("X-Service-Audience", settings.audience),
    ("X-Codestra-Timestamp", timestamp),
    ("X-Codestra-Nonce", nonce),
    ("X-Codestra-Content-SHA256", env.sha256 body),
    ("X-Codestra-Signature", env.hmac key message),
    ("X-HMAC-Key-ID", settings.hmacKeyId),
    ("X-Codestra-Environment", settings.appEnv),
    ("X-Codestra-Scope", settings.scope),
    ("X-Codestra-Tenant", settings.tenant),
    ("Idempotency-Key", idempotencyKey)]

/-! ## The request -/

structure Request where
  envelope : Envelope
  body : List UInt8
  headers : List (String × String)
  deriving DecidableEq, Repr

/-- `deliver` up to the request. -/
def post (env : Env) (settings : Settings) (event : OutboxEvent) (now : Instant)
    (nonce : String) : Except Failure Request := do
  require (settings.middlewareEnabled = true) (eventDeliveryError "MIDDLEWARE_DISABLED" true)
  let envelope ← envelopeOf env event
  let body := canonicalBody env envelope
  let headers ← headers env settings body envelope.idempotencyKey (env.isoformat now) nonce
  return { envelope, body, headers }

/-! ## The answer -/

/-- How the request ended: without an answer, with one, or with an exception that `deliver` does
not catch, such as a body that is no JSON. -/
inductive Response
  | unavailable
  | status (code : Nat)
  | json (acknowledgement : JsonText.Value)
  | raised (failure : Failure)

def terminalStatuses : List Nat := [400, 401, 403, 404, 409, 422]

def ackStatuses : List String := ["queued", "delivered", "replayed"]

/-- `int(value)`, of what is true in Python. -/
def recordNumber : JsonText.Value → Except Failure Int
  | .bool b => .ok (if b then 1 else 0)
  | .int n => .ok n
  | .float (.finite q) => .ok (if 0 ≤ q then q.floor else -(-q).floor)
  | .float (.infinite _) => .error
    { text := "cannot convert float infinity to integer", code := "OverflowError" }
  | .float .nan => .error
    { text := "cannot convert float NaN to integer", code := "ValueError" }
  | .str s => orRaise (intOfChars (s.map Char.ofNat))
    { text := "invalid literal for int() with base 10", code := "ValueError" }
  | .null | .arr _ | .obj _ => .error
    { text := "int() argument must be a string, a bytes-like object or a real number",
      code := "TypeError" }

/-- `str(value)` -/
def Env.text (env : Env) : JsonText.Value → String
  | .str s => String.ofList (s.map Char.ofNat)
  | value => env.str value

/-- The status is one of an acknowledgement. A list or an object is not looked up in a set. -/
def ackStatus : JsonText.Value → Except Failure Bool
  | .str s => .ok (s ∈ ackStatuses.map ofString)
  | .arr _ => .error { text := "unhashable type: 'list'", code := "TypeError" }
  | .obj _ => .error { text := "unhashable type: 'dict'", code := "TypeError" }
  | .null | .bool _ | .int _ | .float _ => .ok false

def isText (text : JsonText.Text) : JsonText.Value → Bool
  | .str s => s = text
  | _ => false

/-- The members of the acknowledgement, on which `get` is called. -/
def ackMembers : JsonText.Value → Except Failure (List (JsonText.Text × JsonText.Value))
  | .obj members => .ok members
  | _ => .error { text := "object has no attribute 'get'", code := "AttributeError" }

/-- The checks of an acknowledgement, and the result that is read from it. -/
def acknowledged (env : Env) (envelope : Envelope) (acknowledgement : JsonText.Value) :
    Except Failure EventDeliveryResult := do
  let members ← ackMembers acknowledgement
  let get key := JsonText.getMember members (ofString key)
  require (isText (ofString envelope.eventId) (get "event_id"))
    (eventDeliveryError "MIDDLEWARE_INVALID_ACK" true)
  let known ← ackStatus (get "status")
  require (known = true) (eventDeliveryError "MIDDLEWARE_INVALID_ACK" true)
  let externalId ←
    if (get "odoo_record_id").truthy then recordNumber (get "odoo_record_id") else .ok 0
  let model :=
    if members.any fun member => member.1 = ofString "odoo_model" then env.text (get "odoo_model")
    else "middleware.pending"
  return { externalId, model }

/-- `deliver` once the request has ended. -/
def answered (env : Env) (envelope : Envelope) : Response → Except Failure EventDeliveryResult
  | .unavailable => .error (eventDeliveryError "MIDDLEWARE_UNAVAILABLE")
  | .status code => .error
    (eventDeliveryError ("MIDDLEWARE_HTTP_" ++ toString code) (code ∈ terminalStatuses))
  | .json acknowledgement => acknowledged env envelope acknowledgement
  | .raised failure => .error failure

/-- `MiddlewareAdapter.deliver` -/
def deliver (env : Env) (settings : Settings) (event : OutboxEvent) (now : Instant)
    (nonce : String) (response : Response) : Except Failure EventDeliveryResult := do
  let request ← post env settings event now nonce
  answered env request.envelope response

end Breero.Middleware
