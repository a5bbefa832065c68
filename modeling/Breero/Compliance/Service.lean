import Breero.Common.Outbox
import Breero.Lib.Runs
import Breero.Lib.Table
import Breero.Lib.Transaction

/-!
Consent, privacy requests and the suppressions of destinations: `ComplianceService` and the
endpoints over it.

* `suppress` and `reactivate` change the row of a destination, a channel and a purpose;
* `privacyRequest`, `preferences` and `smsRevocation` are the transactions of the endpoints;
* `exec` is a call of one of them, which leaves the tables as they are if it raises.
-/

namespace Breero.Compliance
open KeyedTable Transaction Runs

/-! ## Rows -/

inductive Channel
  | all
  | email
  | sms
  deriving DecidableEq, Repr

inductive Purpose
  | transactionalEmail
  | transactionalSms
  | marketingEmail
  | marketingSms
  | saleSharing
  | targetedAdvertising
  | nonessentialTracking
  deriving DecidableEq, Repr

/-- The unique constraint of the table is its key. -/
structure Suppression where
  destinationHash : String
  channel : Channel
  purpose : Purpose
  reason : String
  active : Bool := true
  source : String
  deriving DecidableEq, Repr

/-- A destination, a channel and a purpose. -/
abbrev Subject := String × Channel × Purpose

instance : Keyed Suppression Subject :=
  ⟨fun item => (item.destinationHash, item.channel, item.purpose)⟩

structure ConsentEvent where
  destinationHash : String
  customerId : Option Uuid := none
  purpose : Purpose
  granted : Bool
  occurredAt : Instant
  sourceIpHash : String
  userAgent : Option String
  sourceUrl : String
  disclosureText : String
  policyVersions : List (String × String)
  evidence : Payload
  deriving DecidableEq, Repr

inductive PrivacyType
  | access
  | correction
  | deletion
  | portability
  | optOutSaleSharing
  | optOutTargetedAds
  | appeal
  deriving DecidableEq, Repr

def PrivacyType.value : PrivacyType → String
  | access => "access"
  | correction => "correction"
  | deletion => "deletion"
  | portability => "portability"
  | optOutSaleSharing => "opt_out_sale_sharing"
  | optOutTargetedAds => "opt_out_targeted_ads"
  | appeal => "appeal"

structure PrivacyRequest where
  id : Uuid
  requestType : PrivacyType
  normalizedEmail : String
  status : String := "RECEIVED"
  verificationState : String := "PENDING"
  receiptTokenHash : String
  jurisdiction : Option String
  dueAt : Instant
  completedAt : Option Instant := none
  sourceIpHash : String
  userAgent : Option String
  history : List Payload
  deriving DecidableEq, Repr

instance : Keyed PrivacyRequest Uuid := ⟨PrivacyRequest.id⟩

structure Db where
  suppressions : Table Suppression := .empty
  consents : List ConsentEvent := []
  requests : Table PrivacyRequest := .empty
  audits : List AuditLog := []

/-! ## The service -/

structure Env where
  /-- `hashlib.sha256(value.encode()).hexdigest()` -/
  sha256 : String → String
  isoformat : Instant → String

def digest (env : Env) (value : String) : String := env.sha256 (lower (strip value))

/-- What a column `String(n)` takes. -/
def fits (n : Nat) (value : String) : Bool := value.length ≤ n

/-- `split()` -/
def words (text : List Char) : List (List Char) :=
  (text.splitOnP isSpace).filter (· ≠ [])

/-- `" ".join(message.upper().replace("-", " ").split())` -/
def normalized (message : String) : String :=
  " ".intercalate
    ((words ((upper message).toList.map fun c => if c = '-' then ' ' else c)).map String.ofList)

/-- `phrase in text` -/
def contains (text phrase : String) : Bool :=
  text.toList.tails.any fun tail => phrase.toList.isPrefixOf tail

def revocations : List String :=
  ["STOP", "QUIT", "END", "REVOKE", "OPT OUT", "CANCEL", "UNSUBSCRIBE"]

def revocationPhrases : List String :=
  ["STOP TEXTING", "DO NOT TEXT", "REMOVE ME", "NO MORE MESSAGES"]

def isRevocation (message : String) : Bool :=
  normalized message ∈ revocations || revocationPhrases.any (contains (normalized message))

def suppress (db : Db) (destinationHash : String) (channel : Channel) (purpose : Purpose)
    (reason source : String) : Db := { db with
  suppressions :=
    match db.suppressions.get? (destinationHash, channel, purpose) with
    | some item => db.suppressions.put { item with active := true, reason, source }
    | none =>
      (db.suppressions.insert? { destinationHash, channel, purpose, reason, source }).getD
        db.suppressions }

def reactivate (db : Db) (destinationHash : String) (channel : Channel) (purpose : Purpose) : Db :=
  { db with
    suppressions :=
      match db.suppressions.get? (destinationHash, channel, purpose) with
      | some item =>
        if item.active then db.suppressions.put { item with active := false } else db.suppressions
      | none => db.suppressions }

structure PrivacyRequestCreate where
  requestType : PrivacyType
  email : String
  jurisdiction : Option String := none
  gpc : Bool := false
  deriving DecidableEq, Repr

/-- The pattern `^[A-Z]{2}$` of the jurisdiction. -/
def PrivacyRequestCreate.valid (data : PrivacyRequestCreate) : Bool :=
  data.jurisdiction.all fun text => text.length = 2 && text.toList.all fun c => 'A' ≤ c && c ≤ 'Z'

def optOutPurposes : List Purpose := [.saleSharing, .targetedAdvertising, .nonessentialTracking]

def optsOut (data : PrivacyRequestCreate) : Bool :=
  data.requestType = .optOutSaleSharing || data.requestType = .optOutTargetedAds || data.gpc

/-- `privacy_request`; `token` is what `token_urlsafe` returns. -/
def privacyRequest (env : Env) (db : Db) (data : PrivacyRequestCreate) (sourceIp : String)
    (userAgent : Option String) (id : Uuid) (token : String) (now : Instant) :
    Except Raised (Db × PrivacyRequest) := do
  require (userAgent.all (fits 500)) (.other "DataError")
  let item : PrivacyRequest := {
    id
    requestType := data.requestType
    normalizedEmail := lower data.email
    receiptTokenHash := digest env token
    jurisdiction := data.jurisdiction
    dueAt := now + 45 * 86400 * 1000000
    sourceIpHash := digest env sourceIp
    userAgent
    history := [[("at", .str (env.isoformat now)), ("action", .str "received"),
      ("gpc", .bool data.gpc)]] }
  let requests ← orRaise (db.requests.insert? item) (.integrityError "privacy_requests_pkey")
  let db := { db with requests }
  let db := if optsOut data then
      optOutPurposes.foldl (fun db purpose => suppress db (digest env data.email) .all purpose
        "PRIVACY_OPT_OUT" (if data.gpc then "GPC" else "PRIVACY_REQUEST")) db
    else db
  return ({ db with
    audits := db.audits ++ [{
      actorId := none
      actorType := "consumer"
      action := "privacy_request.received"
      resourceType := "privacy_request"
      resourceId := id
      metadata := [("request_type", .str data.requestType.value), ("gpc", .bool data.gpc)]
      createdAt := now }] }, item)

structure CommunicationPreferenceCreate where
  destination : String
  transactionalEmail : Bool := false
  transactionalSms : Bool := false
  marketingEmail : Bool := false
  marketingSms : Bool := false
  sourceUrl : String
  disclosureText : String
  policyVersions : List (String × String)
  deriving DecidableEq, Repr

namespace CommunicationPreferenceCreate

/-- `"@" in data.destination` -/
def isEmail (data : CommunicationPreferenceCreate) : Bool := '@' ∈ data.destination.toList

/-- The bounds of the fields and `valid_destination`. -/
def valid (data : CommunicationPreferenceCreate) : Bool :=
  5 ≤ data.destination.length && data.destination.length ≤ 320 &&
    10 ≤ data.disclosureText.length && data.disclosureText.length ≤ 4000 &&
    !(data.isEmail && data.transactionalSms) && !(!data.isEmail && data.transactionalEmail)

/-- The `values` of the loop that apply to the destination. -/
def applicable (data : CommunicationPreferenceCreate) : List (Purpose × Bool) :=
  if data.isEmail then
    [(.transactionalEmail, data.transactionalEmail), (.marketingEmail, data.marketingEmail)]
  else [(.transactionalSms, data.transactionalSms), (.marketingSms, data.marketingSms)]

/-- `"EMAIL" if "EMAIL" in purpose else "SMS"` -/
def channel (data : CommunicationPreferenceCreate) : Channel :=
  if data.isEmail then .email else .sms

end CommunicationPreferenceCreate

/-- One turn of the loop of `preferences`. -/
def prefer (env : Env) (data : CommunicationPreferenceCreate) (sourceIp : String)
    (userAgent : Option String) (now : Instant) (db : Db) (value : Purpose × Bool) : Db :=
  let hashed := digest env data.destination
  let db := { db with
    consents := db.consents ++ [{
      destinationHash := hashed
      purpose := value.1
      granted := value.2
      occurredAt := now
      sourceIpHash := digest env sourceIp
      userAgent
      sourceUrl := data.sourceUrl
      disclosureText := data.disclosureText
      policyVersions := data.policyVersions
      evidence := [("checkbox_state", .bool value.2), ("brand", .str "BREERO")] }] }
  if value.2 then reactivate db hashed data.channel value.1
  else suppress db hashed data.channel value.1 "PREFERENCE_WITHDRAWN" "PREFERENCE_CENTER"

/-- `preferences`, and `suppression_active` of its answer. -/
def preferences (env : Env) (db : Db) (data : CommunicationPreferenceCreate) (sourceIp : String)
    (userAgent : Option String) (now : Instant) : Except Raised (Db × Bool) := do
  require (userAgent.all (fits 500) ∧ fits 500 data.sourceUrl) (.other "DataError")
  return (data.applicable.foldl (prefer env data sourceIp userAgent now) db,
    !data.applicable.all (·.2))

structure SmsRevocation where
  phone : String
  message : String
  deriving DecidableEq, Repr

def SmsRevocation.valid (data : SmsRevocation) : Bool :=
  7 ≤ data.phone.length && data.phone.length ≤ 40 &&
    1 ≤ data.message.length && data.message.length ≤ 500

def smsRevocation (env : Env) (db : Db) (data : SmsRevocation) : Except Raised (Db × Unit) := do
  require (isRevocation data.message)
    (.httpException 422 "Message is not a recognized revocation")
  return (suppress db (digest env data.phone) .sms .marketingSms "RECIPIENT_REVOCATION"
    "SMS_INBOUND", ())

/-- `privacy_request_status`, of the header `Authorization`. -/
def privacyRequestStatus (env : Env) (db : Db) (requestId : Uuid) (authorization : String) :
    Except Raised PrivacyRequest := do
  require (startsWith authorization "Bearer ") (.httpException 401 "Receipt token required")
  let invalid : Raised := .httpException 403 "Invalid receipt token"
  let item ← orRaise (db.requests.get? requestId) invalid
  require (item.receiptTokenHash =
    digest env (String.ofList (authorization.toList.drop "Bearer ".length))) invalid
  return item

/-! ## Calls -/

inductive Call
  | privacyRequest (data : PrivacyRequestCreate) (sourceIp : String) (userAgent : Option String)
    (id : Uuid) (token : String) (now : Instant)
  | preferences (data : CommunicationPreferenceCreate) (sourceIp : String)
    (userAgent : Option String) (now : Instant)
  | smsRevocation (data : SmsRevocation)

def exec (env : Env) (db : Db) : Call → Db
  | .privacyRequest data sourceIp userAgent id token now =>
    if data.valid then commit db (privacyRequest env db data sourceIp userAgent id token now)
    else db
  | .preferences data sourceIp userAgent now =>
    if data.valid then commit db (preferences env db data sourceIp userAgent now) else db
  | .smsRevocation data => if data.valid then commit db (smsRevocation env db data) else db

end Breero.Compliance
