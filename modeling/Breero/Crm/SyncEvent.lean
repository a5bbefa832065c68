import Breero.Crm.Models

/-!
`process_breero_event`: an envelope is checked, looked up by its event id and its idempotency
key, and if it is new, routed to a lead or a case.
-/

namespace Breero.Crm
open KeyedTable Transaction

/-! ## Checks -/

def allowedEvents : List String := [
  "breero.service_request.created", "breero.service_request.updated",
  "breero.contact_request.created", "breero.provider_interest.created",
  "breero.booking.created", "breero.booking.status_changed",
  "breero.quote.created", "breero.quote.status_changed",
  "breero.lead_dispute.created", "breero.lead_dispute.resolved",
  "breero.customer.updated", "breero.provider.updated"]

def forbiddenKeys : List String := [
  "card_number", "cvc", "password", "access_token", "refresh_token",
  "stripe_secret", "api_key", "webhook_secret", "private_key"]

/-! `_contains_forbidden`. -/

mutual
def Json.containsForbidden : Json → Bool
  | .obj fields => fields.containsForbidden
  | .arr items => items.containsForbidden
  | _ => false

def Items.containsForbidden : Items → Bool
  | .nil => false
  | .cons head tail => head.containsForbidden || tail.containsForbidden

def Fields.containsForbidden : Fields → Bool
  | .nil => false
  | .cons key value rest =>
    lower key ∈ forbiddenKeys || value.containsForbidden || rest.containsForbidden
end

def validationError (message : String) : Raised := .other ("ValidationError: " ++ message)

/-- The checks of an envelope with all keys. -/
def checkEnvelope (envelope : Envelope) : Except Raised Unit := do
  require (envelope.source = "breero" ∧ envelope.schemaVersion = 1)
    (validationError "Unsupported BREERO event source or schema")
  require (envelope.eventType ∈ allowedEvents) (validationError "Unsupported BREERO event type")
  require (¬ envelope.payload.containsForbidden)
    (validationError "Forbidden secret or payment field")

/-! ## Partners -/

/-- The partner with the id of the customer or provider. -/
def partnerById (env : Env) (odoo : Odoo) (provider : Bool) (external : Json) :
    Option ResPartner :=
  (env.ordered odoo.partners.rows).find? fun partner =>
    (if provider then partner.providerId else partner.customerId) = external

/-- The only partner with the email. -/
def partnerByEmail (env : Env) (odoo : Odoo) (email : String) : Option ResPartner :=
  match (env.ordered odoo.partners.rows).filter fun partner => env.ilike partner.email email with
  | [partner] => some partner
  | _ => none

/-- `_partner`. -/
def partnerFor (env : Env) (odoo : Odoo) (payload : Fields) (provider : Bool) (partnerId : Nat) :
    Except Raised (Odoo × ResPartner) := do
  let external := (payload.get "provider_id").or (payload.get "customer_id")
  let email := lower (strip (env.text ((payload.get "email").or (.str ""))))
  let known := if external.truthy then partnerById env odoo provider external else none
  let known := known.or (if email ≠ "" then partnerByEmail env odoo email else none)
  match known with
  | some partner => return (odoo, partner)
  | none => do
    let partner : ResPartner := {
      id := partnerId
      name := (((payload.get "business_name").or (payload.get "contact_name")).or
        (payload.get "name")).or (.str "BREERO Contact")
      email := (Json.str email).or (.bool false)
      phone := (payload.get "phone").or (.bool false)
      contactType := if provider then "provider_company" else "customer"
      customerId := if provider then .bool false else external.or (.bool false)
      providerId := if provider then external.or (.bool false) else .bool false
      externalReference := external.or (.bool false) }
    let partners ← orRaise (odoo.partners.insert? partner) (.integrityError "res_partner_pkey")
    return ({ odoo with partners }, partner)

/-! ## Leads and cases -/

inductive OdooModel
  | crmCase
  | crmLead
  deriving DecidableEq, Repr

/-- `_name`. -/
def OdooModel.name : OdooModel → String
  | crmCase => "breero.crm.case"
  | crmLead => "crm.lead"

def Odoo.records (odoo : Odoo) : OdooModel → Table Record
  | .crmCase => odoo.cases
  | .crmLead => odoo.leads

def Odoo.withRecords (odoo : Odoo) (records : Table Record) : OdooModel → Odoo
  | .crmCase => { odoo with cases := records }
  | .crmLead => { odoo with leads := records }

/-- The record with the key, which is unique. -/
def found (odoo : Odoo) (model : OdooModel) (key : Values) : Option Record :=
  (odoo.records model).rows.find? fun record =>
    key.all fun (name, value) => record.field name = some value

/-- The found record, or a new one, is written. -/
def upsert (env : Env) (odoo : Odoo) (model : OdooModel) (record : Option Record)
    (values : Values) (recordId : Nat) : Except Raised (Odoo × Nat) := do
  env.check model.name values
  let (records, record) ← (match record with
    | some record => pure (odoo.records model, record)
    | none => do
      let record := Record.write { id := recordId } values
      let records ← orRaise ((odoo.records model).insert? record) (.integrityError "pkey")
      return (records, record))
  return (odoo.withRecords (records.put (record.write values)) model, record.id)

/-- What an event is routed to. -/
structure Routing where
  model : OdooModel
  recordId : Nat
  values : Values
  deriving DecidableEq, Repr

/-- The ids that the sequences give, and the time. -/
structure Drawn where
  eventRow : Nat
  partner : Nat
  record : Nat
  now : Instant
  deriving DecidableEq, Repr

/-! ### Contact requests -/

def contactTeam (category : Json) : String :=
  if category = .str "business" then "breero_crm.team_business"
  else if category = .str "provider_question" then "breero_crm.team_provider_recruitment"
  else "breero_crm.team_contact_support"

def contactValues (envelope : Envelope) (payload : Fields) (external : Json)
    (team partner : Nat) : Values := [
  ("name", .json ((payload.get "subject").or (.str "BREERO Contact"))),
  ("case_type", .json (.str "support")),
  ("external_reference", .json external),
  ("event_id", .json (.str envelope.eventId)),
  ("category", .json (payload.get "category")),
  ("message_text", .json (payload.get "message")),
  ("source_url", .json (payload.get "source_url")),
  ("team_id", .json (.int team)),
  ("partner_id", .json (.int partner))]

def caseKey (caseType : String) (external : Json) : Values := [
  ("case_type", .json (.str caseType)), ("external_reference", .json external)]

def routeContact (env : Env) (odoo : Odoo) (envelope : Envelope) (payload : Fields)
    (external : Json) (drawn : Drawn) : Except Raised (Odoo × Routing) := do
  let team ← env.ref (contactTeam (payload.get "category"))
  let record := found odoo .crmCase (caseKey "support" external)
  let (odoo, partner) ← partnerFor env odoo payload false drawn.partner
  let values := contactValues envelope payload external team partner.id
  let (odoo, recordId) ← upsert env odoo .crmCase record values drawn.record
  return (odoo, { model := .crmCase, recordId, values })

/-! ### Lead disputes -/

/-- `amount / 100`. -/
def hundredth : Json → Except Raised Cell
  | .int n => .ok (.hundredth n)
  | .float value => .ok (.hundredth value)
  | .bool b => .ok (.hundredth (if b then 1 else 0))
  | _ => .error (.other "TypeError")

def disputeValues (env : Env) (envelope : Envelope) (payload : Fields) (external : Json)
    (team partner : Nat) (currency : Option Nat) (amount : Cell) : Values := [
  ("name", .json (.str ("BREERO Lead Dispute — " ++ env.text external))),
  ("case_type", .json (.str "lead_dispute")),
  ("external_reference", .json external),
  ("event_id", .json (.str envelope.eventId)),
  ("team_id", .json (.int team)),
  ("partner_id", .json (.int partner)),
  ("lead_id", .json (payload.get "lead_id")),
  ("dispute_id", .json (payload.get "dispute_id")),
  ("provider_id", .json (payload.get "provider_id")),
  ("dispute_reason", .json (payload.get "reason")),
  ("dispute_submitted_at", .json (payload.get "submitted_at")),
  ("dispute_deadline_at", .json (payload.get "deadline_at")),
  ("dispute_status", .json (payload.get "status")),
  ("disputed_amount", amount),
  ("currency_id", .json (match currency with
    | some id => .int id
    | none => .bool false)),
  ("backend_authority_url_or_id", .json (payload.get "purchase_id"))]

def routeDispute (env : Env) (odoo : Odoo) (envelope : Envelope) (payload : Fields)
    (external : Json) (drawn : Drawn) : Except Raised (Odoo × Routing) := do
  let team ← env.ref "breero_crm.team_lead_disputes"
  let record := found odoo .crmCase (caseKey "lead_dispute" external)
  let currency := env.currency (payload.get "currency" (.str "USD"))
  let (odoo, partner) ← partnerFor env odoo payload true drawn.partner
  let amount ← hundredth ((payload.get "amount_minor").or (.int 0))
  let values := disputeValues env envelope payload external team partner.id currency amount
  let (odoo, recordId) ← upsert env odoo .crmCase record values drawn.record
  return (odoo, { model := .crmCase, recordId, values })

/-! ### Leads -/

def leadName (env : Env) (payload : Fields) (provider : Bool) (partner : ResPartner) : String :=
  let recordTitle := if provider then "Provider Interest" else "Service Request"
  "[BREERO] " ++ env.text (((payload.get "service_name").or (payload.get "service_slug")).or
      (.str recordTitle)) ++
    " — " ++ env.text (((payload.get "contact_name").or (payload.get "name")).or partner.name) ++
    " — " ++ env.text ((payload.get "city").or (.str ""))

def leadValues (env : Env) (envelope : Envelope) (payload : Fields) (external : Json)
    (provider : Bool) (team : Nat) (partner : ResPartner) (now : Instant) : Values := [
  ("name", .json (.str (leadName env payload provider partner))),
  ("type", .json (.str "lead")),
  ("team_id", .json (.int team)),
  ("partner_id", .json (.int partner.id)),
  ("contact_name", .json ((payload.get "contact_name").or (payload.get "name"))),
  ("partner_name", .json (payload.get "business_name")),
  ("email_from", .json (payload.get "email")),
  ("phone", .json (payload.get "phone")),
  ("street", .json (payload.get "address_line1")),
  ("city", .json (payload.get "city")),
  ("zip", .json (payload.get "postal_code")),
  ("x_breero_request_id", .json external),
  ("x_breero_external_reference", .json external),
  ("x_breero_event_id", .json (.str envelope.eventId)),
  ("x_breero_record_type", .json (.str (if provider then "provider_interest"
    else "service_request"))),
  ("x_breero_schema_version", .json (.int envelope.schemaVersion)),
  ("x_breero_last_synced_at", .moment now),
  ("x_breero_sync_status", .json (.str "delivered")),
  ("x_breero_service_id", .json (payload.get "service_id")),
  ("x_breero_service_slug", .json (payload.get "service_slug")),
  ("x_breero_request_details", .json (payload.get "service_description")),
  ("x_breero_requested_date", .json (payload.get "requested_date")),
  ("x_breero_requested_time_window", .json (payload.get "requested_timing")),
  ("x_breero_contact_preference", .json (payload.get "contact_preference")),
  ("x_breero_source_url", .json (payload.get "source_url")),
  ("x_breero_utm_content", .json (payload.get "utm_content")),
  ("x_breero_utm_term", .json (payload.get "utm_term")),
  ("x_breero_transactional_contact_allowed",
    .json (payload.get "transactional_contact_allowed" (.bool true))),
  ("x_breero_marketing_consent", .json (payload.get "marketing_consent" (.bool false))),
  ("x_breero_sms_consent", .json (payload.get "sms_consent" (.bool false))),
  ("x_breero_email_consent", .json (payload.get "email_consent" (.bool false))),
  ("x_breero_policy_version", .json (payload.get "policy_version"))]

/-- The values that are added for a provider. -/
def interestValues (payload : Fields) (external : Json) : Except Raised Values := do
  let listed ← ((payload.get "service_categories").or (.arr .nil)).elements
  let categories ← joined listed
  let area ← joined ([payload.get "city", payload.get "state", payload.get "postal_code"].filter
    Json.truthy)
  return [
    ("x_breero_provider_interest_id", .json external),
    ("x_breero_business_name", .json (payload.get "business_name")),
    ("x_breero_website", .json (payload.get "business_website")),
    ("x_breero_service_categories", .json (.str categories)),
    ("x_breero_service_area_text", .json (.str area)),
    ("x_breero_license_information", .json (payload.get "license_details")),
    ("x_breero_provider_notes", .json (payload.get "notes"))]

def leadKey (external : Json) : Values := [("x_breero_request_id", .json external)]

def routeLead (env : Env) (odoo : Odoo) (envelope : Envelope) (payload : Fields)
    (external : Json) (provider : Bool) (drawn : Drawn) : Except Raised (Odoo × Routing) := do
  let team ← env.ref (if provider then "breero_crm.team_provider_recruitment"
    else "breero_crm.team_customer_requests")
  let record := found odoo .crmLead (leadKey external)
  let (odoo, partner) ← partnerFor env odoo payload provider drawn.partner
  let values := leadValues env envelope payload external provider team partner drawn.now
  let added ← (if provider then interestValues payload external else pure [])
  let values := values ++ added
  let (odoo, recordId) ← upsert env odoo .crmLead record values drawn.record
  return (odoo, { model := .crmLead, recordId, values })

/-! ## Routing -/

/-- The id that the record is known by. -/
def externalId (envelope : Envelope) (wrapper payload : Fields) : Json :=
  ((wrapper.get "submission_id").or (payload.get "dispute_id")).or (.str envelope.aggregateId)

/-- `_route`. -/
def route (env : Env) (odoo : Odoo) (envelope : Envelope) (drawn : Drawn) :
    Except Raised (Odoo × Routing) := do
  let wrapper ← envelope.payload.dict
  let payload ← (wrapper.get "payload" envelope.payload).dict
  let external := externalId envelope wrapper payload
  if startsWith envelope.eventType "breero.contact_request" then
    routeContact env odoo envelope payload external drawn
  else if startsWith envelope.eventType "breero.lead_dispute" then
    routeDispute env odoo envelope payload external drawn
  else
    routeLead env odoo envelope payload external
      (startsWith envelope.eventType "breero.provider_interest") drawn

/-! ## `process_breero_event` -/

/-- The row with the event id and the row with the key: of two rows the one that was received
last, and of two that were received in the same second either. -/
def existing (odoo : Odoo) (envelope : Envelope) (either : Bool) : Option SyncEvent :=
  match odoo.syncs.rows.find? (fun sync => sync.eventId = envelope.eventId),
    odoo.syncs.rows.find? (fun sync => sync.idempotencyKey = envelope.idempotencyKey) with
  | none, none => none
  | some sync, none | none, some sync => some sync
  | some sync, some other =>
    if other.receivedAt < sync.receivedAt then some sync
    else if sync.receivedAt < other.receivedAt then some other
    else if either then some sync else some other

structure Ack where
  eventId : String
  status : SyncStatus
  odooModel : Option String
  odooRecordId : Option Nat
  deriving DecidableEq, Repr

/-- `_ack`. -/
def SyncEvent.ack (sync : SyncEvent) : Ack := {
  eventId := sync.eventId
  status := sync.status
  odooModel := sync.odooModel
  odooRecordId := sync.odooRecordId }

/-- `create` of the event, with the constraints of its table. -/
def Odoo.addSync (odoo : Odoo) (sync : SyncEvent) : Except Raised Odoo := do
  require (∀ other ∈ odoo.syncs.rows, other.eventId ≠ sync.eventId)
    (.integrityError "Event already received.")
  require (∀ other ∈ odoo.syncs.rows, other.eventType ≠ sync.eventType ∨
      other.aggregateId ≠ sync.aggregateId ∨ other.aggregateVersion ≠ sync.aggregateVersion)
    (.integrityError "Aggregate version already received.")
  require (∀ other ∈ odoo.syncs.rows, other.idempotencyKey ≠ sync.idempotencyKey)
    (.integrityError "Idempotency key already received.")
  let syncs ← orRaise (odoo.syncs.insert? sync) (.integrityError "breero_sync_event_pkey")
  return { odoo with syncs }

/-- A call of `process_breero_event`. -/
structure Call where
  envelope : Envelope
  /-- the caller is in the integration group -/
  integration : Bool := true
  drawn : Drawn
  either : Bool := true
  deriving DecidableEq, Repr

/-- The row of a new event. -/
def receivedRow (env : Env) (call : Call) : SyncEvent := {
  id := call.drawn.eventRow
  eventId := call.envelope.eventId
  eventType := call.envelope.eventType
  aggregateId := call.envelope.aggregateId
  aggregateVersion := call.envelope.aggregateVersion
  idempotencyKey := call.envelope.idempotencyKey
  schemaVersion := call.envelope.schemaVersion
  payloadDigest := env.digest call.envelope.payload
  receivedAt := call.drawn.now }

/-- The row once its event has been routed. -/
def processedRow (sync : SyncEvent) (routing : Routing) (now : Instant) : SyncEvent := {
  sync with
  status := .processed
  processedAt := some now
  odooModel := some routing.model.name
  odooRecordId := some routing.recordId }

/-- `process_breero_event`: the row that is acknowledged, and what the event was routed to if it
was new. -/
def processBreeroEvent (env : Env) (odoo : Odoo) (call : Call) :
    Except Raised (Odoo × SyncEvent × Option Routing) := do
  require (call.integration = true) (.other "AccessError: Integration service group required")
  checkEnvelope call.envelope
  match existing odoo call.envelope call.either with
  | some sync => do
    require (sync.payloadDigest = env.digest call.envelope.payload)
      (validationError "Idempotency payload conflict")
    return (odoo, sync, none)
  | none => do
    let sync := receivedRow env call
    let odoo ← odoo.addSync sync
    let (odoo, routing) ← route env odoo call.envelope call.drawn
    let sync := processedRow sync routing call.drawn.now
    return ({ odoo with syncs := odoo.syncs.put sync }, sync, some routing)

end Breero.Crm
