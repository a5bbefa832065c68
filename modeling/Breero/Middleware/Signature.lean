import Breero.Lib.Text
import Breero.Middleware.Delivery

/-!
What the signature of a request binds, and what its body is read as.

* `loads_body`: the body of a request is read as the members of its envelope;
* `canonicalBody_inj`: envelopes of events have different bodies unless they are the same;
* `signedText_inj`: values without line feeds are read back from the text that is signed;
* `signature_binds`: requests with the same signed text are the same but for the headers that are
  not signed.
-/

namespace Breero.Middleware
open Transaction Outbox Crm
open JsonText (ofString ofString_inj ofString_scalar)

/-! ## Payloads as values -/

theorem lt_of_map_toNat : ∀ {s t : List Char},
    List.lt (s.map Char.toNat) (t.map Char.toNat) → List.lt s t := by
  intro s
  induction s with
  | nil =>
    intro t h
    cases t with
    | nil => cases h
    | cons d t => exact List.Lex.nil
  | cons c s ih =>
    intro t h
    cases t with
    | nil => cases h
    | cons d t =>
      rcases List.cons_lt_cons_iff.mp h with hlt | ⟨heq, hlt⟩
      · exact List.Lex.rel hlt
      · cases Char.toNat_inj.mp heq
        exact List.Lex.cons (ih hlt)

/-- The order of texts is that of their code points. -/
theorem ofString_le {s t : String} (h : s ≤ t) : JsonText.NotAfter (ofString s) (ofString t) :=
  fun hlt => h (lt_of_map_toNat hlt)

mutual
theorem jsonValue_inj : ∀ {a b : Json}, jsonValue a = jsonValue b → a = b
  | .null, b, h => by
    cases b <;> simp only [jsonValue] at h <;> first | rfl | cases h
  | .bool _, b, h => by
    cases b <;> simp only [jsonValue] at h <;> cases h
    rfl
  | .int _, b, h => by
    cases b <;> simp only [jsonValue] at h <;> cases h
    rfl
  | .float _, b, h => by
    cases b <;> simp only [jsonValue] at h <;> cases h
    rfl
  | .str _, b, h => by
    cases b <;> simp only [jsonValue] at h <;> try cases h
    rw [ofString_inj.mp (JsonText.Value.str.inj h)]
  | .arr _, b, h => by
    cases b <;> simp only [jsonValue] at h <;> try cases h
    rw [itemValues_inj (JsonText.Value.arr.inj h)]
  | .obj _, b, h => by
    cases b <;> simp only [jsonValue] at h <;> try cases h
    rw [fieldValues_inj (JsonText.Value.obj.inj h)]

theorem itemValues_inj : ∀ {a b : Items}, itemValues a = itemValues b → a = b
  | .nil, .nil, _ => rfl
  | .nil, .cons _ _, h => by cases h
  | .cons _ _, .nil, h => by cases h
  | .cons _ _, .cons _ _, h => by
    simp only [itemValues] at h
    obtain ⟨hhead, htail⟩ := List.cons.inj h
    rw [jsonValue_inj hhead, itemValues_inj htail]

theorem fieldValues_inj : ∀ {a b : Fields}, fieldValues a = fieldValues b → a = b
  | .nil, .nil, _ => rfl
  | .nil, .cons _ _ _, h => by cases h
  | .cons _ _ _, .nil, h => by cases h
  | .cons _ _ _, .cons _ _ _, h => by
    simp only [fieldValues] at h
    obtain ⟨hhead, htail⟩ := List.cons.inj h
    obtain ⟨hkey, hvalue⟩ := Prod.mk.inj hhead
    rw [ofString_inj.mp hkey, jsonValue_inj hvalue, fieldValues_inj htail]
end

/-! ## What a payload holds -/

def names : Fields → List String
  | .nil => []
  | .cons name _ rest => name :: names rest

mutual
/-- No number is a float, and the members of an object stand in the order of their keys. -/
def Stored : Json → Prop
  | .float _ => False
  | .arr items => StoredItems items
  | .obj fields => StoredFields fields ∧ (names fields).Pairwise (· ≤ ·)
  | .null | .bool _ | .int _ | .str _ => True

def StoredItems : Items → Prop
  | .nil => True
  | .cons head tail => Stored head ∧ StoredItems tail

def StoredFields : Fields → Prop
  | .nil => True
  | .cons _ value rest => Stored value ∧ StoredFields rest
end

theorem fieldValues_keys (fields : Fields) :
    (fieldValues fields).map Prod.fst = (names fields).map ofString := by
  induction fields using names.induct with
  | case1 => rfl
  | case2 name value rest ih => simp only [fieldValues, names, List.map_cons, ih]

mutual
theorem jsonValue_plain : ∀ value : Json, Stored value → (jsonValue value).Plain
  | .null, _ | .bool _, _ | .int _, _ => trivial
  | .str s, _ => ofString_scalar s
  | .arr items, h => itemValues_plain items h
  | .obj fields, h => fieldValues_plain fields h.1

theorem itemValues_plain : ∀ items : Items, StoredItems items →
    JsonText.PlainItems (itemValues items)
  | .nil, _ => trivial
  | .cons head tail, h => ⟨jsonValue_plain head h.1, itemValues_plain tail h.2⟩

theorem fieldValues_plain : ∀ fields : Fields, StoredFields fields →
    JsonText.PlainMembers (fieldValues fields)
  | .nil, _ => trivial
  | .cons key value rest, h =>
    ⟨ofString_scalar key, jsonValue_plain value h.1, fieldValues_plain rest h.2⟩
end

mutual
theorem jsonValue_sorted : ∀ value : Json, Stored value → (jsonValue value).sorted = jsonValue value
  | .null, _ | .bool _, _ | .int _, _ | .str _, _ => rfl
  | .arr items, h => congrArg JsonText.Value.arr (itemValues_sorted items h)
  | .obj fields, h => by
    have hkeys : (fieldValues fields).Pairwise fun a b => JsonText.NotAfter a.1 b.1 := by
      rw [← List.pairwise_map, fieldValues_keys, List.pairwise_map]
      exact h.2.imp ofString_le
    rw [jsonValue, JsonText.Value.sorted, fieldValues_sorted fields h.1, hkeys.insertionSort_eq]

theorem itemValues_sorted : ∀ items : Items, StoredItems items →
    JsonText.sortedItems (itemValues items) = itemValues items
  | .nil, _ => rfl
  | .cons head tail, h => by
    rw [itemValues, JsonText.sortedItems, jsonValue_sorted head h.1, itemValues_sorted tail h.2]

theorem fieldValues_sorted : ∀ fields : Fields, StoredFields fields →
    JsonText.sortedMembers (fieldValues fields) = fieldValues fields
  | .nil, _ => rfl
  | .cons key value rest, h => by
    rw [fieldValues, JsonText.sortedMembers, jsonValue_sorted value h.1,
      fieldValues_sorted rest h.2]
end

theorem names_fieldsOf (members : List (String × Json)) :
    names (fieldsOf members) = members.map Prod.fst := by
  induction members with
  | nil => rfl
  | cons member members ih =>
    obtain ⟨name, value⟩ := member
    rw [fieldsOf, names, ih, List.map_cons]

theorem fieldsOf_stored {members : List (String × Json)}
    (h : ∀ member ∈ members, Stored member.2) : StoredFields (fieldsOf members) := by
  induction members with
  | nil => trivial
  | cons member members ih =>
    obtain ⟨name, value⟩ := member
    exact ⟨h _ List.mem_cons_self, ih fun member hm => h member (List.mem_cons_of_mem _ hm)⟩

theorem objectOf_stored {members : List (String × Json)}
    (h : ∀ member ∈ members, Stored member.2) : Stored (objectOf members) := by
  have htotal : Std.Total fun a b : String × Json => a.1 ≤ b.1 :=
    ⟨fun a b => String.le_total a.1 b.1⟩
  have htrans : IsTrans (String × Json) fun a b => a.1 ≤ b.1 := ⟨fun _ _ _ => String.le_trans⟩
  constructor
  · exact fieldsOf_stored fun member hm => h member ((List.mem_insertionSort _).mp hm)
  · rw [names_fieldsOf, List.pairwise_map]
    exact List.pairwise_insertionSort _ _

theorem itemsOf_stored (items : List String) : StoredItems (itemsOf items) := by
  induction items with
  | nil => trivial
  | cons item items ih => exact ⟨trivial, ih⟩

theorem formJson_stored (value : PublicSubmissions.FormValue) : Stored (formJson value) := by
  cases value with
  | null | uuid _ | bool _ | str _ => trivial
  | strings items => exact itemsOf_stored items
  | texts entries =>
    refine objectOf_stored fun member hm => ?_
    obtain ⟨entry, _, rfl⟩ := List.mem_map.mp hm
    trivial

theorem payloadJson_stored (payload : EventPayload) : Stored (payloadJson payload) := by
  cases payload with
  | fields payload =>
    refine objectOf_stored fun member hm => ?_
    obtain ⟨⟨name, value⟩, _, rfl⟩ := List.mem_map.mp hm
    cases value <;> trivial
  | submission submissionId route payload =>
    have hform : Stored (objectOf (payload.map fun field => (field.1, formJson field.2))) := by
      refine objectOf_stored fun member hm => ?_
      obtain ⟨field, _, rfl⟩ := List.mem_map.mp hm
      exact formJson_stored field.2
    refine objectOf_stored fun member hm => ?_
    simp only [List.mem_cons, List.not_mem_nil, or_false] at hm
    rcases hm with rfl | rfl | rfl
    · trivial
    · trivial
    · exact hform

/-! ## The body -/

theorem envelopeValue_plain {envelope : Envelope} (h : Stored envelope.payload) :
    (envelopeValue envelope).Plain := by
  have htext := ofString_scalar
  exact ⟨htext _, htext _, htext _, htext _, htext _, trivial, htext _, htext _, htext _, trivial,
    htext _, htext _, htext _, htext _, htext _, htext _, htext _,
    jsonValue_plain envelope.payload h, trivial⟩

/-- The members of an envelope in the order in which they are sent. -/
def sentMembers (envelope : Envelope) : List (JsonText.Text × JsonText.Value) := [
  (ofString "aggregate_id", .str (ofString envelope.aggregateId)),
  (ofString "aggregate_version", .int envelope.aggregateVersion),
  (ofString "event_id", .str (ofString envelope.eventId)),
  (ofString "event_type", .str (ofString envelope.eventType)),
  (ofString "idempotency_key", .str (ofString envelope.idempotencyKey)),
  (ofString "occurred_at", .str (ofString envelope.occurredAt)),
  (ofString "payload", jsonValue envelope.payload),
  (ofString "schema_version", .int envelope.schemaVersion),
  (ofString "source", .str (ofString envelope.source))]

theorem envelopeValue_sorted {envelope : Envelope} (h : Stored envelope.payload) :
    (envelopeValue envelope).sorted = .obj (sentMembers envelope) := by
  have hsorted : (envelopeValue envelope).sorted = .obj
      (sentMembers envelope |>.map fun member => (member.1, member.2.sorted)) := rfl
  rw [hsorted]
  simp only [sentMembers, List.map_cons, List.map_nil, jsonValue_sorted envelope.payload h]
  rfl

theorem sentMembers_inj {envelope envelope' : Envelope}
    (h : sentMembers envelope = sentMembers envelope') : envelope = envelope' := by
  cases envelope
  cases envelope'
  simp only [sentMembers, List.cons.injEq, Prod.mk.injEq, JsonText.Value.str.injEq,
    JsonText.Value.int.injEq, ofString_inj, true_and, and_true] at h
  obtain ⟨rfl, rfl, rfl, rfl, rfl, rfl, hpayload, rfl, rfl⟩ := h
  rw [jsonValue_inj hpayload]

theorem canonicalBody_inj (env : Env) {envelope envelope' : Envelope}
    (h : Stored envelope.payload) (h' : Stored envelope'.payload)
    (hbody : canonicalBody env envelope = canonicalBody env envelope') : envelope = envelope' := by
  have hsorted := (JsonText.canonicalBytes_inj env.floatText (envelopeValue_plain h)
    (envelopeValue_plain h')).mp hbody
  rw [envelopeValue_sorted h, envelopeValue_sorted h'] at hsorted
  exact sentMembers_inj (JsonText.Value.obj.inj hsorted)

/-! ## The request -/

/-- What the request of an event holds. -/
structure Posted (env : Env) (settings : Settings) (event : OutboxEvent) (now : Instant)
    (nonce : String) (request : Request) : Prop where
  allowed : event.eventType ∈ allowedEvents
  envelope : request.envelope = buildEventEnvelope env event
  body : request.body = canonicalBody env request.envelope
  headers : headers env settings request.body request.envelope.idempotencyKey (env.isoformat now)
    nonce = .ok request.headers

theorem post_ok {env : Env} {settings : Settings} {event : OutboxEvent} {now : Instant}
    {nonce : String} {request : Request} (h : post env settings event now nonce = .ok request) :
    Posted env settings event now nonce request := by
  simp only [post, envelopeOf, seq_committed, require_committed, return_committed] at h
  obtain ⟨_, _, envelope, ⟨_, hallowed, rfl⟩, headers, hheaders, rfl⟩ := h
  exact ⟨hallowed, rfl, rfl, hheaders⟩

theorem Posted.stored {env : Env} {settings : Settings} {event : OutboxEvent} {now : Instant}
    {nonce : String} {request : Request} (h : Posted env settings event now nonce request) :
    Stored request.envelope.payload := by
  rw [h.envelope]
  exact payloadJson_stored event.payload

/-- The body of a request, read as JSON, is the envelope of its event. -/
theorem loads_body {env : Env} {settings : Settings} {event : OutboxEvent} {now : Instant}
    {nonce : String} {request : Request} (hpost : post env settings event now nonce = .ok request) :
    JsonText.loads {} request.body = .ok (.obj (sentMembers (buildEventEnvelope env event))) := by
  have h := post_ok hpost
  have hread := JsonText.loads_canonical env.floatText (envelopeValue_plain h.stored)
  rw [envelopeValue_sorted h.stored] at hread
  rw [h.body, ← h.envelope]
  exact hread

/-! ## The signed text -/

def Request.header (request : Request) (name : String) : String :=
  (request.headers.lookup name).getD ""

/-- The headers that are signed. -/
def signedHeaders : List String := [
  "X-Codestra-Timestamp", "X-Codestra-Nonce", "X-Service-Identity", "X-Service-Audience",
  "X-Codestra-Environment", "X-Codestra-Scope", "Idempotency-Key", "X-Codestra-Content-SHA256"]

/-- The text that is signed, as the headers of the request give it. -/
def Request.signedText (request : Request) : List Char :=
  Middleware.signedText ([VERSION, "POST", PATH] ++ signedHeaders.map request.header)

def messageBytes (text : List Char) : List UInt8 := text.map fun c => UInt8.ofNat c.toNat

theorem signable_line {value : String} (h : signable value) : '\n' ∉ value.toList := by
  simp only [signable, Bool.and_eq_true, Bool.not_eq_true', List.contains_eq_mem,
    decide_eq_false_iff_not] at h
  exact h.1.2

theorem signedText_inj {values values' : List String} (hne : values ≠ []) (hne' : values' ≠ [])
    (h : ∀ value ∈ values, signable value) (h' : ∀ value ∈ values', signable value)
    (hsame : Middleware.signedText values = Middleware.signedText values') : values = values' := by
  have hread : ∀ {values : List String}, values ≠ [] → (∀ value ∈ values, signable value) →
      (Middleware.signedText values).splitOn '\n' = values.map String.toList := by
    intro values hne h
    refine List.splitOn_intercalate '\n' ?_ (by simpa using hne)
    intro line hline
    obtain ⟨value, hvalue, rfl⟩ := List.mem_map.mp hline
    exact signable_line (h value hvalue)
  have hlines := congrArg (List.splitOn '\n') hsame
  rw [hread hne h, hread hne' h'] at hlines
  exact List.map_injective_iff.mpr (fun _ _ => String.toList_inj.mp) hlines

/-- The values that are signed, and the signature of the text they make. -/
theorem Posted.signed {env : Env} {settings : Settings} {event : OutboxEvent} {now : Instant}
    {nonce : String} {request : Request} (h : Posted env settings event now nonce request) :
    (∀ value ∈ [VERSION, "POST", PATH] ++ signedHeaders.map request.header, signable value) ∧
      request.header "X-Codestra-Content-SHA256" = env.sha256 request.body ∧
      ∃ key, secret settings = .ok key ∧
        request.header "X-Codestra-Signature" = env.hmac key (messageBytes request.signedText) := by
  have hheaders := h.headers
  simp only [Middleware.headers, asciiBytes, seq_committed, require_committed,
    return_committed] at hheaders
  obtain ⟨_, hsignable, key, hsecret, message, ⟨_, _, rfl⟩, hlist⟩ := hheaders
  have hvalues : [VERSION, "POST", PATH] ++ signedHeaders.map request.header =
      signedValues env settings request.body request.envelope.idempotencyKey (env.isoformat now)
        nonce := by
    simp only [signedHeaders, List.map_cons, List.map_nil, Request.header, ← hlist]
    rfl
  refine ⟨hvalues ▸ hsignable, ?_, key, hsecret, ?_⟩
  · rw [Request.header, ← hlist]
    rfl
  · rw [messageBytes, Request.signedText, hvalues, Request.header, ← hlist]
    rfl

/-- The hashes tell apart the bodies of two requests, and their signed texts under the keys of the
settings that the requests are made with. -/
structure ToldApart (env : Env) (settings settings' : Settings) (request request' : Request) :
    Prop where
  body : env.sha256 request.body = env.sha256 request'.body → request.body = request'.body
  text : ∀ key key', secret settings = .ok key → secret settings' = .ok key' →
    env.hmac key (messageBytes request.signedText) =
      env.hmac key' (messageBytes request'.signedText) → request.signedText = request'.signedText

/-- **The signature binds the request.** Two requests with the same signature, whichever settings,
events and times they were made with, are of the same event, and have the same body and the same
signed headers. -/
theorem signature_binds {env : Env} {settings settings' : Settings} {event event' : OutboxEvent}
    {now now' : Instant} {nonce nonce' : String} {request request' : Request}
    (hpost : post env settings event now nonce = .ok request)
    (hpost' : post env settings' event' now' nonce' = .ok request')
    (happart : ToldApart env settings settings' request request')
    (hsame : request.header "X-Codestra-Signature" = request'.header "X-Codestra-Signature") :
    event.id = event'.id ∧ request.envelope = request'.envelope ∧ request.body = request'.body ∧
      ∀ name ∈ signedHeaders, request.header name = request'.header name := by
  have h := post_ok hpost
  have h' := post_ok hpost'
  obtain ⟨hsignable, hdigest, key, hkey, hsignature⟩ := h.signed
  obtain ⟨hsignable', hdigest', key', hkey', hsignature'⟩ := h'.signed
  rw [hsignature, hsignature'] at hsame
  have htext := happart.text key key' hkey hkey' hsame
  have hvalues := signedText_inj (by simp) (by simp) hsignable hsignable' htext
  have hheaders : ∀ name ∈ signedHeaders, request.header name = request'.header name :=
    List.map_inj_left.mp (List.append_cancel_left hvalues)
  have hbody : request.body = request'.body := by
    apply happart.body
    rw [← hdigest, ← hdigest']
    exact hheaders _ (by decide)
  have henvelope : request.envelope = request'.envelope := by
    apply canonicalBody_inj env h.stored h'.stored
    rw [← h.body, ← h'.body, hbody]
  refine ⟨?_, henvelope, hbody, hheaders⟩
  have hid := congrArg Envelope.eventId henvelope
  rw [h.envelope, h'.envelope] at hid
  exact Text.toString_inj hid

/-! ### Two tenants -/

def disputeEvent : OutboxEvent := {
  id := 7, createdAt := 1786579200000000, aggregateType := "lead_dispute", aggregateId := 3
  eventType := "breero.lead_dispute.created", idempotencyKey := some "lead_dispute:3:1"
  payload := .fields [("dispute_id", .uuid 3), ("reason", .str "wrong \"number\"")]
  nextAttemptAt := 1786579200000000 }

def stagingEnv : Env := {
  isoformat := fun _ => "2026-08-13T00:00:00+00:00"
  sha256 := fun _ => "30f9266fbf360cff6b762fbb162d94bccc760ec54b7d6d269672554588e9838b"
  hmac := fun _ _ => "89b3b3a7d0dc92885794996f9a9d8a5c202ecba51ad574c32ec3cee1c52ce4ee"
  floatText := fun _ => []
  str := fun _ => ""
  encodeError := fun _ => "" }

def stagingSettings (tenant : String) : Settings := {
  serviceIdentity := "breero-staging", audience := "codestra-middleware-breero"
  appEnv := "staging", hmacKeyId := "breero-key-1", tenant
  hmacSecretFile := some (List.replicate 48 120) }

def disputeRequest (tenant : String) : Request := {
  envelope := buildEventEnvelope stagingEnv disputeEvent
  body := canonicalBody stagingEnv (buildEventEnvelope stagingEnv disputeEvent)
  headers := [
    ("Content-Type", "application/json"),
    ("X-Codestra-Signature-Version", "HMAC-V2"),
    ("X-Service-Identity", "breero-staging"),
    ("X-Service-Audience", "codestra-middleware-breero"),
    ("X-Codestra-Timestamp", "2026-08-13T00:00:00+00:00"),
    ("X-Codestra-Nonce", "nonce-1"),
    ("X-Codestra-Content-SHA256",
      "30f9266fbf360cff6b762fbb162d94bccc760ec54b7d6d269672554588e9838b"),
    ("X-Codestra-Signature",
      "89b3b3a7d0dc92885794996f9a9d8a5c202ecba51ad574c32ec3cee1c52ce4ee"),
    ("X-HMAC-Key-ID", "breero-key-1"),
    ("X-Codestra-Environment", "staging"),
    ("X-Codestra-Scope", "breero.crm.events.submit"),
    ("X-Codestra-Tenant", tenant),
    ("Idempotency-Key", "lead_dispute:3:1")] }

theorem headers_dispute (tenant : String) (body : List UInt8) :
    headers stagingEnv (stagingSettings tenant) body "lead_dispute:3:1"
      "2026-08-13T00:00:00+00:00" "nonce-1" = .ok (disputeRequest tenant).headers := by
  have hsecret : secret (stagingSettings tenant) = .ok (List.replicate 48 120) := by
    simp only [secret, seq_committed, orRaise_committed, require_committed, return_committed]
    exact ⟨_, rfl, (), by decide +kernel, by decide +kernel⟩
  -- neither the tenant nor the body is among the values, but for the digest of the body
  have hvalues : ∀ value ∈ signedValues stagingEnv (stagingSettings "") [] "lead_dispute:3:1"
      "2026-08-13T00:00:00+00:00" "nonce-1", signable value := by
    decide +kernel
  have hascii : (signedText (signedValues stagingEnv (stagingSettings "") []
      "lead_dispute:3:1" "2026-08-13T00:00:00+00:00" "nonce-1")).all fun c => c.toNat < 128 := by
    decide +kernel
  simp only [headers, asciiBytes, seq_committed, require_committed, return_committed]
  exact ⟨(), hvalues, _, hsecret, _, ⟨(), hascii, rfl⟩, rfl⟩

theorem post_dispute (tenant : String) : post stagingEnv (stagingSettings tenant) disputeEvent
    1786579200000000 "nonce-1" = .ok (disputeRequest tenant) := by
  have hallowed : (buildEventEnvelope stagingEnv disputeEvent).eventType ∈ allowedEvents := by
    decide +kernel
  have hkey : (buildEventEnvelope stagingEnv disputeEvent).idempotencyKey =
      "lead_dispute:3:1" := by
    decide +kernel
  simp only [post, envelopeOf, seq_committed, require_committed, return_committed]
  refine ⟨(), rfl, _, ⟨(), hallowed, rfl⟩, _, ?_, rfl⟩
  rw [hkey]
  exact headers_dispute tenant _

/-- The tenant is not signed: requests for two tenants have one signature. -/
theorem signature_binds_dispute :
    (disputeRequest "breero").header "X-Codestra-Tenant" ≠
        (disputeRequest "other").header "X-Codestra-Tenant" ∧
      (disputeRequest "breero").body = (disputeRequest "other").body ∧
      ∀ name ∈ signedHeaders,
        (disputeRequest "breero").header name = (disputeRequest "other").header name := by
  have happart : ToldApart stagingEnv (stagingSettings "breero") (stagingSettings "other")
      (disputeRequest "breero") (disputeRequest "other") :=
    ⟨fun _ => rfl, fun _ _ _ _ _ => rfl⟩
  obtain ⟨_, _, hbody, hheaders⟩ :=
    signature_binds (post_dispute "breero") (post_dispute "other") happart rfl
  exact ⟨by decide, hbody, hheaders⟩

theorem loads_body_dispute : JsonText.loads {} (disputeRequest "breero").body =
    .ok (.obj (sentMembers (buildEventEnvelope stagingEnv disputeEvent))) :=
  loads_body (post_dispute "breero")

end Breero.Middleware
