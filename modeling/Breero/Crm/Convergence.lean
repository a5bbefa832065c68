import Breero.Crm.SyncEvent
import Breero.Lib.Runs
import Mathlib.Data.Finset.Max

/-!
What the CRM makes of event envelopes that arrive in any order and any number of times.

* `RouteEffect` is what routing an event does to the leads and cases;
* `Step` is all that a call does, and `Inv` what holds in every run;
* `sync_converges_iff`: the records converge, and envelopes that reuse an id or a key with
  another content are rejected, in a run iff every call of it is `Orderly`.
-/

namespace Breero.Crm
open KeyedTable Transaction Runs

/-! ## The system -/

/-- An event that was routed. -/
structure Routed where
  envelope : Envelope
  routing : Routing
  deriving DecidableEq, Repr

structure World where
  odoo : Odoo
  routed : List Routed := []

def exec (env : Env) (w : World) (call : Call) : World :=
  match processBreeroEvent env w.odoo call with
  | .ok (odoo, _, some routing) =>
    { odoo, routed := w.routed ++ [{ envelope := call.envelope, routing }] }
  | .ok (odoo, _, none) => { w with odoo }
  | .error _ => w

/-! ## The laws -/

/-- Each event id and each idempotency key is routed at most once. -/
def RoutedOnce (w : World) : Prop :=
  (w.routed.map fun r => r.envelope.eventId).Nodup ∧
    (w.routed.map fun r => r.envelope.idempotencyKey).Nodup

/-- The acknowledgement of a routed event. -/
def Routed.ack (r : Routed) : Ack := {
  eventId := r.envelope.eventId
  status := .processed
  odooModel := some r.routing.model.name
  odooRecordId := some r.routing.recordId }

/-- A repetition of an accepted envelope changes nothing, and is acknowledged with its record. -/
def Repeats (env : Env) (w : World) (call : Call) : Prop :=
  call.integration = true → ∀ r ∈ w.routed, r.envelope = call.envelope →
    ∃ sync, processBreeroEvent env w.odoo call = .ok (w.odoo, sync, none) ∧ sync.ack = r.ack

/-- The payload, type, aggregate and version. -/
def Envelope.content (envelope : Envelope) : Json × String × String × Int :=
  (envelope.payload, envelope.eventType, envelope.aggregateId, envelope.aggregateVersion)

/-- The envelope has the event id or the idempotency key of the event. -/
def Reuses (envelope : Envelope) (r : Routed) : Prop :=
  r.envelope.eventId = envelope.eventId ∨ r.envelope.idempotencyKey = envelope.idempotencyKey

instance (envelope : Envelope) : DecidablePred (Reuses envelope) :=
  fun _ => inferInstanceAs (Decidable (_ ∨ _))

/-- An envelope that reuses an event id or a key with another content is rejected. -/
def Rejects (env : Env) (w : World) (call : Call) : Prop :=
  ∀ r ∈ w.routed, Reuses call.envelope r → r.envelope.content ≠ call.envelope.content →
    (processBreeroEvent env w.odoo call).isOk = false

instance (env : Env) (w : World) : DecidablePred (Rejects env w) :=
  fun _ => inferInstanceAs (Decidable (∀ r ∈ w.routed, _))

/-- The record that the event was routed to has the event's values. -/
def Shows (w : World) (r : Routed) : Prop :=
  ∃ record ∈ (w.odoo.records r.routing.model).get? r.routing.recordId,
    ∀ pair ∈ r.routing.values, record.field pair.1 = some pair.2

instance (w : World) : DecidablePred (Shows w) :=
  fun _ => inferInstanceAs (Decidable (∃ record ∈ (w.odoo.records _).get? _, _))

/-- No event of the aggregate was routed to the record with a higher version. -/
def Newest (w : World) (r : Routed) : Prop :=
  ∀ other ∈ w.routed, other.routing.model = r.routing.model →
    other.routing.recordId = r.routing.recordId →
    other.envelope.aggregateId = r.envelope.aggregateId →
    other.envelope.aggregateVersion ≤ r.envelope.aggregateVersion

instance (w : World) : DecidablePred (Newest w) :=
  fun _ => inferInstanceAs (Decidable (∀ other ∈ w.routed, _))

/-- Every record has the values of the event with the highest version of its aggregate. -/
def Converged (w : World) : Prop := ∀ r ∈ w.routed, Newest w r → Shows w r

instance : DecidablePred Converged := fun w => inferInstanceAs (Decidable (∀ r ∈ w.routed, _))

/-! ## The condition -/

/-- The model that an event is routed to, and the key of its record. -/
def recordKey (envelope : Envelope) : Except Raised (OdooModel × Values) := do
  let wrapper ← envelope.payload.dict
  let payload ← (wrapper.get "payload" envelope.payload).dict
  let external := externalId envelope wrapper payload
  if startsWith envelope.eventType "breero.contact_request" then
    return (.crmCase, caseKey "support" external)
  else if startsWith envelope.eventType "breero.lead_dispute" then
    return (.crmCase, caseKey "lead_dispute" external)
  else
    return (.crmLead, leadKey external)

/-- The record that there is for the event. -/
def destination (odoo : Odoo) (envelope : Envelope) : Option (OdooModel × Nat) :=
  match recordKey envelope with
  | .ok (model, key) => (found odoo model key).map fun record => (model, record.id)
  | .error _ => none

structure Orderly (env : Env) (w : World) (call : Call) : Prop where
  /-- what is taken for a repetition of the event that is found has the content of every event
  with its event id or its key -/
  faithful : call.integration = true → (checkEnvelope call.envelope).isOk →
    ∀ sync ∈ existing w.odoo call.envelope call.either,
      sync.payloadDigest = env.digest call.envelope.payload →
      ∀ r ∈ w.routed, Reuses call.envelope r → r.envelope.content = call.envelope.content
  /-- a new event that is accepted has a higher version than all events that were routed to its
  record, which are of its aggregate -/
  inOrder : existing w.odoo call.envelope call.either = none →
    (processBreeroEvent env w.odoo call).isOk →
    ∀ r ∈ w.routed, destination w.odoo call.envelope = some (r.routing.model, r.routing.recordId) →
      r.envelope.aggregateId = call.envelope.aggregateId ∧
        r.envelope.aggregateVersion < call.envelope.aggregateVersion

/-! ## Routing -/

/-- The field of a model that names the event. -/
def eventField : OdooModel → String
  | .crmCase => "event_id"
  | .crmLead => "x_breero_event_id"

/-- The values name the event, and no field twice. -/
structure Written (envelope : Envelope) (routing : Routing) : Prop where
  marked : (eventField routing.model, Cell.json (.str envelope.eventId)) ∈ routing.values
  distinct : (routing.values.map Prod.fst).Nodup

/-- What routing an event does to the records. -/
structure RouteEffect (odoo : Odoo) (envelope : Envelope) (routing : Routing) (odoo' : Odoo) :
    Prop where
  written : Written envelope routing
  syncs : odoo'.syncs = odoo.syncs
  shown : ∃ record, (odoo'.records routing.model).get? routing.recordId = some record ∧
    ∀ pair ∈ routing.values, record.field pair.1 = some pair.2
  others : ∀ model id, (model = routing.model → id ≠ routing.recordId) →
    (odoo'.records model).get? id = (odoo.records model).get? id
  reached : destination odoo envelope = some (routing.model, routing.recordId) ∨
    destination odoo envelope = none ∧
      (odoo.records routing.model).get? routing.recordId = none

theorem lookup_of_mem {values : Values} (hdistinct : (values.map Prod.fst).Nodup)
    {name : String} {cell : Cell} (h : (name, cell) ∈ values) :
    values.lookup name = some cell := by
  induction values with
  | nil => cases h
  | cons pair rest ih =>
    rw [List.map_cons, List.nodup_cons] at hdistinct
    rcases List.mem_cons.mp h with rfl | hrest
    · simp
    · have hne : name ≠ pair.1 := by
        intro heq
        exact hdistinct.1 (heq ▸ List.mem_map_of_mem hrest)
      obtain ⟨other, old⟩ := pair
      rw [List.lookup_cons, beq_false_of_ne hne]
      exact ih hdistinct.2 hrest

theorem write_field {record : Record} {values : Values} (hdistinct : (values.map Prod.fst).Nodup)
    {pair : String × Cell} (hpair : pair ∈ values) :
    (record.write values).field pair.1 = some pair.2 := by
  simp only [Record.write, lookup_of_mem hdistinct hpair, Option.some_or]

variable {env : Env} {odoo odoo' : Odoo}

theorem partnerFor_ok {payload : Fields} {provider : Bool} {partnerId : Nat}
    {partner : ResPartner}
    (h : partnerFor env odoo payload provider partnerId = .ok (odoo', partner)) :
    ∃ partners, odoo' = { odoo with partners } := by
  simp only [partnerFor] at h
  split at h
  · simp only [return_committed, Prod.mk.injEq] at h
    exact ⟨odoo.partners, h.1.symm⟩
  · simp only [seq_committed, orRaise_committed, return_committed, Prod.mk.injEq] at h
    obtain ⟨partners, _, rfl, _⟩ := h
    exact ⟨partners, rfl⟩

@[simp] theorem records_withRecords (odoo : Odoo) (records : Table Record) (model : OdooModel) :
    (odoo.withRecords records model).records model = records := by
  cases model <;> rfl

theorem records_withRecords_ne {model other : OdooModel} (h : other ≠ model) (odoo : Odoo)
    (records : Table Record) : (odoo.withRecords records model).records other =
      odoo.records other := by
  cases model <;> cases other <;> first | rfl | exact absurd rfl h

@[simp] theorem syncs_withRecords (odoo : Odoo) (records : Table Record) (model : OdooModel) :
    (odoo.withRecords records model).syncs = odoo.syncs := by
  cases model <;> rfl

/-- What writing the values to the record that was found, or to a new one, does. -/
structure UpsertEffect (odoo : Odoo) (model : OdooModel) (record : Option Record)
    (values : Values) (odoo' : Odoo) (id : Nat) : Prop where
  syncs : odoo'.syncs = odoo.syncs
  shown : ∃ record, (odoo'.records model).get? id = some record ∧
    ∀ pair ∈ values, record.field pair.1 = some pair.2
  others : ∀ other key, (other = model → key ≠ id) →
    (odoo'.records other).get? key = (odoo.records other).get? key
  reached : record.map Record.id = some id ∨
    record = none ∧ (odoo.records model).get? id = none

theorem upsert_ok {model : OdooModel} {record : Option Record} {values : Values}
    {newId id : Nat} (hstored : ∀ r ∈ record, (odoo.records model).get? r.id = some r)
    (hdistinct : (values.map Prod.fst).Nodup)
    (h : upsert env odoo model record values newId = .ok (odoo', id)) :
    UpsertEffect odoo model record values odoo' id := by
  simp only [upsert, seq_committed, Prod.exists] at h
  obtain ⟨_, _, records, written, hrecord, h⟩ := h
  simp only [return_committed, Prod.mk.injEq] at h
  obtain ⟨rfl, rfl⟩ := h
  have hready : (∃ row, records.get? written.id = some row) ∧
      (∀ key, key ≠ written.id → records.get? key = (odoo.records model).get? key) ∧
      (record.map Record.id = some written.id ∨
        record = none ∧ (odoo.records model).get? written.id = none) := by
    cases record with
    | some record =>
      simp only [return_committed, Prod.mk.injEq] at hrecord
      obtain ⟨rfl, rfl⟩ := hrecord
      exact ⟨⟨record, hstored record rfl⟩, fun _ _ => rfl, .inl rfl⟩
    | none =>
      simp only [seq_committed, orRaise_committed, return_committed, Prod.mk.injEq] at hrecord
      obtain ⟨records', hinsert, rfl, rfl⟩ := hrecord
      refine ⟨⟨_, Table.get?_insert_self hinsert⟩, ?_, .inr ⟨rfl, ?_⟩⟩
      · intro key hkey
        exact Table.get?_insert_ne hinsert fun heq => hkey heq.symm
      · exact Table.get?_eq_none.mpr fun other hother => Table.key_fresh hinsert hother
  obtain ⟨⟨row, hrow⟩, hothers, hreached⟩ := hready
  refine ⟨by simp, ⟨written.write values, ?_, fun pair hpair => write_field hdistinct hpair⟩, ?_,
    hreached⟩
  · rw [records_withRecords]
    exact Table.get?_put_self hrow rfl
  · intro other key hkey
    by_cases hmodel : other = model
    · subst hmodel
      rw [records_withRecords, Table.get?_put_ne fun heq => hkey rfl heq.symm]
      exact hothers key (hkey rfl)
    · rw [records_withRecords_ne hmodel]

theorem found_mem {model : OdooModel} {key : Values} {record : Record}
    (h : found odoo model key = some record) :
    (odoo.records model).get? record.id = some record :=
  Table.get?_key (List.mem_of_find?_eq_some h)

/-- Routing to a record of the key writes values that name the event. -/
theorem upsert_effect {envelope : Envelope} {model : OdooModel} {key values : Values}
    {odoo₁ odoo₂ : Odoo} {newId id : Nat} {partners : Table ResPartner}
    (hpartners : odoo₁ = { odoo with partners })
    (hkey : recordKey envelope = .ok (model, key))
    (hwritten : Written envelope ⟨model, id, values⟩)
    (h : upsert env odoo₁ model (found odoo model key) values newId = .ok (odoo₂, id)) :
    RouteEffect odoo envelope ⟨model, id, values⟩ odoo₂ := by
  subst hpartners
  have hsame : ∀ other, ({ odoo with partners } : Odoo).records other = odoo.records other := by
    intro other
    cases other <;> rfl
  have heffect := upsert_ok (fun r hr => by rw [hsame]; exact found_mem hr) hwritten.distinct h
  refine ⟨hwritten, heffect.syncs, heffect.shown, ?_, ?_⟩
  · intro other key hother
    rw [heffect.others other key hother, hsame]
  · simp only [destination, hkey]
    rcases heffect.reached with hold | ⟨hnone, hnew⟩
    · obtain ⟨record, hrecord, rfl⟩ := Option.map_eq_some_iff.mp hold
      exact .inl (by rw [hrecord]; rfl)
    · rw [hsame] at hnew
      exact .inr ⟨by rw [hnone]; rfl, hnew⟩

theorem contactValues_written (envelope : Envelope) (payload : Fields) (external : Json)
    (team partner id : Nat) :
    Written envelope ⟨.crmCase, id, contactValues envelope payload external team partner⟩ where
  marked := by simp [contactValues, eventField]
  distinct := by simp [contactValues]

theorem disputeValues_written (envelope : Envelope) (payload : Fields) (external : Json)
    (team partner id : Nat) (currency : Option Nat) (amount : Cell) :
    Written envelope ⟨.crmCase, id,
      disputeValues env envelope payload external team partner currency amount⟩ where
  marked := by simp [disputeValues, eventField]
  distinct := by simp [disputeValues]

theorem leadValues_written (envelope : Envelope) (payload : Fields) (external : Json)
    (provider : Bool) (team id : Nat) (partner : ResPartner) (now : Instant) {added : Values}
    (hadded : added = [] ∨ interestValues payload external = .ok added) :
    Written envelope ⟨.crmLead, id,
      leadValues env envelope payload external provider team partner now ++ added⟩ := by
  have hmarked : (eventField .crmLead, Cell.json (.str envelope.eventId)) ∈
      leadValues env envelope payload external provider team partner now := by
    simp [leadValues, eventField]
  refine ⟨List.mem_append_left _ hmarked, ?_⟩
  rcases hadded with rfl | hadded
  · simp [leadValues]
  · simp only [interestValues, seq_committed, return_committed] at hadded
    obtain ⟨_, _, _, _, _, _, rfl⟩ := hadded
    simp [leadValues]

theorem route_effect {envelope : Envelope} {drawn : Drawn} {routing : Routing}
    (h : route env odoo envelope drawn = .ok (odoo', routing)) :
    RouteEffect odoo envelope routing odoo' := by
  simp only [route, seq_committed] at h
  obtain ⟨wrapper, hwrapper, payload, hpayload, h⟩ := h
  have hkey : recordKey envelope =
      if startsWith envelope.eventType "breero.contact_request" then
        .ok (.crmCase, caseKey "support" (externalId envelope wrapper payload))
      else if startsWith envelope.eventType "breero.lead_dispute" then
        .ok (.crmCase, caseKey "lead_dispute" (externalId envelope wrapper payload))
      else .ok (.crmLead, leadKey (externalId envelope wrapper payload)) := by
    simp only [recordKey, hwrapper, hpayload, bind, Except.bind]
    rfl
  split at h
  · next htype =>
    rw [if_pos htype] at hkey
    simp only [routeContact, seq_committed, return_committed, Prod.exists, Prod.mk.injEq] at h
    obtain ⟨team, _, odoo₁, partner, hpartner, odoo₂, id, hupsert, rfl, rfl⟩ := h
    obtain ⟨partners, hpartners⟩ := partnerFor_ok hpartner
    exact upsert_effect hpartners hkey (contactValues_written _ _ _ _ _ _) hupsert
  · next htype =>
    rw [if_neg htype] at hkey
    split at h
    · next hdispute =>
      rw [if_pos hdispute] at hkey
      simp only [routeDispute, seq_committed, return_committed, Prod.exists, Prod.mk.injEq] at h
      obtain ⟨team, _, odoo₁, partner, hpartner, amount, _, odoo₂, id, hupsert, rfl, rfl⟩ := h
      obtain ⟨partners, hpartners⟩ := partnerFor_ok hpartner
      exact upsert_effect hpartners hkey (disputeValues_written _ _ _ _ _ _ _ _) hupsert
    · next hlead =>
      rw [if_neg hlead] at hkey
      simp only [routeLead, seq_committed, return_committed, Prod.exists, Prod.mk.injEq] at h
      obtain ⟨team, _, odoo₁, partner, hpartner, added, hadded, odoo₂, id, hupsert, rfl, rfl⟩ := h
      obtain ⟨partners, hpartners⟩ := partnerFor_ok hpartner
      refine upsert_effect hpartners hkey (leadValues_written _ _ _ _ _ _ _ _ ?_) hupsert
      split at hadded
      · exact .inr hadded
      · simp only [return_committed] at hadded
        exact .inl hadded.symm

/-! ## Steps -/

variable {w w' : World} {call : Call}

/-- What a call does. -/
inductive Step (env : Env) (w : World) (call : Call) (w' : World) : Prop
  | refused (failed : (processBreeroEvent env w.odoo call).isOk = false) (same : w' = w)
  | repeated (sync : SyncEvent)
      (found : existing w.odoo call.envelope call.either = some sync)
      (digest : sync.payloadDigest = env.digest call.envelope.payload)
      (result : processBreeroEvent env w.odoo call = .ok (w.odoo, sync, none)) (same : w' = w)
  | routed (routing : Routing)
      (fresh : existing w.odoo call.envelope call.either = none)
      (accepted : (processBreeroEvent env w.odoo call).isOk)
      (valid : (checkEnvelope call.envelope).isOk)
      (written : Written call.envelope routing)
      (events : w'.routed = w.routed ++ [{ envelope := call.envelope, routing }])
      (rows : w'.odoo.syncs.rows =
        w.odoo.syncs.rows ++ [processedRow (receivedRow env call) routing call.drawn.now])
      (shown : Shows w' { envelope := call.envelope, routing })
      (others : ∀ model id, (model = routing.model → id ≠ routing.recordId) →
        (w'.odoo.records model).get? id = (w.odoo.records model).get? id)
      (reached : destination w.odoo call.envelope = some (routing.model, routing.recordId) ∨
        destination w.odoo call.envelope = none ∧
          (w.odoo.records routing.model).get? routing.recordId = none)

theorem addSync_ok {sync : SyncEvent} (h : odoo.addSync sync = .ok odoo') :
    ∃ syncs, odoo.syncs.insert? sync = some syncs ∧ odoo' = { odoo with syncs } := by
  simp only [Odoo.addSync, seq_committed, require_committed, orRaise_committed,
    return_committed] at h
  obtain ⟨_, _, _, _, _, _, syncs, hinsert, rfl⟩ := h
  exact ⟨syncs, hinsert, rfl⟩

theorem records_of_syncs (odoo : Odoo) (syncs : Table SyncEvent) (model : OdooModel) :
    ({ odoo with syncs } : Odoo).records model = odoo.records model := by
  cases model <;> rfl

theorem destination_of_syncs (odoo : Odoo) (syncs : Table SyncEvent) (envelope : Envelope) :
    destination { odoo with syncs } envelope = destination odoo envelope := by
  simp only [destination, found, records_of_syncs]

theorem process_routed {sync : SyncEvent} {routing : Routing}
    (h : processBreeroEvent env w.odoo call = .ok (odoo', sync, some routing)) :
    Step env w call {
      odoo := odoo', routed := w.routed ++ [{ envelope := call.envelope, routing }] } := by
  have hok := isOk_of_eq h
  simp only [processBreeroEvent, seq_committed, require_committed] at h
  obtain ⟨_, _, _, hvalid, h⟩ := h
  split at h
  · simp only [seq_committed, require_committed, return_committed, Prod.mk.injEq] at h
    obtain ⟨_, _, _, _, hnone⟩ := h
    cases hnone
  · next hnone =>
    simp only [seq_committed, return_committed, Prod.exists, Prod.mk.injEq,
      Option.some.injEq] at h
    obtain ⟨odoo₁, hadd, odoo₂, routing', hroute, rfl, rfl, rfl⟩ := h
    obtain ⟨syncs, hinsert, rfl⟩ := addSync_ok hadd
    have heffect := route_effect hroute
    have hrows : odoo₂.syncs.rows = w.odoo.syncs.rows ++ [receivedRow env call] := by
      rw [heffect.syncs]
      exact (Table.insert?_eq_some.mp hinsert).2
    obtain ⟨record, hrecord, hvalues⟩ := heffect.shown
    refine .routed routing' hnone hok (isOk_of_eq hvalid) heffect.written rfl
      (Table.put_last hrows rfl) ⟨record, ?_, hvalues⟩ ?_ ?_
    · show (Odoo.records _ _).get? _ = _
      rw [records_of_syncs]
      exact hrecord
    · intro model id hother
      show (Odoo.records _ _).get? _ = _
      rw [records_of_syncs, heffect.others model id hother, records_of_syncs]
    · have hreached := heffect.reached
      rwa [destination_of_syncs, records_of_syncs] at hreached

theorem exec_step (env : Env) (w : World) (call : Call) : Step env w call (exec env w call) := by
  unfold exec
  split
  · next odoo sync routing h => exact process_routed h
  · next odoo sync h =>
    have hcopy := h
    simp only [processBreeroEvent, seq_committed, require_committed] at h
    obtain ⟨_, _, _, _, h⟩ := h
    split at h
    · next found hfound =>
      simp only [seq_committed, require_committed, return_committed, Prod.mk.injEq] at h
      obtain ⟨_, hdigest, rfl, rfl, _⟩ := h
      exact .repeated found hfound hdigest hcopy rfl
    · simp only [seq_committed, return_committed, Prod.exists, Prod.mk.injEq] at h
      obtain ⟨_, _, _, _, _, _, _, hnone⟩ := h
      cases hnone
  · next e h => exact .refused (by rw [h]; rfl) rfl

/-! ## The invariant -/

/-- The row of a routed event. -/
structure RowOf (env : Env) (sync : SyncEvent) (r : Routed) : Prop where
  eventId : sync.eventId = r.envelope.eventId
  key : sync.idempotencyKey = r.envelope.idempotencyKey
  digest : sync.payloadDigest = env.digest r.envelope.payload
  ack : sync.ack = r.ack

structure Inv (env : Env) (w : World) : Prop where
  rows : ∀ r ∈ w.routed, ∃ sync ∈ w.odoo.syncs.rows, RowOf env sync r
  ofRows : ∀ sync ∈ w.odoo.syncs.rows, ∃ r ∈ w.routed, RowOf env sync r
  once : RoutedOnce w
  valid : ∀ r ∈ w.routed, (checkEnvelope r.envelope).isOk
  marked : ∀ r ∈ w.routed, Written r.envelope r.routing
  stored : ∀ r ∈ w.routed, ((w.odoo.records r.routing.model).get? r.routing.recordId).isSome

theorem existing_eq_none {envelope : Envelope} {either : Bool}
    (h : existing odoo envelope either = none) :
    ∀ sync ∈ odoo.syncs.rows, sync.eventId ≠ envelope.eventId ∧
      sync.idempotencyKey ≠ envelope.idempotencyKey := by
  unfold existing at h
  split at h
  · next hid hkey =>
    intro sync hsync
    simp only [List.find?_eq_none, decide_eq_true_eq] at hid hkey
    exact ⟨hid sync hsync, hkey sync hsync⟩
  · cases h
  · cases h
  · split at h
    · cases h
    · split at h
      · cases h
      · split at h <;> cases h

theorem existing_eq_some {envelope : Envelope} {either : Bool} {sync : SyncEvent}
    (h : existing odoo envelope either = some sync) :
    sync ∈ odoo.syncs.rows ∧ (sync.eventId = envelope.eventId ∨
      sync.idempotencyKey = envelope.idempotencyKey) := by
  have hfirst : ∀ found, odoo.syncs.rows.find? (fun sync => sync.eventId = envelope.eventId) =
      some found → found ∈ odoo.syncs.rows ∧ (found.eventId = envelope.eventId ∨
        found.idempotencyKey = envelope.idempotencyKey) := by
    intro found hfound
    have hmatches := List.find?_some hfound
    exact ⟨List.mem_of_find?_eq_some hfound, .inl (by simpa using hmatches)⟩
  have hsecond : ∀ found, odoo.syncs.rows.find?
      (fun sync => sync.idempotencyKey = envelope.idempotencyKey) =
      some found → found ∈ odoo.syncs.rows ∧ (found.eventId = envelope.eventId ∨
        found.idempotencyKey = envelope.idempotencyKey) := by
    intro found hfound
    have hmatches := List.find?_some hfound
    exact ⟨List.mem_of_find?_eq_some hfound, .inr (by simpa using hmatches)⟩
  unfold existing at h
  split at h
  · cases h
  · next hid _ => exact hfirst _ (h ▸ hid)
  · next _ hkey => exact hsecond _ (h ▸ hkey)
  · next hid hkey =>
    split at h
    · exact hfirst _ (h ▸ hid)
    · split at h
      · exact hsecond _ (h ▸ hkey)
      · split at h
        · exact hfirst _ (h ▸ hid)
        · exact hsecond _ (h ▸ hkey)

/-- No event with the ids of a new one was routed. -/
theorem Inv.fresh {envelope : Envelope} {either : Bool} (h : Inv env w)
    (hnone : existing w.odoo envelope either = none) {r : Routed} (hr : r ∈ w.routed) :
    ¬ Reuses envelope r := by
  obtain ⟨sync, hsync, hrow⟩ := h.rows r hr
  obtain ⟨hid, hkey⟩ := existing_eq_none hnone sync hsync
  rw [hrow.eventId] at hid
  rw [hrow.key] at hkey
  rintro (hsame | hsame)
  · exact hid hsame
  · exact hkey hsame

theorem RoutedOnce.push {r : Routed} (h : RoutedOnce w)
    (hfresh : ∀ other ∈ w.routed, ¬ Reuses r.envelope other)
    (hevents : w'.routed = w.routed ++ [r]) : RoutedOnce w' := by
  obtain ⟨hids, hkeys⟩ := h
  unfold RoutedOnce
  rw [hevents]
  simp only [List.map_append, List.map_singleton, List.nodup_append, List.nodup_singleton,
    List.mem_map, List.mem_singleton, true_and]
  refine ⟨⟨hids, ?_⟩, hkeys, ?_⟩
  · rintro _ ⟨other, hother, rfl⟩ _ rfl heq
    exact hfresh other hother (.inl heq)
  · rintro _ ⟨other, hother, rfl⟩ _ rfl heq
    exact hfresh other hother (.inr heq)

theorem Inv.step (h : Inv env w) (call : Call) : Inv env (exec env w call) := by
  cases exec_step env w call with
  | refused _ same =>
    rw [same]
    exact h
  | repeated _ _ _ _ same =>
    rw [same]
    exact h
  | routed routing fresh accepted valid written events rows shown others reached =>
    have hrow : RowOf env (processedRow (receivedRow env call) routing call.drawn.now)
        { envelope := call.envelope, routing } := ⟨rfl, rfl, rfl, rfl⟩
    constructor
    · rw [events, rows, List.forall_mem_append, List.forall_mem_singleton]
      constructor
      · intro r hr
        obtain ⟨sync, hsync, hof⟩ := h.rows r hr
        exact ⟨sync, List.mem_append_left _ hsync, hof⟩
      · exact ⟨_, List.mem_append_right _ (List.mem_singleton.mpr rfl), hrow⟩
    · rw [events, rows, List.forall_mem_append, List.forall_mem_singleton]
      constructor
      · intro sync hsync
        obtain ⟨r, hr, hof⟩ := h.ofRows sync hsync
        exact ⟨r, List.mem_append_left _ hr, hof⟩
      · exact ⟨_, List.mem_append_right _ (List.mem_singleton.mpr rfl), hrow⟩
    · exact h.once.push (fun other hother => h.fresh fresh hother) events
    · rw [events, List.forall_mem_append, List.forall_mem_singleton]
      exact ⟨h.valid, valid⟩
    · rw [events, List.forall_mem_append, List.forall_mem_singleton]
      exact ⟨h.marked, written⟩
    · obtain ⟨record, hrecord, _⟩ := shown
      rw [events, List.forall_mem_append, List.forall_mem_singleton]
      refine ⟨?_, Option.isSome_of_mem hrecord⟩
      intro r hr
      by_cases hsame : r.routing.model = routing.model ∧ r.routing.recordId = routing.recordId
      · rw [hsame.1, hsame.2]
        exact Option.isSome_of_mem hrecord
      · rw [others _ _ fun hmodel hid => hsame ⟨hmodel, hid⟩]
        exact h.stored r hr

/-! ## Repetitions -/

theorem process_repeated {sync : SyncEvent} (hintegration : call.integration = true)
    (hvalid : checkEnvelope call.envelope = .ok ())
    (hfound : existing odoo call.envelope call.either = some sync)
    (hdigest : sync.payloadDigest = env.digest call.envelope.payload) :
    processBreeroEvent env odoo call = .ok (odoo, sync, none) := by
  simp only [processBreeroEvent, require, hintegration, hvalid, hfound, hdigest, if_true, bind,
    Except.bind]
  rfl

/-- The row that is found for a routed envelope is its own. -/
theorem Inv.existing_routed {r : Routed} {either : Bool} (h : Inv env w) (hr : r ∈ w.routed) :
    ∃ sync, existing w.odoo r.envelope either = some sync ∧ RowOf env sync r := by
  cases hfound : existing w.odoo r.envelope either with
  | none => exact absurd (.inl rfl) (h.fresh hfound hr)
  | some sync =>
    obtain ⟨hsync, hids⟩ := existing_eq_some hfound
    obtain ⟨other, hother, hrow⟩ := h.ofRows sync hsync
    have hsame : other = r := by
      rcases hids with hid | hkey
      · exact List.inj_on_of_nodup_map h.once.1 hother hr (hrow.eventId.symm.trans hid)
      · exact List.inj_on_of_nodup_map h.once.2 hother hr (hrow.key.symm.trans hkey)
    exact ⟨sync, rfl, hsame ▸ hrow⟩

theorem Inv.repeats (h : Inv env w) (call : Call) : Repeats env w call := by
  intro hintegration r hr henvelope
  obtain ⟨sync, hfound, hrow⟩ : ∃ sync, existing w.odoo r.envelope call.either = some sync ∧
      RowOf env sync r := h.existing_routed hr
  rw [henvelope] at hfound
  refine ⟨sync, ?_, hrow.ack⟩
  have hvalid : checkEnvelope call.envelope = .ok () := by
    obtain ⟨_, hok⟩ := isOk_iff.mp (h.valid r hr)
    rw [← henvelope]
    exact hok
  exact process_repeated hintegration hvalid hfound (henvelope ▸ hrow.digest)

/-- An envelope that reuses an id or a key is acknowledged only as a repetition of what it
finds. -/
theorem Inv.rejects_iff (h : Inv env w) (call : Call) :
    Rejects env w call ↔ (call.integration = true → (checkEnvelope call.envelope).isOk →
      ∀ sync ∈ existing w.odoo call.envelope call.either,
        sync.payloadDigest = env.digest call.envelope.payload →
        ∀ r ∈ w.routed, Reuses call.envelope r →
          r.envelope.content = call.envelope.content) := by
  constructor
  · intro hrejects hintegration hvalid sync hfound hdigest r hr hreuses
    by_contra hother
    have hfailed := hrejects r hr hreuses hother
    obtain ⟨_, hok⟩ := isOk_iff.mp hvalid
    rw [process_repeated hintegration hok hfound hdigest] at hfailed
    cases hfailed
  · intro hfaithful r hr hreuses hother
    cases hresult : processBreeroEvent env w.odoo call with
    | error e => rfl
    | ok result =>
      exfalso
      simp only [processBreeroEvent, seq_committed, require_committed] at hresult
      obtain ⟨_, hintegration, _, hvalid, hresult⟩ := hresult
      split at hresult
      · next sync hfound =>
        simp only [seq_committed, require_committed] at hresult
        obtain ⟨_, hdigest, _⟩ := hresult
        exact hother (hfaithful hintegration (isOk_of_eq hvalid) sync hfound hdigest r hr hreuses)
      · next hnone => exact h.fresh hnone hr hreuses

/-! ## Convergence -/

/-- Only one event at a time is shown by a record. -/
theorem Inv.shows_one (h : Inv env w) {r s : Routed} (hr : r ∈ w.routed) (hs : s ∈ w.routed)
    (hmodel : r.routing.model = s.routing.model)
    (hid : r.routing.recordId = s.routing.recordId) (hshows : Shows w r) (hshows' : Shows w s) :
    r = s := by
  obtain ⟨record, hrecord, hvalues⟩ := hshows
  obtain ⟨record', hrecord', hvalues'⟩ := hshows'
  rw [hmodel, hid] at hrecord
  obtain rfl := Option.some.inj (hrecord.symm.trans hrecord')
  have hmark := hvalues _ (h.marked r hr).marked
  have hmark' := hvalues' _ (h.marked s hs).marked
  rw [hmodel, hmark', Option.some.injEq, Cell.json.injEq, Json.str.injEq] at hmark
  exact List.inj_on_of_nodup_map h.once.1 hr hs hmark.symm

/-- Of the events of an aggregate that were routed to a record, one is the newest. -/
theorem exists_newest {r : Routed} (hr : r ∈ w.routed) :
    ∃ s ∈ w.routed, s.routing.model = r.routing.model ∧ s.routing.recordId = r.routing.recordId ∧
      s.envelope.aggregateId = r.envelope.aggregateId ∧
      r.envelope.aggregateVersion ≤ s.envelope.aggregateVersion ∧ Newest w s := by
  let rivals := w.routed.toFinset.filter fun s =>
    s.routing.model = r.routing.model ∧ s.routing.recordId = r.routing.recordId ∧
      s.envelope.aggregateId = r.envelope.aggregateId
  have hrival : r ∈ rivals := by simp [rivals, hr]
  obtain ⟨s, hs, hmax⟩ :=
    rivals.exists_max_image (fun s => s.envelope.aggregateVersion) ⟨r, hrival⟩
  simp only [rivals, Finset.mem_filter, List.mem_toFinset] at hs
  obtain ⟨hmem, hmodel, hid, haggregate⟩ := hs
  refine ⟨s, hmem, hmodel, hid, haggregate, hmax r hrival, ?_⟩
  intro other hother hmodel' hid' haggregate'
  refine hmax other ?_
  simp only [rivals, Finset.mem_filter, List.mem_toFinset]
  exact ⟨hother, hmodel'.trans hmodel, hid'.trans hid, haggregate'.trans haggregate⟩

theorem Shows.of_records {r : Routed}
    (hsame : (w'.odoo.records r.routing.model).get? r.routing.recordId =
      (w.odoo.records r.routing.model).get? r.routing.recordId) :
    Shows w' r ↔ Shows w r := by
  simp only [Shows, hsame]

/-- A call keeps the records converged if it is in order. -/
theorem Inv.converged (h : Inv env w) (horder : existing w.odoo call.envelope call.either = none →
      (processBreeroEvent env w.odoo call).isOk →
      ∀ r ∈ w.routed, destination w.odoo call.envelope =
          some (r.routing.model, r.routing.recordId) →
        r.envelope.aggregateId = call.envelope.aggregateId ∧
          r.envelope.aggregateVersion < call.envelope.aggregateVersion)
    (hconverged : Converged w) : Converged (exec env w call) := by
  cases exec_step env w call with
  | refused _ same =>
    rw [same]
    exact hconverged
  | repeated _ _ _ _ same =>
    rw [same]
    exact hconverged
  | routed routing fresh accepted valid written events rows shown others reached =>
    have hnewest : ∀ r ∈ w.routed, Newest (exec env w call) r → Newest w r := by
      intro r _ hnewest other hother
      exact hnewest other (events ▸ List.mem_append_left _ hother)
    intro r hr hlatest
    rw [events] at hr
    rcases List.mem_append.mp hr with hold | hnew
    · by_cases hsame : r.routing.model = routing.model ∧ r.routing.recordId = routing.recordId
      · -- the new event has a higher version of the same aggregate
        exfalso
        rcases reached with hthere | ⟨_, hnone⟩
        · rw [← hsame.1, ← hsame.2] at hthere
          obtain ⟨haggregate, hlower⟩ := horder fresh accepted r hold hthere
          have hnew : ({ envelope := call.envelope, routing } : Routed) ∈
              (exec env w call).routed :=
            events ▸ List.mem_append_right _ (List.mem_singleton.mpr rfl)
          have hle := hlatest _ hnew hsame.1.symm hsame.2.symm haggregate.symm
          exact absurd hlower (not_lt.mpr hle)
        · have hstored := h.stored r hold
          rw [hsame.1, hsame.2, hnone] at hstored
          cases hstored
      · rw [Shows.of_records (others _ _ fun hmodel hid => hsame ⟨hmodel, hid⟩)]
        exact hconverged r hold (hnewest r hold hlatest)
    · obtain rfl := List.mem_singleton.mp hnew
      exact shown

/-- A call after which the records have converged was in order. -/
theorem Inv.inOrder (h : Inv env w) (hconverged : Converged (exec env w call))
    (hfresh : existing w.odoo call.envelope call.either = none)
    (haccepted : (processBreeroEvent env w.odoo call).isOk) {r : Routed} (hr : r ∈ w.routed)
    (hthere : destination w.odoo call.envelope = some (r.routing.model, r.routing.recordId)) :
    r.envelope.aggregateId = call.envelope.aggregateId ∧
      r.envelope.aggregateVersion < call.envelope.aggregateVersion := by
  have hinv := h.step call
  cases exec_step env w call with
  | refused failed => rw [haccepted] at failed; cases failed
  | repeated sync found => rw [hfresh] at found; cases found
  | routed routing fresh accepted valid written events rows shown others reached =>
    have hkept : ∀ s ∈ w.routed, s ∈ (exec env w call).routed :=
      fun s hs => events ▸ List.mem_append_left _ hs
    have hnew : ({ envelope := call.envelope, routing } : Routed) ∈ (exec env w call).routed :=
      events ▸ List.mem_append_right _ (List.mem_singleton.mpr rfl)
    have hsame : r.routing.model = routing.model ∧ r.routing.recordId = routing.recordId := by
      rcases reached with hreached | ⟨hnone, _⟩
      · rw [hthere, Option.some.injEq, Prod.mk.injEq] at hreached
        exact hreached
      · rw [hthere] at hnone
        cases hnone
    -- whatever is newest there is shown, and only the new event is
    have honly : ∀ s ∈ (exec env w call).routed, s.routing.model = r.routing.model →
        s.routing.recordId = r.routing.recordId → Newest (exec env w call) s →
        s = { envelope := call.envelope, routing } := by
      intro s hs hmodel hid hlatest
      exact hinv.shows_one hs hnew (hmodel.trans hsame.1) (hid.trans hsame.2)
        (hconverged s hs hlatest) shown
    obtain ⟨s, hs, hmodel, hid, haggregate, hle, hlatest⟩ := exists_newest (hkept r hr)
    obtain rfl := honly s hs hmodel hid hlatest
    refine ⟨haggregate.symm, lt_of_le_of_ne hle ?_⟩
    intro heq
    have hfirst : Newest (exec env w call) r := by
      intro other hother hmodel' hid' haggregate'
      rw [heq]
      exact hlatest other hother (hmodel'.trans hmodel.symm) (hid'.trans hid.symm)
        (haggregate'.trans haggregate.symm)
    have hr' := honly r (hkept r hr) rfl rfl hfirst
    exact h.fresh fresh hr (.inl (by rw [hr']))

/-! ## Runs -/

theorem inv_start (env : Env) (leads cases : Table Record) (partners : Table ResPartner) :
    Inv env { odoo := { leads, cases, partners } } where
  rows := List.forall_mem_nil _
  ofRows := List.forall_mem_nil _
  once := ⟨List.nodup_nil, List.nodup_nil⟩
  valid := List.forall_mem_nil _
  marked := List.forall_mem_nil _
  stored := List.forall_mem_nil _

/-- From any leads, cases and partners on, each event is routed once and each repetition is
acknowledged with its record; and all other reuses of ids and keys are rejected and the records
converge exactly if every call is orderly. -/
theorem sync_converges_iff (env : Env) (leads cases : Table Record)
    (partners : Table ResPartner) (calls : List Call) :
    (Always (exec env) RoutedOnce { odoo := { leads, cases, partners } } calls ∧
        Along (exec env) (Repeats env) { odoo := { leads, cases, partners } } calls ∧
        Along (exec env) (Rejects env) { odoo := { leads, cases, partners } } calls ∧
        Always (exec env) Converged { odoo := { leads, cases, partners } } calls) ↔
      Along (exec env) (Orderly env) { odoo := { leads, cases, partners } } calls := by
  have hstart := inv_start env leads cases partners
  constructor
  · rintro ⟨_, _, hrejects, hconverged⟩
    have hafter : Along (exec env) (fun w call => Converged (exec env w call))
        { odoo := { leads, cases, partners } } calls :=
      along_of_always (fun _ _ h => h) hconverged
    refine Along.imp (I := Inv env) (fun w call h _ => h.step call) ?_ hstart
      (hrejects.and hafter)
    intro w call h hlaws
    exact ⟨(h.rejects_iff call).mp hlaws.1,
      fun hfresh haccepted r hr hthere => h.inOrder hlaws.2 hfresh haccepted hr hthere⟩
  · intro horderly
    have hinv : ∀ w call, Inv env w → Orderly env w call → Inv env (exec env w call) :=
      fun w call h _ => h.step call
    have hboth : ∀ w call, Inv env w ∧ Converged w → Orderly env w call →
        Inv env (exec env w call) ∧ Converged (exec env w call) :=
      fun w call h hstep => ⟨h.1.step call, h.1.converged hstep.inOrder h.2⟩
    refine ⟨?_, ?_, ?_, ?_⟩
    · exact (always_of_inv hinv hstart horderly).imp fun w h => h.once
    · exact Along.imp hinv (fun w call h _ => h.repeats call) hstart horderly
    · exact Along.imp hinv (fun w call h hstep => (h.rejects_iff call).mpr hstep.faithful)
        hstart horderly
    · exact (always_of_inv hboth ⟨hstart, List.forall_mem_nil _⟩ horderly).imp fun w h => h.2

/-! ## An update that arrives before the event that it follows -/

def requestPayload (city : String) : Json :=
  .obj (.cons "payload" (.obj (.cons "city" (.str city) (.cons "name" (.str "A B") .nil)))
    (.cons "submission_id" (.str "s-1") .nil))

def requestEnv : Env where
  digest payload := if payload = requestPayload "Cypress" then "4c1f" else "b07a"
  str _ := "None"
  ref _ := .ok 1
  currency _ := none
  ordered := id
  ilike stored email := stored = .str email
  check _ _ := .ok ()

def createdEnvelope : Envelope where
  eventId := "e-1"
  eventType := "breero.service_request.created"
  schemaVersion := 1
  aggregateId := "s-1"
  aggregateVersion := 1
  occurredAt := "2026-08-12T00:00:00Z"
  idempotencyKey := "s-1:1"
  source := "breero"
  payload := requestPayload "Cypress"

def updatedEnvelope : Envelope where
  eventId := "e-2"
  eventType := "breero.service_request.updated"
  schemaVersion := 1
  aggregateId := "s-1"
  aggregateVersion := 2
  occurredAt := "2026-08-12T01:00:00Z"
  idempotencyKey := "s-1:2"
  source := "breero"
  payload := requestPayload "Houston"

def callAt (envelope : Envelope) (number : Nat) : Call where
  envelope
  drawn := { eventRow := number, partner := number, record := number, now := number }

/-- The lead has the city of the older event; and its event id is accepted again with another
version. -/
theorem sync_diverges :
    (¬ Always (exec requestEnv) Converged { odoo := {} }
        [callAt updatedEnvelope 1, callAt createdEnvelope 2]) ∧
      ¬ Along (exec requestEnv) (Rejects requestEnv) { odoo := {} }
        [callAt createdEnvelope 1, callAt { createdEnvelope with aggregateVersion := 2 } 2] := by
  decide

end Breero.Crm
