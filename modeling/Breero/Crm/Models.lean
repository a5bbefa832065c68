import Breero.Common.Raised
import Breero.Lib.Table
import Breero.Lib.Transaction

/-!
The CRM addon: payloads as JSON, the event envelopes, and the rows of `breero.sync.event`,
`breero.crm.case`, `crm.lead` and `res.partner`.
-/

namespace Breero.Crm
open KeyedTable Transaction

/-! ## JSON -/

mutual
/-- A payload. The fields of an object stand in the order of their keys. -/
inductive Json
  | null
  | bool (b : Bool)
  | int (n : Int)
  | float (value : Rat)
  | str (s : String)
  | arr (items : Items)
  | obj (fields : Fields)
  deriving DecidableEq, Repr

inductive Items
  | nil
  | cons (head : Json) (tail : Items)
  deriving DecidableEq, Repr

inductive Fields
  | nil
  | cons (key : String) (value : Json) (rest : Fields)
  deriving DecidableEq, Repr
end

def Fields.get? (key : String) : Fields → Option Json
  | .nil => none
  | .cons name value rest => if name = key then some value else rest.get? key

/-- `payload.get(key, default)`. -/
def Fields.get (fields : Fields) (key : String) (default : Json := .null) : Json :=
  (fields.get? key).getD default

def Fields.keys : Fields → List Json
  | .nil => []
  | .cons name _ rest => .str name :: rest.keys

def Items.toList : Items → List Json
  | .nil => []
  | .cons head tail => head :: tail.toList

/-- Python's truth of a value. -/
def Json.truthy : Json → Bool
  | null => false
  | bool b => b
  | int n => n ≠ 0
  | float value => value ≠ 0
  | str s => s ≠ ""
  | arr items => items ≠ .nil
  | obj fields => fields ≠ .nil

/-- `a or b`. -/
def Json.or (a b : Json) : Json := if a.truthy then a else b

/-- The fields of a value on which `get` is called. -/
def Json.dict : Json → Except Raised Fields
  | obj fields => .ok fields
  | _ => .error (.other "AttributeError")

/-- The elements of a value that is iterated over. -/
def Json.elements : Json → Except Raised (List Json)
  | arr items => .ok items.toList
  | obj fields => .ok fields.keys
  | str s => .ok (s.toList.map fun c => .str (String.singleton c))
  | null | bool _ | int _ | float _ => .error (.other "TypeError")

/-- `", ".join(...)`. -/
def joined : List Json → Except Raised String
  | [] => .ok ""
  | [.str s] => .ok s
  | .str s :: rest => (joined rest).map fun text => s ++ ", " ++ text
  | _ :: _ => .error (.other "TypeError")

/-! ## The rows -/

/-- A value that is written to a field. -/
inductive Cell
  | json (value : Json)
  /-- a hundredth of the number -/
  | hundredth (value : Rat)
  | moment (time : Instant)
  deriving DecidableEq, Repr

abbrev Values := List (String × Cell)

/-- A lead or a case, with the fields that the addon writes. -/
structure Record where
  id : Nat
  field : String → Option Cell := fun _ => none

instance : Keyed Record Nat := ⟨Record.id⟩

/-- `write`. Its guard of the mirrored fields asks for the group that the caller has. -/
def Record.write (record : Record) (values : Values) : Record := { record with
  field := fun name => (values.lookup name).or (record.field name) }

structure ResPartner where
  id : Nat
  name : Json
  email : Json
  phone : Json
  contactType : String
  customerId : Json := .bool false
  providerId : Json := .bool false
  externalReference : Json
  deriving DecidableEq, Repr

instance : Keyed ResPartner Nat := ⟨ResPartner.id⟩

inductive SyncStatus
  | received
  | processed
  | failed
  deriving DecidableEq, Repr

structure SyncEvent where
  id : Nat
  eventId : String
  eventType : String
  aggregateId : String
  aggregateVersion : Int
  idempotencyKey : String
  schemaVersion : Int
  payloadDigest : String
  receivedAt : Instant
  status : SyncStatus := .received
  processedAt : Option Instant := none
  odooModel : Option String := none
  odooRecordId : Option Nat := none
  deriving DecidableEq, Repr

instance : Keyed SyncEvent Nat := ⟨SyncEvent.id⟩

structure Odoo where
  syncs : Table SyncEvent := .empty
  leads : Table Record := .empty
  cases : Table Record := .empty
  partners : Table ResPartner := .empty

/-! ## What the addon is called with and what it calls -/

/-- An envelope with all of the required keys. -/
structure Envelope where
  eventId : String
  eventType : String
  schemaVersion : Int
  aggregateId : String
  aggregateVersion : Int
  occurredAt : String
  idempotencyKey : String
  source : String
  payload : Json
  deriving DecidableEq, Repr

/-- The libraries that the addon uses, and the data that it looks up. -/
structure Env where
  /-- the SHA-256 of the payload, serialized with sorted keys -/
  digest : Json → String
  /-- `str` of a value that is not a text -/
  str : Json → String
  /-- `env.ref` of a team -/
  ref : String → Except Raised Nat
  /-- the currency with the name -/
  currency : Json → Option Nat
  /-- the partners in the order of their model -/
  ordered : List ResPartner → List ResPartner
  /-- `=ilike` -/
  ilike : Json → String → Bool
  /-- the checks of the fields of a model when values are written -/
  check : String → Values → Except Raised Unit

/-- `str`. -/
def Env.text (env : Env) : Json → String
  | .str s => s
  | value => env.str value

end Breero.Crm
