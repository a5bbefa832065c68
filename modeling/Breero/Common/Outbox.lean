import Breero.Common.Raised

/-!
The outbox of integration events and the audit log. Both are only appended to
by the services modelled here.
-/

namespace Breero

inductive EventStatus
  | pending
  | pendingConfiguration
  | processing
  | delivered
  | retrying
  | failedRetryable
  | failedTerminal
  | failed
  | deadLetter
  deriving DecidableEq, Repr

/-- A value of a JSON payload; `uuid u` is `str(u)`. -/
inductive Value
  | uuid (u : Uuid)
  | str (s : String)
  | int (n : Int)
  | bool (b : Bool)
  | null
  deriving DecidableEq, Repr

def Value.ofOption : Option String → Value
  | some s => .str s
  | none => .null

abbrev Payload := List (String × Value)

structure IntegrationEvent where
  aggregateType : String
  aggregateId : Uuid
  eventType : String
  payload : Payload
  idempotencyKey : Option String := none
  status : EventStatus := .pending
  attemptCount : Nat := 0
  nextAttemptAt : Instant
  deriving DecidableEq, Repr

structure AuditLog where
  actorId : Option Uuid
  actorType : String := "user"
  action : String
  resourceType : String
  resourceId : Uuid
  metadata : Payload := []
  createdAt : Instant
  deriving DecidableEq, Repr

end Breero
