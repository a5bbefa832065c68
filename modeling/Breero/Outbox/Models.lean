import Breero.PublicSubmissions.Models

/-!
A row of `integration_events` with the columns that the dispatcher writes.

* `merge` is an update by a session: it writes the columns that differ from what the session
  has read, and leaves the others as they are stored;
* `redact` takes the secrets out of a diagnostic.
-/

namespace Breero.Outbox
open PublicSubmissions

/-- The payload of an event; that of a submission has its form in it. -/
inductive EventPayload
  | fields (payload : Payload)
  | submission (submissionId : Uuid) (route : String) (payload : Form)
  deriving DecidableEq, Repr

structure OutboxEvent where
  id : Uuid
  createdAt : Instant
  aggregateType : String
  aggregateId : Uuid
  eventType : String
  aggregateVersion : Nat := 1
  schemaVersion : Nat := 1
  idempotencyKey : Option String
  payload : EventPayload
  status : EventStatus := .pending
  attemptCount : Nat := 0
  nextAttemptAt : Instant
  claimedAt : Option Instant := none
  leaseExpiresAt : Option Instant := none
  claimToken : Option Uuid := none
  processedAt : Option Instant := none
  lastError : Option String := none
  lastErrorCode : Option String := none
  lastErrorAt : Option Instant := none
  externalModel : Option String := none
  externalRecordId : Option String := none
  deriving DecidableEq, Repr

instance : KeyedTable.Keyed OutboxEvent Uuid := ⟨OutboxEvent.id⟩

/-- `timedelta(seconds=n)`. -/
def ofSeconds (n : Int) : Int := n * 1000000

/-- The column after an update: written where the session changed it. -/
def column {α : Type} [DecidableEq α] (read new stored : α) : α :=
  if new = read then stored else new

/-- The row after the session has written `new` over what it `read`. -/
def OutboxEvent.merge (read new stored : OutboxEvent) : OutboxEvent := {
  stored with
  status := column read.status new.status stored.status
  attemptCount := column read.attemptCount new.attemptCount stored.attemptCount
  nextAttemptAt := column read.nextAttemptAt new.nextAttemptAt stored.nextAttemptAt
  claimedAt := column read.claimedAt new.claimedAt stored.claimedAt
  leaseExpiresAt := column read.leaseExpiresAt new.leaseExpiresAt stored.leaseExpiresAt
  claimToken := column read.claimToken new.claimToken stored.claimToken
  processedAt := column read.processedAt new.processedAt stored.processedAt
  lastError := column read.lastError new.lastError stored.lastError
  lastErrorCode := column read.lastErrorCode new.lastErrorCode stored.lastErrorCode
  lastErrorAt := column read.lastErrorAt new.lastErrorAt stored.lastErrorAt
  externalModel := column read.externalModel new.externalModel stored.externalModel
  externalRecordId := column read.externalRecordId new.externalRecordId stored.externalRecordId }

theorem column_new {α : Type} [DecidableEq α] {read new : α} (h : new ≠ read) (stored : α) :
    column read new stored = new :=
  if_neg h

/-! ## Diagnostics -/

/-- A letter as the pattern compares it, `re.IGNORECASE` being set. -/
def foldCase (c : Char) : Char :=
  match c.toNat with
  | 304 | 305 => 'i'
  | 383 => 's'
  | 8490 => 'k'
  | _ => c.toLower

def secretWords : List String := ["password", "secret", "token", "api_key", "api-key", "apikey"]

/-- The word `w` at the front of the text, and what comes after it. -/
def wordAt (text : List Char) (w : String) : Option (List Char × List Char) :=
  let n := w.toList.length
  if (text.take n).map foldCase = w.toList then some (text.take n, text.drop n) else none

/-- `(password|secret|token|api[_-]?key)\s*[:=]\s*\S+` at the front of the text: the word,
and the number of characters that match. -/
def secretAt (text : List Char) : Option (List Char × Nat) := do
  let (word, rest) ← secretWords.findSome? (wordAt text)
  let sign := rest.dropWhile isSpace
  guard (sign.head? = some ':' ∨ sign.head? = some '=')
  let secret := (sign.drop 1).dropWhile isSpace
  guard (secret ≠ [])
  return (word, text.length - (secret.dropWhile fun c => !isSpace c).length)

/-- `re.sub`: `skip` characters of the last match are still to be passed over. -/
def redactFrom (skip : Nat) : List Char → List Char
  | [] => []
  | c :: text =>
    match skip with
    | skip + 1 => redactFrom skip text
    | 0 =>
      match secretAt (c :: text) with
      | some (word, n) => word ++ "=[REDACTED]".toList ++ redactFrom (n - 1) text
      | none => c :: redactFrom 0 text

def redact (text : String) : String := String.ofList (redactFrom 0 text.toList)

end Breero.Outbox
