import Breero.Common.Casing

/-!
Identifiers, instants, the exceptions a service can raise, and texts.
-/

namespace Breero

/-- A `uuid.UUID`, of which only equality matters. -/
abbrev Uuid := Nat

/-- Microseconds since the epoch, in UTC. -/
abbrev Instant := Int

inductive Raised
  | domainError (code message : String) (status : Nat)
  | httpException (status : Nat) (detail : String)
  | paymentError (message : String)
  | paymentNotFound (message : String)
  | invalidPaymentState (message : String)
  | idempotencyConflict (message : String)
  | integrityError (constraint : String)
  | other (text : String)
  deriving DecidableEq, Repr

namespace Raised

/-- `str(exc)`; a driver's text is reduced to the constraint it names. -/
def text : Raised → String
  | domainError _ message _ => message
  | httpException status detail => toString status ++ ": " ++ detail
  | paymentError message => message
  | paymentNotFound message => message
  | invalidPaymentState message => message
  | idempotencyConflict message => message
  | integrityError constraint => constraint
  | other text => text

end Raised

/-- What is passed for the column `User.password_hash`. -/
inductive PasswordHash
  | encoded (hash : String)
  | coroutine
  deriving DecidableEq, Repr

/-- `hash_password(...)`: the function is `async`, and the call is not awaited. -/
def unawaitedHash : PasswordHash := .coroutine

/-- The driver encodes the columns of text before it sends a row, and takes nothing but texts for
them. -/
def PasswordHash.sent : PasswordHash → Except Raised Unit
  | .encoded _ => .ok ()
  | .coroutine => .error (.other "DataError")

/-- `s.startswith(p)`. -/
def startsWith (s p : String) : Bool := p.toList.isPrefixOf s.toList

/-- `c.isspace()`. -/
def isSpace (c : Char) : Bool :=
  let n := c.toNat
  (9 ≤ n && n ≤ 13) || (28 ≤ n && n ≤ 32) || (8192 ≤ n && n ≤ 8202) ||
    n ∈ [133, 160, 5760, 8232, 8233, 8239, 8287, 12288]

/-- `s.strip()`. -/
def strip (s : String) : String :=
  String.ofList ((s.toList.dropWhile isSpace).reverse.dropWhile isSpace).reverse

/-- `s[:n]`. -/
def truncate (n : Nat) (s : String) : String := String.ofList (s.toList.take n)

end Breero
