import Breero.Lib.Table
import Breero.Common.Outbox

/-!
The forms that visitors submit, and the events that carry them to the middleware.
-/

namespace Breero.PublicSubmissions

inductive SubmissionType
  | serviceRequest
  | contact
  | providerInterest
  deriving DecidableEq, Repr

/-- `submission_type.value`. -/
def SubmissionType.value : SubmissionType → String
  | .serviceRequest => "SERVICE_REQUEST"
  | .contact => "CONTACT"
  | .providerInterest => "PROVIDER_INTEREST"

inductive DownstreamStatus
  | pending
  | pendingConfiguration
  | delivered
  | failed
  deriving DecidableEq, Repr

def DownstreamStatus.value : DownstreamStatus → String
  | .pending => "PENDING"
  | .pendingConfiguration => "PENDING_CONFIGURATION"
  | .delivered => "DELIVERED"
  | .failed => "FAILED"

/-- A value of a submitted form; `uuid u` is `str(u)`. -/
inductive FormValue
  | null
  | uuid (u : Uuid)
  | bool (b : Bool)
  | str (s : String)
  | strings (items : List String)
  | texts (entries : List (String × String))
  deriving DecidableEq, Repr

/-- A `dict` in insertion order. -/
abbrev Form := List (String × FormValue)

structure PublicSubmission where
  id : Uuid
  submissionType : SubmissionType
  idempotencyKey : String
  requestHash : String
  normalizedEmail : String
  normalizedPhone : Option String
  payload : Form
  downstreamStatus : DownstreamStatus
  sourceIpHash : String
  createdAt : Instant
  deriving DecidableEq, Repr

instance : KeyedTable.Keyed PublicSubmission Uuid := ⟨PublicSubmission.id⟩

end Breero.PublicSubmissions
