import Breero.Lib.Roundings
import Breero.RateLimits.Service

/-!
`enforce_rate_limit`: the token bucket in Redis that all processes share, and the buckets of the
process that stand in for it. The clock of the script counts milliseconds. What it calculates
with them are doubles, so its arithmetic is an argument: `Rounding.binary64`, or `Rounding.exact`
where the rounding is left out.

* `tokenBucket` is the script, and `enforceRateLimit` a request that runs it or falls back;
* `Link` is what becomes of the script: a client that gives up may have had it run.
-/

namespace Breero.RateLimits
open TokenBuckets Roundings

/-! ## The script -/

/-- The hash of a key; `expiresAt` is when `PEXPIRE` drops it. -/
structure RedisBucket where
  tokens : Rat
  updatedAt : Int
  expiresAt : Int
  deriving DecidableEq, Repr

abbrev Redis := String → Option RedisBucket

/-- `HMGET` of a key that may have expired. -/
def live (stored : Option RedisBucket) (nowMs : Int) : Option RedisBucket :=
  stored.filter fun bucket => nowMs ≤ bucket.expiresAt

def Limit.windowMs (limit : Limit) : Nat := limit.windowSeconds * 1000

/-- `refill_per_ms`, before it is rounded -/
def Limit.refillPerMs (limit : Limit) : Rat := limit.capacity / limit.windowMs

section
variable (arith : Rounding)

/-- The tokens that the script finds. -/
def refilled (limit : Limit) (stored : Option RedisBucket) (nowMs : Int) : Rat :=
  match live stored nowMs with
  | none => limit.capacity
  | some bucket =>
    let elapsed := max 0 (nowMs - bucket.updatedAt)
    min limit.capacity
      (arith.round (bucket.tokens + arith.round (elapsed * arith.round limit.refillPerMs)))

/-- `allowed` and `retry_ms` for so many tokens. -/
def scriptDecision (limit : Limit) (tokens : Rat) : Bool × Int :=
  if 1 ≤ tokens then (true, 0)
  else (false, ⌈arith.round (arith.round (1 - tokens) / arith.round limit.refillPerMs)⌉)

/-- The tokens that it leaves. -/
def leftTokens (tokens : Rat) : Rat := if 1 ≤ tokens then arith.round (tokens - 1) else tokens

/-- `TOKEN_BUCKET_LUA` -/
def tokenBucket (redis : Redis) (key : String) (limit : Limit) (nowMs : Int) :
    (Bool × Int) × Redis :=
  let tokens := refilled arith limit (redis key) nowMs
  (scriptDecision arith limit tokens,
    Function.update redis key (some {
      tokens := leftTokens arith tokens
      updatedAt := nowMs
      expiresAt := nowMs + limit.windowMs * 2 }))

end

/-! ## Requests -/

structure Env where
  /-- `hashlib.sha256(value.encode()).hexdigest()` -/
  sha256 : String → String
  sha256_length : ∀ value, (sha256 value).length = 64

/-- `source_for_request`, of `request.client.host` -/
def sourceForRequest (host : Option String) : String := host.getD "unknown"

/-- `_bucket_key` -/
def bucketKey (env : Env) (scope source : String) : String :=
  "ratelimit:" ++ scope ++ ":" ++ truncate 24 (env.sha256 source)

/-- What becomes of the script: `failed` and `lost` raise a `RedisError`, the latter after the
script has run. -/
inductive Link
  | absent
  | answered
  | failed
  | lost
  deriving DecidableEq, Repr

/-- A request to one of the processes, with what both clocks read then. -/
structure Call where
  process : Nat
  scope : String
  host : Option String
  link : Link
  redisMs : Int
  now : Rat
  deriving DecidableEq, Repr

structure World where
  redis : Redis := fun _ => none
  /-- `_LOCAL_BUCKETS` of each process -/
  locals : Nat → LocalBuckets := fun _ => ∅

/-- What comes of a request: `limited` is the status 429 with its header `Retry-After`. -/
inductive Verdict
  | passed
  | limited (retryAfter : Int)
  deriving DecidableEq, Repr

/-- `_raise_rate_limited` -/
def raiseRateLimited (retryAfter : Int) : Verdict := .limited (max 1 retryAfter)

/-- What the request makes of the answer of the script. -/
def scriptVerdict (arith : Rounding) (decision : Bool × Int) : Verdict :=
  if decision.1 then .passed
  else raiseRateLimited (max 1 ⌈arith.round ((decision.2 : Rat) / 1000)⌉)

def Call.key (env : Env) (call : Call) : String :=
  bucketKey env call.scope (sourceForRequest call.host)

section
variable (arith : Rounding) (env : Env) (limits : String → Limit)

def runScript (w : World) (call : Call) : (Bool × Int) × World :=
  let (decision, redis) :=
    tokenBucket arith w.redis (call.key env) (limits call.scope) call.redisMs
  (decision, { w with redis })

def fallBack (w : World) (call : Call) : Verdict × World :=
  let (decision, buckets) := consumeLocalBucket localBucketMaxKeys (w.locals call.process)
    (call.key env) (limits call.scope) call.now
  (if decision.1 then .passed else raiseRateLimited decision.2,
    { w with locals := Function.update w.locals call.process buckets })

/-- `enforce_rate_limit`, with the limit of the scope -/
def enforceRateLimit (w : World) (call : Call) : Verdict × World :=
  match call.link with
  | .absent | .failed => fallBack env limits w call
  | .lost => fallBack env limits (runScript arith env limits w call).2 call
  | .answered =>
    let (decision, w) := runScript arith env limits w call
    (scriptVerdict arith decision, w)

def execCall (w : World) (call : Call) : World := (enforceRateLimit arith env limits w call).2

end

end Breero.RateLimits
