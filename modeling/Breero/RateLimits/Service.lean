import Breero.Common.Raised
import Breero.Lib.Runs
import Breero.Lib.TokenBuckets
import Mathlib.Data.List.AList
import Mathlib.Data.Rat.Floor

/-!
The rate limiter of the process itself, which stands in when Redis does not answer. Time is
rational: seconds of a monotonic clock.

* `consumeLocalBucket` is the decision about one request, over the table of the buckets;
* `serve` is a run of requests, each with the limit of its key.
-/

namespace Breero.RateLimits
open TokenBuckets

/-- `LOCAL_BUCKET_MAX_KEYS` -/
def localBucketMaxKeys : Nat := 1024

/-- `_LocalBucket` -/
structure LocalBucket where
  tokens : Rat
  updatedAt : Rat
  expiresAt : Rat
  deriving DecidableEq, Repr

/-- `_LOCAL_BUCKETS` -/
abbrev LocalBuckets := AList fun _ : String => LocalBucket

/-- The capacity and the window that `enforce_rate_limit` hands on. -/
structure Limit where
  capacity : Nat
  windowSeconds : Nat
  capacity_pos : 0 < capacity
  windowSeconds_pos : 0 < windowSeconds

/-- The check with which `enforce_rate_limit` begins. -/
def Limit.of (requests windowSeconds : Int) : Except Raised Limit :=
  if h : requests < 1 ∨ windowSeconds < 1 then
    .error (.other "rate-limit capacity and window must be positive")
  else .ok {
    capacity := requests.toNat
    windowSeconds := windowSeconds.toNat
    capacity_pos := by omega
    windowSeconds_pos := by omega }

/-- `refill_per_second` -/
def Limit.refillPerSecond (limit : Limit) : Rat := limit.capacity / limit.windowSeconds

/-- `allowed` and `retry_after` for a bucket with so many tokens. -/
def decision (limit : Limit) (tokens : Rat) : Bool × Int :=
  if 1 ≤ tokens then (true, 0)
  else (false, max 1 ⌈(1 - tokens) / limit.refillPerSecond⌉)

/-- The expired buckets, which are popped when the table is at its cap. -/
def reclaim (maxKeys : Nat) (buckets : LocalBuckets) (now : Rat) : LocalBuckets :=
  if maxKeys ≤ buckets.entries.length then
    ((buckets.entries.filter fun entry => entry.2.expiresAt ≤ now).map (·.1)).foldl
      (fun buckets name => buckets.erase name) buckets
  else buckets

/-- The bucket of the key, which is popped if it is expired. -/
def popExpired (buckets : LocalBuckets) (key : String) (now : Rat) : LocalBuckets :=
  match buckets.lookup key with
  | some bucket => if bucket.expiresAt ≤ now then buckets.erase key else buckets
  | none => buckets

/-- The table in which the bucket of the key is looked up. -/
def reclaimed (maxKeys : Nat) (buckets : LocalBuckets) (key : String) (now : Rat) :
    LocalBuckets :=
  popExpired (reclaim maxKeys buckets now) key now

/-- An unseen key while the table is at its cap, which is refused. -/
def tableFull (maxKeys : Nat) (buckets : LocalBuckets) (key : String) (now : Rat) : Bool :=
  ((reclaimed maxKeys buckets key now).lookup key).isNone &&
    maxKeys ≤ (reclaimed maxKeys buckets key now).entries.length

/-- The decision for the bucket, which loses a token if it has one and is stored. -/
def spend (buckets : LocalBuckets) (key : String) (limit : Limit) (bucket : LocalBucket) :
    (Bool × Int) × LocalBuckets :=
  let bucket' :=
    if 1 ≤ bucket.tokens then { bucket with tokens := bucket.tokens - 1 } else bucket
  (decision limit bucket.tokens, buckets.insert key bucket')

/-- `_consume_local_bucket` -/
def consumeLocalBucket (maxKeys : Nat) (buckets : LocalBuckets) (key : String) (limit : Limit)
    (now : Rat) : (Bool × Int) × LocalBuckets :=
  let buckets := reclaimed maxKeys buckets key now
  match buckets.lookup key with
  | none =>
    if maxKeys ≤ buckets.entries.length then ((false, max 1 limit.windowSeconds), buckets)
    else spend buckets key limit {
      tokens := limit.capacity
      updatedAt := now
      expiresAt := now + limit.windowSeconds * 2 }
  | some bucket =>
    let elapsed := max 0 (now - bucket.updatedAt)
    spend buckets key limit {
      tokens := min limit.capacity (bucket.tokens + elapsed * limit.refillPerSecond)
      updatedAt := now
      expiresAt := now + limit.windowSeconds * 2 }

/-! ## Runs of requests -/

structure Request where
  key : String
  now : Rat
  deriving DecidableEq, Repr

/-- A request, the decision about it, and whether it was refused as the table was full. -/
structure Outcome where
  request : Request
  decision : Bool × Int
  full : Bool
  deriving DecidableEq, Repr

section
variable (maxKeys : Nat) (limits : String → Limit)

def exec (buckets : LocalBuckets) (request : Request) : LocalBuckets :=
  (consumeLocalBucket maxKeys buckets request.key (limits request.key) request.now).2

def outcome (buckets : LocalBuckets) (request : Request) : Outcome where
  request
  decision :=
    (consumeLocalBucket maxKeys buckets request.key (limits request.key) request.now).1
  full := tableFull maxKeys buckets request.key request.now

def serve (buckets : LocalBuckets) : List Request → List Outcome
  | [] => []
  | request :: later =>
    outcome maxKeys limits buckets request :: serve (exec maxKeys limits buckets request) later

theorem serve_append (buckets : LocalBuckets) (requests later : List Request) :
    serve maxKeys limits buckets (requests ++ later) =
      serve maxKeys limits buckets requests ++
        serve maxKeys limits (Runs.run (exec maxKeys limits) buckets requests) later := by
  induction requests generalizing buckets with
  | nil => rfl
  | cons request requests ih => simp only [List.cons_append, serve, ih]; rfl

end

theorem sorted_from_first {request : Request} {requests : List Request}
    (h : ((request :: requests).map (·.now)).Pairwise (· ≤ ·)) :
    (request.now :: (request :: requests).map (·.now)).Pairwise (· ≤ ·) := by
  refine List.pairwise_cons.mpr ⟨?_, h⟩
  intro later hlater
  rcases List.mem_cons.mp hlater with rfl | hlater
  · exact le_rfl
  · exact (List.pairwise_cons.mp h).1 later hlater

/-- One request a minute for each key. -/
def oneAMinute : Limit where
  capacity := 1
  windowSeconds := 60
  capacity_pos := by decide
  windowSeconds_pos := by decide

/-! ## Reclaiming -/

section
variable {maxKeys : Nat} {buckets : LocalBuckets} {key name : String} {now : Rat}

theorem lookup_foldl_erase (names : List String) (buckets : LocalBuckets) :
    (names.foldl (fun buckets name => buckets.erase name) buckets).lookup key =
      if key ∈ names then none else buckets.lookup key := by
  induction names generalizing buckets with
  | nil => rfl
  | cons name names ih =>
    rw [List.foldl_cons, ih]
    by_cases hname : key = name
    · subst hname
      simp
    · simp [hname, AList.lookup_erase_ne hname]

theorem length_erase_le (buckets : LocalBuckets) (name : String) :
    (buckets.erase name).entries.length ≤ buckets.entries.length :=
  (List.kerase_sublist name buckets.entries).length_le

theorem length_foldl_erase_le (names : List String) (buckets : LocalBuckets) :
    (names.foldl (fun buckets name => buckets.erase name) buckets).entries.length ≤
      buckets.entries.length := by
  induction names generalizing buckets with
  | nil => exact le_rfl
  | cons name names ih => exact (ih _).trans (length_erase_le buckets name)

/-- What happens to a bucket: it stays, or it is expired and popped. -/
theorem lookup_reclaim (maxKeys : Nat) (buckets : LocalBuckets) (name : String) (now : Rat) :
    (reclaim maxKeys buckets now).lookup name = buckets.lookup name ∨
      (reclaim maxKeys buckets now).lookup name = none ∧
        ∃ bucket ∈ buckets.lookup name, bucket.expiresAt ≤ now := by
  unfold reclaim
  split
  · rw [lookup_foldl_erase]
    split
    · next hmem =>
      obtain ⟨⟨name', bucket⟩, hentry, rfl⟩ := List.mem_map.mp hmem
      obtain ⟨hentry, hexpired⟩ := List.mem_filter.mp hentry
      exact .inr ⟨rfl, bucket, AList.mem_lookup_iff.mpr hentry, of_decide_eq_true hexpired⟩
    · exact .inl rfl
  · exact .inl rfl

theorem lookup_popExpired (buckets : LocalBuckets) (key name : String) (now : Rat) :
    (popExpired buckets key now).lookup name = buckets.lookup name ∨
      (popExpired buckets key now).lookup name = none ∧
        ∃ bucket ∈ buckets.lookup name, bucket.expiresAt ≤ now := by
  unfold popExpired
  split
  · next bucket hbucket =>
    split
    · next hexpired =>
      by_cases hname : name = key
      · subst hname
        exact .inr ⟨AList.lookup_erase _ _, bucket, hbucket, hexpired⟩
      · exact .inl (AList.lookup_erase_ne hname)
    · exact .inl rfl
  · exact .inl rfl

theorem lookup_reclaimed (maxKeys : Nat) (buckets : LocalBuckets) (key name : String)
    (now : Rat) :
    (reclaimed maxKeys buckets key now).lookup name = buckets.lookup name ∨
      (reclaimed maxKeys buckets key now).lookup name = none ∧
        ∃ bucket ∈ buckets.lookup name, bucket.expiresAt ≤ now := by
  unfold reclaimed
  rcases lookup_reclaim maxKeys buckets name now with hstays | ⟨hpopped, hexpired⟩
  · rw [← hstays]
    exact lookup_popExpired _ key name now
  · rcases lookup_popExpired (reclaim maxKeys buckets now) key name now with h | ⟨h, -⟩
    · exact .inr ⟨h.trans hpopped, hexpired⟩
    · exact .inr ⟨h, hexpired⟩

/-- The bucket of the key that is found is not expired. -/
theorem not_expired_of_found {bucket : LocalBucket}
    (h : (reclaimed maxKeys buckets key now).lookup key = some bucket) :
    now < bucket.expiresAt := by
  unfold reclaimed popExpired at h
  split at h
  · next found hfound =>
    split at h
    · rw [AList.lookup_erase] at h
      cases h
    · next hlive =>
      rw [hfound] at h
      cases h
      exact not_le.mp hlive
  · next hnone =>
    rw [hnone] at h
    cases h

theorem length_popExpired_le (buckets : LocalBuckets) (key : String) (now : Rat) :
    (popExpired buckets key now).entries.length ≤ buckets.entries.length := by
  unfold popExpired
  split
  · split
    · exact length_erase_le buckets key
    · exact le_rfl
  · exact le_rfl

theorem length_reclaimed_le (maxKeys : Nat) (buckets : LocalBuckets) (key : String)
    (now : Rat) : (reclaimed maxKeys buckets key now).entries.length ≤ buckets.entries.length := by
  refine (length_popExpired_le _ key now).trans ?_
  unfold reclaim
  split
  · exact length_foldl_erase_le _ buckets
  · exact le_rfl

/-- A table that is still at its cap has no expired bucket left. -/
theorem not_expired_of_full
    (h : maxKeys ≤ (reclaimed maxKeys buckets key now).entries.length) {bucket : LocalBucket}
    (hbucket : (reclaimed maxKeys buckets key now).lookup name = some bucket) :
    now < bucket.expiresAt := by
  have hcap : maxKeys ≤ buckets.entries.length :=
    h.trans (length_reclaimed_le maxKeys buckets key now)
  have hswept : (reclaim maxKeys buckets now).lookup name = some bucket := by
    rcases lookup_popExpired (reclaim maxKeys buckets now) key name now with heq | ⟨hnone, -⟩
    · exact heq ▸ hbucket
    · unfold reclaimed at hbucket
      rw [hnone] at hbucket
      cases hbucket
  rw [reclaim, if_pos hcap, lookup_foldl_erase] at hswept
  split at hswept
  · cases hswept
  · next hkept =>
    by_contra hexpired
    refine hkept (List.mem_map.mpr ⟨⟨name, bucket⟩, ?_, rfl⟩)
    exact List.mem_filter.mpr ⟨AList.mem_lookup_iff.mp hswept,
      decide_eq_true (not_lt.mp hexpired)⟩

end

/-! ## What a request finds -/

/-- A limit as a token bucket of its own. -/
def Limit.flow (limit : Limit) : Flow Rat where
  capacity := limit.capacity
  rate := limit.refillPerSecond
  capacity_nonneg := Nat.cast_nonneg _
  rate_nonneg := div_nonneg (Nat.cast_nonneg _) (Nat.cast_nonneg _)

theorem Limit.window_mul_rate (limit : Limit) :
    limit.windowSeconds * limit.refillPerSecond = limit.capacity := by
  have hwindow : (limit.windowSeconds : Rat) ≠ 0 :=
    Nat.cast_ne_zero.mpr limit.windowSeconds_pos.ne'
  exact mul_div_cancel₀ _ hwindow

theorem Limit.rate_pos (limit : Limit) : 0 < limit.refillPerSecond :=
  div_pos (Nat.cast_pos.mpr limit.capacity_pos) (Nat.cast_pos.mpr limit.windowSeconds_pos)

theorem Limit.one_le_capacity (limit : Limit) : 1 ≤ limit.flow.capacity :=
  Nat.one_le_cast.mpr limit.capacity_pos

/-- The tokens that a request of the key would find: a bucket that is not there, or that is
expired, is full. -/
def LocalBuckets.tokens (limit : Limit) (buckets : LocalBuckets) (key : String) (now : Rat) :
    Rat :=
  match buckets.lookup key with
  | none => limit.capacity
  | some bucket =>
    if bucket.expiresAt ≤ now then limit.capacity
    else level limit.flow ⟨bucket.tokens, bucket.updatedAt⟩ now

/-- The bucket after the request. -/
def spent (tokens now : Rat) : Bucket Rat where
  tokens := if 1 ≤ tokens then tokens - 1 else tokens
  updatedAt := now

variable {maxKeys : Nat} {buckets : LocalBuckets} {key name : String} {limit : Limit}
  {now later tokens : Rat}

theorem spent_level (bucket : Bucket Rat) :
    spent (level limit.flow bucket now) now = take limit.flow bucket now := by
  unfold spent take taken
  split <;> simp

theorem spent_nonneg (h : 0 ≤ tokens) : 0 ≤ (spent tokens now).tokens := by
  unfold spent
  dsimp only
  split <;> linarith

theorem tokens_of_none (h : buckets.lookup key = none) :
    buckets.tokens limit key now = limit.capacity := by
  rw [LocalBuckets.tokens, h]

/-- What is popped would have been found full. -/
theorem tokens_reclaimed (hnow : now ≤ later) :
    (reclaimed maxKeys buckets key now).tokens limit name later =
      buckets.tokens limit name later := by
  rcases lookup_reclaimed maxKeys buckets key name now with h | ⟨hnone, bucket, hbucket, hexpired⟩
  · rw [LocalBuckets.tokens, h, LocalBuckets.tokens]
  · rw [tokens_of_none hnone, LocalBuckets.tokens, Option.mem_def.mp hbucket]
    exact (if_pos (hexpired.trans hnow)).symm

theorem consume_full (h : tableFull maxKeys buckets key now = true) :
    consumeLocalBucket maxKeys buckets key limit now =
      ((false, max 1 (limit.windowSeconds : Int)), reclaimed maxKeys buckets key now) := by
  simp only [tableFull, Bool.and_eq_true, Option.isNone_iff_eq_none, decide_eq_true_eq] at h
  unfold consumeLocalBucket
  simp only [h.1, if_pos h.2]

theorem spend_eq (buckets : LocalBuckets) (tokens expiresAt : Rat) :
    spend buckets key limit { tokens, updatedAt := now, expiresAt } =
      (decision limit tokens, buckets.insert key {
        tokens := (spent tokens now).tokens
        updatedAt := now
        expiresAt }) := by
  unfold spend spent
  dsimp only
  split <;> rfl

/-- A request that is not refused for a full table is decided by the tokens it finds. -/
theorem consume_served (h : tableFull maxKeys buckets key now = false) :
    consumeLocalBucket maxKeys buckets key limit now =
      (decision limit (buckets.tokens limit key now),
        (reclaimed maxKeys buckets key now).insert key {
          tokens := (spent (buckets.tokens limit key now) now).tokens
          updatedAt := now
          expiresAt := now + limit.windowSeconds * 2 }) := by
  have htokens : (reclaimed maxKeys buckets key now).tokens limit key now =
      buckets.tokens limit key now := tokens_reclaimed (le_refl now)
  unfold consumeLocalBucket
  cases hfound : (reclaimed maxKeys buckets key now).lookup key with
  | none =>
    have hroom : ¬ maxKeys ≤ (reclaimed maxKeys buckets key now).entries.length := by
      simpa [tableFull, hfound] using h
    rw [tokens_of_none hfound] at htokens
    simp only [hfound, if_neg hroom, spend_eq, htokens]
  | some bucket =>
    have hlive := not_expired_of_found hfound
    rw [LocalBuckets.tokens, hfound] at htokens
    dsimp only at htokens
    rw [if_neg (not_le.mpr hlive)] at htokens
    simp only [hfound, ← htokens]
    exact spend_eq _ _ _

/-- From a request on, the key has the bucket that the request left, as an expired one would
have filled up by then. -/
theorem tokens_served (h : tableFull maxKeys buckets key now = false)
    (htokens : 0 ≤ buckets.tokens limit key now) :
    (consumeLocalBucket maxKeys buckets key limit now).2.tokens limit key later =
      level limit.flow (spent (buckets.tokens limit key now) now) later := by
  rw [consume_served h, LocalBuckets.tokens, AList.lookup_insert]
  dsimp only
  split
  · next hexpired =>
    have hwindows : limit.windowSeconds * 2 ≤ later - now := by linarith
    have hidle : level limit.flow (spent (buckets.tokens limit key now) now) later =
        limit.capacity := level_windows (spent_nonneg htokens) limit.window_mul_rate hwindows
    exact hidle.symm
  · rfl

/-- Another key finds what it would have found without the request. -/
theorem tokens_others {limit' : Limit} (hname : name ≠ key) (hnow : now ≤ later) :
    (consumeLocalBucket maxKeys buckets key limit now).2.tokens limit' name later =
      buckets.tokens limit' name later := by
  have htokens : (reclaimed maxKeys buckets key now).tokens limit' name later =
      buckets.tokens limit' name later := tokens_reclaimed hnow
  cases hfull : tableFull maxKeys buckets key now with
  | true => rw [consume_full hfull, htokens]
  | false =>
    rw [consume_served hfull, ← htokens, LocalBuckets.tokens, AList.lookup_insert_ne hname]
    rfl

theorem tokens_full {limit' : Limit} (h : tableFull maxKeys buckets key now = true)
    (hnow : now ≤ later) :
    (consumeLocalBucket maxKeys buckets key limit now).2.tokens limit' name later =
      buckets.tokens limit' name later := by
  rw [consume_full h, tokens_reclaimed hnow]

theorem length_keys (buckets : LocalBuckets) : buckets.keys.length = buckets.entries.length :=
  List.length_map _

theorem length_insert_of_mem {bucket : LocalBucket} (h : key ∈ buckets) :
    (buckets.insert key bucket).entries.length = buckets.entries.length := by
  have hmem := AList.mem_keys.mp h
  have hpos := List.length_pos_of_mem hmem
  rw [← length_keys, AList.keys_insert, List.length_cons, List.length_erase_of_mem hmem,
    ← length_keys]
  omega

theorem length_insert_le (buckets : LocalBuckets) (key : String) (bucket : LocalBucket) :
    (buckets.insert key bucket).entries.length ≤ buckets.entries.length + 1 := by
  rw [← length_keys, AList.keys_insert, List.length_cons, ← length_keys]
  exact Nat.add_le_add_right List.erase_sublist.length_le 1

/-- A bucket is only added below the cap. -/
theorem length_consume_le (h : buckets.entries.length ≤ maxKeys) :
    (consumeLocalBucket maxKeys buckets key limit now).2.entries.length ≤ maxKeys := by
  have hle := (length_reclaimed_le maxKeys buckets key now).trans h
  cases hfull : tableFull maxKeys buckets key now with
  | true =>
    rw [consume_full hfull]
    exact hle
  | false =>
    rw [consume_served hfull]
    cases hfound : (reclaimed maxKeys buckets key now).lookup key with
    | some bucket =>
      have hmem : key ∈ reclaimed maxKeys buckets key now := by
        rw [← AList.lookup_isSome, hfound]
        rfl
      exact (length_insert_of_mem hmem).trans_le hle
    | none =>
      have hroom : ¬ maxKeys ≤ (reclaimed maxKeys buckets key now).entries.length := by
        simpa [tableFull, hfound] using hfull
      refine (length_insert_le _ _ _).trans ?_
      omega

end Breero.RateLimits
