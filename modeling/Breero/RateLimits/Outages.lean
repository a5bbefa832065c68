import Breero.Lib.Meters
import Breero.RateLimits.Redis
import Mathlib.Data.List.Dedup

/-!
What the rate limit comes to while Redis answers only now and then. The meters are those of exact
arithmetic.

* `Sound` is what is stored for a key, in Redis and in the processes, however it is rounded;
* `redis_metered` and `local_metered`: each of them is a meter of its own clock;
* `outages_bounded`: what passes is at most what these meters let pass, together.
-/

namespace Breero.RateLimits
open TokenBuckets Roundings Meters Runs

/-! ## Keys -/

theorem bucketKey_scope {env : Env} {scope scope' source source' : String}
    (h : bucketKey env scope source = bucketKey env scope' source') : scope = scope' := by
  have hlength (value : String) : (truncate 24 (env.sha256 value)).toList.length = 24 := by
    have hlong : (env.sha256 value).toList.length = 64 :=
      String.length_toList.trans (env.sha256_length value)
    rw [truncate, String.toList_ofList, List.length_take, hlong]
    rfl
  have hlist := congrArg String.toList h
  simp only [bucketKey, String.toList_append] at hlist
  have hfront := (List.append_inj' hlist (by rw [hlength, hlength])).1
  have hscopes := (List.append_inj' hfront rfl).1
  exact String.toList_inj.mp (List.append_inj hscopes rfl).2

/-! ## What the script finds -/

def RedisBucket.bucket (stored : RedisBucket) : Bucket Rat where
  tokens := stored.tokens
  updatedAt := stored.updatedAt

theorem Limit.capacity_nonneg (limit : Limit) : (0 : Rat) ≤ limit.capacity :=
  Nat.cast_nonneg _

theorem Limit.refillPerMs_nonneg (limit : Limit) : 0 ≤ limit.refillPerMs :=
  div_nonneg (Nat.cast_nonneg _) (Nat.cast_nonneg _)

/-- The limit on a clock of milliseconds. -/
def Limit.flowMs (limit : Limit) : Flow Rat where
  capacity := limit.capacity
  rate := limit.refillPerMs
  capacity_nonneg := limit.capacity_nonneg
  rate_nonneg := limit.refillPerMs_nonneg

theorem Limit.windowMs_pos (limit : Limit) : 0 < limit.windowMs :=
  Nat.mul_pos limit.windowSeconds_pos (by decide)

theorem Limit.windowMs_mul_rate (limit : Limit) :
    limit.windowMs * limit.refillPerMs = limit.capacity :=
  mul_div_cancel₀ _ (Nat.cast_ne_zero.mpr limit.windowMs_pos.ne')

theorem Limit.refillPerMs_pos (limit : Limit) : 0 < limit.refillPerMs :=
  div_pos (Nat.cast_pos.mpr limit.capacity_pos) (Nat.cast_pos.mpr limit.windowMs_pos)

/-- What the limiter keeps of a key in Redis: it is dropped after two windows. -/
def SoundRedis (limit : Limit) (stored : Option RedisBucket) : Prop :=
  ∀ bucket ∈ stored, 0 ≤ bucket.tokens ∧ bucket.expiresAt = bucket.updatedAt + limit.windowMs * 2

section
variable {arith : Rounding} {limit : Limit} {stored : Option RedisBucket} {redis : Redis}
  {key name : String} {nowMs : Int}

theorem SoundRedis.nonneg (h : SoundRedis limit stored) :
    ∀ bucket ∈ stored.map RedisBucket.bucket, 0 ≤ bucket.tokens := by
  intro bucket hbucket
  obtain ⟨found, hfound, rfl⟩ := Option.map_eq_some_iff.mp hbucket
  exact (h found hfound).1

theorem live_some {bucket : RedisBucket} : live stored nowMs = some bucket ↔
    stored = some bucket ∧ nowMs ≤ bucket.expiresAt := by
  simp [live, Option.filter_eq_some_iff]

theorem refilled_nonneg (h : SoundRedis limit stored) : 0 ≤ refilled arith limit stored nowMs := by
  unfold refilled
  split
  · exact limit.capacity_nonneg
  · next bucket hlive =>
    obtain ⟨hnonneg, -⟩ := h bucket (live_some.mp hlive).1
    have helapsed : (0 : Rat) ≤ (max 0 (nowMs - bucket.updatedAt) : Int) :=
      Int.cast_nonneg (le_max_left _ _)
    refine le_min limit.capacity_nonneg (arith.round_nonneg (add_nonneg hnonneg ?_))
    exact arith.round_nonneg (mul_nonneg helapsed (arith.round_nonneg limit.refillPerMs_nonneg))

/-- A bucket that has expired would have been full. -/
theorem refilled_eq (h : SoundRedis limit stored) :
    refilled .exact limit stored nowMs =
      stock limit.flowMs (stored.map RedisBucket.bucket) nowMs := by
  cases stored with
  | none => rfl
  | some bucket =>
    obtain ⟨hnonneg, hexpires⟩ := h bucket rfl
    by_cases hlive : nowMs ≤ bucket.expiresAt
    · have hfound : live (some bucket) nowMs = some bucket := live_some.mpr ⟨rfl, hlive⟩
      simp only [refilled, hfound, Rounding.exact_round, Option.map_some, stock,
        Option.elim_some, level, RedisBucket.bucket]
      push_cast
      rfl
    · have hgone : live (some bucket) nowMs = none := by simpa [live] using not_le.mp hlive
      have hwindows : (limit.windowMs * 2 : Rat) ≤ nowMs - bucket.updatedAt := by
        have hlate : bucket.updatedAt + limit.windowMs * 2 ≤ nowMs := by omega
        have hcast : ((bucket.updatedAt + limit.windowMs * 2 : Int) : Rat) ≤ (nowMs : Rat) :=
          Int.cast_le.mpr hlate
        push_cast at hcast
        linarith
      have hidle : level limit.flowMs bucket.bucket nowMs = limit.flowMs.capacity :=
        level_windows hnonneg limit.windowMs_mul_rate hwindows
      simp only [refilled, hgone, Option.map_some, stock, Option.elim_some, hidle]
      rfl

theorem tokenBucket_stored (arith : Rounding) (redis : Redis) (key : String) (limit : Limit)
    (nowMs : Int) :
    (tokenBucket arith redis key limit nowMs).2 key = some {
      tokens := leftTokens arith (refilled arith limit (redis key) nowMs)
      updatedAt := nowMs
      expiresAt := nowMs + limit.windowMs * 2 } :=
  Function.update_self _ _ _

theorem tokenBucket_self (redis : Redis) (key : String) (limit : Limit) (nowMs : Int) :
    ((tokenBucket .exact redis key limit nowMs).2 key).map RedisBucket.bucket =
      some (spent (refilled .exact limit (redis key) nowMs) nowMs) := by
  rw [tokenBucket_stored]
  rfl

theorem tokenBucket_ne (hname : name ≠ key) :
    (tokenBucket arith redis key limit nowMs).2 name = redis name :=
  Function.update_of_ne hname _ _

theorem leftTokens_nonneg {tokens : Rat} (h : 0 ≤ tokens) : 0 ≤ leftTokens arith tokens := by
  unfold leftTokens
  split
  · next hone => exact arith.round_nonneg (sub_nonneg.mpr hone)
  · exact h

theorem tokenBucket_sound (h : SoundRedis limit (redis key)) :
    SoundRedis limit ((tokenBucket arith redis key limit nowMs).2 key) := by
  intro bucket hbucket
  rw [tokenBucket_stored] at hbucket
  cases hbucket
  exact ⟨leftTokens_nonneg (refilled_nonneg h), rfl⟩

/-! ## What a process finds -/

def LocalBucket.bucket (stored : LocalBucket) : Bucket Rat where
  tokens := stored.tokens
  updatedAt := stored.updatedAt

/-- What a process keeps of a key, which expires after two windows as well. -/
def SoundLocal (limit : Limit) (stored : Option LocalBucket) : Prop :=
  ∀ bucket ∈ stored,
    0 ≤ bucket.tokens ∧ bucket.expiresAt = bucket.updatedAt + limit.windowSeconds * 2

variable {maxKeys : Nat} {limit' : Limit} {held : Option LocalBucket} {buckets : LocalBuckets}
  {now : Rat}

theorem SoundLocal.nonneg (h : SoundLocal limit held) :
    ∀ bucket ∈ held.map LocalBucket.bucket, 0 ≤ bucket.tokens := by
  intro bucket hbucket
  obtain ⟨found, hfound, rfl⟩ := Option.map_eq_some_iff.mp hbucket
  exact (h found hfound).1

theorem tokens_eq_stock (h : SoundLocal limit (buckets.lookup key)) (now : Rat) :
    buckets.tokens limit key now =
      stock limit.flow ((buckets.lookup key).map LocalBucket.bucket) now := by
  unfold LocalBuckets.tokens
  cases hfound : buckets.lookup key with
  | none => rfl
  | some bucket =>
    obtain ⟨hnonneg, hexpires⟩ := h bucket hfound
    simp only [Option.map_some, stock, Option.elim_some]
    split
    · next hexpired =>
      have hwindows : (limit.windowSeconds * 2 : Rat) ≤ now - bucket.updatedAt := by linarith
      have hidle : level limit.flow bucket.bucket now = limit.flow.capacity :=
        level_windows hnonneg limit.window_mul_rate hwindows
      exact hidle.symm
    · rfl

theorem SoundLocal.reclaimed (h : SoundLocal limit (buckets.lookup key)) :
    SoundLocal limit ((reclaimed maxKeys buckets name now).lookup key) := by
  rcases lookup_reclaimed maxKeys buckets name key now with hstays | ⟨hnone, -⟩
  · rw [hstays]
    exact h
  · rw [hnone]
    intro bucket hbucket
    cases hbucket

theorem SoundLocal.consume (h : SoundLocal limit (buckets.lookup key))
    (hlimit : name = key → limit' = limit) :
    SoundLocal limit ((consumeLocalBucket maxKeys buckets name limit' now).2.lookup key) := by
  cases hfull : tableFull maxKeys buckets name now with
  | true =>
    rw [consume_full hfull]
    exact h.reclaimed
  | false =>
    rw [consume_served hfull]
    by_cases hname : name = key
    · subst hname
      rw [hlimit rfl]
      intro bucket hbucket
      rw [AList.lookup_insert] at hbucket
      cases hbucket
      have htokens : 0 ≤ buckets.tokens limit name now := by
        rw [tokens_eq_stock h]
        exact stock_nonneg h.nonneg
      have hspent : 0 ≤ (spent (buckets.tokens limit name now) now).tokens := spent_nonneg htokens
      exact ⟨hspent, rfl⟩
    · rw [AList.lookup_insert_ne (Ne.symm hname)]
      exact h.reclaimed

/-- The token that is taken is missing afterwards. -/
theorem spent_paid (flow : Flow Rat) (tokens now : Rat) :
    (if 1 ≤ tokens then 1 else 0) + level flow (spent tokens now) now ≤ tokens := by
  have hlevel : level flow (spent tokens now) now ≤
      (spent tokens now).tokens + (now - now) * flow.rate := level_le le_rfl
  have htokens : (spent tokens now).tokens = if 1 ≤ tokens then tokens - 1 else tokens := rfl
  rw [htokens] at hlevel
  split at hlevel <;> split <;> linarith

theorem script_paid (h : SoundRedis limit (redis key)) :
    (if (tokenBucket .exact redis key limit nowMs).1.1 then 1 else 0) +
        stock limit.flowMs
          (((tokenBucket .exact redis key limit nowMs).2 key).map RedisBucket.bucket) nowMs ≤
      stock limit.flowMs ((redis key).map RedisBucket.bucket) nowMs := by
  have hallowed : (tokenBucket .exact redis key limit nowMs).1.1 =
      decide (1 ≤ refilled .exact limit (redis key) nowMs) := by
    simp only [tokenBucket, scriptDecision]
    split <;> simp_all
  have hpaid := spent_paid limit.flowMs (refilled .exact limit (redis key) nowMs) nowMs
  rw [tokenBucket_self, hallowed, ← refilled_eq h]
  simpa [stock] using hpaid

theorem consume_paid (h : SoundLocal limit (buckets.lookup key)) :
    (if (consumeLocalBucket maxKeys buckets key limit now).1.1 then 1 else 0) +
        (consumeLocalBucket maxKeys buckets key limit now).2.tokens limit key now ≤
      buckets.tokens limit key now := by
  have htokens : 0 ≤ buckets.tokens limit key now := by
    rw [tokens_eq_stock h]
    exact stock_nonneg h.nonneg
  cases hfull : tableFull maxKeys buckets key now with
  | true =>
    rw [tokens_full hfull le_rfl, consume_full hfull]
    simp
  | false =>
    have hallowed : (consumeLocalBucket maxKeys buckets key limit now).1.1 =
        decide (1 ≤ buckets.tokens limit key now) := by
      simp only [consume_served hfull, decision]
      split <;> simp_all
    have hpaid := spent_paid limit.flow (buckets.tokens limit key now) now
    rw [tokens_served hfull htokens, hallowed]
    simpa using hpaid

end

/-! ## One request -/

/-- The script has run, whether or not its answer arrived. -/
def Call.runsScript (call : Call) : Bool := call.link = .answered || call.link = .lost

def Call.fallsBack (call : Call) : Bool := call.link ≠ .answered

section
variable (arith : Rounding) (env : Env) (limits : String → Limit)

def passes (key : String) (w : World) (call : Call) : Bool :=
  call.key env = key && (enforceRateLimit arith env limits w call).1 = .passed

/-- What Redis's clock reads where the script runs for the key. -/
def redisReading (key : String) (call : Call) : Option Rat :=
  if call.runsScript && call.key env = key then some call.redisMs else none

/-- What the process's clock reads where it falls back. -/
def localReading (process : Nat) (call : Call) : Option Rat :=
  if call.fallsBack && call.process = process then some call.now else none

def passesRedis (key : String) (w : World) (call : Call) : Bool :=
  passes arith env limits key w call && !call.fallsBack

def passesLocal (key : String) (process : Nat) (w : World) (call : Call) : Bool :=
  passes arith env limits key w call && call.fallsBack && call.process = process

variable {arith env limits} {w : World} {call : Call} {key scope : String} {limit : Limit}

theorem execCall_redis (w : World) (call : Call) :
    (execCall arith env limits w call).redis =
      if call.runsScript then
        (tokenBucket arith w.redis (call.key env) (limits call.scope) call.redisMs).2
      else w.redis := by
  unfold execCall enforceRateLimit Call.runsScript
  cases call.link <;> rfl

theorem execCall_locals (w : World) (call : Call) :
    (execCall arith env limits w call).locals =
      if call.fallsBack then
        Function.update w.locals call.process
          (consumeLocalBucket localBucketMaxKeys (w.locals call.process) (call.key env)
            (limits call.scope) call.now).2
      else w.locals := by
  unfold execCall enforceRateLimit Call.fallsBack
  cases call.link <;> rfl

theorem passed_iff (allowed : Bool) (retryAfter : Int) :
    (if allowed then .passed else raiseRateLimited retryAfter) = Verdict.passed ↔
      allowed = true := by
  cases allowed with
  | true => exact iff_of_true rfl rfl
  | false =>
    refine iff_of_false (fun h => ?_) Bool.false_ne_true
    cases h

theorem verdict_answered (hanswered : call.fallsBack = false) :
    (enforceRateLimit arith env limits w call).1 = .passed ↔
      (tokenBucket arith w.redis (call.key env) (limits call.scope) call.redisMs).1.1 = true := by
  have hlink : call.link = .answered := by simpa [Call.fallsBack] using hanswered
  simp only [enforceRateLimit, hlink, runScript]
  exact passed_iff _ _

theorem verdict_fallsBack (hfalls : call.fallsBack = true) :
    (enforceRateLimit arith env limits w call).1 = .passed ↔
      (consumeLocalBucket localBucketMaxKeys (w.locals call.process) (call.key env)
        (limits call.scope) call.now).1.1 = true := by
  have hlink : call.link ≠ .answered := by simpa [Call.fallsBack] using hfalls
  have hback (w' : World) (hlocals : w'.locals = w.locals) :
      (fallBack env limits w' call).1 = .passed ↔
        (consumeLocalBucket localBucketMaxKeys (w.locals call.process) (call.key env)
          (limits call.scope) call.now).1.1 = true := by
    simp only [fallBack, hlocals]
    exact passed_iff _ _
  unfold enforceRateLimit
  cases hcase : call.link with
  | answered => exact absurd hcase hlink
  | absent => exact hback w rfl
  | failed => exact hback w rfl
  | lost => exact hback _ rfl

/-! ## The meters -/

/-- What is stored for the key, which has the limit. -/
structure Sound (limit : Limit) (key : String) (w : World) : Prop where
  redis : SoundRedis limit (w.redis key)
  locals : ∀ process, SoundLocal limit ((w.locals process).lookup key)

theorem Sound.start (limit : Limit) (key : String) : Sound limit key {} where
  redis := by
    intro bucket hbucket
    cases hbucket
  locals := by
    intro process bucket hbucket
    rw [AList.lookup_empty] at hbucket
    cases hbucket

theorem Sound.exec (h : Sound limit key w)
    (hlimit : call.key env = key → limits call.scope = limit) :
    Sound limit key (execCall arith env limits w call) where
  redis := by
    rw [execCall_redis]
    split
    · by_cases hkey : call.key env = key
      · rw [hlimit hkey, hkey]
        exact tokenBucket_sound h.redis
      · rw [tokenBucket_ne (Ne.symm hkey)]
        exact h.redis
    · exact h.redis
  locals := by
    intro process
    rw [execCall_locals]
    split
    · by_cases hprocess : process = call.process
      · subst hprocess
        rw [Function.update_self]
        exact (h.locals _).consume hlimit
      · rw [Function.update_of_ne hprocess]
        exact h.locals process
    · exact h.locals process

theorem limit_of_key {source : String} (h : call.key env = bucketKey env scope source) :
    limits call.scope = limits scope :=
  congrArg limits (bucketKey_scope h)

theorem redis_metered (env : Env) (limits : String → Limit) (scope source : String) :
    Metered (execCall .exact env limits) (redisReading env (bucketKey env scope source))
      (passesRedis .exact env limits (bucketKey env scope source))
      (fun w now => stock (limits scope).flowMs
        ((w.redis (bucketKey env scope source)).map RedisBucket.bucket) now)
      (limits scope).capacity (limits scope).refillPerMs
      (Sound (limits scope) (bucketKey env scope source)) where
  inv w call h := h.exec limit_of_key
  nonneg w now h := stock_nonneg h.redis.nonneg
  le_capacity w now h := stock_le_capacity
  moved w now later h := stock_moved later
  paid w call now h hread := by
    obtain ⟨hruns, hnow⟩ := Option.ite_none_right_eq_some.mp hread
    cases hnow
    simp only [Bool.and_eq_true, decide_eq_true_eq] at hruns
    obtain ⟨hscript, hkey⟩ := hruns
    have hredis : SoundRedis (limits scope) (w.redis (bucketKey env scope source)) := h.redis
    have hlimit : limits call.scope = limits scope := limit_of_key hkey
    have hpass : passesRedis .exact env limits (bucketKey env scope source) w call = true →
        (tokenBucket .exact w.redis (bucketKey env scope source) (limits scope) call.redisMs).1.1 =
          true := by
      intro hpasses
      simp only [passesRedis, passes, Bool.and_eq_true, decide_eq_true_eq,
        Bool.not_eq_true'] at hpasses
      have hverdict := (verdict_answered hpasses.2).mp hpasses.1.2
      rwa [hkey, hlimit] at hverdict
    rw [execCall_redis, if_pos hscript, hkey, hlimit]
    refine le_trans (add_le_add_left ?_ _) (script_paid hredis)
    by_cases hpasses : passesRedis .exact env limits (bucketKey env scope source) w call = true
    · rw [if_pos hpasses, if_pos (hpass hpasses)]
    · rw [if_neg hpasses]
      split <;> norm_num
  idle w call now h hread := by
    have hnone : ¬ (call.runsScript = true ∧ call.key env = bucketKey env scope source) := by
      simpa [redisReading] using hread
    constructor
    · rw [Bool.eq_false_iff]
      intro hpasses
      simp only [passesRedis, passes, Bool.and_eq_true, decide_eq_true_eq,
        Bool.not_eq_true'] at hpasses
      refine hnone ⟨?_, hpasses.1.1⟩
      have hlink : call.link = .answered := by simpa [Call.fallsBack] using hpasses.2
      simp [Call.runsScript, hlink]
    · rw [execCall_redis]
      split
      · next hscript =>
        rw [tokenBucket_ne fun hkey => hnone ⟨hscript, hkey.symm⟩]
      · exact le_rfl

theorem local_metered (env : Env) (limits : String → Limit) (scope source : String)
    (process : Nat) :
    Metered (execCall .exact env limits) (localReading process)
      (passesLocal .exact env limits (bucketKey env scope source) process)
      (fun w now => (w.locals process).tokens (limits scope) (bucketKey env scope source) now)
      (limits scope).capacity (limits scope).refillPerSecond
      (Sound (limits scope) (bucketKey env scope source)) where
  inv w call h := h.exec limit_of_key
  nonneg w now h := by
    rw [tokens_eq_stock (h.locals process)]
    exact stock_nonneg (h.locals process).nonneg
  le_capacity w now h := by
    rw [tokens_eq_stock (h.locals process)]
    exact stock_le_capacity
  moved w now later h := by
    rw [tokens_eq_stock (h.locals process), tokens_eq_stock (h.locals process)]
    exact stock_moved later
  paid w call now h hread := by
    obtain ⟨hruns, hnow⟩ := Option.ite_none_right_eq_some.mp hread
    cases hnow
    simp only [Bool.and_eq_true, decide_eq_true_eq] at hruns
    obtain ⟨hfalls, rfl⟩ := hruns
    rw [execCall_locals, if_pos hfalls, Function.update_self]
    by_cases hkey : call.key env = bucketKey env scope source
    · have hlimit : limits call.scope = limits scope := limit_of_key hkey
      have hpass : passesLocal .exact env limits (bucketKey env scope source) call.process w call =
            true →
          (consumeLocalBucket localBucketMaxKeys (w.locals call.process)
            (bucketKey env scope source) (limits scope) call.now).1.1 = true := by
        intro hpasses
        simp only [passesLocal, passes, Bool.and_eq_true, decide_eq_true_eq] at hpasses
        have hverdict := (verdict_fallsBack hfalls).mp hpasses.1.1.2
        rwa [hkey, hlimit] at hverdict
      rw [hkey, hlimit]
      refine le_trans (add_le_add_left ?_ _) (consume_paid (h.locals call.process))
      by_cases hpasses :
          passesLocal .exact env limits (bucketKey env scope source) call.process w call = true
      · rw [if_pos hpasses, if_pos (hpass hpasses)]
      · rw [if_neg hpasses]
        split <;> norm_num
    · rw [tokens_others (Ne.symm hkey) le_rfl]
      simp [passesLocal, passes, hkey]
  idle w call now h hread := by
    have hnone : ¬ (call.fallsBack = true ∧ call.process = process) := by
      simpa [localReading] using hread
    constructor
    · rw [Bool.eq_false_iff]
      intro hpasses
      simp only [passesLocal, Bool.and_eq_true, decide_eq_true_eq] at hpasses
      exact hnone ⟨hpasses.1.2, hpasses.2⟩
    · rw [execCall_locals]
      split
      · next hfalls =>
        rw [Function.update_of_ne fun hprocess => hnone ⟨hfalls, hprocess.symm⟩]
      · exact le_rfl

theorem Sound.run (arith : Rounding) (limits : String → Limit) {source : String}
    (h : Sound (limits scope) (bucketKey env scope source) w) (calls : List Call) :
    Sound (limits scope) (bucketKey env scope source)
      (run (execCall arith env limits) w calls) := by
  induction calls generalizing w with
  | nil => exact h
  | cons call calls ih => exact ih (h.exec limit_of_key)

/-- Of the calls from any moment on, those of a source to a scope that pass are no more than what
Redis and the processes that fall back let pass, each by its own clock, if no operation is
rounded. -/
theorem outages_bounded (env : Env) (limits : String → Limit) (scope source : String)
    (before calls : List Call) :
    let key := bucketKey env scope source
    (countSteps (execCall .exact env limits) (passes .exact env limits key)
        (run (execCall .exact env limits) {} before) calls : Rat) ≤
      supply ((limits scope).capacity : Rat) (limits scope).refillPerMs
          (calls.filterMap (redisReading env key)) +
        ((calls.map (·.process)).dedup.map fun process =>
          supply ((limits scope).capacity : Rat) (limits scope).refillPerSecond
            (calls.filterMap (localReading process))).sum := by
  intro key
  have hsound := (Sound.start (limits scope) key).run .exact limits before
  have hredis := (redis_metered env limits scope source).passed_le hsound calls
  have hlocals : (countSteps (execCall .exact env limits)
      (fun w call => passes .exact env limits key w call && call.fallsBack)
      (run (execCall .exact env limits) {} before) calls : Rat) ≤
        ((calls.map (·.process)).dedup.map fun process =>
          supply ((limits scope).capacity : Rat) (limits scope).refillPerSecond
            (calls.filterMap (localReading process))).sum := by
    refine countSteps_le_sum (q := passesLocal .exact env limits key) _ ?_ fun process _ =>
      (local_metered env limits scope source process).passed_le hsound calls
    intro call hcall w hpasses
    refine ⟨call.process, List.mem_dedup.mpr (List.mem_map_of_mem hcall), ?_⟩
    simpa [passesLocal] using hpasses
  -- a call passes by Redis or by the process that it falls back on
  have hsplit : countSteps (execCall .exact env limits) (passes .exact env limits key)
        (run (execCall .exact env limits) {} before) calls ≤
      countSteps (execCall .exact env limits) (passesRedis .exact env limits key)
          (run (execCall .exact env limits) {} before) calls +
        countSteps (execCall .exact env limits)
          (fun w call => passes .exact env limits key w call && call.fallsBack)
          (run (execCall .exact env limits) {} before) calls := by
    refine countSteps_le_add fun call _ w hpasses => ?_
    cases hfalls : call.fallsBack with
    | false => exact .inl (by simp [passesRedis, hpasses, hfalls])
    | true => exact .inr (by simp [hpasses])
  have hcast := (Nat.cast_le (α := Rat)).mpr hsplit
  rw [Nat.cast_add] at hcast
  linarith

end

end Breero.RateLimits
