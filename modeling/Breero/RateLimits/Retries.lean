import Breero.RateLimits.Outages
import Mathlib.Algebra.Order.Ring.Pow

/-!
Waiting for a token, in the arithmetic of doubles.

* `Fine` says that a rounding error is small against what a millisecond brings;
* `refused_by_script` is what a refusal says, and `refilled_enough` what the wait brings;
* `retry_suffices`: who waits longer than the script says is let through;
* `register_refused_again`: who waits exactly so long may be refused again.
-/

namespace Breero.RateLimits
open Roundings Runs

section
variable {arith : Rounding} {env : Env} {limits : String → Limit} {w : World} {call : Call}
  {limit : Limit} {tokens : Rat}

/-! ## Rounding errors -/

/-- For doubles, the window is at most 2^49 milliseconds. -/
def Fine (arith : Rounding) (limit : Limit) : Prop := 16 * arith.unit * limit.windowMs ≤ 1

theorem fine_binary64 (h : limit.windowMs ≤ 2 ^ 49) : Fine .binary64 limit := by
  have hcast : (limit.windowMs : Rat) ≤ 2 ^ 49 := by exact_mod_cast h
  have hunit : Rounding.binary64.unit = 1 / 2 ^ 53 := rfl
  rw [Fine, hunit]
  linarith

theorem Fine.unit_le (h : Fine arith limit) : arith.unit ≤ 1 / 16 := by
  have hwindow : (1 : Rat) ≤ limit.windowMs := Nat.one_le_cast.mpr limit.windowMs_pos
  have hless : 16 * arith.unit * 1 ≤ 16 * arith.unit * limit.windowMs :=
    mul_le_mul_of_nonneg_left hwindow (mul_nonneg (by norm_num) arith.unit_nonneg)
  unfold Fine at h
  linarith

/-- What a millisecond brings is some times what a rounding can take from a token. -/
theorem Fine.unit_le_rate (h : Fine arith limit) :
    15 * arith.unit ≤ arith.round limit.refillPerMs := by
  have hcapacity : (1 : Rat) ≤ limit.capacity := Nat.one_le_cast.mpr limit.capacity_pos
  have hexact : 16 * arith.unit ≤ limit.refillPerMs := by
    rw [Limit.refillPerMs, le_div_iff₀ (Nat.cast_pos.mpr limit.windowMs_pos)]
    exact le_trans h hcapacity
  have hround := arith.le_round limit.refillPerMs_nonneg
  have hunit := h.unit_le
  have hless := mul_le_mul_of_nonneg_right hexact (sub_nonneg.mpr arith.unit_lt_one.le)
  have hsquare : arith.unit * arith.unit ≤ arith.unit * (1 / 16) :=
    mul_le_mul_of_nonneg_left hunit arith.unit_nonneg
  linarith

/-- Four roundings of the wait, and one more of the sum, do not take back a millisecond. -/
theorem rounded_sum_ge {u rate tokens : Rat} (hu : 0 ≤ u) (hsmall : u ≤ 1 / 16)
    (hrate : 15 * u ≤ rate) (hnonneg : 0 ≤ tokens) (hless : tokens < 1) :
    1 ≤ (tokens + ((1 - tokens) * (1 - u) ^ 3 + rate) * (1 - u)) * (1 - u) := by
  have hbernoulli : 1 - 4 * u ≤ (1 - u) ^ 4 := by
    have h := one_add_mul_le_pow (a := -u) (by linarith) 4
    rw [← sub_eq_add_neg] at h
    push_cast at h
    linarith
  have hsquare : u * u ≤ u * (1 / 16) := mul_le_mul_of_nonneg_left hsmall hu
  have hwaited : (1 - tokens) * (1 - 4 * u) ≤ (1 - tokens) * (1 - u) ^ 4 :=
    mul_le_mul_of_nonneg_left hbernoulli (by linarith)
  have hmissing : (1 - tokens) * (4 * u) ≤ 1 * (4 * u) :=
    mul_le_mul_of_nonneg_right (by linarith) (by linarith)
  have hmore : 15 * u * (1 - u) ≤ rate * (1 - u) :=
    mul_le_mul_of_nonneg_right hrate (by linarith)
  have hinner : 1 + 10 * u ≤ tokens + ((1 - tokens) * (1 - u) ^ 3 + rate) * (1 - u) := by
    have hsum : tokens + ((1 - tokens) * (1 - u) ^ 3 + rate) * (1 - u) =
        tokens + (1 - tokens) * (1 - u) ^ 4 + rate * (1 - u) := by ring
    rw [hsum]
    linarith
  have houter := mul_le_mul_of_nonneg_right hinner (show 0 ≤ 1 - u by linarith)
  linarith

/-! ## A refusal -/

theorem enforce_answered (arith : Rounding) (env : Env) (limits : String → Limit) (w : World)
    (hlink : call.link = .answered) :
    (enforceRateLimit arith env limits w call).1 =
      scriptVerdict arith (scriptDecision arith (limits call.scope)
        (refilled arith (limits call.scope) (w.redis (call.key env)) call.redisMs)) := by
  unfold enforceRateLimit
  rw [hlink]
  rfl

/-- The wait that the script computes, up to three roundings. -/
theorem retry_ge (arith : Rounding) (limit : Limit) (hless : tokens < 1) {retryMs retryAfter : Int}
    (hms : retryMs = ⌈arith.round (arith.round (1 - tokens) / arith.round limit.refillPerMs)⌉)
    (hseconds : ⌈arith.round ((retryMs : Rat) / 1000)⌉ ≤ retryAfter) :
    (1 - tokens) * (1 - arith.unit) ^ 3 ≤ retryAfter * 1000 * arith.round limit.refillPerMs := by
  have hrate : 0 < arith.round limit.refillPerMs := arith.round_pos limit.refillPerMs_pos
  have hkeeps : 0 ≤ 1 - arith.unit := sub_nonneg.mpr arith.unit_lt_one.le
  have hmissing := arith.le_round (sub_nonneg.mpr hless.le)
  have hquotient := arith.le_round
    (div_nonneg (arith.round_nonneg (sub_nonneg.mpr hless.le)) hrate.le)
  have hwhole : arith.round (arith.round (1 - tokens) / arith.round limit.refillPerMs) ≤
      retryMs := hms ▸ Int.le_ceil _
  have hretryMs : (0 : Rat) ≤ retryMs :=
    (arith.round_nonneg (div_nonneg (arith.round_nonneg (sub_nonneg.mpr hless.le)) hrate.le)).trans
      hwhole
  have hcalled := (arith.le_round (div_nonneg hretryMs (by norm_num : (0 : Rat) ≤ 1000))).trans
    ((Int.le_ceil _).trans (Int.cast_le.mpr hseconds))
  have hthousand : retryMs * (1 - arith.unit) ≤ retryAfter * 1000 := by linarith
  have hdivided : arith.round (1 - tokens) * (1 - arith.unit) ≤
      retryMs * arith.round limit.refillPerMs := by
    have h := mul_le_mul_of_nonneg_right (hquotient.trans hwhole) hrate.le
    rwa [div_mul_eq_mul_div, div_mul_cancel₀ _ hrate.ne'] at h
  calc (1 - tokens) * (1 - arith.unit) ^ 3
      = (1 - tokens) * (1 - arith.unit) * (1 - arith.unit) * (1 - arith.unit) := by ring
    _ ≤ arith.round (1 - tokens) * (1 - arith.unit) * (1 - arith.unit) :=
        mul_le_mul_of_nonneg_right (mul_le_mul_of_nonneg_right hmissing hkeeps) hkeeps
    _ ≤ retryMs * arith.round limit.refillPerMs * (1 - arith.unit) :=
        mul_le_mul_of_nonneg_right hdivided hkeeps
    _ = retryMs * (1 - arith.unit) * arith.round limit.refillPerMs := by ring
    _ ≤ retryAfter * 1000 * arith.round limit.refillPerMs :=
        mul_le_mul_of_nonneg_right hthousand hrate.le

/-- What a refusal by the script says about the tokens, and how long it makes the caller wait. -/
theorem refused_by_script {retryAfter : Int} (hlink : call.link = .answered)
    (h : (enforceRateLimit arith env limits w call).1 = .limited retryAfter) :
    let tokens := refilled arith (limits call.scope) (w.redis (call.key env)) call.redisMs
    tokens < 1 ∧ (1 - tokens) * (1 - arith.unit) ^ 3 ≤
      retryAfter * 1000 * arith.round (limits call.scope).refillPerMs := by
  intro tokens
  rw [enforce_answered arith env limits w hlink] at h
  by_cases hone : 1 ≤ tokens
  · have hdecision : scriptDecision arith (limits call.scope) tokens = (true, 0) := if_pos hone
    rw [hdecision] at h
    cases h
  · have hdecision : scriptDecision arith (limits call.scope) tokens = (false,
        ⌈arith.round (arith.round (1 - tokens) /
          arith.round (limits call.scope).refillPerMs)⌉) := if_neg hone
    rw [hdecision] at h
    have hretry := Verdict.limited.inj h
    refine ⟨not_le.mp hone, retry_ge arith (limits call.scope) (not_le.mp hone) rfl ?_⟩
    rw [← hretry]
    exact (le_max_right _ _).trans (le_max_right _ _)

/-! ## The next request -/

/-- The bucket that a refusal has left holds a token after the wait, or it has expired. -/
theorem refilled_enough {bucket : RedisBucket} {retryAfter laterMs : Int} (hfine : Fine arith limit)
    (hnonneg : 0 ≤ bucket.tokens) (hless : bucket.tokens < 1)
    (hretry : (1 - bucket.tokens) * (1 - arith.unit) ^ 3 ≤
      retryAfter * 1000 * arith.round limit.refillPerMs)
    (hwait : bucket.updatedAt + retryAfter * 1000 < laterMs) :
    1 ≤ refilled arith limit (some bucket) laterMs := by
  have hcapacity : (1 : Rat) ≤ limit.capacity := Nat.one_le_cast.mpr limit.capacity_pos
  unfold refilled
  split
  · exact hcapacity
  · next found hlive =>
    obtain ⟨hsame, -⟩ := live_some.mp hlive
    cases hsame
    refine le_min hcapacity ?_
    have hrate : 0 ≤ arith.round limit.refillPerMs := arith.round_nonneg limit.refillPerMs_nonneg
    have hkeeps : 0 ≤ 1 - arith.unit := sub_nonneg.mpr arith.unit_lt_one.le
    have hms : (retryAfter * 1000 + 1 : Rat) ≤ (max 0 (laterMs - bucket.updatedAt) : Int) := by
      have hlonger : retryAfter * 1000 + 1 ≤ max 0 (laterMs - bucket.updatedAt) := by omega
      exact_mod_cast hlonger
    have helapsed : (0 : Rat) ≤ (max 0 (laterMs - bucket.updatedAt) : Int) :=
      Int.cast_nonneg (le_max_left _ _)
    have hbrought := mul_le_mul_of_nonneg_right hms hrate
    have hflow := arith.le_round (mul_nonneg helapsed hrate)
    have hmore : ((1 - bucket.tokens) * (1 - arith.unit) ^ 3 + arith.round limit.refillPerMs) *
        (1 - arith.unit) ≤ arith.round ((max 0 (laterMs - bucket.updatedAt) : Int) *
          arith.round limit.refillPerMs) := by
      refine le_trans (mul_le_mul_of_nonneg_right ?_ hkeeps) hflow
      linarith
    have hsum := arith.le_round (add_nonneg hnonneg
      (arith.round_nonneg (mul_nonneg helapsed hrate)))
    have hone := rounded_sum_ge arith.unit_nonneg hfine.unit_le hfine.unit_le_rate hnonneg hless
    refine le_trans (hone.trans (mul_le_mul_of_nonneg_right ?_ hkeeps)) hsum
    linarith

theorem execCall_redis_other {name : String}
    (hother : call.key env = name → call.runsScript = false) :
    (execCall arith env limits w call).redis name = w.redis name := by
  rw [execCall_redis]
  split
  · next hscript =>
    refine tokenBucket_ne fun hkey => ?_
    rw [hother hkey.symm] at hscript
    cases hscript
  · rfl

theorem run_redis_others (arith : Rounding) (limits : String → Limit) (w : World) {name : String}
    {others : List Call}
    (hothers : ∀ other ∈ others, other.key env = name → other.runsScript = false) :
    (run (execCall arith env limits) w others).redis name = w.redis name := by
  induction others generalizing w with
  | nil => rfl
  | cons other others ih =>
    have hrest : (run (execCall arith env limits) (execCall arith env limits w other) others).redis
        name = (execCall arith env limits w other).redis name :=
      ih _ fun later hlater => hothers later (List.mem_cons_of_mem _ hlater)
    exact hrest.trans (execCall_redis_other (hothers other List.mem_cons_self))

/-- Whoever waits for longer than the script says, by Redis's clock, is let through, if the
script has not run for them meanwhile. -/
theorem retry_suffices (arith : Rounding) (env : Env) (limits : String → Limit)
    (before others : List Call) (refused again : Call) (retryAfter : Int)
    (hfine : Fine arith (limits refused.scope)) (hlink : refused.link = .answered)
    (hrefused : (enforceRateLimit arith env limits (run (execCall arith env limits) {} before)
      refused).1 = .limited retryAfter)
    (hothers : ∀ other ∈ others, other.key env = refused.key env → other.runsScript = false)
    (hagain : again.link = .answered) (hscope : again.scope = refused.scope)
    (hhost : again.host = refused.host)
    (hwait : refused.redisMs + retryAfter * 1000 < again.redisMs) :
    (enforceRateLimit arith env limits
      (run (execCall arith env limits) {} (before ++ refused :: others)) again).1 = .passed := by
  have hkey : again.key env = refused.key env := by rw [Call.key, Call.key, hscope, hhost]
  have hruns : refused.runsScript = true := by simp [Call.runsScript, hlink]
  obtain ⟨hless, hretry⟩ := refused_by_script hlink hrefused
  have hsound := (Sound.start (limits refused.scope) (refused.key env)).run arith limits before
  have hrun : run (execCall arith env limits) {} (before ++ refused :: others) =
      run (execCall arith env limits)
        (execCall arith env limits (run (execCall arith env limits) {} before) refused) others :=
    List.foldl_append
  -- the bucket that the refusal has left is still there
  have hstored : (run (execCall arith env limits) {} (before ++ refused :: others)).redis
      (refused.key env) = some {
        tokens := refilled arith (limits refused.scope)
          ((run (execCall arith env limits) {} before).redis (refused.key env)) refused.redisMs
        updatedAt := refused.redisMs
        expiresAt := refused.redisMs + (limits refused.scope).windowMs * 2 } := by
    rw [hrun, run_redis_others arith limits _ hothers, execCall_redis, if_pos hruns,
      tokenBucket_stored, leftTokens, if_neg (not_le.mpr hless)]
  have htokens : 1 ≤ refilled arith (limits again.scope)
      ((run (execCall arith env limits) {} (before ++ refused :: others)).redis (again.key env))
      again.redisMs := by
    rw [hscope, hkey, hstored]
    exact refilled_enough hfine (refilled_nonneg hsound.redis) hless hretry hwait
  rw [enforce_answered arith env limits _ hagain, scriptDecision, if_pos htokens]
  rfl

end

def plainEnv : Env where
  sha256 _ := String.ofList (List.replicate 64 '0')
  sha256_length _ := by decide

/-- Five in a minute. -/
def registrations : Limit where
  capacity := 5
  windowSeconds := 60
  capacity_pos := Nat.succ_pos 4
  windowSeconds_pos := Nat.succ_pos 59

/-- A registration by the same source at so many milliseconds. -/
def register (link : Link) (redisMs : Int) : Call where
  process := 0
  scope := "register"
  host := some "203.0.113.10"
  link
  redisMs
  now := redisMs / 1000

theorem register_retried :
    (enforceRateLimit .binary64 plainEnv (fun _ => registrations)
      (run (execCall .binary64 plainEnv fun _ => registrations) {}
        (List.replicate 5 (register .answered 0) ++
          [register .answered 2000, register .failed 3000]))
      (register .answered 12001)).1 = .passed :=
  retry_suffices .binary64 plainEnv (fun _ => registrations)
    (List.replicate 5 (register .answered 0)) [register .failed 3000] (register .answered 2000)
    (register .answered 12001) 10 (fine_binary64 (by decide)) rfl (by decide +kernel) (by decide)
    rfl rfl rfl (by decide)

/-- A millisecond earlier, what is there is less than a token by a rounding error. -/
theorem register_refused_again :
    (enforceRateLimit .binary64 plainEnv (fun _ => registrations)
      (run (execCall .binary64 plainEnv fun _ => registrations) {}
        (List.replicate 5 (register .answered 0) ++
          [register .answered 2000, register .failed 3000]))
      (register .answered 12000)).1 = .limited 1 := by
  decide +kernel

end Breero.RateLimits
