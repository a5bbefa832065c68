import Breero.RateLimits.Service

/-!
How many requests of a key are allowed, and when a refused one is allowed again.

* `allowed_eq_granted` counts the allowed requests as those of one token bucket;
* `allowed_after_wait` is a request that waits as long as it was told to;
* `requests_bounded` is a run of requests of any keys.
-/

namespace Breero.RateLimits
open TokenBuckets

/-- The allowed requests of the key in a closed interval. -/
def allowedWithin (key : String) (first last : Rat) (outcomes : List Outcome) : Nat :=
  outcomes.countP fun outcome =>
    outcome.request.key = key && outcome.decision.1 &&
      first ≤ outcome.request.now && outcome.request.now ≤ last

/-- The times of the requests of the key that are not refused for a full table. -/
def servedTimes (key : String) (outcomes : List Outcome) : List Rat :=
  (outcomes.filter fun outcome => outcome.request.key = key && !outcome.full).map
    (·.request.now)

section
variable {maxKeys : Nat} {limits : String → Limit} {buckets : LocalBuckets} {key : String}
  {limit : Limit} {now later first last : Rat} {request : Request}
  {requests others : List Request} {bucket : Bucket Rat}

theorem decision_allowed {tokens : Rat} : (decision limit tokens).1 = true ↔ 1 ≤ tokens := by
  unfold decision
  split <;> simp_all

theorem outcome_served (hroom : tableFull maxKeys buckets request.key request.now = false) :
    (outcome maxKeys limits buckets request).decision = decision (limits request.key)
      (buckets.tokens (limits request.key) request.key request.now) := by
  rw [outcome, consume_served hroom]

theorem outcome_full (hfull : tableFull maxKeys buckets request.key request.now = true) :
    (outcome maxKeys limits buckets request).decision.1 = false := by
  rw [outcome, consume_full hfull]

/-! ## The bound -/

theorem servedTimes_sublist (key : String) (buckets : LocalBuckets) (requests : List Request) :
    (servedTimes key (serve maxKeys limits buckets requests)).Sublist
      (requests.map (·.now)) := by
  have hrequests : ∀ buckets : LocalBuckets,
      (serve maxKeys limits buckets requests).map (·.request) = requests := by
    induction requests with
    | nil => exact fun _ => rfl
    | cons request requests ih =>
      intro buckets
      rw [serve, List.map_cons, ih]
      rfl
  have hsub := (List.filter_sublist (p := fun outcome : Outcome =>
    outcome.request.key = key && !outcome.full)
    (l := serve maxKeys limits buckets requests)).map (·.request.now)
  have htimes : (serve maxKeys limits buckets requests).map (·.request.now) =
      requests.map (·.now) := by
    conv_rhs => rw [← hrequests buckets, List.map_map]
    rfl
  exact htimes ▸ hsub

/-- The allowed requests of a key are those that its bucket has a token for. -/
theorem allowed_eq_granted (hnonneg : 0 ≤ bucket.tokens)
    (hbucket : ∀ later, now ≤ later →
      buckets.tokens (limits key) key later = level (limits key).flow bucket later)
    (hsorted : (now :: requests.map (·.now)).Pairwise (· ≤ ·)) :
    allowedWithin key first last (serve maxKeys limits buckets requests) =
      granted (limits key).flow first last bucket
        (servedTimes key (serve maxKeys limits buckets requests)) := by
  induction requests generalizing buckets bucket now with
  | nil => rfl
  | cons request requests ih =>
    obtain ⟨hnow, hrest⟩ := List.pairwise_cons.mp hsorted
    have hle : now ≤ request.now := hnow _ List.mem_cons_self
    have hlevel := hbucket request.now hle
    by_cases hkey : request.key = key
    · subst hkey
      cases hfull : tableFull maxKeys buckets request.key request.now with
      | true =>
        have hbucket' : ∀ later, request.now ≤ later →
            (exec maxKeys limits buckets request).tokens (limits request.key) request.key later =
              level (limits request.key).flow bucket later := fun later hlater =>
          (tokens_full hfull hlater).trans (hbucket later (hle.trans hlater))
        have hkept := ih hnonneg hbucket' hrest
        have hrefused : (outcome maxKeys limits buckets request).decision.1 = false :=
          outcome_full hfull
        have hout : (outcome maxKeys limits buckets request).full = true := hfull
        simp only [allowedWithin, servedTimes, serve, List.countP_cons, List.filter_cons,
          hrefused, hout] at hkept ⊢
        simpa using hkept
      | false =>
        have htaken : take (limits request.key).flow bucket request.now =
            spent (buckets.tokens (limits request.key) request.key request.now) request.now := by
          rw [hlevel, spent_level]
        have hbucket' : ∀ later, request.now ≤ later →
            (exec maxKeys limits buckets request).tokens (limits request.key) request.key later =
              level (limits request.key).flow
                (take (limits request.key).flow bucket request.now) later := by
          intro later hlater
          rw [htaken]
          exact tokens_served hfull (hlevel ▸ level_nonneg hnonneg)
        have hkept := ih (take_tokens_nonneg hnonneg) hbucket' hrest
        have hout : (outcome maxKeys limits buckets request).full = false := hfull
        have hrequest : (outcome maxKeys limits buckets request).request = request := rfl
        have hallowed : (outcome maxKeys limits buckets request).decision.1 =
            decide (1 ≤ level (limits request.key).flow bucket request.now) := by
          rw [outcome_served hfull, hlevel, Bool.eq_iff_iff, decision_allowed, decide_eq_true_eq]
        simp only [allowedWithin, servedTimes, serve, List.countP_cons, List.filter_cons,
          hrequest, hout, hallowed] at hkept ⊢
        simp only [Bool.not_false, Bool.and_true, decide_true, if_true, List.map_cons, granted,
          hrequest, ← hkept, taken]
        rw [Nat.add_comm]
        by_cases hone : 1 ≤ level (limits request.key).flow bucket request.now <;> simp [hone]
    · have hbucket' : ∀ later, request.now ≤ later →
          (exec maxKeys limits buckets request).tokens (limits key) key later =
            level (limits key).flow bucket later := fun later hlater =>
        (tokens_others (Ne.symm hkey) hlater).trans (hbucket later (hle.trans hlater))
      have hkept := ih hnonneg hbucket' hrest
      have hrequest : (outcome maxKeys limits buckets request).request = request := rfl
      simp only [allowedWithin, servedTimes, serve, List.countP_cons, List.filter_cons, hrequest,
        hkey] at hkept ⊢
      simpa using hkept

/-! ## Waiting -/

theorem tokens_run_others (hothers : ∀ other ∈ others, other.key ≠ key)
    (htimes : ∀ other ∈ others, other.now ≤ later) :
    (Runs.run (exec maxKeys limits) buckets others).tokens limit key later =
      buckets.tokens limit key later := by
  induction others generalizing buckets with
  | nil => rfl
  | cons other others ih =>
    have hrest : (Runs.run (exec maxKeys limits) (exec maxKeys limits buckets other)
        others).tokens limit key later =
          (exec maxKeys limits buckets other).tokens limit key later :=
      ih (fun o ho => hothers o (List.mem_cons_of_mem _ ho))
        (fun o ho => htimes o (List.mem_cons_of_mem _ ho))
    exact hrest.trans (tokens_others (hothers other List.mem_cons_self).symm
      (htimes other List.mem_cons_self))

theorem tokens_start (limit : Limit) (key : String) (now later : Rat) :
    LocalBuckets.tokens limit ∅ key later =
      level limit.flow ⟨limit.capacity, now⟩ later := by
  rw [tokens_of_none (AList.lookup_empty _)]
  have hfull : level limit.flow ⟨limit.capacity, now⟩ later = limit.capacity := level_full rfl
  exact hfull.symm

/-- No bucket holds less than nothing. -/
def Stocked (buckets : LocalBuckets) : Prop :=
  ∀ name, ∀ bucket ∈ buckets.lookup name, 0 ≤ bucket.tokens

theorem Stocked.tokens_nonneg (h : Stocked buckets) : 0 ≤ buckets.tokens limit key now := by
  unfold LocalBuckets.tokens
  cases hfound : buckets.lookup key with
  | none => exact Nat.cast_nonneg _
  | some bucket =>
    dsimp only
    split
    · exact Nat.cast_nonneg _
    · have hlevel : 0 ≤ level limit.flow ⟨bucket.tokens, bucket.updatedAt⟩ now :=
        level_nonneg (h key bucket hfound)
      exact hlevel

theorem stocked_empty : Stocked ∅ := by
  intro name bucket hbucket
  rw [AList.lookup_empty] at hbucket
  cases hbucket

theorem Stocked.exec (h : Stocked buckets) (request : Request) :
    Stocked (exec maxKeys limits buckets request) := by
  have hreclaimed : Stocked (reclaimed maxKeys buckets request.key request.now) := by
    intro name bucket hbucket
    rcases lookup_reclaimed maxKeys buckets request.key name request.now with hstays | ⟨hnone, -⟩
    · exact h name bucket (hstays ▸ hbucket)
    · rw [hnone] at hbucket
      cases hbucket
  intro name bucket hbucket
  unfold RateLimits.exec at hbucket
  cases hfull : tableFull maxKeys buckets request.key request.now with
  | true =>
    rw [consume_full hfull] at hbucket
    exact hreclaimed name bucket hbucket
  | false =>
    rw [consume_served hfull] at hbucket
    by_cases hname : name = request.key
    · subst hname
      rw [AList.lookup_insert] at hbucket
      cases hbucket
      have hspent : 0 ≤ (spent (buckets.tokens (limits request.key) request.key request.now)
          request.now).tokens := spent_nonneg h.tokens_nonneg
      exact hspent
    · rw [AList.lookup_insert_ne hname] at hbucket
      exact hreclaimed name bucket hbucket

theorem Stocked.run (h : Stocked buckets) (requests : List Request) :
    Stocked (Runs.run (RateLimits.exec maxKeys limits) buckets requests) := by
  induction requests generalizing buckets with
  | nil => exact h
  | cons request requests ih => exact ih (h.exec request)

/-- A refused request whose key sends nothing for as long as it was told to wait. -/
theorem allowed_after_wait (hroom : tableFull maxKeys buckets key now = false)
    (hnonneg : 0 ≤ buckets.tokens limit key now)
    (hrefused : (decision limit (buckets.tokens limit key now)).1 = false)
    (hwait : now + (decision limit (buckets.tokens limit key now)).2 ≤ later) :
    1 ≤ (consumeLocalBucket maxKeys buckets key limit now).2.tokens limit key later := by
  rw [tokens_served hroom hnonneg]
  generalize buckets.tokens limit key now = tokens at hrefused hwait
  have hless : ¬ 1 ≤ tokens := fun h => by
    rw [decision_allowed.mpr h] at hrefused
    cases hrefused
  simp only [decision, if_neg hless, Int.cast_max] at hwait
  have hceil : (1 - tokens) / limit.refillPerSecond ≤ later - now := by
    have hle := Int.le_ceil ((1 - tokens) / limit.refillPerSecond)
    have hmax := le_max_right ((1 : Int) : Rat) (⌈(1 - tokens) / limit.refillPerSecond⌉ : Rat)
    linarith
  refine one_le_level limit.one_le_capacity ?_
  simp only [spent, if_neg hless]
  exact (div_le_iff₀ limit.rate_pos).mp hceil

/-- What a key is allowed in a closed interval: its capacity and what refills in that time. -/
theorem allowed_le (maxKeys : Nat) (limits : String → Limit) (key : String)
    {requests : List Request} (hsorted : (requests.map (·.now)).Pairwise (· ≤ ·))
    {first last : Rat} (hfirst : first ≤ last) :
    (allowedWithin key first last (serve maxKeys limits ∅ requests) : Rat) ≤
      (limits key).capacity * (1 + (last - first) / (limits key).windowSeconds) := by
  have hrate : ((limits key).flow.capacity + (last - first) * (limits key).flow.rate : Rat) =
      (limits key).capacity * (1 + (last - first) / (limits key).windowSeconds) := by
    change ((limits key).capacity : Rat) +
      (last - first) * ((limits key).capacity / (limits key).windowSeconds) = _
    ring
  rw [← hrate]
  cases requests with
  | nil =>
    have hbound : (granted (limits key).flow first last ⟨0, 0⟩ [] : Rat) ≤
        (limits key).flow.capacity + (last - first) * (limits key).flow.rate :=
      granted_le le_rfl (by simp) hfirst
    exact hbound
  | cons request requests =>
    have hfrom := sorted_from_first hsorted
    -- a full bucket stands for the bucket that the first request of the key creates
    have hstart : ∀ later, request.now ≤ later →
        LocalBuckets.tokens (limits key) ∅ key later =
          level (limits key).flow ⟨(limits key).capacity, request.now⟩ later :=
      fun later _ => tokens_start (limits key) key request.now later
    rw [allowed_eq_granted (Nat.cast_nonneg _) hstart hfrom]
    refine granted_le (Nat.cast_nonneg _) ?_ hfirst
    exact hfrom.sublist ((servedTimes_sublist key ∅ (request :: requests)).cons_cons _)

/-- A refused request that waits as long as it is told, with requests of other keys only in
between, is allowed then. -/
theorem allowed_again {before others : List Request} {refused again : Request}
    (hkey : again.key = refused.key) (hothers : ∀ other ∈ others, other.key ≠ refused.key)
    (htimes : ∀ other ∈ others, other.now ≤ again.now) :
    let buckets := Runs.run (exec maxKeys limits) ∅ before
    let buckets' := Runs.run (exec maxKeys limits) buckets (refused :: others)
    tableFull maxKeys buckets refused.key refused.now = false →
    tableFull maxKeys buckets' again.key again.now = false →
    (outcome maxKeys limits buckets refused).decision.1 = false →
    refused.now + (outcome maxKeys limits buckets refused).decision.2 ≤ again.now →
    (outcome maxKeys limits buckets' again).decision = (true, 0) := by
  intro buckets buckets' hroom hroom' hrefused hwait
  have hstocked : Stocked buckets := Stocked.run stocked_empty before
  rw [outcome_served hroom] at hrefused hwait
  have hone := allowed_after_wait hroom hstocked.tokens_nonneg hrefused hwait
  have hkept : buckets'.tokens (limits refused.key) refused.key again.now =
      (exec maxKeys limits buckets refused).tokens (limits refused.key) refused.key
        again.now := tokens_run_others hothers htimes
  rw [outcome_served hroom', hkey, hkept]
  exact if_pos hone

end

/-- **The local rate limiter.** The requests of a key that are allowed in a closed interval are no
more than the capacity and what refills in that time, whatever other keys send; and where the key
is never refused for a full table, a refused request that waits as long as it is told, with
nothing sent for its key meanwhile, is allowed. -/
theorem requests_bounded (maxKeys : Nat) (limits : String → Limit) (key : String)
    (requests : List Request) (hsorted : (requests.map (·.now)).Pairwise (· ≤ ·)) :
    (∀ first last, first ≤ last →
      (allowedWithin key first last (serve maxKeys limits ∅ requests) : Rat) ≤
        (limits key).capacity * (1 + (last - first) / (limits key).windowSeconds)) ∧
    ((∀ outcome ∈ serve maxKeys limits ∅ requests,
        outcome.request.key = key → outcome.full = false) →
      ∀ before refused others again rest,
        requests = before ++ refused :: (others ++ again :: rest) →
        refused.key = key → again.key = key → (∀ other ∈ others, other.key ≠ key) →
        let buckets := Runs.run (exec maxKeys limits) ∅ before
        let buckets' := Runs.run (exec maxKeys limits) buckets (refused :: others)
        (outcome maxKeys limits buckets refused).decision.1 = false →
        refused.now + (outcome maxKeys limits buckets refused).decision.2 ≤ again.now →
        (outcome maxKeys limits buckets' again).decision = (true, 0)) := by
  refine ⟨fun first last hfirst => allowed_le maxKeys limits key hsorted hfirst, ?_⟩
  rintro hserved before refused others again rest rfl rfl hagain hothers buckets buckets'
    hrefused hwait
  rw [serve_append] at hserved
  have hroom : tableFull maxKeys buckets refused.key refused.now = false :=
    hserved (outcome maxKeys limits buckets refused)
      (List.mem_append_right _ List.mem_cons_self) rfl
  have hroom' : tableFull maxKeys buckets' again.key again.now = false := by
    refine hserved (outcome maxKeys limits buckets' again) ?_ hagain
    rw [serve, serve_append]
    exact List.mem_append_right _ (List.mem_cons_of_mem _
      (List.mem_append_right _ List.mem_cons_self))
  have htimes : ∀ other ∈ others, other.now ≤ again.now := by
    rw [List.map_append, List.map_cons, List.map_append, List.map_cons] at hsorted
    have hlater := (List.pairwise_cons.mp (List.pairwise_append.mp hsorted).2.1).2
    exact fun other hmem => (List.pairwise_append.mp hlater).2.2 other.now
      (List.mem_map_of_mem hmem) again.now List.mem_cons_self
  exact allowed_again hagain hothers htimes hroom hroom' hrefused hwait

/-- The second request comes too early, and the last one as late as it is told. -/
def repeatedRequests : List Request := [⟨"a", 0⟩, ⟨"a", 1⟩, ⟨"b", 30⟩, ⟨"a", 60⟩]

theorem repeatedRequests_bounded :
    (allowedWithin "a" 0 60 (serve 1024 (fun _ => oneAMinute) ∅ repeatedRequests) : Rat) ≤
        1 * (1 + (60 - 0) / 60) ∧
      (outcome 1024 (fun _ => oneAMinute)
        (Runs.run (exec 1024 fun _ => oneAMinute) ∅ [⟨"a", 0⟩, ⟨"a", 1⟩, ⟨"b", 30⟩])
        ⟨"a", 60⟩).decision = (true, 0) := by
  have hboth := requests_bounded 1024 (fun _ => oneAMinute) "a" repeatedRequests (by decide)
  refine ⟨by simpa [oneAMinute] using hboth.1 0 60 (by norm_num), ?_⟩
  refine hboth.2 (by decide +kernel) [⟨"a", 0⟩] ⟨"a", 1⟩ [⟨"b", 30⟩] ⟨"a", 60⟩ [] rfl rfl rfl
    (by decide) (by decide +kernel) (by decide +kernel)

end Breero.RateLimits
