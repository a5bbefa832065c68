import Mathlib.Algebra.Order.Field.Basic
import Mathlib.Tactic.Linarith
import Mathlib.Tactic.Ring

/-!
Token buckets over an ordered field: a bucket of some capacity fills at a constant rate, and a
request takes one token if there is one.

* `level` is what a bucket holds at a later time, `stock` what is found where it may be missing;
* `level_idle` says that a bucket is full after it has been left alone for long enough,
  `one_le_level` that it has a token again, `level_moved` what the clock does to it;
* `granted` counts the requests of a run that find a token in an interval, and
  `granted_le` bounds them by the capacity and what flows in.
-/

namespace TokenBuckets

variable {K : Type} [Field K] [LinearOrder K] [IsStrictOrderedRing K]

/-- What is in the bucket at the time of its last request. -/
structure Bucket (K : Type) where
  tokens : K
  updatedAt : K
  deriving DecidableEq, Repr

/-- How much fits in, and how much flows in for each unit of time. -/
structure Flow (K : Type) [Field K] [LinearOrder K] where
  capacity : K
  rate : K
  capacity_nonneg : 0 ≤ capacity
  rate_nonneg : 0 ≤ rate

variable (flow : Flow K)

def level (bucket : Bucket K) (now : K) : K :=
  min flow.capacity (bucket.tokens + max 0 (now - bucket.updatedAt) * flow.rate)

/-- What a request at `now` takes: a token, if there is one. -/
def taken (bucket : Bucket K) (now : K) : Nat := if 1 ≤ level flow bucket now then 1 else 0

def take (bucket : Bucket K) (now : K) : Bucket K where
  tokens := level flow bucket now - taken flow bucket now
  updatedAt := now

/-- The requests between `first` and `last` that find a token. -/
def granted (first last : K) (bucket : Bucket K) : List K → Nat
  | [] => 0
  | now :: later =>
    (if first ≤ now ∧ now ≤ last then taken flow bucket now else 0) +
      granted first last (take flow bucket now) later

variable {flow} {bucket : Bucket K} {now first last : K}

omit [IsStrictOrderedRing K] in
theorem level_le_capacity : level flow bucket now ≤ flow.capacity := min_le_left _ _

theorem level_le (h : bucket.updatedAt ≤ now) :
    level flow bucket now ≤ bucket.tokens + (now - bucket.updatedAt) * flow.rate := by
  unfold level
  rw [max_eq_right (sub_nonneg.mpr h)]
  exact min_le_right _ _

theorem level_nonneg (h : 0 ≤ bucket.tokens) : 0 ≤ level flow bucket now := by
  have hflow : 0 ≤ max 0 (now - bucket.updatedAt) * flow.rate :=
    mul_nonneg (le_max_left _ _) flow.rate_nonneg
  exact le_min flow.capacity_nonneg (by linarith)

/-- A bucket that is left alone until a full capacity has flowed in is full. -/
theorem level_idle (h : 0 ≤ bucket.tokens)
    (hidle : flow.capacity ≤ (now - bucket.updatedAt) * flow.rate) :
    level flow bucket now = flow.capacity := by
  have hmax : (now - bucket.updatedAt) * flow.rate ≤
      max 0 (now - bucket.updatedAt) * flow.rate :=
    mul_le_mul_of_nonneg_right (le_max_right _ _) flow.rate_nonneg
  exact min_eq_left (by linarith)

/-- Two windows, each of which lets a full capacity flow in, are long enough. -/
theorem level_windows {window : K} (h : 0 ≤ bucket.tokens)
    (hwindow : window * flow.rate = flow.capacity)
    (hidle : window * 2 ≤ now - bucket.updatedAt) : level flow bucket now = flow.capacity := by
  have hflow := mul_le_mul_of_nonneg_right hidle flow.rate_nonneg
  have hcapacity := flow.capacity_nonneg
  exact level_idle h (by linarith)

theorem level_full (h : bucket.tokens = flow.capacity) : level flow bucket now = flow.capacity := by
  have hflow : 0 ≤ max 0 (now - bucket.updatedAt) * flow.rate :=
    mul_nonneg (le_max_left _ _) flow.rate_nonneg
  exact min_eq_left (by linarith)

/-- What is missing has flowed in. -/
theorem one_le_level (hcapacity : 1 ≤ flow.capacity)
    (hwait : 1 - bucket.tokens ≤ (now - bucket.updatedAt) * flow.rate) :
    1 ≤ level flow bucket now := by
  have hmax : (now - bucket.updatedAt) * flow.rate ≤
      max 0 (now - bucket.updatedAt) * flow.rate :=
    mul_le_mul_of_nonneg_right (le_max_right _ _) flow.rate_nonneg
  exact le_min hcapacity (by linarith)

theorem taken_le_level (h : 0 ≤ bucket.tokens) :
    (taken flow bucket now : K) ≤ level flow bucket now := by
  unfold taken
  split
  · next hone => rwa [Nat.cast_one]
  · rw [Nat.cast_zero]
    exact level_nonneg h

theorem take_tokens_le : (take flow bucket now).tokens ≤ level flow bucket now :=
  sub_le_self _ (Nat.cast_nonneg _)

theorem take_tokens_nonneg (h : 0 ≤ bucket.tokens) : 0 ≤ (take flow bucket now).tokens :=
  sub_nonneg.mpr (taken_le_level h)

/-- A clock that moves on lets in what flows while it does, one that moves back nothing. -/
theorem level_moved (now' : K) :
    level flow bucket now' ≤ level flow bucket now + max 0 (now' - now) * flow.rate := by
  have hmoved : max 0 (now' - bucket.updatedAt) ≤
      max 0 (now - bucket.updatedAt) + max 0 (now' - now) := by
    refine max_le (add_nonneg (le_max_left _ _) (le_max_left _ _)) ?_
    have hbefore := le_max_right 0 (now - bucket.updatedAt)
    have hafter := le_max_right 0 (now' - now)
    linarith
  have hflow := mul_le_mul_of_nonneg_right hmoved flow.rate_nonneg
  have hnonneg : 0 ≤ max 0 (now' - now) * flow.rate :=
    mul_nonneg (le_max_left _ _) flow.rate_nonneg
  unfold level
  rw [← min_add_add_right]
  exact min_le_min (by linarith) (by linarith)

/-! ## Stored buckets -/

/-- What is found for a stored bucket; one that is not there is full. -/
def stock (flow : Flow K) (stored : Option (Bucket K)) (now : K) : K :=
  stored.elim flow.capacity (level flow · now)

theorem stock_nonneg {stored : Option (Bucket K)} (h : ∀ bucket ∈ stored, 0 ≤ bucket.tokens) :
    0 ≤ stock flow stored now := by
  cases stored with
  | none => exact flow.capacity_nonneg
  | some bucket => exact level_nonneg (h bucket rfl)

omit [IsStrictOrderedRing K] in
theorem stock_le_capacity {stored : Option (Bucket K)} :
    stock flow stored now ≤ flow.capacity := by
  cases stored with
  | none => exact le_rfl
  | some bucket => exact level_le_capacity

theorem stock_moved {stored : Option (Bucket K)} (now' : K) :
    stock flow stored now' ≤ stock flow stored now + max 0 (now' - now) * flow.rate := by
  cases stored with
  | none =>
    have hnonneg : 0 ≤ max 0 (now' - now) * flow.rate :=
      mul_nonneg (le_max_left _ _) flow.rate_nonneg
    exact le_add_of_nonneg_right hnonneg
  | some bucket => exact level_moved now'

/-! ## The bound -/

/-- What the bucket can give out from `first` to `last`: what it holds at the later of `first`
and its last request, and what flows in from then on. -/
def allowance (flow : Flow K) (first last : K) (bucket : Bucket K) : K :=
  level flow bucket (max first bucket.updatedAt) +
    (last - max first bucket.updatedAt) * flow.rate

theorem allowance_nonneg (h : 0 ≤ bucket.tokens) (hfirst : first ≤ last)
    (hlast : bucket.updatedAt ≤ last) : 0 ≤ allowance flow first last bucket := by
  have hflow : 0 ≤ (last - max first bucket.updatedAt) * flow.rate :=
    mul_nonneg (sub_nonneg.mpr (max_le hfirst hlast)) flow.rate_nonneg
  have hlevel : 0 ≤ level flow bucket (max first bucket.updatedAt) := level_nonneg h
  unfold allowance
  linarith

theorem allowance_le (flow : Flow K) (first last : K) (bucket : Bucket K) :
    allowance flow first last bucket ≤ flow.capacity + (last - first) * flow.rate := by
  have hflow : (last - max first bucket.updatedAt) * flow.rate ≤ (last - first) * flow.rate :=
    mul_le_mul_of_nonneg_right (sub_le_sub_left (le_max_left _ _) _) flow.rate_nonneg
  have hlevel : level flow bucket (max first bucket.updatedAt) ≤ flow.capacity :=
    level_le_capacity
  unfold allowance
  linarith

/-- No more flows in up to a later time than the rate says. -/
theorem level_later {now' : K} (hnow : bucket.updatedAt ≤ now) (hlater : now ≤ now') :
    level flow bucket now' ≤ level flow bucket now + (now' - now) * flow.rate := by
  have hflow : 0 ≤ (now' - now) * flow.rate :=
    mul_nonneg (sub_nonneg.mpr hlater) flow.rate_nonneg
  unfold level
  rw [max_eq_right (sub_nonneg.mpr hnow), max_eq_right (sub_nonneg.mpr (hnow.trans hlater)),
    ← min_add_add_right]
  refine min_le_min (by linarith) (le_of_eq ?_)
  ring

/-- A request before the interval leaves the allowance as it was, or lowers it. -/
theorem allowance_take_before (hnow : bucket.updatedAt ≤ now) (hbefore : now < first) :
    allowance flow first last (take flow bucket now) ≤ allowance flow first last bucket := by
  have hfirst : max first bucket.updatedAt = first := max_eq_left (hnow.trans hbefore.le)
  have htake : max first (take flow bucket now).updatedAt = first := max_eq_left hbefore.le
  unfold allowance
  rw [hfirst, htake]
  have htokens : (take flow bucket now).tokens ≤ level flow bucket now := take_tokens_le
  have hlevel : level flow bucket now ≤
      bucket.tokens + (now - bucket.updatedAt) * flow.rate := level_le hnow
  have hle : level flow (take flow bucket now) first ≤ level flow bucket first := by
    refine le_min level_le_capacity ?_
    rw [max_eq_right (sub_nonneg.mpr (hnow.trans hbefore.le))]
    have hstep : level flow (take flow bucket now) first ≤
        (take flow bucket now).tokens + (first - now) * flow.rate := level_le hbefore.le
    have hsplit : (first - bucket.updatedAt) * flow.rate =
        (first - now) * flow.rate + (now - bucket.updatedAt) * flow.rate := by ring
    linarith
  linarith

/-- A request in the interval is paid for by the allowance. -/
theorem allowance_take_within (hnow : bucket.updatedAt ≤ now) (hfirst : first ≤ now) :
    (taken flow bucket now : K) + allowance flow first last (take flow bucket now) ≤
      allowance flow first last bucket := by
  have hmax : max first bucket.updatedAt ≤ now := max_le hfirst hnow
  have hlater : level flow bucket now ≤ level flow bucket (max first bucket.updatedAt) +
      (now - max first bucket.updatedAt) * flow.rate := level_later (le_max_right _ _) hmax
  have htake : max first (take flow bucket now).updatedAt = now := max_eq_right hfirst
  have hself : level flow (take flow bucket now) now ≤ (take flow bucket now).tokens +
      (now - (take flow bucket now).updatedAt) * flow.rate := level_le le_rfl
  have hzero : now - (take flow bucket now).updatedAt = 0 := sub_self now
  have htokens : (take flow bucket now).tokens =
      level flow bucket now - taken flow bucket now := rfl
  have hsplit : (last - max first bucket.updatedAt) * flow.rate =
      (last - now) * flow.rate + (now - max first bucket.updatedAt) * flow.rate := by ring
  rw [hzero, zero_mul, add_zero, htokens] at hself
  unfold allowance
  rw [htake, hsplit]
  linarith

omit [IsStrictOrderedRing K] in
theorem granted_late {times : List K} (h : ∀ now ∈ times, last < now) :
    granted flow first last bucket times = 0 := by
  induction times generalizing bucket with
  | nil => rfl
  | cons now later ih =>
    have hlate := h now List.mem_cons_self
    rw [granted, if_neg fun hin => not_le.mpr hlate hin.2,
      ih fun t ht => h t (List.mem_cons_of_mem _ ht)]

/-- The requests that find a token in an interval are no more than the allowance. -/
theorem granted_le_allowance {times : List K} (h : 0 ≤ bucket.tokens)
    (hsorted : (bucket.updatedAt :: times).Pairwise (· ≤ ·)) (hfirst : first ≤ last)
    (hlast : bucket.updatedAt ≤ last) :
    (granted flow first last bucket times : K) ≤ allowance flow first last bucket := by
  induction times generalizing bucket with
  | nil =>
    rw [granted, Nat.cast_zero]
    exact allowance_nonneg h hfirst hlast
  | cons now later ih =>
    obtain ⟨hnow, hrest⟩ := List.pairwise_cons.mp hsorted
    have hupdated : bucket.updatedAt ≤ now := hnow now List.mem_cons_self
    by_cases hlate : last < now
    · have hall : ∀ t ∈ now :: later, last < t := by
        intro t ht
        rcases List.mem_cons.mp ht with rfl | ht
        · exact hlate
        · exact hlate.trans_le ((List.pairwise_cons.mp hrest).1 t ht)
      rw [granted_late hall, Nat.cast_zero]
      exact allowance_nonneg h hfirst hlast
    · have hin : now ≤ last := not_lt.mp hlate
      have hle : (granted flow first last (take flow bucket now) later : K) ≤
          allowance flow first last (take flow bucket now) := ih (take_tokens_nonneg h) hrest hin
      rw [granted, Nat.cast_add]
      by_cases hbefore : first ≤ now
      · have hpaid : (taken flow bucket now : K) +
            allowance flow first last (take flow bucket now) ≤
              allowance flow first last bucket := allowance_take_within hupdated hbefore
        rw [if_pos ⟨hbefore, hin⟩]
        linarith
      · have hkept : allowance flow first last (take flow bucket now) ≤
            allowance flow first last bucket := allowance_take_before hupdated (not_le.mp hbefore)
        rw [if_neg fun hboth => hbefore hboth.1, Nat.cast_zero, zero_add]
        exact hle.trans hkept

theorem granted_le {times : List K} (h : 0 ≤ bucket.tokens)
    (hsorted : (bucket.updatedAt :: times).Pairwise (· ≤ ·)) (hfirst : first ≤ last) :
    (granted flow first last bucket times : K) ≤ flow.capacity + (last - first) * flow.rate := by
  by_cases hlast : bucket.updatedAt ≤ last
  · exact (granted_le_allowance h hsorted hfirst hlast).trans (allowance_le flow first last bucket)
  · have hall : ∀ t ∈ times, last < t := by
      intro t ht
      exact (not_le.mp hlast).trans_le ((List.pairwise_cons.mp hsorted).1 t ht)
    rw [granted_late hall, Nat.cast_zero]
    have hflow := mul_nonneg (sub_nonneg.mpr hfirst) flow.rate_nonneg
    have hcapacity := flow.capacity_nonneg
    linarith

end TokenBuckets
